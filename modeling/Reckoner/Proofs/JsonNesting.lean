import Reckoner.Json.Reader

/-!
# How deep a document goes

A reader that may go in by a number of levels gives documents that go no deeper (`NestsWithin`). The
three functions that read values, items and fields call each other with one step less each time, so
this is shown of all three together, by induction on the steps that are left.
-/

namespace Reckoner.Json

/-- No more than the given number of arrays and objects lie around any part of the document. -/
def NestsWithin : Nat → Json → Prop
  | 0, .array items => items = []
  | 0, .object fields => fields = []
  | levels + 1, .array items => ∀ item ∈ items, item.NestsWithin levels
  | levels + 1, .object fields => ∀ field ∈ fields, field.2.NestsWithin levels
  | _, _ => True

/-- A document without parts. -/
def IsScalar : Json → Prop
  | .array _ => False
  | .object _ => False
  | _ => True

theorem IsScalar.nestsWithin {doc : Json} (h : doc.IsScalar) (levels : Nat) :
    doc.NestsWithin levels := by
  cases doc with
  | array items => exact h.elim
  | object fields => exact h.elim
  | null | bool | integer | float | string | unpaired => cases levels <;> exact trivial

theorem nestsWithin_array_nil (levels : Nat) : (Json.array []).NestsWithin levels := by
  cases levels with
  | zero => rfl
  | succ levels => exact fun _ hitem => absurd hitem List.not_mem_nil

theorem nestsWithin_object_nil (levels : Nat) : (Json.object []).NestsWithin levels := by
  cases levels with
  | zero => rfl
  | succ levels => exact fun _ hfield => absurd hfield List.not_mem_nil

/-! ## Documents without parts -/

theorem isScalar_of_word? {s rest : List Char} {doc : Json} (h : word? s = some (doc, rest)) :
    doc.IsScalar := by
  have hwords : ∀ entry ∈ words, entry.2.IsScalar := by
    simp [words, IsScalar]
  obtain ⟨entry, hentry, hfound⟩ := List.exists_of_findSome?_eq_some h
  dsimp only at hfound
  split at hfound
  · cases hfound
    exact hwords entry hentry
  · cases hfound

theorem isScalar_of_number? {length : Length} {s rest : List Char} {doc : Json}
    (h : number? length s = .ok (doc, rest)) : doc.IsScalar := by
  have hunsigned : ∀ negative magnitude,
      unsignedNumber length s negative magnitude = .ok (doc, rest) → doc.IsScalar := by
    intro negative magnitude h
    unfold unsignedNumber at h
    dsimp only at h
    split at h
    · cases h
    · split at h
      · cases h
      · split at h <;> cases h <;> exact trivial
  unfold number? at h
  split at h
  · exact hunsigned _ _ h
  · exact hunsigned _ _ h

theorem isScalar_of_string? {lone : LoneHalf} {halves : Halves} {inside rest : List Char}
    {doc : Json}
    (h : ((string? lone halves inside).map fun (raw, rest) => (ofRaw raw, rest))
      = .ok (doc, rest)) : doc.IsScalar := by
  rcases hread : string? lone halves inside with stop | ⟨raw, rest'⟩
  · rw [hread] at h
    cases h
  · rw [hread] at h
    cases h
    cases raw <;> exact trivial

/-! ## Documents with parts -/

theorem mem_setField {name : Text.Raw} {value : Json} {fields : Fields}
    {field : Text.Raw × Json} (h : field ∈ setField name value fields) :
    field = (name, value) ∨ field ∈ fields := by
  induction fields with
  | nil => exact Or.inl (List.mem_singleton.mp h)
  | cons first fields ih =>
    rw [setField] at h
    split at h
    · rcases List.mem_cons.mp h with rfl | hmem
      · exact Or.inl rfl
      · exact Or.inr (List.mem_cons_of_mem _ hmem)
    · rcases List.mem_cons.mp h with rfl | hmem
      · exact Or.inr List.mem_cons_self
      · exact (ih hmem).imp_right (List.mem_cons_of_mem _)

/-- With so many steps left, whatever is read goes no deeper than it may. -/
structure ReadsWithin (rules : Rules) (halves : Halves) (steps : Nat) : Prop where
  value : ∀ {levels : Nat} {s rest : List Char} {doc : Json},
    value? rules halves steps levels s = .ok (doc, rest) → doc.NestsWithin levels
  items : ∀ {levels : Nat} {done : List Json} {s rest : List Char} {doc : Json},
    (∀ item ∈ done, item.NestsWithin levels) →
    items? rules halves steps levels done s = .ok (doc, rest) → doc.NestsWithin (levels + 1)
  fields : ∀ {levels : Nat} {done : Fields} {s rest : List Char} {doc : Json},
    (∀ field ∈ done, field.2.NestsWithin levels) →
    fields? rules halves steps levels done s = .ok (doc, rest) → doc.NestsWithin (levels + 1)

section Step

variable {rules : Rules} {halves : Halves} {steps levels : Nat} {s rest : List Char} {doc : Json}

theorem ReadsWithin.value_succ (ih : ReadsWithin rules halves steps)
    (h : value? rules halves (steps + 1) levels s = .ok (doc, rest)) : doc.NestsWithin levels := by
  rw [value?.eq_def] at h
  dsimp only at h
  split at h
  · exact (isScalar_of_string? h).nestsWithin levels
  · split at h
    · cases h
      exact nestsWithin_array_nil levels
    · split at h
      · cases h
      · next hlevels =>
        obtain ⟨inner, rfl⟩ := Nat.exists_eq_succ_of_ne_zero hlevels
        exact ih.items (fun _ hitem => absurd hitem List.not_mem_nil) h
  · split at h
    · cases h
      exact nestsWithin_object_nil levels
    · split at h
      · cases h
      · next hlevels =>
        obtain ⟨inner, rfl⟩ := Nat.exists_eq_succ_of_ne_zero hlevels
        exact ih.fields (fun _ hfield => absurd hfield List.not_mem_nil) h
  · split at h
    · next hword =>
      cases h
      exact (isScalar_of_word? hword).nestsWithin levels
    · exact (isScalar_of_number? h).nestsWithin levels

theorem ReadsWithin.items_succ {done : List Json} (ih : ReadsWithin rules halves steps)
    (hdone : ∀ item ∈ done, item.NestsWithin levels)
    (h : items? rules halves (steps + 1) levels done s = .ok (doc, rest)) :
    doc.NestsWithin (levels + 1) := by
  rw [items?] at h
  split at h
  · cases h
  · next item after hitem =>
    have hall : ∀ other ∈ item :: done, other.NestsWithin levels :=
      List.forall_mem_cons.mpr ⟨ih.value hitem, hdone⟩
    split at h
    · cases h
      exact fun other hother => hall other (List.mem_reverse.mp hother)
    · exact ih.items hall h
    · cases h

theorem ReadsWithin.fields_succ {done : Fields} (ih : ReadsWithin rules halves steps)
    (hdone : ∀ field ∈ done, field.2.NestsWithin levels)
    (h : fields? rules halves (steps + 1) levels done s = .ok (doc, rest)) :
    doc.NestsWithin (levels + 1) := by
  rw [fields?.eq_def] at h
  dsimp only at h
  split at h
  · split at h
    · cases h
    · next name _ _ =>
      split at h
      · split at h
        · cases h
        · next value _ hvalue =>
          have hall : ∀ field ∈ setField name value done, field.2.NestsWithin levels := by
            intro field hfield
            rcases mem_setField hfield with rfl | hold
            · exact ih.value hvalue
            · exact hdone field hold
          split at h
          · cases h
            exact hall
          · exact ih.fields hall h
          · cases h
      · cases h
  · cases h

end Step

/-- **No reader goes deeper than it may.** -/
theorem readsWithin (rules : Rules) (halves : Halves) (steps : Nat) :
    ReadsWithin rules halves steps := by
  induction steps with
  | zero =>
    refine ⟨fun h => ?_, fun _ h => ?_, fun _ h => ?_⟩
    · rw [value?] at h
      cases h
    · rw [items?] at h
      cases h
    · rw [fields?] at h
      cases h
  | succ steps ih => exact ⟨ih.value_succ, ih.items_succ, ih.fields_succ⟩

theorem nestsWithin_of_ofPoints {rules : Rules} {points : List Text.CodePoint} {doc : Json}
    (h : ofPoints rules points = .ok doc) : doc.NestsWithin rules.maxNesting := by
  rw [ofPoints] at h
  split at h
  · cases h
  · next value after hvalue =>
    split at h
    · cases h
      exact (readsWithin rules _ _).value hvalue
    · cases h

end Reckoner.Json
