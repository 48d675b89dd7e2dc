import Reckoner.Document
import Reckoner.Proofs.JsonNesting

/-!
# What documents are read to

Two questions about the readers of `Reckoner.Document` are answered here. The first is what they can
give: trees without foreign leaves and instructions, all of whose numbers are words, and trees that
are no higher than the document is deep (`Value.OfWords`, `Value.levels`). The other is what they
make of the document that a value has: the value itself. An object may be read in two ways, and a
document that carries a tag can be read in the way of its tag only, so at every level of a tree one
of the two readings fails and the other one is meant.
-/

namespace Reckoner

/-! ## Results -/

namespace Validated

variable {α β : Type}

theorem under_eq_ok_iff {step : Step} {x : Validated α} {a : α} :
    under step x = .ok a ↔ x = .ok a := by
  cases x <;> simp [under]

theorem both_eq_ok_iff {x : Validated α} {y : Validated β} {a : α} {b : β} :
    both x y = .ok (a, b) ↔ x = .ok a ∧ y = .ok b := by
  cases x <;> cases y <;> simp [both]

theorem map_eq_ok_iff {x : Validated α} {f : α → β} {b : β} :
    Except.map f x = .ok b ↔ ∃ a, x = .ok a ∧ f a = b := by
  cases x <;> simp [Except.map]

end Validated

open Validated

namespace Document

/-! ## Fields -/

theorem required_eq_ok_iff {α : Type} {fields : Json.Fields} {name : String}
    {read : Json → Validated α} {a : α} :
    required fields name read = .ok a
      ↔ ∃ value, Json.field? fields name = some value ∧ read value = .ok a := by
  rw [required, under_eq_ok_iff]
  cases Json.field? fields name <;> simp

theorem mem_of_field? {fields : Json.Fields} {name : String} {value : Json}
    (h : Json.field? fields name = some value) : (.text name, value) ∈ fields := by
  obtain ⟨front, back, rfl, _⟩ := List.lookup_eq_some_iff.mp h
  exact List.mem_append_right front List.mem_cons_self

/-- The value of a field lies one level further in. -/
theorem nestsWithin_of_field? {fields : Json.Fields} {name : String} {value : Json}
    {levels : Nat} (hdoc : (Json.object fields).NestsWithin levels)
    (h : Json.field? fields name = some value) :
    ∃ inner, levels = inner + 1 ∧ value.NestsWithin inner := by
  cases levels with
  | zero =>
    have hempty : fields = [] := hdoc
    rw [hempty] at h
    cases h
  | succ inner => exact ⟨inner, rfl, hdoc _ (mem_of_field? h)⟩

theorem inRange_of_word {doc : Json} {n : Int} (h : word doc = .ok n) : Word.InRange n := by
  rw [word, integerBetween] at h
  split at h
  · rw [inLimits] at h
    split at h
    · cases h
    · split at h
      · cases h
      · cases h
        constructor <;> omega
  · cases h

theorem word_integer {n : Int} (hn : Word.InRange n) : word (.integer n) = .ok n := by
  rw [word, integerBetween, integer]
  dsimp only
  rw [inLimits, if_neg (Int.not_lt.mpr hn.1), if_neg (Int.not_lt.mpr hn.2)]

theorem operator_symbolText (op : Operator) : operator (.string op.symbolText) = .ok op := by
  have hsymbol : Operator.ofSymbol? op.symbolText = some op := by cases op <;> decide
  rw [operator, hsymbol]

/-! ## Trees -/

theorem lookup_fieldReadings (fields : Json.Fields) (name : String) :
    (fieldReadings fields).lookup (.text name) = (Json.field? fields name).map readings := by
  induction fields with
  | nil => rfl
  | cons field fields ih =>
    rw [fieldReadings, Json.field?, List.lookup_cons, List.lookup_cons]
    split
    · rfl
    · exact ih

theorem operand_eq_ok_iff {fields : Json.Fields} {name : String} {e : Expr} :
    operand (fieldReadings fields) name = .ok e
      ↔ ∃ value, Json.field? fields name = some value ∧ (readings value).resolve = .ok e := by
  rw [operand, under_eq_ok_iff, lookup_fieldReadings]
  cases Json.field? fields name <;> simp

theorem Readings.resolve_cases {r : Readings} {e : Expr} (h : r.resolve = .ok e) :
    r.asOperation = .ok e ∨ r.asNumber = .ok e := by
  rw [resolve] at h
  split at h
  · next hoperation =>
    cases h
    exact Or.inl hoperation
  · next hnumber _ =>
    cases h
    exact Or.inr hnumber
  · cases h

theorem Readings.resolve_of_asOperation {r : Readings} {e : Expr} (h : r.asOperation = .ok e) :
    r.resolve = .ok e := by
  rw [resolve, h]

theorem Readings.resolve_of_asNumber {r : Readings} {e : Expr} (h : r.asNumber = .ok e)
    (hoperation : ∀ e', r.asOperation ≠ .ok e') : r.resolve = .ok e := by
  rcases hissues : r.asOperation with issues | e'
  · rw [resolve, hissues, h]
  · exact absurd hissues (hoperation e')

theorem exists_of_asNumber {doc : Json} {e : Expr} (h : (readings doc).asNumber = .ok e) :
    ∃ fields value n, doc = .object fields ∧ Json.field? fields "value" = some value
      ∧ Word.InRange n ∧ e = .number n := by
  match doc with
  | .object fields =>
    rw [readings] at h
    obtain ⟨⟨_, n⟩, hboth, he⟩ := map_eq_ok_iff.mp h
    obtain ⟨value, hfield, hword⟩ := required_eq_ok_iff.mp (both_eq_ok_iff.mp hboth).2
    exact ⟨fields, value, n, rfl, hfield, inRange_of_word hword, he.symm⟩

theorem exists_of_asOperation {doc : Json} {e : Expr} (h : (readings doc).asOperation = .ok e) :
    ∃ fields op left right l r, doc = .object fields
      ∧ (Json.field? fields "left" = some left ∧ (readings left).resolve = .ok l)
      ∧ (Json.field? fields "right" = some right ∧ (readings right).resolve = .ok r)
      ∧ e = .binary op l r := by
  match doc with
  | .object fields =>
    rw [readings] at h
    obtain ⟨⟨_, op, l, r⟩, hboth, he⟩ := map_eq_ok_iff.mp h
    have hoperands := (both_eq_ok_iff.mp (both_eq_ok_iff.mp hboth).2).2
    obtain ⟨left, hleft⟩ := operand_eq_ok_iff.mp (both_eq_ok_iff.mp hoperands).1
    obtain ⟨right, hright⟩ := operand_eq_ok_iff.mp (both_eq_ok_iff.mp hoperands).2
    exact ⟨fields, op, left, right, l, r, rfl, hleft, hright, he.symm⟩

/-- **What is read as a tree is one of words, and no higher than the document is deep.** -/
theorem ofWords_of_resolve {doc : Json} {e : Expr} {levels : Nat}
    (h : (readings doc).resolve = .ok e) (hdoc : doc.NestsWithin levels) :
    e.Pure ∧ e.InRange ∧ e.height < levels := by
  induction e generalizing doc levels with
  | number n =>
    rcases Readings.resolve_cases h with hoperation | hnumber
    · obtain ⟨_, _, _, _, _, _, _, _, _, he⟩ := exists_of_asOperation hoperation
      cases he
    · obtain ⟨fields, value, m, rfl, hfield, hm, he⟩ := exists_of_asNumber hnumber
      obtain ⟨inner, rfl, _⟩ := nestsWithin_of_field? hdoc hfield
      cases he
      exact ⟨trivial, hm, Nat.succ_pos inner⟩
  | foreign kind =>
    rcases Readings.resolve_cases h with hoperation | hnumber
    · obtain ⟨_, _, _, _, _, _, _, _, _, he⟩ := exists_of_asOperation hoperation
      cases he
    · obtain ⟨_, _, _, _, _, _, he⟩ := exists_of_asNumber hnumber
      cases he
  | binary op l r ihl ihr =>
    rcases Readings.resolve_cases h with hoperation | hnumber
    · obtain ⟨fields, _, left, right, _, _, rfl, ⟨hleft, hl⟩, ⟨hright, hr⟩, he⟩ :=
        exists_of_asOperation hoperation
      cases he
      obtain ⟨inner, rfl, hinnerl⟩ := nestsWithin_of_field? hdoc hleft
      obtain ⟨_, heq, hinnerr⟩ := nestsWithin_of_field? hdoc hright
      cases heq
      obtain ⟨hpurel, hrangel, hheightl⟩ := ihl hl hinnerl
      obtain ⟨hpurer, hranger, hheightr⟩ := ihr hr hinnerr
      refine ⟨⟨hpurel, hpurer⟩, ⟨hrangel, hranger⟩, ?_⟩
      rw [Expr.height]
      omega
    · obtain ⟨_, _, _, _, _, _, he⟩ := exists_of_asNumber hnumber
      cases he

/-! ## The documents of trees -/

theorem tag_ne_ok {fields : Json.Fields} {name expected found : String}
    (h : Json.field? fields name = some (.string found)) (hne : found ≠ expected) :
    tag fields name expected ≠ .ok () := by
  rw [tag, h]
  dsimp only
  rw [choice, if_neg (by simp [hne])]
  exact fun hok => nomatch hok

theorem number_toJson {n : Int} (hn : Word.InRange n) :
    number (Expr.number n).toJson = .ok (.number n) := by
  have hword : required [("node_type", Json.string "number"), ("value", .integer n)] "value" word
      = .ok n := required_eq_ok_iff.mpr ⟨_, rfl, word_integer hn⟩
  rw [number, Expr.toJson, readings, numberOfFields, hword]
  rfl

theorem tag_of_operation {fields : Json.Fields} {e : Expr}
    (h : operation (.object fields) = .ok e) : tag fields "node_type" "binop" = .ok () := by
  rw [operation, readings] at h
  obtain ⟨⟨_, _⟩, hboth, _⟩ := map_eq_ok_iff.mp h
  exact (both_eq_ok_iff.mp hboth).1

/-- A number is never taken for an operation. -/
theorem operation_toJson_number (n : Int) (e : Expr) :
    operation (Expr.number n).toJson ≠ .ok e := by
  intro h
  rw [Expr.toJson] at h
  exact tag_ne_ok rfl (by decide) (tag_of_operation h)

theorem operation_toJson {op : Operator} {l r : Expr} (hl : (readings l.toJson).resolve = .ok l)
    (hr : (readings r.toJson).resolve = .ok r) :
    operation (Expr.binary op l r).toJson = .ok (.binary op l r) := by
  rw [operation, Expr.toJson, readings]
  refine map_eq_ok_iff.mpr ⟨((), op, l, r), ?_, rfl⟩
  refine both_eq_ok_iff.mpr ⟨rfl, both_eq_ok_iff.mpr ⟨?_, both_eq_ok_iff.mpr ⟨?_, ?_⟩⟩⟩
  · exact required_eq_ok_iff.mpr ⟨_, rfl, operator_symbolText op⟩
  · exact operand_eq_ok_iff.mpr ⟨_, rfl, hl⟩
  · exact operand_eq_ok_iff.mpr ⟨_, rfl, hr⟩

/-- **Of the two readings of a tree's document, the one that is meant gives the tree.** -/
theorem resolve_toJson {e : Expr} (hpure : e.Pure) (hrange : e.InRange) :
    (readings e.toJson).resolve = .ok e := by
  induction e with
  | number n =>
    exact Readings.resolve_of_asNumber (number_toJson hrange) (operation_toJson_number n)
  | foreign kind => exact hpure.elim
  | binary op l r ihl ihr =>
    exact Readings.resolve_of_asOperation
      (operation_toJson (ihl hpure.1 hrange.1) (ihr hpure.2 hrange.2))

/-! ## Instructions -/

theorem exists_of_push {doc : Json} {i : Instruction} (h : push doc = .ok i) :
    ∃ n, i = .push n ∧ Word.InRange n := by
  match doc with
  | .object fields =>
    obtain ⟨⟨_, n⟩, hboth, hi⟩ := map_eq_ok_iff.mp h
    obtain ⟨_, _, hword⟩ := required_eq_ok_iff.mp (both_eq_ok_iff.mp hboth).2
    exact ⟨n, hi.symm, inRange_of_word hword⟩

theorem exists_of_apply {doc : Json} {i : Instruction} (h : apply doc = .ok i) :
    ∃ op, i = .apply op := by
  match doc with
  | .object fields =>
    obtain ⟨⟨_, op⟩, _, hi⟩ := map_eq_ok_iff.mp h
    exact ⟨op, hi.symm⟩

theorem inRange_of_instruction {doc : Json} {n : Int} (h : instruction doc = .ok (.push n)) :
    Word.InRange n := by
  rw [instruction] at h
  split at h
  · next hpush =>
    cases h
    obtain ⟨m, hi, hm⟩ := exists_of_push hpush
    cases hi
    exact hm
  · next happly _ =>
    cases h
    obtain ⟨_, hi⟩ := exists_of_apply happly
    cases hi
  · cases h

theorem inRange_of_instructionsFrom {position : Nat} {docs : List Json} {code : List Instruction}
    (h : instructionsFrom position docs = .ok code) {n : Int} (hn : .push n ∈ code) :
    Word.InRange n := by
  induction docs generalizing position code with
  | nil =>
    cases h
    exact absurd hn List.not_mem_nil
  | cons doc docs ih =>
    obtain ⟨⟨i, rest⟩, hboth, hcode⟩ := map_eq_ok_iff.mp h
    obtain ⟨hfirst, hrest⟩ := both_eq_ok_iff.mp hboth
    subst hcode
    rcases List.mem_cons.mp hn with rfl | hmem
    · exact inRange_of_instruction (under_eq_ok_iff.mp hfirst)
    · exact ih hrest hmem

theorem inRange_of_program {doc : Json} {p : Program} (h : program doc = .ok p) {n : Int}
    (hn : .push n ∈ p.instructions) : Word.InRange n := by
  match doc with
  | .object fields =>
    have hread := under_eq_ok_iff.mp h
    split at hread
    · next value _ =>
      obtain ⟨code, hcode, rfl⟩ := map_eq_ok_iff.mp hread
      match value with
      | .array docs => exact inRange_of_instructionsFrom hcode hn
    · cases hread
      exact absurd hn List.not_mem_nil

/-! ## The documents of instructions -/

theorem push_toJson {n : Int} (hn : Word.InRange n) :
    push (Instruction.push n).toJson = .ok (.push n) :=
  map_eq_ok_iff.mpr ⟨((), n),
    both_eq_ok_iff.mpr ⟨rfl, required_eq_ok_iff.mpr ⟨_, rfl, word_integer hn⟩⟩, rfl⟩

theorem apply_toJson (op : Operator) : apply (Instruction.apply op).toJson = .ok (.apply op) :=
  map_eq_ok_iff.mpr ⟨((), op),
    both_eq_ok_iff.mpr ⟨rfl, required_eq_ok_iff.mpr ⟨_, rfl, operator_symbolText op⟩⟩, rfl⟩

theorem tag_of_push {fields : Json.Fields} {i : Instruction}
    (h : push (.object fields) = .ok i) : tag fields "kind" "push" = .ok () := by
  obtain ⟨⟨_, _⟩, hboth, _⟩ := map_eq_ok_iff.mp h
  exact (both_eq_ok_iff.mp hboth).1

/-- An application is never taken for a push. -/
theorem push_toJson_apply (op : Operator) (i : Instruction) :
    push (Instruction.apply op).toJson ≠ .ok i := by
  intro h
  rw [Instruction.toJson] at h
  exact tag_ne_ok rfl (by decide) (tag_of_push h)

theorem instruction_toJson {i : Instruction} (hi : ∀ n, i = .push n → Word.InRange n) :
    instruction i.toJson = .ok i := by
  cases i with
  | push n => rw [instruction, push_toJson (hi n rfl)]
  | apply op =>
    rcases hissues : push (Instruction.apply op).toJson with issues | j
    · rw [instruction, hissues, apply_toJson]
    · exact absurd hissues (push_toJson_apply op j)

theorem instructionsFrom_toJson {code : List Instruction}
    (h : ∀ n, .push n ∈ code → Word.InRange n) (position : Nat) :
    instructionsFrom position (code.map Instruction.toJson) = .ok code := by
  induction code generalizing position with
  | nil => rfl
  | cons i code ih =>
    have hfirst := instruction_toJson (i := i) fun n hn => h n (hn ▸ List.mem_cons_self)
    have hrest := ih (fun n hn => h n (List.mem_cons_of_mem _ hn)) (position + 1)
    rw [List.map_cons, instructionsFrom, hfirst, hrest]
    rfl

theorem program_of_instructions {p : Program}
    (h : ∀ n, .push n ∈ p.instructions → Word.InRange n) :
    program p.toJson = .ok p := by
  refine under_eq_ok_iff.mpr ?_
  show Except.map Program.mk (instructionsFrom 0 _) = _
  rw [instructionsFrom_toJson h]
  rfl

/-! ## Values -/

/-- The kind of text that a value is written as. -/
def Value.kind : Value → Kind
  | .tree (.number _) => .number
  | .tree _ => .operation
  | .instruction (.push _) => .push
  | .instruction (.apply _) => .apply
  | .program _ => .program

/-- All numbers in the value are words, and a tree has no foreign leaf. -/
def Value.OfWords : Value → Prop
  | .tree e => e.Pure ∧ e.InRange
  | .instruction i => ∀ n, i = .push n → Word.InRange n
  | .program p => ∀ n, .push n ∈ p.instructions → Word.InRange n

/-- How many levels the document of a value has at most. -/
def Value.levels : Value → Nat
  | .tree e => e.height + 1
  | .instruction _ => 1
  | .program _ => 3

/-- **A value is read from its document as what it is.** -/
theorem ofJson_toJson {v : Value} (hv : v.OfWords) : ofJson v.kind v.toJson = .ok v := by
  match v with
  | .tree (.number n) => exact map_eq_ok_iff.mpr ⟨_, number_toJson hv.2, rfl⟩
  | .tree (.foreign _) => exact hv.1.elim
  | .tree (.binary op l r) =>
    have hl := resolve_toJson hv.1.1 hv.2.1
    have hr := resolve_toJson hv.1.2 hv.2.2
    exact map_eq_ok_iff.mpr ⟨_, operation_toJson hl hr, rfl⟩
  | .instruction (.push n) => exact map_eq_ok_iff.mpr ⟨_, push_toJson (hv n rfl), rfl⟩
  | .instruction (.apply op) => exact map_eq_ok_iff.mpr ⟨_, apply_toJson op, rfl⟩
  | .program p => exact map_eq_ok_iff.mpr ⟨_, program_of_instructions hv, rfl⟩

/-- **What a document is read to is of words, of the kind asked for, and no deeper than it.** -/
theorem ofWords_of_ofJson {kind : Kind} {doc : Json} {v : Value} {levels : Nat}
    (h : ofJson kind doc = .ok v) (hdoc : doc.NestsWithin levels) (hlevels : 3 ≤ levels) :
    v.OfWords ∧ v.kind = kind ∧ v.levels ≤ levels := by
  cases kind with
  | number =>
    obtain ⟨e, he, rfl⟩ := map_eq_ok_iff.mp h
    obtain ⟨_, _, n, _, _, hn, rfl⟩ := exists_of_asNumber he
    exact ⟨⟨trivial, hn⟩, rfl, by simp only [Value.levels, Expr.height]; omega⟩
  | operation =>
    obtain ⟨e, he, rfl⟩ := map_eq_ok_iff.mp h
    obtain ⟨hpure, hrange, hheight⟩ :=
      ofWords_of_resolve (Readings.resolve_of_asOperation he) hdoc
    obtain ⟨_, _, _, _, _, _, _, _, _, rfl⟩ := exists_of_asOperation he
    exact ⟨⟨hpure, hrange⟩, rfl, hheight⟩
  | push =>
    obtain ⟨i, hi, rfl⟩ := map_eq_ok_iff.mp h
    obtain ⟨n, rfl, hn⟩ := exists_of_push hi
    refine ⟨?_, rfl, by simp only [Value.levels]; omega⟩
    intro m hm
    cases hm
    exact hn
  | apply =>
    obtain ⟨i, hi, rfl⟩ := map_eq_ok_iff.mp h
    obtain ⟨op, rfl⟩ := exists_of_apply hi
    exact ⟨fun _ hm => (nomatch hm), rfl, by simp only [Value.levels]; omega⟩
  | program =>
    obtain ⟨p, hp, rfl⟩ := map_eq_ok_iff.mp h
    exact ⟨fun n hn => inRange_of_program hp hn, rfl, hlevels⟩

end Document

end Reckoner
