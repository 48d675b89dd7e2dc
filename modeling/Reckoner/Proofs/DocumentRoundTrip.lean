import Reckoner.Proofs.DocumentReading
import Reckoner.Proofs.ServiceBodies

/-!
# Values are read back from their texts

A value is written as the text of its document and read as what it was written as. Between the two
stand the spelling of documents (`Reckoner.Proofs.JsonSpelling`), for which a value has to be no
deeper than the reader goes, and the reading of documents (`Reckoner.Proofs.DocumentReading`), for
which its numbers have to be words. A value that has itself been read is of words and not too deep,
so it has a text, and this text is read to the same value: whichever of its many spellings a value
was read from, writing it gives one and the same text, and from there nothing changes any more.

The service answers with instructions in the same spelling. They are read from its answer as the
program that the text was compiled to, and a machine that runs them ends as an executor does that is
given the tree.
-/

namespace Reckoner

/-! ## The documents of values -/

theorem Expr.readsBack_toJson {e : Expr} (hpure : e.Pure) (hrange : e.InRange)
    (rules : Json.Rules) {levels : Nat} (hlevels : e.height < levels) :
    Json.ReadsBack rules levels e.toJson := by
  induction e generalizing levels with
  | number n =>
    obtain ⟨inner, rfl⟩ : ∃ k, levels = k + 1 := ⟨levels - 1, by omega⟩
    refine Json.readsBack_object (by simp) ?_
    simp only [List.forall_mem_cons]
    exact ⟨⟨rfl, Json.readsBack_string _ _ _⟩, ⟨rfl, Json.readsBack_word _ _ hrange⟩,
      List.forall_mem_nil _⟩
  | foreign kind => exact hpure.elim
  | binary op l r ihl ihr =>
    obtain ⟨inner, rfl⟩ : ∃ k, levels = k + 1 := ⟨levels - 1, by omega⟩
    rw [height] at hlevels
    refine Json.readsBack_object (by simp) ?_
    simp only [List.forall_mem_cons]
    exact ⟨⟨rfl, Json.readsBack_string _ _ _⟩, ⟨rfl, Json.readsBack_string _ _ _⟩,
      ⟨rfl, ihl hpure.1 hrange.1 (by omega)⟩, ⟨rfl, ihr hpure.2 hrange.2 (by omega)⟩,
      List.forall_mem_nil _⟩

theorem Instruction.readsBack_toJson {i : Instruction} (hi : ∀ n, i = .push n → Word.InRange n)
    (rules : Json.Rules) (levels : Nat) : Json.ReadsBack rules (levels + 1) i.toJson := by
  cases i with
  | push n =>
    refine Json.readsBack_object (by simp) ?_
    simp only [List.forall_mem_cons]
    exact ⟨⟨rfl, Json.readsBack_string _ _ _⟩, ⟨rfl, Json.readsBack_word _ _ (hi n rfl)⟩,
      List.forall_mem_nil _⟩
  | apply op =>
    refine Json.readsBack_object (by simp) ?_
    simp only [List.forall_mem_cons]
    exact ⟨⟨rfl, Json.readsBack_string _ _ _⟩, ⟨rfl, Json.readsBack_string _ _ _⟩,
      List.forall_mem_nil _⟩

/-- The list of a program's instructions. -/
theorem Program.readsBack_instructions {p : Program}
    (h : ∀ n, .push n ∈ p.instructions → Word.InRange n) (rules : Json.Rules) (levels : Nat) :
    Json.ReadsBack rules (levels + 2) (.array (p.instructions.map Instruction.toJson)) := by
  refine Json.readsBack_array ?_
  intro doc hdoc
  obtain ⟨i, hi, rfl⟩ := List.mem_map.mp hdoc
  exact Instruction.readsBack_toJson (fun n hn => h n (hn ▸ hi)) rules levels

namespace Document

theorem Value.readsBack_toJson {v : Value} (hv : v.OfWords) (rules : Json.Rules) {levels : Nat}
    (hlevels : v.levels ≤ levels) : Json.ReadsBack rules levels v.toJson := by
  cases v with
  | tree e => exact Expr.readsBack_toJson hv.1 hv.2 rules hlevels
  | instruction i =>
    obtain ⟨inner, rfl⟩ := Nat.exists_eq_add_of_le' hlevels
    exact Instruction.readsBack_toJson hv rules inner
  | program p =>
    obtain ⟨inner, rfl⟩ := Nat.exists_eq_add_of_le' hlevels
    refine Json.readsBack_object (by simp) ?_
    simp only [List.forall_mem_cons]
    exact ⟨⟨rfl, Program.readsBack_instructions hv rules inner⟩, List.forall_mem_nil _⟩

/-! ## Texts -/

/-- The value of a kind that a text spells, to a reader with rules of its own. -/
def readUnder (rules : Json.Rules) (kind : Kind) (text : String) : Validated Value :=
  match Json.ofChars rules text.toList with
  | .ok document => ofJson kind document
  | .error _ => .error [.here .notJson]

theorem read_eq_readUnder (kind : Kind) (text : String) :
    read kind text = readUnder rules kind text := by
  rw [read, document, readUnder]
  rcases Json.ofChars rules text.toList with stop | doc <;> rfl

/-- **A value is read back from its text.** -/
theorem readUnder_written {v : Value} (hv : v.OfWords) {rules : Json.Rules}
    (hlevels : v.levels ≤ rules.maxNesting) :
    readUnder rules v.kind v.toJson.written = .ok v := by
  rw [readUnder, Json.ofChars_written (v.readsBack_toJson hv rules hlevels)]
  exact ofJson_toJson hv

/-- What can be read is of words and not too deep. -/
theorem ofWords_of_read {kind : Kind} {text : String} {v : Value} (h : read kind text = .ok v) :
    v.OfWords ∧ v.kind = kind ∧ v.levels ≤ rules.maxNesting := by
  rw [read_eq_readUnder, readUnder] at h
  split at h
  · next doc hdoc => exact ofWords_of_ofJson h (Json.nestsWithin_of_ofPoints hdoc) (by decide)
  · cases h

/-- What is not too deep to be read is not too deep to be written. -/
theorem write_eq_ok {v : Value} (hlevels : v.levels ≤ rules.maxNesting) :
    write v = .ok v.toJson.written := by
  cases v with
  | tree e =>
    have hle : rules.maxNesting ≤ maxHeight := by decide
    have hheight : e.height ≤ maxHeight := Nat.le_trans (Nat.le_of_succ_le hlevels) hle
    rw [write, if_pos hheight, Value.toJson]
  | instruction i => rfl
  | program p => rfl

theorem exists_write_read {v : Value} (hv : v.OfWords) (hlevels : v.levels ≤ rules.maxNesting) :
    ∃ text, write v = .ok text ∧ read v.kind text = .ok v := by
  refine ⟨_, write_eq_ok hlevels, ?_⟩
  rw [read_eq_readUnder]
  exact readUnder_written hv hlevels

end Document

/-! ## Answers -/

theorem Expr.inRange_of_push_mem_postorder {e : Expr} (hrange : e.InRange) {n : Int}
    (h : .push n ∈ e.postorder) : Word.InRange n := by
  induction e with
  | number m =>
    rw [postorder, List.mem_singleton, Instruction.push.injEq] at h
    exact h ▸ hrange
  | foreign kind => exact absurd h List.not_mem_nil
  | binary op l r ihl ihr =>
    rw [postorder, List.mem_append, List.mem_append, List.mem_singleton] at h
    rcases h with (hl | hr) | happly
    · exact ihl hrange.1 hl
    · exact ihr hrange.2 hr
    · cases happly

namespace Service

theorem field?_programReply (text : String) {p : Program}
    (h : ∀ n, .push n ∈ p.instructions → Word.InRange n) :
    (programReply text p).field? "instructions"
      = some (.array (p.instructions.map Instruction.toJson)) := by
  refine (field?_reply (by simp) ?_ 200 "instructions").trans rfl
  simp only [List.forall_mem_cons]
  refine ⟨⟨rfl, Json.readsBack_string _ _ _⟩, ⟨rfl, Program.readsBack_instructions h rules 957⟩,
    ⟨rfl, ?_⟩, List.forall_mem_nil _⟩
  refine Json.readsBack_array ?_
  intro doc hdoc
  obtain ⟨line, _, rfl⟩ := List.mem_map.mp hdoc
  exact Json.readsBack_string _ _ _

/-- **The instructions of an answer are a program that ends as the executors do.** -/
theorem exists_program_of_compile {s : Settings} {r : Request} {text : String}
    {fields : Json.Fields} {t : Expr} (hbrings : Brings r "/compile" text fields)
    (hparse : Parser.parse s.maxDepth.levels text = .ok t) :
    ∃ list p, ((ofSettings s).respond r).status = 200
      ∧ ((ofSettings s).respond r).field? "instructions" = some list
      ∧ Document.ofJson .program (.object [("instructions", list)]) = .ok (.program p)
      ∧ ∀ kind, (StackVm.standard.run p).value.mapError .execution
          = (s.executor .standard kind).outcome t := by
  have hwords : ∀ n, .push n ∈ t.postorder → Word.InRange n :=
    fun n hn => Expr.inRange_of_push_mem_postorder (Parser.inRange_of_parse hparse) hn
  refine ⟨.array (t.postorder.map Instruction.toJson), ⟨t.postorder⟩, ?_⟩
  rw [respond_compile_of_ok hbrings hparse]
  refine ⟨rfl, field?_programReply text hwords,
    Document.ofJson_toJson (v := .program ⟨t.postorder⟩) hwords, ?_⟩
  intro kind
  have hrun : (StackVm.standard.run ⟨t.postorder⟩).value = Interpreter.evaluateFreely t :=
    (Machine.value_runNoted _).trans (Machine.run_postorder (Parser.pure_of_parse hparse))
  rw [hrun, Settings.outcome_of_parse hparse kind, Settings.textValue, hparse]

end Service

/-- **Values are read back from their texts.** A tree, an instruction or a program of words is read
from its text as what it is, by every reader that goes deep enough; for a program three levels are
enough, whatever its length. So a text that is read as anything can be written in one way that is
read as the same, and reading and writing it again changes nothing. And the instructions that the
service answers with for a text are read as a program whose run ends, with its value or its error,
as each of the executors does on the tree of the text. -/
theorem texts_read_back :
    (∀ (v : Document.Value) (rules : Json.Rules), v.OfWords → v.levels ≤ rules.maxNesting →
        Document.readUnder rules v.kind v.toJson.written = .ok v)
      ∧ (∀ p : Program, (∀ n, .push n ∈ p.instructions → Word.InRange n) →
          ∃ text, Document.write (.program p) = .ok text
            ∧ Document.read .program text = .ok (.program p))
      ∧ (∀ (kind : Document.Kind) (text : String) (v : Document.Value),
          Document.read kind text = .ok v →
          ∃ canonical, Document.write v = .ok canonical
            ∧ Document.read kind canonical = .ok v)
      ∧ ∀ (s : Settings) (r : Service.Request) (text : String) (fields : Json.Fields)
          (t : Expr), Service.Brings r "/compile" text fields →
          Parser.parse s.maxDepth.levels text = .ok t →
          ∃ list p, ((Service.ofSettings s).respond r).status = 200
            ∧ ((Service.ofSettings s).respond r).field? "instructions" = some list
            ∧ Document.ofJson .program (.object [("instructions", list)]) = .ok (.program p)
            ∧ ∀ kind, (StackVm.standard.run p).value.mapError .execution
                = (s.executor .standard kind).outcome t := by
  refine ⟨?_, ?_, ?_, ?_⟩
  · intro v rules hv hlevels
    exact Document.readUnder_written hv hlevels
  · intro p hp
    have hlevels : (Document.Value.program p).levels ≤ Document.rules.maxNesting :=
      show 3 ≤ 200 by decide
    exact Document.exists_write_read (v := .program p) hp hlevels
  · intro kind text v hread
    obtain ⟨hv, rfl, hlevels⟩ := Document.ofWords_of_read hread
    exact Document.exists_write_read hv hlevels
  · intro s r text fields t hbrings hparse
    exact Service.exists_program_of_compile hbrings hparse

/-- The quotient that overflows, as a tree and as a program; a number without its tag, spelled as a
truth value behind a blank; and a division by zero that is sent to the compiler. -/
theorem texts_read_back_at_quotients :
    (let v : Document.Value := .tree (.binary .div (.number Word.least) (.number (-1)))
    v.OfWords ∧ v.levels ≤ Document.rules.maxNesting
      ∧ Document.readUnder Document.rules v.kind v.toJson.written = .ok v)
      ∧ ((∀ n, .push n ∈ [Instruction.push Word.least, .push (-1), .apply .div] →
            Word.InRange n)
          ∧ ∃ text,
              Document.write (.program ⟨[.push Word.least, .push (-1), .apply .div]⟩) = .ok text
                ∧ Document.read .program text
                    = .ok (.program ⟨[.push Word.least, .push (-1), .apply .div]⟩))
      ∧ (Document.read .number " \x7b\"value\":true\x7d" = .ok (.tree (.number 1))
          ∧ ∃ canonical, Document.write (.tree (.number 1)) = .ok canonical
              ∧ Document.read .number canonical = .ok (.tree (.number 1)))
      ∧ (let r := Service.posting "/compile" [("text", .string "7/0")]
        Service.Brings r "/compile" "7/0" [("text", .string "7/0")]
          ∧ Parser.parse (Settings.maxDepth {}).levels "7/0"
              = .ok (.binary .div (.number 7) (.number 0))
          ∧ ∃ list p, ((Service.ofSettings {}).respond r).status = 200
              ∧ ((Service.ofSettings {}).respond r).field? "instructions" = some list
              ∧ Document.ofJson .program (.object [("instructions", list)]) = .ok (.program p)
              ∧ ∀ kind, (StackVm.standard.run p).value.mapError .execution
                  = (Settings.executor {} .standard kind).outcome
                      (.binary .div (.number 7) (.number 0))) := by
  have htree : Document.Value.OfWords (.tree (.binary .div (.number Word.least) (.number (-1)))) :=
    ⟨⟨trivial, trivial⟩, show Word.InRange Word.least ∧ Word.InRange (-1) by decide⟩
  have hlevels : Document.Value.levels (.tree (.binary .div (.number Word.least) (.number (-1))))
      ≤ Document.rules.maxNesting := by decide
  have hpush : ∀ n, .push n ∈ [Instruction.push Word.least, .push (-1), .apply .div] →
      Word.InRange n := by
    simp only [List.mem_cons, Instruction.push.injEq, reduceCtorEq, List.not_mem_nil, or_false]
    rintro n (rfl | rfl) <;> decide
  have hread : Document.read .number " \x7b\"value\":true\x7d" = .ok (.tree (.number 1)) := by
    decide +kernel
  have hbrings : Service.Brings (Service.posting "/compile" [("text", .string "7/0")]) "/compile"
      "7/0" [("text", .string "7/0")] :=
    Service.brings_posting (by decide) (by simp) (List.forall_mem_nil _) (by decide)
  have hparse : Parser.parse (Settings.maxDepth {}).levels "7/0"
      = .ok (.binary .div (.number 7) (.number 0)) := by decide +kernel
  obtain ⟨hvalues, hprograms, htexts, hanswers⟩ := texts_read_back
  exact ⟨⟨htree, hlevels, hvalues _ Document.rules htree hlevels⟩, ⟨hpush, hprograms ⟨_⟩ hpush⟩,
    ⟨hread, htexts _ _ _ hread⟩, hbrings, hparse, hanswers _ _ _ _ _ hbrings hparse⟩

end Reckoner
