import Reckoner.CommandLine.Run
import Reckoner.Proofs.ParserImage

/-!
# Diagnostics are single lines

A run puts complaints and records of the log on the same stream, and whoever reads the stream tells
them apart by how their lines start: a complaint starts with `error:`, and a record with the name of
its level, which is in capitals. `errorLines` does that to the text of the stream.

This gives back the complaints only if nothing that is said takes up more than one line
(`OneLine`). Whatever comes from outside is shown between quotes, with every character that has no
printed form escaped, and the rest of a message is fixed wording and decimal numbers. So the message
of every failure that the parser and the two executors end with is a single line, and so is every
note they leave. Of a stream made of such lines the complaints are what `errorLines` finds, in
order, and notes make no difference to it (`errorLines_stderr`).

More characters than the line feed divide a text into lines, and a message is free of all of them
(`Unbroken`): they have no printed form, each of them (`Text.isUnprintable_of_isLineEnd`).
-/

namespace Reckoner

/-! ## Texts of one line -/

def OneLine (text : String) : Prop := '\n' ∉ text.toList

/-- No character of the text ends a line. -/
def Unbroken (text : String) : Prop := ∀ c ∈ text.toList, Text.isLineEnd c = false

instance (text : String) : Decidable (Unbroken text) :=
  decidable_of_iff (text.toList.all (fun c => !Text.isLineEnd c) = true) (by simp [Unbroken])

theorem Unbroken.oneLine {text : String} (h : Unbroken text) : OneLine text :=
  fun hfeed => absurd (h _ hfeed) (by decide)

@[simp] theorem unbroken_append {a b : String} : Unbroken (a ++ b) ↔ Unbroken a ∧ Unbroken b := by
  simp only [Unbroken, String.toList_append, List.forall_mem_append]

namespace Text

/-- A table holds what a table of narrower ranges holds. -/
theorem CodeRange.anyHas_of_covers {narrow wide : List CodeRange}
    (hcovers : ∀ r ∈ narrow, ∃ w ∈ wide, w.first ≤ r.first ∧ r.last ≤ w.last) {c : Char}
    (h : anyHas narrow c = true) : anyHas wide c = true := by
  obtain ⟨r, hr, hhas⟩ := List.any_eq_true.mp h
  obtain ⟨w, hw, hfirst, hlast⟩ := hcovers r hr
  refine List.any_eq_true.mpr ⟨w, hw, ?_⟩
  simp only [has, Bool.and_eq_true, decide_eq_true_eq] at hhas ⊢
  omega

/-- **What ends a line has no printed form.** -/
theorem isUnprintable_of_isLineEnd {c : Char} (h : isLineEnd c = true) : isUnprintable c = true :=
  CodeRange.anyHas_of_covers (by decide +kernel) h

theorem isLineEnd_of_isDigit {c : Char} (h : c.isDigit = true) : isLineEnd c = false := by
  have hdigit : 48 ≤ c.toNat ∧ c.toNat ≤ 57 := by
    simpa [Char.isDigit, UInt32.le_iff_toNat_le] using h
  simp only [isLineEnd, CodeRange.anyHas, CodeRange.has, lineEnds, List.any_cons, List.any_nil,
    Bool.or_eq_false_iff, Bool.and_eq_false_iff, decide_eq_false_iff_not, and_true]
  omega

@[simp] theorem unbroken_decimal (n : Int) : Unbroken (decimal n) := by
  intro c hc
  rcases mem_decimal hc with rfl | hdigit
  · decide
  · exact isLineEnd_of_isDigit hdigit

@[simp] theorem newline_not_mem_decimal (n : Int) : '\n' ∉ (decimal n).toList :=
  (unbroken_decimal n).oneLine

theorem isLineEnd_of_mem_hex {width n : Nat} {c : Char} (h : c ∈ hex width n) :
    isLineEnd c = false := by
  induction width generalizing n with
  | zero => exact absurd h List.not_mem_nil
  | succ width ih =>
    rw [hex, List.mem_append, List.mem_singleton] at h
    rcases h with h | rfl
    · exact ih h
    · have hdigit : ∀ k : Fin 16, isLineEnd (Nat.digitChar k) = false := by decide
      exact hdigit ⟨n % 16, Nat.mod_lt _ (by decide)⟩

theorem isLineEnd_of_mem_escapedCode {n : Nat} {c : Char} (h : c ∈ escapedCode n) :
    isLineEnd c = false := by
  have hmarked : ∀ {mark : Char} {width : Nat}, isLineEnd mark = false →
      c ∈ '\\' :: mark :: hex width n → isLineEnd c = false := by
    intro mark width hmark hc
    rw [List.mem_cons, List.mem_cons] at hc
    rcases hc with rfl | rfl | hc
    · decide
    · exact hmark
    · exact isLineEnd_of_mem_hex hc
  unfold escapedCode at h
  split_ifs at h
  · exact hmarked (by decide) h
  · exact hmarked (by decide) h
  · exact hmarked (by decide) h

/-- A character that ends a line is escaped, by its name or by its code. -/
theorem isLineEnd_of_mem_quotedChar {quote c d : Char} (hquote : isLineEnd quote = false)
    (h : d ∈ quotedChar quote c) : isLineEnd d = false := by
  have hnamed : ∀ {e : Char}, isLineEnd e = false → d ∈ ['\\', e] → isLineEnd d = false := by
    intro e he hd
    rw [List.mem_cons, List.mem_singleton] at hd
    rcases hd with rfl | rfl
    · decide
    · exact he
  unfold quotedChar at h
  split_ifs at h with hspecial hline hreturn htab hcode
  · rcases hspecial with rfl | rfl
    · exact hnamed (by decide) h
    · exact hnamed hquote h
  · exact hnamed (by decide) h
  · exact hnamed (by decide) h
  · exact hnamed (by decide) h
  · exact isLineEnd_of_mem_escapedCode h
  · rw [List.mem_singleton.mp h, Bool.eq_false_iff]
    exact fun hend => hcode (isUnprintable_of_isLineEnd hend)

/-- **A quoted text is a single line.** -/
@[simp] theorem unbroken_quoted (text : String) : Unbroken (quoted text) := by
  have hquote : isLineEnd (quoteFor text.toList) = false := by
    unfold quoteFor
    split <;> decide
  intro d hd
  rw [quoted, String.toList_ofList, quotedChars, List.mem_cons, List.mem_append,
    List.mem_singleton, List.mem_flatMap] at hd
  rcases hd with rfl | ⟨c, _, hc⟩ | rfl
  · exact hquote
  · exact isLineEnd_of_mem_quotedChar hquote hc
  · exact hquote

@[simp] theorem newline_not_mem_quoted (text : String) : '\n' ∉ (quoted text).toList :=
  (unbroken_quoted text).oneLine

end Text

/-! ## Messages -/

namespace Operator

@[simp] theorem unbroken_symbolText (op : Operator) : Unbroken op.symbolText := by
  cases op <;> decide

@[simp] theorem unbroken_mnemonic (op : Operator) : Unbroken op.mnemonic := by
  cases op <;> decide

@[simp] theorem unbroken_verb (op : Operator) : Unbroken op.verb := by
  cases op <;> decide

end Operator

theorem Parser.Reason.unbroken_text (reason : Parser.Reason) : Unbroken reason.text := by
  unfold Parser.Reason.text
  split <;> simp +decide

theorem SyntaxError.unbroken_message {e : SyntaxError} (hreason : Unbroken e.reason) :
    Unbroken e.message := by
  have hshown : Unbroken e.shownFragment := by
    unfold SyntaxError.shownFragment
    split
    · decide
    · exact Text.unbroken_quoted _
  unfold SyntaxError.message
  simp +decide [hshown, hreason]

theorem Parser.unbroken_message_of_parse {bound : Int} {text : String} {e : SyntaxError}
    (h : parse bound text = .error e) : Unbroken e.message := by
  rw [parse] at h
  split at h
  · cases h
  · cases h
    exact SyntaxError.unbroken_message (Parser.Reason.unbroken_text _)

theorem ExecutionError.unbroken_message_arithmetic (cause : ArithmeticError) :
    Unbroken (ExecutionError.arithmetic cause).message := by
  unfold ExecutionError.message
  cases cause <;> simp +decide

/-! ## Notes -/

namespace Logged

variable {α β : Type}

/-- Every note takes up one line. -/
def Tidy (x : Logged α) : Prop := ∀ r ∈ x.records, OneLine r.line

/-- No note holds an end of a line, of whatever kind. -/
def Unbroken (x : Logged α) : Prop := ∀ r ∈ x.records, Reckoner.Unbroken r.line

theorem Unbroken.tidy {x : Logged α} (h : x.Unbroken) : x.Tidy := fun r hr => (h r hr).oneLine

theorem unbroken_quietly (a : α) : (quietly a).Unbroken := fun _ hr => absurd hr List.not_mem_nil

theorem Unbroken.bind {x : Logged α} {f : α → Logged β} (hx : x.Unbroken)
    (hf : (f x.value).Unbroken) : (x >>= f).Unbroken := by
  intro r hr
  rcases List.mem_append.mp hr with hr | hr
  · exact hx r hr
  · exact hf r hr

theorem unbroken_noting {level : Log.Level} {source text : String}
    (hsource : Reckoner.Unbroken source) (htext : Reckoner.Unbroken text) (a : α) :
    (noting level source text a).Unbroken := by
  intro r hr
  rw [List.mem_singleton.mp hr]
  cases level <;> simp +decide [Log.Record.line, Log.Level.name, hsource, htext]

end Logged

theorem Parser.unbroken_parseNoted (bound : Int) (text : String) :
    (parseNoted bound text).Unbroken := by
  unfold parseNoted
  split
  · next e _ =>
    refine Logged.unbroken_noting (by decide) ?_ _
    cases e <;> simp +decide [Expr.root, Expr.Root.nodeName]
  · exact Logged.unbroken_quietly _

theorem Interpreter.unbroken_evaluateNoted (bound : DepthBound) (e : Expr) :
    (evaluateNoted bound e).Unbroken := by
  unfold evaluateNoted
  split
  · exact Logged.unbroken_noting (by decide) (by simp +decide) _
  · exact Logged.unbroken_quietly _

theorem Compiler.unbroken_compileNoted (e : Expr) : (compileNoted e).Unbroken := by
  unfold compileNoted
  split
  · exact Logged.unbroken_noting (by decide) (by simp +decide) _
  · exact Logged.unbroken_quietly _

theorem Machine.unbroken_runNoted (p : Program) : (runNoted p).Unbroken := by
  unfold runNoted
  split
  · exact Logged.unbroken_noting (by decide) (by simp +decide) _
  · exact Logged.unbroken_noting (by decide) (by simp +decide) _
  · exact Logged.unbroken_quietly _

/-- The executors of this library leave notes of one line. -/
theorem Settings.unbroken_execute (s : Settings) (kind : ExecutorKind) (e : Expr) :
    ((s.executor .standard kind).execute e).Unbroken := by
  cases kind with
  | interpreter =>
    rw [Settings.executor, Executor.execute]
    refine (Interpreter.unbroken_evaluateNoted _ e).bind ?_
    split <;> exact Logged.unbroken_quietly _
  | vm =>
    rw [Settings.executor, Executor.execute, StackVm.execute]
    refine (Compiler.unbroken_compileNoted e).bind ?_
    split
    · exact Logged.unbroken_quietly _
    · refine (Machine.unbroken_runNoted _).bind ?_
      split <;> exact Logged.unbroken_quietly _

/-! ## The lines of complaint on a stream -/

namespace CommandLine

/-- Whether a line is one of complaint. -/
def isErrorLine (line : String) : Bool := "error:".toList.isPrefixOf line.toList

/-- The lines of a text that are lines of complaint. -/
def errorLines (text : String) : List String :=
  ((text.toList.splitOn '\n').map String.ofList).filter isErrorLine

theorem errorLines_of_oneLine {text : String} (h : OneLine text) :
    errorLines text = if isErrorLine text then [text] else [] := by
  rw [errorLines, List.splitOn_eq_singleton h]
  simp [List.filter_cons]

theorem errorLines_append_newline (a b : String) :
    errorLines (a ++ "\n" ++ b) = errorLines a ++ errorLines b := by
  have hsplit : (a ++ "\n" ++ b).toList = a.toList ++ '\n' :: b.toList := by
    simp [String.toList_append]
  rw [errorLines, hsplit, List.splitOn_append_cons_self, List.map_append, List.filter_append,
    errorLines, errorLines]

/-- The lines of complaint in what is said. -/
def Output.errorLines : Output → List String
  | line _ => []
  | errorLine text => CommandLine.errorLines text

/-- **The lines of complaint on the stream are those of what was said, in order.** -/
theorem errorLines_stderr (o : Outcome) :
    errorLines o.stderr = o.output.flatMap Output.errorLines := by
  rw [Outcome.stderr]
  induction o.output with
  | nil => rfl
  | cons said rest ih =>
    rw [List.map_cons, String.join_cons, List.flatMap_cons]
    cases said with
    | line text => rw [Output.stderr, String.empty_append, ih, Output.errorLines, List.nil_append]
    | errorLine text => rw [Output.stderr, errorLines_append_newline, ih, Output.errorLines]

theorem errorLines_complaint {message : String} (h : OneLine message) :
    (Output.complaint message).errorLines = ["error: " ++ message] := by
  have hline : isErrorLine ("error: " ++ message) = true := by
    simp [isErrorLine, String.toList_append, List.isPrefixOf]
  have hone : OneLine ("error: " ++ message) := by
    unfold OneLine at h ⊢
    simp [h]
  rw [Output.complaint, Output.errorLines, errorLines_of_oneLine hone, if_pos hline]

/-- No record is a line of complaint, because the names of levels are in capitals. -/
theorem isErrorLine_record (r : Log.Record) : isErrorLine r.line = false := by
  cases hlevel : r.level <;>
    simp [isErrorLine, Log.Record.line, hlevel, Log.Level.name, String.toList_append,
      List.isPrefixOf]

/-- Notes say nothing on the standard output and hold no line of complaint. -/
theorem ofRecords_silent {threshold : Log.Level} {records : List Log.Record}
    (htidy : ∀ r ∈ records, OneLine r.line) :
    ∀ said ∈ Output.ofRecords threshold records, said.stdout = "" ∧ said.errorLines = [] := by
  intro said hsaid
  obtain ⟨r, hr, rfl⟩ := List.mem_map.mp hsaid
  refine ⟨rfl, ?_⟩
  rw [Output.errorLines, errorLines_of_oneLine (htidy r (List.mem_filter.mp hr).1),
    isErrorLine_record]
  rfl

end CommandLine

end Reckoner
