import Reckoner.Proofs.LineIndependence

/-!
# One line of complaint for a line that fails

A text that is evaluated is divided into lines at ten different characters, and whoever reads the
error output may divide it in the same way (`complaintLines`) or at line feeds only (`errorLines`).
Both find the same complaints, because nothing that a run of `eval` says holds any of the ten
(`unbroken_of_mem_evalText`): a message may quote whatever was read, but it quotes it escaped. So a
line that fails is answered by one line of complaint, and other lines by none.

An error of syntax gives the row that it was found in, and only a line feed starts a new row. A line
that is evaluated holds none, so `eval` never speaks of another row than the first.
-/

namespace Reckoner

/-! ## Failures -/

namespace Parser

/-- In a text of one line every error is in row 1. -/
theorem line_of_parse_of_oneLine {bound : Int} {text : String} {e : SyntaxError}
    (hone : OneLine text) (h : parse bound text = .error e) : e.line = 1 := by
  rw [parse] at h
  split at h
  · cases h
  · next stop _ =>
    cases h
    have hcount : (text.toList.take (text.toList.length - stop.rest.length)).count '\n' = 0 :=
      List.count_eq_zero.mpr fun hmem => hone (List.mem_of_mem_take hmem)
    rw [SyntaxError.ofStop]
    dsimp only
    rw [Position.after, hcount]
    rfl

/-- A character at which no number starts is shown with all that follows it. -/
theorem parse_plus (bound : Int) (rest : List Char) :
    parse bound (String.ofList ('+' :: rest))
      = .error ⟨"expected a number", 1, 1, String.ofList ('+' :: rest)⟩ := by
  have hstop : parseChars bound ('+' :: rest) = .error ⟨.numberExpected, '+' :: rest⟩ := rfl
  rw [parse, String.toList_ofList, hstop]
  dsimp only [SyntaxError.ofStop]
  rw [Nat.sub_self, List.take_zero]
  rfl

end Parser

theorem ExecutionError.unbroken_message_tooDeep (bound : Int) :
    Unbroken (ExecutionError.tooDeep bound).message := by
  unfold ExecutionError.message
  simp +decide

/-- The executors fail on a tree of numbers and operators for its arithmetic or for its depth, and
say so in a single line. -/
theorem Settings.unbroken_message_of_outcome {s : Settings} {kind : ExecutorKind} {t : Expr}
    {cause : CalcError} (hpure : t.Pure)
    (h : (s.executor .standard kind).outcome t = .error cause) : Unbroken cause.message := by
  have hfree : ∀ {x : ExecutionError}, Interpreter.evaluateFreely t = .error x →
      Unbroken x.message := by
    intro x hx
    obtain ⟨fault, rfl⟩ := Interpreter.evaluateFreely_error_arithmetic hpure hx
    exact ExecutionError.unbroken_message_arithmetic fault
  cases kind with
  | interpreter =>
    rw [executor, Executor.outcome_interpreter] at h
    obtain ⟨x, hx, rfl⟩ := mapError_eq_error_iff.mp h
    rw [Interpreter.evaluate] at hx
    rcases Interpreter.evaluateAt_tooDeep_or_eq s.maxDepth.levels 0 t with hdeep | heq
    · rw [← Except.error.inj (hdeep.symm.trans hx)]
      exact ExecutionError.unbroken_message_tooDeep _
    · exact hfree (heq.symm.trans hx)
  | vm =>
    rw [executor, Executor.outcome_vm_of_pure hpure] at h
    obtain ⟨x, hx, rfl⟩ := mapError_eq_error_iff.mp h
    exact hfree hx

/-! ## Lines of the error output -/

theorem Text.lines_append_newline {a : String} (ha : Unbroken a) (b : String) :
    lines (a ++ "\n" ++ b) = a :: lines b := by
  have hjoined : (a ++ "\n" ++ b).toList = a.toList ++ '\n' :: b.toList := by
    simp [String.toList_append]
  rw [lines, hjoined, linesFrom_append_of_no_lineEnd ha, linesFrom_feed, List.append_nil,
    List.reverse_reverse, List.map_cons, String.ofList_toList, lines]

namespace CommandLine

/-- The lines of complaint of a text that is divided into lines at every end of one. -/
def complaintLines (text : String) : List String := (Text.lines text).filter isErrorLine

/-- **Where nothing that is said holds an end of a line, it does not matter which of them divide the
error output.** -/
theorem complaintLines_stderr {o : Outcome}
    (h : ∀ text, .errorLine text ∈ o.output → Unbroken text) :
    complaintLines o.stderr = errorLines o.stderr := by
  rw [Outcome.stderr]
  generalize o.output = output at h
  induction output with
  | nil => rfl
  | cons said rest ih =>
    have hrest := ih fun text htext => h text (List.mem_cons_of_mem _ htext)
    rw [List.map_cons, String.join_cons]
    cases said with
    | line text => rw [Output.stderr, String.empty_append, hrest]
    | errorLine text =>
      have htext : Unbroken text := h text List.mem_cons_self
      rw [Output.stderr, errorLines_append_newline, errorLines_of_oneLine htext.oneLine, ← hrest,
        complaintLines, Text.lines_append_newline htext, List.filter_cons, complaintLines]
      split <;> rfl

section Evaluation

variable {s : Settings} {kinds : List ExecutorKind} {text : String}

theorem unbroken_of_mem_evalText {threshold : Log.Level} (hkinds : kinds ≠ []) {said : String}
    (h : .errorLine said
      ∈ (evalText s threshold (kinds.map (s.executor .standard)) text).output) :
    Unbroken said := by
  rcases errorLine_mem_evalText hkinds h with rfl | ⟨_, ⟨r, hr, rfl⟩ | ⟨cause, hcause, rfl⟩⟩
  · decide
  · exact unbroken_evaluateLine kinds r hr
  · exact unbroken_append.mpr ⟨by decide, unbroken_message_of_textValue hcause⟩

/-- Why a line has no values under several executors, if it has none. -/
def lineFailure? (s : Settings) (executors : List Executor) (line : String) : Option CalcError :=
  match (evaluateLine s executors line).value with
  | .error cause => some cause
  | .ok _ => none

theorem lineFailure?_eq_some_iff (hkinds : kinds ≠ []) {line : String} {cause : CalcError} :
    lineFailure? s (kinds.map (s.executor .standard)) line = some cause
      ↔ s.textValue line = .error cause := by
  rw [lineFailure?, value_evaluateLine hkinds]
  rcases s.textValue line with cause' | v <;> simp [Except.map]

/-- Why the lines of a text that fail under several executors do so, in order. -/
def lineFailures (s : Settings) (executors : List Executor) (text : String) : List CalcError :=
  (expressionLines text).filterMap (lineFailure? s executors)

theorem errors_all_seenOfLine (hkinds : kinds ≠ []) :
    (Seen.all ((expressionLines text).map (seenOfLine s))).errors
      = (lineFailures s (kinds.map (s.executor .standard)) text).map
          fun cause => "error: " ++ cause.message := by
  have hline : ∀ line, (seenOfLine s line).errors
      = ((lineFailure? s (kinds.map (s.executor .standard)) line).map
          fun cause => "error: " ++ cause.message).toList := by
    intro line
    rw [lineFailure?, value_evaluateLine hkinds, seenOfLine]
    rcases s.textValue line with cause | v <;> rfl
  dsimp only [Seen.all]
  rw [List.flatMap_map, lineFailures, List.map_filterMap, List.filterMap_eq_flatMap_toList]
  exact List.flatMap_congr fun line _ => hline line

end Evaluation

/-- A line that fails for its syntax does so in its first row, being the only one it has. -/
theorem line_of_mem_lineFailures {s : Settings} {kinds : List ExecutorKind} (hkinds : kinds ≠ [])
    {text : String} {e : SyntaxError}
    (h : .parse e ∈ lineFailures s (kinds.map (s.executor .standard)) text) : e.line = 1 := by
  obtain ⟨line, hline, hfailure⟩ := List.mem_filterMap.mp h
  have hvalue := (lineFailure?_eq_some_iff hkinds).mp hfailure
  rcases Settings.textValue_error_cases hvalue with ⟨cause, hparse, hcause⟩ | ⟨_, _, _, hcause⟩
  · cases hcause
    exact Parser.line_of_parse_of_oneLine (unbroken_of_mem_expressionLines hline).1.oneLine hparse
  · cases hcause

/-- **Diagnostics are single lines.** Under any bound, the message of an error of syntax holds no
end of a line, although any character may occur in the fragment that it shows; and neither does the
message of any failure of either executor on a tree that comes from the parser. So in every run of
`eval` each line that fails is answered by one line of complaint, in the order of the lines, and
there is no other, whether the error output is divided at line feeds or at every end of a line.
Every error of syntax among them is one of row 1. -/
theorem diagnostics_are_single_lines :
    (∀ (bound : Int) (text : String) (e : SyntaxError),
        Parser.parse bound text = .error e → Unbroken e.message)
      ∧ (∀ (bound : Int) (c : Char), ∃ text e,
          Parser.parse bound text = .error e ∧ c ∈ e.fragment.toList)
      ∧ (∀ (bound : Int) (text : String) (t : Expr), Parser.parse bound text = .ok t →
          ∀ (settings : Settings) (kind : ExecutorKind) (cause : CalcError),
            (settings.executor .standard kind).outcome t = .error cause →
            Unbroken cause.message)
      ∧ ∀ (sources : Settings.Sources) (settings : Settings), WorksUnder sources settings →
          ∀ (executor : Option ExecutorKind) (compare : Bool) (text : String),
            expressionLines text ≠ [] →
            ∀ evaluation : Evaluation sources executor compare text,
              let failures := lineFailures settings
                (executorsFor settings evaluation.world.vm evaluation.request) text
              complaintLines evaluation.outcome.stderr
                  = failures.map (fun cause => "error: " ++ cause.message)
                ∧ errorLines evaluation.outcome.stderr
                  = failures.map (fun cause => "error: " ++ cause.message)
                ∧ ∀ e, .parse e ∈ failures → e.line = 1 := by
  refine ⟨fun bound text e h => Parser.unbroken_message_of_parse h, ?_, ?_, ?_⟩
  · intro bound c
    exact ⟨_, _, Parser.parse_plus bound [c], by rw [String.toList_ofList]; simp⟩
  · intro bound text t hparse settings kind cause hcause
    exact Settings.unbroken_message_of_outcome (Parser.pure_of_parse hparse) hcause
  · intro sources settings hworks executor compare text hlines evaluation
    obtain ⟨kinds, hkinds, hfor⟩ := exists_executorsFor settings .standard evaluation.request
    dsimp only
    rw [evaluation.vm_eq, hfor]
    have herrors : errorLines evaluation.outcome.stderr
        = (lineFailures settings (kinds.map (settings.executor .standard)) text).map
            fun cause => "error: " ++ cause.message := by
      rw [← errors_all_seenOfLine hkinds, ← evaluation.seen_outcome hworks hlines, Outcome.seen]
    have hsame : complaintLines evaluation.outcome.stderr
        = errorLines evaluation.outcome.stderr := by
      refine complaintLines_stderr ?_
      intro said hsaid
      obtain ⟨threshold, read, _, houtcome⟩ := evaluation.exists_outcome_eq hworks
      rw [houtcome, hfor] at hsaid
      exact unbroken_of_mem_evalText hkinds hsaid
    exact ⟨hsame.trans herrors, herrors, fun e he => line_of_mem_lineFailures hkinds he⟩

/-- A fragment with a line separator, an apostrophe and a line feed in it; a division by zero; and a
text of three lines, a line separator and a vertical tab between them, of which two fail. -/
theorem diagnostics_are_single_lines_at_line_ends :
    (let e : SyntaxError := ⟨"unexpected trailing input", 1, 3, "\u2028'\n"⟩
    Parser.parse 1 "1 \u2028'\n" = .error e ∧ Unbroken e.message)
      ∧ (let cause : CalcError := .execution (.arithmetic (.divisionByZero 1))
        Parser.parse 1 "1/0" = .ok (.binary .div (.number 1) (.number 0))
          ∧ (Settings.executor {} .standard .vm).outcome (.binary .div (.number 1) (.number 0))
              = .error cause
          ∧ Unbroken cause.message)
      ∧ WorksUnder {} {} ∧ expressionLines "1/0\u20287\x0b+" = ["1/0", "7", "+"]
      ∧ complaintLines (Evaluation.ofStdin {} none true "1/0\u20287\x0b+").outcome.stderr
          = [ "error: attempt to divide by zero: 1 / 0",
              "error: syntax error in row 1, column 1: expected a number: '+'" ] := by
  have hfragment : Parser.parse 1 "1 \u2028'\n"
      = .error ⟨"unexpected trailing input", 1, 3, "\u2028'\n"⟩ := by decide +kernel
  have hquotient : Parser.parse 1 "1/0" = .ok (.binary .div (.number 1) (.number 0)) := by
    decide +kernel
  have hdivision : (Settings.executor {} .standard .vm).outcome
      (.binary .div (.number 1) (.number 0))
        = .error (.execution (.arithmetic (.divisionByZero 1))) := by decide +kernel
  have hworks : WorksUnder {} {} := ⟨rfl, .info, rfl⟩
  have hlines : expressionLines "1/0\u20287\x0b+" = ["1/0", "7", "+"] := by decide
  refine ⟨⟨hfragment, diagnostics_are_single_lines.1 _ _ _ hfragment⟩,
    ⟨hquotient, hdivision, diagnostics_are_single_lines.2.2.1 _ _ _ hquotient _ _ _ hdivision⟩,
    hworks, hlines, ?_⟩
  rw [(diagnostics_are_single_lines.2.2.2 _ _ hworks _ _ _
    (by rw [hlines]; exact List.cons_ne_nil _ _) _).1]
  decide +kernel

end CommandLine

end Reckoner
