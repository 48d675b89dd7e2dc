import Reckoner.Proofs.Diagnostics
import Reckoner.Proofs.TextValue

/-!
# What is seen of an evaluation

Of a run three things are seen from outside once the log is left aside: how it ends, the standard
output, and the lines of complaint among the error output (`Seen`). A call of `eval` is described by
them completely. Each line that holds more than blanks shows its value or is complained about
(`seenOfLine`), and the whole is one after the other (`Seen.all`); so `seen_evalText` says.

Which executors were asked does not occur in that description. One of them, the other, or both in
comparison: every line has the same value under each (`Settings.textValue`), so there is never
anything to differ from, and what is left to tell the three kinds of call apart is the log.
-/

namespace Reckoner.CommandLine

/-- What is seen of a run, the log aside. -/
@[ext]
structure Seen where
  ending : Ending
  stdout : String
  errors : List String
  deriving DecidableEq, Repr

def Outcome.seen (o : Outcome) : Seen := ⟨o.ending, o.stdout, errorLines o.stderr⟩

/-- What is seen of a single line. -/
def seenOfLine (s : Settings) (line : String) : Seen :=
  match s.textValue line with
  | .ok v => ⟨.exit 0, Text.decimal v ++ "\n", []⟩
  | .error cause => ⟨.exit 1, "", ["error: " ++ cause.message]⟩

/-- What is seen of several parts one after the other. It ends well if every part does. -/
def Seen.all (parts : List Seen) : Seen where
  ending := .exit (if parts.all fun part => part.ending = .exit 0 then 0 else 1)
  stdout := String.join (parts.map Seen.stdout)
  errors := parts.flatMap Seen.errors

/-! ## The values of a line -/

theorem value_parseNoted (bound : Int) (text : String) :
    (Parser.parseNoted bound text).value = Parser.parse bound text := by
  rw [Parser.parseNoted]
  rcases Parser.parse bound text with e | t <;> rfl

section Executors

variable {s : Settings} {line : String} {kinds : List ExecutorKind}

theorem kind_executor (s : Settings) (vm : StackVm) (kind : ExecutorKind) :
    (s.executor vm kind).kind = kind := by
  cases kind <;> rfl

/-- Executors that all have a value for a tree are all asked. -/
theorem value_executeAll_of_ok {t : Expr} {v : Int}
    (h : ∀ kind, (s.executor .standard kind).outcome t = .ok v) (kinds : List ExecutorKind) :
    (executeAll (kinds.map (s.executor .standard)) t).value
      = .ok (kinds.map fun kind => (kind, v)) := by
  induction kinds with
  | nil => rfl
  | cons kind kinds ih =>
    have hfirst := h kind
    rw [Executor.outcome] at hfirst
    rw [List.map_cons, executeAll, Logged.value_bind, hfirst]
    dsimp only
    rw [Logged.value_bind, ih, kind_executor]
    rfl

/-- The first executor that fails is the last one that is asked. -/
theorem value_executeAll_of_error {t : Expr} {cause : CalcError} {kind : ExecutorKind}
    (h : (s.executor .standard kind).outcome t = .error cause) (kinds : List ExecutorKind) :
    (executeAll ((kind :: kinds).map (s.executor .standard)) t).value = .error cause := by
  rw [Executor.outcome] at h
  rw [List.map_cons, executeAll, Logged.value_bind, h]
  rfl

/-- **Every executor that is asked finds the value of the line.** -/
theorem value_evaluateLine (hkinds : kinds ≠ []) :
    (evaluateLine s (kinds.map (s.executor .standard)) line).value
      = (s.textValue line).map fun v => kinds.map fun kind => (kind, v) := by
  rw [evaluateLine, Logged.value_bind, value_parseNoted]
  rcases hparse : Parser.parse s.maxDepth.levels line with cause | t
  · rw [Settings.textValue_of_error hparse]
    rfl
  · dsimp only
    have houtcome := Settings.outcome_of_parse hparse
    rcases hvalue : s.textValue line with cause | v
    · obtain ⟨kind, rest, rfl⟩ := List.exists_cons_of_ne_nil hkinds
      rw [value_executeAll_of_error ((houtcome kind).trans hvalue)]
      rfl
    · rw [value_executeAll_of_ok fun kind => (houtcome kind).trans hvalue]
      rfl

theorem unbroken_executeAll (t : Expr) (kinds : List ExecutorKind) :
    (executeAll (kinds.map (s.executor .standard)) t).Unbroken := by
  induction kinds with
  | nil => exact Logged.unbroken_quietly _
  | cons kind kinds ih =>
    rw [List.map_cons, executeAll]
    refine (s.unbroken_execute kind t).bind ?_
    split
    · exact Logged.unbroken_quietly _
    · refine ih.bind ?_
      split <;> exact Logged.unbroken_quietly _

theorem unbroken_evaluateLine (kinds : List ExecutorKind) :
    (evaluateLine s (kinds.map (s.executor .standard)) line).Unbroken := by
  rw [evaluateLine]
  refine (Parser.unbroken_parseNoted _ line).bind ?_
  split
  · exact Logged.unbroken_quietly _
  · exact unbroken_executeAll _ kinds

/-! ## The report on a line -/

/-- What is said of a line, notes aside. -/
def lineReport (s : Settings) (line : String) : Output :=
  match s.textValue line with
  | .ok v => .line (Text.decimal v)
  | .error cause => .complaint cause.message

/-- A line is reported on once, and it went well if it has a value. -/
theorem evalLine_eq (threshold : Log.Level) (hkinds : kinds ≠ []) :
    evalLine s threshold (kinds.map (s.executor .standard)) line
      = (Output.ofRecords threshold
            (evaluateLine s (kinds.map (s.executor .standard)) line).records
          ++ [lineReport s line],
        decide ((seenOfLine s line).ending = .exit 0)) := by
  unfold evalLine lineReport seenOfLine
  dsimp only
  rw [value_evaluateLine hkinds]
  rcases s.textValue line with cause | v
  · rfl
  · obtain ⟨kind, rest, rfl⟩ := List.exists_cons_of_ne_nil hkinds
    -- The values behind the first are the same, so they do not differ from it.
    have hall : (rest.map fun kind => (kind, v)).all (fun other => other.2 = v) = true := by
      simp
    simp only [Except.map, List.map_cons, reportLine, hall, if_true]
    rfl

theorem unbroken_message_of_textValue {cause : CalcError} (h : s.textValue line = .error cause) :
    Unbroken cause.message := by
  rcases Settings.textValue_error_cases h with ⟨cause, hparse, rfl⟩ | ⟨_, cause, _, rfl⟩
  · exact Parser.unbroken_message_of_parse hparse
  · exact ExecutionError.unbroken_message_arithmetic cause

theorem oneLine_message_of_textValue {cause : CalcError} (h : s.textValue line = .error cause) :
    OneLine cause.message :=
  (unbroken_message_of_textValue h).oneLine

theorem stdout_lineReport (s : Settings) (line : String) :
    (lineReport s line).stdout = (seenOfLine s line).stdout := by
  unfold lineReport seenOfLine
  rcases s.textValue line with cause | v <;> rfl

theorem errorLines_lineReport (s : Settings) (line : String) :
    (lineReport s line).errorLines = (seenOfLine s line).errors := by
  unfold lineReport seenOfLine
  rcases hvalue : s.textValue line with cause | v
  · exact errorLines_complaint (oneLine_message_of_textValue hvalue)
  · rfl

/-- What says nothing on the standard output and holds no complaint does not show. -/
theorem silent_append {notes : List Output}
    (hsilent : ∀ said ∈ notes, said.stdout = "" ∧ said.errorLines = []) (rest : List Output) :
    String.join ((notes ++ rest).map Output.stdout) = String.join (rest.map Output.stdout)
      ∧ (notes ++ rest).flatMap Output.errorLines = rest.flatMap Output.errorLines := by
  induction notes with
  | nil => exact ⟨rfl, rfl⟩
  | cons said notes ih =>
    obtain ⟨hstdout, herrors⟩ := hsilent said List.mem_cons_self
    obtain ⟨ihstdout, iherrors⟩ := ih fun said' h => hsilent said' (List.mem_cons_of_mem _ h)
    rw [List.cons_append, List.map_cons, String.join_cons, List.flatMap_cons, hstdout, herrors,
      ihstdout, iherrors]
    exact ⟨String.empty_append, rfl⟩

/-! ## The report on a text -/

/-- Line after line, what is put out is what is seen of each. -/
theorem shown_evalLines (s : Settings) (threshold : Log.Level) (hkinds : kinds ≠ [])
    (lines : List String) :
    let said := lines.flatMap fun line =>
      (evalLine s threshold (kinds.map (s.executor .standard)) line).1
    String.join (said.map Output.stdout)
        = String.join (lines.map fun line => (seenOfLine s line).stdout)
      ∧ said.flatMap Output.errorLines = lines.flatMap fun line => (seenOfLine s line).errors := by
  dsimp only
  induction lines with
  | nil => exact ⟨rfl, rfl⟩
  | cons line lines ih =>
    obtain ⟨ihstdout, iherrors⟩ := ih
    obtain ⟨hstdout, herrors⟩ := silent_append
      (ofRecords_silent (unbroken_evaluateLine kinds).tidy :
        ∀ said ∈ Output.ofRecords threshold
          (evaluateLine s (kinds.map (s.executor .standard)) line).records, _)
      [lineReport s line]
    rw [List.flatMap_cons, evalLine_eq threshold hkinds, List.map_append, String.join_append,
      hstdout, ihstdout, List.flatMap_append, herrors, iherrors]
    constructor
    · rw [List.map_singleton, stdout_lineReport, List.map_cons, String.join_cons,
        String.join_cons, String.join_nil, String.append_empty]
    · rw [List.flatMap_singleton, errorLines_lineReport, List.flatMap_cons]

/-- **What is seen of a text is what is seen of its lines**, whichever executors are asked. -/
theorem seen_evalText (threshold : Log.Level) (hkinds : kinds ≠ []) {text : String}
    (hlines : expressionLines text ≠ []) :
    (evalText s threshold (kinds.map (s.executor .standard)) text).seen
      = Seen.all ((expressionLines text).map (seenOfLine s)) := by
  obtain ⟨hstdout, herrors⟩ := shown_evalLines s threshold hkinds (expressionLines text)
  unfold evalText
  split
  · contradiction
  · refine Seen.ext ?_ ?_ ?_
    · simp only [Outcome.seen, Seen.all, List.all_map, Function.comp_def,
        evalLine_eq threshold hkinds]
    · dsimp only [Outcome.seen, Outcome.stdout, Seen.all]
      rw [List.flatMap_map, hstdout, List.map_map]
      rfl
    · dsimp only [Outcome.seen, Seen.all]
      rw [errorLines_stderr, List.flatMap_map, herrors, List.flatMap_map]

/-- What is put on the error output is that there is nothing to evaluate, or a note on a line, or
the complaint about one. -/
theorem errorLine_mem_evalText {threshold : Log.Level} (hkinds : kinds ≠ []) {text said : String}
    (h : .errorLine said
      ∈ (evalText s threshold (kinds.map (s.executor .standard)) text).output) :
    said = "error: podaj wyrażenie przez --text, --file lub stdin"
      ∨ ∃ line,
          (∃ r ∈ (evaluateLine s (kinds.map (s.executor .standard)) line).records, said = r.line)
            ∨ ∃ cause, s.textValue line = .error cause ∧ said = "error: " ++ cause.message := by
  unfold evalText at h
  split at h
  · cases List.mem_singleton.mp h
    exact Or.inl rfl
  · obtain ⟨report, hreport, hsaid⟩ := List.mem_flatMap.mp h
    obtain ⟨line, _, rfl⟩ := List.mem_map.mp hreport
    refine Or.inr ⟨line, ?_⟩
    rw [evalLine_eq threshold hkinds] at hsaid
    rcases List.mem_append.mp hsaid with hnote | hline
    · obtain ⟨r, hr, hnote⟩ := List.mem_map.mp hnote
      cases hnote
      exact Or.inl ⟨r, (List.mem_filter.mp hr).1, rfl⟩
    · rw [List.mem_singleton] at hline
      unfold lineReport at hline
      split at hline
      · cases hline
      · next cause hcause =>
        cases hline
        exact Or.inr ⟨cause, hcause, rfl⟩

/-- What is seen of a run of `eval` does not depend on which executors are asked. -/
theorem seen_evalText_congr (threshold : Log.Level) (hkinds : kinds ≠ [])
    {kinds' : List ExecutorKind} (hkinds' : kinds' ≠ []) (text : String) :
    (evalText s threshold (kinds.map (s.executor .standard)) text).seen
      = (evalText s threshold (kinds'.map (s.executor .standard)) text).seen := by
  by_cases hlines : expressionLines text = []
  · unfold evalText
    rw [hlines]
  · rw [seen_evalText threshold hkinds hlines, seen_evalText threshold hkinds' hlines]

end Executors

/-! ## Calls -/

section Calls

variable {world : Surroundings} {arguments : List String} {c : Call}

theorem run_of_unusable (hcall : call arguments = .ok c) {cause : Settings.Unusable}
    (h : Settings.ofSources world.sources = .error cause) :
    run world arguments = unusableOutcome cause := by
  rw [run_eq_carryOut hcall, carryOut, h]

theorem run_of_unknownLevel (hcall : call arguments = .ok c) {settings : Settings}
    (hsettings : Settings.ofSources world.sources = .ok settings) {cause : Log.Level.Unknown}
    (hlevel : Log.Level.ofName settings.logLevel = .error cause) :
    run world arguments = ⟨[], .breakdown (.unknownLevel cause)⟩ := by
  rw [run_eq_carryOut hcall, carryOut, hsettings]
  dsimp only
  rw [hlevel]

end Calls

/-! ## Calls of `eval` -/

/-- The executors of a call are executors of the settings, and there is at least one. -/
theorem exists_executorsFor (s : Settings) (vm : StackVm) (request : Request) :
    ∃ kinds, kinds ≠ [] ∧ executorsFor s vm request = kinds.map (s.executor vm) := by
  refine ⟨_, ?_, rfl⟩
  split
  · exact List.cons_ne_nil _ _
  · exact List.cons_ne_nil _ _

theorem inputText_congr (world : Surroundings) {request request' : Request}
    (htext : request.text = request'.text) (hfile : request.file = request'.file) :
    inputText world request = inputText world request' := by
  rw [inputText, inputText, htext, hfile]

/-- **Calls that read the same text show the same**, whichever executors they ask for. -/
theorem seen_carryOut_congr {world : Surroundings} (hvm : world.vm = .standard)
    {request request' : Request} (htext : request.text = request'.text)
    (hfile : request.file = request'.file) :
    (carryOut world ⟨.eval, request⟩).seen = (carryOut world ⟨.eval, request'⟩).seen := by
  unfold carryOut
  dsimp only
  rw [inputText_congr world htext hfile]
  split
  · rfl
  · next s _ =>
    split
    · rfl
    · next threshold _ =>
      split
      · rfl
      · next text _ =>
        obtain ⟨kinds, hkinds, hfor⟩ := exists_executorsFor s .standard request
        obtain ⟨kinds', hkinds', hfor'⟩ := exists_executorsFor s .standard request'
        unfold perform
        dsimp only
        rw [hvm, hfor, hfor']
        exact seen_evalText_congr threshold hkinds hkinds' text

/-! ## No disagreement -/

/-- Whether a line on the error output complains that executors disagree. -/
def announcesDisagreement (line : String) : Bool :=
  "error: executors disagree".toList.isPrefixOf line.toList

theorem announcesDisagreement_record (r : Log.Record) :
    announcesDisagreement r.line = false := by
  cases hlevel : r.level <;>
    simp [announcesDisagreement, Log.Record.line, hlevel, Log.Level.name, List.isPrefixOf]

theorem announcesDisagreement_of_textValue {s : Settings} {line : String} {cause : CalcError}
    (h : s.textValue line = .error cause) :
    announcesDisagreement ("error: " ++ cause.message) = false := by
  rcases Settings.textValue_error_cases h with ⟨e, _, rfl⟩ | ⟨_, e, _, rfl⟩
  · unfold announcesDisagreement CalcError.message SyntaxError.message
    simp [List.isPrefixOf]
  · unfold announcesDisagreement CalcError.message ExecutionError.message
    cases e <;> simp [List.isPrefixOf]

theorem no_disagreement_evalText {s : Settings} {threshold : Log.Level}
    {kinds : List ExecutorKind} (hkinds : kinds ≠ []) {text line : String}
    (h : .errorLine line ∈ (evalText s threshold (kinds.map (s.executor .standard)) text).output) :
    announcesDisagreement line = false := by
  rcases errorLine_mem_evalText hkinds h with rfl | ⟨_, ⟨r, _, rfl⟩ | ⟨cause, hcause, rfl⟩⟩
  · simp [announcesDisagreement, List.isPrefixOf]
  · exact announcesDisagreement_record r
  · exact announcesDisagreement_of_textValue hcause

theorem no_disagreement_carryOut {world : Surroundings} (hvm : world.vm = .standard)
    {request : Request} {line : String}
    (h : .errorLine line ∈ (carryOut world ⟨.eval, request⟩).output) :
    announcesDisagreement line = false := by
  unfold carryOut at h
  split at h
  · -- the settings cannot be used
    next cause _ =>
    cases cause with
    | unreadable => exact absurd h List.not_mem_nil
    | undecodable => exact absurd h List.not_mem_nil
    | issues issues =>
      cases List.mem_singleton.mp h
      unfold configurationComplaint
      split <;> simp [announcesDisagreement, List.isPrefixOf]
  · next s _ =>
    split at h
    · cases h
    · split at h
      · next failure _ =>
        cases failure with
        | unreadable path cause =>
          cases List.mem_singleton.mp h
          simp [announcesDisagreement, List.isPrefixOf]
        | breakdown cause => cases h
      · obtain ⟨kinds, hkinds, hfor⟩ := exists_executorsFor s .standard request
        unfold perform at h
        dsimp only at h
        rw [hvm, hfor] at h
        exact no_disagreement_evalText hkinds h

/-- **Asking both executors shows what asking either shows.** Under any settings either executor can
be had by its name, and on every tree that the parser gives under those settings the interpreter
does not complain about depth and agrees with the machine. So a call that compares the two never
complains of a disagreement, and a call that differs from it only in asking for one of them ends the
same, prints the same and complains the same. -/
theorem compare_shows_what_each_executor_shows :
    (∀ (settings : Settings) (sources : Settings.Sources), ∃ interpreter vm : Executor,
        ExecutorKind.obtain "interpreter" (some settings) sources = .ok interpreter
          ∧ ExecutorKind.obtain "vm" (some settings) sources = .ok vm
          ∧ ∀ (text : String) (t : Expr),
              Parser.parse settings.maxDepth.levels text = .ok t →
              (∀ bound, interpreter.outcome t ≠ .error (.execution (.tooDeep bound)))
                ∧ interpreter.outcome t = vm.outcome t)
      ∧ ∀ (world : Surroundings) (arguments : List String) (request : Request),
          world.vm = .standard → call arguments = .ok ⟨.eval, request⟩ → request.compare = true →
          (∀ line, .errorLine line ∈ (run world arguments).output →
              announcesDisagreement line = false)
            ∧ ∀ (kind : ExecutorKind) (arguments' : List String),
                call arguments'
                  = .ok ⟨.eval, { request with executor := some kind, compare := false }⟩ →
                (run world arguments).seen = (run world arguments').seen := by
  constructor
  · intro settings sources
    refine ⟨settings.executor .standard .interpreter, settings.executor .standard .vm, rfl, rfl, ?_⟩
    intro text t h
    rw [Settings.outcome_of_parse h, Settings.outcome_of_parse h]
    refine ⟨?_, rfl⟩
    intro bound hdeep
    rcases Settings.textValue_error_cases hdeep with ⟨_, _, hx⟩ | ⟨_, _, _, hx⟩
    · cases hx
    · cases hx
  · intro world arguments request hvm hcall _
    rw [run_eq_carryOut hcall]
    refine ⟨fun line h => no_disagreement_carryOut hvm h, ?_⟩
    intro kind arguments' hcall'
    rw [run_eq_carryOut hcall']
    exact seen_carryOut_congr hvm rfl rfl

/-- One line that fails and one that does not, on the standard input: both executors in comparison
show what the machine alone shows. -/
theorem compare_shows_what_each_executor_shows_at_failure :
    call ["eval", "--compare"] = .ok ⟨.eval, { compare := true }⟩
      ∧ call ["eval", "--executor", "vm"] = .ok ⟨.eval, { executor := some .vm }⟩
      ∧ (run { stdin := "1/0\n7/2" } ["eval", "--compare"]).seen
          = (run { stdin := "1/0\n7/2" } ["eval", "--executor", "vm"]).seen := by
  have hcompare : call ["eval", "--compare"] = .ok ⟨.eval, { compare := true }⟩ := by decide
  have hvm : call ["eval", "--executor", "vm"] = .ok ⟨.eval, { executor := some .vm }⟩ := by decide
  refine ⟨hcompare, hvm, ?_⟩
  exact (compare_shows_what_each_executor_shows.2 _ _ _ rfl hcompare rfl).2 .vm _ hvm

end Reckoner.CommandLine
