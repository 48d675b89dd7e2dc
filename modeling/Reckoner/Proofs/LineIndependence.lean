import Reckoner.Proofs.EvalCommand

/-!
# Lines are evaluated independently of each other

A text is divided into lines at many characters, a carriage return and a line feed behind it make
one end of a line, and lines that hold nothing but blanks are passed over. Still, what counts of a
text is put together from what counts of its parts: two texts with a line feed between them have
the lines of the first and then those of the second (`expressionLines_append`). Even where the first
ends with a carriage return, with which the line feed joins up, only an empty line is lost by it.
For the same reason it does not matter that the ends of lines are unified when a text is read from
outside (`expressionLines_unifyLineEnds`).

What is seen of a text is what is seen of its lines, one after the other (`seen_evalText`). So what
is seen of two texts with a line feed between them is what is seen of each, and every line
contributes what it shows when it is all there is.
-/

namespace Reckoner

/-! ## Lines -/

namespace Text

theorem linesFrom_cons {c : Char} {rest : List Char} (h : c = '\r' → rest.head? ≠ some '\n')
    (current : List Char) :
    linesFrom current (c :: rest)
      = if isLineEnd c then current.reverse :: linesFrom [] rest
        else linesFrom (c :: current) rest := by
  rw [linesFrom]
  rintro rest' hc rfl
  exact h hc rfl

theorem linesFrom_feed (current rest : List Char) :
    linesFrom current ('\n' :: rest) = current.reverse :: linesFrom [] rest := by
  rw [linesFrom_cons (fun h => absurd h (by decide)), if_pos (by decide)]

/-- Unifying the ends of lines changes no line. -/
theorem linesFrom_unifyLineEnds (s current : List Char) :
    linesFrom current (unifyLineEnds s) = linesFrom current s := by
  fun_induction unifyLineEnds s generalizing current with
  | case1 => rfl
  | case2 rest ih => rw [linesFrom_feed, linesFrom, ih]
  | case3 rest hrest ih =>
    have hhead : rest.head? ≠ some '\n' := by
      intro h
      obtain ⟨rest', rfl⟩ := List.head?_eq_some_iff.mp h
      exact hrest rest' rfl
    rw [linesFrom_feed, linesFrom_cons (fun _ => hhead), if_pos (by decide), ih]
  | case4 c rest _ hreturn ih =>
    rw [linesFrom_cons (fun h => (hreturn h).elim), linesFrom_cons (fun h => (hreturn h).elim), ih,
      ih]

/-- **Of two texts with a line feed between them the lines are those of the first and then those of
the second**, but for empty ones. -/
theorem filter_linesFrom_append {p : List Char → Bool} (hp : p [] = false)
    (current s t : List Char) :
    (linesFrom current (s ++ '\n' :: t)).filter p
      = (linesFrom current s).filter p ++ (linesFrom [] t).filter p := by
  fun_induction linesFrom current s with
  | case1 current hempty =>
    -- The line feed ends a line that is empty.
    rw [List.nil_append, linesFrom_feed, List.isEmpty_iff.mp hempty, List.reverse_nil,
      List.filter_cons, hp]
    rfl
  | case2 current hopen =>
    rw [List.nil_append, linesFrom_feed, ← List.filter_append, List.singleton_append]
  | case3 current rest ih =>
    rw [List.cons_append, List.cons_append, linesFrom, List.filter_cons, List.filter_cons, ih]
    split <;> rfl
  | case4 current c rest hpair hend ih =>
    by_cases hjoin : c = '\r' ∧ rest = []
    · -- The line feed is the second half of the end of a line, and no line is left open.
      obtain ⟨rfl, rfl⟩ := hjoin
      rw [List.singleton_append, linesFrom, linesFrom, if_pos (by rfl), ← List.filter_append,
        List.singleton_append]
    · have hnot : c = '\r' → (rest ++ '\n' :: t).head? ≠ some '\n' := by
        intro hc
        cases rest with
        | nil => exact absurd ⟨hc, rfl⟩ hjoin
        | cons d rest =>
          intro hd
          cases hd
          exact hpair rest hc rfl
      rw [List.cons_append, linesFrom_cons hnot, if_pos hend, List.filter_cons, List.filter_cons,
        ih]
      split <;> rfl
  | case5 current c rest hpair hend ih =>
    have hc : c ≠ '\r' := by
      rintro rfl
      exact hend (by decide)
    rw [List.cons_append, linesFrom_cons (fun h => absurd h hc), if_neg hend, ih]

/-- No line holds an end of a line. -/
theorem isLineEnd_of_mem_linesFrom {current s line : List Char}
    (hcurrent : ∀ c ∈ current, isLineEnd c = false) (h : line ∈ linesFrom current s) :
    ∀ c ∈ line, isLineEnd c = false := by
  have hreverse : ∀ c ∈ current.reverse, isLineEnd c = false := by
    intro c hc
    exact hcurrent c (List.mem_reverse.mp hc)
  have hnil : ∀ c ∈ ([] : List Char), isLineEnd c = false :=
    fun _ hc => absurd hc List.not_mem_nil
  fun_induction linesFrom current s with
  | case1 current hempty => cases h
  | case2 current hopen =>
    rw [List.mem_singleton.mp h]
    exact hreverse
  | case3 current rest ih =>
    rcases List.mem_cons.mp h with rfl | h
    · exact hreverse
    · exact ih hnil h hnil
  | case4 current c rest _ _ ih =>
    rcases List.mem_cons.mp h with rfl | h
    · exact hreverse
    · exact ih hnil h hnil
  | case5 current c rest _ hend ih =>
    have hgrown : ∀ d ∈ c :: current, isLineEnd d = false := by
      rw [List.forall_mem_cons]
      exact ⟨Bool.eq_false_iff.mpr hend, hcurrent⟩
    refine ih hgrown h ?_
    intro d hd
    exact hgrown d (List.mem_reverse.mp hd)

/-- What holds no end of a line is added to the line that is being read. -/
theorem linesFrom_append_of_no_lineEnd {s : List Char} (h : ∀ c ∈ s, isLineEnd c = false)
    (current rest : List Char) :
    linesFrom current (s ++ rest) = linesFrom (s.reverse ++ current) rest := by
  induction s generalizing current with
  | nil => rfl
  | cons c s ih =>
    have hc : isLineEnd c = false := h c List.mem_cons_self
    have hreturn : c ≠ '\r' := by
      rintro rfl
      exact absurd hc (by decide)
    rw [List.cons_append, linesFrom_cons (fun e => absurd e hreturn), hc,
      if_neg Bool.false_ne_true, ih fun d hd => h d (List.mem_cons_of_mem _ hd)]
    simp

/-- A text without an end of a line is read up to its end. -/
theorem linesFrom_of_no_lineEnd {s : List Char} (h : ∀ c ∈ s, isLineEnd c = false)
    (current : List Char) : linesFrom current s = linesFrom (s.reverse ++ current) [] := by
  rw [← linesFrom_append_of_no_lineEnd h, List.append_nil]

end Text

namespace CommandLine

/-- Whether a line holds more than blanks. -/
def holdsMore (line : List Char) : Bool := !line.all Text.isBlank

theorem expressionLines_eq (text : String) :
    expressionLines text
      = ((Text.linesFrom [] text.toList).filter holdsMore).map String.ofList := by
  rw [expressionLines, Text.lines, List.filter_map]
  congr 1
  refine List.filter_congr ?_
  intro line _
  rw [Function.comp_apply, String.toList_ofList, holdsMore]

theorem expressionLines_unifyLineEnds (s : List Char) :
    expressionLines (String.ofList (Text.unifyLineEnds s)) = expressionLines (String.ofList s) := by
  rw [expressionLines_eq, expressionLines_eq, String.toList_ofList, String.toList_ofList,
    Text.linesFrom_unifyLineEnds]

/-- **The lines to evaluate of two texts with a line feed between them are those of the first and
then those of the second.** -/
theorem expressionLines_append (a b : String) :
    expressionLines (a ++ "\n" ++ b) = expressionLines a ++ expressionLines b := by
  have hjoined : (a ++ "\n" ++ b).toList = a.toList ++ '\n' :: b.toList := by
    simp [String.toList_append]
  rw [expressionLines_eq, hjoined, Text.filter_linesFrom_append (by rfl), List.map_append,
    ← expressionLines_eq, ← expressionLines_eq]

/-- A line that is evaluated holds more than blanks and no end of a line. -/
theorem unbroken_of_mem_expressionLines {text line : String} (h : line ∈ expressionLines text) :
    Unbroken line ∧ holdsMore line.toList = true := by
  rw [expressionLines_eq] at h
  obtain ⟨chars, hchars, rfl⟩ := List.mem_map.mp h
  obtain ⟨hmem, hmore⟩ := List.mem_filter.mp hchars
  rw [Unbroken, String.toList_ofList]
  exact ⟨Text.isLineEnd_of_mem_linesFrom (fun _ hc => absurd hc List.not_mem_nil) hmem, hmore⟩

/-- A line that is evaluated is, as a text of its own, the one line of it. -/
theorem expressionLines_of_mem {text line : String} (h : line ∈ expressionLines text) :
    expressionLines line = [line] := by
  obtain ⟨hends, hmore⟩ := unbroken_of_mem_expressionLines h
  have hne : line.toList ≠ [] := by
    intro hnil
    rw [hnil] at hmore
    cases hmore
  rw [expressionLines_eq, Text.linesFrom_of_no_lineEnd hends, Text.linesFrom]
  simp [hne, hmore]

/-! ## Runs of `eval` -/

/-- The text that a run works on, as it stands where it comes from. -/
inductive Reads (world : Surroundings) (request : Request) : String → Prop
  | given {text : String} (htext : nonempty? request.text = some text) : Reads world request text
  | fromFile {name : String} {bytes : List UInt8} {chars : List Char}
      (htext : nonempty? request.text = none) (hname : nonempty? request.file = some name)
      (hnul : name.toList.contains '\x00' = false)
      (hbytes : world.bytesOf (tidyPath name) = .ok bytes)
      (hchars : Text.Utf8.decode bytes = .ok chars) : Reads world request (String.ofList chars)
  | fromStdin (htext : nonempty? request.text = none) (hfile : nonempty? request.file = none) :
      Reads world request world.stdin

/-- The text is there, and it has the lines that it had where it comes from. -/
theorem Reads.exists_inputText {world : Surroundings} {request : Request} {text : String}
    (h : Reads world request text) :
    ∃ read, inputText world request = .ok read ∧ expressionLines read = expressionLines text := by
  unfold inputText
  cases h with
  | given htext => exact ⟨text, by rw [htext], rfl⟩
  | @fromFile name bytes chars htext hname hnul hbytes hchars =>
    refine ⟨_, ?_, expressionLines_unifyLineEnds chars⟩
    rw [htext, hname]
    dsimp only
    rw [fileText, hnul, if_neg Bool.false_ne_true, hbytes]
    dsimp only
    rw [hchars]
  | fromStdin htext hfile =>
    refine ⟨_, ?_, (expressionLines_unifyLineEnds world.stdin.toList).trans ?_⟩
    · rw [htext, hfile]
    · rw [String.ofList_toList]

/-- A run of `eval` on a text, from given sources of settings and with given flags. -/
structure Evaluation (sources : Settings.Sources) (executor : Option ExecutorKind)
    (compare : Bool) (text : String) where
  world : Surroundings
  arguments : List String
  request : Request
  sources_eq : world.sources = sources
  vm_eq : world.vm = .standard
  call_eq : call arguments = .ok ⟨.eval, request⟩
  executor_eq : request.executor = executor
  compare_eq : request.compare = compare
  reads : Reads world request text

/-- The sources give settings that a run can work under: they are read, and the level they name for
the log is one. -/
def WorksUnder (sources : Settings.Sources) (settings : Settings) : Prop :=
  Settings.ofSources sources = .ok settings
    ∧ ∃ threshold, Log.Level.ofName settings.logLevel = .ok threshold

namespace Evaluation

variable {sources : Settings.Sources} {settings : Settings} {executor : Option ExecutorKind}
  {compare : Bool} {text : String}

def outcome (evaluation : Evaluation sources executor compare text) : Outcome :=
  run evaluation.world evaluation.arguments

/-- The flags as arguments. -/
def flags (executor : Option ExecutorKind) (compare : Bool) : List String :=
  (match executor with
    | none => []
    | some kind => ["--executor", kind.name])
  ++ if compare then ["--compare"] else []

/-- Every text can be evaluated, since it may stand on the standard input. -/
def ofStdin (sources : Settings.Sources) (executor : Option ExecutorKind) (compare : Bool)
    (text : String) : Evaluation sources executor compare text where
  world := { sources, stdin := text }
  arguments := "eval" :: flags executor compare
  request := { executor, compare }
  sources_eq := rfl
  vm_eq := rfl
  call_eq := by
    rcases executor with _ | _ | _ <;> cases compare <;> decide
  executor_eq := rfl
  compare_eq := rfl
  reads := .fromStdin rfl rfl

/-- A run of `eval` evaluates a text with the lines of the one it was given, under the executors of
its call. -/
theorem exists_outcome_eq (hworks : WorksUnder sources settings)
    (evaluation : Evaluation sources executor compare text) :
    ∃ threshold read, expressionLines read = expressionLines text
      ∧ evaluation.outcome
          = evalText settings threshold (executorsFor settings .standard evaluation.request)
              read := by
  obtain ⟨hsettings, threshold, hlevel⟩ := hworks
  obtain ⟨read, hread, hsame⟩ := evaluation.reads.exists_inputText
  refine ⟨threshold, read, hsame, ?_⟩
  rw [outcome, run_eq_carryOut evaluation.call_eq, carryOut, evaluation.sources_eq, hsettings]
  dsimp only
  rw [hlevel]
  dsimp only
  rw [hread]
  dsimp only [perform]
  rw [evaluation.vm_eq]

/-- **What is seen of a run of `eval` is what is seen of the lines of its text.** -/
theorem seen_outcome (hworks : WorksUnder sources settings) (hlines : expressionLines text ≠ [])
    (evaluation : Evaluation sources executor compare text) :
    evaluation.outcome.seen = Seen.all ((expressionLines text).map (seenOfLine settings)) := by
  obtain ⟨threshold, read, hsame, houtcome⟩ := evaluation.exists_outcome_eq hworks
  obtain ⟨kinds, hkinds, hfor⟩ := exists_executorsFor settings .standard evaluation.request
  rw [houtcome, hfor, ← hsame]
  rw [← hsame] at hlines
  exact seen_evalText threshold hkinds hlines

end Evaluation

/-! ## One after the other -/

namespace Seen

/-- One line on the standard output and all is well, or one line of complaint and it is not. -/
inductive Single : Seen → Prop
  | printed {text : String} (htext : OneLine text) : Single ⟨.exit 0, text ++ "\n", []⟩
  | complained {message : String} (hmessage : OneLine message) :
      Single ⟨.exit 1, "", ["error: " ++ message]⟩

theorem single_seenOfLine (s : Settings) (line : String) : (seenOfLine s line).Single := by
  unfold seenOfLine
  rcases hvalue : s.textValue line with cause | v
  · exact .complained (oneLine_message_of_textValue hvalue)
  · exact .printed (Text.newline_not_mem_decimal v)

theorem all_singleton {seen : Seen} (h : seen.Single) : all [seen] = seen := by
  have hstdout : (all [seen]).stdout = seen.stdout := by
    rw [all, List.map_singleton, String.join_cons, String.join_nil, String.append_empty]
  cases h with
  | printed htext => exact Seen.ext rfl hstdout rfl
  | complained hmessage => exact Seen.ext rfl hstdout rfl

theorem ending_all_eq_zero_iff (parts : List Seen) :
    (all parts).ending = .exit 0 ↔ ∀ part ∈ parts, part.ending = .exit 0 := by
  simp [all]

theorem all_append (first second : List Seen) :
    (all (first ++ second)).stdout = (all first).stdout ++ (all second).stdout
      ∧ (all (first ++ second)).errors = (all first).errors ++ (all second).errors
      ∧ (all (first ++ second)).ending
          = .exit (if (all first).ending = .exit 0 ∧ (all second).ending = .exit 0 then 0
              else 1) := by
  refine ⟨?_, ?_, ?_⟩
  · dsimp only [all]
    rw [List.map_append, String.join_append]
  · exact List.flatMap_append
  · simp only [ending_all_eq_zero_iff, ← List.forall_mem_append]
    simp only [all, List.all_eq_true, decide_eq_true_iff]

end Seen

/-- **Lines are evaluated independently, and evaluation goes on after a failure.** Let the settings
be ones that a run can work under, and the flags any. Two texts with something to evaluate in each,
joined by a line feed, are evaluated with the output of the first followed by that of the second,
with the complaints of the first followed by those of the second, and with an exit code that is 0 if
both have it and 1 otherwise. In any evaluation every line contributes one line of output or one
complaint, in the order of the lines, and it is the one that it makes when it is all there is. -/
theorem eval_lines_independent {sources : Settings.Sources} {settings : Settings}
    (hworks : WorksUnder sources settings) (executor : Option ExecutorKind) (compare : Bool) :
    (∀ a b : String, expressionLines a ≠ [] → expressionLines b ≠ [] →
      ∀ (onA : Evaluation sources executor compare a) (onB : Evaluation sources executor compare b)
        (joined : Evaluation sources executor compare (a ++ "\n" ++ b)),
        joined.outcome.seen.stdout = onA.outcome.seen.stdout ++ onB.outcome.seen.stdout
          ∧ joined.outcome.seen.errors = onA.outcome.seen.errors ++ onB.outcome.seen.errors
          ∧ joined.outcome.seen.ending
              = .exit (if onA.outcome.seen.ending = .exit 0 ∧ onB.outcome.seen.ending = .exit 0
                  then 0 else 1))
      ∧ ∀ text : String, expressionLines text ≠ [] →
          ∀ (whole : Evaluation sources executor compare text)
            (alone : ∀ line : String, Evaluation sources executor compare line),
            whole.outcome.seen
                = Seen.all ((expressionLines text).map fun line => (alone line).outcome.seen)
              ∧ ∀ line ∈ expressionLines text, (alone line).outcome.seen.Single := by
  constructor
  · intro a b ha hb onA onB joined
    have hjoined : expressionLines (a ++ "\n" ++ b) ≠ [] := by
      rw [expressionLines_append]
      exact List.append_ne_nil_of_left_ne_nil ha _
    rw [onA.seen_outcome hworks ha, onB.seen_outcome hworks hb,
      joined.seen_outcome hworks hjoined, expressionLines_append, List.map_append]
    exact Seen.all_append _ _
  · intro text hlines whole alone
    -- A line is a text of one line, so alone it shows what it shows among the others.
    have halone : ∀ line ∈ expressionLines text,
        (alone line).outcome.seen = seenOfLine settings line := by
      intro line hline
      have hone : expressionLines line = [line] := expressionLines_of_mem hline
      rw [(alone line).seen_outcome hworks (by rw [hone]; exact List.cons_ne_nil _ _), hone]
      exact Seen.all_singleton (Seen.single_seenOfLine settings line)
    constructor
    · rw [whole.seen_outcome hworks hlines, List.map_congr_left halone]
    · intro line hline
      rw [halone line hline]
      exact Seen.single_seenOfLine settings line

/-- The first text fails, and the line feed joins up with the carriage return at its end. -/
theorem eval_lines_independent_at_failure :
    WorksUnder {} {}
      ∧ expressionLines "1/0\r" = ["1/0"] ∧ expressionLines "7/2" = ["7/2"]
      ∧ (let on := fun text => (Evaluation.ofStdin {} none true text).outcome.seen
        (on ("1/0\r" ++ "\n" ++ "7/2")).stdout = (on "1/0\r").stdout ++ (on "7/2").stdout
          ∧ (on ("1/0\r" ++ "\n" ++ "7/2")).errors = (on "1/0\r").errors ++ (on "7/2").errors
          ∧ (on ("1/0\r" ++ "\n" ++ "7/2")).ending
              = .exit (if (on "1/0\r").ending = .exit 0 ∧ (on "7/2").ending = .exit 0 then 0
                  else 1)) := by
  have hworks : WorksUnder {} {} := ⟨rfl, .info, rfl⟩
  have hfirst : expressionLines "1/0\r" = ["1/0"] := by decide
  have hsecond : expressionLines "7/2" = ["7/2"] := by decide
  refine ⟨hworks, hfirst, hsecond, ?_⟩
  exact (eval_lines_independent hworks none true).1 _ _ (by rw [hfirst]; exact List.cons_ne_nil _ _)
    (by rw [hsecond]; exact List.cons_ne_nil _ _) _ _ _

end CommandLine

end Reckoner
