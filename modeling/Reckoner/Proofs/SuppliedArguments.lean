import Reckoner.CommandLine.Run
import Reckoner.Proofs.ServiceBodies

/-!
# Arguments that are supplied

What a caller leaves out is replaced: a text by that of a file or of the standard input, and the
name of an executor by that of the default. What a caller supplies is meant to stand. It does,
unless it is empty. A run that is given a text which is not empty does not look at its input at all,
so it is the same in any two surroundings that differ in their input only; and a name that is
neither empty nor an executor's is refused, whatever the default is.

The two hosts ask whether there is something in what they were given, and not whether they were
given something. To them an empty text is one that was left out (`inputText_of_empty`), and so is an
empty name (`executorName`). A run that is given an empty text reads its standard input instead, and
an evaluation by an executor without a name is one by the default.
-/

namespace Reckoner

namespace CommandLine

/-! ## Texts that are given -/

/-- The two differ in nothing but the standard input and the files. -/
structure Surroundings.SameButInput (world world' : Surroundings) : Prop where
  sources_eq : world.sources = world'.sources
  vm_eq : world.vm = world'.vm

section GivenText

variable {world world' : Surroundings} {request : Request} {text : String}

theorem inputText_of_given (htext : request.text = some text) (hne : text ≠ "") :
    inputText world request = .ok text := by
  have hgiven : nonempty? request.text = some text := by
    rw [htext, nonempty?, Option.filter_some, if_pos]
    simp [hne]
  rw [inputText, hgiven]

/-- An empty text is taken for none. -/
theorem inputText_of_empty (world : Surroundings) (htext : request.text = some "") :
    inputText world request = inputText world { request with text := none } := by
  have hnone : nonempty? request.text = none := by
    rw [htext]
    rfl
  rw [inputText, inputText, hnone]
  rfl

/-- **Beyond its sources and its machine, a call depends on its surroundings through the text that
it reads there.** -/
theorem carryOut_congr (hsame : world.SameButInput world') {c : Call}
    (hinput : inputText world c.request = inputText world' c.request) :
    carryOut world c = carryOut world' c := by
  have hperform : perform world = perform world' := by
    funext settings threshold c text
    rw [perform, perform, hsame.vm_eq]
  rw [carryOut, carryOut, hsame.sources_eq, hinput, hperform]

/-- What the options ask for matters to a call through the text and the executors that it uses. -/
theorem carryOut_of_empty (world : Surroundings) {c : Call} (htext : c.request.text = some "") :
    carryOut world c = carryOut world ⟨c.command, { c.request with text := none }⟩ := by
  rw [carryOut, carryOut, inputText_of_empty world htext]
  rfl

end GivenText

/-- A text that is given to a command stands: whatever else the call asks for, its runs are the same
in any two surroundings that differ in their input only. -/
def TextStands (command : Command) (text : String) : Prop :=
  ∀ (arguments : List String) (request : Request),
    call arguments = .ok ⟨command, request⟩ → request.text = some text →
    ∀ world world' : Surroundings, world.SameButInput world' →
      run world arguments = run world' arguments

/-- **A text that is not empty stands.** -/
theorem textStands_of_ne (command : Command) {text : String} (hne : text ≠ "") :
    TextStands command text := by
  intro arguments request hcall htext world world' hsame
  rw [run_eq_carryOut hcall, run_eq_carryOut hcall]
  refine carryOut_congr hsame ?_
  rw [inputText_of_given htext hne, inputText_of_given htext hne]

/-- An empty text does not stand, with any command: what stands on the standard input shows. -/
theorem not_textStands_empty (command : Command) : ¬ TextStands command "" := by
  intro hstands
  have hcall : call [command.name, "--text", ""] = .ok ⟨command, { text := some "" }⟩ := by
    cases command <;> decide
  have hdiffer : run { stdin := "1" } [command.name, "--text", ""]
      ≠ run { stdin := "2" } [command.name, "--text", ""] := by
    cases command <;> decide +kernel
  exact hdiffer (hstands _ _ hcall rfl _ _ ⟨rfl, rfl⟩)

/-! ## Every text can be given -/

section EveryText

variable (text : String)

theorem toList_textArgument :
    ("--text=" ++ text).toList = '-' :: '-' :: 't' :: 'e' :: 'x' :: 't' :: '=' :: text.toList := by
  rw [String.toList_append]
  rfl

theorem shapeOf_textArgument (command : Command) :
    shapeOf command.flags ("--text=" ++ text)
      = .ok (.option .text false (some text.toList)) := by
  rw [shapeOf, toList_textArgument]
  cases command <;> rfl

/-- The program has no such option, so what the argument looks like to it depends on the text. -/
theorem exists_shapeOf_textArgument :
    ∃ shape, shapeOf (Scope.flags none) ("--text=" ++ text) = .ok shape := by
  rw [shapeOf, toList_textArgument]
  exact ⟨_, rfl⟩

theorem textArgument_ne_divider : "--text=" ++ text ≠ "--" := by
  intro h
  have hlist := congrArg String.toList h
  rw [toList_textArgument] at hlist
  cases hlist

/-- A text that is attached is received as it stands. -/
theorem commandArguments_textArgument (command : Command) :
    commandArguments command ["--text=" ++ text] = .ok ({ text := some text }, []) := by
  have hshapes : shapesOf command.flags ["--text=" ++ text]
      = .ok [("--text=" ++ text, .option .text false (some text.toList))] := by
    rw [shapesOf, if_neg (textArgument_ne_divider text), shapeOf_textArgument]
    rfl
  have hbundle : bundleOf (Scope.flags (some command)) .text false (some text.toList)
      = .ok { complete := [(.text, some text)] } := by
    rw [bundleOf]
    cases hchars : text.toList with
    | nil => rw [String.toList_eq_nil_iff.mp hchars]; rfl
    | cons c rest => rw [← String.ofList_toList (s := text), hchars]; rfl
  rw [commandArguments, hshapes]
  dsimp only
  rw [takeOptions, hbundle]
  rfl

/-- **Every text can be given to every command.** -/
theorem call_textArgument (command : Command) :
    call [command.name, "--text=" ++ text] = .ok ⟨command, { text := some text }⟩ := by
  obtain ⟨shape, hshape⟩ := exists_shapeOf_textArgument text
  have hword : command.name ≠ "--" ∧ shapeOf (Scope.flags none) command.name = .ok .word := by
    cases command <;> decide
  have hcommand : Command.ofName? command.name = some command := by
    cases command <;> decide
  have hshapes : shapesOf (Scope.flags none) [command.name, "--text=" ++ text]
      = .ok [(command.name, .word), ("--text=" ++ text, shape)] := by
    rw [shapesOf, if_neg hword.1, hword.2, shapesOf, if_neg (textArgument_ne_divider text), hshape]
    rfl
  rw [call, hshapes]
  dsimp only
  rw [callFrom, hcommand]
  dsimp only
  rw [List.map_singleton, commandArguments_textArgument]
  rfl

end EveryText

end CommandLine

namespace Service

/-! ## Names that are given -/

/-- The request for the value of a text by the executor of a name. -/
def asking (text name : String) : Request :=
  posting "/evaluate" [("text", .string text), ("executor", .string name)]

/-- Every text of an allowed length can be sent with every name. -/
theorem brings_asking {text : String} (hlength : text.length ≤ maxTextLength) (name : String) :
    ∃ fields, Brings (asking text name) "/evaluate" text fields ∧ Names fields (some name) := by
  refine ⟨_, brings_posting (by decide) (by simp) ?_ hlength, .named rfl⟩
  simp only [List.forall_mem_cons]
  exact ⟨⟨rfl, Json.readsBack_string _ _ _⟩, List.forall_mem_nil _⟩

section GivenName

variable {s : Settings} {r r' : Request} {text : String} {fields fields' : Json.Fields}
  {given given' : Option Text.Raw}

/-- **Of what is given in place of a name, only the name that it comes to matters.** -/
theorem respond_of_executorName_eq (hbrings : Brings r "/evaluate" text fields)
    (hnames : Names fields given) (hbrings' : Brings r' "/evaluate" text fields')
    (hnames' : Names fields' given') (h : executorName s given = executorName s given') :
    (ofSettings s).respond r = (ofSettings s).respond r' := by
  rcases exists_name_eq_or_unknown (executorName s given) with ⟨kind, hkind⟩ | hunknown
  · rw [respond_known hbrings hnames hkind, respond_known hbrings' hnames' (hkind.trans h)]
  · rw [respond_unknown hbrings hnames hunknown, respond_unknown hbrings' hnames' (h ▸ hunknown), h]

theorem executorName_of_nonempty (s : Settings) {name : Text.Raw} (h : name.isEmpty = false) :
    executorName s (some name) = name := by
  rw [executorName, h, if_neg Bool.false_ne_true]

/-- A name is refused: an evaluation by the executor of that name is answered with status 404,
whatever the settings and the text are. -/
def NameRefused (name : Text.Raw) : Prop :=
  ∀ (s : Settings) (r : Request) (text : String) (fields : Json.Fields),
    Brings r "/evaluate" text fields → Names fields (some name) →
    ((ofSettings s).respond r).status = 404

/-- **A name that is neither empty nor an executor's is refused.** -/
theorem nameRefused_of_nonempty {name : Text.Raw}
    (hunknown : name ≠ "interpreter" ∧ name ≠ "vm") (hne : name.isEmpty = false) :
    NameRefused name := by
  intro s r text fields hbrings hnames
  have hname : executorName s (some name) = name := executorName_of_nonempty s hne
  rw [respond_unknown hbrings hnames (by rwa [hname]), status_unknownReply]

theorem nameRefused_of_ne {name : String} (hinterpreter : name ≠ "interpreter")
    (hvm : name ≠ "vm") (hne : name ≠ "") : NameRefused name := by
  have hraw : ∀ other : String, name ≠ other → Text.Raw.text name ≠ other :=
    fun other h hsame => h (Text.Raw.text.inj hsame)
  have hnonempty : (Text.Raw.text name).isEmpty = false := by
    simpa [Text.Raw.isEmpty] using hne
  exact nameRefused_of_nonempty ⟨hraw _ hinterpreter, hraw _ hvm⟩ hnonempty

theorem respond_asking_empty :
    (ofSettings {}).respond (asking "1" "") = valueReply "1" "interpreter" 1 := by
  obtain ⟨fields, hbrings, hnames⟩ := brings_asking (by decide : "1".length ≤ maxTextLength) ""
  have hone : Settings.textValue {} "1" = .ok 1 := by decide +kernel
  have hname : ExecutorKind.interpreter.name = executorName {} (some "") := rfl
  rw [respond_known hbrings hnames hname, hone]
  rfl

/-- An empty name is not refused. -/
theorem not_nameRefused_empty : ¬ NameRefused "" := by
  intro hrefused
  obtain ⟨fields, hbrings, hnames⟩ := brings_asking (by decide : "1".length ≤ maxTextLength) ""
  have hstatus := hrefused {} _ _ _ hbrings hnames
  rw [respond_asking_empty] at hstatus
  cases hstatus

theorem executorName_default (s : Settings) :
    executorName s (some s.defaultExecutor.name) = s.defaultExecutor.name := by
  refine executorName_of_nonempty s ?_
  cases s.defaultExecutor <;> decide

end GivenName

end Service

open CommandLine Service

/-- **What is supplied stands exactly if it is not empty.** Every string can be given as a text to
every command. If it is not empty, runs with it are the same in any two surroundings that differ
only in the standard input and the files; if it is empty, every run is the one of the call without a
text, and the surroundings matter. Every string can also be sent as the name of an executor, with
every text of an allowed length. If it is no executor's, it is answered with status 404 under all
settings exactly if it is not empty, and so is every name that holds half of a surrogate pair; and
no name at all and an empty one are answered as the name of the default is. -/
theorem supplied_stands_unless_empty (supplied : String) :
    (∀ command : Command,
        call [command.name, "--text=" ++ supplied] = .ok ⟨command, { text := some supplied }⟩
          ∧ (TextStands command supplied ↔ supplied ≠ ""))
      ∧ (∀ (world : Surroundings) (arguments : List String) (c : Call),
          call arguments = .ok c → c.request.text = some "" →
          run world arguments = carryOut world ⟨c.command, { c.request with text := none }⟩)
      ∧ (∀ text : String, text.length ≤ maxTextLength → ∃ fields,
          Brings (asking text supplied) "/evaluate" text fields ∧ Names fields (some supplied))
      ∧ (supplied ≠ "interpreter" → supplied ≠ "vm" → (NameRefused supplied ↔ supplied ≠ ""))
      ∧ (∀ unpaired : Text.Unpaired, NameRefused (.unpaired unpaired))
      ∧ ∀ (s : Settings) (r r' : Service.Request) (text : String)
          (fields fields' : Json.Fields),
          Brings r "/evaluate" text fields → Names fields none ∨ Names fields (some "") →
          Brings r' "/evaluate" text fields' → Names fields' (some s.defaultExecutor.name) →
          (ofSettings s).respond r = (ofSettings s).respond r' := by
  refine ⟨?_, ?_, fun text hlength => brings_asking hlength supplied, ?_, ?_, ?_⟩
  · intro command
    refine ⟨call_textArgument supplied command, ?_, textStands_of_ne command⟩
    rintro hstands rfl
    exact not_textStands_empty command hstands
  · intro world arguments c hcall htext
    rw [run, hcall]
    exact carryOut_of_empty world htext
  · intro hinterpreter hvm
    refine ⟨?_, nameRefused_of_ne hinterpreter hvm⟩
    rintro hrefused rfl
    exact not_nameRefused_empty hrefused
  · intro unpaired
    exact nameRefused_of_nonempty ⟨by simp, by simp⟩ rfl
  · intro s r r' text fields fields' hbrings hdefault hbrings' hnames'
    have hname := (executorName_default s).symm
    rcases hdefault with hnames | hnames
    · exact respond_of_executorName_eq hbrings hnames hbrings' hnames' hname
    · exact respond_of_executorName_eq hbrings hnames hbrings' hnames' hname

/-- A text stands although there is another one on the standard input, and a name is refused
although it differs from an executor's in a capital only. -/
theorem supplied_stands_unless_empty_at_conflict :
    (call ["eval", "--text", "7/2"] = .ok ⟨.eval, { text := some "7/2" }⟩
        ∧ run { stdin := "1+1" } ["eval", "--text", "7/2"] = run {} ["eval", "--text", "7/2"])
      ∧ (∃ fields, Brings (asking "1" "Vm") "/evaluate" "1" fields ∧ Names fields (some "Vm"))
      ∧ ((ofSettings {}).respond (asking "1" "Vm")).status = 404 := by
  have hcall : call ["eval", "--text", "7/2"] = .ok ⟨.eval, { text := some "7/2" }⟩ := by decide
  have hstands : TextStands .eval "7/2" :=
    ((supplied_stands_unless_empty "7/2").1 .eval).2.mpr (by decide)
  have hrefused : NameRefused "Vm" :=
    ((supplied_stands_unless_empty "Vm").2.2.2.1 (by decide) (by decide)).mpr (by decide)
  obtain ⟨fields, hbrings, hnames⟩ := (supplied_stands_unless_empty "Vm").2.2.1 "1" (by decide)
  exact ⟨⟨hcall, hstands _ _ hcall rfl _ _ ⟨rfl, rfl⟩⟩, ⟨fields, hbrings, hnames⟩,
    hrefused {} _ _ _ hbrings hnames⟩

/-- **Empty arguments are replaced.** An empty text gives way to the standard input, so runs with it
differ where the standard input does; and an empty name, which is no executor's, is not answered
with status 404 but with a value. -/
theorem empty_arguments_are_replaced :
    (call ["eval", "--text", ""] = .ok ⟨.eval, { text := some "" }⟩
        ∧ run { stdin := "1+1" } ["eval", "--text", ""] = ⟨[.line "2"], .exit 0⟩
        ∧ run {} ["eval", "--text", ""]
          = .failing "podaj wyrażenie przez --text, --file lub stdin"
        ∧ ¬ ∀ (command : Command) (text : String), TextStands command text)
      ∧ (ofSettings {}).respond (asking "1" "") = valueReply "1" "interpreter" 1
      ∧ ¬ ∀ name : String, name ≠ "interpreter" → name ≠ "vm" → NameRefused name := by
  have hsum : run { stdin := "1+1" } ["eval", "--text", ""] = ⟨[.line "2"], .exit 0⟩ := by
    decide +kernel
  have hnothing : run {} ["eval", "--text", ""]
      = .failing "podaj wyrażenie przez --text, --file lub stdin" := by decide +kernel
  refine ⟨⟨by decide, hsum, hnothing, ?_⟩, respond_asking_empty, ?_⟩
  · intro hstands
    exact not_textStands_empty .eval (hstands .eval "")
  · intro hrefused
    exact not_nameRefused_empty (hrefused "" (by decide) (by decide))

end Reckoner
