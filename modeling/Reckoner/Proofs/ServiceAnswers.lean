import Reckoner.Proofs.TextValue
import Reckoner.Service.Answer

/-!
# The answers of the service

A body is well-formed if it brings a text of an allowed length, and for an evaluation perhaps the
name of an executor (`Brings`, `Names`). Both are strings of a document, and such a string may hold
halves of surrogate pairs, so what is brought is a `Text.Raw` and the name is one.

The service answers a body whose text has no such half in one of a few ways, and each of them is a
document of its own: the executor is unknown, the text is no expression, its arithmetic fails, or
there is a value or a program (`unknownReply`, `syntaxReply`, `failureReply`, `valueReply`,
`programReply`). Which of them it is depends on the text and on the name only, and this module says
how. A name may hold halves: it is no executor's, and is answered like any other unknown name.

The service has answers of status 500 at hand for faults of its own, and it never gives one to such
a body. An answer has this status for three reasons. A compiler or a machine may be at fault, and on
trees that come from the parser neither is (`textValue_error_cases`). Or a document may have no
spelling, and the five above are made of texts and whole numbers, which all have one.

A text with a half in it is what is left. It is refused like a text that is too long, and the answer
is to show what was refused. That has no spelling, so the service breaks down on the very answer
(`refused_unpaired`), and this is the only way to status 500 that a well-formed body has.
-/

namespace Reckoner

/-! ## Documents that can be written -/

theorem Json.writableItems_map {α : Type} {document : α → Json}
    (h : ∀ a, (document a).writable = true) (items : List α) :
    writableItems (items.map document) = true := by
  induction items with
  | nil => rfl
  | cons a items ih => rw [List.map_cons, writableItems, h a, ih, Bool.and_self]

theorem Instruction.writable_toJson (i : Instruction) : i.toJson.writable = true := by
  cases i <;> rfl

namespace Service

theorem Response.ofJson_of_writable {document : Json} (h : document.writable = true)
    (status : Nat) : Response.ofJson status document = ⟨status, document.written⟩ := by
  rw [Response.ofJson, if_pos h]

/-! ## Replies -/

/-- The answer of a given status with the given fields. -/
def reply (status : Nat) (fields : Json.Fields) : Response :=
  ⟨status, (Json.object fields).written⟩

def unknownReply (name : Text.Raw) : Response :=
  reply 404 [("detail", .string (UnknownExecutor.shortMessage ⟨name⟩))]

def syntaxReply (cause : SyntaxError) : Response :=
  reply 422
    [ ("detail", .string cause.message), ("line", .integer cause.line),
      ("column", .integer cause.column), ("fragment", .string cause.fragment) ]

def failureReply (cause : ExecutionError) : Response :=
  reply 422
    [ ("detail", .string cause.message),
      ("operation", (cause.operation.map Json.string).getD .null) ]

def valueReply (text executor : String) (result : Int) : Response :=
  reply 200 [("text", .string text), ("executor", .string executor), ("result", .integer result)]

def programReply (text : String) (program : Program) : Response :=
  reply 200
    [ ("text", .string text),
      ("instructions", .array (program.instructions.map Instruction.toJson)),
      ("listing", .array (program.listing.map Json.string)) ]

@[simp] theorem status_unknownReply (name : Text.Raw) : (unknownReply name).status = 404 := rfl

@[simp] theorem status_syntaxReply (cause : SyntaxError) : (syntaxReply cause).status = 422 := rfl

@[simp] theorem status_failureReply (cause : ExecutionError) :
    (failureReply cause).status = 422 := rfl

@[simp] theorem status_valueReply (text executor : String) (result : Int) :
    (valueReply text executor result).status = 200 := rfl

@[simp] theorem status_programReply (text : String) (program : Program) :
    (programReply text program).status = 200 := rfl

theorem sentence_shortMessage (cause : UnknownExecutor) :
    sentence 404 cause.shortMessage = unknownReply cause.name :=
  Response.ofJson_of_writable rfl 404

theorem ofError_parse (cause : SyntaxError) : ofError (.parse cause) = syntaxReply cause :=
  Response.ofJson_of_writable rfl 422

theorem ofError_arithmetic (cause : ArithmeticError) :
    ofError (.execution (.arithmetic cause)) = failureReply (.arithmetic cause) := by
  cases cause <;> exact Response.ofJson_of_writable rfl 422

theorem reply_ofJson_program (text : String) (program : Program) :
    Response.ofJson 200 (.object
        [ ("text", .string text),
          ("instructions", .array (program.instructions.map Instruction.toJson)),
          ("listing", .array (program.listing.map Json.string)) ])
      = programReply text program := by
  refine Response.ofJson_of_writable ?_ 200
  have hinstructions := Json.writableItems_map Instruction.writable_toJson program.instructions
  have hlisting := Json.writableItems_map (fun _ => rfl : ∀ s, (Json.string s).writable = true)
    program.listing
  simp [Json.writable, Json.writableFields, hinstructions, hlisting]

/-- A detail stands at the start of its answer. -/
theorem exists_body_reply_detail (status : Nat) (detail : String) (field : Text.Raw × Json)
    (fields : Json.Fields) :
    ∃ rest, (reply status (("detail", .string detail) :: field :: fields)).body.toList
      = "\x7b\"detail\":\"".toList ++ (detail.toList.flatMap Json.escapedChar ++ rest) := by
  rw [reply, Json.written, Json.writtenFields, Json.writtenFields, Json.written]
  simp [Json.writtenString, String.toList_intercalate, Json.escapedChar]

/-- What is refused for its halves cannot be shown, and no answer is made. -/
theorem refused_unpaired (u : Text.Unpaired) :
    refused [aboutField "text" .notUnicode (.unpaired u)] = .breakdown := by
  rw [refused, Response.ofJson, if_neg]
  simp [Finding.toJson, aboutField, Json.writable, Json.writableItems, Json.writableFields]

/-- The two kinds of answers with status 422 differ already in the first letter of the detail. -/
theorem syntaxReply_ne_failureReply (cause : SyntaxError) (failure : ArithmeticError) :
    syntaxReply cause ≠ failureReply (.arithmetic failure) := by
  intro h
  have hbody := congrArg (fun answer => answer.body.toList) h
  obtain ⟨rest, hrest⟩ := exists_body_reply_detail 422 cause.message ("line", .integer cause.line)
    [("column", .integer cause.column), ("fragment", .string cause.fragment)]
  obtain ⟨rest', hrest'⟩ := exists_body_reply_detail 422 (ExecutionError.arithmetic failure).message
    ("operation", ((ExecutionError.arithmetic failure).operation.map Json.string).getD .null) []
  have hdetail := List.append_cancel_left (hrest.symm.trans (hbody.trans hrest'))
  unfold SyntaxError.message ExecutionError.message at hdetail
  cases failure <;> simp [Json.escapedChar] at hdetail

/-! ## Well-formed bodies -/

/-- The request brings a text of an allowed length to a place, among the given fields. -/
structure Brings (r : Request) (place : String) (text : Text.Raw) (fields : Json.Fields) : Prop
    where
  method_eq : r.method = "POST"
  place_eq : r.place = place
  fieldsOf_eq : fieldsOf r = .ok fields
  text_eq : Json.field? fields "text" = some (.ofRaw text)
  length_le : text.length ≤ maxTextLength

/-- The executor that fields name. One that is left out or null is none. -/
inductive Names (fields : Json.Fields) : Option Text.Raw → Prop
  | absent (h : Json.field? fields "executor" = none) : Names fields none
  | null (h : Json.field? fields "executor" = some .null) : Names fields none
  | named {name : Text.Raw} (h : Json.field? fields "executor" = some (.ofRaw name)) :
      Names fields (some name)

section Requests

variable {service : Service} {r : Request} {place text : String} {u : Text.Unpaired}
  {raw : Text.Raw} {fields : Json.Fields} {name : Option Text.Raw}

theorem Brings.textIn_eq (h : Brings r place text fields) : textIn fields = .ok text := by
  rw [textIn, h.text_eq]
  exact if_neg (Nat.not_lt.mpr h.length_le)

theorem Brings.textIn_eq_error (h : Brings r place (.unpaired u) fields) :
    textIn fields = .error [aboutField "text" .notUnicode (.unpaired u)] := by
  rw [textIn, h.text_eq]
  rfl

theorem Names.executorIn_eq (h : Names fields name) : executorIn fields = .ok name := by
  rw [executorIn]
  cases h with
  | absent h => rw [h]
  | null h => rw [h]
  | @named name h =>
    rw [h]
    cases name <;> rfl

theorem Brings.evaluationIn_eq (h : Brings r place text fields) (hnames : Names fields name) :
    evaluationIn fields = .ok (text, name) := by
  rw [evaluationIn, h.textIn_eq, hnames.executorIn_eq]

theorem Brings.evaluationIn_eq_error (h : Brings r place (.unpaired u) fields)
    (hnames : Names fields name) :
    evaluationIn fields = .error [aboutField "text" .notUnicode (.unpaired u)] := by
  rw [evaluationIn, h.textIn_eq_error, hnames.executorIn_eq]

theorem Brings.respond_eq_answer (h : Brings r place raw fields) :
    service.respond r = service.answer r := by
  have hmethod : r.method ≠ "HEAD" := by
    rw [h.method_eq]
    decide
  rw [respond, if_neg hmethod]

theorem Brings.respond_eq_evaluate (h : Brings r "/evaluate" raw fields) :
    service.respond r = service.evaluate fields := by
  have hplace : service.answer r = withFields r service.evaluate := by
    rw [answer, h.place_eq, h.method_eq]
    rfl
  rw [h.respond_eq_answer, hplace, withFields, h.fieldsOf_eq]

theorem Brings.respond_eq_compile (h : Brings r "/compile" raw fields) :
    service.respond r = service.compile fields := by
  have hplace : service.answer r = withFields r service.compile := by
    rw [answer, h.place_eq, h.method_eq]
    rfl
  rw [h.respond_eq_answer, hplace, withFields, h.fieldsOf_eq]

/-- **A text with a half in it is not answered**, wherever it is sent. -/
theorem Brings.respond_eq_breakdown (h : Brings r "/evaluate" (.unpaired u) fields)
    (hnames : Names fields name) : service.respond r = .breakdown := by
  rw [h.respond_eq_evaluate, evaluate, h.evaluationIn_eq_error hnames]
  exact refused_unpaired u

theorem Brings.respond_compile_eq_breakdown (h : Brings r "/compile" (.unpaired u) fields) :
    service.respond r = .breakdown := by
  rw [h.respond_eq_compile, compile, h.textIn_eq_error]
  exact refused_unpaired u

end Requests

/-! ## Executors by name -/

/-- The name of the executor that is to be used: the given one, or the name of the default if there
is none or an empty one. -/
def executorName (s : Settings) (given : Option Text.Raw) : Text.Raw :=
  match given with
  | none => s.defaultExecutor.name
  | some name => if name.isEmpty then s.defaultExecutor.name else name

theorem ofName_name (kind : ExecutorKind) : ExecutorKind.ofName kind.name = .ok kind := by
  rw [ExecutorKind.ofName, ExecutorKind.ofName?_name]

theorem ofName_of_unknown {e : Text.Raw} (h : e ≠ "interpreter" ∧ e ≠ "vm") :
    ExecutorKind.ofName e = .error ⟨e⟩ := by
  have hnone : ExecutorKind.ofName? e = none := by
    refine List.find?_eq_none.mpr ?_
    intro kind _
    rw [beq_iff_eq]
    cases kind with
    | interpreter => exact h.1.symm
    | vm => exact h.2.symm
  rw [ExecutorKind.ofName, hnone]

theorem exists_name_eq_or_unknown (e : Text.Raw) :
    (∃ kind : ExecutorKind, kind.name = e) ∨ (e ≠ "interpreter" ∧ e ≠ "vm") := by
  by_cases hinterpreter : e = "interpreter"
  · exact Or.inl ⟨.interpreter, hinterpreter.symm⟩
  · by_cases hvm : e = "vm"
    · exact Or.inl ⟨.vm, hvm.symm⟩
    · exact Or.inr ⟨hinterpreter, hvm⟩

theorem executorNamed_eq (service : Service) (given : Option Text.Raw) :
    service.executorNamed given = ExecutorKind.ofName (executorName service.settings given) := by
  cases given with
  | none => exact (ofName_name _).symm
  | some name =>
    by_cases hempty : name.isEmpty
    · simp only [executorNamed, executorName, hempty, if_true, ofName_name]
    · simp only [executorNamed, executorName, if_neg hempty]

/-! ## The service with the machine of this library -/

/-- The service under given settings, with the machine of this library. -/
def ofSettings (s : Settings) : Service := ⟨s, .standard⟩

section Replies

variable {s : Settings} {r : Request} {text : String} {fields : Json.Fields}
  {given : Option Text.Raw}

/-- Whichever executor is asked, the value of a text is the same. -/
theorem valueOf_eq (s : Settings) (kind : ExecutorKind) (text : String) :
    (ofSettings s).valueOf kind text = s.textValue text := by
  unfold valueOf treeOf
  rcases hparse : Parser.parse (ofSettings s).settings.maxDepth.levels text with cause | t
  · exact (Settings.textValue_of_error hparse).symm
  · exact Settings.outcome_of_parse hparse kind

theorem programOf_of_error {cause : SyntaxError}
    (h : Parser.parse s.maxDepth.levels text = .error cause) :
    (ofSettings s).programOf text = .error (.parse cause) := by
  have htree : (ofSettings s).treeOf text = .error (.parse cause) := by
    rw [treeOf, ofSettings, h]
  rw [programOf, htree]

/-- The compiler takes every tree that comes from the parser. -/
theorem programOf_of_ok {t : Expr} (h : Parser.parse s.maxDepth.levels text = .ok t) :
    (ofSettings s).programOf text = .ok ⟨t.postorder⟩ := by
  have htree : (ofSettings s).treeOf text = .ok t := by
    rw [treeOf, ofSettings, h]
  have hcompile : ((ofSettings s).vm.compile t).value = .ok ⟨t.postorder⟩ := by
    rw [← Compiler.compile_of_pure (Parser.pure_of_parse h)]
    exact Compiler.value_compileNoted t
  rw [programOf, htree]
  dsimp only
  rw [hcompile]

theorem respond_unknown (hbrings : Brings r "/evaluate" text fields) (hnames : Names fields given)
    (h : executorName s given ≠ "interpreter" ∧ executorName s given ≠ "vm") :
    (ofSettings s).respond r = unknownReply (executorName s given) := by
  have hnamed : (ofSettings s).executorNamed given = .error ⟨executorName s given⟩ :=
    (executorNamed_eq _ given).trans (ofName_of_unknown h)
  rw [hbrings.respond_eq_evaluate, evaluate, hbrings.evaluationIn_eq hnames]
  dsimp only
  rw [hnamed]
  exact sentence_shortMessage _

/-- With an executor that there is, the answer depends on the value of the text. -/
theorem respond_known (hbrings : Brings r "/evaluate" text fields) (hnames : Names fields given)
    {kind : ExecutorKind} (hkind : kind.name = executorName s given) :
    (ofSettings s).respond r
      = match s.textValue text with
        | .error cause => ofError cause
        | .ok v => valueReply text kind.name v := by
  have hnamed : (ofSettings s).executorNamed given = .ok kind := by
    rw [executorNamed_eq, ofSettings, ← hkind, ofName_name]
  rw [hbrings.respond_eq_evaluate, evaluate, hbrings.evaluationIn_eq hnames]
  dsimp only
  rw [hnamed]
  dsimp only
  rw [valueOf_eq]
  rcases s.textValue text with cause | v
  · rfl
  · exact Response.ofJson_of_writable rfl 200

/-- A tree without a value is answered with what the executor says of it, which is never a fault of
the service. -/
theorem respond_failure (hbrings : Brings r "/evaluate" text fields) (hnames : Names fields given)
    {kind : ExecutorKind} (hkind : kind.name = executorName s given) {t : Expr} {x : CalcError}
    (hparse : Parser.parse s.maxDepth.levels text = .ok t)
    (houtcome : (s.executor .standard kind).outcome t = .error x) :
    ∃ cause, x = .execution (.arithmetic cause)
      ∧ (ofSettings s).respond r = failureReply (.arithmetic cause) := by
  have hvalue := (Settings.outcome_of_parse hparse kind).symm.trans houtcome
  rcases Settings.textValue_error_cases hvalue with ⟨_, hfail, _⟩ | ⟨_, cause, _, rfl⟩
  · cases hparse.symm.trans hfail
  · refine ⟨cause, rfl, ?_⟩
    rw [respond_known hbrings hnames hkind, hvalue]
    exact ofError_arithmetic cause

theorem respond_compile_of_error (hbrings : Brings r "/compile" text fields) {cause : SyntaxError}
    (h : Parser.parse s.maxDepth.levels text = .error cause) :
    (ofSettings s).respond r = syntaxReply cause := by
  rw [hbrings.respond_eq_compile, compile, hbrings.textIn_eq]
  dsimp only
  rw [programOf_of_error h]
  exact ofError_parse cause

theorem respond_compile_of_ok (hbrings : Brings r "/compile" text fields) {t : Expr}
    (h : Parser.parse s.maxDepth.levels text = .ok t) :
    (ofSettings s).respond r = programReply text ⟨t.postorder⟩ := by
  rw [hbrings.respond_eq_compile, compile, hbrings.textIn_eq]
  dsimp only
  rw [programOf_of_ok h]
  exact reply_ofJson_program text _

end Replies

/-! ## What is documented -/

/-- How a request for the value of a text is answered if the executor is there. -/
structure ValueAnswered (s : Settings) (text : String) (kind : ExecutorKind) (answer : Response) :
    Prop where
  syntaxReply_iff : (∃ cause, answer = syntaxReply cause)
    ↔ ∃ cause, Parser.parse s.maxDepth.levels text = .error cause
  of_syntaxError : ∀ cause, Parser.parse s.maxDepth.levels text = .error cause →
    answer = syntaxReply cause
  failureReply_iff : ∀ t, Parser.parse s.maxDepth.levels text = .ok t →
    ((∃ cause, answer = failureReply cause)
      ↔ ∃ x, (s.executor .standard kind).outcome t = .error x)
  of_failure : ∀ t x, Parser.parse s.maxDepth.levels text = .ok t →
    (s.executor .standard kind).outcome t = .error x →
      ∃ cause, x = .execution cause ∧ answer = failureReply cause
  of_value : ∀ t v, Parser.parse s.maxDepth.levels text = .ok t →
    (s.executor .standard kind).outcome t = .ok v →
      answer = valueReply text kind.name v ∧ Word.InRange v

/-- How a request for the value of a text is answered, where `e` is the name of the executor that is
to be used. -/
structure EvaluationAnswered (s : Settings) (text : String) (e : Text.Raw) (answer : Response) :
    Prop where
  status_ne_internal : answer.status ≠ 500
  status_eq_unknown_iff : answer.status = 404 ↔ e ≠ "interpreter" ∧ e ≠ "vm"
  of_unknown : e ≠ "interpreter" ∧ e ≠ "vm" → answer = unknownReply e
  of_known : ∀ kind : ExecutorKind, kind.name = e → ValueAnswered s text kind answer

/-- How a request for the program of a text is answered. -/
structure CompilationAnswered (s : Settings) (text : String) (answer : Response) : Prop where
  status_ne_internal : answer.status ≠ 500
  status_eq_unprocessable_iff : answer.status = 422
    ↔ ∃ cause, Parser.parse s.maxDepth.levels text = .error cause
  of_syntaxError : ∀ cause, Parser.parse s.maxDepth.levels text = .error cause →
    answer = syntaxReply cause
  of_tree : ∀ t, Parser.parse s.maxDepth.levels text = .ok t →
    answer = programReply text ⟨t.postorder⟩

section Documented

variable {s : Settings} {r : Request} {text : String} {fields : Json.Fields}
  {given : Option Text.Raw}

theorem valueAnswered (hbrings : Brings r "/evaluate" text fields) (hnames : Names fields given)
    {kind : ExecutorKind} (hkind : kind.name = executorName s given) :
    ValueAnswered s text kind ((ofSettings s).respond r) := by
  have hknown := respond_known hbrings hnames hkind
  have hsyntax : ∀ cause, Parser.parse s.maxDepth.levels text = .error cause →
      (ofSettings s).respond r = syntaxReply cause := by
    intro cause hparse
    rw [hknown, Settings.textValue_of_error hparse]
    exact ofError_parse cause
  have hvalue : ∀ t v, Parser.parse s.maxDepth.levels text = .ok t →
      (s.executor .standard kind).outcome t = .ok v →
        (ofSettings s).respond r = valueReply text kind.name v ∧ Word.InRange v := by
    intro t v hparse houtcome
    have htext := (Settings.outcome_of_parse hparse kind).symm.trans houtcome
    rw [hknown, htext]
    exact ⟨rfl, Settings.inRange_of_textValue htext⟩
  refine ⟨⟨?_, ?_⟩, hsyntax, ?_, ?_, hvalue⟩
  · -- The answer to a text that is an expression has another status or another detail.
    rintro ⟨cause, hanswer⟩
    rcases hparse : Parser.parse s.maxDepth.levels text with cause' | t
    · exact ⟨cause', rfl⟩
    · rcases houtcome : (s.executor .standard kind).outcome t with x | v
      · obtain ⟨failure, _, hfailure⟩ := respond_failure hbrings hnames hkind hparse houtcome
        exact absurd (hanswer.symm.trans hfailure) (syntaxReply_ne_failureReply cause failure)
      · cases congrArg Response.status (hanswer.symm.trans (hvalue t v hparse houtcome).1)
  · rintro ⟨cause, hparse⟩
    exact ⟨cause, hsyntax cause hparse⟩
  · intro t hparse
    constructor
    · rintro ⟨cause, hanswer⟩
      rcases houtcome : (s.executor .standard kind).outcome t with x | v
      · exact ⟨x, rfl⟩
      · cases congrArg Response.status (hanswer.symm.trans (hvalue t v hparse houtcome).1)
    · rintro ⟨x, houtcome⟩
      obtain ⟨failure, _, hfailure⟩ := respond_failure hbrings hnames hkind hparse houtcome
      exact ⟨_, hfailure⟩
  · intro t x hparse houtcome
    obtain ⟨failure, hx, hfailure⟩ := respond_failure hbrings hnames hkind hparse houtcome
    exact ⟨_, hx, hfailure⟩

/-- An answer for which the executor is there has one of two statuses. -/
theorem ValueAnswered.status_eq {kind : ExecutorKind} {answer : Response}
    (h : ValueAnswered s text kind answer) : answer.status = 422 ∨ answer.status = 200 := by
  rcases hparse : Parser.parse s.maxDepth.levels text with cause | t
  · exact Or.inl (by rw [h.of_syntaxError cause hparse, status_syntaxReply])
  · rcases houtcome : (s.executor .standard kind).outcome t with x | v
    · obtain ⟨cause, _, hanswer⟩ := h.of_failure t x hparse houtcome
      exact Or.inl (by rw [hanswer, status_failureReply])
    · exact Or.inr (by rw [(h.of_value t v hparse houtcome).1, status_valueReply])

theorem evaluationAnswered (hbrings : Brings r "/evaluate" text fields)
    (hnames : Names fields given) :
    EvaluationAnswered s text (executorName s given) ((ofSettings s).respond r) := by
  refine ⟨?_, ⟨?_, ?_⟩, respond_unknown hbrings hnames,
    fun kind hkind => valueAnswered hbrings hnames hkind⟩
  · rcases exists_name_eq_or_unknown (executorName s given) with ⟨kind, hkind⟩ | hunknown
    · rcases (valueAnswered hbrings hnames hkind).status_eq with h | h <;> simp [h]
    · simp [respond_unknown hbrings hnames hunknown]
  · intro hstatus
    rcases exists_name_eq_or_unknown (executorName s given) with ⟨kind, hkind⟩ | hunknown
    · rcases (valueAnswered hbrings hnames hkind).status_eq with h | h <;>
        cases h.symm.trans hstatus
    · exact hunknown
  · intro hunknown
    rw [respond_unknown hbrings hnames hunknown, status_unknownReply]

theorem compilationAnswered (hbrings : Brings r "/compile" text fields) :
    CompilationAnswered s text ((ofSettings s).respond r) := by
  rcases hparse : Parser.parse s.maxDepth.levels text with cause | t
  · rw [respond_compile_of_error hbrings hparse]
    refine ⟨by simp, ⟨fun _ => ⟨cause, hparse⟩, fun _ => status_syntaxReply cause⟩, ?_, ?_⟩
    · intro cause' h
      cases hparse.symm.trans h
      rfl
    · intro t h
      cases hparse.symm.trans h
  · rw [respond_compile_of_ok hbrings hparse]
    refine ⟨by simp, ⟨by simp, ?_⟩, ?_, ?_⟩
    · rintro ⟨cause, h⟩
      cases hparse.symm.trans h
    · intro cause h
      cases hparse.symm.trans h
    · intro t' h
      cases hparse.symm.trans h
      rfl

/-- Executors differ in nothing but the name that an answer gives. -/
theorem respond_congr (hbrings : Brings r "/evaluate" text fields) (hnames : Names fields given)
    {kind : ExecutorKind} (hkind : kind.name = executorName s given)
    {r' : Request} {fields' : Json.Fields} {given' : Option Text.Raw}
    (hbrings' : Brings r' "/evaluate" text fields') (hnames' : Names fields' given')
    {kind' : ExecutorKind} (hkind' : kind'.name = executorName s given') :
    (ofSettings s).respond r = (ofSettings s).respond r'
      ∨ ∃ v, (ofSettings s).respond r = valueReply text kind.name v
          ∧ (ofSettings s).respond r' = valueReply text kind'.name v := by
  rw [respond_known hbrings hnames hkind, respond_known hbrings' hnames' hkind']
  rcases s.textValue text with cause | v
  · exact Or.inl rfl
  · exact Or.inr ⟨v, rfl, rfl⟩

/-- Only what is the client's fault goes wrong. -/
theorem error_cases {x : CalcError}
    (h : (∃ kind, (ofSettings s).valueOf kind text = .error x)
      ∨ (ofSettings s).programOf text = .error x) :
    (∃ cause, x = .parse cause) ∨ ∃ cause, x = .execution cause ∧ cause.internal = false := by
  rcases h with ⟨kind, hvalue⟩ | hprogram
  · rw [valueOf_eq] at hvalue
    rcases Settings.textValue_error_cases hvalue with ⟨cause, _, hx⟩ | ⟨_, cause, _, hx⟩
    · exact Or.inl ⟨cause, hx⟩
    · exact Or.inr ⟨.arithmetic cause, hx, rfl⟩
  · rcases hparse : Parser.parse s.maxDepth.levels text with cause | t
    · cases (programOf_of_error hparse).symm.trans hprogram
      exact Or.inl ⟨cause, rfl⟩
    · cases (programOf_of_ok hparse).symm.trans hprogram

/-- The status is 500 exactly if the text has a half in it. -/
theorem status_eq_internal_iff {raw : Text.Raw}
    (h : (Brings r "/evaluate" raw fields ∧ Names fields given) ∨ Brings r "/compile" raw fields) :
    ((ofSettings s).respond r).status = 500 ↔ raw.isText = false := by
  cases raw with
  | text text =>
    have hstatus : ((ofSettings s).respond r).status ≠ 500 := by
      rcases h with ⟨hbrings, hnames⟩ | hbrings
      · exact (evaluationAnswered hbrings hnames).status_ne_internal
      · exact (compilationAnswered hbrings).status_ne_internal
    simp [hstatus]
  | unpaired u =>
    have hanswer : (ofSettings s).respond r = .breakdown := by
      rcases h with ⟨hbrings, hnames⟩ | hbrings
      · exact hbrings.respond_eq_breakdown hnames
      · exact hbrings.respond_compile_eq_breakdown
    rw [hanswer]
    exact ⟨fun _ => rfl, fun _ => rfl⟩

end Documented

/-- **Every well-formed body is answered as documented, and never with status 500, unless its text
has half of a surrogate pair in it.** This holds under any settings. An evaluation is answered with
status 404 exactly if its executor is unknown, whatever the text and whatever string the name is;
else with the parser's complaint exactly if the text is no expression; else with the executor's
complaint exactly if evaluation fails; else with the value. A compilation is answered with the
parser's complaint exactly if the text is no expression, and else with the program. What goes wrong
with a text is never one of the faults that are answered with status 500, and the answers of two
executors to the same text differ in the name of the executor only. A text with a half in it is
answered with status 500 by both places, and no other one is. -/
theorem answers_as_documented_unless_unpaired (s : Settings) :
    (∀ (r : Request) (text : String) (fields : Json.Fields) (given : Option Text.Raw),
        Brings r "/evaluate" text fields → Names fields given →
        EvaluationAnswered s text (executorName s given) ((ofSettings s).respond r))
      ∧ (∀ (r : Request) (text : String) (fields : Json.Fields),
          Brings r "/compile" text fields →
          CompilationAnswered s text ((ofSettings s).respond r))
      ∧ (∀ (text : String) (x : CalcError),
          (∃ kind, (ofSettings s).valueOf kind text = .error x)
            ∨ (ofSettings s).programOf text = .error x →
          (∃ cause, x = .parse cause) ∨ ∃ cause, x = .execution cause ∧ cause.internal = false)
      ∧ (∀ (r r' : Request) (text : String) (fields fields' : Json.Fields),
          Brings r "/evaluate" text fields → Names fields (some "interpreter") →
          Brings r' "/evaluate" text fields' → Names fields' (some "vm") →
          (ofSettings s).respond r = (ofSettings s).respond r'
            ∨ ∃ v, (ofSettings s).respond r = valueReply text "interpreter" v
                ∧ (ofSettings s).respond r' = valueReply text "vm" v)
      ∧ ∀ (r : Request) (raw : Text.Raw) (fields : Json.Fields) (given : Option Text.Raw),
          (Brings r "/evaluate" raw fields ∧ Names fields given) ∨ Brings r "/compile" raw fields →
          (((ofSettings s).respond r).status = 500 ↔ raw.isText = false) := by
  refine ⟨?_, ?_, ?_, ?_, ?_⟩
  · intro r text fields given hbrings hnames
    exact evaluationAnswered hbrings hnames
  · intro r text fields hbrings
    exact compilationAnswered hbrings
  · intro text x h
    exact error_cases h
  · intro r r' text fields fields' hbrings hnames hbrings' hnames'
    have hinterpreter : ExecutorKind.interpreter.name = executorName s (some "interpreter") := rfl
    have hvm : ExecutorKind.vm.name = executorName s (some "vm") := rfl
    have hanswers := respond_congr hbrings hnames hinterpreter hbrings' hnames' hvm
    rwa [ExecutorKind.name, ExecutorKind.name] at hanswers
  · intro r raw fields given h
    exact status_eq_internal_iff h

/-! ## Three bodies -/

/-- A body that is sent as JSON and read to an object, as it stands. -/
theorem fieldsOf_of_ofChars {r : Request} {fields : Json.Fields} (hne : r.body ≠ "")
    (htype : isJsonType r.mediaType = true)
    (hdecoded : decodedBody r.body = some (r.body.toList.map .char))
    (hread : Json.ofChars rules r.body.toList = .ok (.object fields)) :
    fieldsOf r = .ok fields := by
  have hempty : ¬ r.body.isEmpty = true := by rwa [String.isEmpty_iff]
  have hdocument : documentOf r.body = .ok (.object fields) := by
    rw [documentOf, hdecoded]
    dsimp only
    rw [← Json.ofChars, hread]
  rw [fieldsOf, if_neg hempty, if_pos htype, hdocument]

/-- A division by zero that is sent to the machine. -/
def quotientRequest : Request :=
  { method := "POST", path := "/evaluate?verbose",
    body := "\x7b\"text\":\"1/0\",\"executor\":\"vm\"\x7d" }

def quotientFields : Json.Fields := [("text", .string "1/0"), ("executor", .string "vm")]

/-- The first half of a pair, by itself. -/
def loneHalf : Text.Unpaired := ⟨[.half ⟨0xD800, by decide⟩], by decide⟩

/-- A request to be evaluated by an executor whose name is half of a pair. -/
def strangerRequest : Request :=
  { method := "POST", path := "/evaluate",
    body := "\x7b\"text\":\"+\",\"executor\":\"\\ud800\"\x7d" }

def strangerFields : Json.Fields := [("text", .string "+"), ("executor", .unpaired loneHalf)]

/-- A request whose text is half of a pair, spelled by an escape. -/
def halfRequest (place : String) : Request :=
  { method := "POST", path := place, body := "\x7b\"text\":\"\\ud800\"\x7d" }

def halfFields : Json.Fields := [("text", .unpaired loneHalf)]

theorem codePoint?_loneHalf (rest : List Char) :
    Json.codePoint? ('d' :: '8' :: '0' :: '0' :: '"' :: rest)
      = some (.half ⟨0xD800, by decide⟩, '"' :: rest) := rfl

theorem ofChars_bodies (place : String) :
    Json.ofChars rules quotientRequest.body.toList = .ok (.object quotientFields)
      ∧ Json.ofChars rules strangerRequest.body.toList = .ok (.object strangerFields)
      ∧ Json.ofChars rules (halfRequest place).body.toList = .ok (.object halfFields) := by
  refine ⟨?_, ?_, ?_⟩ <;>
    simp [quotientRequest, quotientFields, strangerRequest, strangerFields, halfRequest, halfFields,
      loneHalf, codePoint?_loneHalf, rules, Json.ofChars_eq, Json.value?, Json.fields?,
      Json.string?, Json.stringLoop, Json.skipBlanks, Json.isBlank, Json.setField, Json.ofRaw,
      Except.map, Text.Raw.ofPoints, Text.CodePoint.isHalf, Text.CodePoint.shown]

theorem brings_quotientRequest : Brings quotientRequest "/evaluate" "1/0" quotientFields :=
  ⟨rfl, by decide, fieldsOf_of_ofChars (by decide) rfl (by decide +kernel) (ofChars_bodies "").1,
    rfl, by decide⟩

theorem brings_strangerRequest : Brings strangerRequest "/evaluate" "+" strangerFields :=
  ⟨rfl, by decide, fieldsOf_of_ofChars (by decide) rfl (by decide +kernel) (ofChars_bodies "").2.1,
    rfl, by decide⟩

theorem brings_halfRequest (place : String) (hplace : (halfRequest place).place = place) :
    Brings (halfRequest place) place (.unpaired loneHalf) halfFields := by
  -- the body is the same for every place
  have hdecoded : decodedBody (halfRequest "").body
      = some ((halfRequest "").body.toList.map .char) := by decide +kernel
  have hne : (halfRequest place).body ≠ "" := by simp [halfRequest]
  exact ⟨rfl, hplace, fieldsOf_of_ofChars hne rfl hdecoded (ofChars_bodies place).2.2, rfl,
    by decide⟩

/-- **Not every well-formed body is answered**: the service breaks down on a text that is half of a
pair, wherever it is sent. -/
theorem unpaired_text_is_not_answered :
    (Brings (halfRequest "/evaluate") "/evaluate" (.unpaired loneHalf) halfFields
        ∧ (ofSettings {}).respond (halfRequest "/evaluate") = ⟨500, "Internal Server Error"⟩)
      ∧ (Brings (halfRequest "/compile") "/compile" (.unpaired loneHalf) halfFields
        ∧ (ofSettings {}).respond (halfRequest "/compile") = ⟨500, "Internal Server Error"⟩)
      ∧ ¬ ∀ (s : Settings) (r : Request) (raw : Text.Raw) (fields : Json.Fields)
          (given : Option Text.Raw), Brings r "/evaluate" raw fields → Names fields given →
          ((ofSettings s).respond r).status ≠ 500 := by
  have hevaluate := brings_halfRequest "/evaluate" (by decide)
  have hcompile := brings_halfRequest "/compile" (by decide)
  have hnames : Names halfFields none := .absent rfl
  have hanswer : (ofSettings {}).respond (halfRequest "/evaluate") = .breakdown :=
    hevaluate.respond_eq_breakdown hnames
  refine ⟨⟨hevaluate, hanswer⟩, ⟨hcompile, hcompile.respond_compile_eq_breakdown⟩, ?_⟩
  intro hanswered
  exact hanswered {} _ _ _ _ hevaluate hnames (congrArg Response.status hanswer)

/-- A division by zero, a name that is half of a pair beside a text that is no expression, and a
text that is half of a pair. -/
theorem answers_as_documented_unless_unpaired_at_requests :
    (Brings quotientRequest "/evaluate" "1/0" quotientFields
        ∧ Names quotientFields (some "vm")
        ∧ EvaluationAnswered {} "1/0" (executorName {} (some "vm"))
            ((ofSettings {}).respond quotientRequest))
      ∧ (Brings strangerRequest "/evaluate" "+" strangerFields
        ∧ Names strangerFields (some (.unpaired loneHalf))
        ∧ ((ofSettings {}).respond strangerRequest).status = 404)
      ∧ (Brings (halfRequest "/compile") "/compile" (.unpaired loneHalf) halfFields
        ∧ ((ofSettings {}).respond (halfRequest "/compile")).status = 500) := by
  have hvm : Names quotientFields (some "vm") := .named rfl
  have hstranger : Names strangerFields (some (.unpaired loneHalf)) := .named rfl
  have hcompile := brings_halfRequest "/compile" (by decide)
  obtain ⟨hevaluated, _, _, _, hstatus⟩ := answers_as_documented_unless_unpaired {}
  exact ⟨⟨brings_quotientRequest, hvm, hevaluated _ _ _ _ brings_quotientRequest hvm⟩,
    ⟨brings_strangerRequest, hstranger,
      (hevaluated _ _ _ _ brings_strangerRequest hstranger).status_eq_unknown_iff.mpr
        ⟨by decide, by decide⟩⟩,
    hcompile, (hstatus _ _ _ none (Or.inr hcompile)).mpr rfl⟩

end Service

end Reckoner
