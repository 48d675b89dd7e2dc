import Reckoner.Proofs.DocumentReading
import Reckoner.Proofs.EvalCommand

/-!
# How runs end

A run ends with an exit code of 0, 1 or 2, or it breaks down. What is foreseen is reported: settings
that are refused and a file that cannot be read are complained about in a single line, and the exit
code is 1. Not foreseen is a file of defaults that is there and cannot be read or is not UTF-8, a
name for the log level that is a text but no level's, a path that no system takes, and a file that
can be read and is not UTF-8. These are all that a run breaks down on (`BreaksDown`), whatever its
arguments and its surroundings are, and it does so without a complaint.

So an invalid log level and a bad file of defaults are not reported like other invalid settings are,
and neither is a file with bad bytes in it like other unreadable files.

Complaints are what counts here, and the log is left aside (`Outcome.seen`).
-/

namespace Reckoner

open Validated

/-! ## Refused settings -/

theorem Validated.map_eq_error_iff {α β : Type} {x : Validated α} {f : α → β}
    {issues : List Issue} : Except.map f x = .error issues ↔ x = .error issues := by
  cases x <;> simp [Except.map]

/-- The issues of the first part that has any come first. -/
theorem Validated.both_error_cases {α β : Type} {x : Validated α} {y : Validated β}
    {issues : List Issue} (h : both x y = .error issues) :
    (∃ first rest, x = .error first ∧ issues = first ++ rest) ∨ y = .error issues := by
  cases x <;> cases y <;> cases h
  · exact Or.inl ⟨_, _, rfl, rfl⟩
  · exact Or.inl ⟨_, [], rfl, (List.append_nil _).symm⟩
  · exact Or.inr rfl

/-- A reader that gives a reason whenever it refuses a document. -/
def GivesReason {α : Type} (read : Json → Validated α) : Prop :=
  ∀ doc issues, read doc = .error issues → issues ≠ []

namespace Document

theorem givesReason_text : GivesReason text := by
  intro doc issues h
  unfold text at h
  split at h <;> cases h
  exact List.cons_ne_nil _ _

theorem givesReason_choice (choices : List String) : GivesReason (choice choices) := by
  intro doc issues h
  unfold choice at h
  split at h
  · split at h <;> cases h
    exact List.cons_ne_nil _ _
  · cases h
    exact List.cons_ne_nil _ _

theorem givesReason_integer : GivesReason integer := by
  intro doc issues h
  unfold integer at h
  split at h
  · cases h
  · cases h
  · unfold integerOfFloat at h
    split at h
    · cases h
      exact List.cons_ne_nil _ _
    · cases h
      exact List.cons_ne_nil _ _
    · split at h
      · cases h
        exact List.cons_ne_nil _ _
      · split at h <;> cases h
        exact List.cons_ne_nil _ _
  · unfold integerOfText at h
    split at h
    · cases h
    · cases h
      exact List.cons_ne_nil _ _
    · split at h <;> cases h
      exact List.cons_ne_nil _ _
  · cases h
    exact List.cons_ne_nil _ _

end Document

namespace Settings

theorem givesReason_depthBound : GivesReason depthBound := by
  intro doc issues h
  unfold depthBound at h
  split at h
  · next hinteger =>
    cases h
    exact Document.givesReason_integer _ _ hinteger
  · split at h
    · cases h
      exact List.cons_ne_nil _ _
    · split at h <;> cases h
      exact List.cons_ne_nil _ _

theorem givesReason_executorKind : GivesReason executorKind := by
  intro doc issues h
  unfold executorKind at h
  split at h
  · next hchoice =>
    cases h
    exact Document.givesReason_choice _ _ _ hchoice
  · split at h <;> cases h
    exact List.cons_ne_nil _ _

/-- The places give the setting of a name a value that it cannot have. -/
inductive Refuses (places : Places) : String → Prop
  | text {name : String} {doc : Json} {issues : List Issue}
      (hname : name = "log_level" ∨ name = "app_title" ∨ name = "app_version")
      (hfound : places.find? name = some doc) (hread : Document.text doc = .error issues) :
      Refuses places name
  | depth {doc : Json} {issues : List Issue} (hfound : places.find? "max_depth" = some doc)
      (hread : depthBound doc = .error issues) : Refuses places "max_depth"
  | executor {doc : Json} {issues : List Issue}
      (hfound : places.find? "default_executor" = some doc)
      (hread : executorKind doc = .error issues) : Refuses places "default_executor"

section Settings

variable {α : Type} {places : Places} {name : String} {read : Json → Validated α} {otherwise : α}

theorem setting_ne_ok {doc : Json} {issues : List Issue} (hfound : places.find? name = some doc)
    (hread : read doc = .error issues) (a : α) : setting places name read otherwise ≠ .ok a := by
  rw [setting, hfound]
  dsimp only
  rw [hread]
  exact fun h => nomatch h

theorem exists_of_setting_error (hreason : GivesReason read) {issues : List Issue}
    (h : setting places name read otherwise = .error issues) :
    ∃ doc inner fault location more, places.find? name = some doc ∧ read doc = .error inner
      ∧ issues = ⟨fault, .field name :: location⟩ :: more := by
  rw [setting] at h
  split at h
  · next doc hfound =>
    rcases hread : read doc with inner | a
    · rw [hread] at h
      cases h
      obtain ⟨first, more, hinner⟩ := List.exists_cons_of_ne_nil (hreason _ _ hread)
      exact ⟨doc, inner, first.fault, first.location, more.map (Issue.under (.field name)), hfound,
        hread, by rw [hinner, List.map_cons, Issue.under]⟩
    · rw [hread] at h
      cases h
  · cases h

end Settings

/-- **Settings that are refused are refused for a setting that the first issue names.** -/
theorem exists_head_of_ofPlaces {places : Places} {issues : List Issue}
    (h : ofPlaces places = .error issues) :
    ∃ name fault location more, Refuses places name
      ∧ issues = ⟨fault, .field name :: location⟩ :: more := by
  have hread := map_eq_error_iff.mp h
  rcases both_error_cases hread with ⟨first, rest, hlevel, rfl⟩ | hread
  · obtain ⟨_, _, fault, location, more, hfound, hinner, rfl⟩ :=
      exists_of_setting_error Document.givesReason_text hlevel
    exact ⟨_, fault, location, more ++ rest, .text (Or.inl rfl) hfound hinner, rfl⟩
  rcases both_error_cases hread with ⟨first, rest, hdepth, rfl⟩ | hread
  · obtain ⟨_, _, fault, location, more, hfound, hinner, rfl⟩ :=
      exists_of_setting_error givesReason_depthBound hdepth
    exact ⟨_, fault, location, more ++ rest, .depth hfound hinner, rfl⟩
  rcases both_error_cases hread with ⟨first, rest, hexecutor, rfl⟩ | hread
  · obtain ⟨_, _, fault, location, more, hfound, hinner, rfl⟩ :=
      exists_of_setting_error givesReason_executorKind hexecutor
    exact ⟨_, fault, location, more ++ rest, .executor hfound hinner, rfl⟩
  rcases both_error_cases hread with ⟨first, rest, htitle, rfl⟩ | hversion
  · obtain ⟨_, _, fault, location, more, hfound, hinner, rfl⟩ :=
      exists_of_setting_error Document.givesReason_text htitle
    exact ⟨_, fault, location, more ++ rest, .text (Or.inr (Or.inl rfl)) hfound hinner, rfl⟩
  · obtain ⟨_, _, fault, location, more, hfound, hinner, rfl⟩ :=
      exists_of_setting_error Document.givesReason_text hversion
    exact ⟨_, fault, location, more, .text (Or.inr (Or.inr rfl)) hfound hinner, rfl⟩

theorem Refuses.ofPlaces_eq_error {places : Places} {name : String} (h : Refuses places name) :
    ∃ issues, ofPlaces places = .error issues := by
  rcases hread : ofPlaces places with issues | s
  · exact ⟨issues, rfl⟩
  · obtain ⟨⟨_, _, _, _, _⟩, hboth, _⟩ := map_eq_ok_iff.mp hread
    obtain ⟨hlevel, hboth⟩ := both_eq_ok_iff.mp hboth
    obtain ⟨hdepth, hboth⟩ := both_eq_ok_iff.mp hboth
    obtain ⟨hexecutor, hboth⟩ := both_eq_ok_iff.mp hboth
    obtain ⟨htitle, hversion⟩ := both_eq_ok_iff.mp hboth
    cases h with
    | text hname hfound hrefused =>
      rcases hname with rfl | rfl | rfl
      · exact absurd hlevel (setting_ne_ok hfound hrefused _)
      · exact absurd htitle (setting_ne_ok hfound hrefused _)
      · exact absurd hversion (setting_ne_ok hfound hrefused _)
    | depth hfound hrefused => exact absurd hdepth (setting_ne_ok hfound hrefused _)
    | executor hfound hrefused => exact absurd hexecutor (setting_ne_ok hfound hrefused _)

/-- Where the file of defaults stands in the way, or a value does. -/
theorem ofSources_error_cases {sources : Sources} {cause : Unusable}
    (h : ofSources sources = .error cause) :
    sources.places = .error cause
      ∨ ∃ places issues, sources.places = .ok places ∧ ofPlaces places = .error issues
          ∧ cause = .issues issues := by
  rw [ofSources] at h
  split at h
  · next hplaces =>
    cases h
    exact Or.inl hplaces
  · next places hplaces =>
    split at h
    · next issues hissues =>
      cases h
      exact Or.inr ⟨places, issues, hplaces, hissues, rfl⟩
    · cases h

/-- What can be wrong with the file of defaults. -/
theorem places_error_cases {sources : Sources} {cause : Unusable}
    (h : sources.places = .error cause) :
    (∃ fault, sources.file = .unreadable fault ∧ cause = .unreadable fault)
      ∨ ∃ content fault, sources.file = .bytes content
          ∧ Text.Utf8.decode content = .error fault ∧ cause = .undecodable fault := by
  rw [Sources.places] at h
  split at h
  · cases h
  · next fault hfile =>
    cases h
    exact Or.inl ⟨fault, hfile, rfl⟩
  · next content hfile =>
    split at h
    · next fault hdecode =>
      cases h
      exact Or.inr ⟨content, fault, hfile, hdecode, rfl⟩
    · cases h

theorem ofSources_of_unreadable {sources : Sources} {fault : FileFault}
    (h : sources.file = .unreadable fault) : ofSources sources = .error (.unreadable fault) := by
  rw [ofSources, Sources.places, h]

theorem ofSources_of_undecodable {sources : Sources} {content : List UInt8}
    {fault : Text.Utf8.Fault} (h : sources.file = .bytes content)
    (hdecode : Text.Utf8.decode content = .error fault) :
    ofSources sources = .error (.undecodable fault) := by
  rw [ofSources, Sources.places, h]
  dsimp only
  rw [hdecode]

end Settings

/-! ## Messages -/

/-- A literal is a list of characters, and is looked at as one. -/
theorem oneLine_ofList {chars : List Char} (h : '\n' ∉ chars) : OneLine (String.ofList chars) := by
  rwa [OneLine, String.toList_ofList]

theorem OneLine.append {a b : String} (ha : OneLine a) (hb : OneLine b) : OneLine (a ++ b) := by
  unfold OneLine at *
  rw [String.toList_append, List.mem_append, not_or]
  exact ⟨ha, hb⟩

theorem oneLine_alternatives {texts : List String} (h : ∀ text ∈ texts, OneLine text) :
    OneLine (alternatives texts) := by
  fun_induction alternatives texts with
  | case1 => exact oneLine_ofList (by decide)
  | case2 only => exact h only List.mem_cons_self
  | case3 first last =>
    exact ((h first (by simp)).append (oneLine_ofList (by decide))).append (h last (by simp))
  | case4 first rest _ _ ih =>
    exact ((h first List.mem_cons_self).append (oneLine_ofList (by decide))).append
      (ih fun text ht => h text (List.mem_cons_of_mem _ ht))

theorem Fault.oneLine_message (fault : Fault) : OneLine fault.message := by
  -- Whatever the alternatives are, they are shown between quotes.
  have hquoted : ∀ {α : Type} (spelling : α → String) (choices : List α),
      OneLine ("Input should be "
        ++ alternatives (choices.map fun a => Text.quoted (spelling a))) := by
    intro α spelling choices
    refine (oneLine_ofList (by decide)).append (oneLine_alternatives ?_)
    intro text htext
    obtain ⟨choice, _, rfl⟩ := List.mem_map.mp htext
    exact Text.newline_not_mem_quoted _
  rw [message.eq_def]
  cases fault with
  | below least => exact (oneLine_ofList (by decide)).append (Text.newline_not_mem_decimal least)
  | above greatest =>
    exact (oneLine_ofList (by decide)).append (Text.newline_not_mem_decimal greatest)
  | notOperator => exact hquoted Operator.symbolText Operator.all
  | notAmong choices => exact hquoted id choices
  | tooLong limit =>
    exact ((oneLine_ofList (by decide)).append (Text.newline_not_mem_decimal limit)).append
      (oneLine_ofList (by decide))
  | _ => exact oneLine_ofList (by decide)

theorem Settings.Refuses.oneLine {places : Settings.Places} {name : String}
    (h : Refuses places name) : OneLine name := by
  cases h with
  | text hname _ _ => rcases hname with rfl | rfl | rfl <;> exact oneLine_ofList (by decide)
  | depth _ _ => exact oneLine_ofList (by decide)
  | executor _ _ => exact oneLine_ofList (by decide)

namespace CommandLine

/-! ## Runs that are foreseen to fail -/

/-- The run makes a single complaint, of one line, and exits with code 1. -/
structure Diagnosed (o : Outcome) (message : String) : Prop where
  seen_eq : o.seen = ⟨.exit 1, "", ["error: " ++ message]⟩
  oneLine : OneLine message

theorem diagnosed_failing {message : String} (h : OneLine message) :
    Diagnosed (.failing message) message := by
  refine ⟨?_, h⟩
  rw [Outcome.seen, errorLines_stderr, Outcome.failing, List.flatMap_singleton,
    errorLines_complaint h]
  simp [Outcome.stdout, Output.complaint, Output.stdout]

theorem FileFault.oneLine_message {fault : FileFault} (h : OneLine fault.reason) (path : String) :
    OneLine (fault.message path) := by
  unfold OneLine at *
  simp [FileFault.message, h]

section Runs

variable {world : Surroundings} {arguments : List String}

/-- Refused settings are complained about, by the name of one of them. -/
theorem exists_diagnosed_of_refuses {c : Call} {places : Settings.Places} {name : String}
    (hcall : call arguments = .ok c) (hplaces : world.sources.places = .ok places)
    (h : Settings.Refuses places name) :
    ∃ named fault, Settings.Refuses places named
      ∧ Diagnosed (run world arguments)
          ("invalid configuration: " ++ named ++ ": " ++ Fault.message fault) := by
  obtain ⟨issues, hissues⟩ := h.ofPlaces_eq_error
  obtain ⟨named, fault, location, more, hrefuses, rfl⟩ :=
    Settings.exists_head_of_ofPlaces hissues
  refine ⟨named, fault, hrefuses, ?_⟩
  have hone : OneLine ("invalid configuration: " ++ named ++ ": " ++ fault.message) :=
    (((oneLine_ofList (by decide)).append hrefuses.oneLine).append
      (oneLine_ofList (by decide))).append fault.oneLine_message
  have hsettings : Settings.ofSources world.sources
      = .error (.issues (⟨fault, .field named :: location⟩ :: more)) := by
    rw [Settings.ofSources, hplaces]
    dsimp only
    rw [hissues]
  have hrun : run world arguments
      = .failing ("invalid configuration: " ++ named ++ ": " ++ fault.message) :=
    run_of_unusable hcall hsettings
  rw [hrun]
  exact diagnosed_failing hone

/-- The run gets as far as its text: the arguments are a call, and there are settings whose log
level is one. -/
structure Prepared (world : Surroundings) (arguments : List String) (c : Call)
    (settings : Settings) (threshold : Log.Level) : Prop where
  call_eq : call arguments = .ok c
  settings_eq : Settings.ofSources world.sources = .ok settings
  level_eq : Log.Level.ofName settings.logLevel = .ok threshold

/-- The text of the call is to come from the file of a name. -/
structure WantsFile (c : Call) (name : String) : Prop where
  text_eq : nonempty? c.request.text = none
  file_eq : nonempty? c.request.file = some name

theorem Prepared.run_eq {c : Call} {settings : Settings} {threshold : Log.Level}
    (h : Prepared world arguments c settings threshold) :
    run world arguments
      = match inputText world c.request with
        | .error failure => failure.outcome
        | .ok text => perform world settings threshold c text := by
  rw [run_eq_carryOut h.call_eq, carryOut, h.settings_eq]
  cases inputText world c.request with
  | error failure => simp only [h.level_eq]
  | ok text => simp only [h.level_eq]

theorem WantsFile.inputText_eq {c : Call} {name : String} (h : WantsFile c name) :
    inputText world c.request = fileText world name := by
  rw [inputText, h.text_eq, h.file_eq]

/-- A file that the system does not hand out is complained about. -/
theorem diagnosed_of_unreadable {c : Call} {settings : Settings} {threshold : Log.Level}
    {name : String} {fault : FileFault} (hprepared : Prepared world arguments c settings threshold)
    (hfile : WantsFile c name) (hnul : name.toList.contains '\x00' = false)
    (hbytes : world.bytesOf (tidyPath name) = .error fault) (hreason : OneLine fault.reason) :
    Diagnosed (run world arguments) ("cannot read file: " ++ fault.message (tidyPath name)) := by
  have htext : fileText world name = .error (.unreadable (tidyPath name) fault) := by
    rw [fileText, hnul, if_neg Bool.false_ne_true, hbytes]
  have hone : OneLine ("cannot read file: " ++ fault.message (tidyPath name)) :=
    (oneLine_ofList (by decide)).append (FileFault.oneLine_message hreason (tidyPath name))
  rw [hprepared.run_eq, hfile.inputText_eq, htext]
  exact diagnosed_failing hone

/-! ## Runs that break down -/

/-- What a run breaks down on. -/
inductive BreaksDown (world : Surroundings) (arguments : List String) : Breakdown → Prop
  | unreadableDefaults {c : Call} {fault : FileFault} (hcall : call arguments = .ok c)
      (hfile : world.sources.file = .unreadable fault) :
      BreaksDown world arguments (.unreadableDefaults fault)
  | undecodableDefaults {c : Call} {content : List UInt8} {cause : Text.Utf8.Fault}
      (hcall : call arguments = .ok c) (hfile : world.sources.file = .bytes content)
      (hdecode : Text.Utf8.decode content = .error cause) :
      BreaksDown world arguments (.undecodable cause)
  | unknownLevel {c : Call} {settings : Settings} {cause : Log.Level.Unknown}
      (hcall : call arguments = .ok c)
      (hsettings : Settings.ofSources world.sources = .ok settings)
      (hlevel : Log.Level.ofName settings.logLevel = .error cause) :
      BreaksDown world arguments (.unknownLevel cause)
  | nulInPath {c : Call} {settings : Settings} {threshold : Log.Level} {name : String}
      (hprepared : Prepared world arguments c settings threshold) (hfile : WantsFile c name)
      (hnul : name.toList.contains '\x00' = true) : BreaksDown world arguments .nulInPath
  | undecodable {c : Call} {settings : Settings} {threshold : Log.Level} {name : String}
      {bytes : List UInt8} {cause : Text.Utf8.Fault}
      (hprepared : Prepared world arguments c settings threshold) (hfile : WantsFile c name)
      (hnul : name.toList.contains '\x00' = false)
      (hbytes : world.bytesOf (tidyPath name) = .ok bytes)
      (hdecode : Text.Utf8.decode bytes = .error cause) :
      BreaksDown world arguments (.undecodable cause)

/-- A run that breaks down says nothing before. -/
theorem BreaksDown.run_eq {cause : Breakdown} (h : BreaksDown world arguments cause) :
    run world arguments = ⟨[], .breakdown cause⟩ := by
  cases h with
  | unreadableDefaults hcall hfile =>
    exact run_of_unusable hcall (Settings.ofSources_of_unreadable hfile)
  | undecodableDefaults hcall hfile hdecode =>
    exact run_of_unusable hcall (Settings.ofSources_of_undecodable hfile hdecode)
  | unknownLevel hcall hsettings hlevel => exact run_of_unknownLevel hcall hsettings hlevel
  | nulInPath hprepared hfile hnul =>
    rw [hprepared.run_eq, hfile.inputText_eq, fileText, if_pos hnul]
    rfl
  | undecodable hprepared hfile hnul hbytes hdecode =>
    rw [hprepared.run_eq, hfile.inputText_eq, fileText, hnul, if_neg Bool.false_ne_true, hbytes]
    dsimp only
    rw [hdecode]
    rfl

/-- A run without settings ends. -/
theorem ending_of_ofSources_error {c : Call} {cause : Settings.Unusable}
    (hcall : call arguments = .ok c) (h : Settings.ofSources world.sources = .error cause) :
    (run world arguments).ending = .exit 1 ∨ ∃ cause, BreaksDown world arguments cause := by
  rcases Settings.ofSources_error_cases h with hplaces | ⟨_, issues, _, _, rfl⟩
  · rcases Settings.places_error_cases hplaces with
      ⟨fault, hfile, _⟩ | ⟨content, fault, hfile, hdecode, _⟩
    · exact Or.inr ⟨_, .unreadableDefaults hcall hfile⟩
    · exact Or.inr ⟨_, .undecodableDefaults hcall hfile hdecode⟩
  · refine Or.inl ?_
    rw [run_of_unusable hcall h]
    rfl

/-- How a run without a text ends. -/
theorem ending_of_inputText_error {c : Call} {settings : Settings} {threshold : Log.Level}
    (hprepared : Prepared world arguments c settings threshold) {failure : InputFailure}
    (h : inputText world c.request = .error failure) :
    failure.outcome.ending = .exit 1 ∨ ∃ cause, BreaksDown world arguments cause := by
  unfold inputText at h
  split at h
  · cases h
  · next htext =>
    split at h
    · next name hname =>
      have hfile : WantsFile c name := ⟨htext, hname⟩
      unfold fileText at h
      split at h
      · next hnul => exact Or.inr ⟨_, .nulInPath hprepared hfile hnul⟩
      · next hnul =>
        split at h
        · cases h
          exact Or.inl rfl
        · next bytes hbytes =>
          split at h
          · next cause hdecode =>
            exact Or.inr ⟨_, .undecodable hprepared hfile (Bool.eq_false_of_not_eq_true hnul)
              hbytes hdecode⟩
          · cases h
    · cases h

/-- A command that has its text ends with an exit code. -/
theorem ending_perform (world : Surroundings) (settings : Settings) (threshold : Log.Level)
    (c : Call) (text : String) :
    ∃ code ≤ 1, (perform world settings threshold c text).ending = .exit code := by
  have hshown : ∀ {α : Type} (work : Logged (Except CalcError α)) (table : α → List String),
      ∃ code ≤ 1, (showText threshold work table).ending = .exit code := by
    intro α work table
    unfold showText
    dsimp only
    split
    · exact ⟨1, Nat.le_refl 1, rfl⟩
    · exact ⟨0, Nat.zero_le 1, rfl⟩
  unfold perform
  split
  · unfold evalText
    split
    · exact ⟨1, Nat.le_refl 1, rfl⟩
    · refine ⟨_, ?_, rfl⟩
      split <;> omega
  · exact hshown _ _
  · exact hshown _ _

/-- **Whatever does not break down exits.** -/
theorem exits_or_breaksDown (world : Surroundings) (arguments : List String) :
    (∃ code ≤ 2, (run world arguments).ending = .exit code)
      ∨ ∃ cause, BreaksDown world arguments cause := by
  rcases hcall : call arguments with stop | c
  · refine Or.inl ?_
    rw [run, hcall]
    cases stop with
    | help scope => exact ⟨0, by decide, rfl⟩
    | complaint scope cause => exact ⟨2, Nat.le_refl 2, rfl⟩
  rcases hsettings : Settings.ofSources world.sources with cause | settings
  · exact (ending_of_ofSources_error hcall hsettings).imp_left fun h => ⟨1, by decide, h⟩
  rcases hlevel : Log.Level.ofName settings.logLevel with cause | threshold
  · exact Or.inr ⟨_, .unknownLevel hcall hsettings hlevel⟩
  have hprepared : Prepared world arguments c settings threshold := ⟨hcall, hsettings, hlevel⟩
  rw [hprepared.run_eq]
  rcases hinput : inputText world c.request with failure | text
  · exact (ending_of_inputText_error hprepared hinput).imp_left
      fun hending => ⟨1, by decide, hending⟩
  · obtain ⟨code, hcode, hending⟩ := ending_perform world settings threshold c text
    exact Or.inl ⟨code, by omega, hending⟩

end Runs

/-- **A run exits with 0, 1 or 2 unless it breaks down on one of five things**, whatever its
arguments are, its settings, files and input, and its machine: a file of defaults that cannot be
read or is not UTF-8, a log level that is none, a path that no system takes, or a file that is not
UTF-8. On those it does break down, and on which of them can be told from its end; it has printed
nothing and made no complaint. Where the arguments are a call, settings that are refused are
complained about in one line that names one of them, and so is a file that the system does not hand
out. -/
theorem run_exits_or_breaks_down (world : Surroundings) (arguments : List String) :
    ((∃ code ≤ 2, (run world arguments).ending = .exit code)
        ↔ ¬ ∃ cause, BreaksDown world arguments cause)
      ∧ (∀ cause, BreaksDown world arguments cause
          ↔ (run world arguments).seen = ⟨.breakdown cause, "", []⟩)
      ∧ (∀ (c : Call) (places : Settings.Places) (name : String), call arguments = .ok c →
          world.sources.places = .ok places → Settings.Refuses places name →
          ∃ named fault, Settings.Refuses places named
            ∧ Diagnosed (run world arguments)
                ("invalid configuration: " ++ named ++ ": " ++ Fault.message fault))
      ∧ ∀ (c : Call) (settings : Settings) (threshold : Log.Level) (name : String)
          (fault : FileFault), Prepared world arguments c settings threshold → WantsFile c name →
          name.toList.contains '\x00' = false →
          world.bytesOf (tidyPath name) = .error fault → OneLine fault.reason →
          Diagnosed (run world arguments)
            ("cannot read file: " ++ fault.message (tidyPath name)) := by
  have hexits := exits_or_breaksDown world arguments
  refine ⟨⟨?_, ?_⟩, fun cause => ⟨?_, ?_⟩, ?_, ?_⟩
  · rintro ⟨code, _, hending⟩ ⟨cause, hbreaks⟩
    rw [hbreaks.run_eq] at hending
    cases hending
  · exact hexits.resolve_right
  · intro hbreaks
    rw [hbreaks.run_eq]
    rfl
  · intro hseen
    have hending : (run world arguments).ending = .breakdown cause := congrArg Seen.ending hseen
    rcases hexits with ⟨code, _, hexit⟩ | ⟨other, hbreaks⟩
    · cases hexit.symm.trans hending
    · have hother := hbreaks.run_eq
      rw [hother] at hending
      cases hending
      exact hbreaks
  · intro c places name hcall hplaces hrefuses
    exact exists_diagnosed_of_refuses hcall hplaces hrefuses
  · intro c settings threshold name fault hprepared hfile hnul hbytes hreason
    exact diagnosed_of_unreadable hprepared hfile hnul hbytes hreason

/-- A log level that is none. -/
def loudWorld : Surroundings :=
  { sources := { environment := [("RCALC_LOG_LEVEL", "loud")] } }

theorem breaksDown_loudWorld :
    BreaksDown loudWorld ["eval", "--text", "1"] (.unknownLevel ⟨"LOUD"⟩) := by
  have hcall : call ["eval", "--text", "1"] = .ok ⟨.eval, { text := some "1" }⟩ := by decide
  have hsettings : Settings.ofSources loudWorld.sources = .ok { logLevel := "loud" } := by
    decide +kernel
  have hlevel : Log.Level.ofName "loud" = .error ⟨"LOUD"⟩ := by decide +kernel
  exact .unknownLevel hcall hsettings hlevel

/-- A file of defaults that holds a byte that no character starts with. -/
def spoiltWorld : Surroundings := { sources := { file := .bytes [0xff] } }

theorem breaksDown_spoiltWorld :
    BreaksDown spoiltWorld ["eval", "--text", "1"] (.undecodable ⟨.badStart, 0, 1, 0xff⟩) := by
  have hcall : call ["eval", "--text", "1"] = .ok ⟨.eval, { text := some "1" }⟩ := by decide
  exact .undecodableDefaults hcall rfl (by decide +kernel)

/-- A world in which every file holds a digit and a byte that no character starts with. -/
def brokenWorld : Surroundings := { bytesOf := fun _ => .ok [0x31, 0xff] }

theorem breaksDown_brokenWorld :
    BreaksDown brokenWorld ["eval", "--file", "e.txt"]
      (.undecodable ⟨.badStart, 1, 1, 0xff⟩) := by
  have hcall : call ["eval", "--file", "e.txt"] = .ok ⟨.eval, { file := some "e.txt" }⟩ := by
    decide
  have hprepared : Prepared brokenWorld ["eval", "--file", "e.txt"]
      ⟨.eval, { file := some "e.txt" }⟩ {} .info := ⟨hcall, rfl, rfl⟩
  exact .undecodable hprepared ⟨rfl, rfl⟩ (by decide) rfl (by decide +kernel)

/-- **Not every run exits**: one breaks down on its log level, one on its file of defaults, and one
on the file it is to evaluate. -/
theorem not_every_run_exits :
    run loudWorld ["eval", "--text", "1"] = ⟨[], .breakdown (.unknownLevel ⟨"LOUD"⟩)⟩
      ∧ run spoiltWorld ["eval", "--text", "1"]
        = ⟨[], .breakdown (.undecodable ⟨.badStart, 0, 1, 0xff⟩)⟩
      ∧ run brokenWorld ["eval", "--file", "e.txt"]
        = ⟨[], .breakdown (.undecodable ⟨.badStart, 1, 1, 0xff⟩)⟩
      ∧ ¬ ∀ (world : Surroundings) (arguments : List String),
          ∃ code ≤ 2, (run world arguments).ending = .exit code := by
  have hloud := breaksDown_loudWorld.run_eq
  refine ⟨hloud, breaksDown_spoiltWorld.run_eq, breaksDown_brokenWorld.run_eq, ?_⟩
  intro hexits
  obtain ⟨code, _, hending⟩ := hexits loudWorld ["eval", "--text", "1"]
  rw [hloud] at hending
  cases hending

/-- A bound beyond the greatest one, a file that is not there, a file with a bad byte in it, and a
file of defaults with one. -/
theorem run_exits_or_breaks_down_at_faults :
    (let world : Surroundings := { sources := { environment := [("RCALC_MAX_DEPTH", "501")] } }
    let places : Settings.Places := { environment := [("RCALC_MAX_DEPTH", "501")] }
    call ["parse"] = .ok ⟨.parse, {}⟩ ∧ world.sources.places = .ok places
      ∧ Settings.Refuses places "max_depth"
      ∧ ∃ named fault, Settings.Refuses places named
          ∧ Diagnosed (run world ["parse"])
              ("invalid configuration: " ++ named ++ ": " ++ Fault.message fault))
      ∧ (Prepared {} ["eval", "--file", "./gone"] ⟨.eval, { file := some "./gone" }⟩ {} .info
          ∧ Diagnosed (run {} ["eval", "--file", "./gone"])
              ("cannot read file: " ++ FileFault.notFound.message (tidyPath "./gone")))
      ∧ (BreaksDown brokenWorld ["eval", "--file", "e.txt"]
            (.undecodable ⟨.badStart, 1, 1, 0xff⟩)
          ∧ (run brokenWorld ["eval", "--file", "e.txt"]).seen
            = ⟨.breakdown (.undecodable ⟨.badStart, 1, 1, 0xff⟩), "", []⟩)
      ∧ ¬ ∃ code ≤ 2, (run spoiltWorld ["eval", "--text", "1"]).ending = .exit code := by
  have hparse : call ["parse"] = .ok ⟨.parse, {}⟩ := by decide
  have hname : "RCALC_MAX_DEPTH".toLower = Settings.variableName "max_depth" := by
    rw [← String.toList_inj]
    exact String.toList_map.trans (by decide)
  have hfound : Settings.Places.find? { environment := [("RCALC_MAX_DEPTH", "501")] } "max_depth"
      = some (.string "501") := by
    simp [Settings.Places.find?, Settings.Places.given?, Settings.Places.inVariables?, hname]
  have hdepth : Settings.depthBound (.string "501") = .error [.here (.above 500)] := by
    decide +kernel
  have hrefuses : Settings.Refuses { environment := [("RCALC_MAX_DEPTH", "501")] } "max_depth" :=
    .depth hfound hdepth
  have hgone : Prepared {} ["eval", "--file", "./gone"] ⟨.eval, { file := some "./gone" }⟩ {}
      .info := ⟨by decide, rfl, rfl⟩
  have hreason : OneLine "No such file or directory" := oneLine_ofList (by decide)
  exact ⟨⟨hparse, rfl, hrefuses,
      (run_exits_or_breaks_down _ _).2.2.1 _ _ _ hparse rfl hrefuses⟩,
    ⟨hgone, (run_exits_or_breaks_down _ _).2.2.2 _ _ _ _ _ hgone ⟨rfl, rfl⟩ (by decide) rfl
      hreason⟩,
    ⟨breaksDown_brokenWorld,
      ((run_exits_or_breaks_down _ _).2.1 _).mp breaksDown_brokenWorld⟩,
    fun hexits => (run_exits_or_breaks_down _ _).1.mp hexits ⟨_, breaksDown_spoiltWorld⟩⟩

end CommandLine

end Reckoner
