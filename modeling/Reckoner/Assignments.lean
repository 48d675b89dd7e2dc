import Reckoner.Text.CharacterClass
import Reckoner.Text.Spelling

/-!
# Files of assignments

A file of assignments gives variables their values, one statement in a line: `NAME=value`, perhaps
with the word `export` in front of it. Space around the name and the value does not count, a hash
sign starts a comment, and a name without an equals sign is given no value. A value may stand in
quotes, and then it may go over several lines and have escapes in it; a name may stand in
apostrophes. A line that is no statement is passed over, from where it goes wrong.

A value may refer to variables, as `${NAME}` or, with something to fall back on, as
`${NAME:-default}`. A reference is looked up among the variables given so far and then in the
environment (`Assignments.ofChars`).

Line ends are expected to be unified before.

Every reader here gives back what stands behind the part it has read, which is the end of its text
(`List.IsSuffix`). A statement takes a character at least, and so does a reference, and that is what
the two recursions end by.
-/

namespace Reckoner

/-- A variable, and the value that it is given, if any. -/
abbrev Assignment := String × Option String

namespace Assignments

/-! ## Lines -/

/-- White space that does not end a line. -/
def isSpace (c : Char) : Bool := Text.isBlank c && c ≠ '\n'

/-- The text without the space at its front. -/
def skipSpace (s : List Char) : List Char := s.dropWhile isSpace

/-- What stands behind the first line. -/
def skipLine (s : List Char) : List Char := (s.dropWhile (· ≠ '\n')).drop 1

/-- What stands behind the first line, which may hold nothing but a comment. -/
def behindEnd? (s : List Char) : Option (List Char) :=
  match skipSpace s with
  | [] => some []
  | '\n' :: rest => some rest
  | '#' :: rest => some (skipLine rest)
  | _ => none

theorem skipSpace_suffix (s : List Char) : skipSpace s <:+ s := List.dropWhile_suffix _

theorem skipLine_suffix (s : List Char) : skipLine s <:+ s :=
  (List.drop_suffix 1 _).trans (List.dropWhile_suffix _)

theorem length_skipLine_lt {s : List Char} (h : s ≠ []) : (skipLine s).length < s.length := by
  have hrest := (List.dropWhile_suffix (l := s) (· ≠ '\n')).length_le
  have hlength := List.length_pos_iff.mpr h
  rw [skipLine, List.length_drop]
  omega

theorem behindEnd?_suffix {s rest : List Char} (h : behindEnd? s = some rest) : rest <:+ s := by
  refine List.IsSuffix.trans ?_ (skipSpace_suffix s)
  unfold behindEnd? at h
  split at h
  · cases h
    exact List.nil_suffix
  · next rest' hs =>
    cases h
    rw [hs]
    exact List.suffix_cons _ _
  · next rest' hs =>
    cases h
    rw [hs]
    exact (skipLine_suffix rest').trans (List.suffix_cons _ _)
  · cases h

/-! ## Names -/

/-- The word that may announce an assignment. -/
def exportWord : List Char := "export".toList

/-- The text without that word, if the word is there with space behind it. -/
def skipExport (s : List Char) : List Char :=
  if exportWord.isPrefixOf s && (s.drop exportWord.length).head?.any isSpace then
    skipSpace (s.drop exportWord.length)
  else s

/-- The characters of a name that does not stand in apostrophes. -/
def isPlain (c : Char) : Bool := c ≠ '=' && c ≠ '#' && !Text.isBlank c

/-- Reads a name. A comment has none. -/
def name? (s : List Char) : Option (Option String × List Char) :=
  match s with
  | '#' :: _ => some (none, s)
  | '\x27' :: inside =>
    match inside.takeWhile (· ≠ Text.apostrophe), inside.dropWhile (· ≠ Text.apostrophe) with
    | c :: name, _ :: rest => some (some (String.ofList (c :: name)), rest)
    | _, _ => none
  | _ =>
    match s.takeWhile isPlain with
    | [] => none
    | c :: name => some (some (String.ofList (c :: name)), s.dropWhile isPlain)

theorem skipExport_suffix (s : List Char) : skipExport s <:+ s := by
  unfold skipExport
  split
  · exact (skipSpace_suffix _).trans (List.drop_suffix _ _)
  · exact List.suffix_refl s

/-- A name takes a character at least, unless there is a comment in its place. -/
theorem name?_cases {s rest : List Char} {name : Option String} (h : name? s = some (name, rest)) :
    (∃ comment, s = '#' :: comment ∧ rest = s) ∨ rest.length < s.length := by
  unfold name? at h
  split at h
  · next comment =>
    cases h
    exact Or.inl ⟨comment, rfl, rfl⟩
  · next inside =>
    refine Or.inr ?_
    split at h
    · next hdrop =>
      cases h
      have hinside := (List.dropWhile_suffix (l := inside) (· ≠ Text.apostrophe)).length_le
      rw [hdrop, List.length_cons] at hinside
      rw [List.length_cons]
      omega
    · cases h
  · refine Or.inr ?_
    split at h
    · cases h
    · next htake =>
      cases h
      have hsplit := congrArg List.length
        (List.takeWhile_append_dropWhile (p := isPlain) (l := s))
      rw [List.length_append, htake, List.length_cons] at hsplit
      omega

/-! ## Values -/

/-- Reads on to the end of a quoted value, which is the first quote without a backslash in front of
it. If there is none the last quote ends the value, as `last` remembers: the value with it, and what
stands behind. What has been read is kept newest first. -/
def insideLoop (quote : Char) (last : Option (List Char × List Char)) (done : List Char) :
    List Char → Option (List Char × List Char)
  | [] => last
  | '\\' :: c :: rest =>
    if c = quote then
      insideLoop quote (some (('\\' :: done).reverse, rest)) (c :: '\\' :: done) rest
    else insideLoop quote last ('\\' :: done) (c :: rest)
  | c :: rest =>
    if c = quote then some (done.reverse, rest) else insideLoop quote last (c :: done) rest

/-- What stands in quotes with the escapes of a kind made good. A backslash that starts none stands
for itself. -/
def unescaped (escape? : Char → Option Char) : List Char → List Char
  | [] => []
  | '\\' :: c :: rest =>
    match escape? c with
    | some d => d :: unescaped escape? rest
    | none => '\\' :: unescaped escape? (c :: rest)
  | c :: rest => c :: unescaped escape? rest

/-- The escapes between apostrophes. -/
def apostropheEscape? : Char → Option Char
  | '\\' => some '\\'
  | '\x27' => some '\x27'
  | _ => none

/-- The escapes between double quotes. -/
def quoteEscape? : Char → Option Char
  | '\\' => some '\\'
  | '\x27' => some '\x27'
  | '"' => some '"'
  | 'a' => some '\x07'
  | 'b' => some '\x08'
  | 'f' => some '\x0c'
  | 'n' => some '\n'
  | 'r' => some '\r'
  | 't' => some '\t'
  | 'v' => some '\x0b'
  | _ => none

/-- A line up to a comment, which a hash sign starts if there is white space in front of it. -/
def withoutComment (behindBlank : Bool) : List Char → List Char
  | [] => []
  | c :: rest =>
    if behindBlank && c = '#' then [] else c :: withoutComment (Text.isBlank c) rest

/-- Reads a value. Without quotes it is the rest of the line. -/
def value? (s : List Char) : Option (List Char × List Char) :=
  match s with
  | '\x27' :: inside =>
    (insideLoop Text.apostrophe none [] inside).map fun (value, rest) =>
      (unescaped apostropheEscape? value, rest)
  | '"' :: inside =>
    (insideLoop Text.doubleQuote none [] inside).map fun (value, rest) =>
      (unescaped quoteEscape? value, rest)
  | _ =>
    let line := withoutComment false (s.takeWhile (· ≠ '\n'))
    some ((line.reverse.dropWhile Text.isBlank).reverse, s.dropWhile (· ≠ '\n'))

/-- What is remembered of the last quote is an end of the whole text, and so is what is left. -/
theorem insideLoop_suffix {quote : Char} {whole : List Char}
    {last : Option (List Char × List Char)} {done s value rest : List Char}
    (h : insideLoop quote last done s = some (value, rest)) (hs : s <:+ whole)
    (hlast : ∀ found ∈ last, found.2 <:+ whole) : rest <:+ whole := by
  fun_induction insideLoop quote last done s with
  | case1 => exact hlast _ h
  | case2 last done rest' ih =>
    have hrest : rest' <:+ whole :=
      ((List.suffix_cons _ _).trans (List.suffix_cons _ _)).trans hs
    refine ih h hrest ?_
    rintro _ ⟨⟩
    exact hrest
  | case3 last done c rest' hquote ih => exact ih h ((List.suffix_cons _ _).trans hs) hlast
  | case4 last done c rest' =>
    cases h
    exact (List.suffix_cons _ _).trans hs
  | case5 last done c rest' _ hquote ih => exact ih h ((List.suffix_cons _ _).trans hs) hlast

theorem value?_suffix {s value rest : List Char} (h : value? s = some (value, rest)) :
    rest <:+ s := by
  have hinside : ∀ {quote : Char} {escape? : Char → Option Char} {inside : List Char},
      ((insideLoop quote none [] inside).map fun (value, rest) => (unescaped escape? value, rest))
        = some (value, rest) → rest <:+ inside := by
    intro quote escape? inside h
    obtain ⟨⟨value', rest'⟩, hloop, heq⟩ := Option.map_eq_some_iff.mp h
    cases heq
    exact insideLoop_suffix hloop (List.suffix_refl _) (by simp)
  unfold value? at h
  split at h
  · exact (hinside h).trans (List.suffix_cons _ _)
  · exact (hinside h).trans (List.suffix_cons _ _)
  · cases h
    exact List.dropWhile_suffix _

/-! ## Statements -/

/-- What a statement comes to once its name and value have been read: it has to end there. -/
def concluded (name : Option String) (value : Option (List Char)) (s : List Char) :
    Option (String × Option (List Char)) × List Char :=
  match behindEnd? s with
  | some rest => (name.map fun n => (n, value), rest)
  | none => (none, skipLine s)

/-- The statement at the front of a text, and what stands behind it. -/
def statement (s : List Char) : Option (String × Option (List Char)) × List Char :=
  let start := skipExport (s.dropWhile Text.isBlank)
  match name? start with
  | none => (none, skipLine start)
  | some (name, behindName) =>
    match skipSpace behindName with
    | '=' :: behindSign =>
      match value? (skipSpace behindSign) with
      | none => (none, skipLine behindSign)
      | some (value, rest) => concluded name (some value) rest
    | other => concluded name none other

theorem concluded_suffix (name : Option String) (value : Option (List Char)) (s : List Char) :
    (concluded name value s).2 <:+ s := by
  unfold concluded
  split
  · next hend => exact behindEnd?_suffix hend
  · exact skipLine_suffix s

/-- **A statement takes a character at least.** -/
theorem length_statement_lt {s : List Char} (h : s ≠ []) :
    (statement s).2.length < s.length := by
  have hpos := List.length_pos_iff.mpr h
  have hstart : (skipExport (s.dropWhile Text.isBlank)).length ≤ s.length :=
    ((skipExport_suffix _).trans (List.dropWhile_suffix _)).length_le
  rw [statement]
  generalize skipExport (s.dropWhile Text.isBlank) = start at hstart
  split
  · by_cases hnil : start = []
    · rw [hnil]
      exact hpos
    · exact Nat.lt_of_lt_of_le (length_skipLine_lt hnil) hstart
  · next name behindName hname =>
    rcases name?_cases hname with ⟨comment, hcomment, hrest⟩ | hshorter
    · -- a comment is left where it is, and goes with its line
      have hskip : skipSpace behindName = '#' :: comment := by
        rw [hrest, hcomment]
        rfl
      rw [hskip]
      show (skipLine comment).length < s.length
      have hline := (skipLine_suffix comment).length_le
      rw [hcomment, List.length_cons] at hstart
      omega
    · refine Nat.lt_of_le_of_lt (List.IsSuffix.length_le ?_) (Nat.lt_of_lt_of_le hshorter hstart)
      refine List.IsSuffix.trans ?_ (skipSpace_suffix behindName)
      split
      · next behindSign hsign =>
        rw [hsign]
        refine List.IsSuffix.trans ?_ (List.suffix_cons _ _)
        split
        · exact skipLine_suffix behindSign
        · next hvalue =>
          exact (concluded_suffix _ _ _).trans
            ((value?_suffix hvalue).trans (skipSpace_suffix behindSign))
      · exact concluded_suffix _ _ _

/-- The statements of a text. -/
def statements (s : List Char) : List (String × Option (List Char)) :=
  if _h : s = [] then []
  else
    match _hs : statement s with
    | (found, rest) => found.toList ++ statements rest
termination_by s.length
decreasing_by
  have hlt := length_statement_lt _h
  rwa [_hs] at hlt

/-! ## References -/

/-- A reference to a variable, and what it stands for if there is no such variable. -/
structure Reference where
  name : String
  default : List Char
  deriving DecidableEq, Repr

/-- The characters of the name in a reference. -/
def isReferred (c : Char) : Bool := c ≠ ':' && c ≠ '\x7d'

/-- Reads a reference, behind the brace that opens it. -/
def reference? (s : List Char) : Option (Reference × List Char) :=
  let name := String.ofList (s.takeWhile isReferred)
  match s.dropWhile isReferred with
  | '\x7d' :: rest => some (⟨name, []⟩, rest)
  | ':' :: '-' :: inside =>
    match inside.dropWhile (· ≠ '\x7d') with
    | _ :: rest => some (⟨name, inside.takeWhile (· ≠ '\x7d')⟩, rest)
    | [] => none
  | _ => none

/-- A reference takes the brace that closes it at least. -/
theorem length_lt_of_reference? {s rest : List Char} {reference : Reference}
    (h : reference? s = some (reference, rest)) : rest.length < s.length := by
  have hbehind := (List.dropWhile_suffix (l := s) isReferred).length_le
  unfold reference? at h
  dsimp only at h
  split at h
  · next hdrop =>
    cases h
    rw [hdrop, List.length_cons] at hbehind
    omega
  · next inside hdrop =>
    rw [hdrop, List.length_cons, List.length_cons] at hbehind
    have hinside := (List.dropWhile_suffix (l := inside) (· ≠ '\x7d')).length_le
    split at h
    · next hclosed =>
      cases h
      rw [hclosed, List.length_cons] at hinside
      omega
    · cases h
  · cases h

/-- A value in pieces: characters, and references to variables. -/
def pieces : List Char → List (Char ⊕ Reference)
  | '$' :: '\x7b' :: rest =>
    match _h : reference? rest with
    | some (reference, behind) => .inr reference :: pieces behind
    | none => .inl '$' :: pieces ('\x7b' :: rest)
  | c :: rest => .inl c :: pieces rest
  | [] => []
termination_by s => s.length
decreasing_by
  · have hlt := length_lt_of_reference? _h
    simp only [List.length_cons]
    omega
  · simp
  · simp

/-- The names that the values of a text refer to. -/
def referenced (s : List Char) : List String :=
  (statements s).flatMap fun (_, value) =>
    (pieces (value.getD [])).filterMap fun piece =>
      match piece with
      | .inl _ => none
      | .inr reference => some reference.name

/-- What a piece stands for, given the variables so far and the environment. A variable without a
value stands for nothing. -/
def meaning (known : List Assignment) (environment : List (String × String)) :
    Char ⊕ Reference → List Char
  | .inl c => [c]
  | .inr reference =>
    match known.lookup reference.name, environment.lookup reference.name with
    | some value, _ => (value.getD "").toList
    | none, some value => value.toList
    | none, none => reference.default

/-! ## Variables -/

/-- Gives a variable a value. One that is already there keeps its place. -/
def assign (name : String) (value : Option String) : List Assignment → List Assignment
  | [] => [(name, value)]
  | (other, old) :: rest =>
    if other = name then (name, value) :: rest else (other, old) :: assign name value rest

/-- The variables that a text gives in an environment. -/
def ofChars (environment : List (String × String)) (s : List Char) : List Assignment :=
  (statements s).foldl
    (fun known (name, value) =>
      assign name
        (value.map fun v => String.ofList ((pieces v).flatMap (meaning known environment))) known)
    []

end Assignments

end Reckoner
