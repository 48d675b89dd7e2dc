import Reckoner.Proofs.Grammar

/-!
# One loop for both levels

Terms and expressions are read by two loops that are written out apart. They differ in the symbols
they look for, in what they read as an operand, and in how they keep the height: a term adds one for
every operator, and an expression takes the greater of both sides and adds one. The last difference
is none, because a number has height zero.

So both loops are instances of one (`chainLoop`), which takes the level and a reader of operands as
parameters; `term` and `expression` are that loop behind a first operand (`Reader.chain`). Whatever
holds of the reading of chains is proved once, about `chainLoop`, and the four equations at the end
of this file carry it over to the reader.
-/

namespace Reckoner.Parser

/-! ## Readers -/

/-- A way to read a phrase, which consumes at least one character when it succeeds. -/
structure Reader where
  read : List Char → Except Stop Parsed
  length_lt : ∀ {s : List Char} {p : Parsed}, read s = .ok p → p.rest.length < s.length

/-- Reads the operators of a level that follow `left`, a tree of the given height, and their
operands. -/
def chainLoop (level : Level) (operand : Reader) (bound : Int) (left : Expr) (height : Nat)
    (s : List Char) : Except Stop Parsed :=
  match _hs : skipBlanks s with
  | [] => .ok ⟨left, height, []⟩
  | c :: after =>
    match level.operator? c with
    | none => .ok ⟨left, height, c :: after⟩
    | some op =>
      match _hr : operand.read after with
      | .error stop => .error stop
      | .ok right =>
        if bound < (max height right.height + 1 : Nat) then .error ⟨.tooDeep bound, c :: after⟩
        else
          chainLoop level operand bound (.binary op left right.tree) (max height right.height + 1)
            right.rest
termination_by s.length
decreasing_by
  have h₁ := length_skipBlanks_le s
  have h₂ := operand.length_lt _hr
  rw [_hs, List.length_cons] at h₁
  omega

section ChainLoop

variable {level : Level} {operand : Reader} {bound : Int} {left : Expr} {height : Nat}
  {s after : List Char} {c : Char} {op : Operator}

/-! ### One round of the loop -/

theorem chainLoop_of_nil (hs : skipBlanks s = []) :
    chainLoop level operand bound left height s = .ok ⟨left, height, []⟩ := by
  rw [chainLoop]
  split
  · rfl
  · next hs' => rw [hs] at hs'; cases hs'

theorem chainLoop_of_none (hs : skipBlanks s = c :: after) (hop : level.operator? c = none) :
    chainLoop level operand bound left height s = .ok ⟨left, height, c :: after⟩ := by
  rw [chainLoop]
  split
  · next hs' => rw [hs] at hs'; cases hs'
  · next hs' =>
    rw [hs] at hs'
    cases hs'
    rw [hop]

theorem chainLoop_of_some (hs : skipBlanks s = c :: after) (hop : level.operator? c = some op) :
    chainLoop level operand bound left height s
      = match operand.read after with
        | .error stop => .error stop
        | .ok right =>
          if bound < (max height right.height + 1 : Nat) then .error ⟨.tooDeep bound, c :: after⟩
          else
            chainLoop level operand bound (.binary op left right.tree)
              (max height right.height + 1) right.rest := by
  rw [chainLoop]
  split
  · next hs' => rw [hs] at hs'; cases hs'
  · next hs' =>
    rw [hs] at hs'
    cases hs'
    rw [hop]
    rcases operand.read after with stop | right <;> rfl

/-- The loop skips blanks before it looks for an operator, so it makes no difference whether they
have been skipped before. -/
theorem chainLoop_congr {s' : List Char} (hs : skipBlanks s = skipBlanks s') :
    chainLoop level operand bound left height s = chainLoop level operand bound left height s' := by
  rcases hs' : skipBlanks s' with _ | ⟨c, after⟩
  · rw [chainLoop_of_nil (hs.trans hs'), chainLoop_of_nil hs']
  rcases hop : level.operator? c with _ | op
  · rw [chainLoop_of_none (hs.trans hs') hop, chainLoop_of_none hs' hop]
  · rw [chainLoop_of_some (hs.trans hs') hop, chainLoop_of_some hs' hop]

theorem length_le_of_chainLoop {p : Parsed}
    (h : chainLoop level operand bound left height s = .ok p) : p.rest.length ≤ s.length := by
  fun_induction chainLoop level operand bound left height s with
  | case1 => cases h; exact Nat.zero_le _
  | case2 left height s c after hs =>
    cases h
    have h₁ := length_skipBlanks_le s
    rw [hs] at h₁
    exact h₁
  | case3 => cases h
  | case4 => cases h
  | case5 left height s c after hs op hop right hr hle ih =>
    -- The blanks, the symbol, the operand and the rest of the loop each take their share.
    have h₁ := length_skipBlanks_le s
    have h₂ := operand.length_lt hr
    have h₃ := ih h
    rw [hs, List.length_cons] at h₁
    omega

end ChainLoop

namespace Reader

def numeral : Reader where
  read s :=
    match number s with
    | .error stop => .error stop
    | .ok (n, rest) => .ok ⟨.number n, 0, rest⟩
  length_lt := by
    intro s p h
    split at h
    · cases h
    · next n rest hn =>
      cases h
      exact length_lt_of_number hn

/-- Reads an operand and the links of a chain behind it. -/
def chain (level : Level) (operand : Reader) (bound : Int) : Reader where
  read s :=
    match operand.read s with
    | .error stop => .error stop
    | .ok p => chainLoop level operand bound p.tree p.height p.rest
  length_lt := by
    intro s p h
    split at h
    · cases h
    · next first hfirst =>
      exact Nat.lt_of_le_of_lt (length_le_of_chainLoop h) (operand.length_lt hfirst)

theorem read_chain (level : Level) (operand : Reader) (bound : Int) (s : List Char) :
    (chain level operand bound).read s
      = match operand.read s with
        | .error stop => .error stop
        | .ok p => chainLoop level operand bound p.tree p.height p.rest := rfl

end Reader

/-! ## The reader's loops as instances -/

theorem termLoop_eq_chainLoop (bound : Int) (left : Expr) (height : Nat) (s : List Char) :
    termLoop bound left height s = chainLoop .higher .numeral bound left height s := by
  -- A number adds nothing to the greater of the two heights, so `height + 1` is the height that the
  -- general loop keeps.
  fun_induction termLoop bound left height s with
  | case1 left height s hs => rw [chainLoop_of_nil hs]
  | case2 left height s c after hs hop =>
    rw [chainLoop_of_none hs (show Level.higher.operator? c = none from hop)]
  | case3 left height s c after hs op hop stop hn =>
    rw [chainLoop_of_some hs (show Level.higher.operator? c = some op from hop)]
    simp only [Reader.numeral, hn]
  | case4 left height s c after hs op hop n rest hn hdeep =>
    rw [chainLoop_of_some hs (show Level.higher.operator? c = some op from hop)]
    simp only [Reader.numeral, hn, Nat.max_zero, if_pos hdeep]
  | case5 left height s c after hs op hop n rest hn hfits ih =>
    rw [ih, chainLoop_of_some hs (show Level.higher.operator? c = some op from hop)]
    simp only [Reader.numeral, hn, Nat.max_zero, if_neg hfits]

theorem term_eq_read (bound : Int) (s : List Char) :
    term bound s = (Reader.chain .higher .numeral bound).read s := by
  rw [term, Reader.chain, Reader.numeral]
  dsimp only
  rcases number s with stop | ⟨n, rest⟩
  · rfl
  · exact termLoop_eq_chainLoop bound (.number n) 0 rest

theorem expressionLoop_eq_chainLoop (bound : Int) (left : Expr) (height : Nat) (s : List Char) :
    expressionLoop bound left height s
      = chainLoop .lower (.chain .higher .numeral bound) bound left height s := by
  fun_induction expressionLoop bound left height s with
  | case1 left height s hs => rw [chainLoop_of_nil hs]
  | case2 left height s c after hs hop =>
    rw [chainLoop_of_none hs (show Level.lower.operator? c = none from hop)]
  | case3 left height s c after hs op hop stop ht =>
    rw [term_eq_read] at ht
    rw [chainLoop_of_some hs (show Level.lower.operator? c = some op from hop), ht]
  | case4 left height s c after hs op hop right ht hdeep =>
    rw [term_eq_read] at ht
    rw [chainLoop_of_some hs (show Level.lower.operator? c = some op from hop), ht]
    exact (if_pos hdeep).symm
  | case5 left height s c after hs op hop right ht hfits ih =>
    rw [term_eq_read] at ht
    rw [ih, chainLoop_of_some hs (show Level.lower.operator? c = some op from hop), ht]
    exact (if_neg hfits).symm

theorem expression_eq_read (bound : Int) (s : List Char) :
    expression bound s = (Reader.chain .lower (.chain .higher .numeral bound) bound).read s := by
  rw [expression, term_eq_read, Reader.read_chain .lower]
  rcases (Reader.chain .higher .numeral bound).read s with stop | p
  · rfl
  · exact expressionLoop_eq_chainLoop bound p.tree p.height p.rest

end Reckoner.Parser
