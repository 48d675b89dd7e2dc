import Reckoner.Proofs.Compilation

/-!
# Only compiled trees run to a value

Any sequence of instructions is a program, and this file says which of them are the programs of
trees. The machine is run once more with trees in the place of values: a push puts a leaf on the
stack, and an operator joins the two topmost trees instead of computing anything (`build`). Such a
run fails only where the stack is short.

Three things hold along it, each shown for one instruction and then for any number. The listings of
the trees on the stack, from the bottom up, make up exactly the instructions that have been run, so
a single tree that is left at the end compiles to the whole program (`decompile_eq_some_iff`). If
the machine itself gets through, its stack holds the values of the trees (`build_of_exec`). And the
number of trees is the number of pushes less the number of operators (`exists_build_iff`,
`length_of_build`), which is how the compiled programs can be told by counting.
-/

namespace Reckoner

namespace Machine

/-! ## Runs on trees -/

/-- One instruction on a stack of trees, listed from the top. -/
def buildStep (trees : List Expr) : Instruction → Option (List Expr)
  | .push n => some (.number n :: trees)
  | .apply op =>
    match trees with
    | right :: left :: rest => some (.binary op left right :: rest)
    | _ => none

/-- A sequence of instructions on a stack of trees. -/
def build (trees : List Expr) : List Instruction → Option (List Expr)
  | [] => some trees
  | i :: code => (buildStep trees i).bind fun trees' => build trees' code

/-- What an instruction can do to a stack of trees. -/
theorem buildStep_cases {trees trees' : List Expr} {i : Instruction}
    (h : buildStep trees i = some trees') :
    (∃ n, i = .push n ∧ trees' = .number n :: trees)
      ∨ ∃ op left right rest, i = .apply op ∧ trees = right :: left :: rest
          ∧ trees' = .binary op left right :: rest := by
  cases i with
  | push n =>
    cases h
    exact Or.inl ⟨n, rfl, rfl⟩
  | apply op =>
    match trees with
    | right :: left :: rest =>
      cases h
      exact Or.inr ⟨op, left, right, rest, rfl, rfl, rfl⟩

theorem build_append (trees : List Expr) (p q : List Instruction) :
    build trees (p ++ q) = (build trees p).bind fun trees' => build trees' q := by
  induction p generalizing trees with
  | nil => rfl
  | cons i p ih =>
    rw [List.cons_append, build, build]
    rcases buildStep trees i with _ | trees'
    · rfl
    · exact ih trees'

/-- The tree that a program was compiled from, if it was compiled from one. -/
def decompile (p : Program) : Option Expr :=
  match build [] p.instructions with
  | some [e] => some e
  | _ => none

theorem decompile_eq_some_iff_build {p : Program} {e : Expr} :
    decompile p = some e ↔ build [] p.instructions = some [e] := by
  unfold decompile
  split
  · next e' hbuild => rw [hbuild]; simp
  · next hbuild =>
    constructor
    · intro h
      cases h
    · intro h
      exact absurd h (hbuild e)

/-! ## The trees list the program -/

/-- What the trees on a stack are listings of, from the bottom of the stack up. -/
def listing : List Expr → List Instruction
  | [] => []
  | e :: trees => listing trees ++ e.postorder

theorem listing_of_buildStep {trees trees' : List Expr} {i : Instruction}
    (h : buildStep trees i = some trees') : listing trees' = listing trees ++ [i] := by
  obtain ⟨n, rfl, rfl⟩ | ⟨op, left, right, rest, rfl, rfl, rfl⟩ := buildStep_cases h
  · rfl
  · simp only [listing, Expr.postorder, List.append_assoc]

theorem listing_of_build {trees trees' : List Expr} {code : List Instruction}
    (h : build trees code = some trees') : listing trees' = listing trees ++ code := by
  induction code generalizing trees with
  | nil =>
    cases h
    rw [List.append_nil]
  | cons i code ih =>
    obtain ⟨next, hstep, hrest⟩ := Option.bind_eq_some_iff.mp h
    rw [ih hrest, listing_of_buildStep hstep, List.append_assoc, List.singleton_append]

theorem pure_of_buildStep {trees trees' : List Expr} {i : Instruction}
    (h : buildStep trees i = some trees') (hpure : ∀ e ∈ trees, e.Pure) :
    ∀ e ∈ trees', e.Pure := by
  obtain ⟨n, rfl, rfl⟩ | ⟨op, left, right, rest, rfl, rfl, rfl⟩ := buildStep_cases h
  · exact List.forall_mem_cons.mpr ⟨trivial, hpure⟩
  · obtain ⟨hright, hpure⟩ := List.forall_mem_cons.mp hpure
    obtain ⟨hleft, hrest⟩ := List.forall_mem_cons.mp hpure
    exact List.forall_mem_cons.mpr ⟨⟨hleft, hright⟩, hrest⟩

/-- No instruction makes a foreign leaf. -/
theorem pure_of_build {trees trees' : List Expr} {code : List Instruction}
    (h : build trees code = some trees') (hpure : ∀ e ∈ trees, e.Pure) : ∀ e ∈ trees', e.Pure := by
  induction code generalizing trees with
  | nil =>
    cases h
    exact hpure
  | cons i code ih =>
    obtain ⟨next, hstep, hrest⟩ := Option.bind_eq_some_iff.mp h
    exact ih hrest (pure_of_buildStep hstep hpure)

/-- The listing of a tree puts the tree back on the stack. -/
theorem build_postorder {e : Expr} (hpure : e.Pure) (trees : List Expr) :
    build trees e.postorder = some (e :: trees) := by
  induction e generalizing trees with
  | number n => rfl
  | foreign kind => exact hpure.elim
  | binary op l r ihl ihr =>
    -- The operator at the end joins the two trees that the listings before it have put back.
    rw [Expr.postorder, build_append, build_append, ihl hpure.1, Option.bind_some, ihr hpure.2]
    rfl

/-- **A program is decompiled to the tree it is the listing of.** -/
theorem decompile_eq_some_iff {p : Program} {e : Expr} :
    decompile p = some e ↔ Compiler.compile e = .ok p := by
  -- From left to right the invariants of the run on trees are read off at its end, where the stack
  -- is a single tree; from right to left the listing is run.
  rw [decompile_eq_some_iff_build, Compiler.compile_eq_ok_iff]
  constructor
  · intro hbuild
    have hlisting : e.postorder = p.instructions := by
      simpa only [listing, List.nil_append] using listing_of_build hbuild
    have hpure := pure_of_build hbuild fun _ hnil => absurd hnil List.not_mem_nil
    exact ⟨hpure e List.mem_cons_self, hlisting.symm⟩
  · rintro ⟨hpure, hp⟩
    rw [hp, build_postorder hpure]

/-! ## The trees have the values on the stack -/

theorem step_apply_eq_ok_iff {index : Nat} {stack stack' : Stack} {op : Operator} :
    step index stack (.apply op) = .ok stack' ↔
      ∃ right left rest value, stack = right :: left :: rest
        ∧ op.apply left right = .ok value ∧ stack' = value :: rest := by
  constructor
  · intro h
    match stack with
    | right :: left :: rest =>
      rw [step_apply_cons_cons] at h
      rcases happ : op.apply left right with cause | value
      · rw [happ] at h
        cases h
      · rw [happ] at h
        cases h
        exact ⟨right, left, rest, value, rfl, happ, rfl⟩
  · rintro ⟨right, left, rest, value, rfl, happ, rfl⟩
    rw [step_apply_cons_cons, happ]
    rfl

/-- Where the machine takes a step, the run on trees takes one too, and a stack of values of trees
stays one. -/
theorem buildStep_of_step {index : Nat} {stack stack' : Stack} {trees : List Expr} {i : Instruction}
    (h : step index stack i = .ok stack')
    (hvalues : trees.map Interpreter.evaluateFreely = stack.map .ok) :
    ∃ trees', buildStep trees i = some trees'
      ∧ trees'.map Interpreter.evaluateFreely = stack'.map .ok := by
  cases i with
  | push n =>
    cases h
    refine ⟨.number n :: trees, rfl, ?_⟩
    rw [List.map_cons, List.map_cons, hvalues, Interpreter.evaluateFreely]
  | apply op =>
    obtain ⟨right, left, rest, value, rfl, happ, rfl⟩ := step_apply_eq_ok_iff.mp h
    -- Two values on the stack mean two trees on the other one.
    obtain ⟨r, below, rfl, hr, hvalues⟩ := List.map_eq_cons_iff.mp hvalues
    obtain ⟨l, below, rfl, hl, hvalues⟩ := List.map_eq_cons_iff.mp hvalues
    refine ⟨.binary op l r :: below, rfl, ?_⟩
    rw [List.map_cons, List.map_cons, hvalues, Interpreter.evaluateFreely,
      Interpreter.combine_eq_ok_iff.mpr ⟨left, right, hl, hr, happ⟩]

/-- **Values on the stack are values of trees**, for a whole run. -/
theorem build_of_exec {index : Nat} {stack stack' : Stack} {trees : List Expr}
    {code : List Instruction} (h : exec index stack code = .ok stack')
    (hvalues : trees.map Interpreter.evaluateFreely = stack.map .ok) :
    ∃ trees', build trees code = some trees'
      ∧ trees'.map Interpreter.evaluateFreely = stack'.map .ok := by
  induction code generalizing index stack trees with
  | nil =>
    cases h
    exact ⟨trees, rfl, hvalues⟩
  | cons i code ih =>
    rw [exec_cons] at h
    rcases hstep : step index stack i with e | next
    · rw [hstep] at h
      cases h
    · rw [hstep] at h
      obtain ⟨trees₁, hbuild₁, hvalues₁⟩ := buildStep_of_step hstep hvalues
      obtain ⟨trees', hbuild, hvalues'⟩ := ih h hvalues₁
      refine ⟨trees', ?_, hvalues'⟩
      rw [build, hbuild₁, Option.bind_some, hbuild]

/-- A program that runs to a value is the program of a tree with that value. -/
theorem decompile_of_run {p : Program} {v : Int} (h : run p = .ok v) :
    ∃ e, decompile p = some e ∧ Interpreter.evaluateFreely e = .ok v := by
  unfold run at h
  split at h
  · next value hexec =>
    cases h
    obtain ⟨trees, hbuild, hvalues⟩ :=
      build_of_exec hexec (show ([] : List Expr).map Interpreter.evaluateFreely = _ from rfl)
    -- One value was left, so one tree was.
    obtain ⟨e, below, rfl, hv, hnil⟩ := List.map_eq_cons_iff.mp hvalues
    cases List.map_eq_nil_iff.mp hnil
    exact ⟨e, decompile_eq_some_iff_build.mpr hbuild, hv⟩
  · cases h
  · cases h

/-! ## Counting -/

/-- The number of pushes less the number of operators. -/
def surplus : List Instruction → Int
  | [] => 0
  | .push _ :: code => 1 + surplus code
  | .apply _ :: code => -1 + surplus code

theorem surplus_cons (i : Instruction) (code : List Instruction) :
    surplus (i :: code) = surplus [i] + surplus code := by
  cases i <;> simp [surplus]

theorem length_of_buildStep {trees trees' : List Expr} {i : Instruction}
    (h : buildStep trees i = some trees') :
    (trees'.length : Int) = trees.length + surplus [i] := by
  obtain ⟨n, rfl, rfl⟩ | ⟨op, left, right, rest, rfl, rfl, rfl⟩ := buildStep_cases h
  · simp only [List.length_cons, surplus]
    omega
  · simp only [List.length_cons, surplus]
    omega

/-- As many trees are left as pushes exceed operators. -/
theorem length_of_build {trees trees' : List Expr} {code : List Instruction}
    (h : build trees code = some trees') : (trees'.length : Int) = trees.length + surplus code := by
  induction code generalizing trees with
  | nil =>
    cases h
    rw [surplus, Int.add_zero]
  | cons i code ih =>
    obtain ⟨next, hstep, hrest⟩ := Option.bind_eq_some_iff.mp h
    rw [ih hrest, length_of_buildStep hstep, surplus_cons i code, Int.add_assoc]

/-- An operator is all that can stop a run on trees, and it does so on fewer than two. -/
theorem exists_buildStep_iff {trees : List Expr} {i : Instruction} :
    (∃ trees', buildStep trees i = some trees') ↔
      ∀ op, i = .apply op → 2 ≤ trees.length := by
  cases i with
  | push n =>
    refine ⟨fun _ op hop => ?_, fun _ => ⟨_, rfl⟩⟩
    cases hop
  | apply op =>
    match trees with
    | [] => simp [buildStep]
    | [e] => simp [buildStep]
    | right :: left :: rest => simp [buildStep]

/-- **A run on trees gets through exactly when the count allows for every operator.** -/
theorem exists_build_iff {trees : List Expr} {code : List Instruction} :
    (∃ trees', build trees code = some trees') ↔
      ∀ i op, code[i]? = some (.apply op) → 2 ≤ trees.length + surplus (code.take i) := by
  -- The position counts from the first instruction of `code`, and so does the surplus. A step
  -- shifts both by one instruction, and what it does to the surplus it does to the stack.
  induction code generalizing trees with
  | nil => exact ⟨fun _ i op h => by simp at h, fun _ => ⟨trees, rfl⟩⟩
  | cons i code ih =>
    constructor
    · rintro ⟨trees', h⟩ j op hj
      obtain ⟨next, hstep, hrest⟩ := Option.bind_eq_some_iff.mp h
      cases j with
      | zero =>
        have htwo := exists_buildStep_iff.mp ⟨next, hstep⟩ op (by simpa using hj)
        rw [List.take_zero, surplus]
        omega
      | succ j =>
        have hcount := ih.mp ⟨trees', hrest⟩ j op (by simpa using hj)
        rw [length_of_buildStep hstep] at hcount
        rw [List.take_succ_cons, surplus_cons]
        omega
    · intro hcount
      have htwo : ∀ op, i = .apply op → 2 ≤ trees.length := by
        intro op hi
        have h0 := hcount 0 op (by rw [List.getElem?_cons_zero, hi])
        rw [List.take_zero, surplus] at h0
        omega
      obtain ⟨next, hstep⟩ := exists_buildStep_iff.mpr htwo
      have hrest : ∀ j op, code[j]? = some (.apply op) →
          2 ≤ next.length + surplus (code.take j) := by
        intro j op hj
        have hsucc := hcount (j + 1) op (by simpa using hj)
        rw [List.take_succ_cons, surplus_cons] at hsucc
        rw [length_of_buildStep hstep]
        omega
      obtain ⟨trees', h⟩ := ih.mpr hrest
      exact ⟨trees', by rw [build, hstep, Option.bind_some, h]⟩

end Machine

/-- A program in which no operator meets fewer than two values and which leaves one, to judge by the
number of pushes and operators in front of each operator and in all. -/
def Program.Balanced (p : Program) : Prop :=
  (∀ i op, p.instructions[i]? = some (.apply op) → 2 ≤ Machine.surplus (p.instructions.take i))
    ∧ Machine.surplus p.instructions = 1

namespace Machine

theorem exists_decompile_iff (p : Program) : (∃ e, decompile p = some e) ↔ p.Balanced := by
  have hzero : ((([] : List Expr).length : Nat) : Int) = 0 := rfl
  constructor
  · rintro ⟨e, he⟩
    have hbuild := decompile_eq_some_iff_build.mp he
    have hcount := exists_build_iff.mp ⟨_, hbuild⟩
    have hlength := length_of_build hbuild
    rw [hzero, Int.zero_add] at hlength
    refine ⟨fun i op hi => ?_, hlength.symm⟩
    have htwo := hcount i op hi
    rwa [hzero, Int.zero_add] at htwo
  · rintro ⟨hcount, hone⟩
    have htwo : ∀ i op, p.instructions[i]? = some (.apply op) →
        2 ≤ (([] : List Expr).length : Int) + surplus (p.instructions.take i) := by
      intro i op hi
      rw [hzero, Int.zero_add]
      exact hcount i op hi
    obtain ⟨trees, hbuild⟩ := exists_build_iff.mpr htwo
    have hlength := length_of_build hbuild
    rw [hzero, Int.zero_add, hone] at hlength
    obtain ⟨e, rfl⟩ := List.length_eq_one_iff.mp (Int.ofNat_inj.mp hlength)
    exact ⟨e, decompile_eq_some_iff_build.mpr hbuild⟩

end Machine

/-! ## Trees and programs -/

theorem Interpreter.pure_of_evaluateFreely {e : Expr} {v : Int} (h : evaluateFreely e = .ok v) :
    e.Pure := by
  induction e generalizing v with
  | number n => trivial
  | foreign kind => cases h
  | binary op l r ihl ihr =>
    obtain ⟨a, b, hl, hr, _⟩ := combine_eq_ok_iff.mp h
    exact ⟨ihl hl, ihr hr⟩

/-- The literals of a tree are what its listing pushes. -/
theorem Expr.inRange_iff_of_pure {e : Expr} (hpure : e.Pure) :
    e.InRange ↔ ∀ n, .push n ∈ e.postorder → Word.InRange n := by
  induction e with
  | number m => simp [InRange, postorder]
  | foreign kind => exact hpure.elim
  | binary op l r ihl ihr =>
    rw [InRange, ihl hpure.1, ihr hpure.2, postorder]
    simp only [List.mem_append, List.mem_singleton, reduceCtorEq, or_false]
    constructor
    · rintro ⟨hl, hr⟩ n (hn | hn)
      · exact hl n hn
      · exact hr n hn
    · intro h
      exact ⟨fun n hn => h n (Or.inl hn), fun n hn => h n (Or.inr hn)⟩

/-- No two trees have one program. -/
theorem Compiler.compile_injective {e e' : Expr} {p : Program} (h : compile e = .ok p)
    (h' : compile e' = .ok p) : e = e' := by
  rw [← Machine.decompile_eq_some_iff] at h h'
  exact Option.some.inj (h.symm.trans h')

namespace Machine

/-- **Only compiled trees run to a value.** A program that runs to a value is the program of exactly
one tree. The tree has no foreign leaves, its literals are words if the pushed numbers are, and the
recursion on it gives that value. Conversely a tree with a value has a program that runs to it. So
compiling is injective, and a program is compiled from some tree exactly when it is balanced. -/
theorem run_ok_only_compiled :
    (∀ (p : Program) (v : Int), run p = .ok v →
        ∃ e : Expr, (∀ e', Compiler.compile e' = .ok p ↔ e' = e) ∧ e.Pure
          ∧ (e.InRange ↔ ∀ n, .push n ∈ p.instructions → Word.InRange n)
          ∧ Interpreter.evaluateFreely e = .ok v)
      ∧ (∀ (e : Expr) (v : Int), Interpreter.evaluateFreely e = .ok v →
          ∃ p, Compiler.compile e = .ok p ∧ run p = .ok v)
      ∧ (∀ (e e' : Expr) (p : Program), Compiler.compile e = .ok p →
          Compiler.compile e' = .ok p → e = e')
      ∧ ∀ p : Program, (∃ e, Compiler.compile e = .ok p) ↔ p.Balanced := by
  refine ⟨fun p v hrun => ?_, fun e v hv => ?_, fun e e' p => Compiler.compile_injective,
    fun p => ?_⟩
  · obtain ⟨e, he, hv⟩ := decompile_of_run hrun
    have hcompile := decompile_eq_some_iff.mp he
    obtain ⟨hpure, hp⟩ := Compiler.compile_eq_ok_iff.mp hcompile
    refine ⟨e, fun e' => ⟨fun h => Compiler.compile_injective h hcompile, ?_⟩, hpure, ?_, hv⟩
    · rintro rfl
      exact hcompile
    · rw [hp]
      exact Expr.inRange_iff_of_pure hpure
  · have hpure := Interpreter.pure_of_evaluateFreely hv
    exact ⟨_, Compiler.compile_of_pure hpure, by rw [run_postorder hpure, hv]⟩
  · simp only [← decompile_eq_some_iff]
    exact exists_decompile_iff p

/-- `7 2 DIV` runs to three, so it is the program of one tree with that value. -/
theorem run_ok_only_compiled_at_quotient :
    ∃ e : Expr, (∀ e', Compiler.compile e' = .ok ⟨[.push 7, .push 2, .apply .div]⟩ ↔ e' = e)
      ∧ e.Pure
      ∧ (e.InRange ↔ ∀ n, .push n ∈ [Instruction.push 7, .push 2, .apply .div] → Word.InRange n)
      ∧ Interpreter.evaluateFreely e = .ok 3 :=
  run_ok_only_compiled.1 ⟨[.push 7, .push 2, .apply .div]⟩ 3 rfl

end Machine

end Reckoner
