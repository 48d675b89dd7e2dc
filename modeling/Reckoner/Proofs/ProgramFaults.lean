import Reckoner.Proofs.Decompilation

/-!
# What stops a program

Any sequence of instructions is a program, and a run of one ends in one of four ways: an operator
has no result on its operands, an operator finds fewer than two values, a wrong number of values is
left, or there is a value. This file says which of the four it is, and with which numbers in the
error, without running the machine.

Two of the causes are found by counting. The first `i` instructions leave as many values as pushes
exceed operators among them (`Program.sizeAfter`), and an operator *starves* if fewer than two are
left for it. The third is found on the trees that the instructions build: an operator joins two of
them, and it *faults* if both have a value and the operator has no result on the two. Neither notion
asks whether the machine ever gets to the instruction. An operator may well fault behind another one
that faults, and the counts go on, below zero too, behind an operator that starves.

The machine stops at whatever comes first. As long as nothing starves or faults it gets through,
and then its stack holds the values of the trees, as many as the count says (`exec_take_of_clear`,
`counted_of_exec`). So the next instruction fails if it starves or faults, and for no other reason
(`step_cases_of_exec`). What stands behind a failing instruction is not looked at, so an error
other than a wrong number of values at the end does not go away when instructions are added.
-/

namespace Reckoner

/-! ## Operators that cannot be carried out -/

namespace Program

/-- How many values the first `i` instructions leave, to judge by the number of pushes less the
number of operators. -/
def sizeAfter (p : Program) (i : Nat) : Int := Machine.surplus (p.instructions.take i)

/-- Instruction number `i` is an operator, and fewer than two values are left for it. -/
def Starves (p : Program) (i : Nat) : Prop :=
  ∃ op, p.instructions[i]? = some (.apply op) ∧ p.sizeAfter i < 2

/-- Instruction number `i` is an operator, the two trees that it joins have values, and on these it
has no result. -/
def Faults (p : Program) (i : Nat) (cause : ArithmeticError) : Prop :=
  ∃ op left right below a b, p.instructions[i]? = some (.apply op)
    ∧ Machine.build [] (p.instructions.take i) = some (right :: left :: below)
    ∧ Interpreter.evaluateFreely left = .ok a ∧ Interpreter.evaluateFreely right = .ok b
    ∧ op.apply a b = .error cause

/-- None of the first `n` instructions starves or faults. -/
def Clear (p : Program) (n : Nat) : Prop :=
  ∀ j < n, ¬ p.Starves j ∧ ∀ cause, ¬ p.Faults j cause

end Program

namespace Machine

/-! ## Runs that fail -/

theorem exec_append_of_error {index : Nat} {stack : Stack} {code : List Instruction}
    {e : ExecutionError} (h : exec index stack code = .error e) (more : List Instruction) :
    exec index stack (code ++ more) = .error e := by
  rw [exec_append, h]
  rfl

theorem run_of_exec_error {p : Program} {e : ExecutionError}
    (h : exec 0 [] p.instructions = .error e) : run p = .error e := by
  rw [run, h]

/-- A run fails in the middle of the program, or it gets through and leaves a wrong number of
values. -/
theorem exec_error_or_residue {p : Program} {e : ExecutionError} (h : run p = .error e) :
    exec 0 [] p.instructions = .error e ∨ ∃ n, e = .residue n := by
  rw [run] at h
  split at h
  · cases h
  · cases h
    exact Or.inr ⟨_, rfl⟩
  · next hexec =>
    cases h
    exact Or.inl hexec

/-! ## One more instruction -/

variable {p : Program} {n : Nat} {stack : Stack} {i : Instruction}

/-- The stack that a run has come to holds the values of the trees built so far, and it is as high
as the count says. -/
theorem counted_of_exec {code : List Instruction} (h : exec 0 [] code = .ok stack) :
    ∃ trees, build [] code = some trees ∧ trees.map Interpreter.evaluateFreely = stack.map .ok
      ∧ (stack.length : Int) = surplus code := by
  obtain ⟨trees, hbuild, hvalues⟩ :=
    build_of_exec h (show ([] : List Expr).map Interpreter.evaluateFreely = _ from rfl)
  have hlength := length_of_build hbuild
  have hsame : trees.length = stack.length := by
    simpa only [List.length_map] using congrArg List.length hvalues
  simp only [List.length_nil] at hlength
  exact ⟨trees, hbuild, hvalues, by omega⟩

/-- Running one instruction more is one step from where the run stands. -/
theorem exec_take_succ (h : exec 0 [] (p.instructions.take n) = .ok stack)
    (hi : p.instructions[n]? = some i) :
    exec 0 [] (p.instructions.take (n + 1)) = step n stack i := by
  obtain ⟨hlt, _⟩ := List.getElem?_eq_some_iff.mp hi
  have hlength : (p.instructions.take n).length = n := by
    rw [List.length_take]
    omega
  rw [List.take_add_one, hi, Option.toList_some, exec_append, h, hlength, Nat.zero_add]
  simp only [Except.bind, exec_cons]
  rcases step n stack i with e | stack' <;> rfl

/-- A run that comes to an instruction which fails ends there, whatever stands behind it. -/
theorem run_of_step_error {e : ExecutionError}
    (h : exec 0 [] (p.instructions.take n) = .ok stack) (hi : p.instructions[n]? = some i)
    (hstep : step n stack i = .error e) : run p = .error e := by
  have hexec : exec 0 [] (p.instructions.take (n + 1)) = .error e := by
    rw [exec_take_succ h hi, hstep]
  have hall := exec_append_of_error hexec (p.instructions.drop (n + 1))
  rw [List.take_append_drop] at hall
  exact run_of_exec_error hall

/-- An operator that starves finds a stack as high as the count says. -/
theorem step_of_starves (h : exec 0 [] (p.instructions.take n) = .ok stack)
    (hshort : p.sizeAfter n < 2) (op : Operator) :
    (stack.length : Int) = p.sizeAfter n
      ∧ step n stack (.apply op) = .error (.underflow n op stack.length) := by
  obtain ⟨_, _, _, hlength⟩ := counted_of_exec h
  refine ⟨hlength, ?_⟩
  rw [Program.sizeAfter] at hshort
  match stack with
  | [] => rfl
  | [_] => rfl
  | right :: left :: below =>
    simp only [List.length_cons] at hlength
    omega

/-- An operator that faults finds the values of its operands on the stack. -/
theorem step_of_faults {cause : ArithmeticError}
    (h : exec 0 [] (p.instructions.take n) = .ok stack) (hfault : p.Faults n cause) :
    ∃ op, p.instructions[n]? = some (.apply op)
      ∧ step n stack (.apply op) = .error (.arithmetic cause) := by
  obtain ⟨op, left, right, below, a, b, hi, hbuild, ha, hb, happ⟩ := hfault
  obtain ⟨trees, hbuild', hvalues, _⟩ := counted_of_exec h
  have htrees : trees = right :: left :: below := Option.some.inj (hbuild'.symm.trans hbuild)
  -- The two topmost trees have the values `b` and `a`, so these are on top of the stack.
  rw [htrees, List.map_cons, List.map_cons, ha, hb] at hvalues
  obtain ⟨b', rest, rfl, hb', hvalues⟩ := List.map_eq_cons_iff.mp hvalues.symm
  obtain ⟨a', rest, rfl, ha', _⟩ := List.map_eq_cons_iff.mp hvalues
  have hbb : b' = b := Except.ok.inj hb'
  have haa : a' = a := Except.ok.inj ha'
  refine ⟨op, hi, ?_⟩
  rw [step_apply_cons_cons, haa, hbb, happ]
  rfl

/-- **What an instruction can do**, once the machine has come to it: it is carried out, or it is an
operator that starves, or it is one that faults. -/
theorem step_cases_of_exec (h : exec 0 [] (p.instructions.take n) = .ok stack)
    (hi : p.instructions[n]? = some i) :
    (∃ stack', step n stack i = .ok stack') ∨ p.Starves n ∨ ∃ cause, p.Faults n cause := by
  obtain ⟨trees, hbuild, hvalues, hlength⟩ := counted_of_exec h
  cases i with
  | push m => exact Or.inl ⟨_, rfl⟩
  | apply op =>
    by_cases hshort : p.sizeAfter n < 2
    · exact Or.inr (Or.inl ⟨op, hi, hshort⟩)
    · rw [Program.sizeAfter] at hshort
      match stack with
      | [] =>
        simp only [List.length_nil] at hlength
        omega
      | [_] =>
        simp only [List.length_cons, List.length_nil] at hlength
        omega
      | b :: a :: below =>
        rcases happ : op.apply a b with cause | v
        · -- The operands are the two topmost trees.
          obtain ⟨right, trees, rfl, hb, hvalues⟩ := List.map_eq_cons_iff.mp hvalues
          obtain ⟨left, trees, rfl, ha, _⟩ := List.map_eq_cons_iff.mp hvalues
          exact Or.inr (Or.inr ⟨cause, op, left, right, trees, a, b, hi, hbuild, ha, hb, happ⟩)
        · refine Or.inl ⟨v :: below, ?_⟩
          rw [step_apply_cons_cons, happ]
          rfl

/-! ## Whole runs -/

/-- **A run gets through as long as nothing starves or faults.** -/
theorem exec_take_of_clear (hclear : p.Clear n) (hn : n ≤ p.size) :
    ∃ stack, exec 0 [] (p.instructions.take n) = .ok stack := by
  induction n with
  | zero => exact ⟨[], rfl⟩
  | succ n ih =>
    obtain ⟨stack, hexec⟩ := ih (fun j hj => hclear j (by omega)) (by omega)
    have hi := List.getElem?_eq_getElem (l := p.instructions) (i := n) hn
    obtain ⟨hstarves, hfaults⟩ := hclear n (by omega)
    rcases step_cases_of_exec hexec hi with ⟨stack', hstep⟩ | hstarves' | ⟨cause, hfault⟩
    · exact ⟨stack', by rw [exec_take_succ hexec hi, hstep]⟩
    · exact absurd hstarves' hstarves
    · exact absurd hfault (hfaults cause)

theorem lt_size_of_getElem? (hi : p.instructions[n]? = some i) : n < p.size :=
  (List.getElem?_eq_some_iff.mp hi).1

theorem run_of_first_fault {cause : ArithmeticError} (hclear : p.Clear n)
    (hfault : p.Faults n cause) : run p = .error (.arithmetic cause) := by
  have ⟨_, _, _, _, _, _, hi, _⟩ := hfault
  have hlt := lt_size_of_getElem? hi
  obtain ⟨stack, hexec⟩ := exec_take_of_clear hclear (by omega)
  obtain ⟨op, hop, hstep⟩ := step_of_faults hexec hfault
  exact run_of_step_error hexec hop hstep

theorem run_of_first_starved {op : Operator} (hclear : p.Clear n)
    (hi : p.instructions[n]? = some (.apply op)) (hshort : p.sizeAfter n < 2) :
    ∃ size : Nat, (size : Int) = p.sizeAfter n ∧ run p = .error (.underflow n op size) := by
  have hlt := lt_size_of_getElem? hi
  obtain ⟨stack, hexec⟩ := exec_take_of_clear hclear (by omega)
  obtain ⟨hlength, hstep⟩ := step_of_starves hexec hshort op
  exact ⟨stack.length, hlength, run_of_step_error hexec hi hstep⟩

/-- A program in which nothing starves or faults ends with as many values as the count says. -/
theorem run_of_clear (hclear : p.Clear p.size) :
    (p.sizeAfter p.size ≠ 1 →
        ∃ size : Nat, (size : Int) = p.sizeAfter p.size ∧ run p = .error (.residue size))
      ∧ (p.sizeAfter p.size = 1 → ∃ v, run p = .ok v) := by
  obtain ⟨stack, hexec⟩ := exec_take_of_clear hclear (Nat.le_refl _)
  obtain ⟨_, _, _, hlength⟩ := counted_of_exec hexec
  rw [Program.size, List.take_length] at hexec
  change (stack.length : Int) = p.sizeAfter p.size at hlength
  rw [← hlength, run, hexec]
  rcases stack with _ | ⟨v, _ | ⟨w, below⟩⟩
  · exact ⟨fun _ => ⟨0, rfl, rfl⟩, fun hone => absurd hone (by decide)⟩
  · exact ⟨fun hone => absurd rfl hone, fun _ => ⟨v, rfl⟩⟩
  · refine ⟨fun _ => ⟨_, rfl, rfl⟩, fun hone => ?_⟩
    simp only [List.length_cons] at hone
    omega

/-- **What stops a program.** Before the first operator that starves, or before the end if none
does, the first operator that faults decides, and its arithmetic error is the outcome. If none
faults there and some operator starves, the first one is reported, with its number and with the
count before it as the size of the stack. If nothing faults or starves the count over the whole
program decides: if it is one there is a value, and otherwise it is reported as the number of values
left. An error of any but the last kind is the outcome of every longer program too. -/
theorem run_stopped_by_first (p : Program) :
    (∀ i cause, (∀ u, p.Starves u → i < u) → p.Faults i cause →
        (∀ j < i, ∀ cause', ¬ p.Faults j cause') → run p = .error (.arithmetic cause))
      ∧ (∀ u op, p.instructions[u]? = some (.apply op) → p.sizeAfter u < 2 →
          (∀ j < u, ¬ p.Starves j) → (∀ j < u, ∀ cause, ¬ p.Faults j cause) →
          ∃ size : Nat, (size : Int) = p.sizeAfter u ∧ run p = .error (.underflow u op size))
      ∧ ((∀ u, ¬ p.Starves u) → (∀ j cause, ¬ p.Faults j cause) →
          (p.sizeAfter p.size ≠ 1 →
              ∃ size : Nat, (size : Int) = p.sizeAfter p.size ∧ run p = .error (.residue size))
            ∧ (p.sizeAfter p.size = 1 → ∃ v, run p = .ok v))
      ∧ ∀ e, run p = .error e → (∀ size, e ≠ .residue size) →
          ∀ more, run ⟨p.instructions ++ more⟩ = .error e := by
  refine ⟨?_, ?_, ?_, ?_⟩
  · intro i cause hbefore hfault hfirst
    refine run_of_first_fault (fun j hj => ⟨fun hstarves => ?_, hfirst j hj⟩) hfault
    have := hbefore j hstarves
    omega
  · intro u op hi hshort hstarves hfaults
    exact run_of_first_starved (fun j hj => ⟨hstarves j hj, hfaults j hj⟩) hi hshort
  · intro hstarves hfaults
    exact run_of_clear fun j _ => ⟨hstarves j, hfaults j⟩
  · intro e herror hresidue more
    rcases exec_error_or_residue herror with hexec | ⟨size, rfl⟩
    · exact run_of_exec_error (exec_append_of_error hexec more)
    · exact absurd rfl (hresidue size)

/-- A division by zero with an operator too many behind it, an operator too many with a division by
zero behind it, and an operator too few. In the first program the division decides, for every longer
program too, and in the second the operator that starves. -/
theorem run_stopped_by_first_at_mixtures :
    run ⟨[.push 1, .push 0, .apply .div, .apply .add]⟩
        = .error (.arithmetic (.divisionByZero 1))
      ∧ run ⟨[.push 1, .push 0, .apply .div, .apply .add, .push 7]⟩
        = .error (.arithmetic (.divisionByZero 1))
      ∧ (∃ size : Nat, (size : Int) = 1
          ∧ run ⟨[.push 1, .apply .add, .push 0, .apply .div]⟩ = .error (.underflow 1 .add size))
      ∧ ∃ size : Nat, (size : Int) = 2 ∧ run ⟨[.push 1, .push 2]⟩ = .error (.residue size) := by
  have hdiv : run ⟨[.push 1, .push 0, .apply .div, .apply .add]⟩
      = .error (.arithmetic (.divisionByZero 1)) := by
    refine (run_stopped_by_first _).1 2 _ ?_ ?_ ?_
    · rintro u ⟨op, hi, hshort⟩
      rcases u with _ | _ | _ | u
      · cases hi
      · cases hi
      · exact absurd hshort (by decide)
      · omega
    · exact ⟨.div, .number 1, .number 0, [], 1, 0, rfl, rfl, rfl, rfl, rfl⟩
    · rintro j hj cause ⟨op, _, _, _, _, _, hi, _⟩
      rcases j with _ | _ | j
      · cases hi
      · cases hi
      · omega
  refine ⟨hdiv, (run_stopped_by_first _).2.2.2 _ hdiv (by simp) [.push 7], ?_, ?_⟩
  · refine (run_stopped_by_first ⟨[.push 1, .apply .add, .push 0, .apply .div]⟩).2.1 1 .add rfl
      (by decide) ?_ ?_
    · rintro j hj ⟨op, hi, _⟩
      obtain rfl : j = 0 := by omega
      cases hi
    · rintro j hj cause ⟨op, _, _, _, _, _, hi, _⟩
      obtain rfl : j = 0 := by omega
      cases hi
  · have hpush : ∀ (j : Nat) (op : Operator),
        [Instruction.push 1, .push 2][j]? ≠ some (.apply op) := by
      rintro (_ | _ | j) op hi <;> cases hi
    refine ((run_stopped_by_first ⟨[.push 1, .push 2]⟩).2.2.1 ?_ ?_).1 (by decide)
    · rintro u ⟨op, hi, _⟩
      exact hpush u op hi
    · rintro j cause ⟨op, _, _, _, _, _, hi, _⟩
      exact hpush j op hi

end Machine

end Reckoner
