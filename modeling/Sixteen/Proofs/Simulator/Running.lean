import Sixteen.Proofs.Simulator.Steps

/-!
# Runs with a limit and without

A run goes on as long as steps go on. What ends it is the first step that halts or fails, or that
its limit is reached; a run without a limit may have no end.

* `System.Running`, `System.Ends` : steps that go on, and the step that ends a run;
* `System.run`, `System.runToEnd` : runs with a limit, and without;
* `System.run_eq_of_ends`, `System.run_eq_of_running` : how a run with a limit ends;
* `System.runToEnd_eq_some_iff` : how a run without a limit ends, if it does;
* `System.runToEnd_eq_run_forever` : the limit that stands for none;
* `System.Runs`, `System.runs` : all of it, with what runs have to do with each other.
-/

namespace Sixteen.System

variable {σ : Type} [Console (StateM σ)] {x y : System σ} {k m n : Nat}
  {result : Except Fault Unit}

/-! ## When runs end -/

/-- The first `n` steps go on. -/
def Running (x : System σ) (n : Nat) : Prop :=
  ∀ i < n, (x.after i).result = .ok .running

/-- The steps go on up to the last of `steps`, which halts or fails. -/
inductive Ends (x : System σ) : (steps : Nat) → Except Fault Unit → Prop
  | halted {i : Nat} (running : x.Running i) (halts : (x.after i).result = .ok .halted) :
    Ends x (i + 1) (.ok ())
  | failed {i : Nat} {fault : Fault} (running : x.Running i)
    (fails : (x.after i).result = .error fault) : Ends x (i + 1) (.error fault)

theorem running_zero (x : System σ) : x.Running 0 := nofun

theorem running_succ_iff : x.Running (n + 1) ↔ x.Running n ∧ (x.after n).result = .ok .running := by
  constructor
  · intro h
    exact ⟨fun i hi => h i (Nat.lt_succ_of_lt hi), h n (Nat.lt_succ_self n)⟩
  · rintro ⟨before, last⟩ i hi
    rcases Nat.lt_succ_iff_lt_or_eq.1 hi with earlier | rfl
    · exact before i earlier
    · exact last

theorem Running.next (h : x.Running (n + 1)) : x.result = .ok .running ∧ x.next.Running n :=
  ⟨h 0 (Nat.succ_pos n), fun i hi => h (i + 1) (Nat.succ_lt_succ hi)⟩

/-- The steps go on, or one of them ends the run. -/
theorem running_or_ends (x : System σ) (n : Nat) :
    x.Running n ∨ ∃ k ≤ n, ∃ result, x.Ends k result := by
  induction n with
  | zero => exact .inl x.running_zero
  | succ n ih =>
    rcases ih with running | ⟨k, within, ends⟩
    · cases last : (x.after n).result with
      | error fault => exact .inr ⟨n + 1, Nat.le_refl _, _, .failed running last⟩
      | ok status =>
        cases status with
        | running => exact .inl (running_succ_iff.2 ⟨running, last⟩)
        | halted => exact .inr ⟨n + 1, Nat.le_refl _, _, .halted running last⟩
    · exact .inr ⟨k, Nat.le_succ_of_le within, ends⟩

theorem Running.of_next (first : x.result = .ok .running) (h : x.next.Running n) :
    x.Running (n + 1) := by
  intro i hi
  cases i with
  | zero => exact first
  | succ i => exact h i (Nat.lt_of_succ_lt_succ hi)

theorem Ends.of_next (first : x.result = .ok .running) (h : x.next.Ends k result) :
    x.Ends (k + 1) result := by
  cases h with
  | halted running last => exact .halted (running.of_next first) last
  | failed running last => exact .failed (running.of_next first) last

theorem Ends.not_running (h : x.Ends k result) (le : k ≤ n) : ¬x.Running n := by
  intro running
  cases h with
  | halted _ last | failed _ last => cases last.symm.trans (running _ le)

theorem Ends.ne_stepLimit (h : x.Ends k result) (limit : Nat) :
    result ≠ .error (.stepLimit limit) := by
  cases h with
  | halted => nofun
  | @failed i fault _ fails =>
    rintro ⟨⟩
    exact (x.after i).stepped.ne_stepLimit limit fails

/-! ## Runs with a limit -/

/-- A run of at most `steps` steps. It has no result if none of them ends it. -/
def runFor (x : System σ) (steps : Nat) : Option (Except Fault Unit) × System σ :=
  let ((result, s), console) := StateT.run (m := Id) (x.simulator.runFor steps) x.console
  (result, ⟨s, console⟩)

/-- A run of at most `limit` steps. -/
def run (x : System σ) (limit : Nat) : Except Fault Unit × System σ :=
  let ((result, s), console) := StateT.run (m := Id) (x.simulator.run limit) x.console
  (result, ⟨s, console⟩)

theorem run_eq_runFor (x : System σ) (limit : Nat) :
    x.run limit = (Simulator.orLimit limit (x.runFor limit).1, (x.runFor limit).2) := rfl

theorem runFor_zero (x : System σ) : x.runFor 0 = (none, x) := rfl

/-- The first step decides whether the run goes on. -/
theorem runFor_succ (x : System σ) (n : Nat) :
    x.runFor (n + 1) = match x.result with
      | .ok .running => x.next.runFor n
      | .ok .halted => (some (.ok ()), x.next)
      | .error fault => (some (.error fault), x.next) := by
  have stepped : StateT.run (m := Id) x.simulator.step x.console =
    ((x.result, x.next.simulator), x.next.console) := rfl
  rw [runFor, Simulator.runFor, Simulator.runWatched]
  simp only [pure_bind, StateT.run_bind, stepped]
  rcases x.result with fault | _ | _ <;> rfl

/-- Steps that go on can be taken first. -/
theorem Running.runFor_add (h : x.Running n) (m : Nat) :
    x.runFor (n + m) = (x.after n).runFor m := by
  induction n generalizing x with
  | zero => rw [Nat.zero_add, after_zero]
  | succ n ih =>
    obtain ⟨first, rest⟩ := h.next
    rw [Nat.add_right_comm, runFor_succ, first]
    exact ih rest

theorem Running.run_eq (h : x.Running n) : x.run n = (.error (.stepLimit n), x.after n) := by
  have steps := h.runFor_add 0
  rw [Nat.add_zero, runFor_zero] at steps
  rw [run_eq_runFor, steps]
  rfl

theorem Ends.runFor_eq (h : x.Ends k result) (le : k ≤ n) :
    x.runFor n = (some result, x.after k) := by
  obtain ⟨rest, rfl⟩ := Nat.exists_eq_add_of_le le
  cases h with
  | halted running last | failed running last =>
    rw [Nat.add_assoc, Nat.add_comm 1, running.runFor_add, runFor_succ, last, after_succ]

theorem Ends.run_eq (h : x.Ends k result) (le : k ≤ n) : x.run n = (result, x.after k) := by
  rw [run_eq_runFor, h.runFor_eq le]
  rfl

/-! ## Runs without a limit -/

/-- A run without a limit, if it has an end. -/
def runToEnd (x : System σ) : Option (Except Fault Unit × System σ) :=
  (x.simulator.runToEnd x.console).map fun ((result, s), console) => (result, ⟨s, console⟩)

theorem runToEnd_eq (x : System σ) :
    x.runToEnd = match x.result with
      | .ok .running => x.next.runToEnd
      | .ok .halted => some (.ok (), x.next)
      | .error fault => some (.error fault, x.next) := by
  have stepped : StateT.run (m := Id) x.simulator.step x.console =
    ((x.result, x.next.simulator), x.next.console) := rfl
  rw [runToEnd, Simulator.runToEnd, stepped]
  rcases x.result with fault | _ | _ <;> rfl

theorem Running.runToEnd_eq (h : x.Running n) : x.runToEnd = (x.after n).runToEnd := by
  induction n generalizing x with
  | zero => rw [after_zero]
  | succ n ih =>
    obtain ⟨first, rest⟩ := h.next
    rw [System.runToEnd_eq, first]
    exact ih rest

theorem Ends.runToEnd_eq (h : x.Ends k result) : x.runToEnd = some (result, x.after k) := by
  cases h with
  | halted running last | failed running last =>
    rw [running.runToEnd_eq, System.runToEnd_eq, last, after_succ]

/-- A run without a limit that has an end was ended by one of its steps. -/
theorem exists_ends_of_runToEnd (h : x.runToEnd = some (result, y)) :
    ∃ k, x.Ends k result ∧ y = x.after k := by
  obtain ⟨⟨⟨_, s⟩, console⟩, ended, ⟨⟩⟩ := Option.map_eq_some_iff.1 h
  -- The induction is over the calls that the run makes: each of them is for the system one step on.
  refine Simulator.runToEnd.partial_correctness
    (fun s console r => ∃ k, Ends ⟨s, console⟩ k r.1.1 ∧ ⟨r.1.2, r.2⟩ = after ⟨s, console⟩ k)
    ?_ x.simulator x.console _ ended
  intro later ih s console r h
  let x : System σ := ⟨s, console⟩
  have stepped : StateT.run (m := Id) s.step console =
    ((x.result, x.next.simulator), x.next.console) := rfl
  rw [stepped] at h
  cases first : x.result with
  | error fault =>
    rw [first] at h
    cases h
    exact ⟨1, .failed x.running_zero first, rfl⟩
  | ok status =>
    rw [first] at h
    cases status with
    | running =>
      obtain ⟨k, ends, same⟩ := ih _ _ _ h
      exact ⟨k + 1, ends.of_next first, same⟩
    | halted =>
      cases h
      exact ⟨1, .halted x.running_zero first, rfl⟩

theorem runToEnd_eq_some_iff :
    x.runToEnd = some (result, y) ↔ ∃ k, x.Ends k result ∧ y = x.after k := by
  constructor
  · exact exists_ends_of_runToEnd
  · rintro ⟨k, ends, rfl⟩
    exact ends.runToEnd_eq

/-- A run that does not reach its limit is the run without one. -/
theorem runToEnd_eq_run (stopped : ¬x.Running n) : x.runToEnd = some (x.run n) := by
  rcases x.running_or_ends n with running | ⟨k, within, result, ends⟩
  · exact absurd running stopped
  · rw [ends.runToEnd_eq, ends.run_eq within]

/-- Where no limit is given, a command sets one that is out of reach: as long as nothing takes so
many steps, it runs as if there was none. -/
theorem runToEnd_eq_run_forever (x : System σ) :
    x.Running Simulator.forever ∨ x.runToEnd = some (x.run Simulator.forever) :=
  or_iff_not_imp_left.2 runToEnd_eq_run

/-! ## All runs -/

/-- How many steps a run of at most `limit` steps takes, and its result. -/
inductive Takes (x : System σ) (limit : Nat) : (steps : Nat) → Except Fault Unit → Prop
  | ended {steps : Nat} {result : Except Fault Unit} (ends : x.Ends steps result)
    (within : steps ≤ limit) : Takes x limit steps result
  | limited (running : x.Running limit) : Takes x limit limit (.error (.stepLimit limit))

theorem exists_takes (x : System σ) (n : Nat) : ∃ steps result, x.Takes n steps result := by
  rcases x.running_or_ends n with running | ⟨k, within, result, ends⟩
  · exact ⟨n, _, .limited running⟩
  · exact ⟨k, result, .ended ends within⟩

theorem Takes.run_eq (h : x.Takes n k result) : x.run n = (result, x.after k) := by
  cases h with
  | ended ends within => exact ends.run_eq within
  | limited running => exact running.run_eq

/-- A result of a run is that of the steps that it takes. -/
theorem exists_takes_of_run (h : (x.run n).1 = result) : ∃ steps, x.Takes n steps result := by
  obtain ⟨steps, result', takes⟩ := x.exists_takes n
  rw [takes.run_eq] at h
  subst h
  exact ⟨steps, takes⟩

theorem run_eq_ok_iff : (x.run n).1 = .ok () ↔ ∃ k ≤ n, x.Ends k (.ok ()) := by
  constructor
  · intro h
    obtain ⟨k, takes⟩ := exists_takes_of_run h
    cases takes with
    | ended ends within => exact ⟨k, within, ends⟩
  · rintro ⟨k, within, ends⟩
    rw [ends.run_eq within]

theorem run_eq_limit_iff : (x.run n).1 = .error (.stepLimit n) ↔ x.Running n := by
  constructor
  · intro h
    obtain ⟨k, takes⟩ := exists_takes_of_run h
    cases takes with
    | ended ends _ => exact absurd rfl (ends.ne_stepLimit n)
    | limited running => exact running
  · intro running
    rw [running.run_eq]

theorem run_eq_error_iff {fault : Fault} (other : fault ≠ .stepLimit n) :
    (x.run n).1 = .error fault ↔ ∃ k ≤ n, x.Ends k (.error fault) := by
  constructor
  · intro h
    obtain ⟨k, takes⟩ := exists_takes_of_run h
    cases takes with
    | ended ends within => exact ⟨k, within, ends⟩
    | limited => exact absurd rfl other
  · rintro ⟨k, within, ends⟩
    rw [ends.run_eq within]

/-- Two results of runs are the same but for the limits of the runs. -/
def SameButLimit (limit limit' : Nat) (result result' : Except Fault Unit) : Prop :=
  result = result' ∨ result = .error (.stepLimit limit) ∧ result' = .error (.stepLimit limit')

/-- What is left of a run can be run later. -/
theorem Running.run_add (h : x.Running n) (m : Nat) :
    ((x.after n).run m).2 = (x.run (n + m)).2 ∧
      SameButLimit m (n + m) ((x.after n).run m).1 (x.run (n + m)).1 := by
  rw [run_eq_runFor, run_eq_runFor, h.runFor_add]
  refine ⟨rfl, ?_⟩
  cases ((x.after n).runFor m).1 with
  | none => exact .inr ⟨rfl, rfl⟩
  | some result => exact .inl rfl

theorem runToEnd_ne_none_iff : x.runToEnd ≠ none ↔ ∃ n, ¬x.Running n := by
  constructor
  · intro h
    obtain ⟨⟨result, y⟩, ended⟩ := Option.ne_none_iff_exists'.1 h
    obtain ⟨k, ends, -⟩ := exists_ends_of_runToEnd ended
    exact ⟨k, ends.not_running (Nat.le_refl k)⟩
  · rintro ⟨n, stopped⟩
    rw [runToEnd_eq_run stopped]
    exact Option.some_ne_none _

/-- How the runs from `x` end, where they lead and what they count. -/
structure Runs (x : System σ) : Prop where
  /-- A run ends well if it reaches a step that halts. -/
  halts : ∀ n, (x.run n).1 = .ok () ↔ ∃ k ≤ n, x.Ends k (.ok ())
  /-- It reaches its limit if all of its steps go on. -/
  limited : ∀ n, (x.run n).1 = .error (.stepLimit n) ↔ x.Running n
  /-- Otherwise it fails with the first step that fails. -/
  fails : ∀ n fault, fault ≠ .stepLimit n →
    ((x.run n).1 = .error fault ↔ ∃ k ≤ n, x.Ends k (.error fault))
  /-- A run leads where its steps lead, and counts those that do not fail. -/
  state : ∀ n, ∃ steps, x.Takes n steps (x.run n).1 ∧ (x.run n).2 = x.after steps ∧
    (x.run n).2.simulator.count = x.simulator.count + x.succeeded steps
  /-- A run that has reached its limit can be taken up again. -/
  resumes : ∀ n m, (x.run n).1 = .error (.stepLimit n) →
    ((x.run n).2.run m).2 = (x.run (n + m)).2 ∧
      SameButLimit m (n + m) ((x.run n).2.run m).1 (x.run (n + m)).1
  /-- A run without a limit does what a run does whose limit is high enough. -/
  unlimited : ∀ result y, x.runToEnd = some (result, y) → ∃ steps, x.Ends steps result ∧
    (∀ n, steps ≤ n → x.run n = (result, y)) ∧
      y.simulator.count = x.simulator.count + x.succeeded steps
  /-- It has an end unless steps go on for ever. -/
  ends : x.runToEnd ≠ none ↔ ∃ n, ¬x.Running n

theorem runs (x : System σ) : x.Runs where
  halts _ := run_eq_ok_iff
  limited _ := run_eq_limit_iff
  fails _ _ := run_eq_error_iff
  state n := by
    obtain ⟨steps, takes⟩ := exists_takes_of_run (x := x) (n := n) rfl
    have led : (x.run n).2 = x.after steps := by rw [takes.run_eq]
    exact ⟨steps, takes, led, by rw [led, count_after]⟩
  resumes n m h := by
    have running := run_eq_limit_iff.1 h
    rw [running.run_eq]
    exact running.run_add m
  unlimited result y h := by
    obtain ⟨k, ends, rfl⟩ := runToEnd_eq_some_iff.1 h
    exact ⟨k, ends, fun n within => ends.run_eq within, count_after x k⟩
  ends := runToEnd_ne_none_iff

end Sixteen.System
