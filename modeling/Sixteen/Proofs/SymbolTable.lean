import Sixteen.SymbolTable

/-!
# What a symbol table takes

* `SymbolTable.attempt_eq` : a definition, check by check;
* `SymbolTable.attempt_eq_ok_iff` : a label is taken exactly if it is new, short enough and there is
  room, and then it comes last;
* `SymbolTable.fst_attempt_eq_error_iff` : why a label is refused; that it is known comes first, then
  its length, then the room;
* `SymbolTable.eq_of_attempt_eq_error` : the table is as it was then;
* `SymbolTable.symbol?_eq_none_iff`, `SymbolTable.symbol?_eq_some_iff` : looking up a label;
* `SymbolTable.find?_attempt`, `SymbolTable.symbol?_attempt_of_ne` : the label that was taken last,
  and the others.
-/

namespace Sixteen.SymbolTable

variable {t t' : SymbolTable} {s : Symbol} {label : String}

theorem symbol?_eq_none_iff : t.symbol? label = none ↔ ∀ s ∈ t.symbols, s.label ≠ label := by
  simp [symbol?]

/-- All checks come before the table is changed. -/
theorem attempt_eq (t : SymbolTable) (s : Symbol) :
    t.attempt s = match t.symbol? s.label with
      | some first => (.error (.duplicate s.label first.line), t)
      | none =>
        if t.limits.labelLength < s.label.utf8ByteSize then (.error (.tooLong s.label), t)
        else if t.limits.symbols ≤ t.size then (.error .full, t)
        else (.ok (), ⟨t.limits, t.symbols.push s⟩) := by
  have checked : t.attempt s = StateT.run (m := Id) (ExceptT.run (match t.symbol? s.label with
      | some first => throw (.duplicate s.label first.line)
      | none =>
        if t.limits.labelLength < s.label.utf8ByteSize then throw (.tooLong s.label)
        else if t.limits.symbols ≤ t.size then throw .full
        else modify fun t => { t with symbols := t.symbols.push s })) t := rfl
  rw [checked]
  cases t.symbol? s.label with
  | some first => rfl
  | none =>
    dsimp only
    by_cases long : t.limits.labelLength < s.label.utf8ByteSize
    · rw [if_pos long, if_pos long]
      rfl
    rw [if_neg long, if_neg long]
    split <;> rfl

theorem attempt_eq_ok_iff :
    t.attempt s = (.ok (), t') ↔
      t.symbol? s.label = none ∧ s.label.utf8ByteSize ≤ t.limits.labelLength ∧
        t.size < t.limits.symbols ∧ t' = ⟨t.limits, t.symbols.push s⟩ := by
  rw [attempt_eq]
  split
  · next known => simp [known]
  · next new =>
    split
    · next long => simp [new, Nat.not_le.2 long]
    · next short =>
      split
      · next full => simp [new, Nat.not_lt.2 full]
      · next room =>
        simp only [new, Nat.not_lt.1 short, Nat.not_le.1 room, true_and, Prod.mk.injEq]
        exact eq_comm

/-- A definition that is refused leaves the table as it was. -/
theorem eq_of_attempt_eq_error {e : SymbolError} (refused : t.attempt s = (.error e, t')) :
    t' = t := by
  rw [attempt_eq] at refused
  split at refused
  · exact (congrArg Prod.snd refused).symm
  · split at refused
    · exact (congrArg Prod.snd refused).symm
    · split at refused
      · exact (congrArg Prod.snd refused).symm
      · cases refused

theorem fst_attempt_eq_iff {result : Except SymbolError Unit} :
    (t.attempt s).1 = result ↔ ∃ t', t.attempt s = (result, t') :=
  ⟨fun h => ⟨_, Prod.ext h rfl⟩, fun ⟨_, h⟩ => congrArg Prod.fst h⟩

/-- Why a definition is refused. -/
theorem fst_attempt_eq_error_iff {e : SymbolError} :
    (t.attempt s).1 = .error e ↔
      (∃ first, t.symbol? s.label = some first ∧ e = .duplicate s.label first.line) ∨
        t.symbol? s.label = none ∧
          (t.limits.labelLength < s.label.utf8ByteSize ∧ e = .tooLong s.label ∨
            s.label.utf8ByteSize ≤ t.limits.labelLength ∧ t.limits.symbols ≤ t.size ∧
              e = .full) := by
  rw [attempt_eq]
  split
  · next known => simp [known, eq_comm]
  · next new =>
    split
    · next long => simp [new, long, Nat.not_le.2 long, eq_comm]
    · next short =>
      split
      · next full => simp [new, short, Nat.not_lt.1 short, full, eq_comm]
      · next room => simp [new, short, room]

/-- In a table without repetitions, the symbol of a label is its definition. -/
theorem symbol?_eq_some_iff
    (distinct : ∀ s ∈ t.symbols, ∀ u ∈ t.symbols, s.label = u.label → s = u) {s : Symbol} :
    t.symbol? label = some s ↔ s ∈ t.symbols ∧ s.label = label := by
  unfold symbol?
  constructor
  · intro h
    exact ⟨Array.mem_of_find?_eq_some h, by simpa using Array.find?_some h⟩
  · rintro ⟨hs, rfl⟩
    cases found : t.symbols.find? (·.label = s.label) with
    | none => exact absurd rfl (symbol?_eq_none_iff.1 found s hs)
    | some u =>
      have same : u.label = s.label := by simpa using Array.find?_some found
      rw [distinct u (Array.mem_of_find?_eq_some found) s hs same]

theorem find?_attempt (h : t.attempt s = (.ok (), t')) : t'.find? s.label = some s.address := by
  obtain ⟨new, -, -, rfl⟩ := attempt_eq_ok_iff.1 h
  rw [symbol?] at new
  rw [find?, symbol?, Array.find?_push, new]
  simp

theorem symbol?_attempt_of_ne (h : t.attempt s = (.ok (), t')) (ne : label ≠ s.label) :
    t'.symbol? label = t.symbol? label := by
  obtain ⟨-, -, -, rfl⟩ := attempt_eq_ok_iff.1 h
  rw [symbol?, Array.find?_push, if_neg (by simpa using ne.symm), Option.or_none]
  rfl

end Sixteen.SymbolTable
