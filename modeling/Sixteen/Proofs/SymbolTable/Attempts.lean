import Sixteen.Proofs.SymbolTable
import Mathlib.Data.List.Nodup

/-!
# What a symbol table holds

Definitions are tried on a table one after the other, and some of them are refused. Whatever is
tried, the table is a record of the definitions that were taken, in their order, and a refused one
leaves nothing behind.

* `SymbolTable.after`, `SymbolTable.taken` : trying definitions one after the other;
* `SymbolTable.Sound` : labels are distinct, few and short; kept by one definition, and by any number
  of them;
* `SymbolTable.symbols_after` : what is in a table is what was taken;
* `SymbolTable.find?_eq_some_iff`, `SymbolTable.labelAt?_eq_some_iff` : what the two searches find;
* `SymbolTable.Records`, `SymbolTable.records_taken` : all that a table tells, and what it takes next.
-/

namespace Sixteen.SymbolTable

variable {t t' : SymbolTable} {label : String} {address : Word} {s : Symbol}

/-! ## Trying definitions -/

/-- The table after definitions were tried, one after the other. -/
def after (t : SymbolTable) : List Symbol → SymbolTable
  | [] => t
  | s :: rest => after (t.attempt s).2 rest

/-- Those of the definitions tried that were taken. -/
def taken (t : SymbolTable) : List Symbol → List Symbol
  | [] => []
  | s :: rest =>
    match t.attempt s with
    | (.ok (), t') => s :: taken t' rest
    | (.error _, t') => taken t' rest

/-- A definition is refused and leaves the table as it was, or it is taken and comes last. -/
theorem attempt_cases (t : SymbolTable) (s : Symbol) :
    (∃ e, t.attempt s = (.error e, t)) ∨ t.attempt s = (.ok (), ⟨t.limits, t.symbols.push s⟩) := by
  rcases tried : t.attempt s with ⟨e | ⟨⟩, t'⟩
  · obtain rfl := eq_of_attempt_eq_error tried
    exact .inl ⟨e, rfl⟩
  · obtain ⟨-, -, -, rfl⟩ := attempt_eq_ok_iff.1 tried
    exact .inr rfl

theorem limits_after (t : SymbolTable) (tried : List Symbol) :
    (t.after tried).limits = t.limits := by
  induction tried generalizing t with
  | nil => rfl
  | cons s rest ih =>
    rw [after, ih]
    obtain ⟨e, refused⟩ | took := attempt_cases t s
    · rw [refused]
    · rw [took]

/-- A table holds what it held and the definitions that it took since then. -/
theorem symbols_after (t : SymbolTable) (tried : List Symbol) :
    (t.after tried).symbols.toList = t.symbols.toList ++ t.taken tried := by
  induction tried generalizing t with
  | nil => exact (List.append_nil _).symm
  | cons s rest ih =>
    rw [after, taken, ih]
    obtain ⟨e, refused⟩ | took := attempt_cases t s
    · rw [refused]
    · rw [took]
      simp

/-! ## Soundness -/

/-- Labels are distinct, and within the limits of the table. -/
structure Sound (t : SymbolTable) : Prop where
  distinct : (t.symbols.toList.map (·.label)).Nodup
  few : t.size ≤ t.limits.symbols
  short : ∀ s ∈ t.symbols, s.label.utf8ByteSize ≤ t.limits.labelLength

theorem sound_empty (limits : Limits) : (empty limits).Sound where
  distinct := List.nodup_nil
  few := Nat.zero_le _
  short := by simp [empty]

theorem Sound.attempt (h : t.Sound) (taken : t.attempt s = (.ok (), t')) : t'.Sound := by
  obtain ⟨new, short, room, rfl⟩ := attempt_eq_ok_iff.1 taken
  refine ⟨?_, ?_, ?_⟩
  · have fresh : s.label ∉ t.symbols.toList.map (·.label) := by
      simpa using symbol?_eq_none_iff.1 new
    rw [Array.toList_push, List.map_append, List.map_singleton]
    exact List.nodup_append_comm.1 (List.nodup_cons.2 ⟨fresh, h.distinct⟩)
  · rw [size, Array.size_push]
    exact room
  · intro u hu
    rcases Array.mem_push.1 hu with old | rfl
    · exact h.short u old
    · exact short

theorem Sound.after (h : t.Sound) (tried : List Symbol) : (t.after tried).Sound := by
  induction tried generalizing t with
  | nil => exact h
  | cons s rest ih =>
    rw [SymbolTable.after]
    obtain ⟨e, refused⟩ | took := attempt_cases t s
    · rw [refused]
      exact ih h
    · have sound := h.attempt took
      rw [took]
      exact ih sound

/-! ## Searching -/

theorem find?_eq_none_iff : t.find? label = none ↔ t.symbol? label = none := by
  rw [find?, Option.map_eq_none_iff]

theorem Sound.symbol?_eq_some_iff (h : t.Sound) :
    t.symbol? label = some s ↔ s ∈ t.symbols ∧ s.label = label :=
  SymbolTable.symbol?_eq_some_iff fun a ha b hb same =>
    List.inj_on_of_nodup_map h.distinct (by simpa using ha) (by simpa using hb) same

/-- A label has the address that it is listed with. -/
theorem Sound.find?_eq_some_iff (h : t.Sound) :
    t.find? label = some address ↔ (label, address) ∈ t.entries := by
  simp only [find?, Option.map_eq_some_iff, h.symbol?_eq_some_iff, entries, List.mem_map,
    Array.mem_toList_iff, Prod.mk.injEq, and_assoc]

/-- An address has the label that was defined at it first. -/
theorem labelAt?_eq_some_iff :
    t.labelAt? address = some label ↔ ∃ before s later,
      t.symbols.toList = before ++ s :: later ∧ s.address = address ∧ s.label = label ∧
        ∀ u ∈ before, u.address ≠ address := by
  simp only [labelAt?, Option.map_eq_some_iff, ← Array.find?_toList, List.find?_eq_some_iff_append,
    decide_eq_true_eq, Bool.not_eq_true', decide_eq_false_iff_not]
  constructor
  · rintro ⟨s, ⟨here, before, later, all, others⟩, rfl⟩
    exact ⟨before, s, later, all, here, rfl, others⟩
  · rintro ⟨before, s, later, all, here, rfl, others⟩
    exact ⟨s, ⟨here, before, later, all, others⟩, rfl⟩

theorem labelAt?_eq_none_iff :
    t.labelAt? address = none ↔ ∀ s ∈ t.symbols, s.address ≠ address := by
  simp [labelAt?]

/-- A label keeps its address, whatever is defined later. -/
theorem find?_after (h : t.find? label = some address) (tried : List Symbol) :
    (t.after tried).find? label = some address := by
  obtain ⟨s, found, rfl⟩ := Option.map_eq_some_iff.1 h
  rw [symbol?, ← Array.find?_toList] at found
  rw [find?, symbol?, ← Array.find?_toList, symbols_after, List.find?_append, found]
  rfl

/-! ## All of it -/

/-- Two tables answer alike, whatever they are asked. -/
structure Alike (t u : SymbolTable) : Prop where
  find? : ∀ label, t.find? label = u.find? label
  labelAt? : ∀ address, t.labelAt? address = u.labelAt? address
  entries : t.entries = u.entries
  size : t.size = u.size
  isEmpty : t.isEmpty = u.isEmpty

/-- A table is the record of the definitions `defs`. -/
structure Records (limits : Limits) (t : SymbolTable) (defs : List Symbol) : Prop where
  distinct : (t.entries.map Prod.fst).Nodup
  few : t.size ≤ limits.symbols
  short : ∀ e ∈ t.entries, e.1.utf8ByteSize ≤ limits.labelLength
  entries : t.entries = defs.map fun s => (s.label, s.address)
  size : t.size = defs.length
  isEmpty : t.isEmpty = true ↔ defs = []
  find? : ∀ label address, t.find? label = some address ↔ (label, address) ∈ t.entries
  /-- The label of an address is the first that was defined there. -/
  labelAt? : ∀ label address, t.labelAt? address = some label ↔ ∃ before s later,
    defs = before ++ s :: later ∧ s.address = address ∧ s.label = label ∧
      ∀ u ∈ before, u.address ≠ address
  nowhere : ∀ address, t.labelAt? address = none ↔ ∀ s ∈ defs, s.address ≠ address
  takes : ∀ s, (t.attempt s).1 = .ok () ↔
    t.find? s.label = none ∧ s.label.utf8ByteSize ≤ limits.labelLength ∧ t.size < limits.symbols
  /-- A label that is known is refused, with the line of its definition. -/
  duplicate : ∀ s, (∃ first line, (t.attempt s).1 = .error (.duplicate first line)) ↔
    (t.find? s.label).isSome
  firstLine : ∀ s first line, (t.attempt s).1 = .error (.duplicate first line) ↔
    first = s.label ∧ ∃ d ∈ defs, d.label = s.label ∧ d.line = line
  tooLong : ∀ s long, (t.attempt s).1 = .error (.tooLong long) ↔
    long = s.label ∧ t.find? s.label = none ∧ limits.labelLength < s.label.utf8ByteSize
  full : ∀ s, (t.attempt s).1 = .error .full ↔
    t.find? s.label = none ∧ s.label.utf8ByteSize ≤ limits.labelLength ∧ t.size = limits.symbols
  /-- What is refused leaves no trace, neither now nor later. -/
  refused : ∀ s e, (t.attempt s).1 = .error e →
    (t.attempt s).2.Alike t ∧ ∀ tried, t.after (s :: tried) = t.after tried

theorem Sound.records (h : t.Sound) : t.Records t.limits t.symbols.toList where
  distinct := by
    rw [entries, List.map_map]
    exact h.distinct
  few := h.few
  short := by
    intro e he
    obtain ⟨s, hs, rfl⟩ := List.mem_map.1 he
    exact h.short s (by simpa using hs)
  entries := rfl
  size := rfl
  isEmpty := by simp [isEmpty]
  find? label address := h.find?_eq_some_iff
  labelAt? label address := labelAt?_eq_some_iff
  nowhere address := by simp [labelAt?_eq_none_iff]
  takes s := by
    simp only [fst_attempt_eq_iff, attempt_eq_ok_iff, find?_eq_none_iff, exists_and_left,
      exists_eq, and_true]
  duplicate s := by
    simp only [fst_attempt_eq_error_iff, find?, Option.isSome_map, Option.isSome_iff_exists]
    constructor
    · rintro ⟨first, line, ⟨u, known, -⟩ | ⟨-, ⟨-, ⟨⟩⟩ | ⟨-, -, ⟨⟩⟩⟩⟩
      exact ⟨u, known⟩
    · rintro ⟨u, known⟩
      exact ⟨_, _, .inl ⟨u, known, rfl⟩⟩
  firstLine s first line := by
    simp only [fst_attempt_eq_error_iff, h.symbol?_eq_some_iff]
    constructor
    · rintro (⟨u, ⟨known, same⟩, ⟨⟩⟩ | ⟨-, ⟨-, ⟨⟩⟩ | ⟨-, -, ⟨⟩⟩⟩)
      exact ⟨rfl, u, by simpa using known, same, rfl⟩
    · rintro ⟨rfl, u, known, same, rfl⟩
      exact .inl ⟨u, ⟨by simpa using known, same⟩, rfl⟩
  tooLong s long := by
    rw [fst_attempt_eq_error_iff, find?_eq_none_iff]
    constructor
    · rintro (⟨u, -, ⟨⟩⟩ | ⟨new, ⟨far, ⟨⟩⟩ | ⟨-, -, ⟨⟩⟩⟩)
      exact ⟨rfl, new, far⟩
    · rintro ⟨rfl, new, far⟩
      exact .inr ⟨new, .inl ⟨far, rfl⟩⟩
  full s := by
    rw [fst_attempt_eq_error_iff, find?_eq_none_iff]
    constructor
    · rintro (⟨u, -, ⟨⟩⟩ | ⟨new, ⟨-, ⟨⟩⟩ | ⟨near, full, -⟩⟩)
      exact ⟨new, near, Nat.le_antisymm h.few full⟩
    · rintro ⟨new, near, full⟩
      exact .inr ⟨new, .inr ⟨near, Nat.le_of_eq full.symm, rfl⟩⟩
  refused s e h := by
    obtain ⟨t', refused⟩ := fst_attempt_eq_iff.1 h
    obtain rfl := eq_of_attempt_eq_error refused
    refine ⟨?_, fun tried => ?_⟩
    · rw [refused]
      exact ⟨fun _ => rfl, fun _ => rfl, rfl, rfl, rfl⟩
    · rw [SymbolTable.after, refused]

/-- Whatever is tried on a new table, it is the record of what it took. -/
theorem records_taken (limits : Limits) (tried : List Symbol) :
    ((empty limits).after tried).Records limits ((empty limits).taken tried) := by
  have sound := ((sound_empty limits).after tried).records
  rw [symbols_after, limits_after] at sound
  exact sound

end Sixteen.SymbolTable
