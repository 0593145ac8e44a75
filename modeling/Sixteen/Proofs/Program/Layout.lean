import Sixteen.Proofs.Program.Basic
import Sixteen.Proofs.SymbolTable
import Mathlib.Data.List.Nodup

/-!
# The layout of a program

Reading lines one after the other computes a layout that depends on the statements alone, and fails
unless they are admissible. The invariant is an equation: the layout after the lines of `p` is
`Layout.ofProgram limits p`.

* `Layout.ofProgram` : the symbols and the bodies of a program, with their lines and addresses;
* `Layout.addLine_ofProgram_eq_ok_iff` : one line takes the layout of `p` to the layout of `p` and
  its statement;
* `layout_eq_ok_iff` : the lines of a program are laid out exactly if they can be read and are
  admissible.
-/

namespace Sixteen

open Program (Admissible)

/-! ## Admissible programs, statement by statement -/

namespace Program

variable {limits : Limits} {p q : Program} {s : Statement}

/-- What `s` must be like to come after the lines of `p`. -/
structure Follows (limits : Limits) (p : Program) (s : Statement) : Prop where
  label : ∀ name, s.label = some name →
    name ∉ p.labels ∧ name.utf8ByteSize ≤ limits.labelLength ∧ p.labels.length < limits.symbols
  room : s ≠ .blank → p.size < 0xd000

theorem admissible_nil (limits : Limits) : Admissible limits [] where
  distinct := List.nodup_nil
  few := Nat.zero_le _
  short := by simp
  room := by simp

theorem Admissible.left (h : Admissible limits (p ++ q)) : Admissible limits p where
  distinct := by
    have := h.distinct
    rw [labels_append] at this
    exact (List.nodup_append.1 this).1
  few := by
    have := h.few
    rw [labels_append, List.length_append] at this
    omega
  short name hname := h.short name (by simp [hname])
  room i s hs hne := by
    obtain ⟨hi, -⟩ := List.getElem?_eq_some_iff.1 hs
    have := h.room i s (by rw [List.getElem?_append_left hi, hs]) hne
    rwa [List.take_append_of_le_length (Nat.le_of_lt hi)] at this

theorem Admissible.follows (h : Admissible limits (p ++ [s])) : Follows limits p s where
  label name hname := by
    have hs : labels [s] = [name] := by rw [labels_singleton, hname]; rfl
    have distinct := h.distinct
    have few := h.few
    rw [labels_append, hs] at distinct few
    refine ⟨fun old => ?_, h.short name (by simp [hs]), ?_⟩
    · exact (List.nodup_append.1 distinct).2.2 name old name (List.mem_singleton_self _) rfl
    · exact Nat.lt_of_succ_le (by simpa using few)
  room hne := by
    have := h.room p.length s (by simp) hne
    rwa [List.take_left'] at this
    rfl

theorem Admissible.concat (h : Admissible limits p) (hs : Follows limits p s) :
    Admissible limits (p ++ [s]) where
  distinct := by
    rw [labels_append, labels_singleton]
    cases hl : s.label with
    | none => simpa using h.distinct
    | some name =>
      refine List.nodup_append.2 ⟨h.distinct, List.nodup_singleton _, ?_⟩
      rintro old hold new hnew rfl
      rw [Option.toList_some, List.mem_singleton] at hnew
      exact (hs.label name hl).1 (hnew ▸ hold)
  few := by
    rw [labels_append, labels_singleton, List.length_append]
    cases hl : s.label with
    | none => simpa using h.few
    | some name => exact (hs.label name hl).2.2
  short name hname := by
    rw [labels_append, labels_singleton, List.mem_append] at hname
    rcases hname with old | new
    · exact h.short name old
    · exact (hs.label name (by simpa using new)).2.1
  room i t ht hne := by
    rcases Nat.lt_or_ge i p.length with hi | hi
    · rw [List.getElem?_append_left hi] at ht
      rw [List.take_append_of_le_length (Nat.le_of_lt hi)]
      exact h.room i t ht hne
    · rw [List.getElem?_append_right hi, List.getElem?_singleton] at ht
      split at ht
      · cases ht
        rw [show i = p.length by omega, List.take_left' rfl]
        exact hs.room hne
      · cases ht

end Program

/-! ## The layout of the statements -/

namespace Layout

variable {limits : Limits} {p : Program} {s : Statement}

/-- The symbol that a line defines. -/
def symbolOf (line address : Nat) (s : Statement) : Option Symbol :=
  s.label.map fun name => ⟨name, BitVec.ofNat 16 address, line⟩

/-- The place of the body of a line. -/
def placementOf (line address : Nat) (s : Statement) : Option Placement :=
  s.body.map fun body => ⟨line, BitVec.ofNat 16 address, body⟩

/-- The layout of a program. -/
def ofProgram (limits : Limits) (p : Program) : Layout :=
  ⟨⟨limits, (p.collect symbolOf).toArray⟩, (p.collect placementOf).toArray⟩

theorem ofProgram_nil (limits : Limits) : ofProgram limits [] = .empty limits := rfl

theorem ofProgram_concat (limits : Limits) (p : Program) (s : Statement) :
    ofProgram limits (p ++ [s]) =
      ⟨⟨limits, (ofProgram limits p).symbols.symbols ++
          (symbolOf (p.length + 1) (p.address p.length) s).toList⟩,
        (ofProgram limits p).placements ++
          (placementOf (p.length + 1) (p.address p.length) s).toList⟩ := by
  simp [ofProgram, Program.collect_concat]

theorem size_placements_ofProgram (limits : Limits) (p : Program) :
    (ofProgram limits p).placements.size = p.size :=
  Program.length_collect (by intros; simp [placementOf, Statement.occupiesWord]) p

theorem map_label_ofProgram (limits : Limits) (p : Program) :
    (ofProgram limits p).symbols.symbols.toList.map (·.label) = p.labels := by
  refine (Program.map_collect _ p).trans (Program.collect_eq_filterMap ?_ p)
  intros
  simp [symbolOf, Function.comp_def]

theorem size_symbols_ofProgram (limits : Limits) (p : Program) :
    (ofProgram limits p).symbols.size = p.labels.length := by
  rw [← map_label_ofProgram limits, List.length_map, Array.length_toList]
  rfl

theorem symbol?_ofProgram_eq_none_iff {name : String} :
    (ofProgram limits p).symbols.symbol? name = none ↔ name ∉ p.labels := by
  rw [SymbolTable.symbol?_eq_none_iff, ← map_label_ofProgram limits]
  simp

/-- The next body has the address of the end of the program. -/
theorem next_ofProgram (limits : Limits) (p : Program) :
    (ofProgram limits p).next = BitVec.ofNat 16 (p.address p.length) := by
  rw [next, size_placements_ofProgram, Program.address, List.take_length, BitVec.ofNat_add]
  rfl

/-! ## One line -/

theorem addLabel_some_eq_ok_iff {l l' : Layout} {line : Nat} {name : String} :
    l.addLabel line (some name) = .ok l' ↔
      ∃ t, l.symbols.attempt ⟨name, l.next, line⟩ = (.ok (), t) ∧ l' = ⟨t, l.placements⟩ := by
  rw [addLabel]
  rcases l.symbols.attempt ⟨name, l.next, line⟩ with ⟨_ | _, _⟩ <;> simp [eq_comm]

theorem addStatement_eq_ok_iff {l l' : Layout} {line : Nat} :
    l.addStatement line s = .ok l' ↔
      l.placements.size < capacity ∧
        ∃ k, l.addLabel line s.label = .ok k ∧ l' = k.addBody line s.body := by
  unfold addStatement
  split
  · next room => cases l.addLabel line s.label <;> simp [room, eq_comm]
  · next full => simp [full]

theorem addLabel_ofProgram_eq_ok_iff {l : Layout} :
    (ofProgram limits p).addLabel (p.length + 1) s.label = .ok l ↔
      (∀ name, s.label = some name →
        name ∉ p.labels ∧ name.utf8ByteSize ≤ limits.labelLength ∧
          p.labels.length < limits.symbols) ∧
      l = ⟨(ofProgram limits (p ++ [s])).symbols, (ofProgram limits p).placements⟩ := by
  rw [ofProgram_concat]
  cases hl : s.label with
  | none => simp [addLabel, symbolOf, hl, ofProgram, eq_comm]
  | some name =>
    simp only [addLabel_some_eq_ok_iff, SymbolTable.attempt_eq_ok_iff,
      symbol?_ofProgram_eq_none_iff, size_symbols_ofProgram, next_ofProgram, Option.some.injEq,
      forall_eq', symbolOf, hl, Option.map_some, Option.toList_some]
    constructor
    · rintro ⟨t, ⟨new, short, room, rfl⟩, rfl⟩
      exact ⟨⟨new, short, room⟩, by simp [ofProgram]⟩
    · rintro ⟨⟨new, short, room⟩, rfl⟩
      exact ⟨_, ⟨new, short, room, rfl⟩, by simp [ofProgram]⟩

theorem addBody_ofProgram (limits : Limits) (p : Program) (s : Statement) :
    addBody ⟨(ofProgram limits (p ++ [s])).symbols, (ofProgram limits p).placements⟩
      (p.length + 1) s.body = ofProgram limits (p ++ [s]) := by
  have next_eq : next ⟨(ofProgram limits (p ++ [s])).symbols, (ofProgram limits p).placements⟩ =
      BitVec.ofNat 16 (p.address p.length) := next_ofProgram limits p
  rw [ofProgram_concat] at next_eq ⊢
  cases hb : s.body with
  | none => simp [addBody, placementOf, hb]
  | some b => simp [addBody, placementOf, hb, next_eq]

/-- A statement takes the layout of `p` to that of `p` and the statement, if it may follow. -/
theorem addStatement_ofProgram_eq_ok_iff {l : Layout} (hs : s ≠ .blank) :
    (ofProgram limits p).addStatement (p.length + 1) s = .ok l ↔
      Program.Follows limits p s ∧ l = ofProgram limits (p ++ [s]) := by
  rw [addStatement_eq_ok_iff, size_placements_ofProgram]
  simp only [addLabel_ofProgram_eq_ok_iff]
  constructor
  · rintro ⟨room, _, ⟨label, rfl⟩, rfl⟩
    exact ⟨⟨label, fun _ => room⟩, addBody_ofProgram limits p s⟩
  · rintro ⟨⟨label, room⟩, rfl⟩
    exact ⟨room hs, _, ⟨label, rfl⟩, (addBody_ofProgram limits p s).symm⟩

theorem ofProgram_concat_blank (limits : Limits) (p : Program) :
    ofProgram limits (p ++ [.blank]) = ofProgram limits p := by
  rw [ofProgram_concat]
  simp [symbolOf, placementOf, Statement.blank, ofProgram]

/-- A line takes the layout of `p` to that of `p` and what the line holds, if that may follow. -/
theorem addLine_ofProgram_eq_ok_iff {text : List Char} {l : Layout} :
    (ofProgram limits p).addLine (p.length + 1) text = .ok l ↔
      ∃ s, Statement.Reads text s ∧ Program.Follows limits p s ∧
        l = ofProgram limits (p ++ [s]) := by
  unfold addLine Statement.Reads
  by_cases blank : normalize text = []
  · have follows : Program.Follows limits p .blank := ⟨by simp [Statement.blank], by simp⟩
    simp [blank, follows, ofProgram_concat_blank, eq_comm]
  · simp only [List.isEmpty_iff, blank, if_false]
    cases parsed : Statement.parse (normalize text) with
    | error e => simp
    | ok s =>
      have hs : s ≠ .blank := Statement.ne_blank_of_parse blank parsed
      simp [addStatement_ofProgram_eq_ok_iff hs]

/-! ## All lines -/

theorem addLines_cons_eq_ok_iff {l l' : Layout} {line : Nat} {text : List Char}
    {rest : List (List Char)} :
    l.addLines line (text :: rest) = .ok l' ↔
      ∃ k, l.addLine line text = .ok k ∧ k.addLines (line + 1) rest = .ok l' := by
  rw [addLines]
  cases l.addLine line text <;> simp

/-- Lines take the layout of `p` to that of `p` and what the lines hold, if that is admissible. -/
theorem addLines_ofProgram_eq_ok_iff {lines : List (List Char)} {l : Layout}
    (hp : Admissible limits p) :
    (ofProgram limits p).addLines (p.length + 1) lines = .ok l ↔
      ∃ q, Program.Reads lines q ∧ Admissible limits (p ++ q) ∧ l = ofProgram limits (p ++ q) := by
  induction lines generalizing p with
  | nil => simp [addLines, Program.Reads, hp, eq_comm]
  | cons text rest ih =>
    rw [addLines_cons_eq_ok_iff]
    constructor
    · rintro ⟨k, hk, h⟩
      obtain ⟨s, reads, follows, rfl⟩ := addLine_ofProgram_eq_ok_iff.1 hk
      rw [← List.length_concat (a := s), List.concat_eq_append] at h
      obtain ⟨q, hq, adm, rfl⟩ := (ih (hp.concat follows)).1 h
      rw [List.append_assoc] at adm ⊢
      exact ⟨s :: q, .cons reads hq, adm, rfl⟩
    · rintro ⟨q, hq, adm, rfl⟩
      obtain ⟨s, q, reads, readsRest, rfl⟩ := List.forall₂_cons_left_iff.1 hq
      rw [← List.singleton_append, ← List.append_assoc] at adm
      refine ⟨_, addLine_ofProgram_eq_ok_iff.2 ⟨s, reads, adm.left.follows, rfl⟩, ?_⟩
      rw [← List.length_concat (a := s), List.concat_eq_append]
      exact (ih adm.left).2 ⟨q, readsRest, adm, by rw [List.append_assoc, List.singleton_append]⟩

end Layout

/-- The lines of a program have a layout exactly if they can be read and are admissible. -/
theorem layout_eq_ok_iff {limits : Limits} {lines : List (List Char)} {l : Layout} :
    layout limits lines = .ok l ↔
      ∃ p, Program.Reads lines p ∧ Admissible limits p ∧ l = .ofProgram limits p := by
  rw [layout, ← Layout.ofProgram_nil]
  exact Layout.addLines_ofProgram_eq_ok_iff (Program.admissible_nil limits)

end Sixteen
