import Sixteen.Assembly
import Sixteen.Proofs.Operand.Range
import Sixteen.Proofs.Statement.Reference
import Mathlib.Data.List.Forall2
import Mathlib.Data.List.Induction

/-!
# Programs as lists of statements

What a program means is said here of its statements alone, one for each line, with addresses as
natural numbers. Nothing in it reads lines in order or keeps a table.

* `Program.Reads` : the lines of a text hold the statements of a program;
* `Program.size`, `Program.address` : the number of words, and the address of a line, which is
  `0x3000` plus the number of words before it;
* `Program.labels`, `Program.Defines` : the labels, and the lines that define them;
* `Program.WellFormed` : `Program.Admissible` (labels and size) and `Program.Resolvable` (label
  operands);
* `Program.words` : the words of a program;
* `Program.collect` : what the lines of a program give, with their numbers and addresses.
-/

namespace Sixteen

/-! ## Lines -/

/-- A program, by the statements of its lines. -/
abbrev Program := List Statement

namespace Program

/-- The lines of a text hold the statements of a program, one for one. -/
def Reads (lines : List (List Char)) (p : Program) : Prop :=
  List.Forall₂ Statement.Reads lines p

theorem Reads.unique {lines : List (List Char)} {p q : Program} (hp : Program.Reads lines p)
    (hq : Program.Reads lines q) : p = q := by
  refine Relator.RightUnique.forall₂ ?_ hp hq
  intro line s t hs ht
  exact Statement.Reads.unique hs ht

/-- A statement of a program is what its line holds. -/
theorem Reads.line {lines : List (List Char)} {p : Program} (h : Program.Reads lines p) {i : Nat}
    {s : Statement} (hs : p[i]? = some s) :
    ∃ line, lines[i]? = some line ∧ Statement.Reads line s := by
  induction h generalizing i with
  | nil => cases hs
  | cons head tail ih =>
    cases i with
    | zero =>
      cases hs
      exact ⟨_, rfl, head⟩
    | succ i => exact ih hs

/-! ## Words and addresses -/

/-- The number of words of a program. -/
def size (p : Program) : Nat :=
  p.countP Statement.occupiesWord

/-- The address of the line number `i`, counted from 0, or of the end if there is no such line. -/
def address (p : Program) (i : Nat) : Nat :=
  0x3000 + size (p.take i)

@[simp] theorem size_nil : size [] = 0 := rfl

theorem size_cons (s : Statement) (p : Program) : size (s :: p) = size [s] + size p := by
  rw [size, size, size, List.countP_cons, List.countP_singleton, Nat.add_comm]

@[simp] theorem size_append (p q : Program) : size (p ++ q) = p.size + q.size :=
  List.countP_append

theorem size_singleton_of_body {s : Statement} {b : Body} (h : s.body = some b) :
    size [s] = 1 := by
  simp [size, Statement.occupiesWord, h]

theorem size_singleton_of_no_body {s : Statement} (h : s.body = none) : size [s] = 0 := by
  simp [size, Statement.occupiesWord, h]

/-- A line that takes a word lies before the end of the program. -/
theorem size_take_lt_of_body {p : Program} {i : Nat} {s : Statement} {b : Body}
    (hs : p[i]? = some s) (hb : s.body = some b) : size (p.take i) < p.size := by
  obtain ⟨hi, rfl⟩ := List.getElem?_eq_some_iff.1 hs
  have split : p.take i ++ [p[i]] ++ p.drop (i + 1) = p := by simp
  calc size (p.take i)
      < size (p.take i) + size [p[i]] := by rw [size_singleton_of_body hb]; omega
    _ ≤ size (p.take i ++ [p[i]] ++ p.drop (i + 1)) := by simp only [size_append]; omega
    _ = p.size := by rw [split]

/-! ## Labels -/

/-- The labels of a program, in the order of their definitions. -/
def labels (p : Program) : List String :=
  p.filterMap (·.label)

/-- The line number `i` defines the label `name`. -/
def Defines (p : Program) (i : Nat) (name : String) : Prop :=
  ∃ s, p[i]? = some s ∧ s.label = some name

@[simp] theorem labels_nil : labels [] = [] := rfl

@[simp] theorem labels_append (p q : Program) : labels (p ++ q) = p.labels ++ q.labels :=
  List.filterMap_append

theorem labels_singleton (s : Statement) : labels [s] = s.label.toList := by
  unfold labels
  cases h : s.label <;> simp [h]

/-- Where labels are distinct, a label has one line. -/
theorem Defines.unique {p : Program} (distinct : p.labels.Nodup) {i j : Nat} {name : String}
    (hi : p.Defines i name) (hj : p.Defines j name) : i = j := by
  obtain ⟨s, hs, hsl⟩ := hi
  obtain ⟨t, ht, htl⟩ := hj
  obtain ⟨hi, rfl⟩ := List.getElem?_eq_some_iff.1 hs
  obtain ⟨hj, rfl⟩ := List.getElem?_eq_some_iff.1 ht
  have apart := List.pairwise_iff_getElem.1 (List.pairwise_filterMap.1 distinct)
  rcases Nat.lt_trichotomy i j with lt | eq | gt
  · exact absurd rfl (apart i j hi hj lt name hsl name htl)
  · exact eq
  · exact absurd rfl (apart j i hj hi gt name htl name hsl)

/-! ## Well-formed programs -/

/-- What labels and size must be like: no label is defined twice, there are not too many, none is
too long, and nothing stands behind the last word of memory, not even a label. -/
structure Admissible (limits : Limits) (p : Program) : Prop where
  distinct : p.labels.Nodup
  few : p.labels.length ≤ limits.symbols
  short : ∀ name ∈ p.labels, name.utf8ByteSize ≤ limits.labelLength
  room : ∀ i s, p[i]? = some s → s ≠ .blank → size (p.take i) < 0xd000

/-- The label of `r` is defined, and the field of `r` holds its distance from the address after
`a`. -/
def InReach (p : Program) (a : Nat) (r : Reference) : Prop :=
  ∃ j, p.Defines j r.label ∧ Signed.InRange r.bits (p.address j - (a + 1))

/-- Every label operand names a label that is defined and in reach. -/
def Resolvable (p : Program) : Prop :=
  ∀ i s r, p[i]? = some s → s.reference? = some r → p.InReach (p.address i) r

/-- What assembling asks of a program. -/
structure WellFormed (limits : Limits) (p : Program) : Prop extends Admissible limits p where
  resolvable : p.Resolvable

/-! ## Going through a program -/

section
variable {α β : Type} (f : (line address : Nat) → Statement → Option α)

/-- What `f` gives for the statements, from a line number and an address on. -/
def collectFrom (line address : Nat) : Program → List α
  | [] => []
  | s :: rest =>
    (f line address s).toList ++ collectFrom (line + 1) (address + size [s]) rest

/-- What `f` gives for the statements of a program. -/
def collect (p : Program) : List α :=
  p.collectFrom f 1 0x3000

variable {f}

theorem collectFrom_append (line address : Nat) (p q : Program) :
    (p ++ q).collectFrom f line address =
      p.collectFrom f line address ++ q.collectFrom f (line + p.length) (address + p.size) := by
  induction p generalizing line address with
  | nil => simp [collectFrom]
  | cons s rest ih =>
    rw [List.cons_append, collectFrom, collectFrom, ih, List.append_assoc, List.length_cons,
      size_cons s rest, Nat.add_assoc line, Nat.add_comm 1, Nat.add_assoc address]

theorem collect_concat (p : Program) (s : Statement) :
    (p ++ [s]).collect f = p.collect f ++ (f (p.length + 1) (p.address p.length) s).toList := by
  rw [collect, collectFrom_append, collectFrom, collectFrom, List.append_nil, address,
    List.take_length, Nat.add_comm 1]
  rfl

theorem mem_collectFrom_iff {line address : Nat} {p : Program} {x : α} :
    x ∈ p.collectFrom f line address ↔
      ∃ i s, p[i]? = some s ∧ f (line + i) (address + size (p.take i)) s = some x := by
  induction p generalizing line address with
  | nil => simp [collectFrom]
  | cons s rest ih =>
    rw [collectFrom, List.mem_append, Option.mem_toList, ih]
    constructor
    · rintro (h | ⟨i, t, ht, h⟩)
      · exact ⟨0, s, rfl, h⟩
      · refine ⟨i + 1, t, ht, ?_⟩
        rwa [List.take_succ_cons, size_cons, ← Nat.add_assoc, ← Nat.add_assoc, Nat.add_right_comm]
    · rintro ⟨i, t, ht, h⟩
      cases i with
      | zero =>
        cases ht
        exact .inl h
      | succ i =>
        refine .inr ⟨i, t, ht, ?_⟩
        rwa [List.take_succ_cons, size_cons, ← Nat.add_assoc, ← Nat.add_assoc,
          Nat.add_right_comm] at h

theorem mem_collect_iff {p : Program} {x : α} :
    x ∈ p.collect f ↔ ∃ i s, p[i]? = some s ∧ f (i + 1) (p.address i) s = some x := by
  simp only [collect, mem_collectFrom_iff, address, Nat.add_comm 1]

theorem map_collectFrom (g : α → β) (line address : Nat) (p : Program) :
    (p.collectFrom f line address).map g =
      p.collectFrom (fun n a s => (f n a s).map g) line address := by
  induction p generalizing line address with
  | nil => rfl
  | cons s rest ih => rw [collectFrom, collectFrom, List.map_append, ih, ← Option.toList_map]

theorem collectFrom_eq_filterMap {h : Statement → Option α} (hf : ∀ n a s, f n a s = h s)
    (line address : Nat) (p : Program) : p.collectFrom f line address = p.filterMap h := by
  induction p generalizing line address with
  | nil => rfl
  | cons s rest ih =>
    rw [collectFrom, hf, ih]
    cases hs : h s <;> simp [hs]

theorem map_collect (g : α → β) (p : Program) :
    (p.collect f).map g = p.collect fun n a s => (f n a s).map g :=
  map_collectFrom g 1 0x3000 p

/-- What does not depend on lines and addresses is what `filterMap` gives. -/
theorem collect_eq_filterMap {h : Statement → Option α} (hf : ∀ n a s, f n a s = h s)
    (p : Program) : p.collect f = p.filterMap h :=
  collectFrom_eq_filterMap hf 1 0x3000 p

/-- Only the lines and addresses of the program itself matter. -/
theorem collect_congr {g : (line address : Nat) → Statement → Option α} {p : Program}
    (h : ∀ i s, p[i]? = some s → f (i + 1) (p.address i) s = g (i + 1) (p.address i) s) :
    p.collect f = p.collect g := by
  induction p using List.reverseRecOn with
  | nil => rfl
  | append_singleton p s ih =>
    have last := h p.length s (by simp)
    rw [address, List.take_left' rfl] at last
    rw [collect_concat, collect_concat, ih, address, List.take_length, last]
    intro i t ht
    obtain ⟨hi, -⟩ := List.getElem?_eq_some_iff.1 ht
    have := h i t (by rw [List.getElem?_append_left hi, ht])
    rwa [address, List.take_append_of_le_length (Nat.le_of_lt hi)] at this

/-- One thing for each word. -/
theorem length_collectFrom (hf : ∀ n a s, (f n a s).isSome = s.occupiesWord) (line address : Nat)
    (p : Program) : (p.collectFrom f line address).length = p.size := by
  induction p generalizing line address with
  | nil => rfl
  | cons s rest ih =>
    have head := hf line address s
    rw [collectFrom, List.length_append, ih, size_cons]
    congr 1
    cases hx : f line address s <;> rw [hx] at head <;> simp [size, ← head]

theorem length_collect (hf : ∀ n a s, (f n a s).isSome = s.occupiesWord) (p : Program) :
    (p.collect f).length = p.size :=
  length_collectFrom hf 1 0x3000 p

/-- What is collected before a line, of the line and behind it. -/
theorem collect_split {p : Program} {i : Nat} {s : Statement} (hs : p[i]? = some s) :
    p.collect f = collect f (p.take i) ++ ((f (i + 1) (p.address i) s).toList ++
      collectFrom f (i + 1 + 1) (p.address i + size [s]) (p.drop (i + 1))) := by
  obtain ⟨hi, rfl⟩ := List.getElem?_eq_some_iff.1 hs
  have split : p = p.take i ++ p[i] :: p.drop (i + 1) := by simp
  have length_take : (p.take i).length = i := List.length_take_of_le (Nat.le_of_lt hi)
  conv => lhs; rw [split]
  rw [collect, collectFrom_append, length_take, collectFrom, Nat.add_comm 1 i, ← address]
  rfl

/-- Where one thing is collected for each word, a line's stands behind those of the words before. -/
theorem getElem?_collect (hf : ∀ n a s, (f n a s).isSome = s.occupiesWord) {p : Program} {i : Nat}
    {s : Statement} {x : α} (hs : p[i]? = some s) (hx : f (i + 1) (p.address i) s = some x) :
    (p.collect f)[size (p.take i)]? = some x := by
  rw [collect_split hs, hx, List.getElem?_append_right (Nat.le_of_eq (length_collect hf _)),
    length_collect hf, Nat.sub_self]
  rfl

/-- What the lines before a line give. -/
theorem mem_collect_take_iff {p : Program} {i : Nat} {x : α} :
    x ∈ collect f (p.take i) ↔
      ∃ j < i, ∃ s, p[j]? = some s ∧ f (j + 1) (p.address j) s = some x := by
  have same : ∀ j < i, address (p.take i) j = p.address j := by
    intro j hj
    rw [address, address, List.take_take, Nat.min_eq_left (Nat.le_of_lt hj)]
  rw [mem_collect_iff]
  constructor
  · rintro ⟨j, s, hs, hx⟩
    rw [List.getElem?_take] at hs
    split at hs
    · next hj => exact ⟨j, hj, s, hs, by rwa [same j hj] at hx⟩
    · cases hs
  · rintro ⟨j, hj, s, hs, hx⟩
    exact ⟨j, s, by rwa [List.getElem?_take_of_lt hj], by rwa [same j hj]⟩

/-- What is collected belongs to a line, and what is collected before it to the lines before. -/
theorem exists_of_collect_eq_append_cons {p : Program} {before after : List α} {x : α}
    (h : p.collect f = before ++ x :: after) :
    ∃ i s, p[i]? = some s ∧ f (i + 1) (p.address i) s = some x ∧ before = collect f (p.take i) := by
  induction p using List.reverseRecOn generalizing after with
  | nil => simp [collect, collectFrom] at h
  | append_singleton p s ih =>
    have earlier : ∀ {after : List α}, collect f p = before ++ x :: after → ∃ i t,
        (p ++ [s])[i]? = some t ∧ f (i + 1) (address (p ++ [s]) i) t = some x ∧
          before = collect f ((p ++ [s]).take i) := by
      intro after h
      obtain ⟨i, t, ht, hx, same⟩ := ih h
      obtain ⟨hi, -⟩ := List.getElem?_eq_some_iff.1 ht
      have take : (p ++ [s]).take i = p.take i := List.take_append_of_le_length (Nat.le_of_lt hi)
      refine ⟨i, t, by rw [List.getElem?_append_left hi, ht], ?_, by rw [take, same]⟩
      rwa [address, take]
    rw [collect_concat] at h
    cases last : f (p.length + 1) (address p p.length) s with
    | none => exact earlier (by simpa [last] using h)
    | some y =>
      rw [last, Option.toList_some] at h
      rcases List.eq_nil_or_concat' after with rfl | ⟨init, z, rfl⟩
      · obtain ⟨same, ⟨⟩⟩ := List.append_inj' h rfl
        refine ⟨p.length, s, by simp, ?_, by rw [List.take_left' rfl, same]⟩
        rw [address, List.take_left' rfl, ← last, address, List.take_length]
      · rw [← List.cons_append, ← List.append_assoc] at h
        exact earlier (List.append_inj' h rfl).1

end

/-! ## The words of a program -/

/-- The distance of the label operand of `b`, if it has one, from the address after `a`. -/
def distance (p : Program) (a : Nat) (b : Body) : Int :=
  match b.reference? with
  | some r => p.address (p.findIdx (·.label = some r.label)) - (a + 1)
  | none => 0

/-- The words of a program. -/
def words (p : Program) : List Word :=
  p.collect fun _ a s => s.body.map fun b => b.wordAt (p.distance a b)

end Program

end Sixteen
