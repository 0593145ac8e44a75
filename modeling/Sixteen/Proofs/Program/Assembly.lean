import Sixteen.Proofs.Program.Layout

/-!
# What assembling accepts, and what it makes

* `Body.word_eq_ok_iff` : the word of a body among the symbols of a table;
* `Program.symbol?_ofProgram_eq_some_iff` : the symbols of a program stand for its lines;
* `Layout.words_ofProgram_eq_ok_iff` : the layout of an admissible program has words exactly if its
  label operands can be resolved;
* `assemble_eq_ok_iff` : assembling gives the words of the program, exactly if it is well-formed;
* `Program.LaidOut` : how a program stands in its image;
* `Image.fits_of_assemble` : what is assembled fits memory;
* `assembles_iff_wellFormed` : what assembling accepts, and that it is laid out.
-/

namespace Sixteen

open Program (Admissible Resolvable WellFormed)

/-! ## Bodies -/

/-- The label `r` stands at the distance `d` from the instruction at `address`, and is in reach. -/
def Reference.At (symbols : SymbolTable) (address : Word) (d : Int) (r : Reference) : Prop :=
  ∃ target, symbols.find? r.label = some target ∧ Signed.InRange r.bits d ∧
    d = Sixteen.distance address target

theorem Target.resolve_eq_ok_iff {n : Nat} (hn : 0 < n) {target : Target n} {address : Word}
    {symbols : SymbolTable} {v : Signed n} :
    target.resolve address symbols = .ok v ↔
      ∃ d, (∀ r, target.reference? = some r → r.At symbols address d) ∧ v = target.offsetAt d := by
  cases target with
  | offset value => simp [resolve, reference?, offsetAt, eq_comm]
  | label name =>
    simp only [resolve, reference?, offsetAt, Option.some.injEq, forall_eq', Reference.At]
    cases found : symbols.find? name with
    | none => simp
    | some a =>
      simp only [Except.mapError_eq_ok_iff, Signed.ofInt?_eq_ok_iff hn, Option.some.injEq]
      constructor
      · rintro ⟨reach, rfl⟩
        exact ⟨_, ⟨a, rfl, reach, rfl⟩, rfl⟩
      · rintro ⟨_, ⟨_, rfl, reach, rfl⟩, rfl⟩
        exact ⟨reach, rfl⟩

theorem Target.map_resolve_eq_ok_iff {n : Nat} (hn : 0 < n) {target : Target n} {address : Word}
    {symbols : SymbolTable} {f : Signed n → Instr} {i : Instr} :
    (target.resolve address symbols).map f = .ok i ↔
      ∃ d, (∀ r, target.reference? = some r → r.At symbols address d) ∧
        i = f (target.offsetAt d) :=
  Except.map_eq_ok_iff_of_exists fun _ => resolve_eq_ok_iff hn

theorem Operation.resolve_eq_ok_iff {o : Operation} {address : Word} {symbols : SymbolTable}
    {i : Instr} :
    o.resolve address symbols = .ok i ↔
      ∃ d, (∀ r, o.reference? = some r → r.At symbols address d) ∧ i = o.instr d := by
  cases o with
  | br cond target => exact Target.map_resolve_eq_ok_iff (by decide)
  | jsr target => exact Target.map_resolve_eq_ok_iff (by decide)
  | ld dst target => exact Target.map_resolve_eq_ok_iff (by decide)
  | ldi dst target => exact Target.map_resolve_eq_ok_iff (by decide)
  | lea dst target => exact Target.map_resolve_eq_ok_iff (by decide)
  | st src target => exact Target.map_resolve_eq_ok_iff (by decide)
  | sti src target => exact Target.map_resolve_eq_ok_iff (by decide)
  | _ => simp [resolve, reference?, instr, eq_comm]

/-- A body has the word in which its label is replaced by its distance. -/
theorem Body.word_eq_ok_iff {b : Body} {address : Word} {symbols : SymbolTable} {w : Word} :
    b.word address symbols = .ok w ↔
      ∃ d, (∀ r, b.reference? = some r → r.At symbols address d) ∧ w = b.wordAt d := by
  cases b with
  | literal v => simp [word, reference?, wordAt, eq_comm]
  | operation o => exact Except.map_eq_ok_iff_of_exists fun _ => Operation.resolve_eq_ok_iff

/-! ## Addresses as words -/

namespace Program

variable {limits : Limits} {p : Program}

/-- Nothing that an admissible program holds lies past the end of memory. -/
theorem Admissible.address_lt (h : Admissible limits p) {i : Nat} {s : Statement}
    (hs : p[i]? = some s) (hne : s ≠ .blank) : p.address i < 2 ^ 16 := by
  have := h.room i s hs hne
  unfold address
  omega

theorem ne_blank_of_body {s : Statement} {b : Body} (hb : s.body = some b) : s ≠ .blank := by
  rintro rfl
  cases hb

theorem Admissible.address_lt_of_defines (h : Admissible limits p) {i : Nat} {name : String}
    (hi : p.Defines i name) : p.address i < 2 ^ 16 := by
  obtain ⟨s, hs, hl⟩ := hi
  refine h.address_lt hs ?_
  rintro rfl
  cases hl

theorem toNat_ofNat_of_lt {a : Nat} (ha : a < 2 ^ 16) : (BitVec.ofNat 16 a).toNat = a := by
  rw [BitVec.toNat_ofNat, Nat.mod_eq_of_lt ha]

/-- The distance of two addresses is the one of the numbers that they stand for. -/
theorem distance_ofNat {a t : Nat} (ha : a < 2 ^ 16) (ht : t < 2 ^ 16) :
    Sixteen.distance (BitVec.ofNat 16 a) (BitVec.ofNat 16 t) = t - (a + 1) := by
  rw [Sixteen.distance, toNat_ofNat_of_lt ha, toNat_ofNat_of_lt ht]

theorem mem_symbols_ofProgram {u : Symbol} :
    u ∈ (Layout.ofProgram limits p).symbols.symbols ↔
      ∃ j name, p.Defines j name ∧ u = ⟨name, BitVec.ofNat 16 (p.address j), j + 1⟩ := by
  have collected : u ∈ (Layout.ofProgram limits p).symbols.symbols ↔
      u ∈ p.collect Layout.symbolOf := by simp [Layout.ofProgram]
  rw [collected, mem_collect_iff]
  constructor
  · rintro ⟨j, s, hs, hsym⟩
    obtain ⟨name, hname, rfl⟩ := Option.map_eq_some_iff.1 hsym
    exact ⟨j, name, ⟨s, hs, hname⟩, rfl⟩
  · rintro ⟨j, name, ⟨s, hs, hname⟩, rfl⟩
    exact ⟨j, s, hs, by rw [Layout.symbolOf, hname]; rfl⟩

/-- The symbol of a label is its one definition, with the line and the address of this. -/
theorem symbol?_ofProgram_eq_some_iff (h : Admissible limits p) {name : String} {u : Symbol} :
    (Layout.ofProgram limits p).symbols.symbol? name = some u ↔
      ∃ j, p.Defines j name ∧ u = ⟨name, BitVec.ofNat 16 (p.address j), j + 1⟩ := by
  rw [SymbolTable.symbol?_eq_some_iff, mem_symbols_ofProgram]
  · constructor
    · rintro ⟨⟨j, _, hj, rfl⟩, rfl⟩
      exact ⟨j, hj, rfl⟩
    · rintro ⟨j, hj, rfl⟩
      exact ⟨⟨j, name, hj, rfl⟩, rfl⟩
  · intro u hu v hv same
    obtain ⟨i, _, hi, rfl⟩ := mem_symbols_ofProgram.1 hu
    obtain ⟨j, _, hj, rfl⟩ := mem_symbols_ofProgram.1 hv
    cases same
    rw [hi.unique h.distinct hj]

theorem find?_ofProgram_eq_some_iff (h : Admissible limits p) {name : String} {a : Word} :
    (Layout.ofProgram limits p).symbols.find? name = some a ↔
      ∃ j, p.Defines j name ∧ a = BitVec.ofNat 16 (p.address j) := by
  simp only [SymbolTable.find?, Option.map_eq_some_iff, symbol?_ofProgram_eq_some_iff h]
  constructor
  · rintro ⟨_, ⟨j, hj, rfl⟩, rfl⟩
    exact ⟨j, hj, rfl⟩
  · rintro ⟨j, hj, rfl⟩
    exact ⟨_, ⟨j, hj, rfl⟩, rfl⟩

/-! ## Words -/

theorem distance_eq (distinct : p.labels.Nodup) {b : Body} {r : Reference} {j a : Nat}
    (hr : b.reference? = some r) (hj : p.Defines j r.label) :
    p.distance a b = p.address j - (a + 1) := by
  obtain ⟨s, hs, hl⟩ := hj
  have found : p.findIdx (·.label = some r.label) < p.length :=
    List.findIdx_lt_length_of_exists ⟨s, List.mem_of_getElem? hs, by simpa using hl⟩
  have first : p.Defines (p.findIdx (·.label = some r.label)) r.label :=
    ⟨_, List.getElem?_eq_getElem found, by simpa using List.findIdx_getElem (w := found)⟩
  have same := Defines.unique distinct first ⟨s, hs, hl⟩
  simp only [distance, hr, same]

/-- A body of an admissible program has its word exactly if its label is in reach. -/
theorem word_ofProgram_eq_ok_iff (h : Admissible limits p) {a : Nat} (ha : a < 2 ^ 16) {b : Body}
    {w : Word} :
    b.word (BitVec.ofNat 16 a) (Layout.ofProgram limits p).symbols = .ok w ↔
      (∀ r, b.reference? = some r → p.InReach a r) ∧ w = b.wordAt (p.distance a b) := by
  simp only [Body.word_eq_ok_iff, Reference.At, find?_ofProgram_eq_some_iff h]
  constructor
  · rintro ⟨d, hd, rfl⟩
    cases hr : b.reference? with
    | none => exact ⟨by simp, Body.wordAt_of_no_reference hr _ _⟩
    | some r =>
      obtain ⟨_, ⟨j, hj, rfl⟩, reach, rfl⟩ := hd r hr
      rw [distance_ofNat ha (h.address_lt_of_defines hj)] at reach ⊢
      rw [distance_eq h.distinct hr hj]
      refine ⟨?_, rfl⟩
      rintro r' ⟨⟩
      exact ⟨j, hj, reach⟩
  · rintro ⟨reach, rfl⟩
    refine ⟨_, fun r hr => ?_, rfl⟩
    obtain ⟨j, hj, inRange⟩ := reach r hr
    rw [distance_eq h.distinct hr hj]
    exact ⟨_, ⟨j, hj, rfl⟩, inRange, (distance_ofNat ha (h.address_lt_of_defines hj)).symm⟩

theorem length_words (p : Program) : p.words.length = p.size :=
  length_collect (by intros; simp [Statement.occupiesWord]) p

theorem getElem?_words {i : Nat} {s : Statement} {b : Body} (hs : p[i]? = some s)
    (hb : s.body = some b) :
    p.words[size (p.take i)]? = some (b.wordAt (p.distance (p.address i) b)) :=
  getElem?_collect (by intros; simp [Statement.occupiesWord]) hs (by rw [hb]; rfl)

end Program

/-- The layout of an admissible program has words exactly if its label operands can be resolved. -/
theorem Layout.words_ofProgram_eq_ok_iff {limits : Limits} {p : Program}
    (h : Admissible limits p) {ws : List Word} :
    (ofProgram limits p).words = .ok ws ↔ p.Resolvable ∧ ws = p.words := by
  have mem : ∀ x, x ∈ (ofProgram limits p).placements.toList ↔ ∃ i s, p[i]? = some s ∧
      placementOf (i + 1) (p.address i) s = some x := fun _ => Program.mem_collect_iff
  have word : ∀ x ∈ (ofProgram limits p).placements.toList, ∀ w,
      wordOf (ofProgram limits p).symbols x = .ok w ↔
        (∀ r, x.body.reference? = some r → p.InReach x.address.toNat r) ∧
        w = x.body.wordAt (p.distance x.address.toNat x.body) := by
    intro x hx w
    rw [wordOf, Except.mapError_eq_ok_iff, ← Program.word_ofProgram_eq_ok_iff h x.address.isLt,
      BitVec.ofNat_toNat, BitVec.setWidth_eq]
  -- the address of a line as a word stands for that address
  have toNat : ∀ i s b, p[i]? = some s → s.body = some b →
      (BitVec.ofNat 16 (p.address i)).toNat = p.address i := by
    intro i s b hs hb
    exact Program.toNat_ofNat_of_lt (h.address_lt hs (Program.ne_blank_of_body hb))
  have collected : (ofProgram limits p).placements.toList.map
      (fun x => x.body.wordAt (p.distance x.address.toNat x.body)) = p.words := by
    refine (Program.map_collect _ p).trans (Program.collect_congr fun i s hs => ?_)
    cases hb : s.body with
    | none => simp [placementOf, hb]
    | some b => simp only [placementOf, hb, Option.map_some, toNat i s b hs hb]
  rw [words, Except.mapM_eq_ok_iff word, collected]
  refine and_congr_left fun _ => ?_
  constructor
  · intro all i s r hs hr
    obtain ⟨b, hb, hr⟩ := Option.bind_eq_some_iff.1 hr
    have := all _ ((mem _).2 ⟨i, s, hs, by rw [placementOf, hb]; rfl⟩) r hr
    rwa [toNat i s b hs hb] at this
  · intro resolvable x hx r hr
    obtain ⟨i, s, hs, hp⟩ := (mem x).1 hx
    obtain ⟨b, hb, rfl⟩ := Option.map_eq_some_iff.1 hp
    rw [toNat i s b hs hb]
    exact resolvable i s r hs (by rw [Statement.reference?, hb]; exact hr)

/-- Assembling gives the words of a program, exactly if it can be read and is well-formed. -/
theorem assemble_eq_ok_iff {source : String} {limits : Limits} {image : Image} :
    assemble source limits = .ok image ↔
      ∃ p, Program.Reads (Text.lines source.toList) p ∧ p.WellFormed limits ∧
        image = ⟨programOrigin, p.words⟩ := by
  unfold assemble
  simp only [Except.bind_eq_ok_iff, layout_eq_ok_iff]
  constructor
  · rintro ⟨_, ⟨p, reads, adm, rfl⟩, ws, hws, h⟩
    obtain ⟨resolvable, rfl⟩ := (Layout.words_ofProgram_eq_ok_iff adm).1 hws
    cases h
    exact ⟨p, reads, ⟨adm, resolvable⟩, rfl⟩
  · rintro ⟨p, reads, wf, rfl⟩
    exact ⟨_, ⟨p, reads, wf.toAdmissible, rfl⟩, _,
      (Layout.words_ofProgram_eq_ok_iff wf.toAdmissible).2 ⟨wf.resolvable, rfl⟩, rfl⟩

/-! ## The image of a program -/

namespace Program

/-- No program that is laid out has more words than there are addresses for. -/
theorem Admissible.size_le {limits : Limits} {p : Program} (h : Admissible limits p) :
    p.size ≤ 0xd000 := by
  induction p using List.reverseRecOn with
  | nil => exact Nat.zero_le _
  | append_singleton p s ih =>
    rw [size_append]
    cases hb : s.body with
    | none =>
      rw [size_singleton_of_no_body hb]
      exact ih h.left
    | some b =>
      have := h.follows.room (ne_blank_of_body hb)
      rw [size_singleton_of_body hb]
      omega

/-- How a program stands in its image. Addresses are natural numbers, so none of them wraps. -/
structure LaidOut (limits : Limits) (lines : List (List Char)) (p : Program) (image : Image) :
    Prop where
  /-- The first word has the address `0x3000`. -/
  origin : image.origin = 0x3000
  /-- There is a word for each line that takes one. -/
  length : image.words.length = p.size
  /-- They have addresses up to the end of memory. -/
  room : p.size ≤ 0xd000
  /-- The lines are laid out one address after the other, with labels where the next word is. -/
  addresses : ∃ l, layout limits lines = .ok l ∧
    (∀ k x, l.placements[k]? = some x → x.address.toNat = 0x3000 + k) ∧
    ∀ j name, p.Defines j name → ∃ a, l.symbols.find? name = some a ∧ a.toNat = p.address j
  /-- The word of a line comes after those of the lines before. It is the one of its body, with the
  distance of its label for the label. -/
  word : ∀ i s b d, p[i]? = some s → s.body = some b →
    (∀ r, b.reference? = some r →
      ∃ j, p.Defines j r.label ∧ d = (p.address j : Int) - (p.address i + 1)) →
    image.words[size (p.take i)]? = some (b.wordAt d)

/-- The k-th body of a program has the k-th address. -/
theorem toNat_address_ofProgram {limits : Limits} {p : Program} (h : Admissible limits p) {k : Nat}
    {x : Placement} (hx : (Layout.ofProgram limits p).placements[k]? = some x) :
    x.address.toNat = 0x3000 + k := by
  induction p using List.reverseRecOn with
  | nil => simp [Layout.ofProgram, collect, collectFrom] at hx
  | append_singleton p s ih =>
    rw [Layout.ofProgram_concat] at hx
    cases hb : s.body with
    | none =>
      rw [Layout.placementOf, hb] at hx
      exact ih h.left (by simpa using hx)
    | some b =>
      rw [Layout.placementOf, hb, Option.map_some, Option.toList_some, Array.appendList_cons,
        Array.appendList_nil, Array.getElem?_push, Layout.size_placements_ofProgram] at hx
      split at hx
      · next last =>
        cases hx
        have := h.follows.room (ne_blank_of_body hb)
        rw [address, List.take_length, BitVec.toNat_ofNat, last]
        omega
      · exact ih h.left hx

theorem WellFormed.laidOut {limits : Limits} {lines : List (List Char)} {p : Program}
    (h : p.WellFormed limits) (reads : Program.Reads lines p) :
    LaidOut limits lines p ⟨programOrigin, p.words⟩ where
  origin := rfl
  length := length_words p
  room := h.toAdmissible.size_le
  addresses := by
    refine ⟨.ofProgram limits p, layout_eq_ok_iff.2 ⟨p, reads, h.toAdmissible, rfl⟩, ?_, ?_⟩
    · intro k x hx
      exact toNat_address_ofProgram h.toAdmissible hx
    · intro j name hj
      refine ⟨_, (find?_ofProgram_eq_some_iff h.toAdmissible).2 ⟨j, hj, rfl⟩, ?_⟩
      exact toNat_ofNat_of_lt (h.toAdmissible.address_lt_of_defines hj)
  word i s b d hs hb hd := by
    rw [getElem?_words hs hb]
    cases hr : b.reference? with
    | none => rw [Body.wordAt_of_no_reference hr]
    | some r =>
      obtain ⟨j, hj, rfl⟩ := hd r hr
      rw [distance_eq h.distinct hr hj]

end Program

theorem Image.fits_of_assemble {source : String} {limits : Limits} {o : Image}
    (h : assemble source limits = .ok o) : o.Fits := by
  obtain ⟨p, -, wf, rfl⟩ := assemble_eq_ok_iff.1 h
  have := wf.toAdmissible.size_le
  show 0x3000 + p.words.length ≤ 0x10000
  rw [Program.length_words]
  omega

/-- The assembler takes exactly the sources of well-formed programs, and lays them out. -/
theorem assembles_iff_wellFormed (source : String) (limits : Limits) :
    ((∃ image, assemble source limits = .ok image) ↔
      ∃ p, Program.Reads (Text.lines source.toList) p ∧ p.WellFormed limits) ∧
    ∀ image p, assemble source limits = .ok image → Program.Reads (Text.lines source.toList) p →
      Program.LaidOut limits (Text.lines source.toList) p image := by
  constructor
  · constructor
    · rintro ⟨image, h⟩
      obtain ⟨p, reads, wf, -⟩ := assemble_eq_ok_iff.1 h
      exact ⟨p, reads, wf⟩
    · rintro ⟨p, reads, wf⟩
      exact ⟨_, assemble_eq_ok_iff.2 ⟨p, reads, wf, rfl⟩⟩
  · intro image p h reads
    obtain ⟨q, readsToo, wf, rfl⟩ := assemble_eq_ok_iff.1 h
    cases reads.unique readsToo
    exact wf.laidOut reads

end Sixteen
