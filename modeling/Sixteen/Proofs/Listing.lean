import Sixteen.Proofs.Instr.Text
import Sixteen.Proofs.Program.Assembly
import Sixteen.Proofs.Text.Lines
import Mathlib.Data.List.TakeWhile
import Mathlib.Tactic.Choose

/-!
# Listings are assembled again

* `Spells.reads` : a text whose parts spell a body is a line that holds it;
* `Listing.spells_statement` : the assembly text of a word spells a body with that word;
* `Listing.assemble_statements` : the texts of words are assembled to these words;
* `Listing.lines_disassemble` : the lines of a listing;
* `disassemble_assemble` : both for all words.
-/

namespace Sixteen

/-! ## Lines of plain characters -/

theorem toNat_lt_of_isPlain {c : Char} (h : isPlain c = true) : c.toNat < 128 := by
  simp only [isPlain, Bool.and_eq_true, decide_eq_true_eq] at h
  have top : c.toNat ≤ '~'.toNat := h.1.1.2
  exact Nat.lt_of_le_of_lt top (by decide)

theorem isBlank_eq_false_of_isPlain {c : Char} (h : isPlain c = true) : Text.isBlank c = false := by
  have ascii := toNat_lt_of_isPlain h
  revert h
  exact forall_ascii (P := fun c => isPlain c = true → Text.isBlank c = false) (by decide +kernel)
    ascii

/-- A line that is read as a whole: it has no comment, no colon and no ending in it, and no blanks at
its ends. -/
structure Whole (line : List Char) : Prop where
  nonempty : line ≠ []
  inner : ∀ c ∈ line, c = ' ' ∨ isPlain c = true
  first : ∀ c ∈ line.head?, isPlain c = true
  last : ∀ c ∈ line.getLast?, isPlain c = true

theorem whole_of_plain {run : List Char} (nonempty : run ≠ [])
    (plain : ∀ c ∈ run, isPlain c = true) : Whole run where
  nonempty := nonempty
  inner c hc := .inr (plain c hc)
  first c hc := plain c (List.mem_of_mem_head? hc)
  last c hc := plain c (List.mem_of_getLast? hc)

theorem Whole.append {l m : List Char} (hl : Whole l) (hm : Whole m) :
    Whole (l ++ [' '] ++ m) where
  nonempty := by simp
  inner c hc := by
    rcases List.mem_append.1 hc with hc | hc
    · rcases List.mem_append.1 hc with hc | hc
      · exact hl.inner c hc
      · exact .inl (List.mem_singleton.1 hc)
    · exact hm.inner c hc
  first c hc := by
    rw [List.append_assoc, List.head?_append_of_ne_nil _ hl.nonempty] at hc
    exact hl.first c hc
  last c hc := by
    rw [List.getLast?_append_of_ne_nil _ hm.nonempty] at hc
    exact hm.last c hc

theorem whole_intercalate {runs : List (List Char)} (nonempty : runs ≠ [])
    (h : ∀ run ∈ runs, Whole run) : Whole ([' '].intercalate runs) := by
  induction runs with
  | nil => exact absurd rfl nonempty
  | cons run runs ih =>
    obtain ⟨head, tail⟩ := List.forall_mem_cons.1 h
    cases runs with
    | nil => rwa [List.intercalate_singleton]
    | cons next runs =>
      rw [List.intercalate_cons_cons]
      exact head.append (ih (List.cons_ne_nil _ _) tail)

namespace Whole

variable {line : List Char}

theorem notMem (h : Whole line) {c : Char} (space : c ≠ ' ') (plain : isPlain c = false) :
    c ∉ line := by
  intro hc
  rcases h.inner c hc with rfl | other
  · exact space rfl
  · rw [plain] at other
    cases other

theorem normalize_eq (h : Whole line) : normalize line = line := by
  have uncut : line.takeWhile (· ≠ '#') = line := by
    rw [List.takeWhile_eq_self_iff]
    intro c hc
    have : c ≠ '#' := fun same => h.notMem (by decide) (by decide) (same ▸ hc)
    simpa using this
  rw [normalize, uncut]
  apply Text.trim_eq_self
  · intro c hc
    exact isBlank_eq_false_of_isPlain (h.first c hc)
  · intro c hc
    exact isBlank_eq_false_of_isPlain (h.last c hc)

theorem splitLabel_eq (h : Whole line) : splitLabel line = (none, line) :=
  splitLabel_of_notMem (h.notMem (by decide) (by decide))

theorem newline_notMem (h : Whole line) : '\n' ∉ line :=
  h.notMem (by decide) (by decide)

theorem getLast?_ne (h : Whole line) : line.getLast? ≠ some '\r' := by
  intro last
  exact h.notMem (by decide) (by decide) (List.mem_of_getLast? last)

end Whole

/-! ## Parts of lines -/

theorem mem_of_mem_zipWith {ts : List Token} {runs : List (List Char)} {x : Lexeme}
    (h : x ∈ List.zipWith Lexeme.mk ts runs) : x.token ∈ ts := by
  induction ts generalizing runs with
  | nil => cases h
  | cons t ts ih =>
    cases runs with
    | nil => cases h
    | cons run runs =>
      rcases List.mem_cons.1 h with rfl | later
      · exact List.mem_cons_self
      · exact List.mem_cons_of_mem t (ih later)

theorem written_of_mem {runs : List (List Char)} {ts : List Token}
    (h : List.Forall₂ Written runs ts) : ∀ run ∈ runs, ∃ t, Written run t := by
  induction h with
  | nil => exact nofun
  | cons head tail ih => exact List.forall_mem_cons.2 ⟨⟨_, head⟩, ih⟩

namespace Spells

variable {parts : List String} {b : Body}

theorem parse (h : Spells parts b) : Body.parse (" ".intercalate parts).toList = .ok b := by
  obtain ⟨ts, written, comma, read⟩ := h
  have lexed := lex_intercalate (written.imp fun _ _ h => h.lexes)
  have kept : (List.zipWith Lexeme.mk ts (parts.map String.toList)).filter (·.token ≠ .comma) =
      List.zipWith Lexeme.mk ts (parts.map String.toList) := by
    rw [List.filter_eq_self]
    intro x hx
    have : x.token ≠ .comma := fun same => comma (same ▸ mem_of_mem_zipWith hx)
    simpa using this
  rw [Body.parse_eq_ok_iff, String.toList_intercalate, show " ".toList = [' '] from rfl, lexed, kept]
  exact ⟨rfl, read⟩

theorem whole (h : Spells parts b) : Whole (" ".intercalate parts).toList := by
  obtain ⟨ts, written, -, read⟩ := h
  rw [String.toList_intercalate]
  apply whole_intercalate
  · intro none_left
    rw [none_left, List.zipWith_nil_right] at read
    cases read
  · intro run hrun
    obtain ⟨t, run_written⟩ := written_of_mem written run hrun
    exact whole_of_plain run_written.nonempty run_written.plain

/-- A text whose parts spell a body is a line that holds it. -/
theorem reads (h : Spells parts b) :
    Statement.Reads (" ".intercalate parts).toList ⟨none, some b⟩ := by
  have whole := h.whole
  unfold Statement.Reads
  rw [whole.normalize_eq, if_neg whole.nonempty, Statement.parse_eq_ok_iff, whole.splitLabel_eq]
  refine ⟨rfl, ?_⟩
  show (if (" ".intercalate parts).toList.isEmpty then _ else _) = _
  rw [if_neg (by simpa using whole.nonempty), h.parse]
  rfl

end Spells

/-! ## Programs without labels -/

namespace Program

/-- The program with a body on each line and no labels. -/
def ofBodies (bs : List Body) : Program :=
  bs.map fun b => ⟨none, some b⟩

variable {bs : List Body}

theorem labels_ofBodies (bs : List Body) : (ofBodies bs).labels = [] := by
  rw [ofBodies, labels, List.filterMap_map]
  exact List.filterMap_eq_nil_iff.2 fun _ _ => rfl

theorem size_ofBodies (bs : List Body) : (ofBodies bs).size = bs.length := by
  rw [ofBodies, size, List.countP_map]
  exact List.countP_eq_length.2 fun _ _ => rfl

theorem exists_of_getElem?_ofBodies {i : Nat} {s : Statement} (h : (ofBodies bs)[i]? = some s) :
    ∃ b ∈ bs, s = ⟨none, some b⟩ := by
  obtain ⟨b, hb, rfl⟩ := List.mem_map.1 (List.mem_of_getElem? h)
  exact ⟨b, hb, rfl⟩

theorem wellFormed_ofBodies (limits : Limits) (fixed : ∀ b ∈ bs, b.reference? = none)
    (room : bs.length ≤ 0xd000) : (ofBodies bs).WellFormed limits where
  distinct := by
    rw [labels_ofBodies]
    exact List.nodup_nil
  few := by
    rw [labels_ofBodies]
    exact Nat.zero_le _
  short := by
    rw [labels_ofBodies]
    exact nofun
  room i s hs _ := by
    obtain ⟨b, -, rfl⟩ := exists_of_getElem?_ofBodies hs
    have := size_take_lt_of_body hs rfl
    rw [size_ofBodies] at this
    omega
  resolvable i s r hs hr := by
    obtain ⟨b, hb, rfl⟩ := exists_of_getElem?_ofBodies hs
    rw [show Statement.reference? ⟨none, some b⟩ = b.reference? from rfl, fixed b hb] at hr
    cases hr

theorem words_ofBodies (fixed : ∀ b ∈ bs, b.reference? = none) :
    (ofBodies bs).words = bs.map (·.wordAt 0) := by
  have all : ∀ (p : Program) (line address : Nat) (bs : List Body),
      (∀ b ∈ bs, b.reference? = none) →
      (ofBodies bs).collectFrom (fun _ a s => s.body.map fun b => b.wordAt (p.distance a b))
        line address = bs.map (·.wordAt 0) := by
    intro p line address bs fixed
    induction bs generalizing line address with
    | nil => rfl
    | cons b bs ih =>
      obtain ⟨head, tail⟩ := List.forall_mem_cons.1 fixed
      show b.wordAt (p.distance address b) :: collectFrom _ (line + 1) _ (ofBodies bs) = _
      rw [ih _ _ tail, Body.wordAt_of_no_reference head _ 0, List.map_cons]
  exact all (ofBodies bs) 1 0x3000 bs fixed

end Program

/-- Lines with bodies and no labels are assembled to the words of the bodies. -/
theorem assemble_of_bodies {source : String} {limits : Limits} {bs : List Body}
    (reads : List.Forall₂ (fun line b => Statement.Reads line ⟨none, some b⟩)
      (Text.lines source.toList) bs)
    (fixed : ∀ b ∈ bs, b.reference? = none) (room : bs.length ≤ 0xd000) :
    assemble source limits = .ok ⟨0x3000, bs.map (·.wordAt 0)⟩ := by
  refine assemble_eq_ok_iff.2 ⟨.ofBodies bs, ?_, Program.wellFormed_ofBodies limits fixed room, ?_⟩
  · exact List.forall₂_map_right_iff.2 reads
  · rw [Program.words_ofBodies fixed]
    rfl

namespace Listing

/-- The assembly text of a word spells a body that has the word, wherever it stands. -/
theorem spells_statement (w : Word) :
    ∃ parts b, statement w = " ".intercalate parts ∧ Spells parts b ∧ b.reference? = none ∧
      ∀ d, b.wordAt d = w := by
  have literal : "val " ++ w.literal = " ".intercalate ["val", w.literal] := by
    simp
  unfold statement
  split
  · next i decoded =>
    split
    · next same =>
      refine ⟨i.parts, i.body, rfl, Instr.spells (Instr.encodable_of_decode? decoded),
        i.reference?_body, ?_⟩
      intro d
      rw [i.wordAt_body, same]
    · exact ⟨_, _, literal, spells_literal w, rfl, fun _ => rfl⟩
  · exact ⟨_, _, literal, spells_literal w, rfl, fun _ => rfl⟩

theorem whole_statement (w : Word) : Whole (statement w).toList := by
  obtain ⟨parts, b, text, spells, -⟩ := spells_statement w
  rw [text]
  exact spells.whole

/-- The assembly texts of words are assembled to these words. -/
theorem assemble_statements {ws : List Word} (room : ws.length ≤ 0xd000) {source : String}
    (hs : Text.lines source.toList = ws.map fun w => (statement w).toList) (limits : Limits) :
    assemble source limits = .ok ⟨0x3000, ws⟩ := by
  choose parts body text spells fixed word using spells_statement
  have reads : List.Forall₂ (fun line b => Statement.Reads line ⟨none, some b⟩)
      (Text.lines source.toList) (ws.map body) := by
    rw [hs, List.forall₂_map_left_iff, List.forall₂_map_right_iff, List.forall₂_same]
    intro w _
    rw [text w]
    exact (spells w).reads
  have fixed_all : ∀ b ∈ ws.map body, b.reference? = none := by
    intro b hb
    obtain ⟨w, -, rfl⟩ := List.mem_map.1 hb
    exact fixed w
  have words : (ws.map body).map (·.wordAt 0) = ws := by
    rw [List.map_map]
    exact (List.map_congr_left fun w _ => word w 0).trans (List.map_id ws)
  rw [assemble_of_bodies reads fixed_all (by rwa [List.length_map]), words]

/-! ## The lines of a listing -/

theorem toList_cell (w : Word) : (cell w).toList = 'x' :: Numeral.fourDigits w.toNat := by
  rw [cell, String.toList_append, Numeral.toList_hexPadded_four w.isLt]
  rfl

theorem toList_line (address w : Word) :
    (line address w).toList =
      "x".toList ++ Numeral.fourDigits address.toNat ++ ": x".toList ++
        Numeral.fourDigits w.toNat ++ "  ".toList ++ (statement w).toList := by
  simp [line, toList_cell]

theorem newline_notMem_line (address w : Word) : '\n' ∉ (line address w).toList := by
  have digits : ∀ n, '\n' ∉ Numeral.fourDigits n := by
    intro n h
    obtain ⟨d, hd, newline⟩ := List.mem_map.1 h
    have small : d < 16 := by
      simp only [List.mem_cons, List.not_mem_nil, or_false] at hd
      omega
    have none_is : ∀ d < 16, (Nat.digitChar d).toUpper ≠ '\n' := by decide
    exact none_is d small newline
  rw [toList_line]
  simp [digits, (whole_statement w).newline_notMem]

theorem getLast?_line_ne (address w : Word) : (line address w).toList.getLast? ≠ some '\r' := by
  have whole := whole_statement w
  rw [toList_line, List.getLast?_append_of_ne_nil _ whole.nonempty]
  exact whole.getLast?_ne

/-- There is a line for each word, with its address, the word and its assembly text. -/
theorem lines_disassemble (origin : Word) (ws : List Word) :
    Text.lines (disassemble origin ws).toList = ws.zipIdx.map fun (w, i) =>
      "x".toList ++ Numeral.fourDigits ((origin.toNat + i) % 0x10000) ++ ": x".toList ++
        Numeral.fourDigits w.toNat ++ "  ".toList ++ (statement w).toList := by
  have unlined : (disassemble origin ws).toList =
      Text.unlines ((lines origin ws).map String.toList) := by
    simp [disassemble, Text.unlines, List.flatMap_map, String.toList_join]
  have one : ∀ l ∈ (lines origin ws).map String.toList,
      ∃ address w, (line address w).toList = l := by
    intro l hl
    obtain ⟨text, htext, rfl⟩ := List.mem_map.1 hl
    obtain ⟨⟨w, i⟩, -, rfl⟩ := List.mem_map.1 htext
    exact ⟨_, w, rfl⟩
  rw [unlined, Text.lines_unlines]
  · rw [lines, List.map_map]
    refine List.map_congr_left ?_
    rintro ⟨w, i⟩ -
    show (line (origin + BitVec.ofNat 16 i) w).toList = _
    rw [toList_line, BitVec.toNat_add, BitVec.toNat_ofNat, Nat.add_mod_mod]
  · intro l hl
    obtain ⟨address, w, rfl⟩ := one l hl
    exact newline_notMem_line address w
  · intro l hl
    obtain ⟨address, w, rfl⟩ := one l hl
    exact getLast?_line_ne address w

/-- The assembly texts of words, one on a line. -/
def source (ws : List Word) : String :=
  String.join (ws.map fun w => statement w ++ "\n")

theorem lines_source (ws : List Word) :
    Text.lines (source ws).toList = ws.map fun w => (statement w).toList := by
  have unlined : (source ws).toList = Text.unlines (ws.map fun w => (statement w).toList) := by
    simp [source, Text.unlines, List.flatMap_map, String.toList_join]
  rw [unlined, Text.lines_unlines]
  · intro l hl
    obtain ⟨w, -, rfl⟩ := List.mem_map.1 hl
    exact (whole_statement w).newline_notMem
  · intro l hl
    obtain ⟨w, -, rfl⟩ := List.mem_map.1 hl
    exact (whole_statement w).getLast?_ne

end Listing

/-- A listing has a line for each word, which shows its address and the word in four digits and then
its assembly text; and the texts of as many words as memory has room for are assembled to these words,
from every source with these lines. -/
theorem disassemble_assemble (origin : Word) (ws : List Word) :
    (Text.lines (disassemble origin ws).toList = ws.zipIdx.map fun (w, i) =>
      "x".toList ++ Numeral.fourDigits ((origin.toNat + i) % 0x10000) ++ ": x".toList ++
        Numeral.fourDigits w.toNat ++ "  ".toList ++ (Listing.statement w).toList) ∧
    (ws.length ≤ 0xd000 →
      assemble (Listing.source ws) = .ok ⟨0x3000, ws⟩ ∧
      ∀ source, Text.lines source.toList = ws.map (fun w => (Listing.statement w).toList) →
        assemble source = .ok ⟨0x3000, ws⟩) := by
  refine ⟨Listing.lines_disassemble origin ws, fun room => ⟨?_, ?_⟩⟩
  · exact Listing.assemble_statements room (Listing.lines_source ws) {}
  · intro source hs
    exact Listing.assemble_statements room hs {}

end Sixteen
