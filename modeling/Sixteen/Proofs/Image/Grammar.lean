import Sixteen.Proofs.Image.Forms
import Sixteen.Proofs.Text.Digits

/-!
# Which texts are images

Text images are written with four capital digits for a word, but more than that is read: digits in
either case, and any number of zeros before them. It is documented that the lines are numbers in base
sixteen. A plus sign before the digits, which the numbers in programs cannot have, is not, and it is the
one thing that the reader takes beyond the documentation.

* `IsNumber`, `IsSignedNumber` : the line of a word, as documented and as it is read;
* `Lists` : the lines of a text that count are a header, an origin and words;
* `ofText?_eq_some_iff_lists` : what the reader takes, and which image it is;
* `lists_isNumber_iff` : which of these texts are the documented ones;
* `ofText?_grammar` : both together.
-/

namespace Sixteen.Image

/-! ## Lines and texts -/

/-- The line consists of digits in base sixteen, and they denote the word `w`. -/
def IsNumber (line : List Char) (w : Word) : Prop :=
  line ≠ [] ∧ Numeral.Denotes 16 line w.toNat

/-- The line is a number, or one behind a plus sign. -/
def IsSignedNumber (line : List Char) (w : Word) : Prop :=
  ∃ digits, (line = digits ∨ line = '+' :: digits) ∧ IsNumber digits w

/-- The lines of the text that count are the header, the origin of the image, and its words in
order. -/
def Lists (number : List Char → Word → Prop) (text : List Char) (o : Image) : Prop :=
  ∃ numbers, dataLines text = header.toList :: numbers ∧
    List.Forall₂ number numbers (o.origin :: o.words)

variable {line text : List Char} {w : Word} {o : Image}

theorem isNumber_iff : IsNumber line w ↔ line.head? ≠ some '+' ∧ IsSignedNumber line w := by
  constructor
  · intro number
    refine ⟨fun plus => ?_, line, .inl rfl, number⟩
    obtain ⟨rest, rfl⟩ := List.head?_eq_some_iff.1 plus
    exact Numeral.not_denotes_plus (Nat.le_refl 16) number.2
  · rintro ⟨unsigned, digits, rfl | rfl, number⟩
    · exact number
    · exact absurd rfl unsigned

/-! ## What the reader takes -/

theorem readWord?_eq_some_iff : readWord? line = some w ↔ IsSignedNumber line w := by
  rw [readWord?, Option.map_eq_some_iff]
  simp only [Numeral.readSigned?_eq_some_iff (Nat.le_refl 16) (Nat.succ_pos 0xffff)]
  constructor
  · rintro ⟨n, ⟨digits, whole, nonempty, value, small⟩, rfl⟩
    refine ⟨digits, whole, nonempty, ?_⟩
    rwa [BitVec.toNat_ofNat, Nat.mod_eq_of_lt small]
  · rintro ⟨digits, whole, nonempty, value⟩
    refine ⟨w.toNat, ⟨digits, whole, nonempty, value, w.isLt⟩, ?_⟩
    rw [BitVec.ofNat_toNat, BitVec.setWidth_eq]

theorem mapM_readWord?_eq_some_iff {numbers : List (List Char)} {ws : List Word} :
    numbers.mapM readWord? = some ws ↔ List.Forall₂ IsSignedNumber numbers ws := by
  induction numbers generalizing ws with
  | nil =>
    rw [List.mapM_nil, List.forall₂_nil_left_iff]
    exact Option.some_inj.trans eq_comm
  | cons line rest ih =>
    rw [List.mapM_cons, List.forall₂_cons_left_iff]
    simp only [Option.bind_eq_bind, Option.bind_eq_some_iff, readWord?_eq_some_iff, ih]
    constructor
    · rintro ⟨w, number, ws, numbers, same⟩
      exact ⟨w, ws, number, numbers, (Option.some.inj same).symm⟩
    · rintro ⟨w, ws, number, numbers, rfl⟩
      exact ⟨w, number, ws, numbers, rfl⟩

/-- The reader takes a header and numbers, which may be signed, for an image that fits memory. -/
theorem ofText?_eq_some_iff_lists :
    ofText? text = some o ↔ Lists IsSignedNumber text o ∧ o.Fits := by
  have whole : ∀ numbers, (List.mapM readWord? numbers).bind ofWords? = some o ↔
      List.Forall₂ IsSignedNumber numbers (o.origin :: o.words) ∧ o.Fits := by
    intro numbers
    simp only [Option.bind_eq_some_iff, mapM_readWord?_eq_some_iff, ofWords?_eq_some_iff]
    constructor
    · rintro ⟨ws, read, fits, rfl⟩
      exact ⟨read, fits⟩
    · rintro ⟨read, fits⟩
      exact ⟨_, read, fits, rfl⟩
  rw [ofText?, Lists]
  split
  · next first rest lines =>
    rw [lines]
    split
    · next titled =>
      rw [whole, titled]
      simp
    · next other =>
      simp [other]
  · next none =>
    simp [none]

/-- The documented texts are those that have no line with a sign. -/
theorem lists_isNumber_iff :
    Lists IsNumber text o ↔
      Lists IsSignedNumber text o ∧ ∀ line ∈ dataLines text, line.head? ≠ some '+' := by
  have each : ∀ numbers ws, List.Forall₂ IsNumber numbers ws ↔
      (∀ line ∈ numbers, line.head? ≠ some '+') ∧ List.Forall₂ IsSignedNumber numbers ws := by
    intro numbers ws
    rw [← List.forall₂_and_left]
    simp only [← isNumber_iff]
  have title : header.toList.head? ≠ some '+' := by decide +kernel
  constructor
  · rintro ⟨numbers, lines, h⟩
    obtain ⟨unsigned, h⟩ := (each _ _).1 h
    refine ⟨⟨numbers, lines, h⟩, ?_⟩
    rw [lines]
    exact List.forall_mem_cons.2 ⟨title, unsigned⟩
  · rintro ⟨⟨numbers, lines, h⟩, unsigned⟩
    rw [lines] at unsigned
    exact ⟨numbers, lines, (each _ _).2 ⟨(List.forall_mem_cons.1 unsigned).2, h⟩⟩

/-- The reader takes all documented texts, each for the image that it lists if this fits memory.
What else it takes has a line with a plus sign before its digits. -/
theorem ofText?_grammar (text : List Char) (o : Image) :
    (ofText? text = some o ↔ Lists IsSignedNumber text o ∧ o.Fits) ∧
    (Lists IsNumber text o ∧ o.Fits ↔
      ofText? text = some o ∧ ∀ line ∈ dataLines text, line.head? ≠ some '+') := by
  refine ⟨ofText?_eq_some_iff_lists, ?_⟩
  rw [ofText?_eq_some_iff_lists, lists_isNumber_iff, and_right_comm]

/-- A plus sign may stand before the origin, although the documentation has no signs. -/
theorem ofText?_plus :
    ofText? "X16 OBJ FILE\n+3000\n".toList = some ⟨0x3000, []⟩ ∧
    ¬Lists IsNumber "X16 OBJ FILE\n+3000\n".toList ⟨0x3000, []⟩ := by
  have lines : dataLines "X16 OBJ FILE\n+3000\n".toList = [header.toList, "+3000".toList] := by
    decide +kernel
  refine ⟨by decide +kernel, fun listed => ?_⟩
  have unsigned := (lists_isNumber_iff.1 listed).2 "+3000".toList
  rw [lines] at unsigned
  exact unsigned (by simp) (by decide +kernel)

end Sixteen.Image
