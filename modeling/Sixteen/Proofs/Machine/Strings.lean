import Sixteen.Machine.Trap
import Mathlib.Data.List.Flatten

/-!
# Strings in memory

A string is read word by word, and its bytes are collected on the way. It is the same as all
characters there are from its address up, cut before the first that is zero.

* `Word.byte` : a character as a byte;
* `Word.packed_eq` : the two characters of a word are its two bytes;
* `Memory.characters` : the characters of the words from an address up;
* `Memory.string_eq` : a string is those before the first zero character;
* `Memory.wide`, `Memory.narrow` : the number of a character by its place, where a word is one
  character or two;
* `Memory.IsString` : the bytes of a row of characters, place by place. There is one such string, and
  it is what is read (`Memory.isString_plain`, `Memory.isString_packed`).
-/

namespace Sixteen

/-! ## Characters -/

namespace Word

/-- What of a character is written: its number, cut to a byte. -/
def byte (w : Word) : UInt8 :=
  .ofNat (w.toNat % 256)

theorem lowByte_eq : lowByte = byte := by
  funext w
  apply UInt8.toNat_inj.1
  rw [byte, UInt8.toNat_ofNat', Nat.mod_mod]
  exact BitVec.toNat_setWidth 8 w

theorem plain_eq : plain = fun w => [w] := rfl

theorem packed_eq : packed = fun w => [w.field 0 8, w.field 8 8] := by
  funext w
  have low : w &&& 0xff = w.field 0 8 := by
    apply BitVec.eq_of_toNat_eq
    rw [BitVec.toNat_and, field, BitVec.toNat_setWidth_of_le (by omega), BitVec.extractLsb'_toNat]
    exact Nat.and_two_pow_sub_one_eq_mod _ 8
  have high : w >>> 8 = w.field 8 8 := by
    apply BitVec.eq_of_toNat_eq
    rw [BitVec.toNat_ushiftRight, field, BitVec.toNat_setWidth_of_le (by omega),
      BitVec.extractLsb'_toNat, Nat.shiftRight_eq_div_pow]
    omega
  rw [packed, low, high]

end Word

/-! ## Strings -/

namespace Memory

/-- The characters of `count` words from an address up. Behind the last address comes the first. -/
def characters (m : Memory) (unpack : Word → List Word) (count : Nat) (address : Word) :
    List Word :=
  (List.range count).flatMap fun i => unpack (m.read (address + BitVec.ofNat 16 i))

variable (m : Memory) (unpack : Word → List Word)

theorem characters_succ (count : Nat) (address : Word) :
    m.characters unpack (count + 1) address =
      unpack (m.read address) ++ m.characters unpack count (address + 1) := by
  have shift : ∀ i, address + BitVec.ofNat 16 (i + 1) = address + 1 + BitVec.ofNat 16 i := by
    intro i
    rw [Nat.add_comm, BitVec.ofNat_add, ← BitVec.add_assoc]
    rfl
  rw [characters, List.range_succ_eq_map, List.flatMap_cons, List.flatMap_map, BitVec.add_zero]
  simp only [Nat.succ_eq_add_one, shift]
  rfl

theorem toList_stringFrom (count : Nat) (address : Word) (done : Array UInt8) :
    (m.stringFrom unpack count address done).toList = done.toList ++
      ((m.characters unpack count address).takeWhile (· ≠ 0)).map Word.lowByte := by
  induction count generalizing address done with
  | zero => simp [stringFrom, characters]
  | succ count ih =>
    rw [stringFrom, characters_succ, List.takeWhile_append]
    split
    · next whole =>
      rw [ih, (List.takeWhile_prefix _).eq_of_length whole]
      simp
    · simp

theorem string_eq (address : Word) : m.string unpack address =
    ((m.characters unpack memorySize address).takeWhile (· ≠ 0)).map Word.byte := by
  rw [string, toList_stringFrom, List.nil_append, Word.lowByte_eq]

/-! ## Strings by their characters -/

/-- `bytes` are the low bytes of the characters `char 0`, `char 1` and so on, up to the first that is
zero, or of `limit` characters if none of these is. -/
structure IsString (char : Nat → Nat) (limit : Nat) (bytes : List UInt8) : Prop where
  length_le : bytes.length ≤ limit
  byte : ∀ i (h : i < bytes.length), char i ≠ 0 ∧ bytes[i].toNat = char i % 256
  stop : bytes.length < limit → char bytes.length = 0

/-- The character at a place from an address on, where each word is one. -/
def wide (m : Memory) (address : Word) (i : Nat) : Nat :=
  (m.read (address + BitVec.ofNat 16 i)).toNat

/-- The character at a place from an address on, where each word is two, the one in the low byte
first. -/
def narrow (m : Memory) (address : Word) (i : Nat) : Nat :=
  if i % 2 = 0 then m.wide address (i / 2) % 256 else m.wide address (i / 2) / 256

section
variable {char : Nat → Nat} {limit : Nat} {bytes other : List UInt8}

theorem IsString.length_le_length (h : IsString char limit bytes)
    (h' : IsString char limit other) : bytes.length ≤ other.length := by
  refine Nat.le_of_not_lt fun short => ?_
  exact (h.byte _ short).1 (h'.stop (Nat.lt_of_lt_of_le short h.length_le))

/-- There is one string of each row of characters. -/
theorem IsString.unique (h : IsString char limit bytes) (h' : IsString char limit other) :
    bytes = other := by
  have length := Nat.le_antisymm (h.length_le_length h') (h'.length_le_length h)
  refine List.ext_getElem length fun i hi hi' => UInt8.toNat_inj.1 ?_
  rw [(h.byte i hi).2, (h'.byte i hi').2]

/-- The string of a row of characters is what stands before the first zero. -/
theorem isString_takeWhile {cs : List Word}
    (numbers : cs.map BitVec.toNat = (List.range limit).map char) :
    IsString char limit ((cs.takeWhile (· ≠ 0)).map Word.byte) := by
  have length : cs.length = limit := by simpa using congrArg List.length numbers
  have number : ∀ i (h : i < cs.length), cs[i].toNat = char i := by
    intro i h
    have same : (cs.map BitVec.toNat)[i]? = ((List.range limit).map char)[i]? := by rw [numbers]
    simpa [h, length ▸ h] using same
  have zero : ∀ c : Word, (!decide (c ≠ 0)) = true ↔ c.toNat = 0 := by
    intro c
    simpa using (BitVec.toNat_inj (x := c) (y := 0#16)).symm
  have le : cs.findIdx (fun c => !decide (c ≠ 0)) ≤ cs.length := List.findIdx_le_length
  have count : ((cs.takeWhile (· ≠ 0)).map Word.byte).length =
      cs.findIdx (fun c => !decide (c ≠ 0)) := by
    rw [List.length_map, List.takeWhile_eq_take_findIdx_not, List.length_take_of_le le]
  refine ⟨?_, ?_, ?_⟩
  · rw [count, ← length]
    exact le
  · intro i hi
    rw [count] at hi
    have nonzero := List.not_of_lt_findIdx hi
    rw [← Bool.not_eq_true, zero] at nonzero
    rw [← number i (Nat.lt_of_lt_of_le hi le)]
    refine ⟨nonzero, ?_⟩
    simp only [List.getElem_map, List.takeWhile_eq_take_findIdx_not, List.getElem_take]
    rw [Word.byte, UInt8.toNat_ofNat', Nat.mod_mod]
  · intro short
    rw [count, ← length] at short
    rw [count, ← number _ short, ← zero]
    exact List.findIdx_getElem (p := fun c => !decide (c ≠ 0)) (w := short)

end

variable (m : Memory) (address : Word)

theorem numbers_plain (count : Nat) : (m.characters Word.plain count address).map BitVec.toNat =
    (List.range count).map (m.wide address) := by
  rw [characters, List.map_flatMap, List.map_eq_flatMap (l := List.range count)]
  rfl

theorem toNat_packed (w : Word) : w.packed.map BitVec.toNat = [w.toNat % 256, w.toNat / 256] := by
  have low : (w &&& 0xff).toNat = w.toNat % 256 := Nat.and_two_pow_sub_one_eq_mod w.toNat 8
  have high : (w >>> 8).toNat = w.toNat / 256 := Nat.shiftRight_eq_div_pow w.toNat 8
  rw [Word.packed, List.map_cons, List.map_singleton, low, high]

/-- The two characters of a word stand at twice its place. -/
theorem numbers_packed (count : Nat) : (m.characters Word.packed count address).map BitVec.toNat =
    (List.range (2 * count)).map (m.narrow address) := by
  induction count with
  | zero => rfl
  | succ count ih =>
    have low : m.narrow address (2 * count) = m.wide address count % 256 := by
      rw [narrow, if_pos (by omega), Nat.mul_div_cancel_left count (by omega)]
    have high : m.narrow address (2 * count + 1) = m.wide address count / 256 := by
      rw [narrow, if_neg (by omega), show (2 * count + 1) / 2 = count by omega]
    rw [Nat.mul_succ, List.range_succ, List.range_succ, List.map_append, List.map_append, ← ih,
      characters, List.range_succ, List.flatMap_append, List.map_append, List.append_assoc,
      List.map_singleton, List.map_singleton, low, high, List.flatMap_singleton, toNat_packed]
    rfl

theorem isString_plain : IsString (m.wide address) 65536 (m.string Word.plain address) := by
  rw [string_eq]
  exact isString_takeWhile (m.numbers_plain address memorySize)

theorem isString_packed : IsString (m.narrow address) 131072 (m.string Word.packed address) := by
  rw [string_eq]
  exact isString_takeWhile (m.numbers_packed address memorySize)

theorem narrow_lt (i : Nat) : m.narrow address i < 256 := by
  have := (m.read (address + BitVec.ofNat 16 (i / 2))).isLt
  unfold narrow wide
  split <;> omega

end Memory

end Sixteen
