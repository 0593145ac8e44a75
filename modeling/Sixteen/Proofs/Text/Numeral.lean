import Sixteen.Text.Numeral
import Sixteen.Proofs.Outcome

/-!
# Numerals are read back

The digits of a number end with the digit of its remainder, after the digits of its quotient, and a
reader takes them in the same order. `f` stands for the case of the letters.

* `Numeral.mem_toDigits` : what the digits of a number are;
* `Numeral.readFrom_append` : digits are read one part after the other;
* `Numeral.read_zeros_toDigits` : the digits of a number below the limit are read as that number,
  also with zeros before them;
* `Numeral.read_toDigits_ten`, `Numeral.read_hex`, `Numeral.readSigned?_hexPadded` : the numerals
  that are written;
* `Numeral.toList_hexPadded_four` : the digits of a word.
-/

namespace Sixteen.Numeral

/-! ## Digits -/

theorem mem_toDigits {base : Nat} (hb : 1 < base) {n : Nat} {c : Char}
    (h : c ∈ Nat.toDigits base n) : ∃ d < base, c = Nat.digitChar d := by
  induction n using Nat.strongRecOn with
  | ind n ih =>
    rw [Nat.toDigits_eq_if hb] at h
    split at h
    · next small =>
      exact ⟨n, small, List.mem_singleton.1 h⟩
    · next large =>
      rcases List.mem_append.1 h with front | last
      · exact ih (n / base) (Nat.div_lt_self (by omega) hb) front
      · exact ⟨n % base, Nat.mod_lt _ (by omega), List.mem_singleton.1 last⟩

/-! ## Reading -/

variable {base limit : Nat}

theorem readFrom_append (acc : Nat) (xs ys : List Char) :
    readFrom base limit acc (xs ++ ys) =
      readFrom base limit acc xs >>= fun acc => readFrom base limit acc ys := by
  induction xs generalizing acc with
  | nil => rfl
  | cons c rest ih =>
    rw [List.cons_append, readFrom, readFrom]
    cases digitOf? base c with
    | none => rfl
    | some d =>
      show (if acc * base + d < limit then _ else _) = (if acc * base + d < limit then _ else _) >>= _
      split
      · exact ih _
      · rfl

theorem readFrom_singleton {acc d : Nat} {c : Char} (hc : digitOf? base c = some d)
    (h : acc * base + d < limit) : readFrom base limit acc [c] = .ok (acc * base + d) := by
  rw [readFrom, hc]
  simp only [if_pos h, readFrom]

variable {f : Char → Char}

theorem readFrom_toDigits (hb : 1 < base)
    (hf : ∀ d < base, digitOf? base (f (Nat.digitChar d)) = some d) {n : Nat} (hn : n < limit) :
    readFrom base limit 0 ((Nat.toDigits base n).map f) = .ok n := by
  induction n using Nat.strongRecOn with
  | ind n ih =>
    rw [Nat.toDigits_eq_if hb]
    split
    · next small =>
      rw [List.map_singleton, readFrom_singleton (hf n small) (by omega), Nat.zero_mul, Nat.zero_add]
    · next large =>
      have less : n / base < n := Nat.div_lt_self (by omega) hb
      have whole : n / base * base + n % base = n := by
        rw [Nat.mul_comm]
        exact Nat.div_add_mod n base
      rw [List.map_append, readFrom_append, ih _ less (by omega)]
      show readFrom base limit (n / base) [f (Nat.digitChar (n % base))] = .ok n
      rw [readFrom_singleton (hf _ (Nat.mod_lt _ (by omega))) (by omega), whole]

theorem readFrom_zeros (h0 : digitOf? base '0' = some 0) (hl : 0 < limit) (k : Nat)
    (digits : List Char) :
    readFrom base limit 0 (List.replicate k '0' ++ digits) = readFrom base limit 0 digits := by
  induction k with
  | zero => rfl
  | succ k ih =>
    rw [List.replicate_succ, List.cons_append, readFrom, h0]
    simp only [Nat.zero_mul, Nat.add_zero, if_pos hl, ih]

theorem read_of_ne_nil {digits : List Char} (h : digits ≠ []) :
    read base limit digits = readFrom base limit 0 digits := by
  cases digits with
  | nil => exact absurd rfl h
  | cons c rest => rfl

/-- The digits of a number below the limit are read as the number, with zeros before them or not. -/
theorem read_zeros_toDigits (hb : 1 < base)
    (hf : ∀ d < base, digitOf? base (f (Nat.digitChar d)) = some d) (h0 : f '0' = '0') {n : Nat}
    (hn : n < limit) (k : Nat) :
    read base limit (List.replicate k '0' ++ (Nat.toDigits base n).map f) = .ok n := by
  have zero : digitOf? base '0' = some 0 := by
    have := hf 0 (by omega)
    rwa [show Nat.digitChar 0 = '0' from rfl, h0] at this
  rw [read_of_ne_nil (by simp), readFrom_zeros zero (by omega), readFrom_toDigits hb hf hn]

/-! ## Written numerals -/

theorem read_toDigits_ten {n : Nat} (hn : n < limit) :
    read 10 limit (Nat.toDigits 10 n) = .ok n := by
  have digits : ∀ d < 10, digitOf? 10 (id (Nat.digitChar d)) = some d := by decide
  have := read_zeros_toDigits (by omega) digits rfl hn 0
  rwa [List.map_id] at this

theorem read_hex {n : Nat} (hn : n < limit) : read 16 limit (hex n).toList = .ok n := by
  have digits : ∀ d < 16, digitOf? 16 (id (Nat.digitChar d)) = some d := by decide
  have := read_zeros_toDigits (by omega) digits rfl hn 0
  rw [List.map_id] at this
  rwa [hex, String.toList_ofList]

theorem toList_hexPadded (width n : Nat) :
    (hexPadded width n).toList =
      List.replicate (width - (Nat.toDigits 16 n).length) '0' ++
        (Nat.toDigits 16 n).map Char.toUpper := by
  rw [hexPadded, String.toList_ofList, List.leftpad, List.length_map]

theorem mem_hexPadded {width n : Nat} {c : Char} (h : c ∈ (hexPadded width n).toList) :
    ∃ d < 16, c = (Nat.digitChar d).toUpper := by
  rw [toList_hexPadded] at h
  rcases List.mem_append.1 h with zero | digit
  · exact ⟨0, by omega, List.eq_of_mem_replicate zero⟩
  · obtain ⟨c, hc, rfl⟩ := List.mem_map.1 digit
    obtain ⟨d, hd, rfl⟩ := mem_toDigits (by omega) hc
    exact ⟨d, hd, rfl⟩

/-- A padded numeral is read back, also where a sign may stand. -/
theorem readSigned?_hexPadded {n : Nat} (hn : n < limit) (width : Nat) :
    readSigned? 16 limit (hexPadded width n).toList = some n := by
  have plain : read 16 limit (hexPadded width n).toList = .ok n := by
    rw [toList_hexPadded]
    exact read_zeros_toDigits (by omega) (by decide) rfl hn _
  unfold readSigned?
  split
  · next rest signed =>
    have first : '+' ∈ (hexPadded width n).toList := by simp [signed]
    obtain ⟨d, hd, plus⟩ := mem_hexPadded first
    have none_is_plus : ∀ d < 16, '+' ≠ (Nat.digitChar d).toUpper := by decide
    exact absurd plus (none_is_plus d hd)
  · rw [plain]
    rfl

/-! ## Four digits -/

/-- The four digits of a number below `0x10000`, from the left, with capital letters. -/
def fourDigits (n : Nat) : List Char :=
  [n / 0x1000 % 16, n / 0x100 % 16, n / 0x10 % 16, n % 16].map fun d => (Nat.digitChar d).toUpper

theorem toDigits_step {n : Nat} (h : 16 ≤ n) :
    Nat.toDigits 16 n = Nat.toDigits 16 (n / 16) ++ [Nat.digitChar (n % 16)] :=
  Nat.toDigits_of_base_le (by omega) h

theorem toList_hexPadded_four {n : Nat} (hn : n < 0x10000) :
    (hexPadded 4 n).toList = fourDigits n := by
  have last : ∀ m < 16, Nat.toDigits 16 m = [Nat.digitChar m] :=
    fun m hm => Nat.toDigits_of_lt_base hm
  rw [toList_hexPadded, fourDigits]
  by_cases one : n < 16
  · rw [last n one, show n / 0x1000 = 0 by omega, show n / 0x100 = 0 by omega,
      show n / 0x10 = 0 by omega, show n % 16 = n by omega]
    rfl
  · rw [toDigits_step (by omega)]
    by_cases two : n / 16 < 16
    · rw [last _ two, show n / 0x1000 = 0 by omega, show n / 0x100 = 0 by omega,
        show n / 0x10 % 16 = n / 16 by omega]
      rfl
    · rw [toDigits_step (by omega)]
      by_cases three : n / 16 / 16 < 16
      · rw [last _ three, show n / 0x1000 = 0 by omega,
          show n / 0x100 % 16 = n / 16 / 16 by omega]
        rfl
      · rw [toDigits_step (by omega), last (n / 16 / 16 / 16) (by omega),
          show n / 0x1000 % 16 = n / 16 / 16 / 16 by omega,
          show n / 0x100 % 16 = n / 16 / 16 % 16 by omega]
        rfl

end Sixteen.Numeral
