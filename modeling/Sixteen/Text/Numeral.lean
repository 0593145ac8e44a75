/-!
# Numerals

* `digitOf?` : the value of a digit in a base of at most 36;
* `read` : an unsigned numeral below a limit. The digits are read from the left, and the first one
  that is no digit, or that takes the number to the limit, decides the error;
* `readSigned?` : the same, after one optional plus sign;
* `decimal`, `hex`, `hexPadded` : numerals as they are written.
-/

namespace Sixteen.Numeral

/-! ## Reading -/

/-- Why a text is no numeral. -/
inductive Fault where
  | empty
  | badDigit
  /-- Its value is not below the limit. -/
  | tooLarge
  deriving DecidableEq, Repr

/-- The value of a digit: `0` to `9`, then the letters in either case. -/
def digitOf? (base : Nat) (c : Char) : Option Nat :=
  let value? :=
    if '0' ≤ c ∧ c ≤ '9' then some (c.toNat - 48)
    else if 'a' ≤ c ∧ c ≤ 'z' then some (c.toNat - 87)
    else if 'A' ≤ c ∧ c ≤ 'Z' then some (c.toNat - 55)
    else none
  value?.filter (· < base)

/-- Reads on with digits, after digits of value `acc`. -/
def readFrom (base limit : Nat) (acc : Nat) : List Char → Except Fault Nat
  | [] => .ok acc
  | c :: rest =>
    match digitOf? base c with
    | none => .error .badDigit
    | some d =>
      if acc * base + d < limit then readFrom base limit (acc * base + d) rest
      else .error .tooLarge

/-- Reads an unsigned numeral with a value below `limit`. Leading zeros are allowed. -/
def read (base limit : Nat) : List Char → Except Fault Nat
  | [] => .error .empty
  | digits => readFrom base limit 0 digits

/-- Reads an unsigned numeral that may follow one plus sign. -/
def readSigned? (base limit : Nat) : List Char → Option Nat
  | '+' :: digits => (read base limit digits).toOption
  | digits => (read base limit digits).toOption

/-! ## Writing -/

/-- A number in base ten, with a minus sign when it is below zero. -/
def decimal (n : Int) : String :=
  String.ofList ((if n < 0 then ['-'] else []) ++ Nat.toDigits 10 n.natAbs)

/-- A number in base sixteen, with lower-case letters. -/
def hex (n : Nat) : String :=
  String.ofList (Nat.toDigits 16 n)

/-- A number in base sixteen, with upper-case letters and at least `width` digits. -/
def hexPadded (width n : Nat) : String :=
  String.ofList (((Nat.toDigits 16 n).map Char.toUpper).leftpad width '0')

end Sixteen.Numeral
