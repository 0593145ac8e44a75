import Sixteen.Word.Field
import Sixteen.Text.Numeral
import Sixteen.Diagnostic

/-!
# Operands of instructions

* `Reg` : one of the eight registers, written `%r0` to `%r7`;
* `Signed n`, `Unsigned n` : numbers that fit a field of `n` bits, held as that field, so that the
  value of one is in range by its type. `ofInt?` and `ofNat?` refuse a number that does not fit,
  `truncate` keeps its low bits;
* `Source n` : a register or a signed number, the last operand of an addition;
* `checkWidth` : an operand can have at most the sixteen bits of a word.
-/

namespace Sixteen

/-! ## Registers -/

/-- One of the eight registers. -/
structure Reg where
  /-- Its number, as instructions encode it. -/
  bits : BitVec 3
  deriving DecidableEq, Repr

/-- There is no register of this number. -/
structure RegError where
  number : Nat
  deriving DecidableEq, Repr

namespace Reg

def number (r : Reg) : Nat :=
  r.bits.toNat

def ofNat? (n : Nat) : Except RegError Reg :=
  if n < 8 then .ok ⟨BitVec.ofNat 3 n⟩ else .error ⟨n⟩

def text (r : Reg) : String :=
  "%r" ++ Numeral.decimal r.number

/-- The register that subroutine calls leave the return address in. -/
def link : Reg := ⟨7⟩

/-- The register that console services take their argument from and leave their result in. -/
def zero : Reg := ⟨0⟩

theorem number_lt (r : Reg) : r.number < 8 := r.bits.isLt

theorem number_inj {r s : Reg} : r.number = s.number ↔ r = s := by
  cases r
  cases s
  simp [number, BitVec.toNat_inj]

end Reg

def RegError.message (e : RegError) : String :=
  s!"%r{e.number} is not a register"

/-! ## Numbers in fields -/

/-- A number does not fit its field. -/
inductive RangeError where
  | unsigned (bits : Nat)
  | signed (bits : Nat)
  deriving DecidableEq, Repr

instance : Diagnostic RangeError where
  message
    | .unsigned n => s!"value is too big for unsigned {n}-bit integer"
    | .signed n => s!"value is too big for signed {n}-bit integer"
  help
    | .unsigned n =>
      let top := Numeral.decimal ((1 <<< n : Nat) - 1)
      some s!"the range for an unsigned {n}-bit integer is [0, {top}]"
    | .signed n =>
      let half : Nat := 1 <<< (n - 1)
      let bottom := Numeral.decimal (-half)
      let top := Numeral.decimal (half - 1)
      some s!"the range for a signed {n}-bit integer is [{bottom}, {top}]"

def checkWidth (n : Nat) : Except FieldError Unit :=
  if n ≤ 16 then .ok () else .error (.tooWide n)

/-- A signed number of `n` bits, an offset or an immediate operand. -/
structure Signed (n : Nat) where
  bits : BitVec n
  deriving DecidableEq, Repr

namespace Signed

variable {n : Nat}

def value (s : Signed n) : Int :=
  s.bits.toInt

/-- The number as a word in two's complement. -/
def toWord (s : Signed n) : Word :=
  s.bits.signExtend 16

/-- The number of the low `n` bits of `v`. -/
def truncate (n : Nat) (v : Int) : Signed n :=
  ⟨BitVec.ofInt n v⟩

/-- A number that fits `n` bits: one that its low `n` bits give back. -/
def ofInt? (n : Nat) (v : Int) : Except RangeError (Signed n) :=
  if (truncate n v).value = v then .ok (truncate n v) else .error (.signed n)

def text (s : Signed n) : String :=
  Numeral.decimal s.value

def hex (s : Signed n) : String :=
  "0x" ++ Numeral.hex s.toWord.toNat

end Signed

/-- An unsigned number of `n` bits, such as a service number. -/
structure Unsigned (n : Nat) where
  bits : BitVec n
  deriving DecidableEq, Repr

namespace Unsigned

variable {n : Nat}

def value (u : Unsigned n) : Nat :=
  u.bits.toNat

/-- The number of the low `n` bits of `v`. -/
def truncate (n v : Nat) : Unsigned n :=
  ⟨BitVec.ofNat n v⟩

/-- A number that fits `n` bits: one that its low `n` bits give back. -/
def ofNat? (n v : Nat) : Except RangeError (Unsigned n) :=
  if (truncate n v).value = v then .ok (truncate n v) else .error (.unsigned n)

def text (u : Unsigned n) : String :=
  Numeral.decimal u.value

def hex (u : Unsigned n) : String :=
  "0x" ++ Numeral.hex u.value

end Unsigned

/-! ## Registers or numbers -/

/-- A register, or a number of `n` bits in its place. -/
inductive Source (n : Nat) where
  | imm (value : Signed n)
  | reg (register : Reg)
  deriving DecidableEq, Repr

/-- A source as it is written: a dollar sign marks a number. -/
def Source.text {n : Nat} : Source n → String
  | .imm value => "$" ++ value.text
  | .reg register => register.text

end Sixteen
