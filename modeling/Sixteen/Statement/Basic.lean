import Sixteen.Instr.Basic

/-!
# Statements of assembly

* `Target n` : where a PC-relative operand points, by its offset or by the name of a label;
* `Operation` : an instruction as it is written, before its labels have addresses;
* `Body`, `Statement` : what a line holds. A body takes one word of the program; a label takes none.
-/

namespace Sixteen

/-- The target of a PC-relative operand: an offset of `n` bits, or a label. -/
inductive Target (n : Nat) where
  /-- The distance from the next instruction. -/
  | offset (value : Signed n)
  | label (name : String)
  deriving DecidableEq, Repr

def Target.text {n : Nat} : Target n → String
  | .offset value => value.text
  | .label name => name

/-- An instruction as it is written. -/
inductive Operation where
  | add (dst src1 : Reg) (src2 : Source 5)
  | and (dst src1 : Reg) (src2 : Source 5)
  | not (dst src : Reg)
  | br (cond : Branch) (target : Target 9)
  | jmp (base : Reg)
  /-- Return from a subroutine, a jump to the address in the link register. -/
  | ret
  | jsr (target : Target 11)
  | jsrr (base : Reg)
  | ld (dst : Reg) (target : Target 9)
  | ldi (dst : Reg) (target : Target 9)
  | ldr (dst base : Reg) (offset : Signed 6)
  | lea (dst : Reg) (target : Target 9)
  | st (src : Reg) (target : Target 9)
  | sti (src : Reg) (target : Target 9)
  | str (src base : Reg) (offset : Signed 6)
  | service (service : Service)
  deriving DecidableEq, Repr

/-- What takes a word of the program. -/
inductive Body where
  | operation (operation : Operation)
  | literal (word : Word)
  deriving DecidableEq, Repr

/-- What a line holds. -/
structure Statement where
  label : Option String
  /-- The word that the line stands for. -/
  body : Option Body
  deriving DecidableEq, Repr

/-- Whether a statement takes a word of the program. -/
def Statement.occupiesWord (s : Statement) : Bool :=
  s.body.isSome

end Sixteen
