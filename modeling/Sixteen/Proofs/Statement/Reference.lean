import Sixteen.Statement.Resolve
import Sixteen.Proofs.Statement.Line

/-!
# Label operands

What an instruction with a label operand says, apart from any table: a label, the width of the field
for its distance, and the machine's form of the instruction at each distance.

* `Reference`, `Statement.reference?` : the label operand of a line;
* `Operation.instr`, `Body.wordAt` : an instruction and its word, where its label is at a distance.
-/

namespace Sixteen

/-! ## Labels and widths -/

/-- A label operand: the label, and the number of bits for its distance. -/
structure Reference where
  /-- The label. -/
  label : String
  /-- The width of the field for its distance. -/
  bits : Nat
  deriving DecidableEq, Repr

/-- The label of a target, if it is given by one. -/
def Target.reference? {n : Nat} : Target n → Option Reference
  | .label name => some ⟨name, n⟩
  | .offset _ => none

/-- The label operand of an instruction. -/
def Operation.reference? : Operation → Option Reference
  | .br _ target | .ld _ target | .ldi _ target | .lea _ target | .st _ target | .sti _ target =>
    target.reference?
  | .jsr target => target.reference?
  | .add .. | .and .. | .not .. | .jmp .. | .ret | .jsrr .. | .ldr .. | .str .. | .service .. => none

/-- The label operand of a body. -/
def Body.reference? : Body → Option Reference
  | .operation o => o.reference?
  | .literal _ => none

/-- The label operand of a line. -/
def Statement.reference? (s : Statement) : Option Reference :=
  s.body.bind Body.reference?

/-! ## Instructions at a distance -/

/-- The offset of a target, where a label is at this distance. -/
def Target.offsetAt {n : Nat} (distance : Int) : Target n → Signed n
  | .offset value => value
  | .label _ => .truncate n distance

/-- The machine's form of an instruction, where its label operand is at this distance. -/
def Operation.instr (distance : Int) : Operation → Instr
  | .add dst src1 src2 => .add dst src1 src2
  | .and dst src1 src2 => .and dst src1 src2
  | .not dst src => .not dst src
  | .br cond target => .br cond (target.offsetAt distance)
  | .jmp base => .jmp base
  | .ret => .jmp .link
  | .jsr target => .jsr (target.offsetAt distance)
  | .jsrr base => .jsrr base
  | .ld dst target => .ld dst (target.offsetAt distance)
  | .ldi dst target => .ldi dst (target.offsetAt distance)
  | .ldr dst base offset => .ldr dst base offset
  | .lea dst target => .lea dst (target.offsetAt distance)
  | .st src target => .st src (target.offsetAt distance)
  | .sti src target => .sti src (target.offsetAt distance)
  | .str src base offset => .str src base offset
  | .service s => .trap s.vector

/-- The word of a body, where its label operand is at this distance. -/
def Body.wordAt (distance : Int) : Body → Word
  | .operation o => (o.instr distance).encode
  | .literal w => w

/-- Without a label operand the distance does not matter. -/
theorem Body.wordAt_of_no_reference {b : Body} (h : b.reference? = none) (d e : Int) :
    b.wordAt d = b.wordAt e := by
  have target : ∀ {n : Nat} (t : Target n), t.reference? = none → t.offsetAt d = t.offsetAt e := by
    intro n t ht
    cases t with
    | offset value => rfl
    | label name => cases ht
  cases b with
  | literal v => rfl
  | operation o =>
    cases o <;> simp_all [wordAt, Operation.instr, reference?, Operation.reference?]

end Sixteen
