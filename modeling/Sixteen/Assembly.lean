import Sixteen.Statement.Resolve
import Sixteen.Text.Lines
import Sixteen.Image.Basic

/-!
# Assembling programs

A program is laid out before any word of it is computed, since a label may be used before the line
that defines it. Laying out reads the lines in order, gives every body the next address and every
label the address of the body that comes next. Then every body has its word. The first line that
cannot be laid out is the fault of the program; only if there is none, the first body that has no
word is.

* `Layout` : the labels and the bodies of the lines read so far;
* `Layout.addLine`, `Layout.addLines` : reads one line, or lines one after the other;
* `Layout.words` : the words of the bodies;
* `assemble` : the image of a program.
-/

namespace Sixteen

/-- A body, its line and its address. -/
structure Placement where
  /-- The line, counted from 1. -/
  line : Nat
  address : Word
  body : Body
  deriving DecidableEq, Repr

/-- What a program is known to hold after some of its lines. -/
structure Layout where
  symbols : SymbolTable
  /-- The bodies, in the order of their addresses. -/
  placements : Array Placement
  deriving DecidableEq, Repr

namespace Layout

/-- The most words that a program can have. -/
def capacity : Nat :=
  memorySize - programOrigin.toNat

def empty (limits : Limits) : Layout :=
  ⟨.empty limits, #[]⟩

def next (l : Layout) : Word :=
  programOrigin + BitVec.ofNat 16 l.placements.size

def addLabel (l : Layout) (line : Nat) : Option String → Except AssemblyFault Layout
  | none => .ok l
  | some name =>
    let address := l.next
    let ⟨symbols, placements⟩ := l
    match symbols.attempt ⟨name, address, line⟩ with
    | (.ok (), symbols) => .ok ⟨symbols, placements⟩
    | (.error e, _) => .error (.symbol e)

def addBody (l : Layout) (line : Nat) : Option Body → Layout
  | none => l
  | some body =>
    let address := l.next
    { l with placements := l.placements.push ⟨line, address, body⟩ }

/-- Adds a statement. Once memory is full there is no address left for one, not even for a label. -/
def addStatement (l : Layout) (line : Nat) (s : Statement) : Except AssemblyFault Layout :=
  if l.placements.size < capacity then
    match l.addLabel line s.label with
    | .ok l => .ok (l.addBody line s.body)
    | .error e => .error e
  else .error .programTooLarge

def addLine (l : Layout) (line : Nat) (text : List Char) : Except AssemblyFault Layout :=
  let text := normalize text
  if text.isEmpty then .ok l
  else match Statement.parse text with
    | .ok s => l.addStatement line s
    | .error e => .error (.ofParse e)

/-- Adds lines, the first of which has the number `line`. -/
def addLines (l : Layout) (line : Nat) : List (List Char) → Except AssemblyError Layout
  | [] => .ok l
  | text :: rest =>
    match l.addLine line text with
    | .ok l => l.addLines (line + 1) rest
    | .error fault => .error ⟨line, fault⟩

/-- The word of a placement among the labels of a layout. -/
def wordOf (symbols : SymbolTable) (p : Placement) : Except AssemblyError Word :=
  (p.body.word p.address symbols).mapError (⟨p.line, ·⟩)

def words (l : Layout) : Except AssemblyError (List Word) :=
  l.placements.toList.mapM (wordOf l.symbols)

end Layout

/-- The layout of a program, given by its lines. -/
def layout (limits : Limits) (lines : List (List Char)) : Except AssemblyError Layout :=
  (Layout.empty limits).addLines 1 lines

/-- Assembles a program. -/
def assemble (source : String) (limits : Limits := {}) : Except AssemblyError Image := do
  let l ← layout limits (Text.lines source.toList)
  return ⟨programOrigin, ← l.words⟩

end Sixteen
