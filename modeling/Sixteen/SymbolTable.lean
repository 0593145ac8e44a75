import Sixteen.Word.Field

/-!
# Symbol tables

A table maps the labels of a program to their addresses. It keeps them in the order in which they
were defined, refuses a label that is defined already, and is bounded in the number of labels and in
the length of each.

* `SymbolTable.insert` : defines a label in a table, or says why not;
* `SymbolTable.attempt` : what comes of a table when a label is to be defined;
* `SymbolTable.find?`, `SymbolTable.labelAt?` : the address of a label, and the first label of an
  address;
* `SymbolTable.entries` : the labels and their addresses in the order of definition.
-/

namespace Sixteen

/-- How many labels a table takes, and how many bytes long each may be. -/
structure Limits where
  /-- The greatest number of labels. -/
  symbols : Nat := 10000
  /-- The greatest length of a label in bytes. -/
  labelLength : Nat := 50
  deriving DecidableEq, Repr

/-- A label, the address it stands for and the line that defines it. -/
structure Symbol where
  label : String
  address : Word
  line : Nat
  deriving DecidableEq, Repr

/-- Why a label cannot be defined. -/
inductive SymbolError where
  /-- It was defined on an earlier line. -/
  | duplicate (label : String) (firstLine : Nat)
  | tooLong (label : String)
  | full
  deriving DecidableEq, Repr

/-- The symbols of a program, in the order of definition, and the limits on them. -/
structure SymbolTable where
  limits : Limits
  symbols : Array Symbol
  deriving DecidableEq, Repr

namespace SymbolTable

def empty (limits : Limits) : SymbolTable :=
  ⟨limits, #[]⟩

def size (t : SymbolTable) : Nat :=
  t.symbols.size

def isEmpty (t : SymbolTable) : Bool :=
  t.symbols.isEmpty

def symbol? (t : SymbolTable) (label : String) : Option Symbol :=
  t.symbols.find? (·.label = label)

def find? (t : SymbolTable) (label : String) : Option Word :=
  (t.symbol? label).map (·.address)

/-- The label that was defined first among those of an address. -/
def labelAt? (t : SymbolTable) (address : Word) : Option String :=
  (t.symbols.find? (·.address = address)).map (·.label)

/-- The labels and their addresses, in the order of definition. -/
def entries (t : SymbolTable) : List (String × Word) :=
  t.symbols.toList.map fun s => (s.label, s.address)

/-- Defines a label at an address, on a line. A label that is defined already is refused as such
even if it is too long or the table is full. -/
def insert (label : String) (address : Word) (line : Nat) :
    ExceptT SymbolError (StateM SymbolTable) Unit := do
  let t ← get
  match t.symbol? label with
  | some first => throw (.duplicate label first.line)
  | none =>
    if t.limits.labelLength < label.utf8ByteSize then throw (.tooLong label)
    else if t.limits.symbols ≤ t.size then throw .full
    else modify fun t => { t with symbols := t.symbols.push ⟨label, address, line⟩ }

/-- Tries to define a label: whether it was taken, and the table after that. -/
def attempt (t : SymbolTable) (s : Symbol) : Except SymbolError Unit × SymbolTable :=
  StateT.run (m := Id) (insert s.label s.address s.line).run t

@[simp] theorem entries_empty (limits : Limits) : (empty limits).entries = [] := rfl

end SymbolTable

end Sixteen
