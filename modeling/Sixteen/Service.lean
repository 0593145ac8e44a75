import Sixteen.Operand

/-!
# Console services

A trap instruction asks for a service by its vector. Six vectors have a service; each service has a
mnemonic of its own.

* `Service.vector`, `Service.ofVector?` : the number of a service and back;
* `Service.name` : its mnemonic.
-/

namespace Sixteen

/-- What a trap instruction can ask for. -/
inductive Service where
  | getc
  | putc
  /-- Write a string, one character in a word. -/
  | puts
  /-- Ask for a character, read it and echo it. -/
  | enter
  /-- Write a string, two characters in a word. -/
  | putsp
  | halt
  deriving DecidableEq, Repr

namespace Service

def all : List Service :=
  [getc, putc, puts, enter, putsp, halt]

def vector : Service → Unsigned 8
  | getc => ⟨0x20⟩
  | putc => ⟨0x21⟩
  | puts => ⟨0x22⟩
  | enter => ⟨0x23⟩
  | putsp => ⟨0x24⟩
  | halt => ⟨0x25⟩

def ofVector? (v : Unsigned 8) : Option Service :=
  all.find? (·.vector = v)

def name : Service → String
  | getc => "getc"
  | putc => "putc"
  | puts => "puts"
  | enter => "enter"
  | putsp => "putsp"
  | halt => "halt"

@[simp] theorem ofVector?_vector (s : Service) : ofVector? s.vector = some s := by
  cases s <;> decide

theorem vector_of_ofVector? {v : Unsigned 8} {s : Service} (h : ofVector? v = some s) :
    s.vector = v := by
  simpa using List.find?_some h

end Service

end Sixteen
