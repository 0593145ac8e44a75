/-!
# Consoles

A machine talks to a console one byte at a time. The monad of a computation holds the console, so
that the same routines run over a console that is a value and over the terminal.

* `ConsoleError` : how a console refuses;
* `Console` : a monad in which bytes can be read and written;
* `Console.Null`, `Console.Buffered`, `Console.Channel` : consoles that are values.
-/

namespace Sixteen

/-- How a console refuses. -/
inductive ConsoleError where
  /-- No input is left, and none will come. -/
  | closed
  | failed
  deriving DecidableEq, Repr

/-- Computations that can use a console. -/
class Console (m : Type → Type) where
  readByte : m (Except ConsoleError UInt8)
  writeBytes : List UInt8 → m (Except ConsoleError Unit)

namespace Console

/-- A console without input that drops its output. -/
structure Null where

instance : Console (StateM Null) where
  readByte := fun c => (.error .closed, c)
  writeBytes _ := fun c => (.ok (), c)

/-- A console that reads from one buffer and writes to another. -/
structure Buffered where
  input : List UInt8 := []
  output : Array UInt8 := #[]
  deriving DecidableEq, Repr

instance : Console (StateM Buffered) where
  readByte := fun
    | ⟨[], output⟩ => (.error .closed, ⟨[], output⟩)
    | ⟨b :: input, output⟩ => (.ok b, ⟨input, output⟩)
  writeBytes bytes := fun ⟨input, output⟩ => (.ok (), ⟨input, output ++ bytes⟩)

/-- A console at one end of two channels. All input was sent before the other end stopped sending;
output is dropped when nobody listens. -/
structure Channel where
  input : List UInt8 := []
  /-- The bytes that a listener has received. -/
  output : Array UInt8 := #[]
  listening : Bool := true
  deriving DecidableEq, Repr

instance : Console (StateM Channel) where
  readByte := fun
    | ⟨[], output, listening⟩ => (.error .closed, ⟨[], output, listening⟩)
    | ⟨b :: input, output, listening⟩ => (.ok b, ⟨input, output, listening⟩)
  writeBytes bytes := fun ⟨input, output, listening⟩ =>
    (.ok (), ⟨input, if listening then output ++ bytes else output, listening⟩)

end Console

end Sixteen
