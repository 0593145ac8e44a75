/-!
# Diagnostics

An error is a cause; what is shown to a user is derived from it.

* `Diagnostic` : the message of an error, the line it stands on and a hint, the last two if any;
* `report` : the text of all three, with the hint on a line of its own.
-/

namespace Sixteen

/-- Errors that can be shown to a user. -/
class Diagnostic (ε : Type) where
  message : ε → String
  help : ε → Option String
  /-- The line of the source, counted from 1, where the error is. -/
  line : ε → Option Nat := fun _ => none

/-- An error as it is shown: the line if it is known, the message, and the hint below it. -/
def report {ε : Type} [Diagnostic ε] (e : ε) : String :=
  let place := match Diagnostic.line e with
    | some n => s!"line {n}: "
    | none => ""
  let hint := match Diagnostic.help e with
    | some text => "\n  help: " ++ text
    | none => ""
  place ++ Diagnostic.message e ++ hint

end Sixteen
