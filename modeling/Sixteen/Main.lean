import Sixteen.Command.Execute

/-!
# The program

The commands over the terminal and the files of the system.
-/

namespace Sixteen.Command

/-- The number of a failure. Some calls of the system report it negated. -/
def failureNumber (code : UInt32) : Nat :=
  if code < 0x80000000 then code.toNat else (0 - code).toNat

/-- The reason why the system refused a file. -/
def FileError.ofIO (e : IO.Error) : FileError :=
  match e with
  | .noFileOrDirectory .. => .notFound
  | .permissionDenied .. => .denied
  | .inappropriateType _ code _ => if failureNumber code = 20 then .notDirectory else .isDirectory
  | .invalidArgument _ code _ =>
    if failureNumber code = 36 then .nameTooLong else .other (toString e)
  | .resourceExhausted _ code _ =>
    if failureNumber code = 28 then .noSpace else .other (toString e)
  | _ => .other (toString e)

/-- Runs an action of the system and returns its failure. -/
def attempt {ε α : Type} (fail : IO.Error → ε) (action : IO α) : IO (Except ε α) :=
  try return .ok (← action) catch e => return .error (fail e)

instance : Host IO where
  readByte := do
    let bytes ← attempt (fun _ => ConsoleError.failed) do (← IO.getStdin).read 1
    return bytes.bind fun bytes => match bytes.data.toList with
      | b :: _ => .ok b
      | [] => .error .closed
  writeBytes bytes := attempt (fun _ => ConsoleError.failed) do
    let out ← IO.getStdout
    out.write ⟨bytes.toArray⟩
    out.flush
  readFile path := attempt .ofIO do return (← IO.FS.readBinFile path).data.toList
  writeFile path bytes := attempt .ofIO (IO.FS.writeBinFile path ⟨bytes.toArray⟩)
  log text := IO.eprint text

end Sixteen.Command

def main (args : List String) : IO UInt32 :=
  Sixteen.Command.runArguments args
