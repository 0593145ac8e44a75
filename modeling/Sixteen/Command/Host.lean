import Sixteen.Console.Basic

/-!
# Where commands run

A command reads and writes files, talks to a console and logs. The monad of the command says how.

* `FileError` : why a file cannot be read or written, with its two wordings;
* `Host` : computations that can do what a command does.
-/

namespace Sixteen.Command

/-- Why a file cannot be read or written. -/
inductive FileError where
  | notFound
  | isDirectory
  /-- What should be a directory is a file. -/
  | notDirectory
  | nameTooLong
  | noSpace
  | denied
  | notText
  | other (text : String)
  deriving DecidableEq, Repr

namespace FileError

def text : FileError → String
  | notFound => "No such file or directory (os error 2)"
  | isDirectory => "Is a directory (os error 21)"
  | notDirectory => "Not a directory (os error 20)"
  | nameTooLong => "File name too long (os error 36)"
  | noSpace => "No space left on device (os error 28)"
  | denied => "Permission denied (os error 13)"
  | notText => "stream did not contain valid UTF-8"
  | other text => text

def kind : FileError → String
  | notFound => "entity not found"
  | isDirectory => "is a directory"
  | notDirectory => "not a directory"
  | nameTooLong => "invalid filename"
  | noSpace => "no storage space"
  | denied => "permission denied"
  | notText => "invalid data"
  | other _ => "uncategorized error"

end FileError

/-- Computations that can use files, a console and a log. What they write to the console is the
standard output. -/
class Host (m : Type → Type) extends Console m where
  readFile : String → m (Except FileError (List UInt8))
  /-- Writes a file, a new one or in place of an old one. -/
  writeFile : String → List UInt8 → m (Except FileError Unit)
  log : String → m Unit

instance {ε : Type} {m : Type → Type} [Monad m] [Host m] : Host (ExceptT ε m) where
  readByte := ExceptT.lift Console.readByte
  writeBytes bytes := ExceptT.lift (Console.writeBytes bytes)
  readFile path := ExceptT.lift (Host.readFile path)
  writeFile path bytes := ExceptT.lift (Host.writeFile path bytes)
  log text := ExceptT.lift (Host.log text)

end Sixteen.Command
