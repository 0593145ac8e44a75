import Sixteen.Command.Arguments
import Sixteen.Command.Events
import Sixteen.Command.Host
import Sixteen.Image.Text

/-!
# Commands

* `CommandError` : why a command fails;
* `assembleFile`, `runFile`, `disassembleFile` : the commands, over any host;
* `execute` : a command with its log, down to the exit code; `runArguments` starts from the command
  line.

Nothing is written before a program has been assembled, so a program with a fault leaves every file
as it was.
-/

namespace Sixteen.Command

/-! ## Faults -/

/-- Why a command fails. -/
inductive CommandError where
  | unreadable (path : String) (error : FileError)
  | unwritable (path : String) (error : FileError)
  /-- A file could be neither read nor written; only the kind of the reason is told. -/
  | inaccessible (path : String) (error : FileError)
  | notImage (path : String)
  | program (error : AssemblyError)
  | machine (fault : Fault)
  deriving DecidableEq, Repr

def CommandError.message : CommandError → String
  | unreadable path error => s!"could not read {path}: {error.text}"
  | unwritable path error => s!"could not write {path}: {error.text}"
  | inaccessible path error => s!"could not access {path}: {error.kind}"
  | notImage path => s!"{path} is not a valid object image"
  | program error => report error
  | machine fault => report fault

section
variable {m : Type → Type} [Monad m] [Host m]

/-! ## Logging -/

@[specialize] def logEntry (o : Options) (e : Entry) : m Unit :=
  if e.level.shownAt o.verbosity then Host.log (if o.json then e.jsonLine else e.line)
  else pure ()

@[specialize] def logEntries (o : Options) : List Entry → m Unit
  | [] => pure ()
  | e :: rest => do
    logEntry o e
    logEntries o rest

/-- Logs entries that are worked out only if something of them can be shown. -/
@[specialize] def logDetails (o : Options) (entries : Unit → List Entry) : m Unit :=
  if o.verbosity = 0 then pure () else logEntries o (entries ())

/-! ## Files -/

/-- Reads a file, and turns a failure into one of the command. -/
@[specialize] def readBytes (fail : FileError → CommandError) (path : String) :
    ExceptT CommandError m (List UInt8) :=
  ExceptT.mk (Except.mapError fail <$> Host.readFile path)

@[specialize] def readText (fail : FileError → CommandError) (path : String) :
    ExceptT CommandError m String := do
  match Utf8.decode? (← readBytes fail path) with
  | some text => return text
  | none => throw (fail .notText)

/-- Writes a file, and turns a failure into one of the command. -/
@[specialize] def writeBytes (fail : FileError → CommandError) (path : String)
    (bytes : List UInt8) : ExceptT CommandError m Unit :=
  ExceptT.mk (Except.mapError fail <$> Host.writeFile path bytes)

@[specialize] def readImage (path : String) : ExceptT CommandError m Image := do
  match Image.ofFile? (← readBytes (.unreadable path) path) with
  | some image => return image
  | none => throw (.notImage path)

/-! ## The commands -/

/-- The bytes of an image in the form that is asked for. -/
def imageBytes (text : Bool) (image : Image) : List UInt8 :=
  if text then Utf8.encode image.toText else image.toBytes

@[specialize] def assembleFile (o : Options) (input output : String) (text : Bool) :
    ExceptT CommandError m Unit := do
  logEntry o { level := .info, message := "Assembling program", fields := [("path", quoted input)] }
  let source ← readText (if text then .unreadable input else .inaccessible input) input
  logDetails o fun _ => assemblyEvents source
  let image ← match assemble source with
    | .ok image => pure image
    | .error e => throw (.program e)
  writeBytes (if text then .unwritable output else .inaccessible output) output
    (imageBytes text image)
  if !text then
    logEntry o { level := .debug, message := "wrote object file"
                 fields := [("input", input), ("output", output)] }
  logEntry o
    { level := .info, message := "Wrote object file"
      fields := [("path", quoted output), ("origin", Listing.cell image.origin),
        ("words", Numeral.decimal image.size)] }

def limitText : Option Nat → String
  | some n => "Some(" ++ Numeral.decimal n ++ ")"
  | none => "None"

@[specialize] def runFile (o : Options) (path : String) (limit : Option Nat)
    (seed : Option UInt64) : ExceptT CommandError m Unit := do
  logEntry o { level := .info, message := "Loading program", fields := [("path", quoted path)] }
  let image ← readImage path
  let fill := match seed with
    | some seed => Fill.seeded seed
    | none => .zeroed
  logEntry o
    { level := .debug, message := "loaded object file"
      fields := [("origin", Listing.cell image.origin), ("words", Numeral.decimal image.size)] }
  logEntry o
    { level := .debug, message := "Running program", fields := [("limit", limitText limit)] }
  let steps := limit.getD Simulator.forever
  let (result, s) ← ExceptT.lift (m := m)
    (((Simulator.new fill).load image).runWatched (fun s => logDetails o fun _ => s.events) steps)
  let count := Numeral.decimal s.count
  match Simulator.orLimit steps result with
  | .ok _ =>
    logEntry o
      { level := .debug, message := "program halted", fields := [("instructions_run", count)] }
    logEntry o { level := .info, message := "Program halted", fields := [("instructions", count)] }
  | .error fault =>
    logEntry o
      { level := .debug, message := "Program stopped"
        fields := [("pc", Listing.cell s.machine.pc), ("instructions", count)] }
    throw (.machine fault)

@[specialize] def disassembleFile (o : Options) (path : String) : ExceptT CommandError m Unit := do
  logEntry o
    { level := .info, message := "Reading object image", fields := [("path", quoted path)] }
  let image ← readImage path
  let _ ← Console.writeBytes (Utf8.encode (disassemble image.origin image.words))

@[specialize] def perform (o : Options) : ExceptT CommandError m Unit :=
  match o.task with
  | .assemble input output text => assembleFile o input output text
  | .run image limit seed => runFile o image limit seed
  | .disassemble image => disassembleFile o image

/-- A command down to its exit code: 0 if it succeeds, 1 if it fails, with the reason in the log. -/
@[specialize] def execute (o : Options) : m UInt32 := do
  match ← (perform o).run with
  | .ok _ => return 0
  | .error e =>
    logEntry o { level := .error, message := e.message }
    return 1

/-- A command line down to its exit code, which is 2 if it is used wrongly. -/
@[specialize] def runArguments (args : List String) : m UInt32 := do
  match Options.parse? args with
  | some o => execute o
  | none =>
    Host.log usage
    return 2

end

end Sixteen.Command
