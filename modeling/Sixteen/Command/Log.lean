import Sixteen.Text.Numeral
import Sixteen.Text.Visible

/-!
# Log lines

A log entry has a level, a message and named fields, and may stand inside the assembly of a program
of so many lines. Errors are always shown; the more verbose a command is asked to be, the more of
the other levels are.

* `Level`, `Entry` : what is logged;
* `Level.shownAt` : whether a level is shown at a verbosity;
* `quoted` : a text between quotation marks, as fields show the names of files;
* `Entry.line`, `Entry.jsonLine` : an entry as a line of text or of JSON.
-/

namespace Sixteen.Command

/-- How important a log entry is. -/
inductive Level where
  | error
  | info
  | debug
  | trace
  deriving DecidableEq, Repr

namespace Level

def name : Level → String
  | error => "ERROR"
  | info => "INFO"
  | debug => "DEBUG"
  | trace => "TRACE"

/-- Whether entries of a level are shown: errors always, information and debugging output from the
first degree of verbosity on, tracing from the second. -/
def shownAt (verbosity : Nat) : Level → Bool
  | error => true
  | info => 1 ≤ verbosity
  | debug => 1 ≤ verbosity
  | trace => 2 ≤ verbosity

end Level

/-- A log entry. -/
structure Entry where
  level : Level
  /-- The number of lines of the program that is being assembled, if one is. -/
  within : Option Nat := none
  message : String
  /-- What it happened to: names and values. -/
  fields : List (String × String) := []
  deriving DecidableEq, Repr

/-- A character of a quoted text: quotation marks, backslashes and what is not visible are
escaped. -/
def quotedChar (c : Char) : List Char :=
  if c = '"' then ['\\', '"']
  else if c = '\\' then ['\\', '\\']
  else if c = '\n' then ['\\', 'n']
  else if c = '\r' then ['\\', 'r']
  else if c = '\t' then ['\\', 't']
  else if c = '\x00' then ['\\', '0']
  else if Text.isVisible c then [c]
  else ['\\', 'u', '\x7b'] ++ Nat.toDigits 16 c.toNat ++ ['\x7d']

def quoted (text : String) : String :=
  String.ofList ('"' :: text.toList.flatMap quotedChar ++ ['"'])

/-- A character of a message: those that could steer a terminal are escaped. -/
def plainChar (c : Char) : List Char :=
  if c = '\x1b' || c = '\x07' || c = '\x08' || c = '\x0c' || c = '\x7f' then
    '\\' :: 'x' :: (Numeral.hex c.toNat).toList.leftpad 2 '0'
  else if '\x80' ≤ c && c ≤ '\x9f' then
    ['\\', 'u', '\x7b'] ++ Nat.toDigits 16 c.toNat ++ ['\x7d']
  else [c]

def plain (text : String) : String :=
  String.ofList (text.toList.flatMap plainChar)

def jsonChar (c : Char) : List Char :=
  if c = '"' then ['\\', '"']
  else if c = '\\' then ['\\', '\\']
  else if c = '\n' then ['\\', 'n']
  else if c < ' ' then '\\' :: 'u' :: (Nat.toDigits 16 c.toNat).leftpad 4 '0'
  else [c]

def jsonText (text : String) : String :=
  String.ofList ('"' :: text.toList.flatMap jsonChar ++ ['"'])

namespace Entry

/-- An entry as a line of text: its level in five columns, where it stands, its message, its
fields. -/
def line (e : Entry) : String :=
  let level := String.ofList (e.level.name.toList.leftpad 5 ' ')
  let place := match e.within with
    | some n => "assemble_with\x7blines=" ++ Numeral.decimal n ++ "\x7d: "
    | none => ""
  let fields := e.fields.map fun (name, value) => " " ++ name ++ "=" ++ value
  level ++ " " ++ place ++ plain e.message ++ String.join fields ++ "\n"

def jsonLine (e : Entry) : String :=
  let pairs := ("message", e.message) :: e.fields
  let fields := pairs.map fun (name, value) => jsonText name ++ ":" ++ jsonText value
  "\x7b\"level\":" ++ jsonText e.level.name ++ ",\"fields\":\x7b" ++ ",".intercalate fields
    ++ "\x7d\x7d\n"

end Entry

end Sixteen.Command
