import Sixteen.Text.Numeral

/-!
# Command-line arguments

    asm <input> [-o|--output <file>] [--text]
    run <image> [-l|--limit <number>] [-s|--seed <number>]
    disasm <image>

Every command also takes `-v|--verbose`, as often as one likes, and `-j|--json`; these two may stand
before the name of the command. A value stands in the next argument, after an equals sign, or right
behind the letter of its option; letters of options without a value may share a dash; and after `--`
nothing is an option.

* `Options`, `Task` : what a command line asks for;
* `Item`, `items?` : the options and the other arguments of a list;
* `Options.parse?` : reads a command line; there is no result if it is used wrongly.
-/

namespace Sixteen.Command

/-! ## What is asked for -/

/-- A command with its parameters. -/
inductive Task where
  /-- Assemble a program to an image, binary or text. -/
  | assemble (input output : String) (text : Bool)
  /-- Run an image, at most so many instructions, in a machine filled from a seed or with zeros. -/
  | run (image : String) (limit : Option Nat) (seed : Option UInt64)
  | disassemble (image : String)
  deriving DecidableEq, Repr

/-- What a command line asks for. -/
structure Options where
  verbosity : Nat
  json : Bool
  task : Task
  deriving DecidableEq, Repr

/-! ## Options and other arguments -/

/-- The options. -/
inductive Key where
  | verbose
  | json
  | output
  | text
  | limit
  | seed
  deriving DecidableEq, Repr

namespace Key

def long : Key → List Char
  | verbose => "verbose".toList
  | json => "json".toList
  | output => "output".toList
  | text => "text".toList
  | limit => "limit".toList
  | seed => "seed".toList

def letter? : Key → Option Char
  | verbose => some 'v'
  | json => some 'j'
  | output => some 'o'
  | text => none
  | limit => some 'l'
  | seed => some 's'

def takesValue : Key → Bool
  | output | limit | seed => true
  | verbose | json | text => false

def shared : List Key :=
  [verbose, json]

end Key

/-- An argument by its role. -/
inductive Item where
  | option (key : Key) (value : String)
  | free (text : String)
  deriving DecidableEq, Repr

/-- What the letters behind a dash ask for: options, and perhaps a last one whose value is the next
argument. -/
def cluster? (keys : List Key) : List Char → Option (List Item × Option Key)
  | [] => some ([], none)
  | c :: rest =>
    match keys.find? (·.letter? = some c) with
    | none => none
    | some key =>
      if key.takesValue then
        match rest with
        | [] => some ([], some key)
        | '=' :: value => some ([.option key (String.ofList value)], none)
        | value => some ([.option key (String.ofList value)], none)
      else (cluster? keys rest).map fun (items, last) => (.option key "" :: items, last)

/-- What a long option asks for: the option with its value, or one whose value is the next
argument. -/
def long? (keys : List Key) (text : List Char) : Option (List Item × Option Key) :=
  let name := text.takeWhile (· ≠ '=')
  match keys.find? (·.long = name), text.dropWhile (· ≠ '=') with
  | none, _ => none
  | some key, [] => some (if key.takesValue then ([], some key) else ([.option key ""], none))
  | some key, _ :: value =>
    if key.takesValue then some ([.option key (String.ofList value)], none) else none

/-- Whether an argument is taken for options, and so for no value. -/
def looksLikeOption (arg : String) : Bool :=
  match arg.toList with
  | '-' :: _ :: _ => true
  | _ => false

/-- The items of arguments, and those left over. With `command` set, reading stops at the first
argument that is no option, which names a command. -/
def items? (keys : List Key) (command : Bool) : List String → Option (List Item × List String)
  | [] => some ([], [])
  | arg :: rest =>
    if looksLikeOption arg then
      let asked? := match arg.toList with
        | '-' :: '-' :: [] => some none
        | '-' :: '-' :: text => (long? keys text).map some
        | _ :: letters => (cluster? keys letters).map some
        | [] => none
      match asked?, rest with
      | none, _ => none
      | some none, rest => if command then none else some (rest.map .free, [])
      | some (some (found, none)), rest =>
        (items? keys command rest).map fun (items, left) => (found ++ items, left)
      | some (some (_, some _)), [] => none
      | some (some (found, some key)), value :: rest =>
        if looksLikeOption value then none
        else (items? keys command rest).map fun (items, left) =>
          (found ++ .option key value :: items, left)
    else if command then some ([], arg :: rest)
    else (items? keys command rest).map fun (items, left) => (.free arg :: items, left)

/-! ## Reading a command line -/

def valuesOf (key : Key) (items : List Item) : List String :=
  items.filterMap fun
    | .option k value => if k = key then some value else none
    | .free _ => none

def freeArguments (items : List Item) : List String :=
  items.filterMap fun
    | .option .. => none
    | .free text => some text

/-- The value of an option that may be given at most once; the outer result is missing if it is
given more often. -/
def atMostOnce (key : Key) (items : List Item) : Option (Option String) :=
  match valuesOf key items with
  | [] => some none
  | [value] => some (some value)
  | _ => none

def fileName? (text : String) : Option String :=
  if text.isEmpty then none else some text

/-- A number of 64 bits. -/
def number? (text : String) : Option Nat :=
  Numeral.readSigned? 10 0x10000000000000000 text.toList

/-- Reads the value of an option that may be given at most once. -/
def optional? {α : Type} (key : Key) (read : String → Option α) (items : List Item) :
    Option (Option α) := do
  match ← atMostOnce key items with
  | none => return none
  | some value => return some (← read value)

/-- The only argument that is no option, the name of a file. -/
def onlyFile? (items : List Item) : Option String :=
  match freeArguments items with
  | [text] => fileName? text
  | _ => none

namespace Task

/-- The options of a command besides those that every command takes. -/
def keysOf? : String → Option (List Key)
  | "asm" => some [.output, .text]
  | "run" => some [.limit, .seed]
  | "disasm" => some []
  | _ => none

def ofItems? (name : String) (items : List Item) : Option Task := do
  let file ← onlyFile? items
  match name with
  | "asm" =>
    let output ← optional? .output fileName? items
    let text ← atMostOnce .text items
    return .assemble file (output.getD "a.obj") text.isSome
  | "run" =>
    let limit ← optional? .limit number? items
    let seed ← optional? .seed number? items
    return .run file limit (seed.map UInt64.ofNat)
  | "disasm" => return .disassemble file
  | _ => none

end Task

/-- Reads a command line. Verbosity that is asked for behind the name of the command counts in place
of that asked for before it. -/
def Options.parse? (args : List String) : Option Options := do
  let (before, left) ← items? Key.shared true args
  match left with
  | [] => none
  | name :: rest =>
    let keys ← Task.keysOf? name
    let (behind, _) ← items? (Key.shared ++ keys) false rest
    let task ← Task.ofItems? name behind
    let jsonBefore ← atMostOnce .json before
    let jsonBehind ← atMostOnce .json behind
    let countBefore := (valuesOf .verbose before).length
    let countBehind := (valuesOf .verbose behind).length
    return {
      verbosity := if countBehind = 0 then countBefore else countBehind
      json := jsonBefore.isSome || jsonBehind.isSome
      task }

def usage : String :=
  "Usage: x16 [-v] [-j] asm <input> [-o <file>] [--text]
       x16 [-v] [-j] run <image> [-l <number>] [-s <number>]
       x16 [-v] [-j] disasm <image>
"

end Sixteen.Command
