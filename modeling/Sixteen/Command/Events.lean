import Sixteen.Command.Log
import Sixteen.Assembly
import Sixteen.Listing
import Sixteen.Simulator

/-!
# What is logged on the way

* `assemblyEvents` : what happens while a program is assembled: its labels, then its words. If it
  has a fault, the events are those of the lines before;
* `Simulator.events` : what happens in the next step of a simulator.
-/

namespace Sixteen

open Command (Entry)

namespace Layout

def labelEvents (within : Nat) (l : Layout) : List Entry :=
  l.symbols.entries.map fun (label, address) =>
    { level := .debug, within := some within, message := "defined label"
      fields := [("label", label), ("addr", Listing.cell address)] }

def doneEvent (within : Nat) (l : Layout) : Entry :=
  { level := .debug, within := some within, message := "finished pass 1"
    fields := [("symbols", Numeral.decimal l.symbols.size),
      ("words", Numeral.decimal l.placements.size)] }

def wordEvent? (within : Nat) (l : Layout) (p : Placement) : Option Entry :=
  match wordOf l.symbols p with
  | .ok word => some
    { level := .trace, within := some within, message := "emitted word"
      fields := [("addr", Listing.cell p.address), ("word", Listing.cell word)] }
  | .error _ => none

/-- The words up to the first body that has none, and the end of it if there is no such body. -/
def wordEvents (within : Nat) (l : Layout) : List Entry :=
  let events := (l.placements.toList.map (wordEvent? within l)).takeWhile (·.isSome)
  let last : List Entry :=
    if events.length = l.placements.size then
      [{ level := .debug, within := some within, message := "finished pass 2"
         fields := [("words", Numeral.decimal l.placements.size)] }]
    else []
  events.filterMap id ++ last

end Layout

/-- What happens while a program is assembled. -/
def assemblyEvents (source : String) (limits : Limits := {}) : List Entry :=
  let lines := Text.lines source.toList
  let within := lines.length
  match layout limits lines with
  | .ok l => l.labelEvents within ++ l.doneEvent within :: l.wordEvents within
  | .error e =>
    match layout limits (lines.take (e.line - 1)) with
    | .ok l => l.labelEvents within
    | .error _ => []

namespace Simulator

/-- Where an instruction was fetched, and its word. -/
def fetchFields (s : Simulator) : List (String × String) :=
  [("addr", Listing.cell s.machine.pc), ("word", Listing.cell s.fetch)]

/-- What happens in the next step. -/
def events (s : Simulator) : List Entry :=
  match Instr.decode? s.fetch with
  | .error op =>
    [{ level := .debug
       message := "could not decode: " ++ Diagnostic.message (Fault.reservedOpcode op)
       fields := s.fetchFields }]
  | .ok i =>
    let step : Entry := { level := .trace, message := i.text, fields := s.fetchFields }
    match i with
    | .trap vector =>
      [step, { level := .trace, message := "trap"
               fields := [("vect", "x" ++ Numeral.hexPadded 2 vector.value)] }]
    | _ => [step]

end Simulator

end Sixteen
