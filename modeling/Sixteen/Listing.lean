import Sixteen.Instr.Text

/-!
# Listings

A listing shows a block of words, one on a line: its address, the word and the instruction. A word
that is not the exact encoding of an instruction is shown as a value, so that what a line shows
assembles to the word it shows.

* `Listing.statement` : the assembly text of a word;
* `Listing.lines` : the lines for a block of words; addresses wrap at the end of memory;
* `disassemble` : the listing as one text.
-/

namespace Sixteen

namespace Listing

/-- The assembly text of a word. -/
def statement (w : Word) : String :=
  match Instr.decode? w with
  | .ok i => if i.encode = w then i.text else "val " ++ w.literal
  | .error _ => "val " ++ w.literal

/-- A word or an address in four digits. -/
def cell (w : Word) : String :=
  "x" ++ Numeral.hexPadded 4 w.toNat

def line (address w : Word) : String :=
  cell address ++ ": " ++ cell w ++ "  " ++ statement w

def lines (origin : Word) (words : List Word) : List String :=
  words.zipIdx.map fun (w, i) => line (origin + BitVec.ofNat 16 i) w

end Listing

/-- The listing of a block of words from `origin` up. -/
def disassemble (origin : Word) (words : List Word) : String :=
  String.join ((Listing.lines origin words).map (· ++ "\n"))

end Sixteen
