/-!
# Lines and cuts

* `pieces` : the parts of a text between the occurrences of a separating character;
* `lines` : the lines of a text. A line feed ends a line, a carriage return right before it
  belongs to the ending, and a text that ends with a line feed has no further empty line;
* `cutAt` : a text up to the first occurrence of a marker;
* `contains` : whether one text occurs in another.
-/

namespace Sixteen.Text

/-- The parts of `text` between the occurrences of `sep`; there is always at least one. -/
def pieces (sep : Char) (text : List Char) : List (List Char) :=
  text.foldr (fun c parts =>
    if c = sep then [] :: parts
    else match parts with
      | [] => [[c]]
      | part :: parts => (c :: part) :: parts) [[]]

@[simp] theorem pieces_nil (sep : Char) : pieces sep [] = [[]] := rfl

theorem pieces_cons (sep c : Char) (text : List Char) :
    pieces sep (c :: text) =
      if c = sep then [] :: pieces sep text
      else match pieces sep text with
        | [] => [[c]]
        | part :: parts => (c :: part) :: parts := rfl

/-- A line without the carriage return it ends with, if it ends with one. -/
def dropReturn (line : List Char) : List Char :=
  match line.reverse with
  | '\r' :: rest => rest.reverse
  | _ => line

/-- The lines of a text. The last part counts only if it holds something, and it keeps its
carriage return, because no line feed follows it. -/
def lines (text : List Char) : List (List Char) :=
  let parts := pieces '\n' text
  parts.dropLast.map dropReturn ++ (parts.getLast?.filter (!·.isEmpty)).toList

@[simp] theorem lines_nil : lines [] = [] := rfl

/-- The text up to the first occurrence of `marker`; all of it, if there is none. -/
def cutAt (marker : List Char) : List Char → List Char
  | [] => []
  | c :: rest => if marker.isPrefixOf (c :: rest) then [] else c :: cutAt marker rest

def contains (part : List Char) : List Char → Bool
  | [] => part.isEmpty
  | c :: rest => part.isPrefixOf (c :: rest) || contains part rest

end Sixteen.Text
