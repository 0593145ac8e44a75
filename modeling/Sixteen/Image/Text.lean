import Sixteen.Image.Binary
import Sixteen.Text.Blank
import Sixteen.Text.Lines
import Sixteen.Text.Numeral
import Sixteen.Text.Utf8

/-!
# Text images

A text image is a header line, then the origin and the words in base sixteen, one on a line. When it
is read, `//` starts a comment, blanks at the ends of a line do not count, and neither do lines that
are empty then.

* `Image.toText`, `Image.ofText?` : an image and its text form;
* `Image.ofFile?` : an image in either form. The header anywhere in a text tells the forms apart.
-/

namespace Sixteen.Image

/-- The first line of a text image. -/
def header : String := "X16 OBJ FILE"

def wordText (w : Word) : String :=
  Numeral.hexPadded 4 w.toNat

def toText (o : Image) : String :=
  String.join ((header :: (o.origin :: o.words).map wordText).map (· ++ "\n"))

/-- The lines of a text image that count, without comments and blanks. -/
def dataLines (text : List Char) : List (List Char) :=
  ((Text.lines text).map fun line => Text.trim (Text.cutAt ['/', '/'] line)).filter (!·.isEmpty)

def readWord? (line : List Char) : Option Word :=
  (Numeral.readSigned? 16 0x10000 line).map (BitVec.ofNat 16)

def ofText? (text : List Char) : Option Image :=
  match dataLines text with
  | first :: rest => if first = header.toList then (rest.mapM readWord?).bind ofWords? else none
  | [] => none

/-- The image of the contents of a file. Valid text that holds the header is read as a text image,
everything else as a binary one. -/
def ofFile? (bytes : List UInt8) : Option Image :=
  match Utf8.decode? bytes with
  | some text =>
    if Text.contains header.toList text.toList then ofText? text.toList else ofBytes? bytes
  | none => ofBytes? bytes

end Sixteen.Image
