/-!
# Blank characters

* `isBlank` : the twenty-five characters of the Unicode property `White_Space`;
* `trim` : a text without the blanks at its two ends.
-/

namespace Sixteen.Text

/-- Whether `c` is one of the twenty-five white space characters of Unicode. -/
def isBlank (c : Char) : Bool :=
  ('\x09' ≤ c && c ≤ '\x0d') || c == ' ' || c == '\x85' || c == '\xa0' || c == '\u1680'
    || ('\u2000' ≤ c && c ≤ '\u200a') || c == '\u2028' || c == '\u2029' || c == '\u202f'
    || c == '\u205f' || c == '\u3000'

def trimEnd (text : List Char) : List Char :=
  (text.reverse.dropWhile isBlank).reverse

def trim (text : List Char) : List Char :=
  trimEnd (text.dropWhile isBlank)

@[simp] theorem trim_nil : trim [] = [] := rfl

end Sixteen.Text
