/-!
# Upper case, as far as it reaches ASCII

Names of instructions are written in ASCII capitals, and a word is compared with them after it has
been put into upper case. Of the characters outside ASCII only ten have an upper case that is all
ASCII, some of them in two or three letters; every other one keeps a character outside ASCII and so
can never turn a word into the name of an instruction. It is enough to leave those as they are.

* `asciiUppers`, `upperChar` : the ten, and a character in upper case;
* `upper` : a word in upper case.
-/

namespace Sixteen.Text

/-- The characters outside ASCII whose upper case is all ASCII. -/
def asciiUppers : List (Char × List Char) :=
  [('\xdf', ['S', 'S']), ('\u0131', ['I']), ('\u017f', ['S']), ('\ufb00', ['F', 'F']),
    ('\ufb01', ['F', 'I']), ('\ufb02', ['F', 'L']), ('\ufb03', ['F', 'F', 'I']),
    ('\ufb04', ['F', 'F', 'L']), ('\ufb05', ['S', 'T']), ('\ufb06', ['S', 'T'])]

/-- The upper case of a character: ASCII letters, and the ten further characters whose upper case
is ASCII. Every other character stands for itself. -/
def upperChar (c : Char) : List Char :=
  if c.toNat < 128 then [c.toUpper] else (asciiUppers.lookup c).getD [c]

def upper (word : List Char) : List Char :=
  word.flatMap upperChar

end Sixteen.Text
