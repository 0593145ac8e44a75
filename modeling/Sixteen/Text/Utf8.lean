/-!
# Bytes and text

* `encode` : the UTF-8 bytes of a text;
* `decode?` : the text that bytes encode, if they are valid;
* `decodeLossy` : the text that bytes encode, where every longest run of bytes that begins an
  encoding and then breaks off, and every byte that begins none, reads as the replacement character.
-/

namespace Sixteen.Utf8

def encode (text : String) : List UInt8 :=
  text.toUTF8.data.toList

def decode? (bytes : List UInt8) : Option String :=
  String.fromUTF8? ⟨bytes.toArray⟩

/-- The character that stands for what cannot be decoded. -/
def replacement : Char := '\ufffd'

def within (lo hi b : UInt8) : Bool :=
  lo ≤ b && b ≤ hi

def isTail (b : UInt8) : Bool :=
  within 0x80 0xbf b

/-- Whether `b` may follow `lead` in an encoding of three bytes. -/
def second3 (lead b : UInt8) : Bool :=
  if lead = 0xe0 then within 0xa0 0xbf b
  else if lead = 0xed then within 0x80 0x9f b
  else isTail b

/-- Whether `b` may follow `lead` in an encoding of four bytes. -/
def second4 (lead b : UInt8) : Bool :=
  if lead = 0xf0 then within 0x90 0xbf b
  else if lead = 0xf4 then within 0x80 0x8f b
  else isTail b

/-- The character of the six-bit groups of an encoding, after the bits `top` of its first byte. -/
def join (top : Nat) (tails : List UInt8) : Char :=
  Char.ofNat (tails.foldl (fun n b => n * 64 + b.toNat % 64) top)

/-- The first character of bytes, and how many of them it takes. -/
def first (lead : UInt8) (rest : List UInt8) : Char × Nat :=
  if lead < 0x80 then (Char.ofNat lead.toNat, 1)
  else if within 0xc2 0xdf lead then
    match rest with
    | b :: _ => if isTail b then (join (lead.toNat % 32) [b], 2) else (replacement, 1)
    | [] => (replacement, 1)
  else if within 0xe0 0xef lead then
    match rest with
    | b :: c :: _ =>
      if !second3 lead b then (replacement, 1)
      else if !isTail c then (replacement, 2)
      else (join (lead.toNat % 16) [b, c], 3)
    | [b] => (replacement, if second3 lead b then 2 else 1)
    | [] => (replacement, 1)
  else if within 0xf0 0xf4 lead then
    match rest with
    | b :: c :: d :: _ =>
      if !second4 lead b then (replacement, 1)
      else if !isTail c then (replacement, 2)
      else if !isTail d then (replacement, 3)
      else (join (lead.toNat % 8) [b, c, d], 4)
    | [b, c] => (replacement, if !second4 lead b then 1 else if !isTail c then 2 else 3)
    | [b] => (replacement, if second4 lead b then 2 else 1)
    | [] => (replacement, 1)
  else (replacement, 1)

def decodeLossyFrom (done : String) : List UInt8 → String
  | [] => done
  | lead :: rest =>
    let (c, taken) := first lead rest
    decodeLossyFrom (done.push c) (rest.drop (taken - 1))
  termination_by bytes => bytes.length
  decreasing_by simp only [List.length_drop, List.length_cons]; omega

/-- The text of bytes, with the replacement character for what is not valid. -/
def decodeLossy (bytes : List UInt8) : String :=
  decodeLossyFrom "" bytes

end Sixteen.Utf8
