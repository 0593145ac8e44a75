import Sixteen.Proofs.Image.Forms

/-!
# Both forms of an image are faithful

Each reader takes the written form apart into the origin and the words, and then refuses a block that
lies past the end of memory. So a form is read back exactly if the image fits, and what is read from
any bytes or text at all fits.

* `Image.ofBytes?_eq_some_iff` : the bytes that are read as an image are its own bytes;
* `Image.NamesBlock`, `Image.exists_ofBytes?_iff` : the bytes that are read as an image are those
  that name a block within memory;
* `Image.fits_of_ofText?` : an image that is read from a text fits;
* `Image.forms_faithful` : what both forms keep.
-/

namespace Sixteen

namespace Word

/-! ## Bytes of words -/

/-- What is read from bytes are the words that have these bytes. -/
theorem flatMap_bytes_of_readAll {done ws : Array Word} {bs : List UInt8}
    (h : readAll done bs = some ws) :
    ∃ rest : List Word, ws = done ++ rest ∧ rest.flatMap bytes = bs := by
  fun_induction readAll done bs with
  | case1 done =>
    cases h
    exact ⟨[], by simp, rfl⟩
  | case2 done b => cases h
  | case3 done high low rest ih =>
    obtain ⟨tail, rfl, rfl⟩ := ih h
    refine ⟨ofBytes high low :: tail, by simp, ?_⟩
    rw [List.flatMap_cons, bytes_ofBytes]
    rfl

/-- Bytes of even number are the bytes of words. -/
theorem exists_flatMap_bytes : ∀ {bs : List UInt8}, bs.length % 2 = 0 →
    ∃ ws : List Word, ws.flatMap bytes = bs
  | [], _ => ⟨[], rfl⟩
  | [_], h => by cases h
  | high :: low :: rest, h => by
    rw [List.length_cons, List.length_cons] at h
    have even : rest.length % 2 = 0 := by omega
    obtain ⟨ws, rfl⟩ := exists_flatMap_bytes even
    refine ⟨ofBytes high low :: ws, ?_⟩
    rw [List.flatMap_cons, bytes_ofBytes]
    rfl

theorem toNat_ofBytes (high low : UInt8) :
    (ofBytes high low).toNat = 256 * high.toNat + low.toNat := by
  have below : low.toBitVec.toNat < 2 ^ 8 := low.toBitVec.isLt
  rw [ofBytes, BitVec.toNat_append, ← Nat.shiftLeft_add_eq_or_of_lt below, Nat.shiftLeft_eq,
    Nat.mul_comm]
  rfl

end Word

namespace Image

variable {o : Image} {bs : List UInt8} {text : List Char}

/-! ## Binary images -/

theorem ofBytes?_eq_some_iff : ofBytes? bs = some o ↔ o.Fits ∧ o.toBytes = bs := by
  constructor
  · intro read
    obtain ⟨ws, hws, read⟩ := Option.bind_eq_some_iff.1 read
    obtain ⟨rest, rfl, bytes⟩ := Word.flatMap_bytes_of_readAll hws
    obtain ⟨fits, same⟩ := ofWords?_eq_some_iff.1 read
    rw [Array.toList_appendList] at same
    refine ⟨fits, ?_⟩
    rw [toBytes, same, ← bytes]
    rfl
  · rintro ⟨fits, rfl⟩
    exact ofBytes?_toBytes fits

theorem exists_toBytes (nonempty : bs ≠ []) (even : bs.length % 2 = 0) :
    ∃ o : Image, o.toBytes = bs := by
  obtain ⟨ws, rfl⟩ := Word.exists_flatMap_bytes even
  cases ws with
  | nil => exact absurd rfl nonempty
  | cons origin words => exact ⟨⟨origin, words⟩, rfl⟩

/-- The address that the first two bytes of a binary image name. -/
def originOf : List UInt8 → Nat
  | high :: low :: _ => 256 * high.toNat + low.toNat
  | _ => 0

/-- Bytes that name a block within memory: an origin of two bytes, and the words of the block. -/
structure NamesBlock (bs : List UInt8) : Prop where
  nonempty : bs ≠ []
  even : bs.length % 2 = 0
  fits : originOf bs + (bs.length / 2 - 1) ≤ memorySize

theorem originOf_toBytes (o : Image) : originOf o.toBytes = o.origin.toNat := by
  exact (Word.toNat_ofBytes _ _).symm.trans (congrArg BitVec.toNat (Word.ofBytes_bytes o.origin))

theorem namesBlock_toBytes : NamesBlock o.toBytes ↔ o.Fits := by
  have words : o.toBytes.length / 2 - 1 = o.size := by
    rw [length_toBytes, size]
    omega
  constructor
  · intro named
    have := named.fits
    rwa [originOf_toBytes, words] at this
  · intro fits
    refine ⟨?_, ?_, ?_⟩
    · exact List.cons_ne_nil _ _
    · rw [length_toBytes]
      omega
    · rwa [originOf_toBytes, words]

/-- The bytes that are read as an image are those that name a block within memory. -/
theorem exists_ofBytes?_iff : (∃ o, ofBytes? bs = some o) ↔ NamesBlock bs := by
  constructor
  · rintro ⟨o, read⟩
    obtain ⟨fits, rfl⟩ := ofBytes?_eq_some_iff.1 read
    exact namesBlock_toBytes.2 fits
  · intro named
    obtain ⟨o, rfl⟩ := exists_toBytes named.nonempty named.even
    exact ⟨o, ofBytes?_toBytes (namesBlock_toBytes.1 named)⟩

/-! ## Text images -/

theorem fits_of_ofText? (read : ofText? text = some o) : o.Fits := by
  rw [ofText?] at read
  split at read
  · split at read
    · obtain ⟨ws, -, read⟩ := Option.bind_eq_some_iff.1 read
      exact (ofWords?_eq_some_iff.1 read).1
    · cases read
  · cases read

/-! ## Both forms -/

/-- An image is read back from either of its forms if it fits memory, and from none otherwise. What
is read as a binary image is the bytes of that image, which name a block within memory, and what is
read from a text has both forms. -/
theorem forms_faithful :
    (∀ o : Image,
      ofBytes? o.toBytes = (if o.origin.toNat + o.words.length ≤ 65536 then some o else none) ∧
      ofText? o.toText.toList =
        (if o.origin.toNat + o.words.length ≤ 65536 then some o else none)) ∧
    (∀ bs : List UInt8, (∃ o, ofBytes? bs = some o) ↔ NamesBlock bs) ∧
    (∀ (bs : List UInt8) (o : Image), ofBytes? bs = some o → o.toBytes = bs) ∧
    (∀ (text : List Char) (o : Image), ofText? text = some o →
      ofBytes? o.toBytes = some o ∧ ofText? o.toText.toList = some o) := by
  refine ⟨fun o => ⟨?_, ?_⟩, fun bs => exists_ofBytes?_iff, ?_, ?_⟩
  · exact ofBytes?_toBytes_eq_check? o
  · exact ofText?_toText_eq_check? o
  · intro bs o read
    exact (ofBytes?_eq_some_iff.1 read).2
  · intro text o read
    have fits := fits_of_ofText? read
    exact ⟨ofBytes?_toBytes fits, ofText?_toText fits⟩

/-- A text with a comment, a blank line and a word of one digit. -/
theorem forms_faithful_commented :
    ofText? "X16 OBJ FILE // an image\r\n\n  3000\n f \n".toList = some ⟨0x3000, [0xf]⟩ ∧
    ofBytes? (toBytes ⟨0x3000, [0xf]⟩) = some ⟨0x3000, [0xf]⟩ ∧
    ofText? (toText ⟨0x3000, [0xf]⟩).toList = some ⟨0x3000, [0xf]⟩ ∧
    ofBytes? (toBytes ⟨0xffff, [1, 2]⟩) = none := by
  have read : ofText? "X16 OBJ FILE // an image\r\n\n  3000\n f \n".toList =
      some ⟨0x3000, [0xf]⟩ := by
    decide +kernel
  have large : ¬((⟨0xffff, [1, 2]⟩ : Image).origin.toNat + 2 ≤ 65536) := by decide
  obtain ⟨back, bytes, own, forms⟩ := forms_faithful
  obtain ⟨binary, again⟩ := forms _ _ read
  exact ⟨read, binary, again, ((back _).1).trans (if_neg large)⟩

end Image

end Sixteen
