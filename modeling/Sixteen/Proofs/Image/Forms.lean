import Sixteen.Image.Text
import Sixteen.Proofs.Text.Lines
import Sixteen.Proofs.Text.Numeral

/-!
# The two forms of an image

* `Image.ofWords?_eq_some_iff` : what is read is a block that fits, with its origin first;
* `Image.ofBytes?_toBytes_eq_check?`, `Image.ofText?_toText_eq_check?` : either form of an image is
  read as the image, which is then checked;
* `Image.ofBytes?_toBytes`, `Image.ofText?_toText` : an image that fits memory is read back from
  its bytes, and from its text;
* `Image.length_of_ofText?` : a text takes more characters than the words that it holds take bytes;
* `Image.ofFile?_toText` : a text form is told from a binary one;
* `Image.LooksLikeText`, `Image.ofFile?_toBytes_eq_some_iff` : a binary form is, unless its bytes
  are a text that contains the header.
-/

namespace Sixteen

/-! ## Text as bytes -/

namespace Utf8

theorem decode?_encode (text : String) : decode? (encode text) = some text := by
  rw [decode?, encode, Array.toArray_toList]
  exact dif_pos text.isValidUTF8

theorem length_le_utf8ByteSize (text : List Char) :
    text.length ≤ (String.ofList text).utf8ByteSize := by
  induction text with
  | nil => exact Nat.zero_le _
  | cons c rest ih =>
    have := c.utf8Size_pos
    rw [String.ofList_cons, String.utf8ByteSize_append, String.utf8ByteSize_singleton,
      List.length_cons]
    omega

/-- A text has at most as many characters as bytes. -/
theorem length_le_of_decode? {bytes : List UInt8} {text : String}
    (h : decode? bytes = some text) : text.toList.length ≤ bytes.length := by
  rw [decode?, String.fromUTF8?] at h
  split at h
  · cases h
    have := length_le_utf8ByteSize (String.fromUTF8 ⟨bytes.toArray⟩ ‹_›).toList
    rwa [String.ofList_toList] at this
  · cases h

end Utf8

/-! ## Binary images -/

namespace Word

theorem ofBytes_bytes (w : Word) : ofBytes ⟨w.extractLsb' 8 8⟩ ⟨w.extractLsb' 0 8⟩ = w := by
  rw [ofBytes]
  exact BitVec.extractLsb'_append_extractLsb'

theorem readAll_flatMap_bytes (done : Array Word) (ws : List Word) :
    readAll done (ws.flatMap bytes) = some (done ++ ws) := by
  induction ws generalizing done with
  | nil => simp [readAll]
  | cons w rest ih =>
    rw [List.flatMap_cons, bytes, List.cons_append, List.cons_append, List.nil_append, readAll,
      ofBytes_bytes, ih]
    simp

end Word

namespace Image

variable {o : Image}

theorem check?_eq_some (h : o.Fits) : check? o = some o :=
  if_pos h

theorem check?_eq_some_iff {p : Image} : check? p = some o ↔ p.Fits ∧ p = o := by
  rw [check?]
  split
  · next fits => simp [fits]
  · next large => simp [large]

theorem ofWords?_eq_some_iff {ws : List Word} :
    ofWords? ws = some o ↔ o.Fits ∧ o.origin :: o.words = ws := by
  cases ws with
  | nil => simp [ofWords?]
  | cons origin words =>
    rw [ofWords?, check?_eq_some_iff]
    constructor
    · rintro ⟨fits, rfl⟩
      exact ⟨fits, rfl⟩
    · rintro ⟨fits, same⟩
      cases same
      exact ⟨fits, rfl⟩

/-- The bytes of an image are read as the image, which is then checked. -/
theorem ofBytes?_toBytes_eq_check? (o : Image) : ofBytes? o.toBytes = check? o := by
  rw [ofBytes?, toBytes, Word.readAll_flatMap_bytes]
  show ofWords? (#[] ++ (o.origin :: o.words) : Array Word).toList = check? o
  rw [Array.toList_appendList]
  rfl

theorem ofBytes?_toBytes (h : o.Fits) : ofBytes? o.toBytes = some o := by
  rw [ofBytes?_toBytes_eq_check?, check?_eq_some h]

theorem length_toBytes (o : Image) : o.toBytes.length = 2 * (o.words.length + 1) := by
  have two : ∀ ws : List Word, (ws.flatMap Word.bytes).length = 2 * ws.length := by
    intro ws
    induction ws with
    | nil => rfl
    | cons w rest ih =>
      rw [List.flatMap_cons, List.length_append, ih, List.length_cons, Word.bytes]
      show 2 + _ = _
      omega
  exact two (o.origin :: o.words)

/-! ## Text images -/

theorem toList_toText (o : Image) :
    o.toText.toList = Text.unlines
      (header.toList :: (o.origin :: o.words).map fun w => (wordText w).toList) := by
  simp [toText, Text.unlines, List.flatMap_map, String.toList_join]

/-- The characters of words are digits. -/
theorem mem_wordText {w : Word} {c : Char} (h : c ∈ (wordText w).toList) :
    c ≠ '\n' ∧ c ≠ '\r' ∧ c ≠ '/' ∧ Text.isBlank c = false := by
  obtain ⟨d, hd, rfl⟩ := Numeral.mem_hexPadded h
  have digits : ∀ d < 16, (Nat.digitChar d).toUpper ≠ '\n' ∧ (Nat.digitChar d).toUpper ≠ '\r' ∧
      (Nat.digitChar d).toUpper ≠ '/' ∧ Text.isBlank (Nat.digitChar d).toUpper = false := by
    decide
  exact digits d hd

/-- Whether a line of a text image counts as it is. -/
def Clean (line : List Char) : Prop :=
  line ≠ [] ∧ '\n' ∉ line ∧ line.getLast? ≠ some '\r' ∧ '/' ∉ line ∧ Text.trim line = line

theorem clean_header : Clean header.toList := by
  unfold Clean
  decide +kernel

theorem clean_wordText (w : Word) : Clean (wordText w).toList := by
  refine ⟨?_, ?_, ?_, ?_, ?_⟩
  · rw [wordText, Numeral.toList_hexPadded]
    simp
  · intro h
    exact (mem_wordText h).1 rfl
  · intro h
    exact (mem_wordText (List.mem_of_getLast? h)).2.1 rfl
  · intro h
    exact (mem_wordText h).2.2.1 rfl
  · apply Text.trim_eq_self
    · intro c hc
      exact (mem_wordText (List.mem_of_mem_head? hc)).2.2.2
    · intro c hc
      exact (mem_wordText (List.mem_of_getLast? hc)).2.2.2

/-- Of clean lines, all count. -/
theorem dataLines_unlines {ls : List (List Char)} (h : ∀ l ∈ ls, Clean l) :
    dataLines (Text.unlines ls) = ls := by
  have kept : ls.map (fun line => Text.trim (Text.cutAt ['/', '/'] line)) = ls := by
    refine (List.map_congr_left ?_).trans (List.map_id ls)
    intro l hl
    rw [Text.cutAt_of_notMem (h l hl).2.2.2.1, (h l hl).2.2.2.2]
    rfl
  rw [dataLines, Text.lines_unlines (fun l hl => (h l hl).2.1) (fun l hl => (h l hl).2.2.1), kept,
    List.filter_eq_self]
  intro l hl
  simpa using (h l hl).1

theorem readWord?_wordText (w : Word) : readWord? (wordText w).toList = some w := by
  rw [readWord?, wordText, Numeral.readSigned?_hexPadded w.isLt, Option.map_some,
    BitVec.ofNat_toNat, BitVec.setWidth_eq]

theorem mapM_readWord?_wordText (ws : List Word) :
    (ws.map fun w => (wordText w).toList).mapM readWord? = some ws := by
  induction ws with
  | nil => rfl
  | cons w rest ih =>
    rw [List.map_cons, List.mapM_cons, readWord?_wordText, ih]
    rfl

/-- The text of an image is read as the image, which is then checked. -/
theorem ofText?_toText_eq_check? (o : Image) : ofText? o.toText.toList = check? o := by
  have clean : ∀ l ∈ header.toList :: (o.origin :: o.words).map (fun w => (wordText w).toList),
      Clean l := by
    intro l hl
    rcases List.mem_cons.1 hl with rfl | word
    · exact clean_header
    · obtain ⟨w, -, rfl⟩ := List.mem_map.1 word
      exact clean_wordText w
  rw [toList_toText, ofText?, dataLines_unlines clean]
  show (if header.toList = header.toList then _ else _) = _
  rw [if_pos rfl, mapM_readWord?_wordText]
  rfl

theorem ofText?_toText (h : o.Fits) : ofText? o.toText.toList = some o := by
  rw [ofText?_toText_eq_check?, check?_eq_some h]

/-! ## The length of a text image -/

/-- A line that counts takes at least one character more than it holds. -/
theorem sum_length_dataLines (text : List Char) :
    ((dataLines text).map (·.length + 1)).sum ≤ text.length + 1 := by
  have sub : ∀ ls : List (List Char),
      (((ls.map fun line => Text.trim (Text.cutAt ['/', '/'] line)).filter (!·.isEmpty)).map
        (·.length + 1)).sum ≤ (ls.map (·.length + 1)).sum := by
    intro ls
    induction ls with
    | nil => exact Nat.le_refl _
    | cons l ls ih =>
      have := Text.length_trim_le (Text.cutAt ['/', '/'] l)
      have := Text.length_cutAt_le ['/', '/'] l
      rw [List.map_cons, List.filter_cons, List.map_cons, List.sum_cons]
      split
      · rw [List.map_cons, List.sum_cons]
        omega
      · omega
  exact Nat.le_trans (sub _) (Text.sum_length_lines text)

theorem length_le_sum_dataLines {ls : List (List Char)} (h : ∀ l ∈ ls, l ≠ []) :
    2 * ls.length ≤ (ls.map (·.length + 1)).sum := by
  induction ls with
  | nil => exact Nat.le_refl _
  | cons l ls ih =>
    obtain ⟨hl, hls⟩ := List.forall_mem_cons.1 h
    have := List.length_pos_iff.2 hl
    have := ih hls
    rw [List.map_cons, List.sum_cons, List.length_cons]
    omega

theorem length_of_mapM {ls : List (List Char)} {ws : List Word}
    (h : ls.mapM readWord? = some ws) : ws.length = ls.length := by
  induction ls generalizing ws with
  | nil =>
    cases h
    rfl
  | cons l ls ih =>
    rw [List.mapM_cons] at h
    obtain ⟨w, -, h⟩ := Option.bind_eq_some_iff.1 h
    obtain ⟨rest, hrest, h⟩ := Option.bind_eq_some_iff.1 h
    cases h
    rw [List.length_cons, List.length_cons, ih hrest]

theorem length_of_ofWords? {ws : List Word} (h : ofWords? ws = some o) :
    ws.length = o.words.length + 1 := by
  rw [← (ofWords?_eq_some_iff.1 h).2, List.length_cons]

/-- A text image is longer than the bytes of what it holds, by its header at least. -/
theorem length_of_ofText? {text : List Char} (h : ofText? text = some o) :
    o.toBytes.length < text.length := by
  rw [ofText?] at h
  have nonempty : ∀ l ∈ dataLines text, l ≠ [] := by
    intro l hl
    simpa using (List.mem_filter.1 hl).2
  have total := sum_length_dataLines text
  split at h
  · next first rest lines =>
    rw [lines] at nonempty total
    split at h
    · next first_eq =>
      obtain ⟨ws, hws, h⟩ := Option.bind_eq_some_iff.1 h
      have count := length_of_ofWords? h
      have := length_le_sum_dataLines (List.forall_mem_cons.1 nonempty).2
      have twelve : first.length = 12 := by
        rw [first_eq]
        decide +kernel
      rw [length_of_mapM hws] at count
      rw [List.map_cons, List.sum_cons] at total
      rw [length_toBytes]
      omega
    · cases h
  · cases h

/-! ## Telling the forms apart -/

/-- The bytes of an image are valid text that contains the header of text images. -/
def LooksLikeText (o : Image) : Prop :=
  ∃ text, Utf8.decode? o.toBytes = some text ∧
    Text.contains header.toList text.toList = true

theorem ofFile?_toText (h : o.Fits) : ofFile? (Utf8.encode o.toText) = some o := by
  have holds : Text.contains header.toList o.toText.toList = true := by
    rw [toList_toText]
    apply Text.contains_of_prefix
    rw [Text.unlines, List.flatMap_cons, List.append_assoc]
    exact List.prefix_append _ _
  rw [ofFile?, Utf8.decode?_encode]
  show (if Text.contains header.toList o.toText.toList = true then _ else _) = _
  rw [if_pos holds, ofText?_toText h]

theorem ofFile?_toBytes (h : o.Fits) (plain : ¬o.LooksLikeText) :
    ofFile? o.toBytes = some o := by
  rw [ofFile?]
  split
  · next text decoded =>
    rw [if_neg fun holds => plain ⟨text, decoded, holds⟩, ofBytes?_toBytes h]
  · exact ofBytes?_toBytes h

/-- What is read from the bytes of an image that look like text is another image, if it is one. -/
theorem ofFile?_toBytes_ne (alike : o.LooksLikeText) : ofFile? o.toBytes ≠ some o := by
  obtain ⟨text, decoded, holds⟩ := alike
  rw [ofFile?, decoded]
  show (if Text.contains header.toList text.toList = true then _ else _) ≠ _
  rw [if_pos holds]
  intro read
  have short : text.toList.length ≤ o.toBytes.length := Utf8.length_le_of_decode? decoded
  have long := length_of_ofText? read
  omega

theorem ofFile?_toBytes_eq_some_iff (h : o.Fits) :
    ofFile? o.toBytes = some o ↔ ¬o.LooksLikeText := by
  constructor
  · intro read alike
    exact ofFile?_toBytes_ne alike read
  · exact ofFile?_toBytes h

end Image

end Sixteen
