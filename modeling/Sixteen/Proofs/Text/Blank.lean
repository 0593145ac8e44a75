import Sixteen.Proofs.Text.Lines
import Mathlib.Data.List.DropRight

/-!
# Blanks around a text

* `trim_append_blanks`, `trim_blanks_append` : more blanks at either end make no difference;
* `trim_trim` : what is trimmed has nothing to trim;
* `trim_append_cons` : a text with a character in it that is no blank, trimmed on both sides of it.
-/

namespace Sixteen.Text

theorem trim_append_blanks (text : List Char) {blanks : List Char}
    (h : ∀ c ∈ blanks, isBlank c = true) : trim (text ++ blanks) = trim text := by
  induction blanks generalizing text with
  | nil => rw [List.append_nil]
  | cons c rest ih =>
    obtain ⟨first, others⟩ := List.forall_mem_cons.1 h
    rw [List.append_cons, ih _ others, trim_append_blank _ first]

theorem trim_blanks_append (text : List Char) {blanks : List Char}
    (h : ∀ c ∈ blanks, isBlank c = true) : trim (blanks ++ text) = trim text := by
  rw [trim, List.dropWhile_append_of_pos h, trim]

theorem trim_of_blanks {text : List Char} (h : ∀ c ∈ text, isBlank c = true) : trim text = [] :=
  trim_append_blanks [] h

theorem trim_dropWhile (text : List Char) : trim (text.dropWhile isBlank) = trim text := by
  rw [trim, List.dropWhile_idempotent, trim]

theorem trim_trimEnd (text : List Char) : trim (trimEnd text) = trim text := by
  have split : trimEnd text ++ text.rtakeWhile isBlank = text := List.rdropWhile_append_rtakeWhile
  have blanks : ∀ c ∈ text.rtakeWhile isBlank, isBlank c = true := fun c => List.mem_rtakeWhile_imp
  rw [← trim_append_blanks _ blanks, split]

theorem trim_trim (text : List Char) : trim (trim text) = trim text := by
  have inner : trim (trim text) = trim (trimEnd (text.dropWhile isBlank)) := rfl
  rw [inner, trim_trimEnd, trim_dropWhile]

theorem trim_subset (text : List Char) : trim text ⊆ text := by
  have back : trim text <+: text.dropWhile isBlank := List.rdropWhile_prefix isBlank _
  exact List.Subset.trans back.subset (List.dropWhile_sublist isBlank).subset

theorem trimEnd_append_cons (before after : List Char) {c : Char} (h : isBlank c = false) :
    trimEnd (before ++ c :: after) = before ++ c :: trimEnd after := by
  have stop : (c :: before.reverse).dropWhile isBlank = c :: before.reverse :=
    List.dropWhile_cons_of_neg (by rw [h]; exact Bool.false_ne_true)
  have back : (before ++ c :: after).reverse = after.reverse ++ c :: before.reverse := by simp
  rw [trimEnd, trimEnd, back, List.dropWhile_append, stop]
  split
  · next all => simp [List.isEmpty_iff.1 all]
  · simp

/-- Trimming stops at a character that is no blank. -/
theorem trim_append_cons (before after : List Char) {c : Char} (h : isBlank c = false) :
    trim (before ++ c :: after) = before.dropWhile isBlank ++ c :: trimEnd after := by
  rw [trim, List.dropWhile_append]
  split
  · next all =>
    rw [List.isEmpty_iff.1 all, List.dropWhile_cons_of_neg (by rw [h]; exact Bool.false_ne_true)]
    exact trimEnd_append_cons [] after h
  · exact trimEnd_append_cons _ after h

end Sixteen.Text
