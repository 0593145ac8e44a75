import Sixteen.Text.Lines
import Sixteen.Text.Blank
import Mathlib.Algebra.Ring.Nat

/-!
# Lines and cuts of texts

* `pieces_intercalate` : a text that is put together from pieces has these pieces;
* `unlines`, `lines_unlines` : a text with a line feed after each line has these lines;
* `sum_length_lines` : the lines of a text and their endings are not longer than the text;
* `lines_append` : the lines of two texts with a line feed between;
* `exists_lines_take` : a text can be cut before each of its lines;
* `cutAt_of_notMem`, `trim_eq_self` : texts in which there is nothing to cut;
* `contains_of_prefix` : a text contains what it starts with.
-/

namespace Sixteen.Text

/-! ## Pieces -/

variable {sep : Char} {line : List Char}

theorem pieces_of_notMem (h : sep ∉ line) : pieces sep line = [line] := by
  induction line with
  | nil => rfl
  | cons c rest ih =>
    have hc : c ≠ sep := fun same => h (by simp [same])
    have hrest : sep ∉ rest := fun later => h (List.mem_cons_of_mem c later)
    rw [pieces_cons, if_neg hc, ih hrest]

theorem pieces_ne_nil (sep : Char) (text : List Char) : pieces sep text ≠ [] := by
  cases text with
  | nil => exact List.cons_ne_nil _ _
  | cons c rest =>
    rw [pieces_cons]
    split
    · exact List.cons_ne_nil _ _
    · split <;> exact List.cons_ne_nil _ _

/-- A separator keeps the pieces before it apart from those behind it. -/
theorem pieces_append_sep (text rest : List Char) :
    pieces sep (text ++ sep :: rest) = pieces sep text ++ pieces sep rest := by
  induction text with
  | nil =>
    rw [List.nil_append, pieces_cons, if_pos rfl]
    rfl
  | cons c text ih =>
    rw [List.cons_append, pieces_cons, pieces_cons, ih]
    split
    · rfl
    · cases hp : pieces sep text with
      | nil => exact absurd hp (pieces_ne_nil sep text)
      | cons part parts => rfl

theorem pieces_append_cons (h : sep ∉ line) (text : List Char) :
    pieces sep (line ++ sep :: text) = line :: pieces sep text := by
  rw [pieces_append_sep, pieces_of_notMem h]
  rfl

theorem notMem_of_mem_pieces {text part : List Char} (h : part ∈ pieces sep text) : sep ∉ part := by
  induction text generalizing part with
  | nil =>
    rw [pieces_nil, List.mem_singleton] at h
    rw [h]
    exact List.not_mem_nil
  | cons c rest ih =>
    rw [pieces_cons] at h
    split at h
    · rcases List.mem_cons.1 h with rfl | later
      · exact List.not_mem_nil
      · exact ih later
    next other =>
    cases hp : pieces sep rest with
    | nil => exact absurd hp (pieces_ne_nil sep rest)
    | cons first parts =>
      rw [hp] at h ih
      rcases List.mem_cons.1 h with rfl | later
      · rw [List.mem_cons, not_or]
        exact ⟨Ne.symm other, ih List.mem_cons_self⟩
      · exact ih (List.mem_cons_of_mem _ later)

/-- The pieces of a text are the ones that it was put together from. -/
theorem pieces_intercalate {parts : List (List Char)} (ne : parts ≠ [])
    (h : ∀ part ∈ parts, sep ∉ part) : pieces sep ([sep].intercalate parts) = parts := by
  induction parts with
  | nil => exact absurd rfl ne
  | cons part rest ih =>
    obtain ⟨first, others⟩ := List.forall_mem_cons.1 h
    cases rest with
    | nil => rw [List.intercalate_singleton, pieces_of_notMem first]
    | cons next rest =>
      rw [List.intercalate_cons_cons, List.append_assoc, List.singleton_append,
        pieces_append_cons first, ih (List.cons_ne_nil _ _) others]

/-- The pieces of a text and the separators between them are as long as the text. -/
theorem sum_length_pieces (text : List Char) :
    ((pieces sep text).map (·.length + 1)).sum = text.length + 1 := by
  induction text with
  | nil => rfl
  | cons c rest ih =>
    rw [pieces_cons]
    split
    · rw [List.map_cons, List.sum_cons, ih, List.length_cons]
      simp [Nat.add_comm]
    · cases hp : pieces sep rest with
      | nil =>
        rw [hp] at ih
        simp at ih
      | cons part parts =>
        rw [hp] at ih
        simp only [List.map_cons, List.sum_cons, List.length_cons] at ih ⊢
        omega

/-! ## Lines -/

theorem dropReturn_of_getLast? (h : line.getLast? ≠ some '\r') : dropReturn line = line := by
  unfold dropReturn
  split
  · next rest hr =>
    rw [List.getLast?_eq_head?_reverse, hr] at h
    exact absurd rfl h
  · rfl

theorem dropReturn_eq_or (line : List Char) :
    dropReturn line = line ∨ line = dropReturn line ++ ['\r'] := by
  unfold dropReturn
  split
  · next rest hr =>
    right
    rw [← List.reverse_cons, ← hr, List.reverse_reverse]
  · exact .inl rfl

theorem length_dropReturn_le (line : List Char) : (dropReturn line).length ≤ line.length := by
  unfold dropReturn
  split
  · next rest hr =>
    have := congrArg List.length hr
    simp only [List.length_reverse, List.length_cons] at this ⊢
    omega
  · exact Nat.le_refl _

/-- Lines as a text, with a line feed after each. -/
def unlines (ls : List (List Char)) : List Char :=
  ls.flatMap (· ++ ['\n'])

theorem pieces_unlines {ls : List (List Char)} (h : ∀ l ∈ ls, '\n' ∉ l) :
    pieces '\n' (unlines ls) = ls ++ [[]] := by
  induction ls with
  | nil => rfl
  | cons l ls ih =>
    obtain ⟨hl, hls⟩ := List.forall_mem_cons.1 h
    have split : unlines (l :: ls) = l ++ '\n' :: unlines ls := by simp [unlines]
    rw [split, pieces_append_cons hl, ih hls, List.cons_append]

/-- The lines of a text are the ones that it was put together from. -/
theorem lines_unlines {ls : List (List Char)} (feed : ∀ l ∈ ls, '\n' ∉ l)
    (ret : ∀ l ∈ ls, l.getLast? ≠ some '\r') : lines (unlines ls) = ls := by
  have kept : ls.map dropReturn = ls := by
    refine (List.map_congr_left ?_).trans (List.map_id ls)
    intro l hl
    exact dropReturn_of_getLast? (ret l hl)
  simp [lines, pieces_unlines feed, kept]

/-- All pieces before a line feed are lines, the last of them too. -/
theorem lines_append (text rest : List Char) :
    lines (text ++ '\n' :: rest) = (pieces '\n' text).map dropReturn ++ lines rest := by
  have last : (pieces '\n' text ++ pieces '\n' rest).getLast? = (pieces '\n' rest).getLast? := by
    rw [List.getLast?_append, List.getLast?_eq_some_getLast (pieces_ne_nil '\n' rest)]
    rfl
  simp only [lines, pieces_append_sep, List.dropLast_append_of_ne_nil (pieces_ne_nil '\n' rest),
    last, List.map_append, List.append_assoc]

theorem exists_pieces_before {text : List Char} {n : Nat} (pos : 0 < n)
    (hn : n < (pieces sep text).length) :
    ∃ before after, text = before ++ sep :: after ∧ (pieces sep before).length = n := by
  induction text generalizing n with
  | nil =>
    rw [pieces_nil, List.length_singleton] at hn
    omega
  | cons c rest ih =>
    rw [pieces_cons] at hn
    by_cases here : c = sep
    · rw [if_pos here, List.length_cons] at hn
      subst here
      rcases Nat.eq_or_lt_of_le pos with rfl | more
      · exact ⟨[], rest, rfl, rfl⟩
      · obtain ⟨before, after, rfl, count⟩ := @ih (n - 1) (by omega) (by omega)
        refine ⟨c :: before, after, rfl, ?_⟩
        rw [pieces_cons, if_pos rfl, List.length_cons, count]
        omega
    · have same : ∀ text, (pieces sep (c :: text)).length = (pieces sep text).length := by
        intro text
        rw [pieces_cons, if_neg here]
        cases hp : pieces sep text with
        | nil => exact absurd hp (pieces_ne_nil sep text)
        | cons part parts => rfl
      rw [← pieces_cons, same] at hn
      obtain ⟨before, after, rfl, count⟩ := ih pos hn
      exact ⟨c :: before, after, rfl, by rw [same, count]⟩

theorem length_lines_le (text : List Char) :
    (lines text).length ≤ (pieces '\n' text).length := by
  have last : ∀ o : Option (List Char), (o.filter (!·.isEmpty)).toList.length ≤ 1 := by
    intro o
    cases o.filter (!·.isEmpty) <;> simp
  have nonempty := List.length_pos_iff.2 (pieces_ne_nil '\n' text)
  have := last (pieces '\n' text).getLast?
  simp only [lines, List.length_append, List.length_map, List.length_dropLast]
  omega

/-- A text can be cut before any of its lines. -/
theorem exists_lines_take (text : List Char) (n : Nat) :
    ∃ before after, text = before ++ after ∧ lines before = (lines text).take n := by
  rcases Nat.eq_zero_or_pos n with rfl | pos
  · exact ⟨[], text, rfl, rfl⟩
  rcases Nat.lt_or_ge n (lines text).length with inside | all
  · obtain ⟨before, after, rfl, count⟩ :=
      exists_pieces_before pos (Nat.lt_of_lt_of_le inside (length_lines_le text))
    refine ⟨before ++ ['\n'], after, by simp, ?_⟩
    rw [lines_append, lines_append, lines_nil, List.append_nil, List.take_left']
    rw [List.length_map, count]
  · exact ⟨text, [], by simp, (List.take_of_length_le all).symm⟩

/-- A line takes at least one character more than it holds, but for the last. -/
theorem sum_length_lines (text : List Char) :
    ((lines text).map (·.length + 1)).sum ≤ text.length + 1 := by
  have all : ∀ parts : List (List Char),
      ((parts.dropLast.map dropReturn ++ (parts.getLast?.filter (!·.isEmpty)).toList).map
        (·.length + 1)).sum ≤ (parts.map (·.length + 1)).sum := by
    intro parts
    induction parts with
    | nil => exact Nat.le_refl _
    | cons part parts ih =>
      cases parts with
      | nil =>
        cases part <;> simp [Option.filter]
      | cons next parts =>
        have := length_dropReturn_le part
        rw [List.dropLast_cons_cons, List.map_cons, List.cons_append, List.getLast?_cons_cons,
          List.map_cons, List.map_cons, List.sum_cons, List.sum_cons]
        omega
  calc ((lines text).map (·.length + 1)).sum
      ≤ ((pieces '\n' text).map (·.length + 1)).sum := all (pieces '\n' text)
    _ = text.length + 1 := sum_length_pieces text

/-! ## Cuts -/

theorem cutAt_of_notMem {m : Char} {marker text : List Char} (h : m ∉ text) :
    cutAt (m :: marker) text = text := by
  induction text with
  | nil => rfl
  | cons c rest ih =>
    have hc : m ≠ c := fun same => h (by simp [same])
    have hrest : m ∉ rest := fun later => h (List.mem_cons_of_mem c later)
    have apart : (m :: marker).isPrefixOf (c :: rest) = false := by
      simp [List.isPrefixOf, hc]
    rw [cutAt, apart, ih hrest]
    rfl

theorem length_cutAt_le (marker text : List Char) :
    (cutAt marker text).length ≤ text.length := by
  induction text with
  | nil => exact Nat.le_refl _
  | cons c rest ih =>
    rw [cutAt]
    split
    · exact Nat.zero_le _
    · exact Nat.succ_le_succ ih

theorem contains_of_prefix {part text : List Char} (h : part <+: text) :
    contains part text = true := by
  cases text with
  | nil =>
    rw [List.prefix_nil.1 h]
    rfl
  | cons c rest => rw [contains, List.isPrefixOf_iff_prefix.2 h, Bool.true_or]

/-! ## Blanks at the ends -/

/-- A text that neither starts nor ends with a blank has nothing to trim. -/
theorem trim_eq_self {text : List Char} (first : ∀ c ∈ text.head?, isBlank c = false)
    (last : ∀ c ∈ text.getLast?, isBlank c = false) : trim text = text := by
  have keep : ∀ text : List Char, (∀ c ∈ text.head?, isBlank c = false) →
      text.dropWhile isBlank = text := by
    intro text h
    cases text with
    | nil => rfl
    | cons c rest => rw [List.dropWhile_cons, h c rfl, if_neg Bool.false_ne_true]
  rw [trim, keep text first, trimEnd, keep text.reverse, List.reverse_reverse]
  intro c hc
  exact last c (by rwa [List.getLast?_eq_head?_reverse])

theorem trim_append_blank (text : List Char) {c : Char} (h : isBlank c = true) :
    trim (text ++ [c]) = trim text := by
  have last : ∀ text : List Char, trimEnd (text ++ [c]) = trimEnd text := by
    intro text
    rw [trimEnd, List.reverse_append, List.reverse_singleton, List.singleton_append,
      List.dropWhile_cons, if_pos h, ← trimEnd]
  rw [trim, List.dropWhile_append]
  split
  · next all =>
    rw [trim, List.isEmpty_iff.1 all, List.dropWhile_cons, if_pos h]
    rfl
  · rw [last, trim]

theorem length_trim_le (text : List Char) : (trim text).length ≤ text.length := by
  have drop : ∀ text : List Char, (text.dropWhile isBlank).length ≤ text.length :=
    fun text => (List.dropWhile_sublist _).length_le
  calc (trim text).length
      = ((text.dropWhile isBlank).reverse.dropWhile isBlank).length := by
        rw [trim, trimEnd, List.length_reverse]
    _ ≤ (text.dropWhile isBlank).length := by
        exact Nat.le_trans (drop _) (Nat.le_of_eq List.length_reverse)
    _ ≤ text.length := drop text

end Sixteen.Text
