import Sixteen.Proofs.Token.Name
import Sixteen.Proofs.Text.Blank

/-!
# Labels in a text

Wherever a text has a label among its tokens, it has the name of the label there, character for
character: what the name of a label is does not depend on where it stands.

* `IsLabelName` : the names of labels;
* `lexes_label` : such a name is read as the label of this name;
* `isLabelName_of_mem_lexemes` : and nothing else is read as it;
* `isLabel_iff`, `isLabel_trim_iff` : texts that are labels.
-/

namespace Sixteen

open Text (isBlank isWord startsName)

/-- A name that is not the name of an instruction. -/
def IsLabelName (name : List Char) : Prop :=
  IsIdentifier isWord name ∧ ¬NamesInstruction (Text.upper name)

variable {text name : List Char} {label : String}

theorem IsLabelName.isWord (h : IsLabelName name) : ∀ c ∈ name, isWord c = true :=
  h.1.isWord

/-- There is nothing to trim from a name. -/
theorem IsLabelName.trim_eq (h : IsLabelName name) : Text.trim name = name := by
  have solid : ∀ c ∈ name, isBlank c = false := by
    intro c hc
    refine Bool.eq_false_iff.2 fun blank => ?_
    exact Bool.false_ne_true ((isWord_eq_false_of_isBlank blank).symm.trans (h.isWord c hc))
  exact Text.trim_eq_self (fun c hc => solid c (List.mem_of_mem_head? hc))
    (fun c hc => solid c (List.mem_of_mem_getLast? hc))

/-! ## Names among tokens -/

theorem Token.ofName_of_isLabelName (h : IsLabelName name) :
    ofName name = .label (String.ofList name) :=
  ofName_eq_label_iff.2 ⟨h.2, rfl⟩

theorem lexes_label (h : IsLabelName name) : Lexes name (.label (String.ofList name)) := by
  rw [← Token.ofName_of_isLabelName h]
  cases name with
  | nil => exact h.1.elim
  | cons c tail => exact lexes_name h.1.1 h.1.2

theorem lex_label (h : IsLabelName name) :
    lex name = ⟨[⟨.label (String.ofList name), name⟩], none⟩ := by
  have := lexes_label h [] (by simp [Stops])
  rwa [List.append_nil, lex_nil] at this

theorem Shape.eq_munch_of_name {c : Char} {rest : List Char} {k : Cut}
    (h : Shape.cut c rest = some k) (hk : k.shape = .name) :
    startsName c = true ∧ k = .munch .name [c] rest := by
  by_cases first : startsName c = true
  · rw [Shape.cut_name first] at h
    exact ⟨first, (Option.some.inj h).symm⟩
  · unfold cut at h
    rw [if_neg first] at h
    repeat' split at h
    all_goals cases h <;> cases hk

theorem Shape.token_eq_label_iff {shape : Shape} {run : List Char} :
    shape.token run = .ok (.label label) ↔ shape = .name ∧ Token.ofName run = .label label := by
  cases shape <;> simp [token, Except.map_eq_ok_iff]

theorem isLabelName_of_scan {c : Char} {rest rest' : List Char} {x : Lexeme}
    (h : scan c rest = .ok (x, rest')) (hx : x.token = .label label) :
    IsLabelName x.text ∧ label = String.ofList x.text := by
  obtain ⟨shape, cut, read⟩ := scan_eq_ok_iff.1 h
  rw [hx] at read
  obtain ⟨rfl, named⟩ := Shape.token_eq_label_iff.1 read
  obtain ⟨first, munched⟩ := Shape.eq_munch_of_name cut rfl
  obtain ⟨free, label⟩ := Token.ofName_eq_label_iff.1 named
  obtain ⟨-, run, -⟩ := Cut.mk.inj munched
  rw [run] at free label ⊢
  exact ⟨⟨⟨first, List.all_eq_true.1 List.all_takeWhile⟩, free⟩, label⟩

/-- A label among the tokens of a text is the name that it was read from. -/
theorem isLabelName_of_mem_lexemes {x : Lexeme} (h : x ∈ (lex text).lexemes)
    (hx : x.token = .label label) : IsLabelName x.text ∧ label = String.ofList x.text := by
  obtain ⟨c, rest, rest', read⟩ := exists_scan_of_mem_lexemes h
  exact isLabelName_of_scan read hx

/-! ## Texts that are labels -/

theorem isBlank_of_isGap {c : Char} (h : isGap c = true) : isBlank c = true := by
  simp only [isGap, Bool.or_eq_true, beq_iff_eq] at h
  obtain (((rfl | rfl) | rfl) | rfl) | rfl := h <;> decide

theorem lex_gaps_append {gaps : List Char} (h : ∀ c ∈ gaps, isGap c = true) (rest : List Char) :
    lex (gaps ++ rest) = lex rest := by
  rw [lex_eq, lex_eq rest, List.dropWhile_append_of_pos h]

theorem lex_eq_nil_iff : lex text = ⟨[], none⟩ ↔ ∀ c ∈ text, isGap c = true := by
  constructor
  · intro h
    rw [lex_eq] at h
    split at h
    · next none_left => exact List.dropWhile_eq_nil_iff.1 none_left
    · split at h <;> cases h
  · intro h
    have := lex_gaps_append h []
    rwa [List.append_nil, lex_nil] at this

theorem isLabel_eq_true_iff :
    isLabel text = true ↔ ∃ label run, lex text = ⟨[⟨.label label, run⟩], none⟩ := by
  unfold isLabel
  split
  · next label run read => exact iff_of_true rfl ⟨label, run, read⟩
  · next other => exact iff_of_false Bool.false_ne_true fun ⟨label, run, read⟩ => other label run read

/-- A text is a label exactly if it is the name of one, with gaps around it perhaps. -/
theorem isLabel_iff :
    isLabel text = true ↔ ∃ before name after, text = before ++ name ++ after ∧
      (∀ c ∈ before, isGap c = true) ∧ (∀ c ∈ after, isGap c = true) ∧ IsLabelName name := by
  rw [isLabel_eq_true_iff]
  constructor
  · rintro ⟨label, run, read⟩
    rw [lex_eq] at read
    split at read
    · cases read
    next c rest start =>
    split at read
    · cases read
    next x rest' scanned =>
    obtain ⟨⟨rfl, no_more⟩, clean⟩ :
        (x = ⟨.label label, run⟩ ∧ (lex rest').lexemes = []) ∧ (lex rest').error? = none := by
      simpa using read
    have behind : lex rest' = ⟨[], none⟩ := by rw [← no_more, ← clean]
    refine ⟨text.takeWhile isGap, run, rest', ?_, List.all_eq_true.1 List.all_takeWhile,
      lex_eq_nil_iff.1 behind, (isLabelName_of_scan scanned rfl).1⟩
    rw [List.append_assoc, text_append_of_scan scanned, ← start, List.takeWhile_append_dropWhile]
  · rintro ⟨before, name, after, rfl, gaps, gaps', h⟩
    have stop : Stops after := by
      intro c hc
      exact isWord_eq_false_of_isBlank (isBlank_of_isGap (gaps' c (List.mem_of_mem_head? hc)))
    refine ⟨String.ofList name, name, ?_⟩
    rw [List.append_assoc, lex_gaps_append gaps, lexes_label h after stop, lex_eq_nil_iff.2 gaps']

theorem IsLabelName.isLabel (h : IsLabelName name) : isLabel name = true :=
  isLabel_iff.2 ⟨[], name, [], by simp, List.forall_mem_nil _, List.forall_mem_nil _, h⟩

/-- There are no gaps around a text without blanks around it. -/
theorem isLabel_trim_iff : isLabel (Text.trim text) = true ↔ IsLabelName (Text.trim text) := by
  refine ⟨fun h => ?_, IsLabelName.isLabel⟩
  obtain ⟨before, name, after, whole, gaps, gaps', named⟩ := isLabel_iff.1 h
  have blanks : ∀ c ∈ before, isBlank c = true := fun c hc => isBlank_of_isGap (gaps c hc)
  have blanks' : ∀ c ∈ after, isBlank c = true := fun c hc => isBlank_of_isGap (gaps' c hc)
  have same : Text.trim text = name := by
    rw [← Text.trim_trim, whole, Text.trim_append_blanks _ blanks',
      Text.trim_blanks_append _ blanks, named.trim_eq]
  rwa [same]

end Sixteen
