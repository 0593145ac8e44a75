import Sixteen.Statement.Parser
import Sixteen.Proofs.Outcome
import Sixteen.Proofs.Text.Lines
import Mathlib.Data.List.TakeWhile

/-!
# What a line holds

* `splitLabel_append_colon`, `splitLabel_of_notMem` : a line with a colon, and one without;
* `Statement.Reads` : the statement that a line holds. A blank line holds the blank statement;
* `Statement.normalize_dropReturn` : a carriage return at the end of a line does not count;
* `Statement.parse_eq_ok_iff` : a line is read by its parts, the label and the body;
* `Statement.ne_blank_of_parse` : a line that is not empty holds something.
-/

namespace Sixteen

/-! ## The parts of a line -/

theorem splitLabel_append_colon {before : List Char} (h : ':' ∉ before) (after : List Char) :
    splitLabel (before ++ ':' :: after) = (some (Text.trim before), Text.trim after) := by
  have none : ∀ c ∈ before, decide (c ≠ ':') = true := by
    intro c hc
    exact decide_eq_true fun same => h (same ▸ hc)
  rw [splitLabel, List.dropWhile_append_of_pos none, List.takeWhile_append_of_pos none,
    List.dropWhile_cons_of_neg (by decide), List.takeWhile_cons_of_neg (by decide), List.append_nil]

theorem splitLabel_of_notMem {line : List Char} (h : ':' ∉ line) :
    splitLabel line = (none, line) := by
  have all : line.dropWhile (· ≠ ':') = [] := by
    refine List.dropWhile_eq_nil_iff.2 fun c hc => ?_
    exact decide_eq_true fun same => h (same ▸ hc)
  rw [splitLabel, all]

namespace Statement

/-! ## What it holds -/

/-- The statement of a line that holds nothing. -/
def blank : Statement :=
  ⟨none, none⟩

/-- A line holds the statement `s`. -/
def Reads (line : List Char) (s : Statement) : Prop :=
  if normalize line = [] then s = .blank else parse (normalize line) = .ok s

/-- A carriage return at its end says nothing about a line. -/
theorem normalize_dropReturn (line : List Char) :
    normalize (Text.dropReturn line) = normalize line := by
  rcases Text.dropReturn_eq_or line with same | ending
  · rw [same]
  · conv => rhs; rw [ending]
    rw [normalize, normalize, List.takeWhile_append]
    split
    · next whole =>
      rw [(List.takeWhile_prefix _).eq_of_length whole,
        show ['\r'].takeWhile (· ≠ '#') = ['\r'] by decide, Text.trim_append_blank _ (by decide)]
    · rfl

/-- A line holds one statement. -/
theorem Reads.unique {line : List Char} {s t : Statement} (hs : Reads line s)
    (ht : Reads line t) : s = t := by
  unfold Reads at hs ht
  by_cases blank : normalize line = []
  · rw [if_pos blank] at hs ht
    rw [hs, ht]
  · rw [if_neg blank] at hs ht
    rw [hs] at ht
    exact Except.ok.inj ht

theorem parse_eq_ok_iff {line : List Char} {s : Statement} :
    parse line = .ok s ↔
      labelOf (splitLabel line).1 = .ok s.label ∧ bodyOf (splitLabel line).2 = .ok s.body := by
  unfold parse
  simp only [Except.bind_eq_ok_iff]
  constructor
  · rintro ⟨label, hl, body, hb, h⟩
    cases h
    exact ⟨hl, hb⟩
  · rintro ⟨hl, hb⟩
    exact ⟨s.label, hl, s.body, hb, rfl⟩

theorem label_ne_none_of_labelOf {text : List Char} {label : Option String}
    (h : labelOf (some text) = .ok label) : label ≠ none := by
  rw [labelOf] at h
  split at h
  · cases h
    exact Option.some_ne_none _
  · cases h

theorem body_ne_none_of_bodyOf {text : List Char} {body : Option Body} (ht : text ≠ [])
    (h : bodyOf text = .ok body) : body ≠ none := by
  rw [bodyOf, if_neg (by simpa using ht), Except.map_eq_ok_iff] at h
  obtain ⟨b, -, rfl⟩ := h
  exact Option.some_ne_none b

theorem ne_blank_of_parse {line : List Char} {s : Statement} (hline : line ≠ [])
    (h : parse line = .ok s) : s ≠ .blank := by
  obtain ⟨hl, hb⟩ := parse_eq_ok_iff.1 h
  unfold splitLabel at hl hb
  rintro rfl
  split at hl <;> rename_i colon
  · rw [colon] at hb
    exact body_ne_none_of_bodyOf hline hb rfl
  · exact label_ne_none_of_labelOf hl rfl

end Statement

end Sixteen
