import Sixteen.Proofs.Token.Name

/-!
# Texts of a shape

A shape stands for the texts that match it. No text matches two shapes, as its first character tells
them apart, and the run that a text is cut at is the longest that it starts with of those that match
any shape at all.

* `Shape.Matches` : the texts of each shape;
* `Shape.Longest` : the longest of them that a text starts with;
* `Shape.matches_of_cut`, `Shape.exists_cut_of_matches` : what is cut matches its shape, and what
  matches a shape is cut, with what follows it perhaps;
* `Shape.longest_of_cut`, `Shape.not_prefix_of_cut_eq_none` : a cut is the longest run, and where there
  is none, nothing matches;
* `Token.shape` : the shape that a token is read from.
-/

namespace Sixteen

open Text (isDigit isWord startsName)

namespace Shape

/-- A text matches a shape. -/
inductive Matches : Shape → List Char → Prop
  | integer {sign word : List Char} {d : Char} (signed : sign = [] ∨ sign = ['-'])
    (digit : isDigit d = true) (inside : ∀ c ∈ word, isWord c = true) :
    Matches .integer (sign ++ d :: word)
  | immediate {sign word : List Char} (signed : sign = [] ∨ sign = ['-'])
    (inside : ∀ c ∈ word, isWord c = true) : Matches .immediate ('$' :: (sign ++ word))
  | register {word : List Char} (inside : ∀ c ∈ word, isWord c = true) :
    Matches .register ('%' :: word)
  | name {c : Char} {word : List Char} (start : startsName c = true)
    (inside : ∀ c ∈ word, isWord c = true) : Matches .name (c :: word)
  | colon : Matches .colon [':']
  | comma : Matches .comma [',']

/-- `run` is the longest text of a shape that `text` starts with, and this is the only shape that
`text` starts with a text of. -/
structure Longest (shape : Shape) (text run : List Char) : Prop where
  matched : shape.Matches run
  front : run <+: text
  longest : ∀ s more, Matches s more → more <+: text → s = shape ∧ more.length ≤ run.length

variable {shape : Shape} {c : Char} {run rest : List Char} {k : Cut}

theorem Matches.ne_nil (h : shape.Matches run) : run ≠ [] := by
  cases h <;> simp

/-- Only the first character of a run can be a comma. -/
theorem Matches.ne_comma (h : shape.Matches run) : ∀ d ∈ run.tail, d ≠ ',' := by
  have plain : ∀ {word : List Char}, (∀ d ∈ word, isWord d = true) → ∀ d ∈ word, d ≠ ',' :=
    fun inside d hd => ne_comma_of_isWord (inside d hd)
  cases h with
  | integer signed digit inside =>
    obtain rfl | rfl := signed
    · exact plain inside
    · exact plain (List.forall_mem_cons.2 ⟨isWord_of_isDigit digit, inside⟩)
  | immediate signed inside =>
    obtain rfl | rfl := signed
    · exact plain inside
    · exact List.forall_mem_cons.2 ⟨by decide, plain inside⟩
  | register inside | name start inside => exact plain inside
  | colon | comma => exact List.forall_mem_nil _

/-! ## What is cut -/

theorem matches_of_cut (h : cut c rest = some k) : k.shape.Matches k.run := by
  have taken : ∀ text : List Char, ∀ d ∈ text.takeWhile isWord, isWord d = true :=
    fun text => List.all_eq_true.1 List.all_takeWhile
  unfold cut at h
  split at h
  · next colon =>
    subst colon
    cases h
    exact .colon
  split at h
  · next comma =>
    subst comma
    cases h
    exact .comma
  split at h
  · next percent =>
    subst percent
    cases h
    exact .register (taken rest)
  split at h
  · next dollar =>
    subst dollar
    split at h <;> cases h
    · next text => exact .immediate (.inr rfl) (taken text)
    · exact .immediate (.inl rfl) (taken rest)
  split at h
  · next minus =>
    subst minus
    split at h
    · split at h
      · next d text digit =>
        cases h
        exact .integer (.inr rfl) digit (taken text)
      · cases h
    · cases h
  split at h
  · next digit =>
    cases h
    exact .integer (.inl rfl) digit (taken rest)
  split at h
  · next start =>
    cases h
    exact .name start (taken rest)
  · cases h

/-- A run starts where it is cut, and matches its shape. -/
theorem exists_run_of_cut (h : cut c rest = some k) :
    ∃ tail, k.run = c :: tail ∧ rest = tail ++ k.rest ∧ k.shape.Matches (c :: tail) := by
  have matched := matches_of_cut h
  obtain ⟨d, tail, run⟩ := List.exists_cons_of_ne_nil matched.ne_nil
  have whole := (cut_spec h).1
  rw [run] at whole matched
  obtain ⟨rfl, rest⟩ := List.cons.inj whole
  exact ⟨tail, run, rest.symm, matched⟩

/-! ## What is matched -/

theorem prefix_munch {word : List Char} (inside : ∀ c ∈ word, isWord c = true) (shape : Shape)
    (head more : List Char) : head ++ word <+: (Cut.munch shape head (word ++ more)).run := by
  rw [Cut.munch, List.takeWhile_append_of_pos inside, ← List.append_assoc]
  exact List.prefix_append _ _

/-- A text that starts with one that matches a shape is cut at this shape, there or later. -/
theorem exists_cut_of_matches (h : shape.Matches run) (front : run <+: c :: rest) :
    ∃ k, cut c rest = some k ∧ k.shape = shape ∧ run <+: k.run := by
  obtain ⟨more, whole⟩ := front
  cases h with
  | integer signed digit inside =>
    obtain rfl | rfl := signed
    · cases whole
      exact ⟨_, cut_digit digit _, rfl, prefix_munch inside _ [_] more⟩
    · cases whole
      exact ⟨_, cut_minus digit _, rfl, prefix_munch inside _ ['-', _] more⟩
  | @immediate sign word signed inside =>
    obtain rfl | rfl := signed
    · cases whole
      by_cases minus : (word ++ more).head? = some '-'
      · -- The sign is no part of the text, but it is part of the cut.
        cases word with
        | cons d word =>
          have first : isWord d = true := inside d List.mem_cons_self
          cases minus
          exact absurd first (by decide +kernel)
        | nil =>
          obtain ⟨behind, rfl⟩ := List.head?_eq_some_iff.1 minus
          exact ⟨_, rfl, rfl, '-' :: behind.takeWhile isWord, rfl⟩
      · exact ⟨_, cut_dollar_of_ne minus, rfl, prefix_munch inside _ ['$'] more⟩
    · cases whole
      exact ⟨_, rfl, rfl, prefix_munch inside _ ['$', '-'] more⟩
  | register inside =>
    cases whole
    exact ⟨_, rfl, rfl, prefix_munch inside _ ['%'] more⟩
  | name start inside =>
    cases whole
    exact ⟨_, cut_name start _, rfl, prefix_munch inside _ [_] more⟩
  | colon =>
    cases whole
    exact ⟨_, rfl, rfl, List.prefix_refl _⟩
  | comma =>
    cases whole
    exact ⟨_, rfl, rfl, List.prefix_refl _⟩

theorem longest_of_cut (h : cut c rest = some k) : k.shape.Longest (c :: rest) k.run where
  matched := matches_of_cut h
  front := ⟨k.rest, (cut_spec h).1⟩
  longest s more matched front := by
    obtain ⟨k', cut', rfl, within⟩ := exists_cut_of_matches matched front
    obtain rfl : k = k' := Option.some.inj (h.symm.trans cut')
    exact ⟨rfl, within.length_le⟩

theorem not_prefix_of_cut_eq_none (h : cut c rest = none) (matched : shape.Matches run) :
    ¬run <+: c :: rest := by
  intro front
  obtain ⟨k, cut', -⟩ := exists_cut_of_matches matched front
  rw [h] at cut'
  cases cut'

end Shape

/-! ## Shapes of tokens -/

/-- The shape of the texts that a token is read from. -/
def Token.shape : Token → Shape
  | .int _ => .integer
  | .imm _ => .immediate
  | .reg _ => .register
  | .keyword _ | .branch _ | .label _ => .name
  | .colon => .colon
  | .comma => .comma

theorem Token.shape_ofName (name : List Char) : (ofName name).shape = .name := by
  unfold ofName
  split
  · rfl
  · split <;> rfl

theorem Shape.shape_of_token {shape : Shape} {run : List Char} {t : Token}
    (h : shape.token run = .ok t) : t.shape = shape := by
  cases shape with
  | integer | immediate | register =>
    obtain ⟨_, -, rfl⟩ := Except.map_eq_ok_iff.1 h
    rfl
  | name =>
    cases h
    exact Token.shape_ofName run
  | colon | comma =>
    cases h
    rfl

end Sixteen
