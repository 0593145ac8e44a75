import Sixteen.Token.Lexer
import Sixteen.Proofs.Outcome
import Mathlib.Data.List.Forall2

/-!
# Texts of single tokens

A run of characters is read as one token wherever it ends at a character that no token goes on with,
so tokens can be read off a text with gaps between them, one after the other.

* `Lexes` : a run is read as a token;
* `lexes_of_cut` : the run of a shape is, if the shape has a token for it;
* `lexes_name`, `lexes_int`, `lexes_imm`, `lexes_register` : the shapes;
* `lex_intercalate` : runs with spaces between them;
* `Separate`, `lex_append` : texts one after the other;
* `exists_scan_of_mem_lexemes` : where a token of a text comes from;
* `exists_colon_of_lex` : a colon is a token of its own wherever it stands.
-/

namespace Sixteen

open Text (isDigit isWord startsName)

/-! ## Runs and gaps -/

/-- No token that ends before `rest` goes on with it. -/
def Stops (rest : List Char) : Prop :=
  ∀ c ∈ rest.head?, isWord c = false

/-- A run of characters is read as the token `t`. -/
def Lexes (run : List Char) (t : Token) : Prop :=
  ∀ rest, Stops rest → lex (run ++ rest) = ⟨⟨t, run⟩ :: (lex rest).lexemes, (lex rest).error?⟩

theorem lex_nil : lex [] = ⟨[], none⟩ := by
  rw [lex_eq]
  rfl

theorem lex_gap {c : Char} (hc : isGap c = true) (rest : List Char) :
    lex (c :: rest) = lex rest := by
  rw [lex_eq (c :: rest), lex_eq rest, List.dropWhile_cons, if_pos hc]

theorem Cut.munch_append {word rest : List Char} (hw : ∀ c ∈ word, isWord c = true)
    (stop : Stops rest) (shape : Shape) (head : List Char) :
    Cut.munch shape head (word ++ rest) = ⟨shape, head ++ word, rest⟩ := by
  have keep : rest.takeWhile isWord = [] ∧ rest.dropWhile isWord = rest := by
    cases rest with
    | nil => exact ⟨rfl, rfl⟩
    | cons c rest => simp [stop c rfl]
  rw [munch, List.takeWhile_append_of_pos hw, List.dropWhile_append_of_pos hw, keep.1, keep.2,
    List.append_nil]

theorem lexes_of_cut {c : Char} {tail : List Char} {shape : Shape} {t : Token}
    (gap : isGap c = false)
    (cut : ∀ rest, Stops rest → Shape.cut c (tail ++ rest) = some ⟨shape, c :: tail, rest⟩)
    (token : shape.token (c :: tail) = .ok t) : Lexes (c :: tail) t := by
  intro rest stop
  have scanned : scan c (tail ++ rest) = .ok (⟨t, c :: tail⟩, rest) := by
    rw [scan, cut rest stop]
    simp only [token]
  rw [lex_eq, List.cons_append, List.dropWhile_cons, if_neg (by rw [gap]; exact Bool.false_ne_true)]
  simp only [scanned]

/-! ## Shapes -/

/-- What is said of characters in ASCII can be checked one by one. -/
theorem forall_ascii {P : Char → Prop} (h : ∀ n < 128, P (Char.ofNat n)) {c : Char}
    (hc : c.toNat < 128) : P c := by
  have := h c.toNat hc
  rwa [Char.ofNat_toNat] at this

theorem toNat_lt_of_startsName {c : Char} (h : startsName c = true) : c.toNat < 128 := by
  rcases Bool.or_eq_true_iff.1 h with alpha | underscore
  · rcases Bool.or_eq_true_iff.1 alpha with upper | lower
    · have top : c.toNat ≤ 90 := (of_decide_eq_true upper).2
      omega
    · have top : c.toNat ≤ 122 := of_decide_eq_true (Bool.and_eq_true_iff.1 lower).2
      omega
  · rw [beq_iff_eq.1 underscore]
    decide

theorem startsName_bounds {c : Char} (h : startsName c = true) :
    isGap c = false ∧ isDigit c = false ∧ c ≠ ':' ∧ c ≠ ',' ∧ c ≠ '%' ∧ c ≠ '$' ∧ c ≠ '-' := by
  have ascii := toNat_lt_of_startsName h
  revert h
  exact forall_ascii (P := fun c => startsName c = true → isGap c = false ∧ isDigit c = false ∧
    c ≠ ':' ∧ c ≠ ',' ∧ c ≠ '%' ∧ c ≠ '$' ∧ c ≠ '-') (by decide +kernel) ascii

theorem Shape.cut_name {c : Char} (h : startsName c = true) (rest : List Char) :
    Shape.cut c rest = some (.munch .name [c] rest) := by
  obtain ⟨-, digit, colon, comma, percent, dollar, minus⟩ := startsName_bounds h
  unfold cut
  rw [if_neg colon, if_neg comma, if_neg percent, if_neg dollar, if_neg minus,
    if_neg (by rw [digit]; exact Bool.false_ne_true), if_pos h]

theorem lexes_name {c : Char} {tail : List Char} (hc : startsName c = true)
    (ht : ∀ d ∈ tail, isWord d = true) : Lexes (c :: tail) (Token.ofName (c :: tail)) := by
  apply lexes_of_cut (startsName_bounds hc).1
  · intro rest stop
    rw [Shape.cut_name hc, Cut.munch_append ht stop]
    rfl
  · rfl

theorem lexes_register {tail : List Char} {r : Reg} (ht : ∀ d ∈ tail, isWord d = true)
    (hr : Token.readRegister tail = .ok r) : Lexes ('%' :: tail) (.reg r) := by
  apply lexes_of_cut (by decide)
  · intro rest stop
    rw [show Shape.cut '%' (tail ++ rest) = some (.munch .register ['%'] (tail ++ rest)) from rfl,
      Cut.munch_append ht stop]
    rfl
  · rw [Shape.token, List.tail_cons, hr]
    rfl

/-- A run of characters has the shape of a number. -/
inductive NumberShape : List Char → Prop
  | plain {c : Char} {tail : List Char} (digit : ∃ d < 10, c = Nat.digitChar d)
    (word : ∀ d ∈ tail, isWord d = true) : NumberShape (c :: tail)
  | minus {c : Char} {tail : List Char} (digit : ∃ d < 10, c = Nat.digitChar d)
    (word : ∀ d ∈ tail, isWord d = true) : NumberShape ('-' :: c :: tail)

theorem digitChar_bounds : ∀ d < 10, isGap (Nat.digitChar d) = false ∧
    isDigit (Nat.digitChar d) = true ∧ isWord (Nat.digitChar d) = true ∧
    Nat.digitChar d ≠ '-' := by
  decide

theorem Shape.cut_digit {c : Char} (h : isDigit c = true) (rest : List Char) :
    Shape.cut c rest = some (.munch .integer [c] rest) := by
  have other : ∀ d ∈ [':', ',', '%', '$', '-'], c ≠ d := by
    rintro d hd rfl
    have none_is_digit : [':', ',', '%', '$', '-'].all (!isDigit ·) = true := by decide
    exact absurd h (by simpa using List.all_eq_true.1 none_is_digit c hd)
  unfold cut
  rw [if_neg (other _ (by decide)), if_neg (other _ (by decide)), if_neg (other _ (by decide)),
    if_neg (other _ (by decide)), if_neg (other _ (by decide)), if_pos h]

theorem Shape.cut_minus {c : Char} (h : isDigit c = true) (rest : List Char) :
    Shape.cut '-' (c :: rest) = some (.munch .integer ['-', c] rest) :=
  if_pos h

theorem lexes_int {run : List Char} {v : Int} (h : NumberShape run)
    (hv : Token.readInt run = .ok v) : Lexes run (.int v) := by
  have token : Shape.token .integer run = .ok (.int v) := by
    rw [Shape.token, hv]
    rfl
  cases h with
  | @plain c tail digit word =>
    obtain ⟨d, hd, rfl⟩ := digit
    obtain ⟨gap, digit, -⟩ := digitChar_bounds d hd
    refine lexes_of_cut gap ?_ token
    intro rest stop
    rw [Shape.cut_digit digit, Cut.munch_append word stop]
    rfl
  | @minus c tail digit word =>
    obtain ⟨d, hd, rfl⟩ := digit
    obtain ⟨-, digit, -⟩ := digitChar_bounds d hd
    refine lexes_of_cut (by decide) ?_ token
    intro rest stop
    rw [List.cons_append, Shape.cut_minus digit, Cut.munch_append word stop]
    rfl

theorem Shape.cut_dollar_of_ne {rest : List Char} (h : rest.head? ≠ some '-') :
    Shape.cut '$' rest = some (.munch .immediate ['$'] rest) := by
  unfold cut
  rw [if_neg (by decide), if_neg (by decide), if_neg (by decide), if_pos rfl]
  split
  · exact absurd rfl h
  · rfl

theorem lexes_imm {run : List Char} {v : Int} (h : NumberShape run)
    (hv : Token.readInt run = .ok v) : Lexes ('$' :: run) (.imm v) := by
  have token : Shape.token .immediate ('$' :: run) = .ok (.imm v) := by
    rw [Shape.token, List.tail_cons, hv]
    rfl
  refine lexes_of_cut (by decide) ?_ token
  intro rest stop
  cases h with
  | @plain c tail digit word =>
    obtain ⟨d, hd, rfl⟩ := digit
    obtain ⟨-, -, here, minus⟩ := digitChar_bounds d hd
    have plain : (Nat.digitChar d :: tail ++ rest).head? ≠ some '-' :=
      fun same => minus (Option.some.inj same)
    rw [Shape.cut_dollar_of_ne plain, Cut.munch_append (List.forall_mem_cons.2 ⟨here, word⟩) stop]
    rfl
  | @minus c tail digit word =>
    obtain ⟨d, hd, rfl⟩ := digit
    obtain ⟨-, -, here, -⟩ := digitChar_bounds d hd
    show some (Cut.munch .immediate ['$', '-'] (Nat.digitChar d :: tail ++ rest)) = _
    rw [Cut.munch_append (List.forall_mem_cons.2 ⟨here, word⟩) stop]
    rfl

/-! ## Runs with spaces between them -/

/-- Runs with spaces between them are read one by one. -/
theorem lex_intercalate {runs : List (List Char)} {ts : List Token}
    (h : List.Forall₂ Lexes runs ts) :
    lex ([' '].intercalate runs) = ⟨List.zipWith Lexeme.mk ts runs, none⟩ := by
  induction h with
  | nil =>
    rw [List.intercalate_nil, lex_nil]
    rfl
  | @cons run t runs ts head tail ih =>
    cases tail with
    | nil =>
      have last := head [] (by simp [Stops])
      rw [List.append_nil, lex_nil] at last
      rw [List.intercalate_singleton, last]
      rfl
    | @cons run' t' runs ts next tail =>
      have stop : Stops ([' '] ++ [' '].intercalate (run' :: runs)) := by
        intro c hc
        cases hc
        decide
      rw [List.intercalate_cons_cons, List.append_assoc, head _ stop, List.singleton_append,
        lex_gap (by decide), ih]
      rfl

/-! ## Texts one after the other -/

/-- No token that a text ends with goes on with `rest`. -/
def Separate (rest : List Char) : Prop :=
  ∀ c ∈ rest.head?, isWord c = false ∧ c ≠ '-'

theorem separate_cons {c : Char} (rest : List Char) (word : isWord c = false) (minus : c ≠ '-') :
    Separate (c :: rest) := by
  intro d hd
  cases hd
  exact ⟨word, minus⟩

theorem Cut.munch_append_rest {rest : List Char} (sep : Separate rest) (shape : Shape)
    (head text : List Char) :
    munch shape head (text ++ rest) =
      ⟨shape, head ++ text.takeWhile isWord, text.dropWhile isWord ++ rest⟩ := by
  have stop : Stops (text.dropWhile isWord ++ rest) := by
    intro c hc
    cases left : text.dropWhile isWord with
    | nil =>
      rw [left] at hc
      exact (sep c hc).1
    | cons d more =>
      rw [left] at hc
      cases hc
      have first := List.head?_dropWhile_not isWord text
      rw [left] at first
      simpa using first
  have word : ∀ c ∈ text.takeWhile isWord, isWord c = true :=
    List.all_eq_true.1 List.all_takeWhile
  conv => lhs; rw [← List.takeWhile_append_dropWhile (p := isWord) (l := text), List.append_assoc]
  exact munch_append word stop shape head

/-- Both branches of a choice go on as before. -/
theorem ite_eq_imp {α β : Type} {p : Prop} [Decidable p] {x y a : α} {x' y' b : β}
    (yes : p → x = a → x' = b) (no : ¬p → y = a → y' = b) :
    (if p then x else y) = a → (if p then x' else y') = b := by
  by_cases h : p
  · rw [if_pos h, if_pos h]
    exact yes h
  · rw [if_neg h, if_neg h]
    exact no h

/-- What separates a text from what follows leaves the cut of the text as it is. -/
theorem Shape.cut_append {c : Char} {text rest : List Char} {k : Cut} (sep : Separate rest)
    (h : Shape.cut c text = some k) :
    Shape.cut c (text ++ rest) = some ⟨k.shape, k.run, k.rest ++ rest⟩ := by
  have munched : ∀ (shape : Shape) (head more : List Char),
      some (Cut.munch shape head more) = some k →
        some (Cut.munch shape head (more ++ rest)) = some ⟨k.shape, k.run, k.rest ++ rest⟩ := by
    rintro shape head more ⟨⟩
    rw [Cut.munch_append_rest sep]
    rfl
  revert h
  unfold cut
  refine ite_eq_imp (fun _ => ?colon) fun _ => ite_eq_imp (fun _ => ?comma) fun _ =>
    ite_eq_imp (fun _ => munched _ _ _) fun _ => ite_eq_imp (fun _ => ?dollar) fun _ =>
    ite_eq_imp (fun _ => ?minus) fun _ => ite_eq_imp (fun _ => munched _ _ _) fun _ =>
    ite_eq_imp (fun _ => munched _ _ _) fun _ => ?none
  case colon | comma =>
    rintro ⟨⟩
    rfl
  case dollar =>
    rcases text with _ | ⟨d, more⟩
    · -- A dollar sign at the end of the text is all of an immediate unless a minus sign follows.
      intro h
      have alone := munched _ _ [] h
      rcases rest with _ | ⟨d, more⟩
      · exact alone
      · have minus : d ≠ '-' := (sep d rfl).2
        simpa [minus] using alone
    · by_cases minus : d = '-'
      · subst minus
        exact munched _ _ _
      · simpa [minus] using munched .immediate [c] (d :: more)
  case minus =>
    rcases text with _ | ⟨d, more⟩
    · exact nofun
    · exact ite_eq_imp (fun _ => munched _ _ _) fun _ => nofun
  case none => exact nofun

theorem scan_append {c : Char} {text rest text' : List Char} {x : Lexeme} (sep : Separate rest)
    (h : scan c text = .ok (x, text')) : scan c (text ++ rest) = .ok (x, text' ++ rest) := by
  obtain ⟨shape, cut, read⟩ := scan_eq_ok_iff.1 h
  exact scan_eq_ok_iff.2 ⟨shape, Shape.cut_append sep cut, read⟩

/-- The tokens of two texts that are separate, one after the other. -/
theorem lex_append {text rest : List Char} (clean : (lex text).error? = none)
    (sep : Separate rest) :
    lex (text ++ rest) = ⟨(lex text).lexemes ++ (lex rest).lexemes, (lex rest).error?⟩ := by
  induction text using lex.induct with
  | case1 text none =>
    have empty : lex text = ⟨[], Option.none⟩ := by
      rw [lex_eq, none]
    rw [empty, List.nil_append, lex_eq, List.dropWhile_append, none, List.isEmpty_nil, if_pos rfl,
      ← lex_eq]
  | case2 text c more some e fails =>
    rw [lex_eq, some] at clean
    simp only [fails] at clean
    cases clean
  | case3 text c more some x text' scanned ih =>
    rw [lex_eq text, some] at clean ⊢
    simp only [scanned] at clean ⊢
    have front : (text ++ rest).dropWhile isGap = c :: (more ++ rest) := by
      rw [List.dropWhile_append, some, List.isEmpty_cons, if_neg Bool.false_ne_true,
        List.cons_append]
    rw [lex_eq, front]
    simp only [scan_append sep scanned, ih clean, List.cons_append]

/-! ## Tokens among others -/

/-- A token of a text was read at some place of it. -/
theorem exists_scan_of_mem_lexemes {text : List Char} {x : Lexeme} (h : x ∈ (lex text).lexemes) :
    ∃ c rest rest', scan c rest = .ok (x, rest') := by
  induction text using lex.induct with
  | case1 text none_left =>
    rw [lex_eq, none_left] at h
    cases h
  | case2 text c rest cut e fault =>
    rw [lex_eq, cut] at h
    simp only [fault] at h
    cases h
  | case3 text c rest cut y rest' read ih =>
    rw [lex_eq, cut] at h
    simp only [read] at h
    rcases List.mem_cons.1 h with rfl | later
    · exact ⟨c, rest, rest', read⟩
    · exact ih later

/-! ## Colons -/

theorem Cut.munch_spec {shape : Shape} {head : List Char} (h : ':' ∉ head) (text : List Char) :
    (munch shape head text).run ++ (munch shape head text).rest = head ++ text ∧
      ':' ∉ (munch shape head text).run := by
  refine ⟨by simp [munch], fun mem => ?_⟩
  rcases List.mem_append.1 mem with first | more
  · exact h first
  · exact absurd (List.all_eq_true.1 List.all_takeWhile _ more) (by decide +kernel)

/-- The run that a text starts with and the rest of it make up the text. Only a colon is a run with a
colon in it. -/
theorem Shape.cut_spec {c : Char} {rest : List Char} {k : Cut} (h : Shape.cut c rest = some k) :
    k.run ++ k.rest = c :: rest ∧ (c = ':' ∧ k.shape = .colon ∨ ':' ∉ k.run) := by
  unfold cut at h
  split at h
  · next colon =>
    cases h
    exact ⟨rfl, .inl ⟨colon, rfl⟩⟩
  next other =>
  suffices k.run ++ k.rest = c :: rest ∧ ':' ∉ k.run from ⟨this.1, .inr this.2⟩
  have single : ':' ∉ [c] := by simpa using Ne.symm other
  split at h
  · cases h
    exact ⟨rfl, single⟩
  split at h
  · cases h
    exact Cut.munch_spec single rest
  split at h
  · next dollar =>
    subst dollar
    split at h <;> cases h <;> exact Cut.munch_spec (by decide) _
  split at h
  · next minus =>
    subst minus
    split at h
    · split at h
      · next d _ digit =>
        cases h
        refine Cut.munch_spec ?_ _
        rintro (_ | ⟨_, _ | ⟨_, ⟨⟩⟩⟩)
        exact absurd digit (by decide)
      · cases h
    · cases h
  split at h
  · cases h
    exact Cut.munch_spec single rest
  split at h
  · cases h
    exact Cut.munch_spec single rest
  · cases h

/-- The text of a token and what is left make up what was read. -/
theorem text_append_of_scan {c : Char} {rest rest' : List Char} {x : Lexeme}
    (h : scan c rest = .ok (x, rest')) : x.text ++ rest' = c :: rest := by
  obtain ⟨shape, cut, -⟩ := scan_eq_ok_iff.1 h
  exact (Shape.cut_spec cut).1

theorem colon_mem_dropWhile_isGap {text : List Char} (h : ':' ∈ text) :
    ':' ∈ text.dropWhile isGap := by
  rw [← List.takeWhile_append_dropWhile (p := isGap) (l := text)] at h
  rcases List.mem_append.1 h with gap | here
  · exact absurd (List.all_eq_true.1 List.all_takeWhile _ gap) (by decide)
  · exact here

/-- A colon is a token of its own. -/
theorem exists_colon_of_lex {text : List Char} (h : ':' ∈ text)
    (clean : (lex text).error? = none) : ∃ x ∈ (lex text).lexemes, x.token = .colon := by
  induction text using lex.induct with
  | case1 text none =>
    have := colon_mem_dropWhile_isGap h
    rw [none] at this
    cases this
  | case2 text c rest some e fails =>
    rw [lex_eq, some] at clean
    simp only [fails] at clean
    cases clean
  | case3 text c rest some x rest' scanned ih =>
    have here := colon_mem_dropWhile_isGap h
    rw [some] at here
    rw [lex_eq, some] at clean ⊢
    simp only [scanned] at clean ⊢
    obtain ⟨shape, cut, read⟩ := scan_eq_ok_iff.1 scanned
    obtain ⟨whole, ⟨rfl, colon⟩ | elsewhere⟩ := Shape.cut_spec cut
    · cases colon
      exact ⟨_, List.mem_cons_self, (Except.ok.inj read).symm⟩
    · rw [← whole, List.mem_append] at here
      obtain ⟨x, later, token⟩ := ih (here.resolve_left elsewhere) clean
      exact ⟨x, List.mem_cons_of_mem _ later, token⟩

end Sixteen
