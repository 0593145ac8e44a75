import Sixteen.Proofs.Statement.Reader
import Sixteen.Proofs.Token.Label
import Sixteen.Proofs.Token.Shape

/-!
# Commas and gaps

A comma is a token that no instruction needs: it ends the token before it as a space does, and what
is read are the tokens without the commas. So commas can be put for spaces, and both can be put
wherever a token has ended, before the first token and behind the last one.

* `Lexing.significant` : the tokens of a text without its commas (`Body.parse_congr`);
* `Follows`, `scan_replace` : a token is read alike before all that it stops at;
* `spaceForComma`, `significant_lex_map` : a text with spaces in place of its commas;
* `Spread` : separators put between the tokens of a text (`significant_lex_of_spread`);
* `Body.separators_free` : what is read from a text, or blamed, is the same after either.
-/

namespace Sixteen

open Text (isDigit isWord)

/-! ## Tokens without commas -/

/-- The tokens that an instruction is read from: all but the commas. -/
def Lexing.significant (l : Lexing) : Lexing :=
  ⟨l.lexemes.filter (·.token ≠ .comma), l.error?⟩

/-- What comes before does not depend on what is significant behind it. -/
theorem Lexing.significant_cons {l l' : Lexing} (h : l.significant = l'.significant) (x : Lexeme) :
    significant ⟨x :: l.lexemes, l.error?⟩ = significant ⟨x :: l'.lexemes, l'.error?⟩ := by
  obtain ⟨tokens, errors⟩ := Lexing.mk.inj h
  rw [significant, significant, List.filter_cons, List.filter_cons, tokens, errors]

theorem Body.parse_congr {text text' : List Char}
    (h : (lex text).significant = (lex text').significant) : parse text = parse text' := by
  unfold parse
  revert h
  rcases lex text with ⟨xs, _ | e⟩ <;> rcases lex text' with ⟨xs', _ | e'⟩ <;> intro h <;>
    obtain ⟨tokens, errors⟩ := Lexing.mk.inj h <;> cases errors
  · exact congrArg ofLexemes tokens
  · rfl

theorem significant_lex_comma (rest : List Char) :
    (lex (',' :: rest)).significant = (lex rest).significant := by
  have read : lex (',' :: rest) = ⟨⟨.comma, [',']⟩ :: (lex rest).lexemes, (lex rest).error?⟩ := by
    rw [lex_eq, List.dropWhile_cons_of_neg (by decide)]
    rfl
  rw [read, Lexing.significant, List.filter_cons_of_neg (by decide), Lexing.significant]

theorem ne_comma_of_isGap {c : Char} (h : isGap c = true) : c ≠ ',' := by
  rintro rfl
  exact absurd h (by decide)

/-! ## What a token stops at -/

/-- What stops a token before `rest` stops it before `rest'`: the same character, or one that no
token goes on with. -/
def Follows (rest rest' : List Char) : Prop :=
  ∀ d ∈ rest'.head?, d ∈ rest.head? ∨ isWord d = false ∧ d ≠ '-'

section
variable {c : Char} {tail rest rest' : List Char} {s : Shape}

theorem Follows.stops (f : Follows rest rest') (h : Stops rest) : Stops rest' := by
  intro d hd
  rcases f d hd with same | ⟨word, -⟩
  · exact h d same
  · exact word

theorem Cut.munch_replace (f : Follows rest rest') {head more run : List Char} {s t : Shape}
    (whole : head ++ more = run) (h : munch s head (more ++ rest) = ⟨t, run, rest⟩) :
    munch s head (more ++ rest') = ⟨t, run, rest'⟩ := by
  subst whole
  obtain ⟨rfl, taken, dropped⟩ := Cut.mk.inj h
  have word : ∀ d ∈ more, isWord d = true := by
    rw [← List.append_cancel_left taken]
    exact List.all_eq_true.1 List.all_takeWhile
  have stop : Stops rest := by
    intro d hd
    have first := List.head?_dropWhile_not isWord (more ++ rest)
    rw [dropped, hd] at first
    simpa using first
  exact munch_append word (f.stops stop) s head

/-- A dollar sign alone has no minus sign behind it, which would be part of the immediate. -/
theorem Shape.cut_replace_dollar (f : Follows rest rest')
    (h : Shape.cut '$' rest = some ⟨s, ['$'], rest⟩) :
    Shape.cut '$' rest' = some ⟨s, ['$'], rest'⟩ := by
  have before : rest.head? ≠ some '-' := by
    intro minus
    obtain ⟨more, rfl⟩ := List.head?_eq_some_iff.1 minus
    have longer : ['$', '-'] ++ more.takeWhile isWord = ['$'] :=
      (Cut.mk.inj (Option.some.inj h)).2.1
    simp at longer
  have behind : rest'.head? ≠ some '-' := by
    intro minus
    rcases f '-' minus with same | ⟨-, other⟩
    · exact before same
    · exact other rfl
  rw [cut_dollar_of_ne before] at h
  rw [cut_dollar_of_ne behind]
  have alone : ['$'] ++ [] = ['$'] := rfl
  exact congrArg some (Cut.munch_replace f alone (Option.some.inj h))

theorem Shape.cut_replace (f : Follows rest rest')
    (h : Shape.cut c (tail ++ rest) = some ⟨s, c :: tail, rest⟩) :
    Shape.cut c (tail ++ rest') = some ⟨s, c :: tail, rest'⟩ := by
  have munched : ∀ (shape : Shape) (head more : List Char), head ++ more = c :: tail →
      some (Cut.munch shape head (more ++ rest)) = some ⟨s, c :: tail, rest⟩ →
        some (Cut.munch shape head (more ++ rest')) = some ⟨s, c :: tail, rest'⟩ :=
    fun shape head more whole same =>
      congrArg some (Cut.munch_replace f whole (Option.some.inj same))
  revert h
  unfold cut
  refine ite_eq_imp (fun _ => ?colon) fun _ => ite_eq_imp (fun _ => ?comma) fun _ =>
    ite_eq_imp (fun _ => munched _ _ _ rfl) fun _ => ite_eq_imp (fun dollar => ?dollar) fun _ =>
    ite_eq_imp (fun _ => ?minus) fun _ => ite_eq_imp (fun _ => munched _ _ _ rfl) fun _ =>
    ite_eq_imp (fun _ => munched _ _ _ rfl) fun _ => ?none
  case colon | comma =>
    intro h
    obtain ⟨rfl, run, -⟩ := Cut.mk.inj (Option.some.inj h)
    rw [← (List.cons.inj run).2]
    rfl
  case dollar =>
    rcases tail with _ | ⟨d, more⟩
    · subst dollar
      exact cut_replace_dollar f
    · by_cases minus : d = '-'
      · subst minus
        exact munched _ [c, '-'] more rfl
      · simpa [minus] using munched .immediate [c] (d :: more) rfl
  case minus =>
    rcases tail with _ | ⟨d, more⟩
    · -- The number would go on with the digit behind its minus sign.
      intro h
      rcases rest with _ | ⟨d, more⟩
      · cases h
      have number : (if isDigit d then some (Cut.munch .integer [c, d] more) else none) =
          some ⟨s, [c], d :: more⟩ := h
      split at number
      · have longer : [c, d] ++ more.takeWhile isWord = [c] :=
          (Cut.mk.inj (Option.some.inj number)).2.1
        simp at longer
      · cases number
    · exact ite_eq_imp (fun _ => munched _ [c, d] more rfl) fun _ => nofun
  case none => exact nofun

/-- What starts no token before `rest` starts none before `rest'`. -/
theorem Shape.cut_replace_none (f : Follows rest rest') (h : Shape.cut c rest = none) :
    Shape.cut c rest' = none := by
  revert h
  unfold cut
  refine ite_eq_imp (fun _ => nofun) fun _ => ite_eq_imp (fun _ => nofun) fun _ =>
    ite_eq_imp (fun _ => nofun) fun _ => ite_eq_imp (fun _ => ?dollar) fun _ =>
    ite_eq_imp (fun _ => ?minus) fun _ => ite_eq_imp (fun _ => nofun) fun _ =>
    ite_eq_imp (fun _ => nofun) fun _ _ => rfl
  case dollar =>
    intro h
    split at h <;> cases h
  case minus =>
    intro h
    rcases rest' with _ | ⟨d, more⟩
    · rfl
    · refine if_neg fun digit => ?_
      rcases f d rfl with same | ⟨word, -⟩
      · obtain ⟨more, rfl⟩ := List.head?_eq_some_iff.1 same
        have number : (if isDigit d then some (Cut.munch .integer [c, d] more) else none) = none := h
        rw [if_pos digit] at number
        cases number
      · exact Bool.false_ne_true (word.symm.trans (isWord_of_isDigit digit))

theorem scan_replace (f : Follows rest rest') {x : Lexeme} (run : x.text = c :: tail)
    (h : scan c (tail ++ rest) = .ok (x, rest)) : scan c (tail ++ rest') = .ok (x, rest') := by
  obtain ⟨shape, cut, read⟩ := scan_eq_ok_iff.1 h
  rw [run] at cut
  exact scan_eq_ok_iff.2 ⟨shape, run ▸ Shape.cut_replace f cut, read⟩

end

/-! ## Behind a gap -/

theorem lex_dropWhile (text : List Char) : lex (text.dropWhile isGap) = lex text := by
  rw [lex_eq, List.dropWhile_idempotent, ← lex_eq]

theorem isGap_of_dropWhile {c : Char} {text rest : List Char}
    (h : text.dropWhile isGap = c :: rest) : isGap c = false := by
  have first := List.head?_dropWhile_not isGap text
  rw [h] at first
  simpa using first

theorem lex_cons {c : Char} (h : isGap c = false) (rest : List Char) :
    lex (c :: rest) = match scan c rest with
      | .error e => ⟨[], some e⟩
      | .ok (x, rest') => ⟨x :: (lex rest').lexemes, (lex rest').error?⟩ := by
  have read := lex_eq (c :: rest)
  rwa [List.dropWhile_cons_of_neg (by rw [h]; exact Bool.false_ne_true)] at read

/-! ## Spaces in place of commas -/

/-- A space for a comma; all else stays. -/
def spaceForComma (c : Char) : Char :=
  if c = ',' then ' ' else c

theorem map_spaceForComma {text : List Char} (h : ∀ c ∈ text, c ≠ ',') :
    text.map spaceForComma = text := by
  refine (List.map_congr_left ?_).trans (List.map_id text)
  intro c hc
  exact if_neg (h c hc)

theorem follows_map (rest : List Char) : Follows rest (rest.map spaceForComma) := by
  intro d hd
  rw [List.head?_map] at hd
  obtain ⟨c, first, rfl⟩ := Option.map_eq_some_iff.1 hd
  by_cases comma : c = ','
  · right
    rw [spaceForComma, if_pos comma]
    exact ⟨by decide +kernel, by decide⟩
  · left
    rw [spaceForComma, if_neg comma]
    exact first

theorem scan_map (c : Char) (rest : List Char) :
    scan c (rest.map spaceForComma) =
      (scan c rest).map fun (x, rest) => (x, rest.map spaceForComma) := by
  have cut : Shape.cut c (rest.map spaceForComma) =
      (Shape.cut c rest).map fun k => ⟨k.shape, k.run, k.rest.map spaceForComma⟩ := by
    cases h : Shape.cut c rest with
    | none => exact Shape.cut_replace_none (follows_map rest) h
    | some k =>
      obtain ⟨tail, run, rfl, matched⟩ := Shape.exists_run_of_cut h
      have plain : ∀ d ∈ tail, d ≠ ',' := matched.ne_comma
      rw [List.map_append, map_spaceForComma plain]
      obtain ⟨shape, _, more⟩ := k
      subst run
      exact Shape.cut_replace (follows_map more) h
  unfold scan
  rw [cut]
  cases Shape.cut c rest with
  | none => rfl
  | some k =>
    dsimp only [Option.map_some]
    cases k.shape.token k.run <;> rfl

/-- With spaces for its commas a text has the same tokens otherwise, and the same fault. -/
theorem significant_lex_map (text : List Char) :
    (lex (text.map spaceForComma)).significant = (lex text).significant := by
  have gaps : ∀ text : List Char,
      lex (text.map spaceForComma) = lex ((text.dropWhile isGap).map spaceForComma) := by
    intro text
    have gap : ∀ c ∈ text.takeWhile isGap, isGap c = true := List.all_eq_true.1 List.all_takeWhile
    conv => lhs; rw [← List.takeWhile_append_dropWhile (p := isGap) (l := text), List.map_append,
      map_spaceForComma fun c hc => ne_comma_of_isGap (gap c hc), lex_gaps_append gap]
  induction text using lex.induct with
  | case1 text none => rw [gaps, none, ← lex_dropWhile text, none, List.map_nil]
  | case2 text c more some e fails =>
    have solid := isGap_of_dropWhile some
    have other : c ≠ ',' := by
      rintro rfl
      cases fails
    rw [gaps, ← lex_dropWhile text, some, List.map_cons, spaceForComma, if_neg other,
      lex_cons solid, lex_cons solid, scan_map, fails]
    rfl
  | case3 text c more some x text' scanned ih =>
    have solid := isGap_of_dropWhile some
    rw [gaps, ← lex_dropWhile text, some, List.map_cons]
    by_cases comma : c = ','
    · -- The comma is left out, and the space for it is a gap.
      subst comma
      cases scanned
      rw [significant_lex_comma, spaceForComma, if_pos rfl, lex_gap (by decide)]
      exact ih
    · rw [spaceForComma, if_neg comma, lex_cons solid, lex_cons solid, scan_map, scanned]
      exact Lexing.significant_cons ih x

/-! ## Separators between tokens -/

/-- Whether `c` may stand between tokens, or is a comma. -/
def isSeparator (c : Char) : Bool :=
  isGap c || c == ','

theorem significant_lex_separators {wide : List Char} (h : ∀ c ∈ wide, isSeparator c = true)
    (rest : List Char) : (lex (wide ++ rest)).significant = (lex rest).significant := by
  induction wide with
  | nil => rfl
  | cons c wide ih =>
    obtain ⟨first, others⟩ := List.forall_mem_cons.1 h
    rw [List.cons_append]
    rcases Bool.or_eq_true_iff.1 first with gap | comma
    · rw [lex_gap gap, ih others]
    · rw [beq_iff_eq.1 comma, significant_lex_comma, ih others]

/-- Separators are put in among those of a gap, anywhere and as many as one likes. -/
structure Widens (gap wide : List Char) : Prop where
  gaps : ∀ c ∈ gap, isGap c = true
  separators : ∀ c ∈ wide, isSeparator c = true
  kept : gap.Sublist wide

/-- Separators are put into the text `text` of the tokens `xs`: before the first of them, between any
two and behind the last. The result is `text'`. -/
inductive Spread : List Lexeme → List Char → List Char → Prop
  | last {gap wide : List Char} (widens : Widens gap wide) : Spread [] gap wide
  | token {gap wide rest rest' : List Char} {x : Lexeme} {xs : List Lexeme}
    (widens : Widens gap wide) (others : Spread xs rest rest') :
    Spread (x :: xs) (gap ++ x.text ++ rest) (wide ++ x.text ++ rest')

theorem follows_separator {c : Char} (h : isSeparator c = true) (rest more : List Char) :
    Follows rest (c :: more) := by
  intro d hd
  cases hd
  rcases Bool.or_eq_true_iff.1 h with gap | comma
  · have word := isWord_eq_false_of_isBlank (isBlank_of_isGap gap)
    refine .inr ⟨word, ?_⟩
    rintro rfl
    exact absurd gap (by decide)
  · rw [beq_iff_eq.1 comma]
    exact .inr ⟨by decide +kernel, by decide⟩

theorem Spread.follows {xs : List Lexeme} {text text' : List Char} (s : Spread xs text text') :
    Follows text text' := by
  induction s with
  | @last gap wide widens =>
    cases wide with
    | nil => exact nofun
    | cons c more => exact follows_separator (widens.separators c List.mem_cons_self) gap more
  | @token gap wide rest rest' x xs widens others ih =>
    cases wide with
    | nil =>
      rw [List.sublist_nil.1 widens.kept]
      cases hx : x.text with
      | nil => exact ih
      | cons c tail => exact fun d hd => .inl hd
    | cons c more => exact follows_separator (widens.separators c List.mem_cons_self) _ _

theorem exists_tail_of_scan {c : Char} {more rest : List Char} {x : Lexeme}
    (h : scan c more = .ok (x, rest)) : ∃ tail, x.text = c :: tail ∧ more = tail ++ rest := by
  obtain ⟨shape, cut, -⟩ := scan_eq_ok_iff.1 h
  obtain ⟨tail, run, whole, -⟩ := Shape.exists_run_of_cut cut
  exact ⟨tail, run, whole⟩

/-- A text that starts with the text of its first token has this token there. -/
theorem scan_of_lex_eq_cons {x : Lexeme} {xs : List Lexeme} {rest : List Char}
    (h : lex (x.text ++ rest) = ⟨x :: xs, none⟩) :
    ∃ c tail, x.text = c :: tail ∧ isGap c = false ∧ scan c (tail ++ rest) = .ok (x, rest) ∧
      lex rest = ⟨xs, none⟩ := by
  rw [lex_eq] at h
  split at h
  · cases h
  next c more start =>
  have solid := isGap_of_dropWhile start
  split at h
  · cases h
  next y rest' scanned =>
  obtain ⟨⟨rfl, others⟩, clean⟩ :
      (y = x ∧ (lex rest').lexemes = xs) ∧ (lex rest').error? = none := by simpa using h
  obtain ⟨tail, run, rfl⟩ := exists_tail_of_scan scanned
  rw [run, List.cons_append, List.dropWhile_cons_of_neg (by rw [solid]; exact Bool.false_ne_true)]
    at start
  obtain rfl : rest = rest' := List.append_cancel_left (List.cons.inj start).2
  exact ⟨c, tail, run, solid, scanned, by rw [← others, ← clean]⟩

/-- Separators between its tokens leave a text the tokens that it has. -/
theorem significant_lex_of_spread {xs : List Lexeme} {text text' : List Char}
    (s : Spread xs text text') (h : lex text = ⟨xs, none⟩) :
    (lex text').significant = (lex text).significant := by
  induction s with
  | @last gap wide widens =>
    have blank := significant_lex_separators widens.separators []
    rw [List.append_nil] at blank
    rw [blank, lex_eq_nil_iff.2 widens.gaps, lex_nil]
  | @token gap wide rest rest' x xs widens others ih =>
    rw [List.append_assoc, lex_gaps_append widens.gaps] at h
    obtain ⟨c, tail, run, solid, scanned, behind⟩ := scan_of_lex_eq_cons h
    rw [List.append_assoc, significant_lex_separators widens.separators, List.append_assoc,
      lex_gaps_append widens.gaps, run, List.cons_append, List.cons_append, lex_cons solid,
      lex_cons solid, scan_replace others.follows run scanned, scanned]
    exact Lexing.significant_cons (ih behind) x

theorem Widens.refl {gap : List Char} (h : ∀ c ∈ gap, isGap c = true) : Widens gap gap where
  gaps := h
  separators c hc := Bool.or_eq_true_iff.2 (.inl (h c hc))
  kept := List.Sublist.refl gap

/-- Every text without a fault is its tokens with gaps around them. -/
theorem spread_of_lex {text : List Char} {xs : List Lexeme} (h : lex text = ⟨xs, none⟩) :
    Spread xs text text := by
  induction text using lex.induct generalizing xs with
  | case1 text none_left =>
    have gaps := List.dropWhile_eq_nil_iff.1 none_left
    rw [lex_eq_nil_iff.2 gaps] at h
    cases h
    exact .last (.refl gaps)
  | case2 text c more some e fails =>
    rw [← lex_dropWhile, some, lex_cons (isGap_of_dropWhile some), fails] at h
    cases h
  | case3 text c more some x text' scanned ih =>
    rw [← lex_dropWhile, some, lex_cons (isGap_of_dropWhile some), scanned] at h
    obtain ⟨rfl, clean⟩ := Lexing.mk.inj h
    have whole : text.takeWhile isGap ++ x.text ++ text' = text := by
      rw [List.append_assoc, text_append_of_scan scanned, ← some, List.takeWhile_append_dropWhile]
    rw [← whole]
    exact .token (.refl (List.all_eq_true.1 List.all_takeWhile)) (ih (by rw [← clean]))

namespace Body

/-- A text is read in the same way, and blamed for the same, with spaces in place of its commas. If it
has no fault as a text of tokens, so it is with separators put in front of them, between them and
behind them. -/
theorem separators_free (text : List Char) :
    parse (text.map spaceForComma) = parse text ∧
    ∀ xs, lex text = ⟨xs, none⟩ → Spread xs text text ∧
      ∀ text', Spread xs text text' → parse text' = parse text := by
  refine ⟨parse_congr (significant_lex_map text), fun xs tokens => ⟨spread_of_lex tokens, ?_⟩⟩
  intro text' spread
  exact parse_congr (significant_lex_of_spread spread tokens)

/-- Separators between tokens that had none between them. -/
theorem separators_free_branch :
    lex "br-3".toList = ⟨[⟨.branch 0, ['b', 'r']⟩, ⟨.int (-3), ['-', '3']⟩], none⟩ ∧
    Spread [⟨.branch 0, ['b', 'r']⟩, ⟨.int (-3), ['-', '3']⟩] "br-3".toList ",br ,\t-3,".toList ∧
    parse ",br ,\t-3,".toList = parse "br-3".toList ∧
    parse "br-3".toList = .ok (.operation (.br 0 (.offset (.truncate 9 (-3))))) := by
  have tokens : lex "br-3".toList =
      ⟨[⟨.branch 0, ['b', 'r']⟩, ⟨.int (-3), ['-', '3']⟩], none⟩ := by
    decide +kernel
  have widens : ∀ wide : List Char, wide.all isSeparator = true → Widens [] wide :=
    fun wide h => ⟨List.forall_mem_nil _, List.all_eq_true.1 h, List.nil_sublist wide⟩
  have spread : Spread [⟨.branch 0, ['b', 'r']⟩, ⟨.int (-3), ['-', '3']⟩] "br-3".toList
      ",br ,\t-3,".toList :=
    .token (widens [','] (by decide))
      (.token (widens [' ', ',', '\t'] (by decide)) (.last (widens [','] (by decide))))
  exact ⟨tokens, spread, ((separators_free "br-3".toList).2 _ tokens).2 _ spread, by decide +kernel⟩

end Body

end Sixteen
