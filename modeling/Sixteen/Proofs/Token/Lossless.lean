import Sixteen.Proofs.Token.Branch
import Sixteen.Proofs.Token.Label
import Sixteen.Proofs.Token.Shape
import Sixteen.Proofs.Token.Written

/-!
# Tokens and the text they were read from

Reading loses nothing of a text: its tokens were read from runs that stand in it one after the other,
with gaps between them, and a fault is at the place where they end. Nor do the tokens depend on how
they were written: each has a spelling of its own, and these spellings with spaces between them are
read as the same tokens.

* `Tokenized` : a text is gaps and runs of tokens up to a rest, each run the longest of its shape;
* `FaultAt` : what is wrong at the start of a text;
* `exists_tokenized_lex` : the tokens and the fault of a text;
* `Token.spelling`, `Token.lexes_spelling` : the spelling of a token that was read, and what it is
  read as;
* `lex_lossless` : both together.
-/

namespace Sixteen

open Text (isWord)

/-! ## Texts of tokens -/

/-- A text consists of the runs of tokens with gaps around them, and of a rest. Each run is the longest
one of its shape where it stands, and is read as its token. -/
inductive Tokenized : List Char → List Lexeme → List Char → Prop
  | done {gap : List Char} (gaps : ∀ c ∈ gap, isGap c = true) (rest : List Char) :
    Tokenized (gap ++ rest) [] rest
  | token {gap more rest : List Char} {x : Lexeme} {xs : List Lexeme}
    (gaps : ∀ c ∈ gap, isGap c = true)
    (longest : x.token.shape.Longest (x.text ++ more) x.text)
    (read : x.token.shape.token x.text = .ok x.token) (others : Tokenized more xs rest) :
    Tokenized (gap ++ (x.text ++ more)) (x :: xs) rest

/-- What is wrong where a text starts. -/
inductive FaultAt : List Char → LexError → Prop
  /-- The first character starts no text of any shape, and is the fault by itself. -/
  | symbol {c : Char} {rest : List Char}
    (none : ∀ (s : Shape) (run : List Char), s.Matches run → ¬run <+: c :: rest) :
    FaultAt (c :: rest) ⟨.badSymbol, [c]⟩
  /-- The longest run is read as no token. -/
  | run {text run : List Char} {s : Shape} {fault : LexFault} (longest : s.Longest text run)
    (read : s.token run = .error fault) : FaultAt text ⟨fault, run⟩

variable {text rest : List Char} {xs : List Lexeme} {e : LexError}

theorem Tokenized.ne_nil (h : Tokenized text xs rest) : ∀ x ∈ xs, x.text ≠ [] := by
  induction h with
  | done gaps rest => exact List.forall_mem_nil _
  | token gaps longest read others ih => exact List.forall_mem_cons.2 ⟨longest.matched.ne_nil, ih⟩

theorem longest_of_scan {c : Char} {more : List Char} {x : Lexeme}
    (h : scan c rest = .ok (x, more)) :
    x.token.shape.Longest (x.text ++ more) x.text ∧ x.token.shape.token x.text = .ok x.token := by
  obtain ⟨shape, cut, read⟩ := scan_eq_ok_iff.1 h
  rw [text_append_of_scan h, Shape.shape_of_token read]
  exact ⟨Shape.longest_of_cut cut, read⟩

theorem faultAt_of_scan {c : Char} (h : scan c rest = .error e) : FaultAt (c :: rest) e := by
  obtain ⟨none, rfl⟩ | ⟨shape, rest', cut, read⟩ := scan_eq_error_iff.1 h
  · exact .symbol fun s run matched => Shape.not_prefix_of_cut_eq_none none matched
  · exact .run (Shape.longest_of_cut cut) read

theorem Tokenized.of_dropWhile (h : Tokenized (text.dropWhile isGap) xs rest) :
    Tokenized text xs rest := by
  have before : ∀ c ∈ text.takeWhile isGap, isGap c = true :=
    List.all_eq_true.1 List.all_takeWhile
  rw [← List.takeWhile_append_dropWhile (p := isGap) (l := text)]
  generalize text.takeWhile isGap = front at before
  generalize text.dropWhile isGap = back at h
  cases h with
  | done gaps rest =>
    rw [← List.append_assoc]
    exact .done (List.forall_mem_append.2 ⟨before, gaps⟩) rest
  | token gaps longest read others =>
    rw [← List.append_assoc]
    exact .token (List.forall_mem_append.2 ⟨before, gaps⟩) longest read others

/-- The tokens of a text make up the text, up to its fault if it has one. -/
theorem exists_tokenized_lex (text : List Char) :
    ∃ rest, Tokenized text (lex text).lexemes rest ∧
      ((lex text).error? = none → rest = []) ∧
      ∀ e, (lex text).error? = some e → FaultAt rest e := by
  have no_gap : ∀ c ∈ ([] : List Char), isGap c = true := List.forall_mem_nil _
  induction text using lex.induct with
  | case1 text none =>
    have read : lex text = ⟨[], .none⟩ := by rw [lex_eq, none]
    rw [read]
    refine ⟨[], .of_dropWhile ?_, fun _ => rfl, by rintro e ⟨⟩⟩
    rw [none]
    exact .done no_gap []
  | case2 text c rest start e fails =>
    have read : lex text = ⟨[], some e⟩ := by
      rw [lex_eq, start]
      simp only [fails]
    rw [read]
    refine ⟨c :: rest, .of_dropWhile ?_, by rintro ⟨⟩, ?_⟩
    · rw [start]
      exact .done no_gap _
    · rintro _ ⟨⟩
      exact faultAt_of_scan fails
  | case3 text c rest start x more scanned ih =>
    have read : lex text = ⟨x :: (lex more).lexemes, (lex more).error?⟩ := by
      rw [lex_eq, start]
      simp only [scanned]
    obtain ⟨last, others, clean, fault⟩ := ih
    obtain ⟨longest, token⟩ := longest_of_scan scanned
    rw [read]
    refine ⟨last, .of_dropWhile ?_, clean, fault⟩
    rw [start, ← text_append_of_scan scanned]
    exact .token no_gap longest token others

/-! ## Spellings -/

namespace Token

/-- How a token is written on its own: numbers in base ten, names of instructions in capitals. -/
def spelling : Token → List Char
  | .int v => (Numeral.decimal v).toList
  | .imm v => '$' :: (Numeral.decimal v).toList
  | .reg r => r.text.toList
  | .keyword k => k.name.toList
  | .branch cond => cond.name.toList
  | .label name => name.toList
  | .colon => [':']
  | .comma => [',']

/-- The tokens that some text is read as: a word has room for their numbers, and labels are no names of
instructions. -/
def Readable : Token → Prop
  | .int v | .imm v => -0x8000 ≤ v ∧ v ≤ 0xffff
  | .branch cond => cond.toNat < 8
  | .label name => IsLabelName name.toList
  | .reg _ | .keyword _ | .colon | .comma => True

theorem bounds_of_readInt {run : List Char} {v : Int} (h : readInt run = .ok v) :
    -0x8000 ≤ v ∧ v ≤ 0xffff := by
  have checked : ∀ w, checkWord w = .ok v → -0x8000 ≤ v ∧ v ≤ 0xffff := by
    intro w h
    unfold checkWord at h
    split at h
    · next fits =>
      cases h
      exact fits
    · cases h
  unfold readInt at h
  split at h <;> obtain ⟨n, -, h⟩ := Except.bind_eq_ok_iff.1 h <;> exact checked _ h

end Token

theorem readable_of_mem_lexemes {x : Lexeme} (h : x ∈ (lex text).lexemes) : x.token.Readable := by
  obtain ⟨c, rest, more, scanned⟩ := exists_scan_of_mem_lexemes h
  have read := (longest_of_scan scanned).2
  cases hx : x.token with
  | int v | imm v =>
    rw [hx] at read
    obtain ⟨w, number, same⟩ := Except.map_eq_ok_iff.1 read
    cases same
    exact Token.bounds_of_readInt number
  | branch cond => exact lt_of_scan scanned hx
  | label name =>
    obtain ⟨named, rfl⟩ := isLabelName_of_scan scanned hx
    rwa [Token.Readable, String.toList_ofList]
  | reg r | keyword k | colon | comma => exact trivial

namespace Token

theorem lexes_keyword (k : Keyword) : Lexes k.name.toList (.keyword k) := by
  have all : ∀ k ∈ Keyword.all, IsName k.name.toList (.keyword k) := by decide +kernel
  exact (all k k.mem_all).written.lexes

theorem lexes_branch {cond : Branch} (h : cond.toNat < 8) :
    Lexes cond.name.toList (.branch cond) := by
  have all : ∀ n < 8, IsName (Branch.name (BitVec.ofNat 8 n)).toList
      (.branch (BitVec.ofNat 8 n)) := by
    decide +kernel
  have := (all cond.toNat h).written.lexes
  rwa [BitVec.ofNat_toNat, BitVec.setWidth_eq] at this

/-- A token that was read is read again from its spelling. -/
theorem lexes_spelling {t : Token} (h : t.Readable) : Lexes t.spelling t := by
  cases t with
  | int v => exact lexes_int (numberShape_decimal v) (readInt_decimal h)
  | imm v => exact lexes_imm (numberShape_decimal v) (readInt_decimal h)
  | reg r => exact (written_reg r).lexes
  | keyword k => exact lexes_keyword k
  | branch cond => exact lexes_branch h
  | label name =>
    have := lexes_label (show IsLabelName name.toList from h)
    rwa [String.ofList_toList] at this
  | colon => exact lexes_of_cut (by decide) (fun _ _ => rfl) rfl
  | comma => exact lexes_of_cut (by decide) (fun _ _ => rfl) rfl

end Token

/-- The spellings of tokens, with spaces between them. -/
def respelled (ts : List Token) : List Char :=
  [' '].intercalate (ts.map Token.spelling)

theorem lex_respelled {ts : List Token} (h : ∀ t ∈ ts, t.Readable) :
    lex (respelled ts) = ⟨ts.map fun t => ⟨t, t.spelling⟩, none⟩ := by
  have runs : List.Forall₂ Lexes (ts.map Token.spelling) ts := by
    rw [List.forall₂_map_left_iff, List.forall₂_same]
    exact fun t ht => Token.lexes_spelling (h t ht)
  rw [respelled, lex_intercalate runs, List.zipWith_map_right, List.zipWith_self]

/-! ## Both -/

/-- A text is the runs of its tokens, gaps around them, and what is at fault behind them if anything
is. Without a fault, its tokens in their own spelling are read as the same tokens. -/
theorem lex_lossless (text : List Char) :
    (∃ rest, Tokenized text (lex text).lexemes rest ∧ (∀ x ∈ (lex text).lexemes, x.text ≠ []) ∧
      ((lex text).error? = none → rest = []) ∧
      ∀ e, (lex text).error? = some e → FaultAt rest e) ∧
    ((lex text).error? = none →
      (lex (respelled ((lex text).lexemes.map (·.token)))).error? = none ∧
      (lex (respelled ((lex text).lexemes.map (·.token)))).lexemes.map (·.token) =
        (lex text).lexemes.map (·.token)) := by
  obtain ⟨rest, tokenized, clean, fault⟩ := exists_tokenized_lex text
  refine ⟨⟨rest, tokenized, tokenized.ne_nil, clean, fault⟩, fun _ => ?_⟩
  have readable : ∀ t ∈ (lex text).lexemes.map (·.token), t.Readable :=
    List.forall_mem_map.2 fun x hx => readable_of_mem_lexemes hx
  rw [lex_respelled readable]
  refine ⟨rfl, ?_⟩
  rw [List.map_map]
  exact List.map_id _

/-- Tokens without a gap between them, and how they are spelled. -/
theorem lex_lossless_abutting :
    (lex "Brzn-0x3,add%R01$2".toList).error? = none ∧
    respelled ((lex "Brzn-0x3,add%R01$2".toList).lexemes.map (·.token)) =
      "BRNZ -3 , ADD %r1 $2".toList ∧
    (lex "BRNZ -3 , ADD %r1 $2".toList).lexemes.map (·.token) =
      (lex "Brzn-0x3,add%R01$2".toList).lexemes.map (·.token) := by
  have clean : (lex "Brzn-0x3,add%R01$2".toList).error? = none := by decide +kernel
  have spelled : respelled ((lex "Brzn-0x3,add%R01$2".toList).lexemes.map (·.token)) =
      "BRNZ -3 , ADD %r1 $2".toList := by
    decide +kernel
  refine ⟨clean, spelled, ?_⟩
  have again := ((lex_lossless "Brzn-0x3,add%R01$2".toList).2 clean).2
  rwa [spelled] at again

end Sixteen
