import Sixteen.Proofs.Token.Lexer

/-!
# The condition bytes that can be written

* `Token.conditions?_lt`, `Token.lt_of_ofName` : the name of a branch has a condition byte below
  eight, since every letter stands for one of three bits;
* `lt_of_mem_lexemes` : so have the branches among the tokens of a text.
-/

namespace Sixteen

namespace Token

theorem conditionBit?_lt {c : Char} {bit : Branch} (h : conditionBit? c = some bit) :
    bit.toNat < 8 := by
  obtain ⟨⟨letter, b⟩, found, rfl⟩ := Option.map_eq_some_iff.1 h
  have all : ∀ x ∈ Branch.letters, x.2.toNat < 8 := by decide
  exact all _ (List.mem_of_find?_eq_some found)

theorem or_lt {a b : Branch} (ha : a.toNat < 8) (hb : b.toNat < 8) : (a ||| b).toNat < 8 := by
  rw [BitVec.toNat_or]
  exact Nat.or_lt_two_pow (n := 3) ha hb

theorem conditions?_lt {letters : List Char} {acc cond : Branch} (ha : acc.toNat < 8)
    (h : conditions? acc letters = some cond) : cond.toNat < 8 := by
  induction letters generalizing acc with
  | nil =>
    cases h
    exact ha
  | cons c rest ih =>
    rw [conditions?] at h
    split at h
    · next bit hbit =>
      split at h
      · exact ih (or_lt ha (conditionBit?_lt hbit)) h
      · cases h
    · cases h

theorem lt_of_ofName {name : List Char} {cond : Branch} (h : ofName name = .branch cond) :
    cond.toNat < 8 := by
  unfold ofName at h
  split at h
  · cases h
  · split at h
    · next c hc =>
      cases h
      unfold branch? at hc
      split at hc
      · exact conditions?_lt (by decide) hc
      · cases hc
    · cases h

end Token

theorem Shape.lt_of_token {shape : Shape} {run : List Char} {cond : Branch}
    (h : shape.token run = .ok (.branch cond)) : cond.toNat < 8 := by
  cases shape with
  | name => exact Token.lt_of_ofName (Except.ok.inj h)
  | integer =>
    obtain ⟨_, -, other⟩ := Except.map_eq_ok_iff.1 h
    cases other
  | immediate =>
    obtain ⟨_, -, other⟩ := Except.map_eq_ok_iff.1 h
    cases other
  | register =>
    obtain ⟨_, -, other⟩ := Except.map_eq_ok_iff.1 h
    cases other
  | colon => cases h
  | comma => cases h

theorem lt_of_scan {c : Char} {rest rest' : List Char} {x : Lexeme} {cond : Branch}
    (h : scan c rest = .ok (x, rest')) (hx : x.token = .branch cond) : cond.toNat < 8 := by
  obtain ⟨shape, -, read⟩ := scan_eq_ok_iff.1 h
  exact Shape.lt_of_token (hx ▸ read)

/-- A branch in a text has a condition byte that instruction words have room for. -/
theorem lt_of_mem_lexemes {text : List Char} {x : Lexeme} {cond : Branch}
    (h : x ∈ (lex text).lexemes) (hx : x.token = .branch cond) : cond.toNat < 8 := by
  obtain ⟨c, rest, rest', read⟩ := exists_scan_of_mem_lexemes h
  exact lt_of_scan read hx

end Sixteen
