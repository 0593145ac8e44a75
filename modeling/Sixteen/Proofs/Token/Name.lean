import Sixteen.Proofs.Token.Lexer
import Sixteen.Text.Blank

/-!
# Names

A name is that of an instruction if it is one in capitals. For a name in ASCII this is a matter of
the letters of ASCII; of the other word characters a few have capitals there, too.

* `IsIdentifier word` : a letter or an underscore, then characters of the class `word`;
* `NamesInstruction` : the names of instructions, in capitals;
* `Token.conditionsOf`, `Token.branch?_eq_some_iff` : the condition byte of the letters of a branch;
* `Token.ofName_eq_label_iff` : the names that are labels;
* `Text.upper_of_ascii`, `Text.upper_map_toUpper` : capitals of names in ASCII, and of names that differ
  in case only.
-/

namespace Sixteen

open Text (isBlank isDigit isWord startsName)

/-! ## Characters -/

/-- A letter, a digit or an underscore of ASCII. -/
def isAsciiWord (c : Char) : Bool :=
  c.isAlphanum || c == '_'

theorem isWord_of_startsName {c : Char} (h : startsName c = true) : isWord c = true := by
  have ascii := toNat_lt_of_startsName h
  revert h
  exact forall_ascii (P := fun c => startsName c = true → isWord c = true) (by decide +kernel) ascii

/-- Digits of any script may stand in names and numbers. -/
theorem isWord_of_isDigit {c : Char} (h : isDigit c = true) : isWord c = true := by
  have inside : Text.digitRanges.all (fun r =>
      Text.wordRanges.any fun w => w.1.ble r.1 && r.2.ble w.2) = true := by
    decide +kernel
  unfold isDigit at h
  unfold isWord
  split at h
  · next ascii => rw [if_pos ascii, Char.isAlphanum, h, Bool.or_true, Bool.true_or]
  · next far =>
    rw [if_neg far]
    obtain ⟨r, hr, low, high⟩ := Text.inRanges_iff.1 h
    obtain ⟨w, hw, around⟩ := List.any_eq_true.1 (List.all_eq_true.1 inside r hr)
    obtain ⟨below, above⟩ := Bool.and_eq_true_iff.1 around
    exact Text.inRanges_iff.2 ⟨w, hw, Nat.le_trans (Nat.le_of_ble_eq_true below) low,
      Nat.le_trans high (Nat.le_of_ble_eq_true above)⟩

theorem ne_comma_of_isWord {c : Char} (h : isWord c = true) : c ≠ ',' := by
  rintro rfl
  exact absurd h (by decide +kernel)

theorem toNat_lt_of_isAsciiWord {c : Char} (h : isAsciiWord c = true) : c.toNat < 128 := by
  rcases Bool.or_eq_true_iff.1 h with alphanum | underscore
  · rcases Bool.or_eq_true_iff.1 alphanum with alpha | digit
    · exact toNat_lt_of_startsName (Bool.or_eq_true_iff.2 (.inl alpha))
    · have top : c.toNat ≤ 57 := of_decide_eq_true (Bool.and_eq_true_iff.1 digit).2
      omega
  · rw [beq_iff_eq.1 underscore]
    decide

theorem isWord_iff_of_ascii {c : Char} (h : c.toNat < 128) : isWord c = isAsciiWord c := by
  rw [isWord, if_pos h, isAsciiWord]

/-- No blank is part of a name. -/
theorem isWord_eq_false_of_isBlank {c : Char} (h : isBlank c = true) : isWord c = false := by
  have range : ∀ n < 5, isWord (Char.ofNat (9 + n)) = false := by decide +kernel
  have quads : ∀ n < 11, isWord (Char.ofNat (0x2000 + n)) = false := by decide +kernel
  simp only [isBlank, Bool.or_eq_true, Bool.and_eq_true, decide_eq_true_eq, beq_iff_eq] at h
  obtain (((((((((⟨low, high⟩ | rfl) | rfl) | rfl) | rfl) | ⟨low, high⟩) | rfl) | rfl) | rfl) | rfl)
    | rfl := h
  · have lower : 9 ≤ c.toNat := low
    have upper : c.toNat ≤ 13 := high
    simpa [Nat.add_sub_cancel' lower] using range (c.toNat - 9) (by omega)
  all_goals try decide +kernel
  · have lower : 0x2000 ≤ c.toNat := low
    have upper : c.toNat ≤ 0x200a := high
    simpa [Nat.add_sub_cancel' lower] using quads (c.toNat - 0x2000) (by omega)

/-! ## Identifiers -/

/-- A letter of ASCII or an underscore, then characters of the class `word`. -/
def IsIdentifier (word : Char → Bool) : List Char → Prop
  | [] => False
  | c :: tail => startsName c = true ∧ ∀ d ∈ tail, word d = true

-- The characters are gone through one by one, not all that there are.
instance (word : Char → Bool) : DecidablePred (IsIdentifier word)
  | [] => inferInstanceAs (Decidable False)
  | _ :: tail => @instDecidableAnd _ _ _ (List.decidableBAll (word · = true) tail)

theorem IsIdentifier.isWord {name : List Char} (h : IsIdentifier isWord name) :
    ∀ c ∈ name, isWord c = true := by
  cases name with
  | nil => exact List.forall_mem_nil _
  | cons c tail => exact List.forall_mem_cons.2 ⟨isWord_of_startsName h.1, h.2⟩

/-- A name in ASCII is made of the word characters of ASCII. -/
theorem isIdentifier_isAsciiWord_iff {name : List Char} :
    IsIdentifier isAsciiWord name ↔ IsIdentifier isWord name ∧ ∀ c ∈ name, c.toNat < 128 := by
  cases name with
  | nil => exact ⟨False.elim, fun h => h.1⟩
  | cons c tail =>
    constructor
    · rintro ⟨first, word⟩
      have ascii : ∀ d ∈ tail, d.toNat < 128 := fun d hd => toNat_lt_of_isAsciiWord (word d hd)
      refine ⟨⟨first, fun d hd => ?_⟩, List.forall_mem_cons.2 ⟨toNat_lt_of_startsName first, ascii⟩⟩
      rw [isWord_iff_of_ascii (ascii d hd)]
      exact word d hd
    · rintro ⟨⟨first, word⟩, ascii⟩
      refine ⟨first, fun d hd => ?_⟩
      rw [← isWord_iff_of_ascii (ascii d (List.mem_cons_of_mem c hd))]
      exact word d hd

/-! ## Capitals -/

namespace Text

theorem upper_of_ascii {name : List Char} (h : ∀ c ∈ name, c.toNat < 128) :
    upper name = name.map Char.toUpper := by
  induction name with
  | nil => rfl
  | cons c tail ih =>
    obtain ⟨first, others⟩ := List.forall_mem_cons.1 h
    have rest : tail.flatMap upperChar = tail.map Char.toUpper := ih others
    rw [upper, List.flatMap_cons, rest, upperChar, if_pos first]
    rfl

theorem toUpper_of_not_ascii {c : Char} (h : ¬c.toNat < 128) : c.toUpper = c := by
  refine dif_neg ?_
  rintro ⟨-, top⟩
  exact h (Nat.lt_of_le_of_lt top (by decide))

/-- What the case of a letter of ASCII does not matter to. -/
theorem toUpper_induction {P : Char → Char → Prop} (ascii : ∀ n < 128,
      P (Char.ofNat n).toUpper (Char.ofNat n)) (other : ∀ c, P c c) (c : Char) :
    P c.toUpper c := by
  by_cases h : c.toNat < 128
  · exact forall_ascii (P := fun c => P c.toUpper c) ascii h
  · rw [toUpper_of_not_ascii h]
    exact other c

theorem upperChar_toUpper (c : Char) : upperChar c.toUpper = upperChar c :=
  toUpper_induction (P := fun d c => upperChar d = upperChar c) (by decide +kernel)
    (fun _ => rfl) c

theorem isWord_toUpper (c : Char) : isWord c.toUpper = isWord c :=
  toUpper_induction (P := fun d c => isWord d = isWord c) (by decide +kernel) (fun _ => rfl) c

theorem startsName_toUpper (c : Char) : startsName c.toUpper = startsName c :=
  toUpper_induction (P := fun d c => startsName d = startsName c) (by decide +kernel)
    (fun _ => rfl) c

theorem upper_map_toUpper (name : List Char) : upper (name.map Char.toUpper) = upper name := by
  rw [upper, List.flatMap_map, upper]
  simp only [upperChar_toUpper]

end Text

/-- The case of letters does not matter to what an identifier is. -/
theorem isIdentifier_map_toUpper {name : List Char} :
    IsIdentifier isWord (name.map Char.toUpper) ↔ IsIdentifier isWord name := by
  cases name with
  | nil => exact Iff.rfl
  | cons c tail =>
    simp only [List.map_cons, IsIdentifier, List.forall_mem_map, Text.startsName_toUpper,
      Text.isWord_toUpper]

/-! ## Names of instructions -/

/-- The names of instructions, in capitals. -/
inductive NamesInstruction : List Char → Prop
  | keyword (k : Keyword) : NamesInstruction k.name.toList
  /-- The letters of the conditions, each at most once. -/
  | branch {letters : List Char} (distinct : letters.Nodup)
    (known : ∀ c ∈ letters, c ∈ ['N', 'Z', 'P']) : NamesInstruction ('B' :: 'R' :: letters)

theorem NamesInstruction.ascii {name : List Char} (h : NamesInstruction name) :
    ∀ c ∈ name, c.toNat < 128 := by
  cases h with
  | keyword k =>
    have all : ∀ k ∈ Keyword.all, k.name.toList.all (·.toNat < 128) = true := by decide +kernel
    exact fun c hc => of_decide_eq_true (List.all_eq_true.1 (all k k.mem_all) c hc)
  | branch distinct known =>
    have conditions : ['N', 'Z', 'P'].all (·.toNat < 128) = true := by decide
    refine List.forall_mem_cons.2 ⟨by decide, List.forall_mem_cons.2 ⟨by decide, fun c hc => ?_⟩⟩
    exact of_decide_eq_true (List.all_eq_true.1 conditions c (known c hc))

/-- What names an instruction by the letters of ASCII does so by all of its capitals. -/
theorem NamesInstruction.upper {name : List Char} (h : NamesInstruction (name.map Char.toUpper)) :
    NamesInstruction (Text.upper name) := by
  have ascii : ∀ c ∈ name, c.toNat < 128 := by
    intro c hc
    by_contra other
    have capital := h.ascii c.toUpper (List.mem_map_of_mem hc)
    rw [Text.toUpper_of_not_ascii other] at capital
    exact other capital
  rwa [Text.upper_of_ascii ascii]

theorem Keyword.ofName?_ne_none_iff {name : List Char} :
    ofName? name ≠ none ↔ ∃ k : Keyword, k.name.toList = name := by
  simp [ofName?, mem_all]

namespace Token

theorem conditionBit?_eq_some_iff {c : Char} {bit : Branch} :
    conditionBit? c = some bit ↔ (c, bit) ∈ [('N', 4), ('Z', 2), ('P', 1)] := by
  constructor
  · intro h
    obtain ⟨⟨letter, b⟩, found, rfl⟩ := Option.map_eq_some_iff.1 h
    have capital := List.find?_some found
    have all : ∀ x ∈ Branch.letters, (x.1.toUpper, x.2) ∈ [('N', 4), ('Z', 2), ('P', 1)] := by decide
    rw [← of_decide_eq_true capital]
    exact all _ (List.mem_of_find?_eq_some found)
  · intro h
    simp only [List.mem_cons, Prod.mk.injEq, List.not_mem_nil, or_false] at h
    obtain ⟨rfl, rfl⟩ | ⟨rfl, rfl⟩ | ⟨rfl, rfl⟩ := h <;> rfl

/-- Different letters stand for different bits. -/
theorem and_eq_zero_iff_of_conditionBit? {c d : Char} {a b : Branch}
    (hc : conditionBit? c = some a) (hd : conditionBit? d = some b) : a &&& b = 0 ↔ c ≠ d := by
  have all : ∀ x ∈ [('N', (4 : Branch)), ('Z', 2), ('P', 1)],
      ∀ y ∈ [('N', (4 : Branch)), ('Z', 2), ('P', 1)], x.2 &&& y.2 = 0 ↔ x.1 ≠ y.1 := by decide
  exact all _ (conditionBit?_eq_some_iff.1 hc) _ (conditionBit?_eq_some_iff.1 hd)

theorem or_and_eq_zero_iff {a b c : Branch} : (a ||| b) &&& c = 0 ↔ a &&& c = 0 ∧ b &&& c = 0 := by
  rw [BitVec.and_or_distrib_right]
  exact BitVec.or_eq_zero_iff

/-- Letters make a condition byte if they are known, different, and none of them is in it. -/
theorem conditions?_eq_some_iff {letters : List Char} {acc cond : Branch} :
    conditions? acc letters = some cond ↔ letters.Nodup ∧
      (∀ c ∈ letters, ∃ bit, conditionBit? c = some bit ∧ acc &&& bit = 0) ∧
      cond = letters.foldl (fun byte c => byte ||| (conditionBit? c).getD 0) acc := by
  induction letters generalizing acc with
  | nil => simp [conditions?, eq_comm]
  | cons c rest ih =>
    rw [conditions?]
    cases hc : conditionBit? c with
    | none => simp [hc]
    | some bit =>
      -- None of the letters behind `c` is in the byte with `c` exactly if none is in the byte
      -- without it and none is `c`.
      have apart : (∀ d ∈ rest, ∃ b, conditionBit? d = some b ∧ (acc ||| bit) &&& b = 0) ↔
          c ∉ rest ∧ ∀ d ∈ rest, ∃ b, conditionBit? d = some b ∧ acc &&& b = 0 := by
        constructor
        · intro h
          refine ⟨fun mem => ?_, fun d hd => ?_⟩
          · obtain ⟨b, hb, free⟩ := h c mem
            exact (and_eq_zero_iff_of_conditionBit? hc hb).1 (or_and_eq_zero_iff.1 free).2 rfl
          · obtain ⟨b, hb, free⟩ := h d hd
            exact ⟨b, hb, (or_and_eq_zero_iff.1 free).1⟩
        · rintro ⟨fresh, h⟩ d hd
          obtain ⟨b, hb, free⟩ := h d hd
          have other : c ≠ d := fun same => fresh (same ▸ hd)
          exact ⟨b, hb, or_and_eq_zero_iff.2 ⟨free, (and_eq_zero_iff_of_conditionBit? hc hb).2 other⟩⟩
      simp only [List.nodup_cons, List.forall_mem_cons, List.foldl_cons, hc, Option.some.injEq,
        exists_eq_left', Option.getD_some]
      split
      · next free =>
        rw [ih, apart]
        tauto
      · next taken =>
        refine iff_of_false (Option.some_ne_none cond).symm fun h => taken h.2.1.1

/-- The condition byte that letters in capitals stand for. -/
def conditionsOf (letters : List Char) : Branch :=
  (if 'N' ∈ letters then 4 else 0) ||| (if 'Z' ∈ letters then 2 else 0) |||
    (if 'P' ∈ letters then 1 else 0)

theorem conditionsOf_cons {c : Char} (known : c ∈ ['N', 'Z', 'P']) (rest : List Char) :
    conditionsOf (c :: rest) = (conditionBit? c).getD 0 ||| conditionsOf rest := by
  unfold conditionsOf
  simp only [List.mem_cons, List.not_mem_nil, or_false] at known
  -- Whether each of the letters comes again does not matter, as its bit is there already.
  obtain rfl | rfl | rfl := known <;>
    by_cases n : 'N' ∈ rest <;> by_cases z : 'Z' ∈ rest <;> by_cases p : 'P' ∈ rest <;>
    simp [n, z, p] <;> decide

theorem foldl_conditionBit? {letters : List Char} (known : ∀ c ∈ letters, c ∈ ['N', 'Z', 'P'])
    (acc : Branch) :
    letters.foldl (fun byte c => byte ||| (conditionBit? c).getD 0) acc =
      acc ||| conditionsOf letters := by
  induction letters generalizing acc with
  | nil => exact (BitVec.or_zero).symm
  | cons c rest ih =>
    obtain ⟨first, others⟩ := List.forall_mem_cons.1 known
    rw [List.foldl_cons, ih others, conditionsOf_cons first, BitVec.or_assoc]

/-- A branch has its condition byte by different letters of conditions. -/
theorem branch?_eq_some_iff {name : List Char} {cond : Branch} :
    branch? name = some cond ↔ ∃ letters : List Char, name = 'B' :: 'R' :: letters ∧
      letters.Nodup ∧ (∀ c ∈ letters, c ∈ ['N', 'Z', 'P']) ∧ cond = conditionsOf letters := by
  have known : ∀ c : Char, (∃ bit, conditionBit? c = some bit ∧ (0 : Branch) &&& bit = 0) ↔
      c ∈ ['N', 'Z', 'P'] := by
    intro c
    simp [conditionBit?_eq_some_iff, exists_or]
  unfold branch?
  split
  · next letters =>
    rw [conditions?_eq_some_iff]
    simp only [known]
    constructor
    · rintro ⟨distinct, all, rfl⟩
      refine ⟨letters, rfl, distinct, all, ?_⟩
      rw [foldl_conditionBit? all]
      exact BitVec.zero_or
    · rintro ⟨_, ⟨⟩, distinct, all, rfl⟩
      refine ⟨distinct, all, ?_⟩
      rw [foldl_conditionBit? all]
      exact BitVec.zero_or.symm
  · next other =>
    refine iff_of_false (by rintro ⟨⟩) ?_
    rintro ⟨letters, rfl, -⟩
    exact other letters rfl

theorem branch?_ne_none_iff {name : List Char} :
    branch? name ≠ none ↔ ∃ letters : List Char, name = 'B' :: 'R' :: letters ∧ letters.Nodup ∧
      ∀ c ∈ letters, c ∈ ['N', 'Z', 'P'] := by
  rw [Option.ne_none_iff_exists']
  simp only [branch?_eq_some_iff]
  constructor
  · rintro ⟨-, letters, spelled, distinct, known, -⟩
    exact ⟨letters, spelled, distinct, known⟩
  · rintro ⟨letters, spelled, distinct, known⟩
    exact ⟨_, letters, spelled, distinct, known, rfl⟩

theorem namesInstruction_iff {name : List Char} :
    NamesInstruction name ↔ Keyword.ofName? name ≠ none ∨ branch? name ≠ none := by
  rw [Keyword.ofName?_ne_none_iff, branch?_ne_none_iff]
  constructor
  · rintro (k | ⟨distinct, known⟩)
    · exact .inl ⟨k, rfl⟩
    · exact .inr ⟨_, rfl, distinct, known⟩
  · rintro (⟨k, rfl⟩ | ⟨letters, rfl, distinct, known⟩)
    · exact .keyword k
    · exact .branch distinct known

instance (name : List Char) : Decidable (NamesInstruction name) :=
  decidable_of_iff _ namesInstruction_iff.symm

/-- A name is a label exactly if it is not that of an instruction, and then it is itself. -/
theorem ofName_eq_label_iff {name : List Char} {label : String} :
    ofName name = .label label ↔
      ¬NamesInstruction (Text.upper name) ∧ label = String.ofList name := by
  rw [namesInstruction_iff, not_or, not_ne_iff, not_ne_iff, ofName]
  cases Keyword.ofName? (Text.upper name) with
  | some k => simp
  | none =>
    cases branch? (Text.upper name) with
    | some cond => simp
    | none => simp [eq_comm]

end Token

end Sixteen
