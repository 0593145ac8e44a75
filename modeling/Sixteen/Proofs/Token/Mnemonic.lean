import Sixteen.Proofs.Token.Name

/-!
# Names of instructions and labels

What a name is read as is decided by its capitals. In ASCII these are its letters in upper case, so
that an instruction may be written in any case of letters. Outside ASCII there are letters whose
capitals lie in ASCII, and three of them (the sharp s, the dotless i and the long s) can stand for
letters of a keyword: the only names that are read as something else than their letters say are
keywords with such a letter in them. The names of branches are free of this.

* `Token.Names` : what a name with these capitals is, with `Token.ofName_eq_iff_names` for all names;
* `Token.stray_of_not_ascii` : the letters outside ASCII in the name of an instruction;
* `Token.Disguises`, `Token.ofName_iff_letters` : names are read by their letters, keywords in
  disguise apart.
-/

namespace Sixteen.Token

open Text (isWord startsName)

/-! ## Capitals decide -/

/-- What the name is if its capitals decide. -/
inductive Names (capitals name : List Char) : Token → Prop
  | keyword {k : Keyword} (spelled : capitals = k.name.toList) : Names capitals name (.keyword k)
  | branch {letters : List Char} (spelled : capitals = 'B' :: 'R' :: letters)
    (distinct : letters.Nodup) (known : ∀ c ∈ letters, c ∈ ['N', 'Z', 'P']) :
    Names capitals name (.branch (conditionsOf letters))
  | label (free : ¬NamesInstruction capitals) : Names capitals name (.label (String.ofList name))

variable {name capitals : List Char} {t : Token}

theorem ofName?_eq_some_iff {k : Keyword} :
    Keyword.ofName? name = some k ↔ name = k.name.toList := by
  have distinct : ∀ k ∈ Keyword.all, Keyword.ofName? k.name.toList = some k := by decide +kernel
  constructor
  · intro h
    have spelled := List.find?_some (show Keyword.all.find? _ = some k from h)
    exact (of_decide_eq_true spelled).symm
  · rintro rfl
    exact distinct k k.mem_all

/-- No keyword is the name of a branch. -/
theorem branch?_keyword (k : Keyword) : branch? k.name.toList = none := by
  have all : ∀ k ∈ Keyword.all, branch? k.name.toList = none := by decide +kernel
  exact all k k.mem_all

theorem names_ofName (name : List Char) : Names (Text.upper name) name (ofName name) := by
  unfold ofName
  split
  · next k keyword => exact .keyword (ofName?_eq_some_iff.1 keyword)
  · next no_keyword =>
    split
    · next cond branch =>
      obtain ⟨letters, spelled, distinct, known, rfl⟩ := branch?_eq_some_iff.1 branch
      exact .branch spelled distinct known
    · next no_branch =>
      refine .label ?_
      rw [namesInstruction_iff, not_or, not_ne_iff, not_ne_iff]
      exact ⟨no_keyword, no_branch⟩

theorem Names.eq_ofName (h : Names (Text.upper name) name t) : ofName name = t := by
  unfold ofName
  cases h with
  | keyword spelled => rw [ofName?_eq_some_iff.2 spelled]
  | @branch letters spelled distinct known =>
    have branch := branch?_eq_some_iff.2 ⟨letters, spelled, distinct, known, rfl⟩
    have no_keyword : Keyword.ofName? (Text.upper name) = none := by
      rw [Option.eq_none_iff_forall_ne_some]
      intro k keyword
      rw [ofName?_eq_some_iff.1 keyword, branch?_keyword] at branch
      cases branch
    rw [no_keyword, branch]
  | label free =>
    rw [namesInstruction_iff, not_or, not_ne_iff, not_ne_iff] at free
    rw [free.1, free.2]

theorem ofName_eq_iff_names : ofName name = t ↔ Names (Text.upper name) name t :=
  ⟨fun h => h ▸ names_ofName name, Names.eq_ofName⟩

/-- What is not the name of an instruction is a label. -/
theorem Names.iff_eq_label (free : ¬NamesInstruction capitals) :
    Names capitals name t ↔ t = .label (String.ofList name) := by
  constructor
  · intro h
    cases h with
    | keyword spelled =>
      subst spelled
      exact absurd (.keyword _) free
    | branch spelled distinct known =>
      subst spelled
      exact absurd (.branch distinct known) free
    | label => rfl
  · rintro rfl
    exact .label free

/-! ## Letters outside ASCII -/

/-- Letters outside ASCII whose capitals can be letters of a keyword behind its first one: the sharp
s, the dotless i and the long s. -/
def strays : List Char :=
  ['\xdf', '\u0131', '\u017f']

/-- A name with such a letter whose capitals are a keyword. -/
def Disguises (name : List Char) (k : Keyword) : Prop :=
  (∃ c ∈ name, c ∈ strays) ∧ Text.upper name = k.name.toList

/-- The capitals of a letter stand in those of its name. -/
theorem upperChar_infix_upper {c : Char} (h : c ∈ name) :
    Text.upperChar c <:+: Text.upper name := by
  obtain ⟨front, back, rfl⟩ := List.append_of_mem h
  refine ⟨Text.upper front, Text.upper back, ?_⟩
  simp [Text.upper]

theorem mem_asciiUppers {c : Char} (far : ¬c.toNat < 128)
    (ascii : ∀ d ∈ Text.upperChar c, d.toNat < 128) :
    (c, Text.upperChar c) ∈ Text.asciiUppers := by
  unfold Text.upperChar at ascii ⊢
  rw [if_neg far] at ascii ⊢
  cases found : Text.asciiUppers.lookup c with
  | none =>
    rw [found] at ascii
    exact absurd (ascii c List.mem_cons_self) far
  | some capitals =>
    obtain ⟨front, back, table, -⟩ := List.lookup_eq_some_iff.1 found
    rw [table]
    simp

/-- Of the letters whose capitals lie in ASCII, these are the ones whose capitals some instruction has
behind its first letter, and this instruction is a keyword. -/
theorem mem_strays_of_infix {p : Char × List Char} (hp : p ∈ Text.asciiUppers)
    (named : NamesInstruction capitals) (inside : p.2 <:+: capitals.tail) :
    p.1 ∈ strays ∧ ∃ k : Keyword, capitals = k.name.toList := by
  cases named with
  | keyword k =>
    have all : ∀ p ∈ Text.asciiUppers, ∀ k ∈ Keyword.all,
        p.2 <:+: k.name.toList.tail → p.1 ∈ strays := by
      decide +kernel
    exact ⟨all p hp k k.mem_all inside, k, rfl⟩
  | branch distinct known =>
    have other : Text.asciiUppers.all (fun p => p.2.any (· ∉ ['R', 'N', 'Z', 'P'])) = true := by
      decide
    obtain ⟨c, hc, strange⟩ := List.any_eq_true.1 (List.all_eq_true.1 other p hp)
    rcases List.mem_cons.1 (inside.subset hc) with rfl | letter
    · exact absurd List.mem_cons_self (of_decide_eq_true strange)
    · exact absurd (List.mem_cons_of_mem _ (known c letter)) (of_decide_eq_true strange)

/-- What is outside ASCII in the name of an instruction is one of the strays, in a keyword. -/
theorem stray_of_not_ascii (h : IsIdentifier isWord name)
    (named : NamesInstruction (Text.upper name)) {c : Char} (hc : c ∈ name)
    (far : ¬c.toNat < 128) : c ∈ strays ∧ ∃ k : Keyword, Text.upper name = k.name.toList := by
  have ascii : ∀ d ∈ Text.upperChar c, d.toNat < 128 :=
    fun d hd => named.ascii d ((upperChar_infix_upper hc).subset hd)
  cases name with
  | nil => cases hc
  | cons first tail =>
    have start := toNat_lt_of_startsName h.1
    have behind : c ∈ tail := by
      rcases List.mem_cons.1 hc with rfl | later
      · exact absurd start far
      · exact later
    have shape : Text.upper (first :: tail) = first.toUpper :: Text.upper tail := by
      rw [Text.upper, List.flatMap_cons, Text.upperChar, if_pos start]
      rfl
    have inside : Text.upperChar c <:+: (Text.upper (first :: tail)).tail := by
      rw [shape]
      exact upperChar_infix_upper behind
    exact mem_strays_of_infix (mem_asciiUppers far ascii) named inside

/-! ## Letters decide -/

theorem ascii_of_not_disguises (h : IsIdentifier isWord name)
    (named : NamesInstruction (Text.upper name)) (plain : ∀ k, ¬Disguises name k) :
    ∀ c ∈ name, c.toNat < 128 := by
  intro c hc
  by_contra far
  obtain ⟨stray, k, spelled⟩ := stray_of_not_ascii h named hc far
  exact plain k ⟨⟨c, hc, stray⟩, spelled⟩

theorem not_ascii_of_stray {c : Char} (h : c ∈ strays) : ¬c.toNat < 128 := by
  simp only [strays, List.mem_cons, List.not_mem_nil, or_false] at h
  obtain rfl | rfl | rfl := h <;> decide

/-- A name is the instruction that its letters spell in any case, and a label otherwise, unless its
capitals are a keyword although one of its letters lies outside ASCII. -/
theorem ofName_iff_letters (h : IsIdentifier isWord name) :
    ((∀ k, ¬Disguises name k) →
      ∀ t, ofName name = t ↔ Names (name.map Char.toUpper) name t) ∧
    ∀ k, Disguises name k →
      ofName name = .keyword k ∧
        Names (name.map Char.toUpper) name (.label (String.ofList name)) := by
  constructor
  · intro plain t
    rw [ofName_eq_iff_names]
    by_cases named : NamesInstruction (Text.upper name)
    · rw [Text.upper_of_ascii (ascii_of_not_disguises h named plain)]
    · rw [Names.iff_eq_label named, Names.iff_eq_label fun letters => named letters.upper]
  · rintro k ⟨⟨c, hc, stray⟩, spelled⟩
    refine ⟨ofName_eq_iff_names.2 (.keyword spelled), .label fun letters => ?_⟩
    have ascii := letters.ascii c.toUpper (List.mem_map_of_mem hc)
    rw [Text.toUpper_of_not_ascii (not_ascii_of_stray stray)] at ascii
    exact not_ascii_of_stray stray ascii

/-- A branch with its letters in any case and order, a name that is none since a letter comes twice,
and a keyword with a sharp s for two of its letters. -/
theorem ofName_iff_letters_branch :
    IsIdentifier isWord "bRpN".toList ∧ ofName "bRpN".toList = .branch 5 ∧
    IsIdentifier isWord "brnn".toList ∧ ofName "brnn".toList = .label "brnn" ∧
    IsIdentifier isWord "jßr".toList ∧ Disguises "jßr".toList .jssr ∧
      ofName "jßr".toList = .keyword .jssr := by
  have word : IsIdentifier isWord "bRpN".toList := by decide +kernel
  have word' : IsIdentifier isWord "brnn".toList := by decide +kernel
  have word'' : IsIdentifier isWord "jßr".toList := by decide +kernel
  have plain : ∀ name ∈ ["bRpN".toList, "brnn".toList], ∀ k, ¬Disguises name k := by
    have all : ["bRpN".toList, "brnn".toList].all (·.all (· ∉ strays)) = true := by decide +kernel
    rintro name hname k ⟨⟨c, hc, stray⟩, -⟩
    exact of_decide_eq_true (List.all_eq_true.1 (List.all_eq_true.1 all name hname) c hc) stray
  have disguise : Disguises "jßr".toList .jssr := by
    refine ⟨⟨'ß', ?_, ?_⟩, ?_⟩ <;> decide +kernel
  refine ⟨word, ?_, word', ?_, word'', disguise, ((ofName_iff_letters word'').2 _ disguise).1⟩
  · refine ((ofName_iff_letters word).1 (plain _ (by simp)) _).2 ?_
    have letters : Names "BRPN".toList "bRpN".toList (.branch (conditionsOf ['P', 'N'])) :=
      .branch rfl (by decide) (by simp)
    exact letters
  · exact ((ofName_iff_letters word').1 (plain _ (by simp)) _).2 (.label (by decide +kernel))

/-- A dotless i is no letter of any instruction, and yet it may stand for one in a name. -/
theorem ofName_dotless :
    IsIdentifier isWord "ldı".toList ∧ ofName "ldı".toList = .keyword .ldi ∧
    ¬Names ("ldı".toList.map Char.toUpper) "ldı".toList (.keyword .ldi) := by
  refine ⟨by decide +kernel, by decide +kernel, fun spelled => ?_⟩
  have free : ¬NamesInstruction ("ldı".toList.map Char.toUpper) := by decide +kernel
  cases (Names.iff_eq_label free).1 spelled

end Sixteen.Token
