import Sixteen.Proofs.Program.Outline
import Sixteen.Proofs.Program.Basic
import Sixteen.Proofs.SymbolTable
import Mathlib.Data.Set.Function

/-!
# Other names for labels

The names of labels play no part in assembling, as long as labels that differ still do, and no name
becomes too long. Nor do the numbers of lines: they are only handed on to the errors. Both are said at
once. What one program leads to and what the other does are related all the way, and the relation is
kept by every step of both passes.

* `Statement.rename` : a statement with other names;
* `SymbolTable.Renamed`, `Layout.Renamed` : what is known of both programs, at the same point;
* `AssemblyError.Renamed` : their errors;
* `Outline.related_assemble`, `Outline.assemble_renumbered` : two outlines;
* `Program.numbered`, `Program.Corresponds` : the lines of both programs that go together;
* `assemble_renamed` : two sources.
-/

namespace Sixteen

/-! ## Renaming -/

def Target.rename {n : Nat} (ρ : String → String) : Target n → Target n
  | .offset value => .offset value
  | .label name => .label (ρ name)

def Operation.rename (ρ : String → String) : Operation → Operation
  | .br cond target => .br cond (target.rename ρ)
  | .jsr target => .jsr (target.rename ρ)
  | .ld dst target => .ld dst (target.rename ρ)
  | .ldi dst target => .ldi dst (target.rename ρ)
  | .lea dst target => .lea dst (target.rename ρ)
  | .st src target => .st src (target.rename ρ)
  | .sti src target => .sti src (target.rename ρ)
  | o => o

def Body.rename (ρ : String → String) : Body → Body
  | .operation o => .operation (o.rename ρ)
  | .literal w => .literal w

/-- A statement with other names for its labels, the one that it defines and the one that it refers
to. -/
def Statement.rename (ρ : String → String) (s : Statement) : Statement :=
  ⟨s.label.map ρ, s.body.map (Body.rename ρ)⟩

/-- The labels of a statement, the one that it defines and the one that it refers to. -/
def Statement.names (s : Statement) : List String :=
  s.label.toList ++ (s.reference?.map (·.label)).toList

/-! ## What goes together -/

section
variable (limits : Limits) (ρ : String → String) (R : Nat → Nat → Prop) (names : Set String)

/-- The limit on the lengths of labels does not tell a label from its other name. -/
def Limits.Agrees (name : String) : Prop :=
  limits.labelLength < (ρ name).utf8ByteSize ↔ limits.labelLength < name.utf8ByteSize

structure Symbol.Renamed (s t : Symbol) : Prop where
  known : s.label ∈ names
  label : t.label = ρ s.label
  address : t.address = s.address
  line : R s.line t.line

structure SymbolTable.Renamed (t u : SymbolTable) : Prop where
  first : t.limits = limits
  second : u.limits = limits
  symbols : List.Forall₂ (Symbol.Renamed ρ R names) t.symbols.toList u.symbols.toList

structure Placement.Renamed (x y : Placement) : Prop where
  known : ∀ r, x.body.reference? = some r → r.label ∈ names
  line : R x.line y.line
  address : y.address = x.address
  body : y.body = x.body.rename ρ

/-- The layouts of two programs, the second of which has other names. The labels of the first are
among `names`. -/
structure Layout.Renamed (l k : Layout) : Prop where
  symbols : l.symbols.Renamed limits ρ R names k.symbols
  placements : List.Forall₂ (Placement.Renamed ρ R names) l.placements.toList k.placements.toList

inductive SymbolError.Renamed : SymbolError → SymbolError → Prop
  | duplicate {name : String} {i j : Nat} (first : R i j) :
    Renamed (.duplicate name i) (.duplicate (ρ name) j)
  | tooLong {name : String} : Renamed (.tooLong name) (.tooLong (ρ name))
  | full : Renamed .full .full

/-- The same is wrong, with a label of another name. -/
inductive AssemblyFault.Renamed : AssemblyFault → AssemblyFault → Prop
  | unread {e : ParseError} : Renamed (.ofParse e) (.ofParse e)
  | undefinedLabel {name : String} : Renamed (.undefinedLabel name) (.undefinedLabel (ρ name))
  | symbol {e e' : SymbolError} (errors : SymbolError.Renamed ρ R e e') :
    Renamed (.symbol e) (.symbol e')
  | range {e : RangeError} : Renamed (.range e) (.range e)
  | programTooLarge : Renamed .programTooLarge .programTooLarge

/-- The same is wrong with lines that go together. -/
structure AssemblyError.Renamed (e e' : AssemblyError) : Prop where
  line : R e.line e'.line
  fault : e.fault.Renamed ρ R e'.fault

end

section
variable {limits : Limits} {ρ : String → String} {R : Nat → Nat → Prop} {names : Set String}

/-! ## Looking up -/

/-- A label is found under its other name where it was found before. -/
theorem Symbol.find?_renamed (inj : Set.InjOn ρ names) {ss ts : List Symbol}
    (h : List.Forall₂ (Symbol.Renamed ρ R names) ss ts) {name : String} (known : name ∈ names) :
    Option.Rel (Symbol.Renamed ρ R names) (ss.find? (·.label = name))
      (ts.find? (·.label = ρ name)) := by
  induction h with
  | nil => exact .none
  | @cons s t ss ts head tail ih =>
    by_cases here : s.label = name
    · have there : t.label = ρ name := by rw [head.label, here]
      rw [List.find?_cons_of_pos (by simpa using here), List.find?_cons_of_pos (by simpa using there)]
      exact .some head
    · have there : t.label ≠ ρ name := by
        rw [head.label]
        exact fun same => here (inj head.known known same)
      rw [List.find?_cons_of_neg (by simpa using here), List.find?_cons_of_neg (by simpa using there)]
      exact ih

namespace SymbolTable

variable {t u : SymbolTable} {name : String}

theorem Renamed.symbol? (h : t.Renamed limits ρ R names u) (inj : Set.InjOn ρ names)
    (known : name ∈ names) :
    Option.Rel (Symbol.Renamed ρ R names) (t.symbol? name) (u.symbol? (ρ name)) := by
  rw [SymbolTable.symbol?, SymbolTable.symbol?, ← Array.find?_toList, ← Array.find?_toList]
  exact Symbol.find?_renamed inj h.symbols known

theorem Renamed.find? (h : t.Renamed limits ρ R names u) (inj : Set.InjOn ρ names)
    (known : name ∈ names) : u.find? (ρ name) = t.find? name := by
  have symbol := h.symbol? inj known
  unfold SymbolTable.find?
  generalize t.symbol? name = s, u.symbol? (ρ name) = s' at symbol
  cases symbol with
  | none => rfl
  | some same => rw [Option.map_some, Option.map_some, same.address]

theorem Renamed.attempt (h : t.Renamed limits ρ R names u) (inj : Set.InjOn ρ names)
    (known : name ∈ names) (agrees : limits.Agrees ρ name) (address : Word) {i j : Nat}
    (lines : R i j) :
    Except.Related (SymbolError.Renamed ρ R) Eq (t.attempt ⟨name, address, i⟩).1
        (u.attempt ⟨ρ name, address, j⟩).1 ∧
      (t.attempt ⟨name, address, i⟩).2.Renamed limits ρ R names
        (u.attempt ⟨ρ name, address, j⟩).2 := by
  have size : u.size = t.size := h.symbols.length_eq.symm
  have symbol := h.symbol? inj known
  rw [attempt_eq, attempt_eq]
  dsimp only
  generalize t.symbol? name = s, u.symbol? (ρ name) = s' at symbol
  cases symbol with
  | some same => exact ⟨.error (.duplicate same.line), h⟩
  | none =>
    rw [Limits.Agrees] at agrees
    simp only [h.first, h.second, size, agrees]
    split
    · exact ⟨.error .tooLong, h⟩
    split
    · exact ⟨.error .full, h⟩
    · refine ⟨.ok rfl, rfl, rfl, ?_⟩
      rw [Array.toList_push, Array.toList_push]
      exact List.rel_append h.symbols (.cons ⟨known, rfl, rfl, lines⟩ .nil)

end SymbolTable

/-! ## The first pass -/

namespace Layout

variable {l k : Layout} {i j : Nat}

theorem Renamed.size (h : l.Renamed limits ρ R names k) : k.placements.size = l.placements.size :=
  h.placements.length_eq.symm

theorem Renamed.next (h : l.Renamed limits ρ R names k) : k.next = l.next := by
  rw [Layout.next, Layout.next, h.size]

theorem Renamed.addLabel (h : l.Renamed limits ρ R names k) (inj : Set.InjOn ρ names)
    {label : Option String} (known : ∀ name ∈ label, name ∈ names)
    (agrees : ∀ name ∈ label, limits.Agrees ρ name) (lines : R i j) :
    Except.Related (AssemblyFault.Renamed ρ R) (Layout.Renamed limits ρ R names) (l.addLabel i label)
      (k.addLabel j (label.map ρ)) := by
  cases label with
  | none => exact .ok h
  | some name =>
    obtain ⟨results, symbols⟩ :=
      h.symbols.attempt inj (known name rfl) (agrees name rfl) l.next lines
    rw [Option.map_some, Layout.addLabel, Layout.addLabel, h.next]
    generalize l.symbols.attempt ⟨name, l.next, i⟩ = x,
      k.symbols.attempt ⟨ρ name, l.next, j⟩ = y at results symbols
    obtain ⟨result, t⟩ := x
    obtain ⟨result', u⟩ := y
    cases results with
    | ok => exact .ok ⟨symbols, h.placements⟩
    | error errors => exact .error (.symbol errors)

theorem Renamed.addBody (h : l.Renamed limits ρ R names k) {body : Option Body}
    (known : ∀ r, body.bind Body.reference? = some r → r.label ∈ names) (lines : R i j) :
    (l.addBody i body).Renamed limits ρ R names (k.addBody j (body.map (Body.rename ρ))) := by
  cases body with
  | none => exact h
  | some b =>
    refine ⟨h.symbols, ?_⟩
    rw [Option.map_some, Layout.addBody, Layout.addBody, h.next, Array.toList_push,
      Array.toList_push]
    exact List.rel_append h.placements (.cons ⟨known, lines, rfl, rfl⟩ .nil)

theorem Renamed.addStatement (h : l.Renamed limits ρ R names k) (inj : Set.InjOn ρ names)
    {s : Statement} (known : ∀ name ∈ s.names, name ∈ names)
    (agrees : ∀ name ∈ s.label, limits.Agrees ρ name) (lines : R i j) :
    Except.Related (AssemblyFault.Renamed ρ R) (Layout.Renamed limits ρ R names) (l.addStatement i s)
      (k.addStatement j (s.rename ρ)) := by
  have label : ∀ name ∈ s.label, name ∈ names := fun name defined =>
    known name (List.mem_append_left _ (Option.mem_toList.2 defined))
  have operand : ∀ r, s.body.bind Body.reference? = some r → r.label ∈ names := fun r refers =>
    known r.label (List.mem_append_right _ (Option.mem_toList.2 (Option.mem_map_of_mem _ refers)))
  have added := h.addLabel inj label agrees lines
  rw [Layout.addStatement, Layout.addStatement, h.size, Statement.rename]
  split
  · generalize l.addLabel i s.label = x, k.addLabel j (s.label.map ρ) = y at added
    cases added with
    | ok labelled => exact .ok (labelled.addBody operand lines)
    | error errors => exact .error errors
  · exact .error .programTooLarge

end Layout

/-! ## The second pass -/

section
variable {t u : SymbolTable} {address : Word}

theorem Target.resolve_rename (h : t.Renamed limits ρ R names u) (inj : Set.InjOn ρ names) {n : Nat}
    {target : Target n} (known : ∀ r, target.reference? = some r → r.label ∈ names) :
    Except.Related (AssemblyFault.Renamed ρ R) Eq (target.resolve address t)
      ((target.rename ρ).resolve address u) := by
  cases target with
  | offset value => exact .ok rfl
  | label name =>
    rw [rename, resolve, resolve, h.find? inj (known ⟨name, n⟩ rfl)]
    cases t.find? name with
    | none => exact .error .undefinedLabel
    | some a =>
      exact (Except.Related.refl _).mapError fun _ _ same => same ▸ .range

/-- The machine's form of an instruction does not depend on the names. -/
theorem Operation.resolve_rename (h : t.Renamed limits ρ R names u) (inj : Set.InjOn ρ names)
    {o : Operation} (known : ∀ r, o.reference? = some r → r.label ∈ names) :
    Except.Related (AssemblyFault.Renamed ρ R) Eq (o.resolve address t)
      ((o.rename ρ).resolve address u) := by
  cases o with
  | br | jsr | ld | ldi | lea | st | sti =>
    exact (Target.resolve_rename h inj known).map fun _ _ same => congrArg _ same
  | _ => exact .ok rfl

theorem Body.word_rename (h : t.Renamed limits ρ R names u) (inj : Set.InjOn ρ names) {b : Body}
    (known : ∀ r, b.reference? = some r → r.label ∈ names) :
    Except.Related (AssemblyFault.Renamed ρ R) Eq (b.word address t)
      ((b.rename ρ).word address u) := by
  cases b with
  | operation o => exact (Operation.resolve_rename h inj known).map fun _ _ same => congrArg _ same
  | literal w => exact .ok rfl

end

theorem Layout.Renamed.words {l k : Layout} (h : l.Renamed limits ρ R names k)
    (inj : Set.InjOn ρ names) :
    Except.Related (AssemblyError.Renamed ρ R) Eq l.words k.words := by
  have words : Except.Related (AssemblyError.Renamed ρ R) (List.Forall₂ Eq) l.words k.words := by
    refine Except.Related.mapM h.placements fun x y same => ?_
    rw [wordOf, wordOf, same.address, same.body]
    exact (Body.word_rename h.symbols inj same.known).mapError fun _ _ fault => ⟨same.line, fault⟩
  generalize l.words = ws, k.words = ws' at words
  cases words with
  | ok same => exact .ok (List.forall₂_eq_eq_eq ▸ same)
  | error errors => exact .error errors

/-! ## Outlines -/

namespace Outline

/-- Lines of two outlines hold the same but for the names of labels, or are wrong in the same way. -/
structure LineRenamed (limits : Limits) (ρ : String → String) (R : Nat → Nat → Prop)
    (names : Set String) (x y : Nat × Except ParseError Statement) : Prop where
  line : R x.1 y.1
  holds : y.2 = x.2.map (Statement.rename ρ)
  known : ∀ s, x.2 = .ok s → ∀ name ∈ s.names, name ∈ names
  agrees : ∀ s, x.2 = .ok s → ∀ name ∈ s.label, limits.Agrees ρ name

theorem add_renamed (inj : Set.InjOn ρ names) {l k : Layout}
    {x y : Nat × Except ParseError Statement} (h : l.Renamed limits ρ R names k)
    (same : LineRenamed limits ρ R names x y) :
    Except.Related (AssemblyError.Renamed ρ R) (Layout.Renamed limits ρ R names) (add l x)
      (add k y) := by
  obtain ⟨i, held⟩ := x
  obtain ⟨j, _⟩ := y
  cases same.holds
  cases held with
  | error e => exact .error ⟨same.line, .unread⟩
  | ok s =>
    have added := h.addStatement inj (same.known s rfl) (same.agrees s rfl) same.line
    exact added.mapError fun _ _ fault => ⟨same.line, fault⟩

/-- Two outlines with the same statements but for the names of labels are assembled to the same image,
or fail alike. -/
theorem related_assemble (inj : Set.InjOn ρ names) {o o' : Outline}
    (h : List.Forall₂ (LineRenamed limits ρ R names) o o') :
    Except.Related (AssemblyError.Renamed ρ R) Eq (o.assemble limits) (o'.assemble limits) := by
  have start : (Layout.empty limits).Renamed limits ρ R names (.empty limits) :=
    ⟨⟨rfl, rfl, .nil⟩, .nil⟩
  refine (Except.Related.foldlM h (fun _ _ _ _ l x => add_renamed inj l x) start).bind ?_
  intro l k same
  exact (same.words inj).bind fun ws ws' words => .ok (by rw [words])

end Outline

end

/-! ## Other numbers -/

theorem Statement.rename_id (s : Statement) : s.rename id = s := by
  have target : ∀ {n : Nat} (t : Target n), t.rename id = t := by
    intro n t
    cases t <;> rfl
  have body : ∀ b : Body, b.rename id = b := by
    intro b
    cases b with
    | literal w => rfl
    | operation o => cases o <;> simp only [Body.rename, Operation.rename, target]
  rw [rename, Option.map_id, id, funext body, Option.map_id']

/-- Two outlines with the same lines, where only the numbers of the lines differ. -/
theorem Outline.assemble_renumbered {limits : Limits} {R : Nat → Nat → Prop} {o o' : Outline}
    (h : List.Forall₂ (fun x y => R x.1 y.1 ∧ y.2 = x.2) o o') :
    Except.Related (AssemblyError.Renamed id R) Eq (o.assemble limits) (o'.assemble limits) := by
  refine related_assemble (Set.injOn_id Set.univ) (h.imp fun x y same => ?_)
  refine ⟨same.1, ?_, fun _ _ _ _ => trivial, fun _ _ _ _ => Iff.rfl⟩
  rw [same.2, funext Statement.rename_id]
  cases x.2 <;> rfl

/-! ## Sources -/

namespace Program

variable {p q : Program}

/-- The labels that occur in a program, in definitions and operands. -/
def names (p : Program) : Set String :=
  {name | ∃ s ∈ p, name ∈ s.names}

/-- The statements of a program with the numbers of their lines, blank lines left out. -/
def numbered (p : Program) : List (Nat × Statement) :=
  p.collect fun number _ s => if s = .blank then none else some (number, s)

/-- The lines of these numbers have the same place in two programs, when blank lines are left out. -/
def Corresponds (p q : Program) (i j : Nat) : Prop :=
  ∃ k : Nat, (p.numbered.map Prod.fst)[k]? = some i ∧ (q.numbered.map Prod.fst)[k]? = some j

theorem map_snd_numbered (p : Program) :
    p.numbered.map Prod.snd = p.filter (· ≠ .blank) := by
  rw [numbered, map_collect, ← List.filterMap_eq_filter]
  refine collect_eq_filterMap (fun _ _ s => ?_) p
  by_cases blank : s = .blank <;> simp [blank, Option.guard]

theorem mem_of_mem_numbered {x : Nat × Statement} (h : x ∈ p.numbered) : x.2 ∈ p := by
  have held : x.2 ∈ p.numbered.map Prod.snd := List.mem_map_of_mem h
  rw [map_snd_numbered] at held
  exact (List.mem_filter.1 held).1

/-- The outline of lines that can be read. -/
theorem Reads.ofLines_eq {lines : List (List Char)} (h : Program.Reads lines p)
    (number address : Nat) : Outline.ofLines number lines =
      (p.collectFrom (fun n _ s => if s = .blank then none else some (n, s)) number address).map
        fun x => (x.1, .ok x.2) := by
  induction h generalizing number address with
  | nil => rfl
  | @cons line s lines p head tail ih =>
    rw [Outline.ofLines, collectFrom, List.map_append, ih (number + 1) (address + size [s])]
    congr 1
    unfold Statement.Reads at head
    by_cases blank : normalize line = []
    · rw [if_pos blank] at head
      rw [Outline.ofLine, if_pos blank, if_pos head]
      rfl
    · rw [if_neg blank] at head
      rw [Outline.ofLine, if_neg blank, if_neg (Statement.ne_blank_of_parse blank head), head]
      rfl

theorem Reads.ofSource_eq {source : String} (h : Program.Reads (Text.lines source.toList) p) :
    Outline.ofSource source = p.numbered.map fun x => (x.1, .ok x.2) :=
  h.ofLines_eq 1 0x3000

end Program

/-- Labels can be given other names, as long as those that differ still do and none is too long, and
blank lines and comments can be put in and left out: the image is the same, or the same is wrong with
the lines that go together. -/
theorem assemble_renamed {a b : String} {limits : Limits} {p q : Program} {ρ : String → String}
    (ha : Program.Reads (Text.lines a.toList) p) (hb : Program.Reads (Text.lines b.toList) q)
    (same : q.filter (· ≠ .blank) = (p.filter (· ≠ .blank)).map (Statement.rename ρ))
    (inj : Set.InjOn ρ p.names)
    (short : ∀ name ∈ p.labels ++ q.labels, name.utf8ByteSize ≤ limits.labelLength) :
    Except.Related (AssemblyError.Renamed ρ (p.Corresponds q)) Eq (assemble a limits)
      (assemble b limits) := by
  rw [assemble_eq_outline, assemble_eq_outline, ha.ofSource_eq, hb.ofSource_eq]
  apply Outline.related_assemble inj
  rw [← Program.map_snd_numbered, ← Program.map_snd_numbered, List.map_map] at same
  have length : p.numbered.length = q.numbered.length := by
    simpa using (congrArg List.length same).symm
  rw [List.forall₂_map_left_iff, List.forall₂_map_right_iff, List.forall₂_iff_get]
  refine ⟨length, fun k hp hq => ?_⟩
  have held : p.numbered[k].2 ∈ p := Program.mem_of_mem_numbered (List.getElem_mem hp)
  have held' : q.numbered[k].2 ∈ q := Program.mem_of_mem_numbered (List.getElem_mem hq)
  have renamed : q.numbered[k].2 = p.numbered[k].2.rename ρ := by
    simpa [hp, hq] using congrArg (·[k]?) same
  refine ⟨⟨k, by simp [hp], by simp [hq]⟩, congrArg Except.ok renamed, ?_, ?_⟩
  · rintro _ ⟨⟩ name occurs
    exact ⟨_, held, occurs⟩
  · rintro _ ⟨⟩ name defined
    have known : name ∈ p.labels := List.mem_filterMap.2 ⟨_, held, defined⟩
    have known' : ρ name ∈ q.labels := by
      refine List.mem_filterMap.2 ⟨_, held', ?_⟩
      rw [renamed]
      exact Option.mem_map_of_mem ρ defined
    exact iff_of_false (Nat.not_lt.2 (short _ (List.mem_append_right _ known')))
      (Nat.not_lt.2 (short _ (List.mem_append_left _ known)))

/-- A label that is defined twice, under one name and, further down, under another. -/
theorem assemble_renamed_duplicate :
    assemble "x: br x\nx: halt" = .error ⟨2, .symbol (.duplicate "x" 1)⟩ ∧
    assemble "# start\n_x: br _x\n_x: halt" = .error ⟨3, .symbol (.duplicate "_x" 2)⟩ ∧
    Except.Related
      (AssemblyError.Renamed ("_" ++ ·) (Program.Corresponds
        [⟨some "x", some (.operation (.br 0 (.label "x")))⟩,
          ⟨some "x", some (.operation (.service .halt))⟩]
        [.blank, ⟨some "_x", some (.operation (.br 0 (.label "_x")))⟩,
          ⟨some "_x", some (.operation (.service .halt))⟩]))
      Eq (assemble "x: br x\nx: halt") (assemble "# start\n_x: br _x\n_x: halt") := by
  have lines : Text.lines "x: br x\nx: halt".toList = ["x: br x".toList, "x: halt".toList] := by
    decide +kernel
  have lines' : Text.lines "# start\n_x: br _x\n_x: halt".toList =
      ["# start".toList, "_x: br _x".toList, "_x: halt".toList] := by
    decide +kernel
  refine ⟨by decide +kernel, by decide +kernel, assemble_renamed ?_ ?_ (by decide) ?_ (by decide)⟩
  · rw [lines]
    refine .cons ?_ (.cons ?_ .nil) <;> unfold Statement.Reads <;> decide +kernel
  · rw [lines']
    refine .cons ?_ (.cons ?_ (.cons ?_ .nil)) <;> unfold Statement.Reads <;> decide +kernel
  · intro name _ other _ same
    simpa using same

end Sixteen
