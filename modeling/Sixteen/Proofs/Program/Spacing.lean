import Sixteen.Proofs.Program.Renaming
import Sixteen.Proofs.Statement.Grammar
import Sixteen.Proofs.Text.Blank

/-!
# How a source is laid out

Blanks around a line, comments and the way in which lines end are gone before anything is read. Lines
that hold nothing only count, and a label may stand on a line of its own before its statement. All
this is seen from the outline of the source.

* `normalize_normalize`, `Relaid.normalize_eq` : what is left of a line;
* `Relaid`, `Filler`, `weave` : other ways to put down a line, and lines that hold nothing;
* `Statement.parse_normalize_colon` : a line with a colon, by its two parts;
* `Outline.layout_split` : a label apart from its statement;
* `IgnoresLayout`, `ignoresLayout` : all of it.
-/

namespace Sixteen

/-! ## What is left of a line -/

section
variable {line : List Char}

theorem normalize_append_of_notMem (h : '#' ∉ line) (rest : List Char) :
    normalize (line ++ rest) = Text.trim (line ++ rest.takeWhile (· ≠ '#')) := by
  have none : ∀ c ∈ line, decide (c ≠ '#') = true := by
    intro c hc
    exact decide_eq_true fun same => h (same ▸ hc)
  rw [normalize, List.takeWhile_append_of_pos none]

/-- What follows a comment belongs to it. -/
theorem normalize_append_of_mem (h : '#' ∈ line) (rest : List Char) :
    normalize (line ++ rest) = normalize line := by
  rw [normalize, normalize, List.takeWhile_append, if_neg]
  intro whole
  rw [← (List.takeWhile_prefix _).eq_of_length whole] at h
  exact absurd (List.all_eq_true.1 List.all_takeWhile _ h) (by decide)

theorem normalize_of_notMem (h : '#' ∉ line) : normalize line = Text.trim line := by
  simpa using normalize_append_of_notMem h []

theorem hash_notMem_of_blanks {blanks : List Char} (h : ∀ c ∈ blanks, Text.isBlank c = true) :
    '#' ∉ blanks := fun mem => absurd (h _ mem) (by decide)

theorem normalize_append_comment (line comment : List Char) :
    normalize (line ++ '#' :: comment) = normalize line := by
  by_cases h : '#' ∈ line
  · exact normalize_append_of_mem h _
  · rw [normalize_append_of_notMem h, normalize_of_notMem h,
      List.takeWhile_cons_of_neg (by decide), List.append_nil]

theorem normalize_append_blanks (line : List Char) {blanks : List Char}
    (h : ∀ c ∈ blanks, Text.isBlank c = true) : normalize (line ++ blanks) = normalize line := by
  by_cases hash : '#' ∈ line
  · exact normalize_append_of_mem hash _
  · have none : '#' ∉ line ++ blanks := by
      rw [List.mem_append, not_or]
      exact ⟨hash, hash_notMem_of_blanks h⟩
    rw [normalize_of_notMem none, normalize_of_notMem hash, Text.trim_append_blanks line h]

theorem normalize_blanks_append (line : List Char) {blanks : List Char}
    (h : ∀ c ∈ blanks, Text.isBlank c = true) : normalize (blanks ++ line) = normalize line := by
  rw [normalize_append_of_notMem (hash_notMem_of_blanks h), Text.trim_blanks_append _ h, normalize]

theorem hash_notMem_normalize (line : List Char) : '#' ∉ normalize line := by
  intro mem
  have before := List.all_eq_true.1 List.all_takeWhile _ (Text.trim_subset _ mem)
  exact absurd before (by decide)

/-- There is nothing to clean in a line that is clean. -/
theorem normalize_normalize (line : List Char) : normalize (normalize line) = normalize line := by
  rw [normalize_of_notMem (hash_notMem_normalize line)]
  exact Text.trim_trim _

end

/-! ## Lines put down in another way -/

/-- A line is put down in another way. -/
inductive Relaid : List Char → List Char → Prop
  | refl {line : List Char} : Relaid line line
  | cleaned {line : List Char} : Relaid line (normalize line)
  /-- With blanks before and behind it, none of which ends the line. -/
  | padded {line before after : List Char}
    (front : ∀ c ∈ before, Text.isBlank c = true ∧ c ≠ '\n')
    (back : ∀ c ∈ after, Text.isBlank c = true ∧ c ≠ '\n') : Relaid line (before ++ line ++ after)
  | commented {line comment : List Char} (single : '\n' ∉ comment) :
    Relaid line (line ++ '#' :: comment)
  | returned {line : List Char} : Relaid line (line ++ ['\r'])
  | trans {line line' line'' : List Char} (first : Relaid line line') (second : Relaid line' line'') :
    Relaid line line''

theorem Relaid.normalize_eq {line line' : List Char} (h : Relaid line line') :
    normalize line' = normalize line := by
  induction h with
  | refl => rfl
  | cleaned => exact normalize_normalize _
  | padded front back =>
    rw [normalize_append_blanks _ fun c hc => (back c hc).1,
      normalize_blanks_append _ fun c hc => (front c hc).1]
  | commented => exact normalize_append_comment _ _
  | returned => exact normalize_append_blanks _ (List.forall_mem_singleton.2 rfl)
  | trans _ _ first second => rw [second, first]

theorem Relaid.notMem {line line' : List Char} (h : Relaid line line') (single : '\n' ∉ line) :
    '\n' ∉ line' := by
  induction h with
  | refl => exact single
  | cleaned => exact fun mem => single ((List.takeWhile_sublist _).subset (Text.trim_subset _ mem))
  | padded front back =>
    simp only [List.mem_append, not_or]
    exact ⟨⟨fun mem => (front _ mem).2 rfl, single⟩, fun mem => (back _ mem).2 rfl⟩
  | commented comment => simp [single, comment]
  | returned => simp [single]
  | trans _ _ first second => exact second (first single)

theorem Relaid.forall_notMem {lines lines' : List (List Char)} (h : List.Forall₂ Relaid lines lines')
    (single : ∀ line ∈ lines, '\n' ∉ line) : ∀ line ∈ lines', '\n' ∉ line := by
  induction h with
  | nil => exact single
  | cons first others ih =>
    obtain ⟨here, later⟩ := List.forall_mem_cons.1 single
    exact List.forall_mem_cons.2 ⟨first.notMem here, ih later⟩

/-- Lines of which the same is left have one outline. -/
theorem Outline.ofLines_eq_of_forall₂ {R : List Char → List Char → Prop}
    (hR : ∀ line line', R line line' → normalize line' = normalize line)
    {lines lines' : List (List Char)} (h : List.Forall₂ R lines lines') (number : Nat) :
    ofLines number lines' = ofLines number lines := by
  refine ofLines_congr number ?_
  rw [← List.forall₂_eq_eq_eq, List.forall₂_map_left_iff, List.forall₂_map_right_iff]
  exact h.flip.imp fun line' line same => hR line line' same

/-! ## Sources by their lines -/

/-- Lines as a source, with a line feed between them. -/
def sourceOf (lines : List (List Char)) : String :=
  String.ofList (['\n'].intercalate lines)

theorem Outline.ofSource_sourceOf {lines : List (List Char)} (ne : lines ≠ [])
    (h : ∀ line ∈ lines, '\n' ∉ line) : ofSource (sourceOf lines) = ofLines 1 lines := by
  rw [ofSource_eq, sourceOf, String.toList_ofList, Text.pieces_intercalate ne h]

/-! ## Lines that hold nothing -/

/-- A line that is blank, or only a comment behind blanks. -/
structure Filler (line : List Char) : Prop where
  single : '\n' ∉ line
  blank : ∀ c ∈ line.takeWhile (· ≠ '#'), Text.isBlank c = true

/-- Lines from the number `number` on, with others put in: those of `fillers n` before the line of
number `n`, and the next behind the last. -/
def weave (fillers : Nat → List (List Char)) (number : Nat) :
    List (List Char) → List (List Char)
  | [] => fillers number
  | line :: rest => fillers number ++ line :: weave fillers (number + 1) rest

/-- How many lines are put in before the line of a number. -/
def inserted (fillers : Nat → List (List Char)) (number : Nat) : Nat :=
  ((List.range number).map fun i => (fillers (i + 1)).length).sum

section
variable {fillers : Nat → List (List Char)}

theorem inserted_succ (number : Nat) :
    inserted fillers (number + 1) = inserted fillers number + (fillers (number + 1)).length := by
  rw [inserted, List.range_succ, List.map_append, List.sum_append, inserted]
  simp

theorem mem_weave {number : Nat} {lines : List (List Char)} {l : List Char}
    (h : l ∈ weave fillers number lines) : (∃ n, l ∈ fillers n) ∨ l ∈ lines := by
  induction lines generalizing number with
  | nil => exact .inl ⟨number, h⟩
  | cons line rest ih =>
    rcases List.mem_append.1 h with filler | here
    · exact .inl ⟨number, filler⟩
    rcases List.mem_cons.1 here with rfl | later
    · exact .inr List.mem_cons_self
    · exact (ih later).imp_right (List.mem_cons_of_mem line)

theorem weave_ne_nil {number : Nat} {lines : List (List Char)} (h : lines ≠ []) :
    weave fillers number lines ≠ [] := by
  cases lines with
  | nil => contradiction
  | cons line rest => simp [weave]

theorem Outline.ofLines_weave (h : ∀ n, ∀ l ∈ fillers n, Filler l) (number : Nat)
    (lines : List (List Char)) :
    List.Forall₂ (fun x y => y.1 = x.1 + inserted fillers x.1 ∧ y.2 = x.2)
      (ofLines (number + 1) lines)
      (ofLines (number + 1 + inserted fillers number) (weave fillers (number + 1) lines)) := by
  have nothing : ∀ n, ∀ l ∈ fillers n, normalize l = [] := fun n l hl =>
    Text.trim_of_blanks (h n l hl).blank
  induction lines generalizing number with
  | nil =>
    rw [weave, ofLines_of_blank _ (nothing _)]
    exact .nil
  | cons line rest ih =>
    have here : number + 1 + inserted fillers number + (fillers (number + 1)).length =
        number + 1 + inserted fillers (number + 1) := by
      rw [inserted_succ, Nat.add_assoc]
    have next : number + 1 + inserted fillers (number + 1) + 1 =
        number + 1 + 1 + inserted fillers (number + 1) := by omega
    rw [weave, ofLines_append, ofLines_of_blank _ (nothing _), List.nil_append, here, ofLines,
      ofLines, next]
    refine List.rel_append ?_ (ih (number + 1))
    unfold ofLine
    split
    · exact .nil
    · exact .cons ⟨rfl, rfl⟩ .nil

end

/-! ## Labels on lines of their own -/

section
variable {name : List Char}

theorem normalize_append_colon (hash : '#' ∉ name) (rest : List Char) :
    normalize (name ++ ':' :: rest) = name.dropWhile Text.isBlank ++
      ':' :: Text.trimEnd (rest.takeWhile (· ≠ '#')) := by
  rw [normalize_append_of_notMem hash, List.takeWhile_cons_of_pos (by decide),
    Text.trim_append_cons _ _ (by decide)]

/-- A line with a label holds what is before its first colon and what is behind it. -/
theorem splitLabel_normalize (hash : '#' ∉ name) (colon : ':' ∉ name) (rest : List Char) :
    splitLabel (normalize (name ++ ':' :: rest)) = (some (Text.trim name), normalize rest) := by
  have front : ':' ∉ name.dropWhile Text.isBlank := fun mem =>
    colon ((List.dropWhile_sublist _).subset mem)
  rw [normalize_append_colon hash, splitLabel_append_colon front, Text.trim_dropWhile,
    Text.trim_trimEnd, normalize]

namespace Statement

/-- An instruction is read the same on a line of its own. -/
theorem parse_of_bodyOf {line : List Char} {b : Body} (h : bodyOf line = .ok (some b)) :
    line ≠ [] ∧ parse line = .ok ⟨none, some b⟩ := by
  rw [bodyOf] at h
  split at h
  · cases h
  next held =>
  obtain ⟨_, parsed, ⟨⟩⟩ := Except.map_eq_ok_iff.1 h
  refine ⟨by simpa using held, parse_eq_ok_iff.2 ?_⟩
  rw [splitLabel_of_notMem (Body.notMem_colon_of_parse parsed), bodyOf, if_neg held]
  exact ⟨rfl, h⟩

/-- The parts of a statement on two lines. If there is nothing behind the label, the second line holds
nothing. -/
theorem parse_split (hash : '#' ∉ name) (colon : ':' ∉ name) {rest : List Char} {s : Statement}
    (h : parse (normalize (name ++ ':' :: rest)) = .ok s) :
    parse (normalize (name ++ [':'])) = .ok ⟨s.label, none⟩ ∧
      (normalize rest = [] ∧ s.body = none ∨
        ∃ b, s.body = some b ∧ normalize rest ≠ [] ∧
          parse (normalize rest) = .ok ⟨none, some b⟩) := by
  rw [parse_eq_ok_iff, splitLabel_normalize hash colon] at h
  refine ⟨?_, ?_⟩
  · rw [parse_eq_ok_iff, splitLabel_normalize hash colon]
    exact ⟨h.1, rfl⟩
  · cases body : s.body with
    | none =>
      by_cases held : normalize rest = []
      · exact .inl ⟨held, rfl⟩
      · exact absurd body (body_ne_none_of_bodyOf held h.2)
    | some b =>
      rw [body] at h
      exact .inr ⟨b, rfl, parse_of_bodyOf h.2⟩

end Statement

end

namespace Layout

variable {l k : Layout} {i : Nat} {label : Option String}

theorem placements_of_addLabel (h : l.addLabel i label = .ok k) : k.placements = l.placements := by
  cases label with
  | none =>
    cases h
    rfl
  | some name =>
    rw [addLabel] at h
    split at h <;> cases h
    rfl

/-- A statement with a label is added as the label and then the rest. -/
theorem addStatement_split {b : Body} (h : l.addStatement i ⟨label, some b⟩ = .ok k) :
    ∃ m, l.addStatement i ⟨label, none⟩ = .ok m ∧ m.addStatement i ⟨none, some b⟩ = .ok k := by
  rw [addStatement] at h
  split at h
  next room =>
    split at h
    next m added =>
      have room' : m.placements.size < capacity := by rwa [placements_of_addLabel added]
      refine ⟨m, ?_, ?_⟩
      · rw [addStatement, if_pos room, added]
        rfl
      · rw [addStatement, if_pos room']
        exact h
    next => cases h
  next => cases h

end Layout

namespace Outline

variable {name rest : List Char} {limits : Limits} {image : Image}

/-- A line with a label and what is behind it, on two lines. -/
theorem foldlM_split (hash : '#' ∉ name) (colon : ':' ∉ name) {l k : Layout}
    (h : (ofLine 0 (name ++ ':' :: rest)).foldlM add l = .ok k) :
    (ofLine 0 (name ++ [':']) ++ ofLine 0 rest).foldlM add l = .ok k := by
  have held : ∀ rest, normalize (name ++ ':' :: rest) ≠ [] := fun rest => by
    rw [normalize_append_colon hash]
    simp
  rw [foldlM_ofLine (held rest)] at h
  cases parsed : Statement.parse (normalize (name ++ ':' :: rest)) with
  | error e =>
    rw [parsed] at h
    cases h
  | ok s =>
    obtain ⟨label, body⟩ := s
    rw [parsed] at h
    obtain ⟨first, ⟨blank, rfl⟩ | ⟨b, rfl, more, second⟩⟩ :=
      Statement.parse_split hash colon parsed
    · rw [ofLine.eq_def 0 rest, if_pos blank, List.append_nil, foldlM_ofLine (held []), first]
      exact h
    · obtain ⟨m, labelled, added⟩ := Layout.addStatement_split (add_statement_eq_ok_iff.1 h)
      rw [List.foldlM_append, foldlM_ofLine (held []), first, add_statement_eq_ok_iff.2 labelled]
      show (ofLine 0 rest).foldlM add m = .ok k
      rw [foldlM_ofLine more, second, add_statement_eq_ok_iff.2 added]

/-- An outline without the numbers of its lines. -/
def unnumbered (o : Outline) : Outline :=
  o.map fun x => (0, x.2)

theorem unnumbered_ofLines (number : Nat) (lines : List (List Char)) :
    (ofLines number lines).unnumbered = lines.flatMap (ofLine 0) := by
  induction lines generalizing number with
  | nil => rfl
  | cons line rest ih =>
    have first : (ofLine number line).unnumbered = ofLine 0 line := by
      unfold ofLine
      split <;> rfl
    rw [List.flatMap_cons, ← ih (number + 1), ← first, ofLines, unnumbered, List.map_append]
    rfl

/-- The image does not depend on the numbers. -/
theorem assemble_unnumbered_eq_ok_iff (o : Outline) :
    o.unnumbered.assemble limits = .ok image ↔ o.assemble limits = .ok image := by
  have same : List.Forall₂ (fun x y => True ∧ y.2 = x.2) o o.unnumbered := by
    rw [unnumbered, List.forall₂_map_right_iff]
    exact List.forall₂_same.2 fun _ _ => ⟨trivial, rfl⟩
  exact (assemble_renumbered (R := fun _ _ => True) same).ok_iff.symm

theorem assemble_split (hash : '#' ∉ name) (colon : ':' ∉ name) {above below : List (List Char)}
    (h : (ofLines 1 (above ++ (name ++ ':' :: rest) :: below)).assemble limits = .ok image) :
    (ofLines 1 (above ++ (name ++ [':']) :: rest :: below)).assemble limits = .ok image := by
  rw [← assemble_unnumbered_eq_ok_iff, unnumbered_ofLines, List.flatMap_append] at h ⊢
  rw [List.flatMap_cons, List.flatMap_cons, ← List.append_assoc (ofLine 0 _)]
  rw [List.flatMap_cons] at h
  generalize above.flatMap (ofLine 0) = before, below.flatMap (ofLine 0) = after at h ⊢
  obtain ⟨k, placed, words⟩ := Except.bind_eq_ok_iff.1 h
  refine Except.bind_eq_ok_iff.2 ⟨k, ?_, words⟩
  rw [layout, List.foldlM_append, Except.bind_eq_ok_iff] at placed ⊢
  obtain ⟨first, placed, others⟩ := placed
  refine ⟨first, placed, ?_⟩
  rw [List.foldlM_append, Except.bind_eq_ok_iff] at others ⊢
  obtain ⟨second, split, others⟩ := others
  exact ⟨second, foldlM_split hash colon split, others⟩

end Outline

/-! ## Line endings -/

/-- A text with a carriage return before each line feed. -/
def withReturns (text : List Char) : List Char :=
  text.flatMap fun c => if c = '\n' then ['\r', '\n'] else [c]

/-- A line may end with a carriage return besides, and nothing else changes. -/
theorem forall₂_pieces_withReturns (text : List Char) :
    List.Forall₂ (fun line line' => line' = line ∨ line' = line ++ ['\r'])
      (Text.pieces '\n' text) (Text.pieces '\n' (withReturns text)) := by
  induction text with
  | nil => exact .cons (.inl rfl) .nil
  | cons c rest ih =>
    by_cases feed : c = '\n'
    · have ends : withReturns (c :: rest) = ['\r'] ++ '\n' :: withReturns rest := by
        rw [withReturns, List.flatMap_cons, if_pos feed]
        rfl
      rw [ends, Text.pieces_append_cons (by decide), Text.pieces_cons, if_pos feed]
      exact .cons (.inr rfl) ih
    · have goes : withReturns (c :: rest) = c :: withReturns rest := by
        rw [withReturns, List.flatMap_cons, if_neg feed]
        rfl
      rw [goes, Text.pieces_cons, Text.pieces_cons, if_neg feed, if_neg feed]
      generalize Text.pieces '\n' rest = parts, Text.pieces '\n' (withReturns rest) = parts' at ih
      cases ih with
      | nil => exact .cons (.inl rfl) .nil
      | cons first others =>
        refine .cons ?_ others
        rcases first with rfl | rfl
        · exact .inl rfl
        · exact .inr rfl

/-! ## Sources -/

section
variable {limits : Limits} {source : String}

theorem assemble_relaid {lines : List (List Char)}
    (h : List.Forall₂ Relaid (Text.pieces '\n' source.toList) lines) :
    assemble (sourceOf lines) limits = assemble source limits := by
  have ne : lines ≠ [] := by
    rintro rfl
    exact Text.pieces_ne_nil _ _ (List.forall₂_nil_right_iff.1 h)
  have single := Relaid.forall_notMem h fun line => Text.notMem_of_mem_pieces
  rw [assemble_eq_outline, assemble_eq_outline, Outline.ofSource_eq source,
    Outline.ofSource_sourceOf ne single,
    Outline.ofLines_eq_of_forall₂ (fun _ _ => Relaid.normalize_eq) h]

theorem assemble_withReturns :
    assemble (String.ofList (withReturns source.toList)) limits = assemble source limits := by
  have cleaned : ∀ line line' : List Char, line' = line ∨ line' = line ++ ['\r'] →
      normalize line' = normalize line := by
    rintro line _ (rfl | rfl)
    · rfl
    · exact Relaid.normalize_eq .returned
  rw [assemble_eq_outline, assemble_eq_outline, Outline.ofSource_eq, Outline.ofSource_eq source,
    String.toList_ofList,
    Outline.ofLines_eq_of_forall₂ cleaned (forall₂_pieces_withReturns source.toList)]

theorem assemble_weave {fillers : Nat → List (List Char)}
    (h : ∀ n, ∀ line ∈ fillers n, Filler line) :
    Except.Related (AssemblyError.Renamed id fun i j => j = i + inserted fillers i) Eq
      (assemble source limits)
      (assemble (sourceOf (weave fillers 1 (Text.pieces '\n' source.toList))) limits) := by
  have single : ∀ line ∈ weave fillers 1 (Text.pieces '\n' source.toList), '\n' ∉ line := by
    intro line mem
    rcases mem_weave mem with ⟨n, filler⟩ | line
    · exact (h n _ filler).single
    · exact Text.notMem_of_mem_pieces line
  rw [assemble_eq_outline, assemble_eq_outline, Outline.ofSource_eq source,
    Outline.ofSource_sourceOf (weave_ne_nil (Text.pieces_ne_nil _ _)) single]
  exact Outline.assemble_renumbered (Outline.ofLines_weave h 0 _)

theorem assemble_split {above below : List (List Char)} {name rest : List Char} {image : Image}
    (split : Text.pieces '\n' source.toList = above ++ (name ++ ':' :: rest) :: below)
    (hash : '#' ∉ name) (colon : ':' ∉ name) (assembled : assemble source limits = .ok image) :
    assemble (sourceOf (above ++ (name ++ [':']) :: rest :: below)) limits = .ok image := by
  have single : ∀ line ∈ above ++ (name ++ ':' :: rest) :: below, '\n' ∉ line := by
    rw [← split]
    exact fun line => Text.notMem_of_mem_pieces
  have single' : ∀ line ∈ above ++ (name ++ [':']) :: rest :: below, '\n' ∉ line := by
    obtain ⟨first, line⟩ := List.forall_mem_append.1 single
    obtain ⟨here, others⟩ := List.forall_mem_cons.1 line
    rw [List.append_cons, List.mem_append, not_or] at here
    exact List.forall_mem_append.2
      ⟨first, List.forall_mem_cons.2 ⟨here.1, List.forall_mem_cons.2 ⟨here.2, others⟩⟩⟩
  rw [assemble_eq_outline, Outline.ofSource_eq, split] at assembled
  rw [assemble_eq_outline, Outline.ofSource_sourceOf (by simp) single']
  exact Outline.assemble_split hash colon assembled

end

/-! ## All of it -/

/-- What does not matter in a source. -/
structure IgnoresLayout (limits : Limits) (source : String) : Prop where
  /-- Any lines may be put down in another way. -/
  relaid : ∀ lines, List.Forall₂ Relaid (Text.pieces '\n' source.toList) lines →
    assemble (sourceOf lines) limits = assemble source limits
  /-- All lines may end with a carriage return and a line feed. -/
  returns : assemble (String.ofList (withReturns source.toList)) limits = assemble source limits
  /-- Lines that hold nothing may be put in anywhere, and only move the other lines. -/
  fillers : ∀ fillers : Nat → List (List Char), (∀ n, ∀ line ∈ fillers n, Filler line) →
    Except.Related (AssemblyError.Renamed id fun i j => j = i + inserted fillers i) Eq
      (assemble source limits)
      (assemble (sourceOf (weave fillers 1 (Text.pieces '\n' source.toList))) limits)
  /-- A label may have a line of its own before its statement. -/
  labels : ∀ (above below : List (List Char)) (name rest : List Char) (image : Image),
    Text.pieces '\n' source.toList = above ++ (name ++ ':' :: rest) :: below →
    '#' ∉ name → ':' ∉ name → assemble source limits = .ok image →
      assemble (sourceOf (above ++ (name ++ [':']) :: rest :: below)) limits = .ok image
  /-- Cleaning a line again does nothing. -/
  cleaned : ∀ line, normalize (normalize line) = normalize line

theorem ignoresLayout (limits : Limits) (source : String) : IgnoresLayout limits source where
  relaid _ := assemble_relaid
  returns := assemble_withReturns
  fillers _ := assemble_weave
  labels _ _ _ _ _ := assemble_split
  cleaned := normalize_normalize

/-- A label on a line of its own. -/
theorem ignoresLayout_label : assemble "x:\n halt" = .ok ⟨0x3000, [0xf025]⟩ := by
  have whole : assemble "x: halt" = .ok ⟨0x3000, [0xf025]⟩ := by decide +kernel
  have split := (ignoresLayout {} "x: halt").labels [] [] ['x'] " halt".toList _ (by decide +kernel)
    (by decide) (by decide) whole
  rwa [show sourceOf _ = "x:\n halt" by decide +kernel] at split

end Sixteen
