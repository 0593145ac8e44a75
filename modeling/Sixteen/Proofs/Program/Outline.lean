import Sixteen.Assembly
import Sixteen.Proofs.Statement.Line

/-!
# Outlines of programs

Lines that hold nothing play no part in assembling, but for the numbers of the others. It is the
same to assemble the outline of a program: the lines that hold something, each by its number and by
what it holds.

* `Outline`, `Outline.ofLines` : the outline of lines;
* `Outline.layout`, `Outline.assemble` : both passes over an outline;
* `assemble_eq_outline` : a source is assembled by its outline;
* `Outline.ofLines_congr` : what the outline of lines depends on.
-/

namespace Sixteen

/-- The lines of a program that hold something: the number of each, and its statement or what is
wrong with it. -/
abbrev Outline := List (Nat × Except ParseError Statement)

namespace Outline

/-- What one line adds to an outline. -/
def ofLine (number : Nat) (line : List Char) : Outline :=
  if normalize line = [] then [] else [(number, Statement.parse (normalize line))]

/-- The outline of lines, the first of which has the number `number`. -/
def ofLines (number : Nat) : List (List Char) → Outline
  | [] => []
  | line :: rest => ofLine number line ++ ofLines (number + 1) rest

/-- The outline of a source. -/
def ofSource (source : String) : Outline :=
  ofLines 1 (Text.lines source.toList)

/-- Adds what one line holds to a layout. -/
def add (l : Layout) (x : Nat × Except ParseError Statement) : Except AssemblyError Layout :=
  match x.2 with
  | .ok s => (l.addStatement x.1 s).mapError (⟨x.1, ·⟩)
  | .error e => .error ⟨x.1, .ofParse e⟩

def layout (limits : Limits) (o : Outline) : Except AssemblyError Layout :=
  o.foldlM add (.empty limits)

def assemble (limits : Limits) (o : Outline) : Except AssemblyError Image := do
  let l ← o.layout limits
  return ⟨programOrigin, ← l.words⟩

/-! ## Lines and their outline -/

theorem add_statement_eq_ok_iff {l k : Layout} {number : Nat} {s : Statement} :
    add l (number, .ok s) = .ok k ↔ l.addStatement number s = .ok k :=
  Except.mapError_eq_ok_iff

theorem foldlM_ofLine {line : List Char} (held : normalize line ≠ []) (number : Nat) (l : Layout) :
    (ofLine number line).foldlM add l = add l (number, Statement.parse (normalize line)) := by
  rw [ofLine, if_neg held, List.foldlM_cons]
  simp only [List.foldlM_nil, bind_pure]

theorem addLine_eq (l : Layout) (number : Nat) (line : List Char) :
    (l.addLine number line).mapError (⟨number, ·⟩) = (ofLine number line).foldlM add l := by
  by_cases blank : normalize line = []
  · rw [Layout.addLine, ofLine, if_pos blank, blank]
    rfl
  · rw [foldlM_ofLine blank, Layout.addLine, if_neg (by simpa using blank), add]
    cases Statement.parse (normalize line) <;> rfl

theorem addLines_eq (l : Layout) (number : Nat) (lines : List (List Char)) :
    l.addLines number lines = (ofLines number lines).foldlM add l := by
  induction lines generalizing l number with
  | nil => rfl
  | cons line rest ih =>
    rw [ofLines, List.foldlM_append, ← addLine_eq, Layout.addLines]
    cases l.addLine number line with
    | ok l => exact ih l (number + 1)
    | error fault => rfl

end Outline

theorem assemble_eq_outline (source : String) (limits : Limits) :
    assemble source limits = (Outline.ofSource source).assemble limits := by
  rw [assemble, layout, Outline.addLines_eq]
  rfl

namespace Outline

/-! ## Lines that do not matter -/

theorem ofLines_append (number : Nat) (ls ls' : List (List Char)) :
    ofLines number (ls ++ ls') = ofLines number ls ++ ofLines (number + ls.length) ls' := by
  induction ls generalizing number with
  | nil => rfl
  | cons line rest ih =>
    rw [List.cons_append, ofLines, ofLines, ih, List.append_assoc, List.length_cons,
      Nat.add_assoc, Nat.add_comm 1]

/-- Only what is left of lines without comments and blanks matters. -/
theorem ofLines_congr (number : Nat) {ls ls' : List (List Char)}
    (h : ls.map normalize = ls'.map normalize) : ofLines number ls = ofLines number ls' := by
  induction ls generalizing number ls' with
  | nil => rw [List.map_eq_nil_iff.1 h.symm]
  | cons line rest ih =>
    obtain ⟨line', rest', rfl, first, others⟩ := List.map_eq_cons_iff.1 h.symm
    rw [ofLines, ofLines, ofLine, ofLine, first, ih (number + 1) others.symm]

theorem ofLines_of_blank (number : Nat) {ls : List (List Char)} (h : ∀ l ∈ ls, normalize l = []) :
    ofLines number ls = [] := by
  induction ls generalizing number with
  | nil => rfl
  | cons line rest ih =>
    obtain ⟨first, others⟩ := List.forall_mem_cons.1 h
    rw [ofLines, ofLine, if_pos first, ih (number + 1) others]
    rfl

/-- The parts of a source between line feeds are its lines, but for carriage returns and for an empty
part at the end. -/
theorem ofSource_eq (source : String) :
    ofSource source = ofLines 1 (Text.pieces '\n' source.toList) := by
  obtain none | ⟨init, last, parts⟩ := List.eq_nil_or_concat' (Text.pieces '\n' source.toList)
  · exact absurd none (Text.pieces_ne_nil '\n' _)
  have returns : (init.map Text.dropReturn).map normalize = init.map normalize := by
    rw [List.map_map]
    exact List.map_congr_left fun line _ => Statement.normalize_dropReturn line
  rw [ofSource, Text.lines, parts, List.dropLast_concat, List.getLast?_concat, ofLines_append,
    ofLines_append, ofLines_congr 1 returns, List.length_map]
  cases last with
  | nil => rfl
  | cons c rest => rfl

end Outline

end Sixteen
