import Sixteen.Proofs.Program.Assembly

/-!
# One program behind another

A program behind another moves up by the words of the first, and its labels move with it, so every
distance stays what it was. Nothing in it looks past its own labels, and nothing in the first does.

* `Program.address_append_left`, `Program.address_append_right` : where the lines of both go;
* `Program.InReach.append_left`, `Program.InReach.append_right` : what was in reach stays in reach;
* `Program.words_append` : the words of both, one after the other;
* `Program.WellFormed.append` : two programs that share no label, and have room together;
* `Program.reads_lines_append` : the lines of two sources with a line feed between;
* `assemble_append` : the image of both.
-/

namespace Sixteen

namespace Program

variable {p q : Program} {limits : Limits} {name : String} {a i : Nat} {r : Reference}

/-! ## Addresses and labels -/

theorem size_take_le (p : Program) (i : Nat) : size (p.take i) ≤ p.size :=
  (List.take_sublist i p).countP_le

theorem address_append_left (h : i ≤ p.length) : (p ++ q).address i = p.address i := by
  rw [address, address, List.take_append_of_le_length h]

theorem address_append_right (p q : Program) (i : Nat) :
    (p ++ q).address (p.length + i) = p.size + q.address i := by
  rw [address, address, List.take_length_add_append, size_append]
  omega

theorem Defines.append_left (h : p.Defines i name) : (p ++ q).Defines i name := by
  obtain ⟨s, hs, hl⟩ := h
  obtain ⟨hi, -⟩ := List.getElem?_eq_some_iff.1 hs
  exact ⟨s, by rw [List.getElem?_append_left hi, hs], hl⟩

theorem Defines.append_right (h : q.Defines i name) : (p ++ q).Defines (p.length + i) name := by
  obtain ⟨s, hs, hl⟩ := h
  refine ⟨s, ?_, hl⟩
  rw [List.getElem?_append_right (Nat.le_add_right ..), Nat.add_sub_cancel_left, hs]

theorem Defines.lt_length (h : p.Defines i name) : i < p.length := by
  obtain ⟨s, hs, -⟩ := h
  exact (List.getElem?_eq_some_iff.1 hs).1

theorem InReach.append_left (h : p.InReach a r) : (p ++ q).InReach a r := by
  obtain ⟨j, hj, reach⟩ := h
  refine ⟨j, hj.append_left, ?_⟩
  rwa [address_append_left (Nat.le_of_lt hj.lt_length)]

/-- A label and what refers to it move by the same number of words. -/
theorem InReach.append_right (h : q.InReach a r) : (p ++ q).InReach (p.size + a) r := by
  obtain ⟨j, hj, reach⟩ := h
  refine ⟨p.length + j, hj.append_right, ?_⟩
  rw [address_append_right]
  convert reach using 1
  omega

theorem Resolvable.append (hp : p.Resolvable) (hq : q.Resolvable) : (p ++ q).Resolvable := by
  intro i s r hs hr
  rcases Nat.lt_or_ge i p.length with first | second
  · rw [List.getElem?_append_left first] at hs
    rw [address_append_left (Nat.le_of_lt first)]
    exact (hp i s r hs hr).append_left
  · obtain ⟨j, rfl⟩ := Nat.exists_eq_add_of_le second
    rw [List.getElem?_append_right second, Nat.add_sub_cancel_left] at hs
    rw [address_append_right]
    exact (hq j s r hs hr).append_right

/-- Two programs that share no label, and have room together, are well-formed together. -/
theorem WellFormed.append (hp : p.WellFormed limits) (hq : q.WellFormed limits)
    (apart : ∀ name ∈ p.labels, name ∉ q.labels)
    (few : p.labels.length + q.labels.length ≤ limits.symbols) (room : p.size + q.size < 0xd000) :
    (p ++ q).WellFormed limits where
  distinct := by
    rw [labels_append, List.nodup_append]
    refine ⟨hp.distinct, hq.distinct, ?_⟩
    rintro name first _ second rfl
    exact apart name first second
  few := by rwa [labels_append, List.length_append]
  short name hname := by
    rw [labels_append, List.mem_append] at hname
    exact hname.elim (hp.short name) (hq.short name)
  room i s _ _ := by
    have := size_take_le (p ++ q) i
    rw [size_append] at this
    omega
  resolvable := hp.resolvable.append hq.resolvable

/-! ## Words -/

section
variable {α : Type} {f : (line address : Nat) → Statement → Option α}

theorem collectFrom_add (k d line address : Nat) (p : Program) :
    p.collectFrom f (k + line) (d + address) =
      p.collectFrom (fun n a s => f (k + n) (d + a) s) line address := by
  induction p generalizing line address with
  | nil => rfl
  | cons s rest ih => rw [collectFrom, collectFrom, Nat.add_assoc, Nat.add_assoc, ih]

/-- What the second program gives is given further down. -/
theorem collect_append (p q : Program) :
    (p ++ q).collect f =
      p.collect f ++ q.collect fun n a s => f (p.length + n) (p.size + a) s := by
  rw [collect, collectFrom_append, Nat.add_comm 1, Nat.add_comm 0x3000, collectFrom_add]
  rfl

end

theorem distance_append_left (distinct : (p ++ q).labels.Nodup) {b : Body}
    (h : ∀ r, b.reference? = some r → p.InReach a r) :
    (p ++ q).distance a b = p.distance a b := by
  have first : p.labels.Nodup := (List.nodup_append.1 (labels_append p q ▸ distinct)).1
  cases hr : b.reference? with
  | none => simp only [distance, hr]
  | some r =>
    obtain ⟨j, hj, -⟩ := h r hr
    rw [distance_eq distinct hr hj.append_left, distance_eq first hr hj,
      address_append_left (Nat.le_of_lt hj.lt_length)]

theorem distance_append_right (distinct : (p ++ q).labels.Nodup) {b : Body}
    (h : ∀ r, b.reference? = some r → q.InReach a r) :
    (p ++ q).distance (p.size + a) b = q.distance a b := by
  have second : q.labels.Nodup := (List.nodup_append.1 (labels_append p q ▸ distinct)).2.1
  cases hr : b.reference? with
  | none => simp only [distance, hr]
  | some r =>
    obtain ⟨j, hj, -⟩ := h r hr
    rw [distance_eq distinct hr hj.append_right, distance_eq second hr hj, address_append_right]
    omega

theorem Resolvable.inReach (h : p.Resolvable) {s : Statement} {b : Body} (hs : p[i]? = some s)
    (hb : s.body = some b) (hr : b.reference? = some r) : p.InReach (p.address i) r := by
  refine h i s r hs ?_
  rw [Statement.reference?, hb]
  exact hr

/-- No word of either program depends on the other. -/
theorem words_append (hp : p.Resolvable) (hq : q.Resolvable) (distinct : (p ++ q).labels.Nodup) :
    (p ++ q).words = p.words ++ q.words := by
  have first : (p.collect fun _ a s => s.body.map fun b => b.wordAt ((p ++ q).distance a b)) =
      p.words := by
    refine collect_congr fun i s hs => Option.map_congr fun b hb => ?_
    rw [distance_append_left distinct fun r hr => hp.inReach hs hb hr]
  have second : (q.collect fun _ a s =>
      s.body.map fun b => b.wordAt ((p ++ q).distance (p.size + a) b)) = q.words := by
    refine collect_congr fun i s hs => Option.map_congr fun b hb => ?_
    rw [distance_append_right distinct fun r hr => hq.inReach hs hb hr]
  rw [words, collect_append, first, second]

/-! ## Blank lines -/

section
variable {tail : Program} (blank : ∀ s ∈ tail, s = .blank)
include blank

theorem labels_of_blank : tail.labels = [] := by
  refine List.filterMap_eq_nil_iff.2 fun s hs => ?_
  rw [blank s hs]
  rfl

theorem size_of_blank : tail.size = 0 := by
  refine List.countP_eq_zero.2 fun s hs => ?_
  rw [blank s hs]
  exact Bool.false_ne_true

theorem words_of_blank : tail.words = [] := by
  rw [← List.length_eq_zero_iff, length_words, size_of_blank blank]

theorem wellFormed_of_blank (limits : Limits) : tail.WellFormed limits where
  distinct := by
    rw [labels_of_blank blank]
    exact List.nodup_nil
  few := by
    rw [labels_of_blank blank]
    exact Nat.zero_le _
  short := by
    rw [labels_of_blank blank]
    exact nofun
  room i s hs hne := absurd (blank s (List.mem_of_getElem? hs)) hne
  resolvable i s r hs hr := by
    rw [blank s (List.mem_of_getElem? hs)] at hr
    cases hr

/-- Blank lines behind a program change nothing about it. -/
theorem WellFormed.append_blank (h : p.WellFormed limits) (room : p.size < 0xd000) :
    (p ++ tail).WellFormed limits := by
  refine h.append (wellFormed_of_blank blank limits) ?_ ?_ ?_
  · rw [labels_of_blank blank]
    exact fun _ _ => List.not_mem_nil
  · rw [labels_of_blank blank]
    exact h.few
  · rwa [size_of_blank blank]

end

/-! ## Lines -/

/-- What lines hold is what is left of them without comments and blanks. -/
theorem Reads.congr {ls ls' : List (List Char)} (h : ls.map normalize = ls'.map normalize)
    (reads : Program.Reads ls p) : Program.Reads ls' p := by
  have cleaned : ∀ ls, Program.Reads ls p ↔ List.Forall₂ (fun text s =>
      if text = [] then s = .blank else Statement.parse text = .ok s) (ls.map normalize) p := by
    intro ls
    rw [List.forall₂_map_left_iff]
    rfl
  rw [cleaned, ← h]
  exact (cleaned ls).1 reads

/-- A line feed behind a text ends its last line. If that has ended already, it adds a blank one. -/
theorem exists_reads_pieces {text : List Char} (h : Program.Reads (Text.lines text) p) :
    ∃ tail : Program, (∀ s ∈ tail, s = .blank) ∧
      Program.Reads ((Text.pieces '\n' text).map Text.dropReturn) (p ++ tail) := by
  obtain none | ⟨init, last, parts⟩ := List.eq_nil_or_concat' (Text.pieces '\n' text)
  · exact absurd none (Text.pieces_ne_nil '\n' text)
  · simp only [Text.lines, parts, List.dropLast_concat, List.getLast?_concat] at h
    rw [parts, List.map_append]
    cases last with
    | nil =>
      -- The text ends with a line feed: what is behind it is a piece, but no line.
      have whole : Program.Reads (init.map Text.dropReturn ++ []) p := h
      rw [List.append_nil] at whole
      exact ⟨[.blank], by simp, List.rel_append whole (.cons rfl .nil)⟩
    | cons c rest =>
      -- The last line has no line feed, so only as a piece it loses a carriage return.
      refine ⟨[], by simp, ?_⟩
      rw [List.append_nil]
      refine h.congr ?_
      simp [Option.filter, Statement.normalize_dropReturn]

/-- The lines of two sources with a line feed between hold both programs, and no more than blank
lines between. -/
theorem exists_reads_append {first second : List Char} (hp : Program.Reads (Text.lines first) p)
    (hq : Program.Reads (Text.lines second) q) :
    ∃ tail : Program, (∀ s ∈ tail, s = .blank) ∧
      Program.Reads (Text.lines (first ++ '\n' :: second)) (p ++ tail ++ q) := by
  obtain ⟨tail, blank, reads⟩ := exists_reads_pieces hp
  refine ⟨tail, blank, ?_⟩
  rw [Text.lines_append]
  exact List.rel_append reads hq

end Program

/-- Assembled code can be moved: of two sources that share no label, and have room together, the words
of the second come behind those of the first, and none of them changes. -/
theorem assemble_append {first second : String} {limits : Limits} {a b : Image} {p q : Program}
    (ha : assemble first limits = .ok a) (hb : assemble second limits = .ok b)
    (hp : Program.Reads (Text.lines first.toList) p)
    (hq : Program.Reads (Text.lines second.toList) q)
    (apart : ∀ name ∈ p.labels, name ∉ q.labels)
    (few : p.labels.length + q.labels.length ≤ limits.symbols)
    (room : a.size + b.size < 0xd000) :
    assemble (first ++ "\n" ++ second) limits = .ok ⟨0x3000, a.words ++ b.words⟩ := by
  obtain ⟨p', reads, wf, rfl⟩ := assemble_eq_ok_iff.1 ha
  cases reads.unique hp
  obtain ⟨q', reads', wf', rfl⟩ := assemble_eq_ok_iff.1 hb
  cases reads'.unique hq
  have sizes : p.size + q.size < 0xd000 := by
    rw [← Program.length_words, ← Program.length_words]
    exact room
  obtain ⟨tail, blank, both⟩ := Program.exists_reads_append hp hq
  have wfp : (p ++ tail).WellFormed limits := wf.append_blank blank (by omega)
  have labels : (p ++ tail).labels = p.labels := by
    rw [Program.labels_append, Program.labels_of_blank blank, List.append_nil]
  have size : (p ++ tail).size = p.size := by
    rw [Program.size_append, Program.size_of_blank blank, Nat.add_zero]
  have wfpq : (p ++ tail ++ q).WellFormed limits :=
    wfp.append wf' (by rwa [labels]) (by rwa [labels]) (by rwa [size])
  have words : (p ++ tail ++ q).words = p.words ++ q.words := by
    rw [Program.words_append wfp.resolvable wf'.resolvable wfpq.distinct,
      Program.words_append wf.resolvable (Program.wellFormed_of_blank blank limits).resolvable
        wfp.distinct, Program.words_of_blank blank, List.append_nil]
  refine assemble_eq_ok_iff.2 ⟨_, ?_, wfpq, by rw [words]; rfl⟩
  simpa using both

/-- A branch to its own line, and behind it a line that loads its own address. -/
theorem assemble_append_loop :
    assemble "x: br x" = .ok ⟨0x3000, [0x01ff]⟩ ∧
    assemble "y: lea %r0 y" = .ok ⟨0x3000, [0xe1ff]⟩ ∧
    assemble ("x: br x" ++ "\n" ++ "y: lea %r0 y") = .ok ⟨0x3000, [0x01ff, 0xe1ff]⟩ := by
  have first : assemble "x: br x" = .ok ⟨0x3000, [0x01ff]⟩ := by decide +kernel
  have second : assemble "y: lea %r0 y" = .ok ⟨0x3000, [0xe1ff]⟩ := by decide +kernel
  have reads : Program.Reads (Text.lines "x: br x".toList)
      [⟨some "x", some (.operation (.br 0 (.label "x")))⟩] := by
    rw [show Text.lines "x: br x".toList = ["x: br x".toList] by decide +kernel]
    exact .cons (by unfold Statement.Reads; decide +kernel) .nil
  have reads' : Program.Reads (Text.lines "y: lea %r0 y".toList)
      [⟨some "y", some (.operation (.lea ⟨0⟩ (.label "y")))⟩] := by
    rw [show Text.lines "y: lea %r0 y".toList = ["y: lea %r0 y".toList] by decide +kernel]
    exact .cons (by unfold Statement.Reads; decide +kernel) .nil
  exact ⟨first, second, assemble_append first second reads reads' (by decide) (by decide) (by decide)⟩

end Sixteen
