import Sixteen.Command.World
import Mathlib.Data.String.Basic

/-!
# Names as paths

* `splitOn_slash` : a name without a slash is all of its parts;
* `IsName`, `World.locate_of_isName` : the name of a file in the directory leads to this file, whatever
  the files are.
-/

namespace Sixteen.Command

/-! ## Parts of a path -/

/-- From a place between `front` and `back` on, nothing is split where there is no slash. -/
theorem splitOnAux_slash {front back : List Char} (h : '/' ∉ back) :
    (String.ofList (front ++ back)).splitOnAux "/" 0 ⟨String.utf8Len front⟩ 0 [] =
      [String.ofList (front ++ back)] := by
  induction back generalizing front with
  | nil =>
    have atEnd : String.Pos.Raw.atEnd (String.ofList (front ++ [])) ⟨String.utf8Len front⟩ :=
      (String.atEnd_of_valid front []).2 rfl
    have whole := String.extract_of_valid [] front []
    simp only [List.nil_append, List.append_nil, String.utf8Len_nil, Nat.zero_add] at whole atEnd ⊢
    rw [String.splitOnAux, if_pos atEnd]
    exact congrArg (fun part => [part]) whole
  | cons c rest ih =>
    have more : ¬String.Pos.Raw.atEnd (String.ofList (front ++ c :: rest)) ⟨String.utf8Len front⟩ :=
      fun atEnd => List.cons_ne_nil c rest ((String.atEnd_of_valid front (c :: rest)).1 atEnd)
    have here := String.get_of_valid front (c :: rest)
    have next : String.Pos.Raw.next (String.ofList (front ++ c :: rest))
        (String.Pos.Raw.unoffsetBy ⟨String.utf8Len front⟩ 0) = ⟨String.utf8Len (front ++ [c])⟩ := by
      rw [String.utf8Len_append, String.utf8Len_cons, String.utf8Len_nil, Nat.zero_add]
      exact String.next_of_valid front c rest
    have other : ¬((c :: rest).headD default == String.Pos.Raw.get "/" 0) = true := by
      have slash : String.Pos.Raw.get "/" 0 = '/' := by decide
      rw [slash, List.headD_cons, beq_iff_eq]
      rintro rfl
      exact h List.mem_cons_self
    rw [String.splitOnAux, if_neg more, here, if_neg other, next]
    have split := @ih (front ++ [c]) fun mem => h (List.mem_cons_of_mem c mem)
    rwa [List.append_assoc] at split

theorem splitOn_slash {name : String} (h : '/' ∉ name.toList) : name.splitOn "/" = [name] := by
  have split := @splitOnAux_slash [] _ h
  rwa [List.nil_append, String.ofList_toList] at split

/-! ## Names -/

/-- The name of a file in the directory, rather than a way there. -/
structure IsName (name : String) : Prop where
  nonempty : name ≠ ""
  noSlash : '/' ∉ name.toList
  notHere : name ≠ "."
  notUp : name ≠ ".."
  short : name.utf8ByteSize ≤ World.maxName

namespace World

theorem locate_of_isName {name : String} (h : IsName name) (w : World) (access : Access) :
    w.locate access name = .ok name := by
  have nonempty : name.isEmpty = false := by simpa using h.nonempty
  have short : ¬maxPath < name.utf8ByteSize := by
    have := h.short
    unfold maxName at this
    unfold maxPath
    omega
  have first : name.startsWith "/" = false := by
    rw [Bool.eq_false_iff, ne_eq, String.startsWith_string_iff]
    exact fun front => h.noSlash (front.subset (by decide))
  have last : name.endsWith "/" = false := by
    rw [Bool.eq_false_iff, ne_eq, ← String.endsWith_toSlice, String.Slice.endsWith_string_iff,
      String.copy_toSlice]
    exact fun back => h.noSlash (back.subset (by decide))
  have names : [name].filter (· ≠ "") = [name] := by simp [h.nonempty]
  rw [locate, nonempty, if_neg Bool.false_ne_true, if_neg short, first, last,
    splitOn_slash h.noSlash, names, if_neg Bool.false_ne_true, follow, if_neg h.notHere,
    if_neg h.notUp]
  simp only [Directory.sub?, Bool.false_eq_true, false_and, and_false, ne_eq, not_true_eq_false,
    or_self, if_false]
  rw [if_neg (Nat.not_lt.2 h.short)]
  exact congrArg Except.ok String.empty_append

theorem ofPath?_of_isName {name : String} (h : IsName name) : Device.ofPath? name = none := by
  unfold Device.ofPath?
  split <;> first | rfl | exact absurd h.noSlash (by decide)

end World

end Sixteen.Command
