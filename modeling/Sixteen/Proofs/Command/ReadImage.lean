import Sixteen.Command.Execute
import Sixteen.Command.World
import Sixteen.Proofs.Image.Forms
import Sixteen.Proofs.Program.Assembly
import Mathlib

/-!
# Reading images from files

* `Command.run_readImage` : what is read is decided by the bytes of the file;
* `Command.readImage_form_iff` : an image is read back from its text form, and from its binary form
  exactly if that does not look like text.
-/

namespace Sixteen

namespace Command

theorem run_readImage {w w' : World} {path : String} {bytes : List UInt8}
    (h : w.read path = .ok (bytes, w')) :
    (readImage path : ExceptT CommandError (StateM World) Image).run w =
      ((Image.ofFile? bytes).elim (.error (.notImage path)) .ok, w') := by
  have opened : (Host.readFile path : StateM World _) w = (.ok bytes, w') := by
    simp only [Host.readFile, h]
  unfold readImage readBytes
  simp only [bind, ExceptT.bind, ExceptT.mk, ExceptT.run, StateT.bind, Functor.map, StateT.map,
    opened, Except.mapError, ExceptT.bindCont, pure]
  cases Image.ofFile? bytes with
  | some image => rfl
  | none => rfl

/-- An image is read back from its text form. It is read back from its binary form exactly if the
bytes of that are no text with the header of text images in it. What is assembled fits memory. -/
theorem readImage_form_iff (o : Image) (w : World) (path : String) :
    (∀ source limits, assemble source limits = .ok o → o.Fits) ∧
    (o.Fits → w.read path = .ok (imageBytes true o, w) →
      (readImage path : ExceptT CommandError (StateM World) Image).run w = (.ok o, w)) ∧
    (o.Fits → w.read path = .ok (imageBytes false o, w) →
      ((readImage path : ExceptT CommandError (StateM World) Image).run w = (.ok o, w) ↔
        ¬o.LooksLikeText)) := by
  refine ⟨?_, ?_, ?_⟩
  · intro source limits h
    exact Image.fits_of_assemble h
  · intro fits h
    rw [run_readImage h, imageBytes, if_pos rfl, Image.ofFile?_toText fits]
    rfl
  · intro fits h
    rw [run_readImage h, imageBytes, if_neg Bool.false_ne_true,
      ← Image.ofFile?_toBytes_eq_some_iff fits]
    cases Image.ofFile? o.toBytes with
    | none => exact ⟨nofun, nofun⟩
    | some image =>
      constructor
      · intro read
        cases read
        rfl
      · intro same
        cases same
        rfl

/-- An image whose words are the header of text images. -/
def headerData : Image :=
  ⟨0x3000, [0x5831, 0x3620, 0x4f42, 0x4a20, 0x4649, 0x4c45]⟩

/-- The image of a program that is not read back from its binary form. -/
theorem readImage_headerData :
    assemble "val 0x5831\nval 0x3620\nval 0x4f42\nval 0x4a20\nval 0x4649\nval 0x4c45" =
        .ok headerData ∧
      headerData.Fits ∧
      World.read { files := [("x", imageBytes false headerData)] } "x" =
        .ok (imageBytes false headerData, { files := [("x", imageBytes false headerData)] }) ∧
      (readImage "x" : ExceptT CommandError (StateM World) Image).run
          { files := [("x", imageBytes false headerData)] } =
        (.error (.notImage "x"), { files := [("x", imageBytes false headerData)] }) := by
  have opened : World.read { files := [("x", imageBytes false headerData)] } "x" =
      .ok (imageBytes false headerData, { files := [("x", imageBytes false headerData)] }) := by
    have located : World.locate { files := [("x", imageBytes false headerData)] } .reading "x" =
        .ok "x" := by cbv
    rw [World.read, located]
    rfl
  have refused : Image.ofFile? (imageBytes false headerData) = none := by decide +kernel
  refine ⟨by decide +kernel, by decide, opened, ?_⟩
  rw [run_readImage opened, refused]
  rfl

end Command

end Sixteen
