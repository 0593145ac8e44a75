import Sixteen.Proofs.Checked.Assembly
import Sixteen.Proofs.Checked.Image
import Sixteen.Proofs.Checked.Machine

/-!
# No check fails

The host has addresses of 64 bits, and no value in its memory takes more bytes than a signed number
of 64 bits can tell. This bounds the texts, the byte strings and the blocks of words that a program
can be given, and it is all that is asked of them. An image need not fit in memory, and the state of
a simulator is arbitrary as long as one more instruction can be counted.

* `Checked.hostBytes` : how many bytes a value has at most;
* `Checked.NoViolation` : no function of the library fails a check, over a console;
* `Checked.no_violation` : this is so over every console.
-/

namespace Sixteen.Checked

/-- The most bytes that one value of the host takes. -/
def hostBytes : Nat :=
  2 ^ 63 - 1

/-- No check fails, whatever the library is given. Under checks it computes what it computes without
them. -/
structure NoViolation (m : Type → Type) [Monad m] [Console m] : Prop where
  assembling (source : String) (limits : Limits) (held : source.utf8ByteSize ≤ hostBytes) :
    assemble source limits = .ok (Sixteen.assemble source limits)
  reporting {source : String} {limits : Limits} {e : AssemblyError}
    (refused : Sixteen.assemble source limits = .error e) : report e = .ok (Sixteen.report e)
  listing (origin : Word) (words : List Word) (held : 2 * words.length ≤ hostBytes) :
    disassemble origin words = .ok (Sixteen.disassemble origin words)
  readingBytes (bytes : List UInt8) (held : bytes.length ≤ hostBytes) :
    ofBytes? bytes = .ok (Image.ofBytes? bytes)
  readingText (text : String) (held : text.utf8ByteSize ≤ hostBytes) :
    ofText? text.toList = .ok (Image.ofText? text.toList)
  /-- The image may be longer than memory is behind its origin. -/
  loading (s : Simulator) (image : Image) (held : 2 * image.words.length ≤ hostBytes) :
    load s image = .ok (s.load image)
  /-- The machine is in any state, and what the console answers is its own matter. -/
  stepping (s : Simulator) (countable : s.count < 2 ^ 64 - 1) :
    (step s : ExceptT Violation m _).run = Except.ok <$> s.step

/-- A text has no more characters than bytes. -/
theorem length_toList_le (text : String) : text.toList.length ≤ text.utf8ByteSize := by
  have := Utf8.length_le_utf8ByteSize text.toList
  rwa [String.ofList_toList] at this

/-- No check fails, over any console. -/
theorem no_violation (m : Type → Type) [Monad m] [LawfulMonad m] [Console m] : NoViolation m where
  assembling source limits held := by
    have length := length_toList_le source
    unfold hostBytes at held
    exact assemble_eq (by omega) limits
  reporting refused := report_eq refused
  listing origin words held := by
    unfold hostBytes at held
    exact disassemble_eq origin (by omega)
  readingBytes bytes held := by
    unfold hostBytes at held
    exact ofBytes?_eq (by omega)
  readingText text held := by
    have length := length_toList_le text
    unfold hostBytes at held
    exact ofText?_eq (by omega)
  loading s image held := by
    unfold hostBytes at held
    exact load_eq s (by omega)
  stepping s countable := step_eq countable

/-- Over a console with buffers no check fails for an immediate that is out of range, for an image
that ends with memory or would end behind it, or for the last instruction that can be counted. -/
theorem no_violation_edges :
    NoViolation (StateM Console.Buffered) ∧
    assemble "add %r1 %r1 $16" = .ok (.error ⟨1, .range (.signed 5)⟩) ∧
    report ⟨1, .range (.signed 5)⟩ =
      .ok ("line 1: value is too big for signed 5-bit integer" ++
        "\n  help: the range for a signed 5-bit integer is [-16, 15]") ∧
    disassemble 0xffff [0x8000] = .ok (Sixteen.disassemble 0xffff [0x8000]) ∧
    ofBytes? [0xff, 0xff, 0xf0, 0x25] = .ok (some ⟨0xffff, [0xf025]⟩) ∧
    ofText? "X16 OBJ FILE\nffff\nf025\n1021".toList = .ok none ∧
    ∃ s : Simulator, s.count = 2 ^ 64 - 2 ∧
      load s ⟨0xffff, [0xf025, 0x1021]⟩ = .ok (s.load ⟨0xffff, [0xf025, 0x1021]⟩) ∧
      (step s : ExceptT Violation (StateM Console.Buffered) _).run = Except.ok <$> s.step := by
  have safe := no_violation (StateM Console.Buffered)
  have refused : Sixteen.assemble "add %r1 %r1 $16" =
      .error ⟨1, .range (.signed 5)⟩ := by
    decide +kernel
  refine ⟨safe, ?assembled, ?reported, safe.listing _ _ (by decide), ?bytes, ?text,
    { machine := .new .zeroed, fill := .zeroed, count := 2 ^ 64 - 2 }, rfl,
    safe.loading _ _ (by decide), safe.stepping _ (by decide)⟩
  case assembled => rw [safe.assembling _ _ (by decide), refused]
  case reported =>
    rw [safe.reporting refused]
    decide +kernel
  case bytes =>
    rw [safe.readingBytes _ (by decide)]
    decide +kernel
  case text =>
    rw [safe.readingText _ (by decide)]
    decide +kernel

end Sixteen.Checked
