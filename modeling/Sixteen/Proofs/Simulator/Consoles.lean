import Sixteen.Proofs.Simulator.Calls
import Sixteen.Proofs.Simulator.History

/-!
# The choice of a console

Two consoles that answer alike cannot be told apart by a machine: the systems with them go from step
to step together. A console at the ends of two channels answers like a buffer that holds the bytes
that were sent, whether anybody listens to its output or not, and a console without input like an
empty buffer.

* `Console.Simulates`, `System.Alike` : consoles that answer alike, and systems that do the same;
* `Simulates.alike` : systems with consoles that answer alike do the same;
* `Console.Channels`, `Console.Linked` : the ends of two channels, and the console that holds them;
* `Channels.Delivers`, `Channels.Hears` : what is documented of channels without a bound, for the
  end where bytes come in and for the end where they go out; `Channels.queues` and
  `Channels.switched` are such channels, and a `Channel` holds the ends of the latter;
* `System.alike_linked` : any such channels do what a buffer does;
* `System.alike_buffered` : so do all consoles without a buffer of their own.
-/

namespace Sixteen

variable {σ τ : Type} [Console (StateM σ)] [Console (StateM τ)]

/-! ## Consoles that answer alike -/

/-- Consoles that are related give the same answers, and are related after them. -/
structure Console.Simulates (R : σ → τ → Prop) : Prop where
  read : ∀ {c d}, R c d → (Console.read c).1 = (Console.read d).1 ∧
    R (Console.read c).2 (Console.read d).2
  write : ∀ bytes {c d}, R c d → (Console.write bytes c).1 = (Console.write bytes d).1 ∧
    R (Console.write bytes c).2 (Console.write bytes d).2

namespace System

/-- The steps of two systems end alike, and leave the same simulators. -/
structure Alike (x : System σ) (y : System τ) : Prop where
  result : ∀ n, (x.after n).result = (y.after n).result
  simulator : ∀ n, (x.after n).simulator = (y.after n).simulator

theorem Alike.trans {υ : Type} [Console (StateM υ)] {x : System σ} {y : System τ} {z : System υ}
    (first : Alike x y) (second : Alike y z) : Alike x z where
  result n := (first.result n).trans (second.result n)
  simulator n := (first.simulator n).trans (second.simulator n)

/-- Two systems have the same simulator, and related consoles. -/
structure Related (R : σ → τ → Prop) (x : System σ) (y : System τ) : Prop where
  simulator : x.simulator = y.simulator
  console : R x.console y.console

end System

namespace Console.Simulates

open Sixteen.System (Related Alike)

variable {R : σ → τ → Prop} {x : System σ} {y : System τ}

/-- Answers that are the same, from consoles that are related then. -/
theorem read_cases (sim : Simulates R) {c : σ} {d : τ} (h : R c d) :
    ∃ answer c' d', Console.read c = (answer, c') ∧ Console.read d = (answer, d') ∧ R c' d' :=
  ⟨_, _, _, rfl, Prod.ext (sim.read h).1.symm rfl, (sim.read h).2⟩

theorem write_cases (sim : Simulates R) (bytes : List UInt8) {c : σ} {d : τ} (h : R c d) :
    ∃ answer c' d', Console.write bytes c = (answer, c') ∧ Console.write bytes d = (answer, d') ∧
      R c' d' :=
  ⟨_, _, _, rfl, Prod.ext (sim.write bytes h).1.symm rfl, (sim.write bytes h).2⟩

/-- A service makes the same calls of both consoles, and gets the same answers. -/
theorem serve (sim : Simulates R) (h : Related R x y) (service : Service) :
    (x.serve service).1 = (y.serve service).1 ∧ R (x.serve service).2 (y.serve service).2 := by
  have related := h.console
  cases bytes : service.bytes? x.simulator.moved.machine with
  | some written =>
    obtain ⟨answer, c, d, left, right, related⟩ := sim.write_cases written related
    rw [System.serve_of_bytes bytes, System.serve_of_bytes (h.simulator ▸ bytes), left, right,
      ← h.simulator]
    cases answer <;> exact ⟨rfl, related⟩
  | none =>
    cases service with
    | getc =>
      obtain ⟨answer, c, d, left, right, related⟩ := sim.read_cases related
      rw [System.serve_getc, System.serve_getc, left, right, ← h.simulator]
      cases answer <;> exact ⟨rfl, related⟩
    | enter =>
      rw [System.serve_enter, System.serve_enter, ← h.simulator]
      obtain ⟨prompted, c, d, left, right, related⟩ := sim.write_cases Service.prompt related
      rw [left, right]
      cases prompted with
      | error e => exact ⟨rfl, related⟩
      | ok done =>
        obtain ⟨answered, c, d, left, right, related⟩ := sim.read_cases related
        simp only [left, right]
        cases answered with
        | error e => exact ⟨rfl, related⟩
        | ok b =>
          obtain ⟨echoed, c, d, left, right, related⟩ := sim.write_cases [b, 0x0a] related
          simp only [left, right]
          cases echoed <;> exact ⟨rfl, related⟩
    | putc | puts | putsp | halt => cases bytes

/-- The word that is fetched is the same, and decides what is asked of the consoles. -/
theorem step (sim : Simulates R) (h : Related R x y) :
    x.result = y.result ∧ Related R x.next y.next := by
  have same := h.simulator
  unfold System.result System.next
  cases decoded : Instr.decode? x.simulator.fetch with
  | error op =>
    rw [System.step_of_reserved decoded, System.step_of_reserved (same ▸ decoded), ← same]
    exact ⟨rfl, rfl, h.console⟩
  | ok i =>
    by_cases plain : i.opcode ≠ .trap
    · rw [System.step_of_plain decoded plain, System.step_of_plain (same ▸ decoded) plain, ← same]
      exact ⟨rfl, rfl, h.console⟩
    obtain ⟨v, rfl⟩ := Instr.eq_trap_of_opcode (not_not.1 plain)
    cases found : Service.ofVector? v with
    | none =>
      rw [System.step_of_unknown decoded found, System.step_of_unknown (same ▸ decoded) found,
        ← same]
      exact ⟨rfl, rfl, h.console⟩
    | some service =>
      obtain ⟨answers, related⟩ := sim.serve h service
      rw [System.step_of_service decoded found, System.step_of_service (same ▸ decoded) found,
        ← same]
      generalize x.serve service = left, y.serve service = right at answers related
      obtain ⟨answer, c⟩ := left
      obtain ⟨_, d⟩ := right
      subst answers
      rcases answer with ⟨_ | status, machine⟩ <;> exact ⟨rfl, rfl, related⟩

theorem after (sim : Simulates R) (h : Related R x y) (n : Nat) :
    Related R (x.after n) (y.after n) := by
  induction n with
  | zero => exact h
  | succ n ih =>
    rw [System.after_succ, System.after_succ]
    exact (sim.step ih).2

theorem alike (sim : Simulates R) (h : Related R x y) : Alike x y where
  result n := (sim.step (sim.after h n)).1
  simulator n := (sim.after h n).simulator

end Console.Simulates

/-! ## Channels -/

namespace Console

/-- The ends of two channels: bytes come in at `ι` and go out at `ο`. -/
structure Channels (ι ο : Type) where
  /-- Waits for a byte. There is none if none will ever come. -/
  receive : ι → Option UInt8 × ι
  /-- Sends a byte, and tells whether it could be sent. -/
  send : UInt8 → ο → Bool × ο

/-- Sends bytes one by one, up to the first that cannot be sent. -/
def Channels.sendAll {ι ο : Type} (ends : Channels ι ο) : List UInt8 → ο → ο
  | [], out => out
  | b :: rest, out => match ends.send b out with
    | (true, out) => sendAll ends rest out
    | (false, out) => out

/-- A console that holds the ends of two channels. It does not matter to it whether anybody is there
to take its output. -/
structure Linked {ι ο : Type} (ends : Channels ι ο) where
  input : ι
  output : ο

instance {ι ο : Type} (ends : Channels ι ο) : Console (StateM (Linked ends)) where
  readByte := fun ⟨input, output⟩ => match ends.receive input with
    | (some b, input) => (.ok b, ⟨input, output⟩)
    | (none, input) => (.error .closed, ⟨input, output⟩)
  writeBytes bytes := fun ⟨input, output⟩ => (.ok (), ⟨input, ends.sendAll bytes output⟩)

namespace Channels

variable {ι ο : Type} {ends : Channels ι ο} {queued : ι → List UInt8} {listening : ο → Prop}
  {heard : ο → List UInt8}

/-- What is documented of the end where bytes come in: they come in the order in which they were
sent, and one is missed only if none is left and all who could send are gone. `queued` are the bytes
that are still to come. -/
structure Delivers (ends : Channels ι ο) (queued : ι → List UInt8) : Prop where
  next : ∀ inp b rest, queued inp = b :: rest →
    ∃ inp', ends.receive inp = (some b, inp') ∧ queued inp' = rest
  gone : ∀ inp, queued inp = [] → ∃ inp', ends.receive inp = (none, inp') ∧ queued inp' = []

/-- What is documented of the end where bytes go out: they can be sent as long as there is a
receiver, which hears them in the order in which they were sent. Nothing is said of a channel
without one. -/
structure Hears (ends : Channels ι ο) (listening : ο → Prop) (heard : ο → List UInt8) : Prop where
  sent : ∀ b out, listening out →
    ∃ out', ends.send b out = (true, out') ∧ listening out' ∧ heard out' = heard out ++ [b]

theorem Hears.sendAll (hears : ends.Hears listening heard) (bytes : List UInt8) {out : ο}
    (h : listening out) : listening (ends.sendAll bytes out) ∧
      heard (ends.sendAll bytes out) = heard out ++ bytes := by
  induction bytes generalizing out with
  | nil => exact ⟨h, (List.append_nil _).symm⟩
  | cons b rest ih =>
    obtain ⟨out', sent, still, has⟩ := hears.sent b out h
    obtain ⟨still, all⟩ := ih still
    simp only [Channels.sendAll, sent]
    exact ⟨still, by rw [all, has, List.append_assoc, List.singleton_append]⟩

/-- Channels whose ends are the bytes on their way, with a receiver that stays. -/
def queues : Channels (List UInt8) (List UInt8) where
  receive bytes := (bytes.head?, bytes.tail)
  send b bytes := (true, bytes ++ [b])

/-- Channels whose receiver is there or not, and keeps what it hears. -/
def switched : Channels (List UInt8) (Bool × Array UInt8) where
  receive := queues.receive
  send b out := (out.1, out.1, if out.1 then out.2.push b else out.2)

theorem delivers_of_queue {ends : Channels (List UInt8) ο} (h : ends.receive = queues.receive) :
    ends.Delivers id where
  next := by
    rintro _ b rest rfl
    exact ⟨rest, by rw [h]; rfl, rfl⟩
  gone := by
    rintro _ rfl
    exact ⟨[], by rw [h]; rfl, rfl⟩

theorem hears_queues : queues.Hears (fun _ => True) id :=
  ⟨fun b out _ => ⟨out ++ [b], rfl, trivial, rfl⟩⟩

theorem hears_switched : switched.Hears (·.1 = true) (·.2.toList) where
  sent := by
    rintro b ⟨_, out⟩ rfl
    exact ⟨(true, out.push b), rfl, rfl, Array.toList_push⟩

theorem sendAll_switched (bytes : List UInt8) (listening : Bool) (out : Array UInt8) :
    switched.sendAll bytes (listening, out) =
      (listening, if listening then out ++ bytes else out) := by
  cases listening with
  | false => cases bytes <;> rfl
  | true =>
    induction bytes generalizing out with
    | nil => simp [sendAll]
    | cons b rest ih =>
      show switched.sendAll rest (true, out.push b) = _
      rw [ih]
      simp

/-! ## Consoles that answer like a buffer -/

/-- The bytes that are still to come are those of the buffer; and if there was a receiver at first,
it is still there, and has heard what is in the buffer after what it had heard `before`. -/
def Matches (ends : Channels ι ο) (queued : ι → List UInt8) (listening : ο → Prop)
    (heard : ο → List UInt8) (alive : Prop) (before : List UInt8) (c : Linked ends) (d : Buffered) :
    Prop :=
  queued c.input = d.input ∧
    (alive → listening c.output ∧ heard c.output = before ++ d.output.toList)

theorem simulates_linked (delivers : ends.Delivers queued) (hears : ends.Hears listening heard)
    (alive : Prop) (before : List UInt8) :
    Simulates (Matches ends queued listening heard alive before) where
  read := by
    rintro ⟨inp, out⟩ ⟨_ | ⟨b, rest⟩, written⟩ ⟨input, output⟩
    · obtain ⟨inp', missed, still⟩ := delivers.gone inp input
      have called : Console.read (⟨inp, out⟩ : Linked ends) = (.error .closed, ⟨inp', out⟩) := by
        show (match ends.receive inp with | (some b, inp) => _ | (none, inp) => _) = _
        rw [missed]
      rw [called]
      exact ⟨rfl, still, output⟩
    · obtain ⟨inp', came, still⟩ := delivers.next inp b rest input
      have called : Console.read (⟨inp, out⟩ : Linked ends) = (.ok b, ⟨inp', out⟩) := by
        show (match ends.receive inp with | (some b, inp) => _ | (none, inp) => _) = _
        rw [came]
      rw [called]
      exact ⟨rfl, still, output⟩
  write := by
    rintro bytes ⟨inp, out⟩ ⟨input, written⟩ ⟨same, output⟩
    refine ⟨rfl, same, fun h => ?_⟩
    obtain ⟨there, has⟩ := output h
    obtain ⟨still, all⟩ := hears.sendAll bytes there
    refine ⟨still, ?_⟩
    show heard (ends.sendAll bytes out) = before ++ (written ++ bytes).toList
    rw [all, has, Array.toList_appendList, List.append_assoc]

end Channels

/-- The ends that a `Channel` holds. -/
def Channel.ends (c : Channel) : Linked Channels.switched :=
  ⟨c.input, c.listening, c.output⟩

theorem simulates_channel : Simulates fun (c : Channel) (d : Linked Channels.switched) =>
    d = c.ends where
  read := by
    rintro ⟨_ | ⟨b, rest⟩, out, listening⟩ _ rfl <;> exact ⟨rfl, rfl⟩
  write := by
    rintro bytes ⟨input, out, listening⟩ _ rfl
    refine ⟨rfl, ?_⟩
    show Linked.mk input (Channels.switched.sendAll bytes (listening, out)) = _
    rw [Channels.sendAll_switched]
    rfl

theorem simulates_null : Simulates fun (_ : Null) (d : Buffered) => d.input = [] where
  read := by
    rintro _ ⟨_, written⟩ rfl
    exact ⟨rfl, rfl⟩
  write := by
    rintro bytes _ ⟨_, written⟩ rfl
    exact ⟨rfl, rfl⟩

end Console

/-! ## Whole runs -/

open Console (Buffered Channel Null Channels Linked)

/-- A system with a buffer that holds `input`. -/
abbrev Simulator.buffered (s : Simulator) (input : List UInt8) : System Buffered :=
  ⟨s, { input }⟩

/-- Over any number of steps a simulator does with channels what it does with a buffer that holds
what is still to come, and a receiver that is there hears what is in the buffer. -/
theorem System.alike_linked (s : Simulator) {ι ο : Type} {ends : Channels ι ο}
    {queued : ι → List UInt8} {listening : ο → Prop} {heard : ο → List UInt8}
    (delivers : ends.Delivers queued) (hears : ends.Hears listening heard) (inp : ι) (out : ο) :
    Alike ⟨s, (⟨inp, out⟩ : Linked ends)⟩ (s.buffered (queued inp)) ∧
      (listening out → ∀ n, heard (after ⟨s, (⟨inp, out⟩ : Linked ends)⟩ n).console.output =
        heard out ++ ((s.buffered (queued inp)).after n).console.output.toList) := by
  have sim := Channels.simulates_linked delivers hears (listening out) (heard out)
  have start : Related (Channels.Matches ends queued listening heard (listening out) (heard out))
      ⟨s, (⟨inp, out⟩ : Linked ends)⟩ (s.buffered (queued inp)) :=
    ⟨rfl, rfl, fun there => ⟨there, (List.append_nil _).symm⟩⟩
  exact ⟨sim.alike start, fun there n => ((sim.after start n).console.2 there).2⟩

/-- A `Channel` does so since it holds the ends of such channels. -/
theorem System.alike_channel (s : Simulator) (input : List UInt8) (listening : Bool) :
    Alike ⟨s, (⟨input, #[], listening⟩ : Channel)⟩ (s.buffered input) ∧
      (listening = true → ∀ n,
        (after ⟨s, (⟨input, #[], listening⟩ : Channel)⟩ n).console.output =
          ((s.buffered input).after n).console.output) := by
  have delivers : Channels.switched.Delivers id := Channels.delivers_of_queue rfl
  obtain ⟨alike, heard⟩ := alike_linked s delivers Channels.hears_switched input (listening, #[])
  have start : Related (fun (c : Channel) (d : Linked Channels.switched) => d = c.ends)
      ⟨s, ⟨input, #[], listening⟩⟩ ⟨s, ⟨input, listening, #[]⟩⟩ := ⟨rfl, rfl⟩
  refine ⟨(Console.simulates_channel.alike start).trans alike, fun there n => ?_⟩
  have output := heard there n
  rw [(Console.simulates_channel.after start n).console] at output
  exact Array.toList_inj.1 output

/-- Over any number of steps a simulator does with channels what it does with a buffer that holds
what was sent to it, and a receiver hears what is in the buffer, if there is one. Without input it
does the same with the console that has none. -/
theorem System.alike_buffered (s : Simulator) (input : List UInt8) :
    (∀ listening, Alike ⟨s, (⟨input, #[], listening⟩ : Channel)⟩ (s.buffered input) ∧
      (listening = true → ∀ n,
        (after ⟨s, (⟨input, #[], listening⟩ : Channel)⟩ n).console.output =
          ((s.buffered input).after n).console.output)) ∧
    (∀ {ι ο : Type} (ends : Channels ι ο) {queued : ι → List UInt8} {listening : ο → Prop}
      {heard : ο → List UInt8}, ends.Delivers queued → ends.Hears listening heard →
      ∀ inp out, queued inp = input →
        Alike ⟨s, (⟨inp, out⟩ : Linked ends)⟩ (s.buffered input) ∧
        (listening out → ∀ n, heard (after ⟨s, (⟨inp, out⟩ : Linked ends)⟩ n).console.output =
          heard out ++ ((s.buffered input).after n).console.output.toList)) ∧
    (input = [] → Alike ⟨s, (⟨⟩ : Null)⟩ (s.buffered input)) := by
  refine ⟨alike_channel s input, fun ends queued listening heard delivers hears inp out same => ?_,
    ?_⟩
  · rw [← same]
    exact alike_linked s delivers hears inp out
  · rintro rfl
    exact Console.simulates_null.alike ⟨rfl, rfl⟩

/-- A character that is asked for, over channels whose ends are lists. -/
theorem System.alike_buffered_enter :
    ∃ s : Simulator, s.fetch = 0xf023 ∧
      Alike ⟨s, (⟨[0x71], []⟩ : Linked Channels.queues)⟩ (s.buffered [0x71]) ∧
      (after ⟨s, (⟨[0x71], []⟩ : Linked Channels.queues)⟩ 1).console.output =
        Service.prompt ++ [0x71, 0x0a] ∧
      (after ⟨s, (⟨[0x71], #[], true⟩ : Channel)⟩ 1).console.output.toList =
        Service.prompt ++ [0x71, 0x0a] ∧
      Alike ⟨s, (⟨⟩ : Null)⟩ (s.buffered []) := by
  obtain ⟨s, fetched⟩ : ∃ s : Simulator, s.fetch = 0xf023 :=
    ⟨{ machine := (Machine.new .zeroed).write 0x3000 0xf023, fill := .zeroed },
      Memory.read_write_self _ _ _⟩
  have written : ((s.buffered [0x71]).after 1).console.output.toList =
      Service.prompt ++ [0x71, 0x0a] := by
    have request : (s.buffered [0x71]).request = some .enter := by
      rw [request, fetched]
      decide
    have output := (s.buffered [0x71]).transfers.output
    rw [contribution, request] at output
    exact output
  obtain ⟨channel, linked, -⟩ := alike_buffered s [0x71]
  obtain ⟨alike, heard⟩ :=
    linked Channels.queues (Channels.delivers_of_queue rfl) Channels.hears_queues [0x71] [] rfl
  refine ⟨s, fetched, alike, ?_, ?_, (alike_buffered s []).2.2 rfl⟩
  · rw [← written]
    exact heard trivial 1
  · rw [(channel true).2 rfl 1, written]

end Sixteen
