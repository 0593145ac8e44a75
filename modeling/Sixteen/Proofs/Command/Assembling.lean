import Sixteen.Command.Execute
import Sixteen.Proofs.Command.Paths
import Sixteen.Proofs.Image.Forms
import Sixteen.Proofs.Program.Assembly

/-!
# Assembling files

A program is assembled before anything is written, so the output is there as a whole or was not
touched. The two forms of an image are written by the same command and differ in nothing else but the
bytes and the wording of faults of files.

* `World.Logged`, `OnlyLogs` : what logging leaves as it was, and computations that do nothing else;
* `World.text` : the text of a file (`run_readText`);
* `Ends` : the result of a computation and the files after it, with a rule for each step of a command;
* `ends_assembleFile_unread`, `ends_assembleFile_faulty`, `ends_assembleFile_unwritten`,
  `ends_assembleFile_written` : the four ways that assembling can end;
* `Fails`, `Writes` : a command fails with a message, or writes one file;
* `assemble_all_or_nothing` : what becomes of the files and of the log in each of the four.
-/

namespace Sixteen.Command

/-! ## Runs -/

section
variable {α β : Type} {w w' : World}

/-- A computation over a world that may fail. -/
abbrev Run (α : Type) := ExceptT CommandError (StateM World) α

theorem run_bind_ok {m : Run α} {f : α → Run β} {a : α} (h : m.run w = (.ok a, w')) :
    (m >>= f).run w = (f a).run w' := by
  simp only [bind, ExceptT.bind, ExceptT.mk, ExceptT.run, StateT.bind] at h ⊢
  rw [h]
  rfl

theorem run_bind_error {m : Run α} {f : α → Run β} {e : CommandError}
    (h : m.run w = (.error e, w')) : (m >>= f).run w = (.error e, w') := by
  simp only [bind, ExceptT.bind, ExceptT.mk, ExceptT.run, StateT.bind] at h ⊢
  rw [h]
  rfl

end

/-! ## Logging -/

namespace World

/-- The log has grown by a text. Files, and what has been written to the console, are as they were. -/
structure Logged (w : World) (said : String) (w' : World) : Prop where
  files : w'.files = w.files
  output : w'.console.output = w.console.output
  log : w'.log = w.log ++ said

/-- The world after a text was added to the log. -/
def say (w : World) (said : String) : World :=
  { w with log := w.log ++ said }

variable {w w' w'' : World} {said said' : String}

theorem logged_say (w : World) (said : String) : Logged w said (w.say said) :=
  ⟨rfl, rfl, rfl⟩

theorem Logged.trans (h : Logged w said w') (h' : Logged w' said' w'') :
    Logged w (said ++ said') w'' :=
  ⟨h'.files.trans h.files, h'.output.trans h.output, by rw [h'.log, h.log, String.append_assoc]⟩

theorem say_say : (w.say said).say said' = w.say (said ++ said') := by
  rw [say, say, say, String.append_assoc]

/-- Where a path leads depends on the files only. -/
theorem follow_congr (h : w'.files = w.files) (access : Access) (slash : Bool) (d : Directory)
    (names : List String) : w'.follow access slash d names = w.follow access slash d names := by
  have obstacle : ∀ path, w'.obstacle path = w.obstacle path := by
    intro path
    rw [World.obstacle, World.obstacle, find?, find?, h]
  induction names generalizing d with
  | nil => rw [follow, follow]
  | cons name rest ih =>
    rw [follow, follow]
    simp only [ih, obstacle]

theorem locate_congr (h : w'.files = w.files) (access : Access) (path : String) :
    w'.locate access path = w.locate access path := by
  rw [locate, locate, follow_congr h]

theorem find?_congr (h : w'.files = w.files) (path : String) : w'.find? path = w.find? path := by
  rw [find?, find?, h]

theorem find?_put_of_ne {path other : String} (ne : other ≠ path) (bytes : List UInt8) :
    (w.put path bytes).find? other = w.find? other := by
  have kept : ∀ files : List (String × List UInt8),
      (files.filter (·.1 ≠ path)).lookup other = files.lookup other := by
    intro files
    induction files with
    | nil => rfl
    | cons file rest ih =>
      obtain ⟨name, contents⟩ := file
      rw [List.filter_cons, List.lookup_cons]
      by_cases gone : name = path
      · have apart : (other == name) = false := beq_false_of_ne (gone ▸ ne)
        simp only [gone, ne_eq, not_true_eq_false, decide_false, Bool.false_eq_true, if_false, ih]
        rw [← gone, apart]
      · simp only [ne_eq, gone, not_false_eq_true, decide_true, if_true]
        rw [List.lookup_cons, ih]
  have apart : (other == path) = false := beq_false_of_ne ne
  rw [find?, put, List.lookup_cons, apart, kept]
  rfl

/-- The text that the contents of a file are. -/
def textOf (bytes : List UInt8) : Except FileError String :=
  match Utf8.decode? bytes with
  | some text => .ok text
  | none => .error .notText

/-- The text of the file that a path leads to. -/
def text (w : World) (path : String) : Except FileError String :=
  match w.read path with
  | .ok (bytes, _) => textOf bytes
  | .error e => .error e

theorem textOf_encode (text : String) : textOf (Utf8.encode text) = .ok text := by
  rw [textOf, Utf8.decode?_encode]

/-- The name of a file stands for this file. -/
theorem text_of_isName {name : String} (h : IsName name) (w : World) :
    w.text name = match w.find? name with
      | some bytes => textOf bytes
      | none => .error .notFound := by
  unfold text World.read
  rw [locate_of_isName h]
  simp only [ofPath?_of_isName h]
  cases w.find? name <;> rfl

/-- Reading takes what it gives from the files or from the input of the console, and leaves the rest
alone. -/
theorem logged_of_read {path : String} {bytes : List UInt8} (h : w.read path = .ok (bytes, w')) :
    Logged w "" w' := by
  have same : Logged w "" w := ⟨rfl, rfl, String.append_empty.symm⟩
  unfold World.read at h
  split at h
  · cases h
  split at h
  · next device _ =>
    cases device <;> cases h
    case input => exact ⟨rfl, rfl, String.append_empty.symm⟩
    all_goals exact same
  · cases h
    exact same
  · cases h

/-- What is read does not depend on the log. -/
theorem text_say (w : World) (said path : String) : (w.say said).text path = w.text path := by
  have located := @locate_congr w (w.say said) rfl .reading path
  have found := @find?_congr w (w.say said) rfl
  unfold text World.read
  rw [located]
  cases w.locate .reading path with
  | error e => rfl
  | ok file =>
    simp only [found]
    cases Device.ofPath? file with
    | some device => cases device <;> rfl
    | none => cases w.find? file <;> rfl

end World

variable {w w' : World} {o : Options} {e : Entry}

/-- An entry as it is shown. -/
def Options.shown (o : Options) (e : Entry) : String :=
  if o.json then e.jsonLine else e.line

/-- A computation that logs, and does nothing else. Without any verbosity it logs nothing. -/
def OnlyLogs (o : Options) (m : Run Unit) : Prop :=
  ∀ w, ∃ said, (o.verbosity = 0 → said = "") ∧ m.run w = (.ok (), w.say said)

theorem onlyLogs_pure : OnlyLogs o (pure ()) := by
  intro w
  refine ⟨"", fun _ => rfl, ?_⟩
  rw [World.say, String.append_empty]
  rfl

theorem OnlyLogs.bind {m m' : Run Unit} (h : OnlyLogs o m) (h' : OnlyLogs o m') :
    OnlyLogs o (m >>= fun _ => m') := by
  intro w
  obtain ⟨said, quiet, run⟩ := h w
  obtain ⟨more, quiet', run'⟩ := h' (w.say said)
  refine ⟨said ++ more, fun v => by rw [quiet v, quiet' v]; rfl, ?_⟩
  rw [run_bind_ok run, run', World.say_say]

/-- What is not shown without any verbosity are all entries but errors. -/
theorem onlyLogs_logEntry (h : o.verbosity = 0 → e.level ≠ .error) : OnlyLogs o (logEntry o e) := by
  intro w
  rw [logEntry]
  split
  · next visible =>
    refine ⟨o.shown e, fun v => ?_, rfl⟩
    have other := h v
    rw [v] at visible
    cases level : e.level <;> rw [level] at visible other
    · exact absurd rfl other
    all_goals exact absurd visible (by decide)
  · exact onlyLogs_pure w

theorem onlyLogs_logDetails (entries : Unit → List Entry) : OnlyLogs o (logDetails o entries) := by
  unfold logDetails
  split
  · exact onlyLogs_pure
  · next verbose =>
    induction entries () with
    | nil => exact onlyLogs_pure
    | cons e rest ih => exact (onlyLogs_logEntry fun v => absurd v verbose).bind ih

/-! ## How computations end -/

/-- The computation ends with `r` and leaves these files. Besides it has only logged, and nothing
without any verbosity. -/
def Ends (o : Options) (m : Run Unit) (w : World) (r : Except CommandError Unit)
    (files : List (String × List UInt8)) : Prop :=
  ∃ w' said, m.run w = (r, w') ∧ (o.verbosity = 0 → said = "") ∧
    World.Logged { w with files } said w'

section
variable {m m' : Run Unit} {r : Except CommandError Unit} {files : List (String × List UInt8)}
  {said path file : String} {bytes : List UInt8} {fail : FileError → CommandError} {err : FileError}

/-- A computation ends as what it comes to by logging, reading and writing files. -/
theorem Ends.after (h : Ends o m' w' r files) (output : w'.console.output = w.console.output)
    (log : w'.log = w.log ++ said) (quiet : o.verbosity = 0 → said = "")
    (step : m.run w = m'.run w') : Ends o m w r files := by
  obtain ⟨w'', more, run, quiet', rest⟩ := h
  have longer : w''.log = w'.log ++ more := rest.log
  refine ⟨w'', said ++ more, step.trans run, fun v => by rw [quiet v, quiet' v]; rfl, rest.files,
    rest.output.trans output, ?_⟩
  rw [longer, log, String.append_assoc]

theorem OnlyLogs.ends (h : OnlyLogs o m) : Ends o m w (.ok ()) w.files := by
  obtain ⟨said, quiet, run⟩ := h w
  exact ⟨w.say said, said, run, quiet, World.logged_say w said⟩

theorem OnlyLogs.ends_bind {k : Unit → Run Unit} (h : OnlyLogs o m)
    (rest : ∀ said, Ends o (k ()) (w.say said) r files) : Ends o (m >>= k) w r files := by
  obtain ⟨said, quiet, run⟩ := h w
  exact (rest said).after rfl rfl quiet (run_bind_ok run)

theorem ends_error {α : Type} {m : Run α} {k : α → Run Unit} {e : CommandError}
    (run : m.run w = (.error e, w')) (same : World.Logged w "" w') :
    Ends o (m >>= k) w (.error e) w.files :=
  ⟨w', "", run_bind_error run, fun _ => rfl, same⟩

/-! ## Files -/

theorem run_readBytes (fail : FileError → CommandError) (w : World) (path : String) :
    (readBytes fail path : Run (List UInt8)).run w =
      match w.read path with
      | .ok (bytes, w') => (.ok bytes, w')
      | .error e => (.error (fail e), w) := by
  unfold readBytes
  simp only [ExceptT.run_mk, Functor.map, StateT.map, Host.readFile, bind, pure]
  cases w.read path <;> rfl

theorem run_readText (fail : FileError → CommandError) (w : World) (path : String) :
    ∃ w', World.Logged w "" w' ∧
      (readText fail path : Run String).run w = ((w.text path).mapError fail, w') := by
  have opened := run_readBytes fail w path
  unfold readText World.text
  cases read : w.read path with
  | error e =>
    rw [read] at opened
    exact ⟨w, ⟨rfl, rfl, String.append_empty.symm⟩, run_bind_error opened⟩
  | ok result =>
    obtain ⟨bytes, w'⟩ := result
    rw [read] at opened
    refine ⟨w', World.logged_of_read read, ?_⟩
    rw [run_bind_ok opened]
    simp only [World.textOf]
    cases Utf8.decode? bytes <;> rfl

theorem run_writeBytes (fail : FileError → CommandError) {w : World} {path file : String}
    (located : w.locate .writing path = .ok file) (kept : Device.ofPath? file = none)
    (bytes : List UInt8) :
    (writeBytes fail path bytes : Run Unit).run w = (.ok (), w.put file bytes) := by
  have written : w.write path bytes = .ok (w.put file bytes) := by
    rw [World.write, located]
    simp only [kept]
  unfold writeBytes
  simp only [ExceptT.run_mk, Functor.map, StateT.map, Host.writeFile, bind, pure, written]
  rfl

theorem run_writeBytes_error (fail : FileError → CommandError) {w : World} {path : String}
    {e : FileError} (located : w.locate .writing path = .error e) (bytes : List UInt8) :
    (writeBytes fail path bytes : Run Unit).run w = (.error (fail e), w) := by
  have refused : w.write path bytes = .error e := by
    rw [World.write, located]
  unfold writeBytes
  simp only [ExceptT.run_mk, Functor.map, StateT.map, Host.writeFile, bind, pure, refused]
  rfl

theorem ends_readText {k : String → Run Unit} {source : String} (h : w.text path = .ok source)
    (rest : ∀ w', World.Logged w "" w' → Ends o (k source) w' r files) :
    Ends o (readText fail path >>= k) w r files := by
  obtain ⟨w', same, read⟩ := run_readText fail w path
  rw [h] at read
  exact (rest w' same).after same.output same.log (fun _ => rfl) (run_bind_ok read)

theorem ends_readText_error {k : String → Run Unit} (h : w.text path = .error err) :
    Ends o (readText fail path >>= k) w (.error (fail err)) w.files := by
  obtain ⟨w', same, read⟩ := run_readText fail w path
  rw [h] at read
  exact ends_error read same

theorem ends_writeBytes {k : Unit → Run Unit} (located : w.locate .writing path = .ok file)
    (kept : Device.ofPath? file = none) (rest : Ends o (k ()) (w.put file bytes) r files) :
    Ends o (writeBytes fail path bytes >>= k) w r files :=
  rest.after rfl String.append_empty.symm (fun _ => rfl)
    (run_bind_ok (run_writeBytes fail located kept bytes))

theorem ends_writeBytes_error {k : Unit → Run Unit} (refused : w.locate .writing path = .error err) :
    Ends o (writeBytes fail path bytes >>= k) w (.error (fail err)) w.files :=
  ends_error (run_writeBytes_error fail refused bytes) ⟨rfl, rfl, String.append_empty.symm⟩

end

/-! ## Assembling -/

section
variable {input output source file : String} {image : Image} (text : Bool)

theorem ends_assembleFile_unread {err : FileError} (h : w.text input = .error err) :
    Ends o (assembleFile o input output text) w
      (.error ((if text then CommandError.unreadable input else .inaccessible input) err))
      w.files := by
  unfold assembleFile
  refine (onlyLogs_logEntry fun _ => by simp).ends_bind fun said => ?_
  exact ends_readText_error ((w.text_say said input).trans h)

/-- What assembling comes to with the text of a program, whatever it does with the text. -/
theorem ends_read_source {first : Entry} {details : String → Unit → List Entry}
    {k : String → Run Unit} {fail : FileError → CommandError} {r : Except CommandError Unit}
    {files : List (String × List UInt8)} (level : first.level ≠ .error)
    (h : w.text input = .ok source)
    (rest : ∀ w', w'.files = w.files → Ends o (k source) w' r files) :
    Ends o (do
      logEntry o first
      let source ← readText fail input
      logDetails o (details source)
      k source) w r files :=
  (onlyLogs_logEntry fun _ => level).ends_bind fun said =>
    ends_readText ((w.text_say said input).trans h) fun w' same =>
    (onlyLogs_logDetails _).ends_bind fun said' => rest (w'.say said') same.files

theorem ends_assembleFile_faulty {e : AssemblyError} (h : w.text input = .ok source)
    (faulty : assemble source = .error e) :
    Ends o (assembleFile o input output text) w (.error (.program e)) w.files := by
  unfold assembleFile
  refine ends_read_source (by simp) h fun w' same => ?_
  rw [faulty, ← same]
  exact ends_error rfl ⟨rfl, rfl, String.append_empty.symm⟩

theorem ends_assembleFile_unwritten {err : FileError} (h : w.text input = .ok source)
    (done : assemble source = .ok image) (refused : w.locate .writing output = .error err) :
    Ends o (assembleFile o input output text) w
      (.error ((if text then CommandError.unwritable output else .inaccessible output) err))
      w.files := by
  unfold assembleFile
  refine ends_read_source (by simp) h fun w' same => ?_
  simp only [done, pure_bind]
  rw [← same]
  exact ends_writeBytes_error ((World.locate_congr same _ _).trans refused)

theorem ends_assembleFile_written (h : w.text input = .ok source)
    (done : assemble source = .ok image) (located : w.locate .writing output = .ok file)
    (kept : Device.ofPath? file = none) :
    Ends o (assembleFile o input output text) w (.ok ())
      (w.put file (imageBytes text image)).files := by
  unfold assembleFile
  refine ends_read_source (by simp) h fun w' same => ?_
  simp only [done, pure_bind]
  have files : (w'.put file (imageBytes text image)).files =
      (w.put file (imageBytes text image)).files := by
    rw [World.put, World.put, same]
  rw [← files]
  refine ends_writeBytes ((World.locate_congr same _ _).trans located) kept (OnlyLogs.ends ?_)
  split
  · exact (onlyLogs_logEntry fun _ => by simp).bind (onlyLogs_logEntry fun _ => by simp)
  · exact onlyLogs_logEntry fun _ => by simp

end

/-! ## The command as a whole -/

/-- The command fails with a message. It logs this last, and alone without any verbosity, and leaves
all files as they were. -/
def Fails (o : Options) (w : World) (message : String) : Prop :=
  ∃ w' said, (execute o : StateM World UInt32) w = (1, w') ∧ (o.verbosity = 0 → said = "") ∧
    World.Logged w (said ++ o.shown { level := .error, message }) w'

/-- The command succeeds. It logs nothing without any verbosity, and leaves these bytes in the file and
all other files as they were. -/
def Writes (o : Options) (w : World) (file : String) (bytes : List UInt8) : Prop :=
  ∃ w' said, (execute o : StateM World UInt32) w = (0, w') ∧ (o.verbosity = 0 → said = "") ∧
    w'.find? file = some bytes ∧ (∀ other, other ≠ file → w'.find? other = w.find? other) ∧
    w'.console.output = w.console.output ∧ w'.log = w.log ++ said

/-- The exit code says whether the command succeeds. If not, the reason is logged. -/
theorem run_execute (o : Options) (w : World) :
    (execute o : StateM World UInt32) w =
      match (perform o : Run Unit).run w with
      | (.ok _, w') => (0, w')
      | (.error e, w') => (1, w'.say (o.shown { level := .error, message := e.message })) := by
  unfold execute
  simp only [bind, StateT.bind]
  rcases (perform o : Run Unit).run w with ⟨e | _, w'⟩ <;> rfl

theorem fails_of_ends {input output : String} {text : Bool} {e : CommandError}
    (task : o.task = .assemble input output text)
    (h : Ends o (assembleFile o input output text) w (.error e) w.files) : Fails o w e.message := by
  obtain ⟨w', said, run, quiet, same⟩ := h
  refine ⟨w'.say (o.shown { level := .error, message := e.message }), said, ?_, quiet,
    same.trans (World.logged_say w' _)⟩
  rw [run_execute, perform, task]
  simp only [run]

theorem writes_of_ends {input output file : String} {text : Bool} {bytes : List UInt8}
    (task : o.task = .assemble input output text)
    (h : Ends o (assembleFile o input output text) w (.ok ()) (w.put file bytes).files) :
    Writes o w file bytes := by
  obtain ⟨w', said, run, quiet, same⟩ := h
  refine ⟨w', said, ?_, quiet, ?_, fun other ne => ?_, same.output, same.log⟩
  · rw [run_execute, perform, task]
    simp only [run]
  · rw [World.find?_congr same.files]
    exact World.find?_put_self w file bytes
  · rw [World.find?_congr same.files]
    exact World.find?_put_of_ne ne bytes

/-- Assembling is all or nothing, in either form of the output. Without a text to read, with a fault in
the program or without a place to write to, the command fails with the reason and no file is changed.
Else it writes the image to the output, in the form that is asked for, and changes no other file; both
forms are those of the same image. Plain names stand for the files that they are the names of. -/
theorem assemble_all_or_nothing (w : World) (verbosity : Nat) (json : Bool)
    (input output : String) :
    (∀ err, w.text input = .error err →
      Fails ⟨verbosity, json, .assemble input output true⟩ w
        (CommandError.unreadable input err).message ∧
      Fails ⟨verbosity, json, .assemble input output false⟩ w
        (CommandError.inaccessible input err).message) ∧
    (∀ source e, w.text input = .ok source → assemble source = .error e → ∀ text,
      Fails ⟨verbosity, json, .assemble input output text⟩ w (report e)) ∧
    (∀ source image err, w.text input = .ok source → assemble source = .ok image →
      w.locate .writing output = .error err →
      Fails ⟨verbosity, json, .assemble input output true⟩ w
        (CommandError.unwritable output err).message ∧
      Fails ⟨verbosity, json, .assemble input output false⟩ w
        (CommandError.inaccessible output err).message) ∧
    (∀ source image file, w.text input = .ok source → assemble source = .ok image →
      w.locate .writing output = .ok file → Device.ofPath? file = none →
      Writes ⟨verbosity, json, .assemble input output false⟩ w file image.toBytes ∧
      Writes ⟨verbosity, json, .assemble input output true⟩ w file (Utf8.encode image.toText) ∧
      Image.ofBytes? image.toBytes = some image ∧
      ∃ text, Utf8.decode? (Utf8.encode image.toText) = some text ∧
        Image.ofText? text.toList = some image) ∧
    (IsName input → w.text input = match w.find? input with
      | some bytes => World.textOf bytes
      | none => .error .notFound) ∧
    (IsName output → w.locate .writing output = .ok output ∧ Device.ofPath? output = none) := by
  refine ⟨fun err h => ⟨?_, ?_⟩, fun source e h faulty text => ?_,
    fun source image err h done refused => ⟨?_, ?_⟩, fun source image file h done located kept => ?_,
    fun name => World.text_of_isName name w,
    fun name => ⟨World.locate_of_isName name w .writing, World.ofPath?_of_isName name⟩⟩
  · exact fails_of_ends rfl (ends_assembleFile_unread true h)
  · exact fails_of_ends rfl (ends_assembleFile_unread false h)
  · have failed := fails_of_ends (e := .program e)
      (o := ⟨verbosity, json, .assemble input output text⟩) rfl
      (ends_assembleFile_faulty text h faulty)
    exact failed
  · exact fails_of_ends rfl (ends_assembleFile_unwritten true h done refused)
  · exact fails_of_ends rfl (ends_assembleFile_unwritten false h done refused)
  · have fits := Image.fits_of_assemble done
    exact ⟨writes_of_ends rfl (ends_assembleFile_written false h done located kept),
      writes_of_ends rfl (ends_assembleFile_written true h done located kept),
      Image.ofBytes?_toBytes fits, image.toText, Utf8.decode?_encode image.toText,
      Image.ofText?_toText fits⟩

/-- A program, one with a fault, and an old output. -/
def sampleWorld : World :=
  { files := [("a.s", Utf8.encode "halt\n"), ("b.s", Utf8.encode "br nowhere"), ("a.obj", [1])] }

/-- The old output is replaced as a whole, or left alone. -/
theorem assemble_all_or_nothing_sample :
    Writes ⟨0, false, .assemble "a.s" "a.obj" false⟩ sampleWorld "a.obj" [0x30, 0, 0xf0, 0x25] ∧
    Fails ⟨0, false, .assemble "b.s" "a.obj" true⟩ sampleWorld
      ("line 1: label 'nowhere' could not be found\n" ++
        "  help: define this label somewhere in the program") := by
  have input : IsName "a.s" := ⟨by decide, by decide, by decide, by decide, by decide⟩
  have faulty : IsName "b.s" := ⟨by decide, by decide, by decide, by decide, by decide⟩
  have output : IsName "a.obj" := ⟨by decide, by decide, by decide, by decide, by decide⟩
  obtain ⟨-, -, -, written, text, place⟩ := assemble_all_or_nothing sampleWorld 0 false "a.s" "a.obj"
  obtain ⟨-, fails, -, -, text', -⟩ := assemble_all_or_nothing sampleWorld 0 false "b.s" "a.obj"
  have halt : sampleWorld.text "a.s" = .ok "halt\n" := by
    rw [text input]
    exact World.textOf_encode "halt\n"
  have nowhere : sampleWorld.text "b.s" = .ok "br nowhere" := by
    rw [text' faulty]
    exact World.textOf_encode "br nowhere"
  obtain ⟨located, kept⟩ := place output
  exact ⟨(written "halt\n" ⟨0x3000, [0xf025]⟩ "a.obj" halt (by decide +kernel) located kept).1,
    fails "br nowhere" ⟨1, .undefinedLabel "nowhere"⟩ nowhere (by decide +kernel) true⟩

end Sixteen.Command
