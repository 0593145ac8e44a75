import Sixteen.Command.Host
import Sixteen.Text.Utf8

/-!
# A world as a value

A directory of files with standard streams, in which commands run without a system. The directory
holds files only. A path may also lead to the directories above it, to the root of all of them and
to those that every system has there; these are empty until a command writes there, but for the
devices.

* `Directory` : the directories that a path can pass through;
* `Device` : the files that stand for something else than kept bytes;
* `World` : files by path, the input that is left, and the output and log written so far;
* `World.locate` : the file that a path leads to, or what is wrong with the path;
* `World.read_of_write` : what has been written to a path is read from it.
-/

namespace Sixteen.Command

/-! ## Directories -/

/-- A directory that a path can pass through. -/
inductive Directory where
  /-- The one so many steps above the directory of the world, which is zero steps above itself. -/
  | above (steps : Nat)
  | root
  | system (name : String)
  deriving DecidableEq, Repr

namespace Directory

/-- How many steps the directory of the world lies below the root. -/
def depth : Nat := 2

/-- The directory above a directory. Above the root there is only the root. -/
def parent : Directory → Directory
  | above steps => if steps + 1 < depth then above (steps + 1) else root
  | root | system _ => root

def systemNames : List String :=
  ["bin", "dev", "etc", "lib", "proc", "sys", "tmp", "usr", "var"]

def sub? : Directory → String → Option Directory
  | root, name => if name ∈ systemNames then some (system name) else none
  | above _, _ | system _, _ => none

def path (name : String) : Directory → String
  | above steps => String.join (List.replicate steps "../") ++ name
  | root => "/" ++ name
  | system directory => "/" ++ directory ++ "/" ++ name

end Directory

/-! ## Devices -/

/-- A file that stands for something else than bytes that are kept. -/
inductive Device where
  | null
  | full
  | input
  | output
  | log
  deriving DecidableEq, Repr

def Device.ofPath? : String → Option Device
  | "/dev/null" => some null
  | "/dev/full" => some full
  | "/dev/stdin" => some input
  | "/dev/stdout" => some output
  | "/dev/stderr" => some log
  | _ => none

/-! ## The world -/

/-- A directory of files and standard streams. -/
structure World where
  /-- The files, by their shortest paths. For those of the directory these are their names. -/
  files : List (String × List UInt8)
  console : Console.Buffered := {}
  log : String := ""
  deriving DecidableEq, Repr

/-- What a path is followed for. -/
inductive Access where
  | reading
  | writing
  deriving DecidableEq, Repr

namespace World

def find? (w : World) (path : String) : Option (List UInt8) :=
  w.files.lookup path

def put (w : World) (path : String) (bytes : List UInt8) : World :=
  { w with files := (path, bytes) :: w.files.filter (·.1 ≠ path) }

/-- Why a path does not go on behind a file. -/
def obstacle (w : World) (path : String) : FileError :=
  if (w.find? path).isSome ∨ (Device.ofPath? path).isSome then .notDirectory else .notFound

def maxName : Nat := 255

def maxPath : Nat := 4095

/-- Follows the names of a path from a directory to a file. With `slash` set, the path ends in a
slash behind its last name, so that a file there is refused: to be written at once, and to be read
like a file that a path goes on behind. -/
def follow (w : World) (access : Access) (slash : Bool) :
    Directory → List String → Except FileError String
  | _, [] => .error .isDirectory
  | d, name :: rest =>
    if name = "." then w.follow access slash d rest
    else if name = ".." then w.follow access slash d.parent rest
    else
      match d.sub? name with
      | some sub => w.follow access slash sub rest
      | none =>
        if rest = [] ∧ slash ∧ access = .writing then .error .isDirectory
        else if maxName < name.utf8ByteSize then .error .nameTooLong
        else if rest ≠ [] ∨ slash then .error (w.obstacle (d.path name))
        else .ok (d.path name)

/-- The shortest path to the file that a path leads to. -/
def locate (w : World) (access : Access) (path : String) : Except FileError String :=
  if path.isEmpty then .error .notFound
  else if maxPath < path.utf8ByteSize then .error .nameTooLong
  else
    w.follow access (path.endsWith "/") (if path.startsWith "/" then .root else .above 0)
      ((path.splitOn "/").filter (· ≠ ""))

/-- What a device gives, and the world after that. -/
def readDevice (w : World) : Device → List UInt8 × World
  | .input => (w.console.input, { w with console := { w.console with input := [] } })
  | .null | .full | .output | .log => ([], w)

def writeDevice (w : World) (bytes : List UInt8) : Device → Except FileError World
  | .null | .input => .ok w
  | .full => .error .noSpace
  | .output => .ok { w with console := { w.console with output := w.console.output ++ bytes } }
  | .log => .ok { w with log := w.log ++ Utf8.decodeLossy bytes }

/-- The contents of the file that a path leads to, and the world after they were read. -/
def read (w : World) (path : String) : Except FileError (List UInt8 × World) :=
  match w.locate .reading path with
  | .error e => .error e
  | .ok file =>
    match Device.ofPath? file, w.find? file with
    | some device, _ => .ok (w.readDevice device)
    | none, some bytes => .ok (bytes, w)
    | none, none => .error .notFound

def write (w : World) (path : String) (bytes : List UInt8) : Except FileError World :=
  match w.locate .writing path with
  | .error e => .error e
  | .ok file =>
    match Device.ofPath? file with
    | some device => w.writeDevice bytes device
    | none => .ok (w.put file bytes)

/-! ## Written files -/

@[simp] theorem find?_put_self (w : World) (path : String) (bytes : List UInt8) :
    (w.put path bytes).find? path = some bytes := by
  simp [find?, put]

/-- Names that lead to a file that can be written lead there in every world, also for reading. -/
theorem follow_of_writing {w : World} {slash : Bool} {d : Directory} {names : List String}
    {file : String} (h : w.follow .writing slash d names = .ok file) (v : World)
    (access : Access) : v.follow access slash d names = .ok file := by
  induction names generalizing d with
  | nil => simp [follow] at h
  | cons name rest ih =>
    simp only [follow] at h ⊢
    by_cases here : name = "."
    · rw [if_pos here] at h ⊢
      exact ih h
    · by_cases up : name = ".."
      · rw [if_neg here, if_pos up] at h ⊢
        exact ih h
      · rw [if_neg here, if_neg up] at h ⊢
        cases found : d.sub? name with
        | some sub =>
          simp only [found] at h ⊢
          exact ih h
        | none =>
          simp only [found] at h ⊢
          grind

/-- A path that leads to a file that can be written leads there in every world, also for reading. -/
theorem locate_of_writing {w : World} {path file : String}
    (h : w.locate .writing path = .ok file) (v : World) (access : Access) :
    v.locate access path = .ok file := by
  unfold locate at h ⊢
  split at h
  · cases h
  · split at h
    · cases h
    · next nonempty short =>
      rw [if_neg nonempty, if_neg short]
      exact follow_of_writing h v access

/-- What has been written to a path is read from it, if the path leads to no device. -/
theorem read_of_write {w v : World} {path file : String} {bytes : List UInt8}
    (located : w.locate .writing path = .ok file) (kept : Device.ofPath? file = none)
    (h : w.write path bytes = .ok v) : v.read path = .ok (bytes, v) := by
  rw [write, located] at h
  simp only [kept, Except.ok.injEq] at h
  subst h
  rw [read, locate_of_writing located]
  simp [kept]

end World

instance : Host (StateM World) where
  readByte := fun ⟨files, console, log⟩ =>
    let (b, console) := (Console.readByte (m := StateM Console.Buffered)).run console
    (b, ⟨files, console, log⟩)
  writeBytes bytes := fun ⟨files, console, log⟩ =>
    let (r, console) := (Console.writeBytes (m := StateM Console.Buffered) bytes).run console
    (r, ⟨files, console, log⟩)
  readFile path := fun w =>
    match w.read path with
    | .ok (bytes, w) => (.ok bytes, w)
    | .error e => (.error e, w)
  writeFile path bytes := fun w =>
    match w.write path bytes with
    | .ok w => (.ok (), w)
    | .error e => (.error e, w)
  log text := fun w => ((), { w with log := w.log ++ text })

end Sixteen.Command
