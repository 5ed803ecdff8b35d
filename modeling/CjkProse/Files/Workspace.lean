import CjkProse.Console
import CjkProse.Files.Path
import CjkProse.Log.Record

/-!
# Workspaces

A command works in a place with files, a console and a clock.  What it needs of that place is
gathered here, so that the same command can be run on a disk and on a tree of files that is held as
a value.

## Main definitions

* `FileKind`, `FileFault` — what stands at a path, and why it cannot be used.
* `Workspace` — what a command needs of the place where it runs.
* `Workspace.expandHome` — paths that start with a tilde.
-/

namespace CjkProse

/-- What stands at a path. -/
inductive FileKind
  /-- A file. -/
  | file
  /-- A folder. -/
  | folder
  deriving DecidableEq, Repr, Inhabited

/-- Why a file cannot be used. -/
inductive FileFault
  /-- It is a folder. -/
  | isFolder
  /-- A file stands where the path leads on. -/
  | notFolder
  /-- A file stands where a folder is to be made. -/
  | taken
  /-- Another cause, which has a number. -/
  | other (code : Nat) (reason : Text)
  deriving DecidableEq, Repr, Inhabited

namespace FileFault

/-- The number of a cause. -/
def code : FileFault → Nat
  | isFolder => 21
  | notFolder => 20
  | taken => 17
  | other code _ => code

/-- The name of a cause. -/
def reason : FileFault → Text
  | isFolder => "Is a directory".toList
  | notFolder => "Not a directory".toList
  | taken => "File exists".toList
  | other _ reason => reason

/-- The wording of a fault of the file at a path. -/
def message (fault : FileFault) (path : Path) : Text :=
  "[Errno ".toList ++ Text.ofNat fault.code ++ "] ".toList ++ fault.reason ++ ": ".toList ++
    Quoted.quote path.toText

end FileFault

/-- What a command needs of the place where it runs. -/
structure Workspace (m : Type → Type) where
  /-- A number that no nesting of folders exceeds. -/
  depth : Nat
  /-- What stands at a path, if anything does. -/
  kind? : Path → m (Option FileKind)
  /-- The members of a folder; what is no folder has none. -/
  members : Path → m (List (Text × FileKind))
  /-- The bytes of a file. -/
  read : Path → m (Except FileFault (List UInt8))
  /-- Replaces the bytes of a file. -/
  write : Path → List UInt8 → m (Except FileFault Unit)
  /-- Makes an empty file with the folders that it stands in, unless there is one. -/
  create : Path → m (Except FileFault Unit)
  /-- Adds bytes at the end of a file. -/
  append : Path → List UInt8 → m Unit
  /-- Prints on the console. -/
  print : Printed → m Unit
  /-- Prints plain text. -/
  say : Text → m Unit
  /-- Shows how the command is used. -/
  showUsage : m Unit
  /-- Shows a message of the log. -/
  alert : LogRecord → m Unit
  /-- The time, to the second. -/
  time : m Text
  /-- The folder of a user by name, the empty name being that of who runs the command. -/
  home? : Text → m (Option Path)

/-- The path that is meant by one whose first part may be a tilde and the name of a user; nothing if
there is no such user. -/
def Workspace.expandHome {m : Type → Type} [Monad m] (ws : Workspace m) (p : Path) :
    m (Option Path) :=
  match p.rooted, p.parts with
  | false, ('~' :: user) :: parts => do
    let home ← ws.home? user
    return home.map fun h => { h with parts := h.parts ++ parts }
  | _, _ => pure (some p)

end CjkProse
