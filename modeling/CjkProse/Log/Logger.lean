import CjkProse.Files.Workspace

/-!
# Keeping a log

A logger shows the records that it admits, and adds them to its file if it has one.

## Main definitions

* `Logger` — a level and a file.
* `Logger.note`, `Logger.noteAll` — logging records.
* `Logger.start` — a logger made, with its file.
-/

namespace CjkProse

/-- Where a log is kept, and from what level on. -/
structure Logger where
  /-- The level it is set to. -/
  level : LogLevel
  /-- The file it is kept in, if it is. -/
  file : Option Path
  deriving DecidableEq, Repr, Inhabited

namespace Logger

variable {m : Type → Type} [Monad m]

/-- Logs a record, if the level admits it. -/
def note (ws : Workspace m) (logger : Logger) (r : LogRecord) : m Unit :=
  if admits logger.level r then do
    ws.alert r
    match logger.file with
    | none => pure ()
    | some path =>
      let time ← ws.time
      ws.append path (Utf8.encode (r.entry time))
  else pure ()

/-- Logs some records in turn. -/
def noteAll (ws : Workspace m) (logger : Logger) : List LogRecord → m Unit
  | [] => pure ()
  | r :: rs => do
    logger.note ws r
    noteAll ws logger rs

/-- Why a log cannot be kept. -/
inductive Fault
  /-- There is no user of the name that the path starts with. -/
  | noHome
  /-- The file cannot be made. -/
  | file (fault : FileFault)
  deriving DecidableEq, Repr, Inhabited

/-- A logger with a level and a file, which is made unless it is there.  The log starts with a
record of its level. -/
def start (ws : Workspace m) (source : Text) (level : LogLevel) (file : Option Text) :
    m (Except Fault Logger) :=
  match file.filter fun name => !name.isEmpty with
  | none => do
    note ws ⟨level, none⟩ (.started source level)
    return .ok ⟨level, none⟩
  | some name => do
    match ← ws.expandHome (Path.ofText name).clean with
    | none => return .error .noHome
    | some path =>
      match ← ws.create path with
      | .error fault => return .error (.file fault)
      | .ok () =>
        note ws ⟨level, some path⟩ (.started source level)
        return .ok ⟨level, some path⟩

end Logger

end CjkProse
