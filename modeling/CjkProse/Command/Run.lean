import CjkProse.Arguments
import CjkProse.Command.Notes
import CjkProse.Config.File
import CjkProse.Glob.Find
import CjkProse.Log.Logger

/-!
# The command

The command formats the files that a pattern finds, one after another, and prints a table of what it
changes in each.  A file that cannot be read does not keep it from the others.  When it only checks,
no file is written, and it fails if there is anything to change.

## Main definitions

* `CommandFault` — what ends the command before it is done.
* `loadConfig` — the settings to be used.
* `formatFile` — what is done with one file; `formatFiles` with all of them.
* `runCommand` — the command.
-/

namespace CjkProse

/-- What ends the command before it is done. -/
inductive CommandFault
  /-- The name of a level stands for something else. -/
  | level (fault : LogLevel.Fault)
  /-- The log cannot be kept. -/
  | log (fault : Logger.Fault)
  /-- There is no user of the name that the path of the settings file starts with. -/
  | noHome
  /-- The settings can neither be used nor refused. -/
  | config (e : LoadError)
  /-- A pattern of text to be left alone has a fault that is not passed over. -/
  | pattern (fault : Pattern.Fault)
  deriving DecidableEq, Repr, Inhabited

/-- Why there are no settings to use. -/
inductive ConfigFault
  /-- They are refused, in the given words. -/
  | refused (message : Text)
  /-- The command ends. -/
  | fatal (fault : CommandFault)
  deriving DecidableEq, Repr, Inhabited

/-- The settings file that is used when none is named. -/
def defaultConfigFile : Text := ".zhfmt.toml".toList

/-- A line of the console in a colour. -/
def colouredLine (colour : String) (t : Text) : Printed := .line (Markup.coloured colour t)

/-- The note that a settings file is not there. -/
def missingConfigNote (path : Path) : LogRecord :=
  ⟨.warning, "zhfmt.config".toList, "配置文件不存在，使用默认配置: ".toList ++ path.toText⟩

/-- The note that a settings file is used. -/
def loadedConfigNote (path : Path) : LogRecord :=
  ⟨.debug, "zhfmt.config".toList, "已加载配置: ".toList ++ path.toText⟩

/-- The note that a file has been changed in some places. -/
def rewrittenNote (path : Path) (count : Nat) : LogRecord :=
  ⟨.info, "zhfmt.cli".toList,
    "已改写 ".toList ++ path.toText ++ " (".toList ++ Text.ofNat count ++ " 处)".toList⟩

/-- The note that a file could not be used. -/
def failureNote (path : Path) (reason : Text) : LogRecord :=
  ⟨.error, "zhfmt.cli".toList,
    "处理 ".toList ++ path.toText ++ " 失败: ".toList ++ reason⟩

/-- The line that tells that a file could not be used. -/
def failureLine (path : Path) (reason : Text) : Printed :=
  colouredLine "red"
    ("处理失败 ".toList ++ Markup.escape path.toText ++ ": ".toList ++ Markup.escape reason)

variable {m : Type → Type} [Monad m]

/-! ### Settings -/

/-- The settings of a file.  Those of a file that is not there are the default ones. -/
def loadConfigFile (ws : Workspace m) (logger : Logger) (name : Text) :
    m (Except ConfigFault Config) := do
  match ← ws.expandHome (Path.ofText name).clean with
  | none => return .error (.fatal .noHome)
  | some path =>
    match ← ws.kind? path with
    | none =>
      logger.note ws (missingConfigNote path)
      return .ok .default
    | some _ =>
      match ← ws.read path with
      | .error fault => return .error (.refused (fault.message path))
      | .ok bytes =>
        match Config.ofFile path.name bytes with
        | .error (.refused r) => return .error (.refused r.message)
        | .error e => return .error (.fatal (.config e))
        | .ok config =>
          logger.note ws (loadedConfigNote path)
          return .ok config

/-- The settings to be used.  The file that is used when none is named need not be there. -/
def loadConfig (ws : Workspace m) (logger : Logger) (named : Option Text) :
    m (Except ConfigFault Config) :=
  match named with
  | some name => loadConfigFile ws logger (if name.isEmpty then defaultConfigFile else name)
  | none => do
    match ← ws.kind? (Path.ofText defaultConfigFile) with
    | none => return .ok .default
    | some _ => loadConfigFile ws logger defaultConfigFile

/-! ### Files -/

/-- What becomes of a file. -/
inductive FileOutcome
  /-- There is nothing to change. -/
  | kept
  /-- There is something to change; unless files are only looked at, it has been changed. -/
  | changed
  /-- It could not be used. -/
  | failed
  deriving DecidableEq, Repr, Inhabited

/-- Prints some items in turn. -/
def printAll (ws : Workspace m) : List Printed → m Unit
  | [] => pure ()
  | item :: items => do
    ws.print item
    printAll ws items

/-- Tells that a file could not be used. -/
def failFile (ws : Workspace m) (logger : Logger) (path : Path) (reason : Text) :
    m FileOutcome := do
  logger.note ws (failureNote path reason)
  ws.print (failureLine path reason)
  return .failed

/-- Writes a changed text to its file. -/
def rewriteFile (ws : Workspace m) (logger : Logger) (path : Path) (report : Report) :
    m FileOutcome := do
  match ← ws.write path (Utf8.encode report.text) with
  | .error fault => failFile ws logger path (fault.message path)
  | .ok () =>
    logger.note ws (rewrittenNote path report.diagnostics.length)
    return .changed

/-- Formats the text of a file, whose lines end in line feeds. -/
def formatFileText (ws : Workspace m) (logger : Logger) (config : Config) (check : Bool)
    (path : Path) (text : Text) : m (Except Pattern.Fault FileOutcome) := do
  let tokens := Markdown.parse text
  let outcome := formatParsed text tokens config
  logger.noteAll ws (formatNotes logger.level text tokens config outcome)
  match outcome with
  | .error (.pattern fault) => return .error fault
  | .error (.encoding fault) => .ok <$> failFile ws logger path fault.message
  | .ok report =>
    printAll ws (report.printed path.toText text)
    if report.changed then
      if check then return .ok .changed else .ok <$> rewriteFile ws logger path report
    else return .ok .kept

/-- Formats a file. -/
def formatFile (ws : Workspace m) (logger : Logger) (config : Config) (check : Bool)
    (path : Path) : m (Except Pattern.Fault FileOutcome) := do
  match ← ws.read path with
  | .error fault => .ok <$> failFile ws logger path (fault.message path)
  | .ok bytes =>
    match Utf8.decode bytes with
    | .error fault => .ok <$> failFile ws logger path fault.message
    | .ok text => formatFileText ws logger config check path text.unifyNewlines

/-- How many files there are to change, and whether one could not be used. -/
structure Tally where
  /-- The number of files with something to change. -/
  changed : Nat
  /-- Whether a file could not be used. -/
  failed : Bool
  deriving DecidableEq, Repr, Inhabited

/-- Counts one more file. -/
def Tally.add (t : Tally) : FileOutcome → Tally
  | .kept => t
  | .changed => { t with changed := t.changed + 1 }
  | .failed => { t with failed := true }

/-- Formats some files in turn. -/
def formatFiles (ws : Workspace m) (logger : Logger) (config : Config) (check : Bool) :
    List Path → Tally → m (Except Pattern.Fault Tally)
  | [], tally => pure (.ok tally)
  | path :: paths, tally => do
    match ← formatFile ws logger config check path with
    | .error fault => return .error fault
    | .ok outcome => formatFiles ws logger config check paths (tally.add outcome)

/-- The last line, and whether the command fails. -/
def conclude (ws : Workspace m) (check : Bool) (tally : Tally) : m Nat := do
  let count := Text.ofNat tally.changed
  if tally.changed = 0 then return tally.failed.toNat
  else if check then
    ws.print (colouredLine "yellow" (count ++ " 个文件需要格式化。".toList))
    return 1
  else
    ws.print (colouredLine "green" ("已格式化 ".toList ++ count ++ " 个文件。".toList))
    return tally.failed.toNat

/-! ### The whole -/

/-- Formats the files that a pattern finds. -/
def formatFound (ws : Workspace m) (logger : Logger) (config : Config) (o : Options) :
    m (Except CommandFault Nat) := do
  match ← Glob.files ws o.pattern with
  | [] =>
    ws.print (colouredLine "yellow" ("没有匹配的文件: ".toList ++ Markup.escape o.pattern))
    return .ok 0
  | paths =>
    match ← formatFiles ws logger config o.check paths ⟨0, false⟩ with
    | .error fault => return .error (.pattern fault)
    | .ok tally => .ok <$> conclude ws o.check tally

/-- The command with its options read. -/
def runOptions (ws : Workspace m) (o : Options) : m (Except CommandFault Nat) := do
  match LogLevel.ofName o.logLevel with
  | .error fault => return .error (.level fault)
  | .ok level =>
    match ← Logger.start ws "zhfmt".toList level o.logFile with
    | .error fault => return .error (.log fault)
    | .ok logger =>
      match ← loadConfig ws logger o.config with
      | .error (.fatal fault) => return .error fault
      | .error (.refused message) =>
        ws.print (colouredLine "red" ("无法加载配置: ".toList ++ Markup.escape message))
        return .ok 1
      | .ok config => formatFound ws logger config o

/-- The command: its exit code for a command line. -/
def runCommand (ws : Workspace m) (args : List Text) : m (Except CommandFault Nat) :=
  match Request.ofTexts args with
  | .usage => do
    ws.showUsage
    return .ok 0
  | .misuse => do
    ws.showUsage
    return .ok 2
  | .version => do
    ws.say "zhfmt 0.1.0\n".toList
    return .ok 0
  | .run o => runOptions ws o

end CjkProse
