import CjkProse.Text.Basic

/-!
# Arguments

A command line is a list of words.  Some are switches, which may be shortened as long as they are
told from one another, and of which some take a value: the next word, or what is attached to the
switch.  One other word is the pattern of the files to look at.  After two hyphens no word is a
switch.

## Main definitions

* `Switch` — the switches and their names.
* `Word.ofText`, `Word.ofTexts` — words told apart.
* `Options`, `Request` — what a command line asks for.
* `Request.ofTexts` — reading a command line.
-/

namespace CjkProse

/-- A switch of the command. -/
inductive Switch
  /-- How is the command used? -/
  | help
  /-- The settings file. -/
  | config
  /-- Files are looked at and not changed. -/
  | check
  /-- The level of the log. -/
  | logLevel
  /-- The log file. -/
  | logFile
  /-- Which version is this? -/
  | version
  deriving DecidableEq, Repr, Inhabited

namespace Switch

/-- Whether a switch takes a value. -/
def takesValue : Switch → Bool
  | help => false
  | config => true
  | check => false
  | logLevel => true
  | logFile => true
  | version => false

/-- The names of one letter. -/
def shortNames : List (Text × Switch) := [("-h".toList, help), ("-c".toList, config)]

/-- The names that are words. -/
def longNames : List (Text × Switch) := [
  ("--help".toList, help), ("--config".toList, config), ("--check".toList, check),
  ("--log-level".toList, logLevel), ("--log-file".toList, logFile),
  ("--version".toList, version)]

/-- The switch that has exactly the given name. -/
def named? (t : Text) : Option Switch :=
  ((shortNames ++ longNames).find? fun entry => entry.1 == t).map Prod.snd

/-- The switches with a name that starts with a text. -/
def shortened (t : Text) : List Switch :=
  (longNames.filter fun entry => t.isPrefixOf entry.1).map Prod.snd

end Switch

/-- What is attached to a switch in the same word. -/
structure Attached where
  /-- Whether it follows a sign of equality. -/
  equated : Bool
  /-- What it is. -/
  value : Text
  deriving DecidableEq, Repr, Inhabited

/-- A word of a command line. -/
inductive Word
  /-- A word that is no switch. -/
  | value (t : Text)
  /-- A switch, by a name of one letter or not, and what is attached to it. -/
  | switch (s : Switch) (short : Bool) (attached : Option Attached)
  /-- A word that is written as a switch and is none. -/
  | unknown
  /-- The two hyphens that end the switches. -/
  | ending
  deriving DecidableEq, Repr, Inhabited

namespace Word

/-- Whether a text without its first character, a hyphen, is a number. -/
def isNumeral (t : Text) : Bool :=
  let isDigit (c : Char) : Bool := Unicode.Category.of c == .digit
  let t := if t.getLast? == some '\n' then t.dropLast else t
  let tail := t.dropWhile isDigit
  match tail with
  | [] => !t.isEmpty
  | '.' :: digits => !digits.isEmpty && digits.all isDigit
  | _ :: _ => false

/-- The part of a word before a sign of equality, and the part after it. -/
def cutEquals (t : Text) : Text × Option Text :=
  match t.findIdx? (· == '=') with
  | none => (t, none)
  | some n => (t.take n, some (t.drop (n + 1)))

/-- Whether the name of a switch is one of a letter. -/
def isShort (name : Text) : Bool := (name.drop 1).head? != some '-'

/-- A word that starts with a hyphen and is not the name of a switch; nothing if it could stand for
several. -/
def ofHyphened (t : Text) : Option Word :=
  let (name, equated) := cutEquals t
  let attached := equated.map (Attached.mk true)
  let other : Word := if isNumeral t.tail || t.contains ' ' then .value t else .unknown
  match equated.bind fun _ => Switch.named? name with
  | some s => some (.switch s (isShort name) attached)
  | none =>
    if isShort t then
      match Switch.named? (t.take 2) with
      | some s => some (.switch s true (some ⟨false, t.drop 2⟩))
      | none => some other
    else
      match Switch.shortened name with
      | [] => some other
      | [s] => some (.switch s false attached)
      | _ => none

/-- A word before the end of the switches; nothing if it could stand for several. -/
def ofText (t : Text) : Option Word :=
  if t.head? != some '-' then some (.value t)
  else if t == ['-', '-'] then some .ending
  else
    match Switch.named? t with
    | some s => some (.switch s (isShort t) none)
    | none => if t.length = 1 then some (.value t) else ofHyphened t

/-- The words of a command line; nothing if one of them could stand for several. -/
def ofTexts : List Text → Option (List Word)
  | [] => some []
  | t :: ts =>
    match ofText t with
    | none => none
    | some .ending => some (.ending :: ts.map fun t => .value t)
    | some word => (ofTexts ts).map (word :: ·)

/-- Whether a word is a switch, known or not. -/
def isSwitch : Word → Bool
  | .switch _ _ _ => true
  | .unknown => true
  | .value _ => false
  | .ending => false

end Word

/-- What the command is to do with files. -/
structure Options where
  /-- Which files are looked at. -/
  pattern : Text
  /-- The settings file, if one is named. -/
  config : Option Text
  /-- Whether files are only looked at. -/
  check : Bool
  /-- The name of the level of the log. -/
  logLevel : Text
  /-- The log file, if one is named. -/
  logFile : Option Text
  deriving DecidableEq, Repr, Inhabited

namespace Options

/-- What the command does when it is not told otherwise. -/
def default : Options := ⟨"./**/*.md".toList, none, false, "warning".toList, none⟩

/-- Sets what a switch with a value sets. -/
def set (o : Options) (s : Switch) (value : Text) : Options :=
  match s with
  | .config => { o with config := some value }
  | .logLevel => { o with logLevel := value }
  | .logFile => { o with logFile := some value }
  | .check => o
  | .help => o
  | .version => o

end Options

/-- What a command line asks for. -/
inductive Request
  /-- To show how the command is used. -/
  | usage
  /-- To tell the version. -/
  | version
  /-- Nothing that the command does. -/
  | misuse
  /-- To look at files. -/
  | run (o : Options)
  deriving DecidableEq, Repr, Inhabited

namespace Request

/-- What has been read of a command line. -/
structure Progress where
  /-- The options so far. -/
  options : Options
  /-- Whether the pattern has been read. -/
  hasPattern : Bool
  /-- Whether there has been a word that stands for nothing. -/
  hasSurplus : Bool
  /-- The switch that the next word is the value of. -/
  pending : Option Switch

/-- What words without switches ask for after what has been read. -/
def finish (p : Progress) (words : List Word) : Request :=
  let isEnding (w : Word) : Bool := w == .ending
  let words := if p.hasPattern then words else words.dropWhile isEnding
  let (options, words) :=
    match p.hasPattern, words with
    | false, .value t :: rest => ({ p.options with pattern := t }, rest.dropWhile isEnding)
    | _, _ => (p.options, words)
  if p.hasSurplus || !words.isEmpty then .misuse else .run options

/-- What a question for help asks for when other letters are attached to it.  These are read as
switches of one letter each, of which an unknown one is the last. -/
def helpWith (next : List Word) : Nat → Attached → Request
  | 0, _ => .misuse
  | fuel + 1, attached =>
    if attached.equated then .misuse
    else
      match attached.value with
      | [] => .misuse
      | c :: rest =>
        if c == '-' then .misuse
        else
          match Switch.named? ['-', c], rest with
          | none, _ => .usage
          | some .config, [] =>
            match next with
            | .value _ :: _ => .usage
            | _ => .misuse
          | some .config, _ :: _ => .usage
          | some _, [] => .usage
          | some _, '=' :: value => helpWith next fuel ⟨true, value⟩
          | some _, _ :: _ => helpWith next fuel ⟨false, rest⟩

/-- What words ask for after what has been read. -/
def ofWords : List Word → Progress → Request
  | [], p => if p.pending.isSome then .misuse else finish p []
  | word :: words, p =>
    match p.pending, word with
    | some s, .value t => ofWords words { p with options := p.options.set s t, pending := none }
    | some _, _ => .misuse
    | none, word =>
      if !(word.isSwitch || words.any Word.isSwitch) then finish p (word :: words)
      else
        match word with
        | .unknown => ofWords words { p with hasSurplus := true }
        | .ending => ofWords words p
        | .value t =>
          if p.hasPattern then ofWords words { p with hasSurplus := true }
          else
            ofWords words { p with options := { p.options with pattern := t }, hasPattern := true }
        | .switch s short attached =>
          match s.takesValue, attached with
          | true, some a => ofWords words { p with options := p.options.set s a.value }
          | true, none => ofWords words { p with pending := some s }
          | false, some a => if short then helpWith words (a.value.length + 1) a else .misuse
          | false, none =>
            match s with
            | .help => .usage
            | .version => .version
            | _ => ofWords words { p with options := { p.options with check := true } }

/-- What a command line asks for. -/
def ofTexts (args : List Text) : Request :=
  match Word.ofTexts args with
  | none => .misuse
  | some words => ofWords words ⟨.default, false, false, none⟩

example : ofTexts ["--che".toList, "--config=x".toList, "a".toList] =
    .run ⟨"a".toList, some "x".toList, true, "warning".toList, none⟩ := by decide

example : ofTexts ["--log".toList, "debug".toList] = .misuse := by decide

end Request

end CjkProse
