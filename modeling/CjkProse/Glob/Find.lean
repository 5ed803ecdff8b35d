import CjkProse.Files.Workspace
import CjkProse.Glob.Name

/-!
# Finding files

A text names files by a path whose parts may be patterns.  Two stars for a part stand for any folders
on the way, and for none.  A name that starts with a point is found only by a pattern that starts
with one.

## Main definitions

* `Glob.ofText` — the parts of a pattern.
* `Glob.paths` — what a pattern finds, more than once if it does so in several ways.
* `Glob.files` — the files among these, in order.
-/

namespace CjkProse

/-- A part of a pattern for paths. -/
inductive GlobPart
  /-- A name. -/
  | name (name : Text)
  /-- A pattern for names, and whether it finds those that start with a point. -/
  | wild (pattern : NamePattern) (hidden : Bool)
  /-- Any folders. -/
  | deep
  deriving DecidableEq, Repr, Inhabited

/-- Whether a name starts with a point. -/
def isHidden (name : Text) : Bool := name.head? == some '.'

namespace GlobPart

/-- Whether a part of a path is a pattern. -/
def isPattern (t : Text) : Bool := t.any fun c => c == '*' || c == '?' || c == '['

/-- The part that a text writes. -/
def ofText (t : Text) : GlobPart :=
  if t == "**".toList then .deep
  else if isPattern t then .wild (.ofText t) (isHidden t)
  else .name t

end GlobPart

/-- A pattern for paths. -/
structure Glob where
  /-- The path up to the first part that is a pattern. -/
  base : Path
  /-- The parts from there on. -/
  parts : List GlobPart
  /-- Whether only folders are asked for. -/
  foldersOnly : Bool
  deriving Repr, Inhabited

namespace Glob

/-- The pattern that a text writes.  It asks for folders if it ends with a slash or is empty. -/
def ofText (t : Text) : Glob :=
  let path := Path.ofText t
  ⟨{ path with parts := path.parts.takeWhile fun part => !GlobPart.isPattern part },
    (path.parts.dropWhile fun part => !GlobPart.isPattern part).map GlobPart.ofText,
    t.isEmpty || t.getLast? == some '/'⟩

variable {m : Type → Type} [Monad m]

/-- All that is found from each of some starting points. -/
def gather {α β : Type} (find : α → m (List β)) : List α → m (List β)
  | [] => pure []
  | a :: as => do
    let found ← find a
    let more ← gather find as
    return found ++ more

/-- The members of a folder that are asked for. -/
def membersOf (ws : Workspace m) (foldersOnly : Bool) (p : Path) : m (List Text) := do
  let members ← ws.members p
  return (members.filter fun e => !foldersOnly || e.2 == .folder).map Prod.fst

/-- What stands below a folder, at most `depth` folders deep. -/
def below (ws : Workspace m) (foldersOnly : Bool) : Nat → Path → m (List Path)
  | 0, _ => pure []
  | depth + 1, p => do
    let names ← membersOf ws foldersOnly p
    gather (fun name => do
      let found ← below ws foldersOnly depth (p.child name)
      return p.child name :: found) (names.filter fun name => !isHidden name)

/-- What one part finds in a folder. -/
def step (ws : Workspace m) (foldersOnly : Bool) (part : GlobPart) (p : Path) : m (List Path) :=
  match part with
  | .name name => do
    match ← ws.kind? (p.child name) with
    | some _ => return [p.child name]
    | none => return []
  | .wild pattern hidden => do
    let names ← membersOf ws foldersOnly p
    return (names.filter fun name => (hidden || !isHidden name) && pattern.accepts name).map p.child
  | .deep => do
    match ← ws.kind? p with
    | some .folder =>
      let found ← below ws foldersOnly (ws.depth + 1) p
      return p :: found
    | _ => return []

/-- What some parts find, one after another, from some paths on.  All but the last find folders
only. -/
def steps (ws : Workspace m) : List GlobPart → List Path → m (List Path)
  | [], found => pure found
  | part :: parts, found => do
    let found ← gather (step ws (!parts.isEmpty) part) found
    steps ws parts found

/-- What a pattern finds. -/
def paths (ws : Workspace m) (g : Glob) : m (List Path) :=
  if g.parts.isEmpty then do
    match ← ws.kind? g.base with
    | some _ => return [g.base]
    | none => return []
  else steps ws g.parts [g.base]

/-- The files among some paths. -/
def filesAmong (ws : Workspace m) : List Path → m (List Path)
  | [] => pure []
  | p :: ps => do
    let kind ← ws.kind? p.clean
    let files ← filesAmong ws ps
    return if kind == some .file then p.clean :: files else files

/-- The files that a text stands for, in order. -/
def files (ws : Workspace m) (t : Text) : m (List Path) := do
  let g := ofText t
  if g.foldersOnly then return []
  let found ← paths ws g
  let found ← filesAmong ws found
  return sortBy Path.le found

end Glob

end CjkProse
