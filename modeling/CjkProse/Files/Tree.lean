import CjkProse.Files.Workspace

/-!
# File trees

A tree of files held as a value, and the workspace that it makes.  Files are listed by the names
that lead to them; the folders that they stand in need not be listed.  What a path leads to outside
of the tree is not there, and what is written there is not kept.

## Main definitions

* `FileTree` — the files and folders of a tree.
* `FileTree.locate` — following a path.
* `FileTree.put`, `FileTree.create`, `FileTree.append` — changing a file.
* `Session`, `Session.workspace` — a tree to work in, and what has been printed.
-/

namespace CjkProse

/-- Files and folders.  They are told by the names that lead to them. -/
structure FileTree where
  /-- The files and their bytes. -/
  files : List (List Text × List UInt8)
  /-- The folders besides those that files stand in. -/
  folders : List (List Text)
  deriving DecidableEq, Repr, Inhabited

namespace FileTree

/-- The bytes of a file. -/
def file? (t : FileTree) (parts : List Text) : Option (List UInt8) :=
  (t.files.find? fun f => f.1 == parts).map Prod.snd

/-- The first of the names that lead on from a folder. -/
def nextName (folder parts : List Text) : Option Text :=
  if folder.isPrefixOf parts then (parts.drop folder.length).head? else none

/-- The names of all files and folders. -/
def entries (t : FileTree) : List (List Text) := t.files.map Prod.fst ++ t.folders

/-- Whether there is a folder.  The tree itself is one. -/
def isFolder (t : FileTree) (parts : List Text) : Bool :=
  parts.isEmpty || t.folders.contains parts || t.entries.any fun e => (nextName parts e).isSome

/-- What stands at a place. -/
def kind? (t : FileTree) (parts : List Text) : Option FileKind :=
  if (t.file? parts).isSome then some .file
  else if t.isFolder parts then some .folder
  else none

/-- Follows a path from a folder.  It leads on through folders only, and not out of the tree. -/
def follow (t : FileTree) : List Text → List Text → Option (List Text)
  | reached, [] => some reached
  | reached, part :: parts =>
    if !t.isFolder reached then none
    else if part == Path.here then follow t reached parts
    else if part == Path.up then
      if reached.isEmpty then none else follow t reached.dropLast parts
    else follow t (reached ++ [part]) parts

/-- The names that a path leads through, if it stays in the tree. -/
def locate (t : FileTree) (p : Path) : Option (List Text) :=
  if p.rooted then none else t.follow [] p.parts

/-- The members of a folder. -/
def members (t : FileTree) (parts : List Text) : List (Text × FileKind) :=
  (t.entries.filterMap (nextName parts)).eraseDups.filterMap fun name =>
    (t.kind? (parts ++ [name])).map fun kind => (name, kind)

/-- Replaces the bytes of a file, or adds one. -/
def put (t : FileTree) (parts : List Text) (bytes : List UInt8) : FileTree :=
  if (t.file? parts).isSome then
    { t with files := t.files.map fun f => if f.1 == parts then (parts, bytes) else f }
  else { t with files := t.files ++ [(parts, bytes)] }

/-- The names that a settled path leads through, if it stays in the tree. -/
def inside? (p : Path) : Option (List Text) :=
  let parts := p.settle.parts
  if p.rooted || parts.head? == some Path.up then none else some parts

/-- What keeps a file from being made: a file that stands where one of its folders should be, or a
folder in its own place. -/
def obstacle? (t : FileTree) (parts : List Text) : Option FileFault :=
  match (List.range parts.length).find? fun n => (t.file? (parts.take n)).isSome with
  | some n => some (if n + 1 = parts.length then .taken else .notFolder)
  | none => if t.isFolder parts then some .isFolder else none

/-- The tree with a file, which is empty unless it has been there. -/
def create (t : FileTree) (p : Path) : Except FileFault FileTree :=
  match inside? p with
  | none => .ok t
  | some parts =>
    if (t.file? parts).isSome then .ok t
    else
      match t.obstacle? parts with
      | some fault => .error fault
      | none => .ok (t.put parts [])

/-- The tree with bytes added at the end of a file. -/
def append (t : FileTree) (p : Path) (bytes : List UInt8) : FileTree :=
  match inside? p with
  | none => t
  | some parts => t.put parts ((t.file? parts).getD [] ++ bytes)

/-- A number that no nesting of folders exceeds. -/
def depth (t : FileTree) : Nat := (t.entries.map List.length).foldl max 0

/-- The bytes of the file that a path leads to. -/
def read (t : FileTree) (p : Path) : Except FileFault (List UInt8) :=
  match (t.locate p).map fun parts => (t.file? parts, t.isFolder parts) with
  | some (some bytes, _) => .ok bytes
  | some (none, true) => .error .isFolder
  | _ => .error (.other 2 "No such file or directory".toList)

/-- Replaces the bytes of the file that a path leads to. -/
def write (t : FileTree) (p : Path) (bytes : List UInt8) : FileTree :=
  match t.locate p with
  | some parts => t.put parts bytes
  | none => t

end FileTree

/-- A tree of files to work in, and what has been printed. -/
structure Session where
  /-- The files. -/
  tree : FileTree
  /-- What has been printed on the console, in order. -/
  printed : List Printed
  /-- The plain text that has been printed. -/
  said : Text
  /-- The time, which does not pass. -/
  time : Text
  deriving Repr, Inhabited

namespace Session

/-- The folder of who runs a command, which lies outside of the tree. -/
def home : Path := ⟨true, ["root".toList]⟩

/-- The workspace that a tree of files makes, whose folders are nested at most `depth` deep. -/
def workspace (depth : Nat) : Workspace (StateM Session) where
  depth := depth
  kind? p := do
    let s ← get
    return (s.tree.locate p).bind s.tree.kind?
  members p := do
    let s ← get
    return ((s.tree.locate p).map s.tree.members).getD []
  read p := do
    let s ← get
    return s.tree.read p
  write p bytes := do
    modify fun s => { s with tree := s.tree.write p bytes }
    return .ok ()
  create p := do
    let s ← get
    match s.tree.create p with
    | .error fault => return .error fault
    | .ok tree =>
      set { s with tree := tree }
      return .ok ()
  append p bytes := modify fun s => { s with tree := s.tree.append p bytes }
  print item := modify fun s => { s with printed := s.printed ++ [item] }
  say t := modify fun s => { s with said := s.said ++ t }
  showUsage := pure ()
  alert _ := pure ()
  time := do
    let s ← get
    return s.time
  home? name := pure (if name.isEmpty then some home else none)

end Session

end CjkProse
