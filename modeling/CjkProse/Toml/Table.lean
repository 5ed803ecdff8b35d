import CjkProse.Toml.Literal

/-!
# Tables of TOML

A document builds up tables within tables.  A header opens a table, or adds one to a list of tables;
an entry puts a value under a key, which may lead through further tables.  What has been opened
once by a header or by a dotted key, and what has been written as one value, cannot be opened
again.

## Main definitions

* `Entries` — a table: its keys and values in the order in which they appear.
* `Entries.within` — changing the table that a key leads to.
* `Marks` — what may not be opened again, or not be changed at all.
-/

namespace CjkProse.Toml

/-- A table. -/
abbrev Entries := List (Value × Value)

namespace Entries

/-- The value under a part of a key. -/
def get? (entries : Entries) (part : Text) : Option Value :=
  (entries.find? fun entry => entry.1.text? == some part).map Prod.snd

/-- Puts a value under a part of a key, in its old place if it has one. -/
def put (part : Text) (v : Value) : Entries → Entries
  | [] => [(.text part, v)]
  | entry :: entries =>
    if entry.1.text? == some part then (.text part, v) :: entries
    else entry :: put part v entries

/-- The last of some values, as a table, and those before it. -/
def lastTable? (items : List Value) : Option (List Value × Entries) :=
  match items.reverse with
  | .map entries :: before => some (before.reverse, entries)
  | _ => none

/-- Changes the table that a key leads to.  Tables on the way are made as needed; with `lists`, a
list of tables stands for its last one. -/
def within (lists : Bool) (change : Entries → Option Entries) : Key → Entries → Option Entries
  | [], entries => change entries
  | part :: key, entries =>
    match entries.get? part with
    | none => (within lists change key []).map fun inner => entries.put part (.map inner)
    | some (.map inner) =>
      (within lists change key inner).map fun inner => entries.put part (.map inner)
    | some (.list items) =>
      if lists then
        match lastTable? items with
        | none => none
        | some (before, inner) =>
          (within lists change key inner).map fun inner =>
            entries.put part (.list (before ++ [.map inner]))
      else none
    | some _ => none

/-- Puts a value under a key that has none. -/
def insert (lists : Bool) (key : Key) (v : Value) : Entries → Option Entries :=
  within lists
    (fun entries =>
      match key.getLast? with
      | none => none
      | some part => if (entries.get? part).isSome then none else some (entries.put part v))
    key.dropLast

/-- Makes sure that a key leads to a table. -/
def openTable (key : Key) : Entries → Option Entries := within true some key

/-- Adds an empty table to the list of tables that a key leads to. -/
def addTable (key : Key) : Entries → Option Entries :=
  within true
    (fun entries =>
      match key.getLast? with
      | none => none
      | some part =>
        match entries.get? part with
        | none => some (entries.put part (.list [.map []]))
        | some (.list items) => some (entries.put part (.list (items ++ [.map []])))
        | some _ => none)
    key.dropLast

end Entries

/-! ### Marks -/

/-- Keys of tables that may not be opened by a header again, and keys of values that may not be
changed at all, in any part of them. -/
structure Marks where
  /-- Tables that have been opened. -/
  opened : List Key
  /-- Values that are whole. -/
  frozen : List Key
  deriving DecidableEq, Repr, Inhabited

namespace Marks

/-- No marks. -/
def empty : Marks := ⟨[], []⟩

/-- Whether a key may not be changed, since a value that it leads into is whole. -/
def isFrozen (marks : Marks) (key : Key) : Bool := marks.frozen.any fun k => k.isPrefixOf key

/-- Whether a table has been opened. -/
def isOpened (marks : Marks) (key : Key) : Bool := marks.opened.contains key

/-- Marks tables as opened. -/
def setOpened (keys : List Key) (marks : Marks) : Marks :=
  { marks with opened := keys ++ marks.opened }

/-- Marks a value as whole. -/
def freeze (key : Key) (marks : Marks) : Marks := { marks with frozen := key :: marks.frozen }

/-- Takes back the marks on a key and on all that it leads to. -/
def clear (key : Key) (marks : Marks) : Marks :=
  { opened := marks.opened.filter fun k => !key.isPrefixOf k
    frozen := marks.frozen.filter fun k => !key.isPrefixOf k }

end Marks

/-- Whether a value is a list or a table. -/
def isNested : Value → Bool
  | .list _ => true
  | .map _ => true
  | _ => false

end CjkProse.Toml
