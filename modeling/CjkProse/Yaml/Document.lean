import CjkProse.Yaml.Node

/-!
# The value of a YAML document

A node has a value by its tag.  Mappings under a merge key give their entries to the mapping that
holds it, before its own ones.  Of two entries with the same text as key the later one counts, in the
place of the earlier.

## Main definitions

* `Node.merge` — the entries of a mapping with those merged into it.
* `Node.toValue` — the value of a node.
* `Yaml.read` — the value of a document.
-/

namespace CjkProse.Yaml

/-- The tag of a node. -/
def Node.tag : Node → Tag
  | scalar t _ => t
  | sequence t _ => t
  | mapping t _ => t
  | loop isMapping => if isMapping then .map else .seq

/-! ### Merging -/

mutual

/-- The entries of a mapping, those merged into it first; none if something else is to be merged.
The number bounds how deep mappings are merged. -/
def merged : Nat → List (Node × Node) → Option (List (Node × Node))
  | 0, _ => none
  | n + 1, entries => do
    let own := entries.filter fun e => e.1.tag != .merge
    let others ← mergedAll n ((entries.filter fun e => e.1.tag == .merge).map Prod.snd)
    return others ++ own

/-- The entries of the mappings under some merge keys. -/
def mergedAll : Nat → List Node → Option (List (Node × Node))
  | 0, _ => none
  | _ + 1, [] => some []
  | n + 1, .mapping _ entries :: nodes => do
    return (← merged n entries) ++ (← mergedAll n nodes)
  | n + 1, .sequence _ items :: nodes => do
    return (← mergedItems n items) ++ (← mergedAll n nodes)
  | n + 1, .loop true :: nodes => mergedAll n nodes
  | _ + 1, _ :: _ => none

/-- The entries of a list of mappings; the first one counts most and so comes last. -/
def mergedItems : Nat → List Node → Option (List (Node × Node))
  | 0, _ => none
  | _ + 1, [] => some []
  | n + 1, .mapping _ entries :: nodes => do
    return (← mergedItems n nodes) ++ (← merged n entries)
  | n + 1, .loop true :: nodes => mergedItems n nodes
  | _ + 1, _ :: _ => none

end

/-! ### Texts and bytes -/

/-- The text of a node: its own, or that of the value which stands for a mapping.  The number bounds
how deep it is looked for. -/
def textOf : Nat → Node → Option Text
  | _, .scalar _ text => some text
  | n + 1, .mapping _ entries =>
    match entries.find? fun e => e.1.tag == .value with
    | some e => textOf n e.2
    | none => none
  | _, _ => none

/-- The value of a digit of base 64. -/
def sixBits? (c : Char) : Option Nat :=
  if c.isUpper then some (c.toNat - 0x41)
  else if c.isLower then some (c.toNat - 0x61 + 26)
  else if c.isDigit then some (c.toNat - 0x30 + 52)
  else if c == '+' then some 62
  else if c == '/' then some 63
  else none

/-- The bytes that digits of base 64 write, after `count` digits of a group of four with the bits
`left` still to be used, and `pads` signs that fill up the group.  Other characters are passed
over. -/
def bytesFrom (count left pads : Nat) : Text → Option (List UInt8)
  | [] => if count = 0 then some [] else none
  | c :: cs =>
    if c == '=' then
      if 2 ≤ count ∧ 4 ≤ count + pads + 1 then some []
      else bytesFrom count left (if 2 ≤ count then pads + 1 else pads) cs
    else
      match sixBits? c with
      | none => bytesFrom count left pads cs
      | some six =>
        let bits := left * 64 + six
        match count with
        | 0 => bytesFrom 1 six 0 cs
        | 1 => (bytesFrom 2 (bits % 16) 0 cs).map (UInt8.ofNat (bits / 16) :: ·)
        | 2 => (bytesFrom 3 (bits % 4) 0 cs).map (UInt8.ofNat (bits / 4) :: ·)
        | _ => (bytesFrom 0 0 0 cs).map (UInt8.ofNat bits :: ·)

/-- The bytes that a text in base 64 writes. -/
def bytesOf (text : Text) : Option (List UInt8) :=
  if text.all fun c => c.toNat < 0x80 then bytesFrom 0 0 0 text else none

/-! ### Values -/

/-- A value, or a fault if there is none. -/
def orMalformed {α : Type} : Option α → Except Fault α
  | some a => .ok a
  | none => .error .malformed

/-- The value of a text that is told to be something. -/
def scalarValue (tag : Tag) (text : Text) : Except Fault Value :=
  match tag with
  | .null => .ok .null
  | .str => .ok (.text text)
  | .bool =>
    match boolOf? text with
    | some b => .ok (.bool b)
    | none => .error (.value .notBool)
  | .int => ((intOf text).map Value.int).mapError .value
  | .float => ((floatOf text).map Value.float).mapError .value
  | .timestamp => ((momentOf text).map Value.moment).mapError .value
  | .binary => (orMalformed (bytesOf text)).map Value.bytes
  | _ => .error .malformed

/-- Puts an entry after others; under a text that is a key already it takes the place of that
one. -/
def putEntry (key v : Value) : List (Value × Value) → List (Value × Value)
  | [] => [(key, v)]
  | e :: entries =>
    if key.text?.isSome && e.1.text? == key.text? then (e.1, v) :: entries
    else e :: putEntry key v entries

/-- The tags of what is written as a text. -/
def isTextual (tag : Tag) : Bool :=
  [Tag.null, .bool, .int, .float, .binary, .timestamp, .str].contains tag

mutual

/-- The value of a node.  The number bounds how deep it goes. -/
def toValue : Nat → Node → Except Fault Value
  | 0, _ => .error .malformed
  | n + 1, node =>
    if isTextual node.tag then do scalarValue node.tag (← orMalformed (textOf n node))
    else
      match node.tag, node with
      | .seq, .sequence _ items => (toValues n items).map Value.list
      | .omap, .sequence _ items => (toPairs n items).map Value.list
      | .pairs, .sequence _ items => (toPairs n items).map Value.list
      | .map, .mapping _ entries => do
        return .map (← toEntries n [] (← orMalformed (merged n entries)))
      | .set, .mapping _ entries => do
        return .set ((← toEntries n [] (← orMalformed (merged n entries))).map Prod.fst)
      | _, .loop true => .ok (.map [(.null, .null)])
      | _, .loop false => .ok (.list [.null])
      | _, _ => .error .malformed

/-- The values of nodes. -/
def toValues : Nat → List Node → Except Fault (List Value)
  | 0, _ => .error .malformed
  | _ + 1, [] => .ok []
  | n + 1, node :: nodes => do
    let v ← toValue n node
    return v :: (← toValues n nodes)

/-- The values of mappings of one entry each, as pairs. -/
def toPairs : Nat → List Node → Except Fault (List Value)
  | 0, _ => .error .malformed
  | _ + 1, [] => .ok []
  | n + 1, .mapping _ [(key, v)] :: nodes => do
    let key ← toValue n key
    let v ← toValue n v
    return .list [key, v] :: (← toPairs n nodes)
  | _ + 1, _ :: _ => .error .malformed

/-- The entries of a mapping after those so far.  A key is a plain value. -/
def toEntries : Nat → List (Value × Value) → List (Node × Node) →
    Except Fault (List (Value × Value))
  | 0, _, _ => .error .malformed
  | _ + 1, before, [] => .ok before
  | n + 1, before, (key, v) :: entries => do
    let key ← if key.tag == .value then .text <$> orMalformed (textOf n key) else toValue n key
    unless key.isPlain do throw .malformed
    let v ← toValue n v
    toEntries n (putEntry key v before) entries

end

/-- The value of a document; a text without one has the value null. -/
def read (text : Text) : Except Fault Value := do
  let tokens ← tokens text
  match ← compose tokens with
  | none => return .null
  | some node => toValue (Nat.pow (text.length + 8) 3) node

end CjkProse.Yaml
