import CjkProse.Atom
import CjkProse.Node.Basic
import CjkProse.ParseError

/-!
# Nodes from atoms

The atoms of a block are read from left to right.  Letters of one width are gathered into runs, the
spaces after a piece are given to it, and a quotation mark that opens starts a group which lasts to
the mark that closes it.  The straight marks open and close alike; an apostrophe between two
half-width letters is no quotation mark at all.

A group within another is read by a call within a call.  That only so many calls may be open at a
time is left aside here: however deeply quotations nest, they are read.

## Main definitions

* `Reader` — the atom just read, and the atoms to come.
* `Node.read` — one node from the head of a stream.
* `Block`, `Block.ofAtoms` — the blocks of a stream.
* `Block.parse` — the paragraph of a block, or why there is none.
* `parseParagraphs` — the paragraphs of a stream, each read on its own.
-/

namespace CjkProse

/-- A place in a stream of atoms. -/
structure Reader where
  /-- The atom just read, if any. -/
  prev : Option Atom
  /-- The atoms to come. -/
  rest : List Atom
  deriving DecidableEq, Repr, Inhabited

namespace Reader

/-- Whether an atom is a half-width letter. -/
def isHalfLetter (a : Option Atom) : Bool := a.any (Atom.isKind .letterHalf)

/-- Whether an apostrophe at the head of `rest` stands between two half-width letters. -/
def atContraction (r : Reader) : Bool :=
  match r.rest with
  | .char '\'' _ :: next => isHalfLetter r.prev && isHalfLetter next.head?
  | _ => false

/-- Reads the atoms at the head for as long as they are characters of kind `k`. -/
def takeKind (k : CharKind) : Reader → List (Char × Span) × Reader
  | ⟨prev, rest⟩ => go prev rest
where
  /-- The run at the head of `rest`, after the atom `prev`. -/
  go (prev : Option Atom) : List Atom → List (Char × Span) × Reader
    | .char c s :: rest =>
      if CharKind.of c = k then
        let (run, r) := go (some (.char c s)) rest
        ((c, s) :: run, r)
      else ([], ⟨prev, .char c s :: rest⟩)
    | rest => ([], ⟨prev, rest⟩)

/-- The offset at which a run ends that starts at `start`. -/
def runStop (start : Int) : List (Char × Span) → Int
  | [] => start
  | (_, s) :: run => runStop s.stop run

/-- Reads the spaces at the head.  Their span starts at `anchor`, the end of the piece before. -/
def takeSpace (anchor : Int) (r : Reader) : Revisable Space × Reader :=
  let (run, r) := r.takeKind .space
  ({ original := run.map Prod.fst, span := ⟨anchor, runStop anchor run⟩ }, r)

end Reader

namespace Node

/-- Whether `r` is at the end of a paragraph (`closer` is `none`) or at the mark that closes a
group. -/
def atClose (closer : Option Char) (r : Reader) : Bool :=
  match closer, r.rest with
  | some c, .char d _ :: _ => c == d && !r.atContraction
  | _, _ => false

/-- Reads a run of letters of kind `k` from the head, which is one of them and starts at `start`. -/
def readRun (k : CharKind) (start : Int) (r : Reader) : Node × Reader :=
  let (run, r) := r.takeKind k
  let stop := Reader.runStop start run
  let value : Revisable Text := { original := run.map Prod.fst, span := ⟨start, stop⟩ }
  let (after, r) := r.takeSpace stop
  (if k = .letterHalf then .half value after else .full value after, r)

/-- The mark that closes the group which the mark at the head opens, if it opens one. -/
def closerOf (c : Char) (r : Reader) : Option Char :=
  match Punct.closing? c with
  | some d => some d
  | none => if Punct.westernQuote.contains c && !r.atContraction then some c else none

mutual

/-- Reads one node.  The first argument bounds the number of calls. -/
def readFuel : Nat → Reader → Except ParseError (Node × Reader)
  | 0, _ => .error (.unspecified none)
  | fuel + 1, r =>
    match r.rest with
    | [] => .error (.unexpectedEnd none)
    | .event e s :: rest =>
      if e.isBlockEnd then .error (.unexpectedEnd (some s))
      else
        let (after, r) := Reader.takeSpace s.stop ⟨some (.event e s), rest⟩
        .ok (.event e s after, r)
    | .char c s :: rest =>
      match CharKind.of c with
      | .letterHalf => .ok (readRun .letterHalf s.start r)
      | .letterFull => .ok (readRun .letterFull s.start r)
      | _ =>
        match closerOf c r with
        | some closer =>
          let (inner, r) := Reader.takeSpace s.stop ⟨some (.char c s), rest⟩
          match readAllFuel fuel (some closer) s r with
          | .error e => .error e
          | .ok (nodes, r) =>
            match r.rest with
            | .char d t :: rest =>
              let (after, r) := Reader.takeSpace t.stop ⟨some (.char d t), rest⟩
              .ok (.group { original := c, span := s } inner nodes
                { original := d, span := t } after, r)
            | _ => .error (.unspecified none)
        | none =>
          if Punct.chineseRightQuote.contains c then .error (.unclosedQuote [c] (some s))
          else
            let (after, r) := Reader.takeSpace s.stop ⟨some (.char c s), rest⟩
            .ok (.char { original := c, span := s } after, r)

/-- Reads nodes up to the mark `closer`, or to the end of the atoms when there is none.  What was
opened at `opener` is left open if a closing mark does not come. -/
def readAllFuel : Nat → Option Char → Span → Reader → Except ParseError (List Node × Reader)
  | 0, _, _, _ => .error (.unspecified none)
  | fuel + 1, closer, opener, r =>
    if atClose closer r then .ok ([], r)
    else
      match r.rest with
      | [] => if closer.isNone then .ok ([], r) else .error (.unexpectedEnd (some opener))
      | a :: _ =>
        if a.isBlockEnd then .error (.unexpectedEnd (some opener))
        else
          match readFuel fuel r with
          | .error e => .error e
          | .ok (node, r) =>
            match readAllFuel fuel closer opener r with
            | .error e => .error e
            | .ok (nodes, r) => .ok (node :: nodes, r)

end

/-- Reads one node from the head of a stream.  Two calls are made for each atom at most. -/
def read (r : Reader) : Except ParseError (Node × Reader) := readFuel (2 * r.rest.length + 2) r

end Node

/-! ### Blocks -/

/-- A block of a stream: the span of its start, the atoms in it, and whether its end was met. -/
structure Block where
  /-- The span of the event that starts it. -/
  start : Span
  /-- The event that starts it. -/
  opening : Event
  /-- The atoms between its start and its end. -/
  body : List Atom
  /-- Whether the stream holds its end. -/
  closed : Bool
  deriving DecidableEq, Repr, Inhabited

namespace Block

/-- The blocks of a stream.  The first argument is the block that the atoms are in, with its body
so far in reverse order.  A block ends at the first end of a block after its start, and what stands
outside of blocks is passed over. -/
def split : Option (Event × Span × List Atom) → List Atom → List Block
  | none, [] => []
  | some (e, s, body), [] => [⟨s, e, body.reverse, false⟩]
  | none, .event e s :: atoms =>
    if e.isBlockStart then split (some (e, s, [])) atoms else split none atoms
  | none, .char _ _ :: atoms => split none atoms
  | some (e, s, body), a :: atoms =>
    if a.isBlockEnd then ⟨s, e, body.reverse, true⟩ :: split none atoms
    else split (some (e, s, a :: body)) atoms

/-- The blocks of a stream. -/
def ofAtoms (atoms : List Atom) : List Block := split none atoms

/-- The paragraph that a block holds. -/
def parse (b : Block) : Except ParseError Paragraph :=
  match Node.readAllFuel (2 * b.body.length + 2) none b.start
      ⟨some (.event b.opening b.start), b.body⟩ with
  | .error e => .error e
  | .ok (nodes, _) => if b.closed then .ok nodes else .error (.unexpectedEnd (some b.start))

end Block

/-- The paragraphs of a stream of atoms, one for each block.  One that cannot be read does not stand
in the way of the others. -/
def parseParagraphs (atoms : List Atom) : List (Except ParseError Paragraph) :=
  (Block.ofAtoms atoms).map Block.parse

end CjkProse
