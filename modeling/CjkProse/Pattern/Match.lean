import CjkProse.Pattern.Read
import CjkProse.Span

/-!
# Matching

A pattern is matched at a place of a text by trying its parts from left to right, and going back to
the last choice when a later part fails.  What is still to be matched is passed along as a
continuation, so each part is tried once for each way in which the parts before it match.

The matches in a text are found from left to right.  Each starts at or after the end of the one
before it, and after an empty match there is no other empty one at the same place.

## Main definitions

* `Place`, `Kept` — a place in a text, and what numbered groups have kept.
* `Pattern.run` — matching at a place.
* `Pattern.Found`, `findAll` — all matches in a text.
-/

namespace CjkProse.Pattern

/-- A place in a text. -/
structure Place where
  /-- The number of characters before it. -/
  index : Nat
  /-- The characters before it, the nearest one first. -/
  before : Text
  /-- The characters after it. -/
  after : Text
  deriving DecidableEq, Repr, Inhabited

namespace Place

/-- The start of a text. -/
def start (text : Text) : Place := ⟨0, [], text⟩

/-- The place one character further on, and that character. -/
def next? : Place → Option (Char × Place)
  | ⟨_, _, []⟩ => none
  | ⟨i, before, c :: after⟩ => some (c, ⟨i + 1, c :: before, after⟩)

/-- The place `n` characters back. -/
def back? : Nat → Place → Option Place
  | 0, p => some p
  | n + 1, ⟨i, c :: before, after⟩ => back? n ⟨i - 1, before, c :: after⟩
  | _ + 1, ⟨_, [], _⟩ => none

end Place

/-- What numbered groups have kept: for each number a start and an end, the latest one first. -/
abbrev Kept := List (Nat × Nat × Nat)

/-- The start and the end of what is kept under a number. -/
def Kept.get? (kept : Kept) (n : Nat) : Option (Nat × Nat) :=
  (kept.find? fun entry => entry.1 == n).map Prod.snd

/-- A match up to some place. -/
abbrev Outcome := Option (Place × Kept)

/-- What is still to be matched. -/
abbrev Later := Place → Kept → Outcome

/-! ### Conditions on places -/

/-- Whether a place is between a word character and another one. -/
def atWordEdge (ascii : Bool) (p : Place) : Bool :=
  let word (c : Char) : Bool := CharClass.word.holds ascii c
  p.before.head?.any word != p.after.head?.any word

/-- Whether a place meets an anchor.  In the empty text no place is within or at the edge of a
word. -/
def Anchor.holds (p : Place) : Anchor → Bool
  | textStart => p.before.isEmpty
  | textEnd => p.after.isEmpty
  | lineStart => p.before.isEmpty || p.before.head? == some '\n'
  | lineEnd => p.after.isEmpty || p.after.head? == some '\n'
  | lastLineEnd => p.after.isEmpty || p.after == ['\n']
  | wordEdge inner ascii =>
    !(p.before.isEmpty && p.after.isEmpty) && atWordEdge ascii p != inner

/-! ### Parts -/

/-- Two characters are the same, maybe up to case. -/
def sameChar (ignoreCase ascii : Bool) (c d : Char) : Bool :=
  if ignoreCase then
    if ascii then c.toLower == d.toLower else Unicode.lowerChar c == Unicode.lowerChar d
  else c == d

/-- The place after a given text, when that is what follows. -/
def follow? (same : Char → Char → Bool) : Text → Place → Option Place
  | [], p => some p
  | c :: cs, p =>
    match p.next? with
    | some (d, q) => if same c d then follow? same cs q else none
    | none => none

/-- A part of a pattern: it matches from a place on, and then what is still to be matched does. -/
abbrev Part := Later → Later

/-- The first match of a part by itself. -/
def Part.alone (body : Part) : Later := body fun q kept => some (q, kept)

/-- Whether one more match is allowed after `count` of them. -/
def mayRepeat (most : Option Nat) (count : Nat) : Bool := most.all (count < ·)

/-- A part as often as it matches.  After the least count, a match that starts where the one before
it started is not tried.  The first number bounds the steps. -/
def greedily (body : Part) (least : Nat) (most : Option Nat) :
    Nat → Nat → Option Nat → Part
  | 0, _, _, _, _, _ => none
  | n + 1, count, last, later, p, kept =>
    if count < least then body (greedily body least most n (count + 1) last later) p kept
    else
      let longer :=
        if mayRepeat most count && last != some p.index then
          body (greedily body least most n (count + 1) (some p.index) later) p kept
        else none
      longer.or (later p kept)

/-- A part as seldom as may be. -/
def lazily (body : Part) (least : Nat) (most : Option Nat) :
    Nat → Nat → Option Nat → Part
  | 0, _, _, _, _, _ => none
  | n + 1, count, last, later, p, kept =>
    if count < least then body (lazily body least most n (count + 1) last later) p kept
    else
      match later p kept with
      | some outcome => some outcome
      | none =>
        if mayRepeat most count && last != some p.index then
          body (lazily body least most n (count + 1) (some p.index) later) p kept
        else none

/-- A part as often as it matches, each time by its first match only. -/
def possessively (body : Part) (least : Nat) (most : Option Nat) :
    Nat → Nat → Option Nat → Later
  | 0, _, _, _, _ => none
  | n + 1, count, last, p, kept =>
    if count < least then
      match body.alone p kept with
      | some (q, kept) => possessively body least most n (count + 1) last q kept
      | none => none
    else if mayRepeat most count && last != some p.index then
      match body.alone p kept with
      | some (q, kept) => possessively body least most n (count + 1) (some p.index) q kept
      | none => some (p, kept)
    else some (p, kept)

/-- A part some times over.  Past the least count each match but the last takes up a character, so
the steps are bounded. -/
def several (least : Nat) (most : Option Nat) (greed : Greed) (body : Part) : Part :=
  fun later p kept =>
    let bound := least + p.after.length + 2
    match greed with
    | .greedy => greedily body least most bound 0 none later p kept
    | .lazy => lazily body least most bound 0 none later p kept
    | .possessive =>
      (possessively body least most bound 0 none p kept).bind fun (q, kept) => later q kept

/-- Matches a pattern at a place of `text`. -/
def run (text : Text) : Pattern → Part
  | .empty, later => later
  | .one s, later => fun p kept =>
    match p.next? with
    | some (c, q) => if s.holds c then later q kept else none
    | none => none
  | .anchor a, later => fun p kept => if a.holds p then later p kept else none
  | .seq a b, later => run text a (run text b later)
  | .alt a b, later => fun p kept => (run text a later p kept).or (run text b later p kept)
  | .capture n a, later => fun p kept =>
    run text a (fun q kept => later q ((n, p.index, q.index) :: kept)) p kept
  | .again n ignoreCase ascii, later => fun p kept =>
    match kept.get? n with
    | none => none
    | some (first, last) =>
      match follow? (sameChar ignoreCase ascii) ((text.drop first).take (last - first)) p with
      | some q => later q kept
      | none => none
  | .ahead negated a, later => fun p kept =>
    match Part.alone (run text a) p kept, negated with
    | some (_, kept), false => later p kept
    | none, true => later p kept
    | _, _ => none
  | .behind negated width a, later => fun p kept =>
    match (p.back? width).bind fun q => Part.alone (run text a) q kept, negated with
    | some (_, kept), false => later p kept
    | none, true => later p kept
    | _, _ => none
  | .given n a b, later => fun p kept =>
    if (kept.get? n).isSome then run text a later p kept else run text b later p kept
  | .atomic a, later => fun p kept =>
    (Part.alone (run text a) p kept).bind fun (q, kept) => later q kept
  | .many least most greed a, later => several least most greed (run text a) later

/-! ### All matches -/

/-- A match in a text: where it starts and ends, and what was kept. -/
structure Found where
  /-- The number of characters before it. -/
  first : Nat
  /-- The place after it. -/
  stop : Place
  /-- What the groups have kept. -/
  kept : Kept
  deriving Repr

/-- The match at a place; a proper one takes up a character. -/
def matchAt (text : Text) (p : Pattern) (proper : Bool) (at_ : Place) : Option Found :=
  (run text p (fun q kept => if proper && q.index == at_.index then none else some (q, kept))
    at_ []).map fun (q, kept) => ⟨at_.index, q, kept⟩

/-- The first match at or after the place with `after` to come. -/
def findFrom (text : Text) (p : Pattern) (proper : Bool) (index : Nat) (before : Text) :
    Text → Option Found
  | [] => matchAt text p proper ⟨index, before, []⟩
  | c :: after =>
    match matchAt text p proper ⟨index, before, c :: after⟩ with
    | some found => some found
    | none => findFrom text p false (index + 1) (c :: before) after

/-- The matches from a place on.  The number bounds how many there are. -/
def findAllFrom (text : Text) (p : Pattern) : Nat → Bool → Place → List Found
  | 0, _, _ => []
  | n + 1, proper, place =>
    match findFrom text p proper place.index place.before place.after with
    | none => []
    | some found => found :: findAllFrom text p n (found.stop.index == found.first) found.stop

/-- The matches in a text.  There are at most two for each place. -/
def findAll (p : Pattern) (text : Text) : List Found :=
  findAllFrom text p (2 * text.length + 2) false (.start text)

end CjkProse.Pattern
