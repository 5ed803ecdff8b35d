import CjkProse.Markdown.Html
import CjkProse.Markdown.Link
import CjkProse.Markdown.Token

/-!
# What stands at a place of inline content

A piece of inline markup can be recognised from the text at its head, apart from runs of emphasis
marks, which need the whole content.  To find the end of the text of a link, the pieces in it are
skipped one by one, and a link in it is such a piece; so recognising a piece and skipping one depend
on each other, to a bounded depth of nesting.

How far a piece reaches is remembered for each place, at the depth at which it was first asked for.

## Main definitions

* `SkipCache` — the ends of pieces that are known.
* `Lexeme` — a piece of inline markup.
* `labelEnd` — the bracket that ends the text of a link.
* `lexemeAt` — the piece at the head of a text, and its length.
* `skipPiece` — the place after the piece at a place.
-/

namespace CjkProse.Markdown

/-- The ends of pieces that are known, by where they start. -/
abbrev SkipCache := List (Nat × Nat)

/-- The place after a piece at the given place, of which the text from there on is given. -/
abbrev Skip := Nat → Text → SkipCache → Nat × SkipCache

/-- A piece of inline markup. -/
inductive Lexeme
  /-- Characters that mean nothing. -/
  | plain
  /-- A line feed. -/
  | newline
  /-- A line feed after a backslash. -/
  | escapedNewline
  /-- A backslash and the character after it, and what they stand for. -/
  | escape (content : Text)
  /-- Inline code between runs of backticks. -/
  | code (content markup : Text)
  /-- An address between angle brackets. -/
  | bareLink
  /-- A link whose text has the given length. -/
  | link (labelLength : Nat)
  /-- An image. -/
  | image
  /-- A piece of HTML. -/
  | html
  /-- An entity and what it stands for. -/
  | entity (content : Text)
  deriving DecidableEq, Repr

/-! ### Pieces without nesting -/

/-- The number of spaces and tabs at the head of a text. -/
def blankCount (t : Text) : Nat := (t.takeWhile isSpaceOrTab).length

/-- The number of characters before a run of exactly `width` backticks.  `run` is the number of
backticks directly before the text. -/
def closingTicks? (width run : Nat) : Text → Option Nat
  | [] => if run = width then some 0 else none
  | c :: cs =>
    if c.toNat == 0x60 then (closingTicks? width (run + 1) cs).map (· + 1)
    else if run = width then some 0
    else (closingTicks? width 0 cs).map (· + 1)

/-- What inline code says: line ends are spaces, and one space at each end is no part of it unless
there is nothing else. -/
def codeContent (t : Text) : Text :=
  let t := t.map fun c => if c == '\n' then ' ' else c
  if t.head? == some ' ' && t.getLast? == some ' ' && !(Text.trimBlank t).isEmpty then
    (t.drop 1).dropLast
  else t

/-- Inline code, or a run of backticks that closes nothing. -/
def codeAt (t : Text) : Lexeme × Nat :=
  let width := (t.takeWhile fun c => c.toNat == 0x60).length
  let body := t.drop width
  match closingTicks? width 0 body with
  | none => (.plain, width)
  | some n => (.code (codeContent (body.take (n - width))) (t.take width), width + n)

/-- An escape, unless the backslash stands last. -/
def escapeAt? : Text → Option (Lexeme × Nat)
  | '\n' :: cs => some (.escapedNewline, 2 + blankCount cs)
  | c :: _ => some (.escape (if isEscapable c then [c] else ['\\', c]), 2)
  | [] => none

/-- The characters of a scheme after its first letter. -/
def isSchemeChar (c : Char) : Bool :=
  Html.isAsciiLetter c || Html.isAsciiDigit c || c == '+' || c == '.' || c == '-'

/-- A text without a line feed at its end. -/
def chompNewline (t : Text) : Text := if t.getLast? == some '\n' then t.dropLast else t

/-- Whether a text is an address with a scheme. -/
def isUri (t : Text) : Bool :=
  let scheme := t.takeWhile fun c => c != ':'
  match scheme, t.drop scheme.length with
  | c :: cs, ':' :: rest =>
    Html.isAsciiLetter c && 1 ≤ cs.length && cs.length ≤ 31 && cs.all isSchemeChar &&
      (chompNewline rest).all fun c => c.toNat > 0x20 && c != '<' && c != '>'
  | _, _ => false

/-- The characters of a mailbox before the at sign. -/
def isMailboxChar (c : Char) : Bool :=
  Html.isAsciiLetter c || Html.isAsciiDigit c || c.toNat == 0x60 ||
    ".!#$%&'*+/=?^_\x7b|\x7d~-".toList.contains c

/-- Whether a text is a label of a domain: letters, digits and hyphens, no hyphen at its ends. -/
def isDomainLabel (t : Text) : Bool :=
  let isEdge (c : Char) : Bool := Html.isAsciiLetter c || Html.isAsciiDigit c
  t.length ≤ 63 && t.head?.any isEdge && t.getLast?.any isEdge &&
    t.all fun c => isEdge c || c == '-'

/-- Whether a text is a mail address. -/
def isMailAddress (t : Text) : Bool :=
  let t := chompNewline t
  let mailbox := t.takeWhile fun c => c != '@'
  match t.drop mailbox.length with
  | '@' :: domain =>
    !mailbox.isEmpty && mailbox.all isMailboxChar && (Text.splitOn '.' domain).all isDomainLabel
  | _ => false

/-- The number of characters before the `>` that ends an address between angle brackets. -/
def addressLength? : Text → Option Nat
  | [] => none
  | '<' :: _ => none
  | '>' :: _ => some 0
  | _ :: cs => (addressLength? cs).map (· + 1)

/-- The length of an address between angle brackets, the first of them left out. -/
def bareLinkLength? (t : Text) : Option Nat := do
  let n ← addressLength? t
  let address := t.take n
  if (isUri address && isSafe address) || isMailAddress address then some (n + 1) else none

/-- The length of a piece of HTML. -/
def htmlLength? (t : Text) : Option Nat :=
  match t with
  | _ :: c :: _ :: _ =>
    if c == '!' || c == '?' || c == '/' || Html.isAsciiLetter c then Html.inlineLength? t else none
  | _ => none

/-- A piece that starts with an angle bracket. -/
def angleAt? (t : Text) : Option (Lexeme × Nat) :=
  match bareLinkLength? (t.drop 1) with
  | some n => some (.bareLink, n + 1)
  | none => (htmlLength? t).map fun n => (.html, n)

/-! ### Links and images -/

/-- The number of characters before the bracket that ends a label.  `depth` is the number of
brackets open, `pending` the number of characters that belong to a piece already skipped.  A label
must not hold a link if `noLinks` is set. -/
def labelEndFrom (skip : Skip) (noLinks : Bool) (depth pending pos : Nat) (cache : SkipCache) :
    Text → Option Nat × SkipCache
  | [] => (none, cache)
  | c :: cs =>
    let next (depth pending : Nat) (cache : SkipCache) : Option Nat × SkipCache :=
      let (n, cache) := labelEndFrom skip noLinks depth pending (pos + 1) cache cs
      (n.map (· + 1), cache)
    if 0 < pending then next depth (pending - 1) cache
    else if c == ']' && depth ≤ 1 then (some 0, cache)
    else
      let depth := if c == ']' then depth - 1 else depth
      let (stop, cache) := skip pos (c :: cs) cache
      if c == '[' then
        if stop = pos + 1 then next (depth + 1) 0 cache
        else if noLinks then (none, cache)
        else next depth (stop - pos - 1) cache
      else next depth (stop - pos - 1) cache

/-- The number of characters between the bracket at `pos` that starts a label, after which `t`
stands, and the bracket that ends it. -/
def labelEnd (skip : Skip) (noLinks : Bool) (pos : Nat) (t : Text) (cache : SkipCache) :
    Option Nat × SkipCache :=
  labelEndFrom skip noLinks 1 0 (pos + 1) cache t

/-- The number of characters of an address and a title up to where the round bracket that ends them
should stand, unless the content ends before them. -/
def targetLength? (t : Text) : Option Nat :=
  let blanks := (t.takeWhile isSpaceOrNewline).length
  let rest := t.drop blanks
  if rest.isEmpty then none
  else
    match destination? rest with
    | none => some blanks
    | some (address, n) =>
      let n := if isSafe address then n else 0
      let rest := rest.drop n
      let gap := (rest.takeWhile isSpaceOrNewline).length
      match if gap = 0 then none else title? (rest.drop gap) with
      | none => some (blanks + n + gap)
      | some (_, m) =>
        let rest := rest.drop (gap + m)
        some (blanks + n + gap + m + (rest.takeWhile isSpaceOrNewline).length)

/-- The length of a link or image that refers to a definition.  Its text is the label from index `1`
on, of length `n`, in `t`; the place `at` is where a label of its own may stand. -/
def referenceLength (skip : Skip) (labels : List Text) (pos : Nat) (t : Text) (n place : Nat)
    (cache : SkipCache) : Option Nat × SkipCache :=
  if labels.isEmpty then (none, cache)
  else
    let (own, cache) :=
      match t.drop place with
      | '[' :: rest =>
        let (m, cache) := labelEnd skip false (pos + place) rest cache
        (m.map fun m => (rest.take m, place + m + 2), cache)
      | _ => (none, cache)
    let (label, stop) := own.getD ([], n + 2)
    let label := if label.isEmpty then (t.drop 1).take n else label
    (if labels.contains (normalLabel label) then some stop else none, cache)

/-- The length of the text of a link and of the whole link at the head of `t`. -/
def linkAt (skip : Skip) (labels : List Text) (pos : Nat) (t : Text) (cache : SkipCache) :
    Option (Nat × Nat) × SkipCache :=
  match labelEnd skip true pos (t.drop 1) cache with
  | (none, cache) => (none, cache)
  | (some n, cache) =>
    let refer (place : Nat) : Option (Nat × Nat) × SkipCache :=
      let (stop, cache) := referenceLength skip labels pos t n place cache
      (stop.map fun m => (n, m), cache)
    match t.drop (n + 2) with
    | '(' :: rest =>
      match targetLength? rest with
      | none => (none, cache)
      | some k =>
        if (rest.drop k).head? == some ')' then (some (n, n + k + 4), cache)
        else refer (n + k + 4)
    | _ => refer (n + 2)

/-- The length of an image, the exclamation mark before `t` left out. -/
def imageAt (skip : Skip) (labels : List Text) (pos : Nat) (t : Text) (cache : SkipCache) :
    Option Nat × SkipCache :=
  match labelEnd skip false pos (t.drop 1) cache with
  | (none, cache) => (none, cache)
  | (some n, cache) =>
    match t.drop (n + 2) with
    | '(' :: rest =>
      match targetLength? rest with
      | none => (none, cache)
      | some k =>
        (if (rest.drop k).head? == some ')' then some (n + k + 4) else none, cache)
    | _ => referenceLength skip labels pos t n (n + 2) cache

/-! ### All pieces -/

/-- The piece at the head of a text, at place `pos`, and its length. -/
def lexemeAt (skip : Skip) (labels : List Text) (pos : Nat) (t : Text) (cache : SkipCache) :
    Option (Lexeme × Nat) × SkipCache :=
  match t with
  | [] => (none, cache)
  | c :: cs =>
    if c == '\n' then (some (.newline, 1 + blankCount cs), cache)
    else if c == '\\' then (escapeAt? cs, cache)
    else if c.toNat == 0x60 then (some (codeAt t), cache)
    else if c == '[' then
      let (found, cache) := linkAt skip labels pos t cache
      (found.map fun (n, m) => (.link n, m), cache)
    else if c == '!' then
      match cs with
      | '[' :: _ =>
        let (found, cache) := imageAt skip labels (pos + 1) cs cache
        (found.map fun m => (.image, m + 1), cache)
      | _ => (none, cache)
    else if c == '<' then (angleAt? t, cache)
    else if c == '&' then ((entityAt? t).map fun (n, chars) => (.entity chars, n), cache)
    else (none, cache)

/-- Skips one piece.  `depth` is the number of levels that pieces may still be nested; when it is
used up, all of the content is skipped. -/
def skipPiece (labels : List Text) : Nat → Skip
  | 0 => fun pos t cache =>
    match cache.lookup pos with
    | some stop => (stop, cache)
    | none =>
      let stop := pos + t.length + 1
      (stop, (pos, stop) :: cache)
  | depth + 1 => fun pos t cache =>
    match cache.lookup pos with
    | some stop => (stop, cache)
    | none =>
      let (found, cache) := lexemeAt (skipPiece labels depth) labels pos t cache
      let stop := match found with
        | some (_, n) => pos + n
        | none => pos + 1
      (stop, (pos, stop) :: cache)

/-- How deep pieces may be nested. -/
def maxNesting : Nat := 20

end CjkProse.Markdown
