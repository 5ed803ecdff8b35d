import CjkProse.Markdown.Token

/-!
# Emphasis marks

Runs of `*`, `_` and `~` are first taken as text, one token for each mark, or for each two marks in
the case of `~`.  Then closing marks are paired with opening ones, the nearest first, and the tokens
of the pairs become the starts and ends of wrappers.

## Main definitions

* `Flanking`, `flanking` — on which sides of a run of marks a wrapper may start and end.
* `Mark` — a mark that may be paired.
* `pairMarks` — the marks with their partners.
* `strikethroughs`, `emphases` — the tokens with the pairs made wrappers.
* `joinTexts` — adjacent texts made one.
-/

namespace CjkProse.Markdown

/-! ### Runs of marks -/

/-- Characters that count as blank around a run of marks. -/
def isFlankBlank (c : Char) : Bool :=
  let n := c.toNat
  (0x9 ≤ n && n ≤ 0xD) || n == 0x20 || n == 0xA0 || n == 0x1680 || (0x2000 ≤ n && n ≤ 0x200A) ||
    n == 0x202F || n == 0x205F || n == 0x3000

/-- Characters that count as punctuation around a run of marks. -/
def isFlankPunct (c : Char) : Bool := Unicode.isPunctOrSymbol c

/-- Whether a run of marks may open and whether it may close a wrapper. -/
structure Flanking where
  /-- It may open one. -/
  opens : Bool
  /-- It may close one. -/
  closes : Bool
  deriving DecidableEq, Repr

/-- What a run of marks between two characters may do.  A run that may not split a word opens and
closes only at the edges of words. -/
def flanking (splitsWord : Bool) (before after : Char) : Flanking :=
  let left := !(isFlankBlank after ||
    (isFlankPunct after && !(isFlankBlank before || isFlankPunct before)))
  let right := !(isFlankBlank before ||
    (isFlankPunct before && !(isFlankBlank after || isFlankPunct after)))
  ⟨left && (splitsWord || !right || isFlankPunct before),
    right && (splitsWord || !left || isFlankPunct after)⟩

/-- A mark that may be paired. -/
structure Mark where
  /-- The character. -/
  char : Char
  /-- The length of the run it is in; zero if the length does not matter. -/
  length : Nat
  /-- The index of its token. -/
  token : Nat
  /-- Whether it may open a wrapper. -/
  opens : Bool
  /-- Whether it may close a wrapper. -/
  closes : Bool
  /-- The index of the mark that closes what it opens. -/
  partner : Option Nat
  /-- The link it is in; zero stands for none. -/
  scope : Nat
  deriving DecidableEq, Repr, Inhabited

/-! ### Pairing -/

/-- How far pairing has come. -/
structure Pairing where
  /-- The marks. -/
  marks : List Mark
  /-- For each mark seen, how many marks before it need not be looked at again. -/
  jumps : List Nat
  /-- For each sort of closing mark, the index at or below which no mark can open for it. -/
  bottoms : List ((Char × Bool × Nat) × Int)
  /-- The index of the first mark of the present run. -/
  header : Nat
  /-- The token of the mark before, unless a new run starts. -/
  lastToken : Option Nat

/-- Whether two marks may not be paired because one of them both opens and closes, and the lengths
of their runs add up to a multiple of three without both being one. -/
def isOddMatch (opener closer : Mark) : Bool :=
  (opener.closes || closer.opens) && (opener.length + closer.length) % 3 == 0 &&
    (opener.length % 3 != 0 || closer.length % 3 != 0)

/-- Looks for the mark that opens what `closer` closes, from index `i` down to `bottom`.  The first
argument bounds the number of steps. -/
def findOpener (marks : List Mark) (jumps : List Nat) (closer : Mark) (bottom : Int) :
    Nat → Int → Option Nat
  | 0, _ => none
  | fuel + 1, i =>
    if i ≤ bottom then none
    else
      match marks[i.toNat]? with
      | none => none
      | some opener =>
        if opener.char == closer.char && opener.opens && opener.partner.isNone &&
            !isOddMatch opener closer then
          some i.toNat
        else findOpener marks jumps closer bottom fuel (i - (jumps.getD i.toNat 0 : Nat) - 1)

/-- Pairs the mark at index `i`, if it closes and there is one to open. -/
def pairMark (p : Pairing) (i : Nat) : Pairing :=
  match p.marks[i]? with
  | none => p
  | some closer =>
    let sameRun := (p.marks[p.header]?.map Mark.char == some closer.char) &&
      p.lastToken.map (· + 1) == some closer.token
    let header := if sameRun then p.header else i
    let p := { p with jumps := p.jumps ++ [0], header := header, lastToken := some closer.token }
    if !closer.closes then p
    else
      let sort := (closer.char, closer.opens, closer.length % 3)
      let bottom := (p.bottoms.lookup sort).getD (-1)
      let start : Int := (header : Int) - (p.jumps.getD header 0 : Nat) - 1
      match findOpener p.marks p.jumps closer bottom (i + 1) start with
      | none =>
        if start = -1 then p else { p with bottoms := (sort, start) :: p.bottoms }
      | some o =>
        let lastJump :=
          if 0 < o && (p.marks[o - 1]?.any fun m => !m.opens) then p.jumps.getD (o - 1) 0 + 1
          else 0
        { p with
          jumps := (p.jumps.set i (i - o + lastJump)).set o lastJump
          marks := (p.marks.modify i fun m => { m with opens := false }).modify o fun m =>
            { m with partner := some i, closes := false }
          lastToken := none }

/-- The marks of one scope with their partners. -/
def pairMarks (marks : List Mark) : List Mark :=
  ((List.range marks.length).foldl pairMark ⟨marks, [], [], 0, none⟩).marks

/-! ### Making wrappers -/

/-- Whether a token is a text of one tilde. -/
def isLoneTilde (token : Option Inline) : Bool := token == some (.text ['~'])

/-- The number of ends of struck-out text at the head of some tokens. -/
def strikeEnds (tokens : List Inline) : Nat :=
  (tokens.takeWhile fun t => t == .wrapperClose .strikethrough ['~', '~']).length

/-- Moves the lone tilde at index `i` behind the ends that follow it. -/
def moveTilde (tokens : List Inline) (i : Nat) : List Inline :=
  let j := i + strikeEnds (tokens.drop (i + 1))
  match tokens[i]?, tokens[j]? with
  | some a, some b => (tokens.set j a).set i b
  | _, _ => tokens

/-- Makes struck-out text of the pairs of tildes in one scope. -/
def strikethroughs (marks : List Mark) (tokens : List Inline) : List Inline :=
  let step (state : List Inline × List Nat) (m : Mark) : List Inline × List Nat :=
    match m.char == '~', m.partner.bind fun e => marks[e]? with
    | true, some closer =>
      let tokens := (state.1.set m.token (.wrapperOpen .strikethrough ['~', '~'])).set closer.token
        (.wrapperClose .strikethrough ['~', '~'])
      if isLoneTilde tokens[closer.token - 1]? then (tokens, (closer.token - 1) :: state.2)
      else (tokens, state.2)
    | _, _ => state
  let (tokens, lone) := marks.foldl step (tokens, [])
  lone.foldl moveTilde tokens

/-- Whether the mark `outer` directly before `inner` is paired with the mark directly after
`closer`, the partner of `inner`, whose index is `stop`. -/
def isStrong (marks : List Mark) (outer inner closer : Mark) (stop : Nat) : Bool :=
  outer.partner == some (stop + 1) && outer.char == inner.char &&
    outer.token + 1 == inner.token && marks[stop + 1]?.map Mark.token == some (closer.token + 1)

/-- The tokens of two marks made the start and the end of emphasis. -/
def makeEmphasis (tokens : List Inline) (opener closer : Mark) : List Inline :=
  (tokens.set opener.token (.wrapperOpen .emphasis [opener.char])).set closer.token
    (.wrapperClose .emphasis [opener.char])

/-- The tokens of two pairs of adjacent marks, of which the inner ones are given, made the start and
the end of strong emphasis.  The outer ones become empty texts. -/
def makeStrong (tokens : List Inline) (opener closer : Mark) : List Inline :=
  let both := [opener.char, opener.char]
  (((tokens.set opener.token (.wrapperOpen .strong both)).set closer.token
    (.wrapperClose .strong both)).set (opener.token - 1) (.text [])).set (closer.token + 1)
    (.text [])

/-- Makes emphasis of the pairs of `*` and `_` in one scope, from the mark before index `i`
downwards.  Two adjacent pairs become strong emphasis; `merged` tells that the mark before index `i`
has become part of one. -/
def emphases (marks : List Mark) : Nat → Bool → List Inline → List Inline
  | 0, _, tokens => tokens
  | i + 1, true, tokens => emphases marks i false tokens
  | i + 1, false, tokens =>
    match marks[i]? with
    | none => emphases marks i false tokens
    | some m =>
      match m.char == '*' || m.char == '_', m.partner with
      | true, some stop =>
        match marks[stop]? with
        | none => emphases marks i false tokens
        | some closer =>
          if 0 < i && marks[i - 1]?.any fun outer => isStrong marks outer m closer stop then
            emphases marks i true (makeStrong tokens m closer)
          else emphases marks i false (makeEmphasis tokens m closer)
      | _, _ => emphases marks i false tokens

/-- Adjacent texts made one. -/
def joinTexts : List Inline → List Inline
  | [] => []
  | .text a :: rest =>
    match joinTexts rest with
    | .text b :: rest => .text (a ++ b) :: rest
    | rest => .text a :: rest
  | t :: rest => t :: joinTexts rest

end CjkProse.Markdown
