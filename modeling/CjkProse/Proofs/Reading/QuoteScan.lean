import CjkProse.Proofs.Reading.Lossless

/-!
# Pairing quotation marks by a scan

A block is scanned once from left to right, with a stack of the quotations that are open.  At each
character the mark that closes the innermost of them is looked for first; a mark that does not close
it may open another one, is at fault if it can only close, and is passed over otherwise.  Of the
atoms around a character the scan looks at the ones directly before and after it, and at these only
to tell an apostrophe within a word.

## Main definitions

* `scanQuotes` — the scan: the pairs of marks in the order in which they are closed, or the error.
* `Node.quotePairs`, `Paragraph.quotePairs` — the same pairs read off a tree.
* `isPlain` — the characters that the scan passes over wherever they stand.

## Main results

* `isPlain_of_kind` — letters and spaces are passed over.
* `scanAt_passes`, `scanAt_takeSpace` — the scan goes on behind what it passes over.
* `scanQuotes_append_stop` — it stops at the end of the block.
-/

namespace CjkProse

open Reader (isHalfLetter)

/-! ### The scan -/

/-- A mark of a block: the number of atoms before it, and the atom. -/
structure PlacedMark where
  /-- The number of atoms of the block that come before it. -/
  index : Nat
  /-- The mark. -/
  mark : Char
  /-- The source that it covers. -/
  span : Span
  deriving DecidableEq, Repr, Inhabited

/-- A quotation that is still open. -/
structure OpenQuote where
  /-- The mark that opened it. -/
  opener : PlacedMark
  /-- The mark that will close it. -/
  closer : Char
  deriving DecidableEq, Repr, Inhabited

/-- The two marks of a quotation. -/
structure QuotePair where
  /-- The mark that opens it. -/
  opener : PlacedMark
  /-- The mark that closes it. -/
  closer : PlacedMark
  deriving DecidableEq, Repr, Inhabited

/-- Whether a character is an apostrophe directly between two half-width letters. -/
def isContraction (prev : Option Atom) (c : Char) (next : Option Atom) : Bool :=
  c == '\'' && isHalfLetter prev && isHalfLetter next

/-- What the scan does at a character, the first quotation of `stack` being the innermost one: the
pairs that it closes, and the quotations that are open then. -/
def stepQuote (stack : List OpenQuote) (contraction : Bool) (m : PlacedMark) :
    Except ParseError (List QuotePair × List OpenQuote) :=
  if (stack.head?.any fun q => q.closer == m.mark) && !contraction then
    .ok ((stack.head?.map fun q => ⟨q.opener, m⟩).toList, stack.tail)
  else
    match Punct.closing? m.mark with
    | some closer => .ok ([], ⟨m, closer⟩ :: stack)
    | none =>
      if Punct.chineseRightQuote.contains m.mark then .error (.unclosedQuote [m.mark] (some m.span))
      else if Punct.westernQuote.contains m.mark && !contraction then
        .ok ([], ⟨m, m.mark⟩ :: stack)
      else .ok ([], stack)

/-- The end of the scan: nothing may be left open. -/
def finishScan : List OpenQuote → Except ParseError (List QuotePair)
  | [] => .ok []
  | q :: _ => .error (.unexpectedEnd (some q.opener.span))

/-- Scans the atoms of a block up to its end.  The quotations of `stack` are open, `i` atoms have
been scanned, and `prev` is the last atom before those to come. -/
def scanQuotes (stack : List OpenQuote) (i : Nat) (prev : Option Atom) :
    List Atom → Except ParseError (List QuotePair)
  | [] => finishScan stack
  | .event e s :: rest =>
    if e.isBlockEnd then finishScan stack
    else scanQuotes stack (i + 1) (some (.event e s)) rest
  | .char c s :: rest =>
    match stepQuote stack (isContraction prev c rest.head?) ⟨i, c, s⟩ with
    | .error e => .error e
    | .ok (pairs, stack) => (scanQuotes stack (i + 1) (some (.char c s)) rest).map (pairs ++ ·)

/-! ### The pairs of a tree -/

/-- The number of atoms that a list of nodes is read from. -/
def Paragraph.size (ns : List Node) : Nat := (Paragraph.flatten ns).length

/-- The number of atoms that a node is read from. -/
def Node.size (n : Node) : Nat := (n.leaves.flatMap Leaf.atoms).length

@[simp] theorem Paragraph.size_nil : Paragraph.size [] = 0 := by
  simp [Paragraph.size, Paragraph.flatten]

@[simp] theorem Paragraph.size_cons (n : Node) (ns : List Node) :
    Paragraph.size (n :: ns) = n.size + Paragraph.size ns := by
  simp [Paragraph.size, Paragraph.flatten, Node.size]

mutual

/-- The pairs of quotation marks in a node before which there are `i` atoms, in the order in which
they are closed. -/
def Node.quotePairs (i : Nat) : Node → List QuotePair
  | .group o inner ns c _ =>
    let start := i + 1 + inner.original.length
    Paragraph.quotePairs start ns ++
      [⟨⟨i, o.original, o.span⟩, ⟨start + Paragraph.size ns, c.original, c.span⟩⟩]
  | .char _ _ | .half _ _ | .full _ _ | .event _ _ _ => []

/-- The pairs of quotation marks in a list of nodes before which there are `i` atoms. -/
def Paragraph.quotePairs (i : Nat) : List Node → List QuotePair
  | [] => []
  | n :: ns => n.quotePairs i ++ Paragraph.quotePairs (i + n.size) ns

end

theorem Node.size_char (v : Revisable Char) (a : Revisable Space) :
    (Node.char v a).size = 1 + a.original.length := by
  simp only [Node.size, Node.leaves, Leaf.atoms, List.flatMap_cons, List.flatMap_nil,
    List.length_append, List.length_singleton, List.length_nil, Atom.length_ofText, Nat.add_zero]

theorem Node.size_event (e : Event) (s : Span) (a : Revisable Space) :
    (Node.event e s a).size = 1 + a.original.length := by
  simp only [Node.size, Node.leaves, Leaf.atoms, List.flatMap_cons, List.flatMap_nil,
    List.length_append, List.length_singleton, List.length_nil, Atom.length_ofText, Nat.add_zero]

theorem Node.size_group (o : Revisable Char) (inner : Revisable Space) (ns : List Node)
    (c : Revisable Char) (a : Revisable Space) :
    (Node.group o inner ns c a).size =
      1 + inner.original.length + Paragraph.size ns + 1 + a.original.length := by
  simp only [Node.size, Node.leaves, Leaf.atoms, Paragraph.size, Paragraph.flatten,
    List.flatMap_cons, List.flatMap_append, List.flatMap_nil, List.length_append, List.length_cons,
    List.length_nil, Atom.length_ofText]
  omega

/-! ### Passing over atoms -/

/-- The characters that can close a quotation. -/
def isClosingMark (c : Char) : Bool :=
  Punct.chineseRightQuote.contains c || Punct.westernQuote.contains c

/-- The characters that the scan passes over whatever stands around them. -/
def isPlain (c : Char) : Bool := (Punct.closing? c).isNone && !isClosingMark c

/-- The atoms that the scan passes over. -/
def Atom.isPassed : Atom → Bool
  | .char c _ => isPlain c
  | .event e _ => !e.isBlockEnd

/-- Every open quotation waits for a mark that can close one. -/
def ClosersOk (stack : List OpenQuote) : Prop := ∀ q ∈ stack, isClosingMark q.closer = true

theorem isClosingMark_iff {c : Char} :
    isClosingMark c = true ↔ c ∈ Punct.chineseRightQuote ++ Punct.westernQuote := by
  simp [isClosingMark]

theorem closing?_eq_some {c d : Char} (h : Punct.closing? c = some d) :
    (c, d) ∈ Punct.chineseQuotes := by
  rw [Punct.closing?, Option.map_eq_some_iff] at h
  obtain ⟨⟨c', d'⟩, hfind, rfl⟩ := h
  have hmem := List.mem_of_find?_eq_some hfind
  have hc := List.find?_some hfind
  simp only [beq_iff_eq] at hc
  subst hc
  exact hmem

/-- A mark that closes a quotation which another mark opens can close one. -/
theorem isClosingMark_of_closing? {c d : Char} (h : Punct.closing? c = some d) :
    isClosingMark d = true := by
  have hmem : d ∈ Punct.chineseRightQuote :=
    List.mem_map.mpr ⟨(c, d), closing?_eq_some h, rfl⟩
  simp [isClosingMark, hmem]

/-- What is no quotation mark is passed over. -/
theorem isPlain_of_not_mem {c : Char}
    (h : c ∉ Punct.chineseLeftQuote ++ (Punct.chineseRightQuote ++ Punct.westernQuote)) :
    isPlain c = true := by
  rw [List.mem_append, not_or] at h
  have hopen : Punct.closing? c = none := by
    cases hcl : Punct.closing? c with
    | none => rfl
    | some d => exact absurd (List.mem_map.mpr ⟨(c, d), closing?_eq_some hcl, rfl⟩) h.1
  have hclose : isClosingMark c = false := by
    rw [Bool.eq_false_iff]
    exact fun hmem => h.2 (isClosingMark_iff.mp hmem)
  simp [isPlain, hopen, hclose]

/-- Quotation marks are neither letters nor spaces. -/
theorem isPlain_of_kind {c : Char}
    (h : CharKind.of c = .space ∨ (CharKind.of c).isLetter = true) : isPlain c = true := by
  have hall : (Punct.chineseLeftQuote ++ (Punct.chineseRightQuote ++ Punct.westernQuote)).all
      (fun d => CharKind.of d != .space && !(CharKind.of d).isLetter) = true := by decide
  refine isPlain_of_not_mem fun hmem => ?_
  have hquote := List.all_eq_true.mp hall c hmem
  simp only [Bool.and_eq_true, bne_iff_ne, ne_eq, Bool.not_eq_true'] at hquote
  rcases h with h | h
  · exact hquote.1 h
  · rw [hquote.2] at h; cases h

theorem stepQuote_of_isPlain {stack : List OpenQuote} {contraction : Bool} {m : PlacedMark}
    (hm : isPlain m.mark = true) (hstack : ClosersOk stack) :
    stepQuote stack contraction m = .ok ([], stack) := by
  simp only [isPlain, isClosingMark, Bool.and_eq_true, Option.isNone_iff_eq_none,
    Bool.not_eq_true', Bool.or_eq_false_iff] at hm
  obtain ⟨hopen, hright, hwestern⟩ := hm
  -- the mark closes nothing, whatever the innermost quotation waits for
  have htop : (stack.head?.any fun q => q.closer == m.mark) = false := by
    cases stack with
    | nil => rfl
    | cons q below =>
      have hq := hstack q List.mem_cons_self
      simp only [List.head?_cons, Option.any_some, beq_eq_false_iff_ne, ne_eq]
      intro h
      rw [isClosingMark, h, hright, hwestern] at hq
      cases hq
  simp only [stepQuote, htop, hopen, hright, hwestern, Bool.false_and, Bool.false_eq_true, if_false]

theorem Except.map_nil_append {ε α : Type} (x : Except ε (List α)) :
    x.map (([] : List α) ++ ·) = x := by
  cases x <;> rfl

theorem Except.map_append_map {ε α : Type} (x : Except ε (List α)) (as bs : List α) :
    (x.map (bs ++ ·)).map (as ++ ·) = x.map ((as ++ bs) ++ ·) := by
  cases x <;> simp [Except.map]

/-- The scan goes on behind atoms that it passes over. -/
theorem scanQuotes_append {stack : List OpenQuote} (hstack : ClosersOk stack) {rest : List Atom} :
    ∀ (as : List Atom) (i : Nat) (prev : Option Atom), (∀ a ∈ as, a.isPassed = true) →
      scanQuotes stack i prev (as ++ rest) =
        scanQuotes stack (i + as.length) (as.getLast?.or prev) rest := by
  intro as
  induction as with
  | nil => intro i prev _; rfl
  | cons a as ih =>
    intro i prev has
    have ih' := ih (i + 1) (some a) fun b hb => has b (List.mem_cons_of_mem _ hb)
    have hlast : (a :: as).getLast?.or prev = as.getLast?.or (some a) := by
      rw [List.getLast?_cons]
      cases as.getLast? <;> rfl
    have hlen : i + (a :: as).length = i + 1 + as.length := by
      simp only [List.length_cons]
      omega
    rw [List.cons_append, hlast, hlen]
    have ha := has a List.mem_cons_self
    cases a with
    | event e s =>
      have he : e.isBlockEnd = false := by simpa [Atom.isPassed] using ha
      simp only [scanQuotes, he, Bool.false_eq_true, if_false]
      exact ih'
    | char c s =>
      simp only [scanQuotes]
      rw [stepQuote_of_isPlain (m := ⟨i, c, s⟩) ha hstack]
      simp only [Except.map_nil_append]
      exact ih'

/-- The scan of what is to come for a reader. -/
def scanAt (stack : List OpenQuote) (i : Nat) (r : Reader) : Except ParseError (List QuotePair) :=
  scanQuotes stack i r.prev r.rest

theorem scanAt_passes {stack : List OpenQuote} (hstack : ClosersOk stack) {r r' : Reader}
    {as : List Atom} (h : r.Passes as r') (has : ∀ a ∈ as, a.isPassed = true) (i : Nat) :
    scanAt stack i r = scanAt stack (i + as.length) r' := by
  rw [scanAt, h.rest, scanQuotes_append hstack as i r.prev has, ← h.prev, scanAt]

theorem isPassed_of_mem_ofRun {run : List (Char × Span)} {a : Atom} (ha : a ∈ Atom.ofRun run)
    (hrun : ∀ p ∈ run, CharKind.of p.1 = .space ∨ (CharKind.of p.1).isLetter = true) :
    a.isPassed = true := by
  obtain ⟨p, hp, rfl⟩ := Atom.mem_ofRun.mp ha
  exact isPlain_of_kind (hrun p hp)

/-- The scan goes on behind spaces. -/
theorem scanAt_takeSpace {stack : List OpenQuote} (hstack : ClosersOk stack) (anchor : Int)
    (r : Reader) (i : Nat) :
    scanAt stack i r =
      scanAt stack (i + (r.takeSpace anchor).1.original.length) (r.takeSpace anchor).2 := by
  have h := scanAt_passes hstack (r.takeSpace_passes anchor)
    (fun a ha => isPassed_of_mem_ofRun ha fun p hp => .inl (Reader.isSpace_of_mem_spaceRun hp)) i
  rw [h, Atom.length_ofRun, Reader.takeSpace_fst, List.length_map]

/-- A mark that is passed over starts no group. -/
theorem closerOf_of_isPlain {c : Char} (h : isPlain c = true) (r : Reader) :
    Node.closerOf c r = none := by
  simp only [isPlain, isClosingMark, Bool.and_eq_true, Option.isNone_iff_eq_none,
    Bool.not_eq_true', Bool.or_eq_false_iff] at h
  obtain ⟨hopen, -, hwestern⟩ := h
  rw [Node.closerOf, hopen]
  simp only [hwestern, Bool.false_and, Bool.false_eq_true, if_false]

/-- The scan stops at the end of a block. -/
theorem scanQuotes_append_stop {e : Event} (stop : e.isBlockEnd = true) (s : Span)
    (rest : List Atom) : ∀ (body : List Atom) (stack : List OpenQuote) (i : Nat)
      (prev : Option Atom), (∀ a ∈ body, a.isBlockEnd = false) →
      scanQuotes stack i prev (body ++ .event e s :: rest) = scanQuotes stack i prev body := by
  intro body
  induction body with
  | nil => intro stack i prev _; simp [scanQuotes, stop]
  | cons a body ih =>
    intro stack i prev hbody
    have hrest := fun stack i prev =>
      ih stack i prev fun b hb => hbody b (List.mem_cons_of_mem _ hb)
    cases a with
    | event ev t =>
      have hev : ev.isBlockEnd = false := hbody (.event ev t) List.mem_cons_self
      simp only [List.cons_append, scanQuotes, hev, hrest]
    | char c t =>
      -- the end of the block is no letter, so it makes no apostrophe of the last character
      have hnext : isContraction prev c (body ++ .event e s :: rest).head? =
          isContraction prev c body.head? := by
        cases body with
        | nil => rfl
        | cons b body => rfl
      simp only [List.cons_append, scanQuotes, hnext, hrest]

end CjkProse
