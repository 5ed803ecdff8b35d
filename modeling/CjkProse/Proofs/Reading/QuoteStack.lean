import CjkProse.Proofs.Reading.Blocks
import CjkProse.Proofs.Reading.QuoteScan

/-!
# Pairing quotation marks with a stack

The reader pairs quotation marks by calling itself.  It finds the pairs that a scan with a stack
finds: while the reader is within a quotation, this is the innermost one on the stack, and the
reader returns where the scan takes it off again.

## Main definitions

* `Innermost` — the stack of the scan while the reader looks for a mark.
* `Scanned` — the scan passes over what some nodes are read from, and finds their pairs.

## Main results

* `scanned_of_readAllFuel` — what the reader reads, the scan passes over, with the same pairs.
* `scanAt_of_readAllFuel_error` — an error of the reader is one of the scan.
* `parseParagraphs_cons_block` — **the paragraph of a block is what the scan says.**
-/

namespace CjkProse

/-! ### The scan follows the reader -/

theorem atContraction_eq (prev : Option Atom) (c : Char) (s : Span) (rest : List Atom) :
    Reader.atContraction ⟨prev, .char c s :: rest⟩ = isContraction prev c rest.head? := by
  by_cases hc : c = '\''
  · subst hc; rfl
  · simp [Reader.atContraction, isContraction, hc]

/-- The stack while the reader looks for the mark `closer`: the quotation that it closes is the
innermost one, and none is open where no mark is looked for. -/
def Innermost (closer : Option Char) (opener : Span) (stack : List OpenQuote) : Prop :=
  match closer with
  | none => stack = []
  | some c => ∃ q below, stack = q :: below ∧ q.closer = c ∧ q.opener.span = opener

/-- Where the reader does not close a quotation, the scan does not. -/
theorem Innermost.top_eq_false {closer : Option Char} {opener : Span} {stack : List OpenQuote}
    (h : Innermost closer opener stack) {r : Reader} {c : Char} {s : Span} {rest : List Atom}
    (head : r.rest = .char c s :: rest) (hclose : Node.atClose closer r = false) :
    ((stack.head?.any fun q => q.closer == c) && !r.atContraction) = false := by
  cases closer with
  | none => rw [show stack = [] from h]; rfl
  | some d =>
    obtain ⟨q, below, rfl, rfl, -⟩ := h
    simpa [Node.atClose, head] using hclose

/-- The scan at a character is one step of it. -/
theorem scanAt_char {stack : List OpenQuote} {r : Reader} {c : Char} {s : Span} {rest : List Atom}
    (head : r.rest = .char c s :: rest) (i : Nat) :
    scanAt stack i r =
      match stepQuote stack r.atContraction ⟨i, c, s⟩ with
      | .error e => .error e
      | .ok (pairs, stack) =>
        (scanAt stack (i + 1) ⟨some (.char c s), rest⟩).map (pairs ++ ·) := by
  obtain ⟨prev, rest'⟩ := r
  cases head
  rw [atContraction_eq]
  rfl

section Step

variable {stack : List OpenQuote} {r : Reader} {m : PlacedMark}
  (htop : ((stack.head?.any fun q => q.closer == m.mark) && !r.atContraction) = false)

include htop

/-- A mark that opens a group is put on the stack. -/
theorem stepQuote_of_closerOf {closer : Char} (h : Node.closerOf m.mark r = some closer) :
    stepQuote stack r.atContraction m = .ok ([], ⟨m, closer⟩ :: stack) := by
  have hdisjoint : Punct.westernQuote.all (fun c => !Punct.chineseRightQuote.contains c) = true :=
    by decide
  rw [Node.closerOf] at h
  split at h
  · next d hd =>
    cases h
    rw [stepQuote, htop, hd]
    rfl
  · next hnone =>
    split at h
    · next hwestern =>
      cases h
      rw [stepQuote, htop, hnone]
      have hmem := List.contains_iff_mem.mp (Bool.and_eq_true_iff.mp hwestern).1
      have hfault : Punct.chineseRightQuote.contains m.mark = false := by
        simpa using List.all_eq_true.mp hdisjoint _ hmem
      simp only [hfault, hwestern, Bool.false_eq_true, if_false, if_true]
    · cases h

/-- A mark that can only close, but does not close the innermost quotation, is at fault. -/
theorem stepQuote_of_fault (h : Node.closerOf m.mark r = none)
    (fault : Punct.chineseRightQuote.contains m.mark = true) :
    stepQuote stack r.atContraction m = .error (.unclosedQuote [m.mark] (some m.span)) := by
  rw [Node.closerOf] at h
  split at h
  · cases h
  · next hnone =>
    rw [stepQuote, htop, hnone]
    simp only [fault, Bool.false_eq_true, if_false, if_true]

/-- Any other mark is passed over. -/
theorem stepQuote_of_mark (h : Node.closerOf m.mark r = none)
    (fault : Punct.chineseRightQuote.contains m.mark = false) :
    stepQuote stack r.atContraction m = .ok ([], stack) := by
  rw [Node.closerOf] at h
  split at h
  · cases h
  · next hnone =>
    split at h
    · cases h
    · next hwestern =>
      rw [stepQuote, htop, hnone]
      simp only [fault, hwestern, Bool.false_eq_true, if_false]

end Step

/-- The mark that closes a group can close a quotation. -/
theorem isClosingMark_of_closerOf {c closer : Char} {r : Reader}
    (h : Node.closerOf c r = some closer) : isClosingMark closer = true := by
  rw [Node.closerOf] at h
  split at h
  · next d hd => cases h; exact isClosingMark_of_closing? hd
  · split at h
    · next hwestern =>
      cases h
      rw [isClosingMark, (Bool.and_eq_true_iff.mp hwestern).1, Bool.or_true]
    · cases h

/-- Where the reader closes a quotation, the scan does, too. -/
theorem scanAt_of_atClose (q : OpenQuote) (below : List OpenQuote) {r : Reader} {c : Char}
    {s : Span} {rest : List Atom} (head : r.rest = .char c s :: rest)
    (hclose : Node.atClose (some q.closer) r = true) (i : Nat) :
    scanAt (q :: below) i r =
      (scanAt below (i + 1) ⟨some (.char c s), rest⟩).map ([⟨q.opener, ⟨i, c, s⟩⟩] ++ ·) := by
  have htop : ((some q).any (fun q => q.closer == c) && !r.atContraction) = true := by
    simpa [Node.atClose, head] using hclose
  rw [scanAt_char head, stepQuote, List.head?_cons, htop]
  rfl

/-- From `r` to `r'` the scan leaves the stack as it is, passes as many atoms as the nodes `ns` are
read from, and gives their pairs. -/
def Scanned (stack : List OpenQuote) (i : Nat) (r : Reader) (ns : List Node) (r' : Reader) :
    Prop :=
  scanAt stack i r =
    (scanAt stack (i + Paragraph.size ns) r').map (Paragraph.quotePairs i ns ++ ·)

theorem Scanned.refl (stack : List OpenQuote) (i : Nat) (r : Reader) :
    Scanned stack i r [] r := by
  rw [Scanned, Paragraph.size_nil, Paragraph.quotePairs, Except.map_nil_append, Nat.add_zero]

theorem Scanned.single {stack : List OpenQuote} {i : Nat} {r r' : Reader} {n : Node}
    (h : scanAt stack i r = (scanAt stack (i + n.size) r').map (n.quotePairs i ++ ·)) :
    Scanned stack i r [n] r' := by
  simpa [Scanned, Paragraph.quotePairs] using h

theorem Scanned.cons {stack : List OpenQuote} {i : Nat} {r r' r'' : Reader} {n : Node}
    {ns : List Node} (h : Scanned stack i r [n] r')
    (h' : Scanned stack (i + n.size) r' ns r'') : Scanned stack i r (n :: ns) r'' := by
  rw [Scanned] at h h' ⊢
  have hn : Paragraph.size [n] = n.size := by simp
  rw [h, hn, h', Except.map_append_map, Paragraph.size_cons, Nat.add_assoc]
  simp only [Paragraph.quotePairs, List.append_nil]

/-- A node that closes nothing and holds no pair is passed over with the spaces after it. -/
theorem scanned_head {stack : List OpenQuote} (hstack : ClosersOk stack) {i : Nat} {r r' : Reader}
    {n : Node} {anchor : Int}
    (h : scanAt stack i r = scanAt stack (i + 1) r')
    (hsize : n.size = 1 + (r'.takeSpace anchor).1.original.length) (hpairs : n.quotePairs i = []) :
    Scanned stack i r [n] (r'.takeSpace anchor).2 := by
  refine .single ?_
  rw [h, scanAt_takeSpace hstack anchor, hsize, hpairs, Except.map_nil_append, Nat.add_assoc]

/-- A run of letters is passed over. -/
theorem scanned_readRun {stack : List OpenQuote} (hstack : ClosersOk stack) (i : Nat) {k : CharKind}
    (hk : k.isLetter = true) (start : Int) (r : Reader) :
    Scanned stack i r [(Node.readRun k start r).1] (Node.readRun k start r).2 := by
  have hpass := scanAt_passes hstack (Node.readRun_passes k start r) (fun a ha => by
    rcases List.mem_append.mp ha with ha | ha
    · exact isPassed_of_mem_ofRun ha fun p hp =>
        .inr (by rw [Reader.kind_of_mem_takeKind hp]; exact hk)
    · exact isPassed_of_mem_ofRun ha fun p hp => .inl (Reader.isSpace_of_mem_spaceRun hp)) i
  have hsize : (Node.readRun k start r).1.size =
      (Atom.ofRun (r.takeKind k).1 ++ Atom.ofRun (r.takeKind k).2.spaceRun).length := by
    rw [Node.size, Node.leaves_readRun, Reader.takeSpace_fst]
    simp [Leaf.atoms]
  have hpairs : (Node.readRun k start r).1.quotePairs i = [] := by
    simp only [Node.readRun]
    split <;> rfl
  refine .single ?_
  rw [hpass, ← hsize, hpairs, Except.map_nil_append]

theorem innermost_cons (i : Nat) (c : Char) (s : Span) (closer : Char) (stack : List OpenQuote) :
    Innermost (some closer) s (⟨⟨i, c, s⟩, closer⟩ :: stack) := ⟨_, _, rfl, rfl, rfl⟩

theorem ClosersOk.cons {stack : List OpenQuote} (hstack : ClosersOk stack) {c closer : Char}
    {r : Reader} (opens : Node.closerOf c r = some closer) (m : PlacedMark) :
    ClosersOk (⟨m, closer⟩ :: stack) :=
  List.forall_mem_cons.mpr ⟨isClosingMark_of_closerOf opens, hstack⟩

/-- Where the reader starts a group, the scan opens a quotation and goes on behind the spaces. -/
theorem scanAt_of_closerOf {closer : Option Char} {opener : Span} {stack : List OpenQuote}
    (hstack : ClosersOk stack) (htop : Innermost closer opener stack) {i : Nat} {r : Reader}
    {c d : Char} {s : Span} {rest : List Atom} (head : r.rest = .char c s :: rest)
    (hclose : Node.atClose closer r = false) (opens : Node.closerOf c r = some d) :
    scanAt stack i r =
      scanAt (⟨⟨i, c, s⟩, d⟩ :: stack)
        (i + 1 + (Reader.takeSpace s.stop ⟨some (.char c s), rest⟩).1.original.length)
        (Reader.takeSpace s.stop ⟨some (.char c s), rest⟩).2 := by
  rw [← scanAt_takeSpace (hstack.cons opens _), scanAt_char head,
    stepQuote_of_closerOf (m := ⟨i, c, s⟩) (htop.top_eq_false head hclose) opens]
  exact Except.map_nil_append _

/-- One step of the reader that closes nothing is followed by the scan, given that this is so for
the nodes inside of a quotation. -/
theorem scanned_of_step {fuel : Nat} {closer : Option Char} {opener : Span}
    {stack : List OpenQuote} (hstack : ClosersOk stack) (htop : Innermost closer opener stack)
    {i : Nat} {r r' : Reader} {n : Node} (h : Node.Step fuel r n r')
    (hclose : Node.atClose closer r = false)
    (inside : ∀ closer opener stack i r₀ ns r₁,
      ClosersOk stack → Innermost closer opener stack →
      Node.readAllFuel fuel closer opener r₀ = .ok (ns, r₁) → Scanned stack i r₀ ns r₁) :
    Scanned stack i r [n] r' := by
  cases h with
  | @event e s rest head hinside =>
    refine scanned_head hstack ?_ (Node.size_event _ _ _) (by rw [Node.quotePairs])
    rw [scanAt, head, scanQuotes, hinside]
    rfl
  | @run c s rest k head hk letter =>
    exact scanned_readRun hstack i (by rcases letter with rfl | rfl <;> rfl) s.start r
  | @char c s rest head _ opens closes =>
    refine scanned_head hstack ?_ (Node.size_char _ _) (by rw [Node.quotePairs])
    rw [scanAt_char head, stepQuote_of_mark (m := ⟨i, c, s⟩) (htop.top_eq_false head hclose) opens
      closes]
    exact Except.map_nil_append _
  | @group c d closer s t rest rest' ns r₁ head _ opens hin close =>
    -- the opening mark is pushed, what is inside leaves it on top, and the closing mark pops it
    have hstack' := hstack.cons opens ⟨i, c, s⟩
    have hinner := inside _ _ _
      (i + 1 + (Reader.takeSpace s.stop ⟨some (.char c s), rest⟩).1.original.length) _ _ _
      hstack' (innermost_cons i c s closer stack) hin
    have hcloses : Node.atClose (some closer) r₁ = true :=
      (Node.close_of_readAllFuel hin).resolve_right (by simp)
    have hpop := scanAt_of_atClose ⟨⟨i, c, s⟩, closer⟩ stack close hcloses
    refine .single ?_
    rw [scanAt_of_closerOf hstack htop head hclose opens, hinner, hpop,
      scanAt_takeSpace hstack t.stop, Except.map_append_map, Node.size_group, Node.quotePairs]
    simp only [Nat.add_assoc]

/-- **What the reader reads, the scan passes over, and it finds the pairs of the nodes read.** -/
theorem scanned_of_readAllFuel {fuel : Nat} {closer : Option Char} {opener : Span}
    {stack : List OpenQuote} {i : Nat} {r r' : Reader} {ns : List Node} (hstack : ClosersOk stack)
    (htop : Innermost closer opener stack)
    (h : Node.readAllFuel fuel closer opener r = .ok (ns, r')) : Scanned stack i r ns r' := by
  refine Node.readAllFuel_induction (P := fun closer opener r ns r' => ∀ stack i,
    ClosersOk stack → Innermost closer opener stack → Scanned stack i r ns r') ?_ ?_ h stack i
      hstack htop
  · intro closer opener r _ stack i _ _
    exact .refl _ _ _
  · intro fuel closer opener r n r₁ ns r' hclose hstep inside others stack i hstack htop
    refine .cons ?_ (others stack _ hstack htop)
    exact scanned_of_step hstack htop hstep hclose
      fun closer opener stack i r₀ ns r₁ hs ht h => inside closer opener r₀ ns r₁ h stack i hs ht

/-- An error of one step is one of the scan, given that this is so inside of a quotation. -/
theorem scanAt_of_readFuel_error {fuel : Nat} {closer : Option Char} {opener : Span}
    {stack : List OpenQuote} (hstack : ClosersOk stack) (htop : Innermost closer opener stack)
    {i : Nat} {r : Reader} {e : ParseError} (hrest : r.rest ≠ [])
    (hends : ∀ a ∈ r.rest, a.isBlockEnd = false) (hclose : Node.atClose closer r = false)
    (h : Node.readFuel (fuel + 1) r = .error e)
    (inside : ∀ closer opener stack i r₀, r₀.rest.length < r.rest.length →
      (∀ a ∈ r₀.rest, a.isBlockEnd = false) → ClosersOk stack → Innermost closer opener stack →
      Node.readAllFuel fuel closer opener r₀ = .error e → scanAt stack i r₀ = .error e) :
    scanAt stack i r = .error e := by
  rw [Node.readFuel] at h
  split at h
  · next hnil => exact absurd hnil hrest
  · next ev s rest head =>
    have hev : ev.isBlockEnd = false := hends (.event ev s) (by simp [head])
    rw [hev] at h
    cases h
  · next c s rest head =>
    split at h
    · cases h
    · cases h
    · split at h
      · next closer' opens =>
        split at h
        next inner r₀ space =>
        split at h
        · next hin =>
          -- the error stems from the nodes inside of the quotation
          cases h
          have hpass := (Reader.Passes.head head).trans
            (Reader.takeSpace_passes s.stop ⟨some (.char c s), rest⟩)
          rw [space] at hpass
          rw [scanAt_of_closerOf hstack htop head hclose opens, space]
          refine inside _ _ _ _ _ ?_ ?_ (hstack.cons opens _) (innermost_cons _ _ _ _ _) hin
          · rw [hpass.rest, List.length_append, List.length_append, List.length_singleton]
            omega
          · intro a ha
            exact hends a (by rw [hpass.rest]; exact List.mem_append_right _ ha)
        · next ns r₁ hin =>
          have hcl := (Node.close_of_readAllFuel hin).resolve_right (by simp)
          obtain ⟨t, rest', hr₁⟩ := Node.exists_of_atClose hcl
          rw [hr₁] at h
          cases h
      · next opens =>
        split at h
        · next fault =>
          cases h
          rw [scanAt_char head,
            stepQuote_of_fault (m := ⟨i, c, s⟩) (htop.top_eq_false head hclose) opens fault]
        · cases h

/-- **An error of the reader is an error of the scan.** -/
theorem scanAt_of_readAllFuel_error : ∀ {fuel : Nat} {closer : Option Char} {opener : Span}
    {stack : List OpenQuote} {i : Nat} {r : Reader} {e : ParseError},
    2 * r.rest.length + 1 ≤ fuel → (∀ a ∈ r.rest, a.isBlockEnd = false) → ClosersOk stack →
    Innermost closer opener stack → Node.readAllFuel fuel closer opener r = .error e →
    scanAt stack i r = .error e := by
  intro fuel
  induction fuel using Nat.strongRecOn with
  | ind fuel ih =>
    intro closer opener stack i r e hfuel hends hstack htop h
    cases fuel with
    | zero => omega
    | succ fuel =>
      rw [Node.readAllFuel] at h
      split at h
      · cases h
      · next hclose =>
        split at h
        · next hnil =>
          -- the end is met while a mark is looked for: it is that of the innermost quotation
          cases closer with
          | none => simp at h
          | some c =>
            obtain ⟨q, below, rfl, -, rfl⟩ := htop
            simp only [Option.isNone_some, Bool.false_eq_true, if_false, Except.error.injEq] at h
            rw [scanAt, hnil, ← h]
            rfl
        · next a rest head =>
          have hne : r.rest ≠ [] := by simp [head]
          have hlen : 0 < r.rest.length := List.length_pos_iff.mpr hne
          rw [hends a (by simp [head])] at h
          cases fuel with
          | zero => omega
          | succ fuel =>
            simp only [Bool.false_eq_true, if_false] at h
            split at h
            · next first =>
              cases h
              exact scanAt_of_readFuel_error hstack htop hne hends (by simpa using hclose) first
                fun _ _ _ _ r₀ hlt he hs ht h => ih fuel (by omega) (by omega) he hs ht h
            · next n r₁ first =>
              split at h
              · next others =>
                cases h
                have hstep := Node.step_of_readFuel first
                obtain ⟨b, as, hpass⟩ := hstep.passes
                have hscan : Scanned stack i r [n] r₁ :=
                  scanned_of_step hstack htop hstep (by simpa using hclose)
                    fun _ _ _ _ _ _ _ hs ht h => scanned_of_readAllFuel hs ht h
                have hlt : r₁.rest.length < r.rest.length := by
                  rw [hpass.rest, List.length_append, List.length_cons]
                  omega
                have hrest := ih (fuel + 1) (by omega) (i := i + Paragraph.size [n]) (by omega)
                  (fun a ha => hends a (by rw [hpass.rest]; exact List.mem_append_right _ ha))
                  hstack htop others
                rw [hscan, hrest]
                rfl
              · cases h

/-! ### The pairs of a block -/

/-- A block whose end was met is read as the scan says. -/
theorem Block.map_quotePairs_parse {b : Block} (closed : b.closed = true)
    (inside : ∀ a ∈ b.body, a.isBlockEnd = false) :
    b.parse.map (Paragraph.quotePairs 0) =
      scanQuotes [] 0 (some (.event b.opening b.start)) b.body := by
  have hstack : ClosersOk [] := fun q hq => absurd hq List.not_mem_nil
  have htop : Innermost none b.start [] := rfl
  rw [Block.parse]
  split
  · next e h =>
    exact (scanAt_of_readAllFuel_error (i := 0) (by simp) inside hstack htop h).symm
  · next ns r h =>
    have hscan : Scanned [] 0 _ ns r := scanned_of_readAllFuel hstack htop h
    rw [Scanned, scanAt, scanAt, Node.rest_eq_nil_of_readAllFuel h] at hscan
    rw [hscan, if_pos closed]
    simp [scanQuotes, finishScan, Except.map]

/-- **The paragraph of a block is what the scan says.**  A block gives a paragraph if and only if
the scan ends with nothing open; its quotations are then the pairs that the scan finds.  Otherwise
it gives the error of the scan. -/
theorem parseParagraphs_cons_block {e e' : Event} {body : List Atom}
    (start : e.isBlockStart = true) (stop : e'.isBlockEnd = true)
    (inside : ∀ a ∈ body, a.isBlockEnd = false) (s s' : Span) (rest : List Atom) :
    ∃ result, parseParagraphs (.event e s :: (body ++ .event e' s' :: rest)) =
        result :: parseParagraphs rest ∧
      result.map (Paragraph.quotePairs 0) =
        scanQuotes [] 0 (some (.event e s)) (body ++ .event e' s' :: rest) := by
  refine ⟨_, parseParagraphs_cons start s inside (.event e' s') stop rest, ?_⟩
  rw [scanQuotes_append_stop stop s' rest body [] 0 _ inside]
  exact Block.map_quotePairs_parse rfl inside

/-- The conclusion of `parseParagraphs_cons_block` at a quotation in a quotation: the apostrophe
within a word belongs to neither. -/
theorem parseParagraphs_cons_block_nested :
    let start : Atom := .event ⟨.opening, "paragraph", []⟩ (Span.point 0)
    let stop : Atom := .event ⟨.closing, "paragraph", []⟩ (Span.point 14)
    ∃ result,
      parseParagraphs (start :: (Atom.ofText 0 "“it's 'b'”".toList ++ [stop])) = [result] ∧
      result.map (Paragraph.quotePairs 0) =
        .ok [⟨⟨6, '\'', ⟨8, 9⟩⟩, ⟨8, '\'', ⟨10, 11⟩⟩⟩, ⟨⟨0, '“', ⟨0, 3⟩⟩, ⟨9, '”', ⟨11, 14⟩⟩⟩] := by
  intro start stop
  obtain ⟨result, hread, hpairs⟩ :=
    @parseParagraphs_cons_block ⟨.opening, "paragraph", []⟩ ⟨.closing, "paragraph", []⟩
      (Atom.ofText 0 "“it's 'b'”".toList) rfl rfl (by decide) (Span.point 0) (Span.point 14) []
  refine ⟨result, hread, hpairs.trans ?_⟩
  rfl

end CjkProse
