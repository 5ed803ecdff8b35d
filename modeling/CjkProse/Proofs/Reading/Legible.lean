import CjkProse.Proofs.Reading.QuoteStack

/-!
# Trees that can be told apart again

A tree is legible if its quotations stand between marks for it, no other mark is a quotation mark,
and each apostrophe stands directly between two half-width runs, so that it is taken for what it is.
All of this is told of the values in force, and of those of the source as far as a value may be given
back.  What the reader reads is legible.

## Main definitions

* `Punct.IsDirected`, `Punct.IsPair` — the marks that a quotation may stand between.
* `Paragraph.Flush` — apostrophes stand directly between half-width runs.
* `Paragraph.IsLegible` — quotations stand between marks with a given property, and nothing else is
  taken for a quotation mark.

## Main results

* `Node.Step.readFrom` — what is known of one node that is read.
* `Block.isLegible_of_parse` — **what has been read is legible.**
-/

namespace CjkProse

open Reader (isHalfLetter)

/-! ### Legible trees -/

/-- A mark that opens quotations only, and the one that closes them. -/
def Punct.IsDirected (o c : Char) : Prop := closing? o = some c

/-- Two marks that a quotation stands between: directed ones, or the same straight mark twice. -/
def Punct.IsPair (o c : Char) : Prop := IsDirected o c ∨ o = c ∧ c ∈ westernQuote

/-- A space that is made up of spaces, in the source and by now. -/
def Revisable.IsBlank (a : Revisable Space) : Prop :=
  (∀ c ∈ a.original, isSpace c = true) ∧ ∀ c ∈ a.value, isSpace c = true

/-- A mark that is no quotation mark, in the source and by now, or an apostrophe as it was. -/
def Revisable.IsLegible (v : Revisable Char) : Prop :=
  (isPlain v.original = true ∧ isPlain v.value = true) ∨ (v.original = '\'' ∧ v.modified = none)

namespace Node

/-- An apostrophe, or what was one. -/
def IsApostrophe : Node → Prop
  | char v _ => v.original = '\''
  | _ => False

/-- A node directly after which the next one starts, in the source and by now. -/
def IsTight (n : Node) : Prop := n.after.original = [] ∧ n.after.modified = none

/-- A quotation has marks with the property `q`. -/
def Delimited (q : Char → Char → Prop) : Node → Prop
  | group o _ _ c _ => q o.value c.value
  | _ => True

end Node

/-- Each apostrophe stands directly between two half-width runs.  Whether one of these comes directly
before the list is told by `word`. -/
def Paragraph.Flush (word : Prop) : List Node → Prop
  | [] => True
  | n :: ns => (n.IsApostrophe → word ∧ n.IsTight ∧ ns.head?.any Node.isHalf) ∧
      Flush (n.isHalf ∧ n.IsTight) ns

theorem Paragraph.Flush.mono {w w' : Prop} {ns : List Node} (h : Flush w ns)
    (hw : (∀ n ∈ ns.head?, n.IsApostrophe → w → w')) : Flush w' ns := by
  cases ns with
  | nil => trivial
  | cons n ns =>
    refine ⟨fun hn => ?_, h.2⟩
    obtain ⟨hword, hrest⟩ := h.1 hn
    exact ⟨hw n rfl hn hword, hrest⟩

mutual

/-- What stands in a node can be told apart again, given that quotations in it stand between marks
with the property `q`. -/
def Node.IsLegible (q : Char → Char → Prop) : Node → Prop
  | .char v a => v.IsLegible ∧ a.IsBlank
  | .half v a => v.modified = none ∧ v.original ≠ [] ∧
      (∀ c ∈ v.original, CharKind.of c = .letterHalf) ∧ a.IsBlank
  | .full v a => v.modified = none ∧ (∀ c ∈ v.original, CharKind.of c = .letterFull) ∧ a.IsBlank
  | .event e _ a => e.isBlockEnd = false ∧ a.IsBlank
  | .group _ inner ns _ a => inner.IsBlank ∧ Paragraph.Flush False ns ∧
      Paragraph.IsLegible q ns ∧ a.IsBlank

/-- What stands in some nodes can be told apart again, and quotations stand between marks with the
property `q`. -/
def Paragraph.IsLegible (q : Char → Char → Prop) : List Node → Prop
  | [] => True
  | n :: ns => n.Delimited q ∧ n.IsLegible q ∧ Paragraph.IsLegible q ns

end

@[simp] theorem Paragraph.isLegible_nil (q : Char → Char → Prop) : Paragraph.IsLegible q [] := by
  rw [Paragraph.IsLegible]
  trivial

@[simp] theorem Paragraph.isLegible_cons {q : Char → Char → Prop} {n : Node} {ns : List Node} :
    Paragraph.IsLegible q (n :: ns) ↔
      n.Delimited q ∧ n.IsLegible q ∧ Paragraph.IsLegible q ns := by
  rw [Paragraph.IsLegible]

theorem Paragraph.isLegible_iff {q : Char → Char → Prop} {ns : List Node} :
    Paragraph.IsLegible q ns ↔ ∀ n ∈ ns, n.Delimited q ∧ n.IsLegible q := by
  induction ns with
  | nil => simp
  | cons n ns ih => rw [isLegible_cons, ih, List.forall_mem_cons, and_assoc]

/-! ### What has been read -/

theorem not_isHalfLetter_of_isLetter {c : Char} (h : (CharKind.of c).isLetter = false) (s : Span) :
    isHalfLetter (some (.char c s)) = false := by
  simp only [isHalfLetter, Option.any_some, Atom.isKind, beq_eq_false_iff_ne, ne_eq]
  intro hkind
  rw [hkind] at h
  cases h

/-- A mark that closes quotations is no letter. -/
theorem isLetter_of_isClosingMark {c : Char} (h : isClosingMark c = true) :
    (CharKind.of c).isLetter = false := by
  rw [Bool.eq_false_iff]
  intro hletter
  have hplain := isPlain_of_kind (.inr hletter)
  simp [isPlain, h] at hplain

namespace Reader

/-- Directly after a half-width letter, nothing or half-width letters have been taken. -/
theorem isHalfLetter_takeKind {k : CharKind} {r : Reader}
    (h : isHalfLetter (r.takeKind k).2.prev = true) :
    k = .letterHalf ∨ (r.takeKind k).1 = [] ∧ isHalfLetter r.prev = true := by
  rw [(takeKind_passes k r).prev] at h
  cases hlast : (Atom.ofRun (r.takeKind k).1).getLast? with
  | none =>
    rw [hlast] at h
    exact .inr ⟨by simpa [Atom.ofRun] using hlast, h⟩
  | some a =>
    obtain ⟨p, hp, rfl⟩ := Atom.mem_ofRun.mp (List.mem_of_getLast? hlast)
    rw [hlast] at h
    exact .inl (by simpa [isHalfLetter, Atom.isKind, kind_of_mem_takeKind hp] using h)

/-- Directly after a half-width letter, no space has been taken. -/
theorem isHalfLetter_takeSpace {anchor : Int} {r : Reader}
    (h : isHalfLetter (r.takeSpace anchor).2.prev = true) :
    (r.takeSpace anchor).1.original = [] ∧ isHalfLetter r.prev = true := by
  obtain ⟨hnil, hprev⟩ := (isHalfLetter_takeKind (k := .space) (r := r) h).resolve_left nofun
  exact ⟨by rw [takeSpace_fst, spaceRun, hnil]; rfl, hprev⟩

/-- After what is no letter, and spaces, there is no half-width letter. -/
theorem isHalfLetter_takeSpace_char {c : Char} (h : (CharKind.of c).isLetter = false)
    {anchor : Int} {s : Span} {rest : List Atom} :
    isHalfLetter (takeSpace anchor ⟨some (.char c s), rest⟩).2.prev = false := by
  rw [Bool.eq_false_iff]
  intro hprev
  have hc : isHalfLetter (some (.char c s)) = true := (isHalfLetter_takeSpace hprev).2
  rw [not_isHalfLetter_of_isLetter h] at hc
  cases hc

/-- Before a half-width letter no space is taken. -/
theorem takeSpace_of_isHalfLetter {anchor : Int} {r : Reader}
    (h : isHalfLetter r.rest.head? = true) :
    (r.takeSpace anchor).1.original = [] ∧ (r.takeSpace anchor).2.rest = r.rest := by
  have hpass := r.takeSpace_passes anchor
  rw [takeSpace_fst]
  cases hrun : r.spaceRun with
  | nil => rw [hrun] at hpass; exact ⟨rfl, hpass.rest.symm⟩
  | cons p run =>
    rw [hrun] at hpass
    have hp := isSpace_of_mem_spaceRun (r := r) (p := p) (by simp [hrun])
    rw [hpass.rest] at h
    simp [isHalfLetter, Atom.isKind, hp] at h

theorem isBlank_takeSpace (anchor : Int) (r : Reader) : (r.takeSpace anchor).1.IsBlank := by
  have hspace : ∀ c ∈ (r.takeSpace anchor).1.original, isSpace c = true := by
    intro c hc
    rw [takeSpace_fst, List.mem_map] at hc
    obtain ⟨p, hp, rfl⟩ := hc
    simp [isSpace, isSpace_of_mem_spaceRun hp]
  exact ⟨hspace, hspace⟩

end Reader

namespace Node

/-- The marks that start and end a group are a pair. -/
theorem isPair_of_closerOf {c d : Char} {r : Reader} (h : closerOf c r = some d) :
    Punct.IsPair c d := by
  rw [closerOf] at h
  split at h
  · next hd => cases h; exact .inl hd
  · split at h
    · next hwestern =>
      cases h
      exact .inr ⟨rfl, List.contains_iff_mem.mp (Bool.and_eq_true_iff.mp hwestern).1⟩
    · cases h

/-- A mark that starts no group and closes none is no quotation mark, unless it is an apostrophe. -/
theorem isPlain_or_atContraction {c : Char} {r : Reader} (opens : closerOf c r = none)
    (closes : Punct.chineseRightQuote.contains c = false) :
    isPlain c = true ∨ r.atContraction = true := by
  rw [closerOf] at opens
  split at opens
  · cases opens
  · next hnone =>
    split at opens
    · cases opens
    · next hwestern =>
      simp only [Bool.and_eq_true, Bool.not_eq_true', not_and, Bool.not_eq_false] at hwestern
      by_cases hw : Punct.westernQuote.contains c = true
      · exact .inr (hwestern hw)
      · rw [Bool.not_eq_true] at hw
        exact .inl (by rw [isPlain, isClosingMark, hnone, closes, hw]; rfl)

theorem eq_apostrophe_of_atContraction {r : Reader} {c : Char} {s : Span} {rest : List Atom}
    (head : r.rest = .char c s :: rest) (h : r.atContraction = true) :
    c = '\'' ∧ isHalfLetter r.prev = true ∧ isHalfLetter rest.head? = true := by
  obtain ⟨prev, rest'⟩ := r
  cases head
  rw [atContraction_eq] at h
  simpa [isContraction, and_assoc] using h

end Node

/-- What is known of the nodes that are read from `r`. -/
structure Paragraph.ReadFrom (r : Reader) (ns : List Node) : Prop where
  /-- They can be told apart again. -/
  legible : IsLegible Punct.IsPair ns
  /-- Apostrophes stand directly between half-width runs. -/
  flush : Flush (isHalfLetter r.prev = true) ns
  /-- At a half-width letter, a half-width run comes first. -/
  head : isHalfLetter r.rest.head? = true → ns.head?.any Node.isHalf = true

/-- What is known of one node that is read, from `r` to `r'`. -/
structure Node.ReadFrom (r : Reader) (n : Node) (r' : Reader) : Prop where
  /-- A quotation stands between a pair of marks. -/
  delimited : n.Delimited Punct.IsPair
  /-- What stands in it can be told apart again. -/
  legible : n.IsLegible Punct.IsPair
  /-- An apostrophe stands directly between half-width letters. -/
  apostrophe : n.IsApostrophe →
    isHalfLetter r.prev = true ∧ n.IsTight ∧ isHalfLetter r'.rest.head? = true
  /-- Directly after a half-width letter, a half-width run has been read. -/
  prev : isHalfLetter r'.prev = true → n.isHalf = true ∧ n.IsTight
  /-- At a half-width letter, a half-width run has been read. -/
  head : isHalfLetter r.rest.head? = true → n.isHalf = true

/-- A run of letters that has been read. -/
theorem Node.readFrom_readRun {prev : Option Atom} {c : Char} {s : Span} {rest : List Atom}
    {k : CharKind} (kind : CharKind.of c = k) (letter : k = .letterHalf ∨ k = .letterFull) :
    Node.ReadFrom ⟨prev, .char c s :: rest⟩ (readRun k s.start ⟨prev, .char c s :: rest⟩).1
      (readRun k s.start ⟨prev, .char c s :: rest⟩).2 := by
  have hkind : ∀ d ∈ (Reader.takeKind k ⟨prev, .char c s :: rest⟩).1.map Prod.fst,
      CharKind.of d = k := by
    intro d hd
    obtain ⟨p, hp, rfl⟩ := List.mem_map.mp hd
    exact Reader.kind_of_mem_takeKind hp
  have hne : (Reader.takeKind k ⟨prev, .char c s :: rest⟩).1.map Prod.fst ≠ [] := by
    rw [Reader.takeKind_cons kind]
    exact List.cons_ne_nil _ _
  have hblank := Reader.isBlank_takeSpace
    (Reader.runStop s.start (Reader.takeKind k ⟨prev, .char c s :: rest⟩).1)
    (Reader.takeKind k ⟨prev, .char c s :: rest⟩).2
  rcases letter with rfl | rfl
  · exact ⟨trivial, ⟨rfl, hne, hkind, hblank⟩, False.elim,
      fun h => ⟨rfl, (Reader.isHalfLetter_takeSpace h).1, rfl⟩, fun _ => rfl⟩
  · refine ⟨trivial, ⟨rfl, hkind, hblank⟩, False.elim, fun h => ?_, fun h => ?_⟩
    · -- the last letter of the run is of full width
      have hspace : isHalfLetter (Reader.takeSpace (Reader.runStop s.start (Reader.takeKind
          .letterFull ⟨prev, .char c s :: rest⟩).1) (Reader.takeKind .letterFull
          ⟨prev, .char c s :: rest⟩).2).2.prev = true := h
      rcases Reader.isHalfLetter_takeKind (Reader.isHalfLetter_takeSpace hspace).2 with hk | ⟨hnil, -⟩
      · cases hk
      · exact absurd (by rw [hnil]; rfl) hne
    · simp [isHalfLetter, Atom.isKind, kind] at h

/-- One node that is read, given what is known of the nodes inside of a quotation. -/
theorem Node.Step.readFrom {fuel : Nat} {r r' : Reader} {n : Node} (h : Step fuel r n r')
    (inside : ∀ closer opener r ns r', isClosingMark closer = true →
      readAllFuel fuel (some closer) opener r = .ok (ns, r') → Paragraph.ReadFrom r ns) :
    Node.ReadFrom r n r' := by
  cases h with
  | @event e s rest head hinside =>
    refine ⟨trivial, ⟨hinside, Reader.isBlank_takeSpace _ _⟩, False.elim, fun h => ?_, fun h => ?_⟩
    · exact absurd (Reader.isHalfLetter_takeSpace h).2 (by simp [isHalfLetter, Atom.isKind])
    · rw [head] at h
      simp [isHalfLetter, Atom.isKind] at h
  | @run c s rest k head kind letter =>
    obtain ⟨prev, rest'⟩ := r
    cases head
    exact readFrom_readRun kind letter
  | @group c d closer s t rest rest' ns r₁ head kind opens hin close =>
    have hclosing := isClosingMark_of_closerOf opens
    obtain rfl : closer = d := by
      obtain ⟨u, rest₂, hrest⟩ := exists_of_atClose
        ((close_of_readAllFuel hin).resolve_right (by simp))
      rw [close] at hrest
      cases hrest
      rfl
    obtain ⟨legible, flush, -⟩ := inside _ _ _ _ _ hclosing hin
    -- directly before the nodes inside stands the opening mark, or a space
    have hflush : Paragraph.Flush False ns := flush.mono fun _ _ _ h => by
      rw [Reader.isHalfLetter_takeSpace_char kind] at h
      cases h
    refine ⟨isPair_of_closerOf opens, ?_, False.elim, fun h => ?_, fun h => ?_⟩
    · rw [IsLegible]
      exact ⟨Reader.isBlank_takeSpace _ _, hflush, legible, Reader.isBlank_takeSpace _ _⟩
    · rw [Reader.isHalfLetter_takeSpace_char (isLetter_of_isClosingMark hclosing)] at h
      cases h
    · rw [head, List.head?_cons, not_isHalfLetter_of_isLetter kind] at h
      cases h
  | @char c s rest head kind opens closes =>
    have hplain := isPlain_or_atContraction opens closes
    refine ⟨trivial, ⟨?_, Reader.isBlank_takeSpace _ _⟩, fun h => ?_, fun h => ?_, fun h => ?_⟩
    · exact hplain.imp (fun h => ⟨h, h⟩) fun h => ⟨(eq_apostrophe_of_atContraction head h).1, rfl⟩
    · obtain rfl : c = '\'' := h
      obtain ⟨-, hprev, hnext⟩ := eq_apostrophe_of_atContraction head
        (hplain.resolve_left (by decide))
      obtain ⟨hnone, hrest⟩ := @Reader.takeSpace_of_isHalfLetter s.stop
        ⟨some (.char '\'' s), rest⟩ hnext
      exact ⟨hprev, ⟨hnone, rfl⟩, by rw [hrest]; exact hnext⟩
    · rw [Reader.isHalfLetter_takeSpace_char kind] at h
      cases h
    · rw [head, List.head?_cons, not_isHalfLetter_of_isLetter kind] at h
      cases h

/-- What is read, up to a mark that closes quotations or to the end. -/
theorem Paragraph.readFrom_of_readAllFuel {fuel : Nat} {closer : Option Char} {opener : Span}
    {r r' : Reader} {ns : List Node} (hcloser : ∀ c ∈ closer, isClosingMark c = true)
    (h : Node.readAllFuel fuel closer opener r = .ok (ns, r')) : ReadFrom r ns := by
  refine Node.readAllFuel_induction (P := fun closer _ r ns _ =>
    (∀ c ∈ closer, isClosingMark c = true) → ReadFrom r ns) ?_ ?_ h hcloser
  · intro closer opener r hstop hcloser
    refine ⟨isLegible_nil _, trivial, fun hhead => ?_⟩
    rcases hstop with hclose | ⟨-, hnil⟩
    · cases closer with
      | none => cases hclose
      | some c =>
        obtain ⟨s, rest, hrest⟩ := Node.exists_of_atClose hclose
        rw [hrest, List.head?_cons,
          not_isHalfLetter_of_isLetter (isLetter_of_isClosingMark (hcloser c rfl))] at hhead
        cases hhead
    · rw [hnil] at hhead
      cases hhead
  · intro fuel closer opener r n r₁ ns r' _ hstep inside others hcloser
    obtain ⟨delimited, legible, apostrophe, prev, head⟩ := hstep.readFrom
      fun d opener r ns r' hd h => inside (some d) opener r ns r' h fun c hc => by cases hc; exact hd
    obtain ⟨legible', flush', head'⟩ := others hcloser
    refine ⟨isLegible_cons.mpr ⟨delimited, legible, legible'⟩, ⟨fun hn => ?_, ?_⟩, head⟩
    · obtain ⟨hprev, htight, hnext⟩ := apostrophe hn
      exact ⟨hprev, htight, head' hnext⟩
    · exact flush'.mono fun _ _ _ => prev

/-- Only a block whose end was met gives a paragraph. -/
theorem Block.closed_of_parse {b : Block} {ns : Paragraph} (h : b.parse = .ok ns) :
    b.closed = true := by
  rw [Block.parse] at h
  split at h
  · cases h
  · split at h
    · next closed => exact closed
    · cases h

/-- **What has been read is legible**, and its apostrophes stand directly between half-width runs. -/
theorem Block.isLegible_of_parse {b : Block} {ns : Paragraph} (h : b.parse = .ok ns) :
    Paragraph.IsLegible Punct.IsPair ns ∧ Paragraph.Flush False ns := by
  obtain ⟨fuel, opener, r, hread⟩ := Block.readAllFuel_of_parse h
  obtain ⟨legible, flush, -⟩ := Paragraph.readFrom_of_readAllFuel (fun c hc => by cases hc) hread
  exact ⟨legible, flush.mono fun _ _ _ => by simp [isHalfLetter, Atom.isKind]⟩

end CjkProse
