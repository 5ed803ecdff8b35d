import CjkProse.Proofs.Reading.Leaves
import CjkProse.Proofs.Source.Slices

/-!
# Nothing is lost in reading

A paragraph can be flattened to the atoms of its block again: no atom is lost, repeated or moved.
The spans of its leaves tell where these atoms stand in the source.  A run of letters has one span
for all of its letters, and the span of a space starts where the node before it ends.  Where the
atoms follow each other without a gap, as those of one block do, so do the leaves, and each space
fills the gap between two nodes; there every single atom comes back with its own span.  Where they
leave gaps, the span of a letter within a run is not kept.

## Main definitions

* `Atom.value` — what an atom is, wherever it stands.
* `Paragraph.GapsMeet` — each space reaches from the end of its node to the start of the next one.

## Main results

* `Spells.map_value`, `Spells.tiles`, `Spells.flatMap_atoms` — values, spans, and both of them.
* `Paragraph.gapsMeet_of_tiles` — leaves without gaps make spaces that fill the gaps.
* `parse_lossless` — **a paragraph flattens to its block.**
-/

namespace CjkProse

open Reader (runStop)

/-- What an atom is: a character, wherever it stands, or an event with its span. -/
def Atom.value : Atom → Char ⊕ (Event × Span)
  | .char c _ => .inl c
  | .event e s => .inr (e, s)

/-! ### Runs -/

theorem Atom.map_value_ofText (t : Text) : ∀ start : Int,
    (Atom.ofText start t).map Atom.value = t.map .inl := by
  induction t with
  | nil => intro start; rfl
  | cons c t ih => intro start; simp [ih, Atom.value]

theorem Atom.map_value_ofRun (run : List (Char × Span)) :
    (Atom.ofRun run).map Atom.value = (run.map Prod.fst).map .inl := by
  induction run with
  | nil => rfl
  | cons p run ih => simp [ih, Atom.value]

/-- Past a run, a tiling goes on where the run stops. -/
theorem tiles_ofRun {as : List Atom} {b : Int} : ∀ {run : List (Char × Span)} {a : Int},
    Tiles a ((Atom.ofRun run ++ as).map Atom.span) b →
      Tiles (runStop a run) (as.map Atom.span) b := by
  intro run
  induction run with
  | nil => intro a h; exact h
  | cons p run ih => intro a h; exact ih h.2

/-- Characters that take up as many bytes as they are encoded in. -/
def Atom.Sized (as : List Atom) : Prop :=
  ∀ c s, Atom.char c s ∈ as → s.stop = s.start + c.utf8Size

theorem Atom.Sized.of_append {as bs : List Atom} (h : Atom.Sized (as ++ bs)) :
    Atom.Sized as ∧ Atom.Sized bs :=
  ⟨fun c s hc => h c s (List.mem_append_left _ hc),
    fun c s hc => h c s (List.mem_append_right _ hc)⟩

theorem Atom.sized_ofText (t : Text) : ∀ start : Int, Atom.Sized (Atom.ofText start t) := by
  induction t with
  | nil => intro start c s hc; simp at hc
  | cons d t ih =>
    intro start c s hc
    rw [Atom.ofText_cons, List.mem_cons] at hc
    rcases hc with h | hc
    · cases h; rfl
    · exact ih _ c s hc

/-- A run without gaps is told by its text and its start. -/
theorem Atom.ofText_eq_ofRun {as : List Atom} {b : Int} : ∀ {run : List (Char × Span)} {a : Int},
    Atom.Sized (Atom.ofRun run) → Tiles a ((Atom.ofRun run ++ as).map Atom.span) b →
      Atom.ofText a (run.map Prod.fst) = Atom.ofRun run := by
  intro run
  induction run with
  | nil => intro a _ _; rfl
  | cons p run ih =>
    intro a hsize htile
    obtain ⟨c, s⟩ := p
    obtain ⟨hstart, htile⟩ := htile
    have hs : s.stop = s.start + c.utf8Size := hsize c s List.mem_cons_self
    have ih' := ih (fun d t hd => hsize d t (List.mem_cons_of_mem _ hd)) htile
    simp only [Atom.span] at hstart ih'
    simp only [List.map_cons, Atom.ofText_cons, Atom.ofRun_cons, List.cons.injEq, Atom.char.injEq,
      true_and]
    refine ⟨?_, ?_⟩
    · cases s
      simp_all
    · rw [← hstart, ← hs]
      exact ih'

/-! ### Leaves -/

/-- The leaves have the values of the atoms that spell them. -/
theorem Spells.map_value {stop : Int} {ls : List Leaf} {as : List Atom} (h : Spells stop ls as) :
    (ls.flatMap Leaf.atoms).map Atom.value = as.map Atom.value := by
  induction h with
  | nil => rfl
  | @cons stop l ls as bs head _ ih =>
    rw [List.flatMap_cons, List.map_append, List.map_append, ih]
    congr 1
    cases l with
    | mark v => obtain ⟨c, s, rfl, rfl⟩ := head; rfl
    | run v =>
      obtain ⟨c, s, run, rfl, rfl⟩ := head
      rw [Atom.map_value_ofRun]
      exact Atom.map_value_ofText _ _
    | space v =>
      obtain ⟨run, rfl, _, rfl⟩ := head
      rw [Atom.map_value_ofRun]
      exact Atom.map_value_ofText _ _
    | event e s => obtain rfl := head; rfl

/-- Where the atoms leave no gap, a leaf starts where the tiling of the atoms has come to, and the
tiling goes on after it. -/
theorem Leaf.Spelt.tiles {a b : Int} {l : Leaf} {as bs : List Atom} (h : l.Spelt a as)
    (htile : Tiles a ((as ++ bs).map Atom.span) b) :
    l.span.start = a ∧ Tiles l.span.stop (bs.map Atom.span) b := by
  cases l with
  | mark v => obtain ⟨c, s, rfl, rfl⟩ := h; exact htile
  | run v => obtain ⟨c, s, run, rfl, rfl⟩ := h; exact ⟨htile.1, tiles_ofRun htile.2⟩
  | space v => obtain ⟨run, rfl, _, rfl⟩ := h; exact ⟨rfl, tiles_ofRun htile⟩
  | event e s => obtain rfl := h; exact htile

/-- Where the atoms leave no gap, the leaves leave none. -/
theorem Spells.tiles {a b : Int} {ls : List Leaf} {as : List Atom} (h : Spells a ls as)
    (htile : Tiles a (as.map Atom.span) b) : Tiles a (ls.map Leaf.span) b := by
  induction h with
  | nil => exact htile
  | cons head _ ih =>
    obtain ⟨hstart, htile'⟩ := head.tiles htile
    exact ⟨hstart, ih htile'⟩

/-- Where the atoms leave no gap, every one of them comes back with its span. -/
theorem Spells.flatMap_atoms {a b : Int} {ls : List Leaf} {as : List Atom} (h : Spells a ls as)
    (htile : Tiles a (as.map Atom.span) b) (hsize : Atom.Sized as) :
    ls.flatMap Leaf.atoms = as := by
  induction h with
  | nil => rfl
  | @cons stop l ls as bs head _ ih =>
    obtain ⟨_, htile'⟩ := head.tiles htile
    obtain ⟨hsize₁, hsize₂⟩ := hsize.of_append
    rw [List.flatMap_cons, ih htile' hsize₂]
    congr 1
    cases l with
    | mark v => obtain ⟨c, s, rfl, rfl⟩ := head; rfl
    | run v =>
      -- the tree keeps no spans of single characters: they follow from the tiling
      obtain ⟨c, s, run, rfl, rfl⟩ := head
      obtain rfl : s.start = stop := htile.1
      exact Atom.ofText_eq_ofRun hsize₁ htile
    | space v =>
      obtain ⟨run, rfl, _, rfl⟩ := head
      exact Atom.ofText_eq_ofRun hsize₁ htile
    | event e s => obtain rfl := head; rfl

/-! ### Spaces fill the gaps -/

/-- Where the first of some nodes starts; `stop` when there is none. -/
def Paragraph.startOr (stop : Int) : List Node → Int
  | [] => stop
  | n :: _ => n.span.start

mutual

/-- Inside of a quotation each space reaches to the next node, or to the closing mark. -/
def Node.GapsMeet : Node → Prop
  | .group o inner ns c _ =>
    inner.span = ⟨o.span.stop, Paragraph.startOr c.span.start ns⟩ ∧
      Paragraph.GapsMeet c.span.start ns
  | .char _ _ | .half _ _ | .full _ _ | .event _ _ _ => True

/-- The space after each node reaches from the end of the node to the start of the next one, the
last of them to `stop`; and so it is inside of each node. -/
def Paragraph.GapsMeet (stop : Int) : List Node → Prop
  | [] => True
  | n :: ns => n.after.span = ⟨n.span.stop, Paragraph.startOr stop ns⟩ ∧ n.GapsMeet ∧
      Paragraph.GapsMeet stop ns

end

theorem Span.eq_mk {s : Span} {a b : Int} (h : s.start = a) (h' : s.stop = b) : s = ⟨a, b⟩ := by
  subst h h'
  rfl

mutual

theorem Node.gapsMeet_of_tiles {a b : Int} : ∀ n : Node, Tiles a (n.leaves.map Leaf.span) b →
    n.span.start = a ∧ n.after.span = ⟨n.span.stop, b⟩ ∧ n.GapsMeet
  | .char v s, h => by
    simp only [Node.leaves, List.map_cons, List.map_nil, tiles_cons, tiles_nil, Leaf.span] at h
    exact ⟨h.1, Span.eq_mk h.2.1 h.2.2, by simp [Node.GapsMeet]⟩
  | .half v s, h => by
    simp only [Node.leaves, List.map_cons, List.map_nil, tiles_cons, tiles_nil, Leaf.span] at h
    exact ⟨h.1, Span.eq_mk h.2.1 h.2.2, by simp [Node.GapsMeet]⟩
  | .full v s, h => by
    simp only [Node.leaves, List.map_cons, List.map_nil, tiles_cons, tiles_nil, Leaf.span] at h
    exact ⟨h.1, Span.eq_mk h.2.1 h.2.2, by simp [Node.GapsMeet]⟩
  | .event e t s, h => by
    simp only [Node.leaves, List.map_cons, List.map_nil, tiles_cons, tiles_nil, Leaf.span] at h
    exact ⟨h.1, Span.eq_mk h.2.1 h.2.2, by simp [Node.GapsMeet]⟩
  | .group o inner ns c s, h => by
    simp only [Node.leaves, List.map_cons, List.map_append, List.map_nil, tiles_cons, Leaf.span,
      tiles_append, tiles_nil] at h
    obtain ⟨hopen, hinner, m, hin, hclose, hafter, hb⟩ := h
    obtain ⟨hstart, hmeet⟩ := Paragraph.gapsMeet_of_tiles ns hin
    subst hclose
    refine ⟨hopen, Span.eq_mk hafter hb, ?_⟩
    rw [Node.GapsMeet, hstart]
    exact ⟨Span.eq_mk hinner rfl, hmeet⟩

/-- Leaves without gaps make spaces that fill the gaps between nodes. -/
theorem Paragraph.gapsMeet_of_tiles {a b : Int} : ∀ ns : List Node,
    Tiles a ((Paragraph.leaves ns).map Leaf.span) b →
      Paragraph.startOr b ns = a ∧ Paragraph.GapsMeet b ns
  | [], h => by
    rw [Paragraph.leaves_nil] at h
    exact ⟨h.symm, by rw [Paragraph.GapsMeet]; trivial⟩
  | n :: ns, h => by
    rw [Paragraph.leaves_cons, List.map_append, tiles_append] at h
    obtain ⟨m, hn, hns⟩ := h
    obtain ⟨hstart, hafter, hin⟩ := Node.gapsMeet_of_tiles n hn
    obtain ⟨hnext, hmeet⟩ := Paragraph.gapsMeet_of_tiles ns hns
    refine ⟨hstart, ?_⟩
    rw [Paragraph.GapsMeet, hnext]
    exact ⟨hafter, hin, hmeet⟩

end

/-! ### Blocks -/

/-- The paragraph of a block is what is read from its atoms without a closing mark. -/
theorem Block.readAllFuel_of_parse {b : Block} {ns : Paragraph} (h : b.parse = .ok ns) :
    ∃ fuel opener r', Node.readAllFuel fuel none opener ⟨some (.event b.opening b.start), b.body⟩ =
      .ok (ns, r') := by
  rw [Block.parse] at h
  split at h
  · cases h
  · next ms r hread =>
    split at h
    · cases h
      exact ⟨_, _, _, hread⟩
    · cases h

/-- A paragraph is read from all atoms of its block. -/
theorem Block.spells_of_parse {b : Block} {ns : Paragraph} (h : b.parse = .ok ns) (stop : Int) :
    Spells stop (Paragraph.leaves ns) b.body := by
  obtain ⟨fuel, opener, r, hread⟩ := Block.readAllFuel_of_parse h
  obtain ⟨as, hpass, hspell⟩ := Node.spells_of_readAllFuel hread
  have hrest : b.body = as ++ r.rest := hpass.rest
  rw [Node.rest_eq_nil_of_readAllFuel hread, List.append_nil] at hrest
  rw [hrest]
  exact hspell stop

/-- **A paragraph flattens to its block.**  Its values and its events are those of the block, in
order; each mark and each event has the span of its atom, a run of letters reaches from its first
letter to its last one, and a space from the end of its node to its last character.  Where the atoms
leave no gap, neither do the leaves, the spaces fill the gaps between the nodes, and all atoms come
back with their spans. -/
theorem parse_lossless {b : Block} {ns : Paragraph} (h : b.parse = .ok ns) :
    (Paragraph.flatten ns).map Atom.value = b.body.map Atom.value ∧
    (∀ stop, Spells stop (Paragraph.leaves ns) b.body) ∧
    ∀ start stop, Tiles start (b.body.map Atom.span) stop →
      Tiles start ((Paragraph.leaves ns).map Leaf.span) stop ∧
      Paragraph.GapsMeet stop ns ∧
      (Atom.Sized b.body → Paragraph.flatten ns = b.body) := by
  have hspell := Block.spells_of_parse h
  refine ⟨(hspell b.start.stop).map_value, hspell, fun start stop htile => ?_⟩
  have hleaves := (hspell start).tiles htile
  exact ⟨hleaves, (Paragraph.gapsMeet_of_tiles ns hleaves).2,
    (hspell start).flatMap_atoms htile⟩

/-- The conclusion of `parse_lossless` at a quotation with a space inside of each of its marks. -/
theorem parse_lossless_quotation :
    let b : Block :=
      ⟨Span.point 0, ⟨.opening, "paragraph", []⟩, Atom.ofText 0 "“ 中a ”".toList, true⟩
    let ns : Paragraph :=
      [.group { original := '“', span := ⟨0, 3⟩ } { original := [' '], span := ⟨3, 4⟩ }
        [.full { original := ['中'], span := ⟨4, 7⟩ } { original := [], span := ⟨7, 7⟩ },
          .half { original := ['a'], span := ⟨7, 8⟩ } { original := [' '], span := ⟨8, 9⟩ }]
        { original := '”', span := ⟨9, 12⟩ } { original := [], span := ⟨12, 12⟩ }]
    b.parse = .ok ns ∧ Paragraph.flatten ns = b.body := by
  intro b ns
  have hblock : b = ⟨Span.point 0, ⟨.opening, "paragraph", []⟩,
      [.char '“' ⟨0, 3⟩, .char ' ' ⟨3, 4⟩, .char '中' ⟨4, 7⟩, .char 'a' ⟨7, 8⟩, .char ' ' ⟨8, 9⟩,
        .char '”' ⟨9, 12⟩], true⟩ := rfl
  have hparse : b.parse = .ok ns := by
    rw [hblock]
    rfl
  have htile : Tiles 0 (b.body.map Atom.span) 12 := by simp [b, Atom.span]; decide
  have hsize : Atom.Sized b.body := Atom.sized_ofText _ 0
  exact ⟨hparse, ((parse_lossless hparse).2.2 0 12 htile).2.2 hsize⟩

/-! ### What a tree does not keep -/

/-- A letter and two spaces, the first of them at `offset`, the second at 5. -/
def gappedEvents (offset : Int) : List PlacedEvent :=
  [⟨⟨.opening, "paragraph", []⟩, ⟨0, 0⟩⟩, ⟨⟨.text, "", ['a']⟩, ⟨0, 1⟩⟩,
    ⟨⟨.text, "", [' ']⟩, ⟨offset, offset + 1⟩⟩, ⟨⟨.text, "", [' ']⟩, ⟨5, 6⟩⟩,
    ⟨⟨.closing, "paragraph", []⟩, ⟨6, 6⟩⟩]

/-- The block of `gappedEvents`. -/
def gappedBlock (offset : Int) : Block :=
  ⟨⟨0, 0⟩, ⟨.opening, "paragraph", []⟩,
    [.char 'a' ⟨0, 1⟩, .char ' ' ⟨offset, offset + 1⟩, .char ' ' ⟨5, 6⟩], true⟩

/-- Both spaces are in one value, the span of which starts where the letter ends. -/
def gappedNodes : Paragraph :=
  [.half { original := ['a'], span := ⟨0, 1⟩ } { original := [' ', ' '], span := ⟨1, 6⟩ }]

/-- Where the atoms of a block leave gaps their spans cannot be told from its paragraph, however it
is flattened: two blocks may have the same paragraph. -/
theorem not_exists_flatten :
    ¬ ∃ flatten : Paragraph → List Atom, ∀ (events : List PlacedEvent),
      ∀ b ∈ Block.ofAtoms (Atom.ofEvents events), ∀ ns, b.parse = .ok ns → flatten ns = b.body := by
  rintro ⟨flatten, h⟩
  -- the first space may stand anywhere before the second one: the tree is the same
  have h₁ : flatten gappedNodes = (gappedBlock 1).body :=
    h (gappedEvents 1) (gappedBlock 1) (by decide) gappedNodes (rfl)
  have h₄ : flatten gappedNodes = (gappedBlock 4).body :=
    h (gappedEvents 4) (gappedBlock 4) (by decide) gappedNodes (rfl)
  exact absurd (h₁.symm.trans h₄) (by decide)

end CjkProse
