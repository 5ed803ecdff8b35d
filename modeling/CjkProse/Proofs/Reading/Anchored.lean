import CjkProse.Proofs.Reading.Lossless
import CjkProse.Proofs.Source.Slices

/-!
# Trees and their source

When the atoms of a block stand in a text, each at its place and without a gap, so do the values of
its tree: what a leaf tells to be its original is what its span holds.

## Main definitions

* `Atom.Stands`, `Leaf.Stands` — an atom, a leaf, is what its span holds.
* `Leaf.IsFresh` — a leaf as it is read: nothing is revised, and a space is made up of spaces.

## Main results

* `Spells.stands` — leaves stand in the text that their atoms stand in.
* `Spells.isFresh` — leaves that have been read are fresh.
-/

namespace CjkProse

open Reader (runStop)

/-- An atom is what its span of `text` holds. -/
def Atom.Stands (text : Text) : Atom → Prop
  | .char c s => Slice text s [c]
  | .event _ s => ∃ u, Slice text s u

/-- A leaf was what its span of `text` holds. -/
def Leaf.Stands (text : Text) : Leaf → Prop
  | .mark v => Slice text v.span [v.original]
  | .run v => Slice text v.span v.original
  | .space v => Slice text v.span v.original
  | .event _ s => ∃ u, Slice text s u

theorem Leaf.Stands.atStop {text : Text} {l : Leaf} (h : l.Stands text) :
    Slice text ⟨l.span.stop, l.span.stop⟩ [] := by
  cases l with
  | mark v => exact Slice.atStop h
  | run v => exact Slice.atStop h
  | space v => exact Slice.atStop h
  | event e s =>
    obtain ⟨u, hu⟩ := h
    exact hu.atStop

/-- A leaf that has a text was what its span holds. -/
theorem Leaf.Stands.start_le_stop {text : Text} {l : Leaf} (h : l.Stands text) :
    l.span.start ≤ l.span.stop := by
  cases l with
  | mark v => exact Slice.start_le_stop h
  | run v => exact Slice.start_le_stop h
  | space v => exact Slice.start_le_stop h
  | event e s =>
    obtain ⟨u, hu⟩ := h
    exact hu.start_le_stop

/-- A run without gaps is what the span from its start to its end holds. -/
theorem slice_ofRun {text : Text} {as : List Atom} {b : Int} : ∀ {run : List (Char × Span)}
    {a : Int}, Slice text ⟨a, a⟩ [] → Tiles a ((Atom.ofRun run ++ as).map Atom.span) b →
      (∀ x ∈ Atom.ofRun run, x.Stands text) → Slice text ⟨a, runStop a run⟩ (run.map Prod.fst) := by
  intro run
  induction run with
  | nil => intro a here _ _; exact here
  | cons p run ih =>
    intro a here htile hstands
    obtain ⟨c, s⟩ := p
    obtain ⟨hstart, htile'⟩ := htile
    have hc : Slice text s [c] := hstands _ List.mem_cons_self
    -- the rest of the run starts where its first character stops, and touches it there
    have hrest := ih hc.atStop htile' fun x hx => hstands x (List.mem_cons_of_mem _ hx)
    obtain ⟨s₁, s₂⟩ := s
    obtain rfl : s₁ = a := hstart
    exact hc.append hrest

/-- A leaf stands where the atoms that spell it stand. -/
theorem Leaf.Spelt.stands {text : Text} {a b : Int} {l : Leaf} {as bs : List Atom}
    (h : l.Spelt a as) (here : Slice text ⟨a, a⟩ [])
    (htile : Tiles a ((as ++ bs).map Atom.span) b) (hstands : ∀ x ∈ as, x.Stands text) :
    l.Stands text := by
  cases l with
  | mark v => obtain ⟨c, s, rfl, rfl⟩ := h; exact hstands _ List.mem_cons_self
  | run v =>
    obtain ⟨c, s, run, rfl, rfl⟩ := h
    obtain rfl : s.start = a := htile.1
    exact slice_ofRun here htile hstands
  | space v =>
    obtain ⟨run, rfl, _, rfl⟩ := h
    exact slice_ofRun here htile hstands
  | event e s => obtain rfl := h; exact hstands _ List.mem_cons_self

/-- Leaves stand where the atoms that spell them stand. -/
theorem Spells.stands {text : Text} {a b : Int} {ls : List Leaf} {as : List Atom}
    (h : Spells a ls as) (here : Slice text ⟨a, a⟩ []) (htile : Tiles a (as.map Atom.span) b)
    (hstands : ∀ x ∈ as, x.Stands text) : ∀ l ∈ ls, l.Stands text := by
  induction h with
  | nil => simp
  | cons head _ ih =>
    have hl := head.stands here htile fun x hx => hstands x (List.mem_append_left _ hx)
    obtain ⟨-, htile'⟩ := head.tiles htile
    exact List.forall_mem_cons.mpr
      ⟨hl, ih hl.atStop htile' fun x hx => hstands x (List.mem_append_right _ hx)⟩

/-! ### Fresh leaves -/

/-- A leaf as it is read. -/
def Leaf.IsFresh : Leaf → Prop
  | .mark v => v.modified = none
  | .run v => v.modified = none
  | .space v => v.modified = none ∧ ∀ c ∈ v.original, isSpace c = true
  | .event _ _ => True

/-- Leaves that have been read are fresh. -/
theorem Spells.isFresh {a : Int} {ls : List Leaf} {as : List Atom} (h : Spells a ls as) :
    ∀ l ∈ ls, l.IsFresh := by
  induction h with
  | nil => simp
  | @cons stop l ls as bs head _ ih =>
    refine List.forall_mem_cons.mpr ⟨?_, ih⟩
    cases l with
    | mark v => obtain ⟨c, s, rfl, rfl⟩ := head; rfl
    | run v => obtain ⟨c, s, run, rfl, rfl⟩ := head; rfl
    | space v =>
      obtain ⟨run, rfl, hspace, rfl⟩ := head
      refine ⟨rfl, fun c hc => ?_⟩
      obtain ⟨p, hp, rfl⟩ := List.mem_map.mp hc
      rw [isSpace, hspace p hp]
      rfl
    | event e s => trivial

end CjkProse
