import CjkProse.Proofs.Reading.Reread

/-!
# Outlines

The outline of a tree is what it holds, wherever it stands: its characters and events as they are in
the source, without the spans and the revisions.  Where two trees differ in the marks of their
quotations only, the outline of one becomes that of the other by renaming these marks.

## Main definitions

* `Outline`, `Paragraph.outline` — what a node is, and what the nodes of a list are.
* `Outline.renameAll` — outlines with other marks around their quotations.

## Main results

* `Outline.renameAll_renameAll` — renaming twice.
* `Paragraph.content_outline` — what the atoms of a paragraph are is told by its outline.
* `Block.content_of_parse` — they are those of its block.
-/

namespace CjkProse

/-- What a node is, wherever it stands: its characters and events as they are in the source. -/
inductive Outline
  /-- A single mark. -/
  | char (c : Char) (after : Space)
  /-- A run of half-width letters. -/
  | half (t : Text) (after : Space)
  /-- A run of full-width letters. -/
  | full (t : Text) (after : Space)
  /-- An event of the markup. -/
  | event (e : Event) (after : Space)
  /-- A quotation. -/
  | group (opener : Char) (inner : Space) (nodes : List Outline) (closer : Char) (after : Space)

mutual

/-- The outline of a node. -/
def Node.outline : Node → Outline
  | .char v a => .char v.original a.original
  | .half v a => .half v.original a.original
  | .full v a => .full v.original a.original
  | .event e _ a => .event e a.original
  | .group o inner ns c a =>
    .group o.original inner.original (Paragraph.outline ns) c.original a.original

/-- The outlines of a list of nodes. -/
def Paragraph.outline : List Node → List Outline
  | [] => []
  | n :: ns => n.outline :: Paragraph.outline ns

end

namespace Outline

mutual

/-- An outline with other marks around its quotations. -/
def rename (ρ : Char → Char) : Outline → Outline
  | .char c a => .char c a
  | .half t a => .half t a
  | .full t a => .full t a
  | .event e a => .event e a
  | .group o inner os c a => .group (ρ o) inner (renameAll ρ os) (ρ c) a

/-- Outlines with other marks around their quotations. -/
def renameAll (ρ : Char → Char) : List Outline → List Outline
  | [] => []
  | o :: os => o.rename ρ :: renameAll ρ os

end

mutual

/-- What the atoms of an outline are. -/
def content : Outline → List (Char ⊕ Event)
  | .char c a => .inl c :: a.map .inl
  | .half t a => (t ++ a).map .inl
  | .full t a => (t ++ a).map .inl
  | .event e a => .inr e :: a.map .inl
  | .group o inner os c a =>
    .inl o :: (inner.map .inl ++ (contentAll os ++ .inl c :: a.map .inl))

/-- What the atoms of a list of outlines are. -/
def contentAll : List Outline → List (Char ⊕ Event)
  | [] => []
  | o :: os => o.content ++ contentAll os

end

mutual

/-- Renaming twice, where the first names do not matter to the second renaming. -/
theorem rename_rename {σ τ : Char → Char} (h : ∀ c, τ (σ c) = τ c) : ∀ o : Outline,
    (o.rename σ).rename τ = o.rename τ
  | .group o inner os c a => by
    rw [rename, rename, rename, h, h, renameAll_renameAll h os]
  | .char c a => by rw [rename]
  | .half t a => by rw [rename]
  | .full t a => by rw [rename]
  | .event e a => by rw [rename]

theorem renameAll_renameAll {σ τ : Char → Char} (h : ∀ c, τ (σ c) = τ c) : ∀ os : List Outline,
    renameAll τ (renameAll σ os) = renameAll τ os
  | [] => by rw [renameAll, renameAll]
  | o :: os => by
    rw [renameAll, renameAll, renameAll, rename_rename h o, renameAll_renameAll h os]

end

end Outline

mutual

theorem Node.content_outline : ∀ n : Node, n.outline.content = n.content
  | .group o inner ns c a => by
    rw [Node.outline, Outline.content, Paragraph.content_outline ns, Node.content_group]
  | .char v a => by rw [Node.outline, Outline.content, Node.content_char]
  | .half v a => by rw [Node.outline, Outline.content, Node.content_half]
  | .full v a => by rw [Node.outline, Outline.content, Node.content_full]
  | .event e s a => by rw [Node.outline, Outline.content, Node.content_event]

/-- What the atoms of a paragraph are is told by its outline. -/
theorem Paragraph.content_outline : ∀ ns : List Node,
    Outline.contentAll (Paragraph.outline ns) = Paragraph.content ns
  | [] => by rw [Paragraph.outline, Outline.contentAll, Paragraph.content_nil]
  | n :: ns => by
    rw [Paragraph.outline, Outline.contentAll, Node.content_outline n, Paragraph.content_outline ns,
      Paragraph.content_cons]

end

/-- What the atoms of a paragraph are is what those of its block are. -/
theorem Block.content_of_parse {b : Block} {ns : Paragraph} (hparse : b.parse = .ok ns) :
    Paragraph.content ns = b.body.map Atom.content := by
  have hvalue := (Block.spells_of_parse hparse 0).map_value
  have hcontent : Atom.content = Sum.map id Prod.fst ∘ Atom.value := by
    funext a
    cases a <;> rfl
  rw [Paragraph.content, hcontent, ← List.map_map, ← List.map_map, ← hvalue]
  rfl

end CjkProse
