import CjkProse.Proofs.Reading.Renaming
import CjkProse.Proofs.Report.Off
import CjkProse.Proofs.Rule.Brackets

/-!
# Quotation styles

Under settings that ask for quotation marks in one style and for nothing else, a pass renames the
marks of all quotations and leaves everything else as it has been read.  Marks that have been
brought to one style can be brought to the other one, so what comes out of the first pass, read
again and brought to the second style, is the same as if it had been brought to that style at once.

## Main definitions

* `QuoteStyle.restyle` — a mark in a style.
* `Config.unify` — the settings that ask for a style only.

## Main results

* `QuoteStyle.renames_restyle` — a style renames pairs of marks.
* `outline_polish_unify` — a pass renames the marks of quotations.
* `polish_unify` — **quotation styles convert back and forth.**
-/

namespace CjkProse

/-! ### Marks -/

/-- A mark in a style, if it has a form in it. -/
def QuoteStyle.restyle : QuoteStyle → Char → Char
  | .simplified, c => (curly? c).getD c
  | .traditional, c => (corner? c).getD c

/-- The settings that ask for quotation marks in a style, and for nothing else. -/
def Config.unify (style : QuoteStyle) : Config :=
  { Config.empty with unifiedPunctuation := some style }

namespace QuoteStyle

/-- Only directed quotation marks have another form. -/
theorem restyle_eq_self (style : QuoteStyle) {c : Char} (left : c ∉ Punct.chineseLeftQuote)
    (right : c ∉ Punct.chineseRightQuote) : style.restyle c = c := by
  have hmarks : ∀ c, style.restyle c = c ∨ c ∈ Punct.chineseLeftQuote ∨
      c ∈ Punct.chineseRightQuote := by
    intro c
    cases style with
    | simplified =>
      change (curly? c).getD c = c ∨ _
      unfold curly?
      split <;> first | exact .inl rfl | exact .inr (by decide)
    | traditional =>
      change (corner? c).getD c = c ∨ _
      unfold corner?
      split <;> first | exact .inl rfl | exact .inr (by decide)
  exact (hmarks c).resolve_right (not_or.mpr ⟨left, right⟩)

/-- A style renames pairs of marks. -/
theorem renames_restyle (style : QuoteStyle) : Punct.Renames style.restyle := by
  refine ⟨?_, fun c => style.restyle_eq_self⟩
  cases style <;> decide

/-- What the form of a mark was before does not matter. -/
theorem restyle_restyle (style style' : QuoteStyle) (c : Char) :
    style'.restyle (style.restyle c) = style'.restyle c := by
  have hmarks : (Punct.chineseLeftQuote ++ Punct.chineseRightQuote).all
      (fun c => style'.restyle (style.restyle c) == style'.restyle c) = true := by
    cases style <;> cases style' <;> decide
  by_cases hc : c ∈ Punct.chineseLeftQuote ++ Punct.chineseRightQuote
  · exact beq_iff_eq.mp (List.all_eq_true.mp hmarks c hc)
  · rw [List.mem_append, not_or] at hc
    rw [style.restyle_eq_self hc.1 hc.2]

end QuoteStyle

theorem value_restyleQuote_unify (style : QuoteStyle) (v : Revisable Char) :
    ((Config.unify style).restyleQuote v).value = style.restyle v.value := by
  rw [Config.value_restyleQuote]
  cases style <;> rfl

/-! ### One list -/

/-- A node with its marks in the style asked for, if it is a quotation. -/
def Node.restyle (config : Config) : Node → Node
  | .group o inner ns c a => .group (config.restyleQuote o) inner ns (config.restyleQuote c) a
  | n => n

theorem Node.IsUnrevised.restyle {n : Node} (h : n.IsUnrevised) (config : Config) :
    (n.restyle config).IsUnrevised := by
  cases n with
  | group o inner ns c a => exact ⟨h.after, nofun⟩
  | char v a => exact h
  | half v a => exact h
  | full v a => exact h
  | event e s a => exact h

theorem quoteStyle_eq_modify (config : Config) (nodes : List Node) (i : Nat) :
    Rules.quoteStyle config nodes i = nodes.modify i (Node.restyle config) := by
  rw [Rules.quoteStyle, List.modify_eq_set_getElem?]
  cases hi : nodes[i]? with
  | none => rfl
  | some n =>
    cases n with
    | group o inner ns c a => rfl
    | char v a => exact (set_eq_self hi).symm
    | half v a => exact (set_eq_self hi).symm
    | full v a => exact (set_eq_self hi).symm
    | event e s a => exact (set_eq_self hi).symm

namespace Rule

variable {style : QuoteStyle} {nodes : List Node}

/-- The other rules do nothing where nothing has been revised. -/
theorem applyAt_unify {r : Rule} (hr : r ≠ .quoteStyle) (unrevised : ∀ n ∈ nodes, n.IsUnrevised)
    (i : Nat) : r.applyAt (.unify style) nodes i = nodes := by
  have hoff : r.applyAt (.unify style) nodes i = r.applyAt (.off [] [] []) nodes i := by
    cases r <;> first | rfl | exact absurd rfl hr
  rw [hoff, applyAt_off [] [] [] unrevised]

/-- All rules together rename the marks of a quotation. -/
theorem applyAllAt_unify (unrevised : ∀ n ∈ nodes, n.IsUnrevised) (i : Nat) :
    applyAllAt all (.unify style) nodes i = nodes.modify i (Node.restyle (.unify style)) := by
  have hquotes : Rule.quoteStyle.applyAt (.unify style) nodes i =
      nodes.modify i (Node.restyle (.unify style)) := quoteStyle_eq_modify _ _ _
  have unrevised' : ∀ n ∈ nodes.modify i (Node.restyle (.unify style)), n.IsUnrevised :=
    forall_mem_modify unrevised fun n hn => hn.restyle _
  generalize nodes.modify i (Node.restyle (.unify style)) = nodes' at hquotes unrevised'
  have hbefore : Rule.markWidth.applyAt (.unify style) nodes i = nodes :=
    applyAt_unify (by decide) unrevised i
  have hafter : ∀ r : Rule, r ≠ .quoteStyle → r.applyAt (.unify style) nodes' i = nodes' :=
    fun r hr => applyAt_unify hr unrevised' i
  simp [applyAllAt, all, hbefore, hquotes, hafter]

/-- At every node of a list this comes to all quotations in it. -/
theorem applyAll_unify (unrevised : ∀ n ∈ nodes, n.IsUnrevised) :
    applyAll all (.unify style) nodes = nodes.map (Node.restyle (.unify style)) := by
  have hrun : ∀ m, (∀ n ∈ (List.range m).foldl (applyAllAt all (.unify style)) nodes,
      n.IsUnrevised) ∧ ∀ k, ((List.range m).foldl (applyAllAt all (.unify style)) nodes)[k]? =
        nodes[k]?.map fun n => if k < m then n.restyle (.unify style) else n := by
    intro m
    induction m with
    | zero => exact ⟨unrevised, fun k => by simp⟩
    | succ m ih =>
      obtain ⟨unrevised', hnodes⟩ := ih
      rw [List.range_succ, List.foldl_append, List.foldl_cons, List.foldl_nil,
        applyAllAt_unify unrevised']
      refine ⟨forall_mem_modify unrevised' fun n hn => hn.restyle _, fun k => ?_⟩
      rw [List.getElem?_modify, hnodes]
      cases nodes[k]? with
      | none => rfl
      | some n =>
        rcases Nat.lt_trichotomy k m with hk | rfl | hk
        · simp [hk, Nat.ne_of_gt hk, Nat.lt_succ_of_lt hk]
        · simp
        · simp [Nat.lt_asymm hk, Nat.ne_of_lt hk, Nat.not_lt.mpr hk]
  refine List.ext_getElem? fun k => ?_
  rw [applyAll, (hrun nodes.length).2 k, List.getElem?_map]
  cases hk : nodes[k]? with
  | none => rfl
  | some n => simp [(List.getElem?_eq_some_iff.mp hk).1]

/-- A pass inside of the nodes that have been read leaves them unrevised on the outside. -/
theorem applyAll_sweepInside (fresh : ∀ l ∈ Paragraph.leaves nodes, l.IsFresh) :
    applyAll all (.unify style) (sweepInside all (.unify style) nodes) =
      (sweepInside all (.unify style) nodes).map (Node.restyle (.unify style)) :=
  applyAll_unify (isUnrevised_sweepInside (isUnrevised_of_fresh fresh))

end Rule

/-! ### A tree -/

mutual

/-- After a pass inside of a node its quotations have other marks, and so has the node itself once
they are brought to the style. -/
theorem Node.outline_restyle_sweep (style : QuoteStyle) : ∀ n : Node, (∀ l ∈ n.leaves, l.IsFresh) →
    ((n.sweep Rule.all (.unify style)).restyle (.unify style)).accept.outline =
      n.outline.rename style.restyle
  | .group o inner ns c a, fresh => by
    simp only [Node.leaves, List.forall_mem_cons, List.forall_mem_append] at fresh
    obtain ⟨ho, hinner, hns, hc, ha, -⟩ := fresh
    rw [Node.sweep, Rule.applyAll_sweepInside hns, Node.restyle, Node.accept, Node.outline,
      Paragraph.outline_sweep style ns hns, Node.outline, Outline.rename]
    simp only [Revisable.accept, value_restyleQuote_unify, Revisable.value_of_modified ho,
      Revisable.value_of_modified hinner.1, Revisable.value_of_modified hc,
      Revisable.value_of_modified ha.1]
  | .char v a, fresh => by
    simp only [Node.leaves, List.forall_mem_cons] at fresh
    obtain ⟨hv, ha, -⟩ := fresh
    simp only [Node.sweep, Node.restyle, Node.accept, Node.outline, Outline.rename,
      Revisable.accept, Revisable.value_of_modified hv, Revisable.value_of_modified ha.1]
  | .half v a, fresh => by
    simp only [Node.leaves, List.forall_mem_cons] at fresh
    obtain ⟨hv, ha, -⟩ := fresh
    simp only [Node.sweep, Node.restyle, Node.accept, Node.outline, Outline.rename,
      Revisable.accept, Revisable.value_of_modified hv, Revisable.value_of_modified ha.1]
  | .full v a, fresh => by
    simp only [Node.leaves, List.forall_mem_cons] at fresh
    obtain ⟨hv, ha, -⟩ := fresh
    simp only [Node.sweep, Node.restyle, Node.accept, Node.outline, Outline.rename,
      Revisable.accept, Revisable.value_of_modified hv, Revisable.value_of_modified ha.1]
  | .event e s a, fresh => by
    simp only [Node.leaves, List.forall_mem_cons] at fresh
    obtain ⟨-, ha, -⟩ := fresh
    simp only [Node.sweep, Node.restyle, Node.accept, Node.outline, Outline.rename,
      Revisable.accept, Revisable.value_of_modified ha.1]

/-- A pass over a list of nodes renames the marks of quotations. -/
theorem Paragraph.outline_sweep (style : QuoteStyle) : ∀ ns : List Node,
    (∀ l ∈ Paragraph.leaves ns, l.IsFresh) →
      Paragraph.outline (Paragraph.accept ((sweepInside Rule.all (.unify style) ns).map
        (Node.restyle (.unify style)))) =
          Outline.renameAll style.restyle (Paragraph.outline ns)
  | [], _ => by
    rw [sweepInside, List.map_nil, Paragraph.accept, Paragraph.outline, Outline.renameAll]
  | n :: ns, fresh => by
    rw [Paragraph.leaves_cons] at fresh
    obtain ⟨hn, hns⟩ := List.forall_mem_append.mp fresh
    rw [sweepInside, List.map_cons, Paragraph.accept, Paragraph.outline,
      Node.outline_restyle_sweep style n hn, Paragraph.outline_sweep style ns hns,
      Paragraph.outline, Outline.renameAll]

end

/-- **A pass renames the marks of quotations**, and does nothing else. -/
theorem outline_polish_unify (style : QuoteStyle) {ns : Paragraph}
    (fresh : ∀ l ∈ Paragraph.leaves ns, l.IsFresh) :
    Paragraph.outline (Paragraph.accept (polish (.unify style) ns)) =
      Outline.renameAll style.restyle (Paragraph.outline ns) := by
  rw [polish, sweep, Rule.applyAll_sweepInside fresh, Paragraph.outline_sweep style ns fresh]

/-! ### A block -/

/-- What comes out of a pass over a block is its atoms with other quotation marks. -/
theorem content_polish_unify (style : QuoteStyle) {b : Block} {ns : Paragraph}
    (hparse : b.parse = .ok ns) :
    Paragraph.content (Paragraph.accept (polish (.unify style) ns)) =
      (b.body.map (Atom.rename style.restyle)).map Atom.content := by
  obtain ⟨ms, hms, houtline⟩ := Block.parse_renamed style.renames_restyle hparse rfl
  rw [← Paragraph.content_outline,
    outline_polish_unify style (Block.spells_of_parse hparse 0).isFresh, ← houtline,
    Paragraph.content_outline]
  exact Block.content_of_parse hms

/-- **Quotation styles convert back and forth.**  A block is read, the marks of its quotations are
brought to a style, and any atoms that spell what comes out, wherever they stand, are read again.
This gives no error, and the tree is the same as before but for the marks of its quotations, which
are those of the style.  Bringing it to another style, or to the same one again, comes to what
bringing the first tree to that style comes to. -/
theorem polish_unify {b : Block} {ns : Paragraph} (hparse : b.parse = .ok ns)
    (style style' : QuoteStyle) {body : List Atom}
    (hbody : body.map Atom.content =
      Paragraph.content (Paragraph.accept (polish (.unify style) ns))) :
    ∃ ms, Block.parse { b with body := body } = .ok ms ∧
      Paragraph.outline ms = Outline.renameAll style.restyle (Paragraph.outline ns) ∧
      Paragraph.content (Paragraph.accept (polish (.unify style') ms)) =
        Paragraph.content (Paragraph.accept (polish (.unify style') ns)) := by
  rw [content_polish_unify style hparse] at hbody
  obtain ⟨ms, hms, houtline⟩ := Block.parse_renamed style.renames_restyle hparse hbody
  refine ⟨ms, hms, houtline, ?_⟩
  have fresh := (Block.spells_of_parse hparse 0).isFresh
  have fresh' := (Block.spells_of_parse hms 0).isFresh
  rw [← Paragraph.content_outline, ← Paragraph.content_outline, outline_polish_unify style' fresh,
    outline_polish_unify style' fresh', houtline,
    Outline.renameAll_renameAll (style.restyle_restyle style')]

/-- The conclusion of `polish_unify` at corner quotations and a straight one in a curly quotation.
All of them are brought to corner marks, of which there are two forms by now, and then to curly
ones; the straight marks stay. -/
theorem polish_unify_nested :
    let b : Block :=
      ⟨Span.point 0, ⟨.opening, "paragraph", []⟩,
        [.char '“' ⟨0, 3⟩, .char '『' ⟨3, 6⟩, .char 'a' ⟨6, 7⟩, .char '』' ⟨7, 10⟩,
          .char '「' ⟨10, 13⟩, .char '"' ⟨13, 14⟩, .char '"' ⟨14, 15⟩, .char '」' ⟨15, 18⟩,
          .char '”' ⟨18, 21⟩], true⟩
    ∃ ns ms, b.parse = .ok ns ∧
      (Atom.ofText 0 "「『a』「\"\"」」".toList).map Atom.content =
        Paragraph.content (Paragraph.accept (polish (.unify .traditional) ns)) ∧
      Block.parse { b with body := Atom.ofText 0 "「『a』「\"\"」」".toList } = .ok ms ∧
      Paragraph.content (Paragraph.accept (polish (.unify .simplified) ms)) =
        (Atom.ofText 0 "“‘a’“\"\"””".toList).map Atom.content := by
  intro b
  let ns : Paragraph :=
    [.group { original := '“', span := ⟨0, 3⟩ } { original := [], span := ⟨3, 3⟩ }
      [.group { original := '『', span := ⟨3, 6⟩ } { original := [], span := ⟨6, 6⟩ }
          [.half { original := ['a'], span := ⟨6, 7⟩ } { original := [], span := ⟨7, 7⟩ }]
          { original := '』', span := ⟨7, 10⟩ } { original := [], span := ⟨10, 10⟩ },
        .group { original := '「', span := ⟨10, 13⟩ } { original := [], span := ⟨13, 13⟩ }
          [.group { original := '"', span := ⟨13, 14⟩ } { original := [], span := ⟨14, 14⟩ } []
            { original := '"', span := ⟨14, 15⟩ } { original := [], span := ⟨15, 15⟩ }]
          { original := '」', span := ⟨15, 18⟩ } { original := [], span := ⟨18, 18⟩ }]
      { original := '”', span := ⟨18, 21⟩ } { original := [], span := ⟨21, 21⟩ }]
  have hparse : b.parse = .ok ns := rfl
  have hbody : (Atom.ofText 0 "「『a』「\"\"」」".toList).map Atom.content =
      Paragraph.content (Paragraph.accept (polish (.unify .traditional) ns)) := by decide +kernel
  obtain ⟨ms, hms, -, hcontent⟩ := polish_unify hparse .traditional .simplified hbody
  exact ⟨ns, ms, hparse, hbody, hms, hcontent.trans (by decide +kernel)⟩

end CjkProse
