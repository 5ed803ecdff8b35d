import CjkProse.Proofs.Reading.Lossless
import CjkProse.Proofs.Report.Document
import CjkProse.Proofs.Rule.Local
import CjkProse.Proofs.Rule.Sentences

/-!
# Settings that ask for nothing

Under settings that switch every rule off, whatever they say of abbreviations, units and patterns, a
document comes out as it went in.  Most rules do nothing at all then.  The two exceptions still take
revisions back, but there are none to take back in a paragraph that has only been read.

## Main definitions

* `Config.off` — the settings with every rule off.

## Main results

* `Rules.markWidth_off` and its likes — one rule at one node, a lemma for each rule.
* `Rule.applyAt_off` — any rule at one node.
* `polish_off` — a pass leaves a paragraph as it has been read.
* `formatParsed_off` — **with every rule off a text stays as it is**, if its patterns can be used.
* `not_format_off` — there is a text with a pattern that cannot be used.
-/

namespace CjkProse

open Markdown (Token)

/-- The settings that switch every rule off.  The abbreviations and units that the exceptions know,
and the patterns of text to be left alone, are given. -/
def Config.off (abbrs units patterns : List Text) : Config :=
  { Config.empty with skipAbbrs := abbrs, skipZhUnits := units, ignores := patterns }

/-! ### Rules that are off -/

section Off

variable (abbrs units patterns : List Text)

theorem resizeQuote_off (double single : Char) (v : Revisable Char) :
    (Config.off abbrs units patterns).resizeQuote double single v = v := by
  unfold Config.resizeQuote
  simp [Config.off, Config.empty, Config.resizeMark]

/-- The gap on either side of a quotation stays as it is. -/
theorem facing_off (nodes : List Node) (neighbour : Option Node) (holder : Option Nat)
    (wide : Node → Bool) :
    (match neighbour with
      | some b =>
        if facesEnclosure b then
          Rules.outsideQuote (.off abbrs units patterns) nodes holder (wide b)
        else nodes
      | none => nodes) = nodes := by
  have houtside : ∀ wide, Rules.outsideQuote (.off abbrs units patterns) nodes holder wide = nodes
    | true => rfl
    | false => rfl
  cases neighbour with
  | none => rfl
  | some b => simp only [houtside, ite_self]

section Each

variable (nodes : List Node) (i : Nat)

theorem Rules.markWidth_off : markWidth (.off abbrs units patterns) nodes i = nodes := by
  unfold markWidth
  split
  · next h => simpa only [resizeQuote_off] using set_eq_self h
  · next v a h =>
    split
    · exact set_eq_self h
    · rfl
  · rfl

theorem Rules.quoteStyle_off : quoteStyle (.off abbrs units patterns) nodes i = nodes := by
  unfold quoteStyle
  split
  · next h => exact set_eq_self h
  · rfl

theorem Rules.letterSpace_off : letterSpace (.off abbrs units patterns) nodes i = nodes := by
  unfold letterSpace
  split
  · dsimp only
    split
    · rfl
    split
    · rfl
    split
    · exact ite_self nodes
    · rfl
  · rfl

theorem Rules.pauseSpace_off : pauseSpace (.off abbrs units patterns) nodes i = nodes := by
  unfold pauseSpace
  split
  · simp [Config.off, Config.empty, closeGap, demandGap]
  · rfl

theorem Rules.quoteSpace_off : quoteSpace (.off abbrs units patterns) nodes i = nodes := by
  unfold quoteSpace
  split
  · next o inner ns c a h =>
    refine Eq.trans (facing_off abbrs units patterns _ _ _
      fun b => isWideOrChinese c.value || isWideSide openerOf b) ?_
    exact facing_off abbrs units patterns _ _ _
      fun b => isWideOrChinese o.value || isWideSide closerOf b
  · rfl

theorem Rules.bracketSpace_off : bracketSpace (.off abbrs units patterns) nodes i = nodes := by
  unfold bracketSpace
  split
  · simp [outsideBracket, Config.off, Config.empty, closeGap, demandGap]
  · rfl

theorem Rules.codeSpace_off : codeSpace (.off abbrs units patterns) nodes i = nodes := by
  simp [codeSpace, Config.off, Config.empty, demandGap]

theorem Rules.wrapperSpace_off : wrapperSpace (.off abbrs units patterns) nodes i = nodes := by
  unfold wrapperSpace
  split
  · rfl
  · rfl

variable {nodes}

/-- Where nothing has been revised, an abbreviation has nothing to take back. -/
theorem Rules.abbreviation_off (unrevised : ∀ n ∈ nodes, n.IsUnrevised) :
    abbreviation (.off abbrs units patterns) nodes i = nodes := by
  unfold abbreviation
  split
  · next v a h =>
    split
    · have hn := unrevised _ (List.mem_of_getElem? h)
      have hafter : a.revert = a := Revisable.revert_of_fresh hn.after
      rw [Revisable.revert_of_fresh (hn.mark v a rfl), hafter]
      exact set_eq_self h
    · rfl
  · rfl

/-- Where nothing has been revised, a number before a unit has nothing to take back. -/
theorem Rules.numberUnit_off (unrevised : ∀ n ∈ nodes, n.IsUnrevised) :
    numberUnit (.off abbrs units patterns) nodes i = nodes := by
  have hgaps : ∀ n ∈ nodes, n.after.modified = none := fun n hn => (unrevised n hn).after
  unfold numberUnit
  simp only [revertGap_of_fresh hgaps, ite_self]

end Each

/-- A rule that is off does nothing.  One that makes exceptions takes nothing back where nothing has
been revised. -/
theorem Rule.applyAt_off {nodes : List Node} (unrevised : ∀ n ∈ nodes, n.IsUnrevised) (r : Rule)
    (i : Nat) : r.applyAt (.off abbrs units patterns) nodes i = nodes := by
  cases r with
  | markWidth => exact Rules.markWidth_off abbrs units patterns nodes i
  | quoteStyle => exact Rules.quoteStyle_off abbrs units patterns nodes i
  | letterSpace => exact Rules.letterSpace_off abbrs units patterns nodes i
  | pauseSpace => exact Rules.pauseSpace_off abbrs units patterns nodes i
  | quoteSpace => exact Rules.quoteSpace_off abbrs units patterns nodes i
  | bracketSpace => exact Rules.bracketSpace_off abbrs units patterns nodes i
  | codeSpace => exact Rules.codeSpace_off abbrs units patterns nodes i
  | wrapperSpace => exact Rules.wrapperSpace_off abbrs units patterns nodes i
  | abbreviation => exact Rules.abbreviation_off abbrs units patterns i unrevised
  | numberUnit => exact Rules.numberUnit_off abbrs units patterns i unrevised

/-- Some rules over a list leave it as it has been read. -/
theorem Rule.applyAll_off {nodes : List Node} (fresh : ∀ l ∈ Paragraph.leaves nodes, l.IsFresh)
    (rules : List Rule) : applyAll rules (.off abbrs units patterns) nodes = nodes := by
  refine applyAll_induction (P := fun ns => ns = nodes) (fun r _ ns i h => ?_) rfl
  rw [h]
  exact r.applyAt_off abbrs units patterns (isUnrevised_of_fresh fresh) i

mutual

theorem Node.sweep_off (rules : List Rule) : ∀ {n : Node}, (∀ l ∈ n.leaves, l.IsFresh) →
    n.sweep rules (.off abbrs units patterns) = n
  | .group o inner ns c a, fresh => by
    have hinside : ∀ l ∈ Paragraph.leaves ns, l.IsFresh := fun l hl =>
      fresh l (by simp [Node.leaves, hl])
    rw [Node.sweep, sweepInside_off rules hinside,
      Rule.applyAll_off abbrs units patterns hinside]
  | .char v a, _ => by rw [Node.sweep]
  | .half v a, _ => by rw [Node.sweep]
  | .full v a, _ => by rw [Node.sweep]
  | .event e s a, _ => by rw [Node.sweep]

theorem sweepInside_off (rules : List Rule) : ∀ {ns : List Node},
    (∀ l ∈ Paragraph.leaves ns, l.IsFresh) →
      sweepInside rules (.off abbrs units patterns) ns = ns
  | [], _ => by rw [sweepInside]
  | n :: ns, fresh => by
    rw [Paragraph.leaves_cons] at fresh
    obtain ⟨hn, hns⟩ := List.forall_mem_append.mp fresh
    rw [sweepInside, Node.sweep_off rules hn, sweepInside_off rules hns]

end

/-- **A pass with every rule off leaves a paragraph as it has been read.** -/
theorem polish_off {ns : Paragraph} (fresh : ∀ l ∈ Paragraph.leaves ns, l.IsFresh) :
    polish (.off abbrs units patterns) ns = ns := by
  unfold polish sweep
  rw [sweepInside_off abbrs units patterns Rule.all fresh]
  exact Rule.applyAll_off abbrs units patterns fresh Rule.all

end Off

/-! ### The report -/

/-- What has only been read has no changes. -/
theorem edits_of_fresh {ns : Paragraph} (fresh : ∀ l ∈ Paragraph.leaves ns, l.IsFresh) :
    Paragraph.edits ns = [] := by
  rw [Paragraph.edits_eq, List.flatMap_eq_nil_iff]
  intro l hl
  have hl := fresh l (List.mem_reverse.mp hl)
  cases l with
  | mark v =>
    have hv : v.modified = none := hl
    simp [Leaf.edits, Revisable.charEdit, hv]
  | run v =>
    have hv : v.modified = none := hl
    simp [Leaf.edits, Revisable.edit, hv]
  | space v => simp [Leaf.edits, Revisable.edit, hl.1]
  | event e s => rfl

/-- A text whose ends are not to be trimmed is not. -/
theorem trimEdits_of_not_trimSpace {config : Config} (h : config.trimSpace = false) (text : Text)
    (edges : Option Span) : trimEdits text config edges = ([], []) := by
  have hspaces : (if config.trimSpace then edgeSpaces text else ([], [])) = ([], []) := by
    rw [if_neg (by rw [h]; exact Bool.false_ne_true)]
  unfold trimEdits
  rw [hspaces]
  dsimp only
  split
  · rfl
  · cases edges with
    | none => rfl
    | some e =>
      -- either end touches the prose or not, and there is no space at it
      simp only [touchingEdges, ite_self]
      rfl

/-- The paragraphs among the results of reading some blocks are read from these blocks. -/
theorem exists_block_of_mem_paragraphsOf {bs : List Block} {ns : Paragraph}
    (h : ns ∈ paragraphsOf (bs.map Block.parse)) : ∃ b ∈ bs, b.parse = .ok ns := by
  induction bs with
  | nil => cases h
  | cons b bs ih =>
    rw [List.map_cons] at h
    cases hb : b.parse with
    | error e =>
      rw [hb, paragraphsOf] at h
      obtain ⟨b', hb', hparse⟩ := ih h
      exact ⟨b', List.mem_cons_of_mem _ hb', hparse⟩
    | ok ms =>
      rw [hb, paragraphsOf] at h
      rcases List.mem_cons.mp h with rfl | h
      · exact ⟨b, List.mem_cons_self, hb⟩
      · obtain ⟨b', hb', hparse⟩ := ih h
        exact ⟨b', List.mem_cons_of_mem _ hb', hparse⟩

section Report

variable (text : Text) (tokens : List Token) (abbrs units patterns : List Text)

/-- With every rule off there is nothing to change, whatever the markup is and whatever is to be
left alone. -/
theorem formatTokens_off (ignored : List Span) :
    formatTokens text tokens (.off abbrs units patterns) ignored =
      .ok ⟨text, [], parseErrorsOf (readEvents (markupEvents text tokens))⟩ := by
  have hedits : ∀ ns ∈ paragraphsOf (readEvents (markupEvents text tokens)),
      Paragraph.edits (polish (.off abbrs units patterns) ns) = [] := by
    intro ns hns
    obtain ⟨b, -, hparse⟩ := exists_block_of_mem_paragraphsOf hns
    have fresh := (Block.spells_of_parse hparse 0).isFresh
    rw [polish_off abbrs units patterns fresh]
    exact edits_of_fresh fresh
  have hall : allEdits text
      ((paragraphsOf (readEvents (markupEvents text tokens))).map
        (polish (.off abbrs units patterns)))
      (.off abbrs units patterns) (blockEdges (markupEvents text tokens)) = [] := by
    unfold allEdits
    rw [trimEdits_of_not_trimSpace rfl]
    dsimp only
    rw [List.nil_append, List.append_nil, List.flatMap_eq_nil_iff]
    intro ps hps
    obtain ⟨ns, hns, rfl⟩ := List.mem_map.mp (List.mem_reverse.mp hps)
    exact hedits ns hns
  unfold formatTokens
  dsimp only
  unfold buildReport
  rw [hall]
  dsimp only
  rw [show (Draft.ofText text).applyAll ignored [] = ⟨Utf8.encode text, []⟩ from rfl]
  rw [Utf8.decode_encode]
  rfl

/-- **With every rule off a text stays as it is.**  Whatever its markup, its quotations and the
faults in them are, there is nothing to change in it; there is no report only when a pattern of text
to be left alone has a fault that is not passed over. -/
theorem formatParsed_off :
    formatParsed text tokens (.off abbrs units patterns) =
      if (Directives.ofTokens tokens).disabled then .ok ⟨text, [], []⟩
      else
        match ignoredSpans text ((Directives.ofTokens tokens).patterns ++ patterns) with
        | .ok _ => .ok ⟨text, [], parseErrorsOf (readEvents (markupEvents text tokens))⟩
        | .error fault => .error (.pattern fault) := by
  unfold formatParsed
  dsimp only
  split
  · rfl
  · rw [show (Config.off abbrs units patterns).ignores = patterns from rfl]
    cases ignoredSpans text ((Directives.ofTokens tokens).patterns ++ patterns) with
    | error fault => rfl
    | ok ignored =>
      dsimp only
      rw [formatTokens_off]
      rfl

end Report

/-- There need not be a report even with every rule off.  A pattern in which a part is to be
repeated too many times is not passed over. -/
theorem not_format_off :
    ¬ ∀ (text : Text) (abbrs units patterns : List Text),
      ∃ errors, format text (.off abbrs units patterns) = .ok ⟨text, [], errors⟩ := by
  intro h
  obtain ⟨errors, hok⟩ := h "<!-- zhfmt ignore: a{4294967296} -->\n".toList [] [] []
  have hnone : (format "<!-- zhfmt ignore: a{4294967296} -->\n".toList
      (.off [] [] [])).toOption = none := by
    decide +kernel
  rw [hok] at hnone
  cases hnone

end CjkProse
