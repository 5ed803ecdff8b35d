import CjkProse.Proofs.Rule.Abbreviations

/-!
# Spaces inside of wrappers

Between a mark that starts a wrapper and what stands in it, and between that and the mark that ends
the wrapper, there is no space in the end.  The rule for wrappers empties such a space when the pass
is at the node before it.  No rule at another node sets it, since it belongs to no gap between nodes
that are seen; of the exceptions, which come after the rule, only the one for abbreviations gives it
back, where a full stop ends an abbreviation right before the end of a wrapper.

## Main results

* `apart_of_isInsideWrapper` — a space inside of a wrapper is in no gap.
* `exists_space_inside_wrapper` — what all rules at a node leave of it.
* `space_inside_wrapper` — **no space stays inside of a wrapper, but after an abbreviation.**
-/

namespace CjkProse

open Neighbours

section Inside

variable {config : Config} {nodes nodes' ns : List Node} {i : Nat} {m n : Node}

/-- Whether the space between two nodes is inside of a wrapper lasts. -/
theorem Lasts.isInsideWrapper (h : Lasts nodes nodes') {m' n' : Node} (here : nodes[i]? = some n)
    (here' : nodes'[i]? = some n') (next : nodes[i + 1]? = some m)
    (next' : nodes'[i + 1]? = some m') :
    Rules.isInsideWrapper n' m' = Rules.isInsideWrapper n m := by
  have hopening : Node.Lasting Node.isOpening := lasting_isEventOf .opening
  have hclosing : Node.Lasting Node.isClosing := lasting_isEventOf .closing
  unfold Rules.isInsideWrapper
  rw [h.eq_of_getElem? hopening here here', h.eq_of_getElem? hopening next next',
    h.eq_of_getElem? hclosing here here', h.eq_of_getElem? hclosing next next',
    h.eq_of_getElem? lasting_isWrapper here here', h.eq_of_getElem? lasting_isWrapper next next']

/-- A space inside of a wrapper is in no gap between nodes that are seen. -/
theorem apart_of_isInsideWrapper (here : nodes[i]? = some n) (next : nodes[i + 1]? = some m)
    (inside : Rules.isInsideWrapper n m = true) : ∀ l r, ¬ Gap nodes l i r := by
  intro l r hgap
  rw [hgap.not_isInsideWrapper here next] at inside
  cases inside

/-- The rule for wrappers empties such a space. -/
theorem Rules.spaceAt_wrapperSpace_inside (asked : config.noSpaceInsideWrapper = true)
    (here : nodes[i]? = some n) (next : nodes[i + 1]? = some m)
    (inside : isInsideWrapper n m = true) :
    spaceAt (wrapperSpace config nodes i) i = some (n.after.revise Space.empty) := by
  have hafter : after? nodes i = some m := next
  unfold wrapperSpace
  rw [here, hafter]
  dsimp only
  rw [asked, inside]
  show spaceAt (nodes.modify i (Node.mapAfter fun a => a.revise Space.empty)) i = _
  rw [spaceAt_modify_self, spaceAt, here]
  rfl

/-- What comes after a full stop, with the inside of a wrapper in between, is no run. -/
theorem not_isHalf_of_isInsideWrapper (stop : n.isStop = true)
    (inside : Rules.isInsideWrapper n m = true) : m.isHalf = false := by
  cases n with
  | char v a =>
    -- the full stop opens nothing, so the wrapper ends here
    have hclosing : m.isClosing = true := by
      simpa [Rules.isInsideWrapper, Node.isOpening, Node.isClosing, Node.isWrapper,
        Node.isEventOf] using inside
    cases m with
    | half w b => cases hclosing
    | char w b => rfl
    | full w b => rfl
    | event e s b => rfl
    | group o inner ms c b => rfl
  | half v a => cases stop
  | full v a => cases stop
  | event e s a => cases stop
  | group o inner ms c a => cases stop

/-- The last three rules. -/
theorem Rule.applyAllAt_all (config : Config) (nodes : List Node) (i : Nat) :
    applyAllAt all config nodes i =
      Rules.numberUnit config (Rules.abbreviation config (Rules.wrapperSpace config
        (applyAllAt (all.take 7) config nodes i) i) i) i := by
  have hall : all = all.take 7 ++ [wrapperSpace, abbreviation, numberUnit] := rfl
  unfold applyAllAt
  conv =>
    lhs
    rw [hall, List.foldl_append]
  generalize List.foldl _ nodes (all.take 7) = ns
  rfl

/-- What all rules at a node leave of a space inside of a wrapper. -/
theorem exists_space_inside_wrapper (class_ : ∀ n ∈ nodes, n.KeepsClass)
    (asked : config.noSpaceInsideWrapper = true) (here : nodes[i]? = some n)
    (next : nodes[i + 1]? = some m) (inside : Rules.isInsideWrapper n m = true) :
    ∃ a, spaceAt (Rule.applyAllAt Rule.all config nodes i) i = some a ∧
      a.value = if isAbbrStop config nodes i then a.original else [] := by
  have hlasts : Lasts nodes (Rule.applyAllAt (Rule.all.take 7) config nodes i) :=
    (Lasts.refl class_).applyAllAt _ config i
  have hsource : isAbbrStop config (Rule.applyAllAt (Rule.all.take 7) config nodes i) i =
      isAbbrStop config nodes i :=
    isAbbrStop_of_map_bare (Rule.map_bare_applyAllAt (Rule.all.take 7) i)
  rw [Rule.applyAllAt_all]
  generalize Rule.applyAllAt (Rule.all.take 7) config nodes i = ns at *
  obtain ⟨n', here'⟩ := hlasts.exists_getElem? here
  obtain ⟨m', next'⟩ := hlasts.exists_getElem? next
  rw [← hlasts.isInsideWrapper here here' next next'] at inside
  -- the rule for wrappers empties the space
  have hclosed := Rules.spaceAt_wrapperSpace_inside asked here' next' inside
  have hlasts' : Lasts ns (Rules.wrapperSpace config ns i) :=
    (Lasts.refl hlasts.keepsClass).applyAt .wrapperSpace config i
  have hsource' : isAbbrStop config (Rules.wrapperSpace config ns i) i = isAbbrStop config ns i :=
    isAbbrStop_of_map_bare (Rule.map_bare_applyAllAt [.wrapperSpace] i)
  generalize Rules.wrapperSpace config ns i = ns' at *
  obtain ⟨n'', here''⟩ := hlasts'.exists_getElem? here'
  obtain ⟨m'', next''⟩ := hlasts'.exists_getElem? next'
  rw [← hlasts'.isInsideWrapper here' here'' next' next''] at inside
  -- only the exception for abbreviations gives it back
  have hloose : isAbbrStop config ns' i = true → (after? ns' i).any Node.isHalf = false := by
    intro hstop
    have hn := ((Bool.and_eq_true _ _).mp hstop).1
    rw [here''] at hn
    rw [after?, next'', Option.any_some, not_isHalf_of_isInsideWrapper hn inside]
  have hexcept := Rules.spaceAt_abbreviation hloose
  rw [hclosed, Option.map_some, hsource', hsource] at hexcept
  have hlasts'' : Lasts ns' (Rules.abbreviation config ns' i) :=
    (Lasts.refl hlasts'.keepsClass).applyAt .abbreviation config i
  have hapart : ∀ r, ¬ Gap (Rules.abbreviation config ns' i) i i r := fun r hgap =>
    apart_of_isInsideWrapper here'' next'' inside i r (hgap.lasts (hlasts''.symm hlasts'.keepsClass))
  rw [Rules.spaceAt_numberUnit_of_apart hapart, hexcept]
  refine ⟨_, rfl, ?_⟩
  cases isAbbrStop config nodes i with
  | true => simp
  | false => simp [Space.empty]

/-- **No space stays inside of a wrapper.**  If the settings ask for this, then in any list of a
paragraph that has been read and polished, there is no space after a node that has the inside of a
wrapper between itself and the next one, unless it is a full stop that ends an abbreviation.  The
space after such a one is that of the source. -/
theorem space_inside_wrapper (config : Config) (asked : config.noSpaceInsideWrapper = true)
    {b : Block} {p : Paragraph} (parsed : b.parse = .ok p)
    (within : NodesWithin (polish config p) ns) (here : ns[i]? = some n)
    (next : ns[i + 1]? = some m) (inside : Rules.isInsideWrapper n m = true) :
    n.after.value = if isAbbrStop config ns i then n.after.original else [] := by
  obtain ⟨nodes, hp⟩ := exists_polished parsed within
  have hlasts := hp.lasts_stateAt i
  have hlt : i + 1 < ns.length := (List.getElem?_eq_some_iff.mp next).1
  obtain ⟨n', here'⟩ := hlasts.exists_getElem? here
  obtain ⟨m', next'⟩ := hlasts.exists_getElem? next
  have hinside : Rules.isInsideWrapper n' m' = true := by
    rw [hlasts.isInsideWrapper here here' next next', inside]
  obtain ⟨a, ha, hvalue⟩ := exists_space_inside_wrapper hlasts.keepsClass asked here' next' hinside
  rw [hp.isAbbrStop_stateAt] at hvalue
  -- after that the pass leaves the node alone
  have hlast := hp.getElem?_of_apart hlt (apart_of_isInsideWrapper here next inside)
  rw [spaceAt, ← hlast, here] at ha
  cases ha
  exact hvalue

end Inside

/-- A quotation of a link and a run, as in `“[ Dr. ](u)a”`. -/
def titleBlock : Block where
  start := Span.point 0
  opening := ⟨.opening, "paragraph", []⟩
  body := [.char '“' ⟨0, 3⟩, .event ⟨.opening, "link", []⟩ ⟨3, 4⟩, .char ' ' ⟨4, 5⟩,
    .char 'D' ⟨5, 6⟩, .char 'r' ⟨6, 7⟩, .char '.' ⟨7, 8⟩, .char ' ' ⟨8, 9⟩,
    .event ⟨.closing, "link", []⟩ ⟨9, 13⟩, .char 'a' ⟨13, 14⟩, .char '”' ⟨14, 17⟩]
  closed := true

/-- The nodes that are quoted there, with the revised form of the space after the start. -/
def titleNodes (gap : Option Space) : List Node :=
  [.event ⟨.opening, "link", []⟩ ⟨3, 4⟩ ⟨[' '], ⟨4, 5⟩, gap⟩,
    .half ⟨['D', 'r'], ⟨5, 7⟩, none⟩ ⟨[], ⟨7, 7⟩, none⟩,
    .char ⟨'.', ⟨7, 8⟩, none⟩ ⟨[' '], ⟨8, 9⟩, none⟩,
    .event ⟨.closing, "link", []⟩ ⟨9, 13⟩ ⟨[], ⟨13, 13⟩, none⟩,
    .half ⟨['a'], ⟨13, 14⟩, none⟩ ⟨[], ⟨14, 14⟩, none⟩]

/-- The quotation. -/
def titleQuotation (gap : Option Space) : Node :=
  .group ⟨'“', ⟨0, 3⟩, none⟩ ⟨[], ⟨3, 3⟩, none⟩ (titleNodes gap) ⟨'”', ⟨14, 17⟩, none⟩
    ⟨[], ⟨17, 17⟩, none⟩

set_option maxRecDepth 4096 in
/-- The conclusion of `space_inside_wrapper` on both sides of a link.  The space before the title is
gone, the one after the full stop is kept. -/
theorem space_inside_wrapper_title :
    ∃ p ns m n, titleBlock.parse = .ok p ∧ NodesWithin (polish .default p) ns ∧
      ns[0]? = some m ∧ m.after.original = [' '] ∧ m.after.value = [] ∧
      ns[2]? = some n ∧ n.after.original = [' '] ∧ n.after.value = [' '] := by
  have hparse : titleBlock.parse = .ok [titleQuotation none] := rfl
  have hpolish : polish .default [titleQuotation none] = [titleQuotation (some [])] := by rfl
  have hwithin : NodesWithin (polish .default [titleQuotation none]) (titleNodes (some [])) := by
    rw [hpolish]
    exact .inside List.mem_cons_self rfl (.whole _)
  have hstart := space_inside_wrapper .default rfl hparse hwithin (i := 0) rfl rfl rfl
  have hstop := space_inside_wrapper .default rfl hparse hwithin (i := 2) rfl rfl rfl
  have hkept : isAbbrStop .default (titleNodes (some [])) 2 = true := by decide
  refine ⟨_, _, _, _, hparse, hwithin, rfl, rfl, hstart.trans (if_neg (by decide)), rfl, rfl, ?_⟩
  rw [hstop, if_pos hkept]
  rfl

end CjkProse
