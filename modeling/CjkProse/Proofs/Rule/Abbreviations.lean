import CjkProse.Proofs.Rule.Nested

/-!
# Full stops of abbreviations

Whether a full stop ends an abbreviation is told by the nodes before it as they are in the source.
Since no write changes what a node is in the source, a full stop that ends an abbreviation does so
whenever the pass comes to it, and still does so in the end.

## Main definitions

* `Node.bare` — a node without its revisions.
* `Node.isStop` — a full stop of the source.
* `isAbbrStop` — a full stop that ends an abbreviation.

## Main results

* `Write.map_bare` — **a write changes nothing but revisions.**
* `Polished.isAbbrStop_stateAt` — a full stop that ends an abbreviation does so all along.
* `Rules.abbreviation_of_isAbbrStop`, `Rules.abbreviation_of_not` — what the exception does.
-/

namespace CjkProse

open Neighbours

/-! ### Nodes without their revisions -/

/-- A node without its revisions.  Of a quotation nothing is kept but that it is one. -/
def Node.bare : Node → Node
  | .char v a => .char v.revert a.revert
  | .half v a => .half v.revert a.revert
  | .full v a => .full v.revert a.revert
  | .event e s a => .event e s a.revert
  | .group _ _ _ _ a => .group default default [] default a.revert

theorem Node.bare_mapAfter {g : Revisable Space → Revisable Space}
    (hg : ∀ a, (g a).revert = a.revert) (n : Node) : (n.mapAfter g).bare = n.bare := by
  cases n <;> simp only [mapAfter, bare, hg]

theorem Node.bare_setAfter (s : Space) (n : Node) : (n.setAfter s).bare = n.bare :=
  Node.bare_mapAfter (g := fun a => a.revise s) (fun _ => rfl) n

theorem Node.bare_revertAfter (n : Node) : n.revertAfter.bare = n.bare :=
  Node.bare_mapAfter (g := Revisable.revert) (fun _ => rfl) n

theorem revert_resizeMark (config : Config) (v : Revisable Char) :
    (config.resizeMark v).revert = v.revert :=
  Leaf.mark.inj (List.head_eq_of_cons_eq (revised_resizeMark config v).bare)

/-- A node that is a mark when it is bare. -/
theorem Node.exists_char_of_bare {n : Node} {v : Revisable Char} {a : Revisable Space}
    (h : n.bare = .char v a) : ∃ v' a', n = .char v' a' ∧ v'.revert = v ∧ a'.revert = a := by
  cases n with
  | char v' a' =>
    cases h
    exact ⟨v', a', rfl, rfl, rfl⟩
  | half v' a' => cases h
  | full v' a' => cases h
  | event e s a' => cases h
  | group o inner ns c a' => cases h

/-- **A write changes nothing but revisions.** -/
theorem Write.map_bare {config : Config} {i : Nat} {nodes nodes' : List Node}
    (h : Write config i nodes nodes') : nodes'.map Node.bare = nodes.map Node.bare := by
  cases h with
  | close inside => exact map_modify_eq (Node.bare_setAfter _) nodes _
  | fill left right hm hn => exact map_modify_eq (Node.bare_setAfter _) nodes _
  | restore inside => exact map_modify_eq Node.bare_revertAfter nodes _
  | closeInside => exact map_modify_eq (fun n => by cases n <;> rfl) nodes _
  | @resizeMark v a here hv =>
    refine map_set_eq here ?_
    rw [Node.bare, revert_resizeMark, Node.bare]
  | resizeQuote here => exact map_set_eq here rfl
  | restyleQuote here => exact map_set_eq here rfl
  | restoreStop here stop => exact map_set_eq here rfl

namespace Rule

variable {config : Config} {nodes : List Node}

theorem map_bare_applyAllAt (rules : List Rule) (i : Nat) :
    (applyAllAt rules config nodes i).map Node.bare = nodes.map Node.bare := by
  unfold applyAllAt
  induction rules generalizing nodes with
  | nil => rfl
  | cons r rules ih =>
    rw [List.foldl_cons, ih]
    exact r.applyAt_writes (P := fun ns => ns.map Node.bare = nodes.map Node.bare)
      (fun _ _ hwrite h => hwrite.map_bare.trans h) rfl

/-- So does a pass. -/
theorem map_bare_stateAt (i : Nat) :
    (stateAt config nodes i).map Node.bare = nodes.map Node.bare := by
  induction i with
  | zero => rfl
  | succ i ih => rw [stateAt_succ, map_bare_applyAllAt, ih]

end Rule

/-! ### Full stops that end abbreviations -/

/-- A full stop of the source, whatever it has become. -/
def Node.isStop : Node → Bool
  | .char v _ => v.original == '.'
  | _ => false

/-- Whether the node at an index is a full stop that ends an abbreviation. -/
def isAbbrStop (config : Config) (nodes : List Node) (i : Nat) : Bool :=
  nodes[i]?.any Node.isStop && matchesAbbr nodes config.skipAbbrs i

section Stop

variable {config : Config} {nodes nodes' : List Node} {i : Nat}

/-- It is told by the node and by what the nodes before it are made up of. -/
theorem isAbbrStop_congr (stop : nodes'[i]?.any Node.isStop = nodes[i]?.any Node.isStop)
    (pieces : ∀ j : Nat, j < i → nodes'[j]?.bind abbrPiece? = nodes[j]?.bind abbrPiece?) :
    isAbbrStop config nodes' i = isAbbrStop config nodes i := by
  unfold isAbbrStop matchesAbbr
  rw [stop, collectAbbr_congr pieces]

/-- So it is told by the source. -/
theorem isAbbrStop_of_map_bare (h : nodes'.map Node.bare = nodes.map Node.bare) :
    isAbbrStop config nodes' i = isAbbrStop config nodes i := by
  have hget : ∀ j : Nat, nodes'[j]?.map Node.bare = nodes[j]?.map Node.bare := by
    intro j
    rw [← List.getElem?_map, h, List.getElem?_map]
  have hstop : ∀ found : Option Node, found.any Node.isStop =
      (found.map Node.bare).any Node.isStop := by
    rintro (- | n)
    · rfl
    · cases n <;> rfl
  have hpiece : ∀ found : Option Node, found.bind abbrPiece? =
      (found.map Node.bare).bind abbrPiece? := by
    rintro (- | n)
    · rfl
    · cases n <;> rfl
  apply isAbbrStop_congr
  · rw [hstop, hget, ← hstop]
  · intro j _
    rw [hpiece, hget, ← hpiece]

/-- The space at the end of a list does not matter. -/
theorem SameButEnd.isAbbrStop (h : SameButEnd nodes nodes') :
    isAbbrStop config nodes' i = isAbbrStop config nodes i := by
  have hstop : nodes'[i]?.any Node.isStop = nodes[i]?.any Node.isStop :=
    any_of_map_body (fun n => by cases n <;> rfl) (h.sameBodies.map_getElem? i)
  by_cases hi : i < nodes.length
  · apply isAbbrStop_congr hstop
    intro j hj
    rw [h.getElem? (Nat.lt_of_le_of_lt hj hi)]
  · have hnone : nodes[i]? = none := List.getElem?_eq_none (Nat.le_of_not_lt hi)
    rw [hnone] at hstop
    simp [CjkProse.isAbbrStop, hstop, hnone]

/-- A full stop that ends an abbreviation in the end has done so when the pass has come to a
node. -/
theorem Polished.isAbbrStop_stateAt {ns : List Node} (hp : Polished config nodes ns) (k : Nat) :
    isAbbrStop config (Rule.stateAt config nodes k) i = isAbbrStop config ns i := by
  rw [hp.pass.isAbbrStop, ← Rule.stateAt_length]
  rw [isAbbrStop_of_map_bare (Rule.map_bare_stateAt k)]
  rw [isAbbrStop_of_map_bare (Rule.map_bare_stateAt nodes.length)]

/-- In the end a node has the same source as before, unless it is the last one. -/
theorem Polished.bare_getElem? {ns : List Node} (hp : Polished config nodes ns)
    (hi : i + 1 < ns.length) (k : Nat) :
    ns[i]?.map Node.bare = (Rule.stateAt config nodes k)[i]?.map Node.bare := by
  rw [hp.pass.length_eq] at hi
  rw [hp.pass.getElem? hi, ← Rule.stateAt_length, ← List.getElem?_map, ← List.getElem?_map,
    Rule.map_bare_stateAt, Rule.map_bare_stateAt]

/-- A node that ends an abbreviation is a mark, and a full stop of the source. -/
theorem exists_char_of_isAbbrStop (stop : isAbbrStop config nodes i = true) :
    ∃ v a, nodes[i]? = some (.char v a) ∧ v.original = '.' := by
  obtain ⟨n, here, hn⟩ := (Option.any_eq_true _ _).mp ((Bool.and_eq_true _ _).mp stop).1
  cases n with
  | char v a => exact ⟨v, a, here, beq_iff_eq.mp hn⟩
  | half v a => cases hn
  | full v a => cases hn
  | event e s a => cases hn
  | group o inner ns c a => cases hn

/-! ### The exception -/

namespace Rules

/-- The exception gives a full stop back that ends an abbreviation, and the space after it, unless a
half-width run follows at once. -/
theorem abbreviation_of_isAbbrStop {v : Revisable Char} {a : Revisable Space}
    (here : nodes[i]? = some (.char v a)) (stop : isAbbrStop config nodes i = true)
    (loose : ((after? nodes i).any Node.isHalf && a.original.isEmpty) = false) :
    abbreviation config nodes i = nodes.set i (.char v.revert a.revert) := by
  have horiginal : v.original = '.' := by
    obtain ⟨v', a', here', horiginal⟩ := exists_char_of_isAbbrStop stop
    rw [here] at here'
    cases here'
    exact horiginal
  have hmatches := ((Bool.and_eq_true _ _).mp stop).2
  unfold abbreviation
  rw [here]
  dsimp only
  rw [if_pos (by simp [horiginal, hmatches, loose])]

/-- It does nothing elsewhere. -/
theorem abbreviation_of_not (stop : isAbbrStop config nodes i = false) :
    abbreviation config nodes i = nodes := by
  unfold abbreviation
  split
  · next v a here =>
    refine if_neg fun hcond => ?_
    simp only [Bool.and_eq_true] at hcond
    obtain ⟨⟨horiginal, -⟩, hmatches⟩ := hcond
    simp [isAbbrStop, here, Node.isStop, horiginal, hmatches] at stop
  · rfl

/-- It sets no other space than that after the node. -/
theorem spaceAt_abbreviation_of_ne {k : Nat} (hne : i ≠ k) :
    spaceAt (abbreviation config nodes i) k = spaceAt nodes k := by
  unfold spaceAt abbreviation
  split
  · split
    · rw [List.getElem?_set_ne hne]
    · rfl
  · rfl

/-- What the exception does to the space after a node, if no half-width run follows at once where an
abbreviation ends. -/
theorem spaceAt_abbreviation
    (loose : isAbbrStop config nodes i = true → (after? nodes i).any Node.isHalf = false) :
    spaceAt (abbreviation config nodes i) i =
      (spaceAt nodes i).map fun a => if isAbbrStop config nodes i then a.revert else a := by
  cases hstop : isAbbrStop config nodes i with
  | false => simp [abbreviation_of_not hstop]
  | true =>
    obtain ⟨v, a, here, -⟩ := exists_char_of_isAbbrStop hstop
    have hlt := (List.getElem?_eq_some_iff.mp here).1
    rw [abbreviation_of_isAbbrStop here hstop (by rw [loose hstop, Bool.false_and])]
    unfold spaceAt
    rw [List.getElem?_set_self hlt, here]
    rfl

end Rules

end Stop

end CjkProse
