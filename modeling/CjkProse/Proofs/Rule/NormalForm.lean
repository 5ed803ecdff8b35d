import CjkProse.Proofs.Reading.Anchored
import CjkProse.Proofs.Reading.Renaming
import CjkProse.Proofs.Reading.Visible
import CjkProse.Proofs.Rule.Nested

/-!
# The shape of what has been read

The rules take it for granted that a run of letters is a whole one, that all spaces of a gap are in
one place, and that quotation marks stand around quotations.  No rule looks whether this is so: it is
how a paragraph is read.  It holds in every list of a paragraph, since what stands in a quotation is
read as the paragraph itself is.

## Main definitions

* `Node.IsNormal` — what one node may hold.
* `Node.Apart` — two nodes that are not parts of one run.
* `Paragraph.IsNormal` — the shape of one list of a paragraph.
* `Paragraph.TakesSpacesWhole` — each space of a tree is followed by what is none.

## Main results

* `Node.exists_readAllFuel_of_nodesWithin` — every list of a paragraph has been read.
* `Paragraph.normalFrom_of_readAllFuel` — runs are whole, and no space stands alone but at the start.
* `Block.takesSpacesWhole_of_parse` — no space is left over after a space.
* `parse_normalForm` — **every paragraph of a stream is in normal form, at every nesting.**
-/

namespace CjkProse

open Reader (isHalfLetter)

/-! ### Normal lists -/

namespace Node

/-- The kind of the letters of a run. -/
def letters? : Node → Option CharKind
  | half _ _ => some .letterHalf
  | full _ _ => some .letterFull
  | _ => none

/-- What one node may hold: a run holds letters of its width and at least one of them, and no other
node holds a letter or a directed quotation mark. -/
def IsNormal : Node → Prop
  | char v _ => isLetter v.original = false ∧ v.original ∉ Punct.chineseLeftQuote ∧
      v.original ∉ Punct.chineseRightQuote
  | half v _ => v.original ≠ [] ∧ ∀ c ∈ v.original, CharKind.of c = .letterHalf
  | full v _ => v.original ≠ [] ∧ ∀ c ∈ v.original, CharKind.of c = .letterFull
  | _ => True

/-- Two runs of one width have a space between them. -/
def Apart (m n : Node) : Prop :=
  ∀ k, m.letters? = some k → n.letters? = some k → m.after.original ≠ []

/-- A single character that is a space. -/
def IsSpaceMark : Node → Prop
  | char v _ => isSpace v.original = true
  | _ => False

end Node

/-- The shape of a list `ms` of the paragraph `ns`. -/
structure Paragraph.IsNormal (ns ms : List Node) : Prop where
  /-- Runs are not empty and hold letters of one width, and no other node holds a letter. -/
  nodes : ∀ n ∈ ms, n.IsNormal
  /-- Runs are as long as they can be. -/
  apart : ms.IsChain Node.Apart
  /-- A straight quotation mark that stands alone is an apostrophe directly between two half-width
  runs. -/
  apostrophes : ∀ ls v a rs, ms = ls ++ .char v a :: rs → v.original ∈ Punct.westernQuote →
    v.original = '\'' ∧ (∃ l ∈ ls.getLast?, l.isHalf = true ∧ l.after.original = []) ∧
      a.original = [] ∧ rs.head?.any Node.isHalf = true
  /-- A space that stands alone is the first node of the paragraph. -/
  spaces : ∀ ls v a rs, ms = ls ++ .char v a :: rs → isSpace v.original = true → ls = [] ∧ ms = ns

/-- Every space of a tree is read from spaces, after the atoms that spell what comes before it, and
the atom right after them is no space. -/
def Paragraph.TakesSpacesWhole (ns : List Node) (atoms : List Atom) : Prop :=
  ∀ ls a ms, Paragraph.leaves ns = ls ++ .space a :: ms →
    ∃ stop as run next bs, atoms = as ++ (Atom.ofRun run ++ next :: bs) ∧ Spells stop ls as ∧
      a.original = run.map Prod.fst ∧ (∀ c ∈ a.original, isSpace c = true) ∧
      next.isKind .space = false

/-! ### Apostrophes -/

/-- Where apostrophes stand directly between half-width runs, each of them does. -/
theorem Paragraph.Flush.of_append {word : Prop} {ls : List Node} {n : Node} {rs : List Node}
    (h : Flush word (ls ++ n :: rs)) (hn : n.IsApostrophe) :
    (ls = [] ∧ word ∨ ∃ l ∈ ls.getLast?, l.isHalf = true ∧ l.IsTight) ∧ n.IsTight ∧
      rs.head?.any Node.isHalf = true := by
  induction ls generalizing word with
  | nil =>
    obtain ⟨hword, htight, hnext⟩ := h.1 hn
    exact ⟨.inl ⟨rfl, hword⟩, htight, hnext⟩
  | cons m ls ih =>
    obtain ⟨hbefore, hrest⟩ := ih h.2
    refine ⟨.inr ?_, hrest⟩
    rcases hbefore with ⟨rfl, hhalf, htight⟩ | ⟨l, hl, hhalf⟩
    · exact ⟨m, rfl, hhalf, htight⟩
    · refine ⟨l, ?_, hhalf⟩
      rw [List.getLast?_cons, Option.mem_def.mp hl]
      rfl

/-- What holds of a legible paragraph holds of every list of it. -/
theorem Paragraph.isLegible_of_nodesWithin {q : Char → Char → Prop} {ns ms : List Node}
    (within : NodesWithin ns ms) (legible : IsLegible q ns) (flush : Flush False ns) :
    IsLegible q ms ∧ Flush False ms := by
  induction within with
  | whole nodes => exact ⟨legible, flush⟩
  | @inside nodes inner ms n mem quoted _ ih =>
    obtain ⟨-, hn⟩ := isLegible_iff.mp legible n mem
    cases n with
    | group o i ns c a =>
      cases quoted
      rw [Node.IsLegible] at hn
      exact ih hn.2.2.1 hn.2.1
    | _ => cases quoted

/-- A straight mark that stands alone in a legible list is an apostrophe between half-width runs. -/
theorem Paragraph.apostrophe_of_isLegible {q : Char → Char → Prop} {ms ls rs : List Node}
    {v : Revisable Char} {a : Revisable Space} (legible : IsLegible q ms) (flush : Flush False ms)
    (hms : ms = ls ++ .char v a :: rs) (hv : v.original ∈ Punct.westernQuote) :
    v.original = '\'' ∧ (∃ l ∈ ls.getLast?, l.isHalf = true ∧ l.after.original = []) ∧
      a.original = [] ∧ rs.head?.any Node.isHalf = true := by
  subst hms
  obtain ⟨-, hn⟩ := isLegible_iff.mp legible (.char v a)
    (List.mem_append_right _ List.mem_cons_self)
  rw [Node.IsLegible] at hn
  have hquote : v.original = '\'' := by
    rcases hn.1 with ⟨hplain, -⟩ | ⟨hquote, -⟩
    · have hclosing : isClosingMark v.original = true := by
        rw [isClosingMark, List.contains_iff_mem.mpr hv, Bool.or_true]
      simp [isPlain, hclosing] at hplain
    · exact hquote
  obtain ⟨hbefore, htight, hnext⟩ := flush.of_append hquote
  refine ⟨hquote, ?_, htight.1, hnext⟩
  obtain ⟨l, hl, hhalf, htight⟩ := hbefore.resolve_left fun h => h.2
  exact ⟨l, hl, hhalf, htight.1⟩

/-! ### One step -/

namespace Reader

/-- Where no space is taken, nothing is passed. -/
theorem rest_takeSpace {anchor : Int} {r : Reader} (h : (r.takeSpace anchor).1.original = []) :
    (r.takeSpace anchor).2.rest = r.rest := by
  rw [takeSpace_fst, List.map_eq_nil_iff] at h
  have hpass := (r.takeSpace_passes anchor).rest
  rw [h] at hpass
  exact hpass.symm

end Reader

namespace Node

/-- What is known of the shape of one node that is read, from `r` to `r'`. -/
structure NormalFrom (r : Reader) (n : Node) (r' : Reader) : Prop where
  /-- It holds what it may hold. -/
  normal : n.IsNormal
  /-- A run starts with a letter of its width. -/
  starts : ∀ k, n.letters? = some k → r.rest.head?.any (Atom.isKind k) = true
  /-- A run without spaces after it ends where no letter of its width comes next. -/
  ends : ∀ k, n.letters? = some k → n.after.original = [] →
    r'.rest.head?.any (Atom.isKind k) = false
  /-- Past spaces, it is no space. -/
  visible : r.IsPastSpace → ¬ n.IsSpaceMark
  /-- Spaces after it are taken. -/
  past : r'.IsPastSpace

/-- Of a node that is no run, the rest is known. -/
theorem NormalFrom.of_not_run {r r' : Reader} {n : Node} (normal : n.IsNormal)
    (none : n.letters? = none) (visible : r.IsPastSpace → ¬ n.IsSpaceMark) (past : r'.IsPastSpace) :
    NormalFrom r n r' := by
  refine ⟨normal, fun k hk => ?_, fun k hk _ => ?_, visible, past⟩
  · rw [none] at hk
    cases hk
  · rw [none] at hk
    cases hk

/-- The kind of a run that is read is that of its letters. -/
theorem letters?_readRun {k : CharKind} (letter : k = .letterHalf ∨ k = .letterFull) (start : Int)
    (r : Reader) : (readRun k start r).1.letters? = some k := by
  rcases letter with rfl | rfl
  · rfl
  · rfl

/-- A run that is read holds letters of its kind and nothing else, and at least one. -/
theorem isNormal_readRun {prev : Option Atom} {c : Char} {s : Span} {rest : List Atom}
    {k : CharKind} (kind : CharKind.of c = k) (letter : k = .letterHalf ∨ k = .letterFull) :
    (readRun k s.start ⟨prev, .char c s :: rest⟩).1.IsNormal := by
  have hne : (Reader.takeKind k ⟨prev, .char c s :: rest⟩).1.map Prod.fst ≠ [] := by
    rw [Reader.takeKind_cons kind]
    exact List.cons_ne_nil _ _
  have hkind : ∀ d ∈ (Reader.takeKind k ⟨prev, .char c s :: rest⟩).1.map Prod.fst,
      CharKind.of d = k := by
    intro d hd
    obtain ⟨p, hp, rfl⟩ := List.mem_map.mp hd
    exact Reader.kind_of_mem_takeKind hp
  rcases letter with rfl | rfl
  · exact ⟨hne, hkind⟩
  · exact ⟨hne, hkind⟩

/-- A run that is read without spaces after it is as long as it can be. -/
theorem ends_readRun {k : CharKind} {start : Int} {r : Reader}
    (h : (readRun k start r).1.after.original = []) :
    (readRun k start r).2.rest.head?.any (Atom.isKind k) = false := by
  have hspace : ((r.takeKind k).2.takeSpace (Reader.runStop start (r.takeKind k).1)).1.original
      = [] := by
    simp only [readRun] at h
    split at h
    · exact h
    · exact h
  have hrest : (readRun k start r).2.rest = (r.takeKind k).2.rest := Reader.rest_takeSpace hspace
  rw [hrest]
  exact Reader.takeKind_maximal k r

/-- The shape of one node that is read. -/
theorem Step.normalFrom {fuel : Nat} {r r' : Reader} {n : Node} (h : Step fuel r n r') :
    NormalFrom r n r' := by
  obtain ⟨hfollow, past⟩ := h.followFrom fun _ _ _ _ _ h => followFrom_of_readAllFuel h
  cases h with
  | event head inside => exact .of_not_run trivial rfl (fun _ => id) past
  | @run c s rest k head kind letter =>
    obtain ⟨prev, rest'⟩ := r
    cases head
    have hletters := letters?_readRun letter s.start ⟨prev, .char c s :: rest⟩
    refine ⟨isNormal_readRun kind letter, fun k' hk' => ?_, fun k' hk' hafter => ?_, fun _ => ?_,
      past⟩
    · rw [hletters] at hk'
      obtain rfl := Option.some.inj hk'
      simp [Atom.isKind, kind]
    · rw [hletters] at hk'
      obtain rfl := Option.some.inj hk'
      exact ends_readRun hafter
    · rcases letter with rfl | rfl
      · exact id
      · exact id
  | group head kind opens inside close => exact .of_not_run trivial rfl (fun _ => id) past
  | @char c s rest head kind opens closes =>
    refine .of_not_run ⟨kind, ?_, ?_⟩ rfl (fun hr hspace => ?_) past
    · rw [← Punct.closing?_eq_none_iff]
      rw [closerOf] at opens
      split at opens
      · cases opens
      · next hnone => exact hnone
    · intro hmem
      rw [List.contains_iff_mem.mpr hmem] at closes
      cases closes
    · have hvisible := hfollow.head hr (.mark { original := c, span := s }) (by rw [leaves]; rfl)
      rw [Leaf.IsVisible] at hvisible
      rw [IsSpaceMark, hvisible] at hspace
      cases hspace

end Node

/-! ### One list -/

/-- What is known of the shape of the nodes that are read from `r`. -/
structure Paragraph.NormalFrom (r : Reader) (ns : List Node) : Prop where
  /-- They hold what they may hold. -/
  nodes : ∀ n ∈ ns, n.IsNormal
  /-- Runs are as long as they can be. -/
  apart : ns.IsChain Node.Apart
  /-- If the first one is a run, it starts with a letter of its width. -/
  starts : ∀ n ∈ ns.head?, ∀ k, n.letters? = some k → r.rest.head?.any (Atom.isKind k) = true
  /-- None but the first one is a space. -/
  later : ∀ n ∈ ns.tail, ¬ n.IsSpaceMark
  /-- Past spaces, not even the first one is. -/
  visible : r.IsPastSpace → ∀ n ∈ ns, ¬ n.IsSpaceMark

/-- The shape of the nodes that are read, up to a closing mark or to the end. -/
theorem Paragraph.normalFrom_of_readAllFuel {fuel : Nat} {closer : Option Char} {opener : Span}
    {r r' : Reader} {ns : List Node} (h : Node.readAllFuel fuel closer opener r = .ok (ns, r')) :
    NormalFrom r ns := by
  refine Node.readAllFuel_induction (P := fun _ _ r ns _ => NormalFrom r ns) ?_ ?_ h
  · intro closer opener r _
    exact ⟨by simp, .nil, by simp, by simp, by simp⟩
  · intro fuel closer opener r n r₁ ns r' _ hstep _ others
    have hn := hstep.normalFrom
    have hvisible := others.visible hn.past
    refine ⟨List.forall_mem_cons.mpr ⟨hn.normal, others.nodes⟩, ?_, ?_, hvisible,
      fun hr => List.forall_mem_cons.mpr ⟨hn.visible hr, hvisible⟩⟩
    · refine List.isChain_cons.mpr ⟨fun m hm k hk hk' hafter => ?_, others.apart⟩
      -- the run `n` would have gone on with the first letter of `m`
      have hend := hn.ends k hk hafter
      rw [others.starts m hm k hk'] at hend
      cases hend
    · intro m hm k hk
      cases hm
      exact hn.starts k hk

namespace Node

/-- What stands in a quotation has been read, past the spaces after the opening mark. -/
theorem exists_readAllFuel_of_quoted? {fuel : Nat} {closer : Option Char} {opener : Span}
    {r r' : Reader} {ns : List Node} (h : readAllFuel fuel closer opener r = .ok (ns, r')) :
    ∀ n ∈ ns, ∀ ms, n.quoted? = some ms → ∃ fuel closer opener r₁ r₂,
      readAllFuel fuel closer opener r₁ = .ok (ms, r₂) ∧ r₁.IsPastSpace := by
  refine readAllFuel_induction (P := fun _ _ _ ns _ => ∀ n ∈ ns, ∀ ms, n.quoted? = some ms →
    ∃ fuel closer opener r₁ r₂, readAllFuel fuel closer opener r₁ = .ok (ms, r₂) ∧ r₁.IsPastSpace)
    ?_ ?_ h
  · intro closer opener r _
    simp
  · intro fuel closer opener r n r₁ ns r' _ hstep _ others
    refine List.forall_mem_cons.mpr ⟨fun ms hms => ?_, others⟩
    cases hstep with
    | event head inside => cases hms
    | run head kind letter =>
      rcases letter with rfl | rfl
      · cases hms
      · cases hms
    | group head kind opens inside close =>
      cases hms
      exact ⟨_, _, _, _, _, inside, Reader.isPastSpace_takeSpace _ _⟩
    | char head kind opens closes => cases hms

/-- Every list of a paragraph has been read: it is the paragraph, or has been read past spaces. -/
theorem exists_readAllFuel_of_nodesWithin {ns ms : List Node} (within : NodesWithin ns ms) :
    ∀ {fuel : Nat} {closer : Option Char} {opener : Span} {r r' : Reader},
      readAllFuel fuel closer opener r = .ok (ns, r') →
      ms = ns ∨ ∃ fuel closer opener r₁ r₂,
        readAllFuel fuel closer opener r₁ = .ok (ms, r₂) ∧ r₁.IsPastSpace := by
  induction within with
  | whole nodes =>
    intro fuel closer opener r r' _
    exact .inl rfl
  | @inside nodes inner ms n mem quoted _ ih =>
    intro fuel closer opener r r' h
    obtain ⟨fuel', closer', opener', r₁, r₂, hread, hpast⟩ :=
      exists_readAllFuel_of_quoted? h n mem inner quoted
    rcases ih hread with rfl | hdeeper
    · exact .inr ⟨fuel', closer', opener', r₁, r₂, hread, hpast⟩
    · exact .inr hdeeper

end Node

/-- **Every list of a paragraph is in normal form.** -/
theorem Block.isNormal_of_parse {b : Block} {ns : Paragraph} (h : b.parse = .ok ns) {ms : List Node}
    (within : NodesWithin ns ms) : Paragraph.IsNormal ns ms := by
  obtain ⟨fuel, opener, r, hread⟩ := Block.readAllFuel_of_parse h
  obtain ⟨legible, flush⟩ := Block.isLegible_of_parse h
  obtain ⟨legible, flush⟩ := Paragraph.isLegible_of_nodesWithin within legible flush
  have apostrophes := fun ls v a rs => @Paragraph.apostrophe_of_isLegible _ ms ls rs v a legible flush
  rcases Node.exists_readAllFuel_of_nodesWithin within hread with rfl | hinner
  · have hnormal := Paragraph.normalFrom_of_readAllFuel hread
    refine ⟨hnormal.nodes, hnormal.apart, apostrophes, fun ls v a rs hms hspace => ⟨?_, rfl⟩⟩
    cases ls with
    | nil => rfl
    | cons l ls =>
      refine absurd hspace (hnormal.later (.char v a) ?_)
      rw [hms]
      exact List.mem_append_right _ List.mem_cons_self
  · obtain ⟨_, _, _, r₁, _, hread, hpast⟩ := hinner
    have hnormal := Paragraph.normalFrom_of_readAllFuel hread
    refine ⟨hnormal.nodes, hnormal.apart, apostrophes, fun ls v a rs hms hspace => ?_⟩
    refine absurd hspace (hnormal.visible hpast (.char v a) ?_)
    rw [hms]
    exact List.mem_append_right _ List.mem_cons_self

/-! ### Spaces -/

mutual

/-- The runs of a node that has been read hold letters only. -/
theorem Node.isLetter_of_run_mem {q : Char → Char → Prop} {v : Revisable Text} :
    ∀ {n : Node}, n.IsLegible q → .run v ∈ n.leaves →
      ∀ c ∈ v.original, (CharKind.of c).isLetter = true
  | .char w a, _, hv => by simp [Node.leaves] at hv
  | .half w a, h, hv => by
    rw [Node.IsLegible] at h
    obtain rfl : v = w := by simpa [Node.leaves] using hv
    intro c hc
    rw [h.2.2.1 c hc]
    rfl
  | .full w a, h, hv => by
    rw [Node.IsLegible] at h
    obtain rfl : v = w := by simpa [Node.leaves] using hv
    intro c hc
    rw [h.2.1 c hc]
    rfl
  | .event e s a, _, hv => by simp [Node.leaves] at hv
  | .group o inner ns c a, h, hv => by
    rw [Node.IsLegible] at h
    refine Paragraph.isLetter_of_run_mem h.2.2.1 ?_
    simpa [Node.leaves] using hv

/-- The runs of a paragraph that has been read hold letters only. -/
theorem Paragraph.isLetter_of_run_mem {q : Char → Char → Prop} {v : Revisable Text} :
    ∀ {ns : List Node}, Paragraph.IsLegible q ns → .run v ∈ Paragraph.leaves ns →
      ∀ c ∈ v.original, (CharKind.of c).isLetter = true
  | [], _, hv => by simp at hv
  | n :: ns, h, hv => by
    obtain ⟨-, hn, hns⟩ := Paragraph.isLegible_cons.mp h
    rw [Paragraph.leaves_cons] at hv
    rcases List.mem_append.mp hv with hv | hv
    · exact Node.isLetter_of_run_mem hn hv
    · exact Paragraph.isLetter_of_run_mem hns hv

end

/-- What spells some leaves and more leaves is cut where the first ones end. -/
theorem Spells.exists_of_append {ms : List Leaf} : ∀ {ls : List Leaf} {stop : Int} {as : List Atom},
    Spells stop (ls ++ ms) as →
      ∃ bs cs stop', as = bs ++ cs ∧ Spells stop ls bs ∧ Spells stop' ms cs
  | [], stop, as, h => ⟨[], as, stop, rfl, .nil, h⟩
  | l :: ls, stop, as, h => by
    rw [List.cons_append] at h
    cases h with
    | cons head tail =>
      obtain ⟨bs, cs, stop', rfl, hls, hms⟩ := exists_of_append tail
      exact ⟨_, cs, stop', (List.append_assoc _ _ _).symm, .cons head hls, hms⟩

/-- Leaves that begin with a visible one are read from atoms that do not begin with a space. -/
theorem Spells.head_of_isVisible {ls : List Leaf} {stop : Int} {as : List Atom}
    (h : Spells stop ls as) (visible : ∀ l ∈ ls.head?, l.IsVisible)
    (letters : ∀ v, .run v ∈ ls.head? → ∀ c ∈ v.original, (CharKind.of c).isLetter = true) :
    as.head?.any (Atom.isKind .space) = false := by
  cases h with
  | nil => rfl
  | @cons _ l _ as bs head tail =>
    have hvisible := visible l rfl
    cases l with
    | mark v =>
      obtain ⟨c, s, rfl, rfl⟩ := head
      exact hvisible
    | run v =>
      obtain ⟨c, s, run, rfl, rfl⟩ := head
      have hletter := letters _ rfl c List.mem_cons_self
      rw [Bool.eq_false_iff]
      intro hspace
      have hkind : CharKind.of c = .space := by simpa [Atom.isKind] using hspace
      rw [hkind] at hletter
      cases hletter
    | space v => exact hvisible.elim
    | event e s =>
      obtain rfl := head
      rfl

/-- **All spaces after a piece of a paragraph are taken**, up to the end of its block. -/
theorem Block.takesSpacesWhole_of_parse {b : Block} {ns : Paragraph} (h : b.parse = .ok ns)
    {close : Atom} (hclose : close.isKind .space = false) (rest : List Atom) :
    Paragraph.TakesSpacesWhole ns (b.body ++ close :: rest) := by
  intro ls a ms hleaves
  have hspell := Block.spells_of_parse h 0
  rw [hleaves] at hspell
  obtain ⟨as, bs, stop, hbody, hls, hspace⟩ := hspell.exists_of_append
  cases hspace with
  | @cons _ _ _ cs ds head tail =>
    obtain ⟨run, rfl, hrun, rfl⟩ := head
    have hblank : ∀ c ∈ run.map Prod.fst, isSpace c = true := by
      intro c hc
      obtain ⟨p, hp, rfl⟩ := List.mem_map.mp hc
      simp [isSpace, hrun p hp]
    -- the leaf after the space is visible, and so is the atom that it begins with
    have hchain := Block.isChain_follows_of_parse h
    rw [hleaves] at hchain
    have hvisible : ∀ m ∈ ms.head?, m.IsVisible := by
      intro m hm
      exact List.isChain_cons.mp (List.isChain_append.mp hchain).2.1 |>.1 m hm trivial
    have hletters : ∀ v, .run v ∈ ms.head? →
        ∀ c ∈ v.original, (CharKind.of c).isLetter = true := by
      intro v hv
      refine Paragraph.isLetter_of_run_mem (Block.isLegible_of_parse h).1 ?_
      rw [hleaves]
      exact List.mem_append_right _ (List.mem_cons_of_mem _ (List.mem_of_mem_head? hv))
    have hnext := tail.head_of_isVisible hvisible hletters
    cases ds with
    | nil =>
      refine ⟨0, as, run, close, rest, ?_, hls, rfl, hblank, hclose⟩
      rw [hbody, List.append_nil, List.append_assoc]
    | cons d ds =>
      refine ⟨0, as, run, d, ds ++ close :: rest, ?_, hls, rfl, hblank, hnext⟩
      rw [hbody, List.append_assoc, List.append_assoc]
      rfl

/-! ### The blocks of a stream -/

namespace Block

/-- A block of a stream whose end is met stands there between its start and its end. -/
theorem exists_of_mem_ofAtoms {b : Block} (closed : b.closed = true) : ∀ {atoms : List Atom},
    b ∈ ofAtoms atoms → ∃ pre close post,
      atoms = pre ++ .event b.opening b.start :: (b.body ++ close :: post) ∧
        b.opening.isBlockStart = true ∧ close.isBlockEnd = true
  | [], hb => by cases hb
  | .char c s :: atoms, hb => by
    have hb : b ∈ ofAtoms atoms := hb
    obtain ⟨pre, close, post, rfl, hstart, hclose⟩ := exists_of_mem_ofAtoms closed hb
    exact ⟨.char c s :: pre, close, post, rfl, hstart, hclose⟩
  | .event e s :: atoms, hb => by
    cases hstart : e.isBlockStart with
    | false =>
      rw [ofAtoms, split, hstart, if_neg Bool.false_ne_true] at hb
      have hb : b ∈ ofAtoms atoms := hb
      obtain ⟨pre, close, post, rfl, hstart, hclose⟩ := exists_of_mem_ofAtoms closed hb
      exact ⟨.event e s :: pre, close, post, rfl, hstart, hclose⟩
    | true =>
      rcases exists_body atoms with hinside | ⟨body, stop, rest, rfl, hinside, hstop⟩
      · rw [ofAtoms, split, if_pos hstart, split_some_open atoms [] hinside,
          List.mem_singleton] at hb
        subst hb
        cases closed
      · rw [ofAtoms_cons_block hstart s hinside stop hstop, List.mem_cons] at hb
        rcases hb with rfl | hb
        · exact ⟨[], stop, rest, rfl, hstart, hstop⟩
        · obtain ⟨pre, close, post, rfl, hstart, hclose⟩ := exists_of_mem_ofAtoms closed hb
          exact ⟨.event e s :: (body ++ stop :: pre), close, post, by simp, hstart, hclose⟩
  termination_by atoms => atoms.length

end Block

/-- What ends a block is no space. -/
theorem Atom.isKind_of_isBlockEnd {a : Atom} (h : a.isBlockEnd = true) (k : CharKind) :
    a.isKind k = false := by
  cases a with
  | char c s => cases h
  | event e s => rfl

/-- Every paragraph of a stream of atoms is in normal form, at every nesting: runs are not empty,
hold letters of one width and are as long as they can be, no other node holds a letter or a directed
quotation mark, a straight mark that stands alone is an apostrophe directly between half-width runs,
and a space stands alone only at the start.  All its values are those of the stream, and no space is
followed by another one there. -/
theorem parse_normalForm {atoms : List Atom} {ns : Paragraph}
    (h : .ok ns ∈ parseParagraphs atoms) :
    (∀ ms, NodesWithin ns ms → Paragraph.IsNormal ns ms) ∧
    (∀ l ∈ Paragraph.leaves ns, l.IsFresh) ∧
    ∃ pre e s body close post, atoms = pre ++ .event e s :: (body ++ close :: post) ∧
      e.isBlockStart = true ∧ close.isBlockEnd = true ∧ (Block.mk s e body true).parse = .ok ns ∧
      Paragraph.TakesSpacesWhole ns (body ++ close :: post) := by
  obtain ⟨b, hb, hparse⟩ := List.mem_map.mp h
  have hclosed := Block.closed_of_parse hparse
  obtain ⟨pre, close, post, hatoms, hstart, hclose⟩ := Block.exists_of_mem_ofAtoms hclosed hb
  refine ⟨fun ms within => Block.isNormal_of_parse hparse within,
    (Block.spells_of_parse hparse 0).isFresh, pre, b.opening, b.start, b.body, close, post, hatoms,
    hstart, hclose, ?_, ?_⟩
  · rw [← hclosed]
    exact hparse
  · exact Block.takesSpacesWhole_of_parse hparse (Atom.isKind_of_isBlockEnd hclose _) post

/-- What is quoted in ` “it's 中”`. -/
def contractionNodes : List Node :=
  [.half ⟨['i', 't'], ⟨4, 6⟩, none⟩ ⟨[], ⟨6, 6⟩, none⟩, .char ⟨'\'', ⟨6, 7⟩, none⟩ ⟨[], ⟨7, 7⟩, none⟩,
    .half ⟨['s'], ⟨7, 8⟩, none⟩ ⟨[' '], ⟨8, 9⟩, none⟩,
    .full ⟨['中'], ⟨9, 12⟩, none⟩ ⟨[], ⟨12, 12⟩, none⟩]

/-- The paragraph that it is read as: a space that stands alone, and the quotation. -/
def contractionParagraph : Paragraph :=
  [.char ⟨' ', ⟨0, 1⟩, none⟩ ⟨[], ⟨1, 1⟩, none⟩,
    .group ⟨'“', ⟨1, 4⟩, none⟩ ⟨[], ⟨4, 4⟩, none⟩ contractionNodes ⟨'”', ⟨12, 15⟩, none⟩
      ⟨[], ⟨15, 15⟩, none⟩]

/-- The conclusion of `parse_normalForm` at a block that begins with a space and quotes a
contraction. -/
theorem parse_normalForm_contraction :
    let stream : List Atom :=
      .event ⟨.opening, "paragraph", []⟩ (Span.point 0) ::
        (Atom.ofText 0 [' ', '“', 'i', 't', '\'', 's', ' ', '中', '”'] ++
          [.event ⟨.closing, "paragraph", []⟩ (Span.point 15)])
    parseParagraphs stream = [.ok contractionParagraph] ∧
      Paragraph.IsNormal contractionParagraph contractionParagraph ∧
      Paragraph.IsNormal contractionParagraph contractionNodes := by
  intro stream
  have hparse : parseParagraphs stream = [.ok contractionParagraph] := rfl
  have hmem : .ok contractionParagraph ∈ parseParagraphs stream := by
    rw [hparse]
    exact List.mem_cons_self
  have hwithin : NodesWithin contractionParagraph contractionNodes :=
    .inside (List.mem_cons_of_mem _ List.mem_cons_self) rfl (.whole _)
  obtain ⟨hnormal, -⟩ := parse_normalForm hmem
  exact ⟨hparse, hnormal _ (.whole _), hnormal _ hwithin⟩

end CjkProse
