import CjkProse.Proofs.Reading.Outlines

/-!
# Reading renamed quotation marks

When the directed quotation marks of a block are replaced by other ones, an opening mark by an
opening one and the mark that closes it by the one that closes the new one, the block is read as the
same tree between the new marks.  Several pairs of marks may become one: the marks that are open at
a place wait for their own closing marks only, and a closing mark of another form would have been a
fault before.

## Main definitions

* `Punct.Renames` — other quotation marks for the directed ones, pair by pair.
* `Reader.Renamed` — two places in streams that differ in the names of quotation marks only.

## Main results

* `Node.closerOf_renamed`, `Node.atClose_renamed`, `Node.atClose_renamed_eq_false` — quotations
  start and end at the same places.
* `Node.Step.renamed` — one step of the reader.
* `Block.parse_renamed` — **renaming quotation marks does not change how they pair.**
-/

namespace CjkProse

open Reader (isHalfLetter)

/-! ### Renaming quotation marks -/

/-- Other quotation marks for the directed ones: those of a pair become those of a pair, and no
other character changes. -/
structure Punct.Renames (ρ : Char → Char) : Prop where
  /-- A pair becomes a pair. -/
  pair : ∀ q ∈ chineseQuotes, (ρ q.1, ρ q.2) ∈ chineseQuotes
  /-- Other characters stay. -/
  other : ∀ c, c ∉ chineseLeftQuote → c ∉ chineseRightQuote → ρ c = c

namespace Punct

/-- No character is in two of the sets of quotation marks. -/
theorem quotes_disjoint : (∀ c ∈ chineseLeftQuote, c ∉ chineseRightQuote ∧ c ∉ westernQuote) ∧
    ∀ c ∈ chineseRightQuote, c ∉ westernQuote := by
  have hleft : chineseLeftQuote.all
      (fun c => !chineseRightQuote.contains c && !westernQuote.contains c) = true := by decide
  have hright : chineseRightQuote.all (fun c => !westernQuote.contains c) = true := by decide
  exact ⟨fun c hc => by simpa using List.all_eq_true.mp hleft c hc,
    fun c hc => by simpa using List.all_eq_true.mp hright c hc⟩

theorem kind_of_mem_left {c : Char} (h : c ∈ chineseLeftQuote) :
    CharKind.of c = .chineseLeftQuote := by
  have hkinds : chineseLeftQuote.all (fun c => CharKind.of c == .chineseLeftQuote) = true := by
    decide
  simpa using List.all_eq_true.mp hkinds c h

theorem kind_of_mem_right {c : Char} (h : c ∈ chineseRightQuote) :
    CharKind.of c = .chineseRightQuote := by
  have hkinds : chineseRightQuote.all (fun c => CharKind.of c == .chineseRightQuote) = true := by
    decide
  simpa using List.all_eq_true.mp hkinds c h

/-- The mark that closes a quotation is told by its pair. -/
theorem closing?_eq_some_iff {c d : Char} : closing? c = some d ↔ (c, d) ∈ chineseQuotes := by
  refine ⟨closing?_eq_some, fun h => ?_⟩
  have hpairs : chineseQuotes.all (fun q => closing? q.1 == some q.2) = true := by decide
  simpa using List.all_eq_true.mp hpairs _ h

theorem closing?_eq_none_iff {c : Char} : closing? c = none ↔ c ∉ chineseLeftQuote := by
  rw [Option.eq_none_iff_forall_ne_some, chineseLeftQuote, List.mem_map]
  constructor
  · rintro h ⟨q, hq, rfl⟩
    exact h _ (closing?_eq_some_iff.mpr hq)
  · intro h d hd
    exact h ⟨_, closing?_eq_some_iff.mp hd, rfl⟩

namespace Renames

variable {ρ : Char → Char} (h : Renames ρ) {c d : Char}

include h

theorem mem_left (hc : c ∈ chineseLeftQuote) : ρ c ∈ chineseLeftQuote := by
  obtain ⟨q, hq, rfl⟩ := List.mem_map.mp hc
  exact List.mem_map.mpr ⟨_, h.pair q hq, rfl⟩

theorem mem_right (hc : c ∈ chineseRightQuote) : ρ c ∈ chineseRightQuote := by
  obtain ⟨q, hq, rfl⟩ := List.mem_map.mp hc
  exact List.mem_map.mpr ⟨_, h.pair q hq, rfl⟩

/-- A mark opens, closes, or keeps its name. -/
theorem cases (c : Char) : (c ∈ chineseLeftQuote ∧ ρ c ∈ chineseLeftQuote) ∨
    (c ∈ chineseRightQuote ∧ ρ c ∈ chineseRightQuote) ∨
    c ∉ chineseLeftQuote ∧ c ∉ chineseRightQuote ∧ ρ c = c := by
  by_cases hleft : c ∈ chineseLeftQuote
  · exact .inl ⟨hleft, h.mem_left hleft⟩
  by_cases hright : c ∈ chineseRightQuote
  · exact .inr (.inl ⟨hright, h.mem_right hright⟩)
  exact .inr (.inr ⟨hleft, hright, h.other c hleft hright⟩)

theorem mem_right_iff : ρ c ∈ chineseRightQuote ↔ c ∈ chineseRightQuote := by
  rcases h.cases c with ⟨hc, hc'⟩ | ⟨hc, hc'⟩ | ⟨-, -, hc⟩
  · exact iff_of_false (quotes_disjoint.1 _ hc').1 (quotes_disjoint.1 _ hc).1
  · exact iff_of_true hc' hc
  · rw [hc]

theorem mem_western_iff : ρ c ∈ westernQuote ↔ c ∈ westernQuote := by
  rcases h.cases c with ⟨hc, hc'⟩ | ⟨hc, hc'⟩ | ⟨-, -, hc⟩
  · exact iff_of_false (quotes_disjoint.1 _ hc').2 (quotes_disjoint.1 _ hc).2
  · exact iff_of_false (quotes_disjoint.2 _ hc') (quotes_disjoint.2 _ hc)
  · rw [hc]

theorem kind (c : Char) : CharKind.of (ρ c) = CharKind.of c := by
  rcases h.cases c with ⟨hc, hc'⟩ | ⟨hc, hc'⟩ | ⟨-, -, hc⟩
  · rw [kind_of_mem_left hc, kind_of_mem_left hc']
  · rw [kind_of_mem_right hc, kind_of_mem_right hc']
  · rw [hc]

/-- Only quotation marks are renamed. -/
theorem eq_self_of_kind (hleft : CharKind.of c ≠ .chineseLeftQuote)
    (hright : CharKind.of c ≠ .chineseRightQuote) : ρ c = c :=
  h.other c (fun hc => hleft (kind_of_mem_left hc)) fun hc => hright (kind_of_mem_right hc)

theorem eq_self_of_western (hc : c ∈ westernQuote) : ρ c = c :=
  h.other c (fun hleft => (quotes_disjoint.1 _ hleft).2 hc) fun hright =>
    quotes_disjoint.2 _ hright hc

/-- Apostrophes are not renamed, and nothing else becomes one. -/
theorem beq_apostrophe (c : Char) : (ρ c == '\'') = (c == '\'') := by
  by_cases hc : c ∈ westernQuote
  · rw [h.eq_self_of_western hc]
  · have hmem : '\'' ∈ westernQuote := by decide
    rw [beq_eq_false_iff_ne.mpr fun heq : c = '\'' => hc (heq ▸ hmem),
      beq_eq_false_iff_ne.mpr fun heq : ρ c = '\'' => hc (h.mem_western_iff.mp (heq ▸ hmem))]

theorem closing? (c : Char) : Punct.closing? (ρ c) = (Punct.closing? c).map ρ := by
  cases hc : Punct.closing? c with
  | some d => exact closing?_eq_some_iff.mpr (h.pair _ (closing?_eq_some_iff.mp hc))
  | none =>
    have hleft := closing?_eq_none_iff.mp hc
    refine closing?_eq_none_iff.mpr fun hleft' => ?_
    rcases h.cases c with ⟨hc, -⟩ | ⟨-, hc'⟩ | ⟨-, -, hc⟩
    · exact hleft hc
    · exact (quotes_disjoint.1 _ hleft').1 hc'
    · rw [hc] at hleft'
      exact hleft hleft'

/-- A mark that becomes what a closing mark becomes is this mark, or it closes quotations too. -/
theorem eq_or_mem_right (hc : isClosingMark c = true) (heq : ρ d = ρ c) :
    d = c ∨ d ∈ chineseRightQuote := by
  simp only [isClosingMark, Bool.or_eq_true, List.contains_iff_mem] at hc
  rcases hc with hc | hc
  · exact .inr (h.mem_right_iff.mp (heq ▸ h.mem_right hc))
  · have hd : d ∈ westernQuote := h.mem_western_iff.mp (heq ▸ h.mem_western_iff.mpr hc)
    rw [h.eq_self_of_western hc, h.eq_self_of_western hd] at heq
    exact .inl heq

end Renames

end Punct

/-! ### Readers -/

/-- An atom with another name if it is a quotation mark. -/
def Atom.rename (ρ : Char → Char) : Atom → Atom
  | .char c s => .char (ρ c) s
  | .event e s => .event e s

/-- The place `r'` is like `r`, in a stream in which quotation marks are renamed and which may stand
elsewhere. -/
structure Reader.Renamed (ρ : Char → Char) (r r' : Reader) : Prop where
  /-- The last atom read is a half-width letter in both or in neither. -/
  prev : isHalfLetter r'.prev = isHalfLetter r.prev
  /-- The atoms to come are the same but for the names of quotation marks. -/
  rest : r'.rest.map Atom.content = (r.rest.map (Atom.rename ρ)).map Atom.content

section Renamed

variable {ρ : Char → Char} (hρ : Punct.Renames ρ)

namespace Reader.Renamed

variable {r r' : Reader}

theorem nil (h : Renamed ρ r r') (head : r.rest = []) : r'.rest = [] := by
  have hrest := h.rest
  rw [head] at hrest
  exact List.map_eq_nil_iff.mp hrest

theorem event (h : Renamed ρ r r') {e : Event} {s : Span} {rest : List Atom}
    (head : r.rest = .event e s :: rest) :
    ∃ t rest', r'.rest = .event e t :: rest' ∧
      Renamed ρ ⟨some (.event e s), rest⟩ ⟨some (.event e t), rest'⟩ := by
  have hrest := h.rest
  rw [head] at hrest
  obtain ⟨a, rest', ha, hcontent, hrest'⟩ := List.map_eq_cons_iff.mp hrest
  cases a with
  | char c t => cases hcontent
  | event e' t =>
    cases hcontent
    exact ⟨t, rest', ha, rfl, hrest'⟩

include hρ

theorem isHalfLetter_char (c : Char) (s t : Span) :
    isHalfLetter (some (.char (ρ c) t)) = isHalfLetter (some (.char c s)) := by
  simp only [isHalfLetter, Option.any_some, Atom.isKind, hρ.kind]

theorem char (h : Renamed ρ r r') {c : Char} {s : Span} {rest : List Atom}
    (head : r.rest = .char c s :: rest) :
    ∃ t rest', r'.rest = .char (ρ c) t :: rest' ∧
      Renamed ρ ⟨some (.char c s), rest⟩ ⟨some (.char (ρ c) t), rest'⟩ := by
  have hrest := h.rest
  rw [head] at hrest
  obtain ⟨a, rest', ha, hcontent, hrest'⟩ := List.map_eq_cons_iff.mp hrest
  cases a with
  | char d t =>
    cases hcontent
    exact ⟨t, rest', ha, isHalfLetter_char hρ c s t, hrest'⟩
  | event e t => cases hcontent

theorem isHalfLetter_head? (h : Renamed ρ r r') :
    isHalfLetter r'.rest.head? = isHalfLetter r.rest.head? := by
  cases head : r.rest with
  | nil => rw [h.nil head]
  | cons a rest =>
    cases a with
    | event e s =>
      obtain ⟨t, rest', hrest', -⟩ := h.event head
      rw [hrest']
      rfl
    | char c s =>
      obtain ⟨t, rest', hrest', -⟩ := h.char hρ head
      rw [hrest']
      exact isHalfLetter_char hρ c s t

/-- Apostrophes are the same. -/
theorem atContraction (h : Renamed ρ r r') : r'.atContraction = r.atContraction := by
  obtain ⟨prev, rest⟩ := r
  obtain ⟨prev', rest'⟩ := r'
  cases rest with
  | nil =>
    obtain rfl : rest' = [] := h.nil rfl
    rfl
  | cons a rest =>
    cases a with
    | event e s =>
      obtain ⟨t, rest'', hrest', -⟩ := h.event rfl
      dsimp only at hrest'
      subst hrest'
      rfl
    | char c s =>
      obtain ⟨t, rest'', hrest', hnext⟩ := h.char hρ rfl
      dsimp only at hrest'
      subst hrest'
      have hprev : isHalfLetter prev' = isHalfLetter prev := h.prev
      rw [atContraction_eq, atContraction_eq, isContraction, isContraction, hρ.beq_apostrophe,
        hprev]
      exact congrArg _ (hnext.isHalfLetter_head? hρ)

/-- Runs of characters other than quotation marks are the same. -/
theorem takeKind {k : CharKind} (hk : ∀ c, CharKind.of c = k → ρ c = c) (h : Renamed ρ r r') :
    (r'.takeKind k).1.map Prod.fst = (r.takeKind k).1.map Prod.fst ∧
      Renamed ρ (r.takeKind k).2 (r'.takeKind k).2 := by
  obtain ⟨prev, rest⟩ := r
  obtain ⟨prev', rest'⟩ := r'
  induction rest generalizing prev prev' rest' with
  | nil =>
    obtain rfl : rest' = [] := h.nil rfl
    exact ⟨rfl, h⟩
  | cons a rest ih =>
    cases a with
    | event e s =>
      obtain ⟨t, rest'', hrest', -⟩ := h.event rfl
      dsimp only at hrest'
      subst hrest'
      exact ⟨rfl, h⟩
    | char c s =>
      obtain ⟨t, rest'', hrest', hnext⟩ := h.char hρ rfl
      dsimp only at hrest'
      subst hrest'
      by_cases hc : CharKind.of c = k
      · obtain ⟨hrun, hstop⟩ := ih _ _ _ hnext
        have hc' : CharKind.of (ρ c) = k := (hρ.kind c).trans hc
        rw [takeKind_cons hc, takeKind_cons hc']
        exact ⟨by rw [List.map_cons, List.map_cons, hrun, hk c hc], hstop⟩
      · have hc' : ¬ CharKind.of (ρ c) = k := by rwa [hρ.kind c]
        have hnone : Reader.takeKind k ⟨prev, .char c s :: rest⟩ =
            ([], ⟨prev, .char c s :: rest⟩) := if_neg hc
        have hnone' : Reader.takeKind k ⟨prev', .char (ρ c) t :: rest''⟩ =
            ([], ⟨prev', .char (ρ c) t :: rest''⟩) := if_neg hc'
        rw [hnone, hnone']
        exact ⟨rfl, h⟩

theorem takeSpace (h : Renamed ρ r r') (anchor anchor' : Int) :
    (r'.takeSpace anchor').1.original = (r.takeSpace anchor).1.original ∧
      Renamed ρ (r.takeSpace anchor).2 (r'.takeSpace anchor').2 :=
  h.takeKind hρ fun c hc => hρ.eq_self_of_kind (by rw [hc]; nofun) (by rw [hc]; nofun)

end Reader.Renamed

namespace Node

variable {r r' : Reader}

/-- What a step starts with closes no quotation between directed marks. -/
theorem Step.not_mem_right {fuel : Nat} {r₁ : Reader} {n : Node} (h : Step fuel r n r₁) {c : Char}
    {s : Span} {rest : List Atom} (head : r.rest = .char c s :: rest) :
    c ∉ Punct.chineseRightQuote := by
  intro hc
  cases h with
  | event head' _ => cases head.symm.trans head'
  | run head' kind letter =>
    cases head.symm.trans head'
    rw [Punct.kind_of_mem_right hc] at kind
    rcases letter with rfl | rfl <;> cases kind
  | group head' _ opens _ _ =>
    cases head.symm.trans head'
    rcases isPair_of_closerOf opens with hpair | ⟨rfl, hwestern⟩
    · have hleft : c ∈ Punct.chineseLeftQuote :=
        List.mem_map.mpr ⟨_, closing?_eq_some hpair, rfl⟩
      exact (Punct.quotes_disjoint.1 _ hleft).1 hc
    · exact Punct.quotes_disjoint.2 _ hc hwestern
  | char head' _ _ closes =>
    cases head.symm.trans head'
    rw [List.contains_iff_mem.mpr hc] at closes
    cases closes

/-- Reading with some amount of fuel goes in the same way at places that are alike. -/
def ReadsAlike (ρ : Char → Char) (fuel : Nat) : Prop :=
  ∀ (closer : Option Char) (opener opener' : Span) (r r' : Reader) (ns : List Node) (r₁ : Reader),
    (∀ c ∈ closer, isClosingMark c = true) → Reader.Renamed ρ r r' →
    readAllFuel fuel closer opener r = .ok (ns, r₁) →
      ∃ ns' r₁', readAllFuel fuel (closer.map ρ) opener' r' = .ok (ns', r₁') ∧
        Paragraph.outline ns' = Outline.renameAll ρ (Paragraph.outline ns) ∧
        Reader.Renamed ρ r₁ r₁'

include hρ

/-- Quotations start at the same places. -/
theorem closerOf_renamed (h : Reader.Renamed ρ r r') (c : Char) :
    closerOf (ρ c) r' = (closerOf c r).map ρ := by
  have hwestern : Punct.westernQuote.contains (ρ c) = Punct.westernQuote.contains c := by
    rw [Bool.eq_iff_iff, List.contains_iff_mem, List.contains_iff_mem, hρ.mem_western_iff]
  rw [closerOf, closerOf, hρ.closing?, h.atContraction hρ, hwestern]
  cases Punct.closing? c with
  | some d => rfl
  | none =>
    dsimp only [Option.map_none]
    split <;> rfl

theorem readRun_renamed (h : Reader.Renamed ρ r r') {k : CharKind}
    (hk : ∀ c, CharKind.of c = k → ρ c = c) (start start' : Int) :
    (readRun k start' r').1.outline = (readRun k start r).1.outline.rename ρ ∧
      Reader.Renamed ρ (readRun k start r).2 (readRun k start' r').2 := by
  obtain ⟨hrun, hnext⟩ := h.takeKind hρ hk
  obtain ⟨hspace, hstop⟩ := hnext.takeSpace hρ (Reader.runStop start (r.takeKind k).1)
    (Reader.runStop start' (r'.takeKind k).1)
  refine ⟨?_, hstop⟩
  simp only [readRun]
  split
  · simp only [outline, Outline.rename, hrun, hspace]
  · simp only [outline, Outline.rename, hrun, hspace]

/-- Quotations end at the same places: where one ends its mark stands in both streams. -/
theorem atClose_renamed (h : Reader.Renamed ρ r r') {closer : Option Char}
    (hclose : atClose closer r = true) : atClose (closer.map ρ) r' = true := by
  cases closer with
  | none => cases hclose
  | some c =>
    obtain ⟨s, rest, head⟩ := exists_of_atClose hclose
    obtain ⟨t, rest', head', -⟩ := h.char hρ head
    simpa [atClose, head, head', h.atContraction hρ] using hclose

/-- Where none ends, another closing mark would have been a fault. -/
theorem atClose_renamed_eq_false (h : Reader.Renamed ρ r r') {closer : Option Char}
    (marks : ∀ c ∈ closer, isClosingMark c = true) {fuel : Nat} {n : Node} {r₁ : Reader}
    (hstep : Step fuel r n r₁) (hclose : atClose closer r = false) :
    atClose (closer.map ρ) r' = false := by
  cases closer with
  | none => rfl
  | some c =>
    cases head : r.rest with
    | nil => simp [atClose, h.nil head]
    | cons a rest =>
      cases a with
      | event e s =>
        obtain ⟨t, rest', head', -⟩ := h.event head
        simp [atClose, head']
      | char d s =>
        obtain ⟨t, rest', head', -⟩ := h.char hρ head
        have hne : ρ c = ρ d → c = d := by
          intro heq
          have hcases := hρ.eq_or_mem_right (marks c rfl) heq.symm
          exact (hcases.resolve_right (hstep.not_mem_right head)).symm
        simp only [atClose, head, Bool.and_eq_false_iff, beq_eq_false_iff_ne,
          ne_eq, Bool.not_eq_false'] at hclose
        simp only [Option.map_some, atClose, head', h.atContraction hρ, Bool.and_eq_false_iff,
          beq_eq_false_iff_ne, ne_eq, Bool.not_eq_false']
        exact hclose.imp_left fun hcd heq => hcd (hne heq)

/-- One step of the reader, given that the nodes inside of a quotation are read alike. -/
theorem Step.renamed {fuel : Nat} (inside : ReadsAlike ρ fuel) (h : Reader.Renamed ρ r r')
    {n : Node} {r₁ : Reader} (hstep : Step fuel r n r₁) :
    ∃ n' r₁', Step fuel r' n' r₁' ∧ n'.outline = n.outline.rename ρ ∧ Reader.Renamed ρ r₁ r₁' := by
  cases hstep with
  | @event e s rest head hinside =>
    obtain ⟨t, rest', head', hnext⟩ := h.event head
    obtain ⟨hspace, hstop⟩ := hnext.takeSpace hρ s.stop t.stop
    refine ⟨_, _, .event head' hinside, ?_, hstop⟩
    simp only [outline, Outline.rename, hspace]
  | @run c s rest k head kind letter =>
    obtain ⟨t, rest', head', -⟩ := h.char hρ head
    have hk : ∀ d, CharKind.of d = k → ρ d = d := by
      intro d hd
      rcases letter with rfl | rfl
      · exact hρ.eq_self_of_kind (by rw [hd]; nofun) (by rw [hd]; nofun)
      · exact hρ.eq_self_of_kind (by rw [hd]; nofun) (by rw [hd]; nofun)
    obtain ⟨houtline, hstop⟩ := readRun_renamed hρ h hk s.start t.start
    exact ⟨_, _, .run head' ((hρ.kind c).trans kind) letter, houtline, hstop⟩
  | @group c d closer s t rest rest' ns r₂ head kind opens hinside close =>
    -- the opening mark and its space, what is inside, and the closing mark and its space
    obtain ⟨s', rest₁, head', hnext⟩ := h.char hρ head
    obtain ⟨hinner, hfirst⟩ := hnext.takeSpace hρ s.stop s'.stop
    obtain ⟨ns', r₂', hinside', houtline, hr₂⟩ := inside _ _ s' _ _ _ _
      (fun x hx => by cases hx; exact isClosingMark_of_closerOf opens) hfirst hinside
    obtain ⟨t', rest₂, close', hlast⟩ := hr₂.char hρ close
    obtain ⟨hafter, hstop⟩ := hlast.takeSpace hρ t.stop t'.stop
    refine ⟨_, _, .group head' ?_ ?_ hinside' close', ?_, hstop⟩
    · rw [hρ.kind]
      exact kind
    · rw [closerOf_renamed hρ h, opens]
      rfl
    · simp only [outline, Outline.rename, hinner, houtline, hafter]
  | @char c s rest head kind opens closes =>
    obtain ⟨t, rest', head', hnext⟩ := h.char hρ head
    obtain ⟨hspace, hstop⟩ := hnext.takeSpace hρ s.stop t.stop
    have hplain : c ∉ Punct.chineseLeftQuote := by
      rw [← Punct.closing?_eq_none_iff]
      rw [closerOf] at opens
      split at opens
      · cases opens
      · assumption
    have hsame : ρ c = c := hρ.other c hplain (by simpa using closes)
    rw [hsame] at head' hnext hstop hspace
    refine ⟨_, _, .char head' kind ?_ closes, ?_, hstop⟩
    · have hopens := closerOf_renamed hρ h c
      rwa [hsame, opens] at hopens
    · simp only [outline, Outline.rename, hspace]

/-- **Reading goes in the same way at places that are alike.** -/
theorem readsAlike (fuel : Nat) : ReadsAlike ρ fuel := by
  -- two calls down: a step reads the nodes inside of a quotation with less fuel again
  induction fuel using Nat.strongRecOn with
  | ind fuel ih =>
    intro closer opener opener' r r' ns r₁ marks h hread
    cases fuel with
    | zero => cases hread
    | succ fuel =>
      rw [readAllFuel] at hread
      split at hread
      · next hclose =>
        cases hread
        refine ⟨[], r', ?_, rfl, h⟩
        rw [readAllFuel, if_pos (atClose_renamed hρ h hclose)]
      · next hclose =>
        have hopen : atClose closer r = false := by simpa using hclose
        split at hread
        · next hrest =>
          split at hread
          · next hnone =>
            cases hread
            obtain rfl : closer = none := by simpa using hnone
            refine ⟨[], r', ?_, rfl, h⟩
            rw [readAllFuel, h.nil hrest]
            rfl
          · cases hread
        · split at hread
          · cases hread
          · split at hread
            · cases hread
            · next n r₂ hfirst =>
              split at hread
              · cases hread
              · next ms r₃ hothers =>
                cases hread
                cases fuel with
                | zero => cases hfirst
                | succ fuel =>
                  have hstep := step_of_readFuel hfirst
                  obtain ⟨n', r₂', hstep', hn, h₂⟩ := hstep.renamed hρ (ih fuel (by omega)) h
                  obtain ⟨ms', r₁', hothers', hms, h₁⟩ :=
                    ih (fuel + 1) (by omega) _ _ opener' _ _ _ _ marks h₂ hothers
                  have hopen' := atClose_renamed_eq_false hρ h marks hstep hopen
                  refine ⟨n' :: ms', r₁', readAllFuel_of_step hopen' hstep' hothers', ?_, h₁⟩
                  rw [Paragraph.outline, Paragraph.outline, Outline.renameAll, hn, hms]

end Node

include hρ

/-- **Renaming quotation marks does not change how they pair.** -/
theorem Block.parse_renamed {b : Block} {ns : Paragraph} (hparse : b.parse = .ok ns)
    {body : List Atom}
    (hbody : body.map Atom.content = (b.body.map (Atom.rename ρ)).map Atom.content) :
    ∃ ms, Block.parse { b with body := body } = .ok ms ∧
      Paragraph.outline ms = Outline.renameAll ρ (Paragraph.outline ns) := by
  have hlength : body.length = b.body.length := by simpa using congrArg List.length hbody
  have closed := Block.closed_of_parse hparse
  rw [Block.parse] at hparse
  split at hparse
  · cases hparse
  · next ns' r₁ hread =>
    obtain rfl : ns' = ns := by simpa [closed] using hparse
    have h : Reader.Renamed ρ ⟨some (.event b.opening b.start), b.body⟩
        ⟨some (.event b.opening b.start), body⟩ := ⟨rfl, hbody⟩
    obtain ⟨ms, r₁', hread', houtline, -⟩ :=
      Node.readsAlike hρ _ none b.start b.start _ _ _ _ (by simp) h hread
    refine ⟨ms, ?_, houtline⟩
    rw [Option.map_none, ← hlength] at hread'
    simp only [Block.parse, hread', closed, if_true]

end Renamed

end CjkProse
