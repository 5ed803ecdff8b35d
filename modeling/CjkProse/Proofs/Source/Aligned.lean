import CjkProse.Proofs.Source.Pieces
import CjkProse.Proofs.Source.Places
import Mathlib.Data.List.Chain

/-!
# The blocks of a document

The events of a document come in blocks.  Within a block they cover its content without a gap, none
of them is empty, and a text covers itself unless a line ends in it; when the tokens come in document
order, so do the blocks.

## Main definitions

* `Markdown.InOrder`, `Markdown.Consecutive`, `Markdown.Token.IsTagged`, `Markdown.Token.IsPlain`,
  `Markdown.Token.IsShown` — what is relied on of a reader of the markup: its inline tokens come
  in document order, its blocks of prose are of a known sort, its texts hold no line end, and what
  else it finds covers some visible character.
* `PlacedBlock`, `PlacedBlock.Stands` — a block of events, and how it stands in the source.
* `PlacedBlock.Fits` — how it does when its texts hold no line end.
* `AlignsTo`, `BlocksOf` — the blocks that come out of aligning some tokens, and those of a document.

## Main results

* `exists_blocksOf` — every document has such blocks.
* `markupEvents_groups` — **the events of a document are those of blocks that stand in it**, in
  document order when the tokens are, and every token gives a block or is left out.
-/

namespace CjkProse

open Markdown (Inline Token)

/-! ### Tokens -/

/-- Every piece but text covers a visible character of the content. -/
def Shown : Text → List Piece → Prop
  | _, [] => True
  | content, p :: ps =>
    (p.event.kind ≠ .text → ∃ c ∈ content.take p.length, isSpace c = false) ∧
      Shown (content.drop p.length) ps

namespace Markdown

/-- The first and the last line of the content of each inline token.  A token without a line of its
own stands on the line last told, which is `line` at first. -/
def extents (line : Int) : List Token → List (Int × Int)
  | [] => []
  | .inline content _ own :: tokens =>
    (own.getD line, own.getD line + content.count '\n') :: extents line tokens
  | .proseOpen _ own :: tokens => extents (own.getD line) tokens
  | .html _ own :: tokens => extents (own.getD line) tokens
  | .other own :: tokens => extents (own.getD line) tokens

/-- The inline tokens come in document order: none starts before the last line of an earlier one.
Those that share a line stand on it from left to right. -/
def InOrder (tokens : List Token) : Prop :=
  (extents 0 tokens).Pairwise fun x y => x.2 ≤ y.1

/-- Each inline token starts no earlier than the one before it ends. -/
def Consecutive (tokens : List Token) : Prop :=
  (extents 0 tokens).IsChain fun x y => x.2 ≤ y.1

/-- No content ends before it starts. -/
theorem fst_le_snd_of_mem_extents {x : Int × Int} : ∀ {tokens : List Token} {line : Int},
    x ∈ extents line tokens → x.1 ≤ x.2 := by
  intro tokens
  induction tokens with
  | nil => intro line h; cases h
  | cons token tokens ih =>
    intro line h
    cases token with
    | inline content children own =>
      rw [extents, List.mem_cons] at h
      rcases h with rfl | h
      · exact Int.le_add_of_nonneg_right (Int.natCast_nonneg _)
      · exact ih h
    | proseOpen tag own => exact ih h
    | html content own => exact ih h
    | other own => exact ih h

/-- Tokens each of which comes after the one before it come after all before them. -/
theorem Consecutive.inOrder {tokens : List Token} (h : Consecutive tokens) : InOrder tokens := by
  have hle : ∀ x ∈ extents 0 tokens, x.1 ≤ x.2 := fun x => fst_le_snd_of_mem_extents
  rw [InOrder]
  rw [Consecutive] at h
  generalize extents 0 tokens = xs at h hle
  induction h with
  | nil => exact .nil
  | singleton x => exact List.pairwise_singleton _ x
  | @cons_cons x y zs hxy _ ih =>
    have htail := ih fun z hz => hle z (List.mem_cons_of_mem _ hz)
    have hy := hle y (List.mem_cons_of_mem _ List.mem_cons_self)
    refine List.pairwise_cons.mpr ⟨fun z hz => ?_, htail⟩
    rcases List.mem_cons.mp hz with rfl | hz
    · exact hxy
    · have := (List.pairwise_cons.mp htail).1 z hz
      omega

/-- A token that starts a block of prose has the tag of one. -/
def Token.IsTagged : Token → Prop
  | .proseOpen tag _ => tag ∈ Event.blockTags
  | _ => True

/-- The texts within a token hold no line end, as they do unless links nest so deep that no markup is
read in them. -/
def Token.IsPlain : Token → Prop
  | .inline _ children _ => ∀ t, Inline.text t ∈ children → '\n' ∉ t
  | _ => True

/-- Whatever a token holds besides text covers a visible character. -/
def Token.IsShown : Token → Prop
  | .inline content children _ => ∀ pieces, placeInline content children = .ok pieces →
      Shown content pieces
  | _ => True

end Markdown

/-! ### Events within a block -/

/-- An event within a block: it covers a slice of the source, and a text in which no line ends covers
itself. -/
structure PlacedEvent.Stands (text : Text) (e : PlacedEvent) : Prop where
  /-- It neither starts nor ends a block. -/
  inside : e.event.isBlock = false
  /-- It is not empty. -/
  nonempty : e.span.start < e.span.stop
  /-- It covers a slice. -/
  covers : ∃ u, Slice text e.span u ∧
    (e.event.kind = .text → '\n' ∉ e.event.text → u = e.event.text) ∧
    (e.event.kind = .code → ∃ c ∈ u, isSpace c = false)

/-- An event within a block: it covers a slice of the source, which is the text itself in case of a
text. -/
structure PlacedEvent.Fits (text : Text) (e : PlacedEvent) : Prop where
  /-- It neither starts nor ends a block. -/
  inside : e.event.isBlock = false
  /-- It covers a slice. -/
  covers : ∃ u, Slice text e.span u ∧ (e.event.kind = .text → u = e.event.text) ∧
    (e.event.kind = .code → ∃ c ∈ u, isSpace c = false)

/-- If it is a text, no line ends in it. -/
def PlacedEvent.IsPlain (e : PlacedEvent) : Prop := e.event.kind = .text → '\n' ∉ e.event.text

theorem PlacedEvent.Stands.fits {text : Text} {e : PlacedEvent} (h : e.Stands text)
    (plain : e.IsPlain) : e.Fits text := by
  obtain ⟨u, hu, htext, hcode⟩ := h.covers
  exact ⟨h.inside, u, hu, fun hkind => htext hkind (plain hkind), hcode⟩

/-- The events of the pieces of a placed content stand in the source, and cover the content without
a gap. -/
theorem stands_of_placePieces {text : Text} {children : List Inline} {content : Text}
    {pieces : List Piece} (h : Pieces children content pieces) : ∀ {places : List Nat},
    Placed text content places →
      Tiles (places.headD 0) ((placePieces places pieces).map PlacedEvent.span)
          (places.getLastD 0) ∧
        ∀ e ∈ placePieces places pieces, e.Stands text := by
  induction h with
  | nil =>
    intro places hplaced
    have h := hplaced.headD_drop_length
    exact ⟨congrArg Int.ofNat h, by simp [placePieces]⟩
  | @cons content p ps le fits tail ih =>
    intro places hplaced
    have hdrop := hplaced.drop le
    obtain ⟨htiles, hstands⟩ := ih hdrop
    rw [hplaced.getLastD_drop le] at htiles
    refine ⟨⟨rfl, htiles⟩, ?_⟩
    intro e he
    rw [placePieces, List.mem_cons] at he
    rcases he with rfl | he
    · obtain ⟨u, hu, hvisible⟩ := hplaced.slice le
      refine ⟨fits.inside, Int.ofNat_lt.mpr (hplaced.lt fits.pos le), u, hu, ?_, ?_⟩
      · intro hkind hfeed
        obtain ⟨-, hbegins, hlen⟩ := fits.text hkind
        have hslice := hplaced.slice_text hbegins hfeed
        rw [hlen] at hslice
        exact hu.unique hslice
      · exact fun hkind => hvisible (fits.code hkind)
    · exact hstands e he

/-- No line ends in the texts of a content if none does in those of its tokens. -/
theorem plain_of_placePieces {children : List Inline}
    (plain : ∀ t, Inline.text t ∈ children → '\n' ∉ t) {content : Text} {pieces : List Piece}
    (h : Pieces children content pieces) : ∀ {places : List Nat},
    ∀ e ∈ placePieces places pieces, e.IsPlain := by
  induction h with
  | nil => intro places e he; simp [placePieces] at he
  | @cons content p ps le fits tail ih =>
    intro places e he
    rw [placePieces, List.mem_cons] at he
    rcases he with rfl | he
    · exact fun hkind => plain _ (fits.text hkind).1
    · exact ih e he

/-- What covers a visible character of a placed content covers one of the source. -/
theorem visible_of_placePieces {text : Text} {children : List Inline} {content : Text}
    {pieces : List Piece} (h : Pieces children content pieces) : ∀ {places : List Nat},
    Placed text content places → Shown content pieces →
      ∀ e ∈ placePieces places pieces, e.event.kind ≠ .text →
        ∃ u, Slice text e.span u ∧ ∃ c ∈ u, isSpace c = false := by
  induction h with
  | nil => intro places _ _ e he; simp [placePieces] at he
  | @cons content p ps le fits tail ih =>
    intro places hplaced hshown e he hkind
    rw [placePieces, List.mem_cons] at he
    rcases he with rfl | he
    · obtain ⟨u, hu, hvisible⟩ := hplaced.slice le
      exact ⟨u, hu, hvisible (hshown.1 hkind)⟩
    · exact ih (hplaced.drop le) hshown.2 e he hkind

/-! ### Blocks -/

/-- A block of events: its tag, where it starts and stops, and what is in it. -/
structure PlacedBlock where
  /-- Its tag. -/
  tag : String
  /-- The offset at which it starts. -/
  start : Int
  /-- The offset at which it stops. -/
  stop : Int
  /-- The events in it. -/
  inner : List PlacedEvent

namespace PlacedBlock

/-- The event that starts a block. -/
def opening (b : PlacedBlock) : Event := ⟨.opening, b.tag, []⟩

/-- The event that ends a block. -/
def closing (b : PlacedBlock) : Event := ⟨.closing, b.tag, []⟩

/-- The events of a block. -/
def events (b : PlacedBlock) : List PlacedEvent :=
  ⟨b.opening, Span.point b.start⟩ :: b.inner ++ [⟨b.closing, Span.point b.stop⟩]

/-- The events in a block cover it without a gap, and each of them stands in the source. -/
structure Stands (text : Text) (b : PlacedBlock) : Prop where
  /-- It starts between two characters. -/
  here : Slice text ⟨b.start, b.start⟩ []
  /-- There is no gap. -/
  tiles : Tiles b.start (b.inner.map PlacedEvent.span) b.stop
  /-- Each event stands in the source. -/
  inner : ∀ e ∈ b.inner, e.Stands text

/-- The events in a block cover it without a gap, and each of them fits. -/
structure Fits (text : Text) (b : PlacedBlock) : Prop where
  /-- It starts between two characters. -/
  here : Slice text ⟨b.start, b.start⟩ []
  /-- There is no gap. -/
  tiles : Tiles b.start (b.inner.map PlacedEvent.span) b.stop
  /-- Each event fits. -/
  inner : ∀ e ∈ b.inner, e.Fits text

/-- No line ends in the texts of a block. -/
def IsPlain (b : PlacedBlock) : Prop := ∀ e ∈ b.inner, e.IsPlain

/-- Every event in a block but text covers a visible character. -/
def IsShown (text : Text) (b : PlacedBlock) : Prop :=
  ∀ e ∈ b.inner, e.event.kind ≠ .text → ∃ u, Slice text e.span u ∧ ∃ c ∈ u, isSpace c = false

theorem Stands.fits {text : Text} {b : PlacedBlock} (h : b.Stands text) (plain : b.IsPlain) :
    b.Fits text :=
  ⟨h.here, h.tiles, fun e he => (h.inner e he).fits (plain e he)⟩

/-- A block that stands in the source starts and stops between two characters, and so does each
event of it. -/
theorem Stands.slice {text : Text} {b : PlacedBlock} (h : b.Stands text) :
    ∀ e ∈ b.events, ∃ u, Slice text e.span u := by
  have hinner : ∀ e ∈ b.inner, ∃ u, Slice text e.span u := fun e he =>
    let ⟨u, hu, _⟩ := (h.inner e he).covers
    ⟨u, hu⟩
  have hstop := h.tiles.atStop h.here (by simpa using hinner)
  intro e he
  simp only [events, List.cons_append, List.mem_cons, List.mem_append, List.not_mem_nil,
    or_false] at he
  rcases he with rfl | he | rfl
  · exact ⟨[], h.here⟩
  · exact hinner e he
  · exact ⟨[], hstop⟩

theorem Stands.start_le_stop {text : Text} {b : PlacedBlock} (h : b.Stands text) :
    b.start ≤ b.stop := by
  refine (h.tiles.ordered fun s hs => ?_).1
  obtain ⟨e, he, rfl⟩ := List.mem_map.mp hs
  exact Int.le_of_lt (h.inner e he).nonempty

end PlacedBlock

/-! ### Aligning one block -/

section AlignBlock

variable {text content : Text} {children : List Inline} {source : Source} {n : Nat} {tag : String}

/-- A block uses up what locating its content does, whether its tokens can be placed or not. -/
theorem snd_alignBlock :
    (alignBlock source tag n content children).2 = (source.locate n content).2 := by
  rw [alignBlock]
  split
  · next h => rw [h]
  · next h =>
    split <;> rw [h]

theorem of_alignBlock_eq_ok {events : List PlacedEvent}
    (h : (alignBlock source tag n content children).1 = .ok events) :
    ∃ places pieces, (source.locate n content).1 = .ok places ∧
      placeInline content children = .ok pieces ∧
      events = PlacedBlock.events
        ⟨tag, places.headD 0, places.getLastD 0, placePieces places pieces⟩ := by
  rw [alignBlock] at h
  split at h
  · cases h
  · next places source' hlocate =>
    split at h
    · cases h
    · next pieces hpieces =>
      cases h
      exact ⟨places, pieces, by rw [hlocate], hpieces, rfl⟩

/-- The events of a block that is aligned are those of a block that stands in the source where its
content is located, comes after everything used up before, and is used up then. -/
theorem exists_of_alignBlock_eq_ok (hlies : source.Lies text) {events : List PlacedEvent}
    (h : (alignBlock source tag n content children).1 = .ok events) :
    ∃ b : PlacedBlock, events = b.events ∧ b.tag = tag ∧ b.Stands text ∧
      (∃ places, (source.locate n content).1 = .ok places ∧ b.start = places.headD 0 ∧
        b.stop = places.getLastD 0) ∧
      (∀ p, source.Free p n → p ≤ b.start) ∧
      (source.locate n content).2.Free b.stop (n + content.count '\n') ∧
      ∀ own, (Token.IsPlain (.inline content children own) → b.IsPlain) ∧
        (Token.IsShown (.inline content children own) → b.IsShown text) := by
  obtain ⟨places, pieces, hlocate, hpieces, rfl⟩ := of_alignBlock_eq_ok h
  have hlocate' : source.locate n content = (.ok places, (source.locate n content).2) := by
    rw [← hlocate]
  obtain ⟨hlocated, hplaced⟩ := Source.located_of_locate hlies hlocate'
  have hmakeUp := pieces_of_placeInline hpieces
  obtain ⟨htiles, hstands⟩ := stands_of_placePieces hmakeUp hplaced
  refine ⟨_, rfl, rfl, ⟨hplaced.atHead, htiles, hstands⟩, ⟨places, hlocate, rfl, rfl⟩,
    hlocated.after, ?_, fun own => ⟨?_, ?_⟩⟩
  · have hused := hlocated.used
    rwa [Text.length_lines, ← Nat.add_assoc, Nat.add_sub_cancel] at hused
  · exact fun hplain => plain_of_placePieces hplain hmakeUp
  · exact fun hshown => visible_of_placePieces hmakeUp hplaced (hshown pieces hpieces)

end AlignBlock

/-! ### Aligning a document -/

/-- The events are those of the blocks that are not left out. -/
theorem eventsOf_eq_flatten (outcomes : List BlockOutcome) :
    eventsOf outcomes = (outcomes.filterMap Except.toOption).flatten := by
  induction outcomes with
  | nil => rfl
  | cons outcome outcomes ih =>
    cases outcome with
    | ok events => exact congrArg (events ++ ·) ih
    | error s => exact ih

/-- Every block gives events or is left out. -/
theorem length_skippedOf (outcomes : List BlockOutcome) :
    (outcomes.filterMap Except.toOption).length + (skippedOf outcomes).length =
      outcomes.length := by
  induction outcomes with
  | nil => rfl
  | cons outcome outcomes ih =>
    cases outcome with
    | ok events =>
      have hhead : Except.toOption (Except.ok events : BlockOutcome) = some events := rfl
      rw [List.filterMap_cons_some hhead, skippedOf, List.length_cons, List.length_cons]
      omega
    | error s =>
      have hhead : Except.toOption (Except.error s : BlockOutcome) = none := rfl
      rw [List.filterMap_cons_none hhead, skippedOf, List.length_cons, List.length_cons]
      omega

/-- There is a block for each inline token that does not start on one of the lines passed over. -/
theorem length_alignFrom (skip : Nat) : ∀ {tokens : List Token} {source : Source} {tag : String}
    {line : Int}, (alignFrom skip source tag line tokens).length =
      ((Markdown.extents line tokens).filter fun x => (skip : Int) ≤ x.1).length := by
  intro tokens
  induction tokens with
  | nil => intro source tag line; rfl
  | cons token tokens ih =>
    intro source tag line
    cases token with
    | inline content children own =>
      rw [alignFrom, Markdown.extents, List.filter_cons]
      by_cases hskip : own.getD line < skip
      · have htold : ¬ (skip : Int) ≤ own.getD line := by omega
        simp only [hskip, if_true, htold, decide_false, Bool.false_eq_true, if_false]
        exact ih
      · have htold : (skip : Int) ≤ own.getD line := by omega
        simp only [hskip, if_false, htold, decide_true, if_true, List.length_cons]
        exact congrArg (· + 1) ih
    | proseOpen tag own => exact ih
    | html content own => exact ih
    | other own => exact ih

/-- The blocks `bs` come out of aligning some tokens, `source` being what is left of the lines. -/
structure AlignsTo (text : Text) (skip : Nat) (source : Source) (tag : String) (line : Int)
    (tokens : List Token) (bs : List PlacedBlock) : Prop where
  /-- Their events are those that come out. -/
  events : (alignFrom skip source tag line tokens).filterMap Except.toOption =
    bs.map PlacedBlock.events
  /-- Each of them stands in the source. -/
  stands : ∀ b ∈ bs, b.Stands text
  /-- Its tag is one that is told. -/
  tagged : ∀ b ∈ bs, b.tag = tag ∨ ∃ own, Token.proseOpen b.tag own ∈ tokens
  /-- What is in it comes from one of the tokens. -/
  origin : ∀ b ∈ bs, ∃ t ∈ tokens, (t.IsPlain → b.IsPlain) ∧ (t.IsShown → b.IsShown text)
  /-- They come after what is used up before the lines that they may stand on. -/
  after : ∀ (p : Int) (n : Nat), source.Free p n →
    (∀ x ∈ Markdown.extents line tokens, (skip : Int) ≤ x.1 → (n : Int) ≤ x.1) →
      ∀ b ∈ bs, p ≤ b.start
  /-- They follow each other if the tokens do. -/
  order : (Markdown.extents line tokens).Pairwise (fun x y => x.2 ≤ y.1) →
    bs.Pairwise fun b c => b.stop ≤ c.start

section AlignsTo

variable {text : Text} {skip : Nat} {source source' : Source} {tag tag' : String}
  {line line' : Int} {token : Token} {tokens : List Token} {bs : List PlacedBlock}

/-- A token from which no block comes only uses up some of the source, and may tell another tag. -/
theorem AlignsTo.pass (h : AlignsTo text skip source' tag' line' tokens bs)
    (events : (alignFrom skip source tag line (token :: tokens)).filterMap Except.toOption =
      (alignFrom skip source' tag' line' tokens).filterMap Except.toOption)
    (told : tag' = tag ∨ ∃ own, token = .proseOpen tag' own)
    (free : ∀ p n, source.Free p n → source'.Free p n)
    (extents : (Markdown.extents line' tokens).Sublist (Markdown.extents line (token :: tokens))) :
    AlignsTo text skip source tag line (token :: tokens) bs := by
  refine ⟨events.trans h.events, h.stands, ?_, ?_, ?_,
    fun hpairs => h.order (hpairs.sublist extents)⟩
  · intro b hb
    rcases h.tagged b hb with htag | ⟨own, hown⟩
    · rcases told with rfl | ⟨own, rfl⟩
      · exact .inl htag
      · exact .inr ⟨own, htag ▸ List.mem_cons_self⟩
    · exact .inr ⟨own, List.mem_cons_of_mem _ hown⟩
  · intro b hb
    obtain ⟨t, ht, hb⟩ := h.origin b hb
    exact ⟨t, List.mem_cons_of_mem _ ht, hb⟩
  · intro p n hp hn
    exact h.after p n (free p n hp) fun x hx => hn x (extents.subset hx)

/-- A token from which a block comes puts it before the others, and what it uses up after it. -/
theorem AlignsTo.cons {content : Text} {children : List Inline} {own : Option Int}
    {b : PlacedBlock} (h : AlignsTo text skip source' tag line tokens bs)
    (events :
      (alignFrom skip source tag line (.inline content children own :: tokens)).filterMap
        Except.toOption =
      b.events :: (alignFrom skip source' tag line tokens).filterMap Except.toOption)
    (told : (skip : Int) ≤ own.getD line) (stands : b.Stands text) (tagged : b.tag = tag)
    (origin : (Token.IsPlain (.inline content children own) → b.IsPlain) ∧
      (Token.IsShown (.inline content children own) → b.IsShown text))
    (free : ∀ p n, source.Free p n → source'.Free p n)
    (start : ∀ p, source.Free p (own.getD line).toNat → p ≤ b.start)
    (used : source'.Free b.stop ((own.getD line).toNat + content.count '\n')) :
    AlignsTo text skip source tag line (.inline content children own :: tokens) (b :: bs) := by
  refine ⟨?_, List.forall_mem_cons.mpr ⟨stands, h.stands⟩, ?_, ?_, ?_, ?_⟩
  · rw [events, h.events, List.map_cons]
  · refine List.forall_mem_cons.mpr ⟨.inl tagged, fun c hc => ?_⟩
    rcases h.tagged c hc with htag | ⟨own', hown⟩
    · exact .inl htag
    · exact .inr ⟨own', List.mem_cons_of_mem _ hown⟩
  · refine List.forall_mem_cons.mpr ⟨⟨_, List.mem_cons_self, origin⟩, fun c hc => ?_⟩
    obtain ⟨t, ht, hc⟩ := h.origin c hc
    exact ⟨t, List.mem_cons_of_mem _ ht, hc⟩
  · intro p n hp hn
    have hfirst : n ≤ (own.getD line).toNat := by
      have : (n : Int) ≤ own.getD line := hn _ List.mem_cons_self told
      omega
    exact List.forall_mem_cons.mpr ⟨start p (hp.mono hfirst),
      h.after p n (free p n hp) fun x hx => hn x (List.mem_cons_of_mem _ hx)⟩
  · intro hpairs
    obtain ⟨hhead, htail⟩ := List.pairwise_cons.mp hpairs
    -- the others start after the last line of the block, up to which it is used up
    refine List.pairwise_cons.mpr ⟨h.after b.stop _ used fun x hx _ => ?_, h.order htail⟩
    have : own.getD line + content.count '\n' ≤ x.1 := hhead x hx
    omega

end AlignsTo

/-- Aligning the tokens from some place on gives blocks that stand in the source. -/
theorem exists_alignsTo {text : Text} (skip : Nat) : ∀ {tokens : List Token} {source : Source}
    {tag : String} {line : Int}, source.Lies text →
      ∃ bs, AlignsTo text skip source tag line tokens bs := by
  intro tokens
  induction tokens with
  | nil =>
    intro source tag line _
    exact ⟨[], rfl, by simp, by simp, by simp, by simp, by simp⟩
  | cons token tokens ih =>
    intro source tag line hlies
    cases token with
    | proseOpen tag' own =>
      obtain ⟨bs, h⟩ := @ih source tag' (own.getD line) hlies
      exact ⟨bs, h.pass rfl (.inr ⟨own, rfl⟩) (fun _ _ hp => hp) (List.Sublist.refl _)⟩
    | html content own =>
      obtain ⟨bs, h⟩ := @ih source tag (own.getD line) hlies
      exact ⟨bs, h.pass rfl (.inl rfl) (fun _ _ hp => hp) (List.Sublist.refl _)⟩
    | other own =>
      obtain ⟨bs, h⟩ := @ih source tag (own.getD line) hlies
      exact ⟨bs, h.pass rfl (.inl rfl) (fun _ _ hp => hp) (List.Sublist.refl _)⟩
    | inline content children own =>
      have hextents : (Markdown.extents line tokens).Sublist
          (Markdown.extents line (.inline content children own :: tokens)) :=
        List.sublist_cons_self _ _
      by_cases hskip : own.getD line < skip
      · obtain ⟨bs, h⟩ := @ih source tag line hlies
        refine ⟨bs, h.pass ?_ (.inl rfl) (fun _ _ hp => hp) hextents⟩
        rw [alignFrom]
        simp only [hskip, if_true]
      · -- what locating the content does to the source is done even if nothing comes of the block
        have hsource := @snd_alignBlock content children source (own.getD line).toNat tag
        obtain ⟨hlies', hfree⟩ :=
          @Source.locateLines_source text content.lines source (own.getD line).toNat hlies
        rw [← Source.locate, ← hsource] at hlies' hfree
        obtain ⟨bs, h⟩ := @ih _ tag line hlies'
        cases houtcome : (alignBlock source tag (own.getD line).toNat content children).1 with
        | error e =>
          refine ⟨bs, h.pass ?_ (.inl rfl) hfree hextents⟩
          rw [alignFrom]
          simp only [hskip, if_false, houtcome]
          exact List.filterMap_cons_none rfl
        | ok events =>
          obtain ⟨b, rfl, htag, hb, -, hstart, hused, horigin⟩ :=
            exists_of_alignBlock_eq_ok hlies houtcome
          rw [← hsource] at hused
          refine ⟨b :: bs,
            h.cons ?_ (by omega) hb htag (horigin own) hfree hstart hused⟩
          rw [alignFrom]
          simp only [hskip, if_false, houtcome]
          exact List.filterMap_cons_some rfl

/-- The blocks `bs` are those of a document. -/
abbrev BlocksOf (text : Text) (tokens : List Token) (bs : List PlacedBlock) : Prop :=
  AlignsTo text (frontMatterLines text) (Source.ofText text) "paragraph" 0 tokens bs

theorem exists_blocksOf (text : Text) (tokens : List Token) : ∃ bs, BlocksOf text tokens bs :=
  exists_alignsTo (frontMatterLines text) (Source.lies_ofText text)

namespace BlocksOf

variable {text : Text} {tokens : List Token} {bs : List PlacedBlock}

theorem markupEvents_eq (h : BlocksOf text tokens bs) :
    markupEvents text tokens = bs.flatMap PlacedBlock.events := by
  rw [markupEvents, eventsOf_eq_flatten, alignBlocks, h.events, List.flatMap_def]

theorem pairwise (h : BlocksOf text tokens bs) (order : Markdown.InOrder tokens) :
    bs.Pairwise fun b c => b.stop ≤ c.start := h.order order

theorem fits (h : BlocksOf text tokens bs) (plain : ∀ t ∈ tokens, t.IsPlain) :
    ∀ b ∈ bs, b.Fits text := by
  intro b hb
  obtain ⟨t, ht, hplain, -⟩ := h.origin b hb
  exact (h.stands b hb).fits (hplain (plain t ht))

theorem isShown (h : BlocksOf text tokens bs) (shown : ∀ t ∈ tokens, t.IsShown) :
    ∀ b ∈ bs, b.IsShown text := by
  intro b hb
  obtain ⟨t, ht, -, hshown⟩ := h.origin b hb
  exact hshown (shown t ht)

theorem tag_mem (h : BlocksOf text tokens bs) (tagged : ∀ t ∈ tokens, t.IsTagged) :
    ∀ b ∈ bs, b.tag ∈ Event.blockTags := by
  intro b hb
  rcases h.tagged b hb with htag | ⟨own, hown⟩
  · rw [htag]
    decide
  · exact tagged _ hown

end BlocksOf

/-- **The events of a document are those of blocks that stand in it**: each is a group of events
between the start and the end of a block of prose, which cover its range without a gap and none of
which is empty.  Every inline token behind the front matter gives such a group or is left out, and if
they come in document order, so do the groups. -/
theorem markupEvents_groups (text : Text) {tokens : List Token}
    (tagged : ∀ t ∈ tokens, t.IsTagged) :
    ∃ bs : List PlacedBlock, markupEvents text tokens = bs.flatMap PlacedBlock.events ∧
      (∀ b ∈ bs, b.opening.isBlockStart = true ∧ b.closing.isBlockEnd = true ∧ b.Stands text ∧
        b.start ≤ b.stop ∧ ∀ e ∈ b.events, ∃ u, Slice text e.span u) ∧
      bs.length + (skippedOf (alignBlocks text tokens)).length =
        ((Markdown.extents 0 tokens).filter fun x => (frontMatterLines text : Int) ≤ x.1).length ∧
      (Markdown.Consecutive tokens → bs.Pairwise fun b c => b.stop ≤ c.start) := by
  obtain ⟨bs, h⟩ := exists_blocksOf text tokens
  refine ⟨bs, h.markupEvents_eq, fun b hb => ?_, ?_, fun horder => h.pairwise horder.inOrder⟩
  · have htag := h.tag_mem tagged b hb
    have hopening : b.opening.isBlockStart = true := by
      simpa [Event.isBlockStart, Event.isBlock, PlacedBlock.opening] using htag
    have hclosing : b.closing.isBlockEnd = true := by
      simpa [Event.isBlockEnd, Event.isBlock, PlacedBlock.closing] using htag
    have hstands := h.stands b hb
    exact ⟨hopening, hclosing, hstands, hstands.start_le_stop, hstands.slice⟩
  · have hlength : bs.length = ((alignBlocks text tokens).filterMap Except.toOption).length := by
      rw [alignBlocks, h.events, List.length_map]
    rw [hlength, length_skippedOf, alignBlocks, length_alignFrom]

/-- The conclusion of `markupEvents_groups` at a row of three cells, the second of which holds a
token of an unknown sort. -/
theorem markupEvents_groups_cells :
    let row : Text := ['|', 'a', '|', '中', '|', 'c', '|']
    let cells : List Token :=
      [.proseOpen "table_cell" (some 0), .inline ['a'] [.text ['a']] (some 0),
        .proseOpen "table_cell" none, .inline ['中'] [.other ['中']] none,
        .proseOpen "table_cell" none, .inline ['c'] [.text ['c']] none]
    Markdown.Consecutive cells ∧ ∃ bs : List PlacedBlock, bs.length = 2 ∧
      markupEvents row cells = bs.flatMap PlacedBlock.events ∧ (∀ b ∈ bs, b.Stands row) ∧
      bs.Pairwise fun b c => b.stop ≤ c.start := by
  intro row cells
  have htagged : ∀ t ∈ cells, t.IsTagged := by
    simp [cells, Token.IsTagged, Event.blockTags]
  have horder : Markdown.Consecutive cells := by
    simp [Markdown.Consecutive, Markdown.extents, cells]
  obtain ⟨bs, hevents, hbs, hcount, hpairs⟩ := markupEvents_groups row htagged
  have hskipped : (skippedOf (alignBlocks row cells)).length = 1 := rfl
  have htold : ((Markdown.extents 0 cells).filter fun x =>
      (frontMatterLines row : Int) ≤ x.1).length = 3 := rfl
  exact ⟨horder, bs, by omega, hevents, fun b hb => (hbs b hb).2.2.1, hpairs horder⟩

end CjkProse
