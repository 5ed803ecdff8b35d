import CjkProse.Format
import CjkProse.Proofs.Source.Aligned

/-!
# Where a block starts

The tokens tell the lines of a content and not its columns, so a content is looked for on its line,
behind what earlier blocks have used up of it.  It is found where it first stands from there on.
That is its own place unless it also stands before: in the mark of the list item or of the heading
that it belongs to, or in an earlier cell of its row that could not be placed.

## Main definitions

* `Source.usedOn` — the column up to which a line is used up.
* `AlignState` — what is told and used up when some tokens of a document have been aligned.
* `Markdown.InColumns` — the contents on a line stand on it one behind the other.

## Main results

* `alignBlocks_append` — aligning tokens is aligning the first of them, and then the others with what
  is left.
* `AlignState.usedOn_after_le` — contents that stand on a line in order use it up no further than to
  their end.
* `start_eq_iff` — **a content of one line is placed right behind what stands before it on its line
  iff it does not stand there already**, from the column on up to which the line is used up.
* `start_in_marker` — a content that is placed in the mark of its list item.
-/

namespace CjkProse

open Markdown (Inline Token)

/-- Beginnings of a text that take up the same number of bytes are the same. -/
theorem Text.eq_of_byteLength_take_eq {t : Text} {i j : Nat} (hi : i ≤ t.length)
    (hj : j ≤ t.length) (h : byteLength (t.take i) = byteLength (t.take j)) : i = j := by
  have hcut : t.take i ++ t.drop i = t.take j ++ t.drop j := by
    rw [List.take_append_drop, List.take_append_drop]
  have htake := congrArg List.length (eq_of_append_eq_append hcut h).1
  rwa [List.length_take_of_le hi, List.length_take_of_le hj] at htake

/-! ### Using up lines -/

namespace Source

/-- The column up to which line `n` is used up. -/
def usedOn (source : Source) (n : Nat) : Nat := (source[n]?.map SourceLine.used).getD 0

/-- The lines of a source, none of them used up. -/
def unused (source : Source) : Source := source.map fun l => { l with used := 0 }

@[simp] theorem usedOn_unused (source : Source) (n : Nat) : source.unused.usedOn n = 0 := by
  rw [usedOn, unused, List.getElem?_map]
  cases source[n]? <;> rfl

theorem unused_ofLines (lines : List Text) : ∀ offset : Nat,
    unused (ofLines offset lines) = ofLines offset lines := by
  induction lines with
  | nil => intro offset; rfl
  | cons l ls ih => intro offset; exact congrArg (_ :: ·) (ih _)

theorem unused_use (source : Source) (n u : Nat) : (source.use n u).unused = source.unused := by
  refine List.ext_getElem? fun k => ?_
  simp only [unused, use, List.getElem?_map, List.getElem?_modify]
  cases source[k]? with
  | none => rfl
  | some l => by_cases h : n = k <;> simp [h]

/-- A line is what it was before some of it was used up. -/
theorem getElem?_of_unused {source : Source} {n offset : Nat} {l : Text}
    (h : source.unused[n]? = some ⟨offset, l, 0⟩) :
    source[n]? = some ⟨offset, l, source.usedOn n⟩ := by
  rw [unused, List.getElem?_map, Option.map_eq_some_iff] at h
  obtain ⟨⟨offset', l', used⟩, hline, h⟩ := h
  cases h
  rw [usedOn, hline]
  rfl

/-- Lines lie in a text whether they are used up or not. -/
theorem lies_of_unused {text : Text} {source : Source} (h : Lies text source.unused) :
    Lies text source := by
  have hline : ∀ {n : Nat} {l : SourceLine}, source[n]? = some l →
      source.unused[n]? = some { l with used := 0 } := by
    intro n l hl
    rw [unused, List.getElem?_map, hl]
    rfl
  exact ⟨fun n l hl => h.line n { l with used := 0 } (hline hl),
    fun n l m hl hm => h.feed n { l with used := 0 } { m with used := 0 } (hline hl) (hline hm)⟩

/-- Locating some lines leaves the lines of the source what they are, and uses up no other line than
those on which they are looked for. -/
theorem unused_locateLines : ∀ {pieces : List Text} {source : Source} {n : Nat},
    (locateLines source n pieces).2.unused = source.unused ∧
      ∀ k, k < n ∨ n + pieces.length ≤ k →
        (locateLines source n pieces).2.usedOn k = source.usedOn k := by
  intro pieces
  induction pieces with
  | nil => intro source n; exact ⟨rfl, fun _ _ => rfl⟩
  | cons piece pieces ih =>
    intro source n
    cases hline : source[n]? with
    | none =>
      rw [locateLines, hline]
      exact ⟨rfl, fun _ _ => rfl⟩
    | some line =>
      cases hcol : Text.findFrom? piece line.used line.text with
      | none =>
        rw [locateLines, hline]
        simp only [hcol, implies_true, and_self]
      | some col =>
        rw [locateLines_cons hline hcol]
        obtain ⟨hunused, hused⟩ := @ih (source.use n (col + piece.length)) (n + 1)
        refine ⟨hunused.trans (unused_use _ _ _), fun k hk => ?_⟩
        rw [List.length_cons] at hk
        have hne : n ≠ k := by omega
        rw [hused k (by omega)]
        simp [usedOn, use, hne]

/-- A content of one line is placed on its line where it first stands from the column on up to which
the line is used up, and uses it up to its end. -/
theorem locate_of_single {source : Source} {n : Nat} {line : SourceLine} {content : Text}
    (single : '\n' ∉ content) (hline : source[n]? = some line) :
    source.locate n content =
      match Text.findFrom? content line.used line.text with
      | none => (.error (.contentNotFound n), source)
      | some col => (.ok (offsets (line.offset + Text.byteLength (line.text.take col)) content),
          source.use n (col + content.length)) := by
  rw [locate, Text.lines, Text.splitOn_of_not_mem single]
  cases hcol : Text.findFrom? content line.used line.text with
  | none =>
    rw [locateLines, hline]
    simp only [hcol]
  | some col =>
    rw [locateLines_cons hline hcol]
    exact congrArg (fun places => (Except.ok places, source.use n (col + content.length)))
      (List.append_nil _)

/-- A content of one line that still stands on it uses it up no further than to its end there. -/
theorem usedOn_locate_le {source : Source} {n k : Nat} {line : SourceLine} {content : Text}
    (single : '\n' ∉ content) (hline : source[n]? = some line) (hk : line.used ≤ k)
    (stands : content <+: line.text.drop k) :
    (source.locate n content).2.usedOn n ≤ k + content.length := by
  rw [locate_of_single single hline]
  cases hcol : Text.findFrom? content line.used line.text with
  | none =>
    simp only [usedOn, hline, Option.map_some, Option.getD_some]
    omega
  | some col =>
    have hle : col ≤ k := Nat.le_of_not_lt fun hlt =>
      (Text.findFrom?_eq_some_iff.mp hcol).2.2.2 k hk hlt stands
    simpa [usedOn, use, hline] using hle

end Source

/-! ### Aligning a document up to some place -/

/-- What the tokens up to some place leave to those behind it. -/
structure AlignState where
  /-- The lines of the document, with what is used up of them. -/
  source : Source
  /-- The tag last told. -/
  tag : String
  /-- The line last told. -/
  line : Int

/-- The contents told to stand on line `n`, which is `l`, stand on it one behind the other, from
column `i` up to column `j`; no other content reaches it.  The line told before is `line`. -/
def Markdown.InColumns (n : Nat) (l : Text) (j : Nat) : Int → Nat → List Token → Prop
  | _, i, [] => i ≤ j
  | line, i, .inline content _ own :: tokens =>
    (own.getD line + content.count '\n' < n ∨ n < own.getD line) ∧ InColumns n l j line i tokens ∨
      own.getD line = n ∧ '\n' ∉ content ∧
        ∃ k, i ≤ k ∧ content <+: l.drop k ∧ InColumns n l j line (k + content.length) tokens
  | line, i, .proseOpen _ own :: tokens => InColumns n l j (own.getD line) i tokens
  | line, i, .html _ own :: tokens => InColumns n l j (own.getD line) i tokens
  | line, i, .other own :: tokens => InColumns n l j (own.getD line) i tokens

namespace AlignState

/-- What the first token is given. -/
def ofText (text : Text) : AlignState := ⟨Source.ofText text, "paragraph", 0⟩

/-- What is left behind a token. -/
def next (skip : Nat) (s : AlignState) : Token → AlignState
  | .inline content _ own =>
    if own.getD s.line < skip then s
    else { s with source := (s.source.locate (own.getD s.line).toNat content).2 }
  | .proseOpen tag own => { s with tag := tag, line := own.getD s.line }
  | .html _ own => { s with line := own.getD s.line }
  | .other own => { s with line := own.getD s.line }

/-- What is left behind some tokens of a document. -/
def after (text : Text) (tokens : List Token) : AlignState :=
  tokens.foldl (next (frontMatterLines text)) (ofText text)

/-- What becomes of the blocks that come next. -/
def outcomes (skip : Nat) (s : AlignState) (tokens : List Token) : List BlockOutcome :=
  alignFrom skip s.source s.tag s.line tokens

theorem outcomes_append (skip : Nat) (pre post : List Token) : ∀ s : AlignState,
    s.outcomes skip (pre ++ post) =
      s.outcomes skip pre ++ (pre.foldl (next skip) s).outcomes skip post := by
  induction pre with
  | nil => intro s; rfl
  | cons token pre ih =>
    intro s
    rw [List.foldl_cons, List.cons_append]
    cases token with
    | inline content children own =>
      rw [outcomes, outcomes, alignFrom, alignFrom, next]
      split
      · exact ih s
      · rw [← snd_alignBlock]
        exact congrArg (_ :: ·) (ih { s with source := _ })
    | proseOpen tag own => exact ih (s.next skip (.proseOpen tag own))
    | html content own => exact ih (s.next skip (.html content own))
    | other own => exact ih (s.next skip (.other own))

/-- The lines stay what they are. -/
theorem unused_foldl_next (skip : Nat) (tokens : List Token) : ∀ s : AlignState,
    (tokens.foldl (next skip) s).source.unused = s.source.unused := by
  induction tokens with
  | nil => intro s; rfl
  | cons token tokens ih =>
    intro s
    rw [List.foldl_cons, ih]
    cases token with
    | inline content children own =>
      rw [next]
      split
      · rfl
      · exact Source.unused_locateLines.1
    | proseOpen tag own => rfl
    | html content own => rfl
    | other own => rfl

theorem unused_after (text : Text) (tokens : List Token) :
    (after text tokens).source.unused = Source.ofText text :=
  (unused_foldl_next _ tokens _).trans (Source.unused_ofLines _ _)

theorem lies_after (text : Text) (tokens : List Token) : (after text tokens).source.Lies text := by
  refine Source.lies_of_unused ?_
  rw [unused_after]
  exact Source.lies_ofText text

/-- Contents that stand on a line in order use it up no further than to their end. -/
theorem usedOn_foldl_next_le {skip n offset j : Nat} {l : Text} : ∀ {tokens : List Token}
    {s : AlignState} {i : Nat}, s.source.unused[n]? = some ⟨offset, l, 0⟩ →
      s.source.usedOn n ≤ i → Markdown.InColumns n l j s.line i tokens →
        (tokens.foldl (next skip) s).source.usedOn n ≤ j := by
  intro tokens
  induction tokens with
  | nil => intro s i _ hused h; exact Nat.le_trans hused h
  | cons token tokens ih =>
    intro s i hline hused h
    rw [List.foldl_cons]
    cases token with
    | proseOpen tag own => exact ih hline hused h
    | html content own => exact ih hline hused h
    | other own => exact ih hline hused h
    | inline content children own =>
      have hline' : (s.source.locate (own.getD s.line).toNat content).2.unused[n]? =
          some ⟨offset, l, 0⟩ := by
        rw [Source.locate, Source.unused_locateLines.1, hline]
      rw [next]
      rcases h with ⟨hapart, htail⟩ | ⟨hhere, hsingle, k, hik, hstands, htail⟩
      · -- the content does not reach the line
        split
        · exact ih hline hused htail
        · refine @ih { s with source := _ } i hline' ?_ htail
          refine Nat.le_trans (Nat.le_of_eq (Source.unused_locateLines.2 n ?_)) hused
          rw [Text.length_lines]
          omega
      · -- the content stands on it
        split
        · exact ih hline (by omega) htail
        · refine @ih { s with source := _ } (k + content.length) hline' ?_ htail
          have hn : (own.getD s.line).toNat = n := by omega
          rw [hn]
          exact Source.usedOn_locate_le hsingle (Source.getElem?_of_unused hline)
            (Nat.le_trans hused hik) hstands

theorem usedOn_after_le {text l : Text} {tokens : List Token} {n offset j : Nat}
    (hline : (Source.ofText text)[n]? = some ⟨offset, l, 0⟩)
    (h : Markdown.InColumns n l j 0 0 tokens) : (after text tokens).source.usedOn n ≤ j := by
  have hunused : (Source.ofText text).unused = Source.ofText text := Source.unused_ofLines _ _
  refine usedOn_foldl_next_le (s := ofText text) (i := 0) (hunused ▸ hline) ?_ h
  rw [ofText, ← hunused, Source.usedOn_unused]

end AlignState

theorem alignBlocks_append (text : Text) (pre post : List Token) :
    alignBlocks text (pre ++ post) =
      alignBlocks text pre ++ (AlignState.after text pre).outcomes (frontMatterLines text) post :=
  AlignState.outcomes_append _ pre post (.ofText text)

theorem eventsOf_append (xs ys : List BlockOutcome) :
    eventsOf (xs ++ ys) = eventsOf xs ++ eventsOf ys := by
  simp only [eventsOf_eq_flatten, List.filterMap_append, List.flatten_append]

/-! ### The place of a content -/

section ContentStart

variable {text above front content rest below : Text} {pre : List Token}
  {children : List Inline} {own : Option Int} {events : List PlacedEvent}

/-- The block of a content of one line stands where this is found on the line. -/
theorem exists_of_alignBlock_single {source : Source} {line : SourceLine} {n : Nat} {tag : String}
    (lies : source.Lies text) (single : '\n' ∉ content) (hline : source[n]? = some line)
    (h : (alignBlock source tag n content children).1 = .ok events) :
    ∃ (b : PlacedBlock) (col : Nat), events = b.events ∧ b.Stands text ∧
      Text.findFrom? content line.used line.text = some col ∧
      b.start = line.offset + Text.byteLength (line.text.take col) ∧
      b.stop = b.start + Text.byteLength content := by
  obtain ⟨b, rfl, -, hstands, ⟨places, hlocate, hstart, hstop⟩, -⟩ :=
    exists_of_alignBlock_eq_ok lies h
  rw [Source.locate_of_single single hline] at hlocate
  cases hcol : Text.findFrom? content line.used line.text with
  | none => simp only [hcol, reduceCtorEq] at hlocate
  | some col =>
    simp only [hcol, Except.ok.injEq] at hlocate
    subst hlocate
    rw [Source.headD_offsets] at hstart
    rw [Source.getLastD_offsets] at hstop
    exact ⟨b, col, rfl, hstands, rfl, hstart, by omega⟩

/-- A token behind others whose block is aligned is aligned with what those leave. -/
theorem alignBlock_eq_ok_of_append
    (aligned : alignBlocks text (pre ++ [.inline content children own]) =
      alignBlocks text pre ++ [.ok events]) :
    let s := AlignState.after text pre
    (alignBlock s.source s.tag (own.getD s.line).toNat content children).1 = .ok events := by
  intro s
  rw [alignBlocks_append, List.append_cancel_left_eq, AlignState.outcomes, alignFrom] at aligned
  split at aligned
  · cases aligned
  · simpa [alignFrom] using aligned

/-- The block of a token behind others comes behind theirs. -/
theorem markupEvents_append_cons
    (aligned : alignBlocks text (pre ++ [.inline content children own]) =
      alignBlocks text pre ++ [.ok events]) (post : List Token) :
    ∃ later, markupEvents text (pre ++ .inline content children own :: post) =
      markupEvents text pre ++ events ++ later := by
  have happend := alignBlocks_append text (pre ++ [.inline content children own]) post
  rw [List.append_assoc, List.singleton_append, aligned] at happend
  rw [markupEvents, happend, eventsOf_append, eventsOf_append]
  exact ⟨_, congrArg (fun tail => markupEvents text pre ++ tail ++ _) (List.append_nil events)⟩

/-- **A content of one line is placed right behind what stands before it on its line iff it does not
stand there already**, from the column on up to which the contents before it use up the line.  If
those stand on the line in order, this column is not behind the last of them. -/
theorem start_eq_iff (cut : text = above ++ (front ++ content ++ rest) ++ below)
    (begins : above = [] ∨ ∃ w, above = w ++ ['\n']) (ends : below = [] ∨ ∃ w, below = '\n' :: w)
    (single : '\n' ∉ front ++ content ++ rest)
    (told : own.getD (AlignState.after text pre).line = above.count '\n')
    (aligned : alignBlocks text (pre ++ [.inline content children own]) =
      alignBlocks text pre ++ [.ok events]) (post : List Token) :
    let used := (AlignState.after text pre).source.usedOn (above.count '\n')
    ∃ (b : PlacedBlock) (later : List PlacedEvent),
      markupEvents text (pre ++ .inline content children own :: post) =
        markupEvents text pre ++ b.events ++ later ∧
      b.Stands text ∧ b.stop = b.start + Text.byteLength content ∧
      (b.start = Text.byteLength (above ++ front) ↔ used ≤ front.length ∧
        ∀ k, used ≤ k → k < front.length → ¬ content <+: (front ++ content ++ rest).drop k) ∧
      ∀ j, Markdown.InColumns (above.count '\n') (front ++ content ++ rest) j 0 0 pre →
        used ≤ j := by
  intro used
  have hfree : (Source.ofText text)[above.count '\n']? =
      some ⟨Text.byteLength above, front ++ content ++ rest, 0⟩ :=
    cut ▸ Source.getElem?_ofText begins ends single
  have hline : (AlignState.after text pre).source[above.count '\n']? =
      some ⟨Text.byteLength above, front ++ content ++ rest, used⟩ := by
    refine Source.getElem?_of_unused ?_
    rw [AlignState.unused_after, hfree]
  have hsingle : '\n' ∉ content := fun h => single (by simp [h])
  -- the block is where its content is found on the line
  obtain ⟨later, hlater⟩ := markupEvents_append_cons aligned post
  have hblock := alignBlock_eq_ok_of_append aligned
  simp only [told, Int.toNat_natCast] at hblock
  obtain ⟨b, col, rfl, hstands, hcol, hstart, hstop⟩ :=
    exists_of_alignBlock_single (AlignState.lies_after text pre) hsingle hline hblock
  dsimp only at hcol hstart
  have htake : (front ++ content ++ rest).take front.length = front := by simp
  have hwhere : b.start = Text.byteLength (above ++ front) ↔ some col = some front.length := by
    rw [hstart, Text.byteLength_append, Option.some.injEq]
    constructor
    · intro h
      have hle := (Text.findFrom?_eq_some_iff.mp hcol).2.1
      refine Text.eq_of_byteLength_take_eq hle (by simp) ?_
      rw [htake]
      omega
    · rintro rfl
      rw [htake]
      omega
  refine ⟨b, later, hlater, hstands, hstop, ?_, fun j => AlignState.usedOn_after_le hfree⟩
  rw [hwhere, ← hcol, Text.findFrom?_eq_some_iff]
  exact ⟨fun h => ⟨h.1, h.2.2.2⟩, fun h => ⟨h.1, by simp, by simp, h.2⟩⟩

end ContentStart

/-- The conclusion of `start_eq_iff` at the second of two cells with the same content: the first one
uses up the row up to its end. -/
theorem start_eq_iff_cell :
    let row : Text := ['|', 'a', '|', 'a', '|']
    let first : List Token :=
      [.proseOpen "table_cell" (some 0), .inline ['a'] [.text ['a']] (some 0),
        .proseOpen "table_cell" none]
    ∃ (b : PlacedBlock) (later : List PlacedEvent),
      markupEvents row (first ++ [.inline ['a'] [.text ['a']] none]) =
        markupEvents row first ++ b.events ++ later ∧
      b.start = 3 ∧ b.stop = 4 := by
  intro row first
  have haligned : alignBlocks row (first ++ [.inline ['a'] [.text ['a']] none]) =
      alignBlocks row first ++ [.ok [⟨⟨.opening, "table_cell", []⟩, ⟨3, 3⟩⟩,
        ⟨⟨.text, "", ['a']⟩, ⟨3, 4⟩⟩, ⟨⟨.closing, "table_cell", []⟩, ⟨4, 4⟩⟩]] := by rfl
  have hused : (AlignState.after row first).source.usedOn 0 = 2 := by rfl
  have hcut : row = [] ++ (['|', 'a', '|'] ++ ['a'] ++ ['|']) ++ [] := rfl
  obtain ⟨b, later, hevents, -, hstop, hstart, -⟩ :=
    start_eq_iff hcut (.inl rfl) (.inl rfl) (by decide) rfl haligned []
  have hfirst : b.start = 3 := by
    refine hstart.mpr ⟨by decide, fun k hk hlt => ?_⟩
    change (AlignState.after row first).source.usedOn 0 ≤ k at hk
    change k < 3 at hlt
    have hbar : k = 2 := by omega
    subst hbar
    decide
  exact ⟨b, later, hevents, hfirst, by rw [hstop, hfirst]; decide⟩

/-- A content may stand in the mark of its list item.  The item below holds a full stop, and so does
its mark, in which the content is found: the block starts at the second character of the source
instead of at the fourth, and it is the mark that is changed. -/
theorem start_in_marker :
    let source : Text := ['1', '.', ' ', '.']
    Markdown.parse source = [.other (some 0), .proseOpen "paragraph" (some 0),
        .inline ['.'] [.text ['.']] (some 0)] ∧
      markupEvents source (Markdown.parse source) = [⟨⟨.opening, "paragraph", []⟩, ⟨1, 1⟩⟩,
        ⟨⟨.text, "", ['.']⟩, ⟨1, 2⟩⟩, ⟨⟨.closing, "paragraph", []⟩, ⟨2, 2⟩⟩] ∧
      formatText source .default = .ok ['1', '。', ' ', '.'] := by
  intro source
  exact ⟨by decide +kernel, by decide +kernel, Except.eq_ok_of_toOption (by decide +kernel)⟩

end CjkProse
