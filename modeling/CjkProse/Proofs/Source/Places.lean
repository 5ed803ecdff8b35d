import CjkProse.Proofs.Source.Lines

/-!
# The places of a content

A content is placed in the source when each of its characters has a place at which it stands, and
each of its line ends a place from which a line feed leads to the next one.  Then every stretch of
the content covers a slice of the source, and consecutive stretches touch.

## Main definitions

* `Placed` — the places of a content.

## Main results

* `Placed.slice`, `Placed.slice_text` — what a stretch of the content covers: the stretch itself
  when it holds no line end, and always a visible character if the stretch does.
* `Source.located_of_locate` — **a content that is located is placed**, after everything that is
  used up, and then used up itself.
-/

namespace CjkProse

/-- The characters of a content stand at the given places of `text`, and the last place is where the
content ends. -/
inductive Placed (text : Text) : Text → List Nat → Prop
  /-- The end of a content is a place between two characters. -/
  | nil {p : Nat} (here : Slice text ⟨p, p⟩ []) : Placed text [] [p]
  /-- A character stands at its place. -/
  | char {c : Char} {cs : Text} {p : Nat} {ps : List Nat}
      (here : Slice text ⟨p, (p + c.utf8Size : Nat)⟩ [c])
      (tail : Placed text cs ((p + c.utf8Size) :: ps)) :
      Placed text (c :: cs) (p :: (p + c.utf8Size) :: ps)
  /-- A line end covers what is passed up to the rest of the content. -/
  | lineEnd {cs u : Text} {p q : Nat} {ps : List Nat} (here : Slice text ⟨p, q⟩ u)
      (feed : '\n' ∈ u) (tail : Placed text cs (q :: ps)) : Placed text ('\n' :: cs) (p :: q :: ps)

namespace Placed

variable {text content : Text} {places : List Nat}

theorem atHead (h : Placed text content places) :
    Slice text ⟨places.headD 0, places.headD 0⟩ [] := by
  cases h with
  | nil here => exact here
  | char here _ => exact here.atStart
  | lineEnd here _ _ => exact here.atStart

/-- The rest of a content is placed where it stands. -/
theorem drop (h : Placed text content places) : ∀ {n : Nat}, n ≤ content.length →
    Placed text (content.drop n) (places.drop n) := by
  induction h with
  | nil here =>
    intro n hn
    have : n = 0 := by simpa using hn
    subst this
    exact .nil here
  | char here tail ih =>
    intro n hn
    cases n with
    | zero => exact .char here tail
    | succ n => exact ih (by simpa using hn)
  | lineEnd here feed tail ih =>
    intro n hn
    cases n with
    | zero => exact .lineEnd here feed tail
    | succ n => exact ih (by simpa using hn)

/-- Every stretch of a content covers a slice of the source, which holds a visible character if the
stretch does. -/
theorem slice (h : Placed text content places) : ∀ {n : Nat}, n ≤ content.length →
    ∃ u, Slice text ⟨places.headD 0, (places.drop n).headD 0⟩ u ∧
      ((∃ c ∈ content.take n, isSpace c = false) → ∃ c ∈ u, isSpace c = false) := by
  induction h with
  | nil here =>
    intro n hn
    have : n = 0 := by simpa using hn
    subst this
    exact ⟨[], here, by simp⟩
  | @char c cs p ps here tail ih =>
    intro n hn
    cases n with
    | zero => exact ⟨[], here.atStart, by simp⟩
    | succ n =>
      obtain ⟨u, hu, hvisible⟩ := ih (n := n) (by simpa using hn)
      refine ⟨[c] ++ u, here.append hu, ?_⟩
      rintro ⟨d, hd, hspace⟩
      rw [List.take_succ_cons, List.mem_cons] at hd
      rcases hd with rfl | hd
      · exact ⟨d, by simp, hspace⟩
      · obtain ⟨e, he, hspace⟩ := hvisible ⟨d, hd, hspace⟩
        exact ⟨e, List.mem_append_right _ he, hspace⟩
  | @lineEnd cs v p q ps here feed tail ih =>
    intro n hn
    cases n with
    | zero => exact ⟨[], here.atStart, by simp⟩
    | succ n =>
      obtain ⟨u, hu, -⟩ := ih (n := n) (by simpa using hn)
      exact ⟨v ++ u, here.append hu,
        fun _ => ⟨'\n', List.mem_append_left _ feed, by decide⟩⟩

/-- A stretch of a content is not empty in the source, either. -/
theorem lt (h : Placed text content places) : ∀ {n : Nat}, 0 < n → n ≤ content.length →
    places.headD 0 < (places.drop n).headD 0 := by
  -- a character and a line end each take up some bytes, and what comes after them no fewer
  have hstep : ∀ {content : Text} {p q : Nat} {ps : List Nat}, p < q →
      (∀ {n : Nat}, 0 < n → n ≤ content.length → q < ((q :: ps).drop n).headD 0) →
        ∀ {n : Nat}, n ≤ content.length → p < ((q :: ps).drop n).headD 0 := by
    intro content p q ps hpq ih n hn
    rcases Nat.eq_zero_or_pos n with rfl | hpos
    · exact hpq
    · exact Nat.lt_trans hpq (ih hpos hn)
  induction h with
  | nil _ => intro n hpos hn; simp at hn; omega
  | @char c cs p ps here tail ih =>
    intro n hpos hn
    obtain ⟨n, rfl⟩ := Nat.exists_eq_add_one.mpr hpos
    have hlt : p < p + c.utf8Size := Nat.lt_add_of_pos_right c.utf8Size_pos
    exact hstep hlt ih (by simpa using hn)
  | @lineEnd cs u p q ps here feed tail ih =>
    intro n hpos hn
    obtain ⟨n, rfl⟩ := Nat.exists_eq_add_one.mpr hpos
    have hlt : p < q := by
      have hstop : (q : Int) = p + Text.byteLength u := here.stop_eq
      have hu := Text.byteLength_pos_of_mem feed
      omega
    exact hstep hlt ih (by simpa using hn)

/-- A stretch without a line end stands in the source as it is. -/
theorem slice_text (h : Placed text content places) : ∀ {t : Text}, t <+: content → '\n' ∉ t →
    Slice text ⟨places.headD 0, (places.drop t.length).headD 0⟩ t := by
  induction h with
  | nil here =>
    intro t ht _
    have : t = [] := List.prefix_nil.mp ht
    subst this
    exact here
  | @char c cs p ps here tail ih =>
    intro t ht hfeed
    cases t with
    | nil => exact here.atStart
    | cons d t =>
      obtain ⟨rfl, ht'⟩ := List.cons_prefix_cons.mp ht
      exact here.append (ih ht' fun h => hfeed (List.mem_cons_of_mem _ h))
  | lineEnd here feed tail _ =>
    intro t ht hfeed
    cases t with
    | nil => exact here.atStart
    | cons d t =>
      obtain ⟨rfl, -⟩ := List.cons_prefix_cons.mp ht
      exact absurd List.mem_cons_self hfeed

theorem exists_cons (h : Placed text content places) : ∃ p ps, places = p :: ps := by
  cases h <;> exact ⟨_, _, rfl⟩

theorem getLastD_drop (h : Placed text content places) {n : Nat} (hn : n ≤ content.length) :
    (places.drop n).getLastD 0 = places.getLastD 0 := by
  obtain ⟨q, ps, hq⟩ := (h.drop hn).exists_cons
  have hlen : ¬ places.length ≤ n := by
    intro hle
    rw [List.drop_eq_nil_of_le hle] at hq
    cases hq
  simp [List.getLast?_drop, hlen]

/-- The content ends at the last place. -/
theorem headD_drop_length (h : Placed text content places) :
    (places.drop content.length).headD 0 = places.getLastD 0 := by
  induction h with
  | nil _ => rfl
  | char _ _ ih => simpa using ih
  | lineEnd _ _ _ ih => simpa using ih

end Placed

namespace Source

/-! ### One line of a content -/

theorem offsets_eq_cons (start : Nat) (piece : Text) : ∃ ps, offsets start piece = start :: ps := by
  cases piece with
  | nil => exact ⟨[], rfl⟩
  | cons c cs => exact ⟨_, rfl⟩

/-- A line that stands in the source is placed, and what comes after it from its end on. -/
theorem placed_offsets {text rest : Text} {later : List Nat} : ∀ {piece : Text} {start : Nat},
    Slice text ⟨start, start + Text.byteLength piece⟩ piece →
    Placed text rest ((start + Text.byteLength piece) :: later) →
      Placed text (piece ++ rest) (offsets start piece ++ later) := by
  intro piece
  induction piece with
  | nil => intro start _ htail; exact htail
  | cons c cs ih =>
    intro start h htail
    obtain ⟨hhead, hcs⟩ := h.uncons
    rw [← Int.natCast_add] at hhead hcs
    rw [Text.byteLength_cons, ← Nat.add_assoc] at htail
    have hplaced := ih hcs htail
    obtain ⟨ps, hps⟩ := offsets_eq_cons (start + c.utf8Size) cs
    rw [offsets]
    rw [hps] at hplaced ⊢
    exact .char hhead hplaced

theorem headD_offsets (start : Nat) (piece : Text) : (offsets start piece).headD 0 = start := by
  cases piece <;> rfl

theorem headD_offsets_append (start : Nat) (piece : Text) (later : List Nat) :
    (offsets start piece ++ later).headD 0 = start := by
  obtain ⟨ps, hps⟩ := offsets_eq_cons start piece
  rw [hps]
  rfl

theorem getLastD_offsets (piece : Text) : ∀ start : Nat,
    (offsets start piece).getLastD 0 = start + Text.byteLength piece := by
  induction piece with
  | nil => intro start; rfl
  | cons c cs ih =>
    intro start
    obtain ⟨ps, hps⟩ := offsets_eq_cons (start + c.utf8Size) cs
    have h := ih (start + c.utf8Size)
    rw [offsets, Text.byteLength_cons, ← Nat.add_assoc, ← h, hps]
    rfl

/-! ### All lines of a content -/

/-- A line that is found comes before the others, which are looked for with its own used up. -/
theorem locateLines_cons {source : Source} {n col : Nat} {line : SourceLine} {piece : Text}
    (hline : source[n]? = some line)
    (hcol : Text.findFrom? piece line.used line.text = some col) (pieces : List Text) :
    locateLines source n (piece :: pieces) =
      let (later, source) := locateLines (source.use n (col + piece.length)) (n + 1) pieces
      (later.map (offsets (line.offset + Text.byteLength (line.text.take col)) piece ++ ·),
        source) := by
  rw [locateLines, hline]
  simp only [hcol]
  rw [use]
  generalize locateLines _ (n + 1) pieces = outcome
  obtain ⟨later | later, source'⟩ := outcome <;> rfl

/-- Locating some lines only uses up more of the source. -/
theorem locateLines_source {text : Text} : ∀ {pieces : List Text} {source : Source} {n : Nat},
    Lies text source → Lies text (locateLines source n pieces).2 ∧
      ∀ p m, Free source p m → Free (locateLines source n pieces).2 p m := by
  intro pieces
  induction pieces with
  | nil => intro source n hlies; exact ⟨hlies, fun _ _ h => h⟩
  | cons piece pieces ih =>
    intro source n hlies
    cases hline : source[n]? with
    | none =>
      rw [locateLines, hline]
      exact ⟨hlies, fun _ _ h => h⟩
    | some line =>
      cases hcol : Text.findFrom? piece line.used line.text with
      | none =>
        rw [locateLines, hline]
        simp only [hcol]
        exact ⟨hlies, fun _ _ h => h⟩
      | some col =>
        have hused : line.used ≤ col + piece.length :=
          Nat.le_trans (Text.findFrom?_spec hcol).1 (Nat.le_add_right _ _)
        rw [locateLines_cons hline hcol]
        obtain ⟨hlies', hfree⟩ := ih (n := n + 1) (hlies.use n (col + piece.length))
        exact ⟨hlies', fun p m hp => hfree p m (hp.use hline hused)⟩

/-- What it means that some lines are located from line `n` on. -/
structure Located (text : Text) (source : Source) (n : Nat) (pieces : List Text)
    (places : List Nat) (source' : Source) : Prop where
  /-- The lines are placed. -/
  placed : Placed text (Text.join ['\n'] pieces) places
  /-- They start on line `n`. -/
  first : ∃ l v, source[n]? = some l ∧ Slice text ⟨l.offset, places.headD 0⟩ v
  /-- They start where the source is still free. -/
  after : ∀ p, Free source p n → p ≤ places.headD 0
  /-- They are used up. -/
  used : Free source' (places.getLastD 0) (n + pieces.length - 1)

/-- A line is found at a place of its own, and between its end and that of the line of the source
there is some text. -/
theorem slice_of_findFrom? {text : Text} {source : Source} (h : Lies text source) {n col : Nat}
    {line : SourceLine} {piece : Text} (hline : source[n]? = some line)
    (hcol : Text.findFrom? piece line.used line.text = some col) :
    ∃ rest, line.text = line.text.take col ++ piece ++ rest ∧
      Slice text ⟨line.offset, line.offset + Text.byteLength (line.text.take col)⟩
        (line.text.take col) ∧
      Slice text ⟨(line.offset + Text.byteLength (line.text.take col) : Nat),
        (line.offset + Text.byteLength (line.text.take col) : Nat) + Text.byteLength piece⟩ piece ∧
      Slice text ⟨(line.offset + Text.byteLength (line.text.take col) : Nat) +
        Text.byteLength piece, line.offset + Text.byteLength line.text⟩ rest := by
  obtain ⟨-, rest, hrest⟩ := Text.findFrom?_spec hcol
  refine ⟨rest, hrest, ?_⟩
  have hslice := h.line n line hline
  have hlen : Text.byteLength line.text = Text.byteLength (line.text.take col) +
      Text.byteLength piece + Text.byteLength rest := by
    conv => lhs; rw [hrest]
    simp [Nat.add_assoc]
  generalize line.text.take col = before at hrest hlen
  rw [hlen]
  rw [hlen, hrest] at hslice
  refine ⟨?_, ?_, ?_⟩
  -- what comes before the piece, the piece, and what comes after it
  · rw [show before ++ piece ++ rest = [] ++ before ++ (piece ++ rest) by simp] at hslice
    simpa using hslice.sub
  · simpa using hslice.sub
  · rw [show before ++ piece ++ rest = (before ++ piece) ++ rest ++ [] by simp] at hslice
    simpa [Int.add_assoc] using hslice.sub

section OneLine

variable {text : Text} {source : Source} {n col : Nat} {line : SourceLine} {piece : Text}

/-- A line that is found starts on its line of the source, where this is still free. -/
theorem start_of_findFrom? (hlies : Lies text source) (hline : source[n]? = some line)
    (hcol : Text.findFrom? piece line.used line.text = some col) {places : List Nat}
    (hhead : places.headD 0 = line.offset + Text.byteLength (line.text.take col)) :
    (∃ l v, source[n]? = some l ∧ Slice text ⟨l.offset, places.headD 0⟩ v) ∧
      ∀ p, Free source p n → p ≤ places.headD 0 := by
  obtain ⟨-, -, hbefore, -, -⟩ := slice_of_findFrom? hlies hline hcol
  rw [hhead]
  refine ⟨⟨line, _, hline, hbefore⟩, fun p hp => ?_⟩
  have hused := Text.byteLength_take_mono (Text.findFrom?_spec hcol).1 line.text
  have hfree := hp n line (Nat.le_refl n) hline
  omega

/-- The last line of a content is located where it is found, and its line of the source used up to
its end. -/
theorem located_last (hlies : Lies text source) (hline : source[n]? = some line)
    (hcol : Text.findFrom? piece line.used line.text = some col) :
    Located text source n [piece]
      (offsets (line.offset + Text.byteLength (line.text.take col)) piece)
      (source.use n (col + piece.length)) := by
  obtain ⟨rest, hrest, -, hpiece, -⟩ := slice_of_findFrom? hlies hline hcol
  obtain ⟨hfirst, hfollows⟩ := start_of_findFrom? hlies hline hcol
    (headD_offsets (line.offset + Text.byteLength (line.text.take col)) piece)
  refine ⟨?_, hfirst, hfollows, ?_⟩
  · have hplaced := placed_offsets hpiece (.nil hpiece.atStop)
    simpa [Text.join] using hplaced
  · have hlast : (offsets (line.offset + Text.byteLength (line.text.take col)) piece).getLastD 0 =
        line.offset + Text.byteLength (line.text.take (col + piece.length)) := by
      rw [getLastD_offsets, Text.take_add_length hrest, Text.byteLength_append, Nat.add_assoc]
    rw [hlast]
    exact hlies.free_use hline _

/-- A line of a content is located where it is found, before the lines after it.  The line end covers
the rest of its line of the source, the line feed, and what comes before the content on the next
line. -/
theorem located_cons (hlies : Lies text source) (hline : source[n]? = some line)
    (hcol : Text.findFrom? piece line.used line.text = some col) {next : Text} {pieces : List Text}
    {later : List Nat} {source' : Source}
    (hnext : Located text (source.use n (col + piece.length)) (n + 1) (next :: pieces) later
      source') :
    Located text source n (piece :: next :: pieces)
      (offsets (line.offset + Text.byteLength (line.text.take col)) piece ++ later) source' := by
  obtain ⟨_, -, -, hpiece, hafter⟩ := slice_of_findFrom? hlies hline hcol
  obtain ⟨hfirst, hfollows⟩ := start_of_findFrom? hlies hline hcol
    (headD_offsets_append (line.offset + Text.byteLength (line.text.take col)) piece later)
  obtain ⟨l, v, hl, hv⟩ := hnext.first
  obtain ⟨q, ps, rfl⟩ := hnext.placed.exists_cons
  obtain ⟨l₀, hl₀, rfl⟩ := getElem?_use hl
  have hgap := (hafter.append (hlies.feed n _ _ hline hl₀)).append hv
  have hplaced := placed_offsets hpiece (.lineEnd hgap (by simp) hnext.placed)
  have hjoin : Text.join ['\n'] (piece :: next :: pieces) =
      piece ++ '\n' :: Text.join ['\n'] (next :: pieces) := by simp [Text.join]
  rw [← hjoin] at hplaced
  refine ⟨hplaced, hfirst, hfollows, ?_⟩
  have hlast (places : List Nat) : (places ++ q :: ps).getLastD 0 = (q :: ps).getLastD 0 := by
    simp [List.getLast?_append, List.getLast?_cons]
  have hlen : n + (piece :: next :: pieces).length - 1 = n + 1 + (next :: pieces).length - 1 := by
    simp only [List.length_cons]
    omega
  rw [hlast, hlen]
  exact hnext.used

end OneLine

/-- A content that is located is placed, after everything that is used up, and then used up
itself. -/
theorem located_of_locateLines {text : Text} : ∀ {pieces : List Text} {source source' : Source}
    {n : Nat} {places : List Nat}, pieces ≠ [] →
    locateLines source n pieces = (.ok places, source') → Lies text source →
      Located text source n pieces places source' := by
  intro pieces
  induction pieces with
  | nil => intro source source' n places hne; exact absurd rfl hne
  | cons piece pieces ih =>
    intro source source' n places _ h hlies
    cases hline : source[n]? with
    | none => rw [locateLines, hline] at h; cases h
    | some line =>
      cases hcol : Text.findFrom? piece line.used line.text with
      | none =>
        rw [locateLines, hline] at h
        simp only [hcol] at h
        cases h
      | some col =>
        rw [locateLines_cons hline hcol] at h
        generalize hrec : locateLines (source.use n (col + piece.length)) (n + 1) pieces = outcome
          at h
        obtain ⟨e | later, source₂⟩ := outcome
        · cases h
        cases h
        cases pieces with
        | nil =>
          cases hrec
          simpa using located_last hlies hline hcol
        | cons next pieces =>
          exact located_cons hlies hline hcol
            (ih (by simp) hrec (hlies.use n (col + piece.length)))

/-- **A content that is located is placed.** -/
theorem located_of_locate {text content : Text} {source source' : Source} {n : Nat}
    {places : List Nat} (hlies : Lies text source)
    (h : locate source n content = (.ok places, source')) :
    Located text source n content.lines places source' ∧ Placed text content places := by
  have hlocated := located_of_locateLines (Text.lines_ne_nil content) h hlies
  have hplaced := hlocated.placed
  rw [Text.join_lines] at hplaced
  exact ⟨hlocated, hplaced⟩

end Source

end CjkProse
