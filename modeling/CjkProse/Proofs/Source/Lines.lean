import CjkProse.Alignment.Document
import CjkProse.Proofs.Source.Slices

/-!
# The lines of a source

The lines of a source are slices of its text, with a line feed between each two of them.  Blocks use
up the lines from the left, so what a line still has to give starts at the place up to which it is
used up, and this place only moves forward.

## Main definitions

* `Source.Lies` — the lines are those of a text, whatever is used up of them.
* `Source.Free` — from some line on, nothing before a place is left.

## Main results

* `Text.join_lines` — a text is its lines, joined with line feeds.
* `Source.lies_ofText`, `Source.getElem?_ofText` — the lines of a text lie in it, each where it
  stands.
* `Source.Lies.lt` — lines follow each other.
* `Text.findFrom?_eq_some_iff` — a piece is found at the first index at which it stands, from the
  one to look from on.
-/

namespace CjkProse

/-! ### Cutting a text into lines -/

theorem Text.splitOn_ne_nil (sep : Char) (t : Text) : splitOn sep t ≠ [] := by
  cases t with
  | nil => simp [splitOn]
  | cons c cs =>
    rw [splitOn]
    split
    · simp
    · split <;> simp

/-- A text is its pieces, joined with what they were cut at. -/
theorem Text.join_splitOn (sep : Char) (t : Text) : join [sep] (splitOn sep t) = t := by
  induction t with
  | nil => rfl
  | cons c cs ih =>
    rw [splitOn]
    have hne := splitOn_ne_nil sep cs
    generalize splitOn sep cs = pieces at ih hne
    obtain ⟨piece, pieces, rfl⟩ := List.exists_cons_of_ne_nil hne
    split
    · next hc =>
      simp only [beq_iff_eq] at hc
      rw [hc, ← ih]
      rfl
    · rw [← ih]
      cases pieces <;> rfl

theorem Text.join_lines (t : Text) : join ['\n'] t.lines = t := join_splitOn '\n' t

theorem Text.lines_ne_nil (t : Text) : t.lines ≠ [] := splitOn_ne_nil '\n' t

/-- There is one piece more than there are places to cut at. -/
theorem Text.length_splitOn (sep : Char) (t : Text) :
    (splitOn sep t).length = t.count sep + 1 := by
  induction t with
  | nil => rfl
  | cons c cs ih =>
    rw [splitOn, List.count_cons]
    have hne := splitOn_ne_nil sep cs
    generalize splitOn sep cs = pieces at ih hne
    obtain ⟨piece, pieces, rfl⟩ := List.exists_cons_of_ne_nil hne
    split
    · rw [List.length_cons, ih]
    · simpa using ih

theorem Text.length_lines (t : Text) : t.lines.length = t.count '\n' + 1 := length_splitOn '\n' t

/-- A text with nothing to cut at is one piece. -/
theorem Text.splitOn_of_not_mem {sep : Char} {t : Text} (h : sep ∉ t) : splitOn sep t = [t] := by
  induction t with
  | nil => rfl
  | cons c cs ih =>
    rw [List.mem_cons, not_or] at h
    have hc : (c == sep) = false := beq_false_of_ne (Ne.symm h.1)
    simp [splitOn, hc, ih h.2]

/-- What stands before a place to cut at and what stands behind it are cut one after the other. -/
theorem Text.splitOn_append_cons (sep : Char) (s t : Text) :
    splitOn sep (s ++ sep :: t) = splitOn sep s ++ splitOn sep t := by
  induction s with
  | nil => simp [splitOn]
  | cons c cs ih =>
    obtain ⟨piece, pieces, h⟩ := List.exists_cons_of_ne_nil (splitOn_ne_nil sep cs)
    rw [List.cons_append, splitOn, splitOn, ih, h]
    split <;> rfl

/-! ### Finding a piece -/

theorem Text.byteLength_take_le (i : Nat) (t : Text) : byteLength (t.take i) ≤ byteLength t := by
  have h := byteLength_append (t.take i) (t.drop i)
  rw [List.take_append_drop] at h
  omega

theorem Text.byteLength_take_mono {i j : Nat} (hij : i ≤ j) (t : Text) :
    byteLength (t.take i) ≤ byteLength (t.take j) := by
  have h := byteLength_take_le i (t.take j)
  rwa [List.take_take, Nat.min_eq_left hij] at h

theorem Text.take_add_length {piece rest t : Text} {i : Nat}
    (h : t = t.take i ++ piece ++ rest) : t.take (i + piece.length) = t.take i ++ piece := by
  have hdrop : t.drop i = piece ++ rest := by
    refine (List.append_right_inj (t.take i)).mp ?_
    rw [List.take_append_drop, ← List.append_assoc]
    exact h
  rw [List.take_add, hdrop, List.take_left]

/-- A piece is found at the first index at which it stands. -/
theorem Text.find?_eq_some_iff {piece : Text} : ∀ {t : Text} {i : Nat},
    find? piece t = some i ↔ piece <+: t.drop i ∧ ∀ k, k < i → ¬ piece <+: t.drop k := by
  intro t
  induction t with
  | nil =>
    intro i
    simp only [find?, List.isEmpty_iff, List.drop_nil, List.prefix_nil]
    split
    · next hpiece =>
      simp only [Option.some.injEq, hpiece, not_true_eq_false, true_and]
      exact ⟨fun h k hk => by omega, fun h => Nat.le_antisymm (Nat.zero_le i)
        (Nat.le_of_not_lt fun hi => h 0 hi)⟩
    · next hpiece => simp [hpiece]
  | cons c cs ih =>
    intro i
    rw [find?]
    split
    · next hbegins =>
      have hhere := List.isPrefixOf_iff_prefix.mp hbegins
      rw [Option.some.injEq]
      constructor
      · rintro rfl
        exact ⟨hhere, fun k hk => by omega⟩
      · exact fun h => Nat.le_antisymm (Nat.zero_le i) (Nat.le_of_not_lt fun hi => h.2 0 hi hhere)
    · next hbegins =>
      have hhere : ¬ piece <+: c :: cs := fun h => hbegins (List.isPrefixOf_iff_prefix.mpr h)
      cases i with
      | zero => simp [hhere]
      | succ i =>
        simp only [Option.map_eq_some_iff, Nat.add_right_cancel_iff, exists_eq_right, ih,
          List.drop_succ_cons]
        refine and_congr_right fun _ => ⟨fun h k hk => ?_, fun h k hk => ?_⟩
        · cases k with
          | zero => exact hhere
          | succ k => exact h k (by omega)
        · exact h (k + 1) (by omega)

/-- A piece is found at the first index at which it stands, from the one to look from on. -/
theorem Text.findFrom?_eq_some_iff {piece t : Text} {start i : Nat} :
    findFrom? piece start t = some i ↔ start ≤ i ∧ i ≤ t.length ∧ piece <+: t.drop i ∧
      ∀ k, start ≤ k → k < i → ¬ piece <+: t.drop k := by
  rw [findFrom?]
  split
  · next hstart =>
    simp only [Option.map_eq_some_iff, find?_eq_some_iff, List.drop_drop]
    constructor
    · rintro ⟨j, ⟨hj, hfirst⟩, rfl⟩
      have hle : start + j ≤ t.length := by
        -- behind the end nothing stands that does not stand at the end already
        refine Nat.le_of_not_lt fun hlt => hfirst (t.length - start) (by omega) ?_
        rw [List.drop_eq_nil_of_le (by omega)] at hj ⊢
        exact hj
      refine ⟨Nat.le_add_right _ _, hle, hj, fun k hk hlt => ?_⟩
      have h := hfirst (k - start) (by omega)
      rwa [Nat.add_sub_cancel' hk] at h
    · rintro ⟨hle, -, hi, hfirst⟩
      refine ⟨i - start, ⟨?_, fun k hk => hfirst _ (by omega) (by omega)⟩, by omega⟩
      rwa [Nat.add_sub_cancel' hle]
  · next hstart =>
    simp only [reduceCtorEq, false_iff]
    rintro ⟨hle, hlen, -⟩
    omega

/-- A piece that is found stands there, and not before the place to look from. -/
theorem Text.findFrom?_spec {piece t : Text} {start i : Nat}
    (h : findFrom? piece start t = some i) :
    start ≤ i ∧ ∃ rest, t = t.take i ++ piece ++ rest := by
  obtain ⟨hle, -, ⟨rest, hrest⟩, -⟩ := findFrom?_eq_some_iff.mp h
  exact ⟨hle, rest, by rw [List.append_assoc, hrest, List.take_append_drop]⟩

/-! ### Lines of a source -/

namespace Source

/-- The lines of the source are those of `text`, with a line feed after each but the last. -/
structure Lies (text : Text) (source : Source) : Prop where
  /-- Every line is a slice. -/
  line : ∀ (n : Nat) (l : SourceLine), source[n]? = some l →
    Slice text ⟨l.offset, l.offset + Text.byteLength l.text⟩ l.text
  /-- Two lines are separated by a line feed. -/
  feed : ∀ (n : Nat) (l m : SourceLine), source[n]? = some l → source[n + 1]? = some m →
    Slice text ⟨l.offset + Text.byteLength l.text, m.offset⟩ ['\n']

theorem lies_ofLines {text : Text} : ∀ (lines : List Text) (before : Text),
    text = before ++ Text.join ['\n'] lines →
      Lies text (ofLines (Text.byteLength before) lines) := by
  intro lines
  induction lines with
  | nil => intro before _; exact ⟨by simp [ofLines], by simp [ofLines]⟩
  | cons l ls ih =>
    intro before htext
    have hfeed : Char.utf8Size '\n' = 1 := by decide
    cases ls with
    | nil =>
      refine ⟨?_, by simp [ofLines]⟩
      intro n l' hl'
      cases n with
      | zero =>
        simp only [ofLines, List.getElem?_cons_zero, Option.some.injEq] at hl'
        subst hl'
        exact ⟨before, [], by simpa [Text.join] using htext, rfl⟩
      | succ n => simp [ofLines] at hl'
    | cons m ms =>
      -- the lines after the first one start behind its line feed
      have hrest := ih (before ++ l ++ ['\n']) (by simpa [Text.join] using htext)
      simp only [Text.byteLength_append, Text.byteLength_cons, Text.byteLength_nil, hfeed,
        Nat.add_zero] at hrest
      rw [ofLines]
      refine ⟨?_, ?_⟩
      · intro n l' hl'
        cases n with
        | zero =>
          simp only [List.getElem?_cons_zero, Option.some.injEq] at hl'
          subst hl'
          exact ⟨before, ['\n'] ++ Text.join ['\n'] (m :: ms), by simpa [Text.join] using htext,
            rfl⟩
        | succ n => exact hrest.line n l' hl'
      · intro n l' m' hl' hm'
        cases n with
        | zero =>
          simp only [List.getElem?_cons_zero, Option.some.injEq, ofLines, Nat.zero_add,
            List.getElem?_cons_succ] at hl' hm'
          subst hl' hm'
          refine ⟨before ++ l, Text.join ['\n'] (m :: ms), by simpa [Text.join] using htext, ?_⟩
          simp [hfeed]
        | succ n => exact hrest.feed n l' m' hl' hm'

/-- The lines of a text lie in it. -/
theorem lies_ofText (text : Text) : Lies text (ofText text) :=
  lies_ofLines text.lines [] (Text.join_lines text).symm

@[simp] theorem length_ofLines (lines : List Text) : ∀ offset : Nat,
    (ofLines offset lines).length = lines.length := by
  induction lines with
  | nil => intro offset; rfl
  | cons l ls ih => intro offset; simp [ofLines, ih]

/-- The lines after some others start behind them and their last line feed. -/
theorem ofLines_append {lines : List Text} (ne : lines ≠ []) (later : List Text) :
    ∀ offset : Nat, ofLines offset (lines ++ later) =
      ofLines offset lines ++
        ofLines (offset + Text.byteLength (Text.join ['\n'] lines) + 1) later := by
  have hfeed : Char.utf8Size '\n' = 1 := by decide
  induction lines with
  | nil => exact absurd rfl ne
  | cons l ls ih =>
    intro offset
    cases ls with
    | nil => rfl
    | cons m ms =>
      have hrest := ih (by simp) (offset + Text.byteLength l + 1)
      rw [List.cons_append, ofLines, hrest]
      simp [ofLines, Text.join, hfeed, Nat.add_assoc, Nat.add_left_comm]

/-- A line of a text starts behind what comes before it, and none of it is used up. -/
theorem getElem?_ofText {u l v : Text} (begins : u = [] ∨ ∃ w, u = w ++ ['\n'])
    (ends : v = [] ∨ ∃ w, v = '\n' :: w) (single : '\n' ∉ l) :
    (ofText (u ++ l ++ v))[u.count '\n']? = some ⟨Text.byteLength u, l, 0⟩ := by
  have hhead : ∀ offset, (ofLines offset (Text.lines (l ++ v)))[0]? = some ⟨offset, l, 0⟩ := by
    intro offset
    rcases ends with rfl | ⟨w, rfl⟩
    · rw [List.append_nil, Text.lines, Text.splitOn_of_not_mem single]
      rfl
    · rw [Text.lines, Text.splitOn_append_cons, Text.splitOn_of_not_mem single]
      rfl
  rcases begins with rfl | ⟨w, rfl⟩
  · exact hhead 0
  · have hcut : Text.lines (w ++ ['\n'] ++ l ++ v) = w.lines ++ Text.lines (l ++ v) := by
      simpa [Text.lines] using Text.splitOn_append_cons '\n' w (l ++ v)
    have hcount : (w ++ ['\n']).count '\n' = (ofLines 0 w.lines).length + 0 := by
      simp [Text.length_lines]
    rw [ofText, hcut, ofLines_append (Text.lines_ne_nil w), hcount,
      List.getElem?_append_right (Nat.le_add_right _ _), Nat.add_sub_cancel_left, hhead,
      Text.join_lines, Text.byteLength_append]
    simp [show Char.utf8Size '\n' = 1 by decide]

/-- Lines follow each other. -/
theorem Lies.lt {text : Text} {source : Source} (h : Lies text source) {n m : Nat}
    {l k : SourceLine} (hl : source[n]? = some l) (hk : source[m]? = some k) (hnm : n < m) :
    l.offset + Text.byteLength l.text < k.offset := by
  induction m generalizing k with
  | zero => omega
  | succ m ih =>
    have hm : m < source.length := by
      have := (List.getElem?_eq_some_iff.mp hk).1
      omega
    have hprev : source[m]? = some source[m] := List.getElem?_eq_getElem hm
    have hfeed := (h.feed m _ _ hprev hk).stop_eq
    have hsize : Text.byteLength ['\n'] = 1 := by decide
    simp only [hsize] at hfeed
    rcases Nat.lt_or_eq_of_le (Nat.le_of_lt_succ hnm) with hlt | rfl
    · have := ih hprev hlt
      omega
    · rw [hl] at hprev
      cases hprev
      omega

/-! ### Using up a line -/

/-- The source with the first `u` characters of line `n` used up. -/
def use (source : Source) (n u : Nat) : Source :=
  source.modify n fun l => { l with used := u }

theorem getElem?_use {source : Source} {n u k : Nat} {l : SourceLine}
    (h : (source.use n u)[k]? = some l) :
    ∃ l₀, source[k]? = some l₀ ∧ l = { l₀ with used := if n = k then u else l₀.used } := by
  rw [use, List.getElem?_modify] at h
  obtain ⟨l₀, hl₀, hl⟩ := Option.map_eq_some_iff.mp h
  refine ⟨l₀, hl₀, ?_⟩
  rw [← hl]
  split <;> rfl

/-- What is used up of the lines does not matter to where they lie. -/
theorem Lies.use {text : Text} {source : Source} (h : Lies text source) (n u : Nat) :
    Lies text (source.use n u) := by
  refine ⟨?_, ?_⟩
  · intro k l hl
    obtain ⟨l₀, hl₀, rfl⟩ := getElem?_use hl
    exact h.line k l₀ hl₀
  · intro k l m hl hm
    obtain ⟨l₀, hl₀, rfl⟩ := getElem?_use hl
    obtain ⟨m₀, hm₀, rfl⟩ := getElem?_use hm
    exact h.feed k l₀ m₀ hl₀ hm₀

/-- From line `n` on, everything that is not used up comes after the place `p`. -/
def Free (source : Source) (p : Int) (n : Nat) : Prop :=
  ∀ (k : Nat) (l : SourceLine), n ≤ k → source[k]? = some l →
    p ≤ l.offset + Text.byteLength (l.text.take l.used)

theorem Free.mono {source : Source} {p : Int} {n m : Nat} (h : Free source p n) (hnm : n ≤ m) :
    Free source p m := fun k l hk hl => h k l (Nat.le_trans hnm hk) hl

/-- Using up more of a line leaves it free. -/
theorem Free.use {source : Source} {p : Int} {n : Nat} (h : Free source p n) {k u : Nat}
    {l : SourceLine} (hl : source[k]? = some l) (hu : l.used ≤ u) : Free (source.use k u) p n := by
  intro j l' hj hl'
  obtain ⟨l₀, hl₀, rfl⟩ := getElem?_use hl'
  have hp := h j l₀ hj hl₀
  by_cases hkj : k = j
  · subst hkj
    rw [hl] at hl₀
    cases hl₀
    have := Text.byteLength_take_mono hu l.text
    simp only [if_true]
    omega
  · simpa [hkj] using hp

/-- What is used up of a line comes before everything that is left from that line on. -/
theorem Lies.free_use {text : Text} {source : Source} (h : Lies text source) {n : Nat}
    {line : SourceLine} (hline : source[n]? = some line) (u : Nat) :
    Free (source.use n u) (line.offset + Text.byteLength (line.text.take u) : Nat) n := by
  intro k l hk hl
  obtain ⟨l₀, hl₀, rfl⟩ := getElem?_use hl
  rcases Nat.lt_or_eq_of_le hk with hlt | rfl
  · have hnext := h.lt hline hl₀ hlt
    have hle := Text.byteLength_take_le u line.text
    dsimp only
    omega
  · rw [hline] at hl₀
    cases hl₀
    simp

end Source

end CjkProse
