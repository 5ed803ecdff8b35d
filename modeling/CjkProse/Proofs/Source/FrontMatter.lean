import CjkProse.Proofs.Source.Aligned

/-!
# Front matter

The front matter of a text stands between two fences at its very start.  There may be several
fences to choose from as the second one: it is the first that leaves a line between the two, or else
the one on the second line.  The lines that the reader of a document counts are those of the front
matter, so no block of prose starts before its end.

## Main definitions

* `IsFenced` — a beginning of a text that stands between two fences.
* `IsFrontMatter` — the one that is the front matter.

## Main results

* `IsFrontMatter.lines_eq` — the lines that are counted are those of the front matter.
* `IsFrontMatter.free` — everything from these lines on stands behind the front matter.
* `BlocksOf.after_frontMatter` — **so does every block of a document.**
-/

namespace CjkProse

open Markdown (Token)

/-! ### What front matter is -/

/-- Three hyphens and then nothing but spaces and tabs. -/
def IsHyphens (t : Text) : Prop :=
  ∃ blanks, t = '-' :: '-' :: '-' :: blanks ∧ ∀ c ∈ blanks, c = ' ' ∨ c = '\t'

/-- A line feed, which a carriage return may stand before. -/
def IsLineEnd (t : Text) : Prop := t = ['\n'] ∨ t = ['\r', '\n']

/-- The beginning `front` of `text` has `body` between two lines of hyphens.  The body is empty or
made up of lines; the second line of hyphens ends in a line end, or else at the end of the text. -/
def IsFenced (text front body : Text) : Prop :=
  ∃ opening feed closing last rest, IsHyphens opening ∧ IsLineEnd feed ∧ IsHyphens closing ∧
    (body = [] ∨ ∃ b, body = b ++ ['\n']) ∧ front = opening ++ feed ++ body ++ closing ++ last ∧
    text = front ++ rest ∧ (IsLineEnd last ∨ last = [] ∧ rest = [])

/-- The front matter of a text.  If there is a choice its body is not empty, and as short as it can
be then. -/
def IsFrontMatter (text front : Text) : Prop :=
  ∃ body, IsFenced text front body ∧ ∀ front' body', IsFenced text front' body' → body' ≠ [] →
    body ≠ [] ∧ body.length ≤ body'.length

/-! ### Fences -/

theorem dropWhile_blanks {blanks rest : Text} (h : ∀ c ∈ blanks, c = ' ' ∨ c = '\t')
    (hrest : rest = [] ∨ rest = ['\r']) :
    (blanks ++ rest).dropWhile (fun c => c == ' ' || c == '\t') = rest := by
  rw [List.dropWhile_append_of_pos (by simpa using h)]
  rcases hrest with rfl | rfl <;> rfl

theorem isFence_of_isHyphens {t : Text} (h : IsHyphens t) (ended : Bool) :
    isFence ended t = true := by
  obtain ⟨blanks, rfl, hblanks⟩ := h
  have hdrop := dropWhile_blanks hblanks (.inl rfl)
  rw [List.append_nil] at hdrop
  simp [isFence, Text.dropPrefix?, hdrop]

theorem isFence_of_isHyphens_return {t : Text} (h : IsHyphens t) :
    isFence true (t ++ ['\r']) = true := by
  obtain ⟨blanks, rfl, hblanks⟩ := h
  simp [isFence, Text.dropPrefix?, dropWhile_blanks hblanks (.inr rfl)]

theorem Text.eq_append_of_dropPrefix? {start t rest : Text} (h : dropPrefix? start t = some rest) :
    t = start ++ rest := by
  induction start generalizing t with
  | nil => exact Option.some.inj h
  | cons p ps ih =>
    cases t with
    | nil => cases h
    | cons c cs =>
      rw [dropPrefix?] at h
      split at h
      · next hc => rw [List.cons_append, ← ih h, beq_iff_eq.mp hc]
      · cases h

/-- A fence is a line of hyphens, but for a carriage return. -/
theorem exists_of_isFence {ended : Bool} {line : Text} (h : isFence ended line = true) :
    ∃ t tail, line = t ++ tail ∧ IsHyphens t ∧ (tail = [] ∨ ended = true ∧ tail = ['\r']) := by
  unfold isFence at h
  split at h
  · cases h
  · next rest hrest =>
    obtain rfl := Text.eq_append_of_dropPrefix? hrest
    have hsplit := List.takeWhile_append_dropWhile (p := fun c => c == ' ' || c == '\t') (l := rest)
    refine ⟨['-', '-', '-'] ++ rest.takeWhile fun c => c == ' ' || c == '\t', _,
      by rw [List.append_assoc, hsplit], ⟨_, rfl, fun c hc => ?_⟩, ?_⟩
    · simpa using List.all_eq_true.mp List.all_takeWhile c hc
    · simpa using h

/-! ### The closing fence -/

theorem closingFence_cons {before : Nat} {line : Text} {lines : List Text} (ne : lines ≠ []) :
    closingFence before (line :: lines) =
      if isFence true line then some (before + 1) else closingFence (before + 1) lines := by
  cases lines with
  | nil => exact absurd rfl ne
  | cons next lines => simp [closingFence]

/-- The first fence among some lines is found.  The last of all lines is not ended. -/
theorem closingFence_append {line : Text} {later : List Text}
    (hline : isFence (!later.isEmpty) line = true) (before : Nat) : ∀ {lines : List Text},
    (∀ l ∈ lines, isFence true l = false) →
      closingFence before (lines ++ line :: later) =
        some (before + lines.length + if later.isEmpty then 0 else 1) := by
  intro lines
  induction lines generalizing before with
  | nil =>
    intro _
    cases later with
    | nil => simpa [closingFence] using hline
    | cons l later =>
      have hended : isFence true line = true := hline
      rw [List.nil_append, closingFence_cons (by simp), if_pos hended]
      rfl
  | cons l lines ih =>
    intro hlines
    obtain ⟨hl, hlines⟩ := List.forall_mem_cons.mp hlines
    rw [List.cons_append, closingFence_cons (by simp), hl, ih _ hlines, List.length_cons]
    simp only [Bool.false_eq_true, if_false, Option.some.injEq]
    omega

/-- What is found is a fence. -/
theorem exists_of_closingFence : ∀ {lines : List Text} {before n : Nat},
    closingFence before lines = some n →
      ∃ earlier line later, lines = earlier ++ line :: later ∧
        isFence (!later.isEmpty) line = true := by
  intro lines
  induction lines with
  | nil => intro before n h; cases h
  | cons line lines ih =>
    intro before n h
    cases lines with
    | nil =>
      rw [closingFence] at h
      split at h
      · next hline => exact ⟨[], line, [], rfl, hline⟩
      · cases h
    | cons next lines =>
      rw [closingFence_cons (by simp)] at h
      split at h
      · next hline => exact ⟨[], line, next :: lines, rfl, hline⟩
      · obtain ⟨earlier, l, later, hlines, hl⟩ := ih h
        exact ⟨line :: earlier, l, later, by rw [hlines]; rfl, hl⟩

/-! ### From lines to the text -/

/-- Some lines and then others, each but the last of them ended. -/
theorem Text.join_append_cons {lines : List Text} (ne : lines ≠ []) (line : Text)
    (later : List Text) :
    join ['\n'] (lines ++ line :: later) =
      join ['\n'] lines ++ ['\n'] ++ join ['\n'] (line :: later) := by
  induction lines with
  | nil => exact absurd rfl ne
  | cons l lines ih =>
    cases lines with
    | nil => rfl
    | cons m lines =>
      show l ++ ['\n'] ++ join ['\n'] (m :: lines ++ line :: later) =
        l ++ ['\n'] ++ join ['\n'] (m :: lines) ++ ['\n'] ++ join ['\n'] (line :: later)
      rw [ih (by simp)]
      simp

/-- Lines that start with a fence and go on to another one later than right behind it stand between
these fences. -/
theorem isFenced_of_lines {text first line : Text} {between later : List Text}
    (hlines : text.lines = first :: (between ++ line :: later)) (hfirst : isFence true first = true)
    (ne : between ≠ []) (hline : isFence (!later.isEmpty) line = true) :
    ∃ front, IsFenced text front (Text.join ['\n'] between ++ ['\n']) := by
  have htext : text = first ++ ['\n'] ++ (Text.join ['\n'] between ++ ['\n']) ++
      Text.join ['\n'] (line :: later) := by
    have hjoin := Text.join_lines text
    have hsplit := Text.join_append_cons ne line later
    obtain ⟨l, rest, rfl⟩ := List.exists_cons_of_ne_nil ne
    have hhead : Text.join ['\n'] (first :: (l :: rest ++ line :: later)) =
        first ++ ['\n'] ++ Text.join ['\n'] (l :: rest ++ line :: later) := rfl
    rw [← hjoin, hlines, hhead, hsplit]
    simp
  obtain ⟨opening, tail, rfl, hopening, htail⟩ := exists_of_isFence hfirst
  obtain ⟨closing, last, rfl, hclosing, hlast⟩ := exists_of_isFence hline
  have hfeed : IsLineEnd (tail ++ ['\n']) := by
    rcases htail with rfl | ⟨-, rfl⟩
    · exact .inl rfl
    · exact .inr rfl
  cases later with
  | nil =>
    obtain rfl : last = [] := by simpa using hlast
    exact ⟨_, opening, _, closing, [], [], hopening, hfeed, hclosing, .inr ⟨_, rfl⟩, rfl,
      by simpa [Text.join] using htext, .inr ⟨rfl, rfl⟩⟩
  | cons next later =>
    have hend : IsLineEnd (last ++ ['\n']) := by
      rcases hlast with rfl | ⟨-, rfl⟩
      · exact .inl rfl
      · exact .inr rfl
    exact ⟨_, opening, _, closing, _, Text.join ['\n'] (next :: later), hopening, hfeed, hclosing,
      .inr ⟨_, rfl⟩, rfl, by simpa [Text.join] using htext, .inl hend⟩

/-- If nothing but an empty body can stand between fences, none comes later than the second line. -/
theorem closingFence_eq_none {text first line : Text} {later : List Text}
    (hlines : text.lines = first :: line :: later) (hfirst : isFence true first = true)
    (hempty : ∀ front body, IsFenced text front body → body = []) :
    closingFence 2 later = none := by
  rw [Option.eq_none_iff_forall_ne_some]
  intro n hn
  obtain ⟨earlier, l, later', rfl, hl⟩ := exists_of_closingFence hn
  rw [← List.cons_append] at hlines
  obtain ⟨front, hfront⟩ := isFenced_of_lines hlines hfirst (by simp) hl
  simpa using hempty _ _ hfront

/-- If no shorter body can stand between fences, there is none among the lines of a body but for the
first of them. -/
theorem isFence_eq_false_of_shortest {text first second line : Text} {between later : List Text}
    (hlines : text.lines = first :: (second :: between ++ line :: later))
    (hfirst : isFence true first = true)
    (hshortest : ∀ front body, IsFenced text front body → body ≠ [] →
      (Text.join ['\n'] (second :: between)).length < body.length) :
    ∀ l ∈ between, isFence true l = false := by
  intro l hl
  rw [← Bool.not_eq_true]
  intro hfence
  obtain ⟨earlier, others, rfl⟩ := List.append_of_mem hl
  have hsplit : second :: (earlier ++ l :: others) ++ line :: later =
      second :: earlier ++ l :: (others ++ line :: later) := by simp
  rw [hsplit] at hlines
  have hmore : (others ++ line :: later).isEmpty = false := by simp
  obtain ⟨front, hfront⟩ := isFenced_of_lines hlines hfirst (by simp) (by rwa [hmore])
  have hlength := hshortest _ _ hfront (by simp)
  rw [← List.cons_append, Text.join_append_cons (by simp)] at hlength
  simp at hlength

/-- No line starts before the first one does. -/
theorem Source.le_offset_of_mem_ofLines {lines : List Text} {l : SourceLine} :
    ∀ {offset : Nat}, l ∈ ofLines offset lines → offset ≤ l.offset := by
  induction lines with
  | nil => intro offset h; cases h
  | cons line lines ih =>
    intro offset h
    rcases List.mem_cons.mp h with rfl | h
    · exact Nat.le_refl _
    · have := ih h
      omega

/-! ### Counting lines -/

theorem IsHyphens.feed_not_mem {t : Text} (h : IsHyphens t) : '\n' ∉ t := by
  obtain ⟨blanks, rfl, hblanks⟩ := h
  simp only [List.mem_cons, not_or]
  refine ⟨by decide, by decide, by decide, fun hmem => ?_⟩
  rcases hblanks _ hmem with h | h <;> revert h <;> decide

/-- A line of hyphens and its line end, in front of some text, make up its first line. -/
theorem lines_of_isLineEnd {t feed : Text} (ht : IsHyphens t) (hfeed : IsLineEnd feed)
    (rest : Text) : ∃ first, Text.lines (t ++ feed ++ rest) = first :: Text.lines rest ∧
      isFence true first = true ∧ feed.count '\n' = 1 := by
  rcases hfeed with rfl | rfl
  · refine ⟨t, ?_, isFence_of_isHyphens ht true, rfl⟩
    have hcut := Text.splitOn_append_cons '\n' t rest
    rw [Text.splitOn_of_not_mem ht.feed_not_mem] at hcut
    simpa [Text.lines] using hcut
  · refine ⟨t ++ ['\r'], ?_, isFence_of_isHyphens_return ht, rfl⟩
    have hcut := Text.splitOn_append_cons '\n' (t ++ ['\r']) rest
    have hsingle : '\n' ∉ t ++ ['\r'] := by simpa using ht.feed_not_mem
    rw [Text.splitOn_of_not_mem hsingle] at hcut
    simpa [Text.lines] using hcut

/-- A line of hyphens at which front matter ends makes up a line, which is the last one if nothing
ends it. -/
theorem lines_of_last {t last rest : Text} (ht : IsHyphens t)
    (hlast : IsLineEnd last ∨ last = [] ∧ rest = []) :
    ∃ line later, Text.lines (t ++ last ++ rest) = line :: later ∧
      isFence (!later.isEmpty) line = true ∧
      last.count '\n' = if later.isEmpty then 0 else 1 := by
  rcases hlast with hlast | ⟨rfl, rfl⟩
  · obtain ⟨line, hlines, hline, hcount⟩ := lines_of_isLineEnd ht hlast rest
    have hne : (Text.lines rest).isEmpty = false := by simp [Text.lines_ne_nil]
    exact ⟨line, _, hlines, by rwa [hne], by rw [hne]; exact hcount⟩
  · refine ⟨t, [], ?_, isFence_of_isHyphens ht _, rfl⟩
    simpa [Text.lines] using Text.splitOn_of_not_mem ht.feed_not_mem

namespace IsFrontMatter

variable {text front : Text}

theorem exists_append (h : IsFrontMatter text front) : ∃ rest, text = front ++ rest := by
  obtain ⟨body, ⟨-, -, -, -, rest, -, -, -, -, -, htext, -⟩, -⟩ := h
  exact ⟨rest, htext⟩

/-- **The lines that are counted are those of the front matter.** -/
theorem lines_eq (h : IsFrontMatter text front) : frontMatterLines text = front.count '\n' := by
  obtain ⟨body, ⟨opening, feed, closing, last, rest, hopening, hfeed, hclosing, hbody, rfl, rfl,
    hlast⟩, hshortest⟩ := h
  obtain ⟨first, hlines, hfirst, hfeed⟩ :=
    lines_of_isLineEnd hopening hfeed (body ++ closing ++ last ++ rest)
  obtain ⟨line, later, hlater, hline, hlast⟩ := lines_of_last hclosing hlast
  have htext : Text.lines (opening ++ feed ++ body ++ closing ++ last ++ rest) =
      first :: Text.lines (body ++ closing ++ last ++ rest) := by
    rw [← hlines]
    simp
  have hcount : (opening ++ feed ++ body ++ closing ++ last).count '\n' =
      1 + body.count '\n' + if later.isEmpty then 0 else 1 := by
    simp only [List.count_append, hfeed, hlast, List.count_eq_zero_of_not_mem hopening.feed_not_mem,
      List.count_eq_zero_of_not_mem hclosing.feed_not_mem]
    omega
  rw [hcount]
  rcases hbody with rfl | ⟨b, rfl⟩
  · -- the second line is a fence, and a later one would be preferred to it
    rw [List.nil_append, hlater] at htext
    have hnone : closingFence 2 later = none :=
      closingFence_eq_none htext hfirst fun front' body' hfenced =>
        not_not.mp fun ne => (hshortest front' body' hfenced ne).1 rfl
    have hfound := closingFence_append hline 1 (List.forall_mem_nil _)
    rw [List.nil_append] at hfound
    simp only [frontMatterLines]
    rw [htext]
    simp only [hfirst, if_true, hnone, hfound]
    rfl
  · -- no line before the one that `closing` starts is a fence, or the body would be shorter
    have hbody : Text.lines (b ++ ['\n'] ++ closing ++ last ++ rest) =
        Text.lines b ++ line :: later := by
      have hcut := Text.splitOn_append_cons '\n' b (closing ++ last ++ rest)
      rw [← hlater]
      simpa [Text.lines] using hcut
    obtain ⟨second, between, hb⟩ := List.exists_cons_of_ne_nil (Text.lines_ne_nil b)
    rw [hbody, hb] at htext
    have hnone : ∀ l ∈ between, isFence true l = false := by
      refine isFence_eq_false_of_shortest htext hfirst fun front' body' hfenced ne => ?_
      have hlength := (hshortest front' body' hfenced ne).2
      rw [List.length_append, List.length_singleton] at hlength
      rw [← hb, Text.join_lines]
      exact hlength
    have hfound := closingFence_append hline 2 hnone
    simp only [frontMatterLines]
    rw [htext]
    simp only [List.cons_append, hfirst, if_true, hfound]
    have hlines := Text.length_lines b
    rw [hb, List.length_cons] at hlines
    simp only [List.count_append, List.count_singleton_self]
    omega

/-- **Everything from these lines on stands behind the front matter** if a line feed ends it. -/
theorem free {w : Text} (h : IsFrontMatter text (w ++ ['\n'])) :
    (Source.ofText text).Free (Text.byteLength (w ++ ['\n'])) (frontMatterLines text) := by
  rw [h.lines_eq]
  obtain ⟨rest, rfl⟩ := h.exists_append
  have hcut := Text.splitOn_append_cons '\n' w rest
  intro k l hk hl
  have hlines : Text.lines (w ++ ['\n'] ++ rest) = Text.lines w ++ Text.lines rest := by
    simpa [Text.lines] using hcut
  have hcount : (Source.ofLines 0 (Text.lines w)).length = (w ++ ['\n']).count '\n' := by
    simp [Text.length_lines]
  rw [Source.ofText, hlines, Source.ofLines_append (Text.lines_ne_nil w),
    List.getElem?_append_right (by omega), Text.join_lines] at hl
  have hoffset := Source.le_offset_of_mem_ofLines (List.mem_of_getElem? hl)
  have hfeed : Text.byteLength (w ++ ['\n']) = 0 + Text.byteLength w + 1 := by
    simp [show Char.utf8Size '\n' = 1 by decide]
  rw [hfeed]
  omega

end IsFrontMatter

/-- **Every block of a document stands behind its front matter** if a line feed ends that. -/
theorem BlocksOf.after_frontMatter {text w : Text} {tokens : List Token} {bs : List PlacedBlock}
    (h : BlocksOf text tokens bs) (hfront : IsFrontMatter text (w ++ ['\n'])) :
    ∀ b ∈ bs, (Text.byteLength (w ++ ['\n']) : Int) ≤ b.start :=
  h.after _ _ hfront.free fun _ _ hx => hx

end CjkProse
