import CjkProse.Markdown.Block.Document
import CjkProse.Proofs.Source.Aligned
import Mathlib.Data.List.DropRight

/-!
# The order of the tokens

The blocks of a document are read line by line, and reading never goes back: what is read from a line
on stands on that line or behind it, and before the line that is told to come next.  So the blocks of
a container come one after the other, to any depth of nesting, and the inline tokens of a document
come in document order.

## Main definitions

* `Markdown.OrderedWithin` — tokens in order, that stand between two lines.
* `Markdown.Context.IsCut` — the lines of a container are lines.
* `Markdown.ReadBlocks.IsOrdered` — reading on gives tokens in order.

## Main results

* `Markdown.isOrdered_blockLoop` — a container gives tokens in order if those in it do.
* `Markdown.parse_inOrder` — **the inline tokens of a document come in document order.**
-/

namespace CjkProse

/-! ### Counting line feeds -/

namespace Text

/-- No piece of a text that is cut holds what it is cut at. -/
theorem not_mem_of_mem_splitOn {sep : Char} {p : Text} : ∀ {t : Text}, p ∈ splitOn sep t → sep ∉ p
  | [], h => by
    rw [splitOn, List.mem_singleton] at h
    rw [h]
    exact List.not_mem_nil
  | c :: cs, h => by
    have ih : ∀ q ∈ splitOn sep cs, sep ∉ q := fun q hq => not_mem_of_mem_splitOn hq
    rw [splitOn] at h
    split at h
    · rcases List.mem_cons.mp h with rfl | h
      · exact List.not_mem_nil
      · exact ih p h
    · next hc =>
      obtain ⟨piece, pieces, hpieces⟩ := List.exists_cons_of_ne_nil (splitOn_ne_nil sep cs)
      rw [hpieces] at h ih
      rcases List.mem_cons.mp h with rfl | h
      · intro hmem
        rcases List.mem_cons.mp hmem with rfl | hmem
        · simp at hc
        · exact ih piece List.mem_cons_self hmem
      · exact ih p (List.mem_cons_of_mem _ h)

/-- Lines that are joined have a line feed between each two of them. -/
theorem count_join_le {ts : List Text} (h : ∀ t ∈ ts, '\n' ∉ t) :
    (join ['\n'] ts).count '\n' ≤ ts.length - 1 := by
  induction ts with
  | nil => exact Nat.le_refl 0
  | cons t ts ih =>
    have ht : t.count '\n' = 0 := List.count_eq_zero.mpr (h t List.mem_cons_self)
    cases ts with
    | nil => exact Nat.le_of_eq ht
    | cons u us =>
      have hus := ih fun v hv => h v (List.mem_cons_of_mem _ hv)
      rw [List.length_cons] at hus
      rw [join, List.count_append, List.count_append, ht, List.count_singleton_self,
        List.length_cons, List.length_cons]
      · omega
      · simp

theorem trimBlank_sublist (t : Text) : (trimBlank t).Sublist t :=
  (List.rdropWhile_prefix Unicode.isBlank (trimBlankLeft t)).sublist.trans (List.dropWhile_sublist _)

end Text

namespace Markdown

/-! ### Tokens between two lines -/

/-- The tokens after some others are read as on their own, from the line that these leave. -/
theorem extents_append (tokens rest : List Token) (line : Int) :
    ∃ line', extents line (tokens ++ rest) = extents line tokens ++ extents line' rest := by
  induction tokens generalizing line with
  | nil => exact ⟨line, rfl⟩
  | cons t tokens ih =>
    cases t with
    | inline content children own =>
      obtain ⟨line', hline⟩ := ih line
      refine ⟨line', ?_⟩
      rw [List.cons_append, extents, extents, hline, List.cons_append]
    | proseOpen tag own => exact ih (own.getD line)
    | html content own => exact ih (own.getD line)
    | other own => exact ih (own.getD line)

/-- The inline tokens come in order, and they stand between the line `first` and the line `last`. -/
structure OrderedWithin (first last : Nat) (tokens : List Token) : Prop where
  /-- There are such lines. -/
  le : first ≤ last
  /-- None starts before the one line or ends behind the other. -/
  within : ∀ line, ∀ x ∈ extents line tokens, (first : Int) ≤ x.1 ∧ x.2 ≤ last
  /-- None starts before an earlier one ends. -/
  ordered : ∀ line, (extents line tokens).Pairwise fun x y => x.2 ≤ y.1

namespace OrderedWithin

variable {first last next n : Nat} {tokens rest : List Token}

theorem nil (h : first ≤ last) : OrderedWithin first last [] :=
  ⟨h, by simp [extents], fun _ => .nil⟩

/-- A token that is not inline. -/
theorem cons {t : Token} (ht : ∀ line, ∃ line', extents line (t :: tokens) = extents line' tokens)
    (h : OrderedWithin first last tokens) : OrderedWithin first last (t :: tokens) := by
  refine ⟨h.le, fun line => ?_, fun line => ?_⟩
  · obtain ⟨line', hline⟩ := ht line
    rw [hline]
    exact h.within line'
  · obtain ⟨line', hline⟩ := ht line
    rw [hline]
    exact h.ordered line'

/-- An inline token with a line of its own. -/
theorem inline {content : Text} (children : List Inline) (h : n + content.count '\n' ≤ last) :
    OrderedWithin n last [.inline content children (some n)] := by
  refine ⟨by omega, fun line x hx => ?_, fun line => List.pairwise_singleton _ _⟩
  rw [extents, Option.getD_some, extents, List.mem_singleton] at hx
  subst hx
  exact ⟨Int.le_refl _, by omega⟩

/-- A block of prose whose content ends before the next line. -/
theorem prose {tag : String} {content : Text} (h : n + content.count '\n' ≤ last) :
    OrderedWithin n last (Markdown.prose tag content n) :=
  .cons (fun _ => ⟨_, rfl⟩) (.inline [] h)

/-- Tokens between some lines, and tokens between later ones. -/
theorem append (h : OrderedWithin first next tokens) (h' : OrderedWithin next last rest) :
    OrderedWithin first last (tokens ++ rest) := by
  have hle := h.le
  have hle' := h'.le
  refine ⟨Nat.le_trans hle hle', fun line x hx => ?_, fun line => ?_⟩
  · obtain ⟨line', hline⟩ := extents_append tokens rest line
    rw [hline] at hx
    rcases List.mem_append.mp hx with hx | hx
    · have := h.within line x hx
      omega
    · have := h'.within line' x hx
      omega
  · obtain ⟨line', hline⟩ := extents_append tokens rest line
    rw [hline]
    refine List.pairwise_append.mpr ⟨h.ordered line, h'.ordered line', fun x hx y hy => ?_⟩
    exact Int.le_trans (h.within line x hx).2 (h'.within line' y hy).1

/-- Tokens between some lines stand between lines further apart. -/
theorem mono {first' last' : Nat} (h : OrderedWithin first last tokens) (hfirst : first' ≤ first)
    (hlast : last ≤ last') : OrderedWithin first' last' tokens := by
  have hle := h.le
  refine ⟨by omega, fun line x hx => ?_, h.ordered⟩
  have := h.within line x hx
  omega

end OrderedWithin

/-! ### Lines -/

/-- The lines of a container are lines: nothing in them ends one. -/
def Context.IsCut (ctx : Context) : Prop := ∀ l ∈ ctx.lines, '\n' ∉ l.text

section Lines

variable {ctx : Context} {n m stop : Nat}

theorem Context.IsCut.text_line (h : ctx.IsCut) (n : Nat) : '\n' ∉ (ctx.line n).text := by
  rw [Context.line]
  cases hl : ctx.lines[n]? with
  | none => exact List.not_mem_nil
  | some l => exact h l (List.mem_of_getElem? hl)

theorem Context.IsCut.content_line (h : ctx.IsCut) (n : Nat) : '\n' ∉ (ctx.line n).content :=
  fun hmem => h.text_line n (List.mem_of_mem_drop hmem)

/-- What stands on a line that is not code. -/
theorem Context.eq_content_of_content? {t : Text} (h : ctx.content? n = some t) :
    t = (ctx.line n).content := by
  rw [content?] at h
  split at h
  · cases h
  · exact (Option.some.inj h).symm

/-- The lines of a document are lines. -/
theorem not_mem_of_mem_linesOfTexts {ts : List Text} (h : ∀ t ∈ ts, '\n' ∉ t) :
    ∀ l ∈ linesOfTexts ts, '\n' ∉ l.text := by
  fun_induction linesOfTexts ts with
  | case1 => simp
  | case2 t => simp
  | case3 t => exact List.forall_mem_singleton.mpr (h t List.mem_cons_self)
  | case4 t ts _ ih =>
    refine List.forall_mem_cons.mpr ⟨h t List.mem_cons_self, ih fun u hu => ?_⟩
    exact h u (List.mem_cons_of_mem _ hu)

/-- Cutting columns off puts no line end into a line. -/
theorem not_mem_cutFrom {base : Nat} {indent : Int} {t : Text} {column masked : Nat}
    (h : '\n' ∉ t) : '\n' ∉ Line.cutFrom base indent column masked t := by
  fun_induction Line.cutFrom base indent column masked t with
  | case1 => simp
  | case2 => simpa using h
  | case3 _ _ _ _ _ _ ih => exact ih fun hmem => h (List.mem_cons_of_mem _ hmem)
  | case4 _ _ _ _ _ _ _ ih => exact ih fun hmem => h (List.mem_cons_of_mem _ hmem)
  | case5 => exact h

/-- The content of some lines ends before the line after them. -/
theorem Context.IsCut.count_proseText (h : ctx.IsCut) (hn : n < m) :
    n + (proseText ctx n m).count '\n' ≤ m := by
  have hcut : ∀ t ∈ ((ctx.lines.drop n).take (m - n)).map (Line.cut ctx.indent), '\n' ∉ t := by
    intro t ht
    obtain ⟨l, hl, rfl⟩ := List.mem_map.mp ht
    exact not_mem_cutFrom (h l (List.mem_of_mem_drop (List.mem_of_mem_take hl)))
  have hjoin := Text.count_join_le hcut
  have htrim := (Text.trimBlank_sublist (ctx.join ctx.indent n m)).count_le '\n'
  rw [List.length_map] at hjoin
  have hlength := List.length_take_le (m - n) (ctx.lines.drop n)
  rw [proseText]
  rw [Context.join] at htrim ⊢
  omega

/-! ### Where blocks end -/

theorem le_skipEmpty (ctx : Context) (fuel n : Nat) : n ≤ ctx.skipEmpty fuel n := by
  fun_induction Context.skipEmpty ctx fuel n with
  | case1 => exact Nat.le_refl _
  | case2 _ _ _ ih => omega
  | case3 => exact Nat.le_refl _

theorem le_codeEnd (ctx : Context) (stop fuel n last : Nat) (h : last ≤ n) :
    last ≤ codeEnd ctx stop fuel n last := by
  fun_induction codeEnd ctx stop fuel n last with
  | case1 => exact Nat.le_refl _
  | case2 => exact Nat.le_refl _
  | case3 _ _ _ _ _ ih => exact ih (by omega)
  | case4 fuel n last _ _ _ ih =>
    have := ih (Nat.le_refl _)
    omega
  | case5 => exact Nat.le_refl _

theorem le_fenceEnd (ctx : Context) (fence : Char × Nat) (stop fuel n : Nat) :
    n ≤ fenceEnd ctx fence stop fuel n := by
  fun_induction fenceEnd ctx fence stop fuel n with
  | case1 => exact Nat.le_refl _
  | case2 => exact Nat.le_refl _
  | case3 => omega
  | case4 _ _ _ _ ih => omega

theorem le_htmlEnd (ctx : Context) (e : Html.BlockEnd) (stop fuel n : Nat) :
    n ≤ htmlEnd ctx e stop fuel n := by
  fun_induction htmlEnd ctx e stop fuel n with
  | case1 => exact Nat.le_refl _
  | case2 => exact Nat.le_refl _
  | case3 => exact Nat.le_refl _
  | case4 => omega
  | case5 _ _ _ _ ih => omega

theorem le_of_underlineAt? {fuel : Nat} (h : underlineAt? ctx stop fuel n = some m) : n ≤ m := by
  fun_induction underlineAt? ctx stop fuel n with
  | case1 => cases h
  | case2 => cases h
  | case3 _ _ _ _ _ ih => exact Nat.le_of_succ_le (ih h)
  | case4 =>
    cases h
    exact Nat.le_refl _
  | case5 _ _ _ _ _ _ _ ih => exact Nat.le_of_succ_le (ih h)
  | case6 => cases h
  | case7 _ _ _ _ _ _ _ _ ih => exact Nat.le_of_succ_le (ih h)

theorem le_paragraphEnd (ctx : Context) (what : Interruption) (fuel n : Nat) :
    n ≤ paragraphEnd ctx what fuel n := by
  fun_induction paragraphEnd ctx what fuel n with
  | case1 => exact Nat.le_refl _
  | case2 => exact Nat.le_refl _
  | case3 _ _ _ _ _ ih => omega
  | case4 => exact Nat.le_refl _
  | case5 _ _ _ _ _ _ ih => omega

end Lines

/-! ### Blocks without blocks in them -/

/-- What is read from line `n` on comes in order, before the next line. -/
abbrev Blocks.IsOrdered (n : Nat) (b : Blocks) : Prop := OrderedWithin n b.line b.tokens

/-- Reading from a line on gives tokens in order, before the next line. -/
def ReadBlocks.IsOrdered (inside : ReadBlocks) : Prop :=
  ∀ ctx n stop, ctx.IsCut → (inside ctx n stop).IsOrdered n

section Blocks

variable {ctx : Context} {n stop : Nat}

/-- A block of one token that is not inline. -/
theorem isOrdered_single {t : Token} {n m : Nat} (ht : ∀ line, extents line [t] = []) (h : n ≤ m) :
    (Blocks.single t m).IsOrdered n :=
  .cons (fun line => ⟨line, by rw [ht]; rfl⟩) (.nil h)

theorem isOrdered_htmlAt (ctx : Context) (e : Html.BlockEnd) (n stop : Nat) :
    (htmlAt ctx e n stop).IsOrdered n := by
  refine isOrdered_single (fun _ => rfl) ?_
  have hend := le_htmlEnd ctx e stop (ctx.lines.length + 1) (n + 1)
  split
  · exact Nat.le_succ n
  · exact Nat.le_of_succ_le hend

theorem isOrdered_paragraphAt (cut : ctx.IsCut) : (paragraphAt ctx n stop).IsOrdered n := by
  rw [paragraphAt]
  cases hline : underlineAt? ctx stop (ctx.lines.length + 1) (n + 1) with
  | none =>
    have hend := le_paragraphEnd ctx .paragraph (ctx.lines.length + 1) (n + 1)
    exact .prose (cut.count_proseText (Nat.lt_of_succ_le hend))
  | some m =>
    have hend := le_of_underlineAt? hline
    exact (OrderedWithin.prose (cut.count_proseText (Nat.lt_of_succ_le hend))).mono
      (Nat.le_refl n) (Nat.le_succ m)

theorem isOrdered_of_definitionAt? {blocks : Blocks} (h : definitionAt? ctx n = some blocks) :
    blocks.IsOrdered n := by
  rw [definitionAt?] at h
  split at h
  · cases h
  · dsimp only at h
    split at h
    · cases h
    · cases h
      exact .nil (by dsimp only; omega)

/-! ### Tables -/

/-- The cells of a row stand on its line. -/
theorem orderedWithin_cellTokens {cells : List Text} (h : ∀ c ∈ cells, '\n' ∉ c) (n : Nat) :
    OrderedWithin n n (cellTokens n cells) := by
  induction cells with
  | nil => exact .nil (Nat.le_refl n)
  | cons c cells ih =>
    have hc : (Text.trimBlank c).count '\n' = 0 := List.count_eq_zero.mpr fun hmem =>
      h c List.mem_cons_self ((Text.trimBlank_sublist c).mem hmem)
    have hcell : OrderedWithin n n
        [.proseOpen "table_cell" none, .inline (Text.trimBlank c) [] (some (n : Int))] :=
      .cons (fun _ => ⟨_, rfl⟩) (.inline [] (by omega))
    exact hcell.append (ih fun d hd => h d (List.mem_cons_of_mem _ hd))

/-- Cutting a row at its bars puts no line end into a cell. -/
theorem not_mem_of_mem_splitCells {escaped : Bool} {cell t : Text} (hcell : '\n' ∉ cell)
    (ht : '\n' ∉ t) : ∀ c ∈ splitCells escaped cell t, '\n' ∉ c := by
  induction t generalizing escaped cell with
  | nil =>
    rw [splitCells]
    exact List.forall_mem_singleton.mpr fun hmem => hcell (List.mem_reverse.mp hmem)
  | cons c cs ih =>
    have hcs : '\n' ∉ cs := fun hmem => ht (List.mem_cons_of_mem _ hmem)
    rw [splitCells]
    split
    · split
      · refine ih (fun hmem => ?_) hcs
        rcases List.mem_cons.mp hmem with hbar | hmem
        · cases hbar
        · exact hcell (List.mem_of_mem_drop hmem)
      · refine List.forall_mem_cons.mpr ⟨fun hmem => hcell (List.mem_reverse.mp hmem), ?_⟩
        exact ih List.not_mem_nil hcs
    · refine ih (fun hmem => ?_) hcs
      rcases List.mem_cons.mp hmem with rfl | hmem
      · exact ht List.mem_cons_self
      · exact hcell hmem

/-- The cells of a row hold no line end. -/
theorem not_mem_of_mem_rowCells {t : Text} (h : '\n' ∉ t) : ∀ c ∈ rowCells t, '\n' ∉ c := by
  have hsplit : ∀ c ∈ splitCells false [] t, '\n' ∉ c :=
    not_mem_of_mem_splitCells List.not_mem_nil h
  have hdrop : ∀ (p q : Prop) [Decidable p] [Decidable q] (cells : List Text),
      (if q then (if p then cells.drop 1 else cells).dropLast
        else if p then cells.drop 1 else cells) ⊆ cells := by
    intro p q _ _ cells c hc
    split at hc
    · replace hc := List.dropLast_subset _ hc
      split at hc
      · exact List.mem_of_mem_drop hc
      · exact hc
    · split at hc
      · exact List.mem_of_mem_drop hc
      · exact hc
  exact fun c hc => hsplit c (hdrop _ _ _ hc)

/-- The row on a line holds no line end. -/
theorem Context.IsCut.not_mem_row (cut : ctx.IsCut) (n : Nat) :
    '\n' ∉ Text.trimBlank (ctx.line n).content :=
  fun hmem => cut.content_line n ((Text.trimBlank_sublist _).mem hmem)

theorem orderedWithin_tableRows (cut : ctx.IsCut) (columns stop fuel n : Nat) (missing : Int) :
    OrderedWithin n (tableRows ctx columns stop fuel n missing).2
      (tableRows ctx columns stop fuel n missing).1 := by
  induction fuel generalizing n missing with
  | zero => exact .nil (Nat.le_refl n)
  | succ fuel ih =>
    rw [tableRows]
    dsimp only
    split
    · exact .nil (Nat.le_refl n)
    · split
      · exact .nil (Nat.le_refl n)
      · refine .cons (fun _ => ⟨_, rfl⟩) ?_
        have hcells := not_mem_of_mem_rowCells (cut.not_mem_row n)
        have hrow : ∀ c ∈ (rowCells (Text.trimBlank (ctx.line n).content) ++
            List.replicate (columns - (rowCells (Text.trimBlank (ctx.line n).content)).length)
              []).take columns, '\n' ∉ c := by
          intro c hc
          rcases List.mem_append.mp (List.mem_of_mem_take hc) with hc | hc
          · exact hcells c hc
          · rw [List.eq_of_mem_replicate hc]
            exact List.not_mem_nil
        exact ((orderedWithin_cellTokens hrow n).mono (Nat.le_refl n) (Nat.le_succ n)).append
          (ih (n + 1) _)

/-- The first row of a table is that on its line. -/
theorem eq_rowCells_of_table? {cells : List Text} (h : ctx.table? n stop = some cells) :
    cells = rowCells (Text.trimBlank (ctx.line n).content) := by
  rw [Context.table?] at h
  split at h
  · cases h
  · obtain ⟨second, -, h⟩ := Option.bind_eq_some_iff.mp h
    split at h
    · cases h
    · obtain ⟨columns, -, h⟩ := Option.bind_eq_some_iff.mp h
      obtain ⟨first, hfirst, h⟩ := Option.bind_eq_some_iff.mp h
      dsimp only at h
      split at h
      · cases h
      · split at h
        · cases h
        · rw [← Context.eq_content_of_content? hfirst]
          exact (Option.some.inj h).symm

theorem isOrdered_tableAt (cut : ctx.IsCut) {cells : List Text}
    (h : ctx.table? n stop = some cells) : (tableAt ctx cells n stop).IsOrdered n := by
  have hcells := not_mem_of_mem_rowCells (cut.not_mem_row n)
  rw [← eq_rowCells_of_table? h] at hcells
  have hrow := (orderedWithin_cellTokens hcells n).mono (Nat.le_refl n) (Nat.le_add_right n 2)
  have hrows := orderedWithin_tableRows cut cells.length stop (ctx.lines.length + 1) (n + 2) 0
  exact .cons (fun _ => ⟨_, rfl⟩) (hrow.append hrows)

/-! ### Quotes and lists -/

theorem text_unquote (l : Line) (h : '\n' ∉ l.text) : '\n' ∉ (unquote l).text := by
  have hcontent : '\n' ∉ l.content.drop 1 := fun hmem =>
    h (List.mem_of_mem_drop (List.mem_of_mem_drop hmem))
  rw [unquote]
  generalize l.content.drop 1 = rest at hcontent
  dsimp only
  split
  · exact fun hmem => hcontent (List.mem_cons_of_mem _ hmem)
  · split
    · exact fun hmem => hcontent (List.mem_cons_of_mem _ hmem)
    · exact hcontent
  · exact hcontent

/-- The lines of a quote are lines, and it does not end before it starts. -/
theorem quoteLines_spec (ctx : Context) (stop n : Nat) (blank : Bool) {ls : List Line}
    (h : ∀ l ∈ ls, '\n' ∉ l.text) :
    (∀ l ∈ (quoteLines ctx stop n blank ls).1, '\n' ∉ l.text) ∧
      n ≤ (quoteLines ctx stop n blank ls).2.1 := by
  induction ls generalizing n blank with
  | nil => exact ⟨by simp [quoteLines], Nat.le_refl n⟩
  | cons l ls ih =>
    have hl := h l List.mem_cons_self
    have ih := fun n blank => ih n blank fun m hm => h m (List.mem_cons_of_mem _ hm)
    have hnone : (∀ m ∈ ([] : List Line), '\n' ∉ m.text) ∧ n ≤ n := ⟨by simp, Nat.le_refl n⟩
    rw [quoteLines]
    split
    · exact hnone
    · split
      · obtain ⟨hrest, hle⟩ := ih (n + 1) (unquote l).isEmpty
        exact ⟨List.forall_mem_cons.mpr ⟨text_unquote l hl, hrest⟩, Nat.le_of_succ_le hle⟩
      · split
        · exact hnone
        · split
          · exact ⟨List.forall_mem_singleton.mpr hl, Nat.le_refl n⟩
          · obtain ⟨hrest, hle⟩ := ih (n + 1) blank
            exact ⟨List.forall_mem_cons.mpr ⟨hl, hrest⟩, Nat.le_of_succ_le hle⟩

theorem isOrdered_quoteAt {inside : ReadBlocks} (reads : inside.IsOrdered) (cut : ctx.IsCut) :
    (quoteAt inside ctx n stop).IsOrdered n := by
  obtain ⟨hinner, hle⟩ := quoteLines_spec ctx stop n false
    fun l hl => cut l (List.mem_of_mem_drop hl)
  refine .cons (fun _ => ⟨_, rfl⟩) (reads _ n _ ?_)
  intro l hl
  rcases List.mem_append.mp hl with hl | hl
  · rcases List.mem_append.mp hl with hl | hl
    · exact cut l (List.mem_of_mem_take hl)
    · exact hinner l hl
  · exact cut l (List.mem_of_mem_drop hl)

theorem isOrdered_listItemAt {inside : ReadBlocks} (reads : inside.IsOrdered) (cut : ctx.IsCut)
    (mark : ListMark) (h : n < stop) : (listItemAt inside ctx mark n stop).IsOrdered n := by
  rw [listItemAt]
  dsimp only
  split
  · exact .nil (by dsimp only; omega)
  · refine reads _ n stop fun l hl => ?_
    rcases List.mem_or_eq_of_mem_set hl with hl | rfl
    · exact cut l hl
    · exact cut.text_line n

/-- The items of a list come one after the other. -/
theorem isOrdered_listItems {inside : ReadBlocks} (reads : inside.IsOrdered) (cut : ctx.IsCut)
    (fuel : Nat) (mark : ListMark) (h : n < stop) :
    (listItems inside ctx stop fuel mark n).IsOrdered n := by
  induction fuel generalizing mark n with
  | zero => exact .nil (Nat.le_refl n)
  | succ fuel ih =>
    have hitem := isOrdered_listItemAt reads cut mark h
    rw [listItems]
    dsimp only
    split
    · exact hitem
    · next m hmore =>
      have hnext : (listItemAt inside ctx mark n stop).line < stop := by
        refine Nat.lt_of_not_le fun hle => ?_
        rw [decide_eq_true hle] at hmore
        simp at hmore
      exact hitem.append (ih m hnext)

theorem isOrdered_listAt {inside : ReadBlocks} (reads : inside.IsOrdered) (cut : ctx.IsCut)
    (mark : ListMark) (h : n < stop) : (listAt inside ctx mark n stop).IsOrdered n :=
  .cons (fun _ => ⟨_, rfl⟩) (isOrdered_listItems reads cut _ mark h)

/-! ### All blocks -/

theorem dropTail_sublist (p : Char → Bool) (t : Text) : (dropTail p t).Sublist t :=
  (List.rdropWhile_prefix p t).sublist

/-- What a heading says stands on its line. -/
theorem sublist_of_headingOf? {t content : Text} (h : headingOf? t = some content) :
    content.Sublist t := by
  rw [headingOf?] at h
  dsimp only at h
  split at h
  · cases h
  · obtain rfl := Option.some.inj h
    have hbody := (dropTail_sublist isSpaceOrTab (t.drop (t.takeWhile (· == '#')).length)).trans
      (List.drop_sublist _ t)
    refine (Text.trimBlank_sublist _).trans ?_
    split
    · exact (dropTail_sublist _ _).trans hbody
    · exact hbody

/-- A block gives tokens in order if the containers do that it may be. -/
theorem isOrdered_blockAt {inQuote inList : ReadBlocks} (quotes : inQuote.IsOrdered)
    (lists : inList.IsOrdered) (cut : ctx.IsCut) (h : n < stop) :
    (blockAt inQuote inList ctx n stop).IsOrdered n := by
  rw [blockAt]
  split
  · next cells hcells => exact isOrdered_tableAt cut hcells
  · split
    · have := le_codeEnd ctx stop (ctx.lines.length + 1) (n + 1) (n + 1) (Nat.le_refl _)
      exact isOrdered_single (fun _ => rfl) (by omega)
    · next t ht =>
      split
      · next fence _ =>
        have := le_fenceEnd ctx fence stop (ctx.lines.length + 1) (n + 1)
        exact isOrdered_single (fun _ => rfl) (by omega)
      · split
        · exact isOrdered_quoteAt quotes cut
        · split
          · exact isOrdered_single (fun _ => rfl) (Nat.le_succ n)
          · split
            · next mark _ => exact isOrdered_listAt lists cut mark h
            · split
              · next blocks hblocks => exact isOrdered_of_definitionAt? hblocks
              · split
                · exact isOrdered_htmlAt ctx _ n stop
                · split
                  · next content hcontent =>
                    have hfeed : content.count '\n' = 0 := List.count_eq_zero.mpr fun hmem => by
                      rw [Context.eq_content_of_content? ht] at hcontent
                      exact cut.content_line n ((sublist_of_headingOf? hcontent).mem hmem)
                    exact .prose (by dsimp only; omega)
                  · exact isOrdered_paragraphAt cut

/-- **A container gives tokens in order if those in it do.** -/
theorem isOrdered_blockLoop {inQuote inList : ReadBlocks} (quotes : inQuote.IsOrdered)
    (lists : inList.IsOrdered) (cut : ctx.IsCut) (fuel n stop : Nat) :
    (blockLoop inQuote inList ctx fuel n stop).IsOrdered n := by
  induction fuel generalizing n with
  | zero => exact .nil (Nat.le_refl n)
  | succ fuel ih =>
    rw [blockLoop]
    split
    · exact .nil (Nat.le_refl n)
    · have hskip := le_skipEmpty ctx (ctx.lines.length + 1) n
      dsimp only
      split
      · exact .nil hskip
      · next hend =>
        rw [Bool.or_eq_true, not_or, decide_eq_true_iff, Nat.not_le] at hend
        have hblock := (isOrdered_blockAt quotes lists cut hend.1).mono hskip (Nat.le_refl _)
        refine hblock.append ((ih _).mono ?_ (Nat.le_refl _))
        split
        · exact Nat.le_succ _
        · exact Nat.le_refl _

theorem isOrdered_skipBlocks : skipBlocks.IsOrdered := by
  intro ctx n stop _
  have hskip := le_skipEmpty ctx (ctx.lines.length + 1) n
  rw [skipBlocks]
  split
  · exact .nil (Nat.le_refl n)
  · split
    · exact .nil hskip
    · exact .nil (by dsimp only; omega)

/-- The blocks of a container come in order, to any depth. -/
theorem isOrdered_blocksAt : ∀ depth, (blocksAt depth).IsOrdered
  | 0 => isOrdered_skipBlocks
  | 1 => fun _ n stop cut =>
    isOrdered_blockLoop isOrdered_skipBlocks isOrdered_skipBlocks cut _ n stop
  | depth + 2 => fun _ n stop cut =>
    isOrdered_blockLoop (isOrdered_blocksAt (depth + 1)) (isOrdered_blocksAt depth) cut _ n stop

end Blocks

/-! ### Documents -/

/-- Reading what is within the inline tokens leaves them where they are. -/
theorem extents_withChildren (labels : List Text) (tokens : List Token) (line : Int) :
    extents line (tokens.map (Token.withChildren labels)) = extents line tokens := by
  induction tokens generalizing line with
  | nil => rfl
  | cons t tokens ih =>
    cases t with
    | inline content children own =>
      rw [List.map_cons, Token.withChildren, extents, extents, ih]
    | proseOpen tag own => exact ih (own.getD line)
    | html content own => exact ih (own.getD line)
    | other own => exact ih (own.getD line)

/-- **The inline tokens of a document come in document order.** -/
theorem parse_inOrder (text : Text) : InOrder (parse text) := by
  have hcut : Context.IsCut ⟨linesOf (normalize text), (linesOf (normalize text)).length, 0, -1⟩ :=
    not_mem_of_mem_linesOfTexts fun t ht => Text.not_mem_of_mem_splitOn ht
  have hread := isOrdered_blocksAt maxNesting _ 0 (linesOf (normalize text)).length hcut
  rw [InOrder, parse, extents_withChildren]
  exact hread.ordered 0

end Markdown

end CjkProse
