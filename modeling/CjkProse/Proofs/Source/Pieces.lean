import CjkProse.Alignment.Inline

/-!
# The pieces of a content

The walk over a content never goes past its end, so the pieces that it is cut into follow each other
without a gap and make up the whole content.  No piece is empty; a piece of text is that text; and no
piece starts or ends a block.

## Main definitions

* `Pieces` — events that make up a content, one after the other.

## Main results

* `placeToken_spec` — what a single token covers.
* `pieces_of_placeInline` — **the pieces of a content make it up.**
-/

namespace CjkProse

open Markdown (Inline)

theorem Except.exists_of_bind_eq_ok {ε α β : Type} {x : Except ε α} {f : α → Except ε β} {b : β}
    (h : x >>= f = .ok b) : ∃ a, x = .ok a ∧ f a = .ok b := by
  cases x with
  | error e => cases h
  | ok a => exact ⟨a, rfl, h⟩

theorem Except.exists_of_map_eq_ok {ε α β : Type} {x : Except ε α} {f : α → β} {b : β}
    (h : f <$> x = .ok b) : ∃ a, x = .ok a ∧ f a = b := by
  cases x with
  | error e => cases h
  | ok a => cases h; exact ⟨a, rfl, rfl⟩

theorem Except.eq_ok_of_toOption {ε α : Type} {x : Except ε α} {a : α}
    (h : x.toOption = some a) : x = .ok a := by
  cases x with
  | error e => cases h
  | ok b => cases h; rfl

/-! ### The lengths of tokens -/

section Lengths

variable {content markup : Text} {pos n : Nat}

theorem expect_spec (h : expect markup pos content = .ok n) :
    markup <+: content ∧ n = markup.length ∧ markup ≠ [] := by
  rw [expect] at h
  split at h
  · next hmarkup =>
    cases h
    simp only [Bool.and_eq_true, Bool.not_eq_true', List.isEmpty_eq_false_iff] at hmarkup
    exact ⟨List.isPrefixOf_iff_prefix.mp hmarkup.2, rfl, hmarkup.1⟩
  · cases h

theorem expect_le (h : expect markup pos content = .ok n) : n ≤ content.length := by
  obtain ⟨hbegins, rfl, -⟩ := expect_spec h
  exact hbegins.length_le

theorem expect_pos (h : expect markup pos content = .ok n) : 0 < n := by
  obtain ⟨-, rfl, hne⟩ := expect_spec h
  exact List.length_pos_iff.mpr hne

theorem blanks_le (content : Text) : blanks content ≤ content.length :=
  (List.takeWhile_sublist _).length_le

theorem breakLength_le (h : breakLength pos content = .ok n) : n ≤ content.length := by
  have hdrop := List.length_drop (i := blanks content) (l := content)
  have hblanks := blanks_le content
  rw [breakLength] at h
  split at h
  · next rest hrest =>
    cases h
    rw [hrest, List.length_cons, List.length_cons] at hdrop
    have := blanks_le rest
    omega
  · next rest hrest =>
    cases h
    rw [hrest, List.length_cons] at hdrop
    have := blanks_le rest
    omega
  · cases h

theorem breakLength_pos (h : breakLength pos content = .ok n) : 0 < n := by
  rw [breakLength] at h
  split at h
  · cases h; omega
  · cases h; omega
  · cases h

theorem backtickRunEnd_le {width : Nat} : ∀ {content : Text} {run n : Nat},
    backtickRunEnd width run content = some n → n ≤ content.length := by
  intro content
  induction content with
  | nil =>
    intro run n h
    rw [backtickRunEnd] at h
    split at h
    · cases h; exact Nat.le_refl 0
    · cases h
  | cons c cs ih =>
    intro run n h
    rw [backtickRunEnd.eq_def] at h
    split at h
    · next heq =>
      cases heq
      obtain ⟨m, hm, rfl⟩ := Option.map_eq_some_iff.mp h
      exact Nat.succ_le_succ (ih hm)
    · next heq => cases heq
    · next heq =>
      cases heq
      split at h
      · cases h; exact Nat.zero_le _
      · obtain ⟨m, hm, rfl⟩ := Option.map_eq_some_iff.mp h
        exact Nat.succ_le_succ (ih hm)

theorem codeLength_le (h : codeLength markup pos content = .ok n) : n ≤ content.length := by
  obtain ⟨start, hstart, h⟩ := Except.exists_of_bind_eq_ok h
  split at h
  · next m hm =>
    cases h
    have hle := backtickRunEnd_le hm
    have hstart' := expect_le hstart
    rw [List.length_drop] at hle
    omega
  · cases h

theorem codeLength_pos (h : codeLength markup pos content = .ok n) : 0 < n := by
  obtain ⟨start, hstart, h⟩ := Except.exists_of_bind_eq_ok h
  have hpos := expect_pos hstart
  split at h
  · cases h; omega
  · cases h

/-- Unless the run that is looked for is already there, some backtick comes before its end. -/
theorem mem_take_of_backtickRunEnd {width : Nat} (hwidth : 0 < width) : ∀ {content : Text}
    {run n : Nat}, backtickRunEnd width run content = some n → run ≠ width →
      '`' ∈ content.take n := by
  intro content
  induction content with
  | nil =>
    intro run n h hrun
    simp [backtickRunEnd, hrun] at h
  | cons c cs ih =>
    intro run n h hrun
    rw [backtickRunEnd.eq_def] at h
    split at h
    · next heq =>
      cases heq
      obtain ⟨m, _, rfl⟩ := Option.map_eq_some_iff.mp h
      exact List.mem_cons_self
    · next heq => cases heq
    · next heq =>
      cases heq
      split at h
      · next hend => simp [hrun] at hend
      · obtain ⟨m, hm, rfl⟩ := Option.map_eq_some_iff.mp h
        exact List.mem_cons_of_mem _ (ih hm (by omega))

/-- Code covers a backtick. -/
theorem exists_visible_of_codeLength (h : codeLength markup pos content = .ok n) :
    ∃ c ∈ content.take n, isSpace c = false := by
  obtain ⟨start, hstart, h⟩ := Except.exists_of_bind_eq_ok h
  obtain ⟨-, -, hne⟩ := expect_spec hstart
  have hwidth : 0 < markup.length := List.length_pos_iff.mpr hne
  split at h
  · next m hm =>
    cases h
    have hmem := mem_take_of_backtickRunEnd hwidth hm (by omega)
    refine ⟨'`', ?_, by decide⟩
    rw [List.take_add]
    exact List.mem_append_right _ hmem
  · cases h

theorem indexOf?_lt {c : Char} (h : indexOf? c content = some n) : n < content.length :=
  (List.findIdx?_eq_some_iff_getElem.mp h).1

theorem closingBracket_le {opener closer : Char} {start : Nat} : ∀ {content : Text}
    {pos skip n : Nat} {state : Nesting},
    closingBracket opener closer start pos skip state content = .ok n → n ≤ content.length := by
  intro content
  induction content with
  | nil => intro pos skip n state h; rw [closingBracket] at h; cases h
  | cons c cs ih =>
    intro pos skip n state h
    -- every branch but the one that closes the bracket passes one character and goes on
    have hstep : ∀ {skip : Nat} {state : Nesting},
        (· + 1) <$> closingBracket opener closer start (pos + 1) skip state cs = .ok n →
          n ≤ (c :: cs).length := by
      intro skip state h
      obtain ⟨m, hm, rfl⟩ := Except.exists_of_map_eq_ok h
      exact Nat.succ_le_succ (ih hm)
    rw [closingBracket] at h
    dsimp only at h
    split at h
    · exact hstep h
    · split at h
      · exact hstep h
      · split at h
        · exact hstep h
        · split at h
          · split at h
            · cases h
            · exact hstep h
          · split at h
            · exact hstep h
            · split at h
              · exact hstep h
              · split at h
                · split at h
                  · cases h; exact Nat.succ_le_succ (Nat.zero_le _)
                  · exact hstep h
                · exact hstep h

theorem bracketLength_le {opener closer : Char}
    (h : bracketLength opener closer pos content = .ok n) : n ≤ content.length := by
  rw [bracketLength.eq_def] at h
  split at h
  · split at h
    · obtain ⟨m, hm, rfl⟩ := Except.exists_of_map_eq_ok h
      exact Nat.succ_le_succ (closingBracket_le hm)
    · cases h
  · cases h

theorem destinationLength_le (h : destinationLength pos content = .ok n) :
    n ≤ content.length := by
  rw [destinationLength.eq_def] at h
  split at h
  · exact bracketLength_le h
  · exact bracketLength_le h
  · cases h; exact Nat.zero_le _

end Lengths

/-! ### One token -/

/-- An event can be a piece of a content: it covers something, it is no block, a text stands there as
it is and is that of one of the tokens, and code is not invisible. -/
structure Event.FitsPiece (children : List Inline) (content : Text) (n : Nat) (e : Event) :
    Prop where
  /-- It covers some character. -/
  pos : 0 < n
  /-- It neither starts nor ends a block. -/
  inside : e.isBlock = false
  /-- A text covers itself. -/
  text : e.kind = .text → .text e.text ∈ children ∧ e.text <+: content ∧ e.text.length = n
  /-- Code is written between backticks. -/
  code : e.kind = .code → ∃ c ∈ content.take n, isSpace c = false

/-- An event that is neither text nor code may cover any beginning of the content. -/
theorem fitsPiece_of_kind {children : List Inline} {content : Text} {n : Nat} {e : Event}
    (pos : 0 < n) (le : n ≤ content.length) (inside : e.isBlock = false)
    (kind : e.kind ≠ .text ∧ e.kind ≠ .code) :
    n ≤ content.length ∧ (∀ e', some e = some e' → e'.FitsPiece children content n) ∧
      (some e = none → n = 0) := by
  refine ⟨le, ?_, by simp⟩
  rintro e' ⟨⟩
  exact ⟨pos, inside, fun h => absurd h kind.1, fun h => absurd h kind.2⟩

/-- What a single token covers does not go past the end of the content; an event without a token of
its own covers nothing. -/
theorem placeToken_spec {children : List Inline} {token : Inline} (htoken : token ∈ children)
    {pos n : Nat} {content : Text} {event : Option Event}
    (h : placeToken token pos content = .ok (event, n)) :
    n ≤ content.length ∧ (∀ e, event = some e → e.FitsPiece children content n) ∧
      (event = none → n = 0) := by
  have hwrapper : ∀ w : Markdown.Wrapper,
      (⟨.opening, w.tag, []⟩ : Event).isBlock = false ∧
      (⟨.closing, w.tag, []⟩ : Event).isBlock = false := by
    intro w; cases w <;> decide
  cases token with
  | text t =>
    rw [placeToken] at h
    split at h
    · next hbegins =>
      cases h
      have hbegins := List.isPrefixOf_iff_prefix.mp hbegins
      refine ⟨hbegins.length_le, ?_, ?_⟩
      · intro e he
        split at he
        · cases he
        · next hempty =>
          cases he
          have hpos : 0 < t.length := by simpa [List.length_pos_iff] using hempty
          exact ⟨hpos, rfl, fun _ => ⟨htoken, hbegins, rfl⟩, by simp⟩
      · intro hnone
        split at hnone
        · next hempty => simpa using hempty
        · cases hnone
    · cases h
  | lineBreak hard =>
    obtain ⟨m, hm, h⟩ := Except.exists_of_bind_eq_ok h
    cases h
    exact fitsPiece_of_kind (breakLength_pos hm) (breakLength_le hm) rfl (by simp)
  | code t markup =>
    obtain ⟨m, hm, h⟩ := Except.exists_of_bind_eq_ok h
    cases h
    refine ⟨codeLength_le hm, ?_, by simp⟩
    rintro e ⟨⟩
    exact ⟨codeLength_pos hm, rfl, by simp, fun _ => exists_visible_of_codeLength hm⟩
  | wrapperOpen w markup =>
    obtain ⟨m, hm, h⟩ := Except.exists_of_bind_eq_ok h
    cases h
    exact fitsPiece_of_kind (expect_pos hm) (expect_le hm) (hwrapper w).1 (by simp)
  | wrapperClose w markup =>
    obtain ⟨m, hm, h⟩ := Except.exists_of_bind_eq_ok h
    cases h
    exact fitsPiece_of_kind (expect_pos hm) (expect_le hm) (hwrapper w).2 (by simp)
  | linkOpen bare =>
    cases bare with
    | true =>
      obtain ⟨m, hm, h⟩ := Except.exists_of_bind_eq_ok h
      split at h
      · cases h
      · next k hk =>
        cases h
        exact fitsPiece_of_kind (Nat.succ_pos k) (indexOf?_lt hk) rfl (by simp)
    | false =>
      obtain ⟨m, hm, h⟩ := Except.exists_of_bind_eq_ok h
      cases h
      exact fitsPiece_of_kind (expect_pos hm) (expect_le hm) (by decide) (by simp)
  | linkClose =>
    obtain ⟨m, hm, h⟩ := Except.exists_of_bind_eq_ok h
    obtain ⟨k, hk, h⟩ := Except.exists_of_bind_eq_ok h
    cases h
    have hpos := expect_pos hm
    have hm' := expect_le hm
    have hk' := destinationLength_le hk
    rw [List.length_drop] at hk'
    exact fitsPiece_of_kind (by omega) (by omega) (by decide) (by simp)
  | image =>
    obtain ⟨m, hm, h⟩ := Except.exists_of_bind_eq_ok h
    obtain ⟨k, hk, h⟩ := Except.exists_of_bind_eq_ok h
    obtain ⟨j, hj, h⟩ := Except.exists_of_bind_eq_ok h
    cases h
    have hpos := expect_pos hm
    have hm' := expect_le hm
    have hk' := bracketLength_le hk
    have hj' := destinationLength_le hj
    rw [List.length_drop] at hk' hj'
    exact fitsPiece_of_kind (by omega) (by omega) rfl (by simp)
  | html t =>
    obtain ⟨m, hm, h⟩ := Except.exists_of_bind_eq_ok h
    cases h
    exact fitsPiece_of_kind (expect_pos hm) (expect_le hm) rfl (by simp)
  | special sort t markup =>
    obtain ⟨m, hm, h⟩ := Except.exists_of_bind_eq_ok h
    cases h
    exact fitsPiece_of_kind (expect_pos hm) (expect_le hm) rfl (by simp)
  | other sort => cases h

/-! ### All tokens -/

/-- The pieces make up a content, one after the other. -/
inductive Pieces (children : List Inline) : Text → List Piece → Prop
  /-- There are no pieces of no content. -/
  | nil : Pieces children [] []
  /-- The other pieces make up what the first one leaves. -/
  | cons {content : Text} {p : Piece} {ps : List Piece} (le : p.length ≤ content.length)
      (fits : p.event.FitsPiece children content p.length)
      (tail : Pieces children (content.drop p.length) ps) : Pieces children content (p :: ps)

theorem pieces_of_placeFrom {children : List Inline} : ∀ {tokens : List Inline} {pos skip : Nat}
    {content : Text} {pieces : List Piece}, (∀ t ∈ tokens, t ∈ children) →
    placeFrom pos content skip tokens = .ok pieces → Pieces children content pieces := by
  intro tokens
  induction tokens with
  | nil =>
    intro pos skip content pieces _ h
    rw [placeFrom] at h
    split at h
    · next hempty =>
      cases h
      rw [List.isEmpty_iff.mp hempty]
      exact .nil
    · cases h
  | cons token rest ih =>
    intro pos skip content pieces hmem h
    have hrest : ∀ t ∈ rest, t ∈ children := fun t ht => hmem t (List.mem_cons_of_mem _ ht)
    rw [placeFrom] at h
    split at h
    · exact ih hrest h
    · obtain ⟨⟨event, n⟩, htoken, h⟩ := Except.exists_of_bind_eq_ok h
      obtain ⟨owned, _, h⟩ := Except.exists_of_bind_eq_ok h
      obtain ⟨others, hothers, h⟩ := Except.exists_of_bind_eq_ok h
      obtain ⟨hle, hfits, hnone⟩ := placeToken_spec (hmem token List.mem_cons_self) htoken
      have htail := ih hrest hothers
      cases event with
      | none =>
        cases h
        rw [hnone rfl] at htail
        exact htail
      | some e =>
        cases h
        exact .cons hle (hfits e rfl) htail

/-- **The pieces of a content make it up.** -/
theorem pieces_of_placeInline {content : Text} {children : List Inline} {pieces : List Piece}
    (h : placeInline content children = .ok pieces) : Pieces children content pieces :=
  pieces_of_placeFrom (fun _ ht => ht) h

end CjkProse
