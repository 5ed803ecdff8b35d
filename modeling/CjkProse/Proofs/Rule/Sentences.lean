import CjkProse.Proofs.Rule.Blank
import CjkProse.Proofs.Rule.Glyphs

/-!
# The rules in a sentence

Where nothing is enclosed only three rules set anything: two at a mark, which give it a form and set
the spaces around it, and one at a run, which sets the space after it; then an exception may take back
what they did.  Here it is shown of each of them what it makes of the nodes `pre ++ n :: rest`
at `n`, in the terms in which a sentence is settled character by character.

## Main definitions

* `Node.IsPiece` — a run of letters, or a mark that encloses nothing.
* `Behind`, `Ahead` — what a mark sees of the nodes next to it.
* `closeLast` — some nodes, with the space at their end taken away if that is asked for.
* `Config.ownGap` — the space that is set after a run.
* `Config.endsAbbr` — whether a full stop ends an abbreviation.

## Main results

* `markWidth_append`, `pauseSpace_append` — the form of a mark, and the spaces around it.
* `letterSpace_append` — the space after a run.
* `numberUnit_append`, `abbreviation_append` — where the exceptions take nothing back.
-/

namespace CjkProse

open Neighbours

/-! ### Nodes of a sentence -/

/-- A run of letters, or a mark that encloses nothing. -/
inductive Node.IsPiece : Node → Prop
  /-- A run of half-width letters. -/
  | half {v : Revisable Text} (a : Revisable Space) (nonempty : v.value ≠ []) : IsPiece (.half v a)
  /-- A run of full-width letters. -/
  | full {v : Revisable Text} (a : Revisable Space) (nonempty : v.value ≠ []) : IsPiece (.full v a)
  /-- A mark. -/
  | char {v : Revisable Char} (a : Revisable Space) (mark : isSentenceMark v.value = true) :
    IsPiece (.char v a)

theorem isSide_of_isSentenceMark {c : Char} (h : isSentenceMark c = true) :
    isLeft c = false ∧ isRight c = false := by
  simp only [isSentenceMark, Bool.and_eq_true, Bool.not_eq_true', isQuote, isBracket] at h
  rw [isLeft, isRight]
  cases hk : CharKind.of c <;> rw [hk] at h <;>
    simp_all [CharKind.isLeft, CharKind.isRight, CharKind.isQuote, CharKind.isBracket]

namespace Node.IsPiece

variable {n : Node}

theorem isWrapper (h : n.IsPiece) : n.isWrapper = false := by cases h <;> rfl

theorem setAfter (h : n.IsPiece) (s : Space) : (n.setAfter s).IsPiece := by
  cases h with
  | half a nonempty => exact .half _ nonempty
  | full a nonempty => exact .full _ nonempty
  | char a mark => exact .char _ mark

theorem endsPhrase (h : n.IsPiece) : Rules.endsPhrase n = n.isContent := by
  cases h with
  | half a nonempty => rfl
  | full a nonempty => rfl
  | char a mark =>
    simp [Rules.endsPhrase, isContent, isHalf, isFull, isGroup, isCode, isEventOf, isCharAnd,
      isSide_of_isSentenceMark mark]

theorem startsPhrase (h : n.IsPiece) : Rules.startsPhrase n = n.isContent := by
  cases h with
  | half a nonempty => rfl
  | full a nonempty => rfl
  | char a mark =>
    simp [Rules.startsPhrase, isContent, isHalf, isFull, isGroup, isCode, isEventOf, isCharAnd,
      isSide_of_isSentenceMark mark]

theorem isGroup (h : n.IsPiece) : n.isGroup = false := by cases h <;> rfl

end Node.IsPiece

/-! ### Neighbours -/

section Neighbours

variable {pre rest : List Node} {n m : Node}

theorem getElem?_append_cons : (pre ++ n :: rest)[pre.length]? = some n := by simp

theorem before?_append : before? (pre ++ n :: rest) pre.length = pre.getLast? := by
  obtain rfl | ⟨q, p, rfl⟩ := List.eq_nil_or_concat pre
  · rfl
  · simp [before?]

theorem after?_append : after? (pre ++ n :: rest) pre.length = rest.head? := by
  rw [after?]
  cases rest <;> simp

theorem visibleAfter?_append (h : m.isWrapper = false) :
    visibleAfter? (pre ++ n :: m :: rest) pre.length = some (pre.length + 1) := by
  have hdrop : (pre ++ n :: m :: rest).drop (pre.length + 1) = m :: rest := by
    rw [List.drop_append]
    simp
  rw [visibleAfter?, hdrop, List.findIdx?_cons, h]
  rfl

theorem nodeAfter?_append (h : ∀ m ∈ rest, m.isWrapper = false) :
    nodeAfter? (pre ++ n :: rest) pre.length = rest.head? := by
  cases rest with
  | nil => simp [nodeAfter?, visibleAfter?]
  | cons m rest =>
    rw [nodeAfter?, visibleAfter?_append (h m List.mem_cons_self)]
    simp

theorem spaceAfterHolder?_append (h : m.isWrapper = false) :
    spaceAfterHolder? (pre ++ n :: m :: rest) pre.length = some pre.length := by
  rw [spaceAfterHolder?, visibleAfter?_append h]
  simp [gapHolder]

theorem visibleBefore?_append (h : ∀ p ∈ pre, p.isWrapper = false) :
    visibleBefore? (pre ++ n :: rest) pre.length = pre.getLast?.map fun _ => pre.length - 1 := by
  obtain rfl | ⟨q, p, rfl⟩ := List.eq_nil_or_concat pre
  · rfl
  · have hp : p.isWrapper = false := h p (by simp)
    simp [visibleBefore?, isWrapperAt, hp]

theorem nodeBefore?_append (h : ∀ p ∈ pre, p.isWrapper = false) :
    nodeBefore? (pre ++ n :: rest) pre.length = pre.getLast? := by
  rw [nodeBefore?, visibleBefore?_append h]
  obtain rfl | ⟨q, p, rfl⟩ := List.eq_nil_or_concat pre
  · rfl
  · simp

theorem spaceBeforeHolder?_append (h : ∀ p ∈ pre, p.isWrapper = false) :
    spaceBeforeHolder? (pre ++ n :: rest) pre.length =
      pre.getLast?.map fun _ => pre.length - 1 := by
  rw [spaceBeforeHolder?, visibleBefore?_append h]
  obtain rfl | ⟨q, p, rfl⟩ := List.eq_nil_or_concat pre
  · rfl
  · simp [gapHolder]

/-- Changing the node at a place. -/
theorem modify_append_cons {f : Node → Node} :
    (pre ++ n :: rest).modify pre.length f = pre ++ f n :: rest := by
  induction pre with
  | nil => rw [List.nil_append, List.length_nil, List.modify_zero_cons, List.nil_append]
  | cons p pre ih =>
    rw [List.cons_append, List.length_cons, List.modify_succ_cons, ih, List.cons_append]

theorem mapLast_append_singleton (f : Node → Node) (q : List Node) (p : Node) :
    Rules.mapLast f (q ++ [p]) = q ++ [f p] := by
  rw [Rules.mapLast, List.length_append, List.length_singleton, Nat.add_sub_cancel,
    modify_append_cons]

/-- Setting the gap before a place. -/
theorem setGap_before (s : Space) :
    setGap (pre ++ n :: rest) (pre.getLast?.map fun _ => pre.length - 1) s =
      Rules.mapLast (Node.setAfter s) pre ++ n :: rest := by
  obtain rfl | ⟨q, p, rfl⟩ := List.eq_nil_or_concat pre
  · rfl
  · rw [List.concat_eq_append, mapLast_append_singleton]
    simpa [setGap] using @modify_append_cons q (n :: rest) p (Node.setAfter s)

end Neighbours

/-! ### What a mark sees -/

/-- Seen from beside, a node is like a glyph. -/
structure Node.Shows (n : Node) (g : Glyph) : Prop where
  /-- It is a half-width run, or not. -/
  half : n.isHalf = g.isHalf
  /-- It is a full-width run, or not. -/
  full : n.isFull = g.isFull
  /-- It is a mark that is Western in the source, or not. -/
  western : isWesternInSource n = g.isWestern

theorem Node.Shows.content {n : Node} {g : Glyph} (h : n.Shows g) : n.isContent = g.isLetter := by
  rw [isContent, h.half, h.full, Bool.eq_iff_iff, Glyph.isLetter_iff, Bool.or_eq_true]

/-- What comes before a place ends in a glyph, or there is nothing. -/
inductive Behind : List Node → Option Glyph → Prop
  /-- There is nothing. -/
  | nil : Behind [] none
  /-- The last node is like the glyph, and so is the space after it. -/
  | snoc {q : List Node} {p : Node} {l : Glyph} (shows : p.Shows l)
      (gap : p.hasSpaceAfter = !l.gap.isEmpty) : Behind (q ++ [p]) (some l)

/-- What comes after a place starts with a glyph, or there is nothing. -/
inductive Ahead : List Node → Option Glyph → Prop
  /-- There is nothing. -/
  | nil : Ahead [] none
  /-- The first node is like the glyph. -/
  | cons {m : Node} {ns : List Node} {r : Glyph} (shows : m.Shows r) : Ahead (m :: ns) (some r)

section Seen

variable {pre rest : List Node} {left right : Option Glyph} {v : Revisable Char}
  {a : Revisable Space} (behind : Behind pre left) (ahead : Ahead rest right)

include behind ahead

/-- Whether a mark stands within a word. -/
theorem isTightHalfwidthPunctuation_append :
    isTightHalfwidthPunctuation (pre ++ .char v a :: rest) pre.length =
      Glyph.isTight left ⟨v.value, a.value⟩ right := by
  rw [isTightHalfwidthPunctuation, getElem?_append_cons, before?_append, after?_append]
  have hbefore : (pre.getLast?.any fun b => b.isHalf && !b.hasSpaceAfter) =
      left.any fun l => l.isHalf && l.gap.isEmpty := by
    cases behind with
    | nil => rfl
    | snoc shows gap => simp [shows.half, gap]
  have hafter : rest.head?.any Node.isHalf = right.any Glyph.isHalf := by
    cases ahead with
    | nil => rfl
    | cons shows => simp [shows.half]
  simp only [hbefore, hafter]
  simp [Glyph.isTight, Glyph.isWestern, Node.isCharAnd, Node.hasSpaceAfter, Node.after]

/-- Whether a mark stands in a row of marks. -/
theorem isSuccessivePunctuation_append :
    isSuccessivePunctuation (pre ++ .char v a :: rest) pre.length =
      Glyph.isInRow left ⟨v.original, a.value⟩ right := by
  rw [isSuccessivePunctuation, getElem?_append_cons, before?_append, after?_append]
  have hbefore : (pre.getLast?.any fun b => isWesternInSource b && !b.hasSpaceAfter) =
      left.any fun l => l.isWestern && l.gap.isEmpty := by
    cases behind with
    | nil => rfl
    | snoc shows gap => simp [shows.western, gap]
  have hafter : rest.head?.any isWesternInSource = right.any Glyph.isWestern := by
    cases ahead with
    | nil => rfl
    | cons shows => simp [shows.western]
  simp only [hbefore, hafter]
  simp [Glyph.isInRow, Glyph.isWestern, isWesternInSource, Node.hasSpaceAfter, Node.after]

end Seen

/-! ### The rules at a mark -/

/-- Revising a value to what it was takes back nothing if there is nothing to take back. -/
theorem Revisable.revise_value {α : Type} [DecidableEq α] {v : Revisable α}
    (h : v.modified = none) : v.revise v.value = v := by
  have hvalue : v.value = v.original := by simp [value, h]
  rw [hvalue, revise, if_pos rfl, ← h]

theorem Revisable.revert_of_fresh {α : Type} {v : Revisable α} (h : v.modified = none) :
    v.revert = v := by
  rw [revert, ← h]

/-- What comes before a place, with the space at its end taken away if that is asked for. -/
def closeLast (asked : Bool) (pre : List Node) : List Node :=
  if asked then Rules.mapLast (Node.setAfter Space.empty) pre else pre

@[simp] theorem closeLast_nil (asked : Bool) : closeLast asked [] = [] := by
  cases asked <;> rfl

@[simp] theorem length_closeLast (asked : Bool) (pre : List Node) :
    (closeLast asked pre).length = pre.length := by
  cases asked <;> simp [closeLast, Rules.mapLast]

theorem closeLast_append_singleton (asked : Bool) (q : List Node) (p : Node) :
    closeLast asked (q ++ [p]) = q ++ [if asked then p.setAfter Space.empty else p] := by
  cases asked with
  | false => rfl
  | true => exact mapLast_append_singleton _ q p

theorem isPiece_of_mem_closeLast {asked : Bool} {pre : List Node} (h : ∀ p ∈ pre, p.IsPiece) :
    ∀ p ∈ closeLast asked pre, p.IsPiece := by
  cases asked with
  | false => exact h
  | true => exact forall_mem_modify h fun p hp => hp.setAfter _

section Mark

variable {config : Config} {pre rest : List Node} {left right : Option Glyph} {v : Revisable Char}
  {a : Revisable Space}

/-- Bringing a fresh mark to its width. -/
theorem resizeMark_eq (h : v.modified = none) :
    config.resizeMark v = v.revise (config.resize v.value) := by
  have hhalf : (if config.halfwidthPunctuation.contains (halfwidth v.value) = true then
      v.revise (halfwidth v.value) else v) =
      v.revise (if config.halfwidthPunctuation.contains (halfwidth v.value) = true then
        halfwidth v.value else v.value) := by
    split
    · rfl
    · exact (Revisable.revise_value h).symm
  simp only [Config.resizeMark, Config.resize, hhalf, Revisable.value_revise]
  generalize (if config.halfwidthPunctuation.contains (halfwidth v.value) = true then
    halfwidth v.value else v.value) = c
  split <;> rfl

/-- The marks of a sentence that are of the Chinese or the Western set stand alone. -/
theorem isSingle_of_isSentenceMark {c : Char} (h : isSentenceMark c = true)
    (hp : isPunctuation c = true) : isSingle c = true := by
  simp only [isSentenceMark, isQuote, isBracket, Bool.and_eq_true, Bool.not_eq_true'] at h
  simp only [isPunctuation, isChinesePunctuation, isWesternPunctuation] at hp
  rw [isSingle, isPause, isOtherPunctuation]
  cases hk : CharKind.of c <;> rw [hk] at h hp <;>
    simp_all [CharKind.isQuote, CharKind.isBracket, CharKind.isChinese, CharKind.isWestern,
      CharKind.isPause, CharKind.isOtherPunctuation]

theorem markWidth_append (behind : Behind pre left) (ahead : Ahead rest right)
    (mark : isSentenceMark v.value = true) (fresh : v.modified = none) :
    Rules.markWidth config (pre ++ .char v a :: rest) pre.length =
      pre ++ .char (v.revise (config.form left ⟨v.value, a.value⟩ right)) a :: rest := by
  have hvalue : v.original = v.value := by simp [Revisable.value, fresh]
  have hset : ∀ w, (pre ++ .char v a :: rest).set pre.length (.char w a) =
      pre ++ .char w a :: rest := by simp
  rw [Rules.markWidth, getElem?_append_cons]
  dsimp only
  rw [isTightHalfwidthPunctuation_append behind ahead,
    isSuccessivePunctuation_append behind ahead, hvalue, hset, Config.form]
  cases hp : isPunctuation v.value with
  | false => simp [Revisable.revise_value fresh]
  | true =>
    rw [isSingle_of_isSentenceMark mark hp, resizeMark_eq fresh]
    cases Glyph.isTight left ⟨v.value, a.value⟩ right <;>
      cases Glyph.isInRow left ⟨v.value, a.value⟩ right <;>
      simp [Revisable.revise_value fresh]

/-- Setting the gap after a mark that pauses or stops, a node coming after it. -/
theorem setGap_pauseGap {m : Node} {c : Char} (hm : m.isWrapper = false) (fresh : a.modified = none) :
    (if isWideOrChinese c = true then
      closeGap (pre ++ .char v a :: m :: rest)
        (spaceAfterHolder? (pre ++ .char v a :: m :: rest) pre.length)
        config.noSpaceAfterFullwidthPause
    else
      demandGap (pre ++ .char v a :: m :: rest)
        (spaceAfterHolder? (pre ++ .char v a :: m :: rest) pre.length)
        config.spaceAfterHalfwidthPause) =
      pre ++ .char v (a.revise (config.pauseGap c a.value)) :: m :: rest := by
  have hkeep := Revisable.revise_value fresh
  have hset : ∀ s, setGap (pre ++ .char v a :: m :: rest) (some pre.length) s =
      pre ++ .char v (a.revise s) :: m :: rest := fun s => modify_append_cons
  rw [spaceAfterHolder?_append hm, Config.pauseGap]
  split
  · cases config.noSpaceAfterFullwidthPause with
    | false => simp [closeGap, hkeep]
    | true => exact hset _
  · cases config.spaceAfterHalfwidthPause with
    | none => simp [demandGap, hkeep]
    | some present => exact hset _

/-- The spaces around a mark that has its form. -/
theorem pauseSpace_append {g : Glyph} {gs : List Glyph} {w : Revisable Char}
    (behind : Behind pre left) (ahead : Ahead rest gs.head?) (hpre : ∀ p ∈ pre, p.IsPiece)
    (hrest : ∀ m ∈ rest, m.IsPiece) (fresh : a.modified = none) (hgap : a.value = g.gap)
    (original : w.original = g.char) (form : w.value = config.form left g gs.head?)
    (mark : g.isLetter = false) :
    Rules.pauseSpace config (pre ++ .char w a :: rest) pre.length =
      closeLast (config.noSpaceBeforePause && left.any Glyph.isLetter &&
          config.pauses left g gs.head?) pre ++
        .char w (a.revise (config.gapAfter left g gs)) :: rest := by
  have hpauses : (isPause w.value &&
      !isTightHalfwidthPunctuation (pre ++ .char w a :: rest) pre.length &&
      !isSuccessivePunctuation (pre ++ .char w a :: rest) pre.length) =
      config.pauses left g gs.head? := by
    rw [isTightHalfwidthPunctuation_append behind ahead,
      isSuccessivePunctuation_append behind ahead, form, original, hgap]
    rfl
  rw [Rules.pauseSpace, getElem?_append_cons]
  dsimp only
  rw [hpauses]
  cases hp : config.pauses left g gs.head? with
  | false =>
    have hkeep := Revisable.revise_value fresh
    rw [hgap] at hkeep
    simp [closeLast, gapAfter_of_not_pauses mark hp, hkeep]
  | true =>
    have hends : (nodeBefore? (pre ++ .char w a :: rest) pre.length).any Rules.endsPhrase =
        left.any Glyph.isLetter := by
      rw [nodeBefore?_append fun p hp => (hpre p hp).isWrapper]
      cases behind with
      | nil => rfl
      | snoc shows _ => simp [(hpre _ (List.mem_append_right _ List.mem_cons_self)).endsPhrase,
          shows.content]
    have hclose : ∀ asked, closeGap (pre ++ .char w a :: rest)
        (spaceBeforeHolder? (pre ++ .char w a :: rest) pre.length) asked =
        closeLast asked pre ++ .char w a :: rest := fun asked => by
      rw [spaceBeforeHolder?_append fun p hp => (hpre p hp).isWrapper, closeGap, setGap_before]
      cases asked <;> rfl
    rw [hends, hclose, Bool.and_true]
    -- what comes before is done
    have hlen := length_closeLast (config.noSpaceBeforePause && left.any Glyph.isLetter) pre
    generalize closeLast _ pre = pre' at hlen ⊢
    rw [← hlen, nodeAfter?_append fun m hm => (hrest m hm).isWrapper]
    have hkeep := Revisable.revise_value fresh
    rw [hgap] at hkeep
    cases gs with
    | nil =>
      cases ahead
      simp [Config.gapAfter, hkeep]
    | cons r more =>
      obtain ⟨m, ms, rfl, shows⟩ : ∃ m ms, rest = m :: ms ∧ m.Shows r := by
        cases ahead with
        | cons shows => exact ⟨_, _, rfl, shows⟩
      have hm := hrest m List.mem_cons_self
      rw [List.head?_cons] at hp form
      rw [List.head?_cons, Option.any_some, hm.startsPhrase, shows.content, Config.gapAfter, mark]
      cases r.isLetter with
      | false => simp [hkeep]
      | true =>
        simp only [if_true, hp]
        rw [setGap_pauseGap hm.isWrapper fresh, form, hgap]

end Mark

/-! ### The rules at a run -/

/-- The space that is set after a run, those in the list coming after it.  Next to a run of the other
width none is set if the full-width one of the two is a unit. -/
def Config.ownGap (config : Config) (n : Node) : List Node → Space
  | [] => n.after.value
  | m :: _ =>
    if !m.isContent || (n.isFull != m.isFull && Rules.isUnit config (if n.isFull then n else m)) then
      n.after.value
    else config.runGap n.isFull m.isFull n.after.value

section Run

variable {config : Config} {pre rest : List Node} {n m : Node}

theorem Node.exists_of_isContent (h : n.isContent = true) :
    (∃ v a, n = .half v a) ∨ ∃ v a, n = .full v a := by
  cases n with
  | half v a => exact .inl ⟨v, a, rfl⟩
  | full v a => exact .inr ⟨v, a, rfl⟩
  | char v a => cases h
  | event e s a => cases h
  | group o inner ns c a => cases h

theorem Node.isHalf_of_isContent (h : n.isContent = true) : n.isHalf = !n.isFull := by
  obtain ⟨v, a, rfl⟩ | ⟨v, a, rfl⟩ := exists_of_isContent h <;> rfl

theorem Node.setAfter_value (h : n.after.modified = none) : n.setAfter n.after.value = n := by
  have hkeep := Revisable.revise_value h
  cases n <;> exact congrArg _ hkeep

theorem Node.setAfter_setAfter (n : Node) (s s' : Space) :
    (n.setAfter s).setAfter s' = n.setAfter s' := by
  cases n <;> rfl

/-- The space after a run. -/
theorem letterSpace_append (hn : n.isContent = true) (hrest : ∀ m ∈ rest, m.IsPiece)
    (fresh : n.after.modified = none) :
    Rules.letterSpace config (pre ++ n :: rest) pre.length =
      pre ++ n.setAfter (config.ownGap n rest) :: rest := by
  have hkeep := Node.setAfter_value fresh
  rw [Rules.letterSpace, getElem?_append_cons,
    nodeAfter?_append fun m hm => (hrest m hm).isWrapper]
  cases rest with
  | nil => simp [Config.ownGap, hkeep]
  | cons m rest =>
    have hset : ∀ s, setGap (pre ++ n :: m :: rest) (some pre.length) s =
        pre ++ n.setAfter s :: m :: rest := fun s => modify_append_cons
    have hmixed : demandGap (pre ++ n :: m :: rest) (some pre.length) config.spaceBetweenMixed =
        pre ++ n.setAfter ((config.spaceBetweenMixed.map Space.ofBool).getD n.after.value) ::
          m :: rest := by
      cases config.spaceBetweenMixed with
      | none => simp [demandGap, hkeep]
      | some present => exact hset _
    rw [spaceAfterHolder?_append (hrest m List.mem_cons_self).isWrapper, Config.ownGap]
    cases hm : m.isContent with
    | false =>
      have hhalf : m.isHalf = false ∧ m.isFull = false := by
        simpa [Node.isContent] using hm
      simp [hhalf, hm, hkeep]
    | true =>
      simp only [List.head?_cons, Node.isHalf_of_isContent hn, Node.isHalf_of_isContent hm, hn, hm,
        Config.runGap]
      -- two half-width runs, two full-width runs, or one of each
      cases n.isFull <;> cases m.isFull
      · cases config.spaceBetweenHalfwidth
        · simp [hkeep]
        · simpa using hset Space.one
      · cases hunit : Rules.isUnit config m
        · simpa [hunit] using hmixed
        · simp [hunit, hkeep]
      · cases hunit : Rules.isUnit config n
        · simpa [hunit] using hmixed
        · simp [hunit, hkeep]
      · cases config.noSpaceBetweenFullwidth
        · simp [hkeep, closeGap]
        · simpa [closeGap] using hset Space.empty

end Run

/-! ### The other rules -/

section Other

variable {config : Config} {nodes pre rest : List Node} {n : Node} {i : Nat} {r : Rule}

/-- Where nothing is enclosed, the rules about what is enclosed do nothing. -/
theorem Rule.applyAt_of_isPiece
    (hr : r ∈ [quoteStyle, quoteSpace, bracketSpace, codeSpace, wrapperSpace])
    (hall : ∀ n ∈ nodes, n.IsPiece) : r.applyAt config nodes i = nodes := by
  have hwrapper : Rules.wrapperSpace config nodes i = nodes :=
    Rules.wrapperSpace_of_not_wrapper (fun n hn => (hall n hn).isWrapper) config i
  have hnode : nodes[i]? = none ∨ ∃ n, nodes[i]? = some n ∧ n.IsPiece := by
    cases hn : nodes[i]? with
    | none => exact .inl rfl
    | some n => exact .inr ⟨n, rfl, hall n (List.mem_of_getElem? hn)⟩
  simp only [List.mem_cons, List.not_mem_nil, or_false] at hr
  obtain hn | ⟨n, hn, hpiece⟩ := hnode
  · obtain rfl | rfl | rfl | rfl | rfl := hr <;>
      first
        | exact hwrapper
        | simp [applyAt, Rules.quoteStyle, Rules.quoteSpace, Rules.bracketSpace, Rules.codeSpace, hn]
  · cases hpiece with
    | half a nonempty =>
      obtain rfl | rfl | rfl | rfl | rfl := hr <;>
        first
          | exact hwrapper
          | simp [applyAt, Rules.quoteStyle, Rules.quoteSpace, Rules.bracketSpace,
              Rules.codeSpace, hn, Node.isCode, Node.isEventOf]
    | full a nonempty =>
      obtain rfl | rfl | rfl | rfl | rfl := hr <;>
        first
          | exact hwrapper
          | simp [applyAt, Rules.quoteStyle, Rules.quoteSpace, Rules.bracketSpace,
              Rules.codeSpace, hn, Node.isCode, Node.isEventOf]
    | char a mark =>
      obtain rfl | rfl | rfl | rfl | rfl := hr <;>
        first
          | exact hwrapper
          | simp [applyAt, Rules.quoteStyle, Rules.quoteSpace, Rules.bracketSpace,
              Rules.codeSpace, hn, Node.isCode, Node.isEventOf, isBracket_of_isSentenceMark mark]

/-- At a run only the space after it and the spaces around a number can be set. -/
theorem Rule.applyAt_of_isContent (hletter : r ≠ letterSpace) (hunit : r ≠ numberUnit)
    (hall : ∀ n ∈ nodes, n.IsPiece) (hn : nodes[i]? = some n) (hcontent : n.isContent = true) :
    r.applyAt config nodes i = nodes := by
  have hmark : r ∈ [markWidth, pauseSpace, abbreviation] → r.applyAt config nodes i = nodes := by
    intro hr
    simp only [List.mem_cons, List.not_mem_nil, or_false] at hr
    obtain ⟨v, a, rfl⟩ | ⟨v, a, rfl⟩ := Node.exists_of_isContent hcontent <;>
      obtain rfl | rfl | rfl := hr <;>
      simp [applyAt, Rules.markWidth, Rules.pauseSpace, Rules.abbreviation, hn]
  by_cases hr : r ∈ [markWidth, pauseSpace, abbreviation]
  · exact hmark hr
  · refine applyAt_of_isPiece ?_ hall
    cases r <;> simp at hr hletter hunit ⊢

/-- At a mark only its form and the spaces around it can be set. -/
theorem Rule.applyAt_of_char {v : Revisable Char} {a : Revisable Space} (hwidth : r ≠ markWidth)
    (hpause : r ≠ pauseSpace) (habbr : r ≠ abbreviation) (hall : ∀ n ∈ nodes, n.IsPiece)
    (hn : nodes[i]? = some (.char v a)) : r.applyAt config nodes i = nodes := by
  have hrun : r ∈ [letterSpace, numberUnit] → r.applyAt config nodes i = nodes := by
    intro hr
    simp only [List.mem_cons, List.not_mem_nil, or_false] at hr
    obtain rfl | rfl := hr
    · rw [applyAt, Rules.letterSpace, hn]
      cases nodeAfter? nodes i <;> simp [Node.isHalf, Node.isFull, Node.isContent]
    · simp [applyAt, Rules.numberUnit, hn, Rules.isNumber]
  by_cases hr : r ∈ [letterSpace, numberUnit]
  · exact hrun hr
  · refine applyAt_of_isPiece ?_ hall
    cases r <;> simp at hr hwidth hpause habbr ⊢

end Other

/-! ### Numbers before units -/

section Units

variable {config : Config} {nodes pre rest : List Node} {n : Node}

/-- Gaps that have not been revised are left alone. -/
theorem revertGap_of_fresh (h : ∀ n ∈ nodes, n.after.modified = none) (holder : Option Nat) :
    revertGap nodes holder = nodes := by
  have hkeep : ∀ n ∈ nodes, n.revertAfter = n := fun n hn => by
    have hrevert := Revisable.revert_of_fresh (h n hn)
    cases n <;> exact congrArg _ hrevert
  cases holder with
  | none => rfl
  | some j =>
    refine List.ext_getElem? fun k => ?_
    rw [revertGap, List.getElem?_modify]
    cases hk : nodes[k]? with
    | none => rfl
    | some n => simp [hkeep n (List.mem_of_getElem? hk)]

/-- The gaps around a number are left alone before a run that is no unit, and where nothing has been
revised. -/
theorem numberUnit_append (hrest : ∀ m ∈ rest, m.isWrapper = false)
    (h : (∀ m ∈ rest, Rules.isUnit config m = false) ∨
      ∀ m ∈ pre ++ n :: rest, m.after.modified = none) :
    Rules.numberUnit config (pre ++ n :: rest) pre.length = pre ++ n :: rest := by
  rw [Rules.numberUnit]
  rcases h with hunits | hfresh
  · have hnext : rest.head?.any (Rules.isFullUnit config) = false := by
      cases rest with
      | nil => rfl
      | cons m rest => simp [Rules.isFullUnit, hunits m List.mem_cons_self]
    rw [nodeAfter?_append hrest, hnext]
    simp
  · simp [revertGap_of_fresh hfresh]

end Units

/-! ### Abbreviations -/

section Abbreviations

variable {nodes nodes' : List Node} {targets : List Text} {config : Config}

/-- Whether what comes before a full stop makes it the end of an abbreviation. -/
def Config.endsAbbr (config : Config) (pre : List Node) : Bool :=
  matchesAbbr pre config.skipAbbrs pre.length

theorem matchesAbbr_append {pre pre' rest : List Node}
    (h : pre.map abbrPiece? = pre'.map abbrPiece?) :
    matchesAbbr (pre ++ rest) config.skipAbbrs pre.length = config.endsAbbr pre' := by
  have hlen : pre.length = pre'.length := by simpa using congrArg List.length h
  rw [Config.endsAbbr, matchesAbbr, matchesAbbr, ← hlen]
  refine collectAbbr_congr fun j hj => ?_
  have hj' : pre[j]?.map abbrPiece? = pre'[j]?.map abbrPiece? := by
    simpa using congrArg (fun l => l[j]?) h
  rw [List.getElem?_append_left hj]
  simpa only [Option.bind_map, Function.id_comp] using congrArg (fun o => o.bind id) hj'

theorem endsAbbr_congr {pre pre' : List Node} (h : pre.map abbrPiece? = pre'.map abbrPiece?) :
    config.endsAbbr pre = config.endsAbbr pre' := by
  have hmatch := @matchesAbbr_append config pre pre' [] h
  rwa [List.append_nil] at hmatch

/-- Setting the space after a node leaves its source alone. -/
theorem abbrPiece?_setAfter (n : Node) (s : Space) : abbrPiece? (n.setAfter s) = abbrPiece? n := by
  cases n <;> rfl

theorem map_abbrPiece?_closeLast (asked : Bool) (pre : List Node) :
    (closeLast asked pre).map abbrPiece? = pre.map abbrPiece? := by
  cases asked with
  | false => rfl
  | true =>
    obtain rfl | ⟨q, p, rfl⟩ := List.eq_nil_or_concat pre
    · rfl
    · rw [List.concat_eq_append, closeLast, if_pos rfl, mapLast_append_singleton]
      simp [abbrPiece?_setAfter]

/-- A mark that ends no abbreviation is left alone, and so is one that has not been revised. -/
theorem abbreviation_append {pre rest : List Node} {v : Revisable Char} {a : Revisable Space}
    (asked : Bool)
    (h : (v.original = '.' → config.endsAbbr pre = false) ∨ v.modified = none ∧ a.modified = none) :
    Rules.abbreviation config (closeLast asked pre ++ .char v a :: rest) pre.length =
      closeLast asked pre ++ .char v a :: rest := by
  have hmatch := @matchesAbbr_append config (closeLast asked pre) pre (.char v a :: rest)
    (map_abbrPiece?_closeLast asked pre)
  rw [← length_closeLast asked pre, Rules.abbreviation, getElem?_append_cons]
  dsimp only
  rw [hmatch]
  rcases h with hends | ⟨hv, ha⟩
  · cases hstop : v.original == '.' with
    | false => simp
    | true => simp [hends (by simpa using hstop)]
  · simp [Revisable.revert_of_fresh hv, Revisable.revert_of_fresh ha]

end Abbreviations

end CjkProse
