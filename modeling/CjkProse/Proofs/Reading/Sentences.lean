import CjkProse.Proofs.Reading.QuoteScan

/-!
# Reading sentences

A text without quotation marks and brackets is read as a list of runs of letters, each as long as can
be, and of single marks, all with the spaces after them.  Nothing in it can be at fault.

## Main definitions

* `Text.IsSentence` — a text in which nothing is enclosed, and which does not start with a space.
* `Node.letters`, `Node.mark` — a run of letters, and a mark, as they are read.
* `Sentence` — the nodes of such a text.

## Main results

* `exists_sentence` — **a block of such a text is read as its runs and marks.**
-/

namespace CjkProse

/-- A text which holds neither quotation marks nor brackets and does not start with a space. -/
structure Text.IsSentence (t : Text) : Prop where
  /-- Nothing is enclosed in it. -/
  unenclosed : ∀ c ∈ t, isQuote c = false ∧ isBracket c = false
  /-- It does not start with a space. -/
  head : ∀ c, t.head? = some c → isSpace c = false

/-! ### Letters and marks -/

/-- The kind of the letters of one width. -/
def CharKind.ofWidth (full : Bool) : CharKind := if full then .letterFull else .letterHalf

/-- The marks of a sentence: all that is neither a letter nor a space, and encloses nothing. -/
def isSentenceMark (c : Char) : Bool :=
  !isLetter c && !isSpace c && !isQuote c && !isBracket c

/-- A letter is of full or of half width. -/
theorem exists_ofWidth {c : Char} (h : isLetter c = true) : ∃ full, CharKind.of c = .ofWidth full := by
  rw [isLetter] at h
  cases hk : CharKind.of c with
  | letterHalf => exact ⟨false, rfl⟩
  | letterFull => exact ⟨true, rfl⟩
  | _ => rw [hk] at h; cases h

theorem isLetter_of_kind {c : Char} {full : Bool} (h : CharKind.of c = .ofWidth full) :
    isLetter c = true := by
  rw [isLetter, h]
  cases full <;> rfl

theorem isSpace_of_kind {c : Char} {full : Bool} (h : CharKind.of c = .ofWidth full) :
    isSpace c = false := by
  rw [isSpace, h]
  cases full <;> rfl

section Marks

variable {c : Char} (h : isSentenceMark c = true)

include h

theorem isLetter_of_isSentenceMark : isLetter c = false := by
  simp only [isSentenceMark, Bool.and_eq_true, Bool.not_eq_true'] at h
  exact h.1.1.1

theorem isSpace_of_isSentenceMark : isSpace c = false := by
  simp only [isSentenceMark, Bool.and_eq_true, Bool.not_eq_true'] at h
  exact h.1.1.2

theorem isBracket_of_isSentenceMark : isBracket c = false := by
  simp only [isSentenceMark, Bool.and_eq_true, Bool.not_eq_true'] at h
  exact h.2

/-- No mark of a sentence is one of the quotation marks. -/
theorem not_mem_of_isSentenceMark :
    c ∉ Punct.chineseLeftQuote ++ (Punct.chineseRightQuote ++ Punct.westernQuote) := by
  have hall : (Punct.chineseLeftQuote ++ (Punct.chineseRightQuote ++ Punct.westernQuote)).all
      isQuote = true := by decide
  intro hmem
  have hquote := List.all_eq_true.mp hall c hmem
  simp [isSentenceMark, hquote] at h

theorem isPlain_of_isSentenceMark : isPlain c = true :=
  isPlain_of_not_mem (not_mem_of_isSentenceMark h)

theorem not_closes_of_isSentenceMark : Punct.chineseRightQuote.contains c = false := by
  have hmem := not_mem_of_isSentenceMark h
  simp only [List.mem_append, not_or] at hmem
  simpa using hmem.2.1

end Marks

/-! ### The nodes of a sentence -/

/-- A run of letters of one width and the space after it, as they are read. -/
def Node.letters (full : Bool) (letters : Text) (gap : Space) (s s' : Span) : Node :=
  if full then .full { original := letters, span := s } { original := gap, span := s' }
  else .half { original := letters, span := s } { original := gap, span := s' }

/-- A mark and the space after it, as they are read. -/
def Node.mark (c : Char) (gap : Space) (s s' : Span) : Node :=
  .char { original := c, span := s } { original := gap, span := s' }

/-- The nodes are the runs and the marks of a text. -/
inductive Sentence : Text → List Node → Prop
  /-- There is nothing in no text. -/
  | nil : Sentence [] []
  /-- A run is as long as can be. -/
  | run {full : Bool} {letters gap rest : Text} {s s' : Span} {ns : List Node}
      (nonempty : letters ≠ []) (kind : ∀ c ∈ letters, CharKind.of c = .ofWidth full)
      (spaces : ∀ c ∈ gap, isSpace c = true)
      (maximal : gap = [] → ∀ c, rest.head? = some c → CharKind.of c ≠ .ofWidth full)
      (tail : Sentence rest ns) :
      Sentence (letters ++ gap ++ rest) (Node.letters full letters gap s s' :: ns)
  /-- A mark stands alone. -/
  | mark {c : Char} {gap rest : Text} {s s' : Span} {ns : List Node}
      (kind : isSentenceMark c = true) (spaces : ∀ c ∈ gap, isSpace c = true)
      (tail : Sentence rest ns) : Sentence (c :: gap ++ rest) (Node.mark c gap s s' :: ns)

/-! ### Reading -/

/-- The longest run of one kind at the head of a text is read, and what is left is a text. -/
theorem exists_of_takeKind_ofText (k : CharKind) : ∀ (t : Text) (start : Int)
    (prev : Option Atom), ∃ run rest prev' stop,
      Reader.takeKind k ⟨prev, Atom.ofText start t⟩ = (run, ⟨prev', Atom.ofText stop rest⟩) ∧
      t = run.map Prod.fst ++ rest ∧ (∀ c ∈ run.map Prod.fst, CharKind.of c = k) ∧
      ∀ c, rest.head? = some c → CharKind.of c ≠ k := by
  intro t
  induction t with
  | nil => intro start prev; exact ⟨[], [], prev, start, rfl, rfl, by simp, by simp⟩
  | cons c t ih =>
    intro start prev
    by_cases hk : CharKind.of c = k
    · obtain ⟨run, rest, prev', stop, hrun, rfl, hkind, hmax⟩ :=
        ih (start + c.utf8Size) (some (.char c ⟨start, start + c.utf8Size⟩))
      refine ⟨(c, ⟨start, start + c.utf8Size⟩) :: run, rest, prev', stop, ?_, rfl,
        List.forall_mem_cons.mpr ⟨hk, hkind⟩, hmax⟩
      rw [Atom.ofText_cons, Reader.takeKind_cons hk, hrun]
    · refine ⟨[], c :: t, prev, start, ?_, rfl, by simp, ?_⟩
      · simp [Reader.takeKind, Reader.takeKind.go, hk]
      · rintro d ⟨⟩
        exact hk

/-- The run at the head of a text and the spaces after it are read, and what is left is a text that
does not go on with either. -/
theorem exists_of_readRun {full : Bool} (t : Text) (start : Int) (prev : Option Atom) :
    ∃ letters gap rest s s' prev' stop,
      Node.readRun (.ofWidth full) start ⟨prev, Atom.ofText start t⟩ =
        (Node.letters full letters gap s s', ⟨prev', Atom.ofText stop rest⟩) ∧
      t = letters ++ gap ++ rest ∧ (∀ c ∈ letters, CharKind.of c = .ofWidth full) ∧
      (∀ c ∈ gap, CharKind.of c = .space) ∧
      (∀ c, (gap ++ rest).head? = some c → CharKind.of c ≠ .ofWidth full) ∧
      ∀ c, rest.head? = some c → CharKind.of c ≠ .space := by
  obtain ⟨run, afterRun, prev₁, stop₁, hrun, rfl, hkind, hmax⟩ :=
    exists_of_takeKind_ofText (.ofWidth full) t start prev
  obtain ⟨spaces, rest, prev₂, stop₂, hspaces, rfl, hspace, hmax'⟩ :=
    exists_of_takeKind_ofText .space afterRun stop₁ prev₁
  let last := Reader.runStop start run
  refine ⟨run.map Prod.fst, spaces.map Prod.fst, rest, ⟨start, last⟩,
    ⟨last, Reader.runStop last spaces⟩, prev₂, stop₂, ?_, by rw [List.append_assoc], hkind, hspace,
    hmax, hmax'⟩
  rw [Node.readRun, hrun]
  simp only [Reader.takeSpace, hspaces]
  cases full <;> rfl

/-- A mark is read alone, with the spaces after it. -/
theorem exists_of_readMark {fuel : Nat} {c : Char} (h : isSentenceMark c = true) (t : Text)
    (start : Int) (prev : Option Atom) : ∃ gap rest s s' prev' stop,
      Node.readFuel (fuel + 1) ⟨prev, Atom.ofText start (c :: t)⟩ =
        .ok (Node.mark c gap s s', ⟨prev', Atom.ofText stop rest⟩) ∧
      t = gap ++ rest ∧ (∀ c ∈ gap, CharKind.of c = .space) ∧
      ∀ c, rest.head? = some c → CharKind.of c ≠ .space := by
  obtain ⟨spaces, rest, prev', stop, hspaces, rfl, hspace, hmax⟩ :=
    exists_of_takeKind_ofText .space t (start + c.utf8Size)
      (some (.char c ⟨start, start + c.utf8Size⟩))
  let stop' := start + c.utf8Size
  refine ⟨spaces.map Prod.fst, rest, ⟨start, stop'⟩, ⟨stop', Reader.runStop stop' spaces⟩, prev',
    stop, ?_, rfl, hspace, hmax⟩
  have hletter := isLetter_of_isSentenceMark h
  rw [isLetter] at hletter
  rw [Node.readFuel, Atom.ofText_cons]
  dsimp only
  split
  · next hk => rw [hk] at hletter; cases hletter
  · next hk => rw [hk] at hletter; cases hletter
  · rw [closerOf_of_isPlain (isPlain_of_isSentenceMark h), not_closes_of_isSentenceMark h]
    simp only [Reader.takeSpace, hspaces]
    rfl

theorem sentence_of_readAllFuel {opener : Span} : ∀ {fuel : Nat} {t : Text} {start : Int}
    {prev : Option Atom}, t.length + 2 ≤ fuel → t.IsSentence →
      ∃ ns r, Node.readAllFuel fuel none opener ⟨prev, Atom.ofText start t⟩ = .ok (ns, r) ∧
        Sentence t ns := by
  intro fuel
  induction fuel with
  | zero => intro t start prev hfuel _; omega
  | succ fuel ih =>
    intro t start prev hfuel hsentence
    cases t with
    | nil => exact ⟨[], ⟨prev, []⟩, by simp [Node.readAllFuel, Node.atClose], .nil⟩
    | cons c t =>
      obtain ⟨fuel, rfl⟩ : ∃ m, fuel = m + 1 := ⟨fuel - 1, by simp at hfuel; omega⟩
      -- one node is read, and what is left is a sentence again
      suffices hnode : ∃ n r ns' prev' stop rest,
          Node.readFuel (fuel + 1) ⟨prev, Atom.ofText start (c :: t)⟩ =
            .ok (n, ⟨prev', Atom.ofText stop rest⟩) ∧
          Node.readAllFuel (fuel + 1) none opener ⟨prev', Atom.ofText stop rest⟩ = .ok (ns', r) ∧
          Sentence (c :: t) (n :: ns') by
        obtain ⟨n, r, ns', prev', stop, rest, hread, hothers, hns⟩ := hnode
        refine ⟨n :: ns', r, ?_, hns⟩
        rw [Node.readAllFuel, hread]
        simp [Node.atClose, Atom.isBlockEnd, hothers]
      have hrest : ∀ {rest : Text}, rest ⊆ c :: t →
          (∀ d, rest.head? = some d → CharKind.of d ≠ .space) → Text.IsSentence rest :=
        fun hsub hmax => ⟨fun d hd => hsentence.unenclosed d (hsub hd),
          fun d hd => by simpa [isSpace] using hmax d hd⟩
      simp only [List.length_cons] at hfuel
      cases hletter : isLetter c with
      | true =>
        obtain ⟨full, hkind⟩ := exists_ofWidth hletter
        obtain ⟨letters, gap, rest, s, s', prev', stop, hread, ht, hkinds, hspaces, hmax, hmax'⟩ :=
          @exists_of_readRun full (c :: t) start prev
        -- the run holds the first letter at least
        have hne : letters ≠ [] := by
          rintro rfl
          refine hmax c ?_ hkind
          rw [← List.nil_append (gap ++ rest), ← List.append_assoc, ← ht]
          rfl
        have hlen := congrArg List.length ht
        have hpos := List.length_pos_iff.mpr hne
        simp only [List.length_append, List.length_cons] at hlen
        obtain ⟨ns, r, hns, hruns⟩ := @ih rest stop prev' (by omega)
          (hrest (ht ▸ List.subset_append_right _ _) hmax')
        refine ⟨Node.letters full letters gap s s', r, ns, prev', stop, rest, ?_, hns, ?_⟩
        · rw [← hread]
          cases full <;> simp [Node.readFuel, Atom.ofText_cons, hkind, CharKind.ofWidth]
        · rw [ht]
          refine .run hne hkinds (fun d hd => by simp [isSpace, hspaces d hd]) ?_ hruns
          rintro rfl d hd
          exact hmax d (by simpa using hd)
      | false =>
        obtain ⟨hquote, hbracket⟩ := hsentence.unenclosed c List.mem_cons_self
        have hmark : isSentenceMark c = true := by
          simp [isSentenceMark, hletter, hquote, hbracket, hsentence.head c rfl]
        obtain ⟨gap, rest, s, s', prev', stop, hread, ht, hspaces, hmax⟩ :=
          @exists_of_readMark fuel c hmark t start prev
        have hlen := congrArg List.length ht
        rw [List.length_append] at hlen
        obtain ⟨ns, r, hns, hruns⟩ :=
          @ih rest stop prev' (by omega)
            (hrest (ht ▸ List.subset_cons_of_subset _ (List.subset_append_right _ _)) hmax)
        refine ⟨Node.mark c gap s s', r, ns, prev', stop, rest, hread, hns, ?_⟩
        rw [ht]
        exact .mark hmark (fun d hd => by simp [isSpace, hspaces d hd]) hruns

/-- The block of a paragraph of nothing but text. -/
def Block.ofText (t : Text) : Block :=
  ⟨Span.point 0, ⟨.opening, "paragraph", []⟩, Atom.ofText 0 t, true⟩

/-- **A block of a text in which nothing is enclosed is read as its runs and marks.** -/
theorem exists_sentence {t : Text} (h : t.IsSentence) :
    ∃ ns, (Block.ofText t).parse = .ok ns ∧ Sentence t ns := by
  have hfuel : t.length + 2 ≤ 2 * (Block.ofText t).body.length + 2 := by
    rw [Block.ofText, Atom.length_ofText]
    omega
  obtain ⟨ns, r, hread, hns⟩ := @sentence_of_readAllFuel (Block.ofText t).start _ t 0
    (some (.event (Block.ofText t).opening (Block.ofText t).start)) hfuel h
  refine ⟨ns, ?_, hns⟩
  simp only [Block.ofText] at hread
  simp only [Block.parse, Block.ofText, hread]
  rfl

end CjkProse
