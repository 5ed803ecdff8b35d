import CjkProse.Proofs.Reading.Legible
import CjkProse.Proofs.Reading.Nesting

/-!
# Reading a tree again

A tree in which values have been revised is written out with the values in force, and read again.
If it is legible, and the marks of its quotations tell which way they point, the same marks are paired
again.  Runs need not come out as they were: where a space is gone, two of them may be read as one.

## Main definitions

* `Revisable.accept`, `Paragraph.accept` — the values in force, as if they had been read.
* `Atom.content`, `Paragraph.content` — what an atom is, wherever it stands, and what the atoms of a
  paragraph are.
* `PassedOver` — the scan passes over some atoms and finds some pairs of marks.

## Main results

* `Paragraph.passedOver` — the scan passes over legible nodes, and finds their pairs.
* `Block.parse_of_isLegible` — **what is legible is read again with the same pairs of marks.**
-/

namespace CjkProse

open Reader (isHalfLetter)

/-! ### Values in force -/

/-- The value in force, as if it had been read. -/
def Revisable.accept {α : Type} (v : Revisable α) : Revisable α :=
  { original := v.value, span := v.span }

mutual

/-- A node with its values in force, as if it had been read. -/
def Node.accept : Node → Node
  | .char v a => .char v.accept a.accept
  | .half v a => .half v.accept a.accept
  | .full v a => .full v.accept a.accept
  | .event e s a => .event e s a.accept
  | .group o inner ns c a => .group o.accept inner.accept (Paragraph.accept ns) c.accept a.accept

/-- Nodes with their values in force, as if they had been read. -/
def Paragraph.accept : List Node → List Node
  | [] => []
  | n :: ns => n.accept :: Paragraph.accept ns

end

mutual

/-- The quotations of a node with its values in force. -/
theorem Node.quotations_accept : ∀ n : Node,
    n.accept.quotations Revisable.original = n.quotations Revisable.value
  | .group o inner ns c a => by
    rw [Node.accept, Node.quotations, Node.quotations, Paragraph.quotations_accept ns]
    rfl
  | .char v a => by rw [Node.accept, Node.quotations, Node.quotations]
  | .half v a => by rw [Node.accept, Node.quotations, Node.quotations]
  | .full v a => by rw [Node.accept, Node.quotations, Node.quotations]
  | .event e s a => by rw [Node.accept, Node.quotations, Node.quotations]

/-- The quotations of nodes with their values in force. -/
theorem Paragraph.quotations_accept : ∀ ns : List Node,
    Paragraph.quotations Revisable.original (Paragraph.accept ns) =
      Paragraph.quotations Revisable.value ns
  | [] => by rw [Paragraph.accept, Paragraph.quotations, Paragraph.quotations]
  | n :: ns => by
    rw [Paragraph.accept, Paragraph.quotations, Paragraph.quotations, Node.quotations_accept n,
      Paragraph.quotations_accept ns]

end

/-- What an atom is, wherever it stands. -/
def Atom.content : Atom → Char ⊕ Event
  | .char c _ => .inl c
  | .event e _ => .inr e

/-- What the atoms of a paragraph are. -/
def Paragraph.content (ns : List Node) : List (Char ⊕ Event) := (flatten ns).map Atom.content

/-- What the atoms of a node are. -/
def Node.content (n : Node) : List (Char ⊕ Event) :=
  (n.leaves.flatMap Leaf.atoms).map Atom.content

theorem Atom.map_content_ofText (t : Text) : ∀ start : Int,
    (Atom.ofText start t).map Atom.content = t.map .inl := by
  induction t with
  | nil => intro start; rfl
  | cons c t ih => intro start; simp [ih, Atom.content]

@[simp] theorem Paragraph.content_nil : Paragraph.content [] = [] := by
  simp [Paragraph.content, Paragraph.flatten]

@[simp] theorem Paragraph.content_cons (n : Node) (ns : List Node) :
    Paragraph.content (n :: ns) = n.content ++ Paragraph.content ns := by
  simp [Paragraph.content, Paragraph.flatten, Node.content]

theorem Node.length_content (n : Node) : n.content.length = n.size := by
  rw [content, List.length_map, size]

theorem Paragraph.length_content (ns : List Node) : (content ns).length = size ns := by
  rw [content, List.length_map, size]

theorem Node.content_char (v : Revisable Char) (a : Revisable Space) :
    (Node.char v a).content = .inl v.original :: a.original.map .inl := by
  simp [content, leaves, Leaf.atoms, Atom.content, Atom.map_content_ofText]

theorem Node.content_half (v : Revisable Text) (a : Revisable Space) :
    (Node.half v a).content = (v.original ++ a.original).map .inl := by
  simp [content, leaves, Leaf.atoms, Atom.map_content_ofText]

theorem Node.content_full (v : Revisable Text) (a : Revisable Space) :
    (Node.full v a).content = (v.original ++ a.original).map .inl := by
  simp [content, leaves, Leaf.atoms, Atom.map_content_ofText]

theorem Node.content_event (e : Event) (s : Span) (a : Revisable Space) :
    (Node.event e s a).content = .inr e :: a.original.map .inl := by
  simp [content, leaves, Leaf.atoms, Atom.content, Atom.map_content_ofText]

theorem Node.content_group (o : Revisable Char) (inner : Revisable Space) (ns : List Node)
    (c : Revisable Char) (a : Revisable Space) :
    (Node.group o inner ns c a).content =
      .inl o.original :: (inner.original.map .inl ++
        (Paragraph.content ns ++ .inl c.original :: a.original.map .inl)) := by
  simp [content, leaves, Leaf.atoms, Atom.content, Atom.map_content_ofText, Paragraph.content,
    Paragraph.flatten]

/-! ### Reading it again -/

/-- From `i` atoms on, the last of which is `prev`, the scan passes over the atoms `as`, after which
`rest` comes, and finds pairs with the given marks.  It does so whatever quotations are open, and
leaves these open. -/
structure PassedOver (i : Nat) (prev : Option Atom) (as rest : List Atom)
    (marks : List ((Nat × Char) × (Nat × Char))) : Prop where
  /-- No block ends among the atoms. -/
  inside : ∀ a ∈ as, a.isBlockEnd = false
  /-- The scan goes on after them. -/
  scan : ∀ stack, ClosersOk stack → ∃ pairs : List QuotePair, pairs.map QuotePair.marks = marks ∧
    scanQuotes stack i prev (as ++ rest) =
      (scanQuotes stack (i + as.length) (as.getLast?.or prev) rest).map (pairs ++ ·)

namespace PassedOver

variable {i : Nat} {prev : Option Atom} {as bs rest : List Atom}
  {ms ms' : List ((Nat × Char) × (Nat × Char))}

theorem append (h : PassedOver i prev as (bs ++ rest) ms)
    (h' : PassedOver (i + as.length) (as.getLast?.or prev) bs rest ms') :
    PassedOver i prev (as ++ bs) rest (ms ++ ms') := by
  refine ⟨List.forall_mem_append.mpr ⟨h.inside, h'.inside⟩, fun stack hstack => ?_⟩
  obtain ⟨pairs, hpairs, hscan⟩ := h.scan stack hstack
  obtain ⟨pairs', hpairs', hscan'⟩ := h'.scan stack hstack
  refine ⟨pairs ++ pairs', by rw [List.map_append, hpairs, hpairs'], ?_⟩
  rw [List.append_assoc, hscan, hscan', Except.map_append_map, List.length_append,
    List.getLast?_append, Option.or_assoc, Nat.add_assoc]

/-- Atoms that the scan passes over wherever they stand. -/
theorem of_isPassed (has : ∀ a ∈ as, a.isPassed = true) : PassedOver i prev as rest [] := by
  refine ⟨fun a ha => ?_, fun stack hstack => ⟨[], rfl, ?_⟩⟩
  · cases a with
    | char c s => rfl
    | event e s => simpa [Atom.isPassed, Atom.isBlockEnd] using has _ ha
  · rw [scanQuotes_append hstack as i prev has, Except.map_nil_append]

/-- An apostrophe directly between two half-width letters. -/
theorem apostrophe (hprev : isHalfLetter prev = true) (hnext : isHalfLetter rest.head? = true)
    (s : Span) : PassedOver i prev [.char '\'' s] rest [] := by
  refine ⟨List.forall_mem_singleton.mpr rfl, fun stack _ => ⟨[], rfl, ?_⟩⟩
  have hstep : stepQuote stack (isContraction prev '\'' rest.head?) ⟨i, '\'', s⟩ =
      .ok ([], stack) := by
    have hwestern : Punct.closing? '\'' = none ∧ Punct.chineseRightQuote.contains '\'' = false := by
      decide
    simp only [stepQuote, isContraction, hprev, hnext, hwestern]
    simp
  rw [List.singleton_append, scanQuotes, hstep]
  rfl

/-- A quotation between marks that tell which way they point. -/
theorem quotation {o c : Char} (marks : Punct.IsDirected o c) {s t : Span}
    (h : PassedOver (i + 1) (some (.char o s)) as (.char c t :: rest) ms) :
    PassedOver i prev (.char o s :: (as ++ [.char c t])) rest
      (ms ++ [((i, o), (i + 1 + as.length, c))]) := by
  have hdirected : Punct.chineseQuotes.all (fun q => !isClosingMark q.1 && q.2 != '\'') = true := by
    decide
  have hmem := List.all_eq_true.mp hdirected _ (closing?_eq_some marks)
  simp only [Bool.and_eq_true, Bool.not_eq_true', bne_iff_ne, ne_eq] at hmem
  refine ⟨List.forall_mem_cons.mpr ⟨rfl, List.forall_mem_append.mpr
    ⟨h.inside, List.forall_mem_singleton.mpr rfl⟩⟩, fun stack hstack => ?_⟩
  -- the opening mark closes nothing, so it is pushed
  have hopen : stepQuote stack (isContraction prev o (as ++ .char c t :: rest).head?) ⟨i, o, s⟩ =
      .ok ([], ⟨⟨i, o, s⟩, c⟩ :: stack) := by
    have htop : (stack.head?.any fun q => q.closer == o) = false := by
      cases stack with
      | nil => rfl
      | cons q below =>
        simp only [List.head?_cons, Option.any_some, beq_eq_false_iff_ne, ne_eq]
        intro hq
        have := hstack q List.mem_cons_self
        rw [hq, hmem.1] at this
        cases this
    rw [stepQuote, htop, show Punct.closing? o = some c from marks]
    rfl
  have hstack' : ClosersOk (⟨⟨i, o, s⟩, c⟩ :: stack) :=
    List.forall_mem_cons.mpr ⟨isClosingMark_of_closing? marks, hstack⟩
  obtain ⟨pairs, hpairs, hscan⟩ := h.scan _ hstack'
  -- the closing mark is no apostrophe, so it pops it again
  have hclose : stepQuote (⟨⟨i, o, s⟩, c⟩ :: stack)
      (isContraction (as.getLast?.or (some (.char o s))) c rest.head?) ⟨i + 1 + as.length, c, t⟩ =
      .ok ([⟨⟨i, o, s⟩, ⟨i + 1 + as.length, c, t⟩⟩], stack) := by
    simp [stepQuote, isContraction, hmem.2]
  refine ⟨pairs ++ [⟨⟨i, o, s⟩, ⟨i + 1 + as.length, c, t⟩⟩], ?_, ?_⟩
  · rw [List.map_append, hpairs]
    rfl
  · have hlength : i + (.char o s :: (as ++ [Atom.char c t])).length = i + 1 + as.length + 1 := by
      simp only [List.length_cons, List.length_append, List.length_nil]
      omega
    have hlast : (.char o s :: (as ++ [Atom.char c t])).getLast?.or prev = some (.char c t) := by
      rw [← List.cons_append, List.getLast?_append]
      rfl
    rw [hlength, hlast, List.cons_append, List.append_assoc, List.singleton_append, scanQuotes,
      hopen]
    simp only [Except.map_nil_append]
    rw [hscan, scanQuotes, hclose, Except.map_append_map]

end PassedOver

/-! ### Atoms by their content -/

theorem content_mem_of_map {as : List Atom} {xs : List (Char ⊕ Event)}
    (h : as.map Atom.content = xs) {a : Atom} (ha : a ∈ as) : a.content ∈ xs := by
  rw [← h]
  exact List.mem_map_of_mem ha

/-- Characters that the scan passes over. -/
theorem isPassed_of_content {as : List Atom} {t : Text} (h : as.map Atom.content = t.map .inl)
    (ht : ∀ c ∈ t, isPlain c = true) : ∀ a ∈ as, a.isPassed = true := by
  intro a ha
  obtain ⟨c, hc, hac⟩ := List.mem_map.mp (content_mem_of_map h ha)
  cases a with
  | char d s => cases hac; exact ht c hc
  | event e s => cases hac

/-- Half-width letters. -/
theorem isHalfLetter_of_content {as : List Atom} {t : Text} (h : as.map Atom.content = t.map .inl)
    (ht : ∀ c ∈ t, CharKind.of c = .letterHalf) : ∀ a ∈ as, isHalfLetter (some a) = true := by
  intro a ha
  obtain ⟨c, hc, hac⟩ := List.mem_map.mp (content_mem_of_map h ha)
  cases a with
  | char d s => cases hac; simp [isHalfLetter, Atom.isKind, ht c hc]
  | event e s => cases hac

theorem Revisable.IsBlank.isPlain {a : Revisable Space} (h : a.IsBlank) :
    ∀ c ∈ a.value, isPlain c = true :=
  fun c hc => isPlain_of_kind (.inl (by simpa [isSpace] using h.2 c hc))

theorem Revisable.value_of_modified {α : Type} {v : Revisable α} (h : v.modified = none) :
    v.value = v.original := by rw [value, h, Option.getD_none]

theorem Node.IsTight.value {n : Node} (h : n.IsTight) : n.after.value = [] :=
  (Revisable.value_of_modified h.2).trans h.1

namespace Paragraph

/-- A half-width run that comes first starts with a half-width letter. -/
theorem isHalfLetter_head {ns : List Node} {q : Char → Char → Prop} (h : IsLegible q ns)
    (half : ns.head?.any Node.isHalf = true) {as : List Atom}
    (hcontent : as.map Atom.content = content (accept ns)) (rest : List Atom) :
    isHalfLetter (as ++ rest).head? = true := by
  cases ns with
  | nil => cases half
  | cons n ns =>
    cases n with
    | half v a =>
      obtain ⟨-, hlegible, -⟩ := isLegible_cons.mp h
      obtain ⟨hfresh, hne, hkind, -⟩ := hlegible
      obtain ⟨c, t, ht⟩ := List.exists_cons_of_ne_nil hne
      rw [accept, content_cons, Node.accept, Node.content_half, Revisable.accept,
        Revisable.value_of_modified hfresh, ht] at hcontent
      obtain ⟨b, bs, rfl, hb, -⟩ := List.map_eq_cons_iff.mp hcontent
      have hhalf := @isHalfLetter_of_content [b] [c] (by rw [List.map_singleton, hb]; rfl)
        (by simpa using hkind c (by simp [ht]))
      simpa using hhalf b List.mem_cons_self
    | char v a => cases half
    | full v a => cases half
    | event e s a => cases half
    | group o inner ns c a => cases half

end Paragraph

/-- A half-width run without a space after it ends with a half-width letter. -/
theorem Node.isHalfLetter_getLast? {n : Node} {q : Char → Char → Prop} (h : n.IsLegible q)
    (half : n.isHalf = true) (tight : n.IsTight) {as : List Atom}
    (hcontent : as.map Atom.content = n.accept.content) (prev : Option Atom) :
    isHalfLetter (as.getLast?.or prev) = true := by
  cases n with
  | half v a =>
    obtain ⟨hfresh, hne, hkind, -⟩ := h
    have hvalue : a.value = [] := tight.value
    rw [accept, content_half, Revisable.accept, Revisable.accept, hvalue, List.append_nil,
      Revisable.value_of_modified hfresh] at hcontent
    cases hlast : as.getLast? with
    | none =>
      rw [List.getLast?_eq_none_iff.mp hlast] at hcontent
      exact absurd (by simpa using hcontent.symm) hne
    | some b =>
      exact isHalfLetter_of_content hcontent hkind b (List.mem_of_getLast? hlast)
  | char v a => cases half
  | full v a => cases half
  | event e s a => cases half
  | group o inner ns c a => cases half

mutual

/-- The scan passes over a node that is legible, and finds its pairs. -/
theorem Node.passedOver {i : Nat} {prev : Option Atom} {as rest : List Atom} : ∀ n : Node,
    n.Delimited Punct.IsDirected → n.IsLegible Punct.IsDirected →
    (n.IsApostrophe → isHalfLetter prev = true ∧ n.IsTight ∧ isHalfLetter rest.head? = true) →
    as.map Atom.content = n.accept.content →
      PassedOver i prev as rest ((n.accept.quotePairs i).map QuotePair.marks)
  | .char v a, _, ⟨hv, ha⟩, hapostrophe, hcontent => by
    rw [Node.accept, Node.content_char, Revisable.accept, Revisable.accept] at hcontent
    rw [Node.accept, Node.quotePairs]
    rcases hv with ⟨-, hplain⟩ | ⟨horiginal, hfresh⟩
    · refine .of_isPassed (isPassed_of_content (t := v.value :: a.value) hcontent ?_)
      exact List.forall_mem_cons.mpr ⟨hplain, ha.isPlain⟩
    · obtain ⟨hprev, htight, hnext⟩ := hapostrophe horiginal
      have hvalue : a.value = [] := htight.value
      rw [hvalue, Revisable.value_of_modified hfresh, horiginal] at hcontent
      obtain ⟨b, bs, rfl, hb, hbs⟩ := List.map_eq_cons_iff.mp hcontent
      obtain rfl := List.map_eq_nil_iff.mp hbs
      cases b with
      | char c s => cases hb; exact .apostrophe hprev hnext s
      | event e s => cases hb
  | .half v a, _, ⟨hfresh, _, hkind, ha⟩, _, hcontent => by
    rw [Node.accept, Node.content_half, Revisable.accept, Revisable.accept,
      Revisable.value_of_modified hfresh] at hcontent
    rw [Node.accept, Node.quotePairs]
    refine .of_isPassed (isPassed_of_content hcontent (List.forall_mem_append.mpr
      ⟨fun c hc => isPlain_of_kind (.inr (by rw [hkind c hc]; rfl)), ha.isPlain⟩))
  | .full v a, _, ⟨hfresh, hkind, ha⟩, _, hcontent => by
    rw [Node.accept, Node.content_full, Revisable.accept, Revisable.accept,
      Revisable.value_of_modified hfresh] at hcontent
    rw [Node.accept, Node.quotePairs]
    refine .of_isPassed (isPassed_of_content hcontent (List.forall_mem_append.mpr
      ⟨fun c hc => isPlain_of_kind (.inr (by rw [hkind c hc]; rfl)), ha.isPlain⟩))
  | .event e s a, _, ⟨hinside, ha⟩, _, hcontent => by
    rw [Node.accept, Node.content_event, Revisable.accept] at hcontent
    rw [Node.accept, Node.quotePairs]
    obtain ⟨b, bs, rfl, hb, hbs⟩ := List.map_eq_cons_iff.mp hcontent
    refine .of_isPassed (List.forall_mem_cons.mpr ⟨?_, isPassed_of_content hbs ha.isPlain⟩)
    cases b with
    | char c t => cases hb
    | event e' t => cases hb; simp [Atom.isPassed, hinside]
  | .group o inner ns c a, hmarks, h, _, hcontent => by
    rw [Node.IsLegible] at h
    obtain ⟨hinner, hflush, hns, ha⟩ := h
    rw [Node.accept, Node.content_group] at hcontent
    -- the atoms are the opening mark, its space, what is inside, the closing mark and its space
    obtain ⟨b, bs, rfl, hb, hbs⟩ := List.map_eq_cons_iff.mp hcontent
    obtain ⟨sp, bs, rfl, hsp, hbs⟩ := List.map_eq_append_iff.mp hbs
    obtain ⟨is, bs, rfl, his, hbs⟩ := List.map_eq_append_iff.mp hbs
    obtain ⟨d, sp', rfl, hd, hsp'⟩ := List.map_eq_cons_iff.mp hbs
    cases b with
    | event e s => cases hb
    | char b s =>
      cases hb
      cases d with
      | event e t => cases hd
      | char d t =>
        cases hd
        have hopen := @PassedOver.of_isPassed (i + 1) (some (.char o.accept.original s)) sp
          (is ++ .char c.accept.original t :: (sp' ++ rest)) (isPassed_of_content hsp hinner.isPlain)
        have hinside := @Paragraph.passedOver (i + 1 + sp.length)
          (sp.getLast?.or (some (.char o.accept.original s))) is
          (.char c.accept.original t :: (sp' ++ rest)) False ns hns hflush False.elim his
        have hclose := @PassedOver.of_isPassed
          (i + (.char o.accept.original s :: (sp ++ is ++ [.char c.accept.original t])).length)
          ((.char o.accept.original s :: (sp ++ is ++ [.char c.accept.original t])).getLast?.or prev)
          sp' rest (isPassed_of_content hsp' ha.isPlain)
        have hmarks' : Punct.IsDirected o.accept.original c.accept.original := hmarks
        have hquotation := @PassedOver.quotation i prev _ _ _ _ _ hmarks' s t (hopen.append hinside)
        have hgroup := hquotation.append hclose
        have hsplen : sp.length = inner.accept.original.length := by
          simpa using congrArg List.length hsp
        have hislen : is.length = Paragraph.size (Paragraph.accept ns) := by
          rw [← Paragraph.length_content, ← his, List.length_map]
        rw [Node.accept, Node.quotePairs]
        simpa [QuotePair.marks, hsplen, hislen, Nat.add_assoc] using hgroup

/-- The scan passes over some nodes that are legible, and finds their pairs. -/
theorem Paragraph.passedOver {i : Nat} {prev : Option Atom} {as rest : List Atom} {w : Prop} :
    ∀ ns : List Node, Paragraph.IsLegible Punct.IsDirected ns → Paragraph.Flush w ns →
    (w → isHalfLetter prev = true) → as.map Atom.content = Paragraph.content (Paragraph.accept ns) →
      PassedOver i prev as rest ((Paragraph.quotePairs i (Paragraph.accept ns)).map QuotePair.marks)
  | [], _, _, _, hcontent => by
    rw [Paragraph.accept, Paragraph.content_nil, List.map_eq_nil_iff] at hcontent
    subst hcontent
    rw [Paragraph.accept, Paragraph.quotePairs]
    exact .of_isPassed nofun
  | n :: ns, h, hflush, hw, hcontent => by
    obtain ⟨hmarks, hn, hns⟩ := Paragraph.isLegible_cons.mp h
    rw [Paragraph.accept, Paragraph.content_cons] at hcontent
    obtain ⟨bs, cs, rfl, hbs, hcs⟩ := List.map_eq_append_iff.mp hcontent
    have hnode := @Node.passedOver i prev bs (cs ++ rest) n hmarks hn (fun hapostrophe => by
      obtain ⟨hword, htight, hnext⟩ := hflush.1 hapostrophe
      exact ⟨hw hword, htight, Paragraph.isHalfLetter_head hns hnext hcs rest⟩) hbs
    have hrest := @Paragraph.passedOver (i + bs.length) (bs.getLast?.or prev) cs rest _ ns hns
      hflush.2 (fun hhalf => Node.isHalfLetter_getLast? hn hhalf.1 hhalf.2 hbs prev) hcs
    have hlength : bs.length = n.accept.size := by
      rw [← Node.length_content, ← hbs, List.length_map]
    rw [hlength] at hrest
    rw [Paragraph.accept, Paragraph.quotePairs, List.map_append]
    exact hnode.append (by rw [hlength]; exact hrest)

end

/-- **What is legible, with marks that tell which way they point, is read again with the same pairs
of marks**, wherever its atoms stand. -/
theorem Block.parse_of_isLegible {b : Block} (closed : b.closed = true) {ns : List Node}
    (h : Paragraph.IsLegible Punct.IsDirected ns) (hflush : Paragraph.Flush False ns)
    (hbody : b.body.map Atom.content = Paragraph.content (Paragraph.accept ns)) :
    ∃ ms, b.parse = .ok ms ∧ (Paragraph.quotePairs 0 ms).map QuotePair.marks =
      (Paragraph.quotePairs 0 (Paragraph.accept ns)).map QuotePair.marks := by
  obtain ⟨inside, scan⟩ := @Paragraph.passedOver 0 (some (.event b.opening b.start)) b.body [] False
    ns h hflush False.elim hbody
  obtain ⟨pairs, hpairs, hscan⟩ := scan [] nofun
  have hparse := Block.map_quotePairs_parse closed inside
  rw [List.append_nil] at hscan
  rw [hscan, scanQuotes, finishScan] at hparse
  cases hresult : b.parse with
  | error e =>
    rw [hresult] at hparse
    cases hparse
  | ok ms =>
    rw [hresult] at hparse
    refine ⟨ms, rfl, ?_⟩
    rw [← hpairs]
    have hms : Paragraph.quotePairs 0 ms = pairs ++ [] := Except.ok.inj hparse
    rw [hms, List.append_nil]

end CjkProse
