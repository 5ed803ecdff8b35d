import CjkProse.Node.OfAtoms

/-!
# Passing over atoms

A reader only moves forward: whatever it reads, it passes a beginning of the atoms to come, and
remembers the last atom of it.  Runs of one kind of character are the longest ones that stand at the
head.

## Main definitions

* `Atom.ofRun` — the atoms of a run of characters.
* `Reader.Passes` — a reader gets to another place by passing some atoms.

## Main results

* `Reader.takeKind_passes`, `Reader.kind_of_mem_takeKind`, `Reader.takeKind_maximal` — what
  `takeKind` passes is the longest run of its kind.
* `Reader.takeSpace_passes`, `Reader.isSpace_of_mem_spaceRun` — what `takeSpace` passes is a run of
  spaces.
-/

namespace CjkProse

/-- The atoms of a run of characters. -/
def Atom.ofRun (run : List (Char × Span)) : List Atom := run.map fun p => .char p.1 p.2

@[simp] theorem Atom.ofRun_nil : Atom.ofRun [] = [] := rfl

@[simp] theorem Atom.ofRun_cons (p : Char × Span) (run : List (Char × Span)) :
    Atom.ofRun (p :: run) = .char p.1 p.2 :: Atom.ofRun run := rfl

@[simp] theorem Atom.length_ofRun (run : List (Char × Span)) :
    (Atom.ofRun run).length = run.length := by simp [Atom.ofRun]

@[simp] theorem Atom.length_ofText (t : Text) : ∀ start : Int,
    (Atom.ofText start t).length = t.length := by
  induction t with
  | nil => intro start; rfl
  | cons c cs ih => intro start; simp [ih]

theorem Atom.mem_ofRun {run : List (Char × Span)} {a : Atom} :
    a ∈ Atom.ofRun run ↔ ∃ p ∈ run, Atom.char p.1 p.2 = a := by simp [Atom.ofRun]

namespace Reader

/-- The reader `r'` is where `r` gets to by passing the atoms `as`. -/
structure Passes (r : Reader) (as : List Atom) (r' : Reader) : Prop where
  /-- The atoms passed stand at the head. -/
  rest : r.rest = as ++ r'.rest
  /-- The last of them is the atom just read. -/
  prev : r'.prev = as.getLast?.or r.prev

theorem Passes.refl (r : Reader) : r.Passes [] r := ⟨rfl, rfl⟩

theorem Passes.trans {r r' r'' : Reader} {as bs : List Atom} (h : r.Passes as r')
    (h' : r'.Passes bs r'') : r.Passes (as ++ bs) r'' := by
  refine ⟨?_, ?_⟩
  · rw [h.rest, h'.rest, List.append_assoc]
  · rw [h'.prev, h.prev, List.getLast?_append, Option.or_assoc]

theorem Passes.head {r : Reader} {a : Atom} {rest : List Atom} (h : r.rest = a :: rest) :
    r.Passes [a] ⟨some a, rest⟩ := ⟨h, rfl⟩

/-! ### Runs of one kind -/

theorem takeKind_go_passes (k : CharKind) : ∀ (rest : List Atom) (prev : Option Atom),
    Passes ⟨prev, rest⟩ (Atom.ofRun (takeKind.go k prev rest).1) (takeKind.go k prev rest).2 := by
  intro rest
  induction rest with
  | nil => intro prev; exact Passes.refl _
  | cons a rest ih =>
    intro prev
    cases a with
    | event e s => exact Passes.refl _
    | char c s =>
      by_cases hk : CharKind.of c = k
      · simp only [takeKind.go, hk, if_true]
        exact (Passes.head rfl).trans (ih (some (.char c s)))
      · simp only [takeKind.go, hk, if_false]
        exact Passes.refl _

theorem takeKind_passes (k : CharKind) (r : Reader) :
    r.Passes (Atom.ofRun (r.takeKind k).1) (r.takeKind k).2 :=
  takeKind_go_passes k r.rest r.prev

theorem kind_of_mem_takeKind_go (k : CharKind) : ∀ (rest : List Atom) (prev : Option Atom),
    ∀ p ∈ (takeKind.go k prev rest).1, CharKind.of p.1 = k := by
  intro rest
  induction rest with
  | nil => intro prev p hp; simp [takeKind.go] at hp
  | cons a rest ih =>
    intro prev p hp
    cases a with
    | event e s => simp [takeKind.go] at hp
    | char c s =>
      by_cases hk : CharKind.of c = k
      · simp only [takeKind.go, hk, if_true, List.mem_cons] at hp
        rcases hp with rfl | hp
        · exact hk
        · exact ih _ p hp
      · simp [takeKind.go, hk] at hp

theorem kind_of_mem_takeKind {k : CharKind} {r : Reader} {p : Char × Span}
    (hp : p ∈ (r.takeKind k).1) : CharKind.of p.1 = k :=
  kind_of_mem_takeKind_go k r.rest r.prev p hp

theorem takeKind_go_maximal (k : CharKind) : ∀ (rest : List Atom) (prev : Option Atom),
    (takeKind.go k prev rest).2.rest.head?.any (Atom.isKind k) = false := by
  intro rest
  induction rest with
  | nil => intro prev; rfl
  | cons a rest ih =>
    intro prev
    cases a with
    | event e s => rfl
    | char c s =>
      by_cases hk : CharKind.of c = k
      · simp only [takeKind.go, hk, if_true]
        exact ih _
      · simp [takeKind.go, hk, Atom.isKind]

/-- A run ends only where its kind does. -/
theorem takeKind_maximal (k : CharKind) (r : Reader) :
    (r.takeKind k).2.rest.head?.any (Atom.isKind k) = false :=
  takeKind_go_maximal k r.rest r.prev

/-- A run that starts with its first character is that character and the run after it. -/
theorem takeKind_cons {k : CharKind} {prev : Option Atom} {c : Char} {s : Span}
    {rest : List Atom} (hk : CharKind.of c = k) :
    takeKind k ⟨prev, .char c s :: rest⟩ =
      ((c, s) :: (takeKind k ⟨some (.char c s), rest⟩).1,
        (takeKind k ⟨some (.char c s), rest⟩).2) := by
  simp [takeKind, takeKind.go, hk]

/-! ### Spaces -/

/-- The characters that `takeSpace` reads. -/
def spaceRun (r : Reader) : List (Char × Span) := (r.takeKind .space).1

theorem takeSpace_fst (anchor : Int) (r : Reader) :
    (r.takeSpace anchor).1 =
      { original := r.spaceRun.map Prod.fst, span := ⟨anchor, runStop anchor r.spaceRun⟩ } := rfl

theorem takeSpace_passes (anchor : Int) (r : Reader) :
    r.Passes (Atom.ofRun r.spaceRun) (r.takeSpace anchor).2 :=
  takeKind_passes .space r

theorem isSpace_of_mem_spaceRun {r : Reader} {p : Char × Span} (hp : p ∈ r.spaceRun) :
    CharKind.of p.1 = .space :=
  kind_of_mem_takeKind hp

end Reader

end CjkProse
