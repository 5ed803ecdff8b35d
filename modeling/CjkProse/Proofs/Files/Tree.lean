import CjkProse.Files.Tree

/-!
# Changing a file of a tree

The bytes of a file that is there can be replaced without any change to the other files.  The names
of files and folders stay, so every path leads where it has led before.

## Main definitions

* `FileTree.SameNames` — two trees that differ in the bytes of their files only.

## Main results

* `FileTree.read_eq_ok_iff` — what is read is what a file holds.
* `FileTree.read_write_self`, `FileTree.file?_write` — **writing changes one file, and no other.**
-/

namespace CjkProse.FileTree

variable {t u v : FileTree} {p q : Path} {parts other : List Text} {bytes old new : List UInt8}

/-! ### The bytes of one file -/

/-- A file that is there is found with its new bytes. -/
theorem find?_map_self {files : List (List Text × List UInt8)}
    (h : (files.find? fun f => f.1 == parts).isSome) :
    ((files.map fun f => if f.1 == parts then (parts, bytes) else f).find? fun f =>
      f.1 == parts) = some (parts, bytes) := by
  induction files with
  | nil => cases h
  | cons f files ih =>
    by_cases hf : f.1 = parts
    · simp [hf]
    · have hne : (f.1 == parts) = false := by simpa using hf
      rw [List.find?_cons, hne] at h
      rw [List.map_cons, hne, if_neg Bool.false_ne_true, List.find?_cons, hne]
      exact ih h

/-- The other files are found as before. -/
theorem find?_map_of_ne (h : other ≠ parts) (files : List (List Text × List UInt8)) :
    ((files.map fun f => if f.1 == parts then (parts, bytes) else f).find? fun f =>
      f.1 == other) = files.find? fun f => f.1 == other := by
  induction files with
  | nil => rfl
  | cons f files ih =>
    rw [List.map_cons, List.find?_cons, List.find?_cons, ih]
    by_cases hf : f.1 = parts
    · have hne : (parts == other) = false := by simpa using Ne.symm h
      simp only [hf, beq_self_eq_true, if_true, hne]
    · have hne : (f.1 == parts) = false := by simpa using hf
      simp only [hne, Bool.false_eq_true, if_false]

theorem file?_put_self (h : (t.file? parts).isSome) :
    (t.put parts bytes).file? parts = some bytes := by
  unfold put
  rw [if_pos h]
  unfold file? at h ⊢
  rw [find?_map_self (by simpa using h)]
  rfl

theorem file?_put_of_ne (h : (t.file? parts).isSome) (hne : other ≠ parts) :
    (t.put parts bytes).file? other = t.file? other := by
  unfold put
  rw [if_pos h]
  unfold file?
  rw [find?_map_of_ne hne]

/-! ### Names -/

/-- Two trees that differ in the bytes of their files only. -/
structure SameNames (t u : FileTree) : Prop where
  /-- The files have the same names. -/
  files : u.files.map Prod.fst = t.files.map Prod.fst
  /-- The folders are the same. -/
  folders : u.folders = t.folders

namespace SameNames

theorem refl (t : FileTree) : SameNames t t := ⟨rfl, rfl⟩

theorem trans (h : SameNames t u) (k : SameNames u v) : SameNames t v :=
  ⟨k.files.trans h.files, k.folders.trans h.folders⟩

theorem isFolder (h : SameNames t u) (parts : List Text) : u.isFolder parts = t.isFolder parts := by
  have hentries : u.entries = t.entries := by
    unfold entries
    rw [h.files, h.folders]
  unfold FileTree.isFolder
  rw [hentries, h.folders]

theorem follow (h : SameNames t u) (reached parts : List Text) :
    u.follow reached parts = t.follow reached parts := by
  induction parts generalizing reached with
  | nil => rfl
  | cons part parts ih =>
    unfold FileTree.follow
    simp only [h.isFolder, ih]

/-- Paths lead to the same places. -/
theorem locate (h : SameNames t u) (p : Path) : u.locate p = t.locate p := by
  unfold FileTree.locate
  rw [h.follow]

end SameNames

theorem sameNames_put (h : (t.file? parts).isSome) : SameNames t (t.put parts bytes) := by
  unfold put
  rw [if_pos h]
  refine ⟨?_, rfl⟩
  rw [List.map_map]
  apply List.map_congr_left
  intro f hf
  by_cases hname : f.1 = parts
  · simp [hname]
  · simp [hname]

/-! ### Reading and writing -/

/-- What is read is what the file holds that the path leads to. -/
theorem read_eq_ok_iff :
    t.read p = .ok bytes ↔ ∃ parts, t.locate p = some parts ∧ t.file? parts = some bytes := by
  unfold read
  cases hlocate : t.locate p with
  | none => simp
  | some parts =>
    cases hfile : t.file? parts with
    | none => cases hfolder : t.isFolder parts <;> simp [hfile, hfolder]
    | some held => simp [hfile]

/-- A file can be read. -/
theorem exists_read_of_kind? (h : (t.locate p).bind t.kind? = some .file) :
    ∃ bytes, t.read p = .ok bytes := by
  obtain ⟨parts, hlocate, hkind⟩ := Option.bind_eq_some_iff.mp h
  unfold kind? at hkind
  split at hkind
  · next hfile =>
    obtain ⟨bytes, hbytes⟩ := Option.isSome_iff_exists.mp hfile
    exact ⟨bytes, read_eq_ok_iff.mpr ⟨parts, hlocate, hbytes⟩⟩
  · split at hkind <;> cases hkind

/-- Writing replaces a file. -/
theorem write_eq (h : t.locate p = some parts) : t.write p bytes = t.put parts bytes := by
  unfold write
  rw [h]

theorem sameNames_write (h : t.read p = .ok old) : SameNames t (t.write p new) := by
  obtain ⟨parts, hlocate, hfile⟩ := read_eq_ok_iff.mp h
  rw [write_eq hlocate]
  exact sameNames_put (by rw [hfile]; rfl)

/-- A file that the path does not lead to is the same as before. -/
theorem file?_write (h : t.read p = .ok old) (hne : t.locate p ≠ some other) :
    (t.write p new).file? other = t.file? other := by
  obtain ⟨parts, hlocate, hfile⟩ := read_eq_ok_iff.mp h
  rw [write_eq hlocate]
  apply file?_put_of_ne (by rw [hfile]; rfl)
  intro heq
  rw [heq] at hne
  exact hne hlocate

/-- What has been written is read. -/
theorem read_write_self (h : t.read p = .ok old) : (t.write p new).read p = .ok new := by
  have hnames : SameNames t (t.write p new) := sameNames_write h
  obtain ⟨parts, hlocate, hfile⟩ := read_eq_ok_iff.mp h
  apply read_eq_ok_iff.mpr
  refine ⟨parts, (hnames.locate p).trans hlocate, ?_⟩
  rw [write_eq hlocate]
  exact file?_put_self (by rw [hfile]; rfl)

end CjkProse.FileTree
