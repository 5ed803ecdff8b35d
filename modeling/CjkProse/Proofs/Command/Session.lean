import CjkProse.Command.Run
import CjkProse.Proofs.Files.Tree

/-!
# Looking without touching

Finding files and reading the settings leave a session as it is, and so does a logger that has no
file.  Whatever a pattern finds is a file, which can be read.

## Main definitions

* `Session.ReadsOnly` — a command that leaves a session as it is.

## Main results

* `Session.readsOnly_files`, `Session.readsOnly_loadConfig` — finding files, reading settings.
* `Session.exists_read_of_mem_files` — what a pattern finds can be read.
-/

namespace CjkProse.Session

/-- Whether a command leaves a session as it is. -/
def ReadsOnly {α : Type} (act : StateM Session α) : Prop := ∀ s, (act.run s).2 = s

variable {α β : Type} {depth : Nat} {level : LogLevel}

namespace ReadsOnly

/-- What comes next finds the session as it was. -/
theorem run_bind {act : StateM Session α} (h : ReadsOnly act) (next : α → StateM Session β)
    (s : Session) : (act >>= next).run s = (next (act.run s).1).run s := by
  show (next (act.run s).1).run (act.run s).2 = _
  rw [h]

theorem pure (a : α) : ReadsOnly (Pure.pure a) := fun _ => rfl

theorem bind {act : StateM Session α} {next : α → StateM Session β} (h : ReadsOnly act)
    (k : ∀ a, ReadsOnly (next a)) : ReadsOnly (act >>= next) := by
  intro s
  rw [h.run_bind]
  exact k _ s

end ReadsOnly

/-! ### Finding files -/

theorem readsOnly_kind? (p : Path) : ReadsOnly ((workspace depth).kind? p) := fun _ => rfl

theorem readsOnly_members (p : Path) : ReadsOnly ((workspace depth).members p) := fun _ => rfl

theorem readsOnly_read (p : Path) : ReadsOnly ((workspace depth).read p) := fun _ => rfl

theorem readsOnly_gather {find : α → StateM Session (List β)} (h : ∀ a, ReadsOnly (find a))
    (as : List α) : ReadsOnly (Glob.gather find as) := by
  induction as with
  | nil => exact .pure []
  | cons a as ih =>
    unfold Glob.gather
    exact (h a).bind fun _ => ih.bind fun _ => .pure _

theorem readsOnly_membersOf (foldersOnly : Bool) (p : Path) :
    ReadsOnly (Glob.membersOf (workspace depth) foldersOnly p) :=
  (readsOnly_members p).bind fun _ => .pure _

theorem readsOnly_below (foldersOnly : Bool) (n : Nat) (p : Path) :
    ReadsOnly (Glob.below (workspace depth) foldersOnly n p) := by
  induction n generalizing p with
  | zero => exact .pure []
  | succ n ih =>
    unfold Glob.below
    apply (readsOnly_membersOf foldersOnly p).bind
    intro names
    apply readsOnly_gather
    intro name
    exact (ih (p.child name)).bind fun _ => .pure _

theorem readsOnly_step (foldersOnly : Bool) (part : GlobPart) (p : Path) :
    ReadsOnly (Glob.step (workspace depth) foldersOnly part p) := by
  cases part with
  | name name =>
    apply (readsOnly_kind? (p.child name)).bind
    intro kind
    cases kind with
    | none => exact .pure []
    | some kind => exact .pure _
  | wild pattern hidden => exact (readsOnly_membersOf foldersOnly p).bind fun _ => .pure _
  | deep =>
    apply (readsOnly_kind? p).bind
    intro kind
    rcases kind with _ | _ | _
    · exact .pure []
    · exact .pure []
    · exact (readsOnly_below foldersOnly _ p).bind fun _ => .pure _

theorem readsOnly_steps (parts : List GlobPart) (found : List Path) :
    ReadsOnly (Glob.steps (workspace depth) parts found) := by
  induction parts generalizing found with
  | nil => exact .pure found
  | cons part parts ih =>
    unfold Glob.steps
    exact (readsOnly_gather (readsOnly_step _ part) found).bind ih

theorem readsOnly_paths (g : Glob) : ReadsOnly (Glob.paths (workspace depth) g) := by
  unfold Glob.paths
  split
  · apply (readsOnly_kind? g.base).bind
    intro kind
    cases kind with
    | none => exact .pure []
    | some kind => exact .pure _
  · exact readsOnly_steps g.parts [g.base]

theorem readsOnly_filesAmong (ps : List Path) :
    ReadsOnly (Glob.filesAmong (workspace depth) ps) := by
  induction ps with
  | nil => exact .pure []
  | cons p ps ih =>
    unfold Glob.filesAmong
    exact (readsOnly_kind? p.clean).bind fun _ => ih.bind fun _ => .pure _

/-- Finding files leaves them as they are. -/
theorem readsOnly_files (t : Text) : ReadsOnly (Glob.files (workspace depth) t) := by
  unfold Glob.files
  simp only
  split
  · exact .pure []
  · exact (readsOnly_paths _).bind fun found => (readsOnly_filesAmong found).bind fun _ => .pure _

/-- The files among some paths can be read. -/
theorem exists_read_of_mem_filesAmong {s : Session} {ps : List Path} {p : Path}
    (h : p ∈ ((Glob.filesAmong (workspace depth) ps).run s).1) :
    ∃ bytes, s.tree.read p = .ok bytes := by
  induction ps with
  | nil => cases h
  | cons q qs ih =>
    have hrun : ((Glob.filesAmong (workspace depth) (q :: qs)).run s).1 =
        if (s.tree.locate q.clean).bind s.tree.kind? == some .file then
          q.clean :: ((Glob.filesAmong (workspace depth) qs).run s).1
        else ((Glob.filesAmong (workspace depth) qs).run s).1 := rfl
    rw [hrun] at h
    split at h
    · next hkind =>
      rcases List.mem_cons.mp h with rfl | h
      · exact FileTree.exists_read_of_kind? (by simpa using hkind)
      · exact ih h
    · exact ih h

/-- What a pattern finds can be read. -/
theorem exists_read_of_mem_files {s : Session} {t : Text} {p : Path}
    (h : p ∈ ((Glob.files (workspace depth) t).run s).1) : ∃ bytes, s.tree.read p = .ok bytes := by
  unfold Glob.files at h
  simp only at h
  split at h
  · cases h
  · apply exists_read_of_mem_filesAmong
    have hpaths : ((Glob.paths (workspace depth) (.ofText t)).run s).2 = s := readsOnly_paths _ s
    rw [← hpaths]
    exact mem_sortBy.mp h

/-! ### Reading the settings -/

/-- A logger without a file leaves no trace of what it is told. -/
theorem readsOnly_note (r : LogRecord) :
    ReadsOnly (Logger.note (workspace depth) ⟨level, none⟩ r) := by
  unfold Logger.note
  split
  · exact .pure ()
  · exact .pure ()

theorem readsOnly_noteAll (rs : List LogRecord) :
    ReadsOnly (Logger.noteAll (workspace depth) ⟨level, none⟩ rs) := by
  induction rs with
  | nil => exact .pure ()
  | cons r rs ih => exact (readsOnly_note r).bind fun _ => ih

theorem readsOnly_expandHome (p : Path) : ReadsOnly ((workspace depth).expandHome p) := by
  unfold Workspace.expandHome
  split
  · exact .pure _
  · exact .pure _

theorem readsOnly_loadConfigFile (name : Text) :
    ReadsOnly (loadConfigFile (workspace depth) ⟨level, none⟩ name) := by
  unfold loadConfigFile
  apply (readsOnly_expandHome _).bind
  intro path
  rcases path with _ | path
  · exact .pure _
  · apply (readsOnly_kind? path).bind
    intro kind
    rcases kind with _ | kind
    · exact (readsOnly_note _).bind fun _ => .pure _
    · apply (readsOnly_read path).bind
      intro bytes
      rcases bytes with fault | bytes
      · exact .pure _
      · simp only
        split
        · exact .pure _
        · exact .pure _
        · exact (readsOnly_note _).bind fun _ => .pure _

/-- Reading the settings leaves the files as they are. -/
theorem readsOnly_loadConfig (named : Option Text) :
    ReadsOnly (loadConfig (workspace depth) ⟨level, none⟩ named) := by
  unfold loadConfig
  rcases named with _ | name
  · apply (readsOnly_kind? _).bind
    intro kind
    rcases kind with _ | kind
    · exact .pure _
    · exact readsOnly_loadConfigFile _
  · exact readsOnly_loadConfigFile _

end CjkProse.Session
