import CjkProse.Proofs.Command.Session

/-!
# One file after another

What is done with a file depends on its own bytes only.  Files that are told apart by the places
that they stand at are therefore handled as they were found, whatever has been done with the files
before them.

## Main definitions

* `Handling`, `handling` — what is done with a file, told from its bytes.
* `Session.handle` — what a session becomes by it.

## Main results

* `formatFile_run` — formatting a file.
* `formatFiles_run` — **files are handled as they were found.**
* `Session.tree_handleAll_of_check`, `Session.read_handleAll`, `Session.file?_handleAll` — the tree
  of files after that.
-/

namespace CjkProse

variable {depth : Nat} {level : LogLevel} {config : Config} {check : Bool} {path : Path}
  {bytes : List UInt8} {text : Text}

/-- What is done with a file. -/
structure Handling where
  /-- What becomes of the file. -/
  outcome : FileOutcome
  /-- What is printed. -/
  printed : List Printed
  /-- The bytes that the file holds after that, unless files are only looked at. -/
  bytes : List UInt8

/-- What is done with the file of a path that holds some bytes. -/
def handling (config : Config) (path : Path) (bytes : List UInt8) :
    Except Pattern.Fault Handling :=
  match Utf8.decode bytes with
  | .error fault => .ok ⟨.failed, [failureLine path fault.message], bytes⟩
  | .ok text =>
    match format text.unifyNewlines config with
    | .error (.pattern fault) => .error fault
    | .error (.encoding fault) => .ok ⟨.failed, [failureLine path fault.message], bytes⟩
    | .ok report =>
      .ok ⟨if report.changed then .changed else .kept,
        report.printed path.toText text.unifyNewlines,
        if report.changed then Utf8.encode report.text else bytes⟩

theorem handling_of_error {fault : Utf8.Fault} (h : Utf8.decode bytes = .error fault) :
    handling config path bytes = .ok ⟨.failed, [failureLine path fault.message], bytes⟩ := by
  unfold handling
  rw [h]

theorem handling_of_ok {report : Report} (h : Utf8.decode bytes = .ok text)
    (hformat : format text.unifyNewlines config = .ok report) :
    handling config path bytes =
      .ok ⟨if report.changed then .changed else .kept,
        report.printed path.toText text.unifyNewlines,
        if report.changed then Utf8.encode report.text else bytes⟩ := by
  unfold handling
  rw [h]
  simp only
  rw [hformat]

/-- What is done with what a path leads to in a tree of files. -/
def handlingIn (config : Config) (t : FileTree) (path : Path) : Except Pattern.Fault Handling :=
  match t.read path with
  | .error fault => .ok ⟨.failed, [failureLine path (fault.message path)], []⟩
  | .ok bytes => handling config path bytes

theorem handlingIn_eq {t : FileTree} {p : Path} {bytes : List UInt8} (h : t.read p = .ok bytes) :
    handlingIn config t p = handling config p bytes := by
  unfold handlingIn
  rw [h]

theorem handlingIn_congr {t u : FileTree} (h : u.read path = t.read path) :
    handlingIn config u path = handlingIn config t path := by
  unfold handlingIn
  rw [h]

namespace Session

/-- What a session becomes when a file is handled. -/
def handle (check : Bool) (s : Session) (path : Path) (h : Handling) : Session :=
  { s with
    tree := if h.outcome = .changed ∧ check = false then s.tree.write path h.bytes else s.tree
    printed := s.printed ++ h.printed }

end Session

theorem printAll_run (items : List Printed) (s : Session) :
    (printAll (Session.workspace depth) items).run s =
      ((), { s with printed := s.printed ++ items }) := by
  induction items generalizing s with
  | nil =>
    rw [List.append_nil]
    rfl
  | cons item items ih =>
    show (printAll (Session.workspace depth) items).run
      { s with printed := s.printed ++ [item] } = _
    rw [ih]
    simp

theorem failFile_run (reason : Text) (s : Session) :
    (failFile (Session.workspace depth) ⟨level, none⟩ path reason).run s =
      (.failed, { s with printed := s.printed ++ [failureLine path reason] }) := by
  unfold failFile
  rw [(Session.readsOnly_note (failureNote path reason)).run_bind]
  rfl

theorem rewriteFile_run (report : Report) (s : Session) :
    (rewriteFile (Session.workspace depth) ⟨level, none⟩ path report).run s =
      (.changed, { s with tree := s.tree.write path (Utf8.encode report.text) }) := by
  show StateT.run (do
      Logger.note (Session.workspace depth) ⟨level, none⟩ _
      return FileOutcome.changed)
    { s with tree := s.tree.write path (Utf8.encode report.text) } = _
  rw [(Session.readsOnly_note (rewrittenNote path report.diagnostics.length)).run_bind]
  rfl

/-- A file that fails is left as it is. -/
theorem failFile_run_handle (reason : Text) (bytes : List UInt8) (s : Session) :
    ((.ok <$> failFile (Session.workspace depth) ⟨level, none⟩ path reason :
        StateM Session (Except Pattern.Fault FileOutcome)).run s) =
      (.ok .failed, s.handle check path ⟨.failed, [failureLine path reason], bytes⟩) := by
  rw [StateT.run_map, failFile_run]
  unfold Session.handle
  rw [if_neg fun h => FileOutcome.noConfusion h.1]
  rfl

/-- What is done with a file that holds a text. -/
theorem formatFileText_run {text : Text} {bytes : List UInt8}
    (hdecode : Utf8.decode bytes = .ok text) (s : Session) :
    (formatFileText (Session.workspace depth) ⟨level, none⟩ config check path
        text.unifyNewlines).run s =
      match handling config path bytes with
      | .error fault => (.error fault, s)
      | .ok h => (.ok h.outcome, s.handle check path h) := by
  unfold formatFileText handling
  rw [hdecode]
  simp only
  rw [(Session.readsOnly_noteAll _).run_bind]
  unfold format
  cases houtcome : formatParsed text.unifyNewlines (Markdown.parse text.unifyNewlines) config with
  | error e =>
    cases e with
    | pattern fault => rfl
    | encoding fault => exact failFile_run_handle fault.message bytes s
  | ok report =>
    simp only
    rw [StateT.run_bind, printAll_run]
    cases hchanged : report.changed with
    | false => rfl
    | true =>
      cases check with
      | true => rfl
      | false =>
        show (Except.ok <$> rewriteFile (Session.workspace depth) ⟨level, none⟩ path report).run
          { s with printed := s.printed ++ report.printed path.toText text.unifyNewlines } = _
        rw [StateT.run_map, rewriteFile_run]
        rfl

/-- What is done with a file of a session. -/
theorem formatFile_run (s : Session) :
    (formatFile (Session.workspace depth) ⟨level, none⟩ config check path).run s =
      match handlingIn config s.tree path with
      | .error fault => (.error fault, s)
      | .ok h => (.ok h.outcome, s.handle check path h) := by
  unfold formatFile
  rw [(Session.readsOnly_read path).run_bind]
  show StateT.run (match s.tree.read path with | .error fault => _ | .ok bytes => _) s = _
  unfold handlingIn
  cases hread : s.tree.read path with
  | error fault => exact failFile_run_handle (fault.message path) [] s
  | ok bytes =>
    simp only
    cases hdecode : Utf8.decode bytes with
    | error fault =>
      unfold handling
      rw [hdecode]
      exact failFile_run_handle fault.message bytes s
    | ok text => exact formatFileText_run hdecode s

/-! ### Files apart from one another -/

namespace FileTree

/-- Paths that lead to files, each of them to another one. -/
structure Apart (t : FileTree) (paths : List Path) : Prop where
  /-- There is a file at each of them. -/
  read : ∀ p ∈ paths, ∃ bytes, t.read p = .ok bytes
  /-- No two of them lead to one place. -/
  once : (paths.map t.locate).Nodup

theorem Apart.locate_ne {t : FileTree} {p q : Path} {paths : List Path} (h : t.Apart (p :: paths))
    (hq : q ∈ paths) : t.locate q ≠ t.locate p := by
  have honce := h.once
  rw [List.map_cons, List.nodup_cons] at honce
  intro heq
  exact honce.1 (List.mem_map.mpr ⟨q, hq, heq⟩)

end FileTree

namespace Session

/-- What a session becomes when files are handled in turn. -/
def handleAll (check : Bool) (s : Session) (steps : List (Path × Handling)) : Session :=
  steps.foldl (fun s step => s.handle check step.1 step.2) s

variable {s : Session} {p q : Path} {h : Handling} {old bytes : List UInt8} {place : List Text}
  {paths : List Path} {steps : List (Path × Handling)}

/-! ### One step -/

theorem sameNames_handle (hp : s.tree.read p = .ok old) :
    FileTree.SameNames s.tree (s.handle check p h).tree := by
  unfold handle
  simp only
  split
  · exact FileTree.sameNames_write hp
  · exact .refl s.tree

/-- A file that the path does not lead to is not touched. -/
theorem file?_handle (hp : s.tree.read p = .ok old) (hne : s.tree.locate p ≠ some place) :
    (s.handle check p h).tree.file? place = s.tree.file? place := by
  unfold handle
  simp only
  split
  · exact FileTree.file?_write hp hne
  · rfl

/-- The file itself holds its new bytes if it is changed and not only looked at. -/
theorem read_handle (hp : s.tree.read p = .ok old) :
    (s.handle check p h).tree.read p =
      .ok (if h.outcome = .changed ∧ check = false then h.bytes else old) := by
  unfold handle
  simp only
  split
  · exact FileTree.read_write_self hp
  · exact hp

/-- The files of the other paths are found as they were. -/
theorem read_handle_of_mem (hapart : s.tree.Apart (p :: paths)) (hq : q ∈ paths) :
    (s.handle check p h).tree.read q = s.tree.read q := by
  obtain ⟨old, hp⟩ := hapart.read p List.mem_cons_self
  obtain ⟨bytes, hbytes⟩ := hapart.read q (List.mem_cons_of_mem p hq)
  obtain ⟨place, hlocate, hfile⟩ := FileTree.read_eq_ok_iff.mp hbytes
  rw [hbytes]
  apply FileTree.read_eq_ok_iff.mpr
  refine ⟨place, ((sameNames_handle hp).locate q).trans hlocate, ?_⟩
  rw [file?_handle hp, hfile]
  intro heq
  exact hapart.locate_ne hq (hlocate.trans heq.symm)

theorem apart_handle (hapart : s.tree.Apart (p :: paths)) :
    (s.handle check p h).tree.Apart paths := by
  obtain ⟨old, hp⟩ := hapart.read p List.mem_cons_self
  refine ⟨fun q hq => ?_, ?_⟩
  · rw [read_handle_of_mem hapart hq]
    exact hapart.read q (List.mem_cons_of_mem p hq)
  · rw [List.map_congr_left fun q _ => (sameNames_handle hp).locate q]
    exact (List.nodup_cons.mp hapart.once).2

/-! ### All steps -/

/-- Files that are only looked at are not touched. -/
theorem tree_handleAll_of_check (s : Session) (steps : List (Path × Handling)) :
    (s.handleAll true steps).tree = s.tree := by
  induction steps generalizing s with
  | nil => rfl
  | cons step steps ih =>
    show ((s.handle true step.1 step.2).handleAll true steps).tree = s.tree
    rw [ih]
    unfold handle
    rw [if_neg fun h => Bool.noConfusion h.2]

/-- The files are told of in turn. -/
theorem printed_handleAll (s : Session) (steps : List (Path × Handling)) :
    (s.handleAll check steps).printed = s.printed ++ steps.flatMap fun step => step.2.printed := by
  induction steps generalizing s with
  | nil => simp [handleAll]
  | cons step steps ih =>
    show ((s.handle check step.1 step.2).handleAll check steps).printed = _
    rw [ih, List.flatMap_cons]
    simp [handle]

/-- A file that none of the paths leads to is not touched. -/
theorem file?_handleAll (hapart : s.tree.Apart (steps.map Prod.fst))
    (hne : ∀ step ∈ steps, s.tree.locate step.1 ≠ some place) :
    (s.handleAll check steps).tree.file? place = s.tree.file? place := by
  induction steps generalizing s with
  | nil => rfl
  | cons step steps ih =>
    show ((s.handle check step.1 step.2).handleAll check steps).tree.file? place = _
    obtain ⟨old, hp⟩ := hapart.read step.1 List.mem_cons_self
    rw [ih (apart_handle hapart), file?_handle hp (hne step List.mem_cons_self)]
    intro other hother
    rw [(sameNames_handle hp).locate]
    exact hne other (List.mem_cons_of_mem step hother)

theorem sameNames_handleAll (hapart : s.tree.Apart (steps.map Prod.fst)) :
    FileTree.SameNames s.tree (s.handleAll check steps).tree := by
  induction steps generalizing s with
  | nil => exact .refl s.tree
  | cons step steps ih =>
    obtain ⟨old, hp⟩ := hapart.read step.1 List.mem_cons_self
    exact (sameNames_handle hp).trans (ih (apart_handle hapart))

/-- Each file holds its own new bytes in the end. -/
theorem read_handleAll (hapart : s.tree.Apart (steps.map Prod.fst)) (hmem : (p, h) ∈ steps)
    (hp : s.tree.read p = .ok old) :
    (s.handleAll check steps).tree.read p =
      .ok (if h.outcome = .changed ∧ check = false then h.bytes else old) := by
  induction steps generalizing s with
  | nil => cases hmem
  | cons step steps ih =>
    show ((s.handle check step.1 step.2).handleAll check steps).tree.read p = _
    rcases List.mem_cons.mp hmem with rfl | hmem
    · -- the files after it stand at other places
      obtain ⟨place, hlocate, hfile⟩ := FileTree.read_eq_ok_iff.mp (read_handle hp)
      have hrest : (s.handle check p h).tree.Apart (steps.map Prod.fst) := apart_handle hapart
      apply FileTree.read_eq_ok_iff.mpr
      refine ⟨place, ((sameNames_handleAll hrest).locate p).trans hlocate, ?_⟩
      rw [file?_handleAll hrest, hfile]
      intro other hother heq
      rw [← hlocate, (sameNames_handle hp).locate, (sameNames_handle hp).locate] at heq
      exact hapart.locate_ne (List.mem_map_of_mem hother) heq
    · apply ih (apart_handle hapart) hmem
      rw [read_handle_of_mem hapart (List.mem_map_of_mem hmem), hp]

end Session

/-! ### The run -/

variable (depth level config check) in
/-- **Files are handled as they were found.**  What is done with each file depends on its bytes
before the run only, when no two of the paths lead to one file. -/
theorem formatFiles_run {f : Path → Except Pattern.Fault Handling} {paths : List Path}
    {s : Session} (hapart : s.tree.Apart paths)
    (hf : ∀ p ∈ paths, handlingIn config s.tree p = f p) (tally : Tally) :
    match paths.mapM f with
    | .error fault =>
      ∃ t, (formatFiles (Session.workspace depth) ⟨level, none⟩ config check paths tally).run s =
        (.error fault, t)
    | .ok hs =>
      (formatFiles (Session.workspace depth) ⟨level, none⟩ config check paths tally).run s =
        (.ok ((hs.map Handling.outcome).foldl Tally.add tally),
          s.handleAll check (paths.zip hs)) := by
  induction paths generalizing s tally with
  | nil => rfl
  | cons p ps ih =>
    unfold formatFiles
    rw [StateT.run_bind, formatFile_run, hf p List.mem_cons_self, List.mapM_cons]
    cases hp : f p with
    | error fault => exact ⟨s, rfl⟩
    | ok h =>
      have hf' : ∀ q ∈ ps, handlingIn config (s.handle check p h).tree q = f q := by
        intro q hq
        rw [handlingIn_congr (Session.read_handle_of_mem hapart hq)]
        exact hf q (List.mem_cons_of_mem p hq)
      have hrest := ih (Session.apart_handle hapart) hf' (tally.add h.outcome)
      cases hs : ps.mapM f with
      | error fault =>
        rw [hs] at hrest
        exact hrest
      | ok hs' =>
        rw [hs] at hrest
        exact hrest

end CjkProse
