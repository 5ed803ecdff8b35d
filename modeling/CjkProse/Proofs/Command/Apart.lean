import CjkProse.Proofs.Command.Run
import CjkProse.Proofs.Source.Pieces
import CjkProse.Proofs.Text.Utf8

/-!
# Files are handled apart

The command does with each file what it would do if there were no other: neither a file that holds
no text nor one that has been changed before it makes a difference.

## Main definitions

* `IsRewritten` — formatting changes the text that some bytes hold.

## Main results

* `runCommand_files` — **files are handled apart from one another.**
-/

namespace CjkProse

variable {depth : Nat} {config : Config} {path : Path} {bytes : List UInt8} {text : Text}

/-- Whether formatting changes the text that some bytes hold. -/
def IsRewritten (config : Config) (bytes : List UInt8) : Prop :=
  ∃ text report, Utf8.decode bytes = .ok text ∧
    format text.unifyNewlines config = .ok report ∧ report.changed = true

/-! ### One file -/

theorem isRewritten_iff {report : Report} (h : Utf8.decode bytes = .ok text)
    (hformat : format text.unifyNewlines config = .ok report) :
    IsRewritten config bytes ↔ report.changed = true := by
  constructor
  · rintro ⟨text', report', h', hformat', hchanged⟩
    rw [h] at h'
    cases h'
    rw [hformat] at hformat'
    cases hformat'
    exact hchanged
  · intro hchanged
    exact ⟨text, report, h, hformat, hchanged⟩

/-- A file can be handled when its text can be formatted, if it holds one. -/
theorem exists_handling (path : Path)
    (h : ∀ text, Utf8.decode bytes = .ok text →
      ∃ report, format text.unifyNewlines config = .ok report) :
    ∃ handled, handling config path bytes = .ok handled := by
  cases hdecode : Utf8.decode bytes with
  | error fault => exact ⟨_, handling_of_error hdecode⟩
  | ok text =>
    obtain ⟨report, hreport⟩ := h text hdecode
    exact ⟨_, handling_of_ok hdecode hreport⟩

/-- A file has failed if it holds no text, and is changed if formatting changes its text. -/
theorem outcome_iff {handled : Handling} (hhandled : handling config path bytes = .ok handled)
    (h : ∀ text, Utf8.decode bytes = .ok text →
      ∃ report, format text.unifyNewlines config = .ok report) :
    (handled.outcome = .failed ↔ ∃ fault, Utf8.decode bytes = .error fault) ∧
      (handled.outcome = .changed ↔ IsRewritten config bytes) := by
  cases hdecode : Utf8.decode bytes with
  | error fault =>
    rw [handling_of_error hdecode] at hhandled
    cases hhandled
    refine ⟨by simp, ?_⟩
    simp only [reduceCtorEq, false_iff]
    rintro ⟨text, report, htext, -⟩
    rw [hdecode] at htext
    cases htext
  | ok text =>
    obtain ⟨report, hreport⟩ := h text hdecode
    rw [handling_of_ok hdecode hreport] at hhandled
    cases hhandled
    rw [isRewritten_iff hdecode hreport]
    cases report.changed with
    | false => simp
    | true => simp

/-! ### All files -/

variable {s : Session} {args : List Text}

/-- What becomes of some file is told by what the files hold. -/
theorem Job.mem_outcomes_iff (job : Job depth s args) (hapart : s.tree.Apart job.paths)
    {hs : List Handling} (hhs : job.paths.mapM (handlingIn job.config s.tree) = .ok hs)
    {outcome : FileOutcome} {P : List UInt8 → Prop}
    (h : ∀ p ∈ job.paths, ∀ bytes handled, s.tree.read p = .ok bytes →
      handling job.config p bytes = .ok handled → (handled.outcome = outcome ↔ P bytes)) :
    outcome ∈ hs.map Handling.outcome ↔
      ∃ p ∈ job.paths, ∃ bytes, s.tree.read p = .ok bytes ∧ P bytes := by
  constructor
  · intro hmem
    obtain ⟨handled, hhandled, houtcome⟩ := List.mem_map.mp hmem
    obtain ⟨p, hp, hpath⟩ := exists_of_mem_mapM hhs hhandled
    obtain ⟨bytes, hbytes⟩ := hapart.read p hp
    rw [handlingIn_eq hbytes] at hpath
    exact ⟨p, hp, bytes, hbytes, (h p hp bytes handled hbytes hpath).mp houtcome⟩
  · rintro ⟨p, hp, bytes, hbytes, hP⟩
    obtain ⟨handled, hhandled, hpath⟩ := exists_of_mapM hhs hp
    rw [handlingIn_eq hbytes] at hpath
    exact List.mem_map.mpr ⟨handled, hhandled, (h p hp bytes handled hbytes hpath).mpr hP⟩

/-- What a file holds after a run is told by its own handling. -/
theorem Job.Done.exists_file {job : Job depth s args} {hs : List Handling} {t : Session}
    (hdone : job.Done hs t) (hapart : s.tree.Apart job.paths) {p : Path} (hp : p ∈ job.paths) :
    ∃ place bytes handled, s.tree.locate p = some place ∧ s.tree.file? place = some bytes ∧
      handling job.config p bytes = .ok handled ∧
      t.tree.file? place =
        some (if handled.outcome = .changed ∧ job.options.check = false then handled.bytes
          else bytes) := by
  obtain ⟨bytes, hbytes⟩ := hapart.read p hp
  obtain ⟨place, hplace, hfile⟩ := FileTree.read_eq_ok_iff.mp hbytes
  obtain ⟨handled, -, hhandled, hafter⟩ := hdone.files p hp bytes hbytes
  obtain ⟨place', hplace', hheld⟩ := FileTree.read_eq_ok_iff.mp hafter
  rw [hdone.names.locate, hplace] at hplace'
  cases hplace'
  exact ⟨place, bytes, handled, hplace, hfile, hhandled, hheld⟩

/-- The command fails if a file holds no text, or if it only looks at a file whose text formatting
changes. -/
theorem Job.exitCode_eq_one_iff (job : Job depth s args) (hapart : s.tree.Apart job.paths)
    (hreturns : ∀ p ∈ job.paths, ∀ bytes text, s.tree.read p = .ok bytes →
      Utf8.decode bytes = .ok text →
        ∃ report, format text.unifyNewlines job.config = .ok report)
    {hs : List Handling} (hhs : job.paths.mapM (handlingIn job.config s.tree) = .ok hs) :
    ((hs.map Handling.outcome).foldl Tally.add ⟨0, false⟩).exitCode job.options.check = 1 ↔
      ∃ p ∈ job.paths, ∃ bytes, s.tree.read p = .ok bytes ∧
        ((∃ fault, Utf8.decode bytes = .error fault) ∨
          job.options.check = true ∧ IsRewritten job.config bytes) := by
  have houtcome : ∀ p ∈ job.paths, ∀ bytes handled, s.tree.read p = .ok bytes →
      handling job.config p bytes = .ok handled →
        (handled.outcome = .failed ↔ ∃ fault, Utf8.decode bytes = .error fault) ∧
          (handled.outcome = .changed ↔ IsRewritten job.config bytes) := by
    intro p hp bytes handled hbytes hhandled
    apply outcome_iff hhandled
    intro text htext
    exact hreturns p hp bytes text hbytes htext
  have hfailed := job.mem_outcomes_iff hapart hhs fun p hp bytes handled hbytes hhandled =>
    (houtcome p hp bytes handled hbytes hhandled).1
  have hchanged := job.mem_outcomes_iff hapart hhs fun p hp bytes handled hbytes hhandled =>
    (houtcome p hp bytes handled hbytes hhandled).2
  rw [Tally.exitCode_eq_one_iff, hfailed, hchanged]
  constructor
  · rintro (⟨p, hp, bytes, hbytes, hfault⟩ | ⟨hcheck, p, hp, bytes, hbytes, hrewritten⟩)
    · exact ⟨p, hp, bytes, hbytes, .inl hfault⟩
    · exact ⟨p, hp, bytes, hbytes, .inr ⟨hcheck, hrewritten⟩⟩
  · rintro ⟨p, hp, bytes, hbytes, hfault | ⟨hcheck, hrewritten⟩⟩
    · exact .inl ⟨p, hp, bytes, hbytes, hfault⟩
    · exact .inr ⟨hcheck, p, hp, bytes, hbytes, hrewritten⟩

/-- **Files are handled apart from one another.**  When the pattern finds no file twice, and each
text among what it finds can be formatted, the command comes to its end, whatever bytes the other
files hold.  No file changes if files are only looked at, and in no case one that has not been found.
A file that holds no text, or one that formatting does not change, keeps its bytes; any other holds
the text that formatting makes of its own text with the lines ending in line feeds.  What is printed
is told from one file after the other.  The command fails if one of them holds no text, or if there
is one to change that is only looked at. -/
theorem runCommand_files (job : Job depth s args)
    (honce : (job.paths.map s.tree.locate).Nodup)
    (hreturns : ∀ p ∈ job.paths, ∀ bytes text, s.tree.read p = .ok bytes →
      Utf8.decode bytes = .ok text →
        ∃ report, format text.unifyNewlines job.config = .ok report) :
    ∃ code t, (runCommand (Session.workspace depth) args).run s = (.ok code, t) ∧
      (job.options.check = true → t.tree = s.tree) ∧
      (∀ place, (∀ p ∈ job.paths, s.tree.locate p ≠ some place) →
        t.tree.file? place = s.tree.file? place) ∧
      (∀ p ∈ job.paths, ∃ place bytes, s.tree.locate p = some place ∧
        s.tree.file? place = some bytes ∧
        (∀ fault, Utf8.decode bytes = .error fault → t.tree.file? place = some bytes) ∧
        ∀ text report, Utf8.decode bytes = .ok text →
          format text.unifyNewlines job.config = .ok report →
            t.tree.file? place =
              some (if report.changed = true ∧ job.options.check = false
                then Utf8.encode report.text else bytes)) ∧
      (∃ hs last, job.paths.mapM (handlingIn job.config s.tree) = .ok hs ∧
        t.printed = s.printed ++ hs.flatMap Handling.printed ++ last) ∧
      (code = 0 ∨ code = 1) ∧
      (code = 1 ↔ ∃ p ∈ job.paths, ∃ bytes, s.tree.read p = .ok bytes ∧
        ((∃ fault, Utf8.decode bytes = .error fault) ∨
          job.options.check = true ∧ IsRewritten job.config bytes)) := by
  have hapart := job.apart_paths honce
  obtain ⟨hs, hhs⟩ : ∃ hs, job.paths.mapM (handlingIn job.config s.tree) = .ok hs := by
    apply exists_mapM_eq_ok
    intro p hp
    obtain ⟨bytes, hbytes⟩ := hapart.read p hp
    rw [handlingIn_eq hbytes]
    exact exists_handling p fun text htext => hreturns p hp bytes text hbytes htext
  obtain ⟨t, hrun, hdone⟩ := job.exists_done honce hhs
  obtain ⟨last, hlast⟩ := hdone.printed
  refine ⟨_, t, hrun, hdone.check, hdone.others, ?_, ⟨hs, last, hhs, hlast⟩,
    Tally.exitCode_eq _ _, job.exitCode_eq_one_iff hapart hreturns hhs⟩
  intro p hp
  obtain ⟨place, bytes, handled, hplace, hfile, hhandled, hheld⟩ := hdone.exists_file hapart hp
  refine ⟨place, bytes, hplace, hfile, ?_, ?_⟩
  · intro fault hfault
    rw [handling_of_error hfault] at hhandled
    cases hhandled
    rw [hheld, if_neg fun h => FileOutcome.noConfusion h.1]
  · intro text report htext hreport
    rw [handling_of_ok htext hreport] at hhandled
    cases hhandled
    rw [hheld]
    cases report.changed with
    | false => simp
    | true => simp

/-! ### Four files -/

/-- A text with a gap to fill, bytes that are no text, a text with nothing to change, and a file
that is not looked at. -/
def fourFiles : Session where
  tree := ⟨[(["a.md".toList], Utf8.encode "中a\r\n".toList), (["b.md".toList], [0xFF]),
    (["c.md".toList], Utf8.encode "x\r\n".toList),
    (["d.txt".toList], Utf8.encode "中a\r\n".toList)], []⟩
  printed := []
  said := []
  time := []

/-- The command without any argument, with these four files. -/
def fourFilesJob : Job 1 fourFiles [] := .plain 1 fourFiles (by rfl)

theorem fourFilesJob_paths :
    fourFilesJob.paths = [⟨false, ["a.md".toList]⟩, ⟨false, ["b.md".toList]⟩,
      ⟨false, ["c.md".toList]⟩] := by
  decide +kernel

/-- The conclusion of `runCommand_files` at four files, of which the first one is changed, although
the second one holds no text. -/
theorem runCommand_files_four :
    ∃ t, (runCommand (Session.workspace 1) []).run fourFiles = (.ok 1, t) ∧
      t.tree.file? ["a.md".toList] = some (Utf8.encode "中 a\n".toList) ∧
      t.tree.file? ["b.md".toList] = some [0xFF] ∧
      t.tree.file? ["c.md".toList] = some (Utf8.encode "x\r\n".toList) ∧
      t.tree.file? ["d.txt".toList] = some (Utf8.encode "中a\r\n".toList) := by
  have hfirst : format (Text.unifyNewlines "中a\r\n".toList) .default =
      .ok ⟨"中 a\n".toList, [⟨.space, [], [' '], ⟨3, 3⟩⟩], []⟩ :=
    Except.eq_ok_of_toOption (by decide +kernel)
  have hthird : format (Text.unifyNewlines "x\r\n".toList) .default =
      .ok ⟨"x\n".toList, [], []⟩ :=
    Except.eq_ok_of_toOption (by decide +kernel)
  have honce : (fourFilesJob.paths.map fourFiles.tree.locate).Nodup := by
    rw [fourFilesJob_paths]
    decide +kernel
  have hreturns : ∀ p ∈ fourFilesJob.paths, ∀ bytes text, fourFiles.tree.read p = .ok bytes →
      Utf8.decode bytes = .ok text →
        ∃ report, format text.unifyNewlines fourFilesJob.config = .ok report := by
    intro p hp bytes text hbytes htext
    rw [fourFilesJob_paths] at hp
    simp only [List.mem_cons, List.not_mem_nil, or_false] at hp
    rcases hp with rfl | rfl | rfl
    · cases hbytes
      cases (Utf8.decode_encode _).symm.trans htext
      exact ⟨_, hfirst⟩
    · cases hbytes
      cases htext
    · cases hbytes
      cases (Utf8.decode_encode _).symm.trans htext
      exact ⟨_, hthird⟩
  obtain ⟨code, t, hrun, -, hothers, hfiles, -, -, hone⟩ :=
    runCommand_files fourFilesJob honce hreturns
  rw [fourFilesJob_paths] at hothers hfiles hone
  have hcode : code = 1 :=
    hone.mpr ⟨⟨false, ["b.md".toList]⟩, by simp, [0xFF], rfl, .inl ⟨_, rfl⟩⟩
  refine ⟨t, by rw [hrun, hcode], ?_, ?_, ?_, ?_⟩
  · obtain ⟨place, bytes, hplace, hbytes, -, hafter⟩ := hfiles ⟨false, ["a.md".toList]⟩ (by simp)
    cases hplace
    cases hbytes
    exact hafter _ _ (Utf8.decode_encode _) hfirst
  · obtain ⟨place, bytes, hplace, hbytes, hafter, -⟩ := hfiles ⟨false, ["b.md".toList]⟩ (by simp)
    cases hplace
    cases hbytes
    exact hafter _ rfl
  · obtain ⟨place, bytes, hplace, hbytes, -, hafter⟩ := hfiles ⟨false, ["c.md".toList]⟩ (by simp)
    cases hplace
    cases hbytes
    exact hafter _ _ (Utf8.decode_encode _) hthird
  · rw [hothers ["d.txt".toList] (by decide +kernel)]
    rfl

end CjkProse
