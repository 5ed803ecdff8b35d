import CjkProse.Proofs.Command.Files

/-!
# What the command does

With its options and its settings read, the command handles the files that its pattern finds, each of
them as it was found, tells of them in turn, and fails if one of them has failed or if there is one
to change that is only looked at.

## Main definitions

* `Tally.exitCode` — the exit code when the files have been counted.
* `Job` — a command line that asks for files to be formatted, in a session.
* `Job.Done` — what has been done when it has been carried out.

## Main results

* `Tally.exitCode_eq_one_iff` — when the command fails.
* `Job.run_eq` — the command comes to its files with nothing touched.
* `Job.exists_done`, `Job.done_of_run` — **the command handles each file as it was found.**
-/

namespace CjkProse

variable {depth : Nat} {level : LogLevel} {config : Config} {check : Bool} {s : Session}

/-! ### Counting -/

theorem foldl_add_failed (outcomes : List FileOutcome) (t : Tally) :
    (outcomes.foldl Tally.add t).failed = true ↔ t.failed = true ∨ .failed ∈ outcomes := by
  induction outcomes generalizing t with
  | nil => simp
  | cons outcome outcomes ih =>
    rw [List.foldl_cons, ih]
    cases outcome <;> simp [Tally.add]

theorem foldl_add_changed (outcomes : List FileOutcome) (t : Tally) :
    (outcomes.foldl Tally.add t).changed ≠ 0 ↔ t.changed ≠ 0 ∨ .changed ∈ outcomes := by
  induction outcomes generalizing t with
  | nil => simp
  | cons outcome outcomes ih =>
    rw [List.foldl_cons, ih]
    cases outcome <;> simp [Tally.add]

/-- The exit code when the files have been counted. -/
def Tally.exitCode (check : Bool) (t : Tally) : Nat :=
  if check = true ∧ t.changed ≠ 0 then 1 else t.failed.toNat

theorem Tally.exitCode_eq (check : Bool) (t : Tally) :
    t.exitCode check = 0 ∨ t.exitCode check = 1 := by
  unfold exitCode
  split
  · exact .inr rfl
  · cases t.failed with
    | false => exact .inl rfl
    | true => exact .inr rfl

/-- The command fails if a file has failed, or if there is one to change that is only looked at. -/
theorem Tally.exitCode_eq_one_iff (check : Bool) (outcomes : List FileOutcome) :
    (outcomes.foldl Tally.add ⟨0, false⟩).exitCode check = 1 ↔
      .failed ∈ outcomes ∨ check = true ∧ .changed ∈ outcomes := by
  have hfailed := foldl_add_failed outcomes ⟨0, false⟩
  have hchanged := foldl_add_changed outcomes ⟨0, false⟩
  simp only [Bool.false_eq_true, false_or, ne_eq, not_true_eq_false] at hfailed hchanged
  rw [← hfailed, ← hchanged]
  unfold exitCode
  split
  · next h => simp only [h, not_false_eq_true, and_self, or_true]
  · next h =>
    simp only [ne_eq] at h
    simp only [h, or_false]
    cases (outcomes.foldl Tally.add ⟨0, false⟩).failed <;> simp

/-- There is no failure where there is no file. -/
theorem Tally.exitCode_zero (check : Bool) : Tally.exitCode check ⟨0, false⟩ = 0 :=
  if_neg fun h => h.2 rfl

theorem conclude_run (depth : Nat) (check : Bool) (t : Tally) (s : Session) :
    ∃ last, (conclude (Session.workspace depth) check t).run s =
      (t.exitCode check, { s with printed := s.printed ++ last }) := by
  unfold conclude Tally.exitCode
  by_cases h : t.changed = 0
  · refine ⟨[], ?_⟩
    rw [if_pos h, if_neg fun k => k.2 h, List.append_nil]
    rfl
  · rw [if_neg h]
    cases check with
    | true =>
      rw [if_pos rfl, if_pos ⟨rfl, h⟩]
      exact ⟨_, rfl⟩
    | false =>
      rw [if_neg Bool.false_ne_true, if_neg fun k => Bool.noConfusion k.1]
      exact ⟨_, rfl⟩

/-! ### Results of a list -/

/-- The results of a list, each beside what it is the result of. -/
theorem zip_of_mapM {ε α β : Type} {f : α → Except ε β} {as : List α} {bs : List β}
    (h : as.mapM f = .ok bs) :
    (as.zip bs).map Prod.fst = as ∧ (as.zip bs).map Prod.snd = bs ∧
      ∀ pair ∈ as.zip bs, f pair.1 = .ok pair.2 := by
  induction as generalizing bs with
  | nil =>
    cases h
    simp
  | cons a as ih =>
    rw [List.mapM_cons] at h
    cases ha : f a with
    | error e =>
      rw [ha] at h
      cases h
    | ok b =>
      cases has : as.mapM f with
      | error e =>
        rw [ha, has] at h
        cases h
      | ok rest =>
        rw [ha, has] at h
        cases h
        obtain ⟨hfst, hsnd, hpair⟩ := ih has
        refine ⟨by simp [hfst], by simp [hsnd], ?_⟩
        intro pair hmem
        rcases List.mem_cons.mp hmem with rfl | hmem
        · exact ha
        · exact hpair pair hmem

/-- Each member of a list has its result among the results. -/
theorem exists_of_mapM {ε α β : Type} {f : α → Except ε β} {as : List α} {bs : List β}
    (h : as.mapM f = .ok bs) {a : α} (ha : a ∈ as) : ∃ b ∈ bs, f a = .ok b := by
  obtain ⟨hfst, hsnd, hpair⟩ := zip_of_mapM h
  rw [← hfst] at ha
  obtain ⟨pair, hmem, rfl⟩ := List.mem_map.mp ha
  refine ⟨pair.2, ?_, hpair pair hmem⟩
  rw [← hsnd]
  exact List.mem_map_of_mem hmem

/-- Each of the results of a list is that of a member. -/
theorem exists_of_mem_mapM {ε α β : Type} {f : α → Except ε β} {as : List α} {bs : List β}
    (h : as.mapM f = .ok bs) {b : β} (hb : b ∈ bs) : ∃ a ∈ as, f a = .ok b := by
  obtain ⟨hfst, hsnd, hpair⟩ := zip_of_mapM h
  rw [← hsnd] at hb
  obtain ⟨pair, hmem, rfl⟩ := List.mem_map.mp hb
  refine ⟨pair.1, ?_, hpair pair hmem⟩
  rw [← hfst]
  exact List.mem_map_of_mem hmem

/-- There are results when each member has one. -/
theorem exists_mapM_eq_ok {ε α β : Type} {f : α → Except ε β} {as : List α}
    (h : ∀ a ∈ as, ∃ b, f a = .ok b) : ∃ bs, as.mapM f = .ok bs := by
  induction as with
  | nil => exact ⟨[], rfl⟩
  | cons a as ih =>
    obtain ⟨b, hb⟩ := h a List.mem_cons_self
    obtain ⟨bs, hbs⟩ := ih fun c hc => h c (List.mem_cons_of_mem a hc)
    refine ⟨b :: bs, ?_⟩
    rw [List.mapM_cons, hb, hbs]
    rfl

/-! ### What is found -/

variable (level config) in
/-- The files that a pattern finds are handled as they were found. -/
theorem formatFound_run {o : Options} {paths : List Path}
    (hfound : ((Glob.files (Session.workspace depth) o.pattern).run s).1 = paths)
    (honce : (paths.map s.tree.locate).Nodup) :
    match paths.mapM (handlingIn config s.tree) with
    | .error fault =>
      ∃ t, (formatFound (Session.workspace depth) ⟨level, none⟩ config o).run s =
        (.error (.pattern fault), t)
    | .ok hs =>
      ∃ last, (formatFound (Session.workspace depth) ⟨level, none⟩ config o).run s =
        (.ok (((hs.map Handling.outcome).foldl Tally.add ⟨0, false⟩).exitCode o.check),
          { s.handleAll o.check (paths.zip hs) with
            printed := (s.handleAll o.check (paths.zip hs)).printed ++ last }) := by
  have hapart : s.tree.Apart paths :=
    ⟨fun p hp => Session.exists_read_of_mem_files (hfound ▸ hp), honce⟩
  have hrun := formatFiles_run depth level config o.check hapart (fun _ _ => rfl) ⟨0, false⟩
  unfold formatFound
  rw [(Session.readsOnly_files o.pattern).run_bind, hfound]
  cases paths with
  | nil =>
    have hcode := Tally.exitCode_zero o.check
    exact ⟨_, Prod.ext (congrArg Except.ok hcode.symm) rfl⟩
  | cons p ps =>
    simp only
    rw [StateT.run_bind]
    cases hhs : (p :: ps).mapM (handlingIn config s.tree) with
    | error fault =>
      rw [hhs] at hrun
      obtain ⟨t, hrun⟩ := hrun
      refine ⟨t, ?_⟩
      rw [hrun]
      rfl
    | ok hs =>
      rw [hhs] at hrun
      obtain ⟨last, hlast⟩ := conclude_run depth o.check
        ((hs.map Handling.outcome).foldl Tally.add ⟨0, false⟩)
        (s.handleAll o.check ((p :: ps).zip hs))
      refine ⟨last, ?_⟩
      rw [hrun]
      show (Except.ok <$> conclude (Session.workspace depth) o.check _).run _ = _
      rw [StateT.run_map, hlast]
      rfl

/-! ### The command -/

/-- A command line that asks for files to be formatted, without a log file, in a session in which
its settings can be read. -/
structure Job (depth : Nat) (s : Session) (args : List Text) where
  /-- What the command line asks for. -/
  options : Options
  /-- The command line is read so. -/
  request : Request.ofTexts args = .run options
  /-- The level of the log. -/
  level : LogLevel
  /-- The level has that name. -/
  level_eq : LogLevel.ofName options.logLevel = .ok level
  /-- No log file is kept. -/
  logFile : options.logFile = none
  /-- The settings. -/
  config : Config
  /-- The settings are read so. -/
  config_eq :
    ((loadConfig (Session.workspace depth) ⟨level, none⟩ options.config).run s).1 = .ok config

/-- The files that the pattern of a command line finds. -/
def Job.paths {args : List Text} (job : Job depth s args) : List Path :=
  ((Glob.files (Session.workspace depth) job.options.pattern).run s).1

/-- The command without any argument, where there is no settings file. -/
def Job.plain (depth : Nat) (s : Session)
    (hconfig : ((loadConfig (Session.workspace depth) ⟨.warning, none⟩ none).run s).1 =
      .ok .default) : Job depth s [] where
  options := .default
  request := by rfl
  level := .warning
  level_eq := by rfl
  logFile := rfl
  config := .default
  config_eq := hconfig

variable {args : List Text}

theorem Job.paths_eq (job : Job depth s args) :
    ((Glob.files (Session.workspace depth) job.options.pattern).run s).1 = job.paths := rfl

/-- The command comes to its files with its settings read and nothing touched. -/
theorem Job.run_eq (job : Job depth s args) :
    (runCommand (Session.workspace depth) args).run s =
      (formatFound (Session.workspace depth) ⟨job.level, none⟩ job.config job.options).run s := by
  unfold runCommand
  rw [job.request]
  simp only
  unfold runOptions
  rw [job.level_eq]
  simp only
  have hstart : Logger.start (Session.workspace depth) "zhfmt".toList job.level job.options.logFile =
      (do
        Logger.note (Session.workspace depth) ⟨job.level, none⟩
          (.started "zhfmt".toList job.level)
        return .ok ⟨job.level, none⟩) := by
    rw [job.logFile]
    rfl
  rw [hstart, bind_assoc, (Session.readsOnly_note _).run_bind, pure_bind]
  simp only
  rw [(Session.readsOnly_loadConfig _).run_bind, job.config_eq]

/-- What has been done when a command line has been carried out and `hs` are the handlings of its
files. -/
structure Job.Done (job : Job depth s args) (hs : List Handling) (t : Session) : Prop where
  /-- Nothing is written when files are only looked at. -/
  check : job.options.check = true → t.tree = s.tree
  /-- The names of files are the same. -/
  names : FileTree.SameNames s.tree t.tree
  /-- Other files are not touched. -/
  others : ∀ place, (∀ p ∈ job.paths, s.tree.locate p ≠ some place) →
    t.tree.file? place = s.tree.file? place
  /-- Each file has its own handling. -/
  files : ∀ p ∈ job.paths, ∀ bytes, s.tree.read p = .ok bytes →
    ∃ h ∈ hs, handling job.config p bytes = .ok h ∧
      t.tree.read p =
        .ok (if h.outcome = .changed ∧ job.options.check = false then h.bytes else bytes)
  /-- The files are told of in turn. -/
  printed : ∃ last, t.printed = s.printed ++ hs.flatMap Handling.printed ++ last

theorem Job.apart_paths (job : Job depth s args) (honce : (job.paths.map s.tree.locate).Nodup) :
    s.tree.Apart job.paths :=
  ⟨fun _ hp => Session.exists_read_of_mem_files hp, honce⟩

/-- A command line is carried out when each of its files can be handled. -/
theorem Job.exists_done (job : Job depth s args) (honce : (job.paths.map s.tree.locate).Nodup)
    {hs : List Handling} (hhs : job.paths.mapM (handlingIn job.config s.tree) = .ok hs) :
    ∃ t, (runCommand (Session.workspace depth) args).run s =
        (.ok (((hs.map Handling.outcome).foldl Tally.add ⟨0, false⟩).exitCode job.options.check),
          t) ∧
      job.Done hs t := by
  have hrun := formatFound_run job.level job.config job.paths_eq honce
  rw [hhs] at hrun
  obtain ⟨last, hlast⟩ := hrun
  obtain ⟨hfst, hsnd, hpair⟩ := zip_of_mapM hhs
  have hapart : s.tree.Apart ((job.paths.zip hs).map Prod.fst) := by
    rw [hfst]
    exact job.apart_paths honce
  refine ⟨_, job.run_eq.trans hlast, ?_, Session.sameNames_handleAll hapart, ?_, ?_, last, ?_⟩
  · intro hcheck
    rw [hcheck]
    exact Session.tree_handleAll_of_check s _
  · intro place hplace
    apply Session.file?_handleAll hapart
    intro step hstep
    apply hplace
    rw [← hfst]
    exact List.mem_map_of_mem hstep
  · intro p hp bytes hbytes
    rw [← hfst] at hp
    obtain ⟨⟨p, h⟩, hmem, rfl⟩ := List.mem_map.mp hp
    refine ⟨h, ?_, ?_, Session.read_handleAll hapart hmem hbytes⟩
    · rw [← hsnd]
      exact List.mem_map_of_mem hmem
    · rw [← handlingIn_eq hbytes]
      exact hpair _ hmem
  · simp only
    rw [Session.printed_handleAll]
    conv => rhs; rw [← hsnd]
    rw [List.flatMap_map]

/-- A command line that has been carried out has had each of its files handled. -/
theorem Job.done_of_run (job : Job depth s args) (honce : (job.paths.map s.tree.locate).Nodup)
    {code : Nat} {t : Session}
    (hrun : (runCommand (Session.workspace depth) args).run s = (.ok code, t)) :
    ∃ hs, job.paths.mapM (handlingIn job.config s.tree) = .ok hs ∧ job.Done hs t := by
  cases hhs : job.paths.mapM (handlingIn job.config s.tree) with
  | error fault =>
    have hfound := formatFound_run job.level job.config job.paths_eq honce
    rw [hhs] at hfound
    obtain ⟨t', hfault⟩ := hfound
    rw [job.run_eq, hfault] at hrun
    cases hrun
  | ok hs =>
    obtain ⟨t', hrun', hdone⟩ := job.exists_done honce hhs
    rw [hrun'] at hrun
    cases hrun
    exact ⟨hs, rfl, hdone⟩

end CjkProse
