import CjkProse.Proofs.Command.Run
import CjkProse.Proofs.Report.Replay
import CjkProse.Proofs.Source.Order

/-!
# What is told is what is done to a file

The bytes of a file that the command has changed are those of its text with the changes made that the
command tells of.  That text is the one that has been read, in which every line ends in a line feed:
where lines end otherwise in a file that is changed, their endings are changed with it, and nothing
is told of that.

## Main results

* `replaceAll_of_format` — the changes of a report make its text.
* `runCommand_reported` — **a file changes as it is told.**
* `not_runCommand_reported` — carriage returns are lost without being told of.
-/

namespace CjkProse

open Markdown (Token)

variable {config : Config} {text : Text} {report : Report}

/-! ### Line endings -/

/-- A text without carriage returns has its lines end in line feeds. -/
theorem Text.unifyNewlines_of_not_mem {t : Text} (h : '\r' ∉ t) : t.unifyNewlines = t := by
  fun_induction Text.unifyNewlines t with
  | case1 => rfl
  | case2 cs ih => simp at h
  | case3 cs _ ih => simp at h
  | case4 c cs _ _ ih => rw [ih fun hc => h (List.mem_cons_of_mem c hc)]

/-! ### One text -/

/-- A text is formatted unless a pattern has a fault.  The changes of the report come from the end of
the text to its start, and made at once they make the text of the report. -/
theorem format_replay (text : Text) (config : Config)
    (plain : ∀ t ∈ Markdown.parse text, t.IsPlain)
    (shown : ∀ t ∈ Markdown.parse text, t.IsShown) :
    (∃ fault, format text config = .error (.pattern fault)) ∨
      ∃ report, format text config = .ok report ∧
        (report.diagnostics.Pairwise fun d e => e.span.stop ≤ d.span.start) ∧
        replaceAll 0 report.diagnostics.reverse (Utf8.encode text) = Utf8.encode report.text := by
  unfold format formatParsed
  simp only
  split
  · exact .inr ⟨_, rfl, .nil, rfl⟩
  · split
    · next fault _ => exact .inl ⟨fault, rfl⟩
    · next ignored _ =>
      obtain ⟨bs, hprose⟩ := exists_prose text (Markdown.parse_inOrder text) plain
      have hwithin := (editsWithin_changes_of_shown hprose shown config).admitted ignored
      obtain ⟨out, hout, hfold⟩ := exists_rewrites_of_editsWithin hwithin
      rw [formatTokens_eq_ok hprose config ignored hfold]
      exact .inr ⟨_, rfl, hwithin.ordered, hout.replaceAll⟩

/-! ### One file -/

/-- **A file changes as it is told.**  When a text has been changed, its file holds that text with
line feeds for all line endings and with the changes made that the report tells of; these do not
overlap, and the report is printed.  A file that is not changed holds the bytes that it has held, and
one that has been without carriage returns holds these bytes with the changes made. -/
theorem runCommand_reported {depth : Nat} {s t : Session} {args : List Text} {code : Nat}
    (job : Job depth s args) (hcheck : job.options.check = false)
    (honce : (job.paths.map s.tree.locate).Nodup)
    (hrun : (runCommand (Session.workspace depth) args).run s = (.ok code, t))
    {p : Path} (hp : p ∈ job.paths) {bytes : List UInt8} {text : Text}
    (hread : s.tree.read p = .ok bytes) (hdecode : Utf8.decode bytes = .ok text)
    (plain : ∀ token ∈ Markdown.parse text.unifyNewlines, token.IsPlain)
    (shown : ∀ token ∈ Markdown.parse text.unifyNewlines, token.IsShown) :
    ∃ report, format text.unifyNewlines job.config = .ok report ∧
      (∀ item ∈ report.printed p.toText text.unifyNewlines, item ∈ t.printed) ∧
      (report.diagnostics.Pairwise fun d e => e.span.stop ≤ d.span.start) ∧
      (t.tree.read p = .ok
        (if report.changed = true then
          replaceAll 0 report.diagnostics.reverse (Utf8.encode text.unifyNewlines)
        else bytes)) ∧
      ('\r' ∉ text → t.tree.read p = .ok (replaceAll 0 report.diagnostics.reverse bytes)) := by
  obtain ⟨hs, -, hdone⟩ := job.done_of_run honce hrun
  obtain ⟨last, hlast⟩ := hdone.printed
  obtain ⟨handled, hmem, hhandled, hafter⟩ := hdone.files p hp bytes hread
  rcases format_replay text.unifyNewlines job.config plain shown with
    ⟨fault, hfault⟩ | ⟨report, hreport, hordered, hreplay⟩
  · -- the command would have ended
    unfold handling at hhandled
    rw [hdecode] at hhandled
    simp only [hfault] at hhandled
    cases hhandled
  · rw [handling_of_ok hdecode hreport] at hhandled
    cases hhandled
    have hheld : t.tree.read p = .ok
        (if report.changed = true then
          replaceAll 0 report.diagnostics.reverse (Utf8.encode text.unifyNewlines)
        else bytes) := by
      rw [hafter, hcheck, hreplay]
      cases report.changed with
      | false => simp
      | true => simp
    refine ⟨report, hreport, ?_, hordered, hheld, ?_⟩
    · intro item hitem
      rw [hlast]
      apply List.mem_append_left
      apply List.mem_append_right
      exact List.mem_flatMap.mpr ⟨_, hmem, hitem⟩
    · intro hr
      rw [hheld, Text.unifyNewlines_of_not_mem hr, Utf8.encode_of_decode hdecode]
      by_cases hchanged : report.changed = true
      · rw [if_pos hchanged]
      · rw [if_neg hchanged]
        have hnone : report.diagnostics = [] := by
          simpa [Report.changed] using hchanged
        rw [hnone]
        rfl

/-- A file with a gap to fill. -/
def feedFile : Session where
  tree := ⟨[(["a.md".toList], Utf8.encode "中a\n".toList)], []⟩
  printed := []
  said := []
  time := []

/-- The command without any argument, with this file. -/
def feedFileJob : Job 1 feedFile [] := .plain 1 feedFile (by rfl)

/-- The conclusion of `runCommand_reported` at a file with a gap, which is filled. -/
theorem runCommand_reported_feed :
    ∃ t, (runCommand (Session.workspace 1) []).run feedFile = (.ok 0, t) ∧
      t.tree.read ⟨false, ["a.md".toList]⟩ =
        .ok (replaceAll 0 [⟨.space, [], [' '], ⟨3, 3⟩⟩] (Utf8.encode "中a\n".toList)) := by
  have hparse : Markdown.parse (Text.unifyNewlines "中a\n".toList) =
      [.proseOpen "paragraph" (some 0), .inline "中a".toList [.text "中a".toList] (some 0)] := by
    decide +kernel
  have hplain : ∀ token ∈ Markdown.parse (Text.unifyNewlines "中a\n".toList), token.IsPlain := by
    rw [hparse]
    simp [Token.IsPlain]
  have hshown : ∀ token ∈ Markdown.parse (Text.unifyNewlines "中a\n".toList), token.IsShown := by
    rw [hparse]
    intro token htoken
    rcases List.mem_cons.mp htoken with rfl | htoken
    · trivial
    · cases List.mem_singleton.mp htoken
      intro pieces h
      have hpieces : placeInline "中a".toList [.text "中a".toList] =
          .ok [⟨⟨.text, "", "中a".toList⟩, 2⟩] := rfl
      rw [hpieces] at h
      cases h
      exact ⟨fun h => absurd rfl h, trivial⟩
  have hformat : format (Text.unifyNewlines "中a\n".toList) .default =
      .ok ⟨"中 a\n".toList, [⟨.space, [], [' '], ⟨3, 3⟩⟩], []⟩ :=
    Except.eq_ok_of_toOption (by decide +kernel)
  have hpaths : feedFileJob.paths = [⟨false, ["a.md".toList]⟩] := by decide +kernel
  have honce : (feedFileJob.paths.map feedFile.tree.locate).Nodup := by
    rw [hpaths]
    simp
  have hmem : ⟨false, ["a.md".toList]⟩ ∈ feedFileJob.paths := by
    rw [hpaths]
    exact List.mem_singleton_self _
  have hcode : ((runCommand (Session.workspace 1) []).run feedFile).1 = .ok 0 :=
    Except.eq_ok_of_toOption (by decide +kernel)
  generalize hrun : (runCommand (Session.workspace 1) []).run feedFile = result at hcode
  obtain ⟨code, t⟩ := result
  cases hcode
  have hread : feedFile.tree.read ⟨false, ["a.md".toList]⟩ =
      .ok (Utf8.encode "中a\n".toList) := by rfl
  obtain ⟨report, hreport, -, -, -, hheld⟩ :=
    runCommand_reported feedFileJob rfl honce hrun hmem hread (Utf8.decode_encode _)
      hplain hshown
  cases hformat.symm.trans hreport
  exact ⟨t, rfl, hheld (by decide)⟩

/-! ### Carriage returns -/

/-- A file with a gap to fill, in which a carriage return stands before each line feed. -/
def carriageFile : Session where
  tree := ⟨[(["a.md".toList], Utf8.encode "中a\r\n文\r\n".toList)], []⟩
  printed := []
  said := []
  time := []

/-- What becomes of it by the command without any argument. -/
def carriageRun : Session := ((runCommand (Session.workspace 1) []).run carriageFile).2

/-- The table that the command prints for the file lists a single space, and yet the file loses its
carriage returns as well. -/
theorem not_runCommand_reported :
    (format (Text.unifyNewlines "中a\r\n文\r\n".toList) .default).toOption.map
        Report.diagnostics = some [⟨.space, [], [' '], ⟨3, 3⟩⟩] ∧
      carriageRun.printed.head? = some (.table "a.md".toList Report.heads [["1:2".toList,
        "space error.".toList, "''".toList, "should be one space here".toList]]) ∧
      carriageRun.tree.read ⟨false, ["a.md".toList]⟩ = .ok (Utf8.encode "中 a\n文\n".toList) ∧
      carriageRun.tree.read ⟨false, ["a.md".toList]⟩ ≠
        .ok (replaceAll 0 [⟨.space, [], [' '], ⟨3, 3⟩⟩]
          (Utf8.encode "中a\r\n文\r\n".toList)) := by
  have hread : carriageRun.tree.read ⟨false, ["a.md".toList]⟩ =
      .ok (Utf8.encode "中 a\n文\n".toList) :=
    Except.eq_ok_of_toOption (by decide +kernel)
  refine ⟨by decide +kernel, by decide +kernel, hread, ?_⟩
  rw [hread]
  intro h
  have hbytes : Utf8.encode "中 a\n文\n".toList = replaceAll 0 [⟨.space, [], [' '], ⟨3, 3⟩⟩]
      (Utf8.encode "中a\r\n文\r\n".toList) := Except.ok.inj h
  revert hbytes
  decide

end CjkProse
