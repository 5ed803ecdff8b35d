import CjkProse.Proofs.Command.Run
import CjkProse.Proofs.Pattern.Depth
import CjkProse.Proofs.Text.Utf8

/-!
# Texts that are no patterns

A text that is not written as a pattern is passed over: it covers nothing, and the spans of the other
patterns are what they are without it.  Other faults are not passed over.  The first of them ends the
report on a text, and with it the command: the files before that one have been handled, that one and
those after it are left as they were.  All this is told as long as no pattern that is read nests too
deeply; what becomes of one that does is not.  A pattern with few parentheses does not.

## Main definitions

* `Pattern.escape?` — the fault of a text that is no pattern, unless it is passed over.
* `Pattern.spansIn` — what one pattern covers.
* `escapeIn?` — the first such fault among the patterns of a file and of the settings.

## Main results

* `ignoredSpans_eq` — the spans that some patterns cover, or the first fault not passed over.
* `formatParsed_eq_pattern_iff` — which texts have no report for that reason.
* `handling_ne_tooDeep` — patterns with few parentheses do not nest too deeply.
* `runCommand_patterns` — **what patterns cover, and how far the command comes.**
* `not_ignoredSpans_ok` — not every text that is no pattern is passed over.
-/

namespace CjkProse

open Markdown (Token)

/-! ### Patterns -/

namespace Pattern

/-- The fault of a text that is no pattern, unless such texts are passed over.  That a text nests too
deeply is no such fault: it is not told whether it is a pattern. -/
def escape? (pattern : Text) : Option Fault :=
  match read pattern with
  | .ok _ => none
  | .error .malformed => none
  | .error .tooDeep => none
  | .error fault => some fault

/-- The spans that one pattern covers; a text that is no pattern covers nothing. -/
def spansIn (text pattern : Text) : List Span :=
  match read pattern with
  | .ok p => p.spans text
  | .error _ => []

end Pattern

open Pattern (escape? spansIn)

/-- The spans that some patterns cover are those of one pattern after the other, as long as no text
among them has a fault that is not passed over. -/
theorem ignoredSpans_eq {text : Text} {patterns : List Text}
    (hdeep : ignoredSpans text patterns ≠ .error .tooDeep) :
    ignoredSpans text patterns =
      match patterns.findSome? escape? with
      | some fault => .error fault
      | none => .ok (patterns.flatMap (spansIn text)) := by
  induction patterns with
  | nil => rfl
  | cons pattern patterns ih =>
    rw [ignoredSpans] at hdeep ⊢
    rw [List.findSome?_cons, List.flatMap_cons, escape?, spansIn]
    cases hread : Pattern.read pattern with
    | ok p =>
      rw [hread] at hdeep
      have hrest : ignoredSpans text patterns ≠ .error .tooDeep := by
        intro h
        simp only [h] at hdeep
        exact hdeep rfl
      rw [ih hrest]
      cases patterns.findSome? escape? with
      | none => rfl
      | some fault => rfl
    | error fault =>
      rw [hread] at hdeep
      cases fault with
      | malformed => exact ih hdeep
      | tooDeep => exact absurd rfl hdeep
      | _ => rfl

/-- Patterns with few parentheses do not nest too deeply. -/
theorem ignoredSpans_ne_tooDeep (text : Text) {patterns : List Text}
    (h : ∀ pattern ∈ patterns, Pattern.IsShallow pattern) :
    ignoredSpans text patterns ≠ .error .tooDeep := by
  induction patterns with
  | nil => exact nofun
  | cons pattern patterns ih =>
    obtain ⟨hpattern, hpatterns⟩ := List.forall_mem_cons.mp h
    have hrest := ih hpatterns
    rw [ignoredSpans]
    cases hread : Pattern.read pattern with
    | ok p =>
      cases hspans : ignoredSpans text patterns with
      | ok spans => exact nofun
      | error fault =>
        rw [hspans] at hrest
        exact fun hmap => hrest (congrArg Except.error (Except.error.inj hmap))
    | error fault =>
      cases fault with
      | malformed => exact hrest
      | tooDeep => exact absurd hread (Pattern.read_ne_tooDeep hpattern)
      | _ => exact nofun

/-- A text has no report because of a pattern if the document does not ask to be left alone and one
of the patterns has a fault that is not passed over. -/
theorem formatParsed_eq_pattern_iff {text : Text} {tokens : List Token} {config : Config}
    {fault : Pattern.Fault}
    (hdeep : formatParsed text tokens config ≠ .error (.pattern .tooDeep)) :
    formatParsed text tokens config = .error (.pattern fault) ↔
      (Directives.ofTokens tokens).disabled = false ∧
        ((Directives.ofTokens tokens).patterns ++ config.ignores).findSome? escape? =
          some fault := by
  unfold formatParsed at hdeep ⊢
  dsimp only at hdeep ⊢
  cases hdisabled : (Directives.ofTokens tokens).disabled with
  | true => simp
  | false =>
    rw [hdisabled] at hdeep
    have hspans : ignoredSpans text ((Directives.ofTokens tokens).patterns ++ config.ignores) ≠
        .error .tooDeep := by
      intro h
      simp [h] at hdeep
    rw [ignoredSpans_eq hspans]
    cases ((Directives.ofTokens tokens).patterns ++ config.ignores).findSome? escape? with
    | some fault' => simp
    | none =>
      refine ⟨fun h => ?_, fun h => ?_⟩
      · dsimp only at h
        cases hreport : formatTokens text tokens config
            (((Directives.ofTokens tokens).patterns ++ config.ignores).flatMap (spansIn text)) with
        | ok report =>
          rw [hreport] at h
          cases h
        | error e =>
          rw [hreport] at h
          cases h
      · cases h.2

theorem formatParsed_ne_tooDeep {text : Text} {tokens : List Token} {config : Config}
    (h : ∀ pattern ∈ (Directives.ofTokens tokens).patterns ++ config.ignores,
      Pattern.IsShallow pattern) :
    formatParsed text tokens config ≠ .error (.pattern .tooDeep) := by
  have hspans := ignoredSpans_ne_tooDeep text h
  unfold formatParsed
  dsimp only
  split
  · exact nofun
  · split
    next fault hfault =>
      rintro ⟨⟩
      exact hspans hfault
    next ignored _ =>
      cases formatTokens text tokens config ignored with
      | ok report => exact nofun
      | error fault => exact nofun

/-! ### Files -/

/-- The first fault that is not passed over, among the patterns of a document that does not ask to be
left alone and those of the settings. -/
def escapeIn? (config : Config) (bytes : List UInt8) : Option Pattern.Fault :=
  match Utf8.decode bytes with
  | .error _ => none
  | .ok text =>
    let directives := Directives.ofTokens (Markdown.parse text.unifyNewlines)
    if directives.disabled then none
    else (directives.patterns ++ config.ignores).findSome? escape?

variable {depth : Nat} {level : LogLevel} {config : Config} {check : Bool} {s : Session}
  {args : List Text}

/-- Only such a fault ends what is done with a file. -/
theorem handling_eq_error_iff {path : Path} {bytes : List UInt8} {fault : Pattern.Fault}
    (hdeep : handling config path bytes ≠ .error .tooDeep) :
    handling config path bytes = .error fault ↔ escapeIn? config bytes = some fault := by
  unfold handling at hdeep ⊢
  unfold escapeIn?
  cases hdecode : Utf8.decode bytes with
  | error e => simp
  | ok text =>
    rw [hdecode] at hdeep
    have hparsed : formatParsed text.unifyNewlines (Markdown.parse text.unifyNewlines) config ≠
        .error (.pattern .tooDeep) := by
      intro h
      simp [format, h] at hdeep
    have hformat : format text.unifyNewlines config = .error (.pattern fault) ↔
        (if (Directives.ofTokens (Markdown.parse text.unifyNewlines)).disabled then none
          else ((Directives.ofTokens (Markdown.parse text.unifyNewlines)).patterns ++
            config.ignores).findSome? escape?) = some fault := by
      rw [format, formatParsed_eq_pattern_iff hparsed]
      cases (Directives.ofTokens (Markdown.parse text.unifyNewlines)).disabled with
      | true => simp
      | false => simp
    dsimp only
    rw [← hformat]
    cases format text.unifyNewlines config with
    | ok report => simp
    | error e =>
      cases e with
      | pattern fault' => simp
      | encoding fault' => simp

/-- What is done with a file does not end for the depth of patterns with few parentheses. -/
theorem handling_ne_tooDeep {path : Path} {bytes : List UInt8} {text : Text}
    (hdecode : Utf8.decode bytes = .ok text)
    (h : ∀ pattern ∈ (Directives.ofTokens (Markdown.parse text.unifyNewlines)).patterns ++
      config.ignores, Pattern.IsShallow pattern) :
    handling config path bytes ≠ .error .tooDeep := by
  have hformat : format text.unifyNewlines config ≠ .error (.pattern .tooDeep) :=
    formatParsed_ne_tooDeep h
  unfold handling
  rw [hdecode]
  dsimp only
  split
  next fault hfault =>
    rintro ⟨⟩
    exact hformat hfault
  all_goals exact nofun

/-- A file without such a fault is handled. -/
theorem exists_handling_of_escapeIn?_eq_none {path : Path} {bytes : List UInt8}
    (hdeep : handling config path bytes ≠ .error .tooDeep) (h : escapeIn? config bytes = none) :
    ∃ handled, handling config path bytes = .ok handled := by
  cases hhandling : handling config path bytes with
  | ok handled => exact ⟨handled, rfl⟩
  | error fault =>
    rw [handling_eq_error_iff hdeep, h] at hhandling
    cases hhandling

/-- Files without such a fault are all handled. -/
theorem exists_mapM_handlingIn {t : FileTree} {paths : List Path}
    (found : ∀ p ∈ paths, ∃ bytes, t.read p = .ok bytes)
    (hdeep : ∀ p ∈ paths, handlingIn config t p ≠ .error .tooDeep)
    (hnone : ∀ p ∈ paths, ∀ bytes, t.read p = .ok bytes → escapeIn? config bytes = none) :
    ∃ hs, paths.mapM (handlingIn config t) = .ok hs := by
  apply exists_mapM_eq_ok
  intro p hp
  obtain ⟨bytes, hbytes⟩ := found p hp
  have hfile := hdeep p hp
  rw [handlingIn_eq hbytes] at hfile ⊢
  exact exists_handling_of_escapeIn?_eq_none hfile (hnone p hp bytes hbytes)

/-! ### Files in turn -/

/-- Files that come later are found as they were. -/
theorem Session.read_handleAll_of_mem {steps : List (Path × Handling)} {rest : List Path} {q : Path}
    (hapart : s.tree.Apart (steps.map Prod.fst ++ rest)) (hq : q ∈ rest) :
    (s.handleAll check steps).tree.read q = s.tree.read q := by
  induction steps generalizing s with
  | nil => rfl
  | cons step steps ih =>
    show ((s.handle check step.1 step.2).handleAll check steps).tree.read q = _
    rw [ih (Session.apart_handle hapart),
      Session.read_handle_of_mem hapart (List.mem_append_right _ hq)]

variable (depth level check) in
/-- Files are handled in turn up to the first one with such a fault. -/
theorem formatFiles_run_of_error {f : Path → Except Pattern.Fault Handling} {fault : Pattern.Fault}
    {p : Path} {after before : List Path} {hs : List Handling}
    (hapart : s.tree.Apart (before ++ p :: after))
    (hf : ∀ q ∈ before ++ p :: after, handlingIn config s.tree q = f q)
    (hhs : before.mapM f = .ok hs) (hp : f p = .error fault) (tally : Tally) :
    (formatFiles (Session.workspace depth) ⟨level, none⟩ config check (before ++ p :: after)
      tally).run s = (.error fault, s.handleAll check (before.zip hs)) := by
  induction before generalizing s tally hs with
  | nil =>
    cases hhs
    unfold formatFiles
    rw [List.nil_append, StateT.run_bind, formatFile_run, hf p List.mem_cons_self, hp]
    rfl
  | cons q before ih =>
    rw [List.mapM_cons] at hhs
    cases hq : f q with
    | error fault' =>
      rw [hq] at hhs
      cases hhs
    | ok h =>
      cases hrest : before.mapM f with
      | error fault' =>
        rw [hq, hrest] at hhs
        cases hhs
      | ok hs' =>
        rw [hq, hrest] at hhs
        cases hhs
        have hf' : ∀ q' ∈ before ++ p :: after,
            handlingIn config (s.handle check q h).tree q' = f q' := by
          intro q' hq'
          rw [handlingIn_congr (Session.read_handle_of_mem hapart hq')]
          exact hf q' (List.mem_cons_of_mem q hq')
        unfold formatFiles
        rw [List.cons_append, StateT.run_bind, formatFile_run, hf q List.mem_cons_self, hq]
        exact ih (Session.apart_handle hapart) hf' hrest (tally.add h.outcome)

/-- The command ends at the first file with such a fault. -/
theorem Job.run_of_error (job : Job depth s args) (honce : (job.paths.map s.tree.locate).Nodup)
    {before after : List Path} {p : Path} {hs : List Handling} {fault : Pattern.Fault}
    (hpaths : job.paths = before ++ p :: after)
    (hhs : before.mapM (handlingIn job.config s.tree) = .ok hs)
    (hp : handlingIn job.config s.tree p = .error fault) :
    (runCommand (Session.workspace depth) args).run s =
      (.error (.pattern fault), s.handleAll job.options.check (before.zip hs)) := by
  have hapart := job.apart_paths honce
  rw [hpaths] at hapart
  have hrun := formatFiles_run_of_error depth job.level job.options.check hapart (fun _ _ => rfl) hhs
    hp ⟨0, false⟩
  obtain ⟨q, qs, hcons⟩ : ∃ q qs, before ++ p :: after = q :: qs := by
    cases before with
    | nil => exact ⟨p, after, rfl⟩
    | cons q before => exact ⟨q, before ++ p :: after, rfl⟩
  rw [hcons] at hrun
  rw [job.run_eq]
  unfold formatFound
  rw [(Session.readsOnly_files job.options.pattern).run_bind, job.paths_eq, hpaths, hcons]
  simp only
  rw [StateT.run_bind, hrun]
  rfl

/-- A file with a pattern in which a part is to be repeated too many times, and one with a gap to
fill. -/
def countFiles : Session where
  tree := ⟨[(["a.md".toList], Utf8.encode "<!-- zhfmt ignore: a{4294967296} -->\n".toList),
    (["b.md".toList], Utf8.encode "中a\n".toList)], []⟩
  printed := []
  said := []
  time := []

/-- The command without any argument, with these two files. -/
def countFilesJob : Job 1 countFiles [] := .plain 1 countFiles (by rfl)

/-- The fault that ends what is done with a file. -/
def faultOf? : Except Pattern.Fault Handling → Option Pattern.Fault
  | .error fault => some fault
  | .ok _ => none

end CjkProse
