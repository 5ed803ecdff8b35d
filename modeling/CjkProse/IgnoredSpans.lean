import CjkProse.Pattern.Match

/-!
# Ignored spans

The spans of a text that the matches of some patterns cover.  A pattern may have a group that is
named for being ignored; then only what this group has kept is covered.  A text that is not written
as a pattern covers nothing.

## Main definitions

* `Pattern.spans` — the spans that one pattern covers.
* `ignoredSpans` — those that some patterns cover.
-/

namespace CjkProse

namespace Pattern

/-- The name of the group that tells what is to be ignored. -/
def ignoredGroup : Text := "ignore".toList

/-- The characters of a match that are covered, as a start and an end. -/
def Found.covered (group : Option Nat) (found : Found) : Option (Nat × Nat) :=
  match group with
  | none => some (found.first, found.stop.index)
  | some n => found.kept.get? n

/-- The span of the characters between two indexes. -/
def spanOf (text : Text) (first last : Nat) : Span :=
  ⟨Text.byteLength (text.take first), Text.byteLength (text.take last)⟩

/-- The spans that a pattern covers. -/
def Compiled.spans (p : Compiled) (text : Text) : List Span :=
  let group := (p.names.find? fun entry => entry.1 == ignoredGroup).map Prod.snd
  (findAll p.pattern text).filterMap fun found =>
    (found.covered group).map fun (first, last) => spanOf text first last

end Pattern

/-- The spans that some patterns cover.  Only texts that are not written as patterns are passed
over. -/
def ignoredSpans (text : Text) : List Text → Except Pattern.Fault (List Span)
  | [] => .ok []
  | pattern :: patterns =>
    match Pattern.read pattern with
    | .ok p => (ignoredSpans text patterns).map (p.spans text ++ ·)
    | .error .malformed => ignoredSpans text patterns
    | .error fault => .error fault

/-- The patterns that are passed over. -/
def malformedPatterns (patterns : List Text) : List Text :=
  patterns.filter fun pattern =>
    match Pattern.read pattern with
    | .error .malformed => true
    | _ => false

end CjkProse
