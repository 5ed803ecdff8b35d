import CjkProse.Config.Basic
import CjkProse.Node.Neighbours

/-!
# The form of marks

The first rules change marks and no spaces: they bring a mark to half or full width, and a pair of
quotation marks to one style.

## Main definitions

* `halfwidth`, `fullwidth` — the two forms of a mark.
* `Rules.markWidth` — marks in the width that the settings ask for.
* `Rules.quoteStyle` — quotation marks in the style that the settings ask for.
-/

namespace CjkProse

/-- The half-width form of a mark that has one. -/
def halfwidth : Char → Char
  | '，' => ','
  | '。' => '.'
  | '；' => ';'
  | '：' => ':'
  | '？' => '?'
  | '！' => '!'
  | '（' => '('
  | '）' => ')'
  | '［' => '['
  | '］' => ']'
  | '｛' => '{'
  | '｝' => '}'
  | '“' => '"'
  | '”' => '"'
  | '‘' => '\''
  | '’' => '\''
  | c => c

/-- The full-width form of a mark that has one.  A straight quotation mark has two and is left
alone here. -/
def fullwidth : Char → Char
  | ',' => '，'
  | '.' => '。'
  | ';' => '；'
  | ':' => '：'
  | '?' => '？'
  | '!' => '！'
  | '(' => '（'
  | ')' => '）'
  | '[' => '［'
  | ']' => '］'
  | '{' => '｛'
  | '}' => '｝'
  | c => c

/-- The curly form of a corner quotation mark. -/
def curly? : Char → Option Char
  | '「' => some '“'
  | '」' => some '”'
  | '『' => some '‘'
  | '』' => some '’'
  | _ => none

/-- The corner form of a curly quotation mark. -/
def corner? : Char → Option Char
  | '“' => some '「'
  | '”' => some '」'
  | '‘' => some '『'
  | '’' => some '』'
  | _ => none

/-- Brings a mark to half width, if its half-width form is asked for, and then to full width, if the
full-width form of what it is by now is asked for. -/
def Config.resizeMark (config : Config) (v : Revisable Char) : Revisable Char :=
  let half := halfwidth v.value
  let v := if config.halfwidthPunctuation.contains half then v.revise half else v
  let full := fullwidth v.value
  if config.fullwidthPunctuation.contains full then v.revise full else v

/-- Brings a quotation mark to its width.  A straight one becomes `double` or `single` if that is
asked for. -/
def Config.resizeQuote (config : Config) (double single : Char) (v : Revisable Char) :
    Revisable Char :=
  if v.value == '"' && config.fullwidthPunctuation.contains double then v.revise double
  else if v.value == '\'' && config.fullwidthPunctuation.contains single then v.revise single
  else config.resizeMark v

/-- Brings a quotation mark to the style asked for. -/
def Config.restyleQuote (config : Config) (v : Revisable Char) : Revisable Char :=
  match config.unifiedPunctuation with
  | none => v
  | some .simplified => (curly? v.value).elim v v.revise
  | some .traditional => (corner? v.value).elim v v.revise

namespace Rules

open Neighbours

/-- Marks in the width that the settings ask for.  A Western mark directly between two half-width
runs, and one next to another Western mark, stay as they are. -/
def markWidth (config : Config) (nodes : List Node) (i : Nat) : List Node :=
  match nodes[i]? with
  | some (.group o inner ns c a) =>
    nodes.set i
      (.group (config.resizeQuote '“' '‘' o) inner ns (config.resizeQuote '”' '’' c) a)
  | some (.char v a) =>
    if isPunctuation v.value && !isTightHalfwidthPunctuation nodes i &&
        !isSuccessivePunctuation nodes i && (isSingle v.value || isBracket v.value) then
      nodes.set i (.char (config.resizeMark v) a)
    else nodes
  | _ => nodes

/-- Quotation marks in the style that the settings ask for. -/
def quoteStyle (config : Config) (nodes : List Node) (i : Nat) : List Node :=
  match nodes[i]? with
  | some (.group o inner ns c a) =>
    nodes.set i (.group (config.restyleQuote o) inner ns (config.restyleQuote c) a)
  | _ => nodes

end Rules

end CjkProse
