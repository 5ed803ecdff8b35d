import CjkProse.Rule.Marks
import CjkProse.Rule.Enclosures
import CjkProse.Rule.Exceptions

/-!
# A pass of the rules

The rules run in a fixed order at each node of a list, from left to right, after they have run
inside of the quotations.  First the marks get their form, then the gaps get their spaces, and in
the end the exceptions take back what they do not want.

## Main definitions

* `Rule` — the rules, by name.
* `Rule.all` — all of them, in the order in which they run.
* `Rule.applyAt` — one rule at one node.
* `sweep` — some rules over a whole paragraph.
* `polish` — all rules over a whole paragraph.
-/

namespace CjkProse

/-- The rules. -/
inductive Rule
  /-- Marks in half or full width. -/
  | markWidth
  /-- Quotation marks in one style. -/
  | quoteStyle
  /-- Spaces between letters. -/
  | letterSpace
  /-- Spaces around marks that pause or stop. -/
  | pauseSpace
  /-- Spaces in and around quotations. -/
  | quoteSpace
  /-- Spaces in and around brackets. -/
  | bracketSpace
  /-- Spaces around inline code. -/
  | codeSpace
  /-- Spaces inside of wrappers. -/
  | wrapperSpace
  /-- The full stops of abbreviations. -/
  | abbreviation
  /-- Numbers before units. -/
  | numberUnit
  deriving DecidableEq, Repr, Inhabited

namespace Rule

/-- All rules, in the order in which they run. -/
def all : List Rule :=
  [.markWidth, .quoteStyle, .letterSpace, .pauseSpace, .quoteSpace, .bracketSpace, .codeSpace,
    .wrapperSpace, .abbreviation, .numberUnit]

/-- The name under which a rule is known. -/
def name : Rule → String
  | .markWidth => "punctuation_width"
  | .quoteStyle => "punctuation_unification"
  | .letterSpace => "space_letter"
  | .pauseSpace => "space_punctuation"
  | .quoteSpace => "space_quotation"
  | .bracketSpace => "space_bracket"
  | .codeSpace => "space_code"
  | .wrapperSpace => "space_hyper_mark"
  | .abbreviation => "case_abbrs"
  | .numberUnit => "case_zh_units"

/-- The rule of a name. -/
def ofName? (s : String) : Option Rule := all.find? fun r => r.name == s

/-- What a rule does at a node. -/
def applyAt (r : Rule) (config : Config) (nodes : List Node) (i : Nat) : List Node :=
  match r with
  | .markWidth => Rules.markWidth config nodes i
  | .quoteStyle => Rules.quoteStyle config nodes i
  | .letterSpace => Rules.letterSpace config nodes i
  | .pauseSpace => Rules.pauseSpace config nodes i
  | .quoteSpace => Rules.quoteSpace config nodes i
  | .bracketSpace => Rules.bracketSpace config nodes i
  | .codeSpace => Rules.codeSpace config nodes i
  | .wrapperSpace => Rules.wrapperSpace config nodes i
  | .abbreviation => Rules.abbreviation config nodes i
  | .numberUnit => Rules.numberUnit config nodes i

/-- Runs some rules at a node, in order. -/
def applyAllAt (rules : List Rule) (config : Config) (nodes : List Node) (i : Nat) : List Node :=
  rules.foldl (fun nodes r => r.applyAt config nodes i) nodes

/-- Runs some rules at every node of a list, from the left. -/
def applyAll (rules : List Rule) (config : Config) (nodes : List Node) : List Node :=
  (List.range nodes.length).foldl (applyAllAt rules config) nodes

end Rule

mutual

/-- Runs some rules inside of a node. -/
def Node.sweep (rules : List Rule) (config : Config) : Node → Node
  | .group o inner ns c a =>
    .group o inner (Rule.applyAll rules config (sweepInside rules config ns)) c a
  | .char v a => .char v a
  | .half v a => .half v a
  | .full v a => .full v a
  | .event e s a => .event e s a

/-- Runs some rules inside of each node of a list. -/
def sweepInside (rules : List Rule) (config : Config) : List Node → List Node
  | [] => []
  | n :: ns => Node.sweep rules config n :: sweepInside rules config ns

end

/-- Runs some rules over a list of nodes.  What stands in a quotation is done before the list that
holds it, since no rule at one list looks at the nodes inside of another node. -/
def sweep (rules : List Rule) (config : Config) (nodes : List Node) : List Node :=
  Rule.applyAll rules config (sweepInside rules config nodes)

/-- Runs all rules over a paragraph. -/
def polish (config : Config) (paragraph : Paragraph) : Paragraph := sweep Rule.all config paragraph

/-- Runs a rule at the node at the end of a path: the indexes of the quotations on the way to it,
and its own. -/
def Rule.applyAtPath (r : Rule) (config : Config) : List Nat → List Node → List Node
  | [], nodes => nodes
  | [i], nodes => r.applyAt config nodes i
  | i :: path, nodes =>
    nodes.modify i fun
      | .group o inner ns c a => .group o inner (r.applyAtPath config path ns) c a
      | n => n

end CjkProse
