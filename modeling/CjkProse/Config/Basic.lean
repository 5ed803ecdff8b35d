import CjkProse.Text.Basic

/-!
# Settings

What the rules are told to do.  A switch that is off leaves its matter alone.  A *demand* for a
space has three states: one space, none, or whatever the source has.

## Main definitions

* `QuoteStyle` — corner or curly quotation marks.
* `Config` — all settings; `Config.default` and `Config.empty` are the two presets.
-/

namespace CjkProse

/-- The style that quotation marks are brought to. -/
inductive QuoteStyle
  /-- Curly marks. -/
  | simplified
  /-- Corner marks. -/
  | traditional
  deriving DecidableEq, Repr, Inhabited

/-- The name of a style. -/
def QuoteStyle.name : QuoteStyle → String
  | .simplified => "simplified"
  | .traditional => "traditional"

/-- The settings. -/
structure Config where
  /-- Marks to be written in half width. -/
  halfwidthPunctuation : Text
  /-- Marks to be written in full width. -/
  fullwidthPunctuation : Text
  /-- The style of quotation marks, if they are to be unified. -/
  unifiedPunctuation : Option QuoteStyle
  /-- Abbreviations whose full stop stays as it is. -/
  skipAbbrs : List Text
  /-- One space between half-width runs. -/
  spaceBetweenHalfwidth : Bool
  /-- No space between full-width runs. -/
  noSpaceBetweenFullwidth : Bool
  /-- The space between a half-width and a full-width run. -/
  spaceBetweenMixed : Option Bool
  /-- Units that stand next to a number without a space. -/
  skipZhUnits : List Text
  /-- No space before a mark that pauses or stops. -/
  noSpaceBeforePause : Bool
  /-- The space after a half-width mark that pauses or stops. -/
  spaceAfterHalfwidthPause : Option Bool
  /-- No space after a full-width mark that pauses or stops. -/
  noSpaceAfterFullwidthPause : Bool
  /-- The space outside of half-width quotation marks. -/
  spaceOutsideHalfwidthQuote : Option Bool
  /-- No space outside of full-width quotation marks. -/
  noSpaceOutsideFullwidthQuote : Bool
  /-- No space inside of quotation marks. -/
  noSpaceInsideQuote : Bool
  /-- The space outside of half-width brackets. -/
  spaceOutsideHalfwidthBracket : Option Bool
  /-- No space outside of full-width brackets. -/
  noSpaceOutsideFullwidthBracket : Bool
  /-- No space inside of brackets. -/
  noSpaceInsideBracket : Bool
  /-- The space around inline code. -/
  spaceOutsideCode : Option Bool
  /-- No space inside of emphasis, links and other wrappers. -/
  noSpaceInsideWrapper : Bool
  /-- No space at the ends of the whole text. -/
  trimSpace : Bool
  /-- Patterns of text that is left alone. -/
  ignores : List Text
  deriving DecidableEq, Repr, Inhabited

namespace Config

/-- The settings that are used when nothing else is said. -/
def default : Config where
  halfwidthPunctuation := "()".toList
  fullwidthPunctuation := "，。：；？！“”‘’".toList
  unifiedPunctuation := some .simplified
  skipAbbrs := ["Mr.", "Mrs.", "Dr.", "Jr.", "Sr.", "vs.", "etc.", "i.e.", "e.g.", "a.k.a"].map
    String.toList
  spaceBetweenHalfwidth := true
  noSpaceBetweenFullwidth := true
  spaceBetweenMixed := some true
  skipZhUnits := ["年", "月", "日", "天", "号", "时", "分", "秒"].map String.toList
  noSpaceBeforePause := true
  spaceAfterHalfwidthPause := some true
  noSpaceAfterFullwidthPause := true
  spaceOutsideHalfwidthQuote := some true
  noSpaceOutsideFullwidthQuote := true
  noSpaceInsideQuote := true
  spaceOutsideHalfwidthBracket := some true
  noSpaceOutsideFullwidthBracket := true
  noSpaceInsideBracket := true
  spaceOutsideCode := some true
  noSpaceInsideWrapper := true
  trimSpace := true
  ignores := []

/-- The settings under which no rule does anything. -/
def empty : Config where
  halfwidthPunctuation := []
  fullwidthPunctuation := []
  unifiedPunctuation := none
  skipAbbrs := []
  spaceBetweenHalfwidth := false
  noSpaceBetweenFullwidth := false
  spaceBetweenMixed := none
  skipZhUnits := []
  noSpaceBeforePause := false
  spaceAfterHalfwidthPause := none
  noSpaceAfterFullwidthPause := false
  spaceOutsideHalfwidthQuote := none
  noSpaceOutsideFullwidthQuote := false
  noSpaceInsideQuote := false
  spaceOutsideHalfwidthBracket := none
  noSpaceOutsideFullwidthBracket := false
  noSpaceInsideBracket := false
  spaceOutsideCode := none
  noSpaceInsideWrapper := false
  trimSpace := false
  ignores := []

end Config

end CjkProse
