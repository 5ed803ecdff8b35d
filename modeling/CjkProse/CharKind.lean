import CjkProse.Unicode.Width

/-!
# Kinds of characters

Every rule on mixed Chinese and Western prose asks what a character *is* in such prose: a space, a
letter that takes half or full width, or a punctuation mark of the Chinese or of the Western set.
Symbols and numbers count as letters, since they stand in a sentence like words.

## Main definitions

* `CharKind` — the kinds.
* `CharKind.of` — the kind of a character.
* `Punct` — the Chinese and Western marks, listed by what they do.
* `isLetter`, `isSpace`, `isPunctuation`, … — predicates on characters.
-/

namespace CjkProse

open Unicode (Category isWide)

/-- What a character is in mixed Chinese and Western prose. -/
inductive CharKind
  /-- A space separator. -/
  | space
  /-- A letter, number or symbol of half width. -/
  | letterHalf
  /-- A letter, number or symbol of full width. -/
  | letterFull
  /-- A Chinese mark that pauses or stops: `，`, `。`, `！`. -/
  | chinesePause
  /-- An opening Chinese quotation mark. -/
  | chineseLeftQuote
  /-- A closing Chinese quotation mark. -/
  | chineseRightQuote
  /-- An opening Chinese bracket. -/
  | chineseLeftBracket
  /-- A closing Chinese bracket. -/
  | chineseRightBracket
  /-- A Chinese dash, dot, ellipsis or slash. -/
  | chineseOther
  /-- A Western mark that pauses or stops. -/
  | westernPause
  /-- A straight quotation mark, which opens and closes alike. -/
  | westernQuote
  /-- An opening Western bracket. -/
  | westernLeftBracket
  /-- A closing Western bracket. -/
  | westernRightBracket
  /-- Any other ASCII punctuation. -/
  | westernOther
  /-- Punctuation of neither set. -/
  | otherPunctuation
  /-- Marks, controls, unassigned code points. -/
  | other
  deriving DecidableEq, Repr, Inhabited

/-! ### The marks of the two sets -/

namespace Punct

/-- Chinese marks that pause or stop. -/
def chinesePause : List Char := ['。', '．', '，', '、', '：', '；', '！', '‼', '？', '⁇']

/-- The quotation marks of Chinese prose, each opening one with the one that closes it. -/
def chineseQuotes : List (Char × Char) := [('「', '」'), ('『', '』'), ('“', '”'), ('‘', '’')]

/-- Opening Chinese quotation marks. -/
def chineseLeftQuote : List Char := chineseQuotes.map Prod.fst

/-- Closing Chinese quotation marks. -/
def chineseRightQuote : List Char := chineseQuotes.map Prod.snd

/-- Opening Chinese brackets. -/
def chineseLeftBracket : List Char := ['（', '《', '〈', '【', '〖', '〔', '［', '｛']

/-- Closing Chinese brackets. -/
def chineseRightBracket : List Char := ['）', '》', '〉', '】', '〗', '〕', '］', '｝']

/-- Chinese dashes, dots, ellipses and slashes.  The hyphen is one of them. -/
def chineseOther : List Char := ['⸺', '—', '…', '⋯', '～', '-', '–', '·', '・', '‧', '／']

/-- Western marks that pause or stop. -/
def westernPause : List Char := ['.', ',', ':', ';', '!', '?']

/-- Straight quotation marks. -/
def westernQuote : List Char := ['"', '\'']

/-- Opening Western brackets. -/
def westernLeftBracket : List Char := ['(', '[', '{']

/-- Closing Western brackets. -/
def westernRightBracket : List Char := [')', ']', '}']

/-- The sets that a punctuation mark is looked up in, in this order. -/
def tables : List (List Char × CharKind) :=
  [(chinesePause, .chinesePause), (chineseLeftQuote, .chineseLeftQuote),
    (chineseRightQuote, .chineseRightQuote), (chineseLeftBracket, .chineseLeftBracket),
    (chineseRightBracket, .chineseRightBracket), (chineseOther, .chineseOther),
    (westernPause, .westernPause), (westernQuote, .westernQuote),
    (westernLeftBracket, .westernLeftBracket), (westernRightBracket, .westernRightBracket)]

/-- The kind of a punctuation mark: that of the first set it is in, else Western when it is ASCII. -/
def kindOf (c : Char) : CharKind :=
  match tables.find? fun t => t.1.contains c with
  | some t => t.2
  | none => if c.toNat < 128 then .westernOther else .otherPunctuation

/-- The mark that closes a quotation which `c` opens. -/
def closing? (c : Char) : Option Char :=
  (chineseQuotes.find? fun q => q.1 == c).map Prod.snd

end Punct

/-- The kind of a character, decided by its general category and, for letters, by its width. -/
def CharKind.of (c : Char) : CharKind :=
  match Category.of c with
  | .space => .space
  | .letter | .digit | .numeral | .symbol => if isWide c then .letterFull else .letterHalf
  | .punct => Punct.kindOf c
  | .mark | .hidden | .unassigned => .other

namespace CharKind

/-- The name under which a kind is shown. -/
def name : CharKind → String
  | .space => "space"
  | .letterHalf => "letter_half"
  | .letterFull => "letter_full"
  | .chinesePause => "punctuation_chinese_pause_stop"
  | .chineseLeftQuote => "punctuation_chinese_left_quotation"
  | .chineseRightQuote => "punctuation_chinese_right_quotation"
  | .chineseLeftBracket => "punctuation_chinese_left_bracket"
  | .chineseRightBracket => "punctuation_chinese_right_bracket"
  | .chineseOther => "punctuation_chinese_other"
  | .westernPause => "punctuation_western_pause_stop"
  | .westernQuote => "punctuation_western_quotation"
  | .westernLeftBracket => "punctuation_western_left_bracket"
  | .westernRightBracket => "punctuation_western_right_bracket"
  | .westernOther => "punctuation_western_other"
  | .otherPunctuation => "punctuation_other"
  | .other => "other"

/-- Letters of either width. -/
def isLetter : CharKind → Bool
  | .letterHalf | .letterFull => true
  | _ => false

/-- Marks of the Chinese set. -/
def isChinese : CharKind → Bool
  | .chinesePause | .chineseLeftQuote | .chineseRightQuote | .chineseLeftBracket
  | .chineseRightBracket | .chineseOther => true
  | _ => false

/-- Marks of the Western set. -/
def isWestern : CharKind → Bool
  | .westernPause | .westernQuote | .westernLeftBracket | .westernRightBracket
  | .westernOther => true
  | _ => false

/-- Marks that pause or stop. -/
def isPause : CharKind → Bool
  | .chinesePause | .westernPause => true
  | _ => false

/-- Quotation marks. -/
def isQuote : CharKind → Bool
  | .chineseLeftQuote | .chineseRightQuote | .westernQuote => true
  | _ => false

/-- Brackets of either set and either side. -/
def isBracket : CharKind → Bool
  | .chineseLeftBracket | .chineseRightBracket | .westernLeftBracket | .westernRightBracket => true
  | _ => false

/-- Marks with no special part in a sentence. -/
def isOtherPunctuation : CharKind → Bool
  | .chineseOther | .westernOther | .otherPunctuation => true
  | _ => false

/-- Marks that open something. -/
def isLeft : CharKind → Bool
  | .chineseLeftQuote | .chineseLeftBracket | .westernLeftBracket => true
  | _ => false

/-- Marks that close something. -/
def isRight : CharKind → Bool
  | .chineseRightQuote | .chineseRightBracket | .westernRightBracket => true
  | _ => false

end CharKind

/-! ### Predicates on characters -/

/-- Letters, numbers and symbols of either width. -/
def isLetter (c : Char) : Bool := (CharKind.of c).isLetter

/-- Space separators. -/
def isSpace (c : Char) : Bool := CharKind.of c == .space

/-- Marks of the Chinese set. -/
def isChinesePunctuation (c : Char) : Bool := (CharKind.of c).isChinese

/-- Marks of the Western set. -/
def isWesternPunctuation (c : Char) : Bool := (CharKind.of c).isWestern

/-- Marks of either set. -/
def isPunctuation (c : Char) : Bool := isChinesePunctuation c || isWesternPunctuation c

/-- Marks that pause or stop. -/
def isPause (c : Char) : Bool := (CharKind.of c).isPause

/-- Quotation marks. -/
def isQuote (c : Char) : Bool := (CharKind.of c).isQuote

/-- Brackets. -/
def isBracket (c : Char) : Bool := (CharKind.of c).isBracket

/-- Marks with no special part in a sentence. -/
def isOtherPunctuation (c : Char) : Bool := (CharKind.of c).isOtherPunctuation

/-- Marks that open something. -/
def isLeft (c : Char) : Bool := (CharKind.of c).isLeft

/-- Marks that close something. -/
def isRight (c : Char) : Bool := (CharKind.of c).isRight

/-- Marks that stand alone: neither quotation marks nor brackets. -/
def isSingle (c : Char) : Bool := isPause c || isOtherPunctuation c

/-- Opening brackets. -/
def isLeftBracket (c : Char) : Bool := isBracket c && isLeft c

/-- Closing brackets. -/
def isRightBracket (c : Char) : Bool := isBracket c && isRight c

/-- Characters that bring their own room: the wide ones and the Chinese marks. -/
def isWideOrChinese (c : Char) : Bool := isWide c || isChinesePunctuation c

example : CharKind.of '“' = .chineseLeftQuote ∧ CharKind.of '-' = .chineseOther ∧
    CharKind.of '+' = .letterHalf ∧ CharKind.of '*' = .westernOther := by decide

end CjkProse
