import ClusterConf.Text.EmojiTable
import ClusterConf.Text.Ranges
import ClusterConf.Text.WidthTable
set_option autoImplicit false

/-!
How many columns a text is given in a table. Some characters take other columns in front of certain
others: letters that are written in one sign with the next, characters in front of a selector of
their form, and the parts of one emoji. So a line is measured from its end on.
-/
namespace ClusterConf.Text

/-- The sorts of characters, and of groups of them, that a character in front may join. -/
inductive Shape where
  | plain
  /-- The Arabic letter. -/
  | alef
  /-- The Hebrew letter. -/
  | lamed
  /-- A Khmer letter that can be written below another one. -/
  | coengLetter
  /-- The Buginese letter. -/
  | ya
  /-- The Buginese vowel sign i, joined to the letter ya. -/
  | vowelYa
  | tifinaghLetter
  /-- The Tifinagh joiner and a letter. -/
  | tifinaghPair
  | lisuTone
  /-- The Old Turkic letter. -/
  | orkhonI
  | kiratE
  | kiratAi
  /-- A regional indicator; two in a row are a flag. -/
  | indicator
  | indicators
  | modifier
  | emoji
  /-- An emoji with a joiner in front of it. -/
  | joinedEmoji
  /-- The keycap sign in front of a joiner and an emoji. -/
  | joinedKeycap
  /-- Regional indicators in front of a joiner and an emoji. -/
  | joinedIndicator
  | joinedEven
  | joinedOdd
  /-- The end tag in front of a joiner and an emoji, and some tag letters in front of that. -/
  | tagLetters (n : Nat)
  /-- Tag digits in front of such an end. -/
  | tagDigits (n : Nat)
  deriving DecidableEq

namespace Shape

/-- Letters that a joiner and marks may stand in front of without an effect of their own. -/
def isLigating : Shape → Bool
  | lamed | coengLetter | ya | vowelYa | tifinaghLetter | tifinaghPair | lisuTone | orkhonI => true
  | _ => false

/-- Emoji parts to which a picture in front belongs. -/
def awaitsPicture : Shape → Bool
  | joinedEmoji | joinedKeycap => true
  | _ => false

end Shape

/-- The form that a selector asks for. -/
inductive Selector where
  | picture
  | plainText
  | fullWidth
  deriving DecidableEq

/-- What stands behind a character. -/
structure Behind where
  shape : Shape := .plain
  /-- Whether a joiner stands in front of that. -/
  joined : Bool := false
  /-- A selector in front of it. -/
  selector : Option Selector := none
  deriving DecidableEq

namespace Behind

/-- With a selector in front. It hides what is behind, but for letters and the parts of an emoji
that a picture belongs to. -/
def select (b : Behind) (s : Selector) : Behind :=
  if b.shape.isLigating || b.shape == .alef || (s == .picture && b.shape.awaitsPicture) then
    { b with selector := some s }
  else { selector := some s }

/-- Without a selector that found no character that it goes with. -/
def release (b : Behind) : Behind :=
  if b.shape.isLigating || b.shape == .alef then { b with selector := none } else {}

end Behind

def between (first last n : Nat) : Bool := first ≤ n && n ≤ last

/-- The columns of a character by itself; control characters count as one. -/
def charWidth (c : Char) : Nat :=
  let n := c.toNat
  if n < 0xa0 then 1
  else if n == 0x17a4 then 2
  else if n == 0x17d8 then 3
  else if inRanges n zeroWidthRanges then 0
  else if inRanges n wideRanges then 2
  else 1

def isAlef (n : Nat) : Bool :=
  inRanges n [(0x622, 0x623), (0x625, 0x625), (0x627, 0x627), (0x671, 0x673), (0x675, 0x675),
    (0x773, 0x774), (0x870, 0x882)]

def isLam (n : Nat) : Bool :=
  inRanges n [(0x644, 0x644), (0x6b5, 0x6b8), (0x76a, 0x76a), (0x8a6, 0x8a6), (0x8c7, 0x8c7)]

/-- The Khmer letters that can be written below another one in a single column. -/
def isCoengLetter (n : Nat) : Bool :=
  inRanges n [(0x1780, 0x1782), (0x1784, 0x1787), (0x1789, 0x178c), (0x178e, 0x1793),
    (0x1795, 0x1798), (0x179b, 0x179d), (0x17a0, 0x17a0), (0x17a2, 0x17a2), (0x17a7, 0x17a7),
    (0x17ab, 0x17ac), (0x17af, 0x17af)]

def isTifinaghLetter (n : Nat) : Bool := between 0x2d31 0x2d65 n || n == 0x2d6f

/-- The halves of flags. -/
def isIndicator (n : Nat) : Bool := between 0x1f1e6 0x1f1ff n

/-- The colours of skin. -/
def isModifier (n : Nat) : Bool := between 0x1f3fb 0x1f3ff n

def isPicture (c : Char) : Bool := inRanges c.toNat pictureRanges

/-- Characters that a selector makes a picture. -/
def takesPicture (c : Char) : Bool := inRanges c.toNat twoFormRanges

/-- Pictures that a selector makes a text of one column; squared ideographs stay wide. -/
def takesText (c : Char) : Bool :=
  isPicture c && inRanges c.toNat twoFormRanges && !between 0x1f200 0x1f2ff c.toNat

/-- Quotation marks that a selector makes wide. -/
def takesFullWidth (c : Char) : Bool := c == '‘' || c == '’' || c == '“' || c == '”'

/-- Marks without a column that letters join across. -/
def isTransparent (c : Char) : Bool :=
  charWidth c == 0 && !inRanges c.toNat firmRanges

/-- Characters in front of a letter that leave open what is in front of them. -/
def isInvisible (c : Char) : Bool :=
  inRanges c.toNat [(0x34f, 0x34f), (0x17b4, 0x17b5), (0x180b, 0x180d), (0x180f, 0x180f),
    (0x200d, 0x200d), (0xfe00, 0xfe0f), (0xe0100, 0xe01ef)]

/-- The joiner that makes one sign of two. -/
def joiner : Char := '\u200d'

/-- The selectors of a form. -/
def selectorOf? : Char → Option Selector
  | '\ufe0f' => some .picture
  | '\ufe0e' => some .plainText
  | '\ufe01' => some .fullWidth
  | _ => none

def shapeOf (c : Char) : Shape :=
  let n := c.toNat
  if n == 0x5dc then .lamed
  else if isAlef n then .alef
  else if isCoengLetter n then .coengLetter
  else if n == 0x1a10 then .ya
  else if isTifinaghLetter n then .tifinaghLetter
  else if between 0xa4fc 0xa4fd n then .lisuTone
  else if n == 0x10c03 then .orkhonI
  else if n == 0x16d67 then .kiratE
  else if n == 0x16d68 then .kiratAi
  else if isIndicator n then .indicator
  else if isModifier n then .modifier
  else if isPicture c then .emoji
  else .plain

/-- The columns of a character that joins nothing behind it, and what it is for those in front. -/
def alone (c : Char) : Int × Behind :=
  (charWidth c, { shape := shapeOf c, selector := selectorOf? c })

/-- The columns that a character adds to letters behind it that it is written in one sign with, and
what the two are for those in front. -/
def ligature? (c : Char) (b : Behind) : Option (Int × Behind) :=
  let n := c.toNat
  match b.shape, b.joined with
  | .alef, _ =>
    if isLam n then some (0, {})
    else if isTransparent c then some (0, { shape := .alef })
    else none
  | .lamed, true => if n == 0x5d0 then some (0, {}) else none
  | .coengLetter, _ => if n == 0x17d2 then some (-1, {}) else none
  | .ya, true => if n == 0x1a17 then some (0, { shape := .vowelYa }) else none
  | .vowelYa, _ => if n == 0x1a15 then some (0, {}) else none
  | .tifinaghLetter, joined =>
    if n == 0x2d7f then some (1, { shape := .tifinaghPair })
    else if joined && isTifinaghLetter n then some (0, {})
    else none
  | .tifinaghPair, _ => if isTifinaghLetter n then some (-1, {}) else none
  | .lisuTone, _ => if between 0xa4f8 0xa4fb n then some (0, {}) else none
  | .orkhonI, true => if n == 0x10c32 then some (0, {}) else none
  | .kiratE, _ =>
    if n == 0x16d63 || n == 0x16d69 then some (0, {})
    else if n == 0x16d67 then some (0, { shape := .kiratAi })
    else if n == 0x16d68 then some (1, { shape := .kiratE })
    else none
  | .kiratAi, _ => if n == 0x16d63 then some (0, {}) else none
  | _, _ => none

/-- The part of an emoji that a character and the parts behind it make, and the columns that the
character adds. -/
def emojiPart? (c : Char) (s : Shape) : Option (Int × Shape) :=
  let n := c.toNat
  let tagLetter := between 0xe0061 0xe007a n
  let tagDigit := between 0xe0030 0xe0039 n
  let blackFlag := n == 0x1f3f4
  match s with
  | .modifier =>
    if inRanges n modifiedRanges then some (0, .emoji)
    else if c == joiner then some (0, .joinedEmoji)
    else none
  | .indicator => if isIndicator n then some (1, .indicators) else none
  | .indicators =>
    if isIndicator n then some (1, .indicators)
    else if c == joiner then some (0, .joinedEmoji)
    else none
  | .emoji => if c == joiner then some (0, .joinedEmoji) else none
  | .joinedEmoji =>
    if n == 0x20e3 then some (0, .joinedKeycap)
    else if isIndicator n then some (1, .joinedIndicator)
    else if isModifier n then some (0, .modifier)
    else if n == 0xe007f then some (0, .tagLetters 0)
    else if isPicture c then some (0, .emoji)
    else none
  | .joinedIndicator => if isIndicator n then some (-1, .joinedEven) else none
  | .joinedEven =>
    if isIndicator n then some (3, .joinedOdd)
    else if c == joiner then some (0, .joinedEmoji)
    else none
  | .joinedOdd =>
    if isIndicator n then some (-1, .joinedEven)
    else if c == joiner then some (0, .joinedEmoji)
    else none
  | .tagLetters k =>
    if tagLetter && k < 6 then some (0, .tagLetters (k + 1))
    else if tagDigit && k < 5 then some (0, .tagDigits 1)
    else if blackFlag && 3 ≤ k then some (0, .emoji)
    else none
  | .tagDigits k =>
    if tagDigit && k < 3 then some (0, .tagDigits (k + 1))
    else if blackFlag && k == 3 then some (0, .emoji)
    else none
  | _ => none

/-- The columns that a character adds to those of what is behind it, and what it then is for those
in front. -/
def step (c : Char) (b : Behind) : Int × Behind :=
  if b.selector == some .picture && takesPicture c then
    (if b.shape.awaitsPicture then 0 else 2, { shape := .emoji })
  else
    let b := if b.selector == some .picture then b.release else b
    if c.toNat ≤ 0xa0 then (1, {})
    else if b == {} then alone c
    else if let some s := selectorOf? c then (0, b.select s)
    else if b.selector == some .plainText && takesText c then (1, {})
    else if b.selector == some .fullWidth && takesFullWidth c then (2, {})
    else
      let b := if b.selector.isSome then b.release else b
      if b.shape.isLigating && c == joiner then (0, { b with joined := true })
      else if b.shape.isLigating && isInvisible c then (0, b)
      else
        match ligature? c b, emojiPart? c b.shape with
        | some joint, _ => joint
        | none, some (columns, shape) => (columns, { shape })
        | none, none => alone c

/-- The columns of a line. Colour sequences count as the characters they are written with. -/
def width (line : String) : Nat :=
  let (columns, _) : Int × Behind :=
    line.toList.foldr
      (fun c (total, behind) =>
        let (columns, behind) := step c behind
        (total + columns, behind))
      (0, {})
  columns.toNat

end ClusterConf.Text
