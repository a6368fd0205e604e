import AttributePins.Text.Width.Emoji
import AttributePins.Text.Width.Joining
import AttributePins.Text.Width.Ranges

/-! The number of terminal columns of a text. Most characters take one column, wide ones
two, and marks none. Some sequences take fewer columns than their characters: emoji
sequences, flags, and the ligatures of a few scripts. What a character adds depends
on what follows it, so a text is measured from its end. A text of spaces therefore
adds its length, whatever stands in front of it. -/
namespace AttributePins.Text.Width

/-- Letters that form a ligature with the character in front of them. -/
inductive Ligature where
  | lamed
  | buginese
  /-- The Buginese letter with the vowel sign in front of it. -/
  | buginesePair
  | tifinagh
  /-- A Tifinagh letter with the joiner in front of it. -/
  | tifinaghPair
  | lisu
  | orkhon
  | khmer
deriving DecidableEq, Repr

/-- What follows a character, as far as it matters for its width. -/
inductive Following where
  | plain
  | lineFeed
  | emoji
  | skinTone
  /-- A single regional indicator. -/
  | indicator
  /-- Several regional indicators. -/
  | indicators
  /-- A joiner in front of an emoji. -/
  | joiner
  /-- A keycap in front of a joiner. -/
  | joinedKeycap
  /-- A single regional indicator in front of a joiner. -/
  | joinedIndicator
  /-- An even number of regional indicators in front of a joiner. -/
  | joinedEven
  /-- An odd number of them, and more than one. -/
  | joinedOdd
  /-- The end of a tagged flag in front of a joiner, by its letters and digits. -/
  | tagged (letters digits : Nat)
  | kiratE
  | kiratAi
  | alef
  /-- A letter, and whether a joiner stands in front of it. -/
  | ligature (letter : Ligature) (joined : Bool)
deriving DecidableEq, Repr

/-- The two variation selectors that choose between text and picture. -/
inductive Selector where
  | text
  | picture
deriving DecidableEq, Repr

/-- What follows a character, and the selectors that apply to it. -/
structure Context where
  selector : Option Selector := none
  /-- Whether a selector for wide quotation marks applies. -/
  wideQuote : Bool := false
  following : Following := .plain
deriving DecidableEq, Repr

def between (c : Char) (first last : Nat) : Bool := first ≤ c.toNat && c.toNat ≤ last

/-- Whether a character is one half of a flag. -/
def isIndicator (c : Char) : Bool := between c 0x1F1E6 0x1F1FF

def isSkinTone (c : Char) : Bool := between c 0x1F3FB 0x1F3FF

/-- Quotation marks that a variation selector can make wide. -/
def isQuotationMark (c : Char) : Bool := between c 0x2018 0x2019 || between c 0x201C 0x201D

def isTifinagh (c : Char) : Bool := between c 0x2D31 0x2D65 || c.toNat = 0x2D6F

/-- Khmer letters that can stand below another. -/
def khmerRanges : Ranges :=
  [(0x1780, 0x1782), (0x1784, 0x1787), (0x1789, 0x178C), (0x178E, 0x1793), (0x1795, 0x1798),
   (0x179B, 0x179D), (0x17A0, 0x17A0), (0x17A2, 0x17A2), (0x17A7, 0x17A7), (0x17AB, 0x17AC),
   (0x17AF, 0x17AF)]

/-- Marks that may stand anywhere in a ligature. -/
def ignorableRanges : Ranges :=
  [(0x034F, 0x034F), (0x17B4, 0x17B5), (0x180B, 0x180D), (0x180F, 0x180F), (0xFE00, 0xFE0F),
   (0xE0100, 0xE01EF)]

namespace Following

/-- Whether a selector leaves this in sight for the characters in front of it. -/
def outlastsSelector : Following → Bool
  | .alef => true
  | .ligature _ _ => true
  | _ => false

def isJoinedPicture : Following → Bool
  | .joiner => true
  | .joinedKeycap => true
  | _ => false

def behindSelector (following : Following) : Following :=
  if following.outlastsSelector then following else .plain

/-- What a character is for the character in front of it. -/
def ofChar (c : Char) : Following :=
  let n := c.toNat
  if n = 0x0A then .lineFeed
  else if alefRanges.has c then .alef
  else if n = 0x05DC then .ligature .lamed false
  else if khmerRanges.has c then .ligature .khmer false
  else if n = 0x1A10 then .ligature .buginese false
  else if isTifinagh c then .ligature .tifinagh false
  else if between c 0xA4FC 0xA4FD then .ligature .lisu false
  else if n = 0x10C03 then .ligature .orkhon false
  else if n = 0x16D67 then .kiratE
  else if n = 0x16D68 then .kiratAi
  else if isIndicator c then .indicator
  else if isSkinTone c then .skinTone
  else if pictureRanges.has c then .emoji
  else .plain

end Following

def ownWidth (c : Char) : Int :=
  if c.toNat = 0x17D8 then 3
  else if c.toNat = 0x17A4 ∨ wideRanges.has c then 2
  else if zeroRanges.has c then 0
  else 1

/-- What a character adds in front of a ligature's letter, and what then follows. -/
def ligatureStep? (letter : Ligature) (joined : Bool) (c : Char) : Option (Int × Following) :=
  match letter, joined with
  | .lamed, true => if c.toNat = 0x05D0 then some (0, .plain) else none
  | .buginese, true =>
    if c.toNat = 0x1A17 then some (0, .ligature .buginesePair true) else none
  | .buginesePair, _ => if c.toNat = 0x1A15 then some (0, .plain) else none
  | .tifinagh, joined =>
    if c.toNat = 0x2D7F then some (1, .ligature .tifinaghPair true)
    else if joined && isTifinagh c then some (0, .plain)
    else none
  | .tifinaghPair, _ => if isTifinagh c then some (-1, .plain) else none
  | .lisu, _ => if between c 0xA4F8 0xA4FB then some (0, .plain) else none
  | .orkhon, true => if c.toNat = 0x10C32 then some (0, .plain) else none
  | .khmer, _ => if c.toNat = 0x17D2 then some (-1, .plain) else none
  | _, false => none

/-- What a character adds in front of a joiner and an emoji. -/
def joinerStep? (c : Char) : Option (Int × Following) :=
  if c.toNat = 0x20E3 then some (0, .joinedKeycap)
  else if c.toNat = 0xE007F then some (0, .tagged 0 0)
  else if isIndicator c then some (1, .joinedIndicator)
  else if isSkinTone c then some (0, .skinTone)
  else if pictureRanges.has c then some (0, .emoji)
  else none

/-- What a character adds in front of a flag's tags. A tagged flag has up to six letters,
or three digits behind up to four letters. -/
def tagStep? (letters digits : Nat) (c : Char) : Option (Int × Following) :=
  if between c 0xE0061 0xE007A && digits == 0 && letters < 6 then
    some (0, .tagged (letters + 1) 0)
  else if between c 0xE0030 0xE0039 && digits < 3 && letters ≤ 4 then
    some (0, .tagged letters (digits + 1))
  else if c.toNat = 0x1F3F4 ∧ (digits = 3 ∨ digits = 0 ∧ 3 ≤ letters) then some (0, .emoji)
  else none

def kiratStep? (following : Following) (c : Char) : Option (Int × Following) :=
  match following, c.toNat with
  | .kiratE, 0x16D63 => some (0, .plain)
  | .kiratE, 0x16D67 => some (0, .kiratAi)
  | .kiratE, 0x16D68 => some (1, .kiratE)
  | .kiratE, 0x16D69 => some (0, .plain)
  | .kiratAi, 0x16D63 => some (0, .plain)
  | _, _ => none

def Following.isJoinable : Following → Bool
  | .emoji => true
  | .skinTone => true
  | .indicators => true
  | .joinedEven => true
  | .joinedOdd => true
  | _ => false

/-- What a character adds as part of a sequence with what follows, if it is one. -/
def sequenceStep? (following : Following) (c : Char) : Option (Int × Following) :=
  if following.isJoinable && c.toNat == 0x200D then some (0, .joiner)
  else
    match following with
    | .alef =>
      if lamRanges.has c then some (0, .plain)
      else if transparentRanges.has c then some (0, .alef)
      else none
    | .ligature letter joined =>
      if c.toNat = 0x200D then some (0, .ligature letter true)
      else if ignorableRanges.has c then some (0, .ligature letter joined)
      else ligatureStep? letter joined c
    | .skinTone => if tonedRanges.has c then some (0, .emoji) else none
    | .indicator => if isIndicator c then some (1, .indicators) else none
    | .indicators => if isIndicator c then some (1, .indicators) else none
    | .joiner => joinerStep? c
    | .joinedIndicator => if isIndicator c then some (-1, .joinedEven) else none
    | .joinedEven => if isIndicator c then some (3, .joinedOdd) else none
    | .joinedOdd => if isIndicator c then some (-1, .joinedEven) else none
    | .tagged letters digits => tagStep? letters digits c
    | following => kiratStep? following c

def Context.select (context : Context) (selector : Selector) : Context where
  selector := some selector
  wideQuote := context.wideQuote && context.following.outlastsSelector
  following :=
    if selector = .picture ∧ context.following.isJoinedPicture then context.following
    else context.following.behindSelector

/-- What a character adds when no selector for pictures applies to it. -/
def unselectedStep (context : Context) (c : Char) : Int × Context :=
  let following := context.following
  if c.toNat ≤ 0xA0 then
    if c = '\r' ∧ following = .lineFeed then (0, {}) else (1, { following := .ofChar c })
  else if c.toNat = 0xFE0F then (0, context.select .picture)
  else if c.toNat = 0xFE0E then (0, context.select .text)
  else if context.selector = some .text ∧ textStyledRanges.has c then (1, {})
  else if c.toNat = 0xFE01 then
    (0, { wideQuote := true, following := following.behindSelector })
  else if context.wideQuote ∧ isQuotationMark c then (2, {})
  else
    match sequenceStep? following c with
    | some (added, next) => (added, { following := next })
    | none => (ownWidth c, { following := .ofChar c })

/-- What a character adds in a context, and the context for the character in front of
it. -/
def step (context : Context) (c : Char) : Int × Context :=
  if context.selector = some .picture then
    if styledRanges.has c then
      (if context.following.isJoinedPicture then 0 else 2, { following := .emoji })
    else
      unselectedStep
        { context with selector := none, following := context.following.behindSelector } c
  else unselectedStep context c

/-- The columns of a text's end, and the context for the character in front of it. -/
def measure (text : List Char) : Int × Context :=
  text.foldr
    (fun c total =>
      let (added, context) := step total.2 c
      (total.1 + added, context))
    (0, {})

end AttributePins.Text.Width

namespace AttributePins.Text

/-- The columns of a text. -/
def width (text : String) : Nat := (Width.measure text.toList).1.toNat

end AttributePins.Text
