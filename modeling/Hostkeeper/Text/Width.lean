import Hostkeeper.Text.Cells

/-! The number of terminal cells that a line takes. A line is read from its end, because a character may merge with
those after it: selectors choose between text and emoji, joiners make one emoji of several, and some letters
make one sign with the next. -/
namespace Hostkeeper.Text

inductive Joint where
  | alef
  | lamed
  | ya
  | vowelledYa
  | tifinagh
  | joinedTifinagh
  | lisuTone
  | orkhonI
  | khmer
  | kiratE
  | kiratAi
  deriving DecidableEq, Repr

/-- What begins the rest of a line, as far as the characters before it can tell. -/
inductive Following where
  | other
  | skinTone
  | flag (several : Bool)
  | emoji
  | joiner (keycap : Bool)
  | joinedFlag
  | joinedFlags (even : Bool)
  | tags (letters digits : Nat)
  | joint (letter : Joint) (joined : Bool)
  deriving DecidableEq, Repr

inductive Selector where
  | none
  | asEmoji
  | asText
  | asWide
  deriving DecidableEq, Repr

structure Ahead where
  following : Following := .other
  selector : Selector := .none
  deriving DecidableEq, Repr

namespace Ahead

/-- With a selector in front. Only letters that merge, and joiners if it is the emoji's, are seen behind it. -/
def select (a : Ahead) (selector : Selector) : Ahead :=
  match a.following, selector with
  | .joint .., _ | .joiner _, .asEmoji => ⟨a.following,selector⟩
  | _, _ => ⟨.other,selector⟩

def unselect (a : Ahead) : Ahead :=
  match a.selector, a.following with
  | .none, _ => a
  | _, .joint .. => ⟨a.following,.none⟩
  | _, _ => {}

end Ahead

private def isTifinagh (c : Char) : Bool := ('\u2D31' ≤ c && c ≤ '\u2D65') || c = '\u2D6F'

private def isAlef (c : Char) : Bool :=
  ['\u0622','\u0623','\u0625','\u0627','\u0671','\u0672','\u0673','\u0675','\u0773','\u0774'].contains c
    || ('\u0870' ≤ c && c ≤ '\u0882')

private def isLam (c : Char) : Bool :=
  ['\u0644','\u076A','\u08A6','\u08C7'].contains c || ('\u06B5' ≤ c && c ≤ '\u06B8')

private def isKhmer (c : Char) : Bool :=
  Cells.within [(0x1780,0x1782),(0x1784,0x1787),(0x1789,0x178C),(0x178E,0x1793),(0x1795,0x1798),
    (0x179B,0x179D),(0x17A0,0x17A2),(0x17A7,0x17A7),(0x17AB,0x17AC),(0x17AF,0x17AF)] c

private def isFlagLetter (c : Char) : Bool := 0x1F1E6 ≤ c.toNat && c.toNat ≤ 0x1F1FF

private def isSkinTone (c : Char) : Bool := 0x1F3FB ≤ c.toNat && c.toNat ≤ 0x1F3FF

private def isTagLetter (c : Char) : Bool := 0xE0061 ≤ c.toNat && c.toNat ≤ 0xE007A

private def isTagDigit (c : Char) : Bool := 0xE0030 ≤ c.toNat && c.toNat ≤ 0xE0039

private def isUnseen (c : Char) : Bool :=
  Cells.within [(0x34F,0x34F),(0x17B4,0x17B5),(0x180B,0x180D),(0x180F,0x180F),(0x200D,0x200D),
    (0xFE00,0xFE0F),(0xE0100,0xE01EF)] c

/-- The cells of a character that nothing after it changes, and what it is to the characters before it. -/
def plainWidth (c : Char) : Int × Ahead :=
  if c = '\uFE0F' then (0,⟨.other,.asEmoji⟩)
  else if c = '\uFE0E' then (0,⟨.other,.asText⟩)
  else if c = '\uFE01' then (0,⟨.other,.asWide⟩)
  else if c = '\u17D8' then (3,{})
  else if c = '\u2D7F' then (1,{})
  else if isFlagLetter c then (1,⟨.flag false,.none⟩)
  else if isSkinTone c then (2,⟨.skinTone,.none⟩)
  else if Cells.within Cells.emoji c then (2,⟨.emoji,.none⟩)
  else if Cells.within Cells.zero c then (0,{})
  else if Cells.within Cells.wide c then (2,{})
  else
    let joint (letter : Joint) : Int × Ahead := (1,⟨.joint letter false,.none⟩)
    if isAlef c then joint .alef
    else if c = '\u05DC' then joint .lamed
    else if isKhmer c then joint .khmer
    else if c = '\u1A10' then joint .ya
    else if isTifinagh c then joint .tifinagh
    else if c = '\uA4FC' || c = '\uA4FD' then joint .lisuTone
    else if c.toNat = 0x10C03 then joint .orkhonI
    else if c.toNat = 0x16D67 then joint .kiratE
    else if c.toNat = 0x16D68 then joint .kiratAi
    else (1,{})

private def isPassedByAlef (c : Char) : Bool := (plainWidth c).1 = 0 && !Cells.within Cells.parting c

/-- The cells that a character adds before a letter it may merge with, or nothing if it stands for itself. -/
def mergeLetter (c : Char) (joined : Bool) : Joint → Option (Int × Ahead)
  | .alef =>
    if isLam c then some (0,{})
    else if isPassedByAlef c then some (0,⟨.joint .alef joined,.none⟩)
    else none
  | .lamed => if joined && c = '\u05D0' then some (0,{}) else none
  | .khmer => if c = '\u17D2' then some (-1,{}) else none
  | .ya => if joined && c = '\u1A17' then some (0,⟨.joint .vowelledYa true,.none⟩) else none
  | .vowelledYa => if c = '\u1A15' then some (0,{}) else none
  | .tifinagh =>
    if c = '\u2D7F' then some (1,⟨.joint .joinedTifinagh true,.none⟩)
    else if joined && isTifinagh c then some (0,{})
    else none
  | .joinedTifinagh => if isTifinagh c then some (-1,{}) else none
  | .lisuTone => if '\uA4F8' ≤ c && c ≤ '\uA4FB' then some (0,{}) else none
  | .orkhonI => if joined && c.toNat = 0x10C32 then some (0,{}) else none
  | .kiratE =>
    if c.toNat = 0x16D63 || c.toNat = 0x16D69 then some (0,{})
    else if c.toNat = 0x16D67 then some (0,⟨.joint .kiratAi true,.none⟩)
    else if c.toNat = 0x16D68 then some (1,⟨.joint .kiratE true,.none⟩)
    else none
  | .kiratAi => if c.toNat = 0x16D63 then some (0,{}) else none

def mergeWidth (c : Char) (following : Following) : Option (Int × Ahead) :=
  let ahead (f : Following) : Ahead := ⟨f,.none⟩
  match following with
  | .other => none
  | .joint letter joined =>
    if letter ≠ .alef && c = '\u200D' then some (0,ahead (.joint letter true))
    else if letter ≠ .alef && isUnseen c then some (0,ahead following)
    else mergeLetter c joined letter
  | .skinTone =>
    if Cells.within Cells.toned c then some (0,ahead .emoji)
    else if c = '\u200D' then some (0,ahead (.joiner false))
    else none
  | .flag several =>
    if isFlagLetter c then some (1,ahead (.flag true))
    else if several && c = '\u200D' then some (0,ahead (.joiner false))
    else none
  | .emoji => if c = '\u200D' then some (0,ahead (.joiner false)) else none
  | .joiner true => none
  | .joiner false =>
    if c = '\u20E3' then some (0,ahead (.joiner true))
    else if isFlagLetter c then some (1,ahead .joinedFlag)
    else if isSkinTone c then some (0,ahead .skinTone)
    else if c.toNat = 0xE007F then some (0,ahead (.tags 0 0))
    else if (plainWidth c).2 = ahead .emoji then some (0,ahead .emoji)
    else none
  | .joinedFlag => if isFlagLetter c then some (-1,ahead (.joinedFlags true)) else none
  | .joinedFlags even =>
    if isFlagLetter c then some (if even then 3 else -1,ahead (.joinedFlags (!even)))
    else if c = '\u200D' then some (0,ahead (.joiner false))
    else none
  | .tags letters digits =>
    if isTagLetter c && digits = 0 && letters < 6 then some (0,ahead (.tags (letters + 1) 0))
    else if isTagDigit c && digits = 0 && letters ≤ 4 then some (0,ahead (.tags letters 1))
    else if isTagDigit c && 0 < digits && digits < 3 then some (0,ahead (.tags letters (digits + 1)))
    else if c.toNat = 0x1F3F4 && (digits = 3 || (digits = 0 && 3 ≤ letters)) then some (0,ahead .emoji)
    else none

/-- The cells that a character adds to those after it, and what it is to the characters before it. -/
def widthBefore (c : Char) (a : Ahead) : Int × Ahead :=
  if a.selector = .asEmoji && Cells.within Cells.selectable c then
    (match a.following with | .joiner _ => 0 | _ => 2,⟨.emoji,.none⟩)
  else
    let a := if a.selector = .asEmoji then a.unselect else a
    if c ≤ '\u00A0' then (1,{})
    else if a = {} then plainWidth c
    else if c = '\uFE0F' then (0,a.select .asEmoji)
    else if c = '\uFE0E' then (0,a.select .asText)
    else if c = '\uFE01' then (0,a.select .asWide)
    else if a.selector = .asText && Cells.within Cells.selectable c && Cells.within Cells.emoji c
        && !(0x1F200 ≤ c.toNat && c.toNat < 0x1F300) then (1,{})
    else if a.selector = .asWide && ['\u2018','\u2019','\u201C','\u201D'].contains c then (2,{})
    else (mergeWidth c a.unselect.following).getD (plainWidth c)

def width (line : List Char) : Nat :=
  (line.foldr (fun c (rest : Int × Ahead) =>
    let here := widthBefore c rest.2
    (rest.1 + here.1,here.2)) (0,{})).1.toNat

end Hostkeeper.Text
