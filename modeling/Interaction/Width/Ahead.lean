import Interaction.Width.Table

/-! # Widths that depend on what follows

Some characters merge with their right neighbour: the letters of a ligature, the parts of an emoji,
a line break of two characters. A text is therefore measured from its end, and `Ahead` is all that a
character has to know of the text to its right. -/

namespace Interaction.Width

/-- Letters that merge with a letter to their left, once it is known to be there. -/
inductive Ligature where
  | lamed
  | ya
  | vowelAndYa
  | consonant
  | joinedConsonant
  | toneLetter
  | orkhonI
  | subscriptLetter
deriving DecidableEq, Repr

/-- What an emoji part after a joiner waits for. -/
inductive Chain where
  | any
  | keycap
  | regional
  | regionalsEven
  | regionalsOdd
  | tagLetters (n : Nat)
  | tagDigits (n : Nat)
deriving DecidableEq, Repr

/-- The sign to the right of a character. -/
inductive Sign where
  | plain
  | lineFeed
  | alef
  | ligature (letter : Ligature) (joined : Bool)
  | emoji
  | skinTone
  | regional
  | regionals
  | chain (part : Chain)
  | vowelE
  | vowelAI
deriving DecidableEq, Repr

/-- The style that a variation selector asks of the character before it. -/
inductive Style where
  | emoji
  | text
  | wideQuote
deriving DecidableEq, Repr

/-- The style that is asked for by a character, if it is a variation selector that bears on
widths. -/
def Style.ofSelector? (c : Char) : Option Style :=
  if c.toNat = 0xFE0F then some .emoji
  else if c.toNat = 0xFE0E then some .text
  else if c.toNat = 0xFE01 then some .wideQuote
  else none

/-- What stands to the right of a character: a sign, and the styles that selectors between the two
ask for. -/
structure Ahead where
  sign : Sign
  styles : List Style
deriving DecidableEq, Repr

namespace Sign

/-- The sign is a letter of a ligature, which holds on to its left neighbour over all selectors. -/
def isLigature : Sign → Bool
  | .alef | .ligature _ _ => true
  | _ => false

/-- The sign holds on to its left neighbour when a selector comes between. -/
def outlasts (s : Sign) (t : Style) : Bool :=
  s.isLigature || (t = .emoji && (s = .chain .any || s = .chain .keycap))

/-- The zero-width joiner, which ties two signs into one. -/
def joiner : Char := Char.ofNat 0x200D

/-- Columns added, and the new sign, when `c` merges with the letter to its right. -/
def mergeLetter (l : Ligature) (joined : Bool) (c : Char) : Option (Int × Sign) :=
  match l with
  | .lamed => if joined && c.toNat = 0x5D0 then some (0, .plain) else none
  | .ya => if joined && c.toNat = 0x1A17 then some (0, .ligature .vowelAndYa true) else none
  | .vowelAndYa => if c.toNat = 0x1A15 then some (0, .plain) else none
  | .consonant =>
    if c.toNat = 0x2D7F then some (1, .ligature .joinedConsonant true)
    else if joined && tifinaghIntervals.contains c then some (0, .plain)
    else none
  | .joinedConsonant => if tifinaghIntervals.contains c then some (-1, .plain) else none
  | .toneLetter => if 0xA4F8 ≤ c.toNat ∧ c.toNat ≤ 0xA4FB then some (0, .plain) else none
  | .orkhonI => if joined && c.toNat = 0x10C32 then some (0, .plain) else none
  | .subscriptLetter => if c.toNat = 0x17D2 then some (-1, .plain) else none

/-- A letter of a flag's tag. -/
def isTagLetter (c : Char) : Bool := 0xE0061 ≤ c.toNat && c.toNat ≤ 0xE007A

/-- A digit of a flag's tag. -/
def isTagDigit (c : Char) : Bool := 0xE0030 ≤ c.toNat && c.toNat ≤ 0xE0039

/-- The black flag, which a tag turns into a region's flag. -/
def blackFlag : Nat := 0x1F3F4

/-- Columns added, and the new sign, when `c` continues an emoji joined to its right. -/
def mergeChain (p : Chain) (c : Char) : Option (Int × Sign) :=
  match p with
  | .any =>
    if c.toNat = 0x20E3 then some (0, .chain .keycap)
    else if regionalIntervals.contains c then some (1, .chain .regional)
    else if skinToneIntervals.contains c then some (0, .skinTone)
    else if c.toNat = 0xE007F then some (0, .chain (.tagLetters 0))
    else if emojiIntervals.contains c then some (0, .emoji)
    else none
  | .keycap => none
  | .regional => if regionalIntervals.contains c then some (-1, .chain .regionalsEven) else none
  | .regionalsEven =>
    if regionalIntervals.contains c then some (3, .chain .regionalsOdd)
    else if c = joiner then some (0, .chain .any)
    else none
  | .regionalsOdd =>
    if regionalIntervals.contains c then some (-1, .chain .regionalsEven)
    else if c = joiner then some (0, .chain .any)
    else none
  | .tagLetters n =>
    if isTagLetter c && n < 6 then some (0, .chain (.tagLetters (n + 1)))
    else if isTagDigit c && n < 5 then some (0, .chain (.tagDigits 1))
    else if c.toNat = blackFlag && 3 ≤ n then some (0, .emoji)
    else none
  | .tagDigits n =>
    if isTagDigit c && n < 3 then some (0, .chain (.tagDigits (n + 1)))
    else if c.toNat = blackFlag && n = 3 then some (0, .emoji)
    else none

/-- Columns added, and the new sign, when `c` merges with the sign to its right. -/
def merge (s : Sign) (c : Char) : Option (Int × Sign) :=
  match s with
  | .plain | .lineFeed => none
  | .alef =>
    if lamIntervals.contains c then some (0, .plain)
    else if zeroWidthIntervals.contains c && !joinBreakingIntervals.contains c then some (0, .alef)
    else none
  | .ligature l joined =>
    if c = joiner then some (0, .ligature l true)
    else if ligatureMarkIntervals.contains c then some (0, .ligature l joined)
    else mergeLetter l joined c
  | .emoji => if c = joiner then some (0, .chain .any) else none
  | .skinTone =>
    if modifierBaseIntervals.contains c then some (0, .emoji)
    else if c = joiner then some (0, .chain .any)
    else none
  | .regional => if regionalIntervals.contains c then some (1, .regionals) else none
  | .regionals =>
    if regionalIntervals.contains c then some (1, .regionals)
    else if c = joiner then some (0, .chain .any)
    else none
  | .chain p => mergeChain p c
  | .vowelE =>
    if c.toNat = 0x16D63 ∨ c.toNat = 0x16D69 then some (0, .plain)
    else if c.toNat = 0x16D67 then some (0, .vowelAI)
    else if c.toNat = 0x16D68 then some (1, .vowelE)
    else none
  | .vowelAI => if c.toNat = 0x16D63 then some (0, .plain) else none

/-- Columns of `c` beyond ASCII when nothing to its right bears on it, and the sign it leaves. -/
def alone (c : Char) : Int × Sign :=
  let n := c.toNat
  if n = 0x5DC then (1, .ligature .lamed false)
  else if alefIntervals.contains c then (1, .alef)
  else if subscriptLetterIntervals.contains c then (1, .ligature .subscriptLetter true)
  else if n = 0x17D8 then (3, .plain)
  else if n = 0x1A10 then (1, .ligature .ya false)
  else if tifinaghIntervals.contains c then (1, .ligature .consonant false)
  else if n = 0xA4FC ∨ n = 0xA4FD then (1, .ligature .toneLetter true)
  else if n = 0x10C03 then (1, .ligature .orkhonI false)
  else if n = 0x16D67 then (1, .vowelE)
  else if n = 0x16D68 then (1, .vowelAI)
  else if regionalIntervals.contains c then (1, .regional)
  else if skinToneIntervals.contains c then (2, .skinTone)
  else if emojiIntervals.contains c then (2, .emoji)
  else if zeroWidthIntervals.contains c then (0, .plain)
  else if wideIntervals.contains c then (2, .plain)
  else (1, .plain)

end Sign

namespace Ahead

/-- The end of the text. -/
def nothing : Ahead := ⟨.plain, []⟩

/-- What the left neighbour of a selector has ahead of it. -/
def select (a : Ahead) (t : Style) : Ahead :=
  if a.sign.outlasts t then ⟨a.sign, a.styles.insert t⟩ else ⟨.plain, [t]⟩

/-- What is ahead of a character that cannot be an emoji. -/
def withoutEmoji (a : Ahead) : Ahead :=
  if .emoji ∉ a.styles then a
  else if a.sign.isLigature then ⟨a.sign, a.styles.filter (· ≠ .emoji)⟩
  else nothing

/-- Columns of a character up to U+00A0. A carriage return in front of a line feed has none. -/
def basic (s : Sign) (c : Char) : Int × Ahead :=
  if c = '\n' then (1, ⟨.lineFeed, []⟩)
  else if c = '\r' && s = .lineFeed then (0, nothing)
  else (1, nothing)

/-- Columns added by `c`, and what the next character to the left has ahead of it. -/
def step (a : Ahead) (c : Char) : Int × Ahead :=
  if .emoji ∈ a.styles && emojiStyleIntervals.contains c then
    let joined := a.sign = .chain .any || a.sign = .chain .keycap
    (if joined then 0 else 2, ⟨.emoji, []⟩)
  else
    let a := a.withoutEmoji
    if c.toNat ≤ 0xA0 then basic a.sign c
    else match Style.ofSelector? c with
      | some t => (0, a.select t)
      | none =>
        if .text ∈ a.styles && textStyleIntervals.contains c then (1, nothing)
        else if .wideQuote ∈ a.styles && curlyQuoteIntervals.contains c then (2, nothing)
        else
          let r := (a.sign.merge c).getD (Sign.alone c)
          (r.1, ⟨r.2, []⟩)

end Ahead
end Interaction.Width
