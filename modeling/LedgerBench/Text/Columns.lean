import LedgerBench.Text.Emoji
import LedgerBench.Text.Joining

/-! How many columns a text takes on a terminal. Wide characters take two, marks none, and all others
one. Some characters change with what stands to the right of them: pictures that are joined into one,
letters that form a ligature, and characters with a variation selector. So a text is measured from
its end. -/

namespace LedgerBench.Text

/-! ### Characters by themselves -/

/-- Characters with the property `East_Asian_Width` wide or fullwidth that take room. -/
def wideCharacters : Ranges := .ofText
    "1100-115F 231A-231B 2329-232A 23E9-23EC 23F0 23F3 25FD-25FE 2614-2615 2630-2637 2648-2653
     267F 268A-268F 2693 26A1 26AA-26AB 26BD-26BE 26C4-26C5 26CE 26D4 26EA 26F2-26F3 26F5 26FA
     26FD 2705 270A-270B 2728 274C 274E 2753-2755 2757 2795-2797 27B0 27BF 2B1B-2B1C 2B50 2B55
     2E80-2E99 2E9B-2EF3 2F00-2FD5 2FF0-3029 3030-303E 3041-3096 309B-30FF 3105-312F 3131-3163
     3165-318E 3190-31E5 31EF-321E 3220-3247 3250-A48C A490-A4C6 A960-A97C AC00-D7A3 F900-FAFF
     FE10-FE19 FE30-FE52 FE54-FE66 FE68-FE6B FF01-FF60 FFE0-FFE6 16FE0-16FE3 16FF2-16FF6
     17000-18CD5 18CFF-18D1E 18D80-18DF2 1AFF0-1AFF3 1AFF5-1AFFB 1AFFD-1AFFE 1B000-1B122 1B132
     1B150-1B152 1B155 1B164-1B167 1B170-1B2FB 1D300-1D356 1D360-1D376 1F004 1F0CF 1F18E
     1F191-1F19A 1F200-1F202 1F210-1F23B 1F240-1F248 1F250-1F251 1F260-1F265 1F300-1F320
     1F32D-1F335 1F337-1F37C 1F37E-1F393 1F3A0-1F3CA 1F3CF-1F3D3 1F3E0-1F3F0 1F3F4 1F3F8-1F43E
     1F440 1F442-1F4FC 1F4FF-1F53D 1F54B-1F54E 1F550-1F567 1F57A 1F595-1F596 1F5A4 1F5FB-1F64F
     1F680-1F6C5 1F6CC 1F6D0-1F6D2 1F6D5-1F6D8 1F6DC-1F6DF 1F6EB-1F6EC 1F6F4-1F6FC 1F7E0-1F7EB
     1F7F0 1F90C-1F93A 1F93C-1F945 1F947-1F9FF 1FA70-1FA7C 1FA80-1FA8A 1FA8E-1FAC6 1FAC8
     1FACD-1FADC 1FADF-1FAEA 1FAEF-1FAF8 20000-2FFFD 30000-3FFFD"

def isWide (c : Char) : Bool :=
  wideCharacters.contains c

/-- Hangul vowels and final consonants, which share the room of the consonant before them. -/
def jamoRest : Ranges := .ofText "1160-11FF D7B0-D7C6 D7CB-D7FB"

def spanningSigns : Ranges := .ofText
    "605 70F 890-891 8E2 D4E A8FA 111C2-111C3 113D1 1193F 11941 11A3A 11A84-11A89 11D46 11F02"

/-- Whether a character takes no column. Two that are usually invisible are shown after all. -/
def isEmptyCharacter (c : Char) : Bool :=
  (isIgnorable c || extendsGrapheme c || jamoRest.contains c || spanningSigns.contains c) &&
    c.toNat != 0x115F && c.toNat != 0x2D7F

def charColumns (c : Char) : Nat :=
  if isEmptyCharacter c then 0
  else if c.toNat = 0x17D8 then 3
  else if isWide c || c.toNat = 0x17A4 then 2
  else 1

/-! ### What stands to the right -/

inductive Style where
  | picture
  | text
  | wide
  deriving Repr, DecidableEq

inductive LigatureEnd where
  | alef
  | lamed
  | bugineseYa
  | bugineseVowelYa
  | tifinagh
  | tifinaghJoiner
  | lisuTone
  | orkhonI
  | khmerLetter
  deriving Repr, DecidableEq

inductive Joint where
  | bare
  | styled
  | keycap (styled : Bool)
  | oneIndicator
  | evenIndicators
  | oddIndicators
  | tagEnd
  | tagDigits (count : Nat)
  | tagLetters (count : Nat)
  deriving Repr, DecidableEq

/-- What stands to the right of a character, as far as it can change the columns. -/
inductive Neighbour where
  | plain
  | selector (style : Style)
  | picture
  | skinTone
  | indicators (several : Bool)
  | joined (joint : Joint)
  | ligature (letter : LigatureEnd) (joined : Bool) (style : Option Style)
  | kiratVowelE
  | kiratVowelAi
  deriving Repr, DecidableEq

namespace Neighbour

def asksFor (style : Style) : Neighbour → Bool
  | selector s => s = style
  | ligature _ _ (some s) => s = style
  | joined .styled | joined (.keycap true) => style = .picture
  | _ => false

def withoutStyle : Neighbour → Neighbour
  | selector _ | joined .styled | joined (.keycap true) => plain
  | ligature letter isJoined _ => ligature letter isJoined none
  | right => right

def withStyle (style : Style) : Neighbour → Neighbour
  | ligature letter isJoined _ => ligature letter isJoined (some style)
  | joined .bare => if style = .picture then joined .styled else selector style
  | joined (.keycap false) => if style = .picture then joined (.keycap true) else selector style
  | _ => selector style

end Neighbour

def isBetween (low high : Nat) (c : Char) : Bool :=
  low ≤ c.toNat && c.toNat ≤ high

def isIndicator (c : Char) : Bool :=
  isBetween 0x1F1E6 0x1F1FF c

def isSkinTone (c : Char) : Bool :=
  isBetween 0x1F3FB 0x1F3FF c

def isTifinaghConsonant (c : Char) : Bool :=
  isBetween 0x2D31 0x2D65 c || c.toNat == 0x2D6F

def alefs : Ranges := .ofText "622-623 625 627 671-673 675 773-774 870-882"
def lams : Ranges := .ofText "644 6B5-6B8 76A 8A6 8C7"
def khmerLetters : Ranges := .ofText
    "1780-1782 1784-1787 1789-178C 178E-1793 1795-1798 179B-179D 17A0 17A2 17A7 17AB-17AC 17AF"

def ligatureMarks : Ranges := .ofText "34F 17B4-17B5 180B-180D 180F FE00-FE0F E0100-E01EF"

def neighbourOf (c : Char) : Neighbour :=
  let ligature (letter : LigatureEnd) : Neighbour := .ligature letter false none
  if isSkinTone c then .skinTone
  else if isIndicator c then .indicators false
  else if emojiPictures.contains c then .picture
  else if alefs.contains c then ligature .alef
  else if khmerLetters.contains c then ligature .khmerLetter
  else if isTifinaghConsonant c then ligature .tifinagh
  else
    match c.toNat with
    | 0x5DC => ligature .lamed
    | 0x1A10 => ligature .bugineseYa
    | 0xA4FC | 0xA4FD => ligature .lisuTone
    | 0x10C03 => ligature .orkhonI
    | 0x16D67 => .kiratVowelE
    | 0x16D68 => .kiratVowelAi
    | _ => .plain

/-! ### Measuring -/

/-- The columns that a character adds on the left of the given neighbour, and what it then is
itself. -/
def alone (c : Char) : Int × Neighbour :=
  (charColumns c, neighbourOf c)

def beforeLigature (c : Char) (letter : LigatureEnd) (joined : Bool) : Int × Neighbour :=
  let right : Neighbour := .ligature letter joined none
  if letter ≠ .alef ∧ c.toNat = 0x200D then (0, .ligature letter true none)
  else if letter ≠ .alef ∧ ligatureMarks.contains c then (0, right)
  else
    match letter, joined, c.toNat with
    | .lamed, true, 0x5D0 => (0, .plain)
    | .khmerLetter, _, 0x17D2 => (-1, .plain)
    | .bugineseYa, true, 0x1A17 => (0, .ligature .bugineseVowelYa false none)
    | .bugineseVowelYa, _, 0x1A15 => (0, .plain)
    | .tifinagh, _, 0x2D7F => (1, .ligature .tifinaghJoiner false none)
    | .orkhonI, true, 0x10C32 => (0, .plain)
    | .alef, _, _ =>
      if lams.contains c then (0, .plain)
      else if isJoiningTransparent c && isEmptyCharacter c then (0, right)
      else alone c
    | .tifinagh, true, _ => if isTifinaghConsonant c then (0, .plain) else alone c
    | .tifinaghJoiner, _, _ => if isTifinaghConsonant c then (-1, .plain) else alone c
    | .lisuTone, _, _ => if isBetween 0xA4F8 0xA4FB c then (0, .plain) else alone c
    | _, _, _ => alone c

def beforeJoint (c : Char) (joint : Joint) : Int × Neighbour :=
  let isDigit := isBetween 0xE0030 0xE0039 c
  let isLetter := isBetween 0xE0061 0xE007A c
  let isFlag := c.toNat == 0x1F3F4
  match joint with
  | .bare =>
    if c.toNat = 0x20E3 then (0, .joined (.keycap false))
    else if isIndicator c then (1, .joined .oneIndicator)
    else if isSkinTone c then (0, .skinTone)
    else if c.toNat = 0xE007F then (0, .joined .tagEnd)
    else if emojiPictures.contains c then (0, .picture)
    else alone c
  | .oneIndicator => if isIndicator c then (-1, .joined .evenIndicators) else alone c
  | .oddIndicators =>
    if isIndicator c then (-1, .joined .evenIndicators)
    else if c.toNat = 0x200D then (0, .joined .bare)
    else alone c
  | .evenIndicators =>
    if isIndicator c then (3, .joined .oddIndicators)
    else if c.toNat = 0x200D then (0, .joined .bare)
    else alone c
  | .tagEnd =>
    if isLetter then (0, .joined (.tagLetters 1))
    else if isDigit then (0, .joined (.tagDigits 1))
    else alone c
  | .tagLetters n =>
    if isLetter && n < 6 then (0, .joined (.tagLetters (n + 1)))
    else if isDigit && n < 5 then (0, .joined (.tagDigits 1))
    else if isFlag && 3 ≤ n then (0, .picture)
    else alone c
  | .tagDigits n =>
    if isDigit && n < 3 then (0, .joined (.tagDigits (n + 1)))
    else if isFlag && n == 3 then (0, .picture)
    else alone c
  | .styled | .keycap _ => alone c

def beforeUnstyled (c : Char) : Neighbour → Int × Neighbour
  | .ligature letter joined _ => beforeLigature c letter joined
  | .joined joint => beforeJoint c joint
  | .picture => if c.toNat = 0x200D then (0, .joined .bare) else alone c
  | .skinTone =>
    if modifierBases.contains c then (0, .picture)
    else if c.toNat = 0x200D then (0, .joined .bare)
    else alone c
  | .indicators several =>
    if isIndicator c then (1, .indicators true)
    else if several && c.toNat = 0x200D then (0, .joined .bare)
    else alone c
  | .kiratVowelE =>
    match c.toNat with
    | 0x16D63 | 0x16D69 => (0, .plain)
    | 0x16D67 => (0, .kiratVowelAi)
    | 0x16D68 => (1, .kiratVowelE)
    | _ => alone c
  | .kiratVowelAi => if c.toNat = 0x16D63 then (0, .plain) else alone c
  | .plain | .selector _ => alone c

def measure (c : Char) (right : Neighbour) : Int × Neighbour :=
  if right.asksFor .picture && emojiStyled.contains c then
    (if right matches .joined _ then 0 else 2, .picture)
  else if c.toNat ≤ 0xA0 then (1, .plain)
  else
    let right := if right.asksFor .picture then right.withoutStyle else right
    match c.toNat with
    | 0xFE0F => (0, right.withStyle .picture)
    | 0xFE0E => (0, right.withStyle .text)
    | 0xFE01 => (0, right.withStyle .wide)
    | n =>
      if right.asksFor .text && textStyled.contains c then (1, .plain)
      else if right.asksFor .wide && [0x2018, 0x2019, 0x201C, 0x201D].contains n then (2, .plain)
      else
        beforeUnstyled c
          (if right.asksFor .text || right.asksFor .wide then right.withoutStyle else right)

def measureAll (s : List Char) (measured : Int × Neighbour) : Int × Neighbour :=
  s.foldr (fun c (n, right) =>
    let (m, left) := measure c right
    (m + n, left)) measured

def columns (s : List Char) : Int :=
  (measureAll s (0, .plain)).1

theorem measureAll_append (s t : List Char) (measured : Int × Neighbour) :
    measureAll (s ++ t) measured = measureAll s (measureAll t measured) := by
  simp [measureAll]

theorem measureAll_fst (s : List Char) (n : Int) (right : Neighbour) :
    measureAll s (n, right) =
      ((measureAll s (0, right)).1 + n, (measureAll s (0, right)).2) := by
  induction s with
  | nil => simp [measureAll]
  | cons c rest ih =>
    simp only [measureAll, List.foldr_cons] at ih ⊢
    rw [ih]
    simp [Int.add_assoc]

theorem measure_space : measure ' ' .plain = (1, .plain) := by
  simp [measure, Neighbour.asksFor]

theorem measureAll_replicate_space (n : Nat) :
    measureAll (List.replicate n ' ') (0, .plain) = ((n : Int), .plain) := by
  induction n with
  | zero => rfl
  | succ n ih =>
    simp only [measureAll, List.replicate_succ, List.foldr_cons] at ih ⊢
    rw [ih]
    simp [measure_space, Int.add_comm]

theorem columns_append_spaces (s : List Char) (n : Nat) :
    columns (s ++ List.replicate n ' ') = columns s + n := by
  rw [columns, measureAll_append, measureAll_replicate_space, measureAll_fst]
  rfl

end LedgerBench.Text
