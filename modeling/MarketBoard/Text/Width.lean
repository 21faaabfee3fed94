import MarketBoard.Text.Width.Property

/-!
The cells that a text takes. Characters are not measured one by one: a selector makes an emoji of the
character before it, joiners tie emoji together, and some letters melt into one. So a text is read
from its end, and each character is measured before what follows it.

* `charWidth`: the cells of a character on its own.
* `Sequence`: what a character begins together with those behind it.
* `Sequence.join?`: a character that goes into the sequence behind it.
* `Sequel.before`: the cells that one more character adds in front of what follows it.
* `textWidth`: the cells of a text; of printable ASCII one for each character (`textWidth_of_ascii`).
-/

namespace MarketBoard

/-! ### Characters on their own -/

/-- The joiner, which ties the characters on both of its sides together. -/
def zeroWidthJoiner : Nat := 0x200D

/-- A letter that stands for half a flag. -/
def isRegionalIndicator (n : Nat) : Bool := 0x1F1E6 ≤ n && n ≤ 0x1F1FF

/-- A modifier of the tone of the skin. -/
def isEmojiModifier (n : Nat) : Bool := 0x1F3FB ≤ n && n ≤ 0x1F3FF

/-- A Tifinagh letter that a joiner ties to another one. -/
def isTifinaghConsonant (n : Nat) : Bool := 0x2D31 ≤ n && n ≤ 0x2D65 || n = 0x2D6F

/-- The cells that a character takes on its own. A line feed takes none, other controls are shown in
one cell. -/
def charWidth (c : Char) : Nat :=
  let n := c.toNat
  if n = 0x0A then 0
  else if n ≤ 0xA0 then 1
  else if n = 0x17D8 then 3
  else if Unicode.widthless.holds n then 0
  else if Unicode.wide.holds n then 2
  else 1

/-- Printable ASCII takes one cell each. -/
theorem charWidth_of_ascii {c : Char} (low : 0x20 ≤ c.toNat) (high : c.toNat < 0x7F) :
    charWidth c = 1 := by
  have h₁ : c.toNat ≠ 0x0A := by omega
  have h₂ : c.toNat ≤ 0xA0 := by omega
  simp [charWidth, h₁, h₂]

/-- No character takes more than three cells. -/
theorem charWidth_le_three (c : Char) : charWidth c ≤ 3 := by
  unfold charWidth
  dsimp only
  repeat' split
  all_goals decide

/-! ### Sequences -/

/-- What a character begins together with those behind it. -/
inductive Sequence where
  /-- Nothing that would matter to the character before it. -/
  | plain
  | lineFeed
  /-- Something that is shown as an emoji. -/
  | emoji
  /-- A modifier of the tone of the skin. -/
  | modifier
  /-- One regional indicator. -/
  | regional
  /-- Several regional indicators. -/
  | regionals
  /-- A joiner and an emoji. -/
  | joined
  /-- A keycap sign, a joiner and an emoji. -/
  | joinedKeycap
  /-- One regional indicator, a joiner and an emoji. -/
  | joinedRegional
  /-- Several regional indicators, an odd number of them or not, a joiner and an emoji. -/
  | joinedRegionals (odd : Bool)
  /-- The tags of a region, letters at their end and digits before them, a joiner and an emoji. -/
  | tags (letters digits : Nat)
  /-- An Arabic alef. -/
  | alef
  /-- A Hebrew lamed, with a joiner before it or not. -/
  | lamed (joiner : Bool)
  /-- A Buginese ya, with a joiner before it or not. -/
  | ya (joiner : Bool)
  /-- A Buginese vowel sign, a joiner and a ya. -/
  | vowelYa
  /-- A Tifinagh consonant, with a joiner before it or not. -/
  | consonant (joiner : Bool)
  /-- A Tifinagh consonant and the sign that ties it to another. -/
  | tiedConsonant
  /-- The second of two Lisu tone letters. -/
  | tone
  /-- An Old Turkic letter that another one takes in. -/
  | orkhon
  /-- A Khmer letter that has a form below the line. -/
  | subscript
deriving DecidableEq, Repr, Inhabited

namespace Sequence

/-- The sequence that a character begins on its own. -/
def ofChar (c : Char) : Sequence :=
  let n := c.toNat
  if n = 0x0A then lineFeed
  else if n ≤ 0xA0 then plain
  else if isRegionalIndicator n then regional
  else if isEmojiModifier n then modifier
  else if Unicode.emoji.holds n then emoji
  else if Unicode.alefs.holds n then alef
  else if n = 0x05DC then lamed false
  else if n = 0x1A10 then ya false
  else if isTifinaghConsonant n then consonant false
  else if 0xA4FC ≤ n && n ≤ 0xA4FD then tone
  else if n = 0x10C03 then orkhon
  else if Unicode.subscriptLetters.holds n then subscript
  else plain

/-- Letters that may melt together with the one before them. -/
def isLigature : Sequence → Bool
  | alef | lamed _ | ya _ | vowelYa | consonant _ | tiedConsonant | tone | orkhon | subscript => true
  | _ => false

/-- An emoji or a keycap sign with a joiner before the emoji behind it. -/
def isJoined : Sequence → Bool
  | joined | joinedKeycap => true
  | _ => false

/-- The sequence with a joiner before it, which only some letters take notice of. -/
def afterJoiner : Sequence → Sequence
  | lamed _ => lamed true
  | ya _ => ya true
  | consonant _ => consonant true
  | s => s

/-- A character that never parts two letters that melt together. -/
def isIgnorable (n : Nat) : Bool :=
  n = 0x34F || 0x17B4 ≤ n && n ≤ 0x17B5 || 0x180B ≤ n && n ≤ 0x180D || n = 0x180F ||
    0xFE00 ≤ n && n ≤ 0xFE0F || 0xE0100 ≤ n && n ≤ 0xE01EF

/-- A mark that does not part an alef from the letter before it. -/
def isTransparent (n : Nat) : Bool := Unicode.widthless.holds n && !Unicode.parting.holds n

/-- A character that goes into the sequence of tags behind it: at most six letters, three digits, and
the black flag that waves for them. -/
def joinTags? (letters digits n : Nat) : Option (Int × Sequence) :=
  if 0xE0061 ≤ n && n ≤ 0xE007A then
    if digits = 0 && letters ≤ 5 then some (0, tags (letters + 1) 0) else none
  else if 0xE0030 ≤ n && n ≤ 0xE0039 then
    if digits = 0 && letters ≤ 4 || digits = 1 || digits = 2 then some (0, tags letters (digits + 1))
    else none
  else if n = 0x1F3F4 then
    if digits = 0 && 3 ≤ letters || digits = 3 then some (0, emoji) else none
  else none

/-- A character that goes into the sequence behind it: the cells that it adds, and what it begins.
A letter that takes another one in gives back the cells that were counted for both. -/
def join? (s : Sequence) (c : Char) : Option (Int × Sequence) :=
  let n := c.toNat
  match s with
  | lineFeed => if n = 0x0D then some (0, plain) else none
  | emoji => if n = zeroWidthJoiner then some (0, joined) else none
  | modifier =>
    if Unicode.modifierBases.holds n then some (0, emoji)
    else if n = zeroWidthJoiner then some (0, joined)
    else none
  | regional => if isRegionalIndicator n then some (1, regionals) else none
  | regionals =>
    if isRegionalIndicator n then some (1, regionals)
    else if n = zeroWidthJoiner then some (0, joined)
    else none
  | joined =>
    if n = 0x20E3 then some (0, joinedKeycap)
    else if isRegionalIndicator n then some (1, joinedRegional)
    else if isEmojiModifier n then some (0, modifier)
    else if n = 0xE007F then some (0, tags 0 0)
    else if Unicode.emoji.holds n then some (0, emoji)
    else none
  | joinedRegional => if isRegionalIndicator n then some (-1, joinedRegionals false) else none
  | joinedRegionals odd =>
    if isRegionalIndicator n then some (if odd then -1 else 3, joinedRegionals !odd)
    else if n = zeroWidthJoiner then some (0, joined)
    else none
  | tags letters digits => joinTags? letters digits n
  | alef =>
    if Unicode.lams.holds n then some (0, plain)
    else if isTransparent n then some (0, alef)
    else none
  | lamed joiner => if joiner && n = 0x05D0 then some (0, plain) else none
  | ya joiner => if joiner && n = 0x1A17 then some (0, vowelYa) else none
  | vowelYa => if n = 0x1A15 then some (0, plain) else none
  | consonant joiner =>
    if n = 0x2D7F then some (1, tiedConsonant)
    else if joiner && isTifinaghConsonant n then some (0, plain)
    else none
  | tiedConsonant => if isTifinaghConsonant n then some (-1, plain) else none
  | tone => if 0xA4F8 ≤ n && n ≤ 0xA4FB then some (0, plain) else none
  | orkhon => if n = 0x10C32 then some (0, plain) else none
  | subscript => if n = 0x17D2 then some (-1, plain) else none
  | _ => none

/-- The cells that a character adds in front of a sequence, and the sequence that it begins. -/
def before (s : Sequence) (c : Char) : Int × Sequence :=
  let n := c.toNat
  if s.isLigature && s ≠ alef && n = zeroWidthJoiner then (0, s.afterJoiner)
  else if s.isLigature && s ≠ alef && isIgnorable n then (0, s)
  else (s.join? c).getD (charWidth c, ofChar c)

end Sequence

/-! ### Selectors -/

/-- What follows a character: a sequence, and the selectors before it. -/
structure Sequel where
  sequence : Sequence := .plain
  /-- The emoji selector stands before the sequence. -/
  emojiSelector : Bool := false
  /-- The text selector stands before the sequence. -/
  textSelector : Bool := false
deriving DecidableEq, Repr, Inhabited

namespace Sequel

/-- An emoji selector put in front. Letters that melt together and joined emoji stay behind it. -/
def selectEmoji (q : Sequel) : Sequel :=
  if q.sequence.isLigature || q.sequence.isJoined then { q with emojiSelector := true }
  else { emojiSelector := true }

/-- A text selector put in front. Only letters that melt together stay behind it. -/
def selectText (q : Sequel) : Sequel :=
  if q.sequence.isLigature then { q with textSelector := true } else { textSelector := true }

/-- What follows when an emoji selector had nothing to select. -/
def withoutEmoji (q : Sequel) : Sequel :=
  if !q.emojiSelector then q
  else if q.sequence.isLigature then { q with emojiSelector := false }
  else {}

/-- The sequence that follows when a text selector had nothing to select. -/
def withoutText (q : Sequel) : Sequence :=
  if !q.textSelector || q.sequence.isLigature then q.sequence else .plain

/-- The text selector applies to a character that is an emoji without it; signs in squares are
ideographs and stay as wide as they are. -/
def takesText (n : Nat) : Bool :=
  Unicode.emojiBases.holds n && Unicode.emoji.holds n && !(0x1F200 ≤ n && n ≤ 0x1F2FF)

/-- The cells that a character adds in front of what follows it, no emoji selector being there, and
what then follows the next one. -/
def beforeText (q : Sequel) (c : Char) : Int × Sequel :=
  let n := c.toNat
  if n = 0xFE0F then (0, q.selectEmoji)
  else if n = 0xFE0E then (0, q.selectText)
  else if q.textSelector && takesText n then (1, {})
  else
    let (width, s) := q.withoutText.before c
    (width, { sequence := s })

/-- The cells that a character adds in front of what follows it, and what then follows the next
one. -/
def before (q : Sequel) (c : Char) : Int × Sequel :=
  if q.emojiSelector && Unicode.emojiBases.holds c.toNat then
    (if q.sequence.isJoined then 0 else 2, { sequence := .emoji })
  else q.withoutEmoji.beforeText c

end Sequel

/-! ### Texts -/

/-- The cells of a text, and what its first character begins. -/
def measure (text : List Char) : Int × Sequel :=
  text.foldr (fun c measured =>
    let (width, q) := measured.2.before c
    (measured.1 + width, q)) (0, {})

/-- The cells that a text takes. -/
def textWidth (text : List Char) : Nat := (measure text).1.toNat

/-- Nothing takes no cells. -/
@[simp] theorem textWidth_nil : textWidth [] = 0 := rfl

/-- Printable ASCII before what has no part in a sequence. -/
theorem Sequel.before_of_ascii {c : Char} (low : 0x20 ≤ c.toNat) (high : c.toNat < 0x7F) :
    ({} : Sequel).before c = (1, {}) := by
  have h₁ : c.toNat ≠ 0xFE0F := by omega
  have h₂ : c.toNat ≠ 0xFE0E := by omega
  have h₃ : c.toNat ≠ 0x0A := by omega
  have h₄ : c.toNat ≤ 0xA0 := by omega
  simp [Sequel.before, withoutEmoji, beforeText, withoutText, Sequence.before, Sequence.isLigature,
    Sequence.join?, Sequence.ofChar, charWidth_of_ascii low high, h₁, h₂, h₃, h₄]

/-- Printable ASCII takes a cell for each character. -/
theorem textWidth_of_ascii {text : List Char}
    (ascii : ∀ c ∈ text, 0x20 ≤ c.toNat ∧ c.toNat < 0x7F) : textWidth text = text.length := by
  have measured : measure text = ((text.length : Int), {}) := by
    induction text with
    | nil => rfl
    | cons c rest ih =>
      have here := ascii c List.mem_cons_self
      have ih := ih fun d mem => ascii d (List.mem_cons_of_mem c mem)
      unfold measure at ih ⊢
      rw [List.foldr_cons, ih]
      simp [Sequel.before_of_ascii here.1 here.2]
  simp [textWidth, measured]

end MarketBoard
