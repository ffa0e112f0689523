-- SUMMARY: Columns that a text takes on a terminal.
import Overseer.Text.Glyph

/-!
# Columns

The width of a text on a terminal. Most characters take the columns that they take alone. Some join
what follows them into one picture: emoji with selectors, skin tones and joiners, and the ligatures of
a few scripts. So a text is read from its end, and of what has been read only that is kept which a
character put before it could join.
-/

namespace Overseer.Columns

/-! ## The beginning of a text -/

/-- What a variation selector asks of the character before it: to be shown as text, as an emoji, or as
    wide as an ideograph. -/
inductive Form where
  | text
  | emoji
  | full
  deriving DecidableEq, Repr

/-- What a text begins with, as far as a character before it can join it. -/
inductive Opening where
  | plain
  | lineFeed
  | skinTone
  | emoji
  /-- So many regional indicators. -/
  | regional (count : Nat)
  /-- A joiner with an emoji behind it. -/
  | joined
  /-- A keycap before a joiner. -/
  | joinedKeycap
  /-- So many regional indicators before a joiner. -/
  | joinedRegional (count : Nat)
  /-- The end of a tagged flag before a joiner, with so many letters of the tag. -/
  | joinedLetters (count : Nat)
  /-- The same where the tag begins with so many digits. -/
  | joinedDigits (count : Nat)
  | alef
  /-- The Hebrew lamed, with or without a joiner before it; likewise for the letters below. -/
  | lamed (joiner : Bool)
  /-- The Buginese ya. -/
  | ya (joiner : Bool)
  /-- The Buginese vowel sign i before a ya that is joined to it. -/
  | vowelYa
  | tifinagh (joiner : Bool)
  /-- The consonant joiner of Tifinagh before a consonant. -/
  | joinedTifinagh
  /-- A tone letter of Lisu that can end a pair. -/
  | lastTone
  /-- The i of Old Turkic. -/
  | turkicI (joiner : Bool)
  /-- A Khmer letter that a sign before it makes a subscript. -/
  | subscript
  /-- The vowel sign e of Kirat Rai. -/
  | vowelE
  /-- The vowel sign ai of Kirat Rai, which is e twice. -/
  | vowelAi
  deriving DecidableEq, Repr

/-- The beginning of a text: a selector, if one stands first, and what stands behind it. -/
structure Start where
  opening : Opening
  form : Option Form := none
  deriving DecidableEq, Repr

namespace Opening

/-- Letters that can become part of a ligature; a selector does not hide them. -/
def isLigature : Opening → Bool
  | alef | lamed _ | ya _ | vowelYa | tifinagh _ | joinedTifinagh | lastTone | turkicI _
  | subscript => true
  | _ => false

/-- Letters that join also across a joiner and across marks that are ignored. -/
def joinsAcross (o : Opening) : Bool := o.isLigature && o != alef

/-- An emoji that awaits another before its joiner, which may need a selector to be one. -/
def awaitsEmoji : Opening → Bool
  | joined | joinedKeycap => true
  | _ => false

/-- The letter with a joiner before it. -/
def withJoiner : Opening → Opening
  | lamed _ => lamed true
  | ya _ => ya true
  | tifinagh _ => tifinagh true
  | turkicI _ => turkicI true
  | o => o

/-- How a character opens the text that it begins. -/
def ofChar (c : Char) : Opening :=
  if c = '\n' then lineFeed
  else if Glyph.isEmoji c then emoji
  else if Glyph.isSkinTone c then skinTone
  else if Glyph.isRegional c then regional 1
  else if Glyph.isAlef c then alef
  else if Glyph.isSubscriptable c then subscript
  else if Glyph.isTifinagh c then tifinagh false
  else if Glyph.isLastTone c then lastTone
  else
    match c.toNat with
    | 0x5DC => lamed false
    | 0x1A10 => ya false
    | 0x10C03 => turkicI false
    | 0x16D67 => vowelE
    | 0x16D68 => vowelAi
    | _ => plain

end Opening

/-! ## Joining -/

/-- The character that joins emoji, and letters that would not join of themselves. -/
def joiner : Char := '\u200D'

/-- What `c` becomes before a text that begins so, if the two join: the columns that it adds, and the
    beginning of the whole. -/
def join? (c : Char) : Opening → Option (Int × Opening)
  | .lineFeed => if c = '\r' then some (0, .plain) else none
  | .skinTone =>
    if Glyph.isTintable c then some (0, .emoji)
    else if c = joiner then some (0, .joined)
    else none
  | .emoji => if c = joiner then some (0, .joined) else none
  | .regional n =>
    if Glyph.isRegional c then some (1, .regional (n + 1))
    else if c = joiner && 2 ≤ n then some (0, .joined)
    else none
  | .joined =>
    if c = '\u20E3' then some (0, .joinedKeycap)
    else if Glyph.isRegional c then some (1, .joinedRegional 1)
    else if Glyph.isSkinTone c then some (0, .skinTone)
    else if c.toNat = 0xE007F then some (0, .joinedLetters 0)
    else if Glyph.isEmoji c then some (0, .emoji)
    else none
  | .joinedRegional n =>
    -- two indicators are one flag, which has the columns of the emoji that it is joined to
    if Glyph.isRegional c then some (if n % 2 = 1 then -1 else 3, .joinedRegional (n + 1))
    else if c = joiner && 2 ≤ n then some (0, .joined)
    else none
  | .joinedLetters n =>
    if Glyph.isTagLetter c && n < 6 then some (0, .joinedLetters (n + 1))
    else if Glyph.isTagDigit c && n ≤ 4 then some (0, .joinedDigits 1)
    else if c.toNat = 0x1F3F4 && 3 ≤ n then some (0, .emoji)
    else none
  | .joinedDigits n =>
    if Glyph.isTagDigit c && n < 3 then some (0, .joinedDigits (n + 1))
    else if c.toNat = 0x1F3F4 && n = 3 then some (0, .emoji)
    else none
  | .alef =>
    if Glyph.isLam c then some (0, .plain)
    else if Glyph.isTransparent c then some (0, .alef)
    else none
  | .lamed true => if c = '\u05D0' then some (0, .plain) else none
  | .ya true => if c = '\u1A17' then some (0, .vowelYa) else none
  | .vowelYa => if c = '\u1A15' then some (0, .plain) else none
  | .tifinagh isJoined =>
    if c = '\u2D7F' then some (1, .joinedTifinagh)
    else if isJoined && Glyph.isTifinagh c then some (0, .plain)
    else none
  | .joinedTifinagh => if Glyph.isTifinagh c then some (-1, .plain) else none
  | .lastTone => if Glyph.isFirstTone c then some (0, .plain) else none
  | .turkicI true => if c.toNat = 0x10C32 then some (0, .plain) else none
  | .subscript => if c = '\u17D2' then some (-1, .plain) else none
  | .vowelE =>
    match c.toNat with
    | 0x16D63 => some (0, .plain)
    | 0x16D67 => some (0, .vowelAi)
    | 0x16D68 => some (1, .vowelE)
    | 0x16D69 => some (0, .plain)
    | _ => none
  | .vowelAi => if c.toNat = 0x16D63 then some (0, .plain) else none
  | .plain | .joinedKeycap | .lamed false | .ya false | .turkicI false => none

/-! ## Selectors -/

/-- The form that a selector asks for. -/
def selected? (c : Char) : Option Form :=
  if c = '\uFE0E' then some .text
  else if c = '\uFE0F' then some .emoji
  else if c = '\uFE01' then some .full
  else none

/-- The text with a selector before it. -/
def Opening.select (o : Opening) (f : Form) : Start :=
  if o.isLigature || (f = .emoji && o.awaitsEmoji) then { opening := o, form := some f }
  else { opening := .plain, form := some f }

/-- The columns of `c` and the beginning that it makes, where it has the form that a selector behind it
    asks for. -/
def heed? (c : Char) (s : Start) : Option (Int × Opening) :=
  match s.form with
  | some .emoji =>
    if Glyph.hasEmojiForm c then some (if s.opening.awaitsEmoji then 0 else 2, .emoji) else none
  | some .text => if Glyph.narrowsAsText c then some (1, .plain) else none
  | some .full => if Glyph.isQuotation c then some (2, .plain) else none
  | none => none

/-- What remains to join where the selector is not heeded: it parts emoji, but not letters. -/
def Start.unheeded (s : Start) : Opening :=
  if s.form = some .emoji && !s.opening.isLigature then .plain else s.opening

/-! ## Texts -/

/-- The columns that `c` adds to a text that begins so, and the beginning with `c` before it. -/
def before (c : Char) (s : Start) : Int × Start :=
  match heed? c s with
  | some (n, o) => (n, { opening := o })
  | none =>
    let o := s.unheeded
    match selected? c with
    | some f => (0, o.select f)
    | none =>
      if o.joinsAcross && c = joiner then (0, { opening := o.withJoiner })
      else if o.joinsAcross && Glyph.isIgnorableMark c then (0, { opening := o })
      else
        match join? c o with
        | some (n, o) => (n, { opening := o })
        | none => (Glyph.columns c, { opening := .ofChar c })

/-- The columns of a text, and what it begins with. -/
def measure (cs : List Char) : Int × Start :=
  cs.foldr
    (fun c (total, s) =>
      let (n, s) := before c s
      (total + n, s))
    (0, { opening := .plain })

/-- The columns of a text. -/
def ofList (cs : List Char) : Nat := (measure cs).1.toNat

end Overseer.Columns
