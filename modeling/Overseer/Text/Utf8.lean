-- SUMMARY: UTF-8 as an octet machine: strict decoding, decoding with replacement, encoding.

/-!
# UTF-8

An octet string is cut into pieces, each of which is either a character or a maximal ill-formed
subsequence. Strict decoding wants no ill-formed piece; lossy decoding writes one replacement
character for each of them.
-/

namespace Overseer

/-- A string of octets. -/
abbrev Bytes := List UInt8

namespace Utf8

/-! ## Encoding -/

def encode (cs : List Char) : Bytes := cs.flatMap String.utf8EncodeChar

@[simp] theorem encode_nil : encode [] = [] := rfl

@[simp] theorem encode_cons (c : Char) (cs : List Char) :
    encode (c :: cs) = String.utf8EncodeChar c ++ encode cs := rfl

@[simp] theorem encode_append (cs ds : List Char) :
    encode (cs ++ ds) = encode cs ++ encode ds := by
  simp [encode]

/-! ## The octet machine -/

/-- How far a character has been read. -/
inductive Progress where
  | boundary
  /-- `missing + 1` octets are still to come, the next of them between `low` and `high`; `bits` holds
      what the octets so far contribute to the code point. -/
  | inside (missing : Nat) (low high : UInt8) (bits : Nat)
  deriving DecidableEq, Repr

/-- A piece of an octet string: a character, or `none` for a maximal ill-formed subsequence. -/
abbrev Piece := Option Char

/-- The first octet of a piece. The bounds on the second octet exclude overlong forms, surrogates and
    code points above U+10FFFF. -/
def start (b : UInt8) : List Piece × Progress :=
  if b < 0x80 then ([some (Char.ofNat b.toNat)], .boundary)
  else if b < 0xC2 then ([none], .boundary)
  else if b < 0xE0 then ([], .inside 0 0x80 0xBF (b.toNat - 0xC0))
  else if b = 0xE0 then ([], .inside 1 0xA0 0xBF 0)
  else if b = 0xED then ([], .inside 1 0x80 0x9F 0xD)
  else if b < 0xF0 then ([], .inside 1 0x80 0xBF (b.toNat - 0xE0))
  else if b = 0xF0 then ([], .inside 2 0x90 0xBF 0)
  else if b < 0xF4 then ([], .inside 2 0x80 0xBF (b.toNat - 0xF0))
  else if b = 0xF4 then ([], .inside 2 0x80 0x8F 4)
  else ([none], .boundary)

/-- One more octet. An octet that cannot go on with the piece ends it as ill-formed and starts the
    next one. -/
def advance : Progress → UInt8 → List Piece × Progress
  | .boundary, b => start b
  | .inside missing low high bits, b =>
    if low ≤ b ∧ b ≤ high then
      match missing with
      | 0 => ([some (Char.ofNat (bits * 64 + (b.toNat - 0x80)))], .boundary)
      | n + 1 => ([], .inside n 0x80 0xBF (bits * 64 + (b.toNat - 0x80)))
    else
      let (found, next) := start b
      (none :: found, next)

/-- What the end of the string leaves of an unfinished piece. -/
def Progress.finish : Progress → List Piece
  | .boundary => []
  | .inside .. => [none]

/-- The pieces found from `p` on, behind those already in `found`, the latest of which stands first. -/
def piecesFrom (found : List Piece) (p : Progress) : Bytes → List Piece
  | [] => (p.finish.reverse ++ found).reverse
  | b :: bs =>
    let (more, next) := advance p b
    piecesFrom (more.reverse ++ found) next bs

/-- The characters and the ill-formed subsequences of an octet string, in order. -/
def pieces (s : Bytes) : List Piece := piecesFrom [] .boundary s

/-! ## Decoding -/

/-- The characters of a well-formed octet string. -/
def decode? (s : Bytes) : Option (List Char) :=
  let found := pieces s
  if found.all Option.isSome then some (found.filterMap id) else none

/-- The number of octets in front of the first ill-formed subsequence. -/
def wellFormedLength (s : Bytes) : Nat :=
  (encode (((pieces s).takeWhile Option.isSome).filterMap id)).length

/-- The characters of any octet string, U+FFFD standing for each ill-formed subsequence. -/
def lossy (s : Bytes) : List Char := (pieces s).map (·.getD '\uFFFD')

end Utf8

/-! ## Strings -/

/-- The UTF-8 form of a string. -/
def Bytes.ofString (s : String) : Bytes := Utf8.encode s.toList

/-- The text of an octet string, ill-formed subsequences replaced. -/
def Bytes.lossyText (s : Bytes) : String := String.ofList (Utf8.lossy s)

/-- The text of a well-formed octet string. -/
def Bytes.text? (s : Bytes) : Option String := (Utf8.decode? s).map String.ofList

end Overseer
