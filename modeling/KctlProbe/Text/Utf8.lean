/-!
# UTF-8

Files, pipes and argument vectors carry bytes, and this module ties them to text. A byte string is
taken apart into `Piece`s: characters, and runs of bytes that start like a character and then break
off. The decoder is a machine with one step for each byte (`step`), so decoding a text in two parts
meets in one state. Both readings of a byte string come from its pieces: `decode?` accepts it only
if nothing is broken, and `lossy` puts one replacement character in the place of each broken run.
-/

namespace KctlProbe

/-- A byte string, as files, pipes and argument vectors carry it. -/
abbrev Bytes := List UInt8

namespace Utf8

/-- The bytes of a text. -/
def encode (s : String) : Bytes :=
  s.toList.flatMap String.utf8EncodeChar

/-- A part of a byte string: a character, or bytes that are no character. The bytes of a broken
piece are the longest start of a character that stands there, or one byte that starts none. -/
inductive Piece where
  | char (c : Char)
  | broken (bytes : Bytes)
  deriving DecidableEq, Repr

/-- Whether a piece is a character. -/
def Piece.isChar : Piece → Bool
  | .char _ => true
  | .broken _ => false

/-- The character that stands for a piece: U+FFFD for a broken one. -/
def Piece.toChar : Piece → Char
  | .char c => c
  | .broken _ => '\uFFFD'

/-- Where the decoder stands between two bytes. -/
inductive State where
  /-- Between two characters. -/
  | idle
  /-- Inside a character: the bytes `seen` so far, the least and the greatest byte that may come
  next, how many bytes are `owed`, and the code point as far as it is known. -/
  | inside (seen : Bytes) (low high : UInt8) (owed : Nat) (code : Nat)
  deriving DecidableEq, Repr

/-- The first byte of a character. The second byte's range leaves out what has a shorter encoding,
what would be a surrogate and what lies above U+10FFFF. -/
def first (b : UInt8) : List Piece × State :=
  if b < 0x80 then ([.char (Char.ofNat b.toNat)], .idle)
  else if b < 0xC2 then ([.broken [b]], .idle)
  else if b < 0xE0 then ([], .inside [b] 0x80 0xBF 1 (b.toNat - 0xC0))
  else if b = 0xE0 then ([], .inside [b] 0xA0 0xBF 2 0)
  else if b = 0xED then ([], .inside [b] 0x80 0x9F 2 0xD)
  else if b < 0xF0 then ([], .inside [b] 0x80 0xBF 2 (b.toNat - 0xE0))
  else if b = 0xF0 then ([], .inside [b] 0x90 0xBF 3 0)
  else if b < 0xF4 then ([], .inside [b] 0x80 0xBF 3 (b.toNat - 0xF0))
  else if b = 0xF4 then ([], .inside [b] 0x80 0x8F 3 4)
  else ([.broken [b]], .idle)

/-- One byte: the pieces that it completes, and the state after it. A byte that cannot go on with
the character ends a broken piece and is itself a first byte. -/
def step : State → UInt8 → List Piece × State
  | .idle, b => first b
  | .inside seen low high owed code, b =>
    if low ≤ b ∧ b ≤ high then
      let code := code * 64 + (b.toNat - 0x80)
      if owed = 1 then ([.char (Char.ofNat code)], .idle)
      else ([], .inside (seen ++ [b]) 0x80 0xBF (owed - 1) code)
    else
      let (pieces, next) := first b
      (.broken seen :: pieces, next)

/-- The end of the input: a character that still owes bytes is broken. -/
def finish : State → List Piece
  | .idle => []
  | .inside seen _ _ _ _ => [.broken seen]

/-- Runs the decoder over `bs`, with the pieces so far in reverse. -/
def run (state : State) (done : List Piece) (bs : Bytes) : List Piece × State :=
  bs.foldl (fun (done, state) b =>
    let (pieces, next) := step state b
    (pieces.reverse ++ done, next)) (done, state)

/-- The pieces of a byte string, in order. -/
def pieces (bs : Bytes) : List Piece :=
  let (done, state) := run .idle [] bs
  done.reverse ++ finish state

/-- The text whose encoding is `bs`, if there is one. -/
def decode? (bs : Bytes) : Option String :=
  let ps := pieces bs
  if ps.all Piece.isChar then some (String.ofList (ps.map Piece.toChar)) else none

/-- The characters of `bs` in front of its first broken piece. -/
def textStart (bs : Bytes) : List Char :=
  ((pieces bs).takeWhile Piece.isChar).map Piece.toChar

/-- The text of `bs` with one U+FFFD for each broken piece. -/
def lossy (bs : Bytes) : String :=
  String.ofList ((pieces bs).map Piece.toChar)

end Utf8

end KctlProbe
