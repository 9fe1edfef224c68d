import KctlProbe.Text.Utf8
import KctlProbe.Text.Decimal

/-!
# Quoted text

Keys and argument vectors are shown between double quotes, on one line, so that what is shown can be
read back: quotes, backslashes and the usual controls have a short escape, other characters that
must not be shown have their code point, and bytes that are no text have their value. Which
characters must not be shown is a parameter, `hidden`.
-/

namespace KctlProbe.Text

/-- How one character stands inside quotes. -/
def quoteChar (hidden : Char → Bool) (c : Char) : List Char :=
  if c = '\x00' then ['\\', '0']
  else if c = '\t' then ['\\', 't']
  else if c = '\r' then ['\\', 'r']
  else if c = '\n' then ['\\', 'n']
  else if c = '\\' then ['\\', '\\']
  else if c = '"' then ['\\', '"']
  else if hidden c then ['\\', 'u', '\x7b'] ++ Nat.toDigits 16 c.toNat ++ ['\x7d']
  else [c]

/-- How a byte that belongs to no character stands inside quotes: two capital digits. -/
def quoteByte (b : UInt8) : List Char :=
  ['\\', 'x'] ++ (padded 16 2 b.toNat).map Char.toUpper

/-- How a piece of a byte string stands inside quotes. Its characters stand as those of a text do, so
an apostrophe stands for itself. -/
def quotePiece (hidden : Char → Bool) : Utf8.Piece → List Char
  | .char c => quoteChar hidden c
  | .broken bytes => bytes.flatMap quoteByte

/-- A text between quotes. -/
def quote (hidden : Char → Bool) (s : String) : String :=
  String.ofList ('"' :: s.toList.flatMap (quoteChar hidden) ++ ['"'])

/-- A byte string between quotes. -/
def quoteBytes (hidden : Char → Bool) (bs : Bytes) : String :=
  String.ofList ('"' :: (Utf8.pieces bs).flatMap (quotePiece hidden) ++ ['"'])

/-- A list of byte strings, each between quotes, in brackets and with commas between them. -/
def quoteVector (hidden : Char → Bool) (tokens : List Bytes) : String :=
  "[" ++ ", ".intercalate (tokens.map (quoteBytes hidden)) ++ "]"

end KctlProbe.Text
