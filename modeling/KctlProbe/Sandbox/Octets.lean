import KctlProbe.Text.Utf8

/-!
# Octet strings

Scripts and the tools that they call work on bytes and do not care which of them make up characters
of a text. Here a byte is held as the character of the same number, so a script can be matched
against characters and still carry every byte.
-/

namespace KctlProbe.Sandbox

/-- A string of bytes, each held as the character of its number. -/
abbrev Octets := List Char

namespace Octets

/-- The octets of a byte string. -/
def ofBytes (bs : Bytes) : Octets :=
  bs.map fun b => Char.ofNat b.toNat

/-- The bytes of octets. -/
def toBytes (cs : Octets) : Bytes :=
  cs.map fun c => UInt8.ofNat c.toNat

/-- The parts of `cs` between the separators `sep`. -/
def split (sep : Char) (cs : Octets) : List Octets :=
  let (last, parts) := cs.foldl (fun (part, parts) c =>
    if c = sep then ([], part.reverse :: parts) else (c :: part, parts)) (([], []) : Octets × _)
  (last.reverse :: parts).reverse

/-- The lines of `cs`, each with the newline that ends it. -/
def lines (cs : Octets) : List Octets :=
  let (last, lines) := cs.foldl (fun (line, lines) c =>
    if c = '\n' then ([], (c :: line).reverse :: lines) else (c :: line, lines))
    (([], []) : Octets × _)
  (if last.isEmpty then lines else last.reverse :: lines).reverse

/-- The strings `parts` with `sep` between them. -/
def join (sep : Octets) (parts : List Octets) : Octets :=
  List.intercalate sep parts

/-- Whether one string of octets comes before another, byte by byte. -/
def precedes : Octets → Octets → Bool
  | _, [] => false
  | [], _ :: _ => true
  | c :: cs, d :: ds => c.toNat < d.toNat || (c == d && precedes cs ds)

/-- The decimal digits of a number. -/
def ofNat (n : Nat) : Octets :=
  Nat.toDigits 10 n

/-- The number with the given decimal digits. -/
def toNat? (cs : Octets) : Option Nat :=
  if cs.isEmpty then none
  else cs.foldl (fun n c => n.bind fun n =>
    if '0' ≤ c ∧ c ≤ '9' then some (n * 10 + (c.toNat - '0'.toNat)) else none) (some 0)

/-- The number with the given octal digits. -/
def ofOctal? (cs : Octets) : Option Nat :=
  if cs.isEmpty then none
  else cs.foldl (fun n c => n.bind fun n =>
    if '0' ≤ c ∧ c ≤ '7' then some (n * 8 + (c.toNat - '0'.toNat)) else none) (some 0)

/-- The value of a hexadecimal digit. -/
def hexValue? (c : Char) : Option Nat :=
  if '0' ≤ c ∧ c ≤ '9' then some (c.toNat - '0'.toNat)
  else if 'a' ≤ c ∧ c ≤ 'f' then some (c.toNat - 'a'.toNat + 10)
  else if 'A' ≤ c ∧ c ≤ 'F' then some (c.toNat - 'A'.toNat + 10)
  else none

/-- The number with the given hexadecimal digits. -/
def ofHex? (cs : Octets) : Option Nat :=
  if cs.isEmpty then none
  else cs.foldl (fun n c => n.bind fun n => (hexValue? c).map fun d => n * 16 + d) (some 0)

/-- The number that digits stand for: hexadecimal after `0x`, octal after another zero, and decimal
otherwise. -/
def ofLiteral? : Octets → Option Nat
  | '0' :: 'x' :: cs => ofHex? cs
  | '0' :: 'X' :: cs => ofHex? cs
  | '0' :: c :: cs => ofOctal? (c :: cs)
  | cs => toNat? cs

/-- A number read by `digits`, with a sign or without. -/
def signed? (digits : Octets → Option Nat) : Octets → Option Int
  | '-' :: cs => (digits cs).map fun n => -(n : Int)
  | '+' :: cs => (digits cs).map Int.ofNat
  | cs => (digits cs).map Int.ofNat

/-- The integer with the given decimal digits and perhaps a sign. -/
def toInt? (cs : Octets) : Option Int :=
  signed? toNat? cs

/-- The decimal digits of an integer, after a minus sign if it is negative. -/
def ofInt : Int → Octets
  | .ofNat n => ofNat n
  | .negSucc n => '-' :: ofNat (n + 1)

end Octets

/-- The octets as a text of as many characters, for a message that is written as octets again. -/
def shown (cs : Octets) : String :=
  String.ofList cs

end KctlProbe.Sandbox
