import KctlProbe.Sandbox.Real

/-!
# Formatted output

The escapes that `echo` and `printf` understand, and how the directives of `printf` lay out texts
and numbers.
-/

namespace KctlProbe.Sandbox

/-- The value of a run of at most `count` octal digits after `value`, as one byte, and the rest. -/
def octalEscape : Nat → Nat → Octets → Char × Octets
  | 0, value, cs => (Char.ofNat (value % 256), cs)
  | count + 1, value, cs =>
    match cs with
    | c :: rest =>
      if isDigitOf 8 c then octalEscape count (value * 8 + (c.toNat - '0'.toNat)) rest
      else (Char.ofNat (value % 256), cs)
    | [] => (Char.ofNat (value % 256), [])

/-- The character that an escape stands for, after its backslash, and the rest. A backslash that
starts no escape stands for itself. -/
def escape : Octets → Char × Octets
  | '\\' :: cs => ('\\', cs)
  | 'a' :: cs => ('\x07', cs)
  | 'b' :: cs => ('\x08', cs)
  | 'e' :: cs => ('\x1B', cs)
  | 'f' :: cs => ('\x0C', cs)
  | 'n' :: cs => ('\n', cs)
  | 'r' :: cs => ('\r', cs)
  | 't' :: cs => ('\t', cs)
  | 'v' :: cs => ('\x0B', cs)
  | c :: cs => if isDigitOf 8 c then octalEscape 3 0 (c :: cs) else ('\\', c :: cs)
  | [] => ('\\', [])

/-- A text with its escapes replaced, what came before in reverse, and whether an escape ends all
output. The number of an octal escape may have a zero before its three digits. -/
def unescape : Nat → Octets → Octets → Octets × Bool
  | 0, done, _ => (done.reverse, false)
  | _, done, [] => (done.reverse, false)
  | fuel + 1, done, c :: cs =>
    if c ≠ '\\' then unescape fuel (c :: done) cs
    else
      match cs with
      | 'c' :: _ => (done.reverse, true)
      | '0' :: d :: rest =>
        let (e, rest) := escape (if isDigitOf 8 d then d :: rest else '0' :: d :: rest)
        unescape fuel (e :: done) rest
      | cs =>
        let (d, rest) := escape cs
        unescape fuel (d :: done) rest

/-- A text with its escapes replaced, and whether an escape ends all output. -/
def unescapeAll (text : Octets) : Octets × Bool :=
  unescape (text.length + 1) [] text

/-- How a directive lays out what it writes. -/
structure Layout where
  left : Bool := false
  plus : Bool := false
  space : Bool := false
  zero : Bool := false
  marked : Bool := false
  width : Nat := 0
  precision : Option Nat := none

namespace Layout

/-- A text filled up with blanks to the width. -/
def pad (l : Layout) (text : Octets) : Octets :=
  let blanks := List.replicate (l.width - text.length) ' '
  if l.left then text ++ blanks else blanks ++ text

/-- A text cut to the precision and filled up to the width. -/
def text (l : Layout) (cs : Octets) : Octets :=
  l.pad (match l.precision with
    | some p => cs.take p
    | none => cs)

/-- What stands before a number. -/
def sign (l : Layout) (negative : Bool) : Octets :=
  if negative then ['-'] else if l.plus then ['+'] else if l.space then [' '] else []

/-- A number with what stands before its digits, filled up to the width. -/
def digits (l : Layout) (start digits : Octets) (zeros : Bool) : Octets :=
  if zeros && l.zero && !l.left then
    start ++ List.replicate (l.width - start.length - digits.length) '0' ++ digits
  else l.pad (start ++ digits)

/-- The digits of a whole number, filled up to the precision. -/
def whole (l : Layout) (base n : Nat) : Octets :=
  let digits := if n = 0 && l.precision = some 0 then [] else Nat.toDigits base n
  List.replicate ((l.precision.getD 0) - digits.length) '0' ++ digits

/-- An integer in decimal. -/
def integer (l : Layout) (n : Int) : Octets :=
  l.digits (l.sign (n < 0)) (l.whole 10 n.natAbs) l.precision.isNone

/-- A natural number in a base that a letter gives. -/
def natural (l : Layout) (letter : Char) (n : Nat) : Octets :=
  let zeros := l.precision.isNone
  if letter = 'o' then
    let digits := l.whole 8 n
    l.digits [] (if l.marked && digits.head? ≠ some '0' then '0' :: digits else digits) zeros
  else if letter = 'x' then
    l.digits (if l.marked && n ≠ 0 then ['0', 'x'] else []) (l.whole 16 n) zeros
  else if letter = 'X' then
    l.digits (if l.marked && n ≠ 0 then ['0', 'X'] else []) ((l.whole 16 n).map Char.toUpper) zeros
  else l.digits [] (l.whole 10 n) zeros

/-- A number with decimals, in the form that a letter gives. -/
def real (l : Layout) (letter : Char) (x : Real) : Octets :=
  let upper := letter.isUpper
  let start := l.sign x.negative
  let word := fun (w : String) => if upper then w.toList.map Char.toUpper else w.toList
  match x with
  | .infinite _ => l.digits start (word "inf") false
  | .notNumber => l.digits start (word "nan") false
  | .finite _ size =>
    let precision := l.precision.getD 6
    let e := if upper then 'E' else 'e'
    let digits := match letter.toLower with
      | 'e' => Real.scientificDigits size precision l.marked e
      | 'g' => Real.generalDigits size precision l.marked e
      | _ => Real.fixedDigits size precision l.marked
    l.digits start digits true

end Layout

/-- The layout with the flags at the start of a text, and the rest. -/
def flags (l : Layout) : Octets → Layout × Octets
  | '-' :: cs => flags { l with left := true } cs
  | '+' :: cs => flags { l with plus := true } cs
  | ' ' :: cs => flags { l with space := true } cs
  | '0' :: cs => flags { l with zero := true } cs
  | '#' :: cs => flags { l with marked := true } cs
  | cs => (l, cs)

/-- The layout with a width that may be negative. -/
def Layout.withWidth (l : Layout) (n : Int) : Layout :=
  if n < 0 then { l with left := true, width := n.natAbs } else { l with width := n.toNat }

/-- The layout with a precision, which does not count if it is negative. -/
def Layout.withPrecision (l : Layout) (n : Int) : Layout :=
  { l with precision := if n < 0 then none else some n.toNat }

end KctlProbe.Sandbox
