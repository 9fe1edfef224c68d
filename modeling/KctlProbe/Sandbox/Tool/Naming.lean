import KctlProbe.Sandbox.Octets

/-!
# Names in messages

How tools write the names of files and other texts in their messages. A name is written so that a
shell would read it as one word: bare if it can be, and otherwise in quotes. Other texts are always
in quotes, with backslashes.
-/

namespace KctlProbe.Sandbox

/-- The letter that stands for a control character behind a backslash. -/
def controlLetter? (c : Char) : Option Char :=
  match c.toNat with
  | 7 => some 'a'
  | 8 => some 'b'
  | 9 => some 't'
  | 10 => some 'n'
  | 11 => some 'v'
  | 12 => some 'f'
  | 13 => some 'r'
  | _ => none

/-- Whether a character can be printed. -/
def isPrintable (c : Char) : Bool :=
  ' ' ≤ c && c ≤ '~'

/-- Three octal digits for a character. -/
def octalDigits (c : Char) : Octets :=
  let digits := Nat.toDigits 8 c.toNat
  List.replicate (3 - digits.length) '0' ++ digits

/-- A character that cannot be printed, behind a backslash. -/
def escapedControl (c : Char) : Octets :=
  match controlLetter? c with
  | some l => ['\\', l]
  | none => '\\' :: octalDigits c

/-- Whether a shell reads a character at a place of a word as itself. -/
def isBare (alone first : Bool) (c : Char) : Bool :=
  isPrintable c && !(c ∈ " !\"$&'()*;<=>?[^`|\\:".toList) && !(first && (c == '#' || c == '~')) &&
    !(alone && (c == '\x7b' || c == '\x7d'))

/-- Whether a character means the same in double quotes and without. -/
def isBareInQuotes (alone first : Bool) (c : Char) : Bool :=
  c.isAlphanum || c ∈ " %'+,-./:]_".toList ||
    (first && (c == '#' || c == '~')) || (alone && (c == '\x7b' || c == '\x7d'))

/-- Characters within single quotes, which are left for those that cannot be printed. -/
def quotedRest : Bool → Octets → Octets
  | _, [] => ['\'']
  | left, c :: cs =>
    if c = '\'' then (if left then "''".toList else []) ++ "'\\''".toList ++ quotedRest false cs
    else if isPrintable c then (if left then "''".toList else []) ++ c :: quotedRest false cs
    else (if left then [] else "'$'".toList) ++ escapedControl c ++ quotedRest true cs

/-- A name in quotes. -/
def nameInQuotes (name : Octets) : String :=
  let alone := name.length = 1
  let placed := name.zipIdx
  if '\'' ∈ name && placed.all fun (c, i) => isBareInQuotes alone (i == 0) c then
    "\"" ++ shown name ++ "\""
  else "'" ++ shown (quotedRest false name)

/-- A name, in quotes if it needs some. -/
def nameText (name : Octets) : String :=
  let alone := name.length = 1
  let placed := name.zipIdx
  if !name.isEmpty && placed.all fun (c, i) => isBare alone (i == 0) c then shown name
  else nameInQuotes name

/-- A text in quotes. -/
def textInQuotes (text : Octets) : String :=
  "'" ++ shown (text.flatMap fun c =>
    if c = '\'' || c = '\\' then ['\\', c]
    else if isPrintable c then [c] else escapedControl c) ++ "'"

end KctlProbe.Sandbox
