import KctlProbe.Json.Number
import KctlProbe.Proofs.Text.Digits

/-!
# The grammar of JSON texts

A text is described by how it is spelled. A `Tree` is a value together with every choice that its
author has: the blanks between tokens, which characters of a string are escaped and how, the digits,
signs and letters of a number. `Tree.bytes` puts the text together, so the well-formed texts of
values are the texts of trees, and a reader is complete if it reads the text of every tree.

What a tree means is defined here as well, without a reader: the characters of a string
(`chars?`, where half a surrogate pair has no meaning) and the integer that a number denotes
(`Figure.integer?`, where minus zero is none).
-/

namespace KctlProbe.Json

/-! ## Blanks -/

/-- A blank between two tokens. -/
inductive Blank where
  | space
  | tab
  | lineFeed
  | carriageReturn
  deriving DecidableEq, Repr

/-- The byte of a blank. -/
def Blank.byte : Blank → UInt8
  | .space => 0x20
  | .tab => 0x09
  | .lineFeed => 0x0A
  | .carriageReturn => 0x0D

/-- Any number of blanks. -/
abbrev Blanks := List Blank

/-! ## Strings -/

/-- A hexadecimal digit, in upper or lower case. -/
structure HexDigit where
  value : Fin 16
  upper : Bool
  deriving DecidableEq, Repr

/-- The byte of a hexadecimal digit. -/
def HexDigit.byte (d : HexDigit) : UInt8 :=
  if d.value.val < 10 then UInt8.ofNat (0x30 + d.value.val)
  else UInt8.ofNat ((if d.upper then 0x41 else 0x61) + (d.value.val - 10))

/-- The last hexadecimal digit of a number, in lower case. -/
def HexDigit.ofNat (n : Nat) : HexDigit where
  value := Fin.ofNat 16 n
  upper := false

/-- The four hexadecimal digits of a numeric escape. -/
structure CodeUnit where
  first : HexDigit
  second : HexDigit
  third : HexDigit
  fourth : HexDigit
  deriving DecidableEq, Repr

/-- The number that a numeric escape gives. -/
def CodeUnit.value (u : CodeUnit) : Nat :=
  ((u.first.value.val * 16 + u.second.value.val) * 16 + u.third.value.val) * 16 +
    u.fourth.value.val

/-- The digits of a numeric escape. -/
def CodeUnit.bytes (u : CodeUnit) : Bytes :=
  [u.first.byte, u.second.byte, u.third.byte, u.fourth.byte]

/-- A character that has an escape of one letter. -/
inductive Mark where
  | quote
  | backslash
  | slash
  | backspace
  | formFeed
  | lineFeed
  | carriageReturn
  | tab
  deriving DecidableEq, Repr

/-- The letter of an escape. -/
def Mark.letter : Mark → UInt8
  | .quote => 0x22
  | .backslash => 0x5C
  | .slash => 0x2F
  | .backspace => 0x62
  | .formFeed => 0x66
  | .lineFeed => 0x6E
  | .carriageReturn => 0x72
  | .tab => 0x74

/-- The character that an escape of one letter stands for. -/
def Mark.char : Mark → Char
  | .quote => '"'
  | .backslash => '\\'
  | .slash => '/'
  | .backspace => '\x08'
  | .formFeed => '\x0C'
  | .lineFeed => '\n'
  | .carriageReturn => '\r'
  | .tab => '\t'

/-- Whether a character may stand in a string as it is. -/
def Plain (c : Char) : Prop :=
  0x20 ≤ c.toNat ∧ c ≠ '"' ∧ c ≠ '\\'

instance : DecidablePred Plain := fun c =>
  inferInstanceAs (Decidable (0x20 ≤ c.toNat ∧ c ≠ '"' ∧ c ≠ '\\'))

/-- A part of a string as it is spelled. -/
inductive Letter where
  /-- A character that stands for itself. -/
  | plain (c : Char) (isPlain : Plain c)
  /-- A backslash and one letter. -/
  | short (mark : Mark)
  /-- A numeric escape. -/
  | unit (u : CodeUnit)
  deriving DecidableEq, Repr

/-- The bytes of a part of a string. -/
def Letter.bytes : Letter → Bytes
  | .plain c _ => String.utf8EncodeChar c
  | .short m => [0x5C, m.letter]
  | .unit u => 0x5C :: 0x75 :: u.bytes

/-- A string as it is spelled. -/
abbrev Spelling := List Letter

/-- The character that two halves of a surrogate pair stand for. -/
def pairChar (high low : Nat) : Char :=
  Char.ofNat ((high - 0xD800) * 0x400 + (low - 0xDC00) + 0x10000)

/-- The characters that a spelling stands for. The first half of a surrogate pair must be followed
by a second half, and a second half stands nowhere else. -/
def chars? : Spelling → Option (List Char)
  | [] => some []
  | .plain c _ :: ls => (chars? ls).map (c :: ·)
  | .short m :: ls => (chars? ls).map (m.char :: ·)
  | .unit u :: .unit v :: ls =>
    if isHighSurrogate u.value then
      if isLowSurrogate v.value then (chars? ls).map (pairChar u.value v.value :: ·) else none
    else if isLowSurrogate u.value then none
    else (chars? (.unit v :: ls)).map (Char.ofNat u.value :: ·)
  | .unit u :: ls =>
    if isHighSurrogate u.value || isLowSurrogate u.value then none
    else (chars? ls).map (Char.ofNat u.value :: ·)

/-- The text that a spelling stands for. -/
def text? (ls : Spelling) : Option String :=
  (chars? ls).map String.ofList

/-- A spelling between quotes. -/
def quoted (ls : Spelling) : Bytes :=
  0x22 :: ls.flatMap Letter.bytes ++ [0x22]

/-! ## Numbers -/

/-- The byte of a decimal digit. -/
def digitByte (d : Fin 10) : UInt8 :=
  UInt8.ofNat (0x30 + d.val)

/-- The digits before the point: one zero, or digits of which the first is none. -/
inductive Whole where
  | zero
  | leading (first : Fin 10) (isLeading : first ≠ 0) (rest : List (Fin 10))
  deriving DecidableEq, Repr

/-- The digits before the point, as a list. -/
def Whole.digits : Whole → List (Fin 10)
  | .zero => [0]
  | .leading first _ rest => first :: rest

/-- The sign of an exponent. -/
inductive Sign where
  | none
  | plus
  | minus
  deriving DecidableEq, Repr

/-- The bytes of a sign. -/
def Sign.bytes : Sign → Bytes
  | .none => []
  | .plus => [0x2B]
  | .minus => [0x2D]

/-- An exponent: its letter, its sign and at least one digit. -/
structure Power where
  upper : Bool
  sign : Sign
  first : Fin 10
  rest : List (Fin 10)
  deriving DecidableEq, Repr

/-- The bytes of an exponent after its letter. -/
def Power.tail (p : Power) : Bytes :=
  p.sign.bytes ++ digitByte p.first :: p.rest.map digitByte

/-- A number as it is spelled. A fraction has at least one digit. -/
structure Figure where
  negative : Bool
  whole : Whole
  fraction : Option (Fin 10 × List (Fin 10))
  power : Option Power
  deriving DecidableEq, Repr

/-- The bytes of a fraction, if there is one. -/
def fractionBytes : Option (Fin 10 × List (Fin 10)) → Bytes
  | some (d, ds) => 0x2E :: digitByte d :: ds.map digitByte
  | none => []

/-- The bytes of an exponent, if there is one. -/
def powerBytes : Option Power → Bytes
  | some p => (if p.upper then 0x45 else 0x65) :: p.tail
  | none => []

/-- The bytes of a number. -/
def Figure.bytes (f : Figure) : Bytes :=
  (if f.negative then [0x2D] else []) ++ f.whole.digits.map digitByte ++
    fractionBytes f.fraction ++ powerBytes f.power

/-- The value of the digits before the point. -/
def Whole.value (w : Whole) : Nat :=
  Text.value 10 (w.digits.map Fin.val)

/-- The integer that a number without fraction and exponent denotes. Minus zero is no integer. -/
def Figure.integer? (f : Figure) : Option Int :=
  if f.fraction.isSome || f.power.isSome || (f.negative && f.whole.value == 0) then none
  else if f.negative then some (-(f.whole.value : Int))
  else some f.whole.value

/-! ## Values -/

/-- An element of an array, with the blanks around it. -/
structure Element (α : Type) where
  before : Blanks
  value : α
  after : Blanks
  deriving DecidableEq, Repr

/-- A member of an object: its name, a colon and its value, with blanks around each. -/
structure Entry (α : Type) where
  before : Blanks
  name : Spelling
  middle : Blanks
  gap : Blanks
  value : α
  after : Blanks
  deriving DecidableEq, Repr

/-- A value as it is spelled. The blanks `inside` stand after an opening bracket. -/
inductive Tree where
  | null
  | boolean (b : Bool)
  | number (f : Figure)
  | string (ls : Spelling)
  | array (inside : Blanks) (elements : List (Element Tree))
  | object (inside : Blanks) (entries : List (Entry Tree))
  deriving Repr

/-- A comma in front of all elements and members but the first. -/
def comma (isFirst : Bool) : Bytes :=
  if isFirst then [] else [0x2C]

/-- The bytes between the name of a member and its value. -/
def Entry.link {α : Type} (e : Entry α) : Bytes :=
  e.middle.map Blank.byte ++ 0x3A :: e.gap.map Blank.byte

/-- The bytes of a member up to its value. -/
def Entry.head {α : Type} (e : Entry α) : Bytes :=
  e.before.map Blank.byte ++ quoted e.name ++ e.link

mutual

/-- The bytes of a value. -/
def Tree.bytes : Tree → Bytes
  | .null => [0x6E, 0x75, 0x6C, 0x6C]
  | .boolean true => [0x74, 0x72, 0x75, 0x65]
  | .boolean false => [0x66, 0x61, 0x6C, 0x73, 0x65]
  | .number f => f.bytes
  | .string ls => quoted ls
  | .array inside es => 0x5B :: inside.map Blank.byte ++ elementsBytes true es ++ [0x5D]
  | .object inside es => 0x7B :: inside.map Blank.byte ++ entriesBytes true es ++ [0x7D]

/-- The bytes of the elements of an array, which are its first ones if `isFirst` holds. -/
def elementsBytes (isFirst : Bool) : List (Element Tree) → Bytes
  | [] => []
  | e :: es =>
    comma isFirst ++ e.before.map Blank.byte ++ e.value.bytes ++ e.after.map Blank.byte ++
      elementsBytes false es

/-- The bytes of the members of an object, which are its first ones if `isFirst` holds. -/
def entriesBytes (isFirst : Bool) : List (Entry Tree) → Bytes
  | [] => []
  | e :: es =>
    comma isFirst ++ e.head ++ e.value.bytes ++ e.after.map Blank.byte ++ entriesBytes false es
end

/-! ## What values mean -/

/-- The truth value that a tree is. -/
def Tree.boolean? : Tree → Option Bool
  | .boolean b => some b
  | _ => none

/-- The text that a tree is. -/
def Tree.text? : Tree → Option String
  | .string ls => Json.text? ls
  | _ => none

/-- The integer that a tree is, if it lies between `low` and `high`. -/
def Tree.integer? (low high : Int) : Tree → Option Int
  | .number f => f.integer?.filter fun z => low ≤ z ∧ z ≤ high
  | _ => none

/-- Nothing if a tree is `null`, else what `value?` finds in it. -/
def Tree.nullable? {α : Type} (value? : Tree → Option α) : Tree → Option (Option α)
  | .null => some none
  | t => (value? t).map some

end KctlProbe.Json
