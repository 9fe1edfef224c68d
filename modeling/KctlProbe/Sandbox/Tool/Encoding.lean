import KctlProbe.Sandbox.Tool.Reading

/-!
# Bytes as letters

`base64` and `base32` write bytes with 64 or 32 different characters and read them again. A group of
bytes makes a group of characters, and equals signs fill the last group.
-/

namespace KctlProbe.Sandbox.Tool

/-- Characters that each stand for some bits. -/
structure Alphabet where
  characters : List Char
  /-- The number of bits of a character. -/
  bits : Nat
  /-- The number of bytes and of characters of a group. -/
  bytes : Nat
  letters : Nat

/-- Six bits in a character. -/
def sixBits : Alphabet :=
  { characters := "ABCDEFGHIJKLMNOPQRSTUVWXYZabcdefghijklmnopqrstuvwxyz0123456789+/".toList
    bits := 6, bytes := 3, letters := 4 }

/-- Five bits in a character. -/
def fiveBits : Alphabet :=
  { characters := "ABCDEFGHIJKLMNOPQRSTUVWXYZ234567".toList, bits := 5, bytes := 5, letters := 8 }

namespace Alphabet

/-- The characters for a group of bytes, which may be short. -/
def group (a : Alphabet) (bytes : Octets) : Octets :=
  let n := bytes.foldl (fun n c => n * 256 + c.toNat) 0 <<< (8 * (a.bytes - bytes.length))
  let used := (bytes.length * 8 + a.bits - 1) / a.bits
  let chars := (List.range a.letters).map fun i =>
    (a.characters[(n >>> (a.bits * (a.letters - 1 - i))) % (1 <<< a.bits)]?).getD 'A'
  chars.take used ++ List.replicate (a.letters - used) '='

/-- Parts of a list that have a length, the last of which may be shorter. -/
def parts {α : Type} (n : Nat) : Nat → List (List α) → List α → List (List α)
  | 0, done, _ => done.reverse
  | _, done, [] => done.reverse
  | fuel + 1, done, xs => parts n fuel (xs.take n :: done) (xs.drop n)

/-- The characters for bytes. -/
def encode (a : Alphabet) (bytes : Octets) : Octets :=
  (parts a.bytes (bytes.length + 1) [] bytes).flatMap a.group

/-- The bytes of a group of characters, and whether it is a right one. -/
def ungroup (a : Alphabet) (chars : Octets) : Octets × Bool :=
  let body := chars.takeWhile (· ≠ '=')
  let values := body.map fun c => a.characters.findIdx? (· = c)
  let known := (values.takeWhile (·.isSome)).map (·.getD 0)
  let bits := known.length * a.bits
  let n := known.foldl (fun n v => n * (1 <<< a.bits) + v) 0
  let count := bits / 8
  let bytes := (List.range count).map fun i => Char.ofNat ((n >>> (bits - 8 * (i + 1))) % 256)
  let rest := chars.drop body.length
  let right := known.length = body.length && chars.length = a.letters && rest.all (· == '=') &&
    (rest.isEmpty || (count ≠ 0 && (a.group bytes).length = a.letters &&
      ((a.group bytes).takeWhile (· ≠ '=')).length = body.length))
  (bytes, right)

/-- The bytes that characters stand for, up to what does not stand for any, and whether there is such
a thing. -/
def decode (a : Alphabet) (chars : Octets) : Octets × Bool :=
  let rec go : List Octets → List Octets → Octets × Bool
    | done, [] => (done.reverse.flatten, true)
    | done, g :: rest =>
      match a.ungroup g with
      | (bytes, true) => go (bytes :: done) rest
      | (bytes, false) => ((bytes :: done).reverse.flatten, false)
  go [] (parts a.letters (chars.length + 1) [] chars)

end Alphabet

/-- Writes bytes as characters of an alphabet, or reads them. -/
def encodingTool (a : Alphabet) (args : List Octets) : Tool Nat := do
  let wrapOf := fun (text : Octets) => do
    match amountOf? text with
    | some n => return n
    | none => refuse 1 ("invalid wrap size: " ++ textInQuotes text)
  let notice := fun (key : String) (text : Octets) => do
    if key = "w" then
      let _ ← wrapOf text
  let g ← OptionRules.read { notice, forms := [plain "d" "decode", plain "i" "ignore-garbage",
    taking "w" "wrap"] } args
  match g.operands with
  | _ :: extra :: _ => misused 1 ("extra operand " ++ textInQuotes extra)
  | _ => pure ()
  let path := g.operands.headD ['-']
  let (text, cut) ← match ← openOperand path with
    | .error e => refuse 1 (nameText path ++ ": " ++ e.words)
    | .ok i =>
      match ← act (drainStream i) with
      | .error e => refuse 1 ("read error: " ++ e.words)
      | .ok read => pure read
  if g.has "d" then
    let kept := fun (c : Char) => if g.has "i" then c ∈ a.characters || c == '=' else c ≠ '\n'
    let (bytes, right) := a.decode (text.filter kept)
    put bytes
    if cut then starve
    if !right then refuse 1 "invalid input"
    return 0
  else
    let width ← match g.text? "w" with
      | some text => wrapOf text
      | none => pure 76
    let text := if cut then text.take (text.length / a.bytes * a.bytes) else text
    let chars := a.encode text
    if width = 0 then put chars
    else put ((Alphabet.parts width (chars.length + 1) [] chars).flatMap fun line => line ++ ['\n'])
    if cut then starve
    return 0

/-- Writes bytes with 64 characters, or reads them. -/
def base64Tool : List Octets → Tool Nat := encodingTool sixBits

/-- Writes bytes with 32 characters, or reads them. -/
def base32Tool : List Octets → Tool Nat := encodingTool fiveBits

end KctlProbe.Sandbox.Tool
