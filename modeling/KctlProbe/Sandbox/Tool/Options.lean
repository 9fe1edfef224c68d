import KctlProbe.Sandbox.Tool.Basic

/-!
# Options of tools

Options are letters behind a dash or words behind two, and they can stand behind operands. A word can
be cut short as long as it is clear which one is meant. Some options take a text, which follows in the
same argument or in the next one.
-/

namespace KctlProbe.Sandbox

/-- What follows an option. -/
inductive Follows where
  | nothing
  | text
  /-- A text in the same argument, or nothing. -/
  | maybe
  deriving DecidableEq, Repr

/-- An option: its letters, of which the first one names it, and its word, which does if there is no
letter. -/
structure OptionForm where
  letters : Octets := []
  word : String := ""
  follows : Follows := .nothing

namespace OptionForm

/-- The name of an option. -/
def key (f : OptionForm) : String :=
  match f.letters with
  | c :: _ => String.ofList [c]
  | [] => f.word

end OptionForm

/-- An option that takes nothing. -/
def plain (letters : String) (word : String) : OptionForm :=
  { letters := letters.toList, word }

/-- An option that takes a text. -/
def taking (letters : String) (word : String) : OptionForm :=
  { letters := letters.toList, word, follows := .text }

/-- The options that a tool was given, and its operands. -/
structure Given where
  /-- The names of options in order, each with the text that followed. -/
  options : List (String × Option Octets) := []
  operands : List Octets := []

namespace Given

/-- Whether an option was given. -/
def has (g : Given) (key : String) : Bool :=
  g.options.any (·.1 = key)

/-- The text that was given last with an option. -/
def text? (g : Given) (key : String) : Option Octets :=
  (g.options.reverse.find? (·.1 = key)).bind (·.2)

/-- The last of some options that was given. -/
def last? (g : Given) (keys : List String) : Option String :=
  (g.options.reverse.find? (·.1 ∈ keys)).map (·.1)

end Given

/-- How a tool takes its options. -/
structure OptionRules where
  forms : List OptionForm
  /-- The status of a tool that is used wrongly. -/
  status : Nat := 1
  /-- Whether no option stands behind an operand. -/
  ordered : Bool := false
  /-- What a tool says that is used wrongly, if it does not point to its help. -/
  usage : Option String := none
  /-- What a tool does at once with an option and the text that follows it. -/
  notice : String → Octets → Tool Unit := fun _ _ => pure ()

namespace OptionRules

/-- Complains about an option, and ends the tool. -/
def reject {α : Type} (r : OptionRules) (text : String) : Tool α := do
  Tool.warn text
  match r.usage with
  | some usage =>
    Tool.say usage
    Tool.quit r.status
  | none => Tool.pointToHelp r.status

/-- The options in an argument of letters, those before in reverse, and the arguments behind them. -/
def readLetters (r : OptionRules) :
    List (String × Option Octets) → Octets → List Octets →
      Tool (List (String × Option Octets) × List Octets)
  | done, [], rest => return (done, rest)
  | done, c :: cs, rest => do
    match r.forms.find? (c ∈ ·.letters) with
    | none => r.reject ("invalid option -- '" ++ String.ofList [c] ++ "'")
    | some f =>
      match f.follows with
      | .nothing =>
        r.notice f.key []
        r.readLetters ((f.key, none) :: done) cs rest
      | .maybe =>
        r.notice f.key cs
        return ((f.key, if cs.isEmpty then none else some cs) :: done, rest)
      | .text =>
        let (text, rest) ← match cs, rest with
          | [], [] =>
            r.reject ("option requires an argument -- '" ++ String.ofList [c] ++ "'")
          | [], text :: rest => pure (text, rest)
          | cs, rest => pure (cs, rest)
        r.notice f.key text
        return ((f.key, some text) :: done, rest)

/-- The option that a word names. -/
def formFor (r : OptionRules) (word : Octets) : Tool OptionForm := do
  let named := r.forms.filter fun f => f.word ≠ "" && word.isPrefixOf f.word.toList
  let dashed := fun (w : String) => "'--" ++ w ++ "'"
  match named.find? (·.word.toList = word), named with
  | some f, _ => return f
  | none, [f] => return f
  | none, [] => r.reject ("unrecognized option " ++ dashed (shown word))
  | none, f :: fs =>
    if fs.all fun g => g.key = f.key then return f
    let possible := named.map fun f => dashed f.word
    r.reject ("option " ++ dashed (shown word) ++ " is ambiguous; possibilities: " ++
      " ".intercalate possible)

/-- The option that a word names, and what is behind it. -/
def readWord (r : OptionRules) (text : Octets) (rest : List Octets) :
    Tool ((String × Option Octets) × List Octets) := do
  let word := text.takeWhile (· ≠ '=')
  let f ← r.formFor word
  match f.follows, text.drop word.length, rest with
  | .nothing, _ :: _, _ =>
    r.reject ("option '--" ++ f.word ++ "' doesn't allow an argument")
  | _, _ :: value, rest => return ((f.key, some value), rest)
  | .text, [], [] => r.reject ("option '--" ++ f.word ++ "' requires an argument")
  | .text, [], value :: rest => return ((f.key, some value), rest)
  | _, [], rest => return ((f.key, none), rest)

/-- Reads arguments, with the options and operands before them in reverse. -/
def readFrom (r : OptionRules) :
    Nat → List (String × Option Octets) → List Octets → List Octets → Tool Given
  | 0, options, operands, rest => return ⟨options.reverse, operands.reverse ++ rest⟩
  | fuel + 1, options, operands, args => do
    match args with
    | [] => return ⟨options.reverse, operands.reverse⟩
    | ['-', '-'] :: rest => return ⟨options.reverse, operands.reverse ++ rest⟩
    | ('-' :: '-' :: text) :: rest =>
      let (option, rest) ← r.readWord text rest
      r.notice option.1 (option.2.getD [])
      r.readFrom fuel (option :: options) operands rest
    | ('-' :: c :: cs) :: rest =>
      let (options, rest) ← r.readLetters options (c :: cs) rest
      r.readFrom fuel options operands rest
    | operand :: rest =>
      if r.ordered then return ⟨options.reverse, operands.reverse ++ args⟩
      r.readFrom fuel options (operand :: operands) rest

/-- Reads the arguments of a tool. -/
def read (r : OptionRules) (args : List Octets) : Tool Given :=
  r.readFrom (args.length + 1) [] [] args

end OptionRules

/-- A number that a unit is multiplied by. -/
def timesPower (base : Nat) : Nat → Nat → Nat
  | 0, n => n
  | k + 1, n => timesPower base k (n * base)

/-- What a number is multiplied by that is followed by some letters: `b` stands for blocks of 512,
and the letters `K`, `M` and so on for powers of 1024, or of 1000 with a `B` behind them. -/
def scaled? (n : Nat) (letters : Octets) : Option Nat :=
  let power := fun (base : Nat) (c : Char) =>
    let c := if c = 'k' ∨ c = 'm' then c.toUpper else c
    (("KMGTPEZYRQ".toList.zipIdx).find? (·.1 = c)).map fun (_, i) => timesPower base (i + 1) n
  match letters with
  | [] => some n
  | ['b'] => some (n * 512)
  | [c] => power 1024 c
  | [c, 'B'] => power 1000 c
  | [c, 'i', 'B'] => power 1024 c
  | _ => none

/-- The greatest number that tools count with. -/
def greatestCount : Nat := 18446744073709551615

/-- The number that a text gives, perhaps with letters that multiply it. -/
def amountOf? (text : Octets) : Option Nat :=
  let cs := text.dropWhile isSpace
  let cs := if cs.head? = some '+' then cs.drop 1 else cs
  let digits := cs.takeWhile Char.isDigit
  if digits.isEmpty then
    if (cs.head?.map fun c => c.isAlpha) = some true then scaled? 1 cs else none
  else scaled? (numberOf 10 digits) (cs.drop digits.length)

/-- The number that a text gives, which must be one. `what` says which number it is. -/
def Tool.amount (status : Nat) (what : String) (text : Octets) : Tool Nat := do
  match amountOf? text with
  | none => refuse status ("invalid " ++ what ++ ": " ++ textInQuotes text)
  | some n =>
    if greatestCount < n then
      refuse status ("invalid " ++ what ++ ": " ++ textInQuotes text ++
        ": Value too large for defined data type")
    else return n

end KctlProbe.Sandbox
