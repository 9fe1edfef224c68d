import KctlProbe.Sandbox.Shell.Builtin.Arguments
import KctlProbe.Sandbox.Shell.Field

/-!
# Commands of a shell for its variables

The commands that set, show and read variables, positional parameters, options and aliases.
-/

namespace KctlProbe.Sandbox

open Script

/-- Gives variables a property, and a value where one is given; without names it shows those that
have the property. -/
def declareBuiltin (word : String) (exported readOnly : Bool) (args : List Octets) :
    Action Nat := do
  let (letters, names) ← options [('p', false)] args
  if !letters.isEmpty || names.isEmpty then
    holdVariables (word ++ " ") fun v => (exported && v.exported) || (readOnly && v.readOnly)
  else
    for text in names do
      match parts text with
      | (name, some value) => setVariable name (some value) exported readOnly
      | (name, none) =>
        match ← bindingOf? name with
        | some v =>
          restore name (some { v with
            exported := v.exported || exported, readOnly := v.readOnly || readOnly })
        | none => setVariable name none exported readOnly
  return 0

/-- Hides variables in a function. -/
def localBuiltin (args : List Octets) : Action Nat := do
  if (← getShell).scopes.isEmpty then fail "not in a function"
  for text in args do
    hide text false
  return 0

/-- Takes variables or functions away. -/
def unsetBuiltin (args : List Octets) : Action Nat := do
  let (letters, names) ← options [('v', false), ('f', false)] args
  let functions := (letters.getLast?.map (·.1)) = some 'f'
  for name in names do
    if functions then
      modifyShell fun s => { s with functions := s.functions.filter (·.1 ≠ name) }
    else unsetVariable name
  return 0

/-- The options of a shell: their names and letters. The last two have letters of their own here
only. -/
def optionNames : List (String × Char) :=
  [("errexit", 'e'), ("noglob", 'f'), ("ignoreeof", 'I'), ("interactive", 'i'), ("monitor", 'm'),
    ("noexec", 'n'), ("stdin", 's'), ("xtrace", 'x'), ("verbose", 'v'), ("vi", 'V'),
    ("emacs", 'E'), ("noclobber", 'C'), ("allexport", 'a'), ("notify", 'b'), ("nounset", 'u'),
    ("privileged", 'p'), ("nolog", 'L'), ("debug", 'D')]

/-- Sets an option or clears it. -/
def setOption (letter : Char) (isSet : Bool) : Action Unit :=
  modifyShell fun s =>
    let others := s.options.filter (· ≠ letter)
    { s with options := if isSet then letter :: others else others }

/-- Sets an option given by its name, or shows all of them. -/
def setNamedOption (name : Option Octets) (isSet : Bool) : Action Unit := do
  match name with
  | none =>
    let on := (← getShell).options
    if isSet then
      holdText "Current option settings\n"
      for (name, letter) in optionNames do
        let gap := String.ofList (List.replicate (16 - name.length) ' ')
        holdText (name ++ gap ++ (if letter ∈ on then "on" else "off") ++ "\n")
    else
      for (name, letter) in optionNames do
        holdText ("set " ++ (if letter ∈ on then "-o " else "+o ") ++ name ++ "\n")
  | some name =>
    match optionNames.find? (·.1.toList = name) with
    | some (_, letter) => setOption letter isSet
    | none => fail ("Illegal option -o " ++ shown name)

/-- Sets the options that letters name. The letter `o` takes the name from the next argument. -/
def setLetters (isSet : Bool) : Octets → List Octets → Action (List Octets)
  | [], rest => return rest
  | c :: cs, rest => do
    if c = 'o' then
      setNamedOption rest.head? isSet
      setLetters isSet cs (rest.drop 1)
    else
      if !(optionNames.any (·.2 = c)) || c = 'L' || c = 'D' then
        fail ("Illegal option -" ++ String.ofList [c])
      setOption c isSet
      setLetters isSet cs rest

/-- Gives the shell other positional parameters. -/
def setParameters (args : List Octets) : Action Unit :=
  modifyShell fun s => { s with parameters := args, optionIndex := 1, optionOffset := none }

/-- Reads the options at the start of the arguments of `set`, and gives the other arguments. -/
def setOptions : Nat → List Octets → Action (List Octets)
  | 0, args => return args
  | fuel + 1, args => do
    match args with
    | ['-'] :: rest =>
      setOption 'x' false
      setOption 'v' false
      return rest
    | ['-', '-'] :: rest =>
      if rest.isEmpty then setParameters []
      return rest
    | ('-' :: letters) :: rest => setOptions fuel (← setLetters true letters rest)
    | ('+' :: letters) :: rest => setOptions fuel (← setLetters false letters rest)
    | args => return args

/-- Sets options and positional parameters; without arguments it shows the variables. -/
def setBuiltin (args : List Octets) : Action Nat := do
  if args.isEmpty then holdVariables "" fun v => v.value.isSome
  else
    let rest ← setOptions (args.length + 1) args
    if 'm' ∈ (← getShell).options then
      setOption 'm' false
      warn "can't access tty; job control turned off"
    unless rest.isEmpty do setParameters rest
  return 0

/-- Takes positional parameters away. -/
def shiftBuiltin (args : List Octets) : Action Nat := do
  let n ← match args with
    | [] => pure 1
    | a :: _ => countOf a
  if (← getShell).parameters.length < n then fail "can't shift that many"
  modifyShell fun s =>
    { s with parameters := s.parameters.drop n, optionIndex := 1, optionOffset := none }
  return 0

/-- Gives a variable a value without anything else happening. -/
def assignQuietly (name value : Octets) : Action Unit := do
  let old := ((← getShell).bindings.lookup name).getD {}
  if old.readOnly then fail (shown name ++ ": is read only")
  restore name (some { old with value := some value })

/-- Reads the next option from arguments. -/
def nextOption (spec name : Octets) (args : List Octets) : Action Nat := do
  let s ← getShell
  let silent := spec.head? = some ':'
  let argument := fun (i : Nat) => args[i - 1]?
  let index := s.optionIndex
  let within := match s.optionOffset with
    | some n => if index ≤ 1 then [] else ((argument (index - 1)).getD []).drop n
    | none => []
  let finish := fun (letter : Char) (index : Nat) (offset : Option Nat) (status : Nat) => do
    assignQuietly "OPTIND".toList (Octets.ofNat index)
    assign name [letter]
    modifyShell fun s => { s with optionIndex := index, optionOffset := offset }
    return status
  let (letters, index) := match within with
    | [] =>
      match argument index with
      | some ('-' :: c :: cs) => (c :: cs, index + 1)
      | _ => ([], index)
    | letters => (letters, index)
  match letters with
  | [] => finish '?' index none 1
  | c :: cs =>
    if within.isEmpty && c = '-' && cs.isEmpty then finish '?' index none 1
    else
      let offset := ((argument (index - 1)).getD []).length - cs.length
      let complain := fun (why : String) (letter : Char) => do
        if silent then
          assign "OPTARG".toList [c]
          return letter
        else
          say 2 why
          unsetVariable "OPTARG".toList
          return '?'
      let known := (spec.dropWhile (· ≠ c))
      if c = ':' || known.isEmpty then
        let letter ← complain ("Illegal option -" ++ String.ofList [c] ++ "\n") '?'
        finish letter index (some offset) 0
      else if known[1]? = some ':' then
        match cs, argument index with
        | [], none =>
          let letter ← complain ("No arg for -" ++ String.ofList [c] ++ " option\n") ':'
          finish letter index none 0
        | [], some text =>
          assign "OPTARG".toList text
          finish c (index + 1) none 0
        | cs, _ =>
          assign "OPTARG".toList cs
          finish c index none 0
      else
        assign "OPTARG".toList []
        finish c index (some offset) 0

/-- Reads the next option from arguments, or from the positional parameters. -/
def getoptsBuiltin (args : List Octets) : Action Nat := do
  match ← noOptions args with
  | spec :: name :: rest =>
    let s ← getShell
    let args := if rest.isEmpty then s.parameters else rest
    if args.length + 1 < s.optionIndex then
      modifyShell fun s => { s with optionIndex := 1, optionOffset := none }
    nextOption spec name args
  | _ => fail "Usage: getopts optstring var [arg...]"

/-- What was read of a line: its characters, its regions, and where the current one starts. -/
structure LineRead where
  word : Expanded := {}
  start : Nat := 0

namespace LineRead

/-- The line with one more character. -/
def add (l : LineRead) (c : Char) : LineRead :=
  { l with word := { l.word with glyphs := l.word.glyphs.push (.char c) } }

/-- The line with its region ended, and a new one behind `next` if there is a character that was
quoted by a backslash. -/
def quote (l : LineRead) (next : Option Char) : LineRead :=
  let size := l.word.glyphs.size
  let l := { l with word := { l.word with regions := ⟨l.start, size, false⟩ :: l.word.regions } }
  let l := match next with
    | some c => l.add c
    | none => l
  { l with start := l.word.glyphs.size }

/-- The line with characters, in which backslashes quote unless `raw` holds, and whether it goes on
at the next line. -/
def addAll (raw : Bool) : LineRead → Octets → LineRead × Bool
  | l, [] => (l, false)
  | l, '\\' :: cs =>
    if raw then addAll raw (l.add '\\') cs
    else
      match cs with
      | [] => (l, true)
      | c :: cs => addAll raw (l.quote (some c)) cs
  | l, c :: cs => addAll raw (if c = '\x00' then l else l.add c) cs

end LineRead

/-- Reads a line, which a backslash can join to the next one, and says whether it ended. -/
def readWhole (raw : Bool) : Nat → LineRead → Action (LineRead × Bool)
  | 0, l => return (l, false)
  | fuel + 1, l => do
    match ← readLine 0 with
    | .error _ => return (l, false)
    | .ok (text, ended) =>
      let (l, goesOn) := l.addAll raw text
      if goesOn && ended then readWhole raw fuel (l.quote none)
      else return (l, ended)

/-- Gives variables the fields that were read. Those for which no field is left are emptied. -/
def assignFields : List Octets → List (List Glyph) → Action Unit
  | [], _ => pure ()
  | name :: names, fields => do
    assign name (textOf (fields.headD []))
    assignFields names (fields.drop 1)

/-- Reads a line into variables. -/
def readBuiltin (args : List Octets) : Action Nat := do
  let (letters, names) ← options [('p', true), ('r', false)] args
  if names.isEmpty then fail "arg count"
  let raw := letters.any (·.1 = 'r')
  let (l, ended) ← readWhole raw 1000000 {}
  let word := { l.word with regions := ⟨l.start, l.word.glyphs.size, false⟩ :: l.word.regions }
  assignFields names (splitFields (← separators?) (some names.length) word)
  return if ended then 0 else 1

/-- An alias as it would be defined. -/
def aliasText (name value : Octets) : Octets :=
  name ++ '=' :: singleQuoted value ++ ['\n']

/-- Defines and shows aliases. -/
def aliasBuiltin (args : List Octets) : Action Nat := do
  if args.isEmpty then
    for (name, value) in inTableOrder (← getShell).aliases do
      hold (aliasText name value)
    return 0
  let statuses ← args.mapM fun text => do
    match text with
    | [] => return 0
    | c :: cs =>
      match parts cs with
      | (name, some value) =>
        modifyShell fun s => { s with aliases := bind (c :: name) value s.aliases }
        return 0
      | (_, none) =>
        match (← getShell).aliases.lookup text with
        | some value =>
          hold (aliasText text value)
          return 0
        | none =>
          say 2 ("alias: " ++ shown text ++ " not found\n")
          return 1
  return statuses.foldl max 0

/-- Takes aliases away. -/
def unaliasBuiltin (args : List Octets) : Action Nat := do
  let (letters, names) ← options [('a', false)] args
  if !letters.isEmpty then
    modifyShell fun s => { s with aliases := [] }
    return 0
  let statuses ← names.mapM fun name => do
    if ((← getShell).aliases.lookup name).isSome then
      modifyShell fun s => { s with aliases := s.aliases.filter (·.1 ≠ name) }
      return 0
    else
      say 2 ("unalias: " ++ shown name ++ " not found\n")
      return 1
  return statuses.foldl max 0

end KctlProbe.Sandbox
