import KctlProbe.Sandbox.Shell.Complaint

/-!
# Variables of a shell

A variable can be exported to the programs that the shell starts, and it can be read-only. A
function can hide variables, which get their values back when it ends.
-/

namespace KctlProbe.Sandbox

open Script (isName)

/-- A table with a value for a key, in place of the one it had. -/
def bind {α : Type} (key : Octets) (value : α) : List (Octets × α) → List (Octets × α)
  | [] => [(key, value)]
  | (k, v) :: rest => if k = key then (key, value) :: rest else (k, v) :: bind key value rest

/-- A variable. -/
def bindingOf? (name : Octets) : Action (Option Variable) :=
  return (← getShell).bindings.lookup name

/-- The value of a variable. -/
def valueOf? (name : Octets) : Action (Option Octets) :=
  return ((← getShell).bindings.lookup name).bind (·.value)

/-- The characters between which fields are split, if they are given. -/
def separators? : Action (Option Octets) :=
  valueOf? "IFS".toList

/-- What else happens when a variable gets a value: options are read anew, and programs are looked
for again. -/
def valueSet (name value : Octets) : Action Unit := do
  if name = "PATH".toList then modifyShell fun s => { s with found := [] }
  if name = "OPTIND".toList then
    let n ← countOf value
    modifyShell fun s => { s with optionIndex := if n = 0 then 1 else n, optionOffset := none }

/-- Puts a variable into the table as it is, or takes it away. -/
def restore (name : Octets) (v : Option Variable) : Action Unit :=
  modifyShell fun s =>
    match v with
    | some v => { s with bindings := bind name v s.bindings }
    | none => { s with bindings := s.bindings.filter (·.1 ≠ name) }

/-- The name at the start of an assignment, which must be one. -/
def checkName (name : Octets) : Action Unit := do
  unless isName name do fail (shown name ++ ": bad variable name")

/-- Gives a variable a value, or only properties. What is read-only cannot get a value. -/
def setVariable (name : Octets) (value : Option Octets) (exported readOnly : Bool) :
    Action Unit := do
  checkName name
  let s ← getShell
  let old := (s.bindings.lookup name).getD {}
  if old.readOnly then fail (shown name ++ ": is read only")
  match value with
  | some v => valueSet name v
  | none => pure ()
  restore name (some {
    value := value
    exported := exported || old.exported || ('a' ∈ s.options && value.isSome)
    readOnly })

/-- Gives a variable a value. -/
def assign (name value : Octets) : Action Unit :=
  setVariable name (some value) false false

/-- Takes a variable away. -/
def unsetVariable (name : Octets) : Action Unit := do
  checkName name
  match ← bindingOf? name with
  | some v =>
    if v.readOnly then fail (shown name ++ ": is read only")
    restore name none
  | none => pure ()

/-- The name and the value of an assignment. -/
def parts (text : Octets) : Octets × Option Octets :=
  let name := text.takeWhile (· ≠ '=')
  match text.drop name.length with
  | _ :: value => (name, some value)
  | [] => (name, none)

/-- The variables with a property, in order. -/
def bindingsWhere (p : Variable → Bool) : Action (List (Octets × Variable)) := do
  let all := (← getShell).bindings.filter fun (_, v) => p v
  return all.mergeSort fun a b => !Octets.precedes b.1 a.1

/-- Where a name is kept in a table of the shell, which decides the order of lists. -/
def tablePlace (name : Octets) : Nat :=
  let start := (name.head?.map (·.toNat * 16)).getD 0
  name.foldl (fun n c => n + c.toNat) start % 39

/-- Entries of a table in the order in which they are kept. -/
def inTableOrder {α : Type} (entries : List (Octets × α)) : List (Octets × α) :=
  entries.mergeSort fun a b => tablePlace a.1 ≤ tablePlace b.1

/-- The environment of the programs that the shell starts. -/
def environment : Action (List (Octets × Octets)) := do
  let exported := (← getShell).bindings.filterMap fun (name, v) =>
    if v.exported then v.value.map (name, ·) else none
  return inTableOrder exported

/-- A text in single quotes, as a script would have it. Its own quotes stand in double ones. -/
def quotedFrom : Nat → Octets → Octets
  | 0, _ => []
  | fuel + 1, cs =>
    let plain := cs.takeWhile (· ≠ '\'')
    let rest := cs.drop plain.length
    let quotes := rest.takeWhile (· = '\'')
    let rest := rest.drop quotes.length
    '\'' :: plain ++ ['\''] ++ (if quotes.isEmpty then [] else '"' :: quotes ++ ['"']) ++
      (if rest.isEmpty then [] else quotedFrom fuel rest)

/-- A text in single quotes. -/
def singleQuoted (text : Octets) : Octets :=
  quotedFrom (text.length + 1) text

/-- Writes variables, each after a word. -/
def holdVariables (word : String) (p : Variable → Bool) : Action Unit := do
  for (name, v) in ← bindingsWhere p do
    let value := match v.value with
      | some value => '=' :: singleQuoted value
      | none => []
    hold (word.toList ++ name ++ value ++ ['\n'])

/-- Lets the function that runs hide a variable, which keeps its value until it gets another one. A
dash stands for the options of the shell. -/
def hide (text : Octets) (exported : Bool) : Action Unit := do
  let s ← getShell
  let (name, value) := parts text
  let keep := fun (v : Option Variable) => modifyShell fun s =>
    match s.scopes with
    | scope :: rest => { s with scopes := ((name, v) :: scope) :: rest }
    | [] => s
  if text = ['-'] then
    match s.scopes with
    | scope :: rest =>
      let saved : Variable := { value := some s.options }
      set { (← get) with
        shell := { s with scopes := ((text, some saved) :: scope) :: rest } }
    | [] => pure ()
  else
    checkName name
    let old := s.bindings.lookup name
    match old with
    | none =>
      keep none
      setVariable name value exported false
    | some v =>
      keep (some v)
      match value with
      | some value => setVariable name (some value) exported v.readOnly
      | none => pure ()

/-- Starts a scope in which variables can be hidden. -/
def openScope : Action Unit :=
  modifyShell fun s => { s with scopes := [] :: s.scopes }

/-- Ends a scope. The variables that it hides get their values back. -/
def closeScope : Action Unit := do
  match (← getShell).scopes with
  | scope :: rest =>
    modifyShell fun s => { s with scopes := rest }
    for (name, v) in scope do
      if name = ['-'] then
        modifyShell fun s => { s with options := ((v.bind (·.value)).getD []) }
      else
        match v.bind (·.value) with
        | some value => valueSet name value
        | none => pure ()
        restore name v
  | [] => pure ()

end KctlProbe.Sandbox
