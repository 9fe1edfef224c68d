import KctlProbe.Sandbox.Octets

/-!
# Permissions

How permissions are written and changed: as an octal number, or by clauses such as `u+x`, which say
whose permissions change and how.
-/

namespace KctlProbe.Sandbox

/-- What a clause does to permissions. -/
structure PermissionChange where
  /-- Whose permissions change, all that the mask allows if it is nobody's. -/
  whose : Nat
  /-- A plus, minus or equals sign. -/
  sign : Char
  /-- The permissions that are given or taken. -/
  value : Nat := 0
  /-- Whether they are those that a group of users has now. -/
  copied : Bool := false
  /-- Whether execution is meant only where somebody has it. -/
  whereExecuted : Bool := false
  /-- Whether the change was given as a number. -/
  numeric : Bool := false

namespace PermissionChange

/-- The permissions of the users that a letter names. -/
def whose? (c : Char) : Option Nat :=
  match c with
  | 'u' => some 0o4700
  | 'g' => some 0o2070
  | 'o' => some 0o1007
  | 'a' => some 0o7777
  | _ => none

/-- The permission that a letter names, for all users. -/
def value? (c : Char) : Option Nat :=
  match c with
  | 'r' => some 0o444
  | 'w' => some 0o222
  | 'x' => some 0o111
  | 's' => some 0o6000
  | 't' => some 0o1000
  | _ => none

/-- The changes at the start of the rest of a clause, and what is behind them. -/
def signed (whose : Nat) :
    Nat → List PermissionChange → Octets → Option (List PermissionChange × Octets)
  | 0, done, cs => some (done.reverse, cs)
  | fuel + 1, done, cs =>
    match cs with
    | sign :: rest =>
      if sign ∈ ['+', '-', '='] then
        let change : PermissionChange := { whose, sign }
        let copied := match rest.head? with
          | some 'u' => some 0o700
          | some 'g' => some 0o070
          | some 'o' => some 0o007
          | _ => none
        match copied with
        | some value => signed whose fuel ({ change with value, copied := true } :: done) (rest.drop 1)
        | none =>
          let digits := rest.takeWhile fun c => '0' ≤ c && c ≤ '7'
          match Octets.ofOctal? digits with
          | some n =>
            let behind := rest.drop digits.length
            if 0o7777 < n ∨ whose ≠ 0 ∨ !(behind.isEmpty || behind.head? = some ',') then none
            else
              let change := { change with value := n, whose := 0o7777, numeric := true }
              signed whose fuel (change :: done) behind
          | none =>
            let letters := rest.takeWhile fun c => (value? c).isSome || c == 'X'
            let value := letters.foldl (fun n c => n ||| (value? c).getD 0) 0
            let change := { change with value, whereExecuted := 'X' ∈ letters }
            signed whose fuel (change :: done) (rest.drop letters.length)
      else if done.isEmpty then none
      else some (done.reverse, cs)
    | [] => if done.isEmpty then none else some (done.reverse, [])

/-- The changes that clauses say, with commas between them. -/
def clauses : Nat → Octets → Option (List PermissionChange)
  | 0, _ => none
  | fuel + 1, cs => do
    let who := cs.takeWhile fun c => (whose? c).isSome
    let whose := who.foldl (fun n c => n ||| (whose? c).getD 0) 0
    let (changes, rest) ← signed whose (cs.length + 1) [] (cs.drop who.length)
    match rest with
    | [] => some changes
    | ',' :: rest => return changes ++ (← clauses fuel rest)
    | _ => none

/-- The changes that a text says. -/
def ofText? (text : Octets) : Option (List PermissionChange) :=
  match Octets.ofOctal? text with
  | some n => if 0o7777 < n then none
      else some [{ whose := 0o7777, sign := '=', value := n, numeric := true }]
  | none => clauses (text.length + 1) text

/-- The bits of `a` that are not in `b`. -/
def without (a b : Nat) : Nat :=
  a &&& (0o7777 ^^^ (b &&& 0o7777))

/-- The permissions after a change, of a directory or not. The mask says what nobody gets who is not
named. -/
def apply (mask : Nat) (isDirectory : Bool) (mode : Nat) (c : PermissionChange) : Nat :=
  let kept := if isDirectory && c.numeric then without 0o6000 c.value else 0
  let value :=
    if c.copied then
      let now := mode &&& c.value
      [0o444, 0o222, 0o111].foldl (fun n bits => if now &&& bits = 0 then n else n ||| bits) 0
    else if c.whereExecuted && (isDirectory || mode &&& 0o111 ≠ 0) then c.value ||| 0o111
    else c.value
  let value := without (if c.whose = 0 then without value mask else value &&& c.whose) kept
  if c.sign = '+' then mode ||| value
  else if c.sign = '-' then without mode value
  else (mode &&& ((if c.whose = 0 then 0 else without 0o7777 c.whose) ||| kept)) ||| value

/-- The permissions after changes. -/
def applyAll (mask : Nat) (isDirectory : Bool) (changes : List PermissionChange) (mode : Nat) :
    Nat :=
  changes.foldl (apply mask isDirectory) mode

end PermissionChange

/-- Permissions as nine letters and dashes. -/
def permissionLetters (mode : Nat) : Octets :=
  let three := fun (shift : Nat) (special : Nat) (both only : Char) =>
    let bits := mode >>> shift
    let executes := bits &&& 1 ≠ 0
    let last :=
      if mode &&& special ≠ 0 then (if executes then both else only)
      else if executes then 'x' else '-'
    [if bits &&& 4 ≠ 0 then 'r' else '-', if bits &&& 2 ≠ 0 then 'w' else '-', last]
  three 6 0o4000 's' 'S' ++ three 3 0o2000 's' 'S' ++ three 0 0o1000 't' 'T'

end KctlProbe.Sandbox
