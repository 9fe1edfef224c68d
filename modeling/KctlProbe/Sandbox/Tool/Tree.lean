import KctlProbe.Sandbox.Tool.Reading
import KctlProbe.Sandbox.Permissions

/-!
# Tools that make and remove

The tools that make and remove files and directories, and change when they were changed and what is
permitted with them.
-/

namespace KctlProbe.Sandbox.Tool

/-- What a path leads to. -/
def lookAt (path : Octets) (through : Bool) : Tool (Except Errno (Spot × Option Node)) := do
  match ← act (spotOf path through) with
  | .error e => return .error e
  | .ok s =>
    let files ← act getFiles
    return .ok (s, s.node.map files.node)

/-- The node at a path. -/
def nodeOf (path : Octets) (through : Bool) : Tool (Except Errno (Spot × Nat × Node)) := do
  match ← lookAt path through with
  | .error e => return .error e
  | .ok (s, n) =>
    match s.node, n with
    | some i, some n => return .ok (s, i, n)
    | _, _ => return .error .noEntry

/-- A name in a directory. -/
def below (directory name : Octets) : Octets :=
  if directory.getLast? = some '/' then directory ++ name else directory ++ '/' :: name

/-- Complains unless something was done, and gives a status. -/
def done (what : String) (path : Octets) (result : Except Errno Unit) : Tool Nat := do
  match result with
  | .ok () => return 0
  | .error e =>
    warn (what ++ " " ++ nameInQuotes path ++ ": " ++ e.words)
    return 1

/-! ## Removing -/

/-- How files are removed. -/
structure Removal where
  recursive : Bool
  forced : Bool
  /-- Whether empty directories are removed. -/
  emptied : Bool
  asks : Bool
  tells : Bool

/-- Asks a question, and says whether the answer is yes. -/
def confirmed (question : String) : Tool Bool := do
  say ((← name) ++ ": " ++ question ++ "? ")
  match ← act (readLine 0) with
  | .ok ('y' :: _, _) => return true
  | .ok ('Y' :: _, _) => return true
  | _ => return false

/-- What kind of file a node is. -/
def kindText (n : Node) : String :=
  match n.content with
  | .directory _ _ => "directory"
  | .data bytes => if bytes.size = 0 then "regular empty file" else "regular file"
  | .tool _ => "regular file"
  | .link _ => "symbolic link"
  | .device _ => "character special file"

/-- Removes what is at a path. -/
def removeAt (r : Removal) : Nat → Octets → Tool Nat
  | 0, _ => return 1
  | fuel + 1, path => do
    let fail := fun (e : Errno) => done "cannot remove" path (.error e)
    match ← nodeOf path false with
    | .error e => if r.forced && (e = .noEntry || e = .notDirectory) then return 0 else fail e
    | .ok (_, i, n) =>
      let tell := fun (what : String) => do
        if r.tells then putText ("removed " ++ what ++ nameInQuotes path ++ "\n")
        return 0
      if n.isDirectory then
        let names := (← act getFiles).names i
        if !r.recursive && (!r.emptied || !names.isEmpty) then
          fail (if r.emptied then .notEmpty else .isDirectory)
        else
          let enters := !names.isEmpty
          if enters && !(n.allows 4 && n.allows 1) then
            if n.allows 4 then
              forEach (fun name =>
                done "cannot remove" (below path name) (.error .denied)) 0 names
            else fail .denied
          else
            if r.asks && enters then
              if !(← confirmed ("descend into directory " ++ nameInQuotes path)) then return 0
            let status ← forEach (fun name => removeAt r fuel (below path name)) 0 names
            if status ≠ 0 then return status
            if r.asks then
              if !(← confirmed ("remove directory " ++ nameInQuotes path)) then return 0
            match ← act (removeDirectory path) with
            | .ok () => tell "directory "
            | .error e => fail e
      else
        if r.asks then
          if !(← confirmed ("remove " ++ kindText n ++ " " ++ nameInQuotes path)) then return 0
        match ← act (removeFile path) with
        | .ok () => tell ""
        | .error e => fail e

/-- Removes files. -/
def rmTool (args : List Octets) : Tool Nat := do
  let g ← OptionRules.read { forms := [plain "f" "force", plain "i" "", plain "I" "",
    plain "rR" "recursive", plain "d" "dir", plain "v" "verbose", plain "" "one-file-system",
    plain "" "no-preserve-root", { word := "preserve-root", follows := .maybe },
    { word := "interactive", follows := .maybe }] } args
  let forced := g.last? ["f", "i", "I", "interactive"] = some "f"
  let r : Removal := {
    recursive := g.has "r", forced, emptied := g.has "d"
    asks := g.last? ["f", "i", "interactive"] = some "i", tells := g.has "v" }
  if g.operands.isEmpty then
    if forced then return 0
    misused 1 "missing operand"
  forEach (fun path => do
    let last := (withoutSlashes path).reverse.takeWhile (· ≠ '/')
    if r.recursive && (last = ['.'] || last = ['.', '.']) then
      warn ("refusing to remove '.' or '..' directory: skipping " ++ nameInQuotes path)
      return 1
    if r.recursive && withoutSlashes path = ['/'] then
      warn ("it is dangerous to operate recursively on '/'" ++
        (if path = ['/'] then "" else " (same as '/')"))
      warn "use --no-preserve-root to override this failsafe"
      return 1
    removeAt r 4096 path) 0 g.operands

/-- Removes empty directories. -/
def rmdirTool (args : List Octets) : Tool Nat := do
  let g ← OptionRules.read { forms := [plain "p" "parents", plain "v" "verbose",
    plain "" "ignore-fail-on-non-empty"] } args
  if g.operands.isEmpty then misused 1 "missing operand"
  let remove := fun (path : Octets) => do
    if g.has "v" then
      putText ((← name) ++ ": removing directory, " ++ nameInQuotes path ++ "\n")
    match ← act (removeDirectory path) with
    | .ok () => return (0, true)
    | .error e =>
      if e = .notEmpty && g.has "ignore-fail-on-non-empty" then return (0, false)
      else return (← done "failed to remove" path (.error e), false)
  let rec upward : Nat → Octets → Tool Nat
    | 0, _ => return 0
    | fuel + 1, path => do
      let around := withoutSlashes (path.take (path.length -
        (path.reverse.takeWhile (· ≠ '/')).length))
      if around.isEmpty then return 0
      let (status, removed) ← do
        if g.has "v" then
          putText ((← name) ++ ": removing directory, " ++ nameInQuotes around ++ "\n")
        match ← act (removeDirectory around) with
        | .ok () => pure (0, true)
        | .error e =>
          if e = .notEmpty && g.has "ignore-fail-on-non-empty" then pure (0, false)
          else do pure (← done "failed to remove directory" around (.error e), false)
      if removed then upward fuel around else return status
  forEach (fun path => do
    let (status, removed) ← remove path
    if removed && g.has "p" then upward path.length (withoutSlashes path) else return status) 0
    g.operands

/-- Removes one file. -/
def unlinkTool (args : List Octets) : Tool Nat := do
  let g ← OptionRules.read { forms := [] } args
  match g.operands with
  | [] => misused 1 "missing operand"
  | [path] => done "cannot unlink" path (← act (removeFile path))
  | _ :: extra :: _ => misused 1 ("extra operand " ++ textInQuotes extra)

/-! ## Making -/

/-- The permissions that a text gives. -/
def permissionsOf (text : Octets) (isDirectory : Bool) (start : Nat) : Tool Nat := do
  match PermissionChange.ofText? text with
  | some changes =>
    return PermissionChange.applyAll (← act getProcess).mask isDirectory changes start
  | none => refuse 1 ("invalid mode " ++ nameInQuotes text)

/-- Sets the permissions of what is at a path. -/
def setPermissions (path : Octets) (mode : Nat) : Tool Unit := do
  match ← act (find path) with
  | .ok i => act (modifyFiles fun files => files.modify i fun n => { n with mode })
  | .error _ => pure ()

/-- The paths on the way to a path, which is the last of them. -/
def pathsTo (path : Octets) : List Octets :=
  let absolute := path.head? = some '/'
  let names := (path.split '/').filter (!·.isEmpty)
  (List.range names.length).map fun i =>
    (if absolute then ['/'] else []) ++ Octets.join ['/'] (names.take (i + 1))

/-- Makes directories. -/
def mkdirTool (args : List Octets) : Tool Nat := do
  let g ← OptionRules.read { forms := [plain "p" "parents", plain "v" "verbose", taking "m" "mode",
    { letters := ['Z'], word := "context", follows := .maybe }] } args
  if g.operands.isEmpty then misused 1 "missing operand"
  let mode ← match g.text? "m" with
    | some text => some <$> permissionsOf text true 0o777
    | none => pure none
  let tell := fun (path : Octets) => do
    if g.has "v" then putText ((← name) ++ ": created directory " ++ nameInQuotes path ++ "\n")
  let make := fun (path : Octets) => do
    match ← act (makeDirectory path 0o777) with
    | .ok () =>
      match mode with
      | some mode => setPermissions path mode
      | none => pure ()
      tell path
      return (.ok () : Except Errno Unit)
    | .error e => return .error e
  let rec climb : List Octets → Tool (Option Nat)
    | [] => return none
    | path :: rest => do
      match ← lookAt path true with
      | .ok (_, some n) =>
        if n.isDirectory then climb rest
        else some <$> done "cannot create directory" path (.error .notDirectory)
      | .ok (_, none) =>
        match ← act (makeDirectory path 0o777) with
        | .ok () =>
          tell path
          climb rest
        | .error e => some <$> done "cannot create directory" path (.error e)
      | .error e => some <$> done "cannot create directory" path (.error e)
  forEach (fun path => do
    if !g.has "p" then done "cannot create directory" path (← make path)
    else
      match ← climb (pathsTo path).dropLast with
      | some status => return status
      | none =>
        match ← make path with
        | .error .alreadyExists =>
          match ← lookAt path true with
          | .ok (_, some n) =>
            if n.isDirectory then return 0
            else done "cannot create directory" path (.error .alreadyExists)
          | _ => done "cannot create directory" path (.error .alreadyExists)
        | result => done "cannot create directory" path result) 0 g.operands

/-- Makes files, and notes that they were changed. -/
def touchTool (args : List Octets) : Tool Nat := do
  let g ← OptionRules.read { forms := [plain "a" "", plain "c" "no-create", plain "f" "",
    plain "h" "no-dereference", plain "m" "", taking "r" "reference", taking "t" "",
    taking "d" "date", taking "" "time"] } args
  let time ← match g.text? "r" with
    | some path =>
      match ← nodeOf path true with
      | .ok (_, _, n) => pure n.time
      | .error e => refuse 1 ("failed to get attributes of " ++ nameInQuotes path ++ ": " ++ e.words)
    | none => act fileTime
  if g.operands.isEmpty then misused 1 "missing file operand"
  let note := fun (i : Nat) =>
    act (modifyFiles fun files => files.modify i fun n => { n with time })
  forEach (fun path => do
    let opened ← if g.has "c" then pure (.error .isDirectory)
      else act (openFileAt path { writes := true, creates := true })
    match ← nodeOf path true, opened with
    | .ok (_, i, n), .error e =>
      if n.own then
        note i
        return 0
      else if e = .isDirectory then done "setting times of" path (.error .denied)
      else done "cannot touch" path (.error e)
    | .ok (_, i, _), .ok _ =>
      note i
      return 0
    | .error e, .error .isDirectory =>
      if g.has "c" && e = .noEntry then return 0 else done "setting times of" path (.error e)
    | .error _, .error e => done "cannot touch" path (.error e)
    | .error e, .ok _ => done "setting times of" path (.error e)) 0 g.operands

/-- Gives files a size. -/
def truncateTool (args : List Octets) : Tool Nat := do
  let g ← OptionRules.read { forms := [plain "c" "no-create", plain "o" "io-blocks",
    taking "r" "reference", taking "s" "size"] } args
  match g.text? "s" with
  | none => misused 1 "you must specify either '--size' or '--reference'"
  | some text =>
    if g.operands.isEmpty then misused 1 "missing file operand"
    let (sign, digits) := match text with
      | c :: cs => if c ∈ "+-<>/%".toList then (c, cs) else ('=', text)
      | [] => ('=', [])
    let n ← match amountOf? digits with
      | some n => pure n
      | none => refuse 1 ("Invalid number: " ++ textInQuotes text)
    forEach (fun path => do
      match ← act (openFileAt path { writes := true, creates := !g.has "c" }) with
      | .error e =>
        if g.has "c" && e = .noEntry then return 0
        warn ("cannot open " ++ nameInQuotes path ++ " for writing: " ++ e.words)
        return 1
      | .ok _ =>
        match ← act (find path) with
        | .error _ => return 1
        | .ok i =>
          act (modifyFiles fun files => files.modify i fun node =>
            match node.content with
            | .data bytes =>
              let old := bytes.size
              let size := match sign with
                | '+' => old + n
                | '-' => old - n
                | '<' => min old n
                | '>' => max old n
                | '/' => if n = 0 then old else old / n * n
                | '%' => if n = 0 then old else (old + n - 1) / n * n
                | _ => n
              let kept := bytes.extract 0 size
              { node with content := .data (pushOctets kept (List.replicate (size - old) '\x00')) }
            | _ => node)
          return 0) 0 g.operands

/-! ## Permissions -/

/-- Four octal digits. -/
def fourDigits (mode : Nat) : String :=
  let digits := Nat.toDigits 8 mode
  shown (List.replicate (4 - digits.length) '0' ++ digits)

/-- How permissions are changed. -/
structure Regulation where
  changes : List PermissionChange
  recursive : Bool
  silent : Bool
  tells : Bool
  /-- Whether only changes are told. -/
  onlyChanges : Bool
  /-- Whether the changes were given behind a dash, so that it is said where the mask stopped them. -/
  dashed : Bool

/-- Changes what is permitted at a path. -/
def regulate (r : Regulation) : Nat → Octets → Tool Nat
  | 0, _ => return 1
  | fuel + 1, path => do
    let complain := fun (text : String) => do
      unless r.silent do warn text
      return 1
    match ← nodeOf path true with
    | .error e => complain ("cannot access " ++ nameInQuotes path ++ ": " ++ e.words)
    | .ok (_, i, n) =>
      if !n.own then
        complain ("changing permissions of " ++ nameInQuotes path ++ ": Operation not permitted")
      else
        let mask := (← act getProcess).mask
        let mode := PermissionChange.applyAll mask n.isDirectory r.changes n.mode
        act (modifyFiles fun files => files.modify i fun n => { n with mode })
        let letters := fun (m : Nat) => shown (permissionLetters m)
        let full := fun (m : Nat) => fourDigits m ++ " (" ++ letters m ++ ")"
        if mode ≠ n.mode && (r.tells || r.onlyChanges) then
          putText ("mode of " ++ nameInQuotes path ++ " changed from " ++ full n.mode ++ " to " ++
            full mode ++ "\n")
        else if r.tells then
          putText ("mode of " ++ nameInQuotes path ++ " retained as " ++ full mode ++ "\n")
        let naive := PermissionChange.applyAll 0 n.isDirectory r.changes n.mode
        let status ← if r.dashed && PermissionChange.without mode naive ≠ 0 then do
            warn (nameText path ++ ": new permissions are " ++ letters mode ++ ", not " ++
              letters naive)
            pure 1
          else pure 0
        if r.recursive && n.isDirectory then
          let node := (← act getFiles).node i
          if !node.allows 4 then
            complain ("cannot read directory " ++ nameInQuotes path ++ ": Permission denied")
          else
            forEach (fun name => regulate r fuel (below path name)) status
              ((← act getFiles).names i)
        else return status

/-- Whether an argument of `chmod` is a mode that starts with a dash. -/
def isDashedMode (a : Octets) : Bool :=
  match a with
  | '-' :: c :: _ => c ∈ "rwxXstugo01234567,+=".toList
  | _ => false

/-- Changes what is permitted with files. -/
def chmodTool (args : List Octets) : Tool Nat := do
  let stop := args.takeWhile (· ≠ ['-', '-'])
  let dashed := stop.filter isDashedMode
  let rest := if dashed.isEmpty then args
    else stop.filter (!isDashedMode ·) ++ args.drop stop.length
  let g ← OptionRules.read { forms := [plain "R" "recursive", plain "c" "changes", plain "f" "silent",
    plain "f" "quiet", plain "v" "verbose", taking "" "reference", plain "" "no-preserve-root",
    plain "" "preserve-root"] } rest
  let named := Octets.join [','] dashed
  let (changes, operands) ← match g.text? "reference", g.operands with
    | some path, operands =>
      match ← nodeOf path true with
      | .ok (_, _, n) =>
        pure ([{ whose := 0o7777, sign := '=', value := n.mode, numeric := true }], operands)
      | .error e => refuse 1 ("failed to get attributes of " ++ nameInQuotes path ++ ": " ++ e.words)
    | none, operands =>
      let (text, operands) ← if !named.isEmpty then pure (named, operands) else
        match operands with
        | [] => misused 1 "missing operand"
        | text :: operands => pure (text, operands)
      if operands.isEmpty then misused 1 ("missing operand after " ++ textInQuotes text)
      match PermissionChange.ofText? text with
      | some changes => pure (changes, operands)
      | none => misused 1 ("invalid mode: " ++ textInQuotes text)
  if operands.isEmpty then misused 1 "missing operand"
  let r : Regulation := {
    changes, recursive := g.has "R", silent := g.has "f", tells := g.has "v"
    onlyChanges := g.has "c", dashed := !named.isEmpty }
  forEach (regulate r 4096) 0 operands

end KctlProbe.Sandbox.Tool
