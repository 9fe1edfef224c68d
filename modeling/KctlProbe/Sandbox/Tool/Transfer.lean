import KctlProbe.Sandbox.Tool.Tree
import KctlProbe.Sandbox.Tool.Words

/-!
# Tools that copy, move and link files

Each of them takes files and a place for them, which is a directory if there are several.
-/

namespace KctlProbe.Sandbox.Tool

/-- How files are copied, moved or linked. -/
structure Transfer where
  recursive : Bool := false
  forced : Bool := false
  asks : Bool := false
  /-- Whether existing files are left alone. -/
  keeps : Bool := false
  /-- Whether existing files are left alone that are not older. -/
  newer : Bool := false
  preserves : Bool := false
  tells : Bool := false
  /-- Whether links are made in place of copies. -/
  links : Bool := false
  symbolic : Bool := false
  /-- Whether a link is copied as a link. -/
  copiesLinks : Bool := false

/-- Copies what a stream delivers into a file. -/
def fillFile (source target : Nat) : Tool Bool := do
  match ← act (drainStream source) with
  | .error e =>
    warn ("error reading: " ++ e.words)
    return false
  | .ok (text, cut) =>
    match ← act (writeStream target text) with
    | .error e =>
      warn ("error writing: " ++ e.words)
      return false
    | .ok () =>
      if cut then starve
      return true

/-- Copies the data of a file. -/
def copyData (r : Transfer) (source target : Octets) (n : Node) (existing : Bool) : Tool Nat := do
  match ← act (openToRead source) with
  | .error e =>
    warn ("cannot open " ++ nameInQuotes source ++ " for reading: " ++ e.words)
    return 1
  | .ok input =>
    let fail := fun (e : Errno) => do
      let e := if e = .isDirectory then .notDirectory else e
      done "cannot create regular file" target (.error e)
    let create := act (openFileAt target
      { writes := true, creates := true, truncates := true, mode := n.mode &&& 0o777 })
    let opened ← if existing then act (openFileAt target { writes := true, truncates := true }) else create
    let opened ← match opened with
      | .error e =>
        if existing && r.forced then
          match ← act (removeFile target) with
          | .ok () => create
          | .error _ => pure (.error e)
        else pure (.error e)
      | opened => pure opened
    match opened with
    | .error e => fail e
    | .ok output =>
      let filled ← fillFile input output
      if r.preserves then
        match ← act (find target) with
        | .ok i => act (modifyFiles fun files => files.modify i fun t =>
            { t with mode := n.mode, time := n.time })
        | .error _ => pure ()
      return if filled then 0 else 1

/-- Copies what is at a path. -/
def copyTo (r : Transfer) : Nat → Bool → Octets → Octets → Tool Nat
  | 0, _, _, _ => return 1
  | fuel + 1, outer, source, target => do
    match ← nodeOf source (!(r.copiesLinks || r.symbolic)) with
    | .error e => done "cannot stat" source (.error e)
    | .ok (_, i, n) =>
      if n.isDirectory && !r.recursive then
        warn ("-r not specified; omitting directory " ++ nameInQuotes source)
        return 1
      let isLink := match n.content with
        | .link _ => true
        | _ => false
      let there ← nodeOf target (!isLink)
      let tell := do
        if r.tells then putText (nameInQuotes source ++ " -> " ++ nameInQuotes target ++ "\n")
      match there with
      | .ok (_, j, t) =>
        if i = j && !r.links then
          warn (nameInQuotes source ++ " and " ++ nameInQuotes target ++ " are the same file")
          return 1
        if t.isDirectory && !n.isDirectory then
          warn ("cannot overwrite directory " ++ nameInQuotes target ++ " with non-directory")
          return 1
        if !t.isDirectory && n.isDirectory then
          warn ("cannot overwrite non-directory " ++ nameInQuotes target ++ " with directory " ++
            nameInQuotes source)
          return 1
        if !n.isDirectory then
          if r.keeps || (r.newer && n.time ≤ t.time) then return 0
          if r.asks then
            if !(← confirmed ("overwrite " ++ nameInQuotes target)) then return 1
      | .error _ => pure ()
      match n.content with
      | .directory _ _ =>
        let names := (← act getFiles).names i
        let ready ← match there with
          | .ok _ => pure (.ok ())
          | .error _ => do
            tell
            act (makeDirectory target 0o777)
        match ready with
        | .error e => done "cannot create directory" target (.error e)
        | .ok () =>
          let inside ← if outer then do
              let files ← act getFiles
              match ← nodeOf target true with
              | .ok (_, j, _) =>
                let rec within : Nat → Nat → Bool
                  | 0, _ => false
                  | fuel + 1, k => k = i || (k ≠ 0 && within fuel (files.parent k))
                pure (within files.nodes.size j)
              | .error _ => pure false
            else pure false
          if inside then
            warn ("cannot copy a directory, " ++ nameInQuotes source ++ ", into itself, " ++
              nameInQuotes target)
            return 1
          if !n.allows 4 then
            warn ("cannot access " ++ nameInQuotes source ++ ": Permission denied")
            return 1
          let status ← forEach (fun name =>
            copyTo { r with copiesLinks := true } fuel false (below source name) (below target name))
            0 names
          match there with
          | .ok _ => pure ()
          | .error _ =>
            let mask := (← act getProcess).mask
            setPermissions target (if r.preserves then n.mode
              else PermissionChange.without (n.mode &&& 0o777) mask)
          return status
      | .link destination =>
        tell
        match ← lookAt target false with
        | .error e => done "cannot create symbolic link" target (.error e)
        | .ok (s, _) =>
          match ← act (createAt s 0o777 (.link destination)) with
          | .ok _ => return 0
          | .error e => done "cannot create symbolic link" target (.error e)
      | _ =>
        tell
        if r.links || r.symbolic then
          match ← lookAt target false with
          | .error e => done "cannot create link" target (.error e)
          | .ok (s, _) =>
            if s.node.isSome then
              if i = s.node.getD 0 then return 0
              let _ ← act (removeFile target)
            if r.symbolic then
              match ← act (createAt s 0o777 (.link source)) with
              | .ok _ => return 0
              | .error e => done "cannot create symbolic link" target (.error e)
            else
              act (modifyFiles fun files => files.enter s.directory s.name i)
              return 0
        else copyData r source target n there.toOption.isSome

/-- Moves what is at a path. -/
def moveTo (r : Transfer) (source target : Octets) : Tool Nat := do
  match ← nodeOf source false with
  | .error e => done "cannot stat" source (.error e)
  | .ok (place, i, n) =>
    let fail := fun (e : Errno) => do
      warn ("cannot move " ++ nameInQuotes source ++ " to " ++ nameInQuotes target ++ ": " ++ e.words)
      return 1
    let plainTarget := withoutSlashes target
    match ← lookAt plainTarget false with
    | .error e => fail e
    | .ok (goal, t) =>
      if t.isNone && target ≠ plainTarget && !n.isDirectory then fail .notDirectory
      else
        let files ← act getFiles
        let rec within : Nat → Nat → Bool
          | 0, _ => false
          | fuel + 1, k => k = i || (k ≠ 0 && within fuel (files.parent k))
        if n.isDirectory && within files.nodes.size goal.directory then
          warn ("cannot move " ++ nameInQuotes source ++ " to a subdirectory of itself, " ++
            nameInQuotes target)
          return 1
        match t with
        | some t =>
          if goal.node = some i then
            warn (nameInQuotes source ++ " and " ++ nameInQuotes target ++ " are the same file")
            return 1
          if t.isDirectory && !n.isDirectory then
            warn ("cannot overwrite directory " ++ nameInQuotes target ++ " with non-directory")
            return 1
          if !t.isDirectory && n.isDirectory then
            warn ("cannot overwrite non-directory " ++ nameInQuotes target ++ " with directory " ++
              nameInQuotes source)
            return 1
          if !n.isDirectory then
            if r.keeps || (r.newer && n.time ≤ t.time) then return 0
            if r.asks then
              if !(← confirmed ("overwrite " ++ nameInQuotes target)) then return 1
        | none => pure ()
        if place.name.isEmpty then fail .busy
        else if !((← act (canChange place.directory)) && (← act (canChange goal.directory))) then
          fail .denied
        else if t.isSome && n.isDirectory && !((goal.node.map files.entries).getD []).isEmpty then
          warn ("cannot overwrite " ++ nameInQuotes target ++ ": Directory not empty")
          return 1
        else
          act (modifyFiles fun files =>
            let files := files.leave place.directory place.name
            let files := files.enter goal.directory goal.name i
            files.modify i fun n =>
              match n.content with
              | .directory _ entries => { n with content := .directory goal.directory entries }
              | _ => n)
          if r.tells then
            putText ("renamed " ++ nameInQuotes source ++ " -> " ++ nameInQuotes target ++ "\n")
          return 0

/-- Where files go: a directory, or one path. -/
inductive Goal where
  | inside (directory : Octets)
  | at (path : Octets)

/-- The path that a file gets. -/
def Goal.pathFor (goal : Goal) (source : Octets) : Octets :=
  match goal with
  | .inside d => below d (lastName source)
  | .at path => path

/-- Whether a path leads to a directory, or why not. -/
def directoryAt (path : Octets) (through : Bool) : Tool (Except Errno Unit) := do
  match ← nodeOf path through with
  | .error e => return .error e
  | .ok (_, _, n) => return if n.isDirectory then .ok () else .error .notDirectory

/-- The files and their goal. -/
def goalOf (g : Given) (through : Bool) : Tool (List Octets × Goal) := do
  let refuseTarget := fun (what : String) (d : Octets) (e : Errno) =>
    (refuse 1 (what ++ " " ++ nameInQuotes d ++ ": " ++ e.words) : Tool Unit)
  match g.text? "t" with
  | some d =>
    if g.operands.isEmpty then misused 1 "missing file operand"
    match ← directoryAt d true with
    | .ok () => pure ()
    | .error e => refuseTarget "target directory" d e
    return (g.operands, .inside d)
  | none =>
    match g.operands with
    | [] => misused 1 "missing file operand"
    | [a] => misused 1 ("missing destination file operand after " ++ nameInQuotes a)
    | operands =>
      let files := operands.dropLast
      let target := operands.getLast?.getD []
      if g.has "T" then
        if 1 < files.length then
          misused 1 ("extra operand " ++ nameInQuotes (operands[2]?.getD []))
        return (files, .at target)
      match ← directoryAt target through with
      | .ok () => return (files, .inside target)
      | .error e =>
        if 1 < files.length then refuseTarget "target" target e
        return (files, .at target)

/-- The options that `cp` and `mv` share. -/
def transferForms : List OptionForm :=
  [plain "f" "force", plain "i" "interactive", plain "n" "no-clobber", taking "t" "target-directory",
    plain "T" "no-target-directory", { letters := ['u'], word := "update", follows := .nothing },
    plain "v" "verbose", plain "b" "", taking "S" "suffix", plain "" "strip-trailing-slashes",
    { letters := ['Z'], word := "context", follows := .nothing }]

/-- What the options of `cp` and `mv` say. -/
def transferOf (g : Given) : Transfer :=
  { forced := g.has "f"
    asks := g.last? ["f", "i", "n"] = some "i"
    keeps := g.last? ["i", "n"] = some "n"
    newer := g.has "u"
    tells := g.has "v" }

/-- Copies files. -/
def cpTool (args : List Octets) : Tool Nat := do
  let g ← OptionRules.read { forms := transferForms ++ [plain "a" "archive", plain "d" "",
    plain "p" "", { word := "preserve", follows := .maybe }, plain "rR" "recursive", plain "l" "link",
    plain "s" "symbolic-link", plain "P" "no-dereference", plain "L" "dereference", plain "H" "",
    plain "x" "one-file-system", { word := "reflink", follows := .maybe }] } args
  if g.has "n" then
    warn ("warning: behavior of -n is non-portable and may change in future; " ++
      "use --update=none instead")
  let r := { transferOf g with
    recursive := g.has "r" || g.has "a"
    preserves := g.has "p" || g.has "a" || g.has "preserve"
    links := g.has "l"
    symbolic := g.has "s"
    copiesLinks := (g.has "r" || g.has "a" || g.has "d" || g.has "P") && !g.has "L"
    asks := g.last? ["i", "n"] = some "i" }
  let (files, goal) ← goalOf g true
  forEach (fun source => copyTo r 4096 true source (goal.pathFor source)) 0 files

/-- Moves files. -/
def mvTool (args : List Octets) : Tool Nat := do
  let g ← OptionRules.read { forms := transferForms } args
  let (files, goal) ← goalOf g true
  forEach (fun source => moveTo (transferOf g) (withoutSlashes source) (goal.pathFor source)) 0 files

/-- Makes one link. -/
def linkTo (symbolic forced asks tells : Bool) (target path : Octets) : Tool Nat := do
  let source ← if symbolic then pure none else some <$> nodeOf target false
  match source with
  | some (.error e) => done "failed to access" target (.error e)
  | source =>
    let isDirectory := match source with
      | some (.ok (_, _, n)) => n.isDirectory
      | _ => false
    if isDirectory then
      warn (nameText target ++ ": hard link not allowed for directory")
      return 1
    let kind := if symbolic then "failed to create symbolic link " else "failed to create hard link "
    let fail := fun (e : Errno) => do
      let arrow := if symbolic || e = .alreadyExists then "" else " => " ++ nameInQuotes target
      warn (kind ++ nameInQuotes path ++ arrow ++ ": " ++ e.words)
      return 1
    match ← lookAt path false with
    | .error e => fail e
    | .ok (s, old) =>
      let create := do
        let made ← match source with
          | some (.ok (_, i, _)) => do
            if ← act (canChange s.directory) then
              act (modifyFiles fun files => files.enter s.directory s.name i)
              pure (.ok ())
            else pure (.error .denied)
          | _ =>
            if target.isEmpty then pure (.error .noEntry)
            else do pure ((← act (createAt s 0o777 (.link target))).map fun _ => ())
        match made with
        | .error e => fail e
        | .ok () =>
          if tells then
            putText (nameInQuotes path ++ (if symbolic then " -> " else " => ") ++
              nameInQuotes target ++ "\n")
          return 0
      match old with
      | none => create
      | some n =>
        if n.isDirectory && (forced || asks) then
          warn (nameText path ++ ": cannot overwrite directory")
          return 1
        let replaces ← if asks then confirmed ("replace " ++ nameInQuotes path) else pure forced
        if !replaces then
          if asks then return 1 else fail .alreadyExists
        else
          let same := match source with
            | some (.ok (_, i, _)) => s.node == some i
            | _ => false
          if same then
            warn (nameInQuotes target ++ " and " ++ nameInQuotes path ++ " are the same file")
            return 1
          match ← act (removeName s) with
          | .error e =>
            warn ("cannot remove " ++ nameInQuotes path ++ ": " ++ e.words)
            return 1
          | .ok () => create

/-- Makes links. -/
def lnTool (args : List Octets) : Tool Nat := do
  let g ← OptionRules.read { forms := [plain "s" "symbolic", plain "f" "force", plain "i" "interactive",
    plain "n" "no-dereference", plain "T" "no-target-directory", taking "t" "target-directory",
    plain "v" "verbose", plain "L" "logical", plain "P" "physical", plain "r" "relative",
    plain "b" "", plain "d" "directory", plain "F" "", taking "S" "suffix"] } args
  let (files, goal) ← match g.operands with
    | [a] =>
      if g.has "t" || g.has "T" then goalOf g (!g.has "n")
      else pure ([a], Goal.inside ['.'])
    | _ => goalOf g (!g.has "n")
  let alone := g.operands.length = 1 && !g.has "t"
  forEach (fun target =>
    let path := if alone then lastName target else goal.pathFor target
    linkTo (g.has "s") (g.last? ["f", "i"] = some "f") (g.last? ["f", "i"] = some "i") (g.has "v")
      target path) 0 files

/-- Makes one link to a file. -/
def linkTool (args : List Octets) : Tool Nat := do
  let g ← OptionRules.read { forms := [] } args
  match g.operands with
  | [] => misused 1 "missing operand"
  | [a] => misused 1 ("missing operand after " ++ textInQuotes a)
  | [a, b] =>
    match ← nodeOf a false, ← lookAt b false with
    | .ok (_, i, n), .ok (s, none) =>
      if n.isDirectory then
        refuse 1 ("cannot create link " ++ nameInQuotes b ++ " to " ++ nameInQuotes a ++
          ": Operation not permitted")
      act (modifyFiles fun files => files.enter s.directory s.name i)
      return 0
    | .error e, _ | _, .error e =>
      refuse 1 ("cannot create link " ++ nameInQuotes b ++ " to " ++ nameInQuotes a ++ ": " ++ e.words)
    | _, _ =>
      refuse 1 ("cannot create link " ++ nameInQuotes b ++ " to " ++ nameInQuotes a ++
        ": File exists")
  | _ :: _ :: c :: _ => misused 1 ("extra operand " ++ textInQuotes c)

/-! ## Following links -/

/-- The path of the node that a path leads to, where its last names need not be there. -/
def realPath (path : Octets) (lastMissing : Bool) : Tool (Except Errno Octets) := do
  match ← lookAt path true with
  | .error e => return .error e
  | .ok (s, n) =>
    let files ← act getFiles
    match s.node, n with
    | some i, some n =>
      if n.isDirectory then return .ok (files.pathOf i)
      -- The last name may be that of a link, which leads elsewhere.
      let rec follow : Nat → Octets → Nat → Octets
        | 0, path, _ => path
        | fuel + 1, path, here =>
          match files.spot here path false with
          | .ok s =>
            match s.node.map fun i => (files.node i).content with
            | some (.link target) => follow fuel target s.directory
            | _ => below (files.pathOf s.directory) s.name
          | .error _ => path
      return .ok (follow 40 path (← act getProcess).directory)
    | _, _ =>
      if lastMissing then return .ok (below (files.pathOf s.directory) s.name)
      else return .error .noEntry

/-- Writes where links lead. -/
def readlinkTool (args : List Octets) : Tool Nat := do
  let g ← OptionRules.read { forms := [plain "f" "canonicalize", plain "e" "canonicalize-existing",
    plain "m" "canonicalize-missing", plain "n" "no-newline", plain "q" "quiet", plain "s" "silent",
    plain "v" "verbose", plain "z" "zero"] } args
  if g.operands.isEmpty then misused 1 "missing operand"
  let ending := if g.has "z" then ['\x00'] else if g.has "n" && g.operands.length = 1 then [] else ['\n']
  forEach (fun path => do
    let found ← match g.last? ["f", "e", "m"] with
      | some k => realPath path (k ≠ "e")
      | none =>
        match ← nodeOf path false with
        | .error e => pure (.error e)
        | .ok (_, _, n) =>
          match n.content with
          | .link target => pure (.ok target)
          | _ => pure (.error .invalid)
    match found with
    | .ok target =>
      put (target ++ ending)
      return 0
    | .error e =>
      if g.last? ["q", "s", "v"] = some "v" then warnOf path e
      return 1) 0 g.operands

/-- Writes the real paths of files. -/
def realpathTool (args : List Octets) : Tool Nat := do
  let g ← OptionRules.read { forms := [plain "e" "canonicalize-existing",
    plain "m" "canonicalize-missing", plain "L" "logical", plain "P" "physical", plain "q" "quiet",
    plain "s" "strip", plain "s" "no-symlinks", plain "z" "zero", taking "" "relative-to",
    taking "" "relative-base"] } args
  if g.operands.isEmpty then misused 1 "missing operand"
  forEach (fun path => do
    match ← realPath path (!g.has "e") with
    | .ok target =>
      put (target ++ [if g.has "z" then '\x00' else '\n'])
      return 0
    | .error e =>
      unless g.has "q" do warnOf path e
      return 1) 0 g.operands

end KctlProbe.Sandbox.Tool
