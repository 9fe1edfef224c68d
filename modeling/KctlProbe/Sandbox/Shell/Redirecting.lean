import KctlProbe.Sandbox.Shell.Field

/-!
# Redirections

A redirection makes a descriptor refer to a file, to what another descriptor refers to, or to a
document of the script. Most of them hold for one command, after which the descriptors are as they
were before.
-/

namespace KctlProbe.Sandbox

open Script

/-- Refuses a script while it is run, at the line up to which it was read. -/
def refuseScript {α : Type} (text : String) : Action α := do
  modifyShell fun s => { s with line := s.lineRead }
  fail ("Syntax error: " ++ text)

/-- Expands the words of redirections. -/
def expandOpenings (capture : Option Command → Action Octets) (rs : List Redirection) :
    Action (List Opening) :=
  rs.mapM fun (descriptor, action, w) => do
    match action with
    | .document _ _ => return ⟨descriptor, action, []⟩
    | .duplicate =>
      let text ← expandText capture { tilde := true } w
      match text with
      | [c] => if c.isDigit || c = '-' then return ⟨descriptor, action, text⟩
      | _ => pure ()
      refuseScript "Bad fd number"
    | action => return ⟨descriptor, action, ← expandText capture { tilde := true } w⟩

/-- Makes a descriptor refer to a file that was opened, or complains. -/
def attachOpened (descriptor : Nat) (what : String) (words : Errno → String) (path : Octets)
    (opened : Except Errno Nat) : Action Unit := do
  match opened with
  | .ok i => attach descriptor i
  | .error e => fail ("cannot " ++ what ++ " " ++ shown path ++ ": " ++ words e)

/-- Opens a file to write to it where existing files are protected. -/
def openProtected (path : Octets) : Action (Except Errno Nat) := do
  match ← find path with
  | .error _ => openFileAt path { writes := true, creates := true, exclusive := true }
  | .ok i =>
    match ((← getFiles).node i).content with
    | .data _ => return .error .alreadyExists
    | .tool _ => return .error .alreadyExists
    | _ => openFileAt path { writes := true }

/-- Makes a redirection. -/
def applyOpening (capture : Option Command → Action Octets) (o : Opening) : Action Unit := do
  let path := o.text
  let d := o.descriptor
  let create := attachOpened d "create" wordsToCreate path
  match o.action with
  | .read => attachOpened d "open" wordsToOpen path (← openToRead path)
  | .readWrite => create (← openFileAt path { reads := true, writes := true, creates := true })
  | .write =>
    if 'C' ∈ (← getShell).options then create (← openProtected path)
    else create (← openToWrite path false)
  | .overwrite => create (← openToWrite path false)
  | .append => create (← openToWrite path true)
  | .duplicate =>
    match path with
    | [c] =>
      if c = '-' then close d
      else
        let from' := c.toNat - '0'.toNat
        unless from' = d do
          match ← streamOf? from' with
          | some i => attach d i
          | none => fail (shown path ++ ": " ++ Errno.badDescriptor.words)
    | _ => pure ()
  | .document number expanded =>
    let w := ((← getShell).documents.lookup number).getD []
    let text ← if expanded then expandText capture { quoted := true } w else pure (plainText w)
    attach d (← newStream (.source text false))

/-- Makes redirections. -/
def applyOpenings (capture : Option Command → Action Octets) : List Opening → Action Unit
  | [] => pure ()
  | o :: os => do
    applyOpening capture o
    applyOpenings capture os

/-- Makes redirections, and says whether they could be made. -/
def tryOpenings (capture : Option Command → Action Octets) (os : List Opening) : Action Bool := do
  tryCatch (do applyOpenings capture os; return true) fun
    | .failed => return false
    | stop => throw stop

/-- Makes the redirected descriptors refer to what they referred to before. -/
def undoOpenings (before : List (Nat × Nat)) (os : List Opening) : Action Unit :=
  modifyProcess fun p =>
    let redirected := os.map (·.descriptor)
    { p with descriptors :=
        before.filter (·.1 ∈ redirected) ++ p.descriptors.filter fun d => !(d.1 ∈ redirected) }

end KctlProbe.Sandbox
