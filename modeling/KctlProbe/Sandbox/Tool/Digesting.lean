import KctlProbe.Sandbox.Digest
import KctlProbe.Sandbox.Tool.Reading

/-!
# Tools for digests

The tools that write the digests of files, or check those that are listed in a file.
-/

namespace KctlProbe.Sandbox.Tool

/-- A kind of digest. -/
structure DigestKind where
  title : String
  digest : Octets → Octets
  /-- The number of its digits. -/
  size : Nat

/-- A line that names a file and its digest. -/
structure DigestLine where
  digest : Octets
  path : Octets

/-- What a line of a list says, if it says something. -/
def DigestKind.line? (k : DigestKind) (line : Octets) : Option DigestLine :=
  let tag := k.title.toList ++ " (".toList
  if tag.isPrefixOf line then
    let rest := line.drop tag.length
    let mark := ") = ".toList
    let start := rest.length - k.size - mark.length
    if mark.isPrefixOf (rest.drop start) then
      some ⟨rest.drop (start + mark.length), rest.take start⟩
    else none
  else
    let line := line.dropWhile fun c => c == ' ' || c == '\t'
    let digest := line.take k.size
    match line.drop k.size with
    | ' ' :: m :: path =>
      if digest.length = k.size && digest.all (isDigitOf 16) && (m == ' ' || m == '*') && !path.isEmpty then
        some ⟨digest, path⟩
      else none
    | _ => none

/-- A number with a word that is written for one or for many. -/
def counted (n : Nat) (one many : String) : String :=
  shown (Octets.ofNat n) ++ " " ++ if n = 1 then one else many

/-- Checks the digests that are listed in a file. -/
def checkDigests (k : DigestKind) (g : Given) (path : Octets) : Tool Nat := do
  let title := if path = ['-'] then "'standard input'" else nameText path
  match ← drainOperand path with
  | .error e =>
    warn (title ++ ": " ++ e.words)
    return 1
  | .ok (text, cut) =>
    if cut then starve
    let lines := (linesOf '\n' text).map k.line?
    let right := lines.filterMap id
    if right.isEmpty then
      warn (title ++ ": no properly formatted checksum lines found")
      return 1
    let silent := g.has "status"
    let (wrong, unread) ← right.foldlM (fun ((wrong, unread) : Nat × Nat) l => do
      match ← drainOperand l.path with
      | .error e =>
        if g.has "ignore-missing" && e = .noEntry then return (wrong, unread)
        warn (nameText l.path ++ ": " ++ e.words)
        unless silent do put (l.path ++ ": FAILED open or read\n".toList)
        return (wrong, unread + 1)
      | .ok (text, cut) =>
        if cut then starve
        if k.digest text = l.digest.map Char.toLower then
          unless silent || g.has "quiet" do put (l.path ++ ": OK\n".toList)
          return (wrong, unread)
        else
          unless silent do put (l.path ++ ": FAILED\n".toList)
          return (wrong + 1, unread)) (0, 0)
    let bad := lines.length - right.length
    unless silent do
      if bad ≠ 0 then
        warn ("WARNING: " ++ counted bad "line is" "lines are" ++ " improperly formatted")
      if unread ≠ 0 then
        warn ("WARNING: " ++ counted unread "listed file" "listed files" ++ " could not be read")
      if wrong ≠ 0 then
        warn ("WARNING: " ++ counted wrong "computed checksum" "computed checksums" ++ " did NOT match")
    return if wrong ≠ 0 || unread ≠ 0 || (bad ≠ 0 && g.has "strict") then 1 else 0

/-- Writes the digests of files, or checks them. -/
def digestTool (k : DigestKind) (args : List Octets) : Tool Nat := do
  let g ← OptionRules.read { forms := [plain "b" "binary", plain "c" "check", plain "t" "text",
    plain "w" "warn", plain "z" "zero", plain "" "tag", plain "" "quiet", plain "" "status",
    plain "" "strict", plain "" "ignore-missing"] } args
  if !g.has "c" then
    for key in ["status", "quiet", "strict", "ignore-missing"] do
      if g.has key then
        misused 1 ("the --" ++ key ++ " option is meaningful only when verifying checksums")
  if g.has "c" then forEach (checkDigests k g) 0 (orInput g.operands)
  else
    let ending := if g.has "z" then '\x00' else '\n'
    forEach (fun path => do
      match ← drainOperand path with
      | .error e =>
        warnOf path e
        return 1
      | .ok (text, cut) =>
        if cut then starve
        let digest := k.digest text
        let escaped := path.any (fun c => c == '\\' || c == '\n' || c == '\r') && !g.has "z"
        let name := if !escaped then path else path.flatMap fun c =>
          match c with
          | '\\' => "\\\\".toList
          | '\n' => "\\n".toList
          | '\r' => "\\r".toList
          | c => [c]
        let front := if escaped then ['\\'] else []
        let binary := g.last? ["b", "t"] = some "b"
        put (if g.has "tag" then
            front ++ k.title.toList ++ " (".toList ++ name ++ ") = ".toList ++ digest ++ [ending]
          else front ++ digest ++ [' ', if binary then '*' else ' '] ++ name ++ [ending])
        return 0) 0 (orInput g.operands)

/-- The tools for digests by their names. -/
def digestKind? (name : String) : Option DigestKind :=
  match name with
  | "md5sum" => some ⟨"MD5", Digest.md5, 32⟩
  | "sha1sum" => some ⟨"SHA1", Digest.sha1, 40⟩
  | "sha224sum" => some ⟨"SHA224", Digest.sha224, 56⟩
  | "sha256sum" => some ⟨"SHA256", Digest.sha256, 64⟩
  | "sha384sum" => some ⟨"SHA384", Digest.sha384, 96⟩
  | "sha512sum" => some ⟨"SHA512", Digest.sha512, 128⟩
  | _ => none

end KctlProbe.Sandbox.Tool
