import KctlProbe.Sandbox.Script.Quoting

/-!
# Reading commands

A script is read one complete command at a time, so that what a command changes is known when the
next one is read. Words are read together with the substitutions in them, and the scripts inside
substitutions are read as commands at once. All readers are granted a number of nested steps.
-/

namespace KctlProbe.Sandbox.Script

/-- Refuses the last token. -/
def unexpected {α : Type} (wanted : Option Token) : Reading α := do
  let r ← get
  let text := r.token.describe ++ " unexpected" ++ (match wanted with
    | some t => " (expecting " ++ t.describe ++ ")"
    | none => "")
  refuse text

/-- Says what the next token can be. -/
def check (c : Checks) : Reading Unit :=
  modify fun r => { r with checks := c }

/-- Lets the last token be read again. -/
def tokenAgain : Reading Unit :=
  modify fun r => { r with again := true }

/-- Makes a token the last one. -/
def giveToken (t : Token) : Reading Token := do
  modify fun r => { r with token := t }
  return t

/-- Reads a redirection that starts with `c`. -/
def readRedirection (c : Char) (descriptor : Option Nat) : Reading Unit := do
  if c = '>' then
    let action ← match ← readJoined joinFuel with
      | some '>' => pure .append
      | some '|' => pure .overwrite
      | some '&' => pure .duplicate
      | d => do unreadChar d; pure Redirect.write
    modify fun r => { r with redirect := (descriptor.getD 1, action) }
  else
    let action ← match ← readJoined joinFuel with
      | some '<' => do
        let stripped ← match ← readJoined joinFuel with
          | some '-' => pure true
          | d => do unreadChar d; pure false
        modify fun r => { r with stripped, nextDocument := r.nextDocument + 1 }
        pure (.document ((← get).nextDocument - 1) false)
      | some '&' => pure .duplicate
      | some '>' => pure .readWrite
      | d => do unreadChar d; pure Redirect.read
    modify fun r => { r with redirect := (descriptor.getD 0, action) }

/-- The text of a command between backquotes, without the backslashes that keep it from ending. -/
def readBackquoted (doubled : Bool) : Nat → Octets → Reading Octets
  | 0, _ => refuse "EOF in backquote substitution"
  | fuel + 1, done => do
    match ← readJoined joinFuel with
    | none => refuse "EOF in backquote substitution"
    | some '`' => return done.reverse
    | some '\\' =>
      match ← readChar with
      | none => refuse "EOF in backquote substitution"
      | some c =>
        if c = '\\' ∨ c = '`' ∨ c = '$' ∨ (doubled ∧ c = '"') then
          readBackquoted doubled fuel (c :: done)
        else readBackquoted doubled fuel (c :: '\\' :: done)
    | some c =>
      if c = '\n' then nextLine
      readBackquoted doubled fuel (c :: done)

/-- The name of a parameter in braces or without, from its first character `c` on, and the form
that `${#` gives. The character after the name is left to be read. -/
def readParameterName (braced : Bool) (c : Option Char) : Reading (Option (Octets × Bool)) := do
  match c with
  | none => return none
  | some c =>
    if startsName c then return some (c :: (← readJoinedWhile inName joinFuel []), false)
    else if c.isDigit then
      if braced then return some (c :: (← readJoinedWhile Char.isDigit joinFuel []), false)
      else return some ([c], false)
    else if c = '\x7d' then
      unreadChar (some c)
      return none
    else
      let d ← readJoined joinFuel
      if braced && c = '#' then
        match d with
        | some d =>
          if inName d then
            if d.isDigit then
              return some (d :: (← readJoinedWhile Char.isDigit joinFuel []), true)
            else return some (d :: (← readJoinedWhile inName joinFuel []), true)
          else
            let e ← readJoined joinFuel
            if d = '\x7d' ∨ e ≠ some '\x7d' then
              unreadChar e
              unreadChar (some d)
              return some (['#'], false)
            else
              unreadChar e
              if isSpecial d then return some ([d], true) else return none
        | none => return some (['#'], false)
      else
        unreadChar d
        if isSpecial c then return some ([c], false) else return none

/-- The form after the name of a parameter in braces. -/
def readForm (ofLength : Bool) : Reading (Form × Bool) := do
  let c ← readJoined joinFuel
  if ofLength then
    unreadChar c
    return (if c = some '\x7d' then .length else .bad false, false)
  else
    match c with
    | some '\x7d' => return (.value, false)
    | some ':' =>
      let d ← readJoined joinFuel
      return ((formOf? true d).getD (.bad true), false)
    | some '%' =>
      match ← readJoined joinFuel with
      | some '%' => return (.trimEnd true, true)
      | d => unreadChar d; return (.trimEnd false, true)
    | some '#' =>
      match ← readJoined joinFuel with
      | some '#' => return (.trimStart true, true)
      | d => unreadChar d; return (.trimStart false, true)
    | c => return ((formOf? false c).getD (.bad false), false)

/-- Adds the substitution of a parameter that starts with the character `c` after the dollar
sign. -/
def addParameter (d : Draft) (c : Char) : Reading Draft := do
  let braced := c = '\x7b'
  let first ← if braced then readJoined joinFuel else pure (some c)
  let name ← readParameterName braced first
  let (form, trims) ← match name with
    | none => pure (Form.bad false, false)
    | some (_, ofLength) => if braced then readForm ofLength else pure (Form.value, false)
  let place := if trims then .open else d.level.place
  let place := if place = .calculation then .double else place
  let d := if (place ≠ d.level.place ∨ d.level.inner) ∧ form ≠ .value then
      d.enter { place, own := true, doubled := place ≠ .open }
    else d
  let d := d.add (.parameter ((name.map (·.1)).getD []) form)
  if form = .value then return d
  else
    let l := d.level
    return { d with level := { l with
      depth := l.depth + 1, doubledDepth := if l.doubled then l.doubledDepth + 1 else l.doubledDepth } }

/-- The draft after a quote that opens or closes, which leaves no mark in a document. -/
def Draft.addQuote (d : Draft) (inDocument : Bool) : Draft :=
  if inDocument then d else d.add .quote

/-- The draft after a double quote. -/
def Draft.toggle (d : Draft) (inDocument : Bool) : Draft :=
  let l := d.level
  { d with level := if l.depth ≠ 0 then { l with inner := !l.inner } else l }.addQuote inDocument

/-- Whether the line that starts here ends a document, and how many characters it has. -/
def endsDocument (a : Awaited) (text : Octets) : Option Nat :=
  let tabs := if a.stripped then (text.takeWhile (· = '\t')).length else 0
  let line := text.drop tabs
  if a.endMark.isPrefixOf line then
    match line.drop a.endMark.length with
    | [] => some (tabs + a.endMark.length)
    | c :: _ => if c = '\n' then some (tabs + a.endMark.length + 1) else none
  else none

/-- Passes over characters. -/
def skipChars : Nat → Reading Unit
  | 0 => pure ()
  | n + 1 => do
    let _ ← readChar
    skipChars n

/-- At the start of a line of a document: the character that is read next, or none if the document
ends here. -/
def startLine (document : Option Awaited) : Reading (Option Char) := do
  match document with
  | none => readChar
  | some a =>
    match endsDocument a (← get).rest with
    | some n =>
      skipChars n
      nextLine
      return none
    | none =>
      if a.stripped then
        let _ ← readRun (· = '\t')
      if a.expanded then readJoined joinFuel else readChar

mutual

/-- Reads a list of commands. At the top level it ends with its line; inside a command with a token
that ends lists, which is left; and it can be empty if `optional` holds. -/
def readList (top optional : Bool) : Nat → Option Command → Bool → Reading (Option Command)
  | 0, _, _ => refuse "too long"
  | fuel + 1, done, started => do
    let first : Checks := { newlines := !top, reserved := true, aliases := true }
    check first
    match ← readToken fuel with
    | .newline =>
      readDocuments fuel
      return done
    | .endOfFile =>
      readDocuments fuel
      let _ ← giveToken .endOfFile
      tokenAgain
      if (!started && !top && !optional) then unexpected none
      return done
    | t =>
      tokenAgain
      if (optional || started) && !top && t.endsList then return done
      let c ← readAndOr fuel
      let t ← readToken fuel
      let c := if t = .background then
          match c with
          | .pipeline parts _ => .pipeline parts true
          | .redirected line body rs => .subshell line body rs true
          | .subshell line body rs false => .subshell line (.subshell line body rs false) [] true
          | c => .subshell 0 c [] true
        else c
      let all := match done with
        | some before => Command.sequence before c
        | none => c
      match t with
      | .endOfFile =>
        readDocuments fuel
        let _ ← giveToken .endOfFile
        tokenAgain
        return some all
      | .newline =>
        tokenAgain
        readList top optional fuel (some all) true
      | .background | .semicolon => readList top optional fuel (some all) true
      | _ =>
        if top then unexpected none
        tokenAgain
        return some all

/-- Reads commands joined by what is done if the ones before succeed or fail. -/
def readAndOr : Nat → Reading Command
  | 0 => refuse "too long"
  | fuel + 1 => do
    let c ← readPipeline fuel
    readAndOrRest fuel c

/-- Reads what follows a command on such a list. -/
def readAndOrRest : Nat → Command → Reading Command
  | 0, _ => refuse "too long"
  | fuel + 1, first => do
    match ← readToken fuel with
    | .andIf =>
      check { newlines := true, reserved := true, aliases := true }
      let c ← readPipeline fuel
      readAndOrRest fuel (.andThen first c)
    | .orIf =>
      check { newlines := true, reserved := true, aliases := true }
      let c ← readPipeline fuel
      readAndOrRest fuel (.orElse first c)
    | _ =>
      tokenAgain
      return first

/-- Reads a pipeline, which an exclamation mark negates. -/
def readPipeline : Nat → Reading Command
  | 0 => refuse "too long"
  | fuel + 1 => do
    let negated ← match ← readToken fuel with
      | .reserved "!" =>
        check { reserved := true, aliases := true }
        pure true
      | _ =>
        tokenAgain
        pure false
    let first ← readCommand fuel
    let parts ← readPipes fuel [first]
    let c := match parts with
      | [c] => c
      | parts => .pipeline parts false
    return if negated then .negated c else c

/-- Reads the commands that follow in a pipeline, those before in reverse. -/
def readPipes : Nat → List Command → Reading (List Command)
  | 0, _ => refuse "too long"
  | fuel + 1, done => do
    match ← readToken fuel with
    | .pipe =>
      check { newlines := true, reserved := true, aliases := true }
      let c ← readCommand fuel
      readPipes fuel (c :: done)
    | _ =>
      tokenAgain
      return done.reverse

/-- Reads a list that is not empty. -/
def readBody : Nat → Reading Command
  | 0 => refuse "too long"
  | fuel + 1 => do
    match ← readList false false fuel none false with
    | some c => return c
    | none => unexpected none

/-- Reads a token that must be the one given. -/
def readExpected : Nat → Token → Reading Unit
  | 0, _ => refuse "too long"
  | fuel + 1, t => do
    if (← readToken fuel) ≠ t then unexpected (some t)

/-- Reads a command. -/
def readCommand : Nat → Reading Command
  | 0 => refuse "too long"
  | fuel + 1 => do
    let line := (← get).line
    match ← readToken fuel with
    | .reserved "if" =>
      let c ← readBranches fuel
      readRedirections fuel line c
    | .reserved "while" =>
      let condition ← readBody fuel
      readExpected fuel (.reserved "do")
      let body ← readBody fuel
      readExpected fuel (.reserved "done")
      readRedirections fuel line (.loop true condition body)
    | .reserved "until" =>
      let condition ← readBody fuel
      readExpected fuel (.reserved "do")
      let body ← readBody fuel
      readExpected fuel (.reserved "done")
      readRedirections fuel line (.loop false condition body)
    | .reserved "for" =>
      let t ← readToken fuel
      let r ← get
      match t, r.quoted, bareText? r.word with
      | .word, false, some name =>
        if !isName name then refuse "Bad for loop variable"
        check { newlines := true, reserved := true, aliases := true }
        let words ← match ← readToken fuel with
          | .reserved "in" => do
            let ws ← readWords fuel []
            let t := (← get).token
            if t ≠ .newline ∧ t ≠ .semicolon then unexpected none
            pure ws
          | t => do
            if t ≠ .semicolon then tokenAgain
            pure [[.quote, .parameter ['@'] .value, .quote]]
        check { newlines := true, reserved := true, aliases := true }
        readExpected fuel (.reserved "do")
        let body ← readBody fuel
        readExpected fuel (.reserved "done")
        readRedirections fuel line (.forEach line name words body)
      | _, _, _ => refuse "Bad for loop variable"
    | .reserved "case" =>
      readExpected fuel .word
      let word := (← get).word
      check { newlines := true, reserved := true, aliases := true }
      readExpected fuel (.reserved "in")
      let cases ← readCases fuel []
      readRedirections fuel line (.select line word cases)
    | .opening =>
      let body ← readBody fuel
      readExpected fuel .closing
      readRedirections fuel line (.subshell line body [] false)
    | .reserved "\x7b" =>
      let body ← readBody fuel
      readExpected fuel (.reserved "\x7d")
      readRedirections fuel line body
    | .word | .redirection =>
      tokenAgain
      readSimple fuel line true [] [] []
    | _ => unexpected none

/-- Reads the branches of a choice, from its condition to its end. -/
def readBranches : Nat → Reading Command
  | 0 => refuse "too long"
  | fuel + 1 => do
    let condition ← readBody fuel
    readExpected fuel (.reserved "then")
    let body ← readBody fuel
    match ← readToken fuel with
    | .reserved "elif" =>
      let rest ← readBranches fuel
      return .choice condition body (some rest)
    | .reserved "else" =>
      let rest ← readBody fuel
      readExpected fuel (.reserved "fi")
      return .choice condition body (some rest)
    | .reserved "fi" => return .choice condition body none
    | _ => unexpected (some (.reserved "fi"))

/-- Reads words up to another token, those before in reverse. -/
def readWords : Nat → List Word → Reading (List Word)
  | 0, _ => refuse "too long"
  | fuel + 1, done => do
    match ← readToken fuel with
    | .word => readWords fuel ((← get).word :: done)
    | _ => return done.reverse

/-- Reads the cases of a selection, those before in reverse. -/
def readCases : Nat → List (List Word × Option Command) →
    Reading (List (List Word × Option Command))
  | 0, _ => refuse "too long"
  | fuel + 1, done => do
    check { newlines := true, reserved := true }
    let t ← readToken fuel
    if t = .reserved "esac" then return done.reverse
    if t = .opening then
      let _ ← readToken fuel
    let patterns ← readPatterns fuel []
    let body ← readList false true fuel none false
    check { newlines := true, reserved := true }
    let t ← readToken fuel
    if t = .reserved "esac" then return ((patterns, body) :: done).reverse
    else if t = .endCase then readCases fuel ((patterns, body) :: done)
    else unexpected (some .endCase)

/-- Reads the patterns of a case whose first word was read, those before in reverse. -/
def readPatterns : Nat → List Word → Reading (List Word)
  | 0, _ => refuse "too long"
  | fuel + 1, done => do
    let done := (← get).word :: done
    match ← readToken fuel with
    | .pipe =>
      let _ ← readToken fuel
      readPatterns fuel done
    | .closing => return done.reverse
    | _ => unexpected (some .closing)

/-- Reads the redirections after a command that has a body. -/
def readRedirections : Nat → Nat → Command → Reading Command
  | 0, _, _ => refuse "too long"
  | fuel + 1, line, c => do
    check { reserved := true, aliases := true }
    let rs ← readTargets fuel []
    match rs, c with
    | [], c => return c
    | rs, .subshell line body _ inBackground => return .subshell line body rs inBackground
    | rs, c => return .redirected line c rs

/-- Reads redirections, those before in reverse. -/
def readTargets : Nat → List Redirection → Reading (List Redirection)
  | 0, _ => refuse "too long"
  | fuel + 1, done => do
    match ← readToken fuel with
    | .redirection =>
      let r ← readTarget fuel
      readTargets fuel (r :: done)
    | _ =>
      tokenAgain
      return done.reverse

/-- Reads the word that the last redirection goes to. -/
def readTarget : Nat → Reading Redirection
  | 0 => refuse "too long"
  | fuel + 1 => do
    let (descriptor, action) := (← get).redirect
    let stripped := (← get).stripped
    match action with
    | .document number _ =>
      check { endMark := true }
      if (← readToken fuel) ≠ .word then unexpected none
      let r ← get
      let expanded := !r.quoted
      let a : Awaited := { number, expanded, stripped, endMark := plainText r.word }
      set { r with awaited := r.awaited ++ [a] }
      return (descriptor, .document number expanded, [])
    | action =>
      if (← readToken fuel) ≠ .word then unexpected none
      return (descriptor, action, (← get).word)

/-- Reads the assignments, words and redirections of a simple command, those before in reverse. An
alias or an assignment can only stand where no word was before. -/
def readSimple : Nat → Nat → Bool → List Word → List Word → List Redirection → Reading Command
  | 0, _, _, _, _, _ => refuse "too long"
  | fuel + 1, line, atStart, assignments, words, rs => do
    check { aliases := atStart }
    match ← readToken fuel with
    | .word =>
      let w := (← get).word
      if atStart && isAssignment w then
        readSimple fuel line atStart (w :: assignments) words rs
      else readSimple fuel line false assignments (w :: words) rs
    | .redirection =>
      let r ← readTarget fuel
      readSimple fuel line atStart assignments words (r :: rs)
    | .opening =>
      match assignments, words, rs with
      | [], [w], [] =>
        readExpected fuel .closing
        match bareText? w with
        | some name =>
          if !isName name || name ∈ ["break", "continue", "eval", "exec", "exit", "export",
              "local", "readonly", "return", "set", "shift", "times", "trap", "unset"].map
              String.toList then
            refuse "Bad function name"
          check { newlines := true, reserved := true, aliases := true }
          let line := (← get).line
          let body ← readCommand fuel
          return .define line name body
        | none => refuse "Bad function name"
      | _, _, _ =>
        tokenAgain
        return .simple line assignments.reverse words.reverse rs.reverse
    | _ =>
      tokenAgain
      return .simple line assignments.reverse words.reverse rs.reverse

/-- Reads the here documents that start at this line. -/
def readDocuments : Nat → Reading Unit
  | 0 => refuse "too long"
  | fuel + 1 => do
    match (← get).awaited with
    | [] => pure ()
    | a :: rest =>
      modify fun r => { r with awaited := rest }
      let place := if a.expanded then Place.double else .single
      let c ← startLine (some a)
      let (d, _) ← readMarks fuel (some a) c { level := { place, doubled := a.expanded } }
      modify fun r => { r with documents := (a.number, d.marks.reverse) :: r.documents }
      readDocuments fuel

/-- Reads a token. -/
def readToken : Nat → Reading Token
  | 0 => refuse "too long"
  | fuel + 1 => do
    let wanted := (← get).checks
    let t ← readAnyToken fuel
    let t ← if wanted.newlines then passNewlines fuel t else pure t
    let r ← get
    let reserved := wanted.reserved || r.checks.reserved
    let aliases := wanted.aliases || r.checks.aliases
    check {}
    if t ≠ .word ∨ r.quoted then return t
    match bareText? r.word with
    | none => return t
    | some text =>
      if reserved && shown text ∈ reservedWords then giveToken (.reserved (shown text))
      else if aliases && r.inputs.all (·.name ≠ some text) then
        match r.aliases.lookup text with
        | some value =>
          unless value.isEmpty do
            let last := value.getLast?
            modify fun r => { r with inputs :=
              { text := value, name := some text,
                goesOn := last = some ' ' || last = some '\t' } :: r.inputs }
          check { wanted with reserved, aliases := true }
          readToken fuel
        | none => return t
      else return t

/-- Reads the token after newlines. -/
def passNewlines : Nat → Token → Reading Token
  | 0, _ => refuse "too long"
  | fuel + 1, t => do
    if t = .newline then
      readDocuments fuel
      check {}
      let t ← readAnyToken fuel
      passNewlines fuel t
    else return t

/-- Reads a token, for which words and reserved words are the same. -/
def readAnyToken : Nat → Reading Token
  | 0 => refuse "too long"
  | fuel + 1 => do
    if (← get).again then
      modify fun r => { r with again := false }
      return (← get).token
    let single := fun (c : Char) (double once : Token) => do
      match ← readJoined joinFuel with
      | some d =>
        if c = d then giveToken double
        else
          unreadChar (some d)
          giveToken once
      | none => giveToken once
    match ← readJoined joinFuel with
    | some ' ' | some '\t' => readAnyToken fuel
    | some '#' =>
      let _ ← readRun (· ≠ '\n')
      readAnyToken fuel
    | some '\n' =>
      nextLine
      giveToken .newline
    | none => giveToken .endOfFile
    | some '&' => single '&' .andIf .background
    | some '|' => single '|' .orIf .pipe
    | some ';' => single ';' .endCase .semicolon
    | some '(' => giveToken .opening
    | some ')' => giveToken .closing
    | c =>
      let (d, c) ← readMarks fuel none c { level := { place := .open } }
      let number := match d.marks with
        | [] => some none
        | [.char n] => if n.isDigit then some (some (n.toNat - '0'.toNat)) else none
        | _ => none
      match c, d.quotes, number with
      | some '<', 0, some n =>
        readRedirection '<' n
        giveToken .redirection
      | some '>', 0, some n =>
        readRedirection '>' n
        giveToken .redirection
      | c, _, _ =>
        unreadChar c
        modify fun r => { r with word := d.marks.reverse, quoted := d.quotes ≠ 0 }
        giveToken .word

/-- Reads the marks of a word or a document from the character `c` on, and the character that ends
it. -/
def readMarks (fuel : Nat) (document : Option Awaited) (c : Option Char) (d : Draft) :
    Reading (Draft × Option Char) :=
  match fuel with
  | 0 => refuse "too long"
  | fuel + 1 => do
    let l := d.level
    let next := fun (d : Draft) => do
      let c ← if d.level.place = .single then readChar else readJoined joinFuel
      readMarks fuel document c d
    let close := do
      if l.place = .calculation then refuse "Missing '))'"
      if l.place ≠ .open ∧ document.isNone then refuse "Unterminated quoted string"
      if l.depth ≠ 0 then refuse "Missing '\x7d'"
      return (d, c)
    match c with
    | none => close
    | some c =>
      if isOrdinary l.place c then
        let run ← readRun (isOrdinary l.place)
        next ((d.add (.char c)).addChars run)
      else if c = '\n' then
        if l.place = .open ∧ l.depth = 0 then close
        else
          nextLine
          let c ← startLine document
          readMarks fuel document c (d.add (.char '\n'))
      else if l.place = .single then
        if c = '\'' then
          if document.isSome && l.depth = 0 then next (d.add (.char c))
          else
            let l := if l.doubledDepth = 0 then { l with place := .open, doubled := false } else l
            next ({ d with level := l, quotes := d.quotes + 1 }.addQuote document.isSome)
        else next (d.add (if document.isNone || l.doubled then .escaped c else .char c))
      else if c = '\\' then
        match ← readChar with
        | none => next (d.add (.escaped '\\'))
        | some e =>
          let kept := l.doubled && e ≠ '\\' && e ≠ '`' && e ≠ '$' &&
            (e ≠ '"' || (document.isSome && l.depth = 0)) && (e ≠ '\x7d' || l.depth = 0)
          let d := if kept then d.add (.escaped '\\') else d
          if e = '\n' then nextLine
          next { d.add (.escaped e) with quotes := d.quotes + 1 }
      else if c = '"' then
        if l.place = .double then
          if document.isSome && l.depth = 0 then next (d.add (.char c))
          else
            let l := if l.doubledDepth = 0 then { l with place := .open, doubled := false } else l
            next ({ d with level := l, quotes := d.quotes + 1 }.toggle document.isSome)
        else if l.place = .open then
          next ({ d with level := { l with place := .double, doubled := true } }.toggle
            document.isSome)
        else next (d.add (.char c))
      else if c = '\'' then
        next ({ d with level := { l with place := .single } }.addQuote document.isSome)
      else if c = '$' then
        let d ← addSubstitution fuel d
        next d
      else if c = '`' then
        if (← get).checks.endMark then next (d.add (.char c))
        else
          let text ← readBackquoted l.doubled fuel []
          let r ← get
          set { r with inputs := [{ text }], line := 1, again := false, awaited := [], checks := {} }
          let body ← readList false true fuel none false
          let inner ← get
          set { r with
            documents := inner.documents, nextDocument := inner.nextDocument, again := false }
          if inner.token ≠ .endOfFile then
            modify fun r => { r with token := inner.token }
          next (d.add (.output body))
      else if c = '\x7d' then
        if !l.inner && l.depth ≠ 0 then
          let depth := l.depth - 1
          let d := if depth = 0 ∧ l.own then d.leave
            else
              let doubledDepth := l.doubledDepth - 1
              { d with level := { l with depth, doubledDepth } }
          next (d.add .endParameter)
        else next (d.add (.char c))
      else if l.place = .calculation then
        if c = '(' then
          next ({ d with level := { l with brackets := l.brackets + 1 } }.add (.char c))
        else if l.brackets ≠ 0 then
          next ({ d with level := { l with brackets := l.brackets - 1 } }.add (.char c))
        else
          match ← readJoined joinFuel with
          | some ')' => next (d.leave.add .endCalculation)
          | e =>
            unreadChar e
            next (d.add (.char c))
      else if l.place = .open then
        if l.depth = 0 then close else next (d.add (.char c))
      else
        next (d.add (if document.isNone || l.doubled then .escaped c else .char c))

/-- Adds the substitution after a dollar sign. -/
def addSubstitution : Nat → Draft → Reading Draft
  | 0, _ => refuse "too long"
  | fuel + 1, d => do
    let c ← readJoined joinFuel
    let plain := do
      unreadChar c
      return d.add (.char '$')
    if (← get).checks.endMark then plain
    else
      match c with
      | some '(' =>
        match ← readJoined joinFuel with
        | some '(' =>
          return (d.add .calculation).enter { place := .calculation, doubled := true }
        | e =>
          unreadChar e
          let saved := (← get).awaited
          let wanted := (← get).checks
          modify fun r => { r with awaited := [], checks := {} }
          let body ← readList false true fuel none false
          readExpected fuel .closing
          readDocuments fuel
          modify fun r => { r with awaited := saved, checks := wanted }
          return d.add (.output body)
      | some e =>
        if e = '\x7b' ∨ startsName e ∨ isSpecial e then addParameter d e else plain
      | none => plain

end

/-- The number of nested steps that the reading of a command is granted. -/
def readingFuel : Nat := 1000000000

/-- Reads a text that is not part of a script, in which substitutions are made. It ends nowhere
before its end, because no line of a text has the character that its end would need. -/
def readText : Reading Word := do
  let a : Awaited := { number := 0, endMark := ['\x00'], expanded := true, stripped := false }
  let c ← startLine (some a)
  let (d, _) ← readMarks readingFuel (some a) c { level := { place := .double, doubled := true } }
  return d.marks.reverse

/-- What the next complete command of a script is. -/
inductive Reply where
  /-- There is a command, or an empty line. -/
  | command (c : Option Command)
  | finished

/-- Reads the next complete command. -/
def readComplete : Reading Reply := do
  modify fun r => { r with again := false, checks := {}, awaited := [] }
  let c ← readList true false readingFuel none false
  let r ← get
  if c.isNone && r.again && r.token = .endOfFile then return .finished
  return .command c

end KctlProbe.Sandbox.Script
