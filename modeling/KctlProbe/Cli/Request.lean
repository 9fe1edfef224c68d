import KctlProbe.SubCommand
import KctlProbe.Text.Utf8
import KctlProbe.Text.Decimal

/-!
# The command line

A command line is read token by token, from left to right, into a `Request`. Help and version are
answered where they are met. What no reading of the rest can mend is refused where it is met: an
unknown option, a value for an option that takes none, a second key, a token that is no text, after
the options that its letters name up to where it breaks. A value that is missing or not acceptable,
or an option given twice, is refused only at the end, so a later `--help` is still answered.
-/

namespace KctlProbe.Cli

/-- An option that takes a value. -/
inductive Setting where
  | config
  | program
  | host
  | port
  | format
  | op
  | iterations
  deriving DecidableEq, Repr

namespace Setting

/-- Every option that takes a value. -/
def all : List Setting := [.config, .program, .host, .port, .format, .op, .iterations]

/-- The name of an option, without its dashes. -/
def name : Setting → String
  | .config => "config"
  | .program => "program"
  | .host => "host"
  | .port => "port"
  | .format => "format"
  | .op => "op"
  | .iterations => "iterations"

end Setting

/-- An option without a value. -/
inductive Switch where
  | once
  | verbose
  | help
  | version
  deriving DecidableEq, Repr

namespace Switch

/-- Every option without a value. -/
def all : List Switch := [.once, .verbose, .help, .version]

/-- The name of an option, without its dashes. -/
def name : Switch → String
  | .once => "show"
  | .verbose => "verbose"
  | .help => "help"
  | .version => "version"

/-- The letter of an option that has one. -/
def letter? : Switch → Option Char
  | .once => none
  | .verbose => some 'v'
  | .help => some 'h'
  | .version => some 'V'

end Switch

/-- A lookup as it is chosen on the command line. -/
inductive Op where
  | get
  | next
  | prev
  | vers
  deriving DecidableEq, Repr

namespace Op

/-- The lookup with the given name, or the reason why there is none. -/
def parse (s : String) : Except String Op :=
  if s = "get" then .ok .get
  else if s = "getnext" then .ok .next
  else if s = "getprev" then .ok .prev
  else if s = "getvers" then .ok .vers
  else .error "Unsupported get operation"

/-- How a lookup is shown. -/
def text : Op → String
  | .get => "get"
  | .next => "getnext"
  | .prev => "getprev"
  | .vers => "getvers"

/-- What is looked up. -/
def lookup : Op → Lookup
  | .get => .exact
  | .next => .next
  | .prev => .previous
  | .vers => .version

end Op

/-- A token of the command line. -/
inductive Token where
  /-- Two dashes: no options after this. -/
  | stop
  /-- An option by its name, and the value attached to it with an equals sign. -/
  | long (name : List Char) (value : Option (List Char))
  /-- Options by their letters. -/
  | letters (letters : List Char)
  /-- A value. -/
  | plain (text : String)
  deriving DecidableEq, Repr

/-- The kind of a token. A single dash is a value. -/
def Token.ofText (s : String) : Token :=
  match s.toList with
  | ['-', '-'] => .stop
  | '-' :: '-' :: cs =>
    match cs.dropWhile (· ≠ '=') with
    | [] => .long cs none
    | _ :: value => .long (cs.takeWhile (· ≠ '=')) (some value)
  | '-' :: c :: cs => .letters (c :: cs)
  | _ => .plain s

/-- What to time and how. -/
structure Arguments where
  key : String
  /-- The path of the configuration file. -/
  config : Option String
  program : Option String
  host : Option String
  port : Option UInt16
  /-- The name of the print format. -/
  format : String
  op : Op
  iterations : UInt32
  /-- Whether to run once and show what the tool wrote. -/
  once : Bool
  verbose : Bool
  deriving DecidableEq, Repr

/-- What a command line asks for. -/
inductive Request where
  | help
  | version
  /-- To time a lookup, or to show one. -/
  | probe (arguments : Arguments)
  /-- The command line is not acceptable. -/
  | refused
  deriving DecidableEq, Repr

/-- A command line as far as it has been read. -/
structure Draft where
  key : Option String := none
  /-- The options with their values, the last one first. -/
  values : List (Setting × String) := []
  switches : List Switch := []
  /-- The option whose value comes next. -/
  awaiting : Option Setting := none
  /-- Whether only keys can follow. -/
  stopped : Bool := false
  /-- Whether the command line will be refused at its end. -/
  faulty : Bool := false
  deriving DecidableEq, Repr

namespace Draft

/-- The value of an option. -/
def value? (d : Draft) (s : Setting) : Option String :=
  d.values.lookup s

/-- The draft when no value follows: an option that waits for one does not get it. -/
def settle (d : Draft) : Draft :=
  { d with awaiting := none, faulty := d.faulty || d.awaiting.isSome }

/-- The draft with an option that gets its value with the next token. -/
def await (d : Draft) (s : Setting) : Draft :=
  { d with awaiting := some s, faulty := d.faulty || (d.value? s).isSome }

/-- The draft with an option and its value. -/
def give (d : Draft) (s : Setting) (value : String) : Draft :=
  { d with
    values := (s, value) :: d.values
    awaiting := none
    faulty := d.faulty || (d.value? s).isSome }

/-- The draft with a switch. -/
def turnOn (d : Draft) (s : Switch) : Draft :=
  { d with switches := s :: d.switches, faulty := d.faulty || decide (s ∈ d.switches) }

/-- The draft with a key; there is only one. -/
def give? (d : Draft) (key : String) : Option Draft :=
  if d.key.isSome then none else some { d with key := some key }

/-- What the command line asks for, at its end. -/
def finish (d : Draft) : Request :=
  let port := (d.value? .port).map (Text.readUnsigned? 65536)
  let iterations := Text.readUnsigned? 4294967296 ((d.value? .iterations).getD "1000")
  let op := Op.parse ((d.value? .op).getD Op.get.text)
  if d.settle.faulty || port == some none then .refused
  else
    match op, iterations with
    | .ok op, some iterations =>
      .probe {
        key := d.key.getD "pak"
        config := d.value? .config
        program := d.value? .program
        host := d.value? .host
        port := port.join.map UInt16.ofNat
        format := (d.value? .format).getD "chars"
        op
        iterations := UInt32.ofNat iterations
        once := decide (.once ∈ d.switches)
        verbose := decide (.verbose ∈ d.switches) }
    | _, _ => .refused

end Draft

/-- The answer to a switch that ends the reading, or the draft with the switch. -/
def turn (d : Draft) : Switch → Except Request Draft
  | .help => .error .help
  | .version => .error .version
  | .once => .ok (d.turnOn .once)
  | .verbose => .ok (d.turnOn .verbose)

/-- Reads options given by their letters. -/
def readLetters (d : Draft) : List Char → Except Request Draft
  | [] => .ok d
  | c :: cs =>
    match Switch.all.find? (·.letter? == some c) with
    | none => .error .refused
    | some s => (turn d s).bind fun d => readLetters d cs

/-- Reads an option given by its name. -/
def readLong (d : Draft) (name : List Char) (value : Option (List Char)) : Except Request Draft :=
  let name := String.ofList name
  match Setting.all.find? (·.name == name), Switch.all.find? (·.name == name), value with
  | some s, _, some value => .ok (d.give s (String.ofList value))
  | some s, _, none => .ok (d.await s)
  | none, some s, none => turn d s
  | none, _, _ => .error .refused

/-- Reads a token. -/
def readToken (d : Draft) (text : String) : Except Request Draft :=
  let key := match d.give? text with
    | some d => .ok d
    | none => .error .refused
  if d.stopped then key
  else
    match Token.ofText text with
    | .stop => .ok { d.settle with stopped := true }
    | .long name value => readLong d.settle name value
    | .letters letters => readLetters d.settle letters
    | .plain text =>
      match d.awaiting with
      | some s => .ok { d with values := (s, text) :: d.values, awaiting := none }
      | none => key

/-- What comes of a token that is no text. Options given by letters are read up to where it breaks,
so help that is asked for in front of that is answered. -/
def readBroken (d : Draft) (token : Bytes) : Request :=
  match d.stopped, Utf8.textStart token with
  | false, '-' :: c :: cs =>
    if c = '-' then .refused
    else
      match readLetters d.settle (c :: cs) with
      | .error request => request
      | .ok _ => .refused
  | _, _ => .refused

/-- Reads the tokens that follow a draft. -/
def readTokens (d : Draft) : List Bytes → Request
  | [] => d.finish
  | token :: tokens =>
    match (Utf8.decode? token).map (readToken d) with
    | none => readBroken d token
    | some (.error request) => request
    | some (.ok d) => readTokens d tokens

/-- What a command line asks for. -/
def Request.ofTokens (tokens : List Bytes) : Request :=
  readTokens {} tokens

end KctlProbe.Cli
