import KctlProbe.Sandbox.Regex.Reader
import KctlProbe.Sandbox.Tool.Reading

/-!
# Numbers of lines

`nl` numbers the lines of pages, each of which can have a header, a body and a footer.
-/

namespace KctlProbe.Sandbox.Tool

/-- Which lines get a number. -/
inductive NumberStyle where
  | all
  | filled
  | none
  | matching (r : Regex)

/-- How lines are numbered. -/
structure Numbering where
  header : NumberStyle := .none
  body : NumberStyle := .filled
  footer : NumberStyle := .none
  start : Int := 1
  step : Int := 1
  /-- How many empty lines count as one. -/
  joined : Nat := 1
  format : String := "rn"
  width : Nat := 6
  separator : Octets := ['\t']
  mark : Octets := "\\:".toList
  keepsCount : Bool := false

/-- Where the numbering has got to. -/
structure NumberingState where
  next : Int
  style : NumberStyle
  blanks : Nat := 0

/-- The style that a text gives, if it gives one. -/
def numberStyle? (text : Octets) : Except RegexFault (Option NumberStyle) := do
  match text with
  | ['a'] => return some .all
  | ['t'] => return some .filled
  | ['n'] => return some .none
  | 'p' :: pattern =>
    let (r, _, _) ← Dialect.read { lenient := true } pattern
    return some (.matching r)
  | _ => return none

/-- A number as it stands before a line. -/
def Numbering.numberText (n : Numbering) (value : Int) : Octets :=
  let digits := Octets.ofInt value
  let gap := n.width - digits.length
  match n.format with
  | "ln" => digits ++ List.replicate gap ' '
  | "rz" =>
    match digits with
    | '-' :: ds => '-' :: List.replicate gap '0' ++ ds
    | ds => List.replicate gap '0' ++ ds
  | _ => List.replicate gap ' ' ++ digits

/-- A line with its number, and the state behind it. -/
def Numbering.line (n : Numbering) (s : NumberingState) (text : Octets) : Octets × NumberingState :=
  let part := fun (style : NumberStyle) (resets : Bool) =>
    (['\n'], { s with style, next := if resets && !n.keepsCount then n.start else s.next, blanks := 0 })
  let times := fun (k : Nat) => (List.replicate k n.mark).flatten
  if !n.mark.isEmpty && text = times 3 then part n.header true
  else if !n.mark.isEmpty && text = times 2 then part n.body true
  else if !n.mark.isEmpty && text = times 1 then part n.footer true
  else
    let numbered := (n.numberText s.next ++ n.separator ++ text ++ ['\n'],
      { s with next := s.next + n.step, blanks := 0 })
    let bare := fun (s : NumberingState) =>
      (List.replicate (n.width + n.separator.length) ' ' ++ text ++ ['\n'], s)
    match s.style with
    | .all =>
      if n.joined ≤ 1 || !text.isEmpty then numbered
      else if s.blanks + 1 = n.joined then numbered
      else bare { s with blanks := s.blanks + 1 }
    | .filled => if text.isEmpty then bare s else numbered
    | .none => bare s
    | .matching r => if (r.search? (.start text)).isSome then numbered else bare s

/-- The formats of numbers. -/
def numberFormats : List String := ["ln", "rn", "rz"]

/-- The name of a number that an option of `nl` gives, and the least one. -/
def numberLimits? (key : String) : Option (String × Int) :=
  match key with
  | "v" => some ("starting line number", -9223372036854775808)
  | "i" => some ("line number increment", -9223372036854775808)
  | "l" => some ("line number of blank lines", 1)
  | "w" => some ("line number field width", 1)
  | _ => none

/-- The part of a page for which an option of `nl` gives the style. -/
def numberedPart? (key : String) : Option String :=
  match key with
  | "b" => some "body"
  | "h" => some "header"
  | "f" => some "footer"
  | _ => none

/-- Checks an option of `nl`. -/
def checkNumbering (key : String) (text : Octets) : Tool Unit := do
  match numberLimits? key with
  | none => pure ()
  | some (what, least) =>
    match integer? 10 text with
    | none => refuse 1 ("invalid " ++ what ++ ": " ++ textInQuotes text)
    | some n =>
      if n < least then
        refuse 1 ("invalid " ++ what ++ ": " ++ textInQuotes text ++ ": " ++ Errno.outOfRange.words)
  match numberedPart? key with
  | none => pure ()
  | some part =>
    match numberStyle? text with
    | .error e => refuse 1 e.words
    | .ok none => warn ("invalid " ++ part ++ " numbering style: " ++ textInQuotes text)
    | .ok (some _) => pure ()
  if key = "n" && shown text ∉ numberFormats then
    warn ("invalid line numbering format: " ++ textInQuotes text)

/-- The numbering with an option, if that is right. -/
def Numbering.with? (n : Numbering) (key : String) (text : Octets) : Option Numbering :=
  let number := (integer? 10 text).getD 1
  let style := match numberStyle? text with
    | .ok s => s
    | .error _ => none
  match key with
  | "b" => style.map fun s => { n with body := s }
  | "h" => style.map fun s => { n with header := s }
  | "f" => style.map fun s => { n with footer := s }
  | "v" => some { n with start := number }
  | "i" => some { n with step := number }
  | "l" => some { n with joined := number.toNat }
  | "w" => some { n with width := number.toNat }
  | "s" => some { n with separator := text }
  | "p" => some { n with keepsCount := true }
  | "d" => some { n with mark := if text.length = 1 then text ++ [':'] else text }
  | "n" => if shown text ∈ numberFormats then some { n with format := shown text } else none
  | _ => some n

/-- Numbers lines. -/
def nlTool (args : List Octets) : Tool Nat := do
  let g ← OptionRules.read { notice := checkNumbering, forms := [taking "b" "body-numbering",
    taking "d" "section-delimiter", taking "f" "footer-numbering", taking "h" "header-numbering",
    taking "i" "line-increment", taking "l" "join-blank-lines", taking "n" "number-format",
    plain "p" "no-renumber", taking "s" "number-separator", taking "v" "starting-line-number",
    taking "w" "number-width"] } args
  match g.options.foldlM (fun (n : Numbering) (key, text) => n.with? key (text.getD [])) {} with
  | none => pointToHelp 1
  | some n =>
    let read ← gatherFrom warnOf {} (orInput g.operands)
    let (pieces, _) := (linesOf '\n' read.text).foldl
      (fun ((done, s) : List Octets × NumberingState) line =>
        let (text, s) := n.line s line
        (text :: done, s)) ([], { next := n.start, style := n.body })
    finish read pieces.reverse.flatten

end KctlProbe.Sandbox.Tool
