import KctlProbe.Sandbox.Shell.Binding

/-!
# Options of the commands of a shell

Options are letters behind a dash in front of the other arguments. Some take a text that follows.
-/

namespace KctlProbe.Sandbox

/-- The letters of options, each with whether a text follows it. -/
abbrev Letters := List (Char × Bool)

/-- The options in one argument and what they take, those before in reverse, and the arguments
behind them. -/
def lettersIn (known : Letters) :
    Nat → List (Char × Octets) → Octets → List Octets → Action (List (Char × Octets) × List Octets)
  | 0, done, _, rest => return (done, rest)
  | _, done, [], rest => return (done, rest)
  | fuel + 1, done, c :: cs, rest => do
    match known.lookup c with
    | none => fail ("Illegal option -" ++ String.ofList [c])
    | some false => lettersIn known fuel ((c, []) :: done) cs rest
    | some true =>
      match cs, rest with
      | [], [] => fail ("No arg for -" ++ String.ofList [c] ++ " option")
      | [], text :: rest => return ((c, text) :: done, rest)
      | cs, rest => return ((c, cs) :: done, rest)

/-- The options at the start of arguments, those before in reverse, and the other arguments. -/
def optionsFrom (known : Letters) :
    Nat → List (Char × Octets) → List Octets → Action (List (Char × Octets) × List Octets)
  | 0, done, args => return (done.reverse, args)
  | fuel + 1, done, args => do
    match args with
    | ('-' :: c :: cs) :: rest =>
      if c = '-' && cs.isEmpty then return (done.reverse, rest)
      let (done, rest) ← lettersIn known (cs.length + 2) done (c :: cs) rest
      optionsFrom known fuel done rest
    | args => return (done.reverse, args)

/-- The options at the start of arguments, and the other arguments. -/
def options (known : Letters) (args : List Octets) :
    Action (List (Char × Octets) × List Octets) :=
  optionsFrom known (args.length + 1) [] args

/-- The arguments of a command without options. -/
def noOptions (args : List Octets) : Action (List Octets) :=
  return (← options [] args).2

end KctlProbe.Sandbox
