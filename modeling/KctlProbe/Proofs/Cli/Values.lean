import KctlProbe.Cli.Request
import KctlProbe.Proofs.Names
import KctlProbe.Proofs.Text.Utf8

/-!
# Values given on the command line

A command line gives an option a value behind an equals sign or as the next token (`Gives`). The
program then works with that value or not at all: a command line that gives an option twice is
refused. The tokens are read one by one, and what one token can do to what was read so far is
listed once (`Step`). From the token that gives the value on, a draft that is not faulty has it
(`Draft.Keeps`), and at the end of a command line that is accepted no draft is faulty
(`exists_finish_of_gives`).
-/

namespace KctlProbe.Cli

open Utf8 (encode)

/-- The token that gives an option its value behind an equals sign. -/
def attached (o : Setting) (s : String) : Bytes :=
  encode ("--" ++ o.name ++ "=" ++ s)

/-- A command line that gives an option a value, before any two dashes. -/
inductive Gives (o : Setting) (s : String) : List Bytes → Prop
  /-- Behind an equals sign, where the value can be any text. -/
  | attached (rest : List Bytes) : Gives o s (attached o s :: rest)
  /-- As the next token, which must not look like an option. -/
  | apart (rest : List Bytes) : Token.ofText s = .plain s →
      Gives o s (encode ("--" ++ o.name) :: encode s :: rest)
  | later {token : Bytes} {rest : List Bytes} : token ≠ encode "--" → Gives o s rest →
      Gives o s (token :: rest)

/-! ## One token -/

/-- Reads a token as a key. -/
def readKey (d : Draft) (text : String) : Except Request Draft :=
  match d.give? text with
  | some d => .ok d
  | none => .error .refused

/-- A token is read by its kind, and as a key where options have ended. -/
theorem readToken_eq (d : Draft) (text : String) :
    readToken d text =
      if d.stopped then readKey d text
      else
        match Token.ofText text with
        | .stop => .ok { d.settle with stopped := true }
        | .long name value => readLong d.settle name value
        | .letters letters => readLetters d.settle letters
        | .plain value =>
          match d.awaiting with
          | some o => .ok { d with values := (o, value) :: d.values, awaiting := none }
          | none => readKey d text := rfl

/-- What a token makes of a draft, if it does not end the reading. -/
inductive Step (d : Draft) (text : String) : Draft → Prop
  | key (key : String) : Step d text { d with key := some key }
  | stop : Token.ofText text = .stop → Step d text { d.settle with stopped := true }
  | give (o : Setting) (value : String) : Step d text (d.settle.give o value)
  | await (o : Setting) : Step d text (d.settle.await o)
  | turnOn (switches : List Switch) : Step d text (switches.foldl Draft.turnOn d.settle)
  | take {o : Setting} (value : String) : d.awaiting = some o →
      Step d text { d with values := (o, value) :: d.values, awaiting := none }

section
variable {d d' : Draft} {text : String}

/-- A switch that does not end the reading is turned on. -/
theorem eq_turnOn_of_turn {s : Switch} (h : turn d s = .ok d') : d' = d.turnOn s := by
  cases s with
  | help | version => cases h
  | once | verbose => exact (Except.ok.inj h).symm

/-- Letters turn on switches. -/
theorem exists_turnOn_of_readLetters {letters : List Char} (h : readLetters d letters = .ok d') :
    ∃ switches : List Switch, d' = switches.foldl Draft.turnOn d := by
  induction letters generalizing d with
  | nil => exact ⟨[], (Except.ok.inj h).symm⟩
  | cons c letters ih =>
    rw [readLetters] at h
    split at h
    · cases h
    · next s _ =>
      cases hturn : turn d s with
      | error request => rw [hturn] at h; cases h
      | ok next =>
        rw [hturn] at h
        obtain ⟨switches, hswitches⟩ := ih h
        exact ⟨s :: switches, by rw [hswitches, eq_turnOn_of_turn hturn, List.foldl_cons]⟩

/-- A name gives an option its value, makes it wait for one, or turns on a switch. -/
theorem Step.of_readLong {name : List Char} {value : Option (List Char)}
    (h : readLong d.settle name value = .ok d') : Step d text d' := by
  unfold readLong at h
  dsimp only at h
  split at h
  · rw [← Except.ok.inj h]
    exact .give _ _
  · rw [← Except.ok.inj h]
    exact .await _
  · rw [eq_turnOn_of_turn h]
    exact .turnOn [_]
  · cases h

/-- A key is kept. -/
theorem Step.of_readKey (h : readKey d text = .ok d') : Step d text d' := by
  unfold readKey Draft.give? at h
  split at h
  · next hgive =>
    split at hgive
    · cases hgive
    · rw [← Except.ok.inj h, ← Option.some.inj hgive]
      exact .key text
  · cases h

/-- Whatever a token is, it does one of the things in the list. -/
theorem Step.of_readToken (h : readToken d text = .ok d') : Step d text d' := by
  rw [readToken_eq] at h
  split at h
  · exact .of_readKey h
  split at h
  · next htoken =>
    rw [← Except.ok.inj h]
    exact .stop htoken
  · exact .of_readLong h
  · obtain ⟨switches, hswitches⟩ := exists_turnOn_of_readLetters h
    rw [hswitches]
    exact .turnOn switches
  · split at h
    · next hawait =>
      rw [← Except.ok.inj h]
      exact .take _ hawait
    · exact .of_readKey h

end

/-! ## Options and their values -/

/-- Options are told apart by their names. -/
theorem Setting.name_injective : Function.Injective Setting.name := by
  intro o o' h
  cases o <;> cases o' <;> first | rfl | exact absurd h (by decide)

/-- The option of a name is found among all options. -/
theorem Setting.find?_name (o : Setting) : Setting.all.find? (·.name == o.name) = some o :=
  (find?_name_eq_some_iff (fun o => by cases o <;> decide) Setting.name_injective).2 rfl

section
variable {d : Draft} {o : Setting} {s : String}

/-- The name of an option is all that stands in front of the equals sign. -/
theorem ofText_attached (o : Setting) (s : String) :
    Token.ofText ("--" ++ o.name ++ "=" ++ s) = .long o.name.toList (some s.toList) := by
  cases o <;> simp [Token.ofText, Setting.name]

/-- Two dashes and the name of an option make a long option without a value. -/
theorem ofText_name (o : Setting) : Token.ofText ("--" ++ o.name) = .long o.name.toList none := by
  cases o <;> decide

/-- A token with a value gives it. -/
theorem readToken_attached (h : d.stopped = false) :
    readToken d ("--" ++ o.name ++ "=" ++ s) = .ok (d.settle.give o s) := by
  simp only [readToken_eq, h, ofText_attached, readLong, String.ofList_toList,
    Setting.find?_name, Bool.false_eq_true, if_false]

/-- The name of an option makes it wait for its value. -/
theorem readToken_name (h : d.stopped = false) :
    readToken d ("--" ++ o.name) = .ok (d.settle.await o) := by
  simp only [readToken_eq, h, ofText_name, readLong, String.ofList_toList,
    Setting.find?_name, Bool.false_eq_true, if_false]

/-- The value that an option waits for is taken. -/
theorem readToken_value (h : d.stopped = false) (hs : Token.ofText s = .plain s)
    (hawait : d.awaiting = some o) :
    readToken d s = .ok { d with values := (o, s) :: d.values, awaiting := none } := by
  simp only [readToken_eq, h, hs, hawait, Bool.false_eq_true, if_false]

end

/-! ## What a draft keeps -/

/-- The draft has a value for an option and does not wait for another one, or it is faulty. A second
value would come to stand in front of the first one, but it makes the draft faulty. -/
def Draft.Keeps (d : Draft) (o : Setting) (s : String) : Prop :=
  d.faulty = true ∨ d.value? o = some s ∧ d.awaiting ≠ some o

/-- The value of an option is found behind those of others. -/
theorem lookup_cons_of_ne {o o' : Setting} (h : o ≠ o') (value : String)
    (values : List (Setting × String)) : ((o', value) :: values).lookup o = values.lookup o := by
  rw [List.lookup_cons, beq_eq_false_iff_ne.2 h]

namespace Draft

variable {d : Draft} {o o' : Setting} {s value : String}

/-- An option keeps the value that it was given. -/
theorem keeps_give (d : Draft) (o : Setting) (s : String) : (d.give o s).Keeps o s :=
  .inr ⟨List.lookup_cons_self, nofun⟩

/-- An option keeps the value that it waited for. -/
theorem keeps_take (d : Draft) (o : Setting) (s : String) :
    Draft.Keeps { d with values := (o, s) :: d.values, awaiting := none } o s :=
  .inr ⟨List.lookup_cons_self, nofun⟩

/-- No value is taken away where an option waits in vain. -/
theorem Keeps.settle (h : d.Keeps o s) : d.settle.Keeps o s := by
  rcases h with h | ⟨h, -⟩
  · exact .inl (by rw [Draft.settle, h, Bool.true_or])
  · exact .inr ⟨h, nofun⟩

/-- Another value for an option that has one is a fault. -/
theorem Keeps.give (h : d.Keeps o s) : (d.give o' value).Keeps o s := by
  rcases h with h | ⟨h, -⟩
  · exact .inl (by rw [Draft.give, h, Bool.true_or])
  by_cases ho : o = o'
  · exact .inl (by rw [Draft.give, ← ho, h, Option.isSome_some, Bool.or_true])
  · exact .inr ⟨(lookup_cons_of_ne ho _ _).trans h, nofun⟩

/-- An option that has a value and waits for one is a fault. -/
theorem Keeps.await (h : d.Keeps o s) : (d.await o').Keeps o s := by
  rcases h with h | ⟨h, -⟩
  · exact .inl (by rw [Draft.await, h, Bool.true_or])
  by_cases ho : o = o'
  · exact .inl (by rw [Draft.await, ← ho, h, Option.isSome_some, Bool.or_true])
  · exact .inr ⟨h, fun hawait => ho (Option.some.inj hawait).symm⟩

/-- The value that another option waits for is not that of this one. -/
theorem Keeps.take (h : d.Keeps o s) (hawait : d.awaiting = some o') :
    Draft.Keeps { d with values := (o', value) :: d.values, awaiting := none } o s := by
  rcases h with h | ⟨h, hne⟩
  · exact .inl h
  have ho : o ≠ o' := by
    rintro rfl
    exact hne hawait
  exact .inr ⟨(lookup_cons_of_ne ho _ _).trans h, nofun⟩

/-- No switch takes a value away. -/
theorem Keeps.turnOn (h : d.Keeps o s) (switches : List Switch) :
    (switches.foldl Draft.turnOn d).Keeps o s := by
  induction switches generalizing d with
  | nil => exact h
  | cons switch switches ih =>
    refine ih ?_
    rcases h with h | h
    · exact .inl (by rw [Draft.turnOn, h, Bool.true_or])
    · exact .inr h

/-- **No token takes a value away.** -/
theorem Keeps.step {d' : Draft} {text : String} (h : d.Keeps o s) (hstep : Step d text d') :
    d'.Keeps o s := by
  cases hstep with
  | key key => exact h
  | stop htoken => exact h.settle
  | give o' value => exact h.settle.give
  | await o' => exact h.settle.await
  | turnOn switches => exact h.settle.turnOn switches
  | take value hawait => exact h.take hawait

end Draft

section
variable {d d' : Draft} {text : String}

/-- Switches do not end the options. -/
theorem stopped_foldl_turnOn (switches : List Switch) (d : Draft) :
    (switches.foldl Draft.turnOn d).stopped = d.stopped := by
  induction switches generalizing d with
  | nil => rfl
  | cons switch switches ih => exact ih _

/-- Only two dashes are read as the end of the options. -/
theorem eq_of_ofText_eq_stop (h : Token.ofText text = .stop) : text = "--" := by
  unfold Token.ofText at h
  split at h
  · next htext => exact String.toList_injective htext
  · split at h <;> cases h
  · cases h
  · cases h

/-- Options go on until two dashes. -/
theorem Step.stopped_eq (h : Step d text d') (htext : text ≠ "--") : d'.stopped = d.stopped := by
  cases h with
  | stop htoken => exact absurd (eq_of_ofText_eq_stop htoken) htext
  | turnOn switches => exact stopped_foldl_turnOn switches d.settle
  | key | give | await | take => rfl

end

/-! ## Command lines that are accepted -/

section
variable {d : Draft} {a : Arguments}

/-- Turning on a switch does not end in a probe. -/
theorem turn_ne_probe (switch : Switch) : turn d switch ≠ .error (.probe a) := by
  cases switch <;> nofun

/-- Reading short options does not end in a probe. -/
theorem readLetters_ne_probe (letters : List Char) :
    readLetters d letters ≠ .error (.probe a) := by
  induction letters generalizing d with
  | nil => nofun
  | cons c letters ih =>
    rw [readLetters]
    split
    · nofun
    · next switch _ =>
      cases hturn : turn d switch with
      | error request => exact fun h => turn_ne_probe switch (hturn.trans h)
      | ok next => exact ih

/-- Reading a long option does not end in a probe. -/
theorem readLong_ne_probe (name : List Char) (value : Option (List Char)) :
    readLong d name value ≠ .error (.probe a) := by
  unfold readLong
  dsimp only
  split
  · nofun
  · nofun
  · exact turn_ne_probe _
  · nofun

/-- Reading a key does not end in a probe. -/
theorem readKey_ne_probe (text : String) : readKey d text ≠ .error (.probe a) := by
  unfold readKey
  split <;> nofun

/-- No token is the reason to accept a command line. -/
theorem readToken_ne_probe (text : String) : readToken d text ≠ .error (.probe a) := by
  rw [readToken_eq]
  split
  · exact readKey_ne_probe text
  split
  · nofun
  · exact readLong_ne_probe _ _
  · exact readLetters_ne_probe _
  · split
    · nofun
    · exact readKey_ne_probe text

/-- Reading a token that is no text does not end in a probe. -/
theorem readBroken_ne_probe (token : Bytes) : readBroken d token ≠ .probe a := by
  unfold readBroken
  split
  · split
    · nofun
    · split
      · next request hletters =>
        rintro rfl
        exact readLetters_ne_probe _ hletters
      · nofun
  · nofun

/-- In a command line that is accepted every token is a text, and is read. -/
theorem exists_readToken_of_probe {token : Bytes} {tokens : List Bytes}
    (h : readTokens d (token :: tokens) = .probe a) :
    ∃ text d', encode text = token ∧ readToken d text = .ok d' ∧
      readTokens d' tokens = .probe a := by
  rw [readTokens] at h
  cases htext : Utf8.decode? token with
  | none =>
    rw [htext] at h
    exact absurd h (readBroken_ne_probe token)
  | some text =>
    rw [htext] at h
    refine ⟨text, ?_⟩
    cases hread : readToken d text with
    | error request =>
      simp only [Option.map_some, hread] at h
      exact absurd (hread.trans (congrArg _ h)) (readToken_ne_probe text)
    | ok d' =>
      simp only [Option.map_some, hread] at h
      exact ⟨d', Utf8.decode?_eq_some_iff.1 htext, rfl, h⟩

/-- A command line is accepted at its end, and what was kept on the way is still there. -/
theorem Draft.Keeps.exists_finish {o : Setting} {s : String} {tokens : List Bytes}
    (h : d.Keeps o s) (hread : readTokens d tokens = .probe a) :
    ∃ d' : Draft, d'.finish = .probe a ∧ d'.Keeps o s := by
  induction tokens generalizing d with
  | nil => exact ⟨d, hread, h⟩
  | cons token tokens ih =>
    obtain ⟨text, d', -, htoken, hrest⟩ := exists_readToken_of_probe hread
    exact ih (h.step (.of_readToken htoken)) hrest

/-- What the end of an accepted command line says about the draft. -/
theorem of_finish_eq_probe (h : d.finish = .probe a) :
    d.faulty = false ∧ a.format = (d.value? .format).getD "chars" ∧
      Op.parse ((d.value? .op).getD Op.get.text) = .ok a.op := by
  unfold Draft.finish at h
  dsimp only at h
  split at h
  · cases h
  next hfaulty =>
  have hfaulty : d.faulty = false := by
    by_contra hd
    exact hfaulty (by simp [Draft.settle, hd])
  split at h
  · next op iterations hop _ =>
    rw [← Request.probe.inj h]
    exact ⟨hfaulty, rfl, hop⟩
  · cases h

/-- **A value that is given is the value at the end**, if the command line is accepted. -/
theorem exists_finish_of_gives {o : Setting} {s : String} {tokens : List Bytes}
    (h : Gives o s tokens) (hstopped : d.stopped = false)
    (hread : readTokens d tokens = .probe a) :
    ∃ d' : Draft, d'.finish = .probe a ∧ d'.value? o = some s := by
  suffices hkeeps : ∃ d' : Draft, d'.finish = .probe a ∧ d'.Keeps o s by
    obtain ⟨d', hfinish, hfaulty | ⟨hvalue, -⟩⟩ := hkeeps
    · rw [(of_finish_eq_probe hfinish).1] at hfaulty
      cases hfaulty
    · exact ⟨d', hfinish, hvalue⟩
  -- Up to the value the options must not have ended; from there on the draft keeps it.
  induction h generalizing d with
  | attached rest =>
    obtain ⟨text, d', htext, htoken, hrest⟩ := exists_readToken_of_probe hread
    obtain rfl := Utf8.encode_injective htext
    obtain rfl := Except.ok.inj ((readToken_attached hstopped).symm.trans htoken)
    exact (d.settle.keeps_give o s).exists_finish hrest
  | apart rest hs =>
    obtain ⟨text, d', htext, htoken, hrest⟩ := exists_readToken_of_probe hread
    obtain rfl := Utf8.encode_injective htext
    obtain rfl := Except.ok.inj ((readToken_name hstopped).symm.trans htoken)
    obtain ⟨text, d', htext, htoken, hrest⟩ := exists_readToken_of_probe hrest
    obtain rfl := Utf8.encode_injective htext
    have hstopped : (d.settle.await o).stopped = false := hstopped
    obtain rfl := Except.ok.inj ((readToken_value hstopped hs rfl).symm.trans htoken)
    exact ((d.settle.await o).keeps_take o _).exists_finish hrest
  | later htoken _ ih =>
    obtain ⟨text, d', rfl, hreadToken, hrest⟩ := exists_readToken_of_probe hread
    have hstep : Step d text d' := .of_readToken hreadToken
    exact ih ((hstep.stopped_eq fun heq => htoken (by rw [heq])).trans hstopped) hrest

/-- The format that is worked with is the one that is given. -/
theorem format_of_gives {s : String} {tokens : List Bytes} (h : Gives .format s tokens)
    (hprobe : Request.ofTokens tokens = .probe a) : a.format = s := by
  obtain ⟨d, hfinish, hvalue⟩ := exists_finish_of_gives h rfl hprobe
  rw [(of_finish_eq_probe hfinish).2.1, hvalue, Option.getD_some]

/-- The lookup that is chosen is shown as the text that is given. -/
theorem op_of_gives {s : String} {tokens : List Bytes} (h : Gives .op s tokens)
    (hprobe : Request.ofTokens tokens = .probe a) : a.op.text = s := by
  obtain ⟨d, hfinish, hvalue⟩ := exists_finish_of_gives h rfl hprobe
  have hop := (of_finish_eq_probe hfinish).2.2
  rw [hvalue, Option.getD_some] at hop
  exact (Op.parse_eq_ok_iff.1 hop).symm

end

/-! ## Command lines with one option -/

/-- Where nothing else is given, the defaults are acceptable. -/
theorem exists_finish_of_op {d : Draft} {op : Op} (hfaulty : d.settle.faulty = false)
    (hport : d.value? .port = none) (hiterations : d.value? .iterations = none)
    (hop : Op.parse ((d.value? .op).getD Op.get.text) = .ok op) :
    ∃ a, d.finish = .probe a := by
  have hdefault : Text.readUnsigned? 4294967296 "1000" = some 1000 := by decide
  simp only [Draft.finish, hfaulty, hport, hiterations, hop, Option.getD_none, hdefault]
  exact ⟨_, rfl⟩

/-- One option with its value attached makes a draft that was given this value. -/
theorem ofTokens_attached (o : Setting) (s : String) :
    Request.ofTokens [attached o s] = (({} : Draft).give o s).finish := by
  simp only [Request.ofTokens, readTokens, attached, Utf8.decode?_encode, Option.map_some]
  rw [readToken_attached rfl]
  rfl

/-- Every text is accepted as a format, and is looked up later. -/
theorem exists_probe_of_format (s : String) :
    ∃ a, Request.ofTokens [attached .format s] = .probe a := by
  have hop : Op.parse (((({} : Draft).give .format s).value? .op).getD Op.get.text) = .ok .get :=
    Op.parse_eq_ok_iff.2 rfl
  rw [ofTokens_attached]
  exact exists_finish_of_op rfl rfl rfl hop

/-- What shows a lookup is accepted. -/
theorem exists_probe_of_op (op : Op) :
    ∃ a, Request.ofTokens [attached .op op.text] = .probe a := by
  rw [ofTokens_attached]
  exact exists_finish_of_op rfl rfl rfl (Op.parse_eq_ok_iff.2 rfl)

/-- What shows no lookup is refused. -/
theorem ofTokens_op_of_unknown {s : String} (h : ∀ op : Op, op.text ≠ s) :
    Request.ofTokens [attached .op s] = .refused := by
  have hvalue : (({} : Draft).give .op s).value? .op = some s := rfl
  rw [ofTokens_attached, Draft.finish]
  simp only [hvalue, Option.getD_some, Op.parse_of_unknown h]
  split <;> rfl

end KctlProbe.Cli
