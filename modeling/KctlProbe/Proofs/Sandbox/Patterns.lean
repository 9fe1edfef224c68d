import KctlProbe.Sandbox.Script.Pattern
import Mathlib.Data.List.Infix
import Mathlib.Tactic.Common

/-!
# What a pattern stands for

A pattern stands for a text if its elements stand for parts of the text, one behind the other: a star
for any part, and every other element for one character (`Describes`). The shell finds out in one
pass (`acceptsFrom`). Of all the stars on the way it remembers only the last one, and where an
element does not fit, it gives that star one character more. An earlier star need not be tried
again: whatever more it could take, the last star can take instead (`Later.describes`).

The induction is on the steps that are granted. They are enough for every pattern and every text, so
the answer is always the right one (`accepts_iff`). From this it follows what the shell removes from
the start and from the end of a value (`startLength?_eq_some_iff`, `endStart?_eq_some_iff`), and that
a quoted pattern stands for its own text and no other (`accepts_quoted_iff`).
-/

namespace KctlProbe.Sandbox.Script

/-- The texts that a pattern stands for. -/
inductive Describes : List Element → Octets → Prop
  | nil : Describes [] []
  | one {e : Element} {c : Char} {es : List Element} {text : Octets} : e.accepts c = true →
      Describes es text → Describes (e :: es) (c :: text)
  | skip {es : List Element} {text : Octets} : Describes es text → Describes (.many :: es) text
  | more {c : Char} {es : List Element} {text : Octets} : Describes (.many :: es) text →
      Describes (.many :: es) (c :: text)

section
variable {e : Element} {es front : List Element} {c : Char} {text : Octets}

/-- A star stands for nothing, or for one character and more. -/
theorem describes_many_cons_iff : Describes (.many :: es) (c :: text) ↔
    Describes es (c :: text) ∨ Describes (.many :: es) text := by
  constructor
  · intro h
    cases h with
    | one haccepts => cases haccepts
    | skip h => exact .inl h
    | more h => exact .inr h
  · rintro (h | h)
    · exact .skip h
    · exact .more h

/-- A star stands for what is in front of some rest. -/
theorem describes_many_iff :
    Describes (.many :: es) text ↔ ∃ rest, rest <:+ text ∧ Describes es rest := by
  induction text with
  | nil =>
    simp only [List.suffix_nil, exists_eq_left]
    exact ⟨fun h => by cases h with | skip h => exact h, .skip⟩
  | cons c text ih =>
    rw [describes_many_cons_iff, ih]
    simp only [List.suffix_cons_iff, or_and_right, exists_or, exists_eq_left]

/-- Another element stands for one character. -/
theorem describes_cons_iff (he : e ≠ .many) :
    Describes (e :: es) (c :: text) ↔ e.accepts c = true ∧ Describes es text := by
  constructor
  · intro h
    cases h with
    | one haccepts h => exact ⟨haccepts, h⟩
    | skip | more => exact absurd rfl he
  · exact fun h => .one h.1 h.2

/-- Another element does not stand for nothing. -/
theorem not_describes_nil (he : e ≠ .many) : ¬ Describes (e :: es) [] := by
  intro h
  cases h with
  | skip => exact he rfl

/-- Elements without a star stand for as many characters. -/
theorem exists_of_describes_append (hfront : Element.many ∉ front)
    (h : Describes (front ++ es) text) :
    ∃ passed rest, text = passed ++ rest ∧ passed.length = front.length ∧ Describes es rest := by
  induction front generalizing text with
  | nil => exact ⟨[], text, rfl, rfl, h⟩
  | cons e front ih =>
    obtain ⟨he, hfront⟩ := not_or.1 (mt List.mem_cons.2 hfront)
    cases text with
    | nil => exact absurd h (not_describes_nil (Ne.symm he))
    | cons c text =>
      obtain ⟨-, h⟩ := (describes_cons_iff (Ne.symm he)).1 h
      obtain ⟨passed, rest, rfl, hlength, hrest⟩ := ih hfront h
      exact ⟨c :: passed, rest, rfl, congrArg Nat.succ hlength, hrest⟩

end

/-- Where a pattern and a text do not go on together. -/
inductive Stuck : List Element → Octets → Prop
  | left (c : Char) (text : Octets) : Stuck [] (c :: text)
  | ended {e : Element} (he : e ≠ .many) (es : List Element) : Stuck (e :: es) []
  | unlike {e : Element} {c : Char} (he : e ≠ .many) (hnot : e.accepts c = false)
      (es : List Element) (text : Octets) : Stuck (e :: es) (c :: text)

/-- Where they do not go on together, the pattern does not stand for the text. -/
theorem Stuck.not_describes {es : List Element} {text : Octets} (h : Stuck es text) :
    ¬ Describes es text := by
  cases h with
  | left => nofun
  | ended he => exact not_describes_nil he
  | unlike he hnot =>
    rw [describes_cons_iff he, hnot]
    exact fun h => Bool.false_ne_true h.1

/-! ## The last star -/

/-- The last star can take one character, or more. -/
def Later (again : Option (List Element × Octets)) : Prop :=
  ∃ es c text, again = some (es, c :: text) ∧ Describes (.many :: es) text

/-- Between the last star and an element there are as many elements as characters, and no star. -/
def Behind (again : Option (List Element × Octets)) (es : List Element) (text : Octets) : Prop :=
  ∀ es₀ text₀, again = some (es₀, text₀) → ∃ front passed, es₀ = front ++ es ∧
    text₀ = passed ++ text ∧ passed.length = front.length ∧ Element.many ∉ front

/-- The steps that are enough from here on. Each character that the last star takes costs one step
and another way through the elements behind it. -/
def needed (again : Option (List Element × Octets)) (es : List Element) (text : Octets) : Nat :=
  let last := again.getD (es, text)
  es.length + (last.1.length + 1) * last.2.length

section
variable {again : Option (List Element × Octets)} {e : Element} {es : List Element} {c : Char}
  {text : Octets}

/-- A star is the last one where it is met. -/
theorem behind_self (es : List Element) (text : Octets) : Behind (some (es, text)) es text := by
  rintro _ _ ⟨⟩
  exact ⟨[], [], rfl, rfl, rfl, List.not_mem_nil⟩

/-- A star stands for nothing at first, and for more later. -/
theorem describes_or_later_iff :
    Describes es text ∨ Later (some (es, text)) ↔ Describes (.many :: es) text := by
  cases text with
  | nil => simp [Later, describes_many_iff]
  | cons c text =>
    rw [describes_many_cons_iff]
    refine or_congr_right ⟨?_, fun h => ⟨es, c, text, rfl, h⟩⟩
    rintro ⟨_, _, _, ⟨⟩, h⟩
    exact h

/-- **Earlier stars need no other try.** What an earlier star could take more, the star that is met
now can take instead. -/
theorem Later.describes (h : Later again) (hbehind : Behind again (.many :: es) text) :
    Describes (.many :: es) text := by
  obtain ⟨es₀, c, text₀, hagain, h⟩ := h
  obtain ⟨front, passed, rfl, hall, hlength, hfront⟩ := hbehind _ _ hagain
  obtain ⟨rest, hrest, h⟩ := describes_many_iff.1 h
  obtain ⟨passed', left, rfl, hlength', h⟩ := exists_of_describes_append hfront h
  obtain ⟨last, hlast, h⟩ := describes_many_iff.1 h
  -- Both texts are at the end of the same one, and the one that is left is not longer.
  have hsuffix : left <:+ passed ++ text :=
    hall ▸ ((List.suffix_append passed' left).trans hrest).trans (List.suffix_cons c text₀)
  have hle : left.length ≤ text.length := by
    have hshort := hrest.length_le
    have hsame := congrArg List.length hall
    simp only [List.length_append, List.length_cons] at hshort hsame
    omega
  have hleft : left <:+ text :=
    List.suffix_of_suffix_length_le hsuffix (List.suffix_append passed text) hle
  exact describes_many_iff.2 ⟨last, hlast.trans hleft, h⟩

/-- An element that fits is passed. -/
theorem Behind.step (he : e ≠ .many) (h : Behind again (e :: es) (c :: text)) :
    Behind again es text := by
  intro es₀ text₀ hagain
  obtain ⟨front, passed, hes, htext, hlength, hfront⟩ := h es₀ text₀ hagain
  refine ⟨front ++ [e], passed ++ [c], by simp [hes], by simp [htext], by simp [hlength], ?_⟩
  simp [hfront, Ne.symm he]

/-- Fewer steps are needed behind an element that fits. -/
theorem needed_step_lt : needed again es text < needed again (e :: es) (c :: text) := by
  cases again with
  | none =>
    simp only [needed, Option.getD_none, List.length_cons, Nat.mul_succ, Nat.succ_mul]
    omega
  | some last => exact Nat.add_lt_add_right (Nat.lt_succ_self _) _

/-- Fewer steps are needed when the last star takes one character more. -/
theorem needed_later_lt (es₀ : List Element) (text₀ : Octets) :
    needed (some (es₀, text₀)) es₀ text₀ < needed (some (es₀, c :: text₀)) es text := by
  simp only [needed, Option.getD_some, List.length_cons, Nat.mul_succ]
  omega

/-- Fewer steps are needed behind a star. -/
theorem needed_many_lt (h : Behind again (.many :: es) text) :
    needed (some (es, text)) es text < needed again (.many :: es) text := by
  cases again with
  | none =>
    simp only [needed, Option.getD_none, Option.getD_some, List.length_cons, Nat.succ_mul]
    omega
  | some last =>
    obtain ⟨front, passed, hes, htext, -, -⟩ := h last.1 last.2 rfl
    have hlt := congrArg List.length hes
    have hle := congrArg List.length htext
    simp only [List.length_append, List.length_cons] at hlt hle
    have hmul : (es.length + 1) * text.length ≤ (last.1.length + 1) * last.2.length :=
      Nat.mul_le_mul (by omega) (by omega)
    simp only [needed, Option.getD_some, List.length_cons]
    omega

end

/-! ## The answer of the shell -/

section
variable {fuel : Nat} {again : Option (List Element × Octets)} {es : List Element} {text : Octets}

/-- An element that fits is passed by. -/
theorem acceptsFrom_cons {e : Element} {c : Char} (he : e ≠ .many) (haccepts : e.accepts c = true) :
    acceptsFrom (fuel + 1) again (e :: es) (c :: text) = acceptsFrom fuel again es text := by
  have hne : ∀ es', e :: es = .many :: es' → False := fun _ h => he (List.cons.inj h).1
  by_cases hagain : ∃ es₀ d text₀, again = some (es₀, d :: text₀)
  · obtain ⟨es₀, d, text₀, rfl⟩ := hagain
    rw [acceptsFrom.eq_4 _ _ _ _ _ _ _ _ hne, if_pos haccepts]
  · rw [acceptsFrom.eq_5 _ _ _ _ _ _ hne fun _ _ _ h => hagain ⟨_, _, _, h⟩, if_pos haccepts]

/-- Where they do not go on together, the last star takes one character more. -/
theorem Stuck.acceptsFrom_iff (h : Stuck es text) :
    acceptsFrom (fuel + 1) again es text = true ↔ ∃ es₀ c text₀,
      again = some (es₀, c :: text₀) ∧ acceptsFrom fuel (some (es₀, text₀)) es₀ text₀ = true := by
  by_cases hagain : ∃ es₀ c text₀, again = some (es₀, c :: text₀)
  · obtain ⟨es₀, c, text₀, rfl⟩ := hagain
    have hstep : acceptsFrom (fuel + 1) (some (es₀, c :: text₀)) es text =
        acceptsFrom fuel (some (es₀, text₀)) es₀ text₀ := by
      cases h with
      | left => simp [acceptsFrom]
      | ended he => simp [acceptsFrom, he]
      | unlike he hnot => simp [acceptsFrom, he, hnot]
    rw [hstep]
    exact ⟨fun h => ⟨_, _, _, rfl, h⟩, by rintro ⟨_, _, _, ⟨⟩, h⟩; exact h⟩
  · have hnone : ∀ es₀ c text₀, again = some (es₀, c :: text₀) → False :=
      fun _ _ _ h => hagain ⟨_, _, _, h⟩
    have hstep : acceptsFrom (fuel + 1) again es text = false := by
      cases h with
      | left c text => exact acceptsFrom.eq_7 again [] (c :: text) fuel nofun nofun nofun hnone
      | ended he es =>
        exact acceptsFrom.eq_7 again _ [] fuel (fun _ h => he (List.cons.inj h).1) nofun nofun hnone
      | unlike he hnot => simp [acceptsFrom, he, hnot]
    rw [hstep]
    exact iff_of_false Bool.false_ne_true fun ⟨_, _, _, h, _⟩ => hagain ⟨_, _, _, h⟩

/-- The answer is right if enough steps are granted, by induction on the steps. -/
theorem acceptsFrom_iff (hfuel : needed again es text < fuel) (h : Behind again es text) :
    acceptsFrom fuel again es text = true ↔ Describes es text ∨ Later again := by
  induction fuel generalizing again es text with
  | zero => exact absurd hfuel (Nat.not_lt_zero _)
  | succ fuel ih =>
    have hstuck (hstuck : Stuck es text) :
        acceptsFrom (fuel + 1) again es text = true ↔ Describes es text ∨ Later again := by
      rw [hstuck.acceptsFrom_iff, or_iff_right hstuck.not_describes]
      refine exists_congr fun es₀ => exists_congr fun c => exists_congr fun text₀ =>
        and_congr_right fun hagain => ?_
      subst hagain
      have hless := Nat.lt_of_lt_of_le (needed_later_lt es₀ text₀) (Nat.lt_succ_iff.1 hfuel)
      rw [ih hless (behind_self es₀ text₀), describes_or_later_iff]
    cases es with
    | nil =>
      cases text with
      | nil =>
        rw [acceptsFrom.eq_def]
        exact iff_of_true rfl (.inl .nil)
      | cons c text => exact hstuck (.left c text)
    | cons e es =>
      by_cases he : e = .many
      · subst he
        have hless := Nat.lt_of_lt_of_le (needed_many_lt h) (Nat.lt_succ_iff.1 hfuel)
        rw [acceptsFrom, ih hless (behind_self es text), describes_or_later_iff]
        exact ⟨.inl, fun h' => h'.elim id fun hlater => hlater.describes h⟩
      · cases text with
        | nil => exact hstuck (.ended he es)
        | cons c text =>
          cases haccepts : e.accepts c with
          | false => exact hstuck (.unlike he haccepts es text)
          | true =>
            have hless := Nat.lt_of_lt_of_le needed_step_lt (Nat.lt_succ_iff.1 hfuel)
            rw [acceptsFrom_cons he haccepts, ih hless (h.step he), describes_cons_iff he,
              and_iff_right haccepts]

end

/-- **The shell finds out what a pattern stands for**, whatever stars are in it. -/
theorem accepts_iff (pattern : List Element) (text : Octets) :
    accepts pattern text = true ↔ Describes pattern text := by
  have hfuel : needed none pattern text < (pattern.length + 2) * (text.length + 2) := by
    simp only [needed, Option.getD_none, Nat.succ_mul, Nat.mul_add]
    omega
  rw [accepts, acceptsFrom_iff hfuel (fun _ _ h => nomatch h)]
  exact or_iff_left fun ⟨_, _, _, h, _⟩ => nomatch h

/-! ## Parts of a value -/

/-- In an ordered list, the first number with a property is the one in front of all others. -/
theorem find?_eq_some_iff_of_pairwise {R : Nat → Nat → Prop} (hR : ∀ a b, R a b → ¬ R b a)
    {p : Nat → Bool} {ns : List Nat} (h : ns.Pairwise R) {n : Nat} :
    ns.find? p = some n ↔ n ∈ ns ∧ p n = true ∧ ∀ m ∈ ns, p m = true → R n m ∨ m = n := by
  induction ns with
  | nil => simp
  | cons a ns ih =>
    obtain ⟨ha, h⟩ := List.pairwise_cons.1 h
    cases hp : p a with
    | true =>
      rw [List.find?_cons_of_pos hp]
      constructor
      · rintro ⟨⟩
        exact ⟨List.mem_cons_self, hp, fun m hm _ =>
          ((List.mem_cons.1 hm).imp_right (ha m)).symm⟩
      · rintro ⟨hn, -, hfirst⟩
        rcases hfirst a List.mem_cons_self hp with hna | rfl
        swap
        · rfl
        rcases List.mem_cons.1 hn with rfl | hn
        · rfl
        · exact absurd hna (hR _ _ (ha n hn))
    | false =>
      rw [List.find?_cons_of_neg (by simp [hp]), ih h]
      constructor
      · rintro ⟨hn, hpn, hfirst⟩
        refine ⟨List.mem_cons_of_mem a hn, hpn, fun m hm hpm => ?_⟩
        rcases List.mem_cons.1 hm with rfl | hm
        · rw [hp] at hpm
          cases hpm
        · exact hfirst m hm hpm
      · rintro ⟨hn, hpn, hfirst⟩
        refine ⟨(List.mem_cons.1 hn).resolve_left ?_, hpn, fun m hm =>
          hfirst m (List.mem_cons_of_mem a hm)⟩
        rintro rfl
        rw [hp] at hpn
        cases hpn

/-- The first length with a property, from the least one on. -/
theorem find?_range_eq_some_iff {p : Nat → Bool} {k n : Nat} :
    (List.range (k + 1)).find? p = some n ↔
      n ≤ k ∧ p n = true ∧ ∀ m ≤ k, p m = true → n ≤ m := by
  rw [find?_eq_some_iff_of_pairwise (fun _ _ => Nat.lt_asymm) List.pairwise_lt_range]
  simp only [List.mem_range, Nat.lt_succ_iff, Nat.le_iff_lt_or_eq, @eq_comm _ n]

/-- The first length with a property, from the greatest one on. -/
theorem find?_reverse_range_eq_some_iff {p : Nat → Bool} {k n : Nat} :
    (List.range (k + 1)).reverse.find? p = some n ↔
      n ≤ k ∧ p n = true ∧ ∀ m ≤ k, p m = true → m ≤ n := by
  have hdown : (List.range (k + 1)).reverse.Pairwise fun a b => b < a :=
    List.pairwise_reverse.2 List.pairwise_lt_range
  rw [find?_eq_some_iff_of_pairwise (fun _ _ => Nat.lt_asymm) hdown]
  simp only [List.mem_reverse, List.mem_range, Nat.lt_succ_iff, Nat.le_iff_lt_or_eq]

section
variable {pattern : List Element} {text : Octets} {n : Nat}

/-- **The start of a value** that a pattern stands for is the longest one, or the shortest one. -/
theorem startLength?_eq_some_iff (longest : Bool) :
    startLength? longest pattern text = some n ↔ n ≤ text.length ∧
      Describes pattern (text.take n) ∧ ∀ m ≤ text.length, Describes pattern (text.take m) →
        if longest then m ≤ n else n ≤ m := by
  cases longest
  · simp only [startLength?, Bool.false_eq_true, if_false, find?_range_eq_some_iff, accepts_iff]
  · simp only [startLength?, if_true, find?_reverse_range_eq_some_iff, accepts_iff]

/-- **The end of a value** that a pattern stands for is the longest one, or the shortest one. -/
theorem endStart?_eq_some_iff (longest : Bool) :
    endStart? longest pattern text = some n ↔ n ≤ text.length ∧
      Describes pattern (text.drop n) ∧ ∀ m ≤ text.length, Describes pattern (text.drop m) →
        if longest then n ≤ m else m ≤ n := by
  cases longest
  · simp only [endStart?, Bool.false_eq_true, if_false, find?_reverse_range_eq_some_iff,
      accepts_iff]
  · simp only [endStart?, if_true, find?_range_eq_some_iff, accepts_iff]

end

/-! ## Quoted patterns -/

/-- Characters that stand for themselves stand for one text. -/
theorem describes_map_char_iff {cs text : Octets} :
    Describes (cs.map .char) text ↔ text = cs := by
  induction cs generalizing text with
  | nil =>
    constructor
    · intro h
      cases h with
      | nil => rfl
    · rintro rfl
      exact .nil
  | cons c cs ih =>
    cases text with
    | nil => exact iff_of_false (not_describes_nil nofun) nofun
    | cons d text =>
      have hc : Element.char c ≠ .many := nofun
      rw [List.map_cons, describes_cons_iff hc, ih, List.cons.injEq]
      exact and_congr_left' beq_iff_eq

/-- Quoted characters are elements that stand for themselves. -/
theorem elements_quoted {gs : List Glyph} (h : ∀ c, Glyph.char c ∉ gs) {fuel : Nat}
    (hfuel : (textOf gs).length ≤ fuel) (done : List Element) :
    elements fuel done (patternText true gs) = done.reverse ++ (textOf gs).map .char := by
  induction gs generalizing fuel done with
  | nil => cases fuel <;> simp [elements, patternText, textOf]
  | cons g gs ih =>
    have hgs : ∀ c, Glyph.char c ∉ gs := fun c hc => h c (List.mem_cons_of_mem g hc)
    cases g with
    | char c => exact absurd List.mem_cons_self (h c)
    | quote => exact ih hgs hfuel done
    | escaped c =>
      have htext : textOf (.escaped c :: gs) = c :: textOf gs := rfl
      rw [htext, List.length_cons] at hfuel
      obtain ⟨fuel, rfl⟩ := Nat.exists_eq_add_one_of_ne_zero (Nat.ne_of_gt (Nat.lt_of_lt_of_le
        (Nat.succ_pos _) hfuel))
      have hstep : elements (fuel + 1) done (patternText true (.escaped c :: gs)) =
          elements fuel (.char c :: done) (patternText true gs) := rfl
      rw [hstep, ih hgs (Nat.le_of_succ_le_succ hfuel), htext]
      simp

/-- A pattern is not shorter than its text. -/
theorem length_textOf_le (bare : Bool) (gs : List Glyph) :
    (textOf gs).length ≤ (patternText bare gs).length := by
  induction gs generalizing bare with
  | nil => exact Nat.le_refl _
  | cons g gs ih =>
    cases g with
    | char c => exact Nat.succ_le_succ (ih _)
    | quote => exact ih true
    | escaped c =>
      have hle := Nat.succ_le_succ (ih true)
      cases bare with
      | true => exact Nat.le_succ_of_le hle
      | false => exact hle

/-- **A quoted pattern** stands for its own text and no other. -/
theorem accepts_quoted_iff {gs : List Glyph} (h : ∀ c, Glyph.char c ∉ gs) {text : Octets} :
    accepts (elementsOf (patternText true gs)) text = true ↔ text = textOf gs := by
  have hfuel : (textOf gs).length ≤ (patternText true gs).length + 1 :=
    Nat.le_succ_of_le (length_textOf_le true gs)
  rw [accepts_iff, elementsOf, elements_quoted h hfuel]
  exact describes_map_char_iff

end KctlProbe.Sandbox.Script
