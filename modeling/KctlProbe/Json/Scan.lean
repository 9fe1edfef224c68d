import KctlProbe.Json.Source
import KctlProbe.Json.Fault

/-!
# The tokens of a JSON text

Readers for blanks, literals and strings. Each takes what is still to be read and returns what is
left, or the first fault. A reader never leaves more than it was given (`skipSpace_length_le`,
`literal_length_le`, `text_length_lt` and so on), which is what ends the loops over values.

A string is read in two ways: `text` gives its bytes with the escapes resolved, and refuses half a
surrogate pair; `skipText` only finds its end.
-/

namespace KctlProbe.Json

/-- The fault of a text that stops where more is needed. -/
def Source.shortage : Source → Fault
  | .byte _ rest => rest.shortage
  | .finished => .truncated
  | .failed e => .unreadable e

/-- Space, tab, line feed and carriage return. -/
def isSpace (b : UInt8) : Bool :=
  b == 0x20 || b == 0x09 || b == 0x0A || b == 0x0D

/-- What is left after leading blanks. -/
def skipSpace : Source → Source
  | .byte b rest => if isSpace b then skipSpace rest else .byte b rest
  | s => s

/-- Reads exactly the bytes `expected`. -/
def literal : Bytes → Source → Except Fault Source
  | [], s => .ok s
  | c :: cs, .byte b rest => if b = c then literal cs rest else .error .malformed
  | _ :: _, s => .error s.shortage

/-- The value of a hexadecimal digit of either case. -/
def hexValue? (b : UInt8) : Option Nat :=
  if 0x30 ≤ b ∧ b ≤ 0x39 then some (b.toNat - 0x30)
  else if 0x41 ≤ b ∧ b ≤ 0x46 then some (b.toNat - 0x41 + 10)
  else if 0x61 ≤ b ∧ b ≤ 0x66 then some (b.toNat - 0x61 + 10)
  else none

/-- Reads four hexadecimal digits. All four bytes are taken before any is looked at. -/
def hexFour : Source → Except Fault (Nat × Source)
  | .byte a (.byte b (.byte c (.byte d rest))) =>
    match hexValue? a, hexValue? b, hexValue? c, hexValue? d with
    | some a, some b, some c, some d => .ok (((a * 16 + b) * 16 + c) * 16 + d, rest)
    | _, _, _, _ => .error .malformed
  | s => .error s.shortage

/-- The byte that a one-letter escape stands for. -/
def shortEscape? (b : UInt8) : Option UInt8 :=
  if b = 0x22 ∨ b = 0x5C ∨ b = 0x2F then some b
  else if b = 0x62 then some 0x08
  else if b = 0x66 then some 0x0C
  else if b = 0x6E then some 0x0A
  else if b = 0x72 then some 0x0D
  else if b = 0x74 then some 0x09
  else none

/-- Whether a number is the first half of a surrogate pair. -/
def isHighSurrogate (n : Nat) : Bool := 0xD800 ≤ n && n ≤ 0xDBFF

/-- Whether a number is the second half of a surrogate pair. -/
def isLowSurrogate (n : Nat) : Bool := 0xDC00 ≤ n && n ≤ 0xDFFF

/-- Reads the second half of a pair whose first half is `high`. -/
def lowHalf (high : Nat) : Source → Except Fault (Bytes × Source)
  | .byte b (.byte c rest) =>
    if b = 0x5C ∧ c = 0x75 then
      match hexFour rest with
      | .ok (low, rest) =>
        if isLowSurrogate low then
          .ok (String.utf8EncodeChar
            (Char.ofNat ((high - 0xD800) * 0x400 + (low - 0xDC00) + 0x10000)), rest)
        else .error .malformed
      | .error f => .error f
    else .error .malformed
  | .byte b s => if b = 0x5C then .error s.shortage else .error .malformed
  | s => .error s.shortage

/-- Reads what follows the backslash of an escape, and gives the bytes that it stands for. -/
def escape : Source → Except Fault (Bytes × Source)
  | .byte c rest =>
    match shortEscape? c with
    | some b => .ok ([b], rest)
    | none =>
      if c = 0x75 then
        match hexFour rest with
        | .ok (n, rest) =>
          if isLowSurrogate n then .error .malformed
          else if isHighSurrogate n then lowHalf n rest
          else .ok (String.utf8EncodeChar (Char.ofNat n), rest)
        | .error f => .error f
      else .error .malformed
  | s => .error s.shortage

/-- Passes over what follows the backslash of an escape. Half a pair is let through. -/
def skipEscape : Source → Except Fault Source
  | .byte c rest =>
    match shortEscape? c with
    | some _ => .ok rest
    | none =>
      if c = 0x75 then (hexFour rest).map (·.2)
      else .error .malformed
  | s => .error s.shortage

section Lengths

theorem skipSpace_length_le (s : Source) : (skipSpace s).length ≤ s.length := by
  fun_induction skipSpace s with
  | case1 b rest h ih => simp only [Source.length]; omega
  | case2 => exact Nat.le_refl _
  | case3 => exact Nat.le_refl _

theorem literal_length_le {cs : Bytes} {s r : Source} (h : literal cs s = .ok r) :
    r.length ≤ s.length := by
  fun_induction literal cs s with
  | case1 => simp_all
  | case2 =>
    rename_i ih
    have := ih h
    simp only [Source.length]; omega
  | case3 => cases h
  | case4 => cases h

theorem hexFour_length_lt {s r : Source} {n : Nat} (h : hexFour s = .ok (n, r)) :
    r.length < s.length := by
  unfold hexFour at h
  split at h
  · split at h
    · cases h; simp only [Source.length]; omega
    · cases h
  · cases h

theorem lowHalf_length_lt {high : Nat} {s r : Source} {bs : Bytes}
    (h : lowHalf high s = .ok (bs, r)) : r.length < s.length := by
  unfold lowHalf at h
  split at h
  · split at h
    · split at h
      · rename_i hx
        split at h
        · simp only [Except.ok.injEq, Prod.mk.injEq] at h
          obtain ⟨-, rfl⟩ := h
          have := hexFour_length_lt hx
          simp only [Source.length]; omega
        · cases h
      · cases h
    · cases h
  · split at h <;> cases h
  · cases h

theorem escape_length_lt {s r : Source} {bs : Bytes} (h : escape s = .ok (bs, r)) :
    r.length < s.length := by
  unfold escape at h
  split at h
  · split at h
    · cases h; simp only [Source.length]; omega
    · split at h
      · split at h
        · rename_i hx
          have := hexFour_length_lt hx
          split at h
          · cases h
          · split at h
            · have := lowHalf_length_lt h
              simp only [Source.length]; omega
            · simp only [Except.ok.injEq, Prod.mk.injEq] at h
              obtain ⟨-, rfl⟩ := h
              simp only [Source.length]; omega
        · cases h
      · cases h
  · cases h

theorem skipEscape_length_lt {s r : Source} (h : skipEscape s = .ok r) :
    r.length < s.length := by
  unfold skipEscape at h
  split at h
  · split at h
    · cases h; simp only [Source.length]; omega
    · split at h
      · rename_i rest _ _ _
        cases hx : hexFour rest with
        | error f => rw [hx] at h; cases h
        | ok p =>
          rw [hx] at h
          cases h
          have := hexFour_length_lt (r := p.2) (n := p.1) hx
          simp only [Source.length]; omega
      · cases h
  · cases h

end Lengths

/-- Reads a string up to its closing quote and gives its bytes after those of `done`, which are in
reverse. A control character must be escaped. -/
def text (done : Bytes) (s : Source) : Except Fault (Bytes × Source) :=
  match s with
  | .byte b rest =>
    if b = 0x22 then .ok (done.reverse, rest)
    else if b = 0x5C then
      match h : escape rest with
      | .ok (bs, rest') =>
        have := escape_length_lt h
        text (bs.reverse ++ done) rest'
      | .error f => .error f
    else if b < 0x20 then .error .malformed
    else text (b :: done) rest
  | s => .error s.shortage
termination_by s.length
decreasing_by all_goals simp only [Source.length]; omega

/-- Passes over a string up to its closing quote. -/
def skipText (s : Source) : Except Fault Source :=
  match s with
  | .byte b rest =>
    if b = 0x22 then .ok rest
    else if b = 0x5C then
      match h : skipEscape rest with
      | .ok rest' =>
        have := skipEscape_length_lt h
        skipText rest'
      | .error f => .error f
    else if b < 0x20 then .error .malformed
    else skipText rest
  | s => .error s.shortage
termination_by s.length
decreasing_by all_goals simp only [Source.length]; omega

theorem text_length_lt {done bs : Bytes} {s r : Source} (h : text done s = .ok (bs, r)) :
    r.length < s.length := by
  fun_induction text done s with
  | case1 => cases h; simp only [Source.length]; omega
  | case2 done rest bs' rest' hx hlt _ ih => have := ih h; simp only [Source.length]; omega
  | case3 => cases h
  | case4 => cases h
  | case5 done b rest _ _ _ ih => have := ih h; simp only [Source.length]; omega
  | case6 => cases h

theorem skipText_length_lt {s r : Source} (h : skipText s = .ok r) : r.length < s.length := by
  fun_induction skipText s with
  | case1 => cases h; simp only [Source.length]; omega
  | case2 rest rest' hx hlt _ ih => have := ih h; simp only [Source.length]; omega
  | case3 => cases h
  | case4 => cases h
  | case5 b rest _ _ _ ih => have := ih h; simp only [Source.length]; omega
  | case6 => cases h

end KctlProbe.Json
