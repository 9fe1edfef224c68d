import KctlProbe.Json.Number

/-!
# Values that are passed over

The value of a member whose name means nothing here is read only to find its end. `skip` walks over
one value with the arrays and objects that are still open on a list, so values may nest to any
depth; of numbers and strings only the form is checked.
-/

namespace KctlProbe.Json

/-- An array or object that is still open. -/
inductive Frame where
  | array
  | object
  deriving DecidableEq, Repr

/-- The byte that closes an array or object. -/
def Frame.close : Frame → UInt8
  | .array => 0x5D
  | .object => 0x7D

/-- What must come next in a value that is passed over. -/
inductive Expecting where
  /-- A value. -/
  | value
  /-- A member of an object: its name, a colon and a value. -/
  | member
  /-- What may follow a value: nothing more, a comma or the end of what is open. -/
  | next
  deriving DecidableEq, Repr

/-- Passes over a value that is neither an array nor an object. -/
def skipScalar : Source → Except Fault Source
  | .byte b rest =>
    if b = 0x6E then literal [0x75, 0x6C, 0x6C] rest
    else if b = 0x74 then literal [0x72, 0x75, 0x65] rest
    else if b = 0x66 then literal [0x61, 0x6C, 0x73, 0x65] rest
    else if b = 0x22 then skipText rest
    else if b = 0x2D ∨ isDigit b then skipNumeral (.byte b rest)
    else .error .malformed
  | s => .error s.shortage

theorem skipScalar_length_lt {s r : Source} (h : skipScalar s = .ok r) : r.length < s.length := by
  unfold skipScalar at h
  split at h
  · split at h
    · have := literal_length_le h
      simp only [Source.length]; omega
    split at h
    · have := literal_length_le h
      simp only [Source.length]; omega
    split at h
    · have := literal_length_le h
      simp only [Source.length]; omega
    split at h
    · have := skipText_length_lt h
      simp only [Source.length]; omega
    split at h
    · exact skipNumeral_length_lt h
    · cases h
  · cases h

/-- What is left after leading blanks, when it starts with a byte, is longer than its tail. -/
theorem length_lt_of_skipSpace {s rest : Source} {b : UInt8} (h : skipSpace s = .byte b rest) :
    rest.length < s.length := by
  have := skipSpace_length_le s
  rw [h] at this
  simp only [Source.length] at this
  omega

/-- Passes over what is expected and over the rest of all that is `unclosed`, the innermost first. -/
def skip (expecting : Expecting) (unclosed : List Frame) (s : Source) : Except Fault Source :=
  match expecting, unclosed with
  | .value, unclosed =>
    match h : skipSpace s with
    | .byte b rest =>
      have := length_lt_of_skipSpace h
      if b = 0x5B then
        match h : skipSpace rest with
        | .byte c rest' =>
          have := length_lt_of_skipSpace h
          if c = 0x5D then skip .next unclosed rest'
          else skip .value (.array :: unclosed) (.byte c rest')
        | s => .error s.shortage
      else if b = 0x7B then
        match h : skipSpace rest with
        | .byte c rest' =>
          have := length_lt_of_skipSpace h
          if c = 0x7D then skip .next unclosed rest'
          else skip .member (.object :: unclosed) (.byte c rest')
        | s => .error s.shortage
      else
        match h : skipScalar (.byte b rest) with
        | .ok rest' =>
          have := skipScalar_length_lt h
          skip .next unclosed rest'
        | .error f => .error f
    | s => .error s.shortage
  | .member, unclosed =>
    match h : skipSpace s with
    | .byte b rest =>
      have := length_lt_of_skipSpace h
      if b = 0x22 then
        match h : skipText rest with
        | .ok rest' =>
          have := skipText_length_lt h
          match h : skipSpace rest' with
          | .byte c rest'' =>
            have := length_lt_of_skipSpace h
            if c = 0x3A then skip .value unclosed rest'' else .error .malformed
          | s => .error s.shortage
        | .error f => .error f
      else .error .malformed
    | s => .error s.shortage
  | .next, [] => .ok s
  | .next, frame :: unclosed =>
    match h : skipSpace s with
    | .byte b rest =>
      have := length_lt_of_skipSpace h
      if b = 0x2C then
        match frame with
        | .array => skip .value (.array :: unclosed) rest
        | .object => skip .member (.object :: unclosed) rest
      else if b = frame.close then skip .next unclosed rest
      else .error .malformed
    | s => .error s.shortage
termination_by s.length
decreasing_by all_goals first | omega | (simp only [Source.length] at *; omega)

/-- Passes over one value. -/
def skipValue (s : Source) : Except Fault Source :=
  skip .value [] s

theorem skip_length_le {expecting : Expecting} {unclosed : List Frame} {s r : Source}
    (h : skip expecting unclosed s = .ok r) : r.length ≤ s.length := by
  fun_induction skip expecting unclosed s with
  | case2 | case5 | case7 =>
    rename_i ih
    have := ih h
    simp only [Source.length] at *
    omega
  | case1 | case4 | case10 | case17 | case18 | case19 =>
    rename_i ih
    have := ih h
    omega
  | case16 => cases h; exact Nat.le_refl _
  | _ => cases h

end KctlProbe.Json
