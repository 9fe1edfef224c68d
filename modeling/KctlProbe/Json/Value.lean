import KctlProbe.Json.Skip

/-!
# Typed values

Readers for the kinds of value that a setting can have. A value of another kind is still read as far
as its kind is decided, so what is wrong with its text comes before what is wrong with its type.
-/

namespace KctlProbe.Json

/-- The bytes of a string, after its opening quote, as text. -/
def textString (s : Source) : Except Fault (String × Source) :=
  match text [] s with
  | .ok (bs, rest) =>
    match Utf8.decode? bs with
    | some t => .ok (t, rest)
    | none => .error .malformed
  | .error f => .error f

/-- The fault of a value that stands where another kind of value is needed. -/
def mismatch : Source → Fault
  | .byte b rest =>
    let outcome : Except Fault Unit :=
      if b = 0x6E then (literal [0x75, 0x6C, 0x6C] rest).map fun _ => ()
      else if b = 0x74 then (literal [0x72, 0x75, 0x65] rest).map fun _ => ()
      else if b = 0x66 then (literal [0x61, 0x6C, 0x73, 0x65] rest).map fun _ => ()
      else if b = 0x2D ∨ isDigit b then (number (.byte b rest)).map fun _ => ()
      else if b = 0x22 then (textString rest).map fun _ => ()
      else if b = 0x5B ∨ b = 0x7B then .ok ()
      else .error .malformed
    match outcome with
    | .ok () => .mistyped
    | .error f => f
  | s => s.shortage

/-- Reads a string. -/
def string (s : Source) : Except Fault (String × Source) :=
  match skipSpace s with
  | .byte b rest => if b = 0x22 then textString rest else .error (mismatch (.byte b rest))
  | s => .error s.shortage

/-- Reads `true` or `false`. -/
def boolean (s : Source) : Except Fault (Bool × Source) :=
  match skipSpace s with
  | .byte b rest =>
    if b = 0x74 then (literal [0x72, 0x75, 0x65] rest).map (true, ·)
    else if b = 0x66 then (literal [0x61, 0x6C, 0x73, 0x65] rest).map (false, ·)
    else .error (mismatch (.byte b rest))
  | s => .error s.shortage

/-- Reads an integer from `low` to `high`. -/
def integer (low high : Int) (s : Source) : Except Fault (Int × Source) :=
  match skipSpace s with
  | .byte b rest =>
    if b = 0x2D ∨ isDigit b then
      match number (.byte b rest) with
      | .ok (.integer z, rest) =>
        if low ≤ z ∧ z ≤ high then .ok (z, rest) else .error .mistyped
      | .ok (.real, _) => .error .mistyped
      | .error f => .error f
    else .error (mismatch (.byte b rest))
  | s => .error s.shortage

/-- Reads `null`, or a value by `read`. -/
def nullable {α : Type} (read : Source → Except Fault (α × Source)) (s : Source) :
    Except Fault (Option α × Source) :=
  match skipSpace s with
  | .byte b rest =>
    if b = 0x6E then (literal [0x75, 0x6C, 0x6C] rest).map (none, ·)
    else (read (.byte b rest)).map fun (x, rest) => (some x, rest)
  | s => .error s.shortage

/-- Reads the colon between a name and its value. -/
def colon (s : Source) : Except Fault Source :=
  match skipSpace s with
  | .byte b rest => if b = 0x3A then .ok rest else .error .malformed
  | s => .error s.shortage

/-- What comes next inside an array or object. -/
inductive Item where
  /-- The array or object is closed; what is left after it. -/
  | closed (rest : Source)
  /-- An element or member starts with byte `b`. -/
  | starts (b : UInt8) (rest : Source)
  deriving DecidableEq, Repr

/-- Reads up to the next element or member, or past the closing byte `close`. All but the first
follow a comma, and a comma is followed by one. -/
def nextItem (close : UInt8) (isFirst : Bool) (s : Source) : Except Fault Item :=
  match skipSpace s with
  | .byte b rest =>
    if b = close then .ok (.closed rest)
    else if isFirst then .ok (.starts b rest)
    else if b = 0x2C then
      match skipSpace rest with
      | .byte c rest => if c = close then .error .malformed else .ok (.starts c rest)
      | s => .error s.shortage
    else .error .malformed
  | s => .error s.shortage

section Lengths

theorem textString_length_lt {s r : Source} {t : String} (h : textString s = .ok (t, r)) :
    r.length < s.length := by
  unfold textString at h
  split at h
  · rename_i hx
    split at h
    · cases h; exact text_length_lt hx
    · cases h
  · cases h

theorem string_length_lt {s r : Source} {t : String} (h : string s = .ok (t, r)) :
    r.length < s.length := by
  unfold string at h
  split at h
  · rename_i hs
    split at h
    · have := textString_length_lt h
      have := length_lt_of_skipSpace hs
      omega
    · cases h
  · cases h

theorem boolean_length_lt {s r : Source} {b : Bool} (h : boolean s = .ok (b, r)) :
    r.length < s.length := by
  unfold boolean at h
  split at h
  · rename_i rest hs
    have := length_lt_of_skipSpace hs
    split at h
    · cases hl : literal [0x72, 0x75, 0x65] rest with
      | error f => rw [hl] at h; cases h
      | ok u => rw [hl] at h; cases h; have := literal_length_le hl; omega
    · split at h
      · cases hl : literal [0x61, 0x6C, 0x73, 0x65] rest with
        | error f => rw [hl] at h; cases h
        | ok u => rw [hl] at h; cases h; have := literal_length_le hl; omega
      · cases h
  · cases h

theorem integer_length_lt {low high z : Int} {s r : Source} (h : integer low high s = .ok (z, r)) :
    r.length < s.length := by
  unfold integer at h
  split at h
  · rename_i hs
    have := length_lt_of_skipSpace hs
    split at h
    · split at h
      · rename_i hn
        have := number_length_lt hn
        split at h
        · cases h; simp only [Source.length] at *; omega
        · cases h
      · cases h
      · cases h
    · cases h
  · cases h

theorem nullable_length_lt {α : Type} {read : Source → Except Fault (α × Source)}
    (hread : ∀ {s r x}, read s = .ok (x, r) → r.length < s.length) {s r : Source} {x : Option α}
    (h : nullable read s = .ok (x, r)) : r.length < s.length := by
  unfold nullable at h
  split at h
  · rename_i b rest hs
    have := length_lt_of_skipSpace hs
    split at h
    · cases hl : literal [0x75, 0x6C, 0x6C] rest with
      | error f => rw [hl] at h; cases h
      | ok u => rw [hl] at h; cases h; have := literal_length_le hl; omega
    · cases hr : read (.byte b rest) with
      | error f => rw [hr] at h; cases h
      | ok u =>
        rw [hr] at h
        cases h
        have := hread (r := u.2) (x := u.1) hr
        simp only [Source.length] at this
        omega
  · cases h

theorem colon_length_lt {s r : Source} (h : colon s = .ok r) : r.length < s.length := by
  unfold colon at h
  split at h
  · rename_i hs
    split at h
    · cases h; exact length_lt_of_skipSpace hs
    · cases h
  · cases h

theorem nextItem_length_lt {close b : UInt8} {isFirst : Bool} {s rest : Source}
    (h : nextItem close isFirst s = .ok (.starts b rest)) : rest.length < s.length := by
  unfold nextItem at h
  split at h
  · rename_i hs
    have := length_lt_of_skipSpace hs
    split at h
    · cases h
    · split at h
      · cases h; exact this
      · split at h
        · split at h
          · rename_i hr
            have := length_lt_of_skipSpace hr
            split at h
            · cases h
            · cases h; omega
          · cases h
        · cases h
  · cases h

end Lengths

end KctlProbe.Json
