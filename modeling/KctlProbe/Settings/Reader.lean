import KctlProbe.Settings.Field
import KctlProbe.Json.Value

/-!
# Reading a configuration

A configuration is a JSON object whose members name fields, in any order, or a JSON array that gives
the fields in the order of declaration. A field that is not given keeps its default, and members
with other names are passed over. The text is read once from left to right, so the first problem in
it decides how the reading fails.
-/

namespace KctlProbe.Settings

open Json (Source Fault)

/-- Reads an integer of 64 bits. -/
def integer64 (s : Source) : Except Fault (Int64 × Source) :=
  (Json.integer (-9223372036854775808) 9223372036854775807 s).map fun (z, rest) =>
    (Int64.ofInt z, rest)

/-- Reads the number of a port. -/
def integer16 (s : Source) : Except Fault (UInt16 × Source) :=
  (Json.integer 0 65535 s).map fun (z, rest) => (UInt16.ofNat z.toNat, rest)

/-- Reads the value of a field. -/
def Field.read : Field → Source → Except Fault (Assignment × Source)
  | .program, s => (Json.string s).map fun (t, rest) => (.program (Utf8.encode t), rest)
  | .host, s => (Json.string s).map fun (t, rest) => (.host t, rest)
  | .port, s => (integer16 s).map fun (n, rest) => (.port n, rest)
  | .user, s => (Json.nullable integer64 s).map fun (n, rest) => (.user n, rest)
  | .hmacKey, s => (Json.nullable Json.string s).map fun (t, rest) => (.hmacKey t, rest)
  | .tls, s => (Json.boolean s).map fun (b, rest) => (.tls b, rest)
  | .clusterVersion, s =>
    (Json.nullable integer64 s).map fun (n, rest) => (.clusterVersion n, rest)
  | .quiet, s => (Json.boolean s).map fun (b, rest) => (.quiet b, rest)
  | .terse, s => (Json.boolean s).map fun (b, rest) => (.terse b, rest)
  | .verbose, s => (Json.boolean s).map fun (b, rest) => (.verbose b, rest)
  | .yes, s => (Json.boolean s).map fun (b, rest) => (.yes b, rest)

/-- What a member of an object does: it assigns a field, or nothing. -/
inductive Member where
  | assigns (field : Field) (assignment : Assignment)
  | ignored
  deriving DecidableEq, Repr

/-- Reads a member after the quote that opens its name. A field that was `given` before is refused
before its value is looked at. -/
def readMember (given : List Field) (s : Source) : Except Fault (Member × Source) :=
  match Json.textString s with
  | .error f => .error f
  | .ok (name, rest) =>
    match Field.ofName? name with
    | some field =>
      if field ∈ given then .error .mistyped
      else
        match Json.colon rest with
        | .error f => .error f
        | .ok rest => (field.read rest).map fun (a, rest) => (.assigns field a, rest)
    | none =>
      match Json.colon rest with
      | .error f => .error f
      | .ok rest => (Json.skipValue rest).map fun rest => (.ignored, rest)

section Lengths

theorem length_of_map {α β : Type} {e : Except Fault (α × Source)} {f : α → β} {n : Nat}
    {x : β} {r : Source} (h : (e.map fun (a, rest) => (f a, rest)) = .ok (x, r))
    (he : ∀ {a r}, e = .ok (a, r) → r.length < n) : r.length < n := by
  cases e with
  | error f => cases h
  | ok p =>
    simp only [Except.map, Except.ok.injEq, Prod.mk.injEq] at h
    obtain ⟨-, rfl⟩ := h
    exact he (a := p.1) rfl

theorem integer64_length_lt {s r : Source} {n : Int64} (h : integer64 s = .ok (n, r)) :
    r.length < s.length :=
  length_of_map h Json.integer_length_lt

theorem integer16_length_lt {s r : Source} {n : UInt16} (h : integer16 s = .ok (n, r)) :
    r.length < s.length :=
  length_of_map (f := fun z : Int => UInt16.ofNat z.toNat) h Json.integer_length_lt

theorem Field.read_length_lt {field : Field} {s r : Source} {a : Assignment}
    (h : field.read s = .ok (a, r)) : r.length < s.length := by
  cases field with
  | program =>
    exact length_of_map (f := fun t => Assignment.program (Utf8.encode t)) h Json.string_length_lt
  | host => exact length_of_map h Json.string_length_lt
  | port => exact length_of_map h integer16_length_lt
  | user => exact length_of_map h (Json.nullable_length_lt integer64_length_lt)
  | hmacKey => exact length_of_map h (Json.nullable_length_lt Json.string_length_lt)
  | clusterVersion => exact length_of_map h (Json.nullable_length_lt integer64_length_lt)
  | tls | quiet | terse | verbose | yes => exact length_of_map h Json.boolean_length_lt

theorem readMember_length_lt {given : List Field} {s r : Source} {m : Member}
    (h : readMember given s = .ok (m, r)) : r.length < s.length := by
  unfold readMember at h
  split at h
  · cases h
  · rename_i name rest hx
    have := Json.textString_length_lt hx
    split at h
    · split at h
      · cases h
      · split at h
        · cases h
        · rename_i field _ _ _ rest' hc
          have := Json.colon_length_lt hc
          exact length_of_map (f := fun a => Member.assigns field a) h fun hr => by
            have := Field.read_length_lt hr
            omega
    · split at h
      · cases h
      · rename_i rest' hc
        have := Json.colon_length_lt hc
        cases hs : Json.skipValue rest' with
        | error f => rw [hs] at h; cases h
        | ok u =>
          rw [hs] at h
          cases h
          have := Json.skip_length_le hs
          omega

end Lengths

/-- Reads the members of an object up to its end, into settings `c` of which the fields `given`
were assigned by the members before. -/
def readMembers (given : List Field) (isFirst : Bool) (c : Settings) (s : Source) :
    Except Fault (Settings × Source) :=
  match h : Json.nextItem 0x7D isFirst s with
  | .error f => .error f
  | .ok (.closed rest) => .ok (c, rest)
  | .ok (.starts b rest) =>
    have := Json.nextItem_length_lt h
    if b = 0x22 then
      match h : readMember given rest with
      | .error f => .error f
      | .ok (.assigns field a, rest') =>
        have := readMember_length_lt h
        readMembers (field :: given) false (c.assign a) rest'
      | .ok (.ignored, rest') =>
        have := readMember_length_lt h
        readMembers given false c rest'
    else .error .malformed
termination_by s.length

/-- Reads the elements of an array up to its end, each into the next of `fields`. An array with
more elements than fields is refused. -/
def readElements (isFirst : Bool) (c : Settings) :
    List Field → Source → Except Fault (Settings × Source)
  | [], s =>
    match Json.skipSpace s with
    | .byte b rest => if b = 0x5D then .ok (c, rest) else .error .malformed
    | s => .error s.shortage
  | field :: fields, s =>
    match Json.nextItem 0x5D isFirst s with
    | .error f => .error f
    | .ok (.closed rest) => .ok (c, rest)
    | .ok (.starts b rest) =>
      match field.read (.byte b rest) with
      | .error f => .error f
      | .ok (a, rest) => readElements false (c.assign a) fields rest

/-- Reads the outermost value. -/
def readDocument (s : Source) : Except Fault (Settings × Source) :=
  match Json.skipSpace s with
  | .byte b rest =>
    if b = 0x5B then readElements true .default Field.all rest
    else if b = 0x7B then readMembers [] true .default rest
    else .error (Json.mismatch (.byte b rest))
  | s => .error s.shortage

/-- Reads a configuration: one value, and nothing but blanks after it. -/
def ofSource (s : Source) : Except Fault Settings :=
  match readDocument s with
  | .error f => .error f
  | .ok (c, rest) =>
    match Json.skipSpace rest with
    | .byte _ _ => .error .malformed
    | .finished => .ok c
    | .failed e => .error (.unreadable e)

end KctlProbe.Settings
