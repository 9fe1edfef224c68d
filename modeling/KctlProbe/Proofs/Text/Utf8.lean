import KctlProbe.Text.Utf8
import Mathlib.Data.List.Basic
import Mathlib.Tactic.Common

/-!
# The decoder against the encoding

The decoder of byte strings loses nothing: the bytes of the pieces of a byte string, one after the
other, are that byte string (`flatMap_bytes_pieces`). On an encoded text it finds the characters of
the text and nothing broken (`pieces_encode`). So a byte string is read as text exactly if it is the
encoding of that text (`decode?_eq_some_iff`).

Both directions look at a character as its first byte and the bytes of `tail`, which hold six bits
each. `Owes` says of a state inside a character what is still to come.
-/

namespace KctlProbe.Utf8

/-- The bits of a code point in front of those of its last `owed` bytes. -/
def front : Nat → Nat → Nat
  | 0, v => v
  | owed + 1, v => front owed v / 64

/-- The last `owed` bytes of the encoding of code point `v`. -/
def tail : Nat → Nat → Bytes
  | 0, _ => []
  | owed + 1, v => UInt8.ofNat (front owed v % 64 + 0x80) :: tail owed v

/-- The bytes that a piece stands for. -/
def Piece.bytes : Piece → Bytes
  | .char c => String.utf8EncodeChar c
  | .broken bytes => bytes

/-- The bytes that a state has taken without completing a piece. -/
def State.seen : State → Bytes
  | .idle => []
  | .inside seen _ _ _ _ => seen

@[simp] theorem front_zero (v : Nat) : front 0 v = v := rfl
@[simp] theorem front_one (v : Nat) : front 1 v = v / 64 := rfl
@[simp] theorem front_two (v : Nat) : front 2 v = v / 4096 := by
  simp [front, Nat.div_div_eq_div_mul]
@[simp] theorem front_three (v : Nat) : front 3 v = v / 262144 := by
  simp [front, Nat.div_div_eq_div_mul]
@[simp] theorem Piece.bytes_char (c : Char) : (Piece.char c).bytes = String.utf8EncodeChar c := rfl
@[simp] theorem Piece.bytes_broken (bs : Bytes) : (Piece.broken bs).bytes = bs := rfl
@[simp] theorem State.seen_idle : State.idle.seen = [] := rfl
@[simp] theorem State.seen_inside (seen : Bytes) (low high : UInt8) (owed code : Nat) :
    (State.inside seen low high owed code).seen = seen := rfl

/-! ## The encoding of one character -/

section
variable {v : Nat}

/-- A number that is a code point is the number of its character. -/
theorem toNat_ofNat (h : v.isValidChar) : (Char.ofNat v).val.toNat = v := by
  rw [Char.ofNat, dif_pos h]
  rfl

/-- The numbers below `0x80` have one byte. -/
theorem utf8EncodeChar_of_lt_80 (h : v < 0x80) :
    String.utf8EncodeChar (Char.ofNat v) = [UInt8.ofNat v] := by
  have hv : (Char.ofNat v).val.toNat = v := toNat_ofNat (.inl (by omega))
  unfold String.utf8EncodeChar
  rw [hv, if_pos (by omega)]

/-- The numbers from `0x80` and below `0x800` have two bytes. -/
theorem utf8EncodeChar_of_lt_800 (hl : 0x80 ≤ v) (h : v < 0x800) :
    String.utf8EncodeChar (Char.ofNat v) = UInt8.ofNat (v / 64 + 0xC0) :: tail 1 v := by
  have hv : (Char.ofNat v).val.toNat = v := toNat_ofNat (.inl (by omega))
  unfold String.utf8EncodeChar
  rw [hv, if_neg (by omega), if_pos (by omega), Nat.mod_eq_of_lt (by omega)]
  simp [tail]

/-- The numbers from `0x800` and below `0x10000` that are no surrogates have three bytes. -/
theorem utf8EncodeChar_of_lt_10000 (hl : 0x800 ≤ v) (h : v < 0x10000)
    (hs : v < 0xD800 ∨ 0xDFFF < v) :
    String.utf8EncodeChar (Char.ofNat v) = UInt8.ofNat (v / 4096 + 0xE0) :: tail 2 v := by
  have hv : (Char.ofNat v).val.toNat = v := toNat_ofNat (by unfold Nat.isValidChar; omega)
  unfold String.utf8EncodeChar
  rw [hv, if_neg (by omega), if_neg (by omega), if_pos (by omega), Nat.mod_eq_of_lt (by omega)]
  simp [tail]

/-- The numbers from `0x10000` and below `0x110000` have four bytes. -/
theorem utf8EncodeChar_of_lt_110000 (hl : 0x10000 ≤ v) (h : v < 0x110000) :
    String.utf8EncodeChar (Char.ofNat v) = UInt8.ofNat (v / 262144 + 0xF0) :: tail 3 v := by
  have hv : (Char.ofNat v).val.toNat = v := toNat_ofNat (.inr ⟨by omega, by omega⟩)
  unfold String.utf8EncodeChar
  rw [hv, if_neg (by omega), if_neg (by omega), if_neg (by omega), Nat.mod_eq_of_lt (by omega)]
  simp [tail]

end

/-- The bytes of a tail lie beyond ASCII. -/
theorem le_of_mem_tail {owed v : Nat} {b : UInt8} (h : b ∈ tail owed v) : 0x80 ≤ b.toNat := by
  induction owed with
  | zero => cases h
  | succ owed ih =>
    rcases List.mem_cons.1 h with rfl | h
    · rw [UInt8.toNat_ofNat']
      omega
    · exact ih h

/-- A first byte beyond ASCII, and the bytes of a tail. -/
theorem le_of_mem_cons_tail {n owed v : Nat} {b : UInt8} (hl : 0x80 ≤ n) (hn : n < 0x100)
    (h : b ∈ UInt8.ofNat n :: tail owed v) : 0x80 ≤ b.toNat := by
  rcases List.mem_cons.1 h with rfl | h
  · rw [UInt8.toNat_ofNat']
    omega
  · exact le_of_mem_tail h

/-- Every byte of a character beyond ASCII lies beyond ASCII. -/
theorem le_of_mem_utf8EncodeChar {c : Char} (hc : 0x80 ≤ c.toNat) {b : UInt8}
    (hb : b ∈ String.utf8EncodeChar c) : 0x80 ≤ b.toNat := by
  have hv : c.toNat < 0xD800 ∨ 0xDFFF < c.toNat ∧ c.toNat < 0x110000 := c.valid
  rw [← Char.ofNat_toNat c] at hb
  rcases Nat.lt_or_ge c.toNat 0x800 with h | h
  · rw [utf8EncodeChar_of_lt_800 hc h] at hb
    exact le_of_mem_cons_tail (by omega) (by omega) hb
  rcases Nat.lt_or_ge c.toNat 0x10000 with h' | h'
  · rw [utf8EncodeChar_of_lt_10000 h h' (by omega)] at hb
    exact le_of_mem_cons_tail (by omega) (by omega) hb
  · rw [utf8EncodeChar_of_lt_110000 h' (by omega)] at hb
    exact le_of_mem_cons_tail (by omega) (by omega) hb

/-- A byte of ASCII is a whole character. -/
theorem toNat_eq_of_mem_utf8EncodeChar {c : Char} {b : UInt8}
    (hb : b ∈ String.utf8EncodeChar c) (h : b.toNat < 0x80) : c.toNat = b.toNat := by
  have hc : c.toNat < 0x80 := by
    by_contra hge
    have := le_of_mem_utf8EncodeChar (Nat.le_of_not_lt hge) hb
    omega
  rw [← Char.ofNat_toNat c, utf8EncodeChar_of_lt_80 hc, List.mem_singleton] at hb
  rw [hb, UInt8.toNat_ofNat', Nat.mod_eq_of_lt (by omega)]

/-! ## Nothing is lost -/

/-- What a state inside a character has found out: every number that starts with the bits of `code`
and goes on as the next byte allows is a code point, and its encoding is the bytes `seen` and then
the `owed` bytes of its tail. -/
structure Owes (seen : Bytes) (low high : UInt8) (owed code : Nat) : Prop where
  owed_pos : 0 < owed
  low_ge : 0x80 ≤ low.toNat
  high_le : high.toNat ≤ 0xBF
  encodes : ∀ v, front owed v = code → low.toNat ≤ front (owed - 1) v % 64 + 0x80 →
    front (owed - 1) v % 64 + 0x80 ≤ high.toNat →
    String.utf8EncodeChar (Char.ofNat v) = seen ++ tail owed v

/-- Where the decoder can stand. -/
def State.Sound : State → Prop
  | .idle => True
  | .inside seen low high owed code => Owes seen low high owed code

/-- A byte and the number that it is. -/
theorem ofNat_eq_of_toNat {n : Nat} {b : UInt8} (h : n = b.toNat) : UInt8.ofNat n = b := by
  subst h
  exact UInt8.ofNat_toNat

/-- After a first byte that owes two, if what the next byte allows is neither too small nor a
surrogate. -/
theorem Owes.three {b low high : UInt8} {code : Nat} (hb : b.toNat = code + 0xE0)
    (hl : 0x80 ≤ low.toNat) (hh : high.toNat ≤ 0xBF)
    (h : ∀ w, w / 64 = code → low.toNat ≤ w % 64 + 0x80 → w % 64 + 0x80 ≤ high.toNat →
      0x20 ≤ w ∧ w < 0x400 ∧ (w < 0x360 ∨ 0x37F < w)) :
    Owes [b] low high 2 code := by
  refine ⟨by omega, hl, hh, fun v hv h1 h2 => ?_⟩
  rw [front_two] at hv
  have hw := h (v / 64) (by omega) h1 h2
  rw [utf8EncodeChar_of_lt_10000 (by omega) (by omega) (by omega),
    ofNat_eq_of_toNat (b := b) (by omega)]
  rfl

/-- After a first byte that owes three, if what the next byte allows is neither too small nor too
great. -/
theorem Owes.four {b low high : UInt8} {code : Nat} (hb : b.toNat = code + 0xF0)
    (hl : 0x80 ≤ low.toNat) (hh : high.toNat ≤ 0xBF)
    (h : ∀ w, w / 64 = code → low.toNat ≤ w % 64 + 0x80 → w % 64 + 0x80 ≤ high.toNat →
      0x10 ≤ w ∧ w < 0x110) :
    Owes [b] low high 3 code := by
  refine ⟨by omega, hl, hh, fun v hv h1 h2 => ?_⟩
  rw [front_three] at hv
  have hw := h (v / 4096) (by omega) (by simpa using h1) (by simpa using h2)
  rw [utf8EncodeChar_of_lt_110000 (by omega) (by omega), ofNat_eq_of_toNat (b := b) (by omega)]
  rfl

/-- A first byte is a piece or is kept. -/
theorem first_sound (b : UInt8) :
    (first b).2.Sound ∧ (first b).1.flatMap Piece.bytes ++ (first b).2.seen = [b] := by
  have hb : b.toNat < 256 := b.toNat_lt
  unfold first
  simp only [UInt8.lt_iff_toNat_lt, ← UInt8.toNat_inj, UInt8.reduceToNat]
  split
  · refine ⟨trivial, ?_⟩
    simp [utf8EncodeChar_of_lt_80 (by assumption)]
  split
  · exact ⟨trivial, rfl⟩
  split
  · refine ⟨⟨by decide, by decide, by decide, fun v hv h1 h2 => ?_⟩, rfl⟩
    rw [front_one] at hv
    rw [utf8EncodeChar_of_lt_800 (by omega) (by omega), ofNat_eq_of_toNat (b := b) (by omega)]
    rfl
  split
  · exact ⟨.three (by omega) (by decide) (by decide) fun w h h1 h2 => by
      simp only [UInt8.reduceToNat] at h1 h2; omega, rfl⟩
  split
  · exact ⟨.three (by omega) (by decide) (by decide) fun w h h1 h2 => by
      simp only [UInt8.reduceToNat] at h1 h2; omega, rfl⟩
  split
  · exact ⟨.three (by omega) (by decide) (by decide) fun w h h1 h2 => by omega, rfl⟩
  split
  · exact ⟨.four (by omega) (by decide) (by decide) fun w h h1 h2 => by
      simp only [UInt8.reduceToNat] at h1 h2; omega, rfl⟩
  split
  · exact ⟨.four (by omega) (by decide) (by decide) fun w h h1 h2 => by omega, rfl⟩
  split
  · exact ⟨.four (by omega) (by decide) (by decide) fun w h h1 h2 => by
      simp only [UInt8.reduceToNat] at h1 h2; omega, rfl⟩
  · exact ⟨trivial, rfl⟩

/-- The number that has `code` in front and six more bits. -/
theorem next_code {owed code v : Nat} {b : UInt8} (hb : 0x80 ≤ b.toNat ∧ b.toNat ≤ 0xBF)
    (h : front owed v = code * 64 + (b.toNat - 0x80)) :
    front (owed + 1) v = code ∧ front owed v % 64 + 0x80 = b.toNat := by
  show front owed v / 64 = code ∧ _
  omega

/-- A byte is a piece, ends one or is kept. -/
theorem step_sound {state : State} (h : state.Sound) (b : UInt8) :
    (step state b).2.Sound ∧
      (step state b).1.flatMap Piece.bytes ++ (step state b).2.seen = state.seen ++ [b] := by
  cases state with
  | idle => exact first_sound b
  | inside seen low high owed code =>
    obtain ⟨hpos, hlow, hhigh, henc⟩ := h
    simp only [step]
    split
    · next hb =>
      simp only [UInt8.le_iff_toNat_le] at hb
      obtain ⟨owed, rfl⟩ := Nat.exists_eq_add_one.2 hpos
      have hnext : ∀ v, front owed v = code * 64 + (b.toNat - 0x80) →
          String.utf8EncodeChar (Char.ofNat v) = seen ++ b :: tail owed v := by
        intro v hv
        obtain ⟨hcode, hbyte⟩ := next_code (by omega) hv
        rw [henc v hcode (by simp; omega) (by simp; omega), tail, ofNat_eq_of_toNat hbyte]
      split
      · next ho =>
        obtain rfl : owed = 0 := by omega
        refine ⟨trivial, ?_⟩
        simpa [tail] using hnext _ (Nat.div_one _)
      · refine ⟨⟨by simp; omega, by decide, by decide, fun v hv _ _ => ?_⟩, by simp⟩
        simpa using hnext v hv
    · obtain ⟨hs, hf⟩ := first_sound b
      exact ⟨hs, by simp [hf]⟩

/-- What a run takes is in its pieces and in what it keeps. -/
theorem run_sound {state : State} (h : state.Sound) (done : List Piece) (bs : Bytes) :
    (run state done bs).1.reverse.flatMap Piece.bytes ++ (run state done bs).2.seen =
      done.reverse.flatMap Piece.bytes ++ state.seen ++ bs := by
  induction bs generalizing state done with
  | nil => simp [run]
  | cons b bs ih =>
    obtain ⟨hs, hb⟩ := step_sound h b
    have := ih hs ((step state b).1.reverse ++ done)
    simp only [List.reverse_append, List.reverse_reverse, List.flatMap_append,
      List.append_assoc] at this
    rw [← List.append_assoc (List.flatMap _ _) _ bs, hb] at this
    simpa [run] using this

/-- The pieces of a byte string hold all of its bytes. -/
theorem flatMap_bytes_pieces (bs : Bytes) : (pieces bs).flatMap Piece.bytes = bs := by
  have h := @run_sound .idle trivial [] bs
  have hfinish : ∀ state : State, (finish state).flatMap Piece.bytes = state.seen := by
    intro state
    cases state <;> simp [finish]
  unfold pieces
  rw [List.flatMap_append, hfinish]
  simpa using h

/-! ## An encoded text is read back -/

/-- A run over two parts goes on where the first part left it. -/
theorem run_append (state : State) (done : List Piece) (as bs : Bytes) :
    run state done (as ++ bs) = run (run state done as).2 (run state done as).1 bs := by
  unfold run
  rw [List.foldl_append]

/-- A first byte that owes one. -/
theorem first_of_lt_E0 {b : UInt8} (h : 0xC2 ≤ b.toNat ∧ b.toNat < 0xE0) :
    first b = ([], .inside [b] 0x80 0xBF 1 (b.toNat - 0xC0)) := by
  unfold first
  simp only [UInt8.lt_iff_toNat_lt, UInt8.reduceToNat]
  rw [if_neg (by omega), if_neg (by omega), if_pos (by omega)]

/-- A first byte that owes two, and the second bytes that it allows. -/
theorem first_of_lt_F0 {b : UInt8} (h : 0xE0 ≤ b.toNat ∧ b.toNat < 0xF0) :
    ∃ low high, first b = ([], .inside [b] low high 2 (b.toNat - 0xE0)) ∧
      ∀ w, w / 64 = b.toNat - 0xE0 → 0x20 ≤ w → w < 0x360 ∨ 0x37F < w →
        low.toNat ≤ w % 64 + 0x80 ∧ w % 64 + 0x80 ≤ high.toNat := by
  unfold first
  simp only [UInt8.lt_iff_toNat_lt, ← UInt8.toNat_inj, UInt8.reduceToNat]
  rw [if_neg (by omega), if_neg (by omega), if_neg (by omega)]
  split
  · next he => exact ⟨0xA0, 0xBF, by simp [he], fun w _ _ _ => by simp; omega⟩
  split
  · next he => exact ⟨0x80, 0x9F, by simp [he], fun w _ _ _ => by simp; omega⟩
  · rw [if_pos (by omega)]
    exact ⟨0x80, 0xBF, rfl, fun w _ _ _ => by simp; omega⟩

/-- A first byte that owes three, and the second bytes that it allows. -/
theorem first_of_le_F4 {b : UInt8} (h : 0xF0 ≤ b.toNat ∧ b.toNat ≤ 0xF4) :
    ∃ low high, first b = ([], .inside [b] low high 3 (b.toNat - 0xF0)) ∧
      ∀ w, w / 64 = b.toNat - 0xF0 → 0x10 ≤ w → w < 0x110 →
        low.toNat ≤ w % 64 + 0x80 ∧ w % 64 + 0x80 ≤ high.toNat := by
  unfold first
  simp only [UInt8.lt_iff_toNat_lt, ← UInt8.toNat_inj, UInt8.reduceToNat]
  rw [if_neg (by omega), if_neg (by omega), if_neg (by omega), if_neg (by omega),
    if_neg (by omega), if_neg (by omega)]
  split
  · next he => exact ⟨0x90, 0xBF, by simp [he], fun w _ _ _ => by simp; omega⟩
  split
  · exact ⟨0x80, 0xBF, rfl, fun w _ _ _ => by simp; omega⟩
  · rw [if_pos (by omega)]
    exact ⟨0x80, 0x8F, by simp; omega, fun w _ _ _ => by simp; omega⟩

/-- A byte of the tail is taken, and the bits that are known grow by its own. -/
theorem step_tail (seen : Bytes) {low high : UInt8} {owed v : Nat}
    (hl : low.toNat ≤ front owed v % 64 + 0x80) (hh : front owed v % 64 + 0x80 ≤ high.toNat) :
    step (.inside seen low high (owed + 1) (front (owed + 1) v))
        (UInt8.ofNat (front owed v % 64 + 0x80)) =
      if owed = 0 then ([.char (Char.ofNat v)], .idle)
      else ([], .inside (seen ++ [UInt8.ofNat (front owed v % 64 + 0x80)]) 0x80 0xBF owed
        (front owed v)) := by
  have hb : (UInt8.ofNat (front owed v % 64 + 0x80)).toNat = front owed v % 64 + 0x80 := by
    rw [UInt8.toNat_ofNat', Nat.mod_eq_of_lt (by omega)]
  have hcode : front (owed + 1) v * 64 + (front owed v % 64 + 0x80 - 0x80) = front owed v := by
    show front owed v / 64 * 64 + _ = _
    omega
  simp only [step, UInt8.le_iff_toNat_le, hb, hcode]
  rw [if_pos ⟨hl, hh⟩]
  by_cases ho : owed = 0
  · subst ho
    simp
  · rw [if_neg (by omega), if_neg ho]
    rfl

/-- The tail of a code point completes it, if its first byte is allowed. -/
theorem run_tail (seen : Bytes) {low high : UInt8} {owed v : Nat} (done : List Piece)
    (hl : low.toNat ≤ front owed v % 64 + 0x80) (hh : front owed v % 64 + 0x80 ≤ high.toNat) :
    run (.inside seen low high (owed + 1) (front (owed + 1) v)) done (tail (owed + 1) v) =
      (.char (Char.ofNat v) :: done, .idle) := by
  induction owed generalizing seen low high with
  | zero =>
    have h := step_tail seen hl hh
    rw [if_pos rfl] at h
    simp only [tail, run, List.foldl_cons, List.foldl_nil, h]
    rfl
  | succ owed ih =>
    have h := step_tail seen hl hh
    rw [if_neg (Nat.succ_ne_zero owed)] at h
    have hnext := @ih (seen ++ [UInt8.ofNat (front (owed + 1) v % 64 + 0x80)]) 0x80 0xBF
      (by simp) (by simp; omega)
    rw [tail]
    simp only [run, List.foldl_cons, h] at hnext ⊢
    exact hnext

/-- A number below 256 as a byte. -/
theorem exists_toNat_eq {n : Nat} (h : n < 256) : ∃ b, UInt8.ofNat n = b ∧ b.toNat = n :=
  ⟨_, rfl, by rw [UInt8.toNat_ofNat', Nat.mod_eq_of_lt h]⟩

/-- A character whose first byte is kept is completed by its tail. -/
theorem run_idle_cons {b low high : UInt8} {owed v : Nat} (done : List Piece)
    (hf : first b = ([], .inside [b] low high (owed + 1) (front (owed + 1) v)))
    (hl : low.toNat ≤ front owed v % 64 + 0x80) (hh : front owed v % 64 + 0x80 ≤ high.toNat) :
    run .idle done (b :: tail (owed + 1) v) = (.char (Char.ofNat v) :: done, .idle) := by
  rw [← run_tail [b] done hl hh]
  simp [run, step, hf]

/-- The encoding of a character is read as that character. -/
theorem run_utf8EncodeChar (c : Char) (done : List Piece) :
    run .idle done (String.utf8EncodeChar c) = (.char c :: done, .idle) := by
  obtain ⟨v, hv, rfl⟩ : ∃ v, v.isValidChar ∧ c = Char.ofNat v :=
    ⟨c.toNat, c.valid, (Char.ofNat_toNat c).symm⟩
  unfold Nat.isValidChar at hv
  by_cases h1 : v < 0x80
  · obtain ⟨b, hb, rfl⟩ := exists_toNat_eq (n := v) (by omega)
    rw [utf8EncodeChar_of_lt_80 h1, hb]
    simp [run, step, first, UInt8.lt_iff_toNat_lt, h1]
  by_cases h2 : v < 0x800
  · obtain ⟨b, hb, hv⟩ := exists_toNat_eq (n := v / 64 + 0xC0) (by omega)
    have hf := first_of_lt_E0 (b := b) (by omega)
    rw [utf8EncodeChar_of_lt_800 (by omega) h2, hb]
    rw [show b.toNat - 0xC0 = front 1 v by rw [front_one]; omega] at hf
    exact run_idle_cons done hf (by simp) (by simp; omega)
  by_cases h3 : v < 0x10000
  · obtain ⟨b, hb, hv⟩ := exists_toNat_eq (n := v / 4096 + 0xE0) (by omega)
    obtain ⟨low, high, hf, hw⟩ := first_of_lt_F0 (b := b) (by omega)
    obtain ⟨hl, hh⟩ := hw (v / 64) (by omega) (by omega) (by omega)
    rw [utf8EncodeChar_of_lt_10000 (by omega) h3 (by omega), hb]
    rw [show b.toNat - 0xE0 = front 2 v by rw [front_two]; omega] at hf
    exact run_idle_cons done hf (by simpa using hl) (by simpa using hh)
  · obtain ⟨b, hb, hv⟩ := exists_toNat_eq (n := v / 262144 + 0xF0) (by omega)
    obtain ⟨low, high, hf, hw⟩ := first_of_le_F4 (b := b) (by omega)
    obtain ⟨hl, hh⟩ := hw (v / 4096) (by omega) (by omega) (by omega)
    rw [utf8EncodeChar_of_lt_110000 (by omega) (by omega), hb]
    rw [show b.toNat - 0xF0 = front 3 v by rw [front_three]; omega] at hf
    exact run_idle_cons done hf (by simpa using hl) (by simpa using hh)

/-- The encoding of characters is read as those characters, whatever was read before. -/
theorem run_flatMap_utf8EncodeChar (cs : List Char) (done : List Piece) :
    run .idle done (cs.flatMap String.utf8EncodeChar) =
      ((cs.map Piece.char).reverse ++ done, .idle) := by
  induction cs generalizing done with
  | nil => rfl
  | cons c cs ih =>
    rw [List.flatMap_cons, run_append, run_utf8EncodeChar, ih]
    simp

/-- The pieces of an encoded text are its characters. -/
theorem pieces_encode (s : String) : pieces (encode s) = s.toList.map .char := by
  unfold pieces encode
  rw [run_flatMap_utf8EncodeChar]
  simp [finish]

@[simp] theorem decode?_encode (s : String) : decode? (encode s) = some s := by
  have hall : (pieces (encode s)).all Piece.isChar = true := by
    simp [pieces_encode, Piece.isChar]
  have hmap : (pieces (encode s)).map Piece.toChar = s.toList := by
    simp [pieces_encode, Function.comp_def, Piece.toChar]
  simp only [decode?]
  rw [if_pos hall, hmap, String.ofList_toList]

/-- Pieces that are all characters have the bytes of the encoded characters. -/
theorem flatMap_bytes_of_all_isChar {ps : List Piece} (h : ps.all Piece.isChar = true) :
    ps.flatMap Piece.bytes = (ps.map Piece.toChar).flatMap String.utf8EncodeChar := by
  rw [List.flatMap_map]
  refine List.flatMap_congr fun p hp => ?_
  have hc := List.all_eq_true.1 h p hp
  cases p with
  | char c => rfl
  | broken bs => cases hc

/-- **A byte string is read as a text exactly if it is the encoding of that text.** -/
theorem decode?_eq_some_iff {bs : Bytes} {s : String} : decode? bs = some s ↔ encode s = bs := by
  refine ⟨fun h => ?_, fun h => h ▸ decode?_encode s⟩
  simp only [decode?] at h
  split at h
  · next hall =>
    cases h
    rw [encode, String.toList_ofList, ← flatMap_bytes_of_all_isChar hall, flatMap_bytes_pieces]
  · cases h

/-- Different texts have different encodings. -/
theorem encode_injective : Function.Injective encode := fun s t h => by
  have hs := decode?_encode s
  rw [h, decode?_encode] at hs
  exact (Option.some.inj hs).symm

@[simp] theorem encode_inj {s t : String} : encode s = encode t ↔ s = t :=
  encode_injective.eq_iff

@[simp] theorem encode_empty : encode "" = [] := by
  rw [encode, String.toList_empty, List.flatMap_nil]

@[simp] theorem encode_eq_nil_iff {s : String} : encode s = [] ↔ s = "" := by
  rw [← encode_empty, encode_inj]

@[simp] theorem nil_eq_encode_iff {s : String} : [] = encode s ↔ s = "" :=
  eq_comm.trans encode_eq_nil_iff

end KctlProbe.Utf8
