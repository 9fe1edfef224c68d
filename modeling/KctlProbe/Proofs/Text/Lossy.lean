import KctlProbe.Proofs.Text.Utf8

/-!
# The lossy decoder on a text in two parts

A byte that is no continuation byte is taken alike wherever the decoder stands: what is open is
closed as if the input ended, and the byte starts anew (`step_of_not_isContinuation`). So a byte
string may be cut in front of every such byte (`pieces_append_cons`), and behind every complete text
(`pieces_encode_append`), and the parts decoded apart. Nothing that is broken reaches over such a
cut.
-/

namespace KctlProbe.Utf8

/-- Whether a byte stands only inside characters, never at their start. -/
def IsContinuation (b : UInt8) : Prop :=
  0x80 ≤ b ∧ b ≤ 0xBF

instance : DecidablePred IsContinuation := fun b =>
  inferInstanceAs (Decidable (0x80 ≤ b ∧ b ≤ 0xBF))

/-! ## Runs -/

@[simp] theorem run_nil (state : State) (done : List Piece) : run state done [] = (done, state) :=
  rfl

@[simp] theorem run_cons (state : State) (done : List Piece) (b : UInt8) (bs : Bytes) :
    run state done (b :: bs) = run (step state b).2 ((step state b).1.reverse ++ done) bs :=
  rfl

/-- The pieces so far are only carried along. -/
theorem run_done (state : State) (done : List Piece) (bs : Bytes) :
    run state done bs = ((run state [] bs).1 ++ done, (run state [] bs).2) := by
  induction bs generalizing state done with
  | nil => rfl
  | cons b bs ih =>
    rw [run_cons, run_cons, ih, ih _ ((step state b).1.reverse ++ []), List.append_nil,
      List.append_assoc]

/-- The decoder stays where it can stand. -/
theorem State.Sound.run {state : State} (h : state.Sound) (done : List Piece) (bs : Bytes) :
    (Utf8.run state done bs).2.Sound := by
  induction bs generalizing state done with
  | nil => exact h
  | cons b bs ih => exact ih (step_sound h b).1 _

/-- What the pieces are after a state is reached. -/
theorem pieces_eq_of_run {as bs : Bytes} {done : List Piece} {state : State}
    (h : run .idle [] as = (done, state)) :
    pieces (as ++ bs) =
      done.reverse ++ ((run state [] bs).1.reverse ++ finish (run state [] bs).2) := by
  unfold pieces
  rw [run_append, h, run_done]
  simp

/-! ## Cuts -/

/-- **A byte that is no continuation byte starts anew**, whatever is open. -/
theorem step_of_not_isContinuation {state : State} (h : state.Sound) {b : UInt8}
    (hb : ¬ IsContinuation b) : step state b = (finish state ++ (first b).1, (first b).2) := by
  cases state with
  | idle => rfl
  | inside seen low high owed code =>
    obtain ⟨-, hlow, hhigh, -⟩ := h
    have hout : ¬ (low ≤ b ∧ b ≤ high) := by
      simp only [IsContinuation, UInt8.le_iff_toNat_le, UInt8.reduceToNat] at hb ⊢
      omega
    simp only [step, if_neg hout]
    rfl

/-- A byte string is cut in front of a byte that is no continuation byte. -/
theorem pieces_append_cons (as : Bytes) {b : UInt8} (hb : ¬ IsContinuation b) (bs : Bytes) :
    pieces (as ++ b :: bs) = pieces as ++ pieces (b :: bs) := by
  rcases hrun : run .idle [] as with ⟨done, state⟩
  have hidle : State.idle.Sound := trivial
  have hstate : state.Sound := by simpa [hrun] using hidle.run [] as
  have hstep := step_of_not_isContinuation hstate hb
  have hleft : pieces as = done.reverse ++ finish state := by
    rw [pieces, hrun]
  have hright : pieces (b :: bs) =
      (first b).1 ++ ((run (first b).2 [] bs).1.reverse ++ finish (run (first b).2 [] bs).2) := by
    rw [pieces, run_cons, run_done]
    simp [step]
  rw [pieces_eq_of_run hrun, run_cons, hstep, run_done, hleft, hright]
  simp

/-- A byte string is cut behind a complete text. -/
theorem pieces_encode_append (s : String) (bs : Bytes) :
    pieces (encode s ++ bs) = s.toList.map .char ++ pieces bs := by
  have hrun : run .idle [] (encode s) = ((s.toList.map Piece.char).reverse, .idle) := by
    rw [encode, run_flatMap_utf8EncodeChar, List.append_nil]
  rw [pieces_eq_of_run hrun, List.reverse_reverse]
  rfl

/-! ## Lossy decoding -/

/-- A complete text is decoded as itself, and what follows it on its own. -/
theorem lossy_encode_append (s : String) (bs : Bytes) : lossy (encode s ++ bs) = s ++ lossy bs := by
  have hmap : (s.toList.map Piece.char).map Piece.toChar = s.toList := by
    rw [List.map_map]
    exact List.map_id _
  rw [lossy, pieces_encode_append, List.map_append, hmap, String.ofList_append,
    String.ofList_toList, lossy]

@[simp] theorem lossy_nil : lossy [] = "" := rfl

@[simp] theorem lossy_encode (s : String) : lossy (encode s) = s := by
  have h := lossy_encode_append s []
  rwa [List.append_nil, lossy_nil, String.append_empty] at h

/-- The bytes are those of the decoded text exactly if they are those of a text. -/
theorem encode_lossy_eq_iff {bs : Bytes} : encode (lossy bs) = bs ↔ ∃ s, encode s = bs := by
  constructor
  · intro h
    exact ⟨lossy bs, h⟩
  · rintro ⟨s, rfl⟩
    rw [lossy_encode]

/-- The parts in front of and behind a cut are decoded apart. -/
theorem lossy_append_cons (as : Bytes) {b : UInt8} (hb : ¬ IsContinuation b) (bs : Bytes) :
    lossy (as ++ b :: bs) = lossy as ++ lossy (b :: bs) := by
  rw [lossy, pieces_append_cons as hb, List.map_append, String.ofList_append, lossy, lossy]

end KctlProbe.Utf8
