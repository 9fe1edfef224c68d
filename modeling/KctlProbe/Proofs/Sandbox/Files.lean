import KctlProbe.Proofs.Sandbox.Paths
import KctlProbe.Sandbox.Host
import Mathlib.Data.List.TakeWhile

/-!
# What is put into a sandbox is read of it

Octets hold bytes without loss (`Octets.toBytes_ofBytes`), and so do the data of a file
(`octets_data`). A file can be put where a path leads to a file or misses a name (`Files.Place`).
There it is found afterwards, with its data and permissions (`find_withFile`), so what is read of
it is what was put into it (`openFile_withFile`), and what other paths lead to is read as before
(`openFile_withFile_of_ne`). Every plain name is such a path in a new sandbox (`place_empty`).
-/

namespace KctlProbe.Sandbox

/-! ## Octets -/

/-- An octet holds its byte. -/
theorem toNat_ofNat_byte (b : UInt8) : (Char.ofNat b.toNat).toNat = b.toNat := by
  have hb : b.toNat < 256 := b.toNat_lt
  rw [Char.ofNat, dif_pos (.inl (Nat.lt_trans hb (by decide)))]
  rfl

/-- Bytes are held without loss. -/
@[simp] theorem Octets.toBytes_ofBytes (bs : Bytes) : Octets.toBytes (Octets.ofBytes bs) = bs := by
  rw [Octets.toBytes, Octets.ofBytes, List.map_map]
  refine (List.map_congr_left fun b _ => ?_).trans (List.map_id bs)
  simp [toNat_ofNat_byte]

/-! ## Data -/

/-- What is pushed is behind what was there. -/
theorem toList_pushOctets (bytes : ByteArray) (cs : Octets) :
    (pushOctets bytes cs).data.toList = bytes.data.toList ++ Octets.toBytes cs := by
  induction cs generalizing bytes with
  | nil => simp [pushOctets, Octets.toBytes]
  | cons c cs ih =>
    have := ih (bytes.push (UInt8.ofNat c.toNat))
    simpa [pushOctets, Octets.toBytes, ByteArray.data_push] using this

/-- The first bytes of a file stand in front. -/
theorem bytesBefore_eq (bytes : ByteArray) {n : Nat} (h : n ≤ bytes.size) (rest : Octets) :
    bytesBefore bytes 0 n rest = Octets.ofBytes (bytes.data.toList.take n) ++ rest := by
  induction n generalizing rest with
  | zero => rfl
  | succ n ih =>
    have hn : n < bytes.data.toList.length := h
    have hget : bytes.get! n = bytes.data.toList[n] := by
      change bytes.data[n]! = bytes.data.toList[n]
      rw [getElem!_pos bytes.data n h, Array.getElem_toList]
    rw [bytesBefore, ih (Nat.le_of_succ_le h), List.take_succ_eq_append_getElem hn, Nat.zero_add,
      hget]
    simp [Octets.ofBytes]

/-- The data of a file is what was put into it. -/
theorem octets_data {n : Node} {bs : Bytes}
    (h : n.content = .data (bytesOf (Octets.ofBytes bs))) : n.octets = Octets.ofBytes bs := by
  have hlist : (bytesOf (Octets.ofBytes bs)).data.toList = bs := by
    rw [bytesOf, toList_pushOctets, Octets.toBytes_ofBytes]
    rfl
  have hsize : (bytesOf (Octets.ofBytes bs)).size = bs.length := congrArg List.length hlist
  rw [Node.octets, h]
  dsimp only
  rw [bytesAt, Nat.sub_zero, Nat.min_self, bytesBefore_eq _ (Nat.le_refl _), hlist, hsize,
    List.take_length, List.append_nil]

/-! ## Putting files into a sandbox -/

/-- A path at which a file can be put: it leads to a file, or to a name that is missing. -/
structure Files.Place (files : Files) (path : Octets) (s : Spot) : Prop where
  spot : files.spot Files.scratch path true = .ok s
  missing : s.node = none → s.slash = false
  file : ∀ i, s.node = some i → i < files.nodes.size ∧ (files.node i).kind = .other

/-- What is neither a directory nor a link is no directory. -/
theorem Node.isDirectory_of_kind {n : Node} (h : n.kind = .other) : n.isDirectory = false := by
  unfold Node.kind at h
  unfold Node.isDirectory
  split <;> simp_all

/-- The pieces between separators are collected with the last character in front. -/
theorem Octets.foldl_of_not_mem {sep : Char} {cs : Octets} (h : sep ∉ cs)
    {f : Octets × List Octets → Char → Octets × List Octets}
    (hf : ∀ x c, c ≠ sep → f x c = (c :: x.1, x.2)) (x : Octets × List Octets) :
    cs.foldl f x = (cs.reverse ++ x.1, x.2) := by
  induction cs generalizing x with
  | nil => rfl
  | cons c cs ih =>
    obtain ⟨hc, hcs⟩ := not_or.1 (mt List.mem_cons.2 h)
    rw [List.foldl_cons, ih hcs, hf x c (Ne.symm hc), List.reverse_cons, List.append_assoc]
    rfl

/-- An octet string without separators is in one piece. -/
theorem Octets.split_of_not_mem {sep : Char} {cs : Octets} (h : sep ∉ cs) :
    Octets.split sep cs = [cs] := by
  rw [Octets.split, Octets.foldl_of_not_mem h fun x c hc => if_neg hc]
  simp

/-- A name that something in a directory can have. -/
structure Octets.Plain (name : Octets) : Prop where
  ne_nil : name ≠ []
  ne_dot : name ≠ ['.']
  ne_dots : name ≠ ['.', '.']
  slash : '/' ∉ name
  zero : '\x00' ∉ name
  length : name.length ≤ 255

/-- There is no way to make to a plain name. -/
theorem makeWay_of_plain {name : Octets} (h : Octets.Plain name) (files : Files) :
    World.makeWay files name = files := by
  have hall : ∀ c ∈ name.reverse, decide (c ≠ '/') = true := fun c hc =>
    decide_eq_true fun heq => h.slash (heq ▸ List.mem_reverse.1 hc)
  rw [World.makeWay, List.takeWhile_eq_self_iff.2 hall, List.length_reverse, Nat.sub_self]
  rfl

/-- A plain name that the scratch directory does not have is a place for a file. -/
theorem Files.place_of_plain {files : Files} {name : Octets} {parent : Nat}
    {entries : List (Octets × Nat)} (h : Octets.Plain name)
    (hscratch : (files.node Files.scratch).inside? = some (parent, entries, true))
    (hfree : entries.lookup name = none) :
    (World.makeWay files name).Place name ⟨Files.scratch, name, none, false⟩ where
  spot := by
    have hhead : name.head? ≠ some '/' := fun heq => h.slash (List.mem_of_mem_head? heq)
    rw [makeWay_of_plain h, Files.spot, if_neg h.zero, if_neg (by simpa using h.ne_nil),
      if_neg (by have := h.length; omega), if_neg hhead, Octets.split_of_not_mem h.slash,
      Nat.add_succ, Files.walk_cons, Files.turn, hscratch]
    dsimp only
    rw [if_neg (by decide), if_neg (not_or.2 ⟨h.ne_nil, h.ne_dot⟩), if_neg h.ne_dots,
      if_neg (Nat.not_lt.2 h.length), hfree]
    rfl
  missing _ := rfl
  file _ hi := nomatch hi

/-- The scratch directory of a new sandbox is empty. -/
theorem inside?_scratch :
    ∃ parent, (World.empty.files.node Files.scratch).inside? = some (parent, [], true) := by
  have h : ((World.empty.files.node Files.scratch).inside?.map Prod.snd) = some ([], true) := by
    decide +kernel
  obtain ⟨⟨parent, _⟩, hinside, rfl⟩ := Option.map_eq_some_iff.1 h
  exact ⟨parent, hinside⟩

/-- The sandbox with the directories on the way to a path. -/
def World.ready (w : World) (path : Bytes) : World :=
  { w with files := World.makeWay w.files (Octets.ofBytes path) }

/-- Every plain name is a place for a file in a new sandbox. -/
theorem place_empty {path : Bytes} (h : Octets.Plain (Octets.ofBytes path)) :
    (World.empty.ready path).files.Place (Octets.ofBytes path)
      ⟨Files.scratch, Octets.ofBytes path, none, false⟩ := by
  obtain ⟨parent, hinside⟩ := inside?_scratch
  exact Files.place_of_plain h hinside rfl

section
variable {w : World} {path : Bytes} {s : Spot} {mode : Nat}
  (h : (w.ready path).files.Place (Octets.ofBytes path) s)
include h

/-- A file that is there gets other permissions and data. -/
theorem files_withFile_of_some {i : Nat} (hnode : s.node = some i) (mode : Nat) (data : Bytes) :
    (w.withFile path mode data).files = (w.ready path).files.modify i fun n =>
      { n with mode, content := .data (bytesOf (Octets.ofBytes data)), time := w.clock } := by
  have hspot : (World.makeWay w.files (Octets.ofBytes path)).spot Files.scratch
    (Octets.ofBytes path) true = .ok s := h.spot
  have hdirectory : ((World.makeWay w.files (Octets.ofBytes path)).node i).isDirectory = false :=
    Node.isDirectory_of_kind (h.file i hnode).2
  simp only [World.withFile, World.ready, hspot, hnode, hdirectory, Bool.false_eq_true, if_false]

/-- A file that is missing is created. -/
theorem files_withFile_of_none (hnode : s.node = none) (mode : Nat) (data : Bytes) :
    (w.withFile path mode data).files = ((w.ready path).files.create s.directory s.name
      { mode, content := .data (bytesOf (Octets.ofBytes data)), time := w.clock }).1 := by
  have hspot : (World.makeWay w.files (Octets.ofBytes path)).spot Files.scratch
    (Octets.ofBytes path) true = .ok s := h.spot
  simp only [World.withFile, World.ready, hspot, hnode]

/-- **A file that is put into a sandbox is found there**, with its data and permissions. -/
theorem find_withFile (mode : Nat) (data : Bytes) :
    ∃ i, (w.withFile path mode data).files.find Files.scratch (Octets.ofBytes path) true = .ok i ∧
      ((w.withFile path mode data).files.node i).content =
        .data (bytesOf (Octets.ofBytes data)) ∧
      ((w.withFile path mode data).files.node i).mode = mode := by
  cases hnode : s.node with
  | some i =>
    obtain ⟨hlt, hkind⟩ := h.file i hnode
    rw [files_withFile_of_some h hnode]
    refine ⟨i, ?_, ?_, ?_⟩
    · rw [Files.find, Files.spot_modify hkind rfl, h.spot]
      simp only [Except.bind, hnode]
    · rw [Files.node_modify, if_pos ⟨rfl, hlt⟩]
    · rw [Files.node_modify, if_pos ⟨rfl, hlt⟩]
  | none =>
    obtain ⟨parent, entries, hd, hnone⟩ := Files.exists_directory_of_spot h.spot hnode
    rw [files_withFile_of_none h hnode]
    have hsize := (Nat.ne_of_lt (Files.lt_size_of_directory hd)).symm
    refine ⟨(w.ready path).files.nodes.size, ?_, ?_, ?_⟩
    · rw [Files.find, Files.spot_create hd hnone rfl h.missing h.spot, Files.created,
        if_pos ⟨hnode, rfl, rfl⟩]
      rfl
    · rw [Files.node_create hd, if_neg hsize, if_pos rfl]
    · rw [Files.node_create hd, if_neg hsize, if_pos rfl]

/-- A file that everybody may read. -/
def Readable (mode : Nat) : Prop :=
  mode &&& 4 ≠ 0 ∧ mode >>> 6 &&& 4 ≠ 0

instance : Decidable (Readable mode) := inferInstanceAs (Decidable (_ ∧ _))

/-- **What is put into a sandbox is read of it.** -/
theorem openFile_withFile (hmode : Readable mode) (data : Bytes) :
    openFile path (w.withFile path mode data) = .ok (.ofBytes data) ∧
      (w.withFile path mode data).read? path = some data := by
  obtain ⟨i, hfind, hcontent, hbits⟩ := find_withFile h mode data
  have hallows : ((w.withFile path mode data).files.node i).allows 4 = true := by
    rw [Node.allows, hbits]
    split
    · exact decide_eq_true hmode.2
    · exact decide_eq_true hmode.1
  have hoctets := octets_data hcontent
  constructor
  · simp only [openFile, hfind, hallows, hcontent, hoctets, Octets.toBytes_ofBytes, Bool.not_true,
      Bool.false_eq_true, if_false]
  · simp only [World.read?, hfind, hallows, hcontent, hoctets, Octets.toBytes_ofBytes, if_true]

/-- **What is not put into a sandbox is read as before**, by every path that leads to something
else. -/
theorem openFile_withFile_of_ne {other : Bytes} {t : Spot} {i : Nat}
    (ht : (w.ready path).files.spot Files.scratch (Octets.ofBytes other) true = .ok t)
    (hi : t.node = some i) (hlt : i < (w.ready path).files.nodes.size) (hne : s.node ≠ some i)
    (mode : Nat) (data : Bytes) :
    openFile other (w.withFile path mode data) = openFile other (w.ready path) := by
  have hfind : (w.ready path).files.find Files.scratch (Octets.ofBytes other) true = .ok i := by
    simp only [Files.find, ht, Except.bind, hi]
  have hthere : t.node ≠ none := hi ▸ Option.some_ne_none i
  cases hnode : s.node with
  | some j =>
    have hother : (w.withFile path mode data).files.find Files.scratch (Octets.ofBytes other) true =
        .ok i := by
      rw [files_withFile_of_some h hnode, Files.find, Files.spot_modify (h.file j hnode).2 rfl,
        ← Files.find, hfind]
    have hsame : (w.withFile path mode data).files.node i = (w.ready path).files.node i := by
      rw [files_withFile_of_some h hnode, Files.node_modify,
        if_neg fun (hj : j = i ∧ _) => hne (hj.1 ▸ hnode)]
    simp only [openFile, hother, hfind, hsame]
  | none =>
    obtain ⟨parent, entries, hd, hnone⟩ := Files.exists_directory_of_spot h.spot hnode
    have hother : (w.withFile path mode data).files.find Files.scratch (Octets.ofBytes other) true =
        .ok i := by
      rw [files_withFile_of_none h hnode, Files.find,
        Files.spot_create hd hnone rfl (fun hnot => absurd hnot hthere) ht,
        Files.created, if_neg fun hnot => hthere hnot.1]
      simp only [Except.bind, hi]
    have hsame : (w.withFile path mode data).files.node i =
        if i = s.directory then
          { (w.ready path).files.node s.directory with
            content := .directory parent ((s.name, (w.ready path).files.nodes.size) ::
              entries.filter (·.1 ≠ s.name)) }
        else (w.ready path).files.node i := by
      rw [files_withFile_of_none h hnode, Files.node_create hd, if_neg (Nat.ne_of_lt hlt)]
    by_cases hid : i = s.directory
    · -- The directory that has one name more is still a directory.
      subst hid
      rw [if_pos rfl] at hsame
      simp only [openFile, hother, hfind, hsame, hd]
      rfl
    · rw [if_neg hid] at hsame
      simp only [openFile, hother, hfind, hsame]

end

end KctlProbe.Sandbox
