import KctlProbe.Sandbox.Files
import Mathlib.Data.List.Basic
import Mathlib.Tactic.Common

/-!
# Paths through changed files

A path is followed name by name, and a name leads to an error, to a spot, or to a directory from
which other names are followed (`Files.turn`). What it leads to depends on the directories and links
on the way, and on nothing else of the files (`Files.walk_congr`). So a file can be given other data
without any path leading elsewhere (`Files.walk_modify`). A new file is found by every path on which
its name was missing, and every other path leads where it led: that is so for one name
(`Files.turn_create`), and by induction on what is left of the path for all of them
(`Files.walk_create`).
-/

namespace KctlProbe.Sandbox

/-! ## One name of a path -/

/-- What a node is to a path that comes to it. -/
inductive Kind where
  | directory
  | link (target : Octets)
  | other

/-- What a node is to a path that comes to it. -/
def Node.kind (n : Node) : Kind :=
  match n.content with
  | .directory _ _ => .directory
  | .link target => .link target
  | _ => .other

/-- The directory around a directory, what it names, and whether a path may go through it. -/
def Node.inside? (n : Node) : Option (Nat × List (Octets × Nat) × Bool) :=
  match n.content with
  | .directory parent entries => some (parent, entries, n.allows 1)
  | _ => none

/-- What a name of a path leads to. -/
inductive Turn where
  | refused (e : Errno)
  | ends (s : Spot)
  /-- Other names are followed from a directory, through at most some links. -/
  | goes (links here : Nat) (names : List Octets)

/-- What a path leads to that comes to the name of something, or of nothing, in a directory. -/
def arrive (through : Bool) (links here : Nat) (name : Octets) (rest : List Octets) :
    Option (Nat × Kind) → Turn
  | none =>
    if rest.all (·.isEmpty) then .ends ⟨here, name, none, !rest.isEmpty⟩ else .refused .noEntry
  | some (i, .directory) =>
    if rest.all (·.isEmpty) then .ends ⟨here, name, some i, !rest.isEmpty⟩
    else .goes links i rest
  | some (i, .link target) =>
    if rest.isEmpty && !through then .ends ⟨here, name, some i, false⟩
    else
      match links with
      | 0 => .refused .linkLoop
      | links + 1 =>
        .goes links (if target.head? = some '/' then 0 else here) (target.split '/' ++ rest)
  | some (i, .other) =>
    if rest.isEmpty then .ends ⟨here, name, some i, false⟩ else .refused .notDirectory

namespace Files

/-- What a name of a path leads to from a directory. -/
def turn (files : Files) (through : Bool) (links here : Nat) (name : Octets)
    (rest : List Octets) : Turn :=
  match (files.node here).inside? with
  | none => .refused .notDirectory
  | some (parent, entries, enters) =>
    if !enters then .refused .denied
    else if name = [] ∨ name = ['.'] then .goes links here rest
    else if name = ['.', '.'] then .goes links parent rest
    else if 255 < name.length then .refused .nameTooLong
    else
      arrive through links here name rest
        ((entries.lookup name).map fun i => (i, (files.node i).kind))

variable {files files' : Files} {through : Bool} {fuel links here : Nat}

/-- A path is followed name by name. -/
theorem walk_cons (files : Files) (through : Bool) (fuel links here : Nat) (name : Octets)
    (rest : List Octets) :
    files.walk through (fuel + 1) links here (name :: rest) =
      match files.turn through links here name rest with
      | .refused e => .error e
      | .ends s => .ok s
      | .goes links here names => files.walk through fuel links here names := by
  rw [walk, turn]
  unfold Node.inside? Node.kind
  cases (files.node here).content with
  | directory parent entries =>
    dsimp only
    cases entries.lookup name with
    | none =>
      dsimp only [Option.map_none, arrive]
      split_ifs <;> rfl
    | some i =>
      dsimp only [Option.map_some]
      cases (files.node i).content with
      | link target =>
        dsimp only [arrive]
        cases links <;> split_ifs <;> rfl
      | _ =>
        dsimp only [arrive]
        split_ifs <;> rfl
  | _ => rfl

/-- **Only directories and links matter on the way.** -/
theorem walk_congr (hkind : ∀ i, (files'.node i).kind = (files.node i).kind)
    (hinside : ∀ i, (files'.node i).inside? = (files.node i).inside?) (names : List Octets) :
    files'.walk through fuel links here names = files.walk through fuel links here names := by
  induction fuel generalizing links here names with
  | zero => rfl
  | succ fuel ih =>
    cases names with
    | nil => rfl
    | cons name rest => simp only [walk_cons, turn, hkind, hinside, ih]

/-! ## Changed files -/

/-- A node after a change of one. -/
theorem node_modify (files : Files) (i j : Nat) (f : Node → Node) :
    (files.modify i f).node j =
      if i = j ∧ i < files.nodes.size then f (files.node j) else files.node j := by
  simp only [node, modify, Array.getD_eq_getD_getElem?, Array.getElem?_modify]
  by_cases hij : i = j
  · subst hij
    by_cases hi : i < files.nodes.size <;> simp [hi]
  · simp [hij]

/-- A node after a new one was added. -/
theorem node_push (files : Files) (n : Node) (j : Nat) :
    (Files.mk (files.nodes.push n)).node j =
      if j = files.nodes.size then n else files.node j := by
  simp only [node, Array.getD_eq_getD_getElem?, Array.getElem?_push]
  split <;> rfl

/-- What is behind all nodes is nothing that was made. -/
theorem node_size (files : Files) {i : Nat} (h : ¬ i < files.nodes.size) :
    files.node i = default := by
  rw [node, Array.getD_eq_getD_getElem?, Array.getElem?_eq_none (Nat.le_of_not_lt h)]
  rfl

/-- **Other data in a file** change the way of no path. -/
theorem walk_modify {i : Nat} {f : Node → Node} (h : (files.node i).kind = .other)
    (hf : (f (files.node i)).kind = .other) (names : List Octets) :
    (files.modify i f).walk through fuel links here names =
      files.walk through fuel links here names := by
  have hinside {n : Node} (hn : n.kind = .other) : n.inside? = none := by
    unfold Node.kind at hn
    unfold Node.inside?
    split at hn <;> simp_all
  refine walk_congr (fun j => ?_) (fun j => ?_) names <;> rw [node_modify]
  · split
    · next hij => rw [← hij.1, hf, h]
    · rfl
  · split
    · next hij => rw [← hij.1, hinside hf, hinside h]
    · rfl

section
variable {d parent : Nat} {entries : List (Octets × Nat)} {name : Octets} {n : Node}
  (hd : (files.node d).content = .directory parent entries)
include hd

/-- A directory was made. -/
theorem lt_size_of_directory : d < files.nodes.size := by
  by_contra h
  rw [node_size files h] at hd
  cases hd

/-- A node after one was created in a directory. -/
theorem node_create (i : Nat) :
    (files.create d name n).1.node i =
      if i = d then
        { files.node d with
          content := .directory parent
            ((name, files.nodes.size) :: entries.filter (·.1 ≠ name)) }
      else if i = files.nodes.size then n else files.node i := by
  have hlt := lt_size_of_directory hd
  simp only [create, enter, modifyEntries, node_modify, node_push, Array.size_push]
  by_cases hi : d = i
  · subst hi
    rw [if_pos ⟨rfl, Nat.lt_succ_of_lt hlt⟩, if_pos rfl, if_neg (Nat.ne_of_lt hlt), hd]
  · rw [if_neg fun h => hi h.1, if_neg (Ne.symm hi)]

/-- A path that comes to a node sees the same after a file was created. -/
theorem kind_create (hn : n.kind = .other) (i : Nat) :
    ((files.create d name n).1.node i).kind = (files.node i).kind := by
  rw [node_create hd]
  split
  · next hi => rw [hi, Node.kind, Node.kind, hd]
  · split
    · next hi => rw [hi, hn, node_size files (Nat.lt_irrefl _)]; rfl
    · rfl

/-- The directory of a new file has its name. -/
theorem inside?_create :
    ((files.create d name n).1.node d).inside? =
      some (parent, (name, files.nodes.size) :: entries.filter (·.1 ≠ name),
        (files.node d).allows 1) := by
  rw [node_create hd, if_pos rfl]
  rfl

/-- Other directories are as before. -/
theorem inside?_create_of_ne (hn : n.kind = .other) {i : Nat} (hi : i ≠ d) :
    ((files.create d name n).1.node i).inside? = (files.node i).inside? := by
  rw [node_create hd, if_neg hi]
  split
  · next hsize =>
    rw [hsize, node_size files (Nat.lt_irrefl _), Node.inside?]
    unfold Node.kind at hn
    split at hn <;> simp_all
    rfl
  · rfl

end

/-- Other names are looked up as before. -/
theorem lookup_filter_ne {name other : Octets} (h : other ≠ name) (i : Nat)
    (entries : List (Octets × Nat)) :
    ((name, i) :: entries.filter (·.1 ≠ name)).lookup other = entries.lookup other := by
  rw [List.lookup_cons, beq_false_of_ne h]
  dsimp only
  induction entries with
  | nil => rfl
  | cons e entries ih =>
    by_cases he : e.1 = name
    · rw [List.filter_cons_of_neg (by simp [he]), List.lookup_cons, ih, he, beq_false_of_ne h]
    · rw [List.filter_cons_of_pos (by simp [he]), List.lookup_cons, List.lookup_cons, ih]

/-- A spot after a file was created: what was missing there is the new file. -/
def created (files : Files) (d : Nat) (name : Octets) (s : Spot) : Spot :=
  if s.node = none ∧ s.directory = d ∧ s.name = name then { s with node := some files.nodes.size }
  else s

/-- A turn after a file was created. -/
def turned (files : Files) (d : Nat) (name : Octets) : Turn → Turn
  | .ends s => .ends (files.created d name s)
  | t => t

/-- A path that ends with a name ends at what it came to. -/
theorem of_arrive_eq_ends {name : Octets} {rest : List Octets} {found : Option (Nat × Kind)}
    {s : Spot} (h : arrive through links here name rest found = .ends s) :
    s.directory = here ∧ s.name = name ∧ s.node = found.map (·.1) := by
  unfold arrive at h
  split at h
  · split at h <;> cases h
    exact ⟨rfl, rfl, rfl⟩
  · split at h <;> cases h
    exact ⟨rfl, rfl, rfl⟩
  · split at h
    · cases h
      exact ⟨rfl, rfl, rfl⟩
    · split at h <;> cases h
  · split at h <;> cases h
    exact ⟨rfl, rfl, rfl⟩

/-- What leads to something, or to another place, leads there as before. -/
theorem turned_arrive (files : Files) {d : Nat} {name word : Octets}
    {found : Option (Nat × Kind)} (h : ¬ (found = none ∧ here = d ∧ word = name))
    (rest : List Octets) :
    files.turned d name (arrive through links here word rest found) =
      arrive through links here word rest found := by
  cases hturn : arrive through links here word rest found with
  | refused e => rfl
  | goes links here names => rfl
  | ends s =>
    obtain ⟨rfl, rfl, hnode⟩ := of_arrive_eq_ends hturn
    refine congrArg Turn.ends (if_neg fun hs => h ⟨?_, hs.2⟩)
    exact Option.map_eq_none_iff.1 (hnode.symm.trans hs.1)

section
variable {d parent : Nat} {entries : List (Octets × Nat)} {name word : Octets} {n : Node}
  {rest : List Octets}

/-- What is missing under its name is found once it is created there. -/
theorem arrive_created
    (hslash : ∀ s, arrive through links d name rest none = .ends s → s.slash = false)
    (hrefused : ∀ e, arrive through links d name rest none ≠ .refused e) :
    arrive through links d name rest (some (files.nodes.size, .other)) =
      files.turned d name (arrive through links d name rest none) := by
  rw [arrive] at hslash hrefused ⊢
  by_cases hall : rest.all (·.isEmpty)
  · rw [if_pos hall] at hslash ⊢
    have hends : rest.isEmpty = true := by simpa using hslash _ rfl
    rw [arrive, if_pos hends, hends]
    exact congrArg Turn.ends (if_pos ⟨rfl, rfl, rfl⟩).symm
  · rw [if_neg hall] at hrefused
    exact absurd rfl (hrefused _)

/-- A name leads where it led, but that what was missing is found once it is created. -/
theorem turn_create (hd : (files.node d).content = .directory parent entries)
    (hnone : entries.lookup name = none) (hn : n.kind = .other)
    (hslash : ∀ s, files.turn through links here word rest = .ends s → s.node = none →
      s.slash = false)
    (hrefused : ∀ e, files.turn through links here word rest ≠ .refused e) :
    (files.create d name n).1.turn through links here word rest =
      files.turned d name (files.turn through links here word rest) := by
  by_cases hhere : here = d
  · subst hhere
    have hinside : (files.node here).inside? =
        some (parent, entries, (files.node here).allows 1) := by
      rw [Node.inside?, hd]
    simp only [turn, inside?_create hd, hinside, kind_create hd hn] at hslash hrefused ⊢
    split_ifs at hslash hrefused ⊢
    · rfl
    · rfl
    · rfl
    · rfl
    by_cases hword : word = name
    · subst hword
      rw [hnone, Option.map_none] at hslash hrefused ⊢
      have hsize : (files.node files.nodes.size).kind = .other := by
        rw [node_size files (Nat.lt_irrefl _)]
        rfl
      rw [List.lookup_cons_self, Option.map_some, hsize]
      refine arrive_created (fun s hs => hslash s hs ?_) hrefused
      exact (of_arrive_eq_ends hs).2.2
    · rw [lookup_filter_ne hword]
      exact (turned_arrive files (fun h => hword h.2.2) rest).symm
  · simp only [turn, inside?_create_of_ne hd hn hhere, kind_create hd hn]
    cases (files.node here).inside? with
    | none => rfl
    | some inside =>
      dsimp only
      split_ifs
      · rfl
      · rfl
      · rfl
      · rfl
      · exact (turned_arrive files (fun h => hhere h.2.1) rest).symm

end

/-- **What was missing is found** once it is created, by every path that missed it, and every other
path leads where it led. -/
theorem walk_create {d parent : Nat} {entries : List (Octets × Nat)} {name : Octets} {n : Node}
    (hd : (files.node d).content = .directory parent entries)
    (hnone : entries.lookup name = none) (hn : n.kind = .other) {names : List Octets} {s : Spot}
    (hslash : s.node = none → s.slash = false)
    (h : files.walk through fuel links here names = .ok s) :
    (files.create d name n).1.walk through fuel links here names =
      .ok (files.created d name s) := by
  induction fuel generalizing links here names with
  | zero => cases h
  | succ fuel ih =>
    cases names with
    | nil =>
      cases h
      rfl
    | cons word rest =>
      rw [walk_cons] at h ⊢
      cases hturn : files.turn through links here word rest with
      | refused e =>
        rw [hturn] at h
        cases h
      | ends t =>
        rw [hturn] at h
        cases h
        rw [turn_create hd hnone hn, hturn]
        · rfl
        · intro t ht
          cases hturn.symm.trans ht
          exact hslash
        · intro e he
          cases hturn.symm.trans he
      | goes links' here' names =>
        rw [hturn] at h
        rw [turn_create hd hnone hn, hturn]
        · exact ih h
        · intro t ht
          cases hturn.symm.trans ht
        · intro e he
          cases hturn.symm.trans he

/-- A name that is missing is missing in a directory. -/
theorem exists_directory_of_walk {names : List Octets} {s : Spot}
    (h : files.walk through fuel links here names = .ok s) (hnone : s.node = none) :
    ∃ parent entries, (files.node s.directory).content = .directory parent entries ∧
      entries.lookup s.name = none := by
  induction fuel generalizing links here names with
  | zero => cases h
  | succ fuel ih =>
    cases names with
    | nil =>
      cases h
      cases hnone
    | cons word rest =>
      rw [walk_cons] at h
      cases hturn : files.turn through links here word rest with
      | refused e =>
        rw [hturn] at h
        cases h
      | goes links' here' names =>
        rw [hturn] at h
        exact ih h
      | ends t =>
        rw [hturn] at h
        cases h
        unfold turn Node.inside? at hturn
        cases hcontent : (files.node here).content with
        | directory parent entries =>
          rw [hcontent] at hturn
          dsimp only at hturn
          split_ifs at hturn
          obtain ⟨rfl, rfl, hnode⟩ := of_arrive_eq_ends hturn
          exact ⟨parent, entries, hcontent,
            Option.map_eq_none_iff.1 (Option.map_eq_none_iff.1 (hnode.symm.trans hnone))⟩
        | _ =>
          rw [hcontent] at hturn
          cases hturn

section
variable {path : Octets} {s : Spot}

/-- Other data in a file leave what a path leads to. -/
theorem spot_modify {i : Nat} {f : Node → Node} (h : (files.node i).kind = .other)
    (hf : (f (files.node i)).kind = .other) :
    (files.modify i f).spot here path through = files.spot here path through := by
  simp only [spot, walk_modify h hf]

/-- What a path leads to after a file was created. -/
theorem spot_create {d parent : Nat} {entries : List (Octets × Nat)} {name : Octets} {n : Node}
    (hd : (files.node d).content = .directory parent entries)
    (hnone : entries.lookup name = none) (hn : n.kind = .other)
    (hslash : s.node = none → s.slash = false)
    (h : files.spot here path through = .ok s) :
    (files.create d name n).1.spot here path through = .ok (files.created d name s) := by
  unfold spot at h ⊢
  split_ifs at h ⊢
  · exact walk_create hd hnone hn hslash h
  · exact walk_create hd hnone hn hslash h

/-- A path that misses a name misses it in a directory. -/
theorem exists_directory_of_spot (h : files.spot here path through = .ok s)
    (hnone : s.node = none) :
    ∃ parent entries, (files.node s.directory).content = .directory parent entries ∧
      entries.lookup s.name = none := by
  unfold spot at h
  split_ifs at h
  · exact exists_directory_of_walk h hnone
  · exact exists_directory_of_walk h hnone

end

end Files

end KctlProbe.Sandbox
