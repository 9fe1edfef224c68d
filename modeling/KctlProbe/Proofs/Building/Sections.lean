import KctlProbe.Proofs.Invocation
import Mathlib.Data.List.Induction
import Mathlib.Data.List.Nodup

/-!
# Requests that are built by naming sections

A request for device information is built by naming sections one after the other. It holds the named
sections in the order in which each is named for the first time (`FirstNamed`): one more name keeps
this (`FirstNamed.withSection`), so any number of names does (`FirstNamed.withSections`). There is
only one such list (`FirstNamed.unique`), and the options are read back section by section
(`options_eq_iff`). So requests have the same options exactly if their sections are first named in
the same order, and naming a section again changes nothing.
-/

namespace KctlProbe

open Utf8 (encode)

/-- `sections` are those that are named, in the order in which each is named for the first time. -/
structure FirstNamed (named sections : List Section) : Prop where
  mem_iff : ∀ s, s ∈ sections ↔ s ∈ named
  inOrder : sections.Pairwise fun s t => named.idxOf s < named.idxOf t

/-- The same sections are named, and for the first time in the same order. -/
structure NamedAlike (named others : List Section) : Prop where
  mem_iff : ∀ s, s ∈ named ↔ s ∈ others
  before_iff : ∀ s ∈ named, ∀ t ∈ named,
    named.idxOf s < named.idxOf t ↔ others.idxOf s < others.idxOf t

namespace DeviceInfo

/-- The request after sections are named one after the other. -/
def withSections (c : DeviceInfo) (named : List Section) : DeviceInfo :=
  named.foldl withSection c

variable (c : DeviceInfo) (s : Section) (named more : List Section)

@[simp] theorem withSections_nil : c.withSections [] = c := rfl

@[simp] theorem withSections_cons :
    c.withSections (s :: named) = (c.withSection s).withSections named := rfl

/-- Sections can be named in two steps. -/
theorem withSections_append :
    c.withSections (named ++ more) = (c.withSections named).withSections more :=
  List.foldl_append

/-- A section that is named goes behind the others, unless it is one of them. -/
theorem sections_withSection :
    (c.withSection s).sections = if s ∈ c.sections then c.sections else c.sections ++ [s] := by
  unfold withSection
  split <;> rfl

/-- A request holds what it held and the section that is named. -/
theorem mem_sections_withSection (t : Section) :
    t ∈ (c.withSection s).sections ↔ t ∈ c.sections ∨ t = s := by
  rw [sections_withSection]
  split
  · next h => exact ⟨.inl, fun ht => ht.elim id fun hts => hts ▸ h⟩
  · simp

/-- To name a section again changes nothing. -/
theorem withSection_of_mem {c : DeviceInfo} {s : Section} (h : s ∈ c.sections) :
    c.withSection s = c := by
  rw [withSection, if_pos h]

/-- A request holds what it held and what is named. -/
theorem mem_sections_withSections (t : Section) :
    t ∈ (c.withSections named).sections ↔ t ∈ c.sections ∨ t ∈ named := by
  induction named generalizing c with
  | nil => simp
  | cons s named ih =>
    rw [withSections_cons, ih, mem_sections_withSection, List.mem_cons, or_assoc]

/-- Names change nothing exactly if the request holds them already. -/
theorem withSections_eq_self_iff : c.withSections named = c ↔ ∀ s ∈ named, s ∈ c.sections := by
  constructor
  · intro h s hs
    rw [← h, mem_sections_withSections]
    exact .inr hs
  · intro h
    induction named with
    | nil => rfl
    | cons s named ih =>
      rw [withSections_cons, withSection_of_mem (h s (by simp))]
      exact ih fun t ht => h t (by simp [ht])

/-- What is built from nothing are the names without those that are repeated. -/
theorem sections_withSections_new (settings : Settings) :
    ((new settings).withSections named).sections = named.eraseDups := by
  induction named using List.reverseRecOn with
  | nil => rfl
  | append_singleton named s ih =>
    rw [withSections_append, withSections_cons, withSections_nil, sections_withSection, ih,
      List.eraseDups_append]
    by_cases h : s ∈ named <;> simp [List.removeAll, h, List.eraseDups_cons]

end DeviceInfo

/-! ## The order of first names -/

section
variable {c : DeviceInfo} {named others sections : List Section}

/-- One more name is a first name or changes nothing. -/
theorem FirstNamed.withSection (h : FirstNamed named c.sections) (s : Section) :
    FirstNamed (named ++ [s]) (c.withSection s).sections := by
  have hkept : c.sections.Pairwise fun a b => (named ++ [s]).idxOf a < (named ++ [s]).idxOf b :=
    h.inOrder.imp_of_mem fun ha hb hab => by
      rwa [List.idxOf_append_of_mem ((h.mem_iff _).1 ha),
        List.idxOf_append_of_mem ((h.mem_iff _).1 hb)]
  refine ⟨fun t => ?_, ?_⟩
  · rw [DeviceInfo.mem_sections_withSection, h.mem_iff, List.mem_append, List.mem_singleton]
  rw [DeviceInfo.sections_withSection]
  split
  · exact hkept
  · next hs =>
    refine List.pairwise_append.2 ⟨hkept, List.pairwise_singleton _ s, fun a ha b hb => ?_⟩
    obtain rfl := List.mem_singleton.1 hb
    have hnamed := (h.mem_iff a).1 ha
    have hnew : b ∉ named := fun hb => hs ((h.mem_iff b).2 hb)
    rw [List.idxOf_append_of_mem hnamed, List.idxOf_append_of_notMem hnew]
    exact Nat.lt_of_lt_of_le (List.idxOf_lt_length_iff.2 hnamed) (Nat.le_add_right _ _)

/-- Naming keeps the order of first names, whatever is named. -/
theorem FirstNamed.withSections (h : FirstNamed named c.sections) (more : List Section) :
    FirstNamed (named ++ more) (c.withSections more).sections := by
  induction more generalizing c named with
  | nil => simpa using h
  | cons s more ih => simpa using ih (h.withSection s)

/-- Each section is there once. -/
theorem FirstNamed.nodup (h : FirstNamed named sections) : sections.Nodup :=
  h.inOrder.imp fun hlt heq => by simp [heq] at hlt

/-- There is one list of the sections in the order of their first names. -/
theorem FirstNamed.unique {ss ts : List Section} (hs : FirstNamed named ss)
    (ht : FirstNamed named ts) : ss = ts := by
  have hperm : ss.Perm ts := (List.perm_ext_iff_of_nodup hs.nodup ht.nodup).2 fun s =>
    (hs.mem_iff s).trans (ht.mem_iff s).symm
  exact hperm.eq_of_pairwise (fun _ _ _ _ hab hba => absurd hab (Nat.lt_asymm hba)) hs.inOrder
    ht.inOrder

/-- The sections themselves are in the order in which they are first named. -/
theorem FirstNamed.idxOf_lt_iff (h : FirstNamed named sections) {s t : Section} (hs : s ∈ named)
    (ht : t ∈ named) : named.idxOf s < named.idxOf t ↔ sections.idxOf s < sections.idxOf t := by
  have hbefore {a b : Section} (ha : a ∈ named) (hb : b ∈ named)
      (hab : sections.idxOf a < sections.idxOf b) : named.idxOf a < named.idxOf b := by
    have ha' := List.idxOf_lt_length_iff.2 ((h.mem_iff a).2 ha)
    have hb' := List.idxOf_lt_length_iff.2 ((h.mem_iff b).2 hb)
    simpa using List.pairwise_iff_getElem.1 h.inOrder _ _ ha' hb' hab
  refine ⟨fun hlt => ?_, hbefore hs ht⟩
  rcases Nat.lt_trichotomy (sections.idxOf s) (sections.idxOf t) with h' | h' | h'
  · exact h'
  · rw [(List.idxOf_inj ((h.mem_iff s).2 hs)).1 h'] at hlt
    exact absurd hlt (Nat.lt_irrefl _)
  · exact absurd hlt (Nat.lt_asymm (hbefore ht hs h'))

/-- The first names are the same exactly if they are alike. -/
theorem FirstNamed.eq_iff {ss ts : List Section} (hs : FirstNamed named ss)
    (ht : FirstNamed others ts) : ss = ts ↔ NamedAlike named others := by
  constructor
  · rintro rfl
    refine ⟨fun s => (hs.mem_iff s).symm.trans (ht.mem_iff s), fun s hsn t htn => ?_⟩
    rw [hs.idxOf_lt_iff hsn htn, ht.idxOf_lt_iff ((ht.mem_iff s).1 ((hs.mem_iff s).2 hsn))
      ((ht.mem_iff t).1 ((hs.mem_iff t).2 htn))]
  · intro h
    refine hs.unique ⟨fun s => (ht.mem_iff s).trans (h.mem_iff s).symm, ?_⟩
    refine ht.inOrder.imp_of_mem fun ha hb hab => ?_
    exact (h.before_iff _ ((h.mem_iff _).2 ((ht.mem_iff _).1 ha)) _
      ((h.mem_iff _).2 ((ht.mem_iff _).1 hb))).2 hab

end

/-! ## The options of a request -/

namespace DeviceInfo

variable {c d : DeviceInfo}

/-- The sections of a request can be read off its options. -/
theorem options_eq_iff : c.options = d.options ↔ c.sections = d.sections := by
  constructor
  · intro h
    have hnone : Tokens.Plain [] := fun _ h => nomatch h
    have hc := Tokens.sections_map_flag c.sections hnone
    have hd := Tokens.sections_map_flag d.sections hnone
    simp only [List.append_nil] at hc hd
    exact congrArg Prod.fst (hc.symm.trans ((congrArg Tokens.sections h).trans hd))
  · intro h
    rw [options, options, h]

/-- Sections are told apart by their flags. -/
theorem encode_flag_injective : Function.Injective fun s : Section => encode s.flag := by
  intro s t h
  have hoptions : (DeviceInfo.mk .default [s]).options = (DeviceInfo.mk .default [t]).options :=
    congrArg (fun token => [token]) h
  exact List.singleton_inj.1 (options_eq_iff.1 hoptions)

/-- What is built from nothing has the named sections in the order of their first names. -/
theorem firstNamed_withSections_new (settings : Settings) (named : List Section) :
    FirstNamed named ((new settings).withSections named).sections := by
  have hnone : FirstNamed [] (new settings).sections := ⟨fun _ => Iff.rfl, .nil⟩
  exact hnone.withSections named

/-- **Sections are an ordered set.** The options of a request that is built by naming sections are
those of the names without what is repeated, which are the named sections in the order of their
first names. No option is there twice, and two requests have the same options exactly if their
sections are named for the first time in the same order. Further names change nothing exactly if
they have all been named already. -/
theorem options_withSections (settings : Settings) (named : List Section) :
    ((new settings).withSections named).options =
        named.eraseDups.map (fun s => encode s.flag) ∧
      FirstNamed named named.eraseDups ∧
      ((new settings).withSections named).options.Nodup ∧
      (∀ (settings' : Settings) (others : List Section),
        ((new settings).withSections named).options =
          ((new settings').withSections others).options ↔ NamedAlike named others) ∧
      ∀ more : List Section,
        (new settings).withSections (named ++ more) = (new settings).withSections named ↔
          ∀ s ∈ more, s ∈ named := by
  have hfirst := firstNamed_withSections_new settings named
  refine ⟨?_, ?_, ?_, fun settings' others => ?_, fun more => ?_⟩
  · rw [options, sections_withSections_new]
  · rwa [sections_withSections_new] at hfirst
  · exact hfirst.nodup.map encode_flag_injective
  · rw [options_eq_iff]
    exact hfirst.eq_iff (firstNamed_withSections_new settings' others)
  · rw [withSections_append, withSections_eq_self_iff]
    exact forall₂_congr fun s _ => hfirst.mem_iff s

/-- A section that is named again keeps its first place. -/
example :
    ((new .default).withSections [.limits, .temperatures, .limits]).options =
      [encode "-L", encode "-T"] := by
  decide

end DeviceInfo

end KctlProbe
