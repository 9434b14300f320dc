import Mathlib.Data.List.Sort
import SecurityEvents.Proofs.Act
import SecurityEvents.Proofs.Documents
import SecurityEvents.Proofs.Text.Utf8Order
import SecurityEvents.Provider.Directory
set_option autoImplicit false

/-!
# What a directory lists

`Directory.Lists` tells what the listing of a directory comes to. It speaks of the entries as a set: the ones where
profiles are expected have one order, that of the octets of their names, so it does not matter in which order the system
gives them. `Directory.lists_afresh` is about a directory that changes, too: no listing depends on what was listed
before.
-/

namespace SecurityEvents.Directory

/-! ## Extensions -/

/-- The extension stands behind the last dot of the name, and something stands in front of that dot. -/
def HasExtension (name extension : String) : Prop :=
  ∃ stem, stem ≠ "" ∧ '.' ∉ extension.toList ∧ name = stem ++ "." ++ extension

theorem toList_dotted (stem extension : String) :
    (stem ++ "." ++ extension).toList = stem.toList ++ '.' :: extension.toList :=
  Text.toList_separated rfl stem extension

theorem extension?_of_hasExtension {name extension : String} (h : HasExtension name extension) :
    extension? name = some extension := by
  obtain ⟨stem, hstem, hdot, rfl⟩ := h
  have hname : stem ++ "." ++ extension = String.ofList (stem.toList ++ '.' :: extension.toList) := by
    rw [← toList_dotted, String.ofList_toList]
  rw [hname, extension?_append (fun h => hstem (String.toList_eq_nil_iff.1 h)) hdot, String.ofList_toList]

/-- What does not take the whole list was cut off at a dot. -/
theorem exists_eq_takeWhile_append {cs : List Char} (h : (cs.takeWhile (· ≠ '.')).length < cs.length) :
    ∃ rest, cs = cs.takeWhile (· ≠ '.') ++ '.' :: rest := by
  induction cs with
  | nil => exact (Nat.lt_irrefl _ h).elim
  | cons c cs ih =>
    by_cases hc : c = '.'
    · exact ⟨cs, by simp [hc]⟩
    · have htake : (c :: cs).takeWhile (· ≠ '.') = c :: cs.takeWhile (· ≠ '.') :=
        List.takeWhile_cons_of_pos (decide_eq_true hc)
      rw [htake] at h ⊢
      obtain ⟨rest, hrest⟩ := ih (Nat.lt_of_succ_lt_succ h)
      exact ⟨rest, congrArg (c :: ·) hrest⟩

theorem hasExtension_of_extension? {name extension : String} (h : extension? name = some extension) :
    HasExtension name extension := by
  unfold extension? at h
  dsimp only at h
  split at h
  · rename_i hlength
    cases h
    rw [List.length_reverse] at hlength
    have hshort : (name.toList.reverse.takeWhile (· ≠ '.')).length < name.toList.reverse.length := by
      rw [List.length_reverse]
      exact Nat.lt_of_succ_lt hlength
    have hback : '.' ∉ name.toList.reverse.takeWhile (· ≠ '.') := fun hmem =>
      absurd (List.all_eq_true.1 List.all_takeWhile '.' hmem) (by decide)
    obtain ⟨rest, hrest⟩ := exists_eq_takeWhile_append hshort
    generalize name.toList.reverse.takeWhile (· ≠ '.') = back at *
    have hname : name.toList = rest.reverse ++ '.' :: back.reverse := by
      rw [← List.reverse_reverse name.toList, hrest, List.reverse_append, List.reverse_cons, List.append_assoc]
      rfl
    refine ⟨String.ofList rest.reverse, fun hempty => ?_, ?_, ?_⟩
    · rw [hname, List.length_append, List.length_cons, List.length_reverse, List.length_reverse] at hlength
      have hrest_nil : rest = [] := List.reverse_eq_nil_iff.1 (String.ofList_eq_empty_iff.1 hempty)
      rw [hrest_nil, List.length_nil] at hlength
      omega
    · rwa [String.toList_ofList, List.mem_reverse]
    · rw [← String.toList_inj, toList_dotted, String.toList_ofList, String.toList_ofList, hname]
  · cases h

theorem isProfileName_iff {name : String} : isProfileName name = true ↔ HasExtension name "json" := by
  rw [isProfileName, decide_eq_true_iff]
  exact ⟨hasExtension_of_extension?, extension?_of_hasExtension⟩

/-! ## Entries -/

/-- The names of the entries differ. -/
def NamedApart (d : Directory) : Prop :=
  ∀ entries, d.entries = some entries → (entries.map (·.1)).Nodup

/-- These are the entries where profiles are expected, by the octets of their names. -/
structure Candidates (entries candidates : List (String × DirectoryEntry)) : Prop where
  ordered : candidates.Pairwise fun a b => Text.octets a.1 < Text.octets b.1
  mem_iff : ∀ e, e ∈ candidates ↔ e ∈ entries ∧ HasExtension e.1 "json"

theorem candidates_profileEntries {entries : List (String × DirectoryEntry)} (h : (entries.map (·.1)).Nodup) :
    Candidates entries (profileEntries entries) where
  ordered := by
    have hperm : (profileEntries entries).Perm (entries.filter fun e => isProfileName e.1) := List.mergeSort_perm _ _
    have hnames : ((profileEntries entries).map (·.1)).Nodup :=
      (hperm.map _).nodup_iff.2 (h.sublist (List.filter_sublist.map _))
    have hsorted : (profileEntries entries).Pairwise fun a b => a.1 ≤ b.1 := by
      refine (List.pairwise_mergeSort (fun a b c hab hbc => ?_) (fun a b => ?_) _).imp of_decide_eq_true
      · exact decide_eq_true (le_trans (of_decide_eq_true hab) (of_decide_eq_true hbc))
      · rw [Bool.or_eq_true, decide_eq_true_iff, decide_eq_true_iff]
        exact le_total a.1 b.1
    refine (hsorted.and (List.pairwise_map.1 hnames)).imp fun ⟨hle, hne⟩ => Text.lt_iff_octets_lt.1 ?_
    exact lt_of_le_of_ne hle hne
  mem_iff e := by
    rw [profileEntries, (List.mergeSort_perm _ _).mem_iff, List.mem_filter, isProfileName_iff]

theorem Candidates.unique {entries candidates others : List (String × DirectoryEntry)} (h : Candidates entries candidates)
    (hothers : Candidates entries others) : candidates = others := by
  have hirrefl : Std.Irrefl fun a b : String × DirectoryEntry => Text.octets a.1 < Text.octets b.1 :=
    ⟨fun a => List.lt_irrefl _⟩
  have hantisymm : Std.Antisymm fun a b : String × DirectoryEntry => Text.octets a.1 < Text.octets b.1 :=
    ⟨fun a b hab hba => (List.lt_asymm hab hba).elim⟩
  exact h.ordered.eq_of_mem_iff hothers.ordered fun e => (h.mem_iff e).trans (hothers.mem_iff e).symm

/-! ## Loading -/

/-- The entry is a file whose octets are a profile. -/
def HoldsProfile (entry : DirectoryEntry) (profile : Profile) : Prop :=
  ∃ octets, entry = .file octets ∧ Profile.reading.ofPlaces (Text.places octets) = some profile

theorem profile?_eq_some_iff {entry : DirectoryEntry} {profile : Profile} :
    profile? entry = some profile ↔ HoldsProfile entry profile := by
  cases entry with
  | file octets =>
    constructor
    · exact fun h => ⟨octets, rfl, h⟩
    · rintro ⟨_, hsame, h⟩
      cases hsame
      exact h
  | folder => exact iff_of_false nofun fun ⟨_, h, _⟩ => nomatch h
  | unreadable => exact iff_of_false nofun fun ⟨_, h, _⟩ => nomatch h

/-- A profile that is written to a file is held by it. -/
theorem holdsProfile_text (p : Profile) : HoldsProfile (.file p.json.text.toUTF8) p :=
  ⟨_, rfl, by rw [Text.places_toUTF8]; exact p.ofText_text⟩

theorem profile?_eq_none_iff {entry : DirectoryEntry} :
    profile? entry = none ↔ ∀ profile, ¬ HoldsProfile entry profile := by
  simp only [← profile?_eq_some_iff, Option.eq_none_iff_forall_ne_some, ne_eq]

section Load

variable {path : String} {entries : List (String × DirectoryEntry)} {name : String} {entry : DirectoryEntry}
  {s s' : Scene Directory}

theorem load_of_good {profile : Profile} {answer : Except Error (List Profile)} (h : HoldsProfile entry profile)
    (hrest : load path entries ⟨s.state, s.notices ++ [.profileLoaded profile.name]⟩ = .ok answer s') :
    load path ((name, entry) :: entries) s = .ok (answer.map (profile :: ·)) s' := by
  rw [load, profile?_eq_some_iff.2 h]
  exact Act.bind_of_ok _ hrest

theorem load_of_all {profiles : List Profile}
    (h : List.Forall₂ (fun e profile => HoldsProfile e.2 profile) entries profiles) (s : Scene Directory) :
    ∃ notices, load path entries s = .ok (.ok profiles) ⟨s.state, notices⟩ := by
  induction h generalizing s with
  | nil => exact ⟨_, rfl⟩
  | cons hfirst _ ih =>
    obtain ⟨notices, hrest⟩ := ih ⟨s.state, _⟩
    exact ⟨notices, load_of_good hfirst hrest⟩

theorem load_of_bad {before after : List (String × DirectoryEntry)}
    (hbefore : ∀ e ∈ before, ∃ profile, HoldsProfile e.2 profile) (hbad : ∀ profile, ¬ HoldsProfile entry profile)
    (s : Scene Directory) :
    ∃ notices, load path (before ++ (name, entry) :: after) s
      = .ok (.error (.catalogUnavailable (entryPath path name))) ⟨s.state, notices⟩ := by
  induction before generalizing s with
  | nil =>
    refine ⟨s.notices, ?_⟩
    rw [List.nil_append, load, profile?_eq_none_iff.2 hbad]
    rfl
  | cons e before ih =>
    obtain ⟨⟨profile, hprofile⟩, hbefore⟩ := List.forall_mem_cons.1 hbefore
    obtain ⟨notices, hrest⟩ := ih hbefore ⟨s.state, _⟩
    exact ⟨notices, load_of_good hprofile hrest⟩

end Load

/-- All entries hold a profile, or there is a first that does not. -/
theorem all_or_first_bad (entries : List (String × DirectoryEntry)) :
    (∃ profiles, List.Forall₂ (fun e profile => HoldsProfile e.2 profile) entries profiles)
    ∨ ∃ before name entry after, entries = before ++ (name, entry) :: after
      ∧ (∀ e ∈ before, ∃ profile, HoldsProfile e.2 profile) ∧ ∀ profile, ¬ HoldsProfile entry profile := by
  induction entries with
  | nil => exact .inl ⟨[], .nil⟩
  | cons e entries ih =>
    by_cases hfirst : ∃ profile, HoldsProfile e.2 profile
    · rcases ih with ⟨profiles, hall⟩ | ⟨before, name, entry, after, rfl, hbefore, hbad⟩
      · obtain ⟨profile, hprofile⟩ := hfirst
        exact .inl ⟨profile :: profiles, .cons hprofile hall⟩
      · exact .inr ⟨e :: before, name, entry, after, rfl, List.forall_mem_cons.2 ⟨hfirst, hbefore⟩, hbad⟩
    · exact .inr ⟨[], e.1, e.2, entries, rfl, fun _ h => (List.not_mem_nil h).elim, not_exists.1 hfirst⟩

/-! ## Listings -/

/-- What the listing of a directory comes to: the profiles of all candidates in their order, or else an error that
blames the first candidate without a profile, or the directory itself. -/
inductive Lists (d : Directory) : Except Error (List Profile) → Prop where
  | unavailable (h : d.entries = none) : Lists d (.error (.catalogUnavailable d.path))
  | profiles {entries candidates : List (String × DirectoryEntry)} {profiles : List Profile}
    (h : d.entries = some entries) (hcandidates : Candidates entries candidates)
    (hall : List.Forall₂ (fun e profile => HoldsProfile e.2 profile) candidates profiles) : Lists d (.ok profiles)
  | bad {entries before after : List (String × DirectoryEntry)} {name : String} {entry : DirectoryEntry}
    (h : d.entries = some entries) (hcandidates : Candidates entries (before ++ (name, entry) :: after))
    (hbefore : ∀ e ∈ before, ∃ profile, HoldsProfile e.2 profile) (hbad : ∀ profile, ¬ HoldsProfile entry profile) :
    Lists d (.error (.catalogUnavailable (entryPath d.path name)))

section Lists

variable {d : Directory} {told : Except Error (List Profile)}

theorem exists_lists (hnamed : d.NamedApart) : ∃ told, d.Lists told := by
  cases h : d.entries with
  | none => exact ⟨_, .unavailable h⟩
  | some entries =>
    have hcandidates := candidates_profileEntries (hnamed entries h)
    rcases all_or_first_bad (profileEntries entries) with
      ⟨profiles, hall⟩ | ⟨before, name, entry, after, heq, hbefore, hbad⟩
    · exact ⟨_, .profiles h hcandidates hall⟩
    · exact ⟨_, .bad h (heq ▸ hcandidates) hbefore hbad⟩

theorem list_of_no_entries (h : d.entries = none) (notices : List Notice) :
    provider.list ⟨d, notices⟩ = .ok (.error (.catalogUnavailable d.path)) ⟨d, notices⟩ := by
  obtain ⟨path, entries⟩ := d
  cases h
  rfl

theorem list_of_entries {entries : List (String × DirectoryEntry)} (h : d.entries = some entries)
    (notices : List Notice) :
    provider.list ⟨d, notices⟩ = load d.path (profileEntries entries) ⟨d, notices⟩ := by
  obtain ⟨path, _⟩ := d
  cases h
  rfl

/-- The directory is left as it is. -/
theorem list_of_lists (hnamed : d.NamedApart) (h : d.Lists told) (notices : List Notice) :
    ∃ later, provider.list ⟨d, notices⟩ = .ok told ⟨d, later⟩ := by
  cases h with
  | unavailable h => exact ⟨notices, list_of_no_entries h notices⟩
  | profiles h hcandidates hall =>
    rw [list_of_entries h, (candidates_profileEntries (hnamed _ h)).unique hcandidates]
    exact load_of_all hall _
  | bad h hcandidates hbefore hbad =>
    rw [list_of_entries h, (candidates_profileEntries (hnamed _ h)).unique hcandidates]
    exact load_of_bad hbefore hbad _

theorem lists_iff (hnamed : d.NamedApart) (notices : List Notice) :
    d.Lists told ↔ provider.list.answer ⟨d, notices⟩ = .ok told := by
  constructor
  · intro h
    obtain ⟨later, hlist⟩ := list_of_lists hnamed h notices
    exact (Act.eq_ok_iff.1 hlist).1
  · intro h
    obtain ⟨other, hother⟩ := exists_lists hnamed
    obtain ⟨later, hlist⟩ := list_of_lists hnamed hother notices
    cases (Act.eq_ok_iff.1 hlist).1.symm.trans h
    exact hother

end Lists

/-! ## Directories that change -/

theorem nodup_names_filter {d : Directory} (h : d.NamedApart) {entries : List (String × DirectoryEntry)}
    (hentries : d.entries = some entries) (name : String) : ((entries.filter (·.1 ≠ name)).map (·.1)).Nodup :=
  (h entries hentries).sublist (List.filter_sublist.map _)

theorem NamedApart.remove {d : Directory} (h : d.NamedApart) (path : String) : (d.remove path).NamedApart := by
  unfold Directory.remove
  split
  · exact h
  · intro entries hentries
    obtain ⟨old, hold, rfl⟩ := Option.map_eq_some_iff.1 hentries
    exact nodup_names_filter h hold _

theorem NamedApart.put {d : Directory} (h : d.NamedApart) (path : String) (entry : DirectoryEntry) :
    (d.put path entry).NamedApart := by
  unfold Directory.put
  split
  · exact h
  · intro entries hentries
    obtain ⟨old, hold, rfl⟩ := Option.map_eq_some_iff.1 hentries
    rw [List.map_append, List.nodup_append]
    refine ⟨nodup_names_filter h hold _, List.nodup_singleton _, fun a ha b hb => ?_⟩
    obtain ⟨e, he, rfl⟩ := List.mem_map.1 ha
    rw [List.map_singleton, List.mem_singleton] at hb
    exact hb ▸ of_decide_eq_true (List.mem_filter.1 he).2

/-- A change leaves no name in two entries. -/
theorem NamedApart.edit {d : Directory} (h : d.NamedApart) (e : Edit) : (d.edit e).NamedApart := by
  cases e with
  | put path entry => exact h.put path entry
  | remove path => exact h.remove path

theorem NamedApart.edited {d : Directory} (h : d.NamedApart) (edits : List Edit) : (d.edited edits).NamedApart := by
  induction edits generalizing d with
  | nil => exact h
  | cons e edits ih => exact ih (h.edit e)

theorem attend_list {s s' s'' : Scene Directory} {told : Except Error (List Profile)} {visits : List Visit}
    {answers : List (Except Error (List Profile))} (h : provider.list s = .ok told s')
    (hrest : attend visits s' = .ok answers s'') : attend (.list :: visits) s = .ok (told :: answers) s'' := by
  rw [attend, Act.bind_of_ok _ h]
  exact Act.bind_of_ok _ hrest

/-- Whatever happens is gone through, and only the changes remain of it: what happens next finds the directory that they
lead to. -/
theorem exists_attend {d : Directory} (hnamed : d.NamedApart) (before : List Visit) (notices : List Notice) :
    ∃ earlier between, attend before ⟨d, notices⟩ = .ok earlier ⟨d.edited (changes before), between⟩
      ∧ ∀ after later s', attend after ⟨d.edited (changes before), between⟩ = .ok later s' →
        attend (before ++ after) ⟨d, notices⟩ = .ok (earlier ++ later) s' := by
  induction before generalizing d notices with
  | nil => exact ⟨[], notices, rfl, fun _ _ _ h => h⟩
  | cons visit before ih =>
    cases visit with
    | edit e => exact ih (hnamed.edit e) notices
    | list =>
      obtain ⟨told, htold⟩ := exists_lists hnamed
      obtain ⟨listed, hlist⟩ := list_of_lists hnamed htold notices
      obtain ⟨earlier, between, hbefore, happend⟩ := ih hnamed listed
      exact ⟨told :: earlier, between, attend_list hlist hbefore, fun after later s' hafter =>
        attend_list hlist (happend after later s' hafter)⟩

/-- The directories have the same entries, in whatever order. -/
def SameEntries (d d' : Directory) : Prop :=
  (d.entries = none ↔ d'.entries = none)
    ∧ ∀ entries entries', d.entries = some entries → d'.entries = some entries' → ∀ e, e ∈ entries ↔ e ∈ entries'

theorem Candidates.congr {entries entries' candidates : List (String × DirectoryEntry)}
    (hsame : ∀ e, e ∈ entries ↔ e ∈ entries') (h : Candidates entries candidates) : Candidates entries' candidates where
  ordered := h.ordered
  mem_iff e := (h.mem_iff e).trans (and_congr_left' (hsame e))

theorem Lists.congr {d d' : Directory} (hpath : d.path = d'.path) (hsame : d.SameEntries d')
    {told : Except Error (List Profile)} (h : d.Lists told) : d'.Lists told := by
  have hsome {entries : List (String × DirectoryEntry)} (hentries : d.entries = some entries) :
      ∃ entries', d'.entries = some entries' ∧ ∀ e, e ∈ entries ↔ e ∈ entries' := by
    cases hentries' : d'.entries with
    | none => cases hentries.symm.trans (hsame.1.2 hentries')
    | some entries' => exact ⟨entries', rfl, hsame.2 _ _ hentries hentries'⟩
  cases h with
  | unavailable h => exact hpath ▸ .unavailable (hsame.1.1 h)
  | profiles h hcandidates hall =>
    obtain ⟨entries', hentries', hmem⟩ := hsome h
    exact .profiles hentries' (hcandidates.congr hmem) hall
  | bad h hcandidates hbefore hbad =>
    obtain ⟨entries', hentries', hmem⟩ := hsome h
    exact hpath ▸ .bad hentries' (hcandidates.congr hmem) hbefore hbad

/-- A listing comes to one thing, and leaves the directory as it is. It depends on the entries as a set. Whatever
changes and listings went before, it comes to what it comes to in a new directory with the same changes. -/
theorem lists_afresh {d : Directory} (hnamed : d.NamedApart) :
    (∀ notices, ∃ told, provider.list.answer ⟨d, notices⟩ = .ok told
      ∧ (provider.list.after ⟨d, notices⟩).state = d ∧ ∀ other, d.Lists other ↔ other = told)
    ∧ (∀ d', d'.NamedApart → d.path = d'.path → d.SameEntries d' → ∀ notices notices',
      provider.list.answer ⟨d, notices⟩ = provider.list.answer ⟨d', notices'⟩)
    ∧ ∀ before after notices, ∃ earlier told later,
      (attend before).answer ⟨d, notices⟩ = .ok earlier
      ∧ ((attend before).after ⟨d, notices⟩).state = d.edited (changes before)
      ∧ (attend (before ++ .list :: after)).answer ⟨d, notices⟩ = .ok (earlier ++ told :: later)
      ∧ provider.list.answer ⟨d.edited (changes before), []⟩ = .ok told
      ∧ (d.edited (changes before)).Lists told := by
  refine ⟨fun notices => ?_, fun d' hnamed' hpath hsame notices notices' => ?_, fun before after notices => ?_⟩
  · obtain ⟨told, htold⟩ := exists_lists hnamed
    obtain ⟨later, hlist⟩ := list_of_lists hnamed htold notices
    obtain ⟨hanswer, hafter⟩ := Act.eq_ok_iff.1 hlist
    refine ⟨told, hanswer, by rw [hafter], fun other => ?_⟩
    rw [lists_iff hnamed notices, hanswer, Except.ok.injEq, eq_comm]
  · obtain ⟨told, htold⟩ := exists_lists hnamed
    exact ((lists_iff hnamed notices).1 htold).trans
      ((lists_iff hnamed' notices').1 (htold.congr hpath hsame)).symm
  · obtain ⟨earlier, between, hbefore, happend⟩ := exists_attend hnamed before notices
    have hedited := hnamed.edited (changes before)
    obtain ⟨told, htold⟩ := exists_lists hedited
    obtain ⟨listed, hlist⟩ := list_of_lists hedited htold between
    obtain ⟨later, _, hafter, -⟩ := exists_attend hedited after listed
    obtain ⟨hanswer, hafter_before⟩ := Act.eq_ok_iff.1 hbefore
    exact ⟨earlier, told, later, hanswer, by rw [hafter_before],
      (Act.eq_ok_iff.1 (happend _ _ _ (attend_list hlist hafter))).1, (lists_iff hedited []).1 htold, htold⟩

/-- A file with a profile. -/
def written (p : Profile) : DirectoryEntry := .file p.json.text.toUTF8

/-- A directory with two profiles and something that is none. -/
def twoProfiles : Directory where
  path := "profiles"
  entries := some [("20-risc.json", written ⟨"RISC", "1", []⟩), ("notes.txt", .unreadable),
    ("10-wso2.json", written silentProfile)]

theorem namedApart_twoProfiles : twoProfiles.NamedApart := by
  intro entries hentries
  cases hentries
  decide

theorem candidates_twoProfiles :
    Candidates [("20-risc.json", written ⟨"RISC", "1", []⟩), ("notes.txt", .unreadable),
      ("10-wso2.json", written silentProfile)]
      [("10-wso2.json", written silentProfile), ("20-risc.json", written ⟨"RISC", "1", []⟩)] where
  ordered := List.pairwise_pair.2 (by decide)
  mem_iff e := by
    simp only [List.mem_cons, List.not_mem_nil, or_false, ← isProfileName_iff]
    constructor
    · rintro (rfl | rfl)
      · exact ⟨.inr (.inr rfl), by decide⟩
      · exact ⟨.inl rfl, by decide⟩
    · rintro ⟨rfl | rfl | rfl, hname⟩
      · exact .inr rfl
      · exact absurd hname (by decide)
      · exact .inl rfl

theorem twoProfiles_lists : twoProfiles.Lists (.ok [silentProfile, ⟨"RISC", "1", []⟩]) :=
  .profiles rfl candidates_twoProfiles (.cons (holdsProfile_text _) (.cons (holdsProfile_text _) .nil))

theorem twoProfiles_listed :
    provider.list.answer ⟨twoProfiles, []⟩ = .ok (.ok [silentProfile, ⟨"RISC", "1", []⟩])
    ∧ ∃ earlier later, (attend [.list, .list]).answer ⟨twoProfiles, []⟩
      = .ok (earlier ++ .ok [silentProfile, ⟨"RISC", "1", []⟩] :: later) := by
  obtain ⟨hfirst, -, hagain⟩ := lists_afresh namedApart_twoProfiles
  obtain ⟨told, hanswer, -, hunique⟩ := hfirst []
  cases (hunique _).1 twoProfiles_lists
  refine ⟨hanswer, ?_⟩
  obtain ⟨earlier, again, later, -, -, hattend, hfresh, -⟩ := hagain [.list] [] []
  cases hfresh.symm.trans hanswer
  exact ⟨earlier, later, hattend⟩

end SecurityEvents.Directory
