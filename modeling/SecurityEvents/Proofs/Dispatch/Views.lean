import SecurityEvents.Proofs.Dispatch.Ending
import SecurityEvents.Proofs.Payload.Subject
set_option autoImplicit false

/-!
# What the views of a report show

A report has an entry for every profile that was served, and three views: the profiles that the event was published
for, those that failed, and the reason why a profile was skipped. The first two go over the entries and keep those with
the right outcome; they show each of them, in order and as often as it is there (`Report.Dealt`). The third takes a name
and looks for the first entry of that name before it looks at the outcome. So it shows the skipped entries of a name if
the first entry of the name is one of them; otherwise it has nothing to say of the name, and the skipped entries that
come later are in no view at all. `Report.Hides` says which these are. They need two profiles of one name, such as two
versions, in the snapshot.
-/

namespace SecurityEvents

/-- The profile was skipped, for whatever reason. -/
def Outcome.IsSkipped (out : Outcome) : Prop :=
  ∃ reason, out = .skipped reason

theorem Outcome.skipReason?_eq_some_iff {out : Outcome} {reason : SkipReason} :
    out.skipReason? = some reason ↔ out = .skipped reason := by
  cases out <;> simp [skipReason?]

namespace Report

/-- The profiles that were skipped, by name, and why. -/
def skips (r : Report) : List (String × SkipReason) :=
  r.profiles.filterMap fun p => p.outcome.skipReason?.map (p.name, ·)

/-- Every entry stands in the list of its outcome and in no other, and the lists keep the order of the entries. -/
inductive Dealt :
    List ProfileReport → List String → List (String × Error) → List (String × SkipReason) → Prop where
  | nil : Dealt [] [] [] []
  | published {entries : List ProfileReport} {names : List String} {errors : List (String × Error)}
      {reasons : List (String × SkipReason)} (name version eventUri : String)
      (rest : Dealt entries names errors reasons) :
    Dealt (⟨name, version, .published eventUri⟩ :: entries) (name :: names) errors reasons
  | failed {entries : List ProfileReport} {names : List String} {errors : List (String × Error)}
      {reasons : List (String × SkipReason)} (name version : String) (error : Error)
      (rest : Dealt entries names errors reasons) :
    Dealt (⟨name, version, .failed error⟩ :: entries) names ((name, error) :: errors) reasons
  | skipped {entries : List ProfileReport} {names : List String} {errors : List (String × Error)}
      {reasons : List (String × SkipReason)} (name version : String) (reason : SkipReason)
      (rest : Dealt entries names errors reasons) :
    Dealt (⟨name, version, .skipped reason⟩ :: entries) names errors ((name, reason) :: reasons)

/-- The entry was skipped, and the first entry of its name was not. -/
def Hides (r : Report) (p : ProfileReport) : Prop :=
  p.outcome.IsSkipped ∧ ∃ first, IsFirst (·.name = p.name) r.profiles first ∧ ¬ first.outcome.IsSkipped

/-- The view of the outcome of the entry has the name of the entry. -/
def Shows (r : Report) (p : ProfileReport) : Prop :=
  match p.outcome with
  | .published _ => p.name ∈ r.publishedProfiles
  | .failed error => (p.name, error) ∈ r.failures
  | .skipped _ => (r.skipReason? p.name).isSome

section Views

variable {r : Report} {p : ProfileReport} {name : String} {reason : SkipReason}

theorem dealt_views (r : Report) : Dealt r.profiles r.publishedProfiles r.failures r.skips := by
  obtain ⟨eventName, category, entries⟩ := r
  induction entries with
  | nil => exact .nil
  | cons p rest ih =>
    obtain ⟨name, version, out⟩ := p
    cases out with
    | published eventUri => exact .published name version eventUri ih
    | skipped reason => exact .skipped name version reason ih
    | failed error => exact .failed name version error ih

theorem publishedCount_eq_length (r : Report) : r.publishedCount = r.publishedProfiles.length := by
  rw [publishedCount, publishedProfiles, List.length_map, List.countP_eq_length_filter]

theorem skipReason?_eq_some_iff :
    r.skipReason? name = some reason
      ↔ ∃ first, IsFirst (·.name = name) r.profiles first ∧ first.outcome = .skipped reason := by
  simp only [skipReason?, Option.bind_eq_some_iff, find?_eq_some_iff_isFirst, Outcome.skipReason?_eq_some_iff]

/-- A reason is found for a name exactly if the first entry of the name was skipped. -/
theorem isSome_skipReason?_iff :
    (r.skipReason? name).isSome
      ↔ ∃ first, IsFirst (·.name = name) r.profiles first ∧ first.outcome.IsSkipped := by
  simp only [Option.isSome_iff_exists, skipReason?_eq_some_iff, Outcome.IsSkipped]
  exact exists_comm.trans (exists_congr fun _ => exists_and_left)

/-- Where one entry of a name was skipped, a reason is found for the name exactly if that entry is not hidden. -/
theorem isSome_skipReason?_iff_not_hides (hp : p ∈ r.profiles) (hskipped : p.outcome.IsSkipped) :
    (r.skipReason? p.name).isSome ↔ ¬ r.Hides p := by
  rw [isSome_skipReason?_iff]
  constructor
  · rintro ⟨first, hfirst, hfirstSkipped⟩ ⟨_, other, hother, hnot⟩
    exact hnot (hfirst.unique hother ▸ hfirstSkipped)
  · intro hides
    obtain ⟨first, hfirst⟩ := exists_isFirst ProfileReport.name hp
    exact ⟨first, hfirst, Classical.not_not.1 fun hnot => hides ⟨hskipped, first, hfirst, hnot⟩⟩

/-- Whether a reason is found for a name tells whether some entry of the name was skipped, exactly if the report hides
no entry of the name. -/
theorem isSome_skipReason?_iff_exists_iff (r : Report) (name : String) :
    ((r.skipReason? name).isSome ↔ ∃ p ∈ r.profiles, p.name = name ∧ p.outcome.IsSkipped)
      ↔ ∀ p ∈ r.profiles, p.name = name → ¬ r.Hides p := by
  constructor
  · rintro htells p hp rfl hhides
    exact (isSome_skipReason?_iff_not_hides hp hhides.1).1 (htells.2 ⟨p, hp, rfl, hhides.1⟩) hhides
  · intro hshown
    constructor
    · intro hfound
      obtain ⟨first, hfirst, hskipped⟩ := isSome_skipReason?_iff.1 hfound
      exact ⟨first, hfirst.mem, hfirst.1, hskipped⟩
    · rintro ⟨p, hp, rfl, hskipped⟩
      exact (isSome_skipReason?_iff_not_hides hp hskipped).2 (hshown p hp rfl)

/-- What was published or failed is never hidden. -/
theorem shows_iff_not_hides (hp : p ∈ r.profiles) : r.Shows p ↔ ¬ r.Hides p := by
  obtain ⟨name, version, out⟩ := p
  cases out with
  | published eventUri =>
    refine iff_of_true (List.mem_map_of_mem (List.mem_filter.2 ⟨hp, rfl⟩)) ?_
    rintro ⟨⟨_, hskipped⟩, _⟩
    cases hskipped
  | failed error =>
    refine iff_of_true (List.mem_filterMap.2 ⟨_, hp, rfl⟩) ?_
    rintro ⟨⟨_, hskipped⟩, _⟩
    cases hskipped
  | skipped reason => exact isSome_skipReason?_iff_not_hides hp ⟨reason, rfl⟩

/-- Where no name occurs twice, nothing is hidden. -/
theorem shows_of_nodup (hnames : (r.profiles.map ProfileReport.name).Nodup) (hp : p ∈ r.profiles) :
    r.Shows p := by
  refine (shows_iff_not_hides hp).2 ?_
  rintro ⟨hskipped, first, hfirst, hnot⟩
  exact hnot (hfirst.unique (isFirst_of_nodup ProfileReport.name hnames hp) ▸ hskipped)

end Views

/-- What the views of a report show of its entries. -/
structure Views (r : Report) : Prop where
  dealt : Dealt r.profiles r.publishedProfiles r.failures r.skips
  count : r.publishedCount = r.publishedProfiles.length
  reason : ∀ name reason, r.skipReason? name = some reason
    ↔ ∃ first, IsFirst (·.name = name) r.profiles first ∧ first.outcome = .skipped reason
  tells : ∀ name, ((r.skipReason? name).isSome ↔ ∃ p ∈ r.profiles, p.name = name ∧ p.outcome.IsSkipped)
    ↔ ∀ p ∈ r.profiles, p.name = name → ¬ r.Hides p
  shows : ∀ p ∈ r.profiles, r.Shows p ↔ ¬ r.Hides p

theorem views (r : Report) : r.Views where
  dealt := r.dealt_views
  count := r.publishedCount_eq_length
  reason _ _ := skipReason?_eq_some_iff
  tells := r.isSome_skipReason?_iff_exists_iff
  shows _ hp := shows_iff_not_hides hp

end Report

/-! ## The reports of a dispatch -/

namespace Dispatcher

variable {σ : Type} {d : Dispatcher σ} {o : Occurrence} {ps : List Profile} {entries : List ProfileReport}

theorem map_name_of_reports (h : List.Forall₂ (d.Reports o) ps entries) :
    entries.map ProfileReport.name = ps.map Profile.name := by
  induction h with
  | nil => rfl
  | cons hp _ ih => rw [List.map_cons, List.map_cons, hp.name_eq, ih]

/-- Every profile that is served comes to an end that is reported, in order. -/
theorem exists_serveAll_reports (d : Dispatcher σ) (o : Occurrence) (ps : List Profile) (s : Scene (Issuing σ)) :
    ∃ entries s', d.serveAll o ps s = .ok entries s' ∧ List.Forall₂ (d.Reports o) ps entries := by
  induction ps generalizing s with
  | nil => exact ⟨[], s, rfl, .nil⟩
  | cons p rest ih =>
    obtain ⟨out, handed, t, hdecided⟩ := exists_decided d o p s.state.stamper.next s.services
    obtain ⟨s₁, hserve, _⟩ := hdecided.exists_serve_eq
    obtain ⟨entries, s₂, hrest, hreports⟩ := ih s₁
    refine ⟨⟨p.name, p.version, out⟩ :: entries, s₂, ?_, .cons ⟨rfl, rfl, hdecided.ends⟩ hreports⟩
    rw [serveAll, Act.bind_of_ok _ hserve, Act.bind_of_ok _ hrest]
    rfl

/-- The profiles that have reported have different names if those that were listed have. -/
theorem nodup_names_of_accounts {f : FanOut σ} {served : List Profile} (h : f.Accounts d o ps served)
    (hnames : (ps.map Profile.name).Nodup) : (f.reports.map ProfileReport.name).Nodup := by
  rw [map_name_of_reports h.reports]
  have hall := (h.perm.map Profile.name).nodup_iff.2 hnames
  rw [List.map_append] at hall
  exact (List.nodup_append.1 hall).1

/-- Whatever the snapshot and whatever becomes of its profiles, a dispatch has an entry for each, and what the views of
the report show is each entry that is not hidden behind the first of its name. If no two profiles of the snapshot have
the same name, every entry is shown. The same holds of the entries that have come so far if several profiles are served
at a time. -/
theorem report_views {event : Event} {data : EventData} {s : Scene (Issuing σ)} {t : Scene σ} (category : Category)
    (hdata : EventData.ofEvent event = .ok data) (hlisted : d.provider.list s.services = .ok (.ok ps) t) :
    (∃ report s', d.dispatch event category s = .ok (.ok report) s'
      ∧ List.Forall₂ (d.Reports ⟨event.name, category, data⟩) ps report.profiles
      ∧ report.Views ∧ ((ps.map Profile.name).Nodup → ∀ p ∈ report.profiles, report.Shows p))
    ∧ ∀ moves, ∃ f served s', d.fanOut event category moves s = .ok (.ok f) s'
      ∧ f.Accounts d ⟨event.name, category, data⟩ ps served
      ∧ Report.Views ⟨event.name, category, f.reports⟩
      ∧ ((ps.map Profile.name).Nodup → ∀ p ∈ f.reports, Report.Shows ⟨event.name, category, f.reports⟩ p) := by
  refine ⟨?_, fun moves => ?_⟩
  · obtain ⟨s₁, _, hdispatch⟩ := exists_dispatch_eq_serveAll category hdata hlisted
    obtain ⟨entries, s₂, hserve, hreports⟩ := exists_serveAll_reports d ⟨event.name, category, data⟩ ps s₁
    refine ⟨⟨event.name, category, entries⟩, s₂, hdispatch entries s₂ hserve, hreports, Report.views _, ?_⟩
    intro hnames p hp
    have hentries : (entries.map ProfileReport.name).Nodup := map_name_of_reports hreports ▸ hnames
    exact Report.shows_of_nodup hentries hp
  · obtain ⟨s₁, _, hnext⟩ := exists_afterListing_eq hdata hlisted
    obtain ⟨f, served, s₂, hplay, hserved⟩ :=
      FanOut.exists_playAll_accounts (FanOut.accounts_waiting d ⟨event.name, category, data⟩ ps) moves s₁
    refine ⟨f, served, s₂, ?_, hserved, Report.views _, ?_⟩
    · rw [fanOut_eq_afterListing, hnext, Act.bind_of_ok _ hplay]
      rfl
    · exact fun hnames p hp => Report.shows_of_nodup (nodup_names_of_accounts hserved hnames) hp

/-- The profiles of the standard snapshot have different names, so their report shows what became of each. -/
theorem standard_report_shows_all :
    ∃ report s', standardRehearsal.dispatch lockedAccount .userLocked standardScene = .ok (.ok report) s'
      ∧ report.profiles.length = 3 ∧ ∀ p ∈ report.profiles, report.Shows p := by
  obtain ⟨data, hdata⟩ : ∃ data, EventData.ofEvent lockedAccount = .ok data := ⟨_, rfl⟩
  have hlisted : standardRehearsal.provider.list standardScene.services
      = .ok (.ok Vocabulary.standardProfiles) standardScene.services := rfl
  obtain ⟨⟨report, s', hdispatch, hreports, _, hshown⟩, _⟩ := report_views .userLocked hdata hlisted
  exact ⟨report, s', hdispatch, hreports.length_eq.symm, hshown (by decide)⟩

/-- A snapshot with two versions of a profile, the second without channels. -/
def versionedScene : Scene (Issuing Stage) where
  state := ⟨Rehearsal.scene.state.stamper,
    { profiles := [(Vocabulary.standard .risc).profile, ⟨Schema.risc.name, "2.0", []⟩] }⟩

/-- What becomes of the two versions. -/
def versionedReport : Report where
  eventName := EventName.postLockAccount
  category := .userLocked
  profiles :=
    [⟨"RISC", "1.0", .published "https://schemas.openid.net/secevent/risc/event-type/account-disabled"⟩,
      ⟨"RISC", "2.0", .skipped (.noChannel "https://schemas.openid.net/secevent/risc")⟩]

theorem answer_versionedScene :
    (standardRehearsal.dispatch lockedAccount .userLocked).answer versionedScene = .ok (.ok versionedReport) := by
  decide +kernel

/-- The second version is skipped, but no reason is found for its name, and no view shows it. -/
theorem skipped_version_is_hidden :
    (standardRehearsal.dispatch lockedAccount .userLocked).answer versionedScene = .ok (.ok versionedReport)
      ∧ (¬ ∀ name, (versionedReport.skipReason? name).isSome
        ↔ ∃ p ∈ versionedReport.profiles, p.name = name ∧ p.outcome.IsSkipped)
      ∧ ∃ p ∈ versionedReport.profiles, p.outcome.IsSkipped ∧ ¬ versionedReport.Shows p := by
  have hmem : ⟨"RISC", "2.0", .skipped (.noChannel "https://schemas.openid.net/secevent/risc")⟩
      ∈ versionedReport.profiles := List.mem_cons_of_mem _ List.mem_cons_self
  have hnone : ¬ (versionedReport.skipReason? "RISC").isSome := by decide
  exact ⟨answer_versionedScene, fun htells => hnone ((htells "RISC").2 ⟨_, hmem, rfl, _, rfl⟩),
    _, hmem, ⟨_, rfl⟩, hnone⟩

end Dispatcher

end SecurityEvents
