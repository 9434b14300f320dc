import SecurityEvents.Dispatch.Pipeline
import SecurityEvents.Proofs.Dispatch.Services
set_option autoImplicit false

/-!
# Prospects

Where the services are steady, it is settled from the beginning what will become of a profile, and what will
be recorded for it up to stamps. `Act.Yields` says so of an act: from every settled state it gives the same
answer and records the same. The rest of a pipeline (`Dispatcher.remainder`) is such an act, however far the
pipeline has come: `Dispatcher.exists_yields_remainder` says so. What it will give is its prospect.
-/

namespace SecurityEvents

/-! ## Acts with a foreseeable yield -/

section Yield

variable {σ α β : Type} {settled : σ → Prop} {record : σ → List Published}

/-- From every settled state the act gives this answer and records these items, up to their stamps. -/
structure Act.Yields (settled : σ → Prop) (record : σ → List Published) (act : Act (Issuing σ) α)
    (answer : Except Panic α) (items : List Published) : Prop where
  answer_eq : ∀ s, settled s.state.services → act.answer s = answer
  settled_after : ∀ s, settled s.state.services → settled (act.after s).state.services
  record_after : ∀ s, settled s.state.services → ∃ new,
    record (act.after s).state.services = record s.state.services ++ new
      ∧ new.map Published.unstamped = items

namespace Act

theorem yields_pure (a : α) : Yields settled record (pure a) (.ok a) [] :=
  ⟨fun _ _ => rfl, fun _ h => h, fun _ _ => ⟨[], (List.append_nil _).symm, rfl⟩⟩

theorem yields_panic (p : Panic) : Yields settled record (panic p : Act (Issuing σ) α) (.error p) [] :=
  ⟨fun _ _ => rfl, fun _ h => h, fun _ _ => ⟨[], (List.append_nil _).symm, rfl⟩⟩

theorem yields_note (n : Notice) : Yields settled record (note n) (.ok ()) [] :=
  ⟨fun _ _ => rfl, fun _ h => h, fun _ _ => ⟨[], (List.append_nil _).symm, rfl⟩⟩

theorem Yields.bind {act : Act (Issuing σ) α} {next : α → Act (Issuing σ) β} {a : α}
    {answer : Except Panic β} {items others : List Published}
    (h : Yields settled record act (.ok a) items) (hnext : Yields settled record (next a) answer others) :
    Yields settled record (act >>= next) answer (items ++ others) := by
  refine ⟨?_, ?_, ?_⟩
  · intro s hs
    rw [answer_bind_of_ok next (h.answer_eq s hs)]
    exact hnext.answer_eq _ (h.settled_after s hs)
  · intro s hs
    rw [after_bind_of_ok next (h.answer_eq s hs)]
    exact hnext.settled_after _ (h.settled_after s hs)
  · intro s hs
    obtain ⟨new, hnew, hitems⟩ := h.record_after s hs
    obtain ⟨more, hmore, hothers⟩ := hnext.record_after _ (h.settled_after s hs)
    refine ⟨new ++ more, ?_, ?_⟩
    · rw [after_bind_of_ok next (h.answer_eq s hs), hmore, hnew, List.append_assoc]
    · rw [List.map_append, hitems, hothers]

theorem Yields.bind_error {act : Act (Issuing σ) α} (next : α → Act (Issuing σ) β) {p : Panic}
    {items : List Published} (h : Yields settled record act (.error p) items) :
    Yields settled record (act >>= next) (.error p) items := by
  refine ⟨?_, ?_, ?_⟩
  · intro s hs
    exact answer_bind_of_error next (h.answer_eq s hs)
  · intro s hs
    rw [after_bind_of_error next (h.answer_eq s hs)]
    exact h.settled_after s hs
  · intro s hs
    rw [after_bind_of_error next (h.answer_eq s hs)]
    exact h.record_after s hs

theorem Yields.caught {act : Act (Issuing σ) α} {answer : Except Panic α} {items : List Published}
    (h : Yields settled record act answer items) : Yields settled record act.caught (.ok answer) items := by
  refine ⟨?_, ?_, ?_⟩
  · intro s hs
    rw [answer_caught, h.answer_eq s hs]
  · intro s hs
    rw [after_caught]
    exact h.settled_after s hs
  · intro s hs
    rw [after_caught]
    exact h.record_after s hs

/-- An act yields one thing only, if there is a settled state at all. -/
theorem Yields.unique {act : Act (Issuing σ) α} {answer other : Except Panic α}
    {items others : List Published} (h : Yields settled record act answer items)
    (hother : Yields settled record act other others) {s : Scene (Issuing σ)}
    (hs : settled s.state.services) : answer = other ∧ items = others := by
  obtain ⟨new, hnew, hitems⟩ := h.record_after s hs
  obtain ⟨more, hmore, hothers⟩ := hother.record_after s hs
  have hsame : new = more := List.append_cancel_left (hnew.symm.trans hmore)
  subst hsame
  exact ⟨(h.answer_eq s hs).symm.trans (hother.answer_eq s hs), hitems.symm.trans hothers⟩

/-- What a service answers that is steady and leaves the record alone. -/
theorem yields_ofServices {act : Act σ α} (h : act.SteadyOn settled) (hrecord : act.Keeps record)
    (ref : Scene σ) (href : settled ref.state) :
    Yields settled record act.ofServices (act.answer ref) [] := by
  refine ⟨fun s hs => ?_, fun s hs => ?_, fun s _ => ⟨[], ?_, rfl⟩⟩
  · rw [answer_ofServices]
    exact h.answer_eq _ _ hs href
  · rw [after_ofServices]
    exact h.settled_after _ hs
  · rw [after_ofServices, List.append_nil]
    exact hrecord s.services

/-- What comes of a stamp does not depend on the stamp. -/
theorem yields_stamp {next : Stamp → Act (Issuing σ) α} {answer : Except Panic α}
    {items : List Published} (h : ∀ stamp, Yields settled record (next stamp) answer items) :
    Yields settled record (Act.stamp >>= next) answer items := by
  refine ⟨?_, ?_, ?_⟩
  · intro s hs
    rw [answer_bind_of_ok next (answer_stamp s)]
    exact (h _).answer_eq _ hs
  · intro s hs
    rw [after_bind_of_ok next (answer_stamp s)]
    exact (h _).settled_after _ hs
  · intro s hs
    rw [after_bind_of_ok next (answer_stamp s)]
    exact (h _).record_after _ hs

end Act

end Yield

/-! ## The rest of a pipeline -/

/-- The gates that are still to be asked are among those of the dispatcher. -/
def Progress.Within {σ : Type} (gates : List (Gate σ)) : Progress σ → Prop
  | .routed _ rest => ∀ gate ∈ rest, gate ∈ gates
  | _ => True

namespace Dispatcher

variable {σ : Type} {settled : σ → Prop} {record : σ → List Published}

/-- What is still to be done for a profile. -/
def remainder (d : Dispatcher σ) (o : Occurrence) (p : Profile) :
    Progress σ → Act (Issuing σ) (Except Stop String)
  | .entered => d.attempt o p
  | .routed route gates => d.throughGates o p route gates
  | .tokenReady route token => d.publish o p route token
  | .ended result => Act.ofExcept result

/-- What an act yields is foreseeable, and it is one item if the event is published and none otherwise. -/
def Foreseeable (settled : σ → Prop) (record : σ → List Published) (p : Profile)
    (act : Act (Issuing σ) (Except Stop String)) : Prop :=
  ∃ answer items, act.Yields settled record answer items
    ∧ items.length = (outcome p answer).isPublished.toNat

theorem foreseeable_stop (p : Profile) (stop : Stop) :
    Foreseeable settled record p (pure (.error stop)) := by
  refine ⟨_, _, Act.yields_pure _, ?_⟩
  cases stop <;> rfl

/-- After an act that records nothing it matters only what its answer leads to. -/
theorem Foreseeable.after_answer {α : Type} {p : Profile} {act : Act (Issuing σ) α}
    {next : α → Act (Issuing σ) (Except Stop String)} {answer : Except Panic α}
    (h : act.Yields settled record answer []) (hnext : ∀ a, Foreseeable settled record p (next a)) :
    Foreseeable settled record p (act >>= next) := by
  cases answer with
  | error panic => exact ⟨_, _, h.bind_error next, rfl⟩
  | ok a =>
    obtain ⟨answer, items, hyields, hlength⟩ := hnext a
    exact ⟨answer, items, h.bind hyields, hlength⟩

section Steady

variable {d : Dispatcher σ} {ref : Scene σ}

theorem exists_yields_consult {gates : List (Gate σ)}
    (hsteady : ∀ gate ∈ gates, ∀ input, (gate.check input).SteadyOn settled)
    (hrecord : ∀ gate ∈ gates, ∀ input, (gate.check input).Keeps record) (href : settled ref.state)
    (o : Occurrence) (p : Profile) (route : Route) :
    ∃ answer, (consult gates o p route).Yields settled record answer [] := by
  have hgates := Act.yields_ofServices
    (Gate.steadyOn_evaluate fun gate hg => hsteady gate hg (gateInput o p route))
    (Gate.keeps_evaluate fun gate hg => hrecord gate hg (gateInput o p route)) ref href
  cases hanswer : (Gate.evaluate gates (gateInput o p route)).answer ref with
  | error panic =>
    rw [hanswer] at hgates
    exact ⟨_, hgates.bind_error _⟩
  | ok decision =>
    rw [hanswer] at hgates
    cases decision with
    | error denial => exact ⟨_, hgates.bind (Act.yields_pure _)⟩
    | ok allowed => exact ⟨_, hgates.bind (Act.yields_pure _)⟩

theorem exists_yields_encode (hd : d.Steady settled) (hb : d.Books record isTaken)
    (href : settled ref.state) (o : Occurrence) (schema : Schema) :
    ∃ answer, (d.encode o schema).Yields settled record answer [] := by
  unfold encode
  cases hfind : d.encoders.find? schema o.category with
  | none => exact ⟨_, Act.yields_pure _⟩
  | some encoder =>
    have hencode := Act.yields_ofServices
      (hd.encoder schema o.category encoder hfind o.data)
      (hb.encoder schema o.category encoder hfind o.data) ref href
    cases hanswer : (encoder.encode o.category o.data).answer ref with
    | error panic =>
      rw [hanswer] at hencode
      exact ⟨_, hencode.bind_error _⟩
    | ok result =>
      rw [hanswer] at hencode
      cases result with
      | error cause => exact ⟨_, hencode.bind (Act.yields_pure _)⟩
      | ok payload => exact ⟨_, hencode.bind (Act.yields_pure _)⟩

/-- What the publisher answers and records does not depend on the stamp of the token. -/
theorem yields_publisher (hd : d.Steady settled) (hb : d.Books record isTaken)
    (href : settled ref.state) {token other : Token} (h : other.unstamped = token.unstamped)
    (context : PublishContext) :
    (d.publisher.publish other context).ofServices.Yields settled record
      ((d.publisher.publish token context).answer ref)
      (if isTaken ((d.publisher.publish token context).answer ref) then
        [Published.unstamped ⟨token, context⟩] else []) := by
  have hanswer : ∀ s : Scene σ, settled s.state → (d.publisher.publish other context).answer s =
      (d.publisher.publish token context).answer ref :=
    fun s hs => hd.publisher other token context h s ref hs href
  refine ⟨?_, ?_, ?_⟩
  · intro s hs
    rw [Act.answer_ofServices]
    exact hanswer s.services hs
  · intro s hs
    rw [Act.after_ofServices]
    exact hd.publisher_settled other context s.services hs
  · intro s hs
    have hafter := hb.publisher other context s.services
    rw [hanswer s.services hs] at hafter
    rw [Act.after_ofServices]
    refine ⟨_, hafter, ?_⟩
    split
    · simp only [List.map_cons, List.map_nil, Published.unstamped, h]
    · rfl

theorem exists_yields_publish (hd : d.Steady settled) (hb : d.Books record isTaken)
    (href : settled ref.state) (o : Occurrence) (p : Profile) (route : Route) (token : Token) :
    ∃ answer items, (∀ other : Token, other.unstamped = token.unstamped →
        (d.publish o p route other).Yields settled record answer items)
      ∧ items.length = (outcome p answer).isPublished.toNat := by
  have hpublish := fun (other : Token) (h : other.unstamped = token.unstamped) =>
    yields_publisher hd hb href h (context o p route)
  cases hanswer : (d.publisher.publish token (context o p route)).answer ref with
  | error panic =>
    simp only [hanswer] at hpublish
    exact ⟨_, _, fun other h => (hpublish other h).bind_error _, rfl⟩
  | ok result =>
    simp only [hanswer] at hpublish
    cases result with
    | error cause =>
      exact ⟨_, _, fun other h => (hpublish other h).bind (Act.yields_pure _), rfl⟩
    | ok taken => exact ⟨_, _, fun other h => (hpublish other h).bind (Act.yields_pure _), rfl⟩

theorem foreseeable_publish (hd : d.Steady settled) (hb : d.Books record isTaken)
    (href : settled ref.state) (o : Occurrence) (p : Profile) (route : Route) (token : Token) :
    Foreseeable settled record p (d.publish o p route token) := by
  obtain ⟨answer, items, hyields, hlength⟩ := exists_yields_publish hd hb href o p route token
  exact ⟨answer, items, hyields token rfl, hlength⟩

theorem foreseeable_throughGates (hd : d.Steady settled) (hb : d.Books record isTaken)
    (href : settled ref.state) (o : Occurrence) (p : Profile) (route : Route) {gates : List (Gate σ)}
    (hgates : ∀ gate ∈ gates, gate ∈ d.gates) :
    Foreseeable settled record p (d.throughGates o p route gates) := by
  obtain ⟨admission, hadmission⟩ := exists_yields_consult
    (fun gate hg => hd.gate gate (hgates gate hg)) (fun gate hg => hb.gate gate (hgates gate hg)) href
    o p route
  apply Foreseeable.after_answer hadmission
  intro admitted
  cases admitted with
  | error stop => exact foreseeable_stop p stop
  | ok allowed =>
    obtain ⟨encoding, hencoding⟩ := exists_yields_encode hd hb href o route.schema
    simp only [issue, bind_assoc]
    apply Foreseeable.after_answer hencoding
    intro encoded
    cases encoded with
    | error stop => exact foreseeable_stop p stop
    | ok payload =>
      -- The tokens for two stamps are the same up to the stamp, so one of them speaks for all.
      obtain ⟨answer, items, hyields, hlength⟩ := exists_yields_publish hd hb href o p route
        ((d.envelope o (context o p route).tenantDomain).token ⟨0, ""⟩ payload route.eventUri)
      refine ⟨answer, items, ?_, hlength⟩
      simp only [bind_assoc, pure_bind]
      exact Act.yields_stamp fun stamp => hyields _ rfl

/-- It is foreseeable what will become of a profile. -/
theorem foreseeable_attempt (hd : d.Steady settled) (hb : d.Books record isTaken)
    (href : settled ref.state) (o : Occurrence) (p : Profile) :
    Foreseeable settled record p (d.attempt o p) := by
  unfold attempt
  cases hroute : d.catalog.route o.eventName o.category p with
  | error panic => exact ⟨_, _, (Act.yields_panic panic).bind_error _, rfl⟩
  | ok result =>
    apply Foreseeable.after_answer (Act.yields_pure result)
    intro result
    cases result with
    | error reason => exact foreseeable_stop p (.skip reason)
    | ok route => exact foreseeable_throughGates hd hb href o p route fun _ hg => hg

/-- However far the serving of a profile has come, it is foreseeable what the rest of it yields. -/
theorem exists_yields_remainder (hd : d.Steady settled) (hb : d.Books record isTaken)
    (href : settled ref.state) (o : Occurrence) (p : Profile) {progress : Progress σ}
    (hwithin : progress.Within d.gates) :
    ∃ answer items, (d.remainder o p progress).Yields settled record answer items := by
  cases progress with
  | entered =>
    obtain ⟨answer, items, hyields, _⟩ := foreseeable_attempt hd hb href o p
    exact ⟨answer, items, hyields⟩
  | routed route gates =>
    obtain ⟨answer, items, hyields, _⟩ := foreseeable_throughGates hd hb href o p route hwithin
    exact ⟨answer, items, hyields⟩
  | tokenReady route token =>
    obtain ⟨answer, items, hyields, _⟩ := foreseeable_publish hd hb href o p route token
    exact ⟨answer, items, hyields⟩
  | ended result =>
    cases result with
    | error panic => exact ⟨_, _, Act.yields_panic panic⟩
    | ok answer => exact ⟨_, _, Act.yields_pure answer⟩

end Steady

end Dispatcher

end SecurityEvents
