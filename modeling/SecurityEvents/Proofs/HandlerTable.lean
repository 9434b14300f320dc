import SecurityEvents.Proofs.Dispatch.Routing
import SecurityEvents.Proofs.Handling
import SecurityEvents.Proofs.Rehearsal
set_option autoImplicit false

/-!
# Handlers that are registered

A table of handlers begins empty or with the standard handlers, and others are registered one after the other. A
handler whose name is taken is refused, so names stay apart (`nodup_names_offerAll`) and each name belongs to the first
handler that came with it (`get?_offerAll_eq_some_iff`). This carries on to events: the handlers are asked in their
order (`Asked`), then those that take the event handle it in the same order (`HandledBy`), so that no name can occur
twice in the answer. Here a handler is anyone, not only one that dispatches, and it may panic.
-/

namespace SecurityEvents

namespace HandlerTable

/-! ## Registration -/

/-- The tables that there are to begin with. -/
inductive Initial : {σ : Type} → HandlerTable σ → Prop where
  | empty {σ : Type} : Initial ({} : HandlerTable σ)
  | standard {σ : Type} (d : Dispatcher σ) : Initial (⟨Handler.standard d⟩ : HandlerTable (Issuing σ))

/-- Those of the handlers that were not refused. -/
def accepted {σ : Type} (hs : List (Handler σ)) (answers : List (Except Error Unit)) : List (Handler σ) :=
  ((hs.zip answers).filter fun x => x.2.isOk).map (·.1)

variable {σ : Type} {t : HandlerTable σ} {h found : Handler σ} {hs : List (Handler σ)} {name : String}

/-- The standard handlers have different names. -/
theorem Initial.nodup_names (h : t.Initial) : t.names.Nodup := by
  cases h with
  | empty => exact List.nodup_nil
  | standard d =>
    have hnames : (Classifier.all.map Classifier.name).Nodup := by decide
    rw [names, Handler.standard, List.map_map]
    exact hnames

theorem isSome_get?_iff : (t.get? name).isSome = true ↔ name ∈ t.names := by
  simp [get?, names]

/-- A handler is refused exactly if its name is taken, and otherwise stands behind the others. -/
theorem offer_eq (t : HandlerTable σ) (h : Handler σ) :
    t.offer h = if h.name ∈ t.names then (.error (.duplicateHandler h.name), t) else (.ok (), ⟨t.handlers ++ [h]⟩) := by
  split
  · rename_i htaken
    rw [offer, register, if_pos (isSome_get?_iff.2 htaken)]
  · rename_i hfree
    rw [offer, register_eq_ok_iff.2 ⟨hfree, rfl⟩]

theorem nodup_names_offer (hnames : t.names.Nodup) (h : Handler σ) : (t.offer h).2.names.Nodup := by
  rw [offer_eq]
  split
  · exact hnames
  · rename_i hfree
    have hapart : ∀ a ∈ t.names, ∀ b ∈ [h.name], a ≠ b := by
      rintro a ha b hb rfl
      obtain rfl := List.mem_singleton.1 hb
      exact hfree ha
    rw [names, List.map_append]
    exact List.nodup_append.2 ⟨hnames, List.pairwise_singleton _ _, hapart⟩

/-- Names stay apart. -/
theorem nodup_names_offerAll (hnames : t.names.Nodup) (hs : List (Handler σ)) :
    (t.offerAll hs).2.names.Nodup := by
  induction hs generalizing t with
  | nil => exact hnames
  | cons h rest ih => exact ih (nodup_names_offer hnames h)

/-- The handlers that were not refused stand behind those that were there, in the order in which they came. -/
theorem handlers_offerAll (t : HandlerTable σ) (hs : List (Handler σ)) :
    (t.offerAll hs).2.handlers = t.handlers ++ accepted hs (t.offerAll hs).1 := by
  induction hs generalizing t with
  | nil => exact (List.append_nil _).symm
  | cons h rest ih =>
    rw [offerAll_cons, ih, offer_eq]
    split
    · rfl
    · exact List.append_assoc ..

theorem offerAll_concat (t : HandlerTable σ) (hs : List (Handler σ)) (next : Handler σ) :
    t.offerAll (hs ++ [next])
      = ((t.offerAll hs).1 ++ [((t.offerAll hs).2.offer next).1], ((t.offerAll hs).2.offer next).2) := by
  induction hs generalizing t with
  | nil => rfl
  | cons h rest ih =>
    rw [List.cons_append, offerAll_cons, ih, offerAll_cons]
    rfl

theorem length_offerAll (t : HandlerTable σ) (hs : List (Handler σ)) :
    (t.offerAll hs).1.length = hs.length := by
  induction hs generalizing t with
  | nil => rfl
  | cons h rest ih => exact congrArg (· + 1) (ih _)

/-! ## Look-ups -/

/-- Where names are apart, the handler of a name is the only one with it. -/
theorem get?_eq_some_iff (hnames : t.names.Nodup) :
    t.get? name = some found ↔ found ∈ t.handlers ∧ found.name = name := by
  rw [get?, find?_eq_some_iff_isFirst]
  constructor
  · exact fun hfirst => ⟨hfirst.mem, hfirst.1⟩
  · rintro ⟨hmem, rfl⟩
    exact isFirst_of_nodup Handler.name hnames hmem

theorem get?_eq_none_iff : t.get? name = none ↔ name ∉ t.names := by
  rw [get?, find?_eq_none_iff_forall_ne, names, List.mem_map]
  constructor
  · rintro h ⟨x, hx, hname⟩
    exact h x hx hname
  · exact fun h x hx hname => h ⟨x, hx, hname⟩

theorem get?_offer (t : HandlerTable σ) (h : Handler σ) (name : String) :
    (t.offer h).2.get? name = (t.handlers ++ [h]).find? (·.name == name) := by
  rw [offer_eq]
  split
  · rename_i htaken
    rw [List.find?_append]
    by_cases hname : h.name = name
    · obtain ⟨found, hfound⟩ := Option.isSome_iff_exists.1 (isSome_get?_iff.2 (hname ▸ htaken))
      rw [get?] at hfound
      rw [get?, hfound, Option.some_or]
    · rw [List.find?_singleton, if_neg (by simpa using hname), Option.or_none, get?]
  · rfl

/-- A name belongs to the first handler that came with it. -/
theorem get?_offerAll_eq_some_iff (name : String) (found : Handler σ) (t : HandlerTable σ) (hs : List (Handler σ)) :
    (t.offerAll hs).2.get? name = some found ↔ IsFirst (·.name = name) (t.handlers ++ hs) found := by
  have hfind : (t.offerAll hs).2.get? name = (t.handlers ++ hs).find? (·.name == name) := by
    induction hs generalizing t with
    | nil => rw [List.append_nil]; rfl
    | cons h rest ih =>
      have hstep := get?_offer t h name
      rw [get?] at hstep
      calc (t.offerAll (h :: rest)).2.get? name
          = ((t.offer h).2.handlers ++ rest).find? (·.name == name) := ih _
        _ = ((t.handlers ++ [h]) ++ rest).find? (·.name == name) := by
          rw [List.find?_append, hstep, ← List.find?_append]
        _ = (t.handlers ++ h :: rest).find? (·.name == name) := by
          rw [List.append_assoc, List.singleton_append]
  rw [hfind, find?_eq_some_iff_isFirst]

/-! ## Events -/

section Events

variable {event : Event} {ts : List (Handler σ)} {results : List (String × Option Report)} {s s' : Scene σ}

/-- Handlers are asked one after the other whether they take an event, each in the scene that those before it have
left, and those that take it are listed. -/
inductive Asked {σ : Type} (event : Event) : List (Handler σ) → Scene σ → List (Handler σ) → Scene σ → Prop where
  | nil (s : Scene σ) : Asked event [] s [] s
  | takes {h : Handler σ} {rest ts : List (Handler σ)} {s s₁ s' : Scene σ}
    (htakes : h.takes event s = .ok true s₁) (hrest : Asked event rest s₁ ts s') :
    Asked event (h :: rest) s (h :: ts) s'
  | declines {h : Handler σ} {rest ts : List (Handler σ)} {s s₁ s' : Scene σ}
    (hdeclines : h.takes event s = .ok false s₁) (hrest : Asked event rest s₁ ts s') :
    Asked event (h :: rest) s ts s'

theorem Asked.sublist (h : Asked event hs s ts s') : ts.Sublist hs := by
  induction h with
  | nil s => exact .slnil
  | takes _ _ ih => exact ih.cons_cons _
  | declines _ _ ih => exact ih.cons _

theorem takers_eq_ok_iff : takers event hs s = .ok ts s' ↔ Asked event hs s ts s' := by
  constructor
  · intro htakers
    induction hs generalizing s ts with
    | nil =>
      cases htakers
      exact .nil _
    | cons h rest ih =>
      rw [takers, Act.bind_eq_ok_iff] at htakers
      obtain ⟨taken, s₁, htaken, hothers⟩ := htakers
      rw [Act.bind_eq_ok_iff] at hothers
      obtain ⟨others, s₂, hrest, hanswer⟩ := hothers
      cases taken <;> cases hanswer
      · exact .declines htaken (ih hrest)
      · exact .takes htaken (ih hrest)
  · intro hasked
    induction hasked with
    | nil s => rfl
    | takes htakes _ ih | declines htakes _ ih =>
      rw [takers, Act.bind_of_ok _ htakes, Act.bind_of_ok _ ih]
      rfl

/-- Handlers handle an event one after the other, each once, in the scene that those before it have left. -/
inductive HandledBy {σ : Type} (event : Event) :
    List (Handler σ) → Scene σ → List (String × Option Report) → Scene σ → Prop where
  | nil (s : Scene σ) : HandledBy event [] s [] s
  | cons {h : Handler σ} {rest : List (Handler σ)} {report : Option Report}
    {results : List (String × Option Report)} {s s₁ s' : Scene σ}
    (hhandle : h.handle event s = .ok report s₁) (hrest : HandledBy event rest s₁ results s') :
    HandledBy event (h :: rest) s ((h.name, report) :: results) s'

theorem HandledBy.map_fst_eq (h : HandledBy event hs s results s') : results.map (·.1) = hs.map (·.name) := by
  induction h with
  | nil s => rfl
  | cons _ _ ih => rw [List.map_cons, List.map_cons, ih]

theorem handleAll_eq_ok_iff : handleAll event hs s = .ok results s' ↔ HandledBy event hs s results s' := by
  constructor
  · intro hresults
    induction hs generalizing s results with
    | nil =>
      cases hresults
      exact .nil _
    | cons h rest ih =>
      rw [handleAll, Act.bind_eq_ok_iff] at hresults
      obtain ⟨report, s₁, hhandle, hothers⟩ := hresults
      rw [Act.bind_eq_ok_iff] at hothers
      obtain ⟨others, s₂, hrest, hanswer⟩ := hothers
      cases hanswer
      exact .cons hhandle (ih hrest)
  · intro hhandled
    induction hhandled with
    | nil s => rfl
    | cons hhandle _ ih =>
      rw [handleAll, Act.bind_of_ok _ hhandle, Act.bind_of_ok _ ih]
      rfl

/-- To fire an event is to ask all handlers, and then to have those handle it that take it. -/
theorem fire_eq_ok_iff :
    t.fire event s = .ok results s' ↔ ∃ ts s₁, Asked event t.handlers s ts s₁ ∧ HandledBy event ts s₁ results s' := by
  rw [fire, Act.bind_eq_ok_iff]
  exact exists_congr fun ts => exists_congr fun s₁ => and_congr takers_eq_ok_iff handleAll_eq_ok_iff

/-- No name occurs twice in the answer if none does in the table. -/
theorem names_of_fire (h : t.fire event s = .ok results s') : (results.map (·.1)).Sublist t.names := by
  obtain ⟨ts, s₁, hasked, hhandled⟩ := fire_eq_ok_iff.1 h
  rw [hhandled.map_fst_eq]
  exact hasked.sublist.map Handler.name

/-- Handlers that say the same whenever they are asked are told apart by what they say. -/
theorem exists_asked {takes : Handler σ → Bool}
    (htakes : ∀ h ∈ hs, ∀ s, (h.takes event).answer s = .ok (takes h)) (s : Scene σ) :
    ∃ s', Asked event hs s (hs.filter takes) s' := by
  induction hs generalizing s with
  | nil => exact ⟨s, .nil s⟩
  | cons h rest ih =>
    obtain ⟨hfirst, hrest⟩ := List.forall_mem_cons.1 htakes
    have htaken := Act.eq_ok_iff.2 ⟨hfirst s, rfl⟩
    obtain ⟨s', hasked⟩ := ih hrest ((h.takes event).after s)
    refine ⟨s', ?_⟩
    rw [List.filter_cons]
    cases hh : takes h with
    | true => exact .takes (hh ▸ htaken) hasked
    | false => exact .declines (hh ▸ htaken) hasked

/-- Handlers that do not panic all handle the event. -/
theorem exists_handledBy (hhandle : ∀ h ∈ hs, ∀ s, ∃ report, (h.handle event).answer s = .ok report) (s : Scene σ) :
    ∃ results s', HandledBy event hs s results s' := by
  induction hs generalizing s with
  | nil => exact ⟨[], s, .nil s⟩
  | cons h rest ih =>
    obtain ⟨hfirst, hrest⟩ := List.forall_mem_cons.1 hhandle
    obtain ⟨report, hreport⟩ := hfirst s
    obtain ⟨results, s', hhandled⟩ := ih hrest ((h.handle event).after s)
    exact ⟨_, s', .cons (Act.eq_ok_iff.2 ⟨hreport, rfl⟩) hhandled⟩

end Events

/-- Whatever handlers are to be registered with a table that begins empty or with the standard handlers, and whoever
they are. Their names stay apart, and those that were not refused stand in the order in which they came, behind the
ones that were there. The next one is refused exactly if its name is taken, and then the table is as before. A name
leads to the one handler that has it. An event is handled once by each of those that take it, in their order, and no
name occurs twice in the answer; if no handler panics, there is an answer. -/
theorem offered_handlers_apart {start : HandlerTable σ} (hstart : start.Initial) (hs : List (Handler σ))
    {answers : List (Except Error Unit)} {t : HandlerTable σ} (h : start.offerAll hs = (answers, t)) :
    t.names.Nodup
    ∧ (answers.length = hs.length ∧ t.handlers = start.handlers ++ accepted hs answers)
    ∧ (∀ next : Handler σ, start.offerAll (hs ++ [next])
        = if next.name ∈ t.names then (answers ++ [.error (.duplicateHandler next.name)], t)
          else (answers ++ [.ok ()], ⟨t.handlers ++ [next]⟩))
    ∧ (∀ name found, (t.get? name = some found ↔ found ∈ t.handlers ∧ found.name = name)
        ∧ (t.get? name = some found ↔ IsFirst (·.name = name) (start.handlers ++ hs) found))
    ∧ (∀ name, t.get? name = none ↔ name ∉ t.names)
    ∧ ∀ event,
        (∀ s ts s', t.handlersFor event s = .ok ts s' ↔ Asked event t.handlers s ts s')
        ∧ (∀ s results s', t.fire event s = .ok results s'
            ↔ ∃ ts s₁, Asked event t.handlers s ts s₁ ∧ HandledBy event ts s₁ results s')
        ∧ (∀ s results s', t.fire event s = .ok results s' → (results.map (·.1)).Nodup)
        ∧ ∀ takes : Handler σ → Bool, (∀ h ∈ t.handlers, ∀ s, (h.takes event).answer s = .ok (takes h)) →
          (∀ s, (t.handlersFor event).answer s = .ok (t.handlers.filter takes))
          ∧ ((∀ h ∈ t.handlers, takes h = true → ∀ s, ∃ report, (h.handle event).answer s = .ok report) →
              ∀ s, ∃ results, (t.fire event).answer s = .ok results
                ∧ results.map (·.1) = (t.handlers.filter takes).map (·.name)) := by
  have hnames : t.names.Nodup := by
    have hkept := nodup_names_offerAll hstart.nodup_names hs
    rwa [h] at hkept
  refine ⟨hnames, ⟨?_, ?_⟩, fun next => ?_, fun name found => ⟨get?_eq_some_iff hnames, ?_⟩,
    fun name => get?_eq_none_iff, fun event => ⟨fun s ts s' => takers_eq_ok_iff, fun s results s' => fire_eq_ok_iff,
      fun s results s' hfire => hnames.sublist (names_of_fire hfire), fun takes htakes => ?_⟩⟩
  · have hlength := length_offerAll start hs
    rwa [h] at hlength
  · have hhandlers := handlers_offerAll start hs
    rwa [h] at hhandlers
  · rw [offerAll_concat, h, offer_eq]
    split <;> rfl
  · have hfirst := get?_offerAll_eq_some_iff name found start hs
    rwa [h] at hfirst
  · have hasked := exists_asked htakes
    refine ⟨fun s => ?_, fun hhandle s => ?_⟩
    · obtain ⟨s', hasked⟩ := hasked s
      exact (Act.eq_ok_iff.1 (takers_eq_ok_iff.2 hasked)).1
    · obtain ⟨s₁, hasked⟩ := hasked s
      have hhandle : ∀ h ∈ t.handlers.filter takes, ∀ s, ∃ report, (h.handle event).answer s = .ok report :=
        fun h hh => hhandle h (List.mem_filter.1 hh).1 (List.mem_filter.1 hh).2
      obtain ⟨results, s', hhandled⟩ := exists_handledBy hhandle s₁
      exact ⟨results, (Act.eq_ok_iff.1 (fire_eq_ok_iff.2 ⟨_, s₁, hasked, hhandled⟩)).1, hhandled.map_fst_eq⟩

/-- A handler that takes every event and reports nothing. -/
def watching (name : String) : Handler σ :=
  ⟨name, fun _ => pure true, fun _ => pure none⟩

/-- Those that take the end of a session, by name. -/
def takesEnd (h : Handler σ) : Bool :=
  h.name == "TokensEventHook" || h.name == "AuditHook"

/-- Among the standard handlers a new name is free once, and their own are not. The end of a session is handled by
the one that revokes tokens and by the new one. -/
theorem watching_handlers_apart :
    ∃ t : HandlerTable (Issuing Stage),
      (HandlerTable.mk (Handler.standard (Rehearsal.dispatcher 1))).offerAll
          [watching "AuditHook", watching "LoginEventHook", watching "AuditHook"]
        = ([.ok (), .error (.duplicateHandler "LoginEventHook"), .error (.duplicateHandler "AuditHook")], t)
      ∧ t.names.Nodup ∧ t.get? "AuditHook" = some (watching "AuditHook")
      ∧ ∃ results, (t.fire Rehearsal.event).answer Rehearsal.scene = .ok results
        ∧ results.map (·.1) = ["TokensEventHook", "AuditHook"] := by
  have h : (HandlerTable.mk (Handler.standard (Rehearsal.dispatcher 1))).offerAll
      [watching "AuditHook", watching "LoginEventHook", watching "AuditHook"]
    = ([.ok (), .error (.duplicateHandler "LoginEventHook"), .error (.duplicateHandler "AuditHook")],
      ⟨Handler.standard (Rehearsal.dispatcher 1) ++ [watching "AuditHook"]⟩) := rfl
  obtain ⟨hnames, _, _, hget, _, hevent⟩ := offered_handlers_apart (.standard _) _ h
  have hcases : ∀ x ∈ Handler.standard (Rehearsal.dispatcher 1) ++ [watching "AuditHook"],
      (∃ c ∈ Classifier.all, Handler.dispatching c (Rehearsal.dispatcher 1) = x) ∨ watching "AuditHook" = x := by
    intro x hx
    rcases List.mem_append.1 hx with hx | hx
    · exact .inl (List.mem_map.1 hx)
    · exact .inr (List.mem_singleton.1 hx).symm
  have htakes : ∀ x ∈ Handler.standard (Rehearsal.dispatcher 1) ++ [watching "AuditHook"], ∀ s,
      (x.takes Rehearsal.event).answer s = .ok (takesEnd x) := by
    intro x hx s
    rcases hcases x hx with ⟨c, hc, rfl⟩ | rfl
    · have haccepts : ∀ c ∈ Classifier.all, c.accepts Rehearsal.event
          = (c.name == "TokensEventHook" || c.name == "AuditHook") := by decide
      rw [(Act.eq_ok_iff.1 (Handler.takes_dispatching c _ _ s)).1, haccepts c hc]
      rfl
    · rfl
  have hhandle : ∀ x ∈ Handler.standard (Rehearsal.dispatcher 1) ++ [watching "AuditHook"], takesEnd x = true →
      ∀ s, ∃ report, (x.handle Rehearsal.event).answer s = .ok report := by
    intro x hx _ s
    rcases hcases x hx with ⟨c, _, rfl⟩ | rfl
    · exact Handler.exists_answer_dispatching c _ _ s
    · exact ⟨none, rfl⟩
  refine ⟨_, h, hnames, (hget _ _).1.2 ⟨List.mem_append_right _ List.mem_cons_self, rfl⟩, ?_⟩
  obtain ⟨results, hresults, hfirst⟩ := ((hevent Rehearsal.event).2.2.2 takesEnd htakes).2 hhandle Rehearsal.scene
  exact ⟨results, hresults, hfirst.trans (by decide)⟩

end HandlerTable

end SecurityEvents
