import SecurityEvents.Dispatch.FanOut
import SecurityEvents.Proofs.Dispatch.Listing
import SecurityEvents.Proofs.Registration
import SecurityEvents.Rehearsal.Session
set_option autoImplicit false

/-!
# Rehearsed services

The services for trying out a dispatcher are as services are assumed to be: steady as long as nobody changes
what the recorder was told, and the record of the recorder books what it took. `Dispatcher.rehearsal` is a
dispatcher that works with them.
-/

namespace SecurityEvents

namespace Act

variable {σ τ α : Type}

theorem SteadyOn.on {settled : τ → Prop} {act : Act τ α} (h : act.SteadyOn settled) (part : Part σ τ)
    (hpart : ∀ t s, part.get (part.set t s) = t) :
    (act.on part).SteadyOn fun s => settled (part.get s) := by
  constructor
  · intro s t hs ht
    rw [answer_on, answer_on]
    exact h.answer_eq _ _ hs ht
  · intro s hs
    rw [after_on, hpart]
    exact h.settled_after _ hs

theorem Keeps.on {κ : Type} {view : τ → κ} {act : Act τ α} (h : act.Keeps view) (part : Part σ τ)
    (hpart : ∀ t s, part.get (part.set t s) = t) :
    (act.on part).Keeps fun s => view (part.get s) := by
  intro s
  change view (part.get ((act.on part).after s).state) = view (part.get s.state)
  rw [after_on, hpart]
  exact h _

end Act

/-! ## The recorder -/

namespace Recorder

/-- The recorder was told this. -/
def Told (disabled : List String) (failing : List (String × Failure)) (r : Recorder) : Prop :=
  r.disabled = disabled ∧ r.failing = failing

variable {disabled : List String} {failing : List (String × Failure)}

theorem steadyOn_accepts (context : PublishContext) :
    (publisher.accepts context).SteadyOn (Told disabled failing) := by
  refine ⟨fun s t hs ht => ?_, fun s hs => hs⟩
  change Except.ok (!s.state.disabled.contains context.profileName) =
    Except.ok (!t.state.disabled.contains context.profileName)
  rw [hs.1, ht.1]

theorem keeps_accepts (context : PublishContext) : (publisher.accepts context).Keeps record :=
  fun _ => rfl

theorem answer_publish (token : Token) (context : PublishContext) (s : Scene Recorder) :
    (publisher.publish token context).answer s =
      match s.state.failing.lookup context.profileName with
      | some (.error e) => .ok (.error e)
      | some (.panic p) => .error p
      | none => .ok (.ok ()) := by
  rw [publisher, Act.answer_bind_of_ok _ (rfl : Act.state.answer s = .ok s.state)]
  cases s.state.failing.lookup context.profileName with
  | none => rfl
  | some failure => cases failure <;> rfl

/-- The recorder takes a token or leaves all as it is. -/
theorem after_publish (token : Token) (context : PublishContext) (s : Scene Recorder) :
    (publisher.publish token context).after s =
      if isTaken ((publisher.publish token context).answer s) then
        { s with state.record := s.state.record ++ [⟨token, context⟩] }
      else s := by
  rw [answer_publish, publisher, Act.after_bind_of_ok _ (rfl : Act.state.answer s = .ok s.state)]
  cases s.state.failing.lookup context.profileName with
  | none => rfl
  | some failure => cases failure <;> rfl

end Recorder

/-! ## The stage -/

namespace Stage

/-- The recorder on the stage was told this. -/
def Told (disabled : List String) (failing : List (String × Failure)) (s : Stage) : Prop :=
  s.recorder.Told disabled failing

/-- What the recorder on the stage took. -/
def recorded (s : Stage) : List Published :=
  s.recorder.record

end Stage

section Scripts

variable {settled : Stage → Prop}

theorem EncoderScript.steadyOn_answer (script : EncoderScript) (schema : Schema) (category : Category)
    (data : EventData) : (script.answer schema category data).SteadyOn settled := by
  constructor
  · intro s t _ _
    cases script <;> rfl
  · intro s hs
    cases script <;> exact hs

theorem EncoderScript.keeps_answer {κ : Type} {view : Stage → κ} (script : EncoderScript)
    (schema : Schema) (category : Category) (data : EventData) :
    (script.answer schema category data).Keeps view := by
  intro s
  cases script <;> rfl

theorem Encoder.steadyOn_scripted {disabled : List String} {failing : List (String × Failure)}
    (place : Nat) (schema : Schema) (categories : List Category) (script : EncoderScript)
    (category : Category) (data : EventData) :
    ((Encoder.scripted place schema categories script).encode category data).SteadyOn
      (Stage.Told disabled failing) := by
  have hanswer : (script.answer schema category data).SteadyOn (Stage.Told disabled failing) :=
    script.steadyOn_answer schema category data
  constructor
  · intro s t hs ht
    exact hanswer.answer_eq _ _ hs ht
  · intro s hs
    exact hanswer.settled_after _ hs

theorem Encoder.keeps_scripted (place : Nat) (schema : Schema) (categories : List Category)
    (script : EncoderScript) (category : Category) (data : EventData) :
    ((Encoder.scripted place schema categories script).encode category data).Keeps Stage.recorded :=
  fun _ => script.keeps_answer schema category data _

theorem Gate.steadyOn_scripted {σ : Type} {calm : σ → Prop} (name : String) (script : GateScript)
    (input : GateInput) : ((Gate.scripted name script).check input).SteadyOn calm := by
  constructor
  · intro s t _ _
    cases script <;> rfl
  · intro s hs
    cases script <;> exact hs

theorem Gate.keeps_scripted {σ κ : Type} {view : σ → κ} (name : String) (script : GateScript)
    (input : GateInput) : ((Gate.scripted name script).check input).Keeps view := by
  intro s
  cases script <;> rfl

end Scripts

/-! ## A dispatcher on the stage -/

/-- The recorder on the stage answers from the context, as long as nobody changes what it was told. -/
theorem answersContext_recording {disabled : List String} {failing : List (String × Failure)} :
    PublisherKind.recording.publisher.AnswersContext (Stage.Told disabled failing) where
  accepts context := (Recorder.steadyOn_accepts context).on Stage.recorderPart fun _ _ => rfl
  publish token other context s t hs ht := by
    have hfailing : s.state.recorder.failing = t.state.recorder.failing := hs.2.trans ht.2.symm
    change ((Recorder.publisher.publish token context).on Stage.recorderPart).answer s
      = ((Recorder.publisher.publish other context).on Stage.recorderPart).answer t
    rw [Act.answer_on, Act.answer_on, Recorder.answer_publish, Recorder.answer_publish]
    dsimp only [Stage.recorderPart]
    rw [hfailing]
  publish_settled token context s hs := by
    change Stage.Told disabled failing
      (((Recorder.publisher.publish token context).on Stage.recorderPart).after s).state
    rw [Act.after_on, Recorder.after_publish]
    split <;> exact hs

namespace Dispatcher

/-- A dispatcher on a stage: the profiles are in memory, the encoders follow scripts, so do gates behind the
standard ones, and the publisher records. -/
def rehearsal (config : Configuration) (catalog : Catalog)
    (encoders : List (Schema × List Category × EncoderScript)) (gates : List (String × GateScript)) :
    Dispatcher Stage where
  config
  provider := Provider.memory.on Stage.profilesPart
  catalog
  encoders := .ofList
    (encoders.zipIdx.map fun ((schema, categories, script), place) =>
      Encoder.scripted place schema categories script)
  gates := Gate.standard config PublisherKind.recording.publisher
    ++ gates.map fun (name, script) => Gate.scripted name script
  publisher := PublisherKind.recording.publisher

section Rehearsal

variable {disabled : List String} {failing : List (String × Failure)} (config : Configuration)
  (catalog : Catalog) (encoders : List (Schema × List Category × EncoderScript))
  (gates : List (String × GateScript))

theorem exists_scripted_of_find?_rehearsal {schema : Schema} {category : Category}
    {encoder : Encoder Stage}
    (h : (rehearsal config catalog encoders gates).encoders.find? schema category = some encoder) :
    ∃ place schema categories script, Encoder.scripted place schema categories script = encoder := by
  obtain ⟨⟨⟨schema, categories, script⟩, place⟩, _, hencoder⟩ :=
    List.mem_map.1 (EncoderRegistry.mem_of_find?_ofList h)
  exact ⟨place, schema, categories, script, hencoder⟩

theorem steady_rehearsal :
    (rehearsal config catalog encoders gates).Steady (Stage.Told disabled failing) where
  gate gate hgate input := by
    rcases List.mem_append.1 hgate with hstandard | hscripted
    · exact Gate.steadyOn_of_mem_standard answersContext_recording hstandard input
    · obtain ⟨⟨name, script⟩, _, rfl⟩ := List.mem_map.1 hscripted
      exact Gate.steadyOn_scripted name script input
  encoder schema category encoder hfind data := by
    obtain ⟨place, schema, categories, script, rfl⟩ :=
      exists_scripted_of_find?_rehearsal config catalog encoders gates hfind
    exact Encoder.steadyOn_scripted place schema categories script category data
  publisher token other context _ := answersContext_recording.publish token other context
  publisher_settled := answersContext_recording.publish_settled

theorem books_rehearsal : (rehearsal config catalog encoders gates).Books Stage.recorded isTaken where
  gate gate hgate input := by
    rcases List.mem_append.1 hgate with hstandard | hscripted
    · refine Gate.of_mem_standard (fun decision => Act.keeps_pure _ decision) (fun input => ?_)
        hstandard input
      exact ((Recorder.keeps_accepts input.context).on Stage.recorderPart fun _ _ => rfl).bind
        fun accepted => Act.keeps_pure _ _
    · obtain ⟨⟨name, script⟩, _, rfl⟩ := List.mem_map.1 hscripted
      exact Gate.keeps_scripted name script input
  encoder schema category encoder hfind data := by
    obtain ⟨place, schema, categories, script, rfl⟩ :=
      exists_scripted_of_find?_rehearsal config catalog encoders gates hfind
    exact Encoder.keeps_scripted place schema categories script category data
  publisher token context s := by
    change Stage.recorded
        (((Recorder.publisher.publish token context).on Stage.recorderPart).after s).state
      = s.state.recorder.record ++
        if isTaken (((Recorder.publisher.publish token context).on Stage.recorderPart).answer s) then
          [⟨token, context⟩] else []
    rw [Act.answer_on, Act.after_on, Recorder.after_publish]
    split
    · rfl
    · exact (List.append_nil _).symm

end Rehearsal

end Dispatcher

/-! ## One rehearsal -/

namespace Rehearsal

/-- A channel for the ends of sessions. -/
def channel : Channel :=
  ⟨"session", "urn:channel:session", [⟨"ended", "urn:event:session-ended"⟩]⟩

/-- Where the channel lists the ends of sessions. -/
def table : List (String × EventMetadata) :=
  [(EventName.sessionTerminate, ⟨"urn:channel:session", "ended"⟩)]

/-- The same profile twice, one without a channel, and others that do not survive their service. -/
def profiles : List Profile :=
  [⟨"WSO2", "1", [channel]⟩, ⟨"CAEP", "1", [channel]⟩, ⟨"WSO2", "1", [channel]⟩, ⟨"WSO2", "2", []⟩,
    ⟨"RISC", "1", [channel]⟩]

/-- A dispatcher that serves so many profiles at a time. The encoder of one schema panics. -/
def dispatcher (limit : Nat) : Dispatcher Stage :=
  .rehearsal { profileConcurrency := limit } (.ofList (Schema.all.map fun schema => .ofTable schema table))
    [(.wso2, Category.all, .echo "first"), (.caep, [.tokenRevoke], .panic (.text "no payload")),
      (.risc, [.tokenRevoke], .echo "second")]
    [("office_hours", .allow)]

/-- What the publisher panics for. -/
def failing : List (String × Failure) :=
  [("RISC", .panic .other)]

/-- The scene at the beginning. -/
def scene : Scene (Issuing Stage) where
  state :=
    { stamper := ⟨{ readings := fun _ => 1700000000 }, { ids := fun n => "id-" ++ toString n }⟩
      services := { profiles, recorder := { failing } } }

/-- A session ends. -/
def event : Event :=
  ⟨EventName.sessionTerminate, .empty, none⟩

/-- What the event says. -/
def data : EventData :=
  ⟨EventName.sessionTerminate, none, none, none, none, none, none, none, none, .empty⟩

/-- Two profiles are served at a time, the second ahead of the first, and the profiles are replaced when the
first two have been begun. -/
def moves : List (Move Stage) :=
  [.start, .start, .disturb ((Provider.replace []).on Stage.profilesPart)]
    ++ (List.replicate 20 [.advance 1, .advance 0, .start]).flatten

theorem ofEvent_event : EventData.ofEvent event = .ok data := rfl

theorem steady (limit : Nat) : (dispatcher limit).Steady (Stage.Told [] failing) :=
  Dispatcher.steady_rehearsal ..

theorem books (limit : Nat) : (dispatcher limit).Books Stage.recorded isTaken :=
  Dispatcher.books_rehearsal ..

theorem aside : Stage.profilesPart.Aside (Stage.Told [] failing) Stage.recorded :=
  ⟨fun _ _ h => h, fun _ _ => rfl⟩

theorem told_scene : Stage.Told [] failing scene.state.services :=
  ⟨rfl, rfl⟩

theorem lists (limit : Nat) :
    (dispatcher limit).provider.Lists (Stage.Told [] failing) Stage.recorded scene.services profiles :=
  Provider.lists_memory aside told_scene

end Rehearsal

end SecurityEvents
