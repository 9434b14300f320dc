import SecurityEvents.Proofs.Act
set_option autoImplicit false

/-!
# What is assumed of services

Gates, encoders and the publisher are given to a dispatcher. Two assumptions about them recur.

They are *steady* on settled states: each answers from what it is asked only, whatever was asked before, and
the publisher does not look at the stamp of a token. Settled states are those in which nobody changes what the
services were told; a service that was told nothing is steady on all states.

A view of their state *books* tokens: it grows when the publisher is handed a token, by that token, and at no
other time. The record of a publisher books the tokens that it took; a ledger books all that it was handed.
-/

namespace SecurityEvents

/-- What was published, without what tells it from another announcement of the same. -/
def Published.unstamped (p : Published) : Published :=
  { p with token := p.token.unstamped }

/-- The profile that something was published for, by name and version. -/
def Published.addressee (p : Published) : String × String :=
  (p.context.profileName, p.context.profileVersion)

/-- Whether the publisher took the token that it was handed. -/
def isTaken : Except Panic (Except PublishError Unit) → Bool
  | .ok (.ok ()) => true
  | _ => false

/-- On settled states the publisher answers from the context of a token only. -/
structure Publisher.AnswersContext {σ : Type} (publisher : Publisher σ) (settled : σ → Prop) : Prop where
  accepts : ∀ context, (publisher.accepts context).SteadyOn settled
  publish : ∀ (token other : Token) (context : PublishContext) (s t : Scene σ), settled s.state → settled t.state →
    (publisher.publish token context).answer s = (publisher.publish other context).answer t
  publish_settled : ∀ (token : Token) (context : PublishContext) (s : Scene σ), settled s.state →
    settled ((publisher.publish token context).after s).state

namespace Dispatcher

variable {σ : Type}

/-- On settled states the services answer from what they are asked only. -/
structure Steady (d : Dispatcher σ) (settled : σ → Prop) : Prop where
  gate : ∀ gate ∈ d.gates, ∀ input, (gate.check input).SteadyOn settled
  encoder : ∀ schema category encoder, d.encoders.find? schema category = some encoder →
    ∀ data, (encoder.encode category data).SteadyOn settled
  publisher : ∀ (token other : Token) (context : PublishContext), token.unstamped = other.unstamped →
    ∀ s t, settled s.state → settled t.state →
      (d.publisher.publish token context).answer s = (d.publisher.publish other context).answer t
  publisher_settled : ∀ (token : Token) (context : PublishContext) (s : Scene σ), settled s.state →
    settled ((d.publisher.publish token context).after s).state

/-- A view of the services that grows by the token that the publisher is handed, if its answer is `noted`,
and at no other time. -/
structure Books (d : Dispatcher σ) (record : σ → List Published)
    (noted : Except Panic (Except PublishError Unit) → Bool) : Prop where
  gate : ∀ gate ∈ d.gates, ∀ input, (gate.check input).Keeps record
  encoder : ∀ schema category encoder, d.encoders.find? schema category = some encoder →
    ∀ data, (encoder.encode category data).Keeps record
  publisher : ∀ (token : Token) (context : PublishContext) (s : Scene σ),
    record ((d.publisher.publish token context).after s).state =
      record s.state
        ++ if noted ((d.publisher.publish token context).answer s) then [⟨token, context⟩] else []

/-- A view of the services that grows by every token that the publisher is handed, whatever it answers. -/
abbrev Ledger (d : Dispatcher σ) (ledger : σ → List Published) : Prop :=
  d.Books ledger fun _ => true

/-- To have a payload encoded keeps a view that the encoder keeps. -/
theorem keeps_encode {κ : Type} {view : Issuing σ → κ} {d : Dispatcher σ} {o : Occurrence} {schema : Schema}
    (h : ∀ encoder, d.encoders.find? schema o.category = some encoder →
      (encoder.encode o.category o.data).ofServices.Keeps view) : (d.encode o schema).Keeps view := by
  unfold encode
  cases hfind : d.encoders.find? schema o.category with
  | none => exact Act.keeps_pure _ _
  | some encoder =>
    apply (h encoder hfind).bind
    intro answer
    cases answer <;> exact Act.keeps_pure _ _

end Dispatcher

/-! ## Gates -/

namespace Gate

variable {σ : Type}

/-- What holds of the answer of the publisher and of any answer that is given at once holds of the standard
gates. -/
theorem of_mem_standard {config : Configuration} {publisher : Publisher σ} {property : Act σ Decision → Prop}
    (hpure : ∀ decision, property (pure decision))
    (haccepts : ∀ input, property ((publishEnabled publisher).check input)) {gate : Gate σ}
    (hgate : gate ∈ standard config publisher) (input : GateInput) : property (gate.check input) := by
  simp only [standard, List.mem_cons, List.not_mem_nil, or_false] at hgate
  rcases hgate with rfl | rfl | rfl | rfl
  · exact hpure _
  · exact hpure _
  · exact hpure _
  · exact haccepts input

/-- The standard gates ask the publisher only, and for the context only. -/
theorem steadyOn_of_mem_standard {config : Configuration} {publisher : Publisher σ} {settled : σ → Prop}
    (h : publisher.AnswersContext settled) {gate : Gate σ} (hgate : gate ∈ standard config publisher)
    (input : GateInput) : (gate.check input).SteadyOn settled :=
  of_mem_standard (fun decision => Act.steadyOn_pure settled decision)
    (fun input => (h.accepts input.context).bind fun _ => Act.steadyOn_pure settled _) hgate input

theorem keeps_evaluate {κ : Type} {view : σ → κ} {gates : List (Gate σ)} {input : GateInput}
    (h : ∀ gate ∈ gates, (gate.check input).Keeps view) : (evaluate gates input).Keeps view := by
  induction gates with
  | nil => exact Act.keeps_pure view _
  | cons gate rest ih =>
    apply (h gate List.mem_cons_self).bind
    intro decision
    cases decision with
    | allow => exact ih fun g hg => h g (List.mem_cons_of_mem gate hg)
    | deny reason => exact Act.keeps_pure view _

theorem steadyOn_evaluate {settled : σ → Prop} {gates : List (Gate σ)} {input : GateInput}
    (h : ∀ gate ∈ gates, (gate.check input).SteadyOn settled) :
    (evaluate gates input).SteadyOn settled := by
  induction gates with
  | nil => exact Act.steadyOn_pure settled _
  | cons gate rest ih =>
    apply (h gate List.mem_cons_self).bind
    intro decision
    cases decision with
    | allow => exact ih fun g hg => h g (List.mem_cons_of_mem gate hg)
    | deny reason => exact Act.steadyOn_pure settled _

end Gate

end SecurityEvents
