import SecurityEvents.Proofs.Payload.Plain
import SecurityEvents.Proofs.Payload.Subject
import SecurityEvents.Proofs.Token.Document
set_option autoImplicit false

/-!
# Tokens on the wire

A token is `Transmissible` when it has one event whose payload is not nested too deeply. These are the tokens that
come back from their octets: all that standard encoders publish are of this kind, and so is every token that was read
from octets, however these were written.
-/

namespace SecurityEvents

/-- One event, and a payload that the text of a token leaves room for. -/
structure Token.Transmissible (t : Token) : Prop where
  one_event : t.events.size = 1
  shallow : ∀ payload, t.payload? = some payload → payload.json.nesting ≤ 125

/-- The text of every float in the payload is read as that float. -/
def Token.FloatsReadBack (t : Token) : Prop :=
  ∀ payload, t.payload? = some payload → ∀ x ∈ payload.json.floats,
    Json.read? (Json.number (.float x)).text = some (.number (.float x))

/-- The token may be sent, and is what is taken from its octets. -/
def Token.ComesBack (t : Token) : Prop :=
  t.Transmissible ∧ ofOctets t.toOctets = .ok t

namespace Token

theorem Transmissible.ofOctets_toOctets {t : Token} (h : t.Transmissible) (hfloats : t.FloatsReadBack) :
    ofOctets t.toOctets = .ok t := by
  obtain ⟨uri, payload, hentries, -, hpayload⟩ := exists_single h.one_event
  have hnesting : ∀ e ∈ t.events.entries, e.2.json.nesting ≤ 125 := by
    rw [hentries, List.forall_mem_singleton]
    exact h.shallow payload hpayload
  have hlegible : ∀ e ∈ t.events.entries, Json.Legible e.2.json.floats := by
    rw [hentries, List.forall_mem_singleton]
    exact fun x hx => Json.isSpelt_iff_read?_text.2 (hfloats payload hpayload x hx)
  rw [Token.ofOctets_toOctets hnesting hlegible, if_pos h.one_event]

theorem transmissible_of_ofOctets {octets : ByteArray} {t : Token} (h : ofOctets octets = .ok t) :
    t.Transmissible := by
  obtain ⟨hsize, hnesting⟩ := accepted_of_ofOctets h
  refine ⟨hsize, fun payload hpayload => ?_⟩
  obtain ⟨uri, only, hentries, -, honly⟩ := exists_single hsize
  cases honly.symm.trans hpayload
  exact hnesting (uri, payload) (hentries ▸ List.mem_singleton_self _)

end Token

namespace Dispatcher

variable {σ : Type} {d : Dispatcher σ} {event : Event} {category : Category} {v : Published}

/-- Who encodes for the schema of the profile, if anybody does, is a standard encoder. -/
def EncodesStandard (d : Dispatcher σ) (category : Category) (profileName : String) : Prop :=
  ∀ schema encoder, Schema.ofProfileName? profileName = some schema →
    d.encoders.find? schema category = some encoder → ∃ config, encoder = Encoder.standard config schema

theorem encodesStandard_of_standard {config : Configuration} (h : d.encoders = .standard config)
    (category : Category) (profileName : String) : d.EncodesStandard category profileName := by
  intro schema encoder _ hfind
  rw [h, EncoderRegistry.find?_standard] at hfind
  split at hfind
  · cases hfind
    exact ⟨config, rfl⟩
  · cases hfind

/-- What is published through a standard encoder has one event, and a plain payload. -/
theorem AnnouncesEvent.exists_plain (h : d.AnnouncesEvent event category v)
    (hstandard : d.EncodesStandard category v.context.profileName) :
    ∃ uri payload, v.token.events = .single uri payload ∧ Json.Plain 6 payload.json := by
  obtain ⟨data, p, -, route, payload, stamp, hrouting, ⟨encoder, s, s', hfind, hencode⟩, rfl⟩ := h
  obtain ⟨config, rfl⟩ := hstandard route.schema encoder hrouting.schema_eq hfind
  exact ⟨route.eventUri, payload, rfl, Schema.plain_payload (Schema.payload_eq_of_encode hencode)⟩

theorem AnnouncesEvent.comesBack (h : d.AnnouncesEvent event category v)
    (hstandard : d.EncodesStandard category v.context.profileName) : v.token.ComesBack := by
  obtain ⟨uri, payload, hevents, hplain⟩ := h.exists_plain hstandard
  have hpayload {other : Payload} (hother : v.token.payload? = some other) : other = payload := by
    rw [Token.payload?, hevents] at hother
    exact (Option.some.inj hother).symm
  have htransmissible : v.token.Transmissible := by
    refine ⟨by rw [hevents]; rfl, fun other hother => ?_⟩
    rw [hpayload hother]
    exact Nat.le_trans hplain.nesting_le (by decide)
  refine ⟨htransmissible, htransmissible.ofOctets_toOctets fun other hother x hx => ?_⟩
  rw [hpayload hother] at hx
  exact (hplain.no_float x hx).elim

end Dispatcher

namespace Token

/-- Tokens come back from their octets. The first part is about any token, the second about those that are recorded in
a dispatch and were made by standard encoders, also if several profiles are served at a time and others act on the
services. The third starts from octets that a token was taken from. -/
theorem wire_round_trip :
    (∀ t : Token, t.Transmissible → t.FloatsReadBack → ofOctets t.toOctets = .ok t)
    ∧ (∀ {σ : Type} (d : Dispatcher σ) (record : σ → List Published)
        (noted : Except Panic (Except PublishError Unit) → Bool),
        d.Books record noted → d.provider.list.Keeps record → ∀ event category s,
          (∃ new, record ((d.dispatch event category).after s).state.services = record s.state.services ++ new
            ∧ ∀ v ∈ new, d.EncodesStandard category v.context.profileName → v.token.ComesBack)
          ∧ ∀ moves, (∀ act, .disturb act ∈ moves → act.Keeps record) →
            ∃ new, record ((d.fanOut event category moves).after s).state.services
                = record s.state.services ++ new
              ∧ ∀ v ∈ new, d.EncodesStandard category v.context.profileName → v.token.ComesBack)
    ∧ ∀ octets t, ofOctets octets = .ok t →
      t.Transmissible ∧ (∃ uri, t.eventUri? = some uri) ∧ (∃ payload, t.payload? = some payload)
        ∧ (t.FloatsReadBack → ofOctets t.toOctets = .ok t) := by
  refine ⟨fun t => Transmissible.ofOctets_toOctets, ?_, ?_⟩
  · intro σ d record noted hb hlist event category s
    exact Dispatcher.recorded_of_announces hb hlist (fun _ hv => hv.comesBack) s
  · intro octets t h
    have htransmissible := transmissible_of_ofOctets h
    obtain ⟨uri, payload, -, huri, hpayload⟩ := exists_single htransmissible.one_event
    exact ⟨htransmissible, ⟨uri, huri⟩, ⟨payload, hpayload⟩, htransmissible.ofOctets_toOctets⟩

/-- The number `0.5`. -/
def oneHalf : Binary64 := ⟨false, 0x3FE0000000000000, by decide⟩

/-- A token about a risk of one half, with characters that are escaped. -/
def riskToken : Token where
  issuer := "https://issuer.example/\"\\\n"
  issuedAt := -9223372036854775808
  id := "1"
  correlationId := none
  subject := some ⟨"opaque", "\u0000é"⟩
  events := .single "urn:risk" ⟨.object [("risk", .number (.float oneHalf))], by decide⟩

theorem transmissible_riskToken : riskToken.Transmissible := by
  refine ⟨rfl, fun payload hpayload => ?_⟩
  cases hpayload
  decide

theorem floatsReadBack_riskToken : riskToken.FloatsReadBack := by
  have hspelt : (Json.Number.float oneHalf).IsSpelt := by
    unfold Json.Number.IsSpelt
    decide +kernel
  intro payload hpayload x hx
  cases hpayload
  cases List.mem_singleton.1 (show x ∈ [oneHalf] from hx)
  exact Json.isSpelt_iff_read?_text.1 hspelt

/-- The token with a float comes back, and so do those that announce the locked account. -/
theorem riskToken_and_rehearsed_come_back :
    riskToken.ComesBack
    ∧ ∃ new, Stage.recorded ((Dispatcher.standardRehearsal.dispatch Dispatcher.lockedAccount .userLocked).after
        Dispatcher.standardScene).state.services = new
      ∧ new.length = 2 ∧ ∀ v ∈ new, v.token.ComesBack := by
  refine ⟨⟨transmissible_riskToken, wire_round_trip.1 _ transmissible_riskToken floatsReadBack_riskToken⟩, ?_⟩
  obtain ⟨⟨new, hnew, hall⟩, _⟩ := wire_round_trip.2.1 Dispatcher.standardRehearsal Stage.recorded isTaken
    Dispatcher.books_standardRehearsal (Provider.keeps_memory Rehearsal.aside) Dispatcher.lockedAccount .userLocked
    Dispatcher.standardScene
  have hlength := Dispatcher.length_recorded_lockedAccount
  rw [hnew] at hlength
  have hstandard := Dispatcher.encodesStandard_of_standard (d := Dispatcher.standardRehearsal) rfl .userLocked
  exact ⟨new, hnew, hlength, fun v hv => hall v hv (hstandard _)⟩

end Token

end SecurityEvents
