import SecurityEvents.Proofs.Extraction
import SecurityEvents.Proofs.Payload.Requirements
import SecurityEvents.Proofs.Payload.Subject
set_option autoImplicit false

/-!
# Locations that are reserved for users

Users who could not register are not known yet, but a location may be reserved for them, which is told by a claim. The
id at its end is read back from it (`Wso2.location_read_back`): where the location is the reference that is made for an
id, the payload names the user by that id and refers to the location again.
-/

namespace SecurityEvents

/-- The id is what follows the last slash of the location: all of it if there is no slash. -/
def FollowsLastSlash (location id : String) : Prop :=
  '/' ∉ id.toList ∧ (location = id ∨ ∃ before, location = before ++ "/" ++ id)

theorem followsLastSlash_iff {location id : String} :
    FollowsLastSlash location id ↔ Text.afterLastSlash location.toList = id.toList := by
  have hseparator : "/".toList = ['/'] := rfl
  constructor
  · rintro ⟨hid, rfl | ⟨before, rfl⟩⟩
    · exact Text.afterLastSlash_of_not_mem hid
    · rw [Text.toList_separated hseparator]
      exact Text.afterLastSlash_append hid
  · intro h
    refine ⟨h ▸ Text.slash_not_mem_afterLastSlash _, ?_⟩
    by_cases hslash : '/' ∈ location.toList
    · obtain ⟨before, hbefore⟩ := Text.exists_eq_append_afterLastSlash hslash
      refine .inr ⟨String.ofList before, ?_⟩
      rw [← String.toList_inj, Text.toList_separated hseparator, String.toList_ofList, ← h]
      exact hbefore
    · refine .inl (String.toList_inj.1 ?_)
      rw [← h, Text.afterLastSlash_of_not_mem hslash]

/-! ## Events -/

/-- The event names its user by the id, in a parameter or in the authentication context, or names nobody. -/
def Event.NamesUser (e : Event) (id : Option String) : Prop :=
  ∃ context, Parameters.Authenticates (e.parameters.get? ParameterName.context) context
    ∧ ScalarOr ((context.bind (·.authenticatedUser)).bind (·.userId)) (e.parameters.get? ParameterName.userId) id

theorem Extracted.namesUser_iff {e : Event} {data : EventData} (h : Extracted e data) {id : Option String} :
    e.NamesUser id ↔ data.userId = id := by
  constructor
  · rintro ⟨context, hcontext, hid⟩
    obtain rfl := Except.ok.inj ((Parameters.authentication_eq_ok_iff.2 hcontext).symm.trans
      (Parameters.authentication_eq_ok_iff.2 h.authentication))
    obtain ⟨own, hown, hsaid⟩ := Parameters.scalarOr_iff.1 hid
    obtain ⟨own', hown', hsaid'⟩ := Parameters.scalarOr_iff.1 h.userId
    obtain rfl := Except.ok.inj (hown.symm.trans hown')
    exact hsaid'.symm.trans hsaid
  · rintro rfl
    exact ⟨data.authentication, h.authentication, h.userId⟩

namespace Wso2

variable {config : Configuration} {data : EventData} {claims : List (String × String)}

/-! ## Claims -/

/-- A location names the id at its end, if there is one. -/
theorem idOfLocation?_eq_of_follows {location id : String} (h : FollowsLastSlash location id) :
    idOfLocation? location = if id = "" then none else some id := by
  rw [idOfLocation?, followsLastSlash_iff.1 h, String.ofList_toList]
  simp only [List.isEmpty_iff, String.toList_eq_nil_iff]

/-- The id that is read back from the location claim. -/
theorem claimedId_eq_of_follows (hnodup : (claims.map (·.1)).Nodup) {location id : String}
    (hclaim : (ClaimUri.location, location) ∈ claims) (h : FollowsLastSlash location id) (hid : id ≠ "") :
    (claimOf? claims ClaimUri.location).bind idOfLocation? = some id := by
  have hlocation : location ≠ "" := by
    rintro rfl
    have hempty := followsLastSlash_iff.1 h
    exact hid (String.toList_eq_nil_iff.1 hempty.symm)
  rw [(claimOf?_eq_some_iff hnodup).2 ⟨hclaim, hlocation⟩, Option.bind_some, idOfLocation?_eq_of_follows h,
    if_neg hid]

/-- No id is read back if no location claim has one at its end. -/
theorem claimedId_eq_none (hnodup : (claims.map (·.1)).Nodup)
    (h : ∀ location, (ClaimUri.location, location) ∈ claims → FollowsLastSlash location "") :
    (claimOf? claims ClaimUri.location).bind idOfLocation? = none := by
  cases hclaim : claimOf? claims ClaimUri.location with
  | none => rfl
  | some location =>
    obtain ⟨hmem, _⟩ := (claimOf?_eq_some_iff hnodup).1 hclaim
    rw [Option.bind_some, idOfLocation?_eq_of_follows (h location hmem), if_pos rfl]

/-- The reference to a user ends in the id. -/
theorem followsLastSlash_userReference (config : Configuration) (data : EventData) {id : String}
    (hid : '/' ∉ id.toList) : FollowsLastSlash (userReference config data id) id := by
  refine ⟨hid, .inr ⟨config.issuerFor data.tenantDomain ++ "/scim2/Users", ?_⟩⟩
  rw [userReference, ← String.toList_inj]
  simp

/-! ## Payloads -/

/-- The user is told by the id, and is found where users of the event's tenant are. -/
def ShowsUser (config : Configuration) (data : EventData) (user : Json) (id : String) : Prop :=
  user.member? "id" = some (.string id) ∧ user.member? "ref" = some (.string (userReference config data id))

/-- Nothing tells who the user is, or where to be found. -/
def HidesUser (user : Json) : Prop :=
  user.member? "id" = none ∧ user.member? "ref" = none

/-- A registration that failed has a payload, in which the user is the one of the event, or the one whose id is read
back from the claims, or unknown. -/
theorem exists_encode_registrationFailure (config : Configuration) {tenant : String}
    (htenant : data.tenantDomain = some tenant) (hclaims : data.claims ParameterName.userClaims = .ok claims) :
    ∃ payload user, encode config .registrationFailure data = .ok payload
      ∧ payload.json.member? "user" = some user
      ∧ (∀ id, data.userId.or ((claimOf? claims ClaimUri.location).bind idOfLocation?) = some id →
          ShowsUser config data user id)
      ∧ (data.userId.or ((claimOf? claims ClaimUri.location).bind idOfLocation?) = none → HidesUser user) := by
  have hmet : ∀ c ∈ requirements .registrationFailure data, c.Met := by
    refine List.forall_mem_cons.2 ⟨⟨tenant, htenant⟩, ?_⟩
    exact (data.restsOn_claims ParameterName.userClaims).exists_ok_iff.1 ⟨claims, hclaims⟩
  obtain ⟨document, hdocument⟩ := (restsOn_document config .registrationFailure data).exists_ok_iff.2 hmet
  obtain ⟨others, hothers, huser⟩ := exists_of_registrationFailure hdocument
  obtain rfl := Except.ok.inj (hclaims.symm.trans hothers)
  have hencode : encode config .registrationFailure data = .ok document.payload := by
    rw [encode, hdocument]
    rfl
  refine ⟨document.payload, _, hencode, document.member?_user.trans (congrArg _ huser), ?_, ?_⟩
  · intro id hid
    rw [ShowsUser, User.member?_id, User.member?_ref, hid]
    exact ⟨rfl, rfl⟩
  · intro hnone
    rw [HidesUser, User.member?_id, User.member?_ref, hnone]
    exact ⟨rfl, rfl⟩

/-- A reserved location is read back. A registration that failed in a tenant has a payload with a user. If the event
names its user, that is the one, whatever is claimed. Otherwise a location that is the reference to an id gives the user
that id and the location as the reference; any other location gives the user the id that follows its last slash; and if
nothing follows it, or no location is claimed, neither is told. -/
theorem location_read_back {event : Event} (h : EventData.ofEvent event = .ok data) (config : Configuration)
    {tenant : String} (htenant : data.tenantDomain = some tenant)
    (hclaims : data.claims ParameterName.userClaims = .ok claims) :
    ∃ payload user, encode config .registrationFailure data = .ok payload
      ∧ payload.json.member? "user" = some user
      ∧ (∀ id, event.NamesUser (some id) → ShowsUser config data user id)
      ∧ (event.NamesUser none →
          (∀ id, id ≠ "" → '/' ∉ id.toList →
            ∀ location, location = userReference config data id → (ClaimUri.location, location) ∈ claims →
              user.member? "id" = some (.string id) ∧ user.member? "ref" = some (.string location))
          ∧ (∀ location id, (ClaimUri.location, location) ∈ claims → FollowsLastSlash location id → id ≠ "" →
              ShowsUser config data user id)
          ∧ ((∀ location, (ClaimUri.location, location) ∈ claims → FollowsLastSlash location "") →
              HidesUser user)) := by
  have hextracted : Extracted event data := EventData.ofEvent_eq_ok_iff.1 h
  have hnodup : (claims.map (·.1)).Nodup := EventData.nodup_uris_of_claims hclaims
  obtain ⟨payload, user, hencode, huser, hshows, hhides⟩ :=
    exists_encode_registrationFailure config htenant hclaims
  refine ⟨payload, user, hencode, huser, fun id hid => hshows id ?_, fun hnobody => ?_⟩
  · rw [hextracted.namesUser_iff.1 hid, Option.some_or]
  · rw [hextracted.namesUser_iff.1 hnobody, Option.none_or] at hshows hhides
    have hfollows (location id : String) (hclaim : (ClaimUri.location, location) ∈ claims)
        (hlast : FollowsLastSlash location id) (hid : id ≠ "") : ShowsUser config data user id :=
      hshows id (claimedId_eq_of_follows hnodup hclaim hlast hid)
    refine ⟨?_, hfollows, fun hnone => hhides (claimedId_eq_none hnodup hnone)⟩
    rintro id hid hslash location rfl hclaim
    exact hfollows _ id hclaim (followsLastSlash_userReference config data hslash) hid

/-- A registration failed, for which a location in a tenant with a slash in its name was reserved. -/
def reservedLocation : Event :=
  ⟨EventName.userRegistrationFailed,
    ⟨[(ParameterName.tenantDomain, .string "acme/eu"),
      (ParameterName.userClaims, .object [(ClaimUri.location,
        .string "https://localhost:9443/t/acme/eu/scim2/Users/1f3a")])], by decide⟩,
    none⟩

/-- The data of the event. -/
def reservedLocationData : EventData where
  eventName := EventName.userRegistrationFailed
  tenantDomain := some "acme/eu"
  tenantId := none
  userId := none
  userName := none
  userStoreDomain := none
  correlationId := none
  authentication := none
  flow := none
  parameters := reservedLocation.parameters

theorem ofEvent_reservedLocation : EventData.ofEvent reservedLocation = .ok reservedLocationData := by
  decide +kernel

theorem claims_reservedLocationData :
    reservedLocationData.claims ParameterName.userClaims
      = .ok [(ClaimUri.location, userReference {} reservedLocationData "1f3a")] := by
  decide +kernel

theorem reservedLocation_read_back :
    ∃ payload user, encode {} .registrationFailure reservedLocationData = .ok payload
      ∧ payload.json.member? "user" = some user ∧ user.member? "id" = some (.string "1f3a")
      ∧ user.member? "ref" = some (.string "https://localhost:9443/t/acme/eu/scim2/Users/1f3a") := by
  have hnobody : reservedLocation.NamesUser none :=
    (EventData.ofEvent_eq_ok_iff.1 ofEvent_reservedLocation).namesUser_iff.2 rfl
  obtain ⟨payload, user, hencode, huser, _, hclaimed⟩ :=
    location_read_back ofEvent_reservedLocation {} rfl claims_reservedLocationData
  obtain ⟨hid, hreference⟩ := (hclaimed hnobody).1 "1f3a" (by decide) (by decide) _ rfl List.mem_cons_self
  exact ⟨payload, user, hencode, huser, hid, hreference⟩

end Wso2

end SecurityEvents
