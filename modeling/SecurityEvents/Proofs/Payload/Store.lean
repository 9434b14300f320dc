import SecurityEvents.Proofs.Payload.Identifiers
import SecurityEvents.Proofs.Text.Base64
set_option autoImplicit false

/-!
# User stores in payloads

A payload names the user store of its event and gives it an id, which is the name in base64. Base64 can be read back, so
the id is told by the name alone and tells it again, whatever else two payloads are about:
`UserStore.ids_identify_stores`.
-/

namespace SecurityEvents

namespace Wso2

/-! ## Stores -/

/-- The id of the store is the name in base64. -/
structure UserStore.Identified (store : UserStore) : Prop where
  /-- Symbols of the standard alphabet have the bits of the name, and pads stand behind them. -/
  spelled : ∃ symbols pads, Text.Base64.SpelledBy (Text.octets store.name) store.id.toList symbols pads
  /-- There are four characters for three octets or less. -/
  length_eq : store.id.length = 4 * (((Text.octets store.name).length + 2) / 3)
  /-- The id is decoded to the octets of the name, and nothing else is. -/
  decode_iff : ∀ text : String,
    Text.Base64.decode text.toList = some (Text.octets store.name) ↔ text = store.id

theorem UserStore.identified_ofDomain (domain : String) : (UserStore.ofDomain domain).Identified := by
  have hid : (UserStore.ofDomain domain).id.toList = Text.Base64.encode (Text.octets domain) :=
    Text.Base64.toList_ofString domain
  obtain ⟨symbols, pads, hspelled⟩ := Text.Base64.exists_spelledBy_encode (Text.octets domain)
  rw [← hid] at hspelled
  refine ⟨⟨symbols, pads, hspelled⟩, hspelled.length_text, fun text => ?_⟩
  rw [Text.Base64.decode_eq_some_iff, ← String.toList_inj]
  constructor
  · rintro ⟨others, pads', hother⟩
    exact hother.unique hspelled
  · intro htext
    rw [htext]
    exact ⟨symbols, pads, hspelled⟩

example : UserStore.ofDomain "DEFAULT" = ⟨"REVGQVVMVA==", "DEFAULT"⟩ := by decide +kernel

/-- An id is decoded to one name. -/
theorem UserStore.Identified.name_eq_of_id_eq {store other : UserStore} (h : store.Identified)
    (hother : other.Identified) (hid : store.id = other.id) : store.name = other.name := by
  have hdecode := (h.decode_iff store.id).2 rfl
  have hdecode_other := (hother.decode_iff store.id).2 hid
  exact Text.octets_inj.1 (Option.some.inj (hdecode.symm.trans hdecode_other))

/-! ## Payloads -/

/-- What a payload says of the user store of its event. -/
def storeMember? (payload : Payload) (name : String) : Option Json :=
  (payload.json.member? "userStore").bind (Json.member? name)

theorem Document.member?_userStore (document : Document) :
    document.json.member? "userStore" = document.userStore.map UserStore.json :=
  Json.member?_ofFields (by simp) _

theorem UserStore.member?_id (store : UserStore) : store.json.member? "id" = some (.string store.id) :=
  Json.member?_ofFields (by simp) _

theorem UserStore.member?_name (store : UserStore) : store.json.member? "name" = some (.string store.name) :=
  Json.member?_ofFields (by simp) _

section Payloads

variable {config : Configuration} {category : Category} {data : EventData} {payload : Payload}

theorem member?_userStore_of_encode (h : encode config category data = .ok payload) :
    payload.json.member? "userStore" = data.userStoreDomain.map fun domain => (UserStore.ofDomain domain).json := by
  obtain ⟨document, hdocument, rfl⟩ := exists_of_encode h
  obtain ⟨common, hbase, hcompletes⟩ := exists_base_of_document hdocument
  obtain ⟨name, -, hbase⟩ := exists_of_bind_eq_ok hbase
  cases hbase
  refine document.member?_userStore.trans ?_
  rw [hcompletes.userStore_eq, Option.map_map]
  rfl

theorem storeMember?_of_encode {name : String} {said : UserStore → Json}
    (hsaid : ∀ store : UserStore, store.json.member? name = some (said store))
    (h : encode config category data = .ok payload) :
    storeMember? payload name = data.userStoreDomain.map fun domain => said (UserStore.ofDomain domain) := by
  rw [storeMember?, member?_userStore_of_encode h]
  cases data.userStoreDomain with
  | none => rfl
  | some domain => exact hsaid (UserStore.ofDomain domain)

end Payloads

/-- The store of any domain has the name of the domain, and the name in base64 as its id. A payload tells the store of
the domain of its event, and no store if the event has no domain. In any two payloads, of whatever configurations,
categories and events, the ids of the stores are the same exactly if the names are. -/
theorem UserStore.ids_identify_stores :
    (∀ domain : String, (UserStore.ofDomain domain).name = domain ∧ (UserStore.ofDomain domain).Identified)
    ∧ ∀ {config config' : Configuration} {category category' : Category} {data data' : EventData}
        {payload payload' : Payload}, encode config category data = .ok payload →
        encode config' category' data' = .ok payload' →
        payload.json.member? "userStore" = data.userStoreDomain.map (fun domain => (UserStore.ofDomain domain).json)
        ∧ (storeMember? payload "id" = storeMember? payload' "id"
          ↔ storeMember? payload "name" = storeMember? payload' "name") := by
  refine ⟨fun domain => ⟨rfl, UserStore.identified_ofDomain domain⟩, ?_⟩
  intro config config' category category' data data' payload payload' h h'
  refine ⟨member?_userStore_of_encode h, ?_⟩
  have hid : Function.Injective fun domain => Json.string (UserStore.ofDomain domain).id := fun domain other hsame =>
    (UserStore.identified_ofDomain domain).name_eq_of_id_eq (UserStore.identified_ofDomain other)
      (Json.string.inj hsame)
  have hname : Function.Injective fun domain => Json.string (UserStore.ofDomain domain).name :=
    fun _ _ => Json.string.inj
  rw [storeMember?_of_encode UserStore.member?_id h, storeMember?_of_encode UserStore.member?_id h',
    storeMember?_of_encode UserStore.member?_name h, storeMember?_of_encode UserStore.member?_name h']
  exact (Option.map_injective hid).eq_iff.trans (Option.map_injective hname).eq_iff.symm

/-- The account of a user is locked whose name is qualified by the store. -/
def qualifiedLocking : Event :=
  ⟨EventName.postLockAccount,
    ⟨[(ParameterName.tenantDomain, .string "example.com"), (ParameterName.userId, .string "1f3a"),
      (ParameterName.userName, .string "kraków/jan")], by decide⟩,
    none⟩

/-- A user is deleted whose store is told apart from the name. -/
def explicitDeletion (store : String) : Event :=
  ⟨EventName.postDeleteUser,
    ⟨[(ParameterName.tenantDomain, .string "example.com"), (ParameterName.userId, .string "27c0"),
      (ParameterName.userStoreDomain, .string store)], rfl⟩,
    none⟩

/-- The data of the locking. -/
def qualifiedLockingData : EventData where
  eventName := EventName.postLockAccount
  tenantDomain := some "example.com"
  tenantId := none
  userId := some "1f3a"
  userName := some "jan"
  userStoreDomain := some "KRAKÓW"
  correlationId := none
  authentication := none
  flow := none
  parameters := qualifiedLocking.parameters

/-- The data of the deletion. -/
def explicitDeletionData (store : String) : EventData where
  eventName := EventName.postDeleteUser
  tenantDomain := some "example.com"
  tenantId := none
  userId := some "27c0"
  userName := none
  userStoreDomain := some store
  correlationId := none
  authentication := none
  flow := none
  parameters := (explicitDeletion store).parameters

/-- The same store has the same id in the payloads of two categories, wherever its name comes from, and another store
has another. -/
theorem same_and_other_store_told_apart :
    EventData.ofEvent qualifiedLocking = .ok qualifiedLockingData
    ∧ (∀ store ∈ ["KRAKÓW", "PRIMARY"], EventData.ofEvent (explicitDeletion store) = .ok (explicitDeletionData store))
    ∧ ∃ locking deletion other, encode {} .userLocked qualifiedLockingData = .ok locking
      ∧ encode {} .userDeleted (explicitDeletionData "KRAKÓW") = .ok deletion
      ∧ encode {} .userDeleted (explicitDeletionData "PRIMARY") = .ok other
      ∧ storeMember? locking "id" = storeMember? deletion "id"
      ∧ storeMember? locking "id" ≠ storeMember? other "id" := by
  have hlocking : encode {} .userLocked qualifiedLockingData = .ok _ := rfl
  have hdeletion : encode {} .userDeleted (explicitDeletionData "KRAKÓW") = .ok _ := rfl
  have hother : encode {} .userDeleted (explicitDeletionData "PRIMARY") = .ok _ := rfl
  refine ⟨by decide +kernel, by decide +kernel, _, _, _, hlocking, hdeletion, hother, ?_, fun hid => ?_⟩
  · exact (UserStore.ids_identify_stores.2 hlocking hdeletion).2.2 rfl
  · exact absurd ((UserStore.ids_identify_stores.2 hlocking hother).2.1 hid) (by decide)

end Wso2

end SecurityEvents
