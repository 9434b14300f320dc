import SecurityEvents.Proofs.Claims
import SecurityEvents.Proofs.Identifiers
import SecurityEvents.Proofs.Payload.Subject
set_option autoImplicit false

/-!
# Members of groups

Who joins or leaves a group is listed by qualified names, and a payload tells of each what stands behind the first
slash, be it nothing. The name of an event's user is left whole where the slash has nothing on one side, so the two
agree exactly on the other texts: `EventData.members_named`.
-/

namespace SecurityEvents

/-! ## Texts with a slash -/

/-- There is nothing on one side of the first slash. -/
def OneSided (text : String) : Prop :=
  ∃ store name, text = store ++ "/" ++ name ∧ '/' ∉ store.toList ∧ (store = "" ∨ name = "")

/-- The name that a group knows a member by: what stands behind the first slash, or everything if there is none. -/
inductive NamesMember : (text name : String) → Prop where
  | behind {store name : String} (h : '/' ∉ store.toList) : NamesMember (store ++ "/" ++ name) name
  | whole {text : String} (h : '/' ∉ text.toList) : NamesMember text text

/-- A text has no slash, or it is cut at its first. -/
theorem slashless_or_qualified (text : String) :
    '/' ∉ text.toList ∨ ∃ store name, text = store ++ "/" ++ name ∧ '/' ∉ store.toList := by
  cases hcut : Text.cutAtSlash? text.toList with
  | none => exact .inl (Text.cutAtSlash?_eq_none_iff.1 hcut)
  | some parts =>
    refine .inr ⟨String.ofList parts.1, String.ofList parts.2, Text.cutAtSlash?_eq_some_iff.1 ?_⟩
    rw [hcut, String.toList_ofList, String.toList_ofList]

theorem memberName_of_namesMember {text name : String} (h : NamesMember text name) : Wso2.memberName text = name := by
  cases h with
  | behind hslash =>
    rw [Wso2.memberName, Text.cutAtSlash?_eq_some_iff.2 ⟨rfl, hslash⟩]
    exact String.ofList_toList
  | whole hslash => rw [Wso2.memberName, Text.cutAtSlash?_eq_none_iff.2 hslash]

theorem memberName_eq_iff {text name : String} : Wso2.memberName text = name ↔ NamesMember text name := by
  refine ⟨fun h => h ▸ ?_, memberName_of_namesMember⟩
  obtain hslash | ⟨store, rest, rfl, hslash⟩ := slashless_or_qualified text
  · rw [memberName_of_namesMember (.whole hslash)]
    exact .whole hslash
  · rw [memberName_of_namesMember (.behind hslash)]
    exact .behind hslash

theorem NamesMember.unique {text name other : String} (h : NamesMember text name) (hother : NamesMember text other) :
    name = other :=
  (memberName_of_namesMember h).symm.trans (memberName_of_namesMember hother)

theorem SplitsAs.namesMember {text store name : String} (h : SplitsAs text store name) : NamesMember text name :=
  h.text_eq ▸ .behind h.slash_not_mem

/-- What is split has something on both sides of its first slash. -/
theorem SplitsAs.not_oneSided {text store name : String} (h : SplitsAs text store name) : ¬ OneSided text := by
  rintro ⟨store', name', htext, hslash, hempty⟩
  have hsame := Option.some.inj ((splitsAs_iff.1 h).1.symm.trans (Text.cutAtSlash?_eq_some_iff.2 ⟨htext, hslash⟩))
  rcases hempty with rfl | rfl
  · exact h.store_ne (String.toList_injective (congrArg Prod.fst hsame))
  · exact h.name_ne (String.toList_injective (congrArg Prod.snd hsame))

/-- A text that is left whole is the name of a member exactly if it has no slash. -/
theorem namesMember_self_iff {text : String} (hwhole : ∀ store name, ¬ SplitsAs text store name) :
    NamesMember text text ↔ ¬ OneSided text := by
  constructor
  · rintro h ⟨store, name, rfl, hslash, -⟩
    have hlength := congrArg String.length (NamesMember.unique (.behind hslash) h)
    have hslash_length : "/".length = 1 := rfl
    simp only [String.length_append] at hlength
    omega
  · intro hsides
    obtain hslash | ⟨store, name, rfl, hslash⟩ := slashless_or_qualified text
    · exact .whole hslash
    · refine (hwhole store name ⟨rfl, hslash, ?_, ?_⟩).elim
      · rintro rfl
        exact hsides ⟨_, name, rfl, hslash, .inl rfl⟩
      · rintro rfl
        exact hsides ⟨store, _, rfl, hslash, .inr rfl⟩

/-- A member has an empty name exactly if nothing stands behind the first slash. -/
theorem namesMember_empty_iff {text : String} (hvisible : ∃ c ∈ text.toList, Text.isBlank c = false) :
    NamesMember text "" ↔ ∃ store, '/' ∉ store.toList ∧ text = store ++ "/" := by
  constructor
  · intro h
    cases h with
    | @behind store _ hslash => exact ⟨store, hslash, String.append_empty⟩
    | whole =>
      obtain ⟨c, hc, -⟩ := hvisible
      exact (List.not_mem_nil hc).elim
  · rintro ⟨store, hslash, rfl⟩
    exact String.append_empty (s := store ++ "/") ▸ .behind hslash

/-! ## Users and members -/

/-- A user who is called by the text in an event has the name that a group knows a member by, unless there is nothing
on one side of the first slash. -/
theorem Extracted.namesMember_iff {e : Event} {d : EventData} (h : Extracted e d) {text : String}
    (htext : e.parameters.get? ParameterName.userName = some (.string text))
    (hvisible : ∃ c ∈ text.toList, Text.isBlank c = false) :
    ∃ name, d.userName = some name ∧ (NamesMember text name ↔ ¬ OneSided text) ∧ (OneSided text → name = text) := by
  obtain ⟨qualified, explicitStore, hqualified, -, hidentifies⟩ := h.user
  rw [htext] at hqualified
  have hqualified_eq : qualified = some text := by
    cases hqualified with
    | blank hblank =>
      obtain ⟨c, hc, hc_visible⟩ := hvisible
      cases (hblank c hc).symm.trans hc_visible
    | text => rfl
  rw [hqualified_eq] at hidentifies
  generalize d.userName = said, d.userStoreDomain = store at hidentifies ⊢
  cases hidentifies with
  | split hsplit =>
    exact ⟨_, rfl, iff_of_true hsplit.namesMember hsplit.not_oneSided, fun h => (hsplit.not_oneSided h).elim⟩
  | whole hwhole => exact ⟨_, rfl, namesMember_self_iff hwhole, fun _ => rfl⟩

/-! ## Members in a payload -/

/-- The texts that a parameter lists; it lists none if it is missing or null. -/
inductive ListsTexts : Option Json → List String → Prop where
  | missing : ListsTexts none []
  | null : ListsTexts (some .null) []
  | array (texts : List String) : ListsTexts (some (.array (texts.map .string))) texts

theorem listsTexts_of_strings {data : EventData} {parameter : String} {texts : List String}
    (h : data.strings parameter = .ok texts) : ListsTexts (data.parameters.get? parameter) texts := by
  unfold EventData.strings at h
  split at h
  · rename_i hv
    cases h
    exact hv ▸ .missing
  · rename_i hv
    cases h
    exact hv ▸ .null
  · rename_i items hv
    split at h
    · rename_i found hfound
      cases h
      rw [hv, EventData.stringsOf?_eq_some_iff.1 hfound]
      exact .array _
    · cases h
  · cases h

/-- A member in a payload: nothing is told but the name. -/
def memberJson (name : String) : Json :=
  .object [("claims", .array [.object [("uri", .string Wso2.ClaimUri.username), ("value", .string name)]])]

/-- What is written are the members that a parameter lists, one each and in its order. -/
def TellsMembers (listed : Option Json) (written : Option Json) : Prop :=
  ∃ texts names, ListsTexts listed texts ∧ List.Forall₂ NamesMember texts names
    ∧ written = Json.unlessEmpty memberJson names

namespace Wso2

theorem member_json (text : String) : (member text).json = memberJson (memberName text) :=
  rfl

theorem unlessEmpty_members (texts : List String) :
    Json.unlessEmpty User.json (texts.map member) = Json.unlessEmpty memberJson (texts.map memberName) := by
  cases texts with
  | nil => rfl
  | cons text rest => simp [Json.unlessEmpty, member_json]

theorem tellsMembers_of_strings {data : EventData} {parameter : String} {texts : List String}
    (h : data.strings parameter = .ok texts) :
    TellsMembers (data.parameters.get? parameter) (Json.unlessEmpty User.json (texts.map member)) := by
  refine ⟨texts, texts.map memberName, listsTexts_of_strings h, ?_, unlessEmpty_members texts⟩
  rw [List.forall₂_map_right_iff, List.forall₂_same]
  exact fun text _ => memberName_eq_iff.1 rfl

theorem Document.member?_group (document : Document) :
    document.json.member? "group" = document.group.map Group.json :=
  Json.member?_ofFields (by simp) _

theorem Group.member?_addedUsers (g : Group) :
    g.json.member? "addedUsers" = Json.unlessEmpty User.json g.addedUsers :=
  Json.member?_ofFields (by simp) _

theorem Group.member?_removedUsers (g : Group) :
    g.json.member? "removedUsers" = Json.unlessEmpty User.json g.removedUsers :=
  Json.member?_ofFields (by simp) _

theorem exists_of_userGroupUpdated {data : EventData} {document : Document}
    (h : userGroupUpdated data = .ok document) :
    ∃ group added removed, document.group = some group
      ∧ data.strings ParameterName.newUsers = .ok added ∧ group.addedUsers = added.map member
      ∧ data.strings ParameterName.deletedUsers = .ok removed ∧ group.removedUsers = removed.map member := by
  obtain ⟨_, _, h⟩ := exists_of_bind_eq_ok h
  obtain ⟨_, _, h⟩ := exists_of_bind_eq_ok h
  obtain ⟨added, hadded, h⟩ := exists_of_bind_eq_ok h
  obtain ⟨removed, hremoved, h⟩ := exists_of_bind_eq_ok h
  cases h
  exact ⟨_, added, removed, rfl, hadded, rfl, hremoved, rfl⟩

theorem tellsMembers_of_encode {config : Configuration} {data : EventData} {payload : Payload}
    (h : encode config .userGroupUpdated data = .ok payload) :
    ∃ group, payload.json.member? "group" = some group
      ∧ TellsMembers (data.parameters.get? ParameterName.newUsers) (group.member? "addedUsers")
      ∧ TellsMembers (data.parameters.get? ParameterName.deletedUsers) (group.member? "removedUsers") := by
  obtain ⟨document, hdocument, rfl⟩ := exists_of_encode h
  obtain ⟨group, added, removed, hgroup, hadded, hadded_eq, hremoved, hremoved_eq⟩ :=
    exists_of_userGroupUpdated hdocument
  refine ⟨group.json, document.member?_group.trans (congrArg _ hgroup), ?_, ?_⟩
  · rw [group.member?_addedUsers, hadded_eq]
    exact tellsMembers_of_strings hadded
  · rw [group.member?_removedUsers, hremoved_eq]
    exact tellsMembers_of_strings hremoved

end Wso2

/-- Every payload that tells of a group tells its members one by one, in the order of the parameters, and by nothing but
their names. A member has the same name as a user whom an event calls by the same text, except if there is nothing on
one side of the first slash: then the name of the user is the whole text, and the name of the member what stands behind
the slash, which may be nothing. -/
theorem EventData.members_named {config : Configuration} {data : EventData} {payload : Payload}
    (h : Wso2.encode config .userGroupUpdated data = .ok payload) :
    (∃ group, payload.json.member? "group" = some group
      ∧ TellsMembers (data.parameters.get? ParameterName.newUsers) (group.member? "addedUsers")
      ∧ TellsMembers (data.parameters.get? ParameterName.deletedUsers) (group.member? "removedUsers"))
    ∧ ∀ text, (∃ c ∈ text.toList, Text.isBlank c = false) →
      (∀ event user, ofEvent event = .ok user →
        event.parameters.get? ParameterName.userName = some (.string text) →
        ∃ name, user.userName = some name ∧ (NamesMember text name ↔ ¬ OneSided text) ∧ (OneSided text → name = text))
      ∧ (NamesMember text "" ↔ ∃ store, '/' ∉ store.toList ∧ text = store ++ "/") := by
  refine ⟨Wso2.tellsMembers_of_encode h, fun text hvisible => ⟨fun event user hextracted htext => ?_, ?_⟩⟩
  · exact (ofEvent_eq_ok_iff.1 hextracted).namesMember_iff htext hvisible
  · exact namesMember_empty_iff hvisible

/-- A member whose name ends in a slash joins a group, and the event calls its user by the same text. -/
def unnamedMember : Event :=
  ⟨EventName.postUpdateUserListOfRole,
    ⟨[(ParameterName.tenantDomain, .string "example.com"), (ParameterName.roleName, .string "staff"),
      (ParameterName.userName, .string "john/"), (ParameterName.newUsers, .array [.string "john/"])], by decide⟩,
    none⟩

/-- The data of the event. -/
def unnamedMemberData : EventData where
  eventName := EventName.postUpdateUserListOfRole
  tenantDomain := some "example.com"
  tenantId := none
  userId := none
  userName := some "john/"
  userStoreDomain := some "PRIMARY"
  correlationId := none
  authentication := none
  flow := none
  parameters := unnamedMember.parameters

/-- The payload for the event. -/
def unnamedMemberDocument : Wso2.Document where
  tenant := ⟨none, "example.com"⟩
  userStore := some (.ofDomain "PRIMARY")
  group := some ⟨none, "staff", [Wso2.member "john/"], []⟩

theorem ofEvent_unnamedMember : EventData.ofEvent unnamedMember = .ok unnamedMemberData := by
  decide +kernel

theorem encode_unnamedMember :
    Wso2.encode {} .userGroupUpdated unnamedMemberData = .ok unnamedMemberDocument.payload := by
  rfl

/-- The user keeps the whole name, and the member is left without any. -/
theorem member_is_left_unnamed :
    ∃ data payload group, EventData.ofEvent unnamedMember = .ok data ∧ data.userName = some "john/"
      ∧ Wso2.encode {} .userGroupUpdated data = .ok payload ∧ payload.json.member? "group" = some group
      ∧ group.member? "addedUsers" = some (.array [memberJson ""]) :=
  ⟨_, _, _, ofEvent_unnamedMember, rfl, encode_unnamedMember, rfl, rfl⟩

theorem unnamedMember_named :
    (∃ group, unnamedMemberDocument.json.member? "group" = some group
      ∧ TellsMembers (some (.array [.string "john/"])) (group.member? "addedUsers")
      ∧ TellsMembers none (group.member? "removedUsers"))
    ∧ (∃ name, unnamedMemberData.userName = some name ∧ (NamesMember "john/" name ↔ ¬ OneSided "john/")
      ∧ (OneSided "john/" → name = "john/"))
    ∧ NamesMember "john/" "" := by
  obtain ⟨htells, hnamed⟩ := EventData.members_named encode_unnamedMember
  obtain ⟨hsame, hempty⟩ := hnamed "john/" ⟨'j', by decide⟩
  exact ⟨htells, hsame _ _ ofEvent_unnamedMember rfl, hempty.2 ⟨"john", by decide⟩⟩

end SecurityEvents
