import SecurityEvents.Proofs.Payload.Standard
import SecurityEvents.Proofs.Token.Document
set_option autoImplicit false

/-!
# Standard payloads are plain

What the standard encoders write holds no float, and nests to a depth that the form of the documents sets:
`Schema.plain_payload`. The deepest is a group whose members have claims.
-/

namespace SecurityEvents

open Json

/-! ## Documents of the WSO2 schema -/

namespace Wso2

theorem Organization.plain_json (o : Organization) : Plain 1 o.json :=
  plain_ofFields (by
    simp only [List.forall_mem_cons]
    exact ⟨fun _ => plain_of_mem_map plain_string, by simp [plain_string]⟩)

theorem UserStore.plain_json (s : UserStore) : Plain 1 s.json :=
  plain_ofFields (by simp [plain_string])

theorem UserClaim.plain_json (c : UserClaim) : Plain 1 c.json :=
  plain_ofFields (by simp [plain_string])

theorem User.plain_json (u : User) : Plain 3 u.json :=
  plain_ofFields (by
    simp only [List.forall_mem_cons]
    exact ⟨fun _ => plain_of_mem_map plain_string, fun _ => plain_of_mem_map plain_string,
      fun _ => plain_of_mem_unlessEmpty UserClaim.plain_json,
      fun _ => plain_of_mem_unlessEmpty UserClaim.plain_json,
      fun _ => plain_of_mem_unlessEmpty UserClaim.plain_json,
      fun _ => plain_of_mem_unlessEmpty UserClaim.plain_json, by simp⟩)

theorem Group.plain_json (g : Group) : Plain 5 g.json :=
  plain_ofFields (by
    simp only [List.forall_mem_cons]
    exact ⟨fun _ => plain_of_mem_map plain_string, by simp [plain_string],
      fun _ => plain_of_mem_unlessEmpty User.plain_json,
      fun _ => plain_of_mem_unlessEmpty User.plain_json, by simp⟩)

theorem Application.plain_json (a : Application) : Plain 1 a.json :=
  plain_ofFields (by
    simp only [List.forall_mem_cons]
    exact ⟨fun _ => plain_of_mem_map plain_string, fun _ => plain_of_mem_map plain_string, by simp⟩)

theorem FailedStep.plain_json (s : FailedStep) : Plain 1 s.json :=
  plain_ofFields (by
    simp only [List.forall_mem_cons]
    exact ⟨fun _ => plain_of_mem_map fun _ => plain_natural _, fun _ => plain_of_mem_map plain_string,
      fun _ => plain_of_mem_map plain_string, by simp⟩)

theorem Reason.plain_json (r : Reason) : Plain 2 r.json :=
  plain_ofFields (by
    simp only [List.forall_mem_cons]
    exact ⟨by simp [plain_string], fun _ => plain_of_mem_map plain_string,
      fun _ => plain_of_mem_map FailedStep.plain_json, by simp⟩)

theorem Document.plain_json (d : Document) : Plain 6 d.json :=
  plain_ofFields (by
    simp only [List.forall_mem_cons]
    exact ⟨fun _ => plain_of_mem_map plain_string, fun _ => plain_of_mem_map plain_string,
      fun v hv => Option.some.inj hv ▸ d.tenant.plain_json.mono (by decide),
      fun _ => plain_of_mem_map fun s => s.plain_json.mono (by decide),
      fun _ => plain_of_mem_map fun u => u.plain_json.mono (by decide),
      fun _ => plain_of_mem_map Group.plain_json,
      fun _ => plain_of_mem_map fun a => a.plain_json.mono (by decide),
      fun _ => plain_of_mem_unlessEmpty plain_string,
      fun _ => plain_of_mem_map plain_string,
      fun _ => plain_of_mem_map fun r => r.plain_json.mono (by decide), by simp⟩)

end Wso2

/-! ## The other schemas -/

variable {category : Category} {data : EventData} {payload : Payload}

theorem Caep.plain_of_encode (h : Caep.encode category data = .ok payload) : Plain 2 payload.json := by
  unfold Caep.encode at h
  split at h
  · cases h
  · cases category
    case tokenRevoke =>
      cases h
      exact plain_ofFields (by
        simp only [List.forall_mem_cons]
        exact ⟨fun _ => plain_of_mem_map plain_string, by simp⟩)
    case credentialUpdate =>
      cases h
      exact plain_ofFields (by
        simp only [List.forall_mem_cons]
        exact ⟨by simp [plain_string], by simp [plain_string], fun _ => plain_of_mem_map plain_string, by simp⟩)
    case loginSuccess =>
      cases h
      exact plain_ofFields (by
        simp only [List.forall_mem_cons]
        exact ⟨fun _ => plain_of_mem_unlessEmpty plain_string, by simp⟩)
    all_goals cases h

theorem Risc.plain_accountEvent (category : Category) (userId : String) :
    Plain 2 (accountEvent category userId).json :=
  plain_ofFields (by
    simp only [List.forall_mem_cons]
    refine ⟨by simp [SubjectId.plain_json], fun v hv => ?_, by simp⟩
    split at hv
    · cases hv
      exact plain_string _
    · cases hv)

/-- The payloads of the standard encoders hold no float and nest six deep at most. -/
theorem Schema.plain_payload {config : Configuration} {schema : Schema}
    (h : schema.payload config category data = .ok payload) : Plain 6 payload.json := by
  cases schema with
  | wso2 =>
    obtain ⟨document, -, rfl⟩ := Wso2.exists_of_encode h
    exact document.plain_json
  | caep => exact (Caep.plain_of_encode h).mono (by decide)
  | risc =>
    obtain ⟨id, -, rfl⟩ := Risc.exists_of_encode h
    exact (Risc.plain_accountEvent category id).mono (by decide)

end SecurityEvents
