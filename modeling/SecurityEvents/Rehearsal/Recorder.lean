import SecurityEvents.Publication.Basic
set_option autoImplicit false

/-!
# A recording publisher

For trying out a dispatcher: the publisher records what it takes, and counts how often it is asked. It can
be told not to take anything for some profiles, and to fail for others.
-/

namespace SecurityEvents

/-- How a publisher fails that was told to. -/
inductive Failure where
  | error (e : PublishError)
  | panic (p : Panic)
  deriving DecidableEq, Repr

/-- What a recording publisher was told and what it has seen. -/
structure Recorder where
  /-- The profiles that nothing is taken for. -/
  disabled : List String := []
  /-- The profiles that it fails for. -/
  failing : List (String × Failure) := []
  /-- How often it was asked. -/
  asked : Nat := 0
  /-- What it took, in order. -/
  record : List Published := []

namespace Recorder

/-- The recorder as a publisher. -/
def publisher : Publisher Recorder where
  accepts context := do
    let r ← Act.state
    Act.setState { r with asked := r.asked + 1 }
    return !r.disabled.contains context.profileName
  publish token context := do
    let r ← Act.state
    match r.failing.lookup context.profileName with
    | some (.error e) => return .error e
    | some (.panic p) => Act.panic p
    | none =>
      Act.setState { r with record := r.record ++ [⟨token, context⟩] }
      return .ok ()

/-- The recorder with an empty record. -/
def cleared (r : Recorder) : Recorder :=
  { r with record := [] }

end Recorder

end SecurityEvents
