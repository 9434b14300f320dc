import SecurityEvents.Dispatch.FanOut
import SecurityEvents.Firing
import SecurityEvents.Rehearsal.Session
import SecurityEvents.Rehearsal.Stamps
import SecurityEvents.Vocabulary.Standard
import SecurityEvents.Proofs.Act
import SecurityEvents.Proofs.Rehearsal
import SecurityEvents.Proofs.Dispatch.Interleaving
import SecurityEvents.Proofs.Dispatch.Decision
import SecurityEvents.Proofs.Dispatch.Announcing
import SecurityEvents.Proofs.Payload.Standard
import SecurityEvents.Proofs.Payload.Subject
import SecurityEvents.Proofs.Classification
import SecurityEvents.Proofs.Handling
import SecurityEvents.Proofs.Dispatch.Handover
import SecurityEvents.Proofs.Dispatch.Logged
import SecurityEvents.Proofs.Firing
import SecurityEvents.Proofs.Containment
import SecurityEvents.Proofs.Exclusivity
import SecurityEvents.Proofs.HandlerTable
import SecurityEvents.Proofs.Json.Quoting
import SecurityEvents.Proofs.Json.RoundTrip
import SecurityEvents.Proofs.Token.Document
import SecurityEvents.Proofs.Payload.Plain
import SecurityEvents.Proofs.Token.RoundTrip
import SecurityEvents.Proofs.Vocabulary
import SecurityEvents.Proofs.Dispatch.Stamping
import SecurityEvents.Proofs.Dispatch.Switching
import SecurityEvents.Proofs.Dispatch.Flow
import SecurityEvents.Proofs.Extraction
import SecurityEvents.Proofs.Payload.Claims
import SecurityEvents.Proofs.Payload.Requirements
import SecurityEvents.Proofs.Dispatch.Eligibility
import SecurityEvents.Proofs.Payload.Identifiers
import SecurityEvents.Proofs.Payload.Members
import SecurityEvents.Proofs.Json.Faithful
import SecurityEvents.Proofs.Documents
import SecurityEvents.Proofs.Provider.Directory
import SecurityEvents.Proofs.Configuration.Issuer
import SecurityEvents.Proofs.Dispatch.Runs
import SecurityEvents.Proofs.Dispatch.Issuers
import SecurityEvents.Proofs.Dispatch.Completion
import SecurityEvents.Proofs.Configuration.Count
import SecurityEvents.Proofs.Configuration.Loading
import SecurityEvents.Proofs.Payload.Location
import SecurityEvents.Proofs.Payload.Store
import SecurityEvents.Proofs.Dispatch.Views
