import FactGuard.Main
import FactGuard.Proofs.Command.AgentCheck
import FactGuard.Proofs.Command.GuardCheck
import FactGuard.Proofs.Command.Session
import FactGuard.Proofs.Eligibility.Agreement
import FactGuard.Proofs.Eligibility.Deletion
import FactGuard.Proofs.Fact.Merge
import FactGuard.Proofs.Fact.Ordering
import FactGuard.Proofs.Guard.Domain
import FactGuard.Proofs.Guard.Growth
import FactGuard.Proofs.Guard.Places
import FactGuard.Proofs.Guard.Registration
import FactGuard.Proofs.Guard.Questions
import FactGuard.Proofs.Guard.Verdict
import FactGuard.Proofs.Guard.Wording
import FactGuard.Proofs.Guard.Unambiguity
import FactGuard.Proofs.Guard.StrictPreview
import FactGuard.Proofs.Json.Record
import FactGuard.Proofs.Agent.Storage
import FactGuard.Proofs.Agent.Soundness
import FactGuard.Proofs.Agent.Editing
import FactGuard.Proofs.Fact.Bookkeeping
import FactGuard.Proofs.Eligibility.Trail
import FactGuard.Proofs.Config.Layers
import FactGuard.Proofs.Config.Attribution
import FactGuard.Proofs.Eligibility.Usability
import FactGuard.Proofs.Guard.Rearrangement
import FactGuard.Proofs.Fact.Paths
import FactGuard.Proofs.Config.Substitution
import FactGuard.Proofs.Config.Loading
