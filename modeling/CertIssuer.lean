import CertIssuer.Main
import CertIssuer.Probe
import CertIssuer.Proofs.Settlement
import CertIssuer.Proofs.WriteOnce
import CertIssuer.Simulation.Cluster
import CertIssuer.Simulation.Script
import CertIssuer.Proofs.Answers
import CertIssuer.Proofs.Endings
import CertIssuer.Proofs.Verification
import CertIssuer.Proofs.SigningGate
import CertIssuer.Proofs.Correspondence
import CertIssuer.Proofs.History
import CertIssuer.Proofs.SignedOnce
import CertIssuer.Proofs.Recovery
import CertIssuer.Proofs.Isolation
import CertIssuer.Proofs.Issuers
import CertIssuer.Proofs.Resolution
import CertIssuer.Proofs.LostUpdates
import CertIssuer.Proofs.Base64
import CertIssuer.Proofs.MergePatch
import CertIssuer.Proofs.StatusPatch
import CertIssuer.Proofs.Issuance
import CertIssuer.Proofs.RoundTrips
import CertIssuer.Proofs.Requeues
import CertIssuer.Proofs.Confidentiality
import CertIssuer.Proofs.Ledger
import CertIssuer.Proofs.Frame
import CertIssuer.Proofs.Redelivery
import CertIssuer.Proofs.Independence
import CertIssuer.Proofs.AtomicUpdates
import CertIssuer.Proofs.Responses
import CertIssuer.Proofs.SentRequest
import CertIssuer.Proofs.LifetimeMatches
import CertIssuer.Proofs.WholeLifetimes
import CertIssuer.Proofs.ServiceKeys
import CertIssuer.Proofs.RetryDates
import CertIssuer.Proofs.Waits
