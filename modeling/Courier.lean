import Courier.Address.Translate
import Courier.Assembly.Service
import Courier.Cli.Run
import Courier.Condition
import Courier.Filler
import Courier.Main
import Courier.Pipeline.Layers
import Courier.Pipeline.Resolver
import Courier.Template
import Courier.Transport.Webhook
import Courier.Json.Reader
import Courier.Proofs.Stacking
import Courier.Proofs.Passage
import Courier.Proofs.Dispatch
import Courier.Proofs.Precedence
import Courier.Proofs.Trimming
import Courier.Proofs.Decision
import Courier.Proofs.Shapes
import Courier.Proofs.Addressed
import Courier.Proofs.Assembled
import Courier.Proofs.Routing
import Courier.Proofs.Ownership
import Courier.Proofs.Checked
import Courier.Proofs.Rehearsal
import Courier.Proofs.Resubmission
import Courier.Proofs.Separation
import Courier.Proofs.Reclassification
import Courier.Proofs.Collision
import Courier.Proofs.Punctuation
import Courier.Proofs.Admission
import Courier.Proofs.Refusal
import Courier.Proofs.Finality
import Courier.Proofs.Completion
import Courier.Proofs.Bindings
import Courier.Proofs.Flattening
import Courier.Proofs.Enumeration
import Courier.Proofs.Printout
import Courier.Proofs.Ledger
import Courier.Proofs.Discretion
import Courier.Proofs.Conjunction
import Courier.Proofs.Credential
import Courier.Proofs.Redaction
import Courier.Proofs.Secrecy
import Courier.Proofs.Document
import Courier.Proofs.Written
import Courier.Proofs.Rereading
import Courier.Proofs.Recovery
