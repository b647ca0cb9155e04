import AdmissionGate.Main
import AdmissionGate.Session
import AdmissionGate.Proofs.Gate.Presented
import AdmissionGate.Proofs.Gate.Encoded
import AdmissionGate.Proofs.Gate.Influence
import AdmissionGate.Proofs.Gate.Run
import AdmissionGate.Proofs.Object.Framing
import AdmissionGate.Proofs.Object.Refused
import AdmissionGate.Proofs.Session
import AdmissionGate.Proofs.Check.Ending
import AdmissionGate.Proofs.Gate.Relaxed
import AdmissionGate.Proofs.Gate.Logged
import AdmissionGate.Proofs.Json.Lookup
import AdmissionGate.Proofs.Object.Model
import AdmissionGate.Proofs.Gate.Client
import AdmissionGate.Proofs.Gate.Listing
import AdmissionGate.Proofs.Gate.Verbosity
import AdmissionGate.Proofs.Gate.Denial
import AdmissionGate.Proofs.Text.Unbroken
import AdmissionGate.Proofs.Value.Key
import AdmissionGate.Proofs.Object.Message
import AdmissionGate.Proofs.Gate.Lines
