import Gatehouse.Session
import Gatehouse.Settings.Load
import Gatehouse.Update.Diagnostic
import Gatehouse.Proofs.Acceptance
import Gatehouse.Proofs.Defaults
import Gatehouse.Proofs.Gate.Disturbance
import Gatehouse.Proofs.Gate.Exchanges
import Gatehouse.Proofs.Gate.Failures
import Gatehouse.Proofs.Gate.FirstCookie
import Gatehouse.Proofs.Gate.Forwarding
import Gatehouse.Proofs.Gate.Named
import Gatehouse.Proofs.Gate.Precedence
import Gatehouse.Proofs.Gate.Privilege
import Gatehouse.Proofs.Gate.Protection
import Gatehouse.Proofs.Gate.Pushed
import Gatehouse.Proofs.Gate.Recognition
import Gatehouse.Proofs.Gate.Scheme
import Gatehouse.Proofs.Gate.Secrecy
import Gatehouse.Proofs.Gate.Usable
import Gatehouse.Proofs.Metrics
import Gatehouse.Proofs.Redaction
import Gatehouse.Proofs.Refresh
import Gatehouse.Proofs.Violation
import Gatehouse.Proofs.Wire
