import Reattempt.Binary64.Bits
import Reattempt.Breaker.Text
import Reattempt.Document.Spans
import Reattempt.Engine.Immediate
import Reattempt.Engine.Pooled
import Reattempt.Engine.Queued
import Reattempt.Engine.Text
import Reattempt.Log.Filter
import Reattempt.Metrics.Text
import Reattempt.Policy.Survey
import Reattempt.Pool.Setup
import Reattempt.Proofs.Runs
import Reattempt.Settings.Load
import Reattempt.Proofs.Custody
import Reattempt.Proofs.Settlement
import Reattempt.Proofs.ReferenceLoop
import Reattempt.Proofs.Accounting
import Reattempt.Proofs.BreakerReplay
import Reattempt.Proofs.LoopAgreement
import Reattempt.Proofs.BreakerStates
import Reattempt.Proofs.Turns
import Reattempt.Proofs.Chronicle
import Reattempt.Proofs.Cancellation
import Reattempt.Proofs.Cooldown
import Reattempt.Proofs.Handles
import Reattempt.Proofs.SuggestedWait
import Reattempt.Proofs.Likeness
import Reattempt.Proofs.Admission
import Reattempt.Proofs.QueuedAgreement
import Reattempt.Proofs.Emptying
import Reattempt.Proofs.Tales
import Reattempt.Proofs.Undisturbed
import Reattempt.Proofs.Veils
import Reattempt.Proofs.Containment
import Reattempt.Proofs.Punctuality
import Reattempt.Proofs.Loosening
import Reattempt.Proofs.Isolation
import Reattempt.Proofs.Permits
import Reattempt.Proofs.SetVariables
import Reattempt.Proofs.CommaLists
import Reattempt.Proofs.TwoRoutes
import Reattempt.Proofs.Surplus
import Reattempt.Proofs.Verdict
import Reattempt.Proofs.Draining
import Reattempt.Proofs.PoolLimits
import Reattempt.Proofs.Progression
import Reattempt.Proofs.ClosedForm
import Reattempt.Proofs.Overlay
import Reattempt.Proofs.QueueUses
import Reattempt.Proofs.FaultyReadings
import Reattempt.Proofs.TravellingSpans
import Reattempt.Proofs.Requirements
import Reattempt.Proofs.Growth
