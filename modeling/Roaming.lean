import Roaming.Config.Load
import Roaming.Proofs.Adoptions
import Roaming.Proofs.ApprovedLinks
import Roaming.Proofs.AssociationTrace
import Roaming.Proofs.Attachment
import Roaming.Proofs.BasicRates
import Roaming.Proofs.BeaconDecision
import Roaming.Proofs.Cadence
import Roaming.Proofs.Candidates
import Roaming.Proofs.ClockEvents
import Roaming.Proofs.ConfigText
import Roaming.Proofs.DataPlane
import Roaming.Proofs.Declining
import Roaming.Proofs.Dispatch
import Roaming.Proofs.DroppedBeacons
import Roaming.Proofs.EventQueue
import Roaming.Proofs.FollowedLink
import Roaming.Proofs.Handover
import Roaming.Proofs.Handshake
import Roaming.Proofs.Identity
import Roaming.Proofs.IdleParties
import Roaming.Proofs.LinkReports
import Roaming.Proofs.Losses
import Roaming.Proofs.MissingAddress
import Roaming.Proofs.Negotiation
import Roaming.Proofs.PhaseTimeouts
import Roaming.Proofs.Probing
import Roaming.Proofs.Ranking
import Roaming.Proofs.Refusal
import Roaming.Proofs.Rejection
import Roaming.Proofs.Run
import Roaming.Proofs.SapMirror
import Roaming.Proofs.Selectors
import Roaming.Proofs.SessionRun
import Roaming.Proofs.SharedTimers
import Roaming.Proofs.SlotTime
import Roaming.Proofs.Support
import Roaming.Proofs.Transmission
import Roaming.Proofs.Watchdog
import Roaming.Session
import Roaming.Proofs.Validation
import Roaming.Proofs.MeasurementSlots
