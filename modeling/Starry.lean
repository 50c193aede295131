import Starry.Activation.Capacity
import Starry.Activation.Revocation
import Starry.Quality.Index
import Starry.Quality.Stages
import Starry.Quality.Sources
import Starry.Quality.Retry
import Starry.FastMedia.Expiry
import Starry.FastRelay.Drain
import Starry.ConfigStore.Refusal
import Starry.Hbbr.Meeting
import Starry.RelayObserver.Selection
import Starry.RelayObserver.Pool
import Starry.Reload.Convergence
import Starry.Reload.Recovery
import Starry.Enrollment.Relay
import Starry.Enrollment.Expiry
import Starry.Hbbr.Replay
import Starry.Hbbr.Load
import Starry.RelayHealth.Cycles
import Starry.RelayHealth.Failures
import Starry.Routing.Exclusive
import Starry.Routing.Liveness
import Starry.Rendezvous.Refusal
import Starry.Rendezvous.Dispatch
import Starry.SecureTcp.Reflection
import Starry.FastMedia.Replay
import Starry.FastMedia.Bounds
import Starry.Activation.Burst
import Starry.Quality.Reasons
import Starry.Quality.Deadlines
import Starry.Quality.Scores
import Starry.ConfigStore.Abandoned
import Starry.ConfigStore.Full
import Starry.ConfigStore.Revisions
import Starry.ConfigStore.Risk
import Starry.ConnectionAuth.Freshness
import Starry.ConnectionAuth.Revocation
import Starry.ConnectionAuth.Enforcement
import Starry.Config.Document
import Starry.Downgrade.Export
import Starry.Downgrade.Lowered
import Starry.Downgrade.Meaning
import Starry.Pairing.Rotation
import Starry.Pairing.Mounts
import Starry.Routing.Draining
import Starry.Rendezvous.PunchHole
import Starry.Routing.Registrations
import Starry.Routing.Writer
import Starry.GeoRelay.Quoting
import Starry.GeoRelay.Rules
import Starry.LocalControl.Exchange
import Starry.ControlAgent.InstanceId
import Starry.ControlAgent.Rates
import Starry.Quality.Offers
import Starry.Telemetry.Agreement
