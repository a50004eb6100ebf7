import TransportStack.Proofs.Chain.Enforced
import TransportStack.Proofs.Chain.Isolation
import TransportStack.Proofs.Chain.Mirroring
import TransportStack.Proofs.Chain.Captured
import TransportStack.Proofs.Chain.Permissive
import TransportStack.Proofs.Chain.Spacing
import TransportStack.Proofs.Chain.WrittenOut
import TransportStack.Proofs.FanIn.Containment
import TransportStack.Proofs.Guarding.Absorbing
import TransportStack.Proofs.Memory.Routing
import TransportStack.Proofs.Net.HostPort
import TransportStack.Proofs.Network.Configuration
import TransportStack.Proofs.Network.Held
import TransportStack.Proofs.Network.Sessions
import TransportStack.Proofs.Paired.Integrity
import TransportStack.Proofs.Paired.Isolation
import TransportStack.Proofs.Paired.Matching
import TransportStack.Proofs.Parameters.Algebra
import TransportStack.Proofs.Redial.Honest
import TransportStack.Proofs.Rotation.Load
import TransportStack.Proofs.Rotation.Plain
import TransportStack.Proofs.Rotation.Retold
import TransportStack.Proofs.Shutdown.Complete
import TransportStack.Proofs.Signals
import TransportStack.Proofs.Single.Beneath
import TransportStack.Proofs.Tunnel.Delivery
import TransportStack.Scenario.ChainRun
import TransportStack.Scenario.DialRun
import TransportStack.Scenario.GatherRun
import TransportStack.Scenario.Minimal
import TransportStack.Scenario.ScriptRun
import TransportStack.Text.Utf8
