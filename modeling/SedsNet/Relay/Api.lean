import SedsNet.Relay.Transmit
import SedsNet.Router.Api

/-!
# The calls of a relay

The public functions of `src/relay_api.cpp`, as `SedsNet.Router.Api` has those of a router. `Relay.Act` is the
list of all of them, the drains round by round, and a run of a relay is a list of acts.
-/

set_option autoImplicit false

namespace SedsNet

namespace Relay

/-- The same relay over another owner. -/
def setOwner (r : Relay) (o : Owner) : Relay := { r with toOwner := o }

@[simp] theorem setOwner_toOwner (r : Relay) (o : Owner) : (r.setOwner o).toOwner = o := rfl

/-- What happens to a relay: a call, a round of a drain or of the timeouts, or the begin or end of a tx callback,
    between which the relay is called back. -/
inductive Act where
  | configure (setting : Setting)
  | announceDiscovery
  | pollDiscovery
  | rxSerializedFromSide (sideId : UInt32) (bytes : Bytes)
  | rxPacketFromSide (sideId : UInt32) (view : SedsPacketView)
  | reliableTimeouts
  | receiveNext
  | transmitNext
  | sideTx (active : Bool)
  deriving DecidableEq, Repr

section

variable (S : Schema) (Z : Codec) (E : Env)

def perform (r : Relay) : Act → Relay
  | .configure setting => r.setOwner ((r.toOwner.observe .configures).configure S E setting).2
  | .announceDiscovery => r.setOwner (Owner.queueDiscoveryPackets S E .relay r.toOwner).2
  | .pollDiscovery => r.setOwner (Owner.pollDiscovery S E .relay r.toOwner).2
  | .rxSerializedFromSide sideId bytes => (r.rxSerializedFromSide S Z E sideId bytes).2
  | .rxPacketFromSide sideId view => r.setOwner (r.toOwner.rxPacketFromSide S sideId view).2
  | .reliableTimeouts => r.setOwner (r.toOwner.doReliableTimeouts E)
  | .receiveNext => r.receiveNext S E
  | .transmitNext => (transmitNext S Z E r).2
  | .sideTx active => r.setOwner { r.toOwner with sideTxActive := active }

end

end Relay

end SedsNet
