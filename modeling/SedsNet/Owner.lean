import SedsNet.Hash
import SedsNet.Queue
import SedsNet.Topology

/-!
# The state routers and relays share

`SedsRouter` and `SedsRelay` are two structs with the same link-level members, and much of
`src/router_core.cpp` and `src/discovery.cpp` is written once, as templates over the owner, or twice
word for word. `Owner` holds those members.

What comes from outside during a call is explicit. The clock and the callbacks answer from an `Env`:
the answer to the n-th clock reading and to the n-th callback. Any behaviour of the two is such a
pair of functions. `obs` is a ghost trace: what goes to the outside world, what is passed on inside,
and which entries of the name table are used as strings. No function of the model reads it.
-/

set_option autoImplicit false

namespace SedsNet

/-! ## Constants -/

def kDiscoveryFastMs : UInt64 := 250
def kDiscoverySlowMs : UInt64 := 5000
def kDiscoveryTtlMs : UInt64 := 30000

/-! ## Result codes -/

/-- `SedsResult`; a callback may return any number. -/
abbrev SedsResult : Type := Int

def SEDS_OK : SedsResult := 0
def SEDS_SIZE_MISMATCH : SedsResult := -4
def SEDS_HANDLER_ERROR : SedsResult := -9
def SEDS_BAD_ARG : SedsResult := -10
def SEDS_DESERIALIZE : SedsResult := -13
def SEDS_IO : SedsResult := -14
def SEDS_INVALID_LINK_ID : SedsResult := -17
def SEDS_PACKET_TOO_LARGE : SedsResult := -18

/-! ## Reliable streams -/

/-- `ReliableTxState::Sent`. -/
structure Sent where
  bytes : Bytes
  lastSendMs : UInt64
  retries : UInt32
  queued : Bool
  partialAcked : Bool

structure ReliableTxState where
  nextSeq : UInt32
  sentOrder : List UInt32
  sent : Map UInt32 Sent

/-- The default-constructed state `reliable_tx[key]` makes. -/
def ReliableTxState.new : ReliableTxState := ⟨1, [], ∅⟩

/-- `ReliableRxState::Buffered`. -/
structure Buffered where
  pkt : PacketData
  wireBytes : Bytes

structure ReliableRxState where
  expectedSeq : UInt32
  lastAck : UInt32
  buffered : Map UInt32 Buffered

/-- The default-constructed state `reliable_rx[key]` makes. -/
def ReliableRxState.new : ReliableRxState := ⟨1, 0, ∅⟩

/-- `reliable_key`: one stream for each side and type. -/
def reliableKey (sideId : Int32) (ty : UInt32) : UInt64 :=
  (sideId.toUInt32.toUInt64 <<< 32) ||| ty.toUInt64

/-! ## Sides, memory, tuning -/

/-- The members of `Side` that routing reads; a callback is installed or null. -/
structure Side where
  name : Bytes
  serializedTx : Bool
  packetTx : Bool
  reliableEnabled : Bool
  linkLocalEnabled : Bool
  ingressEnabled : Bool
  egressEnabled : Bool
  deriving DecidableEq, Repr, Inhabited

/-- The side `seds_router_add_side_serialized` and `seds_relay_add_side_serialized` push. -/
def Side.serialized (name : Bytes) (reliableEnabled : Bool) : Side :=
  ⟨name, true, false, reliableEnabled, false, true, true⟩

/-- `SedsRuntimeTuningConfig`, as the `runtime_*` accessors give it. -/
structure Tuning where
  maxHandlerRetries : Nat
  reliableRetransmitMs : UInt32
  reliableMaxRetries : UInt32
  reliableMaxPending : Nat
  reliableMaxReturnRoutes : Nat
  reliableMaxEndToEndPending : Nat
  reliableMaxEndToEndAckCache : Nat
  staticStringLength : Nat
  staticHexLength : Nat
  deriving DecidableEq, Repr, Inhabited

/-- The defaults of `internal.hpp`. -/
def Tuning.default : Tuning := ⟨3, 200, 8, 32, 128, 32, 128, 1024, 1024⟩

/-- `validate_payload`: the length fits the type. -/
def validatePayload (S : Schema) (tuning : Tuning) (ty : UInt32) (bytes : Nat) : Bool :=
  let info := S.typeAt ty.toNat
  if !S.validType ty then false
  else if !info.dynamic then bytes == info.elemSize * info.staticCount % 2 ^ 64
  else
    match info.dataType with
    | .String => decide (bytes ≤ tuning.staticStringLength)
    | .Binary => decide (bytes ≤ tuning.staticHexLength)
    | .NoData => bytes == 0
    | _ => info.elemSize != 0 && bytes % info.elemSize == 0

/-- The members of `SedsRuntimeMemoryConfig` that bound the queues and the recent-id window. -/
structure Memory where
  maxQueueBudget : UInt64
  maxRecentRxIds : Nat
  deriving DecidableEq, Repr, Inhabited

/-- `default_runtime_memory_config()`. -/
def Memory.default : Memory := ⟨1024 * 100, 128⟩

/-! ## Route control -/

/-- `SedsRouteSelectionMode`. -/
inductive RouteSelectionMode where
  | Fanout | Weighted | Failover
  deriving DecidableEq, Repr, Inhabited

structure RoutePolicy where
  mode : RouteSelectionMode
  weights : Map Int32 UInt32
  priorities : Map Int32 UInt32
  rrCounter : UInt64

def RoutePolicy.new : RoutePolicy := ⟨.Fanout, ∅, ∅, 0⟩

/-! ## Environment and trace -/

structure Env where
  clock : Nat → UInt64
  callback : Nat → SedsResult

/-- A stopped clock, and callbacks that succeed. -/
def Env.calm : Env := ⟨fun _ => 0, fun _ => SEDS_OK⟩

/-- What an owner does that others can see, or that the model keeps a record of. -/
inductive Obs where
  /-- `serialized_tx` of the side is called with these bytes. -/
  | transmit (sideId : Int32) (bytes : Bytes)
  /-- `packet_tx` of the side is called with a view of this packet. -/
  | packetTx (sideId : Int32) (pkt : PacketData)
  /-- The packet handler of a local endpoint is called; `i` is its place in `locals`. -/
  | packetHandler (i : Nat) (pkt : PacketData)
  /-- The serialized handler of a local endpoint is called. -/
  | serializedHandler (i : Nat) (bytes : Bytes)
  /-- A managed-variable callback is called. -/
  | managedVariable (ty : UInt32) (pkt : PacketData)
  /-- A handler bound to a peer-to-peer port is called with a datagram. -/
  | datagram (port : UInt16) (source : Bytes) (payload : Bytes)
  /-- A stream handler bound to a peer-to-peer port is called with an event of this kind. -/
  | streamEvent (port : UInt16) (kind : UInt8) (streamId : UInt32) (payload : Bytes)
  /-- A packet is handed to `router_receive_impl` or `relay_receive_impl`. -/
  | receive (item : RxItem)
  /-- An item is turned away by `rx_queue`, or evicted from it. -/
  | lost (item : RxItem)
  /-- `packet_id` or `source_packet_id` runs over these entries of `kEndpointNames`; `none` is an id
      past the end of the table, `some none` a null pointer. -/
  | hash (names : List (Option (Option String)))
  /-- `local_endpoint_id` compares these entries of `kEndpointNames`. -/
  | compare (names : List (Option (Option String)))
  /-- The next number of a stream is given to a frame. -/
  | number (sideId : Int32) (ty : UInt32) (seq : UInt32) (bytes : Bytes)
  /-- A control packet about a stream goes to the transmit queue. -/
  | control (controlTy : UInt32) (sideId : Int32) (ty : UInt32) (seq : UInt32)
  /-- A queued packet is about to go to the callback of the side. -/
  | sends (sideId : Int32) (item : TxItem)
  /-- A packet id enters the window of recent ids. -/
  | remember (id : UInt64)
  /-- A packet of ours gets an entry among those sent end to end. -/
  | tracks (id : UInt64)
  /-- A packet of ours is queued again by an end-to-end timeout. -/
  | requeues (id : UInt64)
  /-- An announcement is heard, at this reading of the clock. -/
  | hears (read : Nat) (now : UInt64)
  /-- A call changes the configuration. -/
  | configures
  deriving DecidableEq, Repr

structure Owner where
  sides : List Side
  memory : Memory
  tuning : Tuning
  /-- `control_sender(owner)`: the router's sender, or `RELAY`. -/
  controlSender : Bytes
  txQueue : Bounded TxItem
  rxQueue : Bounded RxItem
  reliableReleasedRx : List RxItem
  recentIds : List UInt64
  recentSet : Finset UInt64
  discoveryRoutes : Map Int32 DiscoveryRoute
  discoveryIntervalMs : UInt64
  discoveryNextMs : UInt64
  localPolicy : RoutePolicy
  sourcePolicy : Map Int32 RoutePolicy
  routeOverrides : Map (Int32 × Int32) Bool
  typedRouteOverrides : Map (Int32 × UInt32 × Int32) Bool
  reliableTx : Map UInt64 ReliableTxState
  reliableRx : Map UInt64 ReliableRxState
  /-- `ReliableReturnRouteState` has one member, the side. -/
  reliableReturnRoutes : Map UInt64 Int32
  reliableReturnRouteOrder : List UInt64
  sideTxActive : Bool
  sideTxDeferred : Bool
  clockReads : Nat
  calls : Nat
  obs : List Obs
  /-- A ghost, like `obs`: the most bytes that ever were in the two queues at one time, counting the item
      that was about to be queued. -/
  peak : Nat

namespace Owner

/-- A new router or relay with these sides, at the default configuration. -/
def new (controlSender : Bytes) (sides : List Side) : Owner where
  sides := sides
  memory := .default
  tuning := .default
  controlSender := controlSender
  txQueue := ⟨[], 0, false⟩
  rxQueue := ⟨[], 0, false⟩
  reliableReleasedRx := []
  recentIds := []
  recentSet := ∅
  discoveryRoutes := ∅
  discoveryIntervalMs := kDiscoveryFastMs
  discoveryNextMs := 0
  localPolicy := .new
  sourcePolicy := ∅
  routeOverrides := ∅
  typedRouteOverrides := ∅
  reliableTx := ∅
  reliableRx := ∅
  reliableReturnRoutes := ∅
  reliableReturnRouteOrder := []
  sideTxActive := false
  sideTxDeferred := false
  clockReads := 0
  calls := 0
  obs := []
  peak := 0

/-- `side_id < 0 || side_id >= sides.size()`, or the side. -/
def sideAt (o : Owner) (sideId : Int32) : Option Side :=
  if sideId < 0 then none else o.sides[sideId.toNatClampNeg]?

def observe (o : Owner) (e : Obs) : Owner := { o with obs := o.obs ++ [e] }

/-- `now_ms()`. -/
def nowMs (E : Env) (o : Owner) : UInt64 × Owner :=
  (E.clock o.clockReads, { o with clockReads := o.clockReads + 1 })

/-- A callback is called; `e` says which one, and with what. -/
def call (E : Env) (o : Owner) (e : Obs) : SedsResult × Owner :=
  (E.callback o.calls, { o.observe e with calls := o.calls + 1 })

/-- `call_serialized_tx`: a transmission started from inside another one is deferred. -/
def callSerializedTx (E : Env) (o : Owner) (sideId : Int32) (bytes : Bytes) : SedsResult × Owner :=
  if o.sideTxActive then ( SEDS_IO, { o with sideTxDeferred := true })
  else o.call E (.transmit sideId bytes)

/-- The bytes in the two queues. -/
def load (o : Owner) : Nat := totalCost TxItem.byteCost o.txQueue.items + totalCost RxItem.byteCost o.rxQueue.items

/-- `enqueue_tx` and `enqueue_tx_front` on the owner's queue and budget, with the result dropped. -/
def enqueueTxAt (front : Bool) (o : Owner) (item : TxItem) : Owner :=
  match enqueueBounded TxItem.byteCost o.txQueue item front o.memory.maxQueueBudget with
  | some queue => { o with txQueue := queue, peak := max o.peak (o.load + item.byteCost.toNat) }
  | none => o

def enqueueTx (o : Owner) (item : TxItem) : Owner := o.enqueueTxAt false item

def enqueueTxFront (o : Owner) (item : TxItem) : Owner := o.enqueueTxAt true item

/-- `enqueue_rx` and `enqueue_rx_front` on the owner's queue and budget. -/
def enqueueRxAt (front : Bool) (o : Owner) (item : RxItem) : Bool × Owner :=
  match enqueueBounded RxItem.byteCost o.rxQueue item front o.memory.maxQueueBudget with
  | some queue =>
    let gone := evicted RxItem.byteCost item.byteCost o.memory.maxQueueBudget o.rxQueue.items o.rxQueue.bytes
    (true, { o with rxQueue := queue, obs := o.obs ++ gone.map .lost,
                    peak := max o.peak (o.load + item.byteCost.toNat) })
  | none => (false, o.observe (.lost item))

def enqueueRx (o : Owner) (item : RxItem) : Bool × Owner := o.enqueueRxAt false item

def enqueueRxFront (o : Owner) (item : RxItem) : Bool × Owner := o.enqueueRxAt true item

/-- `packet_id`, on record. -/
def packetId (S : Schema) (o : Owner) (pkt : PacketData) : UInt64 × Owner :=
  (SedsNet.packetId S pkt, o.observe (.hash (pkt.endpoints.map fun ep => S.kEndpointNames[ep.toNat]?)))

/-- `source_packet_id`, on record. Past the end of `kTypeInfo` it is `packet_id`. -/
def sourcePacketId (S : Schema) (o : Owner) (pkt : PacketData) : UInt64 × Owner :=
  let endpoints := if pkt.ty.toNat ≥ S.kTypeInfo.length then pkt.endpoints else sourceEndpoints S pkt
  (SedsNet.sourcePacketId S pkt, o.observe (.hash (endpoints.map fun ep => S.kEndpointNames[ep.toNat]?)))

/-- `push_recent`. -/
def pushRecent (o : Owner) (id : UInt64) : Owner :=
  if id ∈ o.recentSet then o
  else
    let o :=
      if o.recentIds.length ≥ o.memory.maxRecentRxIds then
        { o with recentSet := o.recentSet.erase (o.recentIds.headD 0), recentIds := o.recentIds.tail }
      else o
    { o with recentIds := o.recentIds ++ [id], recentSet := insert id o.recentSet }.observe (.remember id)

end Owner

/-! ## Stream keys -/

/-- The key as a number: the side's 32 bits above the type's. -/
theorem toNat_reliableKey (s : Int32) (ty : UInt32) :
    (reliableKey s ty).toNat = s.toUInt32.toNat * 2 ^ 32 + ty.toNat := by
  have hs := s.toUInt32.toNat_lt
  have hty := ty.toNat_lt
  unfold reliableKey
  rw [UInt64.toNat_or, UInt64.toNat_shiftLeft, UInt32.toNat_toUInt64, UInt32.toNat_toUInt64,
    show (32 : UInt64).toNat % 64 = 32 from rfl,
    Nat.mod_eq_of_lt (by rw [Nat.shiftLeft_eq]; omega), ← Nat.shiftLeft_add_eq_or_of_lt hty, Nat.shiftLeft_eq]

/-- A key names its side and its type. -/
theorem reliableKey_inj {s t : Int32} {ty ty' : UInt32} :
    reliableKey s ty = reliableKey t ty' ↔ s = t ∧ ty = ty' := by
  constructor
  · intro h
    have hnum := congrArg UInt64.toNat h
    rw [toNat_reliableKey, toNat_reliableKey] at hnum
    have hty := ty.toNat_lt
    have hty' := ty'.toNat_lt
    have hside : s.toUInt32 = t.toUInt32 := UInt32.toNat_inj.mp (by omega)
    exact ⟨Int32.toBitVec_inj.mp (congrArg UInt32.toBitVec hside), UInt32.toNat_inj.mp (by omega)⟩
  · rintro ⟨rfl, rfl⟩
    rfl

end SedsNet
