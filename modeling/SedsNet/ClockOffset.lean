import SedsNet.Calendar
import SedsNet.Network
import SedsNet.Skew

/-!
# Reckoning the time from an exchange

The header for clients builds and reads the packets of time sync, and reckons from the four readings of an exchange how far the
server is ahead. Nothing in an exchange tells the way there from the way back, so the reckoning takes them for equal: it is off by
half of what they differ by, and by the rounding of that half, and no more (`Exchange.Reckoned`).

An exchange here is the four readings together with the delays that explain them. One end of it is the router: what it answers to
a request that a client built is read by the client's own reader, and says when the request came and when the answer left.
-/

set_option autoImplicit false

namespace SedsNet

open Router

/-! ## The packets -/

/-- An array of `uint64_t` in memory. -/
def le64s (values : List UInt64) : Bytes := values.flatMap appendLe64

/-- The constructor of `Packet`, which throws where this is `none`. -/
def newPacket (S : Schema) (tuning : Tuning) (ty : UInt32) (endpoints : List UInt32) (sender : Bytes) (timestamp : UInt64)
    (payload : Bytes) : Option PacketData :=
  if !S.validType ty || endpoints.isEmpty || !validatePayload S tuning ty payload.length then none
  else some ⟨ty, sender, endpoints, timestamp, payload⟩

structure TimeSyncAnnounceFields where
  priority : UInt64
  timeMs : UInt64
  deriving DecidableEq

structure TimeSyncRequestFields where
  seq : UInt64
  t1Ms : UInt64
  deriving DecidableEq

structure TimeSyncResponseFields where
  seq : UInt64
  t1Ms : UInt64
  t2Ms : UInt64
  t3Ms : UInt64
  deriving DecidableEq

structure TimeSyncSample where
  offsetMs : Int64
  delayMs : UInt64
  deriving DecidableEq

section

variable (S : Schema) (tuning : Tuning)

def buildTimesyncAnnounce (sender : Bytes) (timestampMs priority timeMs : UInt64) : Option PacketData :=
  newPacket S tuning SEDS_DT_TIME_SYNC_ANNOUNCE [SEDS_EP_TIME_SYNC] sender timestampMs (le64s [priority, timeMs])

def buildTimesyncRequest (sender : Bytes) (timestampMs seq t1Ms : UInt64) : Option PacketData :=
  newPacket S tuning SEDS_DT_TIME_SYNC_REQUEST [SEDS_EP_TIME_SYNC] sender timestampMs (le64s [seq, t1Ms])

def buildTimesyncResponse (sender : Bytes) (timestampMs seq t1Ms t2Ms t3Ms : UInt64) : Option PacketData :=
  newPacket S tuning SEDS_DT_TIME_SYNC_RESPONSE [SEDS_EP_TIME_SYNC] sender timestampMs (le64s [seq, t1Ms, t2Ms, t3Ms])

end

/-- The readers throw where these are `none`. -/
def decodeTimesyncAnnounce (pkt : PacketData) : Option TimeSyncAnnounceFields :=
  if pkt.ty ≠ SEDS_DT_TIME_SYNC_ANNOUNCE ∨ pkt.payload.length ≠ 8 * 2 then none
  else some ⟨loadLe64 pkt.payload 0, loadLe64 pkt.payload 8⟩

def decodeTimesyncRequest (pkt : PacketData) : Option TimeSyncRequestFields :=
  if pkt.ty ≠ SEDS_DT_TIME_SYNC_REQUEST ∨ pkt.payload.length ≠ 8 * 2 then none
  else some ⟨loadLe64 pkt.payload 0, loadLe64 pkt.payload 8⟩

def decodeTimesyncResponse (pkt : PacketData) : Option TimeSyncResponseFields :=
  if pkt.ty ≠ SEDS_DT_TIME_SYNC_RESPONSE ∨ pkt.payload.length ≠ 8 * 4 then none
  else some ⟨loadLe64 pkt.payload 0, loadLe64 pkt.payload 8, loadLe64 pkt.payload 16, loadLe64 pkt.payload 24⟩

/-! ## The reckoning -/

/-- `compute_offset_delay`; `none` where a signed operation overflows. -/
def computeOffsetDelay (t1Ms t2Ms t3Ms t4Ms : UInt64) : Option TimeSyncSample := do
  let t1 := t1Ms.toInt64.toInt
  let t2 := t2Ms.toInt64.toInt
  let t3 := t3Ms.toInt64.toInt
  let t4 := t4Ms.toInt64.toInt
  let there ← signed 64 (t2 - t1)
  let back ← signed 64 (t3 - t4)
  let twice ← signed 64 (there + back)
  let offset := twice.tdiv 2
  let whole ← signed 64 (t4 - t1)
  let held ← signed 64 (t3 - t2)
  let delay ← signed 64 (whole - held)
  return ⟨Int64.ofInt offset, if delay < 0 then 0 else (Int64.ofInt delay).toUInt64⟩

/-- `estimate_network_time`: the time now, and the delay of one way. -/
def estimateNetworkTime (t1Ms t4Ms t2NetworkMs t3NetworkMs : UInt64) : UInt64 × UInt64 :=
  let roundTrip := if t4Ms ≥ t1Ms then t4Ms - t1Ms else 0
  let serverProcessing := if t3NetworkMs ≥ t2NetworkMs then t3NetworkMs - t2NetworkMs else 0
  let oneWayDelay := if roundTrip ≥ serverProcessing then (roundTrip - serverProcessing) / 2 else 0
  (t3NetworkMs + oneWayDelay, oneWayDelay)

/-- The four readings of an exchange, of which the client makes the first and the last, and what lies between them. The server is
    `ahead` of the client. No reading is beyond a quarter of what a word holds. -/
structure Exchange where
  t1 : UInt64
  t2 : UInt64
  t3 : UInt64
  t4 : UInt64
  ahead : Int
  out : Nat
  processing : Nat
  back : Nat
  arrives : (t2.toNat : Int) = t1.toNat + out + ahead
  answers : t3.toNat = t2.toNat + processing
  returns : t4.toNat = t1.toNat + out + processing + back
  small : t3.toNat < 2 ^ 62 ∧ t4.toNat < 2 ^ 62

namespace Exchange

/-- By how much the two ways differ. -/
def unlike (x : Exchange) : Nat := ((x.out : Int) - x.back).natAbs

/-- What the client makes of the answer: the delays are right, and the offset and the time now are off by half of what the two ways
    differ by, rounded up. The two reckonings agree but for the rounding. -/
structure Reckoned (x : Exchange) (time oneWay : UInt64) (sample : TimeSyncSample) : Prop where
  delay : sample.delayMs.toNat = x.out + x.back
  oneWay : oneWay.toNat = (x.out + x.back) / 2
  offset : (2 * (sample.offsetMs.toInt - x.ahead)).natAbs ≤ x.unlike + 1
  now : (2 * ((time.toNat : Int) - (x.t4.toNat + x.ahead))).natAbs ≤ x.unlike + 1
  agree : ((time.toNat : Int) - (x.t4.toNat + sample.offsetMs.toInt)).natAbs ≤ 1

end Exchange

section

/-- Division that rounds to zero is off by less than one. -/
theorem two_mul_tdiv_two (a : Int) : -1 ≤ 2 * a.tdiv 2 - a ∧ 2 * a.tdiv 2 - a ≤ 1 := by
  have hrest : 2 * a.tdiv 2 + a.tmod 2 = a := Int.mul_tdiv_add_tmod a 2
  have hlow : -1 ≤ a.tmod 2 := by
    have := Int.lt_tmod_of_pos a (b := 2) (by decide)
    omega
  have hhigh : a.tmod 2 < 2 := Int.tmod_lt_of_pos a (by decide)
  omega

theorem toInt_toInt64 {t : UInt64} (h : t.toNat < 2 ^ 63) : t.toInt64.toInt = t.toNat := by
  have ht : t = UInt64.ofNat t.toNat := by simp
  rw [ht, UInt64.toInt64_ofNat', Int64.toInt_ofNat_of_lt h]
  simp

/-- A reading of the client's and one of the server's, taken together: twice the offset. -/
theorem Exchange.twice (x : Exchange) :
    ((x.t2.toNat : Int) - x.t1.toNat) + (x.t3.toNat - x.t4.toNat) = 2 * x.ahead + (x.out - x.back) := by
  have harrives := x.arrives
  have hanswers := x.answers
  have hreturns := x.returns
  omega

theorem Exchange.whole (x : Exchange) : ((x.t4.toNat : Int) - x.t1.toNat) - (x.t3.toNat - x.t2.toNat) = x.out + x.back := by
  have harrives := x.arrives
  have hanswers := x.answers
  have hreturns := x.returns
  omega

/-- The signed operations of a reckoning stay within a word. -/
theorem Exchange.computeOffsetDelay_eq (x : Exchange) :
    computeOffsetDelay x.t1 x.t2 x.t3 x.t4 =
      some ⟨Int64.ofInt ((2 * x.ahead + ((x.out : Int) - x.back)).tdiv 2), UInt64.ofNat (x.out + x.back)⟩ := by
  have harrives := x.arrives
  have hanswers := x.answers
  have hreturns := x.returns
  have hsmall := x.small
  have hwhole : ((x.out : Int) + x.back) = ((x.out + x.back : Nat) : Int) := by omega
  unfold computeOffsetDelay
  dsimp only
  rw [toInt_toInt64 (by omega), toInt_toInt64 (by omega), toInt_toInt64 (by omega), toInt_toInt64 (by omega),
    signed_of_mem (by omega) (by omega), signed_of_mem (by omega) (by omega)]
  simp only [Option.bind_eq_bind, Option.bind_some]
  rw [x.twice, signed_of_mem (by omega) (by omega), signed_of_mem (by omega) (by omega), signed_of_mem (by omega) (by omega)]
  simp only [Option.bind_some]
  rw [x.whole, signed_of_mem (by omega) (by omega), hwhole]
  simp only [Option.bind_some]
  rw [if_neg (by omega), Int64.ofInt_eq_ofNat, Int64.toUInt64_ofNat']
  rfl

theorem Exchange.estimateNetworkTime_eq (x : Exchange) :
    (estimateNetworkTime x.t1 x.t4 x.t2 x.t3).1.toNat = x.t3.toNat + (x.out + x.back) / 2 ∧
      (estimateNetworkTime x.t1 x.t4 x.t2 x.t3).2.toNat = (x.out + x.back) / 2 := by
  have harrives := x.arrives
  have hanswers := x.answers
  have hreturns := x.returns
  have hsmall := x.small
  have hround : x.t4 ≥ x.t1 := by
    rw [ge_iff_le, UInt64.le_iff_toNat_le]
    omega
  have hheld : x.t3 ≥ x.t2 := by
    rw [ge_iff_le, UInt64.le_iff_toNat_le]
    omega
  have hroundTrip : (x.t4 - x.t1).toNat = x.out + x.processing + x.back := by
    rw [UInt64.toNat_sub_of_le _ _ hround]
    omega
  have hprocessing : (x.t3 - x.t2).toNat = x.processing := by
    rw [UInt64.toNat_sub_of_le _ _ hheld]
    omega
  have hmore : x.t4 - x.t1 ≥ x.t3 - x.t2 := by
    rw [ge_iff_le, UInt64.le_iff_toNat_le, hroundTrip, hprocessing]
    omega
  have hways : ((x.t4 - x.t1 - (x.t3 - x.t2)) / 2).toNat = (x.out + x.back) / 2 := by
    rw [UInt64.toNat_div, UInt64.toNat_sub_of_le _ _ hmore, hroundTrip, hprocessing]
    show (x.out + x.processing + x.back - x.processing) / 2 = (x.out + x.back) / 2
    congr 1
    omega
  unfold estimateNetworkTime
  dsimp only
  rw [if_pos hround, if_pos hheld, if_pos hmore]
  refine ⟨?_, hways⟩
  rw [UInt64.toNat_add, hways]
  omega

/-- **What a client reckons from an exchange.** -/
theorem Exchange.reckoned (x : Exchange) : ∃ sample, computeOffsetDelay x.t1 x.t2 x.t3 x.t4 = some sample ∧
    x.Reckoned (estimateNetworkTime x.t1 x.t4 x.t2 x.t3).1 (estimateNetworkTime x.t1 x.t4 x.t2 x.t3).2 sample := by
  have harrives := x.arrives
  have hanswers := x.answers
  have hreturns := x.returns
  have hsmall := x.small
  obtain ⟨htime, honeWay⟩ := x.estimateNetworkTime_eq
  refine ⟨_, x.computeOffsetDelay_eq, ?_⟩
  have hhalf := two_mul_tdiv_two (2 * x.ahead + ((x.out : Int) - x.back))
  have hoffset : (Int64.ofInt ((2 * x.ahead + ((x.out : Int) - x.back)).tdiv 2)).toInt =
      (2 * x.ahead + ((x.out : Int) - x.back)).tdiv 2 := Int64.toInt_ofInt_of_le (by omega) (by omega)
  have hdelay : (UInt64.ofNat (x.out + x.back)).toNat = x.out + x.back := UInt64.toNat_ofNat_of_lt (by show _ < 2 ^ 64; omega)
  constructor
  · exact hdelay
  · exact honeWay
  · unfold unlike
    rw [hoffset]
    omega
  · unfold unlike
    rw [htime]
    omega
  · rw [htime, hoffset]
    omega

end

/-! ## Reading what was built -/

section

variable {S : Schema} {tuning : Tuning} {sender : Bytes} {timestampMs : UInt64}

theorem length_le64s (values : List UInt64) : (le64s values).length = 8 * values.length := by
  induction values with
  | nil => rfl
  | cons v values ih =>
    show (appendLe64 v ++ le64s values).length = 8 * (values.length + 1)
    rw [List.length_append, ih]
    show 8 + 8 * values.length = _
    omega

theorem le64s_drop (values : List UInt64) (i : Nat) : (le64s values).drop (8 * i) = le64s (values.drop i) := by
  induction i generalizing values with
  | zero => rfl
  | succ i ih =>
    cases values with
    | nil => simp [le64s]
    | cons v values =>
      show (appendLe64 v ++ le64s values).drop (8 * (i + 1)) = le64s (values.drop i)
      rw [← ih values, Nat.mul_succ, Nat.add_comm (8 * i) 8, ← List.drop_drop]
      rfl

/-- The element that stands at an index is read there. -/
theorem loadLe64_le64s {values : List UInt64} {i : Nat} {v : UInt64} (h : values[i]? = some v) :
    loadLe64 (le64s values) (8 * i) = v := by
  obtain ⟨hi, hv⟩ := List.getElem?_eq_some_iff.mp h
  have hcontinues : Continues (le64s values) (8 * i) (appendLe64 v) (le64s (values.drop (i + 1))) := by
    rw [Continues, le64s_drop, List.drop_eq_getElem_cons hi, hv]
    rfl
  exact loadLe64_append v hcontinues

theorem newPacket_eq_some {ty : UInt32} {endpoints : List UInt32} {payload : Bytes} {pkt : PacketData}
    (h : newPacket S tuning ty endpoints sender timestampMs payload = some pkt) : pkt = ⟨ty, sender, endpoints, timestampMs, payload⟩ := by
  unfold newPacket at h
  split at h
  · cases h
  · exact (Option.some.inj h).symm

theorem decodeTimesyncAnnounce_build {priority timeMs : UInt64} {pkt : PacketData}
    (h : buildTimesyncAnnounce S tuning sender timestampMs priority timeMs = some pkt) :
    decodeTimesyncAnnounce pkt = some ⟨priority, timeMs⟩ := by
  rw [newPacket_eq_some h]
  show some (TimeSyncAnnounceFields.mk (loadLe64 (le64s [priority, timeMs]) (8 * 0)) (loadLe64 (le64s [priority, timeMs]) (8 * 1))) = _
  rw [loadLe64_le64s rfl, loadLe64_le64s rfl]

theorem decodeTimesyncRequest_build {seq t1Ms : UInt64} {pkt : PacketData}
    (h : buildTimesyncRequest S tuning sender timestampMs seq t1Ms = some pkt) : decodeTimesyncRequest pkt = some ⟨seq, t1Ms⟩ := by
  rw [newPacket_eq_some h]
  show some (TimeSyncRequestFields.mk (loadLe64 (le64s [seq, t1Ms]) (8 * 0)) (loadLe64 (le64s [seq, t1Ms]) (8 * 1))) = _
  rw [loadLe64_le64s rfl, loadLe64_le64s rfl]

/-- A response is read from its type and its payload, whoever made it. -/
theorem decodeTimesyncResponse_le64s {seq t1Ms t2Ms t3Ms : UInt64} {pkt : PacketData} (hty : pkt.ty = SEDS_DT_TIME_SYNC_RESPONSE)
    (hpayload : pkt.payload = le64s [seq, t1Ms, t2Ms, t3Ms]) : decodeTimesyncResponse pkt = some ⟨seq, t1Ms, t2Ms, t3Ms⟩ := by
  have hlength : ¬(pkt.ty ≠ SEDS_DT_TIME_SYNC_RESPONSE ∨ pkt.payload.length ≠ 8 * 4) := by
    rw [hty, hpayload, length_le64s]
    exact fun h => h.elim (fun h => h rfl) fun h => h rfl
  have hseq : loadLe64 pkt.payload 0 = seq := by
    rw [hpayload]
    exact loadLe64_le64s (i := 0) rfl
  have ht1 : loadLe64 pkt.payload 8 = t1Ms := by
    rw [hpayload]
    exact loadLe64_le64s (i := 1) rfl
  have ht2 : loadLe64 pkt.payload 16 = t2Ms := by
    rw [hpayload]
    exact loadLe64_le64s (i := 2) rfl
  have ht3 : loadLe64 pkt.payload 24 = t3Ms := by
    rw [hpayload]
    exact loadLe64_le64s (i := 3) rfl
  unfold decodeTimesyncResponse
  rw [if_neg hlength, hseq, ht1, ht2, ht3]

theorem decodeTimesyncResponse_build {seq t1Ms t2Ms t3Ms : UInt64} {pkt : PacketData}
    (h : buildTimesyncResponse S tuning sender timestampMs seq t1Ms t2Ms t3Ms = some pkt) :
    decodeTimesyncResponse pkt = some ⟨seq, t1Ms, t2Ms, t3Ms⟩ := by
  rw [newPacket_eq_some h]
  exact decodeTimesyncResponse_le64s rfl rfl

end

/-! ## A client and a router -/

namespace Router

variable {S : Schema} {E : Env}

/-- A router that answers requests. -/
def ServesTime (r : Router) : Prop :=
  r.timesync.enabled = true ∧ (r.timesync.role = 1 ∨ r.timesync.role = 2) ∧ r.timesync.hasNetworkTime = true

instance (r : Router) : Decidable r.ServesTime := inferInstanceAs (Decidable (_ ∧ _))

/-- The answer to a request: it states the time twice, as the clock reads then and when it is read once more. -/
def timeResponse (S : Schema) (E : Env) (r : Router) (seq t1Ms : UInt64) : PacketData :=
  makeInternalPacket S SEDS_DT_TIME_SYNC_RESPONSE (E.clock r.clockReads)
    (le64s [seq, t1Ms, r.timesync.shown (E.clock (r.clockReads + 1)), r.timesync.shown (E.clock (r.clockReads + 2))]) r.sender

theorem servesTime_iff (r : Router) :
    (r.timesync.enabled && (r.timesync.role == 1 || r.timesync.role == 2) && r.timesync.hasNetworkTime) = true ↔ r.ServesTime := by
  simp [ServesTime, and_assoc]

theorem handleTimeSyncRequest_txQueue (r : Router) (now : UInt64) (pkt : PacketData) (srcSide : Option Int32) :
    (r.handleTimeSyncRequest S E now pkt srcSide).txQueue =
      if r.ServesTime then
        (r.toOwner.enqueueTx ⟨makeInternalPacket S SEDS_DT_TIME_SYNC_RESPONSE now
          (le64s [loadLe64 pkt.payload 0, loadLe64 pkt.payload 8, r.timesync.shown (E.clock r.clockReads),
            r.timesync.shown (E.clock (r.clockReads + 1))]) r.sender, none, srcSide, false⟩).txQueue
      else r.txQueue := by
  unfold handleTimeSyncRequest
  by_cases hserves : r.ServesTime
  · have hknown : r.timesync.hasNetworkTime = true := hserves.2.2
    have hagain : (r.setOwner (r.toOwner.nowMs E).2).timesync.hasNetworkTime = true := hknown
    have hpayload : ∀ seq t1 t2 t3 : UInt64,
        appendLe64 seq ++ appendLe64 t1 ++ appendLe64 t2 ++ appendLe64 t3 = le64s [seq, t1, t2, t3] := by
      intro seq t1 t2 t3
      simp [le64s]
    rw [if_pos (r.servesTime_iff.mpr hserves), if_pos hserves, currentNetworkMs_known hknown]
    dsimp only
    rw [currentNetworkMs_known hagain, hpayload]
    apply enqueueTx_queue
    · rfl
    · rfl
  · rw [if_neg fun h => hserves (r.servesTime_iff.mp h), if_neg hserves]

/-- **A request is answered** by a router that serves time, and by no other. -/
theorem handleTimesyncPacket_request (r : Router) {tuning : Tuning} {sender : Bytes} {timestampMs seq t1Ms : UInt64}
    {request : PacketData} (hrequest : buildTimesyncRequest S tuning sender timestampMs seq t1Ms = some request)
    (srcSide : Option Int32) :
    (r.handleTimesyncPacket S E request srcSide).txQueue =
      if r.ServesTime then (r.toOwner.enqueueTx ⟨r.timeResponse S E seq t1Ms, none, srcSide, false⟩).txQueue else r.txQueue := by
  have hseq : loadLe64 (le64s [seq, t1Ms]) 0 = seq := loadLe64_le64s (i := 0) rfl
  have ht1 : loadLe64 (le64s [seq, t1Ms]) 8 = t1Ms := loadLe64_le64s (i := 1) rfl
  rw [newPacket_eq_some hrequest]
  show (handleTimeSyncRequest S E (r.setOwner (r.toOwner.nowMs E).2) (E.clock r.clockReads) _ srcSide).txQueue = _
  rw [handleTimeSyncRequest_txQueue, hseq, ht1]
  by_cases hserves : r.ServesTime
  · rw [if_pos hserves, if_pos (show (r.setOwner (r.toOwner.nowMs E).2).ServesTime from hserves)]
    apply enqueueTx_queue
    · rfl
    · rfl
  · rw [if_neg hserves, if_neg (show ¬(r.setOwner (r.toOwner.nowMs E).2).ServesTime from hserves)]
    rfl

/-- **Asking a router for the time**: what it answers to a request that the client built, and however the answer comes, the client
    reads from it its own reading and the router's two, and what it reckons from them is off by half of what the two ways differ
    by, rounded up. -/
theorem exchange_reckoned (S : Schema) (tuning : Tuning) (E : Env) (x : Exchange) (r : Router)
    (hfirst : r.timesync.shown (E.clock (r.clockReads + 1)) = x.t2) (hsecond : r.timesync.shown (E.clock (r.clockReads + 2)) = x.t3)
    (sender : Bytes) (timestampMs seq : UInt64) (srcSide : Option Int32) :
    ∀ request ∈ buildTimesyncRequest S tuning sender timestampMs seq x.t1, ∃ answer,
      (r.handleTimesyncPacket S E request srcSide).txQueue =
          (if r.ServesTime then (r.toOwner.enqueueTx ⟨answer, none, srcSide, false⟩).txQueue else r.txQueue) ∧
        ∀ pkt : PacketData, pkt.ty = answer.ty → pkt.payload = answer.payload → ∃ fields sample,
          decodeTimesyncResponse pkt = some fields ∧ fields.seq = seq ∧ fields.t1Ms = x.t1 ∧
            computeOffsetDelay fields.t1Ms fields.t2Ms fields.t3Ms x.t4 = some sample ∧
            x.Reckoned (estimateNetworkTime fields.t1Ms x.t4 fields.t2Ms fields.t3Ms).1
              (estimateNetworkTime fields.t1Ms x.t4 fields.t2Ms fields.t3Ms).2 sample := by
  intro request hrequest
  refine ⟨_, r.handleTimesyncPacket_request hrequest srcSide, ?_⟩
  intro pkt hty hpayload
  obtain ⟨sample, hsample, hreckoned⟩ := x.reckoned
  refine ⟨⟨seq, x.t1, x.t2, x.t3⟩, sample, ?_, rfl, rfl, hsample, hreckoned⟩
  refine decodeTimesyncResponse_le64s hty ?_
  rw [hpayload, ← hfirst, ← hsecond]
  rfl

/-! ## A client that is 30 ms from a router, which is 10 ms from it -/

def ticking : Env := ⟨fun k => 9000 + 4 * UInt64.ofNat k, fun _ => SEDS_OK⟩

def clockRouter : Router := (freshRouter (ascii "CLOCK")).configureTimesync ticking true 1 10 5000 1000 1000

def clockExchange : Exchange where
  t1 := 100
  t2 := 1700000009008
  t3 := 1700000009012
  t4 := 144
  ahead := 1700000008878
  out := 30
  processing := 4
  back := 10
  arrives := by decide
  answers := by decide
  returns := by decide
  small := by decide

theorem exchange_reckoned_clockRouter : ∃ request answer fields sample,
    buildTimesyncRequest defaultTestSchema .default (ascii "C") 5 7 100 = some request ∧
    (clockRouter.handleTimesyncPacket defaultTestSchema ticking request (some 0)).txQueue =
      (clockRouter.toOwner.enqueueTx ⟨answer, none, some 0, false⟩).txQueue ∧
    decodeTimesyncResponse answer = some fields ∧
    clockExchange.Reckoned (estimateNetworkTime fields.t1Ms 144 fields.t2Ms fields.t3Ms).1
      (estimateNetworkTime fields.t1Ms 144 fields.t2Ms fields.t3Ms).2 sample := by
  have hbuilt : (buildTimesyncRequest defaultTestSchema .default (ascii "C") 5 7 100).isSome = true := by
    rw [defaultTestSchema_eq]
    decide +kernel
  have hclock : clockRouter.ServesTime ∧ clockRouter.timesync.shown (ticking.clock (clockRouter.clockReads + 1)) = 1700000009008 ∧
      clockRouter.timesync.shown (ticking.clock (clockRouter.clockReads + 2)) = 1700000009012 := by
    decide +kernel
  obtain ⟨request, hrequest⟩ := Option.isSome_iff_exists.mp hbuilt
  obtain ⟨answer, hqueue, hread⟩ := exchange_reckoned defaultTestSchema .default ticking clockExchange clockRouter hclock.2.1 hclock.2.2
    (ascii "C") 5 7 (some 0) request hrequest
  obtain ⟨fields, sample, hfields, -, -, -, hreckoned⟩ := hread answer rfl rfl
  rw [if_pos hclock.1] at hqueue
  exact ⟨request, answer, fields, sample, hrequest, hqueue, hfields, hreckoned⟩

end Router

end SedsNet
