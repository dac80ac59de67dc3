import SedsNet.Accounts

/-!
# Sides that are switched off

A side whose `egress_enabled` is false should be silent. Routed packets, and packets with a destination side, are
checked against the flag when they are sent. Two other paths to the callbacks are not: `do_reliable_timeouts`
sends every frame that is due, and `handle_packet_request_impl` every frame that is asked for.

`Quiet` is the condition under which these two find nothing to send to a side that is switched off. A run whose
steps all meet it keeps such sides silent.
-/

set_option autoImplicit false

namespace SedsNet

open Lib

/-- The side whose callback is called. -/
def Obs.calledSide : Obs → Option Int32
  | .transmit sideId _ => some sideId
  | .packetTx sideId _ => some sideId
  | _ => none

namespace Owner

/-- From `o` to `o'`, only sides that may send are called. The flags are those at both ends of the step: a step
    that calls a side does not change the configuration. -/
def Silent (o o' : Owner) : Prop :=
  ∀ e ∈ o'.obs.drop o.obs.length, ∀ sideId ∈ e.calledSide,
    (o.egressSide sideId).isSome = true ∧ (o'.egressSide sideId).isSome = true

instance (o o' : Owner) : Decidable (Silent o o') :=
  inferInstanceAs (Decidable (∀ e ∈ o'.obs.drop o.obs.length, ∀ sideId ∈ e.calledSide, _ ∧ _))

/-- No frame is due on a side that is switched off, or none can be sent now. -/
def timeoutsQuiet (E : Env) (o : Owner) : Bool :=
  o.sideTxActive || o.reliableTx.entries.all fun e =>
    (o.egressSide (sideOfKey e.1)).isSome ||
      e.2.sent.entries.all fun s => !dueAgain o.tuning (E.clock o.clockReads) s.2

/-- The packet does not ask a side that is switched off for a frame it holds. -/
def requestQuiet (S : Schema) (o : Owner) (pkt : PacketData) (srcSide : Option Int32) : Bool :=
  match srcSide with
  | none => true
  | some sideId =>
    o.sideTxActive || (o.egressSide sideId).isSome || !isInternalControlType pkt.ty ||
      pkt.ty == SEDS_DT_RELIABLE_ACK || pkt.ty == SEDS_DT_RELIABLE_PARTIAL_ACK || pkt.payload.length != 8 ||
      ((o.reliableTx.lookup (reliableKey sideId (controlledType S pkt))).bind
        fun tx => tx.sent.lookup (loadLe32 pkt.payload 4)).isNone

theorem timeoutsQuiet_spec {E : Env} {o : Owner} (h : o.timeoutsQuiet E = true) {key : UInt64} {bytes : Bytes}
    (hdue : o.HoldsDue (o.nowMs E).1 key bytes) : (o.egressSide (sideOfKey key)).isSome = true := by
  obtain ⟨hactive, tx, sent, seq, htx, hsent, -, hagain⟩ := hdue
  unfold timeoutsQuiet at h
  rw [hactive, Bool.false_or, List.all_eq_true] at h
  have hstream := h _ (AList.mem_lookup_iff.mp htx)
  rcases Bool.or_eq_true_iff.mp hstream with hopen | hnone
  · exact hopen
  · rw [List.all_eq_true] at hnone
    have hnot := hnone _ (AList.mem_lookup_iff.mp hsent)
    have hagain' : dueAgain o.tuning (E.clock o.clockReads) sent = true := hagain
    rw [hagain'] at hnot
    cases hnot

theorem requestQuiet_spec {S : Schema} {o : Owner} {pkt : PacketData} {srcSide : Option Int32}
    (h : o.requestQuiet S pkt srcSide = true) {sideId : Int32} {bytes : Bytes}
    (hrequests : Requests S o pkt srcSide sideId bytes) : (o.egressSide sideId).isSome = true := by
  obtain ⟨hactive, rfl, hcontrol, hack, hmark, hlength, tx, sent, htx, hsent, -⟩ := hrequests
  unfold requestQuiet at h
  dsimp only at h
  rw [hactive, hcontrol, htx, Option.bind_some, hsent, hlength, beq_false_of_ne hack, beq_false_of_ne hmark] at h
  simpa using h

section

variable {P : TxItem → Prop} {R : PacketData → Prop} {o o' : Owner}

/-- What may happen while the sides are as in `o`: only open ones are called, or (in a change of the configuration)
    none. -/
def Hushed (o : Owner) (changes : Bool) : Obs → Prop
  | .configures => changes = true
  | e => ∀ sideId ∈ e.calledSide, changes = false ∧ (o.egressSide sideId).isSome = true

theorem Hushed.of_silent {changes : Bool} {e : Obs} (h : e.silent = true) : Hushed o changes e := by
  cases e with
  | transmit => cases h
  | packetTx => cases h
  | configures => cases h
  | _ =>
    intro sideId hcalled
    cases hcalled

theorem Moves.silent {changes : Bool} (h : Moves P (Hushed o changes) R o o') : Silent o o' := by
  obtain ⟨l, hobs, hl⟩ := h.trace
  intro e he sideId hcalled
  rw [hobs, List.drop_left] at he
  have hallowed := hl e he
  have hopen : changes = false ∧ (o.egressSide sideId).isSome = true := by
    cases e <;> first | exact hallowed sideId hcalled | cases hcalled
  have hsides : o'.sides = o.sides := by
    apply h.sides
    rw [hopen.1]
    exact Bool.false_ne_true
  refine ⟨hopen.2, ?_⟩
  have hsame : o'.egressSide sideId = o.egressSide sideId := by
    unfold egressSide sideAt
    rw [hsides]
  rw [hsame]
  exact hopen.2

/-- What the front of the queue may do to an open side. -/
theorem Hushed.carries {S : Schema} {Z : Codec} {sideId : Int32} {side : Side} (hside : o.egressSide sideId = some side)
    (item : TxItem) : Carries (Hushed o false) S Z sideId item := by
  have hcall : ∀ e : Obs, e.calledSide = some sideId → e ≠ .configures → Hushed o false e := by
    intro e he hne
    have hopen : ∀ s ∈ e.calledSide, false = false ∧ (o.egressSide s).isSome = true := by
      intro s hs
      rw [Option.mem_def, he, Option.some.injEq] at hs
      subst hs
      rw [hside]
      exact ⟨rfl, rfl⟩
    cases e <;> first | exact hopen | exact absurd rfl hne
  refine ⟨fun _ h => (nomatch h), fun bytes _ => hcall _ rfl (fun h => nomatch h), fun _ _ _ _ _ h => (nomatch h),
    hcall _ rfl (fun h => nomatch h)⟩

end

end Owner

/-! ## Routers -/

namespace Router

variable (S : Schema) (Z : Codec) (E : Env)

/-- The step sends nothing to a side that is switched off: no frame is due there, and the packet it takes does not
    ask for one. -/
def Quiet (r : Router) (act : Act) : Prop :=
  (act = .reliableTimeouts → r.toOwner.timeoutsQuiet E = true) ∧
    ∀ p ∈ r.taken S Z act, packetId S p.1 ∉ r.recentSet → r.toOwner.requestQuiet S p.1 p.2 = true

instance (r : Router) (act : Act) : Decidable (r.Quiet S Z E act) := inferInstanceAs (Decidable (_ ∧ _))

def Act.changes : Act → Bool
  | .configure _ => true
  | _ => false

theorem perform_silent {r : Router} {act : Act} (h : r.Quiet S Z E act) :
    Owner.Silent r.toOwner (perform S Z E r act).toOwner := by
  have hsends : Sends (fun _ => True) (Owner.Hushed r.toOwner act.changes) (fun _ _ => True) S Z E r act := by
    apply Sends.of_any fun _ => .of_silent
    · intro read sideId hcalled
      cases hcalled
    · rintro setting rfl
      rfl
    · rintro rfl key bytes hdue sideId hcalled
      cases hcalled
      exact ⟨rfl, Owner.timeoutsQuiet_spec (h.1 rfl) hdue⟩
    · intro pkt srcSide htaken hfresh sideId bytes hrequests s hcalled
      cases hcalled
      refine ⟨?_, Owner.requestQuiet_spec (h.2 (pkt, srcSide) htaken hfresh) hrequests⟩
      cases act <;> first | rfl | cases htaken
    · intro _ id sideId hcalled
      cases hcalled
    · rintro rfl item - sideId side hside -
      exact Owner.Hushed.carries hside item
  exact (perform_moves S (grants_of_silent fun _ => .of_silent) Z E hsends.demands).owner.silent

end Router

/-! ## Relays -/

namespace Relay

variable (S : Schema) (Z : Codec) (E : Env)

/-- `Router.Quiet` for relays. -/
def Quiet (r : Relay) (act : Act) : Prop :=
  (act = .reliableTimeouts → r.toOwner.timeoutsQuiet E = true) ∧
    (act = .receiveNext → ∀ item ∈ r.rxQueue.items.head?, r.toOwner.requestQuiet S item.pkt item.srcSide = true)

instance (r : Relay) (act : Act) : Decidable (r.Quiet S E act) := inferInstanceAs (Decidable (_ ∧ _))

def Act.changes : Act → Bool
  | .configure _ => true
  | _ => false

theorem perform_silent {r : Relay} {act : Act} (h : r.Quiet S E act) :
    Owner.Silent r.toOwner (perform S Z E r act).toOwner := by
  have hsends : Sends (fun _ => True) (Owner.Hushed r.toOwner act.changes) S Z E r act := by
    refine ⟨fun _ => .of_silent, (fun _ _ hcalled => nomatch hcalled), ?_, fun _ _ => trivial, ?_, ?_, fun _ _ _ _ _ => trivial, ?_⟩
    · rintro setting rfl
      rfl
    · rintro rfl key bytes hdue sideId hcalled
      cases hcalled
      exact ⟨rfl, Owner.timeoutsQuiet_spec (h.1 rfl) hdue⟩
    · rintro rfl item hitem sideId bytes hrequests s hcalled
      cases hcalled
      exact ⟨rfl, Owner.requestQuiet_spec (h.2 rfl item hitem) hrequests⟩
    · rintro rfl item - sideId side hside -
      exact Owner.Hushed.carries hside item
  exact (perform_moves S (Router.grants_of_silent fun _ => .of_silent) Z E hsends.demands).silent

end Relay

/-! ## Runs -/

/-- **A side that is switched off is silent**: every step of a run whose steps are quiet calls only sides that may
    send. -/
theorem disabledSide_silent (S : Schema) (Z : Codec) (E : Env) :
    (∀ (r : Router) (acts : List Router.Act), Along (Router.perform S Z E) (Router.Quiet S Z E) r acts →
      ∀ before act after, acts = before ++ act :: after →
        Owner.Silent (runFrom (Router.perform S Z E) r before).toOwner
          (runFrom (Router.perform S Z E) r (before ++ [act])).toOwner) ∧
    ∀ (r : Relay) (acts : List Relay.Act), Along (Relay.perform S Z E) (Relay.Quiet S E) r acts →
      ∀ before act after, acts = before ++ act :: after →
        Owner.Silent (runFrom (Relay.perform S Z E) r before).toOwner
          (runFrom (Relay.perform S Z E) r (before ++ [act])).toOwner := by
  refine ⟨?_, ?_⟩
  · rintro r acts hquiet before act after rfl
    obtain ⟨-, hact, -⟩ := along_append.mp hquiet
    rw [runFrom_append]
    exact Router.perform_silent S Z E hact
  · rintro r acts hquiet before act after rfl
    obtain ⟨-, hact, -⟩ := along_append.mp hquiet
    rw [runFrom_append]
    exact Relay.perform_silent S Z E hact

/-- A clock that moves on by a second at every reading, and callbacks that succeed. -/
def Env.ticking : Env := ⟨fun n => 1000 * UInt64.ofNat n, fun _ => SEDS_OK⟩

/-- A report is sent, sent again because no acknowledgement comes, and the side is switched off. -/
def switchedOffActs : List Router.Act :=
  [.logBytesEx 100 gpsPacket.payload none true, .transmitNext, .reliableTimeouts,
    .configure (.setSideEgressEnabled 0 false), .logBytesEx 100 gpsPacket.payload none true, .transmitNext]

def switchedOffRelayActs : List Relay.Act :=
  [.rxSerializedFromSide 0 (Relay.gpsFrame 1), .receiveNext, .configure (.setSideEgressEnabled 0 false), .transmitNext]

def reportingRouter : Router := .new .Sink (ascii "R") [.serialized [] true] []

theorem disabledSide_silent_switchedOff :
    Owner.Silent (runFrom (Router.perform defaultTestSchema (.absent 16) .ticking) reportingRouter (switchedOffActs.take 5)).toOwner
      (runFrom (Router.perform defaultTestSchema (.absent 16) .ticking) reportingRouter switchedOffActs).toOwner ∧
    Owner.Silent (runFrom (Relay.perform defaultTestSchema (.absent 16) .calm) Relay.gpsRelay (switchedOffRelayActs.take 3)).toOwner
      (runFrom (Relay.perform defaultTestSchema (.absent 16) .calm) Relay.gpsRelay switchedOffRelayActs).toOwner := by
  obtain ⟨hquiet, hrelay⟩ :
      Along (Router.perform defaultTestSchema (.absent 16) .ticking) (Router.Quiet defaultTestSchema (.absent 16) .ticking)
        reportingRouter switchedOffActs ∧
      Along (Relay.perform defaultTestSchema (.absent 16) .calm) (Relay.Quiet defaultTestSchema .calm)
        Relay.gpsRelay switchedOffRelayActs := by
    rw [defaultTestSchema_eq]
    decide +kernel
  exact ⟨(disabledSide_silent defaultTestSchema (.absent 16) .ticking).1 reportingRouter switchedOffActs hquiet
      (switchedOffActs.take 5) .transmitNext [] rfl,
    (disabledSide_silent defaultTestSchema (.absent 16) .calm).2 Relay.gpsRelay switchedOffRelayActs hrelay
      (switchedOffRelayActs.take 3) .transmitNext [] rfl⟩

/-- A report is sent, and the side is switched off before it is acknowledged. -/
def unacknowledgedActs : List Router.Act :=
  [.logBytesEx 100 gpsPacket.payload none true, .transmitNext, .configure (.setSideEgressEnabled 0 false)]

/-- The side is off, and the next timeout calls it. -/
theorem disabledSide_called :
    (runFrom (Router.perform defaultTestSchema (.absent 16) .ticking) reportingRouter unacknowledgedActs).egressSide 0 = none ∧
    ¬ Owner.Silent (runFrom (Router.perform defaultTestSchema (.absent 16) .ticking) reportingRouter unacknowledgedActs).toOwner
      (runFrom (Router.perform defaultTestSchema (.absent 16) .ticking) reportingRouter
        (unacknowledgedActs ++ [.reliableTimeouts])).toOwner := by
  rw [defaultTestSchema_eq]
  decide +kernel

end SedsNet
