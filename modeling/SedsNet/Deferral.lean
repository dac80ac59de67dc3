import SedsNet.Drain
import SedsNet.Gaps

/-!
# What a deferred transmission leaves behind

`transmit_item` finds out that a transmission is under way when it hands a frame to `call_serialized_tx`, and returns `SEDS_IO`.
By then it has called the local handlers, has noted the packet for end-to-end ACKs, has called the sides before in the list of
targets, and has given the frame its number. The item is put back, and all this is done again. `transmitItem_deferred` says
exactly when there was nothing to do before.
-/

set_option autoImplicit false

namespace SedsNet

open Lib Owner

/-- A callback of the application is called: a handler, or the callback of a side. -/
def Obs.isCall : Obs → Bool
  | .transmit _ _ => true
  | .packetTx _ _ => true
  | .packetHandler _ _ => true
  | .serializedHandler _ _ => true
  | .managedVariable _ _ => true
  | .datagram _ _ _ => true
  | .streamEvent _ _ _ _ => true
  | _ => false

namespace Owner

/-- No callback is called on the way from `o` to `o'`. -/
def Quiet (o o' : Owner) : Prop := ∃ l, o'.obs = o.obs ++ l ∧ ∀ e ∈ l, e.isCall = false

section

variable {o o' o'' : Owner}

theorem Emits.prefix_obs {P : TxItem → Prop} {Q : Obs → Prop} (h : Emits P Q o o') : o.obs <+: o'.obs := by
  obtain ⟨l, hobs, -⟩ := h.trace
  exact ⟨l, hobs.symm⟩

namespace Quiet

theorem refl (o : Owner) : Quiet o o := ⟨[], (List.append_nil _).symm, fun _ he => absurd he List.not_mem_nil⟩

theorem of_obs (h : o'.obs = o.obs) : Quiet o o' := ⟨[], by rw [h, List.append_nil], fun _ he => absurd he List.not_mem_nil⟩

theorem observe (o : Owner) {e : Obs} (he : e.isCall = false) : Quiet o (o.observe e) := by
  refine ⟨[e], rfl, ?_⟩
  intro x hx
  rw [List.mem_singleton.mp hx]
  exact he

theorem trans (h : Quiet o o') (h' : Quiet o' o'') : Quiet o o'' := by
  obtain ⟨l, hl, hquiet⟩ := h
  obtain ⟨l', hl', hquiet'⟩ := h'
  refine ⟨l ++ l', by rw [hl', hl, List.append_assoc], ?_⟩
  intro e he
  rcases List.mem_append.mp he with he | he
  · exact hquiet e he
  · exact hquiet' e he

theorem prefix_obs (h : Quiet o o') : o.obs <+: o'.obs := by
  obtain ⟨l, hobs, -⟩ := h
  exact ⟨l, hobs.symm⟩

/-- Nothing that happened is taken back: if the whole way is quiet, both parts of it are. -/
theorem parts (hfirst : o.obs <+: o'.obs) (hlater : o'.obs <+: o''.obs) (h : Quiet o o'') : Quiet o o' ∧ Quiet o' o'' := by
  obtain ⟨l, hl⟩ := hfirst
  obtain ⟨l', hl'⟩ := hlater
  obtain ⟨whole, hwhole, hquiet⟩ := h
  have hsplit : whole = l ++ l' := by
    refine @List.append_cancel_left _ o.obs _ _ ?_
    rw [← hwhole, ← hl', ← hl, List.append_assoc]
  subst hsplit
  exact ⟨⟨l, hl.symm, fun e he => hquiet e (List.mem_append_left l' he)⟩,
    l', hl'.symm, fun e he => hquiet e (List.mem_append_right l he)⟩

/-- A callback that was called is on record. -/
theorem not_of_call {e : Obs} (he : e.isCall = true) (hcalled : (o.observe e).obs <+: o'.obs) : ¬ Quiet o o' := by
  intro h
  have hfirst : o.obs <+: (o.observe e).obs := ⟨[e], rfl⟩
  obtain ⟨l, hl, hquiet⟩ := (h.parts hfirst hcalled).1
  have hone : l = [e] := List.append_cancel_left (hl.symm.trans rfl)
  rw [hquiet e (by rw [hone]; exact List.mem_singleton_self e)] at he
  cases he

end Quiet

end

/-! ## Local handlers -/

/-! ## Local handlers -/

/-- No handler on any of these endpoints is called. A packet handler is called as often as the tuning allows. -/
def Unheard (o : Owner) (locals : List LocalEndpoint) (endpoints : List UInt32) : Prop :=
  ∀ l ∈ locals, endpoints.contains l.endpoint = true →
    l.serializedHandler = false ∧ (l.packetHandler = true → o.tuning.maxHandlerRetries = 0)

section

variable {S : Schema} {Z : Codec} {E : Env} {device : Bytes} {locals : List LocalEndpoint}

theorem prefix_foldl {α β : Type} {f : β → α → β} (g : β → Owner) (hf : ∀ p x, (g p).obs <+: (g (f p x)).obs) (xs : List α)
    (p : β) : (g p).obs <+: (g (xs.foldl f p)).obs := by
  induction xs generalizing p with
  | nil => exact List.prefix_refl _
  | cons x xs ih => exact (hf p x).trans (ih (f p x))

/-- A loop whose rounds do nothing or call something: it is quiet if every round has nothing to do. -/
theorem foldl_quiet {α β : Type} {f : β → α → β} (g : β → Owner) (skips : β → α → Prop)
    (hf : ∀ p x, (g p).obs <+: (g (f p x)).obs) (hskip : ∀ p x, skips p x → f p x = p)
    (hcall : ∀ p x, Quiet (g p) (g (f p x)) → skips p x) (xs : List α) (p : β) :
    Quiet (g p) (g (xs.foldl f p)) ↔ ∀ x ∈ xs, skips p x := by
  induction xs generalizing p with
  | nil => exact ⟨fun _ x hx => absurd hx List.not_mem_nil, fun _ => .refl _⟩
  | cons x xs ih =>
    rw [List.foldl_cons, List.forall_mem_cons]
    constructor
    · intro hquiet
      have hx := hcall p x (hquiet.parts (hf p x) (prefix_foldl g hf xs _)).1
      rw [hskip p x hx] at hquiet
      exact ⟨hx, (ih p).mp hquiet⟩
    · rintro ⟨hx, hxs⟩
      rw [hskip p x hx]
      exact (ih p).mpr hxs

theorem foldl_skips {α β : Type} {f : β → α → β} {p : β} {xs : List α} (h : ∀ x ∈ xs, f p x = p) : xs.foldl f p = p := by
  induction xs with
  | nil => rfl
  | cons x xs ih =>
    rw [List.foldl_cons, h x List.mem_cons_self]
    exact ih fun y hy => h y (List.mem_cons_of_mem x hy)

/-- Everything is allowed. -/
theorem allowed : Allows (fun _ => True) (fun _ => True) S := (Router.grants_of_silent fun _ _ => trivial).allows

theorem tryPacketHandler_quiet (i : Nat) (pkt : PacketData) (tries : Nat) (rc : SedsResult) (o : Owner)
    (h : Quiet o (tryPacketHandler E i pkt tries rc o).2) : tries = 0 := by
  cases tries with
  | zero => rfl
  | succ tries =>
    refine absurd h (Quiet.not_of_call (e := .packetHandler i pkt) rfl ?_)
    unfold tryPacketHandler
    dsimp only
    split
    · exact List.prefix_refl _
    · exact (tryPacketHandler_emits (S := default) allowed E i pkt tries _ (o.call E (.packetHandler i pkt)).2).prefix_obs

/-- A round of the first loop over the handlers. -/
theorem dispatchLocalPacket_quiet (pkt : PacketData) (p : Failures × Owner) (l : LocalEndpoint × Nat) :
    (Quiet p.2 (dispatchLocalPacket E locals pkt p l).2 →
      (pkt.endpoints.contains l.1.endpoint && l.1.packetHandler) = true → p.2.tuning.maxHandlerRetries = 0) ∧
    (((pkt.endpoints.contains l.1.endpoint && l.1.packetHandler) = true → p.2.tuning.maxHandlerRetries = 0) →
      dispatchLocalPacket E locals pkt p l = p) := by
  obtain ⟨failures, o⟩ := p
  unfold dispatchLocalPacket
  dsimp only
  cases pkt.endpoints.contains l.1.endpoint && l.1.packetHandler with
  | false => exact ⟨fun _ h => Bool.noConfusion h, fun _ => rfl⟩
  | true =>
    simp only [if_true]
    refine ⟨fun hquiet _ => tryPacketHandler_quiet (E := E) l.2 pkt _ SEDS_OK o ?_, fun hnone => ?_⟩
    · split at hquiet
      · exact hquiet
      · exact hquiet
    · rw [hnone trivial]
      rfl

theorem forall_zipIdx {α : Type} {xs : List α} {p : α → Prop} : (∀ x ∈ xs.zipIdx, p x.1) ↔ ∀ x ∈ xs, p x := by
  constructor
  · intro h x hx
    rw [← List.zipIdx_map_fst 0 xs] at hx
    obtain ⟨y, hy, rfl⟩ := List.mem_map.mp hx
    exact h y hy
  · intro h x hx
    apply h
    rw [← List.zipIdx_map_fst 0 xs]
    exact List.mem_map_of_mem hx

variable (device locals) in
/-- **Packet handlers**: none is called, or nothing happens at all. -/
theorem dispatchLocalPacketHandlers_quiet (pkt : PacketData) (o : Owner) :
    (Quiet o (dispatchLocalPacketHandlers S E device locals pkt o).2 ↔
      ∀ l ∈ locals, (pkt.endpoints.contains l.endpoint && l.packetHandler) = true → o.tuning.maxHandlerRetries = 0) ∧
    ((∀ l ∈ locals, (pkt.endpoints.contains l.endpoint && l.packetHandler) = true → o.tuning.maxHandlerRetries = 0) →
      dispatchLocalPacketHandlers S E device locals pkt o = (SEDS_OK, o)) := by
  have hskips : (∀ l ∈ locals, (pkt.endpoints.contains l.endpoint && l.packetHandler) = true → o.tuning.maxHandlerRetries = 0) →
      dispatchLocalPacketHandlers S E device locals pkt o = (SEDS_OK, o) := by
    intro hnone
    have hloop : locals.zipIdx.foldl (dispatchLocalPacket E locals pkt) (⟨none, []⟩, o) = (⟨none, []⟩, o) :=
      foldl_skips fun l hl => (dispatchLocalPacket_quiet pkt _ l).2 (forall_zipIdx.mpr hnone l hl)
    unfold dispatchLocalPacketHandlers
    rw [hloop]
  refine ⟨⟨fun hquiet => ?_, fun hnone => ?_⟩, hskips⟩
  · have hround : ∀ (p : Failures × Owner) (l : LocalEndpoint × Nat), p.2.obs <+: (dispatchLocalPacket E locals pkt p l).2.obs :=
      fun p l => (dispatchLocalPacket_emits (S := S) allowed E locals pkt p l).prefix_obs
    have hloop := foldl_quiet Prod.snd
      (fun p l => (pkt.endpoints.contains l.1.endpoint && l.1.packetHandler) = true → p.2.tuning.maxHandlerRetries = 0) hround
      (fun p l => (dispatchLocalPacket_quiet pkt p l).2) (fun p l => (dispatchLocalPacket_quiet pkt p l).1) locals.zipIdx (⟨none, []⟩, o)
    refine forall_zipIdx.mp (hloop.mp ?_)
    have hfirst := prefix_foldl Prod.snd hround locals.zipIdx (⟨none, []⟩, o)
    unfold dispatchLocalPacketHandlers at hquiet
    dsimp only at hquiet
    split at hquiet
    · exact hquiet
    · split at hquiet
      · exact (hquiet.parts hfirst (reportError_emits (S := S) allowed E locals _ _).prefix_obs).1
      · exact hquiet
  · rw [hskips hnone]
    exact .refl o

variable (locals) in
/-- **Serialized handlers**: the same. -/
theorem dispatchLocalSerializedHandlers_quiet (endpoints : List UInt32) (bytes : Bytes) (o : Owner) :
    (Quiet o (dispatchLocalSerializedHandlers E locals endpoints bytes o) ↔
      ∀ l ∈ locals, (endpoints.contains l.endpoint && l.serializedHandler) = false) ∧
    ((∀ l ∈ locals, (endpoints.contains l.endpoint && l.serializedHandler) = false) →
      dispatchLocalSerializedHandlers E locals endpoints bytes o = o) := by
  have hcall : ∀ (b : Bool) (i : Nat) (o : Owner), Quiet o (if b = true then (o.call E (.serializedHandler i bytes)).2 else o) → b = false := by
    intro b i o hquiet
    cases b with
    | false => rfl
    | true => exact absurd hquiet (Quiet.not_of_call (e := .serializedHandler i bytes) rfl (List.prefix_refl _))
  have hskip : ∀ {b : Bool} (i : Nat) (o : Owner), b = false → (if b = true then (o.call E (.serializedHandler i bytes)).2 else o) = o := by
    intro b i o hb
    rw [hb]
    rfl
  have hskips : (∀ l ∈ locals, (endpoints.contains l.endpoint && l.serializedHandler) = false) →
      dispatchLocalSerializedHandlers E locals endpoints bytes o = o :=
    fun hnone => foldl_skips fun l hl => hskip l.2 o (forall_zipIdx.mpr hnone l hl)
  refine ⟨?_, hskips⟩
  have hloop : Quiet o (dispatchLocalSerializedHandlers E locals endpoints bytes o) ↔
      ∀ l ∈ locals.zipIdx, (endpoints.contains l.1.endpoint && l.1.serializedHandler) = false := by
    apply foldl_quiet (fun o : Owner => o) fun _ (l : LocalEndpoint × Nat) => (endpoints.contains l.1.endpoint && l.1.serializedHandler) = false
    · intro o l
      exact (callIf_emits (S := default) allowed E (e := .serializedHandler l.2 bytes) rfl _ o).prefix_obs
    · intro o l
      exact hskip l.2 o
    · intro o l
      exact hcall _ l.2 o
  exact hloop.trans (forall_zipIdx (p := fun (l : LocalEndpoint) => (endpoints.contains l.endpoint && l.serializedHandler) = false))

theorem unheard_iff {o : Owner} {endpoints : List UInt32} : Unheard o locals endpoints ↔
    (∀ l ∈ locals, (endpoints.contains l.endpoint && l.packetHandler) = true → o.tuning.maxHandlerRetries = 0) ∧
      ∀ l ∈ locals, (endpoints.contains l.endpoint && l.serializedHandler) = false := by
  unfold Unheard
  constructor
  · intro h
    refine ⟨fun l hl hhandles => ?_, fun l hl => ?_⟩
    · rw [Bool.and_eq_true] at hhandles
      exact (h l hl hhandles.1).2 hhandles.2
    · cases hon : endpoints.contains l.endpoint with
      | false => rfl
      | true =>
        rw [(h l hl hon).1]
        rfl
  · rintro ⟨hpackets, hframes⟩ l hl hon
    refine ⟨?_, fun hhandler => ?_⟩
    · have hnone := hframes l hl
      rwa [hon, Bool.true_and] at hnone
    · apply hpackets l hl
      rw [hon, hhandler]
      rfl

variable (device locals) in
/-- **A packet for the local handlers**: none of them is called, or nothing happens at all. -/
theorem dispatchLocalFromPacket_quiet (pkt : PacketData) (o : Owner) :
    (Quiet o (dispatchLocalFromPacket S Z E device locals pkt o) ↔ Unheard o locals pkt.endpoints) ∧
    (Unheard o locals pkt.endpoints → dispatchLocalFromPacket S Z E device locals pkt o = o) := by
  obtain ⟨hpackets, hsame⟩ := dispatchLocalPacketHandlers_quiet (S := S) (E := E) device locals pkt o
  have hskips : Unheard o locals pkt.endpoints → dispatchLocalFromPacket S Z E device locals pkt o = o := by
    intro hunheard
    rw [unheard_iff] at hunheard
    unfold dispatchLocalFromPacket
    rw [hsame hunheard.1]
    exact (dispatchLocalSerializedHandlers_quiet locals pkt.endpoints _ o).2 hunheard.2
  refine ⟨⟨fun hquiet => ?_, fun hunheard => ?_⟩, hskips⟩
  · have hemits := dispatchLocalPacketHandlers_emits (P := fun _ => True) (Q := fun _ => True) S allowed E device locals pkt o
    have hlater := dispatchLocalSerializedHandlers_emits (P := fun _ => True) (Q := fun _ => True) S allowed E locals pkt.endpoints
      (serializePacket S Z pkt) (dispatchLocalPacketHandlers S E device locals pkt o).2
    obtain ⟨hfirst, hsecond⟩ := hquiet.parts hemits.prefix_obs hlater.prefix_obs
    have hnone := hpackets.mp hfirst
    rw [hsame hnone] at hsecond
    exact unheard_iff.mpr ⟨hnone, (dispatchLocalSerializedHandlers_quiet locals pkt.endpoints _ o).1.mp hsecond⟩
  · rw [hskips hunheard]
    exact .refl o

/-- Nobody hears of it when a side refuses this packet. -/
def Unreported (S : Schema) (o : Owner) (locals : List LocalEndpoint) (pkt : PacketData) : Prop :=
  pkt.ty = SEDS_DT_TELEMETRY_ERROR ∨ Unheard o locals (localEndpointsForError S locals)

variable (device locals) in
theorem reportTxFailure_quiet (o : Owner) (side : Side) (rc : SedsResult) (pkt : PacketData) :
    (Quiet o (reportTxFailure S Z E device locals o side rc pkt) ↔ Unreported S o locals pkt) ∧
    (Unreported S o locals pkt → reportTxFailure S Z E device locals o side rc pkt = o) := by
  unfold reportTxFailure Unreported
  by_cases hty : pkt.ty = SEDS_DT_TELEMETRY_ERROR
  · rw [if_neg (not_not.mpr hty)]
    exact ⟨⟨fun _ => .inl hty, fun _ => .refl o⟩, fun _ => rfl⟩
  · rw [if_pos hty]
    obtain ⟨hiff, hskips⟩ := dispatchLocalFromPacket_quiet (S := S) (Z := Z) (E := E) device locals
      (makeRouterErrorPacket device (localEndpointsForError S locals) (txErrorMessage side rc)) o
    exact ⟨hiff.trans ⟨.inr, fun h => h.resolve_left hty⟩, fun h => hskips (h.resolve_left hty)⟩

end

/-! ## Sides -/

/-- What decides where a packet goes and whether its frame gets a number is as before, and so is all else that the reliable
    layer remembers. -/
structure Alike (o o' : Owner) : Prop where
  sides : o'.sides = o.sides
  tuning : o'.tuning = o.tuning
  active : o'.sideTxActive = o.sideTxActive
  sent : ∀ sideId ty, o'.txState sideId ty = o.txState sideId ty
  received : o'.reliableRx = o.reliableRx
  returns : o'.reliableReturnRoutes = o.reliableReturnRoutes ∧ o'.reliableReturnRouteOrder = o.reliableReturnRouteOrder

namespace Alike

variable {o o' o'' : Owner}

theorem refl (o : Owner) : Alike o o := ⟨rfl, rfl, rfl, fun _ _ => rfl, rfl, rfl, rfl⟩

theorem symm (h : Alike o o') : Alike o' o :=
  ⟨h.sides.symm, h.tuning.symm, h.active.symm, fun sideId ty => (h.sent sideId ty).symm, h.received.symm, h.returns.1.symm,
    h.returns.2.symm⟩

theorem trans (h : Alike o o') (h' : Alike o' o'') : Alike o o'' :=
  ⟨h'.sides.trans h.sides, h'.tuning.trans h.tuning, h'.active.trans h.active,
    fun sideId ty => (h'.sent sideId ty).trans (h.sent sideId ty), h'.received.trans h.received,
    h'.returns.1.trans h.returns.1, h'.returns.2.trans h.returns.2⟩

theorem of_calls (h : Calls o o') : Alike o o' := by
  obtain ⟨_, _, rfl⟩ := h
  exact ⟨rfl, rfl, rfl, fun _ _ => rfl, rfl, rfl, rfl⟩

/-- The state of a stream is written as it was. -/
theorem rewrite (o : Owner) (sideId : Int32) (ty : UInt32) : Alike o (o.setTxState sideId ty (o.txState sideId ty)) := by
  refine ⟨rfl, rfl, rfl, fun sideId' ty' => ?_, rfl, rfl, rfl⟩
  unfold setTxState
  by_cases hkey : reliableKey sideId' ty' = reliableKey sideId ty
  · unfold txState
    dsimp only
    rw [hkey, AList.lookup_insert]
    rfl
  · unfold txState
    dsimp only
    rw [AList.lookup_insert_ne hkey]

theorem egressSide (h : Alike o o') (sideId : Int32) : o'.egressSide sideId = o.egressSide sideId := by
  unfold Owner.egressSide sideAt
  rw [h.sides]

theorem unreported {S : Schema} (h : Alike o o') {locals : List LocalEndpoint} {pkt : PacketData} (hnone : Unreported S o locals pkt) :
    Unreported S o' locals pkt := by
  unfold Unreported Unheard at hnone ⊢
  rw [h.tuning]
  exact hnone

end Alike

/-- Nothing comes of it when the loop over the targets gets to this side: it has no callback, or it turns the packet away for
    want of room in its window, and nobody hears of it. -/
def PassesOver (S : Schema) (o : Owner) (locals : List LocalEndpoint) (pkt : PacketData) (sideId : Int32) : Prop :=
  ∀ side, o.egressSide sideId = some side →
    (side.serializedTx = true → (side.reliableEnabled && S.isReliableType pkt.ty) = true ∧
      o.tuning.reliableMaxPending ≤ (o.txState sideId pkt.ty).sent.entries.length ∧ Unreported S o locals pkt) ∧
    (side.serializedTx = false → side.packetTx = false)

/-- The loop over these targets passes over some, and stops at one that takes frames without numbers. -/
inductive StopsUnnumbered (S : Schema) (o : Owner) (locals : List LocalEndpoint) (pkt : PacketData) : List Int32 → Prop
  | stops {sideId : Int32} {rest : List Int32} {side : Side} (hside : o.egressSide sideId = some side)
      (hframes : side.serializedTx = true) (hunnumbered : (side.reliableEnabled && S.isReliableType pkt.ty) = false) :
      StopsUnnumbered S o locals pkt (sideId :: rest)
  | passes {sideId : Int32} {rest : List Int32} (hpasses : PassesOver S o locals pkt sideId)
      (hrest : StopsUnnumbered S o locals pkt rest) : StopsUnnumbered S o locals pkt (sideId :: rest)

section

variable {S : Schema} {Z : Codec} {E : Env} {device : Bytes} {locals : List LocalEndpoint} {o o' : Owner} {item : TxItem}

theorem PassesOver.congr (h : Alike o o') {pkt : PacketData} {sideId : Int32} (hpasses : PassesOver S o locals pkt sideId) :
    PassesOver S o' locals pkt sideId := by
  intro side hside
  rw [h.egressSide] at hside
  obtain ⟨hframes, hpackets⟩ := hpasses side hside
  refine ⟨fun htx => ?_, hpackets⟩
  obtain ⟨hreliable, hfull, hnone⟩ := hframes htx
  rw [h.tuning, h.sent]
  exact ⟨hreliable, hfull, h.unreported hnone⟩

theorem StopsUnnumbered.congr (h : Alike o o') {pkt : PacketData} {sides : List Int32}
    (hstops : StopsUnnumbered S o locals pkt sides) : StopsUnnumbered S o' locals pkt sides := by
  induction hstops with
  | stops hside hframes hunnumbered => exact .stops ((h.egressSide _).trans hside) hframes hunnumbered
  | passes hpasses _ ih => exact .passes (hpasses.congr h) ih

theorem sendToSide_anything (o : Owner) (sideId : Int32) (side : Side) (item : TxItem) :
    Emits (fun _ => True) (fun _ => True) o (o.sendToSide S Z E sideId side item).2 :=
  sendToSide_emits S Z E (o := o) ⟨trivial, fun _ _ => trivial, fun _ _ _ _ => trivial, trivial⟩ side

theorem routerTransmitTo_anything (device : Bytes) (locals : List LocalEndpoint) (item : TxItem) (sides : List Int32) (failed : Bool)
    (o : Owner) : Emits (fun _ => True) (fun _ => True) o (routerTransmitTo S Z E device locals item sides failed o).2 :=
  routerTransmitTo_emits S allowed Z E device locals sides failed o fun _ _ _ _ =>
    ⟨trivial, fun _ _ => trivial, fun _ _ _ _ => trivial, trivial⟩

variable (item) in
/-- A frame that is deferred: without a number nothing else happens, and with one the number is gone. -/
theorem sendToSide_deferred (hactive : o.sideTxActive = true) {sideId : Int32} {side : Side} (hside : o.sideAt sideId = some side)
    (hframes : side.serializedTx = true)
    (hroom : (side.reliableEnabled && S.isReliableType item.pkt.ty) = true →
      (o.txState sideId item.pkt.ty).sent.entries.length < o.tuning.reliableMaxPending) :
    (o.sendToSide S Z E sideId side item).1 = SEDS_IO ∧
    (o.sendToSide S Z E sideId side item).2.isDeferred side SEDS_IO = true ∧
    Quiet o (o.sendToSide S Z E sideId side item).2 ∧
    (Alike o (o.sendToSide S Z E sideId side item).2 ↔ (side.reliableEnabled && S.isReliableType item.pkt.ty) = false) := by
  have hcalled : ∀ (o : Owner) (bytes : Bytes), o.sideTxActive = true →
      o.callSerializedTx E sideId bytes = ( SEDS_IO, { o with sideTxDeferred := true }) := by
    intro o bytes hactive
    unfold callSerializedTx
    rw [hactive]
    rfl
  have hdeferred : ∀ o : Owner, ({ o with sideTxDeferred := true } : Owner).isDeferred side SEDS_IO = true := by
    intro o
    unfold isDeferred
    rw [hframes]
    rfl
  unfold sendToSide sendSerializedWithReliable
  have hat : (o.observe (.sends sideId item)).sideAt sideId = some side := hside
  dsimp only
  rw [if_pos hframes, hat]
  dsimp only
  rw [hframes, Bool.not_true, if_neg Bool.false_ne_true]
  cases hnumbered : side.reliableEnabled && S.isReliableType item.pkt.ty with
  | false =>
    have hplain : (!side.reliableEnabled || !S.isReliableType item.pkt.ty) = true := by
      rw [← Bool.not_and, hnumbered]
      rfl
    rw [if_pos hplain, hcalled (o.observe (.sends sideId item)) _ hactive]
    have hquiet : Quiet o { o.observe (.sends sideId item) with sideTxDeferred := true } :=
      (Quiet.observe o rfl).trans (.of_obs rfl)
    exact ⟨rfl, hdeferred _, hquiet, fun _ => rfl, fun _ => ⟨rfl, rfl, rfl, fun _ _ => rfl, rfl, rfl, rfl⟩⟩
  | true =>
    have hnumbers : (!side.reliableEnabled || !S.isReliableType item.pkt.ty) = false := by
      rw [← Bool.not_and, hnumbered]
      rfl
    rw [if_neg (by rw [hnumbers]; exact Bool.false_ne_true)]
    have hfits : ¬ ((o.observe (.sends sideId item)).txState sideId item.pkt.ty).sent.entries.length ≥
        (o.observe (.sends sideId item)).tuning.reliableMaxPending := Nat.not_le.mpr (hroom hnumbered)
    rw [if_neg hfits]
    generalize serializePacketWithReliable S Z item.pkt _ = bytes
    generalize ho₁ : ((o.observe (.sends sideId item)).setTxState sideId item.pkt.ty
      { (o.observe (.sends sideId item)).txState sideId item.pkt.ty with
        nextSeq := nextSeq ((o.observe (.sends sideId item)).txState sideId item.pkt.ty).nextSeq }).observe
      (.number sideId item.pkt.ty ((o.observe (.sends sideId item)).txState sideId item.pkt.ty).nextSeq bytes) = o₁
    have hquiet : Quiet o o₁ := by
      rw [← ho₁]
      exact ((Quiet.observe o rfl).trans (.of_obs rfl)).trans (.observe _ rfl)
    have hseq : (o₁.txState sideId item.pkt.ty).nextSeq = nextSeq (o.txState sideId item.pkt.ty).nextSeq := by
      rw [← ho₁]
      exact congrArg ReliableTxState.nextSeq (txState_setTxState sideId item.pkt.ty _)
    have hactive₁ : o₁.sideTxActive = true := by
      rw [← ho₁]
      exact hactive
    rw [hcalled o₁ _ hactive₁, if_pos (show SEDS_IO ≠ SEDS_OK by decide)]
    refine ⟨rfl, hdeferred _, hquiet.trans (.of_obs rfl), fun halike => ?_, fun h => Bool.noConfusion h⟩
    have hsame := congrArg ReliableTxState.nextSeq (halike.sent sideId item.pkt.ty)
    exact absurd (hseq.symm.trans hsame) (nextSeq_ne _)

variable (item) in
/-- A packet that finds the window full is turned away. -/
theorem sendToSide_full {sideId : Int32} {side : Side} (hside : o.sideAt sideId = some side) (hframes : side.serializedTx = true)
    (hnumbered : (side.reliableEnabled && S.isReliableType item.pkt.ty) = true)
    (hfull : o.tuning.reliableMaxPending ≤ (o.txState sideId item.pkt.ty).sent.entries.length) :
    (o.sendToSide S Z E sideId side item).1 = SEDS_PACKET_TOO_LARGE ∧
    Quiet o (o.sendToSide S Z E sideId side item).2 ∧ Alike o (o.sendToSide S Z E sideId side item).2 := by
  unfold sendToSide sendSerializedWithReliable
  have hat : (o.observe (.sends sideId item)).sideAt sideId = some side := hside
  have hnumbers : (!side.reliableEnabled || !S.isReliableType item.pkt.ty) = false := by
    rw [← Bool.not_and, hnumbered]
    rfl
  dsimp only
  rw [if_pos hframes, hat]
  dsimp only
  rw [hframes, Bool.not_true, if_neg Bool.false_ne_true, hnumbers, if_neg Bool.false_ne_true]
  have hpending : ((o.observe (.sends sideId item)).txState sideId item.pkt.ty).sent.entries.length ≥
      (o.observe (.sends sideId item)).tuning.reliableMaxPending := hfull
  rw [if_pos hpending]
  have halike : Alike o (o.observe (.sends sideId item)) := .of_calls ⟨_, _, rfl⟩
  exact ⟨rfl, (Quiet.observe o rfl).trans (.of_obs rfl), halike.trans (.rewrite _ sideId item.pkt.ty)⟩

variable (o item) in
/-- A side that takes packets gets this one, if it has a callback. -/
theorem sendToSide_packet (sideId : Int32) {side : Side} (hframes : side.serializedTx = false) :
    Alike o (o.sendToSide S Z E sideId side item).2 ∧ (Quiet o (o.sendToSide S Z E sideId side item).2 ↔ side.packetTx = false) ∧
      (side.packetTx = false → (o.sendToSide S Z E sideId side item).1 = SEDS_OK) := by
  refine ⟨.of_calls (Router.sendToSide_calls o sideId hframes item), ?_⟩
  unfold sendToSide
  dsimp only
  rw [hframes, if_neg Bool.false_ne_true]
  have hnoted : Quiet o (o.observe (.sends sideId item)) := .observe o rfl
  cases hpacket : side.packetTx with
  | false => exact ⟨⟨fun _ => rfl, fun _ => hnoted⟩, fun _ => rfl⟩
  | true =>
    refine ⟨⟨fun hquiet => ?_, fun h => Bool.noConfusion h⟩, fun h => Bool.noConfusion h⟩
    have hsends : o.obs <+: (o.observe (.sends sideId item)).obs := ⟨[.sends sideId item], rfl⟩
    obtain ⟨-, hcalled⟩ := hquiet.parts hsends ⟨[.packetTx sideId item.pkt], rfl⟩
    exact absurd hcalled (Quiet.not_of_call (e := .packetTx sideId item.pkt) rfl (List.prefix_refl _))

variable (device locals) in
/-- **The loop over the targets, when it ends with a deferred frame.** No callback was called and no window is other than it was
    exactly when it passed over the targets before, and the deferred frame has no number. -/
theorem routerTransmitTo_deferred (sides : List Int32) (failed : Bool) (o : Owner) (hactive : o.sideTxActive = true)
    (hio : (routerTransmitTo S Z E device locals item sides failed o).1 = SEDS_IO) :
    Quiet o (routerTransmitTo S Z E device locals item sides failed o).2 ∧
        Alike o (routerTransmitTo S Z E device locals item sides failed o).2 ↔ StopsUnnumbered S o locals item.pkt sides := by
  induction sides generalizing failed o with
  | nil =>
    exfalso
    unfold routerTransmitTo at hio
    cases failed with
    | false => exact absurd hio (by decide : SEDS_OK ≠ SEDS_IO)
    | true => exact absurd hio (by decide : SEDS_HANDLER_ERROR ≠ SEDS_IO)
  | cons sideId rest ih =>
    -- what is left of the loop once the side was passed over, or was called
    have hgoes : ∀ (failed : Bool) (o' : Owner), Alike o o' → o.obs <+: o'.obs →
        (routerTransmitTo S Z E device locals item rest failed o').1 = SEDS_IO →
        (Quiet o o' ↔ PassesOver S o locals item.pkt sideId) →
        (∀ side, o.egressSide sideId = some side → side.serializedTx = true →
          (side.reliableEnabled && S.isReliableType item.pkt.ty) = true) →
        (Quiet o (routerTransmitTo S Z E device locals item rest failed o').2 ∧
          Alike o (routerTransmitTo S Z E device locals item rest failed o').2 ↔ StopsUnnumbered S o locals item.pkt (sideId :: rest)) := by
      intro failed o' halike hprefix hio hquiet hnumbered
      have hrest := ih failed o' (halike.active.trans hactive) hio
      have hemits := routerTransmitTo_anything (S := S) (Z := Z) (E := E) device locals item rest failed o'
      constructor
      · rintro ⟨hwhole, hsame⟩
        obtain ⟨hfirst, hlater⟩ := hwhole.parts hprefix hemits.prefix_obs
        exact .passes (hquiet.mp hfirst) ((hrest.mp ⟨hlater, halike.symm.trans hsame⟩).congr halike.symm)
      · intro hstops
        cases hstops with
        | stops hside hframes hunnumbered =>
          rw [hnumbered _ hside hframes] at hunnumbered
          cases hunnumbered
        | passes hpasses hstops =>
          obtain ⟨hlater, hsame⟩ := hrest.mpr (hstops.congr halike)
          exact ⟨(hquiet.mpr hpasses).trans hlater, halike.trans hsame⟩
    unfold routerTransmitTo at hio ⊢
    cases hside : o.egressSide sideId with
    | none =>
      rw [hside] at hio
      refine hgoes failed o (.refl o) (List.prefix_refl _) hio ⟨fun _ side hsome => ?_, fun _ => .refl o⟩ ?_
      · rw [hside] at hsome
        cases hsome
      · intro side hsome
        rw [hside] at hsome
        cases hsome
    | some side =>
      rw [hside] at hio
      have hat : o.sideAt sideId = some side := (egressSide_spec hside).1
      have hsome : ∀ side', o.egressSide sideId = some side' → side' = side := by
        intro side' hside'
        rw [hside, Option.some.injEq] at hside'
        exact hside'.symm
      have hemits := sendToSide_anything (S := S) (Z := Z) (E := E) o sideId side item
      dsimp only at hio ⊢
      cases hframes : side.serializedTx with
      | false =>
        obtain ⟨halike, hquiet, hok⟩ := sendToSide_packet (S := S) (Z := Z) (E := E) o item sideId hframes
        have hnever : ∀ (o : Owner) (rc : SedsResult), o.isDeferred side rc = false := by
          intro o rc
          unfold isDeferred
          rw [hframes]
          rfl
        generalize o.sendToSide S Z E sideId side item = p at hio halike hquiet hok hemits ⊢
        obtain ⟨rc, o₁⟩ := p
        have hpasses : side.packetTx = false ↔ PassesOver S o locals item.pkt sideId := by
          constructor
          · intro hnone side' hside'
            rw [hsome side' hside', hframes]
            exact ⟨fun h => Bool.noConfusion h, fun _ => hnone⟩
          · intro hpasses
            exact (hpasses side hside).2 hframes
        have hplain : ∀ side', o.egressSide sideId = some side' → side'.serializedTx = true →
            (side'.reliableEnabled && S.isReliableType item.pkt.ty) = true := by
          intro side' hside' htx
          rw [hsome side' hside', hframes] at htx
          cases htx
        dsimp only at hio halike hquiet hok hemits ⊢
        by_cases hrc : rc = SEDS_OK
        · rw [if_pos hrc] at hio ⊢
          exact hgoes failed o₁ halike hemits.prefix_obs hio (hquiet.trans hpasses) hplain
        · rw [if_neg hrc, hnever, if_neg Bool.false_ne_true] at hio ⊢
          -- the callback was called, and refused the packet
          have hcalled : ¬ Quiet o o₁ := fun h => hrc (hok (hquiet.mp h))
          have hreport := reportTxFailure_emits (P := fun _ => True) (Q := fun _ => True) S allowed Z E device locals o₁ side rc item.pkt
          refine hgoes true _ (halike.trans (.of_calls (Router.reportTxFailure_calls device locals o₁ side rc item.pkt)))
            (hemits.prefix_obs.trans hreport.prefix_obs) hio ⟨fun h => ?_, fun h => ?_⟩ hplain
          · exact absurd (h.parts hemits.prefix_obs hreport.prefix_obs).1 hcalled
          · exact absurd (hquiet.mpr (hpasses.mpr h)) hcalled
      | true =>
        by_cases hroom : (side.reliableEnabled && S.isReliableType item.pkt.ty) = true →
            (o.txState sideId item.pkt.ty).sent.entries.length < o.tuning.reliableMaxPending
        · -- the loop ends here
          obtain ⟨hrc, hdeferred, hquiet, halike⟩ := sendToSide_deferred (S := S) (Z := Z) (E := E) item hactive hat hframes hroom
          generalize o.sendToSide S Z E sideId side item = p at hrc hdeferred hquiet halike ⊢
          obtain ⟨rc, o₁⟩ := p
          dsimp only at hrc hdeferred hquiet halike ⊢
          subst hrc
          rw [if_neg (by decide), hdeferred, if_pos rfl]
          have hends : Alike o { o₁ with sideTxDeferred := false } ↔ Alike o o₁ :=
            ⟨fun h => ⟨h.sides, h.tuning, h.active, h.sent, h.received, h.returns⟩,
              fun h => ⟨h.sides, h.tuning, h.active, h.sent, h.received, h.returns⟩⟩
          have hstill : Quiet o { o₁ with sideTxDeferred := false } := hquiet.trans (.of_obs rfl)
          rw [hends, halike]
          constructor
          · rintro ⟨-, hunnumbered⟩
            exact .stops hside hframes hunnumbered
          · intro hstops
            refine ⟨hstill, ?_⟩
            cases hstops with
            | stops hside' _ hunnumbered =>
              rw [hsome _ hside'] at hunnumbered
              exact hunnumbered
            | passes hpasses _ =>
              obtain ⟨hnumbered, hfull, -⟩ := (hpasses side hside).1 hframes
              exact absurd (hroom hnumbered) (Nat.not_lt.mpr hfull)
        · rw [Classical.not_imp, Nat.not_lt] at hroom
          obtain ⟨hrc, hquiet, halike⟩ := sendToSide_full (S := S) (Z := Z) (E := E) item hat hframes hroom.1 hroom.2
          generalize o.sendToSide S Z E sideId side item = p at hio hrc halike hquiet hemits ⊢
          obtain ⟨rc, o₁⟩ := p
          dsimp only at hio hrc halike hquiet hemits ⊢
          subst hrc
          have hnever : o₁.isDeferred side SEDS_PACKET_TOO_LARGE = false := by
            unfold isDeferred
            rw [hframes]
            rfl
          rw [if_neg (by decide), hnever, if_neg Bool.false_ne_true] at hio ⊢
          have hreport := reportTxFailure_emits (P := fun _ => True) (Q := fun _ => True) S allowed Z E device locals o₁ side
            SEDS_PACKET_TOO_LARGE item.pkt
          have hsilent := (reportTxFailure_quiet (S := S) (Z := Z) (E := E) device locals o₁ side
            SEDS_PACKET_TOO_LARGE item.pkt).1
          refine hgoes true _ (halike.trans (.of_calls (Router.reportTxFailure_calls device locals o₁ side SEDS_PACKET_TOO_LARGE item.pkt)))
            (hemits.prefix_obs.trans hreport.prefix_obs) hio ⟨fun h => ?_, fun h => ?_⟩ ?_
          · have hnone := hsilent.mp (h.parts hemits.prefix_obs hreport.prefix_obs).2
            intro side' hside'
            rw [hsome side' hside', hframes]
            exact ⟨fun _ => ⟨hroom.1, hroom.2, halike.symm.unreported hnone⟩, fun h => Bool.noConfusion h⟩
          · obtain ⟨-, -, hnone⟩ := (h side hside).1 hframes
            exact hquiet.trans (hsilent.mpr (halike.unreported hnone))
          · intro side' hside' _
            rw [hsome side' hside']
            exact hroom.1

end

end Owner

/-! ## End-to-end delivery -/

/-- The entry of a packet, its pending destinations as a table of sides. -/
def EndToEndReliableSent.contents (sent : EndToEndReliableSent) : PacketData × (UInt64 → Option Int32) × Bool × UInt64 × UInt32 × Bool :=
  (sent.pkt, fun hash => sent.pendingDestinations.lookup hash, sent.trackedDestinations, sent.lastSendMs, sent.retries, sent.queued)

/-- The newest id stays where it is, if it is listed once and there is room. -/
theorem rememberId_newest {cap : Nat} {older : List UInt64} {id : UInt64} (hnew : id ∉ older) (hroom : older.length < max 1 cap) :
    rememberId cap (older ++ [id]) id = ([], older ++ [id]) := by
  have hfilter : (older ++ [id]).filter (· ≠ id) = older := by
    rw [List.filter_append, List.filter_eq_self.mpr]
    · simp
    · intro x hx
      have hne : x ≠ id := fun heq => hnew (heq ▸ hx)
      simpa using hne
  unfold rememberId
  rw [hfilter]
  dsimp only
  rw [Nat.sub_eq_zero_of_le (by omega), List.take_zero, List.drop_zero]

theorem rememberId_same {cap : Nat} {order : List UInt64} {id : UInt64} :
    (rememberId cap order id).2 = order ↔ ∃ older, order = older ++ [id] ∧ id ∉ older ∧ older.length < max 1 cap := by
  constructor
  · intro hsame
    unfold rememberId at hsame
    dsimp only at hsame
    refine ⟨_, hsame.symm, ?_, ?_⟩
    · intro hmem
      have hother := (List.mem_filter.mp (List.mem_of_mem_drop hmem)).2
      simp at hother
    · rw [List.length_drop]
      omega
  · rintro ⟨older, rfl, hnew, hroom⟩
    rw [rememberId_newest hnew hroom]

namespace Router

/-- What is remembered of a packet that waits for end-to-end ACKs. -/
def tracked (r : Router) (id : UInt64) : Option (PacketData × (UInt64 → Option Int32) × Bool × UInt64 × UInt32 × Bool) :=
  (r.endToEndReliableTx.lookup id).map EndToEndReliableSent.contents

/-- The packet is the newest of those that wait, with this entry. -/
structure TracksNewest (r : Router) (id : UInt64) (sent : EndToEndReliableSent) : Prop where
  newest : ∃ older, r.endToEndReliableTxOrder = older ++ [id] ∧ id ∉ older ∧ older.length < max 1 r.tuning.reliableMaxEndToEndPending
  entry : r.tracked id = some sent.contents

section

variable {S : Schema} {Z : Codec} {E : Env}

/-- A packet is remembered: nothing changes exactly when it is the newest already, with the same entry. -/
theorem rememberEndToEnd_same (r : Router) (pkt : PacketData) (pending : Map UInt64 Int32) :
    ((r.rememberEndToEnd S E pkt pending).endToEndReliableTxOrder = r.endToEndReliableTxOrder ∧
      ∀ id, (r.rememberEndToEnd S E pkt pending).tracked id = r.tracked id) ↔
    r.TracksNewest (packetId S pkt) ⟨pkt, pending, true, E.clock r.clockReads, 0, false⟩ := by
  unfold rememberEndToEnd Owner.packetId nowMs
  dsimp only
  constructor
  · rintro ⟨horder, htracked⟩
    refine ⟨rememberId_same.mp horder, ?_⟩
    rw [← htracked]
    unfold tracked
    dsimp only
    rw [AList.lookup_insert]
    rfl
  · rintro ⟨hnewest, hentry⟩
    refine ⟨rememberId_same.mpr hnewest, ?_⟩
    obtain ⟨older, horder, hnew, hroom⟩ := hnewest
    intro id
    unfold tracked at hentry ⊢
    dsimp only
    rw [horder, rememberId_newest hnew hroom, List.foldl_nil]
    by_cases hid : id = packetId S pkt
    · rw [hid, AList.lookup_insert, hentry]
      rfl
    · rw [AList.lookup_insert_ne hid]

/-- What waits for end-to-end ACKs once this packet goes to these sides is what has waited. -/
def TracksAlready (S : Schema) (E : Env) (r : Router) (pkt : PacketData) (sides : List Int32) : Prop :=
  (S.isReliableType pkt.ty && !isInternalControlType pkt.ty && sides.any (tracksSide r.toOwner)) = true →
    (r.toOwner.expectedEndToEndDestinations S E pkt).1.entries.isEmpty = false →
      r.TracksNewest (packetId S pkt) ⟨pkt, (r.toOwner.expectedEndToEndDestinations S E pkt).1, true, E.clock (r.clockReads + 1), 0, false⟩

theorem trackEndToEnd_same (r : Router) (pkt : PacketData) (sides : List Int32) :
    ((r.trackEndToEnd S E pkt sides).endToEndReliableTxOrder = r.endToEndReliableTxOrder ∧
      ∀ id, (r.trackEndToEnd S E pkt sides).tracked id = r.tracked id) ↔ TracksAlready S E r pkt sides := by
  unfold trackEndToEnd TracksAlready
  cases S.isReliableType pkt.ty && !isInternalControlType pkt.ty && sides.any (tracksSide r.toOwner) with
  | false => exact ⟨fun _ h => Bool.noConfusion h, fun _ => ⟨rfl, fun _ => rfl⟩⟩
  | true =>
    simp only [if_true, forall_const]
    cases hempty : (r.toOwner.expectedEndToEndDestinations S E pkt).1.entries.isEmpty with
    | true => exact ⟨fun _ h => Bool.noConfusion h, fun _ => ⟨rfl, fun _ => rfl⟩⟩
    | false =>
      simp only [Bool.false_eq_true, if_false, forall_const]
      refine (rememberEndToEnd_same (r.setOwner (r.toOwner.expectedEndToEndDestinations S E pkt).2) pkt
        (r.toOwner.expectedEndToEndDestinations S E pkt).1).trans ?_
      exact ⟨fun h => ⟨h.newest, h.entry⟩, fun h => ⟨h.newest, h.entry⟩⟩

/-- Apart from that, noting a packet leaves the reliable layer alone. -/
theorem trackEndToEnd_alike (r : Router) (pkt : PacketData) (sides : List Int32) :
    Alike r.toOwner (r.trackEndToEnd S E pkt sides).toOwner ∧ Quiet r.toOwner (r.trackEndToEnd S E pkt sides).toOwner ∧
      (r.trackEndToEnd S E pkt sides).locals = r.locals := by
  unfold trackEndToEnd
  have hread : Alike r.toOwner (r.toOwner.expectedEndToEndDestinations S E pkt).2 := ⟨rfl, rfl, rfl, fun _ _ => rfl, rfl, rfl, rfl⟩
  have hquiet : Quiet r.toOwner (r.toOwner.expectedEndToEndDestinations S E pkt).2 := .of_obs rfl
  split
  · dsimp only
    split
    · exact ⟨hread, hquiet, rfl⟩
    · refine ⟨⟨rfl, rfl, rfl, fun _ _ => rfl, rfl, rfl, rfl⟩, ?_, rfl⟩
      have hhashed := (Quiet.observe (r.toOwner.expectedEndToEndDestinations S E pkt).2
        (e := .hash (pkt.endpoints.map fun ep => S.kEndpointNames[ep.toNat]?)) rfl)
      have hnoted := Quiet.observe (((r.toOwner.expectedEndToEndDestinations S E pkt).2.packetId S pkt).2.nowMs E).2
        (e := .tracks (packetId S pkt)) rfl
      exact ((hquiet.trans hhashed).trans (.of_obs rfl)).trans hnoted
  · exact ⟨.refl _, .refl _, rfl⟩

/-! ## Transmission -/

/-- Nothing that others see has happened, and what the router remembers for reliable and end-to-end delivery is as before. -/
structure Untouched (r r' : Router) : Prop where
  quiet : Quiet r.toOwner r'.toOwner
  sent : ∀ sideId ty, r'.txState sideId ty = r.txState sideId ty
  received : r'.reliableRx = r.reliableRx
  returns : r'.reliableReturnRoutes = r.reliableReturnRoutes ∧ r'.reliableReturnRouteOrder = r.reliableReturnRouteOrder
  order : r'.endToEndReliableTxOrder = r.endToEndReliableTxOrder
  tracked : ∀ id, r'.tracked id = r.tracked id

/-- The targets of an item. -/
def targetsOf (S : Schema) (E : Env) (r : Router) (item : TxItem) : List Int32 :=
  (r.toOwner.targets S E item (r.preferredSource item.pkt)).1

/-- There is nothing to do before a transmission of this item finds out that it has to wait: no local handler is to be called,
    end-to-end delivery has nothing new to note, and the loop over the targets passes over those before the side that takes
    the frame, which has no number. -/
structure DefersFreely (S : Schema) (E : Env) (r : Router) (item : TxItem) : Prop where
  unheard : item.deliverLocal = true → Unheard r.toOwner r.locals item.pkt.endpoints
  tracks : TracksAlready S E (r.setOwner (r.toOwner.targets S E item (r.preferredSource item.pkt)).2) item.pkt (r.targetsOf S E item)
  stops : StopsUnnumbered S r.toOwner r.locals item.pkt (r.targetsOf S E item)

/-- Callbacks that were called before do not count. -/
theorem TracksAlready.calls {r : Router} {o o' : Owner} (h : Calls o o') {pkt : PacketData} {sides : List Int32}
    (htracks : TracksAlready S E (r.setOwner o) pkt sides) : TracksAlready S E (r.setOwner o') pkt sides := by
  obtain ⟨_, _, rfl⟩ := h
  intro hreliable hpending
  obtain ⟨hnewest, hentry⟩ := htracks hreliable hpending
  exact ⟨hnewest, hentry⟩

theorem targets_calls {o o' : Owner} (h : Calls o o') (item : TxItem) (preferred : Option Bytes) :
    (o'.targets S E item preferred).1 = (o.targets S E item preferred).1 ∧
      Calls (o.targets S E item preferred).2 (o'.targets S E item preferred).2 := by
  obtain ⟨_, _, rfl⟩ := h
  unfold targets setPolicyOf
  dsimp only
  cases item.srcSide with
  | none => exact ⟨rfl, _, _, rfl⟩
  | some src => exact ⟨rfl, _, _, rfl⟩

/-- Choosing the targets moves a policy on, and reads the clock. -/
theorem targets_alike (o : Owner) (item : TxItem) (preferred : Option Bytes) :
    Alike o (o.targets S E item preferred).2 ∧ (o.targets S E item preferred).2.obs = o.obs := by
  unfold targets setPolicyOf
  dsimp only
  cases item.srcSide with
  | none => exact ⟨⟨rfl, rfl, rfl, fun _ _ => rfl, rfl, rfl, rfl⟩, rfl⟩
  | some src => exact ⟨⟨rfl, rfl, rfl, fun _ _ => rfl, rfl, rfl, rfl⟩, rfl⟩

theorem deliverLocal_quiet (r : Router) (item : TxItem) (hok : (deliverLocal S Z E r item).1 = true) :
    ∃ o, (deliverLocal S Z E r item).2 = r.setOwner o ∧ Calls r.toOwner o ∧ r.toOwner.obs <+: o.obs ∧
      (Quiet r.toOwner o ↔ (item.deliverLocal = true → Unheard r.toOwner r.locals item.pkt.endpoints)) := by
  unfold deliverLocal at hok ⊢
  cases hlocal : item.deliverLocal with
  | false => exact ⟨r.toOwner, rfl, .refl _, List.prefix_refl _, fun _ h => Bool.noConfusion h, fun _ => .refl _⟩
  | true =>
    rw [hlocal] at hok
    simp only [if_true, forall_const] at hok ⊢
    obtain ⟨hpackets, hsame⟩ := dispatchLocalPacketHandlers_quiet (S := S) (E := E) r.deviceIdentifier r.locals
      item.pkt r.toOwner
    have hcalls := dispatchLocalPacketHandlers_calls S E r.deviceIdentifier r.locals item.pkt r.toOwner
    have hemits := dispatchLocalPacketHandlers_emits (P := fun _ => True) (Q := fun _ => True) S allowed E r.deviceIdentifier r.locals
      item.pkt r.toOwner
    generalize dispatchLocalPacketHandlers S E r.deviceIdentifier r.locals item.pkt r.toOwner = p at hok hpackets hsame hcalls hemits ⊢
    obtain ⟨rc, o₁⟩ := p
    dsimp only at hok hpackets hsame hcalls hemits ⊢
    by_cases hrc : rc = SEDS_OK
    · rw [if_neg (not_not.mpr hrc)]
      have hlater := dispatchLocalSerializedHandlers_emits (P := fun _ => True) (Q := fun _ => True) S allowed E r.locals
        item.pkt.endpoints (serializePacket S Z item.pkt) o₁
      refine ⟨_, rfl, hcalls.trans (dispatchLocalSerializedHandlers_calls E r.locals _ _ o₁), hemits.prefix_obs.trans hlater.prefix_obs, ?_⟩
      have hframes := dispatchLocalSerializedHandlers_quiet (E := E) r.locals item.pkt.endpoints (serializePacket S Z item.pkt) o₁
      rw [unheard_iff]
      constructor
      · intro hquiet
        obtain ⟨hfirst, hsecond⟩ := hquiet.parts hemits.prefix_obs hlater.prefix_obs
        exact ⟨hpackets.mp hfirst, hframes.1.mp hsecond⟩
      · rintro ⟨hnone, hnoframes⟩
        exact (hpackets.mpr hnone).trans (hframes.1.mpr hnoframes)
    · rw [if_pos hrc] at hok
      cases hok

end

end Router

/-- **A deferred transmission**, for every router and every item whose transmission is deferred because one is under way: no
    handler was called, no side got the packet, and nothing of reliable and end-to-end delivery changed, exactly when there was
    nothing to do before. -/
theorem transmitItem_deferred (S : Schema) (Z : Codec) (E : Env) (r : Router) (item : TxItem) (hactive : r.sideTxActive = true)
    (hio : (r.transmitItem S Z E item).1 = SEDS_IO) :
    r.Untouched (r.transmitItem S Z E item).2 ↔ r.DefersFreely S E item := by
  have hlocal := Router.deliverLocal_quiet (S := S) (Z := Z) (E := E) r item
  unfold Router.transmitItem at hio ⊢
  generalize Router.deliverLocal S Z E r item = p at hio hlocal ⊢
  obtain ⟨ok, r₁⟩ := p
  cases ok with
  | false => exact absurd hio (by decide : SEDS_HANDLER_ERROR ≠ SEDS_IO)
  | true =>
    obtain ⟨o₁, heq, hcalls, hprefix, hunheard⟩ := hlocal rfl
    dsimp only at heq hio ⊢
    subst heq
    have hback : Calls o₁ r.toOwner := by
      obtain ⟨_, _, rfl⟩ := hcalls
      exact ⟨_, _, rfl⟩
    obtain ⟨hsides, hchosen⟩ := Router.targets_calls (S := S) (E := E) hcalls item (r.preferredSource item.pkt)
    obtain ⟨-, hunchosen⟩ := Router.targets_calls (S := S) (E := E) hback item (r.preferredSource item.pkt)
    obtain ⟨halike, hobs⟩ := Router.targets_alike (S := S) (E := E) o₁ item (r.preferredSource item.pkt)
    have hpreferred : (r.setOwner o₁).preferredSource item.pkt = r.preferredSource item.pkt := rfl
    have howner : (r.setOwner o₁).toOwner = o₁ := rfl
    have hagain : ∀ o, (r.setOwner o₁).setOwner o = r.setOwner o := fun _ => rfl
    rw [hpreferred, howner, hagain] at hio ⊢
    have hof : r.targetsOf S E item = (o₁.targets S E item (r.preferredSource item.pkt)).1 := hsides.symm
    generalize o₁.targets S E item (r.preferredSource item.pkt) = p at hio hof hchosen hunchosen halike hobs ⊢
    obtain ⟨sides, o₂⟩ := p
    dsimp only at hio hof hchosen hunchosen halike hobs ⊢
    have hbooks := Router.trackEndToEnd_same (S := S) (E := E) (r.setOwner o₂) item.pkt sides
    obtain ⟨halike₂, hquiet₂, hlocals⟩ := Router.trackEndToEnd_alike (S := S) (E := E) (r.setOwner o₂) item.pkt sides
    generalize Router.trackEndToEnd S E (r.setOwner o₂) item.pkt sides = r₂ at hio hbooks halike₂ hquiet₂ hlocals ⊢
    -- up to the loop the reliable layer is as it was
    have hsame : Alike r.toOwner r₂.toOwner := ((Alike.of_calls hcalls).trans halike).trans halike₂
    have hchose : Quiet o₁ r₂.toOwner := (Quiet.of_obs hobs).trans hquiet₂
    have hloop := routerTransmitTo_deferred r₂.deviceIdentifier r₂.locals sides false r₂.toOwner (hsame.active.trans hactive) hio
    have hemits := routerTransmitTo_anything (S := S) (Z := Z) (E := E) r₂.deviceIdentifier r₂.locals item sides false r₂.toOwner
    generalize (Owner.routerTransmitTo S Z E r₂.deviceIdentifier r₂.locals item sides false r₂.toOwner).2 = o₃ at hloop hemits ⊢
    rw [show r₂.locals = r.locals from hlocals] at hloop
    constructor
    · intro h
      obtain ⟨hfirst, hrest⟩ := h.quiet.parts hprefix (hchose.prefix_obs.trans hemits.prefix_obs)
      obtain ⟨-, hlast⟩ := hrest.parts hchose.prefix_obs hemits.prefix_obs
      have hend : Alike r₂.toOwner o₃ :=
        ⟨hemits.sides, hemits.tuning, hemits.active, fun sideId ty => (h.sent sideId ty).trans (hsame.sent sideId ty).symm,
          h.received.trans hsame.received.symm, h.returns.1.trans hsame.returns.1.symm, h.returns.2.trans hsame.returns.2.symm⟩
      have htracks := hbooks.mp ⟨h.order, h.tracked⟩
      have hstops := hloop.mp ⟨hlast, hend⟩
      refine ⟨hunheard.mp hfirst, ?_, ?_⟩
      · rw [hof]
        exact htracks.calls hunchosen
      · rw [hof]
        exact hstops.congr hsame.symm
    · rintro ⟨hnone, htracks, hstops⟩
      rw [hof] at htracks hstops
      obtain ⟨horder, htracked⟩ := hbooks.mpr (htracks.calls hchosen)
      obtain ⟨hlast, hend⟩ := hloop.mpr (hstops.congr hsame)
      have hall := hsame.trans hend
      exact ⟨((hunheard.mpr hnone).trans hchose).trans hlast, hall.sent, hall.received, hall.returns, horder, htracked⟩

/-- A router inside a tx callback, with a side for frames that are not numbered. -/
def busyRouter : Router := { Router.new .Sink (ascii "R") [.serialized [] false] [] with sideTxActive := true }

theorem transmitItem_deferred_busy :
    busyRouter.Untouched (busyRouter.transmitItem defaultTestSchema (.absent 16) .calm ⟨gpsPacket, none, none, true⟩).2 := by
  have hio : (busyRouter.transmitItem defaultTestSchema (.absent 16) .calm ⟨gpsPacket, none, none, true⟩).1 = SEDS_IO ∧
      busyRouter.targetsOf defaultTestSchema .calm ⟨gpsPacket, none, none, true⟩ = [0] := by
    rw [defaultTestSchema_eq]
    decide +kernel
  refine (transmitItem_deferred defaultTestSchema (.absent 16) .calm busyRouter ⟨gpsPacket, none, none, true⟩ rfl hio.1).mpr ⟨?_, ?_, ?_⟩
  · exact fun _ l hl => absurd hl List.not_mem_nil
  · intro htracked
    rw [hio.2, List.any_cons, List.any_nil, Bool.or_false, Bool.and_eq_true] at htracked
    obtain ⟨halike, -⟩ := Router.targets_alike (S := defaultTestSchema) (E := .calm) busyRouter.toOwner ⟨gpsPacket, none, none, true⟩
      (busyRouter.preferredSource gpsPacket)
    have htracks := htracked.2
    unfold Router.tracksSide Owner.sideAt Router.setOwner at htracks
    dsimp only at htracks
    rw [halike.sides] at htracks
    cases htracks
  · rw [hio.2]
    have hside : busyRouter.egressSide 0 = some (.serialized [] false) := rfl
    exact .stops hside rfl rfl

/-- A report is queued for a local handler and for a side while a transmission is under way. The handler is called, and the
    frame has the number 1. Afterwards the handler is called again, and the report is sent with the number 2. -/
theorem transmitItem_repeats :
    let r : Router := { calledRouter with sideTxActive := true }
    let item : TxItem := ⟨gpsPacket, none, none, true⟩
    let r' := (r.transmitItem defaultTestSchema (.absent 16) .calm item).2
    let r'' := (Router.transmitItem defaultTestSchema (.absent 16) .calm { r' with sideTxActive := false } item).2
    (r.transmitItem defaultTestSchema (.absent 16) .calm item).1 = SEDS_IO ∧ ¬ r.Untouched r' ∧
      r''.obs.count (.packetHandler 0 gpsPacket) = 2 ∧ (r''.txState 0 gpsPacket.ty).nextSeq = 3 := by
  have hrun :
      let r : Router := { calledRouter with sideTxActive := true }
      let item : TxItem := ⟨gpsPacket, none, none, true⟩
      let r' := (r.transmitItem defaultTestSchema (.absent 16) .calm item).2
      let r'' := (Router.transmitItem defaultTestSchema (.absent 16) .calm { r' with sideTxActive := false } item).2
      (r.transmitItem defaultTestSchema (.absent 16) .calm item).1 = SEDS_IO ∧
        ((r'.txState 0 gpsPacket.ty).nextSeq = 2 ∧ (r.txState 0 gpsPacket.ty).nextSeq = 1) ∧
        r''.obs.count (.packetHandler 0 gpsPacket) = 2 ∧ (r''.txState 0 gpsPacket.ty).nextSeq = 3 := by
    rw [defaultTestSchema_eq]
    decide +kernel
  obtain ⟨hio, hseq, hrest⟩ := hrun
  refine ⟨hio, fun huntouched => ?_, hrest⟩
  have hsame := congrArg ReliableTxState.nextSeq (huntouched.sent 0 gpsPacket.ty)
  rw [hseq.1, hseq.2] at hsame
  exact absurd hsame (by decide)

end SedsNet
