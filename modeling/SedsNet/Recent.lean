import SedsNet.Lib.Recents
import SedsNet.Lib.Machine
import SedsNet.Relay.Moves

/-!
# The window of recent ids

`push_recent` keeps a deque and a set in step: the window of the ids that were new when they were pushed
(`Lib.Recents`). A router looks into it when it receives a packet, and a relay, under an id that is tagged with the side,
when a frame without a reliable header arrives. What is in the window is not taken again.
-/

set_option autoImplicit false

namespace SedsNet

open Lib

/-- The id that enters the window. -/
def Obs.remembered : Obs → Option UInt64
  | .remember id => some id
  | _ => none

namespace Owner

/-! ## The window -/

/-- The deque and the set hold the last ids that were new, and `seen` are all that ever were. -/
structure RecentWindow (o : Owner) (seen : List UInt64) : Prop where
  room : o.memory.maxRecentRxIds ≠ 0
  ids : Recents o.memory.maxRecentRxIds o.recentIds seen
  set : o.recentSet = o.recentIds.toFinset

theorem RecentWindow.mem_iff {o : Owner} {seen : List UInt64} (h : RecentWindow o seen) {id : UInt64} :
    id ∈ o.recentSet ↔ id ∈ o.recentIds := by
  rw [h.set, List.mem_toFinset]

theorem RecentWindow.length_le {o : Owner} {seen : List UInt64} (h : RecentWindow o seen) :
    o.recentIds.length ≤ o.memory.maxRecentRxIds := h.ids.length_le

/-- Nothing was new yet. -/
theorem RecentWindow.nil {o : Owner} (hroom : o.memory.maxRecentRxIds ≠ 0) (hids : o.recentIds = []) (hset : o.recentSet = ∅) :
    RecentWindow o [] where
  room := hroom
  ids := by rw [hids]; exact .nil _
  set := by rw [hset, hids]; rfl

theorem RecentWindow.of_eq {o o' : Owner} {seen : List UInt64} (h : RecentWindow o seen) (hmemory : o'.memory = o.memory)
    (hids : o'.recentIds = o.recentIds) (hset : o'.recentSet = o.recentSet) : RecentWindow o' seen where
  room := by rw [hmemory]; exact h.room
  ids := by rw [hmemory, hids]; exact h.ids
  set := by rw [hset, hids]; exact h.set

/-- `push_recent` is `Lib.remember`, on the deque and on the set. -/
theorem RecentWindow.pushRecent_eq {o : Owner} {seen : List UInt64} (h : RecentWindow o seen) (id : UInt64) :
    (o.pushRecent id).recentIds = remember o.memory.maxRecentRxIds o.recentIds id ∧
    (o.pushRecent id).recentSet = (remember o.memory.maxRecentRxIds o.recentIds id).toFinset ∧
    (o.pushRecent id).memory = o.memory ∧
    (o.pushRecent id).obs = o.obs ++ if id ∈ o.recentSet then [] else [.remember id] := by
  have hiff : id ∈ o.recentSet ↔ id ∈ o.recentIds := h.mem_iff
  unfold pushRecent remember
  by_cases hmem : id ∈ o.recentSet
  · rw [if_pos hmem, if_pos (hiff.mp hmem), if_pos hmem]
    exact ⟨rfl, h.set, rfl, (List.append_nil _).symm⟩
  · rw [if_neg hmem, if_neg fun hin => hmem (hiff.mpr hin), if_neg hmem]
    dsimp only
    by_cases hfull : o.recentIds.length ≥ o.memory.maxRecentRxIds
    · rw [if_pos hfull, if_pos hfull]
      refine ⟨rfl, ?_, rfl, rfl⟩
      -- the oldest leaves the set as it leaves the deque
      have htail : o.recentSet.erase (o.recentIds.headD 0) = o.recentIds.tail.toFinset := by
        have hnodup := h.ids.nodup
        rw [h.set]
        cases hids : o.recentIds with
        | nil => rfl
        | cons oldest rest =>
          rw [hids] at hnodup
          rw [List.toFinset_cons]
          refine Finset.erase_insert fun hin => ?_
          exact (List.nodup_cons.mp hnodup).1 (List.mem_toFinset.mp hin)
      change insert id (o.recentSet.erase (o.recentIds.headD 0)) = _
      rw [htail, List.toFinset_append, Finset.union_comm]
      rfl
    · rw [if_neg hfull, if_neg hfull]
      refine ⟨rfl, ?_, rfl, rfl⟩
      change insert id o.recentSet = _
      rw [h.set, List.toFinset_append, Finset.union_comm]
      rfl

/-- **A push**: what is new is the newest in the window. -/
theorem RecentWindow.pushRecent {o : Owner} {seen : List UInt64} (h : RecentWindow o seen) (id : UInt64) :
    RecentWindow (o.pushRecent id) (seen ++ if id ∈ o.recentSet then [] else [id]) := by
  obtain ⟨hids, hset, hmemory, -⟩ := h.pushRecent_eq id
  refine ⟨by rw [hmemory]; exact h.room, ?_, by rw [hset, hids]⟩
  rw [hmemory, hids]
  by_cases hmem : id ∈ o.recentSet
  · rw [if_pos hmem, List.append_nil]
    have hsame : remember o.memory.maxRecentRxIds o.recentIds id = o.recentIds := if_pos (h.mem_iff.mp hmem)
    rw [hsame]
    exact h.ids
  · rw [if_neg hmem]
    exact h.ids.remember h.room fun hin => hmem (h.mem_iff.mpr hin)

/-- **Any sequence of pushes.** -/
theorem RecentWindow.foldl {o : Owner} {seen : List UInt64} (h : RecentWindow o seen) (ids : List UInt64) :
    RecentWindow (ids.foldl Owner.pushRecent o) (seen ++ news o.memory.maxRecentRxIds o.recentIds ids) := by
  induction ids generalizing o seen with
  | nil =>
    unfold news
    rwa [List.append_nil]
  | cons id ids ih =>
    rw [List.foldl_cons]
    obtain ⟨hids, -, hmemory, -⟩ := h.pushRecent_eq id
    have hpushed := h.pushRecent id
    have hrest := ih hpushed
    rw [hmemory, hids] at hrest
    unfold news
    by_cases hmem : id ∈ o.recentSet
    · have hsame : remember o.memory.maxRecentRxIds o.recentIds id = o.recentIds := if_pos (h.mem_iff.mp hmem)
      rw [if_pos hmem, List.append_nil, hsame] at hrest
      rwa [if_pos (h.mem_iff.mp hmem)]
    · rw [if_neg hmem, List.append_assoc] at hrest
      rwa [if_neg fun hin => hmem (h.mem_iff.mpr hin)]

theorem foldl_pushRecent_memory (o : Owner) (ids : List UInt64) : (ids.foldl Owner.pushRecent o).memory = o.memory := by
  induction ids generalizing o with
  | nil => rfl
  | cons id ids ih =>
    rw [List.foldl_cons, ih]
    unfold Owner.pushRecent
    dsimp only
    split
    · rfl
    · split
      · rfl
      · rfl

/-! ## Steps -/

/-- What happens between the two states that `seen` has to be told of. -/
def Pushes (o o' : Owner) : Prop :=
  ∃ l, o'.obs = o.obs ++ l ∧ ∀ seen, RecentWindow o seen → RecentWindow o' (seen ++ l.filterMap Obs.remembered)

/-- Nothing enters the window. -/
def Unpushed (e : Obs) : Prop := e.remembered = none

namespace Pushes

variable {o o' o'' : Owner}

theorem refl (o : Owner) : Pushes o o := by
  refine ⟨[], (List.append_nil _).symm, fun seen h => ?_⟩
  rw [List.filterMap_nil, List.append_nil]
  exact h

theorem trans (h : Pushes o o') (h' : Pushes o' o'') : Pushes o o'' := by
  obtain ⟨l, hobs, hwindow⟩ := h
  obtain ⟨l', hobs', hwindow'⟩ := h'
  refine ⟨l ++ l', by rw [hobs', hobs, List.append_assoc], fun seen hseen => ?_⟩
  have hafter := hwindow' _ (hwindow seen hseen)
  rwa [List.append_assoc, ← List.filterMap_append] at hafter

theorem of_moves {P : TxItem → Prop} {R : PacketData → Prop} (h : Moves P Unpushed R o o') : Pushes o o' := by
  obtain ⟨l, hobs, hquiet⟩ := h.trace
  have hnone : ∀ id, ¬ Unpushed (.remember id) := fun id => Option.some_ne_none id
  obtain ⟨hids, hset⟩ := h.recent hnone
  refine ⟨l, hobs, fun seen hseen => ?_⟩
  rw [List.filterMap_eq_nil_iff.mpr hquiet, List.append_nil]
  exact hseen.of_eq h.memory hids hset

/-- From the beginning on, the record tells what was new. -/
theorem window (h : Pushes o o') (hblank : o.Blank) (hroom : o.memory.maxRecentRxIds ≠ 0) :
    RecentWindow o' (o'.obs.filterMap Obs.remembered) := by
  obtain ⟨l, hobs, hwindow⟩ := h
  have hafter := hwindow [] (.nil hroom hblank.recentIds hblank.recentSet)
  rw [hobs, hblank.obs]
  exact hafter

theorem of_emits {P : TxItem → Prop} (h : Emits P Unpushed o o') : Pushes o o' := of_moves (R := fun _ => True) h.moves

end Pushes

/-- What is new is on record, and in the window. -/
theorem pushRecent_new {o : Owner} {id : UInt64} (h : id ∉ o.recentSet) :
    (o.pushRecent id).obs = o.obs ++ [.remember id] ∧ id ∈ (o.pushRecent id).recentSet := by
  unfold pushRecent
  rw [if_neg h]
  dsimp only
  refine ⟨?_, Finset.mem_insert_self _ _⟩
  split
  · rfl
  · rfl

/-- A push, on record. Where there is a window already, the record says what was new. -/
theorem pushRecent_pushes (o : Owner) (id : UInt64) : Pushes o (o.pushRecent id) := by
  by_cases hmem : id ∈ o.recentSet
  · have hsame : o.pushRecent id = o := if_pos hmem
    rw [hsame]
    exact .refl o
  · refine ⟨[.remember id], (pushRecent_new hmem).1, fun seen h => ?_⟩
    have hpushed := h.pushRecent id
    rwa [if_neg hmem] at hpushed

end Owner

open Owner

/-! ## Routers -/

/-- What a router does with a copy: nothing but to acknowledge it again. -/
structure Ignored (S : Schema) (r : Router) (srcSide : Option Int32) (r' : Router) : Prop where
  router : r' = r.setOwner r'.toOwner
  owner : r'.toOwner = { r.toOwner with obs := r'.obs, clockReads := r'.clockReads, txQueue := r'.txQueue, peak := r'.peak }
  quiet : ∃ l, r'.obs = r.obs ++ l ∧ ∀ e ∈ l, ∃ names, e = .hash names
  acks : ∀ item ∈ r'.txQueue.items, item ∈ r.txQueue.items ∨
    ∃ id ts sender, item = ⟨makeE2eReliableAckPacket S id ts sender, none, srcSide, false⟩

/-- **Receipt, once**: a packet whose id is in the window is a copy, any other enters it, and afterwards it is there. -/
structure ReceivesOnce (S : Schema) (r : Router) (pkt : PacketData) (srcSide : Option Int32) (r' : Router) : Prop where
  copy : packetId S pkt ∈ r.recentSet → Ignored S r srcSide r'
  remembered : ∃ l, r'.obs = r.obs ++ l ∧ l.filterMap Obs.remembered = if packetId S pkt ∈ r.recentSet then [] else [packetId S pkt]
  after : packetId S pkt ∈ r'.recentSet

namespace Router

variable {S : Schema} {Z : Codec} {E : Env}

/-- Only ids and acknowledgements. -/
structure Acknowledges (S : Schema) (srcSide : Option Int32) (o o' : Owner) : Prop where
  owner : o' = { o with obs := o'.obs, clockReads := o'.clockReads, txQueue := o'.txQueue, peak := o'.peak }
  quiet : ∃ l, o'.obs = o.obs ++ l ∧ ∀ e ∈ l, ∃ names, e = .hash names
  acks : ∀ item ∈ o'.txQueue.items, item ∈ o.txQueue.items ∨
    ∃ id ts sender, item = ⟨makeE2eReliableAckPacket S id ts sender, none, srcSide, false⟩

namespace Acknowledges

variable {srcSide : Option Int32} {o o' o'' : Owner}

theorem trans (h : Acknowledges S srcSide o o') (h' : Acknowledges S srcSide o' o'') : Acknowledges S srcSide o o'' where
  owner := by
    rw [h'.owner, h.owner]
  quiet := by
    obtain ⟨l, hobs, hquiet⟩ := h.quiet
    obtain ⟨l', hobs', hquiet'⟩ := h'.quiet
    refine ⟨l ++ l', by rw [hobs', hobs, List.append_assoc], fun e he => ?_⟩
    rcases List.mem_append.mp he with he | he
    · exact hquiet e he
    · exact hquiet' e he
  acks item hitem := by
    rcases h'.acks item hitem with hold | hnew
    · exact h.acks item hold
    · exact .inr hnew

theorem hash (o : Owner) (names : List (Option (Option String))) : Acknowledges S srcSide o (o.observe (.hash names)) where
  owner := rfl
  quiet := ⟨[.hash names], rfl, fun _ he => ⟨names, List.mem_singleton.mp he⟩⟩
  acks _ hitem := .inl hitem

theorem ack (E : Env) (o : Owner) (id : UInt64) : Acknowledges S srcSide o (queueE2eAck S E o srcSide id) := by
  have hemits : Emits (fun item => ∃ id ts sender, item = ⟨makeE2eReliableAckPacket S id ts sender, none, srcSide, false⟩)
      (fun _ => False) o (queueE2eAck S E o srcSide id) :=
    queueE2eAck_emits S E (fun id ts sender => ⟨id, ts, sender, rfl⟩) o id
  obtain ⟨l, hobs, hnone⟩ := hemits.trace
  refine ⟨?_, ⟨l, hobs, fun e he => (hnone e he).elim⟩, hemits.tx⟩
  unfold queueE2eAck enqueueTxFront enqueueTxAt
  dsimp only
  split
  · rfl
  · rfl

end Acknowledges

/-- **A copy is ignored.** -/
theorem routerReceiveImpl_ignored {r : Router} {pkt : PacketData} {srcSide : Option Int32} (hcopy : packetId S pkt ∈ r.recentSet) :
    Ignored S r srcSide (routerReceiveImpl S Z E r pkt srcSide) := by
  have hid : Acknowledges S srcSide r.toOwner (r.toOwner.packetId S pkt).2 := .hash r.toOwner _
  have hacks : Acknowledges S srcSide (r.toOwner.packetId S pkt).2 (queueEndToEndAck S E (r.toOwner.packetId S pkt).2 pkt srcSide) := by
    have hone : ∀ (o : Owner) (id : UInt64), Acknowledges S srcSide o (queueE2eAck S E o srcSide id) := Acknowledges.ack E
    unfold queueEndToEndAck
    dsimp only
    generalize (r.toOwner.packetId S pkt).2 = o
    have hfirst : Acknowledges S srcSide o ((queueE2eAck S E (o.packetId S pkt).2 srcSide (o.packetId S pkt).1).sourcePacketId S pkt).2 :=
      ((Acknowledges.hash o _).trans (hone _ _)).trans (.hash _ _)
    have hsecond : ∀ o' : Owner, Acknowledges S srcSide o' (o'.observe (.hash (pkt.endpoints.map fun ep => S.kEndpointNames[ep.toNat]?))) :=
      fun o' => .hash o' _
    split
    · exact (hfirst.trans (hsecond _)).trans (hone _ _)
    · exact hfirst.trans (hsecond _)
  have hof : ∀ o : Owner, Acknowledges S srcSide r.toOwner o → Ignored S r srcSide (r.setOwner o) :=
    fun o h => ⟨rfl, h.owner, h.quiet, h.acks⟩
  unfold routerReceiveImpl
  dsimp only
  have hmem : (r.toOwner.packetId S pkt).1 ∈ (r.toOwner.packetId S pkt).2.recentSet := hcopy
  rw [if_pos hmem]
  split
  · exact hof _ (hid.trans hacks)
  · exact hof _ hid

/-! ### Acts -/

theorem unpushed_of_plain {e : Obs} (h : e.plain = true) : Unpushed e := by
  cases e with
  | remember id => cases h
  | _ => rfl

theorem unpushed_of_fromPeer {e : Obs} (h : e.fromPeer = true) : Unpushed e := by
  cases e with
  | remember id => cases h
  | _ => rfl

theorem grants_unpushed : Grants (fun _ => True) Unpushed S :=
  ⟨⟨fun _ _ _ _ _ _ _ => trivial, fun _ => unpushed_of_plain⟩, fun _ => rfl, fun _ _ _ _ _ => trivial, fun _ _ _ _ _ _ => trivial,
    fun _ _ _ _ => trivial⟩

/-- What comes after the window has been looked into. -/
theorem routePacket_pushes (r : Router) (pkt : PacketData) (srcSide : Option Int32) :
    Pushes r.toOwner (routePacket S Z E r pkt srcSide).toOwner ∧
      (routePacket S Z E r pkt srcSide).recentSet = r.recentSet ∧
      ∃ l, (routePacket S Z E r pkt srcSide).obs = r.obs ++ l ∧ ∀ e ∈ l, Unpushed e := by
  have hreceives : Receives (fun _ => True) Unpushed (fun _ => True) S E r pkt srcSide :=
    ⟨fun o => .observe o rfl, fun o => .observe o rfl, fun _ _ _ => trivial, trivial, fun _ _ _ => rfl, fun _ _ => trivial,
      fun _ _ _ => trivial, fun _ _ he => unpushed_of_fromPeer (peerEvent_fromPeer he), fun _ _ _ => trivial, trivial, fun _ => rfl⟩
  have hemits := (routePacket_does (M := fun _ => True) (K := fun _ _ => True) S grants_unpushed.allows Z E hreceives).emits
  exact ⟨.of_emits hemits, (hemits.recent fun id => Option.some_ne_none id).2, hemits.trace⟩

/-- **Receipt** pushes the id, and nothing else. -/
theorem routerReceiveImpl_pushes (r : Router) (pkt : PacketData) (srcSide : Option Int32) :
    Pushes r.toOwner (routerReceiveImpl S Z E r pkt srcSide).toOwner ∧
    ReceivesOnce S r pkt srcSide (routerReceiveImpl S Z E r pkt srcSide) := by
  by_cases hcopy : packetId S pkt ∈ r.recentSet
  · have hignored : Ignored S r srcSide (routerReceiveImpl S Z E r pkt srcSide) := routerReceiveImpl_ignored hcopy
    obtain ⟨l, hobs, hquiet⟩ := hignored.quiet
    have hnone : l.filterMap Obs.remembered = [] := by
      refine List.filterMap_eq_nil_iff.mpr fun e he => ?_
      obtain ⟨names, rfl⟩ := hquiet e he
      rfl
    refine ⟨⟨l, hobs, fun seen hseen => ?_⟩, fun _ => hignored, ⟨l, hobs, ?_⟩, ?_⟩
    · rw [hnone, List.append_nil, hignored.owner]
      exact hseen.of_eq rfl rfl rfl
    · rw [if_pos hcopy, hnone]
    · rw [hignored.owner]
      exact hcopy
  · have hmem : (r.toOwner.packetId S pkt).1 ∉ (r.toOwner.packetId S pkt).2.recentSet := hcopy
    have hreceived : routerReceiveImpl S Z E r pkt srcSide = routePacket S Z E (r.setOwner
        (((r.toOwner.packetId S pkt).2.pushRecent (packetId S pkt)).noteReturnRoutes S pkt srcSide (packetId S pkt))) pkt srcSide := by
      unfold routerReceiveImpl
      dsimp only
      rw [if_neg hmem]
      rfl
    have hhashed : Emits (fun _ => True) Unpushed r.toOwner (r.toOwner.packetId S pkt).2 := .observe r.toOwner rfl
    have hnoted : Emits (fun _ => True) Unpushed ((r.toOwner.packetId S pkt).2.pushRecent (packetId S pkt))
        (((r.toOwner.packetId S pkt).2.pushRecent (packetId S pkt)).noteReturnRoutes S pkt srcSide (packetId S pkt)) :=
      noteReturnRoutes_emits (P := fun _ => True) (Q := Unpushed) S _ (fun o => .observe o rfl) srcSide _
    obtain ⟨l₁, hobs₁, hquiet₁⟩ := hnoted.trace
    obtain ⟨hrouted, hset, l₂, hobs₂, hquiet₂⟩ := routePacket_pushes (S := S) (Z := Z) (E := E) (r.setOwner
      (((r.toOwner.packetId S pkt).2.pushRecent (packetId S pkt)).noteReturnRoutes S pkt srcSide (packetId S pkt))) pkt srcSide
    rw [← hreceived] at hrouted hset hobs₂
    refine ⟨((Pushes.of_emits hhashed).trans (pushRecent_pushes _ _)).trans ((Pushes.of_emits hnoted).trans hrouted),
      fun h => absurd h hcopy, ?_, ?_⟩
    · -- the one push is on record between what is not
      have hpushed : ((r.toOwner.packetId S pkt).2.pushRecent (packetId S pkt)).obs =
          (r.toOwner.packetId S pkt).2.obs ++ [.remember (packetId S pkt)] := (pushRecent_new hmem).1
      refine ⟨[.hash (pkt.endpoints.map fun ep => S.kEndpointNames[ep.toNat]?), .remember (packetId S pkt)] ++ l₁ ++ l₂, ?_, ?_⟩
      · rw [hobs₂, setOwner_toOwner, hobs₁, hpushed]
        change r.obs ++ [_] ++ [_] ++ l₁ ++ l₂ = _
        simp only [List.append_assoc, List.cons_append, List.nil_append]
      · rw [List.filterMap_append, List.filterMap_append, List.filterMap_eq_nil_iff.mpr hquiet₁, List.filterMap_eq_nil_iff.mpr hquiet₂,
          if_neg hcopy]
        rfl
    · have hthere : packetId S pkt ∈ ((r.toOwner.packetId S pkt).2.pushRecent (packetId S pkt)).recentSet :=
        (pushRecent_new hmem).2
      rw [hset, setOwner_toOwner, (hnoted.recent fun id => Option.some_ne_none id).2]
      exact hthere

/-- How a packet arrives, and what its receipt pushes. -/
theorem arrives_pushes {taken : Option (PacketData × Option Int32)} {r r' : Router}
    (h : Arrives (fun _ => True) Unpushed (fun _ => True) S Z E taken r r') : Pushes r.toOwner r'.toOwner := by
  cases h with
  | drops o hmoves heq =>
    subst heq
    exact .of_moves hmoves.toMoves
  | takes o item hmoves hview htaken heq =>
    have hnoted : Emits (fun _ => True) Unpushed o (o.observe (.receive item)) := .observe o rfl
    have hreceived : Pushes r.toOwner (receivePacket S Z E (r.setOwner o) item).toOwner :=
      (Pushes.of_moves hmoves.toMoves).trans ((Pushes.of_emits hnoted).trans
        (routerReceiveImpl_pushes ((r.setOwner o).setOwner (o.observe (.receive item))) item.pkt item.srcSide).1)
    rcases heq with rfl | rfl
    · exact hreceived
    · have hflushed : Owner.Moves (fun _ => True) Unpushed (fun _ => True) _ _ :=
        (flushReleased_performs (receivePacket S Z E (r.setOwner o) item).toOwner fun _ => rfl).toMoves
      exact hreceived.trans (.of_moves hflushed)

/-- **Every act** tells the window of what it pushes. -/
theorem perform_pushes (r : Router) (act : Act) : Pushes r.toOwner (perform S Z E r act).toOwner := by
  have hother : Demands (fun _ => True) Unpushed (fun _ => True) (fun _ => True) (fun _ _ => True) S Z E r act →
      Pushes r.toOwner (perform S Z E r act).toOwner := by
    intro hdemands
    have hmoves := perform_moves (P := fun _ => True) (Q := Unpushed) (R := fun _ => True) (M := fun _ => True)
      (K := fun _ _ => True) S grants_unpushed Z E hdemands
    exact .of_moves hmoves.owner
  have hcontrols : Controls (fun _ => True) Unpushed S := grants_unpushed.allows.controls
  cases act with
  | receiveSerialized bytes =>
    exact arrives_pushes (receiveSerialized_arrives S Z E hcontrols rfl rfl fun _ _ => unpushed_of_plain)
  | receive view => exact arrives_pushes (receive_arrives S Z E r view)
  | receiveSerializedFromSide sideId bytes =>
    exact arrives_pushes (receiveSerializedFromSide_arrives S Z E hcontrols rfl rfl (fun _ _ => trivial) fun _ _ => unpushed_of_plain)
  | receiveFromSide sideId view => exact arrives_pushes (receiveFromSide_arrives S Z E r sideId view)
  | receiveNext => exact arrives_pushes (receiveNext_arrives S Z E hcontrols (fun _ _ => rfl) fun _ _ => unpushed_of_plain)
  | configure setting => exact hother rfl
  | logBytesEx ty data timestamp queue => exact hother trivial
  | transmitMessage view => exact hother fun _ _ => ⟨trivial, trivial⟩
  | transmitMessageQueue view => exact hother fun _ _ => ⟨trivial, trivial⟩
  | transmitSerializedMessageQueue bytes => exact hother ⟨rfl, fun _ _ => trivial⟩
  | setNetworkVariablePacked bytes => exact hother ⟨rfl, fun _ _ => ⟨trivial, trivial⟩⟩
  | seedManagedVariablePacked bytes => exact hother ⟨rfl, fun _ _ => trivial⟩
  | rxSerializedPacketToQueue bytes => exact hother ⟨rfl, fun _ _ => trivial⟩
  | rxPacketToQueue view => exact hother fun _ _ => trivial
  | rxSerializedPacketToQueueFromSide sideId bytes => exact hother ⟨rfl, rfl, fun _ _ => trivial⟩
  | rxPacketToQueueFromSide sideId view => exact hother fun _ _ => trivial
  | reliableTimeouts => exact hother fun _ _ _ => rfl
  | endToEndTimeouts => exact hother ⟨fun _ => rfl, fun _ _ _ => ⟨fun _ _ _ => trivial, fun _ => trivial⟩⟩
  | transmitNext =>
    exact hother fun _ _ => ⟨fun _ _ _ _ => ⟨rfl, fun _ _ => rfl, fun _ _ _ _ => rfl, rfl⟩, rfl, rfl, fun _ _ _ _ => trivial⟩
  | _ => exact hother trivial

theorem run_pushes (r : Router) (acts : List Act) : Pushes r.toOwner (runFrom (perform S Z E) r acts).toOwner := by
  induction acts generalizing r with
  | nil => exact .refl r.toOwner
  | cons act acts ih => exact (perform_pushes r act).trans (ih (perform S Z E r act))

end Router

/-! ## Relays -/

/-- The id under which a relay remembers a packet from a side. -/
def taggedId (S : Schema) (sideId : UInt32) (pkt : PacketData) : UInt64 := packetId S pkt ^^^ (sideId.toUInt64 <<< 56)

/-- **Arrival, once**: a packet whose tagged id is in the window is not queued, any other enters the window, if its side is
    open, and afterwards it is there. -/
structure EnqueuesOnce (S : Schema) (r : Relay) (sideId : UInt32) (pkt : PacketData) (r' : Relay) : Prop where
  closed : r.ingressOpen sideId = false → r' = { r with obs := r'.obs }
  copy : taggedId S sideId pkt ∈ r.recentSet → r' = { r with obs := r'.obs }
  remembered : ∃ l, r'.obs = r.obs ++ l ∧ l.filterMap Obs.remembered =
    if r.ingressOpen sideId = true ∧ taggedId S sideId pkt ∉ r.recentSet then [taggedId S sideId pkt] else []
  after : r.ingressOpen sideId = true → taggedId S sideId pkt ∈ r'.recentSet

namespace Relay

variable {S : Schema} {Z : Codec} {E : Env}

open Router (unpushed_of_plain unpushed_of_fromPeer grants_unpushed)

theorem ingestFrame_unpushed (o : Owner) (sideId : Int32) (frame : FrameInfoLite) (bytes : Bytes) :
    Owner.Moves (fun _ => True) Unpushed (fun _ => True) o (match o.deserializePacket S Z bytes with
      | (none, o) => (SEDS_DESERIALIZE, o)
      | (some pkt, o) =>
        match o.processReliableIngress S E sideId frame pkt bytes with
        | (false, o) => (SEDS_OK, o)
        | (true, o) => o.relayEnqueue ⟨pkt, some sideId, [], bytes⟩).2 :=
  (ingestFrame_performs S grants_unpushed.allows.controls Z E o sideId frame rfl (fun _ _ => trivial)
    fun _ o _ => enqueueAndFlush_performs false o trivial fun _ => rfl).toMoves

/-- The duplicate check tells the window of what it pushes. -/
theorem relayDuplicate_pushes (o : Owner) (sideId : UInt32) (frame : FrameInfoLite) (bytes : Bytes) :
    Pushes o (o.relayDuplicate S Z sideId frame bytes).2 := by
  unfold relayDuplicate
  cases frame.reliable with
  | some hdr => exact .refl o
  | none =>
    have hid : Pushes o (o.packetIdFromWire S Z bytes).2 :=
      .of_emits (P := fun _ => True) (packetIdFromWire_emits S Z o rfl fun _ o _ => .observe o rfl)
    dsimp only
    generalize o.packetIdFromWire S Z bytes = p at hid ⊢
    obtain ⟨id, o'⟩ := p
    cases id with
    | none => exact hid
    | some id =>
      dsimp only at hid ⊢
      split
      · exact hid
      · exact hid.trans (pushRecent_pushes o' _)

theorem rxSerializedFromSide_pushes (r : Relay) (sideId : UInt32) (bytes : Bytes) :
    Pushes r.toOwner (r.rxSerializedFromSide S Z E sideId bytes).2.toOwner := by
  change Pushes r.toOwner (r.toOwner.relayRxSerializedFromSide S Z E sideId bytes).2
  have hpeeked : Pushes r.toOwner (r.toOwner.peekFrameInfo S Z bytes).2 :=
    .of_emits (P := fun _ => True) (Emits.observe r.toOwner rfl)
  unfold relayRxSerializedFromSide
  generalize r.toOwner.peekFrameInfo S Z bytes = p at hpeeked ⊢
  obtain ⟨frame, o₁⟩ := p
  cases frame with
  | none => exact hpeeked
  | some frame =>
    dsimp only at hpeeked ⊢
    split
    · exact hpeeked
    · cases hack : frame.ackOnly with
      | true =>
        rw [if_pos rfl]
        exact hpeeked.trans (.of_emits (P := fun _ => True) (ingestAck_emits S E o₁ sideId hack bytes))
      | false =>
        rw [if_neg (by simp)]
        have hchecked := hpeeked.trans (relayDuplicate_pushes (S := S) (Z := Z) o₁ sideId frame bytes)
        generalize o₁.relayDuplicate S Z sideId frame bytes = p at hchecked ⊢
        obtain ⟨duplicate, o₂⟩ := p
        cases duplicate with
        | true => exact hchecked
        | false => exact hchecked.trans (.of_moves (ingestFrame_unpushed o₂ sideId.toInt32 frame bytes))

/-- **Arrival of a packet without a reliable header.** -/
theorem rxSerializedFromSide_once (r : Relay) (sideId : UInt32) {bytes : Bytes} {frame : FrameInfoLite} {pkt : PacketData}
    (hpeek : peekFrameInfo S Z bytes true = some frame) (hunreliable : frame.reliable = none)
    (hpkt : deserializePacket S Z bytes = some pkt) :
    EnqueuesOnce S r sideId pkt (r.rxSerializedFromSide S Z E sideId bytes).2 := by
  have hack : frame.ackOnly = false := by
    unfold FrameInfoLite.ackOnly
    rw [hunreliable]
  -- what is noted on the way to the check
  have hchecked : ∃ o : Owner, ∃ l, o = { r.toOwner with obs := r.obs ++ l } ∧ (∀ e ∈ l, Unpushed e) ∧
      (r.toOwner.peekFrameInfo S Z bytes).2.packetIdFromWire S Z bytes = (some (packetId S pkt), o) := by
    refine ⟨_, [.compare (comparedNames S ((Read.peekFrameInfo S Z bytes true).trace 0)),
      .compare (comparedNames S ((Read.deserializePacket S Z bytes).trace 0)),
      .hash (pkt.endpoints.map fun ep => S.kEndpointNames[ep.toNat]?)], rfl, ?_, ?_⟩
    · intro e he
      rcases List.mem_cons.mp he with rfl | he
      · rfl
      rcases List.mem_cons.mp he with rfl | he
      · rfl
      rw [List.mem_singleton.mp he]
      rfl
    · unfold Owner.packetIdFromWire Owner.deserializePacket
      rw [hpkt]
      simp only [Owner.peekFrameInfo, Owner.packetId, Owner.observe, List.append_assoc, List.cons_append, List.nil_append]
  have hpeeked : ∃ l, (r.toOwner.peekFrameInfo S Z bytes).2 = { r.toOwner with obs := r.obs ++ l } ∧ ∀ e ∈ l, Unpushed e :=
    ⟨[_], rfl, fun e he => by rw [List.mem_singleton.mp he]; rfl⟩
  have hrelay : (r.rxSerializedFromSide S Z E sideId bytes).2 =
      { r with toOwner := (r.toOwner.relayRxSerializedFromSide S Z E sideId bytes).2 } := rfl
  rw [hrelay]
  have hopens : (r.toOwner.peekFrameInfo S Z bytes).2.ingressOpen sideId = r.ingressOpen sideId := rfl
  have hframe : (r.toOwner.peekFrameInfo S Z bytes).1 = some frame := hpeek
  unfold relayRxSerializedFromSide
  generalize r.toOwner.peekFrameInfo S Z bytes = p at hchecked hpeeked hopens hframe ⊢
  obtain ⟨info, o₁⟩ := p
  dsimp only at hchecked hpeeked hopens hframe
  rw [hframe]
  dsimp only
  rw [hopens]
  cases hopen : r.ingressOpen sideId with
  | false =>
    obtain ⟨l, rfl, hquiet⟩ := hpeeked
    refine ⟨fun _ => rfl, fun _ => rfl, ⟨l, rfl, ?_⟩, fun h => absurd (hopen.symm.trans h) Bool.false_ne_true⟩
    rw [if_neg fun h => Bool.false_ne_true (hopen.symm.trans h.1)]
    exact List.filterMap_eq_nil_iff.mpr hquiet
  | true =>
    rw [if_neg (by simp), hack, if_neg (by simp)]
    obtain ⟨o₂, l, rfl, hquiet, hid⟩ := hchecked
    unfold relayDuplicate
    rw [hunreliable]
    dsimp only
    rw [hid]
    dsimp only
    by_cases hcopy : taggedId S sideId pkt ∈ r.recentSet
    · have hmem : packetId S pkt ^^^ (sideId.toUInt64 <<< 56) ∈ r.recentSet := hcopy
      rw [if_pos hmem]
      refine ⟨fun _ => rfl, fun _ => rfl, ⟨l, rfl, ?_⟩, fun _ => hcopy⟩
      rw [if_neg fun h => h.2 hcopy]
      exact List.filterMap_eq_nil_iff.mpr hquiet
    · have hmem : packetId S pkt ^^^ (sideId.toUInt64 <<< 56) ∉ r.recentSet := hcopy
      rw [if_neg hmem]
      dsimp only
      have hnew := @pushRecent_new { r.toOwner with obs := r.obs ++ l } (taggedId S sideId pkt) hcopy
      have hmoves := ingestFrame_unpushed (S := S) (Z := Z) (E := E)
        (({ r.toOwner with obs := r.obs ++ l } : Owner).pushRecent (taggedId S sideId pkt)) sideId.toInt32 frame bytes
      obtain ⟨l', hobs, hquiet'⟩ := hmoves.trace
      refine ⟨fun h => absurd (h.symm.trans hopen) Bool.false_ne_true, fun h => absurd h hcopy, ⟨l ++ [.remember (taggedId S sideId pkt)] ++ l', ?_, ?_⟩, fun _ => ?_⟩
      · refine hobs.trans ?_
        rw [hnew.1]
        simp only [List.append_assoc]
      · rw [List.filterMap_append, List.filterMap_append, List.filterMap_eq_nil_iff.mpr hquiet, List.filterMap_eq_nil_iff.mpr hquiet',
          if_pos ⟨hopen, hcopy⟩]
        rfl
      · have hset := (hmoves.recent fun id => Option.some_ne_none id).2
        change _ ∈ Owner.recentSet _
        exact hset ▸ hnew.2

/-- **Every act** tells the window of what it pushes. -/
theorem perform_pushes (r : Relay) (act : Act) : Pushes r.toOwner (perform S Z E r act).toOwner := by
  have hother : Demands (fun _ => True) Unpushed (fun _ => True) S Z E r act → Pushes r.toOwner (perform S Z E r act).toOwner :=
    fun hdemands => .of_moves (perform_moves S grants_unpushed Z E hdemands)
  cases act with
  | rxSerializedFromSide sideId bytes => exact rxSerializedFromSide_pushes r sideId bytes
  | configure setting => exact hother rfl
  | rxPacketFromSide sideId view => exact hother fun _ _ => trivial
  | reliableTimeouts => exact hother fun _ _ _ => rfl
  | receiveNext =>
    refine hother ⟨fun _ => rfl, fun item _ => ?_⟩
    exact ⟨fun o => .observe o rfl, fun o => .observe o rfl, fun _ => trivial, fun _ _ => trivial, fun _ _ _ => rfl, fun _ => rfl⟩
  | transmitNext =>
    refine hother fun item _ => ⟨fun _ _ _ _ => ⟨rfl, fun _ _ => rfl, fun _ _ _ _ => rfl, rfl⟩, rfl⟩
  | _ => exact hother trivial

theorem run_pushes (r : Relay) (acts : List Act) : Pushes r.toOwner (runFrom (perform S Z E) r acts).toOwner := by
  induction acts generalizing r with
  | nil => exact .refl r.toOwner
  | cons act acts ih => exact (perform_pushes r act).trans (ih (perform S Z E r act))

end Relay

/-- **The window of recent ids**: after any pushes, and in every reachable state of a router and of a relay. What is in it
    is not taken again. -/
theorem recentIds_window (S : Schema) (Z : Codec) (E : Env) :
    (∀ (o : Owner) (ids : List UInt64), o.memory.maxRecentRxIds ≠ 0 → o.recentIds = [] → o.recentSet = ∅ →
      RecentWindow (ids.foldl Owner.pushRecent o) (news o.memory.maxRecentRxIds [] ids) ∧
      (ids.foldl Owner.pushRecent o).recentIds.length ≤ o.memory.maxRecentRxIds) ∧
    (∀ (r₀ r : Router) (acts : List Router.Act), r₀.toOwner.Blank → r₀.memory.maxRecentRxIds ≠ 0 →
      r = runFrom (Router.perform S Z E) r₀ acts →
      RecentWindow r.toOwner (r.obs.filterMap Obs.remembered) ∧ r.recentIds.length ≤ r.memory.maxRecentRxIds ∧
      ∀ pkt srcSide, ReceivesOnce S r pkt srcSide (Router.routerReceiveImpl S Z E r pkt srcSide)) ∧
    ∀ (r₀ r : Relay) (acts : List Relay.Act), r₀.toOwner.Blank → r₀.memory.maxRecentRxIds ≠ 0 →
      r = runFrom (Relay.perform S Z E) r₀ acts →
      RecentWindow r.toOwner (r.obs.filterMap Obs.remembered) ∧ r.recentIds.length ≤ r.memory.maxRecentRxIds ∧
      ∀ sideId bytes frame pkt, peekFrameInfo S Z bytes true = some frame → frame.reliable = none →
        deserializePacket S Z bytes = some pkt →
        EnqueuesOnce S r sideId pkt (r.rxSerializedFromSide S Z E sideId bytes).2 := by
  refine ⟨?_, ?_, ?_⟩
  · intro o ids hroom hids hset
    have hwindow := (RecentWindow.nil hroom hids hset).foldl ids
    have hmemory : (ids.foldl Owner.pushRecent o).memory = o.memory := foldl_pushRecent_memory o ids
    rw [hids, List.nil_append] at hwindow
    exact ⟨hwindow, hmemory ▸ hwindow.length_le⟩
  · rintro r₀ r acts hblank hroom rfl
    have hwindow := (Router.run_pushes (S := S) (Z := Z) (E := E) r₀ acts).window hblank hroom
    exact ⟨hwindow, hwindow.length_le, fun pkt srcSide => (Router.routerReceiveImpl_pushes _ pkt srcSide).2⟩
  · rintro r₀ r acts hblank hroom rfl
    have hwindow := (Relay.run_pushes (S := S) (Z := Z) (E := E) r₀ acts).window hblank hroom
    exact ⟨hwindow, hwindow.length_le, fun sideId bytes frame pkt => Relay.rxSerializedFromSide_once _ sideId⟩

/-- A heartbeat, which has no reliable header. -/
def beatPacket : PacketData := ⟨106, ascii "@addr:488734002", [100, 101], 7, []⟩

def beatFrame : Bytes := serializePacket defaultTestSchema (.absent 16) { beatPacket with sender := ascii "TEST" }

def beatActs : List Relay.Act := [.rxSerializedFromSide 0 beatFrame]

theorem recentIds_window_beat :
    (∃ r : Relay, r = runFrom (Relay.perform defaultTestSchema (.absent 16) .calm) Relay.gpsRelay beatActs ∧
      (r.rxSerializedFromSide defaultTestSchema (.absent 16) .calm 0 beatFrame).2.rxQueue = r.rxQueue) ∧
    RecentWindow (Router.new .Sink (ascii "R") [.serialized [] true] []).toOwner [] := by
  obtain ⟨-, hrouter, hrelay⟩ := recentIds_window defaultTestSchema (.absent 16) .calm
  have hread : (∃ envelope, peekFrameInfo defaultTestSchema (.absent 16) beatFrame true = some ⟨envelope, none⟩) ∧
      deserializePacket defaultTestSchema (.absent 16) beatFrame = some beatPacket ∧
      decide (taggedId defaultTestSchema 0 beatPacket ∈
        (runFrom (Relay.perform defaultTestSchema (.absent 16) .calm) Relay.gpsRelay beatActs).recentSet) = true := by
    unfold beatActs beatFrame
    rw [defaultTestSchema_eq]
    exact ⟨⟨⟨106, [100, 101], ascii "@addr:488734002", 7⟩, by decide +kernel⟩, by decide +kernel, by decide +kernel⟩
  -- the second beat is a copy
  obtain ⟨⟨envelope, hpeek⟩, hpkt, hmem⟩ := hread
  obtain ⟨r, hr⟩ : ∃ r : Relay, r = runFrom (Relay.perform defaultTestSchema (.absent 16) .calm) Relay.gpsRelay beatActs := ⟨_, rfl⟩
  refine ⟨⟨r, hr, ?_⟩, ?_⟩
  · rw [← hr] at hmem
    obtain ⟨-, -, honce⟩ := hrelay Relay.gpsRelay r beatActs ⟨rfl, rfl, rfl, rfl, rfl, rfl, rfl, rfl⟩ (by decide) hr
    rw [(honce 0 beatFrame _ beatPacket hpeek rfl hpkt).copy (of_decide_eq_true hmem)]
  · exact (hrouter (.new .Sink (ascii "R") [.serialized [] true] []) _ [] ⟨rfl, rfl, rfl, rfl, rfl, rfl, rfl, rfl⟩ (by decide) rfl).1

end SedsNet
