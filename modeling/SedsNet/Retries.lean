import SedsNet.LinkLocal

/-!
# Retries of packets sent end to end

A reliable packet that a router sends gets an entry with the destinations that are expected to acknowledge it. The
timeouts put the packet into the transmit queue again, eight times at most, and count in the entry. What they put
there goes through `transmit_item` like every other packet, which writes the entry anew: no retries, and all
destinations pending.

So the counter of an entry counts, and its destinations only become fewer, as long as no packet that has had an entry
gets another one. `Unrepeated` is that condition, said by the state the packet is sent in.
-/

set_option autoImplicit false

namespace SedsNet

open Lib

/-- The timeouts put the packet with this id into the queue. -/
def Obs.requeuesId (id : UInt64) : Obs → Bool
  | .requeues id' => id' == id
  | _ => false

namespace Router

/-- The number of rounds of the timeouts that have put a packet into the queue. -/
def requeued (r : Router) (id : UInt64) : Nat := r.obs.countP (Obs.requeuesId id)

/-- The destinations that a packet waits for. -/
def pending (r : Router) (id : UInt64) : Map UInt64 Int32 := (r.endToEndReliableTx.lookup id).elim ∅ (·.pendingDestinations)

/-- The front of the transmit queue has had no entry, or gets none. -/
def Unrepeated (S : Schema) (r : Router) (act : Act) : Prop :=
  act = .transmitNext → ∀ item ∈ r.txQueue.items.head?, .tracks (packetId S item.pkt) ∈ r.obs →
    expectsAcks S r.toOwner item = false

instance (S : Schema) (r : Router) (act : Act) : Decidable (r.Unrepeated S act) :=
  inferInstanceAs (Decidable (_ → ∀ item ∈ r.txQueue.items.head?, _))

section

variable {P : TxItem → Prop} {S : Schema} {Z : Codec} {E : Env} {r r' : Router} {id : UInt64}

/-! ## One round of the timeouts -/

/-- A step that puts nothing into the queue again. -/
theorem requeued_of_append {l : List Obs} (hobs : r'.obs = r.obs ++ l) (h : ∀ e ∈ l, ∀ id, e ≠ .requeues id) :
    r'.requeued id = r.requeued id := by
  have hnone : l.countP (Obs.requeuesId id) = 0 := by
    apply List.countP_eq_zero.mpr
    intro e he hid
    cases e with
    | requeues id' => exact h _ he id' rfl
    | _ => cases hid
  unfold requeued
  rw [hobs, List.countP_append, hnone]
  rfl

/-- What the second loop does at one id: the packet is queued again, or it has no entry. -/
theorem requeueEndToEnd_cases (now : UInt64) (r : Router) (key : UInt64) :
    ((requeueEndToEnd now r key).obs = r.obs ∧ (requeueEndToEnd now r key).endToEndReliableTx.lookup key = none) ∨
    ∃ l sent, (requeueEndToEnd now r key).obs = r.obs ++ l ++ [.requeues key] ∧ (∀ e ∈ l, ∀ id, e ≠ .requeues id) ∧
      r.endToEndReliableTx.lookup key = some sent ∧
      (requeueEndToEnd now r key).endToEndReliableTx.lookup key = some { sent with lastSendMs := now, queued := false } := by
  unfold requeueEndToEnd
  cases hsent : r.endToEndReliableTx.lookup key with
  | none => exact .inl ⟨rfl, hsent⟩
  | some sent =>
    dsimp only
    split
    · exact .inl ⟨rfl, AList.lookup_erase _ _⟩
    · have hany : Requeues (fun _ => True) sent := ⟨fun _ _ _ => trivial, fun _ => trivial⟩
      obtain ⟨l, hobs, hl⟩ := (requeueItems_emits (Q := fun e => ∀ id, e ≠ .requeues id) hany r.toOwner).trace
      exact .inr ⟨l, sent, congrArg (fun obs => obs ++ [Obs.requeues key]) hobs, hl, rfl, AList.lookup_insert _⟩

theorem requeueEndToEnd_lookup_ne (now : UInt64) (r : Router) {key : UInt64} (hne : id ≠ key) :
    (requeueEndToEnd now r key).endToEndReliableTx.lookup id = r.endToEndReliableTx.lookup id := by
  unfold requeueEndToEnd
  cases r.endToEndReliableTx.lookup key with
  | none => rfl
  | some sent =>
    dsimp only
    split
    · exact AList.lookup_erase_ne hne
    · exact AList.lookup_insert_ne hne

theorem requeueEndToEnd_requeued_ne (now : UInt64) (r : Router) {key : UInt64} (hne : id ≠ key) :
    (requeueEndToEnd now r key).requeued id = r.requeued id := by
  rcases requeueEndToEnd_cases now r key with ⟨hobs, -⟩ | ⟨l, sent, hobs, hl, -, -⟩
  · exact requeued_of_append (hobs.trans (List.append_nil _).symm) fun _ he => nomatch he
  · have hitems : (r.setOwner { r.toOwner with obs := r.obs ++ l }).requeued id = r.requeued id := requeued_of_append rfl hl
    rw [← hitems]
    unfold requeued
    rw [hobs, List.countP_append]
    have hother : [Obs.requeues key].countP (Obs.requeuesId id) = 0 := by
      apply List.countP_eq_zero.mpr
      intro e he hid
      rw [List.mem_singleton.mp he] at hid
      exact hne (beq_iff_eq.mp hid).symm
    rw [hother]
    rfl

/-- The second loop leaves packets that are not among its ids alone. -/
theorem requeueEndToEnd_foldl_ne (now : UInt64) (ids : List UInt64) (r : Router) (hne : id ∉ ids) :
    (ids.foldl (requeueEndToEnd now) r).requeued id = r.requeued id ∧
    (ids.foldl (requeueEndToEnd now) r).endToEndReliableTx.lookup id = r.endToEndReliableTx.lookup id := by
  induction ids generalizing r with
  | nil => exact ⟨rfl, rfl⟩
  | cons key rest ih =>
    rw [List.mem_cons, not_or] at hne
    obtain ⟨hkey, hrest⟩ := hne
    obtain ⟨hcount, hlookup⟩ := ih (requeueEndToEnd now r key) hrest
    exact ⟨hcount.trans (requeueEndToEnd_requeued_ne now r hkey), hlookup.trans (requeueEndToEnd_lookup_ne now r hkey)⟩

/-- The second loop comes to each of its ids once. -/
theorem requeueEndToEnd_foldl_mem (now : UInt64) (ids : List UInt64) (hnodup : ids.Nodup) (r : Router) (hmem : id ∈ ids) :
    ((ids.foldl (requeueEndToEnd now) r).requeued id = r.requeued id ∧
      (ids.foldl (requeueEndToEnd now) r).endToEndReliableTx.lookup id = none) ∨
    (ids.foldl (requeueEndToEnd now) r).requeued id = r.requeued id + 1 ∧
      ∃ sent, r.endToEndReliableTx.lookup id = some sent ∧
        (ids.foldl (requeueEndToEnd now) r).endToEndReliableTx.lookup id =
          some { sent with lastSendMs := now, queued := false } := by
  induction ids generalizing r with
  | nil => cases hmem
  | cons key rest ih =>
    obtain ⟨hkey, hrest⟩ := List.nodup_cons.mp hnodup
    rw [List.foldl_cons]
    by_cases heq : id = key
    · subst heq
      obtain ⟨hcount, hlookup⟩ := requeueEndToEnd_foldl_ne now rest (requeueEndToEnd now r id) hkey
      rw [hcount, hlookup]
      rcases requeueEndToEnd_cases now r id with ⟨hobs, hnone⟩ | ⟨l, sent, hobs, hl, hsent, hsent'⟩
      · exact .inl ⟨requeued_of_append (hobs.trans (List.append_nil _).symm) (fun _ he => nomatch he), hnone⟩
      · refine .inr ⟨?_, sent, hsent, hsent'⟩
        have hitems : (r.setOwner { r.toOwner with obs := r.obs ++ l }).requeued id = r.requeued id := requeued_of_append rfl hl
        rw [← hitems]
        unfold requeued
        rw [hobs, List.countP_append, List.countP_singleton]
        simp [Obs.requeuesId]
    · rw [← requeueEndToEnd_requeued_ne now r heq, ← requeueEndToEnd_lookup_ne now r heq]
      exact ih hrest (requeueEndToEnd now r key) ((List.mem_cons.mp hmem).resolve_left heq)

/-- What a round of the timeouts does to the entry of one packet, and to the count of its rounds. -/
inductive Round (id : UInt64) (r r' : Router) : Prop where
  | waits (hcount : r'.requeued id = r.requeued id)
      (hentry : ∀ sent', r'.endToEndReliableTx.lookup id = some sent' →
        ∃ sent, r.endToEndReliableTx.lookup id = some sent ∧ sent'.retries = sent.retries)
  | again (hcount : r'.requeued id = r.requeued id + 1) (sent sent' : EndToEndReliableSent)
      (hsent : r.endToEndReliableTx.lookup id = some sent) (hsent' : r'.endToEndReliableTx.lookup id = some sent')
      (hlt : sent.retries < 8) (hretries : sent'.retries = sent.retries + 1)

theorem mem_endToEndRequeued {now : UInt64} {m : Map UInt64 EndToEndReliableSent} :
    id ∈ endToEndRequeued now m ↔ ∃ sent, m.lookup id = some sent ∧ endToEndDue now sent = true ∧ sent.retries < 8 := by
  unfold endToEndRequeued
  rw [List.mem_map]
  constructor
  · rintro ⟨e, he, rfl⟩
    obtain ⟨hmem, hdue⟩ := List.mem_filter.mp he
    rw [Bool.and_eq_true, Bool.not_eq_true', decide_eq_false_iff_not] at hdue
    exact ⟨e.2, AList.mem_lookup_iff.mpr hmem, hdue.1, UInt32.not_le.mp hdue.2⟩
  · rintro ⟨sent, hsent, hdue, hlt⟩
    refine ⟨⟨id, sent⟩, List.mem_filter.mpr ⟨AList.mem_lookup_iff.mp hsent, ?_⟩, rfl⟩
    rw [Bool.and_eq_true, Bool.not_eq_true', decide_eq_false_iff_not]
    exact ⟨hdue, UInt32.not_le.mpr hlt⟩

theorem endToEndRequeued_nodup (now : UInt64) (m : Map UInt64 EndToEndReliableSent) : (endToEndRequeued now m).Nodup := by
  have hsub : (endToEndRequeued now m).Sublist m.keys := List.filter_sublist.map _
  exact hsub.nodup m.nodupKeys

/-- **One round** counts in the entry what it puts into the queue. -/
theorem processEndToEndReliableTimeouts_round (S : Schema) (E : Env) (r : Router) (id : UInt64) :
    Round id r (processEndToEndReliableTimeouts S E r) := by
  unfold processEndToEndReliableTimeouts
  dsimp only
  have hread : Does (fun _ => True) (fun e => ∀ id, e ≠ .requeues id) (fun _ => False) (fun _ _ => False) r
      (r.setOwner (r.toOwner.nowMs E).2) := .setOwner r (.nowMs E r.toOwner)
  have hdoes := hread.trans (reconcileEndToEndReliableDestinations_does S E _)
  generalize reconcileEndToEndReliableDestinations S E (r.setOwner (r.toOwner.nowMs E).2) = r₁ at hdoes ⊢
  generalize (r.toOwner.nowMs E).1 = now
  obtain ⟨l, hobs, hl⟩ := hdoes.emits.trace
  have hcount₁ : ({ r₁ with endToEndReliableTx := expireEndToEnd now r₁.endToEndReliableTx } : Router).requeued id = r.requeued id :=
    requeued_of_append hobs hl
  -- the entries after the first loop, seen from the beginning
  have hentry : ∀ sent', (expireEndToEnd now r₁.endToEndReliableTx).lookup id = some sent' →
      ∃ sent, r.endToEndReliableTx.lookup id = some sent ∧
        (id ∈ endToEndRequeued now r₁.endToEndReliableTx ∧ sent.retries < 8 ∧ sent'.retries = sent.retries + 1 ∨
          id ∉ endToEndRequeued now r₁.endToEndReliableTx ∧ sent'.retries = sent.retries) := by
    intro sent' h
    obtain ⟨sent₁, hsent₁, hmarked⟩ := lookup_expireEndToEnd h
    obtain ⟨sent, hnarrows, hsent | ⟨hnone, -⟩⟩ := hdoes.sent id sent₁ hsent₁
    · refine ⟨sent, hsent, ?_⟩
      rcases hmarked with ⟨hdue, hlt, rfl⟩ | ⟨hdue, rfl⟩
      · refine .inl ⟨mem_endToEndRequeued.mpr ⟨sent₁, hsent₁, hdue, hlt⟩, ?_, congrArg (· + 1) hnarrows.retries⟩
        rwa [hnarrows.retries] at hlt
      · refine .inr ⟨?_, hnarrows.retries⟩
        intro hmem
        obtain ⟨sent₂, hsent₂, hdue₂, -⟩ := mem_endToEndRequeued.mp hmem
        rw [hsent₁, Option.some.injEq] at hsent₂
        rw [hsent₂, hdue₂] at hdue
        cases hdue
    · exact hnone.elim
  by_cases hmem : id ∈ endToEndRequeued now r₁.endToEndReliableTx
  · rcases requeueEndToEnd_foldl_mem now _ (endToEndRequeued_nodup now _)
      { r₁ with endToEndReliableTx := expireEndToEnd now r₁.endToEndReliableTx } hmem with
      ⟨hcount, hnone⟩ | ⟨hcount, sent', hsent', hlast⟩
    · refine .waits (hcount.trans hcount₁) ?_
      intro sent' h
      rw [hnone] at h
      cases h
    · obtain ⟨sent, hsent, ⟨-, hlt, hretries⟩ | ⟨hnot, -⟩⟩ := hentry sent' hsent'
      · exact .again (hcount.trans (congrArg (· + 1) hcount₁)) sent _ hsent hlast hlt hretries
      · exact absurd hmem hnot
  · obtain ⟨hcount, hlookup⟩ := requeueEndToEnd_foldl_ne now (endToEndRequeued now r₁.endToEndReliableTx)
      { r₁ with endToEndReliableTx := expireEndToEnd now r₁.endToEndReliableTx } hmem
    refine .waits (hcount.trans hcount₁) ?_
    intro sent' h
    rw [hlookup] at h
    obtain ⟨sent, hsent, ⟨hin, -, -⟩ | ⟨-, hretries⟩⟩ := hentry sent' h
    · exact absurd hin hmem
    · exact ⟨sent, hsent, hretries⟩

/-! ## Steps -/

/-- The rounds of a packet are counted: there are at most eight, and none before it has had an entry. -/
structure Counted (id : UInt64) (r : Router) : Prop where
  bound : r.requeued id ≤ 8
  fresh : .tracks id ∉ r.obs → r.requeued id = 0
  entry : ∀ sent, r.endToEndReliableTx.lookup id = some sent →
    .tracks id ∈ r.obs ∧ r.requeued id ≤ sent.retries.toNat ∧ sent.retries.toNat ≤ 8

theorem Blank.counted (h : r.Blank) : Counted id r := by
  have hnone : r.requeued id = 0 := by
    unfold requeued
    rw [h.owner.obs]
    rfl
  refine ⟨hnone.le.trans (Nat.zero_le 8), fun _ => hnone, ?_⟩
  intro sent hsent
  rw [h.sent] at hsent
  cases hsent

/-- What happens in a step: only the timeouts put a packet into the queue again. -/
def Steps (act : Act) (e : Obs) : Prop := act = .endToEndTimeouts ∨ ∀ id, e ≠ .requeues id

/-- An entry that a step makes is for a packet that has had none. -/
def Enters (r : Router) (id : UInt64) (sent : EndToEndReliableSent) : Prop := sent.retries = 0 ∧ .tracks id ∉ r.obs

theorem perform_enters (Z : Codec) (E : Env) {act : Act} (h : r.Unrepeated S act) :
    Moves (fun _ => True) (Steps act) (fun _ => True) (fun _ => True) r.Enters r (perform S Z E r act) := by
  have hsilent : ∀ e : Obs, e.silent = true → Steps act e := by
    rintro e he
    right
    rintro id rfl
    cases he
  have hother : ∀ e : Obs, (∀ id, e ≠ .requeues id) → Steps act e := fun e he => .inr he
  have hsends : Sends (fun _ => True) (Steps act) r.Enters S Z E r act := by
    constructor
    case silent => exact fun e he _ => hsilent e he
    case peer => exact fun _ _ _ _ _ e he => hsilent e (Obs.silent_of_fromPeer (peerEvent_fromPeer he))
    case hears => exact fun _ => hother _ fun _ he => nomatch he
    case configure => exact fun _ _ => hother _ fun _ he => nomatch he
    case routed => exact fun _ _ => trivial
    case ack => exact fun _ _ _ _ => trivial
    case response => exact fun _ _ _ _ => trivial
    case due => exact fun _ _ _ _ => hother _ fun _ he => nomatch he
    case request => exact fun _ _ _ _ _ _ _ => hother _ fun _ he => nomatch he
    case latest => exact fun _ _ _ _ _ _ => trivial
    case again => exact fun hact _ => .inl hact
    case requeues => exact fun _ _ _ _ => ⟨fun _ _ _ => trivial, fun _ => trivial⟩
    case carries =>
      intro _ item _ sideId side _ _
      constructor
      case sends => exact hother _ fun _ he => nomatch he
      case transmit => exact fun _ _ => hother _ fun _ he => nomatch he
      case number => exact fun _ _ _ _ => hother _ fun _ he => nomatch he
      case packetTx => exact hother _ fun _ he => nomatch he
    case entry =>
      intro hact item hitem hexpects pending ts _
      refine ⟨rfl, fun htracks => ?_⟩
      rw [h hact item hitem htracks] at hexpects
      cases hexpects
  exact perform_moves S (grants_of_silent hsilent) Z E hsends.demands

/-- **Destinations only become fewer** once a packet has had an entry. -/
theorem perform_pending (Z : Codec) (E : Env) {act : Act} (h : r.Unrepeated S act) (htracks : .tracks id ∈ r.obs) {hash : UInt64}
    {sideId : Int32} (hpending : ((perform S Z E r act).pending id).lookup hash = some sideId) :
    (r.pending id).lookup hash = some sideId := by
  unfold pending at hpending ⊢
  cases hsent' : (perform S Z E r act).endToEndReliableTx.lookup id with
  | none =>
    rw [hsent'] at hpending
    cases hpending
  | some sent' =>
    rw [hsent'] at hpending
    obtain ⟨sent, hages, -, hold | ⟨⟨-, hfresh⟩, -⟩⟩ := (perform_enters Z E h).sent id sent' hsent'
    · rw [hold]
      exact hages.pending hash sideId hpending
    · exact absurd htracks hfresh

theorem perform_counted (Z : Codec) (E : Env) {act : Act} (h : r.Unrepeated S act) (hcounted : Counted id r) :
    Counted id (perform S Z E r act) := by
  have hmoves := perform_enters Z E h
  have hkept : .tracks id ∈ r.obs → .tracks id ∈ (perform S Z E r act).obs := hmoves.owner.mem_obs
  by_cases hact : act = .endToEndTimeouts
  · subst hact
    cases processEndToEndReliableTimeouts_round S E r id with
    | waits hcount hentry =>
      have hcount : (perform S Z E r .endToEndTimeouts).requeued id = r.requeued id := hcount
      refine ⟨hcount ▸ hcounted.bound, fun hfresh => hcount ▸ hcounted.fresh fun hold => hfresh (hkept hold), ?_⟩
      intro sent' hsent'
      obtain ⟨sent, hsent, hretries⟩ := hentry sent' hsent'
      obtain ⟨htracks, hle, hbound⟩ := hcounted.entry sent hsent
      rw [hcount, hretries]
      exact ⟨hkept htracks, hle, hbound⟩
    | again hcount sent sent' hsent hsent' hlt hretries =>
      have hcount : (perform S Z E r .endToEndTimeouts).requeued id = r.requeued id + 1 := hcount
      obtain ⟨htracks, hle, -⟩ := hcounted.entry sent hsent
      have hlt : sent.retries.toNat < 8 := UInt32.lt_iff_toNat_lt.mp hlt
      have hnum : sent'.retries.toNat = sent.retries.toNat + 1 := by
        rw [hretries, UInt32.toNat_add]
        exact Nat.mod_eq_of_lt (by simp; omega)
      refine ⟨by omega, fun hfresh => absurd (hkept htracks) hfresh, ?_⟩
      intro sent'' hsent''
      have heq : some sent' = some sent'' := hsent'.symm.trans hsent''
      cases heq
      exact ⟨hkept htracks, by omega, by omega⟩
  · obtain ⟨l, hobs, hl⟩ := hmoves.owner.trace
    have hcount : (perform S Z E r act).requeued id = r.requeued id :=
      requeued_of_append hobs fun e he => (hl e he).resolve_left hact
    refine ⟨hcount ▸ hcounted.bound, fun hfresh => hcount ▸ hcounted.fresh fun hold => hfresh (hkept hold), ?_⟩
    intro sent' hsent'
    obtain ⟨sent, -, hretries, hsent⟩ := hmoves.sent id sent' hsent'
    have hsame : sent'.retries = sent.retries := by
      apply hretries
      rintro id' (hact' | hne)
      · exact hact hact'
      · exact hne id' rfl
    rw [hcount, hsame]
    rcases hsent with hold | ⟨⟨hzero, hfresh⟩, htracks⟩
    · obtain ⟨htracks, hle, hbound⟩ := hcounted.entry sent hold
      exact ⟨hkept htracks, hle, hbound⟩
    · -- a new entry: there were no rounds yet
      rw [hcounted.fresh hfresh, hzero]
      exact ⟨htracks, Nat.zero_le _, Nat.zero_le _⟩

end

end Router

/-! ## Runs -/

/-- **Retries are bounded, and destinations only become fewer**: in every run of a router in which no packet gets a
    second entry, the timeouts put each packet into the queue at most eight times, and a destination that a packet has
    stopped waiting for is not waited for again. -/
theorem endToEnd_bounded (S : Schema) (Z : Codec) (E : Env) (r : Router) (acts : List Router.Act) (hblank : r.Blank)
    (hrun : Along (Router.perform S Z E) (Router.Unrepeated S) r acts) (id : UInt64) :
    (runFrom (Router.perform S Z E) r acts).requeued id ≤ 8 ∧
    ∀ before mid after, acts = before ++ mid ++ after → .tracks id ∈ (runFrom (Router.perform S Z E) r before).obs →
      ∀ hash sideId, ((runFrom (Router.perform S Z E) r (before ++ mid)).pending id).lookup hash = some sideId →
        ((runFrom (Router.perform S Z E) r before).pending id).lookup hash = some sideId := by
  refine ⟨?_, ?_⟩
  · exact (hrun.invariant (I := Router.Counted id) hblank.counted fun r act h => Router.perform_counted Z E h).bound
  · rintro before mid after rfl htracks hash sideId hpending
    obtain ⟨hbefore, -⟩ := along_append.mp hrun
    obtain ⟨-, hmid⟩ := along_append.mp hbefore
    rw [runFrom_append] at hpending
    -- on the way the packet stays one that has had an entry, and waits for no more than it did
    have hkept := hmid.invariant (I := fun s => .tracks id ∈ s.obs ∧ ((s.pending id).lookup hash = some sideId →
        ((runFrom (Router.perform S Z E) r before).pending id).lookup hash = some sideId)) ⟨htracks, fun h => h⟩ (by
      rintro s act hact ⟨htracks, hwas⟩
      exact ⟨(Router.perform_enters Z E hact).owner.mem_obs htracks, fun h => hwas (Router.perform_pending Z E hact htracks h)⟩)
    exact hkept.2 hpending

/-! ## A report for two nodes -/

/-- A clock that moves on by a tenth of a second at every reading, and callbacks that succeed. -/
def Env.paced : Env := ⟨fun n => 100 * UInt64.ofNat n, fun _ => SEDS_OK⟩

/-- A node announces the endpoint of the card. -/
def cardAnnouncement (sender : Bytes) : SedsPacketView :=
  ⟨SEDS_DT_DISCOVERY_ANNOUNCE, sender, some [SEDS_EP_DISCOVERY], 7, some (appendLe32 100), 4⟩

def gpsView : SedsPacketView :=
  ⟨100, gpsPacket.sender, some gpsPacket.endpoints, gpsPacket.timestamp, some gpsPacket.payload, 12⟩

/-- The acknowledgement of the report by a node. -/
def gpsAck (sender : Bytes) : SedsPacketView :=
  ⟨SEDS_DT_RELIABLE_ACK, kEndToEndAckPrefix ++ sender, some [SEDS_EP_DISCOVERY], 9,
    some (appendLe64 (packetId defaultTestSchema gpsPacket)), 8⟩

/-- The report is sent while the nodes `A` and `B` are known, and `A` acknowledges it. -/
def twoNodesActs : List Router.Act :=
  [.receiveFromSide 0 (cardAnnouncement (ascii "A")), .receiveFromSide 0 (cardAnnouncement (ascii "B")),
    .transmitMessageQueue gpsView, .transmitNext, .receiveFromSide 0 (gpsAck (ascii "A"))]

/-- `B` acknowledges it, too, after the timeouts have put it into the queue again. -/
def lateAckActs : List Router.Act := twoNodesActs ++ [.endToEndTimeouts, .receiveFromSide 0 (gpsAck (ascii "B"))]

theorem endToEnd_bounded_lateAck :
    (runFrom (Router.perform defaultTestSchema (.absent 16) .paced) reportingRouter (lateAckActs.take 6)).requeued
      (packetId defaultTestSchema gpsPacket) = 1 ∧
    (runFrom (Router.perform defaultTestSchema (.absent 16) .paced) reportingRouter lateAckActs).requeued
      (packetId defaultTestSchema gpsPacket) ≤ 8 ∧
    ∀ hash sideId, ((runFrom (Router.perform defaultTestSchema (.absent 16) .paced) reportingRouter lateAckActs).pending
        (packetId defaultTestSchema gpsPacket)).lookup hash = some sideId →
      ((runFrom (Router.perform defaultTestSchema (.absent 16) .paced) reportingRouter twoNodesActs).pending
        (packetId defaultTestSchema gpsPacket)).lookup hash = some sideId := by
  obtain ⟨hrequeued, htracks, hrun⟩ :
      (runFrom (Router.perform defaultTestSchema (.absent 16) .paced) reportingRouter (lateAckActs.take 6)).requeued
        (packetId defaultTestSchema gpsPacket) = 1 ∧
      .tracks (packetId defaultTestSchema gpsPacket) ∈
        (runFrom (Router.perform defaultTestSchema (.absent 16) .paced) reportingRouter twoNodesActs).obs ∧
      Along (Router.perform defaultTestSchema (.absent 16) .paced) (Router.Unrepeated defaultTestSchema)
        reportingRouter lateAckActs := by
    rw [defaultTestSchema_eq]
    decide +kernel
  obtain ⟨hbound, hpending⟩ := endToEnd_bounded defaultTestSchema (.absent 16) .paced reportingRouter lateAckActs
    ⟨⟨rfl, rfl, rfl, rfl, rfl, rfl, rfl, rfl⟩, rfl, rfl⟩ hrun (packetId defaultTestSchema gpsPacket)
  exact ⟨hrequeued, hbound, hpending twoNodesActs _ [] rfl htracks⟩

/-- Rounds of the timeouts, after each of which the queue is drained. -/
def retryActs (rounds : Nat) : List Router.Act := (List.replicate rounds [.endToEndTimeouts, .transmitNext]).flatten

/-- The report is sent once, and `A` has acknowledged it. After one retry it waits for `A` again, and after nine rounds it
    has been put into the queue nine times. -/
theorem endToEnd_unbounded :
    ((runFrom (Router.perform defaultTestSchema (.absent 16) .paced) reportingRouter twoNodesActs).pending
      (packetId defaultTestSchema gpsPacket)).lookup (senderHash (ascii "A")) = none ∧
    ((runFrom (Router.perform defaultTestSchema (.absent 16) .paced) reportingRouter (twoNodesActs ++ retryActs 1)).pending
      (packetId defaultTestSchema gpsPacket)).lookup (senderHash (ascii "A")) = some 0 ∧
    ¬ (runFrom (Router.perform defaultTestSchema (.absent 16) .paced) reportingRouter (twoNodesActs ++ retryActs 9)).requeued
      (packetId defaultTestSchema gpsPacket) ≤ 8 := by
  rw [defaultTestSchema_eq]
  decide +kernel

end SedsNet
