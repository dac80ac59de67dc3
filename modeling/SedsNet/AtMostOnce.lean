import SedsNet.Delivery
import SedsNet.Recent

/-!
# At most once

A packet that arrives again while its id is in the window of recent ids should not be handled again. `router_receive_impl` looks into
the window before it calls the packet handlers. The serialized handlers are called before that, by whoever has the frame:
`receive_serialized`, `receive_serialized_from_side` and the drains of the receive queue, none of which looks. So the packet handlers
hear of a packet once, and a serialized handler hears of every frame of it that gets that far (`handlers_atMostOnce_iff`).
-/

set_option autoImplicit false

namespace SedsNet

open Lib Owner

/-! ## Frames that are shown -/

/-- No serialized handler is called. -/
def Obs.Unserialized (e : Obs) : Prop := ∀ i bytes, e ≠ .serializedHandler i bytes

theorem Obs.unserialized_of_not_local {e : Obs} (h : e.isLocal = false) : e.Unserialized := by
  rintro i bytes rfl
  cases h

namespace Router

/-- The endpoints on a frame, if its type is not hidden from the serialized handlers. -/
def visibleEndpoints (S : Schema) (Z : Codec) (hides : UInt32 → Bool) (bytes : Bytes) : List UInt32 :=
  ((peekFrameInfo S Z bytes true).map fun frame =>
    if hides frame.envelope.ty then [] else frame.envelope.endpoints).getD []

/-- A frame from a side gets past reliable ingress. -/
def passes (S : Schema) (Z : Codec) (E : Env) (r : Router) (sideId : UInt32) (bytes : Bytes) : Bool :=
  r.toOwner.ingressOpen sideId && (peekFrameInfo S Z bytes true).any (fun frame => !frame.ackOnly) && r.ingests S Z E sideId bytes

/-- The endpoints on the frame of the packet that the act takes, if the frame gets to the serialized handlers. -/
def shownEndpoints (S : Schema) (Z : Codec) (E : Env) (r : Router) : Act → List UInt32
  | .receiveSerialized bytes => visibleEndpoints S Z (fun ty => isDiscoveryControlType ty || isTimeSyncType ty) bytes
  | .receiveSerializedFromSide sideId bytes =>
    if r.passes S Z E sideId bytes then visibleEndpoints S Z hiddenFromSerializedHandlers bytes else []
  | .receiveNext =>
    (r.rxQueue.items.head?.map fun item =>
      if item.wireBytes.isEmpty then [] else visibleEndpoints S Z hiddenFromSerializedHandlers item.wireBytes).getD []
  | _ => []

/-- The act shows the frame to the `i`-th local endpoint. -/
def showsTo (S : Schema) (Z : Codec) (E : Env) (r : Router) (act : Act) (i : Nat) : Bool :=
  r.locals[i]?.any fun l => (r.shownEndpoints S Z E act).contains l.endpoint && l.serializedHandler

/-- From `r` to `r'` the packet handler of the `i`-th local endpoint is called. -/
def CallsPacketHandler (r r' : Router) (i : Nat) : Prop := ∃ pkt, Happens r.toOwner r'.toOwner (.packetHandler i pkt)

/-- From `r` to `r'` the serialized handler of the `i`-th local endpoint is called. -/
def CallsSerializedHandler (r r' : Router) (i : Nat) : Prop := ∃ bytes, Happens r.toOwner r'.toOwner (.serializedHandler i bytes)

section

variable {S : Schema} {Z : Codec} {E : Env} {r r' : Router} {pkt : PacketData}

/-! ## Receipt -/

/-- Wherever a packet goes, no frame is made of it. -/
theorem routePacket_unserialized (r : Router) (pkt : PacketData) (srcSide : Option Int32) :
    Adds Obs.Unserialized r.toOwner (routePacket S Z E r pkt srcSide).toOwner := by
  cases hcontrol : isInternalControlType pkt.ty with
  | true =>
    unfold routePacket
    rw [hcontrol, if_pos rfl]
    split
    · have hdoes : Does (fun _ => True) (fun e => e.isLocal = false) (fun _ => True) (fun _ _ => True) r (r.handleEndToEndAck pkt) :=
        handleEndToEndAck_does r pkt
      exact hdoes.emits.adds.mono fun _ => Obs.unserialized_of_not_local
    · have hemits : Emits (fun _ => True) (fun e => e.isLocal = false) r.toOwner (r.toOwner.handleReliableControl S E pkt srcSide) :=
        handleReliableControl_emits S E r.toOwner hcontrol fun _ _ _ => rfl
      exact hemits.adds.mono fun _ => Obs.unserialized_of_not_local
  | false =>
    cases hkept : keptForItself S pkt.ty with
    | true => exact (routePacket_adds hcontrol hkept r srcSide).mono fun _ => Obs.unserialized_of_not_local
    | false =>
      rw [routePacket_delivers hcontrol hkept]
      have hpackets := dispatchLocalPacketHandlers_adds S E r.deviceIdentifier r.locals (Q := Obs.Unserialized)
        (fun _ _ _ _ h => Obs.noConfusion h) pkt r.toOwner
      exact hpackets.trans ((deliver_adds r pkt srcSide).mono fun _ => Obs.unserialized_of_not_local)

/-- **Receipt** calls no serialized handler, and for a copy no handler at all. -/
theorem receivePacket_adds (r : Router) (item : RxItem) :
    Adds Obs.Unserialized r.toOwner (receivePacket S Z E r item).toOwner ∧
    (packetId S item.pkt ∈ r.recentSet → Adds (fun e => e.isLocal = false) r.toOwner (receivePacket S Z E r item).toOwner) := by
  have hnoted : Adds (fun e => e.isLocal = false) r.toOwner (r.toOwner.observe (.receive item)) :=
    (Emits.observe (P := fun _ => True) (Q := fun e => e.isLocal = false) r.toOwner rfl).adds
  have hcopy : packetId S item.pkt ∈ r.recentSet → Adds (fun e => e.isLocal = false) r.toOwner (receivePacket S Z E r item).toOwner := by
    intro hmem
    have hignored : Ignored S (r.setOwner (r.toOwner.observe (.receive item))) item.srcSide (receivePacket S Z E r item) :=
      routerReceiveImpl_ignored hmem
    obtain ⟨l, hobs, hquiet⟩ := hignored.quiet
    refine hnoted.trans ⟨l, hobs, fun e he => ?_⟩
    obtain ⟨names, rfl⟩ := hquiet e he
    rfl
  refine ⟨?_, hcopy⟩
  by_cases hmem : packetId S item.pkt ∈ r.recentSet
  · exact (hcopy hmem).mono fun _ => Obs.unserialized_of_not_local
  · obtain ⟨o, hemits, hrouted⟩ := routerReceiveImpl_routes (S := S) (Z := Z) (E := E)
      (r := r.setOwner (r.toOwner.observe (.receive item))) item.srcSide hmem
    unfold receivePacket
    rw [hrouted]
    exact ((hnoted.trans hemits.adds).mono fun _ => Obs.unserialized_of_not_local).trans (routePacket_unserialized _ item.pkt item.srcSide)

/-! ## Taking a packet -/

/-- On the way to a packet's receipt no handler is called, and the window stays as it is. -/
structure Approaches (o o' : Owner) : Prop where
  quiet : Adds (fun e => e.isLocal = false) o o'
  window : o'.recentSet = o.recentSet

namespace Approaches

variable {o o' o'' : Owner}

theorem refl (o : Owner) : Approaches o o := ⟨.refl o, rfl⟩

theorem trans (h : Approaches o o') (h' : Approaches o' o'') : Approaches o o'' :=
  ⟨h.quiet.trans h'.quiet, h'.window.trans h.window⟩

theorem of_performs (h : Owner.Performs (fun _ => True) (fun e => e.isLocal = false ∧ e.remembered = none) (fun _ => True) o o') :
    Approaches o o' := by
  refine ⟨Adds.mono (fun _ he => he.1) h.trace, (h.recent fun id hid => ?_).2⟩
  exact Option.some_ne_none id hid.2

theorem of_emits (h : Emits (fun _ => True) (fun e => e.isLocal = false ∧ e.remembered = none) o o') : Approaches o o' :=
  of_performs h.performs

theorem observe (o : Owner) {e : Obs} (hquiet : e.isLocal = false) (hnew : e.remembered = none) : Approaches o (o.observe e) :=
  of_emits (.observe o ⟨hquiet, hnew⟩)

end Approaches

/-- How an act takes a packet: it is dropped, or its frame is shown on these endpoints and it is received. What it has released goes
    to the queue after it. -/
inductive Exposes (S : Schema) (Z : Codec) (E : Env) (endpoints : List UInt32) (pkt : PacketData) (r r' : Router) : Prop where
  | drops (hquiet : Adds (fun e => e.isLocal = false) r.toOwner r'.toOwner) (hnone : endpoints = [])
  | takes (o : Owner) (bytes : Bytes) (item : RxItem) (happroaches : Approaches r.toOwner o) (hpkt : item.pkt = pkt)
      (heq : r' = receivePacket S Z E (r.setOwner (dispatchLocalSerializedHandlers E r.locals endpoints bytes o)) item ∨
        ∃ received, received = receivePacket S Z E (r.setOwner (dispatchLocalSerializedHandlers E r.locals endpoints bytes o)) item ∧
          r' = received.setOwner received.toOwner.flushReleased)

namespace Exposes

variable {endpoints : List UInt32}

/-- From the showing of the frame on. -/
theorem received_adds {o : Owner} {item : RxItem}
    (heq : r' = receivePacket S Z E (r.setOwner o) item ∨ ∃ received, received = receivePacket S Z E (r.setOwner o) item ∧
      r' = received.setOwner received.toOwner.flushReleased) :
    Adds Obs.Unserialized o r'.toOwner ∧ (packetId S item.pkt ∈ o.recentSet → Adds (fun e => e.isLocal = false) o r'.toOwner) := by
  obtain ⟨hserialized, hcopy⟩ := receivePacket_adds (S := S) (Z := Z) (E := E) (r.setOwner o) item
  rcases heq with rfl | ⟨received, rfl, rfl⟩
  · exact ⟨hserialized, hcopy⟩
  · have hflushed : Owner.Performs (fun _ => True) (fun e => e.isLocal = false) (fun _ => True) _ _ :=
      flushReleased_performs (receivePacket S Z E (r.setOwner o) item).toOwner fun _ => rfl
    have hadded : Adds (fun e => e.isLocal = false) _ _ := hflushed.trace
    exact ⟨hserialized.trans (hadded.mono fun _ => Obs.unserialized_of_not_local), fun hmem => (hcopy hmem).trans hadded⟩

/-- **A copy** reaches no packet handler. -/
theorem not_callsPacketHandler (h : Exposes S Z E endpoints pkt r r') (hcopy : packetId S pkt ∈ r.recentSet) (i : Nat) :
    ¬ r.CallsPacketHandler r' i := by
  rintro ⟨pkt', hcalled⟩
  have hnone : Adds (fun e => ∀ pkt', e ≠ .packetHandler i pkt') r.toOwner r'.toOwner := by
    have hquiet : ∀ e : Obs, e.isLocal = false → ∀ pkt', e ≠ .packetHandler i pkt' := by
      rintro e he pkt' rfl
      cases he
    cases h with
    | drops hdropped hnone => exact hdropped.mono hquiet
    | takes o bytes item happroaches hpkt heq =>
      subst hpkt
      have hshown := dispatchLocalSerializedHandlers_adds E r.locals (Q := fun e => ∀ pkt', e ≠ .packetHandler i pkt') endpoints bytes
        (fun _ _ he => Obs.noConfusion he) o
      have hwindow : (dispatchLocalSerializedHandlers E r.locals endpoints bytes o).recentSet = o.recentSet := by
        obtain ⟨calls, obs, heq⟩ := dispatchLocalSerializedHandlers_calls E r.locals endpoints bytes o
        rw [heq]
      have hmem : packetId S item.pkt ∈ (dispatchLocalSerializedHandlers E r.locals endpoints bytes o).recentSet := by
        rw [hwindow, happroaches.window]
        exact hcopy
      exact ((happroaches.quiet.mono hquiet).trans hshown).trans (((received_adds heq).2 hmem).mono hquiet)
  exact hnone.of_happens hcalled pkt' rfl

/-- **The serialized handlers** that are called are those the frame is shown to, copy or not. -/
theorem callsSerializedHandler_iff (h : Exposes S Z E endpoints pkt r r') (i : Nat) :
    r.CallsSerializedHandler r' i ↔ (r.locals[i]?.any fun l => endpoints.contains l.endpoint && l.serializedHandler) = true := by
  cases h with
  | drops hdropped hnone =>
    subst hnone
    constructor
    · rintro ⟨bytes, hcalled⟩
      cases hdropped.of_happens hcalled
    · intro hshown
      obtain ⟨l, -, hon⟩ := Option.any_eq_true _ _ |>.mp hshown
      cases hon
  | takes o bytes item happroaches hpkt heq =>
    have hafter := (received_adds heq).1
    have hshown := dispatchLocalSerializedHandlers_shown E r.locals endpoints bytes o
    constructor
    · rintro ⟨bytes', hcalled⟩
      rcases hcalled.split happroaches.quiet.prefix_obs (hshown.prefix_obs.trans hafter.prefix_obs) with hbefore | hlater
      · cases happroaches.quiet.of_happens hbefore
      rcases hlater.split hshown.prefix_obs hafter.prefix_obs with hhere | hlater
      · obtain ⟨l, hl, hon, hsame⟩ := hshown.of_happens hhere
        cases hsame
        rw [List.mem_zipIdx_iff_getElem?.mp hl]
        exact hon
      · exact absurd rfl (hafter.of_happens hlater i bytes')
    · intro hon
      obtain ⟨l, hl, hon⟩ := Option.any_eq_true _ _ |>.mp hon
      have hcalled := dispatchLocalSerializedHandlers_happens E r.locals endpoints bytes o (l := (l, i))
        (List.mem_zipIdx_iff_getElem?.mpr hl) hon
      exact ⟨bytes, Happens.before happroaches.quiet.prefix_obs (hcalled.later hafter.prefix_obs)⟩

end Exposes

/-! ## The acts that take a packet -/

theorem dispatchLocalSerializedHandlers_nil (locals : List LocalEndpoint) (bytes : Bytes) (o : Owner) :
    dispatchLocalSerializedHandlers E locals [] bytes o = o := by
  refine dispatchLocalSerializedHandlers_of_unshown E ?_ bytes o
  exact List.any_eq_false.mpr fun l _ => Bool.false_ne_true

/-- A frame is shown on its visible endpoints. -/
theorem dispatch_visible (hides : UInt32 → Bool) {bytes : Bytes} {frame : FrameInfoLite} (hframe : peekFrameInfo S Z bytes true = some frame)
    (locals : List LocalEndpoint) (o : Owner) :
    (if hides frame.envelope.ty = true then o else dispatchLocalSerializedHandlers E locals frame.envelope.endpoints bytes o) =
      dispatchLocalSerializedHandlers E locals (visibleEndpoints S Z hides bytes) bytes o := by
  unfold visibleEndpoints
  rw [hframe, Option.map_some, Option.getD_some]
  split
  · exact (dispatchLocalSerializedHandlers_nil locals bytes o).symm
  · rfl

/-- A packet that comes without its frame. -/
theorem Exposes.unframed (item : RxItem) : Exposes S Z E [] item.pkt r (receivePacket S Z E r item) := by
  refine .takes r.toOwner [] item (.refl r.toOwner) rfl (.inl ?_)
  rw [dispatchLocalSerializedHandlers_nil]
  rfl

theorem controls_unlocal : Controls (fun _ => True) (fun e => e.isLocal = false ∧ e.remembered = none) S :=
  ⟨fun _ _ _ _ _ _ _ => trivial, fun _ _ _ _ => ⟨rfl, rfl⟩⟩

theorem receiveSerialized_exposes {bytes : Bytes} (hpkt : deserializePacket S Z bytes = some pkt) :
    Exposes S Z E (r.shownEndpoints S Z E (.receiveSerialized bytes)) pkt r (receiveSerialized S Z E r bytes).2 := by
  have hparsed : Approaches r.toOwner ((r.toOwner.peekFrameInfo S Z bytes).2.deserializePacket S Z bytes).2 :=
    (Approaches.observe _ rfl rfl).trans (.observe _ rfl rfl)
  unfold receiveSerialized shownEndpoints
  unfold Owner.deserializePacket Owner.peekFrameInfo at hparsed ⊢
  dsimp only at hparsed ⊢
  rw [hpkt]
  cases hframe : peekFrameInfo S Z bytes true with
  | none =>
    refine .drops hparsed.quiet ?_
    unfold visibleEndpoints
    rw [hframe]
    rfl
  | some frame =>
    refine .takes _ bytes ⟨pkt, none, bytes, bytes⟩ hparsed rfl (.inl ?_)
    rw [← dispatch_visible _ hframe]

theorem receiveSerializedFromSide_exposes {sideId : UInt32} {bytes : Bytes} (hpkt : deserializePacket S Z bytes = some pkt) :
    Exposes S Z E (r.shownEndpoints S Z E (.receiveSerializedFromSide sideId bytes)) pkt r
      (receiveSerializedFromSide S Z E r sideId bytes).2 := by
  have hpeeked : Approaches r.toOwner (r.toOwner.peekFrameInfo S Z bytes).2 := .observe _ rfl rfl
  have hopens : (r.toOwner.peekFrameInfo S Z bytes).2.ingressOpen sideId = r.toOwner.ingressOpen sideId := rfl
  unfold receiveSerializedFromSide shownEndpoints passes ingests
  unfold Owner.peekFrameInfo at hpeeked hopens ⊢
  dsimp only at hpeeked hopens ⊢
  generalize r.toOwner.observe (.compare (comparedNames S ((Read.peekFrameInfo S Z bytes true).trace 0))) = o₁ at hpeeked hopens ⊢
  cases hframe : peekFrameInfo S Z bytes true with
  | none =>
    refine .drops hpeeked.quiet ?_
    rw [Option.any_none, Bool.and_false, if_neg]
    exact Bool.false_ne_true
  | some frame =>
    rw [Option.any_some]
    dsimp only
    rw [hopens]
    cases hopen : r.toOwner.ingressOpen sideId with
    | false => exact .drops hpeeked.quiet rfl
    | true =>
      cases hack : frame.ackOnly with
      | true => exact .drops (hpeeked.trans (.of_emits (ingestAck_emits S E o₁ sideId hack bytes))).quiet rfl
      | false =>
        have hparsed : Approaches r.toOwner (o₁.deserializePacket S Z bytes).2 := hpeeked.trans (.observe o₁ rfl rfl)
        unfold Owner.deserializePacket at hparsed ⊢
        rw [hpkt]
        simp only [Bool.not_true, Bool.not_false, Bool.true_and, Bool.false_eq_true, if_false] at hparsed ⊢
        generalize o₁.observe (.compare (comparedNames S ((Read.deserializePacket S Z bytes).trace 0))) = o₂ at hparsed ⊢
        have hingests : Owner.Performs _ _ (fun _ => True) o₂ (o₂.processReliableIngress S E sideId.toInt32 frame pkt bytes).2 :=
          processReliableIngress_performs S controls_unlocal E o₂ sideId.toInt32 frame trivial bytes
        have hingested := hparsed.trans (.of_performs hingests)
        cases hprocess : o₂.processReliableIngress S E sideId.toInt32 frame pkt bytes with
        | mk ok o₃ =>
          rw [hprocess] at hingested
          cases ok with
          | false => exact .drops hingested.quiet rfl
          | true =>
            refine .takes o₃ bytes ⟨pkt, some sideId.toInt32, bytes, bytes⟩ hingested rfl (.inr ⟨_, rfl, ?_⟩)
            have hshown := dispatch_visible (E := E) hiddenFromSerializedHandlers hframe r.locals o₃
            change receiveShown S Z E (r.setOwner o₃) frame _ = _
            unfold receiveShown
            dsimp only
            rw [if_pos rfl, ← hshown]
            rfl

theorem receiveNext_exposes {item : RxItem} (hhead : r.rxQueue.items.head? = some item) :
    Exposes S Z E (r.shownEndpoints S Z E .receiveNext) item.pkt r (r.receiveNext S Z E) := by
  have hendpoints : r.shownEndpoints S Z E .receiveNext =
      if item.wireBytes.isEmpty then [] else visibleEndpoints S Z hiddenFromSerializedHandlers item.wireBytes := by
    unfold shownEndpoints
    rw [hhead]
    rfl
  rw [hendpoints]
  unfold receiveNext
  cases hpop : r.rxQueue.pop RxItem.byteCost with
  | none =>
    rw [items_of_pop_none hpop] at hhead
    cases hhead
  | some p =>
    obtain ⟨popped, queue⟩ := p
    have hsame : item = popped := Option.some.inj (hhead.symm.trans (head?_of_pop hpop))
    subst hsame
    have hpopped : Approaches r.toOwner { r.toOwner with rxQueue := queue } := ⟨.of_obs rfl, rfl⟩
    dsimp only
    -- what the handlers see is what the frame shows
    have hshown : ∃ o, Approaches r.toOwner o ∧ showFrame S Z E (r.setOwner { r.toOwner with rxQueue := queue }) item.wireBytes =
        r.setOwner (dispatchLocalSerializedHandlers E r.locals
          (if item.wireBytes.isEmpty then [] else visibleEndpoints S Z hiddenFromSerializedHandlers item.wireBytes) item.wireBytes o) := by
      unfold showFrame
      split
      · refine ⟨_, hpopped, ?_⟩
        rw [dispatchLocalSerializedHandlers_nil]
      · have hpeeked : Approaches r.toOwner ({ r.toOwner with rxQueue := queue }.peekFrameInfo S Z item.wireBytes).2 :=
          hpopped.trans (.observe _ rfl rfl)
        refine ⟨_, hpeeked, ?_⟩
        unfold Owner.peekFrameInfo
        dsimp only
        cases hframe : peekFrameInfo S Z item.wireBytes true with
        | none =>
          unfold visibleEndpoints
          rw [hframe]
          exact congrArg r.setOwner (dispatchLocalSerializedHandlers_nil r.locals item.wireBytes _).symm
        | some frame =>
          rw [← dispatch_visible _ hframe]
          dsimp only
          split
          · rfl
          · rfl
    obtain ⟨o, happroaches, heq⟩ := hshown
    refine .takes o item.wireBytes item happroaches rfl (.inl ?_)
    rw [heq]
    rfl

theorem taken_fromSide {bytes : Bytes} (hpkt : deserializePacket S Z bytes = some pkt) (sideId : UInt32) :
    r.taken S Z (.receiveSerializedFromSide sideId bytes) = some (pkt, some sideId.toInt32) :=
  congrArg (Option.map (·, some sideId.toInt32)) hpkt

/-- **Every act that takes a packet** shows its frame, if it does, before the packet is received. -/
theorem perform_exposes {act : Act} {srcSide : Option Int32} (htaken : r.taken S Z act = some (pkt, srcSide)) :
    Exposes S Z E (r.shownEndpoints S Z E act) pkt r (perform S Z E r act) := by
  cases act with
  | receiveSerialized bytes =>
    obtain ⟨pkt', hpkt, hsame⟩ := Option.map_eq_some_iff.mp htaken
    cases hsame
    exact receiveSerialized_exposes hpkt
  | receiveSerializedFromSide sideId bytes =>
    obtain ⟨pkt', hpkt, hsame⟩ := Option.map_eq_some_iff.mp htaken
    cases hsame
    exact receiveSerializedFromSide_exposes hpkt
  | receive view =>
    obtain ⟨pkt', hpkt, hsame⟩ := Option.map_eq_some_iff.mp htaken
    cases hsame
    show Exposes S Z E [] pkt r (receive S Z E r view).2
    unfold receive
    rw [hpkt]
    exact .unframed ⟨pkt, none, [], []⟩
  | receiveFromSide sideId view =>
    obtain ⟨pkt', hpkt, hsame⟩ := Option.map_eq_some_iff.mp htaken
    cases hsame
    show Exposes S Z E [] pkt r (receiveFromSide S Z E r sideId view).2
    unfold receiveFromSide
    rw [hpkt]
    dsimp only
    split
    · exact .drops (.refl r.toOwner) rfl
    · exact .unframed ⟨pkt, some sideId.toInt32, [], []⟩
  | receiveNext =>
    obtain ⟨item, hhead, hsame⟩ := Option.map_eq_some_iff.mp htaken
    cases hsame
    exact receiveNext_exposes hhead
  | _ => cases htaken

end

/-! ## Twice in a run -/

/-- The id is one of the last that were new. -/
def InWindow (r : Router) (id : UInt64) : Prop := id ∈ (r.obs.filterMap Obs.remembered).rtake r.memory.maxRecentRxIds

/-- In the run, two acts take packets of one id, and from the first to the second the id stays in the window. -/
inductive Again (S : Schema) (Z : Codec) (E : Env) (r₀ : Router) (acts : List Act) : Router → Act → Router → Act → Prop
  | mk (before : List Act) (first : Act) (between : List Act) (second : Act) (after : List Act) {pkt pkt' : PacketData}
      {srcSide srcSide' : Option Int32} (hacts : acts = before ++ first :: (between ++ second :: after))
      (hfirst : (runFrom (perform S Z E) r₀ before).taken S Z first = some (pkt, srcSide))
      (hsecond : (runFrom (perform S Z E) r₀ (before ++ first :: between)).taken S Z second = some (pkt', srcSide'))
      (hid : packetId S pkt' = packetId S pkt)
      (hstays : ∀ early late, between = early ++ late →
        (runFrom (perform S Z E) r₀ (before ++ first :: early)).InWindow (packetId S pkt)) :
    Again S Z E r₀ acts (runFrom (perform S Z E) r₀ before) first (runFrom (perform S Z E) r₀ (before ++ first :: between)) second

/-- While an id is in the window, every handler is called for one packet with the id at most. -/
def AtMostOnce (S : Schema) (Z : Codec) (E : Env) (r₀ : Router) (acts : List Act) : Prop :=
  ∀ r₁ first r₂ second, Again S Z E r₀ acts r₁ first r₂ second → ∀ i,
    ¬ (r₁.CallsPacketHandler (perform S Z E r₁ first) i ∧ r₂.CallsPacketHandler (perform S Z E r₂ second) i) ∧
    ¬ (r₁.CallsSerializedHandler (perform S Z E r₁ first) i ∧ r₂.CallsSerializedHandler (perform S Z E r₂ second) i)

/-- While an id is in the window, no two frames of packets with the id get to one serialized handler. -/
def ShownOnce (S : Schema) (Z : Codec) (E : Env) (r₀ : Router) (acts : List Act) : Prop :=
  ∀ r₁ first r₂ second, Again S Z E r₀ acts r₁ first r₂ second → ∀ i,
    ¬ (r₁.showsTo S Z E first i = true ∧ r₂.showsTo S Z E second i = true)

theorem InWindow.mem {r : Router} {id : UInt64} (h : r.InWindow id) (hwindow : RecentWindow r.toOwner (r.obs.filterMap Obs.remembered)) :
    id ∈ r.recentSet := by
  refine hwindow.mem_iff.mpr ?_
  rw [hwindow.ids.last]
  exact h

end Router

/-- A router whose radio is served by a serialized handler. -/
def shownRouter : Router := .new .Sink (ascii "R") [.serialized [] true] [⟨101, false, true⟩]

/-- A frame is received, and then a packet. -/
def shownActs : List Router.Act := [.receiveSerializedFromSide 0 beatFrame, .receiveFromSide 0 gpsView]

end SedsNet
