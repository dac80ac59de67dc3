import SedsNet.Caches
import SedsNet.Deferral

/-!
# Who hears of a packet

A packet that is sent or received should reach every handler that is registered on one of its endpoints. A router has two kinds
of them, and calls them at different places: packet handlers in `dispatch_local_packet_handlers`, and serialized handlers where
there is a frame. A packet that arrives without a frame is not made into one. `localDelivery_iff` says for each way into a router
exactly when every handler is called.
-/

set_option autoImplicit false

namespace SedsNet

open Lib Owner

namespace Owner

/-! ## What happens between two states -/

/-- On the way from `o` to `o'` this happens. -/
def Happens (o o' : Owner) (e : Obs) : Prop := ∃ l, o'.obs = o.obs ++ l ∧ e ∈ l

/-- On the way from `o` to `o'` nothing else happens than `Q` says. -/
def Adds (Q : Obs → Prop) (o o' : Owner) : Prop := ∃ l, o'.obs = o.obs ++ l ∧ ∀ e ∈ l, Q e

section

variable {Q : Obs → Prop} {o o' o'' : Owner} {e : Obs}

namespace Adds

theorem refl (o : Owner) : Adds Q o o := ⟨[], (List.append_nil _).symm, fun _ he => absurd he List.not_mem_nil⟩

theorem of_obs (h : o'.obs = o.obs) : Adds Q o o' := ⟨[], by rw [h, List.append_nil], fun _ he => absurd he List.not_mem_nil⟩

theorem call (E : Env) (o : Owner) (he : Q e) : Adds Q o (o.call E e).2 := by
  refine ⟨[e], rfl, ?_⟩
  intro x hx
  rw [List.mem_singleton.mp hx]
  exact he

theorem trans (h : Adds Q o o') (h' : Adds Q o' o'') : Adds Q o o'' := by
  obtain ⟨l, hl, hq⟩ := h
  obtain ⟨l', hl', hq'⟩ := h'
  refine ⟨l ++ l', by rw [hl', hl, List.append_assoc], ?_⟩
  intro e he
  exact (List.mem_append.mp he).elim (hq e) (hq' e)

theorem mono {Q' : Obs → Prop} (hq : ∀ e, Q e → Q' e) (h : Adds Q o o') : Adds Q' o o' := by
  obtain ⟨l, hl, hall⟩ := h
  exact ⟨l, hl, fun e he => hq e (hall e he)⟩

theorem prefix_obs (h : Adds Q o o') : o.obs <+: o'.obs := by
  obtain ⟨l, hl, -⟩ := h
  exact ⟨l, hl.symm⟩

theorem foldl {α β : Type} {f : β → α → β} (g : β → Owner) {xs : List α} (hf : ∀ p, ∀ x ∈ xs, Adds Q (g p) (g (f p x))) (p : β) :
    Adds Q (g p) (g (xs.foldl f p)) := by
  induction xs generalizing p with
  | nil => exact .refl _
  | cons x xs ih => exact (hf p x List.mem_cons_self).trans (ih (fun p y hy => hf p y (List.mem_cons_of_mem x hy)) (f p x))

/-- Only what is allowed happens. -/
theorem of_happens (h : Adds Q o o') (hhappens : Happens o o' e) : Q e := by
  obtain ⟨l, hl, hq⟩ := h
  obtain ⟨l', hl', he⟩ := hhappens
  have hsame : l = l' := List.append_cancel_left (hl.symm.trans hl')
  exact hq e (hsame ▸ he)

end Adds

theorem Emits.adds {P : TxItem → Prop} (h : Emits P Q o o') : Adds Q o o' := h.trace

namespace Happens

theorem call (E : Env) (o : Owner) (e : Obs) : Happens o (o.call E e).2 e := ⟨[e], rfl, List.mem_singleton_self e⟩

theorem prefix_obs (h : Happens o o' e) : o.obs <+: o'.obs := by
  obtain ⟨l, hl, -⟩ := h
  exact ⟨l, hl.symm⟩

theorem later (h : Happens o o' e) (hrest : o'.obs <+: o''.obs) : Happens o o'' e := by
  obtain ⟨l, hl, he⟩ := h
  obtain ⟨l', hl'⟩ := hrest
  exact ⟨l ++ l', by rw [← hl', hl, List.append_assoc], List.mem_append_left l' he⟩

theorem before (hfirst : o.obs <+: o'.obs) (h : Happens o' o'' e) : Happens o o'' e := by
  obtain ⟨l, hl⟩ := hfirst
  obtain ⟨l', hl', he⟩ := h
  exact ⟨l ++ l', by rw [hl', ← hl, List.append_assoc], List.mem_append_right l he⟩

/-- It happens in the one part or in the other. -/
theorem split (hfirst : o.obs <+: o'.obs) (hrest : o'.obs <+: o''.obs) (h : Happens o o'' e) : Happens o o' e ∨ Happens o' o'' e := by
  obtain ⟨l, hl⟩ := hfirst
  obtain ⟨l', hl'⟩ := hrest
  obtain ⟨whole, hwhole, he⟩ := h
  have hsplit : whole = l ++ l' := by
    refine @List.append_cancel_left _ o.obs _ _ ?_
    rw [← hwhole, ← hl', ← hl, List.append_assoc]
  rw [hsplit] at he
  exact (List.mem_append.mp he).imp (fun he => ⟨l, hl.symm, he⟩) fun he => ⟨l', hl'.symm, he⟩

/-- Nothing is put on record here. -/
theorem not_of_obs (h : o'.obs = o.obs) : ¬ Happens o o' e := by
  rintro ⟨l, hl, he⟩
  rw [h] at hl
  have hnone : l = [] := List.self_eq_append_right.mp hl
  rw [hnone] at he
  cases he

end Happens

end

theorem enqueueTxAt_obs (front : Bool) (o : Owner) (item : TxItem) : (o.enqueueTxAt front item).obs = o.obs := by
  unfold enqueueTxAt
  split
  · rfl
  · rfl

/-! ## The handlers -/

section

variable {S : Schema} {Z : Codec} {E : Env} {device : Bytes} {locals : List LocalEndpoint}

theorem tryPacketHandler_adds {Q : Obs → Prop} {i : Nat} {pkt : PacketData} (hq : Q (.packetHandler i pkt)) (tries : Nat)
    (rc : SedsResult) (o : Owner) : Adds Q o (tryPacketHandler E i pkt tries rc o).2 := by
  induction tries generalizing rc o with
  | zero => exact .refl o
  | succ tries ih =>
    unfold tryPacketHandler
    dsimp only
    split
    · exact .call E o hq
    · exact (Adds.call E o hq).trans (ih _ _)

theorem tryPacketHandler_happens (i : Nat) (pkt : PacketData) {tries : Nat} (htries : tries ≠ 0) (rc : SedsResult) (o : Owner) :
    Happens o (tryPacketHandler E i pkt tries rc o).2 (.packetHandler i pkt) := by
  cases tries with
  | zero => exact absurd rfl htries
  | succ tries =>
    have hcalled := Happens.call E o (.packetHandler i pkt)
    unfold tryPacketHandler
    dsimp only
    split
    · exact hcalled
    · exact hcalled.later (tryPacketHandler_adds (Q := fun _ => True) trivial tries _ _).prefix_obs

theorem dispatchLocalPacket_adds {Q : Obs → Prop} (pkt : PacketData) (hq : ∀ i, Q (.packetHandler i pkt)) (p : Failures × Owner)
    (l : LocalEndpoint × Nat) : Adds Q p.2 (dispatchLocalPacket E locals pkt p l).2 := by
  obtain ⟨failures, o⟩ := p
  have htried := tryPacketHandler_adds (E := E) (hq l.2) o.tuning.maxHandlerRetries SEDS_OK o
  unfold dispatchLocalPacket
  dsimp only
  split
  · split
    · exact htried
    · exact htried
  · exact .refl o

/-- What happens in one round of a loop happens in the loop. -/
theorem foldl_happens {α β : Type} {f : β → α → β} (g : β → Owner) (event : α → Obs) (I : β → Prop)
    (hf : ∀ p x, (g p).obs <+: (g (f p x)).obs) (hI : ∀ p x, I p → I (f p x)) {xs : List α} {x : α} (hx : x ∈ xs)
    (hround : ∀ p, I p → Happens (g p) (g (f p x)) (event x)) {p : β} (hp : I p) : Happens (g p) (g (xs.foldl f p)) (event x) := by
  induction xs generalizing p with
  | nil => cases hx
  | cons y ys ih =>
    rw [List.foldl_cons]
    rcases List.mem_cons.mp hx with rfl | hx
    · exact (hround p hp).later (prefix_foldl g hf ys _)
    · exact Happens.before (hf p y) (ih hx (hI p y hp))

/-- The state after the first loop over the handlers. -/
def afterPacketHandlers (E : Env) (locals : List LocalEndpoint) (pkt : PacketData) (o : Owner) : Owner :=
  (locals.zipIdx.foldl (dispatchLocalPacket E locals pkt) (⟨none, []⟩, o)).2

variable (S E device locals) in
theorem dispatchLocalPacketHandlers_split (pkt : PacketData) (o : Owner) :
    (dispatchLocalPacketHandlers S E device locals pkt o).2 = afterPacketHandlers E locals pkt o ∨
    ∃ report, (dispatchLocalPacketHandlers S E device locals pkt o).2 =
      reportError E locals report (afterPacketHandlers E locals pkt o) := by
  unfold dispatchLocalPacketHandlers afterPacketHandlers
  dsimp only
  split
  · exact .inl rfl
  · split
    · exact .inr ⟨_, rfl⟩
    · exact .inl rfl

theorem reportError_adds {Q : Obs → Prop} (pkt : PacketData) (hq : ∀ i, Q (.packetHandler i pkt)) (o : Owner) :
    Adds Q o (reportError E locals pkt o) := by
  unfold reportError
  apply Adds.foldl (fun o : Owner => o)
  intro o l _
  split
  · exact .call E o (hq l.2)
  · exact .refl o

variable (S E device locals) in
/-- Dispatching a packet calls packet handlers only. -/
theorem dispatchLocalPacketHandlers_adds {Q : Obs → Prop} (hq : ∀ i pkt, Q (.packetHandler i pkt)) (pkt : PacketData) (o : Owner) :
    Adds Q o (dispatchLocalPacketHandlers S E device locals pkt o).2 := by
  have hfirst : Adds Q o (afterPacketHandlers E locals pkt o) :=
    Adds.foldl Prod.snd (fun p l _ => dispatchLocalPacket_adds pkt (fun i => hq i pkt) p l) (⟨none, []⟩, o)
  rcases dispatchLocalPacketHandlers_split S E device locals pkt o with hsame | ⟨report, hreport⟩
  · rw [hsame]
    exact hfirst
  · rw [hreport]
    exact hfirst.trans (reportError_adds report (fun i => hq i report) _)

variable (S E device locals) in
/-- **Every packet handler** on the endpoints of the packet is called. -/
theorem dispatchLocalPacketHandlers_happens (pkt : PacketData) {o : Owner} (hretries : o.tuning.maxHandlerRetries ≠ 0)
    {l : LocalEndpoint × Nat} (hl : l ∈ locals.zipIdx) (hhandles : (pkt.endpoints.contains l.1.endpoint && l.1.packetHandler) = true) :
    Happens o (dispatchLocalPacketHandlers S E device locals pkt o).2 (.packetHandler l.2 pkt) := by
  have hround : ∀ p : Failures × Owner, p.2.tuning.maxHandlerRetries ≠ 0 →
      Happens p.2 (dispatchLocalPacket E locals pkt p l).2 (.packetHandler l.2 pkt) := by
    intro p hretries
    obtain ⟨failures, o⟩ := p
    have htried := tryPacketHandler_happens (E := E) l.2 pkt hretries SEDS_OK o
    unfold dispatchLocalPacket
    dsimp only
    rw [if_pos hhandles]
    split
    · exact htried
    · exact htried
  have hfirst : Happens o (afterPacketHandlers E locals pkt o) (.packetHandler l.2 pkt) := by
    refine foldl_happens Prod.snd (fun l : LocalEndpoint × Nat => .packetHandler l.2 pkt) (fun p => p.2.tuning.maxHandlerRetries ≠ 0)
      (fun p x => (dispatchLocalPacket_emits (S := S) allowed E locals pkt p x).prefix_obs) ?_ hl hround hretries
    intro p x hretries
    rw [(dispatchLocalPacket_emits (P := fun _ => True) (Q := fun _ => True) (S := S) allowed E locals pkt p x).tuning]
    exact hretries
  rcases dispatchLocalPacketHandlers_split S E device locals pkt o with hsame | ⟨report, hreport⟩
  · rw [hsame]
    exact hfirst
  · rw [hreport]
    exact hfirst.later (reportError_adds (Q := fun _ => True) report (fun _ => trivial) _).prefix_obs

variable (E locals) in
/-- **Every serialized handler** on these endpoints is called, and no other. -/
theorem dispatchLocalSerializedHandlers_happens (endpoints : List UInt32) (bytes : Bytes) (o : Owner)
    {l : LocalEndpoint × Nat} (hl : l ∈ locals.zipIdx) (hhandles : (endpoints.contains l.1.endpoint && l.1.serializedHandler) = true) :
    Happens o (dispatchLocalSerializedHandlers E locals endpoints bytes o) (.serializedHandler l.2 bytes) := by
  unfold dispatchLocalSerializedHandlers
  refine foldl_happens (fun o : Owner => o) (fun l : LocalEndpoint × Nat => .serializedHandler l.2 bytes) (fun _ => True)
    (fun o x => (callIf_emits default allowed E (e := .serializedHandler x.2 bytes) rfl _ o).prefix_obs) (fun _ _ _ => trivial) hl ?_ trivial
  intro o _
  rw [if_pos hhandles]
  exact .call E o _

variable (E locals) in
/-- Only the serialized handlers on these endpoints are called. -/
theorem dispatchLocalSerializedHandlers_shown (endpoints : List UInt32) (bytes : Bytes) (o : Owner) :
    Adds (fun e => ∃ l ∈ locals.zipIdx, (endpoints.contains l.1.endpoint && l.1.serializedHandler) = true ∧ e = .serializedHandler l.2 bytes)
      o (dispatchLocalSerializedHandlers E locals endpoints bytes o) := by
  unfold dispatchLocalSerializedHandlers
  apply Adds.foldl (fun o : Owner => o)
  intro o l hl
  split
  · rename_i hhandles
    exact .call E o ⟨l, hl, hhandles, rfl⟩
  · exact .refl o

variable (E locals) in
theorem dispatchLocalSerializedHandlers_adds {Q : Obs → Prop} (endpoints : List UInt32) (bytes : Bytes)
    (hq : ∀ i, Q (.serializedHandler i bytes)) (o : Owner) : Adds Q o (dispatchLocalSerializedHandlers E locals endpoints bytes o) := by
  refine (dispatchLocalSerializedHandlers_shown E locals endpoints bytes o).mono ?_
  rintro e ⟨l, -, -, rfl⟩
  exact hq l.2

/-! ### What the handlers answer -/

/-- The packet handlers that are called next accept what they are given: each of the `n` handlers says so in one of its tries. -/
inductive Accepting (E : Env) (tries : Nat) : Nat → Nat → Prop
  | done (calls : Nat) : Accepting E tries 0 calls
  | next {n calls : Nat} (k : Nat) (htry : k < tries) (hrefuses : ∀ j < k, E.callback (calls + j) ≠ SEDS_OK)
      (haccepts : E.callback (calls + k) = SEDS_OK) (hrest : Accepting E tries n (calls + k + 1)) : Accepting E tries (n + 1) calls

/-- A handler is tried until it accepts. -/
theorem tryPacketHandler_accepts (i : Nat) (pkt : PacketData) {tries k : Nat} (htry : k < tries) (rc : SedsResult) {o : Owner}
    (hrefuses : ∀ j < k, E.callback (o.calls + j) ≠ SEDS_OK) (haccepts : E.callback (o.calls + k) = SEDS_OK) :
    (tryPacketHandler E i pkt tries rc o).1 = SEDS_OK ∧ (tryPacketHandler E i pkt tries rc o).2.calls = o.calls + k + 1 := by
  induction tries generalizing k rc o with
  | zero => exact absurd htry (Nat.not_lt_zero k)
  | succ tries ih =>
    unfold tryPacketHandler
    dsimp only
    cases k with
    | zero =>
      have hrc : (o.call E (.packetHandler i pkt)).1 = SEDS_OK := haccepts
      rw [if_pos hrc]
      exact ⟨hrc, rfl⟩
    | succ k =>
      have hrc : (o.call E (.packetHandler i pkt)).1 ≠ SEDS_OK := hrefuses 0 (Nat.zero_lt_succ k)
      rw [if_neg hrc]
      -- the other tries are made with one call more on record
      have hshift : ∀ j, (o.call E (.packetHandler i pkt)).2.calls + j = o.calls + (j + 1) := by
        intro j
        show o.calls + 1 + j = o.calls + (j + 1)
        omega
      have hrest := ih (Nat.lt_of_succ_lt_succ htry) (o.call E (.packetHandler i pkt)).1 (o := (o.call E (.packetHandler i pkt)).2)
        (fun j hj => by rw [hshift]; exact hrefuses (j + 1) (Nat.succ_lt_succ hj)) (by rw [hshift]; exact haccepts)
      rw [hshift] at hrest
      exact hrest

theorem tryPacketHandler_refuses (i : Nat) (pkt : PacketData) {tries : Nat} (htries : tries ≠ 0) (rc : SedsResult) {o : Owner}
    (hrefuses : ∀ j < tries, E.callback (o.calls + j) ≠ SEDS_OK) : (tryPacketHandler E i pkt tries rc o).1 ≠ SEDS_OK := by
  induction tries generalizing rc o with
  | zero => exact absurd rfl htries
  | succ tries ih =>
    have hrc : (o.call E (.packetHandler i pkt)).1 ≠ SEDS_OK := hrefuses 0 (Nat.zero_lt_succ tries)
    unfold tryPacketHandler
    dsimp only
    rw [if_neg hrc]
    by_cases hlast : tries = 0
    · subst hlast
      exact hrc
    · apply ih hlast
      intro j hj
      have hlater := hrefuses (j + 1) (Nat.succ_lt_succ hj)
      rwa [Nat.add_comm j 1, ← Nat.add_assoc] at hlater

/-- A failure that was noted is kept. -/
theorem dispatchLocalPacket_failed (pkt : PacketData) (l : LocalEndpoint × Nat) {p : Failures × Owner} (hfailed : p.1.first ≠ none) :
    (dispatchLocalPacket E locals pkt p l).1.first ≠ none := by
  obtain ⟨failures, o⟩ := p
  obtain ⟨first, hfirst⟩ := Option.ne_none_iff_exists'.mp hfailed
  unfold dispatchLocalPacket
  dsimp only at hfirst ⊢
  split
  · split
    · exact hfailed
    · rw [hfirst]
      exact Option.some_ne_none _
  · exact hfailed

theorem foldl_dispatchLocalPacket_failed (pkt : PacketData) (xs : List (LocalEndpoint × Nat)) {p : Failures × Owner}
    (hfailed : p.1.first ≠ none) : (xs.foldl (dispatchLocalPacket E locals pkt) p).1.first ≠ none := by
  induction xs generalizing p with
  | nil => exact hfailed
  | cons x xs ih => exact ih (dispatchLocalPacket_failed pkt x hfailed)

/-- The first loop over the handlers notes a failure unless they all accept. -/
theorem foldl_dispatchLocalPacket_ok (locals : List LocalEndpoint) (pkt : PacketData) (xs : List (LocalEndpoint × Nat)) (failures : Failures) {o : Owner}
    (hnone : failures.first = none) (hretries : o.tuning.maxHandlerRetries ≠ 0) :
    (xs.foldl (dispatchLocalPacket E locals pkt) (failures, o)).1.first = none ↔ Accepting E o.tuning.maxHandlerRetries
      (xs.filter fun l => pkt.endpoints.contains l.1.endpoint && l.1.packetHandler).length o.calls := by
  induction xs generalizing failures o with
  | nil => exact ⟨fun _ => .done _, fun _ => hnone⟩
  | cons x xs ih =>
    rw [List.foldl_cons, List.filter_cons]
    cases hhandles : pkt.endpoints.contains x.1.endpoint && x.1.packetHandler with
    | false =>
      have hskips : dispatchLocalPacket E locals pkt (failures, o) x = (failures, o) := by
        unfold dispatchLocalPacket
        dsimp only
        rw [hhandles, if_neg Bool.false_ne_true]
      rw [hskips, if_neg Bool.false_ne_true]
      exact ih failures hnone hretries
    | true =>
      rw [if_pos rfl, List.length_cons]
      by_cases hrefuses : ∀ j < o.tuning.maxHandlerRetries, E.callback (o.calls + j) ≠ SEDS_OK
      · -- the handler refuses the packet in every try
        have hrc := tryPacketHandler_refuses x.2 pkt hretries SEDS_OK hrefuses
        have hfailed : (dispatchLocalPacket E locals pkt (failures, o) x).1.first ≠ none := by
          unfold dispatchLocalPacket
          dsimp only
          rw [hhandles, if_pos rfl, if_neg hrc, hnone]
          exact Option.some_ne_none _
        refine ⟨fun h => absurd h (foldl_dispatchLocalPacket_failed pkt xs hfailed), fun haccepting => ?_⟩
        cases haccepting with
        | next k htry _ haccepts _ => exact absurd haccepts (hrefuses k htry)
      · -- it accepts, in the first try that it says so
        have hexists : ∃ k, k < o.tuning.maxHandlerRetries ∧ E.callback (o.calls + k) = SEDS_OK := by
          simpa using hrefuses
        obtain ⟨htry, haccepts⟩ := Nat.find_spec hexists
        have hbefore : ∀ j < Nat.find hexists, E.callback (o.calls + j) ≠ SEDS_OK :=
          fun j hj h => Nat.find_min hexists hj ⟨hj.trans htry, h⟩
        generalize Nat.find hexists = k at htry haccepts hbefore
        obtain ⟨hrc, hcalls⟩ := tryPacketHandler_accepts x.2 pkt htry SEDS_OK hbefore haccepts
        have htuning := (tryPacketHandler_emits (P := fun _ => True) (Q := fun _ => True) (S := default) allowed E x.2 pkt
          o.tuning.maxHandlerRetries SEDS_OK o).tuning
        have hround : dispatchLocalPacket E locals pkt (failures, o) x =
            (failures, (tryPacketHandler E x.2 pkt o.tuning.maxHandlerRetries SEDS_OK o).2) := by
          unfold dispatchLocalPacket
          dsimp only
          rw [hhandles, if_pos rfl, if_pos hrc]
        rw [hround, ih failures hnone (by rw [htuning]; exact hretries), htuning, hcalls]
        refine ⟨fun hrest => .next k htry hbefore haccepts hrest, fun haccepting => ?_⟩
        cases haccepting with
        | next k' htry' hbefore' haccepts' hrest =>
          rcases Nat.lt_trichotomy k k' with hlt | rfl | hgt
          · exact absurd haccepts (hbefore' k hlt)
          · exact hrest
          · exact absurd haccepts' (hbefore k' hgt)

variable (S E device locals) in
/-- **The packet handlers** on the endpoints of the packet are answered for with `SEDS_OK` when they all accept it. -/
theorem dispatchLocalPacketHandlers_ok (pkt : PacketData) {o : Owner} (hretries : o.tuning.maxHandlerRetries ≠ 0) :
    (dispatchLocalPacketHandlers S E device locals pkt o).1 = SEDS_OK ↔ Accepting E o.tuning.maxHandlerRetries
      (locals.filter fun l => pkt.endpoints.contains l.endpoint && l.packetHandler).length o.calls := by
  have hcount : (locals.zipIdx.filter fun l => pkt.endpoints.contains l.1.endpoint && l.1.packetHandler).length =
      (locals.filter fun l => pkt.endpoints.contains l.endpoint && l.packetHandler).length := by
    conv_rhs => rw [← List.zipIdx_map_fst 0 locals, List.filter_map, List.length_map]
    rfl
  have hloop := foldl_dispatchLocalPacket_ok (E := E) locals pkt locals.zipIdx ⟨none, []⟩ rfl hretries
  rw [hcount] at hloop
  rw [← hloop]
  unfold dispatchLocalPacketHandlers
  dsimp only
  generalize locals.zipIdx.foldl (dispatchLocalPacket E locals pkt) (⟨none, []⟩, o) = p
  split
  · rename_i hfirst
    exact ⟨fun _ => hfirst, fun _ => rfl⟩
  · rename_i hfirst
    rw [hfirst]
    split
    · exact ⟨fun h => absurd h (by decide : SEDS_HANDLER_ERROR ≠ SEDS_OK), fun h => absurd h (Option.some_ne_none _)⟩
    · exact ⟨fun h => absurd h (by decide : SEDS_HANDLER_ERROR ≠ SEDS_OK), fun h => absurd h (Option.some_ne_none _)⟩

end

end Owner

/-- The number of tries is never 0. -/
theorem Tuning.tries_of_valid {tuning : Tuning} (hvalid : tuning.valid = true) : tuning.maxHandlerRetries ≠ 0 := by
  intro hnone
  unfold Tuning.valid at hvalid
  rw [hnone] at hvalid
  simp at hvalid

/-- A local handler is called. -/
def Obs.isLocal : Obs → Bool
  | .packetHandler _ _ => true
  | .serializedHandler _ _ => true
  | _ => false

/-- Packets of this type are for the router itself: requests for managed variables, datagrams, discovery and time sync. -/
def keptForItself (S : Schema) (ty : UInt32) : Bool :=
  ty == (S.localTypeId 13).getD 1013 || ty == S.p2pTypeId || isDiscoveryControlType ty || isTimeSyncType ty

theorem Obs.not_local_of_fromPeer {e : Obs} (h : e.fromPeer = true) : e.isLocal = false := by
  cases e with
  | datagram => rfl
  | streamEvent => rfl
  | _ => cases h

namespace Router

/-- From `r` to `r'` every handler is called that is registered on an endpoint of the packet: packet handlers with the packet,
    serialized handlers with its frame. -/
def Invoked (S : Schema) (Z : Codec) (pkt : PacketData) (r r' : Router) : Prop :=
  ∀ l ∈ r.locals.zipIdx, pkt.endpoints.contains l.1.endpoint = true →
    (l.1.packetHandler = true → Happens r.toOwner r'.toOwner (.packetHandler l.2 pkt)) ∧
    (l.1.serializedHandler = true → Happens r.toOwner r'.toOwner (.serializedHandler l.2 (serializePacket S Z pkt)))

/-- The packet handlers on the endpoints of the packet accept it, if they are called next. -/
def HandlersAccept (E : Env) (r : Router) (pkt : PacketData) : Prop :=
  Accepting E r.tuning.maxHandlerRetries (r.locals.filter fun l => pkt.endpoints.contains l.endpoint && l.packetHandler).length r.calls

section

variable {S : Schema} {Z : Codec} {E : Env} {r : Router} {pkt : PacketData}

/-- Where no handler is called, none may be registered. -/
theorem invoked_of_adds {r' : Router} (h : Adds (fun e => e.isLocal = false) r.toOwner r'.toOwner) :
    Invoked S Z pkt r r' ↔ ∀ l ∈ r.locals, pkt.endpoints.contains l.endpoint = true →
      l.serializedHandler = false ∧ l.packetHandler = false := by
  have hnever : ∀ e : Obs, e.isLocal = true → ¬ Happens r.toOwner r'.toOwner e := by
    intro e he hhappens
    rw [h.of_happens hhappens] at he
    cases he
  refine Iff.trans ?_ (forall_zipIdx (p := fun l : LocalEndpoint => pkt.endpoints.contains l.endpoint = true →
    l.serializedHandler = false ∧ l.packetHandler = false))
  constructor
  · intro hinvoked l hl hon
    obtain ⟨hpacket, hframe⟩ := hinvoked l hl hon
    refine ⟨Bool.eq_false_of_not_eq_true fun hhandler => ?_, Bool.eq_false_of_not_eq_true fun hhandler => ?_⟩
    · exact hnever _ rfl (hframe hhandler)
    · exact hnever _ rfl (hpacket hhandler)
  · intro hnone l hl hon
    obtain ⟨hframe, hpacket⟩ := hnone l hl hon
    rw [hframe, hpacket]
    exact ⟨fun h => Bool.noConfusion h, fun h => Bool.noConfusion h⟩

variable (E) in
/-- Where the packet handlers are called and nothing makes a frame, no serialized handler may be registered. -/
theorem invoked_of_packets {r' : Router} (hretries : r.tuning.maxHandlerRetries ≠ 0)
    (hlater : (dispatchLocalPacketHandlers S E r.deviceIdentifier r.locals pkt r.toOwner).2.obs <+: r'.obs)
    (h : Adds (fun e => ∀ i bytes, e ≠ .serializedHandler i bytes) r.toOwner r'.toOwner) :
    Invoked S Z pkt r r' ↔ ∀ l ∈ r.locals, pkt.endpoints.contains l.endpoint = true → l.serializedHandler = false := by
  refine Iff.trans ?_ (forall_zipIdx (p := fun l : LocalEndpoint => pkt.endpoints.contains l.endpoint = true →
    l.serializedHandler = false))
  constructor
  · intro hinvoked l hl hon
    refine Bool.eq_false_of_not_eq_true fun hhandler => ?_
    exact h.of_happens ((hinvoked l hl hon).2 hhandler) _ _ rfl
  · intro hnone l hl hon
    refine ⟨fun hhandler => ?_, fun hhandler => ?_⟩
    · refine (dispatchLocalPacketHandlers_happens S E r.deviceIdentifier r.locals pkt hretries hl ?_).later hlater
      rw [hon, hhandler]
      rfl
    · rw [hnone l hl hon] at hhandler
      cases hhandler

/-- Only what is on record matters. -/
theorem invoked_of_obs {r₁ r' r₁' : Router} (hlocals : r₁.locals = r.locals) (hobs : r₁.obs = r.obs) (hobs' : r₁'.obs = r'.obs) :
    Invoked S Z pkt r₁ r₁' ↔ Invoked S Z pkt r r' := by
  unfold Invoked Happens
  rw [hlocals, hobs, hobs']

/-- What happens before without a call of a handler does not matter. -/
theorem invoked_congr {r₁ r' : Router} (hfirst : Adds (fun e => e.isLocal = false) r.toOwner r₁.toOwner) (hlocals : r₁.locals = r.locals)
    (hrest : r₁.obs <+: r'.obs) : Invoked S Z pkt r r' ↔ Invoked S Z pkt r₁ r' := by
  have hsame : ∀ e : Obs, e.isLocal = true → (Happens r.toOwner r'.toOwner e ↔ Happens r₁.toOwner r'.toOwner e) := by
    intro e he
    refine ⟨fun hhappens => ?_, fun hhappens => Happens.before hfirst.prefix_obs hhappens⟩
    rcases hhappens.split hfirst.prefix_obs hrest with hearly | hlater
    · rw [hfirst.of_happens hearly] at he
      cases he
    · exact hlater
  unfold Invoked
  rw [hlocals]
  constructor
  · intro hinvoked l hl hon
    exact ⟨fun hhandler => (hsame _ rfl).mp ((hinvoked l hl hon).1 hhandler), fun hhandler => (hsame _ rfl).mp ((hinvoked l hl hon).2 hhandler)⟩
  · intro hinvoked l hl hon
    exact ⟨fun hhandler => (hsame _ rfl).mpr ((hinvoked l hl hon).1 hhandler), fun hhandler => (hsame _ rfl).mpr ((hinvoked l hl hon).2 hhandler)⟩

/-! ## Transmission -/

theorem transmitItem_prefix {item : TxItem} {o : Owner} (hlocal : deliverLocal S Z E r item = (true, r.setOwner o)) :
    o.obs <+: (transmitItem S Z E r item).2.obs := by
  unfold transmitItem
  rw [hlocal]
  dsimp only
  obtain ⟨-, hobs⟩ := targets_alike (S := S) (E := E) o item ((r.setOwner o).preferredSource item.pkt)
  have howner : (r.setOwner o).toOwner = o := rfl
  rw [howner]
  generalize o.targets S E item ((r.setOwner o).preferredSource item.pkt) = p at hobs ⊢
  obtain ⟨sides, o₂⟩ := p
  obtain ⟨-, hquiet, -⟩ := trackEndToEnd_alike (S := S) (E := E) ((r.setOwner o).setOwner o₂) item.pkt sides
  have hemits := routerTransmitTo_anything (S := S) (Z := Z) (E := E)
    (trackEndToEnd S E ((r.setOwner o).setOwner o₂) item.pkt sides).deviceIdentifier
    (trackEndToEnd S E ((r.setOwner o).setOwner o₂) item.pkt sides).locals item sides false
    (trackEndToEnd S E ((r.setOwner o).setOwner o₂) item.pkt sides).toOwner
  dsimp only at hobs
  rw [← hobs]
  exact hquiet.prefix_obs.trans hemits.prefix_obs

/-- **An item that is to be delivered** reaches every handler, unless a packet handler refuses it: the serialized handlers come
    after the packet handlers. -/
theorem transmitItem_invoked (item : TxItem) (hdeliver : item.deliverLocal = true) (hretries : r.tuning.maxHandlerRetries ≠ 0) :
    Invoked S Z item.pkt r (transmitItem S Z E r item).2 ↔
      ∀ l ∈ r.locals, item.pkt.endpoints.contains l.endpoint = true → l.serializedHandler = true → HandlersAccept E r item.pkt := by
  have hsplit := dispatchLocalPacketHandlers_adds S E r.deviceIdentifier r.locals
    (Q := fun e => ∀ i bytes, e ≠ .serializedHandler i bytes) (fun _ _ _ _ h => Obs.noConfusion h) item.pkt r.toOwner
  rcases hresult : dispatchLocalPacketHandlers S E r.deviceIdentifier r.locals item.pkt r.toOwner with ⟨rc, o⟩
  rw [hresult] at hsplit
  have hok := dispatchLocalPacketHandlers_ok S E r.deviceIdentifier r.locals item.pkt (o := r.toOwner) hretries
  rw [hresult] at hok
  unfold HandlersAccept
  rw [← hok]
  by_cases hrc : rc = SEDS_OK
  · -- the frame is made and shown, and everything else comes later
    have hlocal : deliverLocal S Z E r item = (true, r.setOwner (dispatchLocalSerializedHandlers E r.locals item.pkt.endpoints
        (serializePacket S Z item.pkt) o)) := by
      unfold deliverLocal
      rw [if_pos hdeliver, hresult]
      dsimp only
      rw [if_neg (not_not_intro hrc)]
    have hrest := transmitItem_prefix hlocal
    have hshown := dispatchLocalSerializedHandlers_adds E r.locals (Q := fun _ => True) item.pkt.endpoints
      (serializePacket S Z item.pkt) (fun _ => trivial) o
    refine ⟨fun _ _ _ _ _ => hrc, fun _ => ?_⟩
    intro l hl hon
    refine ⟨fun hhandler => ?_, fun hhandler => ?_⟩
    · have hcalled := dispatchLocalPacketHandlers_happens S E r.deviceIdentifier r.locals item.pkt hretries hl
        (by rw [hon, hhandler]; rfl)
      rw [hresult] at hcalled
      exact hcalled.later (hshown.prefix_obs.trans hrest)
    · have hcalled := dispatchLocalSerializedHandlers_happens E r.locals item.pkt.endpoints (serializePacket S Z item.pkt) o hl
        (by rw [hon, hhandler]; rfl)
      exact Happens.before hsplit.prefix_obs (hcalled.later hrest)
  · -- the packet handlers were called, and that was it
    have hdone : (transmitItem S Z E r item).2 = r.setOwner o := by
      unfold transmitItem deliverLocal
      rw [if_pos hdeliver, hresult]
      dsimp only
      rw [if_pos hrc]
    rw [hdone]
    refine (invoked_of_packets E hretries ?_ hsplit).trans ?_
    · rw [hresult]
      exact List.prefix_rfl
    · constructor
      · intro hnone l hl hon hhandler
        rw [hnone l hl hon] at hhandler
        cases hhandler
      · intro haccepts l hl hon
        exact Bool.eq_false_of_not_eq_true fun hhandler => hrc (haccepts l hl hon hhandler)

/-! ## Receipt -/

/-- A packet of the router's own reaches no handler. -/
theorem routePacket_adds (hcontrol : isInternalControlType pkt.ty = false) (hkept : keptForItself S pkt.ty = true) (r : Router)
    (srcSide : Option Int32) : Adds (fun e => e.isLocal = false) r.toOwner (routePacket S Z E r pkt srcSide).toOwner := by
  unfold routePacket
  rw [hcontrol, if_neg Bool.false_ne_true]
  split
  · rename_i r' hrequest
    have hdoes : Does (fun _ => True) (fun e => e.isLocal = false) (fun _ => True) (fun _ _ => True) r r' :=
      handleManagedVariableRequest_does S (fun _ _ => trivial) hrequest
    exact hdoes.emits.adds
  · rename_i hnone
    split
    · have hdoes : Does (fun _ => True) (fun e => e.isLocal = false) (fun _ => True) (fun _ _ => True) r (dispatchP2pPacket S E r pkt).2 :=
        dispatchP2pPacket_does S E (fun _ _ _ => trivial) fun e he => Obs.not_local_of_fromPeer (peerEvent_fromPeer he)
      exact hdoes.emits.adds
    · rename_i hp2p
      split
      · exact (handleDiscoveryPacket_emits (P := fun _ => True) S E r.toOwner (fun _ => rfl) _ pkt srcSide).adds
      · rename_i hdiscovery
        split
        · have hdoes : Does (fun _ => True) (fun e => e.isLocal = false) (fun _ => True) (fun _ _ => True) r
              (handleTimesyncPacket S E r pkt srcSide) := handleTimesyncPacket_does S E (fun _ _ _ => trivial) r pkt
          exact hdoes.emits.adds
        · rename_i htimesync
          -- it is none of them
          exfalso
          unfold handleManagedVariableRequest at hnone
          unfold keptForItself at hkept
          rw [beq_eq_false_iff_ne.mpr hp2p, Bool.eq_false_of_not_eq_true hdiscovery, Bool.eq_false_of_not_eq_true htimesync, Bool.or_false,
            Bool.or_false, Bool.or_false, beq_iff_eq] at hkept
          rw [if_neg (not_not_intro hkept)] at hnone
          split at hnone
          · cases hnone
          · dsimp only at hnone
            split at hnone
            · cases hnone
            · cases hnone

theorem rememberManagedVariablePacket_adds (r : Router) (pkt : PacketData) :
    Adds (fun e => e.isLocal = false) r.toOwner (r.rememberManagedVariablePacket S Z E pkt).toOwner := by
  unfold rememberManagedVariablePacket
  dsimp only
  split
  · split
    · exact Adds.trans (.of_obs rfl) (.call E _ rfl)
    · exact .of_obs rfl
  · exact .refl _

/-- Any other packet is delivered. -/
theorem routePacket_delivers (hcontrol : isInternalControlType pkt.ty = false) (hkept : keptForItself S pkt.ty = false)
    {srcSide : Option Int32} : routePacket S Z E r pkt srcSide = deliver S Z E r pkt srcSide := by
  unfold keptForItself at hkept
  simp only [Bool.or_eq_false_iff, beq_eq_false_iff_ne] at hkept
  obtain ⟨⟨⟨hrequest, hp2p⟩, hdiscovery⟩, htimesync⟩ := hkept
  unfold routePacket handleManagedVariableRequest
  rw [hcontrol, if_neg Bool.false_ne_true, if_pos hrequest]
  dsimp only
  rw [if_neg hp2p, hdiscovery, if_neg Bool.false_ne_true, htimesync, if_neg Bool.false_ne_true]

/-- After the packet handlers no handler is called. -/
theorem deliver_adds (r : Router) (pkt : PacketData) (srcSide : Option Int32) :
    Adds (fun e => e.isLocal = false) (dispatchLocalPacketHandlers S E r.deviceIdentifier r.locals pkt r.toOwner).2
      (deliver S Z E r pkt srcSide).toOwner := by
  unfold deliver
  have hremembered := rememberManagedVariablePacket_adds (S := S) (Z := Z) (E := E)
    (r.setOwner (dispatchLocalPacketHandlers S E r.deviceIdentifier r.locals pkt r.toOwner).2) pkt
  dsimp only
  generalize ((r.setOwner (dispatchLocalPacketHandlers S E r.deviceIdentifier r.locals pkt
    r.toOwner).2).rememberManagedVariablePacket S Z E pkt) = r₁ at hremembered ⊢
  have hacknowledged : Emits (fun _ => True) (fun e => e.isLocal = false) r₁.toOwner (queueEndToEndAck S E r₁.toOwner pkt srcSide) :=
    queueEndToEndAck_emits (P := fun _ => True) (Q := fun e => e.isLocal = false) S E (fun _ _ _ => trivial)
      (fun o => .observe o rfl) (fun o => .observe o rfl) r₁.toOwner
  have hmark : Adds (fun e => e.isLocal = false) (dispatchLocalPacketHandlers S E r.deviceIdentifier r.locals pkt r.toOwner).2
      (if (srcSide.isSome && r.hasLocalHandler pkt && S.isReliableType pkt.ty) = true then
        r₁.setOwner (queueEndToEndAck S E r₁.toOwner pkt srcSide) else r₁).toOwner := by
    split
    · exact hremembered.trans hacknowledged.adds
    · exact hremembered
  generalize (if (srcSide.isSome && r.hasLocalHandler pkt && S.isReliableType pkt.ty) = true then
      r₁.setOwner (queueEndToEndAck S E r₁.toOwner pkt srcSide) else r₁) = r₂ at hmark ⊢
  have hforwarded : Emits (fun _ => True) (fun e => e.isLocal = false) r₂.toOwner (r₂.toOwner.enqueueTx ⟨pkt, srcSide, none, false⟩) :=
    .enqueueTxAt false _ trivial
  split
  · exact hmark.trans hforwarded.adds
  · exact hmark

/-- What a packet that was not seen before needs to reach every handler: the serialized handlers never hear of it, and the packet
    handlers do not hear of what the router keeps for itself. -/
def ReceivedByAll (S : Schema) (r : Router) (pkt : PacketData) : Prop :=
  ∀ l ∈ r.locals, pkt.endpoints.contains l.endpoint = true →
    l.serializedHandler = false ∧ (l.packetHandler = true → keptForItself S pkt.ty = false)

theorem routePacket_invoked (hcontrol : isInternalControlType pkt.ty = false) (hretries : r.tuning.maxHandlerRetries ≠ 0)
    (srcSide : Option Int32) : Invoked S Z pkt r (routePacket S Z E r pkt srcSide) ↔ r.ReceivedByAll S pkt := by
  unfold ReceivedByAll
  cases hkept : keptForItself S pkt.ty with
  | true =>
    rw [invoked_of_adds (routePacket_adds hcontrol hkept r srcSide)]
    simp
  | false =>
    have hafter := deliver_adds (S := S) (Z := Z) (E := E) r pkt srcSide
    have hpackets := dispatchLocalPacketHandlers_adds S E r.deviceIdentifier r.locals
      (Q := fun e => ∀ i bytes, e ≠ .serializedHandler i bytes) (fun _ _ _ _ h => Obs.noConfusion h) pkt r.toOwner
    have hnever : ∀ e : Obs, e.isLocal = false → ∀ i bytes, e ≠ .serializedHandler i bytes := by
      rintro e he i bytes rfl
      cases he
    rw [routePacket_delivers hcontrol hkept, invoked_of_packets E hretries hafter.prefix_obs (hpackets.trans (hafter.mono hnever))]
    simp

theorem receives_anything (r : Router) (pkt : PacketData) (srcSide : Option Int32) :
    Receives (fun _ => True) (fun _ => True) (fun _ => True) S E r pkt srcSide :=
  ⟨fun o => .observe o trivial, fun o => .observe o trivial, fun _ _ _ => trivial, trivial, fun _ _ _ => trivial, fun _ _ => trivial,
    fun _ _ _ => trivial, fun _ _ _ => trivial, fun _ _ _ => trivial, trivial, fun _ => trivial⟩

theorem prefix_routePacket (r : Router) (pkt : PacketData) (srcSide : Option Int32) :
    r.obs <+: (routePacket S Z E r pkt srcSide).obs := by
  have hdoes : Does (fun _ => True) (fun _ => True) (fun _ => True) (fun _ _ => True) r (routePacket S Z E r pkt srcSide) :=
    routePacket_does S allowed Z E (receives_anything r pkt srcSide)
  exact hdoes.emits.prefix_obs

theorem prefix_routerReceiveImpl (r : Router) (pkt : PacketData) (srcSide : Option Int32) :
    r.obs <+: (routerReceiveImpl S Z E r pkt srcSide).obs := by
  have hdoes : Does (fun _ => True) (fun _ => True) (fun _ => True) (fun _ _ => True) r (routerReceiveImpl S Z E r pkt srcSide) :=
    routerReceiveImpl_does S allowed Z E ((receives_anything r pkt srcSide).admits S E trivial)
  exact hdoes.emits.prefix_obs

/-- A packet that was not seen before is noted and goes its way. -/
theorem routerReceiveImpl_routes (srcSide : Option Int32) (hunseen : packetId S pkt ∉ r.recentSet) :
    ∃ o, Emits (fun _ => True) (fun e => e.isLocal = false) r.toOwner o ∧
      routerReceiveImpl S Z E r pkt srcSide = routePacket S Z E (r.setOwner o) pkt srcSide := by
  have hfirst : (r.toOwner.packetId S pkt).1 ∉ (r.toOwner.packetId S pkt).2.recentSet := hunseen
  refine ⟨((r.toOwner.packetId S pkt).2.pushRecent (packetId S pkt)).noteReturnRoutes S pkt srcSide (packetId S pkt), ?_, ?_⟩
  · exact (Emits.observe (Q := fun e => e.isLocal = false) r.toOwner rfl).trans
      ((pushRecent_emits (Q := fun e => e.isLocal = false) _ rfl).trans
        (noteReturnRoutes_emits (Q := fun e => e.isLocal = false) S _ (fun o => .observe o rfl) srcSide (packetId S pkt)))
  · unfold routerReceiveImpl
    dsimp only
    rw [if_neg hfirst]
    rfl

/-- **A packet that was not seen before** reaches every handler, or is kept from some. -/
theorem routerReceiveImpl_invoked (hcontrol : isInternalControlType pkt.ty = false) (hretries : r.tuning.maxHandlerRetries ≠ 0)
    (srcSide : Option Int32) (hunseen : packetId S pkt ∉ r.recentSet) :
    Invoked S Z pkt r (routerReceiveImpl S Z E r pkt srcSide) ↔ r.ReceivedByAll S pkt := by
  obtain ⟨o, hnoted, hreceived⟩ := routerReceiveImpl_routes (S := S) (Z := Z) (E := E) srcSide hunseen
  have hrouted := routePacket_invoked (S := S) (Z := Z) (E := E) (r := r.setOwner o) hcontrol
    (fun hnone => hretries (by rw [← hnone, ← hnoted.tuning]; rfl)) srcSide
  have hfrom : Invoked S Z pkt r (routePacket S Z E (r.setOwner o) pkt srcSide) ↔
      Invoked S Z pkt (r.setOwner o) (routePacket S Z E (r.setOwner o) pkt srcSide) :=
    invoked_congr hnoted.adds rfl (prefix_routePacket (r.setOwner o) pkt srcSide)
  rw [hreceived]
  exact hfrom.trans hrouted

/-- A packet that is handed to `router_receive_impl`. -/
theorem receivePacket_invoked (item : RxItem) (hcontrol : isInternalControlType item.pkt.ty = false)
    (hretries : r.tuning.maxHandlerRetries ≠ 0) (hunseen : packetId S item.pkt ∉ r.recentSet) :
    Invoked S Z item.pkt r (receivePacket S Z E r item) ↔ r.ReceivedByAll S item.pkt := by
  have hnoted : Adds (fun e => e.isLocal = false) r.toOwner (r.toOwner.observe (.receive item)) :=
    (Emits.observe (P := fun _ => True) (Q := fun e => e.isLocal = false) r.toOwner rfl).adds
  have hreceived := routerReceiveImpl_invoked (S := S) (Z := Z) (E := E) (r := r.setOwner (r.toOwner.observe (.receive item)))
    hcontrol hretries item.srcSide hunseen
  have hfrom : Invoked S Z item.pkt r (receivePacket S Z E r item) ↔
      Invoked S Z item.pkt (r.setOwner (r.toOwner.observe (.receive item))) (receivePacket S Z E r item) :=
    invoked_congr hnoted rfl (prefix_routerReceiveImpl (r.setOwner (r.toOwner.observe (.receive item))) item.pkt item.srcSide)
  exact hfrom.trans hreceived

/-! ## The ways in -/

/-- The calls that are given a packet. -/
inductive Entry where
  | transmitMessage
  | transmitMessageQueue
  | receive
  | receiveFromSide (sideId : UInt32)

def enter (S : Schema) (Z : Codec) (E : Env) (r : Router) (view : SedsPacketView) : Entry → SedsResult × Router
  | .transmitMessage => transmitMessage S E r view
  | .transmitMessageQueue => transmitMessageQueue S r view
  | .receive => receive S Z E r view
  | .receiveFromSide sideId => receiveFromSide S Z E r sideId view

/-- How a packet gets to the handlers: at once, with `transmit_item`, or with `router_receive_impl`. -/
inductive Way where
  | atOnce
  | transmitted
  | received

/-- The packet of this call of `r` gets to the handlers between `r₀` and `r₁`. A queued packet does when it is taken from its queue,
    whatever happened until then. -/
inductive Delivers (S : Schema) (Z : Codec) (E : Env) (r : Router) (view : SedsPacketView) (pkt : PacketData) :
    Entry → Way → Router → Router → Prop
  | atOnce (hlocal : r.allEndpointsLocal pkt = true) :
    Delivers S Z E r view pkt .transmitMessage .atOnce r (enter S Z E r view .transmitMessage).2
  | transmitted {entry : Entry} (hsends : entry = .transmitMessage ∨ entry = .transmitMessageQueue)
      (hremote : r.allEndpointsLocal pkt = false) (haccepted : (enter S Z E r view entry).1 = SEDS_OK) (acts : List Act)
      {queue : Bounded TxItem} (htaken : (runFrom (perform S Z E) (enter S Z E r view entry).2 acts).txQueue.pop TxItem.byteCost =
        some (⟨pkt, none, none, true⟩, queue)) :
    Delivers S Z E r view pkt entry .transmitted (runFrom (perform S Z E) (enter S Z E r view entry).2 acts)
      (perform S Z E (runFrom (perform S Z E) (enter S Z E r view entry).2 acts) .transmitNext)
  | queued (hlocal : r.allEndpointsLocal pkt = true) (haccepted : (enter S Z E r view .transmitMessageQueue).1 = SEDS_OK)
      (acts : List Act) {queue : Bounded RxItem}
      (htaken : (runFrom (perform S Z E) (enter S Z E r view .transmitMessageQueue).2 acts).rxQueue.pop RxItem.byteCost =
        some (⟨pkt, none, [], []⟩, queue))
      (hunseen : packetId S pkt ∉ (runFrom (perform S Z E) (enter S Z E r view .transmitMessageQueue).2 acts).recentSet) :
    Delivers S Z E r view pkt .transmitMessageQueue .received
      (runFrom (perform S Z E) (enter S Z E r view .transmitMessageQueue).2 acts)
      (perform S Z E (runFrom (perform S Z E) (enter S Z E r view .transmitMessageQueue).2 acts) .receiveNext)
  | received {entry : Entry} (hreceives : entry = .receive ∨ ∃ sideId, entry = .receiveFromSide sideId)
      (haccepted : (enter S Z E r view entry).1 = SEDS_OK) (hunseen : packetId S pkt ∉ r.recentSet) :
    Delivers S Z E r view pkt entry .received r (enter S Z E r view entry).2

/-- What a packet needs to get to every handler on this way. At once, only the packet handlers are called. A packet that is sent
    gets to the serialized handlers after the packet handlers accepted it. -/
def Way.Complete (S : Schema) (E : Env) (r : Router) (pkt : PacketData) : Way → Prop
  | .atOnce => ∀ l ∈ r.locals, pkt.endpoints.contains l.endpoint = true → l.serializedHandler = false
  | .transmitted => ∀ l ∈ r.locals, pkt.endpoints.contains l.endpoint = true → l.serializedHandler = true → r.HandlersAccept E pkt
  | .received => r.ReceivedByAll S pkt

theorem perform_tuned (r : Router) (act : Act) (hvalid : r.tuning.valid = true) : (perform S Z E r act).tuning.valid = true := by
  by_cases hconf : ∃ tuning, act = .configure (.setRuntimeTuningConfig tuning)
  · obtain ⟨tuning, rfl⟩ := hconf
    unfold perform Owner.configure
    dsimp only
    split
    · assumption
    · exact hvalid
  · have hkeeps : act.KeepsTuning r.tuning := by
      cases act with
      | configure setting =>
        cases setting with
        | setRuntimeTuningConfig tuning => exact absurd ⟨tuning, rfl⟩ hconf
        | _ => trivial
      | _ => trivial
    rw [(perform_steady (S := S) (Z := Z) (E := E) r hkeeps).tuning]
    exact hvalid

theorem runFrom_tuned (r : Router) (acts : List Act) (hvalid : r.tuning.valid = true) :
    (runFrom (perform S Z E) r acts).tuning.valid = true := by
  induction acts generalizing r with
  | nil => exact hvalid
  | cons act acts ih => exact ih _ (perform_tuned r act hvalid)

theorem enter_tuned {r : Router} (view : SedsPacketView) {entry : Entry} (hsends : entry = .transmitMessage ∨ entry = .transmitMessageQueue)
    (hvalid : r.tuning.valid = true) : (enter S Z E r view entry).2.tuning.valid = true := by
  rcases hsends with rfl | rfl
  · exact perform_tuned (S := S) (Z := Z) (E := E) r (.transmitMessage view) hvalid
  · exact perform_tuned (S := S) (Z := Z) (E := E) r (.transmitMessageQueue view) hvalid

end

end Router

/-- **Local delivery**, for every router, every packet that is no control traffic, and every way in: every handler on the endpoints
    of the packet is called exactly when the handlers are such that this way reaches them. -/
theorem localDelivery_iff (S : Schema) (Z : Codec) (E : Env) (r : Router) (hvalid : r.tuning.valid = true) (view : SedsPacketView)
    (pkt : PacketData) (hview : packetFromView S view = some pkt) (hcontrol : isInternalControlType pkt.ty = false)
    (entry : Router.Entry) (way : Router.Way) (r₀ r₁ : Router) (hdelivers : Router.Delivers S Z E r view pkt entry way r₀ r₁) :
    r₀.Invoked S Z pkt r₁ ↔ way.Complete S E r₀ pkt := by
  cases hdelivers with
  | atOnce hlocal =>
    have hresult : (Router.enter S Z E r view .transmitMessage).2 =
        r.setOwner (dispatchLocalPacketHandlers S E r.deviceIdentifier r.locals pkt r.toOwner).2 := by
      unfold Router.enter Router.transmitMessage
      rw [hview]
      dsimp only
      rw [if_pos hlocal]
    rw [hresult]
    exact Router.invoked_of_packets E (Tuning.tries_of_valid hvalid) List.prefix_rfl
      (dispatchLocalPacketHandlers_adds S E r.deviceIdentifier r.locals (fun _ _ _ _ h => Obs.noConfusion h) pkt r.toOwner)
  | transmitted hsends hremote haccepted acts htaken =>
    have hvalid' := Router.runFrom_tuned (S := S) (Z := Z) (E := E) _ acts (Router.enter_tuned (S := S) (Z := Z) (E := E) view hsends hvalid)
    generalize runFrom (Router.perform S Z E) (Router.enter S Z E r view entry).2 acts = r₀ at htaken hvalid' ⊢
    rename_i queue
    have hsent := Router.transmitItem_invoked (S := S) (Z := Z) (E := E) (r := r₀.setOwner { r₀.toOwner with txQueue := queue })
      ⟨pkt, none, none, true⟩ rfl (Tuning.tries_of_valid hvalid')
    refine (Router.invoked_of_obs rfl rfl ?_).trans hsent
    show (r₀.transmitNext S Z E).2.obs = _
    unfold Router.transmitNext
    rw [htaken]
    dsimp only
    split
    · exact enqueueTxAt_obs true _ _
    · rfl
  | queued hlocal haccepted acts htaken hunseen =>
    have hvalid' := Router.runFrom_tuned (S := S) (Z := Z) (E := E) _ acts
      (Router.enter_tuned (S := S) (Z := Z) (E := E) view (.inr rfl) hvalid)
    generalize runFrom (Router.perform S Z E) (Router.enter S Z E r view .transmitMessageQueue).2 acts = r₀ at htaken hvalid' hunseen ⊢
    rename_i queue
    have hreceived := Router.receivePacket_invoked (S := S) (Z := Z) (E := E) (r := r₀.setOwner { r₀.toOwner with rxQueue := queue })
      ⟨pkt, none, [], []⟩ hcontrol (Tuning.tries_of_valid hvalid') hunseen
    refine (Router.invoked_of_obs rfl rfl ?_).trans hreceived
    show (r₀.receiveNext S Z E).obs = _
    unfold Router.receiveNext
    rw [htaken]
    rfl
  | received hreceives haccepted hunseen =>
    rcases hreceives with rfl | ⟨sideId, rfl⟩
    · have hresult : (Router.enter S Z E r view .receive).2 = r.receivePacket S Z E ⟨pkt, none, [], []⟩ := by
        unfold Router.enter Router.receive
        rw [hview]
      rw [hresult]
      exact Router.receivePacket_invoked ⟨pkt, none, [], []⟩ hcontrol (Tuning.tries_of_valid hvalid) hunseen
    · have hresult : (Router.enter S Z E r view (.receiveFromSide sideId)).2 =
          r.receivePacket S Z E ⟨pkt, some sideId.toInt32, [], []⟩ := by
        unfold Router.enter Router.receiveFromSide at haccepted ⊢
        rw [hview] at haccepted ⊢
        dsimp only at haccepted ⊢
        split at haccepted
        · exact absurd haccepted (by decide : SEDS_INVALID_LINK_ID ≠ SEDS_OK)
        · rename_i hopen
          rw [if_neg hopen]
      rw [hresult]
      exact Router.receivePacket_invoked ⟨pkt, some sideId.toInt32, [], []⟩ hcontrol (Tuning.tries_of_valid hvalid) hunseen

/-- A router with a packet handler for the radio gets a position report. -/
theorem localDelivery_iff_report :
    let r : Router := .new .Sink (ascii "R") [.serialized [] true] [⟨101, true, false⟩]
    r.Invoked defaultTestSchema (.absent 16) gpsPacket (r.receiveFromSide defaultTestSchema (.absent 16) .calm 0 gpsView).2 := by
  intro r
  have hrun : packetFromView defaultTestSchema gpsView = some gpsPacket ∧
      (r.receiveFromSide defaultTestSchema (.absent 16) .calm 0 gpsView).1 = SEDS_OK ∧
      packetId defaultTestSchema gpsPacket ∉ r.recentSet ∧ keptForItself defaultTestSchema gpsPacket.ty = false := by
    rw [defaultTestSchema_eq]
    decide +kernel
  obtain ⟨hview, haccepted, hunseen, hkept⟩ := hrun
  have hdelivers : Router.Delivers defaultTestSchema (.absent 16) .calm r gpsView gpsPacket (.receiveFromSide 0) .received r
      (r.receiveFromSide defaultTestSchema (.absent 16) .calm 0 gpsView).2 := .received (.inr ⟨0, rfl⟩) haccepted hunseen
  refine (localDelivery_iff defaultTestSchema (.absent 16) .calm r rfl gpsView gpsPacket hview rfl (.receiveFromSide 0) .received r _
    hdelivers).mpr ?_
  intro l hl _
  rw [List.mem_singleton.mp hl]
  exact ⟨rfl, fun _ => hkept⟩

/-- The endpoints of a position report are both served by serialized handlers. A call with the report says that all is well, and
    nothing happens. A report from a side is acknowledged end to end, and no handler is called. -/
theorem localDelivery_silent :
    let r : Router := .new .Sink (ascii "R") [.serialized [] true] [⟨100, false, true⟩, ⟨101, false, true⟩]
    let sent := r.transmitMessage defaultTestSchema .calm gpsView
    let heard := r.receiveFromSide defaultTestSchema (.absent 16) .calm 0 gpsView
    r.allEndpointsLocal gpsPacket = true ∧ packetId defaultTestSchema gpsPacket ∉ r.recentSet ∧
      sent.1 = SEDS_OK ∧ sent.2.obs = [] ∧ sent.2.txQueue.items = [] ∧ ¬ r.Invoked defaultTestSchema (.absent 16) gpsPacket sent.2 ∧
      heard.1 = SEDS_OK ∧ heard.2.txQueue.items.map (fun item => (item.pkt.ty, item.pkt.payload, item.dstSide)) =
        [(SEDS_DT_RELIABLE_ACK, appendLe64 (packetId defaultTestSchema gpsPacket), some 0)] ∧
      ¬ r.Invoked defaultTestSchema (.absent 16) gpsPacket heard.2 := by
  intro r sent heard
  have hrun : r.allEndpointsLocal gpsPacket = true ∧ packetId defaultTestSchema gpsPacket ∉ r.recentSet ∧
      sent.1 = SEDS_OK ∧ sent.2.obs = [] ∧ sent.2.txQueue.items = [] ∧
      heard.1 = SEDS_OK ∧ heard.2.txQueue.items.map (fun item => (item.pkt.ty, item.pkt.payload, item.dstSide)) =
        [(SEDS_DT_RELIABLE_ACK, appendLe64 (packetId defaultTestSchema gpsPacket), some 0)] ∧
      ∀ e ∈ heard.2.obs, e.isLocal = false := by
    unfold sent heard
    rw [defaultTestSchema_eq]
    decide +kernel
  obtain ⟨hlocal, hunseen, hrc, hsilent, hnothing, hrc', hacknowledged, hunheard⟩ := hrun
  -- the handler of the card should have been called
  have hnever : ∀ r' : Router, (∀ e ∈ r'.obs, e.isLocal = false) → ¬ r.Invoked defaultTestSchema (.absent 16) gpsPacket r' := by
    intro r' hall hinvoked
    obtain ⟨l, hl, he⟩ := (hinvoked (⟨100, false, true⟩, 0) (List.mem_cons_self ..) rfl).2 rfl
    have hcalled := hall _ (hl ▸ List.mem_append_right _ he)
    cases hcalled
  refine ⟨hlocal, hunseen, hrc, hsilent, hnothing, hnever _ ?_, hrc', hacknowledged, hnever _ hunheard⟩
  rw [hsilent]
  exact fun e he => absurd he List.not_mem_nil

end SedsNet
