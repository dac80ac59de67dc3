import SedsNet.Router.State

/-!
# What the packet handlers are called with

`dispatch_local_packet_handlers` goes through the local endpoints twice: it tries each packet handler the packet is for, and
then tells the others of those that failed. A handler may answer differently each time it is called, so all that is said
here is said of a list of answers, one list for each handler.
-/

set_option autoImplicit false

namespace SedsNet

/-- A packet handler on one of these endpoints. -/
def handlesPacket (endpoints : List UInt32) (l : LocalEndpoint × Nat) : Bool :=
  endpoints.contains l.1.endpoint && l.1.packetHandler

/-- The packet handlers on these endpoints, with their places in `locals`. -/
def packetHandlersOf (locals : List LocalEndpoint) (endpoints : List UInt32) : List (LocalEndpoint × Nat) :=
  locals.zipIdx.filter (handlesPacket endpoints)

/-- What a handler answers when it is called until it first answers `SEDS_OK`, and at most `tries` times. -/
structure Tried (tries : Nat) (answers : List SedsResult) : Prop where
  most : answers.length ≤ tries
  refused : ∀ rc ∈ answers.dropLast, rc ≠ SEDS_OK
  exhausted : answers.length = tries ∨ answers.getLast? = some SEDS_OK

/-- It has failed all its attempts. -/
def Failed (answers : List SedsResult) : Prop := answers ≠ [] ∧ SEDS_OK ∉ answers

instance (answers : List SedsResult) : Decidable (Failed answers) := inferInstanceAs (Decidable (_ ∧ _))

/-- The packet handlers whose endpoint is another than that of some handler that failed. -/
def toldOf (locals : List LocalEndpoint) (tried : List ((LocalEndpoint × Nat) × List SedsResult)) : List (LocalEndpoint × Nat) :=
  locals.zipIdx.filter fun l => l.1.packetHandler && decide (∃ t ∈ tried, Failed t.2 ∧ l.1.endpoint ≠ t.1.1.endpoint)

/-- The calls to the handlers that were tried, in order. -/
def callsOf (pkt : PacketData) (tried : List ((LocalEndpoint × Nat) × List SedsResult)) : List Obs :=
  tried.flatMap fun t => List.replicate t.2.length (.packetHandler t.1.2 pkt)

/-- The next `n` answers there are. -/
def Env.answers (E : Env) (calls n : Nat) : List SedsResult := (List.range' calls n).map E.callback

theorem Env.answers_add (E : Env) (calls m n : Nat) : E.answers calls (m + n) = E.answers calls m ++ E.answers (calls + m) n := by
  unfold answers
  rw [← List.map_append, List.range'_append_1]

/-- **The dispatch of a packet**, as it can be seen: what the handlers answered, in the order of the list. -/
structure Dispatched (E : Env) (locals : List LocalEndpoint) (pkt : PacketData) (o : Owner) (answers : List (List SedsResult))
    (p : SedsResult × Owner) : Prop where
  each : answers.length = (packetHandlersOf locals pkt.endpoints).length
  tried : ∀ a ∈ answers, Tried o.tuning.maxHandlerRetries a
  given : answers.flatten = E.answers o.calls answers.flatten.length
  code : p.1 = if ∃ a ∈ answers, Failed a then SEDS_HANDLER_ERROR else SEDS_OK
  record : ∃ report : PacketData, report.ty = SEDS_DT_TELEMETRY_ERROR ∧
    p.2.obs = o.obs ++ callsOf pkt ((packetHandlersOf locals pkt.endpoints).zip answers) ++
      if (∃ a ∈ answers, Failed a) ∧ pkt.ty ≠ SEDS_DT_TELEMETRY_ERROR then
        (toldOf locals ((packetHandlersOf locals pkt.endpoints).zip answers)).map fun l => .packetHandler l.2 report
      else []

namespace Owner

variable {S : Schema} {E : Env} {device : Bytes} {locals : List LocalEndpoint} {pkt : PacketData}

/-! ## One handler -/

/-- A handler is tried. -/
structure HandlerTried (E : Env) (i : Nat) (pkt : PacketData) (tries : Nat) (rc : SedsResult) (o : Owner) (answers : List SedsResult)
    (p : SedsResult × Owner) : Prop where
  tried : Tried tries answers
  given : answers = E.answers o.calls answers.length
  code : p.1 = answers.getLastD rc
  calls : p.2.calls = o.calls + answers.length
  obs : p.2.obs = o.obs ++ List.replicate answers.length (.packetHandler i pkt)
  tuning : p.2.tuning = o.tuning

theorem tryPacketHandler_tried (i : Nat) (pkt : PacketData) (tries : Nat) (rc : SedsResult) (o : Owner) :
    ∃ answers, HandlerTried E i pkt tries rc o answers (tryPacketHandler E i pkt tries rc o) := by
  induction tries generalizing rc o with
  | zero => exact ⟨[], ⟨Nat.le_refl 0, fun rc h => absurd h List.not_mem_nil, .inl rfl⟩, rfl, rfl, rfl, (List.append_nil _).symm, rfl⟩
  | succ tries ih =>
    have hcallback : (o.call E (.packetHandler i pkt)).1 = E.callback o.calls := rfl
    unfold tryPacketHandler
    dsimp only
    by_cases hok : E.callback o.calls = SEDS_OK
    · -- the first answer will do
      rw [hcallback, if_pos hok]
      refine ⟨[E.callback o.calls], ⟨Nat.succ_le_succ (Nat.zero_le tries), fun rc h => absurd h List.not_mem_nil, .inr ?_⟩, rfl, rfl,
        rfl, rfl, rfl⟩
      rw [hok]
      rfl
    · rw [hcallback, if_neg hok]
      obtain ⟨answers, htried, hgiven, hcode, hcalls, hobs, htuning⟩ := ih (E.callback o.calls) (o.call E (.packetHandler i pkt)).2
      have hnext : (o.call E (.packetHandler i pkt)).2.calls = o.calls + 1 := rfl
      refine ⟨E.callback o.calls :: answers, ⟨Nat.succ_le_succ htried.most, ?_, ?_⟩, ?_, ?_, ?_, ?_, htuning⟩
      · intro rc hrc
        cases answers with
        | nil => cases hrc
        | cons a rest =>
          rcases List.mem_cons.mp hrc with rfl | hrest
          · exact hok
          · exact htried.refused rc hrest
      · rcases htried.exhausted with hall | hlast
        · exact .inl (congrArg (· + 1) hall)
        · right
          rw [List.getLast?_cons, hlast]
          rfl
      · rw [List.length_cons, Nat.add_comm, Env.answers_add, ← hnext, ← hgiven]
        rfl
      · rw [hcode, List.getLastD_cons]
      · rw [hcalls, hnext, List.length_cons, Nat.add_assoc, Nat.add_comm 1]
      · rw [hobs, List.length_cons, List.replicate_succ]
        exact List.append_assoc _ _ _

/-- The code of the tries says whether the handler failed. -/
theorem HandlerTried.ok_iff {i tries : Nat} {o : Owner} {answers : List SedsResult} {p : SedsResult × Owner}
    (h : HandlerTried E i pkt tries SEDS_OK o answers p) : p.1 = SEDS_OK ↔ ¬ Failed answers := by
  rw [h.code]
  unfold Failed
  rcases List.eq_nil_or_concat' answers with rfl | ⟨before, last, rfl⟩
  · exact ⟨fun _ hfailed => hfailed.1 rfl, fun _ => rfl⟩
  · rw [List.getLastD_concat]
    constructor
    · rintro rfl ⟨-, hnone⟩
      exact hnone (List.mem_append_right before List.mem_cons_self)
    · intro hnot
      by_contra hlast
      refine hnot ⟨List.append_ne_nil_of_right_ne_nil before (List.cons_ne_nil last []), fun hmem => ?_⟩
      rcases List.mem_append.mp hmem with hbefore | hat
      · exact h.tried.refused SEDS_OK (by rwa [List.dropLast_concat]) rfl
      · exact hlast (List.mem_singleton.mp hat).symm

/-! ## The loop -/

theorem mem_otherEndpoints (acc : List UInt32) (endpoint : UInt32) {ep : UInt32} :
    ep ∈ otherEndpoints locals acc endpoint ↔
      ep ∈ acc ∨ ∃ l ∈ locals, l.packetHandler = true ∧ l.endpoint = ep ∧ ep ≠ endpoint := by
  unfold otherEndpoints
  generalize locals = rest
  induction rest generalizing acc with
  | nil =>
    rw [List.foldl_nil]
    exact ⟨.inl, fun h => h.resolve_right fun ⟨l, hl, _⟩ => absurd hl List.not_mem_nil⟩
  | cons l rest ih =>
    rw [List.foldl_cons, ih]
    simp only [List.exists_mem_cons_iff]
    split
    · rename_i hskip
      constructor
      · rintro (hacc | hrest)
        · exact .inl hacc
        · exact .inr (.inr hrest)
      · rintro (hacc | ⟨hhandler, rfl, hother⟩ | hrest)
        · exact .inl hacc
        · rcases hskip with hsame | hnone | hin
          · exact absurd hsame hother
          · rw [hhandler] at hnone
            cases hnone
          · exact .inl (List.contains_iff_mem.mp hin)
        · exact .inr hrest
    · rename_i hnew
      obtain ⟨hother, hhandler, -⟩ := not_or.mp hnew |>.imp_right not_or.mp
      rw [List.mem_append, List.mem_singleton]
      constructor
      · rintro ((hacc | rfl) | hrest)
        · exact .inl hacc
        · exact .inr (.inl ⟨Bool.eq_true_of_not_eq_false hhandler, rfl, hother⟩)
        · exact .inr (.inr hrest)
      · rintro (hacc | ⟨-, rfl, -⟩ | hrest)
        · exact .inl (.inl hacc)
        · exact .inl (.inr rfl)
        · exact .inr hrest

/-- What the first loop has come to after some of the list. -/
structure LoopTried (E : Env) (locals : List LocalEndpoint) (pkt : PacketData) (handlers : List (LocalEndpoint × Nat))
    (p : Failures × Owner) (answers : List (List SedsResult)) (q : Failures × Owner) : Prop where
  each : answers.length = handlers.length
  tried : ∀ a ∈ answers, Tried p.2.tuning.maxHandlerRetries a
  given : answers.flatten = E.answers p.2.calls answers.flatten.length
  calls : q.2.calls = p.2.calls + answers.flatten.length
  obs : q.2.obs = p.2.obs ++ callsOf pkt (handlers.zip answers)
  tuning : q.2.tuning = p.2.tuning
  failed : q.1.first ≠ none ↔ p.1.first ≠ none ∨ ∃ a ∈ answers, Failed a
  others : ∀ ep, ep ∈ q.1.endpoints ↔ ep ∈ p.1.endpoints ∨ ∃ t ∈ handlers.zip answers, Failed t.2 ∧
    ∃ l ∈ locals, l.packetHandler = true ∧ l.endpoint = ep ∧ ep ≠ t.1.1.endpoint

/-- A round of the loop that tries a handler. -/
theorem dispatchLocalPacket_tried {l : LocalEndpoint × Nat} (hhandles : handlesPacket pkt.endpoints l = true)
    (p : Failures × Owner) :
    ∃ answers, LoopTried E locals pkt [l] p [answers] (dispatchLocalPacket E locals pkt p l) := by
  obtain ⟨failures, o⟩ := p
  obtain ⟨answers, htried⟩ := tryPacketHandler_tried (E := E) l.2 pkt o.tuning.maxHandlerRetries SEDS_OK o
  have hok := htried.ok_iff
  obtain ⟨htries, hgiven, -, hcalls, hobs, htuning⟩ := htried
  have hone : ∀ {P : List SedsResult → Prop}, (∃ a ∈ [answers], P a) ↔ P answers := by
    intro P
    simp only [List.mem_singleton, exists_eq_left]
  have hflat : [answers].flatten = answers := List.append_nil answers
  have hcallsOf : callsOf pkt ([l].zip [answers]) = List.replicate answers.length (.packetHandler l.2 pkt) := List.append_nil _
  refine ⟨answers, ?_⟩
  unfold handlesPacket at hhandles
  unfold dispatchLocalPacket
  dsimp only
  rw [if_pos hhandles]
  generalize tryPacketHandler E l.2 pkt o.tuning.maxHandlerRetries SEDS_OK o = q at hok hcalls hobs htuning
  obtain ⟨rc, o'⟩ := q
  dsimp only at hok hcalls hobs htuning ⊢
  by_cases hrc : rc = SEDS_OK
  · rw [if_pos hrc]
    have hpassed := hok.mp hrc
    refine ⟨rfl, List.forall_mem_singleton.mpr htries, ?_, ?_, ?_, htuning, ?_, fun ep => ?_⟩
    · rw [hflat]
      exact hgiven
    · rw [hflat]
      exact hcalls
    · rw [hcallsOf]
      exact hobs
    · rw [hone]
      exact (or_iff_left hpassed).symm
    · refine ⟨.inl, fun h => h.resolve_right ?_⟩
      rintro ⟨t, ht, hfailed, -⟩
      rw [List.mem_singleton.mp ht] at hfailed
      exact hpassed hfailed
  · rw [if_neg hrc]
    have hfailed : Failed answers := by
      by_contra hpassed
      exact hrc (hok.mpr hpassed)
    refine ⟨rfl, List.forall_mem_singleton.mpr htries, ?_, ?_, ?_, htuning, ?_, fun ep => ?_⟩
    · rw [hflat]
      exact hgiven
    · rw [hflat]
      exact hcalls
    · rw [hcallsOf]
      exact hobs
    · rw [hone]
      refine ⟨fun _ => .inr hfailed, fun _ => ?_⟩
      cases failures.first with
      | none => exact Option.some_ne_none _
      | some first => exact Option.some_ne_none _
    · rw [mem_otherEndpoints]
      refine or_congr_right ⟨fun h => ⟨(l, answers), List.mem_singleton.mpr rfl, hfailed, h⟩, ?_⟩
      rintro ⟨t, ht, -, h⟩
      rw [List.mem_singleton.mp ht] at h
      exact h

theorem LoopTried.trans {handlers handlers' : List (LocalEndpoint × Nat)} {p q s : Failures × Owner}
    {answers answers' : List (List SedsResult)} (h : LoopTried E locals pkt handlers p answers q)
    (h' : LoopTried E locals pkt handlers' q answers' s) : LoopTried E locals pkt (handlers ++ handlers') p (answers ++ answers') s where
  each := by rw [List.length_append, List.length_append, h.each, h'.each]
  tried := by
    intro a ha
    rcases List.mem_append.mp ha with ha | ha
    · exact h.tried a ha
    · have htried := h'.tried a ha
      rwa [h.tuning] at htried
  given := by
    rw [List.flatten_append, List.length_append, Env.answers_add, ← h.calls, ← h.given, ← h'.given]
  calls := by rw [h'.calls, h.calls, List.flatten_append, List.length_append, Nat.add_assoc]
  obs := by
    rw [h'.obs, h.obs, List.zip_append h.each.symm, List.append_assoc]
    unfold callsOf
    rw [List.flatMap_append]
  tuning := h'.tuning.trans h.tuning
  failed := by
    rw [h'.failed, h.failed, or_assoc]
    simp only [List.mem_append, or_and_right, exists_or]
  others ep := by
    rw [h'.others, h.others, or_assoc, List.zip_append h.each.symm]
    simp only [List.mem_append, or_and_right, exists_or]

/-- **The first loop** tries the handlers the packet is for, one after the other. -/
theorem foldl_dispatchLocalPacket (ls : List (LocalEndpoint × Nat)) (p : Failures × Owner) :
    ∃ answers, LoopTried E locals pkt (ls.filter (handlesPacket pkt.endpoints)) p answers
      (ls.foldl (dispatchLocalPacket E locals pkt) p) := by
  induction ls generalizing p with
  | nil =>
    refine ⟨[], rfl, fun a h => absurd h List.not_mem_nil, rfl, rfl, (List.append_nil _).symm, rfl, ?_, fun ep => ?_⟩
    · exact ⟨.inl, fun h => h.resolve_right fun ⟨a, ha, _⟩ => absurd ha List.not_mem_nil⟩
    · exact ⟨.inl, fun h => h.resolve_right fun ⟨t, ht, _⟩ => absurd ht List.not_mem_nil⟩
  | cons l ls ih =>
    rw [List.foldl_cons]
    by_cases hhandles : handlesPacket pkt.endpoints l = true
    · rw [List.filter_cons_of_pos hhandles]
      obtain ⟨answers, hround⟩ : ∃ answers, LoopTried E locals pkt [l] p [answers] (dispatchLocalPacket E locals pkt p l) :=
        dispatchLocalPacket_tried hhandles p
      obtain ⟨answers', hrest⟩ := ih (dispatchLocalPacket E locals pkt p l)
      exact ⟨[answers] ++ answers', hround.trans hrest⟩
    · have hskipped : dispatchLocalPacket E locals pkt p l = p := by
        unfold dispatchLocalPacket
        exact if_neg hhandles
      rw [List.filter_cons_of_neg hhandles, hskipped]
      exact ih p

/-! ## The report -/

/-- The second loop calls every packet handler on the endpoints of the report once. -/
theorem reportError_obs (report : PacketData) (o : Owner) :
    (reportError E locals report o).obs =
      o.obs ++ (packetHandlersOf locals report.endpoints).map fun l => .packetHandler l.2 report := by
  unfold reportError packetHandlersOf
  generalize locals.zipIdx = ls
  induction ls generalizing o with
  | nil => exact (List.append_nil _).symm
  | cons l ls ih =>
    rw [List.foldl_cons, ih]
    split
    · rename_i hhandles
      rw [List.filter_cons_of_pos (p := handlesPacket report.endpoints) hhandles]
      exact List.append_assoc _ _ _
    · rename_i hnot
      rw [List.filter_cons_of_neg (p := handlesPacket report.endpoints) hnot]

/-- Those are the handlers that are to be told. -/
theorem packetHandlersOf_told {endpoints : List UInt32} {tried : List ((LocalEndpoint × Nat) × List SedsResult)}
    (hothers : ∀ ep, ep ∈ endpoints ↔
      ∃ t ∈ tried, Failed t.2 ∧ ∃ l ∈ locals, l.packetHandler = true ∧ l.endpoint = ep ∧ ep ≠ t.1.1.endpoint) :
    packetHandlersOf locals endpoints = toldOf locals tried := by
  unfold packetHandlersOf toldOf
  refine List.filter_congr fun l hl => ?_
  unfold handlesPacket
  rw [Bool.and_comm]
  cases hhandler : l.1.packetHandler with
  | false => rfl
  | true =>
    rw [Bool.true_and, Bool.true_and, Bool.eq_iff_iff, List.contains_iff_mem, hothers, decide_eq_true_eq]
    have hlocal : l.1 ∈ locals := List.fst_mem_of_mem_zipIdx hl
    constructor
    · rintro ⟨t, ht, hfailed, l', -, -, -, hother⟩
      exact ⟨t, ht, hfailed, hother⟩
    · rintro ⟨t, ht, hfailed, hother⟩
      exact ⟨t, ht, hfailed, l.1, hlocal, hhandler, rfl, hother⟩

end Owner

/-- **Handlers are tried, and failures are told to the others.** -/
theorem dispatchLocalPacketHandlers_dispatched (S : Schema) (E : Env) (device : Bytes) (locals : List LocalEndpoint) (pkt : PacketData)
    (o : Owner) :
    ∃ answers, Dispatched E locals pkt o answers (Owner.dispatchLocalPacketHandlers S E device locals pkt o) := by
  obtain ⟨answers, hloop⟩ : ∃ answers, Owner.LoopTried E locals pkt (locals.zipIdx.filter (handlesPacket pkt.endpoints)) (⟨none, []⟩, o)
      answers (locals.zipIdx.foldl (Owner.dispatchLocalPacket E locals pkt) (⟨none, []⟩, o)) :=
    Owner.foldl_dispatchLocalPacket locals.zipIdx (⟨none, []⟩, o)
  obtain ⟨heach, htried, hgiven, -, hobs, -, hfailed, hothers⟩ := hloop
  refine ⟨answers, heach, htried, hgiven, ?_, ?_⟩
  all_goals
    unfold Owner.dispatchLocalPacketHandlers
    generalize locals.zipIdx.foldl (Owner.dispatchLocalPacket E locals pkt) (⟨none, []⟩, o) = q at hobs hfailed hothers
    obtain ⟨⟨first, endpoints⟩, o'⟩ := q
    dsimp only at hobs hfailed hothers ⊢
    rw [or_iff_right fun h => h rfl] at hfailed
  · cases first with
    | none => rw [if_neg fun h => hfailed.mpr h rfl]
    | some failure =>
      rw [if_pos (hfailed.mp (Option.some_ne_none failure))]
      dsimp only
      split
      · rfl
      · rfl
  · cases first with
    | none =>
      refine ⟨⟨SEDS_DT_TELEMETRY_ERROR, [], [], 0, []⟩, rfl, ?_⟩
      rw [if_neg fun h => hfailed.mpr h.1 rfl, List.append_nil]
      exact hobs
    | some failure =>
      have hsome := hfailed.mp (Option.some_ne_none failure)
      have htold : packetHandlersOf locals endpoints = toldOf locals ((packetHandlersOf locals pkt.endpoints).zip answers) := by
        refine Owner.packetHandlersOf_told fun ep => ?_
        rw [hothers ep]
        exact or_iff_right List.not_mem_nil
      refine ⟨makeRouterErrorPacket device endpoints (localHandlerErrorMessage S failure.1 failure.2), rfl, ?_⟩
      dsimp only
      by_cases hreport : pkt.ty ≠ SEDS_DT_TELEMETRY_ERROR ∧ endpoints ≠ []
      · rw [if_pos hreport, if_pos ⟨hsome, hreport.1⟩, Owner.reportError_obs, hobs]
        change _ ++ List.map _ (packetHandlersOf locals endpoints) = _
        rw [htold]
        rfl
      · rw [if_neg hreport]
        by_cases hty : pkt.ty ≠ SEDS_DT_TELEMETRY_ERROR
        · -- there is no one else to tell
          have hnone : endpoints = [] := by
            by_contra hne
            exact hreport ⟨hty, hne⟩
          rw [if_pos ⟨hsome, hty⟩, ← htold, hnone]
          have hempty : packetHandlersOf locals [] = [] := by
            unfold packetHandlersOf
            exact List.filter_eq_nil_iff.mpr fun l _ => Bool.false_ne_true
          rw [hempty, List.map_nil, List.append_nil]
          exact hobs
        · rw [if_neg fun h => hty h.2, List.append_nil]
          exact hobs

end SedsNet
