import AdsAsync.Client.Requests

/-!
# Every pending call completes

`AdsAsync.Client.Requests` says what a `write_and_read` call returns if it returns.
This module says that it does: from every reachable state, a call suspended in
`writer.drain()` or in `req.wait()` returns once the PLC has served the frames
written so far and the read loop has dispatched what has arrived.

* `InFlight` — the token of a call that has sent: its `got_response` sits in the
  table under its id, and its frame is still with the PLC, or a frame under its id
  waits in the inbound queue, or its event is set. Every event keeps it, under any
  peer (`inFlight_reachable`).
* `serve_run`, `dispatch_run` — serving once per written frame empties the outbox,
  and dispatching once per arrived frame empties the inbound queue; neither touches
  a call's id or phase.
* `flush_run` — so after `flush`, the PLC serving what was written and the read
  loop dispatching what arrived, both queues are empty.
* `write_and_read_completes` — and after `settle`, a `flush` and the call resuming,
  a pending call has returned the PLC's answer under its own invoke id.
* `write_and_read_returns_own_answer` — together: every call that has returned
  returned the one frame under its own id, and every call that has sent returns it.
-/

namespace AdsAsync.Client

open State

/-! ### The token of a call that has sent -/

/-- Where a call that has sent stands: its `got_response` is in the table under its
id, and its frame is still in the PLC's outbox, or a frame under its id waits in the
inbound queue, or its event is set. -/
structure InFlight (s : State) : Prop where
  registered : ∀ k i, (s.calls k).invokeId = some i → .gotResponse k ∈ s.responseHandlers i
  located : ∀ k i, (s.calls k).invokeId = some i →
    (i, .query k) ∈ s.outbox ∨ (∃ x, (i, x) ∈ s.inbound) ∨ (s.calls k).event = true

namespace InFlight

variable {s t : State}

theorem init : InFlight State.init :=
  ⟨by simp [State.init, Call.init], by simp [State.init, Call.init]⟩

/-- Events that keep the table, the calls and both queues keep the token. -/
theorem congr (h : InFlight s) (h₁ : t.responseHandlers = s.responseHandlers)
    (h₂ : t.calls = s.calls) (h₃ : t.inbound = s.inbound) (h₄ : t.outbox = s.outbox) :
    InFlight t := by
  obtain ⟨r, l⟩ := h
  exact ⟨by simpa only [h₁, h₂] using r, by simpa only [h₂, h₃, h₄] using l⟩

/-- A send only adds, a handler to the table and a frame to the outbox. -/
theorem send (h : InFlight s) (i : Nat) (r : Request) (g : Option Handler) :
    InFlight (s.send i r g) := by
  refine ⟨fun k j hk => ?_, fun k j hk => ?_⟩
  · have hreg := h.registered k j hk
    cases g with
    | none => exact hreg
    | some g =>
      rw [send_responseHandlers]
      split_ifs with hj
      · subst hj; exact List.mem_append_left _ hreg
      · exact hreg
  · rcases h.located k j hk with hl | hl | hl
    · exact .inl (by simp [hl])
    · exact .inr (.inl hl)
    · exact .inr (.inr hl)

/-- Replacing a call by one with the same id and event. -/
theorem setCall (h : InFlight s) (k : Nat) {c : Call} (hid : c.invokeId = (s.calls k).invokeId)
    (hev : c.event = (s.calls k).event) : InFlight (s.setCall k c) := by
  have hc : ∀ k', ((s.setCall k c).calls k').invokeId = (s.calls k').invokeId ∧
      ((s.setCall k c).calls k').event = (s.calls k').event := by
    intro k'
    rw [setCall_calls]
    split_ifs with hk
    · subst hk; exact ⟨hid, hev⟩
    · exact ⟨rfl, rfl⟩
  refine ⟨fun k' j hk => h.registered k' j ((hc k').1 ▸ hk), fun k' j hk => ?_⟩
  rw [(hc k').2]
  exact h.located k' j ((hc k').1 ▸ hk)

/-- `write_and_read` registers its `got_response` and writes its frame under its id. -/
theorem writeAndRead (h : InFlight s) (k i : Nat) : InFlight (s.writeAndRead k i) := by
  unfold State.writeAndRead
  split_ifs
  · have h₁ := h.send i (.query k) (some (.gotResponse k))
    refine ⟨fun k' j hk => ?_, fun k' j hk => ?_⟩
    · rw [setCall_calls] at hk
      split_ifs at hk with hkk
      · obtain rfl : i = j := Option.some.inj hk
        subst hkk
        rw [setCall_responseHandlers, send_responseHandlers, if_pos rfl]
        exact List.mem_append_right _ (List.mem_singleton_self _)
      · exact h₁.registered k' j hk
    · rw [setCall_calls] at hk ⊢
      split_ifs at hk ⊢ with hkk
      · obtain rfl : i = j := Option.some.inj hk
        subst hkk
        exact .inl (by simp)
      · exact h₁.located k' j hk
  · exact h

theorem runJob (h : InFlight s) (j i : Nat) : InFlight (s.runJob j i) := by
  unfold State.runJob
  split
  · exact h
  · rename_i job _
    have h₁ : InFlight { s with pending := s.pending.eraseIdx j } := h.congr rfl rfl rfl rfl
    cases job with
    | subscribe n => exact h₁.send i _ _
    | callback => exact h₁

/-- The PLC moves any frame's answer, under its id, to the inbound queue. -/
theorem serve (h : InFlight s) (j : Nat) (reply : Item) : InFlight (s.serve j reply) := by
  cases hf : s.outbox[j]? with
  | none => rw [serve_none _ _ hf]; exact h
  | some f =>
    obtain ⟨i, req⟩ := f
    obtain ⟨h₁, h₂, -, h₄, a, h₅, -⟩ := serve_some s reply hf
    refine ⟨fun k l hk => h₁ ▸ h.registered k l (h₂ ▸ hk), fun k l hk => ?_⟩
    rw [h₂] at hk ⊢
    rw [h₄, h₅]
    rcases h.located k l hk with hl | ⟨y, hy⟩ | hl
    · rcases List.mem_cons.1 ((perm_cons_eraseIdx hf).mem_iff.1 hl) with hl | hl
      · exact .inr (.inl ⟨a, by simp [(Prod.mk.inj hl).1]⟩)
      · exact .inl hl
    · exact .inr (.inl ⟨y, List.mem_append_left _ hy⟩)
    · exact .inr (.inr hl)

theorem inject (h : InFlight s) (i : Nat) (x : Item) : InFlight (s.inject i x) :=
  ⟨h.registered, fun k j hk => (h.located k j hk).imp_right
    (Or.imp_left fun ⟨y, hy⟩ => ⟨y, List.mem_append_left _ hy⟩)⟩

/-- Dispatching a frame under a call's id sets the call's event. -/
theorem dispatch (h : InFlight s) : InFlight s.dispatch := by
  cases hin : s.inbound with
  | nil => rw [dispatch_nil _ hin]; exact h
  | cons f rest =>
    obtain ⟨i, x⟩ := f
    obtain ⟨h₁, h₂, h₃, hc⟩ := dispatch_cons s hin
    refine ⟨fun k j hk => ?_, fun k j hk => ?_⟩
    · rw [h₃]; exact h.registered k j ((hc k).1 ▸ hk)
    · rw [(hc k).1] at hk
      rw [h₁, h₂, (hc k).2.2.2]
      rcases h.located k j hk with hl | ⟨y, hy⟩ | hl
      · exact .inl hl
      · rw [hin] at hy
        rcases List.mem_cons.mp hy with hy | hy
        · obtain rfl : j = i := (Prod.mk.inj hy).1
          exact .inr (.inr (by simp [h.registered k j hk]))
        · exact .inr (.inl ⟨y, hy⟩)
      · exact .inr (.inr (by simp [hl]))

/-- **Every event keeps the token**, whatever the peer sends. -/
theorem step (h : InFlight s) (e : Event) : InFlight (s.step e) := by
  cases e with
  | addCallback n f => exact h.congr rfl rfl rfl rfl
  | removeCallback n t i =>
    show InFlight (s.removeCallback n t i)
    rw [removeCallback_eq]; exact h.congr rfl rfl rfl rfl
  | process n x => exact h.congr rfl rfl rfl rfl
  | runJob j i => exact h.runJob j i
  | writeAndRead k i => exact h.writeAndRead k i
  | drained k =>
    show InFlight (s.drained k)
    unfold State.drained
    split_ifs
    · exact h.setCall k rfl rfl
    · exact h
  | wake k =>
    show InFlight (s.wake k)
    unfold State.wake
    split_ifs
    · exact h.setCall k rfl rfl
    · exact h
  | serve j reply => exact h.serve j reply
  | inject i x => exact h.inject i x
  | dispatch => exact h.dispatch

theorem run (h : InFlight s) (es : List Event) : InFlight (s.run es) := by
  induction es generalizing s with
  | nil => exact h
  | cons e es ih => exact ih (h.step e)

end InFlight

theorem inFlight_reachable {admits : State → Event → Bool} {s : State}
    (hs : Reachable admits s) : InFlight s := by
  induction hs with
  | init => exact .init
  | step _ _ ih => exact ih.step _

/-! ### Serving and dispatching everything -/

theorem run_append (s : State) (a b : List Event) : s.run (a ++ b) = (s.run a).run b :=
  List.foldl_append _ _ _ _

/-- Serving the oldest frame once per written frame empties the outbox and puts one
answer per frame in the inbound queue; the calls are untouched. -/
theorem serve_run (reply : Item) : ∀ (n : Nat) (s : State), s.outbox.length = n →
    (s.run (List.replicate n (.serve 0 reply))).outbox = [] ∧
      (s.run (List.replicate n (.serve 0 reply))).inbound.length = s.inbound.length + n ∧
      (s.run (List.replicate n (.serve 0 reply))).calls = s.calls
  | 0, s, h => ⟨List.eq_nil_of_length_eq_zero h, rfl, rfl⟩
  | n + 1, s, h => by
    obtain ⟨⟨i, req⟩, rest, hout⟩ := List.exists_cons_of_length_eq_add_one h
    have hf : s.outbox[0]? = some (i, req) := by simp [hout]
    obtain ⟨-, h₂, -, h₄, a, h₅, -⟩ := s.serve_some reply hf
    obtain ⟨o, l, c⟩ := serve_run reply n (s.serve 0 reply) (by simpa [h₄, hout] using h)
    show ((s.serve 0 reply).run _).outbox = [] ∧
      ((s.serve 0 reply).run _).inbound.length = _ ∧ ((s.serve 0 reply).run _).calls = _
    refine ⟨o, ?_, c.trans h₂⟩
    rw [l, h₅, List.length_append, List.length_singleton]
    omega

/-- Dispatching once per arrived frame empties the inbound queue; no call changes its
id or its phase. -/
theorem dispatch_run : ∀ (n : Nat) (s : State), s.inbound.length = n →
    (s.run (List.replicate n .dispatch)).inbound = [] ∧
      (s.run (List.replicate n .dispatch)).outbox = s.outbox ∧
      ∀ k, ((s.run (List.replicate n .dispatch)).calls k).invokeId = (s.calls k).invokeId ∧
        ((s.run (List.replicate n .dispatch)).calls k).phase = (s.calls k).phase
  | 0, s, h => ⟨List.eq_nil_of_length_eq_zero h, rfl, fun _ => ⟨rfl, rfl⟩⟩
  | n + 1, s, h => by
    obtain ⟨⟨i, x⟩, rest, hin⟩ := List.exists_cons_of_length_eq_add_one h
    obtain ⟨h₁, h₂, -, hc⟩ := s.dispatch_cons hin
    obtain ⟨e, o, c⟩ := dispatch_run n s.dispatch (by simpa [h₁, hin] using h)
    exact ⟨e, o.trans h₂, fun k => ⟨(c k).1.trans (hc k).1, (c k).2.trans (hc k).2.1⟩⟩

/-! ### A pending call returns -/

/-- A call in `drain()` or in `wait()` whose event is set returns its response on
`drained` and `wake`, under the same id. -/
theorem State.drained_wake (s : State) {k : Nat}
    (hk : (s.calls k).phase = .sending ∨ (s.calls k).phase = .waiting)
    (he : (s.calls k).event = true) :
    (((s.drained k).wake k).calls k).phase = .returned (s.calls k).response ∧
      (((s.drained k).wake k).calls k).invokeId = (s.calls k).invokeId := by
  unfold State.wake State.drained
  by_cases hs : (s.calls k).phase = .sending
  · simp [hs, he, setCall_calls, Call.finish]
  · simp [hs, hk.resolve_left hs, he, setCall_calls, Call.finish]

/-- The PLC serves every frame written so far, oldest first, answering queries with
`reply`, and the read loop dispatches every frame that has then arrived. -/
def State.flush (s : State) (reply : Item) : List Event :=
  List.replicate s.outbox.length (.serve 0 reply) ++
    List.replicate (s.inbound.length + s.outbox.length) .dispatch

/-- `flush`, then call `k` resumes from `drain()` and from `wait()`. -/
def State.settle (s : State) (reply : Item) (k : Nat) : List Event :=
  s.flush reply ++ [.drained k, .wake k]

/-- After `flush` both queues are empty, and no call has changed its id or its phase. -/
theorem flush_run (s : State) (reply : Item) :
    (s.run (s.flush reply)).outbox = [] ∧ (s.run (s.flush reply)).inbound = [] ∧
      ∀ k, ((s.run (s.flush reply)).calls k).invokeId = (s.calls k).invokeId ∧
        ((s.run (s.flush reply)).calls k).phase = (s.calls k).phase := by
  obtain ⟨o₁, l₁, c₁⟩ := serve_run reply _ s rfl
  obtain ⟨e₂, o₂, c₂⟩ := dispatch_run _ _ l₁
  rw [State.flush, run_append]
  exact ⟨o₂.trans o₁, e₂, fun k => ⟨(c₂ k).1.trans (by rw [c₁]), (c₂ k).2.trans (by rw [c₁])⟩⟩

/-- A predicate that serving and dispatching keep holds after `flush`. -/
theorem flush_preserves {P : State → Prop} (hserve : ∀ t j reply, P t → P (t.serve j reply))
    (hdispatch : ∀ t, P t → P t.dispatch) {s : State} (reply : Item) (h : P s) :
    P (s.run (s.flush reply)) := by
  have hrep : ∀ (e : Event), (∀ t, P t → P (t.step e)) →
      ∀ n t, P t → P (t.run (List.replicate n e)) := by
    intro e he n
    induction n with
    | zero => exact fun _ ht => ht
    | succ n ih => exact fun t ht => ih _ (he t ht)
  rw [State.flush, run_append]
  exact hrep .dispatch (fun t => hdispatch t) _ _
    (hrep (.serve 0 reply) (fun t => hserve t 0 reply) _ _ h)

/-- Serving and dispatching are admitted in every state. -/
theorem admitted_of_forall {es : List Event} (h : ∀ e ∈ es, ∀ u, freshIds u e = true) :
    ∀ t, Admitted freshIds t es := by
  induction es with
  | nil => exact fun _ => trivial
  | cons e es ih =>
    exact fun t => ⟨h e (List.mem_cons_self _ _) t,
      ih (fun e' he' => h e' (List.mem_cons_of_mem _ he')) _⟩

theorem admitted_flush (s t : State) (reply : Item) : Admitted freshIds t (s.flush reply) := by
  refine admitted_of_forall (fun e he u => ?_) t
  simp only [State.flush, List.mem_append, List.mem_replicate] at he
  rcases he with ⟨-, rfl⟩ | ⟨-, rfl⟩ <;> rfl

theorem admitted_settle (s t : State) (reply : Item) (k : Nat) :
    Admitted freshIds t (s.settle reply k) := by
  refine admitted_of_forall (fun e he u => ?_) t
  simp only [State.settle, State.flush, List.mem_append, List.mem_replicate, List.mem_cons,
    List.mem_singleton, List.not_mem_nil, or_false] at he
  rcases he with (⟨-, rfl⟩ | ⟨-, rfl⟩) | rfl | rfl <;> rfl

/-- A pending call returns under `settle`, with the PLC's answer under its id, and the
continuation is a run with fresh ids. -/
theorem settle_returns_answer {s : State} (hs : Reachable freshIds s) {k i : Nat}
    (hk : (s.calls k).phase = .sending ∨ (s.calls k).phase = .waiting)
    (hi : (s.calls k).invokeId = some i) (reply : Item) :
    Reachable freshIds (s.run (s.settle reply k)) ∧
      ∃ x, ((s.run (s.settle reply k)).calls k).phase = .returned (some x) ∧
        (i, x) ∈ (s.run (s.settle reply k)).answered := by
  have hreach := hs.run (admitted_settle s s reply k)
  obtain ⟨o, e, c⟩ := flush_run s reply
  set s₂ := s.run (s.flush reply)
  have hid₂ : (s₂.calls k).invokeId = some i := (c k).1.trans hi
  have hin₂ : InFlight s₂ := (inFlight_reachable hs).run _
  have hev₂ : (s₂.calls k).event = true := by
    rcases hin₂.located k i hid₂ with hl | ⟨y, hy⟩ | hl
    · simp [o] at hl
    · simp [e] at hy
    · exact hl
  obtain ⟨hph, hid⟩ := s₂.drained_wake (by rw [(c k).2]; exact hk) hev₂
  have hend : s.run (s.settle reply k) = (s₂.drained k).wake k := by
    rw [State.settle, run_append]; rfl
  rw [hend] at hreach ⊢
  obtain ⟨i', x, hx, hi', hans⟩ :=
    ((correlated_reachable hreach).call_ok k).returned_answered _ hph
  rw [hid, hid₂] at hi'
  cases hi'
  exact ⟨hreach, x, hx ▸ hph, hans⟩

/-- **Every pending `write_and_read` completes.** From every state of a run with fresh
invoke ids, a call suspended in `writer.drain()` or in `req.wait()` under the id `i`
has returned, once the PLC has served the frames written so far (whatever it answers)
and the read loop has dispatched the frames that have arrived; it returned the PLC's
answer under `i`, and that continuation is itself a run with fresh ids. No response is
lost, whatever was interleaved before. -/
theorem write_and_read_completes {s : State} (hs : Reachable freshIds s) {k i : Nat}
    (hk : (s.calls k).phase = .sending ∨ (s.calls k).phase = .waiting)
    (hi : (s.calls k).invokeId = some i) (reply : Item) :
    Reachable freshIds (s.run (s.settle reply k)) ∧
      ∃ x, ((s.run (s.settle reply k)).calls k).phase = .returned (some x) ∧
        (i, x) ∈ (s.run (s.settle reply k)).answered :=
  settle_returns_answer hs hk hi reply

/-- A call that has just written its frame under id 5 returns the PLC's answer. -/
theorem completes_after_write :
    Reachable freshIds (State.init.run [.writeAndRead 0 5]) ∧
      ((State.init.run [.writeAndRead 0 5]).calls 0).phase = .sending ∧
      ((State.init.run [.writeAndRead 0 5]).calls 0).invokeId = some 5 ∧
      Reachable freshIds ((State.init.run [.writeAndRead 0 5]).run
        ((State.init.run [.writeAndRead 0 5]).settle ⟨0, 0, [42]⟩ 0)) ∧
      ∃ x, (((State.init.run [.writeAndRead 0 5]).run
          ((State.init.run [.writeAndRead 0 5]).settle ⟨0, 0, [42]⟩ 0)).calls 0).phase =
          .returned (some x) ∧
        (5, x) ∈ ((State.init.run [.writeAndRead 0 5]).run
          ((State.init.run [.writeAndRead 0 5]).settle ⟨0, 0, [42]⟩ 0)).answered :=
  have hs : Reachable freshIds (State.init.run [.writeAndRead 0 5]) :=
    Reachable.init.run (by decide)
  ⟨hs, rfl, rfl, write_and_read_completes hs (k := 0) (i := 5) (.inl rfl) rfl ⟨0, 0, [42]⟩⟩

/-! ### Each call returns its own answer -/

/-- **Each `write_and_read` returns its own answer.** In every run with fresh invoke
ids, whatever the interleaving of calls, subscribes, answers in any order and
dispatches: a call that has returned returned the item of the one frame the PLC wrote
under the call's own invoke id; and a call that has sent under `i` does return, once
the PLC has served the frames written so far and the read loop has dispatched what
arrived, with the one frame the PLC wrote under `i`. -/
theorem write_and_read_returns_own_answer {s : State} (hs : Reachable freshIds s) (k : Nat) :
    (∀ r, (s.calls k).phase = .returned r →
      ∃ i x, (s.calls k).invokeId = some i ∧ r = some x ∧ (i, x) ∈ s.answered ∧
        ∀ y, (i, y) ∈ s.answered → y = x) ∧
    ∀ i reply, ((s.calls k).phase = .sending ∨ (s.calls k).phase = .waiting) →
      (s.calls k).invokeId = some i →
      ∃ x, ((s.run (s.settle reply k)).calls k).phase = .returned (some x) ∧
        (i, x) ∈ (s.run (s.settle reply k)).answered ∧
        ∀ y, (i, y) ∈ (s.run (s.settle reply k)).answered → y = x := by
  refine ⟨fun r hr => (correlated_reachable hs).returned_own_answer hr, fun i reply hk hi => ?_⟩
  obtain ⟨hreach, x, hx, hans⟩ := settle_returns_answer hs hk hi reply
  exact ⟨x, hx, hans, fun y hy => (correlated_reachable hreach).answer_unique hans hy⟩

/-- A call whose answer is dispatched while it still waits in `drain()`. -/
def answeredWhileDraining : List Event :=
  [.writeAndRead 0 5, .serve 0 ⟨0, 0, [42]⟩, .dispatch, .drained 0, .wake 0]

/-- That call returns its answer, the PLC's one frame under its id. -/
theorem own_answer_dispatched_while_draining :
    ((State.init.run answeredWhileDraining).calls 0).phase = .returned (some ⟨0, 0, [42]⟩) ∧
      ∃ i x, ((State.init.run answeredWhileDraining).calls 0).invokeId = some i ∧
        some (⟨0, 0, [42]⟩ : Item) = some x ∧
        (i, x) ∈ (State.init.run answeredWhileDraining).answered ∧
        ∀ y, (i, y) ∈ (State.init.run answeredWhileDraining).answered → y = x :=
  ⟨by decide,
    (write_and_read_returns_own_answer (Reachable.init.run (by decide)) 0).1 _ (by decide)⟩

end AdsAsync.Client
