import AdsAsync.Client.Completion
import AdsAsync.Client.Subscriptions

/-!
# Subscription handles

`Notification._response_handler` stores the handle of a `NOERR` answer and indexes
the notification under it in `handle_to_notification`, an index nothing prunes
(`index_keeps_stale_handles`). This module says what does hold of the handles and of
the subscribe jobs, and that a subscribe ends with a handle.

* `Routed` — the invariant of every run with fresh invoke ids (`routed_reachable`):
  a notification's `_response_handler` sits only under the id of its own add frame,
  and the PLC answered that frame `NOERR` with a handle it opened for the
  notification; the PLC's handles are distinct; and the handle a notification holds
  routes back to it and names one of its subscriptions.
* `handle_routed` — so whatever the interleaving, the handle a notification holds
  indexes that notification and names a subscription the PLC opened for it;
  `index_names_subscription` — and every entry of the index, stale or not, names the
  PLC's subscription under its handle.
* `Confirming` — the token of a sent subscribe: its handler is under its id, and its
  add frame is with the PLC, or a `NOERR` answer under the id waits in the inbound
  queue, or the notification holds a handle. Serving and dispatching keep it.
* `subscribe_confirmed` — so once the executor runs a pending subscribe and the PLC
  and the read loop `flush`, the notification holds a handle, routed as above.
* `Accounted`, `subscribe_jobs_accounted` — under any peer, every subscribe job ever
  submitted is, one for one, waiting in the executor, an add frame with the PLC, or a
  subscription the PLC holds: none is lost and none is served twice.
-/

namespace AdsAsync.Client

open State

/-! ### What the PLC and `_response_handler` do to the handles -/

namespace State

variable (s : State) (i : Nat) (x : Item)

/-- `_response_handler` on a `NOERR` answer sets the handle and indexes it... -/
theorem invoke_responseHandler_noerr (m : Nat) (hr : x.result = NOERR) :
    s.invoke i x (.responseHandler m) =
      { s with notifications := Function.update s.notifications m
                 { s.notifications m with handle := some x.handle },
               handleToNotification :=
                 Function.update s.handleToNotification x.handle (some m) } := by
  simp only [invoke, Notification.responseHandler, if_pos hr]

/-- ... and on any other answer changes nothing. -/
theorem invoke_responseHandler_error (m : Nat) (hr : x.result ≠ NOERR) :
    s.invoke i x (.responseHandler m) = s := by
  simp [invoke, Notification.responseHandler, hr]

@[simp] theorem invoke_subscriptions (g : Handler) :
    (s.invoke i x g).subscriptions = s.subscriptions := by cases g <;> rfl

@[simp] theorem answer_notifications (r : Request) (reply : Item) :
    (s.answer r reply).1.notifications = s.notifications := by cases r <;> rfl

@[simp] theorem serve_notifications (idx : Nat) (reply : Item) :
    (s.serve idx reply).notifications = s.notifications := by
  unfold serve; split
  · rfl
  · exact answer_notifications _ _ _

/-- The PLC serves a frame adding notification `n`: it opens a subscription under its
next handle and answers `NOERR` with that handle. -/
theorem serve_add {idx j n : Nat} (h : s.outbox[idx]? = some (j, .addNotification n))
    (reply : Item) :
    s.serve idx reply =
      { s with outbox := s.outbox.eraseIdx idx,
               subscriptions := s.subscriptions ++ [(s.nextHandle, n)],
               nextHandle := s.nextHandle + 1,
               inbound := s.inbound ++ [(j, ⟨NOERR, s.nextHandle, []⟩)],
               answered := s.answered ++ [(j, ⟨NOERR, s.nextHandle, []⟩)] } := by
  simp only [serve, h, answer]

/-- A send of anything but a remove frame writes no remove frame. -/
theorem no_remove_send {r : Request} (hr : r.isRemove = false) (h : Option Handler)
    (hs : ∀ f ∈ s.outbox, f.2.isRemove = false) :
    ∀ f ∈ (s.send i r h).outbox, f.2.isRemove = false := fun f hf =>
  (mem_send_outbox s hf).elim (hs f) fun he => by rw [he]; exact hr

theorem serve_query {idx j k : Nat} (h : s.outbox[idx]? = some (j, .query k)) (reply : Item) :
    s.serve idx reply =
      { s with outbox := s.outbox.eraseIdx idx, inbound := s.inbound ++ [(j, reply)],
               answered := s.answered ++ [(j, reply)] } := by
  simp only [serve, h, answer]

end State

/-- The PLC's handles are distinct, so a handle names one notification. -/
theorem snd_eq_of_fst_nodup {subs : List (Nat × Nat)} (hd : (subs.map Prod.fst).Nodup)
    {h m n : Nat} (hm : (h, m) ∈ subs) (hn : (h, n) ∈ subs) : m = n :=
  (Prod.mk.inj (List.inj_on_of_nodup_map hd hm hn rfl)).2

/-- Replacing one notification by one whose handle is unset or unchanged. -/
theorem handle_update {f : Nat → Notification} {n : Nat} {v : Notification}
    (hv : ∀ h, v.handle = some h → (f n).handle = some h) :
    ∀ m h, (Function.update f n v m).handle = some h → (f m).handle = some h := by
  intro m h hh
  by_cases hm : m = n
  · subst hm; rw [Function.update_same] at hh; exact hv h hh
  · rwa [Function.update_noteq hm] at hh

/-! ### The routing invariant -/

/-- How the handles of a run with fresh ids stand. -/
structure Routed (s : State) : Prop where
  /-- No remove-notification frame is written (`AsyncioClient` has no
  `remove_notification`). -/
  no_remove : ∀ f ∈ s.outbox, f.2.isRemove = false
  handles_nodup : (s.subscriptions.map Prod.fst).Nodup
  handles_below : ∀ sub ∈ s.subscriptions, sub.1 < s.nextHandle
  /-- A notification's `_response_handler` is only under the id of its own add frame. -/
  frame_add : ∀ i n, .responseHandler n ∈ s.responseHandlers i →
    ∀ r, (i, r) ∈ s.outbox → r = .addNotification n
  /-- ... and the PLC answered that frame `NOERR` with a handle it opened for it. -/
  answer_open : ∀ i n, .responseHandler n ∈ s.responseHandlers i →
    ∀ x, (i, x) ∈ s.answered → x.result = NOERR ∧ (x.handle, n) ∈ s.subscriptions
  /-- Every entry of `handle_to_notification` names a subscription the PLC opened. -/
  index_open : ∀ h n, s.handleToNotification h = some n → (h, n) ∈ s.subscriptions
  /-- The handle a notification holds indexes it. -/
  routed : ∀ n h, (s.notifications n).handle = some h → s.handleToNotification h = some n

namespace Routed

variable {s t : State}

theorem init : Routed State.init :=
  ⟨by simp [State.init], by simp [State.init], by simp [State.init], by simp [State.init],
    by simp [State.init], by simp [State.init], by simp [State.init, Notification.init]⟩

theorem congr (h : Routed s)
    (h₁ : ∀ n x, (t.notifications n).handle = some x → (s.notifications n).handle = some x)
    (h₂ : t.handleToNotification = s.handleToNotification)
    (h₃ : t.subscriptions = s.subscriptions) (h₄ : t.nextHandle = s.nextHandle)
    (h₅ : t.responseHandlers = s.responseHandlers) (h₆ : t.outbox = s.outbox)
    (h₇ : t.answered = s.answered) : Routed t := by
  obtain ⟨r₁, r₂, r₃, r₄, r₅, r₆, r₇⟩ := h
  refine ⟨by rwa [h₆], by rwa [h₃], by rwa [h₃, h₄], by rwa [h₅, h₆], by rwa [h₅, h₇, h₃],
    by rwa [h₂, h₃], fun n x hx => ?_⟩
  rw [h₂]
  exact r₇ n x (h₁ n x hx)

theorem setCall (h : Routed s) (k : Nat) (c : Call) : Routed (s.setCall k c) :=
  h.congr (fun _ _ hx => hx) rfl rfl rfl rfl rfl rfl

/-- A `send` under a fresh id, whose handler, if a `_response_handler`, is its
notification's and whose frame adds that notification. -/
theorem send (h : Routed s) (hL : Ledger s) {i : Nat} (hi : i ∉ s.issued) {r : Request}
    {g : Handler} (hr : r.isRemove = false) (hg : ∀ n, g = .responseHandler n → r = .addNotification n) :
    Routed (s.send i r (some g)) := by
  have hnone : s.responseHandlers i = [] :=
    List.eq_nil_iff_forall_not_mem.2 fun g' hg' => hi (hL.handler_issued i g' hg')
  refine ⟨no_remove_send s i hr _ h.no_remove, h.handles_nodup, h.handles_below,
    fun j n hj r' hr' => ?_, fun j n hj y hy => ?_, h.index_open, h.routed⟩
  · rw [send_responseHandlers] at hj
    rw [send_outbox, List.mem_append, List.mem_singleton] at hr'
    split_ifs at hj with hji
    · subst hji
      rw [hnone, List.nil_append, List.mem_singleton] at hj
      rcases hr' with hr' | hr'
      · exact absurd (hL.outbox_issued _ hr') hi
      · rw [(Prod.mk.inj hr').2]; exact hg n hj.symm
    · rcases hr' with hr' | hr'
      · exact h.frame_add j n hj r' hr'
      · exact absurd (Prod.mk.inj hr').1 hji
  · rw [send_responseHandlers] at hj
    split_ifs at hj with hji
    · subst hji; exact absurd (hL.answered_issued _ _ hy) hi
    · exact h.answer_open j n hj y hy

/-- The executor runs a job; a subscribe sends its add frame under a fresh id. -/
theorem runJob (h : Routed s) (hL : Ledger s) {j i : Nat} (hi : i ∉ s.seen) :
    Routed (s.runJob j i) := by
  unfold State.runJob
  split
  · exact h
  · rename_i job _
    have h₁ : Routed { s with pending := s.pending.eraseIdx j } :=
      h.congr (fun _ _ hx => hx) rfl rfl rfl rfl rfl rfl
    cases job with
    | subscribe n =>
      exact h₁.send (hL.congr rfl rfl rfl rfl rfl) (fun hm => hi (mem_seen_of_issued hm)) rfl
        fun m hm => by cases hm; rfl
    | callback => exact h₁

theorem writeAndRead (h : Routed s) (hL : Ledger s) {k i : Nat} (hi : i ∉ s.seen) :
    Routed (s.writeAndRead k i) := by
  unfold State.writeAndRead
  split_ifs
  · exact (h.send hL (r := .query k) (fun hm => hi (mem_seen_of_issued hm)) rfl
      fun m hm => by cases hm).setCall _ _
  · exact h

/-- The PLC serves any frame: a query answers with the reply, an add frame opens a
subscription under a new handle. -/
theorem serve (h : Routed s) (idx : Nat) (reply : Item) : Routed (s.serve idx reply) := by
  cases hf : s.outbox[idx]? with
  | none => rwa [serve_none _ _ hf]
  | some f =>
    obtain ⟨j, r⟩ := f
    have hhead : (j, r) ∈ s.outbox := List.getElem?_mem hf
    have hrest : ∀ f ∈ s.outbox.eraseIdx idx, f ∈ s.outbox := fun _ => List.mem_of_mem_eraseIdx
    cases r with
    | query k =>
      rw [serve_query s hf]
      refine ⟨fun f hf => h.no_remove f (hrest f hf), h.handles_nodup, h.handles_below,
        fun i n hn r hr => h.frame_add i n hn r (hrest _ hr), fun i n hn y hy => ?_,
        h.index_open, h.routed⟩
      rcases List.mem_append.1 hy with hy | hy
      · exact h.answer_open i n hn y hy
      · obtain ⟨rfl, -⟩ := Prod.mk.inj (List.mem_singleton.1 hy)
        cases h.frame_add i n hn _ hhead
    | addNotification m =>
      rw [serve_add s hf]
      have hfresh : s.nextHandle ∉ s.subscriptions.map Prod.fst := fun hm => by
        obtain ⟨sub, hsub, he⟩ := List.mem_map.1 hm
        exact absurd (he ▸ h.handles_below sub hsub) (Nat.lt_irrefl _)
      have hsub : s.subscriptions ⊆ s.subscriptions ++ [(s.nextHandle, m)] :=
        List.subset_append_left _ _
      refine ⟨fun f hf => h.no_remove f (hrest f hf), ?_, fun sub hs => ?_,
        fun i n hn r hr => h.frame_add i n hn r (hrest _ hr), fun i n hn y hy => ?_,
        fun h' n hidx => hsub (h.index_open h' n hidx), h.routed⟩
      · simpa [List.concat_eq_append] using h.handles_nodup.concat hfresh
      · rcases List.mem_append.1 hs with hs | hs
        · exact Nat.lt_succ_of_lt (h.handles_below sub hs)
        · rw [List.mem_singleton.1 hs]; exact Nat.lt_succ_self _
      · rcases List.mem_append.1 hy with hy | hy
        · exact (h.answer_open i n hn y hy).imp_right fun hm => hsub hm
        · obtain ⟨rfl, rfl⟩ := Prod.mk.inj (List.mem_singleton.1 hy)
          cases h.frame_add i n hn _ hhead
          exact ⟨rfl, List.mem_append_right _ (List.mem_singleton_self _)⟩
    | removeNotification _ => cases h.no_remove _ hhead

/-- One handler of a frame whose item, if it is `NOERR`, names a subscription opened
for the notification whose `_response_handler` the handler is. -/
theorem invoke (h : Routed s) {i : Nat} {x : Item} {g : Handler}
    (hx : ∀ m, g = .responseHandler m → x.result = NOERR → (x.handle, m) ∈ s.subscriptions) :
    Routed (s.invoke i x g) := by
  cases g with
  | gotResponse k => exact h.setCall _ _
  | responseHandler m =>
    by_cases hr : x.result = NOERR
    · have hm := hx m rfl hr
      rw [invoke_responseHandler_noerr s i x m hr]
      refine ⟨h.no_remove, h.handles_nodup, h.handles_below, h.frame_add, h.answer_open,
        fun h' n hidx => ?_, fun n y hy => ?_⟩ <;> dsimp only at *
      · by_cases hh : h' = x.handle
        · subst hh
          rw [Function.update_same] at hidx
          cases hidx
          exact hm
        · exact h.index_open h' n (by rwa [Function.update_noteq hh] at hidx)
      · by_cases hnm : n = m
        · subst hnm
          rw [Function.update_same] at hy
          cases Option.some.inj hy
          exact Function.update_same _ _ _
        · rw [Function.update_noteq hnm] at hy
          have hidx := h.routed n y hy
          have hne : y ≠ x.handle := fun he =>
            hnm (snd_eq_of_fst_nodup h.handles_nodup (he ▸ h.index_open y n hidx) hm)
          exact (Function.update_noteq hne _ _).trans hidx
    · rw [invoke_responseHandler_error s i x m hr]
      exact h

/-- `_handle_command`'s loop over the handlers it looked up. -/
theorem invokeAll (h : Routed s) {i : Nat} {x : Item} (hs : List Handler)
    (hx : ∀ m, .responseHandler m ∈ hs → x.result = NOERR → (x.handle, m) ∈ s.subscriptions) :
    Routed (s.invokeAll i x hs) := by
  induction hs generalizing s with
  | nil => exact h
  | cons g gs ih =>
    exact ih (h.invoke fun m hm => hx m (hm ▸ List.mem_cons_self _ _))
      fun m hm hr => by simpa using hx m (List.mem_cons_of_mem _ hm) hr

/-- The read loop dispatches the oldest frame, which is the PLC's answer to its id. -/
theorem dispatch (h : Routed s) (hL : Ledger s) : Routed s.dispatch := by
  unfold State.dispatch
  split
  · exact h
  · rename_i i x rest hin
    have h₁ : Routed (({ s with inbound := rest } : State).record (.dispatch i x)) :=
      h.congr (fun _ _ hx => hx) rfl rfl rfl rfl rfl rfl
    exact h₁.invokeAll _ fun m hm _ => (h.answer_open i m hm x
      (hL.inbound_answered i x (by simp [hin]) (hL.handler_issued i _ hm))).2

/-- **Every event the environment admits keeps the invariant.** -/
theorem step (h : Routed s) (hL : Ledger s) {e : Event} (he : freshIds s e = true) :
    Routed (s.step e) := by
  cases e with
  | addCallback n f => exact h.congr (handle_update fun _ hx => hx) rfl rfl rfl rfl rfl rfl
  | removeCallback n t i =>
    show Routed (s.removeCallback n t i)
    rw [removeCallback_eq]
    refine h.congr (handle_update fun _ hx => ?_) rfl rfl rfl rfl rfl rfl
    rw [Notification.removeCallback_handle] at hx
    split_ifs at hx
    exact hx
  | process n x => exact h.congr (handle_update fun _ hx => hx) rfl rfl rfl rfl rfl rfl
  | runJob j i => exact h.runJob hL (by simpa [freshIds] using he)
  | writeAndRead k i => exact h.writeAndRead hL (by simpa [freshIds] using he)
  | drained k =>
    show Routed (s.drained k)
    unfold State.drained; split_ifs
    · exact h.setCall _ _
    · exact h
  | wake k =>
    show Routed (s.wake k)
    unfold State.wake; split_ifs
    · exact h.setCall _ _
    · exact h
  | serve j reply => exact h.serve j reply
  | inject i x => exact h.congr (fun _ _ hx => hx) rfl rfl rfl rfl rfl rfl
  | dispatch => exact h.dispatch hL

end Routed

theorem routed_reachable {s : State} (hs : Reachable freshIds s) : Routed s := by
  induction hs with
  | init => exact .init
  | step hs he ih => exact ih.step (correlated_reachable hs).toLedger he

/-- **The handle a notification holds routes to it.** In every run with fresh invoke
ids, whatever the interleaving of callbacks, subscribes, answers and dispatches, the
handle a notification holds indexes that notification in `handle_to_notification`, and
the PLC opened a subscription under it for that notification. -/
theorem handle_routed {s : State} (hs : Reachable freshIds s) {n h : Nat}
    (hh : (s.notifications n).handle = some h) :
    s.handleToNotification h = some n ∧ (h, n) ∈ s.subscriptions :=
  have hr := routed_reachable hs
  ⟨hr.routed n h hh, hr.index_open h n (hr.routed n h hh)⟩

/-- After `resubscribe` notification 0 holds the second handle, which routes to it. -/
theorem resubscribed_handle_routed :
    Reachable freshIds (State.init.run resubscribe) ∧
      ((State.init.run resubscribe).notifications 0).handle = some 1 ∧
      (State.init.run resubscribe).handleToNotification 1 = some 0 ∧
      (1, 0) ∈ (State.init.run resubscribe).subscriptions :=
  have hs : Reachable freshIds (State.init.run resubscribe) := Reachable.init.run (by decide)
  ⟨hs, by decide, handle_routed hs (by decide)⟩

/-- **`handle_to_notification` routes no handle to a stranger.** In every run with
fresh invoke ids, an entry `h ↦ n` of the index, stale or not, names a subscription
the PLC opened under `h` for `n`, and the PLC holds no subscription under `h` for
another notification. -/
theorem index_names_subscription {s : State} (hs : Reachable freshIds s) {h n : Nat}
    (hidx : s.handleToNotification h = some n) :
    (h, n) ∈ s.subscriptions ∧ ∀ m, (h, m) ∈ s.subscriptions → m = n :=
  have hr := routed_reachable hs
  ⟨hr.index_open h n hidx, fun _ hm => snd_eq_of_fst_nodup hr.handles_nodup hm
    (hr.index_open h n hidx)⟩

/-- After `confirmThenRemove` the stale entry `0 ↦ 0` still names the PLC's open
subscription. -/
theorem stale_entry_names_subscription :
    Reachable freshIds (State.init.run confirmThenRemove) ∧
      (State.init.run confirmThenRemove).handleToNotification 0 = some 0 ∧
      (0, 0) ∈ (State.init.run confirmThenRemove).subscriptions ∧
      ∀ m, (0, m) ∈ (State.init.run confirmThenRemove).subscriptions → m = 0 :=
  have hs : Reachable freshIds (State.init.run confirmThenRemove) :=
    Reachable.init.run (by decide)
  ⟨hs, by decide, index_names_subscription hs (by decide)⟩

/-! ### Every subscribe is confirmed -/

/-- Where the subscribe of notification `n` sent under id `i` stands: its
`_response_handler` is under `i`, and its add frame is with the PLC, or a `NOERR`
answer under `i` waits in the inbound queue, or the notification holds a handle. -/
def Confirming (s : State) (n i : Nat) : Prop :=
  .responseHandler n ∈ s.responseHandlers i ∧
    ((i, .addNotification n) ∈ s.outbox ∨ (∃ x : Item, (i, x) ∈ s.inbound ∧ x.result = NOERR) ∨
      (s.notifications n).handle ≠ none)

namespace Confirming

variable {s : State} {n i : Nat}

/-- A subscribe the executor has just run has its token. -/
theorem runJob {j : Nat} (hj : s.pending[j]? = some (.subscribe n)) :
    Confirming (s.runJob j i) n i := by
  simp only [State.runJob, hj]
  refine ⟨?_, .inl ?_⟩
  · rw [send_responseHandlers, if_pos rfl]
    exact List.mem_append_right _ (List.mem_singleton_self _)
  · rw [send_outbox]
    exact List.mem_append_right _ (List.mem_singleton_self _)

/-- The PLC answers the add frame `NOERR`, or serves another frame. -/
theorem serve (h : Confirming s n i) (idx : Nat) (reply : Item) :
    Confirming (s.serve idx reply) n i := by
  obtain ⟨hreg, hc⟩ := h
  cases hf : s.outbox[idx]? with
  | none => rw [serve_none _ _ hf]; exact ⟨hreg, hc⟩
  | some f =>
    by_cases hfi : f = (i, .addNotification n)
    · subst hfi
      rw [serve_add s hf]
      exact ⟨hreg, .inr (.inl ⟨_, List.mem_append_right _ (List.mem_singleton_self _), rfl⟩)⟩
    · obtain ⟨j, r⟩ := f
      obtain ⟨h₁, -, -, h₄, a, h₅, -⟩ := s.serve_some reply hf
      refine ⟨h₁ ▸ hreg, ?_⟩
      rw [serve_notifications, h₄, h₅]
      rcases hc with ho | ⟨x, hx, hr⟩ | hh
      · exact .inl ((List.mem_cons.1 ((perm_cons_eraseIdx hf).mem_iff.1 ho)).resolve_left
          (Ne.symm hfi))
      · exact .inr (.inl ⟨x, List.mem_append_left _ hx, hr⟩)
      · exact .inr (.inr hh)

/-- The read loop dispatches the `NOERR` answer, which sets the handle, or another
frame, which leaves a set handle set. -/
theorem dispatch (h : Confirming s n i) : Confirming s.dispatch n i := by
  obtain ⟨hreg, hc⟩ := h
  cases hin : s.inbound with
  | nil => rw [dispatch_nil _ hin]; exact ⟨hreg, hc⟩
  | cons f rest =>
    obtain ⟨j, y⟩ := f
    obtain ⟨h₁, h₂, h₃, -⟩ := s.dispatch_cons hin
    refine ⟨h₃ ▸ hreg, ?_⟩
    rw [h₁, h₂, dispatch_handle s hin]
    rcases hc with ho | ⟨x, hx, hr⟩ | hh
    · exact .inl ho
    · rw [hin] at hx
      rcases List.mem_cons.1 hx with he | hx
      · obtain ⟨rfl, rfl⟩ := Prod.mk.inj he
        exact .inr (.inr (by rw [if_pos ⟨hreg, hr⟩]; exact Option.some_ne_none _))
      · exact .inr (.inl ⟨x, hx, hr⟩)
    · refine .inr (.inr ?_)
      split_ifs
      · exact Option.some_ne_none _
      · exact hh

end Confirming

/-- The executor runs the `j`-th pending job under id `i`; then the PLC serves and the
read loop dispatches (`flush`). -/
def State.confirm (s : State) (j i : Nat) (reply : Item) : List Event :=
  .runJob j i :: (s.runJob j i).flush reply

/-- **Every subscribe is confirmed.** In a run with fresh invoke ids, once the executor
runs a pending subscribe of notification `n` under a fresh id and the PLC serves what
was written (whatever it answers a query) and the read loop dispatches what arrived,
`n` holds a handle, which indexes `n` and names a subscription the PLC opened for it;
that continuation is itself a run with fresh ids. -/
theorem subscribe_confirmed {s : State} (hs : Reachable freshIds s) {j n i : Nat}
    (hj : s.pending[j]? = some (.subscribe n)) (hi : i ∉ s.seen) (reply : Item) :
    Reachable freshIds (s.run (s.confirm j i reply)) ∧
      ∃ h, ((s.run (s.confirm j i reply)).notifications n).handle = some h ∧
        (s.run (s.confirm j i reply)).handleToNotification h = some n ∧
        (h, n) ∈ (s.run (s.confirm j i reply)).subscriptions := by
  have hreach : Reachable freshIds (s.run (s.confirm j i reply)) :=
    hs.run ⟨decide_eq_true hi, admitted_flush _ _ reply⟩
  have hrun : s.run (s.confirm j i reply) = (s.runJob j i).run ((s.runJob j i).flush reply) :=
    rfl
  obtain ⟨o, e, -⟩ := flush_run (s.runJob j i) reply
  obtain ⟨-, hc⟩ := flush_preserves (P := fun t => Confirming t n i) (fun _ j r ht => ht.serve j r)
    (fun _ ht => ht.dispatch) reply (Confirming.runJob hj)
  rw [hrun] at hreach ⊢
  rcases hc with ho | ⟨x, hx, -⟩ | hh
  · rw [o] at ho; cases ho
  · rw [e] at hx; cases hx
  · obtain ⟨h, hh⟩ := Option.ne_none_iff_exists'.1 hh
    have hr := routed_reachable hreach
    exact ⟨hreach, h, hh, hr.routed n h hh, hr.index_open h n (hr.routed n h hh)⟩

/-- The subscribe `add_callback` submits for a first callback is confirmed. -/
theorem first_callback_confirmed :
    Reachable freshIds (State.init.run [.addCallback 0 7]) ∧
      (State.init.run [.addCallback 0 7]).pending[0]? = some (.subscribe 0) ∧
      1 ∉ (State.init.run [.addCallback 0 7]).seen ∧
      Reachable freshIds ((State.init.run [.addCallback 0 7]).run
        ((State.init.run [.addCallback 0 7]).confirm 0 1 ⟨0, 0, []⟩)) ∧
      ∃ h, (((State.init.run [.addCallback 0 7]).run
          ((State.init.run [.addCallback 0 7]).confirm 0 1 ⟨0, 0, []⟩)).notifications 0).handle =
          some h ∧
        ((State.init.run [.addCallback 0 7]).run
          ((State.init.run [.addCallback 0 7]).confirm 0 1 ⟨0, 0, []⟩)).handleToNotification h =
          some 0 ∧
        (h, 0) ∈ ((State.init.run [.addCallback 0 7]).run
          ((State.init.run [.addCallback 0 7]).confirm 0 1 ⟨0, 0, []⟩)).subscriptions :=
  have hs : Reachable freshIds (State.init.run [.addCallback 0 7]) :=
    Reachable.init.run (by decide)
  ⟨hs, rfl, by decide, subscribe_confirmed hs (j := 0) (n := 0) (i := 1) rfl (by decide) _⟩

/-! ### No subscribe job is lost or duplicated -/

theorem count_eraseIdx {α : Type} [DecidableEq α] {l : List α} {j : Nat} {a : α}
    (hj : l[j]? = some a) (b : α) :
    l.count b = (l.eraseIdx j).count b + if a = b then 1 else 0 := by
  simp [(perm_cons_eraseIdx hj).count_eq, List.count_cons]

/-- The handlers leave the executor and the PLC alone. -/
theorem State.invokeAll_executor (s : State) (i : Nat) (x : Item) (hs : List Handler) :
    (s.invokeAll i x hs).pending = s.pending ∧ (s.invokeAll i x hs).submitted = s.submitted ∧
      (s.invokeAll i x hs).subscriptions = s.subscriptions := by
  induction hs generalizing s with
  | nil => exact ⟨rfl, rfl, rfl⟩
  | cons g gs ih =>
    obtain ⟨h₁, h₂, h₃⟩ := ih (s.invoke i x g)
    cases g <;> exact ⟨h₁, h₂, h₃⟩

theorem State.dispatch_executor (s : State) :
    s.dispatch.pending = s.pending ∧ s.dispatch.submitted = s.submitted ∧
      s.dispatch.subscriptions = s.subscriptions := by
  unfold State.dispatch
  split
  · exact ⟨rfl, rfl, rfl⟩
  · exact State.invokeAll_executor _ _ _ _

/-- Where the subscribe jobs of every notification are: each one ever submitted is, in
exactly one copy, waiting in the executor, an add frame with the PLC, or a
subscription the PLC holds. -/
structure Accounted (s : State) : Prop where
  no_remove : ∀ f ∈ s.outbox, f.2.isRemove = false
  jobs : ∀ n, s.submitted.count (.subscribe n) =
    s.pending.count (.subscribe n) + s.outbox.countP (fun f => f.2 = .addNotification n) +
      s.openSubscriptions n

namespace Accounted

variable {s t : State}

theorem init : Accounted State.init :=
  ⟨by simp [State.init], fun n => by simp [State.init, State.openSubscriptions]⟩

/-- An event that submits `jobs` to the executor and leaves the outbox and the PLC. -/
theorem submit (h : Accounted s) (jobs : List Job) (h₁ : t.pending = s.pending ++ jobs)
    (h₂ : t.submitted = s.submitted ++ jobs) (h₃ : t.outbox = s.outbox)
    (h₄ : t.subscriptions = s.subscriptions) : Accounted t := by
  refine ⟨h₃ ▸ h.no_remove, fun n => ?_⟩
  have := h.jobs n
  simp only [State.openSubscriptions, h₁, h₂, h₃, h₄, List.count_append] at this ⊢
  omega

theorem congr (h : Accounted s) (h₁ : t.pending = s.pending) (h₂ : t.submitted = s.submitted)
    (h₃ : t.outbox = s.outbox) (h₄ : t.subscriptions = s.subscriptions) : Accounted t :=
  h.submit [] (by rw [h₁, List.append_nil]) (by rw [h₂, List.append_nil]) h₃ h₄

/-- The executor runs a job: a subscribe job becomes its add frame. -/
theorem runJob (h : Accounted s) (j i : Nat) : Accounted (s.runJob j i) := by
  cases hj : s.pending[j]? with
  | none => simpa only [State.runJob, hj] using h
  | some job =>
    have hcount := fun n => count_eraseIdx hj (.subscribe n)
    cases job with
    | subscribe m =>
      simp only [State.runJob, hj]
      refine ⟨no_remove_send _ i (r := .addNotification m) rfl _ h.no_remove, fun n => ?_⟩
      have h₁ := h.jobs n
      have h₂ := hcount n
      simp only [State.send, State.openSubscriptions] at h₁ ⊢
      by_cases hmn : m = n <;> simp [hmn] at h₁ h₂ ⊢ <;> omega
    | callback =>
      simp only [State.runJob, hj]
      refine ⟨h.no_remove, fun n => ?_⟩
      have h₁ := h.jobs n
      have h₂ := hcount n
      simp only [reduceCtorEq, if_false, Nat.add_zero] at h₂
      simp only [State.openSubscriptions] at h₁ ⊢
      omega

theorem writeAndRead (h : Accounted s) (k i : Nat) : Accounted (s.writeAndRead k i) := by
  unfold State.writeAndRead
  split_ifs
  · exact ⟨no_remove_send s i (r := .query k) rfl (some (.gotResponse k)) h.no_remove,
      fun n => by simpa [State.setCall, State.send, State.openSubscriptions] using h.jobs n⟩
  · exact h

/-- The PLC serves any frame: an add frame becomes a subscription. -/
theorem serve (h : Accounted s) (idx : Nat) (reply : Item) : Accounted (s.serve idx reply) := by
  cases hf : s.outbox[idx]? with
  | none => rwa [serve_none _ _ hf]
  | some f =>
    obtain ⟨j, r⟩ := f
    have hrest : ∀ f ∈ s.outbox.eraseIdx idx, f ∈ s.outbox :=
      fun _ => List.mem_of_mem_eraseIdx
    have hjobs := fun n => (h.jobs n).trans
      (by rw [(perm_cons_eraseIdx hf).countP_eq, List.countP_cons])
    cases r with
    | query k =>
      rw [serve_query s hf]
      refine ⟨fun f hf => h.no_remove f (hrest f hf), fun n => ?_⟩
      have := hjobs n
      simp only [reduceCtorEq, decide_False, Bool.false_eq_true, if_false, Nat.add_zero] at this
      exact this
    | addNotification m =>
      rw [serve_add s hf]
      refine ⟨fun f hf => h.no_remove f (hrest f hf), fun n => ?_⟩
      have := hjobs n
      simp only [State.openSubscriptions] at this ⊢
      by_cases hmn : m = n <;> simp [hmn] at this ⊢ <;> omega
    | removeNotification _ => cases h.no_remove _ (List.getElem?_mem hf)

/-- **Every event keeps the books, under any peer.** -/
theorem step (h : Accounted s) (e : Event) : Accounted (s.step e) := by
  cases e with
  | addCallback n f => exact h.submit _ rfl rfl rfl rfl
  | removeCallback n t i =>
    show Accounted (s.removeCallback n t i)
    rw [removeCallback_eq]; exact h.congr rfl rfl rfl rfl
  | process n x => exact h.submit _ rfl rfl rfl rfl
  | runJob j i => exact h.runJob j i
  | writeAndRead k i => exact h.writeAndRead k i
  | drained k =>
    show Accounted (s.drained k)
    unfold State.drained; split_ifs
    · exact h.congr rfl rfl rfl rfl
    · exact h
  | wake k =>
    show Accounted (s.wake k)
    unfold State.wake; split_ifs
    · exact h.congr rfl rfl rfl rfl
    · exact h
  | serve j reply => exact h.serve j reply
  | inject i x => exact h.congr rfl rfl rfl rfl
  | dispatch =>
    obtain ⟨h₁, h₂, h₃⟩ := s.dispatch_executor
    exact h.congr h₁ h₂ (dispatch_outbox s) h₃

end Accounted

/-- **No subscribe job is lost or duplicated.** In every run, under any peer and any
scheduling, the subscribe jobs ever submitted for notification `n` are, one for one,
those waiting in the executor, the add frames of `n` the PLC has not processed, and the
subscriptions the PLC holds for `n`. So once `n` is settled, the PLC holds exactly one
subscription per subscribe job `add_callback` ever submitted for it. -/
theorem subscribe_jobs_accounted {admits : State → Event → Bool} {s : State}
    (hs : Reachable admits s) (n : Nat) :
    s.submitted.count (.subscribe n) =
      s.pending.count (.subscribe n) + s.outbox.countP (fun f => f.2 = .addNotification n) +
        s.openSubscriptions n := by
  have h : Accounted s := by
    induction hs with
    | init => exact .init
    | step _ _ ih => exact ih.step _
  exact h.jobs n

/-- After `resubscribe` both subscribe jobs of notification 0 are PLC subscriptions. -/
theorem resubscribe_jobs_accounted :
    Reachable anyPeer (State.init.run resubscribe) ∧
      (State.init.run resubscribe).submitted.count (.subscribe 0) =
        (State.init.run resubscribe).pending.count (.subscribe 0) +
          (State.init.run resubscribe).outbox.countP (fun f => f.2 = .addNotification 0) +
          (State.init.run resubscribe).openSubscriptions 0 :=
  have hs : Reachable anyPeer (State.init.run resubscribe) := Reachable.init.run (by decide)
  ⟨hs, subscribe_jobs_accounted hs 0⟩

end AdsAsync.Client
