import AdsAsync.Client.Requests

/-!
# Subscriptions

How a `Notification`'s callback set, its `handle`, the client's
`handle_to_notification` and the PLC's subscriptions move together.

The spec (§3) asks that the PLC hold a subscription exactly while the callback set
is non-empty, and that `handle` be `None` while there is none. The code misses both:

* `_unsubscribe` tests `self.handle` after setting it to `None`
  (`Notification.unsubscribe_snd`), so no remove-notification frame is ever written
  and the PLC's subscriptions are never closed (`remove_never_sent`);
* nothing cancels a subscribe whose confirmation is still to come, so a callback
  set that empties before the confirmation gets a handle afterwards, and one that
  empties and fills again subscribes twice.

`subscription_outlives_callbacks` and `index_keeps_stale_handles` exhibit these on
runs of the client with fresh invoke ids.
-/

namespace AdsAsync.Client

/-- A remove-notification request. -/
def Request.isRemove : Request → Bool
  | .removeNotification _ => true
  | _ => false

namespace State

/-- Nothing of notification `n`'s subscription is in flight: no `subscribe` job
waits in the executor, the PLC has no add or remove frame of it left to process,
and no answer to one of its sends waits to be dispatched. -/
def Settled (s : State) (n : Nat) : Prop :=
  Job.subscribe n ∉ s.pending ∧
    (∀ f ∈ s.outbox, f.2 ≠ .addNotification n ∧ f.2.isRemove = false) ∧
    ∀ f ∈ s.inbound, Handler.responseHandler n ∉ s.responseHandlers f.1

instance (s : State) (n : Nat) : Decidable (s.Settled n) :=
  inferInstanceAs (Decidable (_ ∧ _ ∧ _))

/-- How many of the PLC's open subscriptions notification `n`'s command opened. -/
def openSubscriptions (s : State) (n : Nat) : Nat :=
  (s.subscriptions.filter fun sub => sub.2 = n).length

end State

/-! ### No subscription is ever closed -/

/-- A frame in the outbox after a step was there before, or is the one frame the step
wrote: a subscribe or a `write_and_read` query. `remove_callback` writes none: the
handle it would pass on is always `None` (`Notification.removeCallback_snd`). -/
theorem mem_step_outbox {s : State} {e : Event} {f : Nat × Request}
    (hf : f ∈ (s.step e).outbox) :
    f ∈ s.outbox ∨ (∃ n, f.2 = .addNotification n) ∨ ∃ k, f.2 = .query k := by
  cases e with
  | runJob j i =>
    simp only [State.step, State.runJob] at hf
    split at hf
    · exact .inl hf
    · rename_i job _
      cases job with
      | subscribe n => exact (State.mem_send_outbox _ hf).imp_right fun h => .inl ⟨n, h⟩
      | callback => exact .inl hf
  | writeAndRead k i =>
    simp only [State.step, State.writeAndRead] at hf
    split_ifs at hf
    · rw [State.setCall_outbox] at hf
      exact (State.mem_send_outbox _ hf).imp_right fun h => .inr ⟨k, h⟩
    · exact .inl hf
  | drained k => simp only [State.step, State.drained] at hf; split_ifs at hf <;> exact .inl hf
  | wake k => simp only [State.step, State.wake] at hf; split_ifs at hf <;> exact .inl hf
  | removeCallback n t i => rw [State.step, State.removeCallback_eq] at hf; exact .inl hf
  | serve j reply =>
    cases hj : s.outbox[j]? with
    | none => rw [State.step, State.serve_none _ _ hj] at hf; exact .inl hf
    | some g =>
      obtain ⟨i, req⟩ := g
      rw [State.step, (State.serve_some s reply hj).2.2.2.1] at hf
      exact .inl (List.mem_of_mem_eraseIdx hf)
  | dispatch => rw [State.step, State.dispatch_outbox] at hf; exact .inl hf
  | _ => exact .inl hf

/-- The client writes no remove-notification frame, in any run. -/
theorem remove_never_sent {admits : State → Event → Bool} {s : State}
    (hs : Reachable admits s) : ∀ f ∈ s.outbox, f.2.isRemove = false := by
  induction hs with
  | init => simp [State.init]
  | step _ _ ih =>
    intro f hf
    rcases mem_step_outbox hf with hf | ⟨n, hn⟩ | ⟨k, hk⟩
    · exact ih f hf
    · rw [hn]; rfl
    · rw [hk]; rfl

/-- After a subscribe has run, the one frame waiting for the PLC adds the
notification. -/
theorem subscribe_frame_not_remove :
    ((State.init.run [.addCallback 0 7, .runJob 0 1]).outbox.all fun f => !f.2.isRemove) = true :=
  List.all_eq_true.mpr fun f hf => by
    simp [@remove_never_sent anyPeer _ (Reachable.init.run (by decide)) f hf]

/-! ### The invariant fails -/

/-- Notification 0 gets callback 7 and its subscribe runs; the PLC confirms, the
confirmation is dispatched, and the callback is removed. -/
def confirmThenRemove : List Event :=
  [.addCallback 0 7, .runJob 0 1, .serve 0 ⟨0, 0, []⟩, .dispatch, .removeCallback 0 0 2]

/-- As `confirmThenRemove`, with the callback removed before the PLC answers. -/
def removeThenConfirm : List Event :=
  [.addCallback 0 7, .runJob 0 1, .removeCallback 0 0 2, .serve 0 ⟨0, 0, []⟩, .dispatch]

/-- Callback 7 is added and removed before the confirmation, callback 8 is added, and
both subscribes are confirmed. -/
def resubscribe : List Event :=
  [.addCallback 0 7, .runJob 0 1, .removeCallback 0 0 2, .addCallback 0 8, .runJob 0 3,
    .serve 0 ⟨0, 0, []⟩, .serve 0 ⟨0, 0, []⟩, .dispatch, .dispatch]

/-- Three settled runs of one notification, each with fresh invoke ids, break the
subscription invariant: after `confirmThenRemove` the PLC keeps a subscription for a
notification with no callbacks; after `removeThenConfirm` that notification also
holds a handle; after `resubscribe` one callback is served by two subscriptions. -/
theorem subscription_outlives_callbacks :
    (Reachable freshIds (State.init.run confirmThenRemove) ∧
      (State.init.run confirmThenRemove).Settled 0 ∧
      ((State.init.run confirmThenRemove).notifications 0).callbacks = [] ∧
      (State.init.run confirmThenRemove).openSubscriptions 0 = 1) ∧
    (Reachable freshIds (State.init.run removeThenConfirm) ∧
      (State.init.run removeThenConfirm).Settled 0 ∧
      ((State.init.run removeThenConfirm).notifications 0).callbacks = [] ∧
      ((State.init.run removeThenConfirm).notifications 0).handle = some 0 ∧
      (State.init.run removeThenConfirm).openSubscriptions 0 = 1) ∧
    (Reachable freshIds (State.init.run resubscribe) ∧
      (State.init.run resubscribe).Settled 0 ∧
      ((State.init.run resubscribe).notifications 0).callbacks = [(1, 8)] ∧
      (State.init.run resubscribe).openSubscriptions 0 = 2) :=
  ⟨⟨Reachable.init.run (by decide), by decide, by decide, by decide⟩,
    ⟨Reachable.init.run (by decide), by decide, by decide, by decide, by decide⟩,
    ⟨Reachable.init.run (by decide), by decide, by decide, by decide⟩⟩

/-- `handle_to_notification` keeps entries the notification no longer holds: after
`confirmThenRemove` handle 0 still routes to notification 0, whose handle is
`None`; after `resubscribe` both handles route to it while it holds only the second. -/
theorem index_keeps_stale_handles :
    (Reachable freshIds (State.init.run confirmThenRemove) ∧
      (State.init.run confirmThenRemove).handleToNotification 0 = some 0 ∧
      ((State.init.run confirmThenRemove).notifications 0).handle = none) ∧
    (Reachable freshIds (State.init.run resubscribe) ∧
      (State.init.run resubscribe).handleToNotification 0 = some 0 ∧
      (State.init.run resubscribe).handleToNotification 1 = some 0 ∧
      ((State.init.run resubscribe).notifications 0).handle = some 1) :=
  ⟨⟨Reachable.init.run (by decide), by decide, by decide⟩,
    ⟨Reachable.init.run (by decide), by decide, by decide, by decide⟩⟩

end AdsAsync.Client
