import Mathlib.Logic.Function.Basic

/-!
# Notifications

`Notification` (`asyncio/client.py`) fans one server-side subscription out to the
user callbacks registered on it. Its state is the part it inherits from
`utils.CallbackHandler` (the token-keyed callbacks and the next token), the
subscription `handle`, and the cached `most_recent_notification`. Each method is a
pure function returning the new state and what it hands on: the jobs submitted to
the user callback executor, or the client's updated `handle_to_notification`.

`utils` is not among the sources; the few `CallbackHandler` operations the methods
call through `super()` are modelled from the spec (§4.3): a token-keyed set of
callbacks, deregistered by token, fanned out in registration order.

* `unsubscribe_snd` — `_unsubscribe` tests `self.handle` after clearing it, so it
  never reaches its `owner.remove_notification(handle)` call.
* `removeCallback_handle` — removing the last callback always leaves `handle`
  empty, whatever was pending.
* `clear` — `remove_callback` for every token it lists; what it leaves is stated over
  runs in `AdsAsync.Client.Fanout` (`clear_silences`).
-/

namespace AdsAsync.Client

/-- Modelled from the spec: `AdsError.NOERR`, the "no error" result code of the
constants table, which is not among the sources. -/
def NOERR : Nat := 0

/-- A decoded inbound item, with the fields the client's handlers read: the result
code, the `handle` of a handle response, and the rest of the payload. -/
structure Item where
  result : Nat
  handle : Nat
  data : List Nat
deriving DecidableEq, Repr

/-- The keyword arguments `process` builds and caches as
`most_recent_notification`. -/
structure Sample where
  header : Nat
  timestamp : Nat
  sample : Nat
deriving DecidableEq, Repr

/-- A call submitted to the user callback executor: the `subscribe` coroutine of
`_subscribe`, or a user callback `func(self, **notification)`. Notifications and
callbacks are named by number. -/
inductive Job where
  | subscribe (notif : Nat)
  | callback (notif func : Nat) (sample : Sample)
deriving DecidableEq, Repr

/-- The state of one `Notification`. `callbacks` lists `(token, func)` in
registration order; `callbackId` is the next token `CallbackHandler` hands out. -/
structure Notification where
  callbacks : List (Nat × Nat)
  callbackId : Nat
  handle : Option Nat
  mostRecentNotification : Option Sample
deriving DecidableEq, Repr

namespace Notification

/-- `Notification.__init__`: no callbacks, `handle=None`, nothing cached. -/
def init : Notification := ⟨[], 0, none, none⟩

/-- Modelled from the spec: `CallbackHandler.add_callback`, which stores `func`
under a fresh token and returns the token. -/
def registerCallback (n : Notification) (func : Nat) : Notification × Nat :=
  ({ n with callbacks := n.callbacks ++ [(n.callbackId, func)],
            callbackId := n.callbackId + 1 }, n.callbackId)

/-- Modelled from the spec: `CallbackHandler.remove_callback`, which deregisters
the callback stored under `token`, if any. -/
def deregisterCallback (n : Notification) (token : Nat) : Notification :=
  { n with callbacks := n.callbacks.filter fun cb => cb.1 ≠ token }

/-- `Notification.add_callback(func)` on the notification numbered `self`: the new
state, the jobs submitted to the executor, and the token. The first callback
subscribes; a later one is sent the cached sample, if there is one. -/
def addCallback (n : Notification) (self func : Nat) : Notification × List Job × Nat :=
  let wasEmpty := decide (n.callbacks = [])
  let registered := n.registerCallback func
  let mostRecentNotification := registered.1.mostRecentNotification
  let jobs : List Job :=
    if wasEmpty then [.subscribe self]
    else match mostRecentNotification with
      | some m => [.callback self func m]
      | none => []
  (registered.1, jobs, registered.2)

/-- `Notification._unsubscribe`: the new state and the handle it would pass to
`owner.remove_notification`, were that call reached. The guard reads `self.handle`
after it has been cleared. (`AsyncioClient` defines no `remove_notification`.) -/
def unsubscribe (n : Notification) : Notification × Option Nat :=
  match n.handle with
  | none => (n, none)
  | some handle =>
    let cleared := { n with handle := none, mostRecentNotification := none }
    (cleared, if cleared.handle.isSome then some handle else none)

/-- `Notification.remove_callback(token)`: deregister, and go dormant when no
callback is left. The second component is what `_unsubscribe` would remove. -/
def removeCallback (n : Notification) (token : Nat) : Notification × Option Nat :=
  let remaining := n.deregisterCallback token
  if remaining.callbacks = [] then
    let dormant := remaining.unsubscribe
    ({ dormant.1 with mostRecentNotification := none }, dormant.2)
  else (remaining, none)

/-- `Notification._response_handler` on the notification numbered `self`, with the
client's `handle_to_notification`: a `NOERR` response sets the handle and indexes
the notification under it. -/
def responseHandler (n : Notification) (self : Nat) (index : Nat → Option Nat)
    (response : Item) : Notification × (Nat → Option Nat) :=
  if response.result = NOERR then
    ({ n with handle := some response.handle },
      Function.update index response.handle (some self))
  else (n, index)

/-- `Notification.process`: the `CallbackHandler.process` fan-out (modelled from the
spec) submits every registered callback with the sample, then the sample is
cached. -/
def process (n : Notification) (self : Nat) (sample : Sample) : Notification × List Job :=
  ({ n with mostRecentNotification := some sample },
    n.callbacks.map fun cb => .callback self cb.2 sample)

/-- `Notification.clear()`: `remove_callback(cb_id)` for every token of
`list(self.callbacks)`, the list taken before the first removal. -/
def clear (n : Notification) : Notification :=
  n.callbacks.foldl (fun m cb => (m.removeCallback cb.1).1) n

/-! ### Field lemmas -/

@[simp] theorem unsubscribe_snd (n : Notification) : n.unsubscribe.2 = none := by
  unfold unsubscribe; split <;> rfl

@[simp] theorem unsubscribe_handle (n : Notification) : n.unsubscribe.1.handle = none := by
  unfold unsubscribe; split <;> simp_all

@[simp] theorem unsubscribe_callbacks (n : Notification) :
    n.unsubscribe.1.callbacks = n.callbacks := by
  unfold unsubscribe; split <;> rfl

@[simp] theorem unsubscribe_callbackId (n : Notification) :
    n.unsubscribe.1.callbackId = n.callbackId := by
  unfold unsubscribe; split <;> rfl

@[simp] theorem addCallback_callbacks (n : Notification) (self func : Nat) :
    (n.addCallback self func).1.callbacks = n.callbacks ++ [(n.callbackId, func)] := rfl

@[simp] theorem addCallback_handle (n : Notification) (self func : Nat) :
    (n.addCallback self func).1.handle = n.handle := rfl

@[simp] theorem addCallback_mostRecentNotification (n : Notification) (self func : Nat) :
    (n.addCallback self func).1.mostRecentNotification = n.mostRecentNotification := rfl

/-- `add_callback` subscribes exactly when the callback set was empty. -/
theorem addCallback_jobs (n : Notification) (self func : Nat) :
    (n.addCallback self func).2.1 =
      if n.callbacks = [] then [.subscribe self]
      else match n.mostRecentNotification with
        | some m => [.callback self func m]
        | none => [] := by
  by_cases h : n.callbacks = [] <;> simp [addCallback, registerCallback, h]

@[simp] theorem removeCallback_snd (n : Notification) (token : Nat) :
    (n.removeCallback token).2 = none := by
  simp only [removeCallback]; split <;> simp

@[simp] theorem removeCallback_callbacks (n : Notification) (token : Nat) :
    (n.removeCallback token).1.callbacks = (n.deregisterCallback token).callbacks := by
  simp only [removeCallback]; split <;> simp

/-- Going dormant clears the handle, whether or not the confirmation came. -/
theorem removeCallback_handle (n : Notification) (token : Nat) :
    (n.removeCallback token).1.handle =
      if (n.deregisterCallback token).callbacks = [] then none else n.handle := by
  simp only [removeCallback]; split <;> simp [deregisterCallback]

@[simp] theorem removeCallback_callbackId (n : Notification) (token : Nat) :
    (n.removeCallback token).1.callbackId = n.callbackId := by
  simp only [removeCallback]; split <;> simp [deregisterCallback]

/-- Going dormant drops the cached sample and the handle. -/
theorem removeCallback_dormant {n : Notification} {token : Nat}
    (h : (n.removeCallback token).1.callbacks = []) :
    (n.removeCallback token).1.handle = none ∧
      (n.removeCallback token).1.mostRecentNotification = none := by
  rw [removeCallback_callbacks] at h
  simp only [removeCallback, if_pos h, unsubscribe_handle, and_self]

/-! `clear` removes the callbacks it listed one after another. -/

theorem foldl_removeCallback_callbacks (ts : List (Nat × Nat)) (n : Notification) :
    (ts.foldl (fun m cb => (m.removeCallback cb.1).1) n).callbacks =
      n.callbacks.filter fun cb => cb.1 ∉ ts.map Prod.fst := by
  induction ts generalizing n with
  | nil => exact (List.filter_eq_self.2 fun _ _ => rfl).symm
  | cons t ts ih =>
    rw [List.foldl_cons, ih, removeCallback_callbacks, deregisterCallback, List.filter_filter]
    exact List.filter_congr fun cb _ => by by_cases h : cb.1 = t.1 <;> simp [h, and_comm]

theorem foldl_removeCallback_callbackId (ts : List (Nat × Nat)) (n : Notification) :
    (ts.foldl (fun m cb => (m.removeCallback cb.1).1) n).callbackId = n.callbackId := by
  induction ts generalizing n with
  | nil => rfl
  | cons t ts ih => rw [List.foldl_cons, ih, removeCallback_callbackId]

/-- Removals that end with no callback end dormant. -/
theorem foldl_removeCallback_dormant (ts : List (Nat × Nat)) (hts : ts ≠ []) (n : Notification)
    (h : (ts.foldl (fun m cb => (m.removeCallback cb.1).1) n).callbacks = []) :
    (ts.foldl (fun m cb => (m.removeCallback cb.1).1) n).handle = none ∧
      (ts.foldl (fun m cb => (m.removeCallback cb.1).1) n).mostRecentNotification = none := by
  induction ts generalizing n with
  | nil => exact absurd rfl hts
  | cons t ts ih =>
    rw [List.foldl_cons] at h ⊢
    rcases ts with _ | ⟨t', ts⟩
    · exact removeCallback_dormant h
    · exact ih (List.cons_ne_nil _ _) _ h

@[simp] theorem responseHandler_callbacks (n : Notification) (self : Nat)
    (index : Nat → Option Nat) (response : Item) :
    (n.responseHandler self index response).1.callbacks = n.callbacks := by
  unfold responseHandler; split <;> rfl

end Notification

end AdsAsync.Client
