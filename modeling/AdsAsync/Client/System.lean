import AdsAsync.Client.Notification

/-!
# The client's event loop

One `AsyncioClient` (`asyncio/client.py`) with its `Notification`s, its
`write_and_read` calls, the user callback executor and the PLC at the other end of
the socket, as one state and a step function over labelled events. Coroutines only
interleave at their `await`s, so every event runs one coroutine from one suspension
point to the next:

* `send` registers the response handler and writes the frame in one event; it is
  then suspended in `writer.drain()` (`Phase.sending` for a `write_and_read` call).
* `_handle_command` runs in one event: its handlers (`got_response`,
  `_response_handler`) never suspend, so the read loop dispatches a whole frame
  before anything else runs. Here nothing raises; `AdsAsync.Client.ReadLoop` lets
  every call in it raise, and is this model where none does.
* The executor runs any submitted job at any later time, in any order.
* The PLC answers the requests written to it in any order: an add-notification
  request opens a subscription under a fresh handle and is answered `NOERR` with it,
  a remove-notification request closes one, and any other request gets whatever
  answer the event carries. `inject` puts any other frame on the socket.

Invoke ids come from the protocol collaborator's `request_to_wire`, which is not
among the sources: each event that sends carries the id it returned. The logs
`answered`, `log` and `submitted` are ghost state: the code keeps no such
record; they name what happened so that the properties can speak of it.

The socket is taken as connected: `send` writes on `self.writer`, which exists only
after the supervisor's first connection (`AdsAsync.Client.Supervisor`).
-/

namespace AdsAsync.Client

/-- The coroutine functions `send` registers as response handlers: the
`got_response` of the `call`-th `write_and_read`, and a notification's
`_response_handler`. -/
inductive Handler where
  | gotResponse (call : Nat)
  | responseHandler (notif : Nat)
deriving DecidableEq, Repr

/-- What a frame written by `send` asks of the PLC: the item of a `write_and_read`
call, or a notification's add command, or a remove-notification command. -/
inductive Request where
  | query (call : Nat)
  | addNotification (notif : Nat)
  | removeNotification (handle : Nat)
deriving DecidableEq, Repr

/-- Where a `write_and_read` call stands: not called yet, suspended in
`writer.drain()` inside `send`, suspended in `req.wait()`, or finished. -/
inductive Phase where
  | idle
  | sending
  | waiting
  | returned (response : Option Item)
  | raised
deriving DecidableEq, Repr

/-- One `write_and_read` call and its `_BlockingRequest`: `header`, `response` and
`_event` as `got_response` sets them. `invokeId` is the id `send` returned, which
`__aenter__` discards: ghost state. -/
structure Call where
  phase : Phase
  invokeId : Option Nat
  header : Option Nat
  response : Option Item
  event : Bool
deriving DecidableEq, Repr

namespace Call

/-- A call not yet made, with `_BlockingRequest.__init__`'s empty fields. -/
def init : Call := ⟨.idle, none, none, none, false⟩

/-- `_BlockingRequest.got_response(header, response)`; the header is named by its
invoke id, the one field of it the client reads. -/
def gotResponse (req : Call) (header : Nat) (response : Item) : Call :=
  { req with header := some header, response := some response, event := true }

/-- The end of `write_and_read` once `req.wait()` returns:
`result = getattr(req, 'result', None)`, raise `FailureResponse` on a result other
than `NOERR`, else return `req.response`. `_BlockingRequest` sets no `result`
attribute (the result code is a field of `req.response`), so `getattr` gives its
default. -/
def finish (req : Call) : Phase :=
  let result : Option Nat := none
  match result with
  | some code => if code ≠ NOERR then .raised else .returned req.response
  | none => .returned req.response

/-- The same step as the spec states it (§4.2, §8): fail on the response's own
result code. For comparison with `finish` only. -/
def finishSpec (req : Call) : Phase :=
  match req.response with
  | some r => if r.result ≠ NOERR then .raised else .returned req.response
  | none => .returned req.response

end Call

/-- What the ghost log records, in order: each `send` with the invoke id and the
handler it registered, and each frame `_handle_command` dispatched. -/
inductive Obs where
  | send (invokeId : Nat) (handler : Option Handler)
  | dispatch (invokeId : Nat) (item : Item)
deriving DecidableEq, Repr

/-- The invoke id of a send. -/
def Obs.sentId : Obs → Option Nat
  | .send i _ => some i
  | .dispatch _ _ => none

/-- The invoke id of a dispatched frame. -/
def Obs.dispatchedId : Obs → Option Nat
  | .send _ _ => none
  | .dispatch i _ => some i

/-- The client, the executor and the PLC. -/
structure State where
  /-- `_response_handlers`, a `defaultdict(list)`. -/
  responseHandlers : Nat → List Handler
  notifications : Nat → Notification
  /-- The protocol client's `handle_to_notification`. -/
  handleToNotification : Nat → Option Nat
  /-- Jobs submitted to the user callback executor and not yet run. -/
  pending : List Job
  /-- Every job ever submitted, in order (ghost). -/
  submitted : List Job
  calls : Nat → Call
  /-- Frames the PLC has written and the read loop has not dispatched yet. -/
  inbound : List (Nat × Item)
  /-- Frames `send` has written and the PLC has not processed yet. -/
  outbox : List (Nat × Request)
  /-- The PLC's open subscriptions: handle and the notification whose command
  opened it. -/
  subscriptions : List (Nat × Nat)
  nextHandle : Nat
  /-- Every frame the PLC has written, in order (ghost). -/
  answered : List (Nat × Item)
  log : List Obs

namespace State

/-- A fresh client (`AsyncioClient.__init__`) and a PLC with no subscription. -/
def init : State where
  responseHandlers := fun _ => []
  notifications := fun _ => Notification.init
  handleToNotification := fun _ => none
  pending := []
  submitted := []
  calls := fun _ => Call.init
  inbound := []
  outbox := []
  subscriptions := []
  nextHandle := 0
  answered := []
  log := []

/-- The invoke ids of every send so far. -/
def issued (s : State) : List Nat := s.log.filterMap Obs.sentId

/-- Every invoke id sent or received so far. -/
def seen (s : State) : List Nat :=
  s.issued ++ s.log.filterMap Obs.dispatchedId ++ s.inbound.map Prod.fst

/-! ### The client's coroutines -/

/-- `AsyncioClient.send` up to `writer.drain()`: `request_to_wire` returned
`invokeId`; register the handler under it and write the frame. -/
def send (s : State) (invokeId : Nat) (request : Request) (handler : Option Handler) :
    State :=
  { s with
    responseHandlers := match handler with
      | some h => Function.update s.responseHandlers invokeId (s.responseHandlers invokeId ++ [h])
      | none => s.responseHandlers
    outbox := s.outbox ++ [(invokeId, request)]
    log := s.log ++ [.send invokeId handler] }

/-- Append to the ghost log. -/
def record (s : State) (o : Obs) : State := { s with log := s.log ++ [o] }

/-- Replace call `k`. -/
def setCall (s : State) (k : Nat) (c : Call) : State :=
  { s with calls := Function.update s.calls k c }

/-- One handler call in `_handle_command`'s loop. -/
def invoke (s : State) (invokeId : Nat) (item : Item) : Handler → State
  | .gotResponse k => s.setCall k ((s.calls k).gotResponse invokeId item)
  | .responseHandler n =>
    let handled := (s.notifications n).responseHandler n s.handleToNotification item
    { s with notifications := Function.update s.notifications n handled.1,
             handleToNotification := handled.2 }

/-- `_handle_command`'s loop over the handlers it looked up: await each in order. -/
def invokeAll (s : State) (invokeId : Nat) (item : Item) : List Handler → State
  | [] => s
  | h :: hs => (s.invoke invokeId item h).invokeAll invokeId item hs

/-- `AsyncioClient._handle_command(header, item)`: look the handlers up by invoke id,
run the protocol's generic `handle_command` (its failures are caught and logged, and
it touches none of this state), then await every handler in order. -/
def handleCommand (s : State) (invokeId : Nat) (item : Item) : State :=
  let handlers := s.responseHandlers invokeId
  (s.record (.dispatch invokeId item)).invokeAll invokeId item handlers

/-- The read loop dispatches the oldest frame received. -/
def dispatch (s : State) : State :=
  match s.inbound with
  | [] => s
  | (i, item) :: rest => { s with inbound := rest }.handleCommand i item

/-- `Notification.add_callback` on notification `n`. -/
def addCallback (s : State) (n func : Nat) : State :=
  let added := (s.notifications n).addCallback n func
  { s with notifications := Function.update s.notifications n added.1,
           pending := s.pending ++ added.2.1,
           submitted := s.submitted ++ added.2.1 }

/-- `Notification.remove_callback` on notification `n`: when `_unsubscribe` passes a
handle on, the remove-notification frame for it is written under the id
`request_to_wire` returned. (The handle it passes on is always `None`,
`removeCallback_snd`: the guard reads `self.handle` after clearing it.) -/
def removeCallback (s : State) (n token invokeId : Nat) : State :=
  let removed := (s.notifications n).removeCallback token
  let s' := { s with notifications := Function.update s.notifications n removed.1 }
  match removed.2 with
  | some handle => s'.send invokeId (.removeNotification handle) none
  | none => s'

/-- `Notification.process` on notification `n`, as the protocol's generic handler
calls it for a pushed sample. -/
def process (s : State) (n : Nat) (sample : Sample) : State :=
  let processed := (s.notifications n).process n sample
  { s with notifications := Function.update s.notifications n processed.1,
           pending := s.pending ++ processed.2,
           submitted := s.submitted ++ processed.2 }

/-- The executor runs the `index`-th pending job: a `subscribe` sends the
notification's command with its `_response_handler`; a user callback touches none
of this state (what it calls are events of their own). -/
def runJob (s : State) (index invokeId : Nat) : State :=
  match s.pending[index]? with
  | none => s
  | some job =>
    let s := { s with pending := s.pending.eraseIdx index }
    match job with
    | .subscribe n => s.send invokeId (.addNotification n) (some (.responseHandler n))
    | .callback _ _ _ => s

/-- `write_and_read` as call `k`: `__aenter__` sends the item with `got_response`. -/
def writeAndRead (s : State) (k invokeId : Nat) : State :=
  if (s.calls k).phase = .idle then
    (s.send invokeId (.query k) (some (.gotResponse k))).setCall k
      { s.calls k with phase := .sending, invokeId := some invokeId }
  else s

/-- Call `k`'s `writer.drain()` returns, and it waits on its event. -/
def drained (s : State) (k : Nat) : State :=
  if (s.calls k).phase = .sending then s.setCall k { s.calls k with phase := .waiting }
  else s

/-- Call `k`'s event is set and `write_and_read` finishes. -/
def wake (s : State) (k : Nat) : State :=
  if (s.calls k).phase = .waiting ∧ (s.calls k).event = true then
    s.setCall k { s.calls k with phase := (s.calls k).finish }
  else s

/-! ### The PLC -/

/-- The PLC's answer to one request; `reply` answers a `write_and_read` item. -/
def answer (s : State) (request : Request) (reply : Item) : State × Item :=
  match request with
  | .query _ => (s, reply)
  | .addNotification n =>
    ({ s with subscriptions := s.subscriptions ++ [(s.nextHandle, n)],
              nextHandle := s.nextHandle + 1 }, ⟨NOERR, s.nextHandle, []⟩)
  | .removeNotification h =>
    ({ s with subscriptions := s.subscriptions.filter fun sub => sub.1 ≠ h }, ⟨NOERR, h, []⟩)

/-- The PLC processes the `index`-th of the frames written to it and not processed
yet, any of them, and writes its answer back under the same invoke id. -/
def serve (s : State) (index : Nat) (reply : Item) : State :=
  match s.outbox[index]? with
  | none => s
  | some (i, request) =>
    let answered := { s with outbox := s.outbox.eraseIdx index }.answer request reply
    { answered.1 with inbound := answered.1.inbound ++ [(i, answered.2)],
                      answered := answered.1.answered ++ [(i, answered.2)] }

/-- Any other frame reaches the socket. -/
def inject (s : State) (invokeId : Nat) (item : Item) : State :=
  { s with inbound := s.inbound ++ [(invokeId, item)] }

end State

/-- The events: a user or task calling the API, the executor, the read loop, a
`write_and_read` call resuming, and the PLC. -/
inductive Event where
  | addCallback (notif func : Nat)
  | removeCallback (notif token invokeId : Nat)
  | process (notif : Nat) (sample : Sample)
  | runJob (index invokeId : Nat)
  | writeAndRead (call invokeId : Nat)
  | drained (call : Nat)
  | wake (call : Nat)
  | serve (index : Nat) (reply : Item)
  | inject (invokeId : Nat) (item : Item)
  | dispatch
deriving DecidableEq, Repr

namespace State

/-- One event. An event whose coroutine is not at the matching `await` changes
nothing. -/
def step (s : State) : Event → State
  | .addCallback n f => s.addCallback n f
  | .removeCallback n t i => s.removeCallback n t i
  | .process n sample => s.process n sample
  | .runJob j i => s.runJob j i
  | .writeAndRead k i => s.writeAndRead k i
  | .drained k => s.drained k
  | .wake k => s.wake k
  | .serve j reply => s.serve j reply
  | .inject i item => s.inject i item
  | .dispatch => s.dispatch

/-- The state after a sequence of events. -/
def run (s : State) (events : List Event) : State := events.foldl step s

end State

/-! ### Environments and reachable states -/

/-- Any scheduling, any invoke ids, any inbound frames. -/
def anyPeer : State → Event → Bool := fun _ _ => true

/-- The environment the request theorems assume: `request_to_wire` returns an id no
send has used and no frame has carried, and no frame but the PLC's answer carries an
id a send used. -/
def freshIds (s : State) : Event → Bool
  | .runJob _ i | .writeAndRead _ i => decide (i ∉ s.seen)
  | .inject i _ => decide (i ∉ s.issued)
  | _ => true

/-- The states reachable from `State.init` by events the environment `admits`. -/
inductive Reachable (admits : State → Event → Bool) : State → Prop where
  | init : Reachable admits State.init
  | step {s : State} {e : Event} :
      Reachable admits s → admits s e = true → Reachable admits (s.step e)

/-- Every event of a sequence is admitted where it happens. -/
def Admitted (admits : State → Event → Bool) : State → List Event → Prop
  | _, [] => True
  | s, e :: es => admits s e = true ∧ Admitted admits (s.step e) es

instance instDecidableAdmitted (admits : State → Event → Bool) :
    (s : State) → (events : List Event) → Decidable (Admitted admits s events)
  | _, [] => isTrue trivial
  | s, e :: es =>
    have := instDecidableAdmitted admits (s.step e) es
    inferInstanceAs (Decidable (_ ∧ _))

theorem Reachable.run {admits : State → Event → Bool} {s : State} (h : Reachable admits s) :
    ∀ {events : List Event}, Admitted admits s events → Reachable admits (s.run events)
  | [], _ => h
  | _ :: _, ⟨he, hes⟩ => Reachable.run (h.step he) hes

end AdsAsync.Client
