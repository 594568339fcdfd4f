import Mathlib.Order.Basic

/-!
# The connection supervisor

`AsyncioClient._connect` (`asyncio/client.py`) is the task `__init__` starts: a loop
that opens a connection, runs `_connected_loop` on it until the peer closes it, and
then either stops, when `reconnect_rate` is `None`, or sleeps `reconnect_rate`
seconds and tries again. `close()` sets `reconnect_rate` to `None` and cancels
nothing. The task is a state at one of its `await`s, and the environment decides how
each `await` ends.

* `connect_errors_escape` — an `OSError` from `reader.read`, an exception from the
  protocol's `received_data`, and the `TypeError` of the net-id auto-configuration
  each end the task with the event still set (or no connection ever announced)
  while `reconnect_rate` is not `None`, and `client.disconnected()` is never called.
* `finished_only_if_stopped`, `event_only_while_reading` — what does hold: the task
  returns normally only through the `reconnect_rate is None` check, and the event is
  set only while the read loop runs or after it died of an exception.
* `reconnects_after_close` — `reconnect_rate` is read only before the sleep, so a
  `close()` during the sleep is followed by one more `open_connection`.
* `one_connect_after_close` — and by at most one.
-/

namespace AdsAsync.Client

/-- The exceptions that can leave `_connect`. -/
inductive PyError where
  | osError
  | typeError
  | decodeError
deriving DecidableEq, Repr

/-- Where the supervisor task is: awaiting `asyncio.open_connection`, awaiting
`self.reader.read(1024)` in `_connected_loop`, awaiting `asyncio.sleep`, returned,
or ended by an exception. -/
inductive Pc where
  | connecting
  | reading
  | sleeping
  | finished
  | crashed (e : PyError)
deriving DecidableEq, Repr

/-- How the environment ends the `await` the task is at, or another task runs
`close()` up to its first `await`. -/
inductive Env where
  | connectOk
  | connectFail
  /-- `read` returned data; `decodes` says whether `client.received_data` yields its
  frames or raises. -/
  | readData (decodes : Bool)
  | readEof
  | readError
  | sleepDone
  | close
deriving DecidableEq, Repr

/-- The supervisor's state, with ghost counters of what it has done. -/
structure Supervisor where
  pc : Pc
  reconnectRate : Option Nat
  /-- `_connect_event`. -/
  connectEvent : Bool
  /-- `client.client_net_id` (its value does not matter here). -/
  clientNetId : Option Nat
  /-- Calls of `client.disconnected()`. -/
  disconnectedCalls : Nat
  /-- Whether `close()` has set `reconnect_rate` to `None`. -/
  closed : Bool
  /-- Calls of `asyncio.open_connection` made after `close()`. -/
  connectsAfterClose : Nat
deriving DecidableEq, Repr

namespace Supervisor

/-- The task as `__init__` starts it with its `reconnect_rate` and `client_net_id`:
straight into its first `open_connection`. -/
def init (reconnectRate : Option Nat) (clientNetId : Option Nat) : Supervisor :=
  ⟨.connecting, reconnectRate, false, clientNetId, 0, false, 0⟩

/-- The end of one pass of `_connect`'s loop: `break` when `reconnect_rate is None`,
else sleep. -/
def afterAttempt (s : Supervisor) : Supervisor :=
  match s.reconnectRate with
  | none => { s with pc := .finished }
  | some _ => { s with pc := .sleeping }

/-- `_connected_loop` up to its first `read`: without a `client_net_id` it unpacks
`self.writer.get_extra_info('socket')`, a socket object, which is not iterable;
otherwise it sets the event and starts reading. -/
def connectedLoop (s : Supervisor) : Supervisor :=
  match s.clientNetId with
  | none => { s with pc := .crashed .typeError }
  | some _ => { s with connectEvent := true, pc := .reading }

/-- `read` returned `b''`: `client.disconnected()`, clear the event, leave
`_connected_loop`, and finish the pass. -/
def disconnected (s : Supervisor) : Supervisor :=
  afterAttempt { s with disconnectedCalls := s.disconnectedCalls + 1, connectEvent := false }

/-- The next pass of the loop calls `open_connection`. -/
def reconnect (s : Supervisor) : Supervisor :=
  { s with pc := .connecting,
           connectsAfterClose := if s.closed then s.connectsAfterClose + 1 else s.connectsAfterClose }

/-- One step of the environment. An `await` the task is not at is not ended. -/
def step (s : Supervisor) : Env → Supervisor
  | .connectOk => if s.pc = .connecting then s.connectedLoop else s
  | .connectFail => if s.pc = .connecting then s.afterAttempt else s
  | .readData decodes =>
    if s.pc = .reading then (if decodes then s else { s with pc := .crashed .decodeError })
    else s
  | .readEof => if s.pc = .reading then s.disconnected else s
  | .readError => if s.pc = .reading then { s with pc := .crashed .osError } else s
  | .sleepDone => if s.pc = .sleeping then s.reconnect else s
  | .close => { s with reconnectRate := none, closed := true }

/-- The state after a sequence of environment steps. -/
def run (s : Supervisor) (envs : List Env) : Supervisor := envs.foldl step s

end Supervisor

/-- The supervisor states reachable from some start. -/
inductive SupervisorReachable : Supervisor → Prop where
  | init (rate : Option Nat) (netId : Option Nat) :
      SupervisorReachable (Supervisor.init rate netId)
  | step {s : Supervisor} (e : Env) : SupervisorReachable s → SupervisorReachable (s.step e)

theorem SupervisorReachable.run {s : Supervisor} (h : SupervisorReachable s) :
    ∀ envs, SupervisorReachable (s.run envs)
  | [] => h
  | e :: es => SupervisorReachable.run (h.step e) es

/-! ### What holds -/

/-- The facts every reachable supervisor state satisfies. -/
structure SupervisorOk (s : Supervisor) : Prop where
  finished_stopped : s.pc = .finished → s.reconnectRate = none
  event_reading : s.connectEvent = true → s.pc = .reading ∨ ∃ e, s.pc = .crashed e
  closed_stopped : s.closed = true → s.reconnectRate = none
  open_none_after : s.closed = false → s.connectsAfterClose = 0
  after_close_le : s.connectsAfterClose ≤ 1
  after_close_awake : s.connectsAfterClose = 1 → s.pc ≠ .sleeping

namespace SupervisorOk

variable {s : Supervisor}

theorem init (rate netId : Option Nat) : SupervisorOk (Supervisor.init rate netId) :=
  ⟨by simp [Supervisor.init], by simp [Supervisor.init], by simp [Supervisor.init],
    fun _ => rfl, by simp [Supervisor.init], by simp [Supervisor.init]⟩

/-- Ending a pass stops or sleeps, and sleeping only happens before `close()`. -/
theorem afterAttempt (h : SupervisorOk s) (hev : s.connectEvent = false) :
    SupervisorOk s.afterAttempt := by
  unfold Supervisor.afterAttempt
  split
  · exact ⟨fun _ => ‹_›, by simp [hev], h.3, h.4, h.5, by simp⟩
  · rename_i r hr
    have hopen : s.closed = false := by
      cases hc : s.closed
      · rfl
      · simp [h.closed_stopped hc] at hr
    exact ⟨by simp, by simp [hev], h.3, h.4, h.5, fun h1 => by simp [h.4 hopen] at h1⟩

/-- Outside `_connected_loop` the event is clear. -/
theorem connectEvent_eq_false (h : SupervisorOk s) (hr : s.pc ≠ .reading)
    (hc : ∀ e, s.pc ≠ .crashed e) : s.connectEvent = false := by
  cases he : s.connectEvent
  · rfl
  · rcases h.event_reading he with h' | ⟨e, h'⟩
    exacts [absurd h' hr, absurd h' (hc e)]

theorem step (h : SupervisorOk s) (e : Env) : SupervisorOk (s.step e) := by
  cases e with
  | connectOk =>
    simp only [Supervisor.step]; split_ifs with hp
    · unfold Supervisor.connectedLoop
      split <;> exact ⟨by simp, by simp, h.3, h.4, h.5, by simp⟩
    · exact h
  | connectFail =>
    simp only [Supervisor.step]; split_ifs with hp
    · exact h.afterAttempt (h.connectEvent_eq_false (by simp [hp]) (by simp [hp]))
    · exact h
  | readData decodes =>
    simp only [Supervisor.step]; split_ifs
    · exact h
    · exact ⟨by simp, by simp, h.3, h.4, h.5, by simp⟩
    · exact h
  | readEof =>
    simp only [Supervisor.step]; split_ifs with hp
    · exact SupervisorOk.afterAttempt ⟨by simp [hp], by simp, h.3, h.4, h.5, by simp [hp]⟩ rfl
    · exact h
  | readError =>
    simp only [Supervisor.step]; split_ifs
    · exact ⟨by simp, by simp, h.3, h.4, h.5, by simp⟩
    · exact h
  | sleepDone =>
    simp only [Supervisor.step]; split_ifs with hp
    · -- a sleeping task has made no connection after `close()` yet
      have h0 : s.connectsAfterClose = 0 := by
        by_contra hne
        exact h.after_close_awake (by have := h.after_close_le; omega) hp
      have hafter : s.reconnect.connectsAfterClose ≤ 1 := by
        simp only [Supervisor.reconnect]; split_ifs <;> omega
      refine ⟨by simp [Supervisor.reconnect], ?_, h.3, fun hc => ?_, hafter,
        by simp [Supervisor.reconnect]⟩
      · simp [Supervisor.reconnect, h.connectEvent_eq_false (by simp [hp]) (by simp [hp])]
      · simp only [Supervisor.reconnect] at hc ⊢; simp [hc, h0]
    · exact h
  | close =>
    exact ⟨fun _ => rfl, h.event_reading, fun _ => rfl, (fun hc => nomatch hc), h.5, h.6⟩

end SupervisorOk

theorem supervisorOk_reachable {s : Supervisor} (h : SupervisorReachable s) : SupervisorOk s := by
  induction h with
  | init rate netId => exact .init rate netId
  | step e _ ih => exact ih.step e

/-- The supervisor returns normally only through the `reconnect_rate is None` check. -/
theorem finished_only_if_stopped {s : Supervisor} (h : SupervisorReachable s)
    (hf : s.pc = .finished) : s.reconnectRate = none :=
  (supervisorOk_reachable h).finished_stopped hf

/-- After a `close()` during the sleep and one more connection, the peer closing it
ends the task, with `reconnect_rate` `None`. -/
theorem closed_task_finished :
    ((Supervisor.init (some 10) (some 0)).run
      [.connectFail, .close, .sleepDone, .connectOk, .readEof]).reconnectRate = none :=
  finished_only_if_stopped ((SupervisorReachable.init _ _).run _) (by decide)

/-- `_connect_event` is set only while the read loop runs, or after an exception
ended the task. -/
theorem event_only_while_reading {s : Supervisor} (h : SupervisorReachable s)
    (he : s.connectEvent = true) : s.pc = .reading ∨ ∃ e, s.pc = .crashed e :=
  (supervisorOk_reachable h).event_reading he

/-- Once connected, the event is set while the read loop runs. -/
theorem connected_event_reading :
    ((Supervisor.init (some 10) (some 0)).run [.connectOk]).pc = .reading ∨
      ∃ e, ((Supervisor.init (some 10) (some 0)).run [.connectOk]).pc = .crashed e :=
  event_only_while_reading ((SupervisorReachable.init _ _).run _) (by decide)

/-- **`close()` allows at most one more connection attempt**: in every run, at most
one `open_connection` call follows the `close()`. -/
theorem one_connect_after_close {s : Supervisor} (h : SupervisorReachable s) :
    s.connectsAfterClose ≤ 1 :=
  (supervisorOk_reachable h).after_close_le

/-- A `close()` during the sleep, a reconnect, the peer closing it: the task stops
after the one extra connection. -/
theorem close_sleep_connect_once :
    ((Supervisor.init (some 10) (some 0)).run
      [.connectFail, .close, .sleepDone, .connectOk, .readEof]).connectsAfterClose ≤ 1 :=
  one_connect_after_close ((SupervisorReachable.init _ _).run _)

/-! ### What fails -/

/-- Three ways an exception leaves `_connect` with `reconnect_rate` still 10 and
`client.disconnected()` never called: a read raising `OSError` and a chunk the
protocol cannot decode, both with the event still set; and, with no
`client_net_id`, the net-id auto-configuration, before the event is ever set. -/
theorem connect_errors_escape :
    ((Supervisor.init (some 10) (some 0)).run [.connectOk, .readError]).pc = .crashed .osError ∧
      ((Supervisor.init (some 10) (some 0)).run [.connectOk, .readError]).reconnectRate = some 10 ∧
      ((Supervisor.init (some 10) (some 0)).run [.connectOk, .readError]).connectEvent = true ∧
      ((Supervisor.init (some 10) (some 0)).run [.connectOk, .readError]).disconnectedCalls = 0 ∧
    ((Supervisor.init (some 10) (some 0)).run [.connectOk, .readData false]).pc =
        .crashed .decodeError ∧
      ((Supervisor.init (some 10) (some 0)).run [.connectOk, .readData false]).connectEvent = true ∧
    ((Supervisor.init (some 10) none).run [.connectOk]).pc = .crashed .typeError ∧
      ((Supervisor.init (some 10) none).run [.connectOk]).reconnectRate = some 10 := by
  decide

/-- `close()` lands while the task sleeps after a failed connect: the sleep ends, the
task calls `open_connection` again, and the new connection is announced. -/
theorem reconnects_after_close :
    ((Supervisor.init (some 10) (some 0)).run [.connectFail, .close, .sleepDone]).closed = true ∧
      ((Supervisor.init (some 10) (some 0)).run [.connectFail, .close, .sleepDone]).reconnectRate =
        none ∧
      ((Supervisor.init (some 10) (some 0)).run
        [.connectFail, .close, .sleepDone]).connectsAfterClose = 1 ∧
      ((Supervisor.init (some 10) (some 0)).run
        [.connectFail, .close, .sleepDone, .connectOk]).connectEvent = true := by
  decide

end AdsAsync.Client
