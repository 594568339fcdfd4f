import AdsAsync.Client.System
import Mathlib.Data.List.Nodup
import Mathlib.Data.List.Count

/-!
# Requests and responses

How `send`, `_handle_command` and `write_and_read` correlate responses with
requests over one socket.

* `Correlated` — the invariant of every run in which `request_to_wire` hands out
  fresh ids (`freshIds`): a `got_response` handler sits only under its own call's
  id, and a call's response is the PLC's answer under that id, which is the only
  frame the PLC wrote under it. `correlated_reachable` proves it of every reachable
  state, one lemma per coroutine.
* `Correlated.returned_own_answer` — so a `write_and_read` that has returned
  returned the item of the one frame carrying its own invoke id, whatever the
  interleaving, also when the frame is dispatched while `send` still waits in
  `drain()`. `AdsAsync.Client.Completion` adds that every call does return.
* `handlers_never_pruned` — `_handle_command` reads the table with `.get` and
  nothing ever removes an entry: under any peer, the handlers for `i` are every
  handler ever registered for `i`, and each frame carrying `i` runs each of them
  once more, `got_response` overwriting its call's response.
* `failed_response_returned` — `write_and_read` looks for `result` on the
  `_BlockingRequest`, which has none, so a call answered with a failure code returns
  the failed response.
-/

namespace AdsAsync.Client

open State

/-- A list is its `j`-th item followed by the others. -/
theorem perm_cons_eraseIdx {α : Type} [DecidableEq α] {l : List α} {j : Nat} {a : α}
    (h : l[j]? = some a) : l.Perm (a :: l.eraseIdx j) := by
  obtain ⟨hj, rfl⟩ := List.getElem?_eq_some_iff.1 h
  exact (List.perm_cons_erase (List.getElem_mem hj)).trans ((List.erase_getElem hj).cons _)

/-! ### Field lemmas -/

namespace State

variable (s : State)

@[simp] theorem issued_send (i : Nat) (r : Request) (h : Option Handler) :
    (s.send i r h).issued = s.issued ++ [i] := by
  simp [send, issued, Obs.sentId]

@[simp] theorem send_outbox (i : Nat) (r : Request) (h : Option Handler) :
    (s.send i r h).outbox = s.outbox ++ [(i, r)] := rfl

/-- A frame in the outbox after a send was there before, or is the request sent. -/
theorem mem_send_outbox {i : Nat} {r : Request} {h : Option Handler} {f : Nat × Request}
    (hf : f ∈ (s.send i r h).outbox) : f ∈ s.outbox ∨ f.2 = r := by
  rw [send_outbox, List.mem_append, List.mem_singleton] at hf
  exact hf.imp_right (congrArg Prod.snd)

@[simp] theorem send_answered (i : Nat) (r : Request) (h : Option Handler) :
    (s.send i r h).answered = s.answered := rfl

@[simp] theorem send_inbound (i : Nat) (r : Request) (h : Option Handler) :
    (s.send i r h).inbound = s.inbound := rfl

@[simp] theorem send_calls (i : Nat) (r : Request) (h : Option Handler) :
    (s.send i r h).calls = s.calls := rfl

theorem send_responseHandlers (i : Nat) (r : Request) (h : Handler) (j : Nat) :
    (s.send i r (some h)).responseHandlers j =
      if j = i then s.responseHandlers i ++ [h] else s.responseHandlers j := by
  simp [send, Function.update_apply]

theorem setCall_calls (k : Nat) (c : Call) (j : Nat) :
    (s.setCall k c).calls j = if j = k then c else s.calls j := by
  simp [setCall, Function.update_apply]

@[simp] theorem setCall_issued (k : Nat) (c : Call) : (s.setCall k c).issued = s.issued := rfl

@[simp] theorem setCall_outbox (k : Nat) (c : Call) : (s.setCall k c).outbox = s.outbox := rfl

@[simp] theorem setCall_answered (k : Nat) (c : Call) :
    (s.setCall k c).answered = s.answered := rfl

@[simp] theorem setCall_responseHandlers (k : Nat) (c : Call) :
    (s.setCall k c).responseHandlers = s.responseHandlers := rfl

@[simp] theorem record_issued (i : Nat) (x : Item) :
    (s.record (.dispatch i x)).issued = s.issued := by
  simp [record, issued, Obs.sentId]

section answer

variable (r : Request) (reply : Item)

@[simp] theorem answer_responseHandlers :
    (s.answer r reply).1.responseHandlers = s.responseHandlers := by cases r <;> rfl
@[simp] theorem answer_calls : (s.answer r reply).1.calls = s.calls := by cases r <;> rfl
@[simp] theorem answer_inbound : (s.answer r reply).1.inbound = s.inbound := by cases r <;> rfl
@[simp] theorem answer_outbox : (s.answer r reply).1.outbox = s.outbox := by cases r <;> rfl
@[simp] theorem answer_answered : (s.answer r reply).1.answered = s.answered := by cases r <;> rfl
@[simp] theorem answer_log : (s.answer r reply).1.log = s.log := by cases r <;> rfl

theorem serve_none {j : Nat} (h : s.outbox[j]? = none) : s.serve j reply = s := by
  simp [serve, h]

/-- What serving the `j`-th frame changes: it leaves the outbox and its answer, under
its id, joins both the inbound queue and the PLC's log. -/
theorem serve_some {j i : Nat} {req : Request} (h : s.outbox[j]? = some (i, req)) :
    (s.serve j reply).responseHandlers = s.responseHandlers ∧
      (s.serve j reply).calls = s.calls ∧ (s.serve j reply).log = s.log ∧
      (s.serve j reply).outbox = s.outbox.eraseIdx j ∧
      ∃ a, (s.serve j reply).inbound = s.inbound ++ [(i, a)] ∧
        (s.serve j reply).answered = s.answered ++ [(i, a)] := by
  simp only [serve, h]
  exact ⟨answer_responseHandlers _ _ _, answer_calls _ _ _, answer_log _ _ _,
    answer_outbox _ _ _, _, by rw [answer_inbound], by rw [answer_answered]⟩

end answer

/-- `remove_callback` never has a handle to pass on, so it writes no frame: only the
notification changes. -/
theorem removeCallback_eq (n token i : Nat) :
    s.removeCallback n token i =
      { s with notifications :=
          Function.update s.notifications n ((s.notifications n).removeCallback token).1 } := by
  simp only [removeCallback, Notification.removeCallback_snd]

section invoke

variable (i : Nat) (x : Item) (g : Handler)

@[simp] theorem invoke_responseHandlers :
    (s.invoke i x g).responseHandlers = s.responseHandlers := by cases g <;> rfl
@[simp] theorem invoke_inbound : (s.invoke i x g).inbound = s.inbound := by cases g <;> rfl
@[simp] theorem invoke_outbox : (s.invoke i x g).outbox = s.outbox := by cases g <;> rfl
@[simp] theorem invoke_answered : (s.invoke i x g).answered = s.answered := by cases g <;> rfl
@[simp] theorem invoke_log : (s.invoke i x g).log = s.log := by cases g <;> rfl
@[simp] theorem invoke_issued : (s.invoke i x g).issued = s.issued := by cases g <;> rfl

/-- One handler leaves every call's id and phase; `got_response` stores the item as
its call's response and sets its event, whatever they held. -/
theorem invoke_call (k : Nat) :
    ((s.invoke i x g).calls k).invokeId = (s.calls k).invokeId ∧
      ((s.invoke i x g).calls k).phase = (s.calls k).phase ∧
      ((s.invoke i x g).calls k).response =
        (if g = .gotResponse k then some x else (s.calls k).response) ∧
      ((s.invoke i x g).calls k).event = (decide (g = .gotResponse k) || (s.calls k).event) := by
  cases g with
  | gotResponse k' =>
    by_cases hk : k = k'
    · subst hk; simp [invoke, setCall_calls, Call.gotResponse]
    · simp [invoke, setCall_calls, hk, Ne.symm hk]
  | responseHandler n => simp [invoke]

@[simp] theorem invoke_invokeId (k : Nat) :
    ((s.invoke i x g).calls k).invokeId = (s.calls k).invokeId := (s.invoke_call i x g k).1

/-- A notification's handle after one handler: `_response_handler` sets it on a
`NOERR` answer. -/
theorem invoke_handle (n : Nat) :
    ((s.invoke i x g).notifications n).handle =
      if g = .responseHandler n ∧ x.result = NOERR then some x.handle
      else (s.notifications n).handle := by
  cases g with
  | gotResponse k => simp [invoke, setCall]
  | responseHandler m =>
    by_cases hm : m = n
    · subst hm
      by_cases hr : x.result = NOERR <;> simp [invoke, Notification.responseHandler, hr]
    · simp [invoke, Function.update_noteq (Ne.symm hm), hm]

end invoke

section invokeAll

variable (i : Nat) (x : Item)

@[simp] theorem invokeAll_responseHandlers (hs : List Handler) :
    (s.invokeAll i x hs).responseHandlers = s.responseHandlers := by
  induction hs generalizing s with
  | nil => rfl
  | cons g gs ih => exact (ih _).trans (invoke_responseHandlers s i x g)

@[simp] theorem invokeAll_log (hs : List Handler) : (s.invokeAll i x hs).log = s.log := by
  induction hs generalizing s with
  | nil => rfl
  | cons g gs ih => exact (ih _).trans (invoke_log s i x g)

@[simp] theorem invokeAll_outbox (hs : List Handler) :
    (s.invokeAll i x hs).outbox = s.outbox := by
  induction hs generalizing s with
  | nil => rfl
  | cons g gs ih => exact (ih _).trans (invoke_outbox s i x g)

@[simp] theorem invokeAll_inbound (hs : List Handler) :
    (s.invokeAll i x hs).inbound = s.inbound := by
  induction hs generalizing s with
  | nil => rfl
  | cons g gs ih => exact (ih _).trans (invoke_inbound s i x g)

/-- The handlers of one frame, in order: every `got_response` among them stores the
frame's item and sets its call's event. -/
theorem invokeAll_call (hs : List Handler) (k : Nat) :
    ((s.invokeAll i x hs).calls k).invokeId = (s.calls k).invokeId ∧
      ((s.invokeAll i x hs).calls k).phase = (s.calls k).phase ∧
      ((s.invokeAll i x hs).calls k).response =
        (if .gotResponse k ∈ hs then some x else (s.calls k).response) ∧
      ((s.invokeAll i x hs).calls k).event =
        (decide (.gotResponse k ∈ hs) || (s.calls k).event) := by
  induction hs generalizing s with
  | nil => simp [invokeAll]
  | cons g gs ih =>
    obtain ⟨h₁, h₂, h₃, h₄⟩ := ih (s.invoke i x g)
    obtain ⟨g₁, g₂, g₃, g₄⟩ := s.invoke_call i x g k
    refine ⟨h₁.trans g₁, h₂.trans g₂, h₃.trans ?_, h₄.trans ?_⟩ <;>
      simp only [g₃, g₄] <;> by_cases hg : g = .gotResponse k <;> simp [hg, eq_comm]

/-- ... and every `_response_handler` among them takes a `NOERR` frame's handle. -/
theorem invokeAll_handle (hs : List Handler) (n : Nat) :
    ((s.invokeAll i x hs).notifications n).handle =
      if .responseHandler n ∈ hs ∧ x.result = NOERR then some x.handle
      else (s.notifications n).handle := by
  induction hs generalizing s with
  | nil => simp [invokeAll]
  | cons g gs ih =>
    rw [invokeAll, ih, invoke_handle]
    by_cases hg : g = .responseHandler n <;> by_cases hr : x.result = NOERR <;>
      simp [hg, hr, eq_comm]

end invokeAll

theorem dispatch_nil (h : s.inbound = []) : s.dispatch = s := by
  simp only [dispatch, h]

/-- What dispatching the oldest frame `(i, x)` changes: it leaves the inbound queue,
and every call whose `got_response` is under `i` holds `x` with its event set. -/
theorem dispatch_cons {i : Nat} {x : Item} {rest : List (Nat × Item)}
    (h : s.inbound = (i, x) :: rest) :
    s.dispatch.inbound = rest ∧ s.dispatch.outbox = s.outbox ∧
      s.dispatch.responseHandlers = s.responseHandlers ∧
      ∀ k, (s.dispatch.calls k).invokeId = (s.calls k).invokeId ∧
        (s.dispatch.calls k).phase = (s.calls k).phase ∧
        (s.dispatch.calls k).response =
          (if .gotResponse k ∈ s.responseHandlers i then some x else (s.calls k).response) ∧
        (s.dispatch.calls k).event =
          (decide (.gotResponse k ∈ s.responseHandlers i) || (s.calls k).event) := by
  simp only [dispatch, h, handleCommand]
  exact ⟨invokeAll_inbound _ _ _ _, invokeAll_outbox _ _ _ _, invokeAll_responseHandlers _ _ _ _,
    fun k => invokeAll_call _ _ _ _ k⟩

/-- Dispatching the oldest frame `(i, x)` gives a notification the frame's handle when
its `_response_handler` is under `i` and the answer is `NOERR`. -/
theorem dispatch_handle {i : Nat} {x : Item} {rest : List (Nat × Item)}
    (h : s.inbound = (i, x) :: rest) (n : Nat) :
    (s.dispatch.notifications n).handle =
      if .responseHandler n ∈ s.responseHandlers i ∧ x.result = NOERR then some x.handle
      else (s.notifications n).handle := by
  simp only [dispatch, h, handleCommand]
  exact invokeAll_handle _ _ _ _ _

theorem dispatch_outbox : s.dispatch.outbox = s.outbox := by
  unfold dispatch; split
  · rfl
  · exact invokeAll_outbox _ _ _ _

variable {s}

theorem mem_seen_of_issued {i : Nat} (h : i ∈ s.issued) : i ∈ s.seen := by
  simp [seen, h]

theorem mem_seen_of_inbound {i : Nat} {x : Item} (h : (i, x) ∈ s.inbound) : i ∈ s.seen := by
  simp only [seen, List.mem_append, List.mem_map]
  exact .inr ⟨(i, x), h, rfl⟩

end State

/-! ### The correlation invariant -/

/-- The id bookkeeping of a run with fresh ids: the table, the queues and the PLC's
log only hold ids that were sent, and no id is written to or by the PLC twice. -/
structure Ledger (s : State) : Prop where
  handler_issued : ∀ i h, h ∈ s.responseHandlers i → i ∈ s.issued
  inbound_answered : ∀ i x, (i, x) ∈ s.inbound → i ∈ s.issued → (i, x) ∈ s.answered
  answered_issued : ∀ i x, (i, x) ∈ s.answered → i ∈ s.issued
  outbox_issued : ∀ f ∈ s.outbox, f.1 ∈ s.issued
  ids_nodup : (s.answered.map Prod.fst ++ s.outbox.map Prod.fst).Nodup

/-- What the invariant asks of one call, given the ids sent and the frames the PLC
wrote: an idle call has sent nothing, and a response it holds or returned is the
PLC's frame under its own id. -/
structure CallOk (issued : List Nat) (answered : List (Nat × Item)) (c : Call) : Prop where
  idle_unsent : c.phase = .idle → c.invokeId = none
  call_issued : ∀ i, c.invokeId = some i → i ∈ issued
  response_answered : ∀ x, c.response = some x → ∃ i, c.invokeId = some i ∧ (i, x) ∈ answered
  event_response : c.event = true → c.response ≠ none
  returned_answered : ∀ r, c.phase = .returned r →
    ∃ i x, r = some x ∧ c.invokeId = some i ∧ (i, x) ∈ answered
  not_raised : c.phase ≠ .raised

/-- What keeps responses with their requests when invoke ids are fresh: a
`got_response` sits only under its call's id, and every call is `CallOk`. -/
structure Correlated (s : State) extends Ledger s : Prop where
  handler_call : ∀ i k, Handler.gotResponse k ∈ s.responseHandlers i →
    (s.calls k).invokeId = some i
  call_ok : ∀ k, CallOk s.issued s.answered (s.calls k)

namespace Ledger

variable {s t : State}

theorem congr (h : Ledger s) (h₁ : t.responseHandlers = s.responseHandlers)
    (h₂ : t.answered = s.answered) (h₃ : t.inbound = s.inbound) (h₄ : t.outbox = s.outbox)
    (h₅ : t.log = s.log) : Ledger t := by
  have h₆ : t.issued = s.issued := by simp only [State.issued, h₅]
  obtain ⟨l₁, l₂, l₃, l₄, l₅⟩ := h
  exact ⟨by simpa only [h₁, h₆], by simpa only [h₃, h₆, h₂], by simpa only [h₂, h₆],
    by simpa only [h₄, h₆], by simpa only [h₂, h₄]⟩

theorem fresh_not_mem (h : Ledger s) {i : Nat} (hi : i ∉ s.issued) :
    i ∉ s.answered.map Prod.fst ++ s.outbox.map Prod.fst := by
  simp only [List.mem_append, List.mem_map, not_or, not_exists, not_and]
  exact ⟨fun f hf hfi => hi (hfi ▸ h.answered_issued f.1 f.2 hf),
    fun f hf hfi => hi (hfi ▸ h.outbox_issued f hf)⟩

/-- The PLC wrote at most one frame under each id. -/
theorem answer_unique (h : Ledger s) {i : Nat} {x y : Item} (hx : (i, x) ∈ s.answered)
    (hy : (i, y) ∈ s.answered) : y = x := by
  simpa using List.inj_on_of_nodup_map (List.nodup_append.1 h.ids_nodup).1 hy hx rfl

/-- A `send` under a fresh id keeps the books. -/
theorem send (h : Ledger s) {i : Nat} (hi : i ∉ s.seen) (r : Request) (g : Handler) :
    Ledger (s.send i r (some g)) := by
  have hi' : i ∉ s.issued := fun hm => hi (mem_seen_of_issued hm)
  refine ⟨fun j g' hg => ?_, fun j x hj hji => ?_, fun j x hj => by simp [h.3 _ _ hj],
    fun f hf => ?_, by simpa [List.concat_eq_append] using h.5.concat (h.fresh_not_mem hi')⟩
  · rw [send_responseHandlers] at hg
    split_ifs at hg with hji
    · simp [hji]
    · simp [h.1 _ _ hg]
  · simp only [issued_send, List.mem_append, List.mem_singleton] at hji
    rcases hji with hji | rfl
    · exact h.2 _ _ hj hji
    · exact absurd (mem_seen_of_inbound (s := s) hj) hi
  · simp only [send_outbox, List.mem_append, List.mem_singleton] at hf
    rcases hf with hf | rfl
    · simp [h.4 _ hf]
    · simp

end Ledger

namespace CallOk

variable {issued : List Nat} {answered : List (Nat × Item)} {c : Call}

theorem init : CallOk issued answered Call.init := ⟨fun _ => rfl, by simp [Call.init],
  by simp [Call.init], by simp [Call.init], by simp [Call.init], by simp [Call.init]⟩

theorem mono (h : CallOk issued answered c) {issued' : List Nat}
    {answered' : List (Nat × Item)} (hi : issued ⊆ issued') (ha : answered ⊆ answered') :
    CallOk issued' answered' c where
  idle_unsent := h.idle_unsent
  call_issued i hc := hi (h.call_issued i hc)
  response_answered x hx := (h.response_answered x hx).imp fun _ h => ⟨h.1, ha h.2⟩
  event_response := h.event_response
  returned_answered r hr := (h.returned_answered r hr).imp fun _ ⟨x, h⟩ => ⟨x, h.1, h.2.1, ha h.2.2⟩
  not_raised := h.not_raised

/-- An idle call holds no response. -/
theorem response_of_idle (h : CallOk issued answered c) (hc : c.phase = .idle) :
    c.response = none := by
  cases hr : c.response with
  | none => rfl
  | some x => obtain ⟨j, hj, -⟩ := h.response_answered x hr; simp [h.idle_unsent hc] at hj

end CallOk

namespace Correlated

variable {s t : State}

theorem init : Correlated State.init where
  handler_issued := by simp [State.init]
  inbound_answered := by simp [State.init]
  answered_issued := by simp [State.init]
  outbox_issued := by simp [State.init]
  ids_nodup := by simp [State.init]
  handler_call := by simp [State.init]
  call_ok _ := CallOk.init

/-- The invariant reads only the table, the calls, the PLC's log, the sent ids and
the two queues, and survives dropping inbound frames. -/
theorem mono (h : Correlated s) (h₁ : t.responseHandlers = s.responseHandlers)
    (h₂ : t.calls = s.calls) (h₃ : t.answered = s.answered) (h₄ : t.inbound ⊆ s.inbound)
    (h₅ : t.outbox = s.outbox) (h₆ : t.issued = s.issued) : Correlated t := by
  obtain ⟨⟨l₁, l₂, l₃, l₄, l₅⟩, c₁, c₂⟩ := h
  exact ⟨⟨by simpa only [h₁, h₆], fun i x hx => by simpa only [h₃, h₆] using l₂ i x (h₄ hx),
    by simpa only [h₃, h₆], by simpa only [h₅, h₆], by simpa only [h₃, h₅]⟩,
    by simpa only [h₁, h₂] using c₁, by simpa only [h₂, h₃, h₆] using c₂⟩

/-- Events that touch none of what the invariant reads keep it. -/
theorem congr (h : Correlated s) (h₁ : t.responseHandlers = s.responseHandlers)
    (h₂ : t.calls = s.calls) (h₃ : t.answered = s.answered) (h₄ : t.inbound = s.inbound)
    (h₅ : t.outbox = s.outbox) (h₆ : t.log = s.log) : Correlated t :=
  h.mono h₁ h₂ h₃ (h₄ ▸ List.Subset.refl _) h₅ (by simp only [State.issued, h₆])

/-- A subscribe job's `send`, under a fresh id. -/
theorem send_subscribe (h : Correlated s) {i : Nat} (hi : i ∉ s.seen) (n : Nat) :
    Correlated (s.send i (.addNotification n) (some (.responseHandler n))) := by
  refine ⟨h.toLedger.send hi _ _, fun j k hk => ?_,
    fun k => (h.call_ok k).mono (by simp) (List.Subset.refl _)⟩
  rw [send_responseHandlers] at hk
  split_ifs at hk with hji
  · subst hji; exact h.handler_call _ _ (by simpa using hk)
  · exact h.handler_call _ _ hk

/-- Replacing one call keeps the invariant when the new call is `CallOk` and keeps
the invoke id the table knows it by. -/
theorem setCall (h : Correlated s) (k : Nat) {c : Call}
    (hid : c.invokeId = (s.calls k).invokeId) (hc : CallOk s.issued s.answered c) :
    Correlated (s.setCall k c) := by
  refine ⟨h.toLedger.congr rfl rfl rfl rfl rfl, fun j k' hk => ?_,
    fun k' => ?_⟩
  · rw [setCall_calls]
    split_ifs with hkk
    · subst hkk; rw [hid]; exact h.handler_call _ _ hk
    · exact h.handler_call _ _ hk
  · rw [setCall_calls]; split_ifs
    · exact hc
    · exact h.call_ok k'

/-- `write_and_read` sends under a fresh id, from an idle call. -/
theorem writeAndRead (h : Correlated s) {k i : Nat} (hi : i ∉ s.seen) :
    Correlated (s.writeAndRead k i) := by
  unfold State.writeAndRead
  split_ifs with hidle
  · have hc := h.call_ok k
    have hnone := hc.idle_unsent hidle
    have hresp := hc.response_of_idle hidle
    refine ⟨(h.toLedger.send hi _ _).congr rfl rfl rfl rfl rfl, fun j k' hk => ?_, fun k' => ?_⟩
    · rw [setCall_responseHandlers, send_responseHandlers] at hk
      rw [setCall_calls]
      split_ifs at hk ⊢ with hkk hji hji
      · simp [hji]
      · subst hkk; simp [h.handler_call _ _ hk] at hnone
      · subst hji; exact h.handler_call _ _ (by simpa [hkk] using hk)
      · exact h.handler_call _ _ hk
    · rw [setCall_calls]
      split_ifs
      · exact ⟨by simp, by simp, by simp [hresp], fun he => absurd hresp (hc.event_response he),
          by simp, by simp⟩
      · exact (h.call_ok k').mono (by simp) (List.Subset.refl _)
  · exact h

/-- Call `k` stops waiting on `drain()`. -/
theorem drained (h : Correlated s) (k : Nat) : Correlated (s.drained k) := by
  unfold State.drained
  split_ifs with hk
  · have hc := h.call_ok k
    exact h.setCall k rfl ⟨by simp [hk], hc.call_issued, hc.response_answered,
      hc.event_response, by simp, by simp⟩
  · exact h

/-- A woken call returns its response, which the PLC wrote under its id. -/
theorem wake (h : Correlated s) (k : Nat) : Correlated (s.wake k) := by
  unfold State.wake
  split_ifs with hk
  · have hc := h.call_ok k
    refine h.setCall k rfl ⟨by simp [Call.finish], hc.call_issued, hc.response_answered,
      hc.event_response, fun r hr => ?_, by simp [Call.finish]⟩
    obtain ⟨x, hx⟩ := Option.ne_none_iff_exists'.mp (hc.event_response hk.2)
    obtain ⟨i, hi, hia⟩ := hc.response_answered x hx
    simp only [Call.finish, Phase.returned.injEq] at hr
    exact ⟨i, x, by rw [← hr, hx], hi, hia⟩
  · exact h

/-- The PLC answers any frame written to it, under the frame's id. -/
theorem serve (h : Correlated s) (j : Nat) (reply : Item) : Correlated (s.serve j reply) := by
  cases hf : s.outbox[j]? with
  | none => rw [serve_none _ _ hf]; exact h
  | some f =>
    obtain ⟨i, req⟩ := f
    obtain ⟨h₁, h₂, h₃, h₄, a, h₅, h₆⟩ := serve_some s reply hf
    have h₇ : (s.serve j reply).issued = s.issued := by simp only [State.issued, h₃]
    have hi : i ∈ s.issued := h.outbox_issued _ (List.getElem?_mem hf)
    refine ⟨⟨?_, ?_, ?_, ?_, ?_⟩, ?_, ?_⟩ <;> simp only [h₁, h₂, h₄, h₅, h₆, h₇]
    · exact h.handler_issued
    · intro k x hk hki
      rcases List.mem_append.mp hk with hk | hk
      · exact List.mem_append_left _ (h.inbound_answered _ _ hk hki)
      · simp_all
    · intro k x hk
      rcases List.mem_append.mp hk with hk | hk
      · exact h.answered_issued _ _ hk
      · simp_all
    · exact fun g hg => h.outbox_issued g (List.mem_of_mem_eraseIdx hg)
    · simpa [List.append_assoc] using h.ids_nodup.perm
        (((perm_cons_eraseIdx hf).map Prod.fst).append_left (s.answered.map Prod.fst))
    · exact h.handler_call
    · exact fun k => (h.call_ok k).mono (List.Subset.refl _) (List.subset_append_left _ _)

/-- Any frame under an id no send used. -/
theorem inject (h : Correlated s) {i : Nat} (hi : i ∉ s.issued) (x : Item) :
    Correlated (s.inject i x) := by
  refine ⟨⟨h.handler_issued, fun j y hj hji => ?_, h.answered_issued, h.outbox_issued,
    h.ids_nodup⟩, h.handler_call, h.call_ok⟩
  rcases List.mem_append.mp hj with hj | hj
  · exact h.inbound_answered _ _ hj hji
  · simp only [List.mem_singleton, Prod.mk.injEq] at hj
    exact absurd (hj.1 ▸ hji) hi

/-- One handler of a frame carrying `i`, whose item is the PLC's answer under `i` if
`i` was sent. -/
theorem invoke (h : Correlated s) {i : Nat} {x : Item}
    (hx : i ∈ s.issued → (i, x) ∈ s.answered) (g : Handler)
    (hg : ∀ k, g = .gotResponse k → (s.calls k).invokeId = some i) :
    Correlated (s.invoke i x g) := by
  cases g with
  | gotResponse k =>
    have hc := h.call_ok k
    have hk := hg k rfl
    exact h.setCall k rfl ⟨hc.idle_unsent, hc.call_issued,
      fun y hy => ⟨i, hk, by cases hy; exact hx (hc.call_issued i hk)⟩,
      fun _ => by simp [Call.gotResponse], hc.returned_answered, hc.not_raised⟩
  | responseHandler n => exact h.congr rfl rfl rfl rfl rfl rfl

/-- `_handle_command`'s loop over handlers registered under the frame's id. -/
theorem invokeAll (h : Correlated s) {i : Nat} {x : Item}
    (hx : i ∈ s.issued → (i, x) ∈ s.answered) (hs : List Handler)
    (hgs : ∀ k, .gotResponse k ∈ hs → (s.calls k).invokeId = some i) :
    Correlated (s.invokeAll i x hs) := by
  induction hs generalizing s with
  | nil => exact h
  | cons g gs ih =>
    exact ih (h.invoke hx g fun k hk => hgs k (by simp [hk])) (by simpa using hx)
      fun k hk => by simpa using hgs k (by simp [hk])

/-- The read loop dispatches the oldest frame. -/
theorem dispatch (h : Correlated s) : Correlated s.dispatch := by
  unfold State.dispatch
  split
  · exact h
  · rename_i i x rest hin
    have h₁ : Correlated (({ s with inbound := rest } : State).record (.dispatch i x)) :=
      h.mono rfl rfl rfl (by simp [State.record, hin]) rfl
        (by simp [State.issued, State.record, Obs.sentId])
    exact h₁.invokeAll (by simpa using h.inbound_answered i x (by simp [hin]))
      (s.responseHandlers i) fun k hk => h.handler_call i k hk

/-- The executor runs a job; a subscribe sends under a fresh id. -/
theorem runJob (h : Correlated s) {j i : Nat} (hi : i ∉ s.seen) :
    Correlated (s.runJob j i) := by
  unfold State.runJob
  split
  · exact h
  · rename_i job _
    have h₁ : Correlated { s with pending := s.pending.eraseIdx j } :=
      h.congr rfl rfl rfl rfl rfl rfl
    cases job with
    | subscribe n => exact h₁.send_subscribe hi n
    | callback => exact h₁

/-- **Every event the environment admits keeps the invariant.** -/
theorem step (h : Correlated s) {e : Event} (he : freshIds s e = true) :
    Correlated (s.step e) := by
  cases e with
  | addCallback n f => exact h.congr rfl rfl rfl rfl rfl rfl
  | removeCallback n t i =>
    show Correlated (s.removeCallback n t i)
    rw [removeCallback_eq]; exact h.congr rfl rfl rfl rfl rfl rfl
  | process n x => exact h.congr rfl rfl rfl rfl rfl rfl
  | runJob j i => exact h.runJob (by simpa [freshIds] using he)
  | writeAndRead k i => exact h.writeAndRead (by simpa [freshIds] using he)
  | drained k => exact h.drained k
  | wake k => exact h.wake k
  | serve j reply => exact h.serve j reply
  | inject i x => exact h.inject (by simpa [freshIds] using he) x
  | dispatch => exact h.dispatch

/-- A call that has returned returned the item of the one frame the PLC wrote under
its own invoke id. -/
theorem returned_own_answer (h : Correlated s) {k : Nat} {r : Option Item}
    (hk : (s.calls k).phase = .returned r) :
    ∃ i x, (s.calls k).invokeId = some i ∧ r = some x ∧ (i, x) ∈ s.answered ∧
      ∀ y, (i, y) ∈ s.answered → y = x := by
  obtain ⟨i, x, rfl, hi, hx⟩ := (h.call_ok k).returned_answered r hk
  exact ⟨i, x, hi, rfl, hx, fun y hy => h.answer_unique hx hy⟩

end Correlated

theorem correlated_reachable {s : State} (hs : Reachable freshIds s) : Correlated s := by
  induction hs with
  | init => exact .init
  | step _ he ih => exact ih.step he

/-! ### The handler table is never pruned -/

/-- The handlers `send` registered under `i`, in order, read off the log. -/
def registeredFor (i : Nat) (log : List Obs) : List Handler :=
  log.filterMap fun
    | .send j (some h) => if j = i then some h else none
    | _ => none

theorem registeredFor_append (i : Nat) (log : List Obs) (o : Obs) :
    registeredFor i (log ++ [o]) = registeredFor i log ++ registeredFor i [o] := by
  simp [registeredFor]

@[simp] theorem registeredFor_send (i j : Nat) (g : Handler) :
    registeredFor i [.send j (some g)] = if j = i then [g] else [] := by
  by_cases hj : j = i <;> simp [registeredFor, hj]

@[simp] theorem registeredFor_dispatch (i j : Nat) (x : Item) :
    registeredFor i [.dispatch j x] = [] := rfl

/-- What the log says of the table: the handlers under `i` are every handler ever
registered under `i`, in order. -/
structure Tabled (s : State) : Prop where
  table : ∀ i, s.responseHandlers i = registeredFor i s.log

namespace Tabled

variable {s t : State}

theorem init : Tabled State.init := ⟨fun _ => rfl⟩

theorem congr (h : Tabled s) (h₁ : t.responseHandlers = s.responseHandlers)
    (h₂ : t.log = s.log) : Tabled t :=
  ⟨by simpa only [h₁, h₂] using h.table⟩

/-- `send` registers under its id and logs the registration. -/
theorem send (h : Tabled s) (i : Nat) (r : Request) (g : Handler) :
    Tabled (s.send i r (some g)) := by
  refine ⟨fun j => ?_⟩
  rw [send_responseHandlers]
  simp only [State.send, registeredFor_append, registeredFor_send, h.table]
  by_cases hj : j = i
  · subst hj; simp
  · simp [hj, Ne.symm hj]

/-- `_handle_command` logs the frame and removes nothing from the table. -/
theorem handleCommand (h : Tabled s) (i : Nat) (x : Item) : Tabled (s.handleCommand i x) := by
  refine ⟨fun j => ?_⟩
  rw [State.handleCommand, invokeAll_responseHandlers, invokeAll_log]
  simp [State.record, registeredFor_append, h.table]

/-- Every event keeps the log's account of the table. -/
theorem step (h : Tabled s) (e : Event) : Tabled (s.step e) := by
  cases e with
  | removeCallback n t i =>
    show Tabled (s.removeCallback n t i)
    rw [removeCallback_eq]; exact h.congr rfl rfl
  | runJob j i =>
    show Tabled (s.runJob j i)
    unfold State.runJob
    split
    · exact h
    · rename_i job _
      cases job with
      | subscribe n =>
        exact (h.congr (t := { s with pending := s.pending.eraseIdx j }) rfl rfl).send i
          (.addNotification n) (.responseHandler n)
      | callback => exact h.congr rfl rfl
  | writeAndRead k i =>
    show Tabled (s.writeAndRead k i)
    unfold State.writeAndRead
    split_ifs
    · exact (h.send i (.query k) (.gotResponse k)).congr rfl rfl
    · exact h
  | drained k =>
    show Tabled (s.drained k); unfold State.drained; split_ifs <;> exact h.congr rfl rfl
  | wake k => show Tabled (s.wake k); unfold State.wake; split_ifs <;> exact h.congr rfl rfl
  | serve j reply =>
    show Tabled (s.serve j reply)
    cases hf : s.outbox[j]? with
    | none => rw [serve_none _ _ hf]; exact h
    | some f =>
      obtain ⟨i, req⟩ := f
      obtain ⟨h₁, -, h₃, -⟩ := serve_some s reply hf
      exact h.congr h₁ h₃
  | dispatch =>
    show Tabled s.dispatch
    unfold State.dispatch
    split
    · exact h
    · rename_i rest _
      exact (h.congr (t := { s with inbound := rest }) rfl rfl).handleCommand _ _
  | _ => exact h.congr rfl rfl

end Tabled

/-- A device-info style request answered with result code 1: the call returns the
failed response, where the spec's check (`finishSpec`) raises. -/
theorem failed_response_returned :
    Reachable freshIds (State.init.run [.writeAndRead 0 5, .serve 0 ⟨1, 0, []⟩, .dispatch,
        .drained 0, .wake 0]) ∧
      ((State.init.run [.writeAndRead 0 5, .serve 0 ⟨1, 0, []⟩, .dispatch, .drained 0,
        .wake 0]).calls 0).phase = .returned (some ⟨1, 0, []⟩) ∧
      ((State.init.run [.writeAndRead 0 5, .serve 0 ⟨1, 0, []⟩, .dispatch, .drained 0,
        .wake 0]).calls 0).finishSpec = .raised :=
  ⟨Reachable.init.run (by decide), by decide, by decide⟩

end AdsAsync.Client
