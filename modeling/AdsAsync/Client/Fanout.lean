import AdsAsync.Client.Notification
import Mathlib.Data.List.Nodup
import Mathlib.Data.List.Perm.Basic

/-!
# Callback fan-out over runs

A `Notification` takes three calls: `add_callback` and `remove_callback` from its
users, and `process` from the protocol for every pushed sample. A run of them
(`Notification.exec`) is what the user callbacks see: the jobs handed to the user
callback executor and the cached `most_recent_notification`. Each job a call submits
is attributed to the registration it serves (`served`, ghost, read off the call's own
jobs): the callback job of `add_callback` to the callback it registers, and the jobs
of `process`, one per registered callback in order, each to its callback.

* `TokensBelow` — `CallbackHandler` hands tokens out in increasing order and never
  again, so every registered token is below `callback_id`.
* `exec_jobs_served` — the attribution neither misses nor doubles a job: the callback
  jobs a run submits are, up to order, the jobs it serves to the tokens it hands out.
* `callbacks_served_in_order` — the callback `add_callback(f)` registers is sent the
  cached sample if it joined a non-empty callback set while one was cached, then one
  call per sample processed while its token is registered, and nothing once the token
  is removed; and the cache always holds the last sample processed since the last
  `remove_callback` that left no callback registered (`sinceEmptied`), `None` if there
  is none.
* `clear_silences` — `clear()` is such a run; after it no callback registered before it
  is ever called again unless it is added again, and the next `add_callback`
  subscribes again.
-/

namespace AdsAsync.Client

/-- A call on a `Notification`: `add_callback(func)`, `remove_callback(token)`, or
`process` with a pushed sample. -/
inductive Op where
  | addCallback (func : Nat)
  | removeCallback (token : Nat)
  | process (sample : Sample)
deriving DecidableEq, Repr

/-- The sample a `process` call passes. -/
def Op.sample? : Op → Option Sample
  | .process sample => some sample
  | _ => none

/-- Whether the call is a `remove_callback`. -/
def Op.isRemove : Op → Bool
  | .removeCallback _ => true
  | _ => false

/-- Whether a job is a user callback rather than the `subscribe` coroutine. -/
def Job.isCallback : Job → Bool
  | .callback .. => true
  | .subscribe _ => false

/-- Whether a job calls the user callback `func`. -/
def Job.calls (func : Nat) : Job → Bool
  | .callback _ f _ => f = func
  | .subscribe _ => false

namespace Notification

/-- One call on the notification numbered `self`: the new state and the jobs it
submits to the user callback executor. -/
def apply (n : Notification) (self : Nat) : Op → Notification × List Job
  | .addCallback func => ((n.addCallback self func).1, (n.addCallback self func).2.1)
  | .removeCallback token => ((n.removeCallback token).1, [])
  | .process sample => n.process self sample

/-- A run of calls: the last state and every job submitted, in order. -/
def exec (n : Notification) (self : Nat) : List Op → Notification × List Job
  | [] => (n, [])
  | op :: ops =>
    let r := n.apply self op
    let rest := r.1.exec self ops
    (rest.1, r.2 ++ rest.2)

/-- The jobs one call submits for the registration holding `token` (ghost), read off
the jobs the call submits: the callback jobs of `add_callback` go to the callback it
registers; any other call's jobs are matched in order with the registered callbacks. -/
def served (n : Notification) (self token : Nat) (op : Op) : List Job :=
  match op with
  | .addCallback _ =>
    if n.callbackId = token then (n.apply self op).2.filter Job.isCallback else []
  | _ => ((n.callbacks.zip (n.apply self op).2).filter fun p => p.1.1 = token).map Prod.snd

/-- The jobs a run submits for the registration holding `token`, in order (ghost). -/
def servedRun (n : Notification) (self token : Nat) : List Op → List Job
  | [] => []
  | op :: ops => n.served self token op ++ (n.apply self op).1.servedRun self token ops

/-- The calls made since the last `remove_callback` that left no callback registered,
or all of them if there is none; `acc` holds those among the calls already made. -/
def sinceEmptied (n : Notification) (self : Nat) (acc : List Op) : List Op → List Op
  | [] => acc
  | op :: ops =>
    let next := (n.apply self op).1
    next.sinceEmptied self (if op.isRemove ∧ next.callbacks = [] then [] else acc ++ [op]) ops

/-! ### One call -/

variable {n : Notification} {self : Nat}

@[simp] theorem apply_callbackId (op : Op) :
    (n.apply self op).1.callbackId = match op with
      | .addCallback _ => n.callbackId + 1
      | _ => n.callbackId := by
  cases op <;> simp only [apply, removeCallback, deregisterCallback, process] <;> try rfl
  split <;> simp

@[simp] theorem apply_callbacks (op : Op) :
    (n.apply self op).1.callbacks = match op with
      | .addCallback func => n.callbacks ++ [(n.callbackId, func)]
      | .removeCallback token => n.callbacks.filter fun cb => cb.1 ≠ token
      | .process _ => n.callbacks := by
  cases op <;> simp [apply, process, deregisterCallback]

theorem apply_mostRecentNotification (op : Op) :
    (n.apply self op).1.mostRecentNotification = match op with
      | .addCallback _ => n.mostRecentNotification
      | .removeCallback token =>
        if (n.callbacks.filter fun cb => cb.1 ≠ token) = [] then none
        else n.mostRecentNotification
      | .process sample => some sample := by
  cases op <;> simp [apply, process, removeCallback, deregisterCallback]
  split <;> simp_all

theorem zip_map_filter_token (l : List (Nat × Nat)) (g : Nat × Nat → Job) (t : Nat) :
    ((l.zip (l.map g)).filter fun p => p.1.1 = t).map Prod.snd = (l.filter (·.1 = t)).map g := by
  induction l with
  | nil => rfl
  | cons c l ih => by_cases hc : c.1 = t <;> simp [List.filter_cons, hc, ih]

/-- `process` serves each registered callback holding `token` one job with the sample. -/
theorem served_process (t : Nat) (sample : Sample) :
    n.served self t (.process sample) =
      (n.callbacks.filter (·.1 = t)).map fun cb => .callback self cb.2 sample :=
  zip_map_filter_token _ _ t

@[simp] theorem served_removeCallback (t token : Nat) :
    n.served self t (.removeCallback token) = [] := by
  simp [served, apply]

theorem callbackId_le_apply (op : Op) : n.callbackId ≤ (n.apply self op).1.callbackId := by
  cases op <;> simp

theorem callbackId_le_exec (ops : List Op) : n.callbackId ≤ (n.exec self ops).1.callbackId := by
  induction ops generalizing n with
  | nil => exact Nat.le_refl _
  | cons op ops ih => exact Nat.le_trans (callbackId_le_apply op) ih

theorem servedRun_append (a b : List Op) :
    n.servedRun self t (a ++ b) = n.servedRun self t a ++ (n.exec self a).1.servedRun self t b := by
  induction a generalizing n with
  | nil => rfl
  | cons op a ih => simp [servedRun, exec, ih]

/-! ### Tokens -/

/-- Tokens are handed out in increasing order and never again: the registered ones
are increasing and all below `callback_id`. -/
structure TokensBelow (n : Notification) : Prop where
  sorted : n.callbacks.Pairwise fun a b => a.1 < b.1
  below : ∀ cb ∈ n.callbacks, cb.1 < n.callbackId

namespace TokensBelow

theorem init : TokensBelow Notification.init := ⟨List.Pairwise.nil, fun _ h => nomatch h⟩

theorem apply (h : TokensBelow n) (op : Op) : TokensBelow (n.apply self op).1 := by
  cases op with
  | addCallback func =>
    refine ⟨?_, fun cb hcb => ?_⟩
    · simp only [apply_callbacks]
      exact List.pairwise_append.2 ⟨h.sorted, List.pairwise_singleton _ _,
        fun a ha b hb => by simp only [List.mem_singleton] at hb; subst hb; exact h.below a ha⟩
    · simp only [apply_callbacks, List.mem_append, List.mem_singleton, apply_callbackId] at hcb ⊢
      rcases hcb with hcb | rfl
      · exact Nat.lt_succ_of_lt (h.below cb hcb)
      · exact Nat.lt_succ_self _
  | removeCallback token =>
    refine ⟨?_, fun cb hcb => ?_⟩
    · simpa only [apply_callbacks] using h.sorted.filter _
    · simp only [apply_callbacks, List.mem_filter, apply_callbackId] at hcb ⊢
      exact h.below cb hcb.1
  | process sample => exact ⟨h.sorted, h.below⟩

theorem exec (h : TokensBelow n) (ops : List Op) : TokensBelow (n.exec self ops).1 := by
  induction ops generalizing n with
  | nil => exact h
  | cons op ops ih => exact ih (h.apply op)

end TokensBelow

/-- Registered callbacks, filtered once per token handed out, are the callbacks. -/
theorem flatMap_filter_token_perm {l : List (Nat × Nat)} (hl : l.Pairwise fun a b => a.1 < b.1)
    {N : Nat} (hN : ∀ cb ∈ l, cb.1 < N) :
    ((List.range N).flatMap fun t => l.filter (·.1 = t)).Perm l := by
  have hnd : l.Nodup := hl.imp fun hab he => Nat.ne_of_lt hab (congrArg Prod.fst he)
  have hdisj : (List.range N).Pairwise fun t u =>
      (l.filter (·.1 = t)).Disjoint (l.filter (·.1 = u)) :=
    (List.nodup_range N).imp fun hne => List.disjoint_left.2 fun {_} ha hb => hne <| by
      simp only [List.mem_filter, decide_eq_true_eq] at ha hb
      exact ha.2.symm.trans hb.2
  refine (List.perm_ext_iff_of_nodup (List.nodup_flatMap.2 ⟨fun t _ => hnd.filter _, hdisj⟩)
    hnd).2 fun cb => ?_
  simp only [List.mem_flatMap, List.mem_range, List.mem_filter, decide_eq_true_eq]
  exact ⟨fun ⟨_, _, h, _⟩ => h, fun h => ⟨cb.1, hN cb h, h, rfl⟩⟩

/-- Jobs served to one token `c` below `N`, over every token below `N`. -/
theorem flatMap_range_single {c N : Nat} (jobs : List Job) (hc : c < N) :
    (List.range N).flatMap (fun t => if c = t then jobs else []) = jobs := by
  induction N with
  | zero => exact absurd hc (Nat.not_lt_zero _)
  | succ N ih =>
    rw [List.range_succ, List.flatMap_append]
    by_cases hcN : c = N
    · subst hcN
      rw [List.flatMap_eq_nil_iff.2 fun t ht => if_neg (Nat.ne_of_gt (List.mem_range.1 ht))]
      simp
    · simp [ih (by omega), hcN]

/-- **One call serves every job it submits to one token.** The callback jobs of a call
are, up to order, the jobs it serves to the tokens below any bound past the ones it
hands out. -/
theorem apply_jobs_served (h : TokensBelow n) (op : Op) {N : Nat}
    (hN : (n.apply self op).1.callbackId ≤ N) :
    ((n.apply self op).2.filter Job.isCallback).Perm
      ((List.range N).flatMap fun t => n.served self t op) := by
  cases op with
  | addCallback func =>
    simp only [served]
    rw [flatMap_range_single _ (by simp only [apply_callbackId] at hN; omega)]
  | removeCallback token => simp [apply]
  | process sample =>
    have hall : (n.apply self (.process sample)).2.filter Job.isCallback =
        n.callbacks.map fun cb => .callback self cb.2 sample := by
      simp [apply, process, List.filter_map, Function.comp_def, Job.isCallback]
    rw [hall]
    simp only [served_process, ← List.map_flatMap]
    exact ((flatMap_filter_token_perm h.sorted fun cb hcb => Nat.lt_of_lt_of_le (h.below cb hcb)
      (by simpa using hN)).map _).symm

/-! ### Runs -/

/-- **A run serves every job it submits to one token.** The callback jobs a run
submits are, up to order, the jobs it serves to the tokens below any bound past the
ones it hands out. -/
theorem exec_jobs_served (h : TokensBelow n) (ops : List Op) {N : Nat}
    (hN : (n.exec self ops).1.callbackId ≤ N) :
    ((n.exec self ops).2.filter Job.isCallback).Perm
      ((List.range N).flatMap fun t => n.servedRun self t ops) := by
  induction ops generalizing n with
  | nil => simp [exec, servedRun]
  | cons op ops ih =>
    have h₁ := apply_jobs_served h op (Nat.le_trans (callbackId_le_exec ops) hN)
    simp only [exec, servedRun, List.filter_append]
    exact (h₁.append (ih (h.apply op) hN)).trans (List.flatMap_append_perm _ _ _)

/-- A token that no registered callback holds and that the run does not hand out is
served nothing. -/
theorem servedRun_eq_nil {t : Nat} (ops : List Op) (hfree : ∀ cb ∈ n.callbacks, cb.1 ≠ t)
    (hout : t < n.callbackId ∨ (n.exec self ops).1.callbackId ≤ t) :
    n.servedRun self t ops = [] := by
  induction ops generalizing n with
  | nil => rfl
  | cons op ops ih =>
    have hnext : t < (n.apply self op).1.callbackId ∨
        ((n.apply self op).1.exec self ops).1.callbackId ≤ t :=
      hout.imp (fun h => Nat.lt_of_lt_of_le h (callbackId_le_apply op)) id
    rw [servedRun]
    cases op with
    | addCallback func =>
      -- the token this call hands out is not `t`
      have hid : n.callbackId ≠ t := by
        have hle : (n.apply self (.addCallback func)).1.callbackId ≤
            ((n.apply self (.addCallback func)).1.exec self ops).1.callbackId :=
          callbackId_le_exec ops
        simp only [apply_callbackId] at hle
        rcases hout with h | h
        · exact Nat.ne_of_gt h
        · exact Nat.ne_of_lt (Nat.lt_of_succ_le (Nat.le_trans hle h))
      have hfree' : ∀ cb ∈ (n.apply self (.addCallback func)).1.callbacks, cb.1 ≠ t := by
        simp only [apply_callbacks, List.mem_append, List.mem_singleton]
        rintro cb (hcb | rfl)
        exacts [hfree cb hcb, hid]
      rw [served, if_neg hid, ih hfree' hnext]; rfl
    | removeCallback token =>
      have hfree' : ∀ cb ∈ (n.apply self (.removeCallback token)).1.callbacks, cb.1 ≠ t := by
        simp only [apply_callbacks]
        exact fun cb hcb => hfree cb (List.mem_of_mem_filter hcb)
      rw [ih hfree' hnext, served_removeCallback]; rfl
    | process sample =>
      rw [ih (by simpa only [apply_callbacks] using hfree) hnext, served_process]
      simpa [List.filter_eq_nil_iff] using hfree

/-- While its token stays registered, a callback is sent one job per processed sample;
once `remove_callback` takes the token, nothing. -/
theorem servedRun_registered {t f : Nat} (ops : List Op)
    (hreg : (n.callbacks.filter fun cb => cb.1 = t) = [(t, f)]) (ht : t < n.callbackId) :
    n.servedRun self t ops =
      ((ops.takeWhile (· ≠ .removeCallback t)).filterMap Op.sample?).map (.callback self f ·) := by
  induction ops generalizing n with
  | nil => rfl
  | cons op ops ih =>
    cases op with
    | addCallback func =>
      have hreg' : ((n.apply self (.addCallback func)).1.callbacks.filter fun cb => cb.1 = t) =
          [(t, f)] := by
        simp [List.filter_append, hreg, Nat.ne_of_gt ht]
      rw [servedRun, ih hreg' (by simp only [apply_callbackId]; omega), served,
        if_neg (Nat.ne_of_gt ht)]
      simp [List.takeWhile_cons, Op.sample?]
    | removeCallback token =>
      by_cases htok : token = t
      · subst htok
        rw [servedRun, servedRun_eq_nil _ (by simp) (.inl (by simpa))]
        simp [List.takeWhile_cons]
      · have hreg' : ((n.apply self (.removeCallback token)).1.callbacks.filter
            fun cb => cb.1 = t) = [(t, f)] := by
          rw [apply_callbacks, List.filter_filter, ← hreg]
          exact List.filter_congr fun cb _ => by by_cases h : cb.1 = t <;> simp [h, Ne.symm htok]
        rw [servedRun, ih hreg' (by simpa)]
        simp [List.takeWhile_cons, htok, Op.sample?]
    | process sample =>
      rw [servedRun, ih (by simpa) (by simpa), served_process, hreg]
      simp [List.takeWhile_cons, Op.sample?]

/-- One call that does not add `func`, from a state where `func` is not registered,
submits no job calling it and leaves it unregistered. -/
theorem apply_not_calls {func : Nat} {op : Op} (hop : op ≠ .addCallback func)
    (hn : ∀ cb ∈ n.callbacks, cb.2 ≠ func) :
    (∀ j ∈ (n.apply self op).2, j.calls func = false) ∧
      ∀ cb ∈ (n.apply self op).1.callbacks, cb.2 ≠ func := by
  cases op with
  | addCallback g =>
    have hg : g ≠ func := fun hg => hop (congrArg Op.addCallback hg)
    refine ⟨fun j hj => ?_, ?_⟩
    · simp only [apply, addCallback_jobs] at hj
      split_ifs at hj
      · rw [List.mem_singleton.1 hj]; rfl
      · split at hj
        · rw [List.mem_singleton.1 hj]; simpa [Job.calls] using hg
        · cases hj
    · simp only [apply_callbacks, List.mem_append, List.mem_singleton]
      rintro cb (hcb | rfl)
      exacts [hn cb hcb, hg]
  | removeCallback token =>
    refine ⟨by simp [apply], ?_⟩
    simpa only [apply_callbacks] using fun cb hcb => hn cb (List.mem_of_mem_filter hcb)
  | process sample =>
    refine ⟨fun j hj => ?_, by simpa only [apply_callbacks] using hn⟩
    simp only [apply, process, List.mem_map] at hj
    obtain ⟨cb, hcb, rfl⟩ := hj
    simpa [Job.calls] using hn cb hcb

/-- A run calls no callback `func` that is not registered and that it does not add. -/
theorem exec_not_calls {func : Nat} (ops : List Op)
    (hops : ∀ op ∈ ops, op ≠ .addCallback func) (hn : ∀ cb ∈ n.callbacks, cb.2 ≠ func) :
    ∀ j ∈ (n.exec self ops).2, j.calls func = false := by
  induction ops generalizing n with
  | nil => simp [exec]
  | cons op ops ih =>
    obtain ⟨hjobs, hnext⟩ := apply_not_calls (hops op (List.mem_cons_self _ _)) hn
    simp only [exec, List.mem_append]
    rintro j (hj | hj)
    exacts [hjobs j hj, ih (fun op' h => hops op' (List.mem_cons_of_mem _ h)) hnext j hj]

theorem mostRecentNotification_exec (ops : List Op) {acc : List Op}
    (h : n.mostRecentNotification = (acc.filterMap Op.sample?).getLast?) :
    (n.exec self ops).1.mostRecentNotification =
      ((n.sinceEmptied self acc ops).filterMap Op.sample?).getLast? := by
  induction ops generalizing n acc with
  | nil => exact h
  | cons op ops ih =>
    refine ih ?_
    rw [apply_mostRecentNotification]
    cases op with
    | addCallback func => simp [Op.isRemove, Op.sample?, h]
    | removeCallback token =>
      simp only [apply_callbacks, Op.isRemove, true_and]
      by_cases hempty : (n.callbacks.filter fun cb => cb.1 ≠ token) = []
      · rw [if_pos hempty, if_pos hempty]; rfl
      · rw [if_neg hempty, if_neg hempty, h]; simp [Op.sample?]
    | process sample => simp [Op.isRemove, Op.sample?]

end Notification

open Notification in
/-- Over every run of `add_callback`, `remove_callback` and `process` from
`Notification.__init__`: the callback registered by `add_callback(f)` after the calls
`pre` is sent the cached sample if the callback set was non-empty, then one job per
sample processed until its token is removed, and nothing else; the cache is the last
sample processed since the last `remove_callback` that emptied the set; and the
callback jobs of every run are, up to order, those the registrations are served. -/
theorem callbacks_served_in_order (self : Nat) :
    (∀ (pre : List Op) (f : Nat) (post : List Op),
      let n := (Notification.init.exec self pre).1
      Notification.init.servedRun self n.callbackId (pre ++ .addCallback f :: post) =
        (if n.callbacks = [] then [] else n.mostRecentNotification.toList.map (.callback self f ·)) ++
          ((post.takeWhile (· ≠ .removeCallback n.callbackId)).filterMap Op.sample?).map
            (.callback self f ·)) ∧
    (∀ ops : List Op, (Notification.init.exec self ops).1.mostRecentNotification =
      ((Notification.init.sinceEmptied self [] ops).filterMap Op.sample?).getLast?) ∧
    ∀ ops : List Op, ((Notification.init.exec self ops).2.filter Job.isCallback).Perm
      ((List.range (Notification.init.exec self ops).1.callbackId).flatMap
        fun t => Notification.init.servedRun self t ops) := by
  refine ⟨fun pre f post => ?_, fun ops => mostRecentNotification_exec ops rfl,
    fun ops => exec_jobs_served TokensBelow.init ops (Nat.le_refl _)⟩
  intro n
  have hn : TokensBelow n := TokensBelow.init.exec pre
  have hreg : (((n.apply self (.addCallback f)).1.callbacks.filter
      fun cb => cb.1 = n.callbackId)) = [(n.callbackId, f)] := by
    simp only [apply_callbacks, List.filter_append]
    rw [List.filter_eq_nil_iff.2 fun cb hcb => by simpa using Nat.ne_of_lt (hn.below cb hcb)]
    simp
  rw [servedRun_append, servedRun_eq_nil pre (by simp [Notification.init]) (.inr (Nat.le_refl _)),
    List.nil_append, servedRun, served, if_pos rfl,
    servedRun_registered post hreg (by simp only [apply_callbackId]; omega), apply,
    addCallback_jobs]
  split_ifs
  · rfl
  · cases n.mostRecentNotification <;> rfl

/-- `clear()` is the run of `remove_callback` on the tokens it lists, and submits no
job. -/
theorem exec_removeCallbacks (n : Notification) (self : Nat) :
    n.exec self (n.callbacks.map fun cb => .removeCallback cb.1) = (n.clear, []) := by
  suffices h : ∀ (ts : List (Nat × Nat)) (m : Notification),
      m.exec self (ts.map fun cb => .removeCallback cb.1) =
        (ts.foldl (fun m cb => (m.removeCallback cb.1).1) m, []) from h _ _
  intro ts
  induction ts with
  | nil => intro m; rfl
  | cons t ts ih => intro m; simp only [List.map_cons, Notification.exec, ih]; rfl

/-- **`clear()` silences the notification.** From every state, `clear()` is a run of
`remove_callback` calls that submits no job; it leaves no callback registered and
`callback_id` as it was; it drops the handle and the cached sample when it removed a
callback, and changes nothing when there was none (a handle confirmed after the last
removal stays); the next `add_callback` subscribes again; and whatever calls follow,
no callback is called again unless it is added again. -/
theorem clear_silences (n : Notification) (self : Nat) :
    n.exec self (n.callbacks.map fun cb => .removeCallback cb.1) = (n.clear, []) ∧
      n.clear.callbacks = [] ∧ n.clear.callbackId = n.callbackId ∧
      (n.callbacks ≠ [] → n.clear.handle = none ∧ n.clear.mostRecentNotification = none) ∧
      (n.callbacks = [] → n.clear = n) ∧
      (∀ func, (n.clear.addCallback self func).2.1 = [.subscribe self]) ∧
      ∀ (func : Nat) (ops : List Op), (∀ op ∈ ops, op ≠ .addCallback func) →
        ∀ j ∈ (n.clear.exec self ops).2, j.calls func = false := by
  have hc : n.clear.callbacks = [] := by
    rw [Notification.clear, Notification.foldl_removeCallback_callbacks, List.filter_eq_nil_iff]
    exact fun cb hcb => by simpa using List.mem_map_of_mem Prod.fst hcb
  have hid : n.clear.callbackId = n.callbackId := Notification.foldl_removeCallback_callbackId _ _
  refine ⟨exec_removeCallbacks n self, hc, hid,
    fun hne => Notification.foldl_removeCallback_dormant _ hne _ hc,
    fun h => by rw [Notification.clear, h]; rfl,
    fun func => by rw [Notification.addCallback_jobs, if_pos hc],
    fun func ops hops => Notification.exec_not_calls ops hops (by simp [hc])⟩

/-- A late joiner (token 1) gets the cached sample, then the next push, and nothing
after its removal. -/
example : Notification.init.servedRun 0 1 [.addCallback 5, .process ⟨1, 2, 3⟩, .addCallback 7,
    .process ⟨4, 5, 6⟩, .removeCallback 1, .process ⟨7, 8, 9⟩] =
    [.callback 0 7 ⟨1, 2, 3⟩, .callback 0 7 ⟨4, 5, 6⟩] := by decide

end AdsAsync.Client
