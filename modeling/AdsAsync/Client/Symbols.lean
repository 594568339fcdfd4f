import Mathlib.Order.Basic
import AdsAsync.Wire.Utf8

/-!
# Symbols and `close()`

`Symbol` (`asyncio/client.py`) resolves a variable name to a server handle on first
use and reads the variable through it; `AsyncioClient.get_symbol_by_name` caches one
`Symbol` per name; `AsyncioClient.close` releases every cached symbol and closes the
writer.

The PLC's answers are the environment: an `Answers` record gives the symbol entry,
the handle and the value it returns. Whether `info.index_group` names an
`AdsIndexGroup` member comes from the constants table, which is not among the
sources, and is a parameter.

* `read_after_release_fails` — the first `initialize` stores the entry's index group
  and offset, `release` clears only the handle, so the next `read` takes the
  index-group branch of `initialize` and raises `NotImplementedError`; and
  `__aexit__` awaits `self.clear()`, which `Symbol` does not define.
* `close_io_error_escapes` — `close` catches `OSError` only around
  `writer.close()`: an `OSError` from the release of a cached symbol escapes with the
  cache full and the writer open, a name looked up during a release resizes the
  dictionary under its iterator, and a client that never connected has no `writer`.
* `string_read_value` — for a `STRING` symbol, `read` returns a text exactly when the
  data is UTF-8 up to a first NUL; otherwise it returns bytes, all of the joined data
  when there is no NUL (not the sequence `deserialize_data` gave), the bytes before
  the NUL when they are not UTF-8.
* `close_quiet` — with every release sent, a connection open and only cached names
  looked up meanwhile, `close` empties the cache and closes the writer.
-/

namespace AdsAsync.Client

/-- Outcomes are equal when they are the same constructor with equal payloads, so that
`decide` can compare them. -/
instance instDecidableEqExcept {ε α : Type} [DecidableEq ε] [DecidableEq α] :
    DecidableEq (Except ε α)
  | .error a, .error b => decidable_of_iff (a = b) ⟨congrArg _, Except.error.inj⟩
  | .ok a, .ok b => decidable_of_iff (a = b) ⟨congrArg _, Except.ok.inj⟩
  | .error _, .ok _ => isFalse nofun
  | .ok _, .error _ => isFalse nofun

/-- The exceptions these methods can raise. -/
inductive SymbolError where
  /-- `ValueError`: no name and no index group/offset, or a strict enum property read
  a value its enum does not name. -/
  | valueError
  | notImplementedError
  /-- `AttributeError`: a missing method or attribute. -/
  | attributeError
  | osError
  /-- `RuntimeError`: the dictionary changed size during iteration. -/
  | runtimeError
deriving DecidableEq, Repr

/-- The fields of `AdsSymbolEntry` the symbol reads: the raw `_index_group`, the
offset and the size. -/
structure SymbolEntry where
  indexGroup : Nat
  indexOffset : Nat
  size : Nat
deriving DecidableEq, Repr

/-- What the PLC answers: the entry of the symbol's name, the handle for it, and the
decoded value. -/
structure Answers where
  info : SymbolEntry
  handle : Nat
  value : Nat
deriving DecidableEq, Repr

/-- A `Symbol`'s attributes. -/
structure Symbol where
  name : Option String
  indexGroup : Option Nat
  indexOffset : Option Nat
  info : Option SymbolEntry
  handle : Option Nat
deriving DecidableEq, Repr

namespace Symbol

/-- `Symbol(owner, name=name)`, as `get_symbol_by_name` makes it. -/
def ofName (name : String) : Symbol := ⟨some name, none, none, none, none⟩

/-- `is_initialized`. -/
def isInitialized (sym : Symbol) : Bool := sym.handle.isSome

/-- `Symbol.initialize` (a Lean keyword), where `isIndexGroup` says which raw values
the strict `AdsSymbolEntry.index_group` property accepts. -/
def initializeSymbol (isIndexGroup : Nat → Bool) (ans : Answers) (sym : Symbol) :
    Except SymbolError Symbol :=
  if sym.indexGroup = none ∨ sym.indexOffset = none then
    match sym.name with
    | none => .error .valueError
    | some _ =>
      if isIndexGroup ans.info.indexGroup then
        .ok { sym with info := some ans.info, indexGroup := some ans.info.indexGroup,
                       indexOffset := some ans.info.indexOffset, handle := some ans.handle }
      else .error .valueError
  else .error .notImplementedError

/-- `Symbol.read`: initialize if needed, then read `info.size` bytes by handle; the
decoded value is the PLC's. -/
def read (isIndexGroup : Nat → Bool) (ans : Answers) (sym : Symbol) :
    Except SymbolError (Symbol × Nat) := do
  let sym ← if sym.isInitialized then pure sym else sym.initializeSymbol isIndexGroup ans
  pure (sym, ans.value)

/-- `Symbol.release`: release a held handle; `sent` says whether the transport took
the release-handle frame. -/
def release (sent : Bool) (sym : Symbol) : Except SymbolError Symbol :=
  match sym.handle with
  | none => .ok sym
  | some _ => if sent then .ok { sym with handle := none } else .error .osError

/-- `Symbol.__aexit__` awaits `self.clear()`: `Symbol` has no such attribute. -/
def aexit (_sym : Symbol) : Except SymbolError Symbol := .error .attributeError

end Symbol

/-- One operation of a user on a symbol. -/
inductive SymbolOp where
  | read
  | release
  | aexit
deriving DecidableEq, Repr

/-- A sequence of operations with every request answered, stopping at the first
exception; the values the reads return. -/
def runSymbol (isIndexGroup : Nat → Bool) (ans : Answers) :
    List SymbolOp → Symbol → Except SymbolError (Symbol × List Nat)
  | [], sym => .ok (sym, [])
  | .read :: ops, sym => do
    let (sym, v) ← sym.read isIndexGroup ans
    let (sym, vs) ← runSymbol isIndexGroup ans ops sym
    pure (sym, v :: vs)
  | .release :: ops, sym => do runSymbol isIndexGroup ans ops (← sym.release true)
  | .aexit :: ops, sym => do runSymbol isIndexGroup ans ops (← sym.aexit)

/-- After a successful first `read` and a `release`, `read` fails: `initialize`
finds the index group and offset set and raises `NotImplementedError`. -/
theorem read_release_read (isIndexGroup : Nat → Bool) (ans : Answers) (name : String)
    (h : isIndexGroup ans.info.indexGroup = true) :
    runSymbol isIndexGroup ans [.read, .release, .read] (Symbol.ofName name) =
      .error .notImplementedError := by
  simp [runSymbol, Symbol.read, Symbol.isInitialized, Symbol.ofName, Symbol.initializeSymbol, h,
    Symbol.release, bind, Except.bind, pure, Except.pure]

/-- With symbol `"x"` resolved to index group `0x4020`, a `read`, a `release` and a
second `read` raise `NotImplementedError`; and leaving `async with sym:` raises
`AttributeError`. -/
theorem read_after_release_fails :
    runSymbol (fun g => g = 0x4020) ⟨⟨0x4020, 0, 2⟩, 7, 42⟩ [.read]
        (Symbol.ofName "x") = .ok (⟨some "x", some 0x4020, some 0, some ⟨0x4020, 0, 2⟩, some 7⟩, [42]) ∧
      runSymbol (fun g => g = 0x4020) ⟨⟨0x4020, 0, 2⟩, 7, 42⟩ [.read, .release, .read]
        (Symbol.ofName "x") = .error .notImplementedError ∧
      runSymbol (fun g => g = 0x4020) ⟨⟨0x4020, 0, 2⟩, 7, 42⟩ [.aexit]
        (Symbol.ofName "x") = .error .attributeError :=
  ⟨by decide, read_release_read _ _ _ (by decide), by decide⟩

/-! ### The value of a `STRING` symbol -/

/-- What `read` returns for a symbol whose data type is `STRING`: a text, or the bytes
`data` holds where the `try` block fell through to `return data`. -/
inductive StringValue where
  | text (s : String)
  | bytes (b : List UInt8)
deriving DecidableEq, Repr

/-- The `STRING` branch of `Symbol.read`, on the byte strings `structs.deserialize_data`
returns (`deserialize_data` is not among the sources): `data = b''.join(data)`,
`data = data[:data.index(0)]`, `return str(data, self.string_encoding)` with the default
`'utf-8'`. A `ValueError` from `index` (no NUL) or from the codec
(`UnicodeDecodeError`) falls through to `return data`, which then holds what the
assignments before it left. -/
def Symbol.stringValue (data : List (List UInt8)) : StringValue :=
  let data := data.flatten
  match data.indexOf? 0 with
  | none => .bytes data
  | some i =>
    let data := data.take i
    match Wire.Utf8.decode data with
    | some s => .text s
    | none => .bytes data

/-- `bytes.index(0)` finds nothing in bytes with no NUL. -/
theorem indexOf?_zero_eq_none {b : List UInt8} (h : (0 : UInt8) ∉ b) : b.indexOf? 0 = none :=
  List.findIdx?_eq_none_iff.2 fun x hx => by simpa using ne_of_mem_of_not_mem hx h

/-- `bytes.index(0)` finds the NUL after bytes that have none. -/
theorem indexOf?_zero_append {pre post : List UInt8} (h : (0 : UInt8) ∉ pre) :
    (pre ++ 0 :: post).indexOf? 0 = some pre.length := by
  simp only [List.indexOf?, List.findIdx?_append]
  rw [List.findIdx?_eq_none_iff.2 fun x hx => by simpa using ne_of_mem_of_not_mem hx h]
  simp

/-- Bytes with a NUL split at their first one. -/
theorem exists_split_first_zero {b : List UInt8} (h : (0 : UInt8) ∈ b) :
    ∃ pre post, b = pre ++ 0 :: post ∧ (0 : UInt8) ∉ pre := by
  induction b with
  | nil => cases h
  | cons x b ih =>
    by_cases hx : x = 0
    · exact ⟨[], b, by rw [hx]; rfl, List.not_mem_nil _⟩
    · obtain ⟨pre, post, rfl, hpre⟩ := ih ((List.mem_cons.1 h).resolve_left (Ne.symm hx))
      exact ⟨x :: pre, post, rfl, by simp [Ne.symm hx, hpre]⟩

/-- The first NUL splits bytes in one way only. -/
theorem split_first_zero_inj {pre post pre' post' : List UInt8}
    (h : pre ++ 0 :: post = pre' ++ 0 :: post') (hpre : (0 : UInt8) ∉ pre)
    (hpre' : (0 : UInt8) ∉ pre') : pre = pre' ∧ post = post' := by
  have hlen : (pre ++ 0 :: post).indexOf? 0 = some pre.length := indexOf?_zero_append hpre
  rw [h, indexOf?_zero_append hpre', Option.some.injEq] at hlen
  obtain ⟨hp, hq⟩ := List.append_inj h hlen.symm
  exact ⟨hp, List.cons.inj hq |>.2⟩

theorem stringValue_of_not_mem {data : List (List UInt8)} (h : (0 : UInt8) ∉ data.flatten) :
    Symbol.stringValue data = .bytes data.flatten := by
  simp only [Symbol.stringValue, indexOf?_zero_eq_none h]

theorem stringValue_of_split {data : List (List UInt8)} {pre post : List UInt8}
    (h : data.flatten = pre ++ 0 :: post) (hpre : (0 : UInt8) ∉ pre) :
    Symbol.stringValue data = match Wire.Utf8.decode pre with
      | some s => .text s
      | none => .bytes pre := by
  simp only [Symbol.stringValue, h, indexOf?_zero_append hpre, List.take_left]

/-- **A `STRING` symbol reads back NUL-terminated UTF-8 text, and nothing else as
text.** Whatever byte strings `deserialize_data` returns, `read` returns the text `s`
exactly when they join to `s.encode('utf-8')`, a NUL and anything after, with no NUL
in `s`. Otherwise it returns bytes: all of the joined data when it holds no NUL, and
the bytes before the first NUL when they are not UTF-8. -/
theorem string_read_value (data : List (List UInt8)) :
    (∀ s, Symbol.stringValue data = .text s ↔
      ∃ pad, data.flatten = Wire.Utf8.encode s ++ 0 :: pad ∧ '\x00' ∉ s.data) ∧
    (∀ b, Symbol.stringValue data = .bytes b ↔
      ((0 : UInt8) ∉ data.flatten ∧ b = data.flatten) ∨
        ∃ post, data.flatten = b ++ 0 :: post ∧ (0 : UInt8) ∉ b ∧ Wire.Utf8.decode b = none) := by
  by_cases hz : (0 : UInt8) ∈ data.flatten
  · obtain ⟨pre, post, hsplit, hpre⟩ := exists_split_first_zero hz
    -- every NUL-terminated reading of the data is the one at its first NUL
    have huniq : ∀ b post', data.flatten = b ++ 0 :: post' → (0 : UInt8) ∉ b → b = pre :=
      fun b post' hb h0 => (split_first_zero_inj (hb.symm.trans hsplit) h0 hpre).1
    -- so a reading as text is the decoding of the bytes before the first NUL
    have htext : ∀ s pad, data.flatten = Wire.Utf8.encode s ++ 0 :: pad → '\x00' ∉ s.data →
        Wire.Utf8.decode pre = some s := fun s pad hpad hnul => by
      rw [← huniq _ _ hpad (by rwa [Wire.Utf8.zero_mem_encode_iff]), Wire.Utf8.decode_encode]
    rw [stringValue_of_split hsplit hpre]
    cases hdec : Wire.Utf8.decode pre with
    | some s0 =>
      have henc : Wire.Utf8.encode s0 = pre := Wire.Utf8.decode_eq_some_iff.1 hdec
      refine ⟨fun s => ⟨?_, fun ⟨pad, hpad, hnul⟩ => ?_⟩, fun b => ⟨nofun, ?_⟩⟩
      · rintro ⟨⟩
        exact ⟨post, henc ▸ hsplit, by rwa [← Wire.Utf8.zero_mem_encode_iff, henc]⟩
      · rw [htext s pad hpad hnul] at hdec; cases hdec; rfl
      · rintro (⟨h0, -⟩ | ⟨post', hb, h0, hnone⟩)
        · exact absurd hz h0
        · rw [huniq _ _ hb h0, hdec] at hnone; cases hnone
    | none =>
      refine ⟨fun s => ⟨nofun, fun ⟨pad, hpad, hnul⟩ => ?_⟩, fun b => ⟨?_, ?_⟩⟩
      · rw [htext s pad hpad hnul] at hdec; cases hdec
      · rintro ⟨⟩; exact .inr ⟨post, hsplit, hpre, hdec⟩
      · rintro (⟨h0, -⟩ | ⟨post', hb, h0, -⟩)
        · exact absurd hz h0
        · rw [huniq _ _ hb h0]
  · rw [stringValue_of_not_mem hz]
    refine ⟨fun s => ⟨nofun, ?_⟩, fun b => ⟨?_, ?_⟩⟩
    · rintro ⟨pad, hpad, -⟩; exact absurd (by simp [hpad]) hz
    · rintro ⟨⟩; exact .inl ⟨hz, rfl⟩
    · rintro (⟨-, rfl⟩ | ⟨post, hb, -⟩)
      · rfl
      · exact absurd (by simp [hb]) hz

/-! ### `close()` -/

/-- The client's writer, once a connection has been opened: whether `close()` has been
called on it. -/
structure Writer where
  closeCalled : Bool
deriving DecidableEq, Repr

/-- What `close()` reads and writes of an `AsyncioClient`; `writer` is `none` before
the first connection, when the attribute does not exist. -/
structure Closing where
  reconnectRate : Option Nat
  symbols : List (String × Symbol)
  writer : Option Writer
deriving DecidableEq, Repr

/-- What happens while `close()` is suspended in the release of the symbol at
position `k` of the cache: the names other tasks look up, and whether the
release-handle frame is written and drained. -/
structure CloseEnv where
  lookups : Nat → List String
  sent : Nat → Bool

/-- `AsyncioClient.get_symbol_by_name` on the cache: a new name is appended. -/
def getSymbolByName (name : String) (symbols : List (String × Symbol)) :
    List (String × Symbol) :=
  if name ∈ symbols.map Prod.fst then symbols else symbols ++ [(name, Symbol.ofName name)]

namespace Closing

/-- `for sym in self._symbols.values(): await sym.release()`, over a cache that had
`size` entries when the loop began, with `left` positions to go. The dict iterator
raises `RuntimeError` at its next step once the size differs, so while the loop runs
the cache has `size` entries and the loop makes exactly `size` steps. A release
suspends only when the symbol holds a handle: `send` writes, then awaits `drain()`. -/
def releaseAll (env : CloseEnv) (size : Nat) : Nat → Closing → Closing × Option SymbolError
  | 0, c => if c.symbols.length ≠ size then (c, some .runtimeError) else (c, none)
  | left + 1, c =>
    if c.symbols.length ≠ size then (c, some .runtimeError) else
    let pos := size - (left + 1)
    match c.symbols[pos]? with
    | none => (c, none)
    | some (name, sym) =>
      match sym.handle, c.writer with
      | none, _ => releaseAll env size left c
      | some _, none => (c, some .attributeError)
      | some _, some _ =>
        let looked := (env.lookups pos).foldl (fun syms n => getSymbolByName n syms) c.symbols
        if env.sent pos then
          releaseAll env size left
            { c with symbols := looked.set pos (name, { sym with handle := none }) }
        else ({ c with symbols := looked }, some .osError)

/-- `AsyncioClient.close`. The `OSError` that `writer.close()` may raise is caught. -/
def close (env : CloseEnv) (c : Closing) : Closing × Option SymbolError :=
  let c := { c with reconnectRate := none }
  match releaseAll env c.symbols.length c.symbols.length c with
  | (c, some e) => (c, some e)
  | (c, none) =>
    match c.writer with
    | none => ({ c with symbols := [] }, some .attributeError)
    | some _ => ({ c with symbols := [], writer := some ⟨true⟩ }, none)

/-- The release loop leaves the reconnect rate alone. -/
theorem releaseAll_reconnectRate (env : CloseEnv) (size : Nat) :
    ∀ left (c : Closing), (releaseAll env size left c).1.reconnectRate = c.reconnectRate
  | 0, c => by unfold releaseAll; split_ifs <;> rfl
  | left + 1, c => by
    unfold releaseAll
    split_ifs
    · rfl
    · dsimp only
      split
      · rfl
      · split
        · exact releaseAll_reconnectRate env size left c
        · rfl
        · split_ifs
          · exact releaseAll_reconnectRate env size left _
          · rfl

end Closing

/-- Looking up a cached name leaves the cache as it is. -/
theorem getSymbolByName_of_mem {name : String} {symbols : List (String × Symbol)}
    (h : name ∈ symbols.map Prod.fst) : getSymbolByName name symbols = symbols :=
  if_pos h

theorem foldl_getSymbolByName_of_mem (symbols : List (String × Symbol)) :
    ∀ names : List String, (∀ n ∈ names, n ∈ symbols.map Prod.fst) →
      names.foldl (fun syms n => getSymbolByName n syms) symbols = symbols
  | [], _ => rfl
  | n :: names, h => by
    rw [List.foldl_cons, getSymbolByName_of_mem (h n (List.mem_cons_self n names))]
    exact foldl_getSymbolByName_of_mem symbols names fun m hm => h m (List.mem_cons_of_mem n hm)

/-- Releasing the symbol at its own position keeps the cache's names. -/
theorem map_fst_set_of_getElem? {symbols : List (String × Symbol)} {pos : Nat} {name : String}
    {sym sym' : Symbol} (h : symbols[pos]? = some (name, sym)) :
    (symbols.set pos (name, sym')).map Prod.fst = symbols.map Prod.fst := by
  apply List.ext_getElem?
  intro k
  rw [List.map_set, List.getElem?_set]
  split_ifs with hk hlt
  · subst hk; simp [h]
  · subst hk; rw [List.length_map] at hlt; simp [List.getElem?_eq_none (Nat.le_of_not_lt hlt)] at h
  · rfl

namespace Closing

/-- With every frame sent, a writer present and only cached names looked up, the
release loop ends without an exception and keeps the writer. -/
theorem releaseAll_quiet (env : CloseEnv) (names : List String) (w : Writer)
    (hsent : ∀ k, env.sent k = true) (hlook : ∀ k, ∀ n ∈ env.lookups k, n ∈ names) :
    ∀ left (c : Closing), c.symbols.map Prod.fst = names → c.writer = some w →
      (releaseAll env names.length left c).2 = none ∧
        (releaseAll env names.length left c).1.writer = some w
  | 0, c, hc, hw => by
    have hlen : c.symbols.length = names.length := by rw [← hc, List.length_map]
    simp [releaseAll, hlen, hw]
  | left + 1, c, hc, hw => by
    have hlen : c.symbols.length = names.length := by rw [← hc, List.length_map]
    unfold releaseAll
    rw [if_neg (not_not_intro hlen)]
    dsimp only
    split
    · exact ⟨rfl, hw⟩
    · rename_i name sym hpos
      split
      · exact releaseAll_quiet env names w hsent hlook left c hc hw
      · simp_all
      · have hkeep := foldl_getSymbolByName_of_mem c.symbols
          (env.lookups (names.length - (left + 1))) fun n hn => hc ▸ hlook _ n hn
        simp only [hkeep, hsent, if_true]
        exact releaseAll_quiet env names w hsent hlook left _
          ((map_fst_set_of_getElem? hpos).trans hc) hw

end Closing

/-- A symbol `"x"` holding handle 7. -/
def heldX : String × Symbol := ("x", ⟨some "x", some 0x4020, some 0, some ⟨0x4020, 0, 2⟩, some 7⟩)

/-- If no write fails, a connection has been opened and other tasks look up only
cached names, `close()` returns normally with `reconnect_rate` `None`, the cache empty
and `writer.close()` called. -/
theorem close_quiet (env : CloseEnv) (c : Closing) (w : Writer) (hw : c.writer = some w)
    (hsent : ∀ k, env.sent k = true)
    (hlook : ∀ k, ∀ n ∈ env.lookups k, n ∈ c.symbols.map Prod.fst) :
    c.close env = (⟨none, [], some ⟨true⟩⟩, none) := by
  obtain ⟨hnone, hw'⟩ := Closing.releaseAll_quiet env _ w hsent hlook
    c.symbols.length { c with reconnectRate := none } rfl hw
  have hrate := Closing.releaseAll_reconnectRate env c.symbols.length c.symbols.length
    { c with reconnectRate := none }
  rw [List.length_map] at hnone hw'
  unfold Closing.close
  dsimp only
  split
  · simp_all
  · rename_i c' hc'
    simp only [hc'] at hw' hrate
    simp [hw', hrate]

/-- A client caching `heldX` closes cleanly when the release is sent, even if another
task looks `"x"` up meanwhile. -/
theorem close_held_quiet :
    Closing.close ⟨fun _ => ["x"], fun _ => true⟩ ⟨some 10, [heldX], some ⟨false⟩⟩ =
      (⟨none, [], some ⟨true⟩⟩, none) :=
  close_quiet _ _ ⟨false⟩ rfl (fun _ => rfl) fun _ n hn => by simp_all [heldX]

/-- `close()` on a connected client that caches `heldX` fails three ways. The
release-handle frame is not drained: `OSError` escapes with the cache full and the
writer not closed. Another task looks up `"y"` during the release: `RuntimeError`.
And a client that never connected and caches nothing raises `AttributeError` from
`self.writer.close()`. -/
theorem close_io_error_escapes :
    Closing.close ⟨fun _ => [], fun _ => false⟩ ⟨some 10, [heldX], some ⟨false⟩⟩ =
        (⟨none, [heldX], some ⟨false⟩⟩, some .osError) ∧
      (Closing.close ⟨fun _ => ["y"], fun _ => true⟩ ⟨some 10, [heldX], some ⟨false⟩⟩).2 =
        some .runtimeError ∧
      Closing.close ⟨fun _ => [], fun _ => true⟩ ⟨some 10, [], none⟩ =
        (⟨none, [], none⟩, some .attributeError) := by
  decide

end AdsAsync.Client
