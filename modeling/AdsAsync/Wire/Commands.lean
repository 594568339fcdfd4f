import Mathlib.Logic.Function.Basic

/-!
# The command registry

`structs.py` keeps a process-wide dictionary `_commands`, command id ↦ {key ↦ class}.
The class decorators `use_for_request` and `use_for_response` write it through
`_use_for`, which also sets the decorated class's attribute `_command_id`, and
`get_struct_by_command` reads it. The command ids are members of
`constants.AdsCommandId`, which is not among the sources: here they are any type with
equality, as are the classes.

The registry is two levels of dictionary; what it is for is a flat table from a
command id and a direction to the class registered last for them (`lastRegistered`).

* `lookup_useFor`, `commandIdAttr_useFor` — one registration, read through both
  levels, changes the entry it names and nothing else.
* `registry_refines_table` — after any sequence of registrations,
  `get_struct_by_command` returns the class registered last for the command and the
  direction, and raises `KeyError` where there is none; a class's `_command_id` is
  the command of its last registration, or of its nearest registered base class, or
  `INVALID`.
-/

namespace AdsAsync.Wire

/-- What the decorators write: `_commands`, and the `_command_id` each class holds in
its own `__dict__`. -/
structure Registry (κ Cls : Type) where
  commands : κ → Option (String → Option Cls)
  commandIdAttr : Cls → Option κ

/-- The exception `get_struct_by_command` raises. -/
inductive LookupError where
  | keyError
deriving DecidableEq, Repr

/-- One decorator application: the key, the command id and the decorated class. -/
structure Registration (κ Cls : Type) where
  key : String
  commandId : κ
  cls : Cls
deriving DecidableEq, Repr

section Registry

variable {κ Cls : Type} [DecidableEq κ] [DecidableEq Cls]

/-- The module before its first decorator: `_commands = {}`, and no class with a
`_command_id` of its own. -/
def Registry.empty : Registry κ Cls := ⟨fun _ => none, fun _ => none⟩

/-- `_use_for(key, command_id, cls)`: add `_commands[command_id] = {}` if the id is
new, set `_commands[command_id][key] = cls` and `cls._command_id = command_id`, and
return `cls`. -/
def useFor (key : String) (commandId : κ) (cls : Cls) (r : Registry κ Cls) :
    Registry κ Cls × Cls :=
  let commands := match r.commands commandId with
    | none => Function.update r.commands commandId (some fun _ => none)
    | some _ => r.commands
  let inner := (commands commandId).getD fun _ => none
  (⟨Function.update commands commandId (some (Function.update inner key (some cls))),
    Function.update r.commandIdAttr cls (some commandId)⟩, cls)

/-- `use_for_response(command_id)` applied to the class it decorates. -/
def useForResponse (commandId : κ) (cls : Cls) (r : Registry κ Cls) : Registry κ Cls × Cls :=
  useFor "response" commandId cls r

/-- `use_for_request(command_id)` applied to the class it decorates. -/
def useForRequest (commandId : κ) (cls : Cls) (r : Registry κ Cls) : Registry κ Cls × Cls :=
  useFor "request" commandId cls r

/-- `get_struct_by_command(command_id, request)`: `_commands[command_id][key]`, where
either subscript may raise `KeyError`. -/
def getStructByCommand (r : Registry κ Cls) (commandId : κ) (request : Bool) :
    Except LookupError Cls :=
  let key := if request then "request" else "response"
  match r.commands commandId with
  | none => .error .keyError
  | some inner =>
    match inner key with
    | some cls => .ok cls
    | none => .error .keyError

/-- `cls._command_id`, looked up along `mro` (the class, then its bases up to
`_AdsStructBase`), and otherwise `_AdsStructBase._command_id`, `INVALID`. -/
def commandIdOf (invalid : κ) (mro : List Cls) (r : Registry κ Cls) : κ :=
  (mro.findSome? r.commandIdAttr).getD invalid

/-- The registry after a sequence of decorator applications. -/
def Registry.run (r : Registry κ Cls) (regs : List (Registration κ Cls)) : Registry κ Cls :=
  regs.foldl (fun r g => (useFor g.key g.commandId g.cls r).1) r

/-! ### The table the registry implements -/

/-- The class registered last under `commandId` and `key`. -/
def lastRegistered (regs : List (Registration κ Cls)) (commandId : κ) (key : String) :
    Option Cls :=
  ((regs.filter fun g => g.commandId = commandId ∧ g.key = key).map Registration.cls).getLast?

/-- The command `cls` was registered for last. -/
def lastCommandOf (regs : List (Registration κ Cls)) (cls : Cls) : Option κ :=
  ((regs.filter fun g => g.cls = cls).map Registration.commandId).getLast?

/-- A lookup through both levels of `_commands`. -/
def Registry.lookup (r : Registry κ Cls) (commandId : κ) (key : String) : Option Cls :=
  (r.commands commandId).bind fun inner => inner key

omit [DecidableEq κ] [DecidableEq Cls] in
theorem getStructByCommand_eq (r : Registry κ Cls) (commandId : κ) (request : Bool) :
    getStructByCommand r commandId request =
      match r.lookup commandId (if request then "request" else "response") with
      | some cls => .ok cls
      | none => .error .keyError := by
  unfold getStructByCommand Registry.lookup
  cases r.commands commandId <;> rfl

/-- One registration sets the entry it names and leaves every other. -/
theorem lookup_useFor (r : Registry κ Cls) (key : String) (commandId : κ) (cls : Cls)
    (c : κ) (k : String) :
    (useFor key commandId cls r).1.lookup c k =
      if commandId = c ∧ key = k then some cls else r.lookup c k := by
  by_cases hc : c = commandId
  · subst hc
    by_cases hk : k = key
    · subst hk; simp [useFor, Registry.lookup]
    · have hk' : key ≠ k := Ne.symm hk
      cases h : r.commands c <;> simp [useFor, Registry.lookup, h, hk, hk']
  · have hc' : commandId ≠ c := Ne.symm hc
    cases h : r.commands commandId <;> simp [useFor, Registry.lookup, h, hc, hc']

theorem commandIdAttr_useFor (r : Registry κ Cls) (key : String) (commandId : κ) (cls c : Cls) :
    (useFor key commandId cls r).1.commandIdAttr c =
      if cls = c then some commandId else r.commandIdAttr c := by
  by_cases h : c = cls
  · subst h; simp [useFor]
  · simp [useFor, h, Ne.symm h]

omit [DecidableEq Cls] in
theorem lastRegistered_append (regs : List (Registration κ Cls)) (g : Registration κ Cls)
    (c : κ) (k : String) :
    lastRegistered (regs ++ [g]) c k =
      if g.commandId = c ∧ g.key = k then some g.cls else lastRegistered regs c k := by
  unfold lastRegistered
  by_cases h : g.commandId = c ∧ g.key = k <;> simp [List.filter_append, h]

omit [DecidableEq κ] in
theorem lastCommandOf_append (regs : List (Registration κ Cls)) (g : Registration κ Cls)
    (c : Cls) :
    lastCommandOf (regs ++ [g]) c =
      if g.cls = c then some g.commandId else lastCommandOf regs c := by
  unfold lastCommandOf
  by_cases h : g.cls = c <;> simp [List.filter_append, h]

/-- The registry agrees with the table of a log of registrations. -/
structure Implements (r : Registry κ Cls) (log : List (Registration κ Cls)) : Prop where
  lookup : ∀ c k, r.lookup c k = lastRegistered log c k
  commandIdAttr : ∀ c, r.commandIdAttr c = lastCommandOf log c

theorem Implements.empty : Implements (Registry.empty : Registry κ Cls) [] :=
  ⟨fun _ _ => rfl, fun _ => rfl⟩

theorem Implements.useFor {r : Registry κ Cls} {log : List (Registration κ Cls)}
    (h : Implements r log) (g : Registration κ Cls) :
    Implements (Wire.useFor g.key g.commandId g.cls r).1 (log ++ [g]) :=
  ⟨fun c k => by rw [lookup_useFor, lastRegistered_append, h.lookup],
    fun c => by rw [commandIdAttr_useFor, lastCommandOf_append, h.commandIdAttr]⟩

theorem Implements.run {r : Registry κ Cls} {log : List (Registration κ Cls)}
    (h : Implements r log) (regs : List (Registration κ Cls)) :
    Implements (r.run regs) (log ++ regs) := by
  induction regs generalizing r log with
  | nil => simpa using h
  | cons g regs ih =>
    simpa [Registry.run] using ih (h.useFor g)

/-- **The registry is the table of its registrations.** After any sequence of
decorator applications, `get_struct_by_command(command_id, request)` returns the class
registered last for that command id and direction, and raises `KeyError` when none
was; and the `_command_id` a class reads is the command it was registered for last,
or else that of its nearest base class that was registered, or else `INVALID`. -/
theorem registry_refines_table (invalid : κ) (regs : List (Registration κ Cls))
    (commandId : κ) (request : Bool) (mro : List Cls) :
    getStructByCommand (Registry.empty.run regs) commandId request =
        (match lastRegistered regs commandId (if request then "request" else "response") with
          | some cls => .ok cls
          | none => .error .keyError) ∧
      commandIdOf invalid mro (Registry.empty.run regs) =
        (mro.findSome? (lastCommandOf regs)).getD invalid := by
  have h : Implements (Registry.empty.run regs) regs := by
    simpa using (Implements.empty : Implements (Registry.empty : Registry κ Cls) []).run regs
  refine ⟨by rw [getStructByCommand_eq, h.lookup], ?_⟩
  unfold commandIdOf
  congr 2
  exact funext h.commandIdAttr

end Registry

/-! ### The decorators of `structs.py` -/

/-- The members of `constants.AdsCommandId` that `structs.py` names. -/
inductive AdsCommandId where
  | invalid
  | readDeviceInfo
  | readState
  | readWrite
deriving DecidableEq, Repr

/-- The decorators `structs.py` applies, in file order, each with its class's name. -/
def structsRegistrations : List (Registration AdsCommandId String) :=
  [⟨"response", .readDeviceInfo, "AdsDeviceInfo"⟩, ⟨"request", .readWrite, "AdsReadWriteRequest"⟩,
    ⟨"response", .readState, "AdsReadStateResponse"⟩]

/-- Only the request of `READ_WRITE` has a class in this file: its response raises
`KeyError`. -/
example : getStructByCommand (Registry.empty.run structsRegistrations) .readWrite true =
      .ok "AdsReadWriteRequest" ∧
    getStructByCommand (Registry.empty.run structsRegistrations) .readWrite false =
      .error .keyError := by
  constructor <;> rfl

end AdsAsync.Wire
