import AdsAsync.Wire.Structs

/-!
# The frame headers

What `structs.py` adds to the two headers of a frame: `AmsTcpHeader.__init__`, the
class methods `AoEHeader.create_request` and `AoEHeader.create_response`, which pass
their arguments positionally to the `ctypes` constructor, and the properties
`is_response` and `is_request`, which test the `RESPONSE` bit of the strict
`state_flags` property. The flags are members of `constants.AoEHeaderFlag`, which is
not among the sources: `ADS_COMMAND` and `RESPONSE` are the parameters `adsCommand`
and `response`, and which values `AoEHeaderFlag(value)` accepts is `isMember`.

* `aoeHeader_construct` — the seven positional arguments give the two addresses and
  the little-endian integers, each modulo its field's width.
* `isResponse_eq` — `is_response` is the `RESPONSE` bit test on the stored flags, or
  `ValueError` when they are not a member.
* `frame_headers_read_back` — both constructors, for every argument.
* `default_flags_classify` — with their default flags, `create_request` builds a
  request and `create_response` a response.
-/

namespace AdsAsync.Wire

/-! ### `AmsTcpHeader` -/

/-- `AmsTcpHeader(length=0)`: `__init__` passes `0` for `reserved` and then the
length to the constructor. -/
def AmsTcpHeader.init (length : Nat) : Except StructError (Instance AmsTcpHeader) :=
  AmsTcpHeader.construct [.int 0, .int length]

/-- `AmsTcpHeader(length)` is two zero bytes and the length modulo `2 ** 32`. -/
theorem amsTcpHeader_init (length : Nat) :
    ∃ r, AmsTcpHeader.init length = .ok r ∧ r.bytes = [0, 0] ++ toBytesLE 4 length ∧
      r.get 1 = .int (length % 2 ^ 32) := by
  have hfit : AmsTcpHeader.Fits [.int 0, .int (length % 256 ^ 4)] :=
    .cons (by decide) (.cons (by simp [fits, cUint32, Nat.mod_lt]) .nil)
  obtain ⟨r, hr, hbytes⟩ := construct_bytes _ _ hfit
  refine ⟨r, (RecordClass.construct_clamp AmsTcpHeader _ (Nat.le_refl _)).symm.trans hr, ?_,
    get_construct _ _ hfit r hr 1 (by simp)⟩
  rw [hbytes]
  simp only [RecordClass.encode, AmsTcpHeader, RecordClass.ctypes, RecordClass.fields, cUint16,
    cUint32, List.map_cons, List.map_nil, List.zipWith_cons_cons, List.zipWith_nil_left,
    encode, toBytesLE_mod, List.flatten_cons, List.flatten_nil, List.append_nil]
  rfl

/-! ### `AoEHeader` -/

/-- `AoEHeader.create_request(target, source, command_id, length, invoke_id, *,
state_flags, error_code)`: `cls(target, source, command_id, state_flags, length,
error_code, invoke_id)`, the arguments in the order of `_fields_`, so the raw
`_command_id` and `_state_flags` fields take the members' values. -/
def AoEHeader.createRequest (target source : Instance AmsAddr)
    (commandId length invokeId stateFlags errorCode : Nat) :
    Except StructError (Instance AoEHeader) :=
  AoEHeader.construct [.bytes target.bytes, .bytes source.bytes, .int commandId,
    .int stateFlags, .int length, .int errorCode, .int invokeId]

/-- `AoEHeader.create_response`: the call `create_request` makes; only the default
of `state_flags` differs. -/
def AoEHeader.createResponse (target source : Instance AmsAddr)
    (commandId length invokeId stateFlags errorCode : Nat) :
    Except StructError (Instance AoEHeader) :=
  AoEHeader.construct [.bytes target.bytes, .bytes source.bytes, .int commandId,
    .int stateFlags, .int length, .int errorCode, .int invokeId]

/-- The default `state_flags` of `create_request`: `AoEHeaderFlag.ADS_COMMAND`. -/
def AoEHeader.requestFlags (adsCommand : Nat) : Nat := adsCommand

/-- The default `state_flags` of `create_response`: `ADS_COMMAND | RESPONSE`. -/
def AoEHeader.responseFlags (adsCommand response : Nat) : Nat := adsCommand ||| response

/-- `AoEHeader.is_response`: `AoEHeaderFlag.RESPONSE in self.state_flags`.
`Flag.__contains__` tests that every bit of `RESPONSE` is set in the member; the
strict property returns a member or raises, and `in` on anything else would raise
`TypeError`. -/
def AoEHeader.isResponse (isMember : EnumClass → Nat → Bool) (response : Nat)
    (r : Instance AoEHeader) : Except StructError Bool := do
  match ← AoEHeader.stateFlags.get isMember r with
  | .member _ flags => pure (flags &&& response == response)
  | _ => throw .typeError

/-- `AoEHeader.is_request`: `not self.is_response`. -/
def AoEHeader.isRequest (isMember : EnumClass → Nat → Bool) (response : Nat)
    (r : Instance AoEHeader) : Except StructError Bool :=
  (!·) <$> AoEHeader.isResponse isMember response r

theorem createResponse_eq_createRequest (target source : Instance AmsAddr)
    (commandId length invokeId stateFlags errorCode : Nat) :
    AoEHeader.createResponse target source commandId length invokeId stateFlags errorCode =
      AoEHeader.createRequest target source commandId length invokeId stateFlags errorCode :=
  rfl

/-- The constructor on the seven positional arguments: the two addresses' bytes and
the integers, little-endian and each modulo its field's width. -/
theorem aoeHeader_construct (target source : Instance AmsAddr)
    (commandId stateFlags length errorCode invokeId : Nat) :
    ∃ r, AoEHeader.construct [.bytes target.bytes, .bytes source.bytes, .int commandId,
        .int stateFlags, .int length, .int errorCode, .int invokeId] = .ok r ∧
      r.bytes = target.bytes ++ source.bytes ++ toBytesLE 2 commandId ++
        toBytesLE 2 stateFlags ++ toBytesLE 4 length ++ toBytesLE 4 errorCode ++
        toBytesLE 4 invokeId ∧
      [2, 3, 4, 5, 6].map r.get = [.int (commandId % 2 ^ 16), .int (stateFlags % 2 ^ 16),
        .int (length % 2 ^ 32), .int (errorCode % 2 ^ 32), .int (invokeId % 2 ^ 32)] := by
  have hfit : AoEHeader.Fits [.bytes target.bytes, .bytes source.bytes,
      .int (commandId % 256 ^ 2), .int (stateFlags % 256 ^ 2), .int (length % 256 ^ 4),
      .int (errorCode % 256 ^ 4), .int (invokeId % 256 ^ 4)] := by
    refine .cons ?_ (.cons ?_ (.cons ?_ (.cons ?_ (.cons ?_ (.cons ?_ (.cons ?_ .nil)))))) <;>
      simp [fits, RecordClass.asField, Instance.bytes, Instance.length_buf, cUint16, cUint32,
        Nat.mod_lt]
  obtain ⟨r, hr, hbytes⟩ := construct_bytes _ _ hfit
  have hget := get_construct _ _ hfit r hr
  refine ⟨r, (RecordClass.construct_clamp AoEHeader _ (Nat.le_refl _)).symm.trans hr, ?_, ?_⟩
  · rw [hbytes]
    simp only [RecordClass.encode, AoEHeader, RecordClass.ctypes, RecordClass.fields,
      RecordClass.asField, cUint16, cUint32, List.map_cons, List.map_nil,
      List.zipWith_cons_cons, List.zipWith_nil_left, encode, toBytesLE_mod, List.flatten_cons,
      List.flatten_nil, List.append_nil, List.append_assoc]
  · simp only [List.map_cons, List.map_nil, hget 2 (by simp), hget 3 (by simp),
      hget 4 (by simp), hget 5 (by simp), hget 6 (by simp)]
    rfl

/-- `is_response` tests the `RESPONSE` bit of the flags a header stores, and raises
`ValueError` when they are not a member of `AoEHeaderFlag`. -/
theorem isResponse_eq (isMember : EnumClass → Nat → Bool) (response : Nat)
    (r : Instance AoEHeader) {flags : Nat} (h : r.get 3 = .int flags) :
    AoEHeader.isResponse isMember response r =
      if isMember .aoeHeaderFlag flags then .ok (flags &&& response == response)
      else .error .valueError := by
  simp only [AoEHeader.isResponse, AoEHeader.stateFlags, Property.get, h]
  split_ifs <;> rfl

/-- **The frame headers' constructors.** For every length `≥ 0`, `AmsTcpHeader(length)`
is two zero bytes and the length modulo `2 ** 32`. For all addresses and all
non-negative command id, length, invoke id, state flags and error code, `create_request` and `create_response` build
the same 32-byte header: the two addresses, then the command id and the flags as
16-bit and the length, the error code and the invoke id as 32-bit little-endian
integers, which its fields read back modulo their widths. `is_response` is then the
`RESPONSE` bit of the stored flags, and raises `ValueError` when they are not an
`AoEHeaderFlag`. -/
theorem frame_headers_read_back (isMember : EnumClass → Nat → Bool) (response : Nat)
    (tcpLength : Nat) (target source : Instance AmsAddr)
    (commandId length invokeId stateFlags errorCode : Nat) :
    (∃ r, AmsTcpHeader.init tcpLength = .ok r ∧ r.bytes = [0, 0] ++ toBytesLE 4 tcpLength ∧
      r.get 1 = .int (tcpLength % 2 ^ 32)) ∧
    ∃ r, AoEHeader.createRequest target source commandId length invokeId stateFlags errorCode =
        .ok r ∧
      AoEHeader.createResponse target source commandId length invokeId stateFlags errorCode =
        .ok r ∧
      r.bytes = target.bytes ++ source.bytes ++ toBytesLE 2 commandId ++
        toBytesLE 2 stateFlags ++ toBytesLE 4 length ++ toBytesLE 4 errorCode ++
        toBytesLE 4 invokeId ∧
      [2, 3, 4, 5, 6].map r.get = [.int (commandId % 2 ^ 16), .int (stateFlags % 2 ^ 16),
        .int (length % 2 ^ 32), .int (errorCode % 2 ^ 32), .int (invokeId % 2 ^ 32)] ∧
      AoEHeader.isResponse isMember response r =
        if isMember .aoeHeaderFlag (stateFlags % 2 ^ 16) then
          .ok (stateFlags % 2 ^ 16 &&& response == response)
        else .error .valueError := by
  obtain ⟨r, hr, hbytes, hget⟩ :=
    aoeHeader_construct target source commandId stateFlags length errorCode invokeId
  have h3 : r.get 3 = .int (stateFlags % 2 ^ 16) := (List.cons.inj (List.cons.inj hget).2).1
  exact ⟨amsTcpHeader_init tcpLength, r, hr, hr, hbytes, hget, isResponse_eq isMember response r h3⟩

/-- The `RESPONSE` bit is set in `ADS_COMMAND | RESPONSE`. -/
theorem responseFlags_and (adsCommand response : Nat) (h : adsCommand &&& response = 0) :
    AoEHeader.responseFlags adsCommand response &&& response = response := by
  rw [AoEHeader.responseFlags, Nat.and_distrib_right, h, Nat.and_self, Nat.zero_or]

/-- **Default flags classify.** Whatever the addresses, command id, length and invoke
id, `create_request` with its default `state_flags` builds a header that `is_request`
accepts, and `create_response` with its default one that `is_response` accepts, as
long as `ADS_COMMAND` and `RESPONSE` are distinct 16-bit flags that `AoEHeaderFlag`
accepts, alone and or-ed. -/
theorem default_flags_classify (isMember : EnumClass → Nat → Bool) (adsCommand response : Nat)
    (hc : adsCommand < 2 ^ 16) (hr : response < 2 ^ 16) (hdis : adsCommand &&& response = 0)
    (hpos : 0 < response) (hmc : isMember .aoeHeaderFlag adsCommand = true)
    (hmr : isMember .aoeHeaderFlag (adsCommand ||| response) = true)
    (target source : Instance AmsAddr) (commandId length invokeId : Nat) :
    (∃ r, AoEHeader.createRequest target source commandId length invokeId
        (AoEHeader.requestFlags adsCommand) 0 = .ok r ∧
      AoEHeader.isRequest isMember response r = .ok true) ∧
    (∃ r, AoEHeader.createResponse target source commandId length invokeId
        (AoEHeader.responseFlags adsCommand response) 0 = .ok r ∧
      AoEHeader.isResponse isMember response r = .ok true) := by
  obtain ⟨q, hq, -, hgetq⟩ :=
    aoeHeader_construct target source commandId adsCommand length 0 invokeId
  obtain ⟨p, hp, -, hgetp⟩ :=
    aoeHeader_construct target source commandId (adsCommand ||| response) length 0 invokeId
  have hq3 : q.get 3 = .int adsCommand := by
    rw [(List.cons.inj (List.cons.inj hgetq).2).1, Nat.mod_eq_of_lt hc]
  have hp3 : p.get 3 = .int (adsCommand ||| response) := by
    rw [(List.cons.inj (List.cons.inj hgetp).2).1, Nat.mod_eq_of_lt (Nat.or_lt_two_pow hc hr)]
  refine ⟨⟨q, hq, ?_⟩, ⟨p, hp, ?_⟩⟩
  · have hne : (0 == response) = false := beq_eq_false_iff_ne.2 (Nat.ne_of_lt hpos)
    rw [AoEHeader.isRequest, isResponse_eq isMember response q hq3, if_pos hmc, hdis, hne]
    rfl
  · rw [isResponse_eq isMember response p hp3, if_pos hmr,
      show (adsCommand ||| response) &&& response = response from responseFlags_and _ _ hdis,
      beq_self_eq_true]

/-- With `ADS_COMMAND = 0x4` and `RESPONSE = 0x1`, every flag accepted, and two zeroed
addresses. -/
theorem default_flags_classify_zero_addresses :
    ((4 : Nat) < 2 ^ 16 ∧ (1 : Nat) < 2 ^ 16 ∧ (4 : Nat) &&& 1 = 0 ∧ 0 < 1) ∧
      ((∃ r, AoEHeader.createRequest (Instance.zero AmsAddr) (Instance.zero AmsAddr) 2 0 1
          (AoEHeader.requestFlags 4) 0 = .ok r ∧
        AoEHeader.isRequest (fun _ _ => true) 1 r = .ok true) ∧
      (∃ r, AoEHeader.createResponse (Instance.zero AmsAddr) (Instance.zero AmsAddr) 2 0 1
          (AoEHeader.responseFlags 4 1) 0 = .ok r ∧
        AoEHeader.isResponse (fun _ _ => true) 1 r = .ok true)) :=
  ⟨⟨by decide, by decide, by decide, by decide⟩,
    default_flags_classify (fun _ _ => true) 4 1 (by decide) (by decide) (by decide) (by decide)
      rfl rfl (Instance.zero AmsAddr) (Instance.zero AmsAddr) 2 0 1⟩

end AdsAsync.Wire
