import AdsAsync.Wire.Ctypes
import AdsAsync.Wire.Utf8

/-!
# The record classes of `structs.py`

Every `_AdsStructBase` subclass as a `RecordClass`, with its `_fields_` in order and
the class it extends; the properties `_create_enum_property` and
`_create_byte_string_property` put over raw fields; and `AdsDeviceInfo.__init__`.
The enum classes are in `constants.py`, which is not among the sources: which values
`enum_cls(value)` accepts is a parameter, `isMember`.

* `aoeHeader_layout` — `AoEHeader` is its seven fields end to end in 32 bytes.
* `strict_enum_reads_back`, `port_reads_back`, `name_reads_back` — the properties
  read back what was stored, through `from_buffer_copy(bytes(r))`.
* `records_round_trip` — all of it for every record class.
* `device_name_of_buffer` — `AdsDeviceInfo.name` on any buffer: never raises, and is
  a text exactly when the name field holds its UTF-8 encoding up to a NUL.
* `enum_set_get`, `byte_string_set_get` — setting a property and reading it back, on
  any record: the truncation ctypes makes, the text up to its first NUL, and the
  `ValueError`s of the setter and the getter.
-/

namespace AdsAsync.Wire

/-- A nested structure field of record class `R`. -/
def RecordClass.asField (R : RecordClass) : CType := .struct R.size R.layout.align

/-! ### The record classes -/

/-- `AmsNetId`. -/
def AmsNetId : RecordClass := .base [("octets", .ubytes 6)]

/-- `AmsAddr`. -/
def AmsAddr : RecordClass := .base [("net_id", AmsNetId.asField), ("_port", cUint16)]

/-- `AdsVersion`. -/
def AdsVersion : RecordClass :=
  .base [("version", cUint8), ("revision", cUint8), ("build", cUint16)]

/-- `AdsDeviceInfo(AdsVersion)`. -/
def AdsDeviceInfo : RecordClass := .extend AdsVersion [("_name", .chars 16)]

/-- `AdsNotificationAttrib`. -/
def AdsNotificationAttrib : RecordClass :=
  .base [("callback_length", cUint32), ("_transmission_mode", cUint32), ("max_delay", cUint32),
    ("cycle_time", cUint32)]

/-- `AdsNotificationHeader`. -/
def AdsNotificationHeader : RecordClass :=
  .base [("notification_handle", cUint32), ("timestamp", cUint64), ("sample_size", cUint32)]

/-- `AdsSymbolEntry`. -/
def AdsSymbolEntry : RecordClass :=
  .base [("entry_length", cUint32), ("_index_group", cUint32), ("index_offset", cUint32),
    ("size", cUint32), ("_data_type", cUint32), ("_flags", cUint32), ("name_length", cUint16),
    ("type_length", cUint16), ("comment_length", cUint16)]

/-- `AdsReadWriteRequest`. -/
def AdsReadWriteRequest : RecordClass :=
  .base [("_index_group", cUint32), ("index_offset", cUint32), ("read_length", cUint32),
    ("write_length", cUint32), ("_data_start", .ubytes 0)]

/-- `AdsSymbolInfoByName`. -/
def AdsSymbolInfoByName : RecordClass :=
  .base [("_index_group", cUint32), ("index_offset", cUint32), ("length", cUint32)]

/-- `AmsTcpHeader`. -/
def AmsTcpHeader : RecordClass := .base [("reserved", cUint16), ("length", cUint32)]

/-- `AoERequestHeader`. -/
def AoERequestHeader : RecordClass :=
  .base [("group", cUint32), ("offset", cUint32), ("length", cUint32)]

/-- `AoEWriteRequestHeader(AoERequestHeader)`. -/
def AoEWriteRequestHeader : RecordClass := .extend AoERequestHeader [("write_length", cUint32)]

/-- `AdsReadStateResponse`. -/
def AdsReadStateResponse : RecordClass := .base [("_ads_state", cUint16), ("dev_state", cUint16)]

/-- `AdsWriteControlRequest`. -/
def AdsWriteControlRequest : RecordClass :=
  .base [("ads_state", cUint16), ("dev_state", cUint16), ("length", cUint32)]

/-- `AdsAddDeviceNotificationRequest`. -/
def AdsAddDeviceNotificationRequest : RecordClass :=
  .base [("group", cUint32), ("offset", cUint32), ("length", cUint32), ("mode", cUint32),
    ("max_delay", cUint32), ("cycle_time", cUint32), ("reserved", .ubytes 16)]

/-- `AoEHeader`. -/
def AoEHeader : RecordClass :=
  .base [("target", AmsAddr.asField), ("source", AmsAddr.asField), ("_command_id", cUint16),
    ("_state_flags", cUint16), ("length", cUint32), ("error_code", cUint32),
    ("invoke_id", cUint32)]

/-- `AoEResponseHeader`. -/
def AoEResponseHeader : RecordClass := .base [("result", cUint32)]

/-- `AoEReadResponseHeader(AoEResponseHeader)`. -/
def AoEReadResponseHeader : RecordClass := .extend AoEResponseHeader [("read_length", cUint32)]

/-- `AoEHeader` is its seven fields end to end: two 8-byte addresses, two 16-bit and
three 32-bit integers. -/
theorem aoeHeader_layout :
    AoEHeader.layout.offsets = [0, 8, 16, 18, 20, 24, 28] ∧ AoEHeader.size = 32 := by
  decide

/-! ### Properties -/

/-- The enum classes of `constants.py` the properties use. -/
inductive EnumClass where
  | amsPort
  | adsTransmissionMode
  | adsSymbolFlag
  | adsDataType
  | adsIndexGroup
  | adsState
  | adsCommandId
  | aoeHeaderFlag
deriving DecidableEq, Repr

/-- A property over the raw field at position `field`. -/
inductive Property where
  /-- `_create_enum_property(field_name, enum_cls, strict=strict)`. -/
  | enum (field : Nat) (cls : EnumClass) (strict : Bool)
  /-- `_create_byte_string_property(field_name, encoding='utf-8')`. -/
  | byteString (field : Nat)
deriving DecidableEq, Repr

/-- What a property returns or takes: an enum member, a raw integer, a text, or raw
bytes. -/
inductive PropValue where
  | member (cls : EnumClass) (value : Nat)
  | int (value : Nat)
  | text (s : String)
  | bytes (b : List UInt8)
deriving DecidableEq, Repr

/-- `AmsAddr.port`, lenient. -/
def AmsAddr.port : Property := .enum 1 .amsPort false
/-- `AdsDeviceInfo.name`. -/
def AdsDeviceInfo.name : Property := .byteString 3
/-- `AdsNotificationAttrib.transmission_mode`. -/
def AdsNotificationAttrib.transmissionMode : Property := .enum 1 .adsTransmissionMode true
/-- `AdsSymbolEntry.flags`. -/
def AdsSymbolEntry.flags : Property := .enum 5 .adsSymbolFlag true
/-- `AdsSymbolEntry.data_type`. -/
def AdsSymbolEntry.dataType : Property := .enum 4 .adsDataType true
/-- `AdsSymbolEntry.index_group`. -/
def AdsSymbolEntry.indexGroup : Property := .enum 1 .adsIndexGroup true
/-- `AdsReadWriteRequest.index_group`. -/
def AdsReadWriteRequest.indexGroup : Property := .enum 0 .adsIndexGroup true
/-- `AdsSymbolInfoByName.index_group`. -/
def AdsSymbolInfoByName.indexGroup : Property := .enum 0 .adsIndexGroup true
/-- `AdsReadStateResponse.ads_state`. -/
def AdsReadStateResponse.adsState : Property := .enum 0 .adsState true
/-- `AoEHeader.command_id`. -/
def AoEHeader.commandId : Property := .enum 2 .adsCommandId true
/-- `AoEHeader.state_flags`. -/
def AoEHeader.stateFlags : Property := .enum 3 .aoeHeaderFlag true

section Properties

variable (isMember : EnumClass → Nat → Bool) {R : RecordClass}

/-- The getter `fget`: `enum_cls(value)`, whose `ValueError` a lenient property turns
into the raw value; `value.decode(encoding)`, whose `ValueError` gives the raw bytes. -/
def Property.get : Property → Instance R → Except StructError PropValue
  | .enum i cls strict, r =>
    match r.get i with
    | .int v =>
      if isMember cls v then .ok (.member cls v)
      else if strict then .error .valueError else .ok (.int v)
    | .bytes b => if strict then .error .valueError else .ok (.bytes b)
    | .tuple _ => .error .valueError
  | .byteString i, r =>
    match r.get i with
    | .bytes b =>
      match Utf8.decode b with
      | some s => .ok (.text s)
      | none => .ok (.bytes b)
    | .int _ | .tuple _ => .error .attributeError

/-- The setter `fset`: a strict property stores `enum_cls(value).value`, a lenient one
the value; a byte-string property encodes a text first. -/
def Property.set : Property → Instance R → PropValue → Except StructError (Instance R)
  | .enum i cls strict, r, v =>
    let raw := match v with
      | .member _ n => some n
      | .int n => some n
      | _ => none
    match raw with
    | some n =>
      if strict && !isMember cls n then .error .valueError
      else if h : i < R.ctypes.length then r.set ⟨i, h⟩ (.int n) else .error .attributeError
    | none => .error .valueError
  | .byteString i, r, v =>
    let raw := match v with
      | .text s => some (Utf8.encode s)
      | .bytes b => some b
      | _ => none
    match raw with
    | some b => if h : i < R.ctypes.length then r.set ⟨i, h⟩ (.bytes b) else .error .attributeError
    | none => .error .typeError

end Properties

/-! ### Setting and reading an enum property -/

/-- **What an enum property reads after it is set.** For an enum property over a
`c_uint` field of width `w` of any record, setting `n ≥ 0` (the raw value, or an enum
member's `.value`) and reading back: a strict property rejects a non-member with
`ValueError` before writing; otherwise ctypes stores `n` modulo `256 ^ w`, which the
getter returns as a member, or rejects (strict), or returns raw (lenient). So a
strict property can accept a member too wide for its field and then fail to read it. -/
theorem enum_set_get (isMember : EnumClass → Nat → Bool) {R : RecordClass} (r : Instance R)
    {i w : Nat} (hi : i < R.ctypes.length) (hw : R.ctype i = .uint w) (cls : EnumClass)
    (strict : Bool) (n : Nat) :
    ((Property.enum i cls strict).set isMember r (.int n) >>=
        (Property.enum i cls strict).get isMember) =
      if strict && !isMember cls n then .error .valueError
      else if isMember cls (n % 256 ^ w) then .ok (.member cls (n % 256 ^ w))
      else if strict then .error .valueError else .ok (.int (n % 256 ^ w)) := by
  obtain ⟨r', hset, hget⟩ := r.get_set_uint ⟨i, hi⟩ hw n
  by_cases hs : (strict && !isMember cls n) = true
  · simp only [Property.set, hs, if_true]
    rfl
  · simp only [Property.set, hs, dif_pos hi, hset, Bool.false_eq_true, if_false]
    show (Property.enum i cls strict).get isMember r' = _
    simp only [Property.get, hget]

/-- `AoEHeader.command_id` on a zeroed header, with every value a member: 9 reads back
as the member. -/
theorem command_id_set_get :
    2 < AoEHeader.ctypes.length ∧ AoEHeader.ctype 2 = .uint 2 ∧
      (AoEHeader.commandId.set (fun _ _ => true) (Instance.zero AoEHeader) (.int 9) >>=
        AoEHeader.commandId.get (fun _ _ => true)) = .ok (.member .adsCommandId 9) :=
  ⟨by decide, rfl, (enum_set_get (fun _ _ => true) (Instance.zero AoEHeader) (i := 2) (w := 2)
    (by decide) rfl .adsCommandId true 9).trans rfl⟩

/-- **What a byte-string property reads after it is set to a text.** For the
byte-string property over a `c_char` array of `n` bytes of any record, setting a text
without lone surrogates (a Lean `String` holds none) writes its UTF-8 encoding, which the array cuts at the first NUL; the getter decodes
it. So the property reads back the text up to its first NUL character when that
prefix fits in `n` bytes, and the setter raises `ValueError` when it does not. -/
theorem byte_string_set_get (isMember : EnumClass → Nat → Bool) {R : RecordClass}
    (r : Instance R) {i n : Nat} (hi : i < R.ctypes.length) (hn : R.ctype i = .chars n)
    (str : String) :
    ((Property.byteString i).set isMember r (.text str) >>=
        (Property.byteString i).get isMember) =
      if (Utf8.encode ⟨str.data.takeWhile (· != '\x00')⟩).length ≤ n then
        .ok (.text ⟨str.data.takeWhile (· != '\x00')⟩)
      else .error .valueError := by
  obtain ⟨hok, herr⟩ := r.get_set_chars ⟨i, hi⟩ hn (Utf8.encode str)
  rw [Utf8.takeWhile_encode] at hok herr
  split_ifs with hle
  · obtain ⟨r', hset, hget⟩ := hok hle
    simp only [Property.set, dif_pos hi, hset]
    show (Property.byteString i).get isMember r' = _
    simp only [Property.get, hget, Utf8.decode_encode]
  · simp only [Property.set, dif_pos hi, herr (by omega)]
    rfl

/-- `AdsDeviceInfo.name` set to a text with a NUL inside reads back the text before it. -/
theorem name_cut_at_nul :
    3 < AdsDeviceInfo.ctypes.length ∧ AdsDeviceInfo.ctype 3 = .chars 16 ∧
      (AdsDeviceInfo.name.set (fun _ _ => true) (Instance.zero AdsDeviceInfo) (.text "Plc\x00App") >>=
        AdsDeviceInfo.name.get (fun _ _ => true)) = .ok (.text "Plc") :=
  ⟨by decide, rfl, (byte_string_set_get (fun _ _ => true) (Instance.zero AdsDeviceInfo)
    (i := 3) (n := 16) (by decide) rfl "Plc\x00App").trans rfl⟩

/-- `AdsDeviceInfo(version, revision, build, name)`: `__init__` sets the three
version fields and then the `name` property on a zeroed instance. -/
def AdsDeviceInfo.init (isMember : EnumClass → Nat → Bool) (version revision build : Nat)
    (name : String) : Except StructError (Instance AdsDeviceInfo) := do
  let r := Instance.zero AdsDeviceInfo
  let r ← r.set ⟨0, by decide⟩ (.int version)
  let r ← r.set ⟨1, by decide⟩ (.int revision)
  let r ← r.set ⟨2, by decide⟩ (.int build)
  AdsDeviceInfo.name.set isMember r (.text name)

/-! ### `AoERequestHeader.from_sdo` -/

/-- `AoERequestHeader.from_sdo(sdo_index, sdo_sub_index, data_length)`:
`cls(constants.SDO_UPLOAD, (sdo_index) << 16 | sdo_sub_index, data_length)`. The
constants table is not among the sources: `SDO_UPLOAD` is the parameter `sdoUpload`. -/
def AoERequestHeader.fromSdo (sdoUpload sdoIndex sdoSubIndex dataLength : Nat) :
    Except StructError (Instance AoERequestHeader) :=
  AoERequestHeader.construct [.int sdoUpload, .int (sdoIndex <<< 16 ||| sdoSubIndex), .int dataLength]

/-- The `c_uint32` setters store each argument modulo `2 ** 32`. -/
theorem construct_uint32_mod (a b c : Nat) :
    AoERequestHeader.construct [.int a, .int b, .int c] =
      AoERequestHeader.construct [.int (a % 256 ^ 4), .int (b % 256 ^ 4), .int (c % 256 ^ 4)] :=
  (RecordClass.construct_clamp AoERequestHeader _ (Nat.le_refl _)).symm

/-- **`from_sdo` packs the index above the sub-index.** For all arguments the header is
built; its fields read `SDO_UPLOAD`, `sdo_index << 16 | sdo_sub_index` and
`data_length`, each modulo `2 ** 32`. With an index and a sub-index below `2 ** 16`
the offset is `sdo_index * 65536 + sdo_sub_index`, from which both come back; a wider
sub-index is or-ed into the index's bits, and a wider index loses its high bits. -/
theorem from_sdo_fields (sdoUpload sdoIndex sdoSubIndex dataLength : Nat) :
    ∃ r, AoERequestHeader.fromSdo sdoUpload sdoIndex sdoSubIndex dataLength = .ok r ∧
      r.get 0 = .int (sdoUpload % 2 ^ 32) ∧
      r.get 1 = .int ((sdoIndex <<< 16 ||| sdoSubIndex) % 2 ^ 32) ∧
      r.get 2 = .int (dataLength % 2 ^ 32) ∧
      (sdoIndex < 2 ^ 16 → sdoSubIndex < 2 ^ 16 →
        r.get 1 = .int (sdoIndex * 2 ^ 16 + sdoSubIndex)) := by
  have h32 : (256 : Nat) ^ 4 = 2 ^ 32 := by decide
  have hfit : AoERequestHeader.Fits [.int (sdoUpload % 256 ^ 4),
      .int ((sdoIndex <<< 16 ||| sdoSubIndex) % 256 ^ 4), .int (dataLength % 256 ^ 4)] := by
    refine .cons ?_ (.cons ?_ (.cons ?_ .nil)) <;> simp [fits, cUint32, Nat.mod_lt]
  obtain ⟨r, hr, -⟩ := construct_bytes _ _ hfit
  have hget := get_construct _ _ hfit r hr
  rw [h32] at hget
  refine ⟨r, by rw [AoERequestHeader.fromSdo, construct_uint32_mod, hr], hget 0 (by simp),
    hget 1 (by simp), hget 2 (by simp), fun hi hs => ?_⟩
  rw [hget 1 (by simp)]
  simp only [List.getElem_cons_succ, List.getElem_cons_zero, Value.int.injEq]
  rw [Nat.shiftLeft_eq, Nat.mul_comm, ← Nat.mul_add_lt_is_or hs, Nat.mod_eq_of_lt (by omega),
    Nat.mul_comm]

/-! ### Read-back through `from_buffer_copy(bytes(r))` -/

/-- **Strict enum properties read back members.** A record built from values within
their widths, whose field `i` holds a member `v` of `cls`, reads `v` back as that
member through a copy of its bytes. -/
theorem strict_enum_reads_back (isMember : EnumClass → Nat → Bool) (R : RecordClass)
    (vs : List Value) (h : R.Fits vs) (r : Instance R) (hr : R.construct vs = .ok r)
    (i : Nat) (hi : i < vs.length) (cls : EnumClass) (strict : Bool) (v : Nat)
    (hv : vs[i] = .int v) (hm : isMember cls v = true) :
    (R.fromBufferCopy r.bytes >>= (Property.enum i cls strict).get isMember) =
      .ok (.member cls v) := by
  rw [fromBufferCopy_bytes]
  show (Property.enum i cls strict).get isMember r = _
  simp only [Property.get, get_construct R vs h r hr i hi, hv, hm, if_true]

/-- **`AmsAddr.port` is lenient**: every 16-bit port reads back, as an `AmsPort` member
when it names one and as the integer otherwise. -/
theorem port_reads_back (isMember : EnumClass → Nat → Bool) (netId : List UInt8)
    (hnet : netId.length = 6) (port : Nat) (hport : port < 65536) :
    ∃ r, AmsAddr.construct [.bytes netId, .int port] = .ok r ∧
      (AmsAddr.fromBufferCopy r.bytes >>= AmsAddr.port.get isMember) =
        .ok (if isMember .amsPort port then .member .amsPort port else .int port) := by
  have hfit : AmsAddr.Fits [.bytes netId, .int port] := by
    refine List.Forall₂.cons ?_ (List.Forall₂.cons ?_ List.Forall₂.nil)
    · simp [fits, AmsAddr, RecordClass.asField, AmsNetId, RecordClass.size, hnet]; decide
    · simpa [fits, cUint16] using hport
  obtain ⟨r, hr, -⟩ := construct_bytes _ _ hfit
  refine ⟨r, hr, ?_⟩
  rw [fromBufferCopy_bytes]
  show AmsAddr.port.get isMember r = _
  simp only [AmsAddr.port, Property.get, get_construct _ _ hfit r hr 1 (by simp),
    List.getElem_cons_succ, List.getElem_cons_zero, Bool.false_eq_true, if_false]
  split_ifs <;> rfl

/-- `AdsDeviceInfo.__init__` is the constructor on the version fields and the name's
encoding. -/
theorem deviceInfo_init_eq (isMember : EnumClass → Nat → Bool) (version revision build : Nat)
    (name : String) :
    AdsDeviceInfo.init isMember version revision build name =
      AdsDeviceInfo.construct [.int version, .int revision, .int build, .bytes (Utf8.encode name)] := by
  have h : ∀ i < 4, i < AdsDeviceInfo.ctypes.length := fun i hi => hi
  simp only [AdsDeviceInfo.init, RecordClass.construct, AdsDeviceInfo.name, Property.set,
    Instance.setFrom_cons (i := 0) (h := h 0 (by decide)),
    Instance.setFrom_cons (i := 0 + 1) (h := h 1 (by decide)),
    Instance.setFrom_cons (i := 0 + 1 + 1) (h := h 2 (by decide)),
    Instance.setFrom_cons (i := 0 + 1 + 1 + 1) (h := h 3 (by decide)),
    dif_pos (h 3 (by decide)), Instance.setFrom_nil, bind_pure]

/-- **`AdsDeviceInfo.name` reads back every text whose UTF-8 encoding has at most 16
bytes and no NUL**, and the instance's bytes are the version, the revision, the
little-endian build and the encoding padded with zeros. -/
theorem name_reads_back (isMember : EnumClass → Nat → Bool) (version revision build : Nat)
    (hv : version < 256) (hr : revision < 256) (hb : build < 65536) (name : String)
    (hlen : (Utf8.encode name).length ≤ 16) (hnul : (0 : UInt8) ∉ Utf8.encode name) :
    ∃ r, AdsDeviceInfo.init isMember version revision build name = .ok r ∧
      r.bytes = [version.toUInt8, revision.toUInt8] ++ toBytesLE 2 build ++
        (Utf8.encode name ++ List.replicate (16 - (Utf8.encode name).length) 0) ∧
      (AdsDeviceInfo.fromBufferCopy r.bytes >>= AdsDeviceInfo.name.get isMember) =
        .ok (.text name) := by
  have hfit : AdsDeviceInfo.Fits
      [.int version, .int revision, .int build, .bytes (Utf8.encode name)] := by
    simp [RecordClass.Fits, AdsDeviceInfo, AdsVersion, RecordClass.ctypes, RecordClass.fields,
      fits, cUint8, cUint16, hv, hr, hb, hlen, hnul]
  obtain ⟨r, hcon, hbytes⟩ := construct_bytes _ _ hfit
  refine ⟨r, by rw [deviceInfo_init_eq, hcon], ?_, ?_⟩
  · rw [hbytes]
    simp [RecordClass.encode, AdsDeviceInfo, AdsVersion, RecordClass.ctypes, RecordClass.fields,
      encode, cUint8, cUint16, toBytesLE]
  · rw [fromBufferCopy_bytes]
    show AdsDeviceInfo.name.get isMember r = _
    simp only [AdsDeviceInfo.name, Property.get, get_construct _ _ hfit r hcon 3 (by simp)]
    simp [Utf8.decode_encode]

/-! ### The name of any buffer -/

/-- The byte-string getter on a `c_char` field: the field's bytes up to its first NUL,
decoded where they are UTF-8 and raw otherwise. -/
theorem byteString_get (isMember : EnumClass → Nat → Bool) {R : RecordClass} (r : Instance R)
    {i n : Nat} (hi : R.ctype i = .chars n) :
    (Property.byteString i).get isMember r =
      match Utf8.decode (((r.buf.drop (R.offset i)).take n).takeWhile (· != 0)) with
      | some s => .ok (.text s)
      | none => .ok (.bytes (((r.buf.drop (R.offset i)).take n).takeWhile (· != 0))) := by
  simp only [Property.get, Instance.get, hi, getValue, CType.size]

/-- **`AdsDeviceInfo.name` on any reply.** `from_buffer_copy` raises `ValueError` on
fewer than 20 bytes. On any other buffer `name` never raises: it is the text `s`
exactly when the 16 bytes of the name field, up to their first NUL, are the UTF-8
encoding of `s`, and those bytes themselves exactly when they are not UTF-8. -/
theorem device_name_of_buffer (isMember : EnumClass → Nat → Bool) (b : List UInt8) :
    (b.length < 20 → AdsDeviceInfo.fromBufferCopy b = .error .valueError) ∧
    (20 ≤ b.length → ∃ r, AdsDeviceInfo.fromBufferCopy b = .ok r ∧
      ((∃ s, AdsDeviceInfo.name.get isMember r = .ok (.text s)) ∨
        ∃ v, AdsDeviceInfo.name.get isMember r = .ok (.bytes v)) ∧
      (∀ s, AdsDeviceInfo.name.get isMember r = .ok (.text s) ↔
        Utf8.encode s = ((b.drop 4).take 16).takeWhile (· != 0)) ∧
      ∀ v, AdsDeviceInfo.name.get isMember r = .ok (.bytes v) ↔
        v = ((b.drop 4).take 16).takeWhile (· != 0) ∧
          Utf8.decode (((b.drop 4).take 16).takeWhile (· != 0)) = none) := by
  have hsize : AdsDeviceInfo.size = 20 := by decide
  refine ⟨fun h => dif_neg (by omega), fun h => ⟨_, dif_pos (by omega), ?_⟩⟩
  have hfield : ((b.take AdsDeviceInfo.size).drop (AdsDeviceInfo.offset 3)).take 16 =
      (b.drop 4).take 16 := by
    rw [hsize, show AdsDeviceInfo.offset 3 = 4 by decide, List.drop_take, List.take_take]
    rfl
  rw [AdsDeviceInfo.name, byteString_get isMember _ (show AdsDeviceInfo.ctype 3 = .chars 16 from rfl)]
  simp only [hfield]
  generalize ((b.drop 4).take 16).takeWhile (· != 0) = raw
  cases hd : Utf8.decode raw with
  | none =>
    dsimp only
    refine ⟨.inr ⟨raw, rfl⟩, fun s => ⟨fun h => (by cases h), fun h => ?_⟩, fun v => ?_⟩
    · rw [← h, Utf8.decode_encode] at hd
      cases hd
    · simp only [Except.ok.injEq, PropValue.bytes.injEq, and_true]
      exact eq_comm
  | some s =>
    dsimp only
    refine ⟨.inl ⟨s, rfl⟩, fun t => ?_, fun v => ⟨fun h => (by cases h), fun h => by cases h.2⟩⟩
    rw [← Utf8.decode_eq_some_iff, hd]
    simp only [Except.ok.injEq, PropValue.text.injEq, Option.some.injEq]

/-! ### Every record class -/

/-- **The record classes of `structs.py` round-trip through their bytes.** Under the
inherited `_pack_ = 1` the fields lie end to end, inherited ones first (`AoEHeader`:
seven fields in 32 bytes); a record built from values within their widths is the
concatenation of their little-endian encodings, and a copy of its bytes reads back
every value, through the raw fields and through the properties: strict enum
properties for members, the lenient `AmsAddr.port` for every 16-bit value,
`AdsDeviceInfo.name` for every text whose UTF-8 encoding has at most 16 bytes and no
NUL; and `bytes(R.from_buffer_copy(b)) == b` for every `b` of the record's size. -/
theorem records_round_trip :
    (∀ R : RecordClass,
      R.layout = ⟨offsetsFrom 0 (R.ctypes.map CType.size), (R.ctypes.map CType.size).sum, 1⟩) ∧
    AoEHeader.layout.offsets = [0, 8, 16, 18, 20, 24, 28] ∧ AoEHeader.size = 32 ∧
    (∀ (R : RecordClass) (vs : List Value), R.Fits vs →
      ∃ r, R.construct vs = .ok r ∧ r.bytes = R.encode vs ∧ R.fromBufferCopy r.bytes = .ok r ∧
        ∀ i (hi : i < vs.length), r.get i = vs[i]) ∧
    (∀ (isMember : EnumClass → Nat → Bool) (R : RecordClass) (vs : List Value) (r : Instance R),
      R.Fits vs → R.construct vs = .ok r →
      ∀ i (hi : i < vs.length) cls strict v, vs[i] = .int v → isMember cls v = true →
        (R.fromBufferCopy r.bytes >>= (Property.enum i cls strict).get isMember) =
          .ok (.member cls v)) ∧
    (∀ (isMember : EnumClass → Nat → Bool) (netId : List UInt8) (port : Nat),
      netId.length = 6 → port < 65536 →
      ∃ r, AmsAddr.construct [.bytes netId, .int port] = .ok r ∧
        (AmsAddr.fromBufferCopy r.bytes >>= AmsAddr.port.get isMember) =
          .ok (if isMember .amsPort port then .member .amsPort port else .int port)) ∧
    (∀ (isMember : EnumClass → Nat → Bool) (version revision build : Nat) (name : String),
      version < 256 → revision < 256 → build < 65536 →
      (Utf8.encode name).length ≤ 16 → (0 : UInt8) ∉ Utf8.encode name →
      ∃ r, AdsDeviceInfo.init isMember version revision build name = .ok r ∧
        (AdsDeviceInfo.fromBufferCopy r.bytes >>= AdsDeviceInfo.name.get isMember) =
          .ok (.text name)) ∧
    (∀ (R : RecordClass) (b : List UInt8), b.length = R.size →
      (R.fromBufferCopy b).map Instance.bytes = .ok b) := by
  refine ⟨layout_packed, aoeHeader_layout.1, aoeHeader_layout.2, ?_, ?_,
    fun isMember netId port hnet hport => port_reads_back isMember netId hnet port hport, ?_,
    bytes_fromBufferCopy⟩
  · intro R vs h
    obtain ⟨r, hr, hbytes⟩ := construct_bytes R vs h
    exact ⟨r, hr, hbytes, fromBufferCopy_bytes R r, get_construct R vs h r hr⟩
  · intro isMember R vs r h hr i hi cls strict v hv hm
    exact strict_enum_reads_back isMember R vs h r hr i hi cls strict v hv hm
  · intro isMember version revision build name hv hr hb hlen hnul
    obtain ⟨r, hinit, -, hname⟩ := name_reads_back isMember version revision build hv hr hb name hlen hnul
    exact ⟨r, hinit, hname⟩

/-- A device named `"Plc30 App"`, version 3.1.4024, reads its name back. -/
theorem plc_name_reads_back :
    ∃ r, AdsDeviceInfo.init (fun _ _ => true) 3 1 4024 "Plc30 App" = .ok r ∧
      (AdsDeviceInfo.fromBufferCopy r.bytes >>= AdsDeviceInfo.name.get fun _ _ => true) =
        .ok (.text "Plc30 App") :=
  records_round_trip.2.2.2.2.2.2.1 _ 3 1 4024 "Plc30 App" (by decide) (by decide) (by decide)
    (by decide) (by decide)

end AdsAsync.Wire
