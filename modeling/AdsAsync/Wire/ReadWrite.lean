import AdsAsync.Wire.Structs

/-!
# Read/write requests with their data

An ADS read/write request is the 16-byte header of `AdsReadWriteRequest` followed by
`write_length` bytes of data. `from_buffer_extended` lays the header over the buffer
with `from_buffer` and copies the data after it, `buf[16:16 + write_length]`: a slice,
which Python cuts short at the end of the buffer.

* `from_buffer_extended_fields` — on every writable buffer of at least 16 bytes it
  returns the little-endian words at offsets 0, 4, 8 and 12 and whatever of the
  declared data the buffer holds.
* `short_payload_decoded` — so a buffer that ends before the declared data is decoded
  to shorter data instead of being rejected.
* `read_write_request_round_trip` — `bytearray(bytes(h) + d + t)` with
  `len(d) == h.write_length` decodes to `h` and `d`; the read-only `bytes(h) + d + t`
  raises `TypeError`.
-/

namespace AdsAsync.Wire

/-- Python's `buf[start:stop]` for `0 ≤ start ≤ stop`: the items from `start` up to
`stop`, as many of them as the buffer has. -/
def slice (buf : List UInt8) (start stop : Nat) : List UInt8 := (buf.drop start).take (stop - start)

/-- The little-endian 32-bit word of `buf` at `offset`. -/
def wordLE (buf : List UInt8) (offset : Nat) : Nat := ofBytesLE ((buf.drop offset).take 4)

/-- What `from_buffer_extended` returns: the structure over the buffer, and the `data`
attribute it sets. -/
structure ReadWriteRequest where
  struct : Instance AdsReadWriteRequest
  data : List UInt8

/-- `AdsReadWriteRequest.from_buffer_extended(buf)`: `cls.from_buffer(buf)`, then
`data = bytearray(buf[data_start:data_start + struct.write_length])` with `data_start`
the offset of `_data_start`. -/
def AdsReadWriteRequest.fromBufferExtended (buf : List UInt8) (writable : Bool) :
    Except StructError ReadWriteRequest := do
  let struct ← RecordClass.fromBuffer AdsReadWriteRequest buf writable
  let dataStart := AdsReadWriteRequest.offset 4
  match struct.get 3 with
  | .int writeLength => pure ⟨struct, slice buf dataStart (dataStart + writeLength)⟩
  | _ => .error .typeError

theorem readWriteRequest_size : AdsReadWriteRequest.size = 16 := by decide

/-- The header fields: `c_uint32` words end to end, and `_data_start` right after. -/
theorem readWriteRequest_fields :
    (∀ i < 4, AdsReadWriteRequest.ctype i = cUint32 ∧ AdsReadWriteRequest.offset i = 4 * i) ∧
      AdsReadWriteRequest.offset 4 = 16 := by
  decide

theorem length_take_header {buf : List UInt8} (h : 16 ≤ buf.length) :
    (buf.take AdsReadWriteRequest.size).length = AdsReadWriteRequest.size := by
  simp [readWriteRequest_size, h]

/-- The getter of a header field over a buffer that holds the whole header. -/
theorem get_header {buf : List UInt8} (h : 16 ≤ buf.length) {i : Nat} (hi : i < 4) :
    (⟨buf.take AdsReadWriteRequest.size, length_take_header h⟩ :
      Instance AdsReadWriteRequest).get i = .int (wordLE buf (4 * i)) := by
  obtain ⟨hc, ho⟩ := readWriteRequest_fields.1 i hi
  simp only [Instance.get, hc, ho, readWriteRequest_size, cUint32, getValue, CType.size, wordLE,
    List.drop_take, List.take_take]
  congr 3
  omega

/-- On a writable buffer of at least 16 bytes, `from_buffer_extended` returns the four
little-endian words at offsets 0, 4, 8 and 12, and as data the bytes after the header,
up to `write_length` of them. -/
theorem from_buffer_extended_fields (buf : List UInt8) (h : 16 ≤ buf.length) :
    ∃ r, AdsReadWriteRequest.fromBufferExtended buf true = .ok r ∧
      (∀ i < 4, r.struct.get i = .int (wordLE buf (4 * i))) ∧
      r.data = (buf.drop 16).take (wordLE buf 12) := by
  have hsize : AdsReadWriteRequest.size ≤ buf.length := by rw [readWriteRequest_size]; exact h
  refine ⟨⟨⟨buf.take AdsReadWriteRequest.size, length_take_header h⟩,
    (buf.drop 16).take (wordLE buf 12)⟩, ?_, fun i hi => get_header h hi, rfl⟩
  simp only [AdsReadWriteRequest.fromBufferExtended, RecordClass.fromBuffer, if_true,
    RecordClass.fromBufferCopy, dif_pos hsize, readWriteRequest_fields.2, slice]
  dsimp only [bind, Except.bind]
  rw [get_header h (show 3 < 4 by decide)]
  simp only [Nat.add_sub_cancel_left]
  rfl

theorem twenty_byte_request_fields :
    ∃ r, AdsReadWriteRequest.fromBufferExtended [1, 0, 0, 0, 0, 0, 0, 0, 9, 0, 0, 0, 2, 0, 0, 0,
        7, 8, 9, 10] true = .ok r ∧
      (∀ i < 4, r.struct.get i = .int (wordLE [1, 0, 0, 0, 0, 0, 0, 0, 9, 0, 0, 0, 2, 0, 0, 0,
        7, 8, 9, 10] (4 * i))) ∧
      r.data = ([1, 0, 0, 0, 0, 0, 0, 0, 9, 0, 0, 0, 2, 0, 0, 0, 7, 8, 9, 10].drop 16).take
        (wordLE [1, 0, 0, 0, 0, 0, 0, 0, 9, 0, 0, 0, 2, 0, 0, 0, 7, 8, 9, 10] 12) :=
  from_buffer_extended_fields _ (by decide)

/-- A 16-byte buffer whose header declares `write_length = 4` is decoded, with no
data at all. -/
theorem short_payload_decoded :
    (AdsReadWriteRequest.fromBufferExtended (List.replicate 12 0 ++ [4, 0, 0, 0]) true).map
      (fun r => (r.struct.get 3, r.data)) = .ok (.int 4, []) :=
  rfl

/-- A writable buffer holding a header followed by exactly `write_length` bytes of data,
and anything after, decodes to that header and that data; the same bytes read-only are
refused with `TypeError`. -/
theorem read_write_request_round_trip (h : Instance AdsReadWriteRequest) (d t : List UInt8)
    (hd : h.get 3 = .int d.length) :
    AdsReadWriteRequest.fromBufferExtended (h.bytes ++ d ++ t) true = .ok ⟨h, d⟩ ∧
      AdsReadWriteRequest.fromBufferExtended (h.bytes ++ d ++ t) false = .error .typeError := by
  refine ⟨?_, rfl⟩
  have hlen : h.bytes.length = 16 := h.length_buf.trans readWriteRequest_size
  have hsize : AdsReadWriteRequest.size ≤ (h.bytes ++ d ++ t).length := by
    simp [hlen, readWriteRequest_size]
  have hstruct : (⟨(h.bytes ++ d ++ t).take AdsReadWriteRequest.size, by
      simp [readWriteRequest_size, hlen]⟩ : Instance AdsReadWriteRequest) = h :=
    Instance.ext (by simp [readWriteRequest_size, ← hlen, List.append_assoc, Instance.bytes])
  simp only [AdsReadWriteRequest.fromBufferExtended, RecordClass.fromBuffer, if_true,
    RecordClass.fromBufferCopy, dif_pos hsize, readWriteRequest_fields.2, slice]
  dsimp only [bind, Except.bind]
  rw [hstruct, hd]
  simp [List.append_assoc, List.drop_append_eq_append_drop, hlen]
  rfl

/-- A header declaring two bytes of data, the two bytes and one more. -/
theorem header_payload_decoded :
    AdsReadWriteRequest.fromBufferExtended
        ([1, 0, 0, 0, 0, 0, 0, 0, 0, 0, 0, 0, 2, 0, 0, 0] ++ [7, 8] ++ [9]) true =
        .ok ⟨⟨[1, 0, 0, 0, 0, 0, 0, 0, 0, 0, 0, 0, 2, 0, 0, 0], by decide⟩, [7, 8]⟩ ∧
      AdsReadWriteRequest.fromBufferExtended
        ([1, 0, 0, 0, 0, 0, 0, 0, 0, 0, 0, 0, 2, 0, 0, 0] ++ [7, 8] ++ [9]) false =
        .error .typeError :=
  read_write_request_round_trip ⟨[1, 0, 0, 0, 0, 0, 0, 0, 0, 0, 0, 0, 2, 0, 0, 0], by decide⟩
    [7, 8] [9] rfl

end AdsAsync.Wire
