import Mathlib.Algebra.BigOperators.Group.List
import Mathlib.Algebra.Order.Ring.Nat
import Mathlib.Data.List.Forall2

/-!
# ctypes structures

What `structs.py` relies on of CPython's `ctypes`. `ctypes` is not among the sources;
it is modelled from CPython's `_ctypes`: `PyCStructUnionType_update_stgdict`
(`stgdict.c`) for the layout, `PyCField_FromDesc` and the `setfunc`/`getfunc` pairs
of `cfield.c` for the fields. An instance is its buffer of `sizeof` bytes, and a
field is the slice of it at the offset the layout gives. A `c_uint8` array may also be
set from a tuple of integers, each stored modulo 256 (`_PyCData_set`, `B_set`).

* `layout_packed` — under `_pack_ = 1` every field sits right after the one before,
  a subclass's fields right after its base's, and the size is the sum of the widths.
* `construct_bytes` — `R(*values)` with every value within its field's width is the
  concatenation of the values' encodings, in field order.
* `get_construct` — and each field's getter returns the value given.
* `bytes_fromBufferCopy`, `fromBufferCopy_bytes` — `from_buffer_copy` and `bytes`
  are inverse on buffers of the structure's size.
* `set_frame` — a setter writes only its own field, and a value within the field's
  width reads back; `get_set_uint`, `get_set_chars` — what a `c_uint` setter and a
  `c_char` array setter store for any value.
-/

namespace AdsAsync.Wire

/-! ### Little-endian integers -/

/-- The `w` little-endian bytes `c_uint*`'s setter stores; the value is masked to the
width. -/
def toBytesLE : Nat → Nat → List UInt8
  | 0, _ => []
  | w + 1, n => n.toUInt8 :: toBytesLE w (n / 256)

/-- `c_uint8`'s setter `B_set`: `PyLong_AsUnsignedLongMask`, then the cast to
`unsigned char`, so any integer is stored modulo 256. -/
def setUint8 (v : Int) : UInt8 := (v % 256).toNat.toUInt8

/-- The integer `c_uint*`'s getter reads. -/
def ofBytesLE : List UInt8 → Nat
  | [] => 0
  | b :: bs => b.toNat + 256 * ofBytesLE bs

@[simp] theorem length_toBytesLE (w n : Nat) : (toBytesLE w n).length = w := by
  induction w generalizing n with
  | zero => rfl
  | succ w ih => simp only [toBytesLE, List.length_cons, ih]

theorem ofBytesLE_toBytesLE (w n : Nat) : ofBytesLE (toBytesLE w n) = n % 256 ^ w := by
  induction w generalizing n with
  | zero => simp only [toBytesLE, ofBytesLE, Nat.pow_zero, Nat.mod_one]
  | succ w ih =>
    have hb : n.toUInt8.toNat = n % 256 := rfl
    rw [toBytesLE, ofBytesLE, ih, hb, Nat.pow_succ', Nat.mod_mul]

/-- The setter keeps only the low `w` bytes. -/
theorem toBytesLE_mod (w n : Nat) : toBytesLE w (n % 256 ^ w) = toBytesLE w n := by
  induction w generalizing n with
  | zero => rfl
  | succ w ih =>
    have hlow : (n % 256 ^ (w + 1)).toUInt8 = n.toUInt8 := by
      apply UInt8.toNat.inj
      show n % 256 ^ (w + 1) % 256 = n % 256
      rw [Nat.pow_succ, Nat.mod_mul_left_mod]
    rw [toBytesLE, toBytesLE, hlow, Nat.pow_succ', Nat.mod_mul_right_div_self, ih]

/-! ### Field types and layout -/

/-- The `ctypes` field types `structs.py` declares. -/
inductive CType where
  /-- `c_uint8`, `c_uint16`, `c_uint32`, `c_uint64`: `width` bytes. -/
  | uint (width : Nat)
  /-- `c_char * n`. -/
  | chars (n : Nat)
  /-- `c_ubyte * n`, `c_uint8 * n`. -/
  | ubytes (n : Nat)
  /-- A nested structure, by its size and alignment. -/
  | struct (size align : Nat)
deriving DecidableEq, Repr

namespace CType

/-- `ctypes.sizeof`. -/
def size : CType → Nat
  | uint w => w
  | chars n => n
  | ubytes n => n
  | struct s _ => s

/-- `ctypes.alignment`: an integer is aligned to its width on the platforms `ctypes`
lays out naturally, an array to its element. -/
def align : CType → Nat
  | uint w => w
  | chars _ => 1
  | ubytes _ => 1
  | struct _ a => a

end CType

/-- `ctypes.c_uint8`. -/
def cUint8 : CType := .uint 1
/-- `ctypes.c_uint16`. -/
def cUint16 : CType := .uint 2
/-- `ctypes.c_uint32`. -/
def cUint32 : CType := .uint 4
/-- `ctypes.c_uint64`. -/
def cUint64 : CType := .uint 8

/-- Field offsets, size and alignment of a structure type. -/
structure Layout where
  offsets : List Nat
  size : Nat
  align : Nat
deriving DecidableEq, Repr

/-- Padding up to the next multiple of `align` (`PyCField_FromDesc`). -/
def padTo (offset align : Nat) : Nat :=
  if align = 0 ∨ offset % align = 0 then offset else offset + (align - offset % align)

/-- One more field: aligned to its own alignment, capped by `_pack_` when it is set. -/
def placeField (pack : Nat) (l : Layout) (t : CType) : Layout :=
  let align := if pack = 0 then t.align else min pack t.align
  let offset := padTo l.size align
  ⟨l.offsets ++ [offset], offset + t.size, max l.align align⟩

/-- `PyCStructUnionType_update_stgdict`: the fields placed in order from the base's
layout, and the size padded to the total alignment. -/
def placeFields (pack : Nat) (base : Layout) (ts : List CType) : Layout :=
  let l := ts.foldl (placeField pack) base
  { l with size := padTo l.size l.align }

/-- `_AdsStructBase._pack_`: every record class of `structs.py` inherits it. -/
def AdsStructBase.pack : Nat := 1

/-- A subclass of `_AdsStructBase`: its own `_fields_`, placed after those of the
record class it extends, if any. -/
inductive RecordClass where
  | base (fields : List (String × CType))
  | extend (parent : RecordClass) (fields : List (String × CType))

namespace RecordClass

/-- Every field, inherited ones first. -/
def fields : RecordClass → List (String × CType)
  | base fs => fs
  | extend p fs => p.fields ++ fs

/-- The fields' types. -/
def ctypes (R : RecordClass) : List CType := R.fields.map Prod.snd

/-- The layout under a given `_pack_`. -/
def layoutWith (pack : Nat) : RecordClass → Layout
  | base fs => placeFields pack ⟨[], 0, 1⟩ (fs.map Prod.snd)
  | extend p fs => placeFields pack (p.layoutWith pack) (fs.map Prod.snd)

/-- The layout `ctypes` computes for the class. -/
def layout (R : RecordClass) : Layout := R.layoutWith AdsStructBase.pack

/-- `ctypes.sizeof(R)`. -/
def size (R : RecordClass) : Nat := R.layout.size

/-- The offset of field `i`. -/
def offset (R : RecordClass) (i : Nat) : Nat := R.layout.offsets.getD i 0

/-- The type of field `i`. -/
def ctype (R : RecordClass) (i : Nat) : CType := R.ctypes.getD i (.uint 0)

end RecordClass

/-- The offsets of fields of the given widths laid end to end from `start`. -/
def offsetsFrom : Nat → List Nat → List Nat
  | _, [] => []
  | start, w :: ws => start :: offsetsFrom (start + w) ws

theorem offsetsFrom_append (start : Nat) (ws ws' : List Nat) :
    offsetsFrom start (ws ++ ws') = offsetsFrom start ws ++ offsetsFrom (start + ws.sum) ws' := by
  induction ws generalizing start with
  | nil => rfl
  | cons w ws ih =>
    rw [List.cons_append, offsetsFrom, offsetsFrom, ih, List.sum_cons, Nat.add_assoc]
    rfl

theorem getD_offsetsFrom (start : Nat) (ws : List Nat) (i : Nat) (h : i < ws.length) :
    (offsetsFrom start ws).getD i 0 = start + (ws.take i).sum := by
  induction ws generalizing start i with
  | nil => cases h
  | cons w ws ih =>
    cases i with
    | zero => simp [offsetsFrom]
    | succ i =>
      simp only [offsetsFrom, List.getD_cons_succ, List.take_succ_cons, List.sum_cons]
      rw [ih _ _ (by simpa using h), Nat.add_assoc]

/-- Under `_pack_ = 1` a field is placed at the current end, and the alignment stays 1. -/
theorem placeField_packed (offsets : List Nat) (size : Nat) (t : CType) :
    placeField 1 ⟨offsets, size, 1⟩ t = ⟨offsets ++ [size], size + t.size, 1⟩ := by
  have ha : min 1 t.align ≤ 1 := Nat.min_le_left _ _
  have hpad : padTo size (min 1 t.align) = size := by
    unfold padTo
    rcases Nat.le_one_iff_eq_zero_or_eq_one.mp ha with h | h <;> simp [h, Nat.mod_one]
  simp only [placeField, if_neg Nat.one_ne_zero, hpad, Nat.max_eq_left ha]

theorem placeFields_packed (offsets : List Nat) (size : Nat) (ts : List CType) :
    placeFields 1 ⟨offsets, size, 1⟩ ts =
      ⟨offsets ++ offsetsFrom size (ts.map CType.size), size + (ts.map CType.size).sum, 1⟩ := by
  have hfold : ∀ (ts : List CType) (offsets : List Nat) size,
      ts.foldl (placeField 1) ⟨offsets, size, 1⟩ =
        ⟨offsets ++ offsetsFrom size (ts.map CType.size), size + (ts.map CType.size).sum, 1⟩ := by
    intro ts
    induction ts with
    | nil => simp [offsetsFrom]
    | cons t ts ih =>
      intro offsets size
      simp only [List.foldl_cons, placeField_packed, ih, List.map_cons, offsetsFrom,
        List.sum_cons, List.append_assoc, List.singleton_append, Nat.add_assoc]
  simp only [placeFields, hfold, padTo, Nat.mod_one, or_true, if_true]

/-- **`_pack_ = 1` lays the fields end to end**: field `i` of every record class sits at
the sum of the widths before it, inherited fields first, and the size is the sum of
all widths. -/
theorem layout_packed (R : RecordClass) :
    R.layout = ⟨offsetsFrom 0 (R.ctypes.map CType.size), (R.ctypes.map CType.size).sum, 1⟩ := by
  unfold RecordClass.layout AdsStructBase.pack
  induction R with
  | base fs =>
    simp only [RecordClass.layoutWith, placeFields_packed, RecordClass.ctypes,
      RecordClass.fields, List.nil_append, Nat.zero_add]
  | extend p fs ih =>
    simp only [RecordClass.layoutWith, ih, placeFields_packed, RecordClass.ctypes,
      RecordClass.fields, List.map_append, offsetsFrom_append, List.sum_append, Nat.zero_add]

theorem size_eq_sum (R : RecordClass) : R.size = (R.ctypes.map CType.size).sum := by
  rw [RecordClass.size, layout_packed]

theorem offset_eq_sum (R : RecordClass) {i : Nat} (h : i < R.ctypes.length) :
    R.offset i = ((R.ctypes.map CType.size).take i).sum := by
  rw [RecordClass.offset, layout_packed, getD_offsetsFrom _ _ _ (by simpa using h), Nat.zero_add]

theorem ctype_eq_getElem (R : RecordClass) {i : Nat} (h : i < R.ctypes.length) :
    R.ctype i = R.ctypes[i] := by
  rw [RecordClass.ctype, List.getD_eq_getElem?_getD, List.getElem?_eq_getElem h, Option.getD_some]

/-- Every field lies inside the buffer. -/
theorem offset_add_size_le (R : RecordClass) {i : Nat} (h : i < R.ctypes.length) :
    R.offset i + (R.ctype i).size ≤ R.size := by
  rw [offset_eq_sum R h, ctype_eq_getElem R h, size_eq_sum,
    ← List.sum_take_add_sum_drop (R.ctypes.map CType.size) (i + 1), List.take_succ,
    List.getElem?_map, List.getElem?_eq_getElem h]
  simp only [Option.map_some', Option.toList_some, List.sum_append, List.sum_singleton]
  omega

/-- A field ends before any later field begins. -/
theorem offset_add_size_le_offset (R : RecordClass) {i j : Nat} (hij : i < j)
    (hj : j < R.ctypes.length) : R.offset i + (R.ctype i).size ≤ R.offset j := by
  have hi : i < R.ctypes.length := by omega
  rw [offset_eq_sum R hj, offset_eq_sum R hi, ctype_eq_getElem R hi,
    ← List.sum_take_add_sum_drop ((R.ctypes.map CType.size).take j) (i + 1), List.take_take,
    Nat.min_eq_left (by omega : i + 1 ≤ j), List.take_succ, List.getElem?_map,
    List.getElem?_eq_getElem hi]
  simp only [Option.map_some', Option.toList_some, List.sum_append, List.sum_singleton]
  omega

/-! ### Values, getters and setters -/

/-- What a field's getter returns: an integer, or bytes (`c_char` arrays up to their
first NUL, `c_ubyte` arrays and nested structures whole); and, as a setter's argument,
a tuple of integers. -/
inductive Value where
  | int (n : Nat)
  | bytes (b : List UInt8)
  | tuple (items : List Int)
deriving DecidableEq, Repr

/-- The exceptions constructors, setters and properties raise. -/
inductive StructError where
  | typeError
  | valueError
  | attributeError
  /-- `RuntimeError`, as `_ctypes_extend_error` reports an error raised while a
  field is built from a tuple. -/
  | runtimeError
deriving DecidableEq, Repr

/-- The getter of a field of type `t` on the field's slice. -/
def getValue : CType → List UInt8 → Value
  | .uint _, s => .int (ofBytesLE s)
  | .chars _, s => .bytes (s.takeWhile (· != 0))
  | .ubytes _, s => .bytes s
  | .struct _ _, s => .bytes s

/-- The bytes a field's setter writes at the field's offset. `c_char` arrays take the
bytes up to the first NUL and add a NUL when there is room (`s_set`); arrays and
structures copy an instance of their own type. A tuple for a `c_uint8` array is passed
to the array type (`_PyCData_set`), whose `Array_init` stores item after item with
`B_set` into a zeroed array; an item past the end raises `IndexError`. -/
def setBytes : CType → Value → Except StructError (List UInt8)
  | .uint w, .int n => .ok (toBytesLE w n)
  | .chars n, .bytes b =>
    let s := b.takeWhile (· != 0)
    if s.length < n then .ok (s ++ [0]) else if s.length = n then .ok s else .error .valueError
  | .ubytes n, .bytes b => if b.length = n then .ok b else .error .typeError
  | .ubytes n, .tuple items =>
    if items.length ≤ n then .ok (items.map setUint8 ++ List.replicate (n - items.length) 0)
    else .error .runtimeError
  | .struct size _, .bytes b => if b.length = size then .ok b else .error .typeError
  | _, _ => .error .typeError

theorem setBytes_length_le {t : CType} {v : Value} {bs : List UInt8}
    (h : setBytes t v = .ok bs) : bs.length ≤ t.size := by
  cases t <;> cases v <;> simp only [setBytes] at h <;> (try split_ifs at h) <;> cases h <;>
    simp [CType.size] <;> omega

/-- The value a field's setter stores: an integer for a `c_uint*` field modulo
`256 ** w`, any other value as given. -/
def clamp : CType → Value → Value
  | .uint w, .int n => .int (n % 256 ^ w)
  | _, v => v

theorem setBytes_clamp (t : CType) (v : Value) : setBytes t (clamp t v) = setBytes t v := by
  cases t <;> cases v <;> first | rfl | exact congrArg Except.ok (toBytesLE_mod _ _)

/-- `bs` written over `buf` from `offset` on. -/
def writeAt (buf : List UInt8) (offset : Nat) (bs : List UInt8) : List UInt8 :=
  buf.take offset ++ bs ++ buf.drop (offset + bs.length)

theorem length_writeAt {buf bs : List UInt8} {offset : Nat}
    (h : offset + bs.length ≤ buf.length) : (writeAt buf offset bs).length = buf.length := by
  simp only [writeAt, List.length_append, List.length_take, List.length_drop]
  omega

/-- Writing into a zeroed tail. -/
theorem writeAt_zeros (p bs : List UInt8) (m : Nat) :
    writeAt (p ++ List.replicate m 0) p.length bs = p ++ bs ++ List.replicate (m - bs.length) 0 := by
  simp only [writeAt, List.take_left, List.append_assoc]
  rw [List.drop_append_eq_append_drop, List.drop_eq_nil_of_le (by omega), List.drop_replicate]
  simp

/-- A write changes no byte outside the bytes it writes. -/
theorem getElem?_writeAt_outside {buf bs : List UInt8} {offset p : Nat}
    (ho : offset ≤ buf.length) (hp : p < offset ∨ offset + bs.length ≤ p) :
    (writeAt buf offset bs)[p]? = buf[p]? := by
  have hlen : (buf.take offset ++ bs).length = offset + bs.length := by simp; omega
  rcases hp with hp | hp
  · rw [writeAt, List.append_assoc, List.getElem?_append_left (by simp; omega),
      List.getElem?_take_of_lt hp]
  · rw [writeAt, List.getElem?_append_right (by omega), hlen, List.getElem?_drop]
    congr 1
    omega

/-- A window the write does not reach reads the same. -/
theorem window_writeAt {buf bs : List UInt8} {offset a m : Nat} (ho : offset ≤ buf.length)
    (hd : a + m ≤ offset ∨ offset + bs.length ≤ a) :
    ((writeAt buf offset bs).drop a).take m = (buf.drop a).take m := by
  apply List.ext_getElem?
  intro k
  simp only [List.getElem?_take, List.getElem?_drop]
  split_ifs
  · exact getElem?_writeAt_outside ho (by omega)
  · rfl

theorem drop_writeAt {buf bs : List UInt8} {offset : Nat} (ho : offset ≤ buf.length) :
    (writeAt buf offset bs).drop offset = bs ++ buf.drop (offset + bs.length) := by
  rw [writeAt, List.append_assoc, List.drop_left' (by simp; omega)]

/-- An instance of a record class: its buffer of `sizeof` bytes. -/
@[ext] structure Instance (R : RecordClass) where
  buf : List UInt8
  length_buf : buf.length = R.size

namespace Instance

variable {R : RecordClass}

/-- A zero-filled instance, as `R()` makes it. -/
def zero (R : RecordClass) : Instance R := ⟨List.replicate R.size 0, List.length_replicate _ _⟩

/-- `bytes(r)`. -/
def bytes (r : Instance R) : List UInt8 := r.buf

/-- The getter of field `i`. -/
def get (r : Instance R) (i : Nat) : Value :=
  getValue (R.ctype i) ((r.buf.drop (R.offset i)).take (R.ctype i).size)

/-- The setter of field `i`. -/
def set (r : Instance R) (i : Fin R.ctypes.length) (v : Value) : Except StructError (Instance R) :=
  match h : setBytes (R.ctype i) v with
  | .ok bs => .ok ⟨writeAt r.buf (R.offset i) bs, by
      have := offset_add_size_le R i.isLt
      have := setBytes_length_le h
      have := r.length_buf
      rw [length_writeAt (by omega), r.length_buf]⟩
  | .error e => .error e

theorem set_eq_error (r : Instance R) (i : Fin R.ctypes.length) {v : Value} {e : StructError}
    (h : setBytes (R.ctype i) v = .error e) : r.set i v = .error e := by
  unfold set
  split
  · rename_i bs h'
    rw [h] at h'
    cases h'
  · rename_i e' h'
    rw [h] at h'
    cases h'
    rfl

/-- A field set to values its setter writes alike holds the same bytes. -/
theorem set_congr (r : Instance R) (i : Fin R.ctypes.length)
    {v v' : Value} (h : setBytes (R.ctype i) v = setBytes (R.ctype i) v') :
    r.set i v = r.set i v' := by
  unfold Instance.set
  split <;> split <;> rename_i h1 _ h2 <;> rw [h, h2] at h1 <;> cases h1 <;> rfl

theorem set_eq_ok (r : Instance R) (i : Fin R.ctypes.length) (v : Value) {bs : List UInt8}
    (h : setBytes (R.ctype i) v = .ok bs) :
    ∃ r', r.set i v = .ok r' ∧ r'.buf = writeAt r.buf (R.offset i) bs := by
  unfold set
  split
  · rename_i bs' h'
    rw [h] at h'
    cases h'
    exact ⟨_, rfl, rfl⟩
  · rename_i e h'
    rw [h] at h'
    cases h'

/-- The positional arguments of the constructor from field `i` on (`Struct_init`):
one too many raises `TypeError`. -/
def setFrom (r : Instance R) (i : Nat) : List Value → Except StructError (Instance R)
  | [] => .ok r
  | v :: vs =>
    if h : i < R.ctypes.length then r.set ⟨i, h⟩ v >>= fun r => r.setFrom (i + 1) vs
    else .error .typeError

theorem setFrom_nil (r : Instance R) (i : Nat) : r.setFrom i [] = pure r := rfl

theorem setFrom_cons (r : Instance R) (i : Nat) (v : Value) (vs : List Value)
    (h : i < R.ctypes.length) :
    r.setFrom i (v :: vs) = r.set ⟨i, h⟩ v >>= fun r => r.setFrom (i + 1) vs := by
  rw [setFrom, dif_pos h]

/-- The constructor's loop stores each value as its setter does. -/
theorem setFrom_clamp (r : Instance R) (i : Nat) (vs : List Value)
    (h : vs.length ≤ R.ctypes.length - i) :
    r.setFrom i (List.zipWith clamp (R.ctypes.drop i) vs) = r.setFrom i vs := by
  induction vs generalizing r i with
  | nil => simp
  | cons v vs ih =>
    have hi : i < R.ctypes.length := by simp only [List.length_cons] at h; omega
    rw [List.drop_eq_getElem_cons hi, List.zipWith_cons_cons, setFrom_cons _ _ _ _ hi,
      setFrom_cons _ _ _ _ hi]
    congr 1
    · exact r.set_congr ⟨i, hi⟩ (by rw [ctype_eq_getElem R hi, setBytes_clamp])
    · funext r'
      exact ih r' (i + 1) (by simp only [List.length_cons] at h; omega)

end Instance

namespace RecordClass

/-- `R(*values)`. -/
def construct (R : RecordClass) (vs : List Value) : Except StructError (Instance R) :=
  (Instance.zero R).setFrom 0 vs

/-- `R.from_buffer_copy(b)`: the first `sizeof(R)` bytes, `ValueError` if there are fewer. -/
def fromBufferCopy (R : RecordClass) (b : List UInt8) : Except StructError (Instance R) :=
  if h : R.size ≤ b.length then .ok ⟨b.take R.size, by simp [h]⟩ else .error .valueError

/-- `R.from_buffer(buf)`: an instance over the first `sizeof(R)` bytes of a writable
buffer (`TypeError` for a read-only one, `ValueError` if it is shorter). The instance
shares the buffer's memory; nothing modelled writes either afterwards, so it is the
bytes it sees. -/
def fromBuffer (R : RecordClass) (buf : List UInt8) (writable : Bool) :
    Except StructError (Instance R) :=
  if writable then R.fromBufferCopy buf else .error .typeError

/-- `R(*values)` stores every integer of a `c_uint*` field modulo its width. -/
theorem construct_clamp (R : RecordClass) (vs : List Value) (h : vs.length ≤ R.ctypes.length) :
    R.construct (List.zipWith clamp R.ctypes vs) = R.construct vs := by
  simpa using (Instance.zero R).setFrom_clamp 0 vs (by simpa using h)

end RecordClass

/-! ### Values within their widths -/

/-- A value the field of type `t` stores without loss: an integer below `2 ^ (8 * w)`,
a `c_char` array's bytes with no NUL and at most `n` of them, an array or structure of
the field's size. -/
def fits : CType → Value → Bool
  | .uint w, .int n => n < 256 ^ w
  | .chars n, .bytes b => b.length ≤ n && decide ((0 : UInt8) ∉ b)
  | .ubytes n, .bytes b => b.length = n
  | .struct s _, .bytes b => b.length = s
  | _, _ => false

theorem takeWhile_ne_zero {b : List UInt8} (h : (0 : UInt8) ∉ b) : b.takeWhile (· != 0) = b :=
  List.takeWhile_eq_self_iff.mpr fun _ hx => bne_iff_ne.mpr fun h0 => h (h0 ▸ hx)

/-- The bytes a field of type `t` holding `v` contributes to a fresh instance. -/
def encode : CType → Value → List UInt8
  | .uint w, .int n => toBytesLE w n
  | .chars n, .bytes b => b ++ List.replicate (n - b.length) 0
  | .ubytes _, .bytes b => b
  | .struct _ _, .bytes b => b
  | _, _ => []

/-- Values for every field of `R`, each within its field's width. -/
def RecordClass.Fits (R : RecordClass) (vs : List Value) : Prop :=
  List.Forall₂ (fun t v => fits t v = true) R.ctypes vs

instance (R : RecordClass) (vs : List Value) : Decidable (R.Fits vs) :=
  inferInstanceAs (Decidable (List.Forall₂ _ _ _))

/-- The concatenated encodings of values for every field. -/
def RecordClass.encode (R : RecordClass) (vs : List Value) : List UInt8 :=
  (List.zipWith Wire.encode R.ctypes vs).flatten

theorem length_encode {t : CType} {v : Value} (h : fits t v = true) :
    (encode t v).length = t.size := by
  cases t <;> cases v <;> simp_all [fits, encode, CType.size]

/-- A fitting value's setter, on a fresh tail, writes its encoding. -/
theorem setBytes_of_fits {t : CType} {v : Value} (h : fits t v = true) (p : List UInt8)
    (m : Nat) (hm : t.size ≤ m) :
    ∃ bs, setBytes t v = .ok bs ∧
      writeAt (p ++ List.replicate m 0) p.length bs =
        p ++ encode t v ++ List.replicate (m - t.size) 0 := by
  cases t <;> cases v <;> simp only [fits, Bool.false_eq_true] at h
  case uint.int w n =>
    exact ⟨_, rfl, by rw [writeAt_zeros]; simp [encode, CType.size]⟩
  case chars.bytes n b =>
    simp only [Bool.and_eq_true, decide_eq_true_eq] at h
    have hs : b.takeWhile (· != 0) = b := takeWhile_ne_zero h.2
    simp only [CType.size] at hm
    rcases Nat.lt_or_ge b.length n with hlt | hge
    · refine ⟨b ++ [0], by simp [setBytes, hs, hlt], ?_⟩
      rw [writeAt_zeros]
      have e1 : m - b.length = (m - (b ++ [0]).length) + 1 := by simp; omega
      have e2 : m - b.length = (n - b.length) + (m - n) := by omega
      simp only [encode, CType.size, List.append_assoc, List.singleton_append]
      rw [← List.replicate_succ, ← e1, ← List.replicate_add, ← e2]
    · have heq : b.length = n := by omega
      refine ⟨b, by simp [setBytes, hs, heq], ?_⟩
      rw [writeAt_zeros]
      simp [encode, CType.size, heq]
  all_goals
    rename_i b
    simp only [decide_eq_true_eq] at h
    refine ⟨b, by simp [setBytes, h], ?_⟩
    rw [writeAt_zeros]
    simp [encode, CType.size, h]

/-- A fitting value's getter reads back what its encoding stores. -/
theorem getValue_encode {t : CType} {v : Value} (h : fits t v = true) :
    getValue t (encode t v) = v := by
  cases t <;> cases v <;> simp only [fits, Bool.false_eq_true] at h
  case uint.int w n =>
    simp only [getValue, encode, ofBytesLE_toBytesLE, Nat.mod_eq_of_lt (by simpa using h)]
  case chars.bytes n b =>
    simp only [Bool.and_eq_true, decide_eq_true_eq] at h
    rw [getValue, encode, List.takeWhile_append_of_pos
      (List.takeWhile_eq_self_iff.mp (takeWhile_ne_zero h.2)), List.takeWhile_replicate]
    simp
  all_goals rfl

/-! ### The constructor -/

/-- The constructor's loop from field `i`, on a buffer holding the encodings `p` of
the fields before `i` and zeros after. -/
theorem setFrom_fits (R : RecordClass) :
    ∀ (vs : List Value) (i : Nat) (r : Instance R) (p : List UInt8),
      List.Forall₂ (fun t v => fits t v = true) (R.ctypes.drop i) vs →
      p.length = ((R.ctypes.map CType.size).take i).sum →
      r.buf = p ++ List.replicate (R.size - p.length) 0 →
      ∃ r', r.setFrom i vs = .ok r' ∧
        r'.buf = p ++ (List.zipWith encode (R.ctypes.drop i) vs).flatten
  | [], i, r, p, hfit, hp, hr => by
    have hdrop : R.ctypes.drop i = [] := List.forall₂_nil_right_iff.mp hfit
    have hi : R.ctypes.length ≤ i := List.drop_eq_nil_iff.mp hdrop
    have hall : p.length = R.size := by
      rw [hp, size_eq_sum, List.take_of_length_le (by simpa using hi)]
    refine ⟨r, rfl, ?_⟩
    rw [hr, hall, hdrop, Nat.sub_self]
    simp
  | v :: vs, i, r, p, hfit, hp, hr => by
    have hi : i < R.ctypes.length := by
      by_contra hge
      rw [List.drop_eq_nil_of_le (by omega)] at hfit
      cases hfit
    rw [List.drop_eq_getElem_cons hi] at hfit ⊢
    obtain ⟨hv, hrest⟩ := List.forall₂_cons.mp hfit
    have hoff : R.offset i = p.length := by rw [offset_eq_sum R hi, hp]
    have hfit_size := offset_add_size_le R hi
    rw [ctype_eq_getElem R hi] at hfit_size
    obtain ⟨bs, hbs, hwrite⟩ := setBytes_of_fits hv p (R.size - p.length) (by omega)
    obtain ⟨r₁, hset, hr₁⟩ :=
      r.set_eq_ok ⟨i, hi⟩ v (show setBytes (R.ctype i) v = .ok bs by
        rw [ctype_eq_getElem R hi]; exact hbs)
    have hp₁ : (p ++ encode R.ctypes[i] v).length =
        ((R.ctypes.map CType.size).take (i + 1)).sum := by
      rw [List.length_append, length_encode hv, hp, List.take_succ, List.getElem?_map,
        List.getElem?_eq_getElem hi]
      simp
    have hbuf₁ : r₁.buf = (p ++ encode R.ctypes[i] v) ++
        List.replicate (R.size - (p ++ encode R.ctypes[i] v).length) 0 := by
      rw [hr₁, hoff, hr, hwrite, List.length_append, length_encode hv, Nat.sub_sub]
    obtain ⟨r', hfrom, hr'⟩ := setFrom_fits R vs (i + 1) r₁ _ hrest hp₁ hbuf₁
    refine ⟨r', ?_, ?_⟩
    · rw [Instance.setFrom_cons r i v vs hi, hset]
      exact hfrom
    · rw [hr', List.zipWith_cons_cons, List.flatten_cons, List.append_assoc]

/-- **`R(*values)` is the concatenation of the encodings**: with every value within
its field's width the constructor succeeds, and the instance's bytes are each value's
little-endian (or byte-string) encoding at its field's width, in field order. -/
theorem construct_bytes (R : RecordClass) (vs : List Value) (h : R.Fits vs) :
    ∃ r, R.construct vs = .ok r ∧ r.bytes = R.encode vs := by
  obtain ⟨r, hr, hbuf⟩ := setFrom_fits R vs 0 (Instance.zero R) [] (by simpa using h)
    (by simp) (by simp [Instance.zero])
  exact ⟨r, hr, by simpa using hbuf⟩

/-- The slice at the sum of the lengths before it is the `i`-th piece. -/
theorem take_drop_flatten (L : List (List UInt8)) {i : Nat} (h : i < L.length) :
    ((L.flatten.drop ((L.map List.length).take i).sum).take L[i].length) = L[i] := by
  induction L generalizing i with
  | nil => cases h
  | cons l L ih =>
    cases i with
    | zero => simp
    | succ i =>
      simp only [List.flatten_cons, List.map_cons, List.take_succ_cons, List.sum_cons,
        List.getElem_cons_succ]
      rw [← List.drop_drop, List.drop_left]
      exact ih (by simpa using h)

/-- **The getters read back the constructor's values.** -/
theorem get_construct (R : RecordClass) (vs : List Value) (h : R.Fits vs) (r : Instance R)
    (hr : R.construct vs = .ok r) (i : Nat) (hi : i < vs.length) : r.get i = vs[i] := by
  obtain ⟨r', hr', hbuf⟩ := construct_bytes R vs h
  rw [hr] at hr'
  cases hr'
  have hlen : R.ctypes.length = vs.length := h.length_eq
  have hi' : i < R.ctypes.length := hlen ▸ hi
  have hfit : fits R.ctypes[i] vs[i] = true := h.get hi' hi
  have hL : ∀ j (hj : j < R.ctypes.length), ((List.zipWith encode R.ctypes vs).map List.length).take j =
      (R.ctypes.map CType.size).take j := by
    intro j _
    apply List.ext_getElem (by simp [hlen])
    intro k hk _
    simp only [List.length_take, List.length_map, List.length_zipWith] at hk
    simp only [List.getElem_take, List.getElem_map, List.getElem_zipWith]
    exact length_encode (h.get (by omega) (by omega))
  have hiz : i < (List.zipWith encode R.ctypes vs).length := by simp [hlen, hi]
  have hpiece : (List.zipWith encode R.ctypes vs)[i] = encode R.ctypes[i] vs[i] :=
    List.getElem_zipWith
  have hslice := take_drop_flatten (List.zipWith encode R.ctypes vs) (i := i) (by simp [hlen, hi])
  rw [hL i hi', hpiece, length_encode hfit] at hslice
  have hbuf' : r.buf = (List.zipWith encode R.ctypes vs).flatten := hbuf
  rw [Instance.get, hbuf', offset_eq_sum R hi', ctype_eq_getElem R hi', hslice,
    getValue_encode hfit]

/-! ### `from_buffer_copy` and `bytes` -/

theorem bytes_fromBufferCopy (R : RecordClass) (b : List UInt8) (h : b.length = R.size) :
    (R.fromBufferCopy b).map Instance.bytes = .ok b := by
  simp [RecordClass.fromBufferCopy, h, Instance.bytes, Except.map, List.take_of_length_le]

theorem fromBufferCopy_bytes (R : RecordClass) (r : Instance R) :
    R.fromBufferCopy r.bytes = .ok r := by
  simp only [RecordClass.fromBufferCopy, Instance.bytes, r.length_buf, le_refl, dif_pos]
  congr 1
  exact Instance.ext (List.take_of_length_le (le_of_eq r.length_buf))

/-! ### A setter writes only its own field -/

theorem Instance.set_inv {R : RecordClass} {r r' : Instance R} {i : Fin R.ctypes.length}
    {v : Value} (h : r.set i v = .ok r') :
    ∃ bs, setBytes (R.ctype i) v = .ok bs ∧ r'.buf = writeAt r.buf (R.offset i) bs := by
  unfold Instance.set at h
  split at h
  · rename_i bs hbs
    cases h
    exact ⟨bs, hbs, rfl⟩
  · cases h

/-- What the getter reads from a field its setter wrote a value within its width to,
whatever bytes follow. -/
theorem getValue_setBytes {t : CType} {v : Value} {bs : List UInt8} (h : setBytes t v = .ok bs)
    (hv : fits t v = true) (tail : List UInt8) : getValue t ((bs ++ tail).take t.size) = v := by
  cases t <;> cases v <;> simp only [fits, Bool.false_eq_true] at hv
  case uint.int w n =>
    cases h
    rw [CType.size, List.take_left' (length_toBytesLE w n), getValue, ofBytesLE_toBytesLE,
      Nat.mod_eq_of_lt (by simpa using hv)]
  case chars.bytes n b =>
    simp only [Bool.and_eq_true, decide_eq_true_eq] at hv
    have hs := takeWhile_ne_zero hv.2
    have hall := List.takeWhile_eq_self_iff.mp hs
    simp only [setBytes, hs] at h
    split_ifs at h with hlt heq <;> cases h
    · rw [CType.size, List.append_assoc, List.singleton_append, List.take_append_eq_append_take,
        List.take_of_length_le (by omega), getValue, List.takeWhile_append_of_pos hall,
        show n - b.length = (n - b.length - 1) + 1 by omega, List.take_succ_cons,
        List.takeWhile_cons_of_neg (by decide), List.append_nil]
    · rw [CType.size, List.take_left' heq, getValue, hs]
  all_goals
    rename_i b
    simp only [decide_eq_true_eq] at hv
    simp only [setBytes, hv, if_true] at h
    cases h
    rw [CType.size, List.take_left' hv]
    rfl

/-- A value within the field's width reads back from the field its setter wrote. -/
theorem Instance.get_set_self {R : RecordClass} {r r' : Instance R} {i : Fin R.ctypes.length}
    {v : Value} (h : r.set i v = .ok r') (hv : fits (R.ctype i) v = true) : r'.get i = v := by
  obtain ⟨bs, hbs, hbuf⟩ := Instance.set_inv h
  have ho : R.offset i ≤ r.buf.length := by
    have := offset_add_size_le R i.isLt
    rw [r.length_buf]; omega
  rw [Instance.get, hbuf, drop_writeAt ho, getValue_setBytes hbs hv]

/-- A `c_char` array of `n` bytes set to bytes `b` holds `b` up to its first NUL when
that fits; a longer prefix makes the setter raise `ValueError`. -/
theorem Instance.get_set_chars {R : RecordClass} (r : Instance R) (i : Fin R.ctypes.length)
    {n : Nat} (hn : R.ctype i = .chars n) (b : List UInt8) :
    ((b.takeWhile (· != 0)).length ≤ n →
      ∃ r', r.set i (.bytes b) = .ok r' ∧ r'.get i = .bytes (b.takeWhile (· != 0))) ∧
    (n < (b.takeWhile (· != 0)).length → r.set i (.bytes b) = .error .valueError) := by
  have hnul : (0 : UInt8) ∉ b.takeWhile (· != 0) := fun h => by
    simpa using List.mem_takeWhile_imp h
  have hsame : setBytes (R.ctype i) (.bytes b) = setBytes (R.ctype i) (.bytes (b.takeWhile (· != 0))) := by
    rw [hn]; simp only [setBytes, List.takeWhile_idem]
  constructor
  · intro hle
    have hok : ∃ bs, setBytes (R.ctype i) (.bytes (b.takeWhile (· != 0))) = .ok bs := by
      rw [hn]; simp only [setBytes, takeWhile_ne_zero hnul]
      split_ifs
      · exact ⟨_, rfl⟩
      · exact ⟨_, rfl⟩
      · omega
    obtain ⟨bs, hbs⟩ := hok
    obtain ⟨r', hr', -⟩ := r.set_eq_ok i _ hbs
    refine ⟨r', (r.set_congr i hsame).trans hr', Instance.get_set_self hr' ?_⟩
    rw [hn]; simp [fits, hle, hnul]
  · intro hlt
    apply r.set_eq_error i
    rw [hn]; simp only [setBytes]
    rw [if_neg (by omega), if_neg (by omega)]

/-- A `c_uint` field of width `w` set to `n` holds `n` modulo `256 ^ w`: ctypes
truncates and raises nothing. -/
theorem Instance.get_set_uint {R : RecordClass} (r : Instance R) (i : Fin R.ctypes.length)
    {w : Nat} (hw : R.ctype i = .uint w) (n : Nat) :
    ∃ r', r.set i (.int n) = .ok r' ∧ r'.get i = .int (n % 256 ^ w) := by
  have hb : setBytes (R.ctype i) (.int (n % 256 ^ w)) = .ok (toBytesLE w (n % 256 ^ w)) := by
    rw [hw]; rfl
  obtain ⟨r', hr', -⟩ := r.set_eq_ok i _ hb
  refine ⟨r', (r.set_congr i (by rw [hw]; exact (setBytes_clamp _ (.int n)).symm)).trans hr',
    Instance.get_set_self hr' ?_⟩
  rw [hw]
  exact decide_eq_true (Nat.mod_lt _ (pow_pos (by decide) w))

/-- **A setter writes only its own field.** Setting field `i` of any instance of any
record class leaves every other field reading what it read, since under `_pack_ = 1`
no two fields overlap, and a value within the field's width reads back. -/
theorem set_frame {R : RecordClass} (r : Instance R) (i : Fin R.ctypes.length) (v : Value)
    {r' : Instance R} (h : r.set i v = .ok r') :
    (∀ j, j < R.ctypes.length → j ≠ i.1 → r'.get j = r.get j) ∧
      (fits (R.ctype i) v = true → r'.get i = v) := by
  obtain ⟨bs, hbs, hbuf⟩ := Instance.set_inv h
  have hend := offset_add_size_le R i.isLt
  have ho : R.offset i ≤ r.buf.length := by rw [r.length_buf]; omega
  have hbs_le := setBytes_length_le hbs
  refine ⟨fun j hj hji => ?_, Instance.get_set_self h⟩
  rw [Instance.get, Instance.get, hbuf, window_writeAt ho]
  rcases Nat.lt_or_gt_of_ne hji with hlt | hgt
  · exact .inl (offset_add_size_le_offset R hlt i.isLt)
  · exact .inr (Nat.le_trans (by omega) (offset_add_size_le_offset R hgt hj))

/-- Setting `version` of a zeroed record of a `c_uint8` and a `c_uint16` to 3. -/
theorem set_frame_version :
    ∃ r', (Instance.zero (.base [("version", cUint8), ("build", cUint16)])).set ⟨0, by decide⟩
        (.int 3) = .ok r' ∧
      (∀ j, j < 2 → j ≠ 0 →
        r'.get j = (Instance.zero (.base [("version", cUint8), ("build", cUint16)])).get j) ∧
      (fits cUint8 (.int 3) = true → r'.get 0 = .int 3) :=
  ⟨_, rfl, set_frame (Instance.zero (.base [("version", cUint8), ("build", cUint16)]))
    ⟨0, by decide⟩ (.int 3) rfl⟩

end AdsAsync.Wire
