import P11Scope.Lib.Bytes
import P11Scope.Lib.TreeMap

/-!
# Identity records and their parser

The two iterator programs write fixed 32-byte little-endian records. The parser
is pure and rejects a whole run at the first anomaly; repeated anchor records of
a slot must agree, and repeated verdicts of a range must agree.
-/

namespace P11Scope.Identity

open Std Lib.Bytes Lib.TreeMap List

/-! ## Records -/

def recordMagic : UInt16 := 0x4950
def recordVersion : UInt8 := 1
def recordLen : Nat := 32
def kindVma : UInt8 := 1
def kindAnchor : UInt8 := 2
def kindEnd : UInt8 := 3
def verdictNone : UInt32 := 0xFFFFFFFF
def anchorOk : UInt32 := 0
def anchorDup : UInt32 := 1
def anchorFull : UInt32 := 2
def anchorBadShape : UInt32 := 3
def anchorConflict : UInt32 := 4
def anchorSlots : UInt32 := 1024
def anchorStride : UInt64 := 8192
def pageGranule : UInt64 := 4096
def pointerGuard : UInt64 := 0x100000000000000

structure Record where
  magic : UInt16
  version : UInt8
  kind : UInt8
  a : UInt32
  start : UInt64
  stop : UInt64
  verdict : UInt32
  gen : UInt32
  deriving DecidableEq, Repr

variable (record : Record)

def Record.encode : List UInt8 :=
  little 2 record.magic.toNat ++ (little 1 record.version.toNat ++
    (little 1 record.kind.toNat ++ (little 4 record.a.toNat ++ (little 8 record.start.toNat ++
      (little 8 record.stop.toNat ++ (little 4 record.verdict.toNat ++
        little 4 record.gen.toNat))))))

/-- The record at the start of the bytes, read field by field. -/
def Record.decode (bytes : List UInt8) : Record :=
  { magic := UInt16.ofNat (number (slice bytes 0 2))
    version := UInt8.ofNat (number (slice bytes 2 1))
    kind := UInt8.ofNat (number (slice bytes 3 1))
    a := UInt32.ofNat (number (slice bytes 4 4))
    start := UInt64.ofNat (number (slice bytes 8 8))
    stop := UInt64.ofNat (number (slice bytes 16 8))
    verdict := UInt32.ofNat (number (slice bytes 24 4))
    gen := UInt32.ofNat (number (slice bytes 28 4)) }

@[simp]
theorem Record.encode_length : record.encode.length = recordLen := by
  simp [Record.encode, recordLen]

/-- A field behind a known number of bytes. -/
theorem slice_skip {front rest : List UInt8} {start size : Nat} (skipped : front.length ≤ start) :
    slice (front ++ rest) start size = slice rest (start - front.length) size := by
  unfold slice
  rw [drop_append, drop_eq_nil_of_le skipped, nil_append]

theorem slice_head {field rest : List UInt8} {size : Nat} (sized : field.length = size) :
    slice (field ++ rest) 0 size = field := by
  unfold slice
  rw [drop_zero, take_left' sized]

theorem Record.decode_encode (rest : List UInt8) :
    Record.decode (record.encode ++ rest) = record := by
  have magic : record.magic.toNat < 256 ^ 2 := record.magic.toNat_lt
  have version : record.version.toNat < 256 ^ 1 := record.version.toNat_lt
  have kind : record.kind.toNat < 256 ^ 1 := record.kind.toNat_lt
  have a : record.a.toNat < 256 ^ 4 := record.a.toNat_lt
  have start : record.start.toNat < 256 ^ 8 := record.start.toNat_lt
  have stop : record.stop.toNat < 256 ^ 8 := record.stop.toNat_lt
  have verdict : record.verdict.toNat < 256 ^ 4 := record.verdict.toNat_lt
  have gen : record.gen.toNat < 256 ^ 4 := record.gen.toNat_lt
  unfold Record.decode Record.encode
  simp only [append_assoc]
  simp (disch := simp) only [slice_head, slice_skip, little_length]
  simp only [Nat.reduceSub, little_length, slice_head]
  simp only [number_little_of_lt 2 magic, number_little_of_lt 1 version,
    number_little_of_lt 1 kind, number_little_of_lt 4 a, number_little_of_lt 8 start,
    number_little_of_lt 8 stop, number_little_of_lt 4 verdict, number_little_of_lt 4 gen]
  simp

/-- The bytes of a run. -/
def stream (records : List Record) : List UInt8 := records.flatMap Record.encode

variable (records : List Record)

theorem stream_length : (stream records).length = records.length * recordLen := by
  induction records with
  | nil => rfl
  | cons record rest ih =>
    rw [stream, flatMap_cons, length_append, Record.encode_length, length_cons]
    rw [stream] at ih
    rw [ih, Nat.succ_mul, Nat.add_comm]

/-- The records at the multiples of the record length. -/
def recordsOf (bytes : List UInt8) : List Record :=
  (List.range (bytes.length / recordLen)).map fun index =>
    Record.decode (slice bytes (index * recordLen) recordLen)

theorem stream_cons (rest : List Record) :
    stream (record :: rest) = record.encode ++ stream rest := rfl

/-- The stream of a run reads back as the run. -/
theorem recordsOf_stream : recordsOf (stream records) = records := by
  have positive : 0 < recordLen := by decide
  induction records with
  | nil => rfl
  | cons record rest ih =>
    have count : (stream (record :: rest)).length / recordLen = rest.length + 1 := by
      rw [stream_length, Nat.mul_div_cancel _ positive, length_cons]
    have others : (stream rest).length / recordLen = rest.length := by
      rw [stream_length, Nat.mul_div_cancel _ positive]
    unfold recordsOf at ih ⊢
    rw [others] at ih
    rw [count, range_succ_eq_map, map_cons, map_map, stream_cons]
    congr 1
    · rw [Nat.zero_mul, slice_head record.encode_length]
      simpa using record.decode_encode []
    · refine Eq.trans (map_congr_left ?_) ih
      intro index _
      have later : record.encode.length ≤ (index + 1) * recordLen := by
        rw [Nat.succ_mul]
        exact Nat.le_add_left _ _
      change Record.decode (slice _ ((index + 1) * recordLen) recordLen) = _
      rw [slice_skip later, Record.encode_length, Nat.succ_mul, Nat.add_sub_cancel]

end P11Scope.Identity
