import LanDiscovery.Library.Outcome
import LanDiscovery.Library.Utf8
import Mathlib.Data.List.Basic

/-!
# Reading the DNS wire format

The lowest layer of the scanner: octet access, bounds checks, the message
header and domain names (`BinaryStreamReader`, `BufferBoundsValidator`,
`MDNSDefinitions.hpp`).

Octets are only ever read through `readByte` and `readSlice`.  A read outside
the array is not a C++ exception but undefined behaviour; it is the outcome
`Fault.outOfBounds`, which no handler of the model catches.  A computation that
`FailsOnly IsInvalidArgument` therefore performs no read outside its array.
-/

namespace LanDiscovery
namespace Scanner

open Library Library.Outcome

/-- The ways in which a scanner function can fail to return. -/
inductive Fault where
  /-- `std::invalid_argument` with its `what()` text. -/
  | invalidArgument (what : String)
  /-- A read of element `index` of an array of `size` elements. -/
  | outOfBounds (index size : Nat)
  /-- `std::length_error` or `std::bad_alloc` of a container that has no room. -/
  | noRoom
  /-- A `std::system_error` that nobody catches. -/
  | systemError
  deriving DecidableEq, Repr

/-- The faults a C++ handler can see. -/
def IsInvalidArgument (f : Fault) : Prop :=
  ∃ what, f = .invalidArgument what

theorem isInvalidArgument_mk (what : String) :
    IsInvalidArgument (.invalidArgument what) := ⟨what, rfl⟩

/-! ## Octet access -/

/-- `buf[pos]`. -/
def readByte (buf : Bytes) (pos : Nat) : Except Fault UInt8 :=
  match buf[pos]? with
  | some b => .ok b
  | none => .error (.outOfBounds pos buf.length)

/-- The octets `buf[pos], ..., buf[pos + n - 1]`. -/
def readSlice (buf : Bytes) (pos n : Nat) : Except Fault Bytes :=
  if pos + n ≤ buf.length then .ok ((buf.drop pos).take n)
  else .error (.outOfBounds (pos + n) buf.length)

theorem readByte_eq_ok_iff (buf : Bytes) (pos : Nat) (b : UInt8) :
    readByte buf pos = .ok b ↔ buf[pos]? = some b := by
  unfold readByte
  cases buf[pos]? <;> simp

theorem readByte_of_lt {buf : Bytes} {pos : Nat} (h : pos < buf.length) :
    readByte buf pos = .ok buf[pos] := by
  rw [readByte_eq_ok_iff]
  exact List.getElem?_eq_getElem h

theorem readByte_failsOnly {P : Fault → Prop} {buf : Bytes} {pos : Nat}
    (h : pos < buf.length) : FailsOnly P (readByte buf pos) := by
  rw [readByte_of_lt h]
  exact FailsOnly.ok _

@[simp] theorem readSlice_of_le {buf : Bytes} {pos n : Nat} (h : pos + n ≤ buf.length) :
    readSlice buf pos n = .ok ((buf.drop pos).take n) := by
  simp [readSlice, h]

theorem readSlice_failsOnly {P : Fault → Prop} {buf : Bytes} {pos n : Nat}
    (h : pos + n ≤ buf.length) : FailsOnly P (readSlice buf pos n) := by
  rw [readSlice_of_le h]
  exact FailsOnly.ok _

/-- The number a big-endian field denotes. -/
def bigEndian (bs : Bytes) : Nat :=
  bs.foldl (fun acc b => acc * 256 + b.toNat) 0

/-- `buf` carries the `width`-octet big-endian number `value` at `offset`. -/
def BigEndianAt (buf : Bytes) (offset width value : Nat) : Prop :=
  offset + width ≤ buf.length ∧ bigEndian ((buf.drop offset).take width) = value

/-- `BinaryStreamReader::read_u16_be` on `buf + pos`. -/
def readU16Be (buf : Bytes) (pos : Nat) : Except Fault UInt16 := do
  let hi ← readByte buf pos
  let lo ← readByte buf (pos + 1)
  return (hi.toUInt16 <<< 8) ||| lo.toUInt16

/-- `BinaryStreamReader::read_u32_be` on `buf + pos`. -/
def readU32Be (buf : Bytes) (pos : Nat) : Except Fault UInt32 := do
  let b0 ← readByte buf pos
  let b1 ← readByte buf (pos + 1)
  let b2 ← readByte buf (pos + 2)
  let b3 ← readByte buf (pos + 3)
  return (b0.toUInt32 <<< 24) ||| (b1.toUInt32 <<< 16) ||| (b2.toUInt32 <<< 8) ||| b3.toUInt32

/-- Shifting and or-ing two octets is base-256 arithmetic. -/
theorem toNat_u16_be (hi lo : UInt8) :
    ((hi.toUInt16 <<< 8) ||| lo.toUInt16).toNat = hi.toNat * 256 + lo.toNat := by
  have hhi := hi.toNat_lt
  have hlo := lo.toNat_lt
  have hshift : hi.toNat <<< 8 % 2 ^ 16 = hi.toNat <<< 8 := by
    rw [Nat.shiftLeft_eq]
    omega
  simp only [UInt16.toNat_or, UInt16.toNat_shiftLeft, UInt8.toNat_toUInt16]
  change hi.toNat <<< 8 % 2 ^ 16 ||| lo.toNat = _
  rw [hshift, ← Nat.shiftLeft_add_eq_or_of_lt (by omega), Nat.shiftLeft_eq]

/-- Shifting and or-ing four octets is base-256 arithmetic. -/
theorem toNat_u32_be (b0 b1 b2 b3 : UInt8) :
    ((b0.toUInt32 <<< 24) ||| (b1.toUInt32 <<< 16) ||| (b2.toUInt32 <<< 8) |||
        b3.toUInt32).toNat =
      ((b0.toNat * 256 + b1.toNat) * 256 + b2.toNat) * 256 + b3.toNat := by
  have h0 := b0.toNat_lt
  have h1 := b1.toNat_lt
  have h2 := b2.toNat_lt
  have h3 := b3.toNat_lt
  have hwrap0 : b0.toNat <<< 24 % 2 ^ 32 = ((b0.toNat <<< 8) <<< 8) <<< 8 := by
    simp only [Nat.shiftLeft_eq]
    omega
  have hwrap1 : b1.toNat <<< 16 % 2 ^ 32 = (b1.toNat <<< 8) <<< 8 := by
    simp only [Nat.shiftLeft_eq]
    omega
  have hwrap2 : b2.toNat <<< 8 % 2 ^ 32 = b2.toNat <<< 8 := by
    simp only [Nat.shiftLeft_eq]
    omega
  simp only [UInt32.toNat_or, UInt32.toNat_shiftLeft, UInt8.toNat_toUInt32]
  change (b0.toNat <<< 24 % 2 ^ 32 ||| b1.toNat <<< 16 % 2 ^ 32 |||
    b2.toNat <<< 8 % 2 ^ 32 ||| b3.toNat) = _
  -- Horner's scheme: one octet is appended below the others at a time
  rw [hwrap0, hwrap1, hwrap2, ← Nat.shiftLeft_or_distrib, ← Nat.shiftLeft_or_distrib,
    ← Nat.shiftLeft_or_distrib, ← Nat.shiftLeft_add_eq_or_of_lt h1,
    ← Nat.shiftLeft_add_eq_or_of_lt h2, ← Nat.shiftLeft_add_eq_or_of_lt h3]
  simp only [Nat.shiftLeft_eq]

theorem slice_two {buf : Bytes} {pos : Nat} (h : pos + 2 ≤ buf.length) :
    (buf.drop pos).take 2 = [buf[pos], buf[pos + 1]] := by
  rw [List.drop_eq_getElem_cons (by omega), List.drop_eq_getElem_cons (by omega)]
  rfl

theorem slice_four {buf : Bytes} {pos : Nat} (h : pos + 4 ≤ buf.length) :
    (buf.drop pos).take 4 = [buf[pos], buf[pos + 1], buf[pos + 2], buf[pos + 3]] := by
  rw [List.drop_eq_getElem_cons (by omega), List.drop_eq_getElem_cons (by omega),
    List.drop_eq_getElem_cons (by omega), List.drop_eq_getElem_cons (by omega)]
  rfl

theorem readU16Be_of_le {buf : Bytes} {pos : Nat} (h : pos + 2 ≤ buf.length) :
    ∃ v, readU16Be buf pos = .ok v ∧
      v.toNat = bigEndian ((buf.drop pos).take 2) := by
  refine ⟨(buf[pos].toUInt16 <<< 8) ||| buf[pos + 1].toUInt16, ?_, ?_⟩
  · simp [readU16Be, readByte_of_lt (show pos < buf.length by omega),
      readByte_of_lt (show pos + 1 < buf.length by omega)]
  · rw [toNat_u16_be, slice_two h]
    simp [bigEndian]

theorem readU32Be_of_le {buf : Bytes} {pos : Nat} (h : pos + 4 ≤ buf.length) :
    ∃ v, readU32Be buf pos = .ok v ∧
      v.toNat = bigEndian ((buf.drop pos).take 4) := by
  refine ⟨(buf[pos].toUInt32 <<< 24) ||| (buf[pos + 1].toUInt32 <<< 16) |||
    (buf[pos + 2].toUInt32 <<< 8) ||| buf[pos + 3].toUInt32, ?_, ?_⟩
  · simp [readU32Be, readByte_of_lt (show pos < buf.length by omega),
      readByte_of_lt (show pos + 1 < buf.length by omega),
      readByte_of_lt (show pos + 2 < buf.length by omega),
      readByte_of_lt (show pos + 3 < buf.length by omega)]
  · rw [toNat_u32_be, slice_four h]
    simp [bigEndian]

/-- A 16-bit read inside the buffer returns exactly the big-endian number there. -/
theorem readU16Be_eq_ok_iff {buf : Bytes} {pos : Nat} (h : pos + 2 ≤ buf.length)
    (v : UInt16) : readU16Be buf pos = .ok v ↔ BigEndianAt buf pos 2 v.toNat := by
  obtain ⟨w, hw, hval⟩ := readU16Be_of_le h
  rw [hw, BigEndianAt, ← hval, Except.ok.injEq]
  constructor
  · rintro rfl
    exact ⟨h, rfl⟩
  · rintro ⟨_, hv⟩
    exact UInt16.toNat_inj.mp hv

/-- A 32-bit read inside the buffer returns exactly the big-endian number there. -/
theorem readU32Be_eq_ok_iff {buf : Bytes} {pos : Nat} (h : pos + 4 ≤ buf.length)
    (v : UInt32) : readU32Be buf pos = .ok v ↔ BigEndianAt buf pos 4 v.toNat := by
  obtain ⟨w, hw, hval⟩ := readU32Be_of_le h
  rw [hw, BigEndianAt, ← hval, Except.ok.injEq]
  constructor
  · rintro rfl
    exact ⟨h, rfl⟩
  · rintro ⟨_, hv⟩
    exact UInt32.toNat_inj.mp hv

theorem readU16Be_failsOnly {P : Fault → Prop} {buf : Bytes} {pos : Nat}
    (h : pos + 2 ≤ buf.length) : FailsOnly P (readU16Be buf pos) := by
  obtain ⟨v, hv, _⟩ := readU16Be_of_le h
  rw [hv]
  exact FailsOnly.ok v

theorem readU32Be_failsOnly {P : Fault → Prop} {buf : Bytes} {pos : Nat}
    (h : pos + 4 ≤ buf.length) : FailsOnly P (readU32Be buf pos) := by
  obtain ⟨v, hv, _⟩ := readU32Be_of_le h
  rw [hv]
  exact FailsOnly.ok v

/-- `BufferBoundsValidator::ensure_readable`. -/
def ensureReadable (currentPos bytesNeeded bufferLen : Nat) (fieldName : String) :
    Except Fault Unit :=
  if currentPos + bytesNeeded > bufferLen then
    throw (.invalidArgument
      ("Buffer bounds exceeded while reading '" ++ fieldName ++ "': position=" ++
        toString currentPos ++ ", need=" ++ toString bytesNeeded ++ ", buffer_len=" ++
        toString bufferLen))
  else
    return ()

theorem ensureReadable_eq_ok_iff (pos n len : Nat) (field : String) (u : Unit) :
    ensureReadable pos n len field = .ok u ↔ pos + n ≤ len := by
  unfold ensureReadable
  split
  · next h => simp; omega
  · next h => simp; omega

theorem ensureReadable_failsOnly (pos n len : Nat) (field : String) :
    FailsOnly IsInvalidArgument (ensureReadable pos n len field) := by
  unfold ensureReadable
  split
  · exact FailsOnly.error (isInvalidArgument_mk _)
  · exact FailsOnly.ok _

/-! ## Message header -/

/-- `DnsHeaderHost`: the header fields in host order. -/
structure DnsHeaderHost where
  transactionId : UInt16
  flags : UInt16
  questions : UInt16
  answerRrs : UInt16
  authorityRrs : UInt16
  additionalRrs : UInt16
  deriving DecidableEq, Repr

/-- `DnsProtocol::kHeaderSize`. -/
def kHeaderSize : Nat := 12

/-- `MDNS::parse_dns_header`. -/
def parseDnsHeader (buf : Bytes) : Except Fault DnsHeaderHost :=
  if buf.length < kHeaderSize then
    throw (.invalidArgument "DNS buffer too small for header")
  else do
    let transactionId ← readU16Be buf 0
    let flags ← readU16Be buf 2
    let questions ← readU16Be buf 4
    let answerRrs ← readU16Be buf 6
    let authorityRrs ← readU16Be buf 8
    let additionalRrs ← readU16Be buf 10
    return { transactionId, flags, questions, answerRrs, authorityRrs, additionalRrs }

/-! ## Domain names -/

/-- `DnsProtocol::kQnamePointerPrefix`. -/
def kQnamePointerPrefix : UInt8 := 0xC0

/-- `DnsProtocol::kQnamePointerOffsetMask`. -/
def kQnamePointerOffsetMask : UInt8 := 0x3F

/-- `DnsProtocol::kQnameTerminator`. -/
def kQnameTerminator : UInt8 := 0x00

/-- The octet `'.'`. -/
def dot : UInt8 := 46

/-- A label as it is written on the wire: its length and its octets. -/
def wireLabel (label : Bytes) : Bytes :=
  UInt8.ofNat label.length :: label

/-- The locals of `parse_qname` when its loop ends. -/
structure QnameState where
  name : Bytes
  pos : Nat
  consumed : Nat
  deriving DecidableEq, Repr

/-- The `while (pos < len)` loop of `parse_qname`.  The first argument is
`len - loop_count`, so that the guard `++loop_count > len` fires exactly when it
is `0`; it is also what the recursion is on. -/
def qnameLoop (buf : Bytes) : Nat → Nat → Nat → Bool → Bytes → Except Fault QnameState
  | 0, pos, consumed, _, name =>
      if pos < buf.length then
        throw (.invalidArgument "QNAME pointer loop detected")
      else
        return { name, pos, consumed }
  | budget + 1, pos, consumed, jumped, name =>
      if pos < buf.length then do
        let labelLen ← readByte buf pos
        if labelLen = kQnameTerminator then
          return { name, pos, consumed := if jumped then consumed else pos + 1 }
        else if labelLen &&& kQnamePointerPrefix = kQnamePointerPrefix then
          -- a compression pointer; the in-place part ends at the first one
          if pos + 1 ≥ buf.length then
            throw (.invalidArgument "Compressed QNAME pointer truncated")
          else do
            let low ← readByte buf (pos + 1)
            let pointer : UInt16 :=
              ((labelLen &&& kQnamePointerOffsetMask).toUInt16 <<< 8) ||| low.toUInt16
            if pointer.toNat ≥ buf.length then
              throw (.invalidArgument "Compressed QNAME pointer out of bounds")
            else
              qnameLoop buf budget pointer.toNat (if jumped then consumed else pos + 2)
                true name
        else if labelLen &&& kQnamePointerPrefix ≠ 0 then
          -- the two reserved label types
          throw (.invalidArgument "Invalid QNAME label length")
        else if pos + 1 + labelLen.toNat > buf.length then
          throw (.invalidArgument "QNAME runs past buffer")
        else do
          let label ← readSlice buf (pos + 1) labelLen.toNat
          let separated := if name.isEmpty then name else name ++ [dot]
          let next := pos + (1 + labelLen.toNat)
          qnameLoop buf budget next (if jumped then consumed else next) jumped
            (separated ++ label)
      else
        return { name, pos, consumed }

/-- `MDNS::parse_qname`: the dotted name and the offset behind its in-place part. -/
def parseQname (buf : Bytes) (offset : Nat) : Except Fault (Bytes × Nat) := do
  let final ← qnameLoop buf buf.length offset offset false []
  if final.pos ≥ buf.length then
    throw (.invalidArgument "QNAME not terminated before end of buffer")
  else
    return (final.name, final.consumed)

/-- Reading a name never leaves the buffer: the only failures are the thrown
`invalid_argument`s. -/
theorem qnameLoop_failsOnly (buf : Bytes) (budget pos consumed : Nat) (jumped : Bool)
    (name : Bytes) :
    FailsOnly IsInvalidArgument (qnameLoop buf budget pos consumed jumped name) := by
  -- each read stands behind the test of the source that keeps it in the buffer
  induction budget generalizing pos consumed jumped name with
  | zero =>
      unfold qnameLoop
      split
      · exact FailsOnly.error (isInvalidArgument_mk _)
      · exact FailsOnly.ok _
  | succ budget ih =>
      unfold qnameLoop
      split
      · next hpos =>
          refine (readByte_failsOnly hpos).bind fun labelLen _ => ?_
          split
          · exact FailsOnly.ok _
          split
          · split
            · exact FailsOnly.error (isInvalidArgument_mk _)
            · next hlow =>
                refine (readByte_failsOnly (by omega)).bind fun low _ => ?_
                dsimp only
                split
                · exact FailsOnly.error (isInvalidArgument_mk _)
                · exact ih _ _ _ _
          split
          · exact FailsOnly.error (isInvalidArgument_mk _)
          split
          · exact FailsOnly.error (isInvalidArgument_mk _)
          · next hlabel =>
              refine (readSlice_failsOnly (by omega)).bind fun label _ => ?_
              exact ih _ _ _ _
      · exact FailsOnly.ok _

theorem parseQname_failsOnly (buf : Bytes) (offset : Nat) :
    FailsOnly IsInvalidArgument (parseQname buf offset) := by
  refine (qnameLoop_failsOnly _ _ _ _ _ _).bind fun final _ => ?_
  split
  · exact FailsOnly.error (isInvalidArgument_mk _)
  · exact FailsOnly.ok _

/-- A name can only be read at an offset inside the buffer. -/
theorem lt_of_parseQname_eq_ok {buf : Bytes} {offset : Nat} {p : Bytes × Nat}
    (h : parseQname buf offset = .ok p) : offset < buf.length := by
  by_contra hge
  -- behind the end the loop does not run, and the final test throws
  have hloop : qnameLoop buf buf.length offset offset false [] =
      .ok { name := [], pos := offset, consumed := offset } := by
    cases buf.length with
    | zero => simp [qnameLoop, show ¬ offset < buf.length from hge]
    | succ n => simp [qnameLoop, show ¬ offset < buf.length from hge]
  simp only [parseQname, hloop, ok_bind] at h
  rw [if_pos (by omega)] at h
  exact absurd h (by simp)

end Scanner
end LanDiscovery
