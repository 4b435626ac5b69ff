import LanDiscovery.Scanner.MessageDecoder

/-!
# RDATA formatters

`RDataFormatter.cpp` and `MdnsResourceRecord::rdata_str`: the text of a record's
RDATA.  The formatters read two arrays, the record's own `rdata` vector and, for
the types that carry a compressed name, the whole message again at an offset
computed by the decoder.

The `catch (...)` of the PTR and SRV formatters sees only thrown exceptions; a
read outside an array passes through it.  `rdataStr_eq_ok` shows that there is
none: every record has a text, whatever its fields are.
-/

namespace LanDiscovery
namespace Scanner

open Library Library.Outcome Library.Utf8

/-! ## Record types (`DnsType`) -/

/-- `DnsType::A`. -/
def typeA : UInt16 := 1

/-- `DnsType::PTR`. -/
def typePtr : UInt16 := 12

/-- `DnsType::TXT`. -/
def typeTxt : UInt16 := 16

/-- `DnsType::AAAA`. -/
def typeAaaa : UInt16 := 28

/-- `DnsType::SRV`. -/
def typeSrv : UInt16 := 33

/-- `dns_type_name`. -/
def dnsTypeName (type : UInt16) : Bytes :=
  if type = typeA then ascii "A"
  else if type = typePtr then ascii "PTR"
  else if type = typeSrv then ascii "SRV"
  else if type = typeTxt then ascii "TXT"
  else ascii "RR"

/-! ## Numbers as text -/

/-- An unsigned number written in decimal (`oss << n`, `std::to_string`). -/
def decimal (n : Nat) : Bytes :=
  (Nat.toDigits 10 n).map fun c => UInt8.ofNat c.toNat

/-- An unsigned number written in lower-case hexadecimal (`oss << std::hex << n`). -/
def hex (n : Nat) : Bytes :=
  (Nat.toDigits 16 n).map fun c => UInt8.ofNat c.toNat

/-- `std::setw(2)` with fill `'0'`. -/
def hex2 (n : Nat) : Bytes :=
  if n < 16 then ascii "0" ++ hex n else hex n

/-! ## The formatters -/

/-- `RDataFormatContext`. -/
structure RDataFormatContext where
  message : Bytes
  rdataOffset : Nat
  rdata : Bytes

/-- A `catch (...)` block: it handles what was thrown and nothing else. -/
def catchAll {α : Type} (x : Except Fault α) (handler : α) : Except Fault α :=
  match x with
  | .error (.invalidArgument _) => .ok handler
  | other => other

/-- `ARecordFormatter::format`. -/
def formatA (ctx : RDataFormatContext) : Except Fault Bytes :=
  if ctx.rdata.length ≠ 4 then
    return ascii "(malformed A record)"
  else do
    let b0 ← readByte ctx.rdata 0
    let b1 ← readByte ctx.rdata 1
    let b2 ← readByte ctx.rdata 2
    let b3 ← readByte ctx.rdata 3
    return decimal b0.toNat ++ ascii "." ++ decimal b1.toNat ++ ascii "." ++
      decimal b2.toNat ++ ascii "." ++ decimal b3.toNat

/-- The loop of `AAAARecordFormatter::format` over `groups` groups from group
`index` on. -/
def formatAaaaLoop (rdata : Bytes) : Nat → Nat → Bytes → Except Fault Bytes
  | 0, _, out => return out
  | groups + 1, index, out => do
      let separated := if index > 0 then out ++ ascii ":" else out
      let hi ← readByte rdata (2 * index)
      let lo ← readByte rdata (2 * index + 1)
      let group : UInt16 := (hi.toUInt16 <<< 8) ||| lo.toUInt16
      formatAaaaLoop rdata groups (index + 1) (separated ++ hex group.toNat)

/-- `AAAARecordFormatter::format`. -/
def formatAaaa (ctx : RDataFormatContext) : Except Fault Bytes :=
  if ctx.rdata.length ≠ 16 then
    return ascii "(malformed AAAA record)"
  else
    formatAaaaLoop ctx.rdata 8 0 []

/-- `PTRRecordFormatter::format`. -/
def formatPtr (ctx : RDataFormatContext) : Except Fault Bytes :=
  if ctx.rdata.isEmpty then
    return ascii "(empty PTR record)"
  else if ctx.message.isEmpty then
    return ascii "(malformed PTR record)"
  else
    catchAll
      (do
        let (ptrName, _) ← parseQname ctx.message ctx.rdataOffset
        return ptrName)
      (ascii "(malformed PTR record)")

/-- `SRVRecordFormatter::format`. -/
def formatSrv (ctx : RDataFormatContext) : Except Fault Bytes :=
  if ctx.rdata.length < 6 then
    return ascii "(malformed SRV record)"
  else do
    let priority ← readU16Be ctx.rdata 0
    let weight ← readU16Be ctx.rdata 2
    let port ← readU16Be ctx.rdata 4
    let line := ascii "priority=" ++ decimal priority.toNat ++ ascii " weight=" ++
      decimal weight.toNat ++ ascii " port=" ++ decimal port.toNat
    if ctx.rdata.length > 6 ∧ ¬ ctx.message.isEmpty then
      catchAll
        (do
          let targetOffset := ctx.rdataOffset + 6
          let (target, _) ← parseQname ctx.message targetOffset
          return line ++ ascii " target=" ++ target)
        (line ++ ascii " (malformed target name)")
    else
      return line

/-- The loop of `TXTRecordFormatter::format`.  Every round moves `pos` on, so
`rdata.size()` rounds are enough (`formatTxtLoop_fuel`). -/
def formatTxtLoop (rdata : Bytes) : Nat → Nat → Bool → Bytes → Except Fault Bytes
  | 0, _, _, out => return out
  | fuel + 1, pos, first, out =>
      if pos < rdata.length then do
        let strLen ← readByte rdata pos
        let pos := pos + 1
        if pos + strLen.toNat > rdata.length then
          return out
        else do
          let text ← readSlice rdata pos strLen.toNat
          let separated := if first then out else out ++ ascii " "
          formatTxtLoop rdata fuel (pos + strLen.toNat) false (separated ++ text)
      else
        return out

/-- `TXTRecordFormatter::format`. -/
def formatTxt (ctx : RDataFormatContext) : Except Fault Bytes :=
  formatTxtLoop ctx.rdata ctx.rdata.length 0 true []

/-- `GenericRecordFormatter::format`: at most 32 octets in hexadecimal. -/
def formatGeneric (ctx : RDataFormatContext) : Except Fault Bytes := do
  let shown ← readSlice ctx.rdata 0 (min ctx.rdata.length 32)
  let digits := shown.flatMap fun b => hex2 b.toNat
  return if ctx.rdata.length > 32 then digits ++ ascii "..." else digits

/-- `get_rdata_formatter`. -/
def getRdataFormatter (type : UInt16) : RDataFormatContext → Except Fault Bytes :=
  if type = typeA then formatA
  else if type = typeAaaa then formatAaaa
  else if type = typePtr then formatPtr
  else if type = typeSrv then formatSrv
  else if type = typeTxt then formatTxt
  else formatGeneric

/-- `MdnsResourceRecord::rdata_str`. -/
def rdataStr (rr : MdnsResourceRecord) (message : Bytes) : Except Fault Bytes :=
  getRdataFormatter rr.type
    { message := message, rdataOffset := rr.rdataOffset, rdata := rr.rdata }

/-- More rounds than octets left change nothing: the loop has ended before. -/
theorem formatTxtLoop_fuel (rdata : Bytes) (fuel extra pos : Nat) (first : Bool)
    (out : Bytes) (h : rdata.length ≤ pos + fuel) :
    formatTxtLoop rdata (fuel + extra) pos first out =
      formatTxtLoop rdata fuel pos first out := by
  induction fuel generalizing pos first out with
  | zero =>
      cases extra with
      | zero => rfl
      | succ extra =>
          have hend : ¬ pos < rdata.length := by omega
          simp [formatTxtLoop, hend]
  | succ fuel ih =>
      rw [Nat.add_right_comm fuel 1 extra]
      unfold formatTxtLoop
      by_cases hpos : pos < rdata.length
      · simp only [if_pos hpos, readByte_of_lt hpos, ok_bind]
        split
        · rfl
        · next hfit =>
            have hslice : pos + 1 + (rdata[pos]).toNat ≤ rdata.length := by omega
            simp only [readSlice_of_le hslice, ok_bind]
            -- a round reads a length octet at least, so one unit of fuel is enough for it
            exact ih _ _ _ (by omega)
      · simp only [if_neg hpos]

/-! ## Every record has a text -/

/-- A handler that is never reached by an out-of-bounds read completes every
outcome. -/
theorem catchAll_eq_ok {α : Type} {x : Except Fault α} (handler : α)
    (hx : FailsOnly IsInvalidArgument x) : ∃ a, catchAll x handler = .ok a := by
  cases x with
  | ok a => exact ⟨a, rfl⟩
  | error f =>
      obtain ⟨what, rfl⟩ := hx f rfl
      exact ⟨handler, rfl⟩

theorem formatA_eq_ok (ctx : RDataFormatContext) : ∃ text, formatA ctx = .ok text := by
  unfold formatA
  split
  · exact ⟨_, rfl⟩
  · next hlen =>
      apply exists_ok_of_failsOnly_false
      refine (readByte_failsOnly (by omega)).bind fun _ _ => ?_
      refine (readByte_failsOnly (by omega)).bind fun _ _ => ?_
      refine (readByte_failsOnly (by omega)).bind fun _ _ => ?_
      refine (readByte_failsOnly (by omega)).bind fun _ _ => ?_
      exact FailsOnly.ok _

theorem formatAaaaLoop_eq_ok (rdata : Bytes) (groups index : Nat) (out : Bytes)
    (h : 2 * (index + groups) ≤ rdata.length) :
    ∃ text, formatAaaaLoop rdata groups index out = .ok text := by
  induction groups generalizing index out with
  | zero => exact ⟨out, rfl⟩
  | succ groups ih =>
      unfold formatAaaaLoop
      simp only [readByte_of_lt (show 2 * index < rdata.length by omega),
        readByte_of_lt (show 2 * index + 1 < rdata.length by omega), ok_bind]
      -- the groups that are left fit behind the next index
      exact ih (index + 1) _ (by omega)

theorem formatAaaa_eq_ok (ctx : RDataFormatContext) : ∃ text, formatAaaa ctx = .ok text := by
  unfold formatAaaa
  split
  · exact ⟨_, rfl⟩
  · exact formatAaaaLoop_eq_ok _ _ _ _ (by omega)

theorem formatPtr_eq_ok (ctx : RDataFormatContext) : ∃ text, formatPtr ctx = .ok text := by
  unfold formatPtr
  split
  · exact ⟨_, rfl⟩
  split
  · exact ⟨_, rfl⟩
  · apply catchAll_eq_ok
    exact (parseQname_failsOnly _ _).bind fun _ _ => FailsOnly.ok _

theorem formatSrv_eq_ok (ctx : RDataFormatContext) : ∃ text, formatSrv ctx = .ok text := by
  unfold formatSrv
  split
  · exact ⟨_, rfl⟩
  · obtain ⟨priority, hpriority, _⟩ :=
      readU16Be_of_le (show 0 + 2 ≤ ctx.rdata.length by omega)
    obtain ⟨weight, hweight, _⟩ :=
      readU16Be_of_le (show 2 + 2 ≤ ctx.rdata.length by omega)
    obtain ⟨port, hport, _⟩ :=
      readU16Be_of_le (show 4 + 2 ≤ ctx.rdata.length by omega)
    simp only [hpriority, hweight, hport, ok_bind]
    split
    · apply catchAll_eq_ok
      exact (parseQname_failsOnly _ _).bind fun _ _ => FailsOnly.ok _
    · exact ⟨_, rfl⟩

theorem formatTxtLoop_eq_ok (rdata : Bytes) (fuel pos : Nat) (first : Bool) (out : Bytes) :
    ∃ text, formatTxtLoop rdata fuel pos first out = .ok text := by
  induction fuel generalizing pos first out with
  | zero => exact ⟨out, rfl⟩
  | succ fuel ih =>
      unfold formatTxtLoop
      split
      · next hpos =>
          simp only [readByte_of_lt hpos, ok_bind]
          split
          · exact ⟨out, rfl⟩
          · next hfit =>
              have hslice : pos + 1 + (rdata[pos]).toNat ≤ rdata.length := by omega
              simp only [readSlice_of_le hslice, ok_bind]
              exact ih _ _ _
      · exact ⟨out, rfl⟩

theorem formatGeneric_eq_ok (ctx : RDataFormatContext) :
    ∃ text, formatGeneric ctx = .ok text := by
  unfold formatGeneric
  rw [readSlice_of_le (by omega), ok_bind]
  exact ⟨_, rfl⟩

/-- Formatting any record against any message performs no read outside the
message or the record's own RDATA, and always produces a text. -/
theorem rdataStr_eq_ok (rr : MdnsResourceRecord) (message : Bytes) :
    ∃ text, rdataStr rr message = .ok text := by
  unfold rdataStr getRdataFormatter
  split
  · exact formatA_eq_ok _
  split
  · exact formatAaaa_eq_ok _
  split
  · exact formatPtr_eq_ok _
  split
  · exact formatSrv_eq_ok _
  split
  · exact formatTxtLoop_eq_ok _ _ _ _ _
  · exact formatGeneric_eq_ok _

end Scanner
end LanDiscovery
