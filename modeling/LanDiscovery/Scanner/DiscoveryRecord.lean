import LanDiscovery.Scanner.MdnsNames
import LanDiscovery.Scanner.RDataFormatter

/-!
# Record views, their keys and their labels

`DiscoveryTypes.hpp`, `DiscoveryRecord.cpp`, `RecordLabels.cpp`, `KeyBuilder.hpp`
and the record classifiers of `MdnsNames.cpp` and `MdnsPacketInterpreter.cpp`.
-/

namespace LanDiscovery
namespace Scanner

open Library Library.Outcome Library.Utf8 MdnsNames

/-- `ResourceRecordView`. -/
structure ResourceRecordView where
  ownerName : Bytes
  type : UInt16
  rdataText : Bytes
  ttl : UInt32
  observedAtMs : UInt64
  deriving DecidableEq, Repr

/-- `DiscoveryEvent`. -/
structure DiscoveryEvent where
  timestampMs : UInt64
  srcIp : Bytes
  records : List ResourceRecordView
  deriving DecidableEq, Repr

/-- `make_record_view`. -/
def makeRecordView (rr : MdnsResourceRecord) (message : Bytes) (observedAtMs : UInt64) :
    Except Fault ResourceRecordView := do
  let rdataText ← rdataStr rr message
  return { ownerName := rr.name, type := rr.type, rdataText, ttl := rr.ttl, observedAtMs }

/-! ## Composite keys -/

/-- The separator octet `'|'` of `join_key`. -/
def keySeparator : UInt8 := 124

/-- `join_key`: the parts joined with `'|'`, without any escaping. -/
def joinKey : List Bytes → Bytes
  | [] => []
  | [part] => part
  | part :: parts => part ++ keySeparator :: joinKey parts

/-- `record_content_key`. -/
def recordContentKey (rec : ResourceRecordView) : Bytes :=
  joinKey [rec.ownerName, decimal rec.type.toNat, rec.rdataText]

/-- `record_store_key`. -/
def recordStoreKey (srcIp : Bytes) (rec : ResourceRecordView) : Bytes :=
  joinKey [srcIp, recordContentKey rec]

theorem recordContentKey_eq (rec : ResourceRecordView) :
    recordContentKey rec =
      rec.ownerName ++ keySeparator :: (decimal rec.type.toNat ++ keySeparator :: rec.rdataText) :=
  rfl

theorem recordStoreKey_eq (srcIp : Bytes) (rec : ResourceRecordView) :
    recordStoreKey srcIp rec = srcIp ++ keySeparator :: recordContentKey rec := rfl

/-- Under one source the two keys tell the same records apart. -/
@[simp] theorem recordStoreKey_inj_content {srcIp : Bytes} {r s : ResourceRecordView} :
    recordStoreKey srcIp r = recordStoreKey srcIp s ↔
      recordContentKey r = recordContentKey s := by
  simp [recordStoreKey_eq]

/-! ## Classification -/

/-- `is_audit_relevant_record`. -/
def isAuditRelevantRecord (rec : ResourceRecordView) : Bool :=
  if rec.type = typePtr then
    if containsArpa rec.ownerName || containsArpa rec.rdataText then false
    else if rec.ownerName == kDnsSdMetaService && isServiceTypeName rec.rdataText then true
    else isServiceTypeName rec.ownerName && isInstanceName rec.rdataText
  else if rec.type = typeSrv ∨ rec.type = typeTxt then
    isBonjourOwner rec.ownerName
  else if rec.type = typeA ∨ rec.type = typeAaaa then
    endsWith rec.ownerName localSuffix
  else false

/-- `is_interesting_record_type`. -/
def isInterestingRecordType (type : UInt16) : Bool :=
  type = typeA || type = typePtr || type = typeSrv || type = typeTxt

/-- `is_displayable_record`. -/
def isDisplayableRecord (rec : ResourceRecordView) : Bool :=
  isInterestingRecordType rec.type && isAuditRelevantRecord rec

/-! ## Labels -/

/-- `extract_after_prefix`. -/
def extractAfterPrefix (text key : Bytes) : Bytes :=
  match Text.find? key text with
  | none => []
  | some pos => text.drop (pos + key.length)

/-- `service_label`. -/
def serviceLabel (rec : ResourceRecordView) : Bytes :=
  if rec.type = typePtr ∧ hasMdnsServiceSuffix rec.rdataText then rec.rdataText
  else if rec.type = typeSrv ∧ isInstanceName rec.ownerName then rec.ownerName
  else if rec.type = typeSrv ∧ isServiceTypeName rec.ownerName then rec.ownerName
  else if hasMdnsServiceSuffix rec.ownerName then rec.ownerName
  else []

/-- The target text of an SRV record, as `host_label` extracts it. -/
def srvTarget (rec : ResourceRecordView) : Bytes :=
  extractAfterPrefix rec.rdataText (ascii "target=")

/-- `host_label`. -/
def hostLabel (rec : ResourceRecordView) : Bytes :=
  if rec.type = typeSrv ∧ srvTarget rec ≠ [] then srvTarget rec
  else if rec.type = typeA ∨ rec.type = typeAaaa then
    if endsWith rec.ownerName localSuffix then rec.ownerName
    else rec.ownerName ++ ascii " (" ++ rec.rdataText ++ ascii ")"
  else if rec.type = typeTxt ∧ endsWith rec.ownerName localSuffix ∧
      ¬ hasMdnsServiceSuffix rec.ownerName then rec.ownerName
  else []

/-! ## What a displayable record can be -/

/-- The three shapes of a displayable record, with the label facts that the
host-merging code relies on. -/
theorem isDisplayableRecord_cases {rec : ResourceRecordView}
    (h : isDisplayableRecord rec = true) :
    rec.type = typePtr ∨
    (rec.type = typeSrv ∨ rec.type = typeTxt) ∧ isBonjourOwner rec.ownerName = true ∨
    rec.type = typeA ∧ endsWith rec.ownerName localSuffix = true := by
  unfold isDisplayableRecord isInterestingRecordType at h
  simp only [Bool.and_eq_true, Bool.or_eq_true, decide_eq_true_eq] at h
  obtain ⟨htype, hrel⟩ := h
  rcases htype with ((hA | hptr) | hsrv) | htxt
  · right; right
    refine ⟨hA, ?_⟩
    simpa [isAuditRelevantRecord, hA, typeA, typePtr, typeSrv, typeTxt] using hrel
  · exact Or.inl hptr
  · right; left
    refine ⟨Or.inl hsrv, ?_⟩
    simpa [isAuditRelevantRecord, hsrv, typePtr, typeSrv, typeTxt] using hrel
  · right; left
    refine ⟨Or.inr htxt, ?_⟩
    simpa [isAuditRelevantRecord, htxt, typePtr, typeSrv, typeTxt] using hrel

/-- An SRV record is labelled with its target, or not at all. -/
theorem hostLabel_of_srv {rec : ResourceRecordView} (h : rec.type = typeSrv) :
    hostLabel rec = srvTarget rec := by
  by_cases ht : srvTarget rec = []
  · simp [hostLabel, h, ht, typeSrv, typeA, typeAaaa, typeTxt]
  · simp [hostLabel, h, ht]

/-- A `.local` address record is labelled with its owner. -/
theorem hostLabel_of_a {rec : ResourceRecordView} (h : rec.type = typeA)
    (hlocal : endsWith rec.ownerName localSuffix = true) :
    hostLabel rec = rec.ownerName := by
  simp [hostLabel, h, hlocal, typeSrv, typeA]

/-- A pointer record has no host label. -/
@[simp] theorem hostLabel_of_ptr {rec : ResourceRecordView} (h : rec.type = typePtr) :
    hostLabel rec = [] := by
  simp [hostLabel, h, typePtr, typeSrv, typeA, typeAaaa, typeTxt]

/-- A TXT record under a Bonjour name has no host label. -/
theorem hostLabel_of_txt {rec : ResourceRecordView} (h : rec.type = typeTxt)
    (howner : isBonjourOwner rec.ownerName = true) : hostLabel rec = [] := by
  have hs := hasMdnsServiceSuffix_of_isBonjourOwner howner
  simp [hostLabel, h, hs, typeSrv, typeA, typeAaaa, typeTxt]

/-- The test of the unit suite: an SRV record yields its instance and target. -/
example :
    hostLabel
      { ownerName := ascii "Living Room._airplay._tcp.local", type := typeSrv,
        rdataText := ascii "priority=0 weight=0 port=7000 target=tv.local",
        ttl := 120, observedAtMs := 1000 } = ascii "tv.local" := by
  decide

end Scanner
end LanDiscovery
