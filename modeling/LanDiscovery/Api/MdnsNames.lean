import LanDiscovery.Api.Models
import LanDiscovery.Library.Text
import Mathlib.Data.List.Dedup

/-!
# Bonjour names on the API side

`mdns_names.py`.  A Python set of strings is the list of its elements; it is
sorted before anything else sees it.
-/

namespace LanDiscovery
namespace Api
namespace MdnsNames

open Library

/-- `META_SERVICE`. -/
def metaService : Str := str "_services._dns-sd._udp.local"

/-- `_TCP_SUFFIX`. -/
def tcpSuffix : Str := str "._tcp.local"

/-- `_UDP_SUFFIX`. -/
def udpSuffix : Str := str "._udp.local"

/-- `label_count`. -/
def labelCount (name : Str) : Nat :=
  if name.isEmpty then 0 else name.count '.' + 1

/-- `has_mdns_service_suffix`. -/
def hasMdnsServiceSuffix (name : Str) : Bool :=
  tcpSuffix.isSuffixOf name || udpSuffix.isSuffixOf name

/-- `is_service_type_name`. -/
def isServiceTypeName (name : Str) : Bool :=
  if !hasMdnsServiceSuffix name || name == metaService then false
  else labelCount name == 3

/-- `is_instance_name`. -/
def isInstanceName (name : Str) : Bool :=
  if !hasMdnsServiceSuffix name || name == metaService then false
  else labelCount name ≥ 4

/-- `service_type_from_name`. -/
def serviceTypeFromName (name : Str) : Option Str :=
  if isServiceTypeName name then some name
  else if !isInstanceName name then none
  else
    let transportPos :=
      match Text.rfind? tcpSuffix name with
      | some pos => some pos
      | none => Text.rfind? udpSuffix name
    match transportPos with
    | none => none
    | some 0 => none
    | some (pos + 1) =>
        match Text.rfind? ['.'] (name.take (pos + 1)) with
        | none => none
        | some dotBefore => some (name.drop (dotBefore + 1))

/-- `_ptr_rdata`. -/
def ptrRdata (rec : DiscoveryRecordIn) : Str :=
  strip (((truthy rec.service).or (truthy (some rec.rdataText))).getD [])

/-- `service_types_from_record`. -/
def serviceTypesFromRecord (rec : DiscoveryRecordIn) : List Str :=
  let typeName := upper (rec.typeName.getD [])
  let owner := rec.ownerName
  if typeName = str "PTR" ∧ owner = metaService then
    let rdata := ptrRdata rec
    if isServiceTypeName rdata then [rdata] else []
  else if typeName = str "PTR" ∧ isServiceTypeName owner then
    let rdata := ptrRdata rec
    if isInstanceName rdata then (truthy (serviceTypeFromName rdata)).toList else []
  else if typeName = str "SRV" ∨ typeName = str "TXT" then
    (truthy (serviceTypeFromName owner)).toList
  else []

/-- `service_types_from_records`. -/
def serviceTypesFromRecords (records : List DiscoveryRecordIn) : List Str :=
  sorted (records.flatMap serviceTypesFromRecord).dedup

theorem serviceTypesFromRecords_nodup (records : List DiscoveryRecordIn) :
    (serviceTypesFromRecords records).Nodup :=
  (sorted_perm _).nodup_iff.mpr (List.nodup_dedup _)

/-- An instance advertised by a pointer. -/
example :
    serviceTypesFromRecords
      [{ ownerName := str "_airplay._tcp.local", type := 12, typeName := some (str "PTR"),
         rdataText := str "Living Room._airplay._tcp.local" }] =
      [str "_airplay._tcp.local"] := by
  decide +kernel

end MdnsNames
end Api
end LanDiscovery
