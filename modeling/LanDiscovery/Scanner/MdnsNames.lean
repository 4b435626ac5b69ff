import LanDiscovery.Library.Text
import LanDiscovery.Library.Utf8

/-!
# Bonjour names on the scanner side

`MdnsNames.cpp` without the record classifier (which needs the record type and
stands with it in `DiscoveryRecord`).  Names are octet strings.
-/

namespace LanDiscovery
namespace Scanner
namespace MdnsNames

open Library Library.Utf8

/-- `kDnsSdMetaService`. -/
def kDnsSdMetaService : Bytes := ascii "_services._dns-sd._udp.local"

/-- The literal `"._tcp.local"`. -/
def tcpSuffix : Bytes := ascii "._tcp.local"

/-- The literal `"._udp.local"`. -/
def udpSuffix : Bytes := ascii "._udp.local"

/-- The literal `".local"`. -/
def localSuffix : Bytes := ascii ".local"

/-- `ends_with`. -/
def endsWith (s suffix : Bytes) : Bool :=
  suffix.isSuffixOf s

/-- `has_mdns_service_suffix`. -/
def hasMdnsServiceSuffix (name : Bytes) : Bool :=
  endsWith name tcpSuffix || endsWith name udpSuffix

/-- `is_dns_sd_meta_service`. -/
def isDnsSdMetaService (name : Bytes) : Bool :=
  name == kDnsSdMetaService

/-- `label_count`. -/
def labelCount (name : Bytes) : Nat :=
  if name.isEmpty then 0 else 1 + name.count 46

/-- `is_service_type_name`: three labels, e.g. `_airplay._tcp.local`. -/
def isServiceTypeName (name : Bytes) : Bool :=
  if !hasMdnsServiceSuffix name then false
  else if isDnsSdMetaService name then false
  else labelCount name == 3

/-- `is_instance_name`: four or more labels. -/
def isInstanceName (name : Bytes) : Bool :=
  if !hasMdnsServiceSuffix name then false
  else if isDnsSdMetaService name then false
  else labelCount name ≥ 4

/-- `contains_arpa`. -/
def containsArpa (name : Bytes) : Bool :=
  (Text.find? (ascii ".arpa") name).isSome

/-- `is_bonjour_owner`. -/
def isBonjourOwner (owner : Bytes) : Bool :=
  isInstanceName owner || isServiceTypeName owner

/-- `service_type_from_name`; the empty string when there is no service type. -/
def serviceTypeFromName (name : Bytes) : Bytes :=
  if isServiceTypeName name then name
  else if !isInstanceName name then []
  else
    let transportPos :=
      match Text.rfind? tcpSuffix name with
      | some pos => some pos
      | none => Text.rfind? udpSuffix name
    match transportPos with
    | none => []
    | some 0 => []
    | some (pos + 1) =>
        -- `rfind('.', transport_pos - 1)` looks at the first `transport_pos` octets
        match Text.rfind? [46] (name.take (pos + 1)) with
        | none => []
        | some dotBeforeService => name.drop (dotBeforeService + 1)

/-- A `.local` name is never empty. -/
theorem ne_nil_of_endsWith_local {s : Bytes} (h : endsWith s localSuffix = true) :
    s ≠ [] := by
  rintro rfl
  revert h
  decide

theorem hasMdnsServiceSuffix_iff {name : Bytes} :
    hasMdnsServiceSuffix name = true ↔ tcpSuffix <:+ name ∨ udpSuffix <:+ name := by
  rw [hasMdnsServiceSuffix, Bool.or_eq_true, endsWith, endsWith, List.isSuffixOf_iff_suffix,
    List.isSuffixOf_iff_suffix]

theorem labelCount_of_ne_nil {name : Bytes} (hne : name ≠ []) :
    labelCount name = 1 + name.count 46 := by
  rw [labelCount, if_neg (by simpa using hne)]

theorem hasMdnsServiceSuffix_of_isServiceTypeName {name : Bytes}
    (h : isServiceTypeName name = true) : hasMdnsServiceSuffix name = true := by
  unfold isServiceTypeName at h
  by_cases hs : hasMdnsServiceSuffix name = true
  · exact hs
  · simp [hs] at h

theorem hasMdnsServiceSuffix_of_isInstanceName {name : Bytes}
    (h : isInstanceName name = true) : hasMdnsServiceSuffix name = true := by
  unfold isInstanceName at h
  by_cases hs : hasMdnsServiceSuffix name = true
  · exact hs
  · simp [hs] at h

theorem hasMdnsServiceSuffix_of_isBonjourOwner {owner : Bytes}
    (h : isBonjourOwner owner = true) : hasMdnsServiceSuffix owner = true := by
  unfold isBonjourOwner at h
  rcases Bool.or_eq_true_iff.mp h with hinstance | htype
  · exact hasMdnsServiceSuffix_of_isInstanceName hinstance
  · exact hasMdnsServiceSuffix_of_isServiceTypeName htype

/-- `service_type_from_name` finds the type of an ordinary instance name. -/
example :
    serviceTypeFromName (ascii "Living Room._airplay._tcp.local") =
      ascii "_airplay._tcp.local" := by
  decide

end MdnsNames
end Scanner
end LanDiscovery
