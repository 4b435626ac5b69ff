import LanDiscovery.EndToEnd.ServiceTypes
import LanDiscovery.Library.Labels

/-!
# The service type of an instance name

An instance name ends in its service type, which is its last three labels.  Both sides go
back from the end to `._tcp.local`, and to `._udp.local` only if there is none.  So they
answer the last three labels exactly if the name ends in `._tcp.local` or has it nowhere
(`serviceTypeFromName_lastLabels_iff`).
-/

namespace LanDiscovery
namespace EndToEnd

open Library Library.Utf8 Library.Labels Scanner Api

/-- A name is answered with its last three labels, which are a service type and their own
answer. -/
structure AnswersLastLabels {α : Type} [DecidableEq α] (c : α)
    (isServiceTypeName : List α → Bool) (answer : List α → Option (List α)) (name : List α) :
    Prop where
  labels : answer name = some (lastLabels c 3 name)
  isType : isServiceTypeName (lastLabels c 3 name) = true
  nonempty : lastLabels c 3 name ≠ []
  again : answer (lastLabels c 3 name) = some (lastLabels c 3 name)

/-- The answer on a name with more than three labels that ends in one of two transports,
if it is what `labelsFrom` finds. -/
theorem answersLastLabels_iff {α : Type} [DecidableEq α] {c : α}
    {tcp udp first second name : List α} {isServiceTypeName : List α → Bool}
    {answer : List α → Option (List α)} (htcp : tcp = c :: first) (hudp : udp = c :: second)
    (hfirst : tcp.count c = 2) (hsecond : udp.count c = 2) (hne : ¬ first <+: second)
    (hsuffix : tcp <:+ name ∨ udp <:+ name) (hcount : 2 < name.count c)
    (htype : ∀ t, tcp <:+ t ∨ udp <:+ t → t.count c = 2 → isServiceTypeName t = true)
    (hself : ∀ t, isServiceTypeName t = true → answer t = some t)
    (hanswer : ∀ t ≠ [], answer name = some t ↔ labelsFrom c tcp udp name = some t) :
    AnswersLastLabels c isServiceTypeName answer name ↔ tcp <:+ name ∨ ¬ tcp <:+: name := by
  have hlast : (lastLabels c 3 name).count c = 2 := count_lastLabels hcount
  have hisType : isServiceTypeName (lastLabels c 3 name) = true :=
    htype _ (hsuffix.imp (fun h => suffix_lastLabels h hfirst.le hcount)
      fun h => suffix_lastLabels h hsecond.le hcount) hlast
  have hnonempty : lastLabels c 3 name ≠ [] := by
    intro hnil
    rw [hnil] at hlast
    exact absurd hlast (by simp)
  subst htcp hudp
  rw [← labelsFrom_eq_lastLabels_iff hfirst hsecond hne hsuffix hcount, ← hanswer _ hnonempty]
  exact ⟨fun h => h.labels, fun hlabels => ⟨hlabels, hisType, hnonempty, hself _ hisType⟩⟩

/-! ## The scanner -/

/-- The answer of the scanner. -/
def scannerAnswer (name : Bytes) : Option Bytes :=
  some (Scanner.MdnsNames.serviceTypeFromName name)

/-- A name with a suffix and two dots is a service type. -/
theorem scanner_isServiceTypeName_of {name : Bytes}
    (hsuffix : Scanner.MdnsNames.tcpSuffix <:+ name ∨ Scanner.MdnsNames.udpSuffix <:+ name)
    (hcount : name.count 46 = 2) : Scanner.MdnsNames.isServiceTypeName name = true := by
  have hne : name ≠ [] := by
    rintro rfl
    exact absurd hcount (by decide)
  have hmeta : Scanner.MdnsNames.isDnsSdMetaService name = false := by
    rw [Scanner.MdnsNames.isDnsSdMetaService, beq_eq_false_iff_ne]
    rintro rfl
    exact absurd hcount (by decide)
  unfold Scanner.MdnsNames.isServiceTypeName
  rw [Scanner.MdnsNames.hasMdnsServiceSuffix_iff.mpr hsuffix, hmeta,
    Scanner.MdnsNames.labelCount_of_ne_nil hne, hcount]
  rfl

/-- What the classification of an instance name has seen. -/
theorem scanner_isInstanceName_spec {name : Bytes}
    (h : Scanner.MdnsNames.isInstanceName name = true) :
    (Scanner.MdnsNames.tcpSuffix <:+ name ∨ Scanner.MdnsNames.udpSuffix <:+ name) ∧
      2 < name.count 46 ∧ Scanner.MdnsNames.isServiceTypeName name = false := by
  have hsuffix := Scanner.MdnsNames.hasMdnsServiceSuffix_of_isInstanceName h
  have hne : name ≠ [] := by
    rintro rfl
    exact absurd h (by decide)
  unfold Scanner.MdnsNames.isInstanceName at h
  rw [hsuffix] at h
  split_ifs at h with hmeta
  · have hcount : 4 ≤ Scanner.MdnsNames.labelCount name := by simpa using h
    have htype : Scanner.MdnsNames.labelCount name ≠ 3 := by omega
    refine ⟨Scanner.MdnsNames.hasMdnsServiceSuffix_iff.mp hsuffix, ?_, ?_⟩
    · rw [Scanner.MdnsNames.labelCount_of_ne_nil hne] at hcount
      omega
    · simp [Scanner.MdnsNames.isServiceTypeName, htype]

/-- The scanner on an instance name. -/
theorem scannerAnswer_lastLabels_iff {name : Bytes}
    (h : Scanner.MdnsNames.isInstanceName name = true) :
    AnswersLastLabels 46 Scanner.MdnsNames.isServiceTypeName scannerAnswer name ↔
      Scanner.MdnsNames.tcpSuffix <:+ name ∨ ¬ Scanner.MdnsNames.tcpSuffix <:+: name := by
  obtain ⟨hsuffix, hcount, hnotType⟩ := scanner_isInstanceName_spec h
  have hsearch : scannerAnswer name = some ((labelsFrom 46 Scanner.MdnsNames.tcpSuffix
      Scanner.MdnsNames.udpSuffix name).getD []) := by
    rw [scannerAnswer, scanner_serviceTypeFromName_eq, hnotType, h]
    rfl
  have htcp : Scanner.MdnsNames.tcpSuffix = 46 :: ascii "_tcp.local" := by decide
  have hudp : Scanner.MdnsNames.udpSuffix = 46 :: ascii "_udp.local" := by decide
  refine answersLastLabels_iff htcp hudp (by decide) (by decide) (by decide) hsuffix hcount
    (fun _ => scanner_isServiceTypeName_of) (fun t htype => ?_) fun t hne => ?_
  · rw [scannerAnswer, scanner_serviceTypeFromName_eq, if_pos htype]
  · -- the empty text stands for no answer
    rw [hsearch, Option.some_inj]
    cases labelsFrom 46 Scanner.MdnsNames.tcpSuffix Scanner.MdnsNames.udpSuffix name with
    | none => simpa using hne.symm
    | some found => simp

/-! ## The API -/

/-- A name with a suffix and two dots is a service type. -/
theorem api_isServiceTypeName_of {name : Str}
    (hsuffix : Api.MdnsNames.tcpSuffix <:+ name ∨ Api.MdnsNames.udpSuffix <:+ name)
    (hcount : name.count '.' = 2) : Api.MdnsNames.isServiceTypeName name = true := by
  have hyes := Api.MdnsNames.hasMdnsServiceSuffix_iff.mpr hsuffix
  refine Api.MdnsNames.isServiceTypeName_iff.mpr ⟨hyes, ?_⟩
  rw [Api.MdnsNames.labelCount_of_hasMdnsServiceSuffix hyes, hcount]

/-- The API on an instance name. -/
theorem apiAnswer_lastLabels_iff {name : Str} (h : Api.MdnsNames.isInstanceName name = true) :
    AnswersLastLabels '.' Api.MdnsNames.isServiceTypeName Api.MdnsNames.serviceTypeFromName name ↔
      Api.MdnsNames.tcpSuffix <:+ name ∨ ¬ Api.MdnsNames.tcpSuffix <:+: name := by
  obtain ⟨hyes, -, hlabels⟩ := Api.MdnsNames.isInstanceName_iff.mp h
  have hcount : 2 < name.count '.' := by
    rw [Api.MdnsNames.labelCount_of_hasMdnsServiceSuffix hyes] at hlabels
    omega
  have htcp : Api.MdnsNames.tcpSuffix = '.' :: str "_tcp.local" := by decide
  have hudp : Api.MdnsNames.udpSuffix = '.' :: str "_udp.local" := by decide
  refine answersLastLabels_iff htcp hudp (by decide) (by decide) (by decide)
    (Api.MdnsNames.hasMdnsServiceSuffix_iff.mp hyes) hcount
    (fun _ => api_isServiceTypeName_of) (fun t htype => ?_) fun t _ => ?_
  · rw [Api.MdnsNames.serviceTypeFromName_eq, if_pos htype]
  · rw [Api.MdnsNames.serviceTypeFromName_of_isInstanceName h, Api.MdnsNames.transportType_eq,
      labelsFrom]

/-- **The service type of an instance name.**  On both sides it is the last three labels
exactly if the name ends in `._tcp.local` or has it nowhere. -/
theorem serviceTypeFromName_lastLabels_iff (octets : Bytes) (name : Str) :
    (Scanner.MdnsNames.isInstanceName octets = true →
      (AnswersLastLabels 46 Scanner.MdnsNames.isServiceTypeName scannerAnswer octets ↔
        Scanner.MdnsNames.tcpSuffix <:+ octets ∨ ¬ Scanner.MdnsNames.tcpSuffix <:+: octets)) ∧
    (Api.MdnsNames.isInstanceName name = true →
      (AnswersLastLabels '.' Api.MdnsNames.isServiceTypeName
          Api.MdnsNames.serviceTypeFromName name ↔
        Api.MdnsNames.tcpSuffix <:+ name ∨ ¬ Api.MdnsNames.tcpSuffix <:+: name)) :=
  ⟨scannerAnswer_lastLabels_iff, apiAnswer_lastLabels_iff⟩

/-- A name of a UDP service with the other suffix inside is answered with six labels. -/
theorem innerTransport_found :
    (¬ ∀ name : Bytes, Scanner.MdnsNames.isInstanceName name = true →
      AnswersLastLabels 46 Scanner.MdnsNames.isServiceTypeName scannerAnswer name) ∧
    ¬ ∀ name : Str, Api.MdnsNames.isInstanceName name = true →
      AnswersLastLabels '.' Api.MdnsNames.isServiceTypeName
        Api.MdnsNames.serviceTypeFromName name := by
  constructor
  · intro h
    have hlabels := (h (ascii "Hall.TV._tcp.local._hap._udp.local") (by decide)).labels
    revert hlabels
    decide +kernel
  · intro h
    have hlabels := (h (str "Hall.TV._tcp.local._hap._udp.local") (by decide)).labels
    revert hlabels
    decide +kernel

end EndToEnd
end LanDiscovery
