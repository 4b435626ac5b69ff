import LanDiscovery.Api.MdnsNames
import LanDiscovery.Library.EncodedText
import Mathlib.Data.List.DropRight

/-!
# Pointer targets without their white space

The API strips the text of a pointer before it classifies it.  A name ends in letters, so
only white space in front of it goes, and that has no dots: the name has the same labels
but for the first one, and the same service type (`transportType_strip`).  What may
change is that a type begins with white space, or that a name is the one of the meta
service without it.
-/

namespace LanDiscovery
namespace Api
namespace MdnsNames

open Library

/-- The search of `service_type_from_name`, without the classification. -/
def transportType (name : Str) : Option Str :=
  let transportPos :=
    match Text.rfind? tcpSuffix name with
    | some pos => some pos
    | none => Text.rfind? udpSuffix name
  match transportPos with
  | none => none
  | some 0 => none
  | some (pos + 1) =>
      match Text.rfind? ['.'] (name.take (pos + 1)) with
      | none => none
      | some dotBefore => some (name.drop (dotBefore + 1))

theorem serviceTypeFromName_eq (name : Str) :
    serviceTypeFromName name =
      if isServiceTypeName name then some name
      else if !isInstanceName name then none
      else transportType name :=
  rfl

/-- The search as a composition; a suffix at the very start has no dot in front of
it. -/
theorem transportType_eq (name : Str) :
    transportType name =
      ((Text.rfind? tcpSuffix name).or (Text.rfind? udpSuffix name)).bind fun pos =>
        (Text.rfind? ['.'] (name.take pos)).map fun dotBefore => name.drop (dotBefore + 1) := by
  unfold transportType
  rcases Text.rfind? tcpSuffix name with _ | _ | pos
  · rcases Text.rfind? udpSuffix name with _ | _ | pos
    · rfl
    · rfl
    · dsimp only [Option.or, Option.bind_some]
      cases Text.rfind? ['.'] (name.take (pos + 1)) <;> rfl
  · rfl
  · dsimp only [Option.or, Option.bind_some]
    cases Text.rfind? ['.'] (name.take (pos + 1)) <;> rfl

theorem serviceTypeFromName_of_isInstanceName {name : Str} (h : isInstanceName name = true) :
    serviceTypeFromName name = transportType name := by
  have htype : isServiceTypeName name = false := by
    unfold isInstanceName at h
    unfold isServiceTypeName
    split at h
    · exact absurd h (by simp)
    · next hname =>
        have hcount : 4 ≤ labelCount name := by simpa using h
        rw [if_neg hname, beq_eq_false_iff_ne]
        omega
  rw [serviceTypeFromName_eq, htype, h]
  rfl

/-! ## White space in front -/

theorem not_isSpace_dot : isSpace '.' = false := by
  decide

/-- The white space in front of a text has no dots. -/
theorem dot_notMem_takeWhile (name : Str) : '.' ∉ name.takeWhile isSpace := by
  intro hmem
  have hspace := List.mem_takeWhile_imp hmem
  rw [not_isSpace_dot] at hspace
  exact absurd hspace (by simp)

theorem hasMdnsServiceSuffix_iff {name : Str} :
    hasMdnsServiceSuffix name = true ↔ tcpSuffix <:+ name ∨ udpSuffix <:+ name := by
  rw [hasMdnsServiceSuffix, Bool.or_eq_true, List.isSuffixOf_iff_suffix,
    List.isSuffixOf_iff_suffix]

/-- White space in front does not matter for the suffix. -/
theorem hasMdnsServiceSuffix_append {space : Str} (h : '.' ∉ space) (name : Str) :
    hasMdnsServiceSuffix (space ++ name) = hasMdnsServiceSuffix name := by
  rw [Bool.eq_iff_iff, hasMdnsServiceSuffix_iff, hasMdnsServiceSuffix_iff]
  exact or_congr (Text.suffix_append_iff_of_notMem h) (Text.suffix_append_iff_of_notMem h)

/-- A name ends in a letter. -/
theorem exists_of_hasMdnsServiceSuffix {name : Str} (h : hasMdnsServiceSuffix name = true) :
    ∃ front, name = front ++ ['l'] := by
  rcases hasMdnsServiceSuffix_iff.mp h with ⟨front, rfl⟩ | ⟨front, rfl⟩
  · exact ⟨front ++ str "._tcp.loca", by rw [List.append_assoc]; rfl⟩
  · exact ⟨front ++ str "._udp.loca", by rw [List.append_assoc]; rfl⟩

/-- Only the white space in front of a name is stripped. -/
theorem strip_eq_dropWhile {name : Str} (h : hasMdnsServiceSuffix name = true) :
    strip name = name.dropWhile isSpace := by
  have hrest : hasMdnsServiceSuffix (name.dropWhile isSpace) = true := by
    rw [← hasMdnsServiceSuffix_append (dot_notMem_takeWhile name),
      List.takeWhile_append_dropWhile]
    exact h
  obtain ⟨front, hfront⟩ := exists_of_hasMdnsServiceSuffix hrest
  have hlast : isSpace 'l' = false := by decide
  rw [strip, hfront, List.reverse_append, List.reverse_singleton, List.singleton_append,
    List.dropWhile_cons_of_neg (by simp [hlast]), List.reverse_cons, List.reverse_reverse]

theorem takeWhile_append_strip {name : Str} (h : hasMdnsServiceSuffix name = true) :
    name.takeWhile isSpace ++ strip name = name := by
  rw [strip_eq_dropWhile h, List.takeWhile_append_dropWhile]

theorem hasMdnsServiceSuffix_strip {name : Str} (h : hasMdnsServiceSuffix name = true) :
    hasMdnsServiceSuffix (strip name) = true := by
  rw [← hasMdnsServiceSuffix_append (dot_notMem_takeWhile name), takeWhile_append_strip h]
  exact h

theorem strip_strip {name : Str} (h : hasMdnsServiceSuffix name = true) :
    strip (strip name) = strip name := by
  rw [strip_eq_dropWhile (hasMdnsServiceSuffix_strip h), strip_eq_dropWhile h,
    List.dropWhile_idempotent]

theorem ne_nil_of_hasMdnsServiceSuffix {name : Str} (h : hasMdnsServiceSuffix name = true) :
    name ≠ [] := by
  rintro rfl
  revert h
  decide

theorem labelCount_of_hasMdnsServiceSuffix {name : Str} (h : hasMdnsServiceSuffix name = true) :
    labelCount name = name.count '.' + 1 := by
  rw [labelCount, if_neg]
  simpa using ne_nil_of_hasMdnsServiceSuffix h

theorem labelCount_strip {name : Str} (h : hasMdnsServiceSuffix name = true) :
    labelCount (strip name) = labelCount name := by
  have hcount : (name.takeWhile isSpace ++ strip name).count '.' = (strip name).count '.' := by
    rw [List.count_append, List.count_eq_zero.mpr (dot_notMem_takeWhile name), Nat.zero_add]
  rw [takeWhile_append_strip h] at hcount
  rw [labelCount_of_hasMdnsServiceSuffix h,
    labelCount_of_hasMdnsServiceSuffix (hasMdnsServiceSuffix_strip h), hcount]

theorem isServiceTypeName_iff {name : Str} :
    isServiceTypeName name = true ↔ hasMdnsServiceSuffix name = true ∧ labelCount name = 3 := by
  unfold isServiceTypeName
  split
  · next h =>
      refine iff_of_false (by simp) ?_
      rintro ⟨hsuffix, hcount⟩
      obtain rfl : name = metaService := by simpa [hsuffix] using h
      exact absurd hcount (by decide)
  · next h =>
      have hsuffix : hasMdnsServiceSuffix name = true := by
        by_contra hno
        simp [hno] at h
      simp [hsuffix]

theorem isInstanceName_iff {name : Str} :
    isInstanceName name = true ↔
      hasMdnsServiceSuffix name = true ∧ name ≠ metaService ∧ 4 ≤ labelCount name := by
  unfold isInstanceName
  cases hsuffix : hasMdnsServiceSuffix name with
  | false => simp
  | true =>
      by_cases hmeta : name = metaService
      · simp [hmeta]
      · simp [hmeta]

/-- A stripped service type is a service type. -/
theorem isServiceTypeName_strip {name : Str} (h : isServiceTypeName name = true) :
    isServiceTypeName (strip name) = true := by
  obtain ⟨hsuffix, hcount⟩ := isServiceTypeName_iff.mp h
  exact isServiceTypeName_iff.mpr
    ⟨hasMdnsServiceSuffix_strip hsuffix, (labelCount_strip hsuffix).trans hcount⟩

/-- A stripped instance name is an instance name, or it is the name of the meta
service. -/
theorem isInstanceName_strip {name : Str} (h : isInstanceName name = true) :
    isInstanceName (strip name) = true ↔ strip name ≠ metaService := by
  obtain ⟨hsuffix, -, hcount⟩ := isInstanceName_iff.mp h
  rw [isInstanceName_iff, labelCount_strip hsuffix]
  simp [hasMdnsServiceSuffix_strip hsuffix, hcount]

/-- White space in front does not matter for the service type. -/
theorem transportType_append {space : Str} (h : '.' ∉ space) (name : Str) :
    transportType (space ++ name) = transportType name := by
  have htcp : Text.rfind? tcpSuffix (space ++ name) =
      (Text.rfind? tcpSuffix name).map (· + space.length) :=
    Text.rfind?_append_of_notMem h (str "_tcp.local") name
  have hudp : Text.rfind? udpSuffix (space ++ name) =
      (Text.rfind? udpSuffix name).map (· + space.length) :=
    Text.rfind?_append_of_notMem h (str "_udp.local") name
  have hor : (Text.rfind? tcpSuffix (space ++ name)).or (Text.rfind? udpSuffix (space ++ name)) =
      ((Text.rfind? tcpSuffix name).or (Text.rfind? udpSuffix name)).map (· + space.length) := by
    rw [htcp, hudp]
    cases Text.rfind? tcpSuffix name <;> rfl
  rw [transportType_eq, transportType_eq, hor, Option.bind_map]
  congr 1
  funext pos
  have htake : (space ++ name).take (pos + space.length) = space ++ name.take pos := by
    rw [Nat.add_comm, List.take_length_add_append]
  have hdot := Text.rfind?_append_of_notMem h [] (name.take pos)
  rw [Function.comp_apply, htake, hdot, Option.map_map]
  congr 1
  funext dotBefore
  rw [Function.comp_apply, Nat.add_right_comm, Nat.add_comm, List.drop_length_add_append]

theorem transportType_strip {name : Str} (h : hasMdnsServiceSuffix name = true) :
    transportType (strip name) = transportType name := by
  rw [← transportType_append (dot_notMem_takeWhile name), takeWhile_append_strip h]

end MdnsNames
end Api
end LanDiscovery
