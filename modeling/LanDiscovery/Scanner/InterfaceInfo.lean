import LanDiscovery.Scanner.DiscoveryJson
import Mathlib.Data.Int.ConditionallyCompleteOrder
import Mathlib.Data.List.MinMax
import Mathlib.Order.ConditionallyCompleteLattice.Basic

/-!
# The interface that the engine sends from

`InterfaceInfo.cpp` and the choice that `DiscoveryEngine::start` makes with it, over what
`getifaddrs` returns.  The loop that keeps the best address so far, and falls back to the
first one, finds the first maximum of the priorities (`pickDefaultMulticastInterface_eq`),
and the priorities, read off the texts of the addresses, are those of their octets.
Private addresses come first, but all of `172.0.0.0/8` counts as private
(`interface_is_chosen`).
-/

namespace LanDiscovery
namespace Scanner

open Library Library.Utf8

/-! ## The interfaces of the machine -/

/-- An address of `getifaddrs`, IPv4 or of another family. -/
inductive SockAddr where
  | inet (a b c d : UInt8)
  | other

/-- `ifaddrs`, as far as it is read. -/
structure Ifaddrs where
  ifaName : Option Bytes
  ifaAddr : Option SockAddr
  ifaFlags : UInt32

/-- `IFF_UP`. -/
def iffUp : UInt32 := 1

/-- `IFF_LOOPBACK`. -/
def iffLoopback : UInt32 := 8

/-- `InterfaceAddress`. -/
structure InterfaceAddress where
  name : Bytes
  ipv4 : Bytes
  deriving DecidableEq

/-- The body of the loop of `list_ipv4_interfaces`. -/
def listedInterface (ia : Ifaddrs) : Option InterfaceAddress :=
  match ia.ifaAddr with
  | some (.inet a b c d) =>
      if ia.ifaFlags &&& iffLoopback ≠ 0 then none
      else if ia.ifaFlags &&& iffUp = 0 then none
      else some ⟨ia.ifaName.getD [], ipv4Text a b c d⟩
  | _ => none

/-- `list_ipv4_interfaces`; `none` where `getifaddrs` fails. -/
def listIpv4Interfaces : Option (List Ifaddrs) → List InterfaceAddress
  | none => []
  | some ifap => ifap.filterMap listedInterface

/-- `ipv4_for_interface`. -/
def ipv4ForInterface (ifaces : List InterfaceAddress) (ifname : Bytes) : Bytes :=
  match ifaces.find? fun entry => entry.name = ifname with
  | some entry => entry.ipv4
  | none => []

/-- `multicast_interface_priority`. -/
def multicastInterfacePriority (ipv4 : Bytes) : Int :=
  if (ascii "169.254.").isPrefixOf ipv4 then -1
  else if (ascii "10.").isPrefixOf ipv4 then 3
  else if (ascii "192.168.").isPrefixOf ipv4 then 2
  else if (ascii "172.").isPrefixOf ipv4 then 1
  else 0

/-- The body of the loop of `pick_default_multicast_interface`, on `best` and `best_pri`. -/
def pickStep (best : Option InterfaceAddress × Int) (iface : InterfaceAddress) :
    Option InterfaceAddress × Int :=
  if best.2 < multicastInterfacePriority iface.ipv4 then
    (some iface, multicastInterfacePriority iface.ipv4)
  else best

/-- `pick_default_multicast_interface`. -/
def pickDefaultMulticastInterface (ifaces : List InterfaceAddress) : Option InterfaceAddress :=
  match (ifaces.foldl pickStep (none, -1)).1 with
  | some best => some best
  | none => ifaces.head?

/-- The interface and the address that `DiscoveryEngine::start` binds to; `none` where it
returns before it binds. -/
def startInterface (ifaces : List InterfaceAddress) (interfaceName : Bytes) :
    Option (Bytes × Bytes) :=
  if interfaceName = [] then
    match pickDefaultMulticastInterface ifaces with
    | some picked => some (picked.name, picked.ipv4)
    | none => some ([], [])
  else
    let ifaceIp := ipv4ForInterface ifaces interfaceName
    if ifaceIp = [] then none else some (interfaceName, ifaceIp)

/-! ## The first of the best -/

/-- The priority of an interface. -/
def InterfaceAddress.priority (iface : InterfaceAddress) : Int :=
  multicastInterfacePriority iface.ipv4

theorem InterfaceAddress.neg_one_le_priority (iface : InterfaceAddress) :
    -1 ≤ iface.priority := by
  rw [priority, multicastInterfacePriority]
  split_ifs <;> decide

/-- The loop has the first maximum, or has met no priority but the least. -/
theorem foldl_pickStep (ifaces : List InterfaceAddress) :
    (∃ best, ifaces.foldl pickStep (none, -1) = (some best, best.priority) ∧
      ifaces.argmax InterfaceAddress.priority = some best) ∨
    ifaces.foldl pickStep (none, -1) = (none, -1) ∧ ∀ iface ∈ ifaces, iface.priority = -1 := by
  induction ifaces using List.reverseRecOn with
  | nil => exact .inr ⟨rfl, by simp⟩
  | append_singleton ifaces iface ih =>
      rw [List.foldl_append, List.foldl_cons, List.foldl_nil, List.argmax_concat]
      rcases ih with ⟨best, hfold, hbest⟩ | ⟨hfold, hleast⟩
      · rw [hfold, hbest]
        by_cases hbetter : best.priority < iface.priority
        · exact .inl ⟨iface, if_pos hbetter, if_pos hbetter⟩
        · exact .inl ⟨best, if_neg hbetter, if_neg hbetter⟩
      · rw [hfold]
        by_cases hbetter : -1 < iface.priority
        · refine .inl ⟨iface, if_pos hbetter, ?_⟩
          cases hmax : ifaces.argmax InterfaceAddress.priority with
          | none => rfl
          | some best =>
              have hlow := hleast best (List.argmax_mem hmax)
              exact if_pos (by rw [hlow]; exact hbetter)
        · refine .inr ⟨if_neg hbetter, ?_⟩
          intro other hother
          rcases List.mem_append.mp hother with hother | hother
          · exact hleast other hother
          · have hlow := iface.neg_one_le_priority
            rw [List.mem_singleton.mp hother]
            omega

theorem argmax_eq_head? {ifaces : List InterfaceAddress} {priority : Int}
    (hall : ∀ iface ∈ ifaces, iface.priority = priority) :
    ifaces.argmax InterfaceAddress.priority = ifaces.head? := by
  cases ifaces with
  | nil => rfl
  | cons first rest =>
      have hfirst := hall first List.mem_cons_self
      rw [List.argmax_cons, List.head?_cons]
      cases hmax : rest.argmax InterfaceAddress.priority with
      | none => rfl
      | some best =>
          have hbest := hall best (List.mem_cons_of_mem _ (List.argmax_mem hmax))
          exact if_neg (by rw [hfirst, hbest]; exact lt_irrefl _)

/-- The loop and its fallback find the first interface of the greatest priority. -/
theorem pickDefaultMulticastInterface_eq (ifaces : List InterfaceAddress) :
    pickDefaultMulticastInterface ifaces = ifaces.argmax InterfaceAddress.priority := by
  rw [pickDefaultMulticastInterface]
  rcases foldl_pickStep ifaces with ⟨best, hfold, hbest⟩ | ⟨hfold, hleast⟩
  · rw [hfold, hbest]
  · rw [hfold, argmax_eq_head? hleast]

/-! ## Addresses -/

/-- An interface that is up and no loopback, with an IPv4 address. -/
structure Usable where
  name : Bytes
  a : UInt8
  b : UInt8
  c : UInt8
  d : UInt8
  deriving DecidableEq

namespace Usable

/-- `10.0.0.0/8`, `172.16.0.0/12` or `192.168.0.0/16`. -/
def IsPrivate (u : Usable) : Prop :=
  u.a = 10 ∨ (u.a = 172 ∧ 16 ≤ u.b ∧ u.b ≤ 31) ∨ (u.a = 192 ∧ u.b = 168)

/-- `169.254.0.0/16`. -/
def IsLinkLocal (u : Usable) : Prop :=
  u.a = 169 ∧ u.b = 254

/-- The priority that the octets stand for. -/
def priority (u : Usable) : Int :=
  if u.a = 169 ∧ u.b = 254 then -1
  else if u.a = 10 then 3
  else if u.a = 192 ∧ u.b = 168 then 2
  else if u.a = 172 then 1
  else 0

/-- The text of the address. -/
def ipv4 (u : Usable) : Bytes :=
  ipv4Text u.a u.b u.c u.d

/-- The interface as it is listed. -/
def listed (u : Usable) : InterfaceAddress :=
  ⟨u.name, u.ipv4⟩

end Usable

/-- An entry of `getifaddrs` that can be used. -/
def usableEntry (ia : Ifaddrs) : Option Usable :=
  match ia.ifaAddr with
  | some (.inet a b c d) =>
      if ia.ifaFlags &&& iffLoopback = 0 ∧ ia.ifaFlags &&& iffUp ≠ 0 then
        some ⟨ia.ifaName.getD [], a, b, c, d⟩
      else none
  | _ => none

theorem listedInterface_eq (ia : Ifaddrs) :
    listedInterface ia = (usableEntry ia).map Usable.listed := by
  obtain ⟨name, addr, flags⟩ := ia
  match addr with
  | none => rfl
  | some .other => rfl
  | some (.inet a b c d) =>
      simp only [listedInterface, usableEntry]
      split_ifs <;> first | rfl | (exfalso; tauto)

theorem listIpv4Interfaces_eq (ifap : List Ifaddrs) :
    listIpv4Interfaces (some ifap) = (ifap.filterMap usableEntry).map Usable.listed := by
  rw [listIpv4Interfaces, List.map_filterMap]
  exact congrArg (List.filterMap · ifap) (funext listedInterface_eq)

theorem dot_head (rest : Bytes) : ∀ x ∈ ((46 : UInt8) :: rest).head?, ¬ Json.isDigit x = true :=
  PrefixCode.not_of_mem_head?_cons (by decide) rest

/-- The first octet is read off the text up to its dot. -/
theorem octet_isPrefixOf {n a b c d : UInt8} :
    (decimal n.toNat ++ [46]).isPrefixOf (ipv4Text a b c d) = true ↔ a = n := by
  rw [List.isPrefixOf_iff_prefix, ipv4Text_eq]
  constructor
  · rintro ⟨rest, hrest⟩
    rw [List.append_assoc, List.singleton_append] at hrest
    exact (UInt8.toNat_inj.mp (decimal_append_inj (dot_head _) (dot_head _) hrest).1).symm
  · rintro rfl
    exact ⟨_, List.append_assoc _ _ _⟩

/-- The first two octets are read off the text up to the second dot. -/
theorem octets_isPrefixOf {n m a b c d : UInt8} :
    (decimal n.toNat ++ 46 :: (decimal m.toNat ++ [46])).isPrefixOf (ipv4Text a b c d) = true ↔
      a = n ∧ b = m := by
  rw [List.isPrefixOf_iff_prefix, ipv4Text_eq]
  constructor
  · rintro ⟨rest, hrest⟩
    simp only [List.append_assoc, List.cons_append, List.nil_append] at hrest
    obtain ⟨hfirst, hbehind⟩ := decimal_append_inj (dot_head _) (dot_head _) hrest
    have hsecond := (decimal_append_inj (dot_head _) (dot_head _) (List.cons.inj hbehind).2).1
    exact ⟨(UInt8.toNat_inj.mp hfirst).symm, (UInt8.toNat_inj.mp hsecond).symm⟩
  · rintro ⟨rfl, rfl⟩
    exact ⟨decimal c.toNat ++ 46 :: decimal d.toNat, by
      simp only [List.append_assoc, List.cons_append, List.nil_append]⟩

/-- The texts that the priorities look for stand for octets. -/
theorem priority_listed (u : Usable) : u.listed.priority = u.priority := by
  have hlinkLocal : ascii "169.254." = decimal (169 : UInt8).toNat ++
      46 :: (decimal (254 : UInt8).toNat ++ [46]) := by decide
  have hten : ascii "10." = decimal (10 : UInt8).toNat ++ [46] := by decide
  have hhome : ascii "192.168." = decimal (192 : UInt8).toNat ++
      46 :: (decimal (168 : UInt8).toNat ++ [46]) := by decide
  have hlarge : ascii "172." = decimal (172 : UInt8).toNat ++ [46] := by decide
  rw [InterfaceAddress.priority, multicastInterfacePriority, Usable.priority, hlinkLocal, hten,
    hhome, hlarge]
  simp only [Usable.listed, Usable.ipv4, octet_isPrefixOf, octets_isPrefixOf]

theorem argmax_listed (usable : List Usable) :
    (usable.map Usable.listed).argmax InterfaceAddress.priority =
      (usable.argmax Usable.priority).map Usable.listed := by
  induction usable using List.reverseRecOn with
  | nil => rfl
  | append_singleton usable u ih =>
      rw [List.map_append, List.map_singleton, List.argmax_concat, List.argmax_concat, ih]
      cases usable.argmax Usable.priority with
      | none => rfl
      | some best =>
          simp only [Option.map_some, priority_listed]
          split_ifs <;> rfl

/-! ## What the engine binds to -/

/-- The interface that is taken when none is named. -/
structure Chosen (usable : List Usable) (u : Usable) : Prop where
  mem : u ∈ usable
  best : ∀ other ∈ usable, other.priority ≤ u.priority
  first : ∀ other ∈ usable, u.priority ≤ other.priority → usable.idxOf u ≤ usable.idxOf other
  tenFirst : ∀ other ∈ usable, other.a = 10 → u.a = 10
  /-- private networks come first, but for the public part of `172.0.0.0/8` -/
  privateFirst : ∀ other ∈ usable, other.IsPrivate → u.IsPrivate ∨ (u.a = 172 ∧ other.a = 172)
  linkLocalLast : u.IsLinkLocal → ∀ other ∈ usable, other.IsLinkLocal

theorem Usable.isPrivate_of_priority {u : Usable} (h : 2 ≤ u.priority) : u.IsPrivate := by
  rw [priority] at h
  rw [IsPrivate]
  split_ifs at h with hlinkLocal hten hhome hlarge <;> first | omega | tauto

theorem Usable.first_of_priority {u : Usable} (h : 1 ≤ u.priority) : u.IsPrivate ∨ u.a = 172 := by
  rw [priority] at h
  rw [IsPrivate]
  split_ifs at h with hlinkLocal hten hhome hlarge <;> first | omega | tauto

/-- A private address has a priority, and only one in `172.16.0.0/12` the least of them. -/
theorem Usable.IsPrivate.priority {u : Usable} (h : u.IsPrivate) :
    2 ≤ u.priority ∨ (u.priority = 1 ∧ u.a = 172) := by
  have hnot : ¬ (u.a = 169 ∧ u.b = 254) := by
    rintro ⟨ha, -⟩
    rw [IsPrivate, ha] at h
    rcases h with hten | ⟨hlarge, -⟩ | ⟨hhome, -⟩
    · exact absurd hten (by decide)
    · exact absurd hlarge (by decide)
    · exact absurd hhome (by decide)
  rw [Usable.priority, if_neg hnot]
  rcases h with hten | ⟨hlarge, -, -⟩ | hhome
  · exact .inl (by rw [if_pos hten]; decide)
  · exact .inr ⟨by simp [hlarge], hlarge⟩
  · exact .inl (by rw [if_neg (by rw [hhome.1]; decide), if_pos hhome])

theorem Usable.ten_iff_priority {u : Usable} : u.a = 10 ↔ 3 ≤ u.priority := by
  rw [priority]
  constructor
  · intro hten
    simp [hten]
  · intro h
    split_ifs at h <;> omega

theorem Usable.isLinkLocal_iff_priority {u : Usable} : u.IsLinkLocal ↔ u.priority ≤ -1 := by
  rw [IsLinkLocal, priority]
  split_ifs with hlinkLocal <;> simp [hlinkLocal]

theorem chosen_of_argmax {usable : List Usable} {u : Usable}
    (h : usable.argmax Usable.priority = some u) : Chosen usable u := by
  obtain ⟨hmem, hbest, hfirst⟩ := List.mem_argmax_iff.mp (Option.mem_def.mpr h)
  refine ⟨hmem, hbest, hfirst, ?_, ?_, ?_⟩
  · intro other hother hten
    have hle := hbest other hother
    have hhigh := Usable.ten_iff_priority.mp hten
    exact Usable.ten_iff_priority.mpr (by omega)
  · intro other hother hprivate
    have hle := hbest other hother
    rcases hprivate.priority with hhigh | ⟨hone, hlarge⟩
    · exact .inl (Usable.isPrivate_of_priority (by omega))
    · exact (Usable.first_of_priority (by omega)).imp_right fun hsame => ⟨hsame, hlarge⟩
  · intro hlinkLocal other hother
    have hle := hbest other hother
    have hlow := Usable.isLinkLocal_iff_priority.mp hlinkLocal
    exact Usable.isLinkLocal_iff_priority.mpr (by omega)

/-- What `start` binds to, on a machine with these usable addresses. -/
structure StartsOn (usable : List Usable) (interfaceName : Bytes)
    (bound : Option (Bytes × Bytes)) : Prop where
  /-- a named interface, with the first of its addresses -/
  named : interfaceName ≠ [] →
    bound = (usable.find? fun u => u.name = interfaceName).map fun u => (u.name, u.ipv4)
  /-- no interface: the system chooses -/
  unbound : interfaceName = [] → usable = [] → bound = some ([], [])
  chosen : interfaceName = [] → usable ≠ [] →
    ∃ u, Chosen usable u ∧ bound = some (u.name, u.ipv4)

theorem ipv4_ne_nil (u : Usable) : u.ipv4 ≠ [] := by
  rw [Usable.ipv4, ipv4Text_eq]
  simp

/-- A named interface is looked up among the usable ones. -/
theorem startInterface_named (usable : List Usable) {interfaceName : Bytes}
    (hname : interfaceName ≠ []) :
    startInterface (usable.map Usable.listed) interfaceName =
      (usable.find? fun u => u.name = interfaceName).map fun u => (u.name, u.ipv4) := by
  have hlisted : (fun entry => decide (entry.name = interfaceName)) ∘ Usable.listed =
      fun u => decide (u.name = interfaceName) := rfl
  rw [startInterface, if_neg hname, ipv4ForInterface, List.find?_map, hlisted]
  cases hfind : usable.find? fun u => decide (u.name = interfaceName) with
  | none => rfl
  | some u =>
      have hsame : u.name = interfaceName := by simpa using List.find?_some hfind
      simp only [Option.map_some, Usable.listed, if_neg (ipv4_ne_nil u), hsame]

/-- Without a name, `start` takes the first of the best. -/
theorem startInterface_nil {usable : List Usable} {u : Usable}
    (h : usable.argmax Usable.priority = some u) :
    startInterface (usable.map Usable.listed) [] = some (u.name, u.ipv4) := by
  rw [startInterface, if_pos rfl, pickDefaultMulticastInterface_eq, argmax_listed, h]
  rfl

/-- **The interface of the engine.**  A named interface is bound to by its first usable
address and refused without one; otherwise it is the first of those with the best address. -/
theorem interface_is_chosen (ifap : List Ifaddrs) (interfaceName : Bytes) :
    StartsOn (ifap.filterMap usableEntry) interfaceName
      (startInterface (listIpv4Interfaces (some ifap)) interfaceName) := by
  rw [listIpv4Interfaces_eq]
  refine ⟨startInterface_named _, ?_, ?_⟩
  · rintro rfl hnone
    rw [hnone]
    rfl
  · rintro rfl hsome
    have hfound : (ifap.filterMap usableEntry).argmax Usable.priority ≠ none :=
      mt List.argmax_eq_none.mp hsome
    obtain ⟨u, hu⟩ := Option.ne_none_iff_exists'.mp hfound
    exact ⟨u, chosen_of_argmax hu, startInterface_nil hu⟩

/-- A public address in `172.0.0.0/8` that is listed first is taken before a private one. -/
example : startInterface (listIpv4Interfaces (some
      [⟨some (ascii "lo"), some (.inet 127 0 0 1), 9⟩,
        ⟨some (ascii "wan"), some (.inet 172 217 0 1), 1⟩,
        ⟨some (ascii "lan"), some (.inet 172 16 0 1), 1⟩])) [] =
    some (ascii "wan", ascii "172.217.0.1") := by decide +kernel

end Scanner
end LanDiscovery
