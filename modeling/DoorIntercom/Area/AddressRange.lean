import DoorIntercom.Area.ElementFrame
import DoorIntercom.Area.IpOctets

/-!
# Addresses in the declared range

The loader raises the start of a net item to its gateway's last octet, so that the first block of
addresses does not contain the gateway (`netGW_le_netStart`). That is all that is done for the
range: `calculationIP` never looks at `netEnd`, nor at the gateway in a later block, and the third
octet wraps.

The octets it writes are determined by the number's block and its octet in the block, for every
`int` (`machineIPInfoOf_octets_all`). From these, the conditions for the address to stay behind the
start, to stay before the end and to avoid the gateway are read off one by one
(`keepsRange_iff`).
-/

namespace DoorIntercom

open AreaBlock FallibleRun

/-! ### What the loader ensures -/

/-- The `k`-th net item in memory starts behind its gateway's last octet, if it has a gateway. -/
def StartsBehind (mem : Mem) (k : ℕ) : Prop :=
  mem (netItemAddr k + 8) ≠ 0 → mem (netItemAddr k + 11) ≤ mem (netItemAddr k + 3)

section Loader

variable {mem : Mem} {k : ℕ}

theorem startsBehind_raiseStart (mem : Mem) (k : ℕ) :
    StartsBehind (raiseStart mem (netItemAddr k) (netItemAddr k + 8)) k := by
  rw [StartsBehind, raiseStart]
  split_ifs with hraise
  · intro _
    rw [Function.update_self, Function.update_of_ne (by omega)]
    exact BitVec.le_refl _
  · intro hgateway
    exact BitVec.le_of_lt (BitVec.not_le.1 fun hle ↦ hraise ⟨hgateway, hle⟩)

theorem startsBehind_congr {mem' : Mem} (h : ∀ j < 16, mem' (netItemAddr k + j) =
    mem (netItemAddr k + j)) : StartsBehind mem' k ↔ StartsBehind mem k := by
  rw [StartsBehind, StartsBehind, h 8 (by decide), h 11 (by decide), h 3 (by decide)]

/-- Every element keeps the net items behind their gateways. -/
theorem startsBehind_loadElement {e : Junk × XmlNode} {s s' : Loader}
    (h : ∀ k < 2, StartsBehind s.mem k) (hs' : loadElement e s = .ok s') :
    ∀ k < 2, StartsBehind s'.mem k := by
  intro k hk
  by_cases hguard : ∃ i < 3, IsGuard i e
  · obtain ⟨i, hi, hguard⟩ := hguard
    refine (startsBehind_congr fun j _ ↦ mem_loadElement_of_isGuard hi hguard hs' ?_).2 (h k hk)
    simp only [netItemAddr]
    omega
  by_cases hname : e.2.name = "NETITEM"
  · by_cases hindex : s.netItemIndex = k
    · -- the item that is loaded: its start is raised at the end
      rw [loadElement, loadNode_netItem hname, hindex] at hs'
      obtain ⟨mem, hmem, rfl⟩ := map_eq_ok hs'
      rw [loadNetItem, if_pos (by simp only [netItemAddr, buildListAddr]; omega)] at hmem
      cases hfill : fillInfo netItemInfo e.2 (netItemAddr k) 4 e.1 s.mem with
      | error f =>
        rw [hfill] at hmem
        cases hmem
      | ok r =>
        rw [hfill] at hmem
        cases hmem
        exact startsBehind_raiseStart r.1 k
    · refine (startsBehind_congr fun j hj ↦ mem_loadNode_netItem hname hs' ?_).2 (h k hk)
      simp only [netItemAddr]
      omega
  · refine (startsBehind_congr fun j hj ↦ mem_loadNode_other
      (fun i hi hi' ↦ hguard ⟨i, hi, hi'⟩) hname hs' ?_).2 (h k hk)
    simp only [netItemAddr, modeMatchAddr]
    omega

/-- **A loaded net item** with a gateway starts at or behind the gateway's last octet. -/
theorem netGW_le_netStart {junk : Junk} {root : Option XmlNode} {block : AreaBlock}
    (hblock : getAreaInfo junk root = .ok (some block)) (i : Fin 2)
    (hgateway : (block.area.netItem i).netGW 0 ≠ 0) :
    (block.area.netItem i).netGW 3 ≤ (block.area.netItem i).netStart 3 := by
  cases root with
  | none => cases hblock
  | some root =>
    rw [getAreaInfo] at hblock
    split_ifs at hblock
    · cases hrun : loadNodes junk 0 root.children .start with
      | error f =>
        rw [hrun] at hblock
        cases hblock
      | ok s =>
        rw [hrun] at hblock
        cases hblock
        rw [loadNodes_eq_runSteps] at hrun
        have hstart : ∀ k < 2, StartsBehind Loader.start.mem k := fun _ _ h ↦ absurd rfl h
        exact runSteps_invariant (I := fun s ↦ ∀ k < 2, StartsBehind s.mem k)
          (fun _ _ _ hs hs' ↦ startsBehind_loadElement hs hs') hstart hrun i i.isLt hgateway
    · cases hblock

end Loader

/-! ### Addresses against the range -/

/-- The address is in the range of the item and is not its gateway. -/
def InRange (item : NetItem) (ip : IpAddress) : Prop :=
  addressValue item.netStart < addressValue ip ∧ addressValue ip ≤ addressValue item.netEnd ∧
    ip ≠ item.netGW

/-- The number, if it is planned for the item's `IPID`, gets an address in the item's range. -/
def KeepsRange (area : Area) (item : NetItem) (n : Word) : Prop :=
  ∀ info, (calculationIP (some area) n item.IPID info).1 = 0 →
    InRange item (calculationIP (some area) n item.IPID info).2.ipAddress

/-- The place of a number in the plan of an item is in the item's range: the third octet does not
wrap, nor does the plan come back to the first block; the place is before the end; and the gateway
is not at the place, which can be only outside the first block if there is a gateway. -/
def PlannedInRange (item : NetItem) (n : Word) : Prop :=
  (if planBlock item n = 0 then (item.netStart 3).toNat < planOctet item n
    else (item.netStart 2).toNat + planBlock item n ≤ 255) ∧
  (item.netStart 0 ≠ item.netEnd 0 ∨ item.netStart 1 ≠ item.netEnd 1 ∨
    (item.netStart 2).toNat + planBlock item n < (item.netEnd 2).toNat ∨
    (item.netStart 2).toNat + planBlock item n = (item.netEnd 2).toNat ∧
      planOctet item n ≤ (item.netEnd 3).toNat) ∧
  ((planBlock item n ≠ 0 ∨ item.netGW 0 = 0) →
    ¬ (item.netGW 0 = item.netStart 0 ∧ item.netGW 1 = item.netStart 1 ∧
      (item.netGW 2).toNat = (item.netStart 2).toNat + planBlock item n ∧
      (item.netGW 3).toNat = planOctet item n))

/-- The third octet of the place of a number in the plan of an item. -/
def planThird (other : NetItem) (n : Word) : ℕ :=
  ((other.netStart 2).toNat + planBlock other n) % 256

/-- The place of a number in the plan of another item, which hides the item, is in the item's range:
in the first octet that differs it comes behind the start and before the end, and it is not the
gateway. -/
def HiddenInRange (item other : NetItem) (n : Word) : Prop :=
  (item.netStart 0 < other.netStart 0 ∨ item.netStart 0 = other.netStart 0 ∧
    (item.netStart 1 < other.netStart 1 ∨ item.netStart 1 = other.netStart 1 ∧
      ((item.netStart 2).toNat < planThird other n ∨
        (item.netStart 2).toNat = planThird other n ∧
          (item.netStart 3).toNat < planOctet other n))) ∧
  (other.netStart 0 < item.netEnd 0 ∨ other.netStart 0 = item.netEnd 0 ∧
    (other.netStart 1 < item.netEnd 1 ∨ other.netStart 1 = item.netEnd 1 ∧
      (planThird other n < (item.netEnd 2).toNat ∨
        planThird other n = (item.netEnd 2).toNat ∧
          planOctet other n ≤ (item.netEnd 3).toNat))) ∧
  ¬ (item.netGW 0 = other.netStart 0 ∧ item.netGW 1 = other.netStart 1 ∧
    (item.netGW 2).toNat = planThird other n ∧ (item.netGW 3).toNat = planOctet other n)

/-- The address of the place of a number in the plan of an item. -/
def plannedAddress (item : NetItem) (n : Word) : IpAddress :=
  ![item.netStart 0, item.netStart 1, item.netStart 2 + BitVec.ofNat 8 (planBlock item n),
    BitVec.ofNat 8 (planOctet item n)]

section Range

variable {item : NetItem} {n : Word}

theorem plannedAddress_octets (item : NetItem) (n : Word) :
    plannedAddress item n 0 = item.netStart 0 ∧ plannedAddress item n 1 = item.netStart 1 ∧
      (plannedAddress item n 2).toNat = ((item.netStart 2).toNat + planBlock item n) % 256 ∧
      (plannedAddress item n 3).toNat = planOctet item n := by
  have hblock := planBlock_lt item n
  have hlast := planOctet_bounds item n
  refine ⟨rfl, rfl, ?_, ?_⟩
  · show (item.netStart 2 + BitVec.ofNat 8 (planBlock item n)).toNat = _
    rw [BitVec.toNat_add, BitVec.toNat_ofNat, Nat.mod_eq_of_lt hblock]
  · show (BitVec.ofNat 8 (planOctet item n)).toNat = _
    rw [BitVec.toNat_ofNat, Nat.mod_eq_of_lt (by omega)]

theorem ipAddress_machineIPInfoOf (item : NetItem) (n : Word) :
    (machineIPInfoOf item n).ipAddress = plannedAddress item n := by
  obtain ⟨h0, h1, h2, h3⟩ := machineIPInfoOf_octets_all item n
  obtain ⟨p0, p1, p2, p3⟩ := plannedAddress_octets item n
  funext j
  match j with
  | 0 => rw [h0, p0]
  | 1 => rw [h1, p1]
  | 2 => exact BitVec.eq_of_toNat_eq (by rw [h2, p2])
  | 3 => exact BitVec.eq_of_toNat_eq (by rw [h3, p3])

theorem addressValue_plannedAddress (item : NetItem) (n : Word) :
    addressValue (plannedAddress item n) =
      (item.netStart 0).toNat * 2 ^ 24 + (item.netStart 1).toNat * 2 ^ 16 +
        ((item.netStart 2).toNat + planBlock item n) % 256 * 2 ^ 8 + planOctet item n := by
  obtain ⟨p0, p1, p2, p3⟩ := plannedAddress_octets item n
  rw [addressValue, p0, p1, p2, p3]

/-- **Behind the start**: unless the third octet wraps or the plan comes back to the first block. -/
theorem netStart_lt_plannedAddress_iff :
    addressValue item.netStart < addressValue (plannedAddress item n) ↔
      if planBlock item n = 0 then (item.netStart 3).toNat < planOctet item n
      else (item.netStart 2).toNat + planBlock item n ≤ 255 := by
  have hblock := planBlock_lt item n
  have hlast := planOctet_bounds item n
  have h2 := (item.netStart 2).isLt
  have h3 := (item.netStart 3).isLt
  rw [addressValue_plannedAddress, addressValue]
  split_ifs <;> omega

theorem add_planBlock_le (h : addressValue item.netStart < addressValue (plannedAddress item n)) :
    (item.netStart 2).toNat + planBlock item n ≤ 255 := by
  have h2 := (item.netStart 2).isLt
  rw [netStart_lt_plannedAddress_iff] at h
  split_ifs at h with hzero
  · omega
  · exact h

/-- **Before the end**, for a place behind the start. -/
theorem plannedAddress_le_netEnd_iff
    (hrange : addressValue item.netStart ≤ addressValue item.netEnd)
    (h : addressValue item.netStart < addressValue (plannedAddress item n)) :
    addressValue (plannedAddress item n) ≤ addressValue item.netEnd ↔
      item.netStart 0 ≠ item.netEnd 0 ∨ item.netStart 1 ≠ item.netEnd 1 ∨
        (item.netStart 2).toNat + planBlock item n < (item.netEnd 2).toNat ∨
        (item.netStart 2).toNat + planBlock item n = (item.netEnd 2).toNat ∧
          planOctet item n ≤ (item.netEnd 3).toNat := by
  have hwrap := add_planBlock_le h
  have hlast := planOctet_bounds item n
  have s1 := (item.netStart 1).isLt
  have s2 := (item.netStart 2).isLt
  have s3 := (item.netStart 3).isLt
  have e1 := (item.netEnd 1).isLt
  have e2 := (item.netEnd 2).isLt
  have e3 := (item.netEnd 3).isLt
  rw [addressValue_plannedAddress, Nat.mod_eq_of_lt (by omega)]
  rw [addressValue, addressValue] at hrange
  rw [addressValue, ← BitVec.toNat_ne_iff_ne, ← BitVec.toNat_ne_iff_ne]
  omega

/-- **Not the gateway**, for a place behind the start: the loader keeps the gateway out of the first
block. -/
theorem plannedAddress_ne_netGW_iff
    (hgateway : item.netGW 0 ≠ 0 → item.netGW 3 ≤ item.netStart 3)
    (h : addressValue item.netStart < addressValue (plannedAddress item n)) :
    plannedAddress item n ≠ item.netGW ↔ ((planBlock item n ≠ 0 ∨ item.netGW 0 = 0) →
      ¬ (item.netGW 0 = item.netStart 0 ∧ item.netGW 1 = item.netStart 1 ∧
        (item.netGW 2).toNat = (item.netStart 2).toNat + planBlock item n ∧
        (item.netGW 3).toNat = planOctet item n)) := by
  have hwrap := add_planBlock_le h
  obtain ⟨p0, p1, p2, p3⟩ := plannedAddress_octets item n
  rw [Nat.mod_eq_of_lt (by omega)] at p2
  constructor
  · rintro hne - ⟨g0, g1, g2, g3⟩
    refine hne (funext fun j ↦ ?_)
    match j with
    | 0 => rw [p0, g0]
    | 1 => rw [p1, g1]
    | 2 => exact BitVec.eq_of_toNat_eq (by rw [p2, g2])
    | 3 => exact BitVec.eq_of_toNat_eq (by rw [p3, g3])
  · intro hplace heq
    rw [← heq, p0, p1, p2, p3] at hplace
    -- in the first block the gateway is not behind the start
    have hfirst : ¬ (planBlock item n ≠ 0 ∨ item.netStart 0 = 0) := fun hor ↦
      hplace hor ⟨rfl, rfl, rfl, rfl⟩
    rw [not_or, not_not] at hfirst
    have hle := hgateway (by rw [← heq, p0]; exact hfirst.2)
    rw [← heq, BitVec.le_def, p3] at hle
    rw [netStart_lt_plannedAddress_iff, if_pos hfirst.1] at h
    omega

theorem inRange_plannedAddress_iff
    (hgateway : item.netGW 0 ≠ 0 → item.netGW 3 ≤ item.netStart 3)
    (hrange : addressValue item.netStart ≤ addressValue item.netEnd) :
    InRange item (plannedAddress item n) ↔ PlannedInRange item n := by
  rw [InRange, PlannedInRange, ← netStart_lt_plannedAddress_iff]
  refine and_congr_right fun h ↦ ?_
  rw [plannedAddress_le_netEnd_iff hrange h, plannedAddress_ne_netGW_iff hgateway h]

/-- **The range in octets**, for a place in any plan. -/
theorem inRange_plannedAddress_iff_hidden {other : NetItem} :
    InRange item (plannedAddress other n) ↔ HiddenInRange item other n := by
  have hlast := planOctet_bounds other n
  have hthird : planThird other n < 256 := Nat.mod_lt _ (by decide)
  have s1 := (item.netStart 1).isLt
  have s2 := (item.netStart 2).isLt
  have s3 := (item.netStart 3).isLt
  have e1 := (item.netEnd 1).isLt
  have e2 := (item.netEnd 2).isLt
  have e3 := (item.netEnd 3).isLt
  have o1 := (other.netStart 1).isLt
  obtain ⟨p0, p1, p2, p3⟩ := plannedAddress_octets other n
  refine and_congr ?_ (and_congr ?_ (not_congr ⟨fun heq ↦ ?_, ?_⟩))
  · rw [addressValue_plannedAddress, addressValue, ← planThird]
    simp only [BitVec.lt_def, ← BitVec.toNat_inj]
    omega
  · rw [addressValue_plannedAddress, addressValue, ← planThird]
    simp only [BitVec.lt_def, ← BitVec.toNat_inj]
    omega
  · rw [← heq]
    exact ⟨p0, p1, p2, p3⟩
  · rintro ⟨g0, g1, g2, g3⟩
    funext j
    match j with
    | 0 => rw [p0, g0]
    | 1 => rw [p1, g1]
    | 2 => exact BitVec.eq_of_toNat_eq (by rw [p2, g2, planThird])
    | 3 => exact BitVec.eq_of_toNat_eq (by rw [p3, g3])

/-- The addresses of an item's `IPID` are planned by the net item that `calculationIP` takes. -/
theorem keepsRange_iff_of_netItemOf {area : Area} :
    KeepsRange area item n ↔ (0 < n.toInt → ∀ p ∈ area.netItemOf item.IPID,
      InRange item (plannedAddress p n)) := by
  simp only [KeepsRange, calculationIP_eq, CInt.toInt_word]
  cases hitem : area.netItemOf item.IPID with
  | none => simp
  | some p =>
    by_cases hn : 0 < n.toInt
    · simp only [hn, if_true, forall_const, ipAddress_machineIPInfoOf, Option.mem_def,
        Option.some.injEq, forall_eq']
      exact ⟨fun h ↦ h ⟨0, 0, 0⟩, fun h _ ↦ h⟩
    · simp [hn]

end Range

/-- **Assigned addresses are in the declared range**, for every net item that is loaded with its
range in order and every number, if and only if the place of the number in the item's plan is: the
loader's care for the gateway is enough in the first block only. -/
theorem keepsRange_iff {junk : Junk} {root : Option XmlNode} {block : AreaBlock}
    (hblock : getAreaInfo junk root = .ok (some block)) (i : Fin 2)
    (hrange : addressValue (block.area.netItem i).netStart ≤
      addressValue (block.area.netItem i).netEnd) (n : Word) :
    KeepsRange block.area (block.area.netItem i) n ↔
      (0 < n.toInt →
        if block.area.netItemOf (block.area.netItem i).IPID = some (block.area.netItem i) then
          PlannedInRange (block.area.netItem i) n
        else ∀ p ∈ block.area.netItemOf (block.area.netItem i).IPID,
          HiddenInRange (block.area.netItem i) p n) := by
  rw [keepsRange_iff_of_netItemOf]
  refine imp_congr_right fun _ ↦ ?_
  split_ifs with hitem
  · rw [hitem, ← inRange_plannedAddress_iff (netGW_le_netStart hblock i) hrange]
    simp
  · simp only [inRange_plannedAddress_iff_hidden]

/-- A net item whose gateway is in the second block of its range. -/
def gatewayRoot : XmlNode :=
  .element "NETCFG" [.element "NETITEM" [.leaf "NETSTART" "192.168.1.0",
    .leaf "NETEND" "192.168.8.255", .leaf "NETGW" "192.168.2.1", .leaf "IPID" "1"]]

/-- The area that is loaded from it. -/
def gatewayBlock : AreaBlock where
  mem := (loadNodes .zero 0 gatewayRoot.children .start).toOption.elim .zero Loader.mem
  buildList := []

/-- The number 253 gets 192.168.1.254. -/
theorem keepsRange_gatewayBlock :
    KeepsRange gatewayBlock.area (gatewayBlock.area.netItem 0) 253#32 := by
  have hblock : getAreaInfo .zero (some gatewayRoot) = .ok (some gatewayBlock) := rfl
  refine (keepsRange_iff hblock 0 (by decide) 253#32).2 fun _ ↦ ?_
  rw [if_pos (by decide)]
  exact ⟨by decide, by decide, by decide⟩

/-- The number 254 gets 192.168.2.1, the gateway. -/
theorem not_keepsRange_gatewayBlock :
    getAreaInfo .zero (some gatewayRoot) = .ok (some gatewayBlock) ∧
      addressValue (gatewayBlock.area.netItem 0).netStart ≤
        addressValue (gatewayBlock.area.netItem 0).netEnd ∧
      (calculationIP (some gatewayBlock.area) 254#32 1#32 ⟨0, 0, 0⟩).2.ipAddress =
        (gatewayBlock.area.netItem 0).netGW ∧
      ¬ KeepsRange gatewayBlock.area (gatewayBlock.area.netItem 0) 254#32 := by
  have hgateway : (calculationIP (some gatewayBlock.area) 254#32 1#32 ⟨0, 0, 0⟩).2.ipAddress =
      (gatewayBlock.area.netItem 0).netGW := by decide
  refine ⟨rfl, by decide, hgateway, fun hkeeps ↦ ?_⟩
  obtain ⟨-, -, hne⟩ := hkeeps ⟨0, 0, 0⟩ (by decide)
  exact hne hgateway

end DoorIntercom
