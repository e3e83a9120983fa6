import DoorIntercom.Area.Config

/-!
# The address plan of a subnet

`calculationIP` turns a machine number into an address. The last octet counts from the one of
`netStart` in blocks of 255, the block index is carried into the third octet, and the octet values 0
and 255 are avoided by adding the block index to the remainder and by replacing a result of 0 or 255
by 1.
-/

namespace DoorIntercom

section Definition

variable {R : Type} [CommRing R] [CInt R]

/-- The mask octets: 255 where both ends of the range agree, `256 - netEnd[j]` in a byte where not;
the last octet is always 0. -/
def netMaskOf (item : NetItem) : IpAddress := fun j ↦
  if j = 3 then 0#8
  else if item.netStart j ≠ item.netEnd j then BitVec.ofNat 8 (256 - (item.netEnd j).toNat)
  else 255#8

/-- What `calculationIP` writes for a net item of the requested `IPID`. The divisions are C's, on
the signed sum; the octets are truncated to bytes. -/
def machineIPInfoOf (item : NetItem) (machineNumber : R) : MachineIPInfo :=
  let sum : ℤ := CInt.toInt (machineNumber + ((item.netStart 3).toNat : R))
  let h8 : UChar := BitVec.ofInt 8 (sum.tdiv 255)
  let l8 : UChar :=
    if h8 = 0#8 then BitVec.ofInt 8 sum else BitVec.ofInt 8 (sum.tmod 255 + h8.toNat)
  let l8 : UChar := if l8.toNat % 255 = 0 then 1#8 else l8
  { ipAddress := ![item.netStart 0, item.netStart 1, item.netStart 2 + h8, l8]
    gateWay := item.netGW
    netMask := netMaskOf item }

/-- `calculationIP`: the return value and the contents of `*machineIPInfo`. Both net items are
visited, so the second one decides where both have the `IPID`. -/
def calculationIP (area : Option Area) (machineNumber : R) (ipid : Word)
    (machineIPInfo : MachineIPInfo) : ℤ × MachineIPInfo :=
  match area with
  | none => (-1, machineIPInfo)
  | some area =>
    if 0 < CInt.toInt machineNumber then
      [0, 1].foldl (fun s i ↦
        if ipid = (area.netItem i).IPID then (0, machineIPInfoOf (area.netItem i) machineNumber)
        else s) (-1, machineIPInfo)
    else (-1, machineIPInfo)

end Definition

/-- An address as a number, the first octet being the most significant one. -/
def addressValue (ip : IpAddress) : ℕ :=
  (ip 0).toNat * 2 ^ 24 + (ip 1).toNat * 2 ^ 16 + (ip 2).toNat * 2 ^ 8 + (ip 3).toNat

/-- The net item that `calculationIP` takes for an `IPID`: the last one that has it. -/
def Area.netItemOf (area : Area) (ipid : Word) : Option NetItem :=
  if ipid = (area.netItem 1).IPID then some (area.netItem 1)
  else if ipid = (area.netItem 0).IPID then some (area.netItem 0)
  else none

section Spec

variable {R : Type} [CommRing R] [CInt R] {area : Area} {machineNumber : R} {ipid : Word}
  {info : MachineIPInfo}

/-- **Specification.** A positive number is planned by the net item of its `IPID`; without such an
item, or for another number, nothing is written. -/
theorem calculationIP_eq :
    calculationIP (some area) machineNumber ipid info =
      match area.netItemOf ipid with
      | some item =>
        if 0 < CInt.toInt machineNumber then (0, machineIPInfoOf item machineNumber)
        else (-1, info)
      | none => (-1, info) := by
  simp only [calculationIP, Area.netItemOf, List.foldl_cons, List.foldl_nil]
  split_ifs <;> rfl

theorem Area.netItemOf_eq_some {item : NetItem} (h : area.netItemOf ipid = some item) :
    (∃ i, area.netItem i = item) ∧ item.IPID = ipid := by
  rw [Area.netItemOf] at h
  split_ifs at h with h₁ h₀
  · cases h
    exact ⟨⟨1, rfl⟩, h₁.symm⟩
  · cases h
    exact ⟨⟨0, rfl⟩, h₀.symm⟩

theorem Area.netItemOf_eq_none_iff :
    area.netItemOf ipid = none ↔ ∀ i, (area.netItem i).IPID ≠ ipid := by
  rw [Area.netItemOf]
  constructor
  · intro h i
    split_ifs at h with h₁ h₀
    match i with
    | 0 => exact fun hi ↦ h₀ hi.symm
    | 1 => exact fun hi ↦ h₁ hi.symm
  · intro h
    rw [if_neg fun hi ↦ h 1 hi.symm, if_neg fun hi ↦ h 0 hi.symm]

end Spec

end DoorIntercom
