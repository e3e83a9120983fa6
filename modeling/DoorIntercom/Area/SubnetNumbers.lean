import DoorIntercom.Area.WordNumbers

/-!
# Numbers across all device kinds of a subnet

The building devices of a subnet take the places `1 .. T`. A device of the area is placed after them
and after the devices of the `Guard` records before its own, **at its sub-machine index**, which
starts at the record's `indexBegin` and not at 1. So a record does not fill the places that the next
record leaves for it: with an `indexBegin` past 1 it reaches into the places of the records after
it, and with an `indexBegin` of 0 (a record that is absent from the file has 0) the management
centre takes the place of the last building device.

`numbersDistinct_iff` says exactly which configurations keep the numbers of a subnet apart.
-/

namespace DoorIntercom

/-! ### Places of all devices -/

/-- The number of devices of a `Guard` record, for a record in order. -/
def Guard.count (guard : Guard) : ℕ := guard.indexEnd.toNat + 1 - guard.indexBegin.toNat

/-- The devices of the `Guard` records before record `g`, whatever their subnet. -/
def Area.guardsBefore (area : Area) : Fin 3 → ℕ
  | 0 => 0
  | 1 => (area.guard 0).count
  | 2 => (area.guard 0).count + (area.guard 1).count

@[simp] theorem Area.guardsBefore_zero (area : Area) : area.guardsBefore 0 = 0 := rfl

/-- The places before those of record `g`. -/
def Area.placesBefore (area : Area) (g : Fin 3) : ℕ :=
  area.subnetCount (area.guard g).IPID + area.guardsBefore g

/-- The place of the first device of record `g`. -/
def Area.firstPlace (area : Area) (g : Fin 3) : ℕ :=
  area.placesBefore g + (area.guard g).indexBegin.toNat

/-- The place of the last device of record `g`. -/
def Area.lastPlace (area : Area) (g : Fin 3) : ℕ :=
  area.placesBefore g + (area.guard g).indexEnd.toNat

/-- Every `Guard` record has `indexBegin <= indexEnd`. -/
def Area.GuardsOrdered (area : Area) : Prop :=
  ∀ g, (area.guard g).indexBegin.toNat ≤ (area.guard g).indexEnd.toNat

instance (area : Area) : Decidable area.GuardsOrdered :=
  inferInstanceAs (Decidable (∀ _, _))

/-- The device exists in the subnet. -/
def Device.Configured (area : Area) (ipid : UChar) : Device → Prop
  | .building d => d ∈ configuredDevices area ipid
  | .area g sub => (area.guard g).IPID = ipid ∧
      (area.guard g).indexBegin.toNat ≤ sub ∧ sub ≤ (area.guard g).indexEnd.toNat

/-- The exact place of a device in its subnet. -/
def Device.place (area : Area) (ipid : UChar) : Device → ℤ
  | .building d => d.place area ipid
  | .area g sub => area.placesBefore g + sub

section Places

variable {area : Area} {ipid : UChar}

theorem guardOffset_eq (hg : area.GuardsOrdered) (g : Fin 3) :
    guardOffset area g = (area.guardsBefore g : ℤ) := by
  have hcount : ∀ g, guardCount (area.guard g) = ((area.guard g).count : ℤ) := by
    intro g
    have := hg g
    unfold guardCount Guard.count
    omega
  match g with
  | 0 => rfl
  | 1 => rw [guardOffset, hcount, Area.guardsBefore]
  | 2 => rw [guardOffset, hcount, hcount, Area.guardsBefore, Nat.cast_add]

theorem guardPlace_eq (h : area.Ordered) (hg : area.GuardsOrdered) (g : Fin 3) (sub : ℕ) :
    guardPlace area g sub = (Device.area g sub).place area ipid := by
  rw [guardPlace, h.subnetMachineNumber_eq, guardOffset_eq hg, Device.place, Area.placesBefore]
  push_cast
  ring

/-- A record is counted after at least one device of each record before it. -/
theorem Area.one_le_guardsBefore (hg : area.GuardsOrdered) {g : Fin 3} (h : g ≠ 0) :
    1 ≤ area.guardsBefore g := by
  have hcount : 1 ≤ (area.guard 0).count := by
    have h₀ := hg 0
    rw [Guard.count]
    omega
  match g with
  | 0 => exact absurd rfl h
  | 1 => exact hcount
  | 2 => exact hcount.trans (Nat.le_add_right _ _)

theorem Area.guardsBefore_le (area : Area) (g : Fin 3) : area.guardsBefore g ≤ 512 := by
  have hcount : ∀ g, (area.guard g).count ≤ 256 := by
    intro g
    have := (area.guard g).indexEnd.isLt
    rw [Guard.count]
    omega
  match g with
  | 0 => exact Nat.zero_le _
  | 1 => exact (hcount 0).trans (by omega)
  | 2 => exact Nat.add_le_add (hcount 0) (hcount 1)

theorem Device.place_nonneg (h : area.Ordered) {d : Device} (hd : d.Configured area ipid) :
    0 ≤ d.place area ipid := by
  cases d with
  | building d =>
    have := (numbers_configured h ipid).one_le hd
    exact le_trans (by omega) this
  | area g sub => exact Int.natCast_nonneg _

end Places

/-! ### The numbers that `initMachineInfo` assigns -/

/-- Some code in area 1 denotes the device, and `initMachineInfo` accepts it with number `n` in the
subnet. -/
def Assigned (area : Area) (ipid : UChar) (d : Device) (n : Word) : Prop :=
  ∃ machineCode machineInfo machineInfo',
    (praseMachineCode machineCode).areaIndex.toNat = 1 ∧
      deviceOf (praseMachineCode machineCode) = some d ∧
      initMachineInfo machineCode (some area) machineInfo = .ok (n, machineInfo') ∧
      n ≠ 0 ∧ machineInfo'.ipid = ipid

/-- No two devices of a subnet share a machine number. -/
def NumbersDistinct (area : Area) : Prop :=
  ∀ ipid d₁ d₂ n₁ n₂, Assigned area ipid d₁ n₁ → Assigned area ipid d₂ n₂ → d₁ ≠ d₂ → n₁ ≠ n₂

/-- A code of a device of the area, read back. -/
theorem exists_of_deviceOf_area {c : CodeFields} {g : Fin 3} {sub : ℕ}
    (h : deviceOf c = some (.area g sub)) :
    ∃ type, DeviceType.ofValue c.machineIndex = some type ∧ guardIndex type = some g ∧
      c.subMachineIndex.toNat = sub := by
  rw [deviceOf] at h
  obtain ⟨type, htype, hd⟩ := Option.bind_eq_some_iff.1 h
  refine ⟨type, htype, ?_⟩
  rw [deviceOfType] at hd
  split at hd
  · rename_i g' hg'
    cases hd
    exact ⟨hg', rfl⟩
  · obtain ⟨x, -, hd⟩ := Option.map_eq_some_iff.1 hd
    cases hd

/-- The type of the devices of a `Guard` record. -/
def guardType : Fin 3 → DeviceType
  | 0 => .manager
  | 1 => .areaDoor
  | 2 => .guard

theorem guardIndex_guardType (g : Fin 3) : guardIndex (guardType g) = some g := by
  match g with
  | 0 => rfl
  | 1 => rfl
  | 2 => rfl

/-- Every device of the area has a code in area 1. -/
theorem exists_code_of_area (g : Fin 3) {sub : ℕ} (hsub : sub < 2 ^ 8) :
    ∃ machineCode, (praseMachineCode machineCode).areaIndex.toNat = 1 ∧
      deviceOf (praseMachineCode machineCode) = some (.area g sub) := by
  have hzero : (0#32).toNat < 2 ^ 12 := by decide
  have hone : (1#32).toNat < 2 ^ 8 := by decide
  obtain ⟨code, hcode⟩ := exists_praseMachineCode_eq
    (c := ⟨(guardType g).value, BitVec.ofNat 8 sub, 0#8, 0#8, 0#32, 0#32, 1#32⟩)
    ⟨DeviceType.value_lt _, hzero, hzero, hone⟩
  refine ⟨code, by rw [hcode]; rfl, ?_⟩
  rw [hcode, deviceOf, DeviceType.ofValue_value, Option.bind_some, deviceOfType,
    guardIndex_guardType]
  simp only [BitVec.toNat_ofNat, Nat.mod_eq_of_lt hsub]

section Assigned

variable {area : Area} {ipid : UChar} {machineCode : ULongLong}
  {machineInfo machineInfo' : MachineInfo}

/-- A building device that gets a number is configured. -/
theorem configured_of_initMachineInfo (h : area.Ordered) {d : BuildingDevice} {n : Word}
    (harea : (praseMachineCode machineCode).areaIndex.toNat = 1)
    (hdev : deviceOf (praseMachineCode machineCode) = some (.building d))
    (hinit : initMachineInfo machineCode (some area) machineInfo = .ok (n, machineInfo'))
    (hn : n ≠ 0) : d ∈ configuredDevices area machineInfo'.ipid := by
  obtain ⟨type, x, htype, hx, rfl⟩ := exists_of_deviceOf_building hdev
  have hcheck := checkParameters_of_ne_zero hinit hn
  rw [checkParameters_building htype hx] at hcheck
  obtain ⟨build, hmem, -, hd⟩ := exists_of_checkBuildingDevice hx hcheck
  have hconf : placedDevice (praseMachineCode machineCode) x ∈ configuredDevices area build.IPID :=
    ⟨build, Area.mem_subnet.2 ⟨hmem, rfl⟩, hd⟩
  obtain ⟨info', hipid, hinit'⟩ := initMachineInfo_of_configured (R := Word)
    h.toRangesOrdered h.one_le_buildEnd harea hdev hconf machineInfo
  rw [hinit] at hinit'
  cases hinit'
  rwa [hipid]

/-- **The assigned numbers** are the places of the configured devices, as `int`s, but 0. -/
theorem assigned_iff (h : area.Ordered) (hg : area.GuardsOrdered) {d : Device} {n : Word} :
    Assigned area ipid d n ↔
      d.Configured area ipid ∧ n = ((d.place area ipid : ℤ) : Word) ∧ n ≠ 0 := by
  have hone := h.one_le_buildEnd
  cases d with
  | building d =>
    rw [Device.place, cast_place]
    constructor
    · rintro ⟨code, info, info', harea, hdev, hinit, hn, rfl⟩
      have hd := configured_of_initMachineInfo h harea hdev hinit hn
      obtain ⟨info'', -, hinit'⟩ :=
        initMachineInfo_of_configured (R := Word) h.toRangesOrdered hone harea hdev hd info
      rw [hinit] at hinit'
      cases hinit'
      exact ⟨hd, rfl, hn⟩
    · rintro ⟨hd, rfl, hn⟩
      obtain ⟨code, harea, hdev⟩ := exists_code_of_configured hd
      obtain ⟨info', hipid, hinit⟩ := initMachineInfo_of_configured (R := Word) h.toRangesOrdered
        hone harea hdev hd ⟨0, 0, 0, 0, ⟨0, 0, 0⟩⟩
      exact ⟨code, _, info', harea, hdev, hinit, hn, hipid⟩
  | area g sub =>
    rw [← guardPlace_eq h hg, cast_guardPlace]
    constructor
    · rintro ⟨code, info, info', -, hdev, hinit, hn, rfl⟩
      obtain ⟨type, htype, hgi, rfl⟩ := exists_of_deviceOf_area hdev
      rw [initMachineInfo_guard htype hgi] at hinit
      split_ifs at hinit with hin
      · cases hinit
        exact ⟨⟨rfl, hin⟩, rfl, hn⟩
      · cases hinit
        exact absurd rfl hn
    · rintro ⟨⟨rfl, hin⟩, rfl, hn⟩
      obtain ⟨code, harea, hdev⟩ :=
        exists_code_of_area g (lt_of_le_of_lt hin.2 (area.guard g).indexEnd.isLt)
      obtain ⟨type, htype, hgi, rfl⟩ := exists_of_deviceOf_area hdev
      exact ⟨code, ⟨0, 0, 0, 0, ⟨0, 0, 0⟩⟩, _, harea, hdev,
        by rw [initMachineInfo_guard htype hgi, if_pos hin], hn, rfl⟩

end Assigned

/-! ### Which configurations keep the numbers apart -/

/-- The places of a subnet's devices do not overlap. The places from `2 ^ 32` on come back to the
`int`s from 0, and a device whose number is 0 is not accepted. -/
structure Area.NumbersApart (area : Area) : Prop where
  /-- The building devices of each subnet have different `int`s. -/
  builds : ∀ b ∈ area.buildList, area.subnetCount b.IPID ≤ 2 ^ 32
  /-- The devices of the area have different `int`s from the building devices. -/
  guards_le : ∀ g, area.lastPlace g ≤ 2 ^ 32
  /-- The management centre with index 0 is not placed on the last building device. -/
  manager : (area.guard 0).indexBegin.toNat = 0 →
    area.subnetCount (area.guard 0).IPID = 0 ∨ area.subnetCount (area.guard 0).IPID = 2 ^ 32
  /-- No record of the subnet reaches into the places of another one. -/
  guards : ∀ g h, g < h → (area.guard g).IPID = (area.guard h).IPID →
    area.lastPlace g < area.firstPlace h ∨ area.lastPlace h < area.firstPlace g ∨
      area.firstPlace g = 2 ^ 32 ∨ area.firstPlace h = 2 ^ 32

instance (area : Area) : Decidable area.NumbersApart :=
  decidable_of_iff
    ((∀ b ∈ area.buildList, area.subnetCount b.IPID ≤ 2 ^ 32) ∧
      (∀ g, area.lastPlace g ≤ 2 ^ 32) ∧
      ((area.guard 0).indexBegin.toNat = 0 →
        area.subnetCount (area.guard 0).IPID = 0 ∨
          area.subnetCount (area.guard 0).IPID = 2 ^ 32) ∧
      ∀ g h, g < h → (area.guard g).IPID = (area.guard h).IPID →
        area.lastPlace g < area.firstPlace h ∨ area.lastPlace h < area.firstPlace g ∨
          area.firstPlace g = 2 ^ 32 ∨ area.firstPlace h = 2 ^ 32)
    ⟨fun h ↦ ⟨h.1, h.2.1, h.2.2.1, h.2.2.2⟩, fun h ↦ ⟨h.1, h.2, h.3, h.4⟩⟩

section Apart

variable {area : Area} {ipid : UChar}

/-- Two devices on one place with a number. -/
theorem NumbersDistinct.eq_of_place (h : area.Ordered) (hg : area.GuardsOrdered)
    (hdist : NumbersDistinct area) {d₁ d₂ : Device} (h₁ : d₁.Configured area ipid)
    (h₂ : d₂.Configured area ipid)
    (heq : d₁.place area ipid % 2 ^ 32 = d₂.place area ipid % 2 ^ 32)
    (hne : d₁.place area ipid % 2 ^ 32 ≠ 0) : d₁ = d₂ := by
  by_contra hd
  have hn : ((d₁.place area ipid : ℤ) : Word) ≠ 0 := fun hz ↦ hne ((word_cast_eq_zero_iff _).1 hz)
  have hword := (word_cast_eq_iff _ _).2 heq
  exact hdist ipid d₁ d₂ _ _ ((assigned_iff h hg).2 ⟨h₁, rfl, hn⟩)
    ((assigned_iff h hg).2 ⟨h₂, rfl, hword ▸ hn⟩) hd hword

/-- A building device at each place up to the count of its subnet. -/
theorem exists_building_place (h : area.Ordered) (ipid : UChar) {k : ℕ} (hk : 1 ≤ k)
    (hle : k ≤ area.subnetCount ipid) :
    ∃ d : BuildingDevice, (Device.building d).Configured area ipid ∧
      (Device.building d).place area ipid = k :=
  (numbers_configured h ipid).exists_eq (k := k) (by omega) (by omega)

/-- A record's device at each place of the record. -/
theorem exists_area_place (area : Area) (g : Fin 3) {k : ℕ} (hk : area.firstPlace g ≤ k)
    (hle : k ≤ area.lastPlace g) :
    ∃ sub, (Device.area g sub).Configured area (area.guard g).IPID ∧
      (Device.area g sub).place area (area.guard g).IPID = k := by
  rw [Area.firstPlace] at hk
  rw [Area.lastPlace] at hle
  refine ⟨k - area.placesBefore g, ⟨rfl, by omega, by omega⟩, ?_⟩
  rw [Device.place]
  omega

/-- The place of a configured device of the area is one of its record's. -/
theorem place_area_mem {g : Fin 3} {sub : ℕ} (hd : (Device.area g sub).Configured area ipid) :
    (area.firstPlace g : ℤ) ≤ (Device.area g sub).place area ipid ∧
      (Device.area g sub).place area ipid ≤ area.lastPlace g := by
  obtain ⟨-, hbegin, hend⟩ := hd
  rw [Device.place, Area.firstPlace, Area.lastPlace]
  omega

theorem Area.firstPlace_le_lastPlace (hg : area.GuardsOrdered) (g : Fin 3) :
    area.firstPlace g ≤ area.lastPlace g :=
  Nat.add_le_add_left (hg g) _

section Distinct

variable (hdist : NumbersDistinct area) (h : area.Ordered) (hg : area.GuardsOrdered)
include hdist h hg

/-- Otherwise the first building device and the one `2 ^ 32` places after it have the same `int`. -/
theorem NumbersDistinct.subnetCount_le (ipid : UChar) : area.subnetCount ipid ≤ 2 ^ 32 := by
  by_contra hlt
  obtain ⟨d₁, h₁, hp₁⟩ := exists_building_place h ipid (k := 1) (by omega) (by omega)
  obtain ⟨d₂, h₂, hp₂⟩ := exists_building_place h ipid (k := 2 ^ 32 + 1) (by omega) (by omega)
  have heq := hdist.eq_of_place h hg h₁ h₂ (by omega) (by omega)
  rw [heq] at hp₁
  omega

/-- Otherwise the last device of the record comes back to a building device. -/
theorem NumbersDistinct.lastPlace_le (g : Fin 3) : area.lastPlace g ≤ 2 ^ 32 := by
  by_contra hlt
  have hT := hdist.subnetCount_le h hg (area.guard g).IPID
  have hO := area.guardsBefore_le g
  have hend := (area.guard g).indexEnd.isLt
  have hlast : area.lastPlace g = area.subnetCount (area.guard g).IPID + area.guardsBefore g +
      (area.guard g).indexEnd.toNat := rfl
  obtain ⟨d, hd, hp⟩ := exists_building_place h (area.guard g).IPID
    (k := area.lastPlace g - 2 ^ 32) (by omega) (by omega)
  obtain ⟨sub, hs, hps⟩ := exists_area_place area g (area.firstPlace_le_lastPlace hg g) (le_refl _)
  cases hdist.eq_of_place h hg hd hs (by omega) (by omega)

/-- Otherwise the management centre with index 0 is on the last building device. -/
theorem NumbersDistinct.manager (hb : (area.guard 0).indexBegin.toNat = 0) :
    area.subnetCount (area.guard 0).IPID = 0 ∨
      area.subnetCount (area.guard 0).IPID = 2 ^ 32 := by
  by_contra hT
  have hle := hdist.subnetCount_le h hg (area.guard 0).IPID
  have hfirst : area.firstPlace 0 = area.subnetCount (area.guard 0).IPID := by
    simp [Area.firstPlace, Area.placesBefore, hb]
  obtain ⟨d, hd, hp⟩ := exists_building_place h (area.guard 0).IPID
    (k := area.firstPlace 0) (by omega) (by omega)
  obtain ⟨sub, hs, hps⟩ := exists_area_place area 0 (le_refl _) (area.firstPlace_le_lastPlace hg 0)
  cases hdist.eq_of_place h hg hd hs (by omega) (by omega)

/-- Otherwise the later one of the two first places belongs to both records. -/
theorem NumbersDistinct.guards {g g' : Fin 3} (hlt : g < g')
    (hip : (area.guard g).IPID = (area.guard g').IPID) :
    area.lastPlace g < area.firstPlace g' ∨ area.lastPlace g' < area.firstPlace g ∨
      area.firstPlace g = 2 ^ 32 ∨ area.firstPlace g' = 2 ^ 32 := by
  by_contra hover
  -- `g'` has a record before it, so its places are positive
  have hg' : g' ≠ 0 := fun hz ↦ absurd hlt (hz ▸ Fin.not_lt_zero g)
  have hpos := Area.one_le_guardsBefore hg hg'
  have hfirst : area.guardsBefore g' ≤ area.firstPlace g' :=
    le_trans (Nat.le_add_left _ _) (Nat.le_add_right _ _)
  have hle := area.firstPlace_le_lastPlace hg g
  have hle' := area.firstPlace_le_lastPlace hg g'
  have hlast := hdist.lastPlace_le h hg g
  have hlast' := hdist.lastPlace_le h hg g'
  obtain ⟨sub, hs, hps⟩ := exists_area_place area g
    (k := max (area.firstPlace g) (area.firstPlace g')) (le_max_left _ _) (by omega)
  obtain ⟨sub', hs', hps'⟩ := exists_area_place area g'
    (k := max (area.firstPlace g) (area.firstPlace g')) (le_max_right _ _) (by omega)
  rw [← hip] at hs' hps'
  cases hdist.eq_of_place h hg hs hs' (by rw [hps, hps']) (by omega)
  exact absurd hlt (lt_irrefl _)

theorem numbersApart_of_distinct : area.NumbersApart where
  builds b _ := hdist.subnetCount_le h hg b.IPID
  guards_le := hdist.lastPlace_le h hg
  manager := hdist.manager h hg
  guards _ _ := hdist.guards h hg

end Distinct

/-- A building device and a device of the area have different numbers. -/
theorem Area.NumbersApart.place_ne (hapart : area.NumbersApart) (h : area.Ordered)
    (hg : area.GuardsOrdered) {d : BuildingDevice} {g : Fin 3} {sub : ℕ}
    (hd : (Device.building d).Configured area ipid)
    (hs : (Device.area g sub).Configured area ipid)
    (hlt : (Device.building d).place area ipid < 2 ^ 32) :
    (Device.building d).place area ipid ≠ (Device.area g sub).place area ipid := by
  intro heq
  have hone : 1 ≤ (Device.building d).place area ipid := (numbers_configured h ipid).one_le hd
  have hle : (Device.building d).place area ipid ≤ area.subnetCount ipid :=
    (numbers_configured h ipid).le hd
  obtain ⟨rfl, hbegin, -⟩ := hs
  have hplace : (Device.area g sub).place area (area.guard g).IPID =
      area.subnetCount (area.guard g).IPID + area.guardsBefore g + sub := by
    rw [Device.place, Area.placesBefore, Nat.cast_add]
  -- only the index 0 of the first record falls on a building device, the last one
  have hsub : area.guardsBefore g = 0 ∧ sub = 0 := by omega
  have hg0 : g = 0 := by
    by_contra hne
    have := Area.one_le_guardsBefore hg hne
    omega
  subst hg0
  rcases hapart.manager (by omega) with hT | hT <;> omega

/-- Every place is at most `2 ^ 32`. -/
theorem Area.NumbersApart.place_le (hapart : area.NumbersApart) (h : area.Ordered) {d : Device}
    (hd : d.Configured area ipid) : d.place area ipid ≤ 2 ^ 32 := by
  cases d with
  | building d =>
    have hle : (Device.building d).place area ipid ≤ area.subnetCount ipid :=
      (numbers_configured h ipid).le hd
    obtain ⟨b, hb, -⟩ := hd
    obtain ⟨hmem, rfl⟩ := Area.mem_subnet.1 hb
    have hcount := hapart.builds b hmem
    omega
  | area g sub =>
    have hlast := hapart.guards_le g
    have hplace := (place_area_mem hd).2
    omega

theorem distinct_of_numbersApart (h : area.Ordered) (hg : area.GuardsOrdered)
    (hapart : area.NumbersApart) : NumbersDistinct area := by
  intro ipid d₁ d₂ n₁ n₂ ha₁ ha₂ hne hn
  obtain ⟨h₁, hn₁, hz⟩ := (assigned_iff h hg).1 ha₁
  obtain ⟨h₂, hn₂, -⟩ := (assigned_iff h hg).1 ha₂
  have hmod : d₁.place area ipid % 2 ^ 32 = d₂.place area ipid % 2 ^ 32 :=
    (word_cast_eq_iff _ _).1 (by rw [← hn₁, ← hn₂, hn])
  have hnz : d₁.place area ipid % 2 ^ 32 ≠ 0 := by
    intro hzero
    rw [← word_cast_eq_zero_iff, ← hn₁] at hzero
    exact hz hzero
  -- two places within `2 ^ 32` of 0 with the same `int`, which is not 0, are the same
  have hpos₁ := Device.place_nonneg h h₁
  have hpos₂ := Device.place_nonneg h h₂
  have hle₁ := hapart.place_le h h₁
  have hle₂ := hapart.place_le h h₂
  have heq : d₁.place area ipid = d₂.place area ipid := by omega
  have hlt : d₁.place area ipid < 2 ^ 32 := by omega
  cases d₁ with
  | building d₁ =>
    cases d₂ with
    | building d₂ =>
      exact hne (congrArg Device.building ((numbers_configured h ipid).eq_of_eq h₁ h₂ heq))
    | area g₂ s₂ => exact hapart.place_ne h hg h₁ h₂ hlt heq
  | area g₁ s₁ =>
    cases d₂ with
    | building d₂ => exact hapart.place_ne h hg h₂ h₁ (by omega) heq.symm
    | area g₂ s₂ =>
      have hm₁ := place_area_mem h₁
      have hm₂ := place_area_mem h₂
      rcases lt_trichotomy g₁ g₂ with hlt' | rfl | hlt'
      · have := hapart.guards g₁ g₂ hlt' (h₁.1.trans h₂.1.symm)
        omega
      · simp only [Device.place] at heq
        exact hne (by rw [show s₁ = s₂ by omega])
      · have := hapart.guards g₂ g₁ hlt' (h₂.1.trans h₁.1.symm)
        omega

end Apart

/-- **Numbers across all device kinds.** In a well-formed estate, no two accepted devices of a
subnet share a machine number exactly when the places of its records stay apart from each other and
from the building devices. -/
theorem numbersDistinct_iff {area : Area} (h : area.Ordered) (hg : area.GuardsOrdered) :
    NumbersDistinct area ↔ area.NumbersApart :=
  ⟨fun hdist ↦ numbersApart_of_distinct hdist h hg, distinct_of_numbersApart h hg⟩

/-- The numbers of the sample estate are distinct. -/
theorem numbersDistinct_sampleArea : NumbersDistinct sampleArea :=
  (numbersDistinct_iff sampleArea_ordered (by decide)).2 (by decide)

/-- The sample estate with the management centre's indexes starting at 2. -/
def sampleAreaManager2 : Area :=
  { sampleArea with guard := ![⟨1#8, 2#8, 3#8⟩, ⟨1#8, 1#8, 1#8⟩, ⟨1#8, 1#8, 3#8⟩] }

/-- Management centre 3 and area door 1 both get number 60. -/
theorem numbersDistinct_sampleAreaManager2_false :
    sampleAreaManager2.Ordered ∧ sampleAreaManager2.GuardsOrdered ∧
      ¬ NumbersDistinct sampleAreaManager2 := by
  refine ⟨⟨⟨by decide, by decide⟩, by decide, by decide⟩, by decide, fun hdist ↦ ?_⟩
  exact hdist 1#8 (.area 0 3) (.area 1 1) 60 60
    ⟨0x0010000000000038#64, ⟨0, 0, 0, 0, ⟨0, 0, 0⟩⟩, _, by decide, by decide, rfl, by decide,
      by decide⟩
    ⟨0x0010000000000017#64, ⟨0, 0, 0, 0, ⟨0, 0, 0⟩⟩, _, by decide, by decide, rfl, by decide,
      by decide⟩
    (by decide) rfl

end DoorIntercom
