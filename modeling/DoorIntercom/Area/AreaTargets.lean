import DoorIntercom.Area.TargetEnumeration

/-!
# Calling the devices of the area

For a target of the area, `getObjectMachineInfo` answers with the number of devices of its `Guard`
record and a code with sub-machine index 1, and a caller counts on from there. That addresses the
devices of the record exactly if its indexes begin at 1 — or are all the 256 that a byte has, since
the count then wraps to index 0 (`indexes_iff`). And the sources of the area are refused whatever
they ask for (`getObjectMachineInfo_area_of_area`).
-/

namespace DoorIntercom

/-- A source finds the devices of the area of a type: it is told how many of them the record `g`
has, and is given the code of the first one, from which all of them can be numbered. -/
def FindsArea (area : Area) (srcMachineCode : ULongLong) (type : DeviceType) (g : Fin 3) : Prop :=
  ∀ dest, ∃ num destMachineCode,
    getObjectMachineInfo dest srcMachineCode (some area) type = .ok (num, destMachineCode) ∧
    num = (area.guard g).indexEnd.toNat - (area.guard g).indexBegin.toNat + 1 ∧
    ∀ k : ℕ, (k : ℤ) < num → ∀ machineInfo, Accepts area machineInfo
      (withSubMachineIndex destMachineCode
        ((praseMachineCode destMachineCode).subMachineIndex + BitVec.ofNat 8 k))

/-- The source is a device of a building. The indexes of the record begin at 1, or are all the
numbers of a byte. None of its devices is placed on a multiple of `2 ^ 32`. -/
def AreaAddressable (area : Area) (srcMachineCode : ULongLong) (g : Fin 3) : Prop :=
  (DeviceType.ofValue (praseMachineCode srcMachineCode).machineIndex).any isBuildingType ∧
  ((area.guard g).indexBegin = 1#8 ∨
    (area.guard g).indexBegin = 0#8 ∧ (area.guard g).indexEnd = 255#8) ∧
  ∀ sub, (area.guard g).indexBegin.toNat ≤ sub → sub ≤ (area.guard g).indexEnd.toNat →
    (guardPlace area g sub : ℤ) % 2 ^ 32 ≠ 0

section Answer

variable {area : Area} {srcMachineCode : ULongLong} {type source : DeviceType} {g : Fin 3}

theorem isAreaType_of_guardIndex (hg : guardIndex type = some g) : isAreaType type = true := by
  cases type <;> first | rfl | cases hg

/-- **A source of the area** is answered 0, whatever it asks for. -/
theorem getObjectMachineInfo_area_of_area (dest : ULongLong) (type : DeviceType)
    (hsource : DeviceType.ofValue (praseMachineCode srcMachineCode).machineIndex = some source)
    (harea : isAreaType source = true) :
    getObjectMachineInfo dest srcMachineCode (some area) type = .ok (0, dest) := by
  have hvalue : (DeviceType.houseDoor.value != 0#8) = true := by decide
  simp only [getObjectMachineInfo, hsource, Option.any_some, harea, hvalue, Bool.or_true,
    Bool.and_true, if_true]

/-- **A source of a building** is answered the count of the record, and a code with sub-machine
index 1. -/
theorem getObjectMachineInfo_area_of_building (dest : ULongLong)
    (hsource : DeviceType.ofValue (praseMachineCode srcMachineCode).machineIndex = some source)
    (hbuilding : isBuildingType source = true) (hg : guardIndex type = some g) :
    ∃ destMachineCode,
      getObjectMachineInfo dest srcMachineCode (some area) type =
        .ok (guardCount (area.guard g), destMachineCode) ∧
      (praseMachineCode destMachineCode).machineIndex = type.value ∧
      (praseMachineCode destMachineCode).subMachineIndex = 1#8 := by
  have harea : isAreaType source = false := by
    cases source <;> first | rfl | cases hbuilding
  have hroom : type ≠ .room := by
    rintro rfl
    cases hg
  have hcount : countAreaDevices area type = guardCount (area.guard g) := by
    cases type <;> cases hg <;> rfl
  refine ⟨generateMachineCode ⟨type.value, 1#8, 1#8, 1#8, 1#32, 1#32,
    (praseMachineCode srcMachineCode).areaIndex⟩, ?_, ?_⟩
  · simp only [getObjectMachineInfo, hsource, Option.any_some, harea, Bool.false_and, hroom,
      decide_false, Bool.and_false, Bool.false_eq_true, if_false, isAreaType_of_guardIndex hg,
      if_true, hcount]
  · have hfits : CodeFields.Fits ⟨type.value, 1#8, 1#8, 1#8, 1#32, 1#32,
        (praseMachineCode srcMachineCode).areaIndex⟩ :=
      ⟨DeviceType.value_lt type, (by decide : (1#32).toNat < 2 ^ 12),
        (by decide : (1#32).toNat < 2 ^ 12), (praseMachineCode_fits _).areaIndex⟩
    rw [praseMachineCode_generateMachineCode hfits]
    exact ⟨rfl, rfl⟩

/-- A code of the area is accepted within the index range of its record, unless the place is 0 as
an `int`. -/
theorem accepts_guard_iff {machineCode : ULongLong} {machineInfo : MachineInfo}
    (htype : DeviceType.ofValue (praseMachineCode machineCode).machineIndex = some type)
    (hg : guardIndex type = some g) :
    Accepts area machineInfo machineCode ↔
      ((area.guard g).indexBegin.toNat ≤ (praseMachineCode machineCode).subMachineIndex.toNat ∧
        (praseMachineCode machineCode).subMachineIndex.toNat ≤ (area.guard g).indexEnd.toNat) ∧
      (guardPlace area g (praseMachineCode machineCode).subMachineIndex.toNat : ℤ) % 2 ^ 32 ≠
        0 := by
  have hinit : initMachineInfo (R := Word) machineCode (some area) machineInfo = _ :=
    initMachineInfo_guard htype hg
  rw [← cast_guardPlace] at hinit
  constructor
  · rintro ⟨n, info, hok, hn⟩
    rw [hinit] at hok
    split_ifs at hok with hin
    · cases hok
      exact ⟨hin, fun hz ↦ hn ((word_cast_eq_zero_iff _).2 hz)⟩
    · cases hok
      exact absurd rfl hn
  · rintro ⟨hin, hplace⟩
    rw [if_pos hin] at hinit
    exact ⟨_, _, hinit, fun hz ↦ hplace ((word_cast_eq_zero_iff _).1 hz)⟩

/-- The code that is counted on to denotes the device `1 + k` of the record. -/
theorem accepts_counted_iff {destMachineCode : ULongLong} {machineInfo : MachineInfo}
    (hg : guardIndex type = some g)
    (hmachine : (praseMachineCode destMachineCode).machineIndex = type.value)
    (hsub : (praseMachineCode destMachineCode).subMachineIndex = 1#8) (k : ℕ) :
    Accepts area machineInfo (withSubMachineIndex destMachineCode
        ((praseMachineCode destMachineCode).subMachineIndex + BitVec.ofNat 8 k)) ↔
      ((area.guard g).indexBegin.toNat ≤ (1#8 + BitVec.ofNat 8 k).toNat ∧
        (1#8 + BitVec.ofNat 8 k).toNat ≤ (area.guard g).indexEnd.toNat) ∧
      (guardPlace area g (1#8 + BitVec.ofNat 8 k).toNat : ℤ) % 2 ^ 32 ≠ 0 := by
  have htype : DeviceType.ofValue (praseMachineCode (withSubMachineIndex destMachineCode
      ((praseMachineCode destMachineCode).subMachineIndex + BitVec.ofNat 8 k))).machineIndex =
        some type := by
    rw [praseMachineCode_withSubMachineIndex, hmachine, DeviceType.ofValue_value]
  rw [accepts_guard_iff htype hg, praseMachineCode_withSubMachineIndex, hsub]

end Answer

/-- **Counting on from 1** visits exactly the indexes of a record if they begin at 1, or are all the
numbers of a byte. Otherwise it leaves them. -/
theorem indexes_iff {lo hi : UChar} (h : lo.toNat ≤ hi.toNat) {P : ℕ → Prop} :
    (∀ k : ℕ, (k : ℤ) < hi.toNat - lo.toNat + 1 →
      (lo.toNat ≤ (1#8 + BitVec.ofNat 8 k).toNat ∧ (1#8 + BitVec.ofNat 8 k).toNat ≤ hi.toNat) ∧
        P (1#8 + BitVec.ofNat 8 k).toNat) ↔
      (lo = 1#8 ∨ lo = 0#8 ∧ hi = 255#8) ∧ ∀ sub, lo.toNat ≤ sub → sub ≤ hi.toNat → P sub := by
  have hhi := hi.isLt
  have hval (k : ℕ) : (1#8 + BitVec.ofNat 8 k).toNat = (1 + k) % 256 := by
    simp [BitVec.toNat_add]
  simp only [hval, ← BitVec.toNat_inj, BitVec.toNat_ofNat]
  constructor
  · intro hall
    have hfirst := (hall 0 (by omega)).1
    have hlast := (hall (hi.toNat - lo.toNat) (by omega)).1
    refine ⟨by omega, fun sub hlo hle ↦ ?_⟩
    have hsub := (hall ((sub + 255) % 256) (by omega)).2
    rwa [show (1 + (sub + 255) % 256) % 256 = sub by omega] at hsub
  · rintro ⟨hbounds, hall⟩ k hk
    exact ⟨by omega, hall _ (by omega) (by omega)⟩

/-- **A source finds the devices of the area**, in any area with a range of indexes for the type and
for any accepted source, if and only if it is a device of a building and the indexes begin at 1 or
are all the numbers of a byte (and no place is 0 as an `int`). -/
theorem findsArea_iff {area : Area} {srcMachineCode : ULongLong} {machineInfo : MachineInfo}
    {type : DeviceType} {g : Fin 3} (hg : guardIndex type = some g)
    (hguard : (area.guard g).indexBegin.toNat ≤ (area.guard g).indexEnd.toNat)
    (hsrc : Accepts area machineInfo srcMachineCode) :
    FindsArea area srcMachineCode type g ↔ AreaAddressable area srcMachineCode g := by
  rw [FindsArea, AreaAddressable]
  rcases hsource : DeviceType.ofValue (praseMachineCode srcMachineCode).machineIndex with _ | source
  · obtain ⟨n, info, hok, hn⟩ := hsrc
    rw [initMachineInfo_of_no_device (by rw [deviceOf, hsource]; rfl)] at hok
    cases hok
    exact absurd rfl hn
  rw [Option.any_some]
  by_cases hbuilding : isBuildingType source = true
  · rw [← indexes_iff hguard, hbuilding]
    constructor
    · intro h
      obtain ⟨num, destMachineCode, hok, rfl, haccepts⟩ := h 0
      obtain ⟨destMachineCode', hok', hmachine, hsub⟩ :=
        getObjectMachineInfo_area_of_building 0 hsource hbuilding hg
      rw [hok] at hok'
      obtain rfl := (Prod.mk.inj (Except.ok.inj hok')).2
      exact ⟨rfl, fun k hk ↦
        (accepts_counted_iff hg hmachine hsub k).1 (haccepts k hk ⟨0, 0, 0, 0, ⟨0, 0, 0⟩⟩)⟩
    · rintro ⟨-, haccepts⟩ dest
      obtain ⟨destMachineCode, hok, hmachine, hsub⟩ :=
        getObjectMachineInfo_area_of_building dest hsource hbuilding hg
      exact ⟨_, destMachineCode, hok, rfl, fun k hk _ ↦
        (accepts_counted_iff hg hmachine hsub k).2 (haccepts k hk)⟩
  · have harea : isAreaType source = true := by
      cases source <;> first | rfl | exact absurd rfl hbuilding
    refine ⟨fun h ↦ ?_, fun h ↦ absurd h.1 hbuilding⟩
    obtain ⟨num, destMachineCode, hok, hnum, -⟩ := h 0
    rw [getObjectMachineInfo_area_of_area 0 type hsource harea] at hok
    cases hok
    omega

/-- An indoor station finds the two devices of the management centre. -/
theorem findsArea_sampleArea :
    FindsArea sampleArea 0x0010020010201011#64 .manager 0 := by
  refine (findsArea_iff rfl (by decide)
    (⟨_, _, rfl, by decide⟩ : Accepts sampleArea ⟨0, 0, 0, 0, ⟨0, 0, 0⟩⟩ _)).2
    ⟨by decide, Or.inl rfl, fun sub hlo hhi ↦ ?_⟩
  have hsub : sub = 1 ∨ sub = 2 := by
    have hlo' : 1 ≤ sub := hlo
    have hhi' : sub ≤ 2 := hhi
    omega
  rcases hsub with rfl | rfl
  · decide
  · decide

/-- A guard does not find the management centre. -/
theorem not_findsArea_guard :
    Accepts sampleArea ⟨0, 0, 0, 0, ⟨0, 0, 0⟩⟩ 0x0010010010101016#64 ∧
      (praseMachineCode 0x0010010010101016#64).areaIndex = 1#32 ∧
      ¬ FindsArea sampleArea 0x0010010010101016#64 .manager 0 := by
  refine ⟨⟨_, _, rfl, by decide⟩, by decide, fun h ↦ ?_⟩
  obtain ⟨num, destMachineCode, hok, hnum, -⟩ := h 0
  cases hok
  exact absurd hnum (by decide)

end DoorIntercom
