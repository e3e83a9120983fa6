import DoorIntercom.Area.AddressList
import DoorIntercom.Area.ConfigDocument
import DoorIntercom.Area.SiteAddresses
import DoorIntercom.Area.TargetEnumeration

/-!
# The address of a room

`roomIdGetIP` is what the keypad asks for the address of a room: it loads the configuration, numbers
the first indoor station of the room, enumerates the room's indoor stations, numbers the first of
them again, lists the addresses of all of them and prints the first one.

The station itself plans its own address with `initMachineInfo`, from the same code. The two agree
(`roomIdGetIP_eq_ok_iff`): whatever the variables that are not initialised hold, a text is returned
exactly if the code is accepted with a positive number and the room has at most 50 stations, and the
text is the address that the station plans for itself. Without a positive number the function ends
without a value, and the 51st station is written behind `ipList`.
-/

namespace DoorIntercom

/-- What `roomIdGetIP` can end with instead of a text. -/
inductive RoomFault
  | load (f : LoadFault)
  | cursor (f : Fault)
  | address (f : AddressFault)
  /-- The end of the function is reached, which is not `void`. -/
  | noReturn
  deriving DecidableEq, Repr

/-- `GENERATE_MACHINE_CODE(1,1,roomId,floor,1,1,1)`, whose low operands are `int`s: the low word is
signed where it is widened. -/
def roomMachineCode (floor roomId : Word) : ULongLong :=
  let low : Word :=
    (1#32 &&& 0x0f#32) ||| (1#32 <<< 4) ||| (roomId <<< 12) ||| (floor <<< 20) ||| (1#32 <<< 28)
  low.signExtend 64 ||| (1#64 <<< 40) ||| (1#64 <<< 52)

/-- The part of `roomIdGetIP` behind `getAreaInfo`. `destMachineCode` and `machineInfoTest` are not
initialised. -/
def areaRoomIdGetIP (area : Option Area) (destMachineCode : ULongLong)
    (machineInfoTest : MachineInfo) (floor roomId : Word) : Except RoomFault Text := do
  let machineCode := roomMachineCode floor roomId
  let (machineNumber, _) ← (initMachineInfo (R := Word) machineCode area
    ⟨0, 0, 0, 0, ⟨0, 0, 0⟩⟩).mapError .cursor
  if 0 < machineNumber.toInt then
    let (objectNum, destMachineCode) ←
      (getObjectMachineInfo destMachineCode machineCode area .room).mapError .cursor
    let (machineNumber, machineInfoTest) ← (initMachineInfo (R := Word) destMachineCode area
      machineInfoTest).mapError .cursor
    let ipList ←
      if 0 < machineNumber.toInt then
        (listAddresses objectNum.toNat 0 machineInfoTest.machineIPInfo.ipAddress).mapError .address
      else .ok []
    return (ipList.head?).elim [] addressText
  else .error .noReturn

/-- `roomIdGetIP`. -/
def roomIdGetIP (junk : Junk) (root : Option XmlNode) (destMachineCode : ULongLong)
    (machineInfoTest : MachineInfo) (floor roomId : Word) : Except RoomFault Text := do
  let block ← (getAreaInfo junk root).mapError .load
  areaRoomIdGetIP (block.map AreaBlock.area) destMachineCode machineInfoTest floor roomId

theorem eq_ok_of_mapError {ε ε' α : Type} {x : Except ε α} {f : ε → ε'} {a : α}
    (h : x.mapError f = .ok a) : x = .ok a := by
  cases x with
  | error e => cases h
  | ok b => exact congrArg Except.ok (Except.ok.inj h)

/-! ### The code of a room -/

/-- The fields of the code: the first indoor station of the room, in building 1, cell 1. -/
def roomFields (floor roomId : UChar) : CodeFields :=
  ⟨1#8, 1#8, roomId, floor, 1#32, 1#32, 1#32⟩

/-- Floor and room numbers of one byte leave the sign bit of the low word clear. -/
theorem roomMachineCode_eq (floor roomId : UChar) :
    roomMachineCode (floor.setWidth 32) (roomId.setWidth 32) =
      generateMachineCode (roomFields floor roomId) := by
  have hshift (x : UChar) {i : ℕ} (hi : i ≤ 20) : (x.setWidth 32 <<< i).toNat < 2 ^ 29 := by
    have hx := x.isLt
    have hle : 2 ^ i ≤ 2 ^ 20 := Nat.pow_le_pow_right (by decide) hi
    have hmul : x.toNat * 2 ^ i ≤ 255 * 2 ^ 20 := Nat.mul_le_mul (by omega) hle
    rw [BitVec.toNat_shiftLeft, BitVec.toNat_setWidth_of_le (by decide), Nat.shiftLeft_eq,
      Nat.mod_eq_of_lt (by omega)]
    omega
  have hlow : (((1#32 &&& 0x0f#32) ||| (1#32 <<< 4) ||| (roomId.setWidth 32 <<< 12) |||
      (floor.setWidth 32 <<< 20) ||| (1#32 <<< 28)) : Word).toNat < 2 ^ 29 := by
    simp only [BitVec.toNat_or]
    refine Nat.or_lt_two_pow (Nat.or_lt_two_pow (Nat.or_lt_two_pow (by decide) ?_) ?_) (by decide)
    · exact hshift roomId (by decide)
    · exact hshift floor (by decide)
  rw [roomMachineCode]
  rw [BitVec.signExtend_eq_setWidth_of_msb_false (BitVec.msb_eq_false_iff_two_mul_lt.2 (by omega))]
  rfl

theorem praseMachineCode_roomMachineCode (floor roomId : UChar) :
    praseMachineCode (roomMachineCode (floor.setWidth 32) (roomId.setWidth 32)) =
      roomFields floor roomId := by
  rw [roomMachineCode_eq, praseMachineCode_generateMachineCode
    ⟨(by decide : (1#8).toNat < 2 ^ 4), (by decide : (1#32).toNat < 2 ^ 12),
      (by decide : (1#32).toNat < 2 ^ 12), (by decide : (1#32).toNat < 2 ^ 8)⟩]
  rfl

/-! ### The first entry of the list -/

section List

variable {item : NetItem} {ipAddress : IpAddress}

theorem nextAddress_zero_of_lt (h : (ipAddress 3).toNat < 255) :
    nextAddress 0 ipAddress = ipAddress := by
  rw [nextAddress, if_neg (by omega), if_pos rfl, BitVec.add_zero]
  exact octets_eta ipAddress

/-- The first address that is listed is the one the loop starts from. -/
theorem listAddresses_head {k : ℕ} (hk : 1 ≤ k) (h : (ipAddress 3).toNat < 255) :
    (∃ ipList, listAddresses k 0 ipAddress = .ok ipList ∧ ipList.head? = some ipAddress ∧ k ≤ 50) ∨
      listAddresses k 0 ipAddress = .error .ipList ∧ 50 < k := by
  have hlist : listAddresses k 0 ipAddress = _ := listAddresses_eq k 0
  rw [hlist]
  by_cases hroom : k ≤ 50
  · rw [if_pos (by omega)]
    refine Or.inl ⟨_, rfl, ?_, hroom⟩
    rw [List.head?_map, List.head?_range', if_neg (by omega), Option.map_some, addressBefore,
      addressBefore, nextAddress_zero_of_lt h]
  · rw [if_neg (by omega)]
    exact Or.inr ⟨rfl, by omega⟩

end List

/-! ### The station of the room -/

section Station

variable {area : Area} {floor roomId : UChar} {machineCode : ULongLong} {build : Build}
  {cell : Cell}

/-- The room has an indoor station: building 1 is in the entry, cell 1 in the cells, and the room in
the cell. -/
structure HasStation (area : Area) (floor roomId : UChar) (build : Build) (cell : Cell) : Prop where
  mem : build ∈ area.buildList
  contains : build.Contains 1
  cell_mem : cell ∈ build.model.cellList
  cell_contains : cell.Contains 1
  hasRoom : cell.HasRoom floor.toNat roomId.toNat
  count : 1 ≤ cell.inDoorCount.toNat

theorem cellDeviceOf_room (hcode : praseMachineCode machineCode = roomFields floor roomId) :
    DeviceType.ofValue (praseMachineCode machineCode).machineIndex = some .room ∧
      cellDeviceOf .room (praseMachineCode machineCode) =
        some (.indoor floor.toNat roomId.toNat 1) := by
  rw [hcode]
  exact ⟨rfl, rfl⟩

/-- An accepted code is that of a station. -/
theorem exists_hasStation {machineInfo machineInfo' : MachineInfo} {n : Word}
    (hcode : praseMachineCode machineCode = roomFields floor roomId)
    (hinit : initMachineInfo machineCode (some area) machineInfo = .ok (n, machineInfo'))
    (hn : n ≠ 0) : ∃ build cell, HasStation area floor roomId build cell := by
  have hcheck := checkParameters_of_ne_zero hinit hn
  obtain ⟨htype, hx⟩ := cellDeviceOf_room hcode
  rw [checkParameters_building htype hx, hcode] at hcheck
  obtain ⟨build, hmem, -, hb, cell, hcell, hc, hroom, hsub, hcount⟩ :=
    exists_of_checkBuildingDevice rfl hcheck
  exact ⟨build, cell, hmem, hb, hcell, hc, hroom, hsub.trans hcount⟩

/-- **The station's own plan**: its place in the subnet, whatever `*machineInfo` held before. -/
theorem HasStation.initMachineInfo_eq (hs : HasStation area floor roomId build cell)
    (h : area.Ordered) (hcode : praseMachineCode machineCode = roomFields floor roomId)
    (machineInfo : MachineInfo) :
    initMachineInfo (R := Word) machineCode (some area) machineInfo =
      .ok ((placedDevice (roomFields floor roomId) (.indoor floor.toNat roomId.toNat 1)).place area
          build.IPID,
        planAddress area ((placedDevice (roomFields floor roomId)
            (.indoor floor.toNat roomId.toNat 1)).place area build.IPID : Word)
          { machineInfo with
            machineCode := machineCode
            ipid := build.IPID
            number := cell.inDoorCount
            index := 1#8 }) := by
  obtain ⟨htype, hx⟩ := cellDeviceOf_room hcode
  have hinit : initMachineInfo (R := Word) machineCode (some area) machineInfo = _ :=
    initMachineInfo_building htype hx h.toRangesOrdered hs.mem
      (by rw [hcode]; exact hs.contains) (by rw [hcode]; exact h.one_le_buildEnd build hs.mem)
      hs.cell_mem (by rw [hcode]; exact hs.cell_contains) ⟨hs.hasRoom, le_refl 1, hs.count⟩
  rw [hinit, hcode]
  rfl

/-- **The enumeration of the room's stations**: all of them, from the first one on. -/
theorem HasStation.getObjectMachineInfo_eq (hs : HasStation area floor roomId build cell)
    (h : area.Ordered) (hcode : praseMachineCode machineCode = roomFields floor roomId)
    (dest : ULongLong) :
    ∃ destMachineCode,
      getObjectMachineInfo dest machineCode (some area) .room =
        .ok ((cell.inDoorCount.toNat : ℕ), destMachineCode) ∧
      praseMachineCode destMachineCode = roomFields floor roomId := by
  have hb : build.Contains (roomFields floor roomId).buildIndex.toNat := hs.contains
  obtain ⟨l₁, l₂, hl, hl₁, hl₂⟩ := h.toRangesOrdered.split_build hs.mem hb
  obtain ⟨dest', floor', door', hget, hdest, hof⟩ := getObjectMachineInfo_building dest hcode
    (rfl : DeviceType.ofValue (roomFields floor roomId).machineIndex = some .room) rfl
    (rfl : isTargetOf .room .room = true) hl hl₁ hb hl₂
  -- building 1 is the first one of its entry, so the enumeration stays in that entry
  have hfirst : build.buildBegin.toNat = 1 :=
    le_antisymm hs.contains.1 (h.one_le build hs.mem)
  have hbuild : enumeratedBuild (roomFields floor roomId) build l₂ = build := if_pos hfirst.symm
  have hcell : cellAt build.model.cellList 1 = some cell :=
    (cellAt_eq_some_iff (h.cells build hs.mem)).2 ⟨hs.cell_mem, hs.cell_contains⟩
  have hcount : enumeratedCount .room (roomFields floor roomId).cellIndex.toNat floor.toNat
      roomId.toNat build.model.cellList = cell.inDoorCount.toNat := by
    rw [enumeratedCount, show (roomFields floor roomId).cellIndex.toNat = 1 from rfl, hcell]
    simp only [if_pos (Or.inr hs.hasRoom : DeviceType.room ≠ .room ∨ _)]
    rfl
  obtain ⟨hfloor, hdoor⟩ : floor'.toNat = floor.toNat ∧ door'.toNat = roomId.toNat := by
    have hindoor := hof 1
    simp only [CellDevice.ofType, CellDevice.indoor.injEq] at hindoor
    exact ⟨hindoor.1, hindoor.2.1⟩
  refine ⟨dest', ?_, ?_⟩
  · rw [hget, hbuild]
    exact congrArg (fun n : ℕ ↦ Except.ok ((n : ℤ), dest')) hcount
  · rw [hdest, BitVec.eq_of_toNat_eq hfloor, BitVec.eq_of_toNat_eq hdoor]
    rfl

/-- Without a positive number there is no text. -/
theorem areaRoomIdGetIP_ne_ok {area : Option Area} {floor roomId : Word}
    (hno : ∀ info info' (n : Word), initMachineInfo (roomMachineCode floor roomId) area info =
      .ok (n, info') → ¬ 0 < n.toInt) (dest : ULongLong) (machineInfoTest : MachineInfo)
    (text : Text) : areaRoomIdGetIP area dest machineInfoTest floor roomId ≠ .ok text := by
  intro htext
  simp only [areaRoomIdGetIP, bind, Except.bind] at htext
  split at htext
  · cases htext
  · rename_i r hr
    rw [if_neg (hno _ _ _ (eq_ok_of_mapError hr))] at htext
    cases htext

/-- **The text for a room with stations.** -/
theorem HasStation.areaRoomIdGetIP_eq (hs : HasStation area floor roomId build cell)
    (h : area.Ordered) (hnet : area.HasNetItem build.IPID) (dest : ULongLong)
    (machineInfoTest machineInfo : MachineInfo) {n : Word} {machineInfo' : MachineInfo}
    (hinit : initMachineInfo (roomMachineCode (floor.setWidth 32) (roomId.setWidth 32)) (some area)
      machineInfo = .ok (n, machineInfo')) :
    areaRoomIdGetIP (some area) dest machineInfoTest (floor.setWidth 32) (roomId.setWidth 32) =
      if 0 < n.toInt then
        if machineInfo'.number.toNat ≤ 50 then
          .ok (addressText machineInfo'.machineIPInfo.ipAddress)
        else .error (.address .ipList)
      else .error .noReturn := by
  have hcode := praseMachineCode_roomMachineCode floor roomId
  obtain ⟨i, hitem, -⟩ := hnet.exists_netItemOf
  obtain ⟨dest', hget, hdest⟩ := hs.getObjectMachineInfo_eq h hcode dest
  rw [hs.initMachineInfo_eq h hcode] at hinit
  cases hinit
  rw [areaRoomIdGetIP]
  simp only [hs.initMachineInfo_eq h hcode, hs.initMachineInfo_eq h hdest, hget, Except.mapError,
    bind, Except.bind, pure, Except.pure, Int.toNat_natCast]
  generalize ((placedDevice (roomFields floor roomId) (.indoor floor.toNat roomId.toNat 1)).place
    area build.IPID : Word) = n
  change (if 0 < n.toInt then _ else _) =
    if 0 < n.toInt then if cell.inDoorCount.toNat ≤ 50 then _ else _ else _
  by_cases hn : 0 < n.toInt
  · -- both calls plan the same address, and its last octet is below 255
    have hplan (info : MachineInfo) (hipid : info.ipid = build.IPID) :
        (planAddress area n info).machineIPInfo.ipAddress =
          (machineIPInfoOf (area.netItem i) n).ipAddress :=
      planAddress_ipAddress (hipid ▸ hitem) hn
    have hlast : ((machineIPInfoOf (area.netItem i) n).ipAddress 3).toNat < 255 := by
      rw [(machineIPInfoOf_octets_all (area.netItem i) n).2.2.2]
      exact Nat.lt_succ_of_le (planOctet_bounds _ n).2
    rw [if_pos hn, if_pos hn, if_pos hn, hplan _ rfl, hplan _ rfl]
    rcases listAddresses_head hs.count hlast with ⟨ipList, hlist, hhead, hroom⟩ | ⟨hlist, hroom⟩
    · rw [hlist, if_pos hroom]
      simp only [hhead, Option.elim_some]
    · rw [hlist, if_neg (Nat.not_le.2 hroom)]
  · rw [if_neg hn, if_neg hn]

/-- **The text for any room**: the address that a station plans for itself. -/
theorem areaRoomIdGetIP_eq_ok_iff (h : area.Ordered)
    (hnet : ∀ b ∈ area.buildList, area.HasNetItem b.IPID) (dest : ULongLong)
    (machineInfoTest machineInfo : MachineInfo) (floor roomId : UChar) (text : Text) :
    areaRoomIdGetIP (some area) dest machineInfoTest (floor.setWidth 32) (roomId.setWidth 32) =
        .ok text ↔
      ∃ (n : Word) (machineInfo' : MachineInfo),
        initMachineInfo (roomMachineCode (floor.setWidth 32) (roomId.setWidth 32)) (some area)
            machineInfo = .ok (n, machineInfo') ∧
          0 < n.toInt ∧ machineInfo'.number.toNat ≤ 50 ∧
            text = addressText machineInfo'.machineIPInfo.ipAddress := by
  have hcode := praseMachineCode_roomMachineCode floor roomId
  by_cases hstation : ∃ build cell, HasStation area floor roomId build cell
  · obtain ⟨build, cell, hs⟩ := hstation
    have hinit := hs.initMachineInfo_eq h hcode machineInfo
    rw [hs.areaRoomIdGetIP_eq h (hnet build hs.mem) dest machineInfoTest machineInfo hinit]
    constructor
    · intro htext
      split_ifs at htext with hn hcount
      cases htext
      exact ⟨_, _, hinit, hn, hcount, rfl⟩
    · rintro ⟨n, machineInfo', hinit', hn, hcount, rfl⟩
      rw [hinit] at hinit'
      cases hinit'
      rw [if_pos hn, if_pos hcount]
  · -- without a station no number is positive
    have hno (info info' : MachineInfo) (n : Word)
        (hinit : initMachineInfo (roomMachineCode (floor.setWidth 32) (roomId.setWidth 32))
          (some area) info = .ok (n, info')) : ¬ 0 < n.toInt := by
      intro hn
      refine hstation (exists_hasStation hcode hinit ?_)
      rintro rfl
      exact absurd hn (by decide)
    refine iff_of_false (areaRoomIdGetIP_ne_ok hno dest machineInfoTest text) ?_
    rintro ⟨n, info', hinit, hn, -⟩
    exact hno _ _ _ hinit hn

/-- The text for a room is an address of its first indoor station. -/
theorem addressed_of_areaRoomIdGetIP (h : area.Ordered)
    (hnet : ∀ b ∈ area.buildList, area.HasNetItem b.IPID) {dest : ULongLong}
    {machineInfoTest : MachineInfo} {text : Text}
    (htext : areaRoomIdGetIP (some area) dest machineInfoTest (floor.setWidth 32)
      (roomId.setWidth 32) = .ok text) :
    ∃ build ∈ area.buildList, build.Contains 1 ∧ ∃ ipAddress, text = addressText ipAddress ∧
      Addressed area build.IPID ⟨1, 1, .indoor floor.toNat roomId.toNat 1⟩ ipAddress := by
  have hcode := praseMachineCode_roomMachineCode floor roomId
  obtain ⟨n, info', hinit, hn, -, rfl⟩ := (areaRoomIdGetIP_eq_ok_iff h hnet dest machineInfoTest
    ⟨0, 0, 0, 0, ⟨0, 0, 0⟩⟩ floor roomId text).1 htext
  have hn0 : n ≠ 0 := by
    rintro rfl
    exact absurd hn (by decide)
  obtain ⟨build, cell, hs⟩ := exists_hasStation hcode hinit hn0
  have hipid : info'.ipid = build.IPID := by
    rw [hs.initMachineInfo_eq h hcode] at hinit
    cases hinit
    rfl
  refine ⟨build, hs.mem, hs.contains, _, rfl, _, _, n, info', ?_, ?_, hinit, hn0, hipid, rfl⟩
  · rw [hcode]
    rfl
  · rw [hcode]
    rfl

end Station

/-! ### The text and the station's own address -/

/-- What is asked of the configuration that was loaded. -/
theorem roomIdGetIP_of_getAreaInfo {junk : Junk} {root : Option XmlNode} {block : AreaBlock}
    (hload : getAreaInfo junk root = .ok (some block)) (dest : ULongLong)
    (machineInfoTest : MachineInfo) (floor roomId : Word) :
    roomIdGetIP junk root dest machineInfoTest floor roomId =
      areaRoomIdGetIP (some block.area) dest machineInfoTest floor roomId := by
  rw [roomIdGetIP, hload]
  rfl

/-- **The address of a room is the one that its station plans for itself**, for every configuration
whose ranges are in order and whose buildings all have a net item, every floor and room number of
one byte, and whatever the variables that are not initialised hold: a text is returned if and only
if the station gets a positive number and the room has at most 50 stations. -/
theorem roomIdGetIP_eq_ok_iff {junk : Junk} {root : Option XmlNode} {block : AreaBlock}
    (hload : getAreaInfo junk root = .ok (some block)) (h : block.area.Ordered)
    (hnet : ∀ b ∈ block.area.buildList, block.area.HasNetItem b.IPID) (dest : ULongLong)
    (machineInfoTest machineInfo : MachineInfo) (floor roomId : UChar) (text : Text) :
    roomIdGetIP junk root dest machineInfoTest (floor.setWidth 32) (roomId.setWidth 32) =
        .ok text ↔
      ∃ (n : Word) (machineInfo' : MachineInfo),
        initMachineInfo (roomMachineCode (floor.setWidth 32) (roomId.setWidth 32))
            (some block.area) machineInfo = .ok (n, machineInfo') ∧
          0 < n.toInt ∧ machineInfo'.number.toNat ≤ 50 ∧
            text = addressText machineInfo'.machineIPInfo.ipAddress := by
  rw [roomIdGetIP_of_getAreaInfo hload]
  exact areaRoomIdGetIP_eq_ok_iff h hnet dest machineInfoTest machineInfo floor roomId text

theorem sampleArea_normal : sampleArea.Normal where
  nodup := by decide
  model := by decide
  raised i := by
    match i with
    | 0 => exact fun _ ↦ BitVec.le_refl _
    | 1 => exact fun h ↦ absurd rfl h

/-- Room 1 on floor 1 of building 1 of the sample estate. -/
theorem roomIdGetIP_sampleArea :
    roomIdGetIP .zero (some sampleArea.document) 0 ⟨0, 0, 0, 0, ⟨0, 0, 0⟩⟩
      ((1#8).setWidth 32) ((1#8).setWidth 32) = .ok "192.168.1.3".toList := by
  obtain ⟨block, hload, harea⟩ := sampleArea_normal.getAreaInfo_document Junk.keepsText_zero
  have h : block.area.Ordered := harea ▸ sampleArea_ordered
  have hnet : ∀ b ∈ block.area.buildList, block.area.HasNetItem b.IPID := by
    rw [harea]
    decide
  refine (roomIdGetIP_eq_ok_iff hload h hnet 0 _ ⟨0, 0, 0, 0, ⟨0, 0, 0⟩⟩ 1#8 1#8 _).2 ?_
  rw [harea]
  exact ⟨_, _, by rfl, by decide, by decide, rfl⟩

/-- **A text names one room**: as long as the subnet of building 1 is not too large for its plan, no
two rooms are called under the same address by two calls that load the same configuration. -/
theorem roomIdGetIP_ne_of_ne {junk junk' : Junk} {root root' : Option XmlNode}
    {block block' : AreaBlock} (hload : getAreaInfo junk root = .ok (some block))
    (hload' : getAreaInfo junk' root' = .ok (some block')) (hsame : block'.area = block.area)
    (h : block.area.Ordered) (hnet : ∀ b ∈ block.area.buildList, block.area.HasNetItem b.IPID)
    (hsmall : ∀ b ∈ block.area.buildList, b.Contains 1 →
      ∀ item, block.area.netItemOf (b.IPID.setWidth 32) = some item →
        block.area.subnetCount b.IPID + (item.netStart 3).toNat ≤ 508 ∨
          ((item.netStart 3).toNat = 255 ∧ block.area.subnetCount b.IPID ≤ 508))
    {dest dest' : ULongLong} {machineInfoTest machineInfoTest' : MachineInfo}
    {floor floor' roomId roomId' : UChar} {text : Text}
    (hne : (floor, roomId) ≠ (floor', roomId'))
    (htext : roomIdGetIP junk root dest machineInfoTest (floor.setWidth 32)
      (roomId.setWidth 32) = .ok text) :
    roomIdGetIP junk' root' dest' machineInfoTest' (floor'.setWidth 32) (roomId'.setWidth 32) ≠
      .ok text := by
  intro htext'
  rw [roomIdGetIP_of_getAreaInfo hload] at htext
  rw [roomIdGetIP_of_getAreaInfo hload', hsame] at htext'
  obtain ⟨build, hmem, hone, ip, rfl, hip⟩ := addressed_of_areaRoomIdGetIP h hnet htext
  obtain ⟨build', hmem', hone', ip', heq, hip'⟩ := addressed_of_areaRoomIdGetIP h hnet htext'
  obtain rfl : build = build' := h.builds.unique hmem hmem' hone hone'
  obtain rfl : ip = ip' := addressText_injective heq
  obtain ⟨i, hitem, -⟩ := (hnet build hmem).exists_netItemOf
  have hdist := addressesDistinct_of_le h hitem (hsmall build hmem hone _ hitem)
  have hdevice := hdist _ _ _ hip hip'
  simp only [BuildingDevice.mk.injEq, CellDevice.indoor.injEq, true_and, and_true] at hdevice
  exact hne (by rw [BitVec.eq_of_toNat_eq hdevice.1, BitVec.eq_of_toNat_eq hdevice.2])

/-- The room above it has another address, also when the stack of the second call holds ones. -/
theorem roomIdGetIP_sampleArea_ne :
    roomIdGetIP ⟨fun _ ↦ 1, fun _ _ text ↦ text⟩ (some sampleArea.document) 0
      ⟨0, 0, 0, 0, ⟨0, 0, 0⟩⟩ ((2#8).setWidth 32) ((1#8).setWidth 32) ≠
        .ok "192.168.1.3".toList := by
  obtain ⟨block, hload, harea⟩ := sampleArea_normal.getAreaInfo_document Junk.keepsText_zero
  have hones : Junk.KeepsText ⟨fun _ ↦ 1, fun _ _ text ↦ text⟩ := fun _ _ _ ↦ rfl
  obtain ⟨block', hload', harea'⟩ := sampleArea_normal.getAreaInfo_document hones
  have h : block.area.Ordered := harea ▸ sampleArea_ordered
  have hnet : ∀ b ∈ block.area.buildList, block.area.HasNetItem b.IPID := by
    rw [harea]
    decide
  have htext : areaRoomIdGetIP (some block.area) 0 ⟨0, 0, 0, 0, ⟨0, 0, 0⟩⟩ ((1#8).setWidth 32)
      ((1#8).setWidth 32) = .ok "192.168.1.3".toList := by
    rw [harea]
    rfl
  have hne : ((1#8, 1#8) : UChar × UChar) ≠ (2#8, 1#8) := by decide
  refine roomIdGetIP_ne_of_ne hload hload' (harea'.trans harea.symm) h hnet ?_ hne
    ((roomIdGetIP_of_getAreaInfo hload ..).trans htext)
  rw [harea]
  decide

end DoorIntercom
