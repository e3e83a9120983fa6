import DoorIntercom.Video.ProbeLoop

/-!
# The parameter sets that the probe finds

The probe is to find the SPS and the PPS wherever they are in the packets. What it scans are the
units of the first packet, and of a later packet only what lies more than four bytes behind the end
of the last one that was scanned (`unitsRead`), until there is a unit for each of both (`Complete`).
So it finds them if and only if they are the last ones of their kind in what is scanned
(`Probe.Ready.finds_iff`).

If the first packet has an SPS and something else, the PPS has to be the last other unit of it
(`finds_iff_of_complete`); if it has not, and the other packets are about as long, nothing more is
found (`not_finds_of_le`).
-/

namespace DoorIntercom

open JavaArray Delimited

/-! ### The property -/

/-- A packet of NAL units. -/
def packetOf (nals : List (List Byte)) : List Byte := startCode ++ startCode.intercalate nals

/-- Packets of less than 128 bytes, as their NAL units, with one SPS and one PPS. -/
structure ParameterPackets (packets : List (List (List Byte))) (sps pps : List Byte) : Prop where
  ne_nil : ∀ nals ∈ packets, nals ≠ []
  nal_ne_nil : ∀ nals ∈ packets, ∀ nal ∈ nals, nal ≠ []
  startCode_free : ∀ nals ∈ packets, ∀ nal ∈ nals, ¬ startCode <:+: nal
  length_lt : ∀ nals ∈ packets, (packetOf nals).length < 128
  sps_eq : packets.flatten.filter (unitType · = 7#8) = [sps]
  pps_eq : packets.flatten.filter (unitType · = 8#8) = [pps]

/-- The loop ends without an exception, with the two units. -/
def Probe.Finds (s : Probe) (packets : List (List Byte)) (sps pps : List Byte) : Prop :=
  ∃ s', Probe.searchSPSandPPS packets s = .ok s' ∧ s'.mSPS = some sps ∧ s'.mPPS = some pps

/-! ### The condition -/

/-- The units that are scanned in packets, if the cursors stand at `cut`. -/
def unitsRead : ℕ → List (List Byte) → List (List Byte)
  | _, [] => []
  | cut, packet :: packets =>
    if packet.length ≤ cut then unitsRead cut packets
    else pieces startCode (packet.drop cut) ++ unitsRead (packet.length + 4) packets

/-- No packet that is scanned leads out of `csd`. -/
def StaysWithin : ℕ → List (List Byte) → Prop
  | _, [] => True
  | cut, packet :: packets =>
    if packet.length ≤ cut then StaysWithin cut packets
    else ¬ Overruns cut packet ∧ StaysWithin (packet.length + 4) packets

/-- There is a unit for the SPS, and one for the PPS. -/
def Complete (units : List (List Byte)) : Prop :=
  (lastSPS units).isSome ∧ (lastOther units).isSome

/-- The first `k` packets are scanned without leaving the array, the loop does not end before them,
and of the units in them, and of those before, the last ones are these two. -/
structure ReadsSets (cut : ℕ) (units packets : List (List Byte)) (sps pps : List Byte) (k : ℕ) :
    Prop where
  not_complete : ∀ j < k, ¬ Complete (units ++ unitsRead cut (packets.take j))
  staysWithin : StaysWithin cut (packets.take k)
  lastSPS_eq : lastSPS (units ++ unitsRead cut (packets.take k)) = some sps
  lastOther_eq : lastOther (units ++ unitsRead cut (packets.take k)) = some pps

/-! ### The outer loop -/

section Packets

variable {packet sps pps : List Byte} {packets units : List (List Byte)} {cut k : ℕ} {s : Probe}

theorem Complete.of_eq (hsps : lastSPS units = some sps) (hpps : lastOther units = some pps) :
    Complete units := ⟨by rw [hsps]; rfl, by rw [hpps]; rfl⟩

/-- Before the first packet. -/
theorem readsSets_zero : ReadsSets cut units packets sps pps 0 ↔
    lastSPS units = some sps ∧ lastOther units = some pps := by
  have heq : units ++ unitsRead cut (packets.take 0) = units := List.append_nil units
  constructor
  · intro h
    rw [← heq]
    exact ⟨h.lastSPS_eq, h.lastOther_eq⟩
  · intro h
    rw [← heq] at h
    exact ⟨fun j hj ↦ absurd hj (Nat.not_lt_zero j), trivial, h.1, h.2⟩

/-- **One packet more**, if after it the cursors stand at `cut'` and `units'` have been read. -/
theorem readsSets_succ_of {cut' : ℕ} {units' : List (List Byte)} {P : Prop}
    (hread : ∀ j, units ++ unitsRead cut ((packet :: packets).take (j + 1)) =
      units' ++ unitsRead cut' (packets.take j))
    (hstays : StaysWithin cut ((packet :: packets).take (k + 1)) ↔
      P ∧ StaysWithin cut' (packets.take k)) :
    ReadsSets cut units (packet :: packets) sps pps (k + 1) ↔
      ¬ Complete units ∧ P ∧ ReadsSets cut' units' packets sps pps k := by
  have hzero : units ++ unitsRead cut ((packet :: packets).take 0) = units := List.append_nil units
  constructor
  · intro h
    obtain ⟨hP, hrest⟩ := hstays.1 h.staysWithin
    have hnot := h.not_complete 0 (Nat.zero_lt_succ k)
    rw [hzero] at hnot
    refine ⟨hnot, hP, fun j hj ↦ ?_, hrest, ?_, ?_⟩
    · rw [← hread]
      exact h.not_complete (j + 1) (Nat.succ_lt_succ hj)
    · rw [← hread]
      exact h.lastSPS_eq
    · rw [← hread]
      exact h.lastOther_eq
  · rintro ⟨hnot, hP, h⟩
    refine ⟨fun j hj ↦ ?_, hstays.2 ⟨hP, h.staysWithin⟩, ?_, ?_⟩
    · cases j with
      | zero =>
        rw [hzero]
        exact hnot
      | succ j =>
        rw [hread]
        exact h.not_complete j (Nat.lt_of_succ_lt_succ hj)
    · rw [hread]
      exact h.lastSPS_eq
    · rw [hread]
      exact h.lastOther_eq

theorem readsSets_succ_of_le (hle : packet.length ≤ cut) :
    ReadsSets cut units (packet :: packets) sps pps (k + 1) ↔
      ¬ Complete units ∧ ReadsSets cut units packets sps pps k := by
  have hread : ∀ j, units ++ unitsRead cut ((packet :: packets).take (j + 1)) =
      units ++ unitsRead cut (packets.take j) := fun j ↦ congrArg (units ++ ·) (if_pos hle)
  have hstays : StaysWithin cut ((packet :: packets).take (k + 1)) ↔
      True ∧ StaysWithin cut (packets.take k) := by
    rw [List.take_succ_cons, StaysWithin, if_pos hle, true_and]
  rw [readsSets_succ_of hread hstays, true_and]

theorem readsSets_succ_of_lt (hlt : cut < packet.length) :
    ReadsSets cut units (packet :: packets) sps pps (k + 1) ↔
      ¬ Complete units ∧ ¬ Overruns cut packet ∧
        ReadsSets (packet.length + 4) (units ++ pieces startCode (packet.drop cut)) packets sps pps
          k := by
  refine readsSets_succ_of (fun j ↦ ?_) ?_
  · rw [List.take_succ_cons, unitsRead, if_neg (Nat.not_le.2 hlt), List.append_assoc]
  · rw [List.take_succ_cons, StaysWithin, if_neg (Nat.not_le.2 hlt)]

/-- Once there are both, no packet is looked at. -/
theorem exists_readsSets_of_complete (h : Complete units) :
    (∃ k, ReadsSets cut units packets sps pps k) ↔
      lastSPS units = some sps ∧ lastOther units = some pps := by
  have hzero : ReadsSets cut units packets sps pps 0 ↔
      lastSPS units = some sps ∧ lastOther units = some pps := readsSets_zero
  rw [← hzero]
  refine ⟨fun ⟨k, hk⟩ ↦ ?_, fun h ↦ ⟨0, h⟩⟩
  cases k with
  | zero => exact hk
  | succ k =>
    have hnot := hk.not_complete 0 (Nat.zero_lt_succ k)
    rw [List.take_zero, unitsRead, List.append_nil] at hnot
    exact absurd h hnot

/-- As long as one is missing, a packet is needed. -/
theorem exists_readsSets_of_not_complete (h : ¬ Complete units) :
    (∃ k, ReadsSets cut units packets sps pps k) ↔
      ∃ k, ReadsSets cut units packets sps pps (k + 1) := by
  refine ⟨fun ⟨k, hk⟩ ↦ ?_, fun ⟨k, hk⟩ ↦ ⟨k + 1, hk⟩⟩
  cases k with
  | zero =>
    obtain ⟨hsps, hpps⟩ := readsSets_zero.1 hk
    exact absurd (Complete.of_eq hsps hpps) h
  | succ k => exact ⟨k, hk⟩

/-- What a packet has to be: it begins, and does not end, with a start code. -/
structure IsPacket (packet : List Byte) : Prop where
  length_lt : packet.length < 128
  startCode_isPrefix : startCode <+: packet
  not_startCode_suffix : ¬ startCode <:+ packet

theorem Probe.Found.missing_iff (h : s.Found cut units) :
    s.mSPS = none ∨ s.mPPS = none ↔ ¬ Complete units := by
  rw [h.mSPS_eq, h.mPPS_eq, Complete, not_and_or, Option.not_isSome_iff_eq_none,
    Option.not_isSome_iff_eq_none]

theorem Probe.Found.finds_of_ok (h : s.Found cut units)
    (hend : Probe.searchSPSandPPS packets s = .ok s) :
    s.Finds packets sps pps ↔ lastSPS units = some sps ∧ lastOther units = some pps := by
  rw [← h.mSPS_eq, ← h.mPPS_eq]
  refine ⟨fun ⟨s', hs', hlast⟩ ↦ ?_, fun hlast ↦ ⟨s, hend, hlast⟩⟩
  rw [hend] at hs'
  exact Except.ok.inj hs' ▸ hlast

theorem finds_cons_of_ok {s' : Probe} (hmissing : s.mSPS = none ∨ s.mPPS = none)
    (hpacket : Probe.handlePacket packet s = .ok s') :
    s.Finds (packet :: packets) sps pps ↔ s'.Finds packets sps pps := by
  rw [Probe.Finds, Probe.searchSPSandPPS, if_pos hmissing, hpacket]
  rfl

theorem not_finds_cons_of_error {e : Thrown} (hmissing : s.mSPS = none ∨ s.mPPS = none)
    (hpacket : Probe.handlePacket packet s = .error e) :
    ¬ s.Finds (packet :: packets) sps pps := by
  rw [Probe.Finds, Probe.searchSPSandPPS, if_pos hmissing, hpacket]
  rintro ⟨s', hs', -⟩
  cases hs'

/-- **The outer loop**, from any point on. -/
theorem Probe.Ready.finds_iff (h : s.Ready cut units)
    (hpackets : ∀ packet ∈ packets, IsPacket packet) :
    s.Finds packets sps pps ↔ ∃ k, ReadsSets cut units packets sps pps k := by
  induction packets generalizing s cut units with
  | nil =>
    rw [h.finds_of_ok rfl]
    refine ⟨fun hlast ↦ ⟨0, readsSets_zero.2 hlast⟩, fun ⟨k, hk⟩ ↦ ?_⟩
    have heq : units ++ unitsRead cut ([].take k) = units := by
      rw [List.take_nil, unitsRead, List.append_nil]
    rw [← heq]
    exact ⟨hk.lastSPS_eq, hk.lastOther_eq⟩
  | cons packet packets ih =>
    rw [List.forall_mem_cons] at hpackets
    obtain ⟨⟨hlt, hstart, hends⟩, hrest⟩ := hpackets
    by_cases hcomplete : Complete units
    · have hmissing : ¬ (s.mSPS = none ∨ s.mPPS = none) :=
        fun hnone ↦ h.missing_iff.1 hnone hcomplete
      have hend : Probe.searchSPSandPPS (packet :: packets) s = .ok s := if_neg hmissing
      rw [h.finds_of_ok hend, exists_readsSets_of_complete hcomplete]
    · have hmissing := h.missing_iff.2 hcomplete
      rw [exists_readsSets_of_not_complete hcomplete]
      by_cases hle : packet.length ≤ cut
      · obtain ⟨s', hs', hready⟩ := h.handlePacket_of_le hlt hstart hle
        rw [finds_cons_of_ok hmissing hs', ih hready hrest]
        exact exists_congr fun k ↦ by
          rw [readsSets_succ_of_le hle, and_iff_right hcomplete]
      · obtain ⟨herror, hok⟩ :=
          h.handlePacket_of_lt hlt hstart hends (Nat.not_le.1 hle)
        by_cases hover : Overruns cut packet
        · refine iff_of_false (not_finds_cons_of_error hmissing (herror hover)) fun ⟨k, hk⟩ ↦ ?_
          exact ((readsSets_succ_of_lt (Nat.not_le.1 hle)).1 hk).2.1 hover
        · obtain ⟨s', hs', hready⟩ := hok hover
          rw [finds_cons_of_ok hmissing hs', ih hready hrest]
          exact exists_congr fun k ↦ by
            rw [readsSets_succ_of_lt (Nat.not_le.1 hle), and_iff_right hcomplete,
              and_iff_right hover]

end Packets

/-! ### Packets of NAL units -/

section PacketOf

variable {l nal sps pps : List Byte} {nals : List (List Byte)} {packets : List (List (List Byte))}

/-- The last byte of the start code is not zero, so no start code begins in a unit. -/
theorem separable_of_not_isInfix (h : ¬ startCode <:+: nal) : Separable startCode nal := by
  have hconcat : ∀ bs : List Byte, ¬ startCode <:+: bs → ¬ startCode <:+: bs ++ [0x00#8] := by
    intro bs hbs hinf
    rcases List.infix_concat_iff.1 hinf with hsuffix | hinf
    · rcases List.suffix_concat_iff.1 hsuffix with hnil | ⟨t, ht, -⟩
      · exact startCode_ne_nil hnil
      · have hlast : startCode.getLast? = some 0x00#8 := by rw [ht, List.getLast?_concat]
        exact absurd hlast (by decide)
    · exact hbs hinf
  have hthree := hconcat _ (hconcat _ (hconcat _ h))
  rw [List.append_assoc, List.append_assoc] at hthree
  exact hthree

/-- A start code and a unit do not end with a start code. -/
theorem not_startCode_suffix (hne : nal ≠ []) (h : ¬ startCode <:+: nal) :
    ¬ startCode <:+ l ++ startCode ++ nal := by
  have htails : ∀ nal ∈ startCode.tails, nal ≠ [] → nal ≠ startCode →
      ¬ startCode <:+ startCode ++ nal := by decide
  intro hsuffix
  rcases List.suffix_or_suffix_of_suffix hsuffix (List.suffix_append _ nal) with hin | hin
  · exact h hin.isInfix
  · have hown : nal ≠ startCode := fun heq ↦ h (heq ▸ List.infix_refl _)
    rw [List.append_assoc] at hsuffix
    have hshort : startCode <:+ startCode ++ nal :=
      List.suffix_of_suffix_length_le hsuffix (List.suffix_append _ _)
        (List.prefix_append _ _).length_le
    exact htails nal ((List.mem_tails _ _).2 hin) hne hown hshort

theorem exists_packetOf_eq (h : nals ≠ []) :
    ∃ l, ∃ nal ∈ nals, packetOf nals = l ++ startCode ++ nal := by
  induction nals with
  | nil => exact absurd rfl h
  | cons nal nals ih =>
    cases nals with
    | nil =>
      refine ⟨[], nal, List.mem_cons_self, ?_⟩
      rw [packetOf, List.intercalate_singleton, List.nil_append]
    | cons nal' nals =>
      obtain ⟨l, last, hlast, heq⟩ := ih (List.cons_ne_nil _ _)
      refine ⟨startCode ++ nal ++ l, last, List.mem_cons_of_mem _ hlast, ?_⟩
      rw [packetOf] at heq
      rw [packetOf, List.intercalate_cons_cons, List.append_assoc nal, heq]
      simp only [List.append_assoc]

/-- **The units of a packet**, scanned from the first one on. -/
theorem pieces_packetOf (hne : nals ≠ []) (h : ∀ nal ∈ nals, ¬ startCode <:+: nal) :
    pieces startCode ((packetOf nals).drop 4) = nals :=
  pieces_intercalate startCode_ne_nil hne fun nal hnal ↦ separable_of_not_isInfix (h nal hnal)

theorem ParameterPackets.isPacket (h : ParameterPackets packets sps pps) (hnals : nals ∈ packets) :
    IsPacket (packetOf nals) := by
  refine ⟨h.length_lt nals hnals, List.prefix_append _ _, ?_⟩
  obtain ⟨l, nal, hnal, heq⟩ := exists_packetOf_eq (h.ne_nil nals hnals)
  rw [heq]
  exact not_startCode_suffix (h.nal_ne_nil nals hnals nal hnal)
    (h.startCode_free nals hnals nal hnal)

theorem ParameterPackets.isPacket_of_mem_map (h : ParameterPackets packets sps pps)
    {packet : List Byte} (hpacket : packet ∈ packets.map packetOf) : IsPacket packet := by
  obtain ⟨nals, hnals, rfl⟩ := List.mem_map.1 hpacket
  exact h.isPacket hnals

theorem four_lt_length_packetOf (hne : nals ≠ []) (h : ∀ nal ∈ nals, nal ≠ []) :
    4 < (packetOf nals).length := by
  obtain ⟨l, nal, hnal, heq⟩ := exists_packetOf_eq hne
  have hpos := List.length_pos_iff.2 (h nal hnal)
  have hfour : startCode.length = 4 := rfl
  rw [heq, List.length_append, List.length_append]
  omega

/-- The units of the first packet are scanned first. -/
theorem exists_readsSets_cons (h : ParameterPackets (nals :: packets) sps pps) :
    (∃ k, ReadsSets 4 [] ((nals :: packets).map packetOf) sps pps k) ↔
      ¬ Overruns 4 (packetOf nals) ∧
        ∃ k, ReadsSets ((packetOf nals).length + 4) nals (packets.map packetOf) sps pps k := by
  have hmem : nals ∈ nals :: packets := List.mem_cons_self
  have hlt := four_lt_length_packetOf (h.ne_nil nals hmem) (h.nal_ne_nil nals hmem)
  have hnot : ¬ Complete [] := fun hcomplete ↦ absurd hcomplete.1 Bool.false_ne_true
  rw [List.map_cons, exists_readsSets_of_not_complete hnot, ← exists_and_left]
  refine exists_congr fun k ↦ ?_
  rw [readsSets_succ_of_lt hlt, and_iff_right hnot,
    pieces_packetOf (h.ne_nil nals hmem) (h.startCode_free nals hmem), List.nil_append]

/-- There is one SPS only. -/
theorem ParameterPackets.lastSPS_eq (h : ParameterPackets packets sps pps) (hnals : nals ∈ packets)
    (hsps : (lastSPS nals).isSome) : lastSPS nals = some sps := by
  have hsub : (nals.filter (unitType · = 7#8)).Sublist [sps] :=
    h.sps_eq ▸ (List.sublist_flatten_of_mem hnals).filter _
  rcases List.sublist_singleton.1 hsub with hnil | hone
  · rw [lastSPS, hnil] at hsps
    cases hsps
  · rw [lastSPS, hone]
    rfl

/-- **The usual case**: if the first packet has the SPS and something else, the PPS has to be the
last unit of it that is not the SPS. -/
theorem finds_iff_of_complete (h : ParameterPackets (nals :: packets) sps pps)
    (hcomplete : Complete nals) :
    Probe.init.Finds ((nals :: packets).map packetOf) sps pps ↔
      ¬ Overruns 4 (packetOf nals) ∧ lastOther nals = some pps := by
  rw [ready_init.finds_iff fun _ ↦ h.isPacket_of_mem_map, exists_readsSets_cons h,
    exists_readsSets_of_complete hcomplete,
    and_iff_right (h.lastSPS_eq List.mem_cons_self hcomplete.1)]

theorem unitsRead_of_le {cut : ℕ} {l : List (List Byte)} (h : ∀ packet ∈ l, packet.length ≤ cut) :
    unitsRead cut l = [] := by
  induction l with
  | nil => rfl
  | cons packet l ih =>
    rw [List.forall_mem_cons] at h
    rw [unitsRead, if_pos h.1, ih h.2]

/-- **Two packets**: what the first one lacks is not found in packets that are about as long. -/
theorem not_finds_of_le (h : ParameterPackets (nals :: packets) sps pps)
    (hcomplete : ¬ Complete nals)
    (hle : ∀ nals' ∈ packets, (packetOf nals').length ≤ (packetOf nals).length + 4) :
    ¬ Probe.init.Finds ((nals :: packets).map packetOf) sps pps := by
  rw [ready_init.finds_iff fun _ ↦ h.isPacket_of_mem_map, exists_readsSets_cons h]
  rintro ⟨-, k, hk⟩
  have hskip : unitsRead ((packetOf nals).length + 4) ((packets.map packetOf).take k) = [] := by
    apply unitsRead_of_le
    intro packet hpacket
    obtain ⟨nals', hnals', rfl⟩ := List.mem_map.1 (List.mem_of_mem_take hpacket)
    exact hle nals' hnals'
  have hsps := hk.lastSPS_eq
  have hpps := hk.lastOther_eq
  rw [hskip, List.append_nil] at hsps hpps
  exact hcomplete (Complete.of_eq hsps hpps)

end PacketOf

/-- **The probe** finds the SPS and the PPS if and only if they are, among the units that are
scanned until there is one for each, the last one of type 7 and the last one of another type, and
no unit leads out of the array. -/
theorem init_finds_iff {packets : List (List (List Byte))} {sps pps : List Byte}
    (h : ParameterPackets packets sps pps) :
    Probe.init.Finds (packets.map packetOf) sps pps ↔
      ∃ k, ReadsSets 4 [] (packets.map packetOf) sps pps k := by
  exact ready_init.finds_iff fun _ ↦ h.isPacket_of_mem_map

/-- An SPS and a PPS in one packet. -/
theorem init_finds_one_packet : Probe.init.Finds
    ([[[0x67#8, 0x42#8], [0x68#8, 0xce#8]]].map packetOf) [0x67#8, 0x42#8] [0x68#8, 0xce#8] := by
  have hone : ParameterPackets [[[0x67#8, 0x42#8], [0x68#8, 0xce#8]]]
      [0x67#8, 0x42#8] [0x68#8, 0xce#8] := by
    constructor <;> decide
  have hlen : (packetOf [[0x67#8, 0x42#8], [0x68#8, 0xce#8]]).length = 12 := by decide
  have hover : ¬ Overruns 4 (packetOf [[0x67#8, 0x42#8], [0x68#8, 0xce#8]]) := by
    rintro ⟨unit, -, -, hle⟩
    omega
  have hcomplete : Complete [[0x67#8, 0x42#8], [0x68#8, 0xce#8]] := by
    constructor <;> decide
  refine (init_finds_iff hone).2 ((exists_readsSets_cons hone).2 ⟨hover, ?_⟩)
  exact (exists_readsSets_of_complete hcomplete).2 ⟨by decide, by decide⟩

/-- **An SPS and a PPS in two packets**: the second packet is passed over. -/
theorem not_init_finds_two_packets :
    ParameterPackets [[[0x67#8, 0x42#8]], [[0x68#8, 0xce#8]]] [0x67#8, 0x42#8] [0x68#8, 0xce#8] ∧
    ¬ Probe.init.Finds ([[[0x67#8, 0x42#8]], [[0x68#8, 0xce#8]]].map packetOf)
      [0x67#8, 0x42#8] [0x68#8, 0xce#8] := by
  have htwo : ParameterPackets [[[0x67#8, 0x42#8]], [[0x68#8, 0xce#8]]]
      [0x67#8, 0x42#8] [0x68#8, 0xce#8] := by
    constructor <;> decide
  refine ⟨htwo, not_finds_of_le htwo ?_ (by decide)⟩
  rintro ⟨-, hother⟩
  exact absurd hother (by decide)

end DoorIntercom
