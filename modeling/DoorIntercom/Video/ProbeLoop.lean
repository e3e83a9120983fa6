import DoorIntercom.Lib.Delimited
import DoorIntercom.Video.PreviewFrame

/-!
# The probe for SPS and PPS

`searchSPSandPPS` of `EncoderDebugger` looks for the parameter sets in the packets of the encoder. A
packet of less than 128 bytes is copied into `csd` and scanned with two cursors: `q` is where a NAL
unit begins, `p` looks for its end.

The cursors are not set back for the next packet. They stand four bytes behind the end of the last
packet that was scanned, so a packet that is no longer than that is passed over, and of a longer one
only the bytes from there on are scanned (`handlePacket_of_le`, `handlePacket_of_lt`). What older
packets have left in `csd` is never seen: behind the cursors it still holds zeros. A unit is taken
for the SPS or, whatever its type, for the PPS, and a later one overwrites an earlier one. A unit of
zeros that begins at one of the last three bytes of `csd` leads the scan out of the array
(`Overruns`).

The packets come as output buffers and in time; the format of the encoder does not change.
-/

namespace DoorIntercom

open JavaArray FallibleRun Delimited

/-! ### The code -/

/-- The variables of the loop. -/
structure Probe where
  csd : List Byte
  p : ℕ
  q : ℕ
  mSPS : Option (List Byte)
  mPPS : Option (List Byte)
  deriving DecidableEq, Repr

namespace Probe

/-- At the start of the loop. -/
def init : Probe := ⟨List.replicate 128 0, 4, 4, none, none⟩

/-- The inner loop: `p` after it. -/
def scan (csd : List Byte) (len : ℕ) : ℕ → ℕ → Except Thrown ℕ
  | 0, p => .ok p
  | fuel + 1, p => do
    if ← startsWith (csd.drop p) startCode then return p
    else if p + 3 < len then scan csd len fuel (p + 1)
    else return p

/-- `new byte[p - q]`, and the copy into it. -/
def copy (csd : List Byte) (q p : ℕ) : Except Thrown (List Byte) := do
  let nal ← new 0 (int ((p : ℤ) - q))
  arraycopy csd q nal 0 (p - q)

/-- The body of the middle loop. -/
def parseUnit (len : ℕ) (s : Probe) : Except Thrown Probe := do
  let p ← scan s.csd len len s.p
  let p := if len ≤ p + 3 then len else p
  if (← get s.csd s.q) &&& 0x1f#8 = 7#8 then
    let mSPS ← copy s.csd s.q p
    return { s with mSPS := some mSPS, p := p + 4, q := p + 4 }
  else
    let mPPS ← copy s.csd s.q p
    return { s with mPPS := some mPPS, p := p + 4, q := p + 4 }

/-- The middle loop. -/
def parse (len : ℕ) : ℕ → Probe → Except Thrown Probe
  | 0, s => .ok s
  | fuel + 1, s => if s.p < len then parseUnit len s >>= parse len fuel else .ok s

/-- A packet. -/
def handlePacket (packet : List Byte) (s : Probe) : Except Thrown Probe :=
  if packet.length < 128 then do
    let csd ← arraycopy packet 0 s.csd 0 packet.length
    if 0 < packet.length then
      if ← startsWith csd startCode then
        parse packet.length packet.length { s with csd := csd }
      else return { s with csd := csd }
    else return { s with csd := csd }
  else .ok s

/-- The outer loop, for the packets that the encoder has. -/
def searchSPSandPPS : List (List Byte) → Probe → Except Thrown Probe
  | [], s => .ok s
  | packet :: packets, s =>
    if s.mSPS = none ∨ s.mPPS = none then handlePacket packet s >>= searchSPSandPPS packets
    else .ok s

end Probe

/-! ### The units that are scanned -/

/-- The type of a NAL unit. -/
def unitType (nal : List Byte) : Byte := nal.headD 0 &&& 0x1f#8

/-- The last unit that is taken for the SPS. -/
def lastSPS (units : List (List Byte)) : Option (List Byte) :=
  (units.filter (unitType · = 7#8)).getLast?

/-- The last unit that is taken for the PPS. -/
def lastOther (units : List (List Byte)) : Option (List Byte) :=
  (units.filter (unitType · ≠ 7#8)).getLast?

/-- The last unit of a packet that is scanned from `cut` on is zero and begins at one of the last
three bytes of `csd`. -/
def Overruns (cut : ℕ) (packet : List Byte) : Prop :=
  ∃ unit, (pieces startCode (packet.drop cut)).getLast? = some unit ∧ (∀ b ∈ unit, b = 0) ∧
    125 + unit.length ≤ packet.length

/-! ### The inner loop -/

section Scan

variable {bs packet csd : List Byte} {n p fuel : ℕ}

theorem startCode_ne_nil : startCode ≠ [] := List.cons_ne_nil _ _

/-- No start code goes beyond a packet: its last byte is not zero. -/
theorem startCode_prefix_append_iff :
    startCode <+: bs ++ List.replicate n 0 ↔ startCode <+: bs := by
  refine ⟨fun h ↦ ?_, fun h ↦ h.trans (List.prefix_append _ _)⟩
  by_cases hlen : 4 ≤ bs.length
  · exact List.prefix_of_prefix_length_le h (List.prefix_append _ _) hlen
  · obtain ⟨t, ht⟩ := h
    have hlast : (bs ++ List.replicate n 0)[3]? = some (0x01#8 : Byte) := by
      rw [← ht]
      rfl
    rw [List.getElem?_append_right (by omega)] at hlast
    have hmem := List.eq_of_mem_replicate (List.mem_of_getElem? hlast)
    exact absurd hmem (by decide)

/-- The comparison does not leave the array. -/
theorem startsWith_of_not_isPrefix (h : ¬ bs <+: startCode ∨ 4 ≤ bs.length) :
    startsWith bs startCode = .ok (decide (startCode <+: bs)) := by
  rw [startsWith_eq]
  by_cases hpre : startCode <+: bs
  · rw [if_pos hpre, decide_eq_true hpre]
  · have hno : ¬ bs <+: startCode := by
      refine h.elim id fun hlen hbs ↦ hpre ?_
      rw [hbs.eq_of_length_le hlen]
    rw [if_neg hpre, if_neg hno, decide_eq_false hpre]

/-- **One iteration** of the inner loop, where the comparison stays in the array. -/
theorem scan_succ (hcsd : csd = packet ++ List.replicate n 0) (hp : p ≤ packet.length)
    (hstart : ¬ csd.drop p <+: startCode ∨ 4 ≤ (csd.drop p).length) :
    Probe.scan csd packet.length (fuel + 1) p =
      if startCode <+: packet.drop p then .ok p
      else if p + 3 < packet.length then Probe.scan csd packet.length fuel (p + 1)
      else .ok p := by
  have hiff : startCode <+: csd.drop p ↔ startCode <+: packet.drop p := by
    rw [hcsd, List.drop_append_of_le_length hp, startCode_prefix_append_iff]
  rw [Probe.scan, startsWith_of_not_isPrefix hstart]
  by_cases h : startCode <+: packet.drop p
  · rw [if_pos h, decide_eq_true (hiff.2 h)]
    rfl
  · rw [if_neg h, decide_eq_false (mt hiff.1 h)]
    rfl

/-- **The inner loop** stops at the end of the unit. -/
theorem exists_scan (hn : packet.length + (n + 1) = 128)
    (hcsd : csd = packet ++ List.replicate (n + 1) 0) (hp : p < packet.length)
    (hfuel : packet.length ≤ fuel + p)
    (hstart : ¬ csd.drop p <+: startCode ∨ p + 4 ≤ 128) :
    ∃ p', Probe.scan csd packet.length fuel p = .ok p' ∧
      (if packet.length ≤ p' + 3 then packet.length else p') =
        p + (before startCode (packet.drop p)).length := by
  have hfour : startCode.length = 4 := rfl
  induction fuel generalizing p with
  | zero => omega
  | succ fuel ih =>
    have hlen : (packet.drop p).length = packet.length - p := List.length_drop
    have hcons : packet.drop p = packet[p] :: packet.drop (p + 1) := List.drop_eq_getElem_cons hp
    have hinside : ¬ csd.drop p <+: startCode ∨ 4 ≤ (csd.drop p).length := by
      refine hstart.imp_right fun h ↦ ?_
      rw [List.length_drop, hcsd, List.length_append, List.length_replicate]
      omega
    rw [scan_succ hcsd hp.le hinside]
    by_cases hfound : startCode <+: packet.drop p
    · have hle := hfound.length_le
      have hbefore : before startCode (packet.drop p) = [] := by
        rw [hcons] at hfound ⊢
        rw [before, if_pos hfound]
      refine ⟨p, if_pos hfound, ?_⟩
      rw [hbefore, if_neg (by omega), List.length_nil, Nat.add_zero]
    · rw [if_neg hfound]
      by_cases hmore : p + 3 < packet.length
      · obtain ⟨p', hp', hend⟩ := ih (p := p + 1) (by omega) (by omega) (Or.inr (by omega))
        refine ⟨p', by rw [if_pos hmore, hp'], ?_⟩
        rw [hcons] at hfound
        rw [hend, hcons, before, if_neg hfound, List.length_cons]
        omega
      · have hnone : behind startCode (packet.drop p) = none := behind_of_length_lt (by omega)
        refine ⟨p, if_neg hmore, ?_⟩
        rw [before_of_none hnone, hlen, if_pos (by omega)]
        omega

end Scan

/-! ### The middle loop -/

theorem lastSPS_concat (units : List (List Byte)) (unit : List Byte) :
    lastSPS (units ++ [unit]) = if unitType unit = 7#8 then some unit else lastSPS units := by
  rw [lastSPS, List.filter_append, List.getLast?_append, List.filter_singleton]
  by_cases h : unitType unit = 7#8
  · simp [h]
  · simp [h, lastSPS]

theorem lastOther_concat (units : List (List Byte)) (unit : List Byte) :
    lastOther (units ++ [unit]) = if unitType unit = 7#8 then lastOther units else some unit := by
  rw [lastOther, List.filter_append, List.getLast?_append, List.filter_singleton]
  by_cases h : unitType unit = 7#8
  · simp [h, lastOther]
  · simp [h]

/-- The cursors stand at `cut`, and of these units the last ones have been kept. -/
structure Probe.Found (s : Probe) (cut : ℕ) (units : List (List Byte)) : Prop where
  p_eq : s.p = cut
  q_eq : s.q = cut
  mSPS_eq : s.mSPS = lastSPS units
  mPPS_eq : s.mPPS = lastOther units

section Parse

variable {bs packet csd rest unit : List Byte} {n p q cut fuel : ℕ} {s : Probe}
  {units : List (List Byte)}

/-- The type of a unit that is not empty is in its first byte; where it is empty, that is the first
byte of a start code. -/
theorem get_eq_headD (hcsd : csd = packet ++ List.replicate n 0) (hp : p < packet.length) :
    ∃ b, get csd p = .ok b ∧ b &&& 0x1f#8 = unitType (before startCode (packet.drop p)) := by
  have hget : csd[p]? = some packet[p] := by
    rw [hcsd, List.getElem?_append_left hp, List.getElem?_eq_getElem hp]
  refine ⟨_, get_eq_ok.2 hget, ?_⟩
  rw [List.drop_eq_getElem_cons hp, before, unitType]
  split_ifs with hfound
  · rw [← (List.cons_prefix_cons.1 hfound).1]
    rfl
  · rfl

/-- The copy of a unit. -/
theorem copy_eq (hcsd : csd.drop q = unit ++ rest) (hq : q ≤ csd.length)
    (hsize : unit.length < 2 ^ 31) : Probe.copy csd q (q + unit.length) = .ok unit := by
  have hlen : csd.length - q = unit.length + rest.length := by
    rw [← List.length_drop, hcsd, List.length_append]
  have hsub : ((q + unit.length : ℕ) : ℤ) - q = (unit.length : ℕ) := by omega
  rw [Probe.copy, hsub, int_of_lt hsize, new_natCast, Nat.add_sub_cancel_left]
  have hdest : 0 + unit.length ≤ (List.replicate unit.length (0 : Byte)).length := by
    rw [List.length_replicate]
    omega
  have hcopy := arraycopy_eq (show q + unit.length ≤ csd.length by omega) hdest
  rw [hcsd, List.take_left, List.take_zero, List.nil_append, Nat.zero_add,
    List.drop_of_length_le List.length_replicate.le, List.append_nil] at hcopy
  exact hcopy

theorem parseUnit_eq_ok {len end' : ℕ} {b : Byte} (hscan : Probe.scan s.csd len len s.p = .ok p)
    (hend : (if len ≤ p + 3 then len else p) = end') (hget : get s.csd s.q = .ok b)
    (hcopy : Probe.copy s.csd s.q end' = .ok unit) : Probe.parseUnit len s =
      if b &&& 0x1f#8 = 7#8 then
        .ok { s with mSPS := some unit, p := end' + 4, q := end' + 4 }
      else .ok { s with mPPS := some unit, p := end' + 4, q := end' + 4 } := by
  subst hend
  by_cases hsps : b &&& 0x1f#8 = 7#8
  · rw [if_pos hsps]
    refine bind_eq_ok.2 ⟨p, hscan, bind_eq_ok.2 ⟨b, hget, ?_⟩⟩
    rw [if_pos hsps]
    exact bind_eq_ok.2 ⟨unit, hcopy, rfl⟩
  · rw [if_neg hsps]
    refine bind_eq_ok.2 ⟨p, hscan, bind_eq_ok.2 ⟨b, hget, ?_⟩⟩
    rw [if_neg hsps]
    exact bind_eq_ok.2 ⟨unit, hcopy, rfl⟩

/-- **The body of the loop** keeps one unit. -/
theorem Probe.Found.parseUnit (h : s.Found cut units) (hn : packet.length + (n + 1) = 128)
    (hcsd : s.csd = packet ++ List.replicate (n + 1) 0) (hcut : cut < packet.length)
    (hstart : ¬ s.csd.drop cut <+: startCode ∨ cut + 4 ≤ 128)
    (hunit : before startCode (packet.drop cut) = unit) :
    ∃ s', Probe.parseUnit packet.length s = .ok s' ∧ s'.csd = s.csd ∧
      s'.Found (cut + unit.length + 4) (units ++ [unit]) := by
  obtain ⟨p', hscan, hend⟩ := exists_scan hn hcsd hcut (Nat.le_add_right _ _) hstart
  obtain ⟨b, hget, htype⟩ := get_eq_headD hcsd hcut
  obtain ⟨rest, hrest⟩ : before startCode (packet.drop cut) <+: packet.drop cut := before_isPrefix
  rw [hunit] at hend htype hrest
  have hdrop : s.csd.drop cut = unit ++ (rest ++ List.replicate (n + 1) 0) := by
    rw [hcsd, List.drop_append_of_le_length hcut.le, ← List.append_assoc, hrest]
  have hlen : unit.length ≤ packet.length - cut := by
    rw [← List.length_drop, ← hrest]
    exact (List.prefix_append _ _).length_le
  have hcopy := copy_eq hdrop (by rw [hcsd, List.length_append]; omega) (by omega)
  rw [← h.q_eq] at hget
  rw [← hend, ← h.q_eq] at hcopy
  have hparse := parseUnit_eq_ok (by rw [h.p_eq, hscan]) rfl hget hcopy
  rw [htype, hend] at hparse
  by_cases hsps : unitType unit = 7#8
  · rw [if_pos hsps] at hparse
    refine ⟨_, hparse, rfl, rfl, rfl, ?_, ?_⟩
    · rw [lastSPS_concat, if_pos hsps]
    · rw [lastOther_concat, if_pos hsps]
      exact h.mPPS_eq
  · rw [if_neg hsps] at hparse
    refine ⟨_, hparse, rfl, rfl, rfl, ?_, ?_⟩
    · rw [lastSPS_concat, if_neg hsps]
      exact h.mSPS_eq
    · rw [lastOther_concat, if_neg hsps]

/-- A unit that leads out of the array. -/
theorem parseUnit_eq_error {len : ℕ} (hlen : 0 < len) (hpre : s.csd.drop s.p <+: startCode)
    (hshort : (s.csd.drop s.p).length < 4) :
    Probe.parseUnit len s = .error .indexOutOfBounds := by
  obtain ⟨len, rfl⟩ := Nat.exists_eq_succ_of_ne_zero hlen.ne'
  have hno : ¬ startCode <+: s.csd.drop s.p := fun h ↦ absurd h.length_le (Nat.not_le.2 hshort)
  rw [Probe.parseUnit, Probe.scan, startsWith_eq, if_neg hno, if_pos hpre]
  rfl

theorem prefix_startCode_iff (h : bs.length < 4) :
    bs <+: startCode ↔ bs = List.replicate bs.length 0 := by
  have htake : ∀ k < 4, startCode.take k = List.replicate k 0 := by decide
  rw [List.prefix_iff_eq_take, htake _ h]

/-- Where no start code follows, the unit leads out of the array if and only if the array holds
zeros only, and few of them. -/
theorem overruns_iff_of_none (hn : packet.length + (n + 1) = 128)
    (hcsd : csd = packet ++ List.replicate (n + 1) 0) (hcut : cut < packet.length)
    (hnone : behind startCode (packet.drop cut) = none) :
    Overruns cut packet ↔ csd.drop cut <+: startCode ∧ (csd.drop cut).length < 4 := by
  have hdrop : csd.drop cut = packet.drop cut ++ List.replicate (n + 1) 0 := by
    rw [hcsd, List.drop_append_of_le_length hcut.le]
  have hlen : (csd.drop cut).length = 128 - cut := by
    rw [List.length_drop, hcsd, List.length_append, List.length_replicate, hn]
  have hzeros : (∀ b ∈ packet.drop cut, b = 0) ↔
      csd.drop cut = List.replicate (128 - cut) (0 : Byte) := by
    rw [List.eq_replicate_iff, and_iff_right hlen, hdrop]
    simp only [List.mem_append, List.mem_replicate]
    exact ⟨fun h b hb ↦ hb.elim (h b) fun hb ↦ hb.2, fun h b hb ↦ h b (Or.inl hb)⟩
  have hiff : Overruns cut packet ↔ (∀ b ∈ packet.drop cut, b = 0) ∧ 125 ≤ cut := by
    rw [Overruns, pieces_of_none hnone]
    simp only [List.getLast?_singleton, Option.some.injEq, exists_eq_left', List.length_drop]
    exact and_congr_right fun _ ↦ by omega
  rw [hiff, hzeros, hlen, ← hlen]
  constructor
  · rintro ⟨heq, hle⟩
    have hshort : (csd.drop cut).length < 4 := by omega
    exact ⟨(prefix_startCode_iff hshort).2 heq, hshort⟩
  · rintro ⟨hpre, hshort⟩
    exact ⟨(prefix_startCode_iff hshort).1 hpre, by omega⟩

/-- Behind a start code there is something, as the packet does not end with it. -/
theorem ne_nil_of_behind (hends : ¬ startCode <:+ packet)
    (hsome : behind startCode (packet.drop cut) = some rest) : rest ≠ [] := by
  rintro rfl
  have heq := eq_of_behind startCode_ne_nil hsome
  rw [List.append_nil] at heq
  exact hends ((List.suffix_append _ _).trans (heq ▸ List.drop_suffix cut packet))

/-- Where a start code follows, that depends on what is behind it. -/
theorem overruns_iff_of_some (hsome : behind startCode (packet.drop cut) = some rest)
    (hunit : before startCode (packet.drop cut) = unit) :
    packet.drop (cut + unit.length + 4) = rest ∧
      (Overruns cut packet ↔ Overruns (cut + unit.length + 4) packet) := by
  have heq := eq_of_behind startCode_ne_nil hsome
  have hrest : packet.drop (cut + unit.length + 4) = rest := by
    rw [Nat.add_assoc, ← List.drop_drop, heq, hunit, ← List.drop_drop, List.drop_left]
    rfl
  refine ⟨hrest, ?_⟩
  rw [Overruns, Overruns, pieces_of_some hsome, hrest, List.getLast?_cons_of_ne_nil pieces_ne_nil]

theorem parse_of_le {len : ℕ} (h : len ≤ s.p) : Probe.parse len fuel s = .ok s := by
  cases fuel with
  | zero => rfl
  | succ fuel => exact if_neg (Nat.not_lt.2 h)

/-- **The middle loop** keeps the units of the packet from `cut` on, or leads out of the array. -/
theorem Probe.Found.parse (h : s.Found cut units) (hn : packet.length + (n + 1) = 128)
    (hcsd : s.csd = packet ++ List.replicate (n + 1) 0) (hcut : cut < packet.length)
    (hends : ¬ startCode <:+ packet) (hfuel : packet.length ≤ fuel + cut) :
    (Overruns cut packet → Probe.parse packet.length fuel s = .error .indexOutOfBounds) ∧
    (¬ Overruns cut packet → ∃ s', Probe.parse packet.length fuel s = .ok s' ∧ s'.csd = s.csd ∧
      s'.Found (packet.length + 4) (units ++ pieces startCode (packet.drop cut))) := by
  induction fuel generalizing s cut units with
  | zero => omega
  | succ fuel ih =>
    have hp : s.p < packet.length := h.p_eq ▸ hcut
    rw [Probe.parse, if_pos hp]
    rcases hbehind : behind startCode (packet.drop cut) with _ | rest
    · have hiff := overruns_iff_of_none hn hcsd hcut hbehind
      rw [hiff]
      refine ⟨fun hover ↦ ?_, fun hover ↦ ?_⟩
      · rw [← h.p_eq] at hover
        rw [parseUnit_eq_error (Nat.zero_lt_of_lt hcut) hover.1 hover.2]
        rfl
      · have hstart : ¬ s.csd.drop cut <+: startCode ∨ cut + 4 ≤ 128 := by
          refine (not_and_or.1 hover).imp_right fun hlen ↦ ?_
          rw [List.length_drop, hcsd, List.length_append, List.length_replicate] at hlen
          omega
        obtain ⟨s', hs', hcsd', hfound⟩ :=
          h.parseUnit hn hcsd hcut hstart (before_of_none hbehind)
        have hlen : cut + (packet.drop cut).length + 4 = packet.length + 4 := by
          rw [List.length_drop]
          omega
        rw [hlen] at hfound
        have hend : Probe.parse packet.length fuel s' = .ok s' := by
          apply parse_of_le
          rw [hfound.p_eq]
          omega
        rw [pieces_of_none hbehind]
        exact ⟨s', bind_eq_ok.2 ⟨s', hs', hend⟩, hcsd', hfound⟩
    · generalize hunit : before startCode (packet.drop cut) = unit
      obtain ⟨hrest, hiff⟩ := overruns_iff_of_some hbehind hunit
      have hlong : cut + unit.length + 4 < packet.length := by
        by_contra hle
        rw [List.drop_of_length_le (Nat.not_lt.1 hle)] at hrest
        exact ne_nil_of_behind hends hbehind hrest.symm
      obtain ⟨s', hs', hcsd', hfound⟩ := h.parseUnit hn hcsd hcut (Or.inr (by omega)) hunit
      obtain ⟨herror, hok⟩ := ih hfound (hcsd'.trans hcsd) hlong (by omega)
      rw [hiff]
      refine ⟨fun hover ↦ ?_, fun hover ↦ ?_⟩
      · rw [hs']
        exact herror hover
      · obtain ⟨s'', hs'', hcsd'', hfound'⟩ := hok hover
        rw [pieces_of_some hbehind, hunit, ← hrest, ← List.singleton_append,
          ← List.append_assoc]
        exact ⟨s'', bind_eq_ok.2 ⟨s', hs', hs''⟩, hcsd''.trans hcsd', hfound'⟩

end Parse

/-! ### A packet -/

/-- **Between two packets**, the array holds zeros behind the cursors. -/
structure Probe.Ready (s : Probe) (cut : ℕ) (units : List (List Byte)) : Prop
    extends s.Found cut units where
  length_csd : s.csd.length = 128
  zeros : ∀ b ∈ s.csd.drop cut, b = 0

theorem ready_init : Probe.init.Ready 4 [] :=
  ⟨⟨rfl, rfl, rfl, rfl⟩, List.length_replicate,
    fun _ hb ↦ List.eq_of_mem_replicate (List.mem_of_mem_drop hb)⟩

section Packet

variable {packet : List Byte} {units : List (List Byte)} {cut : ℕ} {s : Probe}

/-- A packet is copied over the start of the array, and scanned. -/
theorem handlePacket_eq (hcsd : s.csd.length = 128) (hlt : packet.length < 128)
    (hstart : startCode <+: packet) : Probe.handlePacket packet s =
      Probe.parse packet.length packet.length
        { s with csd := packet ++ s.csd.drop packet.length } := by
  have hcopy : arraycopy packet 0 s.csd 0 packet.length =
      .ok (packet ++ s.csd.drop packet.length) := arraycopy_append packet [] (hlt.le.trans hcsd.ge)
  have hpos : 0 < packet.length := Nat.lt_of_lt_of_le (by decide) hstart.length_le
  have hcompare : startsWith (packet ++ s.csd.drop packet.length) startCode = .ok true := by
    rw [startsWith_eq, if_pos (hstart.trans (List.prefix_append _ _))]
  rw [Probe.handlePacket, if_pos hlt, hcopy]
  change (if 0 < packet.length then _ else _) = _
  rw [if_pos hpos, hcompare]
  rfl

/-- **A packet that is no longer than the cursors** is passed over. -/
theorem Probe.Ready.handlePacket_of_le (h : s.Ready cut units) (hlt : packet.length < 128)
    (hstart : startCode <+: packet) (hle : packet.length ≤ cut) :
    ∃ s', Probe.handlePacket packet s = .ok s' ∧ s'.Ready cut units := by
  rw [handlePacket_eq h.length_csd hlt hstart]
  refine ⟨_, parse_of_le (hle.trans h.p_eq.ge), ⟨h.p_eq, h.q_eq, h.mSPS_eq, h.mPPS_eq⟩, ?_, ?_⟩
  · rw [List.length_append, List.length_drop, h.length_csd]
    omega
  · rw [List.drop_append, List.drop_of_length_le hle, List.nil_append, List.drop_drop,
      Nat.add_sub_cancel' hle]
    exact h.zeros

/-- **A longer packet** is scanned from the cursors on. -/
theorem Probe.Ready.handlePacket_of_lt (h : s.Ready cut units) (hlt : packet.length < 128)
    (hstart : startCode <+: packet) (hends : ¬ startCode <:+ packet) (hcut : cut < packet.length) :
    (Overruns cut packet → Probe.handlePacket packet s = .error .indexOutOfBounds) ∧
    (¬ Overruns cut packet → ∃ s', Probe.handlePacket packet s = .ok s' ∧
      s'.Ready (packet.length + 4) (units ++ pieces startCode (packet.drop cut))) := by
  obtain ⟨n, hn⟩ : ∃ n, packet.length + (n + 1) = 128 := ⟨127 - packet.length, by omega⟩
  have hzeros : s.csd.drop packet.length = List.replicate (n + 1) 0 := by
    rw [List.eq_replicate_iff, List.length_drop, h.length_csd]
    refine ⟨by omega, fun b hb ↦ h.zeros b ?_⟩
    rw [← Nat.add_sub_cancel' hcut.le, ← List.drop_drop] at hb
    exact List.mem_of_mem_drop hb
  have hfound : Probe.Found { s with csd := packet ++ s.csd.drop packet.length } cut units :=
    ⟨h.p_eq, h.q_eq, h.mSPS_eq, h.mPPS_eq⟩
  rw [handlePacket_eq h.length_csd hlt hstart]
  rw [hzeros] at hfound ⊢
  obtain ⟨herror, hok⟩ := hfound.parse hn rfl hcut hends (Nat.le_add_right _ _)
  refine ⟨herror, fun hover ↦ ?_⟩
  obtain ⟨s', hs', hcsd', hfound'⟩ := hok hover
  refine ⟨s', hs', hfound', ?_, ?_⟩
  · rw [hcsd', List.length_append, List.length_replicate, hn]
  · rw [hcsd', List.drop_append, List.drop_of_length_le (by omega), List.nil_append]
    exact fun b hb ↦ List.eq_of_mem_replicate (List.mem_of_mem_drop hb)

end Packet

end DoorIntercom
