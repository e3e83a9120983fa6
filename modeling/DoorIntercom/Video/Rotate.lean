import Mathlib.Algebra.Group.Nat.Even
import Mathlib.Data.List.GetD
import Mathlib.Tactic.Ring
import DoorIntercom.Call.Commands
import DoorIntercom.Lib.JavaArray

/-!
# Rotation of a frame

`rotateNV21Degree90` of `CameraFormat.java`. A frame of width `w` and height `h` is an array with
`w * h` bytes of luma, row by row, and then the chroma of each two by two square as a pair `V U`,
`h / 2` rows of `w` bytes. The loops only assign bytes of the frame to positions of the new array,
so each is the list of its assignments: the luma loop goes through the array from its start, the
chroma loop back from its end.

The positions are those of the rotation (`isRotated`), each one assigned once
(`nodup_rotateMoves`). The size of the new array is computed as `w * h * 3 / 2` in `int` arithmetic:
where `w * h * 3` is no `int`, it is negative.
-/

namespace DoorIntercom

open JavaArray

/-! ### The code -/

/-- The positions that the luma loop reads, in order. -/
def lumaSources (imageWidth imageHeight : ℕ) : List ℕ :=
  (List.range imageWidth).flatMap fun x ↦
    (List.range imageHeight).reverse.map fun y ↦ y * imageWidth + x

/-- The positions that the chroma loop reads, in order; `x` is `imageWidth - 1 - 2 * k`. -/
def chromaSources (imageWidth imageHeight : ℕ) : List ℕ :=
  (List.range (imageWidth / 2)).flatMap fun k ↦
    (List.range (imageHeight / 2)).flatMap fun y ↦
      [imageWidth * imageHeight + y * imageWidth + (imageWidth - 1 - 2 * k),
        imageWidth * imageHeight + y * imageWidth + (imageWidth - 1 - 2 * k - 1)]

/-- The assignments of both loops; the counter `i` goes up from 0 in the first one, and down from
the end of the array in the second one. -/
def rotateMoves (imageWidth imageHeight : ℕ) : List (ℕ × ℕ) :=
  ((lumaSources imageWidth imageHeight).zipIdx.map fun s ↦ (s.2, s.1)) ++
    (chromaSources imageWidth imageHeight).zipIdx.map fun s ↦
      (imageWidth * imageHeight * 3 / 2 - 1 - s.2, s.1)

/-- `rotateNV21Degree90`. -/
def rotateNV21Degree90 (data : List Byte) (imageWidth imageHeight : ℕ) :
    Except Thrown (List Byte) := do
  let yuv ← new 0 ((int (imageWidth * imageHeight * 3 : ℕ)).tdiv 2)
  assign data (rotateMoves imageWidth imageHeight) yuv

/-! ### The assignments -/

section Moves

variable {w h : ℕ}

theorem length_lumaSources : (lumaSources w h).length = w * h := by
  rw [lumaSources, length_flatMap (n := h) (by simp), List.length_range]

theorem length_chromaSources : (chromaSources w h).length = w / 2 * (h / 2 * 2) := by
  rw [chromaSources, length_flatMap (n := h / 2 * 2), List.length_range]
  intro k _
  rw [length_flatMap (n := 2) (by simp), List.length_range]

/-- The luma loop reads column `x` from below. -/
theorem getElem?_lumaSources {x k : ℕ} (hx : x < w) (hk : k < h) :
    (lumaSources w h)[x * h + k]? = some ((h - 1 - k) * w + x) := by
  rw [lumaSources, getElem?_flatMap (by simp) x hk, List.getElem?_range hx, Option.bind_some,
    List.getElem?_map, List.getElem?_reverse (by simpa using hk), List.length_range,
    List.getElem?_range (by omega), Option.map_some]

/-- The chroma loop reads the columns from the last one, each from above, `U` before `V`. -/
theorem getElem?_chromaSources {k y e : ℕ} (hk : k < w / 2) (hy : y < h / 2) (he : e < 2) :
    (chromaSources w h)[k * (h / 2 * 2) + (y * 2 + e)]? =
      some (w * h + y * w + (w - 1 - 2 * k - e)) := by
  have hinner : ∀ k ∈ List.range (w / 2), ((List.range (h / 2)).flatMap fun y ↦
      [w * h + y * w + (w - 1 - 2 * k), w * h + y * w + (w - 1 - 2 * k - 1)]).length =
        h / 2 * 2 := by
    intro k _
    rw [length_flatMap (n := 2) (by simp), List.length_range]
  rw [chromaSources, getElem?_flatMap hinner k (by omega), List.getElem?_range hk,
    Option.bind_some, getElem?_flatMap (by simp) y he, List.getElem?_range hy, Option.bind_some]
  obtain rfl | rfl : e = 0 ∨ e = 1 := by omega
  · rfl
  · rfl

/-- An assignment of the luma loop. -/
theorem mem_rotateMoves_luma {x y : ℕ} (hx : x < w) (hy : y < h) :
    (x * h + (h - 1 - y), y * w + x) ∈ rotateMoves w h := by
  have hsource := getElem?_lumaSources hx (show h - 1 - y < h by omega)
  rw [show h - 1 - (h - 1 - y) = y by omega] at hsource
  apply List.mem_append_left
  exact List.mem_map.2 ⟨(y * w + x, x * h + (h - 1 - y)),
    List.mem_zipIdx_iff_getElem?.2 hsource, rfl⟩

/-- Twice the iterations of the chroma loop that come after column `c`, row `r`. -/
theorem size_sub_iteration {c k r s : ℕ} (hw : w = 2 * (c + 1 + k)) (hh : h = 2 * (r + 1 + s))
    {e : ℕ} (he : e < 2) :
    w * h * 3 / 2 - 1 - (k * (h / 2 * 2) + (r * 2 + e)) =
      w * h + c * h + 2 * s + (1 - e) := by
  have hmul : w * h = 4 * (c * (r + 1 + s) + (r + 1 + s) + k * (r + 1 + s)) := by
    rw [hw, hh]
    ring
  have hcol : c * h = 2 * (c * (r + 1 + s)) := by
    rw [hh]
    ring
  have hiter : k * (h / 2 * 2) = 2 * (k * (r + 1 + s)) := by
    rw [hh, Nat.mul_div_cancel_left _ two_pos]
    ring
  omega

/-- An assignment of the chroma loop. -/
theorem mem_rotateMoves_chroma (hw : Even w) (hh : Even h) {r c b : ℕ} (hr : r < h / 2)
    (hc : c < w / 2) (hb : b < 2) :
    (w * h + c * h + 2 * (h / 2 - 1 - r) + b, w * h + r * w + 2 * c + b) ∈ rotateMoves w h := by
  rw [Nat.even_iff] at hw hh
  have hsource := getElem?_chromaSources (show w / 2 - 1 - c < w / 2 by omega) hr
    (show 1 - b < 2 by omega)
  have hcol : w - 1 - 2 * (w / 2 - 1 - c) - (1 - b) = 2 * c + b := by omega
  rw [hcol] at hsource
  have hdest := size_sub_iteration (k := w / 2 - 1 - c) (c := c) (r := r) (s := h / 2 - 1 - r)
    (show w = _ by omega) (show h = _ by omega) (show 1 - b < 2 by omega)
  apply List.mem_append_right
  refine List.mem_map.2 ⟨(w * h + r * w + (2 * c + b), _),
    List.mem_zipIdx_iff_getElem?.2 hsource, ?_⟩
  rw [hdest, show 1 - (1 - b) = b by omega, Nat.add_assoc (w * h + r * w)]

theorem frameSize_eq (hw : Even w) (h : ℕ) : w * h * 3 / 2 = w * h + w / 2 * h := by
  obtain ⟨p, rfl⟩ := hw.two_dvd
  have hmul : 2 * p * h = 2 * (p * h) := Nat.mul_assoc 2 p h
  rw [Nat.mul_div_cancel_left _ two_pos]
  omega

theorem half_mul_eq (hw : Even w) (hh : Even h) : w / 2 * h = h / 2 * w := by
  obtain ⟨p, rfl⟩ := hw.two_dvd
  obtain ⟨q, rfl⟩ := hh.two_dvd
  rw [Nat.mul_div_cancel_left _ two_pos, Nat.mul_div_cancel_left _ two_pos]
  ring

theorem map_fst_rotateMoves (hh : Even h) : (rotateMoves w h).map Prod.fst =
    List.range (w * h) ++ (List.range (w / 2 * h)).map fun n ↦ w * h * 3 / 2 - 1 - n := by
  have hchroma : w / 2 * (h / 2 * 2) = w / 2 * h := by rw [Nat.div_mul_cancel hh.two_dvd]
  have hzip : ∀ (sources : List ℕ) (f : ℕ → ℕ),
      (sources.zipIdx.map fun s ↦ (f s.2, s.1)).map Prod.fst =
        (List.range sources.length).map f := by
    intro sources f
    rw [List.range_eq_range', ← List.zipIdx_map_snd, List.map_map, List.map_map]
    rfl
  have hluma := hzip (lumaSources w h) fun n ↦ n
  rw [rotateMoves, List.map_append, hluma, hzip _ fun n ↦ w * h * 3 / 2 - 1 - n,
    List.map_id', length_lumaSources, length_chromaSources, hchroma]

/-- **Every position is assigned, and none twice.** -/
theorem nodup_rotateMoves (hw : Even w) (hh : Even h) :
    ((rotateMoves w h).map Prod.fst).Nodup := by
  have hsize := frameSize_eq hw h
  rw [map_fst_rotateMoves hh, List.nodup_append]
  refine ⟨List.nodup_range, List.Nodup.map_on ?_ List.nodup_range, ?_⟩
  · intro n hn n' hn' heq
    rw [List.mem_range] at hn hn'
    omega
  · intro i hi j hj
    obtain ⟨n, hn, rfl⟩ := List.mem_map.1 hj
    rw [List.mem_range] at hi hn
    omega

theorem mem_map_fst_rotateMoves (hw : Even w) (hh : Even h) {i : ℕ} :
    i ∈ (rotateMoves w h).map Prod.fst ↔ i < w * h * 3 / 2 := by
  have hsize := frameSize_eq hw h
  rw [map_fst_rotateMoves hh, List.mem_append, List.mem_range, List.mem_map]
  constructor
  · rintro (hi | ⟨n, hn, rfl⟩)
    · omega
    · rw [List.mem_range] at hn
      omega
  · intro hi
    by_cases hluma : i < w * h
    · exact Or.inl hluma
    · exact Or.inr ⟨w * h * 3 / 2 - 1 - i, List.mem_range.2 (by omega), by omega⟩

/-- The loops read the frame only. -/
theorem snd_lt_of_mem_rotateMoves (hw : Even w) (hh : Even h) {move : ℕ × ℕ}
    (hmove : move ∈ rotateMoves w h) : move.2 < w * h * 3 / 2 := by
  have hsize := frameSize_eq hw h
  have hhalf := half_mul_eq hw hh
  rcases List.mem_append.1 hmove with hluma | hchroma
  · obtain ⟨⟨source, i⟩, hmem, rfl⟩ := List.mem_map.1 hluma
    have hsource := List.mem_of_getElem? (List.mem_zipIdx_iff_getElem?.1 hmem)
    simp only [lumaSources, List.mem_flatMap, List.mem_map, List.mem_reverse,
      List.mem_range] at hsource
    obtain ⟨x, hx, y, hy, rfl⟩ := hsource
    have hrow : (y + 1) * w ≤ h * w := Nat.mul_le_mul_right w hy
    rw [Nat.succ_mul, Nat.mul_comm h w] at hrow
    show y * w + x < _
    omega
  · obtain ⟨⟨source, i⟩, hmem, rfl⟩ := List.mem_map.1 hchroma
    have hsource := List.mem_of_getElem? (List.mem_zipIdx_iff_getElem?.1 hmem)
    simp only [chromaSources, List.mem_flatMap, List.mem_range, List.mem_cons,
      List.not_mem_nil, or_false] at hsource
    obtain ⟨k, hk, y, hy, hsource⟩ := hsource
    have hrow : (y + 1) * w ≤ h / 2 * w := Nat.mul_le_mul_right w hy
    rw [Nat.succ_mul] at hrow
    show source < _
    omega

end Moves

/-! ### The rotation -/

/-- A frame of width `w` and height `h`, and its clockwise rotation, of width `h` and height `w`:
row `y` of the luma becomes column `h - 1 - y`, and so for the pairs of the chroma. -/
structure IsRotated (w h : ℕ) (frame rotated : List Byte) : Prop where
  length_eq : rotated.length = w * h * 3 / 2
  luma : ∀ x < w, ∀ y < h, rotated[x * h + (h - 1 - y)]? = frame[y * w + x]?
  chroma : ∀ r < h / 2, ∀ c < w / 2, ∀ b < 2,
    rotated[w * h + c * h + 2 * (h / 2 - 1 - r) + b]? = frame[w * h + r * w + 2 * c + b]?

section Rotation

variable {w h : ℕ} {data yuv : List Byte}

/-- **The code rotates**, if the size of the new array is an `int`. -/
theorem isRotated (hw : Even w) (hh : Even h) (hlen : w * h * 3 / 2 ≤ data.length)
    (hint : w * h * 3 < 2 ^ 31) :
    ∃ yuv, rotateNV21Degree90 data w h = .ok yuv ∧ IsRotated w h data yuv := by
  have hnew : rotateNV21Degree90 data w h =
      assign data (rotateMoves w h) (List.replicate (w * h * 3 / 2) 0) := by
    rw [rotateNV21Degree90, int_tdiv_two hint, new_natCast]
    rfl
  have hbounds : ∀ move ∈ rotateMoves w h,
      move.1 < (List.replicate (w * h * 3 / 2) (0 : Byte)).length ∧ move.2 < data.length := by
    intro move hmove
    have hdest := (mem_map_fst_rotateMoves hw hh).1 (List.mem_map_of_mem hmove)
    have hsource := snd_lt_of_mem_rotateMoves hw hh hmove
    rw [List.length_replicate]
    exact ⟨hdest, by omega⟩
  obtain ⟨yuv, hyuv⟩ := assign_isOk_iff.2 hbounds
  have hget : ∀ {i j : ℕ}, (i, j) ∈ rotateMoves w h → yuv[i]? = data[j]? := by
    intro i j hmem
    rw [getElem?_assign hyuv, lastSource_of_nodup (nodup_rotateMoves hw hh) hmem,
      Option.elim_some]
  refine ⟨yuv, hnew.trans hyuv, ?_, ?_, ?_⟩
  · rw [length_assign hyuv, List.length_replicate]
  · exact fun x hx y hy ↦ hget (mem_rotateMoves_luma hx hy)
  · exact fun r hr c hc b hb ↦ hget (mem_rotateMoves_chroma hw hh hr hc hb)

/-- Otherwise there is no such array. -/
theorem rotateNV21Degree90_eq_error (hw : Even w) (hint : 2 ^ 31 ≤ w * h * 3)
    (hlen : w * h * 3 / 2 < 2 ^ 31) :
    rotateNV21Degree90 data w h = .error .negativeArraySize := by
  have heven : w * h * 3 ≠ 2 ^ 32 - 1 := by
    obtain ⟨p, rfl⟩ := hw.two_dvd
    rw [Nat.mul_assoc, Nat.mul_assoc]
    omega
  rw [rotateNV21Degree90, new_of_neg _ (int_tdiv_two_neg hint (by omega))]
  rfl

section FourTimes

variable {a b c d e : List Byte} (hab : IsRotated w h a b) (hbc : IsRotated h w b c)
  (hcd : IsRotated w h c d) (hde : IsRotated h w d e)
include hab hbc hcd hde

theorem IsRotated.luma_four {x y : ℕ} (hx : x < w) (hy : y < h) :
    e[y * w + x]? = a[y * w + x]? := by
  have he := hde.luma y hy (w - 1 - x) (by omega)
  have hd := hcd.luma (w - 1 - x) (by omega) (h - 1 - y) (by omega)
  have hc := hbc.luma (h - 1 - y) (by omega) x hx
  have hb := hab.luma x hx y hy
  rw [show w - 1 - (w - 1 - x) = x by omega] at he
  rw [show h - 1 - (h - 1 - y) = y by omega] at hd
  rw [he, hd, hc, hb]

theorem IsRotated.chroma_four {x y k : ℕ} (hx : x < w / 2) (hy : y < h / 2) (hk : k < 2) :
    e[w * h + y * w + 2 * x + k]? = a[w * h + y * w + 2 * x + k]? := by
  have he := hde.chroma (w / 2 - 1 - x) (by omega) y hy k hk
  have hd := hcd.chroma (h / 2 - 1 - y) (by omega) (w / 2 - 1 - x) (by omega) k hk
  have hc := hbc.chroma x hx (h / 2 - 1 - y) (by omega) k hk
  have hb := hab.chroma y hy x hx k hk
  rw [show w / 2 - 1 - (w / 2 - 1 - x) = x by omega, Nat.mul_comm h w] at he
  rw [show h / 2 - 1 - (h / 2 - 1 - y) = y by omega] at hd
  rw [Nat.mul_comm h w] at hc
  rw [he, hd, hc, hb]

/-- **Four rotations** give the frame back. -/
theorem IsRotated.four (hw : Even w) (hh : Even h) (hlen : w * h * 3 / 2 ≤ a.length) :
    e = a.take (w * h * 3 / 2) := by
  have hsize := frameSize_eq hw h
  have hhalf := half_mul_eq hw hh
  have helen : e.length = w * h * 3 / 2 := by rw [hde.length_eq, Nat.mul_comm h w]
  apply List.ext_getElem?
  intro i
  by_cases hi : i < w * h * 3 / 2
  · rw [List.getElem?_take_of_lt hi]
    by_cases hluma : i < w * h
    · have hpos : 0 < w := Nat.pos_of_mul_pos_right (show 0 < w * h by omega)
      have hrow : i / w < h := Nat.div_lt_of_lt_mul hluma
      have h4 := IsRotated.luma_four hab hbc hcd hde (Nat.mod_lt i hpos) hrow
      rwa [Nat.div_add_mod'] at h4
    · have hchroma : i - w * h < w * (h / 2) := by
        rw [Nat.mul_comm w (h / 2)]
        omega
      have hpos : 0 < w := Nat.pos_of_mul_pos_right (show 0 < w * (h / 2) by omega)
      have hrow : (i - w * h) / w < h / 2 := Nat.div_lt_of_lt_mul hchroma
      have hcol : (i - w * h) % w < w := Nat.mod_lt _ hpos
      have hw2 := Nat.even_iff.1 hw
      have h4 := IsRotated.chroma_four hab hbc hcd hde
        (show (i - w * h) % w / 2 < w / 2 by omega) hrow
        (Nat.mod_lt ((i - w * h) % w) two_pos)
      have hpair := Nat.div_add_mod ((i - w * h) % w) 2
      have hrows := Nat.div_add_mod' (i - w * h) w
      rwa [show w * h + (i - w * h) / w * w + 2 * ((i - w * h) % w / 2) + (i - w * h) % w % 2 = i
        by omega] at h4
  · rw [List.getElem?_eq_none (by omega), List.getElem?_eq_none (by rw [List.length_take]; omega)]

end FourTimes

/-- The new array is assigned as the rotation says, every position once, and four rotations give
back the frame. -/
def RotatesClockwise (data : List Byte) (w h : ℕ) : Prop :=
  (∀ i < w * h * 3 / 2, ((rotateMoves w h).map Prod.fst).count i = 1) ∧
    ∃ once twice thrice, rotateNV21Degree90 data w h = .ok once ∧ IsRotated w h data once ∧
      rotateNV21Degree90 once h w = .ok twice ∧ rotateNV21Degree90 twice w h = .ok thrice ∧
      rotateNV21Degree90 thrice h w = .ok (data.take (w * h * 3 / 2))

/-- **A frame is rotated** if and only if the product `w * h * 3` is an `int`. -/
theorem rotatesClockwise_iff (data : List Byte) (w h : ℕ) (hw : Even w) (hh : Even h)
    (hlen : w * h * 3 / 2 ≤ data.length) (hdata : data.length < 2 ^ 31) :
    RotatesClockwise data w h ↔ w * h * 3 < 2 ^ 31 := by
  constructor
  · rintro ⟨-, once, -, -, honce, -⟩
    by_contra hint
    rw [rotateNV21Degree90_eq_error hw (Nat.not_lt.1 hint) (by omega)] at honce
    cases honce
  · intro hint
    have hint' : h * w * 3 < 2 ^ 31 := by rwa [Nat.mul_comm h w]
    have hswap : h * w * 3 / 2 = w * h * 3 / 2 := by rw [Nat.mul_comm h w]
    obtain ⟨once, honce, hab⟩ := isRotated hw hh hlen hint
    obtain ⟨twice, htwice, hbc⟩ := isRotated hh hw (hab.length_eq.trans hswap.symm).ge hint'
    obtain ⟨thrice, hthrice, hcd⟩ := isRotated hw hh (hbc.length_eq.trans hswap).ge hint
    obtain ⟨last, hlast, hde⟩ := isRotated hh hw (hcd.length_eq.trans hswap.symm).ge hint'
    have hfour := IsRotated.four hab hbc hcd hde hw hh hlen
    rw [hfour] at hlast
    refine ⟨fun i hi ↦ ?_, once, twice, thrice, honce, hab, htwice, hthrice, hlast⟩
    exact List.count_eq_one_of_mem (nodup_rotateMoves hw hh) ((mem_map_fst_rotateMoves hw hh).2 hi)

end Rotation

theorem rotatesClockwise_two_two :
    RotatesClockwise [0x01#8, 0x02#8, 0x03#8, 0x04#8, 0x05#8, 0x06#8] 2 2 :=
  (rotatesClockwise_iff _ 2 2 (by decide) (by decide) (by decide) (by decide)).2 (by decide)

/-- **A frame of 32768 by 21846**: three times the product is over `2 ^ 31`, and there is no new
array. -/
theorem not_rotatesClockwise_large : (List.replicate 1073774592 0x00#8).length < 2 ^ 31 ∧
    32768 * 21846 * 3 / 2 ≤ (List.replicate 1073774592 0x00#8).length ∧
      ¬ RotatesClockwise (List.replicate 1073774592 0x00#8) 32768 21846 := by
  rw [List.length_replicate]
  refine ⟨by decide, by decide, ?_⟩
  rintro ⟨-, once, -, -, honce, -⟩
  rw [rotateNV21Degree90_eq_error (by decide) (by decide) (by decide)] at honce
  cases honce

end DoorIntercom
