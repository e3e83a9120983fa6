import DoorIntercom.Call.Keypad
import DoorIntercom.Lib.Decimal
import DoorIntercom.Video.Nv21Convertor
import DoorIntercom.Video.ProbeLoop

/-!
# The tests of the encoders and their results

`EncoderDebugger.debug` looks for an encoder that works with a resolution. What a successful test
has found is saved in the shared preferences, under keys that contain the resolution, and restored
the next time, unless the SDK of the phone or the version of the test has become newer.

The preferences are one flat map for all resolutions, and a failed test leaves most of an earlier
result there. `debugAll_eq_cacheAll` says what they are for: as long as the SDK of the phone does
not become older, any sequence of calls has the results of a cache that keeps the last successful
test of each resolution. In particular, the failure of a test is never restored.
-/

namespace DoorIntercom

open JavaArray

/-! ### The code -/

/-- The value of a preference. -/
inductive Pref
  | boolean (b : Bool)
  | int (n : ℕ)
  | string (s : Text)
  deriving DecidableEq

/-- `SharedPreferences`. -/
abbrev Preferences := Text → Option Pref

/-- How `debug` throws. -/
inductive DebugError
  /-- `Phone not supported with this resolution`. -/
  | notSupported
  /-- `No usable encoder were found on the phone for resolution`. -/
  | noEncoder
  /-- A preference has another type. -/
  | classCast
  | thrown (e : Thrown)
  deriving DecidableEq

namespace Preferences

def getBoolean (prefs : Preferences) (key : Text) (defValue : Bool) : Except DebugError Bool :=
  match prefs key with
  | none => .ok defValue
  | some (.boolean b) => .ok b
  | some _ => .error .classCast

def getInt (prefs : Preferences) (key : Text) (defValue : ℕ) : Except DebugError ℕ :=
  match prefs key with
  | none => .ok defValue
  | some (.int n) => .ok n
  | some _ => .error .classCast

def getString (prefs : Preferences) (key : Text) (defValue : Text) : Except DebugError Text :=
  match prefs key with
  | none => .ok defValue
  | some (.string s) => .ok s
  | some _ => .error .classCast

end Preferences

/-- `mWidth` and `mHeight`, with `mSize = mWidth * mHeight` in `int`. -/
structure Resolution where
  width : ℕ
  height : ℕ
  fits : width * height < 2 ^ 31
  deriving DecidableEq

/-- `CodecManager.Codec`. Where there is no encoder, the list has one without a name. -/
structure Codec where
  name : Option Text
  formats : List ℕ

/-- What `debug` finds on the phone: `SDK_INT`, the encoders, and what an encoder puts out when it
is configured for a size and a color format and fed with the test image, if it can be. What comes
without bytes, such as `INFO_OUTPUT_FORMAT_CHANGED`, and the time limit are in this result: the
packets are those of the output buffers up to the end of the test. `base64` is
`Base64.encodeToString`. -/
structure Encoders where
  sdkInt : ℕ
  codecs : List Codec
  output : Resolution → Text → ℕ → List Byte → Option (List (List Byte))
  base64 : List Byte → Text

namespace NV21Convertor

/-- `new NV21Convertor()`. -/
def fresh : NV21Convertor := ⟨0, 0, 0, 0, false, false, 0, none⟩

def setSize (c : NV21Convertor) (width height : ℕ) : NV21Convertor :=
  { c with mHeight := height, mWidth := width, mSliceHeight := height, mStride := width }

/-- `setEncoderColorFormat`: the formats of `MediaCodecInfo.CodecCapabilities` by their values,
first the three semiplanar ones. -/
def setEncoderColorFormat (c : NV21Convertor) (colorFormat : ℕ) : NV21Convertor :=
  if colorFormat = 21 ∨ colorFormat = 39 ∨ colorFormat = 0x7f000100 then
    { c with mPlanar := false }
  else if colorFormat = 19 ∨ colorFormat = 20 then { c with mPlanar := true }
  else c

end NV21Convertor

deriving instance DecidableEq for NV21Convertor

/-- The fields of an `EncoderDebugger` that its callers read. -/
structure EncoderDebugger where
  mEncoderColorFormat : ℕ
  mEncoderName : Text
  mNV21 : NV21Convertor
  mB64PPS : Text
  mB64SPS : Text
  deriving DecidableEq

namespace EncoderDebugger

def VERSION : ℕ := 3

/-- `PREF_PREFIX + resolution + name`. -/
def key (r : Resolution) (name : String) : Text :=
  "libstreaming-".toList ++
    (Nat.toDigits 10 r.width ++ 'x' :: (Nat.toDigits 10 r.height ++ '-' :: name.toList))

def checkTestNeeded (prefs : Preferences) (sdkInt : ℕ) (r : Resolution) :
    Except DebugError Bool :=
  if (prefs (key r "lastSdk")).isSome then do
    let lastSdk ← prefs.getInt (key r "lastSdk") 0
    let lastVersion ← prefs.getInt (key r "lastVersion") 0
    return decide (lastSdk < sdkInt ∨ lastVersion < VERSION)
  else return true

/-- What is put into the preferences after a success. -/
def entries (sdkInt : ℕ) (d : EncoderDebugger) : List (String × Pref) :=
  [("lastSdk", .int sdkInt), ("lastVersion", .int VERSION),
    ("sliceHeight", .int d.mNV21.mSliceHeight), ("stride", .int d.mNV21.mStride),
    ("padding", .int d.mNV21.mYPadding), ("planar", .boolean d.mNV21.mPlanar),
    ("reversed", .boolean d.mNV21.mPanesReversed), ("encoderName", .string d.mEncoderName),
    ("colorFormat", .int d.mEncoderColorFormat), ("encoderName", .string d.mEncoderName),
    ("pps", .string d.mB64PPS), ("sps", .string d.mB64SPS)]

/-- The `put` calls of an editor. -/
def putAll (prefs : Preferences) (r : Resolution) (entries : List (String × Pref)) : Preferences :=
  entries.foldl (fun prefs e ↦ Function.update prefs (key r e.1) (some e.2)) prefs

/-- `saveTestResult`; there is an object to be saved if the test was a success. -/
def saveTestResult (prefs : Preferences) (sdkInt : ℕ) (r : Resolution)
    (success : Option EncoderDebugger) : Preferences :=
  putAll prefs r (("success", .boolean success.isSome) :: success.elim [] (entries sdkInt))

/-- The first part of `debug`: the result is restored. -/
def restore (prefs : Preferences) (r : Resolution) : Except DebugError EncoderDebugger := do
  let success ← prefs.getBoolean (key r "success") false
  if success then
    let mNV21 := NV21Convertor.fresh.setSize r.width r.height
    let sliceHeight ← prefs.getInt (key r "sliceHeight") 0
    let stride ← prefs.getInt (key r "stride") 0
    let padding ← prefs.getInt (key r "padding") 0
    let planar ← prefs.getBoolean (key r "planar") false
    let reversed ← prefs.getBoolean (key r "reversed") false
    let encoderName ← prefs.getString (key r "encoderName") []
    let colorFormat ← prefs.getInt (key r "colorFormat") 0
    let pps ← prefs.getString (key r "pps") []
    let sps ← prefs.getString (key r "sps") []
    return {
      mEncoderColorFormat := colorFormat
      mEncoderName := encoderName
      mNV21 := { mNV21 with
        mSliceHeight := sliceHeight
        mStride := stride
        mYPadding := padding
        mPlanar := planar
        mPanesReversed := reversed }
      mB64PPS := pps
      mB64SPS := sps }
  else .error .notSupported

/-- `createTestImage`: the luma, and then the pairs. -/
def createTestImage (r : Resolution) : Except Thrown (List Byte) := do
  let mSize := r.width * r.height
  let size := (int (3 * mSize : ℕ)).tdiv 2
  let mInitialImage ← new 0 size
  let mInitialImage ← (List.range mSize).foldlM
    (fun mInitialImage i ↦ put mInitialImage i (BitVec.ofNat 8 (40 + i % 199))) mInitialImage
  (List.range ((size.toNat - mSize + 1) / 2)).foldlM
    (fun mInitialImage k ↦ do
      let i := mSize + 2 * k
      let mInitialImage ← put mInitialImage i (BitVec.ofNat 8 (40 + i % 200))
      put mInitialImage (i + 1) (BitVec.ofNat 8 (40 + (i + 99) % 200))) mInitialImage

/-- The convertor for a test. -/
def testConvertor (r : Resolution) (colorFormat : ℕ) : NV21Convertor :=
  { NV21Convertor.fresh.setSize r.width r.height with
    mSliceHeight := r.height
    mStride := r.width
    mYPadding := 0 }.setEncoderColorFormat colorFormat

/-- The end of a test: the parameter sets that have been found in what the encoder puts out. -/
def finishTest (base64 : List Byte → Text) (name : Text) (colorFormat : ℕ)
    (mNV21 : NV21Convertor) : Except Thrown Probe → Option EncoderDebugger
  | .ok ⟨_, _, _, some mSPS, some mPPS⟩ => some ⟨colorFormat, name, mNV21, base64 mPPS, base64 mSPS⟩
  | _ => none

/-- `configureEncoder` and `searchSPSandPPS`; every exception is caught. -/
def testEncoder (p : Encoders) (r : Resolution) (name : Option Text) (colorFormat : ℕ)
    (mNV21 : NV21Convertor) (mData : List Byte) : Option EncoderDebugger :=
  name.bind fun name ↦ (p.output r name colorFormat mData).bind fun packets ↦
    finishTest p.base64 name colorFormat mNV21 (Probe.searchSPSandPPS packets .init)

/-- The body of the loops: the first lines are outside the `try` block. -/
def tryEncoder (p : Encoders) (r : Resolution) (name : Option Text) (colorFormat : ℕ) :
    Except Thrown (Option EncoderDebugger) := do
  let mNV21 := testConvertor r colorFormat
  let mInitialImage ← createTestImage r
  let converted ← mNV21.convert mInitialImage
  return testEncoder p r name colorFormat { mNV21 with mBuffer := some converted.mBuffer }
    converted.result

/-- The loops over the encoders and their color formats. -/
def tryEncoders (p : Encoders) (r : Resolution) :
    List (Option Text × ℕ) → Except Thrown (Option EncoderDebugger)
  | [] => .ok none
  | (name, colorFormat) :: rest => do
    match ← tryEncoder p r name colorFormat with
    | some d => return some d
    | none => tryEncoders p r rest

/-- The encoders and their color formats, in the order of the loops. -/
def pairs (p : Encoders) : List (Option Text × ℕ) :=
  p.codecs.flatMap fun codec ↦ codec.formats.map fun format ↦ (codec.name, format)

/-- The second part of `debug`. -/
def finish (prefs : Preferences) (sdkInt : ℕ) (r : Resolution) :
    Except Thrown (Option EncoderDebugger) → Preferences × Except DebugError EncoderDebugger
  | .ok (some d) => (saveTestResult prefs sdkInt r (some d), .ok d)
  | .ok none => (saveTestResult prefs sdkInt r none, .error .noEncoder)
  | .error e => (prefs, .error (.thrown e))

/-- `debug`. -/
def debug (prefs : Preferences) (p : Encoders) (r : Resolution) :
    Preferences × Except DebugError EncoderDebugger :=
  match checkTestNeeded prefs p.sdkInt r with
  | .ok true => finish prefs p.sdkInt r (tryEncoders p r (pairs p))
  | .ok false => (prefs, restore prefs r)
  | .error e => (prefs, .error e)

/-- The results of a sequence of calls, with the phone as it is at each of them. -/
def debugAll : Preferences → List (Encoders × Resolution) →
    List (Except DebugError EncoderDebugger)
  | _, [] => []
  | prefs, (p, r) :: calls => (debug prefs p r).2 :: debugAll (debug prefs p r).1 calls

end EncoderDebugger

/-! ### What the preferences are for -/

/-- The last successful test of each resolution, with the SDK at that time. -/
abbrev TestCache := Resolution → Option (ℕ × EncoderDebugger)

namespace TestCache

open EncoderDebugger

/-- A result as it is restored: the convertor has no buffer yet. -/
def restored (d : EncoderDebugger) : EncoderDebugger :=
  { d with mNV21 := { d.mNV21 with mBuffer := none } }

/-- The result of a test, which is kept if it is a success. -/
def keep (cache : TestCache) (sdkInt : ℕ) (r : Resolution) :
    Except Thrown (Option EncoderDebugger) → TestCache × Except DebugError EncoderDebugger
  | .ok (some d) => (Function.update cache r (some (sdkInt, d)), .ok d)
  | .ok none => (cache, .error .noEncoder)
  | .error e => (cache, .error (.thrown e))

/-- A call: a test, if there has been no success that is new enough. -/
def debug (cache : TestCache) (p : Encoders) (r : Resolution) :
    TestCache × Except DebugError EncoderDebugger :=
  match cache r with
  | some (sdkInt, d) =>
    if p.sdkInt ≤ sdkInt then (cache, .ok (restored d))
    else keep cache p.sdkInt r (tryEncoders p r (pairs p))
  | none => keep cache p.sdkInt r (tryEncoders p r (pairs p))

def debugAll : TestCache → List (Encoders × Resolution) → List (Except DebugError EncoderDebugger)
  | _, [] => []
  | cache, (p, r) :: calls => (debug cache p r).2 :: debugAll (debug cache p r).1 calls

end TestCache

/-! ### Keys -/

namespace EncoderDebugger

/-- **A key determines the resolution and the name.** -/
theorem key_injective {r r' : Resolution} {name name' : String}
    (h : key r name = key r' name') : r = r' ∧ name = name' := by
  obtain ⟨hwidth, h⟩ := Decimal.eq_of_append_cons (Decimal.not_mem_toDigits (by decide))
    (Decimal.not_mem_toDigits (by decide)) (List.append_cancel_left h)
  obtain ⟨hheight, hname⟩ := Decimal.eq_of_append_cons (Decimal.not_mem_toDigits (by decide))
    (Decimal.not_mem_toDigits (by decide)) h
  have hw := Decimal.toDigits_injective hwidth
  have hh := Decimal.toDigits_injective hheight
  cases r
  cases r'
  exact ⟨by simp_all, String.toList_injective hname⟩

section PutAll

variable {prefs : Preferences} {r r' : Resolution} {name : String} {v : Pref}
  {es : List (String × Pref)}

/-- The entries of other resolutions and of other names stay. -/
theorem putAll_of_ne (h : ∀ e ∈ es, r' = r → name ≠ e.1) :
    putAll prefs r es (key r' name) = prefs (key r' name) := by
  induction es generalizing prefs with
  | nil => rfl
  | cons e es ih =>
    show putAll (Function.update prefs (key r e.1) (some e.2)) r es (key r' name) = _
    rw [ih fun e he ↦ h e (List.mem_cons_of_mem _ he)]
    refine Function.update_of_ne (fun heq ↦ ?_) ..
    obtain ⟨hr, hname⟩ := key_injective heq
    exact h e List.mem_cons_self hr hname

/-- An entry that is put is there, if no other value is put under its name. -/
theorem putAll_of_mem (h : (name, v) ∈ es) (heq : ∀ e ∈ es, e.1 = name → e.2 = v) :
    putAll prefs r es (key r name) = some v := by
  induction es generalizing prefs with
  | nil => exact absurd h List.not_mem_nil
  | cons e es ih =>
    show putAll (Function.update prefs (key r e.1) (some e.2)) r es (key r name) = _
    by_cases hmem : (name, v) ∈ es
    · exact ih hmem fun e he ↦ heq e (List.mem_cons_of_mem _ he)
    · obtain rfl := (List.mem_cons.1 h).resolve_right hmem
      rw [putAll_of_ne fun e he _ hname ↦ ?_, Function.update_self]
      have hv := heq e (List.mem_cons_of_mem _ he) hname.symm
      exact hmem (by rw [hname, ← hv]; exact he)

end PutAll

/-! ### What is saved -/

/-- What a success has put into the preferences. -/
def Saved (prefs : Preferences) (r : Resolution) (sdkInt : ℕ) (d : EncoderDebugger) : Prop :=
  ∀ e ∈ entries sdkInt d, prefs (key r e.1) = some e.2

/-- The convertor is for the resolution. -/
def ForSize (r : Resolution) (d : EncoderDebugger) : Prop :=
  d.mNV21.mWidth = r.width ∧ d.mNV21.mHeight = r.height

section Saved

variable {prefs : Preferences} {r r' : Resolution} {sdkInt sdkInt' : ℕ} {d d' : EncoderDebugger}

theorem entries_functional (sdkInt : ℕ) (d : EncoderDebugger) :
    ∀ e ∈ entries sdkInt d, ∀ e' ∈ entries sdkInt d, e.1 = e'.1 → e.2 = e'.2 := by
  simp [entries]

theorem success_not_mem (sdkInt : ℕ) (d : EncoderDebugger) :
    ∀ e ∈ entries sdkInt d, e.1 ≠ "success" := by
  simp [entries]

/-- A success is saved. -/
theorem saved_saveTestResult (prefs : Preferences) (sdkInt : ℕ) (r : Resolution)
    (d : EncoderDebugger) : Saved (saveTestResult prefs sdkInt r (some d)) r sdkInt d := by
  intro e he
  refine putAll_of_mem (List.mem_cons_of_mem _ he) fun e' he' heq ↦ ?_
  rcases List.mem_cons.1 he' with rfl | he'
  · exact absurd heq.symm (success_not_mem sdkInt d e he)
  · exact entries_functional sdkInt d e' he' e he heq

/-- Whether the last test was a success. -/
theorem saveTestResult_success (prefs : Preferences) (sdkInt : ℕ) (r : Resolution)
    (success : Option EncoderDebugger) :
    saveTestResult prefs sdkInt r success (key r "success") =
      some (.boolean success.isSome) := by
  refine putAll_of_mem List.mem_cons_self fun e he hname ↦ ?_
  rcases List.mem_cons.1 he with rfl | he
  · rfl
  · cases success with
    | none => exact absurd he List.not_mem_nil
    | some d => exact absurd hname (success_not_mem sdkInt d e he)

/-- **Other resolutions** are left alone. -/
theorem saveTestResult_of_ne (h : r' ≠ r) (success : Option EncoderDebugger) (name : String) :
    saveTestResult prefs sdkInt r success (key r' name) = prefs (key r' name) :=
  putAll_of_ne fun _ _ hr ↦ absurd hr h

/-- A failure leaves all but `success` alone. -/
theorem saveTestResult_none {name : String} (h : name ≠ "success") :
    saveTestResult prefs sdkInt r none (key r' name) = prefs (key r' name) :=
  putAll_of_ne fun e he _ ↦ by rwa [List.mem_singleton.1 he]

theorem Saved.of_ne (h : Saved prefs r' sdkInt' d') (hr : r' ≠ r)
    (success : Option EncoderDebugger) :
    Saved (saveTestResult prefs sdkInt r success) r' sdkInt' d' :=
  fun e he ↦ (saveTestResult_of_ne hr success e.1).trans (h e he)

/-- What a success has saved outlives a failure. -/
theorem Saved.of_failure (h : Saved prefs r' sdkInt' d') :
    Saved (saveTestResult prefs sdkInt r none) r' sdkInt' d' := fun e he ↦
  (saveTestResult_none (success_not_mem sdkInt' d' e he)).trans (h e he)

theorem Saved.get (h : Saved prefs r sdkInt d) (name : String) (v : Pref)
    (hmem : (name, v) ∈ entries sdkInt d) : prefs (key r name) = some v := h (name, v) hmem

/-- The test is needed if the SDK has become newer. -/
theorem Saved.checkTestNeeded (h : Saved prefs r sdkInt d) (sdkInt' : ℕ) :
    checkTestNeeded prefs sdkInt' r = .ok (decide (sdkInt < sdkInt')) := by
  have hsdk := h.get "lastSdk" (.int sdkInt) (by simp [entries])
  have hversion := h.get "lastVersion" (.int VERSION) (by simp [entries])
  simp only [EncoderDebugger.checkTestNeeded, Preferences.getInt, hsdk, hversion,
    Option.isSome_some, if_true, bind, Except.bind, pure, Except.pure, Nat.lt_irrefl, or_false]

theorem checkTestNeeded_of_none (h : prefs (key r "lastSdk") = none) (sdkInt : ℕ) :
    checkTestNeeded prefs sdkInt r = .ok true := by
  rw [EncoderDebugger.checkTestNeeded, h]
  rfl

/-- **The result of a success is restored.** -/
theorem Saved.restore (h : Saved prefs r sdkInt d) (hd : ForSize r d)
    (hsuccess : prefs (key r "success") = some (.boolean true)) :
    restore prefs r = .ok (TestCache.restored d) := by
  have hsliceHeight := h.get "sliceHeight" (.int d.mNV21.mSliceHeight) (by simp [entries])
  have hstride := h.get "stride" (.int d.mNV21.mStride) (by simp [entries])
  have hpadding := h.get "padding" (.int d.mNV21.mYPadding) (by simp [entries])
  have hplanar := h.get "planar" (.boolean d.mNV21.mPlanar) (by simp [entries])
  have hreversed := h.get "reversed" (.boolean d.mNV21.mPanesReversed) (by simp [entries])
  have hname := h.get "encoderName" (.string d.mEncoderName) (by simp [entries])
  have hformat := h.get "colorFormat" (.int d.mEncoderColorFormat) (by simp [entries])
  have hpps := h.get "pps" (.string d.mB64PPS) (by simp [entries])
  have hsps := h.get "sps" (.string d.mB64SPS) (by simp [entries])
  simp only [EncoderDebugger.restore, Preferences.getBoolean, Preferences.getInt,
    Preferences.getString, hsuccess, hsliceHeight, hstride, hpadding, hplanar, hreversed, hname,
    hformat, hpps, hsps, if_true, bind, Except.bind, pure, Except.pure]
  rw [TestCache.restored, NV21Convertor.setSize, ← hd.1, ← hd.2]
  rfl

end Saved

/-! ### What a test finds -/

/-- The convertor is the one for the color format, whatever its buffer is, and the resolution is one
that a test image can be created for. -/
def ForFormat (r : Resolution) (d : EncoderDebugger) : Prop :=
  r.width * r.height * 3 < 2 ^ 31 ∧
    ∃ mBuffer, d.mNV21 = { testConvertor r d.mEncoderColorFormat with mBuffer := mBuffer }

section Tests

variable {p : Encoders} {r : Resolution} {d : EncoderDebugger}

theorem size_setEncoderColorFormat (c : NV21Convertor) (colorFormat : ℕ) :
    ∃ mPlanar, c.setEncoderColorFormat colorFormat = { c with mPlanar } := by
  rw [NV21Convertor.setEncoderColorFormat]
  split_ifs
  · exact ⟨_, rfl⟩
  · exact ⟨_, rfl⟩
  · exact ⟨_, rfl⟩

/-- **The test image** of a size that is too large is not created: its array is too short. -/
theorem lt_of_createTestImage {mInitialImage : List Byte}
    (h : createTestImage r = .ok mInitialImage) : r.width * r.height * 3 < 2 ^ 31 := by
  obtain ⟨zeros, hnew, h⟩ := FallibleRun.bind_eq_ok.1 h
  obtain ⟨luma, hluma, -⟩ := FallibleRun.bind_eq_ok.1 h
  have hle := (length_of_foldlM_put hluma).1
  have hlen := length_of_new hnew
  have hfits := r.fits
  by_contra hlarge
  rw [int_of_le (by omega) (by omega)] at hlen
  have hdiv := Int.mul_tdiv_add_tmod (((3 * (r.width * r.height) : ℕ) : ℤ) - 2 ^ 32) 2
  have hmod := Int.lt_tmod_of_pos (((3 * (r.width * r.height) : ℕ) : ℤ) - 2 ^ 32) two_pos
  omega

theorem ForFormat.forSize (h : ForFormat r d) : ForSize r d := by
  obtain ⟨-, mBuffer, hmNV21⟩ := h
  obtain ⟨mPlanar, hplanar⟩ := size_setEncoderColorFormat
    { NV21Convertor.fresh.setSize r.width r.height with
      mSliceHeight := r.height
      mStride := r.width
      mYPadding := 0 } d.mEncoderColorFormat
  rw [ForSize, hmNV21, testConvertor, hplanar]
  exact ⟨rfl, rfl⟩

theorem ForFormat.restored (h : ForFormat r d) : ForFormat r (TestCache.restored d) := by
  obtain ⟨hint, mBuffer, hmNV21⟩ := h
  refine ⟨hint, none, ?_⟩
  rw [TestCache.restored, hmNV21]

theorem finishTest_eq_some {base64 : List Byte → Text} {name : Text} {colorFormat : ℕ}
    {mNV21 : NV21Convertor} {result : Except Thrown Probe}
    (h : finishTest base64 name colorFormat mNV21 result = some d) :
    d.mEncoderColorFormat = colorFormat ∧ d.mNV21 = mNV21 := by
  unfold finishTest at h
  split at h
  · cases h
    exact ⟨rfl, rfl⟩
  · cases h

/-- A test that succeeds. -/
theorem tryEncoder_forFormat {name : Option Text} {colorFormat : ℕ}
    (h : tryEncoder p r name colorFormat = .ok (some d)) : ForFormat r d := by
  obtain ⟨mInitialImage, himage, h⟩ := FallibleRun.bind_eq_ok.1 h
  obtain ⟨converted, -, h⟩ := FallibleRun.bind_eq_ok.1 h
  obtain ⟨name, -, h⟩ := Option.bind_eq_some_iff.1 (Except.ok.inj h)
  obtain ⟨packets, -, h⟩ := Option.bind_eq_some_iff.1 h
  obtain ⟨hformat, hmNV21⟩ := finishTest_eq_some h
  exact ⟨lt_of_createTestImage himage, some converted.mBuffer, by rw [hformat, hmNV21]⟩

/-- **The loops** end with a test that succeeds, or with none. -/
theorem tryEncoders_forFormat {l : List (Option Text × ℕ)}
    (h : tryEncoders p r l = .ok (some d)) : ForFormat r d := by
  induction l with
  | nil => cases h
  | cons e l ih =>
    obtain ⟨result, hresult, h⟩ := FallibleRun.bind_eq_ok.1 h
    cases result with
    | some d' =>
      cases h
      exact tryEncoder_forFormat hresult
    | none => exact ih h

end Tests

/-! ### The preferences as a cache -/

/-- **The preferences hold the cache.** The result of a failure is only there if the SDK has become
newer since the last success. -/
structure Holds (prefs : Preferences) (sdkInt : ℕ) (cache : TestCache) : Prop where
  absent : ∀ r, cache r = none → prefs (key r "lastSdk") = none
  saved : ∀ r sdk d, cache r = some (sdk, d) → Saved prefs r sdk d ∧ ForFormat r d ∧
    (prefs (key r "success") = some (.boolean true) ∨ sdk < sdkInt)

section Step

variable {prefs : Preferences} {sdkInt : ℕ} {cache : TestCache} {p : Encoders} {r : Resolution}

/-- The SDK becomes newer. -/
theorem Holds.mono (h : Holds prefs sdkInt cache) {sdkInt' : ℕ} (hle : sdkInt ≤ sdkInt') :
    Holds prefs sdkInt' cache where
  absent := h.absent
  saved r sdk d hr := by
    obtain ⟨hsaved, hd, hsuccess⟩ := h.saved r sdk d hr
    exact ⟨hsaved, hd, hsuccess.imp_right fun hlt ↦ Nat.lt_of_lt_of_le hlt hle⟩

/-- A failure is saved. -/
theorem Holds.failure (h : Holds prefs sdkInt cache)
    (hneeded : ∀ sdk d, cache r = some (sdk, d) → sdk < sdkInt) :
    Holds (saveTestResult prefs sdkInt r none) sdkInt cache where
  absent r' hr' := by
    rw [saveTestResult_none (by decide), h.absent r' hr']
  saved r' sdk d hr' := by
    obtain ⟨hsaved, hd, hsuccess⟩ := h.saved r' sdk d hr'
    refine ⟨hsaved.of_failure, hd, ?_⟩
    by_cases hr : r' = r
    · exact Or.inr (hneeded sdk d (hr ▸ hr'))
    · rwa [saveTestResult_of_ne hr]

/-- **A success is saved.** -/
theorem Holds.success (h : Holds prefs sdkInt cache) {d : EncoderDebugger} (hd : ForFormat r d) :
    Holds (saveTestResult prefs sdkInt r (some d)) sdkInt
      (Function.update cache r (some (sdkInt, d))) where
  absent r' hr' := by
    have hr : r' ≠ r := by
      rintro rfl
      rw [Function.update_self] at hr'
      cases hr'
    rw [Function.update_of_ne hr] at hr'
    rw [saveTestResult_of_ne hr, h.absent r' hr']
  saved r' sdk d' hr' := by
    by_cases hr : r' = r
    · subst hr
      rw [Function.update_self] at hr'
      cases hr'
      exact ⟨saved_saveTestResult prefs sdkInt r' d, hd, Or.inl (saveTestResult_success ..)⟩
    · rw [Function.update_of_ne hr] at hr'
      obtain ⟨hsaved, hd', hsuccess⟩ := h.saved r' sdk d' hr'
      refine ⟨hsaved.of_ne hr _, hd', ?_⟩
      rwa [saveTestResult_of_ne hr]

/-- **A test** and its result. -/
theorem Holds.finish (h : Holds prefs sdkInt cache)
    (result : Except Thrown (Option EncoderDebugger))
    (hneeded : ∀ sdk d, cache r = some (sdk, d) → sdk < sdkInt)
    (hresult : ∀ d, result = .ok (some d) → ForFormat r d) :
    (finish prefs sdkInt r result).2 = (cache.keep sdkInt r result).2 ∧
      Holds (finish prefs sdkInt r result).1 sdkInt (cache.keep sdkInt r result).1 := by
  rcases result with e | success
  · exact ⟨rfl, h⟩
  · cases success with
    | none => exact ⟨rfl, h.failure hneeded⟩
    | some d => exact ⟨rfl, h.success (hresult d rfl)⟩

/-- **One call** has the result of the cache, and the preferences hold what is cached then. -/
theorem Holds.debug (h : Holds prefs p.sdkInt cache) (r : Resolution) :
    (debug prefs p r).2 = (cache.debug p r).2 ∧
      Holds (debug prefs p r).1 p.sdkInt (cache.debug p r).1 := by
  have htest (hneeded : ∀ sdk d, cache r = some (sdk, d) → sdk < p.sdkInt) :=
    h.finish (tryEncoders p r (pairs p)) hneeded fun _ ↦ tryEncoders_forFormat
  rw [EncoderDebugger.debug, TestCache.debug]
  cases hr : cache r with
  | none =>
    rw [checkTestNeeded_of_none (h.absent r hr)]
    exact htest fun sdk d hd ↦ by rw [hr] at hd; cases hd
  | some entry =>
    obtain ⟨sdk, d⟩ := entry
    obtain ⟨hsaved, hd, hsuccess⟩ := h.saved r sdk d hr
    rw [hsaved.checkTestNeeded]
    by_cases hle : p.sdkInt ≤ sdk
    · have hrestore := hsaved.restore hd.forSize (hsuccess.resolve_right (Nat.not_lt.2 hle))
      rw [decide_eq_false (Nat.not_lt.2 hle)]
      simp only [if_pos hle]
      exact ⟨hrestore, h⟩
    · rw [decide_eq_true (Nat.not_le.1 hle)]
      simp only [if_neg hle]
      refine htest fun sdk' d' hr' ↦ ?_
      rw [hr] at hr'
      cases hr'
      exact Nat.not_le.1 hle

/-- Any sequence of calls. -/
theorem Holds.debugAll {calls : List (Encoders × Resolution)} (h : Holds prefs sdkInt cache)
    (hle : ∀ call ∈ calls, sdkInt ≤ call.1.sdkInt)
    (hsdk : calls.Pairwise fun call call' ↦ call.1.sdkInt ≤ call'.1.sdkInt) :
    debugAll prefs calls = cache.debugAll calls := by
  induction calls generalizing prefs sdkInt cache with
  | nil => rfl
  | cons call calls ih =>
    obtain ⟨p, r⟩ := call
    obtain ⟨hresult, hholds⟩ := (h.mono (hle _ List.mem_cons_self)).debug r
    obtain ⟨hfirst, hrest⟩ := List.pairwise_cons.1 hsdk
    rw [EncoderDebugger.debugAll, TestCache.debugAll, hresult, ih hholds hfirst hrest]

end Step

/-- An encoder that puts out a parameter set of each kind. -/
def sampleEncoders : Encoders where
  sdkInt := 21
  codecs := [⟨some "encoder".toList, [21]⟩]
  output _ _ _ _ := some [[0x00#8, 0x00#8, 0x00#8, 0x01#8, 0x67#8, 0x00#8, 0x00#8, 0x00#8, 0x01#8,
    0x68#8]]
  base64 bytes := if bytes = [0x67#8] then "Zw==".toList else "aA==".toList

/-- The color formats with two planes for the chroma. -/
def isPlanar (colorFormat : ℕ) : Bool := decide (colorFormat = 19 ∨ colorFormat = 20)

/-- What is saved has been found by a test. -/
def Tested (prefs : Preferences) : Prop :=
  ∀ r, prefs (key r "lastSdk") = none ∨ ∃ sdkInt d, Saved prefs r sdkInt d ∧ ForFormat r d

section Convertor

variable {prefs : Preferences} {p : Encoders} {r : Resolution} {d : EncoderDebugger}

theorem testConvertor_eq (r : Resolution) (colorFormat : ℕ) : testConvertor r colorFormat =
    ⟨r.height, r.height, r.width, r.width, isPlanar colorFormat, false, 0, none⟩ := by
  rw [testConvertor, NV21Convertor.setEncoderColorFormat, isPlanar]
  split_ifs with hsemiplanar hplanar
  · rw [decide_eq_false (by omega)]
    rfl
  · rw [decide_eq_true hplanar]
    rfl
  · rw [decide_eq_false hplanar]
    rfl

theorem Tested.saveTestResult (h : Tested prefs) (sdkInt : ℕ) (r : Resolution)
    {success : Option EncoderDebugger} (hd : ∀ d, success = some d → ForFormat r d) :
    Tested (saveTestResult prefs sdkInt r success) := by
  intro r'
  by_cases hr : r' = r
  · subst hr
    cases success with
    | some d => exact Or.inr ⟨sdkInt, d, saved_saveTestResult prefs sdkInt r' d, hd d rfl⟩
    | none =>
      rcases h r' with hnone | ⟨sdkInt', d, hsaved, hd⟩
      · exact Or.inl ((saveTestResult_none (by decide)).trans hnone)
      · exact Or.inr ⟨sdkInt', d, hsaved.of_failure, hd⟩
  · rcases h r' with hnone | ⟨sdkInt', d, hsaved, hd⟩
    · exact Or.inl ((saveTestResult_of_ne hr success _).trans hnone)
    · exact Or.inr ⟨sdkInt', d, hsaved.of_ne hr success, hd⟩

/-- Nothing is restored after a failure. -/
theorem success_of_restore (h : restore prefs r = .ok d) :
    prefs (key r "success") = some (.boolean true) := by
  obtain ⟨success, hsuccess, h⟩ := FallibleRun.bind_eq_ok.1 h
  rw [Preferences.getBoolean] at hsuccess
  cases success with
  | false => cases h
  | true =>
    split at hsuccess
    next => cases hsuccess
    next b hb =>
      cases hsuccess
      exact hb
    next => cases hsuccess

/-- **What is restored** has been found by a test. -/
theorem Tested.restore (h : Tested prefs) (hsdk : prefs (key r "lastSdk") ≠ none)
    (hrestore : restore prefs r = .ok d) : ForFormat r d := by
  obtain ⟨sdkInt, d', hsaved, hd'⟩ := (h r).resolve_left hsdk
  rw [hsaved.restore hd'.forSize (success_of_restore hrestore)] at hrestore
  cases hrestore
  exact hd'.restored

/-- **One call.** -/
theorem Tested.debug (h : Tested prefs) (p : Encoders) (r : Resolution) :
    Tested (debug prefs p r).1 ∧ ∀ d, (debug prefs p r).2 = .ok d → ForFormat r d := by
  have htest : Tested (finish prefs p.sdkInt r (tryEncoders p r (pairs p))).1 ∧
      ∀ d, (finish prefs p.sdkInt r (tryEncoders p r (pairs p))).2 = .ok d → ForFormat r d := by
    have hfound (d : EncoderDebugger) : tryEncoders p r (pairs p) = .ok (some d) → ForFormat r d :=
      tryEncoders_forFormat
    generalize tryEncoders p r (pairs p) = result at hfound
    rcases result with e | success
    · exact ⟨h, fun d hd ↦ by cases hd⟩
    · cases success with
      | none =>
        exact ⟨h.saveTestResult _ r (fun _ hd ↦ by cases hd), fun _ hd ↦ by cases hd⟩
      | some d =>
        refine ⟨h.saveTestResult _ r fun d' hd ↦ ?_, fun d' hd ↦ ?_⟩
        · exact Option.some.inj hd ▸ hfound d rfl
        · exact Except.ok.inj hd ▸ hfound d rfl
  rw [EncoderDebugger.debug]
  by_cases hsdk : prefs (key r "lastSdk") = none
  · rw [checkTestNeeded_of_none hsdk]
    exact htest
  · obtain ⟨sdkInt, d', hsaved, -⟩ := (h r).resolve_left hsdk
    rw [hsaved.checkTestNeeded]
    cases decide (sdkInt < p.sdkInt) with
    | true => exact htest
    | false => exact ⟨h, fun d ↦ h.restore hsdk⟩

/-- All calls. -/
theorem Tested.debugAll {calls : List (Encoders × Resolution)} (h : Tested prefs)
    (hmem : ((p, r), Except.ok d) ∈ calls.zip (debugAll prefs calls)) : ForFormat r d := by
  induction calls generalizing prefs with
  | nil => cases hmem
  | cons call calls ih =>
    obtain ⟨p', r'⟩ := call
    obtain ⟨htested, hresult⟩ := h.debug p' r'
    rw [EncoderDebugger.debugAll, List.zip_cons_cons, List.mem_cons] at hmem
    rcases hmem with heq | hmem
    · obtain ⟨hcall, hd⟩ := Prod.mk.inj heq
      cases hcall
      exact hresult d hd.symm
    · exact ih htested hmem

/-- **The convertor fits the color format.** Whatever frames it has converted before, the convertor
of a result turns a frame of the resolution into the layout of the color format of that result. -/
theorem ForFormat.convert (hd : ForFormat r d) (mBuffer : Option (List Byte)) {data : List Byte}
    (hn : r.width * r.height % 4 = 0)
    (hdata : data.length = r.width * r.height + r.width * r.height / 2) :
    ∃ converted, { d.mNV21 with mBuffer := mBuffer }.convert data = .ok converted ∧
      HasLayout (isPlanar d.mEncoderColorFormat) false (r.width * r.height) 0 data
        converted.result := by
  obtain ⟨hint, buffer, hmNV21⟩ := hd
  rw [hmNV21, testConvertor_eq]
  set c : NV21Convertor := ⟨r.height, r.height, r.width, r.width,
    isPlanar d.mEncoderColorFormat, false, 0, mBuffer⟩ with hc
  have hsize : 3 * r.height * r.width = 3 * (r.width * r.height) := by
    rw [Nat.mul_assoc, Nat.mul_comm r.height]
  have hfits : c.SizeFits := by
    show 3 * r.height * r.width < 2 ^ 31 ∧ 3 * r.height * r.width / 2 + 0 < 2 ^ 31
    omega
  obtain ⟨buffer, hbuffer, hlen⟩ := NV21Convertor.buffer_of_sizeFits hfits
  have hlen' : buffer.length = c.mSize + c.mSize / 2 + c.mYPadding := by
    change buffer.length = 3 * r.height * r.width / 2 + 0 at hlen
    show buffer.length = r.width * r.height + r.width * r.height / 2 + 0
    omega
  have hshape : c.mSliceHeight = c.mHeight ∧ c.mStride = c.mWidth := ⟨rfl, rfl⟩
  exact (NV21Convertor.converts_iff_of_buffer (c := c) hshape hn hdata hbuffer hlen').2
    fun _ h ↦ absurd h (Nat.lt_irrefl 0)

end Convertor

end EncoderDebugger

end DoorIntercom
