import DoorIntercom.Video.PreviewFrame

/-!
# Parameter sets before key frames

A decoder needs the parameter sets (NAL unit type 7) before a key frame (type 5). `onPreviewFrame`
remembers the last parameter sets in `mPpsSps`, over the callbacks, and sends them before every key
frame; but it tells both by the whole byte 4, `0x67` and `0x65`, where the type is in the lower five
bits (`EncoderDebugger` masks them). Units of these types with other upper bits pass as any other.

So a key frame is sent with the latest parameter sets if and only if both have these two bytes, or
there are no parameter sets yet (`entrySent_iff`). The invariant of the run says what `mPpsSps` has
to do with the latest sets (`Remembers`).
-/

namespace DoorIntercom

open JavaArray

/-! ### The property -/

/-- The type of the first NAL unit of an output. -/
def nalType (outData : List Byte) : Byte := outData.getD 4 0 &&& 0x1f#8

/-- An output begins with a whole header: the start code, and at least one byte. -/
def HasHeader (outData : List Byte) : Prop := 5 ≤ outData.length ∧ startCode <+: outData

/-- The latest parameter sets after an output. -/
def latestStep (latest : Option (List Byte)) (output : Output) : Option (List Byte) :=
  if nalType output.outData = 7 then some output.outData else latest

/-- The latest parameter sets after some outputs. -/
def latestSets (latest : Option (List Byte)) (outputs : List Output) : Option (List Byte) :=
  outputs.foldl latestStep latest

/-- A key frame is sent behind the latest parameter sets, if there are any; anything else that is
sent is sent as it is. -/
def EntrySent (latest : Option (List Byte)) (output : Output) (sent : Option (List Byte)) : Prop :=
  if nalType output.outData = 5 then sent = some (packet (latest.getD [] ++ output.outData))
  else ∀ p ∈ sent, p = packet output.outData

/-- So is every output. -/
def SentWithSets : Option (List Byte) → List (Output × Option (List Byte)) → Prop
  | _, [] => True
  | latest, (output, sent) :: entries =>
    EntrySent latest output sent ∧ SentWithSets (latestStep latest output) entries

/-! ### The condition -/

/-- A key frame after parameter sets has byte 4 `0x65` and they have `0x67`; and its packet is not
too large. -/
def KeyFrameMatches (latest : Option (List Byte)) (output : Output) : Prop :=
  nalType output.outData = 5 →
    (latest.getD [] ++ output.outData).length + 6 < 2 ^ 31 ∧
      ∀ sets ∈ latest, output.outData[4]? = some 0x65#8 ∧ sets[4]? = some 0x67#8

/-- The outputs that a callback looks at: up to the first one that cannot be sent. -/
def lookedAt : List Output → List Byte → List Output
  | [], _ => []
  | output :: outputs, m =>
    output :: if Sendable m output.outData then lookedAt outputs (remember m output.outData) else []

/-- The outputs that the callbacks look at. -/
def allLookedAt : List Preview → List Byte → List Output
  | [], _ => []
  | p :: previews, m =>
    lookedAt p.delivered m ++ allLookedAt previews (rememberAll m (lookedAt p.delivered m))

/-- So does every key frame. -/
def KeyFramesMatch : Option (List Byte) → List Output → Prop
  | _, [] => True
  | latest, output :: outputs =>
    KeyFrameMatches latest output ∧ KeyFramesMatch (latestStep latest output) outputs

section Append

variable {latest : Option (List Byte)}

theorem sentWithSets_append {entries entries' : List (Output × Option (List Byte))} :
    SentWithSets latest (entries ++ entries') ↔
      SentWithSets latest entries ∧
        SentWithSets (latestSets latest (entries.map Prod.fst)) entries' := by
  induction entries generalizing latest with
  | nil => exact (iff_of_eq (true_and _)).symm
  | cons entry entries ih =>
    rw [List.cons_append, SentWithSets, SentWithSets, ih, and_assoc]
    rfl

theorem keyFramesMatch_append {outputs outputs' : List Output} :
    KeyFramesMatch latest (outputs ++ outputs') ↔
      KeyFramesMatch latest outputs ∧ KeyFramesMatch (latestSets latest outputs) outputs' := by
  induction outputs generalizing latest with
  | nil => exact (iff_of_eq (true_and _)).symm
  | cons output outputs ih =>
    rw [List.cons_append, KeyFramesMatch, KeyFramesMatch, ih, and_assoc]
    rfl

end Append

/-! ### The invariant -/

/-- `mPpsSps` holds the latest parameter sets with byte 4 `0x67`, and nothing if there are none. -/
structure Remembers (m : List Byte) (latest : Option (List Byte)) : Prop where
  eq_of_header : ∀ sets ∈ latest, sets[4]? = some 0x67#8 → m = sets
  eq_nil : latest = none → m = []
  header : m = [] ∨ m[4]? = some 0x67#8
  ne_nil : ∀ sets ∈ latest, sets ≠ []

section Output

variable {m d : List Byte} {latest : Option (List Byte)} {output : Output}

theorem startCode_concat_prefix_iff (hd : HasHeader d) (b : Byte) :
    startCode ++ [b] <+: d ↔ d[4]? = some b := by
  obtain ⟨hlen, t, rfl⟩ := hd
  rw [List.prefix_append_right_inj]
  cases t with
  | nil => exact absurd hlen (by decide)
  | cons c t =>
    show _ ↔ some c = some b
    rw [List.cons_prefix_cons, Option.some_inj]
    exact ⟨fun h ↦ h.1.symm, fun h ↦ ⟨h.symm, List.nil_prefix⟩⟩

theorem HasHeader.not_isPrefix (hd : HasHeader d) : ¬ d <+: startCode := fun h ↦
  absurd (hd.1.trans h.length_le) (by decide)

theorem nalType_of_header {b : Byte} (h : d[4]? = some b) : nalType d = b &&& 0x1f#8 := by
  rw [nalType, List.getD_eq_getElem?_getD, h, Option.getD_some]

theorem HasHeader.ne_nil (hd : HasHeader d) : d ≠ [] := by
  rintro rfl
  exact absurd hd.1 (by decide)

/-- **The step lemma.** -/
theorem Remembers.step (h : Remembers m latest) (hd : HasHeader output.outData) :
    Remembers (remember m output.outData) (latestStep latest output) := by
  rw [remember, latestStep]
  simp only [startCode_concat_prefix_iff hd]
  by_cases hheader : output.outData[4]? = some 0x67#8
  · have htype : nalType output.outData = 7 := nalType_of_header hheader
    rw [if_pos hheader, if_pos htype]
    refine ⟨?_, fun hnone ↦ absurd hnone (Option.some_ne_none _), Or.inr hheader, ?_⟩
    · rintro sets ⟨⟩ -
      rfl
    · rintro sets ⟨⟩
      exact hd.ne_nil
  · rw [if_neg hheader]
    split_ifs with htype
    · refine ⟨?_, fun hnone ↦ absurd hnone (Option.some_ne_none _), h.header, ?_⟩
      · rintro sets ⟨⟩ hsets
        exact absurd hsets hheader
      · rintro sets ⟨⟩
        exact hd.ne_nil
    · exact h

/-- What is sent for an output. -/
def sentFor (m : List Byte) (output : Output) : Option (List Byte) :=
  if Sendable m output.outData then some (packet (payload m output.outData)) else none

theorem packet_injective {p p' : List Byte} (h : packet p = packet p') : p = p' := by
  rw [← drop_packet p, h, drop_packet]

/-- **The payload** of an output is the latest parameter sets and the output exactly if there are
none yet, or both have the bytes that are looked for. -/
theorem payload_eq_iff (h : Remembers m latest) (hd : HasHeader d) :
    payload m d = latest.getD [] ++ d ↔
      ∀ sets ∈ latest, d[4]? = some 0x65#8 ∧ sets[4]? = some 0x67#8 := by
  have hkey := startCode_concat_prefix_iff hd 0x65#8
  rw [payload]
  constructor
  · intro hpayload sets hsets
    obtain rfl := Option.mem_def.1 hsets
    rw [Option.getD_some] at hpayload
    have hne := h.ne_nil sets hsets
    by_cases hheader : startCode ++ [101#8] <+: d
    · rw [if_pos hheader, List.append_left_inj] at hpayload
      subst hpayload
      exact ⟨hkey.1 hheader, h.header.resolve_left hne⟩
    · rw [if_neg hheader] at hpayload
      exact absurd (List.self_eq_append_left.1 hpayload) hne
  · intro hsets
    rcases hlatest : latest with _ | sets
    · rw [h.eq_nil hlatest]
      split_ifs <;> rfl
    · obtain ⟨hheader, hsets'⟩ := hsets sets hlatest
      rw [if_pos (hkey.2 hheader), h.eq_of_header sets hlatest hsets', Option.getD_some]

/-- **One output** is sent as it should be exactly if it meets the condition. -/
theorem entrySent_iff (h : Remembers m latest) (hd : HasHeader output.outData) :
    EntrySent latest output (sentFor m output) ↔ KeyFrameMatches latest output := by
  rw [EntrySent, KeyFrameMatches, sentFor]
  by_cases htype : nalType output.outData = 5
  · rw [if_pos htype]
    simp only [htype, true_implies]
    rw [← payload_eq_iff h hd]
    constructor
    · intro hsent
      split_ifs at hsent with hsendable
      have hpayload := packet_injective (Option.some.inj hsent)
      exact ⟨hpayload ▸ hsendable.2, hpayload⟩
    · rintro ⟨hsize, hpayload⟩
      have hsendable : Sendable m output.outData := ⟨hd.not_isPrefix, hpayload ▸ hsize⟩
      rw [if_pos hsendable, hpayload]
  · rw [if_neg htype]
    refine iff_of_true ?_ fun h ↦ absurd h htype
    have hother : ¬ startCode ++ [101#8] <+: output.outData := fun hkey ↦
      htype (nalType_of_header ((startCode_concat_prefix_iff hd 0x65#8).1 hkey))
    intro p hp
    split_ifs at hp
    · rw [← Option.mem_some.1 hp, payload, if_neg hother]
    · cases hp

end Output

/-! ### The run -/

section Run

variable {m : List Byte} {latest : Option (List Byte)} {outputs : List Output}
  {previews : List Preview}

/-- A callback dequeues the outputs that it looks at, and remembers the parameter sets in them. -/
theorem drain_lookedAt : (drain outputs m).outputs.map Prod.fst = lookedAt outputs m ∧
    (drain outputs m).mPpsSps = rememberAll m (lookedAt outputs m) := by
  induction outputs generalizing m with
  | nil => exact ⟨rfl, rfl⟩
  | cons output outputs ih =>
    rw [lookedAt]
    by_cases hsendable : Sendable m output.outData
    · rw [drain_of_sendable hsendable, if_pos hsendable]
      exact ⟨congrArg _ ih.1, ih.2⟩
    · rw [drain_of_not_sendable hsendable, if_neg hsendable]
      exact ⟨rfl, rfl⟩

/-- **The loop** of one callback. -/
theorem sentWithSets_drain (h : Remembers m latest)
    (hwf : ∀ output ∈ outputs, HasHeader output.outData) :
    (SentWithSets latest (drain outputs m).outputs ↔ KeyFramesMatch latest (lookedAt outputs m)) ∧
      Remembers (rememberAll m (lookedAt outputs m)) (latestSets latest (lookedAt outputs m)) := by
  induction outputs generalizing m latest with
  | nil => exact ⟨Iff.rfl, h⟩
  | cons output outputs ih =>
    rw [List.forall_mem_cons] at hwf
    have hentry := entrySent_iff h hwf.1
    have hstep := h.step hwf.1
    rw [sentFor] at hentry
    rw [lookedAt]
    by_cases hsendable : Sendable m output.outData
    · obtain ⟨hrest, hremembers⟩ := ih hstep hwf.2
      rw [if_pos hsendable] at hentry
      rw [drain_of_sendable hsendable, if_pos hsendable]
      exact ⟨and_congr hentry hrest, hremembers⟩
    · rw [if_neg hsendable] at hentry
      rw [drain_of_not_sendable hsendable, if_neg hsendable]
      exact ⟨and_congr hentry Iff.rfl, hstep⟩

/-- **The callbacks.** -/
theorem sentWithSets_onPreviewFrames (h : Remembers m latest)
    (hwf : ∀ p ∈ previews, ∀ output ∈ p.outputs, HasHeader output.outData) :
    SentWithSets latest ((onPreviewFrames previews m).flatMap Drained.outputs) ↔
      KeyFramesMatch latest (allLookedAt previews m) := by
  induction previews generalizing m latest with
  | nil => exact Iff.rfl
  | cons p previews ih =>
    rw [List.forall_mem_cons] at hwf
    have hdelivered : ∀ output ∈ p.delivered, HasHeader output.outData := by
      intro output houtput
      rw [Preview.delivered] at houtput
      split at houtput
      · exact hwf.1 output houtput
      · cases houtput
    obtain ⟨hfirst, hremembers⟩ := sentWithSets_drain h hdelivered
    rw [onPreviewFrames, List.flatMap_cons, allLookedAt, sentWithSets_append,
      keyFramesMatch_append, onPreviewFrame, drain_lookedAt.1, drain_lookedAt.2]
    exact and_congr hfirst (ih hremembers hwf.2)

end Run

/-- Remembering nothing, before the first output. -/
theorem remembers_nil : Remembers [] none :=
  ⟨fun _ h ↦ absurd h (Option.not_mem_none _), fun _ ↦ rfl, Or.inl rfl,
    fun _ h ↦ absurd h (Option.not_mem_none _)⟩

/-- **Every key frame is sent with the latest parameter sets**, over any callbacks from the first
one on, if and only if every key frame after parameter sets has byte 4 `0x65`, the latest ones have
`0x67`, and the packet is not too large. -/
theorem sentWithSets_iff (previews : List Preview)
    (hwf : ∀ p ∈ previews, ∀ output ∈ p.outputs, HasHeader output.outData) :
    SentWithSets none ((onPreviewFrames previews []).flatMap Drained.outputs) ↔
      KeyFramesMatch none (allLookedAt previews []) :=
  sentWithSets_onPreviewFrames remembers_nil hwf

/-- Parameter sets with the header `67` and a key frame with the header `65`. -/
theorem sentWithSets_usual_headers :
    SentWithSets none ((onPreviewFrames
      [smallPreview [⟨0, startCode ++ [0x67#8, 0x42#8]⟩, ⟨1, startCode ++ [0x65#8, 0x88#8]⟩]]
      []).flatMap Drained.outputs) := by
  apply (sentWithSets_iff _ ?_).2
  · rw [allLookedAt, delivered_smallPreview, lookedAt, if_pos (by decide), lookedAt,
      if_pos (by decide), lookedAt]
    refine ⟨fun h ↦ absurd h (by decide), fun _ ↦ ⟨by decide, ?_⟩, trivial⟩
    rintro sets ⟨⟩
    exact ⟨rfl, rfl⟩
  · intro p hp output houtput
    obtain rfl := List.mem_singleton.1 hp
    rcases List.mem_pair.1 houtput with rfl | rfl
    · exact ⟨by decide, by decide⟩
    · exact ⟨by decide, by decide⟩

/-- **Headers `27` and `25`**, of the same types: the key frame is sent without the parameter
sets. -/
theorem not_sentWithSets_other_headers :
    ¬ SentWithSets none ((onPreviewFrames
      [smallPreview [⟨0, startCode ++ [0x27#8, 0x42#8]⟩, ⟨1, startCode ++ [0x25#8, 0x88#8]⟩]]
      []).flatMap Drained.outputs) := by
  rw [onPreviewFrames, onPreviewFrame, delivered_smallPreview, List.flatMap_cons,
    drain_of_sendable (by decide), drain_of_sendable (by decide)]
  rintro ⟨-, hkey, -⟩
  rw [EntrySent, if_pos (by decide), Option.some_inj] at hkey
  exact absurd hkey (by decide)

end DoorIntercom
