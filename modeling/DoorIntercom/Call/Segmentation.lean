import DoorIntercom.Call.Commands
import DoorIntercom.Lib.Transition
import DoorIntercom.Lib.Offsets

/-!
# Commands and reads

The receiving end of a connection: the receive thread posts what one `read` returns as one message,
and the handler gives the messages to the listener, one after the other. A branch that disconnects
ends the receive thread; messages that are already posted are still handled.

TCP keeps the bytes, not the boundaries: a sequence of commands arrives as reads that are cut
anywhere (`chunks` with `chunks.flatten = stream commands`). `delivered_iff` says for which cuts the
listener acts as if each command had been read by itself: every command that the side acts on must
begin a read, since nothing puts a split command together and nothing looks behind the first command
of a read.
-/

namespace DoorIntercom

/-! ### The receive loop and the handler -/

/-- The receiving end: the reads to come, the posted messages, whether the connection is still open,
the commands acted on so far, and whether an index outside a read has been read. -/
structure Receiver where
  unread : List (List Byte)
  messages : List (List Byte)
  connected : Bool
  acted : List Command
  outside : Bool

/-- The receive thread gets a read and posts it; the handler takes the first message. -/
inductive ReceiverEvent
  | read
  | handle
  deriving DecidableEq, Repr

/-- The receiving end of a side, for the reads that the stream is cut into. -/
def receiver (side : Side) (chunks : List (List Byte)) :
    TransitionSystem Receiver ReceiverEvent where
  init := ⟨chunks, [], true, [], false⟩
  step s
    | .read =>
      match s.unread with
      | [] => none
      | chunk :: unread =>
        if s.connected then some { s with unread, messages := s.messages ++ [chunk] } else none
    | .handle =>
      match s.messages with
      | [] => none
      | chunk :: messages =>
        some { s with
          messages
          connected := s.connected && !(dispatch side chunk).disconnect
          acted := s.acted ++ (dispatch side chunk).acted
          outside := s.outside || (dispatch side chunk).outside chunk.length }

/-- What the side acts on when every command is a read of its own. -/
def expected (side : Side) (commands : List Command) : List Command :=
  commands.flatMap fun c ↦ (dispatch side c.bytes).acted

/-- In every run the commands acted on are the expected ones, in order, and all of them when nothing
can happen any more; and no index outside a read is ever read. -/
def Delivered (side : Side) (commands : List Command) (chunks : List (List Byte)) : Prop :=
  ∀ s, (receiver side chunks).Reach s → s.outside = false ∧
    s.acted <+: expected side commands ∧
      ((receiver side chunks).Final s → s.acted = expected side commands)

/-- Cuts that suit the listener: every read has the bytes it looks at, every command that the side
acts on begins a read, and of these only the last one disconnects. -/
structure WellCut (side : Side) (commands : List Command) (chunks : List (List Byte)) : Prop where
  two_le : ∀ chunk ∈ chunks, 2 ≤ chunk.length
  refuse : side = .server → ∀ chunk ∈ chunks, chunk[1]? = some 0x07#8 → 3 ≤ chunk.length
  starts : ∀ k c, commands[k]? = some c → side.acts c → 4 * k ∈ offsets 0 chunks
  last : ∀ c ∈ (commands.filter side.acts).dropLast, side.disconnects c = false

/-! ### Reads against commands -/

section Reads

variable {side : Side} {commands : List Command} {chunks : List (List Byte)}

theorem expected_eq_filter : expected side commands = commands.filter side.acts := by
  rw [expected]
  induction commands with
  | nil => rfl
  | cons c commands ih =>
    rw [List.flatMap_cons, acted_bytes, ih, List.filter_cons]
    split_ifs <;> rfl

/-- The command seen at a position of the stream. -/
def seenAt (side : Side) (commands : List Command) (i : ℕ) : Option Command :=
  ((stream commands)[i + 1]?).bind side.react

theorem seenAt_isSome_iff {i : ℕ} :
    (seenAt side commands i).isSome ↔
      ∃ k c, i = 4 * k ∧ commands[k]? = some c ∧ side.acts c := by
  rw [seenAt, react_stream]
  constructor
  · intro h
    split_ifs at h with hi
    · obtain ⟨c, hc⟩ := Option.isSome_iff_exists.1 h
      obtain ⟨c', hc', hacts⟩ := Option.bind_eq_some_iff.1 hc
      refine ⟨i / 4, c', by omega, hc', ?_⟩
      by_contra hno
      rw [if_neg hno] at hacts
      cases hacts
    · cases h
  · rintro ⟨k, c, rfl, hc, hacts⟩
    rw [if_pos (by omega), show 4 * k / 4 = k by omega, hc, Option.bind_some, if_pos hacts]
    rfl

/-- The expected commands are those seen at all positions. -/
theorem expected_eq_filterMap :
    expected side commands =
      (List.range' 0 (stream commands).length).filterMap (seenAt side commands) := by
  rw [expected_eq_filter, length_stream]
  induction commands with
  | nil => rfl
  | cons c commands ih =>
    have hshift : ∀ i, seenAt side (c :: commands) (4 + i) = seenAt side commands i := by
      intro i
      simp only [seenAt, react_stream]
      rw [show (4 + i) % 4 = i % 4 by omega, show (4 + i) / 4 = i / 4 + 1 by omega,
        List.getElem?_cons_succ]
    have hhead : seenAt side (c :: commands) 0 = if side.acts c then some c else none := by
      rw [seenAt, react_stream]
      simp
    have hnone : ∀ i, i % 4 ≠ 0 → seenAt side (c :: commands) i = none := by
      intro i hi
      rw [seenAt, react_stream, if_neg hi]
    rw [List.length_cons, show 4 * (commands.length + 1) = 4 + 4 * commands.length by omega,
      ← List.range'_append_1, List.filterMap_append, ← List.map_add_range' (a := 4) (s := 0),
      List.filterMap_map, List.filter_cons]
    have htail : (List.range' 0 (4 * commands.length)).filterMap
        (seenAt side (c :: commands) ∘ fun i ↦ 4 + i) = commands.filter side.acts := by
      rw [ih]
      exact List.filterMap_congr fun i _ ↦ hshift i
    rw [htail]
    simp only [List.range', List.filterMap_cons, hhead, hnone 1 (by omega), hnone 2 (by omega),
      hnone 3 (by omega), List.filterMap_nil]
    split_ifs <;> rfl

/-- **The reads of a cut stream** show the commands that are seen at their offsets. -/
theorem flatMap_acted_eq (hcut : chunks.flatten = stream commands)
    (htwo : ∀ chunk ∈ chunks, 2 ≤ chunk.length) :
    (chunks.flatMap fun chunk ↦ (dispatch side chunk).acted) =
      (offsets 0 chunks).filterMap (seenAt side commands) := by
  have hview : ∀ chunk ∈ chunks, ∀ k rest, (stream commands).drop k = chunk ++ rest →
      (chunk[1]?).bind side.react = seenAt side commands k ∧
        (dispatch side chunk).acted = ((chunk[1]?).bind side.react).toList := by
    intro chunk hmem k rest hdrop
    have hsize := htwo chunk hmem
    have hget : ∀ j < chunk.length, chunk[j]? = (stream commands)[k + j]? := by
      intro j hj
      rw [← List.getElem?_drop, hdrop, List.getElem?_append_left hj]
    refine ⟨by rw [hget 1 (by omega), seenAt], acted_eq hsize ?_⟩
    rintro - ⟨hseven, hthree⟩
    -- the byte after `0x07` is the command's third one, or the buffer's 0
    have hone : (stream commands)[k + 1]? = some 0x07#8 := by
      rw [← hget 1 (by omega), List.getElem?_eq_getElem (by omega), ← hseven, readBuffer,
        List.getD_eq_getElem?_getD, List.getElem?_eq_getElem (by omega), Option.getD_some]
    by_cases hlen : 2 < chunk.length
    · refine getElem?_stream_ne hone ?_
      rw [show k + 1 + 1 = k + 2 by omega, ← hget 2 hlen, List.getElem?_eq_getElem hlen, ← hthree,
        readBuffer, List.getD_eq_getElem?_getD, List.getElem?_eq_getElem hlen, Option.getD_some]
    · rw [readBuffer, List.getD_eq_getElem?_getD, List.getElem?_eq_none (by omega)] at hthree
      exact absurd hthree (by decide)
  have hmap : (chunks.flatMap fun chunk ↦ (dispatch side chunk).acted) =
      chunks.filterMap fun chunk ↦ (chunk[1]?).bind side.react := by
    rw [List.filterMap_eq_flatMap_toList]
    refine List.flatMap_congr fun chunk hmem ↦ ?_
    obtain ⟨l₁, l₂, hl⟩ := List.append_of_mem hmem
    have hdrop : (stream commands).drop l₁.flatten.length = chunk ++ l₂.flatten := by
      rw [← hcut, hl, List.flatten_append, List.flatten_cons, List.drop_left]
    exact (hview chunk hmem _ _ hdrop).2
  rw [hmap]
  refine filterMap_eq_filterMap_offsets (l := stream commands) 0 (by rw [List.drop_zero, hcut]) ?_
  exact fun chunk hmem k rest hdrop ↦ (hview chunk hmem k rest hdrop).1

/-- **All reads together** show the expected commands exactly when each of these begins a read. -/
theorem flatMap_acted_eq_expected_iff (hcut : chunks.flatten = stream commands)
    (htwo : ∀ chunk ∈ chunks, 2 ≤ chunk.length) :
    (chunks.flatMap fun chunk ↦ (dispatch side chunk).acted) = expected side commands ↔
      ∀ k c, commands[k]? = some c → side.acts c → 4 * k ∈ offsets 0 chunks := by
  have hne : ∀ chunk ∈ chunks, chunk ≠ [] := by
    rintro chunk hmem rfl
    exact absurd (htwo [] hmem) (by simp)
  have hsub := offsets_sublist_range' 0 hne
  rw [hcut] at hsub
  rw [flatMap_acted_eq hcut htwo, expected_eq_filterMap,
    filterMap_eq_iff hsub List.nodup_range']
  constructor
  · intro hall k c hc hacts
    refine hall (4 * k) ?_ (seenAt_isSome_iff.2 ⟨k, c, rfl, hc, hacts⟩)
    have hk := (List.getElem?_eq_some_iff.1 hc).1
    rw [List.mem_range'_1, length_stream]
    omega
  · intro hall i _ hi
    obtain ⟨k, c, rfl, hc, hacts⟩ := seenAt_isSome_iff.1 hi
    exact hall k c hc hacts

/-- An index outside a read is read exactly if the read is too short. -/
theorem outside_eq_false_iff {chunk : List Byte} :
    (dispatch side chunk).outside chunk.length = false ↔
      2 ≤ chunk.length ∧ (side = .server → chunk[1]? = some 0x07#8 → 3 ≤ chunk.length) := by
  have hseven : 2 ≤ chunk.length → (readBuffer chunk 1 = 0x07#8 ↔ chunk[1]? = some 0x07#8) := by
    intro hsize
    rw [readBuffer, List.getD_eq_getElem?_getD, List.getElem?_eq_getElem (by omega),
      Option.getD_some, Option.some.injEq]
  cases side with
  | server =>
    by_cases h : readBuffer chunk 1 = 0x07#8
    · simp only [dispatch, Dispatch.outside, serverDispatch, if_pos h]
      by_cases hsize : 2 ≤ chunk.length
      · simp [(hseven hsize).1 h]
        omega
      · simp [hsize]
        omega
    · simp only [dispatch, Dispatch.outside, serverDispatch, if_neg h]
      by_cases hsize : 2 ≤ chunk.length
      · simp [hsize, mt (hseven hsize).2 h]
        omega
      · simp [hsize]
        omega
  | client =>
    simp [dispatch, Dispatch.outside, clientDispatch]
    omega

end Reads

/-! ### Runs of the receiving end -/

section Runs

variable {side : Side} {commands : List Command} {chunks : List (List Byte)} {s : Receiver}

/-- The commands acted on in some reads. -/
def actedIn (side : Side) (chunks : List (List Byte)) : List Command :=
  chunks.flatMap fun chunk ↦ (dispatch side chunk).acted

theorem actedIn_append (chunks chunks' : List (List Byte)) :
    actedIn side (chunks ++ chunks') = actedIn side chunks ++ actedIn side chunks' :=
  List.flatMap_append

theorem actedIn_singleton (side : Side) (chunk : List Byte) :
    actedIn side [chunk] = (dispatch side chunk).acted :=
  List.flatMap_singleton _ _

/-- What a receiver has done: it has handled some of the reads, has posted some more, and is
connected as long as none of the handled ones disconnects. -/
structure Receiver.Handled (side : Side) (chunks : List (List Byte)) (s : Receiver)
    (handled : List (List Byte)) : Prop where
  split : chunks = handled ++ s.messages ++ s.unread
  acted : s.acted = actedIn side handled
  connected : s.connected = handled.all fun chunk ↦ !(dispatch side chunk).disconnect
  outside : s.outside = handled.any fun chunk ↦ (dispatch side chunk).outside chunk.length

/-- **The invariant of all runs.** -/
theorem exists_handled (h : (receiver side chunks).Reach s) :
    ∃ handled, s.Handled side chunks handled := by
  refine h.invariant (I := fun s ↦ ∃ handled, s.Handled side chunks handled)
    ⟨[], rfl, rfl, rfl, rfl⟩ ?_
  rintro ⟨unread, messages, connected, acted, outside⟩ event s' ⟨handled, hs⟩ hstep
  obtain ⟨hsplit, hacted, hconn, hout⟩ := hs
  cases event with
  | read =>
    cases unread with
    | nil => cases hstep
    | cons chunk unread =>
      simp only [receiver] at hstep
      split_ifs at hstep
      cases hstep
      exact ⟨handled, by simpa using hsplit, hacted, hconn, hout⟩
  | handle =>
    cases messages with
    | nil => cases hstep
    | cons chunk messages =>
      cases hstep
      refine ⟨handled ++ [chunk], by simpa using hsplit, ?_, ?_, ?_⟩
      · rw [actedIn_append, ← hacted, actedIn_singleton]
      · simp only [List.all_append, List.all_cons, List.all_nil, Bool.and_true, ← hconn]
      · simp only [List.any_append, List.any_cons, List.any_nil, Bool.or_false, ← hout]

/-- A read that disconnects shows a command that does. -/
theorem exists_disconnects {chunk : List Byte} (h : (dispatch side chunk).disconnect) :
    ∃ c ∈ actedIn side [chunk], side.disconnects c := by
  rw [disconnect_eq, List.any_eq_true] at h
  rwa [actedIn_singleton]

/-- A receiver that is done has handled all messages. -/
theorem messages_eq_nil_of_final (h : (receiver side chunks).Final s) : s.messages = [] := by
  cases hm : s.messages with
  | nil => rfl
  | cons chunk messages =>
    have hhandle := h .handle
    simp [receiver, hm] at hhandle

/-- A receiver that is done and still connected has read everything. -/
theorem unread_eq_nil_of_final (h : (receiver side chunks).Final s) (hconn : s.connected) :
    s.unread = [] := by
  cases hu : s.unread with
  | nil => rfl
  | cons chunk unread =>
    have hread := h .read
    simp [receiver, hu, hconn] at hread

/-- Behind a handled read that disconnects, well-cut commands show no further one. -/
theorem WellCut.actedIn_eq_nil {chunk : List Byte} {handled rest : List (List Byte)}
    (hwell : WellCut side commands chunks)
    (happend : expected side commands = actedIn side handled ++ actedIn side rest)
    (hchunk : chunk ∈ handled) (hdis : (dispatch side chunk).disconnect) :
    actedIn side rest = [] := by
  obtain ⟨c, hc, hcd⟩ := exists_disconnects hdis
  obtain ⟨l₁, l₂, rfl⟩ := List.append_of_mem hchunk
  by_contra hrest
  -- the command that disconnects would not be the last expected one
  have hdrop : c ∈ (expected side commands).dropLast := by
    rw [happend, List.dropLast_append_of_ne_nil hrest, actedIn_append, ← List.singleton_append,
      actedIn_append]
    exact List.mem_append_left _ (List.mem_append_right _ (List.mem_append_left _ hc))
  rw [expected_eq_filter] at hdrop
  exact absurd hcd (by rw [hwell.last c hdrop]; decide)

/-- Well-cut commands are delivered in every run. -/
theorem WellCut.delivered (hcut : chunks.flatten = stream commands)
    (hwell : WellCut side commands chunks) : Delivered side commands chunks := by
  have hall : actedIn side chunks = expected side commands :=
    (flatMap_acted_eq_expected_iff hcut hwell.two_le).2 hwell.starts
  intro s hs
  obtain ⟨handled, hsplit, hacted, hconn, hout⟩ := exists_handled hs
  have hmem : ∀ chunk ∈ handled, chunk ∈ chunks := fun chunk hc ↦ by
    rw [hsplit]
    exact List.mem_append_left _ (List.mem_append_left _ hc)
  have happend : expected side commands = s.acted ++ actedIn side (s.messages ++ s.unread) := by
    rw [← hall, hsplit, List.append_assoc, actedIn_append, hacted]
  refine ⟨?_, ⟨_, happend.symm⟩, fun hfinal ↦ ?_⟩
  · rw [hout, List.any_eq_false]
    intro chunk hc
    rw [Bool.not_eq_true, outside_eq_false_iff]
    exact ⟨hwell.two_le chunk (hmem chunk hc), fun hside ↦ hwell.refuse hside chunk (hmem chunk hc)⟩
  · -- nothing is posted any more; it remains that the unread data shows no command
    have hrest : actedIn side (s.messages ++ s.unread) = [] := by
      by_cases hc : s.connected
      · rw [messages_eq_nil_of_final hfinal, unread_eq_nil_of_final hfinal hc]
        rfl
      · rw [hconn] at hc
        obtain ⟨chunk, hchunk, hdis⟩ : ∃ chunk ∈ handled, (dispatch side chunk).disconnect := by
          simpa using hc
        exact hwell.actedIn_eq_nil (hacted ▸ happend) hchunk hdis
    rw [happend, hrest, List.append_nil]

/-! #### Two runs -/

/-- All reads of a connected receiver can be posted first. -/
theorem reach_read_all (h : (receiver side chunks).Reach s) (hconn : s.connected = true) :
    (receiver side chunks).Reach { s with unread := [], messages := s.messages ++ s.unread } := by
  obtain ⟨unread, messages, connected, acted, outside⟩ := s
  cases hconn
  induction unread generalizing messages with
  | nil => simpa using h
  | cons chunk unread ih =>
    have hread : (receiver side chunks).Reach
        ⟨unread, messages ++ [chunk], true, acted, outside⟩ := h.step (a := .read) rfl
    simpa using ih _ hread

/-- All posted messages can be handled. -/
theorem reach_handle_all (h : (receiver side chunks).Reach s) :
    ∃ s', (receiver side chunks).Reach s' ∧ s'.unread = s.unread ∧ s'.messages = [] ∧
      s'.acted = s.acted ++ actedIn side s.messages ∧
      s'.outside = (s.outside ||
        s.messages.any fun chunk ↦ (dispatch side chunk).outside chunk.length) := by
  obtain ⟨unread, messages, connected, acted, outside⟩ := s
  induction messages generalizing connected acted outside with
  | nil => exact ⟨_, h, rfl, rfl, by simp [actedIn], by simp⟩
  | cons chunk messages ih =>
    obtain ⟨s', hs', hu, hm, ha, ho⟩ := ih _ _ _ (h.step (a := .handle) rfl)
    refine ⟨s', hs', hu, hm, ?_, ?_⟩
    · rw [ha, List.append_assoc, ← actedIn_singleton side chunk, ← actedIn_append]
      rfl
    · rw [ho, List.any_cons, Bool.or_assoc]

/-- Reads that do not disconnect can be handled one by one, each before the next one is posted. -/
theorem reach_one_by_one {pre rest : List (List Byte)} {acted : List Command} {outside : Bool}
    (h : (receiver side chunks).Reach ⟨pre ++ rest, [], true, acted, outside⟩)
    (hpre : ∀ chunk ∈ pre, (dispatch side chunk).disconnect = false) :
    ∃ outside', (receiver side chunks).Reach
      ⟨rest, [], true, acted ++ actedIn side pre, outside'⟩ := by
  induction pre generalizing acted outside with
  | nil => exact ⟨outside, by simpa [actedIn] using h⟩
  | cons chunk pre ih =>
    have hread : (receiver side chunks).Reach ⟨pre ++ rest, [chunk], true, acted, outside⟩ :=
      h.step (a := .read) rfl
    have hhandle := hread.step (a := .handle) rfl
    simp only [hpre chunk List.mem_cons_self, Bool.not_false, Bool.and_true] at hhandle
    obtain ⟨outside', hreach⟩ := ih hhandle fun c hc ↦ hpre c (List.mem_cons_of_mem _ hc)
    refine ⟨outside', ?_⟩
    rwa [List.append_assoc, ← actedIn_singleton side chunk, ← actedIn_append] at hreach

/-! #### What is delivered -/

/-- A read that does not disconnect shows no command that does. -/
theorem disconnects_eq_false {chunk : List Byte} (h : (dispatch side chunk).disconnect = false)
    {c : Command} (hc : c ∈ (dispatch side chunk).acted) : side.disconnects c = false := by
  rw [disconnect_eq, List.any_eq_false] at h
  simpa using h c hc

/-- At most one command is acted on in a read. -/
theorem length_acted_le_one (side : Side) {chunk : List Byte} (h : 2 ≤ chunk.length) :
    (dispatch side chunk).acted.length ≤ 1 := by
  by_cases hno : side = .server → ¬ (readBuffer chunk 1 = 0x07#8 ∧ readBuffer chunk 2 = 0x03#8)
  · rw [acted_eq h hno]
    cases (chunk[1]?).bind side.react <;> simp
  · push Not at hno
    obtain ⟨rfl, h7, h3⟩ := hno
    simp [dispatch, serverDispatch, h7, h3]

/-- The reads up to the first one that disconnects. -/
theorem exists_first_disconnect (h : ∃ chunk ∈ chunks, (dispatch side chunk).disconnect) :
    ∃ pre chunk post, chunks = pre ++ chunk :: post ∧ (dispatch side chunk).disconnect ∧
      ∀ c ∈ pre, (dispatch side c).disconnect = false := by
  obtain ⟨chunk, hsome⟩ := Option.isSome_iff_exists.1 (List.find?_isSome.2 h)
  obtain ⟨hchunk, pre, post, hl, hpre⟩ := List.find?_eq_some_iff_append.1 hsome
  exact ⟨pre, chunk, post, hl, hchunk, fun c hc ↦ by simpa using hpre c hc⟩

/-- The run that posts everything first handles every read: all of them are acted on as expected,
within the bytes received. -/
theorem Delivered.reads (hdel : Delivered side commands chunks) :
    actedIn side chunks = expected side commands ∧
      ∀ chunk ∈ chunks, (dispatch side chunk).outside chunk.length = false := by
  obtain ⟨s, hs, hunread, hmessages, hacted, hout⟩ :=
    reach_handle_all (reach_read_all (s := (receiver side chunks).init) .init rfl)
  have hfinal : (receiver side chunks).Final s := by
    rintro (_ | _)
    · simp [receiver, hunread]
    · simp [receiver, hmessages]
  obtain ⟨hinside, -, hend⟩ := hdel s hs
  constructor
  · rw [← hend hfinal, hacted]
    rfl
  · rw [hinside] at hout
    intro chunk hmem
    have hany : (chunks.any fun chunk ↦ (dispatch side chunk).outside chunk.length) = false :=
      hout.symm
    simpa using List.any_eq_false.1 hany chunk hmem

/-- The run that handles each read at once ends at the first read that disconnects, so nothing is
acted on after it. -/
theorem Delivered.acted_up_to (hdel : Delivered side commands chunks)
    {pre post : List (List Byte)} {chunk : List Byte} (hl : chunks = pre ++ chunk :: post)
    (hchunk : (dispatch side chunk).disconnect)
    (hpre : ∀ c ∈ pre, (dispatch side c).disconnect = false) :
    actedIn side pre ++ (dispatch side chunk).acted = expected side commands := by
  have hinit : (receiver side chunks).Reach ⟨pre ++ chunk :: post, [], true, [], false⟩ := by
    rw [← hl]
    exact .init
  obtain ⟨out, hreach⟩ := reach_one_by_one hinit hpre
  have hread : (receiver side chunks).Reach
      ⟨post, [chunk], true, [] ++ actedIn side pre, out⟩ := hreach.step (a := .read) rfl
  have hhandle := hread.step (a := .handle) rfl
  simp only [hchunk, Bool.not_true, Bool.and_false] at hhandle
  obtain ⟨-, -, hend⟩ := hdel _ hhandle
  refine hend ?_
  rintro (_ | _)
  · cases post <;> simp [receiver]
  · rfl

/-- Of the commands that are acted on, only the last one disconnects. -/
theorem Delivered.last (hdel : Delivered side commands chunks)
    (htwo : ∀ chunk ∈ chunks, 2 ≤ chunk.length) :
    ∀ c ∈ (expected side commands).dropLast, side.disconnects c = false := by
  intro c hc
  by_cases hdis : ∃ chunk ∈ chunks, (dispatch side chunk).disconnect
  · obtain ⟨pre, chunk, post, hl, hchunk, hpre⟩ := exists_first_disconnect hdis
    have hone := length_acted_le_one side (htwo chunk (by simp [hl]))
    rw [← hdel.acted_up_to hl hchunk hpre] at hc
    -- the read that disconnects shows the last command, if any, so `c` is from a read before it
    have hcpre : c ∈ actedIn side pre := by
      rcases hlast : (dispatch side chunk).acted with _ | ⟨d, rest⟩
      · rw [hlast, List.append_nil] at hc
        exact List.dropLast_subset _ hc
      · obtain rfl : rest = [] := by
          rw [hlast] at hone
          simpa using hone
        rwa [hlast, List.dropLast_concat] at hc
    obtain ⟨chunk', hmem', hc'⟩ := List.mem_flatMap.1 hcpre
    exact disconnects_eq_false (hpre chunk' hmem') hc'
  · rw [← hdel.reads.1] at hc
    obtain ⟨chunk, hmem, hc'⟩ := List.mem_flatMap.1 (List.dropLast_subset _ hc)
    refine disconnects_eq_false ?_ hc'
    rw [← Bool.not_eq_true]
    exact fun htrue ↦ hdis ⟨chunk, hmem, htrue⟩

/-- What is delivered in every run is well cut. -/
theorem Delivered.wellCut (hcut : chunks.flatten = stream commands)
    (hdel : Delivered side commands chunks) : WellCut side commands chunks := by
  obtain ⟨hall, hreads⟩ := hdel.reads
  have htwo : ∀ chunk ∈ chunks, 2 ≤ chunk.length := fun chunk hmem ↦
    (outside_eq_false_iff.1 (hreads chunk hmem)).1
  refine ⟨htwo, fun hside chunk hmem ↦ (outside_eq_false_iff.1 (hreads chunk hmem)).2 hside,
    (flatMap_acted_eq_expected_iff hcut htwo).1 hall, ?_⟩
  rw [← expected_eq_filter]
  exact hdel.last htwo

end Runs

/-- **Delivery of commands.** For every sequence of commands and every way to cut its bytes into
reads, the listener acts on exactly that sequence, in every run and within the bytes received, if
and only if the stream is well cut. -/
theorem delivered_iff {side : Side} {commands : List Command} {chunks : List (List Byte)}
    (hcut : chunks.flatten = stream commands) :
    Delivered side commands chunks ↔ WellCut side commands chunks :=
  ⟨fun hdel ↦ hdel.wellCut hcut, fun hwell ↦ hwell.delivered hcut⟩

/-- A request and a hang-up, the latter in two reads, reach the server. -/
theorem delivered_request_handUp :
    Delivered .server [.requestVideo, .handUpVideo]
      [[0xee#8, 0x01#8, 0x00#8, 0x00#8], [0xee#8, 0x02#8], [0x00#8, 0x00#8]] := by
  refine (delivered_iff (by decide)).2 ⟨by decide, by decide, fun k c hc hacts ↦ ?_, by decide⟩
  match k, hc with
  | 0, _ => decide
  | 1, _ => decide
  | k + 2, hc => simp at hc

/-- In one read of 8 bytes, the hang-up after the request is lost. -/
theorem delivered_one_read_false :
    ([stream [.requestVideo, .handUpVideo]].flatten = stream [.requestVideo, .handUpVideo] ∧
        ∀ chunk ∈ [stream [.requestVideo, .handUpVideo]], 1 ≤ chunk.length ∧ chunk.length ≤ 1024) ∧
      ¬ Delivered .server [.requestVideo, .handUpVideo] [stream [.requestVideo, .handUpVideo]] := by
  refine ⟨by decide, fun hdel ↦ ?_⟩
  have hwell := Delivered.wellCut (by decide) hdel
  exact absurd (hwell.starts 1 .handUpVideo rfl rfl) (by decide)

end DoorIntercom
