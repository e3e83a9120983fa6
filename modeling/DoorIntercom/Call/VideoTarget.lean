import DoorIntercom.Call.Requests

/-!
# Where the caller's video goes

The answer of the phone that is called says only that it accepts. The caller then sends its video to
the address in its field `address`, which the enter key sets and `btn_start` connects to; the
connection that the answer came from is not asked. Socket threads and messages of earlier calls may
still be there when the field changes.

As long as the address changes only while no socket thread runs and no answer is waiting
(`ChangesBetweenCalls`), the videos go to the phones that have accepted, in the order of their
answers (`videos_of_reachIf`). Otherwise the video can go to a phone that has not accepted, and has
not even been called (`exists_video_elsewhere`).

An answer is a read whose bytes begin with one; which phone it comes from is the stream in the field
when the read ends. Where the address changes so, all streams in use lead to the same phone.
-/

namespace DoorIntercom

variable {α : Type}

/-- The addresses that a handler opens the video to. -/
def videosOf (effects : List (Effect α)) : List (Option α) :=
  effects.filterMap fun effect ↦
    match effect with
    | .initSocket address => some address
    | _ => none

/-- The client and where it connects to: the `ip` of every socket thread and the address that every
socket is connected to. The last two fields are a history: the phones whose answers have been read,
and the addresses that the client's listener has opened the video to. -/
structure Dialled (α : Type) where
  client : ClientState α
  ips : List (Option α)
  peers : List (Option α)
  accepts : List (Option α)
  videos : List (Option α)

/-- What can happen next. The enter key sets the address, and does not call (`onKeyUp_eq`). -/
inductive DialledEvent (α : Type)
  | client (e : ClientEvent α)
  | enterKey (dest : α)
  deriving DecidableEq, Repr

namespace Dialled

def idle : Dialled α := ⟨.idle, [], [], [], []⟩

/-- The field `address`. -/
def address (s : Dialled α) : Option α := s.client.activity.address

/-- The address that a statement of a socket thread connects a socket to. -/
def connectsTo (s : Dialled α) (i : ℕ) (t : SocketThread) (o : Outcome) : List (Option α) :=
  if t.pc = .create ∧ o ≠ .throws then s.ips[i]?.toList else []

/-- The phone whose answer a statement of a socket thread reads. -/
def acceptedBy (s : Dialled α) (t : SocketThread) (o : Outcome) : List (Option α) :=
  match s.client.mInputStream with
  | some socket =>
    if t.pc = .read ∧ socket ∈ s.client.openSockets ∧ o = .reads .acceptVideo then
      s.peers[socket]?.toList
    else []
  | none => []

/-- What is recorded of a step of the client to a new state. -/
def record (s : Dialled α) (client : ClientState α) : ClientEvent α → Dialled α
  | .ui .handleMessage =>
    { s with
      client
      videos := s.videos ++ s.client.messages.head?.elim [] fun m ↦
        videosOf (s.client.activity.handleMessage m).2 }
  | .uiThread =>
    { s with
      client
      ips := if s.client.todo.head? = some .connect then s.ips ++ [s.address] else s.ips }
  | .socketThread i o =>
    match s.client.socketThreads[i]? with
    | some t =>
      { s with
        client
        peers := s.peers ++ s.connectsTo i t o
        accepts := s.accepts ++ s.acceptedBy t o }
    | none => { s with client }
  | _ => { s with client }

/-- The step of an event. -/
def step (s : Dialled α) : DialledEvent α → Option (Dialled α)
  | .client e => (s.client.step e).map fun client ↦ s.record client e
  | .enterKey dest =>
    if s.client.crashed = false ∧ s.client.todo = [] then
      some { s with
        client := { s.client with
          activity := { s.client.activity with address := some dest } } }
    else none

/-- No call is pending: every socket thread has finished, and no answer is waiting. -/
def Quiet (s : Dialled α) : Prop :=
  (∀ t ∈ s.client.socketThreads, t.pc = .finished) ∧
    .clientData .acceptVideo ∉ s.client.messages

/-- The address changes only while no call is pending. -/
def ChangesBetweenCalls (s : Dialled α) : DialledEvent α → Prop
  | .enterKey dest => some dest = s.address ∨ s.Quiet
  | .client (.ui (.callVideo dest)) => dest.or s.address = s.address ∨ s.Quiet
  | _ => True

end Dialled

/-- The client and where it connects to. -/
def dialled (α : Type) : TransitionSystem (Dialled α) (DialledEvent α) where
  init := .idle
  step := Dialled.step

/-! ### The invariant -/

/-- A thread here has created a socket and is about to look at the field. -/
def Pc.usesSocket : Pc → Bool
  | .testConnect | .getOutput | .getInput => true
  | _ => false

/-- A thread here has set the stream, and may read from the field. -/
def Pc.usesStream : Pc → Bool
  | .resetStop | .postSuccess | .loop | .read => true
  | _ => false

namespace Dialled

/-- The answers that are waiting. -/
def waiting (s : Dialled α) : ℕ := s.client.messages.count (.clientData .acceptVideo)

/-- Everything that is pending goes to the address in the field. -/
structure Directed (s : Dialled α) : Prop where
  ips : s.ips.length = s.client.socketThreads.length
  peers : s.peers.length = s.client.created
  threads : ∀ (i : ℕ) (t : SocketThread), s.client.socketThreads[i]? = some t → t.pc ≠ .finished →
    s.ips[i]? = some s.address
  socket : ∀ t ∈ s.client.socketThreads, t.pc.usesSocket = true →
    ∀ k, s.client.mSocket = some k → s.peers[k]? = some s.address
  stream : ∀ t ∈ s.client.socketThreads, t.pc.usesStream = true →
    ∀ k, s.client.mInputStream = some k → s.peers[k]? = some s.address
  accepts : s.accepts = s.videos ++ List.replicate s.waiting s.address

section Steps

variable {s s' : Dialled α} {client : ClientState α} {i : ℕ} {t : SocketThread} {o : Outcome}
  {pc : Pc}

theorem connectsTo_of_ne (hpc : t.pc ≠ .create) : s.connectsTo i t o = [] := by
  rw [connectsTo, if_neg fun hand ↦ hpc hand.1]

theorem acceptedBy_of_ne (hpc : t.pc ≠ .read) : s.acceptedBy t o = [] := by
  rw [acceptedBy]
  split
  · rw [if_neg fun hand ↦ hpc hand.1]
  · rfl

theorem directed_idle : (idle : Dialled α).Directed where
  ips := rfl
  peers := rfl
  threads i t hget := by cases hget
  socket t ht := by cases ht
  stream t ht := by cases ht
  accepts := rfl

/-- A step that starts no thread, creates no socket and reads nothing. -/
theorem Directed.congr (h : s.Directed)
    (hthreads : client.socketThreads.map SocketThread.pc =
      s.client.socketThreads.map SocketThread.pc)
    (hcreated : client.created = s.client.created)
    (hsocket : client.mSocket = s.client.mSocket ∨ client.mSocket = none)
    (hstream : client.mInputStream = s.client.mInputStream)
    (hmessages : client.messages = s.client.messages)
    (haddress : client.activity.address = s.address) :
    ({ s with client } : Dialled α).Directed := by
  have hmem : ∀ t ∈ client.socketThreads, ∃ t' ∈ s.client.socketThreads, t'.pc = t.pc := by
    intro t ht
    have hpc : t.pc ∈ s.client.socketThreads.map SocketThread.pc :=
      hthreads ▸ List.mem_map_of_mem ht
    exact List.mem_map.1 hpc
  refine ⟨?_, h.peers.trans hcreated.symm, fun i t hget hpc ↦ ?_, fun t ht hpc k hk ↦ ?_,
    fun t ht hpc k hk ↦ ?_, ?_⟩
  · rw [h.ips, ← List.length_map (f := SocketThread.pc), ← hthreads, List.length_map]
  · have hpcs := congrArg (·[i]?) hthreads
    simp only [List.getElem?_map, hget, Option.map_some] at hpcs
    obtain ⟨t', hget', hpc'⟩ := Option.map_eq_some_iff.1 hpcs.symm
    exact (h.threads i t' hget' (hpc' ▸ hpc)).trans (congrArg some haddress.symm)
  · obtain ⟨t', ht', hpc'⟩ := hmem t ht
    have hk' : s.client.mSocket = some k := by
      rcases hsocket with hsocket | hsocket
      · exact hsocket ▸ hk
      · rw [show ({ s with client } : Dialled α).client.mSocket = none from hsocket] at hk
        cases hk
    exact (h.socket t' ht' (hpc' ▸ hpc) k hk').trans (congrArg some haddress.symm)
  · obtain ⟨t', ht', hpc'⟩ := hmem t ht
    exact (h.stream t' ht' (hpc' ▸ hpc) k (hstream ▸ hk)).trans (congrArg some haddress.symm)
  · rw [waiting, hmessages]
    exact h.accepts.trans (congrArg _ (congrArg _ haddress.symm))

/-- **A thread goes on** without connecting, and reads no answer. -/
theorem Directed.goto (h : s.Directed) (hget : s.client.socketThreads[i]? = some t)
    (hpc : t.pc ≠ .finished)
    (hthreads : client.socketThreads = s.client.socketThreads.set i { t with pc })
    (hcreated : client.created = s.client.created)
    (hactivity : client.activity = s.client.activity)
    (hwaiting : client.messages.count (.clientData .acceptVideo) = s.waiting)
    (hsocket : pc.usesSocket = true → t.pc.usesSocket = true)
    (hmSocket : client.mSocket = s.client.mSocket ∨ client.mSocket = none)
    (hstream : (pc.usesStream = true → t.pc.usesStream = true) ∧
        client.mInputStream = s.client.mInputStream ∨
      t.pc.usesSocket = true ∧ client.mInputStream = s.client.mSocket) :
    ({ s with client } : Dialled α).Directed := by
  have haddress : client.activity.address = s.address := by rw [hactivity, address]
  have hmem : ∀ t' ∈ client.socketThreads, t' ∈ s.client.socketThreads ∨ t' = { t with pc } := by
    intro t' ht'
    exact List.mem_or_eq_of_mem_set (hthreads ▸ ht')
  have ht : t ∈ s.client.socketThreads := List.mem_of_getElem? hget
  refine ⟨?_, h.peers.trans hcreated.symm, fun j t' hget' hpc' ↦ ?_, fun t' ht' hpc' k hk ↦ ?_,
    fun t' ht' hpc' k hk ↦ ?_, ?_⟩
  · rw [h.ips, hthreads, List.length_set]
  · rw [hthreads, List.getElem?_set] at hget'
    refine Eq.trans ?_ (congrArg some haddress.symm)
    split_ifs at hget' with hij
    · exact hij ▸ h.threads i t hget hpc
    · exact h.threads j t' hget' hpc'
  · refine Eq.trans ?_ (congrArg some haddress.symm)
    have hk' : s.client.mSocket = some k := by
      rcases hmSocket with hmSocket | hmSocket
      · exact hmSocket ▸ hk
      · cases hmSocket.symm.trans hk
    rcases hmem t' ht' with ht' | rfl
    · exact h.socket t' ht' hpc' k hk'
    · exact h.socket t ht (hsocket hpc') k hk'
  · refine Eq.trans ?_ (congrArg some haddress.symm)
    rcases hstream with ⟨hstream, hkeep⟩ | ⟨huses, hset⟩
    · have hk' : s.client.mInputStream = some k := hkeep ▸ hk
      rcases hmem t' ht' with ht' | rfl
      · exact h.stream t' ht' hpc' k hk'
      · exact h.stream t ht (hstream hpc') k hk'
    · -- the stream is that of the socket in the field
      exact h.socket t ht huses k (hset ▸ hk)
  · rw [waiting, hwaiting]
    exact h.accepts.trans (congrArg _ (congrArg _ haddress.symm))

theorem count_post {m : Activity.Message} (hm : m ≠ .clientData .acceptVideo) :
    (s.client.post m).messages.count (.clientData .acceptVideo) = s.waiting := by
  rw [ClientState.post, List.count_append, List.count_singleton, if_neg (by simpa using hm),
    Nat.add_zero, waiting]

/-- **A socket is created**, to the address in the field. -/
theorem Directed.create (h : s.Directed) (hget : s.client.socketThreads[i]? = some t)
    (hpc : t.pc = .create) :
    ({ s with
      client := s.client.createSocket.goto i t .testConnect
      peers := s.peers ++ [s.address] } : Dialled α).Directed := by
  have hold : ∀ k : ℕ, s.peers[k]? = some s.address →
      (s.peers ++ [s.address])[k]? = some s.address := by
    intro k hk
    rw [List.getElem?_append_left (List.getElem?_eq_some_iff.1 hk).1]
    exact hk
  refine ⟨?_, ?_, fun j t' hget' hpc' ↦ ?_, fun t' ht' hpc' k hk ↦ ?_,
    fun t' ht' hpc' k hk ↦ hold k ?_, h.accepts⟩
  · exact h.ips.trans List.length_set.symm
  · rw [List.length_append, h.peers]
    rfl
  · have hset : (s.client.socketThreads.set i { t with pc := .testConnect })[j]? = some t' := hget'
    rw [List.getElem?_set] at hset
    split_ifs at hset with hij
    · exact hij ▸ h.threads i t hget (by simp [hpc])
    · exact h.threads j t' hset hpc'
  · obtain rfl : s.client.created = k := Option.some.inj hk
    rw [← h.peers]
    exact List.getElem?_concat_length
  · rcases List.mem_or_eq_of_mem_set ht' with ht' | rfl
    · exact h.stream t' ht' hpc' k hk
    · cases hpc'

/-- **An answer is read**, from the phone whose address is in the field. -/
theorem Directed.accept (h : s.Directed) (hget : s.client.socketThreads[i]? = some t)
    (hpc : t.pc = .read) :
    ({ s with
      client := (s.client.post (.clientData .acceptVideo)).goto i t .loop
      accepts := s.accepts ++ [s.address] } : Dialled α).Directed := by
  have hgoto : ({ s with client := s.client.goto i t .loop } : Dialled α).Directed :=
    h.goto hget (by simp [hpc]) rfl rfl rfl rfl (by simp [Pc.usesSocket]) (Or.inl rfl)
      (Or.inl ⟨fun _ ↦ by rw [hpc]; rfl, rfl⟩)
  refine { hgoto with accepts := ?_ }
  change s.accepts ++ [s.address] = s.videos ++
    List.replicate ((s.client.messages ++ [Activity.Message.clientData .acceptVideo]).count _)
      s.address
  rw [h.accepts, List.count_append, List.append_assoc]
  exact congrArg (s.videos ++ ·) List.replicate_succ'.symm

/-- **The other statements of a socket thread.** -/
theorem Directed.runSocketThread_other (h : s.Directed)
    (hget : s.client.socketThreads[i]? = some t) (hpc : t.pc ≠ .finished) (hcreate : t.pc ≠ .create)
    (hread : t.pc ≠ .read) :
    ({ s with client := s.client.runSocketThread i t o } : Dialled α).Directed := by
  have hcrash : ({ s with client := s.client.crash } : Dialled α).Directed :=
    h.congr rfl rfl (Or.inl rfl) rfl rfl rfl
  cases hpc' : t.pc with
  | testOld =>
    simp only [ClientState.runSocketThread, hpc']
    refine h.goto hget hpc rfl rfl rfl rfl ?_ (Or.inl rfl) (Or.inl ⟨?_, rfl⟩)
    · split_ifs <;> simp [Pc.usesSocket]
    · split_ifs <;> simp [Pc.usesStream]
  | closeOld =>
    simp only [ClientState.runSocketThread, hpc']
    split
    · exact h.goto hget hpc rfl rfl rfl rfl (by simp [Pc.usesSocket]) (Or.inl rfl)
        (Or.inl ⟨by simp [Pc.usesStream], rfl⟩)
    · exact hcrash
  | nullOld =>
    simp only [ClientState.runSocketThread, hpc']
    exact h.goto hget hpc rfl rfl rfl rfl (by simp [Pc.usesSocket]) (Or.inr rfl)
      (Or.inl ⟨by simp [Pc.usesStream], rfl⟩)
  | testConnect =>
    simp only [ClientState.runSocketThread, hpc']
    refine h.goto hget hpc rfl rfl rfl rfl (fun _ ↦ by rw [hpc']; rfl) (Or.inl rfl)
      (Or.inl ⟨?_, rfl⟩)
    split_ifs <;> simp [Pc.usesStream]
  | getOutput =>
    simp only [ClientState.runSocketThread, hpc']
    split
    · split_ifs
      · exact h.goto hget hpc rfl rfl rfl rfl (fun _ ↦ by rw [hpc']; rfl) (Or.inl rfl)
          (Or.inl ⟨by simp [Pc.usesStream], rfl⟩)
      · exact h.goto hget hpc rfl rfl rfl rfl (by simp [Pc.usesSocket]) (Or.inl rfl)
          (Or.inl ⟨by simp [Pc.usesStream], rfl⟩)
    · exact hcrash
  | getInput =>
    simp only [ClientState.runSocketThread, hpc']
    split
    next socket hsocket =>
      split_ifs
      · exact h.goto hget hpc rfl rfl rfl rfl (by simp [Pc.usesSocket]) (Or.inl rfl)
          (Or.inr ⟨by rw [hpc']; rfl, hsocket.symm⟩)
      · exact h.goto hget hpc rfl rfl rfl rfl (by simp [Pc.usesSocket]) (Or.inl rfl)
          (Or.inl ⟨by simp [Pc.usesStream], rfl⟩)
    next => exact hcrash
  | resetStop =>
    simp only [ClientState.runSocketThread, hpc']
    exact h.goto hget hpc rfl rfl rfl rfl (by simp [Pc.usesSocket]) (Or.inl rfl)
      (Or.inl ⟨fun _ ↦ by rw [hpc']; rfl, rfl⟩)
  | postSuccess =>
    simp only [ClientState.runSocketThread, hpc']
    exact h.goto hget hpc rfl rfl rfl (count_post (by simp)) (by simp [Pc.usesSocket]) (Or.inl rfl)
      (Or.inl ⟨fun _ ↦ by rw [hpc']; rfl, rfl⟩)
  | postFail =>
    simp only [ClientState.runSocketThread, hpc']
    exact h.goto hget hpc rfl rfl rfl (count_post (by simp)) (by simp [Pc.usesSocket]) (Or.inl rfl)
      (Or.inl ⟨by simp [Pc.usesStream], rfl⟩)
  | loop =>
    simp only [ClientState.runSocketThread, hpc']
    refine h.goto hget hpc rfl rfl rfl rfl ?_ (Or.inl rfl) (Or.inl ⟨fun _ ↦ by rw [hpc']; rfl, rfl⟩)
    split_ifs <;> simp [Pc.usesSocket]
  | create => exact absurd hpc' hcreate
  | read => exact absurd hpc' hread
  | finished => exact absurd hpc' hpc

/-- **Every statement of a socket thread.** -/
theorem Directed.runSocketThread (h : s.Directed) (hget : s.client.socketThreads[i]? = some t)
    (hpc : t.pc ≠ .finished) :
    ({ s with
      client := s.client.runSocketThread i t o
      peers := s.peers ++ s.connectsTo i t o
      accepts := s.accepts ++ s.acceptedBy t o } : Dialled α).Directed := by
  have hgoto {pc : Pc} (hsocket : pc.usesSocket = false)
      (hstream : pc.usesStream = true → t.pc.usesStream = true) :
      ({ s with client := s.client.goto i t pc } : Dialled α).Directed :=
    h.goto hget hpc rfl rfl rfl rfl (by simp [hsocket]) (Or.inl rfl) (Or.inl ⟨hstream, rfl⟩)
  cases hpc' : t.pc with
  | create =>
    have hnot (o : Outcome) : s.acceptedBy t o = [] := acceptedBy_of_ne (by simp [hpc'])
    by_cases hthrows : o = .throws
    · simp only [hnot, ClientState.runSocketThread, connectsTo, hpc', hthrows, if_true, ne_eq,
        not_true, and_false, if_false, List.append_nil]
      exact hgoto rfl (by simp [Pc.usesStream])
    · simp only [hnot, ClientState.runSocketThread, connectsTo, hpc', hthrows, if_false, ne_eq,
        not_false_eq_true, and_true, if_true, List.append_nil, h.threads i t hget hpc]
      exact h.create hget hpc'
  | read =>
    have hnot (o : Outcome) : s.connectsTo i t o = [] := connectsTo_of_ne (by simp [hpc'])
    have huses : t.pc.usesStream = true := by rw [hpc']; rfl
    cases hstream : s.client.mInputStream with
    | none =>
      simp only [hnot, ClientState.runSocketThread, acceptedBy, hpc', hstream, List.append_nil]
      exact hgoto rfl fun _ ↦ huses
    | some socket =>
      by_cases hopen : socket ∈ s.client.openSockets
      · cases o with
        | returns | throws =>
          simp only [hnot, ClientState.runSocketThread, acceptedBy, hpc', hstream, hopen, if_true,
            reduceCtorEq, and_false, if_false, List.append_nil]
          exact hgoto rfl fun _ ↦ huses
        | reads c =>
          by_cases hc : c = .acceptVideo
          · simp only [hnot, ClientState.runSocketThread, acceptedBy, hpc', hstream, hopen, hc,
              if_true, and_self, List.append_nil,
              h.stream t (List.mem_of_getElem? hget) huses socket hstream]
            exact h.accept hget hpc'
          · simp only [hnot, ClientState.runSocketThread, acceptedBy, hpc', hstream, hopen, hc,
              if_true, Outcome.reads.injEq, and_false, if_false, List.append_nil]
            exact h.goto hget hpc rfl rfl rfl (count_post (by simpa using hc))
              (by simp [Pc.usesSocket]) (Or.inl rfl) (Or.inl ⟨fun _ ↦ huses, rfl⟩)
      · simp only [hnot, ClientState.runSocketThread, acceptedBy, hpc', hstream, hopen, if_false,
          false_and, and_false, List.append_nil]
        exact hgoto rfl fun _ ↦ huses
  | finished => exact absurd hpc' hpc
  | _ =>
    have hconnects (o : Outcome) : s.connectsTo i t o = [] := connectsTo_of_ne (by simp [hpc'])
    have haccepted (o : Outcome) : s.acceptedBy t o = [] := acceptedBy_of_ne (by simp [hpc'])
    simp only [hconnects, haccepted, List.append_nil]
    exact h.runSocketThread_other hget hpc (by simp [hpc']) (by simp [hpc'])

/-! ### The other steps -/

/-- **A statement of the main thread.** -/
theorem Directed.runUi {st : UiStatement} {todo : List UiStatement} (h : s.Directed)
    (htodo : s.client.todo = st :: todo) :
    (s.record ({ s.client with todo }.runUi st) .uiThread).Directed := by
  have hrest (hne : st ≠ .connect) (client : ClientState α) :
      s.record client .uiThread = { s with client } := by
    rw [record, if_neg (by rw [htodo]; simpa using hne)]
  cases st with
  | connect =>
    have hrecord (client : ClientState α) :
        s.record client .uiThread = { s with client, ips := s.ips ++ [s.address] } := by
      rw [record, if_pos (by rw [htodo]; rfl)]
    rw [hrecord]
    let new : SocketThread := ⟨.testOld, false⟩
    have hmem : ∀ t ∈ s.client.socketThreads ++ [new], t ∈ s.client.socketThreads ∨ t = new := by
      intro t ht
      rcases List.mem_append.1 ht with ht | ht
      · exact Or.inl ht
      · exact Or.inr (List.mem_singleton.1 ht)
    refine { h with
      ips := ?_
      threads := fun j t hget hpc ↦ ?_
      socket := fun t ht huses ↦ ?_
      stream := fun t ht huses ↦ ?_ }
    · change (s.ips ++ [s.address]).length = (s.client.socketThreads ++ [new]).length
      rw [List.length_append, List.length_append, h.ips]
      rfl
    · change (s.client.socketThreads ++ [new])[j]? = some t at hget
      change (s.ips ++ [s.address])[j]? = some s.address
      by_cases hj : j < s.client.socketThreads.length
      · rw [List.getElem?_append_left hj] at hget
        rw [List.getElem?_append_left (h.ips ▸ hj)]
        exact h.threads j t hget hpc
      · -- the new thread connects to the address in the field
        have hle := (List.getElem?_eq_some_iff.1 hget).1
        rw [List.length_append, List.length_singleton] at hle
        rw [show j = s.ips.length by rw [h.ips]; omega]
        exact List.getElem?_concat_length
    · rcases hmem t ht with ht | rfl
      · exact h.socket t ht huses
      · cases huses
    · rcases hmem t ht with ht | rfl
      · exact h.stream t ht huses
      · cases huses
  | interrupt =>
    rw [hrest (by simp), ClientState.runUi]
    split
    next k hk =>
      exact h.congr (ClientState.map_pc_interrupt _ k) rfl (Or.inl rfl) rfl rfl rfl
    next => exact h.congr rfl rfl (Or.inl rfl) rfl rfl rfl
  | nullSocket =>
    rw [hrest (by simp)]
    exact h.congr rfl rfl (Or.inr rfl) rfl rfl rfl
  | send | setStop | endStop =>
    rw [hrest (by simp)]
    exact h.congr rfl rfl (Or.inl rfl) rfl rfl rfl
  | closeOutput =>
    obtain ⟨openSockets, -, -, heq⟩ := ClientState.runUi_closeOutput { s.client with todo }
    rw [hrest (by simp), heq]
    exact h.congr rfl rfl (Or.inl rfl) rfl rfl rfl
  | closeInput =>
    obtain ⟨openSockets, -, -, heq⟩ := ClientState.runUi_closeInput { s.client with todo }
    rw [hrest (by simp), heq]
    exact h.congr rfl rfl (Or.inl rfl) rfl rfl rfl
  | testSocket =>
    rw [hrest (by simp), ClientState.runUi]
    split_ifs <;> exact h.congr rfl rfl (Or.inl rfl) rfl rfl rfl
  | closeSocket =>
    rw [hrest (by simp), ClientState.runUi]
    split <;> exact h.congr rfl rfl (Or.inl rfl) rfl rfl rfl

/-- A handler starts, and the address stays. -/
theorem Directed.handle (h : s.Directed) {r : Activity α × List (Effect α)}
    (haddress : r.1.address = s.address) (last : List UiStatement) :
    ({ s with client := s.client.handle r last } : Dialled α).Directed :=
  h.congr rfl rfl (Or.inl rfl) rfl rfl haddress

/-- No message changes the address, and only an answer opens the video. -/
theorem handleMessage_spec (a : Activity α) (m : Activity.Message) :
    (a.handleMessage m).1.address = a.address ∧
      (m ≠ .clientData .acceptVideo → videosOf (a.handleMessage m).2 = []) := by
  cases m with
  | clientConnectSuccess => exact ⟨rfl, fun _ ↦ rfl⟩
  | clientConnectFail =>
    rw [Activity.handleMessage, Activity.clientConnectFail]
    split_ifs <;> exact ⟨rfl, fun _ ↦ rfl⟩
  | clientData c =>
    cases c with
    | acceptVideo => exact ⟨rfl, fun hm ↦ absurd rfl hm⟩
    | requestVideo | handUpVideo | refuseVideo | ending => exact ⟨rfl, fun _ ↦ rfl⟩
  | serverConnectFail =>
    rw [Activity.handleMessage, Activity.serverConnectFail]
    split_ifs <;> exact ⟨rfl, fun _ ↦ rfl⟩
  | serverData c =>
    cases c with
    | handUpVideo =>
      rw [Activity.handleMessage, Activity.serverReceive]
      cases a.alertDialog2 <;> split_ifs <;> exact ⟨rfl, fun _ ↦ rfl⟩
    | requestVideo | acceptVideo | refuseVideo | ending => exact ⟨rfl, fun _ ↦ rfl⟩

/-- **The address changes** while no call is pending. -/
theorem Directed.setAddress (h : s.Directed) (hquiet : s.Quiet)
    (hthreads : client.socketThreads = s.client.socketThreads)
    (hcreated : client.created = s.client.created)
    (hmessages : client.messages = s.client.messages) :
    ({ s with client } : Dialled α).Directed := by
  have hfinished : ∀ t ∈ client.socketThreads, t.pc = .finished := fun t ht ↦
    hquiet.1 t (hthreads ▸ ht)
  have hwaiting : s.waiting = 0 := List.count_eq_zero.2 hquiet.2
  refine ⟨h.ips.trans (congrArg List.length hthreads.symm), h.peers.trans hcreated.symm,
    fun i t hget hpc ↦ absurd (hfinished t (List.mem_of_getElem? hget)) hpc,
    fun t ht huses ↦ ?_, fun t ht huses ↦ ?_, ?_⟩
  · rw [hfinished t ht] at huses
    cases huses
  · rw [hfinished t ht] at huses
    cases huses
  · have haccepts := h.accepts
    rw [hwaiting] at haccepts
    rw [waiting, hmessages, ← waiting, hwaiting]
    exact haccepts

/-- **The start of a handler.** -/
theorem Directed.startHandler {e : UiEvent α} (h : s.Directed)
    (hok : s.ChangesBetweenCalls (.client (.ui e))) (hs : s.client.startHandler e = some client) :
    (s.record client (.ui e)).Directed := by
  cases e with
  | callVideo dest =>
    cases hs
    rcases hok with hsame | hquiet
    · exact h.handle hsame []
    · exact h.setAddress hquiet rfl rfl rfl
  | stopClick =>
    cases hs
    exact h.handle rfl _
  | handleMessage =>
    rw [ClientState.startHandler] at hs
    split at hs
    next m messages hm =>
      cases hs
      obtain ⟨haddress, hvideos⟩ := handleMessage_spec s.client.activity m
      have hwaiting : s.waiting = messages.count (.clientData .acceptVideo) +
          if m = .clientData .acceptVideo then 1 else 0 := by
        rw [waiting, hm, List.count_cons]
        simp only [beq_iff_eq]
      have hrest := h.handle haddress []
      simp only [record, hm, List.head?_cons, Option.elim_some]
      refine { hrest with accepts := ?_ }
      have haccepts := h.accepts
      rw [hwaiting] at haccepts
      by_cases haccept : m = .clientData .acceptVideo
      · subst haccept
        rw [if_pos rfl, List.replicate_succ, ← List.singleton_append, ← List.append_assoc]
          at haccepts
        exact haccepts
      · rw [if_neg haccept, Nat.add_zero] at haccepts
        simp only [hvideos haccept, List.append_nil]
        change s.accepts = s.videos ++ List.replicate (messages.count _)
          (s.client.activity.handleMessage m).1.address
        rw [haddress]
        exact haccepts
    next => cases hs
  | serverConnectFail =>
    cases hs
    exact h.handle (handleMessage_spec _ _).1 []
  | serverData c =>
    cases hs
    exact h.handle (handleMessage_spec _ _).1 []
  | acceptClick dialog address =>
    simp only [ClientState.startHandler] at hs
    split_ifs at hs
    cases hs
    refine h.handle ?_ []
    rw [Activity.acceptClick]
    split_ifs <;> rfl
  | refuseClick dialog =>
    simp only [ClientState.startHandler] at hs
    split_ifs at hs
    cases hs
    exact h.handle rfl []

/-- **Every step** that keeps to the condition. -/
theorem Directed.step {e : DialledEvent α} (h : s.Directed) (hok : s.ChangesBetweenCalls e)
    (hstep : s.step e = some s') : s'.Directed := by
  cases e with
  | enterKey dest =>
    simp only [Dialled.step] at hstep
    split_ifs at hstep
    cases hstep
    rcases hok with hsame | hquiet
    · exact h.congr rfl rfl (Or.inl rfl) rfl rfl hsame
    · exact h.setAddress hquiet rfl rfl rfl
  | client e =>
    obtain ⟨client, hclient, rfl⟩ := Option.map_eq_some_iff.1 hstep
    cases e with
    | ui e =>
      simp only [ClientState.step] at hclient
      split_ifs at hclient
      exact h.startHandler hok hclient
    | uiThread =>
      simp only [ClientState.step] at hclient
      split_ifs at hclient
      split at hclient
      next st todo htodo =>
        cases hclient
        exact h.runUi htodo
      next => cases hclient
    | socketThread i o =>
      simp only [ClientState.step] at hclient
      split_ifs at hclient
      split at hclient
      next t hget =>
        split_ifs at hclient with hpc
        cases hclient
        simp only [record, hget]
        exact h.runSocketThread hget hpc
      next => cases hclient
    | sendThread i o =>
      simp only [ClientState.step] at hclient
      split_ifs at hclient
      obtain ⟨t, -, rfl⟩ := Option.map_eq_some_iff.1 hclient
      change ({ s with client := s.client.runSendThread i t o } : Dialled α).Directed
      rw [ClientState.runSendThread]
      repeat' split
      all_goals exact h.congr rfl rfl (Or.inl rfl) rfl rfl rfl

end Steps

end Dialled

/-- **The video goes to the phone that has accepted.** In every run in which the address changes
only while no socket thread runs and no answer is waiting, however the threads are interleaved and
whatever fails, the videos that the client's listener opens go, in order, to the phones whose
answers have been read, and only the answers that wait in the main thread's queue are left. -/
theorem videos_of_reachIf {s : Dialled α}
    (h : (dialled α).ReachIf Dialled.ChangesBetweenCalls s) :
    ∃ addresses, s.accepts = s.videos ++ addresses ∧
      addresses.length = s.client.messages.count (.clientData .acceptVideo) := by
  have hdirected : s.Directed :=
    h.invariant Dialled.directed_idle fun _ _ _ hs hok hstep ↦ hs.step hok hstep
  exact ⟨_, hdirected.accepts, List.length_replicate⟩

/-- Two calls, one after the other: the first one fails, the second phone accepts. -/
theorem videos_of_reachIf_second : ∃ s : Dialled ℕ,
    (dialled ℕ).ReachIf Dialled.ChangesBetweenCalls s ∧
      s.ips = [some 1, some 2] ∧ s.videos = [some 2] ∧
      ∃ addresses, s.accepts = s.videos ++ addresses ∧
        addresses.length = s.client.messages.count (.clientData .acceptVideo) := by
  let first : List (DialledEvent ℕ) := [.client (.ui (.callVideo none)), .client .uiThread,
    .client (.socketThread 0 .returns), .client (.socketThread 0 .throws),
    .client (.socketThread 0 .returns), .client (.ui .handleMessage)] ++
    List.replicate 5 (.client .uiThread)
  let second : List (DialledEvent ℕ) := [.client (.ui (.callVideo none)), .client .uiThread] ++
    List.replicate 8 (.client (.socketThread 1 .returns)) ++
    [.client (.socketThread 1 (.reads .acceptVideo)), .client (.ui .handleMessage),
      .client .uiThread, .client (.ui .handleMessage)]
  have hrun : ((dialled ℕ).step .idle (.enterKey 1)).any (fun s₁ ↦
      ((dialled ℕ).exec s₁ first).any fun s₂ ↦
        s₂.client.socketThreads.all (fun t ↦ t.pc = .finished) && s₂.client.messages = [] &&
        ((dialled ℕ).step s₂ (.enterKey 2)).any fun s₃ ↦ ((dialled ℕ).exec s₃ second).any fun s ↦
          s.ips = [some 1, some 2] && s.videos = [some 2]) = true := by
    decide +kernel
  simp only [Option.any_eq_true, Bool.and_eq_true, decide_eq_true_eq, List.all_eq_true] at hrun
  obtain ⟨s₁, hs₁, s₂, hs₂, ⟨hfinished, hmessages⟩, s₃, hs₃, s, hs, hips, hvideos⟩ := hrun
  have hinit : (dialled ℕ).ReachIf Dialled.ChangesBetweenCalls .idle := .init
  have hquiet : s₂.Quiet := ⟨hfinished, by rw [hmessages]; exact List.not_mem_nil⟩
  have hkey {s : Dialled ℕ} {dest : ℕ} (hquiet : s.Quiet) :
      s.ChangesBetweenCalls (.enterKey dest) := Or.inr hquiet
  -- `btn_start` keeps the address
  have hok (events : List (DialledEvent ℕ)) (hevents : events = first ∨ events = second)
      (s : Dialled ℕ) : ∀ e ∈ events, s.ChangesBetweenCalls e := by
    rcases hevents with rfl | rfl <;> simp [first, second, Dialled.ChangesBetweenCalls]
  have hreach₁ := hinit.step
    (hkey ⟨fun _ ht ↦ absurd ht List.not_mem_nil, List.not_mem_nil⟩) hs₁
  have hreach₂ := hreach₁.exec first (hok first (Or.inl rfl)) hs₂
  have hreach₃ := hreach₂.step (hkey hquiet) hs₃
  have hreach := hreach₃.exec second (hok second (Or.inr rfl)) hs
  exact ⟨s, hreach, hips, hvideos, videos_of_reachIf hreach⟩

/-- **The video goes elsewhere**: the answer of the first phone is waiting when the address of the
second one is looked up. -/
theorem exists_video_elsewhere : ∃ s : Dialled ℕ,
    (dialled ℕ).Reach s ∧ s.ips = [some 1] ∧ s.accepts = [some 1] ∧ s.videos = [some 2] := by
  have hrun : ((dialled ℕ).exec .idle ([.enterKey 1, .client (.ui (.callVideo none)),
      .client .uiThread] ++ List.replicate 8 (.client (.socketThread 0 .returns)) ++
      [.client (.socketThread 0 (.reads .acceptVideo)), .enterKey 2, .client (.ui .handleMessage),
        .client .uiThread, .client (.ui .handleMessage)])).any (fun s ↦
      s.ips = [some 1] && s.accepts = [some 1] && s.videos = [some 2]) = true := by
    decide +kernel
  simp only [Option.any_eq_true, Bool.and_eq_true, decide_eq_true_eq] at hrun
  obtain ⟨s, hs, ⟨hips, haccepts⟩, hvideos⟩ := hrun
  have hinit : (dialled ℕ).Reach .idle := .init
  exact ⟨s, hinit.exec hs, hips, haccepts, hvideos⟩

end DoorIntercom
