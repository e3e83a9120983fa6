import DoorIntercom.Call.TcpClient

/-!
# Stopping a pending call

`btn_stop`'s handler disconnects if `isConnect` holds when it is pressed. It does nothing for a
socket thread that has yet to create its socket: that thread connects, sets `isStop` back and posts
its success, and the main thread sends the request (`not_cancels_of_early_stop`).

After `btn_stop` is pressed in time (`StopsInTime`), the handler closes what is open, in two phases
(`ClientState.Closing`): until the stream is closed anything may be published; between that and
closing the socket, only the socket's own stream. From then on everything is closed, or no request
can come (`ClientState.Over`), and it stays so until the next call, whatever the threads do
(`ClientState.Cancelling.step`, `cancels_of_reachIf`).
-/

namespace DoorIntercom

variable {α : Type}

/-! ### The property -/

/-- `btn_stop`'s handler has run, and no call has been started since. -/
def stopped : List LogEntry → Bool
  | [] => false
  | .call :: _ => false
  | .stop :: _ => true
  | .write _ _ :: log => stopped log

/-- No request is written after a stop and before the next call. -/
def Cancels : List LogEntry → Prop
  | [] => True
  | .write c _ :: log => (c = .requestVideo → stopped log = false) ∧ Cancels log
  | _ :: log => Cancels log

/-! ### The condition -/

/-- What a message makes the main thread do to the client. -/
def Activity.Message.statements : Activity.Message → List UiStatement
  | .clientConnectSuccess => [.send .requestVideo]
  | .clientConnectFail => disconnect
  | .clientData .handUpVideo => disconnect
  | .clientData .refuseVideo => disconnect
  | _ => []

/-- A thread here can still create a socket; behind a `null` in `mSocket`, closing it ends the
process. -/
def Pc.creates (isConnect : Bool) : Pc → Bool
  | .testOld => true
  | .closeOld => isConnect
  | .nullOld => true
  | .create => true
  | _ => false

/-- Among the statements to come, the stream is closed before a request is sent; if none of them
does either, no success is posted either. -/
def noRequest (posting : Bool) : List UiStatement → Bool
  | [] => !posting
  | .send .requestVideo :: _ => false
  | .closeOutput :: _ => true
  | _ :: statements => noRequest posting statements

namespace ClientState

/-- No socket thread can still create a socket. -/
def NoCreate (s : ClientState α) : Prop :=
  ∀ t ∈ s.socketThreads, t.pc.creates s.isConnect = false

/-- The stream in `mOutputStream` is open. -/
def OutputOpen (s : ClientState α) : Prop := ∃ k ∈ s.mOutputStream, k ∈ s.openSockets

/-- The socket in `mSocket` is open. -/
def SocketOpen (s : ClientState α) : Prop := ∃ k ∈ s.mSocket, k ∈ s.openSockets

/-- A socket thread is about to post that it is connected. -/
def posting (s : ClientState α) : Bool :=
  s.socketThreads.any fun t ↦ t.pc = .resetStop || t.pc = .postSuccess

/-- No send thread has a request. -/
def NoRequestThread (s : ClientState α) : Prop := ∀ t ∈ s.sendThreads, t.mBuffer ≠ .requestVideo

/-- What the main thread is still to do: the rest of its handler and the messages. -/
def pending (s : ClientState α) : List UiStatement :=
  s.todo ++ s.messages.flatMap Activity.Message.statements

/-- No request can come any more, unless a call is started. -/
def NoRequest (s : ClientState α) : Prop :=
  s.NoRequestThread ∧ noRequest s.posting s.pending = true

end ClientState

/-- `btn_stop` is pressed when no thread can still create a socket, and `isConnect` holds, or there
is no open stream, or no request can come any more. -/
def StopsInTime (s : ClientState α) : ClientEvent α → Prop
  | .ui .stopClick =>
    s.NoCreate ∧ (s.isConnect = true ∨ ¬ s.OutputOpen ∨ s.NoRequest)
  | _ => True

/-! ### What the steps do -/

theorem statements_handleMessage (a : Activity α) (m : Activity.Message) :
    (a.handleMessage m).2.flatMap Effect.statements = m.statements := by
  cases m with
  | clientConnectSuccess => rfl
  | clientConnectFail =>
    rw [Activity.handleMessage, Activity.clientConnectFail]
    split_ifs <;> rfl
  | clientData c => cases c <;> rfl
  | serverConnectFail =>
    rw [Activity.handleMessage, Activity.serverConnectFail]
    split_ifs <;> rfl
  | serverData c =>
    cases c with
    | handUpVideo =>
      rw [Activity.handleMessage, Activity.serverReceive]
      split_ifs <;> rfl
    | requestVideo => rfl
    | acceptVideo => rfl
    | refuseVideo => rfl
    | ending => rfl

/-- What `btn_stop`'s handler does to the client. -/
theorem statements_stopClick (a : Activity α) (isConnect : Bool) :
    (a.stopClick isConnect).2.flatMap Effect.statements ++ [.endStop] =
      (if isConnect then [.send .handUpVideo] ++ disconnect else []) ++ [.endStop] := by
  rw [Activity.stopClick]
  split_ifs <;> rfl

section NoRequest

variable {p p' : Bool} {l l' : List UiStatement}

theorem noRequest_mono (hp : p' = true → p = true) (h : noRequest p l = true) :
    noRequest p' l = true := by
  induction l using noRequest.induct with
  | case1 =>
    rw [noRequest] at h ⊢
    cases p' with
    | false => rfl
    | true =>
      rw [hp rfl] at h
      cases h
  | case2 => cases h
  | case3 => rfl
  | case4 st l hsend hclose ih =>
    rw [noRequest.eq_4 _ _ _ hsend hclose] at h ⊢
    exact ih h

/-- If the stream is closed first, what comes behind does not matter. -/
theorem noRequest_append_of_posting (h : noRequest true l = true) :
    noRequest p (l ++ l') = true := by
  induction l using noRequest.induct with
  | case1 => cases h
  | case2 => cases h
  | case3 => rfl
  | case4 st l hsend hclose ih =>
    rw [noRequest.eq_4 _ _ _ hsend hclose] at h
    rw [List.cons_append, noRequest.eq_4 _ _ _ hsend hclose]
    exact ih h

theorem noRequest_append (h : noRequest p l = true) (h' : noRequest p l' = true) :
    noRequest p (l ++ l') = true := by
  induction l using noRequest.induct with
  | case1 => exact h'
  | case2 => cases h
  | case3 => rfl
  | case4 st l hsend hclose ih =>
    rw [noRequest.eq_4 _ _ _ hsend hclose] at h
    rw [List.cons_append, noRequest.eq_4 _ _ _ hsend hclose]
    exact ih h

theorem noRequest_of_cons {st : UiStatement} (h : noRequest p (st :: l) = true)
    (hclose : st ≠ .closeOutput) : st ≠ .send .requestVideo ∧ noRequest p l = true := by
  have hsend : st ≠ .send .requestVideo := by
    rintro rfl
    cases h
  rw [noRequest.eq_4 _ _ _ hsend hclose] at h
  exact ⟨hsend, h⟩

/-- Only the message of a connection makes the main thread send a request. -/
theorem noRequest_flatMap_statements {posted : List Activity.Message}
    (h : .clientConnectSuccess ∉ posted) :
    noRequest false (posted.flatMap Activity.Message.statements) = true := by
  induction posted with
  | nil => rfl
  | cons m posted ih =>
    rw [List.mem_cons, not_or] at h
    rw [List.flatMap_cons]
    refine noRequest_append ?_ (ih h.2)
    cases m with
    | clientConnectSuccess => exact absurd rfl h.1
    | clientData c => cases c <;> rfl
    | clientConnectFail => rfl
    | serverConnectFail => rfl
    | serverData c => rfl

end NoRequest

namespace ClientState

section Steps

variable {s s' : ClientState α} {i : ℕ} {o : Outcome}

/-- What a socket thread can do that cannot create a socket. -/
structure Connected (s s' : ClientState α) : Prop where
  todo : s'.todo = s.todo
  mSocket : s'.mSocket = s.mSocket
  openSockets : s'.openSockets = s.openSockets
  sendThreads : s'.sendThreads = s.sendThreads
  log : s'.log = s.log
  mOutputStream : s'.mOutputStream = s.mOutputStream ∨
    s'.mOutputStream = s.mSocket ∧ s.SocketOpen
  noCreate : s'.NoCreate
  posting : s'.posting = true → s.posting = true ∨ s.isConnect = true
  messages : ∃ posted, s'.messages = s.messages ++ posted ∧
    (.clientConnectSuccess ∈ posted → s.posting = true)

theorem noCreate_goto {t : SocketThread} {pc : Pc} (h : s.NoCreate)
    (hpc : pc.creates s.isConnect = false) : (s.goto i t pc).NoCreate := by
  intro t' ht'
  rcases List.mem_or_eq_of_mem_set ht' with hmem | rfl
  · exact h t' hmem
  · exact hpc

theorem posting_goto {t : SocketThread} {pc : Pc} (h : (s.goto i t pc).posting = true) :
    s.posting = true ∨ pc = .resetStop ∨ pc = .postSuccess := by
  obtain ⟨t', ht', hpc⟩ := List.any_eq_true.1 h
  rcases List.mem_or_eq_of_mem_set ht' with hmem | rfl
  · exact Or.inl (List.any_eq_true.2 ⟨t', hmem, hpc⟩)
  · simpa using Or.inr hpc

theorem posting_of_getElem? {t : SocketThread} (hget : s.socketThreads[i]? = some t)
    (hpc : t.pc = .resetStop ∨ t.pc = .postSuccess) : s.posting = true :=
  List.any_eq_true.2 ⟨t, List.mem_of_getElem? hget, by simpa using hpc⟩

/-- A statement that changes nothing but the thread's place, the streams and the flag. -/
theorem connected_goto {t : SocketThread} {pc : Pc} {output input : Option ℕ} {b : Bool}
    (h : s.NoCreate) (hpc : pc.creates s.isConnect = false)
    (hpost : pc = .resetStop ∨ pc = .postSuccess → s.posting = true ∨ s.isConnect = true)
    (houtput : output = s.mOutputStream ∨ output = s.mSocket ∧ s.SocketOpen) :
    Connected s
      ({ s with mOutputStream := output, mInputStream := input, isStop := b }.goto i t pc) where
  todo := rfl
  mSocket := rfl
  openSockets := rfl
  sendThreads := rfl
  log := rfl
  mOutputStream := houtput
  noCreate :=
    noCreate_goto (s := { s with mOutputStream := output, mInputStream := input, isStop := b })
      h hpc
  posting hposting := (posting_goto hposting).elim Or.inl hpost
  messages := ⟨[], (List.append_nil _).symm, fun hmem ↦ absurd hmem List.not_mem_nil⟩

/-- A statement that posts a message. -/
theorem connected_post {t : SocketThread} {pc : Pc} {m : Activity.Message} (h : s.NoCreate)
    (hpc : pc.creates s.isConnect = false) (hpost : ¬ (pc = .resetStop ∨ pc = .postSuccess))
    (hm : m = .clientConnectSuccess → s.posting = true) :
    Connected s ((s.post m).goto i t pc) where
  todo := rfl
  mSocket := rfl
  openSockets := rfl
  sendThreads := rfl
  log := rfl
  mOutputStream := Or.inl rfl
  noCreate := noCreate_goto (s := s.post m) h hpc
  posting hposting := (posting_goto hposting).elim Or.inl fun hpc ↦ absurd hpc hpost
  messages := ⟨[m], rfl, fun hmem ↦ hm (List.mem_singleton.1 hmem).symm⟩

theorem connected_crash (h : s.NoCreate) : Connected s s.crash where
  todo := rfl
  mSocket := rfl
  openSockets := rfl
  sendThreads := rfl
  log := rfl
  mOutputStream := Or.inl rfl
  noCreate := h
  posting := Or.inl
  messages := ⟨[], (List.append_nil _).symm, fun hmem ↦ absurd hmem List.not_mem_nil⟩

/-- **The next statement of a socket thread**, if none can create a socket. -/
theorem connected_runSocketThread {t : SocketThread} (h : s.NoCreate)
    (hget : s.socketThreads[i]? = some t) : Connected s (s.runSocketThread i t o) := by
  have hcreates := h t (List.mem_of_getElem? hget)
  have hself : s.mOutputStream = s.mOutputStream ∨ s.mOutputStream = s.mSocket ∧ s.SocketOpen :=
    Or.inl rfl
  cases hpc : t.pc with
  | testOld | nullOld | create =>
    rw [hpc] at hcreates
    cases hcreates
  | closeOld =>
    simp only [runSocketThread, hpc]
    split
    next socket hsocket =>
      rw [hpc, Pc.creates, isConnect, hsocket] at hcreates
      cases hcreates
    next => exact connected_crash h
  | testConnect =>
    simp only [runSocketThread, hpc]
    split_ifs
    · exact connected_goto h rfl (by simp) hself
    · exact connected_goto h rfl (by simp) hself
  | getOutput =>
    simp only [runSocketThread, hpc]
    split
    next socket hsocket =>
      split_ifs with hopen
      · exact connected_goto h rfl (by simp) (Or.inr ⟨hsocket.symm, socket, hsocket, hopen⟩)
      · exact connected_goto h rfl (by simp) hself
    next => exact connected_crash h
  | getInput =>
    simp only [runSocketThread, hpc]
    split
    next socket hsocket =>
      have hconnect : s.isConnect = true := by
        rw [isConnect, hsocket]
        rfl
      split_ifs
      · exact connected_goto h rfl (fun _ ↦ Or.inr hconnect) hself
      · exact connected_goto h rfl (by simp) hself
    next => exact connected_crash h
  | resetStop =>
    have hposting := posting_of_getElem? hget (Or.inl hpc)
    simp only [runSocketThread, hpc]
    exact connected_goto h rfl (fun _ ↦ Or.inl hposting) hself
  | postSuccess =>
    simp only [runSocketThread, hpc]
    exact connected_post h rfl (by simp) fun _ ↦ posting_of_getElem? hget (Or.inr hpc)
  | postFail =>
    simp only [runSocketThread, hpc]
    exact connected_post h rfl (by simp) (by simp)
  | loop =>
    simp only [runSocketThread, hpc]
    split_ifs
    · exact connected_goto h rfl (by simp) hself
    · exact connected_goto h rfl (by simp) hself
  | read =>
    simp only [runSocketThread, hpc]
    split
    next socket =>
      split_ifs
      · cases o with
        | returns => exact connected_goto h rfl (by simp) hself
        | throws => exact connected_goto h rfl (by simp) hself
        | reads c => exact connected_post h rfl (by simp) (by simp)
      · exact connected_goto h rfl (by simp) hself
    next => exact connected_goto h rfl (by simp) hself
  | finished =>
    simp only [runSocketThread, hpc]
    exact ⟨rfl, rfl, rfl, rfl, rfl, hself, h, Or.inl, [], (List.append_nil _).symm,
      fun hmem ↦ absurd hmem List.not_mem_nil⟩

end Steps

/-! ### The invariant -/

/-- Nothing is open that a thread could write to or publish. -/
def Sealed (s : ClientState α) : Prop := ¬ s.OutputOpen ∧ ¬ s.SocketOpen

/-- The call is over: no socket will be created, and everything is closed or no request comes. -/
def Over (s : ClientState α) : Prop :=
  s.NoCreate ∧ (s.Sealed ∨ s.isConnect = false ∧ s.NoRequest)

/-- The handler of `btn_stop` is in `disconnect`, or on its way there: before the stream is closed,
or between that and closing the socket, where an open stream can only be the socket's. -/
def Closing (s : ClientState α) : Prop :=
  s.NoCreate ∧ s.isConnect = true ∧
    (s.todo ∈ [[.send .handUpVideo, .setStop, .closeOutput, .closeInput, .testSocket, .interrupt,
        .endStop], [.setStop, .closeOutput, .closeInput, .testSocket, .interrupt, .endStop],
        [.closeOutput, .closeInput, .testSocket, .interrupt, .endStop]] ∨
      s.todo ∈ [[.closeInput, .testSocket, .interrupt, .endStop],
        [.testSocket, .interrupt, .endStop],
        [.closeSocket, .nullSocket, .interrupt, .endStop]] ∧
        (s.OutputOpen → s.mOutputStream = s.mSocket))

section Preservation

variable {s s' : ClientState α} {i : ℕ} {o : Outcome}

theorem not_socketOpen (h : s.isConnect = false) : ¬ s.SocketOpen := by
  rintro ⟨k, hk, -⟩
  rw [isConnect, Option.mem_def.1 hk] at h
  cases h

theorem Sealed.congr (h : s.Sealed) (houtput : s'.mOutputStream = s.mOutputStream)
    (hsocket : s'.mSocket = s.mSocket) (hopen : ∀ k ∈ s'.openSockets, k ∈ s.openSockets) :
    s'.Sealed := by
  constructor
  · rintro ⟨k, hk, hk'⟩
    exact h.1 ⟨k, houtput ▸ hk, hopen k hk'⟩
  · rintro ⟨k, hk, hk'⟩
    exact h.2 ⟨k, hsocket ▸ hk, hopen k hk'⟩

/-! #### A call that is over -/

theorem NoCreate.congr (h : s.NoCreate) (hconnect : s'.isConnect = s.isConnect)
    (hthreads : ∀ t ∈ s'.socketThreads, ∃ t₀ ∈ s.socketThreads, t.pc = t₀.pc) : s'.NoCreate := by
  intro t ht
  obtain ⟨t₀, ht₀, hpc⟩ := hthreads t ht
  rw [hconnect, hpc]
  exact h t₀ ht₀

/-- A step that changes neither the places of the socket threads nor the fields, opens nothing and
adds no request. -/
theorem Over.congr (h : s.Over) (hsocket : s'.mSocket = s.mSocket)
    (houtput : s'.mOutputStream = s.mOutputStream)
    (hopen : ∀ k ∈ s'.openSockets, k ∈ s.openSockets)
    (hthreads : ∀ t ∈ s'.socketThreads, ∃ t₀ ∈ s.socketThreads, t.pc = t₀.pc)
    (hno : s.NoRequest → s'.NoRequest) : s'.Over := by
  have hconnect : s'.isConnect = s.isConnect := by rw [isConnect, isConnect, hsocket]
  exact ⟨h.1.congr hconnect hthreads, h.2.imp (fun hsealed ↦ hsealed.congr houtput hsocket hopen)
    fun hno' ↦ ⟨hconnect.trans hno'.1, hno hno'.2⟩⟩

theorem Over.connected (h : s.Over) (hs : Connected s s') : s'.Over := by
  have hconnect : s'.isConnect = s.isConnect := by rw [isConnect, isConnect, hs.mSocket]
  refine ⟨hs.noCreate, h.2.imp (fun hsealed ↦ ?_) fun hno ↦ ⟨hconnect.trans hno.1, ?_⟩⟩
  · rcases hs.mOutputStream with houtput | ⟨-, hopen⟩
    · exact hsealed.congr houtput hs.mSocket fun k hk ↦ hs.openSockets ▸ hk
    · exact absurd hopen hsealed.2
  · obtain ⟨hdisconnected, hthreads, hpending⟩ := hno
    obtain ⟨posted, hposted, hsuccess⟩ := hs.messages
    have hpending' : s'.pending =
        s.pending ++ posted.flatMap Activity.Message.statements := by
      rw [pending, pending, hs.todo, hposted, List.flatMap_append, List.append_assoc]
    refine ⟨fun t ht ↦ hthreads t (hs.sendThreads ▸ ht), ?_⟩
    rw [hpending']
    -- if a success can be posted, the stream is closed before; else none is among the new messages
    cases hposting : s.posting with
    | true =>
      rw [hposting] at hpending
      exact noRequest_append_of_posting hpending
    | false =>
      have hposting' : s'.posting = false := by
        by_contra hne
        rcases hs.posting (by simpa using hne) with htrue | htrue
        · rw [hposting] at htrue
          cases htrue
        · rw [hdisconnected] at htrue
          cases htrue
      rw [hposting']
      rw [hposting] at hpending
      refine noRequest_append hpending (noRequest_flatMap_statements fun hmem ↦ ?_)
      rw [hsuccess hmem] at hposting
      cases hposting

theorem mem_openSockets_close {socket k : ℕ} :
    k ∈ (s.close socket).openSockets ↔ k ∈ s.openSockets ∧ k ≠ socket := by
  simp [close]

/-- Closing a stream, if there is one, closes it. -/
theorem closeStream_eq (s : ClientState α) (stream : Option ℕ) :
    ∃ openSockets, (∀ k ∈ openSockets, k ∈ s.openSockets) ∧ (∀ k ∈ stream, k ∉ openSockets) ∧
      stream.elim s s.close = { s with openSockets } := by
  cases stream with
  | none => exact ⟨s.openSockets, fun _ hk ↦ hk, fun k hk ↦ absurd hk (Option.not_mem_none k), rfl⟩
  | some socket =>
    refine ⟨_, fun k hk ↦ (mem_openSockets_close.1 hk).1, fun k hk hk' ↦ ?_, rfl⟩
    exact (mem_openSockets_close.1 hk').2 (Option.some.inj hk).symm

theorem runUi_closeOutput (s : ClientState α) :
    ∃ openSockets, (∀ k ∈ openSockets, k ∈ s.openSockets) ∧
      (∀ k ∈ s.mOutputStream, k ∉ openSockets) ∧
      s.runUi .closeOutput = { s with openSockets } :=
  closeStream_eq s s.mOutputStream

theorem runUi_closeInput (s : ClientState α) :
    ∃ openSockets, (∀ k ∈ openSockets, k ∈ s.openSockets) ∧
      (∀ k ∈ s.mInputStream, k ∉ openSockets) ∧
      s.runUi .closeInput = { s with openSockets } :=
  closeStream_eq s s.mInputStream

theorem NoRequest.tail {st : UiStatement} {todo : List UiStatement} (h : s.NoRequest)
    (htodo : s.todo = st :: todo) (hst : st ≠ .closeOutput) :
    st ≠ .send .requestVideo ∧ { s with todo }.NoRequest := by
  obtain ⟨hthreads, hpending⟩ := h
  rw [pending, htodo, List.cons_append] at hpending
  obtain ⟨hsend, htail⟩ := noRequest_of_cons hpending hst
  exact ⟨hsend, hthreads, htail⟩

/-- A thread that is interrupted stays where it is. -/
theorem mem_modify_interrupt {t : SocketThread}
    (ht : t ∈ s.socketThreads.modify i fun t ↦ { t with isInterrupted := true }) :
    ∃ t₀ ∈ s.socketThreads, t.pc = t₀.pc := by
  obtain ⟨j, hj⟩ := List.mem_iff_getElem?.1 ht
  rw [List.getElem?_modify, Option.map_eq_map, Option.map_eq_some_iff] at hj
  obtain ⟨t₀, ht₀, rfl⟩ := hj
  refine ⟨t₀, List.mem_of_getElem? ht₀, ?_⟩
  split_ifs <;> rfl

theorem Over.tail {st : UiStatement} {todo : List UiStatement} (h : s.Over)
    (htodo : s.todo = st :: todo) (hst : st ≠ .closeOutput) : { s with todo }.Over :=
  h.congr rfl rfl (fun _ hk ↦ hk) (fun t ht ↦ ⟨t, ht, rfl⟩) fun hno ↦ (hno.tail htodo hst).2

/-- Closing sockets keeps the call over. -/
theorem Over.shrink {openSockets : List ℕ} (h : s.Over)
    (hopen : ∀ k ∈ openSockets, k ∈ s.openSockets) : { s with openSockets }.Over :=
  h.congr rfl rfl hopen (fun t ht ↦ ⟨t, ht, rfl⟩) id

/-- **A statement of the main thread** other than `connect` keeps the call over. -/
theorem Over.runUi {st : UiStatement} {todo : List UiStatement} (h : s.Over)
    (htodo : s.todo = st :: todo) (hst : st ≠ .connect) : ({ s with todo }.runUi st).Over := by
  have hsame : ∀ t ∈ s.socketThreads, ∃ t₀ ∈ s.socketThreads, t.pc = t₀.pc :=
    fun t ht ↦ ⟨t, ht, rfl⟩
  cases st with
  | connect => exact absurd rfl hst
  | send c =>
    refine h.congr rfl rfl (fun _ hk ↦ hk) hsame fun hno ↦ ?_
    obtain ⟨hsend, hthreads, hpending⟩ := hno.tail htodo (by simp)
    refine ⟨fun t ht ↦ ?_, hpending⟩
    rcases List.mem_append.1 ht with hmem | hmem
    · exact hthreads t hmem
    · rw [List.mem_singleton.1 hmem]
      exact fun heq ↦ hsend (congrArg UiStatement.send heq)
  | setStop => exact h.tail htodo (by simp)
  | closeOutput =>
    obtain ⟨openSockets, hopen, hclosed, heq⟩ := runUi_closeOutput { s with todo }
    have hsocket : ¬ s.SocketOpen := h.2.elim (fun hsealed ↦ hsealed.2) fun hno ↦
      not_socketOpen hno.1
    rw [heq]
    refine ⟨h.1.congr rfl hsame, Or.inl ⟨?_, ?_⟩⟩
    · rintro ⟨k, hk, hk'⟩
      exact hclosed k hk hk'
    · rintro ⟨k, hk, hk'⟩
      exact hsocket ⟨k, hk, hopen k hk'⟩
  | closeInput =>
    obtain ⟨openSockets, hopen, -, heq⟩ := runUi_closeInput { s with todo }
    rw [heq]
    exact (h.tail htodo (by simp)).shrink hopen
  | testSocket =>
    have htail := h.tail htodo (by simp)
    rw [ClientState.runUi]
    split_ifs
    · exact htail
    · exact htail
  | closeSocket =>
    rw [ClientState.runUi]
    split
    next => exact (h.tail htodo (by simp)).shrink fun k hk ↦ (mem_openSockets_close.1 hk).1
    next => exact h.tail htodo (by simp)
  | nullSocket =>
    obtain ⟨hno, hover⟩ := h.tail htodo (by simp)
    refine ⟨fun t ht ↦ ?_, hover.imp (fun hsealed ↦ ⟨hsealed.1, not_socketOpen rfl⟩)
      fun hno ↦ ⟨rfl, hno.2⟩⟩
    have hcreates := hno t ht
    show t.pc.creates false = false
    cases hpc : t.pc <;> rw [hpc] at hcreates <;> first | rfl | exact hcreates
  | interrupt =>
    rw [ClientState.runUi]
    split
    next =>
      refine (h.tail htodo (by simp)).congr rfl rfl (fun _ hk ↦ hk)
        (fun t ht ↦ mem_modify_interrupt ht) fun hno ↦ ⟨hno.1, ?_⟩
      refine noRequest_mono (fun hposting ↦ ?_) hno.2
      obtain ⟨t, ht, hpc⟩ := List.any_eq_true.1 hposting
      obtain ⟨t₀, ht₀, heq⟩ := mem_modify_interrupt ht
      exact List.any_eq_true.2 ⟨t₀, ht₀, heq ▸ hpc⟩
    next => exact h.tail htodo (by simp)
  | endStop => exact h.tail htodo (by simp)

/-- A send thread writes its command to the open stream, if anything. -/
theorem log_runSendThread (t : SendThread) : (s.runSendThread i t o).log = s.log ∨
    s.OutputOpen ∧ ∃ socket, (s.runSendThread i t o).log = .write t.mBuffer socket :: s.log := by
  rw [runSendThread]
  split_ifs
  · split
    next socket houtput =>
      by_cases hwrites : socket ∈ s.openSockets ∧ o ≠ .throws
      · exact Or.inr ⟨⟨socket, houtput, hwrites.1⟩, socket, if_pos hwrites⟩
      · exact Or.inl (if_neg hwrites)
    next => exact Or.inl rfl
  · exact Or.inl rfl
  · exact Or.inl rfl

/-- **A send thread** keeps the call over. -/
theorem Over.runSendThread {t : SendThread} (h : s.Over) (hget : s.sendThreads[i]? = some t) :
    (s.runSendThread i t o).Over := by
  have hsame : ∀ t ∈ s.socketThreads, ∃ t₀ ∈ s.socketThreads, t.pc = t₀.pc :=
    fun t ht ↦ ⟨t, ht, rfl⟩
  rw [ClientState.runSendThread]
  split_ifs
  · split
    next =>
      exact h.congr rfl rfl (fun _ hk ↦ hk) hsame fun hno ↦
        ⟨fun t' ht' ↦ hno.1 t' (List.mem_of_mem_eraseIdx ht'), hno.2⟩
    next => exact h.congr rfl rfl (fun _ hk ↦ hk) hsame id
  · refine h.congr rfl rfl (fun _ hk ↦ hk) hsame fun hno ↦ ⟨fun t' ht' ↦ ?_, hno.2⟩
    rcases List.mem_or_eq_of_mem_set ht' with hmem | rfl
    · exact hno.1 t' hmem
    · exact hno.1 t (List.mem_of_getElem? hget)
  · exact h.congr rfl rfl (fun _ hk ↦ hk) hsame fun hno ↦
      ⟨fun t' ht' ↦ hno.1 t' (List.mem_of_mem_eraseIdx ht'), hno.2⟩

/-- A call that is over gets no request written. -/
theorem Over.ne_requestVideo {t : SendThread} (h : s.Over) (hget : s.sendThreads[i]? = some t)
    (hopen : s.OutputOpen) : t.mBuffer ≠ .requestVideo :=
  h.2.elim (fun hsealed ↦ absurd hopen hsealed.1) fun hno ↦
    hno.2.1 t (List.mem_of_getElem? hget)

/-! #### A call that is being closed -/

theorem Closing.connected (h : s.Closing) (hs : Connected s s') : s'.Closing := by
  have hconnect : s'.isConnect = s.isConnect := by rw [isConnect, isConnect, hs.mSocket]
  refine ⟨hs.noCreate, hconnect.trans h.2.1, ?_⟩
  rw [hs.todo]
  refine h.2.2.imp id fun hclosing ↦ ⟨hclosing.1, fun hopen ↦ ?_⟩
  rcases hs.mOutputStream with houtput | houtput
  · have hopen' : s.OutputOpen :=
      hopen.imp fun k hk ↦ ⟨houtput ▸ hk.1, hs.openSockets ▸ hk.2⟩
    rw [houtput, hs.mSocket]
    exact hclosing.2 hopen'
  · rw [houtput.1, hs.mSocket]

theorem Closing.runSendThread (h : s.Closing) (t : SendThread) :
    (s.runSendThread i t o).Closing := by
  rw [ClientState.runSendThread]
  split_ifs
  · split
    · exact h
    · exact h
  · exact h
  · exact h

/-- **A statement of `btn_stop`'s handler** leads on to the closed socket. -/
theorem Closing.runUi {st : UiStatement} {todo : List UiStatement} (h : s.Closing)
    (htodo : s.todo = st :: todo) :
    ({ s with todo }.runUi st).Closing ∨ ({ s with todo }.runUi st).Over := by
  obtain ⟨hno, hconnect, hbefore | ⟨hafter, hopen⟩⟩ := h
  · simp only [htodo, List.mem_cons, List.cons.injEq, List.not_mem_nil, or_false] at hbefore
    rcases hbefore with ⟨rfl, rfl⟩ | ⟨rfl, rfl⟩ | ⟨rfl, rfl⟩
    · exact Or.inl ⟨hno, hconnect, Or.inl (List.mem_cons_of_mem _ List.mem_cons_self)⟩
    · exact Or.inl ⟨hno, hconnect,
        Or.inl (List.mem_cons_of_mem _ (List.mem_cons_of_mem _ List.mem_cons_self))⟩
    · -- the stream is closed; from here on an open one is published from `mSocket`
      obtain ⟨openSockets, -, hclosed, heq⟩ := runUi_closeOutput
        { s with todo := [.closeInput, .testSocket, .interrupt, .endStop] }
      rw [heq]
      refine Or.inl ⟨hno, hconnect, Or.inr ⟨List.mem_cons_self, ?_⟩⟩
      rintro ⟨k, hk, hk'⟩
      exact absurd hk' (hclosed k hk)
  · simp only [htodo, List.mem_cons, List.cons.injEq, List.not_mem_nil, or_false] at hafter
    rcases hafter with ⟨rfl, rfl⟩ | ⟨rfl, rfl⟩ | ⟨rfl, rfl⟩
    · obtain ⟨openSockets, hsub, -, heq⟩ := runUi_closeInput
        { s with todo := [.testSocket, .interrupt, .endStop] }
      rw [heq]
      refine Or.inl ⟨hno, hconnect, Or.inr ⟨List.mem_cons_of_mem _ List.mem_cons_self, ?_⟩⟩
      rintro ⟨k, hk, hk'⟩
      exact hopen ⟨k, hk, hsub k hk'⟩
    · refine Or.inl ?_
      rw [ClientState.runUi, if_pos (show s.mSocket.isSome = true from hconnect)]
      exact ⟨hno, hconnect, Or.inr
        ⟨List.mem_cons_of_mem _ (List.mem_cons_of_mem _ List.mem_cons_self), hopen⟩⟩
    · -- the socket is closed, and with it the only stream that could be open
      refine Or.inr ?_
      rw [ClientState.runUi]
      split
      next socket hsocket =>
        change s.mSocket = some socket at hsocket
        have hne {k : ℕ} (hk : s.mSocket = some k) : ¬ k ≠ socket := fun hne ↦
          hne (Option.some.inj (hk.symm.trans hsocket))
        refine ⟨hno, Or.inl ⟨?_, ?_⟩⟩
        · rintro ⟨k, hk, hk'⟩
          obtain ⟨hk', hne'⟩ := mem_openSockets_close.1 hk'
          exact hne ((hopen ⟨k, hk, hk'⟩).symm.trans hk) hne'
        · rintro ⟨k, hk, hk'⟩
          exact hne hk (mem_openSockets_close.1 hk').2
      next hnone =>
        change s.mSocket = none at hnone
        rw [isConnect, hnone] at hconnect
        cases hconnect

/-! #### The start of a handler -/

/-- A handler that adds no request keeps the call over. -/
theorem Over.handle {r : Activity α × List (Effect α)} {last : List UiStatement} (h : s.Over)
    (messages : List Activity.Message)
    (hpending : noRequest s.posting s.pending = true →
      noRequest s.posting (r.2.flatMap Effect.statements ++ last ++
        messages.flatMap Activity.Message.statements) = true) :
    ({ s with messages }.handle r last).Over :=
  h.congr rfl rfl (fun _ hk ↦ hk) (fun t ht ↦ ⟨t, ht, rfl⟩) fun hno ↦ ⟨hno.1, hpending hno.2⟩

/-- **The start of a handler**: a call, `btn_stop`, a message of the client, or a handler that does
nothing to the client. -/
theorem startHandler_cases {e : UiEvent α} (hs : s.startHandler e = some s') :
    (∃ dest, s' = s.handle (s.activity.callVideo dest) []) ∨
    (e = .stopClick ∧ s' = s.handle (s.activity.stopClick s.isConnect) [.endStop]) ∨
    (∃ m messages, s.messages = m :: messages ∧
      s' = { s with messages }.handle (s.activity.handleMessage m) []) ∨
    ∃ r : Activity α × List (Effect α), r.2.flatMap Effect.statements = [] ∧
      s' = s.handle r [] := by
  cases e with
  | callVideo dest => exact Or.inl ⟨dest, (Option.some.inj hs).symm⟩
  | stopClick => exact Or.inr (Or.inl ⟨rfl, (Option.some.inj hs).symm⟩)
  | handleMessage =>
    rw [startHandler] at hs
    split at hs
    next m messages hmessages =>
      exact Or.inr (Or.inr (Or.inl ⟨m, messages, hmessages, (Option.some.inj hs).symm⟩))
    next => cases hs
  | serverConnectFail =>
    exact Or.inr (Or.inr (Or.inr ⟨_, statements_handleMessage _ _, (Option.some.inj hs).symm⟩))
  | serverData c =>
    exact Or.inr (Or.inr (Or.inr ⟨_, statements_handleMessage _ _, (Option.some.inj hs).symm⟩))
  | acceptClick dialog address =>
    rw [startHandler] at hs
    split_ifs at hs
    refine Or.inr (Or.inr (Or.inr ⟨_, ?_, (Option.some.inj hs).symm⟩))
    rw [Activity.acceptClick]
    split_ifs <;> rfl
  | refuseClick dialog =>
    rw [startHandler] at hs
    split_ifs at hs
    exact Or.inr (Or.inr (Or.inr ⟨_, rfl, (Option.some.inj hs).symm⟩))

/-- **Starting a handler** keeps the call over. -/
theorem Over.startHandler {e : UiEvent α} (h : s.Over) (htodo : s.todo = [])
    (hs : s.startHandler e = some s') : s'.Over := by
  have hpending : s.pending = s.messages.flatMap Activity.Message.statements := by
    rw [pending, htodo, List.nil_append]
  rcases startHandler_cases hs with ⟨dest, rfl⟩ | ⟨-, rfl⟩ | ⟨m, messages, hmessages, rfl⟩ |
    ⟨r, hr, rfl⟩
  · refine h.handle s.messages fun hno ↦ ?_
    rw [hpending] at hno
    exact hno
  · refine h.handle s.messages fun hno ↦ ?_
    rw [hpending] at hno
    rw [statements_stopClick]
    cases s.isConnect with
    | false => exact hno
    | true => rfl
  · refine h.handle messages fun hno ↦ ?_
    rw [statements_handleMessage, List.append_nil, ← List.flatMap_cons, ← hmessages, ← hpending]
    exact hno
  · refine h.handle s.messages fun hno ↦ ?_
    rw [hr, ← hpending]
    exact hno

/-- **Pressing `btn_stop` in time** begins to close the call, unless it is over. -/
theorem over_or_closing_of_stopsInTime (htodo : s.todo = [])
    (hok : StopsInTime s (.ui .stopClick)) (hs : s.startHandler .stopClick = some s') :
    s'.Over ∨ s'.Closing := by
  obtain ⟨hno, hcase⟩ := hok
  cases hconnect : s.isConnect with
  | true =>
    cases hs
    refine Or.inr ⟨hno, hconnect, Or.inl ?_⟩
    rw [handle, statements_stopClick, hconnect]
    exact List.mem_cons_self
  | false =>
    rw [hconnect] at hcase
    have hover : s.Over := ⟨hno, (hcase.resolve_left Bool.false_ne_true).imp
      (fun houtput ↦ ⟨houtput, not_socketOpen hconnect⟩) fun hrequest ↦ ⟨hconnect, hrequest⟩⟩
    exact Or.inl (hover.startHandler htodo hs)

/-! #### The history -/

/-- A message does not start a call or end `btn_stop`'s handler. -/
theorem not_mem_statements (m : Activity.Message) :
    .connect ∉ m.statements ∧ .endStop ∉ m.statements := by
  cases m with
  | clientData c => cases c <;> decide
  | serverData c => exact ⟨List.not_mem_nil, List.not_mem_nil⟩
  | clientConnectSuccess => decide
  | clientConnectFail => decide
  | serverConnectFail => exact ⟨List.not_mem_nil, List.not_mem_nil⟩

/-- `connect` is the only statement of its handler, and only `btn_stop`'s handler ends with
`endStop`. -/
theorem todo_startHandler {e : UiEvent α} (hs : s.startHandler e = some s') :
    s'.log = s.log ∧ (.connect ∈ s'.todo → s'.todo = [.connect]) ∧
      (.endStop ∈ s'.todo → e = .stopClick) := by
  rcases startHandler_cases hs with ⟨dest, rfl⟩ | ⟨rfl, rfl⟩ | ⟨m, messages, -, rfl⟩ | ⟨r, hr, rfl⟩
  · exact ⟨rfl, fun _ ↦ rfl, fun hmem ↦ absurd hmem (by simp [handle, Activity.callVideo,
      Effect.statements])⟩
  · have hconnect : ∀ isConnect : Bool, .connect ∉
        (if isConnect then [.send .handUpVideo] ++ disconnect else []) ++ [.endStop] := by
      decide
    refine ⟨rfl, fun hmem ↦ absurd hmem ?_, fun _ ↦ rfl⟩
    rw [handle, statements_stopClick]
    exact hconnect s.isConnect
  · obtain ⟨hconnect, hstop⟩ := not_mem_statements m
    refine ⟨rfl, fun hmem ↦ absurd hmem ?_, fun hmem ↦ absurd hmem ?_⟩
    · rw [handle, statements_handleMessage, List.append_nil]
      exact hconnect
    · rw [handle, statements_handleMessage, List.append_nil]
      exact hstop
  · refine ⟨rfl, fun hmem ↦ absurd hmem ?_, fun hmem ↦ absurd hmem ?_⟩
    · rw [handle, hr]
      exact List.not_mem_nil
    · rw [handle, hr]
      exact List.not_mem_nil

theorem todo_runSocketThread (t : SocketThread) :
    (s.runSocketThread i t o).todo = s.todo ∧ (s.runSocketThread i t o).log = s.log := by
  cases hpc : t.pc with
  | testOld | nullOld | testConnect | resetStop | postSuccess | postFail | loop =>
    simp only [runSocketThread, hpc]
    exact ⟨rfl, rfl⟩
  | finished => simp only [runSocketThread, hpc, and_self]
  | create =>
    simp only [runSocketThread, hpc]
    split_ifs <;> exact ⟨rfl, rfl⟩
  | closeOld | getOutput | getInput | read =>
    simp only [runSocketThread, hpc]
    split
    · repeat' split
      all_goals exact ⟨rfl, rfl⟩
    · exact ⟨rfl, rfl⟩

theorem todo_runSendThread (t : SendThread) : (s.runSendThread i t o).todo = s.todo := by
  rw [runSendThread]
  repeat' split
  all_goals rfl

/-- A statement of the main thread adds none but the rest of `disconnect`. -/
theorem mem_todo_runUi {st st' : UiStatement} (h : st' ∈ (s.runUi st).todo) :
    st' ∈ s.todo ∨ st' = .closeSocket ∨ st' = .nullSocket := by
  cases st with
  | connect | send | setStop | nullSocket | endStop => exact Or.inl h
  | closeOutput =>
    obtain ⟨openSockets, -, -, heq⟩ := runUi_closeOutput s
    rw [heq] at h
    exact Or.inl h
  | closeInput =>
    obtain ⟨openSockets, -, -, heq⟩ := runUi_closeInput s
    rw [heq] at h
    exact Or.inl h
  | testSocket =>
    rw [runUi] at h
    split_ifs at h
    · rcases List.mem_cons.1 h with rfl | h
      · exact Or.inr (Or.inl rfl)
      · exact (List.mem_cons.1 h).symm.imp id Or.inr
    · exact Or.inl h
  | closeSocket | interrupt =>
    rw [runUi] at h
    split at h <;> exact Or.inl h

theorem log_runUi {st : UiStatement} (hconnect : st ≠ .connect) (hend : st ≠ .endStop) :
    (s.runUi st).log = s.log := by
  cases st with
  | connect => exact absurd rfl hconnect
  | endStop => exact absurd rfl hend
  | send | setStop | nullSocket => rfl
  | closeOutput =>
    obtain ⟨openSockets, -, -, heq⟩ := runUi_closeOutput s
    rw [heq]
  | closeInput =>
    obtain ⟨openSockets, -, -, heq⟩ := runUi_closeInput s
    rw [heq]
  | testSocket =>
    rw [runUi]
    split_ifs <;> rfl
  | closeSocket | interrupt =>
    rw [runUi]
    split <;> rfl

end Preservation

/-! ### The run theorem -/

/-- **The invariant.** No request was written after a stop; once `btn_stop`'s handler has run, the
call is over, and while it runs, it is over or being closed. -/
structure Cancelling (s : ClientState α) : Prop where
  cancels : Cancels s.log
  connect : .connect ∈ s.todo → s.todo = [.connect]
  after : stopped s.log = true → s.Over
  ending : .endStop ∈ s.todo → s.Over ∨ s.Closing

section Run

variable {s s' : ClientState α} {i : ℕ} {o : Outcome}

theorem cancelling_idle : (idle : ClientState α).Cancelling where
  cancels := trivial
  connect h := absurd h List.not_mem_nil
  after h := absurd h Bool.false_ne_true
  ending h := absurd h List.not_mem_nil

theorem Cancelling.startHandler {e : UiEvent α} (h : s.Cancelling) (hok : StopsInTime s (.ui e))
    (htodo : s.todo = []) (hs : s.startHandler e = some s') : s'.Cancelling := by
  obtain ⟨hlog, hconnect, hend⟩ := todo_startHandler hs
  refine ⟨hlog ▸ h.cancels, hconnect, fun hstopped ↦ ?_, fun hmem ↦ ?_⟩
  · exact (h.after (hlog ▸ hstopped)).startHandler htodo hs
  · cases hend hmem
    exact over_or_closing_of_stopsInTime htodo hok hs

/-- The statement `connect` starts a new call. -/
theorem Cancelling.runUi_connect {todo : List UiStatement} (h : s.Cancelling)
    (htodo : s.todo = .connect :: todo) : ({ s with todo }.runUi .connect).Cancelling := by
  have hnil : todo = [] := by
    have hcons := h.connect (htodo ▸ List.mem_cons_self)
    rw [htodo] at hcons
    exact (List.cons.inj hcons).2
  subst hnil
  exact ⟨h.cancels, fun hmem ↦ absurd hmem List.not_mem_nil, fun hstopped ↦
    absurd hstopped Bool.false_ne_true, fun hmem ↦ absurd hmem List.not_mem_nil⟩

theorem Cancelling.runUi {st : UiStatement} {todo : List UiStatement} (h : s.Cancelling)
    (htodo : s.todo = st :: todo) : ({ s with todo }.runUi st).Cancelling := by
  by_cases hconnect : st = .connect
  · subst hconnect
    exact h.runUi_connect htodo
  have hsub {st' : UiStatement} (hne : st' ≠ .closeSocket ∧ st' ≠ .nullSocket)
      (hmem : st' ∈ ({ s with todo }.runUi st).todo) : st' ∈ s.todo := by
    rcases mem_todo_runUi hmem with hmem | hclose | hnull
    · rw [htodo]
      exact List.mem_cons_of_mem _ hmem
    · exact absurd hclose hne.1
    · exact absurd hnull hne.2
  have hnoConnect : .connect ∉ ({ s with todo }.runUi st).todo := fun hmem ↦ by
    have hcons := h.connect (hsub (by simp) hmem)
    rw [htodo] at hcons
    exact hconnect (List.cons.inj hcons).1
  have hending : .endStop ∈ s.todo → ({ s with todo }.runUi st).Over ∨
      ({ s with todo }.runUi st).Closing := fun hmem ↦
    (h.ending hmem).elim (fun hover ↦ Or.inl (hover.runUi htodo hconnect)) fun hclosing ↦
      (hclosing.runUi htodo).symm
  by_cases hend : st = .endStop
  · -- the handler has run: it is not in `disconnect` any more
    subst hend
    have hover : s.Over := by
      refine (h.ending (htodo ▸ List.mem_cons_self)).resolve_right fun hclosing ↦ ?_
      obtain ⟨-, -, hclosing⟩ := hclosing
      simp [htodo] at hclosing
    exact ⟨h.cancels, fun hmem ↦ absurd hmem hnoConnect, fun _ ↦ hover.runUi htodo hconnect,
      fun hmem ↦ hending (hsub (by simp) hmem)⟩
  · have hlog : ({ s with todo }.runUi st).log = s.log := log_runUi hconnect hend
    refine ⟨?_, fun hmem ↦ absurd hmem hnoConnect, fun hstopped ↦ ?_,
      fun hmem ↦ hending (hsub (by simp) hmem)⟩
    · rw [hlog]
      exact h.cancels
    · rw [hlog] at hstopped
      exact (h.after hstopped).runUi htodo hconnect

theorem Cancelling.runSocketThread {t : SocketThread} (h : s.Cancelling)
    (hget : s.socketThreads[i]? = some t) : (s.runSocketThread i t o).Cancelling := by
  obtain ⟨htodo, hlog⟩ := todo_runSocketThread (s := s) (i := i) (o := o) t
  have hover (hs : s.Over) : (s.runSocketThread i t o).Over :=
    hs.connected (connected_runSocketThread hs.1 hget)
  refine ⟨hlog ▸ h.cancels, htodo ▸ h.connect, fun hstopped ↦ hover (h.after (hlog ▸ hstopped)),
    fun hmem ↦ ?_⟩
  exact (h.ending (htodo ▸ hmem)).imp hover fun hclosing ↦
    hclosing.connected (connected_runSocketThread hclosing.1 hget)

theorem Cancelling.runSendThread {t : SendThread} (h : s.Cancelling)
    (hget : s.sendThreads[i]? = some t) : (s.runSendThread i t o).Cancelling := by
  have htodo := todo_runSendThread (s := s) (i := i) (o := o) t
  have hending : .endStop ∈ (s.runSendThread i t o).todo →
      (s.runSendThread i t o).Over ∨ (s.runSendThread i t o).Closing := fun hmem ↦
    (h.ending (htodo ▸ hmem)).imp (fun hover ↦ hover.runSendThread hget) fun hclosing ↦
      hclosing.runSendThread t
  rcases log_runSendThread (s := s) (i := i) (o := o) t with hlog | ⟨hopen, socket, hlog⟩
  · exact ⟨hlog ▸ h.cancels, htodo ▸ h.connect, fun hstopped ↦
      (h.after (hlog ▸ hstopped)).runSendThread hget, hending⟩
  · refine ⟨?_, htodo ▸ h.connect, fun hstopped ↦ ?_, hending⟩
    · rw [hlog]
      refine ⟨fun hrequest ↦ Bool.eq_false_iff.2 fun hstopped ↦ ?_, h.cancels⟩
      exact (h.after hstopped).ne_requestVideo hget hopen hrequest
    · rw [hlog] at hstopped
      exact (h.after hstopped).runSendThread hget

/-- **Step lemma.** Every step that meets the condition keeps the invariant. -/
theorem Cancelling.step {e : ClientEvent α} (h : s.Cancelling) (hok : StopsInTime s e)
    (hs : s.step e = some s') : s'.Cancelling := by
  cases e with
  | ui e =>
    simp only [ClientState.step] at hs
    split_ifs at hs with _ htodo
    exact h.startHandler hok htodo hs
  | uiThread =>
    simp only [ClientState.step] at hs
    split_ifs at hs
    split at hs
    next st todo htodo =>
      cases hs
      exact h.runUi htodo
    next => cases hs
  | socketThread i o =>
    simp only [ClientState.step] at hs
    split_ifs at hs
    split at hs
    next t hget =>
      split_ifs at hs
      cases hs
      exact h.runSocketThread hget
    next => cases hs
  | sendThread i o =>
    simp only [ClientState.step] at hs
    split_ifs at hs
    obtain ⟨t, hget, rfl⟩ := Option.map_eq_some_iff.1 hs
    exact h.runSendThread hget

end Run

end ClientState

/-- **Pressing stop cancels a pending call**, in every state of every run in which `btn_stop` is
pressed in time. -/
theorem cancels_of_reachIf {s : ClientState α} (h : (client α).ReachIf StopsInTime s) :
    Cancels s.log :=
  (h.invariant (I := ClientState.Cancelling) ClientState.cancelling_idle
    fun _ _ _ hs hok hstep ↦ hs.step hok hstep).cancels

/-- A call that is connected, and stopped before its request is sent: `btn_stop` is pressed between
publishing the streams and posting the success. -/
theorem cancels_connected : ∃ s : ClientState ℕ,
    s.log = [.stop, .write .handUpVideo 0, .call] ∧ s.messages = [.clientConnectSuccess] ∧
      Cancels s.log := by
  have hinit : (client ℕ).ReachIf StopsInTime .idle := .init
  have hrun := hinit
    |>.step (a := .ui (.callVideo (some 1))) (by trivial) rfl
    |>.step (a := .uiThread) (by trivial) rfl
    |>.step (a := .socketThread 0 .returns) (by trivial) rfl
    |>.step (a := .socketThread 0 .returns) (by trivial) rfl
    |>.step (a := .socketThread 0 .returns) (by trivial) rfl
    |>.step (a := .socketThread 0 .returns) (by trivial) rfl
    |>.step (a := .socketThread 0 .returns) (by trivial) rfl
    |>.step (a := .ui .stopClick)
      (by exact ⟨fun t ht ↦ by rw [List.mem_singleton.1 ht]; rfl, Or.inl rfl⟩) rfl
    |>.step (a := .uiThread) (by trivial) rfl
    |>.step (a := .sendThread 0 .returns) (by trivial) rfl
    |>.step (a := .sendThread 0 .returns) (by trivial) rfl
    |>.step (a := .uiThread) (by trivial) rfl
    |>.step (a := .uiThread) (by trivial) rfl
    |>.step (a := .uiThread) (by trivial) rfl
    |>.step (a := .socketThread 0 .returns) (by trivial) rfl
    |>.step (a := .socketThread 0 .returns) (by trivial) rfl
    |>.step (a := .uiThread) (by trivial) rfl
    |>.step (a := .uiThread) (by trivial) rfl
    |>.step (a := .uiThread) (by trivial) rfl
    |>.step (a := .uiThread) (by trivial) rfl
    |>.step (a := .uiThread) (by trivial) rfl
  exact ⟨_, rfl, rfl, cancels_of_reachIf hrun⟩

/-- `btn_stop` is pressed before the socket thread has created its socket: the handler finds no
connection and does nothing; the thread connects, and its message sends the request. -/
theorem not_cancels_of_early_stop : ∃ s : ClientState ℕ,
    (client ℕ).exec (client ℕ).init [.ui (.callVideo (some 1)), .uiThread, .ui .stopClick,
      .uiThread, .socketThread 0 .returns, .socketThread 0 .returns, .socketThread 0 .returns,
      .socketThread 0 .returns, .socketThread 0 .returns, .socketThread 0 .returns,
      .socketThread 0 .returns, .ui .handleMessage, .uiThread, .sendThread 0 .returns,
      .sendThread 0 .returns] = some s ∧
    s.log = [.write .requestVideo 0, .stop, .call] ∧ ¬ Cancels s.log := by
  refine ⟨_, rfl, rfl, fun h ↦ ?_⟩
  exact absurd (h.1 rfl) (by decide)

end DoorIntercom
