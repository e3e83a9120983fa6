import DoorIntercom.Call.TcpServer

/-!
# Hanging up the server

`disconnect` clears `isConnect`, closes the streams and the socket, and forgets the socket. From its
first statement on, and as long as nobody else connects, every receive thread takes at most seven
more statements (`receiveThread_le_of_disconnect`): what it has read it still posts, and its loop is
not entered again. A new connection sets `isConnect` again, for the threads of the old ones too.

The bound counts the statements that end. It does not say that they do: only the stream and the
socket of the last connection are closed, and a thread that waits in a read of another one waits for
its peer.

The statement that forgets the socket has no lock. It ends the process if it runs between a thread's
test of `clientScoket`, or the accept loop's assignment, and the use that follows, and only then
(`crashed_of_reachIf`).
-/

namespace DoorIntercom

variable {α : Type}

/-- How many statements a receive thread takes from here, at most, while `isConnect` is not set. -/
def ReceivePc.statementsLeft : ReceivePc → ℕ
  | .testSocket => 7
  | .isConnected => 6
  | .testStream => 5
  | .beginRead => 4
  | .reading _ => 3
  | .post _ _ _ => 2
  | .loop | .postFail => 1
  | .finished => 0

/-- The event is a statement of the thread. -/
def TcpServerEvent.isOf (i : ℕ) : TcpServerEvent → Bool
  | .receiveThread j _ => j = i
  | _ => false

namespace TcpServerState

/-- Nothing sets `isConnect`, and the thread `i` takes at most `n` more statements, or the process
has ended. -/
def Ending (i n : ℕ) (s : TcpServerState α) : Prop :=
  s.acceptPc = .accept ∧ s.isConnect = false ∧
    (s.crashed = true ∨ ∀ pc, s.receiveThreads[i]? = some pc → pc.statementsLeft ≤ n)

section Steps

variable {addr : ℕ → α} {s s' : TcpServerState α} {i j n : ℕ} {o : ReadOutcome} {pc : ReceivePc}

/-- **A statement of a receive thread** moves that thread, or follows a `null`. It leaves the fields
of the server. -/
theorem runReceiveThread_cases (h : s.runReceiveThread i o pc = some s') :
    (s' = s.crash ∧ (pc = .isConnected ∧ s.clientScoket = none ∨
      pc = .beginRead ∧ s.mInputStream = none)) ∨
    ∃ pc' inFlight messages passedOver, s' = { s with inFlight, messages, passedOver }.goto i pc' ∧
      (s.isConnect = false → pc'.statementsLeft < pc.statementsLeft) ∧
      (pc' = .isConnected → s.clientScoket.isSome) ∧
      (pc' = .beginRead → s.mInputStream.isSome) := by
  cases pc with
  | loop =>
    cases h
    refine Or.inr ⟨_, _, _, _, rfl, fun hconnect ↦ ?_, ?_, ?_⟩
    · rw [hconnect]
      decide
    · split_ifs <;> simp
    · split_ifs <;> simp
  | testSocket =>
    cases h
    refine Or.inr ⟨_, _, _, _, rfl, fun _ ↦ ?_, ?_, ?_⟩
    · split_ifs <;> decide
    · split_ifs with hsome <;> simp [hsome]
    · split_ifs <;> simp
  | isConnected =>
    simp only [runReceiveThread] at h
    split_ifs at h with hsome
    · cases h
      exact Or.inr ⟨_, _, _, _, rfl, fun _ ↦ by decide, by simp, by simp⟩
    · cases h
      exact Or.inl ⟨rfl, Or.inl ⟨rfl, by simpa using hsome⟩⟩
  | testStream =>
    cases h
    refine Or.inr ⟨_, _, _, _, rfl, fun _ ↦ ?_, ?_, ?_⟩
    · split_ifs <;> decide
    · split_ifs <;> simp
    · split_ifs with hsome <;> simp [hsome]
  | beginRead =>
    simp only [runReceiveThread] at h
    split at h
    next socket hstream =>
      cases h
      exact Or.inr ⟨_, _, _, _, rfl, fun _ ↦ Nat.lt_succ_self _, by simp, by simp⟩
    next hstream =>
      cases h
      exact Or.inl ⟨rfl, Or.inr ⟨rfl, hstream⟩⟩
  | reading socket =>
    simp only [runReceiveThread] at h
    split_ifs at h
    · cases o with
      | data n =>
        dsimp only at h
        split at h
        next c rest hrest =>
          cases h
          exact Or.inr ⟨_, _, _, _, rfl, fun _ ↦ Nat.lt_succ_self _, by simp, by simp⟩
        next => cases h
      | ends | throws =>
        cases h
        exact Or.inr ⟨_, _, _, _, rfl, fun _ ↦ by simp [ReceivePc.statementsLeft], by simp, by simp⟩
    · cases h
      exact Or.inr ⟨_, _, _, _, rfl, fun _ ↦ by simp [ReceivePc.statementsLeft], by simp, by simp⟩
  | post socket c rest =>
    cases h
    exact Or.inr ⟨_, _, _, _, rfl, fun _ ↦ Nat.lt_succ_self _, by simp, by simp⟩
  | postFail =>
    cases h
    exact Or.inr ⟨_, _, _, _, rfl, fun _ ↦ Nat.lt_succ_self _, by simp, by simp⟩
  | finished => cases h

/-- **A statement of the main thread** leaves the threads, and does not set `isConnect`. -/
theorem runUi_frame (s : TcpServerState α) (st : ServerStatement) :
    (s.runUi st).receiveThreads = s.receiveThreads ∧ (s.runUi st).acceptPc = s.acceptPc ∧
      (s.isConnect = false → (s.runUi st).isConnect = false) := by
  rcases s.runUi_cases st with ⟨dialog, c, -, heq⟩ |
    ⟨isConnect, openSockets, clientScoket, crashed, todo, -, heq, hconnect, -⟩
  · rw [heq]
    exact ⟨rfl, rfl, id⟩
  · rw [heq]
    exact ⟨rfl, rfl, hconnect⟩

/-- **A statement of the send thread** changes its own fields only. -/
theorem runSendThread_eq {throws : Bool} (h : s.runSendThread throws = some s') :
    ∃ toSend mOutputStream writing answers lost,
      s' = { s with toSend, mOutputStream, writing, answers, lost } := by
  rw [runSendThread] at h
  repeat' split at h
  all_goals cases h <;> exact ⟨_, _, _, _, _, rfl⟩

/-- **The frame.** While the accept loop waits, only the receive threads move among themselves, and
`isConnect` stays cleared. -/
theorem next_frame {e : TcpServerEvent} (hnext : s.next addr e = some s')
    (haccept : e ≠ .accept) (hthread : ∀ j o, e ≠ .receiveThread j o) (hpc : s.acceptPc = .accept) :
    s'.receiveThreads = s.receiveThreads ∧ s'.acceptPc = .accept ∧
      (s.isConnect = false → s'.isConnect = false) := by
  cases e with
  | accept => exact absurd rfl haccept
  | receiveThread j o => exact absurd rfl (hthread j o)
  | connect | clientSend | acceptClick | refuseClick | cancel | stopClick =>
    simp only [next] at hnext
    split_ifs at hnext
    cases hnext
    exact ⟨rfl, hpc, id⟩
  | acceptThread =>
    simp only [next] at hnext
    rw [runAcceptThread, hpc] at hnext
    cases hnext
  | sendThread throws =>
    obtain ⟨toSend, mOutputStream, writing, answers, lost, rfl⟩ := runSendThread_eq hnext
    exact ⟨rfl, hpc, id⟩
  | handleMessage =>
    simp only [next] at hnext
    split at hnext
    next m messages htodo hmessages =>
      cases hnext
      cases m <;> exact ⟨rfl, hpc, id⟩
    next => cases hnext
  | uiThread =>
    simp only [next] at hnext
    split at hnext
    next st todo htodo =>
      cases hnext
      obtain ⟨hthreads, hpc', hconnect⟩ := runUi_frame { s with todo } st
      exact ⟨hthreads, hpc'.trans hpc, hconnect⟩
    next => cases hnext

/-- **What is not a statement of the thread** leaves it as it is. -/
theorem Ending.keep {e : TcpServerEvent} (h : s.Ending i n) (haccept : e ≠ .accept)
    (he : e.isOf i = false) (hstep : s.step addr e = some s') : s'.Ending i n := by
  obtain ⟨hpc, hconnect, hleft⟩ := h
  obtain ⟨hcrashed, hnext⟩ := step_eq_some.1 hstep
  rw [hcrashed] at hleft
  replace hleft := hleft.resolve_left Bool.false_ne_true
  by_cases hthread : ∃ j o, e = .receiveThread j o
  · obtain ⟨j, o, rfl⟩ := hthread
    have hji : j ≠ i := of_decide_eq_false he
    obtain ⟨pc, -, hrun⟩ := Option.bind_eq_some_iff.1 hnext
    rcases runReceiveThread_cases hrun with ⟨rfl, -⟩ | ⟨pc', inFlight, messages, passedOver, rfl, -⟩
    · exact ⟨hpc, hconnect, Or.inl rfl⟩
    · refine ⟨hpc, hconnect, Or.inr fun pc'' hget ↦ hleft pc'' ?_⟩
      rwa [goto, List.getElem?_set_ne hji] at hget
  · obtain ⟨hthreads, hpc', hconnect'⟩ := next_frame hnext haccept
      (fun j o heq ↦ hthread ⟨j, o, heq⟩) hpc
    exact ⟨hpc', hconnect' hconnect, Or.inr (by rwa [hthreads])⟩

/-- **A statement of the thread** leaves it one less. -/
theorem Ending.less {e : TcpServerEvent} (h : s.Ending i n) (he : e.isOf i = true)
    (hstep : s.step addr e = some s') : ∃ m < n, s'.Ending i m := by
  obtain ⟨hpc, hconnect, hleft⟩ := h
  obtain ⟨hcrashed, hnext⟩ := step_eq_some.1 hstep
  rw [hcrashed] at hleft
  replace hleft := hleft.resolve_left Bool.false_ne_true
  cases e with
  | receiveThread j o =>
    obtain rfl : j = i := of_decide_eq_true he
    obtain ⟨pc, hget, hrun⟩ := Option.bind_eq_some_iff.1 hnext
    have hpos : 0 < pc.statementsLeft := by
      cases pc with
      | finished => cases hrun
      | _ => exact Nat.succ_pos _
    have hle := hleft pc hget
    refine ⟨n - 1, by omega, ?_⟩
    rcases runReceiveThread_cases hrun with ⟨rfl, -⟩ |
      ⟨pc', inFlight, messages, passedOver, rfl, hless, -⟩
    · exact ⟨hpc, hconnect, Or.inl rfl⟩
    · refine ⟨hpc, hconnect, Or.inr fun pc'' hget' ↦ ?_⟩
      have hj := (List.getElem?_eq_some_iff.1 hget).1
      rw [goto, List.getElem?_set_self hj] at hget'
      cases hget'
      have hlt := hless hconnect
      omega
  | _ => cases he

end Steps

end TcpServerState

/-- **What the receive threads still do.** In every run that goes on after the first statement of
`disconnect` and accepts no connection, however the threads are interleaved and whatever the clients
send, every receive thread takes at most seven more statements. Whether a read it waits in ever ends
is not said. -/
theorem receiveThread_le_of_disconnect {addr : ℕ → α} {s s₁ s₂ : TcpServerState α}
    {todo : List ServerStatement} {events : List TcpServerEvent}
    (htodo : s.todo = .clearConnect :: todo) (hpc : s.acceptPc = .accept)
    (hstep : (tcpServer addr).step s .uiThread = some s₁)
    (haccept : .accept ∉ events) (hexec : (tcpServer addr).exec s₁ events = some s₂) (i : ℕ) :
    events.countP (TcpServerEvent.isOf i) ≤ 7 := by
  have hstart : s₁.Ending i 7 := by
    obtain ⟨-, hnext⟩ := TcpServerState.step_eq_some.1 hstep
    simp only [TcpServerState.next, htodo] at hnext
    cases hnext
    refine ⟨hpc, rfl, Or.inr fun pc _ ↦ ?_⟩
    cases pc <;> simp [ReceivePc.statementsLeft]
  exact TransitionSystem.countP_le_of_rank_of_forall (I := TcpServerState.Ending i)
    (fun _ _ _ _ hI ha hp hst ↦ hI.keep ha hp hst) (fun _ _ _ _ hI _ hp hst ↦ hI.less hp hst)
    hstart (fun e he heq ↦ haccept (heq ▸ he)) hexec

/-- Two connections, and the read of the first one fails: the thread of the second one ends. -/
theorem receiveThread_le_of_disconnect_failed : ∃ s s₁ s₂ : TcpServerState ℕ,
    (tcpServer id).Reach s ∧ s.receiveThreads = [.finished, .reading 1] ∧
      (tcpServer id).step s .uiThread = some s₁ ∧
      (tcpServer id).exec s₁ [.receiveThread 1 .ends, .receiveThread 1 .ends] = some s₂ ∧
      s₂.receiveThreads = [.finished, .finished] ∧
      ([.receiveThread 1 .ends, .receiveThread 1 .ends] : List TcpServerEvent).countP
        (TcpServerEvent.isOf 1) ≤ 7 := by
  obtain ⟨s, hs, hthreads, htodo, hpc, s₁, hs₁, s₂, hs₂, hthreads₂⟩ : ∃ s : TcpServerState ℕ,
      (tcpServer id).exec .started ([.connect 0, .connect 1, .accept] ++
        List.replicate 4 .acceptThread ++ List.replicate 5 (.receiveThread 0 (.data 0)) ++
        [.accept] ++ List.replicate 4 .acceptThread ++
        List.replicate 5 (.receiveThread 1 (.data 0)) ++
        [.receiveThread 0 .throws, .receiveThread 0 .ends, .handleMessage]) = some s ∧
      s.receiveThreads = [.finished, .reading 1] ∧
      s.todo = .clearConnect :: (TcpServer.disconnect.tail ++ TcpServer.disconnect) ∧
      s.acceptPc = .accept ∧
      ∃ s₁, (tcpServer id).step s .uiThread = some s₁ ∧
      ∃ s₂, (tcpServer id).exec s₁ [.receiveThread 1 .ends, .receiveThread 1 .ends] = some s₂ ∧
        s₂.receiveThreads = [.finished, .finished] :=
    ⟨_, rfl, rfl, rfl, rfl, _, rfl, _, rfl, rfl⟩
  have hinit : (tcpServer id).Reach (.started : TcpServerState ℕ) := .init
  exact ⟨s, s₁, s₂, hinit.exec hs, hthreads, hs₁, hs₂, hthreads₂,
    receiveThread_le_of_disconnect htodo hpc hs₁ (by decide) hs₂ 1⟩

/-! ### The two windows -/

namespace TcpServerState

/-- No thread is between its test, or its assignment, of `clientScoket` and the statements that
follow the field. -/
def OutsideWindows (s : TcpServerState α) : Prop :=
  s.acceptPc ≠ .setAddress ∧ s.acceptPc ≠ .setStream ∧ .isConnected ∉ s.receiveThreads

/-- `clientScoket = null` runs outside the windows only. -/
def NullsOutside (s : TcpServerState α) (e : TcpServerEvent) : Prop :=
  e = .uiThread → s.todo.head? = some .nullSocket → s.OutsideWindows

/-- What is about to be followed is not `null`. -/
structure Guarded (s : TcpServerState α) : Prop where
  crashed : s.crashed = false
  accept : s.acceptPc = .setAddress ∨ s.acceptPc = .setStream → s.clientScoket.isSome
  threads : .isConnected ∈ s.receiveThreads → s.clientScoket.isSome
  streams : .beginRead ∈ s.receiveThreads → s.mInputStream.isSome
  close : s.todo.head? = some .closeSocket → s.clientScoket.isSome
  tail : .closeSocket ∉ s.todo.tail

section Windows

variable {addr : ℕ → α} {s s' : TcpServerState α} {e : TcpServerEvent}

theorem guarded_started : (started : TcpServerState α).Guarded where
  crashed := rfl
  accept h := by rcases h with h | h <;> cases h
  threads h := by cases h
  streams h := by cases h
  close h := by cases h
  tail h := by cases h

/-- No handler closes the socket without a test. -/
theorem closeSocket_notMem (effects : List (Effect α)) (dialog : Option ℕ) :
    .closeSocket ∉ effects.flatMap (Effect.serverStatements dialog) := by
  intro hin
  obtain ⟨effect, -, hmem⟩ := List.mem_flatMap.1 hin
  cases effect <;> simp [Effect.serverStatements, TcpServer.disconnect] at hmem

/-- A handler starts. -/
theorem Guarded.handle (h : s.Guarded) (dialog : Option ℕ) (r : Activity α × List (Effect α)) :
    (s.handle dialog r).Guarded := by
  have hnot := closeSocket_notMem r.2 dialog
  exact { h with
    close := fun hhead ↦ absurd (List.mem_of_head? hhead) hnot
    tail := fun hin ↦ hnot (List.mem_of_mem_tail hin) }

/-- The statements that do not matter. -/
theorem Guarded.congr (h : s.Guarded) (hcrashed : s'.crashed = s.crashed)
    (haccept : s'.acceptPc = s.acceptPc) (hsocket : s'.clientScoket = s.clientScoket)
    (hthreads : s'.receiveThreads = s.receiveThreads) (hstream : s'.mInputStream = s.mInputStream)
    (htodo : s'.todo = s.todo) : s'.Guarded := by
  obtain ⟨h₁, h₂, h₃, h₄, h₅, h₆⟩ := h
  exact ⟨hcrashed.trans h₁, by rwa [haccept, hsocket], by rwa [hthreads, hsocket],
    by rwa [hthreads, hstream], by rwa [htodo, hsocket], by rwa [htodo]⟩

/-- **The accept loop.** -/
theorem Guarded.runAcceptThread (h : s.Guarded) (hrun : s.runAcceptThread addr = some s') :
    s'.Guarded := by
  rcases runAcceptThread_cases hrun with ⟨rfl, hpc, hnull⟩ | ⟨c, hpc, hc, rfl⟩ |
    ⟨c, hpc, hc, -, rfl⟩ | ⟨c, hpc, hc, -, rfl⟩ | ⟨hpc, rfl⟩ | ⟨hpc, rfl⟩
  · have hsome := h.accept hpc
    rw [hnull] at hsome
    cases hsome
  · exact { h with accept := fun _ ↦ h.accept (Or.inl hpc) }
  · exact { h with accept := by simp, streams := fun _ ↦ rfl }
  · exact { h with accept := by simp }
  · exact { h with accept := by simp }
  · refine { h with accept := by simp, threads := fun hin ↦ h.threads ?_,
                    streams := fun hin ↦ h.streams ?_ }
    · simpa using hin
    · simpa using hin

/-- **A receive thread.** -/
theorem Guarded.runReceiveThread {i : ℕ} {o : ReadOutcome} {pc : ReceivePc} (h : s.Guarded)
    (hget : s.receiveThreads[i]? = some pc) (hrun : s.runReceiveThread i o pc = some s') :
    s'.Guarded := by
  have hmem := List.mem_of_getElem? hget
  rcases runReceiveThread_cases hrun with ⟨rfl, ⟨rfl, hnull⟩ | ⟨rfl, hnull⟩⟩ |
    ⟨pc', inFlight, messages, passedOver, rfl, -, hconnected, hbegin⟩
  · have hsome := h.threads hmem
    rw [hnull] at hsome
    cases hsome
  · have hsome := h.streams hmem
    rw [hnull] at hsome
    cases hsome
  · refine { h with threads := fun hin ↦ ?_, streams := fun hin ↦ ?_ }
    · rcases List.mem_or_eq_of_mem_set hin with hin | heq
      · exact h.threads hin
      · exact hconnected heq.symm
    · rcases List.mem_or_eq_of_mem_set hin with hin | heq
      · exact h.streams hin
      · exact hbegin heq.symm

/-- **The main thread.** -/
theorem Guarded.runUi {st : ServerStatement} {todo : List ServerStatement} (h : s.Guarded)
    (htodo : s.todo = st :: todo) (hok : st = .nullSocket → s.OutsideWindows) :
    ({ s with todo }.runUi st).Guarded := by
  have htail : .closeSocket ∉ todo := by
    have htail := h.tail
    rwa [htodo] at htail
  have hrest : ({ s with todo } : TcpServerState α).Guarded :=
    { h with
      close := fun hhead ↦ absurd (List.mem_of_head? hhead) htail
      tail := fun hin ↦ htail (List.mem_of_mem_tail hin) }
  cases st with
  | send | clearConnect => exact hrest.congr rfl rfl rfl rfl rfl rfl
  | closeOutput =>
    obtain ⟨openSockets, heq⟩ := { s with todo }.closeStream_eq s.mOutputStream
    rw [TcpServerState.runUi, heq]
    exact hrest.congr rfl rfl rfl rfl rfl rfl
  | closeInput =>
    obtain ⟨openSockets, heq⟩ := { s with todo }.closeStream_eq s.mInputStream
    rw [TcpServerState.runUi, heq]
    exact hrest.congr rfl rfl rfl rfl rfl rfl
  | testSocket =>
    rw [TcpServerState.runUi]
    split_ifs with hsome
    · exact { hrest with close := fun _ ↦ hsome, tail := by simpa using htail }
    · exact hrest
  | closeSocket =>
    have hsome : s.clientScoket.isSome := h.close (by rw [htodo]; rfl)
    obtain ⟨c, hc⟩ := Option.isSome_iff_exists.1 hsome
    simp only [TcpServerState.runUi, hc]
    exact hrest.congr rfl rfl hc.symm rfl rfl rfl
  | nullSocket =>
    obtain ⟨haddress, hstream, hthreads⟩ := hok rfl
    exact
      { hrest with
        accept := fun hor ↦ absurd hor (not_or.2 ⟨haddress, hstream⟩)
        threads := fun hin ↦ absurd hin hthreads
        close := fun hhead ↦ absurd (List.mem_of_head? hhead) htail }

/-- **Every step** that keeps to the condition. -/
theorem Guarded.step (h : s.Guarded) (hok : s.NullsOutside e) (hstep : s.step addr e = some s') :
    s'.Guarded := by
  obtain ⟨-, hnext⟩ := step_eq_some.1 hstep
  cases e with
  | connect | clientSend =>
    simp only [next] at hnext
    split_ifs at hnext
    cases hnext
    exact h.congr rfl rfl rfl rfl rfl rfl
  | accept =>
    simp only [next] at hnext
    split at hnext
    next hpc hbacklog =>
      cases hnext
      exact { h with accept := fun _ ↦ rfl, threads := fun _ ↦ rfl, close := fun _ ↦ rfl }
    next => cases hnext
  | acceptThread => exact h.runAcceptThread hnext
  | receiveThread i o =>
    obtain ⟨pc, hget, hrun⟩ := Option.bind_eq_some_iff.1 hnext
    exact h.runReceiveThread hget hrun
  | sendThread throws =>
    obtain ⟨toSend, mOutputStream, writing, answers, lost, rfl⟩ := runSendThread_eq hnext
    exact h.congr rfl rfl rfl rfl rfl rfl
  | handleMessage =>
    simp only [next] at hnext
    split at hnext
    next m messages htodo hmessages =>
      cases hnext
      have hrest : ({ s with messages } : TcpServerState α).Guarded :=
        h.congr rfl rfl rfl rfl rfl rfl
      cases m with
      | fail => exact hrest.handle _ _
      | data c command => exact (hrest.handle _ _).congr rfl rfl rfl rfl rfl rfl
    next => cases hnext
  | acceptClick dialog =>
    simp only [next] at hnext
    split_ifs at hnext
    cases hnext
    exact (h.handle _ _).congr rfl rfl rfl rfl rfl rfl
  | refuseClick | stopClick =>
    simp only [next] at hnext
    split_ifs at hnext
    cases hnext
    exact h.handle _ _
  | cancel dialog =>
    simp only [next] at hnext
    split_ifs at hnext
    cases hnext
    exact h.congr rfl rfl rfl rfl rfl rfl
  | uiThread =>
    simp only [next] at hnext
    split at hnext
    next st todo htodo =>
      cases hnext
      exact h.runUi htodo fun hst ↦ hok rfl (by rw [htodo, hst]; rfl)
    next => cases hnext

/-- **No step** follows a `null` from a guarded state. -/
theorem Guarded.crashed_of_step (h : s.Guarded) (hstep : s.step addr e = some s') :
    s'.crashed = false := by
  by_cases hok : s.NullsOutside e
  · exact (h.step hok hstep).crashed
  · -- the step is the `null` itself
    simp only [NullsOutside, Classical.not_imp] at hok
    obtain ⟨rfl, hhead, -⟩ := hok
    obtain ⟨todo, htodo⟩ := List.head?_eq_some_iff.1 hhead
    obtain ⟨hcrashed, hnext⟩ := step_eq_some.1 hstep
    simp only [next, htodo] at hnext
    cases hnext
    exact hcrashed

/-- **In a window** the thread follows the `null`. -/
theorem exists_crash (hcrashed : s.crashed = false) (hnull : s.clientScoket = none)
    (hwindow : ¬ s.OutsideWindows) :
    ∃ e s', s.step addr e = some s' ∧ s'.crashed = true := by
  have haccept : s.acceptPc = .setAddress ∨ s.acceptPc = .setStream →
      s.runAcceptThread addr = some s.crash := by
    rintro (hpc | hpc) <;> simp only [runAcceptThread, hpc, hnull]
  by_cases hpc : s.acceptPc = .setAddress ∨ s.acceptPc = .setStream
  · exact ⟨.acceptThread, s.crash, step_eq_some.2 ⟨hcrashed, haccept hpc⟩, rfl⟩
  · have hmem : .isConnected ∈ s.receiveThreads := by
      by_contra hnot
      rw [not_or] at hpc
      exact hwindow ⟨hpc.1, hpc.2, hnot⟩
    obtain ⟨i, hget⟩ := List.mem_iff_getElem?.1 hmem
    refine ⟨.receiveThread i .ends, s.crash, step_eq_some.2 ⟨hcrashed, ?_⟩, rfl⟩
    simp [next, hget, runReceiveThread, hnull]

end Windows

end TcpServerState

/-- **A hang-up ends the process only in a window.** As long as `clientScoket = null` runs while no
thread is between its test and its use of the field, no `null` is followed; and where it runs while
one is, the next statement of that thread follows it. -/
theorem crashed_of_reachIf {addr : ℕ → α} {s : TcpServerState α}
    (h : (tcpServer addr).ReachIf TcpServerState.NullsOutside s) :
    s.crashed = false ∧ ∀ todo s₁, s.todo = .nullSocket :: todo →
      (tcpServer addr).step s .uiThread = some s₁ →
        ((∃ e s₂, (tcpServer addr).step s₁ e = some s₂ ∧ s₂.crashed = true) ↔
          ¬ s.OutsideWindows) := by
  have hguarded : s.Guarded :=
    h.invariant TcpServerState.guarded_started fun _ _ _ hs hok hstep ↦ hs.step hok hstep
  refine ⟨hguarded.crashed, fun todo s₁ htodo hstep ↦ ?_⟩
  obtain ⟨hcrashed, hnext⟩ := TcpServerState.step_eq_some.1 hstep
  constructor
  · rintro ⟨e, s₂, hstep₂, hcrashed₂⟩ houtside
    have hguarded₁ : s₁.Guarded := hguarded.step (fun _ _ ↦ houtside) hstep
    rw [hguarded₁.crashed_of_step hstep₂] at hcrashed₂
    cases hcrashed₂
  · intro hwindow
    simp only [TcpServerState.next, htodo] at hnext
    cases hnext
    exact TcpServerState.exists_crash hcrashed rfl hwindow

/-- Another statement of the main thread. -/
theorem reachIf_uiThread {addr : ℕ → α} {s s' : TcpServerState α} {st : ServerStatement}
    (h : (tcpServer addr).ReachIf TcpServerState.NullsOutside s)
    (hfirst : s.todo.head? = some st) (hst : st ≠ .nullSocket)
    (hstep : (tcpServer addr).step s .uiThread = some s') :
    (tcpServer addr).ReachIf TcpServerState.NullsOutside s' :=
  .step h (fun _ hnull ↦ absurd (Option.some.inj (hfirst.symm.trans hnull)) hst) hstep

/-- The read of a connection fails, and while it is closed another client is accepted. -/
theorem crashed_of_reachIf_accepted : ∃ s s₁ : TcpServerState ℕ,
    (tcpServer id).ReachIf TcpServerState.NullsOutside s ∧ s.acceptPc = .setAddress ∧
      (tcpServer id).step s .uiThread = some s₁ ∧
      ∃ e s₂, (tcpServer id).step s₁ e = some s₂ ∧ s₂.crashed = true := by
  let failed : List TcpServerEvent := [.connect 0, .connect 1, .accept] ++
    List.replicate 4 .acceptThread ++ List.replicate 5 (.receiveThread 0 (.data 0)) ++
    [.receiveThread 0 .throws, .receiveThread 0 .ends, .handleMessage]
  obtain ⟨t, ht, hst, t₁, h₁, hst₁, t₂, h₂, hst₂, t₃, h₃, hst₃, t₄, h₄, hst₄, t₅, h₅, s, hs, hpc,
      htodo, s₁, hs₁⟩ :
      ∃ t : TcpServerState ℕ, (tcpServer id).exec .started failed = some t ∧
        t.todo.head? = some .clearConnect ∧
      ∃ t₁, (tcpServer id).step t .uiThread = some t₁ ∧ t₁.todo.head? = some .closeOutput ∧
      ∃ t₂, (tcpServer id).step t₁ .uiThread = some t₂ ∧ t₂.todo.head? = some .closeInput ∧
      ∃ t₃, (tcpServer id).step t₂ .uiThread = some t₃ ∧ t₃.todo.head? = some .testSocket ∧
      ∃ t₄, (tcpServer id).step t₃ .uiThread = some t₄ ∧ t₄.todo.head? = some .closeSocket ∧
      ∃ t₅, (tcpServer id).step t₄ .uiThread = some t₅ ∧
      ∃ s, (tcpServer id).step t₅ .accept = some s ∧ s.acceptPc = .setAddress ∧
      s.todo = .nullSocket :: TcpServer.disconnect ∧
      ∃ s₁, (tcpServer id).step s .uiThread = some s₁ :=
    ⟨_, rfl, rfl, _, rfl, rfl, _, rfl, rfl, _, rfl, rfl, _, rfl, rfl, _, rfl, _, rfl, rfl, rfl, _,
      rfl⟩
  have hinit : (tcpServer id).ReachIf TcpServerState.NullsOutside
      (.started : TcpServerState ℕ) := .init
  have hbefore : ∀ e ∈ failed, e ≠ .uiThread := by decide
  have hreach : (tcpServer id).ReachIf TcpServerState.NullsOutside t :=
    hinit.exec failed (fun s e he heq ↦ absurd heq (hbefore e he)) ht
  have hreach₅ := reachIf_uiThread (reachIf_uiThread (reachIf_uiThread (reachIf_uiThread
    (reachIf_uiThread hreach hst (by decide) h₁) hst₁ (by decide) h₂) hst₂ (by decide) h₃)
    hst₃ (by decide) h₄) hst₄ (by decide) h₅
  have hreachs : (tcpServer id).ReachIf TcpServerState.NullsOutside s :=
    .step hreach₅ (fun heq ↦ by cases heq) hs
  refine ⟨s, s₁, hreachs, hpc, hs₁, ((crashed_of_reachIf hreachs).2 _ s₁ htodo hs₁).2 ?_⟩
  exact fun houtside ↦ houtside.1 hpc

end DoorIntercom
