import DoorIntercom.Call.PendingCall
import Mathlib.Data.List.Count
import Mathlib.Data.List.Perm.Basic

/-!
# How many requests a phone sends

The client of `Call.TcpClient` races with itself in many ways, but no interleaving makes up a
request: a call creates at most one socket, a socket leads to at most one request, and what is
written is written to a socket that has been created (`ledger_of_reach`).

Every call is counted by what is left of it: a thread that will create a socket, then one that may
post its success, then the message, the statement of its handler, the send thread, and last the
request. Each step hands one of these on, or drops it.
-/

namespace DoorIntercom

variable {α : Type}

/-! ### What is left of a call -/

/-- A thread here has not created its socket yet. -/
def Pc.willCreate : Pc → Bool
  | .testOld | .closeOld | .nullOld | .create => true
  | _ => false

/-- A thread here has created its socket and may still post its success. -/
def Pc.mayPost : Pc → Bool
  | .testConnect | .getOutput | .getInput | .resetStop | .postSuccess => true
  | _ => false

/-- A request has been written. -/
def LogEntry.isRequest : LogEntry → Bool
  | .write .requestVideo _ => true
  | _ => false

namespace ClientState

/-- The sockets to come. -/
def socketsToCome (s : ClientState α) : ℕ := s.socketThreads.countP fun t ↦ t.pc.willCreate

/-- The requests to come from sockets that are there. -/
def requestsToCome (s : ClientState α) : ℕ :=
  s.socketThreads.countP (fun t ↦ t.pc.mayPost) + s.messages.count .clientConnectSuccess +
    s.todo.count (.send .requestVideo) + s.sendThreads.countP fun t ↦ t.mBuffer = .requestVideo

/-- Calls, sockets and requests. -/
structure Ledger (s : ClientState α) : Prop where
  requests : s.log.countP LogEntry.isRequest + s.requestsToCome ≤ s.created
  sockets : s.created + s.socketsToCome ≤ s.log.count .call
  written : ∀ c socket, .write c socket ∈ s.log → socket < s.created
  mSocket : ∀ socket, s.mSocket = some socket → socket < s.created
  mOutputStream : ∀ socket, s.mOutputStream = some socket → socket < s.created

section Steps

variable {s s' : ClientState α} {i : ℕ} {o : Outcome} {t : SocketThread} {pc : Pc}

/-- The threads at some statements, when one thread goes on. -/
theorem countP_goto (hget : s.socketThreads[i]? = some t)
    (hset : s'.socketThreads = s.socketThreads.set i { t with pc }) (q : Pc → Bool) :
    s'.socketThreads.countP (fun t ↦ q t.pc) + (q t.pc).toNat =
      s.socketThreads.countP (fun t ↦ q t.pc) + (q pc).toNat := by
  obtain ⟨hi, hget⟩ := List.getElem?_eq_some_iff.1 hget
  have hpos : q t.pc = true → 0 < s.socketThreads.countP fun t ↦ q t.pc := fun hq ↦
    List.countP_pos_iff.2 ⟨t, hget ▸ List.getElem_mem hi, hq⟩
  rw [hset, List.countP_set hi, hget]
  cases hq : q t.pc <;> cases hq' : q pc <;> simp only [hq, forall_const] at hpos <;> simp <;> omega

/-- A step that creates no socket and writes nothing. -/
theorem Ledger.congr (h : s.Ledger) (hlog : s'.log = s.log) (hcreated : s'.created = s.created)
    (hrequests : s'.requestsToCome ≤ s.requestsToCome)
    (hsockets : s'.socketsToCome ≤ s.socketsToCome)
    (hsocket : ∀ socket, s'.mSocket = some socket → s.mSocket = some socket)
    (houtput : ∀ socket, s'.mOutputStream = some socket →
      s.mOutputStream = some socket ∨ s.mSocket = some socket) : s'.Ledger where
  requests := by
    have := h.requests
    rw [hlog, hcreated]
    omega
  sockets := by
    have := h.sockets
    rw [hlog, hcreated]
    omega
  written := by rw [hlog, hcreated]; exact h.written
  mSocket socket hs := hcreated ▸ h.mSocket socket (hsocket socket hs)
  mOutputStream socket hs :=
    hcreated ▸ (houtput socket hs).elim (h.mOutputStream socket) (h.mSocket socket)

/-- **A thread goes on** without creating a socket. -/
theorem Ledger.goto (h : s.Ledger) (hget : s.socketThreads[i]? = some t)
    (hset : s'.socketThreads = s.socketThreads.set i { t with pc })
    (hcreate : pc.willCreate = true → t.pc.willCreate = true)
    (hpost : pc.mayPost.toNat + s'.messages.count .clientConnectSuccess ≤
      t.pc.mayPost.toNat + s.messages.count .clientConnectSuccess)
    (hlog : s'.log = s.log) (hcreated : s'.created = s.created) (htodo : s'.todo = s.todo)
    (hsend : s'.sendThreads = s.sendThreads)
    (hsocket : ∀ socket, s'.mSocket = some socket → s.mSocket = some socket)
    (houtput : ∀ socket, s'.mOutputStream = some socket →
      s.mOutputStream = some socket ∨ s.mSocket = some socket) : s'.Ledger := by
  have hpost' := countP_goto hget hset Pc.mayPost
  have hcreate' := countP_goto hget hset Pc.willCreate
  have hle : pc.willCreate.toNat ≤ t.pc.willCreate.toNat := by
    cases hc : pc.willCreate with
    | false => exact Nat.zero_le _
    | true => exact Nat.le_of_eq (congrArg Bool.toNat (hcreate hc)).symm
  refine h.congr hlog hcreated ?_ ?_ hsocket houtput
  · simp only [requestsToCome, htodo, hsend]
    omega
  · simp only [socketsToCome]
    omega

/-- **A socket is created**, and its thread may post its success from now on. -/
theorem Ledger.createSocket (h : s.Ledger) (hget : s.socketThreads[i]? = some t)
    (hpc : t.pc = .create) : (s.createSocket.goto i t .testConnect).Ledger := by
  have hset : (s.createSocket.goto i t .testConnect).socketThreads =
      s.socketThreads.set i { t with pc := .testConnect } := rfl
  have hpost := countP_goto hget hset Pc.mayPost
  have hcreate := countP_goto hget hset Pc.willCreate
  rw [hpc] at hpost hcreate
  change _ + 0 = _ + 1 at hpost
  change _ + 1 = _ + 0 at hcreate
  have hrequests := h.requests
  have hsockets := h.sockets
  refine ⟨?_, ?_, fun c k hk ↦ Nat.lt_succ_of_lt (h.written c k hk), fun k hk ↦ ?_,
    fun k hk ↦ Nat.lt_succ_of_lt (h.mOutputStream k hk)⟩
  · simp only [requestsToCome, ClientState.createSocket, ClientState.goto] at hpost hrequests ⊢
    omega
  · simp only [socketsToCome, ClientState.createSocket, ClientState.goto] at hcreate hsockets ⊢
    omega
  · cases hk
    exact Nat.lt_succ_self _

/-- **Every statement of a socket thread.** -/
theorem Ledger.runSocketThread (h : s.Ledger) (hget : s.socketThreads[i]? = some t) :
    (s.runSocketThread i t o).Ledger := by
  have hcrash : s.crash.Ledger := ⟨h.requests, h.sockets, h.written, h.mSocket, h.mOutputStream⟩
  -- a step of the thread that changes no other field of interest
  have hgoto {s' : ClientState α} {pc : Pc}
      (hset : s'.socketThreads = s.socketThreads.set i { t with pc })
      (hcreate : pc.willCreate = true → t.pc.willCreate = true)
      (hpost : pc.mayPost.toNat + s'.messages.count .clientConnectSuccess ≤
        t.pc.mayPost.toNat + s.messages.count .clientConnectSuccess)
      (hlog : s'.log = s.log) (hcreated : s'.created = s.created) (htodo : s'.todo = s.todo)
      (hsend : s'.sendThreads = s.sendThreads) (hsocket : s'.mSocket = s.mSocket)
      (houtput : s'.mOutputStream = s.mOutputStream) : s'.Ledger :=
    h.goto hget hset hcreate hpost hlog hcreated htodo hsend (fun _ hk ↦ hsocket ▸ hk)
      fun _ hk ↦ Or.inl (houtput ▸ hk)
  cases hpc : t.pc with
  | testOld =>
    simp only [ClientState.runSocketThread, hpc]
    refine hgoto rfl (fun _ ↦ by rw [hpc]; rfl) ?_ rfl rfl rfl rfl rfl rfl
    split_ifs <;> simp [Pc.mayPost, ClientState.goto]
  | closeOld =>
    simp only [ClientState.runSocketThread, hpc]
    split
    · exact hgoto rfl (fun _ ↦ by rw [hpc]; rfl) (by simp [Pc.mayPost, ClientState.goto,
        ClientState.close]) rfl rfl rfl rfl rfl rfl
    · exact hcrash
  | nullOld =>
    simp only [ClientState.runSocketThread, hpc]
    exact h.goto hget rfl (fun _ ↦ by rw [hpc]; rfl) (by simp [Pc.mayPost, ClientState.goto]) rfl
      rfl rfl rfl (fun _ hk ↦ by cases hk) fun _ hk ↦ Or.inl hk
  | create =>
    simp only [ClientState.runSocketThread, hpc]
    split_ifs
    · exact hgoto rfl (fun hc ↦ by cases hc) (by simp [Pc.mayPost, ClientState.goto]) rfl rfl rfl
        rfl rfl rfl
    · exact h.createSocket hget hpc
  | testConnect =>
    simp only [ClientState.runSocketThread, hpc]
    split_ifs
    · exact hgoto rfl (fun hc ↦ by cases hc) (by simp [Pc.mayPost, ClientState.goto, hpc]) rfl rfl
        rfl rfl rfl rfl
    · exact hgoto rfl (fun hc ↦ by cases hc) (by simp [Pc.mayPost, ClientState.goto]) rfl rfl
        rfl rfl rfl rfl
  | getOutput =>
    simp only [ClientState.runSocketThread, hpc]
    split
    next socket hsocket =>
      split_ifs
      · exact h.goto hget rfl (fun hc ↦ by cases hc) (by simp [Pc.mayPost, ClientState.goto, hpc])
          rfl rfl rfl rfl (fun _ hk ↦ hk) fun _ hk ↦ Or.inr (hsocket.trans hk)
      · exact hgoto rfl (fun hc ↦ by cases hc) (by simp [Pc.mayPost, ClientState.goto]) rfl rfl
          rfl rfl rfl rfl
    next => exact hcrash
  | getInput =>
    simp only [ClientState.runSocketThread, hpc]
    split
    · split_ifs
      · exact hgoto rfl (fun hc ↦ by cases hc) (by simp [Pc.mayPost, ClientState.goto, hpc]) rfl
          rfl rfl rfl rfl rfl
      · exact hgoto rfl (fun hc ↦ by cases hc) (by simp [Pc.mayPost, ClientState.goto]) rfl rfl
          rfl rfl rfl rfl
    · exact hcrash
  | resetStop =>
    simp only [ClientState.runSocketThread, hpc]
    exact hgoto rfl (fun hc ↦ by cases hc) (by simp [Pc.mayPost, ClientState.goto, hpc]) rfl rfl
      rfl rfl rfl rfl
  | postSuccess =>
    simp only [ClientState.runSocketThread, hpc]
    -- the thread is done with posting, and its message is there instead
    exact hgoto rfl (fun hc ↦ by cases hc)
      (by simp [Pc.mayPost, ClientState.goto, ClientState.post, hpc, Nat.add_comm]) rfl rfl rfl rfl
      rfl rfl
  | postFail =>
    simp only [ClientState.runSocketThread, hpc]
    exact hgoto rfl (fun hc ↦ by cases hc)
      (by simp [Pc.mayPost, ClientState.goto, ClientState.post]) rfl rfl rfl rfl rfl rfl
  | loop =>
    simp only [ClientState.runSocketThread, hpc]
    refine hgoto rfl (fun hc ↦ ?_) ?_ rfl rfl rfl rfl rfl rfl
    · split_ifs at hc <;> cases hc
    · split_ifs <;> simp [Pc.mayPost, ClientState.goto]
  | read =>
    simp only [ClientState.runSocketThread, hpc]
    split
    · split_ifs
      · split
        · exact hgoto rfl (fun hc ↦ by cases hc) (by simp [Pc.mayPost, ClientState.goto]) rfl rfl
            rfl rfl rfl rfl
        · exact hgoto rfl (fun hc ↦ by cases hc)
            (by simp [Pc.mayPost, ClientState.goto, ClientState.post]) rfl rfl rfl rfl rfl rfl
        · exact hgoto rfl (fun hc ↦ by cases hc) (by simp [Pc.mayPost, ClientState.goto]) rfl rfl
            rfl rfl rfl rfl
      · exact hgoto rfl (fun hc ↦ by cases hc) (by simp [Pc.mayPost, ClientState.goto]) rfl rfl
          rfl rfl rfl rfl
    · exact hgoto rfl (fun hc ↦ by cases hc) (by simp [Pc.mayPost, ClientState.goto]) rfl rfl rfl
        rfl rfl rfl
  | finished =>
    simp only [ClientState.runSocketThread, hpc]
    exact h

/-- The requests to come, without one send thread. -/
theorem countP_eraseIdx {t : SendThread} (hget : s.sendThreads[i]? = some t)
    (q : SendThread → Bool) :
    (s.sendThreads.eraseIdx i).countP q + (q t).toNat = s.sendThreads.countP q := by
  obtain ⟨hi, hget⟩ := List.getElem?_eq_some_iff.1 hget
  rw [← (List.getElem_cons_eraseIdx_perm hi).countP_eq, List.countP_cons, hget]
  cases q t <;> rfl

/-- **Every statement of a send thread**: a request that is written is not to come any more. -/
theorem Ledger.runSendThread {t : SendThread} (h : s.Ledger)
    (hget : s.sendThreads[i]? = some t) : (s.runSendThread i t o).Ledger := by
  have herase := countP_eraseIdx hget fun t ↦ t.mBuffer = .requestVideo
  have hdrop : ({ s with sendThreads := s.sendThreads.eraseIdx i } : ClientState α).Ledger := by
    refine h.congr rfl rfl ?_ (Nat.le_refl _) (fun _ hk ↦ hk) fun _ hk ↦ Or.inl hk
    simp only [requestsToCome]
    omega
  rw [ClientState.runSendThread]
  split_ifs with htested hsome
  · split
    next socket hsocket =>
      split_ifs
      · have hrequests := h.requests
        refine ⟨?_, ?_, fun c k hk ↦ ?_, h.mSocket, h.mOutputStream⟩
        · show (LogEntry.write t.mBuffer socket :: s.log).countP LogEntry.isRequest + _ ≤ s.created
          have hwrite : (LogEntry.write t.mBuffer socket).isRequest =
              decide (t.mBuffer = .requestVideo) := by
            cases t.mBuffer <;> rfl
          simp only [requestsToCome, List.countP_cons, hwrite] at hrequests herase ⊢
          by_cases hreq : t.mBuffer = .requestVideo
          · simp only [hreq, decide_true, Bool.toNat_true, if_true] at herase ⊢
            omega
          · simp only [hreq, decide_false, Bool.toNat_false, Bool.false_eq_true,
              if_false] at herase ⊢
            omega
        · exact Nat.le_trans h.sockets (List.count_le_count_cons ..)
        · rcases List.mem_cons.1 hk with hk | hk
          · cases hk
            exact h.mOutputStream socket hsocket
          · exact h.written c k hk
      · exact hdrop
    next => exact ⟨h.requests, h.sockets, h.written, h.mSocket, h.mOutputStream⟩
  · -- the thread has tested the field, and still has its command
    refine h.congr rfl rfl ?_ (Nat.le_refl _) (fun _ hk ↦ hk) fun _ hk ↦ Or.inl hk
    obtain ⟨hi, hget⟩ := List.getElem?_eq_some_iff.1 hget
    have hpos : decide (t.mBuffer = .requestVideo) = true →
        0 < s.sendThreads.countP fun t ↦ t.mBuffer = .requestVideo := fun hq ↦
      List.countP_pos_iff.2 ⟨t, hget ▸ List.getElem_mem hi, hq⟩
    simp only [requestsToCome, List.countP_set hi, hget]
    split_ifs with hq
    · have := hpos hq
      omega
    · omega
  · exact hdrop

/-- An interrupted thread is where it was. -/
theorem map_pc_interrupt (threads : List SocketThread) (k : ℕ) :
    (threads.modify k fun t ↦ { t with isInterrupted := true }).map SocketThread.pc =
      threads.map SocketThread.pc := by
  refine List.ext_getElem? fun j ↦ ?_
  rw [List.getElem?_map, List.getElem?_map, List.getElem?_modify]
  cases threads[j]? with
  | none => rfl
  | some t => by_cases hkj : k = j <;> simp [hkj]

theorem countP_interrupt (threads : List SocketThread) (k : ℕ) (q : Pc → Bool) :
    (threads.modify k fun t ↦ { t with isInterrupted := true }).countP (fun t ↦ q t.pc) =
      threads.countP fun t ↦ q t.pc := by
  have hcount := congrArg (List.countP q) (map_pc_interrupt threads k)
  rwa [List.countP_map, List.countP_map] at hcount

/-- **Every statement of the main thread.** A call is logged where its thread is started. -/
theorem Ledger.runUi {st : UiStatement} {todo : List UiStatement} (h : s.Ledger)
    (htodo : s.todo = st :: todo) : ({ s with todo }.runUi st).Ledger := by
  have hcount : s.todo.count (.send .requestVideo) =
      todo.count (.send .requestVideo) + if st = .send .requestVideo then 1 else 0 := by
    rw [htodo, List.count_cons]
    simp only [beq_iff_eq]
  have hrest : ({ s with todo } : ClientState α).Ledger := by
    refine h.congr rfl rfl ?_ (Nat.le_refl _) (fun _ hk ↦ hk) fun _ hk ↦ Or.inl hk
    simp only [requestsToCome, hcount]
    omega
  -- closing sockets and streams leaves all of this as it is
  have hclose (openSockets : List ℕ) : ({ s with todo, openSockets } : ClientState α).Ledger :=
    ⟨hrest.requests, hrest.sockets, hrest.written, hrest.mSocket, hrest.mOutputStream⟩
  cases st with
  | connect =>
    have hrequests := hrest.requests
    have hsockets := hrest.sockets
    refine ⟨?_, ?_, fun c k hk ↦ hrest.written c k ((List.mem_cons.1 hk).resolve_left (by simp)),
      h.mSocket, h.mOutputStream⟩
    · simpa [ClientState.runUi, requestsToCome, List.countP_append, LogEntry.isRequest,
        Pc.mayPost] using hrequests
    · simp only [ClientState.runUi, socketsToCome, List.countP_append, List.countP_singleton,
        Pc.willCreate, if_true, List.count_cons_self] at hsockets ⊢
      omega
  | send c =>
    refine ⟨?_, h.sockets, h.written, h.mSocket, h.mOutputStream⟩
    have hrequests := h.requests
    simp only [ClientState.runUi, requestsToCome, hcount, List.countP_append, List.countP_singleton,
      UiStatement.send.injEq, decide_eq_true_eq] at hrequests ⊢
    omega
  | setStop => exact ⟨hrest.requests, hrest.sockets, hrest.written, h.mSocket, h.mOutputStream⟩
  | closeOutput =>
    obtain ⟨openSockets, -, -, heq⟩ := runUi_closeOutput ({ s with todo } : ClientState α)
    rw [heq]
    exact hclose openSockets
  | closeInput =>
    obtain ⟨openSockets, -, -, heq⟩ := runUi_closeInput ({ s with todo } : ClientState α)
    rw [heq]
    exact hclose openSockets
  | testSocket =>
    rw [ClientState.runUi]
    split_ifs
    · refine ⟨?_, hrest.sockets, hrest.written, h.mSocket, h.mOutputStream⟩
      have hrequests := hrest.requests
      simpa [requestsToCome] using hrequests
    · exact hrest
  | closeSocket =>
    rw [ClientState.runUi]
    split
    · exact hclose _
    · exact ⟨hrest.requests, hrest.sockets, hrest.written, h.mSocket, h.mOutputStream⟩
  | nullSocket =>
    exact ⟨hrest.requests, hrest.sockets, hrest.written, (fun _ hk ↦ by cases hk),
      h.mOutputStream⟩
  | interrupt =>
    rw [ClientState.runUi]
    split
    next k _ =>
      have hmodify (q : Pc → Bool) := countP_interrupt s.socketThreads k q
      refine ⟨?_, ?_, hrest.written, h.mSocket, h.mOutputStream⟩
      · have hrequests := hrest.requests
        simpa only [requestsToCome, hmodify Pc.mayPost] using hrequests
      · have hsockets := hrest.sockets
        simpa only [socketsToCome, hmodify Pc.willCreate] using hsockets
    next => exact hrest
  | endStop =>
    refine ⟨?_, ?_, fun c k hk ↦ hrest.written c k ((List.mem_cons.1 hk).resolve_left (by simp)),
      h.mSocket, h.mOutputStream⟩
    · have hrequests := hrest.requests
      simpa [ClientState.runUi, requestsToCome, LogEntry.isRequest] using hrequests
    · exact Nat.le_trans hrest.sockets (List.count_le_count_cons ..)

/-- A handler that has just started sends as many requests as it was started with. -/
theorem Ledger.handle {messages : List Activity.Message} {r : Activity α × List (Effect α)}
    {last : List UiStatement} (h : s.Ledger) (htodo : s.todo = [])
    (hcount : messages.count .clientConnectSuccess +
      (r.2.flatMap Effect.statements ++ last).count (.send .requestVideo) ≤
        s.messages.count .clientConnectSuccess) :
    ({ s with messages }.handle r last).Ledger := by
  refine h.congr rfl rfl ?_ (Nat.le_refl _) (fun _ hk ↦ hk) fun _ hk ↦ Or.inl hk
  simp only [requestsToCome, ClientState.handle, htodo, List.count_nil]
  omega

/-- **The start of a handler**: only the message of a success leads to a request. -/
theorem Ledger.startHandler {e : UiEvent α} (h : s.Ledger) (htodo : s.todo = [])
    (hs : s.startHandler e = some s') : s'.Ledger := by
  rcases startHandler_cases hs with ⟨dest, rfl⟩ | ⟨rfl, rfl⟩ | ⟨m, messages, hm, rfl⟩ | ⟨r, hr, rfl⟩
  · exact h.handle htodo (Nat.le_refl _)
  · refine h.handle htodo (?_ : _ ≤ s.messages.count Activity.Message.clientConnectSuccess)
    rw [statements_stopClick]
    have hcount : ∀ b : Bool, ((if b then [UiStatement.send .handUpVideo] ++ disconnect else []) ++
        [UiStatement.endStop]).count (.send .requestVideo) = 0 := by decide
    rw [hcount]
    exact Nat.le_refl _
  · refine h.handle htodo ?_
    rw [statements_handleMessage, List.append_nil, hm, List.count_cons]
    cases m with
    | clientData c => cases c <;> simp [Activity.Message.statements, disconnect]
    | clientConnectSuccess => simp [Activity.Message.statements]
    | clientConnectFail => simp [Activity.Message.statements, disconnect]
    | serverConnectFail => simp [Activity.Message.statements]
    | serverData c => simp [Activity.Message.statements]
  · refine h.handle htodo (?_ : _ ≤ s.messages.count Activity.Message.clientConnectSuccess)
    rw [hr]
    exact Nat.le_refl _

/-- **Every step** keeps the ledger. -/
theorem Ledger.step {e : ClientEvent α} (h : s.Ledger) (hstep : s.step e = some s') :
    s'.Ledger := by
  cases e with
  | ui e =>
    simp only [ClientState.step] at hstep
    split_ifs at hstep with hcrashed htodo
    exact h.startHandler htodo hstep
  | uiThread =>
    simp only [ClientState.step] at hstep
    split_ifs at hstep
    split at hstep
    next st todo htodo =>
      cases hstep
      exact h.runUi htodo
    next => cases hstep
  | socketThread i o =>
    simp only [ClientState.step] at hstep
    split_ifs at hstep
    split at hstep
    next t ht =>
      split_ifs at hstep
      cases hstep
      exact h.runSocketThread ht
    next => cases hstep
  | sendThread i o =>
    simp only [ClientState.step] at hstep
    split_ifs at hstep
    obtain ⟨t, ht, rfl⟩ := Option.map_eq_some_iff.1 hstep
    exact h.runSendThread ht

end Steps

end ClientState

/-- **Requests, sockets and calls.** However the threads of the client are interleaved and whatever
connections and writes fail, no more requests have been written than sockets created, and no more
sockets created than calls started; and every command has been written to a socket that was
created. -/
theorem requests_le_calls {s : ClientState α} (h : (client α).Reach s) :
    s.log.countP LogEntry.isRequest ≤ s.created ∧ s.created ≤ s.log.count .call ∧
      ∀ c socket, .write c socket ∈ s.log → socket < s.created := by
  have hledger : s.Ledger := by
    refine h.invariant ?_ fun _ _ _ hs hstep ↦ hs.step hstep
    exact ⟨Nat.le_refl _, Nat.le_refl _, nofun, nofun, nofun⟩
  exact ⟨Nat.le_trans (Nat.le_add_right _ _) hledger.requests,
    Nat.le_trans (Nat.le_add_right _ _) hledger.sockets, hledger.written⟩

/-- One call, one socket, one request. -/
theorem requests_le_calls_connected : ∃ s : ClientState ℕ, (client ℕ).Reach s ∧
    s.log.countP LogEntry.isRequest = 1 ∧ s.log.countP LogEntry.isRequest ≤ s.created := by
  obtain ⟨s, hs, hone⟩ : ∃ s : ClientState ℕ, (client ℕ).exec .idle [.ui (.callVideo (some 1)),
      .uiThread, .socketThread 0 .returns, .socketThread 0 .returns, .socketThread 0 .returns,
      .socketThread 0 .returns, .socketThread 0 .returns, .socketThread 0 .returns,
      .socketThread 0 .returns, .ui .handleMessage, .uiThread, .sendThread 0 .returns,
      .sendThread 0 .returns] = some s ∧ s.log.countP LogEntry.isRequest = 1 := ⟨_, rfl, rfl⟩
  have hinit : (client ℕ).Reach .idle := .init
  have hreach := hinit.exec hs
  exact ⟨s, hreach, hone, (requests_le_calls hreach).1⟩

end DoorIntercom
