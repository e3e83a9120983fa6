import DoorIntercom.Call.ServerHangUp
import Mathlib.Algebra.GroupWithZero.Nat
import Mathlib.Data.List.Perm.Basic

/-!
# The two servers

`Call.Answer` takes several statements of `TcpServer` as one: the conditions of the receive loop
with the beginning of the `read`, the end of the `read` with the message that is posted, `isConnect
= true` with the start of the thread, and the two statements of the send thread. As long as nobody
hangs up and no read fails or ends, every run of `Call.TcpServer` is a run of `Call.Answer`, however
many requests a read takes, whatever dialogs are closed, and whatever writes fail
(`server_of_reachIf`): the statements in between find what they found.

The requests of a read are read there when the first one is posted here, and an answer is written
there when its stream is taken here.
-/

namespace DoorIntercom

variable {α : Type}

/-- Where the accept loop is in `ServerState`. -/
def AcceptPc.acceptLoop : AcceptPc → AcceptLoop
  | .accept | .startThread => .accepting
  | .setAddress => .socketSet
  | .setStream => .addressSet
  | .setConnect => .streamSet

/-- The thread has not begun a `read`. -/
def ReceivePc.isIdle : ReceivePc → Bool
  | .loop | .testSocket | .isConnected | .testStream | .beginRead => true
  | _ => false

/-- The socket that the thread reads, or has read and not posted. -/
def ReceivePc.socket? : ReceivePc → Option ℕ
  | .reading socket | .post socket _ _ => some socket
  | _ => none

/-- How many commands the thread has read from the socket and not posted. -/
def ReceivePc.held (socket : ℕ) : ReceivePc → ℕ
  | .post c _ rest => if c = socket then rest.length + 1 else 0
  | _ => 0

/-- Nobody hangs up, the clients send requests, and no read fails or ends. -/
def Undisturbed : TcpServerEvent → Prop
  | .clientSend _ command => command = .requestVideo
  | .receiveThread _ o => ∃ n, o = .data n
  | .stopClick _ => False
  | _ => True

namespace TcpServerState

/-- The answer that the send thread is about to write. -/
def pendingAnswer (s : TcpServerState α) : List (Option ℕ × Command × ℕ) :=
  match s.writing, s.mOutputStream with
  | some m, some c => [(m.1, m.2, c)]
  | _, _ => []

/-- What holds while nobody hangs up. -/
structure Sound (s : TcpServerState α) : Prop where
  crashed : s.crashed = false
  todo : ∀ st ∈ s.todo, ∃ dialog c, st = .send (some dialog) c
  current : ∀ c, s.clientScoket = some c → c ∈ s.openSockets
  stream : ∀ c, s.mInputStream = some c → c ∈ s.openSockets
  accept : s.acceptPc ≠ .accept → s.clientScoket.isSome
  setConnect : s.acceptPc = .setConnect → s.mInputStream.isSome
  startThread : s.acceptPc = .startThread → s.isConnect = true
  connected : s.isConnect = true → s.clientScoket.isSome ∧ s.mInputStream.isSome
  threads : s.receiveThreads ≠ [] → s.isConnect = true
  running : ∀ pc ∈ s.receiveThreads, pc ≠ .postFail ∧ pc ≠ .finished
  reading : ∀ c, .reading c ∈ s.receiveThreads → c ∈ s.openSockets
  requests : ∀ c, ∀ command ∈ s.inFlight c, command = .requestVideo
  held : ∀ c command rest, .post c command rest ∈ s.receiveThreads → command = .requestVideo
  messages : ∀ m ∈ s.messages, ∃ c, m = .data c .requestVideo

/-- **What `ServerState` sees.** -/
structure Refines (s : TcpServerState α) (t : ServerState α) : Prop where
  connections : t.connections = s.connections
  backlog : t.backlog = s.backlog
  inFlight : ∀ c, t.inFlight c = List.replicate
    ((s.inFlight c).length + (s.receiveThreads.map (ReceivePc.held c)).sum) .requestVideo
  acceptLoop : t.acceptLoop = s.acceptPc.acceptLoop
  clientScoket : t.clientScoket = s.clientScoket
  address : t.address = s.address
  mInputStream : t.mInputStream = s.mInputStream
  isConnect : t.isConnect = s.isConnect
  idleThreads : t.idleThreads = s.receiveThreads.countP ReceivePc.isIdle +
    if s.acceptPc = .startThread then 1 else 0
  reading : t.reading.Perm (s.receiveThreads.filterMap ReceivePc.socket?)
  messages : s.messages = t.messages.map fun m ↦ .data m.1 m.2
  activity : t.activity = s.activity
  toSend : t.toSend.map (fun m ↦ (some m.1, m.2)) = s.toSend ++ s.pendingSends
  asked : t.asked = s.asked
  answers : ((s.answers ++ s.pendingAnswer).map fun a ↦ (a.1, a.2.1, some a.2.2)).Sublist
    (t.answers.map fun a ↦ (some a.1, a.2))
  videos : t.videos = s.videos

section Steps

variable {addr : ℕ → α} {s s' : TcpServerState α} {t : ServerState α}

theorem sound_started : (started : TcpServerState α).Sound := by
  refine ⟨rfl, ?_, ?_, ?_, ?_, ?_, ?_, ?_, ?_, ?_, ?_, ?_, ?_, ?_⟩ <;> simp [started]

theorem refines_started : (started : TcpServerState α).Refines .started where
  connections := rfl
  backlog := rfl
  inFlight _ := rfl
  acceptLoop := rfl
  clientScoket := rfl
  address := rfl
  mInputStream := rfl
  isConnect := rfl
  idleThreads := rfl
  reading := .nil
  messages := rfl
  activity := rfl
  toSend := rfl
  asked := rfl
  answers := List.Sublist.slnil
  videos := rfl

/-- `ServerState` follows to a sound state. -/
def Followed (addr : ℕ → α) (s' : TcpServerState α) (t : ServerState α) : Prop :=
  s'.Sound ∧ ∃ events t', (server addr).exec t events = some t' ∧ s'.Refines t'

theorem Followed.none (hs : s'.Sound) (h : s'.Refines t) : Followed addr s' t :=
  ⟨hs, [], t, rfl, h⟩

theorem Followed.one {t' : ServerState α} {e : ServerEvent} (hs : s'.Sound)
    (hstep : t.step addr e = some t') (h : s'.Refines t') : Followed addr s' t := by
  refine ⟨hs, [e], t', ?_, h⟩
  rw [TransitionSystem.exec_cons, show (server addr).step t e = some t' from hstep]
  rfl

/-! ### The clients -/

theorem follow_connect {c : ℕ} (hs : s.Sound) (h : s.Refines t)
    (hnext : s.next addr (.connect c) = some s') : Followed addr s' t := by
  simp only [next] at hnext
  split_ifs at hnext with hc
  cases hnext
  have hstep : t.step addr (.connect c) = some
      { t with connections := c :: t.connections, backlog := t.backlog ++ [c] } := by
    rw [ServerState.step, if_neg (by rwa [h.connections])]
  exact .one { hs with } hstep
    { h with
      connections := congrArg (c :: ·) h.connections
      backlog := congrArg (· ++ [c]) h.backlog }

theorem follow_clientSend {c : ℕ} (hs : s.Sound) (h : s.Refines t)
    (hnext : s.next addr (.clientSend c .requestVideo) = some s') : Followed addr s' t := by
  simp only [next] at hnext
  split_ifs at hnext with hc
  cases hnext
  have hstep : t.step addr (.clientSend c .requestVideo) = some
      { t with inFlight := Function.update t.inFlight c (t.inFlight c ++ [.requestVideo]) } := by
    rw [ServerState.step, if_pos (by rwa [h.connections])]
  refine .one { hs with requests := fun d command hin ↦ ?_ } hstep
    { h with inFlight := fun d ↦ ?_ }
  · by_cases hd : d = c
    · subst hd
      change command ∈ Function.update s.inFlight d (s.inFlight d ++ [.requestVideo]) d at hin
      rw [Function.update_self] at hin
      exact (List.mem_append.1 hin).elim (hs.requests d command) List.mem_singleton.1
    · change command ∈ Function.update s.inFlight c (s.inFlight c ++ [.requestVideo]) d at hin
      rw [Function.update_of_ne hd] at hin
      exact hs.requests d command hin
  · dsimp only
    by_cases hd : d = c
    · subst hd
      rw [Function.update_self, Function.update_self, h.inFlight, ← List.replicate_succ',
        List.length_append, List.length_singleton, Nat.add_right_comm]
    · rw [Function.update_of_ne hd, Function.update_of_ne hd, h.inFlight]

/-! ### The accept loop -/

theorem follow_accept (hs : s.Sound) (h : s.Refines t)
    (hnext : s.next addr .accept = some s') : Followed addr s' t := by
  simp only [next] at hnext
  split at hnext
  next c backlog hpc hbacklog =>
    cases hnext
    have hstep : t.step addr .accept = some
        { t with backlog, acceptLoop := .socketSet, clientScoket := some c } := by
      simp only [ServerState.step, h.acceptLoop, hpc, AcceptPc.acceptLoop, h.backlog, hbacklog]
    refine .one
      { hs with
        current := fun d hd ↦ ?_, stream := fun d hd ↦ ?_, accept := fun _ ↦ rfl,
        setConnect := by simp, startThread := by simp,
        connected := fun hconnect ↦ ⟨rfl, (hs.connected hconnect).2⟩,
        reading := fun d hd ↦ ?_ }
      hstep
      { h with backlog := rfl, acceptLoop := rfl, clientScoket := rfl, idleThreads := ?_ }
    · cases hd
      exact List.mem_cons_self
    · exact List.mem_cons_of_mem c (hs.stream d hd)
    · exact List.mem_cons_of_mem c (hs.reading d hd)
    · rw [h.idleThreads, hpc]
      rfl
  next => cases hnext

/-- **The accept loop** after `accept`. The thread is started there with `isConnect = true`. -/
theorem follow_acceptThread (hs : s.Sound) (h : s.Refines t)
    (hnext : s.runAcceptThread addr = some s') : Followed addr s' t := by
  have hloop := h.acceptLoop
  have hidle := h.idleThreads
  rcases runAcceptThread_cases hnext with ⟨-, hpc, hnull⟩ | ⟨c, hpc, hc, rfl⟩ |
    ⟨c, hpc, hc, -, rfl⟩ | ⟨c, hpc, hc, hclosed, -⟩ | ⟨hpc, rfl⟩ | ⟨hpc, rfl⟩
  · have hsome : s.clientScoket.isSome := hs.accept (by rcases hpc with hpc | hpc <;> simp [hpc])
    rw [hnull] at hsome
    cases hsome
  · rw [hpc] at hloop hidle
    have hstep : t.step addr .setAddress = some
        { t with acceptLoop := .addressSet, address := t.clientScoket.map addr } := by
      rw [ServerState.step, if_pos (show t.acceptLoop = .socketSet from hloop)]
    refine .one
      { hs with
        accept := fun _ ↦ by simp [hc], setConnect := by simp, startThread := by simp }
      hstep
      { h with acceptLoop := rfl, address := ?_, idleThreads := hidle }
    rw [h.clientScoket, hc]
    rfl
  · rw [hpc] at hloop hidle
    have hstep : t.step addr .setStream = some
        { t with acceptLoop := .streamSet, mInputStream := t.clientScoket } := by
      rw [ServerState.step, if_pos (show t.acceptLoop = .addressSet from hloop)]
    refine .one
      { hs with
        stream := fun d hd ↦ hs.current d (by rw [hc]; exact hd), accept := fun _ ↦ by simp [hc],
        setConnect := fun _ ↦ rfl, startThread := by simp,
        connected := fun hconnect ↦ ⟨(hs.connected hconnect).1, rfl⟩ }
      hstep
      { h with
        acceptLoop := rfl, mInputStream := h.clientScoket.trans hc, idleThreads := hidle }
  · exact absurd (hs.current c hc) hclosed
  · rw [hpc] at hloop hidle
    have hstep : t.step addr .startThread = some
        { t with
          acceptLoop := .accepting, isConnect := true, idleThreads := t.idleThreads + 1 } := by
      rw [ServerState.step, if_pos (show t.acceptLoop = .streamSet from hloop)]
    have hsome : s.clientScoket.isSome := hs.accept (by simp [hpc])
    exact .one
      { hs with
        accept := fun _ ↦ hsome, setConnect := by simp, startThread := fun _ ↦ rfl,
        connected := fun _ ↦ ⟨hsome, hs.setConnect hpc⟩, threads := fun _ ↦ rfl }
      hstep
      { h with acceptLoop := rfl, isConnect := rfl, idleThreads := congrArg (· + 1) hidle }
  · rw [hpc] at hloop hidle
    refine .none
      { hs with
        accept := by simp, setConnect := by simp, startThread := by simp,
        threads := fun _ ↦ hs.startThread hpc, running := ?_, reading := ?_, held := ?_ }
      { h with
        acceptLoop := hloop, inFlight := fun c ↦ ?_, idleThreads := ?_, reading := ?_ }
    · intro pc hin
      rcases List.mem_append.1 hin with hin | hin
      · exact hs.running pc hin
      · simp [List.mem_singleton.1 hin]
    · simpa using hs.reading
    · simpa using hs.held
    · rw [h.inFlight, List.map_append, List.sum_append]
      rfl
    · rw [hidle, List.countP_append]
      rfl
    · rw [List.filterMap_append, show [ReceivePc.loop].filterMap ReceivePc.socket? = [] from rfl,
        List.append_nil]
      exact h.reading

/-! ### The receive threads -/

section Receive

variable {i : ℕ} {pc pc' : ReceivePc}

/-- A thread goes on. -/
theorem Sound.goto (hs : s.Sound) (i : ℕ) (hrunning : pc' ≠ .postFail ∧ pc' ≠ .finished)
    (hreading : ∀ c, pc' = .reading c → c ∈ s.openSockets)
    (hheld : ∀ c command rest, pc' = .post c command rest → command = .requestVideo) :
    (s.goto i pc').Sound := by
  refine { hs with
    threads := fun hne ↦ hs.threads fun heq ↦ hne ?_
    running := fun pc hin ↦ ?_
    reading := fun c hin ↦ ?_
    held := fun c command rest hin ↦ ?_ }
  · rw [TcpServerState.goto, heq]
    rfl
  · rcases List.mem_or_eq_of_mem_set hin with hin | rfl
    · exact hs.running pc hin
    · exact hrunning
  · rcases List.mem_or_eq_of_mem_set hin with hin | heq
    · exact hs.reading c hin
    · exact hreading c heq.symm
  · rcases List.mem_or_eq_of_mem_set hin with hin | heq
    · exact hs.held c command rest hin
    · exact hheld c command rest heq.symm

theorem ReceivePc.socket?_of_isIdle {pc : ReceivePc} (h : pc.isIdle = true) :
    pc.socket? = none ∧ ∀ c, pc.held c = 0 := by
  cases pc with
  | reading | post | postFail | finished => cases h
  | _ => exact ⟨rfl, fun _ ↦ rfl⟩

/-- **A statement before the `read`** is not seen. -/
theorem follow_idle (hs : s.Sound) (h : s.Refines t) (hget : s.receiveThreads[i]? = some pc)
    (hpc : pc.isIdle = true) (hpc' : pc'.isIdle = true) : Followed addr (s.goto i pc') t := by
  obtain ⟨before, after, heq, hset⟩ := exists_set hget pc'
  obtain ⟨hsocket, hheld⟩ := ReceivePc.socket?_of_isIdle hpc
  obtain ⟨hsocket', hheld'⟩ := ReceivePc.socket?_of_isIdle hpc'
  refine .none (hs.goto i ?_ ?_ ?_)
    { h with inFlight := fun c ↦ ?_, idleThreads := ?_, reading := ?_ }
  · constructor <;> rintro rfl <;> cases hpc'
  · rintro c rfl
    cases hpc'
  · rintro c command rest rfl
    cases hpc'
  · rw [h.inFlight, TcpServerState.goto, hset, heq]
    simp [hheld, hheld']
  · rw [h.idleThreads, TcpServerState.goto, hset, heq]
    simp [hpc, hpc']
  · have hreading := h.reading
    rw [heq] at hreading
    rw [TcpServerState.goto, hset]
    simpa [hsocket, hsocket'] using hreading

/-- **The `read` begins.** -/
theorem follow_beginRead {c : ℕ} (hs : s.Sound) (h : s.Refines t)
    (hget : s.receiveThreads[i]? = some .beginRead) (hc : s.mInputStream = some c) :
    Followed addr (s.goto i (.reading c)) t := by
  obtain ⟨before, after, heq, hset⟩ := exists_set hget (.reading c)
  have hconnect := hs.threads (List.ne_nil_of_mem (List.mem_of_getElem? hget))
  have hidle := h.idleThreads
  rw [heq, List.countP_append, List.countP_cons_of_pos (by rfl)] at hidle
  have hsome : t.clientScoket.isSome := by
    rw [h.clientScoket]
    exact (hs.connected hconnect).1
  have hstep : t.step addr .beginRead = some
      { t with idleThreads := t.idleThreads - 1, reading := c :: t.reading } := by
    rw [ServerState.step, h.mInputStream, hc]
    dsimp only
    rw [if_pos ⟨by omega, h.isConnect.trans hconnect, hsome⟩]
  refine .one (hs.goto i (by simp) ?_ (by simp)) hstep
    { h with inFlight := fun d ↦ ?_, idleThreads := ?_, reading := ?_ }
  · intro d hd
    cases hd
    exact hs.stream c hc
  · rw [h.inFlight, TcpServerState.goto, hset, heq]
    simp [ReceivePc.held]
  · rw [TcpServerState.goto, hset, List.countP_append,
      List.countP_cons_of_neg (by simp [ReceivePc.isIdle])]
    dsimp only
    omega
  · have hreading := h.reading
    rw [heq] at hreading
    rw [TcpServerState.goto, hset]
    simp only [List.filterMap_append, List.filterMap_cons, ReceivePc.socket?] at hreading ⊢
    exact (hreading.cons c).trans List.perm_middle.symm

/-- **The `read` ends.** The commands are not yet posted. -/
theorem follow_reading {c n : ℕ} {command : Command} {rest : List Command} (hs : s.Sound)
    (h : s.Refines t) (hget : s.receiveThreads[i]? = some (.reading c))
    (hrest : s.inFlight c = command :: rest) :
    Followed addr ({ s with inFlight := Function.update s.inFlight c (rest.drop n) }.goto i
      (.post c command (rest.take n))) t := by
  obtain ⟨before, after, heq, hset⟩ := exists_set hget (.post c command (rest.take n))
  have hsound : ({ s with inFlight := Function.update s.inFlight c (rest.drop n) } :
      TcpServerState α).Sound := by
    refine { hs with requests := fun d command' hin ↦ ?_ }
    dsimp only at hin
    by_cases hd : d = c
    · subst hd
      rw [Function.update_self] at hin
      exact hs.requests d command'
        (by rw [hrest]; exact List.mem_cons_of_mem _ (List.mem_of_mem_drop hin))
    · rw [Function.update_of_ne hd] at hin
      exact hs.requests d command' hin
  refine .none (hsound.goto i (by simp) (by simp) ?_)
    { h with inFlight := fun d ↦ ?_, idleThreads := ?_, reading := ?_ }
  · intro d command' rest' heq'
    cases heq'
    exact hs.requests c command (by rw [hrest]; exact List.mem_cons_self)
  · rw [h.inFlight, TcpServerState.goto, hset, heq]
    dsimp only
    by_cases hd : d = c
    · subst hd
      rw [Function.update_self, hrest]
      congr 1
      simp [ReceivePc.held]
      omega
    · rw [Function.update_of_ne hd]
      congr 1
      simp [ReceivePc.held, Ne.symm hd]
  · rw [h.idleThreads, TcpServerState.goto, hset, heq]
    simp [ReceivePc.isIdle]
  · have hreading := h.reading
    rw [heq] at hreading
    rw [TcpServerState.goto, hset]
    simpa [ReceivePc.socket?] using hreading

/-- **The message is posted**: its commands are read there. -/
theorem follow_post {c : ℕ} {command : Command} {rest : List Command} (hs : s.Sound)
    (h : s.Refines t) (hget : s.receiveThreads[i]? = some (.post c command rest)) :
    Followed addr ((s.postData c command rest).goto i .loop) t := by
  obtain ⟨before, after, heq, hset⟩ := exists_set hget .loop
  obtain rfl : command = .requestVideo := hs.held c command rest (List.mem_of_getElem? hget)
  have hreading := h.reading
  rw [heq] at hreading
  simp only [List.filterMap_append, List.filterMap_cons, ReceivePc.socket?] at hreading
  obtain ⟨j, hj⟩ := List.mem_iff_getElem?.1 (hreading.mem_iff.2
    (List.mem_append_right _ List.mem_cons_self))
  obtain ⟨hlt, hc⟩ := List.getElem?_eq_some_iff.1 hj
  have herase := List.getElem_cons_eraseIdx_perm hlt
  rw [hc] at herase
  -- the commands are the first of those in flight there
  have hinFlight : t.inFlight c = .requestVideo :: List.replicate ((s.inFlight c).length +
      ((before ++ after).map (ReceivePc.held c)).sum + rest.length) .requestVideo := by
    rw [h.inFlight, heq, ← List.replicate_succ]
    congr 1
    simp [ReceivePc.held]
    omega
  have hstep : t.step addr (.read j rest.length) = some
      { t with
        inFlight := Function.update t.inFlight c (List.replicate ((s.inFlight c).length +
          ((before ++ after).map (ReceivePc.held c)).sum) .requestVideo)
        idleThreads := t.idleThreads + 1
        reading := t.reading.eraseIdx j
        messages := t.messages ++ [(c, .requestVideo)] } := by
    simp only [ServerState.step, hj, hinFlight, List.drop_replicate, Nat.add_sub_cancel]
  have hsound : (s.postData c .requestVideo rest).Sound := by
    refine { hs with messages := fun m hm ↦ ?_ }
    rcases List.mem_append.1 hm with hm | hm
    · exact hs.messages m hm
    · exact ⟨c, List.mem_singleton.1 hm⟩
  refine .one (hsound.goto i (by simp) (by simp) (by simp)) hstep
    { h with
      inFlight := fun d ↦ ?_, idleThreads := ?_, reading := ?_, messages := ?_ }
  · rw [TcpServerState.goto, show (s.postData _ _ _).receiveThreads = s.receiveThreads from rfl,
      hset]
    dsimp only
    by_cases hd : d = c
    · subst hd
      rw [Function.update_self]
      simp [postData, postMessage, ReceivePc.held]
    · rw [Function.update_of_ne hd, h.inFlight, heq]
      simp [postData, postMessage, ReceivePc.held, Ne.symm hd]
  · have hidle := h.idleThreads
    rw [heq, List.countP_append, List.countP_cons_of_neg (by simp [ReceivePc.isIdle])] at hidle
    rw [TcpServerState.goto, show (s.postData _ _ _).receiveThreads = s.receiveThreads from rfl,
      hset]
    change t.idleThreads + 1 = (before ++ .loop :: after).countP ReceivePc.isIdle +
      if s.acceptPc = .startThread then 1 else 0
    rw [List.countP_append, List.countP_cons_of_pos (by rfl)]
    omega
  · rw [TcpServerState.goto, show (s.postData _ _ _).receiveThreads = s.receiveThreads from rfl,
      hset]
    simp only [List.filterMap_append, List.filterMap_cons, ReceivePc.socket?]
    exact (List.perm_cons c).1 (herase.trans (hreading.trans List.perm_middle))
  · rw [TcpServerState.goto, postData, postMessage, List.map_append, ← h.messages]
    rfl

/-- **A receive thread.** -/
theorem follow_receiveThread {n : ℕ} (hs : s.Sound) (h : s.Refines t)
    (hget : s.receiveThreads[i]? = some pc) (hrun : s.runReceiveThread i (.data n) pc = some s') :
    Followed addr s' t := by
  have hmem := List.mem_of_getElem? hget
  have hconnect := hs.threads (List.ne_nil_of_mem hmem)
  obtain ⟨hsocket, hstream⟩ := hs.connected hconnect
  cases pc with
  | loop =>
    rw [TcpServerState.runReceiveThread, if_pos hconnect] at hrun
    cases hrun
    exact follow_idle hs h hget rfl rfl
  | testSocket | isConnected =>
    rw [TcpServerState.runReceiveThread, if_pos hsocket] at hrun
    cases hrun
    exact follow_idle hs h hget rfl rfl
  | testStream =>
    rw [TcpServerState.runReceiveThread, if_pos hstream] at hrun
    cases hrun
    exact follow_idle hs h hget rfl rfl
  | beginRead =>
    obtain ⟨c, hc⟩ := Option.isSome_iff_exists.1 hstream
    simp only [TcpServerState.runReceiveThread, hc] at hrun
    cases hrun
    exact follow_beginRead hs h hget hc
  | reading c =>
    rw [TcpServerState.runReceiveThread, if_pos (hs.reading c hmem)] at hrun
    split at hrun
    next command rest hrest =>
      cases hrun
      exact follow_reading hs h hget hrest
    next => cases hrun
  | post c command rest =>
    cases hrun
    exact follow_post hs h hget
  | postFail => exact absurd rfl (hs.running _ hmem).1
  | finished => exact absurd rfl (hs.running _ hmem).2

end Receive

/-! ### The send thread -/

/-- An answer waits for the send thread there, too. -/
theorem Refines.exists_toSend {m : Option ℕ × Command} {toSend : List (Option ℕ × Command)}
    (h : s.Refines t) (hm : s.toSend = m :: toSend) : ∃ m' toSend', t.toSend = m' :: toSend' ∧
      m = (some m'.1, m'.2) ∧
      toSend'.map (fun m ↦ (some m.1, m.2)) = toSend ++ s.pendingSends := by
  have htoSend := h.toSend
  rw [hm, List.cons_append] at htoSend
  obtain ⟨m', toSend', heq, hm', hrest⟩ := List.map_eq_cons_iff.1 htoSend
  exact ⟨m', toSend', heq, hm'.symm, hrest⟩

theorem pendingAnswer_lose (s : TcpServerState α) (dialog : Option ℕ) :
    (s.lose dialog).pendingAnswer = s.pendingAnswer := rfl

/-- **The send thread**: an answer is written there when its stream is taken here. -/
theorem follow_sendThread {throws : Bool} (hs : s.Sound) (h : s.Refines t)
    (hrun : s.runSendThread throws = some s') : Followed addr s' t := by
  have hanswers := h.answers
  rcases runSendThread_cases hrun with ⟨m, toSend, hwriting, hm, hcases⟩ | ⟨m, hwriting, hcases⟩
  · have hpending : s.pendingAnswer = [] := by rw [pendingAnswer, hwriting]
    rw [hpending, List.append_nil] at hanswers
    obtain ⟨m', toSend', heq, rfl, hrest⟩ := h.exists_toSend hm
    have hstep (throws : Bool) : t.step addr (.send throws) = some
        { t with
          toSend := toSend'
          answers := if throws then t.answers else
            t.answers ++ [(m'.1, m'.2, t.clientScoket)] } := by
      simp only [ServerState.step, heq]
    rcases hcases with ⟨c, hc, rfl⟩ | rfl
    · refine .one { hs with } (hstep false) { h with toSend := hrest, answers := ?_ }
      rw [List.map_append, if_neg Bool.false_ne_true, List.map_append, h.clientScoket, hc]
      exact hanswers.append (List.Sublist.refl _)
    · refine .one { hs with } (hstep true) { h with toSend := hrest, answers := ?_ }
      rwa [pendingAnswer_lose, show pendingAnswer { s with toSend } = [] from hpending,
        List.append_nil]
  · rcases hcases with ⟨c, hc, rfl⟩ | rfl
    · refine .none { hs with } { h with answers := ?_ }
      rw [show s.pendingAnswer = [(m.1, m.2, c)] by rw [pendingAnswer, hwriting, hc]] at hanswers
      rwa [show pendingAnswer { s with writing := none, answers := _ } = [] from rfl,
        List.append_nil]
    · refine .none { hs with } { h with answers := ?_ }
      rw [List.map_append] at hanswers
      rw [pendingAnswer_lose, show pendingAnswer { s with writing := none } = [] from rfl,
        List.append_nil]
      exact (List.sublist_append_left _ _).trans hanswers

/-! ### The main thread -/

/-- **A message is handled.** -/
theorem follow_handleMessage (hs : s.Sound) (h : s.Refines t)
    (hnext : s.next addr .handleMessage = some s') : Followed addr s' t := by
  simp only [next] at hnext
  split at hnext
  next m messages htodo hm =>
    cases hnext
    obtain ⟨c, rfl⟩ := hs.messages m (by rw [hm]; exact List.mem_cons_self)
    have hmessages := h.messages
    rw [hm, eq_comm] at hmessages
    obtain ⟨⟨d, command⟩, messages', heq, hm', hrest⟩ := List.map_eq_cons_iff.1 hmessages
    cases hm'
    have hstep : t.step addr .handleMessage = some
        { t with
          messages := messages'
          activity := (t.activity.serverReceive .requestVideo).1
          asked := t.asked ++ [d] } := by
      simp only [ServerState.step, heq, if_true]
    have htoSend := h.toSend
    rw [pendingSends_of_todo htodo] at htoSend
    exact .one
      { hs with
        todo := fun st hst ↦ by cases hst
        messages := fun m hin ↦ hs.messages m (by rw [hm]; exact List.mem_cons_of_mem _ hin) }
      hstep
      { h with
        messages := hrest.symm
        activity := by rw [h.activity]; rfl
        toSend := htoSend
        asked := congrArg (· ++ [d]) h.asked }
  next => cases hnext

/-- **A button of a dialog.** What is sent there at once is still to be sent here. -/
theorem Refines.click {dialog : ℕ} {r : Activity α × List (Effect α)} {command : Command}
    (h : s.Refines t) (htodo : s.todo = [])
    (hstatements : r.2.flatMap (Effect.serverStatements (some dialog)) =
      [.send (some dialog) command]) (hsends : ServerState.sends r.2 = [command]) :
    (s.handle (some dialog) r).Refines (t.click dialog r) := by
  have htoSend := h.toSend
  rw [pendingSends_of_todo htodo, List.append_nil] at htoSend
  refine { h with activity := rfl, toSend := ?_ }
  rw [ServerState.click, hsends, List.map_append, htoSend, pendingSends, TcpServerState.handle,
    hstatements]
  rfl

theorem Sound.handle {dialog : ℕ} {r : Activity α × List (Effect α)} {command : Command}
    (hs : s.Sound) (hstatements : r.2.flatMap (Effect.serverStatements (some dialog)) =
      [.send (some dialog) command]) : (s.handle (some dialog) r).Sound := by
  refine { hs with todo := fun st hst ↦ ?_ }
  rw [TcpServerState.handle, hstatements] at hst
  exact ⟨dialog, command, List.mem_singleton.1 hst⟩

/-- **The positive button.** -/
theorem follow_acceptClick {dialog : ℕ} (hs : s.Sound) (h : s.Refines t)
    (hnext : s.next addr (.acceptClick dialog) = some s') : Followed addr s' t := by
  simp only [next] at hnext
  split_ifs at hnext with hok
  cases hnext
  obtain ⟨htodo, hdialog⟩ := hok
  obtain ⟨hstatements, hsends⟩ := serverStatements_acceptClick s.activity dialog s.address
  have hstep : t.step addr (.acceptClick dialog) = some
      { t.click dialog (s.activity.acceptClick dialog s.address) with
        videos := t.videos ++
          [(dialog, ServerState.opened (s.activity.acceptClick dialog s.address).2)] } := by
    simp only [ServerState.step, h.activity, h.address, if_pos hdialog]
  exact .one { hs.handle hstatements with } hstep
    { h.click htodo hstatements hsends with videos := by rw [h.videos] }

/-- **The negative button.** -/
theorem follow_refuseClick {dialog : ℕ} (hs : s.Sound) (h : s.Refines t)
    (hnext : s.next addr (.refuseClick dialog) = some s') : Followed addr s' t := by
  simp only [next] at hnext
  split_ifs at hnext with hok
  cases hnext
  obtain ⟨htodo, hdialog⟩ := hok
  have hstep : t.step addr (.refuseClick dialog) =
      some (t.click dialog (s.activity.refuseClick dialog)) := by
    simp only [ServerState.step, h.activity, if_pos hdialog]
  exact .one (hs.handle rfl) hstep (h.click htodo rfl rfl)

/-- **A dialog is closed** without an answer. -/
theorem follow_cancel {dialog : ℕ} (hs : s.Sound) (h : s.Refines t)
    (hnext : s.next addr (.cancel dialog) = some s') : Followed addr s' t := by
  simp only [next] at hnext
  split_ifs at hnext with hok
  cases hnext
  obtain ⟨-, hdialog⟩ := hok
  have hstep : t.step addr (.cancel dialog) =
      some { t with activity := s.activity.dismiss dialog } := by
    simp only [ServerState.step, h.activity, if_pos hdialog]
  exact .one { hs with } hstep { h with activity := rfl }

/-- **The statements of a handler** only send. -/
theorem follow_uiThread (hs : s.Sound) (h : s.Refines t)
    (hnext : s.next addr .uiThread = some s') : Followed addr s' t := by
  simp only [next] at hnext
  split at hnext
  next st todo htodo =>
    cases hnext
    obtain ⟨dialog, c, rfl⟩ := hs.todo st (by rw [htodo]; exact List.mem_cons_self)
    have htoSend := h.toSend
    rw [pendingSends, htodo] at htoSend
    refine .none
      { hs with
        todo := fun st hst ↦ hs.todo st (by rw [htodo]; exact List.mem_cons_of_mem _ hst) }
      { h with toSend := htoSend.trans ?_ }
    rw [runUi, List.append_assoc]
    rfl
  next => cases hnext

/-- **`ServerState` follows every step.** -/
theorem follow {e : TcpServerEvent} (hs : s.Sound) (h : s.Refines t) (hok : Undisturbed e)
    (hstep : s.step addr e = some s') : Followed addr s' t := by
  obtain ⟨-, hnext⟩ := step_eq_some.1 hstep
  cases e with
  | connect c => exact follow_connect hs h hnext
  | clientSend c command =>
    obtain rfl : command = .requestVideo := hok
    exact follow_clientSend hs h hnext
  | accept => exact follow_accept hs h hnext
  | acceptThread => exact follow_acceptThread hs h hnext
  | receiveThread i o =>
    obtain ⟨n, rfl⟩ := hok
    obtain ⟨pc, hget, hrun⟩ := Option.bind_eq_some_iff.1 hnext
    exact follow_receiveThread hs h hget hrun
  | sendThread throws => exact follow_sendThread hs h hnext
  | handleMessage => exact follow_handleMessage hs h hnext
  | acceptClick dialog => exact follow_acceptClick hs h hnext
  | refuseClick dialog => exact follow_refuseClick hs h hnext
  | cancel dialog => exact follow_cancel hs h hnext
  | stopClick clientConnected => exact absurd hok id
  | uiThread => exact follow_uiThread hs h hnext

end Steps

end TcpServerState

/-- **The two servers.** As long as nobody hangs up and no read fails or ends, the statements of
`TcpServer` do not follow a `null`, and what they do is what `ServerState` does, whose receive
threads test and read, and read and post, in one step. -/
theorem server_of_reachIf {addr : ℕ → α} {s : TcpServerState α}
    (h : (tcpServer addr).ReachIf (fun _ e ↦ Undisturbed e) s) :
    s.crashed = false ∧ ∃ t, (server addr).Reach t ∧ s.Refines t := by
  let R (s : TcpServerState α) (t : ServerState α) : Prop := s.Sound ∧ s.Refines t
  have hinit : R (tcpServer addr).init (server addr).init :=
    ⟨TcpServerState.sound_started, TcpServerState.refines_started⟩
  have hstep : ∀ s t e s', R s t → Undisturbed e → (tcpServer addr).step s e = some s' →
      ∃ events t', (server addr).exec t events = some t' ∧ R s' t' := by
    intro s t e s' hR hok hstep
    obtain ⟨hs', events, t', hexec, hrefines'⟩ := TcpServerState.follow hR.1 hR.2 hok hstep
    exact ⟨events, t', hexec, hs', hrefines'⟩
  obtain ⟨t, ht, hs, hrefines⟩ := h.simulated hinit hstep
  exact ⟨hs.crashed, t, ht, hrefines⟩

/-- The second of two clients asks twice before it is read, and is answered. -/
theorem server_of_reachIf_accepted : ∃ s : TcpServerState ℕ,
    (tcpServer id).ReachIf (fun _ e ↦ Undisturbed e) s ∧
      s.receiveThreads = [.reading 0, .reading 1] ∧ s.answers = [(some 0, .acceptVideo, 1)] ∧
      s.passedOver = [(1, .requestVideo)] ∧ ∃ t, (server id).Reach t ∧ s.Refines t := by
  let events : List TcpServerEvent := [.connect 0, .connect 1, .accept] ++
    List.replicate 4 .acceptThread ++ List.replicate 5 (.receiveThread 0 (.data 0)) ++ [.accept] ++
    List.replicate 4 .acceptThread ++ [.clientSend 1 .requestVideo, .clientSend 1 .requestVideo] ++
    List.replicate 7 (.receiveThread 1 (.data 1)) ++ [.handleMessage, .acceptClick 0, .uiThread,
      .sendThread false, .sendThread false] ++ List.replicate 5 (.receiveThread 1 (.data 0))
  obtain ⟨s, hs, hthreads, hanswers, hpassed⟩ : ∃ s : TcpServerState ℕ,
      (tcpServer id).exec .started events = some s ∧
        s.receiveThreads = [.reading 0, .reading 1] ∧ s.answers = [(some 0, .acceptVideo, 1)] ∧
        s.passedOver = [(1, .requestVideo)] :=
    ⟨_, rfl, rfl, rfl, rfl⟩
  have hinit : (tcpServer id).ReachIf (fun _ e ↦ Undisturbed e) (.started : TcpServerState ℕ) :=
    .init
  have hok : ∀ e ∈ events, Undisturbed e := by simp [events, Undisturbed]
  have hreach := hinit.exec events (fun _ ↦ hok) hs
  exact ⟨s, hreach, hthreads, hanswers, hpassed, (server_of_reachIf hreach).2⟩

end DoorIntercom
