import DoorIntercom.Call.PendingCall

/-!
# The thread that is interrupted

`disconnect` ends with `mSocketThread.interrupt()`, since the flag `isStop` alone does not stop the
thread: the threads that connect clear it. Whatever else happens after that statement, other calls
and other hang-ups included, the thread takes at most ten more (`socketThread_le_of_interrupt`).
It may still create a socket and post its success, and it may still read once; its loop is not
entered again.

The bound counts the statements that end. It does not say that they do: an interrupt does not wake a
thread that waits for a connection or in a read, and the hang-up closes the socket and the streams
that the fields name when it runs, which need not be the ones the thread waits for. Nor is it about
a thread whose peer closes: nobody interrupts that one.
-/

namespace DoorIntercom

variable {α : Type}

/-- How many statements an interrupted thread takes from here, at most. -/
def Pc.statementsLeft : Pc → ℕ
  | .testOld => 10
  | .closeOld => 9
  | .nullOld => 8
  | .create => 7
  | .testConnect => 6
  | .getOutput => 5
  | .getInput => 4
  | .resetStop => 3
  | .postSuccess | .read => 2
  | .loop | .postFail => 1
  | .finished => 0

/-- The event is a statement of the thread. -/
def ClientEvent.isOf (i : ℕ) : ClientEvent α → Bool
  | .socketThread j _ => j = i
  | _ => false

namespace ClientState

/-- The thread `i` is interrupted, and it takes at most `n` more statements, or the process has
ended. -/
def Ending (i n : ℕ) (s : ClientState α) : Prop :=
  ∃ t, s.socketThreads[i]? = some t ∧ t.isInterrupted = true ∧
    (s.crashed = true ∨ t.pc.statementsLeft ≤ n)

/-- The field names a thread that has been started. -/
def Started (s : ClientState α) : Prop :=
  ∀ i, s.mSocketThread = some i → i < s.socketThreads.length

section Steps

variable {s s' : ClientState α} {i j n : ℕ} {o : Outcome} {t : SocketThread}

theorem statementsLeft_le (pc : Pc) : pc.statementsLeft ≤ 10 := by
  cases pc <;> decide

/-! ### What a step does to the threads -/

/-- **A statement of a socket thread** moves that thread only, and leaves the field. An interrupted
one has less to do, unless a `null` is followed. -/
theorem socketThreads_runSocketThread (hget : s.socketThreads[i]? = some t)
    (hpc : t.pc ≠ .finished) : ∃ pc,
    (s.runSocketThread i t o).socketThreads = s.socketThreads.set i { t with pc } ∧
      (s.runSocketThread i t o).mSocketThread = s.mSocketThread ∧
      (t.isInterrupted = true → (s.runSocketThread i t o).crashed = true ∨
        pc.statementsLeft < t.pc.statementsLeft) := by
  -- a `null` is followed at the same statement
  have hcrash : s.crash.socketThreads = s.socketThreads.set i { t with pc := t.pc } := by
    obtain ⟨hi, rfl⟩ := List.getElem?_eq_some_iff.1 hget
    exact (List.set_getElem_self hi).symm
  cases h : t.pc with
  | testOld =>
    simp only [runSocketThread, h]
    refine ⟨_, rfl, rfl, fun _ ↦ Or.inr ?_⟩
    split_ifs <;> decide
  | nullOld | resetStop | postSuccess | postFail =>
    simp only [runSocketThread, h]
    exact ⟨_, rfl, rfl, fun _ ↦ Or.inr (by decide)⟩
  | closeOld =>
    simp only [runSocketThread, h]
    split
    · exact ⟨_, rfl, rfl, fun _ ↦ Or.inr (by decide)⟩
    · exact ⟨_, hcrash, rfl, fun _ ↦ Or.inl rfl⟩
  | create =>
    simp only [runSocketThread, h]
    split_ifs <;> exact ⟨_, rfl, rfl, fun _ ↦ Or.inr (by decide)⟩
  | testConnect =>
    simp only [runSocketThread, h]
    refine ⟨_, rfl, rfl, fun _ ↦ Or.inr ?_⟩
    split_ifs <;> decide
  | getOutput | getInput =>
    simp only [runSocketThread, h]
    split
    · split_ifs <;> exact ⟨_, rfl, rfl, fun _ ↦ Or.inr (by decide)⟩
    · exact ⟨_, hcrash, rfl, fun _ ↦ Or.inl rfl⟩
  | loop =>
    simp only [runSocketThread, h]
    refine ⟨_, rfl, rfl, fun hinterrupted ↦ Or.inr ?_⟩
    rw [hinterrupted, Bool.not_true, Bool.and_false, if_neg Bool.false_ne_true]
    decide
  | read =>
    simp only [runSocketThread, h]
    split
    · split_ifs
      · cases o <;> exact ⟨_, rfl, rfl, fun _ ↦ Or.inr (by decide)⟩
      · exact ⟨_, rfl, rfl, fun _ ↦ Or.inr (by decide)⟩
    · exact ⟨_, rfl, rfl, fun _ ↦ Or.inr (by decide)⟩
  | finished => exact absurd h hpc

/-- **A statement of the main thread** leaves the threads, starts one or interrupts one. -/
theorem socketThreads_runUi (st : UiStatement) :
    ((s.runUi st).socketThreads = s.socketThreads ∧
      (s.runUi st).mSocketThread = s.mSocketThread) ∨
    ((s.runUi st).socketThreads = s.socketThreads ++ [⟨.testOld, false⟩] ∧
      (s.runUi st).mSocketThread = some s.socketThreads.length) ∨
    ∃ k, (s.runUi st).socketThreads =
        s.socketThreads.modify k (fun t ↦ { t with isInterrupted := true }) ∧
      (s.runUi st).mSocketThread = s.mSocketThread := by
  cases st with
  | connect => exact Or.inr (Or.inl ⟨rfl, rfl⟩)
  | interrupt =>
    rw [runUi]
    split
    next k hk => exact Or.inr (Or.inr ⟨k, rfl, rfl⟩)
    next => exact Or.inl ⟨rfl, rfl⟩
  | send | setStop | nullSocket | endStop => exact Or.inl ⟨rfl, rfl⟩
  | closeOutput =>
    obtain ⟨openSockets, -, -, heq⟩ := runUi_closeOutput s
    rw [heq]
    exact Or.inl ⟨rfl, rfl⟩
  | closeInput =>
    obtain ⟨openSockets, -, -, heq⟩ := runUi_closeInput s
    rw [heq]
    exact Or.inl ⟨rfl, rfl⟩
  | testSocket =>
    rw [runUi]
    split_ifs <;> exact Or.inl ⟨rfl, rfl⟩
  | closeSocket =>
    rw [runUi]
    split <;> exact Or.inl ⟨rfl, rfl⟩

/-- **A step** is a statement of one socket thread, or it leaves the threads, starts one or
interrupts one. -/
theorem step_cases {e : ClientEvent α} (hstep : s.step e = some s') :
    (∃ j o t, e = .socketThread j o ∧ s.socketThreads[j]? = some t ∧ t.pc ≠ .finished ∧
      s' = s.runSocketThread j t o) ∨
    (s'.socketThreads = s.socketThreads ∧ s'.mSocketThread = s.mSocketThread) ∨
    (s'.socketThreads = s.socketThreads ++ [⟨.testOld, false⟩] ∧
      s'.mSocketThread = some s.socketThreads.length) ∨
    ∃ k, s'.socketThreads =
        s.socketThreads.modify k (fun t ↦ { t with isInterrupted := true }) ∧
      s'.mSocketThread = s.mSocketThread := by
  cases e with
  | ui e =>
    simp only [step] at hstep
    split_ifs at hstep
    refine Or.inr (Or.inl ?_)
    rcases startHandler_cases hstep with ⟨dest, rfl⟩ | ⟨-, rfl⟩ | ⟨m, messages, -, rfl⟩ |
      ⟨r, -, rfl⟩ <;> exact ⟨rfl, rfl⟩
  | uiThread =>
    simp only [step] at hstep
    split_ifs at hstep
    split at hstep
    next st todo htodo =>
      cases hstep
      exact Or.inr (socketThreads_runUi (s := { s with todo }) st)
    next => cases hstep
  | socketThread j o =>
    simp only [step] at hstep
    split_ifs at hstep
    split at hstep
    next t hget =>
      split_ifs at hstep with hpc
      exact Or.inl ⟨j, o, t, rfl, hget, hpc, (Option.some.inj hstep).symm⟩
    next => cases hstep
  | sendThread j o =>
    simp only [step] at hstep
    split_ifs at hstep
    obtain ⟨t, -, rfl⟩ := Option.map_eq_some_iff.1 hstep
    refine Or.inr (Or.inl ?_)
    rw [runSendThread]
    repeat' split
    all_goals exact ⟨rfl, rfl⟩

/-- The process does not come back. -/
theorem crashed_eq_false_of_step {e : ClientEvent α} (hstep : s.step e = some s') :
    s.crashed = false := by
  cases hcrashed : s.crashed with
  | false => rfl
  | true => simp [step, hcrashed] at hstep

/-! ### The invariants -/

theorem Started.step {e : ClientEvent α} (h : s.Started) (hstep : s.step e = some s') :
    s'.Started := by
  intro i hi
  rcases step_cases hstep with ⟨j, o, t, rfl, hget, hpc, rfl⟩ | ⟨hthreads, hfield⟩ |
    ⟨hthreads, hfield⟩ | ⟨k, hthreads, hfield⟩
  · obtain ⟨pc, hthreads, hfield, -⟩ := socketThreads_runSocketThread (o := o) hget hpc
    rw [hthreads, List.length_set]
    exact h i (hfield ▸ hi)
  · rw [hthreads]
    exact h i (hfield ▸ hi)
  · rw [hthreads, List.length_append, List.length_singleton]
    cases hfield.symm.trans hi
    exact Nat.lt_succ_self _
  · rw [hthreads, List.length_modify]
    exact h i (hfield ▸ hi)

/-- The threads of an interrupted thread's siblings do not matter to it. -/
theorem Ending.of_getElem? (h : s.Ending i n) (hcrashed : s.crashed = false)
    (hthread : ∀ t, s.socketThreads[i]? = some t → t.isInterrupted = true →
      s'.socketThreads[i]? = some t) : s'.Ending i n := by
  obtain ⟨t, hget, hinterrupted, hleft⟩ := h
  refine ⟨t, hthread t hget hinterrupted, hinterrupted, Or.inr (hleft.resolve_left ?_)⟩
  rw [hcrashed]
  exact Bool.false_ne_true

/-- **What is not a statement of the thread** leaves it as it is. -/
theorem Ending.keep {e : ClientEvent α} (h : s.Ending i n) (he : e.isOf i = false)
    (hstep : s.step e = some s') : s'.Ending i n := by
  refine h.of_getElem? (crashed_eq_false_of_step hstep) fun t hget hinterrupted ↦ ?_
  rcases step_cases hstep with ⟨j, o, t', rfl, hget', hpc, rfl⟩ | ⟨hthreads, -⟩ |
    ⟨hthreads, -⟩ | ⟨k, hthreads, -⟩
  · have hji : j ≠ i := of_decide_eq_false he
    obtain ⟨pc, hthreads, -, -⟩ := socketThreads_runSocketThread (o := o) hget' hpc
    rw [hthreads, List.getElem?_set_ne hji]
    exact hget
  · rw [hthreads]
    exact hget
  · rw [hthreads, List.getElem?_append_left (List.getElem?_eq_some_iff.1 hget).1]
    exact hget
  · rw [hthreads, List.getElem?_modify, hget]
    -- a thread that is interrupted again stays as it is
    split_ifs
    · exact congrArg some (congrArg (SocketThread.mk t.pc) hinterrupted.symm)
    · rfl

/-- **A statement of the thread** leaves it one less. -/
theorem Ending.less {e : ClientEvent α} (h : s.Ending i n) (he : e.isOf i = true)
    (hstep : s.step e = some s') : ∃ m < n, s'.Ending i m := by
  obtain ⟨t, hget, hinterrupted, hleft⟩ := h
  have hcrashed := crashed_eq_false_of_step hstep
  rw [hcrashed] at hleft
  replace hleft := hleft.resolve_left Bool.false_ne_true
  cases e with
  | ui | uiThread | sendThread => cases he
  | socketThread j o =>
    obtain rfl : j = i := of_decide_eq_true he
    simp only [ClientState.step, hcrashed, Bool.false_eq_true, if_false, hget] at hstep
    split_ifs at hstep with hpc
    cases hstep
    obtain ⟨pc, hthreads, -, hless⟩ := socketThreads_runSocketThread (o := o) hget hpc
    have hi := (List.getElem?_eq_some_iff.1 hget).1
    have hpos : 0 < t.pc.statementsLeft := by
      cases h : t.pc with
      | finished => exact absurd h hpc
      | _ => decide
    refine ⟨n - 1, by omega, { t with pc }, ?_, hinterrupted, (hless hinterrupted).imp id ?_⟩
    · rw [hthreads, List.getElem?_set_self hi]
    · intro hlt
      change pc.statementsLeft ≤ n - 1
      omega

/-- The interrupt itself. -/
theorem ending_interrupt {todo : List UiStatement} (hi : i < s.socketThreads.length)
    (htodo : s.todo = .interrupt :: todo) (hthread : s.mSocketThread = some i)
    (hstep : s.step .uiThread = some s') : s'.Ending i 10 := by
  have hcrashed := crashed_eq_false_of_step hstep
  simp only [ClientState.step, hcrashed, Bool.false_eq_true, if_false, htodo] at hstep
  cases hstep
  refine ⟨{ s.socketThreads[i] with isInterrupted := true }, ?_, rfl,
    Or.inr (statementsLeft_le _)⟩
  simp only [runUi, hthread]
  rw [List.getElem?_modify_eq, List.getElem?_eq_getElem hi]
  rfl

end Steps

end ClientState

/-- **What an interrupted thread still does.** In every run that goes on after
`mSocketThread.interrupt()`, however the threads are interleaved and whatever connections and reads
do, the thread that was interrupted takes at most ten more statements. Whether a read it waits in
ever ends is not said. -/
theorem socketThread_le_of_interrupt {s s₁ s₂ : ClientState α} {i : ℕ} {todo : List UiStatement}
    {events : List (ClientEvent α)} (h : (client α).Reach s)
    (htodo : s.todo = .interrupt :: todo) (hthread : s.mSocketThread = some i)
    (hstep : (client α).step s .uiThread = some s₁)
    (hexec : (client α).exec s₁ events = some s₂) :
    events.countP (ClientEvent.isOf i) ≤ 10 := by
  have hstarted : s.Started :=
    h.invariant (fun i hi ↦ by cases hi) fun _ _ _ hs hstep ↦ hs.step hstep
  exact TransitionSystem.countP_le_of_rank (I := ClientState.Ending i)
    (fun _ _ _ _ hs he hstep ↦ hs.keep he hstep) (fun _ _ _ _ hs he hstep ↦ hs.less he hstep)
    (ClientState.ending_interrupt (hstarted i hthread) htodo hthread hstep) hexec

/-- A call is hung up while its thread reads: two more statements. -/
theorem socketThread_le_of_interrupt_reading : ∃ s s₁ s₂ : ClientState ℕ,
    (client ℕ).Reach s ∧ s.mSocketThread = some 0 ∧ s.todo = [.interrupt, .endStop] ∧
      (client ℕ).step s .uiThread = some s₁ ∧
      (client ℕ).exec s₁ [.uiThread, .socketThread 0 .returns, .socketThread 0 .returns] =
        some s₂ ∧
      ([.uiThread, .socketThread 0 .returns, .socketThread 0 .returns] :
        List (ClientEvent ℕ)).countP (ClientEvent.isOf 0) ≤ 10 := by
  obtain ⟨s, hs, hthread, htodo, s₁, hs₁, s₂, hs₂⟩ : ∃ s : ClientState ℕ,
      (client ℕ).exec .idle ([.ui (.callVideo (some 1)), .uiThread] ++
        List.replicate 8 (.socketThread 0 .returns) ++ [.ui .stopClick] ++
        List.replicate 7 .uiThread) = some s ∧
      s.mSocketThread = some 0 ∧ s.todo = [.interrupt, .endStop] ∧
      ∃ s₁, (client ℕ).step s .uiThread = some s₁ ∧
      ∃ s₂, (client ℕ).exec s₁ [.uiThread, .socketThread 0 .returns, .socketThread 0 .returns] =
        some s₂ := ⟨_, rfl, rfl, rfl, _, rfl, _, rfl⟩
  have hinit : (client ℕ).Reach .idle := .init
  have hreach := hinit.exec hs
  exact ⟨s, s₁, s₂, hreach, hthread, htodo, hs₁, hs₂,
    socketThread_le_of_interrupt hreach htodo hthread hs₁ hs₂⟩

end DoorIntercom
