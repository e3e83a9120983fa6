import DoorIntercom.Call.MainActivity
import DoorIntercom.Lib.Transition
import Mathlib.Logic.Function.Basic

/-!
# Answering a request

The door's `TcpServer` between any number of clients and the local user. The accept loop keeps one
`clientScoket`, one `address` and one `mInputStream`, assigned one after the other for every new
connection; the receive threads read from whatever stream is in the field when they begin a read;
the dialog asks the server's `address`, and the send thread writes to the `clientScoket` of the
moment. No message and no dialog says on which connection the request came.

The clients send any commands: a request opens a dialog, and a hang-up closes the last one. A read
takes as many of the commands that have arrived as it likes, and the listener looks at the first
one only; that reads may also end inside a command is the matter of `Call.Segmentation`. A dialog is
closed by its buttons, and without an answer by the back key or a touch beside it. A write may fail,
and the answer is lost. That this side hangs up, or that a read fails, is in `Call.TcpServer`.

So an answer reaches the client that asked only as long as nobody else connects in between.
`answersRight_of_reachIf` is the run theorem: if no connection is accepted while a request is
outstanding (posted, in a dialog, or its answer not sent), and requests are read from the current
connection only, then every answer is written to the connection that asked, and the video is opened
to its address.
-/

namespace DoorIntercom

variable {α : Type}

/-- Where the accept loop is: in `accept`, or after one of the assignments that follow it. -/
inductive AcceptLoop
  | accepting
  | socketSet
  | addressSet
  | streamSet
  deriving DecidableEq, Repr

/-- The server, its threads and the activity. Connections are numbered; a message of the main thread
carries the connection it was read from, and an answer the dialog it was given in, which the code
does not know. `asked` (the connection that asked in each dialog), `answers` (the connection each
answer was written to) and `videos` (the address the video was opened to) are history variables. -/
structure ServerState (α : Type) where
  connections : List ℕ
  backlog : List ℕ
  inFlight : ℕ → List Command
  acceptLoop : AcceptLoop
  clientScoket : Option ℕ
  address : Option α
  mInputStream : Option ℕ
  isConnect : Bool
  idleThreads : ℕ
  reading : List ℕ
  messages : List (ℕ × Command)
  activity : Activity α
  toSend : List (ℕ × Command)
  asked : List ℕ
  answers : List (ℕ × Command × Option ℕ)
  videos : List (ℕ × Option α)

/-- What can happen next. -/
inductive ServerEvent
  | connect (c : ℕ)
  | clientSend (c : ℕ) (command : Command)
  | accept
  | setAddress
  | setStream
  | startThread
  | beginRead
  /-- The `i`-th read that waits ends, with a command and `n` more behind it. -/
  | read (i n : ℕ)
  | handleMessage
  | acceptClick (dialog : ℕ)
  | refuseClick (dialog : ℕ)
  /-- The dialog is closed by the back key, or by a touch beside it. -/
  | cancel (dialog : ℕ)
  | send (throws : Bool)
  deriving DecidableEq, Repr

namespace ServerState

/-- A server that has just been started. -/
def started : ServerState α where
  connections := []
  backlog := []
  inFlight _ := []
  acceptLoop := .accepting
  clientScoket := none
  address := none
  mInputStream := none
  isConnect := false
  idleThreads := 0
  reading := []
  messages := []
  activity := .idle
  toSend := []
  asked := []
  answers := []
  videos := []

/-- The commands that a handler gives to the send thread. -/
def sends (effects : List (Effect α)) : List Command :=
  effects.filterMap fun effect ↦
    match effect with
    | .serverSend c => some c
    | _ => none

/-- The address that a handler opens the video to. -/
def opened (effects : List (Effect α)) : Option α :=
  effects.findSome? fun effect ↦
    match effect with
    | .initSocket address => address
    | _ => none

/-- The handler of a dialog's button runs. -/
def click (s : ServerState α) (dialog : ℕ) (r : Activity α × List (Effect α)) : ServerState α :=
  { s with
    activity := r.1
    toSend := s.toSend ++ (sends r.2).map fun c ↦ (dialog, c) }

/-- The step of an event; `addr` is the address of a connection's client. -/
def step (addr : ℕ → α) (s : ServerState α) : ServerEvent → Option (ServerState α)
  | .connect c =>
    if c ∈ s.connections then none
    else some { s with connections := c :: s.connections, backlog := s.backlog ++ [c] }
  | .clientSend c command =>
    if c ∈ s.connections then
      some { s with inFlight := Function.update s.inFlight c (s.inFlight c ++ [command]) }
    else none
  | .accept =>
    match s.acceptLoop, s.backlog with
    | .accepting, c :: backlog =>
      some { s with backlog, acceptLoop := .socketSet, clientScoket := some c }
    | _, _ => none
  | .setAddress =>
    if s.acceptLoop = .socketSet then
      some { s with acceptLoop := .addressSet, address := s.clientScoket.map addr }
    else none
  | .setStream =>
    if s.acceptLoop = .addressSet then
      some { s with acceptLoop := .streamSet, mInputStream := s.clientScoket }
    else none
  | .startThread =>
    if s.acceptLoop = .streamSet then
      some { s with acceptLoop := .accepting, isConnect := true, idleThreads := s.idleThreads + 1 }
    else none
  | .beginRead =>
    match s.mInputStream with
    | some c =>
      if s.idleThreads ≠ 0 ∧ s.isConnect ∧ s.clientScoket.isSome then
        some { s with idleThreads := s.idleThreads - 1, reading := c :: s.reading }
      else none
    | none => none
  | .read i n =>
    match s.reading[i]? with
    | some c =>
      match s.inFlight c with
      | command :: rest =>
        -- the listener does not look at the commands behind the first one
        some { s with
          inFlight := Function.update s.inFlight c (rest.drop n)
          idleThreads := s.idleThreads + 1
          reading := s.reading.eraseIdx i
          messages := s.messages ++ [(c, command)] }
      | [] => none
    | none => none
  | .handleMessage =>
    match s.messages with
    | (c, command) :: messages =>
      some { s with
        messages
        activity := (s.activity.serverReceive command).1
        asked := if command = .requestVideo then s.asked ++ [c] else s.asked }
    | [] => none
  | .acceptClick dialog =>
    if dialog ∈ s.activity.dialogs then
      some { s.click dialog (s.activity.acceptClick dialog s.address) with
        videos := s.videos ++ [(dialog, opened (s.activity.acceptClick dialog s.address).2)] }
    else none
  | .refuseClick dialog =>
    if dialog ∈ s.activity.dialogs then some (s.click dialog (s.activity.refuseClick dialog))
    else none
  | .cancel dialog =>
    if dialog ∈ s.activity.dialogs then some { s with activity := s.activity.dismiss dialog }
    else none
  | .send throws =>
    match s.toSend with
    | (dialog, command) :: toSend =>
      some { s with
        toSend
        answers :=
          if throws then s.answers else s.answers ++ [(dialog, command, s.clientScoket)] }
    | [] => none

end ServerState

/-- The system of a server, for clients with the given addresses. -/
def server (addr : ℕ → α) : TransitionSystem (ServerState α) ServerEvent :=
  ⟨.started, ServerState.step addr⟩

/-! ### Right answers -/

/-- Every answer was written to the connection that asked, and every video opened to its address. -/
structure AnswersRight (addr : ℕ → α) (s : ServerState α) : Prop where
  answers : ∀ dialog command c, (dialog, command, c) ∈ s.answers →
    ∃ asker, s.asked[dialog]? = some asker ∧ c = some asker
  videos : ∀ dialog address, (dialog, address) ∈ s.videos →
    ∃ asker, s.asked[dialog]? = some asker ∧ address = some (addr asker)

/-- A request has been read and not yet answered. -/
def ServerState.Outstanding (s : ServerState α) : Prop :=
  (∃ c, (c, .requestVideo) ∈ s.messages) ∨ s.activity.dialogs ≠ [] ∨ s.toSend ≠ []

/-- No connection is accepted while a request is outstanding, and requests are read from the current
connection only. -/
def OneClientAtATime (s : ServerState α) : ServerEvent → Prop
  | .accept => ¬ s.Outstanding
  | .read i _ => ∀ c, s.reading[i]? = some c → (s.inFlight c).head? = some .requestVideo →
      s.clientScoket = some c
  | _ => True

/-! ### The invariant -/

/-- What holds along the runs that serve one client at a time: every connection is accepted once,
the fields of the accept loop are in step with each other, and whatever is outstanding came from the
current connection. -/
structure Serving (addr : ℕ → α) (s : ServerState α) : Prop where
  backlog_nodup : s.backlog.Nodup
  backlog : ∀ c ∈ s.backlog, c ∈ s.connections ∧ s.clientScoket ≠ some c ∧
    s.mInputStream ≠ some c ∧ c ∉ s.reading
  socket : ∀ c, s.clientScoket = some c → c ∈ s.connections
  stream : ∀ c, s.mInputStream = some c → c ∈ s.connections
  reading : ∀ c ∈ s.reading, c ∈ s.connections
  fresh : s.acceptLoop = .socketSet ∨ s.acceptLoop = .addressSet →
    ∀ c, s.clientScoket = some c → s.mInputStream ≠ some c ∧ c ∉ s.reading
  address : s.acceptLoop ≠ .socketSet → s.address = s.clientScoket.map addr
  outstanding : s.Outstanding → s.acceptLoop ≠ .socketSet
  messages : ∀ c, (c, .requestVideo) ∈ s.messages → s.clientScoket = some c
  built : s.activity.built = s.asked.length
  dialogs : ∀ dialog ∈ s.activity.dialogs,
    ∃ asker, s.asked[dialog]? = some asker ∧ s.clientScoket = some asker
  toSend : ∀ a ∈ s.toSend, ∃ asker, s.asked[a.1]? = some asker ∧ s.clientScoket = some asker
  right : AnswersRight addr s

section Invariant

variable {addr : ℕ → α} {s s' : ServerState α}

theorem Serving.started : Serving addr (ServerState.started : ServerState α) where
  backlog_nodup := List.nodup_nil
  backlog := by simp [ServerState.started]
  socket := by simp [ServerState.started]
  stream := by simp [ServerState.started]
  reading := by simp [ServerState.started]
  fresh := by simp [ServerState.started]
  address := by simp [ServerState.started]
  outstanding := by simp [ServerState.started]
  messages := by simp [ServerState.started]
  built := rfl
  dialogs := by simp [ServerState.started, Activity.idle]
  toSend := by simp [ServerState.started]
  right := ⟨by simp [ServerState.started], by simp [ServerState.started]⟩

/-- A new connection waits in the backlog. -/
theorem Serving.connect {c : ℕ} (h : Serving addr s)
    (hstep : s.step addr (.connect c) = some s') : Serving addr s' := by
  simp only [ServerState.step] at hstep
  split_ifs at hstep with hc
  cases hstep
  refine { h with
    backlog_nodup := ?_
    backlog := fun d hd ↦ ?_
    socket := fun d hd ↦ List.mem_cons_of_mem _ (h.socket d hd)
    stream := fun d hd ↦ List.mem_cons_of_mem _ (h.stream d hd)
    reading := fun d hd ↦ List.mem_cons_of_mem _ (h.reading d hd)
    right := ⟨h.right.answers, h.right.videos⟩ }
  · refine List.nodup_append.2 ⟨h.backlog_nodup, List.pairwise_singleton _ c, ?_⟩
    rintro d hd _ hdc rfl
    obtain rfl := List.mem_singleton.1 hdc
    exact hc (h.backlog _ hd).1
  · rcases List.mem_append.1 hd with hd | hd
    · obtain ⟨hconn, hrest⟩ := h.backlog d hd
      exact ⟨List.mem_cons_of_mem _ hconn, hrest⟩
    · obtain rfl := List.mem_singleton.1 hd
      exact ⟨List.mem_cons_self, fun hs ↦ hc (h.socket _ hs), fun hs ↦ hc (h.stream _ hs),
        fun hs ↦ hc (h.reading _ hs)⟩

theorem Serving.clientSend {c : ℕ} {command : Command} (h : Serving addr s)
    (hstep : s.step addr (.clientSend c command) = some s') : Serving addr s' := by
  simp only [ServerState.step] at hstep
  split_ifs at hstep
  cases hstep
  exact { h with right := ⟨h.right.answers, h.right.videos⟩ }

/-- **A connection is accepted**, when nothing is outstanding. -/
theorem Serving.accept (h : Serving addr s) (hok : ¬ s.Outstanding)
    (hstep : s.step addr .accept = some s') : Serving addr s' := by
  simp only [ServerState.step] at hstep
  split at hstep
  · rename_i c backlog hloop hbacklog
    cases hstep
    obtain ⟨hmessages, hdialogs, htoSend⟩ : (∀ c, (c, .requestVideo) ∉ s.messages) ∧
        s.activity.dialogs = [] ∧ s.toSend = [] := by
      simpa [ServerState.Outstanding] using hok
    -- nobody waits for an answer, so `clientScoket` may change hands
    have hc := h.backlog c (by rw [hbacklog]; exact List.mem_cons_self)
    have hnodup := h.backlog_nodup
    rw [hbacklog, List.nodup_cons] at hnodup
    refine { h with
      backlog_nodup := hnodup.2
      backlog := fun d hd ↦ ?_
      socket := fun d hd ↦ ?_
      fresh := fun _ d hd ↦ ?_
      address := fun hne ↦ absurd rfl hne
      outstanding := fun hout ↦ absurd hout hok
      messages := fun c hc ↦ absurd hc (hmessages c)
      dialogs := by simp [hdialogs]
      toSend := by simp [htoSend]
      right := ⟨h.right.answers, h.right.videos⟩ }
    · obtain ⟨hconn, -, hrest⟩ := h.backlog d (by rw [hbacklog]; exact List.mem_cons_of_mem _ hd)
      refine ⟨hconn, fun hdc ↦ ?_, hrest⟩
      cases hdc
      exact hnodup.1 hd
    · cases hd
      exact hc.1
    · cases hd
      exact hc.2.2
  · cases hstep

theorem Serving.setAddress (h : Serving addr s)
    (hstep : s.step addr .setAddress = some s') : Serving addr s' := by
  simp only [ServerState.step] at hstep
  split_ifs at hstep with hloop
  cases hstep
  exact { h with
    fresh := fun _ ↦ h.fresh (Or.inl hloop)
    address := fun _ ↦ rfl
    outstanding := fun hout ↦ absurd hloop (h.outstanding hout)
    right := ⟨h.right.answers, h.right.videos⟩ }

theorem Serving.setStream (h : Serving addr s)
    (hstep : s.step addr .setStream = some s') : Serving addr s' := by
  simp only [ServerState.step] at hstep
  split_ifs at hstep with hloop
  cases hstep
  have haddress := h.address (by rw [hloop]; decide)
  exact { h with
    backlog := fun d hd ↦
      ⟨(h.backlog d hd).1, (h.backlog d hd).2.1, (h.backlog d hd).2.1, (h.backlog d hd).2.2.2⟩
    stream := h.socket
    fresh := fun hor ↦ by simp at hor
    address := fun _ ↦ haddress
    outstanding := fun _ ↦ by simp
    right := ⟨h.right.answers, h.right.videos⟩ }

theorem Serving.startThread (h : Serving addr s)
    (hstep : s.step addr .startThread = some s') : Serving addr s' := by
  simp only [ServerState.step] at hstep
  split_ifs at hstep with hloop
  cases hstep
  have haddress := h.address (by rw [hloop]; decide)
  exact { h with
    fresh := fun hor ↦ by simp at hor
    address := fun _ ↦ haddress
    outstanding := fun _ ↦ by simp
    right := ⟨h.right.answers, h.right.videos⟩ }

theorem Serving.beginRead (h : Serving addr s)
    (hstep : s.step addr .beginRead = some s') : Serving addr s' := by
  simp only [ServerState.step] at hstep
  split at hstep
  · rename_i c hstream
    split_ifs at hstep
    cases hstep
    refine { h with
      backlog := fun d hd ↦ ?_
      reading := fun d hd ↦ ?_
      fresh := fun hor d hd ↦ ?_
      right := ⟨h.right.answers, h.right.videos⟩ }
    · obtain ⟨hconn, hsocket, hstr, hread⟩ := h.backlog d hd
      refine ⟨hconn, hsocket, hstr, fun hmem ↦ ?_⟩
      rcases List.mem_cons.1 hmem with rfl | hmem
      · exact hstr hstream
      · exact hread hmem
    · rcases List.mem_cons.1 hd with rfl | hd
      · exact h.stream _ hstream
      · exact h.reading d hd
    · obtain ⟨hstr, hread⟩ := h.fresh hor d hd
      refine ⟨hstr, fun hmem ↦ ?_⟩
      rcases List.mem_cons.1 hmem with rfl | hmem
      · exact hstr hstream
      · exact hread hmem
  · cases hstep

/-- **A request is read** from the current connection; other commands do not matter. -/
theorem Serving.read {i n : ℕ} (h : Serving addr s) (hok : OneClientAtATime s (.read i n))
    (hstep : s.step addr (.read i n) = some s') : Serving addr s' := by
  simp only [ServerState.step] at hstep
  split at hstep
  · rename_i c hc
    split at hstep
    · rename_i command rest hrest
      cases hstep
      have herase : ∀ d, d ∈ s.reading.eraseIdx i → d ∈ s.reading := fun d hd ↦
        List.mem_of_mem_eraseIdx hd
      have hposted (d : ℕ) (hd : (d, .requestVideo) ∈ s.messages ++ [(c, command)]) :
          (d, .requestVideo) ∈ s.messages ∨
            s.clientScoket = some d ∧ s.acceptLoop ≠ .socketSet := by
        rcases List.mem_append.1 hd with hd | hd
        · exact Or.inl hd
        · cases List.mem_singleton.1 hd
          have hcurrent : s.clientScoket = some c := hok c hc (by rw [hrest]; rfl)
          -- a connection that is being read has had its address stored
          exact Or.inr ⟨hcurrent, fun hloop ↦
            (h.fresh (Or.inl hloop) c hcurrent).2 (List.mem_of_getElem? hc)⟩
      refine { h with
        backlog := fun d hd ↦ ?_
        reading := fun d hd ↦ h.reading d (herase d hd)
        fresh := fun hor d hd ↦ ?_
        outstanding := fun hout ↦ ?_
        messages := fun d hd ↦ ?_
        right := ⟨h.right.answers, h.right.videos⟩ }
      · obtain ⟨hconn, hsocket, hstr, hread⟩ := h.backlog d hd
        exact ⟨hconn, hsocket, hstr, fun hmem ↦ hread (herase d hmem)⟩
      · obtain ⟨hstr, hread⟩ := h.fresh hor d hd
        exact ⟨hstr, fun hmem ↦ hread (herase d hmem)⟩
      · rcases hout with ⟨d, hd⟩ | hout
        · rcases hposted d hd with hd | ⟨-, hloop⟩
          · exact h.outstanding (Or.inl ⟨d, hd⟩)
          · exact hloop
        · exact h.outstanding (Or.inr hout)
      · rcases hposted d hd with hd | ⟨hcurrent, -⟩
        · exact h.messages d hd
        · exact hcurrent
    · cases hstep
  · cases hstep

/-- The dialogs before keep their askers when another dialog is built. -/
theorem getElem?_append_of_some {l : List ℕ} {i c d : ℕ} (h : l[i]? = some c) :
    (l ++ [d])[i]? = some c := by
  rw [List.getElem?_append_left (List.getElem?_eq_some_iff.1 h).1, h]

/-- A message that is no request builds no dialog. -/
theorem serverReceive_of_ne (a : Activity α) {command : Command} (h : command ≠ .requestVideo) :
    (a.serverReceive command).1.built = a.built ∧
      (a.serverReceive command).1.dialogs.Sublist a.dialogs := by
  cases command with
  | requestVideo => exact absurd rfl h
  | handUpVideo =>
    rcases hd : a.alertDialog2 with _ | dialog <;> by_cases hs : a.isStart <;>
      simp [Activity.serverReceive, Activity.dismiss, hd, hs, List.erase_sublist]
  | acceptVideo | refuseVideo | ending => exact ⟨rfl, List.Sublist.refl _⟩

/-- Closing dialogs leaves nothing new to be answered. -/
theorem Serving.close {activity : Activity α} (h : Serving addr s)
    (hbuilt : activity.built = s.activity.built)
    (hdialogs : ∀ d ∈ activity.dialogs, d ∈ s.activity.dialogs) :
    Serving addr { s with activity } :=
  { h with
    outstanding := fun hout ↦ h.outstanding (hout.imp_right (Or.imp_left fun hne ↦
      List.ne_nil_of_mem (hdialogs _ (List.head_mem hne))))
    built := hbuilt.trans h.built
    dialogs := fun d hd ↦ h.dialogs d (hdialogs d hd)
    right := ⟨h.right.answers, h.right.videos⟩ }

/-- **A request opens a dialog**, asked by the connection it was read from. -/
theorem Serving.setDialog {c : ℕ} (h : Serving addr s) (hloop : s.acceptLoop ≠ .socketSet)
    (hcurrent : s.clientScoket = some c) :
    Serving addr { s with activity := s.activity.setDialog, asked := s.asked ++ [c] } := by
  refine { h with
    outstanding := fun _ ↦ hloop
    built := ?_
    dialogs := fun d hd ↦ ?_
    toSend := fun a ha ↦ ?_
    right := ⟨fun d command' c' hd ↦ ?_, fun d address hd ↦ ?_⟩ }
  · simp [Activity.setDialog, h.built]
  · rcases List.mem_append.1 hd with hd | hd
    · obtain ⟨asker, hasked, hsocket⟩ := h.dialogs d hd
      exact ⟨asker, getElem?_append_of_some hasked, hsocket⟩
    · obtain rfl := List.mem_singleton.1 hd
      refine ⟨c, ?_, hcurrent⟩
      rw [h.built]
      simp
  · obtain ⟨asker, hasked, hsocket⟩ := h.toSend a ha
    exact ⟨asker, getElem?_append_of_some hasked, hsocket⟩
  · obtain ⟨asker, hasked, hc⟩ := h.right.answers d command' c' hd
    exact ⟨asker, getElem?_append_of_some hasked, hc⟩
  · obtain ⟨asker, hasked, hc⟩ := h.right.videos d address hd
    exact ⟨asker, getElem?_append_of_some hasked, hc⟩

/-- **A message is handled**: a request opens a dialog, and a hang-up may close one. -/
theorem Serving.handleMessage (h : Serving addr s)
    (hstep : s.step addr .handleMessage = some s') : Serving addr s' := by
  simp only [ServerState.step] at hstep
  split at hstep
  · rename_i c command messages hm
    cases hstep
    have hrest : Serving addr { s with messages } :=
      { h with
        outstanding := fun hout ↦ h.outstanding (hout.imp_left fun ⟨d, hd⟩ ↦
          ⟨d, by rw [hm]; exact List.mem_cons_of_mem _ hd⟩)
        messages := fun d hd ↦ h.messages d (by rw [hm]; exact List.mem_cons_of_mem _ hd)
        right := ⟨h.right.answers, h.right.videos⟩ }
    by_cases hcommand : command = .requestVideo
    · subst hcommand
      have hmem : (c, .requestVideo) ∈ s.messages := by rw [hm]; exact List.mem_cons_self
      exact hrest.setDialog (h.outstanding (Or.inl ⟨c, hmem⟩)) (h.messages c hmem)
    · obtain ⟨hbuilt, hdialogs⟩ := serverReceive_of_ne s.activity hcommand
      simp only [if_neg hcommand]
      exact hrest.close hbuilt fun d hd ↦ hdialogs.subset hd
  · cases hstep

/-- A click in a dialog queues an answer for the connection that asked in it. -/
theorem Serving.click {dialog : ℕ} {r : Activity α × List (Effect α)} (h : Serving addr s)
    (hmem : dialog ∈ s.activity.dialogs) (hbuilt : r.1.built = s.activity.built)
    (hdialogs : ∀ d ∈ r.1.dialogs, d ∈ s.activity.dialogs) : Serving addr (s.click dialog r) := by
  have hloop : s.acceptLoop ≠ .socketSet :=
    h.outstanding (Or.inr (Or.inl (List.ne_nil_of_mem hmem)))
  refine { h with
    outstanding := fun _ ↦ hloop
    built := hbuilt.trans h.built
    dialogs := fun d hd ↦ h.dialogs d (hdialogs d hd)
    toSend := fun a ha ↦ ?_
    right := ⟨h.right.answers, h.right.videos⟩ }
  rcases List.mem_append.1 ha with ha | ha
  · exact h.toSend a ha
  · obtain ⟨command, -, rfl⟩ := List.mem_map.1 ha
    exact h.dialogs dialog hmem

/-- **Accepting** opens the video to the address of the connection that asked. -/
theorem Serving.acceptClick {dialog : ℕ} (h : Serving addr s)
    (hstep : s.step addr (.acceptClick dialog) = some s') : Serving addr s' := by
  simp only [ServerState.step] at hstep
  split_ifs at hstep with hmem
  cases hstep
  have hloop : s.acceptLoop ≠ .socketSet :=
    h.outstanding (Or.inr (Or.inl (List.ne_nil_of_mem hmem)))
  obtain ⟨asker, hasked, hsocket⟩ := h.dialogs dialog hmem
  -- the static `address` is still the asker's
  have haddress : s.address = some (addr asker) := by
    rw [h.address hloop, hsocket, Option.map_some]
  have hclick := h.click (r := s.activity.acceptClick dialog s.address) hmem
    (by simp [Activity.acceptClick, Activity.dismiss, haddress])
    (fun d hd ↦ by
      simp only [Activity.acceptClick, Activity.dismiss, haddress, Option.isSome_some,
        if_true] at hd
      exact List.mem_of_mem_erase hd)
  have hopened : ServerState.opened (s.activity.acceptClick dialog s.address).2 =
      some (addr asker) := by
    rw [haddress]
    rfl
  refine { hclick with right := ⟨hclick.right.answers, fun d address hd ↦ ?_⟩ }
  rcases List.mem_append.1 hd with hd | hd
  · exact hclick.right.videos d address hd
  · rw [hopened] at hd
    cases List.mem_singleton.1 hd
    exact ⟨asker, hasked, rfl⟩

theorem Serving.refuseClick {dialog : ℕ} (h : Serving addr s)
    (hstep : s.step addr (.refuseClick dialog) = some s') : Serving addr s' := by
  simp only [ServerState.step] at hstep
  split_ifs at hstep with hmem
  cases hstep
  exact h.click hmem rfl fun d hd ↦ List.mem_of_mem_erase hd

/-- **A dialog is closed** without an answer. -/
theorem Serving.cancel {dialog : ℕ} (h : Serving addr s)
    (hstep : s.step addr (.cancel dialog) = some s') : Serving addr s' := by
  simp only [ServerState.step] at hstep
  split_ifs at hstep with hmem
  cases hstep
  exact h.close rfl fun d hd ↦ List.mem_of_mem_erase hd

/-- **An answer is written** to the current connection, which asked, or is lost. -/
theorem Serving.send {throws : Bool} (h : Serving addr s)
    (hstep : s.step addr (.send throws) = some s') : Serving addr s' := by
  simp only [ServerState.step] at hstep
  split at hstep
  · rename_i dialog command toSend hsend
    cases hstep
    have hmem : (dialog, command) ∈ s.toSend := by rw [hsend]; exact List.mem_cons_self
    have hloop : s.acceptLoop ≠ .socketSet :=
      h.outstanding (Or.inr (Or.inr (List.ne_nil_of_mem hmem)))
    obtain ⟨asker, hasked, hsocket⟩ := h.toSend _ hmem
    refine { h with
      outstanding := fun _ ↦ hloop
      toSend := fun a ha ↦ h.toSend a (by rw [hsend]; exact List.mem_cons_of_mem _ ha)
      right := ⟨fun d command' c hd ↦ ?_, h.right.videos⟩ }
    cases throws with
    | true => exact h.right.answers d command' c hd
    | false =>
      rcases List.mem_append.1 hd with hd | hd
      · exact h.right.answers d command' c hd
      · cases List.mem_singleton.1 hd
        exact ⟨asker, hasked, hsocket⟩
  · cases hstep

/-- **Every step** that serves one client at a time keeps the invariant. -/
theorem Serving.step {e : ServerEvent} (h : Serving addr s) (hok : OneClientAtATime s e)
    (hstep : (server addr).step s e = some s') : Serving addr s' := by
  cases e with
  | connect c => exact h.connect hstep
  | clientSend c command => exact h.clientSend hstep
  | accept => exact h.accept hok hstep
  | setAddress => exact h.setAddress hstep
  | setStream => exact h.setStream hstep
  | startThread => exact h.startThread hstep
  | beginRead => exact h.beginRead hstep
  | read i n => exact h.read hok hstep
  | handleMessage => exact h.handleMessage hstep
  | acceptClick dialog => exact h.acceptClick hstep
  | refuseClick dialog => exact h.refuseClick hstep
  | cancel dialog => exact h.cancel hstep
  | send throws => exact h.send hstep

end Invariant

/-- **The answer goes to the client that asked**, in every state of every run that serves one client
at a time. -/
theorem answersRight_of_reachIf {addr : ℕ → α} {s : ServerState α}
    (h : (server addr).ReachIf OneClientAtATime s) : AnswersRight addr s :=
  (h.invariant (I := Serving addr) Serving.started
    fun _ _ _ hs hok hstep ↦ hs.step hok hstep).right

/-- A client connects and asks, and the local user accepts: the answer and the video are its own. -/
theorem answersRight_accepted : ∃ s : ServerState ℕ,
    s.answers = [(0, .acceptVideo, some 0)] ∧ s.videos = [(0, some 0)] ∧ AnswersRight id s := by
  have hinit : (server (id : ℕ → ℕ)).ReachIf OneClientAtATime .started := .init
  have hrun := hinit
    |>.step (a := .connect 0) (by trivial) rfl
    |>.step (a := .clientSend 0 .requestVideo) (by trivial) rfl
    |>.step (a := .accept) (by simp [OneClientAtATime, ServerState.Outstanding, ServerState.started,
      Activity.idle]) rfl
    |>.step (a := .setAddress) (by trivial) rfl
    |>.step (a := .setStream) (by trivial) rfl
    |>.step (a := .startThread) (by trivial) rfl
    |>.step (a := .beginRead) (by trivial) rfl
    |>.step (a := .read 0 0) (by exact fun _ hc _ ↦ hc) rfl
    |>.step (a := .handleMessage) (by trivial) rfl
    |>.step (a := .acceptClick 0) (by trivial) rfl
    |>.step (a := .send false) (by trivial) rfl
  exact ⟨_, rfl, rfl, answersRight_of_reachIf hrun⟩

/-- The dialog of connection 0 is open when connection 1 is accepted: the user accepts, the video is
opened to the client of connection 1, and the answer is written to connection 1. -/
theorem not_answersRight_of_second_connection : ∃ s : ServerState ℕ,
    (server id).exec (server id).init [.connect 0, .clientSend 0 .requestVideo, .accept,
      .setAddress, .setStream, .startThread, .beginRead, .read 0 0, .handleMessage, .connect 1,
      .accept, .setAddress, .acceptClick 0, .send false] = some s ∧
    s.asked = [0] ∧ s.answers = [(0, .acceptVideo, some 1)] ∧ s.videos = [(0, some 1)] ∧
      ¬ AnswersRight id s := by
  refine ⟨_, rfl, rfl, rfl, rfl, fun h ↦ ?_⟩
  obtain ⟨asker, hasked, hc⟩ := h.answers 0 .acceptVideo (some 1) List.mem_cons_self
  cases hc
  cases hasked

end DoorIntercom
