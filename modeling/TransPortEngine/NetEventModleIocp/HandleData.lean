import TransPortEngine.Library.Transition
import TransPortEngine.TcpSession.IocpRequests

/-!
# Completions of one session

`NetEventModleIOCP_HandleData` for the completions of a registered session, one
after another: receives and sends that succeed, that transfer nothing, or that
fail with an error code. The kernel completes only what is outstanding.
-/

namespace TransPortEngine

open MachineInt Transition

/-- `WAIT_TIMEOUT`. -/
def waitTimeout : Nat := 258

/-- `ERROR_NETNAME_DELETED`. -/
def errorNetnameDeleted : Nat := 64

/-- The operations whose completions a worker gets for a session. -/
inductive IocpOp
  | ioRecv
  | ioSend
  deriving DecidableEq, Repr

namespace IocpSession

/-- Replace or drop the first send with a sequence number. -/
def replaceSend
    (nSquence : Int)
    (next : Option PerIoContextSend) :
    List PerIoContextSend → List PerIoContextSend
  | [] => []
  | context :: contexts =>
      if context.nSquence = nSquence then next.toList ++ contexts
      else context :: replaceSend nSquence next contexts

/-- `TcpSession_IOSend(int)` on Windows for a send that has transferred some
bytes, given the success of `WSASend`. -/
def ioSendNext
    (session : IocpSession)
    (nSquence : Int)
    (dwSendLen : Nat)
    (posted : Bool) : IocpSession × List EngineEvent × Int :=
  let locked := fun events =>
    [.lock .perIoContextSendLock] ++ events ++
      [EngineEvent.unlock .perIoContextSendLock]
  let keep := fun next => { session with
    perIoContextSends := replaceSend nSquence next session.perIoContextSends }
  match session.perIoContextSends.find? (·.nSquence = nSquence) with
  | none => (session, locked [], 0)
  | some context =>
      if dwSendLen = context.wsaBufLen then (keep none, locked [], 0)
      else if context.wsaBufLen < dwSendLen then (keep none, locked [], -2)
      else
        let rest := { context with
          wsaBufOffset := context.wsaBufOffset + dwSendLen
          wsaBufLen := context.wsaBufLen - dwSendLen
          dwSendLen := 0 }
        if session.bIsToBeClose then (keep (some rest), locked [], 0)
        else
          (keep (some rest),
            locked [.wsaSend session.socket
              ((rest.szBuffer.drop rest.wsaBufOffset).take rest.wsaBufLen)
              posted],
            if posted then 0 else -3)

end IocpSession

/-- What `GetQueuedCompletionStatus` returns for a session, with the results of
the calls made while it is handled. -/
inductive IocpCompletion
  | received (turn : IocpTurn)
  | sent (nSquence : Int) (dwBytesTransfered : Nat) (posted : Bool)
  | closed (opType : IocpOp)
  | failed (opType : IocpOp) (dwErrno : Nat) (isSocketAlive : Bool)

/-- The operation that has completed. -/
def IocpCompletion.opType : IocpCompletion → IocpOp
  | .received _ => .ioRecv
  | .sent _ _ _ => .ioSend
  | .closed opType => opType
  | .failed opType _ _ => opType

/-- A step of a session: a completion is handled, or the application posts a
send. -/
inductive IocpInput
  | completed (completion : IocpCompletion)
  | sendData (szData : List UInt8) (nDataLen : Int) (posted : Bool)

/-- A session as the workers see it: whether it is in `m_TcpSessions`, how many
receives on its context are outstanding, and whether it has been finalised and
deleted. -/
structure ServedSession where
  session : IocpSession
  registered : Bool
  recvs : Nat
  finalised : Bool
  deleted : Bool

/-- Number of receives posted with success. -/
def postedRecvs (events : List EngineEvent) : Nat :=
  events.countP fun event =>
    match event with
    | .wsaRecv _ _ posted => posted
    | _ => false

namespace ServedSession

/-- `TcpSessionMgr_DelSession`. -/
def delSession (served : ServedSession) : ServedSession × Int :=
  if served.registered then ({ served with registered := false }, 0)
  else (served, -1)

/-- `NetEventModleIOCP_DelEvent`, `TcpSession_Fini` and `delete`. -/
def destroy (served : ServedSession) : ServedSession :=
  { served with finalised := true, deleted := true }

/-- The branches that destroy a session only when they have removed it. -/
def remove (served : ServedSession) : ServedSession :=
  let removed := served.delSession
  if removed.2 < 0 then removed.1 else removed.1.destroy

/-- `AcceptSession_HandleAcceptError`. -/
def handleAcceptError
    (served : ServedSession)
    (dwErrno : Nat)
    (isSocketAlive : Bool) : ServedSession × Bool :=
  if dwErrno = waitTimeout then
    if isSocketAlive then (served, true) else (served.remove, true)
  else if dwErrno = errorNetnameDeleted then (served.remove, true)
  else (served, false)

/-- The result of a call on the session: a negative one removes it. -/
def afterCall
    (served : ServedSession)
    (call : IocpSession × List EngineEvent × Int) : ServedSession :=
  let served := { served with
    session := call.1
    recvs := served.recvs + postedRecvs call.2.1 }
  if call.2.2 < 0 then served.remove else served

/-- `NetEventModleIOCP_HandleData` for a session that has been found. -/
def handleFound (served : ServedSession) : IocpCompletion → ServedSession
  | .failed _ dwErrno isSocketAlive =>
      (served.handleAcceptError dwErrno isSocketAlive).1
  | .closed _ => served.delSession.1.destroy
  | .received turn => served.afterCall (served.session.complete turn)
  | .sent nSquence dwBytesTransfered posted =>
      served.afterCall
        (served.session.ioSendNext nSquence dwBytesTransfered posted)

/-- The kernel hands over a completion. -/
def dequeue
    (served : ServedSession)
    (opType : IocpOp) : Option ServedSession :=
  match opType with
  | .ioSend => some served
  | .ioRecv =>
      if served.recvs = 0 then none
      else some { served with recvs := served.recvs - 1 }

/-- One iteration of `NetEventModleIOCP_HandleData`: a completion of a session
that is not found is dropped. -/
def handleData
    (served : ServedSession)
    (completion : IocpCompletion) : Option ServedSession :=
  (served.dequeue completion.opType).map fun served =>
    if served.registered then served.handleFound completion else served

/-- A step of a session. The application reaches it only while it is
registered. -/
def step (served : ServedSession) : IocpInput → Option ServedSession
  | .completed completion => served.handleData completion
  | .sendData szData nDataLen posted =>
      if served.registered then
        some { served with
          session := (served.session.ioSend szData nDataLen posted).1 }
      else none

/-- A session the accept loop has registered and posted the first receive
for. -/
def accepted
    (garbage : SessionGarbage)
    (now : Int)
    (arguments : IocpArguments) : ServedSession where
  session := ((IocpSession.accepted garbage now arguments).postRecv true).1
  registered := true
  recvs := postedRecvs
    ((IocpSession.accepted garbage now arguments).postRecv true).2.1
  finalised := false
  deleted := false

/-- Exactly one receive is outstanding on a live session, or the session has been
removed, finalised and deleted. -/
inductive OneReceive (served : ServedSession) : Prop
  | live
      (registered : served.registered = true)
      (remains : served.finalised = false ∧ served.deleted = false)
      (one : served.recvs = 1)
  | gone
      (removed : served.registered = false)
      (destroyed : served.finalised = true ∧ served.deleted = true)

end ServedSession

/-- A failed receive whose error code makes the worker remove the session. -/
def IocpCompletion.Cleans : IocpCompletion → Prop
  | .failed .ioRecv dwErrno isSocketAlive =>
      dwErrno = errorNetnameDeleted ∨
        dwErrno = waitTimeout ∧ isSocketAlive = false
  | _ => True

/-- The condition on a step of a session. -/
def IocpInput.Cleans : IocpInput → Prop
  | .completed completion => completion.Cleans
  | .sendData _ _ _ => True

/-! ## What the calls of a session do -/

/-- Without a posted receive none is posted with success. -/
theorem postedRecvs_of_silent
    {events : List EngineEvent}
    (silent : wsaRecvLens events = []) :
    postedRecvs events = 0 := by
  rw [postedRecvs, List.countP_eq_zero]
  intro event member
  have none := List.filterMap_eq_nil_iff.mp silent event member
  cases event with
  | wsaRecv socket len posted => simp [EngineEvent.wsaRecvLen] at none
  | _ => simp

theorem postedRecvs_append (first second : List EngineEvent) :
    postedRecvs (first ++ second) = postedRecvs first + postedRecvs second :=
  List.countP_append

namespace IocpSession

/-- Looking at received bytes does not close a session. -/
theorem bIsToBeClose_ioRecvData
    {session next : IocpSession}
    {szRecvBuf : List UInt8}
    {now : Int}
    {echoPosted : Bool}
    (handled : (session.ioRecvData szRecvBuf now echoPosted).1 = some next) :
    next.bIsToBeClose = session.bIsToBeClose := by
  unfold ioRecvData at handled
  split at handled
  · split at handled
    · unfold ioRecvBody at handled
      simp only at handled
      split at handled
      · exact (Option.some.inj handled) ▸ rfl
      · split at handled
        · exact (Option.some.inj handled) ▸ rfl
        · contradiction
    · unfold ioRecvHead at handled
      simp only at handled
      split at handled
      · contradiction
      · split at handled
        · exact (Option.some.inj handled) ▸ rfl
        · split at handled
          · rw [← Option.some.inj handled]
            exact (ioSend_frame _ _ _ _).2.1
          · exact (Option.some.inj handled) ▸ rfl
  · exact (Option.some.inj handled) ▸ rfl

/-- A completed receive is followed by exactly one posted receive, unless the
call fails. -/
theorem complete_posts
    {session : IocpSession}
    (remains : session.bIsToBeClose = false)
    (turn : IocpTurn) :
    (session.complete turn).1.bIsToBeClose = false ∧
      ((session.complete turn).2.2 < 0 ∨
        postedRecvs (session.complete turn).2.1 = 1) := by
  have silent := wsaRecvLens_ioRecvData (session.received turn.bytes) turn.bytes
    turn.now turn.echoPosted
  have negative : (-1 : Int) < 0 := by decide
  rw [complete_eq]
  cases handled : ((session.received turn.bytes).ioRecvData turn.bytes turn.now
      turn.echoPosted).1 with
  | none =>
      simp only [ioRecvPost, handled]
      exact ⟨remains, Or.inl negative⟩
  | some next =>
      have keeps : next.clearBuffer.bIsToBeClose = false :=
        (bIsToBeClose_ioRecvData handled).trans remains
      simp only [ioRecvPost, handled]
      rw [post_remains keeps]
      refine ⟨keeps, ?_⟩
      cases posted : turn.recvPosted with
      | false => exact Or.inl negative
      | true =>
          right
          simp only
          rw [postedRecvs_append, postedRecvs_append,
            postedRecvs_of_silent silent,
            postedRecvs_of_silent (wsaRecvLens_nextWsaBufLen _)]
          rfl

/-- Sending posts no receive and does not close the session. -/
theorem ioSendNext_frame
    (session : IocpSession)
    (nSquence : Int)
    (dwSendLen : Nat)
    (posted : Bool) :
    let sent := session.ioSendNext nSquence dwSendLen posted
    postedRecvs sent.2.1 = 0 ∧
      sent.1.bIsToBeClose = session.bIsToBeClose := by
  simp only [ioSendNext]
  split
  · exact ⟨rfl, rfl⟩
  · split
    · exact ⟨rfl, rfl⟩
    · split
      · exact ⟨rfl, rfl⟩
      · split
        · exact ⟨rfl, rfl⟩
        · exact ⟨rfl, rfl⟩

end IocpSession

/-! ## One step -/

namespace ServedSession

variable {served : ServedSession}

/-- Removing a registered session destroys it. -/
theorem remove_registered (registered : served.registered = true) :
    served.remove = { served with
      registered := false
      finalised := true
      deleted := true } := by
  simp [remove, delSession, registered, destroy]

/-- A registered session is gone when a worker has removed it. -/
theorem oneReceive_remove (registered : served.registered = true) :
    served.remove.OneReceive := by
  rw [remove_registered registered]
  exact .gone rfl ⟨rfl, rfl⟩

/-- A call that fails removes the session; any other must leave one receive
outstanding. -/
theorem oneReceive_afterCall
    {call : IocpSession × List EngineEvent × Int}
    (registered : served.registered = true)
    (remains : served.finalised = false ∧ served.deleted = false)
    (posts : call.2.2 < 0 ∨ served.recvs + postedRecvs call.2.1 = 1) :
    (served.afterCall call).OneReceive := by
  simp only [afterCall]
  split
  · exact oneReceive_remove registered
  · rename_i nonnegative
    rcases posts with negative | one
    · exact absurd negative nonnegative
    · exact .live registered remains one

/-- The session object after a call. -/
theorem session_afterCall (call : IocpSession × List EngineEvent × Int) :
    (served.afterCall call).session = call.1 := by
  simp only [afterCall, remove, delSession, destroy]
  split
  · split
    · rfl
    · split <;> rfl
  · rfl

/-- A failed completion leaves the session object alone. -/
theorem session_handleAcceptError (dwErrno : Nat) (isSocketAlive : Bool) :
    (served.handleAcceptError dwErrno isSocketAlive).1.session =
      served.session := by
  have removed : served.remove.session = served.session := by
    simp only [remove, delSession, destroy]
    split <;> split <;> rfl
  simp only [handleAcceptError]
  split
  · split
    · rfl
    · exact removed
  · split
    · exact removed
    · rfl

/-- The two error codes on which the session is removed. -/
theorem handleAcceptError_cases (dwErrno : Nat) (isSocketAlive : Bool) :
    (dwErrno = errorNetnameDeleted ∨
        dwErrno = waitTimeout ∧ isSocketAlive = false) ∧
        (served.handleAcceptError dwErrno isSocketAlive).1 = served.remove ∨
      ¬(dwErrno = errorNetnameDeleted ∨
          dwErrno = waitTimeout ∧ isSocketAlive = false) ∧
        (served.handleAcceptError dwErrno isSocketAlive).1 = served := by
  by_cases timeout : dwErrno = waitTimeout
  · subst timeout
    cases isSocketAlive with
    | false => exact Or.inl ⟨Or.inr ⟨rfl, rfl⟩, rfl⟩
    | true =>
        refine Or.inr ⟨?_, rfl⟩
        rintro (impossible | ⟨-, impossible⟩)
        · exact absurd impossible (by decide)
        · contradiction
  · by_cases deleted : dwErrno = errorNetnameDeleted
    · refine Or.inl ⟨Or.inl deleted, ?_⟩
      rw [handleAcceptError, if_neg timeout, if_pos deleted]
    · refine Or.inr ⟨?_, ?_⟩
      · rintro (isDeleted | ⟨isTimeout, -⟩)
        · exact deleted isDeleted
        · exact timeout isTimeout
      · rw [handleAcceptError, if_neg timeout, if_neg deleted]

/-- What the kernel hands over leaves the session object alone. -/
theorem dequeue_cases
    {next : ServedSession}
    {opType : IocpOp}
    (dequeued : served.dequeue opType = some next) :
    next.session = served.session ∧ next.registered = served.registered ∧
      next.finalised = served.finalised ∧ next.deleted = served.deleted ∧
        (opType = .ioSend ∧ next.recvs = served.recvs ∨
          opType = .ioRecv ∧ 0 < served.recvs ∧
            next.recvs = served.recvs - 1) := by
  cases opType with
  | ioSend =>
      rw [← Option.some.inj dequeued]
      exact ⟨rfl, rfl, rfl, rfl, Or.inl ⟨rfl, rfl⟩⟩
  | ioRecv =>
      simp only [dequeue] at dequeued
      split at dequeued
      · contradiction
      · rename_i outstanding
        rw [← Option.some.inj dequeued]
        exact ⟨rfl, rfl, rfl, rfl,
          Or.inr ⟨rfl, Nat.pos_of_ne_zero outstanding, rfl⟩⟩

/-- A completion of a live session is handled as it should be exactly when it is
no failed receive that is ignored. -/
theorem oneReceive_handleFound
    {completion : IocpCompletion}
    (registered : served.registered = true)
    (live : served.finalised = false ∧ served.deleted = false)
    (remains : served.session.bIsToBeClose = false)
    (recvs : completion.opType = .ioSend ∧ served.recvs = 1 ∨
      completion.opType = .ioRecv ∧ served.recvs = 0) :
    ((served.handleFound completion).OneReceive ↔ completion.Cleans) ∧
      (served.handleFound completion).session.bIsToBeClose = false := by
  cases completion with
  | received turn =>
      obtain ⟨keeps, posts⟩ := IocpSession.complete_posts remains turn
      have none : served.recvs = 0 := by
        rcases recvs with ⟨impossible, -⟩ | ⟨-, none⟩
        · contradiction
        · exact none
      simp only [handleFound, session_afterCall]
      refine ⟨iff_of_true ?_ trivial, keeps⟩
      apply oneReceive_afterCall registered live
      rw [none, Nat.zero_add]
      exact posts
  | sent nSquence dwBytesTransfered posted =>
      obtain ⟨silent, keeps⟩ := served.session.ioSendNext_frame nSquence
        dwBytesTransfered posted
      have one : served.recvs = 1 := by
        rcases recvs with ⟨-, one⟩ | ⟨impossible, -⟩
        · exact one
        · contradiction
      simp only [handleFound, session_afterCall]
      refine ⟨iff_of_true ?_ trivial, keeps.trans remains⟩
      refine oneReceive_afterCall registered live (Or.inr ?_)
      rw [one, silent]
  | closed opType =>
      simp only [handleFound, delSession, registered, if_true]
      exact ⟨iff_of_true (.gone rfl ⟨rfl, rfl⟩) trivial, remains⟩
  | failed opType dwErrno isSocketAlive =>
      simp only [handleFound, session_handleAcceptError]
      refine ⟨?_, remains⟩
      rcases served.handleAcceptError_cases dwErrno isSocketAlive with
        ⟨cleans, removed⟩ | ⟨ignores, kept⟩
      · rw [removed]
        apply iff_of_true (oneReceive_remove registered)
        cases opType with
        | ioSend => trivial
        | ioRecv => exact cleans
      · rw [kept]
        rcases recvs with ⟨isSend, one⟩ | ⟨isRecv, none⟩
        · simp only [IocpCompletion.opType] at isSend
          subst isSend
          exact iff_of_true (.live registered live one) trivial
        · simp only [IocpCompletion.opType] at isRecv
          subst isRecv
          refine iff_of_false ?_ ignores
          rintro (⟨-, -, one⟩ | ⟨removed, -⟩)
          · rw [none] at one
            contradiction
          · rw [registered] at removed
            contradiction

/-- A step keeps one receive outstanding exactly when it is no failed receive
that is ignored while the session is registered. -/
theorem oneReceive_step
    {next : ServedSession}
    {input : IocpInput}
    (one : served.OneReceive)
    (remains : served.session.bIsToBeClose = false)
    (stepped : served.step input = some next) :
    (next.OneReceive ↔ (served.registered = true → input.Cleans)) ∧
      next.session.bIsToBeClose = false := by
  cases input with
  | sendData szData nDataLen posted =>
      simp only [step] at stepped
      split at stepped
      · rename_i registered
        rw [← Option.some.inj stepped]
        have keeps :=
          (served.session.ioSend_frame szData nDataLen posted).2.1
        refine ⟨iff_of_true ?_ fun _ => trivial, keeps.trans remains⟩
        rcases one with ⟨-, live, one⟩ | ⟨removed, -⟩
        · exact .live registered live one
        · rw [registered] at removed
          contradiction
      · contradiction
  | completed completion =>
      simp only [step, handleData, Option.map_eq_some_iff] at stepped
      obtain ⟨dequeued, isDequeued, rfl⟩ := stepped
      obtain ⟨session, registered, finalised, deleted, recvs⟩ :=
        dequeue_cases isDequeued
      rcases one with ⟨isRegistered, live, one⟩ | ⟨removed, destroyed⟩
      · rw [isRegistered] at registered
        simp only [registered, if_true, isRegistered, forall_const]
        refine oneReceive_handleFound registered ⟨?_, ?_⟩ ?_ ?_
        · exact finalised.trans live.1
        · exact deleted.trans live.2
        · rw [session]
          exact remains
        · rcases recvs with ⟨isSend, same⟩ | ⟨isRecv, -, fewer⟩
          · exact Or.inl ⟨isSend, same.trans one⟩
          · exact Or.inr ⟨isRecv, by rw [fewer, one]⟩
      · rw [removed] at registered
        simp only [registered, removed, Bool.false_eq_true, if_false,
          false_implies]
        refine ⟨iff_of_true (.gone registered ⟨?_, ?_⟩) trivial, ?_⟩
        · exact finalised.trans destroyed.1
        · exact deleted.trans destroyed.2
        · rw [session]
          exact remains

/-! ## Whole runs -/

/-- A step leaves one receive outstanding, or the session destroyed. -/
def Settles (served : ServedSession) (input : IocpInput) : Prop :=
  ∀ next, served.step input = some next → next.OneReceive

/-- A step ignores no failed receive of a registered session. -/
def CleansUp (served : ServedSession) (input : IocpInput) : Prop :=
  ∀ next, served.step input = some next →
    served.registered = true → input.Cleans

/-- From a state with one receive outstanding. -/
theorem settles_throughout_iff
    (one : served.OneReceive)
    (remains : served.session.bIsToBeClose = false)
    (inputs : List IocpInput) :
    Throughout step Settles served inputs ↔
      Throughout step CleansUp served inputs := by
  have exact : ∀ (served : ServedSession) (input : IocpInput) next,
      served.session.bIsToBeClose = false → served.OneReceive →
        served.step input = some next →
          (next.OneReceive ↔ (served.registered = true → input.Cleans)) :=
    fun _ _ _ remains one stepped => (oneReceive_step one remains stepped).1
  have preserved : ∀ (served : ServedSession) (input : IocpInput) next,
      served.session.bIsToBeClose = false → served.OneReceive →
        served.step input = some next → next.OneReceive →
          next.session.bIsToBeClose = false :=
    fun _ _ _ remains one stepped _ => (oneReceive_step one remains stepped).2
  exact leads_throughout_iff exact preserved remains one inputs

/-- After every completion of an accepted session exactly one receive is
outstanding, or the session is destroyed, exactly when no failed receive of the
registered session is ignored. -/
theorem settles_iff_cleansUp
    (garbage : SessionGarbage)
    (now : Int)
    (arguments : IocpArguments)
    (inputs : List IocpInput) :
    Throughout step Settles (accepted garbage now arguments) inputs ↔
      Throughout step CleansUp (accepted garbage now arguments) inputs := by
  have posted := (IocpSession.accepted garbage now arguments).post_eq rfl
  have one : (accepted garbage now arguments).recvs = 1 := by
    simp only [accepted, IocpSession.postRecv]
    rw [posted]
    simp only
    rw [postedRecvs_append,
      postedRecvs_of_silent (IocpSession.wsaRecvLens_nextWsaBufLen _)]
    rfl
  have remains : (accepted garbage now arguments).session.bIsToBeClose =
      false := by
    simp only [accepted, IocpSession.postRecv]
    rw [posted]
    rfl
  exact settles_throughout_iff (.live rfl ⟨rfl, rfl⟩ one) remains inputs

/-! ### An aborted receive -/

/-- `ERROR_OPERATION_ABORTED`. -/
def errorOperationAborted : Nat := 995

/-- A receive that fails with any other error leaves the session without one. -/
theorem not_settles_aborted :
    ¬∀ (garbage : SessionGarbage) (now : Int) (arguments : IocpArguments)
        (inputs : List IocpInput),
      Throughout step Settles (accepted garbage now arguments) inputs := by
  intro always
  have settles := (always ⟨false, false, 0, 0⟩ 0 ⟨7, 0, true, true⟩
    [.completed (.failed .ioRecv errorOperationAborted true)]).1
  rcases settles _ rfl with ⟨-, -, one⟩ | ⟨removed, -⟩
  · exact absurd one (by decide)
  · exact absurd removed (by decide)

end ServedSession

end TransPortEngine
