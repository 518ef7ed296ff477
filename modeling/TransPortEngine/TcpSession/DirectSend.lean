import TransPortEngine.Library.Transition
import TransPortEngine.TcpSession.Effects

/-!
# Direct sends

The write loop of `TcpSession_IOSend(const char*, const int)` takes no lock, so
the loops of several threads take turns, and other functions of the session run
in between. Each call puts a prefix of its buffer on the socket, and none
reaches the code behind the loop: the send queue stays empty, and no
registration asks for `EPOLLOUT`.
-/

namespace TransPortEngine

open Transition

/-- A registration that asks for `EPOLLOUT`. -/
def EngineEvent.RequestsEpollOut : EngineEvent → Prop
  | .epollCtl _ _ event _ => event.events.epollOut = true
  | _ => False

/-- What a call that has returned has put on the socket: a prefix of its buffer,
all of it for 0, and less for an error. -/
structure SentPrefix (szData bytes : List UInt8) (nRet : Int) : Prop where
  inOrder : bytes <+: szData
  result : nRet = 0 ∨ nRet = -2
  whole : nRet = 0 → bytes = szData
  cut : nRet < 0 → bytes.length < szData.length

/-- A function of a session that is run from its start to its end. The receive
loop is run pass by pass; a function not listed here changes at most the members
that both platforms share. -/
inductive SessionCall
  | init (arguments : SessionArguments)
  | fini
  | delete
  | addEvent (done : Bool)
  | modEvent (done : Bool)
  | delEvent (done : Bool)
  | postRecv (done : Bool)
  | ioRecvPass (turn : RecvTurn)
  | ioSendQueued (result : WriteResult) (epollCtl : Bool)
  | other (core : SessionCore)

namespace SessionCall

/-- The session after the call, and what the call has done. -/
def effect (session : TcpSession) : SessionCall → TcpSession × List EngineEvent
  | .init arguments =>
      ((session.init arguments).1, (session.init arguments).2.1)
  | .fini => (session.fini.1, session.fini.2.1)
  | .delete => session.delete
  | .addEvent done => (session, (session.addEvent done).1)
  | .modEvent done => (session, (session.modEvent done).1)
  | .delEvent done => (session, (session.delEvent done).1)
  | .postRecv done => (session, (session.postRecv done).1)
  | .ioRecvPass turn =>
      ((session.ioRecvPass turn).session, (session.ioRecvPass turn).events)
  | .ioSendQueued result epollCtl =>
      ((session.ioSendQueued result epollCtl).1,
        (session.ioSendQueued result epollCtl).2.1)
  | .other core => (session.setCore core, [])

end SessionCall

/-- The local variables of a `TcpSession_IOSend` in its write loop, and the
bytes its `write` calls have put on the socket. -/
structure SendInLoop where
  szData : List UInt8
  nWriteLen : Nat
  bytes : List UInt8

/-- A `TcpSession_IOSend` that has returned. -/
structure ReturnedCall where
  szData : List UInt8
  bytes : List UInt8
  nRet : Int

/-- A session in use: the write loops of its threads, the sends that have
returned, and everything that has been done. -/
structure SessionRun where
  session : TcpSession
  loops : Nat → Option SendInLoop
  returned : List ReturnedCall
  events : List EngineEvent

namespace SessionRun

/-- A session that has just been constructed. -/
def initial
    (garbage : SessionGarbage)
    (address : Nat)
    (now : Int) : SessionRun :=
  ⟨.construct garbage address now, fun _ => none, [], []⟩

/-- The write loop of a thread goes on. -/
def setLoop
    (state : SessionRun)
    (thread : Nat)
    (send : SendInLoop)
    (events : List EngineEvent) : SessionRun :=
  { state with
    loops := Function.update state.loops thread (some send)
    events := state.events ++ events }

/-- The send of a thread returns. -/
def finish
    (state : SessionRun)
    (thread : Nat)
    (session : TcpSession)
    (call : ReturnedCall)
    (events : List EngineEvent) : SessionRun where
  session := session
  loops := Function.update state.loops thread none
  returned := state.returned ++ [call]
  events := state.events ++ events

@[simp] theorem loops_setLoop
    (state : SessionRun)
    (thread : Nat)
    (send : SendInLoop)
    (events : List EngineEvent) :
    (state.setLoop thread send events).loops =
      Function.update state.loops thread (some send) := rfl

@[simp] theorem session_setLoop
    (state : SessionRun)
    (thread : Nat)
    (send : SendInLoop)
    (events : List EngineEvent) :
    (state.setLoop thread send events).session = state.session := rfl

@[simp] theorem loops_finish
    (state : SessionRun)
    (thread : Nat)
    (session : TcpSession)
    (call : ReturnedCall)
    (events : List EngineEvent) :
    (state.finish thread session call events).loops =
      Function.update state.loops thread none := rfl

end SessionRun

/-- What happens next on a session. A send of no data returns at once and is no
step. -/
inductive SessionLabel
  | call (call : SessionCall)
  | begin (thread : Nat) (szData : List UInt8)
  | write (thread : Nat) (result : WriteResult)
  | leave (thread : Nat) (epollCtl : Bool)

/-- One step on a session. A call of `TcpSession_IOSend` that returns is a run of
these steps (`run_of_ioSend`). -/
def sessionStep (state : SessionRun) : SessionLabel → Option SessionRun
  | .call call =>
      let effect := call.effect state.session
      some { state with
        session := effect.1
        events := state.events ++ effect.2 }
  | .begin thread szData =>
      match state.loops thread with
      | some _ => none
      | none =>
          if szData = [] then none
          else some (state.setLoop thread ⟨szData, 0, []⟩ [])
  | .write thread result =>
      match state.loops thread with
      | none => none
      | some send =>
          if send.nWriteLen < send.szData.length then
            match ioSendStep send.szData.length send.nWriteLen result with
            | none =>
                some (state.finish thread state.session
                  ⟨send.szData, send.bytes, -2⟩
                  [.write state.session.nSocket []])
            | some nWriteLen =>
                let bytes := (send.szData.drop send.nWriteLen).take
                  (nWriteLen - send.nWriteLen)
                some (state.setLoop thread
                  ⟨send.szData, nWriteLen, send.bytes ++ bytes⟩
                  [.write state.session.nSocket bytes])
          else none
  | .leave thread epollCtl =>
      match state.loops thread with
      | none => none
      | some send =>
          if send.nWriteLen < send.szData.length then none
          else
            let rest := state.session.ioSendRest send.szData send.nWriteLen
              epollCtl
            some (state.finish thread rest.1
              ⟨send.szData, send.bytes, rest.2.2⟩ rest.2.1)

/-! ## Nothing is deferred -/

namespace TcpSession

/-- With nothing to send, only `EPOLLIN` is asked for. -/
theorem epollOut_eventAdd
    {session : TcpSession}
    (empty : session.sendBufs = []) :
    session.eventAdd.events.epollOut = false := by
  simp [eventAdd, isSendData, empty, EpollEvent.zero, EpollEvent.setFd,
    EpollEvent.setPtr]

/-- What a session with nothing to send does to its own registration asks for
no `EPOLLOUT`. -/
theorem OwnEvent.not_requestsEpollOut
    {session : TcpSession}
    {event : EngineEvent}
    (empty : session.sendBufs = [])
    (own : session.OwnEvent event) :
    ¬event.RequestsEpollOut := by
  intro requests
  rcases own with plain | ⟨op, done, -, armed⟩
  · cases event with
    | epollCtl op nSocket added done => exact plain
    | _ => exact requests
  · rw [armed, EngineEvent.RequestsEpollOut, epollOut_eventAdd empty] at requests
    contradiction

end TcpSession

/-- Events none of which asks for `EPOLLOUT`. -/
def NoEpollOut (events : List EngineEvent) : Prop :=
  ∀ event ∈ events, ¬event.RequestsEpollOut

theorem NoEpollOut.append
    {first second : List EngineEvent}
    (before : NoEpollOut first)
    (after : NoEpollOut second) :
    NoEpollOut (first ++ second) := by
  intro event member
  rcases List.mem_append.mp member with inFirst | inSecond
  · exact before event inFirst
  · exact after event inSecond

/-- A function that is called with an empty send queue leaves it empty. -/
theorem SessionCall.effect_empty
    {session : TcpSession}
    (empty : session.sendBufs = [])
    (call : SessionCall) :
    (call.effect session).1.sendBufs = [] ∧
      NoEpollOut (call.effect session).2 := by
  have locks : NoEpollOut [.lock .recvBufLock, .unlock .recvBufLock] := by
    simp [NoEpollOut, EngineEvent.RequestsEpollOut]
  have closes : NoEpollOut session.closeSocket := by
    unfold TcpSession.closeSocket
    split <;> simp [NoEpollOut, EngineEvent.RequestsEpollOut]
  have notifies : ∀ (object : TcpSession) (nMsgType : MsgType),
      NoEpollOut (object.notify nMsgType) := by
    intro object nMsgType
    unfold TcpSession.notify
    split <;> simp [NoEpollOut, EngineEvent.RequestsEpollOut]
  have arms : ∀ done, NoEpollOut (session.modEvent done).1 :=
    fun done event member =>
      (TcpSession.ownEvent_modEvent member).not_requestsEpollOut empty
  cases call with
  | init arguments =>
      simp only [effect, TcpSession.init]
      split
      · exact ⟨empty, by simp [NoEpollOut]⟩
      · exact ⟨empty, notifies _ _⟩
  | fini => exact ⟨empty, ((notifies _ _).append closes).append locks⟩
  | delete =>
      refine ⟨empty, closes.append ?_⟩
      simp [NoEpollOut, EngineEvent.RequestsEpollOut]
  | addEvent done =>
      exact ⟨empty, fun event member =>
        (TcpSession.ownEvent_addEvent member).not_requestsEpollOut empty⟩
  | modEvent done => exact ⟨empty, arms done⟩
  | delEvent done =>
      refine ⟨empty, ?_⟩
      simp [effect, TcpSession.delEvent, NoEpollOut,
        EngineEvent.RequestsEpollOut, EpollEvent.zero]
  | postRecv done => exact ⟨empty, arms done⟩
  | ioRecvPass turn =>
      obtain ⟨same, own⟩ := session.ioRecvPass_effects turn
      exact ⟨same.sendBufs.trans empty, fun event member =>
        (own event member).not_requestsEpollOut empty⟩
  | ioSendQueued result epollCtl =>
      simp only [effect, TcpSession.ioSendQueued_of_empty empty]
      refine ⟨empty, ?_⟩
      simp [NoEpollOut, EngineEvent.RequestsEpollOut]
  | other core => exact ⟨empty, by simp [effect, NoEpollOut]⟩

/-- Behind the loop nothing is left of the buffer. -/
theorem TcpSession.ioSendRest_of_le
    {session : TcpSession}
    {szData : List UInt8}
    {nWriteLen : Nat}
    (whole : szData.length ≤ nWriteLen)
    (epollCtl : Bool) :
    session.ioSendRest szData nWriteLen epollCtl = (session, [], 0) := by
  rw [ioSendRest, if_neg (by omega)]

/-- Nothing is deferred, nothing asks for `EPOLLOUT`, and every send has put on
the socket what its loop has covered. -/
structure Direct (state : SessionRun) : Prop where
  empty : state.session.sendBufs = []
  quiet : NoEpollOut state.events
  inside : ∀ thread send, state.loops thread = some send →
    send.nWriteLen ≤ send.szData.length
  bytes : ∀ thread send, state.loops thread = some send →
    send.bytes = send.szData.take send.nWriteLen
  returned : ∀ call ∈ state.returned,
    SentPrefix call.szData call.bytes call.nRet

theorem direct_initial
    (garbage : SessionGarbage)
    (address : Nat)
    (now : Int) :
    Direct (.initial garbage address now) where
  empty := rfl
  quiet := by simp [SessionRun.initial, NoEpollOut]
  inside := by simp [SessionRun.initial]
  bytes := by simp [SessionRun.initial]
  returned := by simp [SessionRun.initial]

/-- A write loop goes on with the bytes it has covered. -/
theorem Direct.setLoop
    {state : SessionRun}
    (direct : Direct state)
    {send : SendInLoop}
    {events : List EngineEvent}
    (thread : Nat)
    (quiet : NoEpollOut events)
    (inside : send.nWriteLen ≤ send.szData.length)
    (bytes : send.bytes = send.szData.take send.nWriteLen) :
    Direct (state.setLoop thread send events) := by
  have loops : ∀ other found,
      (state.setLoop thread send events).loops other = some found →
        found = send ∨ state.loops other = some found := by
    intro other found running
    by_cases same : other = thread
    · rw [same, SessionRun.loops_setLoop, Function.update_self,
        Option.some.injEq] at running
      exact Or.inl running.symm
    · rw [SessionRun.loops_setLoop, Function.update_of_ne same] at running
      exact Or.inr running
  refine ⟨direct.empty, direct.quiet.append quiet, ?_, ?_, direct.returned⟩
  · intro other found running
    rcases loops other found running with isSend | before
    · exact isSend ▸ inside
    · exact direct.inside other found before
  · intro other found running
    rcases loops other found running with isSend | before
    · exact isSend ▸ bytes
    · exact direct.bytes other found before

/-- A send returns and leaves the session as it is. -/
theorem Direct.finish
    {state : SessionRun}
    (direct : Direct state)
    {call : ReturnedCall}
    {events : List EngineEvent}
    (thread : Nat)
    (quiet : NoEpollOut events)
    (sent : SentPrefix call.szData call.bytes call.nRet) :
    Direct (state.finish thread state.session call events) := by
  have loops : ∀ other found,
      (state.finish thread state.session call events).loops other =
        some found → state.loops other = some found := by
    intro other found running
    by_cases same : other = thread
    · simp [same] at running
    · rwa [SessionRun.loops_finish, Function.update_of_ne same] at running
  refine ⟨direct.empty, direct.quiet.append quiet, ?_, ?_, ?_⟩
  · exact fun other found running =>
      direct.inside other found (loops other found running)
  · exact fun other found running =>
      direct.bytes other found (loops other found running)
  · intro other member
    rcases List.mem_append.mp member with before | last
    · exact direct.returned other before
    · rw [List.mem_singleton.mp last]
      exact sent

/-- The bytes of a buffer that two pieces next to each other cover. -/
theorem take_append_piece
    {szData : List UInt8}
    {nWriteLen nWriteLen' : Nat}
    (forward : nWriteLen ≤ nWriteLen') :
    szData.take nWriteLen ++
        (szData.drop nWriteLen).take (nWriteLen' - nWriteLen) =
      szData.take nWriteLen' := by
  rw [← List.take_add]
  congr 1
  omega

/-- One step of anybody keeps a session sending directly. -/
theorem direct_sessionStep
    {state next : SessionRun}
    {label : SessionLabel}
    (direct : Direct state)
    (stepped : sessionStep state label = some next) :
    Direct next := by
  have writes : ∀ bytes, NoEpollOut [.write state.session.nSocket bytes] := by
    simp [NoEpollOut, EngineEvent.RequestsEpollOut]
  cases label with
  | call call =>
      obtain ⟨empty, quiet⟩ := call.effect_empty direct.empty
      rw [← Option.some.inj stepped]
      exact ⟨empty, direct.quiet.append quiet, direct.inside, direct.bytes,
        direct.returned⟩
  | begin thread szData =>
      simp only [sessionStep] at stepped
      split at stepped
      · contradiction
      · split at stepped
        · contradiction
        · rw [← Option.some.inj stepped]
          exact direct.setLoop thread (by simp [NoEpollOut]) (Nat.zero_le _) rfl
  | write thread result =>
      simp only [sessionStep] at stepped
      split at stepped
      · contradiction
      · rename_i send running
        have covered := direct.bytes thread send running
        split at stepped
        · rename_i short
          split at stepped
          · -- the loop is left before the buffer is covered
            rw [← Option.some.inj stepped]
            refine direct.finish thread (writes _) ⟨?_, Or.inr rfl, ?_, ?_⟩
            · exact covered ▸ List.take_prefix _ _
            · exact fun impossible => by contradiction
            · intro _
              simp only [covered, List.length_take]
              omega
          · rename_i nWriteLen' advanced
            have bounds := ioSendStep_bounds short.le advanced
            rw [← Option.some.inj stepped]
            apply direct.setLoop thread (writes _) bounds.2
            rw [covered]
            exact take_append_piece bounds.1
        · contradiction
  | leave thread epollCtl =>
      simp only [sessionStep] at stepped
      split at stepped
      · contradiction
      · rename_i send running
        have covered := direct.bytes thread send running
        split at stepped
        · contradiction
        · rename_i whole
          have full : send.bytes = send.szData := by
            rw [covered, List.take_of_length_le (not_lt.mp whole)]
          rw [TcpSession.ioSendRest_of_le (not_lt.mp whole)] at stepped
          rw [← Option.some.inj stepped]
          refine direct.finish thread (by simp [NoEpollOut])
            ⟨?_, Or.inl rfl, fun _ => full, ?_⟩
          · simp only [full, List.prefix_refl]
          · exact fun impossible => by contradiction

/-- However the threads take turns, a session goes on sending directly. -/
theorem direct_run
    {state last : SessionRun}
    {labels : List SessionLabel}
    (direct : Direct state)
    (reached : run sessionStep state labels = some last) :
    Direct last := by
  have anything : Throughout sessionStep (fun _ _ => True) state labels :=
    throughout_of_forall fun _ _ _ => trivial
  exact invariant_of_run
    (fun _ _ _ kept _ stepped => direct_sessionStep kept stepped) direct
    anything reached

/-! ## A send on its own -/

/-- A step of a write loop followed by its end. -/
@[simp] theorem SessionRun.finish_setLoop
    (state : SessionRun)
    (thread : Nat)
    (send : SendInLoop)
    (session : TcpSession)
    (call : ReturnedCall)
    (first second : List EngineEvent) :
    (state.setLoop thread send first).finish thread session call second =
      state.finish thread session call (first ++ second) := by
  simp [finish, setLoop]

/-- A loop that has covered its buffer returns 0. -/
theorem run_leave
    {state : SessionRun}
    {thread : Nat}
    {send : SendInLoop}
    (running : state.loops thread = some send)
    (whole : ¬send.nWriteLen < send.szData.length) :
    run sessionStep state [.leave thread true] =
      some (state.finish thread state.session
        ⟨send.szData, send.bytes, 0⟩ []) := by
  simp [run, sessionStep, running, whole,
    TcpSession.ioSendRest_of_le (not_lt.mp whole)]

/-- A write loop that nobody interrupts makes the writes of the loop of
`TcpSession_IOSend`, and returns what it returns. -/
theorem run_loop
    {state : SessionRun}
    {thread : Nat}
    {send : SendInLoop}
    {nRet : Int}
    (results : List WriteResult)
    (running : state.loops thread = some send)
    (inside : send.nWriteLen ≤ send.szData.length)
    (returns : (ioSendLoop send.szData.length send.nWriteLen results).1.result =
      .returned nRet) :
    ∃ labels, run sessionStep state labels =
      some (state.finish thread state.session
        ⟨send.szData, send.bytes ++ written (ioSendWrites state.session.nSocket
          send.szData send.nWriteLen results), nRet⟩
        (ioSendWrites state.session.nSocket send.szData send.nWriteLen
          results)) := by
  induction results generalizing state send with
  | nil =>
      by_cases short : send.nWriteLen < send.szData.length
      · simp [ioSendLoop, short, SendLoop.result] at returns
      · simp only [ioSendLoop, if_neg short, SendLoop.result,
          CallResult.returned.injEq] at returns
        refine ⟨[.leave thread true], ?_⟩
        simpa [ioSendWrites, written, ← returns] using run_leave running short
  | cons result results inductionHypothesis =>
      rw [ioSendLoop] at returns
      rw [ioSendWrites]
      by_cases short : send.nWriteLen < send.szData.length
      · rw [if_pos short] at returns ⊢
        cases advanced : ioSendStep send.szData.length send.nWriteLen result with
        | none =>
            simp only [advanced, SendLoop.result, CallResult.returned.injEq]
              at returns
            refine ⟨[.write thread result], ?_⟩
            simp [run, sessionStep, running, short, advanced, ← returns,
              written, EngineEvent.output]
        | some nWriteLen' =>
            have bounds := ioSendStep_bounds inside advanced
            simp only [advanced] at returns
            let bytes := (send.szData.drop send.nWriteLen).take
              (nWriteLen' - send.nWriteLen)
            let next := state.setLoop thread
              ⟨send.szData, nWriteLen', send.bytes ++ bytes⟩
              [.write state.session.nSocket bytes]
            have stepped : sessionStep state (.write thread result) =
                some next := by
              simp [sessionStep, running, short, advanced, next, bytes]
            have runningNext : next.loops thread =
                some ⟨send.szData, nWriteLen', send.bytes ++ bytes⟩ := by
              simp [next]
            obtain ⟨labels, reached⟩ :=
              inductionHypothesis runningNext bounds.2 returns
            refine ⟨.write thread result :: labels, ?_⟩
            rw [run_cons_some stepped, reached]
            simp [next, bytes, written, EngineEvent.output]
      · rw [if_neg short] at returns ⊢
        simp only [SendLoop.result, CallResult.returned.injEq] at returns
        refine ⟨[.leave thread true], ?_⟩
        simpa [written, ← returns] using run_leave running short

/-- A call of `TcpSession_IOSend` that returns is a run of its own thread: it
begins, makes its writes and returns, with the session as the call leaves it. -/
theorem run_of_ioSend
    {state : SessionRun}
    {thread : Nat}
    {szData : List UInt8}
    {outcomes : SendOutcomes}
    {nRet : Int}
    (idle : state.loops thread = none)
    (nonempty : szData ≠ [])
    (returns : (state.session.ioSend (some szData) szData.length
      outcomes).result = .returned nRet) :
    ∃ labels, run sessionStep state labels =
      some (state.finish thread
        (state.session.ioSend (some szData) szData.length outcomes).session
        ⟨szData, written (state.session.ioSend (some szData) szData.length
          outcomes).events, nRet⟩
        (state.session.ioSend (some szData) szData.length outcomes).events) := by
  have positive : (0 : Int) < szData.length :=
    Int.natCast_pos.mpr (List.length_pos_iff.mpr nonempty)
  rw [state.session.ioSend_eq outcomes positive rfl] at returns ⊢
  let next := state.setLoop thread ⟨szData, 0, []⟩ []
  have stepped : sessionStep state (.begin thread szData) = some next := by
    simp [sessionStep, idle, nonempty, next]
  have running : next.loops thread = some ⟨szData, 0, []⟩ := by
    simp [next]
  obtain ⟨labels, reached⟩ :=
    run_loop outcomes.writes running (Nat.zero_le _) returns
  refine ⟨.begin thread szData :: labels, ?_⟩
  rw [run_cons_some stepped, reached]
  simp [next]

/-- A call of `TcpSession_IOSend` that returns has put a prefix of its buffer on
the socket and leaves the session as it was, whatever the session holds. -/
theorem TcpSession.sentPrefix_ioSend
    (session : TcpSession)
    {szData : List UInt8}
    {outcomes : SendOutcomes}
    {nRet : Int}
    (nonempty : szData ≠ [])
    (returns : (session.ioSend (some szData) szData.length outcomes).result =
      .returned nRet) :
    SentPrefix szData
      (written (session.ioSend (some szData) szData.length outcomes).events)
      nRet := by
  have positive : (0 : Int) < szData.length :=
    Int.natCast_pos.mpr (List.length_pos_iff.mpr nonempty)
  have sent := session.written_ioSend outcomes positive rfl
  rw [session.ioSend_eq outcomes positive rfl] at returns
  rw [sent]
  cases ending : (ioSendLoop szData.length 0 outcomes.writes).1 with
  | pending => simp [ending, SendLoop.result] at returns
  | exited =>
      simp only [ending, SendLoop.result, CallResult.returned.injEq] at returns
      have whole := List.take_of_length_le (ioSendLoop_exited ending)
      refine ⟨List.take_prefix _ _, Or.inl returns.symm, fun _ => whole, ?_⟩
      omega
  | failed =>
      simp only [ending, SendLoop.result, CallResult.returned.injEq] at returns
      refine ⟨List.take_prefix _ _, Or.inr returns.symm, by omega, ?_⟩
      intro _
      rw [List.length_take]
      have short := ioSendLoop_failed ending
      omega

/-- A `TcpSession_IOSend` that returns has put a prefix of its buffer on the
socket, and leaves the session with what it had deferred before. In every run of
a session, however its threads take turns, this is so of every send; nothing is
ever deferred, and no registration asks for `EPOLLOUT`. -/
theorem sends_directly :
    (∀ (session : TcpSession) (szData : List UInt8) (outcomes : SendOutcomes)
        (nRet : Int),
      szData ≠ [] →
      (session.ioSend (some szData) szData.length outcomes).result =
        .returned nRet →
      (session.ioSend (some szData) szData.length outcomes).session = session ∧
        SentPrefix szData
          (written
            (session.ioSend (some szData) szData.length outcomes).events)
          nRet) ∧
      ∀ (garbage : SessionGarbage) (address : Nat) (now : Int)
        (labels : List SessionLabel) (last : SessionRun),
      run sessionStep (.initial garbage address now) labels = some last →
      last.session.sendBufs = [] ∧ NoEpollOut last.events ∧
        ∀ call ∈ last.returned, SentPrefix call.szData call.bytes call.nRet := by
  constructor
  · intro session szData outcomes nRet nonempty returns
    exact ⟨(session.ioSend_writes _ _ _).1,
      session.sentPrefix_ioSend nonempty returns⟩
  · intro garbage address now labels last reached
    have direct := direct_run (direct_initial garbage address now) reached
    exact ⟨direct.empty, direct.quiet, direct.returned⟩

/-- Two threads send at once: the first send fails after a byte, the second is
interrupted by `EAGAIN`. -/
def interleavedSends : List SessionLabel :=
  [.begin 0 [1, 2, 3], .begin 1 [4], .write 0 (.accepted 1), .write 1 .again,
    .write 0 .failed, .write 1 (.accepted 1), .leave 1 true]

/-- A send in two pieces, and the two sends at once. -/
theorem sends_directly_interleaved :
    written ((TcpSession.construct ⟨true, true, 0, 0⟩ 8 0).ioSend
        (some [1, 2, 3]) 3
        ⟨[.accepted 2, .again, .accepted 1], true⟩).events = [1, 2, 3] ∧
      (run sessionStep (.initial ⟨true, true, 0, 0⟩ 8 0) interleavedSends).map
          (fun last => last.returned.map ReturnedCall.bytes) =
        some [[1], [4]] ∧
      ∀ last, run sessionStep (.initial ⟨true, true, 0, 0⟩ 8 0) interleavedSends =
          some last →
        last.session.sendBufs = [] ∧ NoEpollOut last.events := by
  refine ⟨?_, by decide, ?_⟩
  · exact (sends_directly.1 _ [1, 2, 3] _ 0 (by decide) rfl).2.whole rfl
  · intro last reached
    have sent := sends_directly.2 _ _ _ _ last reached
    exact ⟨sent.1, sent.2.1⟩

end TransPortEngine
