import TransPortEngine.HeadMsg
import TransPortEngine.TcpSession.Defs

/-!
# Sending on a session

`TcpSession_IOSend(const char*, const int)` retries `write` until everything is
accepted, `TcpSession_SendData` puts a header before the payload in framed
mode, and `TcpSession_IOSend(int)` writes the oldest deferred buffer.
-/

namespace TransPortEngine

open MachineInt

/-- Results of `write`. A count is cut to what was offered. -/
inductive WriteResult
  | accepted (count : Nat)
  | again
  | interrupted
  | failed
  deriving DecidableEq, Repr

/-- How far the loop of `TcpSession_IOSend` got. -/
inductive SendLoop
  | exited
  | failed
  | pending
  deriving DecidableEq, Repr

/-- The results of the system calls made by one send. -/
structure SendOutcomes where
  writes : List WriteResult
  epollCtl : Bool
  deriving DecidableEq, Repr

/-- One iteration of the write loop: the new `nWriteLen`, or none when the loop
is left with an error. -/
def ioSendStep (nDataLen nWriteLen : Nat) : WriteResult → Option Nat
  | .accepted count => some (nWriteLen + min count (nDataLen - nWriteLen))
  | .again => some nWriteLen
  | .interrupted => none
  | .failed => none

/-- The write loop: how it ended, and the last `nWriteLen`. -/
def ioSendLoop (nDataLen : Nat) : Nat → List WriteResult → SendLoop × Nat
  | nWriteLen, [] =>
      (if nWriteLen < nDataLen then .pending else .exited, nWriteLen)
  | nWriteLen, result :: results =>
      if nWriteLen < nDataLen then
        match ioSendStep nDataLen nWriteLen result with
        | none => (.failed, nWriteLen)
        | some nWriteLen => ioSendLoop nDataLen nWriteLen results
      else (.exited, nWriteLen)

/-- The `write` calls of the loop, with the bytes each of them accepted. -/
def ioSendWrites
    (nSocket : Int)
    (szData : List UInt8) : Nat → List WriteResult → List EngineEvent
  | _, [] => []
  | nWriteLen, result :: results =>
      if nWriteLen < szData.length then
        match ioSendStep szData.length nWriteLen result with
        | none => [.write nSocket []]
        | some nWriteLen' =>
            .write nSocket
                ((szData.drop nWriteLen).take (nWriteLen' - nWriteLen)) ::
              ioSendWrites nSocket szData nWriteLen' results
      else []

/-- The loop of a send does nothing but write on the socket. -/
theorem forall_ioSendWrites
    {P : EngineEvent → Prop}
    {nSocket : Int}
    (writes : ∀ bytes, P (.write nSocket bytes))
    (szData : List UInt8)
    (nWriteLen : Nat)
    (results : List WriteResult) :
    ∀ event ∈ ioSendWrites nSocket szData nWriteLen results, P event := by
  induction results generalizing nWriteLen with
  | nil =>
      intro event impossible
      contradiction
  | cons result results inductionHypothesis =>
      intro event member
      rw [ioSendWrites] at member
      split at member
      · split at member
        · rw [List.mem_singleton.mp member]
          exact writes _
        · rcases List.mem_cons.mp member with rfl | later
          · exact writes _
          · exact inductionHypothesis _ event later
      · contradiction

/-- A send in progress or completed. -/
structure SendRun where
  session : TcpSession
  events : List EngineEvent
  result : CallResult

namespace TcpSession

/-- The part of `TcpSession_IOSend` behind the loop, which defers what has not
been written. -/
def ioSendRest
    (session : TcpSession)
    (szData : List UInt8)
    (nWriteLen : Nat)
    (epollCtl : Bool) : TcpSession × List EngineEvent × Int :=
  if nWriteLen < szData.length then
    let session := { session with
      sendBufs := session.sendBufs ++ [some ⟨szData.drop nWriteLen⟩] }
    let armed := session.modEvent epollCtl
    (session, [.lock .sendBufLock] ++ armed.1 ++ [.unlock .sendBufLock],
      if armed.2 < 0 then -2 else 0)
  else (session, [], 0)

/-- `TcpSession_IOSend(const char*, const int)`. -/
def ioSend
    (session : TcpSession)
    (szData : Option (List UInt8))
    (nDataLen : Int)
    (outcomes : SendOutcomes) : SendRun :=
  match szData with
  | none => ⟨session, [], .returned (-1)⟩
  | some szData =>
      if nDataLen ≤ 0 then ⟨session, [], .returned (-1)⟩
      else
        let szData := szData.take nDataLen.toNat
        let writes := ioSendWrites session.nSocket szData 0 outcomes.writes
        match ioSendLoop szData.length 0 outcomes.writes with
        | (.pending, _) => ⟨session, writes, .pending⟩
        | (.failed, _) => ⟨session, writes, .returned (-2)⟩
        | (.exited, nWriteLen) =>
            let rest := session.ioSendRest szData nWriteLen outcomes.epollCtl
            ⟨rest.1, writes ++ rest.2.1, .returned rest.2.2⟩

/-- `TcpSession_SendData`. A negative length becomes a huge `size_t` in the
second copy. -/
def sendData
    (session : TcpSession)
    (szData : List UInt8)
    (nDataLen : Int)
    (outcomes : SendOutcomes) : SendRun :=
  if session.bIsHaveHead then
    if nDataLen < 0 then ⟨session, [], .fault⟩
    else
      session.ioSend (some (frameBuf szData nDataLen))
        (signed32 (nDataLen + sizeofHeadMsg)) outcomes
  else session.ioSend (some szData) nDataLen outcomes

/-- `TcpSession_IOSend(int)`, given the result of its `write` and the success
of its `epoll_ctl`. -/
def ioSendQueued
    (session : TcpSession)
    (result : WriteResult)
    (epollCtl : Bool) : TcpSession × List EngineEvent × Int :=
  match session.sendBufs with
  | [] => (session, [.lock .sendBufLock, .unlock .sendBufLock], 0)
  | none :: sendBufs =>
      ({ session with sendBufs := sendBufs },
        [.lock .sendBufLock, .unlock .sendBufLock], 0)
  | some bufInfo :: sendBufs =>
      let session := { session with sendBufs := sendBufs }
      let armed := session.modEvent epollCtl
      let taken := [.lock .sendBufLock, .unlock .sendBufLock]
      let armedRet := if armed.2 < 0 then -1 else 0
      match result with
      | .accepted count =>
          let written := bufInfo.szBuf.take count
          if written.length = bufInfo.szBuf.length then
            (session, taken ++ [.write session.nSocket written] ++ armed.1,
              armedRet)
          else (session, taken ++ [.write session.nSocket written], -2)
      | .again | .interrupted =>
          (session, taken ++ [.write session.nSocket []] ++ armed.1, armedRet)
      | .failed => (session, taken ++ [.write session.nSocket []], -1)

/-- The events of `TcpSession_IOSend(int)`: it finds nothing to send, it writes, or
it writes and registers the socket again. -/
inductive SendsQueued (session : TcpSession) (epollCtl : Bool) :
    List EngineEvent → Prop
  | nothing :
      SendsQueued session epollCtl [.lock .sendBufLock, .unlock .sendBufLock]
  | writes (bytes : List UInt8) :
      SendsQueued session epollCtl
        ([.lock .sendBufLock, .unlock .sendBufLock] ++
          [.write session.nSocket bytes])
  | registers (bytes : List UInt8) :
      SendsQueued session epollCtl
        ([.lock .sendBufLock, .unlock .sendBufLock] ++
          [.write session.nSocket bytes] ++
            (modEvent { session with sendBufs := session.sendBufs.tail }
              epollCtl).1)

variable (session : TcpSession) (result : WriteResult) (epollCtl : Bool)

/-- `TcpSession_IOSend(int)` takes the first entry out of the queue, and changes
nothing else in the session. -/
theorem session_ioSendQueued :
    (session.ioSendQueued result epollCtl).1 =
      { session with sendBufs := session.sendBufs.tail } := by
  unfold ioSendQueued
  split
  · rename_i empty
    rw [empty, List.tail_nil, ← empty]
  · rename_i queued
    rw [queued, List.tail_cons]
  · rename_i queued
    rw [queued, List.tail_cons]
    dsimp only
    split
    · split
      · rfl
      · rfl
    · rfl
    · rfl
    · rfl

theorem events_ioSendQueued :
    SendsQueued session epollCtl (session.ioSendQueued result epollCtl).2.1 := by
  unfold ioSendQueued
  split
  · exact .nothing
  · exact .nothing
  · rename_i queued
    have tail : session.sendBufs.tail = _ := congrArg List.tail queued
    rw [List.tail_cons] at tail
    dsimp only
    rw [← tail]
    split
    · split
      · exact .registers _
      · exact .writes _
    · exact .registers _
    · exact .registers _
    · exact .writes _

end TcpSession

/-! ## What a send writes -/

/-- A step of the loop stays inside the buffer. -/
theorem ioSendStep_bounds
    {nDataLen nWriteLen nWriteLen' : Nat}
    {result : WriteResult}
    (inside : nWriteLen ≤ nDataLen)
    (stepped : ioSendStep nDataLen nWriteLen result = some nWriteLen') :
    nWriteLen ≤ nWriteLen' ∧ nWriteLen' ≤ nDataLen := by
  cases result with
  | accepted count =>
      simp only [ioSendStep, Option.some.injEq] at stepped
      omega
  | again =>
      simp only [ioSendStep, Option.some.injEq] at stepped
      omega
  | interrupted => simp [ioSendStep] at stepped
  | failed => simp [ioSendStep] at stepped

/-- The loop never runs past the end of its buffer and never goes back. -/
theorem ioSendLoop_bounds
    {nDataLen nWriteLen : Nat}
    (results : List WriteResult)
    (inside : nWriteLen ≤ nDataLen) :
    nWriteLen ≤ (ioSendLoop nDataLen nWriteLen results).2 ∧
      (ioSendLoop nDataLen nWriteLen results).2 ≤ nDataLen := by
  induction results generalizing nWriteLen with
  | nil => exact ⟨le_rfl, inside⟩
  | cons result results inductionHypothesis =>
      rw [ioSendLoop]
      split
      · cases stepped : ioSendStep nDataLen nWriteLen result with
        | none => exact ⟨le_rfl, inside⟩
        | some nWriteLen' =>
            have bounds := ioSendStep_bounds inside stepped
            have later := inductionHypothesis bounds.2
            exact ⟨bounds.1.trans later.1, later.2⟩
      · exact ⟨le_rfl, inside⟩

/-- The loop is left without an error exactly at the end of the buffer. -/
theorem ioSendLoop_exited
    {nDataLen nWriteLen : Nat}
    {results : List WriteResult}
    (exited : (ioSendLoop nDataLen nWriteLen results).1 = .exited) :
    nDataLen ≤ (ioSendLoop nDataLen nWriteLen results).2 := by
  induction results generalizing nWriteLen with
  | nil =>
      by_contra short
      have unfinished : nWriteLen < nDataLen := by simpa [ioSendLoop] using short
      simp [ioSendLoop, unfinished] at exited
  | cons result results inductionHypothesis =>
      rw [ioSendLoop] at exited ⊢
      split at exited
      · rename_i short
        rw [if_pos short]
        cases stepped : ioSendStep nDataLen nWriteLen result with
        | none => simp [stepped] at exited
        | some nWriteLen' =>
            rw [stepped] at exited
            exact inductionHypothesis exited
      · rename_i full
        rw [if_neg full]
        omega

/-- The loop is left with an error only before the end of the buffer. -/
theorem ioSendLoop_failed
    {nDataLen nWriteLen : Nat}
    {results : List WriteResult}
    (failed : (ioSendLoop nDataLen nWriteLen results).1 = .failed) :
    (ioSendLoop nDataLen nWriteLen results).2 < nDataLen := by
  induction results generalizing nWriteLen with
  | nil =>
      simp only [ioSendLoop] at failed
      split at failed
      · contradiction
      · contradiction
  | cons result results inductionHypothesis =>
      rw [ioSendLoop] at failed ⊢
      split at failed
      · rename_i unfinished
        rw [if_pos unfinished]
        cases stepped : ioSendStep nDataLen nWriteLen result with
        | none => exact unfinished
        | some next =>
            rw [stepped] at failed
            exact inductionHypothesis failed
      · contradiction

/-- The bytes accepted by the writes of the loop are the part of the buffer the
loop has advanced over. -/
theorem written_ioSendWrites
    (nSocket : Int)
    (szData : List UInt8)
    {nWriteLen : Nat}
    (results : List WriteResult)
    (inside : nWriteLen ≤ szData.length) :
    written (ioSendWrites nSocket szData nWriteLen results) =
      (szData.drop nWriteLen).take
        ((ioSendLoop szData.length nWriteLen results).2 - nWriteLen) := by
  induction results generalizing nWriteLen with
  | nil => simp [ioSendWrites, ioSendLoop]
  | cons result results inductionHypothesis =>
      rw [ioSendWrites, ioSendLoop]
      split
      · cases stepped : ioSendStep szData.length nWriteLen result with
        | none => simp [written, EngineEvent.output]
        | some nWriteLen' =>
            have bounds := ioSendStep_bounds inside stepped
            have later := ioSendLoop_bounds results bounds.2
            have rest := inductionHypothesis bounds.2
            simp only [written, List.flatMap_cons] at rest ⊢
            rw [rest, EngineEvent.output]
            have dropped : szData.drop nWriteLen' =
                (szData.drop nWriteLen).drop (nWriteLen' - nWriteLen) := by
              rw [List.drop_drop]
              congr 1
              omega
            rw [dropped, ← List.take_add]
            congr 1
            omega
      · simp

/-- The result of a send whose loop has ended or still runs. -/
def SendLoop.result : SendLoop → CallResult
  | .exited => .returned 0
  | .failed => .returned (-2)
  | .pending => .pending

namespace TcpSession

/-- A send of a whole buffer does nothing but the writes of its loop: behind
the loop there is nothing left to defer. -/
theorem ioSend_eq
    (session : TcpSession)
    {szData : List UInt8}
    {nDataLen : Int}
    (outcomes : SendOutcomes)
    (positive : 0 < nDataLen)
    (lengthEq : nDataLen = szData.length) :
    session.ioSend (some szData) nDataLen outcomes =
      ⟨session, ioSendWrites session.nSocket szData 0 outcomes.writes,
        (ioSendLoop szData.length 0 outcomes.writes).1.result⟩ := by
  have whole : szData.take nDataLen.toNat = szData :=
    List.take_of_length_le (by omega)
  simp only [ioSend, whole]
  rw [if_neg (by omega)]
  have full : (ioSendLoop szData.length 0 outcomes.writes).1 = .exited →
      szData.length ≤ (ioSendLoop szData.length 0 outcomes.writes).2 :=
    ioSendLoop_exited
  cases loop : ioSendLoop szData.length 0 outcomes.writes with
  | mk ending nWriteLen =>
      rw [loop] at full
      cases ending with
      | exited =>
          have reached : ¬nWriteLen < szData.length := not_lt.mpr (full rfl)
          simp [ioSendRest, reached, SendLoop.result]
      | failed => rfl
      | pending => rfl

/-- A length that is not positive is refused. -/
theorem ioSend_nonpos
    (session : TcpSession)
    (szData : List UInt8)
    {nDataLen : Int}
    (outcomes : SendOutcomes)
    (nonpos : nDataLen ≤ 0) :
    session.ioSend (some szData) nDataLen outcomes =
      ⟨session, [], .returned (-1)⟩ := by
  simp only [ioSend, if_pos nonpos]

/-- The bytes a send puts on the socket are the part of its buffer that the
loop has covered. -/
theorem written_ioSend
    (session : TcpSession)
    {szData : List UInt8}
    {nDataLen : Int}
    (outcomes : SendOutcomes)
    (positive : 0 < nDataLen)
    (lengthEq : nDataLen = szData.length) :
    written (session.ioSend (some szData) nDataLen outcomes).events =
      szData.take (ioSendLoop szData.length 0 outcomes.writes).2 := by
  rw [session.ioSend_eq outcomes positive lengthEq,
    written_ioSendWrites _ _ _ (Nat.zero_le _)]
  simp

/-- A send that returns 0 has written its whole buffer. -/
theorem written_ioSend_of_zero
    {session : TcpSession}
    {szData : List UInt8}
    {nDataLen : Int}
    {outcomes : SendOutcomes}
    (positive : 0 < nDataLen)
    (lengthEq : nDataLen = szData.length)
    (done : (session.ioSend (some szData) nDataLen outcomes).result =
      .returned 0) :
    written (session.ioSend (some szData) nDataLen outcomes).events =
      szData := by
  rw [session.ioSend_eq outcomes positive lengthEq] at done
  have exited : (ioSendLoop szData.length 0 outcomes.writes).1 = .exited := by
    cases ending : (ioSendLoop szData.length 0 outcomes.writes).1 with
    | exited => rfl
    | failed => simp [ending, SendLoop.result] at done
    | pending => simp [ending, SendLoop.result] at done
  rw [session.written_ioSend outcomes positive lengthEq]
  exact List.take_of_length_le (ioSendLoop_exited exited)

/-- In framed mode a payload is sent as its frame. -/
theorem sendData_framed
    {session : TcpSession}
    (framed : session.bIsHaveHead = true)
    (payload : Payload)
    (outcomes : SendOutcomes) :
    session.sendData payload.bytes payload.bytes.length outcomes =
      session.ioSend (some (dataFrame payload).symbols)
        (payload.bytes.length + sizeofHeadMsg) outcomes := by
  have small := payload.fitsInt
  have frame : frameBuf payload.bytes payload.bytes.length =
      (dataFrame payload).symbols := frameBuf_eq rfl
  rw [sendData, if_pos framed, if_neg (by omega), frame,
    signed32_of_range (by omega) (by omega)]

end TcpSession

end TransPortEngine
