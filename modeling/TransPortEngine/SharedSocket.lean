import TransPortEngine.Library.SharedWire
import TransPortEngine.Library.Transition
import TransPortEngine.Sdk

/-!
# Several sends on one session

`TcpSession_IOSend` takes no lock: its write loop can be interrupted by the
loops of other sends on the same socket after every `write`. The calls are the
two framing send functions and the echo of a heartbeat header from the receive
loop. On the shared socket each of them is a job of `SharedWire`.
-/

namespace TransPortEngine

open Framing Transition

/-- A call that ends in the write loop of a framed session. -/
inductive SendCall
  | sendData (payload : Payload)
  | serverSendTo (payload : Payload)
  | echo
      (headMsg : List UInt8)
      (whole : headMsg.length = sizeofHeadMsg)
      (isHeartbeat : headTypeIs heartBeat headMsg = true)

namespace SendCall

/-- The buffer the call hands to `TcpSession_IOSend`. -/
def szData : SendCall → List UInt8
  | .sendData payload => frameBuf payload.bytes payload.bytes.length
  | .serverSendTo payload => frameBuf payload.bytes payload.bytes.length
  | .echo headMsg _ _ => headMsg

/-- The frame the call is to put on the socket: header and payload, or the
header of a heartbeat. -/
def frameBytes : SendCall → List UInt8
  | .sendData payload => dataHeadMsg payload.bytes.length ++ payload.bytes
  | .serverSendTo payload => dataHeadMsg payload.bytes.length ++ payload.bytes
  | .echo headMsg _ _ => headMsg

/-- The events of the call when nobody else uses the socket. -/
def events (session : TcpSession) (outcomes : SendOutcomes) :
    SendCall → List EngineEvent
  | .sendData payload =>
      (session.sendData payload.bytes payload.bytes.length outcomes).events
  | .serverSendTo payload =>
      (TransPortEngine.serverSendTo session payload.bytes.length payload.bytes outcomes).events
  | .echo headMsg _ _ =>
      (session.ioSend (some headMsg) sizeofHeadMsg outcomes).events

theorem szData_eq_frameBytes (call : SendCall) :
    call.szData = call.frameBytes := by
  cases call with
  | sendData payload => exact frameBuf_eq rfl
  | serverSendTo payload => exact frameBuf_eq rfl
  | echo headMsg whole isHeartbeat => rfl

theorem length_szData_pos (call : SendCall) : 0 < call.szData.length := by
  rw [szData_eq_frameBytes]
  cases call with
  | sendData payload => simp [frameBytes, sizeofHeadMsg]
  | serverSendTo payload => simp [frameBytes, sizeofHeadMsg]
  | echo headMsg whole isHeartbeat => simp [frameBytes, whole, sizeofHeadMsg]

end SendCall

/-- The write loops of the calls in progress on one socket. -/
abbrev SocketState := SharedWire.State Nat SendCall UInt8

/-- A thread calls a send function, or gets the result of its next `write`. -/
inductive SenderStep
  | begin (call : SendCall)
  | write (result : WriteResult)

/-- One step of one thread. The last byte of the buffer ends the loop with 0, an
error ends it with -2, and `EAGAIN` changes nothing. Without other threads the
steps of a call put on the socket what the call writes (`wire_of_call`). -/
def senderStep
    (state : SocketState)
    (label : Nat × SenderStep) : Option SocketState :=
  match label.2 with
  | .begin call =>
      SharedWire.step SendCall.szData state (label.1, .begin call)
  | .write result =>
      match state.running label.1 with
      | none => none
      | some (call, nWriteLen) =>
          match ioSendStep call.szData.length nWriteLen result with
          | none => SharedWire.step SendCall.szData state (label.1, .abandon)
          | some nWriteLen' =>
              if nWriteLen' = nWriteLen then some state
              else
                SharedWire.step SendCall.szData state
                  (label.1, .advance (nWriteLen' - nWriteLen))

/-- A `write` accepts bytes only while no other call has written part of its
frame. -/
def WritesAlone (state : SocketState) (label : Nat × SenderStep) : Prop :=
  ∀ count, label.2 = .write (.accepted count) →
    ∀ other, other ≠ label.1 → ¬state.Midway other

/-- All calls have returned, and none of them with an error. -/
structure AllReturnedZero (state : SocketState) : Prop where
  returned : ∀ thread, state.running thread = none
  zero : state.abandoned = []

/-- The socket carries the frames of the completed calls, whole and one after
another. -/
def CarriesFrames (state : SocketState) : Prop :=
  ∃ calls : List SendCall, calls.Perm state.done ∧
    state.wire = calls.flatMap SendCall.frameBytes

/-- A step that writes alone keeps the frames apart. -/
theorem separate_senderStep
    {state next : SocketState}
    {label : Nat × SenderStep}
    (separate : state.Separate SendCall.szData)
    (alone : WritesAlone state label)
    (stepped : senderStep state label = some next) :
    next.Separate SendCall.szData := by
  obtain ⟨thread, action⟩ := label
  cases action with
  | begin call =>
      apply SharedWire.separate_step separate _ stepped
      intro count impossible
      contradiction
  | write result =>
      simp only [senderStep] at stepped
      split at stepped
      · contradiction
      · rename_i call nWriteLen running
        split at stepped
        · apply SharedWire.separate_step separate _ stepped
          intro count impossible
          contradiction
        · rename_i nWriteLen' advanced
          split at stepped
          · rw [← Option.some.inj stepped]
            exact separate
          · rename_i moved
            apply SharedWire.separate_step separate _ stepped
            intro count _
            cases result with
            | accepted count => exact alone count rfl
            | again =>
                simp only [ioSendStep, Option.some.injEq] at advanced
                exact absurd advanced.symm moved
            | interrupted => simp [ioSendStep] at advanced
            | failed => simp [ioSendStep] at advanced

/-- In a run in which bytes are accepted only while no other call is in the
middle of its frame, the socket carries whole frames once all calls have
returned 0. -/
theorem carriesFrames_of_writesAlone
    (labels : List (Nat × SenderStep))
    (last : SocketState)
    (alone :
      Throughout senderStep WritesAlone SharedWire.State.initial labels)
    (reached : run senderStep SharedWire.State.initial labels = some last)
    (finished : AllReturnedZero last) :
    CarriesFrames last := by
  have separate := invariant_of_run
    (fun _ _ _ kept condition stepped =>
      separate_senderStep kept condition stepped)
    SharedWire.separate_initial alone reached
  have wireEq := separate.wire_eq_done finished.returned finished.zero
  refine ⟨last.done, List.Perm.refl _, ?_⟩
  rw [wireEq]
  congr 1
  funext call
  exact call.szData_eq_frameBytes

/-! ## A call on its own -/

/-- A thread without a call makes no writes. -/
theorem run_writes_idle
    {thread : Nat}
    {state last : SocketState}
    {results : List WriteResult}
    (idle : state.running thread = none)
    (reached : run senderStep state
      (results.map fun result => (thread, .write result)) = some last) :
    results = [] ∧ last = state := by
  cases results with
  | nil =>
      rw [List.map_nil, run_nil, Option.some.injEq] at reached
      exact ⟨rfl, reached.symm⟩
  | cons result results =>
      obtain ⟨next, stepped, -⟩ := run_cons reached
      simp [senderStep, idle] at stepped

/-- The writes of a call, one after another, put on the shared socket what the
write loop of the call puts on a socket of its own. -/
theorem wire_of_run_writes
    {thread : Nat}
    {call : SendCall}
    {nWriteLen : Nat}
    {state last : SocketState}
    (nSocket : Int)
    (results : List WriteResult)
    (running : state.running thread = some (call, nWriteLen))
    (inside : nWriteLen < call.szData.length)
    (reached : run senderStep state
      (results.map fun result => (thread, .write result)) = some last) :
    last.wire = state.wire ++
      written (ioSendWrites nSocket call.szData nWriteLen results) := by
  induction results generalizing state nWriteLen with
  | nil =>
      rw [List.map_nil, run_nil, Option.some.injEq] at reached
      rw [← reached]
      simp [ioSendWrites]
  | cons result results inductionHypothesis =>
      obtain ⟨next, stepped, reachedLater⟩ := run_cons reached
      rw [ioSendWrites, if_pos inside]
      simp only [senderStep, running] at stepped
      cases advanced : ioSendStep call.szData.length nWriteLen result with
      | none =>
          simp only [advanced, SharedWire.step, running, Option.some.injEq]
            at stepped
          have idle : next.running thread = none := by simp [← stepped]
          obtain ⟨-, sameState⟩ := run_writes_idle idle reachedLater
          simp [sameState, ← stepped, written, EngineEvent.output]
      | some nWriteLen' =>
          have bounds := ioSendStep_bounds inside.le advanced
          simp only [advanced] at stepped
          simp only [written, List.flatMap_cons, EngineEvent.output]
          split at stepped
          · rename_i unmoved
            rw [← Option.some.inj stepped] at reachedLater
            have later := inductionHypothesis running inside reachedLater
            simp [later, unmoved, written]
          · rename_i moved
            simp only [SharedWire.step, running] at stepped
            rw [if_neg (by omega)] at stepped
            have reachedLen :
                nWriteLen + (nWriteLen' - nWriteLen) = nWriteLen' := by
              omega
            rw [reachedLen] at stepped
            split at stepped
            · rename_i inside'
              have running' : next.running thread = some (call, nWriteLen') := by
                simp [← Option.some.inj stepped]
              have later := inductionHypothesis running' inside' reachedLater
              rw [later, ← Option.some.inj stepped, List.append_assoc, written]
            · have idle : next.running thread = none := by
                simp [← Option.some.inj stepped]
              obtain ⟨noResults, sameState⟩ :=
                run_writes_idle idle reachedLater
              simp [noResults, sameState, ← Option.some.inj stepped,
                ioSendWrites]

/-- On a framed session every call is the write loop over its buffer. -/
theorem SendCall.events_eq
    {session : TcpSession}
    (framed : session.bIsHaveHead = true)
    (call : SendCall)
    (outcomes : SendOutcomes) :
    call.events session outcomes =
      ioSendWrites session.nSocket call.szData 0 outcomes.writes := by
  have framedSend : ∀ payload : Payload,
      (session.sendData payload.bytes payload.bytes.length outcomes).events =
        ioSendWrites session.nSocket
          (frameBuf payload.bytes payload.bytes.length) 0 outcomes.writes := by
    intro payload
    have frame : frameBuf payload.bytes payload.bytes.length =
        (dataFrame payload).symbols := frameBuf_eq rfl
    have lengthEq : (payload.bytes.length + sizeofHeadMsg : Int) =
        (dataFrame payload).symbols.length := by
      rw [← frame, frameBuf_eq rfl, List.length_append, length_dataHeadMsg]
      omega
    have positive : (0 : Int) < payload.bytes.length + sizeofHeadMsg := by
      simp only [sizeofHeadMsg]
      omega
    rw [TcpSession.sendData_framed framed, frame,
      session.ioSend_eq outcomes positive lengthEq]
  cases call with
  | sendData payload => exact framedSend payload
  | serverSendTo payload =>
      have inRange : MachineInt.signed32 payload.bytes.length =
          payload.bytes.length := by
        have small := payload.fitsInt
        exact MachineInt.signed32_of_range (by omega) (by omega)
      simp only [events, TransPortEngine.serverSendTo, inRange]
      exact framedSend payload
  | echo headMsg whole isHeartbeat =>
      simp only [events, szData]
      rw [session.ioSend_eq outcomes (by simp [sizeofHeadMsg]) (by simp [whole])]

/-- A call whose writes nobody interrupts puts on the shared socket what it
writes on a session of its own. -/
theorem wire_of_call
    {session : TcpSession}
    {thread : Nat}
    {call : SendCall}
    {outcomes : SendOutcomes}
    {last : SocketState}
    (framed : session.bIsHaveHead = true)
    (reached : run senderStep SharedWire.State.initial
      ((thread, .begin call) ::
        outcomes.writes.map fun result => (thread, .write result)) = some last) :
    last.wire = written (call.events session outcomes) := by
  obtain ⟨next, stepped, reachedLater⟩ := run_cons reached
  simp only [senderStep, SharedWire.step, SharedWire.State.initial,
    Option.some.injEq] at stepped
  have running : next.running thread = some (call, 0) := by simp [← stepped]
  rw [wire_of_run_writes session.nSocket outcomes.writes running
    call.length_szData_pos reachedLater, call.events_eq framed, ← stepped,
    List.nil_append]

/-! ### One letter and an echo, apart and mixed -/

/-- The echo of a client's heartbeat. -/
def echoHeartbeat : SendCall :=
  .echo clientHeartbeat.headMsg clientHeartbeat.length_eq
    clientHeartbeat.isHeartbeat

/-- A thread sends the letter A in two pieces, and then the heartbeat that came
in meanwhile is echoed. -/
def apartSteps : List (Nat × SenderStep) :=
  [(0, .begin (.sendData letterA)), (1, .begin echoHeartbeat),
    (0, .write (.accepted 4)), (0, .write .again), (0, .write (.accepted 5)),
    (1, .write (.accepted 8))]

/-- The echo gets between the two pieces. -/
def mixedSteps : List (Nat × SenderStep) :=
  [(0, .begin (.sendData letterA)), (1, .begin echoHeartbeat),
    (0, .write (.accepted 4)), (1, .write (.accepted 8)),
    (0, .write (.accepted 5))]

/-- A thread whose call has not begun is in the middle of none. -/
theorem not_midway_of_unsent
    {state : SocketState}
    {thread : Nat}
    (unsent : ((state.running thread).map Prod.snd).getD 0 = 0) :
    ¬state.Midway thread := by
  rintro ⟨call, sent, running, positive⟩
  rw [running] at unsent
  exact absurd positive (by simpa using unsent)

theorem carriesFrames_apartSteps :
    ∃ last, run senderStep SharedWire.State.initial apartSteps = some last ∧
      CarriesFrames last := by
  refine ⟨_, rfl, carriesFrames_of_writesAlone apartSteps _ ?_ rfl ⟨?_, rfl⟩⟩
  · refine throughout_cons rfl ?_ (throughout_cons rfl ?_ (throughout_cons rfl ?_
      (throughout_cons rfl ?_ (throughout_cons rfl ?_ (throughout_cons rfl ?_
        trivial)))))
    all_goals
      intro count accepted other different
      apply not_midway_of_unsent
      rcases other with _ | _ | other
    · rfl
    · rfl
    · rfl
    · rfl
    · rfl
    · rfl
    · contradiction
    · rfl
    · rfl
    · contradiction
    · rfl
    · rfl
    · contradiction
    · rfl
    · rfl
    · rfl
    · contradiction
    · rfl
  · intro thread
    rcases thread with _ | _ | thread
    · rfl
    · rfl
    · rfl

/-- Both calls return 0 after `mixedSteps`, and the header of the letter is
followed by the echo. -/
theorem not_carriesFrames_mixedSteps :
    ¬∀ (steps : List (Nat × SenderStep)) (last : SocketState),
      run senderStep SharedWire.State.initial steps = some last →
        AllReturnedZero last → CarriesFrames last := by
  intro always
  obtain ⟨calls, perm, wireEq⟩ := always mixedSteps _ rfl ⟨by
    intro thread
    rcases thread with _ | _ | thread
    · rfl
    · rfl
    · rfl, rfl⟩
  have length_eq : calls.length = 2 := perm.length_eq
  match calls, length_eq with
  | [first, second], _ =>
    have mem : first ∈ [echoHeartbeat, .sendData letterA] :=
      perm.subset (List.mem_cons_self ..)
    have start : [0x44, 0x54, 0, 0, 0x48] =
        (first.frameBytes ++ [second].flatMap SendCall.frameBytes).take 5 :=
      congrArg (List.take 5) wireEq
    simp only [List.mem_cons, List.not_mem_nil, or_false] at mem
    obtain rfl | rfl := mem
    · rw [List.take_append_of_le_length (by decide)] at start
      revert start
      decide
    · rw [List.take_append_of_le_length (by decide)] at start
      revert start
      decide

end TransPortEngine
