import TransPortEngine.TcpSession.Send

/-!
# The stream a session sends

A framed session writes data frames and echoes of heartbeat headers. As long as
every send returns 0 the bytes on the socket are a stream of well-formed
frames.
-/

namespace TransPortEngine

open Framing

/-- A message of a framed session, with the results of its system calls. -/
inductive ServerSend
  | data (payload : Payload) (outcomes : SendOutcomes)
  | echo (heartbeat : EmptyHeartbeat) (outcomes : SendOutcomes)

namespace ServerSend

/-- The call that sends a message. -/
def run (session : TcpSession) : ServerSend → SendRun
  | .data payload outcomes =>
      session.sendData payload.bytes payload.bytes.length outcomes
  | .echo heartbeat outcomes =>
      session.ioSend (some heartbeat.headMsg) sizeofHeadMsg outcomes

/-- The frame that carries a message. -/
def frame : ServerSend → Frame frameFormat
  | .data payload _ => dataFrame payload
  | .echo heartbeat _ => heartbeatFrame heartbeat

/-- What the message is for the peer. -/
def message : ServerSend → Message
  | .data payload _ => .payload payload.bytes
  | .echo _ _ => .heartbeat

end ServerSend

namespace TcpSession

/-- The bytes put on the socket by a list of sends. -/
def stream (session : TcpSession) (sends : List ServerSend) : List UInt8 :=
  sends.flatMap fun send => written (send.run session).events

/-- Completed sends of a framed session are a stream of frames. -/
theorem stream_eq_wire
    {session : TcpSession}
    (framed : session.bIsHaveHead = true)
    {sends : List ServerSend}
    (done : ∀ send ∈ sends, (send.run session).result = .returned 0) :
    session.stream sends = wire (sends.map ServerSend.frame) := by
  have each : ∀ send ∈ sends,
      written (send.run session).events = send.frame.symbols := by
    intro send member
    have returned := done send member
    cases send with
    | data payload outcomes =>
        have length : ((payload.bytes.length : Int) + sizeofHeadMsg) =
            (dataFrame payload).symbols.length := by
          simp [Frame.symbols, dataFrame, Int.add_comm]
        rw [ServerSend.run, sendData_framed framed] at returned ⊢
        exact written_ioSend_of_zero (by simp [sizeofHeadMsg]; omega) length
          returned
    | echo heartbeat outcomes =>
        have symbols : (heartbeatFrame heartbeat).symbols =
            heartbeat.headMsg := by
          simp [Frame.symbols, heartbeatFrame]
        rw [ServerSend.run] at returned ⊢
        rw [ServerSend.frame, symbols]
        exact written_ioSend_of_zero (by decide)
          (by rw [heartbeat.length_eq]) returned
  rw [stream, wire, List.flatMap_map]
  exact List.flatMap_congr each

/-- A session of a framed connection, as the accept loop sets it up. -/
def framedSession : TcpSession :=
  ((construct ⟨false, false, 0, 0⟩ 4096 0).init
    ⟨7, true, true, true, true, true⟩).1

end TcpSession

end TransPortEngine
