import TransPortEngine.TcpClient.Defs

/-!
# The stream a client sends

A framed client writes data frames and empty heartbeats. Whatever the order of
the calls, the bytes offered to the kernel are a stream of well-formed frames.
-/

namespace TransPortEngine

open Framing

/-- A message of a framed client. -/
inductive ClientSend
  | data (payload : Payload)
  | heartbeat

namespace ClientSend

/-- The bytes a client offers to `send` for a message. -/
def bytes (client : TcpClient) : ClientSend → List UInt8
  | .data payload =>
      (client.sendData payload.bytes payload.bytes.length).getD []
  | .heartbeat => TcpClient.sendHeartbeat

/-- The frame that carries a message. -/
def frame : ClientSend → Frame frameFormat
  | .data payload => dataFrame payload
  | .heartbeat => heartbeatFrame clientHeartbeat

/-- The payload of a message. -/
def payload? : ClientSend → Option (List UInt8)
  | .data payload => some payload.bytes
  | .heartbeat => none

end ClientSend

/-- The payloads among the messages, in order. -/
def sentPayloads (sends : List ClientSend) : List (List UInt8) :=
  sends.filterMap ClientSend.payload?

theorem deliverData_frame (send : ClientSend) :
    deliverData send.frame.output = send.payload? := by
  cases send with
  | data payload =>
      rw [ClientSend.frame, output_dataFrame]
      rfl
  | heartbeat =>
      rw [ClientSend.frame, output_heartbeatFrame]
      rfl

/-- The payloads the frames of the messages deliver. -/
theorem deliverData_frames (sends : List ClientSend) :
    (sends.map ClientSend.frame).filterMap
      (fun frame => deliverData frame.output) = sentPayloads sends := by
  rw [List.filterMap_map]
  apply List.filterMap_congr
  intro send _
  exact deliverData_frame send

namespace TcpClient

/-- The bytes a client offers to `send` for a list of messages. -/
def stream (client : TcpClient) (sends : List ClientSend) : List UInt8 :=
  sends.flatMap (ClientSend.bytes client)

/-- A framed client sends a stream of frames. -/
theorem stream_eq_wire
    {client : TcpClient}
    (framed : client.bIsHaveHead = true)
    (sends : List ClientSend) :
    client.stream sends = wire (sends.map ClientSend.frame) := by
  have each : ∀ send, ClientSend.bytes client send = send.frame.symbols := by
    intro send
    cases send with
    | data payload =>
        rw [ClientSend.bytes, sendData_payload framed]
        rfl
    | heartbeat => exact sendHeartbeat_eq
  simp only [stream, wire, List.flatMap_map]
  congr 1
  funext send
  exact each send

/-- A client of a framed connection. -/
def framedClient : TcpClient :=
  (construct ⟨3, 0, 0⟩).configure true true 5

end TcpClient

end TransPortEngine
