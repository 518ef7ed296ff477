import TransPortEngine.TcpClient.KeepAlive

/-!
# The life of a client

`TransPortEngine_CreateClient` on Linux, in all modes. In heartbeat mode
`TcpClient_SocketInit` leaves the connection to the heartbeat thread. In the
other mode it connects itself, and starts the receive thread; there is no
heartbeat thread then, so none keeps `TcpClient_SocketUnit` waiting.
-/

namespace TransPortEngine

/-- The arguments of `TransPortEngine_CreateClient` that the threads of the
client look at. -/
structure ClientArguments where
  hasTransPortEngineRecv : Bool
  bIsHaveHead : Bool
  bIsHaveHB : Bool
  nHeartBeatInterval : Int
  deriving DecidableEq, Repr

/-- The results of the system calls of `TcpClient_SocketInit`. An error number
of `pthread_create` is positive. -/
structure SocketInitResults where
  createHeartbeatThread : Int
  nSocket : Int
  connect : Int
  createRecvThread : Int
  deriving DecidableEq, Repr

namespace Link

/-- A client without threads. -/
def idle (client : TcpClient) : Link where
  client := client
  keepAlive := .returned
  receiver := .absent
  socketUnit := .idle
  events := []
  connections := []

/-- `TcpClient_SocketInit` in heartbeat mode. -/
def startHeartbeat (client : TcpClient) (nRet : Int) : Link × Int :=
  if nRet < 0 then (idle client, -2)
  else
    ({ idle client with keepAlive := if nRet = 0 then .loop else .returned }, 0)

/-- `TcpClient_SocketInit` without heartbeats. -/
def startConnection
    (client : TcpClient)
    (results : SocketInitResults) : Link × Int :=
  if client.nLinkStatus = .disconnect then
    let client := { client with nSocket := results.nSocket }
    let close := if client.nSocket = 0 then [] else
      [EngineEvent.close client.nSocket]
    if client.nSocket ≤ 0 then (idle client, -2)
    else if results.connect ≠ 0 then ({ idle client with events := close }, -3)
    else
      let client := { client with nLinkStatus := .connect, bRecvFlag := true }
      let link := { idle client with events := client.notify .connect }
      if results.createRecvThread < 0 then
        ({ link with events := link.events ++ close }, -4)
      else if results.createRecvThread = 0 then
        ({ link with receiver := .loop, connections := [⟨[], []⟩] }, 0)
      else (link, 0)
  else (idle client, 0)

/-- `TcpClient_SocketInit` on a client that has just been constructed. -/
def socketInit
    (garbage : ClientGarbage)
    (arguments : ClientArguments)
    (results : SocketInitResults) : Link × Int :=
  let client := TcpClient.construct garbage
  if arguments.hasTransPortEngineRecv then
    let client := client.configure arguments.bIsHaveHead arguments.bIsHaveHB
      arguments.nHeartBeatInterval
    if arguments.bIsHaveHB then
      startHeartbeat client results.createHeartbeatThread
    else startConnection client results
  else (idle client, -1)

/-- `TransPortEngine_CreateClient`. It deletes a client that could not be set
up. -/
def createClient
    (garbage : ClientGarbage)
    (arguments : ClientArguments)
    (results : SocketInitResults) : Link :=
  let init := socketInit garbage arguments results
  if init.2 < 0 then { init.1 with socketUnit := .returned } else init.1

/-- The client has been deleted: by `TransPortEngine_DestroyClient`, behind
`TcpClient_SocketUnit`, or by `TransPortEngine_CreateClient`. -/
def Destroyed (link : Link) : Prop :=
  link.socketUnit = .returned

instance (link : Link) : Decidable link.Destroyed :=
  inferInstanceAs (Decidable (_ = _))

end Link

end TransPortEngine
