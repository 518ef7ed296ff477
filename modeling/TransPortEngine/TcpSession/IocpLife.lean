import TransPortEngine.TcpSession.Iocp

/-!
# The life of a session object on Windows

Constructor, `TcpSession_Init`, `TcpSession_Fini` and destructor of `CTcpSession`
in its `_WINDOWS` sections. The context of the receives is allocated by
`TcpSession_Init`, and a socket of 0 is one that has been closed or never set.
-/

namespace TransPortEngine

open MachineInt

/-- `INVALID_SOCKET`. -/
def invalidSocket : Int := 18446744073709551615

/-- A session object on Windows, and whether `m_pPerIoContextRecv` denotes a
context. -/
structure IocpObject extends IocpSession where
  hasPerIoContextRecv : Bool
  deriving DecidableEq, Repr

/-- The arguments of `TcpSession_Init` on Windows. -/
structure IocpInitArguments where
  socket : Int
  nEventModleIndex : Int
  hasNetFiveElement : Bool
  hasTransPortEngineRecv : Bool
  bIsHaveHead : Bool
  hasUser : Bool

namespace IocpObject

/-- The constructor, run at a given time. -/
def construct (garbage : SessionGarbage) (now : Int) : IocpObject where
  toSessionCore := SessionCore.construct garbage now
  socket := 0
  perIoContextRecv := ⟨0, 0, []⟩
  perIoContextSends := []
  nSquence := 0
  bIsToBeClose := false
  hasPerIoContextRecv := false

/-- A notification, sent when there is a receiver for it. -/
def notify (object : IocpObject) (nMsgType : MsgType) : List EngineEvent :=
  if object.hasTransPortEngineRecv then
    [.onTransPortEngineNotify (signed32 object.socket) nMsgType]
  else []

/-- `TcpSession_Init`, given the success of the allocation. A plain `new` throws
when it fails, so that the branch behind the test for `NULL` is one more outcome
than the source can come to. -/
def init
    (object : IocpObject)
    (arguments : IocpInitArguments)
    (allocated : Bool) : IocpObject × List EngineEvent × Int :=
  if arguments.socket = invalidSocket ∨ arguments.nEventModleIndex < 0 ∨
      arguments.hasNetFiveElement = false ∨ arguments.hasUser = false then
    (object, [], -1)
  else
    let object := { object with
      hasNetFiveElement := arguments.hasNetFiveElement
      hasTransPortEngineRecv := arguments.hasTransPortEngineRecv
      bIsHaveHead := arguments.bIsHaveHead
      nEventModleIndex := arguments.nEventModleIndex
      socket := arguments.socket
      hasPerIoContextRecv := allocated }
    if allocated = false then (object, [], -2)
    else
      let object := { object with perIoContextRecv := ⟨maxBufferLen, 0, []⟩ }
      (object, object.notify .connect, 0)

/-- Close the socket unless that has been done. -/
def closeSocket (object : IocpObject) : List EngineEvent :=
  if object.socket = 0 then [] else [.close object.socket]

/-- What `TcpSession_Fini` and the destructor leave of an object. -/
def clear (object : IocpObject) : IocpObject :=
  { object with
    hasNetFiveElement := false
    hasPerIoContextRecv := false
    perIoContextSends := []
    socket := 0
    recvBufs := [] }

/-- `TcpSession_Fini`. Both locks are held to the end of the call. -/
def fini (object : IocpObject) : IocpObject × List EngineEvent × Int :=
  (object.clear,
    [.lock .perIoContextSendLock] ++ object.notify .disconnect ++
      object.closeSocket ++
      [.lock .recvBufLock, .unlock .recvBufLock, .unlock .perIoContextSendLock],
    0)

/-- The destructor. -/
def delete (object : IocpObject) : IocpObject × List EngineEvent :=
  (object.clear,
    [.lock .perIoContextSendLock] ++ object.closeSocket ++
      [.lock .recvBufLock, .unlock .recvBufLock, .unlock .perIoContextSendLock])

theorem closedSockets_fini (object : IocpObject) :
    closedSockets object.fini.2.1 =
      if object.socket = 0 then [] else [object.socket] := by
  unfold fini closeSocket notify
  by_cases receives : object.hasTransPortEngineRecv = true <;>
    by_cases none : object.socket = 0 <;>
      simp only [receives, none, if_true, if_false, Bool.false_eq_true] <;> rfl

theorem closedSockets_delete (object : IocpObject) :
    closedSockets object.delete.2 =
      if object.socket = 0 then [] else [object.socket] := by
  unfold delete closeSocket
  split <;> rfl

/-- `TcpSession_Init` stores the socket before it allocates the context. -/
theorem init_valid
    (object : IocpObject)
    (arguments : IocpInitArguments)
    (socket : arguments.socket ≠ invalidSocket)
    (index : 0 ≤ arguments.nEventModleIndex)
    (record : arguments.hasNetFiveElement = true)
    (user : arguments.hasUser = true)
    (allocated : Bool) :
    (object.init arguments allocated).1.socket = arguments.socket ∧
      (object.init arguments allocated).2.2 = if allocated then 0 else -2 := by
  unfold init
  rw [if_neg (by simp [socket, not_lt.mpr index, record, user])]
  cases allocated <;> exact ⟨rfl, rfl⟩

/-- A session the accept loop has initialised is the one the workers start
with. -/
theorem toIocpSession_init
    (garbage : SessionGarbage)
    (now : Int)
    (arguments : IocpArguments)
    (valid : arguments.socket ≠ invalidSocket) :
    (((construct garbage now).init
      ⟨arguments.socket, arguments.nEventModleIndex, true,
        arguments.hasTransPortEngineRecv, arguments.bIsHaveHead, true⟩
      true).1).toIocpSession =
        IocpSession.accepted garbage now arguments := by
  unfold init
  rw [if_neg (by simp [valid])]
  rfl

end IocpObject

end TransPortEngine
