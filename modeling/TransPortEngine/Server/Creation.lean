import Mathlib.Data.List.Basic
import TransPortEngine.Server.Threads

/-!
# Creating a server

`TransPortEngine_CreateServer` opens descriptors, starts threads and constructs
net event modules in four nested functions. A ledger keeps what the call has got
and not given back. A server is returned with nothing missing, or nothing at all
is left, exactly if nothing fails or something fails before there is a socket.
-/

namespace TransPortEngine

/-- What a system call for a new descriptor returns. -/
def newDescriptor : Option Nat → Int
  | none => -1
  | some descriptor => descriptor

/-- What the system calls of `NetEventModleEpoll_Init` return: `pthread_create`
returns an error number, which is zero when the thread runs. -/
structure ModleCalls where
  epollCreate : Option Nat
  workThread : Nat → Nat

/-- What the system calls of `AcceptSession_Init` return. The socket is open when
the later descriptors are returned, so that it is none of them. -/
structure ServerCalls where
  socket : Option Nat
  setsockopt : Bool
  bind : Bool
  listen : Bool
  heartbeatThread : Nat
  modles : Nat → ModleCalls
  acceptEpoll : Option Nat
  epollCtl : Bool
  acceptThread : Nat
  modle_fresh : ∀ descriptor, socket = some descriptor → ∀ i,
    (modles i).epollCreate ≠ some descriptor
  accept_fresh : ∀ descriptor, socket = some descriptor →
    acceptEpoll ≠ some descriptor

/-! ## The ledger -/

/-- What a call of `TransPortEngine_CreateServer` has got: descriptors, listening
sockets, descriptors watched by an epoll instance, threads, and net event
modules. -/
structure Ledger where
  sockets : List Int
  listening : List Int
  epolls : List Int
  watched : List (Int × Int)
  threads : List Thread
  modles : List Nat
  deriving DecidableEq

namespace Ledger

/-- At the beginning of the call. -/
def empty : Ledger :=
  ⟨[], [], [], [], [], []⟩

/-- Neither a descriptor nor a thread nor a module is left. -/
def NothingLeft (ledger : Ledger) : Prop :=
  ledger.sockets = [] ∧ ledger.epolls = [] ∧ ledger.threads = [] ∧
    ledger.modles = []

/-- `socket`. -/
def socket (ledger : Ledger) (result : Option Nat) : Ledger × Int :=
  ({ ledger with
    sockets := ledger.sockets ++ (result.map Nat.cast).toList },
    newDescriptor result)

/-- `setsockopt` and `bind` fail on what is not a socket. -/
def onSocket (ledger : Ledger) (nSocket : Int) (done : Bool) : Int :=
  if nSocket ∈ ledger.sockets ∧ done then 0 else -1

/-- `listen`. -/
def listen (ledger : Ledger) (nSocket : Int) (done : Bool) : Ledger × Int :=
  if ledger.onSocket nSocket done = 0 then
    ({ ledger with listening := ledger.listening ++ [nSocket] }, 0)
  else (ledger, -1)

/-- `epoll_create`. -/
def epollCreate (ledger : Ledger) (result : Option Nat) : Ledger × Int :=
  ({ ledger with
    epolls := ledger.epolls ++ (result.map Nat.cast).toList },
    newDescriptor result)

/-- `epoll_ctl` adds a descriptor. -/
def epollCtlAdd
    (ledger : Ledger)
    (epoll nSocket : Int)
    (done : Bool) : Ledger :=
  if done then { ledger with watched := ledger.watched ++ [(epoll, nSocket)] }
  else ledger

/-- The thread a successful `pthread_create` starts. -/
def started (thread : Thread) (result : Nat) : List Thread :=
  if result = 0 then [thread] else []

/-- `pthread_create`. -/
def pthreadCreate
    (ledger : Ledger)
    (thread : Thread)
    (result : Nat) : Ledger × Int :=
  ({ ledger with threads := ledger.threads ++ started thread result }, result)

end Ledger

/-! ## The net event modules -/

/-- A net event module: its epoll instance, and the thread each thread info is
for. -/
structure NetEventModleEpoll where
  nNetEventModleIndex : Nat
  nHandleDataEpoll : Int
  workThreadInfos : List Thread
  deriving DecidableEq

/-- A net event module before `NetEventModleEpoll_Init`. -/
def NetEventModleEpoll.construct (nNetEventModleIndex : Nat) :
    NetEventModleEpoll :=
  ⟨nNetEventModleIndex, -1, []⟩

/-- The loop of `NetEventModleEpoll_Init`: a thread info is kept unless
`pthread_create` returns something negative. -/
def startWorkThreads
    (workThread : Nat → Nat)
    (ledger : Ledger)
    (modle : NetEventModleEpoll) :
    List Nat → Ledger × NetEventModleEpoll × Int
  | [] => (ledger, modle, 0)
  | number :: numbers =>
      let thread := Thread.worker modle.nNetEventModleIndex number
      let started := ledger.pthreadCreate thread (workThread number)
      if started.2 < 0 then (started.1, modle, -3)
      else
        startWorkThreads workThread started.1
          { modle with workThreadInfos := modle.workThreadInfos ++ [thread] }
          numbers

/-- `NetEventModleEpoll_Init`. -/
def netEventModleEpollInit
    (nNetEventModleThreadCount : Int)
    (calls : ModleCalls)
    (ledger : Ledger)
    (modle : NetEventModleEpoll) : Ledger × NetEventModleEpoll × Int :=
  if nNetEventModleThreadCount = 0 then (ledger, modle, -1)
  else
    let created := ledger.epollCreate calls.epollCreate
    let modle := { modle with nHandleDataEpoll := created.2 }
    if created.2 = 0 then (created.1, modle, -2)
    else
      startWorkThreads calls.workThread created.1 modle
        (List.range nNetEventModleThreadCount.toNat)

/-- The loop of `NetEventModleMgr_Init`, with the modules in the map. -/
def createModles
    (nNetEventModleThreadCount : Int)
    (calls : Nat → ModleCalls)
    (ledger : Ledger)
    (netEventModles : List NetEventModleEpoll) :
    List Nat → Ledger × List NetEventModleEpoll × Int
  | [] => (ledger, netEventModles, 0)
  | i :: indices =>
      let constructed := { ledger with modles := ledger.modles ++ [i] }
      let initialised := netEventModleEpollInit nNetEventModleThreadCount
        (calls i) constructed (.construct i)
      if initialised.2.2 < 0 then (initialised.1, netEventModles, -3)
      else
        createModles nNetEventModleThreadCount calls initialised.1
          (netEventModles ++ [initialised.2.1]) indices

/-- `NetEventModleMgr_Init`. -/
def netEventModleMgrInit
    (nNetEventModleCount nNetEventModleThreadCount : Int)
    (calls : Nat → ModleCalls)
    (ledger : Ledger) : Ledger × List NetEventModleEpoll × Int :=
  if nNetEventModleCount = 0 ∨ nNetEventModleThreadCount = 0 then
    (ledger, [], -1)
  else
    createModles nNetEventModleThreadCount calls ledger []
      (List.range nNetEventModleCount.toNat)

/-! ## The server -/

/-- The descriptors and modules a `CAcceptSession` keeps. -/
structure ServerHandles where
  nSocket : Int
  acceptEpoll : Int
  netEventModles : List NetEventModleEpoll
  deriving DecidableEq

/-- The handles of a new `CAcceptSession`. -/
def ServerHandles.construct : ServerHandles :=
  ⟨0, 0, []⟩

/-- `TcpSessionMgr_Init`. -/
def tcpSessionMgrInit (ledger : Ledger) (result : Nat) : Ledger × Int :=
  let started := ledger.pthreadCreate .heartbeat result
  (started.1, if started.2 < 0 then -2 else 0)

/-- `AcceptSession_Init` from the new session manager on. -/
def acceptSessionStart
    (nEventModleCount nNetEventModleThreadCount : Int)
    (calls : ServerCalls)
    (ledger : Ledger)
    (handles : ServerHandles) : Ledger × ServerHandles × Int :=
  let mgr := tcpSessionMgrInit ledger calls.heartbeatThread
  if mgr.2 < 0 then (mgr.1, handles, -6)
  else
    let modles := netEventModleMgrInit nEventModleCount
      nNetEventModleThreadCount calls.modles mgr.1
    let handles := { handles with netEventModles := modles.2.1 }
    if modles.2.2 < 0 then (modles.1, handles, -8)
    else
      let created := modles.1.epollCreate calls.acceptEpoll
      let handles := { handles with acceptEpoll := created.2 }
      if created.2 < 0 then (created.1, handles, -9)
      else
        let watching := created.1.epollCtlAdd handles.acceptEpoll
          handles.nSocket calls.epollCtl
        let started := watching.pthreadCreate .accept calls.acceptThread
        if started.2 ≠ 0 then (started.1, handles, -10)
        else (started.1, handles, 0)

/-- `AcceptSession_Init`. -/
def acceptSessionInit
    (nListenPort nEventModleCount nNetEventModleThreadCount : Int)
    (calls : ServerCalls) : Ledger × ServerHandles × Int :=
  if nListenPort = 0 ∨ nEventModleCount = 0 then (.empty, .construct, -1)
  else
    let opened := Ledger.empty.socket calls.socket
    let handles := { ServerHandles.construct with nSocket := opened.2 }
    if opened.1.onSocket handles.nSocket calls.setsockopt = -1 then
      (opened.1, handles, -1)
    else if opened.1.onSocket handles.nSocket calls.bind = -1 then
      (opened.1, handles, -3)
    else
      let listening := opened.1.listen handles.nSocket calls.listen
      if listening.2 = -1 then (listening.1, handles, -4)
      else
        acceptSessionStart nEventModleCount nNetEventModleThreadCount calls
          listening.1 handles

/-- `TransPortEngine_CreateServer`: deleting a `CAcceptSession` gives nothing
back. -/
def createServer
    (nListenPort nNetEventModleCount nNetEventModleThreadCount : Int)
    (calls : ServerCalls) : Ledger × Option ServerHandles :=
  let initialised := acceptSessionInit nListenPort nNetEventModleCount
    nNetEventModleThreadCount calls
  if initialised.2.2 < 0 then (initialised.1, none)
  else (initialised.1, some initialised.2.1)

/-- The workers of a module that run. -/
def NetEventModleEpoll.runningWorkers
    (modle : NetEventModleEpoll)
    (ledger : Ledger) : List Thread :=
  modle.workThreadInfos.filter (· ∈ ledger.threads)

/-- A server with all it needs: the accept thread is told about connections, and
every module has its epoll instance and its workers. -/
structure Complete
    (nNetEventModleCount nNetEventModleThreadCount : Int)
    (ledger : Ledger)
    (handles : ServerHandles) : Prop where
  listening : handles.nSocket ∈ ledger.listening
  watched : (handles.acceptEpoll, handles.nSocket) ∈ ledger.watched
  modles : (handles.netEventModles.length : Int) = nNetEventModleCount
  epolls : ∀ modle ∈ handles.netEventModles,
    modle.nHandleDataEpoll ∈ ledger.epolls
  workers : ∀ modle ∈ handles.netEventModles,
    ((modle.runningWorkers ledger).length : Int) = nNetEventModleThreadCount
  accept : Thread.accept ∈ ledger.threads

/-- A complete server, or nothing. -/
def AllOrNothing
    (nNetEventModleCount nNetEventModleThreadCount : Int)
    (created : Ledger × Option ServerHandles) : Prop :=
  match created.2 with
  | some handles => Complete nNetEventModleCount nNetEventModleThreadCount
      created.1 handles
  | none => created.1.NothingLeft

/-- Every system call succeeds, and `epoll_create` for a module does not return
descriptor zero. -/
structure ServerCalls.Succeed
    (calls : ServerCalls)
    (nNetEventModleCount nNetEventModleThreadCount : Int) : Prop where
  modleCount : 0 < nNetEventModleCount
  threadCount : 0 < nNetEventModleThreadCount
  setsockopt : calls.setsockopt = true
  bind : calls.bind = true
  listen : calls.listen = true
  modles : ∀ i < nNetEventModleCount.toNat,
    (calls.modles i).epollCreate ≠ none ∧
      (calls.modles i).epollCreate ≠ some 0
  workers : ∀ i < nNetEventModleCount.toNat,
    ∀ number < nNetEventModleThreadCount.toNat,
      (calls.modles i).workThread number = 0
  acceptEpoll : calls.acceptEpoll ≠ none
  epollCtl : calls.epollCtl = true
  acceptThread : calls.acceptThread = 0

/-! ## What the loops leave -/

namespace ModleCalls

/-- A module as it is initialised. -/
def modle
    (calls : ModleCalls)
    (nNetEventModleThreadCount : Int)
    (i : Nat) : NetEventModleEpoll :=
  ⟨i, newDescriptor calls.epollCreate,
    (List.range nNetEventModleThreadCount.toNat).map (Thread.worker i)⟩

/-- The workers of a module that are started. -/
def workers
    (calls : ModleCalls)
    (nNetEventModleThreadCount : Int)
    (i : Nat) : List Thread :=
  ((List.range nNetEventModleThreadCount.toNat).filter
    fun number => calls.workThread number = 0).map (Thread.worker i)

/-- The epoll instance of a module. -/
def epolls (calls : ModleCalls) : List Int :=
  (calls.epollCreate.map Nat.cast).toList

end ModleCalls

theorem startWorkThreads_eq
    (workThread : Nat → Nat)
    (numbers : List Nat)
    (ledger : Ledger)
    (modle : NetEventModleEpoll) :
    startWorkThreads workThread ledger modle numbers =
      ({ ledger with
          threads := ledger.threads ++
            (numbers.filter fun number => workThread number = 0).map
              (Thread.worker modle.nNetEventModleIndex) },
        { modle with
          workThreadInfos := modle.workThreadInfos ++
            numbers.map (Thread.worker modle.nNetEventModleIndex) }, 0) := by
  induction numbers generalizing ledger modle with
  | nil => simp [startWorkThreads]
  | cons number numbers inductionHypothesis =>
      -- an error number is not negative
      have undetected : ¬(workThread number : Int) < 0 :=
        not_lt.mpr (Int.natCast_nonneg _)
      simp only [startWorkThreads, Ledger.pthreadCreate, if_neg undetected,
        inductionHypothesis]
      by_cases runs : workThread number = 0
      · simp [Ledger.started, runs]
      · simp [Ledger.started, runs]

theorem netEventModleEpollInit_eq
    {nNetEventModleThreadCount : Int}
    {calls : ModleCalls}
    (threads : nNetEventModleThreadCount ≠ 0)
    (nonzero : calls.epollCreate ≠ some 0)
    (ledger : Ledger)
    (i : Nat) :
    netEventModleEpollInit nNetEventModleThreadCount calls ledger
        (.construct i) =
      ({ ledger with
          epolls := ledger.epolls ++ calls.epolls
          threads := ledger.threads ++
            calls.workers nNetEventModleThreadCount i },
        calls.modle nNetEventModleThreadCount i, 0) := by
  have valid : newDescriptor calls.epollCreate ≠ 0 := by
    cases created : calls.epollCreate with
    | none => decide
    | some descriptor =>
        rw [created] at nonzero
        simpa [newDescriptor] using nonzero
  simp only [netEventModleEpollInit, if_neg threads, Ledger.epollCreate,
    if_neg valid, startWorkThreads_eq]
  rfl

/-- The loop over the modules comes to its end when no module gets descriptor
zero. -/
theorem createModles_eq
    {nNetEventModleThreadCount : Int}
    {calls : Nat → ModleCalls}
    {indices : List Nat}
    (threads : nNetEventModleThreadCount ≠ 0)
    (nonzero : ∀ i ∈ indices, (calls i).epollCreate ≠ some 0)
    (ledger : Ledger)
    (netEventModles : List NetEventModleEpoll) :
    createModles nNetEventModleThreadCount calls ledger netEventModles indices =
      ({ ledger with
          epolls := ledger.epolls ++ indices.flatMap fun i => (calls i).epolls
          threads := ledger.threads ++ indices.flatMap fun i =>
            (calls i).workers nNetEventModleThreadCount i
          modles := ledger.modles ++ indices },
        netEventModles ++ indices.map fun i =>
          (calls i).modle nNetEventModleThreadCount i, 0) := by
  induction indices generalizing ledger netEventModles with
  | nil => simp [createModles]
  | cons i indices inductionHypothesis =>
      have first := nonzero i (List.mem_cons_self ..)
      simp only [createModles, netEventModleEpollInit_eq threads first]
      rw [if_neg (lt_irrefl _), inductionHypothesis fun index member =>
        nonzero index (List.mem_cons_of_mem _ member)]
      simp

theorem netEventModleEpollInit_neg
    {nNetEventModleThreadCount : Int}
    {calls : ModleCalls}
    (zero : calls.epollCreate = some 0)
    (ledger : Ledger)
    (modle : NetEventModleEpoll) :
    (netEventModleEpollInit nNetEventModleThreadCount calls ledger
      modle).2.2 < 0 := by
  unfold netEventModleEpollInit
  split
  · simp only [Int.reduceNeg, Int.reduceLT]
  · simp only [Ledger.epollCreate, zero, newDescriptor, Nat.cast_zero, if_true,
      Int.reduceNeg, Int.reduceLT]

/-- A module that gets descriptor zero ends the loop. -/
theorem createModles_neg
    {nNetEventModleThreadCount : Int}
    {calls : Nat → ModleCalls}
    {indices : List Nat}
    {i : Nat}
    (member : i ∈ indices)
    (zero : (calls i).epollCreate = some 0)
    (ledger : Ledger)
    (netEventModles : List NetEventModleEpoll) :
    (createModles nNetEventModleThreadCount calls ledger netEventModles
      indices).2.2 < 0 := by
  induction indices generalizing ledger netEventModles with
  | nil => contradiction
  | cons index indices inductionHypothesis =>
      rw [createModles]
      split
      · simp only [Int.reduceNeg, Int.reduceLT]
      · rename_i initialised
        rcases List.mem_cons.mp member with same | later
        · subst same
          exact absurd (netEventModleEpollInit_neg zero _ _) initialised
        · exact inductionHypothesis later _ _

/-- Starting modules and their workers opens no socket. -/
theorem sockets_createModles
    (nNetEventModleThreadCount : Int)
    (calls : Nat → ModleCalls)
    (indices : List Nat)
    (ledger : Ledger)
    (netEventModles : List NetEventModleEpoll) :
    (createModles nNetEventModleThreadCount calls ledger netEventModles
      indices).1.sockets = ledger.sockets := by
  have initialised : ∀ (modleCalls : ModleCalls) (ledger : Ledger) modle,
      (netEventModleEpollInit nNetEventModleThreadCount modleCalls ledger
        modle).1.sockets = ledger.sockets := by
    intro modleCalls ledger modle
    simp only [netEventModleEpollInit, startWorkThreads_eq]
    split
    · rfl
    · split
      · rfl
      · rfl
  induction indices generalizing ledger netEventModles with
  | nil => rfl
  | cons i indices inductionHypothesis =>
      rw [createModles]
      split
      · exact initialised ..
      · exact (inductionHypothesis ..).trans (initialised ..)

/-! ## All or nothing -/

theorem epollCtlAdd_eq
    (ledger : Ledger)
    (epoll nSocket : Int)
    (done : Bool) :
    ledger.epollCtlAdd epoll nSocket done =
      { ledger with
        watched := ledger.watched ++ if done then [(epoll, nSocket)] else [] } := by
  unfold Ledger.epollCtlAdd
  split
  · rfl
  · rw [List.append_nil]

/-- That the heartbeat thread does not run goes unnoticed. -/
theorem tcpSessionMgrInit_eq
    (ledger : Ledger)
    (result : Nat) :
    tcpSessionMgrInit ledger result =
      ({ ledger with
        threads := ledger.threads ++ Ledger.started .heartbeat result }, 0) := by
  have undetected : ¬(result : Int) < 0 := not_lt.mpr (Int.natCast_nonneg _)
  exact congrArg (Prod.mk _) (if_neg undetected)

section Start

variable {nEventModleCount nNetEventModleThreadCount : Int}
  {calls : ServerCalls}

/-- Behind `listen`, no socket is opened or closed. -/
theorem sockets_acceptSessionStart
    (ledger : Ledger)
    (handles : ServerHandles) :
    (acceptSessionStart nEventModleCount nNetEventModleThreadCount calls ledger
      handles).1.sockets = ledger.sockets := by
  have modles : ∀ ledger : Ledger, (netEventModleMgrInit nEventModleCount
      nNetEventModleThreadCount calls.modles ledger).1.sockets =
        ledger.sockets := by
    intro ledger
    unfold netEventModleMgrInit
    split
    · rfl
    · exact sockets_createModles ..
  simp only [acceptSessionStart, tcpSessionMgrInit_eq, Ledger.pthreadCreate,
    Ledger.epollCreate, lt_irrefl, if_false]
  split
  · exact modles _
  · split
    · exact modles _
    · rw [epollCtlAdd_eq]
      split
      · exact modles _
      · exact modles _

/-- A call that has got a socket has not given it back. -/
theorem sockets_createServer
    {nListenPort : Int}
    (port : nListenPort ≠ 0)
    (modleCount : nEventModleCount ≠ 0) :
    (createServer nListenPort nEventModleCount nNetEventModleThreadCount
      calls).1.sockets = (calls.socket.map Nat.cast).toList := by
  have initialised : (acceptSessionInit nListenPort nEventModleCount
      nNetEventModleThreadCount calls).1.sockets =
        (calls.socket.map Nat.cast).toList := by
    simp only [acceptSessionInit, if_neg (not_or.mpr ⟨port, modleCount⟩)]
    split
    · rfl
    · split
      · rfl
      · unfold Ledger.listen
        split
        · simp only [Int.reduceNeg, Int.reduceEq, if_false,
            sockets_acceptSessionStart]
          rfl
        · simp only [if_true]
          rfl
  unfold createServer
  dsimp only
  split
  · exact initialised
  · exact initialised

/-- `AcceptSession_Init` notices no failure behind `listen`. -/
structure ServerCalls.Unnoticed
    (calls : ServerCalls)
    (nEventModleCount nNetEventModleThreadCount : Int) : Prop where
  modleCount : nEventModleCount ≠ 0
  threadCount : nNetEventModleThreadCount ≠ 0
  modles : ∀ i < nEventModleCount.toNat,
    (calls.modles i).epollCreate ≠ some 0
  acceptEpoll : calls.acceptEpoll ≠ none
  acceptThread : calls.acceptThread = 0

/-- What there is when `AcceptSession_Init` returns zero. -/
def ServerCalls.ledger
    (calls : ServerCalls)
    (nEventModleCount nNetEventModleThreadCount : Int)
    (ledger : Ledger)
    (handles : ServerHandles) : Ledger :=
  let indices := List.range nEventModleCount.toNat
  let ledger := ledger.epollCtlAdd (newDescriptor calls.acceptEpoll)
    handles.nSocket calls.epollCtl
  { ledger with
    epolls := ledger.epolls ++ indices.flatMap (fun i =>
        (calls.modles i).epolls) ++
      (calls.acceptEpoll.map Nat.cast).toList
    threads := ledger.threads ++
        Ledger.started .heartbeat calls.heartbeatThread ++
      indices.flatMap (fun i =>
        (calls.modles i).workers nNetEventModleThreadCount i) ++ [.accept]
    modles := ledger.modles ++ indices }

/-- The handles then. -/
def ServerCalls.handles
    (calls : ServerCalls)
    (nEventModleCount nNetEventModleThreadCount nSocket : Int) :
    ServerHandles :=
  ⟨nSocket, newDescriptor calls.acceptEpoll,
    (List.range nEventModleCount.toNat).map fun i =>
      (calls.modles i).modle nNetEventModleThreadCount i⟩

theorem acceptSessionStart_eq
    (unnoticed : calls.Unnoticed nEventModleCount nNetEventModleThreadCount)
    (ledger : Ledger)
    (handles : ServerHandles) :
    acceptSessionStart nEventModleCount nNetEventModleThreadCount calls ledger
        handles =
      (calls.ledger nEventModleCount nNetEventModleThreadCount ledger handles,
        calls.handles nEventModleCount nNetEventModleThreadCount
          handles.nSocket, 0) := by
  have counts := not_or.mpr ⟨unnoticed.modleCount, unnoticed.threadCount⟩
  have created : ¬newDescriptor calls.acceptEpoll < 0 := by
    cases result : calls.acceptEpoll with
    | none => exact absurd result unnoticed.acceptEpoll
    | some descriptor => exact not_lt.mpr (Int.natCast_nonneg descriptor)
  have nonzero : ∀ i ∈ List.range nEventModleCount.toNat,
      (calls.modles i).epollCreate ≠ some 0 :=
    fun i member => unnoticed.modles i (List.mem_range.mp member)
  simp only [acceptSessionStart, tcpSessionMgrInit_eq, lt_irrefl, if_false,
    netEventModleMgrInit, if_neg counts,
    createModles_eq unnoticed.threadCount nonzero, Ledger.epollCreate,
    if_neg created, Ledger.pthreadCreate, unnoticed.acceptThread, Nat.cast_zero,
    ne_eq, not_true_eq_false, epollCtlAdd_eq, ServerCalls.ledger,
    ServerCalls.handles, List.nil_append]
  rfl

theorem acceptSessionStart_neg
    (modleCount : nEventModleCount ≠ 0)
    (noticed : ¬calls.Unnoticed nEventModleCount nNetEventModleThreadCount)
    (ledger : Ledger)
    (handles : ServerHandles) :
    (acceptSessionStart nEventModleCount nNetEventModleThreadCount calls ledger
      handles).2.2 < 0 := by
  simp only [acceptSessionStart, tcpSessionMgrInit_eq, lt_irrefl, if_false]
  split
  · simp only [Int.reduceNeg, Int.reduceLT]
  · rename_i modles
    simp only [netEventModleMgrInit] at modles
    split at modles
    · simp at modles
    · rename_i counts
      split
      · simp only [Int.reduceNeg, Int.reduceLT]
      · rename_i created
        split
        · simp only [Int.reduceNeg, Int.reduceLT]
        · rename_i started
          refine absurd ?_ noticed
          refine ⟨modleCount, (not_or.mp counts).2, ?_, ?_, ?_⟩
          · intro i below zero
            exact modles (createModles_neg (List.mem_range.mpr below) zero _ _)
          · intro failed
            rw [Ledger.epollCreate, failed] at created
            exact created (Int.negSucc_lt_zero 0)
          · simpa [Ledger.pthreadCreate] using started

/-- The workers of a module run when `pthread_create` returns zero for them. -/
theorem worker_mem_ledger
    {ledger : Ledger}
    {handles : ServerHandles}
    (noThreads : ledger.threads = [])
    (i number : Nat) :
    Thread.worker i number ∈ (calls.ledger nEventModleCount
        nNetEventModleThreadCount ledger handles).threads ↔
      i < nEventModleCount.toNat ∧ number < nNetEventModleThreadCount.toNat ∧
        (calls.modles i).workThread number = 0 := by
  have heartbeat : Thread.worker i number ∉
      Ledger.started .heartbeat calls.heartbeatThread := by
    unfold Ledger.started
    split
    · simp
    · simp
  simp only [ServerCalls.ledger, epollCtlAdd_eq, noThreads, List.nil_append,
    List.mem_append, heartbeat, false_or, List.mem_flatMap, List.mem_range,
    ModleCalls.workers, List.mem_map, List.mem_filter, decide_eq_true_eq,
    Thread.worker.injEq, List.mem_singleton, reduceCtorEq, or_false]
  constructor
  · rintro ⟨index, below, other, ⟨started, runs⟩, rfl, rfl⟩
    exact ⟨below, started, runs⟩
  · rintro ⟨below, started, runs⟩
    exact ⟨i, below, number, ⟨started, runs⟩, rfl, rfl⟩

/-- All workers of a module run. -/
theorem length_runningWorkers_iff
    (modleCalls : ModleCalls)
    (i : Nat)
    (ledger : Ledger) :
    ((modleCalls.modle nNetEventModleThreadCount i).runningWorkers
        ledger).length = nNetEventModleThreadCount.toNat ↔
      ∀ number < nNetEventModleThreadCount.toNat,
        Thread.worker i number ∈ ledger.threads := by
  have infos : (modleCalls.modle nNetEventModleThreadCount i).workThreadInfos =
      (List.range nNetEventModleThreadCount.toNat).map (Thread.worker i) := rfl
  have length : ((List.range nNetEventModleThreadCount.toNat).map
      (Thread.worker i)).length = nNetEventModleThreadCount.toNat := by simp
  rw [NetEventModleEpoll.runningWorkers, infos]
  conv_lhs => rhs; rw [← length]
  rw [List.length_filter_eq_length_iff]
  simp

/-- A descriptor is valid when `epoll_create` has returned one. -/
theorem newDescriptor_mem_epolls
    {ledger : Ledger}
    {handles : ServerHandles}
    {i : Nat}
    (noEpolls : ledger.epolls = [])
    (below : i < nEventModleCount.toNat) :
    newDescriptor (calls.modles i).epollCreate ∈ (calls.ledger nEventModleCount
        nNetEventModleThreadCount ledger handles).epolls ↔
      (calls.modles i).epollCreate ≠ none := by
  simp only [ServerCalls.ledger, epollCtlAdd_eq, noEpolls, List.nil_append]
  cases created : (calls.modles i).epollCreate with
  | none =>
      simp [newDescriptor, ModleCalls.epolls]
  | some descriptor =>
      simp only [ne_eq, reduceCtorEq, not_false_eq_true, iff_true]
      refine List.mem_append_left _ (List.mem_flatMap.mpr
        ⟨i, List.mem_range.mpr below, ?_⟩)
      rw [ModleCalls.epolls, created]
      exact List.mem_singleton_self _

/-- A server behind which no failure was noticed is complete when there was
none. -/
theorem complete_iff
    {ledger : Ledger}
    {handles : ServerHandles}
    (unnoticed : calls.Unnoticed nEventModleCount nNetEventModleThreadCount)
    (noThreads : ledger.threads = [])
    (noEpolls : ledger.epolls = [])
    (notWatched : ledger.watched = [])
    (listening : handles.nSocket ∈ ledger.listening)
    (setsockopt : calls.setsockopt = true)
    (bind : calls.bind = true)
    (listen : calls.listen = true) :
    Complete nEventModleCount nNetEventModleThreadCount
        (calls.ledger nEventModleCount nNetEventModleThreadCount ledger handles)
        (calls.handles nEventModleCount nNetEventModleThreadCount
          handles.nSocket) ↔
      calls.Succeed nEventModleCount nNetEventModleThreadCount := by
  have members : ∀ {property : NetEventModleEpoll → Prop},
      (∀ modle ∈ (calls.handles nEventModleCount nNetEventModleThreadCount
        handles.nSocket).netEventModles, property modle) ↔
        ∀ i < nEventModleCount.toNat,
          property ((calls.modles i).modle nNetEventModleThreadCount i) := by
    intro property
    simp [ServerCalls.handles]
  have acceptRuns : Thread.accept ∈ (calls.ledger nEventModleCount
      nNetEventModleThreadCount ledger handles).threads :=
    List.mem_append_right _ (List.mem_singleton_self _)
  constructor
  · intro complete
    have count : (nEventModleCount.toNat : Int) = nEventModleCount := by
      simpa [ServerCalls.handles] using complete.modles
    have modleCount : 0 < nEventModleCount := by
      have := unnoticed.modleCount
      omega
    have workers := members.mp complete.workers
    have threads : (nNetEventModleThreadCount.toNat : Int) =
        nNetEventModleThreadCount := by
      have first := workers 0 (by omega)
      omega
    refine ⟨modleCount, ?_, setsockopt, bind, listen, ?_, ?_,
      unnoticed.acceptEpoll, ?_, unnoticed.acceptThread⟩
    · have := unnoticed.threadCount
      omega
    · intro i below
      exact ⟨(newDescriptor_mem_epolls noEpolls below).mp
        (members.mp complete.epolls i below), unnoticed.modles i below⟩
    · intro i below number started
      have all := workers i below
      rw [← threads, Nat.cast_inj] at all
      have runs := (length_runningWorkers_iff _ _ _).mp all number started
      exact ((worker_mem_ledger noThreads i number).mp runs).2.2
    · have watched := complete.watched
      simp only [ServerCalls.ledger, epollCtlAdd_eq, notWatched] at watched
      by_contra failed
      simp [failed] at watched
  · intro succeed
    have counts := succeed.modleCount
    have threads := succeed.threadCount
    refine ⟨?_, ?_, ?_, members.mpr ?_, members.mpr ?_, acceptRuns⟩
    · simpa only [ServerCalls.ledger, epollCtlAdd_eq, ServerCalls.handles]
        using listening
    · simp [ServerCalls.ledger, epollCtlAdd_eq, ServerCalls.handles,
        succeed.epollCtl]
    · simp only [ServerCalls.handles, List.length_map, List.length_range]
      omega
    · intro i below
      exact (newDescriptor_mem_epolls noEpolls below).mpr
        (succeed.modles i below).1
    · intro i below
      rw [(length_runningWorkers_iff _ _ _).mpr]
      · omega
      · intro number started
        exact (worker_mem_ledger noThreads i number).mpr
          ⟨below, started, succeed.workers i below number started⟩

end Start

/-! ## The whole call -/

section Create

variable {nListenPort nNetEventModleCount nNetEventModleThreadCount : Int}
  {calls : ServerCalls}

/-- Without a socket, `AcceptSession_Init` fails with nothing. -/
theorem acceptSessionInit_noSocket
    (nNetEventModleThreadCount : Int)
    (nothing : nListenPort = 0 ∨ nNetEventModleCount = 0 ∨
      calls.socket = none) :
    (acceptSessionInit nListenPort nNetEventModleCount
        nNetEventModleThreadCount calls).1 = .empty ∧
      (acceptSessionInit nListenPort nNetEventModleCount
        nNetEventModleThreadCount calls).2.2 < 0 := by
  by_cases arguments : nListenPort = 0 ∨ nNetEventModleCount = 0
  · rw [acceptSessionInit, if_pos arguments]
    exact ⟨rfl, Int.negSucc_lt_zero 0⟩
  · have noSocket : calls.socket = none := by
      rw [← or_assoc] at nothing
      exact nothing.resolve_left arguments
    rw [acceptSessionInit, if_neg arguments, noSocket]
    exact ⟨rfl, Int.negSucc_lt_zero 0⟩

theorem allOrNothing_noSocket
    (nothing : nListenPort = 0 ∨ nNetEventModleCount = 0 ∨
      calls.socket = none) :
    AllOrNothing nNetEventModleCount nNetEventModleThreadCount
      (createServer nListenPort nNetEventModleCount nNetEventModleThreadCount
        calls) := by
  obtain ⟨isEmpty, failed⟩ :=
    acceptSessionInit_noSocket nNetEventModleThreadCount nothing
  rw [createServer, if_pos failed, isEmpty]
  exact ⟨rfl, rfl, rfl, rfl⟩

/-- A failure behind `socket` leaves the socket. -/
theorem not_allOrNothing_of_neg
    {descriptor : Nat}
    (port : nListenPort ≠ 0)
    (modleCount : nNetEventModleCount ≠ 0)
    (socket : calls.socket = some descriptor)
    (failed : (acceptSessionInit nListenPort nNetEventModleCount
      nNetEventModleThreadCount calls).2.2 < 0) :
    ¬AllOrNothing nNetEventModleCount nNetEventModleThreadCount
      (createServer nListenPort nNetEventModleCount nNetEventModleThreadCount
        calls) := by
  intro allOrNothing
  have sockets : (createServer nListenPort nNetEventModleCount
      nNetEventModleThreadCount calls).1.sockets =
        (calls.socket.map Nat.cast).toList :=
    sockets_createServer port modleCount
  rw [createServer, if_pos failed] at allOrNothing sockets
  rw [allOrNothing.1, socket] at sockets
  contradiction

theorem ServerCalls.Succeed.unnoticed
    (succeed : calls.Succeed nNetEventModleCount nNetEventModleThreadCount) :
    calls.Unnoticed nNetEventModleCount nNetEventModleThreadCount :=
  ⟨succeed.modleCount.ne', succeed.threadCount.ne',
    fun i below => (succeed.modles i below).2, succeed.acceptEpoll,
    succeed.acceptThread⟩

/-- With a socket, `AcceptSession_Init` comes to the session manager when the
three calls on the socket succeed. -/
theorem acceptSessionInit_eq
    {descriptor : Nat}
    (port : nListenPort ≠ 0)
    (modleCount : nNetEventModleCount ≠ 0)
    (socket : calls.socket = some descriptor)
    (setsockopt : calls.setsockopt = true)
    (bind : calls.bind = true)
    (listen : calls.listen = true) :
    acceptSessionInit nListenPort nNetEventModleCount nNetEventModleThreadCount
        calls =
      acceptSessionStart nNetEventModleCount nNetEventModleThreadCount calls
        ⟨[(descriptor : Int)], [(descriptor : Int)], [], [], [], []⟩
        ⟨descriptor, 0, []⟩ := by
  simp [acceptSessionInit, not_or.mpr ⟨port, modleCount⟩, Ledger.socket,
    Ledger.onSocket, Ledger.listen, Ledger.empty, ServerHandles.construct,
    newDescriptor, socket, setsockopt, bind, listen]

theorem done_of_onSocket
    {ledger : Ledger}
    {nSocket : Int}
    {done : Bool}
    (result : ledger.onSocket nSocket done ≠ -1) :
    done = true := by
  unfold Ledger.onSocket at result
  split at result
  · rename_i isDone
    exact isDone.2
  · exact absurd rfl result

/-- The failure of one of the three calls is noticed. -/
theorem acceptSessionInit_neg
    (port : nListenPort ≠ 0)
    (modleCount : nNetEventModleCount ≠ 0)
    (failed : ¬(calls.setsockopt = true ∧ calls.bind = true ∧
      calls.listen = true)) :
    (acceptSessionInit nListenPort nNetEventModleCount nNetEventModleThreadCount
      calls).2.2 < 0 := by
  simp only [acceptSessionInit, if_neg (not_or.mpr ⟨port, modleCount⟩)]
  split
  · simp only [Int.reduceNeg, Int.reduceLT]
  · rename_i setsockopt
    split
    · simp only [Int.reduceNeg, Int.reduceLT]
    · rename_i bind
      split
      · simp only [Int.reduceNeg, Int.reduceLT]
      · rename_i listen
        refine absurd ⟨?_, ?_, ?_⟩ failed
        · exact done_of_onSocket setsockopt
        · exact done_of_onSocket bind
        · unfold Ledger.listen at listen
          split at listen
          · rename_i listens
            have accepted : (0 : Int) ≠ -1 := by decide
            exact done_of_onSocket (listens.trans_ne accepted)
          · exact absurd rfl listen

/-- What there is when a server is returned. -/
theorem createServer_some
    {ledger : Ledger}
    {handles : ServerHandles}
    (modleCount : nNetEventModleCount ≠ 0)
    (created : createServer nListenPort nNetEventModleCount
      nNetEventModleThreadCount calls = (ledger, some handles)) :
    ∃ descriptor : Nat, calls.socket = some descriptor ∧
      ledger = calls.ledger nNetEventModleCount nNetEventModleThreadCount
        ⟨[(descriptor : Int)], [(descriptor : Int)], [], [], [], []⟩
        ⟨descriptor, 0, []⟩ ∧
      handles = calls.handles nNetEventModleCount nNetEventModleThreadCount
        descriptor := by
  have succeeded : ¬(acceptSessionInit nListenPort nNetEventModleCount
      nNetEventModleThreadCount calls).2.2 < 0 := by
    intro failed
    rw [createServer, if_pos failed] at created
    have returned := (Prod.mk.inj created).2
    contradiction
  have hasSocket : ¬(nListenPort = 0 ∨ nNetEventModleCount = 0 ∨
      calls.socket = none) := by
    intro nothing
    have failed := acceptSessionInit_noSocket
      nNetEventModleThreadCount nothing
    exact succeeded failed.2
  obtain ⟨port, rest⟩ := not_or.mp hasSocket
  obtain ⟨descriptor, socket⟩ :=
    Option.ne_none_iff_exists'.mp (not_or.mp rest).2
  have done : calls.setsockopt = true ∧ calls.bind = true ∧
      calls.listen = true := by
    by_contra failed
    exact succeeded (acceptSessionInit_neg port modleCount failed)
  have start : acceptSessionInit nListenPort nNetEventModleCount
      nNetEventModleThreadCount calls = _ :=
    acceptSessionInit_eq port modleCount socket done.1 done.2.1 done.2.2
  have unnoticed :
      calls.Unnoticed nNetEventModleCount nNetEventModleThreadCount := by
    by_contra noticed
    rw [start] at succeeded
    exact succeeded (acceptSessionStart_neg modleCount noticed _ _)
  rw [createServer, start, acceptSessionStart_eq unnoticed] at created
  obtain ⟨isLedger, isHandles⟩ := Prod.mk.inj created
  exact ⟨descriptor, socket, isLedger.symm, (Option.some.inj isHandles).symm⟩

/-- With a socket, the call is all or nothing when everything succeeds. -/
theorem allOrNothing_socket
    {descriptor : Nat}
    (port : nListenPort ≠ 0)
    (modleCount : nNetEventModleCount ≠ 0)
    (socket : calls.socket = some descriptor) :
    AllOrNothing nNetEventModleCount nNetEventModleThreadCount
        (createServer nListenPort nNetEventModleCount nNetEventModleThreadCount
          calls) ↔
      calls.Succeed nNetEventModleCount nNetEventModleThreadCount := by
  by_cases done : calls.setsockopt = true ∧ calls.bind = true ∧
      calls.listen = true
  · obtain ⟨setsockopt, bind, listen⟩ := done
    have start : acceptSessionInit nListenPort nNetEventModleCount
        nNetEventModleThreadCount calls = _ :=
      acceptSessionInit_eq port modleCount socket setsockopt bind listen
    by_cases unnoticed :
        calls.Unnoticed nNetEventModleCount nNetEventModleThreadCount
    · rw [createServer, start, acceptSessionStart_eq unnoticed]
      exact complete_iff unnoticed rfl rfl rfl (List.mem_singleton_self _)
        setsockopt bind listen
    · have failed := acceptSessionStart_neg modleCount unnoticed
        ⟨[(descriptor : Int)], [(descriptor : Int)], [], [], [], []⟩
        ⟨descriptor, 0, []⟩
      rw [← start] at failed
      exact iff_of_false
        (not_allOrNothing_of_neg port modleCount socket failed)
        fun succeed => unnoticed succeed.unnoticed
  · refine iff_of_false ?_ fun succeed =>
      done ⟨succeed.setsockopt, succeed.bind, succeed.listen⟩
    exact not_allOrNothing_of_neg port modleCount socket
      (acceptSessionInit_neg port modleCount done)

end Create

/-- `TransPortEngine_CreateServer` is all or nothing exactly if it gets no
socket, or everything succeeds. -/
theorem createServer_allOrNothing_iff
    (nListenPort nNetEventModleCount nNetEventModleThreadCount : Int)
    (calls : ServerCalls) :
    AllOrNothing nNetEventModleCount nNetEventModleThreadCount
        (createServer nListenPort nNetEventModleCount nNetEventModleThreadCount
          calls) ↔
      nListenPort = 0 ∨ nNetEventModleCount = 0 ∨ calls.socket = none ∨
        calls.Succeed nNetEventModleCount nNetEventModleThreadCount := by
  by_cases nothing : nListenPort = 0 ∨ nNetEventModleCount = 0 ∨
      calls.socket = none
  · apply iff_of_true (allOrNothing_noSocket nothing)
    rcases nothing with port | modleCount | noSocket
    · exact Or.inl port
    · exact Or.inr (Or.inl modleCount)
    · exact Or.inr (Or.inr (Or.inl noSocket))
  · obtain ⟨port, rest⟩ := not_or.mp nothing
    obtain ⟨modleCount, hasSocket⟩ := not_or.mp rest
    obtain ⟨descriptor, socket⟩ := Option.ne_none_iff_exists'.mp hasSocket
    rw [allOrNothing_socket port modleCount socket]
    simp only [port, modleCount, hasSocket, false_or]

/-- The system calls up to a `bind` that fails because the port is in use. -/
def portInUse : ServerCalls where
  socket := some 3
  setsockopt := true
  bind := false
  listen := false
  heartbeatThread := 0
  modles _ := ⟨none, fun _ => 0⟩
  acceptEpoll := none
  epollCtl := false
  acceptThread := 0
  modle_fresh := nofun
  accept_fresh := nofun

/-- No server is returned, and its socket is left. -/
theorem not_allOrNothing_portInUse :
    ¬∀ (nListenPort nNetEventModleCount nNetEventModleThreadCount : Int)
        (calls : ServerCalls),
      AllOrNothing nNetEventModleCount nNetEventModleThreadCount
        (createServer nListenPort nNetEventModleCount nNetEventModleThreadCount
          calls) := by
  intro always
  have noSockets := (always 9000 1 1 portInUse).1
  contradiction

end TransPortEngine
