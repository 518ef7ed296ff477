import TransPortEngine.NetEventModleIocp.HandleData

/-!
# Overlapped sends

`m_PerIoContextSends` as a vector of pointers, and the senders and workers that
share it. `TcpSession_IOSend(const char*, const int)` posts a send before it puts
the context into the vector. The kernel knows a send by the address of its
context; `TcpSession_IOSend(int)` looks for the number that context carries.
-/

namespace TransPortEngine

open MachineInt Transition

namespace PerIoContextSend

/-- The part of the buffer `wsaBuf` denotes. -/
def wsaBuf (context : PerIoContextSend) : List UInt8 :=
  (context.szBuffer.drop context.wsaBufOffset).take context.wsaBufLen

/-- `wsaBuf` is moved behind what has been sent. -/
def advance (context : PerIoContextSend) : PerIoContextSend :=
  { context with
    wsaBufOffset := context.wsaBufOffset + context.dwSendLen
    wsaBufLen := context.wsaBufLen - context.dwSendLen
    dwSendLen := 0 }

/-- The context once the worker has stored the length of a completion. -/
def sent (context : PerIoContextSend) (dwBytesTransfered : Nat) :
    PerIoContextSend :=
  { context with dwSendLen := dwBytesTransfered }

end PerIoContextSend

/-- The members the sends of a session use: the contexts by address, the vector
of pointers, and the addresses given back. -/
structure SendContexts where
  socket : Int
  bIsToBeClose : Bool
  nSquence : Int
  memory : Nat → PerIoContextSend
  allocated : Nat
  perIoContextSends : List Nat
  freed : List Nat

namespace SendContexts

/-- Store a context. -/
def store
    (contexts : SendContexts)
    (address : Nat)
    (context : PerIoContextSend) : SendContexts :=
  { contexts with memory := Function.update contexts.memory address context }

/-- `delete` of a context and `erase` of the pointer to it. -/
def remove (contexts : SendContexts) (address : Nat) : SendContexts :=
  { contexts with
    perIoContextSends := contexts.perIoContextSends.erase address
    freed := contexts.freed ++ [address] }

/-- The first pointer to a context with a sequence number. -/
def findSquence (contexts : SendContexts) (nSquence : Int) : Option Nat :=
  contexts.perIoContextSends.find? fun address =>
    (contexts.memory address).nSquence = nSquence

/-- `TcpSession_IOSend(const char*, const int)` up to `WSASend`, for a session
that is not to be closed. A context that could not be posted is deleted. The
increment of `m_nSquence` is part of the step, although the source makes it without
a lock: two sends at a time could get one number. -/
def startSend
    (contexts : SendContexts)
    (szData : List UInt8)
    (nDataLen : Int)
    (posted : Bool) : SendContexts × List EngineEvent × Int :=
  let nSquence := signed32 (contexts.nSquence + 1)
  let szBuffer := szData.take nDataLen.toNat
  let address := contexts.allocated
  let contexts := { contexts.store address
      ⟨szBuffer, 0, nDataLen.toNat, 0, nSquence⟩ with
    nSquence := nSquence
    allocated := contexts.allocated + 1 }
  let event := EngineEvent.wsaSend contexts.socket szBuffer posted
  if posted then (contexts, [event], 0)
  else ({ contexts with freed := contexts.freed ++ [address] }, [event], -2)

/-- The end of `TcpSession_IOSend(const char*, const int)`. -/
def pushBack
    (contexts : SendContexts)
    (address : Nat) : SendContexts × List EngineEvent :=
  ({ contexts with
      perIoContextSends := contexts.perIoContextSends ++ [address] },
    [.lock .perIoContextSendLock, .unlock .perIoContextSendLock])

/-- Events inside a scope that holds `m_PerIoContextSendLock`. -/
def sendsLocked (events : List EngineEvent) : List EngineEvent :=
  [.lock .perIoContextSendLock] ++ events ++ [.unlock .perIoContextSendLock]

/-- `TcpSession_IOSend(int)` for the context it has found. -/
def ioSendFound
    (contexts : SendContexts)
    (address : Nat)
    (posted : Bool) : SendContexts × List EngineEvent × Int :=
  let context := contexts.memory address
  if context.dwSendLen = context.wsaBufLen then
    (contexts.remove address, sendsLocked [], 0)
  else if context.wsaBufLen < context.dwSendLen then
    (contexts.remove address, sendsLocked [], -2)
  else
    let contexts := contexts.store address context.advance
    if contexts.bIsToBeClose then (contexts, sendsLocked [], 0)
    else
      (contexts,
        sendsLocked [.wsaSend contexts.socket context.advance.wsaBuf posted],
        if posted then 0 else -3)

/-- `TcpSession_IOSend(int)`. -/
def ioSendNext
    (contexts : SendContexts)
    (nSquence : Int)
    (posted : Bool) : SendContexts × List EngineEvent × Int :=
  match contexts.findSquence nSquence with
  | none => (contexts, sendsLocked [], 0)
  | some address => contexts.ioSendFound address posted

/-- The session whose contexts are those the pointers denote. -/
def view (contexts : SendContexts) (session : IocpSession) : IocpSession :=
  { session with
    socket := contexts.socket
    bIsToBeClose := contexts.bIsToBeClose
    nSquence := contexts.nSquence
    perIoContextSends := contexts.perIoContextSends.map contexts.memory }

end SendContexts

/-- The buffers given to `WSASend`, and whether they were accepted. -/
def wsaSends (events : List EngineEvent) : List (List UInt8 × Bool) :=
  events.filterMap fun event =>
    match event with
    | .wsaSend _ wsaBuf posted => some (wsaBuf, posted)
    | _ => none

/-- The sends of a session that is in `m_TcpSessions` while it is live. A context
is pending between `WSASend` and `push_back`. Of each context there are the data
of the application, the buffers given to `WSASend`, those of them the kernel has
not completed, the lengths of the completions, and the bytes they carried. -/
structure OverlappedSends where
  contexts : SendContexts
  live : Bool
  pending : List Nat
  szData : Nat → List UInt8
  handed : Nat → List (List UInt8)
  outstanding : Nat → List (List UInt8)
  completions : Nat → List Nat
  carried : Nat → List UInt8

/-- A sender runs up to `WSASend`, or puts its context into the vector, or a
worker handles a completion. -/
inductive SendInput
  | send (szData : List UInt8) (posted : Bool)
  | pushBack (address : Nat)
  | completed (address dwBytesTransfered : Nat) (posted : Bool)

namespace OverlappedSends

/-- Some calls of `WSASend` for a context. -/
def hand
    (sends : OverlappedSends)
    (address : Nat)
    (calls : List (List UInt8 × Bool)) : OverlappedSends :=
  { sends with
    handed := Function.update sends.handed address
      (sends.handed address ++ calls.map Prod.fst)
    outstanding := Function.update sends.outstanding address
      (sends.outstanding address ++ (calls.filter Prod.snd).map Prod.fst) }

/-- The kernel completes the oldest send of a context. -/
def transfer
    (sends : OverlappedSends)
    (address dwBytesTransfered : Nat)
    (buffer : List UInt8)
    (later : List (List UInt8)) : OverlappedSends :=
  { sends with
    outstanding := Function.update sends.outstanding address later
    completions := Function.update sends.completions address
      (sends.completions address ++ [dwBytesTransfered])
    carried := Function.update sends.carried address
      (sends.carried address ++ buffer.take dwBytesTransfered) }

/-- The case `IO_SEND` of `NetEventModleIOCP_HandleData`: the length is stored
in the context of the completion. A negative result removes the session. -/
def handleSent
    (sends : OverlappedSends)
    (address dwBytesTransfered : Nat)
    (posted : Bool) : OverlappedSends :=
  let contexts := sends.contexts.store address
    ((sends.contexts.memory address).sent dwBytesTransfered)
  let nSquence := (sends.contexts.memory address).nSquence
  let call := contexts.ioSendNext nSquence posted
  let sends := { sends with
    contexts := call.1
    live := !decide (call.2.2 < 0) }
  match contexts.findSquence nSquence with
  | none => sends
  | some found => sends.hand found (wsaSends call.2.1)

/-- A step of a live session. A completion carries at least one byte and no more
than the buffer it is for. The contexts the pointers lead to are those of a session
whose functions are called one after the other: `ioSend_view` says so of
`TcpSession_IOSend(const char*, const int)`, `ioSendNext_view` of
`TcpSession_IOSend(int)`. -/
def step (sends : OverlappedSends) : SendInput → Option OverlappedSends
  | .send szData posted =>
      if sends.live = false ∨ szData = [] then none
      else if sends.contexts.bIsToBeClose then some sends
      else
        let address := sends.contexts.allocated
        let started := sends.contexts.startSend szData szData.length posted
        let sends := { sends with
          contexts := started.1
          pending := if posted then sends.pending ++ [address]
            else sends.pending
          szData := Function.update sends.szData address
            (if posted then szData else []) }
        some (sends.hand address (wsaSends started.2.1))
  | .pushBack address =>
      if sends.live = true ∧ address ∈ sends.pending then
        some { sends with
          contexts := (sends.contexts.pushBack address).1
          pending := sends.pending.erase address }
      else none
  | .completed address dwBytesTransfered posted =>
      match sends.outstanding address with
      | [] => none
      | buffer :: later =>
          if sends.live = true ∧ 0 < dwBytesTransfered ∧
              dwBytesTransfered ≤ buffer.length then
            some ((sends.transfer address dwBytesTransfered buffer
              later).handleSent address dwBytesTransfered posted)
          else none

/-- A session that has just been accepted, in a memory of arbitrary content. -/
def accepted (memory : Nat → PerIoContextSend) (socket : Int) :
    OverlappedSends where
  contexts := ⟨socket, false, 0, memory, 0, [], []⟩
  live := true
  pending := []
  szData _ := []
  handed _ := []
  outstanding _ := []
  completions _ := []
  carried _ := []

end OverlappedSends

/-! ## The contexts behind the pointers -/

namespace SendContexts

variable {contexts : SendContexts}

/-- A context that is not in the vector may change. -/
theorem map_update
    {memory : Nat → PerIoContextSend}
    {pointers : List Nat}
    {address : Nat}
    (absent : address ∉ pointers)
    (context : PerIoContextSend) :
    pointers.map (Function.update memory address context) =
      pointers.map memory := by
  refine List.map_congr_left fun other member => ?_
  have different : other ≠ address := by
    rintro rfl
    exact absent member
  exact Function.update_of_ne different context memory

/-- Dropping the first context with a number drops the pointer to it. -/
theorem replaceSend_none
    {memory : Nat → PerIoContextSend}
    {pointers : List Nat}
    {nSquence : Int}
    {address : Nat}
    (found : pointers.find? (fun address =>
      (memory address).nSquence = nSquence) = some address) :
    IocpSession.replaceSend nSquence none (pointers.map memory) =
      (pointers.erase address).map memory := by
  induction pointers with
  | nil => contradiction
  | cons first pointers inductionHypothesis =>
      rw [List.map_cons, IocpSession.replaceSend]
      by_cases isFirst : (memory first).nSquence = nSquence
      · simp only [List.find?_cons, isFirst, decide_true, Option.some.injEq]
          at found
        rw [if_pos isFirst, ← found, List.erase_cons_head]
        rfl
      · simp only [List.find?_cons, isFirst, decide_false] at found
        have other : first ≠ address := by
          rintro rfl
          exact isFirst (by simpa using List.find?_some found)
        rw [if_neg isFirst, inductionHypothesis found,
          List.erase_cons_tail (by simpa using other), List.map_cons]

/-- Replacing the first context with a number stores behind the pointer to
it. -/
theorem replaceSend_some
    {memory : Nat → PerIoContextSend}
    {pointers : List Nat}
    {nSquence : Int}
    {address : Nat}
    (found : pointers.find? (fun address =>
      (memory address).nSquence = nSquence) = some address)
    (distinct : pointers.Nodup)
    (next : PerIoContextSend) :
    IocpSession.replaceSend nSquence (some next) (pointers.map memory) =
      pointers.map (Function.update memory address next) := by
  induction pointers with
  | nil => contradiction
  | cons first pointers inductionHypothesis =>
      obtain ⟨absent, distinctLater⟩ := List.nodup_cons.mp distinct
      rw [List.map_cons, IocpSession.replaceSend]
      by_cases isFirst : (memory first).nSquence = nSquence
      · simp only [List.find?_cons, isFirst, decide_true, Option.some.injEq]
          at found
        rw [if_pos isFirst, List.map_cons, ← found, Function.update_self,
          map_update absent]
        rfl
      · simp only [List.find?_cons, isFirst, decide_false] at found
        have other : first ≠ address := by
          rintro rfl
          exact isFirst (by simpa using List.find?_some found)
        rw [if_neg isFirst, inductionHypothesis found distinctLater,
          List.map_cons, Function.update_of_ne other]

/-- `TcpSession_IOSend(int)` on pointers is that on contexts, when the length
has been stored in the context that is found. -/
theorem ioSendNext_view
    (distinct : contexts.perIoContextSends.Nodup)
    {nSquence : Int}
    {dwSendLen : Nat}
    (stored : ∀ address, contexts.findSquence nSquence = some address →
      (contexts.memory address).dwSendLen = dwSendLen)
    (session : IocpSession)
    (posted : Bool) :
    (contexts.view session).ioSendNext nSquence dwSendLen posted =
      ((contexts.ioSendNext nSquence posted).1.view session,
        (contexts.ioSendNext nSquence posted).2) := by
  have search : (contexts.perIoContextSends.map contexts.memory).find?
      (fun context => context.nSquence = nSquence) =
        (contexts.findSquence nSquence).map contexts.memory := by
    rw [List.find?_map]
    rfl
  unfold IocpSession.ioSendNext ioSendNext
  simp only [view, search]
  cases found : contexts.findSquence nSquence with
  | none => rfl
  | some address =>
      have length := stored address found
      have dropped := replaceSend_none found
      have replaced := replaceSend_some found distinct
      simp only [Option.map_some, ioSendFound, length]
      split
      · simp only [dropped, remove]
        rfl
      · split
        · simp only [dropped, remove]
          rfl
        · simp only [replaced, PerIoContextSend.advance, length, store]
          split <;> rfl

/-- The two steps of a sender, one right after the other, are
`TcpSession_IOSend(const char*, const int)`. -/
theorem ioSend_view
    (fresh : contexts.allocated ∉ contexts.perIoContextSends)
    (remains : contexts.bIsToBeClose = false)
    {nDataLen : Int}
    (positive : 0 < nDataLen)
    (session : IocpSession)
    (szData : List UInt8) :
    let started := contexts.startSend szData nDataLen true
    let pushed := started.1.pushBack contexts.allocated
    (contexts.view session).ioSend szData nDataLen true =
      (pushed.1.view session, started.2.1 ++ pushed.2, started.2.2) := by
  have unchanged : ∀ context, contexts.perIoContextSends.map
      (Function.update contexts.memory contexts.allocated context) =
        contexts.perIoContextSends.map contexts.memory := map_update fresh
  simp [IocpSession.ioSend, view, startSend, pushBack, store, remains,
    not_le.mpr positive, unchanged]

/-- Storing a context under its number does not change what is found. -/
theorem findSquence_store
    {address : Nat}
    {context : PerIoContextSend}
    (sameNumber : context.nSquence = (contexts.memory address).nSquence)
    (nSquence : Int) :
    (contexts.store address context).findSquence nSquence =
      contexts.findSquence nSquence := by
  have agree : ∀ other, ((contexts.store address context).memory other).nSquence =
      (contexts.memory other).nSquence := by
    intro other
    by_cases same : other = address
    · subst same
      simp [store, sameNumber]
    · simp [store, same]
  simp only [findSquence, agree]
  rfl

end SendContexts

/-! ## A completion that finds its own context -/

namespace PerIoContextSend

variable {context : PerIoContextSend}

/-- The buffer still to be sent reaches to the end of the data. -/
def Whole (context : PerIoContextSend) : Prop :=
  context.wsaBufOffset + context.wsaBufLen = context.szBuffer.length

theorem wsaBuf_of_whole (whole : context.Whole) :
    context.wsaBuf = context.szBuffer.drop context.wsaBufOffset := by
  apply List.take_of_length_le
  rw [List.length_drop, ← whole]
  omega

theorem length_wsaBuf (whole : context.Whole) :
    context.wsaBuf.length = context.wsaBufLen := by
  rw [wsaBuf_of_whole whole, List.length_drop, ← whole]
  omega

/-- Behind some bytes is the rest of the buffer. -/
theorem wsaBuf_advance
    (context : PerIoContextSend)
    (dwBytesTransfered : Nat) :
    (context.sent dwBytesTransfered).advance.wsaBuf =
      context.wsaBuf.drop dwBytesTransfered := by
  simp only [wsaBuf, advance, sent]
  rw [List.drop_take, List.drop_drop]

theorem whole_advance
    (whole : context.Whole)
    {dwBytesTransfered : Nat}
    (bounded : dwBytesTransfered ≤ context.wsaBufLen) :
    (context.sent dwBytesTransfered).advance.Whole := by
  simp only [Whole, advance, sent]
  unfold Whole at whole
  omega

end PerIoContextSend

/-- The search for the number of a completion finds the context of the
completion. -/
def SendInput.FindsOwn (sends : OverlappedSends) : SendInput → Prop
  | .completed address _ _ =>
      sends.contexts.findSquence (sends.contexts.memory address).nSquence =
        some address
  | _ => True

namespace OverlappedSends

/-- The kernel has exactly the rest of the buffer of a context, and there is
one. -/
structure Posted (sends : OverlappedSends) (address : Nat) : Prop where
  outstanding : sends.outstanding address =
    [(sends.contexts.memory address).wsaBuf]
  whole : (sends.contexts.memory address).Whole
  remains : 0 < (sends.contexts.memory address).wsaBufLen

/-- What a completion does that finds its own context: it takes the context out
of the vector and deletes it, or posts the rest of its buffer. -/
structure Completed
    (sends : OverlappedSends)
    (address dwBytesTransfered : Nat)
    (posted : Bool)
    (next : OverlappedSends) : Prop where
  positive : 0 < dwBytesTransfered
  bounded : dwBytesTransfered ≤ (sends.contexts.memory address).wsaBufLen
  completions : next.completions = Function.update sends.completions address
    (sends.completions address ++ [dwBytesTransfered])
  carried : next.carried = Function.update sends.carried address
    (sends.carried address ++
      (sends.contexts.memory address).wsaBuf.take dwBytesTransfered)
  handed : next.handed = Function.update sends.handed address
    (sends.handed address ++
      if dwBytesTransfered < (sends.contexts.memory address).wsaBufLen then
        [(sends.contexts.memory address).wsaBuf.drop dwBytesTransfered]
      else [])
  outstanding : next.outstanding = Function.update sends.outstanding address
    (if dwBytesTransfered < (sends.contexts.memory address).wsaBufLen ∧
        posted = true then
      [(sends.contexts.memory address).wsaBuf.drop dwBytesTransfered]
    else [])
  live : next.live = true ↔
    (dwBytesTransfered < (sends.contexts.memory address).wsaBufLen →
      posted = true)
  perIoContextSends : next.contexts.perIoContextSends =
    if dwBytesTransfered < (sends.contexts.memory address).wsaBufLen then
      sends.contexts.perIoContextSends
    else sends.contexts.perIoContextSends.erase address
  freed : next.contexts.freed =
    if dwBytesTransfered < (sends.contexts.memory address).wsaBufLen then
      sends.contexts.freed
    else sends.contexts.freed ++ [address]
  memory : next.contexts.memory = Function.update sends.contexts.memory address
    (if dwBytesTransfered < (sends.contexts.memory address).wsaBufLen then
      ((sends.contexts.memory address).sent dwBytesTransfered).advance
    else (sends.contexts.memory address).sent dwBytesTransfered)
  frame : next.pending = sends.pending ∧ next.szData = sends.szData ∧
    next.contexts.socket = sends.contexts.socket ∧
      next.contexts.bIsToBeClose = sends.contexts.bIsToBeClose ∧
        next.contexts.nSquence = sends.contexts.nSquence ∧
          next.contexts.allocated = sends.contexts.allocated

theorem hand_nil (sends : OverlappedSends) (address : Nat) :
    sends.hand address [] = sends := by
  simp [hand]

variable {sends : OverlappedSends} {address dwBytesTransfered : Nat}

/-- Only the sends of a live session go on. -/
theorem live_of_step
    {next : OverlappedSends}
    {input : SendInput}
    (stepped : sends.step input = some next) :
    sends.live = true := by
  cases isLive : sends.live with
  | true => rfl
  | false =>
      cases input with
      | send szData posted => simp [step, isLive] at stepped
      | pushBack address => simp [step, isLive] at stepped
      | completed address dwBytesTransfered posted =>
          simp only [step, isLive] at stepped
          split at stepped
          · contradiction
          · simp at stepped

/-- The context is found behind the stored length. -/
theorem handleSent_eq
    (sends : OverlappedSends)
    (found : sends.contexts.findSquence
      (sends.contexts.memory address).nSquence = some address)
    (posted : Bool) :
    let call := (sends.contexts.store address
      ((sends.contexts.memory address).sent dwBytesTransfered)).ioSendFound
        address posted
    sends.handleSent address dwBytesTransfered posted =
      { sends with
        contexts := call.1
        live := !decide (call.2.2 < 0) }.hand address (wsaSends call.2.1) := by
  have sameNumber : ((sends.contexts.memory address).sent
      dwBytesTransfered).nSquence = (sends.contexts.memory address).nSquence := rfl
  have foundStored := (SendContexts.findSquence_store sameNumber
    (sends.contexts.memory address).nSquence).trans found
  simp only [handleSent, SendContexts.ioSendNext, foundStored]

/-- The last bytes of a context. -/
theorem handleSent_last
    (sends : OverlappedSends)
    (found : sends.contexts.findSquence
      (sends.contexts.memory address).nSquence = some address)
    (last : dwBytesTransfered = (sends.contexts.memory address).wsaBufLen)
    (posted : Bool) :
    sends.handleSent address dwBytesTransfered posted =
      { sends with
        contexts := (sends.contexts.store address
          ((sends.contexts.memory address).sent dwBytesTransfered)).remove
            address
        live := true } := by
  have call : (sends.contexts.store address
      ((sends.contexts.memory address).sent dwBytesTransfered)).ioSendFound
        address posted =
      ((sends.contexts.store address
        ((sends.contexts.memory address).sent dwBytesTransfered)).remove address,
        SendContexts.sendsLocked [], 0) := by
    simp [SendContexts.ioSendFound, SendContexts.store, PerIoContextSend.sent,
      last]
  rw [handleSent_eq sends found posted, call]
  exact hand_nil _ address

/-- Some bytes of a context, but not the last. -/
theorem handleSent_part
    (sends : OverlappedSends)
    (remains : sends.contexts.bIsToBeClose = false)
    (found : sends.contexts.findSquence
      (sends.contexts.memory address).nSquence = some address)
    (isPart : dwBytesTransfered < (sends.contexts.memory address).wsaBufLen)
    (posted : Bool) :
    sends.handleSent address dwBytesTransfered posted =
      { sends with
        contexts := sends.contexts.store address
          ((sends.contexts.memory address).sent dwBytesTransfered).advance
        live := posted }.hand address
          [((sends.contexts.memory address).wsaBuf.drop dwBytesTransfered,
            posted)] := by
  have call : (sends.contexts.store address
      ((sends.contexts.memory address).sent dwBytesTransfered)).ioSendFound
        address posted =
      (sends.contexts.store address
        ((sends.contexts.memory address).sent dwBytesTransfered).advance,
        SendContexts.sendsLocked [.wsaSend sends.contexts.socket
          ((sends.contexts.memory address).wsaBuf.drop dwBytesTransfered) posted],
        if posted then 0 else -3) := by
    have different := isPart.ne
    have notBeyond := not_lt.mpr isPart.le
    rw [← PerIoContextSend.wsaBuf_advance]
    simp [SendContexts.ioSendFound, SendContexts.store, remains,
      PerIoContextSend.sent, different, notBeyond]
  rw [handleSent_eq sends found posted, call]
  cases posted <;> rfl

/-- A completion of a posted send. -/
theorem completed_of_step
    {next : OverlappedSends}
    {posted : Bool}
    (isPosted : sends.Posted address)
    (remains : sends.contexts.bIsToBeClose = false)
    (found : sends.contexts.findSquence
      (sends.contexts.memory address).nSquence = some address)
    (stepped : sends.step (.completed address dwBytesTransfered posted) =
      some next) :
    sends.Completed address dwBytesTransfered posted next := by
  simp only [step, isPosted.outstanding] at stepped
  split at stepped
  · rename_i allowed
    obtain ⟨-, positive, bounded⟩ := allowed
    rw [PerIoContextSend.length_wsaBuf isPosted.whole] at bounded
    rw [← Option.some.inj stepped]
    let transferred := sends.transfer address dwBytesTransfered
      (sends.contexts.memory address).wsaBuf []
    rcases bounded.lt_or_eq with isPart | last
    · rw [handleSent_part transferred remains found isPart]
      cases posted <;> constructor <;>
        simp [transferred, hand, transfer, isPart, positive, isPart.le,
          SendContexts.store]
    · rw [handleSent_last transferred found last]
      have notPart := not_lt.mpr last.ge
      constructor <;>
        simp [transferred, transfer, notPart, positive, bounded,
          SendContexts.store, SendContexts.remove]
  · contradiction

namespace Completed

variable {posted : Bool} {next : OverlappedSends}

/-- Another context keeps its send. -/
theorem posted_other
    (completed : sends.Completed address dwBytesTransfered posted next)
    {other : Nat}
    (different : other ≠ address)
    (isPosted : sends.Posted other) :
    next.Posted other := by
  have sameContext : next.contexts.memory other =
      sends.contexts.memory other := by
    rw [completed.memory, Function.update_of_ne different]
  constructor
  · rw [completed.outstanding, Function.update_of_ne different, sameContext]
    exact isPosted.outstanding
  · rw [sameContext]
    exact isPosted.whole
  · rw [sameContext]
    exact isPosted.remains

/-- A context that has bytes left has been posted again. -/
theorem posted_self
    (completed : sends.Completed address dwBytesTransfered posted next)
    (isPosted : sends.Posted address)
    (isPart : dwBytesTransfered < (sends.contexts.memory address).wsaBufLen)
    (live : next.live = true) :
    next.Posted address := by
  have isLive := completed.live.mp live isPart
  have context : next.contexts.memory address =
      ((sends.contexts.memory address).sent dwBytesTransfered).advance := by
    rw [completed.memory, Function.update_self, if_pos isPart]
  constructor
  · rw [completed.outstanding, Function.update_self, if_pos ⟨isPart, isLive⟩,
      context, PerIoContextSend.wsaBuf_advance]
  · rw [context]
    exact PerIoContextSend.whole_advance isPosted.whole completed.bounded
  · rw [context]
    exact Nat.sub_pos_of_lt isPart

/-- No context changes its number. -/
theorem nSquence_memory
    (completed : sends.Completed address dwBytesTransfered posted next)
    (other : Nat) :
    (next.contexts.memory other).nSquence =
      (sends.contexts.memory other).nSquence := by
  rw [completed.memory]
  by_cases same : other = address
  · subst same
    rw [Function.update_self]
    split <;> rfl
  · rw [Function.update_of_ne same]

end Completed

/-- A context leaves the vector with its last bytes. -/
theorem mem_completed
    {posted : Bool}
    {next : OverlappedSends}
    (distinct : sends.contexts.perIoContextSends.Nodup)
    (completed : sends.Completed address dwBytesTransfered posted next)
    (other : Nat) :
    other ∈ next.contexts.perIoContextSends ↔
      other ∈ sends.contexts.perIoContextSends ∧
        (other = address →
          dwBytesTransfered <
            (sends.contexts.memory address).wsaBufLen) := by
  rw [completed.perIoContextSends]
  split
  · rename_i isPart
    exact ⟨fun member => ⟨member, fun _ => isPart⟩, And.left⟩
  · rename_i last
    rw [distinct.mem_erase_iff]
    exact ⟨fun ⟨different, member⟩ =>
        ⟨member, fun same => absurd same different⟩,
      fun ⟨member, isPart⟩ => ⟨fun same => last (isPart same), member⟩⟩

end OverlappedSends

end TransPortEngine
