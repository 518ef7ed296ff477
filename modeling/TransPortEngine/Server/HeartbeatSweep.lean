import TransPortEngine.Library.MapTraversal
import TransPortEngine.Server.Registry
import TransPortEngine.TcpSession.IocpLife

/-!
# One pass of the heartbeat detection

The loop of `TcpSessionMgr_HeartbeatDetection` over `m_TcpSessions`, with its
iterator, the erasures and `bFlag`. Both platforms run it, each on its own
session class. A pass visits every entry once, whatever it erases, so that it
gives up the sessions that have timed out and no others.
-/

namespace TransPortEngine

/-- What the heartbeat detection uses of `CTcpSession` on one platform: what
`TcpSession_Fini` and `delete` leave of an object, and whether it is looked at
under a lock of its own. -/
structure SessionClass (σ : Type) where
  core : σ → SessionCore
  fini : σ → σ
  delete : σ → σ
  hasEventLock : Bool

/-- `CTcpSession` on Linux; the lock is commented out. -/
def TcpSession.sessionClass : SessionClass TcpSession where
  core session := session.toSessionCore
  fini session := session.fini.1
  delete session := session.delete.1
  hasEventLock := false

/-- `CTcpSession` on Windows. -/
def IocpObject.sessionClass : SessionClass IocpObject where
  core object := object.toSessionCore
  fini object := object.fini.1
  delete object := object.delete.1
  hasEventLock := true

/-- What a pass does, in the order in which it does it. -/
inductive SweepCall
  | lockEvent (session : SessionId)
  | unlockEvent (session : SessionId)
  | erase (nSocket : Int) (session : SessionId)
  | delEvent (modle : Nat) (session : SessionId)
  | fini (session : SessionId)
  | delete (session : SessionId)
  deriving DecidableEq, Repr

/-- The session a call gets rid of. -/
def SweepCall.removed : SweepCall → Option SessionId
  | .lockEvent _ => none
  | .unlockEvent _ => none
  | .erase _ session => some session
  | .delEvent _ session => some session
  | .fini session => some session
  | .delete session => some session

/-- The content of `m_TcpSessions` and the objects it points at. Only
`TcpSessionMgr_AddSession` makes entries, one for each session. -/
structure SessionTable (σ : Type) where
  tcpSessions : TcpSessions
  memory : SessionId → σ
  eachOnce : ∀ first second session,
    tcpSessions.lookup first = some session →
      tcpSessions.lookup second = some session → first = second

/-- The state of a pass. What the calls that are only logged return is left
out. -/
structure SweepState (σ : Type) where
  tcpSessions : TcpSessions
  memory : SessionId → σ
  bFlag : Bool
  calls : List SweepCall

/-- The start of a pass, with the flag the pass before has left. -/
def SessionTable.start (table : SessionTable σ) (bFlag : Bool) : SweepState σ :=
  ⟨table.tcpSessions, table.memory, bFlag, []⟩

namespace SweepState

/-- A call is made. -/
def call (state : SweepState σ) (made : List SweepCall) : SweepState σ :=
  { state with calls := state.calls ++ made }

/-- The calls that get rid of a session, in order. -/
def callsOn (state : SweepState σ) (session : SessionId) : List SweepCall :=
  state.calls.filter fun made => made.removed = some session

/-- Store a session object. -/
def store
    (state : SweepState σ)
    (session : SessionId)
    (object : σ) : SweepState σ :=
  { state with memory := Function.update state.memory session object }

variable (sessionClass : SessionClass σ) (findModle : Int → Option Nat)

/-- The branch for a session that has timed out; none when a member of a module
that was not found is called. -/
def evict
    (state : SweepState σ)
    (nSocket : Int)
    (session : SessionId) : Option (SweepState σ) :=
  let state := ({ state with
    tcpSessions := state.tcpSessions.erase nSocket }).call
      [.erase nSocket session]
  match findModle (sessionClass.core (state.memory session)).nEventModleIndex with
  | none => none
  | some modle =>
      let state := state.call [.delEvent modle session]
      let state := (state.store session
        (sessionClass.fini (state.memory session))).call [.fini session]
      some { state with bFlag := true }

/-- The body of the loop for one entry, and the iterator it goes on with; none
when the iterator denotes no entry. -/
def visit
    (now : Int → Int)
    (state : SweepState σ)
    (nSocket : Int) : Option (SweepState σ × Option Int) :=
  match state.tcpSessions.lookup nSocket with
  | none => none
  | some session =>
      -- both branches move the iterator before an entry is erased
      let next := MapTraversal.next state.tcpSessions.keys nSocket
      let state := { state with bFlag := false }
      let state := state.call
        (if sessionClass.hasEventLock then [.lockEvent session] else [])
      let checked :=
        if (sessionClass.core (state.memory session)).isHeartbeatTimeOut
            (now nSocket) then
          state.evict sessionClass findModle nSocket session
        else some state
      checked.map fun state =>
        let state := state.call
          (if sessionClass.hasEventLock then [.unlockEvent session] else [])
        if state.bFlag then
          ((state.store session (sessionClass.delete
            (state.memory session))).call [.delete session], next)
        else (state, next)

/-- A pass of `TcpSessionMgr_HeartbeatDetection`, for a number of rounds. -/
def sweep
    (now : Int → Int)
    (fuel : Nat)
    (state : SweepState σ) : Option (SweepState σ × Option Int) :=
  MapTraversal.loop (visit sessionClass findModle now) fuel
    (state, MapTraversal.first state.tcpSessions.keys)

@[simp] theorem callsOn_call
    (state : SweepState σ)
    (made : List SweepCall)
    (session : SessionId) :
    (state.call made).callsOn session =
      state.callsOn session ++
        made.filter fun call => call.removed = some session :=
  List.filter_append ..

end SweepState

/-! ## One entry -/

namespace SweepState

variable {sessionClass : SessionClass σ} {findModle : Int → Option Nat}
  {now : Int → Int} {state : SweepState σ} {nSocket : Int} {session : SessionId}

/-- What is done under the lock of a session. -/
def underLock
    (sessionClass : SessionClass σ)
    (session : SessionId)
    (calls : List SweepCall) : List SweepCall :=
  (if sessionClass.hasEventLock then [.lockEvent session] else []) ++ calls ++
    if sessionClass.hasEventLock then [.unlockEvent session] else []

/-- Locking a session does not get rid of one. -/
@[simp] theorem filter_underLock
    (sessionClass : SessionClass σ)
    (session other : SessionId)
    (calls : List SweepCall) :
    (underLock sessionClass session calls).filter
        (fun call => call.removed = some other) =
      calls.filter fun call => call.removed = some other := by
  unfold underLock
  split <;> simp [SweepCall.removed]

/-- A session whose stamp is not too old stays. -/
theorem visit_fresh
    (found : state.tcpSessions.lookup nSocket = some session)
    (fresh : (sessionClass.core (state.memory session)).isHeartbeatTimeOut
      (now nSocket) = false) :
    visit sessionClass findModle now state nSocket =
      some (({ state with bFlag := false } : SweepState σ).call
          (underLock sessionClass session []),
        MapTraversal.next state.tcpSessions.keys nSocket) := by
  simp [visit, found, call, fresh, underLock]

/-- The state after a session has been given up. -/
def evicted
    (sessionClass : SessionClass σ)
    (modle : Nat)
    (state : SweepState σ)
    (nSocket : Int)
    (session : SessionId) : SweepState σ where
  tcpSessions := state.tcpSessions.erase nSocket
  memory := Function.update state.memory session
    (sessionClass.delete (sessionClass.fini (state.memory session)))
  bFlag := true
  calls := state.calls ++
    (underLock sessionClass session
      [.erase nSocket session, .delEvent modle session, .fini session] ++
        [.delete session])

theorem callsOn_evicted (modle : Nat) :
    (evicted sessionClass modle state nSocket session).callsOn session =
      state.callsOn session ++
        [.erase nSocket session, .delEvent modle session, .fini session,
          .delete session] := by
  rw [callsOn, evicted, List.filter_append, List.filter_append,
    filter_underLock]
  simp [callsOn, SweepCall.removed]

theorem callsOn_evicted_of_ne
    {other : SessionId}
    (different : other ≠ session)
    (modle : Nat) :
    (evicted sessionClass modle state nSocket session).callsOn other =
      state.callsOn other := by
  rw [callsOn, evicted, List.filter_append, List.filter_append,
    filter_underLock]
  simp [callsOn, SweepCall.removed, different.symm]

/-- A session that has timed out is erased, taken from its module, finalised and
deleted. -/
theorem visit_timedOut
    {modle : Nat}
    (found : state.tcpSessions.lookup nSocket = some session)
    (timedOut : (sessionClass.core (state.memory session)).isHeartbeatTimeOut
      (now nSocket) = true)
    (bound : findModle
      (sessionClass.core (state.memory session)).nEventModleIndex = some modle) :
    visit sessionClass findModle now state nSocket =
      some (evicted sessionClass modle state nSocket session,
        MapTraversal.next state.tcpSessions.keys nSocket) := by
  simp [visit, found, call, timedOut, evict, bound, store, evicted, underLock]

end SweepState

/-! ## All entries -/

namespace SessionTable

variable (sessionClass : SessionClass σ) (findModle : Int → Option Nat)
  (now : Int → Int) (table : SessionTable σ)

/-- The stamp of the session of an entry is more than `HEARTBEAT_TIMEOUT` seconds
old. -/
def timedOut (nSocket : Int) (session : SessionId) : Bool :=
  decide (heartbeatTimeout < now nSocket -
    (sessionClass.core (table.memory session)).tHeartbeatTimeStamp)

/-- The session of an entry has been erased, taken from its module, finalised and
deleted, once each and in this order. -/
structure Evicted
    (state : SweepState σ)
    (nSocket : Int)
    (session : SessionId) : Prop where
  calls : ∃ modle,
    findModle (sessionClass.core (table.memory session)).nEventModleIndex =
        some modle ∧
      state.callsOn session =
        [.erase nSocket session, .delEvent modle session, .fini session,
          .delete session]
  object : state.memory session =
    sessionClass.delete (sessionClass.fini (table.memory session))

/-- Nothing has been done to a session. -/
structure Untouched (state : SweepState σ) (session : SessionId) : Prop where
  calls : state.callsOn session = []
  object : state.memory session = table.memory session

/-- A pass evicts the sessions that have timed out, and leaves all others and
their entries. -/
structure EvictsTimedOut (after : SweepState σ) : Prop where
  entries : ∀ nSocket session,
    after.tcpSessions.lookup nSocket = some session ↔
      table.tcpSessions.lookup nSocket = some session ∧
        table.timedOut sessionClass now nSocket session = false
  evicted : ∀ nSocket session,
    table.tcpSessions.lookup nSocket = some session →
      table.timedOut sessionClass now nSocket session = true →
        table.Evicted sessionClass findModle after nSocket session
  kept : ∀ session,
    (∀ nSocket, table.tcpSessions.lookup nSocket = some session →
      table.timedOut sessionClass now nSocket session = false) →
        table.Untouched after session

/-- A pass that has visited some entries. -/
structure Swept (visited rest : List Int) (state : SweepState σ) : Prop where
  nodup : (visited ++ rest).Nodup
  entries : ∀ nSocket session,
    state.tcpSessions.lookup nSocket = some session ↔
      table.tcpSessions.lookup nSocket = some session ∧
        (nSocket ∈ visited →
          table.timedOut sessionClass now nSocket session = false)
  evicted : ∀ nSocket ∈ visited, ∀ session,
    table.tcpSessions.lookup nSocket = some session →
      table.timedOut sessionClass now nSocket session = true →
        table.Evicted sessionClass findModle state nSocket session
  kept : ∀ session,
    (∀ nSocket ∈ visited, table.tcpSessions.lookup nSocket = some session →
      table.timedOut sessionClass now nSocket session = false) →
        table.Untouched state session

variable {sessionClass findModle now table}

/-- A pass that has visited nothing. -/
theorem swept_start (bFlag : Bool) :
    table.Swept sessionClass findModle now []
      (MapTraversal.sorted table.tcpSessions.keys) (table.start bFlag) := by
  refine ⟨?_, ?_, ?_, ?_⟩
  · exact MapTraversal.nodup_sorted table.tcpSessions.nodupKeys
  · intro nSocket session
    simp [start]
  · intro nSocket member
    exact absurd member List.not_mem_nil
  · intro session _
    exact ⟨rfl, rfl⟩

section Step

variable {state : SweepState σ} {visited rest : List Int} {nSocket : Int}
  {session : SessionId}

theorem Swept.notVisited
    (swept : table.Swept sessionClass findModle now visited (nSocket :: rest)
      state) :
    nSocket ∉ visited := by
  intro member
  exact (List.nodup_append.mp swept.nodup).2.2 nSocket member nSocket
    List.mem_cons_self rfl

theorem Swept.nodup_append
    (swept : table.Swept sessionClass findModle now visited (nSocket :: rest)
      state) :
    ((visited ++ [nSocket]) ++ rest).Nodup := by
  have nodup := swept.nodup
  rw [List.append_assoc]
  exact nodup

/-- The entry of a key that has not been visited is that of the start. -/
theorem Swept.lookup_next
    (swept : table.Swept sessionClass findModle now visited (nSocket :: rest)
      state)
    (found : state.tcpSessions.lookup nSocket = some session) :
    table.tcpSessions.lookup nSocket = some session :=
  ((swept.entries nSocket session).mp found).1

/-- The session of an entry that has not been visited is untouched. -/
theorem Swept.untouched_next
    (swept : table.Swept sessionClass findModle now visited (nSocket :: rest)
      state)
    (found : table.tcpSessions.lookup nSocket = some session) :
    table.Untouched state session := by
  apply swept.kept session
  intro other member foundOther
  have same := table.eachOnce other nSocket session foundOther found
  exact absurd (same ▸ member) swept.notVisited

/-- A visit that keeps a session. -/
theorem Swept.fresh
    (swept : table.Swept sessionClass findModle now visited (nSocket :: rest)
      state)
    (found : table.tcpSessions.lookup nSocket = some session)
    (fresh : table.timedOut sessionClass now nSocket session = false) :
    table.Swept sessionClass findModle now (visited ++ [nSocket]) rest
      (({ state with bFlag := false } : SweepState σ).call
        (SweepState.underLock sessionClass session [])) := by
  have sameCalls : ∀ other,
      (({ state with bFlag := false } : SweepState σ).call
        (SweepState.underLock sessionClass session [])).callsOn other =
          state.callsOn other := by
    intro other
    rw [SweepState.callsOn_call, SweepState.filter_underLock, List.filter_nil,
      List.append_nil]
    rfl
  have thisFresh : ∀ known,
      table.tcpSessions.lookup nSocket = some known →
        table.timedOut sessionClass now nSocket known = false := by
    intro known foundKnown
    rw [found] at foundKnown
    exact Option.some.inj foundKnown ▸ fresh
  refine ⟨swept.nodup_append, ?_, ?_, ?_⟩
  · intro other known
    rw [SweepState.call, swept.entries other known]
    refine and_congr_right fun foundKnown => ⟨fun keeps member => ?_,
      fun keeps member => keeps (List.mem_append_left _ member)⟩
    rcases List.mem_append.mp member with before | this
    · exact keeps before
    · rw [List.mem_singleton.mp this] at foundKnown ⊢
      exact thisFresh known foundKnown
  · intro other member known foundKnown timedOut
    rcases List.mem_append.mp member with before | this
    · have evicted := swept.evicted other before known foundKnown timedOut
      exact ⟨(sameCalls known).symm ▸ evicted.calls, evicted.object⟩
    · rw [List.mem_singleton.mp this] at foundKnown timedOut
      rw [thisFresh known foundKnown] at timedOut
      contradiction
  · intro known keeps
    have untouched := swept.kept known fun other member =>
      keeps other (List.mem_append_left _ member)
    exact ⟨(sameCalls known).trans untouched.calls, untouched.object⟩

/-- A visit that evicts a session. -/
theorem Swept.timedOut
    {modle : Nat}
    (swept : table.Swept sessionClass findModle now visited (nSocket :: rest)
      state)
    (found : table.tcpSessions.lookup nSocket = some session)
    (timedOut : table.timedOut sessionClass now nSocket session = true)
    (bound : findModle
      (sessionClass.core (table.memory session)).nEventModleIndex = some modle) :
    table.Swept sessionClass findModle now (visited ++ [nSocket]) rest
      (SweepState.evicted sessionClass modle state nSocket session) := by
  have untouched := swept.untouched_next found
  have thisMember : nSocket ∈ visited ++ [nSocket] :=
    List.mem_append_right _ (List.mem_singleton_self nSocket)
  refine ⟨swept.nodup_append, ?_, ?_, ?_⟩
  · intro other known
    by_cases same : other = nSocket
    · subst same
      rw [SweepState.evicted, AList.lookup_erase]
      refine ⟨fun impossible => by contradiction, ?_⟩
      rintro ⟨foundKnown, keeps⟩
      rw [found] at foundKnown
      rw [← Option.some.inj foundKnown, timedOut] at keeps
      exact absurd (keeps thisMember) (by decide)
    · rw [SweepState.evicted, AList.lookup_erase_ne same,
        swept.entries other known]
      simp [same]
  · intro other member known foundKnown timedOutKnown
    by_cases same : known = session
    · subst same
      have isSocket := table.eachOnce other nSocket known foundKnown found
      subst isSocket
      refine ⟨⟨modle, bound, ?_⟩, ?_⟩
      · rw [SweepState.callsOn_evicted, untouched.calls, List.nil_append]
      · rw [← untouched.object]
        exact Function.update_self ..
    · have before : other ∈ visited := by
        rcases List.mem_append.mp member with before | this
        · exact before
        · rw [List.mem_singleton.mp this, found] at foundKnown
          exact absurd (Option.some.inj foundKnown).symm same
      have evicted := swept.evicted other before known foundKnown timedOutKnown
      obtain ⟨modleKnown, boundKnown, order⟩ := evicted.calls
      refine ⟨⟨modleKnown, boundKnown, ?_⟩, ?_⟩
      · exact (SweepState.callsOn_evicted_of_ne same modle).trans order
      · rw [← evicted.object]
        exact Function.update_of_ne same ..
  · intro known keeps
    have different : known ≠ session := by
      intro same
      have fresh := keeps nSocket thisMember (same ▸ found)
      rw [same, timedOut] at fresh
      contradiction
    have before := swept.kept known fun other member =>
      keeps other (List.mem_append_left _ member)
    refine ⟨?_, ?_⟩
    · rw [SweepState.callsOn_evicted_of_ne different]
      exact before.calls
    · rw [← before.object]
      exact Function.update_of_ne different ..

end Step

/-- `NetEventModleMgr_FindModle` returns a module for the index of each
session. -/
def Bound
    (sessionClass : SessionClass σ)
    (findModle : Int → Option Nat)
    (table : SessionTable σ) : Prop :=
  ∀ nSocket session, table.tcpSessions.lookup nSocket = some session →
    (findModle
      (sessionClass.core (table.memory session)).nEventModleIndex).isSome

/-- A visit goes on to the next entry and erases at most its own. -/
theorem keeps_visit (bound : table.Bound sessionClass findModle) :
    MapTraversal.Keeps (fun state : SweepState σ => state.tcpSessions.keys)
      (SweepState.visit sessionClass findModle now)
      (table.Swept sessionClass findModle now) := by
  intro visited nSocket rest state swept member
  obtain ⟨session, found⟩ : ∃ session,
      state.tcpSessions.lookup nSocket = some session :=
    Option.isSome_iff_exists.mp (AList.lookup_isSome.mpr member)
  have foundTable := swept.lookup_next found
  have object := (swept.untouched_next foundTable).object
  cases decided : table.timedOut sessionClass now nSocket session with
  | false =>
      refine ⟨_, SweepState.visit_fresh found ?_, swept.fresh foundTable decided,
        fun other _ => Iff.rfl⟩
      rw [object]
      exact decided
  | true =>
      obtain ⟨modle, isModle⟩ :=
        Option.isSome_iff_exists.mp (bound nSocket session foundTable)
      have decidedState : (sessionClass.core
          (state.memory session)).isHeartbeatTimeOut (now nSocket) = true := by
        rw [object]
        exact decided
      have isModleState : findModle (sessionClass.core
          (state.memory session)).nEventModleIndex = some modle := by
        rw [object]
        exact isModle
      refine ⟨_, SweepState.visit_timedOut found decidedState isModleState,
        swept.timedOut foundTable decided isModle, ?_⟩
      · intro other different
        simp only [SweepState.evicted, AList.keys_erase]
        exact List.mem_erase_of_ne different

/-- One pass of the heartbeat detection comes to the end of the map; it evicts
exactly the sessions whose stamp is too old. -/
theorem sweep_evicts
    (bound : table.Bound sessionClass findModle)
    (bFlag : Bool)
    {fuel : Nat}
    (enough : table.tcpSessions.keys.length ≤ fuel) :
    ∃ after,
      (table.start bFlag).sweep sessionClass findModle now fuel =
          some (after, none) ∧
        table.EvictsTimedOut sessionClass findModle now after := by
  obtain ⟨after, ended, swept⟩ := MapTraversal.loop_first (keeps_visit bound)
    (table.start bFlag) table.tcpSessions.nodupKeys (swept_start bFlag) enough
  have everyKey : ∀ nSocket session,
      table.tcpSessions.lookup nSocket = some session →
        nSocket ∈ MapTraversal.sorted table.tcpSessions.keys := by
    intro nSocket session found
    rw [MapTraversal.mem_sorted]
    exact AList.lookup_isSome.mp (Option.isSome_iff_exists.mpr ⟨session, found⟩)
  refine ⟨after, ended, ?_, ?_, ?_⟩
  · intro nSocket session
    rw [swept.entries nSocket session]
    exact and_congr_right fun found =>
      ⟨fun fresh => fresh (everyKey nSocket session found), fun fresh _ => fresh⟩
  · intro nSocket session found timedOut
    exact swept.evicted nSocket (everyKey nSocket session found) session found
      timedOut
  · intro session keeps
    exact swept.kept session fun nSocket _ => keeps nSocket

/-- Three sessions; the stamp of the second is younger than those of its
neighbours. -/
def oldYoungOld : SessionTable TcpSession where
  tcpSessions := ⟨[⟨16, 0⟩, ⟨17, 1⟩, ⟨18, 2⟩], by simp⟩
  memory session :=
    TcpSession.construct ⟨true, true, 0, 0⟩ session (if session = 1 then 95 else 0)
  eachOnce first second session foundFirst foundSecond := by
    have memberFirst := AList.mem_lookup_iff.mp foundFirst
    have memberSecond := AList.mem_lookup_iff.mp foundSecond
    simp at memberFirst memberSecond
    omega

theorem sweep_evicts_oldYoungOld :
    ∃ after,
      (oldYoungOld.start true).sweep TcpSession.sessionClass oneModle.findModle
          (fun _ => 100) 3 =
        some (after, none) ∧
      oldYoungOld.EvictsTimedOut TcpSession.sessionClass oneModle.findModle
        (fun _ => 100) after :=
  sweep_evicts (fun _ _ _ => rfl) true (by decide)

end SessionTable

/-! ## The sweep of a Linux server -/

/-- The sessions of a server whose map, objects and registrations agree. -/
def ServerState.sessionTable
    (state : ServerState)
    (registry : Registry state) : SessionTable TcpSession where
  tcpSessions := state.mgr.tcpSessions
  memory := state.memory
  eachOnce first second session foundFirst foundSecond :=
    (registry.entry first session foundFirst).2.1.symm.trans
      (registry.entry second session foundSecond).2.1

section Linux

variable {acceptSession : AcceptSession} {visits : Int → Visit}

theorem visitSessions_append
    (state : ServerState)
    (first second : List Int) :
    (visitSessions acceptSession visits state (first ++ second)).1 =
      (visitSessions acceptSession visits
        (visitSessions acceptSession visits state first).1 second).1 := by
  induction first generalizing state with
  | nil => rfl
  | cons nSocket first inductionHypothesis =>
      rw [List.cons_append, visitSessions, visitSessions]
      cases state.mgr.findSession nSocket with
      | none => exact inductionHypothesis state
      | some session => exact inductionHypothesis _

/-- Taking a session from its module, finalising and deleting it changes its
object only. -/
theorem memory_teardownAll
    (state : ServerState)
    (modle : Nat)
    (session : SessionId)
    (done : Bool) :
    (state.teardownAll modle session done [.delEvent, .fini, .delete]).1.memory =
      Function.update state.memory session
        ((state.memory session).fini.1.delete.1) := by
  funext other
  by_cases same : other = session
  · subst same
    simp [ServerState.teardownAll, ServerState.teardown, ServerState.act,
      ServerState.store]
  · simp [ServerState.teardownAll, ServerState.teardown, ServerState.act,
      ServerState.store, Function.update_of_ne same]

/-- The map and the objects are those of a pass. -/
structure SweepState.Agrees
    (sweep : SweepState TcpSession)
    (state : ServerState) : Prop where
  tcpSessions : state.mgr.tcpSessions = sweep.tcpSessions
  memory : state.memory = sweep.memory

/-- A visit of the server is one of the pass. -/
theorem SweepState.Agrees.visitSession
    {sweep after : SweepState TcpSession}
    {state : ServerState}
    {nSocket : Int}
    {session : SessionId}
    {modle : Nat}
    {next : Option Int}
    (agrees : sweep.Agrees state)
    (found : sweep.tcpSessions.lookup nSocket = some session)
    (bound : acceptSession.findModle
      (sweep.memory session).nEventModleIndex = some modle)
    (visited : SweepState.visit TcpSession.sessionClass acceptSession.findModle
      (fun nSocket => (visits nSocket).now) sweep nSocket = some (after, next)) :
    after.Agrees (visitSession acceptSession state nSocket session
      (visits nSocket)).1 := by
  rw [TransPortEngine.visitSession, agrees.memory]
  cases decided : (sweep.memory session).isHeartbeatTimeOut
      (visits nSocket).now with
  | false =>
      rw [SweepState.visit_fresh found decided] at visited
      obtain ⟨rfl, -⟩ := Prod.mk.inj (Option.some.inj visited)
      simp only [Bool.false_eq_true, if_false]
      exact ⟨agrees.tcpSessions, agrees.memory⟩
  | true =>
      rw [SweepState.visit_timedOut found decided bound] at visited
      obtain ⟨rfl, -⟩ := Prod.mk.inj (Option.some.inj visited)
      simp only [if_true, bound]
      refine ⟨?_, ?_⟩
      · have inMap : nSocket ∈ sweep.tcpSessions := by
          rw [← AList.lookup_isSome, found]
          rfl
        simp [ServerState.teardownAll, ServerState.teardown, ServerState.act,
          ServerState.store, TcpSessionMgr.delSession, inMap,
          SweepState.evicted, agrees.tcpSessions]
      · rw [memory_teardownAll]
        rfl

/-- The heartbeat detection of a server is a pass over its sessions. -/
theorem heartbeatDetection_sweeps
    {state : ServerState}
    (registry : Registry state)
    (bound : (state.sessionTable registry).Bound TcpSession.sessionClass
      acceptSession.findModle)
    (bFlag : Bool) :
    ∃ after,
      ((state.sessionTable registry).start bFlag).sweep TcpSession.sessionClass
          acceptSession.findModle (fun nSocket => (visits nSocket).now)
          state.mgr.tcpSessions.keys.length =
        some (after, none) ∧
      after.Agrees (heartbeatDetection acceptSession state visits).1 := by
  let table := state.sessionTable registry
  let now := fun nSocket => (visits nSocket).now
  have keeps : MapTraversal.Keeps
      (fun sweep : SweepState TcpSession => sweep.tcpSessions.keys)
      (SweepState.visit TcpSession.sessionClass acceptSession.findModle now)
      (fun visited rest sweep =>
        table.Swept TcpSession.sessionClass acceptSession.findModle now visited
            rest sweep ∧
          sweep.Agrees (visitSessions acceptSession visits state visited).1) := by
    rintro visited nSocket rest sweep ⟨swept, agrees⟩ member
    obtain ⟨after, isVisit, sweptAfter, others⟩ :=
      SessionTable.keeps_visit bound visited nSocket rest sweep swept member
    refine ⟨after, isVisit, ⟨sweptAfter, ?_⟩, others⟩
    obtain ⟨session, found⟩ : ∃ session,
        sweep.tcpSessions.lookup nSocket = some session :=
      Option.isSome_iff_exists.mp (AList.lookup_isSome.mpr member)
    have foundTable := swept.lookup_next found
    obtain ⟨modle, isModle⟩ :=
      Option.isSome_iff_exists.mp (bound nSocket session foundTable)
    rw [← (swept.untouched_next foundTable).object] at isModle
    have foundState : (visitSessions acceptSession visits state
        visited).1.mgr.findSession nSocket = some session := by
      rw [TcpSessionMgr.findSession, agrees.tcpSessions]
      exact found
    rw [visitSessions_append, visitSessions, foundState]
    exact agrees.visitSession found isModle isVisit
  obtain ⟨after, ended, -, agrees⟩ := MapTraversal.loop_first keeps
    (table.start bFlag) table.tcpSessions.nodupKeys
    ⟨SessionTable.swept_start bFlag, ⟨rfl, rfl⟩⟩ (le_refl _)
  exact ⟨after, ended, agrees⟩

end Linux

end TransPortEngine
