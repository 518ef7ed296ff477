import TransPortEngine.Server.Pointers

/-!
# The life of a session object

A session can be found in the session manager, in an epoll instance and in the
local variables of several threads while one of them finalises and deletes it.
Nobody touches a session that another thread has begun to get rid of, if a
thread begins only when no other thread has a pointer, and nobody gets a pointer
afterwards.
-/

namespace TransPortEngine

open Transition

/-- What counts as using a session: reading, writing, arming its descriptor, a
callback, and what `TcpSession_Fini` and `delete` do. -/
def EngineEvent.uses : EngineEvent → Bool
  | .read _ => true
  | .write _ _ => true
  | .epollCtl .mod _ _ _ => true
  | .onTransPortEngineRecv _ _ => true
  | .onTransPortEngineNotify _ _ => true
  | .close _ => true
  | .delete _ => true
  | _ => false

/-- The session a thread uses in a step. -/
def Local.used (own : Local) (input : Input) : Option SessionId :=
  match own.call, input with
  | some ⟨session, _, event :: _, _⟩, .perform =>
      if event.uses then some session else none
  | _, _ => own.destroyed input

/-- No thread other than this one has begun to finalise or delete the
session. -/
def Server.AliveFor
    (server : Server)
    (thread : Thread)
    (session : SessionId) : Prop :=
  ∀ other, (session, other) ∈ server.shared.destroyers → other = thread

/-- A thread does not use a session that another thread has begun to get rid
of. -/
def UsesAlive (server : Server) (label : Thread × Input) : Prop :=
  ∀ session, (server.locals label.1).used label.2 = some session →
    server.AliveFor label.1 session

/-- A session is taken from the session manager or from an epoll instance only
while no other thread has begun to get rid of it, and a thread begins to get rid
of it only while no other thread has a pointer to it. -/
structure Owned (server : Server) (label : Thread × Input) : Prop where
  taken : ∀ session,
    server.shared.taken label.1 (server.locals label.1) label.2 =
        some session →
      server.AliveFor label.1 session
  destroyed : ∀ session,
    (server.locals label.1).destroyed label.2 = some session →
      ∀ other, other ≠ label.1 → session ∉ (server.locals other).pointers

/-- Everything that can be found has been constructed. -/
structure Constructed (server : Server) : Prop where
  pointer : ∀ thread, ∀ session ∈ (server.locals thread).pointers,
    session < server.shared.state.constructed
  entry : ∀ nSocket session,
    server.shared.state.mgr.findSession nSocket = some session →
      session < server.shared.state.constructed
  registration : ∀ modle nSocket registration,
    server.shared.state.kernel.registrations modle nSocket =
        some registration →
      registration.session < server.shared.state.constructed
  destroyer : ∀ entry ∈ server.shared.destroyers,
    entry.1 < server.shared.state.constructed

/-- Nobody has a pointer to a session another thread has begun to get rid
of. -/
structure Lifetimes (server : Server) : Prop where
  constructed : Constructed server
  alive : ∀ thread, ∀ session ∈ (server.locals thread).pointers,
    server.AliveFor thread session

theorem constructed_initial
    (memory : SessionId → TcpSession)
    (bIsHeartbeat : Bool) :
    Constructed (Server.initial memory bIsHeartbeat) := by
  refine ⟨?_, ?_, ?_, ?_⟩
  · intro thread session impossible
    contradiction
  · intro nSocket session found
    simp [Server.initial, ServerState.initial, TcpSessionMgr.findSession]
      at found
  · intro modle nSocket registration registered
    contradiction
  · intro entry impossible
    contradiction

section Steps

variable {acceptSession : AcceptSession} {server next : Server}
  {label : Thread × Input}

/-- A thread takes only what has been constructed. -/
theorem Constructed.taken
    (constructed : Constructed server)
    {thread : Thread}
    {own : Local}
    {input : Input}
    {session : SessionId}
    (taken : server.shared.taken thread own input = some session) :
    session < server.shared.state.constructed := by
  unfold Shared.taken at taken
  split at taken
  · obtain ⟨registration, registered, rfl⟩ := Option.map_eq_some_iff.mp taken
    exact constructed.registration _ _ registration registered
  · exact constructed.entry _ _ taken
  · exact constructed.entry _ _ taken
  · exact constructed.entry _ _ taken
  · contradiction

/-- A thread finalises or deletes only what it has a pointer to. -/
theorem destroyed_mem_pointers
    {own : Local}
    {input : Input}
    {session : SessionId}
    (destroyed : own.destroyed input = some session) :
    session ∈ own.pointers := by
  unfold Local.destroyed at destroyed
  split at destroyed
  · rename_i inCall
    rw [← Option.some.inj destroyed]
    exact session_mem_pointers inCall
  · rename_i inCall
    rw [← Option.some.inj destroyed]
    exact session_mem_pointers inCall
  · contradiction

/-- A thread uses only what it has a pointer to. -/
theorem used_mem_pointers
    {own : Local}
    {input : Input}
    {session : SessionId}
    (used : own.used input = some session) :
    session ∈ own.pointers := by
  unfold Local.used at used
  split at used
  · rename_i inCall
    split at used
    · rw [← Option.some.inj used]
      exact session_mem_pointers inCall
    · contradiction
  · exact destroyed_mem_pointers used

/-- Every step keeps what can be found among what has been constructed. -/
theorem constructed_serverStep
    (constructed : Constructed server)
    (stepped : serverStep acceptSession server label = some next) :
    Constructed next := by
  obtain ⟨own, advanced, locals⟩ := serverStep_eq_some stepped
  have sourced := sourced_threadStep advanced
  have grows := sourced.constructed
  simp only at grows
  refine ⟨?_, ?_, ?_, ?_⟩
  · intro thread session member
    rw [locals] at member
    by_cases same : thread = label.1
    · subst same
      rw [Function.update_self] at member
      rcases sourced.pointer session member with old | taken | new
      · exact (constructed.pointer _ session old).trans_le grows
      · exact (constructed.taken taken).trans_le grows
      · exact new.2
    · rw [Function.update_of_ne same] at member
      exact (constructed.pointer thread session member).trans_le grows
  · intro nSocket session found
    rcases sourced.entry nSocket session found with old | pointed
    · exact (constructed.entry nSocket session old).trans_le grows
    · exact (constructed.pointer _ session pointed).trans_le grows
  · intro modle nSocket registration registered
    rcases sourced.registration modle nSocket registration registered with
      ⟨before, old, same⟩ | pointed
    · rw [← same]
      exact (constructed.registration modle nSocket before old).trans_le grows
    · exact (constructed.pointer _ _ pointed).trans_le grows
  · intro entry member
    rcases sourced.destroyer entry member with old | ⟨-, destroyed⟩
    · exact (constructed.destroyer entry old).trans_le grows
    · exact (constructed.pointer _ _
        (destroyed_mem_pointers destroyed)).trans_le grows

/-- A step under the condition leaves no pointer to a session another thread has
begun to get rid of. -/
theorem lifetimes_serverStep
    (lifetimes : Lifetimes server)
    (owned : Owned server label)
    (stepped : serverStep acceptSession server label = some next) :
    Lifetimes next := by
  refine ⟨constructed_serverStep lifetimes.constructed stepped, ?_⟩
  obtain ⟨own, advanced, locals⟩ := serverStep_eq_some stepped
  have sourced := sourced_threadStep advanced
  intro thread session member other destroyer
  rw [locals] at member
  by_cases same : thread = label.1
  · subst same
    rw [Function.update_self] at member
    rcases sourced.destroyer _ destroyer with old | ⟨isSelf, -⟩
    · rcases sourced.pointer session member with before | taken | ⟨new, -⟩
      · exact lifetimes.alive _ session before other old
      · exact owned.taken session taken other old
      · -- a new session has not been destroyed
        have bounded := lifetimes.constructed.destroyer _ old
        simp only [new, lt_irrefl] at bounded
    · exact isSelf
  · rw [Function.update_of_ne same] at member
    rcases sourced.destroyer _ destroyer with old | ⟨isSelf, destroyed⟩
    · exact lifetimes.alive thread session member other old
    · exact absurd member (owned.destroyed session destroyed thread same)

end Steps

theorem lifetimes_initial
    (memory : SessionId → TcpSession)
    (bIsHeartbeat : Bool) :
    Lifetimes (Server.initial memory bIsHeartbeat) := by
  refine ⟨constructed_initial memory bIsHeartbeat, ?_⟩
  intro thread session impossible
  contradiction

/-- A thread uses only what it has a pointer to, and nobody else gets rid of
that. -/
theorem Lifetimes.usesAlive
    {server : Server}
    {label : Thread × Input}
    (lifetimes : Lifetimes server) :
    UsesAlive server label := by
  intro session used
  exact lifetimes.alive label.1 session (used_mem_pointers used)

/-- In every run whose steps respect the ownership of sessions, no thread uses a
session that another thread has begun to finalise or delete. -/
theorem usesAlive_of_owned
    (acceptSession : AcceptSession)
    (memory : SessionId → TcpSession)
    (bIsHeartbeat : Bool)
    (labels : List (Thread × Input))
    (owned : Throughout (serverStep acceptSession) Owned
      (Server.initial memory bIsHeartbeat) labels) :
    Throughout (serverStep acceptSession) UsesAlive
      (Server.initial memory bIsHeartbeat) labels := by
  refine throughout_of_invariant ?_ ?_ (lifetimes_initial memory bIsHeartbeat) owned
  · intro server label next lifetimes condition stepped
    exact lifetimes_serverStep lifetimes condition stepped
  · intro server label lifetimes condition
    exact lifetimes.usesAlive

/-! ## A session that is evicted while it is being sent on -/

/-- The steps of the accept thread for the socket 16. -/
def acceptSteps (address : Nat) : List (Thread × Input) :=
  [.accept 16 ⟨false, false, 0, 0⟩ address 0, .perform, .perform, .perform,
    .next true, .next true, .perform, .next true, .perform, .next true].map
    fun input => (.accept, input)

/-- The steps of the heartbeat thread that evict the only session. -/
def evictSteps : List (Thread × Input) :=
  [.next true, .visit 100, .perform, .perform, .next true, .perform, .next true,
    .perform, .perform, .perform, .perform, .next true, .perform, .perform,
    .perform, .next true, .next true].map fun input => (.heartbeat, input)

/-- A step in which nothing is taken and nothing destroyed. -/
theorem owned_of_none
    {server : Server}
    {label : Thread × Input}
    (taken : server.shared.taken label.1 (server.locals label.1) label.2 = none)
    (destroyed : (server.locals label.1).destroyed label.2 = none) :
    Owned server label := by
  refine ⟨?_, ?_⟩
  · intro session some
    rw [taken] at some
    contradiction
  · intro session some
    rw [destroyed] at some
    contradiction

/-- A step in which a session is destroyed that no other thread knows. -/
theorem owned_of_unknown
    {server : Server}
    {label : Thread × Input}
    (taken : server.shared.taken label.1 (server.locals label.1) label.2 = none)
    (unknown : ∀ other, other ≠ label.1 →
      (server.locals other).pointers = []) :
    Owned server label := by
  refine ⟨?_, ?_⟩
  · intro session some
    rw [taken] at some
    contradiction
  · intro session _ other different
    rw [unknown other different]
    exact List.not_mem_nil

/-- A session is accepted, and evicted when its heartbeats fail to appear. -/
theorem usesAlive_acceptEvict :
    Throughout (serverStep oneModle) UsesAlive
      (Server.initial blankMemory true)
      (acceptSteps 0x7f0000001010 ++ evictSteps) := by
  apply usesAlive_of_owned
  simp only [acceptSteps, evictSteps, List.map_cons, List.map_nil,
    List.cons_append, List.nil_append]
  iterate 11 refine throughout_cons rfl (owned_of_none rfl rfl) ?_
  refine throughout_cons rfl ?_ ?_
  · refine ⟨fun session taken other impossible => ?_, fun session none => ?_⟩
    · exact absurd impossible List.not_mem_nil
    · contradiction
  iterate 4 refine throughout_cons rfl (owned_of_none rfl rfl) ?_
  refine throughout_cons rfl (owned_of_unknown rfl fun other different => ?_) ?_
  · cases other with
    | heartbeat => contradiction
    | _ => rfl
  iterate 4 refine throughout_cons rfl (owned_of_none rfl rfl) ?_
  refine throughout_cons rfl (owned_of_unknown rfl fun other different => ?_) ?_
  · cases other with
    | heartbeat => contradiction
    | _ => rfl
  iterate 5 refine throughout_cons rfl (owned_of_none rfl rfl) ?_
  trivial

/-- A thread has found the session, the heartbeat thread evicts it, and the
thread writes. -/
theorem not_usesAlive_evicted :
    ¬∀ (acceptSession : AcceptSession) (memory : SessionId → TcpSession)
        (bIsHeartbeat : Bool) (labels : List (Thread × Input)),
      Throughout (serverStep acceptSession) UsesAlive
        (Server.initial memory bIsHeartbeat) labels := by
  intro always
  have uses := Throughout.last
    (acceptSteps 0x7f0000001010 ++ [(.application 0, .find 16 1 [0x41])] ++
      evictSteps ++ [(.application 0, .send ⟨[.failed], true⟩)])
    (always oneModle blankMemory true (_ ++ [(.application 0, .perform)])) rfl
  have evicter := uses 0 rfl .heartbeat (List.mem_cons_self ..)
  contradiction

end TransPortEngine
