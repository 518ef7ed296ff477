import TransPortEngine.Server.Introductions

/-!
# The life of a session

Nothing comes behind `DISCONNECT`, and it comes once, as long as a session is got
rid of by one thread at a time, which is the only one to know it then. Together
with the introduction the callbacks on a session are those of a life: opened,
handed messages, closed.
-/

namespace TransPortEngine

open SessionWords Transition

/-- A session is taken from the session manager or from an epoll instance only
while no thread has begun to get rid of it, and a thread begins to get rid of it
only while no other thread has a pointer to it and no event fetched points at
it. -/
structure Sole (server : Server) (label : Thread × Input) : Prop where
  taken : ∀ session,
    server.shared.taken label.1 (server.locals label.1) label.2 =
        some session →
      ∀ other, (session, other) ∉ server.shared.destroyers
  unknown : ∀ session,
    (server.locals label.1).destroyed label.2 = some session →
      ∀ other, other ≠ label.1 → session ∉ (server.locals other).pointers
  unfetched : ∀ session,
    (server.locals label.1).destroyed label.2 = some session →
      session ∉ (server.locals label.1).batch.map Prod.fst

/-- Whoever is sole in this way owns what it gets rid of. -/
theorem Sole.owned
    {server : Server}
    {label : Thread × Input}
    (sole : Sole server label) :
    Owned server label := by
  refine ⟨?_, sole.unknown⟩
  intro session taken other destroyed
  exact absurd destroyed (sole.taken session taken other)

/-- No thread uses a session another one has begun to get rid of, so that nothing
is done to an object whose address has been given to a new session. -/
theorem usesAlive_of_sole
    {acceptSession : AcceptSession}
    {memory : SessionId → TcpSession}
    {bIsHeartbeat : Bool}
    {labels : List (Thread × Input)}
    (sole : Throughout (serverStep acceptSession) Sole
      (Server.initial memory bIsHeartbeat) labels) :
    Throughout (serverStep acceptSession) UsesAlive
      (Server.initial memory bIsHeartbeat) labels := by
  refine throughout_of_invariant ?_ ?_ (lifetimes_initial memory bIsHeartbeat) sole
  · intro server label next lifetimes sole stepped
    exact lifetimes_serverStep lifetimes sole.owned stepped
  · intro server label lifetimes sole
    exact lifetimes.usesAlive

/-- Nothing is done twice to get rid of a session, and nothing after the object
has been deleted. -/
def Teardown.Precedes (first later : Teardown) : Prop :=
  first ≠ later ∧ first ≠ .delete

instance (first later : Teardown) : Decidable (first.Precedes later) :=
  inferInstanceAs (Decidable (_ ∧ _))

/-- What is still to be done to get rid of a session is in order. -/
def Call.Orderly (call : Call) : Prop :=
  ∀ calls, call.stage = .teardown calls → calls.Pairwise Teardown.Precedes

/-- A call on a session that nobody gets rid of, or the call that gets rid of it
and has still to announce the end, or has done so. -/
inductive Lasting
    (shared : Shared)
    (thread : Thread)
    (closed : Bool)
    (call : Call) : Prop
  | alive
      (alive : ∀ other, (call.session, other) ∉ shared.destroyers)
      (noCloses : .closes ∉ callbacks call.events)
  | ending
      {calls : List Teardown}
      (destroys : (call.session, thread) ∈ shared.destroyers)
      (stage : call.stage = .teardown calls)
      (finished : .fini ∉ calls)
      (last : callbacks call.events = [] ∨
        callbacks call.events = [.closes] ∧ closed = false)

/-- Whoever gets rid of a session is the only one to know it. -/
structure Lives (session : SessionId) (closed : Bool) (server : Server) : Prop where
  constructed : Constructed server
  orderly : ∀ thread call, (server.locals thread).call = some call → call.Orderly
  unknown : ∀ destroyer, (session, destroyer) ∈ server.shared.destroyers →
    ∀ other, other ≠ destroyer → session ∉ (server.locals other).pointers
  unfetched : ∀ destroyer, (session, destroyer) ∈ server.shared.destroyers →
    session ∉ (server.locals destroyer).batch.map Prod.fst
  ended : closed = true →
    ∃ destroyer, (session, destroyer) ∈ server.shared.destroyers
  call : ∀ thread call, (server.locals thread).call = some call →
    call.session = session → Lasting server.shared thread closed call

/-! ## Single steps -/

section Steps

variable {shared : Shared} {thread : Thread} {own : Local} {call new : Call}
  {after : Shared × Local} {session : SessionId} {closed : Bool}

theorem batch_nextTeardown
    {done : Bool}
    {first : Teardown}
    {calls : List Teardown}
    (advanced : nextTeardown shared thread own call done calls first =
      some after) :
    after.2.batch = own.batch := by
  cases first with
  | delSession nSocket =>
      obtain ⟨-, rfl⟩ := nextTeardown_delSession advanced
      rfl
  | delEvent | fini | delete =>
      obtain rfl := Option.some.inj advanced
      rfl

/-- A thread in a call keeps the events it has fetched. -/
theorem batch_callStep
    {input : Input}
    (advanced : callStep shared thread own call input = some after) :
    after.2.batch = own.batch := by
  cases callStep_cases advanced with
  | perform | receive | send => rfl
  | goOn _ advanced =>
      cases afterCall_cases advanced with
      | giveUp | addSession | addEvent | postRecv | receive | returned => rfl
      | drop _ _ dropped =>
          obtain ⟨-, _, _, rfl⟩ := dropFailed_eq_some dropped
          rfl
      | teardown _ advanced => exact batch_nextTeardown advanced

/-- An event a thread has fetched is one it had, or one it takes. -/
theorem batch_threadStep
    {acceptSession : AcceptSession}
    {input : Input}
    (advanced : threadStep acceptSession shared thread own input = some after)
    (member : session ∈ after.2.batch.map Prod.fst) :
    session ∈ own.batch.map Prod.fst ∨
      shared.taken thread own input = some session := by
  unfold threadStep at advanced
  split at advanced
  · rw [batch_callStep advanced] at member
    exact Or.inl member
  · cases idleStep_cases advanced with
    | accept =>
        rw [(acceptConnection_frame _ _ _ _ _).2.2.2] at member
        exact Or.inl member
    | fetch _ _ fetched =>
        obtain ⟨registration, registered, -, rfl, -, -⟩ :=
          Kernel.fetch_eq_some fetched
        rw [List.map_append] at member
        rcases List.mem_append.mp member with old | new
        · exact Or.inl old
        · right
          simp only [List.map_cons, List.map_nil, List.mem_singleton] at new
          simp [Shared.taken, registered, new]
    | handle _ fetched handled =>
        left
        rw [fetched]
        cases handleFetched_cases handled with
        | ignore | pointless | send | receive =>
            exact List.mem_cons_of_mem _ member
    | enterHeartbeat _ _ entered | enterStop _ entered =>
        obtain ⟨-, rfl⟩ := enterSweep_eq_some entered
        exact Or.inl member
    | find | leaveHeartbeat | leaveStop | passOver | evict | finish =>
        exact Or.inl member

/-- A thread that begins to get rid of a session takes none. -/
theorem taken_of_destroyed
    {input : Input}
    (destroyed : own.destroyed input = some session) :
    shared.taken thread own input = none := by
  have nothing : ∀ done, shared.taken thread own (.next done) = none := by
    intro done
    unfold Shared.taken
    split
    · contradiction
    · contradiction
    · contradiction
    · contradiction
    · rfl
  unfold Local.destroyed at destroyed
  split at destroyed
  · exact nothing _
  · exact nothing _
  · contradiction

theorem orderly_of_stage
    {calls : List Teardown}
    (stage : call.stage = .teardown calls)
    (ordered : calls.Pairwise Teardown.Precedes) :
    call.Orderly := by
  intro others isStage
  rw [stage] at isStage
  injection isStage with same
  exact same ▸ ordered

/-- A call that has not come to a teardown. -/
theorem orderly_of_ne (other : ∀ calls, call.stage ≠ .teardown calls) :
    call.Orderly :=
  fun calls isStage => absurd isStage (other calls)

theorem orderly_giveUp
    {calls : List Teardown}
    (failed : call.GivesUp calls) :
    Call.Orderly { call with stage := .teardown calls } := by
  apply orderly_of_stage rfl
  unfold Call.GivesUp at failed
  split at failed
  · rw [failed.2]
    decide
  · rw [failed.2]
    simp [Teardown.Precedes]
  · rw [failed.2]
    simp [Teardown.Precedes]
  · contradiction

theorem orderly_dropFailed
    {modle : Nat}
    {nSock : Int}
    (dropped : dropFailed shared own modle session nSock = some after)
    (goesOn : after.2.call = some new) :
    new.Orderly := by
  unfold dropFailed at dropped
  split at dropped
  · obtain rfl := Option.some.inj dropped
    obtain ⟨calls, isCalls, rfl⟩ := Option.map_eq_some_iff.mp goesOn
    apply orderly_of_stage rfl
    split at isCalls
    · split at isCalls
      · obtain rfl := Option.some.inj isCalls
        decide
      · contradiction
    · obtain rfl := Option.some.inj isCalls
      decide
  · contradiction

theorem orderly_nextTeardown
    {done : Bool}
    {first : Teardown}
    {calls : List Teardown}
    (ordered : calls.Pairwise Teardown.Precedes)
    (advanced : nextTeardown shared thread own call done calls first =
      some after)
    (goesOn : after.2.call = some new) :
    new.Orderly := by
  cases first with
  | delSession nSocket =>
      obtain ⟨-, rfl⟩ := nextTeardown_delSession advanced
      exact Option.some.inj goesOn ▸ orderly_of_stage rfl ordered
  | delEvent | fini | delete =>
      obtain rfl := Option.some.inj advanced
      exact Option.some.inj goesOn ▸ orderly_of_stage rfl ordered

theorem orderly_callStep
    {input : Input}
    (orderly : call.Orderly)
    (advanced : callStep shared thread own call input = some after)
    (goesOn : after.2.call = some new) :
    new.Orderly := by
  cases callStep_cases advanced with
  | perform => exact Option.some.inj goesOn ▸ orderly
  | receive | send => exact Option.some.inj goesOn ▸ orderly_of_ne nofun
  | goOn _ advanced =>
      cases afterCall_cases advanced with
      | giveUp failed => exact Option.some.inj goesOn ▸ orderly_giveUp failed
      | addSession | addEvent | postRecv | receive =>
          exact Option.some.inj goesOn ▸ orderly_of_ne nofun
      | drop _ _ dropped => exact orderly_dropFailed dropped goesOn
      | teardown stage advanced =>
          exact orderly_nextTeardown (orderly _ stage).of_cons advanced goesOn
      | returned => contradiction

theorem orderly_idleStep
    {acceptSession : AcceptSession}
    {input : Input}
    (idle : own.call = none)
    (advanced : idleStep acceptSession shared thread own input = some after)
    (begins : after.2.call = some new) :
    new.Orderly := by
  have none : own.call ≠ some new := by
    rw [idle]
    nofun
  cases idleStep_cases advanced with
  | accept =>
      unfold acceptConnection at begins
      dsimp only at begins
      split at begins
      · exact Option.some.inj begins ▸ orderly_of_stage rfl (by decide)
      · exact Option.some.inj begins ▸ orderly_of_ne nofun
  | handle _ _ handled =>
      cases handleFetched_cases handled with
      | ignore | pointless => exact absurd begins none
      | send | receive => exact Option.some.inj begins ▸ orderly_of_ne nofun
  | find =>
      obtain ⟨session, -, rfl⟩ := Option.map_eq_some_iff.mp begins
      exact orderly_of_ne nofun
  | enterHeartbeat _ _ entered | enterStop _ entered =>
      obtain ⟨-, rfl⟩ := enterSweep_eq_some entered
      exact absurd begins none
  | evict | finish =>
      exact Option.some.inj begins ▸ orderly_of_stage rfl (by decide)
  | fetch | leaveHeartbeat | leaveStop | passOver => exact absurd begins none

/-! ## The end of a session -/

/-- A step of a teardown on a session nobody gets rid of: the thread may begin to
get rid of it. -/
theorem lasting_nextTeardown
    {done : Bool}
    {first : Teardown}
    {calls : List Teardown}
    (alive : ∀ other, (call.session, other) ∉ shared.destroyers)
    (notClosed : closed = false)
    (quiet : call.events = [])
    (ordered : (first :: calls).Pairwise Teardown.Precedes)
    (advanced : nextTeardown shared thread own call done calls first =
      some after)
    (goesOn : after.2.call = some new) :
    Lasting after.1 thread closed new := by
  have precedes := (List.pairwise_cons.mp ordered).1
  cases first with
  | delSession nSocket =>
      obtain ⟨-, rfl⟩ := nextTeardown_delSession advanced
      obtain rfl := Option.some.inj goesOn
      refine .alive alive ?_
      dsimp only
      rw [quiet]
      exact List.not_mem_nil
  | delEvent =>
      obtain rfl := Option.some.inj advanced
      obtain rfl := Option.some.inj goesOn
      exact .alive alive List.not_mem_nil
  | fini =>
      obtain rfl := Option.some.inj advanced
      obtain rfl := Option.some.inj goesOn
      refine .ending List.mem_cons_self rfl ?_ ?_
      · exact fun again => (precedes _ again).1 rfl
      · dsimp only
        rw [TcpSession.callbacks_fini]
        split
        · exact Or.inr ⟨rfl, notClosed⟩
        · exact Or.inl rfl
  | delete =>
      obtain rfl := Option.some.inj advanced
      obtain rfl := Option.some.inj goesOn
      refine .ending List.mem_cons_self rfl ?_ (Or.inl ?_)
      · exact fun later => (precedes _ later).2 rfl
      · exact TcpSession.callbacks_delete _

/-- A thread goes on with a session nobody gets rid of. -/
theorem lasting_afterCall
    {done : Bool}
    (alive : ∀ other, (call.session, other) ∉ shared.destroyers)
    (notClosed : closed = false)
    (orderly : call.Orderly)
    (quiet : call.events = [])
    (advanced : afterCall shared thread own call done = some after)
    (goesOn : after.2.call = some new) :
    Lasting after.1 thread closed new := by
  cases afterCall_cases advanced with
  | giveUp | addSession | receive =>
      obtain rfl := Option.some.inj goesOn
      refine .alive alive ?_
      dsimp only
      rw [quiet]
      exact List.not_mem_nil
  | addEvent | postRecv =>
      obtain rfl := Option.some.inj goesOn
      exact .alive alive (by nofun)
  | drop _ _ dropped =>
      obtain ⟨-, _, calls, rfl⟩ := dropFailed_eq_some dropped
      obtain ⟨_, -, rfl⟩ := Option.map_eq_some_iff.mp goesOn
      exact .alive alive List.not_mem_nil
  | teardown stage advanced =>
      exact lasting_nextTeardown alive notClosed quiet (orderly _ stage) advanced
        goesOn
  | returned => contradiction

/-- A thread goes on to get rid of a session. -/
theorem ending_afterCall
    {done : Bool}
    {calls : List Teardown}
    (destroys : (call.session, thread) ∈ shared.destroyers)
    (stage : call.stage = .teardown calls)
    (finished : .fini ∉ calls)
    (quiet : call.events = [])
    (advanced : afterCall shared thread own call done = some after)
    (goesOn : after.2.call = some new) :
    Lasting after.1 thread closed new := by
  cases afterCall_cases advanced with
  | giveUp failed =>
      rw [Call.GivesUp, stage] at failed
      contradiction
  | addSession other | addEvent other | postRecv other | receive other =>
      rw [stage] at other
      contradiction
  | drop other =>
      rw [stage] at other
      rcases other with impossible | impossible
      · contradiction
      · contradiction
  | returned => contradiction
  | @teardown first rest _ isStage advanced =>
      rw [stage] at isStage
      injection isStage with isCalls
      subst isCalls
      have later : Teardown.fini ∉ rest := fun member =>
        finished (List.mem_cons_of_mem _ member)
      cases first with
      | fini => exact absurd List.mem_cons_self finished
      | delSession nSocket =>
          obtain ⟨-, rfl⟩ := nextTeardown_delSession advanced
          obtain rfl := Option.some.inj goesOn
          refine .ending destroys rfl later (Or.inl ?_)
          dsimp only
          rw [quiet]
          rfl
      | delEvent =>
          obtain rfl := Option.some.inj advanced
          obtain rfl := Option.some.inj goesOn
          exact .ending destroys rfl later (Or.inl rfl)
      | delete =>
          obtain rfl := Option.some.inj advanced
          obtain rfl := Option.some.inj goesOn
          refine .ending List.mem_cons_self rfl later (Or.inl ?_)
          exact TcpSession.callbacks_delete _

/-- Performing an event changes nothing about who gets rid of what. -/
theorem destroyers_perform
    {next : Shared}
    {modle : Nat}
    {event : EngineEvent}
    (performed : shared.perform thread session modle event = some next) :
    next.destroyers = shared.destroyers := by
  cases performStep_of_perform performed with
  | lock | unlock | kernel => rfl

/-- The monitor follows a thread in a call on the session, and the session is
closed by the thread that gets rid of it. -/
theorem lasting_callStep
    {input : Input}
    (inCall : own.call = some call)
    (lasting : Lasting shared thread closed call)
    (notClosed : (∀ other, (call.session, other) ∉ shared.destroyers) →
      closed = false)
    (orderly : call.Orderly)
    (advanced : callStep shared thread own call input = some after) :
    ∃ later, run conclude closed (own.callback call.session input) = some later ∧
      (∀ new, after.2.call = some new → Lasting after.1 thread later new) ∧
        (later = closed ∨ (call.session, thread) ∈ shared.destroyers) := by
  have silent : ∀ {input}, input ≠ .perform →
      run conclude closed (own.callback call.session input) = some closed := by
    intro input notPerform
    rw [callback_of_ne notPerform]
    rfl
  cases callStep_cases advanced with
  | @perform event events next first performed =>
      obtain ⟨session, modle, _, stage⟩ := call
      dsimp only at first performed notClosed
      subst first
      dsimp only
      rw [callback_perform inCall]
      have destroyers := destroyers_perform performed
      cases lasting with
      | alive alive noCloses =>
          rw [callbacks_cons] at noCloses
          have rest : .closes ∉ callbacks events := fun member =>
            noCloses (List.mem_append_right _ member)
          refine ⟨closed, ?_, fun new goesOn => ?_, Or.inl rfl⟩
          · rw [notClosed alive]
            cases isToken : event.token with
            | none => rfl
            | some token =>
                rw [isToken] at noCloses
                cases token with
                | opens | item => rfl
                | closes => exact absurd List.mem_cons_self noCloses
          · rw [← Option.some.inj goesOn]
            refine .alive ?_ rest
            rw [destroyers]
            exact alive
      | ending destroys stage finished last =>
          rw [← destroyers] at destroys
          rw [callbacks_cons] at last
          rcases last with none | ⟨one, rfl⟩
          · rw [List.append_eq_nil_iff] at none
            refine ⟨closed, by rw [none.1]; rfl, fun new goesOn => ?_, Or.inl rfl⟩
            rw [← Option.some.inj goesOn]
            exact .ending destroys stage finished (Or.inl none.2)
          · cases isToken : event.token with
            | none =>
                rw [isToken] at one
                refine ⟨false, rfl, fun new goesOn => ?_, Or.inl rfl⟩
                rw [← Option.some.inj goesOn]
                exact .ending destroys stage finished (Or.inr ⟨one, rfl⟩)
            | some token =>
                rw [isToken] at one
                obtain ⟨rfl, nothing⟩ := List.cons.inj one
                refine ⟨true, rfl, fun new goesOn => ?_, Or.inr ?_⟩
                · rw [← Option.some.inj goesOn]
                  exact .ending destroys stage finished (Or.inl nothing)
                · rw [← destroyers]
                  exact destroys
  | goOn quiet advanced =>
      refine ⟨closed, silent nofun, fun new goesOn => ?_, Or.inl rfl⟩
      cases lasting with
      | alive alive =>
          exact lasting_afterCall alive (notClosed alive) orderly quiet advanced
            goesOn
      | ending destroys stage finished =>
          exact ending_afterCall destroys stage finished quiet advanced goesOn
  | receive _ isStage =>
      refine ⟨closed, silent nofun, fun new goesOn => ?_, Or.inl rfl⟩
      cases lasting with
      | alive alive =>
          rw [← Option.some.inj goesOn]
          refine .alive alive ?_
          dsimp only
          rcases TcpSession.handsOn_ioRecvPass _ _ with none | ⟨-, one⟩
          · rw [none]
            exact List.not_mem_nil
          · rw [one]
            decide
      | ending _ stage =>
          rw [stage] at isStage
          contradiction
  | send _ isStage _ isSent =>
      subst isSent
      refine ⟨closed, silent nofun, fun new goesOn => ?_, Or.inl rfl⟩
      cases lasting with
      | alive alive =>
          rw [← Option.some.inj goesOn]
          refine .alive alive ?_
          dsimp only
          rw [TcpSession.callbacks_ioSend]
          exact List.not_mem_nil
      | ending _ stage =>
          rw [stage] at isStage
          contradiction

/-- What is written down about who gets rid of sessions stays. -/
theorem destroyers_afterCall
    {done : Bool}
    (advanced : afterCall shared thread own call done = some after) :
    shared.destroyers ⊆ after.1.destroyers := by
  cases afterCall_cases advanced with
  | giveUp | addSession | addEvent | postRecv | receive | returned =>
      exact List.Subset.refl _
  | drop _ _ dropped =>
      obtain ⟨-, _, _, rfl⟩ := dropFailed_eq_some dropped
      exact List.Subset.refl _
  | @teardown first _ _ _ advanced =>
      cases first with
      | delSession nSocket =>
          obtain ⟨-, rfl⟩ := nextTeardown_delSession advanced
          exact List.Subset.refl _
      | delEvent =>
          obtain rfl := Option.some.inj advanced
          exact List.Subset.refl _
      | fini | delete =>
          obtain rfl := Option.some.inj advanced
          exact List.subset_cons_self _ _

theorem destroyers_callStep
    {input : Input}
    (advanced : callStep shared thread own call input = some after) :
    shared.destroyers ⊆ after.1.destroyers := by
  cases callStep_cases advanced with
  | perform _ performed =>
      exact (destroyers_perform performed).symm ▸ List.Subset.refl _
  | goOn _ advanced => exact destroyers_afterCall advanced
  | receive | send => exact List.Subset.refl _

/-- A thread between two calls gets rid of nothing. -/
theorem destroyers_idleStep
    {acceptSession : AcceptSession}
    {input : Input}
    (advanced : idleStep acceptSession shared thread own input = some after) :
    after.1.destroyers = shared.destroyers := by
  cases idleStep_cases advanced with
  | accept =>
      unfold acceptConnection
      dsimp only
      split
      · rfl
      · rfl
  | handle _ _ handled =>
      cases handleFetched_cases handled with
      | ignore | pointless | send | receive => rfl
  | enterHeartbeat _ _ entered | enterStop _ entered =>
      obtain ⟨-, rfl⟩ := enterSweep_eq_some entered
      rfl
  | fetch | find | leaveHeartbeat | leaveStop | passOver | evict | finish => rfl

end Steps

/-! ## Runs -/

section Runs

variable {acceptSession : AcceptSession} {server next : Server}
  {label : Thread × Input} {own : Local} {session : SessionId}
  {closed later : Bool}

theorem lives_initial
    (session : SessionId)
    (memory : SessionId → TcpSession)
    (bIsHeartbeat : Bool) :
    Lives session false (Server.initial memory bIsHeartbeat) := by
  refine ⟨constructed_initial memory bIsHeartbeat, ?_, ?_, ?_, nofun, ?_⟩
  · intro thread call impossible
    contradiction
  · intro destroyer impossible
    contradiction
  · intro destroyer impossible
    contradiction
  · intro thread call impossible
    contradiction

/-- A session a thread comes to know is one nobody gets rid of. -/
theorem Lives.pointed
    (lives : Lives session closed server)
    (sole : Sole server label)
    (advanced : threadStep acceptSession server.shared label.1
      (server.locals label.1) label.2 = some (next.shared, own))
    (member : session ∈ own.pointers) :
    session ∈ (server.locals label.1).pointers ∨
      ∀ other, (session, other) ∉ server.shared.destroyers := by
  rcases (sourced_threadStep advanced).pointer session member with
    old | taken | ⟨new, -⟩
  · exact Or.inl old
  · exact Or.inr (sole.taken session taken)
  · refine Or.inr fun other destroys => ?_
    have bounded := lives.constructed.destroyer _ destroys
    simp only [new, lt_irrefl] at bounded

/-- A step that keeps what is written down, and after which its thread is in a
call that fits. -/
theorem Lives.step
    (lives : Lives session closed server)
    (sole : Sole server label)
    (stepped : serverStep acceptSession server label = some next)
    (advanced : threadStep acceptSession server.shared label.1
      (server.locals label.1) label.2 = some (next.shared, own))
    (locals : next.locals = Function.update server.locals label.1 own)
    (keeps : server.shared.destroyers ⊆ next.shared.destroyers)
    (moved : later = closed ∨ (session, label.1) ∈ server.shared.destroyers)
    (orderly : ∀ new, own.call = some new → new.Orderly)
    (call : ∀ new, own.call = some new → new.session = session →
      Lasting next.shared label.1 later new) :
    Lives session later next := by
  have destroys := (sourced_threadStep advanced).destroyer
  refine ⟨constructed_serverStep lives.constructed stepped, ?_, ?_, ?_, ?_, ?_⟩
  · intro thread other inCall
    rw [locals] at inCall
    by_cases isSelf : thread = label.1
    · subst isSelf
      rw [Function.update_self] at inCall
      exact orderly other inCall
    · rw [Function.update_of_ne isSelf] at inCall
      exact lives.orderly thread other inCall
  · intro destroyer destroyed other different member
    rw [locals] at member
    rcases destroys _ destroyed with old | ⟨rfl, begins⟩
    · by_cases isSelf : other = label.1
      · subst isSelf
        rw [Function.update_self] at member
        rcases lives.pointed sole advanced member with known | alive
        · exact lives.unknown destroyer old _ different known
        · exact alive destroyer old
      · rw [Function.update_of_ne isSelf] at member
        exact lives.unknown destroyer old other different member
    · rw [Function.update_of_ne different] at member
      exact sole.unknown session begins other different member
  · intro destroyer destroyed member
    rw [locals] at member
    rcases destroys _ destroyed with old | ⟨rfl, begins⟩
    · by_cases isSelf : destroyer = label.1
      · subst isSelf
        rw [Function.update_self] at member
        rcases batch_threadStep advanced member with known | taken
        · exact lives.unfetched _ old known
        · exact sole.taken session taken _ old
      · rw [Function.update_of_ne isSelf] at member
        exact lives.unfetched destroyer old member
    · rw [Function.update_self] at member
      rcases batch_threadStep advanced member with known | taken
      · exact sole.unfetched session begins known
      · rw [taken_of_destroyed begins] at taken
        contradiction
  · intro isClosed
    rcases moved with same | destroyed
    · obtain ⟨destroyer, destroyed⟩ := lives.ended (same ▸ isClosed)
      exact ⟨destroyer, keeps destroyed⟩
    · exact ⟨label.1, keeps destroyed⟩
  · intro thread other inCall isSession
    rw [locals] at inCall
    by_cases isSelf : thread = label.1
    · subst isSelf
      rw [Function.update_self] at inCall
      exact call other inCall isSession
    · rw [Function.update_of_ne isSelf] at inCall
      have known : session ∈ (server.locals thread).pointers :=
        isSession ▸ session_mem_pointers inCall
      cases lives.call thread other inCall isSession with
      | alive alive noCloses =>
          refine .alive (fun destroyer destroyed => ?_) noCloses
          rcases destroys _ destroyed with old | ⟨-, begins⟩
          · exact alive destroyer old
          · exact sole.unknown _ begins thread isSelf (isSession.symm ▸ known)
      | ending destroyed stage finished last =>
          refine .ending (keeps destroyed) stage finished ?_
          rcases moved with rfl | byMover
          · exact last
          · exact absurd known (lives.unknown label.1 byMover thread isSelf)

/-- The monitor follows every step of threads that own what they get rid of. -/
theorem Lives.serverStep
    (lives : Lives session closed server)
    (sole : Sole server label)
    (stepped : serverStep acceptSession server label = some next) :
    ∃ later, run conclude closed (server.callback session label) = some later ∧
      Lives session later next := by
  obtain ⟨own, advanced, locals⟩ := serverStep_eq_some stepped
  have whole := advanced
  have notClosed : (∀ other, (session, other) ∉ server.shared.destroyers) →
      closed = false := by
    intro alive
    by_contra isClosed
    obtain ⟨destroyer, destroyed⟩ :=
      lives.ended (Bool.eq_true_of_not_eq_false isClosed)
    exact alive destroyer destroyed
  unfold threadStep at advanced
  split at advanced
  · rename_i call inCall
    have orderly := lives.orderly label.1 call inCall
    have orderlyNext : ∀ new, own.call = some new → new.Orderly :=
      fun new goesOn => orderly_callStep orderly advanced goesOn
    by_cases isSession : call.session = session
    · subst isSession
      obtain ⟨later, followed, fits, moved⟩ := lasting_callStep inCall
        (lives.call label.1 call inCall rfl) notClosed orderly advanced
      exact ⟨later, followed, lives.step sole stepped whole locals
        (destroyers_callStep advanced) moved orderlyNext
        fun new goesOn _ => fits new goesOn⟩
    · refine ⟨closed, ?_, lives.step sole stepped whole locals
        (destroyers_callStep advanced) (Or.inl rfl) orderlyNext ?_⟩
      · rw [Server.callback, callback_other inCall isSession]
        rfl
      · intro new goesOn isSame
        exact absurd ((session_callStep advanced goesOn).symm.trans isSame)
          isSession
  · rename_i idle
    have destroyers := destroyers_idleStep advanced
    rw [Server.callback, callback_idle idle]
    refine ⟨closed, rfl, lives.step sole stepped whole locals
      (destroyers ▸ List.Subset.refl _) (Or.inl rfl)
      (fun new begins => orderly_idleStep idle advanced begins) ?_⟩
    intro new begins isSession
    refine .alive (fun destroyer destroyed => ?_) ?_
    · rw [isSession, destroyers] at destroyed
      rcases lives.pointed sole whole (isSession ▸ session_mem_pointers begins)
        with old | alive
      · rw [Local.pointers, idle] at old
        have fetched := (List.mem_append.mp old).resolve_right List.not_mem_nil
        by_cases isSelf : destroyer = label.1
        · exact lives.unfetched destroyer destroyed (isSelf ▸ fetched)
        · exact lives.unknown destroyer destroyed label.1 (Ne.symm isSelf)
            (List.mem_append_left _ fetched)
      · exact alive destroyer destroyed
    · rcases steadyStep_idleStep idle advanced with ⟨-, silent⟩ |
        ⟨nAcceptSock, garbage, address, now, positive, -, accepts⟩
      · rw [silent new begins]
        exact List.not_mem_nil
      · have isOwn := congrArg Prod.snd accepts
        dsimp only at isOwn
        rw [isOwn] at begins
        cases (fits_acceptConnection positive begins).2 with
        | introducing _ _ introducing =>
            rw [introducing.announces]
            decide
        | dismissing _ _ dismissing =>
            rw [dismissing.quiet]
            exact List.not_mem_nil
        | continuing _ continuing =>
            have none : callbacks new.events = [] := by
              by_contra some
              exact absurd (continuing.late some) (by decide)
            rw [none]
            exact List.not_mem_nil

end Runs

/-- In every run in which only the owner of a session gets rid of it, the callbacks
on a session are those of a life: `CONNECT` first, then messages, and `DISCONNECT`
last if at all. -/
theorem callbacks_life
    (acceptSession : AcceptSession)
    (memory : SessionId → TcpSession)
    (bIsHeartbeat : Bool)
    (session : SessionId)
    (labels : List (Thread × Input))
    (sole : Throughout (serverStep acceptSession) Sole
      (Server.initial memory bIsHeartbeat) labels) :
    Life (Server.callbackWord acceptSession session
      (Server.initial memory bIsHeartbeat) labels) := by
  obtain ⟨final, accepted⟩ := collect_monitored
    (fun _ _ _ _ lives sole stepped => Lives.serverStep lives sole stepped)
    (lives_initial session memory bIsHeartbeat) sole
  exact life_of_run (opened_first acceptSession memory bIsHeartbeat session labels)
    accepted

/-! ## A session that is accepted and evicted -/

/-- A step in which nothing is taken and nothing destroyed. -/
theorem sole_of_none
    {server : Server}
    {label : Thread × Input}
    (taken : server.shared.taken label.1 (server.locals label.1) label.2 = none)
    (destroyed : (server.locals label.1).destroyed label.2 = none) :
    Sole server label := by
  refine ⟨?_, ?_, ?_⟩
  · intro session some
    rw [taken] at some
    contradiction
  · intro session some
    rw [destroyed] at some
    contradiction
  · intro session some
    rw [destroyed] at some
    contradiction

/-- A step in which nothing is destroyed, before anything has been. -/
theorem sole_of_undestroyed
    {server : Server}
    {label : Thread × Input}
    (destroyers : server.shared.destroyers = [])
    (destroyed : (server.locals label.1).destroyed label.2 = none) :
    Sole server label := by
  refine ⟨?_, ?_, ?_⟩
  · intro session _ other
    rw [destroyers]
    exact List.not_mem_nil
  · intro session some
    rw [destroyed] at some
    contradiction
  · intro session some
    rw [destroyed] at some
    contradiction

/-- A step in which a session is destroyed that only this call knows. -/
theorem sole_of_unknown
    {server : Server}
    {label : Thread × Input}
    (taken : server.shared.taken label.1 (server.locals label.1) label.2 = none)
    (unknown : ∀ other, other ≠ label.1 →
      (server.locals other).pointers = [])
    (unfetched : (server.locals label.1).batch = []) :
    Sole server label := by
  refine ⟨?_, ?_, ?_⟩
  · intro session some
    rw [taken] at some
    contradiction
  · intro session _ other different
    rw [unknown other different]
    exact List.not_mem_nil
  · intro session _
    rw [unfetched]
    exact List.not_mem_nil

theorem callbacks_life_acceptEvict :
    Life (Server.callbackWord oneModle 0 (Server.initial blankMemory true)
      (acceptSteps 0x7f0000001010 ++ evictSteps)) := by
  apply callbacks_life
  simp only [acceptSteps, evictSteps, List.map_cons, List.map_nil,
    List.cons_append, List.nil_append]
  iterate 11 refine throughout_cons rfl (sole_of_none rfl rfl) ?_
  apply throughout_cons rfl (sole_of_undestroyed rfl rfl)
  iterate 4 refine throughout_cons rfl (sole_of_none rfl rfl) ?_
  refine throughout_cons rfl (sole_of_unknown rfl (fun other different => ?_) rfl) ?_
  · cases other with
    | heartbeat => contradiction
    | _ => rfl
  iterate 4 refine throughout_cons rfl (sole_of_none rfl rfl) ?_
  refine throughout_cons rfl (sole_of_unknown rfl (fun other different => ?_) rfl) ?_
  · cases other with
    | heartbeat => contradiction
    | _ => rfl
  iterate 5 refine throughout_cons rfl (sole_of_none rfl rfl) ?_
  trivial

/-- The application hears of its beginning and of its end. -/
example : Server.callbackWord oneModle 0 (Server.initial blankMemory true)
    (acceptSteps 0x7f0000001010 ++ evictSteps) = [.opens, .closes] := by
  rfl

end TransPortEngine
