import TransPortEngine.TcpClient.Control

/-!
# The sockets of a client

`m_nSocket` is overwritten by every call of `socket` and closed in three places,
none of which resets it. What a value of it stands for depends on what has become
of the socket made last, and the client closes exactly its own sockets as long as
no socket is made while one is open, and the last one is open in the end.
-/

namespace TransPortEngine

open Transition

/-- What has become of the last call of `socket`: there was none; it failed; its
socket is open, or has been closed; it was descriptor 0, which the client takes
for a failure; or it failed and took the place of an open socket. -/
inductive SocketFate
  | none
  | failed
  | opened
  | closed
  | zero
  | lost
  deriving DecidableEq, Repr

namespace SocketFate

/-- A socket is open that `socket` has returned before. -/
def Holds (fate : SocketFate) : Prop :=
  fate = opened ∨ fate = zero ∨ fate = lost

instance (fate : SocketFate) : Decidable fate.Holds :=
  inferInstanceAs (Decidable (_ ∨ _ ∨ _))

/-- The next call of `socket`. -/
def next (fate : SocketFate) (nSocket : Int) : SocketFate :=
  if 0 < nSocket then opened
  else if nSocket = 0 then zero
  else if fate.Holds then lost
  else failed

end SocketFate

/-- The sockets a client has made and not closed, and whether it has closed a
descriptor that was none of them. -/
structure SocketLedger where
  openSockets : List Int
  foreign : Bool
  fate : SocketFate

namespace SocketLedger

/-- No socket has been made. -/
def initial : SocketLedger :=
  ⟨[], false, .none⟩

/-- `socket`. -/
def socket (ledger : SocketLedger) (nSocket : Int) : SocketLedger :=
  { ledger with
    openSockets := if nSocket < 0 then ledger.openSockets
      else nSocket :: ledger.openSockets
    fate := ledger.fate.next nSocket }

/-- `close`. -/
def close (ledger : SocketLedger) (nSocket : Int) : SocketLedger :=
  { openSockets := ledger.openSockets.erase nSocket
    foreign := ledger.foreign || !decide (nSocket ∈ ledger.openSockets)
    fate := .closed }

/-- The descriptor a step asks the kernel for. -/
def call (ledger : SocketLedger) : LinkLabel → SocketLedger
  | .keepAlive (.socket nSocket) => ledger.socket nSocket
  | _ => ledger

/-- A step of a client with the descriptors it closes. -/
def note
    (ledger : SocketLedger)
    (label : LinkLabel)
    (closes : List Int) : SocketLedger :=
  closes.foldl close (ledger.call label)

/-- The call of `socket` in `TcpClient_SocketInit`. -/
def socketInit
    (arguments : ClientArguments)
    (results : SocketInitResults) : SocketLedger :=
  if arguments.hasTransPortEngineRecv = true ∧ arguments.bIsHaveHB = false then
    initial.socket results.nSocket
  else initial

/-- At most one socket is open, and no other descriptor has been closed. -/
structure Sound (ledger : SocketLedger) : Prop where
  one : ledger.openSockets.length ≤ 1
  own : ledger.foreign = false

/-- The condition on a step: no socket is made while one is open, and the last
close is one of an open socket, or there is none. -/
def Careful (ledger : SocketLedger) (control : Control) : LinkLabel → Prop
  | .keepAlive (.socket nSocket) => nSocket < 0 ∨ ¬ledger.fate.Holds
  | .socketUnit =>
      control.socketUnit = .stopping ∧ control.bRecvFlag = false ∨
          control.socketUnit = .joiningReceiver →
        ledger.fate = .opened ∨ ledger.fate = .none ∧ control.nSocket = 0
  | _ => True

end SocketLedger

/-- A client and its sockets. -/
structure ClientSockets where
  link : Link
  ledger : SocketLedger

namespace ClientSockets

/-- `TransPortEngine_CreateClient`. -/
def start
    (garbage : ClientGarbage)
    (arguments : ClientArguments)
    (results : SocketInitResults) : ClientSockets where
  link := Link.createClient garbage arguments results
  ledger := (Link.createClient garbage arguments results).control.closes.foldl
    SocketLedger.close (SocketLedger.socketInit arguments results)

/-- A new descriptor is none of the open ones. -/
def Fresh (sockets : ClientSockets) : LinkLabel → Prop
  | .keepAlive (.socket nSocket) => nSocket ∉ sockets.ledger.openSockets
  | _ => True

instance (sockets : ClientSockets) (label : LinkLabel) :
    Decidable (sockets.Fresh label) := by
  unfold Fresh
  split <;> infer_instance

/-- A step of the client. -/
def step (sockets : ClientSockets) (label : LinkLabel) : Option ClientSockets :=
  if sockets.Fresh label then
    (linkStep sockets.link label).map fun link =>
      ⟨link, sockets.ledger.note label
        (link.control.closes.drop sockets.link.control.closes.length)⟩
  else none

/-- At most one socket is open, no other descriptor has been closed, and none is
open when the client is deleted. -/
structure Disciplined (sockets : ClientSockets) : Prop where
  sound : sockets.ledger.Sound
  none : sockets.link.socketUnit = .returned → sockets.ledger.openSockets = []

/-- The condition on a step of a client. -/
def Careful (sockets : ClientSockets) (label : LinkLabel) : Prop :=
  sockets.ledger.Careful sockets.link.control label

/-- The condition on `TransPortEngine_CreateClient`: descriptor 0 is not taken
for a failure. -/
def StartsCareful
    (arguments : ClientArguments)
    (results : SocketInitResults) : Prop :=
  arguments.hasTransPortEngineRecv = true → arguments.bIsHaveHB = false →
    results.nSocket ≠ 0

end ClientSockets

/-! ## What the member stands for -/

/-- The open sockets, by what has become of the last one. -/
def SocketFate.Opens
    (nSocket : Int)
    (openSockets : List Int) : SocketFate → Prop
  | .none => openSockets = []
  | .failed => openSockets = [] ∧ nSocket < 0
  | .opened => openSockets = [nSocket] ∧ 0 < nSocket
  | .closed => openSockets = [] ∧ 0 < nSocket
  | .zero => openSockets = [0] ∧ nSocket = 0
  | .lost => (∃ other, openSockets = [other] ∧ 0 ≤ other) ∧ nSocket < 0

/-- While the client connects or is connected its last socket is open. -/
def KeepAliveStage.Connects (nLinkStatus : MsgType) : KeepAliveStage → Prop
  | .connecting | .starting | .greeting | .dropping => True
  | .loop | .woken => nLinkStatus = .connect
  | .joining | .returned => False

/-- The open sockets are those the member and its history tell of. -/
structure Kept (control : Control) (ledger : SocketLedger) : Prop where
  ordered : control.Ordered
  own : ledger.foreign = false
  opens : ledger.fate.Opens control.nSocket ledger.openSockets
  connects : control.keepAlive.Connects control.nLinkStatus →
    ledger.fate = .opened
  none : control.socketUnit = .returned → ledger.openSockets = []

namespace SocketFate

variable {fate : SocketFate} {nSocket : Int} {openSockets : List Int}

/-- A socket that has been returned before is open. -/
theorem Opens.of_holds
    (opens : fate.Opens nSocket openSockets)
    (holds : fate.Holds) :
    ∃ other, openSockets = [other] ∧ 0 ≤ other := by
  rcases holds with rfl | rfl | rfl
  · exact ⟨nSocket, opens.1, opens.2.le⟩
  · exact ⟨0, opens.1, le_rfl⟩
  · exact opens.1

/-- No socket is open otherwise. -/
theorem Opens.of_not_holds
    (opens : fate.Opens nSocket openSockets)
    (holdsNone : ¬fate.Holds) :
    openSockets = [] := by
  cases fate with
  | none => exact opens
  | failed => exact opens.1
  | closed => exact opens.1
  | opened => exact absurd (Or.inl rfl) holdsNone
  | zero => exact absurd (Or.inr (Or.inl rfl)) holdsNone
  | lost => exact absurd (Or.inr (Or.inr rfl)) holdsNone

theorem Opens.length_le
    (opens : fate.Opens nSocket openSockets) :
    openSockets.length ≤ 1 := by
  by_cases holds : fate.Holds
  · obtain ⟨other, isOpen, -⟩ := opens.of_holds holds
    rw [isOpen]
    exact le_rfl
  · rw [opens.of_not_holds holds]
    exact Nat.zero_le 1

/-- The member after a call of `socket`. -/
theorem Opens.socket
    (opens : fate.Opens nSocket openSockets)
    {returned : Int}
    (careful : returned < 0 ∨ ¬fate.Holds) :
    (fate.next returned).Opens returned
      (if returned < 0 then openSockets else returned :: openSockets) := by
  unfold next
  rcases lt_trichotomy returned 0 with negative | rfl | positive
  · rw [if_neg negative.not_gt, if_neg negative.ne, if_pos negative]
    split
    · rename_i holds
      exact ⟨opens.of_holds holds, negative⟩
    · rename_i holdsNone
      exact ⟨opens.of_not_holds holdsNone, negative⟩
  · have holdsNone := careful.resolve_left (lt_irrefl 0)
    rw [if_neg (lt_irrefl 0), if_pos rfl, if_neg (lt_irrefl 0),
      opens.of_not_holds holdsNone]
    exact ⟨rfl, rfl⟩
  · have holdsNone := careful.resolve_left positive.not_gt
    rw [if_pos positive, if_neg positive.not_gt, opens.of_not_holds holdsNone]
    exact ⟨rfl, positive⟩

end SocketFate

namespace Kept

variable {control next : Control} {ledger : SocketLedger} {label : LinkLabel}

theorem sound (kept : Kept control ledger) : ledger.Sound :=
  ⟨kept.opens.length_le, kept.own⟩

/-- A step that makes and closes no socket. -/
theorem of_quiet
    (kept : Kept control ledger)
    (ordered : next.Ordered)
    (sameSocket : next.nSocket = control.nSocket)
    (connects : next.keepAlive.Connects next.nLinkStatus →
      ledger.fate = .opened)
    (none : next.socketUnit = .returned → ledger.openSockets = []) :
    Kept next ledger where
  ordered := ordered
  own := kept.own
  opens := by
    rw [sameSocket]
    exact kept.opens
  connects := connects
  none := none

/-- The heartbeat thread makes a socket. -/
theorem of_socket
    (kept : Kept control ledger)
    {nSocket : Int}
    (careful : nSocket < 0 ∨ ¬ledger.fate.Holds)
    (running : control.keepAlive ≠ .returned)
    (ordered : next.Ordered)
    (sameStage : next.socketUnit = control.socketUnit)
    (stored : next.nSocket = nSocket)
    (connects : next.keepAlive.Connects next.nLinkStatus → 0 < nSocket) :
    Kept next (ledger.socket nSocket) where
  ordered := ordered
  own := kept.own
  opens := by
    rw [stored]
    exact kept.opens.socket careful
  connects isConnecting := if_pos (connects isConnecting)
  none returned := by
    rw [sameStage] at returned
    refine absurd (kept.ordered.returned ?_ ?_) running
    · simp [returned]
    · simp [returned]

/-- The open socket is closed. -/
theorem of_close
    (kept : Kept control ledger)
    (opened : ledger.fate = .opened)
    (ordered : next.Ordered)
    (sameSocket : next.nSocket = control.nSocket)
    (disconnects : ¬next.keepAlive.Connects next.nLinkStatus) :
    Kept next (ledger.close control.nSocket) := by
  have opens := kept.opens
  rw [opened] at opens
  have none : (ledger.close control.nSocket).openSockets = [] := by
    simp [SocketLedger.close, opens.1]
  constructor
  · exact ordered
  · simp [SocketLedger.close, opens.1, kept.own]
  · rw [sameSocket]
    exact ⟨none, opens.2⟩
  · exact fun connects => absurd connects disconnects
  · exact fun _ => none

/-- The end of `TcpClient_SocketUnit`. -/
theorem of_last
    (kept : Kept control ledger)
    (careful : ledger.fate = .opened ∨
      ledger.fate = .none ∧ control.nSocket = 0)
    (ordered : next.Ordered)
    (sameSocket : next.nSocket = control.nSocket)
    (returned : next.keepAlive = .returned) :
    Kept next (control.lastCloses.foldl SocketLedger.close ledger) := by
  have disconnects : ¬next.keepAlive.Connects next.nLinkStatus := by
    rw [returned]
    exact id
  have opens := kept.opens
  rcases careful with opened | ⟨noSocket, isZero⟩
  · rw [opened] at opens
    rw [Control.lastCloses, if_neg opens.2.ne']
    exact kept.of_close opened ordered sameSocket disconnects
  · rw [noSocket] at opens
    rw [Control.lastCloses, if_pos isZero]
    exact kept.of_quiet ordered sameSocket
      (fun connects => absurd connects disconnects) fun _ => opens

/-- If the last close leaves no socket and is none of another descriptor, the
last socket was open, or there was none. -/
theorem careful_of_last
    (kept : Kept control ledger)
    (own : (control.lastCloses.foldl SocketLedger.close ledger).foreign = false)
    (none : (control.lastCloses.foldl SocketLedger.close ledger).openSockets =
      []) :
    ledger.fate = .opened ∨ ledger.fate = .none ∧ control.nSocket = 0 := by
  have opens := kept.opens
  -- A member that is not zero is closed, and has to be open then.
  have closed : control.nSocket ≠ 0 → control.nSocket ∈ ledger.openSockets := by
    intro notZero
    rw [Control.lastCloses, if_neg notZero] at own
    simpa [SocketLedger.close, kept.own] using own
  -- The member of a client whose socket is descriptor 0 is not closed.
  have left : control.nSocket = 0 → ledger.openSockets = [] := by
    intro isZero
    rw [Control.lastCloses, if_pos isZero] at none
    exact none
  cases fate : ledger.fate with
  | none =>
      rw [fate] at opens
      refine Or.inr ⟨rfl, ?_⟩
      by_contra notZero
      have isOpen := closed notZero
      rw [opens] at isOpen
      exact List.not_mem_nil isOpen
  | failed =>
      rw [fate] at opens
      have isOpen := closed opens.2.ne
      rw [opens.1] at isOpen
      exact absurd isOpen List.not_mem_nil
  | opened => exact Or.inl rfl
  | closed =>
      rw [fate] at opens
      have isOpen := closed opens.2.ne'
      rw [opens.1] at isOpen
      exact absurd isOpen List.not_mem_nil
  | zero =>
      rw [fate] at opens
      have isNone := left opens.2
      rw [opens.1] at isNone
      contradiction
  | lost =>
      rw [fate] at opens
      obtain ⟨⟨other, isOther, nonnegative⟩, negative⟩ := opens
      have isOpen := closed negative.ne
      rw [isOther, List.mem_singleton] at isOpen
      exact absurd (isOpen ▸ negative) nonnegative.not_gt

/-! ## One step -/

/-- A step that closes nothing. -/
theorem note_quiet (ledger : SocketLedger) (label : LinkLabel) :
    ledger.note label (control.closes.drop control.closes.length) =
      ledger.call label := by
  rw [List.drop_length]
  rfl

/-- A step that closes what it adds to the closed descriptors. -/
theorem note_closing
    (ledger : SocketLedger)
    (label : LinkLabel)
    (closes : List Int) :
    ledger.note label
        ((control.closes ++ closes).drop control.closes.length) =
      closes.foldl SocketLedger.close (ledger.call label) := by
  rw [List.drop_left]
  rfl

/-- The member keeps telling of the open sockets. -/
theorem kept_note
    (kept : Kept control ledger)
    (careful : ledger.Careful control label)
    (stepped : ControlStep control label next) :
    Kept next
      (ledger.note label (next.closes.drop control.closes.length)) := by
  have ordered := Control.ordered_step kept.ordered stepped
  have connects := kept.connects
  cases stepped with
  | look =>
      rw [note_quiet]
      exact kept
  | recv turn =>
      rw [note_quiet]
      exact kept
  | wakes stage goesOn =>
      rw [stage] at connects
      rw [note_quiet]
      exact kept.of_quiet ordered rfl connects kept.none
  | returns stage stopped =>
      rw [note_quiet]
      exact kept.of_quiet ordered rfl False.elim kept.none
  | noSocket nSocket stage disconnected refused =>
      rw [note_quiet]
      apply kept.of_socket careful (by simp [stage]) ordered rfl rfl
      intro connected
      rw [disconnected] at connected
      contradiction
  | socket nSocket stage disconnected positive =>
      rw [note_quiet]
      exact kept.of_socket careful (by simp [stage]) ordered rfl rfl
        fun _ => positive
  | refused nRet stage =>
      rw [stage] at connects
      rw [note_quiet]
      exact kept.of_quiet ordered rfl (fun _ => connects trivial) kept.none
  | connected nRet stage =>
      rw [stage] at connects
      rw [note_quiet]
      exact kept.of_quiet ordered rfl (fun _ => connects trivial) kept.none
  | created nRet stage =>
      rw [stage] at connects
      rw [note_quiet]
      exact kept.of_quiet ordered rfl (fun _ => connects trivial) kept.none
  | greets now nSent stage =>
      rw [stage] at connects
      rw [note_quiet]
      exact kept.of_quiet ordered rfl (fun _ => connects trivial) kept.none
  | beats now nSent stage connected =>
      rw [stage] at connects
      rw [note_quiet]
      exact kept.of_quiet ordered rfl (fun _ => connects connected) kept.none
  | timesOut now nSent stage connected =>
      rw [stage] at connects
      rw [note_quiet]
      exact kept.of_quiet ordered rfl (fun _ => connects connected) kept.none
  | drops stage =>
      rw [stage] at connects
      rw [note_closing]
      exact kept.of_close (connects trivial) ordered rfl id
  | joins stage =>
      have disconnected :=
        kept.ordered.disconnected (Or.inr (Or.inr stage))
      rw [note_quiet]
      refine kept.of_quiet ordered rfl (fun connected => ?_) kept.none
      rw [disconnected] at connected
      contradiction
  | stopsHeartbeat stage flag =>
      rw [note_quiet]
      exact kept.of_quiet ordered rfl connects (by simp)
  | noHeartbeat stage flag =>
      rw [note_quiet]
      exact kept.of_quiet ordered rfl connects (by simp)
  | joinsHeartbeat stage returned =>
      rw [note_quiet]
      exact kept.of_quiet ordered rfl connects (by simp)
  | stopsReceiver stage flag =>
      rw [note_quiet]
      exact kept.of_quiet ordered rfl connects (by simp)
  | noReceiver stage flag =>
      rw [note_closing]
      exact kept.of_last (careful (Or.inl ⟨stage, flag⟩)) ordered rfl
        (kept.ordered.returned (by simp [stage]) (by simp [stage]))
  | joinsReceiver stage =>
      rw [note_closing]
      exact kept.of_last (careful (Or.inr stage)) ordered rfl
        (kept.ordered.returned (by simp [stage]) (by simp [stage]))

/-- A socket is made with at most one open behind it only when none was open. -/
theorem careful_of_socket
    (kept : Kept control ledger)
    {nSocket : Int}
    (one : (ledger.socket nSocket).openSockets.length ≤ 1) :
    nSocket < 0 ∨ ¬ledger.fate.Holds := by
  by_contra careless
  obtain ⟨nonnegative, holds⟩ := not_or.mp careless
  obtain ⟨other, isOpen, -⟩ := kept.opens.of_holds (not_not.mp holds)
  rw [SocketLedger.socket, if_neg nonnegative, isOpen] at one
  contradiction

/-- A step that leaves the sockets disciplined meets the condition. -/
theorem careful_of_note
    (kept : Kept control ledger)
    (stepped : ControlStep control label next)
    (sound : (ledger.note label
      (next.closes.drop control.closes.length)).Sound)
    (none : next.socketUnit = .returned →
      (ledger.note label
        (next.closes.drop control.closes.length)).openSockets = []) :
    ledger.Careful control label := by
  cases stepped with
  | noSocket nSocket stage disconnected refused =>
      rw [note_quiet] at sound
      exact kept.careful_of_socket sound.one
  | socket nSocket stage disconnected positive =>
      rw [note_quiet] at sound
      exact kept.careful_of_socket sound.one
  | stopsHeartbeat stage flag => simp [SocketLedger.Careful, stage]
  | noHeartbeat stage flag => simp [SocketLedger.Careful, stage]
  | joinsHeartbeat stage returned => simp [SocketLedger.Careful, stage]
  | stopsReceiver stage flag => simp [SocketLedger.Careful, stage, flag]
  | noReceiver stage flag =>
      rw [note_closing] at sound none
      exact fun _ => kept.careful_of_last sound.own (none rfl)
  | joinsReceiver stage =>
      rw [note_closing] at sound none
      exact fun _ => kept.careful_of_last sound.own (none rfl)
  | _ => trivial

end Kept

/-! ## Whole lives -/

namespace ClientSockets

/-- A client that has made no socket. -/
theorem kept_noSocket
    {control : Control}
    (stage : control.keepAlive = .loop ∨ control.keepAlive = .returned)
    (disconnected : control.nLinkStatus = .disconnect)
    (flag : control.bHeartbeatFlag = true)
    (idle : control.socketUnit ≠ .idle → control.keepAlive = .returned) :
    Kept control SocketLedger.initial where
  ordered := ⟨fun _ => flag, fun notIdle _ => idle notIdle,
    by rcases stage with stage | stage <;> simp [stage],
    by rcases stage with stage | stage <;> simp [stage]⟩
  own := rfl
  opens := rfl
  connects connects := by
    rcases stage with stage | stage
    · rw [stage, disconnected] at connects
      contradiction
    · rw [stage] at connects
      contradiction
  none _ := rfl

theorem socket_initial_negative {nSocket : Int} (negative : nSocket < 0) :
    SocketLedger.initial.socket nSocket = ⟨[], false, .failed⟩ := by
  simp only [SocketLedger.socket, SocketLedger.initial, SocketFate.next,
    if_pos negative, if_neg negative.not_gt, if_neg negative.ne]
  rfl

theorem socket_initial_positive {nSocket : Int} (positive : 0 < nSocket) :
    SocketLedger.initial.socket nSocket = ⟨[nSocket], false, .opened⟩ := by
  simp only [SocketLedger.socket, SocketLedger.initial, SocketFate.next,
    if_pos positive, if_neg positive.not_gt]

/-- A client whose only call of `socket` was that of `TcpClient_SocketInit`. -/
theorem kept_connection
    {control : Control}
    {ledger : SocketLedger}
    (noThread : control.keepAlive = .returned)
    (flag : control.bHeartbeatFlag = true)
    (own : ledger.foreign = false)
    (opens : ledger.fate.Opens control.nSocket ledger.openSockets)
    (none : control.socketUnit = .returned → ledger.openSockets = []) :
    Kept control ledger where
  ordered := ⟨fun _ => flag, fun _ _ => noThread, by simp [noThread],
    by simp [noThread]⟩
  own := own
  opens := opens
  connects connects := by
    rw [noThread] at connects
    contradiction
  none := none

/-- The sockets `TransPortEngine_CreateClient` leaves, when descriptor 0 is not
taken for a failure. -/
theorem kept_start
    (garbage : ClientGarbage)
    {arguments : ClientArguments}
    {results : SocketInitResults}
    (careful : StartsCareful arguments results) :
    Kept (start garbage arguments results).link.control
      (start garbage arguments results).ledger := by
  unfold start SocketLedger.socketInit
  dsimp only
  cases receives : arguments.hasTransPortEngineRecv with
  | false =>
      rw [Link.control_createClient_noReceiver receives]
      exact kept_noSocket (Or.inr rfl) rfl rfl fun _ => rfl
  | true =>
      cases heartbeats : arguments.bIsHaveHB with
      | true =>
          rw [Link.control_createClient_heartbeat receives heartbeats]
          simp only [true_and, Bool.true_eq_false, if_false]
          by_cases refused : results.createHeartbeatThread < 0
          · rw [if_pos refused]
            exact kept_noSocket (Or.inr rfl) rfl rfl fun _ => rfl
          · rw [if_neg refused]
            refine kept_noSocket ?_ rfl rfl fun notIdle => absurd rfl notIdle
            dsimp only
            split
            · exact Or.inl rfl
            · exact Or.inr rfl
      | false =>
          have notZero := careful receives heartbeats
          rw [Link.control_createClient_connection receives heartbeats]
          simp only [and_self, if_true]
          rcases lt_or_gt_of_ne notZero with negative | positive
          · rw [if_pos negative.le, socket_initial_negative negative]
            exact kept_connection rfl rfl rfl ⟨rfl, negative⟩ fun _ => rfl
          · have closed : [results.nSocket].foldl SocketLedger.close
                ⟨[results.nSocket], false, .opened⟩ = ⟨[], false, .closed⟩ := by
              simp [SocketLedger.close]
            rw [if_neg positive.not_ge, socket_initial_positive positive]
            by_cases refused : results.connect ≠ 0
            · rw [if_pos refused, closed]
              exact kept_connection rfl rfl rfl ⟨rfl, positive⟩ fun _ => rfl
            · rw [if_neg refused]
              by_cases failed : results.createRecvThread < 0
              · rw [if_pos failed, closed]
                exact kept_connection rfl rfl rfl ⟨rfl, positive⟩ fun _ => rfl
              · rw [if_neg failed]
                exact kept_connection rfl rfl rfl ⟨rfl, positive⟩
                  fun impossible => by contradiction

/-- `TransPortEngine_CreateClient` leaves the sockets disciplined exactly when
descriptor 0 is not taken for a failure. -/
theorem disciplined_start_iff
    (garbage : ClientGarbage)
    (arguments : ClientArguments)
    (results : SocketInitResults) :
    (start garbage arguments results).Disciplined ↔
      StartsCareful arguments results := by
  constructor
  · intro disciplined receives heartbeats isZero
    have none := disciplined.none
    simp only [start, SocketLedger.socketInit, receives, heartbeats, and_self,
      if_true, Link.control_createClient_connection receives heartbeats, isZero,
      le_refl] at none
    have returned : (Link.createClient garbage arguments results).control.socketUnit =
        .returned := by
      rw [Link.control_createClient_connection receives heartbeats, if_pos isZero.le]
    have opens := none returned
    contradiction
  · intro careful
    have kept := kept_start garbage careful
    exact ⟨kept.sound, kept.none⟩

theorem step_cases
    {sockets next : ClientSockets}
    {label : LinkLabel}
    (stepped : sockets.step label = some next) :
    ControlStep sockets.link.control label next.link.control ∧
      next.ledger = sockets.ledger.note label
        (next.link.control.closes.drop sockets.link.control.closes.length) := by
  obtain ⟨-, possible⟩ := Option.ite_none_right_eq_some.mp stepped
  obtain ⟨link, linkStepped, rfl⟩ := Option.map_eq_some_iff.mp possible
  exact ⟨Link.controlStep_linkStep linkStepped, rfl⟩

section Step

variable {sockets next : ClientSockets} {label : LinkLabel}

theorem kept_step
    (kept : Kept sockets.link.control sockets.ledger)
    (careful : sockets.Careful label)
    (stepped : sockets.step label = some next) :
    Kept next.link.control next.ledger := by
  obtain ⟨controlStepped, ledger⟩ := step_cases stepped
  rw [ledger]
  exact kept.kept_note careful controlStepped

/-- A step leaves the sockets disciplined exactly when it meets the condition. -/
theorem disciplined_step_iff
    (kept : Kept sockets.link.control sockets.ledger)
    (stepped : sockets.step label = some next) :
    next.Disciplined ↔ sockets.Careful label := by
  constructor
  · rintro ⟨sound, none⟩
    obtain ⟨controlStepped, ledger⟩ := step_cases stepped
    rw [ledger] at sound none
    exact kept.careful_of_note controlStepped sound none
  · intro careful
    have keptNext := kept_step kept careful stepped
    exact ⟨keptNext.sound, keptNext.none⟩

end Step

/-- A client has at most one socket open, closes no other descriptor, and leaves
no socket open when it is deleted, exactly when `socket` has not returned 0 to
`TcpClient_SocketInit`, no socket is made while one is open, and what
`TcpClient_SocketUnit` closes is the socket made last, not closed before, if one
was made. -/
theorem closesOwn_iff
    (garbage : ClientGarbage)
    (arguments : ClientArguments)
    (results : SocketInitResults)
    (labels : List LinkLabel) :
    (start garbage arguments results).Disciplined ∧
        Throughout step (Leads step Disciplined) (start garbage arguments results)
          labels ↔
      StartsCareful arguments results ∧
        Throughout step (Meets step Careful) (start garbage arguments results)
          labels := by
  rw [disciplined_start_iff]
  refine and_congr_right fun careful => ?_
  have kept := kept_start garbage careful
  apply leads_throughout_iff
  · intro sockets label next kept _ stepped
    exact disciplined_step_iff kept stepped
  · intro sockets label next kept _ stepped disciplined
    exact kept_step kept ((disciplined_step_iff kept stepped).mp disciplined)
      stepped
  · exact kept
  · exact ⟨kept.sound, kept.none⟩

/-- A connection that is refused leaves its socket open, and the next one is
made beside it. -/
theorem not_closesOwn_refusedConnect :
    ¬∀ (garbage : ClientGarbage) (arguments : ClientArguments)
        (results : SocketInitResults) (labels : List LinkLabel),
      (start garbage arguments results).Disciplined ∧
        Throughout step (Leads step Disciplined) (start garbage arguments results)
          labels := by
  intro always
  have throughout := (always ⟨0, 0, 0⟩ ⟨true, true, true, 5⟩ ⟨0, 0, 0, 0⟩
    [.keepAlive .next, .keepAlive (.socket 7), .keepAlive (.connect (-1)),
      .keepAlive .next, .keepAlive (.socket 8)]).2
  have disciplined := (((((throughout.2 _ rfl).2 _ rfl).2 _ rfl).2 _ rfl).1 _ rfl)
  exact absurd disciplined.sound.one (by decide)

end ClientSockets

end TransPortEngine
