import Mathlib.Data.List.AList
import Mathlib.Data.List.Sort
import TransPortEngine.TcpSession.Defs

/-!
# The session manager

`CTcpSessionMgr` on Linux: the map from sockets to session objects, the three
functions that use it under its lock, and one pass of the heartbeat sweep. The
map holds pointers, which are numbers here; the objects live in a memory indexed
by them.
-/

namespace TransPortEngine

/-- The session objects, by what the map has for a pointer. A server counts its
objects in the order of construction. -/
abbrev SessionMemory := Nat → TcpSession

/-- `map<int, CTcpSession*>`. -/
abbrev TcpSessions := AList fun _ : Int => Nat

/-- Events inside a scope that holds `m_TcpSessionMgrLock`. -/
def tcpSessionMgrLocked (events : List EngineEvent) : List EngineEvent :=
  [.lock .tcpSessionMgrLock] ++ events ++ [.unlock .tcpSessionMgrLock]

@[simp] theorem written_tcpSessionMgrLocked_nil :
    written (tcpSessionMgrLocked []) = [] := rfl

/-- A session manager. -/
structure TcpSessionMgr where
  bIsHeartbeat : Bool
  tcpSessions : TcpSessions

namespace TcpSessionMgr

/-- `TcpSessionMgr_AddSession`; `map::insert` keeps an entry that exists. -/
def addSession
    (mgr : TcpSessionMgr)
    (nSocket : Int)
    (address : Nat) : TcpSessionMgr :=
  if nSocket ∈ mgr.tcpSessions then mgr
  else { mgr with tcpSessions := mgr.tcpSessions.insert nSocket address }

/-- `TcpSessionMgr_DelSession`. -/
def delSession (mgr : TcpSessionMgr) (nSocket : Int) : TcpSessionMgr × Int :=
  if nSocket ∈ mgr.tcpSessions then
    ({ mgr with tcpSessions := mgr.tcpSessions.erase nSocket }, 0)
  else (mgr, -1)

/-- `TcpSessionMgr_FindSession`. -/
def findSession (mgr : TcpSessionMgr) (nSocket : Int) : Option Nat :=
  mgr.tcpSessions.lookup nSocket

theorem findSession_addSession
    {mgr : TcpSessionMgr}
    {nSocket : Int}
    (fresh : nSocket ∉ mgr.tcpSessions)
    (address : Nat) :
    (mgr.addSession nSocket address).findSession nSocket = some address := by
  simp [addSession, fresh, findSession]

theorem findSession_addSession_ne
    {nSocket nSocket' : Int}
    (mgr : TcpSessionMgr)
    (other : nSocket' ≠ nSocket)
    (address : Nat) :
    (mgr.addSession nSocket address).findSession nSocket' =
      mgr.findSession nSocket' := by
  unfold addSession
  split
  · rfl
  · exact AList.lookup_insert_ne other

theorem findSession_delSession (mgr : TcpSessionMgr) (nSocket : Int) :
    (mgr.delSession nSocket).1.findSession nSocket = none := by
  unfold delSession
  split
  · exact AList.lookup_erase nSocket mgr.tcpSessions
  · rename_i absent
    exact AList.lookup_eq_none.mpr absent

theorem findSession_delSession_ne
    {nSocket nSocket' : Int}
    (mgr : TcpSessionMgr)
    (other : nSocket' ≠ nSocket) :
    (mgr.delSession nSocket).1.findSession nSocket' =
      mgr.findSession nSocket' := by
  unfold delSession
  split
  · exact AList.lookup_erase_ne other
  · rfl

/-- An entry that is found can be deleted. -/
theorem delSession_eq_zero_iff (mgr : TcpSessionMgr) (nSocket : Int) :
    (mgr.delSession nSocket).2 = 0 ↔ (mgr.findSession nSocket).isSome := by
  rw [findSession, AList.lookup_isSome, delSession]
  split
  · simp [*]
  · simp [*]

end TcpSessionMgr

end TransPortEngine
