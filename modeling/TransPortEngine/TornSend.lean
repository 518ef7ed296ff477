import TransPortEngine.SendAgreement
import TransPortEngine.TcpSession.Effects

/-!
# Sends that are cut short

A send whose `write` fails after a part of its frame was accepted returns a
negative value and leaves the session as it is. The bytes of the next send then
follow the torn frame. Whether that happens can be read off the results of the
`write` calls.
-/

namespace TransPortEngine

open MachineInt

/-- The two ways to send on a session: `TcpSession_SendData`, which
`TransPortEngine_ServerSendTo` uses, and the raw `TcpSession_IOSend`, which
`TransPortEngine_ServerSendData` and the heartbeat echo use. -/
inductive SendApi
  | sendData
  | ioSend
  deriving DecidableEq, Repr

/-- `nDataLen` of the `TcpSession_IOSend` a send comes down to on a framed
session. -/
def SendApi.nDataLen (api : SendApi) (szData : List UInt8) : Int :=
  match api with
  | .sendData => signed32 (szData.length + sizeofHeadMsg)
  | .ioSend => szData.length

/-- One send that returns: the data, their length being an `int`, and the results
of the system calls. -/
structure ReturnedSend where
  api : SendApi
  szData : List UInt8
  fits : szData.length < 2147483648
  outcomes : SendOutcomes
  returns : (ioSendLoop (api.nDataLen szData).toNat 0 outcomes.writes).1 ≠
    .pending

namespace ReturnedSend

/-- The number of bytes `TcpSession_IOSend` has to write. -/
def total (call : ReturnedSend) : Nat :=
  (call.api.nDataLen call.szData).toNat

/-- The `write` results let in a part of the data and then fail. -/
def cutAt (total : Nat) : Nat → List WriteResult → Bool
  | _, [] => false
  | accepted, .again :: results => cutAt total accepted results
  | accepted, .accepted count :: results =>
      if total ≤ accepted + count then false
      else cutAt total (accepted + count) results
  | accepted, _ :: _ => decide (0 < accepted)

/-- Some `write` accepts a byte before one fails. -/
def putsBytes : List WriteResult → Bool
  | [] => false
  | .again :: results => putsBytes results
  | .accepted count :: results => decide (0 < count) || putsBytes results
  | _ :: _ => false

/-- The send is cut short by an error other than `EAGAIN`. -/
def CutShort (call : ReturnedSend) : Prop :=
  0 < call.total ∧ cutAt call.total 0 call.outcomes.writes = true

/-- The send puts a byte on the socket. -/
def PutsBytes (call : ReturnedSend) : Prop :=
  0 < call.total ∧ putsBytes call.outcomes.writes = true

end ReturnedSend

namespace TcpSession

/-- One send. -/
def send (session : TcpSession) (call : ReturnedSend) : SendRun :=
  match call.api with
  | .sendData =>
      session.sendData call.szData call.szData.length call.outcomes
  | .ioSend =>
      session.ioSend (some call.szData) call.szData.length call.outcomes

/-- Sends on a session, one after another, each with what it did. -/
def sendAll (session : TcpSession) : List ReturnedSend → List (ReturnedSend × SendRun)
  | [] => []
  | call :: calls =>
      let run := session.send call
      (call, run) :: sendAll run.session calls

end TcpSession

/-- A send has failed with a part of its bytes written. -/
def Torn (sent : ReturnedSend × SendRun) : Prop :=
  ∃ nRet < 0, sent.2.result = .returned nRet ∧
    0 < (written sent.2.events).length ∧
      (written sent.2.events).length < sent.1.total

/-- After a torn frame nothing more is written. -/
def TornStaysLast (session : TcpSession) (calls : List ReturnedSend) : Prop :=
  (session.sendAll calls).Pairwise fun first later =>
    Torn first → written later.2.events = []

/-! ## What the results of `write` say about a send -/

/-- The loop of `TcpSession_IOSend` fails with a part written exactly when the
results are cut. -/
theorem cutAt_iff
    {total accepted : Nat}
    (results : List WriteResult)
    (unfinished : accepted < total) :
    ReturnedSend.cutAt total accepted results = true ↔
      (ioSendLoop total accepted results).1 = .failed ∧
        0 < (ioSendLoop total accepted results).2 := by
  induction results generalizing accepted with
  | nil =>
      rw [ioSendLoop, if_pos unfinished]
      simp [ReturnedSend.cutAt]
  | cons result results inductionHypothesis =>
      rw [ioSendLoop, if_pos unfinished]
      cases result with
      | again => exact inductionHypothesis unfinished
      | interrupted => simp [ReturnedSend.cutAt, ioSendStep]
      | failed => simp [ReturnedSend.cutAt, ioSendStep]
      | accepted count =>
          simp only [ReturnedSend.cutAt, ioSendStep]
          by_cases full : total ≤ accepted + count
          · have last : accepted + min count (total - accepted) = total := by
              omega
            rw [if_pos full, last]
            cases results with
            | nil => simp [ioSendLoop]
            | cons next results => simp [ioSendLoop]
          · have more : accepted + min count (total - accepted) =
                accepted + count := by
              omega
            rw [if_neg full, more]
            exact inductionHypothesis (by omega)

/-- The loop writes something exactly when some `write` accepts a byte. -/
theorem putsBytes_iff
    {total : Nat}
    (results : List WriteResult)
    (positive : 0 < total) :
    ReturnedSend.putsBytes results = true ↔
      0 < (ioSendLoop total 0 results).2 := by
  induction results with
  | nil => simp [ReturnedSend.putsBytes, ioSendLoop]
  | cons result results inductionHypothesis =>
      rw [ioSendLoop, if_pos positive]
      cases result with
      | again => exact inductionHypothesis
      | interrupted => simp [ReturnedSend.putsBytes, ioSendStep]
      | failed => simp [ReturnedSend.putsBytes, ioSendStep]
      | accepted count =>
          simp only [ReturnedSend.putsBytes, ioSendStep, Nat.zero_add, Nat.sub_zero]
          by_cases some : 0 < count
          · have bounds := ioSendLoop_bounds results (Nat.min_le_right count total)
            simp only [some, decide_true, Bool.true_or, true_iff]
            omega
          · have none : count = 0 := by omega
            subst none
            simp only [lt_irrefl, decide_false, Bool.false_or, Nat.zero_min]
            exact inductionHypothesis

/-! ## Sends on a framed session -/

section Sends

variable {session : TcpSession}

/-- Whichever way it is taken, a send comes down to one `TcpSession_IOSend` of
`nDataLen` bytes. -/
theorem send_eq
    (framed : session.bIsHaveHead = true)
    (call : ReturnedSend) :
    ∃ szBuf, session.send call = session.ioSend (some szBuf)
        (call.api.nDataLen call.szData) call.outcomes ∧
      (0 < call.total →
        call.api.nDataLen call.szData = szBuf.length) := by
  have fits := call.fits
  unfold TcpSession.send ReturnedSend.total
  cases call.api with
  | ioSend => exact ⟨call.szData, rfl, fun _ => rfl⟩
  | sendData =>
      refine ⟨frameBuf call.szData call.szData.length, ?_, ?_⟩
      · rw [TcpSession.sendData, if_pos framed, if_neg (by omega)]
        rfl
      · intro positive
        rw [frameBuf_eq rfl, List.length_append, length_dataHeadMsg]
        unfold SendApi.nDataLen at positive ⊢
        unfold signed32 sizeofHeadMsg at positive ⊢
        simp only at positive ⊢
        omega

/-- A send leaves the session as it is. What it returns and how much it writes
is decided by the results of `write`. -/
theorem send_spec
    (framed : session.bIsHaveHead = true)
    (call : ReturnedSend) :
    (session.send call).session = session ∧
      (0 < call.total →
        (session.send call).result =
            (ioSendLoop call.total 0 call.outcomes.writes).1.result ∧
          (written (session.send call).events).length =
            (ioSendLoop call.total 0 call.outcomes.writes).2) ∧
        (call.total = 0 → written (session.send call).events = []) := by
  obtain ⟨szBuf, sent, lengthEq⟩ := send_eq framed call
  rw [sent]
  refine ⟨(session.ioSend_writes _ _ _).1, ?_, ?_⟩
  · intro positive
    have isLength := lengthEq positive
    have total : call.total = szBuf.length := by
      rw [ReturnedSend.total, isLength, Int.toNat_natCast]
    have isPositive : 0 < call.api.nDataLen call.szData := by
      omega
    have bounds := ioSendLoop_bounds call.outcomes.writes
      (Nat.zero_le szBuf.length)
    rw [session.written_ioSend call.outcomes isPositive isLength,
      session.ioSend_eq call.outcomes isPositive isLength, total]
    refine ⟨rfl, ?_⟩
    rw [List.length_take]
    omega
  · intro none
    rw [ReturnedSend.total] at none
    rw [session.ioSend_nonpos szBuf call.outcomes (by omega)]
    rfl

/-- A send tears a frame exactly when its `write` results are cut. -/
theorem torn_iff_cutShort
    (framed : session.bIsHaveHead = true)
    (call : ReturnedSend) :
    Torn (call, session.send call) ↔ call.CutShort := by
  have spec := (send_spec framed call).2
  constructor
  · rintro ⟨nRet, negative, returned, some, part⟩
    simp only at returned some part
    have positive : 0 < call.total := some.trans part
    refine ⟨positive, (cutAt_iff call.outcomes.writes positive).mpr ?_⟩
    obtain ⟨result, length⟩ := spec.1 positive
    rw [length] at some
    refine ⟨?_, some⟩
    rw [result] at returned
    cases ending : (ioSendLoop call.total 0 call.outcomes.writes).1 with
    | failed => rfl
    | pending => exact absurd ending call.returns
    | exited =>
        rw [ending] at returned
        have zero := CallResult.returned.inj returned
        omega
  · rintro ⟨positive, cut⟩
    obtain ⟨failed, some⟩ := (cutAt_iff call.outcomes.writes positive).mp cut
    obtain ⟨result, length⟩ := spec.1 positive
    refine ⟨-2, by decide, ?_, ?_, ?_⟩
    · rw [result, failed]
      rfl
    · exact length ▸ some
    · exact length ▸ ioSendLoop_failed failed

/-- A send writes nothing exactly when no `write` accepts a byte before one
fails. -/
theorem written_send_eq_nil_iff
    (framed : session.bIsHaveHead = true)
    (call : ReturnedSend) :
    written (session.send call).events = [] ↔ ¬call.PutsBytes := by
  have spec := (send_spec framed call).2
  rcases Nat.eq_zero_or_pos call.total with none | positive
  · apply iff_of_true (spec.2 none)
    intro puts
    exact absurd puts.1 (by omega)
  · rw [← List.length_eq_zero_iff, (spec.1 positive).2]
    have puts := putsBytes_iff call.outcomes.writes positive
    constructor
    · intro nothing puts'
      have some := puts.mp puts'.2
      omega
    · intro silent
      by_contra some
      exact silent ⟨positive, puts.mpr (by omega)⟩

/-- No send changes the session for the next. -/
theorem sendAll_eq
    (framed : session.bIsHaveHead = true)
    (calls : List ReturnedSend) :
    session.sendAll calls = calls.map fun call => (call, session.send call) := by
  induction calls with
  | nil => rfl
  | cons call calls inductionHypothesis =>
      rw [TcpSession.sendAll, List.map_cons]
      simp only [(send_spec framed call).1, inductionHypothesis]

/-- After a torn frame nothing more is written exactly when no send that is cut
short is followed by one that puts a byte on the socket. -/
theorem tornStaysLast_iff
    (framed : session.bIsHaveHead = true)
    (calls : List ReturnedSend) :
    TornStaysLast session calls ↔
      calls.Pairwise fun first later =>
        first.CutShort → ¬later.PutsBytes := by
  rw [TornStaysLast, sendAll_eq framed, List.pairwise_map]
  constructor
  · intro torn
    apply torn.imp
    intro first later silent cut
    exact (written_send_eq_nil_iff framed later).mp
      (silent ((torn_iff_cutShort framed first).mpr cut))
  · intro cut
    apply cut.imp
    intro first later silent torn
    exact (written_send_eq_nil_iff framed later).mpr
      (silent ((torn_iff_cutShort framed first).mp torn))

end Sends

/-! ## A send that is interrupted by a signal -/

/-- A framed session with the socket 16. -/
def framedSession : TcpSession :=
  ((TcpSession.construct ⟨false, false, 0, 0⟩ 0x7f0000001010 0).init
    ⟨16, true, true, true, true, true⟩).1

/-- The letter `A` is sent, and everything is accepted at once. -/
def wholeSend : ReturnedSend where
  api := .sendData
  szData := [0x41]
  fits := by decide
  outcomes := ⟨[.accepted 9], true⟩
  returns := by decide

/-- The letter `A` is sent; five bytes are accepted before a signal arrives. -/
def interruptedSend : ReturnedSend where
  api := .sendData
  szData := [0x41]
  fits := by decide
  outcomes := ⟨[.accepted 5, .interrupted], true⟩
  returns := by decide

theorem tornStaysLast_wholeThenInterrupted :
    TornStaysLast framedSession [wholeSend, interruptedSend] := by
  apply (tornStaysLast_iff rfl [wholeSend, interruptedSend]).mpr
  refine .cons ?_ (.cons ?_ .nil)
  · intro later _ cut
    exact absurd cut.2 (by decide)
  · intro later impossible
    contradiction

/-- After the signal the next frame is written behind the torn one. -/
theorem not_tornStaysLast_interrupted :
    ¬∀ (session : TcpSession) (calls : List ReturnedSend),
      session.bIsHaveHead = true → TornStaysLast session calls := by
  intro always
  have silent := List.rel_of_pairwise_cons
    (always framedSession [interruptedSend, wholeSend] rfl)
    (List.mem_cons_self ..)
  have torn : Torn (interruptedSend, framedSession.send interruptedSend) :=
    ⟨-2, by decide, rfl, by decide, by decide⟩
  exact absurd (silent torn) (by decide)

end TransPortEngine
