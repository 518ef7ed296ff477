import TransPortEngine.Library.FrameReceiver
import TransPortEngine.TcpClient.Delivery
import TransPortEngine.WireFormats

/-!
# A client that reads an arbitrary stream

As long as the client reads headers as a format does, and no body is too long
for an `int`, its receive loop stays where the decoder of the format is.
-/

namespace TransPortEngine

open Framing MachineInt

namespace TcpClient

/-- The client holds what the decoder holds and waits for the same part. -/
def Collects : State UInt8 HeadKind → TcpClient → Prop
  | .head seen, client =>
      client.bIsHaveHead = true ∧ client.bIsRecvHead = false ∧
        cachedBytes client.recvBufs = seen ∧ seen.length < sizeofHeadMsg
  | .body _ need seen, client =>
      client.bIsHaveHead = true ∧ client.bIsRecvHead = true ∧
        cachedBytes client.recvBufs = seen ∧ client.nNeedRecvDataLen = need ∧
          seen.length < need ∧ need < 2147483648

/-- A configured client collects its first header. -/
theorem collects_configure
    (garbage : ClientGarbage)
    (bIsHaveHB : Bool)
    (nHeartBeatInterval : Int) :
    Collects (.head [])
      ((construct garbage).configure true bIsHaveHB nHeartBeatInterval) :=
  ⟨rfl, rfl, rfl, by decide⟩

section Passes

variable {format : Format UInt8 HeadKind} {client : TcpClient}

/-- The client requests exactly what completes the header or body. -/
theorem Collects.recvRequest_eq
    {state : State UInt8 HeadKind}
    (collects : Collects state client)
    (size : format.headLength = sizeofHeadMsg) :
    client.recvRequest = format.request state := by
  cases state with
  | head seen =>
      obtain ⟨framed, noHead, rfl, opened⟩ := collects
      simp [recvRequest, framed, noHead, client.missingHead_eq opened,
        Format.request, size]
  | body kind need seen =>
      obtain ⟨framed, hasHead, rfl, needEq, opened, small⟩ := collects
      have missing := missingBody_eq needEq small opened
      rw [recvRequest, if_pos framed, if_pos hasHead, missing,
        unsigned64_natCast (by omega)]
      rfl

/-- The client requests at least one byte. -/
theorem Collects.request_pos
    {state : State UInt8 HeadKind}
    (collects : Collects state client)
    (size : format.headLength = sizeofHeadMsg) :
    0 < format.request state := by
  cases state with
  | head seen =>
      have opened : seen.length < sizeofHeadMsg := collects.2.2.2
      rw [Format.request, size]
      omega
  | body kind need seen =>
      have opened : seen.length < need := collects.2.2.2.2.1
      rw [Format.request]
      omega

/-- Behind a complete header the client waits for the body it expects, or for
the next header. -/
theorem collects_finishHead
    {headMsg : List UInt8}
    (framed : client.bIsHaveHead = true)
    (noHead : client.bIsRecvHead = false)
    (reads : ReadsHead format headMsg)
    (small : headBodyLen headMsg < 2147483648)
    (now : Int) :
    Collects (format.afterHead headMsg).1 (client.finishHead headMsg now).1 := by
  have start : ∀ next : TcpClient, next.bIsHaveHead = true →
      next.bIsRecvHead = false → next.recvBufs = [] →
        Collects (.head []) next := by
    intro next isFramed isNoHead empty
    refine ⟨isFramed, isNoHead, ?_, by decide⟩
    rw [empty]
    rfl
  have announced : (format.parse headMsg).2 = headBodyLen headMsg := by
    rw [reads.parsed]
  cases kind : headKind headMsg with
  | unknown =>
      have zero : (format.parse headMsg).2 = 0 :=
        announced.trans (headBodyLen_of_unknown kind)
      have other := headTypeIs_of_headKind_unknown kind
      rw [format.afterHead_of_zero zero]
      simp only [finishHead, other.1, other.2, Bool.false_eq_true, if_false]
      exact start _ framed noHead rfl
  | heartbeat =>
      have known : headBodyLen headMsg = headDataLen headMsg :=
        headBodyLen_of_known (by rw [kind]; decide)
      have type := headTypeIs_of_headKind_heartbeat kind
      have need : signed32 (headDataLen headMsg) = headDataLen headMsg :=
        signed32_of_range (by omega) (by omega)
      simp only [finishHead, type, need, if_true]
      by_cases zero : headDataLen headMsg = 0
      · rw [format.afterHead_of_zero (announced.trans (known.trans zero)),
          if_pos (by omega)]
        exact start _ framed noHead rfl
      · rw [format.afterHead_of_pos (by omega), if_neg (by omega), announced,
          known]
        exact ⟨framed, rfl, rfl, rfl, Nat.pos_of_ne_zero zero, by omega⟩
  | data =>
      have known : headBodyLen headMsg = headDataLen headMsg :=
        headBodyLen_of_known (by rw [kind]; decide)
      have types := headTypeIs_of_headKind_data kind
      have need : signed32 (headDataLen headMsg) = headDataLen headMsg :=
        signed32_of_range (by omega) (by omega)
      simp only [finishHead, types.1, types.2, need, Bool.false_eq_true, if_false,
        if_true]
      by_cases zero : headDataLen headMsg = 0
      · rw [format.afterHead_of_zero (announced.trans (known.trans zero)),
          if_neg (by omega)]
        exact start _ framed noHead rfl
      · rw [format.afterHead_of_pos (by omega), if_pos (by omega), announced,
          known]
        exact ⟨framed, rfl, rfl, rfl, Nat.pos_of_ne_zero zero, by omega⟩

/-- A piece that completes a body of any type leaves nothing behind. -/
theorem recvBody_complete
    {szRecvBuf : List UInt8}
    (missing : client.missingBody = szRecvBuf.length)
    (now : Int) :
    let next := (client.recvBody szRecvBuf now).client
    next.bIsHaveHead = client.bIsHaveHead ∧ next.bIsRecvHead = false ∧
      next.recvBufs = [] := by
  simp only [recvBody]
  rw [if_pos missing.symm]
  split
  · exact ⟨rfl, rfl, rfl⟩
  · split
    · exact ⟨rfl, rfl, rfl⟩
    · exact ⟨rfl, rfl, rfl⟩

/-- A turn with data acts on them; any other turn leaves the loop. -/
theorem recvfromPass_client
    {turn : RecvfromTurn}
    (stays : (client.recvfromPass turn).leaves = false) :
    turn.bytes ≠ [] ∧ (client.recvfromPass turn).client =
      (client.recvDataPass turn.bytes turn.now).client := by
  obtain ⟨recv, now⟩ := turn
  cases recv with
  | closed => simp [recvfromPass] at stays
  | failed => simp [recvfromPass] at stays
  | data szRecvBuf nonempty =>
      exact ⟨List.ne_nil_of_length_pos nonempty, rfl⟩

/-- On a piece that was asked for the client moves with the decoder. -/
theorem Collects.recvfromPass
    {state : State UInt8 HeadKind}
    {turn : RecvfromTurn}
    (collects : Collects state client)
    (size : format.headLength = sizeofHeadMsg)
    (granted : turn.bytes.length ≤ client.recvRequest)
    (reads : ∀ seen, state = .head seen →
      seen.length + turn.bytes.length = sizeofHeadMsg →
        ReadsHead format (seen ++ turn.bytes) ∧
          headBodyLen (seen ++ turn.bytes) < 2147483648)
    (stays : (client.recvfromPass turn).leaves = false) :
    Collects (format.feed state turn.bytes).1
      (client.recvfromPass turn).client := by
  rw [collects.recvRequest_eq size] at granted
  obtain ⟨-, clientEq⟩ := recvfromPass_client stays
  rw [clientEq]
  cases state with
  | head seen =>
      obtain ⟨framed, noHead, rfl, opened⟩ := collects
      have data : client.recvDataPass turn.bytes turn.now =
          client.recvHead turn.bytes turn.now := by
        simp [recvDataPass, framed, noHead]
      rw [Format.request, size] at granted
      have within : (cachedBytes client.recvBufs).length + turn.bytes.length ≤
          sizeofHeadMsg := by omega
      rw [data]
      rcases Nat.lt_or_eq_of_le within with short | full
      · rw [(recvHead_short short turn.now).1,
          format.feed_head_short (short.trans_eq size.symm)]
        refine ⟨framed, noHead, cachedBytes_push _ _, ?_⟩
        rw [List.length_append]
        exact short
      · have head := reads _ rfl full
        rw [(recvHead_full opened full turn.now).1,
          format.feed_head_full (opened.trans_eq size.symm)
            (full.trans size.symm)]
        exact collects_finishHead framed noHead head.1 head.2 turn.now
  | body kind need seen =>
      obtain ⟨framed, hasHead, rfl, needEq, opened, small⟩ := collects
      have data : client.recvDataPass turn.bytes turn.now =
          client.recvBody turn.bytes turn.now := by
        simp [recvDataPass, framed, hasHead]
      rw [Format.request] at granted
      have within : (cachedBytes client.recvBufs).length + turn.bytes.length ≤
          need := by omega
      rw [data]
      rcases Nat.lt_or_eq_of_le within with short | full
      · rw [(recvBody_short needEq small short turn.now).1,
          format.feed_body_short short]
        refine ⟨framed, hasHead, cachedBytes_push _ _, needEq, ?_, small⟩
        rw [List.length_append]
        exact short
      · have missing : client.missingBody = turn.bytes.length := by
          rw [missingBody_eq needEq small opened]
          omega
        obtain ⟨haveHead, next, empty⟩ := recvBody_complete missing turn.now
        rw [format.feed_body_full opened full]
        refine ⟨haveHead.trans framed, next, ?_, by decide⟩
        rw [empty]
        rfl

end Passes

end TcpClient

end TransPortEngine
