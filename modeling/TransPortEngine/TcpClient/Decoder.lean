import TransPortEngine.TcpClient.AnyStream

/-!
# What a client delivers from arbitrary bytes

A client decodes any bytes at all with one format: a body follows a header of a
known type whose length is a positive `int`. The exception is a heartbeat of
negative length, behind which the client discards whatever the next `recv`
returns. Without such a header, the payloads are a function of the bytes
received, for every cut of them.
-/

namespace TransPortEngine

open Framing MachineInt

/-- The type of a header, and its length as the `int` the client stores. -/
abbrev ClientHead := HeadKind × Int

/-- A heartbeat of negative length. -/
def NegativeHeartbeat (head : ClientHead) : Prop :=
  head.1 = .heartbeat ∧ head.2 < 0

instance (head : ClientHead) : Decidable (NegativeHeartbeat head) :=
  inferInstanceAs (Decidable (_ ∧ _))

/-- The header as the client reads it. -/
def clientHead (headMsg : List UInt8) : ClientHead :=
  (headKind headMsg, signed32 (headDataLen headMsg))

/-- Number of body bytes the client waits for behind a header. -/
def clientBodyLen (head : ClientHead) : Nat :=
  match head.1 with
  | .unknown => 0
  | _ => head.2.toNat

theorem clientBodyLen_data (length : Int) :
    clientBodyLen (.data, length) = length.toNat := rfl

theorem clientBodyLen_heartbeat (length : Int) :
    clientBodyLen (.heartbeat, length) = length.toNat := rfl

/-- Frames as a client reads any bytes at all. -/
def clientFormat : Format UInt8 ClientHead where
  headLength := sizeofHeadMsg
  headLength_pos := sizeofHeadMsg_pos
  valid := fun _ => True
  parse := fun headMsg => (clientHead headMsg, clientBodyLen (clientHead headMsg))

@[simp] theorem clientFormat_headLength :
    clientFormat.headLength = sizeofHeadMsg := rfl

/-- What a client hands to the application for a decoded frame. -/
def clientPayload : ClientHead × List UInt8 → Option (List UInt8)
  | ((.data, _), body) => if body = [] then none else some body
  | _ => none

theorem clientPayload_eq
    {head : ClientHead}
    {body : List UInt8}
    (nonempty : body ≠ []) :
    clientPayload (head, body) = if head.1 = .data then some body else none := by
  obtain ⟨kind, length⟩ := head
  cases kind with
  | data => exact if_neg nonempty
  | heartbeat => rfl
  | unknown => rfl

theorem clientBodyLen_of_negative
    {head : ClientHead}
    (negative : NegativeHeartbeat head) :
    clientBodyLen head = 0 := by
  obtain ⟨isHeartbeat, below⟩ := negative
  rw [clientBodyLen, isHeartbeat]
  exact Int.toNat_of_nonpos below.le

/-- The payloads of some bytes that are decoded from a position on. -/
def decodedPayloads
    (state : State UInt8 ClientHead)
    (bytes : List UInt8) : List (List UInt8) :=
  (clientFormat.feed state bytes).2.filterMap clientPayload

/-- No heartbeat of negative length is completed by the bytes. -/
def Sane (state : State UInt8 ClientHead) (bytes : List UInt8) : Prop :=
  ∀ output ∈ (clientFormat.feed state bytes).2, ¬NegativeHeartbeat output.1

theorem sane_append
    {state : State UInt8 ClientHead}
    {first second : List UInt8} :
    Sane state (first ++ second) ↔
      Sane state first ∧ Sane (clientFormat.feed state first).1 second := by
  simp only [Sane, Format.feed_append, List.mem_append, or_imp, forall_and]

theorem decodedPayloads_append
    (state : State UInt8 ClientHead)
    (first second : List UInt8) :
    decodedPayloads state (first ++ second) =
      decodedPayloads state first ++
        decodedPayloads (clientFormat.feed state first).1 second := by
  simp only [decodedPayloads, Format.feed_append, List.filterMap_append]

namespace TcpClient

/-- The client is where the decoder is. -/
def Decodes : State UInt8 ClientHead → TcpClient → Prop
  | .head seen, client =>
      client.bIsHaveHead = true ∧ client.hasTransPortEngineRecv = true ∧
        client.bIsRecvHead = false ∧ cachedBytes client.recvBufs = seen ∧
          seen.length < sizeofHeadMsg
  | .body head need seen, client =>
      client.bIsHaveHead = true ∧ client.hasTransPortEngineRecv = true ∧
        client.bIsRecvHead = true ∧ cachedBytes client.recvBufs = seen ∧
          client.nMsgType = (if head.1 = .data then 1 else 0) ∧
            client.nNeedRecvDataLen = need ∧ head.2 = need ∧
              seen.length < need ∧ need < 2147483648

/-- A configured client decodes from the start. -/
theorem decodes_configure
    (garbage : ClientGarbage)
    (bIsHaveHB : Bool)
    (nHeartBeatInterval : Int) :
    Decodes (.head [])
      ((construct garbage).configure true bIsHaveHB nHeartBeatInterval) :=
  ⟨rfl, rfl, rfl, rfl, by decide⟩

section Passes

variable {client : TcpClient} {state : State UInt8 ClientHead}

/-- The client requests exactly what completes the header or body. -/
theorem Decodes.recvRequest_eq (decodes : Decodes state client) :
    client.recvRequest = clientFormat.request state := by
  cases state with
  | head seen =>
      obtain ⟨framed, -, noHead, rfl, opened⟩ := decodes
      simp [recvRequest, framed, noHead, client.missingHead_eq opened,
        Format.request]
  | body head need seen =>
      obtain ⟨framed, -, hasHead, rfl, -, needEq, -, opened, small⟩ := decodes
      have missing := missingBody_eq needEq small opened
      rw [recvRequest, if_pos framed, if_pos hasHead, missing,
        unsigned64_natCast (by omega)]
      rfl

/-- A client without a header and without cached bytes waits for a header. -/
theorem decodes_start
    (framed : client.bIsHaveHead = true)
    (receives : client.hasTransPortEngineRecv = true)
    (noHead : client.bIsRecvHead = false)
    (empty : client.recvBufs = []) :
    Decodes (.head []) client := by
  refine ⟨framed, receives, noHead, ?_, sizeofHeadMsg_pos⟩
  rw [empty]
  rfl

/-- A client that has just stored a header waits for its body. -/
theorem decodes_waits
    {kind : HeadKind}
    {length : Int}
    (positive : 0 < length)
    (small : length < 2147483648)
    (framed : client.bIsHaveHead = true)
    (receives : client.hasTransPortEngineRecv = true)
    (hasHead : client.bIsRecvHead = true)
    (empty : client.recvBufs = [])
    (type : client.nMsgType = if kind = .data then 1 else 0)
    (need : client.nNeedRecvDataLen = length) :
    Decodes (.body (kind, length) length.toNat []) client := by
  have lengthEq := Int.toNat_of_nonneg positive.le
  refine ⟨framed, receives, hasHead, ?_, type, need.trans lengthEq.symm,
    lengthEq.symm, ?_, ?_⟩
  · rw [empty]
    rfl
  · simp only [List.length_nil]
    omega
  · omega

/-- Behind a complete header the client waits for the body it expects, or for
the next header. -/
theorem decodes_finishHead
    {headMsg : List UInt8}
    (framed : client.bIsHaveHead = true)
    (receives : client.hasTransPortEngineRecv = true)
    (noHead : client.bIsRecvHead = false)
    (nonnegative : ¬NegativeHeartbeat (clientHead headMsg))
    (now : Int) :
    Decodes (clientFormat.afterHead headMsg).1
        (client.finishHead headMsg now).1 ∧
      (clientFormat.afterHead headMsg).2.filterMap clientPayload = [] := by
  have small := signed32_upper (headDataLen headMsg)
  have parsed : clientFormat.parse headMsg =
      (clientHead headMsg, clientBodyLen (clientHead headMsg)) := rfl
  have headEq : clientHead headMsg =
      (headKind headMsg, signed32 (headDataLen headMsg)) := rfl
  cases kind : headKind headMsg with
  | unknown =>
      rw [kind] at headEq
      have zero : (clientFormat.parse headMsg).2 = 0 := by
        rw [parsed, headEq]
        rfl
      have other := headTypeIs_of_headKind_unknown kind
      rw [clientFormat.afterHead_of_zero zero, parsed, headEq]
      simp only [finishHead, other.1, other.2, Bool.false_eq_true, if_false]
      exact ⟨decodes_start framed receives noHead rfl, rfl⟩
  | heartbeat =>
      rw [kind] at headEq
      have type := headTypeIs_of_headKind_heartbeat kind
      have length : (clientFormat.parse headMsg).2 =
          (signed32 (headDataLen headMsg)).toNat := by
        rw [parsed, headEq, clientBodyLen_heartbeat]
      have noSign : 0 ≤ signed32 (headDataLen headMsg) := by
        by_contra negative
        refine nonnegative ⟨kind, ?_⟩
        rw [headEq]
        exact not_le.mp negative
      simp only [finishHead, type, if_true]
      by_cases zero : signed32 (headDataLen headMsg) = 0
      · rw [clientFormat.afterHead_of_zero (by omega), if_pos zero, parsed, headEq]
        exact ⟨decodes_start framed receives noHead rfl, rfl⟩
      · rw [clientFormat.afterHead_of_pos (by omega), if_neg zero, length, parsed,
          headEq]
        have positive : 0 < signed32 (headDataLen headMsg) := by omega
        exact ⟨decodes_waits positive small framed receives rfl rfl rfl rfl, rfl⟩
  | data =>
      rw [kind] at headEq
      have types := headTypeIs_of_headKind_data kind
      have length : (clientFormat.parse headMsg).2 =
          (signed32 (headDataLen headMsg)).toNat := by
        rw [parsed, headEq, clientBodyLen_data]
      simp only [finishHead, types.1, types.2, Bool.false_eq_true, if_false,
        if_true]
      by_cases positive : 0 < signed32 (headDataLen headMsg)
      · rw [clientFormat.afterHead_of_pos (by omega), if_pos positive, length,
          parsed, headEq]
        exact ⟨decodes_waits positive small framed receives rfl rfl rfl rfl, rfl⟩
      · rw [clientFormat.afterHead_of_zero (by omega), if_neg positive, parsed,
          headEq]
        exact ⟨decodes_start framed receives noHead rfl, rfl⟩

/-- A piece that completes a body of a known type leaves nothing behind, and is
handed on when the type is that of data. -/
theorem recvBody_deliveries
    {szRecvBuf : List UInt8}
    {need : Nat}
    {isData : Prop}
    [Decidable isData]
    (receives : client.hasTransPortEngineRecv = true)
    (type : client.nMsgType = if isData then 1 else 0)
    (needEq : client.nNeedRecvDataLen = need)
    (small : need < 2147483648)
    (opened : (cachedBytes client.recvBufs).length < need)
    (full : (cachedBytes client.recvBufs).length + szRecvBuf.length = need)
    (now : Int) :
    let pass := client.recvBody szRecvBuf now
    (pass.client.bIsHaveHead = client.bIsHaveHead ∧
        pass.client.hasTransPortEngineRecv = client.hasTransPortEngineRecv ∧
          pass.client.bIsRecvHead = false ∧ pass.client.recvBufs = []) ∧
      deliveries pass.events =
        (if isData then [cachedBytes client.recvBufs ++ szRecvBuf] else []) ∧
      pass.leaves = false := by
  by_cases data : isData
  · rw [if_pos data] at type
    obtain ⟨clientEq, emitted, stays⟩ :=
      recvBody_full receives type needEq small opened full now
    refine ⟨?_, ?_, stays⟩
    · rw [clientEq]
      exact ⟨rfl, rfl, rfl, rfl⟩
    · rw [deliveries_eq_messages, emitted, if_pos data]
      rfl
  · rw [if_neg data] at type
    have missing := missingBody_eq needEq small opened
    simp only [recvBody]
    rw [if_pos (by omega), if_pos type, if_neg data]
    refine ⟨⟨rfl, rfl, rfl, rfl⟩, ?_, rfl⟩
    rw [deliveries_append, deliveries_append, deliveries_assembleCopies]
    rfl

/-- On a piece that was asked for the client moves with the decoder, and hands
on what it decodes. -/
theorem Decodes.recvDataPass
    {szRecvBuf : List UInt8}
    (decodes : Decodes state client)
    (granted : szRecvBuf.length ≤ client.recvRequest)
    (sane : Sane state szRecvBuf)
    (now : Int) :
    let pass := client.recvDataPass szRecvBuf now
    Decodes (clientFormat.feed state szRecvBuf).1 pass.client ∧
      deliveries pass.events = decodedPayloads state szRecvBuf ∧
        pass.leaves = false := by
  rw [decodes.recvRequest_eq] at granted
  unfold decodedPayloads
  cases state with
  | head seen =>
      obtain ⟨framed, receives, noHead, rfl, opened⟩ := decodes
      have data : client.recvDataPass szRecvBuf now =
          client.recvHead szRecvBuf now := by
        simp [TcpClient.recvDataPass, framed, noHead]
      rw [Format.request, clientFormat_headLength] at granted
      have within : (cachedBytes client.recvBufs).length + szRecvBuf.length ≤
          sizeofHeadMsg := by omega
      rw [data]
      rcases Nat.lt_or_eq_of_le within with short | full
      · obtain ⟨clientEq, silent, stays⟩ := recvHead_short short now
        rw [clientFormat.feed_head_short short]
        refine ⟨?_, ?_, stays⟩
        · rw [clientEq]
          refine ⟨framed, receives, noHead, cachedBytes_push _ _, ?_⟩
          rw [List.length_append]
          exact short
        · rw [deliveries_eq_messages, silent]
          rfl
      · obtain ⟨clientEq, emitted, stays⟩ := recvHead_full opened full now
        rw [Sane, clientFormat.feed_head_full opened full] at sane
        rw [clientFormat.feed_head_full opened full]
        have nonnegative : ¬NegativeHeartbeat
            (clientHead (cachedBytes client.recvBufs ++ szRecvBuf)) := by
          intro negative
          have zero : (clientFormat.parse
              (cachedBytes client.recvBufs ++ szRecvBuf)).2 = 0 :=
            clientBodyLen_of_negative negative
          rw [clientFormat.afterHead_of_zero zero] at sane
          exact sane _ List.mem_cons_self negative
        have finished := decodes_finishHead framed receives noHead nonnegative now
        refine ⟨clientEq ▸ finished.1, ?_, stays⟩
        rw [deliveries_eq_messages, emitted, finished.2]
        split <;> rfl
  | body head need seen =>
      obtain ⟨framed, receives, hasHead, rfl, type, needEq, headEq, opened,
        small⟩ := decodes
      have data : client.recvDataPass szRecvBuf now =
          client.recvBody szRecvBuf now := by
        simp [TcpClient.recvDataPass, framed, hasHead]
      rw [Format.request] at granted
      have within : (cachedBytes client.recvBufs).length + szRecvBuf.length ≤
          need := by omega
      rw [data]
      rcases Nat.lt_or_eq_of_le within with short | full
      · obtain ⟨clientEq, silent, stays⟩ := recvBody_short needEq small short now
        rw [clientFormat.feed_body_short short]
        refine ⟨?_, ?_, stays⟩
        · rw [clientEq]
          refine ⟨framed, receives, hasHead, cachedBytes_push _ _, type, needEq,
            headEq, ?_, small⟩
          rw [List.length_append]
          exact short
        · rw [deliveries_eq_messages, silent]
          rfl
      · obtain ⟨⟨haveHead, hasRecv, next, empty⟩, emitted, stays⟩ :=
          recvBody_deliveries receives type needEq small opened full now
        rw [clientFormat.feed_body_full opened full]
        refine ⟨decodes_start (haveHead.trans framed) (hasRecv.trans receives)
          next empty, ?_, stays⟩
        · have nonempty : cachedBytes client.recvBufs ++ szRecvBuf ≠ [] := by
            apply List.ne_nil_of_length_pos
            rw [List.length_append]
            omega
          rw [emitted, List.filterMap_cons, clientPayload_eq nonempty]
          split <;> rfl

/-- The bytes complete the header of a heartbeat of negative length. -/
def CompletesNegative (client : TcpClient) (szRecvBuf : List UInt8) : Prop :=
  client.bIsRecvHead = false ∧
    (cachedBytes client.recvBufs ++ szRecvBuf).length = sizeofHeadMsg ∧
      NegativeHeartbeat
        (clientHead (cachedBytes client.recvBufs ++ szRecvBuf))

instance (client : TcpClient) (szRecvBuf : List UInt8) :
    Decidable (client.CompletesNegative szRecvBuf) :=
  inferInstanceAs (Decidable (_ ∧ _ ∧ _))

/-- Only a header can be that of such a heartbeat. -/
theorem Decodes.sane
    {szRecvBuf : List UInt8}
    (decodes : Decodes state client)
    (granted : szRecvBuf.length ≤ client.recvRequest)
    (nonnegative : ¬client.CompletesNegative szRecvBuf) :
    Sane state szRecvBuf := by
  rw [decodes.recvRequest_eq] at granted
  intro output member
  cases state with
  | head seen =>
      obtain ⟨-, -, noHead, rfl, opened⟩ := decodes
      rw [Format.request, clientFormat_headLength] at granted
      have within : (cachedBytes client.recvBufs).length + szRecvBuf.length ≤
          sizeofHeadMsg := by omega
      rcases Nat.lt_or_eq_of_le within with short | full
      · rw [clientFormat.feed_head_short short] at member
        contradiction
      · rw [clientFormat.feed_head_full opened full] at member
        intro negative
        by_cases zero : (clientFormat.parse
            (cachedBytes client.recvBufs ++ szRecvBuf)).2 = 0
        · rw [clientFormat.afterHead_of_zero zero] at member
          rw [List.mem_singleton.mp member] at negative
          exact nonnegative ⟨noHead, by rw [List.length_append, full], negative⟩
        · rw [clientFormat.afterHead_of_pos (Nat.pos_of_ne_zero zero)] at member
          contradiction
  | body head need seen =>
      obtain ⟨-, -, -, rfl, -, -, headEq, opened, -⟩ := decodes
      rw [Format.request] at granted
      have within : (cachedBytes client.recvBufs).length + szRecvBuf.length ≤
          need := by omega
      rcases Nat.lt_or_eq_of_le within with short | full
      · rw [clientFormat.feed_body_short short] at member
        contradiction
      · rw [clientFormat.feed_body_full opened full] at member
        rw [List.mem_singleton.mp member]
        rintro ⟨-, negative⟩
        have announced : head.2 < 0 := negative
        omega

/-- A turn that is granted moves the client with the decoder. Turns with data
stay in the loop. -/
theorem Decodes.recvfromPass
    {turn : RecvfromTurn}
    (decodes : Decodes state client)
    (granted : turn.bytes.length ≤ client.recvRequest)
    (sane : Sane state turn.bytes) :
    let pass := client.recvfromPass turn
    Decodes (clientFormat.feed state turn.bytes).1 pass.client ∧
      deliveries pass.events = decodedPayloads state turn.bytes ∧
        (turn.OfStream → pass.leaves = false) := by
  have requested : deliveries
      ((if client.bIsHaveHead then recvBufLocked [] else []) ++
        [EngineEvent.read client.nSocket]) = [] := by
    split <;> rfl
  obtain ⟨recv, now⟩ := turn
  cases recv with
  | closed =>
      refine ⟨decodes, ?_, fun impossible => by contradiction⟩
      exact (deliveries_append _ _).trans (by rw [requested]; rfl)
  | failed =>
      refine ⟨decodes, ?_, fun impossible => by contradiction⟩
      exact (deliveries_append _ _).trans (by rw [requested]; rfl)
  | data szRecvBuf nonempty =>
      obtain ⟨decodes', emitted, stays⟩ := decodes.recvDataPass granted sane now
      refine ⟨decodes', ?_, fun _ => stays⟩
      apply (deliveries_append _ _).trans
      rw [requested, List.nil_append]
      exact emitted

end Passes

/-- What the loop delivers from granted turns is what their bytes decode to. -/
theorem Decodes.recvfrom
    {state : State UInt8 ClientHead}
    {client : TcpClient}
    {turns : List RecvfromTurn}
    (decodes : Decodes state client)
    (running : client.bRecvFlag = true)
    (granted : client.Granted turns)
    (ofStream : ∀ turn ∈ turns, turn.OfStream)
    (sane : Sane state (turns.flatMap RecvfromTurn.bytes)) :
    deliveries (client.recvfrom turns).events =
      decodedPayloads state (turns.flatMap RecvfromTurn.bytes) := by
  induction turns generalizing client state with
  | nil => rfl
  | cons turn turns inductionHypothesis =>
      rw [List.flatMap_cons, sane_append] at sane
      obtain ⟨decodes', emitted, stays⟩ :=
        decodes.recvfromPass granted.1 sane.1
      have running' := (bRecvFlag_recvfromPass client turn).trans running
      have later := inductionHypothesis decodes' running' granted.2
        (fun turn member => ofStream turn (List.mem_cons_of_mem _ member)) sane.2
      have stays := stays (ofStream turn List.mem_cons_self)
      rw [TcpClient.recvfrom, if_pos running]
      simp only [stays, Bool.false_eq_true, if_false]
      rw [deliveries_append, emitted, later, List.flatMap_cons,
        decodedPayloads_append]

end TcpClient

end TransPortEngine
