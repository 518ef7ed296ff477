import Mathlib.Data.List.Induction
import TransPortEngine.Engine
import TransPortEngine.Library.Buffer
import TransPortEngine.Library.MachineInt

/-!
# The cache of partial reads

`m_RecvBufs` collects the pieces of a header or body that is not complete yet.
Sessions and clients walk it in the same way: one function adds up the lengths
of the pieces, the other copies them one after the other into a buffer and
clears the cache.
-/

namespace TransPortEngine

open MachineInt

/-- `BUFINFO_T`; `nBufLen` is the length of `szBuf`. -/
structure BufInfo where
  szBuf : List UInt8
  deriving DecidableEq, Repr

/-- The bytes held by a cache, in order. -/
def cachedBytes (recvBufs : List BufInfo) : List UInt8 :=
  recvBufs.flatMap BufInfo.szBuf

@[simp] theorem cachedBytes_nil : cachedBytes [] = [] := rfl

@[simp] theorem cachedBytes_push
    (recvBufs : List BufInfo)
    (bufInfo : BufInfo) :
    cachedBytes (recvBufs ++ [bufInfo]) =
      cachedBytes recvBufs ++ bufInfo.szBuf := by
  simp [cachedBytes]

/-- The sum `nTotalLen` that the two `GetRecvCacheLen` functions accumulate in
an `int`. -/
def recvCacheTotalLen (recvBufs : List BufInfo) : Int :=
  recvBufs.foldl
    (fun nTotalLen bufInfo => signed32 (nTotalLen + bufInfo.szBuf.length)) 0

private theorem totalLen_from
    (recvBufs : List BufInfo)
    (nTotalLen : Int) :
    signed32 (recvBufs.foldl
        (fun nTotalLen bufInfo =>
          signed32 (nTotalLen + bufInfo.szBuf.length)) nTotalLen) =
      signed32 (nTotalLen + (cachedBytes recvBufs).length) := by
  induction recvBufs generalizing nTotalLen with
  | nil => simp
  | cons bufInfo recvBufs inductionHypothesis =>
      have lengths : (cachedBytes (bufInfo :: recvBufs)).length =
          bufInfo.szBuf.length + (cachedBytes recvBufs).length := by
        simp [cachedBytes]
      rw [List.foldl_cons, inductionHypothesis, signed32_add_signed32, lengths]
      congr 1
      push_cast
      ring

/-- The accumulated sum is the number of cached bytes, reduced to an `int`. -/
theorem signed32_recvCacheTotalLen (recvBufs : List BufInfo) :
    signed32 (recvCacheTotalLen recvBufs) =
      signed32 (cachedBytes recvBufs).length := by
  simpa [recvCacheTotalLen] using totalLen_from recvBufs 0

/-- `CTcpSession::TcpSession_GetRecvCacheLen`, which returns the sum as an
`unsigned int`. -/
def sessionRecvCacheLen (recvBufs : List BufInfo) : Nat :=
  unsigned32 (recvCacheTotalLen recvBufs)

/-- `CTcpClient::TcpClient_GetRecvCacheLen`, which returns the sum as it is. -/
def clientRecvCacheLen (recvBufs : List BufInfo) : Int :=
  recvCacheTotalLen recvBufs

theorem sessionRecvCacheLen_eq (recvBufs : List BufInfo) :
    sessionRecvCacheLen recvBufs = (cachedBytes recvBufs).length % 4294967296 := by
  have sum := signed32_recvCacheTotalLen recvBufs
  rw [sessionRecvCacheLen, ← unsigned32_signed32, sum, unsigned32_signed32]
  unfold unsigned32
  omega

/-- Below two gigabytes the client's sum is the number of cached bytes. -/
theorem clientRecvCacheLen_eq
    {recvBufs : List BufInfo}
    (small : (cachedBytes recvBufs).length < 2147483648) :
    clientRecvCacheLen recvBufs = (cachedBytes recvBufs).length := by
  unfold clientRecvCacheLen
  induction recvBufs using List.reverseRecOn with
  | nil => rfl
  | append_singleton recvBufs bufInfo inductionHypothesis =>
      rw [cachedBytes_push, List.length_append] at small
      have before := inductionHypothesis (by omega)
      rw [recvCacheTotalLen, List.foldl_append, List.foldl_cons, List.foldl_nil]
      change signed32 (recvCacheTotalLen recvBufs + _) = _
      rw [before, cachedBytes_push, List.length_append,
        signed32_of_range (by omega) (by omega)]
      push_cast
      rfl

/-! ## Copying the cache out -/

/-- One iteration of the copy loop of `GetRecvCacheBuf`. -/
def copyBufInfo
    (progress : List UInt8 × Int)
    (bufInfo : BufInfo) : List UInt8 × Int :=
  (Buffer.overwrite progress.1 progress.2.toNat bufInfo.szBuf,
    signed32 (progress.2 + bufInfo.szBuf.length))

/-- `GetRecvCacheBuf`: the buffer after the copies, and the returned length. -/
def getRecvCacheBuf
    (recvBufs : List BufInfo)
    (szBuf : List UInt8) : List UInt8 × Int :=
  recvBufs.foldl copyBufInfo (szBuf, 0)

/-- The block copies of `GetRecvCacheBuf` into a buffer of a given size. -/
def getRecvCacheBufCopies
    (capacity : Nat) : Int → List BufInfo → List EngineEvent
  | _, [] => []
  | nTotalLen, bufInfo :: recvBufs =>
      .memcpy capacity nTotalLen bufInfo.szBuf.length ::
        getRecvCacheBufCopies capacity
          (signed32 (nTotalLen + bufInfo.szBuf.length)) recvBufs

/-- As long as everything fits the buffer, the pieces end up side by side at
its start. -/
theorem getRecvCacheBuf_eq
    {recvBufs : List BufInfo}
    {szBuf : List UInt8}
    (fits : (cachedBytes recvBufs).length ≤ szBuf.length)
    (small : (cachedBytes recvBufs).length < 2147483648) :
    getRecvCacheBuf recvBufs szBuf =
      (Buffer.overwrite szBuf 0 (cachedBytes recvBufs),
        ((cachedBytes recvBufs).length : Int)) := by
  induction recvBufs using List.reverseRecOn with
  | nil => simp [getRecvCacheBuf]
  | append_singleton recvBufs bufInfo inductionHypothesis =>
      rw [cachedBytes_push, List.length_append] at fits small
      have before := inductionHypothesis (by omega) (by omega)
      have step : getRecvCacheBuf (recvBufs ++ [bufInfo]) szBuf =
          copyBufInfo (getRecvCacheBuf recvBufs szBuf) bufInfo := by
        simp [getRecvCacheBuf]
      rw [step, before, copyBufInfo]
      refine Prod.ext ?_ ?_
      · simp [Buffer.overwrite_overwrite_zero]
      · simp only [cachedBytes_push, List.length_append]
        rw [signed32_of_range (by omega) (by omega)]
        push_cast
        rfl

/-- Copying the cache and then a fresh piece behind it. -/
def assembleBuf
    (recvBufs : List BufInfo)
    (szBuf szRecvBuf : List UInt8) : List UInt8 :=
  let copied := getRecvCacheBuf recvBufs szBuf
  Buffer.overwrite copied.1 copied.2.toNat szRecvBuf

/-- Events inside a scope that holds `m_RecvBufLock`. -/
def recvBufLocked (events : List EngineEvent) : List EngineEvent :=
  [.lock .recvBufLock] ++ events ++ [.unlock .recvBufLock]

/-- The block copies made by the assembly; the lock covers those from the
cache. -/
def assembleCopies
    (capacity : Nat)
    (recvBufs : List BufInfo)
    (szRecvBuf : List UInt8) : List EngineEvent :=
  recvBufLocked (getRecvCacheBufCopies capacity 0 recvBufs) ++
    [.memcpy capacity (recvCacheTotalLen recvBufs) szRecvBuf.length]

/-- A buffer that holds cache and fresh piece starts with both of them. -/
theorem take_assembleBuf
    {recvBufs : List BufInfo}
    {szBuf szRecvBuf : List UInt8}
    {length : Nat}
    (full : (cachedBytes recvBufs).length + szRecvBuf.length = length)
    (fits : length ≤ szBuf.length)
    (small : length < 2147483648) :
    (assembleBuf recvBufs szBuf szRecvBuf).take length =
      cachedBytes recvBufs ++ szRecvBuf := by
  have room : (cachedBytes recvBufs).length ≤ szBuf.length := by omega
  have copied := getRecvCacheBuf_eq room (by omega)
  rw [assembleBuf, copied]
  simp only [Int.toNat_natCast]
  rw [Buffer.overwrite_overwrite_zero, ← full, ← List.length_append]
  exact Buffer.take_overwrite_zero _ _

/-- A buffer exactly as long as cache and fresh piece is both of them. -/
theorem assembleBuf_eq
    {recvBufs : List BufInfo}
    {szBuf szRecvBuf : List UInt8}
    (full : (cachedBytes recvBufs).length + szRecvBuf.length = szBuf.length)
    (small : szBuf.length < 2147483648) :
    assembleBuf recvBufs szBuf szRecvBuf =
      cachedBytes recvBufs ++ szRecvBuf := by
  have room : (cachedBytes recvBufs).length ≤ szBuf.length := by omega
  rw [assembleBuf, getRecvCacheBuf_eq room (by omega)]
  simp only [Int.toNat_natCast]
  rw [Buffer.overwrite_overwrite_zero]
  apply Buffer.overwrite_full
  rw [List.length_append, full]

/-- Copying the cache makes block copies only. -/
theorem forall_getRecvCacheBufCopies
    {P : EngineEvent → Prop}
    (copies : ∀ capacity offset count, P (.memcpy capacity offset count))
    (capacity : Nat)
    (nTotalLen : Int)
    (recvBufs : List BufInfo) :
    ∀ event ∈ getRecvCacheBufCopies capacity nTotalLen recvBufs, P event := by
  induction recvBufs generalizing nTotalLen with
  | nil =>
      intro event impossible
      contradiction
  | cons bufInfo recvBufs inductionHypothesis =>
      intro event member
      rcases List.mem_cons.mp member with rfl | later
      · exact copies _ _ _
      · exact inductionHypothesis _ event later

/-- Assembling a buffer takes the lock, copies, and gives the lock back. -/
theorem forall_assembleCopies
    {P : EngineEvent → Prop}
    (locks : P (.lock .recvBufLock))
    (unlocks : P (.unlock .recvBufLock))
    (copies : ∀ capacity offset count, P (.memcpy capacity offset count))
    (capacity : Nat)
    (recvBufs : List BufInfo)
    (szRecvBuf : List UInt8) :
    ∀ event ∈ assembleCopies capacity recvBufs szRecvBuf, P event := by
  intro event member
  simp only [assembleCopies, recvBufLocked, List.mem_append,
    List.mem_singleton] at member
  rcases member with ((rfl | copied) | rfl) | rfl
  · exact locks
  · exact forall_getRecvCacheBufCopies copies _ _ _ event copied
  · exact unlocks
  · exact copies _ _ _

@[simp] theorem messages_recvBufLocked_nil :
    messages (recvBufLocked []) = [] := rfl

@[simp] theorem messages_assembleCopies
    (capacity : Nat)
    (recvBufs : List BufInfo)
    (szRecvBuf : List UInt8) :
    messages (assembleCopies capacity recvBufs szRecvBuf) = [] := by
  apply List.filterMap_eq_nil_iff.mpr
  apply forall_assembleCopies
  · rfl
  · rfl
  · intro capacity offset count
    rfl

@[simp] theorem deliveries_assembleCopies
    (capacity : Nat)
    (recvBufs : List BufInfo)
    (szRecvBuf : List UInt8) :
    deliveries (assembleCopies capacity recvBufs szRecvBuf) = [] := by
  rw [deliveries_eq_messages, messages_assembleCopies]
  rfl

end TransPortEngine
