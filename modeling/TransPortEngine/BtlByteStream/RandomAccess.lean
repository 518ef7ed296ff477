import TransPortEngine.BtlByteStream.Strings
import TransPortEngine.Library.Transition

/-!
# A byte stream as a store

The cursor of a stream can be set anywhere and skipped in both directions, so
that values can be written and read in any order. A value stays where it was
written until something is written over a part of it.
-/

namespace TransPortEngine

open Layout Transition

/-- A call of a function of a stream. -/
inductive StreamCall
  | setCurPos (dwPos : UInt32)
  | skip (pos : Int32)
  | insert (item : Item)
  | extract (target : Item)
  | writeBytes (pData : Option (List UInt8)) (dwSize : UInt32)
  | readBytes (pData : Option (List UInt8)) (dwSize : UInt32)
  | writeString (pStr : Option CString)
  | readString
  | readStringTo (order : ArgumentOrder) (pStr : List UInt8)

/-- The number of bytes a call writes at the cursor. -/
def StreamCall.writes : StreamCall → Nat
  | .insert item => item.1.size
  | .writeBytes (some _) dwSize => dwSize.toNat
  | .writeString (some pStr) => (strcpyS pStr.chars.length pStr).length
  | .writeString none => 1
  | _ => 0

namespace BtlByteStream

/-- `Skip`. -/
def skip (stream : BtlByteStream) (pos : Int32) : BtlByteStream :=
  stream.advance pos.toUInt32

/-- One call; none if it would leave the buffer. -/
def step (host : Host) (stream : BtlByteStream) :
    StreamCall → Option BtlByteStream
  | .setCurPos dwPos => some (stream.setCurPos dwPos).1
  | .skip pos => some (stream.skip pos)
  | .insert item => stream.insert host item
  | .extract target => (stream.extract host target).map Prod.fst
  | .writeBytes pData dwSize => stream.writeBytes pData dwSize
  | .readBytes pData dwSize => (stream.readBytes pData dwSize).map Prod.fst
  | .writeString pStr => stream.writeString pStr
  | .readString => stream.readString.map Prod.fst
  | .readStringTo order pStr => (stream.readStringTo order pStr).map Prod.fst

/-- A call writes nothing over `count` bytes from `start` on. -/
def Spares
    (start count : Nat)
    (stream : BtlByteStream)
    (call : StreamCall) : Prop :=
  call.writes = 0 ∨ stream.dwCurPos.toNat + call.writes ≤ start ∨
    start + count ≤ stream.dwCurPos.toNat

instance (start count : Nat) (stream : BtlByteStream) (call : StreamCall) :
    Decidable (Spares start count stream call) :=
  inferInstanceAs (Decidable (_ ∨ _ ∨ _))

end BtlByteStream

/-! ## What a call leaves alone -/

/-- At most `count` bytes at the cursor have changed. -/
structure Touched (before after : BtlByteStream) (count : Nat) : Prop where
  length : after.pBuf.length = before.pBuf.length
  outside : ∀ index, index < before.dwCurPos.toNat ∨
      before.dwCurPos.toNat + count ≤ index →
    after.pBuf[index]? = before.pBuf[index]?
  bNetOrder : after.bNetOrder = before.bNetOrder

namespace BtlByteStream

variable {stream after : BtlByteStream}

/-- A call that leaves the buffer as it is. -/
theorem touched_of_kept
    (pBuf : after.pBuf = stream.pBuf)
    (bNetOrder : after.bNetOrder = stream.bNetOrder)
    (count : Nat) :
    Touched stream after count where
  length := by rw [pBuf]
  outside index _ := by rw [pBuf]
  bNetOrder := bNetOrder

/-! ### Writing -/

/-- A copy to the cursor touches what is copied. -/
theorem touched_of_poke
    {source : List UInt8}
    {count : UInt32}
    (poked : (stream.poke source).map (advance · count) = some after) :
    Touched stream after source.length := by
  obtain ⟨middle, isPoked, rfl⟩ := Option.map_eq_some_iff.mp poked
  unfold poke at isPoked
  split at isPoked
  · rename_i fits
    rw [← Option.some.inj isPoked]
    refine ⟨Buffer.length_overwrite fits, ?_, rfl⟩
    intro index outside
    exact Buffer.getElem?_overwrite_of_outside (by omega) outside
  · contradiction

theorem touched_of_writeBytes
    {data : List UInt8}
    {dwSize : UInt32}
    (wrote : stream.writeBytes (some data) dwSize = some after) :
    Touched stream after dwSize.toNat := by
  simp only [writeBytes] at wrote
  split at wrote
  · rw [← Option.some.inj wrote]
    exact touched_of_kept rfl rfl _
  · split at wrote
    · contradiction
    · rename_i enough
      have copied : (data.take dwSize.toNat).length = dwSize.toNat :=
        List.length_take_of_le (not_lt.mp enough)
      exact copied ▸ touched_of_poke wrote

theorem touched_of_insertWord
    {τ : Type}
    {size : Nat}
    {codec : Codec UInt8 τ size}
    {hton : τ → τ}
    {x : τ}
    (sizeof : (UInt32.ofNat size).toNat = size)
    (inserted : stream.insertWord codec hton x = some after) :
    Touched stream after size :=
  sizeof ▸ touched_of_writeBytes inserted

theorem touched_of_insert
    {host : Host}
    {item : Item}
    (inserted : stream.insert host item = some after) :
    Touched stream after item.1.size := by
  obtain ⟨type, value⟩ := item
  cases type with
  | unsignedChar | char => exact touched_of_poke inserted
  | short | unsignedShort | int | unsignedInt | long | unsignedLong
  | unsignedInt64 | float | double => exact touched_of_insertWord rfl inserted
  | bytes dwSize => exact touched_of_writeBytes inserted

theorem touched_of_writeString
    {pStr : Option CString}
    (wrote : stream.writeString pStr = some after) :
    Touched stream after (StreamCall.writeString pStr).writes := by
  cases pStr with
  | none => exact touched_of_poke wrote
  | some pStr => exact touched_of_poke wrote

/-! ### Reading -/

/-- A read leaves the buffer and the byte order. -/
def Kept (before after : BtlByteStream) : Prop :=
  after.pBuf = before.pBuf ∧ after.bNetOrder = before.bNetOrder

theorem kept_of_readBytes
    {pData memory : Option (List UInt8)}
    {dwSize : UInt32}
    (read : stream.readBytes pData dwSize = some (after, memory)) :
    Kept stream after := by
  cases pData with
  | none =>
      rw [readBytes, Option.some.injEq, Prod.mk.injEq] at read
      exact read.1 ▸ ⟨rfl, rfl⟩
  | some data =>
      simp only [readBytes] at read
      split at read
      · rw [Option.some.injEq, Prod.mk.injEq] at read
        exact read.1 ▸ ⟨rfl, rfl⟩
      · split at read
        · contradiction
        · obtain ⟨source, -, isAfter⟩ := Option.map_eq_some_iff.mp read
          rw [Prod.mk.injEq] at isAfter
          exact isAfter.1 ▸ ⟨rfl, rfl⟩

theorem kept_of_getByte
    {ch : UInt8}
    (read : stream.getByte = some (after, ch)) :
    Kept stream after := by
  obtain ⟨source, -, isAfter⟩ := Option.map_eq_some_iff.mp read
  rw [Prod.mk.injEq] at isAfter
  exact isAfter.1 ▸ ⟨rfl, rfl⟩

theorem kept_of_extractWord
    {τ : Type}
    {size : Nat}
    {codec : Codec UInt8 τ size}
    {ntoh : τ → τ}
    {x y : τ}
    (read : stream.extractWord codec ntoh x = some (after, y)) :
    Kept stream after := by
  unfold extractWord at read
  split at read
  · rename_i bytes isRead
    rw [Option.some.injEq, Prod.mk.injEq] at read
    exact read.1 ▸ kept_of_readBytes isRead
  · contradiction

theorem kept_of_typed
    {type : ItemType}
    {read : Option (BtlByteStream × type.Value)}
    {item : Item}
    (isRead : typed type read = some (after, item))
    (kept : ∀ value, read = some (after, value) → Kept stream after) :
    Kept stream after := by
  obtain ⟨⟨middle, value⟩, found, isAfter⟩ := Option.map_eq_some_iff.mp isRead
  rw [Prod.mk.injEq] at isAfter
  obtain ⟨rfl, -⟩ := isAfter
  exact kept value found

theorem kept_of_extract
    {host : Host}
    {target item : Item}
    (read : stream.extract host target = some (after, item)) :
    Kept stream after := by
  obtain ⟨type, value⟩ := target
  cases type with
  | unsignedChar => exact kept_of_typed read fun _ => kept_of_getByte
  | char =>
      apply kept_of_typed read
      intro value isRead
      obtain ⟨⟨middle, ch⟩, found, isAfter⟩ := Option.map_eq_some_iff.mp isRead
      rw [Prod.mk.injEq] at isAfter
      exact isAfter.1 ▸ kept_of_getByte found
  | short | unsignedShort | int | unsignedInt | long | unsignedLong
  | unsignedInt64 | float | double =>
      exact kept_of_typed read fun _ => kept_of_extractWord
  | bytes dwSize =>
      simp only [extract] at read
      split at read
      · rename_i bytes isRead
        split at read
        · rw [Option.some.injEq, Prod.mk.injEq] at read
          exact read.1 ▸ kept_of_readBytes isRead
        · contradiction
      · contradiction

theorem kept_of_readString
    {pStr : CString}
    (read : stream.readString = some (after, pStr)) :
    Kept stream after :=
  have passed := passed_readString read
  ⟨passed.pBuf, passed.bNetOrder⟩

theorem kept_of_readStringTo
    {order : ArgumentOrder}
    {pStr memory : List UInt8}
    (read : stream.readStringTo order pStr = some (after, memory)) :
    Kept stream after := by
  unfold readStringTo at read
  split at read
  · contradiction
  · rename_i first pFirst readFirst
    split at read
    · contradiction
    · rename_i second pSecond readSecond
      have keptFirst := kept_of_readString readFirst
      have keptSecond := kept_of_readString readSecond
      have copied := (Option.ite_none_right_eq_some.mp read).2
      rw [Option.some.injEq, Prod.mk.injEq] at copied
      exact copied.1 ▸ ⟨keptSecond.1.trans keptFirst.1,
        keptSecond.2.trans keptFirst.2⟩

/-! ### Any call -/

/-- A call touches no more than what it writes. -/
theorem touched_of_step
    {host : Host}
    {call : StreamCall}
    (stepped : stream.step host call = some after) :
    Touched stream after call.writes := by
  have reads : ∀ {α : Type} {read : Option (BtlByteStream × α)},
      read.map Prod.fst = some after →
        (∀ value, read = some (after, value) → Kept stream after) →
          Touched stream after 0 := by
    intro α read isRead kept
    obtain ⟨⟨middle, value⟩, found, rfl⟩ := Option.map_eq_some_iff.mp isRead
    exact touched_of_kept (kept value found).1 (kept value found).2 0
  cases call with
  | setCurPos dwPos =>
      obtain rfl := Option.some.inj stepped
      exact ⟨rfl, fun _ _ => rfl, rfl⟩
  | skip pos =>
      obtain rfl := Option.some.inj stepped
      exact ⟨rfl, fun _ _ => rfl, rfl⟩
  | insert item => exact touched_of_insert stepped
  | extract target => exact reads stepped fun _ => kept_of_extract
  | writeBytes pData dwSize =>
      cases pData with
      | none =>
          rw [← Option.some.inj stepped]
          exact touched_of_kept rfl rfl _
      | some data => exact touched_of_writeBytes stepped
  | readBytes => exact reads stepped fun _ => kept_of_readBytes
  | writeString pStr => exact touched_of_writeString stepped
  | readString => exact reads stepped fun _ => kept_of_readString
  | readStringTo => exact reads stepped fun _ => kept_of_readStringTo

/-! ## Whole runs -/

/-- Some bytes are as they were. -/
structure Holds
    (written : BtlByteStream)
    (start count : Nat)
    (stream : BtlByteStream) : Prop where
  length : stream.pBuf.length = written.pBuf.length
  bytes : ∀ index, start ≤ index → index < start + count →
    stream.pBuf[index]? = written.pBuf[index]?
  bNetOrder : stream.bNetOrder = written.bNetOrder

/-- A call that writes elsewhere leaves the bytes. -/
theorem Holds.step
    {written next : BtlByteStream}
    {start count : Nat}
    {host : Host}
    {call : StreamCall}
    (holds : Holds written start count stream)
    (spares : Spares start count stream call)
    (stepped : stream.step host call = some next) :
    Holds written start count next := by
  have touched := touched_of_step stepped
  refine ⟨touched.length.trans holds.length, ?_,
    touched.bNetOrder.trans holds.bNetOrder⟩
  intro index from_ below
  refine (touched.outside index ?_).trans (holds.bytes index from_ below)
  rcases spares with nothing | before | behind
  · omega
  · exact Or.inr (by omega)
  · exact Or.inl (by omega)

/-- The bytes that were kept, as a block. -/
theorem Holds.take_drop
    {written : BtlByteStream}
    {start count : Nat}
    (holds : Holds written start count stream) :
    (stream.pBuf.drop start).take count = (written.pBuf.drop start).take count := by
  apply List.ext_getElem?
  intro index
  rw [List.getElem?_take, List.getElem?_take]
  split
  · rw [List.getElem?_drop, List.getElem?_drop]
    exact holds.bytes _ (by omega) (by omega)
  · rfl

/-- A value that has been written can be read at its place after any other calls,
in any order and wherever they leave the cursor, as long as none of them writes
over a part of it. -/
theorem extract_of_insert
    (host : Host)
    (stream written last : BtlByteStream)
    (item : Item)
    (target : item.1.Value)
    (calls : List StreamCall)
    (fits : stream.dwCurPos.toNat + item.1.size ≤ stream.pBuf.length)
    (inserted : stream.insert host item = some written)
    (spares : Throughout (step host)
      (Spares stream.dwCurPos.toNat item.1.size) written calls)
    (reached : run (step host) written calls = some last) :
    ∃ after, (last.setCurPos stream.dwCurPos).1.extract host ⟨item.1, target⟩ =
        some (after, item) ∧
      after.pBuf = last.pBuf ∧
      after.dwCurPos.toNat = stream.dwCurPos.toNat + item.1.size := by
  obtain ⟨other, isWritten, wrote⟩ := stream.insert_fits host item fits
  obtain rfl := Option.some.inj (isWritten.symm.trans inserted)
  have width := (wireCodec host stream.bNetOrder item.1).length_encode item.2
  have sameLength := wrote.length_pBuf (by rw [width]; exact fits)
  have holds : Holds other stream.dwCurPos.toNat item.1.size last :=
    invariant_of_run
      (fun _ _ _ holds spares stepped => Holds.step holds spares stepped)
      ⟨rfl, fun _ _ _ => rfl, rfl⟩ spares reached
  have block : (last.setCurPos stream.dwCurPos).1.behind.take item.1.size =
      (wireCodec host stream.bNetOrder item.1).encode item.2 := by
    have behind := wrote.behind (by omega)
    apply holds.take_drop.trans
    change (other.setCurPos stream.dwCurPos).1.behind.take item.1.size = _
    rw [behind, List.take_left' width]
  obtain ⟨after, extracted, passed⟩ :=
    (last.setCurPos stream.dwCurPos).1.extract_fits host ⟨item.1, target⟩ (by
      change stream.dwCurPos.toNat + item.1.size ≤ last.pBuf.length
      rw [holds.length, sameLength]
      exact fits)
  have order : (last.setCurPos stream.dwCurPos).1.bNetOrder =
      stream.bNetOrder := holds.bNetOrder.trans wrote.bNetOrder
  refine ⟨after, ?_, passed.pBuf, passed.dwCurPos⟩
  rw [extracted, order, block, Codec.decode_encode]

/-- A block behind the `short` at position 8, a byte right before it, and an empty
string elsewhere. The block and the byte are reached by skipping. -/
def callsAround : List StreamCall :=
  [.skip 2,
    .writeBytes (some [7, 8, 9]) 3,
    .skip (-8),
    .insert ⟨.unsignedChar, 5⟩,
    .setCurPos 20,
    .writeString none,
    .setCurPos 12,
    .readString]

theorem extract_of_insert_around :
    ∃ written last,
      ((construct 32 true).setCurPos 8).1.insert windowsHost ⟨.short, -2⟩ =
        some written ∧
      run (step windowsHost) written callsAround = some last ∧
      ∃ after, (last.setCurPos 8).1.extract windowsHost ⟨.short, 0⟩ =
        some (after, ⟨.short, -2⟩) := by
  have reached : ∃ last, ((construct 32 true).setCurPos 8).1.insert windowsHost
      ⟨.short, -2⟩ >>= (run (step windowsHost) · callsAround) = some last :=
    ⟨_, rfl⟩
  have spares : ∀ written, ((construct 32 true).setCurPos 8).1.insert windowsHost
      ⟨.short, -2⟩ = some written →
        Throughout (step windowsHost) (Spares 8 2) written callsAround := by
    rintro _ ⟨rfl⟩
    decide
  obtain ⟨last, ran⟩ := reached
  obtain ⟨written, inserted, ran⟩ := Option.bind_eq_some_iff.mp ran
  obtain ⟨after, extracted, -⟩ :=
    extract_of_insert windowsHost ((construct 32 true).setCurPos 8).1 written last
      ⟨.short, -2⟩ 0 callsAround (by decide) inserted (spares written inserted) ran
  exact ⟨written, last, inserted, ran, after, extracted⟩

end BtlByteStream

end TransPortEngine
