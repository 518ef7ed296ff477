import TransPortEngine.BtlByteStream.Defs

/-!
# Reading back what was written

A message is a sequence of scalars and raw blocks. Written one after another,
its items are the layout of their wire forms, copied to the cursor; read in the
same order from where the first was written they come back.
-/

namespace TransPortEngine

open Layout

/-- The types the operators take, and the raw blocks of a given size. -/
inductive ItemType
  | unsignedChar
  | char
  | short
  | unsignedShort
  | int
  | unsignedInt
  | long
  | unsignedLong
  | unsignedInt64
  | float
  | double
  | bytes (dwSize : UInt32)
  deriving DecidableEq, Repr

namespace ItemType

/-- The values of a type; those of `float` and `double` are bit patterns. -/
abbrev Value : ItemType → Type
  | .unsignedChar => UInt8
  | .char => Int8
  | .short => Int16
  | .unsignedShort => UInt16
  | .int => Int32
  | .unsignedInt => UInt32
  | .long => Int32
  | .unsignedLong => UInt32
  | .unsignedInt64 => UInt64
  | .float => UInt32
  | .double => UInt64
  | .bytes dwSize => { data : List UInt8 // data.length = dwSize.toNat }

/-- `sizeof` of a type, and the size of a block. -/
abbrev size : ItemType → Nat
  | .unsignedChar => 1
  | .char => 1
  | .short => 2
  | .unsignedShort => 2
  | .int => 4
  | .unsignedInt => 4
  | .long => 4
  | .unsignedLong => 4
  | .unsignedInt64 => 8
  | .float => 4
  | .double => 8
  | .bytes dwSize => dwSize.toNat

end ItemType

/-- A scalar or a raw block. -/
abbrev Item := Sigma ItemType.Value

namespace BtlByteStream

/-- Write an item. -/
def insert (host : Host) (stream : BtlByteStream) : Item → Option BtlByteStream
  | ⟨.unsignedChar, ch⟩ => stream.insertUnsignedChar ch
  | ⟨.char, ch⟩ => stream.insertChar ch
  | ⟨.short, s⟩ => stream.insertShort host s
  | ⟨.unsignedShort, s⟩ => stream.insertUnsignedShort host s
  | ⟨.int, i⟩ => stream.insertInt host i
  | ⟨.unsignedInt, i⟩ => stream.insertUnsignedInt host i
  | ⟨.long, l⟩ => stream.insertLong host l
  | ⟨.unsignedLong, l⟩ => stream.insertUnsignedLong host l
  | ⟨.unsignedInt64, ull⟩ => stream.insertUnsignedInt64 host ull
  | ⟨.float, f⟩ => stream.insertFloat host f
  | ⟨.double, d⟩ => stream.insertDouble host d
  | ⟨.bytes dwSize, data⟩ => stream.writeBytes (some data.val) dwSize

/-- Give what was read the type it was read as. -/
def typed
    (type : ItemType)
    (read : Option (BtlByteStream × type.Value)) :
    Option (BtlByteStream × Item) :=
  read.map fun read => (read.1, ⟨type, read.2⟩)

/-- Read into an item. -/
def extract
    (host : Host)
    (stream : BtlByteStream) : Item → Option (BtlByteStream × Item)
  | ⟨.unsignedChar, _⟩ => typed .unsignedChar stream.extractUnsignedChar
  | ⟨.char, _⟩ => typed .char stream.extractChar
  | ⟨.short, s⟩ => typed .short (stream.extractShort host s)
  | ⟨.unsignedShort, s⟩ =>
      typed .unsignedShort (stream.extractUnsignedShort host s)
  | ⟨.int, i⟩ => typed .int (stream.extractInt host i)
  | ⟨.unsignedInt, i⟩ => typed .unsignedInt (stream.extractUnsignedInt host i)
  | ⟨.long, l⟩ => typed .long (stream.extractLong host l)
  | ⟨.unsignedLong, l⟩ =>
      typed .unsignedLong (stream.extractUnsignedLong host l)
  | ⟨.unsignedInt64, ull⟩ =>
      typed .unsignedInt64 (stream.extractUnsignedInt64 host ull)
  | ⟨.float, f⟩ => typed .float (stream.extractFloat host f)
  | ⟨.double, d⟩ => typed .double (stream.extractDouble host d)
  | ⟨.bytes dwSize, data⟩ =>
      match stream.readBytes (some data.val) dwSize with
      | some (stream, some read) =>
          if whole : read.length = dwSize.toNat then
            some (stream, ⟨.bytes dwSize, ⟨read, whole⟩⟩)
          else none
      | _ => none

/-- Write items one after another. -/
def insertAll (host : Host) : BtlByteStream → List Item → Option BtlByteStream
  | stream, [] => some stream
  | stream, item :: items =>
      match stream.insert host item with
      | none => none
      | some stream => insertAll host stream items

/-- Read into items one after another. -/
def extractAll (host : Host) :
    BtlByteStream → List Item → Option (BtlByteStream × List Item)
  | stream, [] => some (stream, [])
  | stream, target :: targets =>
      match stream.extract host target with
      | none => none
      | some (stream, item) =>
          (extractAll host stream targets).map fun read =>
            (read.1, item :: read.2)

end BtlByteStream

/-! ## The wire form of an item -/

namespace Host

variable (host : Host)

theorem ntohShort_htonShort (s : Int16) :
    host.ntohShort (host.htonShort s) = s := by
  simp [ntohShort, htonShort, host.ntohs_htons]

theorem ntohll_htonll (x : UInt64) : host.ntohll (host.htonll x) = x :=
  host.ntohll_ntohll x

theorem ntohInt_htonInt (i : Int32) : host.ntohInt (host.htonInt i) = i := by
  simp [ntohInt, htonInt, host.ntohl_htonl]

end Host

/-- One byte. -/
def byteCodec : Codec UInt8 UInt8 1 where
  encode ch := [ch]
  decode bytes := bytes.getD 0 0
  length_encode _ := rfl
  decode_encode _ := rfl

/-- A block of a given size. -/
def blockCodec (dwSize : UInt32) :
    Codec UInt8 (ItemType.bytes dwSize).Value dwSize.toNat where
  encode data := data.val
  decode bytes :=
    if whole : bytes.length = dwSize.toNat then ⟨bytes, whole⟩
    else ⟨List.replicate dwSize.toNat 0, List.length_replicate⟩
  length_encode data := data.property
  decode_encode data := by rw [dif_pos data.property]

/-- The bytes of an item on the wire. -/
def wireCodec (host : Host) (bNetOrder : Bool) :
    (type : ItemType) → Codec UInt8 type.Value type.size
  | .unsignedChar => byteCodec
  | .char => byteCodec.through Int8.toUInt8 UInt8.toInt8 Int8.toInt8_toUInt8
  | .short => host.short.throughIf bNetOrder _ _ host.ntohShort_htonShort
  | .unsignedShort => host.word16.throughIf bNetOrder _ _ host.ntohs_htons
  | .int => host.int.throughIf bNetOrder _ _ host.ntohInt_htonInt
  | .unsignedInt => host.word32.throughIf bNetOrder _ _ host.ntohl_htonl
  | .long => host.int.throughIf bNetOrder _ _ host.ntohInt_htonInt
  | .unsignedLong => host.word32.throughIf bNetOrder _ _ host.ntohl_htonl
  | .unsignedInt64 => host.word64.throughIf bNetOrder _ _ host.ntohll_htonll
  | .float => host.word32.throughIf bNetOrder _ _ host.swapFloat_swapFloat
  | .double => host.word64.throughIf bNetOrder _ _ host.swapDouble_swapDouble
  | .bytes dwSize => blockCodec dwSize

/-! ## What a write and a read do -/

/-- Bytes have been copied to the cursor, and the cursor is behind them. -/
structure Wrote
    (before after : BtlByteStream)
    (source : List UInt8) : Prop where
  pBuf : after.pBuf =
    Buffer.overwrite before.pBuf before.dwCurPos.toNat source
  dwCurPos : after.dwCurPos.toNat = before.dwCurPos.toNat + source.length
  bNetOrder : after.bNetOrder = before.bNetOrder

/-- The cursor has passed some bytes. -/
structure Passed (before after : BtlByteStream) (count : Nat) : Prop where
  pBuf : after.pBuf = before.pBuf
  dwCurPos : after.dwCurPos.toNat = before.dwCurPos.toNat + count
  bNetOrder : after.bNetOrder = before.bNetOrder

/-- The bytes behind the cursor. -/
def BtlByteStream.behind (stream : BtlByteStream) : List UInt8 :=
  stream.pBuf.drop stream.dwCurPos.toNat

/-- Two copies, one behind the other. -/
theorem Wrote.trans
    {before middle after : BtlByteStream}
    {first second : List UInt8}
    (starts : before.dwCurPos.toNat ≤ before.pBuf.length)
    (wroteFirst : Wrote before middle first)
    (wroteSecond : Wrote middle after second) :
    Wrote before after (first ++ second) where
  pBuf := by
    rw [wroteSecond.pBuf, wroteFirst.pBuf, wroteFirst.dwCurPos,
      Buffer.overwrite_overwrite starts]
  dwCurPos := by
    rw [wroteSecond.dwCurPos, wroteFirst.dwCurPos, List.length_append,
      Nat.add_assoc]
  bNetOrder := wroteSecond.bNetOrder.trans wroteFirst.bNetOrder

theorem Wrote.length_pBuf
    {before after : BtlByteStream}
    {source : List UInt8}
    (fits : before.dwCurPos.toNat + source.length ≤ before.pBuf.length)
    (wrote : Wrote before after source) :
    after.pBuf.length = before.pBuf.length := by
  rw [wrote.pBuf, Buffer.length_overwrite fits]

/-- Back at the position before, the bytes are behind the cursor. -/
theorem Wrote.behind
    {before after : BtlByteStream}
    {source : List UInt8}
    (starts : before.dwCurPos.toNat ≤ before.pBuf.length)
    (wrote : Wrote before after source) :
    (after.setCurPos before.dwCurPos).1.behind =
      source ++ before.behind.drop source.length := by
  change after.pBuf.drop before.dwCurPos.toNat = _
  rw [wrote.pBuf, Buffer.drop_overwrite starts, BtlByteStream.behind,
    List.drop_drop]

theorem Passed.trans
    {before middle after : BtlByteStream}
    {first second : Nat}
    (passedFirst : Passed before middle first)
    (passedSecond : Passed middle after second) :
    Passed before after (first + second) where
  pBuf := passedSecond.pBuf.trans passedFirst.pBuf
  dwCurPos := by
    rw [passedSecond.dwCurPos, passedFirst.dwCurPos, Nat.add_assoc]
  bNetOrder := passedSecond.bNetOrder.trans passedFirst.bNetOrder

namespace BtlByteStream

variable (stream : BtlByteStream)

/-- A position in a buffer is no larger than a `DWORD`. -/
theorem toNat_dwCurPos_add
    {count : UInt32}
    (fits : stream.dwCurPos.toNat + count.toNat ≤ stream.pBuf.length) :
    (stream.dwCurPos + count).toNat =
      stream.dwCurPos.toNat + count.toNat := by
  have small := stream.small
  rw [UInt32.toNat_add]
  omega

/-- A copy inside the buffer, after which the cursor moves. -/
theorem poke_advance
    {source : List UInt8}
    (count : UInt32)
    (fits : stream.dwCurPos.toNat + source.length ≤ stream.pBuf.length) :
    ∃ after, (stream.poke source).map (advance · count) = some after ∧
      after.pBuf =
        Buffer.overwrite stream.pBuf stream.dwCurPos.toNat source ∧
      after.dwCurPos = stream.dwCurPos + count ∧
      after.bNetOrder = stream.bNetOrder := by
  rw [poke, dif_pos fits, Option.map_some]
  exact ⟨_, rfl, rfl, rfl, rfl⟩

/-- A copy after which the cursor moves over what was copied. -/
theorem poke_fits
    {source : List UInt8}
    {count : UInt32}
    (whole : source.length = count.toNat)
    (fits : stream.dwCurPos.toNat + source.length ≤ stream.pBuf.length) :
    ∃ after, (stream.poke source).map (advance · count) = some after ∧
      Wrote stream after source := by
  obtain ⟨after, poked, pBufEq, cursor, order⟩ := stream.poke_advance count fits
  refine ⟨after, poked, pBufEq, ?_, order⟩
  rw [cursor, stream.toNat_dwCurPos_add (by omega), whole]

/-- A step over bytes that are there. -/
theorem passed_advance
    {count : UInt32}
    (fits : stream.dwCurPos.toNat + count.toNat ≤ stream.pBuf.length) :
    Passed stream (stream.advance count) count.toNat :=
  ⟨rfl, stream.toNat_dwCurPos_add fits, rfl⟩

theorem peek_fits
    {count : Nat}
    (fits : stream.dwCurPos.toNat + count ≤ stream.pBuf.length) :
    stream.peek count = some (stream.behind.take count) := by
  rw [peek, if_pos fits, behind]

/-- A block that fits is copied to the cursor. -/
theorem writeBytes_fits
    {data : List UInt8}
    {dwSize : UInt32}
    (whole : data.length = dwSize.toNat)
    (fits : stream.dwCurPos.toNat + data.length ≤ stream.pBuf.length) :
    ∃ after, stream.writeBytes (some data) dwSize = some after ∧
      Wrote stream after data := by
  simp only [writeBytes]
  by_cases none : dwSize = 0
  · have nothing : data = [] := by
      rw [none] at whole
      exact List.length_eq_zero_iff.mp whole
    rw [if_pos none]
    exact ⟨stream, rfl, by rw [nothing, Buffer.overwrite_nil],
      by rw [nothing]; rfl, rfl⟩
  · rw [if_neg none, if_neg (by omega), List.take_of_length_le whole.le]
    exact stream.poke_fits whole fits

/-- A block of the buffer is copied from the cursor. -/
theorem readBytes_fits
    {data : List UInt8}
    {dwSize : UInt32}
    (whole : data.length = dwSize.toNat)
    (fits : stream.dwCurPos.toNat + dwSize.toNat ≤ stream.pBuf.length) :
    ∃ after, stream.readBytes (some data) dwSize =
        some (after, some (stream.behind.take dwSize.toNat)) ∧
      Passed stream after dwSize.toNat := by
  simp only [readBytes]
  by_cases none : dwSize = 0
  · have nothing : data = [] := by
      rw [none] at whole
      exact List.length_eq_zero_iff.mp whole
    rw [if_pos none]
    refine ⟨stream, ?_, rfl, by rw [none]; rfl, rfl⟩
    rw [nothing, none]
    rfl
  · have length : (stream.behind.take dwSize.toNat).length = data.length := by
      rw [whole, List.length_take, behind, List.length_drop]
      omega
    rw [if_neg none, if_neg (by omega), stream.peek_fits fits, Option.map_some,
      Buffer.overwrite_full length]
    exact ⟨_, rfl, stream.passed_advance fits⟩

end BtlByteStream

/-! ## One item -/

namespace BtlByteStream

variable (stream : BtlByteStream)

theorem putByte_fits
    (ch : UInt8)
    (fits : stream.dwCurPos.toNat + 1 ≤ stream.pBuf.length) :
    ∃ after, stream.putByte ch = some after ∧ Wrote stream after [ch] :=
  stream.poke_fits rfl fits

theorem getByte_fits
    (fits : stream.dwCurPos.toNat + 1 ≤ stream.pBuf.length) :
    ∃ after, stream.getByte =
        some (after, byteCodec.decode (stream.behind.take 1)) ∧
      Passed stream after 1 := by
  rw [getByte, stream.peek_fits fits, Option.map_some]
  exact ⟨_, rfl, stream.passed_advance fits⟩

/-- The size of a word that fits is a `DWORD`. -/
theorem toNat_ofNat_size
    {size : Nat}
    (fits : stream.dwCurPos.toNat + size ≤ stream.pBuf.length) :
    (UInt32.ofNat size).toNat = size := by
  have small := stream.small
  have bound : size < 4294967296 := by omega
  exact UInt32.toNat_ofNat_of_lt' bound

section Words

variable {τ : Type} {size : Nat} {codec : Codec UInt8 τ size}
  {hton ntoh : τ → τ} (inverse : ∀ x, ntoh (hton x) = x)

/-- An operator writes the bytes of its argument, converted if need be. -/
theorem insertWord_fits
    (x : τ)
    (fits : stream.dwCurPos.toNat + size ≤ stream.pBuf.length) :
    ∃ after, stream.insertWord codec hton x = some after ∧
      Wrote stream after
        ((codec.throughIf stream.bNetOrder hton ntoh inverse).encode x) := by
  have sizeof := stream.toNat_ofNat_size fits
  apply stream.writeBytes_fits
  · rw [codec.length_encode, sizeof]
  · rw [codec.length_encode]
    exact fits

/-- An operator reads the bytes at the cursor, and converts them if need be. -/
theorem extractWord_fits
    (x : τ)
    (fits : stream.dwCurPos.toNat + size ≤ stream.pBuf.length) :
    ∃ after, stream.extractWord codec ntoh x =
        some (after, (codec.throughIf stream.bNetOrder hton ntoh inverse).decode
          (stream.behind.take size)) ∧
      Passed stream after size := by
  have sizeof := stream.toNat_ofNat_size fits
  have whole : (codec.encode x).length = (UInt32.ofNat size).toNat := by
    rw [codec.length_encode, sizeof]
  obtain ⟨after, read, passed⟩ := stream.readBytes_fits whole (by omega)
  rw [sizeof] at read passed
  refine ⟨after, ?_, passed⟩
  rw [extractWord, read]
  simp only [passed.bNetOrder]
  rfl

end Words

/-- An item that fits is written as its wire form. -/
theorem insert_fits
    (host : Host)
    (item : Item)
    (fits : stream.dwCurPos.toNat + item.1.size ≤ stream.pBuf.length) :
    ∃ after, stream.insert host item = some after ∧
      Wrote stream after ((wireCodec host stream.bNetOrder item.1).encode item.2) := by
  obtain ⟨type, value⟩ := item
  cases type with
  | unsignedChar => exact stream.putByte_fits value fits
  | char => exact stream.putByte_fits value.toUInt8 fits
  | short => exact stream.insertWord_fits host.ntohShort_htonShort value fits
  | unsignedShort => exact stream.insertWord_fits host.ntohs_htons value fits
  | int => exact stream.insertWord_fits host.ntohInt_htonInt value fits
  | unsignedInt => exact stream.insertWord_fits host.ntohl_htonl value fits
  | long => exact stream.insertWord_fits host.ntohInt_htonInt value fits
  | unsignedLong => exact stream.insertWord_fits host.ntohl_htonl value fits
  | unsignedInt64 => exact stream.insertWord_fits host.ntohll_htonll value fits
  | float => exact stream.insertWord_fits host.swapFloat_swapFloat value fits
  | double => exact stream.insertWord_fits host.swapDouble_swapDouble value fits
  | bytes dwSize =>
      apply stream.writeBytes_fits value.property
      rw [value.property]
      exact fits

/-- A read of a scalar, with the type it was read as. -/
theorem typed_read
    {type : ItemType}
    {count : Nat}
    {value : type.Value}
    {read : Option (BtlByteStream × type.Value)}
    (reads : ∃ after, read = some (after, value) ∧ Passed stream after count) :
    ∃ after, typed type read = some (after, ⟨type, value⟩) ∧
      Passed stream after count := by
  obtain ⟨after, rfl, passed⟩ := reads
  exact ⟨after, rfl, passed⟩

/-- An item of the type of the target is read at the cursor. -/
theorem extract_fits
    (host : Host)
    (target : Item)
    (fits : stream.dwCurPos.toNat + target.1.size ≤ stream.pBuf.length) :
    ∃ after, stream.extract host target =
        some (after, ⟨target.1, (wireCodec host stream.bNetOrder target.1).decode
          (stream.behind.take target.1.size)⟩) ∧
      Passed stream after target.1.size := by
  obtain ⟨type, value⟩ := target
  cases type with
  | unsignedChar => exact stream.typed_read (stream.getByte_fits fits)
  | char =>
      obtain ⟨after, read, passed⟩ := stream.getByte_fits fits
      refine stream.typed_read ⟨after, ?_, passed⟩
      rw [extractChar, read]
      rfl
  | short =>
      exact stream.typed_read
        (stream.extractWord_fits host.ntohShort_htonShort value fits)
  | unsignedShort =>
      exact stream.typed_read
        (stream.extractWord_fits host.ntohs_htons value fits)
  | int =>
      exact stream.typed_read
        (stream.extractWord_fits host.ntohInt_htonInt value fits)
  | unsignedInt =>
      exact stream.typed_read
        (stream.extractWord_fits host.ntohl_htonl value fits)
  | long =>
      exact stream.typed_read
        (stream.extractWord_fits host.ntohInt_htonInt value fits)
  | unsignedLong =>
      exact stream.typed_read
        (stream.extractWord_fits host.ntohl_htonl value fits)
  | unsignedInt64 =>
      exact stream.typed_read
        (stream.extractWord_fits host.ntohll_htonll value fits)
  | float =>
      exact stream.typed_read
        (stream.extractWord_fits host.swapFloat_swapFloat value fits)
  | double =>
      exact stream.typed_read
        (stream.extractWord_fits host.swapDouble_swapDouble value fits)
  | bytes dwSize =>
      obtain ⟨after, read, passed⟩ := stream.readBytes_fits value.property fits
      have whole : (stream.behind.take dwSize.toNat).length = dwSize.toNat := by
        rw [List.length_take, behind, List.length_drop]
        have inside : stream.dwCurPos.toNat + dwSize.toNat ≤
          stream.pBuf.length := fits
        omega
      refine ⟨after, ?_, passed⟩
      simp only [extract, read, dif_pos whole, wireCodec, blockCodec]

/-! ## Sequences of items -/

/-- What is behind the cursor after a step over some bytes. -/
theorem behind_of_passed
    {after : BtlByteStream}
    {count : Nat}
    (passed : Passed stream after count) :
    after.behind = stream.behind.drop count := by
  rw [behind, behind, passed.pBuf, passed.dwCurPos, List.drop_drop]

/-- The number of bytes that items of given types take up. -/
def itemsSize (items : List Item) : Nat :=
  totalSize ItemType.size (items.map Sigma.fst)

/-- Items that fit are written as the layout of their wire forms. -/
theorem insertAll_fits
    (host : Host)
    (items : List Item)
    (fits : stream.dwCurPos.toNat + itemsSize items ≤ stream.pBuf.length) :
    ∃ after, insertAll host stream items = some after ∧
      Wrote stream after (encodeAll (wireCodec host stream.bNetOrder) items) := by
  induction items generalizing stream with
  | nil =>
      refine ⟨stream, rfl, ?_, rfl, rfl⟩
      rw [encodeAll, Buffer.overwrite_nil]
  | cons item items inductionHypothesis =>
      rw [itemsSize, List.map_cons, totalSize] at fits
      have width := (wireCodec host stream.bNetOrder item.1).length_encode item.2
      obtain ⟨middle, inserted, wrote⟩ :=
        stream.insert_fits host item (by omega)
      have sameLength := wrote.length_pBuf (by omega)
      obtain ⟨after, insertedAll, wroteAll⟩ :=
        inductionHypothesis middle (by
          rw [wrote.dwCurPos, width, sameLength, itemsSize]
          omega)
      rw [wrote.bNetOrder] at wroteAll
      refine ⟨after, ?_, wrote.trans (by omega) wroteAll⟩
      rw [insertAll, inserted]
      exact insertedAll

/-- Items of the types of the targets are read one behind the other. -/
theorem extractAll_fits
    (host : Host)
    (targets : List Item)
    (fits : stream.dwCurPos.toNat + itemsSize targets ≤ stream.pBuf.length) :
    ∃ after, extractAll host stream targets =
        some (after, decodeAll (wireCodec host stream.bNetOrder)
          (targets.map Sigma.fst) stream.behind) ∧
      Passed stream after (itemsSize targets) := by
  induction targets generalizing stream with
  | nil => exact ⟨stream, rfl, rfl, rfl, rfl⟩
  | cons target targets inductionHypothesis =>
      rw [itemsSize, List.map_cons, totalSize] at fits
      obtain ⟨middle, extracted, passed⟩ :=
        stream.extract_fits host target (by omega)
      obtain ⟨after, extractedAll, passedAll⟩ :=
        inductionHypothesis middle (by
          rw [passed.dwCurPos, passed.pBuf, itemsSize]
          omega)
      refine ⟨after, ?_, passed.trans passedAll⟩
      rw [extractAll, extracted]
      simp only [extractedAll, Option.map_some, List.map_cons, decodeAll,
        passed.bNetOrder, stream.behind_of_passed passed]

/-- Items written from a position on and read from there in the same order, into
targets of their types, come back. The cursor ends where it ended after writing,
and no byte outside the written range changes. -/
theorem items_roundTrip
    (host : Host)
    (dwPos : UInt32)
    (items targets : List Item)
    (sameTypes : targets.map Sigma.fst = items.map Sigma.fst)
    (fits : dwPos.toNat + itemsSize items ≤ stream.pBuf.length) :
    ∃ written, insertAll host (stream.setCurPos dwPos).1 items = some written ∧
      extractAll host (written.setCurPos dwPos).1 targets =
        some (written, items) ∧
      written.dwCurPos.toNat = dwPos.toNat + itemsSize items ∧
      written.pBuf.length = stream.pBuf.length ∧
      ∀ index, index < dwPos.toNat ∨ dwPos.toNat + itemsSize items ≤ index →
        written.pBuf[index]? = stream.pBuf[index]? := by
  have width : (encodeAll (wireCodec host stream.bNetOrder) items).length =
      itemsSize items := length_encodeAll _ items
  obtain ⟨written, inserted, wrote⟩ :=
    (stream.setCurPos dwPos).1.insertAll_fits host items fits
  have inside : dwPos.toNat +
      (encodeAll (wireCodec host stream.bNetOrder) items).length ≤
        stream.pBuf.length := by
    rw [width]
    exact fits
  have starts : dwPos.toNat ≤ stream.pBuf.length := by omega
  have sameLength := wrote.length_pBuf inside
  have cursor := wrote.dwCurPos
  have sameSize : itemsSize targets = itemsSize items := by
    rw [itemsSize, sameTypes, itemsSize]
  obtain ⟨after, extracted, passed⟩ :=
    (written.setCurPos dwPos).1.extractAll_fits host targets (by
      rw [sameSize]
      exact sameLength ▸ fits)
  have readBack : decodeAll (wireCodec host written.bNetOrder)
      (targets.map Sigma.fst) (written.setCurPos dwPos).1.behind = items := by
    rw [wrote.bNetOrder, sameTypes]
    exact (congrArg _ (wrote.behind starts)).trans
      (decodeAll_encodeAll _ items _)
  have position : after.dwCurPos = written.dwCurPos := by
    apply UInt32.toNat_inj.mp
    rw [passed.dwCurPos, cursor, sameSize]
    exact congrArg _ width.symm
  have sameStream : after = written :=
    BtlByteStream.ext passed.pBuf position passed.bNetOrder
  refine ⟨written, inserted, ?_, ?_, sameLength, ?_⟩
  · rw [extracted, ← sameStream]
    exact congrArg (fun read => some (after, read)) (sameStream ▸ readBack)
  · rw [← width]
    exact cursor
  · intro index outside
    rw [← width] at outside
    rw [wrote.pBuf]
    exact Buffer.getElem?_overwrite_of_outside starts outside

/-- A little-endian host with neither macro. -/
def windowsHost : Host :=
  ⟨true, false, false⟩

/-- A message with a negative `short`, a double word, a block and a `double`. -/
def mixedMessage : List Item :=
  [⟨.short, -2⟩, ⟨.unsignedInt64, 0x0102030405060708⟩,
    ⟨.bytes 3, ⟨[7, 8, 9], rfl⟩⟩, ⟨.double, 0x400921FB54442D18⟩]

/-- Variables for the items of that message. -/
def mixedTargets : List Item :=
  [⟨.short, 0⟩, ⟨.unsignedInt64, 0⟩, ⟨.bytes 3, ⟨[0, 0, 0], rfl⟩⟩,
    ⟨.double, 0⟩]

/-- The message survives in a buffer of 32 bytes, from the fourth on. -/
theorem items_roundTrip_mixedMessage :
    ∃ written,
      insertAll windowsHost ((construct 32 true).setCurPos 4).1 mixedMessage =
        some written ∧
      extractAll windowsHost (written.setCurPos 4).1 mixedTargets =
        some (written, mixedMessage) := by
  obtain ⟨written, inserted, extracted, -⟩ :=
    items_roundTrip (construct 32 true) windowsHost 4 mixedMessage mixedTargets
      rfl (by decide)
  exact ⟨written, inserted, extracted⟩

end BtlByteStream

end TransPortEngine
