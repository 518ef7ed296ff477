import TransPortEngine.BtlByteStream.Words
import TransPortEngine.Library.Buffer

/-!
# Byte streams

`CBtlByteStream` is a buffer with a cursor. Its operators write and read scalars
at the cursor, and two functions copy raw blocks. A function that would leave the
buffer has no result.
-/

namespace TransPortEngine

open Layout

/-- A stream. The size of a buffer is a `DWORD`, like a position in it. -/
@[ext] structure BtlByteStream where
  pBuf : List UInt8
  dwCurPos : UInt32
  bNetOrder : Bool
  small : pBuf.length < 4294967296

namespace BtlByteStream

/-- The constructor that allocates its buffer. -/
def construct (dwBufSize : UInt32) (bNetOrder : Bool) : BtlByteStream where
  pBuf := List.replicate dwBufSize.toNat 0
  dwCurPos := 0
  bNetOrder := bNetOrder
  small := by
    rw [List.length_replicate]
    exact dwBufSize.toNat_lt

/-- `SetCurPos`, which returns the position before. -/
def setCurPos
    (stream : BtlByteStream)
    (dwPos : UInt32) : BtlByteStream × UInt32 :=
  ({ stream with dwCurPos := dwPos }, stream.dwCurPos)

/-- Move the cursor. -/
def advance (stream : BtlByteStream) (count : UInt32) : BtlByteStream :=
  { stream with dwCurPos := stream.dwCurPos + count }

/-- Copy bytes to the cursor. -/
def poke
    (stream : BtlByteStream)
    (source : List UInt8) : Option BtlByteStream :=
  if fits : stream.dwCurPos.toNat + source.length ≤ stream.pBuf.length then
    some { stream with
      pBuf := Buffer.overwrite stream.pBuf stream.dwCurPos.toNat source
      small := by
        rw [Buffer.length_overwrite fits]
        exact stream.small }
  else none

/-- The bytes at the cursor. -/
def peek (stream : BtlByteStream) (count : Nat) : Option (List UInt8) :=
  if stream.dwCurPos.toNat + count ≤ stream.pBuf.length then
    some ((stream.pBuf.drop stream.dwCurPos.toNat).take count)
  else none

/-- `WriteBytes`. -/
def writeBytes
    (stream : BtlByteStream)
    (pData : Option (List UInt8))
    (dwSize : UInt32) : Option BtlByteStream :=
  match pData with
  | none => some stream
  | some data =>
      if dwSize = 0 then some stream
      else if data.length < dwSize.toNat then none
      else (stream.poke (data.take dwSize.toNat)).map (advance · dwSize)

/-- `ReadBytes`: the stream, and what is at `pData` afterwards. -/
def readBytes
    (stream : BtlByteStream)
    (pData : Option (List UInt8))
    (dwSize : UInt32) : Option (BtlByteStream × Option (List UInt8)) :=
  match pData with
  | none => some (stream, none)
  | some data =>
      if dwSize = 0 then some (stream, some data)
      else if data.length < dwSize.toNat then none
      else
        (stream.peek dwSize.toNat).map fun source =>
          (stream.advance dwSize, some (Buffer.overwrite data 0 source))

/-! ### One byte -/

/-- `m_pBuf[m_dwCurPos++] = ch`. -/
def putByte (stream : BtlByteStream) (ch : UInt8) : Option BtlByteStream :=
  (stream.poke [ch]).map (advance · 1)

/-- `m_pBuf[m_dwCurPos++]`. -/
def getByte (stream : BtlByteStream) : Option (BtlByteStream × UInt8) :=
  (stream.peek 1).map fun source => (stream.advance 1, source.getD 0 0)

/-- `operator << (unsigned char)`. -/
def insertUnsignedChar
    (stream : BtlByteStream)
    (ch : UInt8) : Option BtlByteStream :=
  stream.putByte ch

/-- `operator << (char)`. -/
def insertChar (stream : BtlByteStream) (ch : Int8) : Option BtlByteStream :=
  stream.putByte ch.toUInt8

/-- `operator >> (unsigned char&)`. -/
def extractUnsignedChar
    (stream : BtlByteStream) : Option (BtlByteStream × UInt8) :=
  stream.getByte

/-- `operator >> (char&)`. -/
def extractChar (stream : BtlByteStream) : Option (BtlByteStream × Int8) :=
  stream.getByte.map fun read => (read.1, read.2.toInt8)

/-! ### Several bytes

An operator converts a copy of its argument if the stream is in network order,
and writes the memory of the copy. Its counterpart reads into the memory of its
argument, whose value before is an argument here.
-/

section Words

variable {τ : Type} {size : Nat}

/-- Write a value that lies in memory as a codec says. -/
def insertWord
    (stream : BtlByteStream)
    (codec : Codec UInt8 τ size)
    (hton : τ → τ)
    (x : τ) : Option BtlByteStream :=
  let x := if stream.bNetOrder then hton x else x
  stream.writeBytes (some (codec.encode x)) (UInt32.ofNat size)

/-- Read a value that lies in memory as a codec says. -/
def extractWord
    (stream : BtlByteStream)
    (codec : Codec UInt8 τ size)
    (ntoh : τ → τ)
    (x : τ) : Option (BtlByteStream × τ) :=
  match stream.readBytes (some (codec.encode x)) (UInt32.ofNat size) with
  | some (stream, some bytes) =>
      let x := codec.decode bytes
      some (stream, if stream.bNetOrder then ntoh x else x)
  | _ => none

end Words

end BtlByteStream

namespace Host

variable (host : Host)

/-- The memory of a `short`. -/
def short : Codec UInt8 Int16 2 :=
  host.word16.through Int16.toUInt16 UInt16.toInt16 Int16.toInt16_toUInt16

/-- The memory of an `int`, and of a `long`. -/
def int : Codec UInt8 Int32 4 :=
  host.word32.through Int32.toUInt32 UInt32.toInt32 Int32.toInt32_toUInt32

/-- `htons` of a `short`. -/
def htonShort (s : Int16) : Int16 :=
  (host.htons s.toUInt16).toInt16

/-- `ntohs` of a `short`. -/
def ntohShort (s : Int16) : Int16 :=
  (host.ntohs s.toUInt16).toInt16

/-- `htonl` of an `int`. -/
def htonInt (i : Int32) : Int32 :=
  (host.htonl i.toUInt32).toInt32

/-- `ntohl` of an `int`. -/
def ntohInt (i : Int32) : Int32 :=
  (host.ntohl i.toUInt32).toInt32

end Host

namespace BtlByteStream

variable (host : Host) (stream : BtlByteStream)

/-- `operator << (short)`. -/
def insertShort (s : Int16) : Option BtlByteStream :=
  stream.insertWord host.short host.htonShort s

/-- `operator << (unsigned short)`. -/
def insertUnsignedShort (s : UInt16) : Option BtlByteStream :=
  stream.insertWord host.word16 host.htons s

/-- `operator << (int)`. -/
def insertInt (i : Int32) : Option BtlByteStream :=
  stream.insertWord host.int host.htonInt i

/-- `operator << (unsigned int)`. -/
def insertUnsignedInt (i : UInt32) : Option BtlByteStream :=
  stream.insertWord host.word32 host.htonl i

/-- `operator << (long)`. -/
def insertLong (l : Int32) : Option BtlByteStream :=
  stream.insertWord host.int host.htonInt l

/-- `operator << (unsigned long)`. -/
def insertUnsignedLong (l : UInt32) : Option BtlByteStream :=
  stream.insertWord host.word32 host.htonl l

/-- `operator << (unsigned __int64)`. -/
def insertUnsignedInt64 (ull : UInt64) : Option BtlByteStream :=
  stream.insertWord host.word64 host.htonll ull

/-- `operator << (float)`, for a bit pattern. -/
def insertFloat (f : UInt32) : Option BtlByteStream :=
  stream.insertWord host.word32 host.swapFloat f

/-- `operator << (double)`, for a bit pattern. -/
def insertDouble (d : UInt64) : Option BtlByteStream :=
  stream.insertWord host.word64 host.swapDouble d

/-- `operator >> (short&)`. -/
def extractShort (s : Int16) : Option (BtlByteStream × Int16) :=
  stream.extractWord host.short host.ntohShort s

/-- `operator >> (unsigned short&)`. -/
def extractUnsignedShort (s : UInt16) : Option (BtlByteStream × UInt16) :=
  stream.extractWord host.word16 host.ntohs s

/-- `operator >> (int&)`. -/
def extractInt (i : Int32) : Option (BtlByteStream × Int32) :=
  stream.extractWord host.int host.ntohInt i

/-- `operator >> (unsigned int&)`. -/
def extractUnsignedInt (i : UInt32) : Option (BtlByteStream × UInt32) :=
  stream.extractWord host.word32 host.ntohl i

/-- `operator >> (long&)`. -/
def extractLong (l : Int32) : Option (BtlByteStream × Int32) :=
  stream.extractWord host.int host.ntohInt l

/-- `operator >> (unsigned long&)`. -/
def extractUnsignedLong (l : UInt32) : Option (BtlByteStream × UInt32) :=
  stream.extractWord host.word32 host.ntohl l

/-- `operator >> (unsigned __int64&)`. -/
def extractUnsignedInt64 (ull : UInt64) : Option (BtlByteStream × UInt64) :=
  stream.extractWord host.word64 host.ntohll ull

/-- `operator >> (float&)`, for a bit pattern. -/
def extractFloat (f : UInt32) : Option (BtlByteStream × UInt32) :=
  stream.extractWord host.word32 host.swapFloat f

/-- `operator >> (double&)`, for a bit pattern. -/
def extractDouble (d : UInt64) : Option (BtlByteStream × UInt64) :=
  stream.extractWord host.word64 host.swapDouble d

end BtlByteStream

end TransPortEngine
