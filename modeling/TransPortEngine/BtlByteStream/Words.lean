import TransPortEngine.Library.BigEndian
import TransPortEngine.Library.Layout

/-!
# Words and byte orders

How the scalar types of `CBtlByteStream` lie in memory, and the conversions that
the stream applies to them: the socket functions for the network order, the
macros `ntohll` and `htonll`, and `Swap`. The order of bytes in memory is that of
any host.
-/

namespace TransPortEngine

open Layout

/-- The host the stream is compiled for: the order of bytes in its memory, and
the macros that `Swap` depends on. -/
structure Host where
  littleEndian : Bool
  sparc : Bool
  powerPc : Bool
  deriving DecidableEq, Repr

namespace Host

variable (host : Host)

/-- The bytes of a number in memory. -/
def bytes (width value : Nat) : List UInt8 :=
  if host.littleEndian then (BigEndian.encode width value).reverse
  else BigEndian.encode width value

/-- The number that bytes in memory stand for. -/
def value (bytes : List UInt8) : Nat :=
  BigEndian.decode (if host.littleEndian then bytes.reverse else bytes)

@[simp] theorem length_bytes (width value : Nat) :
    (host.bytes width value).length = width := by
  unfold bytes
  split <;> simp

theorem value_bytes
    (width : Nat)
    {value : Nat}
    (fits : value < 256 ^ width) :
    host.value (host.bytes width value) = value := by
  unfold Host.value bytes
  cases host.littleEndian <;> simp [BigEndian.decode_encode_of_lt fits]

theorem bytes_value
    {bytes : List UInt8}
    (width : Nat)
    (whole : bytes.length = width) :
    host.bytes width (host.value bytes) = bytes := by
  subst whole
  unfold Host.bytes value
  cases host.littleEndian with
  | false => exact BigEndian.encode_decode bytes
  | true =>
      have reversed := BigEndian.encode_decode bytes.reverse
      rw [List.length_reverse] at reversed
      simp [reversed]

theorem value_lt
    {bytes : List UInt8}
    (width : Nat)
    (whole : bytes.length = width) :
    host.value bytes < 256 ^ width := by
  subst whole
  unfold value
  cases host.littleEndian with
  | false => exact BigEndian.decode_lt bytes
  | true => simpa using BigEndian.decode_lt bytes.reverse

/-- Two bytes. -/
def word16 : Codec UInt8 UInt16 2 where
  encode x := host.bytes 2 x.toNat
  decode bytes := UInt16.ofNat (host.value bytes)
  length_encode x := host.length_bytes 2 x.toNat
  decode_encode x := by
    rw [host.value_bytes 2 x.toNat_lt, UInt16.ofNat_toNat]

/-- Four bytes. -/
def word32 : Codec UInt8 UInt32 4 where
  encode x := host.bytes 4 x.toNat
  decode bytes := UInt32.ofNat (host.value bytes)
  length_encode x := host.length_bytes 4 x.toNat
  decode_encode x := by
    rw [host.value_bytes 4 x.toNat_lt, UInt32.ofNat_toNat]

/-- Eight bytes. -/
def word64 : Codec UInt8 UInt64 8 where
  encode x := host.bytes 8 x.toNat
  decode bytes := UInt64.ofNat (host.value bytes)
  length_encode x := host.length_bytes 8 x.toNat
  decode_encode x := by
    rw [host.value_bytes 8 x.toNat_lt, UInt64.ofNat_toNat]

/-- `htons`: the word whose bytes in memory are in network order. -/
def htons (x : UInt16) : UInt16 :=
  host.word16.decode (BigEndian.encode 2 x.toNat)

/-- `ntohs`. -/
def ntohs (x : UInt16) : UInt16 :=
  UInt16.ofNat (BigEndian.decode (host.word16.encode x))

/-- `htonl`. -/
def htonl (x : UInt32) : UInt32 :=
  host.word32.decode (BigEndian.encode 4 x.toNat)

/-- `ntohl`. -/
def ntohl (x : UInt32) : UInt32 :=
  UInt32.ofNat (BigEndian.decode (host.word32.encode x))

/-- The macro `ntohll`. The halves are cut to an `int` before `ntohl`; the first
result becomes an `_int64`, the second an `unsigned int`. -/
def ntohll (x : UInt64) : UInt64 :=
  let low : Int32 := (x <<< 32 >>> 32).toInt64.toInt32
  let high : Int32 := (x >>> 32).toInt64.toInt32
  ((host.ntohl low.toUInt32).toUInt64.toInt64 <<< 32 |||
    (host.ntohl high.toUInt32).toUInt64.toInt64).toUInt64

/-- The macro `htonll`. -/
def htonll (x : UInt64) : UInt64 :=
  host.ntohll x

/-! ## The conversions cancel -/

theorem encode_decode_word16
    {bytes : List UInt8}
    (whole : bytes.length = 2) :
    host.word16.encode (host.word16.decode bytes) = bytes := by
  have small : host.value bytes < 2 ^ 16 := host.value_lt 2 whole
  simp only [word16]
  rw [UInt16.toNat_ofNat_of_lt' small, host.bytes_value 2 whole]

theorem encode_decode_word32
    {bytes : List UInt8}
    (whole : bytes.length = 4) :
    host.word32.encode (host.word32.decode bytes) = bytes := by
  have small : host.value bytes < 2 ^ 32 := host.value_lt 4 whole
  simp only [word32]
  rw [UInt32.toNat_ofNat_of_lt' small, host.bytes_value 4 whole]

theorem encode_decode_word64
    {bytes : List UInt8}
    (whole : bytes.length = 8) :
    host.word64.encode (host.word64.decode bytes) = bytes := by
  have small : host.value bytes < 2 ^ 64 := host.value_lt 8 whole
  simp only [word64]
  rw [UInt64.toNat_ofNat_of_lt' small, host.bytes_value 8 whole]

theorem ntohs_htons (x : UInt16) : host.ntohs (host.htons x) = x := by
  have wire := host.encode_decode_word16 (BigEndian.length_encode 2 x.toNat)
  rw [ntohs, htons, wire, BigEndian.decode_encode_of_lt x.toNat_lt,
    UInt16.ofNat_toNat]

theorem ntohl_htonl (x : UInt32) : host.ntohl (host.htonl x) = x := by
  have wire := host.encode_decode_word32 (BigEndian.length_encode 4 x.toNat)
  rw [ntohl, htonl, wire, BigEndian.decode_encode_of_lt x.toNat_lt,
    UInt32.ofNat_toNat]

/-- On either kind of host the two directions are the same permutation of the
bytes. -/
theorem ntohl_eq_htonl (x : UInt32) : host.ntohl x = host.htonl x := by
  simp only [ntohl, htonl, word32, bytes, value]

theorem ntohl_ntohl (x : UInt32) : host.ntohl (host.ntohl x) = x := by
  rw [host.ntohl_eq_htonl x, host.ntohl_htonl]

end Host

/-- The double word with given halves. -/
def joinWords (high low : UInt32) : UInt64 :=
  high.toUInt64 <<< 32 ||| low.toUInt64

theorem toNat_joinWords (high low : UInt32) :
    (joinWords high low).toNat = high.toNat * 4294967296 + low.toNat := by
  have highBound : high.toNat < 4294967296 := high.toNat_lt
  have lowBound : low.toNat < 2 ^ 32 := low.toNat_lt
  have shifted : (high.toUInt64 <<< 32).toNat = 2 ^ 32 * high.toNat := by
    simp [UInt64.toNat_shiftLeft, Nat.shiftLeft_eq]
    omega
  rw [joinWords, UInt64.toNat_or, shifted, UInt32.toNat_toUInt64,
    ← Nat.two_pow_add_eq_or_of_lt lowBound]
  omega

/-- The lower half of a double word. -/
theorem toUInt32_joinWords (high low : UInt32) :
    (joinWords high low).toUInt32 = low := by
  have lowBound : low.toNat < 4294967296 := low.toNat_lt
  apply UInt32.toNat_inj.mp
  rw [UInt64.toNat_toUInt32, toNat_joinWords]
  omega

/-- The upper half of a double word. -/
theorem toUInt32_joinWords_shiftRight (high low : UInt32) :
    (joinWords high low >>> 32).toUInt32 = high := by
  have highBound : high.toNat < 4294967296 := high.toNat_lt
  have lowBound : low.toNat < 4294967296 := low.toNat_lt
  apply UInt32.toNat_inj.mp
  simp [UInt64.toNat_shiftRight, toNat_joinWords, Nat.shiftRight_eq_div_pow]
  omega

/-- A double word is put together from its halves. -/
theorem joinWords_toUInt32 (x : UInt64) :
    joinWords (x >>> 32).toUInt32 x.toUInt32 = x := by
  have bound : x.toNat < 18446744073709551616 := x.toNat_lt
  apply UInt64.toNat_inj.mp
  rw [toNat_joinWords]
  simp [UInt64.toNat_shiftRight, Nat.shiftRight_eq_div_pow]
  omega

/-- The cast to `int` keeps the lower half. -/
theorem toUInt32_toInt32 (x : UInt64) :
    x.toInt64.toInt32.toUInt32 = x.toUInt32 := by
  apply UInt32.toBitVec_inj.mp
  change x.toBitVec.signExtend 32 = x.toBitVec.setWidth 32
  exact BitVec.signExtend_eq_setWidth_of_le x.toBitVec (by decide)

/-- The macro converts each half and exchanges the two. -/
theorem Host.ntohll_eq (host : Host) (x : UInt64) :
    host.ntohll x =
      joinWords (host.ntohl x.toUInt32) (host.ntohl (x >>> 32).toUInt32) := by
  have low : (x <<< 32 >>> 32).toUInt32 = x.toUInt32 := by
    apply UInt32.toNat_inj.mp
    simp [UInt64.toNat_shiftRight, UInt64.toNat_shiftLeft,
      Nat.shiftRight_eq_div_pow, Nat.shiftLeft_eq]
    omega
  have shift : ∀ word : UInt64,
      (word.toInt64 <<< 32).toUInt64 = word <<< 32 := fun word => rfl
  simp only [ntohll, joinWords, toUInt32_toInt32, low, Int64.toUInt64_or, shift,
    UInt64.toUInt64_toInt64]

/-- The macro undoes itself. -/
theorem Host.ntohll_ntohll (host : Host) (x : UInt64) :
    host.ntohll (host.ntohll x) = x := by
  rw [host.ntohll_eq (host.ntohll x), host.ntohll_eq x, toUInt32_joinWords,
    toUInt32_joinWords_shiftRight, host.ntohl_ntohl, host.ntohl_ntohl,
    joinWords_toUInt32]

/-- The loop of `Swap`, with `pHead` and `pTail` as offsets and their distance as
an argument. -/
def swapLoop (data : List UInt8) (pHead : Nat) : Nat → List UInt8
  | 0 => data
  | 1 => data
  | distance + 2 =>
      let pTail := pHead + (distance + 2)
      let byTmp := data.getD pHead 0
      let data := (data.set pHead (data.getD pTail 0)).set pTail byTmp
      swapLoop data (pHead + 1) distance

/-- The section of `Swap` under one of its macros. -/
def swapSection (data : List UInt8) (nSize : Int) : List UInt8 :=
  if nSize ≤ 0 then data else swapLoop data 0 (nSize - 1).toNat

/-- `Swap`, which does nothing on a host with neither macro. -/
def Host.swap (host : Host) (data : List UInt8) (nSize : Int) : List UInt8 :=
  let data := if host.sparc then swapSection data nSize else data
  if host.powerPc then swapSection data nSize else data

/-- The loop stops before the middle pair of a `float`. -/
theorem swapSection_float (a b c d : UInt8) :
    swapSection [a, b, c, d] 4 = [d, b, c, a] := rfl

/-- The loop stops before the middle pair of a `double`. -/
theorem swapSection_double (a b c d e f g h : UInt8) :
    swapSection [a, b, c, d, e, f, g, h] 8 = [h, g, f, d, e, c, b, a] := rfl

@[simp] theorem length_swapLoop
    (data : List UInt8)
    (pHead distance : Nat) :
    (swapLoop data pHead distance).length = data.length := by
  fun_induction swapLoop data pHead distance with
  | case1 => rfl
  | case2 => rfl
  | case3 data pHead distance pTail byTmp swapped inductionHypothesis =>
      rw [inductionHypothesis]
      simp [swapped]

@[simp] theorem length_swapSection (data : List UInt8) (nSize : Int) :
    (swapSection data nSize).length = data.length := by
  unfold swapSection
  split <;> simp

@[simp] theorem Host.length_swap
    (host : Host)
    (data : List UInt8)
    (nSize : Int) :
    (host.swap data nSize).length = data.length := by
  unfold swap
  cases host.sparc <;> cases host.powerPc <;> simp

/-- If a section undoes itself, so does `Swap`. -/
theorem Host.swap_swap_of
    (host : Host)
    {nSize : Int}
    {width : Nat}
    (undoes : ∀ data : List UInt8, data.length = width →
      swapSection (swapSection data nSize) nSize = data)
    {data : List UInt8}
    (whole : data.length = width) :
    host.swap (host.swap data nSize) nSize = data := by
  unfold swap
  cases host.sparc <;> cases host.powerPc <;> simp [undoes, whole]

theorem Host.swap_swap_float
    (host : Host)
    {data : List UInt8}
    (whole : data.length = 4) :
    host.swap (host.swap data 4) 4 = data := by
  refine host.swap_swap_of ?_ whole
  intro bytes width
  match bytes, width with
  | [a, b, c, d], _ => rw [swapSection_float, swapSection_float]

theorem Host.swap_swap_double
    (host : Host)
    {data : List UInt8}
    (whole : data.length = 8) :
    host.swap (host.swap data 8) 8 = data := by
  refine host.swap_swap_of ?_ whole
  intro bytes width
  match bytes, width with
  | [a, b, c, d, e, f, g, h], _ =>
      rw [swapSection_double, swapSection_double]

namespace Host

variable (host : Host)

/-- `Swap(&f, sizeof(float))`, on the bit pattern of `f`. -/
def swapFloat (f : UInt32) : UInt32 :=
  host.word32.decode (host.swap (host.word32.encode f) 4)

/-- `Swap(&d, sizeof(double))`, on the bit pattern of `d`. -/
def swapDouble (d : UInt64) : UInt64 :=
  host.word64.decode (host.swap (host.word64.encode d) 8)

theorem swapFloat_swapFloat (f : UInt32) :
    host.swapFloat (host.swapFloat f) = f := by
  have width := host.word32.length_encode f
  simp only [swapFloat]
  rw [host.encode_decode_word32 (by rw [length_swap, width]),
    host.swap_swap_float width, host.word32.decode_encode]

theorem swapDouble_swapDouble (d : UInt64) :
    host.swapDouble (host.swapDouble d) = d := by
  have width := host.word64.length_encode d
  simp only [swapDouble]
  rw [host.encode_decode_word64 (by rw [length_swap, width]),
    host.swap_swap_double width, host.word64.decode_encode]

end Host

end TransPortEngine
