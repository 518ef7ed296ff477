import TransPortEngine.BtlByteStream.RoundTrip

/-!
# Strings in a byte stream

`WriteString` passes `strcpy_s` the length of the string without its terminator,
so that the copy always fails and leaves an empty string, while the cursor moves
as if all had been copied. The second overload of `ReadString` reads two strings
to evaluate its arguments. A list of strings comes back exactly if all of them are
empty and none is read by that overload.
-/

namespace TransPortEngine

open Layout

/-- A string in memory, without its terminator. -/
structure CString where
  chars : List UInt8
  nulFree : 0 ∉ chars

namespace CString

/-- The empty string. -/
def empty : CString :=
  ⟨[], List.not_mem_nil⟩

/-- The string that starts at the first of some bytes in memory; none without a
terminator. -/
def ofBytes (bytes : List UInt8) : Option CString :=
  if 0 ∈ bytes then
    some ⟨bytes.takeWhile (· ≠ 0), fun member => by
      simpa using List.all_eq_true.mp List.all_takeWhile 0 member⟩
  else none

/-- The text of an argument, a `NULL` pointer counting as the empty string. -/
def text : Option CString → List UInt8
  | none => []
  | some pStr => pStr.chars

/-- The room a string takes up with its terminator. -/
def room (pStr : Option CString) : Nat :=
  (text pStr).length + 1

end CString

/-- What `strcpy_s` leaves at its destination: the string and its terminator if
the given size exceeds the length of the string, and otherwise an empty
string. -/
def strcpyS (size : Nat) (src : CString) : List UInt8 :=
  if src.chars.length < size then src.chars ++ [0] else [0]

/-- The order in which the two reads in the arguments of `strcpy_s` are
evaluated, which the language leaves open. -/
inductive ArgumentOrder
  | sizeFirst
  | sourceFirst
  deriving DecidableEq, Repr

/-- A call of one of the overloads of `ReadString`; the second has a destination
in memory. -/
inductive StringRead
  | pointer
  | copy (order : ArgumentOrder) (pStr : List UInt8)
  deriving DecidableEq, Repr

namespace BtlByteStream

/-- `LPCSTR ReadString()`, with the string at the pointer it returns. -/
def readString (stream : BtlByteStream) : Option (BtlByteStream × CString) :=
  (CString.ofBytes stream.behind).map fun pStr =>
    (stream.advance (UInt32.ofNat pStr.chars.length + 1), pStr)

/-- `void ReadString(LPSTR)`: the stream, and the memory of the destination. -/
def readStringTo
    (stream : BtlByteStream)
    (order : ArgumentOrder)
    (pStr : List UInt8) : Option (BtlByteStream × List UInt8) :=
  match stream.readString with
  | none => none
  | some (stream, first) =>
      match stream.readString with
      | none => none
      | some (stream, second) =>
          let source :=
            match order with
            | .sizeFirst => strcpyS first.chars.length second
            | .sourceFirst => strcpyS second.chars.length first
          if source.length ≤ pStr.length then
            some (stream, Buffer.overwrite pStr 0 source)
          else none

/-- `WriteString`. -/
def writeString (stream : BtlByteStream) : Option CString → Option BtlByteStream
  | some pStr =>
      (stream.poke (strcpyS pStr.chars.length pStr)).map
        (advance · (UInt32.ofNat pStr.chars.length + 1))
  | none => (stream.poke [0]).map (advance · 1)

/-- Read a string with one of the overloads: the stream, and the text. -/
def readAs
    (stream : BtlByteStream) : StringRead → Option (BtlByteStream × List UInt8)
  | .pointer => stream.readString.map fun read => (read.1, read.2.chars)
  | .copy order pStr =>
      match stream.readStringTo order pStr with
      | none => none
      | some (stream, memory) =>
          (CString.ofBytes memory).map fun copied => (stream, copied.chars)

/-- Write strings one after another. -/
def writeStrings : BtlByteStream → List (Option CString) → Option BtlByteStream
  | stream, [] => some stream
  | stream, pStr :: strings =>
      match stream.writeString pStr with
      | none => none
      | some stream => writeStrings stream strings

/-- Each read gives the text of its string, and moves the cursor by the room of
the string. -/
def ReadsBack : BtlByteStream → List (Option CString) → List StringRead → Prop
  | _, [], [] => True
  | stream, pStr :: strings, read :: reads =>
      ∃ after, stream.readAs read = some (after, CString.text pStr) ∧
        after.dwCurPos.toNat = stream.dwCurPos.toNat + CString.room pStr ∧
        ReadsBack after strings reads
  | _, _, _ => False

/-- Strings written from a position on can be read back from there. -/
def RoundTrips
    (stream : BtlByteStream)
    (dwPos : UInt32)
    (strings : List (Option CString))
    (reads : List StringRead) : Prop :=
  ∃ written, writeStrings (stream.setCurPos dwPos).1 strings = some written ∧
    ReadsBack (written.setCurPos dwPos).1 strings reads

end BtlByteStream

/-! ## What is in the buffer -/

/-- Without room for the terminator `strcpy_s` leaves an empty string. -/
theorem strcpyS_of_le
    {size : Nat}
    {src : CString}
    (noRoom : size ≤ src.chars.length) :
    strcpyS size src = [0] := by
  rw [strcpyS, if_neg (not_lt.mpr noRoom)]

/-- An empty string is left as it is, whatever the size. -/
theorem strcpyS_empty (size : Nat) : strcpyS size .empty = [0] := by
  unfold strcpyS
  split <;> rfl

/-- A zero byte is an empty string. -/
theorem CString.ofBytes_zero (bytes : List UInt8) :
    ofBytes (0 :: bytes) = some .empty := by
  simp [ofBytes, empty]

/-- A string in memory is followed by its terminator. -/
theorem CString.length_lt_of_ofBytes
    {bytes : List UInt8}
    {pStr : CString}
    (found : ofBytes bytes = some pStr) :
    pStr.chars.length < bytes.length := by
  unfold ofBytes at found
  split at found
  · rename_i terminated
    have start : pStr.chars <+: bytes := by
      rw [← Option.some.inj found]
      exact List.takeWhile_prefix _
    refine lt_of_le_of_ne start.length_le fun all => pStr.nulFree ?_
    rwa [start.eq_of_length all]
  · contradiction

/-- A zero byte stands at the place of every string. -/
def ZeroAtStarts (pBuf : List UInt8) : Nat → List (Option CString) → Prop
  | _, [] => True
  | position, pStr :: strings =>
      pBuf[position]? = some 0 ∧
        ZeroAtStarts pBuf (position + CString.room pStr) strings

/-- The room that strings take up with their terminators. -/
def stringsSize (strings : List (Option CString)) : Nat :=
  totalSize CString.room strings

namespace BtlByteStream

variable (stream : BtlByteStream)

/-- The room of a string that fits is a `DWORD`. -/
theorem toNat_room
    {pStr : CString}
    (fits : stream.dwCurPos.toNat + CString.room (some pStr) ≤
      stream.pBuf.length) :
    (UInt32.ofNat pStr.chars.length + 1).toNat = CString.room (some pStr) := by
  have small := stream.small
  simp only [CString.room, CString.text] at fits ⊢
  rw [UInt32.toNat_add, UInt32.toNat_ofNat', UInt32.toNat_one]
  omega

/-- A string that fits is written as a single zero byte, and the cursor moves
over its room. -/
theorem writeString_fits
    (pStr : Option CString)
    (fits : stream.dwCurPos.toNat + CString.room pStr ≤ stream.pBuf.length) :
    ∃ after, stream.writeString pStr = some after ∧
      after.pBuf =
        Buffer.overwrite stream.pBuf stream.dwCurPos.toNat [0] ∧
      after.dwCurPos.toNat = stream.dwCurPos.toNat + CString.room pStr := by
  have inside : stream.dwCurPos.toNat + [(0 : UInt8)].length ≤
      stream.pBuf.length := by
    rw [CString.room] at fits
    rw [List.length_singleton]
    omega
  cases pStr with
  | none =>
      obtain ⟨after, poked, pBufEq, cursor, -⟩ := stream.poke_advance 1 inside
      refine ⟨after, poked, pBufEq, ?_⟩
      rw [cursor]
      exact stream.toNat_dwCurPos_add fits
  | some pStr =>
      have sizeof := stream.toNat_room fits
      obtain ⟨after, poked, pBufEq, cursor, -⟩ :=
        stream.poke_advance (UInt32.ofNat pStr.chars.length + 1) inside
      refine ⟨after, ?_, pBufEq, ?_⟩
      · rw [writeString, strcpyS_of_le le_rfl]
        exact poked
      · rw [cursor, stream.toNat_dwCurPos_add (sizeof ▸ fits), sizeof]

/-- Strings that fit are written as zero bytes at their places; nothing before
the first place changes. -/
theorem writeStrings_fits
    (strings : List (Option CString))
    (fits : stream.dwCurPos.toNat + stringsSize strings ≤
      stream.pBuf.length) :
    ∃ written, writeStrings stream strings = some written ∧
      written.pBuf.length = stream.pBuf.length ∧
      (∀ index < stream.dwCurPos.toNat,
        written.pBuf[index]? = stream.pBuf[index]?) ∧
      ZeroAtStarts written.pBuf stream.dwCurPos.toNat strings := by
  induction strings generalizing stream with
  | nil => exact ⟨stream, rfl, rfl, fun _ _ => rfl, trivial⟩
  | cons pStr strings inductionHypothesis =>
      rw [stringsSize, totalSize] at fits
      have inside : stream.dwCurPos.toNat + [(0 : UInt8)].length ≤
          stream.pBuf.length := by
        rw [List.length_singleton]
        simp only [CString.room] at fits
        omega
      obtain ⟨middle, wrote, pBufEq, cursor⟩ :=
        stream.writeString_fits pStr (by omega)
      have sameLength : middle.pBuf.length = stream.pBuf.length := by
        rw [pBufEq, Buffer.length_overwrite inside]
      obtain ⟨written, wroteAll, length, before, zeros⟩ :=
        inductionHypothesis middle (by
          rw [cursor, sameLength, stringsSize]
          omega)
      have later : stream.dwCurPos.toNat < middle.dwCurPos.toNat := by
        rw [cursor, CString.room]
        omega
      refine ⟨written, ?_, length.trans sameLength, ?_, ?_, cursor ▸ zeros⟩
      · rw [writeStrings, wrote]
        exact wroteAll
      · intro index below
        rw [before index (by omega), pBufEq]
        exact Buffer.getElem?_overwrite_of_outside (by omega) (Or.inl below)
      · rw [before _ later, pBufEq]
        exact Buffer.getElem?_overwrite_singleton (by omega) 0

/-! ## Reading -/

/-- At a zero byte there is an empty string. -/
theorem readString_of_zero
    {stream : BtlByteStream}
    (zero : stream.pBuf[stream.dwCurPos.toNat]? = some 0) :
    stream.readString = some (stream.advance 1, .empty) := by
  have start : stream.behind[0]? = some 0 := by
    rw [behind, List.getElem?_drop]
    exact zero
  cases behindEq : stream.behind with
  | nil =>
      rw [behindEq] at start
      contradiction
  | cons byte bytes =>
      rw [behindEq, List.getElem?_cons_zero, Option.some.injEq] at start
      rw [readString, behindEq, start, CString.ofBytes_zero]
      rfl

/-- A read moves the cursor over the string and its terminator. -/
theorem passed_readString
    {stream after : BtlByteStream}
    {pStr : CString}
    (read : stream.readString = some (after, pStr)) :
    Passed stream after (CString.room (some pStr)) := by
  obtain ⟨found, ofBytes, result⟩ := Option.map_eq_some_iff.mp read
  obtain ⟨rfl, rfl⟩ := Prod.mk.inj result
  have terminated := CString.length_lt_of_ofBytes ofBytes
  rw [behind, List.length_drop] at terminated
  have fits : stream.dwCurPos.toNat + CString.room (some found) ≤
      stream.pBuf.length := by
    simp only [CString.room, CString.text]
    omega
  have sizeof := stream.toNat_room fits
  exact sizeof ▸ stream.passed_advance (sizeof ▸ fits)

/-- At a zero byte the second overload copies an empty string, in either order,
and moves the cursor over the string behind as well. -/
theorem readStringTo_of_zero
    {stream after : BtlByteStream}
    {order : ArgumentOrder}
    {pStr memory : List UInt8}
    (zero : stream.pBuf[stream.dwCurPos.toNat]? = some 0)
    (read : stream.readStringTo order pStr = some (after, memory)) :
    memory = Buffer.overwrite pStr 0 [0] ∧
      ∃ second, (stream.advance 1).readString = some (after, second) := by
  simp only [readStringTo, readString_of_zero zero] at read
  split at read
  · contradiction
  · rename_i last second secondEq
    have source : (match order with
        | .sizeFirst => strcpyS CString.empty.chars.length second
        | .sourceFirst => strcpyS second.chars.length .empty) = [0] := by
      cases order with
      | sizeFirst => exact strcpyS_of_le (Nat.zero_le _)
      | sourceFirst => exact strcpyS_empty _
    rw [source] at read
    split at read
    · obtain ⟨rfl, rfl⟩ := Prod.mk.inj (Option.some.inj read)
      exact ⟨rfl, second, secondEq⟩
    · contradiction

/-- At a zero byte either overload gives an empty string, but only the first
moves the cursor by one. -/
theorem readAs_of_zero
    {stream after : BtlByteStream}
    {read : StringRead}
    {chars : List UInt8}
    (inside : stream.dwCurPos.toNat + 1 ≤ stream.pBuf.length)
    (zero : stream.pBuf[stream.dwCurPos.toNat]? = some 0)
    (readEq : stream.readAs read = some (after, chars)) :
    chars = [] ∧ after.pBuf = stream.pBuf ∧
      (read = .pointer ∨
        stream.dwCurPos.toNat + 2 ≤ after.dwCurPos.toNat) := by
  cases read with
  | pointer =>
      rw [readAs, readString_of_zero zero] at readEq
      obtain ⟨rfl, rfl⟩ := Prod.mk.inj (Option.some.inj readEq)
      exact ⟨rfl, rfl, Or.inl rfl⟩
  | copy order pStr =>
      rw [readAs] at readEq
      split at readEq
      · contradiction
      · rename_i last memory readTo
        obtain ⟨copied, second, secondEq⟩ := readStringTo_of_zero zero readTo
        have passed := passed_readString secondEq
        have cursor : (stream.advance 1).dwCurPos.toNat =
            stream.dwCurPos.toNat + 1 := stream.toNat_dwCurPos_add inside
        have overwritten : memory = 0 :: pStr.drop 1 := by
          rw [copied]
          rfl
        rw [overwritten, CString.ofBytes_zero] at readEq
        obtain ⟨rfl, rfl⟩ := Prod.mk.inj (Option.some.inj readEq)
        refine ⟨rfl, passed.pBuf, Or.inr ?_⟩
        rw [passed.dwCurPos, cursor, CString.room]
        omega

/-- Where zero bytes stand at the places of strings, reading gives them back
exactly if they are empty and read with the first overload. -/
theorem readsBack_iff
    (strings : List (Option CString))
    (reads : List StringRead)
    (sameLength : reads.length = strings.length)
    (fits : stream.dwCurPos.toNat + stringsSize strings ≤ stream.pBuf.length)
    (zeros : ZeroAtStarts stream.pBuf stream.dwCurPos.toNat strings) :
    ReadsBack stream strings reads ↔
      (∀ pStr ∈ strings, CString.text pStr = []) ∧
        ∀ read ∈ reads, read = .pointer := by
  induction strings generalizing stream reads with
  | nil =>
      have none : reads = [] := List.length_eq_zero_iff.mp sameLength
      simp [none, ReadsBack]
  | cons pStr strings inductionHypothesis =>
      cases reads with
      | nil => simp at sameLength
      | cons read reads =>
          obtain ⟨zero, laterZeros⟩ := zeros
          rw [stringsSize, totalSize, CString.room] at fits
          have inside : stream.dwCurPos.toNat + 1 ≤ stream.pBuf.length := by
            omega
          have laterLength : reads.length = strings.length := by
            simpa using sameLength
          have rest : ∀ after : BtlByteStream, after.pBuf = stream.pBuf →
              after.dwCurPos.toNat =
                stream.dwCurPos.toNat + CString.room pStr →
              (ReadsBack after strings reads ↔
                (∀ pStr ∈ strings, CString.text pStr = []) ∧
                  ∀ read ∈ reads, read = .pointer) := by
            intro after sameBuf cursor
            refine inductionHypothesis after reads laterLength ?_ ?_
            · rw [cursor, sameBuf, CString.room, stringsSize]
              omega
            · rw [cursor, sameBuf]
              exact laterZeros
          rw [List.forall_mem_cons, List.forall_mem_cons]
          constructor
          · rintro ⟨after, readEq, cursor, later⟩
            obtain ⟨empty, sameBuf, overload⟩ :=
              readAs_of_zero inside zero readEq
            obtain ⟨strings, reads⟩ := (rest after sameBuf cursor).mp later
            rw [CString.room, empty, List.length_nil] at cursor
            refine ⟨⟨empty, strings⟩, ?_, reads⟩
            rcases overload with pointer | two
            · exact pointer
            · omega
          · rintro ⟨⟨empty, strings⟩, rfl, reads⟩
            have cursor : (stream.advance 1).dwCurPos.toNat =
                stream.dwCurPos.toNat + CString.room pStr := by
              rw [CString.room, empty]
              exact stream.toNat_dwCurPos_add inside
            refine ⟨stream.advance 1, ?_, cursor,
              (rest (stream.advance 1) rfl cursor).mpr ⟨strings, reads⟩⟩
            rw [readAs, readString_of_zero zero, empty]
            rfl

/-- Strings that fit the buffer come back, each read moving the cursor by the
room of its string, exactly if all of them are empty and every one is read with
the overload that returns a pointer. -/
theorem strings_roundTrip_iff
    (dwPos : UInt32)
    (strings : List (Option CString))
    (reads : List StringRead)
    (sameLength : reads.length = strings.length)
    (fits : dwPos.toNat + stringsSize strings ≤ stream.pBuf.length) :
    stream.RoundTrips dwPos strings reads ↔
      (∀ pStr ∈ strings, CString.text pStr = []) ∧
        ∀ read ∈ reads, read = .pointer := by
  obtain ⟨written, wrote, length, -, zeros⟩ :=
    (stream.setCurPos dwPos).1.writeStrings_fits strings fits
  have reading := (written.setCurPos dwPos).1.readsBack_iff strings reads
    sameLength (length ▸ fits) zeros
  rw [← reading]
  constructor
  · rintro ⟨other, wroteOther, back⟩
    rw [wrote, Option.some.injEq] at wroteOther
    exact wroteOther ▸ back
  · exact fun back => ⟨written, wrote, back⟩

/-- Two empty strings, one of them given as `NULL`, come back. -/
theorem strings_roundTrip_iff_empty :
    (construct 16 true).RoundTrips 3 [some .empty, none]
      [.pointer, .pointer] :=
  (strings_roundTrip_iff _ 3 [some .empty, none] [.pointer, .pointer] rfl
    (by decide)).mpr ⟨by simp [CString.text, CString.empty], by simp⟩

/-- The letter A. -/
def stringA : CString :=
  ⟨[65], by decide⟩

/-- Written to a buffer of 16 zero bytes and read with the first overload, the
letter A comes back as an empty string. -/
theorem stringA_lost :
    ((writeStrings ((construct 16 true).setCurPos 0).1 [some stringA]).bind
        fun written => (written.setCurPos 0).1.readAs .pointer).map Prod.snd =
      some [] ∧
      ¬∀ (stream : BtlByteStream) (dwPos : UInt32)
          (strings : List (Option CString)) (reads : List StringRead),
        reads.length = strings.length →
        dwPos.toNat + stringsSize strings ≤ stream.pBuf.length →
        stream.RoundTrips dwPos strings reads := by
  have lost : ((writeStrings ((construct 16 true).setCurPos 0).1
      [some stringA]).bind fun written =>
        (written.setCurPos 0).1.readAs .pointer).map Prod.snd = some [] := by
    decide
  refine ⟨lost, fun always => ?_⟩
  obtain ⟨written, wrote, after, read, -⟩ :=
    always (construct 16 true) 0 [some stringA] [.pointer] rfl (by decide)
  rw [wrote, Option.bind_some, read] at lost
  simp [CString.text, stringA] at lost

end BtlByteStream

end TransPortEngine
