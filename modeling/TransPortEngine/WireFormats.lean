import TransPortEngine.HeadMsg
import TransPortEngine.Library.FramePlaces

/-!
# Streams of arbitrary frames

A peer may put any type and any length into a header. Two readings of such a
stream are of interest: the sender's, for which the announced bytes follow every
header, and the receivers', who expect a body only behind a type they know.
-/

namespace TransPortEngine

open Framing

/-- Number of body bytes the receivers expect behind a header. -/
def headBodyLen (headMsg : List UInt8) : Nat :=
  match headKind headMsg with
  | .unknown => 0
  | _ => headDataLen headMsg

/-- Frames as a sender builds them: any type, any salt, and as many bytes as the
header announces. -/
def anyFormat : Format UInt8 HeadKind where
  headLength := sizeofHeadMsg
  headLength_pos := sizeofHeadMsg_pos
  valid := fun _ => True
  parse := fun headMsg => (headKind headMsg, headDataLen headMsg)

/-- Frames as the receivers read any bytes at all: a header of an unknown type
has no body. -/
def readFormat : Format UInt8 HeadKind where
  headLength := sizeofHeadMsg
  headLength_pos := sizeofHeadMsg_pos
  valid := fun _ => True
  parse := fun headMsg => (headKind headMsg, headBodyLen headMsg)

@[simp] theorem anyFormat_headLength : anyFormat.headLength = sizeofHeadMsg := rfl

@[simp] theorem readFormat_headLength :
    readFormat.headLength = sizeofHeadMsg := rfl

theorem headBodyLen_of_known
    {headMsg : List UInt8}
    (known : headKind headMsg ≠ .unknown) :
    headBodyLen headMsg = headDataLen headMsg := by
  unfold headBodyLen
  split
  · rename_i unknown
    exact absurd unknown known
  · rfl

theorem headBodyLen_of_unknown
    {headMsg : List UInt8}
    (unknown : headKind headMsg = .unknown) :
    headBodyLen headMsg = 0 := by
  rw [headBodyLen, unknown]

/-- A format that reads a header as the receivers do. -/
structure ReadsHead (format : Format UInt8 HeadKind) (headMsg : List UInt8) :
    Prop where
  size : format.headLength = sizeofHeadMsg
  parsed : format.parse headMsg = (headKind headMsg, headBodyLen headMsg)

/-- The receivers read the header of a frame as its sender does. -/
theorem readsHead_of_understood
    {frame : Frame anyFormat}
    (understood : frame.kind = .unknown → frame.body = []) :
    ReadsHead anyFormat frame.head := by
  refine ⟨rfl, ?_⟩
  by_cases unknown : headKind frame.head = .unknown
  · have empty : headDataLen frame.head = 0 := by
      have size := frame.body_length
      rw [understood unknown] at size
      exact size.symm
    change (_, headDataLen frame.head) = _
    rw [headBodyLen_of_unknown unknown, empty]
  · rw [headBodyLen_of_known unknown]
    rfl

theorem readsHead_readFormat (headMsg : List UInt8) :
    ReadsHead readFormat headMsg :=
  ⟨rfl, rfl⟩

end TransPortEngine
