/-!
# Overwriting ranges of a buffer

A buffer is the list of its elements. `overwrite` is the effect of a block
copy: the elements from an offset on are replaced and everything outside the
copied range is kept.
-/

namespace Buffer

/-- Replace the elements starting at `offset` by `source`. -/
def overwrite (buffer : List α) (offset : Nat) (source : List α) : List α :=
  buffer.take offset ++ source ++ buffer.drop (offset + source.length)

/-- Copying an empty block changes nothing. -/
@[simp] theorem overwrite_nil (buffer : List α) (offset : Nat) :
    overwrite buffer offset [] = buffer := by
  simp [overwrite]

/-- Two adjacent copies are one copy of the concatenation. -/
theorem overwrite_overwrite
    {buffer first second : List α}
    {offset : Nat}
    (starts : offset ≤ buffer.length) :
    overwrite (overwrite buffer offset first) (offset + first.length) second =
      overwrite buffer offset (first ++ second) := by
  have prefixLength : (buffer.take offset ++ first).length =
      offset + first.length := by
    simp only [List.length_append, List.length_take]
    omega
  unfold overwrite
  rw [List.take_append_of_le_length (by omega), List.take_of_length_le (by omega),
    List.drop_append, List.drop_eq_nil_of_le (by omega), prefixLength,
    List.nil_append, List.drop_drop]
  simp only [List.append_assoc, List.length_append]
  congr 4
  omega

/-- Two adjacent copies at the start of a buffer. -/
theorem overwrite_overwrite_zero (buffer first second : List α) :
    overwrite (overwrite buffer 0 first) first.length second =
      overwrite buffer 0 (first ++ second) := by
  have adjacent :
      overwrite (overwrite buffer 0 first) (0 + first.length) second =
        overwrite buffer 0 (first ++ second) :=
    overwrite_overwrite buffer.length.zero_le
  rwa [Nat.zero_add] at adjacent

/-- A copy as long as the buffer replaces all of it. -/
theorem overwrite_full
    {buffer source : List α}
    (full : source.length = buffer.length) :
    overwrite buffer 0 source = source := by
  simp [overwrite, full]

/-- Reading back a copy made at the start of a buffer. -/
theorem take_overwrite_zero (buffer source : List α) :
    (overwrite buffer 0 source).take source.length = source := by
  simp [overwrite]

/-- A copy inside a buffer keeps its length. -/
theorem length_overwrite
    {buffer source : List α}
    {offset : Nat}
    (fits : offset + source.length ≤ buffer.length) :
    (overwrite buffer offset source).length = buffer.length := by
  simp only [overwrite, List.length_append, List.length_take, List.length_drop]
  omega

/-- What lies behind the start of a copy. -/
theorem drop_overwrite
    {buffer source : List α}
    {offset : Nat}
    (starts : offset ≤ buffer.length) :
    (overwrite buffer offset source).drop offset =
      source ++ buffer.drop (offset + source.length) := by
  have copied : (buffer.take offset).length = offset :=
    List.length_take_of_le starts
  rw [overwrite, List.append_assoc, List.drop_left' copied]

/-- The element a copy of one element leaves. -/
theorem getElem?_overwrite_singleton
    {buffer : List α}
    {offset : Nat}
    (starts : offset ≤ buffer.length)
    (element : α) :
    (overwrite buffer offset [element])[offset]? = some element := by
  have behind : ((overwrite buffer offset [element]).drop offset)[0]? =
      some element := by
    rw [drop_overwrite starts]
    rfl
  rwa [List.getElem?_drop, Nat.add_zero] at behind

/-- An element outside the copied range stays as it is. -/
theorem getElem?_overwrite_of_outside
    {buffer source : List α}
    {offset index : Nat}
    (starts : offset ≤ buffer.length)
    (outside : index < offset ∨ offset + source.length ≤ index) :
    (overwrite buffer offset source)[index]? = buffer[index]? := by
  have copied : (buffer.take offset).length = offset :=
    List.length_take_of_le starts
  rcases outside with below | above
  · rw [overwrite, List.append_assoc,
      List.getElem?_append_left (by omega), List.getElem?_take_of_lt below]
  · have covered : (buffer.take offset ++ source).length ≤ index := by
      rw [List.length_append]
      omega
    rw [overwrite, List.getElem?_append_right covered, List.getElem?_drop,
      List.length_append, copied]
    congr 1
    omega

end Buffer
