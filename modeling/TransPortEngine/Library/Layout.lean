/-!
# Layouts

A codec writes the values of a type as strings of a fixed length and reads them
back. A layout is a list of values of several types, written one behind the
other; who knows the types can read the values back.
-/

namespace Layout

/-- Values written as strings of a fixed length. -/
structure Codec (α τ : Type) (size : Nat) where
  encode : τ → List α
  decode : List α → τ
  length_encode : ∀ value, (encode value).length = size
  decode_encode : ∀ value, decode (encode value) = value

namespace Codec

/-- Convert a value before it is written and after it has been read. -/
def through
    (codec : Codec α τ size)
    (there : σ → τ)
    (back : τ → σ)
    (inverse : ∀ value, back (there value) = value) : Codec α σ size where
  encode value := codec.encode (there value)
  decode symbols := back (codec.decode symbols)
  length_encode value := codec.length_encode (there value)
  decode_encode value := by rw [codec.decode_encode, inverse]

/-- Convert values of the same type if a flag is set. -/
def throughIf
    (codec : Codec α τ size)
    (flag : Bool)
    (there back : τ → τ)
    (inverse : ∀ value, back (there value) = value) : Codec α τ size :=
  codec.through (fun value => if flag then there value else value)
    (fun value => if flag then back value else value)
    fun value => by cases flag <;> simp [inverse]

end Codec

variable {α ι : Type} {τ : ι → Type} {size : ι → Nat}

/-- The values of a layout, written one behind the other. -/
def encodeAll (codec : (index : ι) → Codec α (τ index) (size index)) :
    List (Sigma τ) → List α
  | [] => []
  | ⟨index, value⟩ :: items =>
      (codec index).encode value ++ encodeAll codec items

/-- Read values of known types, one behind the other. -/
def decodeAll (codec : (index : ι) → Codec α (τ index) (size index)) :
    List ι → List α → List (Sigma τ)
  | [], _ => []
  | index :: indices, symbols =>
      ⟨index, (codec index).decode (symbols.take (size index))⟩ ::
        decodeAll codec indices (symbols.drop (size index))

/-- The length of a layout with values of given types. -/
def totalSize (size : ι → Nat) : List ι → Nat
  | [] => 0
  | index :: indices => size index + totalSize size indices

section RoundTrip

variable (codec : (index : ι) → Codec α (τ index) (size index))

theorem length_encodeAll (items : List (Sigma τ)) :
    (encodeAll codec items).length =
      totalSize size (items.map Sigma.fst) := by
  induction items with
  | nil => rfl
  | cons item items inductionHypothesis =>
      simp only [encodeAll, List.length_append, (codec item.1).length_encode,
        inductionHypothesis, List.map_cons, totalSize]

/-- A layout is read back, whatever follows it. -/
theorem decodeAll_encodeAll (items : List (Sigma τ)) (rest : List α) :
    decodeAll codec (items.map Sigma.fst) (encodeAll codec items ++ rest) =
      items := by
  induction items with
  | nil => rfl
  | cons item items inductionHypothesis =>
      have width := (codec item.1).length_encode item.2
      simp only [encodeAll, List.map_cons, decodeAll, List.append_assoc]
      rw [List.take_left' width, List.drop_left' width,
        (codec item.1).decode_encode, inductionHypothesis]

end RoundTrip

end Layout
