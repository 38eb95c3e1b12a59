import Megaphone.Library.Memory

/-!
Formats in which values are sent as lists of bytes.

* `WireFormat`: the encoder of the sender, the decoder of the receiver, which runs on a memory and
  the number of bytes received, which values count as the same, and which lists have the length that
  the format declares.
* `WireFormat.RoundTrips`: decoding what has been encoded gives the value back, and encoding what
  has been decoded gives the list back.
* `total`: the formats whose decoder always finds a value; `roundTrips_total`: when they round-trip.
-/

open Memory

/-- A format for values of the type `V` over bytes of the type `B`. -/
structure WireFormat (V B : Type*) where
  encode : V → List B
  decode : (ℕ → B) → ℕ → Option V
  Same : V → V → Prop
  Declares : (ℕ → B) → ℕ → Prop

namespace WireFormat

variable {V B : Type*}

/-- The decoder undoes the encoder, and the encoder the decoder. -/
structure RoundTrips (F : WireFormat V B) : Prop where
  decode_encode : ∀ v m, read m 0 (F.encode v).length = F.encode v →
    ∃ v', F.decode m (F.encode v).length = some v' ∧ F.Same v' v
  encode_decode : ∀ m n, F.Declares m n → ∃ v, F.decode m n = some v ∧ F.encode v = read m 0 n

/-- The format whose decoder always finds a value, in the first `size` bytes. -/
def total (encode : V → List B) (decode : (ℕ → B) → ℕ → V) (Same : V → V → Prop)
    (size : (ℕ → B) → ℕ) : WireFormat V B where
  encode := encode
  decode m n := some (decode m n)
  Same := Same
  Declares m n := n = size m

/-- **Total decoders**: the format round-trips when its decoder finds a value exactly where the
memory begins with the encoding of the value, and finds only values of the declared length. -/
lemma roundTrips_total {encode : V → List B} {decode : (ℕ → B) → ℕ → V} {Same : V → V → Prop}
    {size : (ℕ → B) → ℕ} (hrefl : ∀ v, Same v v)
    (hreads : ∀ m n v, Same (decode m n) v ↔ read m 0 (encode v).length = encode v)
    (hsize : ∀ m n, (encode (decode m n)).length = size m) :
    (total encode decode Same size).RoundTrips := by
  constructor
  · intro v m hm
    exact ⟨_, rfl, (hreads m _ v).mpr hm⟩
  · rintro m n rfl
    have hself := (hreads m (size m) _).mp (hrefl _)
    rw [hsize] at hself
    exact ⟨_, rfl, hself.symm⟩

end WireFormat
