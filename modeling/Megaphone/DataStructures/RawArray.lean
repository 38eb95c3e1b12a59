import Megaphone.Library.Machine
import Megaphone.Library.Memory
import Megaphone.Library.WriteHistory
import Megaphone.DataStructures.Array

/-!
The dynamic array of `array.c` as bytes.

* `RawArray`: the array with the bytes of its storage; `srealloc`, `append`, `get`, `set` and
  `arrayNew` are the functions of `array.c`, with the arithmetic of `size_t`.
* `Stores`, `SameStorage`, `Represents`: the bytes are those of the elements of a `CArray`.
  `Represents.append` and `Represents.set`: each function does to the bytes what the one of `CArray`
  does to the elements.
* `CArray.Records`: an array of elements holds what has been written to it last, at each index.
* `run_records`, `array_refines_list`: over every run of calls, the array is a list with holes.
-/

namespace Megaphone

open Memory WriteHistory

/-! ### The functions -/

/-- `struct array`: the bytes of the storage, of which there are `size`; those that nothing has been
written to are `none`. -/
structure RawArray where
  dataSize : ℕ
  data : ℕ → Option UInt8
  size : ℕ
  length : ℕ
  capacity : ℕ

namespace RawArray

/-- `srealloc` of the storage, where the allocation succeeds.  For no byte it does not: `realloc`
frees the storage then, and `srealloc` frees it again. -/
def srealloc (a : RawArray) (newSize : ℕ) : Option RawArray :=
  if newSize = 0 then none
  else some { a with
    data := fun i => if i < min a.size newSize then a.data i else none
    size := newSize }

/-- `memcpy` of an element to `&data[data_size * i]`; `none` when this is outside of the storage. -/
def store (a : RawArray) (i : ℕ) (element : ℕ → UInt8) : Option RawArray :=
  let dst := a.dataSize * i % 2 ^ 64
  if dst + a.dataSize ≤ a.size then
    some { a with data := write a.data dst ((read element 0 a.dataSize).map some) }
  else none

/-- `append`. -/
def append (a : RawArray) (element : ℕ → UInt8) : Option RawArray :=
  let grown :=
    if a.length = a.capacity then
      let capacity := a.capacity * 2 % 2 ^ 64
      { a with capacity := capacity }.srealloc (capacity * a.dataSize % 2 ^ 64)
    else some a
  grown.bind fun a =>
    (a.store a.length element).map fun a => { a with length := (a.length + 1) % 2 ^ 64 }

/-- `get`: the offset in `data`, `none` for `NULL`. -/
def get (a : RawArray) (i : ℕ) : Option ℕ :=
  if i > a.length then none else some (a.dataSize * i % 2 ^ 64)

/-- `set`. -/
def set (a : RawArray) (i : ℕ) (element : ℕ → UInt8) : Option RawArray :=
  let grown :=
    if i ≥ a.capacity then
      let n := (i + 1) % 2 ^ 64
      { a with capacity := n, length := n }.srealloc (n * a.dataSize % 2 ^ 64)
    else some a
  grown.bind fun a =>
    (a.store i element).map fun a =>
      { a with length := if i ≥ a.length then (i + 1) % 2 ^ 64 else a.length }

/-- `array_new`; `calloc` fails when the number of bytes is none of a `size_t`. -/
def arrayNew (dataSize capacity : UInt64) : Option RawArray :=
  let cap := if capacity.toNat < INIT_CAP then INIT_CAP else capacity.toNat
  if cap * dataSize.toNat < 2 ^ 64 then
    some { dataSize := dataSize.toNat
           data := fill (fun _ => none) 0 (cap * dataSize.toNat) (some 0)
           size := cap * dataSize.toNat
           length := 0
           capacity := cap }
  else none

/-! ### Elements -/

variable {n : ℕ} {a : RawArray}

instance : CZero (Vector UInt8 n) := ⟨.replicate n 0⟩

lemma toList_zero : (CZero.zero : Vector UInt8 n).toList = List.replicate n 0 :=
  Vector.toList_replicate

/-- The element whose bytes are read from `element` on. -/
def elementOf (n : ℕ) (element : ℕ → UInt8) : Vector UInt8 n := Vector.ofFn fun i => element i

lemma toList_elementOf (n : ℕ) (element : ℕ → UInt8) :
    (elementOf n element).toList = read element 0 n := by
  refine List.ext_getElem (by simp) fun i h₁ h₂ => ?_
  simp [elementOf, Memory.read]

/-- The storage has the bytes of the elements `at?`, each in its one of `cap` slots. -/
structure Stores (a : RawArray) (cap : ℕ) (at? : ℕ → Option (Vector UInt8 n)) : Prop where
  dataSize_eq : a.dataSize = n
  size_eq : a.size = cap * n
  size_lt : a.size < 2 ^ 64
  data_eq : ∀ i x, at? i = some x → i < cap ∧ read a.data (n * i) n = x.toList.map some

/-- The end of a slot. -/
lemma slot_le {i cap : ℕ} (h : i < cap) (n : ℕ) : n * i + n ≤ cap * n := by
  rw [← Nat.mul_succ, Nat.mul_comm cap]
  exact Nat.mul_le_mul_left n h

/-- Two slots have no byte in common. -/
lemma slot_disjoint {i j : ℕ} (h : j ≠ i) (n : ℕ) : n * j + n ≤ n * i ∨ n * i + n ≤ n * j := by
  obtain hlt | hgt := Nat.lt_or_gt_of_ne h
  · exact .inl ((slot_le hlt n).trans (Nat.mul_comm i n).le)
  · exact .inr ((slot_le hgt n).trans (Nat.mul_comm j n).le)

variable {cap : ℕ} {at? : ℕ → Option (Vector UInt8 n)}

/-- The elements stay when the storage grows. -/
lemma Stores.srealloc (h : a.Stores cap at?) {cap' : ℕ} (hcap : cap ≤ cap')
    (hfits : cap' * a.dataSize < 2 ^ 64) {a' : RawArray}
    (ha' : a.srealloc (cap' * a.dataSize % 2 ^ 64) = some a') :
    a'.Stores cap' at? ∧ a'.length = a.length ∧ a'.capacity = a.capacity := by
  rw [RawArray.srealloc, Nat.mod_eq_of_lt hfits] at ha'
  obtain ⟨-, ha'⟩ := Option.ite_none_left_eq_some.mp ha'
  cases ha'
  have hsize : cap' * a.dataSize = cap' * n := by rw [h.dataSize_eq]
  refine ⟨⟨h.dataSize_eq, hsize, hfits, fun i x hx => ?_⟩, rfl, rfl⟩
  obtain ⟨hi, hread⟩ := h.data_eq i x hx
  refine ⟨lt_of_lt_of_le hi hcap, ?_⟩
  rw [← hread]
  refine read_congr fun j _ hj => if_pos ?_
  have hslot := slot_le hi n
  have hmul : cap * n ≤ cap' * n := Nat.mul_le_mul_right n hcap
  rw [h.size_eq, hsize, min_eq_left hmul]
  omega

/-- **An element is stored** in its slot, and the others are as before. -/
lemma Stores.store (h : a.Stores cap at?) {i : ℕ} (hi : i < cap) (element : ℕ → UInt8) :
    ∃ a', a.store i element = some a' ∧
      a'.Stores cap (Function.update at? i (some (elementOf n element))) ∧
      a'.length = a.length ∧ a'.capacity = a.capacity := by
  have hslot := slot_le hi n
  have hsize := h.size_eq
  have hlt := h.size_lt
  have hdst : n * i % 2 ^ 64 = n * i := Nat.mod_eq_of_lt (by omega)
  refine ⟨{ a with data := write a.data (n * i) ((read element 0 n).map some) }, ?_, ?_, rfl, rfl⟩
  · simp only [RawArray.store, h.dataSize_eq, hdst]
    exact if_pos (by omega)
  · refine ⟨h.dataSize_eq, hsize, hlt, fun j x hx => ?_⟩
    have hlength : ((read element 0 n).map some).length = n := by simp
    by_cases hj : j = i
    · subst hj
      rw [Function.update_self] at hx
      rw [← Option.some.inj hx, toList_elementOf]
      refine ⟨hi, ?_⟩
      have hread := read_write_self a.data (n * j) ((read element 0 n).map some)
      rwa [hlength] at hread
    · rw [Function.update_of_ne hj] at hx
      obtain ⟨hjc, hread⟩ := h.data_eq j x hx
      refine ⟨hjc, ?_⟩
      obtain hle | hge := slot_disjoint hj n
      · rw [read_write_of_le _ _ hle, hread]
      · rw [read_write_of_ge _ _ (by rwa [hlength]), hread]

/-! ### The bytes of an array of elements -/

/-- The storage has the bytes of that of the array of elements `b`. -/
structure SameStorage (a : RawArray) (b : CArray (Vector UInt8 n)) : Prop where
  capacity_eq : a.capacity = b.capacity
  capacity_lt : a.capacity < 2 ^ 64
  slots_length : b.slots.length = b.capacity
  stores : a.Stores b.capacity b.at?

/-- The array has the bytes of the array of elements `b`. -/
structure Represents (a : RawArray) (b : CArray (Vector UInt8 n)) : Prop where
  storage : a.SameStorage b
  length_eq : a.length = b.length
  length_le : b.length ≤ b.capacity

variable {b b' : CArray (Vector UInt8 n)} {a' : RawArray}

lemma arrayNew_represents {dataSize capacity : UInt64} (h : arrayNew dataSize capacity = some a) :
    a.Represents (.arrayNew (Vector UInt8 dataSize.toNat) capacity.toNat) := by
  rw [arrayNew] at h
  obtain ⟨hfits, h⟩ := Option.ite_none_right_eq_some.mp h
  cases h
  have hwf := CArray.wf_arrayNew (α := Vector UInt8 dataSize.toNat) capacity.toNat
  have hcap : (if capacity.toNat < INIT_CAP then INIT_CAP else capacity.toNat) < 2 ^ 64 := by
    split
    · decide
    · exact capacity.toNat_lt
  refine ⟨⟨rfl, hcap, hwf.slots_length, rfl, rfl, hfits, fun i x hx => ?_⟩, rfl, hwf.length_le⟩
  have hi := CArray.lt_of_at? hx
  rw [hwf.slots_length] at hi
  refine ⟨hi, ?_⟩
  obtain hnone | hzero := CArray.at?_arrayNew (α := Vector UInt8 dataSize.toNat) capacity.toNat i
  · rw [hnone] at hx
    cases hx
  · rw [hzero] at hx
    cases hx
    rw [toList_zero, List.map_replicate]
    refine read_fill_self _ _ (Nat.zero_le _) ?_
    rw [Nat.zero_add]
    exact slot_le hi dataSize.toNat

/-- A larger storage, with the elements that there were. -/
lemma SameStorage.grow (h : a.SameStorage b) (hcap : b.capacity ≤ b'.capacity)
    (hslots : b'.slots.length = b'.capacity) (hat : ∀ i, b'.at? i = b.at? i)
    (hlt : b'.capacity < 2 ^ 64) (hfits : b'.capacity * a.dataSize < 2 ^ 64) {m : ℕ}
    (ha' : { a with capacity := b'.capacity, length := m }.srealloc
      (b'.capacity * a.dataSize % 2 ^ 64) = some a') : a'.SameStorage b' ∧ a'.length = m := by
  have hstores : Stores { a with capacity := b'.capacity, length := m } b.capacity b'.at? := by
    rw [funext hat]
    obtain ⟨hdata, hsize, hlt, hread⟩ := h.stores
    exact ⟨hdata, hsize, hlt, hread⟩
  obtain ⟨hstores', hlength, hcapacity⟩ := hstores.srealloc hcap hfits ha'
  exact ⟨⟨hcapacity, hcapacity ▸ hlt, hslots, hstores'⟩, hlength⟩

/-- The element is stored in the storage. -/
lemma SameStorage.store (h : a.SameStorage b) {i : ℕ} (hi : i < b.capacity)
    {element : ℕ → UInt8} (hstore : a.store i element = some a') {m : ℕ} (hm : m ≤ b.capacity) :
    a'.length = a.length ∧
      Represents { a' with length := m } { b.write i (elementOf n element) with length := m } := by
  obtain ⟨a₁, heq, hstores, hlength, hcapacity⟩ := h.stores.store hi element
  cases hstore.symm.trans heq
  refine ⟨hlength, ?_⟩
  have hupdate : (b.write i (elementOf n element)).at? =
      Function.update b.at? i (some (elementOf n element)) := by
    funext j
    by_cases hj : j = i
    · subst hj
      rw [Function.update_self]
      exact b.at?_write_self _ (h.slots_length ▸ hi)
    · rw [Function.update_of_ne hj, b.at?_write_of_ne _ hj]
  refine ⟨⟨hcapacity.trans h.capacity_eq, ?_, ?_, ?_⟩, rfl, hm⟩
  · show a'.capacity < 2 ^ 64
    rw [hcapacity]
    exact h.capacity_lt
  · simpa [CArray.write] using h.slots_length
  · show Stores _ b.capacity (b.write i (elementOf n element)).at?
    rw [hupdate]
    exact ⟨hstores.dataSize_eq, hstores.size_eq, hstores.size_lt, hstores.data_eq⟩

/-- An allocation that succeeds is of at least one byte. -/
lemma ne_zero_of_srealloc {k : ℕ} (h : a.srealloc k = some a') : k ≠ 0 :=
  (Option.ite_none_left_eq_some.mp h).1

/-! ### Calls -/

/-- A call, with the element that it is given. -/
inductive Call
  | append (element : ℕ → UInt8)
  | set (i : ℕ) (element : ℕ → UInt8)

/-- The machine. -/
def step (a : RawArray) : Call → Option (RawArray × Unit)
  | .append element => (a.append element).map fun a' => (a', ())
  | .set i element => (a.set i element).map fun a' => (a', ())

/-- In the call nothing overflows: neither the index that follows the one that is set, nor the
number of bytes that the storage is to have. -/
def Fits (a : RawArray) : Call → Prop
  | .append _ => a.length = a.capacity → a.capacity * 2 * a.dataSize < 2 ^ 64
  | .set i _ => i + 1 < 2 ^ 64 ∧ (a.capacity ≤ i → (i + 1) * a.dataSize < 2 ^ 64)

/-- **`append`** does to the bytes what it does to the elements. -/
lemma Represents.append (h : a.Represents b) {element : ℕ → UInt8}
    (hfits : a.Fits (.append element)) (happend : a.append element = some a') :
    a'.Represents (b.append (elementOf n element)) := by
  obtain ⟨b', heq, hcap, hb'⟩ := b.append_eq (elementOf n element)
  obtain ⟨hslots, hat⟩ := hb' h.storage.slots_length
  have hlen := h.length_eq
  have hcapacity := h.storage.capacity_eq
  have hle := h.length_le
  have hsize := h.storage.stores.dataSize_eq
  obtain ⟨a₁, hgrow, happend⟩ := Option.bind_eq_some_iff.mp happend
  obtain ⟨a₂, hstore, rfl⟩ := Option.map_eq_some_iff.mp happend
  obtain ⟨hstorage, hlength, hroom⟩ :
      a₁.SameStorage b' ∧ a₁.length = a.length ∧ b.length < b'.capacity := by
    by_cases hfull : a.length = a.capacity
    · rw [if_pos hfull] at hgrow
      rw [if_pos (by omega)] at hcap
      have hbytes : a.capacity * 2 * a.dataSize < 2 ^ 64 := hfits hfull
      have hne : a.capacity * 2 % 2 ^ 64 * a.dataSize % 2 ^ 64 ≠ 0 := ne_zero_of_srealloc hgrow
      have hn : 0 < a.dataSize := by
        refine Nat.pos_of_ne_zero fun hzero => hne ?_
        rw [hzero, Nat.mul_zero, Nat.zero_mod]
      have hpos : a.capacity ≠ 0 := by
        intro hzero
        rw [hzero] at hne
        simp at hne
      have hlt : a.capacity * 2 < 2 ^ 64 := (Nat.le_mul_of_pos_right _ hn).trans_lt hbytes
      have hdouble : a.capacity * 2 = b'.capacity := by rw [hcap, hcapacity]
      rw [hdouble] at hlt hbytes
      simp only [hdouble, Nat.mod_eq_of_lt hlt] at hgrow
      obtain ⟨hstorage, hlength⟩ := h.storage.grow (by omega) hslots hat hlt hbytes hgrow
      exact ⟨hstorage, hlength, by omega⟩
    · rw [if_neg hfull] at hgrow
      rw [if_neg (by omega)] at hcap
      cases hgrow
      obtain ⟨-, hlt, -, hstores⟩ := h.storage
      rw [← hcap, ← funext hat] at hstores
      exact ⟨⟨hcapacity.trans hcap.symm, hlt, hslots, hstores⟩, rfl, by omega⟩
  have hlt := hstorage.capacity_lt
  have hcapacity' := hstorage.capacity_eq
  rw [hlength, hlen] at hstore
  obtain ⟨hlength', hrep⟩ := hstorage.store hroom hstore hroom
  rw [heq, hlength', hlength, hlen, Nat.mod_eq_of_lt (by omega)]
  exact hrep

/-- **`set`** does to the bytes what it does to the elements. -/
lemma Represents.set (h : a.Represents b) {i : ℕ} {element : ℕ → UInt8}
    (hfits : a.Fits (.set i element)) (hset : a.set i element = some a') :
    ∃ b', b.set i (elementOf n element) = some b' ∧ a'.Represents b' := by
  obtain ⟨hi, hbytes⟩ := hfits
  obtain ⟨b', heq, hcap, hslots, hat⟩ :=
    CArray.set_eq ⟨h.storage.slots_length, h.length_le⟩ hi (elementOf n element)
  have hlen := h.length_eq
  have hcapacity := h.storage.capacity_eq
  have hle := h.length_le
  obtain ⟨a₁, hgrow, hset⟩ := Option.bind_eq_some_iff.mp hset
  obtain ⟨a₂, hstore, rfl⟩ := Option.map_eq_some_iff.mp hset
  refine ⟨_, heq, ?_⟩
  obtain ⟨hstorage, hlength⟩ :
      a₁.SameStorage b' ∧ a₁.length = if i ≥ a.capacity then i + 1 else a.length := by
    by_cases hfull : i ≥ a.capacity
    · rw [if_pos hfull] at hgrow
      have hnew : i + 1 = b'.capacity := by omega
      have hbytes' := hbytes hfull
      rw [if_pos hfull]
      rw [hnew] at hi hbytes' ⊢
      simp only [hnew, Nat.mod_eq_of_lt hi] at hgrow
      exact h.storage.grow (by omega) hslots hat hi hbytes' hgrow
    · rw [if_neg hfull] at hgrow
      cases hgrow
      have hold : b'.capacity = b.capacity := by omega
      obtain ⟨-, hlt, -, hstores⟩ := h.storage
      rw [← hold, ← funext hat] at hstores
      exact ⟨⟨hcapacity.trans hold.symm, hlt, hslots, hstores⟩, (if_neg hfull).symm⟩
  obtain ⟨hlength', hrep⟩ := hstorage.store (by omega) hstore (m := max b.length (i + 1)) (by omega)
  have hmax : (if i ≥ a₂.length then (i + 1) % 2 ^ 64 else a₂.length) = max b.length (i + 1) := by
    rw [Nat.mod_eq_of_lt hi, hlength', hlength]
    by_cases hfull : i ≥ a.capacity
    · rw [if_pos hfull]
      split <;> omega
    · rw [if_neg hfull]
      split <;> omega
  rw [hmax]
  exact hrep

/-! ### Calls succeed -/

/-- The storage can be made larger. -/
lemma exists_srealloc {k : ℕ} (hk : 0 < k) (hn : 0 < a.dataSize)
    (hfits : k * a.dataSize < 2 ^ 64) :
    ∃ a', a.srealloc (k % 2 ^ 64 * a.dataSize % 2 ^ 64) = some a' ∧
      a'.size = k * a'.dataSize ∧ a'.length = a.length := by
  have hlt : k < 2 ^ 64 := (Nat.le_mul_of_pos_right k hn).trans_lt hfits
  rw [Nat.mod_eq_of_lt hlt, Nat.mod_eq_of_lt hfits]
  exact ⟨_, if_neg (Nat.mul_pos hk hn).ne', rfl, rfl⟩

/-- Within the storage there is room for an element. -/
lemma exists_store {i : ℕ} (hsize : a.size = cap * a.dataSize) (hi : i < cap)
    (element : ℕ → UInt8) : ∃ a', a.store i element = some a' := by
  refine ⟨_, if_pos ?_⟩
  rw [hsize]
  exact (Nat.add_le_add_right (Nat.mod_le _ _) _).trans (slot_le hi _)

/-- **No call fails** in which nothing overflows. -/
lemma Represents.exists_step (h : a.Represents b) (hcap : 0 < b.capacity) (hn : 0 < n) {c : Call}
    (hfits : a.Fits c) : ∃ a', a.step c = some (a', ()) := by
  have hdata := h.storage.stores.dataSize_eq
  have hcapacity := h.storage.capacity_eq
  have hlen := h.length_eq
  have hle := h.length_le
  have hsize : a.size = a.capacity * a.dataSize := by
    rw [h.storage.stores.size_eq, hdata, hcapacity]
  cases c with
  | append element =>
      obtain ⟨a₁, hgrow, a₂, hstore⟩ : ∃ a₁, (if a.length = a.capacity then
            { a with capacity := a.capacity * 2 % 2 ^ 64 }.srealloc
              (a.capacity * 2 % 2 ^ 64 * a.dataSize % 2 ^ 64)
          else some a) = some a₁ ∧ ∃ a₂, a₁.store a₁.length element = some a₂ := by
        split
        next hfull =>
          obtain ⟨a₁, hgrow, hsize₁, hlen₁⟩ := exists_srealloc
            (a := { a with capacity := a.capacity * 2 % 2 ^ 64 }) (k := a.capacity * 2) (by omega)
            (hdata ▸ hn) (hfits hfull)
          have hroom : a₁.length < a.capacity * 2 := by
            rw [show a₁.length = a.length from hlen₁]
            omega
          exact ⟨a₁, hgrow, exists_store hsize₁ hroom element⟩
        next hroom => exact ⟨a, rfl, exists_store hsize (by omega) element⟩
      exact ⟨_, Option.map_eq_some_iff.mpr ⟨_, Option.bind_eq_some_iff.mpr
        ⟨a₁, hgrow, Option.map_eq_some_iff.mpr ⟨a₂, hstore, rfl⟩⟩, rfl⟩⟩
  | set i element =>
      obtain ⟨a₁, hgrow, a₂, hstore⟩ : ∃ a₁, (if i ≥ a.capacity then
            { a with capacity := (i + 1) % 2 ^ 64, length := (i + 1) % 2 ^ 64 }.srealloc
              ((i + 1) % 2 ^ 64 * a.dataSize % 2 ^ 64)
          else some a) = some a₁ ∧ ∃ a₂, a₁.store i element = some a₂ := by
        split
        next hfull =>
          obtain ⟨a₁, hgrow, hsize₁, -⟩ := exists_srealloc
            (a := { a with capacity := (i + 1) % 2 ^ 64, length := (i + 1) % 2 ^ 64 }) (k := i + 1)
            i.succ_pos (hdata ▸ hn) (hfits.2 hfull)
          exact ⟨a₁, hgrow, exists_store hsize₁ i.lt_succ_self element⟩
        next hroom => exact ⟨a, rfl, exists_store hsize (by omega) element⟩
      exact ⟨_, Option.map_eq_some_iff.mpr ⟨_, Option.bind_eq_some_iff.mpr
        ⟨a₁, hgrow, Option.map_eq_some_iff.mpr ⟨a₂, hstore, rfl⟩⟩, rfl⟩⟩

end RawArray

/-! ### Arrays and the writes to them -/

namespace CArray

variable {α : Type}

/-- The array holds what the writes `ws` have left in it. -/
structure Records (a : CArray α) (ws : List (ℕ × α)) : Prop where
  slots_length : a.slots.length = a.capacity
  init_cap : INIT_CAP ≤ a.capacity
  length_le : a.length ≤ a.capacity
  length_eq : a.length = extent ws
  at?_eq : ∀ i x, lastAt ws i = some x → a.at? i = some x

variable {a a' : CArray α} {ws : List (ℕ × α)}

lemma records_arrayNew [CZero α] (capacity : ℕ) : Records (arrayNew α capacity) [] := by
  have hholds := holds_arrayNew (α := α) capacity
  refine ⟨hholds.slots_length, hholds.init_cap, hholds.length_le, rfl, fun i x hx => ?_⟩
  cases hx

/-- One more write, into a storage with the elements that there were. -/
lemma Records.write (h : a.Records ws) (hcap : a.capacity ≤ a'.capacity)
    (hslots : a'.slots.length = a'.capacity) (hat : ∀ j, a'.at? j = a.at? j) {i : ℕ}
    (hi : i < a'.capacity) (x : α) :
    Records { a'.write i x with length := max a.length (i + 1) } (ws ++ [(i, x)]) := by
  have hle := h.length_le
  refine ⟨by simpa [CArray.write] using hslots, h.init_cap.trans hcap, ?_, ?_, fun j y hy => ?_⟩
  · show max a.length (i + 1) ≤ a'.capacity
    omega
  · show max a.length (i + 1) = _
    rw [extent_concat, h.length_eq]
  · rw [lastAt_concat] at hy
    show (a'.write i x).at? j = some y
    by_cases hj : i = j
    · rw [if_pos hj] at hy
      rw [← hj, at?_write_self a' x (by omega), hy]
    · rw [if_neg hj] at hy
      rw [at?_write_of_ne a' x (Ne.symm hj), hat, h.at?_eq j y hy]

lemma Records.append (h : a.Records ws) (x : α) :
    (a.append x).Records (ws ++ [(a.length, x)]) := by
  obtain ⟨a', heq, hcap, ha'⟩ := a.append_eq x
  obtain ⟨hslots, hat⟩ := ha' h.slots_length
  have hinit := h.init_cap
  have hle := h.length_le
  simp only [INIT_CAP] at hinit
  have hroom : a.length < a'.capacity := by
    split at hcap <;> omega
  have hgrown : a.capacity ≤ a'.capacity := by
    split at hcap <;> omega
  have hrecords := h.write hgrown hslots hat hroom x
  rw [max_eq_right (Nat.le_succ _)] at hrecords
  rw [heq]
  exact hrecords

lemma Records.set (h : a.Records ws) {i : ℕ} (hi : i + 1 < 2 ^ 64) {x : α}
    (hset : a.set i x = some a') : a'.Records (ws ++ [(i, x)]) := by
  obtain ⟨b, heq, hcap, hslots, hat⟩ := set_eq ⟨h.slots_length, h.length_le⟩ hi x
  cases hset.symm.trans heq
  exact h.write (hcap ▸ le_max_left _ _) hslots hat (by omega) x

end CArray

namespace RawArray

/-! ### Runs -/

/-- The index that a call writes at, and the element. -/
def writeOf (n : ℕ) (a : RawArray) : Call → ℕ × Vector UInt8 n
  | .append element => (a.length, elementOf n element)
  | .set i element => (i, elementOf n element)

/-- One call. -/
abbrev ArrayTransition := Machine.Transition RawArray Call Unit

/-- The writes of the calls of a run. -/
def writes (n : ℕ) (ts : List ArrayTransition) : List (ℕ × Vector UInt8 n) :=
  ts.map fun t => t.pre.writeOf n t.act

variable {n : ℕ} {a a' : RawArray} {b : CArray (Vector UInt8 n)} {ws : List (ℕ × Vector UInt8 n)}

/-- **One call** does to the bytes what the write does to the list with holes. -/
lemma step_records (h : a.Represents b) (hb : b.Records ws) {c : Call} (hfits : a.Fits c)
    {o : Unit} (hstep : a.step c = some (a', o)) :
    ∃ b' : CArray (Vector UInt8 n), a'.Represents b' ∧ b'.Records (ws ++ [a.writeOf n c]) := by
  cases c with
  | append element =>
      obtain ⟨a₁, happend, heq⟩ := Option.map_eq_some_iff.mp hstep
      cases heq
      refine ⟨_, h.append hfits happend, ?_⟩
      rw [writeOf, h.length_eq]
      exact hb.append _
  | set i element =>
      obtain ⟨a₁, hset, heq⟩ := Option.map_eq_some_iff.mp hstep
      cases heq
      obtain ⟨b', hb', hrep⟩ := h.set hfits hset
      exact ⟨b', hrep, hb.set hfits.1 hb'⟩

/-- **A run of calls**, likewise. -/
lemma run_records {ts : List ArrayTransition} (hrun : Machine.Run step a ts a')
    (hts : ∀ t ∈ ts, t.pre.Fits t.act) (h : a.Represents b) (hb : b.Records []) :
    ∃ b' : CArray (Vector UInt8 n), a'.Represents b' ∧ b'.Records (writes n ts) := by
  refine hrun.history (P := fun ts a =>
      ∃ b : CArray (Vector UInt8 n), a.Represents b ∧ b.Records (writes n ts))
    (fun ts a c a' o ⟨b, h, hb⟩ hfits hstep => ?_) hts ⟨b, h, hb⟩
  rw [writes, List.map_append, List.map_singleton]
  exact step_records h hb hfits hstep

/-- The array is the list with holes that the writes `ws` leave, its elements being of `n` bytes. -/
structure IsListWithHoles (a : RawArray) (ws : List (ℕ × Vector UInt8 n)) : Prop where
  init_cap : 8 ≤ a.capacity
  length_le : a.length ≤ a.capacity
  length_nil : ws = [] → a.length = 0
  length_eq : ws ≠ [] → ∃ w ∈ ws, a.length = w.1 + 1 ∧ ∀ v ∈ ws, v.1 ≤ w.1
  get_eq : ∀ i x, lastAt ws i = some x → i < a.length ∧ ∃ p, a.get i = some p ∧
    p + n ≤ a.size ∧ Memory.read a.data p n = x.toList.map some

lemma Represents.isListWithHoles (h : a.Represents b) (hb : b.Records ws) :
    a.IsListWithHoles ws := by
  have hlen : a.length = extent ws := h.length_eq.trans hb.length_eq
  have hcapacity := h.storage.capacity_eq
  refine ⟨?_, ?_, fun hnil => ?_, fun hne => ?_, fun i x hx => ?_⟩
  · rw [hcapacity]
    exact hb.init_cap
  · rw [hcapacity, h.length_eq]
    exact h.length_le
  · rw [hlen, hnil, extent_nil]
  · rw [hlen]
    exact exists_extent_eq hne
  · have hi := lt_extent_of_lastAt hx
    obtain ⟨hdata, hsize, hlt, hread⟩ := h.storage.stores
    obtain ⟨hicap, hbytes⟩ := hread i x (hb.at?_eq i x hx)
    have hslot := slot_le hicap n
    refine ⟨by omega, n * i, ?_, by omega, hbytes⟩
    rw [get, if_neg (by omega), hdata, Nat.mod_eq_of_lt (by omega)]

/-- **The dynamic array is a list with holes**, over every run of `append` and `set` at any indices
in which nothing overflows; and every such call succeeds. -/
theorem array_refines_list {dataSize capacity : UInt64} {a₀ : RawArray}
    (hnew : arrayNew dataSize capacity = some a₀) {ts : List ArrayTransition}
    (hrun : Machine.Run step a₀ ts a) (hts : ∀ t ∈ ts, t.pre.Fits t.act) :
    a.IsListWithHoles (writes dataSize.toNat ts) ∧
      ∀ c, 0 < dataSize → a.Fits c → ∃ a', a.step c = some (a', ()) := by
  obtain ⟨b, hrep, hrecords⟩ :=
    run_records hrun hts (arrayNew_represents hnew) (CArray.records_arrayNew capacity.toNat)
  refine ⟨hrep.isListWithHoles hrecords, fun c hpos hfits => ?_⟩
  exact hrep.exists_step (lt_of_lt_of_le (by decide) hrecords.init_cap) hpos hfits

/-- An element is set behind the storage, and another one appended to it. -/
theorem array_refines_list_two : ∃ a₀ ts a, arrayNew 1 8 = some a₀ ∧ Machine.Run step a₀ ts a ∧
    ts.map (·.act) = [.set 9 fun _ => 120, .append fun _ => 121] ∧
    a.IsListWithHoles (writes (1 : UInt64).toNat ts) ∧
      ∀ c, (0 : UInt64) < 1 → a.Fits c → ∃ a', a.step c = some (a', ()) := by
  refine ⟨_, _, _, rfl, .cons rfl (.cons rfl (.nil _)), rfl, ?_⟩
  refine array_refines_list (show arrayNew 1 8 = some _ from rfl)
    (.cons rfl (.cons rfl (.nil _))) ?_
  intro t ht
  simp only [List.mem_cons, List.not_mem_nil, or_false] at ht
  obtain rfl | rfl := ht
  · exact ⟨by decide, fun _ => by decide⟩
  · exact fun _ => by decide

end RawArray

end Megaphone
