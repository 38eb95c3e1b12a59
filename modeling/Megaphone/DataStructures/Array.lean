import Mathlib.Tactic

/-!
The dynamic array of `array.c`.

The elements of an array live in an allocation of `capacity` slots; a slot that nothing has been
written to since the allocation holds no value (`none`).  Allocations are numbered, so that a
pointer into one can be told from a pointer into the one that replaced it: `realloc` to a larger
size gives a new block, and the old one no longer holds the array.  Allocations succeed.

* `CArray`: the fields of `struct array`; `append`, `set`, `get` and `arrayNew` are the functions of
  `array.c`, and `deref` and `poke` are reading and writing through a pointer `&data[i]`.
* `CArray.Holds`: the array stands for a list, every element of which is in its slot.
  `Holds.append` and `Holds.write` are what the operations do to the list.
* `FullArray`: an array together with the list it holds, for the arrays that only `append` fills;
  a value of this type is well formed.
* `CArray.GrowsTo`: until when the storage of an array that elements are appended to stays where it
  is.
* `CArray.Wf`: the invariant of the arrays with holes that `set` fills, and `set_spec`: what `set`
  does to them.
-/

namespace Megaphone

/-- The value of a type whose bytes are all zero, which `calloc` and `memset` leave. -/
class CZero (α : Type) where
  zero : α

/-- `INIT_CAP`. -/
def INIT_CAP : ℕ := 8

/-- `struct array`: the allocation that `data` points to, the number of elements and the number of
slots. -/
structure CArray (α : Type) where
  block : ℕ
  slots : List (Option α)
  length : ℕ
  capacity : ℕ

/-- A pointer to the element number `index` of an array, taken when its allocation had the number
`block`. -/
structure Ptr where
  block : ℕ
  index : ℕ
  deriving DecidableEq

namespace CArray

variable {α : Type}

/-- `srealloc` to `n` slots: a new block with the contents of the old one. -/
def srealloc (a : CArray α) (n : ℕ) : CArray α :=
  { a with
    block := a.block + 1
    slots := a.slots.take n ++ List.replicate (n - a.slots.length) none }

/-- `append`. -/
def append (a : CArray α) (x : α) : CArray α :=
  let a' := if a.length = a.capacity then
      { a.srealloc (a.capacity * 2) with capacity := a.capacity * 2 }
    else a
  { a' with slots := a'.slots.set a'.length (some x), length := a'.length + 1 }

/-- `get`: the index of the slot pointed to, `none` for `NULL`. -/
def get (a : CArray α) (i : ℕ) : Option ℕ :=
  if i > a.length then none else some i

/-- `set`.  The index is a `size_t`, so that `i + 1` is `0` for the largest one: `realloc` to no
byte then frees the block that `srealloc` frees once more, and there is no slot to write to
(`none`). -/
def set (a : CArray α) (i : ℕ) (x : α) : Option (CArray α) :=
  if i ≥ a.capacity then
    let n := (i + 1) % 2 ^ 64
    if n = 0 then none
    else some { a.srealloc n with
      slots := (a.srealloc n).slots.set i (some x), length := n, capacity := n }
  else
    some { a with
      slots := a.slots.set i (some x)
      length := if i ≥ a.length then i + 1 else a.length }

/-- `array_new`: the block is cleared. -/
def arrayNew (α : Type) [CZero α] (capacity : ℕ) : CArray α :=
  let cap := if capacity < INIT_CAP then INIT_CAP else capacity
  { block := 0, slots := List.replicate cap (some CZero.zero), length := 0, capacity := cap }

/-- Writing the element number `i` through a pointer. -/
def write (a : CArray α) (i : ℕ) (x : α) : CArray α :=
  { a with slots := a.slots.set i (some x) }

/-- The element number `i`, `none` when nothing has been written there or there is no slot. -/
def at? (a : CArray α) (i : ℕ) : Option α := (a.slots[i]?).join

/-- The pointer `&data[i]`. -/
def addr (a : CArray α) (i : ℕ) : Ptr := ⟨a.block, i⟩

/-- What a pointer reads: nothing of the array once its allocation has been replaced. -/
def deref (a : CArray α) (p : Ptr) : Option α :=
  if p.block = a.block then a.at? p.index else none

/-- Writing through a pointer: into an allocation that has been replaced, the write is lost. -/
def poke (a : CArray α) (p : Ptr) (f : α → α) : CArray α :=
  match a.deref p with
  | some x => a.write p.index (f x)
  | none => a

lemma lt_of_at? {a : CArray α} {i : ℕ} {x : α} (h : a.at? i = some x) : i < a.slots.length := by
  rw [at?, Option.join_eq_some_iff] at h
  exact (List.getElem?_eq_some_iff.mp h).1

lemma eq_of_get {a : CArray α} {i j : ℕ} (h : a.get i = some j) : j = i := by
  rw [get] at h
  split at h
  · cases h
  · exact (Option.some.inj h).symm

lemma deref_of_ne {a : CArray α} {p : Ptr} (h : p.block ≠ a.block) : a.deref p = none := by
  rw [deref, if_neg h]

lemma deref_of_eq {a : CArray α} {p : Ptr} (h : p.block = a.block) : a.deref p = a.at? p.index := by
  rw [deref, if_pos h]

/-- Writing through a pointer into an allocation that has been replaced. -/
lemma poke_of_ne {a : CArray α} {p : Ptr} (h : p.block ≠ a.block) (f : α → α) :
    a.poke p f = a := by
  rw [poke, deref_of_ne h]

/-- Writing through a pointer into the storage. -/
lemma poke_of_eq {a : CArray α} {p : Ptr} {x : α} (h : p.block = a.block)
    (hx : a.at? p.index = some x) (f : α → α) : a.poke p f = a.write p.index (f x) := by
  rw [poke, deref_of_eq h, hx]

/-! ### Arrays that hold a list -/

/-- The array holds the list `l`. -/
structure Holds (a : CArray α) (l : List α) : Prop where
  length_eq : a.length = l.length
  slots_length : a.slots.length = a.capacity
  init_cap : INIT_CAP ≤ a.capacity
  length_le : a.length ≤ a.capacity
  at?_eq : ∀ i (h : i < l.length), a.at? i = some l[i]

lemma holds_arrayNew [CZero α] (capacity : ℕ) : Holds (arrayNew α capacity) [] := by
  have hcap : INIT_CAP ≤ if capacity < INIT_CAP then INIT_CAP else capacity := by split <;> omega
  exact ⟨rfl, by simp [arrayNew], hcap, by simp [arrayNew], by simp⟩

lemma at?_srealloc (a : CArray α) {n i : ℕ} (h : a.slots.length ≤ n) :
    (a.srealloc n).at? i = a.at? i := by
  simp only [at?, srealloc, List.take_of_length_le h]
  rcases lt_or_ge i a.slots.length with hi | hi
  · rw [List.getElem?_append_left hi]
  · rw [List.getElem?_append_right hi, List.getElem?_eq_none hi, List.getElem?_replicate]
    split <;> rfl

lemma length_slots_srealloc (a : CArray α) {n : ℕ} (h : a.slots.length ≤ n) :
    (a.srealloc n).slots.length = n := by
  simp [srealloc, List.take_of_length_le h]
  omega

lemma at?_write_self (a : CArray α) {i : ℕ} (x : α) (h : i < a.slots.length) :
    (a.write i x).at? i = some x := by
  simp [at?, write, h]

lemma at?_write_of_ne (a : CArray α) {i j : ℕ} (x : α) (h : j ≠ i) :
    (a.write i x).at? j = a.at? j := by
  simp [at?, write, List.getElem?_set_ne h.symm]

/-- What is in a slot after something has been written to one. -/
lemma at?_write_cases {a : CArray α} {i j : ℕ} {x y : α} (h : (a.write i x).at? j = some y) :
    (j = i ∧ y = x) ∨ a.at? j = some y := by
  by_cases hji : j = i
  · have hlt := lt_of_at? h
    rw [write, List.length_set, hji] at hlt
    rw [hji, at?_write_self a x hlt] at h
    exact .inl ⟨hji, (Option.some.inj h).symm⟩
  · rw [at?_write_of_ne a x hji] at h
    exact .inr h

lemma write_write (a : CArray α) (i : ℕ) (x y : α) : (a.write i x).write i y = a.write i y := by
  simp [write]

/-- The storage that `append` writes to: enough of it, with the same elements. -/
lemma append_eq (a : CArray α) (x : α) : ∃ a' : CArray α,
    a.append x = { a'.write a.length x with length := a.length + 1 } ∧
    a'.capacity = (if a.length = a.capacity then a.capacity * 2 else a.capacity) ∧
    (a.slots.length = a.capacity → a'.slots.length = a'.capacity ∧ ∀ i, a'.at? i = a.at? i) := by
  by_cases h : a.length = a.capacity
  · refine ⟨{ a.srealloc (a.capacity * 2) with capacity := a.capacity * 2 }, ?_, ?_, ?_⟩
    · simp [append, h, write, srealloc]
    · simp [h]
    · intro hs
      have hle : a.slots.length ≤ a.capacity * 2 := by omega
      exact ⟨length_slots_srealloc a hle, fun i => at?_srealloc a hle⟩
  · exact ⟨a, by simp [append, h, write], by simp [h], fun hs => ⟨hs, fun _ => rfl⟩⟩

/-- A fresh array holds cleared elements, and nothing behind its slots. -/
lemma at?_arrayNew [CZero α] (capacity i : ℕ) :
    (arrayNew α capacity).at? i = none ∨ (arrayNew α capacity).at? i = some CZero.zero := by
  simp only [at?, arrayNew, List.getElem?_replicate]
  generalize (if capacity < INIT_CAP then INIT_CAP else capacity) = cap
  by_cases hi : i < cap
  · rw [if_pos hi]
    exact .inr rfl
  · rw [if_neg hi]
    exact .inl rfl

/-- `append` appends to the list that the array holds. -/
lemma Holds.append {a : CArray α} {l : List α} (h : Holds a l) (x : α) :
    Holds (a.append x) (l ++ [x]) := by
  obtain ⟨a', heq, hcap, hstore⟩ := append_eq a x
  obtain ⟨hslots, hat⟩ := hstore h.slots_length
  have hlen := h.length_eq
  have hle := h.length_le
  have hinit := h.init_cap
  have hroom : a.length < a'.capacity := by
    simp only [INIT_CAP] at hinit
    split at hcap <;> omega
  rw [heq]
  refine ⟨by simp [hlen], by simpa [write] using hslots, ?_, hroom, fun i hi => ?_⟩
  · show INIT_CAP ≤ a'.capacity
    split at hcap <;> omega
  · change (a'.write a.length x).at? i = _
    rcases Nat.lt_or_ge i l.length with hi' | hi'
    · rw [at?_write_of_ne a' x (by omega), hat, h.at?_eq i hi', List.getElem_append_left hi']
    · obtain rfl : i = a.length := by simp at hi; omega
      rw [at?_write_self a' x (by omega)]
      simp [hlen]

/-- Writing an element of the list, or the slots behind it. -/
lemma Holds.write {a : CArray α} {l : List α} (h : Holds a l) (i : ℕ) (x : α) :
    Holds (a.write i x) (l.set i x) := by
  refine ⟨by simp [h.length_eq, CArray.write], by simp [h.slots_length, CArray.write],
    h.init_cap, h.length_le, fun j hj => ?_⟩
  rw [List.length_set] at hj
  by_cases hij : j = i
  · subst hij
    have := h.length_eq
    have := h.length_le
    have := h.slots_length
    rw [at?_write_self a x (by omega)]
    simp
  · rw [at?_write_of_ne a x hij, h.at?_eq j hj, List.getElem_set_ne (Ne.symm hij)]

/-- Writing all elements, by their number. -/
def mapIdx (a : CArray α) (f : ℕ → α → α) : CArray α :=
  { a with slots := a.slots.mapIdx fun i x => if i < a.length then x.map (f i) else x }

lemma Holds.mapIdx {a : CArray α} {l : List α} (h : Holds a l) (f : ℕ → α → α) :
    Holds (a.mapIdx f) (l.mapIdx f) := by
  have hlen := h.length_eq
  refine ⟨by simp [CArray.mapIdx, hlen], by simp [CArray.mapIdx, h.slots_length], h.init_cap,
    h.length_le, fun i hi => ?_⟩
  rw [List.length_mapIdx] at hi
  have hat := h.at?_eq i hi
  rw [at?, Option.join_eq_some_iff] at hat
  rw [at?, CArray.mapIdx, List.getElem?_mapIdx, hat, List.getElem_mapIdx]
  simp [hlen, hi]

/-- The array of what the elements stand for. -/
def map {β : Type} (f : α → β) (a : CArray α) : CArray β :=
  { a with slots := a.slots.map (Option.map f) }

lemma Holds.map {β : Type} {a : CArray α} {l : List α} (h : Holds a l) (f : α → β) :
    Holds (a.map f) (l.map f) := by
  refine ⟨by rw [List.length_map]; exact h.length_eq, ?_, h.init_cap, h.length_le, fun i hi => ?_⟩
  · rw [CArray.map, List.length_map]
    exact h.slots_length
  · rw [List.length_map] at hi
    have hat := h.at?_eq i hi
    rw [at?, Option.join_eq_some_iff] at hat
    rw [at?, CArray.map, List.getElem?_map, hat, List.getElem_map]
    rfl

/-- Writing through a pointer to the first element leaves the other ones alone. -/
lemma Holds.poke_zero {a : CArray α} {x : α} {l : List α} (h : Holds a (x :: l)) (block : ℕ)
    (f : α → α) : ∃ y, Holds (a.poke ⟨block, 0⟩ f) (y :: l) := by
  by_cases hblock : block = a.block
  · have hx : a.at? 0 = some x := h.at?_eq 0 (Nat.succ_pos _)
    refine ⟨f x, ?_⟩
    rw [poke_of_eq hblock hx]
    exact h.write 0 (f x)
  · refine ⟨x, ?_⟩
    rw [poke_of_ne hblock]
    exact h

/-! ### Where the elements are -/

/-- What appending does to the storage: as long as the elements fit into the slots that there were,
it stays where it is, and after that it has moved. -/
structure GrowsTo (a a' : CArray α) : Prop where
  length_le : a.length ≤ a'.length
  stays : a'.length ≤ a.capacity → a'.block = a.block ∧ a'.capacity = a.capacity
  moves : a.capacity < a'.length → a.block < a'.block

lemma GrowsTo.refl {a : CArray α} (h : a.length ≤ a.capacity) : a.GrowsTo a :=
  ⟨le_rfl, fun _ => ⟨rfl, rfl⟩, fun h' => absurd h' (not_lt.mpr h)⟩

lemma GrowsTo.trans {a a' a'' : CArray α} (h : a.GrowsTo a') (h' : a'.GrowsTo a'') :
    a.GrowsTo a'' := by
  have hblock : a'.block ≤ a''.block := by
    rcases le_or_gt a''.length a'.capacity with hle | hlt
    · exact (h'.stays hle).1.ge
    · exact (h'.moves hlt).le
  refine ⟨h.length_le.trans h'.length_le, fun hle => ?_, fun hlt => ?_⟩
  · obtain ⟨hb, hc⟩ := h.stays (h'.length_le.trans hle)
    obtain ⟨hb', hc'⟩ := h'.stays (by rwa [hc])
    exact ⟨hb'.trans hb, hc'.trans hc⟩
  · rcases le_or_gt a'.length a.capacity with hle | hlt'
    · obtain ⟨hb, hc⟩ := h.stays hle
      rw [← hb]
      exact h'.moves (by rwa [hc])
    · exact lt_of_lt_of_le (h.moves hlt') hblock

lemma Holds.growsTo_write {a : CArray α} {l : List α} (h : Holds a l) (i : ℕ) (x : α) :
    a.GrowsTo (a.write i x) :=
  ⟨le_rfl, fun _ => ⟨rfl, rfl⟩, fun h' => absurd h' (not_lt.mpr h.length_le)⟩

lemma Holds.growsTo_append {a : CArray α} {l : List α} (h : Holds a l) (x : α) :
    a.GrowsTo (a.append x) := by
  have hle := h.length_le
  have hlength : (a.append x).length = a.length + 1 := by
    rw [(h.append x).length_eq, h.length_eq, List.length_append, List.length_singleton]
  by_cases hfull : a.length = a.capacity
  · have hblock : (a.append x).block = a.block + 1 := by
      simp only [CArray.append, if_pos hfull]
      rfl
    exact ⟨by omega, fun h' => by omega, fun _ => by omega⟩
  · have happend : (a.append x).block = a.block ∧ (a.append x).capacity = a.capacity := by
      rw [CArray.append, if_neg hfull]
      exact ⟨rfl, rfl⟩
    exact ⟨by omega, fun _ => happend, fun h' => by omega⟩

/-! ### Arrays with holes -/

/-- The invariant of an array that `set` fills. -/
structure Wf (a : CArray α) : Prop where
  slots_length : a.slots.length = a.capacity
  length_le : a.length ≤ a.capacity

lemma wf_arrayNew [CZero α] (capacity : ℕ) : Wf (arrayNew α capacity) :=
  ⟨(holds_arrayNew capacity).slots_length, (holds_arrayNew capacity).length_le⟩

lemma Wf.write {a : CArray α} (h : Wf a) (i : ℕ) (x : α) : Wf (a.write i x) :=
  ⟨by simpa [CArray.write] using h.slots_length, h.length_le⟩

/-- `set` at an index whose successor is a `size_t` stores the element in a storage that keeps the
other ones. -/
lemma set_eq {a : CArray α} (h : Wf a) {i : ℕ} (hi : i + 1 < 2 ^ 64) (x : α) :
    ∃ a' : CArray α, a.set i x = some { a'.write i x with length := max a.length (i + 1) } ∧
      a'.capacity = max a.capacity (i + 1) ∧ a'.slots.length = a'.capacity ∧
      ∀ j, a'.at? j = a.at? j := by
  have hlen := h.length_le
  have hslots := h.slots_length
  by_cases hc : i ≥ a.capacity
  · have hle : a.slots.length ≤ i + 1 := by omega
    refine ⟨{ a.srealloc (i + 1) with capacity := i + 1 }, ?_, ?_, ?_, fun j => at?_srealloc a hle⟩
    · rw [show max a.length (i + 1) = i + 1 by omega]
      simp only [set, if_pos hc, Nat.mod_eq_of_lt hi, if_neg (Nat.succ_ne_zero i)]
      rfl
    · show i + 1 = _
      omega
    · exact length_slots_srealloc a hle
  · refine ⟨a, ?_, by omega, hslots, fun _ => rfl⟩
    simp only [set, hc, if_false, write]
    split <;> simp <;> omega

/-- **What `set` does**: it stores the element, keeps the other ones, and the length covers every
index written so far. -/
lemma set_spec {a : CArray α} (h : Wf a) {i : ℕ} (hi : i + 1 < 2 ^ 64) (x : α) :
    ∃ a', a.set i x = some a' ∧ Wf a' ∧ a'.length = max a.length (i + 1) ∧
      a'.capacity = max a.capacity (i + 1) ∧ a'.at? i = some x ∧
      ∀ j, j ≠ i → a'.at? j = a.at? j := by
  obtain ⟨a', heq, hcap, hslots, hat⟩ := set_eq h hi x
  have := h.length_le
  refine ⟨_, heq, ⟨by simpa [write] using hslots, ?_⟩, rfl, hcap, ?_, fun j hj => ?_⟩
  · show max a.length (i + 1) ≤ a'.capacity
    omega
  · exact at?_write_self a' x (by omega)
  · rw [← hat]
    exact at?_write_of_ne a' x hj

/-- Whatever the index, `set` leaves the array well formed. -/
lemma Wf.set {a a' : CArray α} {i : ℕ} {x : α} (h : Wf a) (hset : a.set i x = some a') : Wf a' := by
  have hslots := h.slots_length
  have hle := h.length_le
  rw [CArray.set] at hset
  split at hset
  next =>
    simp only at hset
    split at hset
    next => cases hset
    next =>
      cases hset
      refine ⟨?_, le_rfl⟩
      simp only [srealloc, List.length_set, List.length_append, List.length_take,
        List.length_replicate]
      omega
  next hlt =>
    cases hset
    refine ⟨?_, ?_⟩
    · simpa using hslots
    · simp only
      split <;> omega

end CArray

/-! ### Arrays filled by `append` -/

/-- An array together with the list it holds. -/
structure FullArray (α : Type) where
  toCArray : CArray α
  toList : List α
  holds : toCArray.Holds toList

namespace FullArray

variable {α : Type}

/-- `array_new`. -/
def arrayNew (α : Type) [CZero α] (capacity : ℕ) : FullArray α :=
  ⟨.arrayNew α capacity, [], CArray.holds_arrayNew capacity⟩

/-- `append`. -/
def append (a : FullArray α) (x : α) : FullArray α :=
  ⟨a.toCArray.append x, a.toList ++ [x], a.holds.append x⟩

/-- Writing the element number `i`, or a slot behind the last element, through a pointer. -/
def write (a : FullArray α) (i : ℕ) (x : α) : FullArray α :=
  ⟨a.toCArray.write i x, a.toList.set i x, a.holds.write i x⟩

/-- Writing all elements, by their number. -/
def mapIdx (a : FullArray α) (f : ℕ → α → α) : FullArray α :=
  ⟨a.toCArray.mapIdx f, a.toList.mapIdx f, a.holds.mapIdx f⟩

/-- The array of what the elements stand for. -/
def map {β : Type} (f : α → β) (a : FullArray α) : FullArray β :=
  ⟨a.toCArray.map f, a.toList.map f, a.holds.map f⟩

/-- The length field. -/
def length (a : FullArray α) : ℕ := a.toCArray.length

/-- `get`: the index of the slot pointed to. -/
def get (a : FullArray α) (i : ℕ) : Option ℕ := a.toCArray.get i

/-- The slot number `i` read through a fresh pointer: `none` outside the allocation, and `junk`
where nothing has been written since the allocation. -/
def slot (a : FullArray α) (junk : α) (i : ℕ) : Option α :=
  (a.toCArray.slots[i]?).map fun x => x.getD junk

@[simp] lemma toList_arrayNew (α : Type) [CZero α] (capacity : ℕ) :
    (arrayNew α capacity).toList = [] := rfl

@[simp] lemma toList_append (a : FullArray α) (x : α) :
    (a.append x).toList = a.toList ++ [x] := rfl

@[simp] lemma toList_write (a : FullArray α) (i : ℕ) (x : α) :
    (a.write i x).toList = a.toList.set i x := rfl

@[simp] lemma toList_mapIdx (a : FullArray α) (f : ℕ → α → α) :
    (a.mapIdx f).toList = a.toList.mapIdx f := rfl

@[simp] lemma length_eq (a : FullArray α) : a.length = a.toList.length := a.holds.length_eq

/-- Arrays with the same fields that hold the same list are the same. -/
lemma ext {a b : FullArray α} (hfields : a.toCArray = b.toCArray) (hlist : a.toList = b.toList) :
    a = b := by
  cases a
  cases b
  subst hfields hlist
  rfl

/-- Writing what is there. -/
lemma write_eq_self {a : FullArray α} {i : ℕ} {x : α} (h : a.toList[i]? = some x) :
    a.write i x = a := by
  obtain ⟨hi, hx⟩ := List.getElem?_eq_some_iff.mp h
  have hat := a.holds.at?_eq i hi
  rw [CArray.at?, Option.join_eq_some_iff, hx] at hat
  obtain ⟨hslot, hval⟩ := List.getElem?_eq_some_iff.mp hat
  refine ext ?_ ?_
  · show a.toCArray.write i x = a.toCArray
    rw [CArray.write, ← hval, List.set_getElem_self]
  · rw [toList_write, ← hx, List.set_getElem_self]

/-- What the elements stand for, when one is written. -/
lemma map_write {β : Type} (f : α → β) (a : FullArray α) (i : ℕ) (x : α) :
    (a.write i x).map f = (a.map f).write i (f x) := by
  refine ext ?_ ?_
  · show (a.toCArray.write i x).map f = (a.toCArray.map f).write i (f x)
    rw [CArray.map, CArray.write, CArray.write, CArray.map, List.map_set]
    rfl
  · exact List.map_set

/-- And when one is appended. -/
lemma map_append {β : Type} (f : α → β) (a : FullArray α) (x : α) :
    (a.append x).map f = (a.map f).append (f x) := by
  refine ext ?_ List.map_append
  show (a.toCArray.append x).map f = (a.toCArray.map f).append (f x)
  rw [CArray.append, CArray.append]
  by_cases h : a.toCArray.length = a.toCArray.capacity
  · simp [CArray.map, CArray.srealloc, h, List.map_set, List.map_take]
  · simp [CArray.map, h, List.map_set]

/-- What a pointer reads then. -/
lemma deref_map {β : Type} (f : α → β) (a : FullArray α) (p : Ptr) :
    (a.map f).toCArray.deref p = (a.toCArray.deref p).map f := by
  show (a.toCArray.map f).deref p = _
  rw [CArray.deref, CArray.deref, CArray.at?, CArray.at?, CArray.map, List.getElem?_map]
  split
  · cases a.toCArray.slots[p.index]? <;> rfl
  · rfl

/-- An element of the list is read through a fresh pointer. -/
lemma deref_addr {a : FullArray α} {i : ℕ} {x : α} (h : a.toList[i]? = some x) :
    a.toCArray.deref (a.toCArray.addr i) = some x := by
  obtain ⟨hi, rfl⟩ := List.getElem?_eq_some_iff.mp h
  rw [CArray.deref, CArray.addr, if_pos rfl, a.holds.at?_eq i hi]

lemma at?_eq_some {a : FullArray α} {i : ℕ} {x : α} (h : a.toList[i]? = some x) :
    a.toCArray.at? i = some x := by
  obtain ⟨hi, rfl⟩ := List.getElem?_eq_some_iff.mp h
  exact a.holds.at?_eq i hi

/-- What a slot of the list holds is the element. -/
lemma getElem?_of_at? {a : FullArray α} {i : ℕ} {x : α} (h : a.toCArray.at? i = some x)
    (hi : i < a.toList.length) : a.toList[i]? = some x := by
  rw [List.getElem?_eq_getElem hi, ← h, a.holds.at?_eq i hi]

/-- What `append` writes, and that it leaves the other slots alone, also those behind. -/
lemma at?_append (a : FullArray α) (x : α) (i : ℕ) :
    (a.append x).toCArray.at? i = if i = a.toList.length then some x else a.toCArray.at? i := by
  obtain ⟨a', heq, -, hstore⟩ := CArray.append_eq a.toCArray x
  have hlength := a.holds.length_eq
  split
  next hi =>
    have hlt : a.toList.length < (a.append x).toList.length := by simp
    rw [hi, (a.append x).holds.at?_eq _ hlt]
    simp
  next hi =>
    change (a.toCArray.append x).at? i = _
    rw [heq, ← (hstore a.holds.slots_length).2 i]
    exact CArray.at?_write_of_ne a' x (by omega)

/-- What writing through a pointer does to the slots. -/
lemma at?_write (a : FullArray α) (x : α) {i : ℕ} (h : i < a.toCArray.slots.length) (j : ℕ) :
    (a.write i x).toCArray.at? j = if j = i then some x else a.toCArray.at? j := by
  split
  next hj =>
    rw [hj]
    exact CArray.at?_write_self a.toCArray x h
  next hj => exact CArray.at?_write_of_ne a.toCArray x hj

/-- What is written through a pointer is read through it. -/
lemma deref_write {a : FullArray α} {p : Ptr} {x : α} (h : a.toCArray.deref p = some x) (y : α) :
    (a.write p.index y).toCArray.deref p = some y := by
  rw [CArray.deref] at h
  split at h
  next hblock =>
    have hblock' : p.block = (a.write p.index y).toCArray.block := hblock
    rw [CArray.deref_of_eq hblock', at?_write a y (CArray.lt_of_at? h), if_pos rfl]
  next => cases h

/-- The elements are in the slots. -/
lemma length_le_slots (a : FullArray α) : a.toList.length ≤ a.toCArray.slots.length := by
  rw [a.holds.slots_length, ← a.holds.length_eq]
  exact a.holds.length_le

/-- A slot that is read through a fresh pointer holds a value or `junk`. -/
lemma slot_eq_some {a : FullArray α} {junk x : α} {i : ℕ} (h : a.slot junk i = some x) :
    i < a.toCArray.slots.length ∧ (a.toCArray.at? i).getD junk = x := by
  obtain ⟨y, hy, rfl⟩ := Option.map_eq_some_iff.mp h
  refine ⟨(List.getElem?_eq_some_iff.mp hy).1, ?_⟩
  rw [CArray.at?, hy, Option.join_some]

/-- `get` hands out a pointer to every element, and one past the last. -/
lemma get_eq_some {a : FullArray α} {i : ℕ} (h : i ≤ a.toList.length) : a.get i = some i := by
  have := a.holds.length_eq
  rw [get, CArray.get, if_neg (by omega)]

end FullArray

end Megaphone
