import Mathlib.Tactic

/-!
Byte memories: the part of C's `memcpy` and `memset` that a proof about buffers needs.

A memory is a total function from offsets to values.  The bounds of a C object are not part of
it: whoever writes into an object of `n` bytes compares the written range with `n`.

* `read m off len`: the `len` values from the offset `off` on, as a list.
* `write m off bs`: the memory after copying the list `bs` to the offset `off`
  (`memcpy`, `recv`), and `fill m off len v` after setting a range (`memset`).
* `read_write_self`, `read_write_of_le`, `read_write_append`: what a read sees of an
  earlier write, at the same range, before it and up to its end.
* `ofList l d`: the memory that holds `l` at the offset `0` and `d` behind it.
* `HoldsAt m off ls`: the lists `ls` stand one behind the other from `off` on;
  `read_flatten_iff` says that reading all of them at once is reading each in turn.
-/

namespace Memory

variable {α : Type*}

/-- The `len` values of the memory `m` from the offset `off` on. -/
def read (m : ℕ → α) (off len : ℕ) : List α :=
  (List.range len).map fun i => m (off + i)

/-- The memory `m` after copying `bs` to the offset `off`. -/
def write (m : ℕ → α) (off : ℕ) (bs : List α) : ℕ → α :=
  fun i => if off ≤ i then (bs[i - off]?).getD (m i) else m i

/-- The memory `m` after setting the `len` values from `off` on to `v`. -/
def fill (m : ℕ → α) (off len : ℕ) (v : α) : ℕ → α :=
  fun i => if off ≤ i ∧ i < off + len then v else m i

/-- The memory that holds `l` at the offset `0` and the value `d` behind it. -/
def ofList (l : List α) (d : α) : ℕ → α :=
  fun i => (l[i]?).getD d

/-! ### Reading -/

@[simp] lemma length_read (m : ℕ → α) (off len : ℕ) : (read m off len).length = len := by
  simp [read]

@[simp] lemma read_zero (m : ℕ → α) (off : ℕ) : read m off 0 = [] := rfl

lemma getElem?_read (m : ℕ → α) (off : ℕ) {len i : ℕ} (h : i < len) :
    (read m off len)[i]? = some (m (off + i)) := by
  simp [read, h]

lemma read_append (m : ℕ → α) (off a b : ℕ) :
    read m off (a + b) = read m off a ++ read m (off + a) b := by
  simp [read, List.range_add, Function.comp_def, Nat.add_assoc]

lemma take_read (m : ℕ → α) (off : ℕ) {k n : ℕ} (h : k ≤ n) :
    (read m off n).take k = read m off k := by
  rw [← Nat.add_sub_cancel' h, read_append, List.take_left' (length_read m off k)]

/-- Two memories that agree on a range read alike there. -/
lemma read_congr {m m' : ℕ → α} {off len : ℕ} (h : ∀ i, off ≤ i → i < off + len → m i = m' i) :
    read m off len = read m' off len := by
  refine List.map_congr_left fun i hi => h _ (by omega) ?_
  have := List.mem_range.mp hi
  omega

/-- Memories that read alike agree on the range. -/
lemma eq_of_read_eq {m m' : ℕ → α} {n i : ℕ} (h : read m 0 n = read m' 0 n) (hi : i < n) :
    m i = m' i := by
  have hget := getElem?_read m 0 hi
  rw [h, getElem?_read m' 0 hi, Nat.zero_add] at hget
  exact (Option.some.inj hget).symm

lemma read_eq_of_le {m m' : ℕ → α} {k n : ℕ} (h : read m 0 n = read m' 0 n) (hk : k ≤ n) :
    read m 0 k = read m' 0 k :=
  read_congr fun i _ hi => eq_of_read_eq h (by omega)

/-! ### Writing -/

lemma write_of_lt (m : ℕ → α) {off i : ℕ} (bs : List α) (h : i < off) : write m off bs i = m i := by
  rw [write, if_neg (by omega)]

lemma write_of_ge (m : ℕ → α) {off i : ℕ} (bs : List α) (h : off + bs.length ≤ i) :
    write m off bs i = m i := by
  rw [write, if_pos (by omega), List.getElem?_eq_none (by omega), Option.getD_none]

lemma write_add (m : ℕ → α) (off : ℕ) {bs : List α} {i : ℕ} (h : i < bs.length) :
    write m off bs (off + i) = bs[i] := by
  rw [write, if_pos (by omega), Nat.add_sub_cancel_left, List.getElem?_eq_getElem h,
    Option.getD_some]

lemma write_nil (m : ℕ → α) (off : ℕ) : write m off [] = m := by
  funext i
  simp [write]

lemma write_cons (m : ℕ → α) (off : ℕ) (a : α) (bs : List α) :
    write (write m off [a]) (off + 1) bs = write m off (a :: bs) := by
  funext i
  rcases lt_trichotomy i off with h | rfl | h
  · rw [write_of_lt _ _ (by omega), write_of_lt _ _ h, write_of_lt _ _ h]
  · rw [write_of_lt _ _ (by omega)]
    simp [write]
  · obtain ⟨k, rfl⟩ : ∃ k, i = off + 1 + k := ⟨i - (off + 1), by omega⟩
    have hkeep : write m off [a] (off + 1 + k) = m (off + 1 + k) :=
      write_of_ge m [a] (by simp)
    rw [write, if_pos (by omega), hkeep, write, if_pos (by omega),
      show off + 1 + k - (off + 1) = k by omega, show off + 1 + k - off = k + 1 by omega,
      List.getElem?_cons_succ]

/-- A read of the written range returns what was written. -/
@[simp] lemma read_write_self (m : ℕ → α) (off : ℕ) (bs : List α) :
    read (write m off bs) off bs.length = bs := by
  refine List.ext_getElem (by simp) fun i h₁ h₂ => ?_
  simp only [read, List.getElem_map, List.getElem_range]
  exact write_add m off h₂

/-- A read in front of the written range does not see the write. -/
lemma read_write_of_le (m : ℕ → α) {off off' len : ℕ} (bs : List α) (h : off + len ≤ off') :
    read (write m off' bs) off len = read m off len :=
  read_congr fun i _ h₂ => write_of_lt m bs (by omega)

/-- Nor does a read behind it. -/
lemma read_write_of_ge (m : ℕ → α) {off off' len : ℕ} (bs : List α) (h : off' + bs.length ≤ off) :
    read (write m off' bs) off len = read m off len :=
  read_congr fun i h₁ _ => write_of_ge m bs (by omega)

/-- Appending behind what has been written so far. -/
lemma read_write_append (m : ℕ → α) (n : ℕ) (bs : List α) :
    read (write m n bs) 0 (n + bs.length) = read m 0 n ++ bs := by
  rw [read_append, read_write_of_le m bs (by omega), Nat.zero_add, read_write_self]

lemma fill_of_lt (m : ℕ → α) {off len i : ℕ} (v : α) (h : i < off) : fill m off len v i = m i := by
  rw [fill, if_neg (by omega)]

lemma fill_of_mem (m : ℕ → α) {off len i : ℕ} (v : α) (h₁ : off ≤ i) (h₂ : i < off + len) :
    fill m off len v i = v := by
  rw [fill, if_pos ⟨h₁, h₂⟩]

/-- What is read is the fill or what was there. -/
lemma fill_cases (m : ℕ → α) (off len : ℕ) (v : α) (i : ℕ) :
    fill m off len v i = v ∨ fill m off len v i = m i := by
  rw [fill]
  split
  · exact .inl rfl
  · exact .inr rfl

/-- A read in front of the filled range does not see it. -/
lemma read_fill_of_le (m : ℕ → α) {off off' len len' : ℕ} (v : α) (h : off + len ≤ off') :
    read (fill m off' len' v) off len = read m off len :=
  read_congr fun i _ h₂ => fill_of_lt m v (by omega)

/-- A read within the filled range sees only the fill. -/
lemma read_fill_self (m : ℕ → α) {off off' len len' : ℕ} (v : α) (h : off' ≤ off)
    (h' : off + len ≤ off' + len') : read (fill m off' len' v) off len = List.replicate len v := by
  have hconst : read (fun _ => v) off len = List.replicate len v := by simp [read]
  rw [← hconst]
  exact read_congr fun i h₁ h₂ => fill_of_mem m v (h.trans h₁) (lt_of_lt_of_le h₂ h')

/-! ### Memories given by a list -/

@[simp] lemma ofList_nil (d : α) : ofList [] d = fun _ => d := by
  funext i
  simp [ofList]

lemma ofList_of_lt {l : List α} (d : α) {i : ℕ} (h : i < l.length) : ofList l d i = l[i] := by
  rw [ofList, List.getElem?_eq_getElem h, Option.getD_some]

lemma ofList_of_ge {l : List α} (d : α) {i : ℕ} (h : l.length ≤ i) : ofList l d i = d := by
  rw [ofList, List.getElem?_eq_none h, Option.getD_none]

/-- The memory of a list reads as the list. -/
@[simp] lemma read_ofList (l : List α) (d : α) : read (ofList l d) 0 l.length = l := by
  refine List.ext_getElem (by simp) fun i h₁ h₂ => ?_
  simp only [read, List.getElem_map, List.getElem_range, Nat.zero_add]
  exact ofList_of_lt d h₂

lemma read_ofList_drop (l : List α) (d : α) {n : ℕ} (_h : n ≤ l.length) :
    read (ofList l d) n (l.length - n) = l.drop n := by
  refine List.ext_getElem (by simp) fun i h₁ h₂ => ?_
  simp only [read, List.getElem_map, List.getElem_range, List.getElem_drop]
  exact ofList_of_lt d _

/-- Writing behind a list appends to it. -/
lemma write_ofList (l bs : List α) (d : α) :
    write (ofList l d) l.length bs = ofList (l ++ bs) d := by
  funext i
  rcases lt_or_ge i l.length with h | h
  · rw [write_of_lt _ bs h, ofList_of_lt d h, ofList_of_lt d (by simp; omega),
      List.getElem_append_left h]
  · rw [write, if_pos h, ofList, ofList, List.getElem?_append_right h,
      List.getElem?_eq_none h, Option.getD_none]

lemma ofList_read (m : ℕ → α) (d : α) {n i : ℕ} (h : i < n) : ofList (read m 0 n) d i = m i := by
  rw [ofList, getElem?_read m 0 h, Option.getD_some, Nat.zero_add]

/-- A memory that is constant behind `n` is the memory of its first `n` values. -/
lemma eq_ofList_read {m : ℕ → α} {d : α} {n : ℕ} (h : ∀ i, n ≤ i → m i = d) :
    m = ofList (read m 0 n) d := by
  funext i
  rcases lt_or_ge i n with hi | hi
  · rw [ofList, getElem?_read m 0 hi, Option.getD_some, Nat.zero_add]
  · rw [ofList_of_ge d (by simpa using hi), h i hi]

/-! ### Lists one behind the other -/

/-- The memory `m` holds the lists `ls` one behind the other from the offset `off` on. -/
def HoldsAt (m : ℕ → α) : ℕ → List (List α) → Prop
  | _, [] => True
  | off, l :: ls => read m off l.length = l ∧ HoldsAt m (off + l.length) ls

/-- Reading lists that stand one behind the other. -/
lemma read_flatten_iff (m : ℕ → α) (off : ℕ) (ls : List (List α)) :
    read m off ls.flatten.length = ls.flatten ↔ HoldsAt m off ls := by
  induction ls generalizing off with
  | nil => simp [HoldsAt]
  | cons l ls ih =>
      rw [List.flatten_cons, List.length_append, read_append, HoldsAt, ← ih]
      constructor
      · intro h
        exact List.append_inj h (by simp)
      · rintro ⟨h₁, h₂⟩
        rw [h₁, h₂]

/-- Lists of which all but the last have the length `n` stand one behind the other when each of them
stands at a multiple of `n`. -/
lemma holdsAt_of_blocks {m : ℕ → α} {n : ℕ} {ls : List (List α)} :
    ∀ {off : ℕ}, (∀ l ∈ ls.dropLast, l.length = n) →
      (∀ i (h : i < ls.length), read m (off + i * n) ls[i].length = ls[i]) → HoldsAt m off ls := by
  induction ls with
  | nil => exact fun _ _ => trivial
  | cons l ls ih =>
      intro off hlen hread
      have hhead : read m off l.length = l := by simpa using hread 0 (Nat.succ_pos _)
      refine ⟨hhead, ?_⟩
      cases ls with
      | nil => trivial
      | cons l' ls =>
          have hl : l.length = n := hlen l (by simp)
          refine ih (fun x hx => hlen x (by simp at hx ⊢; exact .inr hx)) fun i hi => ?_
          have hi' : i + 1 < (l :: l' :: ls).length := Nat.succ_lt_succ hi
          have hshift := hread (i + 1) hi'
          rw [List.getElem_cons_succ, Nat.add_one_mul, Nat.add_comm (i * n), ← Nat.add_assoc]
            at hshift
          rwa [hl]

end Memory
