import Megaphone.Client.Display

/-!
The texts of the posts that `print_last_post` displays.

* `layout`, `removeBreaks`: a text with its line breaks, and without them.
* `Copies`, `getDataLoop_copies`: what the loop of `get_data` copies.
* `writes_inside_iff`, `reads_inside_iff`, `shows_text_iff`: for which posts `get_data` keeps to its
  arrays, and for which it shows the text.
* `no_post_displayed_whole`: there is no post for which it does all of this.
-/

namespace Megaphone

open Memory

namespace Client

/-! ### Line breaks -/

/-- The index in `dst` of the byte number `k` of `data`. -/
def posOf (k : ℕ) : ℕ := k + (k - 1) / 33 * 2

/-- A break follows at the indices that the loop looks for. -/
lemma posOf_succ (k : ℕ) :
    posOf (k + 1) = if (posOf k + 1 + 1) % 35 = 0 then posOf k + 1 + 2 else posOf k + 1 := by
  have hk : posOf k = k + (k - 1) / 33 * 2 := rfl
  have hsucc : posOf (k + 1) = k + 1 + k / 33 * 2 := rfl
  split
  · omega
  · omega

/-- What the loop makes of the first `k` bytes. -/
def layout (data : ℕ → UInt8) : ℕ → List UInt8
  | 0 => []
  | k + 1 =>
      if (posOf k + 1 + 1) % 35 = 0 then layout data k ++ [data k, 10, 32]
      else layout data k ++ [data k]

lemma length_layout (data : ℕ → UInt8) (k : ℕ) : (layout data k).length = posOf k := by
  induction k with
  | zero => rfl
  | succ k ih =>
      rw [layout, posOf_succ]
      split
      · simp [ih]
      · simp [ih]

lemma prefix_layout (data : ℕ → UInt8) {j k : ℕ} (hjk : j ≤ k) :
    layout data j <+: layout data k := by
  induction k, hjk using Nat.le_induction with
  | base => exact List.prefix_rfl
  | succ k _ ih =>
      rw [layout]
      split
      · exact ih.trans (List.prefix_append _ _)
      · exact ih.trans (List.prefix_append _ _)

lemma prefix_layout_concat (data : ℕ → UInt8) (k : ℕ) :
    layout data k ++ [data k] <+: layout data (k + 1) := by
  rw [layout]
  split
  · exact ⟨[10, 32], List.append_assoc ..⟩
  · exact List.prefix_rfl

/-- An index at which the loop has put a part of a line break. -/
def isBreak (i : ℕ) : Bool := i % 35 == 34 || (i % 35 == 0 && i != 0)

/-- The string without the line breaks. -/
def removeBreaks (str : List UInt8) : List UInt8 :=
  (str.zipIdx.filter fun c => !isBreak c.2).map Prod.fst

lemma removeBreaks_concat (str : List UInt8) (c : UInt8) :
    removeBreaks (str ++ [c]) =
      removeBreaks str ++ if isBreak str.length then [] else [c] := by
  rw [removeBreaks, List.zipIdx_append, List.filter_append, List.map_append, removeBreaks]
  cases h : isBreak str.length <;> simp [h]

lemma length_removeBreaks_le (str : List UInt8) : (removeBreaks str).length ≤ str.length := by
  rw [removeBreaks, List.length_map]
  exact (List.length_filter_le _ _).trans (List.length_zipIdx ..).le

lemma isBreak_posOf (k : ℕ) : isBreak (posOf k) = false := by
  simp only [isBreak, posOf, Bool.or_eq_false_iff, Bool.and_eq_false_iff, beq_eq_false_iff_ne,
    bne_eq_false_iff_eq]
  omega

/-- **Without the line breaks** it is the bytes. -/
lemma removeBreaks_layout (data : ℕ → UInt8) (k : ℕ) :
    removeBreaks (layout data k) = read data 0 k := by
  induction k with
  | zero => rfl
  | succ k ih =>
      have hcopy : removeBreaks (layout data k ++ [data k]) = read data 0 (k + 1) := by
        rw [removeBreaks_concat, length_layout, isBreak_posOf, ih, read_append, Nat.zero_add,
          read_one]
        rfl
      rw [layout]
      split
      next hbreak =>
        have h₁ : isBreak (posOf k + 1) = true := by
          simp only [isBreak, Bool.or_eq_true, beq_iff_eq]
          omega
        have h₂ : isBreak (posOf k + 1 + 1) = true := by
          simp [isBreak, hbreak]
        have hsplit : layout data k ++ [data k, 10, 32] =
            layout data k ++ [data k] ++ [10] ++ [32] := by simp
        rw [hsplit, removeBreaks_concat, removeBreaks_concat, hcopy]
        simp [length_layout, h₁, h₂]
      next => exact hcopy

lemma prefix_removeBreaks {str str' : List UInt8} (h : str <+: str') :
    removeBreaks str <+: removeBreaks str' := by
  obtain ⟨rest, rfl⟩ := h
  rw [removeBreaks, removeBreaks, List.zipIdx_append, List.filter_append, List.map_append]
  exact List.prefix_append _ _

lemma zero_notMem_layout {data : ℕ → UInt8} {k : ℕ} (h : 0 ∉ read data 0 k) :
    0 ∉ layout data k := by
  induction k with
  | zero => exact List.not_mem_nil
  | succ k ih =>
      rw [read_append, Nat.zero_add, read_one, List.mem_append, not_or] at h
      rw [layout]
      split
      · simpa using ⟨ih h.1, by simpa using h.2⟩
      · simpa using ⟨ih h.1, by simpa using h.2⟩

/-! ### Copying -/

/-- The bytes from `dst` on. -/
def Copy.mem (s : Copy) : ℕ → UInt8 := fun i => s.dst i

lemma Copy.mem_put (s : Copy) (i : ℕ) (c : UInt8) : (s.put i c).mem = write s.mem i [c] := by
  funext k
  show Function.update s.dst i c k = _
  rw [Function.update_apply]
  obtain hlt | rfl | hgt := lt_trichotomy k i
  · rw [if_neg (by omega), write_of_lt _ _ hlt, Copy.mem]
  · rw [if_pos rfl]
    simp [write]
  · rw [if_neg (by omega), write_of_ge _ _ (by simpa using hgt), Copy.mem]

lemma Copy.mem_reads (s : Copy) (l : List ℕ) : ({ s with reads := l } : Copy).mem = s.mem := rfl

/-- From `s` to `s'` the loop copies the bytes from number `j` on and in front of number `j'`. -/
structure Copies (data : ℕ → UInt8) (j j' : ℕ) (s s' : Copy) : Prop where
  layout_eq : read s.mem 0 (posOf j) = layout data j → read s'.mem 0 (posOf j') = layout data j'
  writes_iff : ∀ i : ℤ, i ∈ s'.writes ↔ i ∈ s.writes ∨ posOf j ≤ i ∧ i < posOf j'
  reads_iff : ∀ i, i ∈ s'.reads ↔ i ∈ s.reads ∨ j ≤ i ∧ i < j'

lemma posOf_le_posOf {j k : ℕ} (h : j ≤ k) : posOf j ≤ posOf k := by
  simp only [posOf]
  omega

lemma Copies.refl (data : ℕ → UInt8) (j : ℕ) (s : Copy) : Copies data j j s s :=
  ⟨id, fun _ => (or_iff_left (by omega)).symm, fun _ => (or_iff_left (by omega)).symm⟩

lemma Copies.trans {data : ℕ → UInt8} {j j' j'' : ℕ} {s s' s'' : Copy}
    (h : Copies data j j' s s') (h' : Copies data j' j'' s' s'') (hj : j ≤ j') (hj' : j' ≤ j'') :
    Copies data j j'' s s'' := by
  have hpos := posOf_le_posOf hj
  have hpos' := posOf_le_posOf hj'
  refine ⟨fun hlayout => h'.layout_eq (h.layout_eq hlayout), fun i => ?_, fun i => ?_⟩
  · rw [h'.writes_iff, h.writes_iff, or_assoc]
    exact or_congr_right (by omega)
  · rw [h'.reads_iff, h.reads_iff, or_assoc]
    exact or_congr_right (by omega)

/-- **One byte** is copied, with the line break behind it. -/
lemma getDataLoop_succ (data : ℕ → UInt8) (k j : ℕ) (s : Copy) :
    ∃ s₁, getDataLoop data (k + 1) j (posOf j) s =
        getDataLoop data k (j + 1) (posOf (j + 1)) s₁ ∧ Copies data j (j + 1) s s₁ := by
  rw [getDataLoop]
  have hpos := posOf_succ j
  split
  next hbreak =>
    rw [if_pos hbreak] at hpos
    refine ⟨_, by rw [hpos], fun hlayout => ?_, fun i => ?_, fun i => ?_⟩
    · rw [Copy.mem_put, Copy.mem_put, Copy.mem_reads, Copy.mem_put, write_cons, write_cons, hpos]
      exact (read_write_append ..).trans (by rw [hlayout, layout, if_pos hbreak])
    · simp only [Copy.put, List.mem_append, List.mem_singleton, hpos, or_assoc]
      exact or_congr_right (by omega)
    · simp only [Copy.put, List.mem_append, List.mem_singleton]
      exact or_congr_right (by omega)
  next hbreak =>
    rw [if_neg hbreak] at hpos
    refine ⟨_, by rw [hpos], fun hlayout => ?_, fun i => ?_, fun i => ?_⟩
    · rw [Copy.mem_reads, Copy.mem_put, hpos]
      exact (read_write_append ..).trans (by rw [hlayout, layout, if_neg hbreak])
    · simp only [Copy.put, List.mem_append, List.mem_singleton, hpos]
      exact or_congr_right (by omega)
    · simp only [List.mem_append, List.mem_singleton]
      exact or_congr_right (by omega)

/-- **The loop** copies the bytes, with the line breaks. -/
lemma getDataLoop_copies (data : ℕ → UInt8) (k j : ℕ) (s : Copy) :
    Copies data j (j + k) s (getDataLoop data k j (posOf j) s) := by
  induction k generalizing j s with
  | zero => exact .refl data j s
  | succ k ih =>
      obtain ⟨s₁, heq, hcopies⟩ := getDataLoop_succ data k j s
      rw [heq, ← Nat.add_assoc, Nat.add_right_comm]
      exact hcopies.trans (ih (j + 1) s₁) (Nat.le_succ j) (by omega)

/-! ### `get_data` -/

section

variable (dst : ℤ → UInt8) (data : ℕ → UInt8) (datalen : UInt8)

lemma mem_reads_getData {i : ℕ} : i ∈ (getData dst data datalen).reads ↔ i < datalen.toNat := by
  have h := (getDataLoop_copies data datalen.toNat 0 (.cleared dst datalen.toNat)).reads_iff i
  rw [Nat.zero_add] at h
  rw [getData]
  refine h.trans ?_
  simp [Copy.cleared]

lemma mem_writes_getData {i : ℤ} : i ∈ (getData dst data datalen).writes ↔
    0 ≤ i ∧ i < posOf datalen.toNat ∨ i = datalen.toNat - 1 := by
  have h := (getDataLoop_copies data datalen.toNat 0 (.cleared dst datalen.toNat)).writes_iff i
  have hclear : i ∈ (Copy.cleared dst datalen.toNat).writes ↔ 0 ≤ i ∧ i < datalen.toNat := by
    simp only [Copy.cleared, List.mem_map, List.mem_range]
    constructor
    · rintro ⟨k, hk, rfl⟩
      omega
    · rintro ⟨hpos, hlt⟩
      obtain ⟨k, rfl⟩ := Int.eq_ofNat_of_zero_le hpos
      exact ⟨k, by omega, rfl⟩
  have hle : datalen.toNat ≤ posOf datalen.toNat := Nat.le_add_right _ _
  have hzero : posOf 0 = 0 := rfl
  rw [Nat.zero_add, hclear, hzero] at h
  rw [getData, Copy.put, List.mem_append, List.mem_singleton]
  refine (or_congr_left h).trans ?_
  omega

variable {datalen}

/-- What is in front of the last byte, which is cleared. -/
lemma mem_getData (hpos : 0 < datalen.toNat) :
    read (getData dst data datalen).mem 0 (datalen.toNat - 1) =
        (layout data datalen.toNat).take (datalen.toNat - 1) ∧
      (getData dst data datalen).mem (datalen.toNat - 1) = 0 := by
  have h := (getDataLoop_copies data datalen.toNat 0 (.cleared dst datalen.toNat)).layout_eq rfl
  rw [Nat.zero_add] at h
  have hmem : (getData dst data datalen).mem =
      write (getDataLoop data datalen.toNat 0 0 (.cleared dst datalen.toNat)).mem
        (datalen.toNat - 1) [0] := by
    rw [← Copy.mem_put, getData]
    congr 2
    omega
  have hle : datalen.toNat - 1 ≤ posOf datalen.toNat := by
    simp only [posOf]
    omega
  rw [hmem]
  constructor
  · rw [read_write_of_le _ _ (by omega), ← h, take_read _ _ hle]
    rfl
  · simp [write]

end

/-! ### Posts -/

/-- `get_data` is called with the size of the array, cut off as a `uint8_t`. -/
lemma toNat_lenOf_of_le {datalen : UInt8} (h : datalen.toNat ≤ 231) :
    (UInt8.ofNat (lenOf datalen)).toNat = datalen.toNat + datalen.toNat / 10 + 1 := by
  have htenth : datalen.toNat / 10 ≤ 231 / 10 := Nat.div_le_div_right h
  rw [UInt8.toNat_ofNat', lenOf]
  omega

lemma toNat_lenOf_of_ge {datalen : UInt8} (h : 232 ≤ datalen.toNat) :
    (UInt8.ofNat (lenOf datalen)).toNat + 256 = datalen.toNat + datalen.toNat / 10 + 1 := by
  have hlt := datalen.toNat_lt
  have htenth : 232 / 10 ≤ datalen.toNat / 10 := Nat.div_le_div_right h
  rw [UInt8.toNat_ofNat', lenOf]
  omega

variable (junk : ℤ → UInt8) (lp : ServerRQLp)

/-- The array with the text of a post. -/
def textCopy : Copy := getData junk lp.data (UInt8.ofNat (lenOf lp.datalen))

/-- **Which writes are in the array**: those for the texts without a line break, and for those that
`datalen` is cut off for. -/
theorem writes_inside_iff :
    (∀ i ∈ (textCopy junk lp).writes, 0 ≤ i ∧ i < lenOf lp.datalen) ↔
      lp.datalen.toNat ≤ 29 ∨ 233 ≤ lp.datalen.toNat := by
  have hlt := lp.datalen.toNat_lt
  have hpos : posOf (UInt8.ofNat (lenOf lp.datalen)).toNat =
      (UInt8.ofNat (lenOf lp.datalen)).toNat +
        ((UInt8.ofNat (lenOf lp.datalen)).toNat - 1) / 33 * 2 := rfl
  have hlen : lenOf lp.datalen = lp.datalen.toNat + lp.datalen.toNat / 10 + 1 := rfl
  simp only [textCopy, mem_writes_getData]
  constructor
  · intro h
    by_contra hlong
    obtain hle | hge := le_or_gt lp.datalen.toNat 231
    · have hn := toNat_lenOf_of_le hle
      have hlast := h (posOf (UInt8.ofNat (lenOf lp.datalen)).toNat - 1) (.inl (by omega))
      omega
    · have hn := toNat_lenOf_of_ge hge
      have hend := h _ (.inr rfl)
      omega
  · rintro (hshort | hlong) i hi
    · have hn := toNat_lenOf_of_le (hshort.trans (by decide))
      omega
    · have hn := toNat_lenOf_of_ge (le_trans (by decide) hlong)
      omega

/-- **Which reads are in the text**: those for which `datalen` is cut off. -/
theorem reads_inside_iff :
    (∀ i ∈ (textCopy junk lp).reads, i < lp.datalen.toNat) ↔ 232 ≤ lp.datalen.toNat := by
  have hlt := lp.datalen.toNat_lt
  simp only [textCopy, mem_reads_getData]
  constructor
  · intro h
    by_contra hshort
    have hn := toNat_lenOf_of_le (Nat.le_of_lt_succ (not_le.mp hshort))
    exact lt_irrefl _ (h lp.datalen.toNat (by omega))
  · intro hlong i hi
    have hn := toNat_lenOf_of_ge hlong
    omega

/-- The array shows the text, between line breaks. -/
def ShowsText (s : Copy) (len : ℕ) (text : List UInt8) : Prop :=
  ∃ str, IsString s.mem len str ∧ removeBreaks str = text

lemma IsString.get {m : ℕ → UInt8} {n : ℕ} {str : List UInt8} (h : IsString m n str) :
    m str.length = 0 := by
  have hread := h.read_eq
  rw [read_append, Nat.zero_add, read_one] at hread
  exact List.singleton_inj.mp (List.append_inj' hread rfl).2

lemma IsString.read {m : ℕ → UInt8} {n : ℕ} {str : List UInt8} (h : IsString m n str) :
    Memory.read m 0 str.length = str := by
  have hread := h.read_eq
  rw [read_append] at hread
  exact (List.append_inj' hread rfl).1

/-- A string ends at the first zero. -/
lemma IsString.length_le {m : ℕ → UInt8} {n k : ℕ} {str : List UInt8} (h : IsString m n str)
    (hk : m k = 0) : str.length ≤ k := by
  by_contra hlt
  have hget := getElem?_read m 0 (not_le.mp hlt)
  rw [h.read, Nat.zero_add, hk] at hget
  exact h.zero_notMem (List.mem_of_getElem? hget)

/-- When `datalen` is cut off, the end of the text is missing. -/
lemma not_showsText (hlong : 233 ≤ lp.datalen.toNat) :
    ¬ShowsText (textCopy junk lp) (lenOf lp.datalen) (textOf lp.datalen lp.data) := by
  rintro ⟨str, hstr, htext⟩
  have hlt := lp.datalen.toNat_lt
  have hn := toNat_lenOf_of_ge (le_trans (by decide) hlong)
  have hend := hstr.length_le (mem_getData junk lp.data (by omega)).2
  have hle := length_removeBreaks_le str
  rw [htext, length_textOf] at hle
  omega

variable {lp}

/-- What is in the array of a text for which `datalen` is not cut off: the text with its line
breaks and what comes behind it in the post, up to the zero in the last byte. -/
lemma read_textCopy (hd : lp.datalen.toNat ≤ 231) {l : List UInt8}
    (hl : l <+: layout lp.data (lp.datalen.toNat + lp.datalen.toNat / 10 + 1))
    (hle : l.length ≤ lp.datalen.toNat + lp.datalen.toNat / 10) :
    read (textCopy junk lp).mem 0 l.length = l := by
  have hn := toNat_lenOf_of_le hd
  have hlen : 0 < (UInt8.ofNat (lenOf lp.datalen)).toNat := by omega
  obtain ⟨hread, -⟩ := mem_getData junk lp.data hlen
  rw [hn, Nat.add_sub_cancel] at hread
  calc read (textCopy junk lp).mem 0 l.length
      = ((layout lp.data _).take (lp.datalen.toNat + lp.datalen.toNat / 10)).take l.length := by
        rw [← hread, take_read _ 0 hle]
        rfl
    _ = (layout lp.data (lp.datalen.toNat + lp.datalen.toNat / 10 + 1)).take l.length := by
        rw [List.take_take, min_eq_left hle]
    _ = l := (List.prefix_iff_eq_take.mp hl).symm

lemma read_textCopy_layout (hd : lp.datalen.toNat ≤ 231) :
    read (textCopy junk lp).mem 0 (posOf lp.datalen.toNat) = layout lp.data lp.datalen.toNat := by
  have hpos : posOf lp.datalen.toNat = lp.datalen.toNat + (lp.datalen.toNat - 1) / 33 * 2 := rfl
  have hlen := length_layout lp.data lp.datalen.toNat
  have hread := read_textCopy junk hd
    (prefix_layout lp.data (show lp.datalen.toNat ≤ _ + _ / 10 + 1 by omega)) (by omega)
  rwa [hlen] at hread

/-- **The byte behind the text** is the one in the post, when there is room for it. -/
lemma mem_textCopy (hd : lp.datalen.toNat ≤ 231) :
    (textCopy junk lp).mem (posOf lp.datalen.toNat) =
      if lp.datalen.toNat ≤ 9 then 0 else lp.data lp.datalen.toNat := by
  have hpos : posOf lp.datalen.toNat = lp.datalen.toNat + (lp.datalen.toNat - 1) / 33 * 2 := rfl
  split
  next hshort =>
    have hn := toNat_lenOf_of_le hd
    have hlen : 0 < (UInt8.ofNat (lenOf lp.datalen)).toNat := by omega
    obtain ⟨-, hend⟩ := mem_getData junk lp.data hlen
    rw [hn, Nat.add_sub_cancel] at hend
    rw [show posOf lp.datalen.toNat = lp.datalen.toNat + lp.datalen.toNat / 10 by omega]
    exact hend
  next hlong =>
    have hlen := length_layout lp.data lp.datalen.toNat
    have hread := read_textCopy junk hd (l := layout lp.data lp.datalen.toNat ++
      [lp.data lp.datalen.toNat]) ((prefix_layout_concat ..).trans
        (prefix_layout lp.data (by omega))) (by simp [hlen]; omega)
    rw [List.length_append, List.length_singleton, hlen, read_append,
      read_textCopy_layout junk hd, Nat.zero_add, read_one] at hread
    exact List.singleton_inj.mp (List.append_cancel_left hread)

/-- **Which texts are shown**, of those for which `datalen` is not cut off: the short ones, and
those with a zero behind them. -/
theorem shows_text_iff (hd : lp.datalen.toNat ≤ 231) (htext : 0 ∉ textOf lp.datalen lp.data) :
    ShowsText (textCopy junk lp) (lenOf lp.datalen) (textOf lp.datalen lp.data) ↔
      lp.datalen.toNat ≤ 9 ∨ lp.data lp.datalen.toNat = 0 := by
  have hlen := length_layout lp.data lp.datalen.toNat
  have hpos : posOf lp.datalen.toNat = lp.datalen.toNat + (lp.datalen.toNat - 1) / 33 * 2 := rfl
  have hread := read_textCopy_layout junk hd
  have hzero := zero_notMem_layout htext
  have hbehind : (textCopy junk lp).mem (posOf lp.datalen.toNat) = 0 ↔
      lp.datalen.toNat ≤ 9 ∨ lp.data lp.datalen.toNat = 0 := by
    rw [mem_textCopy junk hd]
    split
    next hshort => exact iff_of_true rfl (.inl hshort)
    next hlong => exact (or_iff_right hlong).symm
  rw [← hbehind]
  constructor
  · rintro ⟨str, hstr, hbreaks⟩
    by_contra hne
    -- the byte behind the text is a part of the string
    have hlong : posOf lp.datalen.toNat < str.length := by
      obtain hlt | heq | hgt := lt_trichotomy str.length (posOf lp.datalen.toNat)
      · have hget := getElem?_read (textCopy junk lp).mem 0 hlt
        rw [hread, Nat.zero_add, hstr.get] at hget
        exact absurd (List.mem_of_getElem? hget) hzero
      · exact absurd (heq ▸ hstr.get) hne
      · exact hgt
    have hprefix : layout lp.data lp.datalen.toNat ++
        [(textCopy junk lp).mem (posOf lp.datalen.toNat)] <+: str := by
      rw [List.prefix_iff_eq_take, List.length_append, List.length_singleton, hlen, ← hstr.read,
        take_read _ 0 (show posOf lp.datalen.toNat + 1 ≤ _ from hlong), read_append, hread,
        Nat.zero_add, read_one]
    have hle := (prefix_removeBreaks hprefix).length_le
    rw [hbreaks, removeBreaks_concat, hlen, isBreak_posOf, removeBreaks_layout, List.length_append,
      length_read, length_textOf] at hle
    simp at hle
  · intro hend
    refine ⟨layout lp.data lp.datalen.toNat, ⟨hzero, ?_, ?_⟩, removeBreaks_layout ..⟩
    · rw [hlen, lenOf]
      omega
    · rw [hlen, read_append, hread, Nat.zero_add, read_one, hend]

/-! ### Whole posts -/

/-- A post is displayed whole: `get_data` keeps to the array and to the text, and the array shows
the text. -/
structure DisplaysWhole (lp : ServerRQLp) (s : ShownPost) : Prop where
  writes : ∀ i ∈ s.data.writes, 0 ≤ i ∧ i < s.len
  reads : ∀ i ∈ s.data.reads, i < lp.datalen.toNat
  text : ShowsText s.data s.len (textOf lp.datalen lp.data)

/-- What is displayed of a post is this. -/
structure Shows (lp : ServerRQLp) (s : ShownPost) : Prop where
  len_eq : s.len = lenOf lp.datalen
  data_eq : ∃ junk, s.data = textCopy junk lp

lemma printLastPostLoop_shows (junk : ℕ → ℤ → UInt8) (lps : List ServerRQLp) (i : ℕ)
    (feedNb : UInt16) (pseudo : ℕ → UInt8) :
    List.Forall₂ Shows lps (printLastPostLoop junk lps i feedNb pseudo) := by
  induction lps generalizing i feedNb pseudo with
  | nil => exact .nil
  | cons lp lps ih =>
      rw [printLastPostLoop]
      exact .cons ⟨rfl, junk i, rfl⟩ (ih ..)

/-- A text for which `datalen` is not cut off is read beyond its end, and another one is not shown
whole, or written in front of its array. -/
lemma Shows.not_displaysWhole {s : ShownPost} (h : Shows lp s) : ¬DisplaysWhole lp s := by
  obtain ⟨hlen, junk, hdata⟩ := h
  rintro ⟨hwrites, hreads, htext⟩
  rw [hdata] at hwrites hreads htext
  rw [hlen] at hwrites htext
  have hlong := (reads_inside_iff junk lp).mp hreads
  obtain hshort | hlong' := (writes_inside_iff junk lp).mp hwrites
  · omega
  · exact not_showsText junk lp hlong' htext

/-- **No post is displayed whole**, of those that `print_last_post` displays. -/
theorem no_post_displayed_whole (junk : ℕ → ℤ → UInt8) (pseudo : ℕ → UInt8)
    (lps : List ServerRQLp) :
    List.Forall₂ (fun lp s => ¬DisplaysWhole lp s) lps (printLastPost junk pseudo lps) :=
  (printLastPostLoop_shows junk lps 0 0 pseudo).imp fun _ _ h => h.not_displaysWhole

/-- A post of thirty characters, with a zero behind them. -/
def longPost : ServerRQLp :=
  { feedNumber := 1
    creator := .replicate PSEUDO_LEN 97
    pseudo := .replicate PSEUDO_LEN 97
    datalen := 30
    data := ofList (List.replicate 30 98) 0 }

/-- The line break behind the text is written behind the array of this post. -/
theorem not_displaysWhole_longPost :
    0 ∉ textOf longPost.datalen longPost.data ∧
    ∃ s, printLastPost (fun _ _ => 0) (fun _ => 0) [longPost] = [s] ∧ s.len = 34 ∧
      35 ∈ s.data.writes ∧ 30 ∈ s.data.reads ∧ ¬DisplaysWhole longPost s := by
  have hwrites : (35 : ℤ) ∈ (textCopy (fun _ => 0) longPost).writes := by
    rw [textCopy, mem_writes_getData]
    decide
  refine ⟨by decide, _, rfl, rfl, hwrites, ?_, fun h => ?_⟩
  · exact (mem_reads_getData ..).mpr (by decide)
  · exact absurd (h.writes 35 hwrites).2 (by decide)

end Client

end Megaphone
