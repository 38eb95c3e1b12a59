import Megaphone.Transfer.RoundTrip
import Megaphone.User.UserInput

/-!
The sizes of files that `file_manager` accepts, and the blocks that `ftransferrqs_new` makes of
them.

* `CoversFile`: there are enough blocks, each of them is filled, and every byte of the file stands
  in one.
* `covers_file_iff`: it is so for an accepted size exactly when a `uint16_t` holds the number of
  blocks.
-/

namespace Megaphone

open Memory

/-- The blocks of a file of `n` bytes are enough for it, all of them are filled, and every byte of
the file is in one of them. -/
structure CoversFile (header : UInt16) (file : ℕ → UInt8) (n : ℕ) : Prop where
  enough : n ≤ (numblockOf n).toNat * FILE_PACKET_SIZE
  filled : (ftransferrqsNew header file n).length = (numblockOf n).toNat ∧
    ∀ i < (numblockOf n).toNat, ∃ rq, (ftransferrqsNew header file n)[i]? = some rq ∧
      rq.header = header ∧ rq.numblock.toNat = i + 1
  covers : ∀ i < n, ∃ rq, (ftransferrqsNew header file n)[i / FILE_PACKET_SIZE]? = some rq ∧
    rq.data (i % FILE_PACKET_SIZE) = file i

/-- The sizes that `file_manager` accepts. -/
lemma fileCode_size {n : ℕ} : fileCode (.size n) = some 0 ↔ 0 < n ∧ n ≤ MAX_FILE_SIZE := by
  simp [fileCode, Nat.pos_iff_ne_zero, and_comm]

/-- The number of blocks of a file that is not empty. -/
lemma numblock_cases {n : ℕ} (hpos : 0 < n) :
    n % FILE_PACKET_SIZE = 0 ∧ (numblockOf n).toNat = (n / FILE_PACKET_SIZE + 2) % 2 ^ 16 ∨
      n % FILE_PACKET_SIZE ≠ 0 ∧ (numblockOf n).toNat = (n / FILE_PACKET_SIZE + 1) % 2 ^ 16 := by
  rw [toNat_numblockOf_mod]
  by_cases hmul : n % FILE_PACKET_SIZE = 0
  · rw [if_pos ⟨hmul, Nat.pos_iff_ne_zero.mp hpos⟩]
    exact .inl ⟨hmul, rfl⟩
  · rw [if_neg fun h => hmul h.1]
    exact .inr ⟨hmul, rfl⟩

/-- There are enough blocks exactly when their number is not cut off. -/
lemma enough_iff {n : ℕ} (hpos : 0 < n) (hle : n ≤ MAX_FILE_SIZE) :
    n ≤ (numblockOf n).toNat * FILE_PACKET_SIZE ↔
      n < FILE_SIZE_MAX + FILE_PACKET_SIZE ∧ n ≠ FILE_SIZE_MAX := by
  simp only [MAX_FILE_SIZE, FILE_SIZE_MAX] at hle ⊢
  obtain ⟨hmul, hcount⟩ | ⟨hmul, hcount⟩ := numblock_cases hpos
  all_goals
    rw [hcount]
    simp only [FILE_PACKET_SIZE] at hmul ⊢
    omega

/-- A byte of the file is in front of the end of its block. -/
lemma lt_blockLen {n i : ℕ} (hn : n < FILE_SIZE_MAX + FILE_PACKET_SIZE ∧ n ≠ FILE_SIZE_MAX)
    (hi : i < n) :
    i % FILE_PACKET_SIZE < blockLen (numblockOf n).toNat n (i / FILE_PACKET_SIZE) := by
  rw [blockLen]
  split
  next hlast =>
    simp only [FILE_SIZE_MAX] at hn
    obtain ⟨hmul, hcount⟩ | ⟨hmul, hcount⟩ := numblock_cases (Nat.zero_lt_of_lt hi)
    all_goals
      rw [hcount] at hlast
      simp only [FILE_PACKET_SIZE] at hn hmul hlast ⊢
      omega
  next => exact Nat.mod_lt i (by decide)

/-- What stands in a block. -/
lemma data_fileBlock {n i j : ℕ} (hpos : 0 < n) (header : UInt16) (file : ℕ → UInt8)
    (hj : j < blockLen (numblockOf n).toNat n i) :
    (fileBlock header file n i).data j = file (i * FILE_PACKET_SIZE + j) := by
  have hlen : j < (payload file n i).length := by rwa [payload, length_read]
  have hdata := write_add (fun _ => 0) 0 hlen
  rw [Nat.zero_add] at hdata
  have hget : (payload file n i)[j] = file (i * FILE_PACKET_SIZE + j) := by
    simp [payload, Memory.read]
  simp only [fileBlock, if_neg (Nat.pos_iff_ne_zero.mp hpos), hdata, hget]

/-- **Every byte is in a block**, for an accepted size, exactly when the number of blocks is not
cut off. -/
theorem covers_file_iff (header : UInt16) (file : ℕ → UInt8) {n : ℕ}
    (h : fileCode (.size n) = some 0) :
    CoversFile header file n ↔ n < FILE_SIZE_MAX + FILE_PACKET_SIZE ∧ n ≠ FILE_SIZE_MAX := by
  obtain ⟨hpos, hle⟩ := fileCode_size.mp h
  refine ⟨fun hcovers => (enough_iff hpos hle).mp hcovers.enough, fun hn => ?_⟩
  have henough := (enough_iff hpos hle).mpr hn
  refine ⟨henough, ⟨by simp [ftransferrqsNew_eq], fun i hi => ?_⟩, fun i hi => ?_⟩
  · refine ⟨fileBlock header file n i, ?_, rfl, toNat_numblock hi⟩
    rw [ftransferrqsNew_eq, List.getElem?_map, List.getElem?_range hi, Option.map_some]
  · have hblock : i / FILE_PACKET_SIZE < (numblockOf n).toNat :=
      Nat.div_lt_of_lt_mul (by rw [Nat.mul_comm]; omega)
    refine ⟨fileBlock header file n (i / FILE_PACKET_SIZE), ?_, ?_⟩
    · rw [ftransferrqsNew_eq, List.getElem?_map, List.getElem?_range hblock, Option.map_some]
    · rw [data_fileBlock hpos header file (lt_blockLen hn hi), Nat.div_add_mod']

/-- `file_manager` accepts a file of `65534 * 512` bytes, of which no block is made. -/
theorem not_coversFile : fileCode (.size FILE_SIZE_MAX) = some 0 ∧
    ftransferrqsNew (mkHeader UPLOAD 1) (fun _ => 98) FILE_SIZE_MAX = [] ∧
    ¬CoversFile (mkHeader UPLOAD 1) (fun _ => 98) FILE_SIZE_MAX := by
  have hzero : (numblockOf FILE_SIZE_MAX).toNat = 0 := by decide
  refine ⟨by decide, ?_, fun h => ?_⟩
  · rw [ftransferrqsNew_eq, hzero]
    rfl
  · have henough := h.enough
    rw [hzero] at henough
    exact absurd henough (by decide)

/-- The blocks of a file of one byte. -/
theorem covers_file_iff_one : CoversFile (mkHeader UPLOAD 1) (fun _ => 98) 1 ↔
    1 < FILE_SIZE_MAX + FILE_PACKET_SIZE ∧ 1 ≠ FILE_SIZE_MAX :=
  covers_file_iff (mkHeader UPLOAD 1) (fun _ => 98) (by decide)

end Megaphone
