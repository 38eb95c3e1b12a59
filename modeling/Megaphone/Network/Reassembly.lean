import Megaphone.Network.FileTransfer

/-!
Reassembling a file from its blocks, as far as the server and the client have it in common.

* `BlockFile`, `Packet`, `Delivers`: a file in blocks, and the datagrams of some of them, in any
  order.
* `Progress`: a transfer that takes packets in until `received` holds, and no more after that.
* `Collected`: the invariant of a transfer; `Collected.record`, what a packet does to it, and
  `Collected.content_eq`, the bytes when every block is there.
* `Receiver`: a party that takes packets in through a transfer; `Receiver.foldlM_eq`, its state
  after a sequence of packets.
* `Receiver.reassembles_iff`: every prefix of a sequence leaves the receiver in the state that it is
  meant to exactly when the last block comes last.
-/

namespace Megaphone

open Memory

/-! ### Files in blocks and their packets -/

/-- What `add_packet` gets of a datagram. -/
structure Packet where
  numblock : UInt16
  data : Block
  nbytes : ℕ

/-- A file in blocks: all but the last of them are full, and the last one is not. -/
structure BlockFile where
  blocks : List (List UInt8)
  ne_nil : blocks ≠ []
  length_le : blocks.length ≤ 65535
  full : ∀ b ∈ blocks.dropLast, b.length = FILE_PACKET_SIZE
  short : (blocks.getLast ne_nil).length < FILE_PACKET_SIZE

variable {E : Type}

/-- The numbers of the blocks that have been delivered. -/
def numbers (ps : List (E × Packet)) : List ℕ := ps.map fun q => q.2.numblock.toNat

namespace BlockFile

variable (F : BlockFile)

/-- The bytes of the file. -/
def bytes : List UInt8 := F.blocks.flatten

/-- The number of blocks. -/
def count : ℕ := F.blocks.length

/-- The packet is one of the file: blocks are numbered from 1 on. -/
structure Carries (p : Packet) : Prop where
  pos : 0 < p.numblock.toNat
  block_eq : F.blocks[p.numblock.toNat - 1]? = some (read p.data 0 p.nbytes)

/-- The packets, each with the outside at its arrival, are of the file, and none comes twice. -/
structure Delivers (ps : List (E × Packet)) : Prop where
  carries : ∀ q ∈ ps, F.Carries q.2
  once : (numbers ps).Nodup

/-- Every block has been delivered. -/
def AllDelivered (ps : List (E × Packet)) : Prop :=
  ∀ i, 1 ≤ i → i ≤ F.count → i ∈ numbers ps

/-- When the last block comes, every block has been delivered. -/
def LastBlockLast (ps : List (E × Packet)) : Prop :=
  ∀ pre q post, ps = pre ++ q :: post → q.2.numblock.toNat = F.count → F.AllDelivered (pre ++ [q])

variable {F}

lemma count_pos : 0 < F.count := List.length_pos_iff.mpr F.ne_nil

/-- The length of a block. -/
lemma length_block {i : ℕ} {b : List UInt8} (h : F.blocks[i]? = some b) :
    (i + 1 ≠ F.count → b.length = FILE_PACKET_SIZE) ∧
    (i + 1 = F.count → b.length < FILE_PACKET_SIZE) := by
  obtain ⟨hi, rfl⟩ := List.getElem?_eq_some_iff.mp h
  refine ⟨fun hne => ?_, fun hlast => ?_⟩
  · have hlt : i < F.blocks.dropLast.length := by
      rw [List.length_dropLast]
      rw [count] at hne
      omega
    rw [← List.getElem_dropLast hlt]
    exact F.full _ (List.getElem_mem hlt)
  · have hshort := F.short
    rw [List.getLast_eq_getElem] at hshort
    have heq : F.blocks.length - 1 = i := by
      rw [count] at hlast
      omega
    simpa only [heq] using hshort

lemma length_block_le {i : ℕ} {b : List UInt8} (h : F.blocks[i]? = some b) :
    b.length ≤ FILE_PACKET_SIZE := by
  obtain ⟨hfull, hshort⟩ := length_block h
  by_cases hlast : i + 1 = F.count
  · exact (hshort hlast).le
  · exact (hfull hlast).le

variable (F) in
/-- The blocks hold at most 512 bytes each. -/
lemma length_bytes_le : F.bytes.length ≤ F.count * FILE_PACKET_SIZE := by
  rw [bytes, List.length_flatten, count, ← List.length_map List.length]
  refine List.sum_le_card_nsmul _ _ fun n hn => ?_
  obtain ⟨b, hb, rfl⟩ := List.mem_map.mp hn
  obtain ⟨i, hi, rfl⟩ := List.mem_iff_getElem.mp hb
  exact length_block_le (List.getElem?_eq_getElem hi)

lemma Carries.le_count {p : Packet} (h : F.Carries p) : p.numblock.toNat ≤ F.count := by
  have hlt := (List.getElem?_eq_some_iff.mp h.block_eq).1
  have hpos := h.pos
  rw [count]
  omega

/-- Only the last block is short. -/
lemma Carries.nbytes_lt_iff {p : Packet} (h : F.Carries p) :
    p.nbytes < FILE_PACKET_SIZE ↔ p.numblock.toNat = F.count := by
  have hpos := h.pos
  obtain ⟨hfull, hshort⟩ := length_block h.block_eq
  rw [length_read] at hfull hshort
  constructor
  · intro hlt
    by_contra hne
    exact hlt.ne (hfull (by omega))
  · intro hlast
    exact hshort (by omega)

lemma Delivers.append_left {ps qs : List (E × Packet)} (h : F.Delivers (ps ++ qs)) :
    F.Delivers ps := by
  refine ⟨fun q hq => h.carries q (List.mem_append_left _ hq), ?_⟩
  have honce := h.once
  rw [numbers, List.map_append] at honce
  exact honce.of_append_left

/-- A block does not come twice. -/
lemma Delivers.notMem {ps : List (E × Packet)} {q : E × Packet} (h : F.Delivers (ps ++ [q])) :
    q.2.numblock.toNat ∉ numbers ps := by
  have honce := h.once
  rw [numbers, List.map_append, List.map_singleton] at honce
  exact fun hq => List.disjoint_of_nodup_append honce hq (by simp)

/-- Packets that end with the last block, all blocks being there. -/
lemma Delivers.lastBlockLast {ps : List (E × Packet)} {q : E × Packet} (h : F.Delivers (ps ++ [q]))
    (hall : F.AllDelivered (ps ++ [q])) (hq : q.2.numblock.toNat = F.count) :
    F.LastBlockLast (ps ++ [q]) := by
  intro pre q' post heq hnum
  rcases List.eq_nil_or_concat post with rfl | ⟨post, q'', rfl⟩
  · rw [← heq]
    exact hall
  · -- the last block would have come before
    rw [List.concat_eq_append, ← List.cons_append, ← List.append_assoc] at heq
    obtain ⟨rfl, -⟩ := List.append_inj' heq rfl
    exact absurd (List.mem_map.mpr ⟨q', by simp, hnum.trans hq.symm⟩) h.notMem

/-- The bytes of all packets, when every block has been delivered. -/
lemma Delivers.sum_nbytes {ps : List (E × Packet)} (h : F.Delivers ps) (hall : F.AllDelivered ps) :
    (ps.map fun q => q.2.nbytes).sum = F.bytes.length := by
  -- the packets are those of the numbers from 1 to the count, in another order
  have hperm : (numbers ps).Perm (List.range' 1 F.count) := by
    refine (List.perm_ext_iff_of_nodup h.once List.nodup_range').mpr fun i => ?_
    rw [List.mem_range'_1]
    constructor
    · intro hi
      obtain ⟨q, hq, rfl⟩ := List.mem_map.mp hi
      have hpos := (h.carries q hq).pos
      have hle := (h.carries q hq).le_count
      omega
    · intro hi
      exact hall i (by omega) (by omega)
  have hlen : ∀ q ∈ ps, q.2.nbytes = (F.blocks[q.2.numblock.toNat - 1]?.getD []).length := by
    intro q hq
    rw [(h.carries q hq).block_eq, Option.getD_some, length_read]
  have hblocks : (List.range' 1 F.count).map (fun i => (F.blocks[i - 1]?.getD []).length) =
      F.blocks.map List.length := by
    refine List.ext_getElem (by simp [count]) fun i h₁ h₂ => ?_
    rw [List.length_map] at h₂
    simp [h₂]
  rw [List.map_congr_left hlen, bytes, List.length_flatten, ← hblocks, ← (hperm.map _).sum_eq,
    numbers, List.map_map]
  rfl

end BlockFile

/-- Every prefix of the packets takes the state `s` to one that is `done` when every block of the
file has been delivered, and `going` on when not. -/
def Reassembles {σ : Type} (step : σ → E × Packet → Option σ) (F : BlockFile) (s : σ)
    (going done : σ → Prop) (ps : List (E × Packet)) : Prop :=
  ∀ qs, qs <+: ps → ∃ s', qs.foldlM step s = some s' ∧
    (F.AllDelivered qs → done s') ∧ (¬F.AllDelivered qs → going s')

/-! ### The progress of a transfer -/

/-- A transfer that is going on, or one that is complete, with the outside at that moment. -/
inductive Progress (E : Type)
  | pending (infos : FileTransferInfos)
  | complete (env : E) (infos : FileTransferInfos)

/-- A packet is recorded by a transfer that is going on, and ignored by one that is complete. -/
def Progress.step : Progress E → E × Packet → Option (Progress E)
  | .pending infos, (env, p) =>
      (infos.record p.numblock p.data p.nbytes).map fun infos =>
        if infos.received then .complete env infos else .pending infos
  | .complete env infos, _ => some (.complete env infos)

/-- What a transfer that started as `infos₀` has collected of the packets. -/
structure Collected (infos₀ : FileTransferInfos) (ps : List (E × Packet))
    (infos : FileTransferInfos) : Prop where
  wf : infos.fileData.Wf
  stored : ∀ q ∈ ps, infos.fileData.at? (q.2.numblock.toNat - 1) = some q.2.data
  fileSize_eq : infos.fileSize = (ps.map fun q => q.2.nbytes).sum
  active_eq : infos.active = infos₀.active
  filePath_eq : infos.filePath = infos₀.filePath
  feedNumber_eq : infos.feedNumber = infos₀.feedNumber

/-- A transfer that nothing has been recorded in. -/
structure FileTransferInfos.Fresh (infos : FileTransferInfos) : Prop where
  wf : infos.fileData.Wf
  length_eq : infos.fileData.length = 0
  lastPacket_eq : infos.lastPacket = 0
  fileSize_eq : infos.fileSize = 0
  active_eq : infos.active = true

lemma fresh_transferInit (now : ℕ) (fileName : ℕ → UInt8) (feedNumber : UInt16) :
    (transferInit now fileName feedNumber).Fresh :=
  ⟨CArray.wf_arrayNew 0, rfl, rfl, rfl, rfl⟩

/-- The bytes of a stored block are at its place. -/
lemma FileTransferInfos.mem_of_at? {infos : FileTransferInfos} (junk : ℕ → UInt8) {i j : ℕ}
    {block : Block} (h : infos.fileData.at? i = some block) (hj : j < FILE_PACKET_SIZE) :
    infos.mem junk (i * FILE_PACKET_SIZE + j) = block j := by
  have hdiv : (i * FILE_PACKET_SIZE + j) / FILE_PACKET_SIZE = i := by
    rw [FILE_PACKET_SIZE] at hj ⊢
    omega
  have hmod : (i * FILE_PACKET_SIZE + j) % FILE_PACKET_SIZE = j := by
    rw [FILE_PACKET_SIZE] at hj ⊢
    omega
  rw [mem, hdiv, hmod, h]

namespace Collected

variable {infos₀ infos : FileTransferInfos} {ps : List (E × Packet)}

lemma nil (h : infos₀.Fresh) : Collected (E := E) infos₀ [] infos₀ :=
  ⟨h.wf, by simp, by simp [h.fileSize_eq], rfl, rfl, rfl⟩

/-- **What a packet does** that has not come before. -/
lemma record (h : Collected infos₀ ps infos) {q : E × Packet} (hpos : 0 < q.2.numblock.toNat)
    (hps : ∀ q' ∈ ps, 0 < q'.2.numblock.toNat) (hnew : q.2.numblock.toNat ∉ numbers ps) :
    ∃ infos', infos.record q.2.numblock q.2.data q.2.nbytes = some infos' ∧
      Collected infos₀ (ps ++ [q]) infos' ∧
      infos'.fileData.length = max infos.fileData.length q.2.numblock.toNat ∧
      infos'.lastPacket =
        if q.2.nbytes < FILE_PACKET_SIZE then q.2.numblock else infos.lastPacket := by
  have hlt := q.2.numblock.toNat_lt
  have hsub : sizeSub q.2.numblock.toNat 1 = q.2.numblock.toNat - 1 := if_pos hpos
  obtain ⟨a, hset, hwf, hlength, -, hself, hother⟩ :=
    CArray.set_spec h.wf (i := q.2.numblock.toNat - 1) (by omega) q.2.data
  rw [FileTransferInfos.record, hsub, hset]
  refine ⟨_, rfl, ⟨hwf, fun q' hq' => ?_, ?_, h.active_eq, h.filePath_eq, h.feedNumber_eq⟩, ?_, rfl⟩
  · rcases List.mem_append.mp hq' with hq' | hq'
    · have hne : q'.2.numblock.toNat ≠ q.2.numblock.toNat := fun heq =>
        hnew (List.mem_map.mpr ⟨q', hq', heq⟩)
      have hpos' := hps q' hq'
      exact (hother _ (by omega)).trans (h.stored q' hq')
    · rw [List.mem_singleton.mp hq']
      exact hself
  · rw [List.map_append, List.sum_append, ← h.fileSize_eq]
    simp
  · show a.length = _
    omega

/-- **The bytes of a complete transfer** are those of the file, when every block is there. -/
lemma content_eq {F : BlockFile} (h : Collected infos₀ ps infos) (hps : F.Delivers ps)
    (hall : F.AllDelivered ps) (hroom : F.count ≤ infos.fileData.slots.length)
    (junk : ℕ → UInt8) :
    infos.content junk = some F.bytes ∧ infos.fileSize = F.bytes.length := by
  have hsize : infos.fileSize = F.bytes.length := by rw [h.fileSize_eq, hps.sum_nbytes hall]
  have hblock : ∀ i (hi : i < F.blocks.length),
      read (infos.mem junk) (0 + i * FILE_PACKET_SIZE) F.blocks[i].length = F.blocks[i] := by
    intro i hi
    obtain ⟨q, hq, hnum⟩ := List.mem_map.mp (hall (i + 1) (by omega) hi)
    have hstored := h.stored q hq
    have heq := (hps.carries q hq).block_eq
    simp only [hnum, Nat.add_sub_cancel, List.getElem?_eq_getElem hi, Option.some.injEq]
      at hstored heq
    have hle := BlockFile.length_block_le (List.getElem?_eq_getElem hi)
    rw [heq, length_read] at hle ⊢
    refine List.map_congr_left fun j hj => ?_
    have hj' := lt_of_lt_of_le (List.mem_range.mp hj) hle
    rw [Nat.zero_add, Nat.zero_add, FileTransferInfos.mem_of_at? junk hstored hj']
  have hread : read (infos.mem junk) 0 F.bytes.length = F.bytes :=
    (read_flatten_iff _ 0 F.blocks).mpr (holdsAt_of_blocks F.full hblock)
  have hfit := Nat.mul_le_mul_right FILE_PACKET_SIZE hroom
  rw [FileTransferInfos.content, hsize, if_pos (F.length_bytes_le.trans hfit), hread]
  exact ⟨rfl, rfl⟩

end Collected

namespace Progress

variable {F : BlockFile} {infos₀ : FileTransferInfos} {ps pre post : List (E × Packet)}
  {q : E × Packet}

/-- A transfer that is complete stays as it is. -/
lemma foldlM_complete (env : E) (infos : FileTransferInfos) (ps : List (E × Packet)) :
    ps.foldlM step (complete env infos) = some (complete env infos) := by
  induction ps with
  | nil => rfl
  | cons q ps ih => exact ih

/-- **As long as the last block has not come**, the transfer is going on. -/
lemma foldlM_pending (h₀ : infos₀.Fresh) (hps : F.Delivers ps) (hlast : F.count ∉ numbers ps) :
    ∃ infos, ps.foldlM step (pending infos₀) = some (pending infos) ∧ Collected infos₀ ps infos ∧
      infos.fileData.length < F.count ∧ infos.lastPacket = 0 := by
  induction ps using List.reverseRecOn with
  | nil => exact ⟨infos₀, rfl, .nil h₀, by rw [h₀.length_eq]; exact F.count_pos, h₀.lastPacket_eq⟩
  | append_singleton ps q ih =>
      have hmem : F.count ∉ numbers ps ∧ F.count ≠ q.2.numblock.toNat := by
        rw [numbers, List.map_append, List.mem_append, not_or] at hlast
        exact ⟨hlast.1, fun heq => hlast.2 (by simp [heq])⟩
      obtain ⟨infos, hrun, hcoll, hlength, hzero⟩ := ih hps.append_left hmem.1
      have hq := hps.carries q (by simp)
      have hle := hq.le_count
      have hpos := hq.pos
      obtain ⟨infos', hrecord, hcoll', hlength', hpacket⟩ := hcoll.record hpos
        (fun q' hq' => (hps.append_left.carries q' hq').pos) hps.notMem
      have hfull : ¬q.2.nbytes < FILE_PACKET_SIZE := fun hlt =>
        hmem.2 (hq.nbytes_lt_iff.mp hlt).symm
      rw [if_neg hfull, hzero] at hpacket
      -- the length is positive, so that it is not the number of the last packet
      have hreceived : infos'.received = false := by
        rw [FileTransferInfos.received, hpacket, hlength']
        exact beq_eq_false_iff_ne.mpr (by simp; omega)
      refine ⟨infos', ?_, hcoll', by omega, hpacket⟩
      rw [List.foldlM_append, hrun]
      simp [step, hrecord, hreceived]

/-- **When the last block comes**, the transfer is complete, whichever blocks came before. -/
lemma foldlM_last (h₀ : infos₀.Fresh) (hps : F.Delivers (pre ++ [q]))
    (hlast : q.2.numblock.toNat = F.count) :
    ∃ infos, (pre ++ [q]).foldlM step (pending infos₀) = some (complete q.1 infos) ∧
      Collected infos₀ (pre ++ [q]) infos ∧ F.count ≤ infos.fileData.slots.length := by
  have hnew := hps.notMem
  obtain ⟨infos, hrun, hcoll, hlength, -⟩ := foldlM_pending h₀ hps.append_left (hlast ▸ hnew)
  have hq := hps.carries q (by simp)
  obtain ⟨infos', hrecord, hcoll', hlength', hpacket⟩ := hcoll.record hq.pos
    (fun q' hq' => (hps.append_left.carries q' hq').pos) hnew
  rw [if_pos (hq.nbytes_lt_iff.mpr hlast)] at hpacket
  have hreceived : infos'.received = true := by
    rw [FileTransferInfos.received, hpacket, hlength', beq_iff_eq]
    omega
  have hwf := hcoll'.wf
  have hslots := hwf.slots_length
  have hle := hwf.length_le
  refine ⟨infos', ?_, hcoll', by omega⟩
  rw [List.foldlM_append, hrun]
  simp [step, hrecord, hreceived]

end Progress

/-! ### Receivers -/

/-- A party that takes packets in through a transfer: its state while the transfer `infos` is going
on, and what is left of it when the transfer is complete, if anything. -/
structure Receiver (E σ : Type) where
  step : σ → E × Packet → Option σ
  pending : FileTransferInfos → σ
  complete : E → FileTransferInfos → Option σ
  step_pending : ∀ infos infos' q, infos.active = true →
    infos.record q.2.numblock q.2.data q.2.nbytes = some infos' →
    step (pending infos) q =
      if infos'.received then complete q.1 infos' else some (pending infos')
  step_complete : ∀ env infos s q, complete env infos = some s → step s q = some s

namespace Receiver

variable {σ : Type} (R : Receiver E σ)

/-- The state of the receiver at some progress. -/
def ofProgress : Progress E → Option σ
  | .pending infos => some (R.pending infos)
  | .complete env infos => R.complete env infos

variable {R} {infos₀ : FileTransferInfos} {ps : List (E × Packet)}

/-- **One packet** does to the receiver what it does to its transfer. -/
lemma step_eq {pr pr' : Progress E} {q : E × Packet}
    (hactive : ∀ infos, pr = .pending infos → infos.active = true) (h : pr.step q = some pr') :
    (R.ofProgress pr).bind (R.step · q) = R.ofProgress pr' ∧
      ∀ infos, pr' = .pending infos → infos.active = true := by
  obtain ⟨env, p⟩ := q
  cases pr with
  | pending infos =>
      obtain ⟨infos', hrecord, rfl⟩ := Option.map_eq_some_iff.mp h
      have hactive' : infos'.active = true := by
        obtain ⟨a, -, rfl⟩ := Option.map_eq_some_iff.mp hrecord
        exact hactive infos rfl
      rw [ofProgress, Option.bind_some,
        R.step_pending infos infos' (env, p) (hactive infos rfl) hrecord]
      split
      · exact ⟨rfl, fun _ heq => nomatch heq⟩
      · refine ⟨rfl, fun _ heq => ?_⟩
        cases heq
        exact hactive'
  | complete env' infos =>
      cases h
      refine ⟨?_, fun _ heq => nomatch heq⟩
      rw [ofProgress]
      cases hs : R.complete env' infos with
      | none => rfl
      | some s => exact R.step_complete env' infos s (env, p) hs

/-- **A sequence of packets** does to the receiver what it does to its transfer. -/
lemma foldlM_eq {pr : Progress E} (h₀ : infos₀.active = true)
    (h : ps.foldlM Progress.step (.pending infos₀) = some pr) :
    ps.foldlM R.step (R.pending infos₀) = R.ofProgress pr ∧
      ∀ infos, pr = .pending infos → infos.active = true := by
  induction ps using List.reverseRecOn generalizing pr with
  | nil =>
      cases h
      refine ⟨rfl, fun _ heq => ?_⟩
      cases heq
      exact h₀
  | append_singleton ps q ih =>
      rw [List.foldlM_append] at h ⊢
      obtain ⟨pr', hpr', h⟩ := Option.bind_eq_some_iff.mp h
      rw [List.foldlM_cons] at h
      obtain ⟨pr'', hpr'', h⟩ := Option.bind_eq_some_iff.mp h
      cases h
      obtain ⟨heq, hactive⟩ := ih hpr'
      obtain ⟨hstep, hactive'⟩ := step_eq (R := R) hactive hpr''
      refine ⟨?_, hactive'⟩
      rw [heq, ← hstep]
      simp

/-! ### Complete transfers -/

/-- A transfer that started as `infos₀` ends as `infos`, with the outside `env` of one of the
packets and all bytes of the file. -/
structure Ends (infos₀ : FileTransferInfos) (F : BlockFile) (ps : List (E × Packet)) (env : E)
    (infos : FileTransferInfos) : Prop where
  env_mem : ∃ q ∈ ps, q.1 = env
  filePath_eq : infos.filePath = infos₀.filePath
  feedNumber_eq : infos.feedNumber = infos₀.feedNumber
  content_eq : ∀ junk, infos.content junk = some F.bytes
  fileSize_eq : infos.fileSize = F.bytes.length

variable {F : BlockFile}

/-- The packets up to the last block end the transfer. -/
lemma foldlM_last {pre : List (E × Packet)} {q : E × Packet} (h₀ : infos₀.Fresh)
    (hps : F.Delivers (pre ++ [q])) (hlast : q.2.numblock.toNat = F.count) :
    ∃ infos, (pre ++ [q]).foldlM R.step (R.pending infos₀) = R.complete q.1 infos := by
  obtain ⟨infos, hrun, -⟩ := Progress.foldlM_last h₀ hps hlast
  exact ⟨infos, (foldlM_eq h₀.active_eq hrun).1⟩

/-- **A sequence of packets with the last block**, which comes last, ends the transfer. -/
lemma foldlM_ends (h₀ : infos₀.Fresh) (hps : F.Delivers ps) (hlast : F.LastBlockLast ps)
    (hmem : F.count ∈ numbers ps) :
    F.AllDelivered ps ∧ ∃ env infos, ps.foldlM R.step (R.pending infos₀) = R.complete env infos ∧
      Ends infos₀ F ps env infos := by
  obtain ⟨q, hq, hnum⟩ := List.mem_map.mp hmem
  obtain ⟨pre, post, rfl⟩ := List.append_of_mem hq
  have hall := hlast pre q post rfl hnum
  rw [List.append_cons] at hps ⊢
  obtain ⟨infos, hrun, hcoll, hroom⟩ := Progress.foldlM_last h₀ hps.append_left hnum
  have hcontent := hcoll.content_eq hps.append_left hall hroom
  have hrun' : (pre ++ [q] ++ post).foldlM Progress.step (.pending infos₀) =
      some (.complete q.1 infos) := by
    rw [List.foldlM_append, hrun]
    exact Progress.foldlM_complete q.1 infos post
  refine ⟨fun i h₁ h₂ => ?_, q.1, infos, (foldlM_eq h₀.active_eq hrun').1, ⟨q, by simp, rfl⟩,
    hcoll.filePath_eq, hcoll.feedNumber_eq, fun junk => (hcontent junk).1,
    (hcontent fun _ => 0).2⟩
  rw [numbers, List.map_append]
  exact List.mem_append_left _ (hall i h₁ h₂)

/-- What the two outcomes of a transfer are for a receiver: going on is what a transfer does that is
not complete, and one that is complete with all bytes is done if `room` holds. -/
structure Outcomes (R : Receiver E σ) (infos₀ : FileTransferInfos) (F : BlockFile)
    (going done : σ → Prop) (room : Prop) (ps : List (E × Packet)) : Prop where
  going_pending : ∀ infos, infos.active = true → going (R.pending infos)
  not_going : ∀ env infos s, R.complete env infos = some s → ¬going s
  done_iff : ∀ env infos, Ends infos₀ F ps env infos →
    ((∃ s, R.complete env infos = some s ∧ done s) ↔ room)

/-- The packets of a longer sequence. -/
lemma Ends.mono {ps' : List (E × Packet)} {env : E} {infos : FileTransferInfos}
    (h : Ends infos₀ F ps env infos) (hsub : ps ⊆ ps') : Ends infos₀ F ps' env infos := by
  obtain ⟨q, hq, rfl⟩ := h.env_mem
  exact ⟨⟨q, hsub hq, rfl⟩, h.filePath_eq, h.feedNumber_eq, h.content_eq, h.fileSize_eq⟩

/-- **Reassembly**: after every prefix of the packets the transfer is done if every block has been
delivered, and going on if not, exactly when the last block comes last and, if it comes, there is
room for what it leads to. -/
theorem reassembles_iff {going done : σ → Prop} {room : Prop} (h₀ : infos₀.Fresh)
    (hps : F.Delivers ps) (hout : R.Outcomes infos₀ F going done room ps) :
    Reassembles R.step F (R.pending infos₀) going done ps ↔
      F.LastBlockLast ps ∧ (F.count ∈ numbers ps → room) := by
  constructor
  · intro h
    have hlast : F.LastBlockLast ps := by
      rintro pre q post rfl hnum
      rw [List.append_cons] at hps h
      by_contra hall
      obtain ⟨s', hs', -, hgoing⟩ := h _ (List.prefix_append (pre ++ [q]) post)
      obtain ⟨infos, hrun⟩ := foldlM_last (R := R) h₀ hps.append_left hnum
      exact hout.not_going q.1 infos s' (hrun.symm.trans hs') (hgoing hall)
    refine ⟨hlast, fun hmem => ?_⟩
    obtain ⟨hall, env, infos, hrun, hends⟩ := foldlM_ends (R := R) h₀ hps hlast hmem
    obtain ⟨s', hs', hdone, -⟩ := h ps (List.prefix_refl ps)
    exact (hout.done_iff env infos hends).mp ⟨s', hrun.symm.trans hs', hdone hall⟩
  · rintro ⟨hlast, hroom⟩ qs ⟨rest, rfl⟩
    by_cases hmem : F.count ∈ numbers qs
    · have hlast' : F.LastBlockLast qs := fun pre q post heq hnum =>
        hlast pre q (post ++ rest) (by rw [heq, List.append_assoc, List.cons_append]) hnum
      obtain ⟨hall, env, infos, hrun, hends⟩ :=
        foldlM_ends (R := R) h₀ hps.append_left hlast' hmem
      have hmem' : F.count ∈ numbers (qs ++ rest) := by
        rw [numbers, List.map_append]
        exact List.mem_append_left _ hmem
      obtain ⟨s', hs', hdone⟩ := (hout.done_iff env infos
        (hends.mono (List.subset_append_left qs rest))).mpr (hroom hmem')
      exact ⟨s', hrun.trans hs', fun _ => hdone, fun hnot => absurd hall hnot⟩
    · obtain ⟨infos, hrun, -⟩ := Progress.foldlM_pending h₀ hps.append_left hmem
      obtain ⟨heq, hactive⟩ := foldlM_eq (R := R) h₀.active_eq hrun
      exact ⟨_, heq, fun hall => absurd (hall _ F.count_pos le_rfl) hmem,
        fun _ => hout.going_pending infos (hactive infos rfl)⟩

end Receiver

end Megaphone
