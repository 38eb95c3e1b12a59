import Megaphone.Network.Reassembly
import Megaphone.Library.Machine

/-!
What a sequence of packets does to the slot of a transfer, whatever the rest of the server does.

* `FileTransferInfos.takePacket`, `slotStep`: a packet at a slot.
* `FileTransferInfos.record_spec`: what storing a block does to the numbers that the slot keeps.
* `highest`, `lastNumber`, `total`, `storage`: these numbers after a sequence of packets.
* `Overreads`, `exists_run_iff`: the slot takes all packets in, unless the transfer is complete with
  more bytes counted than there is storage for.
-/

namespace Megaphone

namespace FileTransferInfos

/-- A packet at a slot: the slot afterwards, and the transfer that it completes, if it does.  It is
`none` where `write_file` reads over the storage of the blocks. -/
def takePacket (infos : FileTransferInfos) (p : Packet) :
    Option (FileTransferInfos × Option FileTransferInfos) :=
  if infos.active then
    (infos.record p.numblock p.data p.nbytes).bind fun infos' =>
      if infos'.received then
        if infos'.fileSize ≤ infos'.fileData.slots.length * FILE_PACKET_SIZE then
          some (.zero, some infos')
        else none
      else some (infos', none)
  else some (infos, none)

/-- The bytes can be written exactly when there is storage for them. -/
lemma content_isSome_iff (infos : FileTransferInfos) (junk : ℕ → UInt8) :
    (infos.content junk).isSome ↔
      infos.fileSize ≤ infos.fileData.slots.length * FILE_PACKET_SIZE := by
  rw [content]
  split
  next h => simp [h]
  next h => simp [h]

/-! ### The numbers of a transfer -/

variable (infos : FileTransferInfos) (ps : List Packet)

/-- The length of the array of the blocks after some packets: the highest number of a block. -/
def highest : ℕ := ps.foldl (fun n p => max n p.numblock.toNat) infos.fileData.length

/-- The number that is taken for the one of the last block: that of the last short one. -/
def lastNumber : UInt16 :=
  ps.foldl (fun n p => if p.nbytes < FILE_PACKET_SIZE then p.numblock else n) infos.lastPacket

/-- The bytes that have been counted. -/
def total : ℕ := ps.foldl (fun n p => n + p.nbytes) infos.fileSize

/-- The number of blocks that there is storage for. -/
def storage : ℕ := ps.foldl (fun n p => max n p.numblock.toNat) infos.fileData.slots.length

/-- The packets are taken for all packets of the file. -/
def Completes : Prop := infos.highest ps = (infos.lastNumber ps).toNat

/-- The packets complete the transfer for the first time at a moment when more bytes have been
counted than there is storage for. -/
def Overreads : Prop :=
  ∃ qs, qs <+: ps ∧ qs ≠ [] ∧ infos.Completes qs ∧
    (∀ qs', qs' <+: qs → qs' ≠ [] → qs' ≠ qs → ¬infos.Completes qs') ∧
    infos.storage qs * FILE_PACKET_SIZE < infos.total qs

variable {infos ps} {infos' : FileTransferInfos} {p : Packet}

/-- No packet has a higher number. -/
lemma numblock_le_highest (h : p ∈ ps) : p.numblock.toNat ≤ infos.highest ps := by
  have hmono : ∀ (ps : List Packet) (n : ℕ),
      n ≤ ps.foldl (fun n p => max n p.numblock.toNat) n := by
    intro ps
    induction ps with
    | nil => exact fun n => le_rfl
    | cons q ps ih => exact fun n => (le_max_left _ _).trans (ih _)
  obtain ⟨pre, post, rfl⟩ := List.append_of_mem h
  rw [highest, List.foldl_append, List.foldl_cons]
  exact (le_max_right _ _).trans (hmono post _)

/-- Full packets do not change the number of the last block. -/
lemma lastNumber_of_full (h : ∀ p ∈ ps, FILE_PACKET_SIZE ≤ p.nbytes) :
    infos.lastNumber ps = infos.lastPacket := by
  rw [lastNumber]
  generalize infos.lastPacket = n
  induction ps with
  | nil => rfl
  | cons p ps ih =>
      obtain ⟨hp, hps⟩ := List.forall_mem_cons.mp h
      rw [List.foldl_cons, if_neg (by omega)]
      exact ih hps

/-- As long as no short packet has come, a transfer is not complete. -/
lemma not_completes_of_full (hlast : infos.lastPacket = 0) (hne : ps ≠ [])
    (hpos : ∀ p ∈ ps, 0 < p.numblock.toNat) (h : ∀ p ∈ ps, FILE_PACKET_SIZE ≤ p.nbytes) :
    ¬infos.Completes ps := by
  obtain ⟨p, hp⟩ := List.exists_mem_of_ne_nil ps hne
  have hle : p.numblock.toNat ≤ infos.highest ps := numblock_le_highest hp
  have hposp := hpos p hp
  rw [Completes, lastNumber_of_full h, hlast, UInt16.toNat_zero]
  omega

/-- What storing a block does. -/
structure Records (infos : FileTransferInfos) (p : Packet) (infos' : FileTransferInfos) : Prop where
  wf : infos'.fileData.Wf
  active_eq : infos'.active = infos.active
  length_eq : infos'.fileData.length = max infos.fileData.length p.numblock.toNat
  slots_eq : infos'.fileData.slots.length = max infos.fileData.slots.length p.numblock.toNat
  last_eq : infos'.lastPacket =
    if p.nbytes < FILE_PACKET_SIZE then p.numblock else infos.lastPacket
  size_eq : infos'.fileSize = infos.fileSize + p.nbytes

/-- **Storing a block** with a positive number always succeeds. -/
lemma record_spec (hwf : infos.fileData.Wf) (hpos : 0 < p.numblock.toNat) :
    ∃ infos', infos.record p.numblock p.data p.nbytes = some infos' ∧ Records infos p infos' := by
  have hlt := p.numblock.toNat_lt
  have hsub : sizeSub p.numblock.toNat 1 = p.numblock.toNat - 1 := if_pos hpos
  obtain ⟨a, hset, hwf', hlength, hcapacity, -, -⟩ :=
    CArray.set_spec hwf (i := p.numblock.toNat - 1) (by omega) p.data
  rw [record, hsub, hset]
  refine ⟨_, rfl, hwf', rfl, ?_, ?_, rfl, rfl⟩
  · show a.length = _
    omega
  · show a.slots.length = _
    have hslots := hwf.slots_length
    have hslots' := hwf'.slots_length
    omega

namespace Records

lemma highest_cons (h : Records infos p infos') (qs : List Packet) :
    infos.highest (p :: qs) = infos'.highest qs := by
  rw [highest, highest, List.foldl_cons, h.length_eq]

lemma lastNumber_cons (h : Records infos p infos') (qs : List Packet) :
    infos.lastNumber (p :: qs) = infos'.lastNumber qs := by
  rw [lastNumber, lastNumber, List.foldl_cons, h.last_eq]

lemma total_cons (h : Records infos p infos') (qs : List Packet) :
    infos.total (p :: qs) = infos'.total qs := by
  rw [total, total, List.foldl_cons, h.size_eq]

lemma storage_cons (h : Records infos p infos') (qs : List Packet) :
    infos.storage (p :: qs) = infos'.storage qs := by
  rw [storage, storage, List.foldl_cons, h.slots_eq]

lemma completes_cons (h : Records infos p infos') (qs : List Packet) :
    infos.Completes (p :: qs) ↔ infos'.Completes qs := by
  rw [Completes, Completes, h.highest_cons, h.lastNumber_cons]

/-- The packet completes the transfer exactly when the test of `add_packet` holds after it. -/
lemma completes_singleton (h : Records infos p infos') :
    infos.Completes [p] ↔ infos'.received = true := by
  rw [h.completes_cons, Completes, received, beq_iff_eq]
  rfl

/-- A packet that completes the transfer. -/
lemma overreads_of_completes (h : Records infos p infos') (hcomplete : infos.Completes [p])
    (ps : List Packet) : infos.Overreads (p :: ps) ↔
      infos'.fileData.slots.length * FILE_PACKET_SIZE < infos'.fileSize := by
  have hstorage : infos.storage [p] = infos'.fileData.slots.length := h.storage_cons []
  have htotal : infos.total [p] = infos'.fileSize := h.total_cons []
  constructor
  · rintro ⟨qs, hpre, hne, -, hfirst, hover⟩
    -- the first packets that complete it are this one
    have hqs : qs = [p] := by
      by_contra hlong
      obtain _ | ⟨q, qs⟩ := qs
      · exact hne rfl
      · obtain ⟨rfl, -⟩ := List.cons_prefix_cons.mp hpre
        exact hfirst [q] (by simp) (List.cons_ne_nil _ _) (Ne.symm hlong) hcomplete
    rwa [hqs, hstorage, htotal] at hover
  · intro hover
    refine ⟨[p], by simp, List.cons_ne_nil _ _, hcomplete, fun qs' hpre hne hother => ?_, ?_⟩
    · obtain _ | ⟨q, qs'⟩ := qs'
      · exact absurd rfl hne
      · obtain ⟨rfl, hnil⟩ := List.cons_prefix_cons.mp hpre
        rw [List.prefix_nil.mp hnil] at hother
        exact absurd rfl hother
    · rwa [hstorage, htotal]

/-- A packet that does not complete it. -/
lemma overreads_of_not_completes (h : Records infos p infos') (hgoing : ¬infos.Completes [p])
    (ps : List Packet) : infos.Overreads (p :: ps) ↔ infos'.Overreads ps := by
  constructor
  · rintro ⟨qs, hpre, hne, hcomplete, hfirst, hover⟩
    obtain _ | ⟨q, qs⟩ := qs
    · exact absurd rfl hne
    · obtain ⟨rfl, hpre₁⟩ := List.cons_prefix_cons.mp hpre
      refine ⟨qs, hpre₁, fun hnil => hgoing (hnil ▸ hcomplete), (h.completes_cons qs).mp hcomplete,
        fun qs' hpre' hne' hother hcomplete' => ?_, ?_⟩
      · exact hfirst (q :: qs') (List.cons_prefix_cons.mpr ⟨rfl, hpre'⟩) (List.cons_ne_nil _ _)
          (fun heq => hother (List.cons.inj heq).2) ((h.completes_cons qs').mpr hcomplete')
      · rwa [h.storage_cons, h.total_cons] at hover
  · rintro ⟨qs, hpre, hne, hcomplete, hfirst, hover⟩
    refine ⟨p :: qs, List.cons_prefix_cons.mpr ⟨rfl, hpre⟩, List.cons_ne_nil _ _,
      (h.completes_cons qs).mpr hcomplete, fun qs' hpre' hne' hother hcomplete' => ?_, ?_⟩
    · obtain _ | ⟨q, qs'⟩ := qs'
      · exact hne' rfl
      · obtain ⟨rfl, hpre₁⟩ := List.cons_prefix_cons.mp hpre'
        by_cases hnil : qs' = []
        · exact hgoing (hnil ▸ hcomplete')
        · exact hfirst qs' hpre₁ hnil (fun heq => hother (by rw [heq]))
            ((h.completes_cons qs').mp hcomplete')
    · rwa [h.storage_cons, h.total_cons]

end Records

end FileTransferInfos

/-! ### The slot as a machine -/

/-- A packet at the slot of a user, or at none. -/
def slotStep (c : Option FileTransferInfos) (p : Packet) :
    Option (Option FileTransferInfos × Option FileTransferInfos) :=
  c.bind fun infos => (infos.takePacket p).map fun r => (some r.1, r.2)

variable {A : Type} {pkt : A → Packet} {infos : FileTransferInfos}

/-- An inactive slot ignores all packets. -/
lemma exists_run_inactive (pkt : A → Packet) (hfree : infos.active = false) (as : List A) :
    ∃ us c, Machine.Run (fun c a => slotStep c (pkt a)) (some infos) us c ∧
      us.map (·.act) = as := by
  induction as with
  | nil => exact ⟨[], _, .nil _, rfl⟩
  | cons a as ih =>
      obtain ⟨us, c, hrun, hacts⟩ := ih
      have hstep : slotStep (some infos) (pkt a) = some (some infos, none) := by
        rw [slotStep, Option.bind_some, FileTransferInfos.takePacket, hfree, if_neg (by simp)]
        rfl
      exact ⟨_, c, .cons hstep hrun, by rw [List.map_cons, hacts]⟩

/-- **The slot takes all packets in** unless the transfer is complete with more bytes counted than
there is storage for. -/
theorem exists_run_iff (hpos : ∀ a, 0 < (pkt a).numblock.toNat) (hwf : infos.fileData.Wf)
    (hactive : infos.active = true) (as : List A) :
    (∃ us c, Machine.Run (fun c a => slotStep c (pkt a)) (some infos) us c ∧
      us.map (·.act) = as) ↔ ¬infos.Overreads (as.map pkt) := by
  induction as generalizing infos with
  | nil =>
      refine iff_of_true ⟨[], _, .nil _, rfl⟩ ?_
      rintro ⟨qs, hpre, hne, -⟩
      exact hne (List.prefix_nil.mp hpre)
  | cons a as ih =>
      obtain ⟨infos', hrecord, hrec⟩ := FileTransferInfos.record_spec hwf (hpos a)
      rw [List.map_cons]
      by_cases hcomplete : infos.Completes [pkt a]
      · have hreceived := hrec.completes_singleton.mp hcomplete
        rw [hrec.overreads_of_completes hcomplete, not_lt]
        have htake : infos.takePacket (pkt a) =
            if infos'.fileSize ≤ infos'.fileData.slots.length * FILE_PACKET_SIZE then
              some (.zero, some infos') else none := by
          rw [FileTransferInfos.takePacket, if_pos hactive, hrecord, Option.bind_some,
            if_pos hreceived]
        constructor
        · rintro ⟨us, c, hrun, hacts⟩
          cases hrun with
          | nil => cases hacts
          | @cons _ c₁ _ b o us hs hr =>
              obtain ⟨hb, -⟩ := List.cons.inj hacts
              obtain rfl : b = a := hb
              by_contra hover
              rw [slotStep, Option.bind_some, htake, if_neg hover] at hs
              cases hs
        · intro hfit
          obtain ⟨us, c, hrun, hacts⟩ := exists_run_inactive pkt
            (show FileTransferInfos.zero.active = false from rfl) as
          rw [if_pos hfit] at htake
          have hstep : slotStep (some infos) (pkt a) = some (some .zero, some infos') := by
            rw [slotStep, Option.bind_some, htake]
            rfl
          exact ⟨_, c, .cons hstep hrun, by rw [List.map_cons, hacts]⟩
      · have hgoing := mt hrec.completes_singleton.mpr hcomplete
        rw [hrec.overreads_of_not_completes hcomplete,
          ← ih hrec.wf (hrec.active_eq.trans hactive)]
        have hstep : slotStep (some infos) (pkt a) = some (some infos', none) := by
          rw [slotStep, Option.bind_some, FileTransferInfos.takePacket, if_pos hactive, hrecord,
            Option.bind_some, if_neg hgoing]
          rfl
        constructor
        · rintro ⟨us, c, hrun, hacts⟩
          cases hrun with
          | nil => cases hacts
          | @cons _ c₁ _ b o us hs hr =>
              obtain ⟨hb, hrest⟩ := List.cons.inj hacts
              obtain rfl : b = a := hb
              rw [hstep] at hs
              obtain ⟨rfl, -⟩ := Prod.mk.inj (Option.some.inj hs)
              exact ⟨us, c, hr, hrest⟩
        · rintro ⟨us, c, hrun, hacts⟩
          exact ⟨_, c, .cons hstep hrun, by rw [List.map_cons, hacts]⟩

end Megaphone
