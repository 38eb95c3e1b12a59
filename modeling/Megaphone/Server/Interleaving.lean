import Megaphone.Library.Components
import Megaphone.Network.Slot
import Megaphone.Server.Datagrams

/-!
Uploads of several users at once: the datagrams of one user and those of another, in any order.

* `BlockDatagram`: a datagram of an upload with a positive block number.
* `Server.uploadStep`: a round of `udp_server_loop`, and the transfer that it completes, if it does.
* `exists_takesDatagram`, `uploadStep_eq_none`: the slot of the user decides what happens, and no
  other slot changes; `components`: so that the slots are the components of the server.
* `Server.Unaffected`: what happens to the upload of a user is what happens without the datagrams of
  the other ones.
* `uploads_independent_iff`: it is so exactly when no upload is completed with more bytes counted
  than there is storage for.
-/

namespace Megaphone

open Memory Machine

/-- A datagram of an upload, with the outside at its arrival. -/
structure BlockDatagram where
  env : WorkingEnv
  bytes : List UInt8
  four_le : 4 ≤ bytes.length
  type_eq : getRqType (datagramHeader bytes) = UPLOAD
  pos : 0 < (datagramNumblock bytes).toNat

namespace BlockDatagram

/-- The user. -/
def id (d : BlockDatagram) : UInt16 := Server.datagramId d.bytes

/-- What `add_packet` gets of the datagram. -/
def packet (d : BlockDatagram) : Packet :=
  ⟨datagramNumblock d.bytes, write d.env.1.junk 0 (datagramPayload d.bytes),
    (datagramPayload d.bytes).length⟩

end BlockDatagram

namespace Server

/-- The slot that `add_packet` finds for a user. -/
def slotOf (s : Server) (id : UInt16) : Option FileTransferInfos :=
  (s.transferFiles.get id.toNat).bind s.transferFiles.at?

/-- The transfer that a datagram completes, with all its blocks. -/
def completedBy (s : Server) (d : BlockDatagram) : Option FileTransferInfos := do
  let infos ← s.slotOf d.id
  if infos.active then
    let infos ← infos.record d.packet.numblock d.packet.data d.packet.nbytes
    if infos.received then some infos else none
  else none

/-- One round of `udp_server_loop` that does not end it, with the transfer that is completed. -/
def uploadStep (s : Server) (d : BlockDatagram) : Option (Server × Option FileTransferInfos) := do
  let (err, s') ← s.udpServerLoop d.env.1 d.bytes
  if err = 0 then some (s', s.completedBy d) else none

/-- The number of feeds that the end of a transfer makes. -/
def newFeeds : Option FileTransferInfos → ℕ
  | some infos => if infos.feedNumber = 0 then 1 else 0
  | none => 0

variable {s s' : Server} {d : BlockDatagram}

/-! ### One datagram -/

lemma slotOf_eq_some {id : UInt16} {infos : FileTransferInfos} (h : s.slotOf id = some infos) :
    s.transferFiles.get id.toNat = some id.toNat ∧
      s.transferFiles.at? id.toNat = some infos := by
  obtain ⟨i, hi, hat⟩ := Option.bind_eq_some_iff.mp h
  obtain rfl := CArray.eq_of_get hi
  exact ⟨hi, hat⟩

/-- A slot depends on the length of the table and on what it holds. -/
lemma slotOf_congr {id : UInt16} (hlength : s'.transferFiles.length = s.transferFiles.length)
    (hat : s'.transferFiles.at? id.toNat = s.transferFiles.at? id.toNat) :
    s'.slotOf id = s.slotOf id := by
  rw [slotOf, slotOf, CArray.get, CArray.get, hlength]
  split
  · rfl
  · exact hat

lemma udpServerLoop_packet (s : Server) (d : BlockDatagram) :
    s.udpServerLoop d.env.1 d.bytes =
      s.addPacket d.env.1 d.id d.packet.numblock d.packet.data d.packet.nbytes :=
  udpServerLoop_eq d.env.1 s d.four_le d.type_eq

/-- **The end of a transfer** that is backed: the slot is cleared, and there is a new feed if it is
for none yet, unless the file is read over the storage. -/
lemma completeTransfer_backed {env : Env} {id : UInt16} {infos : FileTransferInfos}
    (henv : env.Works) (hbacked : s.Backed id.toNat infos) (hroom : s.feeds.toList.length < 65535) :
    (¬infos.fileSize ≤ infos.fileData.slots.length * FILE_PACKET_SIZE →
      s.completeTransfer env id id.toNat infos = none) ∧
    (infos.fileSize ≤ infos.fileData.slots.length * FILE_PACKET_SIZE →
      ∃ s', s.completeTransfer env id id.toNat infos = some (0, s') ∧
        (∃ infos', s'.transferFiles =
          (s.transferFiles.write id.toNat infos').write id.toNat .zero) ∧
        s'.feeds.toList.length = s.feeds.toList.length + newFeeds (some infos)) := by
  obtain ⟨pseudo, hpseudo⟩ := exists_pseudo hbacked.user
  obtain ⟨i, feed, hfeed, hnum, -⟩ := exists_target hbacked.feed_le (fun _ => hroom) env pseudo
  set s₁ := s.withFeed env pseudo infos with hs₁
  set infos' := withNumber infos s₁.feeds.length with hinfos'
  obtain ⟨post, hannounce⟩ : ∃ post, (s₁.putTransfer id.toNat infos').announce env pseudo infos' =
      some ((s₁.putTransfer id.toNat infos').appendPost i feed post) := by
    rw [announce, hnum]
    exact ⟨_, postNew_eq hfeed⟩
  have hend : s.completeTransfer env id id.toNat infos =
      ((s₁.putTransfer id.toNat infos').announce env pseudo infos').bind fun s₂ =>
        (infos'.content env.junk).map fun bytes => (0, ({ s₂ with
          disk := s₂.disk ++ [(filePathOf infos', bytes)] }.putTransfer id.toNat .zero)) :=
    completeTransfer_eq henv hpseudo
  have hcontent : infos'.content env.junk = infos.content env.junk :=
    content_withNumber infos s₁.feeds.length env.junk
  rw [hannounce, Option.bind_some, hcontent] at hend
  have hsome := infos.content_isSome_iff env.junk
  refine ⟨fun hover => ?_, fun hfit => ?_⟩
  · rw [← hsome, Option.not_isSome_iff_eq_none] at hover
    rw [hend, hover]
    rfl
  · obtain ⟨bytes, hbytes⟩ := Option.isSome_iff_exists.mp (hsome.mpr hfit)
    rw [hbytes] at hend
    refine ⟨_, hend, ⟨infos', ?_⟩, ?_⟩
    · show (s₁.transferFiles.write id.toNat infos').write id.toNat .zero = _
      rw [hs₁, transferFiles_withFeed]
    · show (s₁.feeds.toList.set i _).length = _
      rw [List.length_set, hs₁, withFeed, newFeeds]
      split
      · exact List.length_append
      · rfl

/-- What a datagram does to the server when it takes the slot of its user from one state to
another. -/
structure TakesDatagram (s : Server) (d : BlockDatagram) (s' : Server)
    (c : Option FileTransferInfos) (o : Option FileTransferInfos) : Prop where
  step_eq : s.uploadStep d = some (s', o)
  inv : s'.TableInv
  slot_eq : s'.slotOf d.id = c
  frame : ∀ id, id ≠ d.id → s'.slotOf id = s.slotOf id
  feeds_eq : s'.feeds.toList.length = s.feeds.toList.length + newFeeds o

/-- `add_packet` on an active slot. -/
lemma addPacket_active {infos infos' : FileTransferInfos} (hslot : s.slotOf d.id = some infos)
    (hactive : infos.active = true)
    (hrecord : infos.record d.packet.numblock d.packet.data d.packet.nbytes = some infos') :
    s.addPacket d.env.1 d.id d.packet.numblock d.packet.data d.packet.nbytes =
      if infos'.received then
        (s.putTransfer d.id.toNat infos').completeTransfer d.env.1 d.id d.id.toNat infos'
      else some (0, s.putTransfer d.id.toNat infos') := by
  obtain ⟨hget, hat⟩ := slotOf_eq_some hslot
  rw [addPacket, hget]
  simp only [hat, Option.bind_eq_bind, Option.bind_some, hactive, if_true, hrecord]
  rfl

/-- The transfer that the datagram completes. -/
lemma completedBy_active {infos infos' : FileTransferInfos} (hslot : s.slotOf d.id = some infos)
    (hactive : infos.active = true)
    (hrecord : infos.record d.packet.numblock d.packet.data d.packet.nbytes = some infos') :
    s.completedBy d = if infos'.received then some infos' else none := by
  simp only [completedBy, hslot, Option.bind_eq_bind, Option.bind_some, hactive, if_true, hrecord]

/-- A transfer in the slot of the datagram is backed after the block has been stored as before. -/
lemma TableInv.backed_putTransfer {infos infos' : FileTransferInfos} (hinv : s.TableInv)
    (hslot : s.slotOf d.id = some infos) (hactive : infos.active = true)
    (hrecord : infos.record d.packet.numblock d.packet.data d.packet.nbytes = some infos') :
    (s.putTransfer d.id.toNat infos').Backed d.id.toNat infos' := by
  have hbacked := hinv.backed _ infos (slotOf_eq_some hslot).2 hactive
  refine ⟨hbacked.user, ?_⟩
  rw [(record_eq_some hrecord).2.1]
  exact hbacked.feed_le

/-- **One datagram**: what it does to the slot of its user is what it does to the server. -/
lemma exists_takesDatagram {c o : Option FileTransferInfos} (hinv : s.TableInv)
    (hroom : s.feeds.toList.length < 65535)
    (h : slotStep (s.slotOf d.id) d.packet = some (c, o)) : ∃ s', s.TakesDatagram d s' c o := by
  obtain ⟨infos, hslot, h⟩ := Option.bind_eq_some_iff.mp h
  obtain ⟨⟨infos₁, o₁⟩, htake, h⟩ := Option.map_eq_some_iff.mp h
  obtain ⟨rfl, rfl⟩ := Prod.mk.inj h
  obtain ⟨hget, hat⟩ := slotOf_eq_some hslot
  -- it is enough to find what `add_packet` leaves
  suffices hadd : ∃ s', s.addPacket d.env.1 d.id d.packet.numblock d.packet.data d.packet.nbytes =
      some (0, s') ∧ s.completedBy d = o₁ ∧ s'.transferFiles.length = s.transferFiles.length ∧
      s'.transferFiles.at? d.id.toNat = some infos₁ ∧
      (∀ j, j ≠ d.id.toNat → s'.transferFiles.at? j = s.transferFiles.at? j) ∧
      s'.feeds.toList.length = s.feeds.toList.length + newFeeds o₁ by
    obtain ⟨s', hadd, hcompleted, hlength, hself, hother, hfeeds⟩ := hadd
    refine ⟨s', ?_, hinv.keeps (addPacket_keepsTable hadd), ?_, fun id hid => ?_, hfeeds⟩
    · rw [uploadStep, udpServerLoop_packet, hadd, hcompleted]
      rfl
    · have hget' : s'.transferFiles.get d.id.toNat = some d.id.toNat := by
        rw [CArray.get, hlength]
        exact hget
      rw [slotOf, hget']
      exact hself
    · exact slotOf_congr hlength (hother _ fun heq => hid (UInt16.toNat_inj.mp heq))
  rw [FileTransferInfos.takePacket] at htake
  by_cases hactive : infos.active = true
  · rw [if_pos hactive] at htake
    obtain ⟨infos', hrecord, htake⟩ := Option.bind_eq_some_iff.mp htake
    have hslots : d.id.toNat < s.transferFiles.slots.length := by
      have hle := datagramId_le d.bytes
      rw [hinv.slots_length]
      exact Nat.lt_succ_of_le hle
    rw [addPacket_active hslot hactive hrecord, completedBy_active hslot hactive hrecord]
    by_cases hreceived : infos'.received = true
    · rw [if_pos hreceived] at htake ⊢
      split at htake
      next hfit =>
        obtain ⟨rfl, rfl⟩ := Prod.mk.inj (Option.some.inj htake)
        obtain ⟨s', hend, ⟨infos'', htable⟩, hfeeds⟩ := (completeTransfer_backed d.env.2
          (hinv.backed_putTransfer hslot hactive hrecord) hroom).2 hfit
        refine ⟨s', hend, if_pos hreceived, ?_, ?_, fun j hj => ?_, hfeeds⟩
        · rw [htable]
          rfl
        · rw [htable]
          exact CArray.at?_write_self _ _ (by simpa [CArray.write, putTransfer] using hslots)
        · rw [htable, CArray.at?_write_of_ne _ _ hj, CArray.at?_write_of_ne _ _ hj]
          exact CArray.at?_write_of_ne _ _ hj
      next => cases htake
    · rw [if_neg hreceived] at htake ⊢
      obtain ⟨rfl, rfl⟩ := Prod.mk.inj (Option.some.inj htake)
      exact ⟨_, rfl, if_neg hreceived, rfl, CArray.at?_write_self _ _ hslots,
        fun j hj => CArray.at?_write_of_ne _ _ hj, rfl⟩
  · rw [if_neg hactive] at htake
    obtain ⟨rfl, rfl⟩ := Prod.mk.inj (Option.some.inj htake)
    refine ⟨s, ?_, ?_, rfl, hat, fun _ _ => rfl, rfl⟩
    · rw [addPacket, hget]
      simp only [hat, Option.bind_eq_bind, Option.bind_some, if_neg hactive]
      rfl
    · simp only [completedBy, hslot, Option.bind_eq_bind, Option.bind_some, if_neg hactive]

/-- A datagram that the slot of its user does not take ends the loop, or the server. -/
lemma uploadStep_eq_none (hinv : s.TableInv) (hroom : s.feeds.toList.length < 65535)
    (h : slotStep (s.slotOf d.id) d.packet = none) : s.uploadStep d = none := by
  rw [uploadStep, udpServerLoop_packet]
  cases hslot : s.slotOf d.id with
  | none =>
      -- every slot that `get` finds holds a transfer
      have hget : s.transferFiles.get d.id.toNat = none := by
        rw [slotOf, Option.bind_eq_none_iff] at hslot
        by_contra hsome
        obtain ⟨i, hi⟩ := Option.ne_none_iff_exists'.mp hsome
        obtain rfl := CArray.eq_of_get hi
        obtain ⟨infos, hat⟩ := hinv.filled d.id.toNat (datagramId_le d.bytes)
        have hnone := hslot _ hi
        rw [hat] at hnone
        cases hnone
      rw [addPacket, hget]
      rfl
  | some infos =>
      obtain ⟨infos', hrecord, -⟩ := FileTransferInfos.record_spec (p := d.packet)
        (hinv.wf _ infos (slotOf_eq_some hslot).2) d.pos
      rw [slotStep, hslot, Option.bind_some, Option.map_eq_none_iff,
        FileTransferInfos.takePacket] at h
      split at h
      next hactive =>
        rw [hrecord, Option.bind_some] at h
        split at h
        next hreceived =>
          split at h
          next => cases h
          next hover =>
            rw [addPacket_active hslot hactive hrecord, if_pos hreceived,
              (completeTransfer_backed d.env.2 (hinv.backed_putTransfer hslot hactive hrecord)
                hroom).1 hover]
            rfl
        next => cases h
      next => cases h

/-- **What a round does**: the slot of the user decides it. -/
lemma takesDatagram_of_uploadStep {o : Option FileTransferInfos} (hinv : s.TableInv)
    (hroom : s.feeds.toList.length < 65535) (h : s.uploadStep d = some (s', o)) :
    slotStep (s.slotOf d.id) d.packet = some (s'.slotOf d.id, o) ∧
      s.TakesDatagram d s' (s'.slotOf d.id) o := by
  cases hslot : slotStep (s.slotOf d.id) d.packet with
  | none =>
      rw [uploadStep_eq_none hinv hroom hslot] at h
      cases h
  | some r =>
      obtain ⟨c, o'⟩ := r
      obtain ⟨s'', htakes⟩ := exists_takesDatagram hinv hroom hslot
      have heq := htakes.step_eq
      rw [h] at heq
      obtain ⟨rfl, rfl⟩ := Prod.mk.inj (Option.some.inj heq)
      rw [htakes.slot_eq]
      exact ⟨rfl, htakes⟩

/-- **The slots are the components of the server**, as long as there are fewer than 65535 feeds. -/
lemma components : Components uploadStep (fun c d => slotStep c d.packet) BlockDatagram.id slotOf
    TableInv (fun s => s.feeds.toList.length < 65535) := by
  refine ⟨fun s d c o hinv hroom hslot => ?_, fun s d s' o hinv hroom hs => ?_,
    fun s d s' o hinv hroom hs => ?_, fun s d s' o hinv hroom hs => ?_⟩
  · obtain ⟨s', htakes⟩ := exists_takesDatagram hinv hroom hslot
    exact ⟨s', htakes.step_eq⟩
  · exact (takesDatagram_of_uploadStep hinv hroom hs).1
  · exact (takesDatagram_of_uploadStep hinv hroom hs).2.frame
  · exact (takesDatagram_of_uploadStep hinv hroom hs).2.inv

/-! ### Sequences of datagrams -/

/-- After every datagram, the slot of user `a` is the one that the datagrams of `a` alone leave, and
the upload of `a` is completed at the same datagram with the same blocks, if it is. -/
def Unaffected (s : Server) (a : UInt16) (ds : List BlockDatagram) : Prop :=
  ∃ ts s' us s'', Run uploadStep s ts s' ∧ ts.map (·.act) = ds ∧
    Run uploadStep s us s'' ∧ us.map (·.act) = ds.filter (·.id = a) ∧
    List.Forall₂ (fun t u => t.act = u.act ∧ t.out = u.out ∧ t.post.slotOf a = u.post.slotOf a)
      (ofKey BlockDatagram.id a ts) us ∧
    ∀ t ∈ ts, t.act.id ≠ a → t.post.slotOf a = t.pre.slotOf a

/-- The state without the datagrams of the other users. -/
structure Alone (a : UInt16) (s s₁ : Server) : Prop where
  inv : s.TableInv
  inv_alone : s₁.TableInv
  slot_eq : s.slotOf a = s₁.slotOf a
  feeds_le : s₁.feeds.toList.length ≤ s.feeds.toList.length

/-- A datagram of the user. -/
lemma Alone.own {a : UInt16} {s₁ : Server} {o : Option FileTransferInfos} (h : Alone a s s₁)
    (hroom : s.feeds.toList.length < 65535) (hd : d.id = a) (hs : s.uploadStep d = some (s', o)) :
    ∃ s₁', s₁.uploadStep d = some (s₁', o) ∧ Alone a s' s₁' := by
  subst hd
  obtain ⟨hslot, htakes⟩ := takesDatagram_of_uploadStep h.inv hroom hs
  rw [h.slot_eq] at hslot
  obtain ⟨s₁', htakes₁⟩ :=
    exists_takesDatagram h.inv_alone (lt_of_le_of_lt h.feeds_le hroom) hslot
  refine ⟨s₁', htakes₁.step_eq, htakes.inv, htakes₁.inv, htakes₁.slot_eq.symm, ?_⟩
  rw [htakes.feeds_eq, htakes₁.feeds_eq]
  exact Nat.add_le_add_right h.feeds_le _

/-- A datagram of another user. -/
lemma Alone.other {a : UInt16} {s₁ : Server} {o : Option FileTransferInfos} (h : Alone a s s₁)
    (hroom : s.feeds.toList.length < 65535) (hd : d.id ≠ a) (hs : s.uploadStep d = some (s', o)) :
    Alone a s' s₁ := by
  obtain ⟨-, htakes⟩ := takesDatagram_of_uploadStep h.inv hroom hs
  refine ⟨htakes.inv, h.inv_alone, (htakes.frame a (Ne.symm hd)).trans h.slot_eq, ?_⟩
  rw [htakes.feeds_eq]
  exact h.feeds_le.trans (Nat.le_add_right _ _)

/-- A run that exists leaves the upload of a user unaffected. -/
lemma unaffected_of_run {a : UInt16} {ts : List (Transition Server BlockDatagram _)}
    (hinv : s.TableInv) (hrun : Run uploadStep s ts s')
    (hroom : ∀ t ∈ ts, t.pre.feeds.toList.length < 65535) :
    s.Unaffected a (ts.map (·.act)) := by
  obtain ⟨us, s₁', hus, -, hacts, hall⟩ := hrun.purge BlockDatagram.id (R := Alone a)
    (k := a) (fun _ _ _ _ _ h hroom hd hs => h.own hroom hd hs)
    (fun _ _ _ _ _ h hroom hd hs => h.other hroom hd hs) hroom ⟨hinv, hinv, rfl, le_rfl⟩
  refine ⟨ts, s', us, s₁', hrun, rfl, hus, hacts,
    hall.imp fun t u h => ⟨h.1, h.2.1, h.2.2.slot_eq⟩, fun t ht hne => ?_⟩
  obtain ⟨hinv', hstep⟩ := components.forall_transition hrun hinv hroom t ht
  exact components.frame _ _ _ _ hinv' (hroom t ht) hstep a (Ne.symm hne)

/-- The slot of a user with an active transfer. -/
lemma TableInv.slotOf_eq {id : UInt16} {infos : FileTransferInfos} (hinv : s.TableInv)
    (hat : s.transferFiles.at? id.toNat = some infos) (hactive : infos.active = true) :
    s.slotOf id = some infos := by
  have hlt := hinv.covered id.toNat infos hat hactive
  rw [slotOf, CArray.get, if_neg (by omega)]
  exact hat

/-- The slot of a user takes all datagrams of the user in, unless it is completed with more bytes
counted than there is storage for. -/
lemma TableInv.exists_slot_run_iff {id : UInt16} {infos : FileTransferInfos} (hinv : s.TableInv)
    (hat : s.transferFiles.at? id.toNat = some infos) (hactive : infos.active = true)
    (ds : List BlockDatagram) :
    (∃ us c, Run (fun c (d : BlockDatagram) => slotStep c d.packet) (s.slotOf id) us c ∧
      us.map (·.act) = ds) ↔ ¬infos.Overreads (ds.map (·.packet)) := by
  rw [hinv.slotOf_eq hat hactive]
  exact exists_run_iff (fun d => d.pos) (hinv.wf _ infos hat)
    hactive ds

/-- A sequence that exists takes no slot over its storage. -/
lemma not_overreads_of_run {id : UInt16} {infos : FileTransferInfos}
    {us : List (Transition Server BlockDatagram (Option FileTransferInfos))} (hinv : s.TableInv)
    (hat : s.transferFiles.at? id.toNat = some infos) (hactive : infos.active = true)
    (hrun : Run uploadStep s us s') (hroom : ∀ t ∈ us, t.pre.feeds.toList.length < 65535) :
    ¬infos.Overreads (((us.map (·.act)).filter (·.id = id)).map (·.packet)) := by
  refine (hinv.exists_slot_run_iff hat hactive _).mp
    ⟨_, _, components.view_run hrun hinv hroom id, ?_⟩
  rw [← map_act_ofKey, List.map_map]
  rfl

/-- There are fewer than 65535 feeds in every state that the datagrams lead through. -/
def Room (s : Server) (ds : List BlockDatagram) : Prop :=
  ∀ us s', Run uploadStep s us s' → us.map (·.act) <+: ds → s'.feeds.toList.length < 65535

lemma Room.pre {us : List (Transition Server BlockDatagram (Option FileTransferInfos))}
    {ds : List BlockDatagram} (h : s.Room ds) (hrun : Run uploadStep s us s')
    (hacts : us.map (·.act) = ds) : ∀ t ∈ us, t.pre.feeds.toList.length < 65535 := by
  intro t ht
  obtain ⟨vs, hpre, hvs⟩ := hrun.exists_prefix_of_mem ht
  exact h vs _ hvs (hacts ▸ hpre.map _)

/-- An upload that overreads affects the other ones. -/
lemma not_unaffected_of_overreads {a b : UInt16} {infos : FileTransferInfos}
    {ds : List BlockDatagram} (hinv : s.TableInv)
    (hat : s.transferFiles.at? b.toNat = some infos) (hactive : infos.active = true)
    (hroom : s.Room ds)
    (hover : infos.Overreads ((ds.filter (·.id = b)).map (·.packet))) : ¬s.Unaffected a ds := by
  rintro ⟨us, s', -, -, hus, hacts, -⟩
  have hnot := not_overreads_of_run hinv hat hactive hus (hroom.pre hus hacts)
  rw [hacts] at hnot
  exact hnot hover

/-- **Concurrent uploads do not interfere** exactly when none of them overreads.  In every state
that a run reaches, for two users with active transfers and every sequence of their datagrams, with
fewer than 65535 feeds all along: after every datagram the slot of user `a` is the one that the
datagrams of `a` alone leave, and the upload of `a` is completed at the same datagram with the same
blocks, if and only if neither of the two is completed with more bytes counted than there is storage
for. -/
theorem uploads_independent_iff {w : World} {ts : List ServerTransition}
    (h : Run step World.init ts w) {a b : UInt16} {infosA infosB : FileTransferInfos}
    (ha : w.server.transferFiles.at? a.toNat = some infosA) (haactive : infosA.active = true)
    (hb : w.server.transferFiles.at? b.toNat = some infosB) (hbactive : infosB.active = true)
    {ds : List BlockDatagram} (hds : ∀ d ∈ ds, d.id = a ∨ d.id = b)
    (hroom : w.server.Room ds) :
    w.server.Unaffected a ds ↔
      ¬infosA.Overreads ((ds.filter (·.id = a)).map (·.packet)) ∧
      ¬infosB.Overreads ((ds.filter (·.id = b)).map (·.packet)) := by
  have hinv := run_table h tableInv_dataInit
  constructor
  · intro hunaffected
    exact ⟨fun hover => not_unaffected_of_overreads hinv ha haactive hroom hover hunaffected,
      fun hover => not_unaffected_of_overreads hinv hb hbactive hroom hover hunaffected⟩
  · rintro ⟨hoverA, hoverB⟩
    have hslots : ∀ k, ∃ us c, Run (fun c (d : BlockDatagram) => slotStep c d.packet)
        (w.server.slotOf k) us c ∧ us.map (·.act) = ds.filter (·.id = k) := by
      intro k
      by_cases hka : k = a
      · subst hka
        exact (hinv.exists_slot_run_iff ha haactive _).mpr hoverA
      · by_cases hkb : k = b
        · subst hkb
          exact (hinv.exists_slot_run_iff hb hbactive _).mpr hoverB
        · -- no datagram is of another user
          have hnone : ds.filter (·.id = k) = [] := by
            rw [List.filter_eq_nil_iff]
            intro d hd heq
            rw [decide_eq_true_eq] at heq
            obtain hid | hid := hds d hd
            · exact hka (heq.symm.trans hid)
            · exact hkb (heq.symm.trans hid)
          exact ⟨[], _, .nil _, hnone.symm⟩
    obtain ⟨us, s', hus, hacts⟩ := components.exists_run hinv hslots hroom
    have hunaffected := unaffected_of_run (a := a) hinv hus (hroom.pre hus hacts)
    rwa [hacts] at hunaffected

/-! ### A block that comes nine times or more -/

/-- Every datagram makes one feed at most. -/
lemma room_of_length {ds : List BlockDatagram}
    (h : s.feeds.toList.length + ds.length < 65535) : s.Room ds := by
  intro us s' hus hpre
  have hle : s'.feeds.toList.length ≤ s.feeds.toList.length + us.length := by
    clear h hpre
    induction hus with
    | nil => exact le_rfl
    | @cons s s₁ s' d o us hs _ ih =>
        obtain ⟨⟨err, s₂⟩, hloop, hs⟩ := Option.bind_eq_some_iff.mp hs
        rw [udpServerLoop_packet] at hloop
        have hfeeds := (addPacket_posting hloop).length_feeds_le
        simp only at hs hfeeds
        split at hs
        · obtain ⟨rfl, -⟩ := Prod.mk.inj (Option.some.inj hs)
          rw [List.length_cons]
          omega
        · cases hs
  have hlength := hpre.length_le
  rw [List.length_map] at hlength
  omega

namespace Duplicates

lemma works_quiet : (Env.quiet []).Works := ⟨fun _ => rfl, fun _ => rfl, fun _ => rfl⟩

/-- The datagram of a block of `n` bytes; `id` is the byte of its user in the header. -/
def bytes (id numblock : UInt8) (n : ℕ) : List UInt8 :=
  [0, id, 0, numblock] ++ List.replicate n 97

lemma four_le_bytes (id numblock : UInt8) (n : ℕ) : 4 ≤ (bytes id numblock n).length := by
  simp [bytes]

lemma datagramHeader_bytes (id numblock : UInt8) (n : ℕ) :
    datagramHeader (bytes id numblock n) = ntohs (u16OfBytes [0, id]) := rfl

lemma type_one (numblock : UInt8) (n : ℕ) :
    getRqType (datagramHeader (bytes 37 numblock n)) = UPLOAD := by
  rw [datagramHeader_bytes]
  decide

lemma type_two (numblock : UInt8) (n : ℕ) :
    getRqType (datagramHeader (bytes 69 numblock n)) = UPLOAD := by
  rw [datagramHeader_bytes]
  decide

lemma pos_first (id : UInt8) (n : ℕ) : 0 < (datagramNumblock (bytes id 1 n)).toNat :=
  show 0 < (datagramNumblock [0, 0, 0, 1]).toNat by decide

lemma pos_second (id : UInt8) (n : ℕ) : 0 < (datagramNumblock (bytes id 2 n)).toNat :=
  show 0 < (datagramNumblock [0, 0, 0, 2]).toNat by decide

/-- The only block of user 1. -/
def oneOfOne : BlockDatagram :=
  ⟨⟨.quiet [], works_quiet⟩, bytes 37 1 1, four_le_bytes 37 1 1, type_one 1 1, pos_first 37 1⟩

/-- The first block of user 2. -/
def oneOfTwo : BlockDatagram :=
  ⟨⟨.quiet [], works_quiet⟩, bytes 69 1 512, four_le_bytes 69 1 512, type_two 1 512,
    pos_first 69 512⟩

/-- The last block of user 2. -/
def twoOfTwo : BlockDatagram :=
  ⟨⟨.quiet [], works_quiet⟩, bytes 69 2 1, four_le_bytes 69 2 1, type_two 2 1,
    pos_second 69 1⟩

/-- The first block of user 2 a number of times, and the last one. -/
def datagrams (n : ℕ) : List BlockDatagram := List.replicate n oneOfTwo ++ [twoOfTwo]

/-- Two users, each of whom uploads a file to a new feed. -/
def acts : List Input :=
  [.tcp (.quiet [0]) (.rg ⟨0, .replicate PSEUDO_LEN 97⟩),
    .tcp (.quiet [1]) (.rg ⟨0, .replicate PSEUDO_LEN 98⟩),
    .tcp (.quiet []) (.cl UPLOAD upload_ne ⟨mkHeader UPLOAD 1, 0, 0, 1, ofList [97] 0⟩),
    .tcp (.quiet []) (.cl UPLOAD upload_ne ⟨mkHeader UPLOAD 2, 0, 0, 1, ofList [98] 0⟩)]

lemma exists_run : ∃ ts w, Run step World.init ts w ∧ ts.map (·.act) = acts ∧
    w.server.feeds.toList.length = 0 ∧
    w.server.transferFiles.at? (1 : UInt16).toNat = some (transferInit 0 (ofList [97] 0) 0) ∧
    w.server.transferFiles.at? (2 : UInt16).toNat = some (transferInit 0 (ofList [98] 0) 0) :=
  ⟨_, _, .cons rfl (.cons rfl (.cons rfl (.cons rfl (.nil _)))), rfl, rfl, rfl, rfl⟩

lemma length_datagramPayload (id numblock : UInt8) {n : ℕ} (h : n ≤ FILE_PACKET_SIZE) :
    (datagramPayload (bytes id numblock n)).length = n := by
  simp [datagramPayload, bytes, h]

lemma id_two (numblock : UInt8) (n : ℕ) : getId (datagramHeader (bytes 69 numblock n)) = 2 := by
  rw [datagramHeader_bytes]
  decide

lemma id_datagrams {n : ℕ} : ∀ d ∈ datagrams n, d.id = 2 := by
  intro d hd
  rw [datagrams, List.mem_append, List.mem_replicate, List.mem_singleton] at hd
  obtain ⟨-, rfl⟩ | rfl := hd
  · exact id_two 1 512
  · exact id_two 2 1

/-! #### Only full blocks so far -/

/-- User 2 has sent no short block yet, and there is no feed. -/
structure OnlyFull (s : Server) : Prop where
  inv : s.TableInv
  slot : ∃ infos, s.slotOf 2 = some infos ∧ infos.active = true ∧ infos.lastPacket = 0
  feeds : s.feeds.toList.length = 0

lemma nbytes_oneOfTwo : oneOfTwo.packet.nbytes = 512 := length_datagramPayload 69 1 le_rfl

/-- The first block leaves it so. -/
lemma OnlyFull.step {o : Option FileTransferInfos} (h : OnlyFull s)
    (hs : s.uploadStep oneOfTwo = some (s', o)) : OnlyFull s' := by
  obtain ⟨infos, hslot, hactive, hlast⟩ := h.slot
  have hid : oneOfTwo.id = 2 := id_two 1 512
  obtain ⟨hstep, htakes⟩ :=
    takesDatagram_of_uploadStep h.inv (by rw [h.feeds]; exact Nat.zero_lt_succ 65534) hs
  obtain ⟨infos', hrecord, hrecords⟩ := FileTransferInfos.record_spec (p := oneOfTwo.packet)
    (h.inv.wf _ infos (slotOf_eq_some hslot).2) oneOfTwo.pos
  have hlast' : infos'.lastPacket = 0 := by
    rw [hrecords.last_eq, nbytes_oneOfTwo, if_neg (by decide), hlast]
  have hreceived : ¬infos'.received = true := by
    have hpos := oneOfTwo.pos
    rw [FileTransferInfos.received, beq_iff_eq, hlast', hrecords.length_eq, UInt16.toNat_zero]
    exact (lt_of_lt_of_le hpos (le_max_right _ _)).ne'
  have htake : slotStep (some infos) oneOfTwo.packet = some (some infos', none) := by
    rw [slotStep, Option.bind_some, FileTransferInfos.takePacket, if_pos hactive, hrecord,
      Option.bind_some, if_neg hreceived]
    rfl
  rw [hid, hslot, htake] at hstep
  obtain ⟨hslot', rfl⟩ := Prod.mk.inj (Option.some.inj hstep)
  refine ⟨htakes.inv, ⟨infos', hslot'.symm, hrecords.active_eq.trans hactive, hlast'⟩, ?_⟩
  rw [htakes.feeds_eq, h.feeds]
  rfl

/-- The last block makes a feed at most. -/
lemma OnlyFull.room (h : OnlyFull s) (n : ℕ) : s.Room (datagrams n) := by
  induction n generalizing s with
  | zero =>
      refine room_of_length ?_
      rw [h.feeds]
      exact Nat.lt_of_lt_of_le (Nat.one_lt_two) (by decide)
  | succ n ih =>
      intro us s' hus hpre
      cases hus with
      | nil =>
          rw [h.feeds]
          exact Nat.zero_lt_succ 65534
      | cons hs hus =>
          obtain ⟨rfl, htail⟩ := List.cons_prefix_cons.mp hpre
          exact ih (h.step hs) _ _ hus htail

/-! #### What has been counted -/

lemma foldl_max_replicate {p : Packet} {m : ℕ} (h : p.numblock.toNat ≤ m) (n : ℕ) :
    (List.replicate n p).foldl (fun n p => max n p.numblock.toNat) m = m := by
  induction n with
  | zero => rfl
  | succ n ih => rw [List.replicate_succ, List.foldl_cons, max_eq_left h, ih]

lemma foldl_add_replicate (p : Packet) (m n : ℕ) :
    (List.replicate n p).foldl (fun n p => n + p.nbytes) m = m + n * p.nbytes := by
  induction n generalizing m with
  | zero => rw [Nat.zero_mul]; rfl
  | succ n ih => rw [List.replicate_succ, List.foldl_cons, ih, Nat.succ_mul]; omega

/-- When the last block comes, the bytes of the first one have been counted each time, and there is
storage for eight blocks. -/
lemma overreads (now : ℕ) (fileName : ℕ → UInt8) {n : ℕ} (hn : 9 ≤ n) :
    (transferInit now fileName 0).Overreads ((datagrams n).map (·.packet)) := by
  set infos := transferInit now fileName 0
  obtain ⟨k, rfl⟩ := Nat.exists_eq_add_of_le hn
  have hshort : twoOfTwo.packet.nbytes = 1 := length_datagramPayload 69 2 (by decide)
  have hmap : (datagrams (9 + k)).map (·.packet) =
      List.replicate (9 + k) oneOfTwo.packet ++ [twoOfTwo.packet] := by
    rw [datagrams, List.map_append, List.map_replicate, List.map_singleton]
  have hfull : ∀ p ∈ List.replicate (9 + k) oneOfTwo.packet, FILE_PACKET_SIZE ≤ p.nbytes :=
    fun p hp => by
      rw [List.eq_of_mem_replicate hp, nbytes_oneOfTwo, FILE_PACKET_SIZE]
  have hhighest : infos.highest (List.replicate (9 + k) oneOfTwo.packet) = 1 := by
    rw [Nat.add_comm, FileTransferInfos.highest, List.replicate_succ, List.foldl_cons]
    exact foldl_max_replicate (p := oneOfTwo.packet) le_rfl (k + 8)
  have hstorage : infos.storage (List.replicate (9 + k) oneOfTwo.packet) = 8 :=
    foldl_max_replicate (p := oneOfTwo.packet) (m := 8) (by decide) (9 + k)
  have htotal : infos.total (List.replicate (9 + k) oneOfTwo.packet) = (9 + k) * 512 := by
    rw [FileTransferInfos.total, foldl_add_replicate, nbytes_oneOfTwo]
    exact Nat.zero_add _
  rw [hmap]
  refine ⟨_, List.prefix_rfl, by simp, ?_, fun qs' hpre hne hother => ?_, ?_⟩
  · show (List.foldl _ _ _) = (List.foldl _ _ _ : UInt16).toNat
    rw [List.foldl_append, List.foldl_append]
    show max (infos.highest _) 2 = (if twoOfTwo.packet.nbytes < FILE_PACKET_SIZE then
      twoOfTwo.packet.numblock
      else infos.lastNumber (List.replicate (9 + k) oneOfTwo.packet)).toNat
    rw [hhighest, hshort, if_pos (by decide)]
    rfl
  · -- before the last block only full ones have come
    obtain heq | hpre := List.prefix_concat_iff.mp hpre
    · exact absurd heq hother
    · refine FileTransferInfos.not_completes_of_full rfl hne (fun p hp => ?_) fun p hp =>
        hfull p (hpre.subset hp)
      rw [List.eq_of_mem_replicate (hpre.subset hp)]
      exact pos_first 69 512
  · show (List.foldl _ _ _) * FILE_PACKET_SIZE < List.foldl _ _ _
    rw [List.foldl_append, List.foldl_append]
    show max (infos.storage _) 2 * FILE_PACKET_SIZE < infos.total _ + twoOfTwo.packet.nbytes
    rw [hstorage, htotal, hshort, FILE_PACKET_SIZE]
    omega

/-- User 2 sends the first block nine times or more, and the server reads over the blocks when the
last one comes, the further the more often it came: nothing is left of the upload of user 1. -/
theorem not_unaffected : ∃ ts w infosA infosB, Run step World.init ts w ∧ ts.map (·.act) = acts ∧
    w.server.transferFiles.at? (1 : UInt16).toNat = some infosA ∧ infosA.active = true ∧
    w.server.transferFiles.at? (2 : UInt16).toNat = some infosB ∧ infosB.active = true ∧
    ∀ n, 9 ≤ n → (∀ d ∈ datagrams n, d.id = 1 ∨ d.id = 2) ∧ w.server.Room (datagrams n) ∧
      ¬w.server.Unaffected 1 (datagrams n) := by
  obtain ⟨ts, w, hrun, hacts, hfeeds, hone, htwo⟩ := exists_run
  have hinv := run_table hrun tableInv_dataInit
  have honly : OnlyFull w.server := ⟨hinv, ⟨_, hinv.slotOf_eq htwo rfl, rfl, rfl⟩, hfeeds⟩
  refine ⟨ts, w, _, _, hrun, hacts, hone, rfl, htwo, rfl, fun n hn =>
    ⟨fun d hd => .inr (id_datagrams d hd), honly.room n,
      not_unaffected_of_overreads hinv htwo rfl (honly.room n) ?_⟩⟩
  have hall : (datagrams n).filter (·.id = 2) = datagrams n :=
    List.filter_eq_self.mpr fun d hd => decide_eq_true (id_datagrams d hd)
  rw [hall]
  exact overreads 0 _ hn

/-- Both users send a block. -/
theorem uploads_independent_iff_two : ∃ ts w infosA infosB, Run step World.init ts w ∧
    w.server.transferFiles.at? (1 : UInt16).toNat = some infosA ∧ infosA.active = true ∧
    w.server.transferFiles.at? (2 : UInt16).toNat = some infosB ∧ infosB.active = true ∧
    (w.server.Unaffected 1 [oneOfTwo, oneOfOne, twoOfTwo] ↔
      ¬infosA.Overreads (([oneOfTwo, oneOfOne, twoOfTwo].filter (·.id = 1)).map (·.packet)) ∧
      ¬infosB.Overreads (([oneOfTwo, oneOfOne, twoOfTwo].filter (·.id = 2)).map (·.packet))) := by
  obtain ⟨ts, w, hrun, -, hfeeds, hone, htwo⟩ := exists_run
  refine ⟨ts, w, _, _, hrun, hone, rfl, htwo, rfl, uploads_independent_iff hrun hone rfl htwo rfl
    (fun d hd => ?_) (room_of_length ?_)⟩
  · rw [List.mem_cons, List.mem_cons, List.mem_singleton] at hd
    obtain rfl | rfl | rfl := hd
    · exact .inr (id_two 1 512)
    · left
      show getId (datagramHeader (bytes 37 1 1)) = 1
      rw [datagramHeader_bytes]
      decide
    · exact .inr (id_two 2 1)
  · rw [hfeeds]
    decide

end Duplicates

end Server

end Megaphone
