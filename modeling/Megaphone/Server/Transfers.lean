import Megaphone.Server.Upload
import Megaphone.Server.Table

/-!
The table of the transfers of the server.

* `transferNew_eq`: `transfer_new` puts a fresh transfer in the slot of the user.
* `run_wf`: the table is well formed after every run.
* `uploading_of_run`: an upload request that is accepted after a run starts a transfer.
* `transfers_backed`: every active transfer is backed by the store.
-/

namespace Megaphone

open Memory

namespace Server

variable {env : Env} {s : Server} {id : UInt16} {i : ℕ} {infos : FileTransferInfos}
  {pseudo : Pseudo}

/-! ### The beginning of a transfer -/

/-- `transfer_new` puts a fresh transfer in the slot of the user. -/
lemma transferNew_eq (hwf : s.transferFiles.Wf) (env : Env) (id feedNumber : UInt16)
    (fileName : ℕ → UInt8) : ∃ s', s.transferNew env id feedNumber fileName = some s' ∧
      s'.transferFiles.Wf ∧ s'.transferFiles.get id.toNat = some id.toNat ∧
      s'.transferFiles.at? id.toNat = some (transferInit env.now fileName feedNumber) := by
  have hid := id.toNat_lt
  have hset : ∀ s : Server, s.transferFiles.Wf → ∃ files,
      s.transferFiles.set id.toNat (transferInit env.now fileName feedNumber) = some files ∧
      files.Wf ∧ files.get id.toNat = some id.toNat ∧
      files.at? id.toNat = some (transferInit env.now fileName feedNumber) := by
    intro s hwf
    obtain ⟨files, hset, hwf', hlength, -, hat, -⟩ := CArray.set_spec hwf (i := id.toNat) (by omega)
      (transferInit env.now fileName feedNumber)
    exact ⟨files, hset, hwf', by rw [CArray.get, if_neg (by omega)], hat⟩
  have hclear : ∀ infos, (s.putTransfer id.toNat infos).transferFiles.Wf := fun infos =>
    hwf.write id.toNat infos
  simp only [transferNew]
  split
  · split
    · obtain ⟨files, hfiles, h⟩ := hset _ (hclear _)
      exact ⟨_, by rw [hfiles]; rfl, h⟩
    · obtain ⟨files, hfiles, h⟩ := hset s hwf
      exact ⟨_, by rw [hfiles]; rfl, h⟩
  · obtain ⟨files, hfiles, h⟩ := hset s hwf
    exact ⟨_, by rw [hfiles]; rfl, h⟩

end Server

/-- The table after a run. -/
lemma run_wf {w : World} {ts : List ServerTransition} (h : Machine.Run step World.init ts w) :
    w.server.transferFiles.Wf := by
  have hinv := run_table h Server.tableInv_dataInit
  refine ⟨hinv.slots_length.trans hinv.capacity_eq.symm, ?_⟩
  rw [hinv.capacity_eq]
  exact hinv.length_le

namespace Server

variable {env : Env} {s : Server}

/-- **An accepted request** starts a transfer, with the feed and the name that it asks for. -/
lemma uploading_of_prepareUploadRequest {a : CArray ServerRQ} {rq : ClientRQCl} {h : Handled}
    (hwf : s.transferFiles.Wf) (hlt : s.feeds.toList.length < 2 ^ 64 - 1)
    (hrq : s.prepareUploadRequest env a rq = some h) (hcode : h.code = 0) :
    ∃ pseudo, h.server.Uploading (getId rq.header) (transferInit env.now rq.data rq.feedNumber)
      pseudo := by
  obtain ⟨e, -, rfl⟩ | ⟨pseudo, s', hid, hle, hs', rfl⟩ := prepareUploadRequest_cases hrq
  · exact absurd (show (1 : UInt8) = 0 from hcode) (by decide)
  · obtain ⟨s'', hs'', -, hget, hat⟩ := transferNew_eq hwf env (getId rq.header) rq.feedNumber
      rq.data
    rw [hs'] at hs''
    cases hs''
    obtain ⟨husers, hfeeds, -⟩ := transferNew_sameStore hs'
    refine ⟨pseudo, toNat_getId_lt rq.header, hget, hat, fresh_transferInit _ _ _, ?_, ?_, ?_⟩
    · rw [getPseudo, husers]
      exact hid
    · show rq.feedNumber.toNat ≤ s'.feeds.toList.length
      rw [hfeeds]
      exact hle
    · rw [hfeeds]
      exact hlt

/-- **An upload request** that is accepted after a run starts a transfer, as long as the number of
feeds is a `size_t`. -/
theorem uploading_of_run {w : World} {ts : List ServerTransition}
    (hrun : Machine.Run step World.init ts w) (hlt : w.server.feeds.toList.length < 2 ^ 64 - 1)
    {a : CArray ServerRQ} {rq : ClientRQCl} {h : Handled}
    (hrq : w.server.prepareUploadRequest env a rq = some h) (hcode : h.code = 0) :
    ∃ pseudo, h.server.Uploading (getId rq.header) (transferInit env.now rq.data rq.feedNumber)
      pseudo :=
  uploading_of_prepareUploadRequest (run_wf hrun) hlt hrq hcode

/-! ### The store behind a transfer -/

/-- What the end of a transfer finds: the pseudo of its user, and, unless the feed that it needs
cannot be made, the record of a feed that `post_new` appends to. -/
def EndsOnStore (env : Env) (s : Server) (id : UInt16) (infos : FileTransferInfos) : Prop :=
  ∃ pseudo, s.getPseudo id = some pseudo ∧
    ∀ s₁, (if infos.feedNumber = 0 then s.feedNew env pseudo else (0, s)) = (0, s₁) →
      ∃ n feed, n = (if infos.feedNumber = 0 then UInt16.ofNat s₁.feeds.length
          else infos.feedNumber).toNat ∧ s₁.feeds.toList[n - 1]? = some feed ∧
        ∀ i infos' datalen data, (s₁.putTransfer i infos').postNew env pseudo datalen data n =
          some ((s₁.putTransfer i infos').appendPost (n - 1) feed
            (localPost env pseudo datalen data))

/-- A user who is registered has a pseudo. -/
lemma exists_pseudo {id : UInt16} (h : ∃ u ∈ s.users.toList, u.id.toNat = id.toNat) :
    ∃ pseudo, s.getPseudo id = some pseudo := by
  obtain ⟨u, hu, hid⟩ := h
  rw [UInt16.toNat_inj] at hid
  refine Option.ne_none_iff_exists'.mp fun hnone => getPseudo_eq_none.mp hnone ?_
  exact List.mem_map.mpr ⟨u, hu, hid⟩

/-- A transfer that is backed ends on the store, when there is room for one more feed. -/
lemma Backed.endsOnStore {id : UInt16} {infos : FileTransferInfos} (h : s.Backed id.toNat infos)
    (hroom : s.feeds.toList.length < 65535) (env : Env) : s.EndsOnStore env id infos := by
  obtain ⟨pseudo, hpseudo⟩ := exists_pseudo h.user
  refine ⟨pseudo, hpseudo, fun s₁ hs₁ => ?_⟩
  have hrecord : ∃ i, (if infos.feedNumber = 0 then UInt16.ofNat s₁.feeds.length
      else infos.feedNumber).toNat = i + 1 ∧ i < s₁.feeds.toList.length := by
    by_cases hf : infos.feedNumber = 0
    · rw [if_pos hf] at hs₁ ⊢
      obtain ⟨creator, hnew⟩ := newFeed_of_feedNew env s pseudo
      have hs₁' : s₁ = s.appendFeed (localFeed env creator) := by rw [← hnew, hs₁]
      rw [hs₁', appendFeed, UInt16.toNat_ofNat', FullArray.length_eq, FullArray.toList_append,
        List.length_append, List.length_singleton]
      exact ⟨s.feeds.toList.length, by omega, by omega⟩
    · rw [if_neg hf] at hs₁ ⊢
      obtain ⟨-, rfl⟩ := Prod.mk.inj hs₁
      have hpos : infos.feedNumber.toNat ≠ 0 := fun h0 => hf (UInt16.toNat_inj.mp h0)
      have hle := h.feed_le
      exact ⟨infos.feedNumber.toNat - 1, by omega, by omega⟩
  obtain ⟨i, hn, hi⟩ := hrecord
  have hfeed := List.getElem?_eq_getElem hi
  exact ⟨i + 1, _, hn.symm, hfeed, fun _ _ _ _ => postNew_eq hfeed⟩

/-- **Active transfers are backed by the store.**  After every run: a slot is active only if its
index is the identifier of a user, and its feed number is at most the number of feeds; every slot
from 0 to `ID_MAX` holds a transfer, which is inactive unless the run has started one of that user;
the table has kept its size; and a datagram that completes an upload finds the pseudo of the user
and the record of the feed.

A run ends where the code leaves the memory of an array: at a subscription to the last feed when the
array of the feeds is full, at a block behind which `write_file` reads over the blocks that are
stored, and at the name of a file whose path does not fit into `MAX_DATALEN` bytes. -/
theorem transfers_backed {w : World} {ts : List ServerTransition}
    (h : Machine.Run step World.init ts w) :
    (∀ i infos, w.server.transferFiles.at? i = some infos → infos.active = true →
      (∃ u ∈ w.server.users.toList, u.id.toNat = i) ∧
      infos.feedNumber.toNat ≤ w.server.feeds.toList.length) ∧
    (∀ i ≤ ID_MAX, ∃ infos, w.server.transferFiles.at? i = some infos ∧
      ((∀ t ∈ ts, ∀ id, startsTransfer t = some id → id.toNat ≠ i) → infos.active = false)) ∧
    w.server.transferFiles.capacity = ID_MAX + 1 ∧
    w.server.transferFiles.slots.length = ID_MAX + 1 ∧
    w.server.transferFiles.length ≤ ID_MAX + 1 ∧
    (w.server.feeds.toList.length < 65535 → ∀ env id numblock data nbytes infos infos',
      w.server.transferFiles.at? id.toNat = some infos → infos.active = true →
      infos.record numblock data nbytes = some infos' → infos'.received = true →
      (w.server.putTransfer id.toNat infos').EndsOnStore env id infos') := by
  have hinv := run_table h tableInv_dataInit
  refine ⟨fun i infos hat hactive => ?_, fun i hi => ?_, hinv.capacity_eq, hinv.slots_length,
    hinv.length_le, fun hroom env id numblock data nbytes infos infos' hat hactive hrecord _ => ?_⟩
  · have hbacked := hinv.backed i infos hat hactive
    exact ⟨hbacked.user, hbacked.feed_le⟩
  · obtain ⟨infos, hat⟩ := hinv.filled i hi
    refine ⟨infos, hat, fun hnever => Bool.eq_false_iff.mpr fun hactive => ?_⟩
    obtain ⟨infos₀, hat₀, hactive₀⟩ | ⟨t, ht, id, hid, hi'⟩ :=
      run_active h tableInv_dataInit hat hactive
    · obtain ⟨u, hu, -⟩ := (tableInv_dataInit.backed i infos₀ hat₀ hactive₀).user
      cases hu
    · exact hnever t ht id hid hi'
  · obtain ⟨-, hfeed, -⟩ := record_eq_some hrecord
    have hbacked := hinv.backed id.toNat infos hat hactive
    exact Backed.endsOnStore (s := w.server.putTransfer id.toNat infos')
      ⟨hbacked.user, by rw [hfeed]; exact hbacked.feed_le⟩ hroom env

/-- A transfer of user 1 is started. -/
theorem transfers_backed_one : ∃ ts w, Machine.Run step World.init ts w ∧
    ts.filterMap startsTransfer = [1] ∧
    (∃ infos, w.server.transferFiles.at? 1 = some infos ∧ infos.active = true) ∧
    (∃ u ∈ w.server.users.toList, u.id.toNat = 1) ∧
    ∀ i ≤ ID_MAX, ∃ infos, w.server.transferFiles.at? i = some infos ∧
      ((∀ t ∈ ts, ∀ id, startsTransfer t = some id → id.toNat ≠ i) → infos.active = false) := by
  have hrun : Machine.Run step World.init _ _ :=
    .cons (a := .tcp (.quiet [0]) (.rg ⟨mkHeader REGISTRATION 0, .replicate PSEUDO_LEN 97⟩)) rfl <|
    .cons (a := .tcp (.quiet []) (.cl UPLOAD upload_ne
      ⟨mkHeader UPLOAD 1, 0, 0, 1, ofList [97] 0⟩)) rfl <| .nil _
  obtain ⟨hactive, hstarted, -⟩ := transfers_backed hrun
  refine ⟨_, _, hrun, rfl, ⟨_, rfl, rfl⟩, (hactive 1 _ rfl rfl).1, hstarted⟩

end Server

end Megaphone
