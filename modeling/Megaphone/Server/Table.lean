import Megaphone.Server.Store

/-!
The table of the transfers of the server, over every run.

* `Server.Backed`: what an active transfer relies on when it ends: its user and its feed.
* `Server.TableInv`: the invariant of the table: its size, no hole, and every active transfer is
  backed.
* `Server.KeepsTable`, `Server.Starts`: a step that starts no transfer, and one that does.
* `step_table`: which of them a step is; `run_table`: the invariant over a run.
-/

namespace Megaphone

namespace Server

/-- What the transfer in slot `i` relies on. -/
structure Backed (s : Server) (i : ℕ) (infos : FileTransferInfos) : Prop where
  user : ∃ u ∈ s.users.toList, u.id.toNat = i
  feed_le : infos.feedNumber.toNat ≤ s.feeds.toList.length

/-- **The invariant of the table.** -/
structure TableInv (s : Server) : Prop where
  capacity_eq : s.transferFiles.capacity = ID_MAX + 1
  slots_length : s.transferFiles.slots.length = ID_MAX + 1
  length_le : s.transferFiles.length ≤ ID_MAX + 1
  filled : ∀ i ≤ ID_MAX, ∃ infos, s.transferFiles.at? i = some infos
  wf : ∀ i infos, s.transferFiles.at? i = some infos → infos.fileData.Wf
  covered : ∀ i infos, s.transferFiles.at? i = some infos → infos.active = true →
    i < s.transferFiles.length
  backed : ∀ i infos, s.transferFiles.at? i = some infos → infos.active = true → s.Backed i infos

lemma TableInv.wf_transferFiles {s : Server} (h : s.TableInv) : s.transferFiles.Wf := by
  refine ⟨h.slots_length.trans h.capacity_eq.symm, ?_⟩
  rw [h.capacity_eq]
  exact h.length_le

/-- A step that starts no transfer: a slot that is active was active before, for the same feed or
for one that has been made. -/
structure KeepsTable (s s' : Server) : Prop where
  grows : s.GrowsTo s'
  capacity_eq : s'.transferFiles.capacity = s.transferFiles.capacity
  slots_length : s'.transferFiles.slots.length = s.transferFiles.slots.length
  length_eq : s'.transferFiles.length = s.transferFiles.length
  filled : ∀ i infos, s.transferFiles.at? i = some infos →
    ∃ infos', s'.transferFiles.at? i = some infos'
  wf : (∀ i infos, s.transferFiles.at? i = some infos → infos.fileData.Wf) →
    ∀ i infos, s'.transferFiles.at? i = some infos → infos.fileData.Wf
  active : ∀ i infos', s'.transferFiles.at? i = some infos' → infos'.active = true →
    ∃ infos, s.transferFiles.at? i = some infos ∧ infos.active = true ∧
      (infos'.feedNumber = infos.feedNumber ∨
        infos'.feedNumber.toNat ≤ s'.feeds.toList.length)

/-- A step that starts a transfer in slot `i`, for the feed `feedNumber`. -/
structure Starts (s s' : Server) (i : ℕ) (feedNumber : UInt16) : Prop where
  same : SameStore s s'
  capacity_eq : s'.transferFiles.capacity = s.transferFiles.capacity
  slots_length : s'.transferFiles.slots.length = s.transferFiles.slots.length
  length_eq : s'.transferFiles.length = max s.transferFiles.length (i + 1)
  self : ∃ infos, s'.transferFiles.at? i = some infos ∧ infos.active = true ∧
    infos.feedNumber = feedNumber ∧ infos.fileData.Wf
  other : ∀ j, j ≠ i → s'.transferFiles.at? j = s.transferFiles.at? j

variable {env : Env} {s s' s'' : Server}

lemma tableInv_dataInit : dataInit.TableInv := by
  have hzero : ∀ i infos, dataInit.transferFiles.at? i = some infos → infos = .zero := by
    intro i infos hat
    have hcell := CArray.at?_arrayNew (α := FileTransferInfos) (ID_MAX + 1) i
    change dataInit.transferFiles.at? i = none ∨ dataInit.transferFiles.at? i = some .zero at hcell
    rw [hat] at hcell
    obtain hnone | hzero := hcell
    · cases hnone
    · exact Option.some.inj hzero
  refine ⟨rfl, List.length_replicate, Nat.zero_le _, fun i hi => ?_, fun i infos hat => ?_,
    fun i infos hat hactive => ?_, fun i infos hat hactive => ?_⟩
  · have hslots : dataInit.transferFiles.slots = List.replicate (ID_MAX + 1) (some .zero) := rfl
    refine ⟨.zero, ?_⟩
    rw [CArray.at?, hslots, List.getElem?_replicate, if_pos (by omega)]
    rfl
  · rw [hzero i infos hat]
    exact ⟨rfl, le_rfl⟩
  · rw [hzero i infos hat] at hactive
    cases hactive
  · rw [hzero i infos hat] at hactive
    cases hactive

lemma KeepsTable.of_eq (h : s.GrowsTo s') (ht : s'.transferFiles = s.transferFiles) :
    s.KeepsTable s' := by
  refine ⟨h, ?_, ?_, ?_, fun i infos hat => ⟨infos, ?_⟩, fun hwf => ?_, fun i infos hat hactive =>
    ⟨infos, ?_, hactive, .inl rfl⟩⟩
  · rw [ht]
  · rw [ht]
  · rw [ht]
  · rw [ht, hat]
  · rw [ht]
    exact hwf
  · rw [← ht, hat]

lemma KeepsTable.trans (h : s.KeepsTable s') (h' : s'.KeepsTable s'') : s.KeepsTable s'' := by
  refine ⟨h.grows.trans h'.grows, h'.capacity_eq.trans h.capacity_eq,
    h'.slots_length.trans h.slots_length, h'.length_eq.trans h.length_eq, fun i infos hat => ?_,
    fun hwf => h'.wf (h.wf hwf), fun i infos'' hat hactive => ?_⟩
  · obtain ⟨infos', hat'⟩ := h.filled i infos hat
    exact h'.filled i infos' hat'
  · obtain ⟨infos', hat', hactive', hfeed'⟩ := h'.active i infos'' hat hactive
    obtain ⟨infos, hat₀, hactive₀, hfeed⟩ := h.active i infos' hat' hactive'
    refine ⟨infos, hat₀, hactive₀, ?_⟩
    have hle := h'.grows.feeds_le
    obtain heq' | hle' := hfeed'
    · rw [heq']
      exact hfeed.imp_right fun hfeed => hfeed.trans hle
    · exact .inr hle'

/-- Storing a transfer over an active one, or a cleared one. -/
lemma keepsTable_putTransfer {i : ℕ} {infos : FileTransferInfos}
    (hwf : (∀ i infos, s.transferFiles.at? i = some infos → infos.fileData.Wf) →
      infos.fileData.Wf)
    (h : infos.active = true → ∃ old, s.transferFiles.at? i = some old ∧ old.active = true ∧
      (infos.feedNumber = old.feedNumber ∨ infos.feedNumber.toNat ≤ s.feeds.toList.length)) :
    s.KeepsTable (s.putTransfer i infos) := by
  refine ⟨.of_eq rfl rfl, rfl, List.length_set, rfl, fun j old hj => ?_,
    fun hall j infos' hj => ?_, fun j infos' hj hactive => ?_⟩
  · by_cases hji : j = i
    · have hlt := CArray.lt_of_at? hj
      rw [hji] at hlt ⊢
      exact ⟨infos, CArray.at?_write_self _ _ hlt⟩
    · exact ⟨old, by rw [putTransfer, CArray.at?_write_of_ne _ _ hji, hj]⟩
  · obtain ⟨rfl, rfl⟩ | hj := CArray.at?_write_cases hj
    · exact hwf hall
    · exact hall j infos' hj
  · obtain ⟨rfl, rfl⟩ | hj := CArray.at?_write_cases hj
    · exact h hactive
    · exact ⟨infos', hj, hactive, .inl rfl⟩

lemma keepsTable_clear (s : Server) (i : ℕ) (infos : FileTransferInfos) :
    s.KeepsTable (s.putTransfer i (transferClear infos)) :=
  keepsTable_putTransfer (fun _ => ⟨rfl, le_rfl⟩) fun h => by cases h

/-! ### The functions -/

lemma idClearTransfer_keepsTable {id : UInt16} (h : s.idClearTransfer id = some s') :
    s.KeepsTable s' := by
  obtain ⟨i, -, h⟩ := Option.bind_eq_some_iff.mp h
  obtain ⟨infos, -, h⟩ := Option.bind_eq_some_iff.mp h
  cases h
  exact keepsTable_clear s i infos

/-- The timeout check leaves a slot as it is or clears it. -/
lemma at?_checkTransfersTimeout (s : Server) (now i : ℕ) :
    (s.checkTransfersTimeout now).transferFiles.at? i = s.transferFiles.at? i ∨
      ∃ infos, s.transferFiles.at? i = some infos ∧
        (s.checkTransfersTimeout now).transferFiles.at? i = some (transferClear infos) := by
  simp only [checkTransfersTimeout, CArray.at?, List.getElem?_mapIdx]
  rcases s.transferFiles.slots[i]? with _ | _ | infos
  · exact .inl rfl
  · left
    simp only [Option.map_some, Option.map_none, ite_self, Option.join_some]
  · simp only [Option.map_some, Option.join_some, Option.some.injEq, exists_eq_left']
    split
    · simp only [Option.some.injEq]
      split
      · exact .inr rfl
      · exact .inl rfl
    · exact .inl rfl

lemma checkTransfersTimeout_keepsTable (s : Server) (now : ℕ) :
    s.KeepsTable (s.checkTransfersTimeout now) := by
  refine ⟨.of_eq rfl rfl, rfl, List.length_mapIdx, rfl, fun i infos hat => ?_,
    fun hwf i infos' hat => ?_, fun i infos' hat hactive => ?_⟩
  · obtain heq | ⟨infos, -, hclear⟩ := s.at?_checkTransfersTimeout now i
    · exact ⟨infos, heq.trans hat⟩
    · exact ⟨_, hclear⟩
  · obtain heq | ⟨infos, -, hclear⟩ := s.at?_checkTransfersTimeout now i
    · exact hwf i infos' (heq.symm.trans hat)
    · rw [hclear] at hat
      cases hat
      exact ⟨rfl, le_rfl⟩
  · obtain heq | ⟨infos, -, hclear⟩ := s.at?_checkTransfersTimeout now i
    · exact ⟨infos', heq.symm.trans hat, hactive, .inl rfl⟩
    · rw [hclear] at hat
      cases hat
      cases hactive

lemma feedNew_keepsTable (env : Env) (s : Server) (creator : Pseudo) :
    s.KeepsTable (s.feedNew env creator).2 := by
  obtain ⟨creator', h⟩ := newFeed_of_feedNew env s creator
  have hnew : NewFeed env s (s.feedNew env creator).2 := ⟨creator', h⟩
  refine .of_eq hnew.growsTo ?_
  rw [h]
  rfl

lemma postNew_keepsTable {pseudo : Pseudo} {datalen : UInt8} {data : ℕ → UInt8} {feedNumber : ℕ}
    (h : s.postNew env pseudo datalen data feedNumber = some s') : s.KeepsTable s' := by
  have hgrows := (newPost_of_postNew h).growsTo
  obtain ⟨feed, -, rfl⟩ := postNew_eq_some h
  exact .of_eq hgrows rfl

lemma writeFile_keepsTable {infos : FileTransferInfos} {r : UInt8 × Server}
    (h : s.writeFile env infos = some r) : s.KeepsTable r.2 := by
  have hgrows := (writeFile_sameStore h).growsTo
  obtain ⟨bytes, rfl⟩ | rfl := writeFile_cases h
  · exact .of_eq hgrows rfl
  · exact .of_eq hgrows rfl

lemma completeTransfer_keepsTable {id : UInt16} {i : ℕ} {infos : FileTransferInfos}
    {r : UInt8 × Server} (hat : s.transferFiles.at? i = some infos) (hactive : infos.active = true)
    (h : s.completeTransfer env id i infos = some r) : s.KeepsTable r.2 := by
  obtain ⟨pseudo, s₀, hs₀, hr⟩ := completeTransfer_cases h
  have hfeed : s.KeepsTable s₀ ∧ s₀.transferFiles.at? i = some infos := by
    obtain ⟨-, rfl⟩ | ⟨-, rfl⟩ := hs₀
    · exact ⟨.of_eq (.refl s₀) rfl, hat⟩
    · obtain ⟨creator, hnew⟩ := newFeed_of_feedNew env s pseudo
      refine ⟨feedNew_keepsTable env s pseudo, ?_⟩
      rw [hnew]
      exact hat
  obtain rfl | ⟨infos', _, _, _, s', w, hdata, hnum, hs', hw, hr⟩ := hr
  · exact hfeed.1
  · have hput : s₀.KeepsTable (s₀.putTransfer i infos') := by
      refine keepsTable_putTransfer (fun hwf => ?_) fun _ => ⟨infos, hfeed.2, hactive, hnum⟩
      rw [hdata]
      exact hwf i infos hfeed.2
    have hwrite := ((hfeed.1.trans hput).trans (postNew_keepsTable hs')).trans
      (writeFile_keepsTable hw)
    obtain rfl | rfl := hr
    · exact hwrite
    · exact hwrite.trans (keepsTable_clear w.2 i infos')

/-- Recording a block leaves the transfer active, for the same feed, and its blocks well formed. -/
lemma record_eq_some {infos infos' : FileTransferInfos} {numblock : UInt16} {data : Block}
    {nbytes : ℕ} (h : infos.record numblock data nbytes = some infos') :
    infos'.active = infos.active ∧ infos'.feedNumber = infos.feedNumber ∧
      (infos.fileData.Wf → infos'.fileData.Wf) := by
  obtain ⟨fileData, hset, rfl⟩ := Option.map_eq_some_iff.mp h
  exact ⟨rfl, rfl, fun hwf => hwf.set hset⟩

lemma addPacket_keepsTable {id numblock : UInt16} {data : Block} {nbytes : ℕ} {r : UInt8 × Server}
    (h : s.addPacket env id numblock data nbytes = some r) : s.KeepsTable r.2 := by
  obtain ⟨hr, -⟩ | ⟨old, infos, hat, hactive, hrecord, hr⟩ := addPacket_cases h
  · rw [hr]
    exact .of_eq (.refl s) rfl
  · obtain ⟨hactive', hfeed, hwf⟩ := record_eq_some hrecord
    have hput : s.KeepsTable (s.putTransfer id.toNat infos) :=
      keepsTable_putTransfer (fun hall => hwf (hall _ old hat))
        fun _ => ⟨old, hat, hactive, .inl hfeed⟩
    obtain ⟨-, hr⟩ | ⟨-, hr⟩ := hr
    · rw [hr]
      exact hput
    · have hlt := CArray.lt_of_at? hat
      exact hput.trans (completeTransfer_keepsTable (CArray.at?_write_self _ _ hlt)
        (hactive'.trans hactive) hr)

lemma handleUploadPacket_keepsTable {type : UInt8} {ft : FTransferRQ} {nbytes : ℕ}
    {r : UInt8 × Server} (h : s.handleUploadPacket env type ft nbytes = some r) :
    s.KeepsTable r.2 := by
  obtain ⟨-, rfl⟩ | ⟨-, h⟩ := handleUploadPacket_cases h
  · exact .of_eq (.refl s) rfl
  · exact addPacket_keepsTable h

/-- `transfer_new` at an index that there is a slot for. -/
lemma transferNew_starts {id feedNumber : UInt16} {fileName : ℕ → UInt8}
    (hslots : s.transferFiles.slots.length = s.transferFiles.capacity)
    (hlength : s.transferFiles.length ≤ s.transferFiles.capacity)
    (hid : id.toNat < s.transferFiles.capacity)
    (h : s.transferNew env id feedNumber fileName = some s') :
    s.Starts s' id.toNat feedNumber := by
  have hsame := transferNew_sameStore h
  -- clearing the slot before changes nothing that the table shows afterwards
  obtain ⟨s₀, ⟨hwf, hcap, hlen, hother⟩, h⟩ : ∃ s₀ : Server, (s₀.transferFiles.Wf ∧
      s₀.transferFiles.capacity = s.transferFiles.capacity ∧
      s₀.transferFiles.length = s.transferFiles.length ∧
      ∀ j, j ≠ id.toNat → s₀.transferFiles.at? j = s.transferFiles.at? j) ∧
      ∃ files, s₀.transferFiles.set id.toNat (transferInit env.now fileName feedNumber) =
        some files ∧ s'.transferFiles = files := by
    have hwf : s.transferFiles.Wf := ⟨hslots, hlength⟩
    obtain ⟨files, hset, h⟩ := Option.bind_eq_some_iff.mp h
    cases h
    split at hset
    · split at hset
      · exact ⟨s.putTransfer id.toNat (transferClear _), ⟨hwf.write _ _, rfl, rfl,
          fun j hj => CArray.at?_write_of_ne _ _ hj⟩, files, hset, rfl⟩
      · exact ⟨s, ⟨hwf, rfl, rfl, fun _ _ => rfl⟩, files, hset, rfl⟩
    · exact ⟨s, ⟨hwf, rfl, rfl, fun _ _ => rfl⟩, files, hset, rfl⟩
  obtain ⟨files, hset, heq⟩ := h
  obtain ⟨files', hset', hwf', hlen', hcap', hself, hother'⟩ := CArray.set_spec hwf
    (i := id.toNat) (by have := id.toNat_lt; omega) (transferInit env.now fileName feedNumber)
  obtain rfl := Option.some.inj (hset.symm.trans hset')
  have hcapacity : files.capacity = s.transferFiles.capacity := by
    rw [hcap', hcap]
    omega
  refine ⟨hsame, by rw [heq, hcapacity], ?_, by rw [heq, hlen', hlen],
    ⟨_, by rw [heq]; exact hself, rfl, rfl, CArray.wf_arrayNew 0⟩, fun j hj => ?_⟩
  · rw [heq, hwf'.slots_length, hcapacity, hslots]
  · rw [heq, hother' j hj, hother j hj]

/-! ### The invariant -/

lemma Backed.growsTo {i : ℕ} {infos : FileTransferInfos} (h : s.Backed i infos)
    (hgrows : s.GrowsTo s') : s'.Backed i infos := by
  obtain ⟨u, hu, hid⟩ := h.user
  exact ⟨⟨u, hgrows.users_prefix.subset hu, hid⟩, h.feed_le.trans hgrows.feeds_le⟩

lemma TableInv.keeps (h : s.TableInv) (hs : s.KeepsTable s') : s'.TableInv := by
  refine ⟨hs.capacity_eq.trans h.capacity_eq, hs.slots_length.trans h.slots_length, ?_,
    fun i hi => ?_, hs.wf h.wf, fun i infos' hat hactive => ?_, fun i infos' hat hactive => ?_⟩
  · rw [hs.length_eq]
    exact h.length_le
  · obtain ⟨infos, hat⟩ := h.filled i hi
    exact hs.filled i infos hat
  · obtain ⟨infos, hat₀, hactive₀, -⟩ := hs.active i infos' hat hactive
    rw [hs.length_eq]
    exact h.covered i infos hat₀ hactive₀
  · obtain ⟨infos, hat₀, hactive₀, hfeed⟩ := hs.active i infos' hat hactive
    have hbacked := (h.backed i infos hat₀ hactive₀).growsTo hs.grows
    refine ⟨hbacked.user, ?_⟩
    obtain heq | hle := hfeed
    · rw [heq]
      exact hbacked.feed_le
    · exact hle

lemma TableInv.starts {i : ℕ} {feedNumber : UInt16} (h : s.TableInv)
    (hs : s.Starts s' i feedNumber) (hi : i ≤ ID_MAX) (huser : ∃ u ∈ s.users.toList, u.id.toNat = i)
    (hfeed : feedNumber.toNat ≤ s.feeds.toList.length) : s'.TableInv := by
  have hgrows := hs.same.growsTo
  obtain ⟨infos₀, hself, hactive₀, hnum, hwf₀⟩ := hs.self
  refine ⟨hs.capacity_eq.trans h.capacity_eq, hs.slots_length.trans h.slots_length, ?_,
    fun j hj => ?_, fun j infos hat => ?_, fun j infos hat hactive => ?_,
    fun j infos hat hactive => ?_⟩
  · have hle := h.length_le
    rw [hs.length_eq]
    omega
  · by_cases hji : j = i
    · exact ⟨infos₀, by rw [hji, hself]⟩
    · rw [hs.other j hji]
      exact h.filled j hj
  · by_cases hji : j = i
    · rw [hji, hself] at hat
      rw [← Option.some.inj hat]
      exact hwf₀
    · rw [hs.other j hji] at hat
      exact h.wf j infos hat
  · rw [hs.length_eq]
    by_cases hji : j = i
    · omega
    · rw [hs.other j hji] at hat
      have hlt := h.covered j infos hat hactive
      omega
  · by_cases hji : j = i
    · subst hji
      obtain rfl := Option.some.inj (hat.symm.trans hself)
      have hbacked : s.Backed j infos := ⟨huser, by rwa [hnum]⟩
      exact hbacked.growsTo hgrows
    · rw [hs.other j hji] at hat
      exact (h.backed j infos hat hactive).growsTo hgrows

/-- What a step does to the table: no transfer is started, or one is, for a known user and a feed
that exists. -/
inductive TableEffect (s s' : Server) : Option UInt16 → Prop
  | keeps {o : Option UInt16} (h : s.KeepsTable s') : TableEffect s s' o
  | starts {id feedNumber : UInt16} (h : s.Starts s' id.toNat feedNumber)
      (hid : id.toNat ≤ ID_MAX) (huser : ∃ u ∈ s.users.toList, u.id.toNat = id.toNat)
      (hfeed : feedNumber.toNat ≤ s.feeds.toList.length) : TableEffect s s' (some id)

lemma TableInv.effect {o : Option UInt16} (h : s.TableInv) (hs : s.TableEffect s' o) :
    s'.TableInv := by
  cases hs with
  | keeps hs => exact h.keeps hs
  | starts hs hid huser hfeed => exact h.starts hs hid huser hfeed

/-! ### The handlers -/

lemma postRequest_keepsTable {a : CArray ServerRQ} {rq : ClientRQCl} {h : Handled}
    (hrq : s.postRequest env a rq = some h) : s.KeepsTable h.server := by
  obtain ⟨-, -, rfl⟩ | ⟨-, rfl⟩ | ⟨-, -, rfl⟩ | ⟨pseudo, -, -, -, -, rfl⟩ |
    ⟨pseudo, feedNumber, s₀, s', -, -, hs₀, hs', rfl⟩ := postRequest_cases hrq
  · exact .of_eq (.of_eq rfl rfl) rfl
  · exact .of_eq (.of_eq rfl rfl) rfl
  · exact .of_eq (.of_eq rfl rfl) rfl
  · exact feedNew_keepsTable env s pseudo
  · refine KeepsTable.trans ?_ (postNew_keepsTable hs')
    obtain ⟨-, -, -, hnew⟩ | ⟨-, -, rfl⟩ := hs₀
    · have hfeed := feedNew_keepsTable env s pseudo
      rwa [hnew] at hfeed
    · exact .of_eq (.refl s₀) rfl

lemma notifNew_transferFiles {nbfeed : ℕ} {mult : Mult}
    (h : s.notifNew env nbfeed mult = some s') : s'.transferFiles = s.transferFiles := by
  obtain ⟨i, -, h⟩ := Option.bind_eq_some_iff.mp h
  obtain ⟨feed, -, h⟩ := Option.bind_eq_some_iff.mp h
  cases h
  rfl

lemma subscriptionsRequest_keepsTable {a : CArray ServerRQ} {rq : ClientRQCl} {h : Handled}
    (hrq : s.subscriptionsRequest env a rq = some h) : s.KeepsTable h.server := by
  have hgrows := subscriptionsRequest_growsTo hrq
  obtain ⟨e, -, -, rfl⟩ | ⟨-, -, -, feed, s', mult, -, hs', -, rfl⟩ :=
    subscriptionsRequest_cases hrq
  · exact .of_eq hgrows rfl
  · split at hs'
    · exact .of_eq hgrows (notifNew_transferFiles hs')
    · cases hs'
      exact .of_eq hgrows rfl

/-- A user who has a pseudo is registered. -/
lemma exists_user_of_getPseudo {id : UInt16} {pseudo : Pseudo} (h : s.getPseudo id = some pseudo) :
    ∃ u ∈ s.users.toList, u.id.toNat = id.toNat := by
  have hmem : id ∈ s.users.toList.map (·.id) := by
    by_contra hnot
    rw [getPseudo_eq_none.mpr hnot] at h
    cases h
  obtain ⟨u, hu, rfl⟩ := List.mem_map.mp hmem
  exact ⟨u, hu, rfl⟩

/-- `transfer_new` for a user who is registered, and a feed that exists. -/
lemma transferNew_effect {rq : ClientRQCl} {pseudo : Pseudo} {fileName : ℕ → UInt8}
    (hinv : s.TableInv) (hpseudo : s.getPseudo (getId rq.header) = some pseudo)
    (hfeed : rq.feedNumber.toNat ≤ s.feeds.toList.length)
    (h : s.transferNew env (getId rq.header) rq.feedNumber fileName = some s') :
    s.TableEffect s' (some (getId rq.header)) := by
  have hid := toNat_getId_lt rq.header
  have hcap := hinv.capacity_eq
  have hlength := hinv.length_le
  rw [ID_MAX] at hcap hlength
  have hslots : s.transferFiles.slots.length = s.transferFiles.capacity :=
    hinv.slots_length.trans hinv.capacity_eq.symm
  exact .starts (transferNew_starts hslots (by omega) (by omega) h) (by rw [ID_MAX]; omega)
    (exists_user_of_getPseudo hpseudo) hfeed

/-- **The table, one request.** -/
lemma requests_effect {a : CArray ServerRQ} {rq : ClientRQ} {h : Handled} (hinv : s.TableInv)
    (hrq : s.requests env a rq = some h) :
    s.KeepsTable h.server ∨ ∃ type htype rq' e, rq = .cl type htype rq' ∧
      (type = UPLOAD ∨ type = DOWNLOAD) ∧ h.code = 0 ∧ h.serverrq = a.append e ∧
      s.TableEffect h.server (some (getId rq'.header)) := by
  cases requests_cases hrq with
  | @registration rq hrq =>
      left
      obtain ⟨-, rfl⟩ | ⟨-, id, -, rfl⟩ := registrationRequest_cases hrq
      · exact .of_eq (.of_eq rfl rfl) rfl
      · exact .of_eq (userNew_growsTo s id rq.pseudo) rfl
  | post hrq => exact .inl (postRequest_keepsTable hrq)
  | lastPosts hrq =>
      obtain ⟨e, he⟩ := lastPostsRequest_server hrq
      rw [he]
      exact .inl (.of_eq (.of_eq rfl rfl) rfl)
  | subscriptions hrq => exact .inl (subscriptionsRequest_keepsTable hrq)
  | @prepareUpload htype rq hrq =>
      obtain ⟨e, -, rfl⟩ | ⟨pseudo, s', hpseudo, hfeed, hs', rfl⟩ :=
        prepareUploadRequest_cases hrq
      · exact .inl (.of_eq (.of_eq rfl rfl) rfl)
      · exact .inr ⟨UPLOAD, htype, rq, _, rfl, .inl rfl, rfl, rfl,
          transferNew_effect hinv hpseudo hfeed hs'⟩
  | @prepareDownload htype rq hrq =>
      obtain ⟨e, -, rfl⟩ | ⟨pseudo, s', hpseudo, hfeed, hs', rfl⟩ :=
        prepareDownloadRequest_cases hrq
      · exact .inl (.of_eq (.of_eq rfl rfl) rfl)
      · exact .inr ⟨DOWNLOAD, htype, rq, _, rfl, .inr rfl, rfl, rfl,
          transferNew_effect hinv hpseudo hfeed hs'⟩

end Server

/-! ### Runs -/

/-- The user whose transfer a transition starts: the request is an accepted `UPLOAD` or
`DOWNLOAD`. -/
def startsTransfer (t : ServerTransition) : Option UInt16 :=
  match t.act, t.out with
  | .tcp _ (.cl type _ rq), some ans =>
      if (type = UPLOAD ∨ type = DOWNLOAD) ∧ ans.code = 0 ∧
          (ans.entry 0).map (·.type) = some type then some (getId rq.header)
      else none
  | _, _ => none

/-- The answer to a request that is accepted. -/
lemma startsTransfer_eq_some (w w' : World) (env : Env) {type : UInt8}
    (hup : type = UPLOAD ∨ type = DOWNLOAD) (htype : type ≠ REGISTRATION) (rq : ClientRQCl)
    (e : ServerRQ) :
    startsTransfer ⟨w, .tcp env (.cl type htype rq), some ⟨0,
      ((CArray.arrayNew ServerRQ 0).append e).poke ⟨0, 0⟩ fun e => { e with type := type },
      ⟨0, 0⟩⟩, w'⟩ = some (getId rq.header) :=
  if_pos ⟨hup, rfl, rfl⟩

/-- **The table, one step.** -/
lemma step_table {w w' : World} {i : Input} {out : Option Answer} (hw : w.server.TableInv)
    (h : step w i = some (w', out)) :
    w.server.TableEffect w'.server (startsTransfer ⟨w, i, out, w'⟩) := by
  cases step_cases h with
  | @tcp env rq s' ans hconn =>
      obtain ⟨r, hrq, hr⟩ := Server.handleTcpConnection_cases hconn
      have hstart : w.server.KeepsTable { w.server with dErrno := NOERROR } :=
        .of_eq (.of_eq rfl rfl) rfl
      have hend : r.server.KeepsTable { r.server with dErrno := NOERROR } :=
        .of_eq (.of_eq rfl rfl) rfl
      obtain hkeeps | ⟨type, htype, rq', e, rfl, hup, hcode, happend, heffect⟩ :=
        Server.requests_effect (hw.keeps hstart) hrq
      · refine .keeps (hstart.trans ?_)
        obtain ⟨-, rfl, -⟩ | ⟨-, rfl, -⟩ | ⟨-, rfl, -⟩ := hr
        · exact hkeeps.trans hend
        · exact hkeeps
        · exact hkeeps
      · obtain ⟨-, rfl, rfl⟩ | ⟨hne, -⟩ | ⟨hne, -⟩ := hr
        · rw [show (ClientRQ.cl type htype rq').type = type from rfl, happend,
            startsTransfer_eq_some _ _ _ hup]
          cases heffect with
          | keeps hkeeps => exact .keeps ((hstart.trans hkeeps).trans hend)
          | starts hs hid huser hfeed =>
              exact .starts ⟨⟨hs.same.users_eq, hs.same.feeds_eq, hs.same.suscribe_eq⟩,
                hs.capacity_eq, hs.slots_length, hs.length_eq, hs.self, hs.other⟩ hid huser hfeed
        · exact absurd hcode hne
        · exact absurd hcode hne
  | sent hs' =>
      exact .keeps (Server.idClearTransfer_keepsTable hs')
  | timeout now =>
      exact .keeps (Server.checkTransfersTimeout_keepsTable w.server now)
  | udp hrecv hp =>
      exact .keeps (Server.handleUploadPacket_keepsTable hp)
  | loop hr =>
      have hstore := loopStep_loopStore hr
      exact .keeps (.of_eq (.of_eq hstore.users_eq hstore.feeds_eq) hstore.transferFiles_eq)

/-- The invariant of the table over a run. -/
lemma run_table {w w' : World} {ts : List ServerTransition} (h : Machine.Run step w ts w')
    (hw : w.server.TableInv) : w'.server.TableInv :=
  h.invariant (P := fun w => w.server.TableInv)
    (fun _ _ _ _ hw hs => hw.effect (step_table hw hs)) hw

/-- A slot that is active after a run was active before it, or the run has started a transfer of
that user. -/
lemma run_active {w w' : World} {ts : List ServerTransition} (h : Machine.Run step w ts w')
    (hw : w.server.TableInv) {i : ℕ} {infos' : FileTransferInfos}
    (hat : w'.server.transferFiles.at? i = some infos') (hactive : infos'.active = true) :
    (∃ infos, w.server.transferFiles.at? i = some infos ∧ infos.active = true) ∨
      ∃ t ∈ ts, ∃ id, startsTransfer t = some id ∧ id.toNat = i := by
  induction h with
  | nil => exact .inl ⟨infos', hat, hactive⟩
  | @cons w w₁ w' a o ts hs _ ih =>
      have heffect := step_table hw hs
      obtain ⟨infos, hat₁, hactive₁⟩ | ⟨t, ht, hstarts⟩ := ih (hw.effect heffect) hat
      · generalize hid : startsTransfer ⟨w, a, o, w₁⟩ = oid at heffect
        cases heffect with
        | keeps hkeeps =>
            obtain ⟨infos₀, hat₀, hactive₀, -⟩ := hkeeps.active i infos hat₁ hactive₁
            exact .inl ⟨infos₀, hat₀, hactive₀⟩
        | @starts id feedNumber hs =>
            by_cases hi : i = id.toNat
            · exact .inr ⟨_, List.mem_cons_self, id, hid, hi.symm⟩
            · rw [hs.other i hi] at hat₁
              exact .inl ⟨infos, hat₁, hactive₁⟩
      · exact .inr ⟨t, List.mem_cons_of_mem _ ht, hstarts⟩

end Megaphone
