import Megaphone.Server.Transfers

/-!
What a step leaves in the slots of the table, and where the blocks in them come from, over every run
of the server.

* `Server.SlotAfter`: a transfer that is cleared, the one before, or the one with one more block
  stored; `Server.SlotsAfter`: a step after which every slot is so.
* `requests_transferFiles`: a request leaves the table as it is, or calls `transfer_new`.
* `AsksFor`: the requests that start a transfer; `step_slotAfter`: what every step leaves in a slot.
* `Server.BlocksFrom`, `Server.SlotsFrom`: where the blocks come from; `run_blocks`: what storing a
  block preserves holds in every slot after every run.
* `run_capacity`: there is storage for at most 65535 blocks.
-/

namespace Megaphone

namespace Server

/-! ### The functions -/

/-- What the transfer in slot `i` may be after a step from the state `s` that starts none. -/
inductive SlotAfter (s : Server) (i : ℕ) : FileTransferInfos → Prop
  | cleared : SlotAfter s i .zero
  | kept {infos : FileTransferInfos} (hat : s.transferFiles.at? i = some infos) :
      SlotAfter s i infos
  | stored {old infos : FileTransferInfos} {numblock : UInt16} {data : Block} {nbytes : ℕ}
      (hat : s.transferFiles.at? i = some old)
      (hrecord : old.record numblock data nbytes = some infos) (n : UInt16) :
      SlotAfter s i { infos with feedNumber := n }

/-- Every slot of `s'` is as after a step from `s` that starts no transfer. -/
def SlotsAfter (s s' : Server) : Prop :=
  ∀ i infos, s'.transferFiles.at? i = some infos → s.SlotAfter i infos

variable {env : Env} {s s' : Server} {i : ℕ} {infos : FileTransferInfos}

lemma SlotsAfter.of_eq (h : s'.transferFiles = s.transferFiles) : s.SlotsAfter s' := by
  intro i infos hat
  rw [h] at hat
  exact .kept hat

lemma SlotsAfter.of_write (h : s'.transferFiles = s.transferFiles.write i infos)
    (hinfos : s.SlotAfter i infos) : s.SlotsAfter s' := by
  intro j infos' hat
  rw [h] at hat
  obtain ⟨rfl, rfl⟩ | hat := CArray.at?_write_cases hat
  · exact hinfos
  · exact .kept hat

lemma transferFiles_feedNew (env : Env) (s : Server) (creator : Pseudo) :
    (s.feedNew env creator).2.transferFiles = s.transferFiles := by
  obtain ⟨creator', h⟩ := newFeed_of_feedNew env s creator
  rw [h]
  rfl

lemma transferFiles_postNew {pseudo : Pseudo} {datalen : UInt8} {data : ℕ → UInt8} {n : ℕ}
    (h : s.postNew env pseudo datalen data n = some s') :
    s'.transferFiles = s.transferFiles := by
  obtain ⟨feed, -, rfl⟩ := postNew_eq_some h
  rfl

lemma transferFiles_writeFile {r : UInt8 × Server} (h : s.writeFile env infos = some r) :
    r.2.transferFiles = s.transferFiles := by
  obtain ⟨bytes, rfl⟩ | rfl := writeFile_cases h
  · rfl
  · rfl

/-- **The end of a transfer** leaves its slot as it is, but for the number of the feed, or clears
it, and does not touch the other slots. -/
lemma completeTransfer_transferFiles {id : UInt16} {r : UInt8 × Server}
    (h : s.completeTransfer env id i infos = some r) :
    (r.1 = 1 ∧ r.2.transferFiles = s.transferFiles) ∨
      (r.1 = 1 ∧ ∃ n, r.2.transferFiles = s.transferFiles.write i { infos with feedNumber := n }) ∨
      (r.1 = 0 ∧ r.2.transferFiles = s.transferFiles.write i .zero) := by
  obtain ⟨pseudo, s₀, hs₀, hr⟩ := completeTransfer_cases h
  have hfiles : s₀.transferFiles = s.transferFiles := by
    obtain ⟨-, rfl⟩ | ⟨-, rfl⟩ := hs₀
    · rfl
    · exact transferFiles_feedNew env s pseudo
  obtain rfl | ⟨infos', _, _, _, s', w, hdata, -, hs', hw, hr⟩ := hr
  · exact .inl ⟨rfl, hfiles⟩
  · have hw' : w.2.transferFiles = s.transferFiles.write i infos' := by
      rw [transferFiles_writeFile hw, transferFiles_postNew hs', Server.putTransfer, hfiles]
    obtain rfl | rfl := hr
    · exact .inr (.inl ⟨rfl, _, hw'.trans (congrArg _ hdata)⟩)
    · refine .inr (.inr ⟨rfl, ?_⟩)
      rw [Server.putTransfer, hw', CArray.write_write]
      rfl

/-- With an outside where every call succeeds, the slot is cleared. -/
lemma completeTransfer_works {id : UInt16} {r : UInt8 × Server} (henv : env.Works)
    (h : s.completeTransfer env id i infos = some r) :
    r.2.transferFiles = s.transferFiles.write i .zero := by
  have hcode : r.1 = 0 := by
    obtain ⟨pseudo, hpseudo, -⟩ := Option.bind_eq_some_iff.mp h
    rw [completeTransfer_eq henv hpseudo] at h
    obtain ⟨s₂, -, h⟩ := Option.bind_eq_some_iff.mp h
    obtain ⟨bytes, -, rfl⟩ := Option.map_eq_some_iff.mp h
    rfl
  obtain ⟨hone, -⟩ | ⟨hone, -⟩ | ⟨-, heq⟩ := completeTransfer_transferFiles h
  · exact absurd (hcode.symm.trans hone) (by decide)
  · exact absurd (hcode.symm.trans hone) (by decide)
  · exact heq

/-- What a packet leaves of the slot of its user, when `infos` is the transfer with the block: this
transfer, but for the number of the feed, or nothing, when all blocks are there. -/
def PacketEnds (s : Server) (id : UInt16) (infos : FileTransferInfos) (r : UInt8 × Server) : Prop :=
  (∃ n, r.2.transferFiles = s.transferFiles.write id.toNat { infos with feedNumber := n }) ∨
    (infos.received = true ∧ r.1 = 0 ∧ r.2.transferFiles = s.transferFiles.write id.toNat .zero)

/-- What `add_packet` goes on with after a block has been stored. -/
lemma packetEnds {id : UInt16} {r : UInt8 × Server}
    (h : (if infos.received then (s.putTransfer id.toNat infos).completeTransfer env id
      id.toNat infos else some (0, s.putTransfer id.toNat infos)) = some r) :
    s.PacketEnds id infos r := by
  split at h
  next hreceived =>
    obtain ⟨-, heq⟩ | ⟨-, n, heq⟩ | ⟨hcode, heq⟩ := completeTransfer_transferFiles h
    · exact .inl ⟨infos.feedNumber, heq⟩
    · exact .inl ⟨n, by rw [heq, Server.putTransfer, CArray.write_write]⟩
    · exact .inr ⟨hreceived, hcode, by rw [heq, Server.putTransfer, CArray.write_write]⟩
  next =>
    cases h
    exact .inl ⟨infos.feedNumber, rfl⟩

/-- `add_packet` on an active slot. -/
lemma addPacket_eq (env : Env) {id : UInt16} (hget : s.transferFiles.get id.toNat = some id.toNat)
    (hat : s.transferFiles.at? id.toNat = some infos) (hactive : infos.active = true)
    (p : Packet) : s.addPacket env id p.numblock p.data p.nbytes =
      (infos.record p.numblock p.data p.nbytes).bind fun infos' =>
        if infos'.received then
          (s.putTransfer id.toNat infos').completeTransfer env id id.toNat infos'
        else some (0, s.putTransfer id.toNat infos') := by
  rw [addPacket, hget]
  simp only [hat, Option.bind_eq_bind, Option.bind_some, hactive, if_true]
  rfl

/-- **A packet**: the state stays, or the block is stored in the slot of the user. -/
lemma addPacket_transferFiles {id numblock : UInt16} {data : Block} {nbytes : ℕ}
    {r : UInt8 × Server} (h : s.addPacket env id numblock data nbytes = some r) :
    r.2 = s ∨ ∃ old infos, s.transferFiles.at? id.toNat = some old ∧
      old.record numblock data nbytes = some infos ∧ s.PacketEnds id infos r := by
  obtain ⟨hr, -⟩ | ⟨old, infos, hat, -, hrecord, hr⟩ := addPacket_cases h
  · exact .inl hr
  · have hends : (if infos.received then (s.putTransfer id.toNat infos).completeTransfer env id
        id.toNat infos else some (0, s.putTransfer id.toNat infos)) = some r := by
      obtain ⟨hgoing, hr⟩ | ⟨hreceived, hr⟩ := hr
      · rw [hgoing, hr]
        rfl
      · rw [if_pos hreceived, hr]
    exact .inr ⟨old, infos, hat, hrecord, packetEnds hends⟩

lemma addPacket_slotsAfter {id numblock : UInt16} {data : Block} {nbytes : ℕ}
    {r : UInt8 × Server} (h : s.addPacket env id numblock data nbytes = some r) :
    s.SlotsAfter r.2 := by
  obtain hr | ⟨old, infos, hat, hrecord, ⟨n, heq⟩ | ⟨-, -, heq⟩⟩ := addPacket_transferFiles h
  · exact .of_eq (congrArg transferFiles hr)
  · exact .of_write heq (.stored hat hrecord n)
  · exact .of_write heq .cleared

lemma handleUploadPacket_slotsAfter {type : UInt8} {ft : FTransferRQ} {nbytes : ℕ}
    {r : UInt8 × Server} (h : s.handleUploadPacket env type ft nbytes = some r) :
    s.SlotsAfter r.2 := by
  obtain ⟨-, rfl⟩ | ⟨-, h⟩ := handleUploadPacket_cases h
  · exact .of_eq rfl
  · exact addPacket_slotsAfter h

lemma idClearTransfer_slotsAfter {id : UInt16} (h : s.idClearTransfer id = some s') :
    s.SlotsAfter s' := by
  obtain ⟨i, -, h⟩ := Option.bind_eq_some_iff.mp h
  obtain ⟨infos, -, h⟩ := Option.bind_eq_some_iff.mp h
  cases h
  exact .of_write rfl .cleared

lemma checkTransfersTimeout_slotsAfter (s : Server) (now : ℕ) :
    s.SlotsAfter (s.checkTransfersTimeout now) := by
  intro i infos hat
  obtain heq | ⟨_, -, hclear⟩ := s.at?_checkTransfersTimeout now i
  · exact .kept (heq.symm.trans hat)
  · rw [hclear] at hat
    rw [← Option.some.inj hat]
    exact .cleared

/-- `transfer_new` puts a transfer in the slot of the user, and leaves the other ones. -/
lemma transferNew_slots {header feedNumber : UInt16} {fileName : ℕ → UInt8} (hinv : s.TableInv)
    (h : s.transferNew env (getId header) feedNumber fileName = some s')
    (hat : s'.transferFiles.at? i = some infos) :
    (i = (getId header).toNat ∧ infos = transferInit env.now fileName feedNumber) ∨
      s.transferFiles.at? i = some infos := by
  have hid := toNat_getId_lt header
  have hcapacity := hinv.capacity_eq
  rw [ID_MAX] at hcapacity
  have hstarts := transferNew_starts (hinv.slots_length.trans hinv.capacity_eq.symm)
    hinv.wf_transferFiles.length_le (by omega) h
  obtain ⟨s'', hs'', -, -, hself⟩ :=
    transferNew_eq hinv.wf_transferFiles env (getId header) feedNumber fileName
  obtain rfl := Option.some.inj (h.symm.trans hs'')
  by_cases hi : i = (getId header).toNat
  · rw [hi, hself] at hat
    exact .inl ⟨hi, (Option.some.inj hat).symm⟩
  · rw [hstarts.other i hi] at hat
    exact .inr hat

/-! ### The handlers -/

lemma postRequest_transferFiles {a : CArray ServerRQ} {rq : ClientRQCl} {h : Handled}
    (hrq : s.postRequest env a rq = some h) : h.server.transferFiles = s.transferFiles := by
  obtain ⟨-, -, rfl⟩ | ⟨-, rfl⟩ | ⟨-, -, rfl⟩ | ⟨pseudo, -, -, -, -, rfl⟩ |
    ⟨pseudo, feedNumber, s₀, s', -, -, hs₀, hs', rfl⟩ := postRequest_cases hrq
  · rfl
  · rfl
  · rfl
  · exact transferFiles_feedNew env s pseudo
  · refine (transferFiles_postNew hs').trans ?_
    obtain ⟨-, -, -, hnew⟩ | ⟨-, -, rfl⟩ := hs₀
    · have hfiles := transferFiles_feedNew env s pseudo
      rwa [hnew] at hfiles
    · rfl

lemma subscriptionsRequest_transferFiles {a : CArray ServerRQ} {rq : ClientRQCl} {h : Handled}
    (hrq : s.subscriptionsRequest env a rq = some h) :
    h.server.transferFiles = s.transferFiles := by
  obtain ⟨e, -, -, rfl⟩ | ⟨-, -, -, feed, s', mult, -, hs', -, rfl⟩ :=
    subscriptionsRequest_cases hrq
  · rfl
  · split at hs'
    · exact notifNew_transferFiles hs'
    · cases hs'
      rfl

/-- **The table, one request**: it stays as it is, or the request is accepted and `transfer_new` is
called for the user, with the name in the request or the path of the file. -/
lemma requests_transferFiles {a : CArray ServerRQ} {rq : ClientRQ} {h : Handled}
    (hrq : s.requests env a rq = some h) :
    h.server.transferFiles = s.transferFiles ∨ ∃ type htype rq' fileName e,
      rq = .cl type htype rq' ∧
      ((type = UPLOAD ∧ fileName = rq'.data) ∨
        (type = DOWNLOAD ∧ fileName = downloadPath env rq')) ∧
      s.transferNew env (getId rq'.header) rq'.feedNumber fileName = some h.server ∧
      h.code = 0 ∧ h.serverrq = a.append e := by
  cases requests_cases hrq with
  | registration hrq =>
      left
      obtain ⟨-, rfl⟩ | ⟨-, id, -, rfl⟩ := registrationRequest_cases hrq
      · rfl
      · rfl
  | post hrq => exact .inl (postRequest_transferFiles hrq)
  | lastPosts hrq =>
      obtain ⟨e, he⟩ := lastPostsRequest_server hrq
      rw [he]
      exact .inl rfl
  | subscriptions hrq => exact .inl (subscriptionsRequest_transferFiles hrq)
  | @prepareUpload htype rq hrq =>
      obtain ⟨e, -, rfl⟩ | ⟨pseudo, s', -, -, hs', rfl⟩ := prepareUploadRequest_cases hrq
      · exact .inl rfl
      · exact .inr ⟨UPLOAD, htype, rq, _, _, rfl, .inl ⟨rfl, rfl⟩, hs', rfl, rfl⟩
  | @prepareDownload htype rq hrq =>
      obtain ⟨e, -, rfl⟩ | ⟨pseudo, s', -, -, hs', rfl⟩ := prepareDownloadRequest_cases hrq
      · exact .inl rfl
      · exact .inr ⟨DOWNLOAD, htype, rq, _, _, rfl, .inr ⟨rfl, rfl⟩, hs', rfl, rfl⟩

end Server

/-! ### Steps -/

/-- The step accepts a request of user `i` for a file, whose transfer is given the name that is in
the request, or the path of the file. -/
inductive AsksFor (t : ServerTransition) : ℕ → (ℕ → UInt8) → Prop
  | upload {env : Env} {htype : UPLOAD ≠ REGISTRATION} {rq : ClientRQCl}
      (hact : t.act = .tcp env (.cl UPLOAD htype rq))
      (hstarts : startsTransfer t = some (getId rq.header)) :
      AsksFor t (getId rq.header).toNat rq.data
  | download {env : Env} {htype : DOWNLOAD ≠ REGISTRATION} {rq : ClientRQCl}
      (hact : t.act = .tcp env (.cl DOWNLOAD htype rq))
      (hstarts : startsTransfer t = some (getId rq.header)) :
      AsksFor t (getId rq.header).toNat (Server.downloadPath env rq)

/-- **A slot, one step**: it is as after a step that starts no transfer, or the one that the step
starts is there. -/
lemma step_slotAfter {w w' : World} {a : Input} {out : Option Answer} (hw : w.server.TableInv)
    (h : step w a = some (w', out)) {i : ℕ} {infos : FileTransferInfos}
    (hat : w'.server.transferFiles.at? i = some infos) : w.server.SlotAfter i infos ∨
      ∃ now fileName feedNumber, infos = transferInit now fileName feedNumber ∧
        AsksFor ⟨w, a, out, w'⟩ i fileName := by
  cases step_cases h with
  | @tcp env rq s' ans hconn =>
      obtain ⟨r, hrq, hr⟩ := Server.handleTcpConnection_cases hconn
      have hfiles : s'.transferFiles = r.server.transferFiles := by
        obtain ⟨-, rfl, -⟩ | ⟨-, rfl, -⟩ | ⟨-, rfl, -⟩ := hr
        · rfl
        · rfl
        · rfl
      have hat : r.server.transferFiles.at? i = some infos := by
        rw [← hfiles]
        exact hat
      obtain heq | ⟨type, htype, rq', fileName, e, rfl, hup, hnew, hcode, happend⟩ :=
        Server.requests_transferFiles hrq
      · rw [heq] at hat
        exact .inl (.kept hat)
      · have hinv : ({ w.server with dErrno := NOERROR } : Server).TableInv :=
          hw.keeps (.of_eq (.of_eq rfl rfl) rfl)
        obtain ⟨rfl, rfl⟩ | hat := Server.transferNew_slots hinv hnew hat
        · obtain ⟨-, -, rfl⟩ | ⟨hne, -⟩ | ⟨hne, -⟩ := hr
          · refine .inr ⟨_, fileName, _, rfl, ?_⟩
            rw [happend]
            obtain ⟨rfl, rfl⟩ | ⟨rfl, rfl⟩ := hup
            · exact .upload rfl (startsTransfer_eq_some _ _ _ (.inl rfl) _ _ _)
            · exact .download rfl (startsTransfer_eq_some _ _ _ (.inr rfl) _ _ _)
          · exact absurd hcode hne
          · exact absurd hcode hne
        · exact .inl (.kept hat)
  | sent hs' =>
      exact .inl (Server.idClearTransfer_slotsAfter hs' i infos hat)
  | timeout now =>
      exact .inl (Server.checkTransfersTimeout_slotsAfter w.server now i infos hat)
  | udp hrecv hp =>
      exact .inl (Server.handleUploadPacket_slotsAfter hp i infos hat)
  | loop hr =>
      have hstore := loopStep_loopStore hr
      exact .inl (Server.SlotsAfter.of_eq hstore.transferFiles_eq i infos hat)

/-! ### Blocks -/

namespace Server

/-- What the blocks in a slot may be after a step, `files` being the table before. -/
inductive BlocksFrom (files : CArray FileTransferInfos) : CArray Block → Prop
  | cleared : BlocksFrom files FileTransferInfos.zero.fileData
  | fresh : BlocksFrom files (.arrayNew Block 0)
  | kept {i : ℕ} {infos : FileTransferInfos} (hat : files.at? i = some infos) :
      BlocksFrom files infos.fileData
  | stored {i : ℕ} {infos infos' : FileTransferInfos} {numblock : UInt16} {data : Block}
      {nbytes : ℕ} (hat : files.at? i = some infos)
      (hrecord : infos.record numblock data nbytes = some infos') : BlocksFrom files infos'.fileData

/-- Every slot of `s'` has its blocks from `s`. -/
def SlotsFrom (s s' : Server) : Prop :=
  ∀ i infos, s'.transferFiles.at? i = some infos → BlocksFrom s.transferFiles infos.fileData

end Server

/-- **The blocks, one step.** -/
lemma step_slots {w w' : World} {a : Input} {out : Option Answer} (hw : w.server.TableInv)
    (h : step w a = some (w', out)) : w.server.SlotsFrom w'.server := by
  intro i infos hat
  obtain hafter | ⟨now, fileName, feedNumber, rfl, -⟩ := step_slotAfter hw h hat
  · cases hafter with
    | cleared => exact .cleared
    | kept hbefore => exact .kept hbefore
    | stored hbefore hrecord n =>
        have hfrom := Server.BlocksFrom.stored hbefore hrecord
        exact hfrom
  · exact .fresh

/-- **The blocks of the slots over a run**: what holds of no blocks and is preserved by storing one
holds in every slot. -/
lemma run_blocks {P : CArray Block → Prop} (hzero : P FileTransferInfos.zero.fileData)
    (hnew : P (.arrayNew Block 0))
    (hrecord : ∀ (infos infos' : FileTransferInfos) (numblock : UInt16) (data : Block) (nbytes : ℕ),
      P infos.fileData → infos.record numblock data nbytes = some infos' → P infos'.fileData)
    {w w' : World} {ts : List ServerTransition} (h : Machine.Run step w ts w')
    (hinv : w.server.TableInv)
    (hw : ∀ i infos, w.server.transferFiles.at? i = some infos → P infos.fileData) :
    ∀ i infos, w'.server.transferFiles.at? i = some infos → P infos.fileData := by
  refine (h.invariant (P := fun w => w.server.TableInv ∧
    ∀ i infos, w.server.transferFiles.at? i = some infos → P infos.fileData)
    (fun w a w' o hw hs => ⟨hw.1.effect (step_table hw.1 hs), fun i infos hat => ?_⟩)
    ⟨hinv, hw⟩).2
  have hfrom := step_slots hw.1 hs i infos hat
  generalize infos.fileData = blocks at hfrom
  cases hfrom with
  | cleared => exact hzero
  | fresh => exact hnew
  | kept hat => exact hw.2 _ _ hat
  | stored hat hstore => exact hrecord _ _ _ _ _ (hw.2 _ _ hat) hstore

/-- Storing a block makes storage for at most 65535 blocks. -/
lemma FileTransferInfos.capacity_record {infos infos' : FileTransferInfos} {numblock : UInt16}
    {data : Block} {nbytes : ℕ} (hcap : infos.fileData.capacity ≤ 65535)
    (h : infos.record numblock data nbytes = some infos') : infos'.fileData.capacity ≤ 65535 := by
  obtain ⟨a, hset, rfl⟩ := Option.map_eq_some_iff.mp h
  have hlt := numblock.toNat_lt
  rw [CArray.set] at hset
  split at hset
  next hge =>
    simp only at hset
    split at hset
    next => cases hset
    next hne =>
      cases hset
      show (sizeSub numblock.toNat 1 + 1) % 2 ^ 64 ≤ 65535
      rw [sizeSub] at hne ⊢
      split at hne
      next hpos =>
        rw [if_pos hpos]
        omega
      next hpos => omega
  next =>
    cases hset
    exact hcap

/-- **The storage of the blocks** in every slot after every run. -/
lemma run_capacity {w : World} {ts : List ServerTransition}
    (h : Machine.Run step World.init ts w) {i : ℕ} {infos : FileTransferInfos}
    (hat : w.server.transferFiles.at? i = some infos) : infos.fileData.capacity ≤ 65535 := by
  refine run_blocks (P := fun blocks => blocks.capacity ≤ 65535) (Nat.zero_le _) ?_
    (fun _ _ _ _ _ hcap hrecord => FileTransferInfos.capacity_record hcap hrecord) h
    Server.tableInv_dataInit (fun i infos hat => ?_) i infos hat
  · show INIT_CAP ≤ 65535
    rw [INIT_CAP]
    omega
  · have hcell := CArray.at?_arrayNew (α := FileTransferInfos) (ID_MAX + 1) i
    change dataInit.transferFiles.at? i = none ∨ dataInit.transferFiles.at? i = some .zero at hcell
    change dataInit.transferFiles.at? i = some infos at hat
    rw [hat] at hcell
    obtain hnone | hzero := hcell
    · cases hnone
    · rw [Option.some.inj hzero]
      exact Nat.zero_le _

end Megaphone
