import Megaphone.Server.Interleaving
import Megaphone.Transfer.Order
import Megaphone.Transfer.Packets

/-!
Datagrams that come twice.

* `Server.deliver`, `Client.deliver`: a packet at the server and at the client, whatever the outside
  does; `TakesPackets`: what both make of it.
* `Holding`: what a transfer that is still active holds of the packets of a file.
* `Harmless`: a packet changes nothing that counts; `duplicate_never_harmless`: a packet that has
  come before is never harmless to a transfer that is not finished.
-/

namespace Megaphone

open Memory

/-! ### Parties that take packets -/

/-- `add_packet` at the server on a packet of user `id`: the state. -/
def Server.deliver (id : UInt16) (s : Server) (q : Env × Packet) : Option Server :=
  (s.addPacket q.1 id q.2.numblock q.2.data q.2.nbytes).map (·.2)

/-- `add_packet` at the client: the state. -/
def Client.deliver (c : Client) (q : ClientEnv × Packet) : Option Client :=
  (c.addPacket q.1 q.2.numblock q.2.data q.2.nbytes).map (·.2)

variable {σ E : Type}

/-- **What a packet does** to the transfer in the slot of a party: nothing when it is not active,
and when it is, the block is stored, and the transfer goes on, but for the number of the feed, or
has ended, which it does only when all blocks are there. -/
structure TakesPackets (step : σ → E × Packet → Option σ) (slot : σ → Option FileTransferInfos) :
    Prop where
  inactive : ∀ {s s' : σ} {q : E × Packet} {infos : FileTransferInfos}, slot s = some infos →
    infos.active = false → step s q = some s' → slot s' = some infos
  active : ∀ {s s' : σ} {q : E × Packet} {infos : FileTransferInfos}, slot s = some infos →
    infos.active = true → step s q = some s' →
    ∃ infos', infos.record q.2.numblock q.2.data q.2.nbytes = some infos' ∧
      ((∃ n, slot s' = some { infos' with feedNumber := n }) ∨
        infos'.received = true ∧ slot s' = some .zero)

lemma Server.takesPackets (id : UInt16) :
    TakesPackets (Server.deliver id) fun s => s.slotOf id := by
  refine ⟨fun {s s' q infos} hslot hfree hs' => ?_, fun {s s' q infos} hslot hactive hs' => ?_⟩
  · obtain ⟨hget, hat⟩ := slotOf_eq_some hslot
    obtain ⟨r, hr, rfl⟩ := Option.map_eq_some_iff.mp hs'
    rw [addPacket, hget] at hr
    simp only [hat, Option.bind_eq_bind, Option.bind_some, hfree, Bool.false_eq_true, if_false]
      at hr
    cases hr
    exact hslot
  · obtain ⟨hget, hat⟩ := slotOf_eq_some hslot
    obtain ⟨r, hr, rfl⟩ := Option.map_eq_some_iff.mp hs'
    have hself : ∀ files infos', files = s.transferFiles.write id.toNat infos' →
        (files.get id.toNat).bind files.at? = some infos' := by
      rintro files infos' rfl
      have hget' : (s.transferFiles.write id.toNat infos').get id.toNat = some id.toNat := hget
      rw [hget', Option.bind_some]
      exact CArray.at?_write_self _ _ (CArray.lt_of_at? hat)
    rw [addPacket_eq _ hget hat hactive] at hr
    obtain ⟨infos', hrecord, hr⟩ := Option.bind_eq_some_iff.mp hr
    refine ⟨infos', hrecord, ?_⟩
    obtain ⟨n, heq⟩ | ⟨hreceived, -, heq⟩ := packetEnds hr
    · exact .inl ⟨n, hself _ _ heq⟩
    · exact .inr ⟨hreceived, hself _ _ heq⟩

lemma Client.takesPackets : TakesPackets Client.deliver fun c => some c.transferFile := by
  refine ⟨fun {c c' q infos} hslot hfree hc' => ?_, fun {c c' q infos} hslot hactive hc' => ?_⟩
  · obtain ⟨r, hr, rfl⟩ := Option.map_eq_some_iff.mp hc'
    obtain rfl := Option.some.inj hslot
    rw [addPacket, hfree, if_neg Bool.false_ne_true] at hr
    cases hr
    rfl
  · obtain ⟨r, hr, rfl⟩ := Option.map_eq_some_iff.mp hc'
    obtain rfl := Option.some.inj hslot
    obtain ⟨-, hfree⟩ | ⟨infos', hrecord, heq⟩ := addPacket_transferFile hr
    · rw [hactive] at hfree
      cases hfree
    · refine ⟨infos', hrecord, ?_⟩
      obtain heq | ⟨hreceived, heq⟩ := heq
      · exact .inl ⟨infos'.feedNumber, congrArg some heq⟩
      · exact .inr ⟨hreceived, congrArg some heq⟩

/-! ### Partial transfers -/

/-- What an active transfer holds of the packets `ps` of the file `F`: if the last block is among
them, the transfer takes all blocks to be there. -/
structure Holding (F : BlockFile) (ps : List (E × Packet)) (infos : FileTransferInfos) : Prop where
  wf : infos.fileData.Wf
  active_eq : infos.active = true
  length_le : infos.fileData.length ≤ F.count
  last : F.count ∈ numbers ps →
    infos.fileData.length = F.count ∧ infos.lastPacket.toNat = F.count

namespace Holding

variable {F : BlockFile} {ps : List (E × Packet)} {q : E × Packet}
  {infos infos' : FileTransferInfos}

/-- One more packet. -/
lemma record (h : Holding F ps infos) (hq : F.Carries q.2)
    (hrecord : infos.record q.2.numblock q.2.data q.2.nbytes = some infos') :
    Holding F (ps ++ [q]) infos' := by
  obtain ⟨infos'', hrecord', hrec⟩ := FileTransferInfos.record_spec h.wf hq.pos
  obtain rfl := Option.some.inj (hrecord.symm.trans hrecord')
  have hle := hq.le_count
  have hlength := h.length_le
  refine ⟨hrec.wf, hrec.active_eq.trans h.active_eq, ?_, fun hmem => ?_⟩
  · rw [hrec.length_eq]
    exact max_le hlength hle
  · rw [hrec.length_eq, hrec.last_eq]
    by_cases hlast : q.2.numblock.toNat = F.count
    · rw [if_pos (hq.nbytes_lt_iff.mpr hlast)]
      exact ⟨by omega, hlast⟩
    · rw [if_neg (mt hq.nbytes_lt_iff.mp hlast)]
      have hmem' : F.count ∈ numbers ps := by
        rw [numbers, List.map_append, List.mem_append, List.map_singleton,
          List.mem_singleton] at hmem
        exact hmem.resolve_right (Ne.symm hlast)
      obtain ⟨hlen, hnum⟩ := h.last hmem'
      exact ⟨by omega, hnum⟩

lemma withFeed (h : Holding F ps infos) (n : UInt16) :
    Holding F ps { infos with feedNumber := n } := ⟨h.wf, h.active_eq, h.length_le, h.last⟩

/-- The transfer is taken to be complete once the last block has come. -/
lemma received (h : Holding F ps infos) (hmem : F.count ∈ numbers ps) : infos.received = true := by
  obtain ⟨hlen, hnum⟩ := h.last hmem
  rw [FileTransferInfos.received, hlen, hnum, beq_self_eq_true]

end Holding

/-- The slot holds a transfer all the time. -/
lemma TakesPackets.exists_slot {step : σ → E × Packet → Option σ}
    {slot : σ → Option FileTransferInfos} (hstep : TakesPackets step slot) {s s' : σ}
    {ps : List (E × Packet)} (hslot : ∃ infos, slot s = some infos)
    (hrun : ps.foldlM step s = some s') : ∃ infos, slot s' = some infos := by
  induction ps generalizing s with
  | nil =>
      cases hrun
      exact hslot
  | cons q ps ih =>
      obtain ⟨s₁, hs₁, hrun⟩ := Option.bind_eq_some_iff.mp hrun
      obtain ⟨infos, hslot⟩ := hslot
      refine ih ?_ hrun
      cases hactive : infos.active with
      | false => exact ⟨_, hstep.inactive hslot hactive hs₁⟩
      | true =>
          obtain ⟨infos', -, ⟨n, heq⟩ | ⟨-, heq⟩⟩ := hstep.active hslot hactive hs₁
          · exact ⟨_, heq⟩
          · exact ⟨_, heq⟩

/-- **The packets that have been delivered** to a transfer that is still active. -/
lemma TakesPackets.holding {step : σ → E × Packet → Option σ} {slot : σ → Option FileTransferInfos}
    (hstep : TakesPackets step slot) {F : BlockFile} {s s' : σ} {infos₀ infos : FileTransferInfos}
    {ps : List (E × Packet)} (hslot : slot s = some infos₀) (h₀ : infos₀.Fresh)
    (hps : ∀ q ∈ ps, F.Carries q.2) (hrun : ps.foldlM step s = some s')
    (hslot' : slot s' = some infos) (hactive : infos.active = true) : Holding F ps infos := by
  induction ps using List.reverseRecOn generalizing s' infos with
  | nil =>
      cases hrun
      obtain rfl := Option.some.inj (hslot.symm.trans hslot')
      exact ⟨h₀.wf, h₀.active_eq, by rw [h₀.length_eq]; exact Nat.zero_le _, fun h => by cases h⟩
  | append_singleton ps q ih =>
      rw [List.foldlM_append] at hrun
      obtain ⟨s₁, hrun₁, hrun₂⟩ := Option.bind_eq_some_iff.mp hrun
      have hq : step s₁ q = some s' := by simpa using hrun₂
      obtain ⟨infos₁, hslot₁⟩ := hstep.exists_slot ⟨infos₀, hslot⟩ hrun₁
      cases hactive₁ : infos₁.active with
      | false =>
          rw [hstep.inactive hslot₁ hactive₁ hq] at hslot'
          cases hslot'
          rw [hactive₁] at hactive
          cases hactive
      | true =>
          have hold := ih (fun q' hq' => hps q' (List.mem_append_left _ hq')) hrun₁ hslot₁ hactive₁
          obtain ⟨infos', hrecord, ⟨n, heq⟩ | ⟨-, heq⟩⟩ := hstep.active hslot₁ hactive₁ hq
          · rw [heq] at hslot'
            rw [← Option.some.inj hslot']
            exact (hold.record (hps q (by simp)) hrecord).withFeed n
          · rw [heq] at hslot'
            rw [← Option.some.inj hslot'] at hactive
            cases hactive

/-! ### Packets that come twice -/

/-- A transfer after a packet that has changed nothing that counts: it is still active, with the
same number of bytes, the same last block, and the same blocks, as far as the packet has filled its
own. -/
structure SameTransfer (infos : FileTransferInfos) (p : Packet) (infos' : FileTransferInfos) :
    Prop where
  active : infos'.active = true
  fileSize_eq : infos'.fileSize = infos.fileSize
  lastPacket_eq : infos'.lastPacket = infos.lastPacket
  length_eq : infos'.fileData.length = infos.fileData.length
  other : ∀ j, j ≠ p.numblock.toNat - 1 → infos'.fileData.at? j = infos.fileData.at? j
  own : (infos'.fileData.at? (p.numblock.toNat - 1)).map (read · 0 p.nbytes) =
    (infos.fileData.at? (p.numblock.toNat - 1)).map (read · 0 p.nbytes)

/-- A packet is harmless to the transfer `infos`: `outcome` is the state afterwards. -/
def Harmless (slot : σ → Option FileTransferInfos) (infos : FileTransferInfos) (p : Packet)
    (outcome : Option σ) : Prop :=
  ∃ s' infos', outcome = some s' ∧ slot s' = some infos' ∧ SameTransfer infos p infos'

/-- **A packet that has come before** is not harmless to a transfer that is still active, as long as
not all blocks are there or the transfer ends when they are. -/
lemma TakesPackets.not_harmless {step : σ → E × Packet → Option σ}
    {slot : σ → Option FileTransferInfos} (hstep : TakesPackets step slot) {F : BlockFile} {s : σ}
    {infos : FileTransferInfos} {ps : List (E × Packet)} (hslot : slot s = some infos)
    (hold : Holding F ps infos) {q : E × Packet} (hq : F.Carries q.2)
    (hmem : q.2.numblock.toNat ∈ numbers ps)
    (hend : infos.received = false ∨ ∀ infos' s',
      infos.record q.2.numblock q.2.data q.2.nbytes = some infos' → infos'.received = true →
      step s q = some s' → slot s' = some .zero) :
    ¬Harmless slot infos q.2 (step s q) := by
  rintro ⟨s', infos', hs', hslot', hsame⟩
  obtain ⟨infos'', hrecord, hinfos''⟩ := hstep.active hslot hold.active_eq hs'
  obtain ⟨_, hrecord', hrec⟩ := FileTransferInfos.record_spec hold.wf hq.pos
  obtain rfl := Option.some.inj (hrecord.symm.trans hrecord')
  have hsize : infos'.fileSize = infos''.fileSize := by
    obtain ⟨n, heq⟩ | ⟨-, heq⟩ := hinfos''
    · rw [heq] at hslot'
      rw [← Option.some.inj hslot']
    · rw [heq] at hslot'
      have hactive := hsame.active
      rw [← Option.some.inj hslot'] at hactive
      cases hactive
  -- the bytes are counted once more, so that there are none, and it is the last block
  have hzero : q.2.nbytes = 0 := by
    have hcount := hrec.size_eq
    have hsize' := hsame.fileSize_eq
    omega
  have hlast : q.2.numblock.toNat = F.count := hq.nbytes_lt_iff.mp (by rw [hzero]; decide)
  obtain hgoing | hend := hend
  · rw [hold.received (hlast ▸ hmem)] at hgoing
    cases hgoing
  · have hmem' : F.count ∈ numbers (ps ++ [q]) := by
      rw [numbers, List.map_append]
      exact List.mem_append_left _ (hlast ▸ hmem)
    rw [hend infos'' s' hrecord ((hold.record hq hrecord).received hmem') hs'] at hslot'
    have hactive := hsame.active
    rw [← Option.some.inj hslot'] at hactive
    cases hactive

/-- With an outside where every call succeeds, a transfer of the server ends when all blocks are
there. -/
lemma Server.deliver_works {id : UInt16} {s s' : Server} {q : Env × Packet} (henv : q.1.Works)
    {infos infos' : FileTransferInfos} (hslot : s.slotOf id = some infos)
    (hactive : infos.active = true)
    (hrecord : infos.record q.2.numblock q.2.data q.2.nbytes = some infos')
    (hreceived : infos'.received = true) (hs' : s.deliver id q = some s') :
    s'.slotOf id = some .zero := by
  obtain ⟨hget, hat⟩ := slotOf_eq_some hslot
  obtain ⟨r, hr, rfl⟩ := Option.map_eq_some_iff.mp hs'
  rw [addPacket_eq _ hget hat hactive, hrecord, Option.bind_some, if_pos hreceived] at hr
  have hfiles : r.2.transferFiles = s.transferFiles.write id.toNat .zero := by
    rw [completeTransfer_works henv hr, putTransfer, CArray.write_write]
  have hget' : (s.transferFiles.write id.toNat .zero).get id.toNat = some id.toNat := hget
  rw [slotOf, hfiles, hget', Option.bind_some]
  exact CArray.at?_write_self _ _ (CArray.lt_of_at? hat)

/-- With an outside where a file can be opened, a transfer of the client ends when all blocks are
there. -/
lemma Client.deliver_works {c c' : Client} {q : ClientEnv × Packet} (henv : q.1.Works)
    {infos' : FileTransferInfos} (hactive : c.transferFile.active = true)
    (hrecord : c.transferFile.record q.2.numblock q.2.data q.2.nbytes = some infos')
    (hreceived : infos'.received = true) (hc' : c.deliver q = some c') :
    c'.transferFile = .zero := by
  have heq := addPacket_withTransfer (c := c) ⟨q.1, henv⟩ hactive hrecord
  rw [if_pos hreceived] at heq
  obtain ⟨r, hr, rfl⟩ := Option.map_eq_some_iff.mp hc'
  change c.addPacket q.1 q.2.numblock q.2.data q.2.nbytes = _ at heq
  rw [heq] at hr
  obtain ⟨c'', hend, rfl⟩ := Option.map_eq_some_iff.mp hr
  exact transferFile_downloadEnd hend

/-- **A duplicated datagram is never harmless.**  Some packets of a file, in any order and each any
number of times, have been delivered to a transfer of the server, or of the client, and it is still
active.  A packet that is among them is delivered once more, at a moment when not all packets have
been received by the test of `add_packet`, or the calls succeed that the end of the transfer makes:
it is not harmless. -/
theorem duplicate_never_harmless {F : BlockFile} :
    (∀ {s s' : Server} {id : UInt16} {infos₀ infos : FileTransferInfos} {pseudo : Pseudo}
        {ps : List (Env × Packet)},
      s.Uploading id infos₀ pseudo → (∀ q ∈ ps, F.Carries q.2) →
      ps.foldlM (Server.deliver id) s = some s' → s'.slotOf id = some infos →
      infos.active = true → ∀ env p, F.Carries p → p.numblock.toNat ∈ numbers ps →
      (infos.received = false ∨ env.Works) →
      ¬Harmless (fun s : Server => s.slotOf id) infos p (s'.deliver id (env, p))) ∧
    (∀ {c c' : Client} {ps : List (ClientEnv × Packet)},
      c.transferFile.Fresh → (∀ q ∈ ps, F.Carries q.2) →
      ps.foldlM Client.deliver c = some c' → c'.transferFile.active = true →
      ∀ env p, F.Carries p → p.numblock.toNat ∈ numbers ps →
      (c'.transferFile.received = false ∨ env.Works) →
      ¬Harmless (fun c : Client => some c.transferFile) c'.transferFile p
        (c'.deliver (env, p))) := by
  refine ⟨fun {s s' id infos₀ infos pseudo ps} hs hps hrun hslot hactive env p hp hmem hend => ?_,
    fun {c c' ps} hc hps hrun hactive env p hp hmem hend => ?_⟩
  · have hslot₀ : s.slotOf id = some infos₀ := by
      rw [Server.slotOf, hs.get_eq, Option.bind_some, hs.at?_eq]
    have hold := (Server.takesPackets id).holding hslot₀ hs.fresh hps hrun hslot hactive
    exact (Server.takesPackets id).not_harmless (q := (env, p)) hslot hold hp hmem
      (hend.imp_right fun henv _ _ hrecord hreceived hs'' =>
        Server.deliver_works henv hslot hactive hrecord hreceived hs'')
  · have hold := Client.takesPackets.holding rfl hc hps hrun rfl hactive
    exact Client.takesPackets.not_harmless (q := (env, p)) rfl hold hp hmem
      (hend.imp_right fun henv _ _ hrecord hreceived hc'' =>
        congrArg some (Client.deliver_works henv hactive hrecord hreceived hc''))

namespace Twice

open OutOfOrder

/-- The first of two blocks has been delivered to the server. -/
lemma exists_server : ∃ s infos,
    [(env.1, first)].foldlM (Server.deliver 1) server = some s ∧
    s.slotOf 1 = some infos ∧ infos.active = true ∧ infos.received = false :=
  ⟨_, _, rfl, rfl, rfl, rfl⟩

/-- The first of two blocks has been delivered to the client. -/
lemma exists_client : ∃ c, [(clientEnv.1, first)].foldlM Client.deliver client = some c ∧
    c.transferFile.active = true ∧ c.transferFile.received = false :=
  ⟨_, rfl, rfl, rfl⟩

lemma carries {E : Type} (e : E) : ∀ q ∈ [(e, first)], file.Carries q.2 := by
  intro q hq
  rw [List.mem_singleton.mp hq]
  exact carries_first

lemma mem_numbers {E : Type} (e : E) : first.numblock.toNat ∈ numbers [(e, first)] :=
  List.mem_singleton_self _

/-- The lengths of the files that the client writes of some packets. -/
def written (ps : List Packet) : Option (List ℕ) :=
  ((ps.map fun p => (clientEnv.1, p)).foldlM Client.deliver client).map fun c =>
    c.disk.map (·.2.length)

/-- A file that has been read from memory has the length that has been counted. -/
lemma written_eq {ps : List Packet} {path : List UInt8} {m : ℕ → UInt8} {n : ℕ}
    (h : ((ps.map fun p => (clientEnv.1, p)).foldlM Client.deliver client).map (·.disk) =
      some [(path, read m 0 n)]) : written ps = some [n] := by
  obtain ⟨c, hc, hdisk⟩ := Option.map_eq_some_iff.mp h
  rw [written, hc, Option.map_some, hdisk, List.map_singleton, length_read]

/-- The first of two blocks comes twice: it is not harmless, and the file is longer than without. -/
theorem duplicate_not_harmless :
    (∃ s infos, [(env.1, first)].foldlM (Server.deliver 1) server = some s ∧
      s.slotOf 1 = some infos ∧ infos.active = true ∧ infos.received = false ∧
      ¬Harmless (fun s : Server => s.slotOf 1) infos first (s.deliver 1 (env.1, first))) ∧
    (∃ c, [(clientEnv.1, first)].foldlM Client.deliver client = some c ∧
      c.transferFile.active = true ∧ c.transferFile.received = false ∧
      ¬Harmless (fun c : Client => some c.transferFile) c.transferFile first
        (c.deliver (clientEnv.1, first))) ∧
    written [first, second] = some [513] ∧ written [first, first, second] = some [1025] := by
  obtain ⟨s, infos, hs, hslot, hactive, hgoing⟩ := exists_server
  obtain ⟨c, hc, hcactive, hcgoing⟩ := exists_client
  have hold := (Server.takesPackets 1).holding (by rfl) uploading.fresh (carries env.1) hs hslot
    hactive
  have hchold := Client.takesPackets.holding rfl (Client.fresh_transferNew 0 _ fun _ => 0)
    (carries clientEnv.1) hc rfl hcactive
  refine ⟨⟨s, infos, hs, hslot, hactive, hgoing, ?_⟩, ⟨c, hc, hcactive, hcgoing, ?_⟩, ?_, ?_⟩
  · exact (Server.takesPackets 1).not_harmless (q := (env.1, first)) hslot hold carries_first
      (mem_numbers env.1) (.inl hgoing)
  · exact Client.takesPackets.not_harmless (q := (clientEnv.1, first)) rfl hchold carries_first
      (mem_numbers clientEnv.1) (.inl hcgoing)
  · exact written_eq rfl
  · exact written_eq rfl

/-- The same two deliveries, among all. -/
theorem duplicate_never_harmless_two :
    (∃ s infos, [(env.1, first)].foldlM (Server.deliver 1) server = some s ∧
      ¬Harmless (fun s : Server => s.slotOf 1) infos first (s.deliver 1 (env.1, first))) ∧
    ∃ c, [(clientEnv.1, first)].foldlM Client.deliver client = some c ∧
      ¬Harmless (fun c : Client => some c.transferFile) c.transferFile first
        (c.deliver (clientEnv.1, first)) := by
  obtain ⟨s, infos, hs, hslot, hactive, hgoing⟩ := exists_server
  obtain ⟨c, hc, hcactive, hcgoing⟩ := exists_client
  exact ⟨⟨s, infos, hs, duplicate_never_harmless.1 uploading (carries env.1) hs hslot hactive
      env.1 first carries_first (mem_numbers env.1) (.inl hgoing)⟩,
    c, hc, duplicate_never_harmless.2 (Client.fresh_transferNew 0 _ fun _ => 0)
      (carries clientEnv.1) hc hcactive clientEnv.1 first carries_first (mem_numbers clientEnv.1)
      (.inl hcgoing)⟩

end Twice

end Megaphone
