import Megaphone.Client.Run
import Megaphone.Server.Datagrams

/-!
What a single packet does, at the server and at the client.

* `FileTransferInfos.Stores`: a block is stored, and no other; `record_stores`, `record_zero`: it is
  what a packet does with a positive block number, and with the number 0 there is no storage left.
* `packet_touches_own_block_iff`: after every run, a packet touches its own block only exactly when
  its block number is not 0.
* `PayloadExact`: what `add_packet` gets of a datagram is what stands behind its two words;
  `payload_exact_iff`: it is so exactly for datagrams of at least four bytes.
-/

namespace Megaphone

open Memory

/-! ### The block of a packet -/

namespace FileTransferInfos

/-- The block of a packet is stored at its number, there is not less storage than before, and the
other blocks stay. -/
structure Stores (infos : FileTransferInfos) (p : Packet) (infos' : FileTransferInfos) : Prop where
  pos : 1 ≤ p.numblock.toNat
  stored : infos'.fileData.at? (p.numblock.toNat - 1) = some p.data
  length_le : infos.fileData.length ≤ infos'.fileData.length
  capacity_le : infos.fileData.capacity ≤ infos'.fileData.capacity
  length_le_capacity : infos'.fileData.length ≤ infos'.fileData.capacity
  other : ∀ j, j ≠ p.numblock.toNat - 1 → infos'.fileData.at? j = infos.fileData.at? j

variable {infos : FileTransferInfos} {p : Packet}

/-- **A packet with a positive number** is stored. -/
lemma record_stores (hwf : infos.fileData.Wf) (hpos : 0 < p.numblock.toNat) :
    ∃ infos', infos.record p.numblock p.data p.nbytes = some infos' ∧ infos.Stores p infos' := by
  have hlt := p.numblock.toNat_lt
  have hsub : sizeSub p.numblock.toNat 1 = p.numblock.toNat - 1 := if_pos hpos
  obtain ⟨a, hset, hwf', hlength, hcapacity, hself, hother⟩ :=
    CArray.set_spec hwf (i := p.numblock.toNat - 1) (by omega) p.data
  rw [record, hsub, hset]
  refine ⟨_, rfl, hpos, hself, ?_, ?_, hwf'.length_le, hother⟩
  · rw [hlength]
    exact le_max_left _ _
  · rw [hcapacity]
    exact le_max_left _ _

/-- **A packet with the number 0**: its index is the largest `size_t`, so that `realloc` to no byte
takes all storage away. -/
lemma record_zero (hcapacity : infos.fileData.capacity ≤ 65535) (hzero : p.numblock = 0) :
    infos.record p.numblock p.data p.nbytes = none := by
  have hset : infos.fileData.set (sizeSub p.numblock.toNat 1) p.data = none := by
    have hge : sizeSub p.numblock.toNat 1 ≥ infos.fileData.capacity := by
      rw [hzero]
      exact hcapacity.trans (by decide)
    rw [CArray.set, if_pos hge, hzero]
    rfl
  rw [record, hset, Option.map_none]

end FileTransferInfos

/-- What a packet may do to the transfer `infos`: it is rejected, and the state `s` stays, or its
block is stored, and the transfer has these blocks afterwards, unless all of them are there and it
has ended.  The transfer of a state is `slot`, and `outcome` what `add_packet` returns. -/
def TouchesOwnBlock {σ C : Type} (slot : σ → Option FileTransferInfos) (s : σ)
    (infos : FileTransferInfos) (p : Packet) (outcome : Option (C × σ)) : Prop :=
  (∃ code, outcome = some (code, s)) ∨
  ∃ infos', infos.record p.numblock p.data p.nbytes = some infos' ∧ infos.Stores p infos' ∧
    (infos'.received = false → ∃ r, outcome = some r) ∧
    ∀ r, outcome = some r →
      (∃ infos'', slot r.2 = some infos'' ∧ infos''.fileData = infos'.fileData) ∨
      infos'.received = true ∧ slot r.2 = some .zero

/-- What a packet of user `id` does at the server. -/
def Server.TouchesOwnBlock (env : Env) (s : Server) (id : UInt16) (infos : FileTransferInfos)
    (p : Packet) : Prop :=
  Megaphone.TouchesOwnBlock (fun s : Server => s.transferFiles.at? id.toNat) s infos p
    (s.addPacket env id p.numblock p.data p.nbytes)

/-- What a packet does at the client. -/
def Client.TouchesOwnBlock (env : ClientEnv) (c : Client) (p : Packet) : Prop :=
  Megaphone.TouchesOwnBlock (fun c : Client => some c.transferFile) c c.transferFile p
    (c.addPacket env p.numblock p.data p.nbytes)

/-- **A packet**: what `add_packet` returns when the block cannot be stored, and when it is. -/
lemma touchesOwnBlock_iff {σ C : Type} {slot : σ → Option FileTransferInfos} {s : σ}
    {infos : FileTransferInfos} {p : Packet} {outcome : Option (C × σ)}
    (hwf : infos.fileData.Wf) (hcapacity : infos.fileData.capacity ≤ 65535)
    (hnone : infos.record p.numblock p.data p.nbytes = none → outcome = none)
    (hsome : ∀ infos', infos.record p.numblock p.data p.nbytes = some infos' →
      (infos'.received = false → ∃ r, outcome = some r) ∧
      ∀ r, outcome = some r →
        (∃ infos'', slot r.2 = some infos'' ∧ infos''.fileData = infos'.fileData) ∨
        infos'.received = true ∧ slot r.2 = some .zero) :
    TouchesOwnBlock slot s infos p outcome ↔ p.numblock ≠ 0 := by
  constructor
  · intro hown hzero
    have hrecord := FileTransferInfos.record_zero hcapacity hzero
    obtain ⟨code, hcode⟩ | ⟨infos', hrecord', -⟩ := hown
    · rw [hnone hrecord] at hcode
      cases hcode
    · rw [hrecord] at hrecord'
      cases hrecord'
  · intro hne
    have hpos : 0 < p.numblock.toNat :=
      Nat.pos_of_ne_zero fun h0 => hne (UInt16.toNat_inj.mp h0)
    obtain ⟨infos', hrecord, hstores⟩ := FileTransferInfos.record_stores hwf hpos
    exact .inr ⟨infos', hrecord, hstores, hsome infos' hrecord⟩

/-- **A packet at the server**, for an active transfer with blocks in order. -/
lemma Server.touchesOwnBlock_iff {s : Server} {id : UInt16} {infos : FileTransferInfos}
    (hget : s.transferFiles.get id.toNat = some id.toNat)
    (hat : s.transferFiles.at? id.toNat = some infos) (hactive : infos.active = true)
    (hwf : infos.fileData.Wf) (hcapacity : infos.fileData.capacity ≤ 65535) (env : Env)
    (p : Packet) : s.TouchesOwnBlock env id infos p ↔ p.numblock ≠ 0 := by
  have heq := addPacket_eq env hget hat hactive p
  refine Megaphone.touchesOwnBlock_iff hwf hcapacity (fun hrecord => ?_)
    fun infos' hrecord => ⟨fun hgoing => ?_, fun r hr => ?_⟩
  · rw [heq, hrecord]
    rfl
  · rw [heq, hrecord, Option.bind_some, hgoing]
    exact ⟨_, rfl⟩
  · rw [hrecord, Option.bind_some] at heq
    have hself : ∀ infos, (s.transferFiles.write id.toNat infos).at? id.toNat = some infos :=
      fun infos => CArray.at?_write_self _ _ (CArray.lt_of_at? hat)
    obtain ⟨n, hr'⟩ | ⟨hreceived, -, hr'⟩ := packetEnds (heq.symm.trans hr)
    · rw [hr']
      exact .inl ⟨_, hself _, rfl⟩
    · rw [hr']
      exact .inr ⟨hreceived, hself .zero⟩

/-- **A packet at the client**, for an active transfer with blocks in order. -/
lemma Client.touchesOwnBlock_iff {c : Client} (hactive : c.transferFile.active = true)
    (hc : c.BlocksInv) (env : ClientEnv) (p : Packet) :
    c.TouchesOwnBlock env p ↔ p.numblock ≠ 0 := by
  refine Megaphone.touchesOwnBlock_iff hc.wf hc.capacity_le (fun hrecord => ?_)
    fun infos' hrecord => ⟨fun hgoing => ?_, fun r hr => ?_⟩
  · rw [addPacket, if_pos hactive, hrecord]
    rfl
  · rw [addPacket, if_pos hactive, hrecord]
    simp only [Option.bind_eq_bind, Option.bind_some, hgoing]
    exact ⟨_, rfl⟩
  · obtain ⟨-, hfree⟩ | ⟨infos, hrecord', hr'⟩ := addPacket_transferFile hr
    · rw [hactive] at hfree
      cases hfree
    · rw [hrecord] at hrecord'
      cases hrecord'
      obtain heq | ⟨hreceived, heq⟩ := hr'
      · rw [heq]
        exact .inl ⟨infos', rfl, rfl⟩
      · rw [heq]
        exact .inr ⟨hreceived, rfl⟩

/-- A packet at the server after a run. -/
lemma Server.touchesOwnBlock_of_run {w : World} {ts : List ServerTransition}
    (h : Machine.Run step World.init ts w) {id : UInt16} {infos : FileTransferInfos}
    (hat : w.server.transferFiles.at? id.toNat = some infos) (hactive : infos.active = true)
    (env : Env) (p : Packet) :
    w.server.TouchesOwnBlock env id infos p ↔ p.numblock ≠ 0 := by
  have hinv := run_table h tableInv_dataInit
  have hcovered := hinv.covered _ _ hat hactive
  have hget : w.server.transferFiles.get id.toNat = some id.toNat := by
    rw [CArray.get, if_neg (by omega)]
  exact touchesOwnBlock_iff hget hat hactive (hinv.wf _ _ hat) (run_capacity h hat) env p

/-- **A packet touches its own block only** exactly when its number is not 0.  After every run of
the server, for the active transfer of every user, and after every run of the client, for its
transfer when it is active: the packet is rejected, or its block is stored and no other, and the
array of the blocks does not shrink. -/
theorem packet_touches_own_block_iff (p : Packet) :
    (∀ {w : World} {ts : List ServerTransition}, Machine.Run step World.init ts w →
      ∀ {id : UInt16} {infos : FileTransferInfos},
        w.server.transferFiles.at? id.toNat = some infos → infos.active = true →
        ∀ env, w.server.TouchesOwnBlock env id infos p ↔ p.numblock ≠ 0) ∧
    (∀ {c₀ c : Client} {ts : List (Machine.Transition Client ClientInput (Option Int8))},
      c₀.transferFile = .zero → Machine.Run Client.step c₀ ts c → c.transferFile.active = true →
        ∀ env, c.TouchesOwnBlock env p ↔ p.numblock ≠ 0) :=
  ⟨fun h _ _ hat hactive env => Server.touchesOwnBlock_of_run h hat hactive env p,
    fun hc₀ h hactive env => Client.touchesOwnBlock_iff hactive (Client.run_blocks h hc₀) env p⟩

namespace BlockZero

/-- A full packet with the block number `n`. -/
def packet (n : UInt16) : Packet := ⟨n, fun _ => 97, FILE_PACKET_SIZE⟩

def clientEnv : ClientEnv :=
  ⟨some [], fun _ => true, fun _ => true, fun _ => true, fun _ => true, fun _ => 0⟩

/-- User 1 has asked for an upload to a new feed. -/
lemma exists_run : ∃ ts w infos, Machine.Run step World.init ts w ∧
    w.server.transferFiles.at? (1 : UInt16).toNat = some infos ∧ infos.active = true :=
  ⟨_, _, _, .cons (a := .tcp (.quiet [0]) (.rg ⟨0, .replicate PSEUDO_LEN 97⟩)) rfl
    (.cons (a := .tcp (.quiet []) (.cl UPLOAD upload_ne
      ⟨mkHeader UPLOAD 1, 0, 0, 1, ofList [97] 0⟩)) rfl (.nil _)), rfl, rfl⟩

/-- A client has asked for a download. -/
lemma exists_clientRun : ∃ c₀ ts c, c₀.transferFile = .zero ∧ Machine.Run Client.step c₀ ts c ∧
    c.transferFile.active = true :=
  ⟨⟨1, show (1 : UInt16).toNat < 2048 from by decide, .zero, []⟩, _, _, rfl,
    .cons (a := .download 0 fun _ => 97) rfl (.nil _), rfl⟩

/-- A packet with the block number 0. -/
theorem not_packet_touches_own_block :
    (∃ ts w infos, Machine.Run step World.init ts w ∧
      w.server.transferFiles.at? (1 : UInt16).toNat = some infos ∧ infos.active = true ∧
      ¬w.server.TouchesOwnBlock (.quiet []) 1 infos (packet 0)) ∧
    ∃ c₀ ts c, c₀.transferFile = .zero ∧ Machine.Run Client.step c₀ ts c ∧
      c.transferFile.active = true ∧ ¬c.TouchesOwnBlock clientEnv (packet 0) := by
  obtain ⟨ts, w, infos, hrun, hat, hactive⟩ := exists_run
  obtain ⟨c₀, us, c, hc₀, hclient, hc⟩ := exists_clientRun
  exact ⟨⟨ts, w, infos, hrun, hat, hactive, fun h =>
      (Server.touchesOwnBlock_of_run hrun hat hactive _ _).mp h rfl⟩,
    c₀, us, c, hc₀, hclient, hc, fun h =>
      (Client.touchesOwnBlock_iff hc (Client.run_blocks hclient hc₀) _ _).mp h rfl⟩

/-- A packet with the block number 65535. -/
theorem packet_touches_own_block_iff_last :
    (∃ ts w infos, Machine.Run step World.init ts w ∧
      w.server.transferFiles.at? (1 : UInt16).toNat = some infos ∧ infos.active = true ∧
      w.server.TouchesOwnBlock (.quiet []) 1 infos (packet 65535)) ∧
    ∃ c₀ ts c, c₀.transferFile = .zero ∧ Machine.Run Client.step c₀ ts c ∧
      c.transferFile.active = true ∧ c.TouchesOwnBlock clientEnv (packet 65535) := by
  obtain ⟨ts, w, infos, hrun, hat, hactive⟩ := exists_run
  obtain ⟨c₀, us, c, hc₀, hclient, hc⟩ := exists_clientRun
  have hne : (packet 65535).numblock ≠ 0 := by decide
  exact ⟨⟨ts, w, infos, hrun, hat, hactive,
      ((packet_touches_own_block_iff _).1 hrun hat hactive _).mpr hne⟩,
    c₀, us, c, hc₀, hclient, hc, ((packet_touches_own_block_iff _).2 hc₀ hclient hc _).mpr hne⟩

end BlockZero

/-! ### The payload of a datagram -/

/-- The bytes that `recvfrom` puts in the buffer for a datagram. -/
def receivedBytes (d : List UInt8) : List UInt8 := d.take SIZEOF_FTRANSFERRQ

/-- What `recv_datagrams` makes of a datagram is what was received: neither of the two subtractions
of the length of the words wraps around, and the payload are the bytes behind the words. -/
structure PayloadExact (d : List UInt8) (ft : FTransferRQ) (nbytes : ℕ) : Prop where
  nbytes_eq : nbytes = (receivedBytes d).length
  four_le : 4 ≤ nbytes
  length_eq : sizeSub nbytes 4 = ((receivedBytes d).drop 4).length
  data_eq : read ft.data 0 (sizeSub nbytes 4) = (receivedBytes d).drop 4

/-- The server on a datagram: what `add_packet` gets of one that is of an upload is its payload, and
one that is too short changes no transfer. -/
def Server.ReceivesExactly (env : Env) (d : List UInt8) : Prop :=
  (∃ type ft nbytes, recvDatagrams (ntohClientrqup env.junk) d = some (type, ft, nbytes) ∧
    PayloadExact d ft nbytes ∧ ∀ s : Server, s.udpServerLoop env d =
      if type = UPLOAD then
        s.addPacket env (getId ft.header) ft.numblock ft.data (sizeSub nbytes 4)
      else some (0, s)) ∧
  (d.length < 4 → ∀ s : Server, ∃ r, s.udpServerLoop env d = some r ∧
    r.2.transferFiles = s.transferFiles)

/-- The client on a datagram: what `add_packet` gets of one that is of its download is its payload,
and one that is too short does not change the transfer. -/
def Client.ReceivesExactly (env : ClientEnv) (d : List UInt8) : Prop :=
  (∃ type ft nbytes, recvDatagrams ntohServerrqdl d = some (type, ft, nbytes) ∧
    PayloadExact d ft nbytes ∧ ∀ c : Client, c.handleReadyFds env d =
      if type = DOWNLOAD ∧ c.userId = getId ft.header then
        c.addPacket env ft.numblock ft.data (sizeSub nbytes 4)
      else some (1, c)) ∧
  (d.length < 4 → ∀ c : Client, ∃ r, c.handleReadyFds env d = some r ∧
    r.2.transferFile = c.transferFile)

/-- **A short datagram**: the length of its payload wraps around, and is far too large. -/
lemma recvDatagrams_short (data : ℕ → UInt8) {d : List UInt8} (h : d.length < 4) :
    recvDatagrams (ntohRqft data) d = none := by
  have hlen : (d.take SIZEOF_FTRANSFERRQ).length = d.length := by
    rw [List.length_take, SIZEOF_FTRANSFERRQ]
    omega
  have hwrap : ¬sizeSub d.length 4 ≤ FILE_PACKET_SIZE := by
    rw [sizeSub, if_neg (by omega), FILE_PACKET_SIZE]
    omega
  simp only [recvDatagrams, ntohRqft, extractbuf, size_bytesOf, hlen, Nat.zero_add, Nat.reduceAdd,
    if_neg hwrap, Option.map_none]

/-- **A datagram of at least four bytes.** -/
lemma payloadExact (data : ℕ → UInt8) {d : List UInt8} (h : 4 ≤ d.length) :
    PayloadExact d ⟨datagramHeader d, datagramNumblock d, write data 0 (datagramPayload d)⟩
      (4 + (datagramPayload d).length) := by
  have hpayload : (receivedBytes d).drop 4 = datagramPayload d := by
    rw [receivedBytes, List.drop_take]
    rfl
  have hsub : sizeSub (4 + (datagramPayload d).length) 4 = (datagramPayload d).length := by
    rw [sizeSub, if_pos (by omega)]
    omega
  refine ⟨?_, Nat.le_add_right _ _, by rw [hsub, hpayload], ?_⟩
  · rw [← hpayload, List.length_drop, receivedBytes, List.length_take, SIZEOF_FTRANSFERRQ]
    omega
  · rw [hsub, hpayload]
    exact read_write_self data 0 _

/-- **Payload lengths are exact** exactly for datagrams of at least four bytes, at the server and at
the client. -/
theorem payload_exact_iff (d : List UInt8) :
    (∀ env, Server.ReceivesExactly env d ↔ 4 ≤ d.length) ∧
    (∀ env, Client.ReceivesExactly env d ↔ 4 ≤ d.length) := by
  refine ⟨fun env => ⟨?_, fun h => ?_⟩, fun env => ⟨?_, fun h => ?_⟩⟩
  · rintro ⟨⟨type, ft, nbytes, hrecv, -⟩, -⟩
    by_contra hlt
    have hnone : recvDatagrams (ntohClientrqup env.junk) d = none :=
      recvDatagrams_short env.junk (not_le.mp hlt)
    rw [hnone] at hrecv
    cases hrecv
  · have hrecv : recvDatagrams (ntohClientrqup env.junk) d = _ := recvDatagrams_eq env.junk h
    refine ⟨⟨_, _, _, hrecv, payloadExact env.junk h, fun s => ?_⟩, fun hlt => by omega⟩
    rw [Server.udpServerLoop, hrecv]
    simp only [Option.bind_eq_bind, Option.bind_some, Server.handleUploadPacket, ne_eq, ite_not]
  · rintro ⟨⟨type, ft, nbytes, hrecv, -⟩, -⟩
    by_contra hlt
    have hnone : recvDatagrams ntohServerrqdl d = none :=
      recvDatagrams_short (fun _ => 0) (not_le.mp hlt)
    rw [hnone] at hrecv
    cases hrecv
  · have hrecv : recvDatagrams ntohServerrqdl d = _ := recvDatagrams_eq (fun _ => 0) h
    refine ⟨⟨_, _, _, hrecv, payloadExact (fun _ => 0) h, fun c => ?_⟩, fun hlt => by omega⟩
    rw [Client.handleReadyFds, hrecv]
    simp only [Option.bind_eq_bind, Option.bind_some, Client.handleDownloadPacket, ne_eq, ite_not,
      ite_and]

/-- An empty datagram: the copy of its payload does not end. -/
theorem not_payload_exact : ¬Server.ReceivesExactly (.quiet []) [] ∧
    ¬Client.ReceivesExactly BlockZero.clientEnv [] ∧
    (∀ s : Server, s.udpServerLoop (.quiet []) [] = none) ∧
    ∀ c : Client, c.handleReadyFds BlockZero.clientEnv [] = none := by
  have hnone : ∀ data, recvDatagrams (ntohRqft data) [] = none := fun data =>
    recvDatagrams_short data (by decide)
  have hserver : ∀ s : Server, s.udpServerLoop (.quiet []) [] = none := fun s => by
    rw [Server.udpServerLoop, show recvDatagrams (ntohClientrqup (Env.quiet []).junk) [] = none from
      hnone _]
    rfl
  have hclient : ∀ c : Client, c.handleReadyFds BlockZero.clientEnv [] = none := fun c => by
    rw [Client.handleReadyFds, show recvDatagrams ntohServerrqdl [] = none from hnone _]
    rfl
  refine ⟨fun h => ?_, fun h => ?_, hserver, hclient⟩
  · obtain ⟨r, hr, -⟩ := h.2 (by decide) dataInit
    rw [hserver] at hr
    cases hr
  · obtain ⟨r, hr, -⟩ := h.2 (by decide) ⟨1, by decide, .zero, []⟩
    rw [hclient] at hr
    cases hr

end Megaphone
