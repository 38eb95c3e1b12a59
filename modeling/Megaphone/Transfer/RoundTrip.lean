import Megaphone.Transfer.Order

/-!
Files through `ftransferrqs_new`, `send_ftransfer_requests` and `add_packet`, without loss and in
order.

* `blockFile`: the blocks that `ftransferrqs_new` makes of a file, and `bytes_blockFile_eq_iff`: the
  bytes in them are those of the file exactly when its length is `0` or no multiple of the length
  of a block.
* `inOrder`: the packets of the file in order, and `Server.takeDatagrams_eq`,
  `Client.takeDatagrams_eq`: they are what the datagrams become.
* `file_round_trip_iff`: the bytes that are written are those of the file, exactly for such lengths.
-/

namespace Megaphone

open Memory

/-- `65534 * 512`, the length of the shortest file with too many blocks. -/
def FILE_SIZE_MAX : ℕ := 65534 * FILE_PACKET_SIZE

/-! ### The blocks of a file -/

/-- The length is `0` or no multiple of the length of a block. -/
def LastBlockShort (n : ℕ) : Prop := n = 0 ∨ n % FILE_PACKET_SIZE ≠ 0

/-- The number of blocks, of which a `uint16_t` keeps the last 16 bits. -/
lemma toNat_numblockOf_mod (n : ℕ) :
    (numblockOf n).toNat =
      (if n % FILE_PACKET_SIZE = 0 ∧ n ≠ 0 then n / FILE_PACKET_SIZE + 2
        else n / FILE_PACKET_SIZE + 1) % 2 ^ 16 := by
  rw [numblockOf]
  generalize n / FILE_PACKET_SIZE = m
  have hone : (UInt16.ofNat m + 1).toNat = (m + 1) % 2 ^ 16 := by
    rw [UInt16.toNat_add, UInt16.toNat_ofNat']
    change (m % 2 ^ 16 + 1) % 2 ^ 16 = _
    omega
  split
  · rw [UInt16.toNat_add, hone]
    change ((m + 1) % 2 ^ 16 + 1) % 2 ^ 16 = _
    omega
  · exact hone

/-- The number of blocks, when a `uint16_t` holds it. -/
lemma toNat_numblockOf {n : ℕ} (hn : n < FILE_SIZE_MAX) :
    (numblockOf n).toNat =
      if n % FILE_PACKET_SIZE = 0 ∧ n ≠ 0 then n / FILE_PACKET_SIZE + 2
      else n / FILE_PACKET_SIZE + 1 := by
  have hdiv : n / FILE_PACKET_SIZE < 65534 := Nat.div_lt_of_lt_mul (by rwa [Nat.mul_comm])
  rw [toNat_numblockOf_mod, Nat.mod_eq_of_lt]
  split <;> omega

/-- The blocks before the last one. -/
def fullBlocks (n : ℕ) : ℕ := (numblockOf n).toNat - 1

lemma numblockOf_eq {n : ℕ} (hn : n < FILE_SIZE_MAX) :
    (numblockOf n).toNat = fullBlocks n + 1 := by
  have hpos : 0 < (numblockOf n).toNat := by
    rw [toNat_numblockOf hn]
    split <;> exact Nat.succ_pos _
  rw [fullBlocks, Nat.sub_add_cancel hpos]

/-- The bytes that the blocks hold: those of the file, or a block too much. -/
lemma length_bytes_eq_iff {n : ℕ} (hn : n < FILE_SIZE_MAX) :
    fullBlocks n * FILE_PACKET_SIZE + n % FILE_PACKET_SIZE = n ↔ LastBlockShort n := by
  rw [fullBlocks, toNat_numblockOf hn, LastBlockShort, FILE_PACKET_SIZE]
  split <;> omega

/-- The payload of block number `i`, counted from `0`. -/
def payload (file : ℕ → UInt8) (n i : ℕ) : List UInt8 :=
  read file (i * FILE_PACKET_SIZE) (blockLen (numblockOf n).toNat n i)

lemma blockLen_le (k n i : ℕ) : blockLen k n i ≤ FILE_PACKET_SIZE := by
  rw [blockLen]
  split
  · exact (Nat.mod_lt n (by decide)).le
  · exact le_rfl

/-- Before the last block, blocks are full. -/
lemma length_payload_of_lt {n i : ℕ} (hn : n < FILE_SIZE_MAX) (file : ℕ → UInt8)
    (hi : i < fullBlocks n) : (payload file n i).length = FILE_PACKET_SIZE := by
  rw [payload, length_read, blockLen, if_neg (by rw [numblockOf_eq hn]; omega)]

lemma length_payload_last {n : ℕ} (hn : n < FILE_SIZE_MAX) (file : ℕ → UInt8) :
    (payload file n (fullBlocks n)).length = n % FILE_PACKET_SIZE := by
  rw [payload, length_read, blockLen, if_pos (numblockOf_eq hn).symm]

/-- The payloads of all blocks. -/
def payloads (file : ℕ → UInt8) (n : ℕ) : List (List UInt8) :=
  (List.range (numblockOf n).toNat).map (payload file n)

lemma payloads_eq {n : ℕ} (hn : n < FILE_SIZE_MAX) (file : ℕ → UInt8) :
    payloads file n =
      (List.range (fullBlocks n)).map (payload file n) ++ [payload file n (fullBlocks n)] := by
  rw [payloads, numblockOf_eq hn, List.range_succ, List.map_append, List.map_singleton]

/-- The blocks that `ftransferrqs_new` makes of a file. -/
def blockFile (file : ℕ → UInt8) (n : ℕ) (hn : n < FILE_SIZE_MAX) : BlockFile where
  blocks := payloads file n
  ne_nil := by
    rw [payloads_eq hn]
    simp
  length_le := by
    have hlt := (numblockOf n).toNat_lt
    rw [payloads, List.length_map, List.length_range]
    omega
  full b hb := by
    rw [payloads_eq hn, List.dropLast_concat] at hb
    obtain ⟨i, hi, rfl⟩ := List.mem_map.mp hb
    exact length_payload_of_lt hn file (List.mem_range.mp hi)
  short := by
    have hlast : (payloads file n).getLast? = some (payload file n (fullBlocks n)) := by
      rw [payloads_eq hn, List.getLast?_concat]
    rw [List.getLast_of_getLast?_eq_some hlast, length_payload_last hn]
    exact Nat.mod_lt n (by decide)

variable {file : ℕ → UInt8} {n : ℕ}

lemma blocks_blockFile (hn : n < FILE_SIZE_MAX) :
    (blockFile file n hn).blocks = payloads file n := rfl

lemma count_blockFile (hn : n < FILE_SIZE_MAX) :
    (blockFile file n hn).count = fullBlocks n + 1 := by
  rw [BlockFile.count, blocks_blockFile, payloads, List.length_map, List.length_range,
    numblockOf_eq hn]

lemma getElem?_payloads (hn : n < FILE_SIZE_MAX) (file : ℕ → UInt8) {i : ℕ}
    (hi : i ≤ fullBlocks n) :
    (payloads file n)[i]? = some (payload file n i) := by
  have hlt : i < (numblockOf n).toNat := by
    rw [numblockOf_eq hn]
    omega
  rw [payloads, List.getElem?_map, List.getElem?_range hlt, Option.map_some]

/-- **The bytes in the blocks** of a file are its first ones, up to the end of the last block. -/
lemma bytes_blockFile (hn : n < FILE_SIZE_MAX) :
    (blockFile file n hn).bytes =
      read file 0 (fullBlocks n * FILE_PACKET_SIZE + n % FILE_PACKET_SIZE) := by
  have hholds : HoldsAt file 0 (payloads file n) := by
    refine holdsAt_of_blocks (blockFile file n hn).full fun i hi => ?_
    have hle : i ≤ fullBlocks n := by
      have hcount : (payloads file n).length = fullBlocks n + 1 := count_blockFile hn
      omega
    have hpayload := getElem?_payloads hn file hle
    rw [List.getElem?_eq_getElem hi, Option.some.injEq] at hpayload
    rw [hpayload, payload, length_read, Nat.zero_add]
  have hlength : (payloads file n).flatten.length =
      fullBlocks n * FILE_PACKET_SIZE + n % FILE_PACKET_SIZE := by
    have hfull : ∀ i ∈ List.range (fullBlocks n), (payload file n i).length = FILE_PACKET_SIZE :=
      fun i hi => length_payload_of_lt hn file (List.mem_range.mp hi)
    calc (payloads file n).flatten.length
        = ((List.range (fullBlocks n)).map fun i => (payload file n i).length).sum +
            (payload file n (fullBlocks n)).length := by
          rw [payloads_eq hn, List.length_flatten, List.map_append, List.sum_append, List.map_map]
          simp [Function.comp_def]
      _ = ((List.range (fullBlocks n)).map fun _ => FILE_PACKET_SIZE).sum +
            n % FILE_PACKET_SIZE := by
          rw [List.map_congr_left hfull, length_payload_last hn]
      _ = fullBlocks n * FILE_PACKET_SIZE + n % FILE_PACKET_SIZE := by simp
  rw [BlockFile.bytes, blocks_blockFile, ← hlength]
  exact ((read_flatten_iff file 0 _).mpr hholds).symm

/-- The bytes in the blocks are those of the file exactly for lengths of which the last block is
short. -/
lemma bytes_blockFile_eq_iff (hn : n < FILE_SIZE_MAX) (file : ℕ → UInt8) :
    (blockFile file n hn).bytes = read file 0 n ↔ LastBlockShort n := by
  rw [← length_bytes_eq_iff hn, bytes_blockFile]
  constructor
  · intro h
    simpa using congrArg List.length h
  · intro h
    rw [h]

/-- The ranges of the file that are read end with it exactly for such lengths. -/
lemma reads_le_iff (hn : n < FILE_SIZE_MAX) :
    (∀ r ∈ ftransferrqsReads n, r.1 + r.2 ≤ n) ↔ LastBlockShort n := by
  by_cases hzero : n = 0
  · subst hzero
    exact ⟨fun _ => .inl rfl, fun _ r hr => nomatch hr⟩
  rw [ftransferrqsReads, if_neg hzero, LastBlockShort, or_iff_right hzero]
  have hcount := toNat_numblockOf hn
  generalize (numblockOf n).toNat = k at hcount
  constructor
  · intro h hmul
    -- block number `n / 512` is not the last one, and starts where the file ends
    rw [if_pos ⟨hmul, hzero⟩] at hcount
    have hread := h (n / FILE_PACKET_SIZE * FILE_PACKET_SIZE,
      blockLen k n (n / FILE_PACKET_SIZE)) (List.mem_map.mpr
        ⟨n / FILE_PACKET_SIZE, List.mem_range.mpr (by omega), rfl⟩)
    rw [blockLen, if_neg (by omega)] at hread
    rw [FILE_PACKET_SIZE] at hread hmul
    omega
  · intro hmul r hr
    rw [if_neg (fun h => hmul h.1)] at hcount
    obtain ⟨i, hi, rfl⟩ := List.mem_map.mp hr
    have hlt := List.mem_range.mp hi
    show i * FILE_PACKET_SIZE + blockLen k n i ≤ n
    rw [blockLen]
    rw [FILE_PACKET_SIZE] at hcount ⊢
    split <;> omega

/-! ### The packets of a file in order -/

/-- The packet of block number `i`, in a memory that held `junk` before. -/
def blockPacket (junk : ℕ → UInt8) (file : ℕ → UInt8) (n i : ℕ) : Packet :=
  ⟨UInt16.ofNat (i + 1), write junk 0 (payload file n i), (payload file n i).length⟩

/-- The packets of a file in order; `env i` is the outside when number `i` arrives. -/
def inOrder {E : Type} (env : ℕ → E) (junk : E → ℕ → UInt8) (file : ℕ → UInt8) (n : ℕ) :
    List (E × Packet) :=
  (List.range (numblockOf n).toNat).map fun i => (env i, blockPacket (junk (env i)) file n i)

section InOrder

variable {E : Type} {env : ℕ → E} {junk : E → ℕ → UInt8}

lemma toNat_numblock {i : ℕ} (hi : i < (numblockOf n).toNat) :
    (UInt16.ofNat (i + 1)).toNat = i + 1 := by
  have hlt := (numblockOf n).toNat_lt
  rw [UInt16.toNat_ofNat']
  exact Nat.mod_eq_of_lt (by omega)

lemma numbers_inOrder : numbers (inOrder env junk file n) =
    List.range' 1 (numblockOf n).toNat := by
  rw [numbers, inOrder, List.map_map, List.range'_eq_map_range]
  refine List.map_congr_left fun i hi => ?_
  rw [Nat.add_comm]
  exact toNat_numblock (List.mem_range.mp hi)

/-- Every block comes once. -/
lemma delivers_inOrder (hn : n < FILE_SIZE_MAX) :
    (blockFile file n hn).Delivers (inOrder env junk file n) := by
  refine ⟨fun q hq => ?_, ?_⟩
  · obtain ⟨i, hi, rfl⟩ := List.mem_map.mp hq
    have hlt := List.mem_range.mp hi
    have hnum : (blockPacket (junk (env i)) file n i).numblock.toNat = i + 1 := toNat_numblock hlt
    refine ⟨by rw [hnum]; exact Nat.succ_pos i, ?_⟩
    rw [hnum, Nat.add_sub_cancel, blocks_blockFile,
      getElem?_payloads hn file (by rw [numblockOf_eq hn] at hlt; omega)]
    exact congrArg some (read_write_self _ 0 _).symm
  · rw [numbers_inOrder]
    exact List.nodup_range'

lemma inOrder_eq (hn : n < FILE_SIZE_MAX) : inOrder env junk file n =
    (List.range (fullBlocks n)).map (fun i => (env i, blockPacket (junk (env i)) file n i)) ++
      [(env (fullBlocks n), blockPacket (junk (env (fullBlocks n))) file n (fullBlocks n))] := by
  rw [inOrder, numblockOf_eq hn, List.range_succ, List.map_append, List.map_singleton]

variable (env junk file) in
/-- The last block comes, and it comes last. -/
lemma lastBlockLast_inOrder (hn : n < FILE_SIZE_MAX) :
    (blockFile file n hn).LastBlockLast (inOrder env junk file n) ∧
      (blockFile file n hn).count ∈ numbers (inOrder env junk file n) := by
  have hall : ∀ i, 1 ≤ i → i ≤ (blockFile file n hn).count →
      i ∈ numbers (inOrder env junk file n) := by
    intro i h₁ h₂
    rw [count_blockFile] at h₂
    rw [numbers_inOrder, List.mem_range'_1, numblockOf_eq hn]
    omega
  refine ⟨?_, hall _ BlockFile.count_pos le_rfl⟩
  have hdelivers : (blockFile file n hn).Delivers (inOrder env junk file n) := delivers_inOrder hn
  rw [inOrder_eq hn] at hdelivers hall ⊢
  refine hdelivers.lastBlockLast hall ?_
  rw [count_blockFile]
  exact toNat_numblock (by rw [numblockOf_eq hn]; omega)

end InOrder

/-! ### The datagrams of a file -/

/-- The element number `i` of the array that `ftransferrqs_new` makes. -/
def fileBlock (header : UInt16) (file : ℕ → UInt8) (n i : ℕ) : FTransferRQ :=
  { header := header
    numblock := UInt16.ofNat (i + 1)
    data := if n = 0 then fun _ => 0 else write (fun _ => 0) 0 (payload file n i) }

lemma ftransferrqsNew_eq (header : UInt16) (file : ℕ → UInt8) (n : ℕ) :
    ftransferrqsNew header file n =
      (List.range (numblockOf n).toNat).map (fileBlock header file n) := rfl

/-- The bytes that are sent of a block are its payload. -/
lemma read_fileBlock (hn : n < FILE_SIZE_MAX) (header : UInt16) {i : ℕ}
    (hi : i < (numblockOf n).toNat) :
    read (fileBlock header file n i).data 0 (blockLen (numblockOf n).toNat n i) =
      payload file n i := by
  by_cases hzero : n = 0
  · subst hzero
    have hcount := numblockOf_eq hn
    have hlen : blockLen (numblockOf 0).toNat 0 i = 0 := by
      rw [blockLen, if_pos]
      · rfl
      · have hone : (numblockOf 0).toNat = 1 := rfl
        omega
    rw [payload, hlen]
    rfl
  · have hlen : (payload file n i).length = blockLen (numblockOf n).toNat n i := length_read _ _ _
    rw [fileBlock, if_neg hzero, ← hlen]
    exact read_write_self _ 0 _

/-- The datagrams of the blocks, each with its number. -/
lemma zipIdx_sendFtransferRequests (header : UInt16) (file : ℕ → UInt8) (n : ℕ) :
    (sendFtransferRequests htonRqft (ftransferrqsNew header file n) n).zipIdx =
      (List.range (numblockOf n).toNat).map fun i =>
        (sendDatagrams (htonRqft (fileBlock header file n i))
          (blockLen (numblockOf n).toNat n i), i) := by
  refine List.ext_getElem (by simp [sendFtransferRequests, ftransferrqsNew_eq]) fun i h₁ h₂ => ?_
  simp [sendFtransferRequests, ftransferrqsNew_eq]

/-- A datagram is received as the packet of its block. -/
lemma recvDatagrams_fileBlock (hn : n < FILE_SIZE_MAX) (file junk : ℕ → UInt8) (header : UInt16)
    {i : ℕ} (hi : i < (numblockOf n).toNat) :
    recvDatagrams (ntohRqft junk) (sendDatagrams (htonRqft (fileBlock header file n i))
        (blockLen (numblockOf n).toNat n i)) =
      some (getRqType header, ⟨header, (blockPacket junk file n i).numblock,
        (blockPacket junk file n i).data⟩, 4 + (blockPacket junk file n i).nbytes) := by
  have hlen : (blockPacket junk file n i).nbytes = blockLen (numblockOf n).toNat n i :=
    length_read _ _ _
  rw [recvDatagrams_sendDatagrams junk _ (blockLen_le _ n i), read_fileBlock hn header hi, hlen]
  rfl

/-- The two words in front of a payload are not counted. -/
lemma sizeSub_four (m : ℕ) : sizeSub (4 + m) 4 = m := by
  rw [sizeSub, if_pos (by omega), Nat.add_sub_cancel_left]

/-- Folding with two functions that agree on the list, in the states that keep `P`. -/
lemma foldlM_congr {σ α : Type} {f g : σ → α → Option σ} {P : σ → Prop} {l : List α}
    (h : ∀ a ∈ l, ∀ s, P s → f s a = g s a) (hP : ∀ a ∈ l, ∀ s s', P s → g s a = some s' → P s')
    {s : σ} (hs : P s) : l.foldlM f s = l.foldlM g s := by
  induction l generalizing s with
  | nil => rfl
  | cons a l ih =>
      rw [List.foldlM_cons, List.foldlM_cons, h a (by simp) s hs]
      refine Option.bind_congr fun s' hs' => ?_
      exact ih (fun b hb => h b (List.mem_cons_of_mem a hb))
        (fun b hb => hP b (List.mem_cons_of_mem a hb)) (hP a (by simp) s s' hs hs')

/-- The datagrams arrive at the server, number `i` with the outside `env i`. -/
def Server.takeDatagrams (env : ℕ → WorkingEnv) (s : Server) (ds : List (List UInt8)) :
    Option Server :=
  ds.zipIdx.foldlM (fun s d => (s.udpServerLoop (env d.2).1 d.1).map (·.2)) s

/-- The datagrams arrive at the client, number `i` with the outside `env i`. -/
def Client.takeDatagrams (env : ℕ → WorkingClientEnv) (c : Client) (ds : List (List UInt8)) :
    Option Client :=
  ds.zipIdx.foldlM (fun c d => (c.handleReadyFds (env d.2).1 d.1).map (·.2)) c

/-- The datagrams of an upload are taken as the packets of the file in order. -/
lemma Server.takeDatagrams_eq (hn : n < FILE_SIZE_MAX) {id : UInt16} (hid : id.toNat < 2048)
    (env : ℕ → WorkingEnv) (s : Server) :
    s.takeDatagrams env
        (sendFtransferRequests htonClientrqft (ftransferrqsNew (mkHeader UPLOAD id) file n) n) =
      (inOrder env (fun e => e.1.junk) file n).foldlM (takePacket id) s := by
  have hzip := zipIdx_sendFtransferRequests (mkHeader UPLOAD id) file n
  change (sendFtransferRequests htonClientrqft _ n).zipIdx = _ at hzip
  rw [takeDatagrams, inOrder, hzip, List.foldlM_map, List.foldlM_map]
  refine foldlM_congr (P := fun _ => True) (fun i hi s _ => ?_) (fun _ _ _ _ _ _ => trivial)
    trivial
  have hrecv := recvDatagrams_fileBlock hn file (env i).1.junk (mkHeader UPLOAD id)
    (List.mem_range.mp hi)
  have htype : getRqType (mkHeader UPLOAD id) = UPLOAD := getRqType_mkHeader (by decide) hid
  have hid' : getId (mkHeader UPLOAD id) = id := getId_mkHeader (by decide) hid
  rw [htype] at hrecv
  change recvDatagrams (ntohClientrqup _) _ = _ at hrecv
  rw [udpServerLoop, hrecv, takePacket]
  simp only [Option.bind_eq_bind, Option.bind_some, handleUploadPacket, ne_eq, not_true, if_false,
    hid', sizeSub_four]

/-- The datagrams of a download are taken as the packets of the file in order. -/
lemma Client.takeDatagrams_eq (hn : n < FILE_SIZE_MAX) (env : ℕ → WorkingClientEnv) (c : Client) :
    c.takeDatagrams env (sendFtransferRequests htonServerrqft
        (ftransferrqsNew (mkHeader DOWNLOAD c.userId) file n) n) =
      (inOrder env (fun _ _ => 0) file n).foldlM takePacket c := by
  have hzip := zipIdx_sendFtransferRequests (mkHeader DOWNLOAD c.userId) file n
  change (sendFtransferRequests htonServerrqft _ n).zipIdx = _ at hzip
  rw [takeDatagrams, inOrder, hzip, List.foldlM_map, List.foldlM_map]
  refine foldlM_congr (P := fun c' => c'.userId = c.userId) (fun i hi c' hc' => ?_)
    (fun _ _ _ _ hc' h => (takePacket_userId h).trans hc') rfl
  have hrecv := recvDatagrams_fileBlock hn file (fun _ => 0) (mkHeader DOWNLOAD c.userId)
    (List.mem_range.mp hi)
  have htype : getRqType (mkHeader DOWNLOAD c.userId) = DOWNLOAD :=
    getRqType_mkHeader (by decide) c.userId_lt
  have hid : getId (mkHeader DOWNLOAD c.userId) = c.userId :=
    getId_mkHeader (by decide) c.userId_lt
  rw [htype] at hrecv
  change recvDatagrams ntohServerrqdl _ = _ at hrecv
  rw [handleReadyFds, hrecv, takePacket]
  simp only [Option.bind_eq_bind, Option.bind_some, handleDownloadPacket, ne_eq, not_true, if_false,
    hid, hc', sizeSub_four]

/-! ### The round trip -/

/-- An upload leaves the bytes of the file exactly when the last block is short and there is room
for the feed. -/
lemma Server.upload_iff (hn : n < FILE_SIZE_MAX) {s : Server} {id : UInt16}
    {infos : FileTransferInfos} {pseudo : Pseudo} (hs : s.Uploading id infos pseudo)
    (env : ℕ → WorkingEnv) (file : ℕ → UInt8) :
    (∃ s', s.takeDatagrams env (sendFtransferRequests htonClientrqft
        (ftransferrqsNew (mkHeader UPLOAD id) file n) n) = some s' ∧
      s.Uploaded id infos pseudo (read file 0 n) s') ↔
      LastBlockShort n ∧ s.RoomForFeed infos := by
  obtain ⟨hlast, hmem⟩ := lastBlockLast_inOrder file env (fun e => e.1.junk) hn
  rw [takeDatagrams_eq hn hs.id_lt, uploaded_iff hs (delivers_inOrder hn) hlast hmem,
    bytes_blockFile_eq_iff]

/-- A download leaves the bytes of the file exactly when the last block is short. -/
lemma Client.download_iff (hn : n < FILE_SIZE_MAX) {c : Client} (hc : c.transferFile.Fresh)
    (env : ℕ → WorkingClientEnv) (file : ℕ → UInt8) :
    (∃ c', c.takeDatagrams env (sendFtransferRequests htonServerrqft
        (ftransferrqsNew (mkHeader DOWNLOAD c.userId) file n) n) = some c' ∧
      c.Downloaded c.transferFile.filePath (read file 0 n)
        ((List.range (numblockOf n).toNat).map env) c') ↔ LastBlockShort n := by
  obtain ⟨hlast, hmem⟩ := lastBlockLast_inOrder file env (fun _ _ => 0) hn
  have henvs : (inOrder env (fun _ _ => 0) file n).map (·.1) =
      (List.range (numblockOf n).toNat).map env := by
    rw [inOrder, List.map_map]
    rfl
  rw [takeDatagrams_eq hn, ← bytes_blockFile_eq_iff hn file,
    ← downloaded_iff hc (delivers_inOrder hn) hlast hmem, henvs]

/-- **Files through a transfer.**  The datagrams of a file of `n` bytes, each delivered once and in
order to a transfer that has just been started, leave the transfer complete and the bytes of the
file on disk exactly when `n` is `0` or no multiple of 512, and at the server the number of the
feed, should it be a new one, is a `uint16_t`; and the file is read up to its end exactly for such
`n`. -/
theorem file_round_trip_iff {n : ℕ} (hn : n < 65534 * 512) (file : ℕ → UInt8) {s : Server}
    {id : UInt16} {infos : FileTransferInfos} {pseudo : Pseudo} (hs : s.Uploading id infos pseudo)
    (env : ℕ → WorkingEnv) {c : Client} (hc : c.transferFile.Fresh)
    (clientEnv : ℕ → WorkingClientEnv) :
    ((∃ s', s.takeDatagrams env (sendFtransferRequests htonClientrqft
          (ftransferrqsNew (mkHeader UPLOAD id) file n) n) = some s' ∧
        s.Uploaded id infos pseudo (read file 0 n) s') ↔
      (n = 0 ∨ n % 512 ≠ 0) ∧ s.RoomForFeed infos) ∧
    ((∃ c', c.takeDatagrams clientEnv (sendFtransferRequests htonServerrqft
          (ftransferrqsNew (mkHeader DOWNLOAD c.userId) file n) n) = some c' ∧
        c.Downloaded c.transferFile.filePath (read file 0 n)
          ((List.range (numblockOf n).toNat).map clientEnv) c') ↔
      n = 0 ∨ n % 512 ≠ 0) ∧
    ((∀ r ∈ ftransferrqsReads n, r.1 + r.2 ≤ n) ↔ n = 0 ∨ n % 512 ≠ 0) :=
  ⟨Server.upload_iff hn hs env file, Client.download_iff hn hc clientEnv file,
    reads_le_iff hn⟩

namespace OutOfOrder

/-- A file of one byte. -/
theorem file_round_trip_iff_one :
    (∃ s', server.takeDatagrams (fun _ => env) (sendFtransferRequests htonClientrqft
        (ftransferrqsNew (mkHeader UPLOAD 1) (fun _ => 97) 1) 1) = some s' ∧
      server.Uploaded 1 (transferInit 0 (fun _ => 0) 0) (.replicate PSEUDO_LEN 97) [97] s') ∧
    (∃ c', client.takeDatagrams (fun _ => clientEnv) (sendFtransferRequests htonServerrqft
        (ftransferrqsNew (mkHeader DOWNLOAD 1) (fun _ => 97) 1) 1) = some c' ∧
      client.Downloaded client.transferFile.filePath [97] [clientEnv] c') ∧
    ∀ r ∈ ftransferrqsReads 1, r.1 + r.2 ≤ 1 := by
  have h := file_round_trip_iff (n := 1) (by decide) (fun _ => 97) uploading (fun _ => env)
    (c := client) (Client.fresh_transferNew 0 _ fun _ => 0) fun _ => clientEnv
  exact ⟨h.1.mpr ⟨.inr (by decide), fun _ => show 0 < 65535 by decide⟩,
    h.2.1.mpr (.inr (by decide)), h.2.2.mpr (.inr (by decide))⟩

/-- A file of 512 bytes is read over its end, and other bytes are written than those of it. -/
theorem not_file_round_trip :
    (¬∃ s', server.takeDatagrams (fun _ => env) (sendFtransferRequests htonClientrqft
        (ftransferrqsNew (mkHeader UPLOAD 1) (fun _ => 97) 512) 512) = some s' ∧
      server.Uploaded 1 (transferInit 0 (fun _ => 0) 0) (.replicate PSEUDO_LEN 97)
        (read (fun _ => 97) 0 512) s') ∧
    (¬∃ c', client.takeDatagrams (fun _ => clientEnv) (sendFtransferRequests htonServerrqft
        (ftransferrqsNew (mkHeader DOWNLOAD 1) (fun _ => 97) 512) 512) = some c' ∧
      client.Downloaded client.transferFile.filePath (read (fun _ => 97) 0 512)
        [clientEnv, clientEnv, clientEnv] c') ∧
    ftransferrqsReads 512 = [(0, 512), (512, 512), (1024, 0)] := by
  have hn : 512 < FILE_SIZE_MAX := by decide
  have hmultiple : ¬LastBlockShort 512 := by
    rintro (h | h)
    · exact absurd h (by decide)
    · exact absurd rfl h
  refine ⟨fun h => ?_, fun h => ?_, by decide⟩
  · exact hmultiple ((Server.upload_iff hn uploading _ _).mp h).1
  · exact hmultiple ((Client.download_iff hn (Client.fresh_transferNew 0 _ fun _ => 0)
      (fun _ => clientEnv) _).mp h)

end OutOfOrder

end Megaphone
