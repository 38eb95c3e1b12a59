import Mathlib.Data.List.TakeWhile
import Megaphone.Network.Codec

/-!
Files over UDP: the blocks of a file and the datagrams that carry them (`ftransferrqs_new`,
`send_ftransfer_requests`, `recv_datagrams`), and the transfer that takes them in
(`file_transfer.c` and the part of `add_packet` that the server and the client have in common).

* `ftransferrqsNew`, `ftransferrqsReads`: the blocks of a file, and the ranges of it that are read
  to make them.
* `sendFtransferRequests`, `recvDatagrams`: the datagrams, with `recvDatagrams_sendDatagrams`;
  `recvDatagrams_eq`, what is received of any datagram of at least four bytes.
* `cString`, `strncpy`, `snprintf`: strings.
* `FileTransferInfos`, `transferInit`, `transferClear`: a transfer.
* `FileTransferInfos.record`, `FileTransferInfos.received`, `FileTransferInfos.content`: storing a
  block, the test for the last one, and the bytes that are written to disk.
-/

namespace Megaphone

open Memory

/-! ### The blocks of a file -/

/-- The number of blocks that `ftransferrqs_new` makes, as a `uint16_t`. -/
def numblockOf (fileSize : ℕ) : UInt16 :=
  let numblock := UInt16.ofNat (fileSize / FILE_PACKET_SIZE) + 1
  if fileSize % FILE_PACKET_SIZE = 0 ∧ fileSize ≠ 0 then numblock + 1 else numblock

/-- The number of bytes copied into the block number `i` of `n`, counted from `0`, and sent of
it. -/
def blockLen (n fileSize i : ℕ) : ℕ :=
  if i + 1 = n then fileSize % FILE_PACKET_SIZE else FILE_PACKET_SIZE

/-- `ftransferrqs_new`: the elements of the array. -/
def ftransferrqsNew (header : UInt16) (file : ℕ → UInt8) (fileSize : ℕ) : List FTransferRQ :=
  let n := (numblockOf fileSize).toNat
  (List.range n).map fun i =>
    { header := header
      numblock := UInt16.ofNat (i + 1)
      data := if fileSize = 0 then fun _ => 0
        else write (fun _ => 0) 0 (read file (i * FILE_PACKET_SIZE) (blockLen n fileSize i)) }

/-- The ranges of the file that `ftransferrqs_new` reads, as offsets and lengths. -/
def ftransferrqsReads (fileSize : ℕ) : List (ℕ × ℕ) :=
  if fileSize = 0 then []
  else
    let n := (numblockOf fileSize).toNat
    (List.range n).map fun i => (i * FILE_PACKET_SIZE, blockLen n fileSize i)

/-! ### Datagrams -/

/-- `hton_clientrqft`, and `hton_serverrqft`, which has the same body. -/
def htonRqft (rq : FTransferRQ) : BytesRQ :=
  packRq [u16Bytes (htons rq.header), u16Bytes (htons rq.numblock),
    read rq.data 0 FILE_PACKET_SIZE]

/-- `hton_clientrqft`. -/
def htonClientrqft (rq : FTransferRQ) : BytesRQ := htonRqft rq

/-- `hton_serverrqft`. -/
def htonServerrqft (rq : FTransferRQ) : BytesRQ := htonRqft rq

/-- `send_datagrams`: the bytes handed to `sendto`, of the buffer that `hton` makes. -/
def sendDatagrams (b : BytesRQ) (blen : ℕ) : List UInt8 :=
  read b.buf 0 (sizeSub b.size (FILE_PACKET_SIZE - blen))

/-- `send_ftransfer_requests`, with the `hton` of the client or of the server. -/
def sendFtransferRequests (hton : FTransferRQ → BytesRQ) (ftrq : List FTransferRQ) (fSize : ℕ) :
    List (List UInt8) :=
  ftrq.zipIdx.map fun p => sendDatagrams (hton p.1) (blockLen ftrq.length fSize p.2)

/-- The largest datagram that is received, `sizeof(FTransferRQ)`. -/
def SIZEOF_FTRANSFERRQ : ℕ := 516

/-- The fields of a block in a datagram.  The payload is copied over `data`, and a datagram too
short for the two words makes its length wrap around. -/
def ntohRqft (data : ℕ → UInt8) (b : BytesRQ) : Option FTransferRQ :=
  let (header, size) := extractbuf b.buf 0 2
  let (numblock, size) := extractbuf b.buf size 2
  let len := sizeSub b.size size
  if len ≤ FILE_PACKET_SIZE then
    let (bytes, _) := extractbuf b.buf size len
    some { header := ntohs (u16OfBytes header), numblock := ntohs (u16OfBytes numblock)
           data := write data 0 bytes }
  else none

/-- `ntoh_clientrqup`, where `data` is what was on the stack. -/
def ntohClientrqup (junk : ℕ → UInt8) (b : BytesRQ) : Option FTransferRQ := ntohRqft junk b

/-- `ntoh_serverrqdl`, where `data` is cleared. -/
def ntohServerrqdl (b : BytesRQ) : Option FTransferRQ := ntohRqft (fun _ => 0) b

/-- `recv_datagrams` on a datagram, with the `ntoh` of the server or of the client: the type, the
block, and the number of bytes received. -/
def recvDatagrams (ntoh : BytesRQ → Option FTransferRQ) (datagram : List UInt8) :
    Option (UInt8 × FTransferRQ × ℕ) :=
  let b := bytesOf (datagram.take SIZEOF_FTRANSFERRQ)
  (ntoh b).map fun ft => (headType b, ft, b.size)

/-! ### Strings -/

/-- The C string in the `n` bytes from `m` on; a byte behind them is zero. -/
def cString (m : ℕ → UInt8) (n : ℕ) : List UInt8 := (read m 0 n).takeWhile (· ≠ 0)

lemma zero_notMem_cString (m : ℕ → UInt8) (n : ℕ) : 0 ∉ cString m n := by
  intro h
  have hall : (cString m n).all (· ≠ 0) = true := List.all_takeWhile
  simpa using List.all_eq_true.mp hall 0 h

/-- A string with the zero behind it, as far as it is read. -/
lemma cString_eq_take {m : ℕ → UInt8} {l : List UInt8} (hl : 0 ∉ l)
    (hm : read m 0 (l.length + 1) = l ++ [0]) (n : ℕ) : cString m n = l.take n := by
  have hne : ∀ b ∈ l, decide (b ≠ 0) = true :=
    fun b hb => decide_eq_true (ne_of_mem_of_not_mem hb hl)
  rcases le_or_gt n l.length with hn | hn
  · have hread : read m 0 n = l.take n := by
      rw [← take_read m 0 (Nat.le_succ_of_le hn), hm, List.take_append_of_le_length hn]
    rw [cString, hread]
    exact List.takeWhile_eq_self_iff.mpr fun b hb => hne b (List.mem_of_mem_take hb)
  · obtain ⟨k, rfl⟩ := Nat.exists_eq_add_of_le hn
    calc cString m (l.length + 1 + k)
        = (l ++ 0 :: read m (0 + (l.length + 1)) k).takeWhile (· ≠ 0) := by
          rw [cString, read_append, hm, List.append_assoc, List.singleton_append]
      _ = l ++ (0 :: read m (0 + (l.length + 1)) k).takeWhile (· ≠ 0) :=
          List.takeWhile_append_of_pos hne
      _ = l := by rw [List.takeWhile_cons_of_neg (by simp), List.append_nil]
      _ = l.take (l.length + 1 + k) := (List.take_of_length_le (by omega)).symm

/-- A string that has been copied with its zero. -/
lemma cString_write (m : ℕ → UInt8) {n : ℕ} {l : List UInt8} (hl : 0 ∉ l) (hlt : l.length < n) :
    cString (write m 0 (l ++ [0])) n = l := by
  have hm : read (write m 0 (l ++ [0])) 0 (l.length + 1) = l ++ [0] := by
    have h := read_write_self m 0 (l ++ [0])
    rwa [List.length_append, List.length_singleton] at h
  rw [cString_eq_take hl hm, List.take_of_length_le hlt.le]

/-- A string of which the zero at its end is not sure to be there is read alone exactly when it
is. -/
lemma cString_eq_iff {m : ℕ → UInt8} {l : List UInt8} (hl : 0 ∉ l) (hm : read m 0 l.length = l)
    {n : ℕ} (hlt : l.length < n) : cString m n = l ↔ m l.length = 0 := by
  have hread : read m 0 (l.length + 1) = l ++ [m l.length] := by
    rw [read_append, hm, Nat.zero_add, read_one]
  constructor
  · intro h
    by_contra hne
    -- the byte behind the string belongs to it
    have hlong : (l ++ [m l.length]).length ≤ (cString m n).length := by
      rw [cString, ← Nat.add_sub_cancel' (Nat.succ_le_of_lt hlt), read_append, hread,
        List.takeWhile_append_of_pos]
      · exact (List.prefix_append _ _).length_le
      · intro b hb
        obtain hb | hb := List.mem_append.mp hb
        · exact decide_eq_true (ne_of_mem_of_not_mem hb hl)
        · rw [List.mem_singleton.mp hb]
          exact decide_eq_true hne
    rw [h, List.length_append, List.length_singleton] at hlong
    omega
  · intro h
    rw [h] at hread
    rw [cString_eq_take hl hread, List.take_of_length_le hlt.le]

/-- The same for a string that has been copied without its zero. -/
lemma cString_write_eq_iff (m : ℕ → UInt8) {n : ℕ} {l : List UInt8} (hl : 0 ∉ l)
    (hlt : l.length < n) : cString (write m 0 l) n = l ↔ m l.length = 0 := by
  rw [cString_eq_iff hl (read_write_self m 0 l) hlt, write_of_ge m l (Nat.zero_add _).le]

/-- `strncpy` of `n` bytes. -/
def strncpy (m : ℕ → UInt8) (n : ℕ) : List UInt8 :=
  let s := cString m n
  s ++ List.replicate (n - s.length) 0

lemma length_cString_le (m : ℕ → UInt8) (n : ℕ) : (cString m n).length ≤ n := by
  have h := (List.takeWhile_sublist (· ≠ 0) (l := read m 0 n)).length_le
  rwa [length_read] at h

lemma length_strncpy (m : ℕ → UInt8) (n : ℕ) : (strncpy m n).length = n := by
  have h := length_cString_le m n
  rw [strncpy, List.length_append, List.length_replicate]
  omega

/-- The string in front of the zeros. -/
lemma takeWhile_zeros {l : List UInt8} (hl : 0 ∉ l) (k : ℕ) :
    (l ++ List.replicate k 0).takeWhile (· ≠ 0) = l := by
  rw [List.takeWhile_append_of_pos fun b hb => decide_eq_true (ne_of_mem_of_not_mem hb hl)]
  cases k with
  | zero => simp
  | succ k => simp [List.replicate_succ]

/-- **`strncpy` of a text of `k` bytes**, none of them zero, takes exactly these and fills up with
zeros, if and only if there are enough of them or there is a zero behind them. -/
lemma strncpy_eq_iff {m : ℕ → UInt8} {k : ℕ} (hk : 0 ∉ read m 0 k) (n : ℕ) :
    strncpy m n = (read m 0 k).take n ++ List.replicate (n - k) 0 ↔ n ≤ k ∨ m k = 0 := by
  rcases le_or_gt n k with hn | hn
  · refine iff_of_true ?_ (.inl hn)
    have hno : 0 ∉ read m 0 n := fun h0 =>
      hk (List.mem_of_mem_take (by rwa [take_read m 0 hn]))
    have hs : cString m n = read m 0 n :=
      List.takeWhile_eq_self_iff.mpr fun b hb => decide_eq_true (ne_of_mem_of_not_mem hb hno)
    rw [strncpy, hs, take_read m 0 hn, length_read, Nat.sub_self, Nat.sub_eq_zero_of_le hn]
  · have hiff : cString m n = read m 0 k ↔ m k = 0 := by
      have h := cString_eq_iff hk (by rw [length_read]) (by rwa [length_read])
      rwa [length_read] at h
    rw [or_iff_right (not_le.mpr hn), ← hiff,
      List.take_of_length_le (by rw [length_read]; exact hn.le)]
    constructor
    · intro h
      have h' := congrArg (List.takeWhile (· ≠ 0)) h
      rwa [strncpy, takeWhile_zeros (zero_notMem_cString m n), takeWhile_zeros hk] at h'
    · intro h
      rw [strncpy, h, length_read]

/-- `snprintf` into `MAX_DATALEN` bytes. -/
def snprintf (bs : List UInt8) : List UInt8 := bs.take (MAX_DATALEN - 1)

/-! ### Transfers -/

/-- The bytes of a stored block. -/
abbrev Block := ℕ → UInt8

instance : CZero Block := ⟨fun _ => 0⟩

/-- `FileTransferInfos`. -/
structure FileTransferInfos where
  active : Bool
  begin : ℕ
  sfd : ℕ
  filePath : ℕ → UInt8
  feedNumber : UInt16
  fileData : CArray Block
  lastPacket : UInt16
  fileSize : ℕ

/-- All bytes zero. -/
def FileTransferInfos.zero : FileTransferInfos :=
  { active := false, begin := 0, sfd := 0, filePath := fun _ => 0, feedNumber := 0
    fileData := ⟨0, [], 0, 0⟩, lastPacket := 0, fileSize := 0 }

instance : CZero FileTransferInfos := ⟨.zero⟩

/-- `transfer_init` at the time `now`; `fileName` are the `MAX_DATALEN` bytes that are copied. -/
def transferInit (now : ℕ) (fileName : ℕ → UInt8) (feedNumber : UInt16) : FileTransferInfos :=
  { active := true, begin := now, sfd := 0, filePath := fileName, feedNumber := feedNumber
    fileData := .arrayNew Block 0, lastPacket := 0, fileSize := 0 }

/-- `transfer_clear`: the blocks are freed and everything is set to zero. -/
def transferClear (_infos : FileTransferInfos) : FileTransferInfos := .zero

namespace FileTransferInfos

/-- The beginning of `add_packet`, the same for the server and the client: a short block is the last
one, and the block is stored at `numblock - 1`, as a `size_t`. -/
def record (infos : FileTransferInfos) (numblock : UInt16) (data : Block) (nbytes : ℕ) :
    Option FileTransferInfos :=
  (infos.fileData.set (sizeSub numblock.toNat 1) data).map fun fileData =>
    { infos with
      lastPacket := if nbytes < FILE_PACKET_SIZE then numblock else infos.lastPacket
      fileData := fileData
      fileSize := infos.fileSize + nbytes }

/-- The test of `add_packet` for all packets being received. -/
def received (infos : FileTransferInfos) : Bool := infos.fileData.length == infos.lastPacket.toNat

/-- The blocks one behind the other, as `file_data.data` points to them; `junk` is what stands where
nothing has been stored. -/
def mem (infos : FileTransferInfos) (junk : ℕ → UInt8) : ℕ → UInt8 := fun i =>
  match infos.fileData.at? (i / FILE_PACKET_SIZE) with
  | some block => block (i % FILE_PACKET_SIZE)
  | none => junk i

/-- The bytes that `write_file` copies to the file, `none` when they reach over the allocation. -/
def content (infos : FileTransferInfos) (junk : ℕ → UInt8) : Option (List UInt8) :=
  if infos.fileSize ≤ infos.fileData.slots.length * FILE_PACKET_SIZE then
    some (read (infos.mem junk) 0 infos.fileSize)
  else none

/-- What `record` does not change of a transfer. -/
lemma record_keeps {infos infos' : FileTransferInfos} {numblock : UInt16} {data : Block}
    {nbytes : ℕ} (h : infos.record numblock data nbytes = some infos') :
    infos'.active = infos.active ∧ infos'.sfd = infos.sfd ∧ infos'.filePath = infos.filePath := by
  obtain ⟨fileData, -, rfl⟩ := Option.map_eq_some_iff.mp h
  exact ⟨rfl, rfl, rfl⟩

end FileTransferInfos

/-! ### A block through a datagram -/

lemma frame_htonRqft (rq : FTransferRQ) :
    (htonRqft rq).frame = [hi rq.header, lo rq.header, hi rq.numblock, lo rq.numblock] ++
      read rq.data 0 FILE_PACKET_SIZE := by
  rw [htonRqft, frame_packRq]
  simp [u16Bytes_htons]

lemma size_htonRqft (rq : FTransferRQ) : (htonRqft rq).size = 4 + FILE_PACKET_SIZE := by
  rw [← BytesRQ.length_frame, frame_htonRqft, List.length_append, length_read]
  rfl

/-- The datagram of a block: its two words and the first `blen` bytes of its data. -/
lemma sendDatagrams_htonRqft (rq : FTransferRQ) {blen : ℕ} (h : blen ≤ FILE_PACKET_SIZE) :
    sendDatagrams (htonRqft rq) blen =
      [hi rq.header, lo rq.header, hi rq.numblock, lo rq.numblock] ++ read rq.data 0 blen := by
  have hframe := frame_htonRqft rq
  have hlen : sizeSub (htonRqft rq).size (FILE_PACKET_SIZE - blen) = 4 + blen := by
    rw [size_htonRqft, sizeSub, if_pos (by omega)]
    omega
  rw [BytesRQ.frame, size_htonRqft, ← Nat.add_sub_cancel' h, ← Nat.add_assoc, read_append,
    read_append _ 0 blen, ← List.append_assoc] at hframe
  rw [sendDatagrams, hlen]
  exact (List.append_inj hframe (by simp; omega)).1

/-- The fields of a buffer that holds them one behind the other. -/
lemma holdsAt_bytesOf (ls : List (List UInt8)) : HoldsAt (bytesOf ls.flatten).buf 0 ls :=
  (read_flatten_iff _ 0 ls).mp (read_ofList ls.flatten 0)

/-- A datagram is received with the type, the words and the payload that were sent. -/
lemma recvDatagrams_sendDatagrams (data : ℕ → UInt8) (rq : FTransferRQ) {blen : ℕ}
    (h : blen ≤ FILE_PACKET_SIZE) :
    recvDatagrams (ntohRqft data) (sendDatagrams (htonRqft rq) blen) =
      some (getRqType rq.header, ⟨rq.header, rq.numblock, write data 0 (read rq.data 0 blen)⟩,
        4 + blen) := by
  have hfields := holdsAt_bytesOf
    [[hi rq.header, lo rq.header], [hi rq.numblock, lo rq.numblock], read rq.data 0 blen]
  have hflat : sendDatagrams (htonRqft rq) blen = [[hi rq.header, lo rq.header],
      [hi rq.numblock, lo rq.numblock], read rq.data 0 blen].flatten := by
    rw [sendDatagrams_htonRqft rq h]
    simp
  rw [← hflat] at hfields
  have hlen : (sendDatagrams (htonRqft rq) blen).length = 4 + blen := by
    rw [sendDatagrams_htonRqft rq h]
    simp
    omega
  have htake : (sendDatagrams (htonRqft rq) blen).take SIZEOF_FTRANSFERRQ =
      sendDatagrams (htonRqft rq) blen := by
    rw [List.take_of_length_le]
    rw [hlen, SIZEOF_FTRANSFERRQ]
    simp only [FILE_PACKET_SIZE] at h
    omega
  simp only [HoldsAt, List.length_cons, List.length_nil, length_read, Nat.zero_add, and_true,
    Nat.reduceAdd] at hfields
  obtain ⟨hheader, hnumblock, hpayload⟩ := hfields
  have hsub : sizeSub (4 + blen) 4 = blen := by
    rw [sizeSub, if_pos (by omega)]
    omega
  rw [recvDatagrams, htake]
  simp only [ntohRqft, extractbuf, headType, size_bytesOf, hlen, hheader, hnumblock, Nat.zero_add,
    Nat.reduceAdd, hsub, if_pos h, hpayload, ntohs_u16OfBytes, Option.map_some]

/-! ### Any datagram -/

/-- The header of a datagram. -/
def datagramHeader (d : List UInt8) : UInt16 := ntohs (u16OfBytes (d.take 2))

/-- The block number of a datagram. -/
def datagramNumblock (d : List UInt8) : UInt16 := ntohs (u16OfBytes ((d.drop 2).take 2))

/-- The payload of a datagram, as far as it is received. -/
def datagramPayload (d : List UInt8) : List UInt8 := (d.drop 4).take FILE_PACKET_SIZE

/-- What is received of a datagram of at least four bytes. -/
lemma recvDatagrams_eq (data : ℕ → UInt8) {d : List UInt8} (h : 4 ≤ d.length) :
    recvDatagrams (ntohRqft data) d = some (getRqType (datagramHeader d),
      ⟨datagramHeader d, datagramNumblock d, write data 0 (datagramPayload d)⟩,
      4 + (datagramPayload d).length) := by
  have hflat : d.take SIZEOF_FTRANSFERRQ =
      [d.take 2, (d.drop 2).take 2, datagramPayload d].flatten := by
    have htake : d.take SIZEOF_FTRANSFERRQ = d.take (2 + (2 + FILE_PACKET_SIZE)) := rfl
    rw [htake, List.take_add, List.take_add, List.drop_drop]
    simp [datagramPayload]
  have hpayload : (datagramPayload d).length ≤ FILE_PACKET_SIZE := List.length_take_le _ _
  have hlen : (d.take SIZEOF_FTRANSFERRQ).length = 4 + (datagramPayload d).length := by
    rw [datagramPayload, List.length_take, List.length_take, List.length_drop, SIZEOF_FTRANSFERRQ,
      FILE_PACKET_SIZE]
    omega
  have hfields := holdsAt_bytesOf [d.take 2, (d.drop 2).take 2, datagramPayload d]
  have h₁ : (d.take 2).length = 2 := by
    rw [List.length_take]
    omega
  have h₂ : ((d.drop 2).take 2).length = 2 := by
    rw [List.length_take, List.length_drop]
    omega
  rw [← hflat] at hfields
  simp only [HoldsAt, h₁, h₂, Nat.zero_add, and_true, Nat.reduceAdd] at hfields
  obtain ⟨hheader, hnumblock, hdata⟩ := hfields
  have hsub : sizeSub (4 + (datagramPayload d).length) 4 = (datagramPayload d).length := by
    rw [sizeSub, if_pos (by omega)]
    omega
  simp only [recvDatagrams, ntohRqft, extractbuf, headType, size_bytesOf, hlen, hheader, hnumblock,
    Nat.zero_add, Nat.reduceAdd, hsub, if_pos hpayload, hdata, Option.map_some]
  rfl

end Megaphone
