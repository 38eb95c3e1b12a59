import Megaphone.Network.FileTransfer
import Megaphone.Library.WireFormat

/-!
The eight formats that the client and the server exchange, each as one pair of an encoder of the
sender and a decoder of the receiver.

* `clientrqrgFormat`, `clientrqclFormat`, `serverrqclFormat`, `serverrqlpFormat`,
  `serverrqsbFormat`, `serverrqntFormat`: the requests, the answers and the notifications.
* `FileBlock`, `fileBlockFormat`: the blocks of a file, in both directions.
* `formats_roundTrip`: every format round-trips.
-/

namespace Megaphone

open Memory

/-! ### Requests, answers and notifications -/

/-- A request of the type `REGISTRATION`: 12 bytes. -/
def clientrqrgFormat : WireFormat ClientRQRg UInt8 :=
  .total (fun rq => (htonClientrqrg rq).frame) (fun m n => ntohClientrqrg ⟨m, n⟩) Eq
    fun _ => 2 + PSEUDO_LEN

/-- A request of another type: 7 bytes, of which the last one is the length of the text, and the
text. -/
def clientrqclFormat : WireFormat ClientRQCl UInt8 :=
  .total (fun rq => (htonClientrqcl rq).frame) (fun m n => ntohClientrqcl ⟨m, n⟩) ClientRQCl.Same
    fun m => 7 + (m 6).toNat

/-- An answer: 6 bytes. -/
def serverrqclFormat : WireFormat ServerRQCl UInt8 :=
  .total (fun rq => (htonServerrqcl rq).frame) (fun m n => ntohServerrqcl ⟨m, n⟩) Eq fun _ => 6

/-- A post of an answer to `LASTPOSTS`: 23 bytes, of which the last one is the length of the text,
and the text. -/
def serverrqlpFormat (junk : ℕ → UInt8) : WireFormat ServerRQLp UInt8 :=
  .total (fun rq => (htonServerrqlp rq).frame) (fun m n => ntohServerrqlp junk ⟨m, n⟩)
    ServerRQLp.Same fun m => 23 + (m 22).toNat

/-- An answer to `SUBSCRIBE`: 22 bytes. -/
def serverrqsbFormat : WireFormat ServerRQSb UInt8 :=
  .total (fun rq => (htonServerrqsb rq).frame) (fun m n => ntohServerrqsb ⟨m, n⟩) Eq
    fun _ => 6 + ADDRMULT_LEN

/-- A notification: 34 bytes. -/
def serverrqntFormat (junk : ℕ → UInt8) : WireFormat ServerRQNt UInt8 :=
  .total (fun rq => (htonServerrqnt rq).frame) (fun m n => ntohServerrqnt junk ⟨m, n⟩)
    ServerRQNt.Same fun _ => 4 + PSEUDO_LEN + NT_DATA_LEN

/-- A format given by a pair of functions round-trips when the bytes sent are those of the fields,
and the fields are found exactly where a buffer begins with their bytes. -/
lemma roundTrips_of_fields {V : Type} {hton : V → BytesRQ} {ntoh : BytesRQ → V}
    {Same : V → V → Prop} {size : (ℕ → UInt8) → ℕ} {fields : V → List (List UInt8)}
    (hframe : ∀ v, (hton v).frame = (fields v).flatten) (hrefl : ∀ v, Same v v)
    (hntoh : ∀ b v, Same (ntoh b) v ↔
      read b.buf 0 (fields v).flatten.length = (fields v).flatten)
    (hsize : ∀ b, (fields (ntoh b)).flatten.length = size b.buf) :
    (WireFormat.total (fun v => (hton v).frame) (fun m n => ntoh ⟨m, n⟩) Same
      size).RoundTrips := by
  refine WireFormat.roundTrips_total hrefl (fun m n v => ?_) fun m n => ?_
  · rw [hframe]
    exact hntoh ⟨m, n⟩ v
  · rw [hframe]
    exact hsize ⟨m, n⟩

lemma roundTrips_clientrqrg : clientrqrgFormat.RoundTrips :=
  roundTrips_of_fields frame_htonClientrqrg (fun _ => rfl) ntohClientrqrg_eq_iff fun b => by
    simp [ClientRQRg.fields, PSEUDO_LEN]

lemma roundTrips_clientrqcl : clientrqclFormat.RoundTrips :=
  roundTrips_of_fields frame_htonClientrqcl (fun _ => ⟨rfl, rfl, rfl, rfl, rfl⟩)
    same_ntohClientrqcl_iff fun b => by
      have hdatalen : (ntohClientrqcl b).datalen = b.buf 6 := rfl
      simp [ClientRQCl.fields, hdatalen]
      omega

lemma roundTrips_serverrqcl : serverrqclFormat.RoundTrips :=
  roundTrips_of_fields frame_htonServerrqcl (fun _ => rfl) ntohServerrqcl_eq_iff fun b => by
    simp [ServerRQCl.fields]

lemma roundTrips_serverrqlp (junk : ℕ → UInt8) : (serverrqlpFormat junk).RoundTrips :=
  roundTrips_of_fields frame_htonServerrqlp (fun _ => ⟨rfl, rfl, rfl, rfl, rfl⟩)
    (same_ntohServerrqlp_iff junk) fun b => by
      have hdatalen : (ntohServerrqlp junk b).datalen = b.buf 22 := rfl
      simp [ServerRQLp.fields, hdatalen, PSEUDO_LEN]
      omega

lemma roundTrips_serverrqsb : serverrqsbFormat.RoundTrips :=
  roundTrips_of_fields frame_htonServerrqsb (fun _ => rfl) ntohServerrqsb_eq_iff fun b => by
    simp [ServerRQSb.fields, ADDRMULT_LEN]

lemma roundTrips_serverrqnt (junk : ℕ → UInt8) : (serverrqntFormat junk).RoundTrips :=
  roundTrips_of_fields frame_htonServerrqnt (fun _ => ⟨rfl, rfl, rfl, rfl⟩)
    (same_ntohServerrqnt_iff junk) fun b => by
      simp [ServerRQNt.fields]
      omega

/-! ### Blocks of a file -/

/-- A block with the length of its payload. -/
structure FileBlock where
  rq : FTransferRQ
  len : ℕ
  len_le : len ≤ FILE_PACKET_SIZE

/-- Two blocks with the same words and the same payload. -/
structure FileBlock.Same (p p' : FileBlock) : Prop where
  header : p.rq.header = p'.rq.header
  numblock : p.rq.numblock = p'.rq.numblock
  len : p.len = p'.len
  data : read p.rq.data 0 p.len = read p'.rq.data 0 p'.len

/-- A block in a datagram of 4 bytes and the payload.  The receiver takes for the length of the
payload what is left of that of the datagram. -/
def fileBlockFormat (hton : FTransferRQ → BytesRQ) (ntoh : BytesRQ → Option FTransferRQ) :
    WireFormat FileBlock UInt8 where
  encode p := sendDatagrams (hton p.rq) p.len
  decode m n :=
    if h : sizeSub n 4 ≤ FILE_PACKET_SIZE then (ntoh ⟨m, n⟩).map fun rq => ⟨rq, sizeSub n 4, h⟩
    else none
  Same := FileBlock.Same
  Declares _ n := 4 ≤ n ∧ n ≤ 4 + FILE_PACKET_SIZE

/-- The block in a datagram that is neither too short nor too long. -/
lemma decode_fileBlock (hton : FTransferRQ → BytesRQ) (data m : ℕ → UInt8) {len : ℕ}
    (h : len ≤ FILE_PACKET_SIZE) :
    (fileBlockFormat hton (ntohRqft data)).decode m (4 + len) =
      some ⟨⟨ntohs (u16OfBytes (read m 0 2)), ntohs (u16OfBytes (read m 2 2)),
        write data 0 (read m 4 len)⟩, len, h⟩ := by
  have hsub : sizeSub (4 + len) 4 = len := by
    rw [sizeSub, if_pos (by omega)]
    omega
  simp only [fileBlockFormat, ntohRqft, extractbuf, Nat.zero_add, Nat.reduceAdd, hsub, h, dite_true,
    if_true, Option.map_some]

lemma roundTrips_fileBlock (data : ℕ → UInt8) :
    (fileBlockFormat htonRqft (ntohRqft data)).RoundTrips := by
  have hpayload : ∀ (m : ℕ → UInt8) (len : ℕ),
      read (write data 0 (read m 4 len)) 0 len = read m 4 len := by
    intro m len
    have h := read_write_self data 0 (read m 4 len)
    rwa [length_read] at h
  constructor
  · intro p m hm
    have hencode : (fileBlockFormat htonRqft (ntohRqft data)).encode p =
        [[hi p.rq.header, lo p.rq.header], [hi p.rq.numblock, lo p.rq.numblock],
          read p.rq.data 0 p.len].flatten := by
      change sendDatagrams _ _ = _
      rw [sendDatagrams_htonRqft p.rq p.len_le]
      simp
    have hlength : ((fileBlockFormat htonRqft (ntohRqft data)).encode p).length = 4 + p.len := by
      rw [hencode]
      simp
      omega
    rw [hencode, read_flatten_iff] at hm
    simp only [HoldsAt, List.length_cons, List.length_nil, length_read, and_true, Nat.zero_add,
      Nat.reduceAdd] at hm
    obtain ⟨hheader, hnumblock, hdata⟩ := hm
    rw [hlength, decode_fileBlock htonRqft data m p.len_le]
    refine ⟨_, rfl, ?_, ?_, rfl, ?_⟩
    · exact (ntohs_read_eq_iff m 0 _).mpr hheader
    · exact (ntohs_read_eq_iff m 2 _).mpr hnumblock
    · exact (hpayload m p.len).trans hdata
  · rintro m n ⟨hle, hle'⟩
    obtain ⟨len, rfl⟩ := Nat.exists_eq_add_of_le hle
    have hlen : len ≤ FILE_PACKET_SIZE := by omega
    refine ⟨_, decode_fileBlock htonRqft data m hlen, ?_⟩
    have hheader := (ntohs_read_eq_iff m 0 _).mp rfl
    have hnumblock := (ntohs_read_eq_iff m 2 _).mp rfl
    calc sendDatagrams (htonRqft ⟨ntohs (u16OfBytes (read m 0 2)), ntohs (u16OfBytes (read m 2 2)),
          write data 0 (read m 4 len)⟩) len
        = [hi (ntohs (u16OfBytes (read m 0 2))), lo (ntohs (u16OfBytes (read m 0 2))),
            hi (ntohs (u16OfBytes (read m 2 2))), lo (ntohs (u16OfBytes (read m 2 2)))] ++
              read m 4 len := by
          rw [sendDatagrams_htonRqft _ hlen, hpayload]
      _ = read m 0 2 ++ read m 2 2 ++ read m 4 len :=
          congrArg (· ++ read m 4 len) (congrArg₂ (· ++ ·) hheader hnumblock).symm
      _ = read m 0 (4 + len) := by rw [read_append m 0 4 len, read_append m 0 2 2]

/-! ### All formats -/

/-- **Every wire format is a bijection on its image**: in each of the formats, what has been encoded
is decoded to the same fields and the same bytes of text or payload, whatever follows in memory, and
every buffer of the length that its format declares is the encoding of what is decoded from it. -/
theorem formats_roundTrip (junk : ℕ → UInt8) :
    clientrqrgFormat.RoundTrips ∧ clientrqclFormat.RoundTrips ∧
      (fileBlockFormat htonClientrqft (ntohClientrqup junk)).RoundTrips ∧
      (fileBlockFormat htonServerrqft ntohServerrqdl).RoundTrips ∧
      serverrqclFormat.RoundTrips ∧ (serverrqlpFormat junk).RoundTrips ∧
      serverrqsbFormat.RoundTrips ∧ (serverrqntFormat junk).RoundTrips :=
  ⟨roundTrips_clientrqrg, roundTrips_clientrqcl, roundTrips_fileBlock junk,
    roundTrips_fileBlock fun _ => 0, roundTrips_serverrqcl, roundTrips_serverrqlp junk,
    roundTrips_serverrqsb, roundTrips_serverrqnt junk⟩

end Megaphone
