import Megaphone.Network.Recv

/-!
The wire formats: `hton_*` and `ntoh_*` of the client and of the server, and the functions that
send and receive the requests and the answers over TCP.

* `packRq`: a buffer put together of the elements of a request by successive calls of `appendbuf`.
* `htonClientrqcl`, `ntohClientrqcl` and the others: one pair for each format.
* `same_ntohClientrqcl_iff` and the others: decoding a buffer gives back a request exactly when the
  bytes of the buffer are those that encode the request.
* `sendClientRequest`, `recvClientRequest`, `sendServerRequest`, `recvServerRequest`.
-/

namespace Megaphone

open Memory

/-! ### Elements of a request -/

/-- The buffer that successive calls of `appendbuf` make of a cleared one. -/
def packRq (elts : List (List UInt8)) : BytesRQ := elts.foldl appendbuf .zero

lemma frame_foldl_appendbuf (elts : List (List UInt8)) (b : BytesRQ) :
    (elts.foldl appendbuf b).frame = b.frame ++ elts.flatten := by
  induction elts generalizing b with
  | nil => simp
  | cons e elts ih =>
      rw [List.foldl_cons, ih, frame_appendbuf, List.flatten_cons, List.append_assoc]

@[simp] lemma frame_packRq (elts : List (List UInt8)) : (packRq elts).frame = elts.flatten := by
  rw [packRq, frame_foldl_appendbuf, frame_zero, List.nil_append]

/-- A decoded word is the one whose bytes, in network order, were read. -/
lemma ntohs_read_eq_iff (m : ℕ → UInt8) (off : ℕ) (x : UInt16) :
    ntohs (u16OfBytes (read m off 2)) = x ↔ read m off 2 = [hi x, lo x] := by
  have hread : read m off 2 = [m off, m (off + 1)] := rfl
  rw [hread]
  constructor
  · rintro rfl
    exact (hi_lo_ntohs _ _).symm
  · intro h
    rw [h, ntohs_u16OfBytes]

lemma pseudoOfBytes_read_eq_iff (m : ℕ → UInt8) (off : ℕ) (p : Pseudo) :
    pseudoOfBytes (read m off PSEUDO_LEN) = p ↔ read m off PSEUDO_LEN = p.toList := by
  constructor
  · rintro rfl
    exact (toList_pseudoOfBytes (by simp)).symm
  · intro h
    rw [h, pseudoOfBytes_toList]

lemma read_one (m : ℕ → UInt8) (off : ℕ) : read m off 1 = [m off] := rfl

/-- The text of a field that `extractbuf` has filled. -/
lemma textOf_write (m junk : ℕ → UInt8) (off : ℕ) (n : UInt8) :
    textOf n (write junk 0 (read m off n.toNat)) = read m off n.toNat := by
  have h := read_write_self junk 0 (read m off n.toNat)
  rwa [length_read] at h

/-! ### Requests of the client -/

/-- `hton_clientrqrg`. -/
def htonClientrqrg (rq : ClientRQRg) : BytesRQ :=
  packRq [u16Bytes (htons rq.header), rq.pseudo.toList]

/-- `hton_clientrqcl`. -/
def htonClientrqcl (rq : ClientRQCl) : BytesRQ :=
  packRq [u16Bytes (htons rq.header), u16Bytes (htons rq.feedNumber), u16Bytes (htons rq.count),
    [rq.datalen], textOf rq.datalen rq.data]

/-- `ntoh_clientrqrg`. -/
def ntohClientrqrg (b : BytesRQ) : ClientRQRg :=
  let (hd, size) := extractbuf b.buf 0 2
  let (pseudo, _) := extractbuf b.buf size PSEUDO_LEN
  { header := ntohs (u16OfBytes hd), pseudo := pseudoOfBytes pseudo }

/-- `ntoh_clientrqcl`. -/
def ntohClientrqcl (b : BytesRQ) : ClientRQCl :=
  let (header, size) := extractbuf b.buf 0 2
  let (feedNumber, size) := extractbuf b.buf size 2
  let (count, size) := extractbuf b.buf size 2
  let (datalen, size) := extractbuf b.buf size 1
  let datalen := datalen.getD 0 0
  let (data, _) := extractbuf b.buf size datalen.toNat
  { header := ntohs (u16OfBytes header)
    feedNumber := ntohs (u16OfBytes feedNumber)
    count := ntohs (u16OfBytes count)
    datalen := datalen
    data := write (fun _ => 0) 0 data }

/-- Two requests with the same fields and the same text. -/
structure ClientRQCl.Same (rq rq' : ClientRQCl) : Prop where
  header : rq.header = rq'.header
  feedNumber : rq.feedNumber = rq'.feedNumber
  count : rq.count = rq'.count
  datalen : rq.datalen = rq'.datalen
  text : textOf rq.datalen rq.data = textOf rq'.datalen rq'.data

/-- Two requests of one type with the same fields and the same text. -/
def ClientRQ.Same : ClientRQ → ClientRQ → Prop
  | .rg rq, .rg rq' => rq = rq'
  | .cl type _ rq, .cl type' _ rq' => type = type' ∧ rq.Same rq'
  | _, _ => False

/-- The bytes of the fields of a registration, in network order. -/
def ClientRQRg.fields (rq : ClientRQRg) : List (List UInt8) :=
  [[hi rq.header, lo rq.header], rq.pseudo.toList]

/-- The bytes of the fields of another request, in network order. -/
def ClientRQCl.fields (rq : ClientRQCl) : List (List UInt8) :=
  [[hi rq.header, lo rq.header], [hi rq.feedNumber, lo rq.feedNumber], [hi rq.count, lo rq.count],
    [rq.datalen], textOf rq.datalen rq.data]

/-- The bytes of the fields of a request. -/
def ClientRQ.fields : ClientRQ → List (List UInt8)
  | .rg rq => rq.fields
  | .cl _ _ rq => rq.fields

@[simp] lemma frame_htonClientrqrg (rq : ClientRQRg) :
    (htonClientrqrg rq).frame = rq.fields.flatten := by
  rw [htonClientrqrg, frame_packRq, u16Bytes_htons, ClientRQRg.fields]

@[simp] lemma frame_htonClientrqcl (rq : ClientRQCl) :
    (htonClientrqcl rq).frame = rq.fields.flatten := by
  rw [htonClientrqcl, frame_packRq, ClientRQCl.fields]
  simp only [u16Bytes_htons]

lemma ntohClientrqrg_eq_iff (b : BytesRQ) (rq : ClientRQRg) :
    ntohClientrqrg b = rq ↔ read b.buf 0 rq.fields.flatten.length = rq.fields.flatten := by
  obtain ⟨header, pseudo⟩ := rq
  rw [ClientRQRg.fields, read_flatten_iff]
  simp only [ntohClientrqrg, extractbuf, HoldsAt, ClientRQRg.mk.injEq, ntohs_read_eq_iff,
    pseudoOfBytes_read_eq_iff, length_toList_vector, List.length_cons, List.length_nil, and_true,
    Nat.zero_add, Nat.reduceAdd]

lemma same_ntohClientrqcl_iff (b : BytesRQ) (rq : ClientRQCl) :
    (ntohClientrqcl b).Same rq ↔
      read b.buf 0 rq.fields.flatten.length = rq.fields.flatten := by
  rw [ClientRQCl.fields, read_flatten_iff]
  simp only [HoldsAt, List.length_cons, List.length_nil, and_true, Nat.zero_add, Nat.reduceAdd,
    length_textOf, read_one, List.cons.injEq, ← ntohs_read_eq_iff]
  constructor
  · rintro ⟨h₁, h₂, h₃, h₄, h₅⟩
    change b.buf 6 = rq.datalen at h₄
    change textOf (b.buf 6) (write _ 0 (read b.buf 7 (b.buf 6).toNat)) = _ at h₅
    rw [textOf_write, h₄] at h₅
    exact ⟨h₁, h₂, h₃, h₄, h₅⟩
  · rintro ⟨h₁, h₂, h₃, h₄, h₅⟩
    refine ⟨h₁, h₂, h₃, h₄, ?_⟩
    change textOf (b.buf 6) (write _ 0 (read b.buf 7 (b.buf 6).toNat)) = _
    rw [textOf_write, h₄, h₅]

/-- `send_client_request`: its return code, and the bytes handed to `send`; `ok` is whether `send`
succeeds. -/
def sendClientRequest (ok : Bool) (clientrq : ClientRQ) : UInt8 × List UInt8 :=
  let bytesRq := match clientrq with
    | .rg rq => htonClientrqrg rq
    | .cl _ _ rq => htonClientrqcl rq
  let bytesRq := appendbuf bytesRq [CR, LF]
  (if ok then 0 else 1, bytesRq.frame)

variable {σ : Type}

/-- What `recv_client_request` leaves: the return code, the request decoded, the carry-over buffer
and the state of the socket. -/
structure ClientReceived (σ : Type) where
  code : UInt8
  clientrq : Option ClientRQ
  rbRq : BytesRQ
  sock : σ

/-- The type in the first two bytes of a buffer. -/
def headType (b : BytesRQ) : UInt8 :=
  let (hd, _) := extractbuf b.buf 0 2
  getRqType (ntohs (u16OfBytes hd))

/-- The request that `recv_client_request` decodes. -/
def decodeClientrq (b : BytesRQ) : ClientRQ :=
  if h : headType b = REGISTRATION then .rg (ntohClientrqrg b)
  else .cl (headType b) h (ntohClientrqcl b)

/-- `recv_client_request`. -/
def recvClientRequest (sock : Socket σ) (s : σ) (rbRq : BytesRQ) : Option (ClientReceived σ) :=
  (recvRequest sock s rbRq).map fun r =>
    if r.exit.code ≠ (0 : UInt8) then
      { code := 1, clientrq := none, rbRq := r.rbytesRq, sock := r.sock }
    else
      { code := 0, clientrq := some (decodeClientrq r.bytesRq), rbRq := r.rbytesRq, sock := r.sock }

@[simp] lemma sendClientRequest_eq (clientrq : ClientRQ) :
    sendClientRequest true clientrq = (0, clientrq.fields.flatten ++ [CR, LF]) := by
  cases clientrq <;> simp [sendClientRequest, ClientRQ.fields]

/-! ### Answers of the server -/

/-- `hton_serverrqcl`. -/
def htonServerrqcl (rq : ServerRQCl) : BytesRQ :=
  packRq [u16Bytes (htons rq.header), u16Bytes (htons rq.feedNumber), u16Bytes (htons rq.count)]

/-- `hton_serverrqlp`. -/
def htonServerrqlp (rq : ServerRQLp) : BytesRQ :=
  packRq [u16Bytes (htons rq.feedNumber), rq.creator.toList, rq.pseudo.toList, [rq.datalen],
    textOf rq.datalen rq.data]

/-- `hton_serverrqsb`. -/
def htonServerrqsb (rq : ServerRQSb) : BytesRQ :=
  packRq [u16Bytes (htons rq.header), u16Bytes (htons rq.feedNumber), u16Bytes (htons rq.count),
    rq.addr.toList]

/-- `hton_serverrqnt`. -/
def htonServerrqnt (rq : ServerRQNt) : BytesRQ :=
  packRq [u16Bytes (htons rq.header), u16Bytes (htons rq.feedNumber), rq.pseudo.toList,
    read rq.data 0 NT_DATA_LEN]

/-- `ntoh_serverrqcl`. -/
def ntohServerrqcl (b : BytesRQ) : ServerRQCl :=
  let (hd, size) := extractbuf b.buf 0 2
  let (feedNumber, size) := extractbuf b.buf size 2
  let (count, _) := extractbuf b.buf size 2
  { header := ntohs (u16OfBytes hd)
    feedNumber := ntohs (u16OfBytes feedNumber)
    count := ntohs (u16OfBytes count) }

/-- `ntoh_serverrqlp`.  Behind the text, `data` keeps what was on the stack. -/
def ntohServerrqlp (junk : ℕ → UInt8) (b : BytesRQ) : ServerRQLp :=
  let (feedNumber, size) := extractbuf b.buf 0 2
  let (creator, size) := extractbuf b.buf size PSEUDO_LEN
  let (pseudo, size) := extractbuf b.buf size PSEUDO_LEN
  let (datalen, size) := extractbuf b.buf size 1
  let datalen := datalen.getD 0 0
  let (data, _) := extractbuf b.buf size datalen.toNat
  { feedNumber := ntohs (u16OfBytes feedNumber)
    creator := pseudoOfBytes creator
    pseudo := pseudoOfBytes pseudo
    datalen := datalen
    data := write junk 0 data }

/-- `ntoh_serverrqsb`. -/
def ntohServerrqsb (b : BytesRQ) : ServerRQSb :=
  let (hd, size) := extractbuf b.buf 0 2
  let (feedNumber, size) := extractbuf b.buf size 2
  let (count, size) := extractbuf b.buf size 2
  let (addr, _) := extractbuf b.buf size ADDRMULT_LEN
  { header := ntohs (u16OfBytes hd)
    feedNumber := ntohs (u16OfBytes feedNumber)
    count := ntohs (u16OfBytes count)
    addr := Vector.ofFn fun i => addr.getD i 0 }

/-- `ntoh_serverrqnt`.  Only the `NT_DATA_LEN` bytes of `data` that are copied are ever used. -/
def ntohServerrqnt (junk : ℕ → UInt8) (b : BytesRQ) : ServerRQNt :=
  let (hd, size) := extractbuf b.buf 0 2
  let (feedNumber, size) := extractbuf b.buf size 2
  let (pseudo, size) := extractbuf b.buf size PSEUDO_LEN
  let (data, _) := extractbuf b.buf size NT_DATA_LEN
  { header := ntohs (u16OfBytes hd)
    feedNumber := ntohs (u16OfBytes feedNumber)
    pseudo := pseudoOfBytes pseudo
    data := write junk 0 data }

/-- Two posts with the same fields and the same text. -/
structure ServerRQLp.Same (rq rq' : ServerRQLp) : Prop where
  feedNumber : rq.feedNumber = rq'.feedNumber
  creator : rq.creator = rq'.creator
  pseudo : rq.pseudo = rq'.pseudo
  datalen : rq.datalen = rq'.datalen
  text : textOf rq.datalen rq.data = textOf rq'.datalen rq'.data

/-- Two notifications with the same fields and the same `NT_DATA_LEN` bytes of text. -/
structure ServerRQNt.Same (rq rq' : ServerRQNt) : Prop where
  header : rq.header = rq'.header
  feedNumber : rq.feedNumber = rq'.feedNumber
  pseudo : rq.pseudo = rq'.pseudo
  data : read rq.data 0 NT_DATA_LEN = read rq'.data 0 NT_DATA_LEN

/-- The bytes of the fields of an answer. -/
def ServerRQCl.fields (rq : ServerRQCl) : List (List UInt8) :=
  [[hi rq.header, lo rq.header], [hi rq.feedNumber, lo rq.feedNumber], [hi rq.count, lo rq.count]]

/-- The bytes of the fields of a post. -/
def ServerRQLp.fields (rq : ServerRQLp) : List (List UInt8) :=
  [[hi rq.feedNumber, lo rq.feedNumber], rq.creator.toList, rq.pseudo.toList, [rq.datalen],
    textOf rq.datalen rq.data]

/-- The bytes of the fields of the answer to a subscription. -/
def ServerRQSb.fields (rq : ServerRQSb) : List (List UInt8) :=
  [[hi rq.header, lo rq.header], [hi rq.feedNumber, lo rq.feedNumber], [hi rq.count, lo rq.count],
    rq.addr.toList]

/-- The bytes of the fields of a notification. -/
def ServerRQNt.fields (rq : ServerRQNt) : List (List UInt8) :=
  [[hi rq.header, lo rq.header], [hi rq.feedNumber, lo rq.feedNumber], rq.pseudo.toList,
    read rq.data 0 NT_DATA_LEN]

@[simp] lemma frame_htonServerrqcl (rq : ServerRQCl) :
    (htonServerrqcl rq).frame = rq.fields.flatten := by
  rw [htonServerrqcl, frame_packRq, ServerRQCl.fields]
  simp only [u16Bytes_htons]

@[simp] lemma frame_htonServerrqlp (rq : ServerRQLp) :
    (htonServerrqlp rq).frame = rq.fields.flatten := by
  rw [htonServerrqlp, frame_packRq, ServerRQLp.fields]
  simp only [u16Bytes_htons]

@[simp] lemma frame_htonServerrqsb (rq : ServerRQSb) :
    (htonServerrqsb rq).frame = rq.fields.flatten := by
  rw [htonServerrqsb, frame_packRq, ServerRQSb.fields]
  simp only [u16Bytes_htons]

@[simp] lemma frame_htonServerrqnt (rq : ServerRQNt) :
    (htonServerrqnt rq).frame = rq.fields.flatten := by
  rw [htonServerrqnt, frame_packRq, ServerRQNt.fields]
  simp only [u16Bytes_htons]

lemma ntohServerrqcl_eq_iff (b : BytesRQ) (rq : ServerRQCl) :
    ntohServerrqcl b = rq ↔ read b.buf 0 rq.fields.flatten.length = rq.fields.flatten := by
  obtain ⟨header, feedNumber, count⟩ := rq
  rw [ServerRQCl.fields, read_flatten_iff]
  simp only [ntohServerrqcl, extractbuf, HoldsAt, ServerRQCl.mk.injEq, ntohs_read_eq_iff,
    List.length_cons, List.length_nil, and_true, Nat.zero_add, Nat.reduceAdd]

lemma same_ntohServerrqlp_iff (junk : ℕ → UInt8) (b : BytesRQ) (rq : ServerRQLp) :
    (ntohServerrqlp junk b).Same rq ↔
      read b.buf 0 rq.fields.flatten.length = rq.fields.flatten := by
  rw [ServerRQLp.fields, read_flatten_iff]
  simp only [HoldsAt, List.length_cons, List.length_nil, and_true, Nat.zero_add, Nat.reduceAdd,
    length_textOf, length_toList_vector, read_one, List.cons.injEq, ← ntohs_read_eq_iff,
    ← pseudoOfBytes_read_eq_iff]
  constructor
  · rintro ⟨h₁, h₂, h₃, h₄, h₅⟩
    change b.buf 22 = rq.datalen at h₄
    change textOf (b.buf 22) (write junk 0 (read b.buf 23 (b.buf 22).toNat)) = _ at h₅
    rw [textOf_write, h₄] at h₅
    exact ⟨h₁, h₂, h₃, h₄, h₅⟩
  · rintro ⟨h₁, h₂, h₃, h₄, h₅⟩
    refine ⟨h₁, h₂, h₃, h₄, ?_⟩
    change b.buf 22 = rq.datalen at h₄
    change textOf (b.buf 22) (write junk 0 (read b.buf 23 (b.buf 22).toNat)) = _
    rw [textOf_write, h₄]
    exact h₅

lemma ofFn_getD_eq_iff {n : ℕ} {bs : List UInt8} (h : bs.length = n) (v : Vector UInt8 n) :
    (Vector.ofFn fun i : Fin n => bs.getD i 0) = v ↔ bs = v.toList := by
  have hofFn : (Vector.ofFn fun i : Fin n => bs.getD i 0).toList = bs := by
    refine List.ext_getElem (by simp [h]) fun i h₁ h₂ => ?_
    simp [List.getD_eq_getElem?_getD, h₂]
  rw [← Vector.toList_inj, hofFn]

lemma ntohServerrqsb_eq_iff (b : BytesRQ) (rq : ServerRQSb) :
    ntohServerrqsb b = rq ↔ read b.buf 0 rq.fields.flatten.length = rq.fields.flatten := by
  obtain ⟨header, feedNumber, count, addr⟩ := rq
  rw [ServerRQSb.fields, read_flatten_iff]
  simp only [ntohServerrqsb, extractbuf, HoldsAt, ServerRQSb.mk.injEq, ntohs_read_eq_iff,
    ofFn_getD_eq_iff (length_read _ _ _), length_toList_vector, List.length_cons, List.length_nil,
    and_true, Nat.zero_add, Nat.reduceAdd]

lemma same_ntohServerrqnt_iff (junk : ℕ → UInt8) (b : BytesRQ) (rq : ServerRQNt) :
    (ntohServerrqnt junk b).Same rq ↔
      read b.buf 0 rq.fields.flatten.length = rq.fields.flatten := by
  have hdata : read (ntohServerrqnt junk b).data 0 NT_DATA_LEN = read b.buf 14 NT_DATA_LEN := by
    have h := read_write_self junk 0 (read b.buf 14 NT_DATA_LEN)
    rwa [length_read] at h
  rw [ServerRQNt.fields, read_flatten_iff]
  simp only [HoldsAt, List.length_cons, List.length_nil, and_true, Nat.zero_add, Nat.reduceAdd,
    length_read, length_toList_vector, ← ntohs_read_eq_iff, ← pseudoOfBytes_read_eq_iff]
  constructor
  · rintro ⟨h₁, h₂, h₃, h₄⟩
    exact ⟨h₁, h₂, h₃, hdata.symm.trans h₄⟩
  · rintro ⟨h₁, h₂, h₃, h₄⟩
    exact ⟨h₁, h₂, h₃, hdata.trans h₄⟩

/-- Calls of `send` on the messages of a list, up to the first that fails; `ok i` is whether call
number `i` succeeds.  The result is the return code and the messages handed to `send`. -/
def sendAll (ok : ℕ → Bool) (ms : List (List UInt8)) : UInt8 × List (List UInt8) :=
  if (List.range ms.length).all ok then (0, ms)
  else (1, ms.take ((List.range ms.length).findIdx (fun i => !ok i) + 1))

/-- A request and the terminator behind it. -/
def terminated (b : BytesRQ) : List UInt8 := (appendbuf b [CR, LF]).frame

/-- The member `cl` of the union; that of `sb` begins with the same fields. -/
def ServerBody.cl? : ServerBody → Option ServerRQCl
  | .cl rq => some rq
  | .sb rq => some ⟨rq.header, rq.feedNumber, rq.count⟩
  | .lp _ => none

/-- The member `lp` of the union. -/
def ServerBody.lp? : ServerBody → Option ServerRQLp
  | .lp rq => some rq
  | _ => none

/-- The member `sb` of the union. -/
def ServerBody.sb? : ServerBody → Option ServerRQSb
  | .sb rq => some rq
  | _ => none

/-- The types of the answers that consist of a header. -/
def isPlain (type : UInt8) : Bool :=
  type == REGISTRATION || type == NEWPOST || type == UPLOAD || type == DOWNLOAD || isError type

/-- The members `lp` of the `n` entries from number `i` on. -/
def lpEntries (serverrq : ℕ → Option ServerRQ) : ℕ → ℕ → Option (List ServerRQLp)
  | _, 0 => some []
  | i, n + 1 =>
      (serverrq i).bind fun rq =>
        rq.body.lp?.bind fun lp => (lpEntries serverrq (i + 1) n).map (lp :: ·)

/-- `send_server_request`: `serverrq i` is the entry number `i` behind the pointer, and `none` where
there is none, or another member of the union is in use than the one that is read. -/
def sendServerRequest (ok : ℕ → Bool) (serverrq : ℕ → Option ServerRQ) :
    Option (UInt8 × List (List UInt8)) :=
  (serverrq 0).bind fun rq =>
    if isPlain rq.type then
      rq.body.cl?.map fun cl => sendAll ok [terminated (htonServerrqcl cl)]
    else if rq.type = LASTPOSTS then
      rq.body.cl?.bind fun cl =>
        (lpEntries serverrq 1 cl.count.toNat).map fun lps => sendAll ok
          (terminated (htonServerrqcl cl) :: lps.map fun lp => terminated (htonServerrqlp lp))
    else if rq.type = SUBSCRIBE then
      rq.body.sb?.map fun sb => sendAll ok [terminated (htonServerrqsb sb)]
    else some (1, [])

/-- What `recv_server_request` leaves: the return code, the answer and its posts, `d_errno`, the
carry-over buffer and the state of the socket. -/
structure ServerReceived (σ : Type) where
  code : UInt8
  serverrq : Option ServerRQ
  posts : List ServerRQLp
  dErrno : UInt16
  rbRq : BytesRQ
  sock : σ

/-- The posts behind the header of an answer to `LASTPOSTS`, with the return code. -/
def recvPosts (junk : ℕ → UInt8) (sock : Socket σ) :
    ℕ → σ → BytesRQ → Option (UInt8 × List ServerRQLp × BytesRQ × σ)
  | 0, s, rb => some (0, [], rb, s)
  | n + 1, s, rb =>
      (recvRequest sock s rb).bind fun r =>
        if r.exit.code ≠ (0 : UInt8) then some (1, [], r.rbytesRq, r.sock)
        else
          (recvPosts junk sock n r.sock r.rbytesRq).map fun p =>
            (p.1, ntohServerrqlp junk r.bytesRq :: p.2.1, p.2.2)

/-- `recv_server_request`. -/
def recvServerRequest (junk : ℕ → UInt8) (sock : Socket σ) (s : σ) (rbRq : BytesRQ)
    (dErrno : UInt16) : Option (ServerReceived σ) :=
  (recvRequest sock s rbRq).bind fun r =>
    if r.exit.code ≠ (0 : UInt8) then
      some ⟨1, none, [], dErrno, r.rbytesRq, r.sock⟩
    else
      let type := headType r.bytesRq
      let dErrno := if isError type then type.toUInt16 else dErrno
      if isPlain type then
        some ⟨0, some ⟨type, .cl (ntohServerrqcl r.bytesRq)⟩, [], dErrno, r.rbytesRq, r.sock⟩
      else if type = LASTPOSTS then
        let cl := ntohServerrqcl r.bytesRq
        (recvPosts junk sock cl.count.toNat r.sock r.rbytesRq).map fun p =>
          ⟨p.1, some ⟨type, .cl cl⟩, p.2.1, dErrno, p.2.2.1, p.2.2.2⟩
      else if type = SUBSCRIBE then
        some ⟨0, some ⟨type, .sb (ntohServerrqsb r.bytesRq)⟩, [], dErrno, r.rbytesRq, r.sock⟩
      else some ⟨1, none, [], dErrno, r.rbytesRq, r.sock⟩

lemma sendAll_true (ms : List (List UInt8)) : sendAll (fun _ => true) ms = (0, ms) := by
  simp [sendAll]

/-- The code of a row of calls of `send`. -/
lemma sendAll_fst (ok : ℕ → Bool) (ms : List (List UInt8)) :
    (sendAll ok ms).1 = 0 ↔ ∀ i < ms.length, ok i = true := by
  rw [sendAll]
  split
  next hall =>
    rw [List.all_eq_true] at hall
    exact ⟨fun _ i hi => hall i (List.mem_range.mpr hi), fun _ => rfl⟩
  next hall =>
    refine ⟨fun h => absurd (show (1 : UInt8) = 0 from h) (by decide), fun hok => absurd ?_ hall⟩
    rw [List.all_eq_true]
    exact fun i hi => hok i (List.mem_range.mp hi)

/-- The first message is handed to `send`. -/
lemma sendAll_snd (ok : ℕ → Bool) (m : List UInt8) (ms : List (List UInt8)) :
    ∃ ms', (sendAll ok (m :: ms)).2 = m :: ms' := by
  rw [sendAll]
  split
  · exact ⟨ms, rfl⟩
  · exact ⟨_, List.take_succ_cons⟩

end Megaphone
