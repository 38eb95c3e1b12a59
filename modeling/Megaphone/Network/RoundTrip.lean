import Megaphone.Network.Codec

/-!
Requests and answers through TCP: what is decoded behind the framing is what was sent exactly when
no byte of it is a `CR`.

* `recvRequest_message`: a message without `CR` is received whole from any chunks that do not
  separate its terminator.
* `recvRequest_chunk`, `cutFrame_ne`: a message with a `CR` is cut at it, and what the buffer of the
  request keeps behind the cut is not what was sent.
* `round_trip_iff`: both directions, over every request and every answer.
-/

namespace Megaphone

open Memory Framing

/-! ### One message -/

/-- A message that arrives is the request. -/
lemma recvRequest_message {l m : List UInt8} {cs ms : List (List UInt8)}
    (h : Arrives CR LF BUFSIZ l cs (m :: ms)) (hm : IsMessage CR BUFSIZ m) :
    ∃ r l' cs', recvRequest chunkSocket cs (bytesOf l) = some r ∧ r.exit.code = 0 ∧
      read r.bytesRq.buf 0 m.length = m ∧ r.rbytesRq = bytesOf l' ∧ r.sock = cs' ∧
      Arrives CR LF BUFSIZ l' cs' ms := by
  obtain ⟨r, l', cs', h₁, h₂, h₃, h₄, -, h₅⟩ := recvRequest_chunks h.fits
  obtain ⟨l'', cs'', h₆, h₇⟩ := h.receive (by decide) hm
  rw [h₂] at h₆
  obtain ⟨hframe, rfl, rfl⟩ : r.bytesRq.frame = m ∧ l' = l'' ∧ cs' = cs'' := by simpa using h₆
  have hsize : r.bytesRq.size = m.length := by rw [← hframe, r.bytesRq.length_frame]
  exact ⟨r, l', cs', h₁, h₅, by rw [← hsize]; exact hframe, h₃, h₄, h₇⟩

/-- One chunk with a `CR` in it, on a fresh connection. -/
lemma recvRequest_chunk {f t : List UInt8} (hf : CR ∉ f) (hlen : (f ++ CR :: t).length ≤ BUFSIZ)
    (cs : List (List UInt8)) :
    recvRequest chunkSocket ((f ++ CR :: t) :: cs) .zero =
      some ⟨.delimiter, cutFrame f t, bytesOf (dropLf LF t), cs, f ++ CR :: t⟩ := by
  have hrecv : chunkSocket.recv ((f ++ CR :: t) :: cs) (sizeSub BUFSIZ 0) =
      (.data (f ++ CR :: t), cs) := by
    have hsub : sizeSub BUFSIZ 0 = BUFSIZ := rfl
    simp only [chunkSocket, chunkRecv, hsub]
    rw [List.take_of_length_le hlen, if_pos hlen]
  have hwrite := write_bytesOf [] (f ++ CR :: t)
  rw [List.nil_append, bytesOf_nil, show BytesRQ.zero.size = 0 from rfl] at hwrite
  have hroom : 0 + (f ++ CR :: t).length ≤ BUFSIZ := by rwa [Nat.zero_add]
  rw [recvRequest, recvLoop, show BytesRQ.zero.findCR = none from rfl,
    show BytesRQ.zero.size = 0 from rfl, hrecv]
  simp only [List.append_eq_nil_iff, reduceCtorEq, and_false, if_false]
  rw [dif_pos hroom, hwrite, recvLoop, findCR_bytesOf hf]
  simp only [cutBuffer_bytesOf hlen]
  rfl

/-- The bytes of a message without `CR` that arrives in one chunk. -/
lemma recvRequest_chunk_of_notMem {m : List UInt8} (hm : CR ∉ m) (hlen : m.length + 2 ≤ BUFSIZ)
    (cs : List (List UInt8)) :
    ∃ r, recvRequest chunkSocket ((m ++ [CR, LF]) :: cs) .zero = some r ∧ r.exit.code = 0 ∧
      read r.bytesRq.buf 0 m.length = m ∧ r.rbytesRq = .zero ∧ r.sock = cs := by
  refine ⟨_, recvRequest_chunk hm (by simpa using hlen) cs, rfl, frame_cutFrame m [LF], ?_, rfl⟩
  simp

/-- The request cut out of a message with a `CR` does not read as the message: the byte at the cut,
or the one behind it, is cleared. -/
lemma cutFrame_ne (u v : List UInt8) :
    read (cutFrame u (v ++ [CR, LF])).buf 0 (u ++ CR :: v).length ≠ u ++ CR :: v := by
  intro h
  have hget : ∀ i (hi : i < (u ++ CR :: v).length),
      (cutFrame u (v ++ [CR, LF])).buf i = (u ++ CR :: v)[i] := by
    intro i hi
    have h' := getElem?_read (cutFrame u (v ++ [CR, LF])).buf 0 hi
    rw [h, List.getElem?_eq_getElem hi, Nat.zero_add] at h'
    exact (Option.some.inj h').symm
  by_cases hlf : (v ++ [CR, LF]).head? = some LF
  · obtain ⟨w, rfl⟩ : ∃ w, v = LF :: w := by
      cases v with
      | nil => simp [CR, LF] at hlf
      | cons a w => exact ⟨w, by simpa using hlf⟩
    have hzero : (cutFrame u (LF :: w ++ [CR, LF])).buf (u.length + 1) = 0 := by
      rw [cutFrame, if_pos hlf]
      exact fill_of_mem _ _ le_rfl (by simp)
    have hbyte := hget (u.length + 1) (by simp)
    rw [hzero] at hbyte
    simp [LF] at hbyte
  · have hdrop : dropLf LF (v ++ [CR, LF]) ≠ [] := by
      cases v with
      | nil => simp [dropLf, CR, LF]
      | cons a w =>
          rw [List.cons_append, dropLf, if_neg (by simpa using hlf)]
          simp
    have hzero : (cutFrame u (v ++ [CR, LF])).buf u.length = 0 := by
      rw [cutFrame, if_neg hlf]
      have := List.length_pos_of_ne_nil hdrop
      exact fill_of_mem _ _ le_rfl (by omega)
    have hbyte := hget u.length (by simp)
    rw [hzero] at hbyte
    simp [CR] at hbyte

/-- A message that arrives in one chunk is received whole only without a `CR` in it. -/
lemma recvRequest_chunk_of_mem {m : List UInt8} (hm : CR ∈ m) (hlen : m.length + 2 ≤ BUFSIZ)
    (cs : List (List UInt8)) :
    ∃ r, recvRequest chunkSocket ((m ++ [CR, LF]) :: cs) .zero = some r ∧ r.exit.code = 0 ∧
      read r.bytesRq.buf 0 m.length ≠ m := by
  obtain ⟨u, v, rfl, hu⟩ := List.eq_append_cons_of_mem hm
  have hchunk := recvRequest_chunk (t := v ++ [CR, LF]) hu
    (by simp at hlen ⊢; omega) cs
  rw [List.append_assoc, List.cons_append]
  exact ⟨_, hchunk, rfl, cutFrame_ne u v⟩

/-! ### Requests -/

/-- The requests that a client sends: the type is the one of the header. -/
def ClientRQ.Valid : ClientRQ → Prop
  | .rg rq => getRqType rq.header = REGISTRATION
  | .cl type _ rq => getRqType rq.header = type ∧ NEWPOST ≤ type ∧ type ≤ DOWNLOAD

/-- On a fresh connection the request is received as it was sent. -/
def GetsRequest (cs : List (List UInt8)) (rq : ClientRQ) : Prop :=
  ∃ r rq', recvClientRequest chunkSocket cs .zero = some r ∧ r.code = 0 ∧
    r.clientrq = some rq' ∧ rq'.Same rq

lemma length_fields_clientRQ (rq : ClientRQ) : rq.fields.flatten.length + 2 ≤ BUFSIZ := by
  cases rq with
  | rg rq => simp [ClientRQ.fields, ClientRQRg.fields, PSEUDO_LEN, BUFSIZ]
  | cl type h rq =>
      have := rq.datalen.toNat_lt
      simp [ClientRQ.fields, ClientRQCl.fields, BUFSIZ]
      omega

/-- **Decoding a request** gives it back exactly when the buffer holds its bytes. -/
lemma same_decodeClientrq_iff (b : BytesRQ) {rq : ClientRQ} (hrq : rq.Valid) :
    (decodeClientrq b).Same rq ↔
      read b.buf 0 rq.fields.flatten.length = rq.fields.flatten := by
  cases rq with
  | rg rq =>
      rw [ClientRQ.fields, ← ntohClientrqrg_eq_iff, decodeClientrq]
      constructor
      · intro h
        split at h
        · exact h
        · exact h.elim
      · rintro rfl
        rw [dif_pos (show headType b = REGISTRATION from hrq)]
        rfl
  | cl type h rq =>
      rw [ClientRQ.fields, ← same_ntohClientrqcl_iff, decodeClientrq]
      constructor
      · intro hsame
        split at hsame
        · exact hsame.elim
        · exact hsame.2
      · intro hsame
        have htype : headType b = type := by
          have hheader : ntohs (u16OfBytes (read b.buf 0 2)) = rq.header := hsame.header
          rw [← hrq.1, ← hheader]
          rfl
        rw [dif_neg (by rwa [htype])]
        exact ⟨htype, hsame⟩

/-- A request without `CR` is received as it was sent. -/
lemma getsRequest_of_arrives {rq : ClientRQ} (hrq : rq.Valid) {cs : List (List UInt8)}
    (hcr : CR ∉ rq.fields.flatten) (h : Arrives CR LF BUFSIZ [] cs [rq.fields.flatten]) :
    GetsRequest cs rq := by
  have hlen := length_fields_clientRQ rq
  obtain ⟨r, -, -, hr, hcode, hread, -⟩ := recvRequest_message h ⟨hcr, by omega⟩
  rw [bytesOf_nil] at hr
  refine ⟨⟨0, some (decodeClientrq r.bytesRq), r.rbytesRq, r.sock⟩, _, ?_, rfl, rfl,
    (same_decodeClientrq_iff r.bytesRq hrq).mpr hread⟩
  rw [recvClientRequest, hr, Option.map_some, if_neg (by simpa using hcode)]

/-- A request with a `CR` that arrives in one chunk is not received as it was sent. -/
lemma notMem_of_getsRequest {rq : ClientRQ} (hrq : rq.Valid)
    (h : GetsRequest [rq.fields.flatten ++ [CR, LF]] rq) : CR ∉ rq.fields.flatten := by
  intro hcr
  obtain ⟨r, rq', hr, -, hrq', hsame⟩ := h
  obtain ⟨r₀, hr₀, hcode, hread⟩ := recvRequest_chunk_of_mem hcr (length_fields_clientRQ rq) []
  rw [recvClientRequest, hr₀, Option.map_some, if_neg (by simpa using hcode),
    Option.some.injEq] at hr
  subst hr
  rw [Option.some.injEq] at hrq'
  subst hrq'
  exact hread ((same_decodeClientrq_iff r₀.bytesRq hrq).mp hsame)

/-! ### Answers -/

/-- An answer: the entry of the header and the posts behind it. -/
structure Reply where
  head : ServerRQ
  posts : List ServerRQLp

/-- The entries behind the pointer `serverrq`. -/
def Reply.entry (r : Reply) : ℕ → Option ServerRQ
  | 0 => some r.head
  | i + 1 => (r.posts[i]?).map fun lp => ⟨0, .lp lp⟩

/-- The bytes of the fields of an entry. -/
def ServerBody.fields : ServerBody → List (List UInt8)
  | .cl rq => rq.fields
  | .sb rq => rq.fields
  | .lp rq => rq.fields

/-- The messages of an answer. -/
def Reply.messages (r : Reply) : List (List UInt8) :=
  r.head.body.fields.flatten :: r.posts.map fun lp => lp.fields.flatten

/-- The answers of the server: the type is the one of the header, the member of the union is the one
of the type, and the count of a `LASTPOSTS` is the number of posts. -/
inductive Reply.Valid : Reply → Prop
  | plain (cl : ServerRQCl) (h : isPlain (getRqType cl.header)) :
      Valid ⟨⟨getRqType cl.header, .cl cl⟩, []⟩
  | lastPosts (cl : ServerRQCl) (posts : List ServerRQLp) (h : getRqType cl.header = LASTPOSTS)
      (hcount : cl.count.toNat = posts.length) : Valid ⟨⟨LASTPOSTS, .cl cl⟩, posts⟩
  | subscribe (sb : ServerRQSb) (h : getRqType sb.header = SUBSCRIBE) :
      Valid ⟨⟨SUBSCRIBE, .sb sb⟩, []⟩

/-- On a fresh connection the answer is received as it was sent. -/
def GetsReply (junk : ℕ → UInt8) (dErrno : UInt16) (cs : List (List UInt8)) (r : Reply) : Prop :=
  ∃ res, recvServerRequest junk chunkSocket cs .zero dErrno = some res ∧ res.code = 0 ∧
    res.serverrq = some r.head ∧ List.Forall₂ ServerRQLp.Same res.posts r.posts

lemma length_fields_serverRQLp (lp : ServerRQLp) : lp.fields.flatten.length + 2 ≤ BUFSIZ := by
  have := lp.datalen.toNat_lt
  simp [ServerRQLp.fields, PSEUDO_LEN, BUFSIZ]
  omega

lemma length_fields_serverBody (b : ServerBody) : b.fields.flatten.length + 2 ≤ BUFSIZ := by
  cases b with
  | cl rq => simp [ServerBody.fields, ServerRQCl.fields, BUFSIZ]
  | sb rq => simp [ServerBody.fields, ServerRQSb.fields, ADDRMULT_LEN, BUFSIZ]
  | lp rq => exact length_fields_serverRQLp rq

lemma length_messages (r : Reply) : ∀ m ∈ r.messages, m.length + 2 ≤ BUFSIZ := by
  intro m hm
  rcases List.mem_cons.mp hm with rfl | hm
  · exact length_fields_serverBody _
  · obtain ⟨lp, -, rfl⟩ := List.mem_map.mp hm
    exact length_fields_serverRQLp lp

lemma terminated_eq (b : BytesRQ) : terminated b = b.frame ++ [CR, LF] := by
  simp [terminated]

lemma lpEntries_entry (head : ServerRQ) (pre posts : List ServerRQLp) :
    lpEntries (Reply.mk head (pre ++ posts)).entry (pre.length + 1) posts.length = some posts := by
  induction posts generalizing pre with
  | nil => rfl
  | cons lp posts ih =>
      have htail := ih (pre ++ [lp])
      rw [List.append_assoc, List.length_append, List.length_singleton] at htail
      rw [List.length_cons, lpEntries]
      simp only [Reply.entry, List.getElem?_append_right le_rfl, Nat.sub_self,
        List.getElem?_cons_zero, Option.map_some, Option.bind_some, ServerBody.lp?]
      exact congrArg (Option.map (lp :: ·)) htail

/-- The messages of an answer are sent in order, each with its terminator. -/
lemma sendServerRequest_eq {r : Reply} (hr : r.Valid) :
    sendServerRequest (fun _ => true) r.entry =
      some (0, r.messages.map fun m => m ++ [CR, LF]) := by
  cases hr with
  | plain cl h =>
      simp [sendServerRequest, Reply.entry, h, ServerBody.cl?, sendAll_true, terminated_eq,
        Reply.messages, ServerBody.fields]
  | lastPosts cl posts h hcount =>
      have hposts := lpEntries_entry ⟨LASTPOSTS, .cl cl⟩ [] posts
      rw [List.nil_append, List.length_nil, Nat.zero_add, ← hcount] at hposts
      have hhead : (Reply.mk ⟨LASTPOSTS, .cl cl⟩ posts).entry 0 = some ⟨LASTPOSTS, .cl cl⟩ := rfl
      simp [sendServerRequest, hhead, ServerBody.cl?, sendAll_true, terminated_eq,
        Reply.messages, ServerBody.fields, hposts, show isPlain LASTPOSTS = false from rfl]
  | subscribe sb h =>
      simp [sendServerRequest, Reply.entry, ServerBody.sb?, sendAll_true, terminated_eq,
        Reply.messages, ServerBody.fields, show isPlain SUBSCRIBE = false from rfl,
        show SUBSCRIBE ≠ LASTPOSTS by decide]

section Answers

variable (junk : ℕ → UInt8)

/-- Posts without `CR` are received as they were sent. -/
lemma recvPosts_of_arrives (posts : List ServerRQLp) :
    ∀ {l : List UInt8} {cs : List (List UInt8)},
      Arrives CR LF BUFSIZ l cs (posts.map fun lp => lp.fields.flatten) →
      (∀ lp ∈ posts, CR ∉ lp.fields.flatten) →
      ∃ lps rb s, recvPosts junk chunkSocket posts.length cs (bytesOf l) = some (0, lps, rb, s) ∧
        List.Forall₂ ServerRQLp.Same lps posts := by
  induction posts with
  | nil => exact fun _ _ => ⟨[], _, _, rfl, .nil⟩
  | cons lp posts ih =>
      intro l cs h hcr
      have hlen := length_fields_serverRQLp lp
      obtain ⟨r, l', cs', hr, hcode, hread, hrb, hsock, hrest⟩ :=
        recvRequest_message h ⟨hcr lp (by simp), by change lp.fields.flatten.length < _; omega⟩
      obtain ⟨lps, rb, s, hlps, hsame⟩ := ih hrest fun x hx => hcr x (List.mem_cons_of_mem _ hx)
      refine ⟨ntohServerrqlp junk r.bytesRq :: lps, rb, s, ?_,
        .cons ((same_ntohServerrqlp_iff junk r.bytesRq lp).mpr hread) hsame⟩
      rw [List.length_cons, recvPosts, hr, Option.bind_some, if_neg (by simpa using hcode), hrb,
        hsock, hlps]
      rfl

/-- Posts of which each arrives in one chunk, and which are received as they were sent, are free of
`CR`. -/
lemma notMem_of_recvPosts (posts : List ServerRQLp) :
    ∀ {p : UInt8 × List ServerRQLp × BytesRQ × List (List UInt8)},
      recvPosts junk chunkSocket posts.length
        (posts.map fun lp => lp.fields.flatten ++ [CR, LF]) .zero = some p →
      List.Forall₂ ServerRQLp.Same p.2.1 posts → ∀ lp ∈ posts, CR ∉ lp.fields.flatten := by
  induction posts with
  | nil => simp
  | cons lp posts ih =>
      intro p hp hsame
      have hlen := length_fields_serverRQLp lp
      by_cases hcr : CR ∈ lp.fields.flatten
      · obtain ⟨r, hr, hcode, hread⟩ := recvRequest_chunk_of_mem hcr hlen
          (posts.map fun lp => lp.fields.flatten ++ [CR, LF])
        rw [List.length_cons, recvPosts, List.map_cons, hr, Option.bind_some,
          if_neg (by simpa using hcode)] at hp
        obtain ⟨q, -, rfl⟩ := Option.map_eq_some_iff.mp hp
        cases hsame with
        | cons hlp _ => exact absurd ((same_ntohServerrqlp_iff junk r.bytesRq lp).mp hlp) hread
      · obtain ⟨r, hr, hcode, -, hrb, hsock⟩ := recvRequest_chunk_of_notMem hcr hlen
          (posts.map fun lp => lp.fields.flatten ++ [CR, LF])
        rw [List.length_cons, recvPosts, List.map_cons, hr, Option.bind_some,
          if_neg (by simpa using hcode), hrb, hsock] at hp
        obtain ⟨q, hq, rfl⟩ := Option.map_eq_some_iff.mp hp
        cases hsame with
        | cons _ htail => exact List.forall_mem_cons.mpr ⟨hcr, ih hq htail⟩

/-- The type is the one of the header that is decoded. -/
lemma headType_of_cl {b : BytesRQ} {cl : ServerRQCl} (h : ntohServerrqcl b = cl) :
    headType b = getRqType cl.header := by
  rw [← h]
  rfl

lemma headType_of_sb {b : BytesRQ} {sb : ServerRQSb} (h : ntohServerrqsb b = sb) :
    headType b = getRqType sb.header := by
  rw [← h]
  rfl

/-- An answer without `CR` is received as it was sent. -/
lemma getsReply_of_arrives (dErrno : UInt16) {r : Reply} (hr : r.Valid) {cs : List (List UInt8)}
    (hcr : ∀ m ∈ r.messages, CR ∉ m) (h : Arrives CR LF BUFSIZ [] cs r.messages) :
    GetsReply junk dErrno cs r := by
  have hlen := length_fields_serverBody r.head.body
  obtain ⟨q, l', cs', hq, hcode, hread, hrb, hsock, hrest⟩ :=
    recvRequest_message h ⟨hcr _ (by simp [Reply.messages]), by omega⟩
  rw [bytesOf_nil] at hq
  rw [GetsReply, recvServerRequest, hq]
  simp only [Option.bind_some, if_neg (show ¬q.exit.code ≠ 0 by simpa using hcode)]
  cases hr with
  | plain cl hplain =>
      have hcl := (ntohServerrqcl_eq_iff q.bytesRq cl).mpr hread
      rw [headType_of_cl hcl, if_pos hplain, hcl]
      exact ⟨_, rfl, rfl, rfl, .nil⟩
  | lastPosts cl posts htype hcount =>
      have hcl := (ntohServerrqcl_eq_iff q.bytesRq cl).mpr hread
      obtain ⟨lps, rb, s, hlps, hsame⟩ := recvPosts_of_arrives junk posts hrest
        fun lp hlp => hcr _ (List.mem_cons_of_mem _ (List.mem_map_of_mem hlp))
      rw [headType_of_cl hcl, htype, if_neg (by decide), if_pos rfl, hcl, hcount, hrb, hsock, hlps]
      exact ⟨_, rfl, rfl, rfl, hsame⟩
  | subscribe sb htype =>
      have hsb := (ntohServerrqsb_eq_iff q.bytesRq sb).mpr hread
      rw [headType_of_sb hsb, htype, if_neg (by decide), if_neg (by decide), if_pos rfl, hsb]
      exact ⟨_, rfl, rfl, rfl, .nil⟩

/-- The entry that is received was read from the buffer of the first request. -/
lemma read_of_serverrq {σ : Type} {sock : Socket σ} {s : σ} {rb : BytesRQ} {dErrno : UInt16}
    {q : Received σ} {res : ServerReceived σ} {rq : ServerRQ}
    (hq : recvRequest sock s rb = some q)
    (hres : recvServerRequest junk sock s rb dErrno = some res)
    (hrq : res.serverrq = some rq) :
    read q.bytesRq.buf 0 rq.body.fields.flatten.length = rq.body.fields.flatten := by
  rw [recvServerRequest, hq, Option.bind_some] at hres
  have hcl := (ntohServerrqcl_eq_iff q.bytesRq _).mp rfl
  have hsb := (ntohServerrqsb_eq_iff q.bytesRq _).mp rfl
  split at hres
  · cases hres
    cases hrq
  · simp only at hres
    split at hres
    · cases hres
      cases hrq
      exact hcl
    · split at hres
      · obtain ⟨p, -, rfl⟩ := Option.map_eq_some_iff.mp hres
        cases hrq
        exact hcl
      · split at hres
        · cases hres
          cases hrq
          exact hsb
        · cases hres
          cases hrq

/-- The posts that are received behind a header without `CR`. -/
lemma recvPosts_of_recvServerRequest {cs : List (List UInt8)} {dErrno : UInt16}
    {q : Received (List (List UInt8))} {res : ServerReceived (List (List UInt8))} {cl : ServerRQCl}
    (htype : getRqType cl.header = LASTPOSTS)
    (hq : recvRequest chunkSocket cs .zero = some q) (hcode : q.exit.code = 0)
    (hcl : ntohServerrqcl q.bytesRq = cl)
    (hres : recvServerRequest junk chunkSocket cs .zero dErrno = some res) :
    ∃ p, recvPosts junk chunkSocket cl.count.toNat q.sock q.rbytesRq = some p ∧
      p.2.1 = res.posts := by
  rw [recvServerRequest, hq, Option.bind_some, if_neg (by simpa using hcode)] at hres
  simp only [headType_of_cl hcl, htype, hcl] at hres
  rw [if_neg (by decide), if_pos trivial] at hres
  obtain ⟨p, hp, rfl⟩ := Option.map_eq_some_iff.mp hres
  exact ⟨p, hp, rfl⟩

/-- An answer whose messages arrive in one chunk each, and which is received as it was sent, is free
of `CR`. -/
lemma notMem_of_getsReply {dErrno : UInt16} {r : Reply} (hr : r.Valid)
    (h : GetsReply junk dErrno (r.messages.map fun m => m ++ [CR, LF]) r) :
    ∀ m ∈ r.messages, CR ∉ m := by
  obtain ⟨res, hres, -, hhead, hposts⟩ := h
  have hlen := length_fields_serverBody r.head.body
  have hcr : CR ∉ r.head.body.fields.flatten := by
    intro hcr
    obtain ⟨q, hq, -, hread⟩ := recvRequest_chunk_of_mem hcr hlen
      ((r.posts.map fun lp => lp.fields.flatten).map fun m => m ++ [CR, LF])
    exact hread (read_of_serverrq junk hq hres hhead)
  obtain ⟨q, hq, hcode, hread, hrb, hsock⟩ := recvRequest_chunk_of_notMem hcr hlen
    ((r.posts.map fun lp => lp.fields.flatten).map fun m => m ++ [CR, LF])
  refine List.forall_mem_cons.mpr ⟨hcr, ?_⟩
  cases hr with
  | plain cl hplain => simp
  | subscribe sb htype => simp
  | lastPosts cl posts htype hcount =>
      have hcl := (ntohServerrqcl_eq_iff q.bytesRq cl).mpr hread
      obtain ⟨p, hp, hpp⟩ := recvPosts_of_recvServerRequest junk htype hq hcode hcl hres
      rw [hrb, hsock, hcount, List.map_map] at hp
      rw [← hpp] at hposts
      simpa using notMem_of_recvPosts junk posts hp hposts

end Answers

/-! ### Both directions -/

/-- **The round trip over TCP**: a request, and an answer with any number of posts, is received as
it was sent from any chunks that do not separate a terminator exactly when no byte of its fields is
a `CR`. -/
theorem round_trip_iff {rq : ClientRQ} (hrq : rq.Valid) (junk : ℕ → UInt8) (dErrno : UInt16)
    {r : Reply} (hr : r.Valid) :
    (∃ m, sendClientRequest true rq = (0, m ++ [CR, LF]) ∧
      ((∀ cs, Arrives CR LF BUFSIZ [] cs [m] → GetsRequest cs rq) ↔ ∀ f ∈ rq.fields, CR ∉ f)) ∧
    ∃ ms, sendServerRequest (fun _ => true) r.entry = some (0, ms.map fun m => m ++ [CR, LF]) ∧
      ((∀ cs, Arrives CR LF BUFSIZ [] cs ms → GetsReply junk dErrno cs r) ↔
        (∀ f ∈ r.head.body.fields, CR ∉ f) ∧ ∀ lp ∈ r.posts, ∀ f ∈ lp.fields, CR ∉ f) := by
  have hflat : ∀ fs : List (List UInt8), CR ∉ fs.flatten ↔ ∀ f ∈ fs, CR ∉ f := by simp
  constructor
  · refine ⟨_, sendClientRequest_eq rq, ?_⟩
    rw [← hflat]
    constructor
    · intro h
      have hlen := length_fields_clientRQ rq
      have hms : ∀ m ∈ [rq.fields.flatten], m.length + 2 ≤ BUFSIZ := by simpa using hlen
      have harr := arrives_messages (show LF ≠ CR by decide) hms
      exact notMem_of_getsRequest hrq (h _ harr)
    · intro hcr cs harr
      exact getsRequest_of_arrives hrq hcr harr
  · refine ⟨_, sendServerRequest_eq hr, ?_⟩
    have hmem : (∀ m ∈ r.messages, CR ∉ m) ↔
        (∀ f ∈ r.head.body.fields, CR ∉ f) ∧ ∀ lp ∈ r.posts, ∀ f ∈ lp.fields, CR ∉ f := by
      rw [Reply.messages, List.forall_mem_cons, hflat, List.forall_mem_map]
      simp only [hflat]
    rw [← hmem]
    constructor
    · intro h
      exact notMem_of_getsReply junk hr
        (h _ (arrives_messages (by decide) (length_messages r)))
    · intro hcr cs harr
      exact getsReply_of_arrives junk dErrno hr hcr harr

/-- A post of 13 bytes: its length is the delimiter. -/
def thirteen : ClientRQ := .cl NEWPOST newpost_ne ⟨mkHeader NEWPOST 1, 0, 0, 13, fun _ => 97⟩

/-- The post of 13 bytes is cut at its length. -/
theorem not_getsRequest_thirteen :
    thirteen.Valid ∧
      sendClientRequest true thirteen = (0, thirteen.fields.flatten ++ [CR, LF]) ∧
      Arrives CR LF BUFSIZ [] [thirteen.fields.flatten ++ [CR, LF]] [thirteen.fields.flatten] ∧
      ¬GetsRequest [thirteen.fields.flatten ++ [CR, LF]] thirteen := by
  have hvalid : thirteen.Valid := ⟨by decide, by decide, by decide⟩
  have hlen := length_fields_clientRQ thirteen
  refine ⟨hvalid, sendClientRequest_eq thirteen, ?_, fun h => ?_⟩
  · have hms : ∀ m ∈ [thirteen.fields.flatten], m.length + 2 ≤ BUFSIZ := by simpa using hlen
    exact arrives_messages (by decide) hms
  · exact notMem_of_getsRequest hvalid h (by decide)

/-- The round trip of a registration and of an answer with one post, both free of `CR`. -/
theorem round_trip_iff_one :
    (∃ m, sendClientRequest true (.rg ⟨mkHeader REGISTRATION 0, .replicate PSEUDO_LEN 35⟩) =
        (0, m ++ [CR, LF]) ∧
      ((∀ cs, Arrives CR LF BUFSIZ [] cs [m] →
          GetsRequest cs (.rg ⟨mkHeader REGISTRATION 0, .replicate PSEUDO_LEN 35⟩)) ↔
        ∀ f ∈ (ClientRQ.rg ⟨mkHeader REGISTRATION 0, .replicate PSEUDO_LEN 35⟩).fields, CR ∉ f)) ∧
    ∃ ms, sendServerRequest (fun _ => true) (Reply.mk ⟨LASTPOSTS, .cl ⟨mkHeader LASTPOSTS 1, 1, 1⟩⟩
        [⟨1, .replicate PSEUDO_LEN 35, .replicate PSEUDO_LEN 35, 2, fun _ => 97⟩]).entry =
        some (0, ms.map fun m => m ++ [CR, LF]) ∧
      ((∀ cs, Arrives CR LF BUFSIZ [] cs ms → GetsReply (fun _ => 0) 0 cs
          ⟨⟨LASTPOSTS, .cl ⟨mkHeader LASTPOSTS 1, 1, 1⟩⟩,
            [⟨1, .replicate PSEUDO_LEN 35, .replicate PSEUDO_LEN 35, 2, fun _ => 97⟩]⟩) ↔
        (∀ f ∈ (ServerBody.cl ⟨mkHeader LASTPOSTS 1, 1, 1⟩).fields, CR ∉ f) ∧
          ∀ lp ∈ [(⟨1, .replicate PSEUDO_LEN 35, .replicate PSEUDO_LEN 35, 2,
            fun _ => 97⟩ : ServerRQLp)], ∀ f ∈ lp.fields, CR ∉ f) :=
  round_trip_iff (by rfl) _ _ (.lastPosts _ _ (by decide) rfl)

end Megaphone
