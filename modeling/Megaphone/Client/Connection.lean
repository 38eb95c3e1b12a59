import Megaphone.Network.Decode

/-!
The exchanges of a client, each over a connection of its own (`handle_client_connection` of
`tcp_client.c`): what one of them leaves for the next.

* `Exchange`, `carryOver`: a history of exchanges, and the carry-over buffer of
  `recv_server_request` behind it; the buffer is static and outlives the connections.
* `SameReplies`: two histories after which every connection gives the same answer.
* `recvServerRequest_clean`: one exchange ends and leaves a clean buffer, whatever is received.
* `connection_unaffected_iff`: the earlier connections have no effect exactly when they leave the
  carry-over buffer empty.
-/

namespace Megaphone

open Memory Framing

variable {σ : Type}

/-! ### Histories of exchanges -/

/-- An exchange as `recv_server_request` sees it: a socket that was opened for it, and what is on
the stack. -/
structure Exchange where
  σ : Type
  sock : Socket σ
  s : σ
  junk : ℕ → UInt8

/-- `recv_server_request` in an exchange; `handle_client_connection` has cleared `d_errno`. -/
def Exchange.recv (x : Exchange) (rbRq : BytesRQ) : Option (ServerReceived x.σ) :=
  recvServerRequest x.junk x.sock x.s rbRq NOERROR

/-- The carry-over buffer behind the exchanges of a list. -/
def carryOver : List Exchange → BytesRQ → Option BytesRQ
  | [], rbRq => some rbRq
  | x :: hs, rbRq => (x.recv rbRq).bind fun r => carryOver hs r.rbRq

/-- Two results with the same return code and the same answer. -/
structure ServerReceived.SameReply (r r' : ServerReceived σ) : Prop where
  code : r.code = r'.code
  serverrq : r.serverrq = r'.serverrq
  posts : List.Forall₂ ServerRQLp.Same r.posts r'.posts

/-- On every new connection on which `recv` returns, the next answer is the same after the one
history and after the other, whatever is on the stack. -/
def SameReplies (hs hs' : List Exchange) : Prop :=
  ∀ (σ : Type) (sock : Socket σ) (s : σ) (junk junk' : ℕ → UInt8), sock.Returns →
    ∃ r r', (carryOver hs .zero).bind (Exchange.mk σ sock s junk).recv = some r ∧
      (carryOver hs' .zero).bind (Exchange.mk σ sock s junk').recv = some r' ∧ r.SameReply r'

/-- A history that leaves no bytes for the next connection. -/
def LeavesNothing (hs : List Exchange) : Prop := carryOver hs .zero = some .zero

/-! ### One exchange -/

lemma ServerRQLp.Same.refl (rq : ServerRQLp) : rq.Same rq := ⟨rfl, rfl, rfl, rfl, rfl⟩

/-- The stack does not show in a post that is decoded. -/
lemma same_ntohServerrqlp (junk junk' : ℕ → UInt8) (b : BytesRQ) :
    (ntohServerrqlp junk b).Same (ntohServerrqlp junk' b) :=
  (same_ntohServerrqlp_iff junk b _).mpr ((same_ntohServerrqlp_iff junk' b _).mp (.refl _))

/-- A call that returns leaves a clean carry-over buffer. -/
lemma clean_of_recvRequest {sock : Socket σ} {s : σ} {rb : BytesRQ} {r : Received σ} (h : rb.Clean)
    (hr : recvRequest sock s rb = some r) : r.rbytesRq.Clean := by
  obtain ⟨r', hr', hreads, hleaves, hlen⟩ | ⟨-, hnone⟩ := recvRequest_reads sock s h
  · cases hr.symm.trans hr'
    obtain ⟨d, hd⟩ := hleaves.conserves hreads hlen
    exact hd.clean
  · cases hr.symm.trans hnone

lemma clean_of_recvPosts {junk : ℕ → UInt8} {sock : Socket σ} {n : ℕ} {s : σ} {rb : BytesRQ}
    {p : UInt8 × List ServerRQLp × BytesRQ × σ} (h : rb.Clean)
    (hp : recvPosts junk sock n s rb = some p) : p.2.2.1.Clean := by
  induction n generalizing s rb p with
  | zero =>
      cases hp
      exact h
  | succ n ih =>
      obtain ⟨r, hr, hp⟩ := Option.bind_eq_some_iff.mp hp
      have hclean := clean_of_recvRequest h hr
      split at hp
      · cases hp
        exact hclean
      · obtain ⟨p', hp', rfl⟩ := Option.map_eq_some_iff.mp hp
        have hclean' : p'.2.2.1.Clean := ih hclean hp'
        exact hclean'

/-- So does an exchange that comes to its end. -/
lemma clean_of_recvServerRequest {junk : ℕ → UInt8} {sock : Socket σ} {s : σ} {rb : BytesRQ}
    {dErrno : UInt16} {r : ServerReceived σ} (h : rb.Clean)
    (hr : recvServerRequest junk sock s rb dErrno = some r) : r.rbRq.Clean := by
  obtain ⟨q, hq, hr⟩ := Option.bind_eq_some_iff.mp hr
  have hclean := clean_of_recvRequest h hq
  split at hr
  · cases hr
    exact hclean
  · dsimp only at hr
    split at hr
    · cases hr
      exact hclean
    · split at hr
      · obtain ⟨p, hp, rfl⟩ := Option.map_eq_some_iff.mp hr
        exact clean_of_recvPosts hclean hp
      · split at hr
        · cases hr
          exact hclean
        · cases hr
          exact hclean

/-- The posts, by their number. -/
lemma recvPosts_same (junk junk' : ℕ → UInt8) {sock : Socket σ} (hsock : sock.Returns) (n : ℕ)
    (s : σ) {rb : BytesRQ} (h : rb.Clean) :
    ∃ p p', recvPosts junk sock n s rb = some p ∧ recvPosts junk' sock n s rb = some p' ∧
      p.1 = p'.1 ∧ List.Forall₂ ServerRQLp.Same p.2.1 p'.2.1 ∧ p.2.2 = p'.2.2 := by
  induction n generalizing s rb with
  | zero => exact ⟨_, _, rfl, rfl, rfl, .nil, rfl⟩
  | succ n ih =>
      obtain ⟨r, hr, -⟩ := recvRequest_leaves h (hsock.not_recvBlocks s _)
      by_cases hcode : r.exit.code = 0
      · obtain ⟨p, p', hp, hp', hfst, hposts, hrest⟩ := ih r.sock (clean_of_recvRequest h hr)
        simp only [recvPosts, hr, Option.bind_some, hcode, ne_eq, not_true_eq_false, if_false, hp,
          hp', Option.map_some]
        exact ⟨_, _, rfl, rfl, hfst, .cons (same_ntohServerrqlp _ _ _) hposts, hrest⟩
      · simp only [recvPosts, hr, Option.bind_some, ne_eq, hcode, not_false_eq_true, if_true]
        exact ⟨_, _, rfl, rfl, rfl, .nil, rfl⟩

/-- **One exchange** on a clean carry-over buffer, when every call of `recv` returns: its result
does not depend on what is on the stack. -/
lemma recvServerRequest_same (junk junk' : ℕ → UInt8) {sock : Socket σ} (hsock : sock.Returns)
    (s : σ) {rb : BytesRQ} (dErrno : UInt16) (h : rb.Clean) :
    ∃ r r', recvServerRequest junk sock s rb dErrno = some r ∧
      recvServerRequest junk' sock s rb dErrno = some r' ∧ r.SameReply r' := by
  obtain ⟨q, hq, -⟩ := recvRequest_leaves h (hsock.not_recvBlocks s _)
  simp only [recvServerRequest, hq, Option.bind_some]
  split
  · exact ⟨_, _, rfl, rfl, ⟨rfl, rfl, .nil⟩⟩
  · split
    · exact ⟨_, _, rfl, rfl, ⟨rfl, rfl, .nil⟩⟩
    · split
      · obtain ⟨p, p', hp, hp', hcode, hposts, -⟩ := recvPosts_same junk junk' hsock
          (ntohServerrqcl q.bytesRq).count.toNat q.sock (clean_of_recvRequest h hq)
        rw [hp, hp']
        exact ⟨_, _, rfl, rfl, ⟨hcode, rfl, hposts⟩⟩
      · split
        · exact ⟨_, _, rfl, rfl, ⟨rfl, rfl, .nil⟩⟩
        · exact ⟨_, _, rfl, rfl, ⟨rfl, rfl, .nil⟩⟩

/-- A history that comes to its end leaves a clean buffer, by induction on its exchanges. -/
lemma clean_of_carryOver {hs : List Exchange} {rb rb' : BytesRQ} (h : rb.Clean)
    (hcarry : carryOver hs rb = some rb') : rb'.Clean := by
  induction hs generalizing rb with
  | nil =>
      cases hcarry
      exact h
  | cons x hs ih =>
      obtain ⟨r, hr, hcarry⟩ := Option.bind_eq_some_iff.mp hcarry
      exact ih (clean_of_recvServerRequest h hr) hcarry

/-- Two histories that leave the same bytes. -/
lemma sameReplies_of_carryOver {hs hs' : List Exchange} {rb : BytesRQ} (hclean : rb.Clean)
    (h : carryOver hs .zero = some rb) (h' : carryOver hs' .zero = some rb) :
    SameReplies hs hs' := by
  intro σ sock s junk junk' hsock
  obtain ⟨r, r', hr, hr', hsame⟩ := recvServerRequest_same junk junk' hsock s NOERROR hclean
  refine ⟨r, r', ?_, ?_, hsame⟩
  · rw [h]
    exact hr
  · rw [h']
    exact hr'

/-! ### Bytes that are left -/

/-- The first byte of the request, when the first byte that has arrived is not a `CR`. -/
lemma buf_zero_of_ne {a : UInt8} (ha : a ≠ CR) {u : List UInt8} {q : Received σ}
    (h : q.Leaves (a :: u)) : q.bytesRq.buf 0 = a := by
  cases h with
  | @cut f t hl hf _ hbytes _ =>
      cases f with
      | nil => exact absurd (List.cons.inj hl).1 ha
      | cons b f =>
          obtain rfl := (List.cons.inj hl).1
          have hget := getElem?_read (cutFrame (a :: f) t).buf 0
            (show 0 < (a :: f).length from Nat.succ_pos _)
          have hframe : read (cutFrame (a :: f) t).buf 0 (a :: f).length = a :: f :=
            frame_cutFrame (a :: f) t
          rw [hframe] at hget
          rw [hbytes]
          exact (Option.some.inj hget).symm
  | whole _ _ hbytes _ =>
      rw [hbytes]
      exact ofList_of_lt (l := a :: u) 0 (Nat.succ_pos _)

/-- The first byte of the request, when the first byte that has arrived is a `CR`. -/
lemma buf_zero_of_CR {u : List UInt8} {q : Received σ} (h : q.Leaves (CR :: u)) :
    q.bytesRq.buf 0 = 0 ∨ q.bytesRq.buf 0 = CR := by
  cases h with
  | @cut f t hl hf _ hbytes _ =>
      cases f with
      | nil =>
          rw [hbytes]
          exact fill_cases (ofList (CR :: t) 0) _ _ 0 0
      | cons b f => exact absurd ((List.cons.inj hl).1 ▸ List.mem_cons_self) hf
  | whole hcr _ _ _ => exact absurd List.mem_cons_self hcr

/-- The answer to a registration that assigns the identifier `id`. -/
def registrationReply (id : UInt16) : Reply :=
  ⟨⟨REGISTRATION, .cl ⟨mkHeader REGISTRATION id, 0, 0⟩⟩, []⟩

/-- The first byte of an answer is the first of those that were left, or what a cut at this byte
makes of it.  For one of the identifiers `1` and `8` it is not the first byte of the answer that
assigns the identifier. -/
lemma exists_id {rb : BytesRQ} (hclean : rb.Clean) (hne : rb ≠ .zero) :
    ∃ id : UInt16, (id = 1 ∨ id = 8) ∧ ∀ (σ : Type) (sock : Socket σ) (s : σ) (q : Received σ),
      recvRequest sock s rb = some q → q.bytesRq.buf 0 ≠ hi (mkHeader REGISTRATION id) := by
  have hone : hi (mkHeader REGISTRATION 1) = 0 := by decide
  have height : hi (mkHeader REGISTRATION 8) = 1 := by decide
  have hleaves : ∀ (σ : Type) (sock : Socket σ) (s : σ) (q : Received σ),
      recvRequest sock s rb = some q → ∃ u, q.Leaves (rb.frame ++ u) := by
    intro σ sock s q hq
    obtain ⟨hl, -, harriving⟩ := leaves_of_recvRequest hclean hq
    exact ⟨q.got, harriving ▸ hl⟩
  cases hframe : rb.frame with
  | nil =>
      rw [hclean.eq_bytesOf, hframe, bytesOf_nil] at hne
      exact absurd rfl hne
  | cons a l =>
      rw [hframe] at hleaves
      by_cases ha : a = CR
      · subst ha
        refine ⟨8, .inr rfl, fun σ sock s q hq => ?_⟩
        obtain ⟨u, hu⟩ := hleaves σ sock s q hq
        rw [height]
        rcases buf_zero_of_CR hu with h | h <;> rw [h] <;> decide
      · have hbuf : ∀ (σ : Type) (sock : Socket σ) (s : σ) (q : Received σ),
            recvRequest sock s rb = some q → q.bytesRq.buf 0 = a := by
          intro σ sock s q hq
          obtain ⟨u, hu⟩ := hleaves σ sock s q hq
          exact buf_zero_of_ne ha hu
        by_cases hzero : a = 0
        · refine ⟨8, .inr rfl, fun σ sock s q hq => ?_⟩
          rw [hbuf σ sock s q hq, height, hzero]
          decide
        · refine ⟨1, .inl rfl, fun σ sock s q hq => ?_⟩
          rwa [hbuf σ sock s q hq, hone]

/-- The two answers are received as they are sent on a first connection. -/
lemma getsReply_registrationReply (junk : ℕ → UInt8) {id : UInt16} (hid : id = 1 ∨ id = 8) :
    GetsReply junk NOERROR ((registrationReply id).messages.map fun m => m ++ [CR, LF])
      (registrationReply id) := by
  have hvalid : (registrationReply id).Valid := by
    rcases hid with rfl | rfl
    · exact .plain ⟨mkHeader REGISTRATION 1, 0, 0⟩ (by decide)
    · exact .plain ⟨mkHeader REGISTRATION 8, 0, 0⟩ (by decide)
  refine getsReply_of_arrives junk NOERROR hvalid ?_
    (arrives_messages (by decide) (length_messages _))
  rcases hid with rfl | rfl <;> decide

/-- **What is left shows**: when a history leaves bytes, there is a connection on which the next
answer is not the one that a client without earlier exchanges receives. -/
lemma not_sameReplies_of_carryOver {hs : List Exchange} {rb : BytesRQ} (hclean : rb.Clean)
    (h : carryOver hs .zero = some rb) (hne : rb ≠ .zero) : ¬SameReplies [] hs := by
  intro hsame
  obtain ⟨id, hid, hbuf⟩ := exists_id hclean hne
  obtain ⟨res, hres, -, hserverrq, -⟩ := getsReply_registrationReply (fun _ => 0) hid
  obtain ⟨r, r', hr, hr', heq⟩ := hsame _ chunkSocket
    ((registrationReply id).messages.map fun m => m ++ [CR, LF]) (fun _ => 0) (fun _ => 0)
    returns_chunkSocket
  have hrres : r = res := Option.some.inj (hr.symm.trans hres)
  rw [h] at hr'
  obtain ⟨q, hq, -⟩ := recvRequest_leaves hclean (returns_chunkSocket.not_recvBlocks
    ((registrationReply id).messages.map fun m => m ++ [CR, LF]) _)
  have hread := read_of_serverrq (fun _ => 0) hq hr'
    (heq.serverrq.symm.trans (hrres ▸ hserverrq))
  exact hbuf _ _ _ _ hq (List.cons.inj hread).1

/-- **Connections and earlier ones**: over a set of histories, the one without exchanges among them,
the answer on every new connection is the same after any two exactly when each of them leaves
nothing in the carry-over buffer. -/
theorem connection_unaffected_iff {H : Set (List Exchange)} (hnil : [] ∈ H) :
    (∀ hs ∈ H, ∀ hs' ∈ H, SameReplies hs hs') ↔ ∀ hs ∈ H, LeavesNothing hs := by
  constructor
  · intro hsame hs hmem
    have hreplies := hsame [] hnil hs hmem
    obtain ⟨-, r', -, hr', -⟩ := hreplies _ chunkSocket [] (fun _ => 0) (fun _ => 0)
      returns_chunkSocket
    obtain ⟨rb, hrb, -⟩ := Option.bind_eq_some_iff.mp hr'
    by_contra hleaves
    refine not_sameReplies_of_carryOver (clean_of_carryOver clean_zero hrb) hrb ?_ hreplies
    rintro rfl
    exact hleaves hrb
  · intro hleaves hs hmem hs' hmem'
    exact sameReplies_of_carryOver clean_zero (hleaves hs hmem) (hleaves hs' hmem')

/-- An earlier answer and one byte behind it. -/
def extraByte : List Exchange :=
  [⟨_, chunkSocket, [[0, 0x21, 0, 0, 0, 0, CR, LF, 65]], fun _ => 0⟩]

/-- The histories of a client that has had no exchange or this one. -/
theorem connection_unaffected_iff_extraByte :
    (∀ hs ∈ ({[], extraByte} : Set (List Exchange)), ∀ hs' ∈ ({[], extraByte} : Set _),
      SameReplies hs hs') ↔ ∀ hs ∈ ({[], extraByte} : Set (List Exchange)), LeavesNothing hs :=
  connection_unaffected_iff (Set.mem_insert _ _)

/-- The byte behind the earlier answer begins the next one. -/
theorem not_sameReplies_extraByte : ¬SameReplies [] extraByte := by
  have hchunk : recvRequest chunkSocket [[0, 0x21, 0, 0, 0, 0, CR, LF, 65]] .zero =
      some ⟨.delimiter, cutFrame [0, 0x21, 0, 0, 0, 0] [LF, 65], bytesOf [65], [],
        [0, 0x21, 0, 0, 0, 0, CR, LF, 65]⟩ :=
    recvRequest_chunk (f := [0, 0x21, 0, 0, 0, 0]) (t := [LF, 65]) (by decide) (by decide) []
  have hcarry : carryOver extraByte .zero = some (bytesOf [65]) := by
    rw [extraByte, carryOver, Exchange.recv, recvServerRequest, hchunk]
    rfl
  refine not_sameReplies_of_carryOver (clean_bytesOf (by decide)) hcarry fun h => ?_
  exact absurd (congrArg BytesRQ.size h) (by decide)

end Megaphone
