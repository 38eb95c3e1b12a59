import Megaphone.Library.Framing
import Megaphone.Library.Machine
import Megaphone.Network.Request

/-!
`recv_request` of `request.c`: one request is cut out of a TCP stream, and the bytes behind it are
carried over to the next call.

* `Socket`: what successive calls of `recv` return is up to the other side, and whether they do.
* `cutBuffer`, `recvLoop`, `recvRequest`: the function.  A write outside of the `BUFSIZ` bytes of a
  buffer, a length that wraps around below zero, or a call of `recv` that never returns makes the
  result `none`.
* `BytesRQ.Clean`: the invariant of the carry-over buffer, at most `BUFSIZ` bytes and zeros behind
  them.  `bytesOf` makes such a buffer of a list, and every such buffer is made so.
* `arriving`, `RecvFails`, `RecvBlocks`: the bytes that are in the buffer when the function stops
  reading, and when a call of `recv` fails or never returns before.
* `Reads`: the calls of `recv` that the function makes, and what they return.
* `Received.Leaves`, `recvRequest_leaves`: what it makes of them, in its two branches.
* `recvRequest_conserves`, `recvCalls_conserves`: no byte is lost, duplicated or reordered.
* `chunkSocket`, `recvRequest_chunks`: the streams that arrive in given chunks, on which the
  function is the reader of `Framing`.
-/

namespace Megaphone

open Memory

/-! ### Sockets -/

/-- The result of a call of `recv`: the bytes received, none of them at the end of the stream; or
`-1`, with `errno` saying that there is nothing to read yet, or something else.  On a socket that
blocks, as those of `accept` do, a call does not return as long as nothing arrives and the other
side does not close. -/
inductive RecvResult
  | data (bs : List UInt8)
  | wouldBlock
  | error
  | blocks

/-- A socket in a state of the type `σ`: `recv` never returns more bytes than it is asked for. -/
structure Socket (σ : Type) where
  recv : σ → ℕ → RecvResult × σ
  recv_le : ∀ s len bs s', recv s len = (.data bs, s') → bs.length ≤ len

/-- Every call of `recv` returns. -/
def Socket.Returns {σ : Type} (sock : Socket σ) : Prop := ∀ s len, (sock.recv s len).1 ≠ .blocks

/-- `recv` on a socket on which the chunks of a list arrive, before the end of the stream.  What a
call leaves of a chunk is for the next one. -/
def chunkRecv : List (List UInt8) → ℕ → RecvResult × List (List UInt8)
  | [], _ => (.data [], [])
  | c :: cs, len => (.data (c.take len), if c.length ≤ len then cs else c.drop len :: cs)

/-- The socket on which the chunks of a list arrive. -/
def chunkSocket : Socket (List (List UInt8)) where
  recv := chunkRecv
  recv_le s len bs s' h := by
    cases s <;> simp only [chunkRecv, Prod.mk.injEq, RecvResult.data.injEq] at h <;> simp [← h.1]

lemma returns_chunkSocket : chunkSocket.Returns := by
  intro s len
  cases s <;> nofun

/-! ### `recv_request` -/

/-- The difference of two values of the type `size_t`. -/
def sizeSub (a b : ℕ) : ℕ := if b ≤ a then a - b else 2 ^ 64 + a - b

/-- The byte number `i` counted from the start of `buf`: behind the buffer lie the bytes of `size`,
the lowest first. -/
def BytesRQ.byte (b : BytesRQ) (i : ℕ) : UInt8 :=
  if i < BUFSIZ then b.buf i else UInt8.ofNat (b.size / 256 ^ (i - BUFSIZ))

/-- `memchr(bytes_rq->buf, CRLF[0], bytes_rq->size)`. -/
def BytesRQ.findCR (b : BytesRQ) : Option ℕ := b.frame.findIdx? (· == CR)

/-- The delimiter branch: the request is what precedes the `CR` at `startlen`, and what follows the
delimiter is moved to the carry-over buffer, which is empty before.  `fin` is the offset that `end`
points to. -/
def cutBuffer (b : BytesRQ) (startlen : ℕ) : Option (BytesRQ × BytesRQ) :=
  let isCrlf := b.byte (startlen + 1) == LF
  let fin := if isCrlf then startlen + 1 else startlen
  let endlen := sizeSub (sizeSub b.size startlen) 1
  let endlen := if isCrlf then sizeSub endlen 1 else endlen
  if fin + 1 + endlen ≤ BUFSIZ then
    some (⟨fill b.buf fin endlen 0, startlen⟩,
      ⟨write BytesRQ.zero.buf 0 (read b.buf (fin + 1) endlen), endlen⟩)
  else none

/-- Which branch of `recv_request` returned. -/
inductive Exit
  | delimiter
  | wouldBlock
  | closed
  | error
  deriving DecidableEq

/-- What a call leaves: the request, the carry-over buffer, the state of the socket, and the bytes
that `recv` returned during the call, which the function itself does not keep. -/
structure Received (σ : Type) where
  exit : Exit
  bytesRq : BytesRQ
  rbytesRq : BytesRQ
  sock : σ
  got : List UInt8

variable {σ : Type}

/-- The loop of `recv_request`, on the buffer `b` after receiving the bytes `got`. -/
def recvLoop (sock : Socket σ) (s : σ) (b : BytesRQ) (got : List UInt8) : Option (Received σ) :=
  match b.findCR with
  | some startlen =>
      (cutBuffer b startlen).map fun p => ⟨.delimiter, p.1, p.2, s, got⟩
  | none =>
      match sock.recv s (sizeSub BUFSIZ b.size) with
      | (.wouldBlock, s') => some ⟨.wouldBlock, b, .zero, s', got⟩
      | (.error, s') => some ⟨.error, b, .zero, s', got⟩
      | (.blocks, _) => none
      | (.data bs, s') =>
          if bs = [] then some ⟨.closed, b, .zero, s', got⟩
          else if _h : b.size + bs.length ≤ BUFSIZ then
            recvLoop sock s' ⟨write b.buf b.size bs, b.size + bs.length⟩ (got ++ bs)
          else none
termination_by BUFSIZ - b.size
decreasing_by
  have := List.length_pos_of_ne_nil ‹¬ bs = []›
  omega

/-- `recv_request`: the carry-over buffer of the last call is the beginning of the request. -/
def recvRequest (sock : Socket σ) (s : σ) (rbytesRq : BytesRQ) : Option (Received σ) :=
  recvLoop sock s rbytesRq []

/-- The return code of `recv_request`. -/
def Exit.code : Exit → UInt8
  | .error => 1
  | _ => 0

/-- `n` successive calls. -/
def recvCalls (sock : Socket σ) : ℕ → σ → BytesRQ → Option (List (Received σ))
  | 0, _, _ => some []
  | n + 1, s, rb =>
      (recvRequest sock s rb).bind fun r =>
        (recvCalls sock n r.sock r.rbytesRq).map (r :: ·)

/-! ### Clean buffers -/

/-- The invariant of the carry-over buffer. -/
structure BytesRQ.Clean (b : BytesRQ) : Prop where
  size_le : b.size ≤ BUFSIZ
  tail_zero : ∀ i, b.size ≤ i → b.buf i = 0

/-- The buffer that holds `l`, and zeros behind it. -/
def bytesOf (l : List UInt8) : BytesRQ := ⟨ofList l 0, l.length⟩

@[simp] lemma frame_bytesOf (l : List UInt8) : (bytesOf l).frame = l := read_ofList l 0

@[simp] lemma size_bytesOf (l : List UInt8) : (bytesOf l).size = l.length := rfl

@[simp] lemma bytesOf_nil : bytesOf [] = BytesRQ.zero := by simp [bytesOf, BytesRQ.zero]

lemma clean_bytesOf {l : List UInt8} (h : l.length ≤ BUFSIZ) : (bytesOf l).Clean :=
  ⟨h, fun _ hi => ofList_of_ge 0 hi⟩

lemma BytesRQ.length_frame (b : BytesRQ) : b.frame.length = b.size := by simp [BytesRQ.frame]

lemma BytesRQ.Clean.eq_bytesOf {b : BytesRQ} (h : b.Clean) : b = bytesOf b.frame := by
  obtain ⟨buf, size⟩ := b
  have := eq_ofList_read h.tail_zero
  simp only [bytesOf, BytesRQ.mk.injEq, BytesRQ.length_frame, and_true]
  exact this

/-- Receiving behind the bytes of a buffer. -/
lemma write_bytesOf (l bs : List UInt8) :
    (⟨write (bytesOf l).buf (bytesOf l).size bs, (bytesOf l).size + bs.length⟩ : BytesRQ) =
      bytesOf (l ++ bs) := by
  simp [bytesOf, write_ofList]

/-! ### One cut -/

lemma findCR_eq_none {b : BytesRQ} : b.findCR = none ↔ CR ∉ b.frame := by
  simp [BytesRQ.findCR, List.findIdx?_eq_none_iff]
  constructor
  · exact fun h hmem => h CR hmem rfl
  · rintro h x hx rfl
    exact h hx

lemma findCR_bytesOf {f t : List UInt8} (hf : CR ∉ f) :
    (bytesOf (f ++ CR :: t)).findCR = some f.length := by
  have hnone : f.findIdx? (· == CR) = none := by
    rw [List.findIdx?_eq_none_iff]
    intro x hx
    simp only [beq_eq_false_iff_ne, ne_eq]
    rintro rfl
    exact hf hx
  simp [BytesRQ.findCR, List.findIdx?_append, hnone, List.findIdx?_cons]

lemma cut_bytesOf_eq_none {l : List UInt8} (h : CR ∉ l) : (bytesOf l).findCR = none :=
  findCR_eq_none.mpr (by rwa [frame_bytesOf])

/-- The look-ahead `end[1]` behind a `CR` that ends the buffer never sees a `LF`: it reads a zero,
or the low byte of `size` when the buffer is full. -/
lemma byte_bytesOf_of_eq {l : List UInt8} (hlen : l.length ≤ BUFSIZ) :
    (bytesOf l).byte l.length = 0 := by
  rcases Nat.lt_or_ge l.length BUFSIZ with h | h
  · rw [BytesRQ.byte, if_pos h]
    exact ofList_of_ge 0 le_rfl
  · rw [BytesRQ.byte, if_neg (by omega), size_bytesOf, show l.length = BUFSIZ by omega]
    decide

lemma byte_bytesOf_of_lt {l : List UInt8} (hlen : l.length ≤ BUFSIZ) {i : ℕ} (h : i < l.length) :
    (bytesOf l).byte i = l[i] := by
  rw [BytesRQ.byte, if_pos (by omega)]
  exact ofList_of_lt 0 h

/-- What is read behind a `CR`, as the carry-over buffer keeps it. -/
lemma write_zero_read {l : List UInt8} {n len : ℕ} (h : n + len = l.length) :
    (⟨write BytesRQ.zero.buf 0 (read (bytesOf l).buf n len), len⟩ : BytesRQ) =
      bytesOf (l.drop n) := by
  obtain rfl : len = l.length - n := by omega
  have hread : read (bytesOf l).buf n (l.length - n) = l.drop n :=
    read_ofList_drop l 0 (by omega)
  have hzero : BytesRQ.zero.buf = ofList [] 0 := by simp [BytesRQ.zero]
  have hwrite := write_ofList [] (l.drop n) (0 : UInt8)
  rw [List.length_nil, List.nil_append] at hwrite
  rw [hread, hzero, hwrite, bytesOf, List.length_drop]

/-- The request that the delimiter branch leaves of `f`, a `CR` and `t`: as many bytes as are
carried over are cleared, from the `LF` on or, without one, from the `CR` on. -/
def cutFrame (f t : List UInt8) : BytesRQ :=
  ⟨fill (ofList (f ++ CR :: t) 0) (if t.head? = some LF then f.length + 1 else f.length)
    (Framing.dropLf LF t).length 0, f.length⟩

@[simp] lemma frame_cutFrame (f t : List UInt8) : (cutFrame f t).frame = f := by
  have hstart : 0 + f.length ≤ if t.head? = some LF then f.length + 1 else f.length := by
    split <;> omega
  rw [BytesRQ.frame, cutFrame, read_fill_of_le _ 0 hstart]
  refine Eq.trans (read_congr fun i _ hi => ?_) (read_ofList f 0)
  rw [Nat.zero_add] at hi
  rw [ofList_of_lt 0 (by simp; omega), ofList_of_lt 0 hi, List.getElem_append_left]

/-- **The delimiter branch** on a clean buffer. -/
lemma cutBuffer_bytesOf {f t : List UInt8} (hlen : (f ++ CR :: t).length ≤ BUFSIZ) :
    cutBuffer (bytesOf (f ++ CR :: t)) f.length =
      some (cutFrame f t, bytesOf (Framing.dropLf LF t)) := by
  have hsize : (bytesOf (f ++ CR :: t)).size = f.length + 1 + t.length := by
    simp only [size_bytesOf, List.length_append, List.length_cons]
    omega
  have hend : sizeSub (sizeSub (bytesOf (f ++ CR :: t)).size f.length) 1 = t.length := by
    rw [hsize, sizeSub, sizeSub, if_pos (show f.length ≤ f.length + 1 + t.length by omega),
      if_pos (by omega)]
    omega
  by_cases hlf : t.head? = some LF
  · obtain ⟨u, rfl⟩ := List.head?_eq_some_iff.mp hlf
    have hbyte : (bytesOf (f ++ CR :: LF :: u)).byte (f.length + 1) = LF := by
      rw [byte_bytesOf_of_lt (by simpa using hlen) (by simp)]
      simp
    have hulen : f.length + 1 + 1 + u.length = (f ++ CR :: LF :: u).length := by
      simp
      omega
    have hdrop := write_zero_read hulen
    have hsub : sizeSub (LF :: u).length 1 = u.length := by simp [sizeSub]
    have hrest : (f ++ [CR, LF] ++ u).drop (f.length + 1 + 1) = u := List.drop_left' (by simp)
    rw [List.append_assoc, List.cons_append, List.singleton_append] at hrest
    rw [List.length_append, List.length_cons, List.length_cons] at hlen
    simp only [cutBuffer, hend, hbyte, beq_self_eq_true, if_true, hsub]
    rw [if_pos (by omega), hdrop, hrest]
    simp [bytesOf, cutFrame]
  · have hbyte : (bytesOf (f ++ CR :: t)).byte (f.length + 1) ≠ LF := by
      cases t with
      | nil =>
          have := byte_bytesOf_of_eq (l := f ++ [CR]) (by simpa using hlen)
          simp only [List.length_append, List.length_singleton] at this
          rw [this]
          decide
      | cons a t =>
          rw [byte_bytesOf_of_lt (by simpa using hlen) (by simp)]
          simpa using hlf
    have htlen : f.length + 1 + t.length = (f ++ CR :: t).length := by
      simp
      omega
    have hdrop := write_zero_read htlen
    have hkeep : Framing.dropLf LF t = t := by
      cases t with
      | nil => rfl
      | cons a t =>
          rw [Framing.dropLf, if_neg (by simpa using hlf)]
    have hrest : (f ++ CR :: t).drop (f.length + 1) = t := by simp [List.drop_append]
    rw [List.length_append, List.length_cons] at hlen
    simp only [cutBuffer, hend, beq_eq_false_iff_ne.mpr hbyte, if_false, hkeep,
      Bool.false_eq_true]
    rw [if_pos (by omega), hdrop, hrest]
    simp [bytesOf, cutFrame, hlf, hkeep]

/-! ### The bytes that arrive -/

/-- The bytes that are in the buffer when a call of `recv_request` stops reading, on a carry-over
buffer that holds `l`: it reads until there is a `CR`, until the buffer is full, or until `recv`
returns no bytes. -/
def arriving (sock : Socket σ) (s : σ) (l : List UInt8) : List UInt8 :=
  if CR ∈ l then l
  else
    match sock.recv s (BUFSIZ - l.length) with
    | (.data bs, s') =>
        if bs = [] then l
        else if _h : l.length + bs.length ≤ BUFSIZ then arriving sock s' (l ++ bs)
        else l
    | _ => l
termination_by BUFSIZ - l.length
decreasing_by
  have := List.length_pos_of_ne_nil ‹¬ bs = []›
  rw [List.length_append]
  omega

/-- The calls of `recv` come to one with the result `res` before there is a `CR`, the buffer is
full, or `recv` returns no bytes; `l` is in the buffer. -/
inductive RecvComesTo (sock : Socket σ) (res : RecvResult) : σ → List UInt8 → Prop
  | here {s s' : σ} {l : List UInt8} (hcr : CR ∉ l)
      (h : sock.recv s (BUFSIZ - l.length) = (res, s')) : RecvComesTo sock res s l
  | more {s s' : σ} {l bs : List UInt8} (hcr : CR ∉ l)
      (h : sock.recv s (BUFSIZ - l.length) = (.data bs, s')) (hbs : bs ≠ [])
      (hmore : RecvComesTo sock res s' (l ++ bs)) : RecvComesTo sock res s l

/-- A call of `recv` fails. -/
def RecvFails (sock : Socket σ) (s : σ) (l : List UInt8) : Prop := RecvComesTo sock .error s l

/-- A call of `recv` never returns. -/
def RecvBlocks (sock : Socket σ) (s : σ) (l : List UInt8) : Prop := RecvComesTo sock .blocks s l

lemma Socket.Returns.not_recvBlocks {sock : Socket σ} (h : sock.Returns) (s : σ) (l : List UInt8) :
    ¬RecvBlocks sock s l := by
  intro hblocks
  rw [RecvBlocks] at hblocks
  induction hblocks with
  | @here s s' l _ hrecv => exact h s (BUFSIZ - l.length) (by rw [hrecv])
  | more _ _ _ _ ih => exact ih

/-- The calls of `recv` of one call of `recv_request`, on a buffer that holds `l`: the branch
through which the function returns, the bytes that are received, and the state of the socket behind
them. -/
inductive Reads (sock : Socket σ) : σ → List UInt8 → Exit → List UInt8 → σ → Prop
  | delimiter {s : σ} {l : List UInt8} (hcr : CR ∈ l) : Reads sock s l .delimiter [] s
  | wouldBlock {s s' : σ} {l : List UInt8} (hcr : CR ∉ l)
      (h : sock.recv s (BUFSIZ - l.length) = (.wouldBlock, s')) : Reads sock s l .wouldBlock [] s'
  | error {s s' : σ} {l : List UInt8} (hcr : CR ∉ l)
      (h : sock.recv s (BUFSIZ - l.length) = (.error, s')) : Reads sock s l .error [] s'
  | closed {s s' : σ} {l : List UInt8} (hcr : CR ∉ l)
      (h : sock.recv s (BUFSIZ - l.length) = (.data [], s')) : Reads sock s l .closed [] s'
  | more {s s₁ s' : σ} {l bs got : List UInt8} {exit : Exit} (hcr : CR ∉ l)
      (h : sock.recv s (BUFSIZ - l.length) = (.data bs, s₁)) (hbs : bs ≠ [])
      (hmore : Reads sock s₁ (l ++ bs) exit got s') : Reads sock s l exit (bs ++ got) s'

/-- The bytes in the buffer are those that were there and those received. -/
lemma Reads.arriving_eq {sock : Socket σ} {s s' : σ} {l got : List UInt8} {exit : Exit}
    (h : Reads sock s l exit got s') : arriving sock s l = l ++ got := by
  induction h with
  | delimiter hcr => rw [arriving, if_pos hcr, List.append_nil]
  | wouldBlock hcr hrecv | error hcr hrecv =>
      rw [arriving, if_neg hcr, hrecv, List.append_nil]
  | closed hcr hrecv =>
      rw [arriving, if_neg hcr, hrecv, List.append_nil]
      rfl
  | @more s s₁ s' l bs got exit hcr hrecv hbs _ ih =>
      have hle := sock.recv_le s _ bs s₁ hrecv
      have hpos := List.length_pos_of_ne_nil hbs
      rw [arriving, if_neg hcr, hrecv]
      simp only [if_neg hbs]
      rw [dif_pos (by omega), ih, List.append_assoc]

/-- Which results of `recv` the calls come to, by the branch. -/
lemma Reads.recvComesTo_iff {sock : Socket σ} {s s' : σ} {l got : List UInt8} {exit : Exit}
    (h : Reads sock s l exit got s') :
    (RecvFails sock s l ↔ exit = .error) ∧ ¬RecvBlocks sock s l := by
  rw [RecvFails, RecvBlocks]
  have hhere : ∀ {s s' : σ} {l : List UInt8} {res res' : RecvResult},
      sock.recv s (BUFSIZ - l.length) = (res, s') → (∀ bs, res = .data bs → bs = []) →
      RecvComesTo sock res' s l → res = res' := by
    intro s s' l res res' hrecv hdata hcomes
    cases hcomes with
    | here _ h' => exact (Prod.mk.inj (hrecv.symm.trans h')).1
    | more _ h' hbs _ => exact absurd (hdata _ (Prod.mk.inj (hrecv.symm.trans h')).1) hbs
  have hcut : ∀ {s : σ} {l : List UInt8} {res : RecvResult}, CR ∈ l →
      ¬RecvComesTo sock res s l := by
    intro s l res hcr hcomes
    cases hcomes with
    | here hno _ => exact hno hcr
    | more hno _ _ _ => exact hno hcr
  induction h with
  | delimiter hcr => exact ⟨iff_of_false (hcut hcr) nofun, hcut hcr⟩
  | wouldBlock hcr hrecv =>
      exact ⟨iff_of_false (fun h => nomatch hhere hrecv nofun h) nofun,
        fun h => nomatch hhere hrecv nofun h⟩
  | error hcr hrecv =>
      exact ⟨iff_of_true (.here hcr hrecv) rfl, fun h => nomatch hhere hrecv nofun h⟩
  | closed hcr hrecv =>
      have hnil : ∀ bs, RecvResult.data [] = .data bs → bs = [] :=
        fun bs heq => (RecvResult.data.inj heq).symm
      exact ⟨iff_of_false (fun h => nomatch hhere hrecv hnil h) nofun,
        fun h => nomatch hhere hrecv hnil h⟩
  | @more s s₁ s' l bs got exit hcr hrecv hbs _ ih =>
      have hmore : ∀ res, (∀ bs', res ≠ .data bs') → (RecvComesTo sock res s l ↔
          RecvComesTo sock res s₁ (l ++ bs)) := by
        intro res hres
        refine ⟨fun hcomes => ?_, .more hcr hrecv hbs⟩
        cases hcomes with
        | here _ h' => exact absurd (Prod.mk.inj (hrecv.symm.trans h')).1.symm (hres bs)
        | more _ h' _ hmore =>
            obtain ⟨heq, rfl⟩ := Prod.mk.inj (hrecv.symm.trans h')
            rwa [RecvResult.data.inj heq]
      rw [hmore .error fun _ => nofun, hmore .blocks fun _ => nofun]
      exact ih

/-- What a call leaves when the bytes `l` have arrived: without a `CR` all of them are the request,
and otherwise those in front of it. -/
inductive Received.Leaves (r : Received σ) (l : List UInt8) : Prop
  | cut {f t : List UInt8} (hl : l = f ++ CR :: t) (hf : CR ∉ f) (hexit : r.exit = .delimiter)
      (hbytes : r.bytesRq = cutFrame f t) (hrest : r.rbytesRq = bytesOf (Framing.dropLf LF t))
  | whole (hl : CR ∉ l) (hexit : r.exit ≠ .delimiter) (hbytes : r.bytesRq = bytesOf l)
      (hrest : r.rbytesRq = .zero)

/-- **The loop**, by the room left in the buffer: unless a call of `recv` never returns, it comes to
an end with all writes in bounds. -/
lemma recvLoop_leaves (sock : Socket σ) (k : ℕ) : ∀ s (l got : List UInt8), l.length + k = BUFSIZ →
    (∃ r new, recvLoop sock s (bytesOf l) got = some r ∧ r.got = got ++ new ∧
      Reads sock s l r.exit new r.sock ∧ r.Leaves (l ++ new) ∧ (l ++ new).length ≤ BUFSIZ) ∨
    (RecvBlocks sock s l ∧ recvLoop sock s (bytesOf l) got = none) := by
  induction k using Nat.strong_induction_on with
  | _ k ih =>
      intro s l got hk
      have hlen : l.length ≤ BUFSIZ := by omega
      rw [recvLoop]
      rcases hrecv : sock.recv s (BUFSIZ - l.length) with ⟨res, s'⟩
      by_cases hcr : CR ∈ l
      · obtain ⟨f, t, hl, hf⟩ := List.eq_append_cons_of_mem hcr
        left
        simp only [hl, findCR_bytesOf hf, cutBuffer_bytesOf (hl ▸ hlen), Option.map_some]
        exact ⟨_, [], rfl, (List.append_nil got).symm, .delimiter (by simp),
          .cut (List.append_nil _) hf rfl rfl rfl, by rw [List.append_nil, ← hl]; exact hlen⟩
      · have hsub : sizeSub BUFSIZ (bytesOf l).size = BUFSIZ - l.length := by
          rw [size_bytesOf, sizeSub, if_pos (by omega)]
        have hwhole : ∀ {r : Received σ}, r.exit ≠ .delimiter → r.bytesRq = bytesOf l →
            r.rbytesRq = .zero → r.Leaves (l ++ []) := by
          intro r hexit hbytes hrest
          rw [List.append_nil]
          exact .whole hcr hexit hbytes hrest
        have hlen' : (l ++ []).length ≤ BUFSIZ := by rwa [List.append_nil]
        rw [cut_bytesOf_eq_none hcr, hsub, hrecv]
        cases res with
        | wouldBlock =>
            exact .inl ⟨_, [], rfl, (List.append_nil got).symm, .wouldBlock hcr hrecv,
              hwhole nofun rfl rfl, hlen'⟩
        | error =>
            exact .inl ⟨_, [], rfl, (List.append_nil got).symm, .error hcr hrecv,
              hwhole nofun rfl rfl, hlen'⟩
        | blocks => exact .inr ⟨.here hcr hrecv, rfl⟩
        | data bs =>
            have hle := sock.recv_le s _ bs s' hrecv
            by_cases hbs : bs = []
            · subst hbs
              exact .inl ⟨_, [], rfl, (List.append_nil got).symm, .closed hcr hrecv,
                hwhole nofun rfl rfl, hlen'⟩
            · have hpos := List.length_pos_of_ne_nil hbs
              have hroom : (bytesOf l).size + bs.length ≤ BUFSIZ := by
                rw [size_bytesOf]
                omega
              simp only [if_neg hbs, dif_pos hroom, write_bytesOf]
              obtain ⟨r, new, hr, hgot, hreads, hleaves, hfull⟩ | ⟨hblocks, hr⟩ :=
                ih (k - bs.length) (by omega) s' (l ++ bs) (got ++ bs) (by
                  rw [List.length_append]
                  omega)
              · rw [List.append_assoc] at hleaves hfull hgot
                exact .inl ⟨r, bs ++ new, hr, hgot, .more hcr hrecv hbs hreads, hleaves, hfull⟩
              · exact .inr ⟨.more hcr hrecv hbs hblocks, hr⟩

/-- **One call** on a clean carry-over buffer. -/
lemma recvRequest_reads (sock : Socket σ) (s : σ) {rb : BytesRQ} (h : rb.Clean) :
    (∃ r, recvRequest sock s rb = some r ∧ Reads sock s rb.frame r.exit r.got r.sock ∧
      r.Leaves (rb.frame ++ r.got) ∧ (rb.frame ++ r.got).length ≤ BUFSIZ) ∨
    (RecvBlocks sock s rb.frame ∧ recvRequest sock s rb = none) := by
  have hlen : rb.frame.length + (BUFSIZ - rb.frame.length) = BUFSIZ := by
    have := h.size_le
    rw [rb.length_frame]
    omega
  have hloop := recvLoop_leaves sock _ s rb.frame [] hlen
  rw [← h.eq_bytesOf] at hloop
  obtain ⟨r, new, hr, hgot, hleaves⟩ | hblocks := hloop
  · rw [List.nil_append] at hgot
    subst hgot
    exact .inl ⟨r, hr, hleaves⟩
  · exact .inr hblocks

/-- What a call that returns leaves, by the bytes that arrive. -/
lemma leaves_of_recvRequest {sock : Socket σ} {s : σ} {rb : BytesRQ} {r : Received σ}
    (h : rb.Clean) (hr : recvRequest sock s rb = some r) :
    r.Leaves (arriving sock s rb.frame) ∧ (r.exit = .error ↔ RecvFails sock s rb.frame) ∧
      arriving sock s rb.frame = rb.frame ++ r.got := by
  obtain ⟨r', hr', hreads, hleaves, -⟩ | ⟨-, hnone⟩ := recvRequest_reads sock s h
  · cases hr.symm.trans hr'
    rw [hreads.arriving_eq]
    exact ⟨hleaves, hreads.recvComesTo_iff.1.symm, rfl⟩
  · cases hr.symm.trans hnone

/-- A call returns when every call of `recv` does. -/
lemma recvRequest_leaves {sock : Socket σ} {s : σ} {rb : BytesRQ} (h : rb.Clean)
    (hreturns : ¬RecvBlocks sock s rb.frame) :
    ∃ r, recvRequest sock s rb = some r ∧ r.Leaves (arriving sock s rb.frame) ∧
      (r.exit = .error ↔ RecvFails sock s rb.frame) ∧
      arriving sock s rb.frame = rb.frame ++ r.got := by
  obtain ⟨r, hr, -⟩ | ⟨hblocks, -⟩ := recvRequest_reads sock s h
  · exact ⟨r, hr, leaves_of_recvRequest h hr⟩
  · exact absurd hblocks hreturns

/-- It never returns when a call of `recv` does not. -/
lemma recvRequest_eq_none {sock : Socket σ} {s : σ} {rb : BytesRQ} (h : rb.Clean)
    (hblocks : RecvBlocks sock s rb.frame) : recvRequest sock s rb = none := by
  obtain ⟨r, -, hreads, -⟩ | ⟨-, hnone⟩ := recvRequest_reads sock s h
  · exact absurd hblocks hreads.recvComesTo_iff.2
  · exact hnone

/-! ### Conservation -/

/-- What one call does to the stream, on the carry-over buffer `rb` and the socket in the state `s`:
the bytes carried over and those that its calls of `recv` return are the request, a delimiter `d`
and the bytes carried over to the next call.  The delimiter is `CR LF`, or a `CR` that no `LF`
follows.  Outside of the delimiter branch the request is all of the bytes. -/
structure Received.Conserves (sock : Socket σ) (s : σ) (r : Received σ) (rb : BytesRQ)
    (d : List UInt8) : Prop where
  reads : Reads sock s rb.frame r.exit r.got r.sock
  stream : rb.frame ++ r.got = r.bytesRq.frame ++ d ++ r.rbytesRq.frame
  delimiter : r.exit = .delimiter →
    (d = [CR, LF] ∨ (d = [CR] ∧ r.rbytesRq.frame.head? ≠ some LF)) ∧ CR ∉ r.bytesRq.frame
  whole : r.exit ≠ .delimiter → d = [] ∧ r.rbytesRq = .zero
  clean : r.rbytesRq.Clean

lemma clean_zero : BytesRQ.zero.Clean := ⟨Nat.zero_le _, fun _ _ => rfl⟩

/-- What a call leaves conserves the stream. -/
lemma Received.Leaves.conserves {sock : Socket σ} {s : σ} {r : Received σ} {rb : BytesRQ}
    (h : r.Leaves (rb.frame ++ r.got)) (hreads : Reads sock s rb.frame r.exit r.got r.sock)
    (hlen : (rb.frame ++ r.got).length ≤ BUFSIZ) : ∃ d, r.Conserves sock s rb d := by
  cases h with
  | @cut f t hl hf hexit hbytes hrest =>
      have hframe : r.bytesRq.frame = f := by rw [hbytes, frame_cutFrame]
      have hrestframe : r.rbytesRq.frame = Framing.dropLf LF t := by rw [hrest, frame_bytesOf]
      rw [hl, List.length_append, List.length_cons] at hlen
      have hclean : r.rbytesRq.Clean := by
        have hle : (Framing.dropLf LF t).length ≤ t.length := Framing.length_dropLf_le t
        rw [hrest]
        exact clean_bytesOf (by omega)
      by_cases hlf : t.head? = some LF
      · obtain ⟨u, rfl⟩ := List.head?_eq_some_iff.mp hlf
        have hdrop : Framing.dropLf LF (LF :: u) = u := by rw [Framing.dropLf, if_pos rfl]
        refine ⟨[CR, LF], hreads, ?_, fun _ => ⟨.inl rfl, hframe ▸ hf⟩, fun h => absurd hexit h,
          hclean⟩
        rw [hl, hframe, hrestframe, hdrop]
        simp
      · have hkeep : Framing.dropLf LF t = t := by
          cases t with
          | nil => rfl
          | cons a t => rw [Framing.dropLf, if_neg (by simpa using hlf)]
        refine ⟨[CR], hreads, ?_, fun _ => ⟨.inr ⟨rfl, ?_⟩, hframe ▸ hf⟩,
          fun h => absurd hexit h, hclean⟩
        · rw [hl, hframe, hrestframe, hkeep]
          simp
        · rw [hrestframe, hkeep]
          exact hlf
  | whole _ hexit hbytes hrest =>
      refine ⟨[], hreads, ?_, fun h => absurd h hexit, fun _ => ⟨rfl, hrest⟩, hrest ▸ clean_zero⟩
      rw [hbytes, hrest, frame_bytesOf]
      simp

/-- One call on a clean carry-over buffer: no byte is lost, duplicated or reordered. -/
lemma recvRequest_conserves {sock : Socket σ} (hsock : sock.Returns) (s : σ) {rb : BytesRQ}
    (h : rb.Clean) : ∃ r d, recvRequest sock s rb = some r ∧ r.Conserves sock s rb d := by
  obtain ⟨r, hr, hreads, hleaves, hlen⟩ | ⟨hblocks, -⟩ := recvRequest_reads sock s h
  · obtain ⟨d, hd⟩ := hleaves.conserves hreads hlen
    exact ⟨r, d, hr, hd⟩
  · exact absurd hblocks (hsock.not_recvBlocks s _)

/-- The calls of a row, each of which conserves the stream with its delimiter and hands the socket
and its carry-over buffer to the next one; `s` and `rb` are handed to the first call, and the last
one leaves `s'` and `rb'`. -/
inductive Conserved (sock : Socket σ) :
    σ → BytesRQ → List (Received σ) → List (List UInt8) → σ → BytesRQ → Prop
  | nil (s : σ) (rb : BytesRQ) : Conserved sock s rb [] [] s rb
  | cons {s s' : σ} {rb rb' : BytesRQ} {r : Received σ} {d : List UInt8} {rs : List (Received σ)}
      {ds : List (List UInt8)} (h : r.Conserves sock s rb d)
      (hrs : Conserved sock r.sock r.rbytesRq rs ds s' rb') :
      Conserved sock s rb (r :: rs) (d :: ds) s' rb'

/-- Over a row of calls, the bytes received are the requests and their delimiters, in order. -/
lemma Conserved.stream {sock : Socket σ} {s s' : σ} {rb rb' : BytesRQ} {rs : List (Received σ)}
    {ds : List (List UInt8)} (h : Conserved sock s rb rs ds s' rb') :
    rb.frame ++ (rs.map (·.got)).flatten =
      (List.zipWith (fun r d => r.bytesRq.frame ++ d) rs ds).flatten ++ rb'.frame := by
  induction h with
  | nil => simp
  | @cons s s' rb rb' r d rs ds h _ ih =>
      calc rb.frame ++ ((r :: rs).map (·.got)).flatten
          = rb.frame ++ r.got ++ (rs.map (·.got)).flatten := by simp
        _ = r.bytesRq.frame ++ d ++ (r.rbytesRq.frame ++ (rs.map (·.got)).flatten) := by
            rw [h.stream, List.append_assoc]
        _ = (List.zipWith (fun r d => r.bytesRq.frame ++ d) (r :: rs) (d :: ds)).flatten ++
              rb'.frame := by
            rw [ih]
            simp

/-- **Conservation**: on a clean carry-over buffer and any socket whose calls of `recv` return,
every call of a row ends, writes in bounds only and leaves a clean buffer, and no byte that `recv`
returns is lost, duplicated or reordered between the requests. -/
theorem recvCalls_conserves {sock : Socket σ} (hsock : sock.Returns) (n : ℕ) (s : σ) {rb : BytesRQ}
    (h : rb.Clean) :
    ∃ rs ds s' rb', recvCalls sock n s rb = some rs ∧ rs.length = n ∧
      Conserved sock s rb rs ds s' rb' ∧ rb'.Clean ∧
      rb.frame ++ (rs.map (·.got)).flatten =
        (List.zipWith (fun r d => r.bytesRq.frame ++ d) rs ds).flatten ++ rb'.frame := by
  induction n generalizing s rb with
  | zero =>
      have hnil : Conserved sock s rb [] [] s rb := .nil s rb
      exact ⟨[], [], s, rb, rfl, rfl, hnil, h, hnil.stream⟩
  | succ n ih =>
      obtain ⟨r, d, hr, hd⟩ := recvRequest_conserves hsock s h
      obtain ⟨rs, ds, s', rb', hrs, hlen, hds, hclean, -⟩ := ih r.sock hd.clean
      have hcons : Conserved sock s rb (r :: rs) (d :: ds) s' rb' := .cons hd hds
      refine ⟨r :: rs, d :: ds, s', rb', ?_, by simp [hlen], hcons, hclean, hcons.stream⟩
      rw [recvCalls, hr, Option.bind_some, hrs]
      rfl

/-- Two calls on a stream whose first delimiter arrives in two pieces. -/
theorem recvCalls_conserves_two :
    ∃ rs ds s' rb', recvCalls chunkSocket 2 [[65, CR], [LF, 66]] .zero = some rs ∧ rs.length = 2 ∧
      Conserved chunkSocket [[65, CR], [LF, 66]] .zero rs ds s' rb' ∧ rb'.Clean ∧
      BytesRQ.zero.frame ++ (rs.map (·.got)).flatten =
        (List.zipWith (fun r d => r.bytesRq.frame ++ d) rs ds).flatten ++ rb'.frame :=
  recvCalls_conserves returns_chunkSocket 2 _ ⟨Nat.zero_le _, fun _ _ => rfl⟩

/-! ### Streams that arrive in chunks -/

/-- A full buffer has room for no byte of the chunk that comes next. -/
lemma chunkRecv_zero {cs : List (List UInt8)} (h : Framing.Fits CR LF BUFSIZ [] cs) :
    chunkRecv cs 0 = (.data [], cs) := by
  cases h with
  | done => rfl
  | cut h => simp [Framing.cut] at h
  | full h hl => simp [BUFSIZ] at hl
  | @read _ c cs h hc =>
      have hpos := List.length_pos_of_ne_nil hc
      simp [chunkRecv, show ¬c.length ≤ 0 by omega]

/-- **The loop on chunks** that fit is the reader of `Framing`. -/
lemma recvLoop_chunks {l : List UInt8} {cs : List (List UInt8)}
    (h : Framing.Fits CR LF BUFSIZ l cs) :
    ∀ got, ∃ r l' cs', recvLoop chunkSocket cs (bytesOf l) got = some r ∧
      Framing.receive CR LF BUFSIZ l cs = (r.bytesRq.frame, l', cs') ∧
      r.rbytesRq = bytesOf l' ∧ r.sock = cs' ∧ Framing.Fits CR LF BUFSIZ l' cs' ∧
      r.exit.code = 0 := by
  induction h with
  | @done l h hl =>
      intro got
      refine ⟨⟨.closed, bytesOf l, .zero, [], got⟩, [], [], ?_, ?_, bytesOf_nil.symm, rfl,
        .done (by simp) (by simp), rfl⟩
      · rw [recvLoop, cut_bytesOf_eq_none h]
        rfl
      · rw [Framing.receive_nil h, frame_bytesOf]
  | @cut l f r cs h hl hr _ =>
      intro got
      obtain ⟨hf, t, rfl, rfl⟩ := Framing.cut_eq_some h
      refine ⟨⟨.delimiter, cutFrame f t, bytesOf (Framing.dropLf LF t), cs, got⟩, _, cs, ?_, ?_,
        rfl, rfl, hr, rfl⟩
      · rw [recvLoop, findCR_bytesOf hf]
        simp only [cutBuffer_bytesOf hl]
        rfl
      · rw [Framing.receive_of_cut h, frame_cutFrame]
  | @full l cs h hl hr _ =>
      intro got
      have hsub : sizeSub BUFSIZ (bytesOf l).size = 0 := by
        rw [size_bytesOf, hl, sizeSub, if_pos le_rfl, Nat.sub_self]
      refine ⟨⟨.closed, bytesOf l, .zero, cs, got⟩, [], cs, ?_, ?_, bytesOf_nil.symm, rfl, hr,
        rfl⟩
      · rw [recvLoop, cut_bytesOf_eq_none h, hsub]
        simp [chunkSocket, chunkRecv_zero hr]
      · rw [Framing.receive_of_full h hl, frame_bytesOf]
  | @read l c cs h hc hl hr ih =>
      intro got
      have hpos := List.length_pos_of_ne_nil hc
      have hsub : sizeSub BUFSIZ (bytesOf l).size = BUFSIZ - l.length := by
        rw [size_bytesOf, sizeSub, if_pos (by omega)]
      have hrecv : chunkSocket.recv (c :: cs) (BUFSIZ - l.length) = (.data c, cs) := by
        simp only [chunkSocket, chunkRecv]
        rw [List.take_of_length_le (by omega), if_pos (by omega)]
      obtain ⟨r, l', cs', h₁, h₂, h₃⟩ := ih (got ++ c)
      refine ⟨r, l', cs', ?_, ?_, h₃⟩
      · have hroom : (bytesOf l).size + c.length ≤ BUFSIZ := hl
        rw [recvLoop, cut_bytesOf_eq_none h, hsub, hrecv]
        simp only [if_neg hc, dif_pos hroom, write_bytesOf]
        exact h₁
      · rw [Framing.receive_cons h hc hl, h₂]

/-- One call on chunks that fit. -/
lemma recvRequest_chunks {l : List UInt8} {cs : List (List UInt8)}
    (h : Framing.Fits CR LF BUFSIZ l cs) :
    ∃ r l' cs', recvRequest chunkSocket cs (bytesOf l) = some r ∧
      Framing.receive CR LF BUFSIZ l cs = (r.bytesRq.frame, l', cs') ∧
      r.rbytesRq = bytesOf l' ∧ r.sock = cs' ∧ Framing.Fits CR LF BUFSIZ l' cs' ∧
      r.exit.code = 0 :=
  recvLoop_chunks h []

/-- The requests that `n` calls cut out of the chunks of a fresh connection. -/
def framesOf (n : ℕ) (cs : List (List UInt8)) : Option (List (List UInt8)) :=
  (recvCalls chunkSocket n cs .zero).map fun rs => rs.map fun r => r.bytesRq.frame

/-- The requests of a row of calls are the frames of the reader. -/
lemma recvCalls_chunks (n : ℕ) {l : List UInt8} {cs : List (List UInt8)}
    (h : Framing.Fits CR LF BUFSIZ l cs) :
    (recvCalls chunkSocket n cs (bytesOf l)).map (fun rs => rs.map fun r => r.bytesRq.frame) =
      some ((List.range n).map fun i => Framing.frame CR LF BUFSIZ i l cs) := by
  induction n generalizing l cs with
  | zero => rfl
  | succ n ih =>
      obtain ⟨r, l', cs', h₁, h₂, h₃, h₄, h₅, -⟩ := recvRequest_chunks h
      have hrec := ih h₅
      rw [recvCalls, h₁, Option.bind_some, h₃, h₄, Option.map_map]
      rw [List.range_succ_eq_map, List.map_cons, List.map_map]
      have htail : (List.range n).map
          ((fun i => Framing.frame CR LF BUFSIZ i l cs) ∘ Nat.succ) =
            (List.range n).map fun i => Framing.frame CR LF BUFSIZ i l' cs' :=
        List.map_congr_left fun i _ => Framing.frame_succ h₂ i
      rw [htail, Framing.frame, h₂]
      rcases hcalls : recvCalls chunkSocket n cs' (bytesOf l') with _ | rs
      · simp [hcalls] at hrec
      · simpa [hcalls] using hrec

lemma framesOf_eq {cs : List (List UInt8)} (h : Framing.Fits CR LF BUFSIZ [] cs) (n : ℕ) :
    framesOf n cs = some ((List.range n).map fun i => Framing.frame CR LF BUFSIZ i [] cs) := by
  rw [framesOf, ← bytesOf_nil, recvCalls_chunks n h]

lemma framesOf_eq_framesOf {cs cs' : List (List UInt8)} (h : Framing.Fits CR LF BUFSIZ [] cs)
    (h' : Framing.Fits CR LF BUFSIZ [] cs') :
    (∀ n, framesOf n cs = framesOf n cs') ↔
      ∀ i, Framing.frame CR LF BUFSIZ i [] cs = Framing.frame CR LF BUFSIZ i [] cs' := by
  simp only [framesOf_eq h, framesOf_eq h', Option.some.injEq]
  constructor
  · intro heq i
    have hget := congrArg (·[i]?) (heq (i + 1))
    simpa using hget
  · exact fun heq n => List.map_congr_left fun i _ => heq i

/-- **Two ways of cutting a stream** of messages give the same requests exactly when they separate
the `CR` from the `LF` behind the same messages. -/
theorem framesOf_eq_iff {ms cs cs' : List (List UInt8)}
    (hms : ∀ m ∈ ms, Framing.IsMessage CR BUFSIZ m)
    (hfit : Framing.Fits CR LF BUFSIZ [] cs) (hfit' : Framing.Fits CR LF BUFSIZ [] cs')
    (hcs : cs.flatten = Framing.wire CR LF ms) (hcs' : cs'.flatten = Framing.wire CR LF ms) :
    (∀ n, framesOf n cs = framesOf n cs') ↔
      Framing.separated cs 0 ms = Framing.separated cs' 0 ms := by
  rw [framesOf_eq_framesOf hfit hfit']
  exact Framing.frame_eq_iff (by decide) (by decide) hms hfit hfit' hcs hcs'

section Straddle

/-- Two messages that arrive in one chunk. -/
lemma fits_whole : Framing.Fits CR LF BUFSIZ [] [[65, CR, LF, 66, CR, LF]] :=
  .read (by decide) (by decide) (by decide)
    (.cut rfl (by decide) (.cut rfl (by decide) (.done (by decide) (by decide))))

/-- The same messages in two chunks, the first of which ends behind the first `CR`. -/
lemma fits_straddle : Framing.Fits CR LF BUFSIZ [] [[65, CR], [LF, 66, CR, LF]] :=
  .read (by decide) (by decide) (by decide)
    (.cut rfl (by decide) (.read (by decide) (by decide) (by decide)
      (.cut rfl (by decide) (.done (by decide) (by decide)))))

/-- The late `LF` leads the second request. -/
theorem framesOf_straddle :
    (∀ m ∈ [[65], [66]], Framing.IsMessage CR BUFSIZ m) ∧
      Framing.Fits CR LF BUFSIZ [] [[65, CR, LF, 66, CR, LF]] ∧
      Framing.Fits CR LF BUFSIZ [] [[65, CR], [LF, 66, CR, LF]] ∧
      [[65, CR, LF, 66, CR, LF]].flatten = Framing.wire CR LF [[65], [66]] ∧
      [[65, CR], [LF, 66, CR, LF]].flatten = Framing.wire CR LF [[65], [66]] ∧
      framesOf 2 [[65, CR, LF, 66, CR, LF]] = some [[65], [66]] ∧
      framesOf 2 [[65, CR], [LF, 66, CR, LF]] = some [[65], [LF, 66]] := by
  refine ⟨?_, fits_whole, fits_straddle, rfl, rfl, ?_, ?_⟩
  · simp [Framing.IsMessage, BUFSIZ, CR]
  · rw [framesOf_eq fits_whole]
    rfl
  · rw [framesOf_eq fits_straddle]
    rfl

/-- Two cuttings that separate different terminators. -/
theorem framesOf_eq_iff_straddle :
    (∀ n, framesOf n [[65, CR, LF, 66, CR, LF]] = framesOf n [[65, CR], [LF, 66, CR, LF]]) ↔
      Framing.separated [[65, CR, LF, 66, CR, LF]] 0 [[65], [66]] =
        Framing.separated [[65, CR], [LF, 66, CR, LF]] 0 [[65], [66]] :=
  framesOf_eq_iff (by simp [Framing.IsMessage, BUFSIZ, CR]) fits_whole fits_straddle rfl rfl

end Straddle

end Megaphone
