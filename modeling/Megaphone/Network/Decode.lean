import Megaphone.Network.RoundTrip

/-!
What `recv_client_request` makes of the bytes that arrive, whatever they are.

* `NamesRequest`, `type_decode_iff`: when the type of the request is one of the six.
* `requestLen`, `decode_frame_iff`: a request is decoded from its frame alone exactly when the frame
  is as long as the request declares.
-/

namespace Megaphone

open Memory Framing

variable {σ : Type}

/-! ### The type of a request -/

/-- The type of a request is in the second byte of the buffer. -/
lemma toNat_headType (b : BytesRQ) : (headType b).toNat = (b.buf 1).toNat % 32 := by
  change (getRqType (ntohs (u16OfBytes [b.buf 0, b.buf 1]))).toNat = _
  rw [toNat_getRqType, toNat_ntohs_u16OfBytes]
  omega

lemma type_decodeClientrq (b : BytesRQ) : (decodeClientrq b).type = headType b := by
  rw [decodeClientrq]
  split
  next h => exact h.symm
  next => rfl

/-- The low five bits of a byte are one of the six types. -/
def IsType (b : UInt8) : Prop := 1 ≤ b.toNat % 32 ∧ b.toNat % 32 ≤ 6

instance (b : UInt8) : Decidable (IsType b) := inferInstanceAs (Decidable (_ ∧ _))

/-- The bytes that have arrived name a request: the second one carries one of the six types, and no
`CR` precedes it, unless it is the last one. -/
def NamesRequest (l : List UInt8) : Prop :=
  ∃ b, l[1]? = some b ∧ IsType b ∧ (l[0]? = some CR → l.length = 2)

lemma not_isType_zero : ¬IsType 0 := by decide

lemma not_isType_CR : ¬IsType CR := by decide

lemma not_isType_LF : ¬IsType LF := by decide

/-- The second byte of the buffer when there was no `CR`. -/
lemma isType_bytesOf_iff {l : List UInt8} (hl : CR ∉ l) :
    IsType ((bytesOf l).buf 1) ↔ NamesRequest l := by
  have hhead : l[0]? ≠ some CR := fun h => hl (List.mem_of_getElem? h)
  rcases Nat.lt_or_ge 1 l.length with h | h
  · have hbyte : (bytesOf l).buf 1 = l[1] := ofList_of_lt 0 h
    rw [hbyte]
    constructor
    · exact fun htype => ⟨_, List.getElem?_eq_getElem h, htype, fun h0 => absurd h0 hhead⟩
    · rintro ⟨b, hb, htype, -⟩
      rw [List.getElem?_eq_getElem h, Option.some.injEq] at hb
      rwa [hb]
  · have hbyte : (bytesOf l).buf 1 = 0 := ofList_of_ge 0 h
    rw [hbyte]
    constructor
    · exact fun htype => absurd htype not_isType_zero
    · rintro ⟨b, hb, -⟩
      rw [List.getElem?_eq_none h] at hb
      cases hb

/-- The second byte of the buffer behind a cut at the first byte. -/
lemma isType_cutFrame_nil_iff (t : List UInt8) :
    IsType ((cutFrame [] t).buf 1) ↔ NamesRequest (CR :: t) := by
  have hnames : NamesRequest (CR :: t) ↔ ∃ b, t = [b] ∧ IsType b := by
    constructor
    · rintro ⟨b, hb, htype, hlen⟩
      have hone : t.length = 1 := by simpa using hlen rfl
      obtain ⟨x, rfl⟩ := List.length_eq_one_iff.mp hone
      cases hb
      exact ⟨b, rfl, htype⟩
    · rintro ⟨b, rfl, htype⟩
      exact ⟨b, rfl, htype, fun _ => rfl⟩
  rw [hnames]
  cases t with
  | nil =>
      constructor
      · exact fun htype => absurd htype not_isType_zero
      · rintro ⟨b, hb, -⟩
        cases hb
  | cons x u =>
      by_cases hx : x = LF
      · subst hx
        constructor
        · intro htype
          cases u with
          | nil => exact absurd htype not_isType_LF
          | cons y u =>
              have hbyte : (cutFrame [] (LF :: y :: u)).buf 1 = 0 :=
                fill_of_mem _ _ le_rfl (by simp [dropLf])
              rw [hbyte] at htype
              exact absurd htype not_isType_zero
        · rintro ⟨b, hb, htype⟩
          cases hb
          exact absurd htype not_isType_LF
      · have hhead : ¬(x :: u).head? = some LF := by simpa using hx
        have hdrop : dropLf LF (x :: u) = x :: u := by rw [dropLf, if_neg hx]
        cases u with
        | nil =>
            have hbyte : (cutFrame [] [x]).buf 1 = x := by
              rw [cutFrame, if_neg hhead, hdrop]
              rfl
            rw [hbyte]
            simp
        | cons y u =>
            have hbyte : (cutFrame [] (x :: y :: u)).buf 1 = 0 := by
              rw [cutFrame, if_neg hhead, hdrop]
              show fill (ofList ([] ++ CR :: x :: y :: u) 0) 0 (u.length + 2) 0 1 = 0
              exact fill_of_mem _ _ (Nat.zero_le _) (by omega)
            rw [hbyte]
            constructor
            · exact fun htype => absurd htype not_isType_zero
            · rintro ⟨b, hb, -⟩
              cases hb

/-- The second byte of the buffer behind a cut at the second byte. -/
lemma not_isType_cutFrame_singleton (a : UInt8) (t : List UInt8) :
    ¬IsType ((cutFrame [a] t).buf 1) := by
  have hbyte : (cutFrame [a] t).buf 1 = 0 ∨ (cutFrame [a] t).buf 1 = CR :=
    fill_cases (ofList (a :: CR :: t) 0) _ _ 0 1
  rcases hbyte with h | h
  · exact fun htype => not_isType_zero (by rwa [← h])
  · exact fun htype => not_isType_CR (by rwa [← h])

/-- The second byte of the buffer behind a cut. -/
lemma isType_cutFrame_iff {f : List UInt8} (hf : CR ∉ f) (t : List UInt8) :
    IsType ((cutFrame f t).buf 1) ↔ NamesRequest (f ++ CR :: t) := by
  match f, hf with
  | [], _ => exact isType_cutFrame_nil_iff t
  | [a], _ =>
      constructor
      · exact fun htype => absurd htype (not_isType_cutFrame_singleton a t)
      · rintro ⟨b, hb, htype, -⟩
        cases hb
        exact absurd htype not_isType_CR
  | a :: b :: f, hf =>
      have hframe : (cutFrame (a :: b :: f) t).buf 1 = b := by
        have h := getElem?_read (cutFrame (a :: b :: f) t).buf 0
          (show 1 < (a :: b :: f).length by simp)
        have hread : read (cutFrame (a :: b :: f) t).buf 0 (a :: b :: f).length = a :: b :: f :=
          frame_cutFrame (a :: b :: f) t
        rw [hread] at h
        exact (Option.some.inj h).symm
      rw [hframe]
      constructor
      · refine fun htype => ⟨b, rfl, htype, fun h0 => ?_⟩
        have ha : a = CR := by simpa using h0
        exact absurd (ha ▸ List.mem_cons_self) hf
      · rintro ⟨b', hb, htype, -⟩
        cases hb
        exact htype

/-- **The type of a request** that is decoded is one of the six exactly when the bytes that have
arrived name one. -/
lemma type_decode_iff {r : Received σ} {l : List UInt8} (h : r.Leaves l) :
    IsType (decodeClientrq r.bytesRq).type ↔ NamesRequest l := by
  have htype : IsType (decodeClientrq r.bytesRq).type ↔ IsType (r.bytesRq.buf 1) := by
    rw [type_decodeClientrq, IsType, toNat_headType, Nat.mod_mod]
    rfl
  rw [htype]
  cases h with
  | @cut f t hl hf hexit hbytes hrest =>
      rw [hbytes, hl]
      exact isType_cutFrame_iff hf t
  | whole hl hexit hbytes hrest =>
      rw [hbytes]
      exact isType_bytesOf_iff hl

/-! ### The frame of a request -/

/-- The number of bytes that the request at the beginning of a buffer declares. -/
def declaredLen (b : BytesRQ) : ℕ :=
  if headType b = REGISTRATION then 2 + PSEUDO_LEN else 7 + (b.buf 6).toNat

/-- The number of bytes that the request in a frame declares; what the frame is too short for counts
as zeros. -/
def requestLen (f : List UInt8) : ℕ := declaredLen (bytesOf f)

lemma two_le_declaredLen (b : BytesRQ) : 2 ≤ declaredLen b := by
  rw [declaredLen]
  split <;> omega

lemma declaredLen_le (b : BytesRQ) : declaredLen b ≤ 262 := by
  have := (b.buf 6).toNat_lt
  rw [declaredLen]
  split
  · decide
  · omega

lemma headType_congr {b b' : BytesRQ} {n : ℕ} (hn : 2 ≤ n)
    (h : read b.buf 0 n = read b'.buf 0 n) : headType b = headType b' := by
  simp only [headType, extractbuf, read_eq_of_le h hn]

/-- A buffer that holds a whole request declares its length. -/
lemma declaredLen_congr {b b' : BytesRQ} {n : ℕ} (hn : declaredLen b' ≤ n)
    (h : read b.buf 0 n = read b'.buf 0 n) : declaredLen b = declaredLen b' := by
  have htype := headType_congr ((two_le_declaredLen b').trans hn) h
  by_cases hrg : headType b' = REGISTRATION
  · rw [declaredLen, declaredLen, htype, if_pos hrg, if_pos hrg]
  · rw [declaredLen, if_neg hrg] at hn
    rw [declaredLen, declaredLen, htype, if_neg hrg, if_neg hrg,
      eq_of_read_eq h (show 6 < n by omega)]

/-- **Two requests are the same** exactly when their buffers agree on what the second declares. -/
lemma same_decode_iff (b b' : BytesRQ) :
    (decodeClientrq b).Same (decodeClientrq b') ↔
      read b.buf 0 (declaredLen b') = read b'.buf 0 (declaredLen b') := by
  by_cases htype : headType b' = REGISTRATION
  · have hlen : (ntohClientrqrg b').fields.flatten.length = declaredLen b' := by
      rw [declaredLen, if_pos htype]
      simp [ClientRQRg.fields, PSEUDO_LEN]
    have hself := (ntohClientrqrg_eq_iff b' _).mp rfl
    have hiff := ntohClientrqrg_eq_iff b (ntohClientrqrg b')
    rw [hlen] at hself hiff
    rw [← hself] at hiff
    rw [← hiff, decodeClientrq, decodeClientrq, dif_pos htype]
    constructor
    · intro h
      split at h
      · exact h
      · exact h.elim
    · intro h
      rw [dif_pos ((headType_congr (two_le_declaredLen b') (hiff.mp h)).trans htype)]
      exact h
  · have hlen : (ntohClientrqcl b').fields.flatten.length = declaredLen b' := by
      have hdatalen : (ntohClientrqcl b').datalen = b'.buf 6 := rfl
      rw [declaredLen, if_neg htype]
      simp [ClientRQCl.fields, hdatalen]
      omega
    have hself := (same_ntohClientrqcl_iff b' _).mp ⟨rfl, rfl, rfl, rfl, rfl⟩
    have hiff := same_ntohClientrqcl_iff b (ntohClientrqcl b')
    rw [hlen] at hself hiff
    rw [← hself] at hiff
    rw [← hiff, decodeClientrq, decodeClientrq, dif_neg htype]
    constructor
    · intro h
      split at h
      · exact h.elim
      · exact h.2
    · intro h
      have heq := headType_congr (two_le_declaredLen b') (hiff.mp h)
      rw [dif_neg (by rwa [heq])]
      exact ⟨heq, h⟩

/-- A call of `recv_client_request` that finds the frame `f` in front of a delimiter, on whatever
was carried over and is received, and returns the request `rq`. -/
inductive Decodes (f : List UInt8) (rq : ClientRQ) : Prop
  | intro {σ : Type} {sock : Socket σ} {s : σ} {rb : BytesRQ} {r : Received σ}
      {c : ClientReceived σ} (hclean : rb.Clean) (hrecv : recvRequest sock s rb = some r)
      (hexit : r.exit = .delimiter) (hframe : r.bytesRq.frame = f)
      (hdecode : recvClientRequest sock s rb = some c) (hrq : c.clientrq = some rq)

/-- The buffer that a request is decoded from: the frame, and what the cut leaves behind it. -/
lemma Decodes.cut {f : List UInt8} {rq : ClientRQ} (h : Decodes f rq) :
    ∃ t, rq = decodeClientrq (cutFrame f t) := by
  obtain ⟨hclean, hrecv, hexit, hframe, hdecode, hrq⟩ := h
  obtain ⟨hleaves, -⟩ := leaves_of_recvRequest hclean hrecv
  rw [recvClientRequest, hrecv, Option.map_some, hexit] at hdecode
  obtain rfl := Option.some.inj hdecode
  obtain rfl := Option.some.inj hrq
  cases hleaves with
  | @cut f' t hl hf _ hbytes _ =>
      rw [hbytes, frame_cutFrame] at hframe
      exact ⟨t, by rw [hbytes, hframe]⟩
  | whole _ hwhole _ _ => exact absurd hexit hwhole

/-- A frame that arrives in one chunk with its delimiter and the bytes behind it. -/
lemma decodes_chunk {f t : List UInt8} (hf : CR ∉ f) (hlen : (f ++ CR :: t).length ≤ BUFSIZ) :
    Decodes f (decodeClientrq (cutFrame f t)) := by
  have hrecv := recvRequest_chunk hf hlen []
  have hdecode : recvClientRequest chunkSocket [f ++ CR :: t] .zero =
      some ⟨0, some (decodeClientrq (cutFrame f t)), bytesOf (dropLf LF t), []⟩ := by
    rw [recvClientRequest, hrecv]
    rfl
  exact .intro clean_zero hrecv rfl (frame_cutFrame f t) hdecode rfl

/-- What is read behind a frame that a lone `CR` ends: the `CR` itself when nothing follows, and
zeros when a zero follows. -/
lemma buf_cutFrame_lone (f : List UInt8) :
    (cutFrame f []).buf f.length = CR ∧ (cutFrame f [0]).buf = (bytesOf f).buf := by
  constructor
  · rw [cutFrame, if_neg (by simp), dropLf]
    simp [fill, ofList]
  · have hhead : ¬([0] : List UInt8).head? = some LF := by decide
    have hbuf : (cutFrame f [0]).buf = fill (ofList (f ++ [CR, 0]) 0) f.length 1 0 := by
      rw [cutFrame, if_neg hhead]
      rfl
    rw [hbuf]
    funext i
    show fill (ofList (f ++ [CR, 0]) 0) f.length 1 0 i = ofList f 0 i
    rcases Nat.lt_trichotomy i f.length with h | rfl | h
    · rw [fill_of_lt _ _ h, ofList_of_lt 0 (by simp; omega), ofList_of_lt 0 h,
        List.getElem_append_left h]
    · rw [fill_of_mem _ _ le_rfl (Nat.lt_succ_self _), ofList_of_ge 0 le_rfl]
    · obtain ⟨k, rfl⟩ := Nat.exists_eq_add_of_lt h
      have hget : (f ++ [CR, 0])[f.length + k + 1]?.getD 0 = 0 := by
        rw [List.getElem?_append_right (by omega), Nat.add_assoc, Nat.add_sub_cancel_left]
        cases k with
        | zero => rfl
        | succ k => rfl
      rw [fill, if_neg (by omega)]
      exact hget.trans (ofList_of_ge 0 (by omega)).symm

/-- **Decoding uses only the frame**, whatever the delimiter is and whatever bytes follow it,
exactly when the frame is as long as its request declares. -/
theorem decode_frame_iff {f : List UInt8} (hf : CR ∉ f) :
    (∀ rq rq', Decodes f rq → Decodes f rq' → rq.Same rq') ↔ requestLen f ≤ f.length := by
  have hbytes : ∀ t, read (cutFrame f t).buf 0 f.length = read (bytesOf f).buf 0 f.length := by
    intro t
    exact (frame_cutFrame f t).trans (frame_bytesOf f).symm
  constructor
  · intro h
    by_contra hlt
    rw [not_le] at hlt
    have hfit : ∀ t : List UInt8, t.length ≤ 1 → (f ++ CR :: t).length ≤ BUFSIZ := by
      intro t ht
      have hle : requestLen f ≤ 262 := declaredLen_le (bytesOf f)
      rw [List.length_append, List.length_cons, BUFSIZ]
      omega
    obtain ⟨hcr, hzero⟩ := buf_cutFrame_lone f
    have hsame := h _ _ (decodes_chunk hf (hfit [] (by simp))) (decodes_chunk hf (hfit [0] le_rfl))
    have hlen : declaredLen (cutFrame f [0]) = requestLen f :=
      declaredLen_congr le_rfl (by rw [hzero])
    rw [same_decode_iff, hlen] at hsame
    -- the first byte behind the frame is one of those declared
    have hbyte := eq_of_read_eq hsame hlt
    have hbehind : (bytesOf f).buf f.length = 0 := ofList_of_ge 0 le_rfl
    rw [hcr, hzero, hbehind] at hbyte
    exact absurd hbyte (by decide)
  · intro hle rq rq' h h'
    obtain ⟨t, rfl⟩ := h.cut
    obtain ⟨t', rfl⟩ := h'.cut
    rw [same_decode_iff, declaredLen_congr hle (hbytes t')]
    exact read_eq_of_le ((hbytes t).trans (hbytes t').symm) hle

/-- A post without text is decoded from its frame. -/
theorem decode_frame_iff_seven :
    (∀ rq rq', Decodes [0, 2, 0, 1, 0, 0, 0] rq → Decodes [0, 2, 0, 1, 0, 0, 0] rq' →
      rq.Same rq') ↔ requestLen [0, 2, 0, 1, 0, 0, 0] ≤ [(0 : UInt8), 2, 0, 1, 0, 0, 0].length :=
  decode_frame_iff (by decide)

/-- A post that declares a text of one byte, and breaks off in front of it: the text is the
delimiter when nothing follows, and a zero when a zero follows. -/
theorem not_decode_frame : CR ∉ [(0 : UInt8), 2, 0, 1, 0, 0, 1] ∧
    ∃ rq rq', Decodes [0, 2, 0, 1, 0, 0, 1] rq ∧ Decodes [0, 2, 0, 1, 0, 0, 1] rq' ∧
      ¬rq.Same rq' := by
  have hf : CR ∉ [(0 : UInt8), 2, 0, 1, 0, 0, 1] := by decide
  refine ⟨hf, _, _, decodes_chunk (t := []) hf (by decide), decodes_chunk (t := [0]) hf (by decide),
    fun hsame => ?_⟩
  rw [same_decode_iff] at hsame
  exact absurd hsame (by decide)

end Megaphone
