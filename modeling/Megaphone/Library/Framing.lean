import Mathlib.Tactic

/-!
Frames cut at a delimiter out of a stream that arrives in chunks.

A reader keeps a buffer of at most `cap` symbols.  It cuts the buffer at the first `cr`, drops an
`lf` that directly follows it, keeps what is behind as the next buffer, and asks for another chunk
when the buffer holds no `cr`.  The delimiter is really the pair `cr`, `lf`, but an `lf` that has
not arrived yet cannot be dropped, so the frames depend on where the chunks end.

* `cut`, with `cut_append` and `cut_eq_some`: one cut, as a decomposition of the buffer.
* `Fits`: the chunks are nonempty and never larger than the room left in the buffer.
* `receive`, `frame`: one call of the reader, and the frame of call number `i` of a row of calls.
* `endsChunk`, `separated`: whether a chunk ends at a given symbol of the stream, and for each
  message of a stream whether a chunk ends between its `cr` and its `lf`.
* `frame_eq`: the frames of a stream of `cr`-free messages are `expected` of the messages and
  their `separated` marks, and depend on nothing else of the chunks.
* `frame_eq_iff`: two ways of cutting one stream give the same frames exactly when they separate
  the same terminators.
* `Arrives`: the chunks bring a stream of messages, whose terminators they do not separate;
  `Arrives.receive` reads one message of it, and `arrives_messages` is the case of one chunk for
  each message.
-/

namespace Framing

variable {α : Type*} [DecidableEq α]

/-! ### One cut -/

section Cut

variable (cr lf : α)

/-- What is left of the symbols behind a `cr`: an `lf` in front is part of the delimiter. -/
def dropLf : List α → List α
  | [] => []
  | a :: l => if a = lf then l else a :: l

/-- The buffer cut at its first `cr`: the frame and the rest, `none` without a `cr`. -/
def cut : List α → Option (List α × List α)
  | [] => none
  | a :: l => if a = cr then some ([], dropLf lf l) else (cut l).map fun p => (a :: p.1, p.2)

variable {cr lf}

/-- The delimiter is one or two symbols long. -/
lemma dropLf_cases (l : List α) : l = dropLf lf l ∨ l = lf :: dropLf lf l := by
  cases l with
  | nil => exact Or.inl rfl
  | cons a l =>
      by_cases h : a = lf
      · exact Or.inr (by rw [dropLf, if_pos h, h])
      · exact Or.inl (by rw [dropLf, if_neg h])

lemma length_dropLf_le (l : List α) : (dropLf lf l).length ≤ l.length := by
  cases l with
  | nil => exact le_rfl
  | cons a l =>
      rw [dropLf]
      split <;> simp

@[simp] lemma dropLf_cons_self (l : List α) : dropLf lf (lf :: l) = l := by simp [dropLf]

/-- Cutting at a `cr` behind a `cr`-free frame. -/
lemma cut_append {f : List α} (hf : cr ∉ f) (t : List α) :
    cut cr lf (f ++ cr :: t) = some (f, dropLf lf t) := by
  induction f with
  | nil => simp [cut]
  | cons a f ih =>
      rw [List.mem_cons, not_or] at hf
      rw [List.cons_append, cut, if_neg (Ne.symm hf.1), ih hf.2]
      rfl

lemma cut_eq_none {l : List α} : cut cr lf l = none ↔ cr ∉ l := by
  induction l with
  | nil => simp [cut]
  | cons a l ih =>
      by_cases h : a = cr
      · simp [cut, h]
      · simp [cut, h, ih, Ne.symm h]

/-- A successful cut decomposes the buffer. -/
lemma cut_eq_some {l f r : List α} (h : cut cr lf l = some (f, r)) :
    cr ∉ f ∧ ∃ t, l = f ++ cr :: t ∧ r = dropLf lf t := by
  have hmem : cr ∈ l := by
    by_contra hn
    rw [cut_eq_none.mpr hn] at h
    cases h
  obtain ⟨f', t, hl, hf'⟩ := List.eq_append_cons_of_mem hmem
  rw [hl, cut_append hf' t] at h
  obtain ⟨rfl, rfl⟩ := by simpa using h
  exact ⟨hf', t, hl, rfl⟩

omit [DecidableEq α] in
/-- Where the first `cr` stands is determined. -/
lemma append_cons_inj {f f' t t' : List α} (hf : cr ∉ f) (hf' : cr ∉ f')
    (h : f ++ cr :: t = f' ++ cr :: t') : f = f' ∧ t = t' := by
  classical
  have h' := congrArg (cut cr cr) h
  rw [cut_append hf, cut_append hf'] at h'
  obtain rfl : f = f' := (Prod.ext_iff.mp (Option.some.inj h')).1
  exact ⟨rfl, (List.cons.inj (List.append_cancel_left h)).2⟩

end Cut

/-! ### Reading chunks -/

section Reader

variable (cr lf : α) (cap : ℕ)

/-- The chunks handed to the reader are nonempty and never larger than the room that its buffer,
which holds `l`, has left when it asks for them. -/
inductive Fits : List α → List (List α) → Prop
  | done {l : List α} (h : cr ∉ l) (hl : l.length ≤ cap) : Fits l []
  | cut {l f r : List α} {cs : List (List α)} (h : cut cr lf l = some (f, r))
      (hl : l.length ≤ cap) (hr : Fits r cs) : Fits l cs
  | full {l : List α} {cs : List (List α)} (h : cr ∉ l) (hl : l.length = cap) (hr : Fits [] cs) :
      Fits l cs
  | read {l c : List α} {cs : List (List α)} (h : cr ∉ l) (hc : c ≠ [])
      (hl : l.length + c.length ≤ cap) (hr : Fits (l ++ c) cs) : Fits l (c :: cs)

/-- One call of the reader on the buffer `l` and the chunks to come: the frame, the next buffer and
the chunks left.  A full buffer without `cr` is a frame of its own, and so is what is left at the
end of the stream. -/
def receive : List α → List (List α) → List α × List α × List (List α)
  | l, [] =>
      match cut cr lf l with
      | some (f, r) => (f, r, [])
      | none => (l, [], [])
  | l, c :: cs =>
      match cut cr lf l with
      | some (f, r) => (f, r, c :: cs)
      | none => if l.length = cap then (l, [], c :: cs) else receive (l ++ c) cs

/-- The frame of call number `i` of a row of calls. -/
def frame : ℕ → List α → List (List α) → List α
  | 0, l, cs => (receive cr lf cap l cs).1
  | i + 1, l, cs => frame i (receive cr lf cap l cs).2.1 (receive cr lf cap l cs).2.2

variable {cr lf cap}

lemma receive_of_cut {l f r : List α} (h : cut cr lf l = some (f, r)) (cs : List (List α)) :
    receive cr lf cap l cs = (f, r, cs) := by
  cases cs <;> simp [receive, h]

lemma receive_of_full {l : List α} (h : cr ∉ l) (hl : l.length = cap) (cs : List (List α)) :
    receive cr lf cap l cs = (l, [], cs) := by
  cases cs <;> simp [receive, cut_eq_none.mpr h, hl]

lemma receive_nil {l : List α} (h : cr ∉ l) : receive cr lf cap l [] = (l, [], []) := by
  simp [receive, cut_eq_none.mpr h]

lemma receive_cons {l c : List α} (h : cr ∉ l) (hc : c ≠ []) (hl : l.length + c.length ≤ cap)
    (cs : List (List α)) : receive cr lf cap l (c :: cs) = receive cr lf cap (l ++ c) cs := by
  have := List.length_pos_of_ne_nil hc
  rw [receive, cut_eq_none.mpr h]
  simp [show l.length ≠ cap by omega]

end Reader

/-! ### Where the chunks end -/

/-- Whether the symbol number `i` of the stream is the last one of its chunk. -/
def endsChunk : List (List α) → ℕ → Bool
  | [], _ => false
  | c :: cs, i => if i < c.length then i + 1 == c.length else endsChunk cs (i - c.length)

omit [DecidableEq α] in
@[simp] lemma endsChunk_nil_cons (cs : List (List α)) (i : ℕ) :
    endsChunk ([] :: cs) i = endsChunk cs i := by
  simp [endsChunk]

omit [DecidableEq α] in
lemma endsChunk_of_lt {c : List α} {i : ℕ} (h : i < c.length) (cs : List (List α)) :
    endsChunk (c :: cs) i = (i + 1 == c.length) := by
  rw [endsChunk, if_pos h]

omit [DecidableEq α] in
/-- Dropping the front of the first chunk. -/
lemma endsChunk_append_left (a b : List α) (cs : List (List α)) (i : ℕ) :
    endsChunk ((a ++ b) :: cs) (a.length + i) = endsChunk (b :: cs) i := by
  simp only [endsChunk, List.length_append]
  by_cases h : i < b.length
  · rw [if_pos (by omega), if_pos h]
    simp only [Nat.add_assoc, beq_eq_beq, Nat.add_left_cancel_iff]
  · rw [if_neg (by omega), if_neg h, show a.length + i - (a.length + b.length) = i - b.length by
      omega]

omit [DecidableEq α] in
/-- Gluing the first two chunks only forgets the end of the first. -/
lemma endsChunk_glue (l c : List α) (cs : List (List α)) {i : ℕ} (h : l.length ≤ i) :
    endsChunk (l :: c :: cs) i = endsChunk ((l ++ c) :: cs) i := by
  obtain ⟨k, rfl⟩ := Nat.exists_eq_add_of_le h
  rw [endsChunk_append_left, endsChunk, if_neg (by omega), Nat.add_sub_cancel_left]

section Streams

variable (cr lf : α) (cap : ℕ)

/-- The stream of a list of messages, each followed by its terminator. -/
def wire : List (List α) → List α
  | [] => []
  | m :: ms => m ++ cr :: lf :: wire ms

/-- For each message of the stream from the offset `off` on, whether a chunk ends between the `cr`
and the `lf` of its terminator. -/
def separated (cs : List (List α)) : ℕ → List (List α) → List Bool
  | _, [] => []
  | off, m :: ms =>
      endsChunk cs (off + m.length) :: separated cs (off + m.length + 2) ms

/-- What the reader sees in front of the first `cr` of a stream whose first `lf` may be late. -/
def front (late : Bool) (m : List α) : List α := if late then lf :: m else m

/-- The frames of a list of messages marked by whether their terminators are separated: an `lf`
that came too late leads the next frame, and the frame that it fills the buffer with has its
terminator read as an empty frame. -/
def expected : Bool → List (List α × Bool) → List (List α)
  | late, [] => [front lf late []]
  | late, (m, s) :: ms =>
      if (front lf late m).length < cap then front lf late m :: expected s ms
      else front lf late m :: [] :: expected s ms

variable {cr lf cap}

omit [DecidableEq α] in
@[simp] lemma length_separated (cs : List (List α)) (off : ℕ) (ms : List (List α)) :
    (separated cs off ms).length = ms.length := by
  induction ms generalizing off with
  | nil => rfl
  | cons m ms ih => simp [separated, ih]

omit [DecidableEq α] in
/-- The marks only depend on where the chunks end from the offset on. -/
lemma separated_congr {cs cs' : List (List α)} {off off' : ℕ} (ms : List (List α))
    (h : ∀ i, endsChunk cs (off + i) = endsChunk cs' (off' + i)) :
    separated cs off ms = separated cs' off' ms := by
  induction ms generalizing off off' with
  | nil => rfl
  | cons m ms ih =>
      rw [separated, separated, h, ih fun i => ?_]
      simpa only [Nat.add_assoc] using h (m.length + 2 + i)

omit [DecidableEq α] in
/-- A `cr`-free beginning of a stream ends before any of its `cr`s. -/
lemma le_length_of_append_eq {l s f t : List α} (h : cr ∉ l) (hl : l ++ s = f ++ cr :: t) :
    l.length ≤ f.length := by
  by_contra hlt
  have hget := congrArg (·[f.length]?) hl
  simp only [List.getElem?_append_left (show f.length < l.length by omega),
    List.getElem?_append_right le_rfl, Nat.sub_self, List.getElem?_cons_zero] at hget
  exact h (List.mem_of_getElem? hget)

/-- **One call on a message**: a `cr`-free beginning `f` of the stream that is followed by a
terminator and does not fill the buffer is the frame.  The `lf` is still to come exactly when a
chunk ends at the `cr`, and the chunks left end where they did. -/
lemma receive_frame {l f t : List α} {cs : List (List α)} (hfit : Fits cr lf cap l cs)
    (hf : cr ∉ f) (hlen : f.length < cap) (hl : l ++ cs.flatten = f ++ cr :: lf :: t) :
    ∃ r cs', receive cr lf cap l cs = (f, r, cs') ∧ Fits cr lf cap r cs' ∧
      r ++ cs'.flatten = (if endsChunk (l :: cs) f.length then lf :: t else t) ∧
      ∀ i, endsChunk (l :: cs) (f.length + 2 + i) =
        endsChunk (r :: cs') ((if endsChunk (l :: cs) f.length then 1 else 0) + i) := by
  induction hfit with
  | @done l h _ =>
      rw [List.flatten_nil, List.append_nil] at hl
      exact absurd (by simp [hl]) h
  | @cut l f' r cs h hlen' hr _ =>
      obtain ⟨hf', u, rfl, rfl⟩ := cut_eq_some h
      rw [List.append_assoc, List.cons_append] at hl
      obtain ⟨rfl, htail⟩ := append_cons_inj hf' hf hl
      refine ⟨dropLf lf u, cs, receive_of_cut h cs, hr, ?_⟩
      have hends : endsChunk ((f' ++ cr :: u) :: cs) f'.length = (u.length == 0) := by
        rw [endsChunk_of_lt (by simp), List.length_append, List.length_cons]
        cases u <;> simp
      cases u with
      | nil =>
          rw [hends]
          refine ⟨by simpa [dropLf] using htail, fun i => ?_⟩
          have := endsChunk_append_left (f' ++ [cr]) [] cs (1 + i)
          simpa [dropLf, ← Nat.add_assoc] using this
      | cons a u =>
          obtain ⟨rfl, hu⟩ := List.cons.inj htail
          rw [hends]
          refine ⟨by simpa using hu, fun i => ?_⟩
          have := endsChunk_append_left (f' ++ [cr, a]) u cs i
          simpa [Nat.add_assoc] using this
  | @full l cs h hl' _ _ =>
      have := le_length_of_append_eq h hl
      omega
  | @read l c cs h hc hl' hr ih =>
      have hle := le_length_of_append_eq h hl
      rw [receive_cons h hc hl', endsChunk_glue l c cs hle]
      obtain ⟨r, cs', h₁, h₂, h₃, h₄⟩ := ih (by rw [← hl]; simp)
      refine ⟨r, cs', h₁, h₂, h₃, fun i => ?_⟩
      rw [endsChunk_glue l c cs (by omega), h₄]

/-- **One call on a message that fills the buffer**: the frame is the message, and the terminator
is left as it stands. -/
lemma receive_full {l f t : List α} {cs : List (List α)} (hfit : Fits cr lf cap l cs)
    (hf : cr ∉ f) (hlen : f.length = cap) (hl : l ++ cs.flatten = f ++ cr :: t) :
    ∃ cs', receive cr lf cap l cs = (f, [], cs') ∧ Fits cr lf cap [] cs' ∧
      cs'.flatten = cr :: t ∧
      ∀ i, endsChunk (l :: cs) (f.length + i) = endsChunk ([] :: cs') i := by
  induction hfit with
  | @done l h _ =>
      rw [List.flatten_nil, List.append_nil] at hl
      exact absurd (by simp [hl]) h
  | @cut l f' r cs h hlen' hr _ =>
      obtain ⟨hf', u, rfl, rfl⟩ := cut_eq_some h
      rw [List.append_assoc, List.cons_append] at hl
      obtain ⟨rfl, -⟩ := append_cons_inj hf' hf hl
      simp at hlen'
      omega
  | @full l cs h hl' hr _ =>
      obtain ⟨rfl, ht⟩ := List.append_inj hl (by omega)
      exact ⟨cs, receive_of_full h hl' cs, hr, ht, fun i => by
        simpa using endsChunk_append_left l [] cs i⟩
  | @read l c cs h hc hl' hr ih =>
      have hle := le_length_of_append_eq h hl
      rw [receive_cons h hc hl']
      obtain ⟨cs', h₁, h₂, h₃, h₄⟩ := ih (by rw [← hl]; simp)
      exact ⟨cs', h₁, h₂, h₃, fun i => by rw [endsChunk_glue l c cs (by omega), h₄]⟩

/-- At the end of the stream a call hands out what is left of it. -/
lemma receive_rest {l : List α} {cs : List (List α)} (hfit : Fits cr lf cap l cs)
    (hcr : cr ∉ l ++ cs.flatten) (hlen : (l ++ cs.flatten).length < cap) :
    receive cr lf cap l cs = (l ++ cs.flatten, [], []) := by
  induction hfit with
  | done h _ => simpa using receive_nil h
  | @cut l f' r cs h hlen' hr _ =>
      obtain ⟨-, u, rfl, -⟩ := cut_eq_some h
      simp at hcr
  | @full l cs h hl' hr _ =>
      rw [List.length_append] at hlen
      omega
  | @read l c cs h hc hl' hr ih =>
      rw [receive_cons h hc hl', ih (by simpa using hcr) (by simpa using hlen)]
      simp

/-! ### The frames of a stream -/

lemma frame_succ {l f r : List α} {cs cs' : List (List α)}
    (h : receive cr lf cap l cs = (f, r, cs')) (i : ℕ) :
    frame cr lf cap (i + 1) l cs = frame cr lf cap i r cs' := by
  rw [frame, h]

lemma frame_nil (i : ℕ) : frame cr lf cap i [] [] = [] := by
  induction i with
  | zero => rw [frame, receive_nil (by simp)]
  | succ i ih => rw [frame_succ (receive_nil (by simp)), ih]

/-- The messages of a stream: free of `cr`, and shorter than the buffer. -/
def IsMessage (cr : α) (cap : ℕ) (m : List α) : Prop := cr ∉ m ∧ m.length < cap

omit [DecidableEq α] in
lemma length_front (late : Bool) (m : List α) :
    (front lf late m).length = (if late then 1 else 0) + m.length := by
  cases late <;> simp [front, Nat.add_comm]

omit [DecidableEq α] in
/-- A message with a late `lf` in front fills the buffer or leaves room in it. -/
lemma length_front_eq {m : List α} (hm : m.length < cap) {late : Bool}
    (h : cap ≤ (front lf late m).length) : (front lf late m).length = cap := by
  rw [length_front] at h ⊢
  cases late <;> simp at h ⊢ <;> omega

omit [DecidableEq α] in
lemma cr_notMem_front (hne : lf ≠ cr) {m : List α} (hm : cr ∉ m) (late : Bool) :
    cr ∉ front lf late m := by
  cases late <;> simp [front, hm, hne.symm]

omit [DecidableEq α] in
lemma front_append (late : Bool) (m t : List α) :
    front lf late (m ++ t) = front lf late m ++ t := by
  cases late <;> rfl

/-- One call on a stream whose first message leaves room in the buffer. -/
lemma receive_message (hne : lf ≠ cr) {m l : List α} {ms cs : List (List α)} {late : Bool}
    (hm : cr ∉ m) (hlen : (front lf late m).length < cap) (hfit : Fits cr lf cap l cs)
    (hl : l ++ cs.flatten = front lf late (wire cr lf (m :: ms))) :
    ∃ r cs' s, receive cr lf cap l cs = (front lf late m, r, cs') ∧ Fits cr lf cap r cs' ∧
      r ++ cs'.flatten = front lf s (wire cr lf ms) ∧
      separated (l :: cs) (if late then 1 else 0) (m :: ms) =
        s :: separated (r :: cs') (if s then 1 else 0) ms := by
  rw [wire, front_append] at hl
  obtain ⟨r, cs', h₁, h₂, h₃, h₄⟩ := receive_frame hfit (cr_notMem_front hne hm late) hlen hl
  refine ⟨r, cs', _, h₁, h₂, h₃, ?_⟩
  rw [length_front] at h₄ ⊢
  rw [separated, separated_congr ms h₄]

/-- One call on a stream whose first message fills the buffer: its terminator is left. -/
lemma receive_message_full (hne : lf ≠ cr) {m l : List α} {ms cs : List (List α)} {late : Bool}
    (hm : cr ∉ m) (hlen : (front lf late m).length = cap) (hfit : Fits cr lf cap l cs)
    (hl : l ++ cs.flatten = front lf late (wire cr lf (m :: ms))) :
    ∃ cs', receive cr lf cap l cs = (front lf late m, [], cs') ∧ Fits cr lf cap [] cs' ∧
      [] ++ cs'.flatten = front lf false (wire cr lf ([] :: ms)) ∧
      separated ([] :: cs') 0 ([] :: ms) =
        separated (l :: cs) (if late then 1 else 0) (m :: ms) := by
  rw [wire, front_append] at hl
  obtain ⟨cs', h₁, h₂, h₃, h₄⟩ := receive_full hfit (cr_notMem_front hne hm late) hlen hl
  refine ⟨cs', h₁, h₂, h₃, ?_⟩
  rw [length_front] at h₄
  have h₀ := h₄ 0
  rw [Nat.add_zero] at h₀
  rw [separated, separated, h₀, separated_congr ms fun i => ?_]
  · rfl
  · simpa [Nat.add_assoc] using (h₄ (2 + i)).symm

/-- **The frames of a stream** of messages, of which the first `lf` may be late, are those expected
of the messages and of the terminators that the chunks separate, and then empty frames. -/
theorem frame_eq (hne : lf ≠ cr) (hcap : 2 ≤ cap) (i : ℕ) :
    ∀ {ms : List (List α)} {l : List α} {cs : List (List α)} {late : Bool},
      (∀ m ∈ ms, IsMessage cr cap m) → Fits cr lf cap l cs →
      l ++ cs.flatten = front lf late (wire cr lf ms) →
      frame cr lf cap i l cs =
        (expected lf cap late
          (ms.zip (separated (l :: cs) (if late then 1 else 0) ms))).getD i [] := by
  induction i with
  | zero =>
      intro ms l cs late hms hfit hl
      cases ms with
      | nil =>
          have hr := receive_rest hfit (by rw [hl]; cases late <;> simp [front, wire, hne.symm])
            (by rw [hl]; cases late <;> simp [front, wire] <;> omega)
          rw [frame, hr, hl]
          rfl
      | cons m ms =>
          obtain ⟨hm, hmlen⟩ := hms m (by simp)
          rcases lt_or_ge (front lf late m).length cap with hlen | hlen
          · obtain ⟨r, cs', s, h₁, -, -, h₄⟩ := receive_message hne hm hlen hfit hl
            rw [frame, h₁, h₄, List.zip_cons_cons, expected, if_pos hlen]
            rfl
          · have hfull := length_front_eq hmlen hlen
            obtain ⟨cs', h₁, -, -, -⟩ := receive_message_full hne hm hfull hfit hl
            rw [frame, h₁, separated, List.zip_cons_cons, expected, if_neg (not_lt.mpr hlen)]
            rfl
  | succ i ih =>
      intro ms l cs late hms hfit hl
      cases ms with
      | nil =>
          have hr := receive_rest hfit (by rw [hl]; cases late <;> simp [front, wire, hne.symm])
            (by rw [hl]; cases late <;> simp [front, wire] <;> omega)
          rw [frame_succ hr, frame_nil]
          rfl
      | cons m ms =>
          obtain ⟨hm, hmlen⟩ := hms m (by simp)
          have hms' := fun x hx => hms x (List.mem_cons_of_mem m hx)
          rcases lt_or_ge (front lf late m).length cap with hlen | hlen
          · obtain ⟨r, cs', s, h₁, h₂, h₃, h₄⟩ := receive_message hne hm hlen hfit hl
            rw [frame_succ h₁, ih hms' h₂ h₃, h₄, List.zip_cons_cons, expected, if_pos hlen]
            rfl
          · have hfull := length_front_eq hmlen hlen
            obtain ⟨cs', h₁, h₂, h₃, h₄⟩ := receive_message_full hne hm hfull hfit hl
            have hms₀ : ∀ x ∈ [] :: ms, IsMessage cr cap x := by
              intro x hx
              rcases List.mem_cons.mp hx with rfl | hx
              · exact ⟨by simp, by simp; omega⟩
              · exact hms' x hx
            have ih' := ih hms₀ h₂ h₃
            simp only [Bool.false_eq_true, if_false] at ih'
            rw [frame_succ h₁, ih', h₄, separated, List.zip_cons_cons, List.zip_cons_cons,
              expected, expected, if_pos (by simp [front]; omega), if_neg (not_lt.mpr hlen)]
            rfl

omit [DecidableEq α] in
/-- The first frame expected of a stream starts with the late `lf`, if there is one. -/
lemma expected_zero (late : Bool) {ms : List (List α)} {ss : List Bool}
    (h : ss.length = ms.length) :
    (expected lf cap late (ms.zip ss)).getD 0 [] = front lf late (ms.headD []) := by
  cases ms with
  | nil => rfl
  | cons m ms =>
      cases ss with
      | nil => simp at h
      | cons s ss =>
          rw [List.zip_cons_cons, expected]
          split <;> rfl

omit [DecidableEq α] in
lemma front_inj {late late' : Bool} {m : List α} (h : front lf late m = front lf late' m) :
    late = late' := by
  have hlen := congrArg List.length h
  rw [length_front, length_front] at hlen
  cases late <;> cases late' <;> simp_all

omit [DecidableEq α] in
/-- The frames expected of a stream show which of its terminators are separated. -/
lemma expected_inj : ∀ {ms : List (List α)} {ss ss' : List Bool} (late : Bool),
    ss.length = ms.length → ss'.length = ms.length →
    (∀ i, (expected lf cap late (ms.zip ss)).getD i [] =
      (expected lf cap late (ms.zip ss')).getD i []) → ss = ss'
  | [], [], [], _, _, _, _ => rfl
  | m :: ms, s :: ss, s' :: ss', late, h, h', heq => by
      rw [List.length_cons, List.length_cons, Nat.add_right_cancel_iff] at h h'
      simp only [List.zip_cons_cons, expected] at heq
      -- what follows the frame of `m` is expected of the marks left
      have htail : ∀ i, (expected lf cap s (ms.zip ss)).getD i [] =
          (expected lf cap s' (ms.zip ss')).getD i [] := by
        intro i
        by_cases hlen : (front lf late m).length < cap
        · simpa [hlen] using heq (i + 1)
        · simpa [hlen] using heq (i + 2)
      obtain rfl : s = s' := by
        have hfront : front lf s (ms.headD []) = front lf s' (ms.headD []) := by
          rw [← expected_zero s h, htail 0, expected_zero s' h']
        exact front_inj hfront
      rw [expected_inj s h h' htail]

/-- **Two ways of cutting one stream** give the same frames exactly when they separate the same
terminators. -/
theorem frame_eq_iff (hne : lf ≠ cr) (hcap : 2 ≤ cap) {ms cs cs' : List (List α)}
    (hms : ∀ m ∈ ms, IsMessage cr cap m) (hfit : Fits cr lf cap [] cs)
    (hfit' : Fits cr lf cap [] cs') (hcs : cs.flatten = wire cr lf ms)
    (hcs' : cs'.flatten = wire cr lf ms) :
    (∀ i, frame cr lf cap i [] cs = frame cr lf cap i [] cs') ↔
      separated cs 0 ms = separated cs' 0 ms := by
  have hzero : ∀ cs : List (List α), separated ([] :: cs) 0 ms = separated cs 0 ms :=
    fun cs => separated_congr ms fun i => endsChunk_nil_cons cs _
  have hcs₀ : [] ++ cs.flatten = front lf false (wire cr lf ms) := hcs
  have hcs₀' : [] ++ cs'.flatten = front lf false (wire cr lf ms) := hcs'
  have h := fun i => frame_eq hne hcap i hms hfit hcs₀
  have h' := fun i => frame_eq hne hcap i hms hfit' hcs₀'
  simp only [Bool.false_eq_true, if_false, hzero] at h h'
  constructor
  · intro heq
    have hexp : ∀ i, (expected lf cap false (ms.zip (separated cs 0 ms))).getD i [] =
        (expected lf cap false (ms.zip (separated cs' 0 ms))).getD i [] :=
      fun i => by rw [← h, ← h', heq]
    exact expected_inj false (length_separated cs 0 ms) (length_separated cs' 0 ms) hexp
  · intro heq i
    rw [h, h', heq]

/-! ### Streams whose terminators are not separated -/

variable (cr lf cap) in
/-- The buffer `l` and the chunks, which fit, hold the stream of the messages `ms`, and no chunk
ends between the `cr` and the `lf` of a terminator. -/
structure Arrives (l : List α) (cs ms : List (List α)) : Prop where
  fits : Fits cr lf cap l cs
  stream : l ++ cs.flatten = wire cr lf ms
  together : ∀ s ∈ separated (l :: cs) 0 ms, s = false

/-- One call reads one message. -/
lemma Arrives.receive (hne : lf ≠ cr) {l m : List α} {cs ms : List (List α)}
    (h : Arrives cr lf cap l cs (m :: ms)) (hm : IsMessage cr cap m) :
    ∃ r cs', Framing.receive cr lf cap l cs = (m, r, cs') ∧ Arrives cr lf cap r cs' ms := by
  have hlen : (front lf false m).length < cap := by simpa [front] using hm.2
  obtain ⟨r, cs', s, h₁, h₂, h₃, h₄⟩ := receive_message hne hm.1 hlen h.fits h.stream
  have hs := h.together
  simp only [Bool.false_eq_true, if_false] at h₄
  rw [h₄] at hs
  obtain rfl : s = false := hs s (by simp)
  exact ⟨r, cs', h₁, h₂, h₃, fun s' hs' => hs s' (List.mem_cons_of_mem _ hs')⟩

/-- What a cut leaves of a buffer that ends with a terminator is empty or ends with it too. -/
lemma dropLf_ends (hne : lf ≠ cr) {x f t : List α} (hf : cr ∉ f)
    (h : x ++ [cr, lf] = f ++ cr :: t) :
    dropLf lf t = [] ∨ ∃ y, dropLf lf t = y ++ [cr, lf] := by
  rcases List.append_eq_append_iff.mp h with ⟨a, rfl, ha⟩ | ⟨c, rfl, hc⟩
  · cases a with
    | nil =>
        obtain ⟨-, rfl⟩ := List.cons.inj ha
        exact Or.inl (by simp)
    | cons b a =>
        obtain ⟨rfl, -⟩ := List.cons.inj ha
        simp at hf
  · cases c with
    | nil =>
        obtain ⟨-, rfl⟩ := List.cons.inj hc
        exact Or.inl (by simp)
    | cons b c =>
        obtain ⟨-, rfl⟩ := List.cons.inj hc
        right
        cases c with
        | nil => exact ⟨[], by simp [dropLf, hne.symm]⟩
        | cons d c =>
            by_cases hd : d = lf
            · exact ⟨c, by simp [dropLf, hd]⟩
            · exact ⟨d :: c, by simp [dropLf, hd]⟩

/-- Chunks that fit an empty buffer fit one that ends with a terminator. -/
lemma Fits.of_ends (hne : lf ≠ cr) {cs : List (List α)} (h : Fits cr lf cap [] cs) (n : ℕ) :
    ∀ {l : List α}, l.length = n → (l = [] ∨ ∃ x, l = x ++ [cr, lf]) → l.length ≤ cap →
      Fits cr lf cap l cs := by
  induction n using Nat.strong_induction_on with
  | _ n ih =>
      rintro l rfl (rfl | ⟨x, hx⟩) hlen
      · exact h
      · obtain ⟨f, t, hl, hf⟩ := List.eq_append_cons_of_mem (show cr ∈ l by simp [hx])
        have hlt : (dropLf lf t).length < l.length := by
          have hle : (dropLf lf t).length ≤ t.length := length_dropLf_le t
          rw [hl, List.length_append, List.length_cons]
          omega
        exact .cut (by rw [hl, cut_append hf]) hlen
          (ih _ hlt rfl (dropLf_ends hne hf (by rw [← hx, hl])) (by omega))

/-- Chunks that are whole messages fit. -/
lemma fits_messages (hne : lf ≠ cr) {ms : List (List α)} (hms : ∀ m ∈ ms, m.length + 2 ≤ cap) :
    Fits cr lf cap [] (ms.map fun m => m ++ [cr, lf]) := by
  induction ms with
  | nil => exact .done (by simp) (Nat.zero_le _)
  | cons m ms ih =>
      have hm : (m ++ [cr, lf]).length ≤ cap := by simpa using hms m (by simp)
      have htail := ih fun x hx => hms x (List.mem_cons_of_mem m hx)
      exact .read (by simp) (by simp) (by simpa using hm)
        (htail.of_ends hne _ rfl (Or.inr ⟨m, rfl⟩) hm)

omit [DecidableEq α] in
lemma flatten_messages (ms : List (List α)) :
    (ms.map fun m => m ++ [cr, lf]).flatten = wire cr lf ms := by
  induction ms with
  | nil => rfl
  | cons m ms ih => simp [wire, ih]

omit [DecidableEq α] in
lemma separated_messages (ms : List (List α)) :
    ∀ s ∈ separated (ms.map fun m => m ++ [cr, lf]) 0 ms, s = false := by
  induction ms with
  | nil => simp [separated]
  | cons m ms ih =>
      have hrest : separated ((m ++ [cr, lf]) :: ms.map fun m => m ++ [cr, lf]) (0 + m.length + 2)
          ms = separated (ms.map fun m => m ++ [cr, lf]) 0 ms := by
        refine separated_congr ms fun i => ?_
        have h := endsChunk_append_left (m ++ [cr, lf]) [] (ms.map fun m => m ++ [cr, lf]) i
        simpa [Nat.add_assoc] using h
      rw [List.map_cons, separated, hrest]
      intro s hs
      rcases List.mem_cons.mp hs with rfl | hs
      · rw [Nat.zero_add, endsChunk_of_lt (by simp)]
        simp
      · exact ih s hs

/-- One chunk for each message. -/
lemma arrives_messages (hne : lf ≠ cr) {ms : List (List α)} (hms : ∀ m ∈ ms, m.length + 2 ≤ cap) :
    Arrives cr lf cap [] (ms.map fun m => m ++ [cr, lf]) ms := by
  refine ⟨fits_messages hne hms, flatten_messages ms, ?_⟩
  have hnil : separated ([] :: ms.map fun m => m ++ [cr, lf]) 0 ms =
      separated (ms.map fun m => m ++ [cr, lf]) 0 ms :=
    separated_congr ms fun i => endsChunk_nil_cons _ _
  rw [hnil]
  exact separated_messages ms

end Streams

end Framing
