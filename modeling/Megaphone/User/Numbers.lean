import Megaphone.User.UserInput

/-!
The numbers that the user types, and those that `feed_number_manager` and `count_number_manager`
return.

* `NumbersTyped`: the number that is returned is the one in the last line, within the bounds that
  the messages state, and integers beyond them are asked for again.
* `NumbersFit`: the integers that pass are within the bounds.
* `numbers_typed_iff`: the numbers that are returned are those typed exactly when it is so.
-/

namespace Megaphone

/-! ### What is to hold -/

/-- The number that is returned is the integer of the last line that was read, from `lo` on up to
65536, and after the line of an integer beyond these bounds the program goes on as if it had not
been typed. -/
structure NumbersTyped (lo : ℤ) (manager : List Typed → Option (UInt16 × List Typed))
    (ls : List Typed) : Prop where
  value : ∀ n rest, manager ls = some (n, rest) →
    ∃ pre t v, ls = pre ++ t :: rest ∧ Writes t.line v ∧ (n.toNat : ℤ) = v ∧ lo ≤ v ∧ v ≤ 65536
  again : ∀ pre t v rest, ls = pre ++ t :: rest → manager pre = none → Writes t.line v →
    v < lo ∨ 65536 < v → manager ls = manager rest

/-- The smallest feed number: there is no feed 0 to subscribe to or to download from. -/
def feedNumberMin (rqType : UInt8) : ℤ := if rqType = DOWNLOAD ∨ rqType = SUBSCRIBE then 1 else 0

/-! ### Which numbers are returned -/

/-- The `int` that `readint` makes of an integer. -/
def toInt (v : ℤ) : ℤ := Int.bmod (toLong v) (2 ^ 32)

lemma toInt_of_bounds {v : ℤ} (hlo : 0 ≤ v) (hhi : v ≤ 65535) : toInt v = v := by
  have hlong : toLong v = v := by
    rw [toLong]
    omega
  rw [toInt, hlong]
  exact Int.bmod_eq_of_le (by omega) (by omega)

lemma toNat_ofInt {v : ℤ} (hlo : 0 ≤ v) (hhi : v ≤ 65535) : ((UInt16.ofInt v).toNat : ℤ) = v := by
  rw [UInt16.ofInt, UInt16.toNat_ofNat']
  omega

lemma lineInt_eq_some {t : Typed} {k : ℤ} :
    lineInt t = some k ↔ ∃ v, Writes t.line v ∧ toInt v = k := by
  have hsome : lineInt t = some k ↔
      ∃ l, strtol t.line = some (l, []) ∧ Int.bmod l (2 ^ 32) = k := by
    rw [lineInt]
    split
    next l hl => simp [hl]
    next hne =>
      constructor
      · intro h
        cases h
      · rintro ⟨l, hl, -⟩
        exact (hne l hl).elim
  rw [hsome]
  constructor
  · rintro ⟨l, hl, rfl⟩
    obtain ⟨v, hv, rfl⟩ := strtol_eq_nil_iff.mp hl
    exact ⟨v, hv, rfl⟩
  · rintro ⟨v, hv, rfl⟩
    exact ⟨toLong v, strtol_eq_nil_iff.mpr ⟨v, hv, rfl⟩, rfl⟩

/-- The line is an integer that passes for a number that is not refused. -/
def Typed.Passes (refused : ℤ → Prop) (t : Typed) : Prop :=
  t.Fits INPUT_SIZE ∧ ∃ v, Writes t.line v ∧ ¬refused (toInt v)

variable {refused : ℤ → Prop} [DecidablePred refused]

/-- What the loop returns for a line. -/
def accepted (refused : ℤ → Prop) [DecidablePred refused] (t : Typed) : Option UInt16 :=
  ((Option.guard (fun t => t.line ≠ [] ∧ t.line.length < INPUT_SIZE) t).bind lineInt).bind
    fun number => if refused number then none else some (.ofInt number)

lemma accepted_eq_some {t : Typed} {n : UInt16} :
    accepted refused t = some n ↔ t.Fits INPUT_SIZE ∧
      ∃ v, Writes t.line v ∧ ¬refused (toInt v) ∧ UInt16.ofInt (toInt v) = n := by
  simp only [accepted, Option.bind_eq_some_iff, Option.guard_eq_some_iff, decide_eq_true_eq,
    lineInt_eq_some, Option.ite_none_left_eq_some, Option.some.injEq]
  constructor
  · rintro ⟨k, ⟨t', ⟨rfl, hfits⟩, v, hv, rfl⟩, hrefused, rfl⟩
    exact ⟨hfits, v, hv, hrefused, rfl⟩
  · rintro ⟨hfits, v, hv, hrefused, rfl⟩
    exact ⟨toInt v, ⟨t, ⟨rfl, hfits⟩, v, hv, rfl⟩, hrefused, rfl⟩

lemma accepted_eq_none {t : Typed} : accepted refused t = none ↔ ¬t.Passes refused := by
  rw [Option.eq_none_iff_forall_ne_some]
  constructor
  · rintro h ⟨hfits, v, hv, hrefused⟩
    exact h _ (accepted_eq_some.mpr ⟨hfits, v, hv, hrefused, rfl⟩)
  · intro h n hn
    obtain ⟨hfits, v, hv, hrefused, -⟩ := accepted_eq_some.mp hn
    exact h ⟨hfits, v, hv, hrefused⟩

lemma run_numberManager (ls : List Typed) :
    (numberManager refused).run ls = Reader.firstAccepted (accepted refused) ls := by
  rw [numberManager, readint, readstring, Reader.retry_first, Reader.retry_first]
  rfl

/-! ### When they are those typed -/

/-- Every integer that is reached is from 0 to 65534, or it is refused as the `int` that is made of
it. -/
def NumbersFit (refused : ℤ → Prop) (ls : List Typed) : Prop :=
  ∀ pre t v rest, ls = pre ++ t :: rest → (∀ x ∈ pre, ¬x.Passes refused) → t.Fits INPUT_SIZE →
    Writes t.line v → refused (toInt v) ∨ 0 ≤ v ∧ v < 65535

/-- **Numbers that are typed**, for a check that accepts exactly the numbers from `lo` to 65534 of
those that are not negative. -/
lemma numbersTyped_iff {lo : ℤ} (hlo : ∀ v, 0 ≤ v → (refused v ↔ v < lo ∨ 65535 ≤ v))
    (ls : List Typed) :
    NumbersTyped lo (numberManager refused).run ls ↔ NumbersFit refused ls := by
  constructor
  · intro h pre t v rest hls hpre hfits hv
    by_contra hnot
    obtain ⟨hrefused, hbounds⟩ := not_or.mp hnot
    have hrun : (numberManager refused).run ls = some (.ofInt (toInt v), rest) := by
      rw [run_numberManager, Reader.firstAccepted_eq_some]
      exact ⟨pre, t, hls, fun x hx => accepted_eq_none.mpr (hpre x hx),
        accepted_eq_some.mpr ⟨hfits, v, hv, hrefused, rfl⟩⟩
    obtain ⟨pre', t', v', hls', hv', hn, hlo', -⟩ := h.value _ _ hrun
    -- the line that the number is the one of is this one
    have hlast : pre ++ [t] = pre' ++ [t'] := by
      rw [hls, List.append_cons, List.append_cons pre'] at hls'
      exact List.append_cancel_right hls'
    obtain ⟨-, ht⟩ := List.append_inj' hlast rfl
    obtain rfl := List.singleton_inj.mp ht
    obtain rfl := hv.unique hv'
    have hlt := (UInt16.ofInt (toInt v)).toNat_lt
    have hint : toInt v = v := toInt_of_bounds (by omega) (by omega)
    rw [hint, hlo v (by omega)] at hrefused
    omega
  · intro h
    have hpasses : ∀ pre t rest, ls = pre ++ t :: rest → (∀ x ∈ pre, ¬x.Passes refused) →
        t.Fits INPUT_SIZE → ∀ v, Writes t.line v → ¬refused (toInt v) →
        0 ≤ v ∧ lo ≤ v ∧ v < 65535 := by
      intro pre t rest hls hpre hfits v hv hrefused
      obtain ⟨hpos, hlt⟩ := (h pre t v rest hls hpre hfits hv).resolve_left hrefused
      rw [toInt_of_bounds hpos hlt.le, hlo v hpos] at hrefused
      omega
    refine ⟨fun n rest hrun => ?_, fun pre t v rest hls hpre hv hbounds => ?_⟩
    · rw [run_numberManager, Reader.firstAccepted_eq_some] at hrun
      obtain ⟨pre, t, hls, hpre, ht⟩ := hrun
      obtain ⟨hfits, v, hv, hrefused, rfl⟩ := accepted_eq_some.mp ht
      obtain ⟨hpos, hge, hlt⟩ := hpasses pre t rest hls
        (fun x hx => accepted_eq_none.mp (hpre x hx)) hfits v hv hrefused
      refine ⟨pre, t, v, hls, hv, ?_, hge, by omega⟩
      rw [toInt_of_bounds hpos hlt.le, toNat_ofInt hpos hlt.le]
    · rw [run_numberManager, Reader.firstAccepted_eq_none] at hpre
      have hpre' := fun x hx => accepted_eq_none.mp (hpre x hx)
      have hnot : accepted refused t = none := by
        rw [accepted_eq_none]
        rintro ⟨hfits, v', hv', hrefused⟩
        obtain rfl := hv.unique hv'
        obtain ⟨hpos, hge, hlt⟩ := hpasses pre t rest hls hpre' hfits v hv hrefused
        omega
      rw [run_numberManager, run_numberManager, hls, Reader.firstAccepted_append hpre,
        Reader.firstAccepted_cons_none hnot]

/-- **The numbers that are returned are those typed** exactly when every integer that is reached is
one of those that are accepted, or is refused. -/
theorem numbers_typed_iff (rqType : UInt8) (ls : List Typed) :
    (NumbersTyped (feedNumberMin rqType) (feedNumberManager rqType).run ls ↔
      NumbersFit (FeedRefused rqType) ls) ∧
    (NumbersTyped 0 (countNumberManager LASTPOSTS) ls ↔ NumbersFit CountRefused ls) := by
  constructor
  · refine numbersTyped_iff (fun v hv => ?_) ls
    rw [FeedRefused, feedNumberMin, UINT16_MAX]
    split
    next htype =>
      simp only [htype, and_true]
      omega
    next htype =>
      simp only [htype, and_false, not_false_iff, and_true]
      omega
  · refine numbersTyped_iff (fun v hv => ?_) ls
    rw [CountRefused, UINT16_MAX]
    omega

lemma zero_notMem_minusOne : 0 ∉ [(45 : UInt8), 49] := by decide

/-- The line `-1`. -/
def minusOne : Typed := ⟨[45, 49], zero_notMem_minusOne, .noFile⟩

/-- The feed to subscribe to is 65535 when `-1` is typed. -/
theorem not_numbersTyped :
    (feedNumberManager SUBSCRIBE).run [minusOne] = some (65535, []) ∧
    ¬NumbersTyped (feedNumberMin SUBSCRIBE) (feedNumberManager SUBSCRIBE).run [minusOne] := by
  have hrun : (feedNumberManager SUBSCRIBE).run [minusOne] = some (65535, []) :=
    (run_numberManager _).trans rfl
  refine ⟨hrun, fun h => ?_⟩
  obtain ⟨pre, t, v, hls, hv, hn, -, -⟩ := h.value _ _ hrun
  have ht : t ∈ [minusOne] := by
    rw [hls]
    exact List.mem_append_right pre List.mem_cons_self
  obtain rfl := List.mem_singleton.mp ht
  have hdigit : ∀ c ∈ [(49 : UInt8)], isDigit c = true := by
    intro c hc
    rw [List.mem_singleton.mp hc]
    rfl
  have hwrites : Writes minusOne.line (-1) :=
    ⟨[], minusOne.line, rfl, List.forall_mem_nil _, .minus (List.cons_ne_nil _ _) hdigit⟩
  obtain rfl := hv.unique hwrites
  exact absurd hn (by decide)

end Megaphone
