import Mathlib.Tactic

/-!
Programs that read lines of input until one of them is accepted.

* `Reader`: a program that reads some of the lines, at least one.
* `Reader.first`: reading lines up to the first one that is accepted.
* `Reader.loop`, `Reader.retry`: checking what has been read, and reading again until the check
  accepts.
* `Reader.firstAccepted_eq_some`, `Reader.firstAccepted_eq_none`: which line is the first one.
* `Reader.retry_first`, `Reader.loop_first_eq_some`: a check around a loop that reads up to the
  first accepted line makes one such loop.
-/

/-- A program that reads lines: what it returns, with the lines that are left, or `none` when there
are not enough of them. -/
@[ext] structure Reader (L α : Type*) where
  run : List L → Option (α × List L)
  length_lt : ∀ {ls a rest}, run ls = some (a, rest) → rest.length < ls.length

namespace Reader

variable {L α β γ : Type*}

/-- The first line that is accepted, and the lines behind it. -/
def firstAccepted (accept : L → Option α) : List L → Option (α × List L)
  | [] => none
  | l :: ls =>
      match accept l with
      | some a => some (a, ls)
      | none => firstAccepted accept ls

lemma firstAccepted_cons_some {accept : L → Option α} {l : L} {a : α} (h : accept l = some a)
    (ls : List L) : firstAccepted accept (l :: ls) = some (a, ls) := by
  rw [firstAccepted, h]

lemma firstAccepted_cons_none {accept : L → Option α} {l : L} (h : accept l = none)
    (ls : List L) : firstAccepted accept (l :: ls) = firstAccepted accept ls := by
  rw [firstAccepted, h]

/-- Lines that are refused do not count. -/
lemma firstAccepted_append {accept : L → Option α} {pre : List L}
    (h : ∀ x ∈ pre, accept x = none) (ls : List L) :
    firstAccepted accept (pre ++ ls) = firstAccepted accept ls := by
  induction pre with
  | nil => rfl
  | cons x pre ih =>
      rw [List.cons_append, firstAccepted_cons_none (h x List.mem_cons_self)]
      exact ih fun y hy => h y (List.mem_cons_of_mem x hy)

/-- **Which line is accepted**: the first one that can be. -/
lemma firstAccepted_eq_some {accept : L → Option α} {ls rest : List L} {a : α} :
    firstAccepted accept ls = some (a, rest) ↔
      ∃ pre l, ls = pre ++ l :: rest ∧ (∀ x ∈ pre, accept x = none) ∧ accept l = some a := by
  induction ls with
  | nil => simp [firstAccepted]
  | cons l ls ih =>
      cases hl : accept l with
      | some b =>
          rw [firstAccepted_cons_some hl]
          constructor
          · intro h
            obtain ⟨rfl, rfl⟩ := Prod.mk.inj (Option.some.inj h)
            exact ⟨[], l, rfl, by simp, hl⟩
          · rintro ⟨pre, l', heq, hpre, hl'⟩
            cases pre with
            | nil =>
                obtain ⟨rfl, rfl⟩ := List.cons.inj heq
                rw [hl'] at hl
                rw [Option.some.inj hl]
            | cons x pre =>
                obtain ⟨rfl, -⟩ := List.cons.inj heq
                rw [hpre l List.mem_cons_self] at hl
                cases hl
      | none =>
          rw [firstAccepted_cons_none hl, ih]
          constructor
          · rintro ⟨pre, l', rfl, hpre, hl'⟩
            exact ⟨l :: pre, l', rfl, List.forall_mem_cons.mpr ⟨hl, hpre⟩, hl'⟩
          · rintro ⟨pre, l', heq, hpre, hl'⟩
            cases pre with
            | nil =>
                obtain ⟨rfl, rfl⟩ := List.cons.inj heq
                rw [hl] at hl'
                cases hl'
            | cons x pre =>
                obtain ⟨rfl, rfl⟩ := List.cons.inj heq
                exact ⟨pre, l', rfl, fun y hy => hpre y (List.mem_cons_of_mem _ hy), hl'⟩

lemma firstAccepted_eq_none {accept : L → Option α} {ls : List L} :
    firstAccepted accept ls = none ↔ ∀ l ∈ ls, accept l = none := by
  induction ls with
  | nil => simp [firstAccepted]
  | cons l ls ih =>
      rw [List.forall_mem_cons, ← ih]
      cases hl : accept l with
      | some a => simp [firstAccepted_cons_some hl]
      | none => simp [firstAccepted_cons_none hl]

/-- Reading lines up to the first one that is accepted. -/
def first (accept : L → Option α) : Reader L α where
  run := firstAccepted accept
  length_lt h := by
    obtain ⟨pre, l, rfl, -⟩ := firstAccepted_eq_some.mp h
    simp only [List.length_append, List.length_cons]
    omega

/-- Checking `a`, and reading something else with `r` for as long as the check refuses. -/
def loop (r : Reader L α) (check : α → Option β) (a : α) (ls : List L) : Option (β × List L) :=
  match check a with
  | some b => some (b, ls)
  | none =>
      match _hrun : r.run ls with
      | none => none
      | some (a', rest) => loop r check a' rest
termination_by ls.length
decreasing_by exact r.length_lt ‹_›

variable {r : Reader L α} {check : α → Option β}

lemma loop_of_some {a : α} {b : β} (h : check a = some b) (ls : List L) :
    r.loop check a ls = some (b, ls) := by
  rw [loop, h]

lemma loop_of_none {a : α} (h : check a = none) (ls : List L) :
    r.loop check a ls = (r.run ls).bind fun p => r.loop check p.1 p.2 := by
  rw [loop, h]
  cases hrun : r.run ls with
  | none => rfl
  | some p => rfl

/-- The loop leaves no more lines than there were. -/
lemma length_loop_le {a : α} {b : β} {ls rest : List L} (h : r.loop check a ls = some (b, rest)) :
    rest.length ≤ ls.length := by
  fun_induction loop r check a ls with
  | case1 a ls b' ha =>
      cases h
      exact le_rfl
  | case2 a ls ha hrun => cases h
  | case3 a ls ha a' rest' hrun ih => exact (ih h).trans (r.length_lt hrun).le

/-- Reading until a check accepts what has been read. -/
def retry (r : Reader L α) (check : α → Option β) : Reader L β where
  run ls := (r.run ls).bind fun p => r.loop check p.1 p.2
  length_lt h := by
    obtain ⟨p, hrun, h⟩ := Option.bind_eq_some_iff.mp h
    exact lt_of_le_of_lt (length_loop_le h) (r.length_lt hrun)

/-- What a loop returns has been accepted by its check. -/
lemma exists_of_loop {a : α} {b : β} {ls rest : List L} (h : r.loop check a ls = some (b, rest)) :
    ∃ a', check a' = some b := by
  fun_induction loop r check a ls with
  | case1 a ls b' ha =>
      cases h
      exact ⟨a, ha⟩
  | case2 a ls ha hrun => cases h
  | case3 a ls ha a' rest' hrun ih => exact ih h

lemma exists_of_retry {b : β} {ls rest : List L} (h : (r.retry check).run ls = some (b, rest)) :
    ∃ a, check a = some b := by
  obtain ⟨p, -, h⟩ := Option.bind_eq_some_iff.mp h
  exact exists_of_loop h

/-- **Two loops in one**: reading accepted lines until a check accepts one is reading up to the
first line that is accepted by both. -/
theorem run_retry_first (accept : L → Option α) (check : α → Option β) (ls : List L) :
    ((first accept).retry check).run ls = firstAccepted (fun l => (accept l).bind check) ls := by
  induction ls with
  | nil => rfl
  | cons l ls ih =>
      show (firstAccepted accept (l :: ls)).bind _ = _
      cases hl : accept l with
      | none =>
          rw [firstAccepted_cons_none hl, firstAccepted_cons_none (by rw [hl]; rfl)]
          exact ih
      | some a =>
          rw [firstAccepted_cons_some hl, Option.bind_some]
          cases ha : check a with
          | some b =>
              rw [loop_of_some ha, firstAccepted_cons_some (by rw [hl]; exact ha)]
          | none =>
              rw [loop_of_none ha, firstAccepted_cons_none (by rw [hl]; exact ha)]
              exact ih

/-- The loops as programs. -/
lemma retry_first (accept : L → Option α) (check : α → Option β) :
    (first accept).retry check = first fun l => (accept l).bind check := by
  ext1
  funext ls
  exact run_retry_first accept check ls

/-- The same when there is something to check before the first line is read. -/
lemma loop_first_eq_some {accept : L → Option α} {check : α → Option β} {a : α} {b : β}
    {ls rest : List L} :
    (first accept).loop check a ls = some (b, rest) ↔
      check a = some b ∧ rest = ls ∨ check a = none ∧
        firstAccepted (fun l => (accept l).bind check) ls = some (b, rest) := by
  cases ha : check a with
  | some b' => simp [loop_of_some ha, eq_comm]
  | none =>
      rw [loop_of_none ha, ← run_retry_first]
      simp [retry]

end Reader
