import Megaphone.Library.Machine

/-!
Threads that lock mutexes in the order of a rank.

* `Threads`, `step`: threads that call functions, of which only the calls on mutexes are left.
* `Ordered`: a thread locks only mutexes of a higher rank than those it holds, and gives all of
  them back.
* `Inv.todo_eq_nil`: no deadlock: when no thread goes on, they have all returned.
* `run_go_length`: the threads go on only so often before they have all returned.
-/

namespace LockOrder

variable {T M F : Type}

/-- A call on a mutex. -/
inductive Op (M : Type)
  | lock (m : M)
  | unlock (m : M)
  deriving DecidableEq

/-- The owners of the mutexes, and what the threads still have to call. -/
structure Threads (T M : Type) where
  owner : M → Option T
  todo : T → List (Op M)

/-- A thread calls a function, or goes on to the next call on a mutex. -/
inductive Act (T F : Type)
  | call (t : T) (f : F)
  | go (t : T)

/-- No thread is in a function. -/
def init (T M : Type) : Threads T M where
  owner := fun _ => none
  todo := fun _ => []

/-- The calls of a thread that holds the mutexes `P`, in the order of `rank`. -/
def Ordered (rank : M → ℕ) : (M → Prop) → List (Op M) → Prop
  | P, [] => ∀ m, ¬P m
  | P, .lock m :: ops => (∀ k, P k → rank k < rank m) ∧ Ordered rank (fun k => k = m ∨ P k) ops
  | P, .unlock m :: ops => P m ∧ Ordered rank (fun k => k ≠ m ∧ P k) ops

/-- Every thread goes on in the order of `rank`. -/
def Inv (rank : M → ℕ) (s : Threads T M) : Prop :=
  ∀ t, Ordered rank (fun m => s.owner m = some t) (s.todo t)

variable {prog : F → List (Op M)} {rank : M → ℕ} {s s' : Threads T M} {t : T} {a : Act T F}
  {o : Unit}

lemma Ordered.congr {P Q : M → Prop} {ops : List (Op M)} (h : Ordered rank P ops)
    (hiff : ∀ m, P m ↔ Q m) : Ordered rank Q ops := by
  rwa [← show P = Q from funext fun m => propext (hiff m)]

lemma inv_init : Inv rank (init T M) := by
  intro t m h
  cases h

/-! ### Steps -/

variable [DecidableEq T] [DecidableEq M]

/-- A mutex is not recursive: its owner, too, waits for it. -/
def step (prog : F → List (Op M)) (s : Threads T M) : Act T F → Option (Threads T M × Unit)
  | .call t f =>
      match s.todo t with
      | [] => some ({ s with todo := Function.update s.todo t (prog f) }, ())
      | _ :: _ => none
  | .go t =>
      match s.todo t with
      | [] => none
      | .lock m :: ops =>
          if s.owner m = none then
            some ({ owner := Function.update s.owner m (some t)
                    todo := Function.update s.todo t ops }, ())
          else none
      | .unlock m :: ops =>
          some ({ owner := Function.update s.owner m none
                  todo := Function.update s.todo t ops }, ())

/-- What a step does. -/
inductive StepCase (prog : F → List (Op M)) (s : Threads T M) : Act T F → Threads T M → Prop
  | calls {t : T} {f : F} (hnil : s.todo t = []) :
      StepCase prog s (.call t f) { s with todo := Function.update s.todo t (prog f) }
  | locks {t : T} {m : M} {ops : List (Op M)} (hops : s.todo t = .lock m :: ops)
      (hfree : s.owner m = none) :
      StepCase prog s (.go t)
        { owner := Function.update s.owner m (some t), todo := Function.update s.todo t ops }
  | unlocks {t : T} {m : M} {ops : List (Op M)} (hops : s.todo t = .unlock m :: ops) :
      StepCase prog s (.go t)
        { owner := Function.update s.owner m none, todo := Function.update s.todo t ops }

lemma step_cases (h : step prog s a = some (s', o)) : StepCase prog s a s' := by
  cases a with
  | call t f =>
      rw [step] at h
      split at h
      next hnil =>
        cases h
        exact .calls hnil
      next => cases h
  | go t =>
      rw [step] at h
      split at h
      next => cases h
      next m ops hops =>
        split at h
        next hfree =>
          cases h
          exact .locks hops hfree
        next => cases h
      next m ops hops =>
        cases h
        exact .unlocks hops

/-- **A step** keeps the order, when every function does. -/
lemma Inv.step (h : Inv rank s) (hprog : ∀ f, Ordered rank (fun _ => False) (prog f))
    (hstep : step prog s a = some (s', o)) : Inv rank s' := by
  intro u
  cases step_cases hstep with
  | @calls t f hnil =>
      by_cases hu : u = t
      · subst hu
        have hnone := h u
        rw [hnil] at hnone
        simp only [Function.update_self]
        exact (hprog f).congr fun m => iff_of_false id (hnone m)
      · simp only [Function.update_of_ne hu]
        exact h u
  | @locks t m ops hops hfree =>
      by_cases hu : u = t
      · subst hu
        have hlock := h u
        rw [hops] at hlock
        simp only [Function.update_self]
        refine hlock.2.congr fun k => ?_
        by_cases hk : k = m
        · subst hk
          simp only [true_or, Function.update_self]
        · simp only [hk, false_or, Function.update_of_ne hk]
      · simp only [Function.update_of_ne hu]
        refine (h u).congr fun k => ?_
        by_cases hk : k = m
        · subst hk
          rw [Function.update_self, hfree]
          exact iff_of_false nofun fun heq => hu (Option.some.inj heq).symm
        · rw [Function.update_of_ne hk]
  | @unlocks t m ops hops =>
      have hunlock := h t
      rw [hops] at hunlock
      by_cases hu : u = t
      · subst hu
        simp only [Function.update_self]
        refine hunlock.2.congr fun k => ?_
        by_cases hk : k = m
        · subst hk
          rw [Function.update_self]
          exact iff_of_false (fun hne => hne.1 rfl) nofun
        · rw [Function.update_of_ne hk]
          exact and_iff_right hk
      · simp only [Function.update_of_ne hu]
        refine (h u).congr fun k => ?_
        by_cases hk : k = m
        · subst hk
          rw [Function.update_self, hunlock.1]
          exact iff_of_false (fun heq => hu (Option.some.inj heq).symm) nofun
        · rw [Function.update_of_ne hk]

/-! ### Deadlocks -/

/-- The rank of the mutex that a thread is about to lock. -/
def wanted (rank : M → ℕ) (s : Threads T M) (t : T) : ℕ :=
  match s.todo t with
  | .lock m :: _ => rank m + 1
  | _ => 0

/-- A thread that does not go on is about to lock a mutex that has an owner. -/
lemma exists_owner (hstuck : LockOrder.step prog s (.go t) = none) (hnonempty : s.todo t ≠ []) :
    ∃ m ops u, s.todo t = .lock m :: ops ∧ s.owner m = some u := by
  rw [LockOrder.step] at hstuck
  split at hstuck
  next hnil => exact absurd hnil hnonempty
  next m ops hops =>
    split at hstuck
    next => cases hstuck
    next howned =>
      obtain ⟨u, hu⟩ := Option.ne_none_iff_exists'.mp howned
      exact ⟨m, ops, u, hops, hu⟩
  next => cases hstuck

/-- It waits for a thread that wants a mutex of a higher rank, when that one does not go on
either. -/
lemma Inv.exists_wanted_lt (h : Inv rank s)
    (hstuck : ∀ u, LockOrder.step prog s (.go u) = none) (hnonempty : s.todo t ≠ []) :
    ∃ u, wanted rank s t < wanted rank s u := by
  obtain ⟨m, ops, u, hops, howner⟩ := exists_owner (hstuck t) hnonempty
  have hordered := h u
  have hnonempty' : s.todo u ≠ [] := by
    intro hnil
    rw [hnil] at hordered
    exact hordered m howner
  obtain ⟨m', ops', v, hops', -⟩ := exists_owner (hstuck u) hnonempty'
  rw [hops'] at hordered
  have hlt : rank m < rank m' := hordered.1 m howner
  refine ⟨u, ?_⟩
  rw [wanted, wanted, hops, hops']
  exact Nat.succ_lt_succ hlt

variable [Fintype T]

/-- How often the threads go on before they return. -/
def work (s : Threads T M) : ℕ := ∑ t, (s.todo t).length

/-- **No deadlock**: as long as a thread has not returned, one goes on. -/
theorem Inv.todo_eq_nil (h : Inv rank s) (hstuck : ∀ u, LockOrder.step prog s (.go u) = none)
    (t : T) : s.todo t = [] := by
  by_contra hnonempty
  -- the thread that wants the mutex of the highest rank waits for another one
  obtain ⟨u, -, hmax⟩ := Finset.exists_max_image Finset.univ (wanted rank s) ⟨t, Finset.mem_univ t⟩
  have hlt : ∀ v, wanted rank s v ≤ wanted rank s u := fun v => hmax v (Finset.mem_univ v)
  have hnil : s.todo u = [] := by
    by_contra hne
    obtain ⟨v, hv⟩ := h.exists_wanted_lt hstuck hne
    exact absurd (hlt v) (not_le.mpr hv)
  obtain ⟨v, hv⟩ := h.exists_wanted_lt hstuck hnonempty
  have hzero : wanted rank s u = 0 := by rw [wanted, hnil]
  have hle := hlt v
  omega

/-- Each time that a thread goes on, one call is done. -/
lemma work_go (h : LockOrder.step prog s (.go t) = some (s', o)) : work s' + 1 = work s := by
  have hupdate : ∀ {op : Op M} {ops : List (Op M)}, s.todo t = op :: ops →
      (∑ u, (Function.update s.todo t ops u).length) + 1 = work s := by
    intro op ops hops
    have hsum := Finset.sum_update_of_mem (Finset.mem_univ t) (fun u => (s.todo u).length)
      ops.length
    have hself : work s = (s.todo t).length +
        ∑ u ∈ Finset.univ \ {t}, (s.todo u).length :=
      (Finset.sum_eq_add_sum_sdiff_singleton_of_mem (Finset.mem_univ t) _)
    have hcomp : (fun u => (Function.update s.todo t ops u).length) =
        Function.update (fun u => (s.todo u).length) t ops.length :=
      (Function.comp_update List.length s.todo t ops)
    rw [hcomp, hsum, hself, hops, List.length_cons]
    omega
  cases step_cases h with
  | locks hops => exact hupdate hops
  | unlocks hops => exact hupdate hops

/-- **The threads go on only so often.** -/
lemma run_go_length {ts : List (Machine.Transition (Threads T M) (Act T F) Unit)}
    (h : Machine.Run (LockOrder.step prog) s ts s') (hgo : ∀ tr ∈ ts, ∃ t, tr.act = .go t) :
    ts.length + work s' = work s := by
  induction h with
  | nil => exact Nat.zero_add _
  | cons hstep hrun ih =>
      obtain ⟨t, rfl⟩ := hgo _ (.head _)
      have hwork := work_go hstep
      have hlength := ih fun tr htr => hgo tr (.tail _ htr)
      rw [List.length_cons]
      omega

end LockOrder
