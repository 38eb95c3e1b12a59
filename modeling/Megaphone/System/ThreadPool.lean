import Megaphone.Library.Machine
import Megaphone.Library.Joins

/-!
The thread pool (`thread_pool.c`).

* `Thread`, `Pc`, `ThreadPool`: the threads, where each of them is, and the pool.
* `go`, `step`: one thread takes one step, in any order.
* `Effect`, `go_effect`: what such a step does to the mutex and to the joins.
* `MutexInv`, `JoinInv`: who owns `q_mutex`, and who waits for whom.
* `Safe`, `safe_iff`: no thread locks the mutex that it owns, and the storage is freed at most once,
  exactly as long as no worker leaves its loop with the mutex.
-/

namespace Megaphone

/-! ### The pool -/

/-- The workers of a pool, the thread that has made it, and others that call `add_job`. -/
inductive Thread (n : ℕ)
  | worker (i : Fin n)
  | main
  | caller (k : ℕ)
  deriving DecidableEq

/-- The loops over the joins of all workers: the one of `thread_pool_wait`, and the one of
`thread_pool_shutdown`. -/
inductive JoinLoop
  | wait
  | shutdown

/-- Where a thread is, by what it does next.

* `idle`: outside of the pool;
* `addLock` to `addUnlock`: in `add_job`;
* `lock` to `clear`: in `thread_pool_job`, where `waiting` and `woken` are inside of
  `pthread_cond_wait`, `test` is the test of `active` behind the wait, `job node` runs the job that
  has been taken, and `clear` is behind a job that has returned `NULL`;
* `join`, `joining`: before and in `pthread_join` on worker `i`;
* `sdLock` to `sdUnlock`, `free`: in `thread_pool_shutdown`;
* `exited`: behind it. -/
inductive Pc (J : Type)
  | idle
  | addLock (job : J)
  | addEnqueue (job : J)
  | addSignal
  | addUnlock
  | lock
  | loop
  | waiting
  | woken
  | test
  | dequeue
  | unlock (node : Option J)
  | job (node : Option J)
  | clear
  | join (loop : JoinLoop) (i : ℕ)
  | joining (loop : JoinLoop) (i : ℕ)
  | sdLock
  | sdClear
  | sdBroadcast
  | sdUnlock
  | free
  | exited

/-- `ThreadPool`, with the owner of `q_mutex`, where the threads are, by which thread each is waited
for in `pthread_join`, and how often the storage has been freed. -/
structure ThreadPool (n : ℕ) (J : Type) where
  active : Bool
  jobs : List J
  owner : Option (Thread n)
  pc : Thread n → Pc J
  joinid : Thread n → Option (Thread n)
  freed : ℕ

namespace Pc

variable {J : Type}

/-- A thread that waits on the condition is woken up. -/
def wakeUp : Pc J → Pc J
  | .waiting => .woken
  | pc => pc

/-- The next thing that the thread does is to lock `q_mutex`. -/
def locks : Pc J → Bool
  | .addLock _ => true
  | .lock => true
  | .woken => true
  | .sdLock => true
  | _ => false

/-- Between a lock and an unlock of `q_mutex`. -/
def holding : Pc J → Bool
  | .addEnqueue _ => true
  | .addSignal => true
  | .addUnlock => true
  | .loop => true
  | .test => true
  | .dequeue => true
  | .unlock _ => true
  | .sdClear => true
  | .sdBroadcast => true
  | .sdUnlock => true
  | _ => false

/-- The worker that is waited for. -/
def waitsFor : Pc J → Option ℕ
  | .joining _ i => some i
  | _ => none

/-- The number of workers whose joins have been passed, of `n`. -/
def passed (n : ℕ) : Pc J → ℕ
  | .join _ i => i
  | .free => n
  | .exited => n
  | _ => 0

/-- Inside of `add_job` or outside of the pool. -/
def isCaller : Pc J → Bool
  | .idle => true
  | .addLock _ => true
  | .addEnqueue _ => true
  | .addSignal => true
  | .addUnlock => true
  | _ => false

/-- Behind `thread_pool_shutdown`. -/
def isExited : Pc J → Bool
  | .exited => true
  | _ => false

variable {n : ℕ} {pc : Pc J}

@[simp] lemma holding_wakeUp (pc : Pc J) : pc.wakeUp.holding = pc.holding := by cases pc <;> rfl

@[simp] lemma waitsFor_wakeUp (pc : Pc J) : pc.wakeUp.waitsFor = pc.waitsFor := by cases pc <;> rfl

@[simp] lemma passed_wakeUp (pc : Pc J) : pc.wakeUp.passed n = pc.passed n := by cases pc <;> rfl

@[simp] lemma isCaller_wakeUp (pc : Pc J) : pc.wakeUp.isCaller = pc.isCaller := by cases pc <;> rfl

@[simp] lemma isExited_wakeUp (pc : Pc J) : pc.wakeUp.isExited = pc.isExited := by cases pc <;> rfl

/-- What comes after a lock is not a lock. -/
lemma locks_of_holding (h : pc.holding = true) : pc.locks = false := by
  cases pc with
  | addLock | lock | woken | sdLock => cases h
  | _ => rfl

lemma isCaller_of_waitsFor {i : ℕ} (h : pc.waitsFor = some i) : pc.isCaller = false := by
  cases pc with
  | joining => rfl
  | _ => cases h

lemma eq_exited (h : pc.isExited = true) : pc = .exited := by
  cases pc with
  | exited => rfl
  | _ => cases h

end Pc

namespace ThreadPool

variable {n : ℕ} {J : Type}

/-- `thread_pool_init` for `n` workers. -/
def threadPoolInit (n : ℕ) (J : Type) : ThreadPool n J :=
  { active := true
    jobs := []
    owner := none
    pc := fun t => match t with
      | .worker _ => .lock
      | _ => .idle
    joinid := fun _ => none
    freed := 0 }

/-- The thread `t` goes on at `pc`. -/
def goto (s : ThreadPool n J) (t : Thread n) (pc : Pc J) : ThreadPool n J :=
  { s with pc := Function.update s.pc t pc }

/-- `pthread_mutex_lock` on `q_mutex`: nothing happens until no thread owns it. -/
def lockMutex (s : ThreadPool n J) (t : Thread n) (pc : Pc J) : Option (ThreadPool n J) :=
  if s.owner = none then some { s.goto t pc with owner := some t } else none

/-- `pthread_mutex_unlock`. -/
def unlockMutex (s : ThreadPool n J) (t : Thread n) (pc : Pc J) : ThreadPool n J :=
  { s.goto t pc with owner := none }

/-- A thread is woken up, if it waits on the condition. -/
def wake (s : ThreadPool n J) (t : Thread n) : ThreadPool n J :=
  s.goto t (s.pc t).wakeUp

/-- `pthread_cond_signal`, which wakes up the thread `u`, if any. -/
def signal (s : ThreadPool n J) (u : Option (Thread n)) : ThreadPool n J :=
  match u with
  | some u => s.wake u
  | none => s

/-- `pthread_cond_broadcast`. -/
def broadcast (s : ThreadPool n J) : ThreadPool n J :=
  { s with pc := fun t => (s.pc t).wakeUp }

/-- The body of a loop over the workers: `pthread_join` fails with `EDEADLK` on the thread itself
and on one that waits for it, and with `EINVAL` on one that is waited for already, and these errors
are ignored; otherwise it waits. -/
def pthreadJoin (s : ThreadPool n J) (t : Thread n) (loop : JoinLoop) (i : ℕ) (w : Thread n) :
    ThreadPool n J :=
  if Joins.Passes s.joinid t w then s.goto t (.join loop (i + 1))
  else { s.goto t (.joining loop i) with joinid := Function.update s.joinid w (some t) }

/-- The thread `t` takes a step.  When it is one of a job, `null` is whether the job returns `NULL`;
`woken` is the thread that a signal wakes up.  No worker ever ends, so that a join that waits does
not return. -/
def go (s : ThreadPool n J) (t : Thread n) (null : Bool) (woken : Option (Thread n)) :
    Option (ThreadPool n J) :=
  match s.pc t with
  | .idle => none
  | .addLock job => s.lockMutex t (.addEnqueue job)
  | .addEnqueue job => some { s.goto t .addSignal with jobs := s.jobs ++ [job] }
  | .addSignal => some ((s.signal woken).goto t .addUnlock)
  | .addUnlock => some (s.unlockMutex t .idle)
  | .lock => s.lockMutex t .loop
  | .loop =>
      if s.jobs.isEmpty ∧ s.active then some (s.unlockMutex t .waiting) else some (s.goto t .test)
  | .waiting => none
  | .woken => s.lockMutex t .loop
  | .test => if s.active then some (s.goto t .dequeue) else some (s.goto t .sdLock)
  | .dequeue => some { s.goto t (.unlock s.jobs.head?) with jobs := s.jobs.tail }
  | .unlock node => some (s.unlockMutex t (.job node))
  | .job none => some (s.goto t .lock)
  | .job (some _) => some (s.goto t (if null then .clear else .lock))
  | .clear => some { s.goto t .sdLock with active := false }
  | .join loop i =>
      if h : i < n then some (s.pthreadJoin t loop i (.worker ⟨i, h⟩))
      else some (s.goto t (match loop with
        | .wait => .sdLock
        | .shutdown => .free))
  | .joining _ _ => none
  | .sdLock => s.lockMutex t .sdClear
  | .sdClear => some { s.goto t .sdBroadcast with active := false }
  | .sdBroadcast => some (s.broadcast.goto t .sdUnlock)
  | .sdUnlock => some (s.unlockMutex t (.join .shutdown 0))
  | .free => some { s.goto t .exited with freed := s.freed + 1 }
  | .exited => none

/-- What may happen: a thread that is outside of the pool calls `add_job`, or the main thread
`thread_pool_wait`, with `thread_pool_shutdown` behind it; a thread that waits is woken up, which
may happen at any time; or a thread takes a step. -/
inductive PoolAct (n : ℕ) (J : Type)
  | addJob (t : Thread n) (job : J)
  | poolWait
  | wake (t : Thread n)
  | go (t : Thread n) (null : Bool) (woken : Option (Thread n))

/-- The machine. -/
def step (s : ThreadPool n J) : PoolAct n J → Option (ThreadPool n J × Unit)
  | .addJob t job =>
      match s.pc t with
      | .idle => some (s.goto t (.addLock job), ())
      | _ => none
  | .poolWait =>
      match s.pc .main with
      | .idle => some (s.goto .main (.join .wait 0), ())
      | _ => none
  | .wake t => some (s.wake t, ())
  | .go t null woken => (s.go t null woken).map fun s => (s, ())

/-! ### What a step does -/

variable {s s' : ThreadPool n J} {t : Thread n}

/-- Some threads that wait on the condition are woken up, and nothing else happens. -/
structure Wakes (s s' : ThreadPool n J) : Prop where
  pc_eq : ∀ u, s'.pc u = s.pc u ∨ s'.pc u = (s.pc u).wakeUp
  rest_eq : s' = { s with pc := s'.pc }

/-- Steps that have nothing to do with the joins. -/
structure Plain (n : ℕ) (t : Thread n) (pc pc' : Pc J) : Prop where
  waitsFor_eq : pc.waitsFor = none
  waitsFor_eq' : pc'.waitsFor = none
  passed_le : pc'.passed n ≤ pc.passed n
  isCaller : pc.isCaller = true → pc'.isCaller = true ∨ t = .main
  isExited : pc.isExited = false

/-- What a step of the thread `t` does to the mutex and to the joins.

* `moves`: nothing;
* `acquires`, `releases`: the mutex is locked or unlocked;
* `leaves`: a worker leaves its loop with the mutex;
* `passes`, `waits`: a join returns at once, or waits;
* `frees`: the storage is freed. -/
inductive Effect (s : ThreadPool n J) (t : Thread n) : ThreadPool n J → Prop
  | moves {s' : ThreadPool n J} {pc pc' : Pc J} (hpc : s.pc t = pc)
      (hpc' : s'.pc = Function.update s.pc t pc') (howner : s'.owner = s.owner)
      (hjoinid : s'.joinid = s.joinid) (hfreed : s'.freed = s.freed)
      (hholding : pc'.holding = pc.holding) (hplain : Plain n t pc pc') : Effect s t s'
  | acquires {pc pc' : Pc J} (hpc : s.pc t = pc) (howner : s.owner = none)
      (hholding : pc'.holding = true) (hplain : Plain n t pc pc') :
      Effect s t { s.goto t pc' with owner := some t }
  | releases {pc pc' : Pc J} (hpc : s.pc t = pc) (hholding : pc.holding = true)
      (hholding' : pc'.holding = false) (hplain : Plain n t pc pc') :
      Effect s t (s.unlockMutex t pc')
  | leaves (hpc : s.pc t = .test) (hactive : s.active = false) : Effect s t (s.goto t .sdLock)
  | passes {loop : JoinLoop} {i : ℕ} (hpc : s.pc t = .join loop i) (hi : i < n)
      (hpasses : Joins.Passes s.joinid t (.worker ⟨i, hi⟩)) :
      Effect s t (s.goto t (.join loop (i + 1)))
  | waits {loop : JoinLoop} {i : ℕ} (hpc : s.pc t = .join loop i) (hi : i < n)
      (hpasses : ¬Joins.Passes s.joinid t (.worker ⟨i, hi⟩)) :
      Effect s t { s.goto t (.joining loop i) with
        joinid := Function.update s.joinid (.worker ⟨i, hi⟩) (some t) }
  | frees (hpc : s.pc t = .free) :
      Effect s t { s.goto t .exited with freed := s.freed + 1 }

namespace Wakes

lemma refl (s : ThreadPool n J) : Wakes s s := ⟨fun _ => .inl rfl, rfl⟩

lemma owner_eq (h : Wakes s s') : s'.owner = s.owner := by rw [h.rest_eq]

lemma active_eq (h : Wakes s s') : s'.active = s.active := by rw [h.rest_eq]

lemma joinid_eq (h : Wakes s s') : s'.joinid = s.joinid := by rw [h.rest_eq]

lemma freed_eq (h : Wakes s s') : s'.freed = s.freed := by rw [h.rest_eq]

/-- What does not depend on whether a thread has been woken up is as before. -/
lemma apply_eq {α : Type} {f : Pc J → α} (h : Wakes s s') (hf : ∀ pc, f pc.wakeUp = f pc)
    (u : Thread n) : f (s'.pc u) = f (s.pc u) := by
  obtain heq | heq := h.pc_eq u
  · rw [heq]
  · rw [heq, hf]

/-- A thread that does not wait goes on where it was. -/
lemma pc_of_ne (h : Wakes s s') (ht : (s.pc t).wakeUp = s.pc t) : s'.pc t = s.pc t := by
  obtain heq | heq := h.pc_eq t
  · exact heq
  · rw [heq, ht]

end Wakes

lemma wakes_wake (s : ThreadPool n J) (t : Thread n) : Wakes s (s.wake t) := by
  refine ⟨fun u => ?_, rfl⟩
  rw [wake, goto]
  by_cases hu : u = t
  · subst hu
    exact .inr (Function.update_self ..)
  · exact .inl (Function.update_of_ne hu ..)

lemma wakes_signal (s : ThreadPool n J) (woken : Option (Thread n)) : Wakes s (s.signal woken) := by
  cases woken with
  | none => exact .refl s
  | some u => exact s.wakes_wake u

lemma wakes_broadcast (s : ThreadPool n J) : Wakes s s.broadcast :=
  ⟨fun _ => .inr rfl, rfl⟩

/-- Such a step in the pool. -/
lemma Plain.inside {pc pc' : Pc J} (hcaller : pc.isCaller = false) (hexited : pc.isExited = false)
    (hwaits : pc.waitsFor = none) (hwaits' : pc'.waitsFor = none)
    (hpassed : pc'.passed n ≤ pc.passed n) : Plain n t pc pc' :=
  ⟨hwaits, hwaits', hpassed, fun h => absurd (hcaller.symm.trans h) Bool.false_ne_true, hexited⟩

/-- A lock that succeeds. -/
lemma lockMutex_effect {pc pc' : Pc J} (hpc : s.pc t = pc) (h : s.lockMutex t pc' = some s')
    (hholding : pc'.holding = true) (hplain : Plain n t pc pc') :
    ∃ s₁, Wakes s s₁ ∧ s₁.pc t = pc ∧ Effect s₁ t s' := by
  obtain ⟨howner, heq⟩ := Option.ite_none_right_eq_some.mp h
  cases heq
  exact ⟨s, .refl s, hpc, .acquires hpc howner hholding hplain⟩

/-- **A step of a thread**, by its effect on the mutex and on the joins. -/
lemma go_effect {null : Bool} {woken : Option (Thread n)} (h : s.go t null woken = some s') :
    ∃ s₁, Wakes s s₁ ∧ s₁.pc t = s.pc t ∧ Effect s₁ t s' := by
  cases hpc : s.pc t with
  | idle => simp only [go, hpc, reduceCtorEq] at h
  | addLock job =>
      simp only [go, hpc] at h
      exact lockMutex_effect hpc h rfl ⟨rfl, rfl, le_rfl, fun _ => .inl rfl, rfl⟩
  | addEnqueue job =>
      simp only [go, hpc, Option.some.injEq] at h
      subst h
      exact ⟨s, .refl s, hpc,
        .moves hpc rfl rfl rfl rfl rfl ⟨rfl, rfl, le_rfl, fun _ => .inl rfl, rfl⟩⟩
  | addSignal =>
      simp only [go, hpc, Option.some.injEq] at h
      subst h
      have hwakes := s.wakes_signal woken
      have hpc' := (hwakes.pc_of_ne (t := t) (by rw [hpc]; rfl)).trans hpc
      exact ⟨_, hwakes, hpc',
        .moves hpc' rfl rfl rfl rfl rfl ⟨rfl, rfl, le_rfl, fun _ => .inl rfl, rfl⟩⟩
  | addUnlock =>
      simp only [go, hpc, Option.some.injEq] at h
      subst h
      exact ⟨s, .refl s, hpc, .releases hpc rfl rfl ⟨rfl, rfl, le_rfl, fun _ => .inl rfl, rfl⟩⟩
  | lock =>
      simp only [go, hpc] at h
      exact lockMutex_effect hpc h rfl (.inside rfl rfl rfl rfl le_rfl)
  | loop =>
      simp only [go, hpc] at h
      split at h
      · cases h
        exact ⟨s, .refl s, hpc, .releases hpc rfl rfl (.inside rfl rfl rfl rfl le_rfl)⟩
      · cases h
        exact ⟨s, .refl s, hpc,
          .moves hpc rfl rfl rfl rfl rfl (.inside rfl rfl rfl rfl le_rfl)⟩
  | waiting => simp only [go, hpc, reduceCtorEq] at h
  | woken =>
      simp only [go, hpc] at h
      exact lockMutex_effect hpc h rfl (.inside rfl rfl rfl rfl le_rfl)
  | test =>
      simp only [go, hpc] at h
      split at h
      · cases h
        exact ⟨s, .refl s, hpc,
          .moves hpc rfl rfl rfl rfl rfl (.inside rfl rfl rfl rfl le_rfl)⟩
      · rename_i hactive
        cases h
        exact ⟨s, .refl s, hpc, .leaves hpc (Bool.eq_false_iff.mpr hactive)⟩
  | dequeue =>
      simp only [go, hpc, Option.some.injEq] at h
      subst h
      exact ⟨s, .refl s, hpc, .moves hpc rfl rfl rfl rfl rfl (.inside rfl rfl rfl rfl le_rfl)⟩
  | unlock node =>
      simp only [go, hpc, Option.some.injEq] at h
      subst h
      exact ⟨s, .refl s, hpc, .releases hpc rfl rfl (.inside rfl rfl rfl rfl le_rfl)⟩
  | job node =>
      cases node with
      | none =>
          simp only [go, hpc, Option.some.injEq] at h
          subst h
          exact ⟨s, .refl s, hpc,
            .moves hpc rfl rfl rfl rfl rfl (.inside rfl rfl rfl rfl le_rfl)⟩
      | some job =>
          simp only [go, hpc, Option.some.injEq] at h
          subst h
          refine ⟨s, .refl s, hpc, .moves hpc rfl rfl rfl rfl ?_ ?_⟩
          · cases null <;> rfl
          · cases null <;> exact .inside rfl rfl rfl rfl le_rfl
  | clear =>
      simp only [go, hpc, Option.some.injEq] at h
      subst h
      exact ⟨s, .refl s, hpc, .moves hpc rfl rfl rfl rfl rfl (.inside rfl rfl rfl rfl le_rfl)⟩
  | join loop i =>
      simp only [go, hpc] at h
      split at h
      · rename_i hi
        rw [Option.some.injEq, pthreadJoin] at h
        subst h
        refine ⟨s, .refl s, hpc, ?_⟩
        split
        · rename_i hpasses
          exact .passes hpc hi hpasses
        · rename_i hpasses
          exact .waits hpc hi hpasses
      · rename_i hi
        cases h
        refine ⟨s, .refl s, hpc, .moves hpc rfl rfl rfl rfl ?_ ?_⟩
        · cases loop <;> rfl
        · cases loop with
          | wait => exact .inside rfl rfl rfl rfl (Nat.zero_le _)
          | shutdown => exact .inside rfl rfl rfl rfl (Nat.not_lt.mp hi)
  | joining loop i => simp only [go, hpc, reduceCtorEq] at h
  | sdLock =>
      simp only [go, hpc] at h
      exact lockMutex_effect hpc h rfl (.inside rfl rfl rfl rfl le_rfl)
  | sdClear =>
      simp only [go, hpc, Option.some.injEq] at h
      subst h
      exact ⟨s, .refl s, hpc, .moves hpc rfl rfl rfl rfl rfl (.inside rfl rfl rfl rfl le_rfl)⟩
  | sdBroadcast =>
      simp only [go, hpc, Option.some.injEq] at h
      subst h
      have hwakes := s.wakes_broadcast
      have hpc' := (hwakes.pc_of_ne (t := t) (by rw [hpc]; rfl)).trans hpc
      exact ⟨_, hwakes, hpc',
        .moves hpc' rfl rfl rfl rfl rfl (.inside rfl rfl rfl rfl le_rfl)⟩
  | sdUnlock =>
      simp only [go, hpc, Option.some.injEq] at h
      subst h
      exact ⟨s, .refl s, hpc, .releases hpc rfl rfl (.inside rfl rfl rfl rfl le_rfl)⟩
  | free =>
      simp only [go, hpc, Option.some.injEq] at h
      subst h
      exact ⟨s, .refl s, hpc, .frees hpc⟩
  | exited => simp only [go, hpc, reduceCtorEq] at h

/-- **A step**, by the effect of the thread that takes it.  The test of `active` is one of `go`. -/
lemma step_effect {a : PoolAct n J} {o : Unit} (h : step s a = some (s', o)) :
    ∃ s₁, Wakes s s₁ ∧ (s' = s₁ ∨ ∃ t, s₁.pc t = s.pc t ∧ Effect s₁ t s' ∧
      (s.pc t = .test → ∃ null woken, a = .go t null woken)) := by
  cases a with
  | addJob t job =>
      simp only [step] at h
      split at h
      · rename_i hpc
        cases h
        refine ⟨s, .refl s, .inr ⟨t, rfl, .moves hpc rfl rfl rfl rfl rfl
          ⟨rfl, rfl, le_rfl, fun _ => .inl rfl, rfl⟩, fun htest => ?_⟩⟩
        rw [hpc] at htest
        cases htest
      · cases h
  | poolWait =>
      simp only [step] at h
      split at h
      · rename_i hpc
        cases h
        refine ⟨s, .refl s, .inr ⟨.main, rfl, .moves hpc rfl rfl rfl rfl rfl
          ⟨rfl, rfl, le_rfl, fun _ => .inr rfl, rfl⟩, fun htest => ?_⟩⟩
        rw [hpc] at htest
        cases htest
      · cases h
  | wake t =>
      cases h
      exact ⟨_, s.wakes_wake t, .inl rfl⟩
  | go t null woken =>
      obtain ⟨s'', hgo, heq⟩ := Option.map_eq_some_iff.mp h
      cases heq
      obtain ⟨s₁, hwakes, hpc, heffect⟩ := go_effect hgo
      exact ⟨s₁, hwakes, .inr ⟨t, hpc, heffect, fun _ => ⟨null, woken, rfl⟩⟩⟩

/-! ### The mutex -/

/-- A thread owns the mutex just when it is between a lock and an unlock of it. -/
def MutexInv (s : ThreadPool n J) : Prop := ∀ t, s.owner = some t ↔ (s.pc t).holding = true

lemma mutexInv_init : MutexInv (threadPoolInit n J) := by
  intro t
  cases t <;> simp [threadPoolInit, Pc.holding]

lemma MutexInv.wakes (h : MutexInv s) (hwakes : Wakes s s') : MutexInv s' := by
  intro u
  rw [hwakes.apply_eq Pc.holding_wakeUp, hwakes.owner_eq]
  exact h u

/-- Only the thread that takes a step may own the mutex otherwise than before. -/
lemma MutexInv.update {pc : Pc J} (h : MutexInv s) (hpc : s'.pc = Function.update s.pc t pc)
    (ht : s'.owner = some t ↔ pc.holding = true)
    (hne : ∀ u, u ≠ t → (s'.owner = some u ↔ s.owner = some u)) : MutexInv s' := by
  intro u
  rw [hpc]
  by_cases hu : u = t
  · rw [hu, Function.update_self]
    exact ht
  · rw [Function.update_of_ne hu, hne u hu]
    exact h u

/-- A worker that leaves its loop with the mutex is the only one to break the invariant. -/
lemma MutexInv.effect (h : MutexInv s) (heffect : Effect s t s')
    (hstays : ¬(s.pc t = .test ∧ s.active = false)) : MutexInv s' := by
  cases heffect with
  | moves hpc hpc' howner _ _ hholding _ =>
      refine h.update hpc' ?_ fun u _ => by rw [howner]
      rw [howner, hholding, ← hpc]
      exact h t
  | acquires hpc howner hholding _ =>
      refine h.update rfl (iff_of_true rfl hholding) fun u hu => ?_
      rw [howner]
      exact iff_of_false (fun heq => hu (Option.some.inj heq).symm) (fun heq => by cases heq)
  | releases hpc hholding hholding' _ =>
      have howner := (h t).mpr (hpc ▸ hholding)
      refine h.update rfl (iff_of_false (fun heq => by cases heq) ?_) fun u hu => ?_
      · rw [hholding']
        exact Bool.false_ne_true
      · rw [howner]
        exact iff_of_false (fun heq => by cases heq) (fun heq => hu (Option.some.inj heq).symm)
  | leaves hpc hactive => exact absurd ⟨hpc, hactive⟩ hstays
  | passes hpc hi hpasses =>
      refine h.update rfl ?_ fun u _ => .rfl
      exact (h t).trans (by rw [hpc]; rfl)
  | waits hpc hi hpasses =>
      refine h.update rfl ?_ fun u _ => .rfl
      exact (h t).trans (by rw [hpc]; rfl)
  | frees hpc =>
      refine h.update rfl ?_ fun u _ => .rfl
      exact (h t).trans (by rw [hpc]; rfl)

/-! ### The joins -/

/-- Who waits for whom, and what is behind a thread. -/
structure JoinInv (s : ThreadPool n J) : Prop where
  joinid_iff : ∀ w t, s.joinid w = some t ↔ ∃ i, w = .worker i ∧ (s.pc t).waitsFor = some i.val
  passes : ∀ t (i : Fin n), i.val < (s.pc t).passed n → Joins.Passes s.joinid t (.worker i)
  isCaller : ∀ k, (s.pc (.caller k)).isCaller = true
  freed_le : s.freed ≤ 1
  exited : 0 < s.freed → ∃ t, (s.pc t).isExited = true

lemma joinInv_init : JoinInv (threadPoolInit n J) := by
  refine ⟨fun w t => ?_, fun t i hi => ?_, fun k => rfl, Nat.zero_le _, fun h => absurd h ?_⟩
  · cases t <;> simp [threadPoolInit, Pc.waitsFor]
  · cases t <;> simp [threadPoolInit, Pc.passed] at hi
  · simp [threadPoolInit]

lemma JoinInv.wakes (h : JoinInv s) (hwakes : Wakes s s') : JoinInv s' := by
  obtain ⟨h₁, h₂, h₃, h₄, h₅⟩ := h
  refine ⟨fun w t => ?_, fun t i hi => ?_, fun k => ?_, ?_, fun hfreed => ?_⟩
  · rw [hwakes.apply_eq Pc.waitsFor_wakeUp, hwakes.joinid_eq]
    exact h₁ w t
  · rw [hwakes.apply_eq Pc.passed_wakeUp] at hi
    rw [hwakes.joinid_eq]
    exact h₂ t i hi
  · rw [hwakes.apply_eq Pc.isCaller_wakeUp]
    exact h₃ k
  · rw [hwakes.freed_eq]
    exact h₄
  · rw [hwakes.freed_eq] at hfreed
    obtain ⟨t, ht⟩ := h₅ hfreed
    exact ⟨t, by rw [hwakes.apply_eq Pc.isExited_wakeUp]; exact ht⟩

/-- A thread goes on, with no join that waits. -/
lemma JoinInv.update {pc : Pc J} (h : JoinInv s) (hpc : s'.pc = Function.update s.pc t pc)
    (hjoinid : s'.joinid = s.joinid) (hfreed : s'.freed = s.freed)
    (hwaits : (s.pc t).waitsFor = none) (hwaits' : pc.waitsFor = none)
    (hpasses : ∀ i : Fin n, i.val < pc.passed n → Joins.Passes s.joinid t (.worker i))
    (hcaller : (s.pc t).isCaller = true → pc.isCaller = true ∨ t = .main)
    (hexited : (s.pc t).isExited = false) : JoinInv s' := by
  refine ⟨fun w u => ?_, fun u i hi => ?_, fun k => ?_, ?_, fun hpos => ?_⟩
  · rw [hjoinid, h.joinid_iff, hpc]
    by_cases hu : u = t
    · rw [hu, Function.update_self, hwaits, hwaits']
    · rw [Function.update_of_ne hu]
  · rw [hjoinid]
    rw [hpc] at hi
    by_cases hu : u = t
    · rw [hu, Function.update_self] at hi
      rw [hu]
      exact hpasses i hi
    · rw [Function.update_of_ne hu] at hi
      exact h.passes u i hi
  · rw [hpc]
    by_cases hu : .caller k = t
    · rw [hu, Function.update_self]
      refine (hcaller (hu ▸ h.isCaller k)).resolve_right fun hmain => ?_
      rw [hmain] at hu
      cases hu
    · rw [Function.update_of_ne hu]
      exact h.isCaller k
  · rw [hfreed]
    exact h.freed_le
  · rw [hfreed] at hpos
    obtain ⟨u, hu⟩ := h.exited hpos
    refine ⟨u, ?_⟩
    rw [hpc, Function.update_of_ne]
    · exact hu
    · intro hut
      rw [← hut, hu] at hexited
      cases hexited

/-- A thread that waits or has passed joins is a worker or the main thread. -/
lemma JoinInv.eq_main_or_mem (h : JoinInv s) (ht : (s.pc t).isCaller = false) :
    t = .main ∨ t ∈ Finset.univ.image Thread.worker := by
  cases t with
  | worker i => exact .inr (Finset.mem_image_of_mem _ (Finset.mem_univ i))
  | main => exact .inl rfl
  | caller k =>
      rw [h.isCaller k] at ht
      cases ht

lemma JoinInv.waiting (h : JoinInv s) :
    Joins.Waiting (Finset.univ.image Thread.worker) .main s.joinid := by
  refine ⟨by simp, fun w t hw => ?_, fun w w' t hw hw' => ?_⟩
  · obtain ⟨i, -, hi⟩ := (h.joinid_iff w t).mp hw
    exact h.eq_main_or_mem (Pc.isCaller_of_waitsFor hi)
  · obtain ⟨i, rfl, hi⟩ := (h.joinid_iff w t).mp hw
    obtain ⟨j, rfl, hj⟩ := (h.joinid_iff w' t).mp hw'
    rw [Fin.ext (Option.some.inj (hi.symm.trans hj))]

/-- **The storage is freed once**: a thread that frees it, and one that has done so, are the same,
as both have passed all joins. -/
lemma JoinInv.freed_eq_zero (h : JoinInv s) (ht : s.pc t = .free) : s.freed = 0 := by
  by_contra hne
  obtain ⟨u, hu⟩ := h.exited (Nat.pos_of_ne_zero hne)
  have hpu := Pc.eq_exited hu
  have hnone : ∀ v, (s.pc v).waitsFor = none → ∀ w, s.joinid w ≠ some v := by
    intro v hv w hw
    obtain ⟨i, -, hi⟩ := (h.joinid_iff w v).mp hw
    rw [hv] at hi
    cases hi
  have hall : ∀ v, (s.pc v).passed n = n →
      ∀ w ∈ Finset.univ.image Thread.worker, Joins.Passes s.joinid v w := by
    intro v hv w hw
    obtain ⟨i, -, rfl⟩ := Finset.mem_image.mp hw
    exact h.passes v i (by rw [hv]; exact i.isLt)
  have htu : t = u := h.waiting.eq_of_passes
    (h.eq_main_or_mem (by rw [ht]; rfl)) (h.eq_main_or_mem (by rw [hpu]; rfl))
    (hnone t (by rw [ht]; rfl)) (hnone u (by rw [hpu]; rfl))
    (hall t (by rw [ht]; rfl)) (hall u (by rw [hpu]; rfl))
  rw [htu, hpu] at ht
  cases ht

/-- A thread starts to wait for a worker that no thread waits for. -/
lemma JoinInv.waits {loop : JoinLoop} {i : ℕ} (h : JoinInv s) (hpc : s.pc t = .join loop i)
    (hi : i < n) (hpasses : ¬Joins.Passes s.joinid t (.worker ⟨i, hi⟩)) :
    JoinInv { s.goto t (.joining loop i) with
      joinid := Function.update s.joinid (.worker ⟨i, hi⟩) (some t) } := by
  have hnone : s.joinid (.worker ⟨i, hi⟩) = none :=
    Option.not_isSome_iff_eq_none.mp fun hsome => hpasses (.inr (.inr hsome))
  refine ⟨fun w u => ?_, fun u j hj => ?_, fun k => ?_, h.freed_le, fun hpos => ?_⟩
  · change Function.update s.joinid (.worker ⟨i, hi⟩) (some t) w = some u ↔
      ∃ j, w = .worker j ∧ (Function.update s.pc t (.joining loop i) u).waitsFor = some j.val
    by_cases hu : u = t
    · rw [hu, Function.update_self]
      constructor
      · intro heq
        refine ⟨⟨i, hi⟩, ?_, rfl⟩
        by_contra hw
        rw [Function.update_of_ne hw] at heq
        obtain ⟨j, -, hj⟩ := (h.joinid_iff w t).mp heq
        rw [hpc] at hj
        cases hj
      · rintro ⟨j, rfl, hj⟩
        obtain rfl : i = j.val := Option.some.inj hj
        exact Function.update_self _ _ _
    · rw [Function.update_of_ne hu, ← h.joinid_iff w u]
      by_cases hw : w = .worker ⟨i, hi⟩
      · rw [hw, Function.update_self, hnone]
        exact iff_of_false (fun heq => hu (Option.some.inj heq).symm) (fun heq => by cases heq)
      · rw [Function.update_of_ne hw]
  · refine Joins.Passes.update (h.passes u j ?_) hnone
    by_cases hu : u = t
    · have hlt : j.val < (Function.update s.pc t (.joining loop i) u).passed n := hj
      rw [hu, Function.update_self] at hlt
      exact absurd hlt (Nat.not_lt_zero _)
    · rwa [← Function.update_of_ne hu (.joining loop i) s.pc]
  · have hne : Thread.caller k ≠ t := by
      rintro rfl
      have := h.isCaller k
      rw [hpc] at this
      cases this
    exact (congrArg Pc.isCaller (Function.update_of_ne hne _ _)).trans (h.isCaller k)
  · obtain ⟨u, hu⟩ := h.exited hpos
    have hne : u ≠ t := by
      rintro rfl
      rw [hpc] at hu
      cases hu
    exact ⟨u, (congrArg Pc.isExited (Function.update_of_ne hne _ _)).trans hu⟩

lemma JoinInv.effect (h : JoinInv s) (heffect : Effect s t s') : JoinInv s' := by
  cases heffect with
  | moves hpc hpc' _ hjoinid hfreed _ hplain =>
      subst hpc
      exact h.update hpc' hjoinid hfreed hplain.waitsFor_eq hplain.waitsFor_eq'
        (fun i hi => h.passes t i (hi.trans_le hplain.passed_le)) hplain.isCaller hplain.isExited
  | acquires hpc _ _ hplain =>
      subst hpc
      exact h.update rfl rfl rfl hplain.waitsFor_eq hplain.waitsFor_eq'
        (fun i hi => h.passes t i (hi.trans_le hplain.passed_le)) hplain.isCaller hplain.isExited
  | releases hpc _ _ hplain =>
      subst hpc
      exact h.update rfl rfl rfl hplain.waitsFor_eq hplain.waitsFor_eq'
        (fun i hi => h.passes t i (hi.trans_le hplain.passed_le)) hplain.isCaller hplain.isExited
  | leaves hpc _ =>
      refine h.update rfl rfl rfl (by rw [hpc]; rfl) rfl (fun i hi => absurd hi (Nat.not_lt_zero _))
        (fun hcaller => ?_) (by rw [hpc]; rfl)
      rw [hpc] at hcaller
      cases hcaller
  | @passes loop i hpc hi hpasses =>
      refine h.update rfl rfl rfl (by rw [hpc]; rfl) rfl (fun j hj => ?_) (fun hcaller => ?_)
        (by rw [hpc]; rfl)
      · -- the joins before this one, and this one
        obtain hlt | rfl := Nat.lt_succ_iff_lt_or_eq.mp hj
        · exact h.passes t j (by rw [hpc]; exact hlt)
        · exact hpasses
      · rw [hpc] at hcaller
        cases hcaller
  | waits hpc hi hpasses => exact h.waits hpc hi hpasses
  | frees hpc =>
      have hexited : JoinInv (s.goto t .exited) := by
        refine h.update rfl rfl rfl (by rw [hpc]; rfl) rfl (fun i _ => ?_) (fun hcaller => ?_)
          (by rw [hpc]; rfl)
        · exact h.passes t i (by rw [hpc]; exact i.isLt)
        · rw [hpc] at hcaller
          cases hcaller
      refine ⟨hexited.joinid_iff, hexited.passes, hexited.isCaller, ?_, fun _ => ⟨t, ?_⟩⟩
      · exact (congrArg (· + 1) (h.freed_eq_zero hpc)).le
      · exact congrArg Pc.isExited (Function.update_self t .exited s.pc)

/-! ### Runs -/

/-- No thread locks the mutex while it owns it, and the storage has been freed at most once. -/
def Safe (s : ThreadPool n J) : Prop :=
  (∀ t, s.owner = some t → (s.pc t).locks = false) ∧ s.freed ≤ 1

/-- A worker leaves its loop with the mutex: it finds `active` reset behind the wait. -/
def LeavesLocked (s : ThreadPool n J) (a : PoolAct n J) : Prop :=
  ∃ t null woken, a = .go t null woken ∧ s.pc t = .test ∧ s.active = false

/-- Both invariants. -/
structure Inv (s : ThreadPool n J) : Prop where
  mutex : MutexInv s
  join : JoinInv s

lemma inv_init : Inv (threadPoolInit n J) := ⟨mutexInv_init, joinInv_init⟩

lemma Inv.safe (h : Inv s) : s.Safe :=
  ⟨fun t ht => Pc.locks_of_holding ((h.mutex t).mp ht), h.join.freed_le⟩

/-- **Steps** preserve the invariants, unless a worker leaves its loop with the mutex. -/
lemma Inv.step {a : PoolAct n J} {o : Unit} (h : Inv s) (hstep : step s a = some (s', o))
    (hstays : ¬s.LeavesLocked a) : Inv s' := by
  obtain ⟨s₁, hwakes, rfl | ⟨t, hpc, heffect, hgo⟩⟩ := step_effect hstep
  · exact ⟨h.mutex.wakes hwakes, h.join.wakes hwakes⟩
  · refine ⟨(h.mutex.wakes hwakes).effect heffect fun ⟨htest, hactive⟩ => hstays ?_,
      (h.join.wakes hwakes).effect heffect⟩
    rw [hpc] at htest
    obtain ⟨null, woken, ha⟩ := hgo htest
    exact ⟨t, null, woken, ha, htest, hwakes.active_eq ▸ hactive⟩

/-- A worker that leaves its loop with the mutex locks it again. -/
lemma Inv.not_safe {a : PoolAct n J} {o : Unit} (h : Inv s)
    (hstep : ThreadPool.step s a = some (s', o)) (hleaves : s.LeavesLocked a) : ¬s'.Safe := by
  obtain ⟨t, null, woken, rfl, hpc, hactive⟩ := hleaves
  have howner := (h.mutex t).mpr (by rw [hpc]; rfl)
  simp only [ThreadPool.step, go, hpc, hactive, Bool.false_eq_true, if_false, Option.map_some,
    Option.some.injEq, Prod.mk.injEq] at hstep
  obtain ⟨rfl, -⟩ := hstep
  rintro ⟨hlocks, -⟩
  have hlocks := hlocks t howner
  rw [show (s.goto t .sdLock).pc t = .sdLock from Function.update_self ..] at hlocks
  cases hlocks

/-- **The pool blocks on itself just when a worker leaves its loop with the mutex.**  In every run,
whatever the order of the steps, no thread locks the mutex while it owns it and the storage is freed
at most once, in every state, exactly when no worker that holds the mutex behind the wait finds
`active` reset. -/
theorem safe_iff {ts : List (Machine.Transition (ThreadPool n J) (PoolAct n J) Unit)}
    (h : Machine.Run step (threadPoolInit n J) ts s) :
    ((threadPoolInit n J).Safe ∧ ∀ tr ∈ ts, tr.post.Safe) ↔
      ∀ tr ∈ ts, ¬tr.pre.LeavesLocked tr.act := by
  rw [and_iff_right inv_init.safe]
  refine h.forall_iff (P := Inv) (fun s a s' o hs hstep hleaves => hs.not_safe hstep hleaves)
    (fun s a s' o hs hstep hstays => ?_) inv_init
  have hs' := hs.step hstep hstays
  exact ⟨hs', hs'.safe⟩

lemma not_leavesLocked {a : PoolAct n J} (h : s.active = true) : ¬s.LeavesLocked a := by
  rintro ⟨t, null, woken, -, -, hactive⟩
  rw [h] at hactive
  cases hactive

namespace ThreeWorkers

/-- A step of a thread whose job, if it runs one, does not return `NULL`. -/
def run (t : Thread 3) : PoolAct 3 Unit := .go t false none

/-- The main thread adds a job, which the first worker runs to its end and goes on. -/
theorem safe_iff_one : ∃ ts s, Machine.Run step (threadPoolInit 3 Unit) ts s ∧ ts.length = 11 ∧
    s.jobs = [] ∧ s.owner = none ∧ ∀ tr ∈ ts, tr.post.Safe := by
  have hrun : Machine.Run step (threadPoolInit 3 Unit) _ _ :=
    .cons (a := .addJob .main ()) rfl <| .cons (a := run .main) rfl <| .cons (a := run .main) rfl <|
    .cons (a := run .main) rfl <| .cons (a := run .main) rfl <| .cons (a := run (.worker 0)) rfl <|
    .cons (a := run (.worker 0)) rfl <| .cons (a := run (.worker 0)) rfl <|
    .cons (a := run (.worker 0)) rfl <| .cons (a := run (.worker 0)) rfl <|
    .cons (a := run (.worker 0)) rfl <| .nil _
  refine ⟨_, _, hrun, rfl, rfl, rfl, ((safe_iff hrun).mpr fun tr htr => not_leavesLocked ?_).2⟩
  revert tr htr
  decide

/-- The job returns `NULL`, and the second worker, which takes the mutex then, leaves its loop with
it and locks it again in `thread_pool_shutdown`. -/
theorem not_safe_null : ∃ ts s, Machine.Run step (threadPoolInit 3 Unit) ts s ∧
    s.owner = some (.worker 1) ∧ s.pc (.worker 1) = .sdLock ∧ ¬s.Safe := by
  have hrun : Machine.Run step (threadPoolInit 3 Unit) _ _ :=
    .cons (a := .addJob .main ()) rfl <| .cons (a := run .main) rfl <| .cons (a := run .main) rfl <|
    .cons (a := run .main) rfl <| .cons (a := run .main) rfl <| .cons (a := run (.worker 0)) rfl <|
    .cons (a := run (.worker 0)) rfl <| .cons (a := run (.worker 0)) rfl <|
    .cons (a := run (.worker 0)) rfl <| .cons (a := run (.worker 0)) rfl <|
    .cons (a := .go (.worker 0) true none) rfl <| .cons (a := run (.worker 0)) rfl <|
    .cons (a := run (.worker 1)) rfl <| .cons (a := run (.worker 1)) rfl <|
    .cons (a := run (.worker 1)) rfl <| .nil _
  refine ⟨_, _, hrun, rfl, rfl, fun hsafe => ?_⟩
  have hlocks := hsafe.1 (.worker 1) rfl
  cases hlocks

end ThreeWorkers

end ThreadPool

end Megaphone
