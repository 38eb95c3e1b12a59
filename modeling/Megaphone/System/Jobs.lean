import Megaphone.System.ThreadPool

/-!
The jobs of a thread pool (`thread_pool.c`): which thread has which job, and who takes it.

* `submitted`, `enqueued`, `taken`, `finished`: what a transition does with a job.
* `GoCase`, `go_cases`: what a thread does, as far as the jobs are concerned.
* `jobs_conserved`: no job is lost, doubled or overtaken.
* `WakeInv`: while a worker waits, there is a thread on its way to each job in the queue.
* `no_lost_wakeup`, `all_jobs_taken`: a job waits in the queue only for workers that run other
  jobs, so that as many jobs as workers are all taken.
-/

namespace Megaphone

namespace Pc

variable {J : Type}

/-- The job that `add_job` is about to put into the queue. -/
def adding : Pc J → Option J
  | .addLock j => some j
  | .addEnqueue j => some j
  | _ => none

/-- The job that has been taken out of the queue and has not returned. -/
def current : Pc J → Option J
  | .unlock node => node
  | .job node => node
  | _ => none

/-- In the loop of `thread_pool_job`, with no job: the worker comes to the queue by itself. -/
def heading : Pc J → Bool
  | .lock => true
  | .loop => true
  | .woken => true
  | .test => true
  | .dequeue => true
  | _ => false

/-- In the loop of `thread_pool_job`. -/
def inLoop : Pc J → Bool
  | .waiting => true
  | .unlock _ => true
  | .job _ => true
  | .clear => true
  | pc => pc.heading

/-- Nothing happens to a job in the next step. -/
def quiet : Pc J → Bool
  | .addEnqueue _ => false
  | .dequeue => false
  | .job (some _) => false
  | _ => true

/-- On the way out of the pool: at a join, or in `thread_pool_shutdown`. -/
def leaving : Pc J → Bool
  | .join _ _ => true
  | .joining _ _ => true
  | .sdLock => true
  | .sdClear => true
  | .sdBroadcast => true
  | .sdUnlock => true
  | .free => true
  | .exited => true
  | _ => false

variable {pc : Pc J}

@[simp] lemma adding_wakeUp (pc : Pc J) : pc.wakeUp.adding = pc.adding := by cases pc <;> rfl

@[simp] lemma current_wakeUp (pc : Pc J) : pc.wakeUp.current = pc.current := by cases pc <;> rfl

@[simp] lemma inLoop_wakeUp (pc : Pc J) : pc.wakeUp.inLoop = pc.inLoop := by cases pc <;> rfl

lemma heading_wakeUp (h : pc.heading = true) : pc.wakeUp.heading = true := by
  cases pc with
  | lock | loop | woken | test | dequeue => rfl
  | _ => cases h

/-- A thread on its way out has no job. -/
lemma adding_of_leaving (h : pc.leaving = true) : pc.adding = none := by
  cases pc with
  | addLock | addEnqueue => cases h
  | _ => rfl

lemma current_of_leaving (h : pc.leaving = true) : pc.current = none := by
  cases pc with
  | unlock | job => cases h
  | _ => rfl

lemma inLoop_of_leaving (h : pc.leaving = true) : pc.inLoop = false := by
  cases pc with
  | lock | loop | waiting | woken | test | dequeue | unlock | job | clear => cases h
  | _ => rfl

lemma heading_of_leaving (h : pc.leaving = true) : pc.heading = false := by
  cases pc with
  | lock | loop | woken | test | dequeue => cases h
  | _ => rfl

lemma quiet_of_leaving (h : pc.leaving = true) : pc.quiet = true := by
  cases pc with
  | addEnqueue | dequeue | job => cases h
  | _ => rfl

lemma quiet_of_locks (h : pc.locks = true) : pc.quiet = true := by
  cases pc with
  | addEnqueue | dequeue | job => cases h
  | _ => rfl

lemma ne_waiting_of_wakeUp : pc.wakeUp ≠ .waiting := by
  cases pc <;> exact fun h => by cases h

end Pc

namespace ThreadPool

variable {n : ℕ} {J : Type}

/-! ### The jobs of a run -/

/-- A transition of the pool. -/
abbrev PoolTransition (n : ℕ) (J : Type) := Machine.Transition (ThreadPool n J) (PoolAct n J) Unit

/-- The job that a thread calls `add_job` with. -/
def submitted (tr : PoolTransition n J) : List (Thread n × J) :=
  match tr.act with
  | .addJob t job => [(t, job)]
  | _ => []

/-- The job that a thread puts into the queue. -/
def enqueued (tr : PoolTransition n J) : List (Thread n × J) :=
  match tr.act with
  | .go t _ _ =>
      match tr.pre.pc t with
      | .addEnqueue job => [(t, job)]
      | _ => []
  | _ => []

/-- The job that a worker takes out of the queue. -/
def taken (tr : PoolTransition n J) : List (Thread n × J) :=
  match tr.act with
  | .go t _ _ =>
      match tr.pre.pc t with
      | .dequeue => (tr.pre.jobs.head?.map fun job => (t, job)).toList
      | _ => []
  | _ => []

/-- The job that returns. -/
def finished (tr : PoolTransition n J) : List (Thread n × J) :=
  match tr.act with
  | .go t _ _ =>
      match tr.pre.pc t with
      | .job (some job) => [(t, job)]
      | _ => []
  | _ => []

/-- What the thread `t` has done, of what threads have done. -/
def ofThread (t : Thread n) (l : List (Thread n × J)) : List J :=
  (l.filter fun p => p.1 = t).map (·.2)

/-! ### What a thread does -/

variable {s s' : ThreadPool n J} {t : Thread n} {null : Bool} {woken : Option (Thread n)}

/-- What a step of the thread `t` does with the jobs.

* `locks`, `unlocks`: it goes on behind a lock or an unlock;
* `enqueues`, `signals`: it is in `add_job`;
* `waits`, `tests`, `dequeues`, `takes`, `idles`, `finishes`, `clears`: it is in the loop of
  `thread_pool_job`;
* `leaves`: it is on its way out of the pool, or takes it. -/
inductive GoCase (s : ThreadPool n J) (t : Thread n) (woken : Option (Thread n)) :
    ThreadPool n J → Prop
  | locks {pc : Pc J} (hlocks : (s.pc t).locks = true) (hadding : pc.adding = (s.pc t).adding)
      (hinLoop : pc.inLoop = (s.pc t).inLoop) (hheading : pc.heading = (s.pc t).heading)
      (hholding : pc.holding = true) (hnode : (s.pc t).current = none) (hnode' : pc.current = none)
      (howner : s.owner = none) : GoCase s t woken { s.goto t pc with owner := some t }
  | unlocks {pc : Pc J} (hadding : pc.adding = (s.pc t).adding)
      (hcurrent : pc.current = (s.pc t).current)
      (h : (s.pc t = .addUnlock ∧ pc = .idle) ∨ ∃ node, s.pc t = .unlock node ∧ pc = .job node) :
      GoCase s t woken (s.unlockMutex t pc)
  | enqueues {job : J} (hpc : s.pc t = .addEnqueue job) :
      GoCase s t woken { s.goto t .addSignal with jobs := s.jobs ++ [job] }
  | signals (hpc : s.pc t = .addSignal) : GoCase s t woken ((s.signal woken).goto t .addUnlock)
  | waits (hpc : s.pc t = .loop) (hjobs : s.jobs = []) (hactive : s.active = true) :
      GoCase s t woken (s.unlockMutex t .waiting)
  | tests (hpc : s.pc t = .loop) : GoCase s t woken (s.goto t .test)
  | dequeues (hpc : s.pc t = .test) (hactive : s.active = true) :
      GoCase s t woken (s.goto t .dequeue)
  | takes (hpc : s.pc t = .dequeue) :
      GoCase s t woken { s.goto t (.unlock s.jobs.head?) with jobs := s.jobs.tail }
  | idles (hpc : s.pc t = .job none) : GoCase s t woken (s.goto t .lock)
  | finishes {job : J} {pc : Pc J} (hpc : s.pc t = .job (some job)) (h : pc = .lock ∨ pc = .clear) :
      GoCase s t woken (s.goto t pc)
  | clears (hpc : s.pc t = .clear) : GoCase s t woken { s.goto t .sdLock with active := false }
  | leaves {s' : ThreadPool n J}
      (h : (s.pc t).leaving = true ∨ s.pc t = .test ∧ s.active = false)
      (hleaving : (s'.pc t).leaving = true) (hjobs : s'.jobs = s.jobs)
      (hactive : s'.active = true → s.active = true)
      (hpc : ∀ u, u ≠ t → s'.pc u = s.pc u ∨ s'.pc u = (s.pc u).wakeUp) : GoCase s t woken s'

/-- **A step of a thread**, by what it does with the jobs. -/
lemma go_cases (h : s.go t null woken = some s') : GoCase s t woken s' := by
  have hlock : ∀ {pc : Pc J}, (s.pc t).locks = true → s.lockMutex t pc = some s' →
      pc.adding = (s.pc t).adding → pc.inLoop = (s.pc t).inLoop →
      pc.heading = (s.pc t).heading → pc.holding = true → (s.pc t).current = none →
      pc.current = none → GoCase s t woken s' := by
    intro pc hlocks hs' hadding hinLoop hheading hholding hnode hnode'
    obtain ⟨howner, heq⟩ := Option.ite_none_right_eq_some.mp hs'
    cases heq
    exact .locks hlocks hadding hinLoop hheading hholding hnode hnode' howner
  have hgoto : ∀ {pc : Pc J}, (s.pc t).leaving = true → pc.leaving = true →
      GoCase s t woken (s.goto t pc) := by
    intro pc hpc hpc'
    refine .leaves (.inl hpc) ?_ rfl id fun u hu => .inl (Function.update_of_ne hu ..)
    exact (congrArg Pc.leaving (Function.update_self t pc s.pc)).trans hpc'
  cases hpc : s.pc t with
  | idle => simp only [go, hpc, reduceCtorEq] at h
  | addLock job =>
      simp only [go, hpc] at h
      exact hlock (by rw [hpc]; rfl) h (by rw [hpc]; rfl) (by rw [hpc]; rfl) (by rw [hpc]; rfl)
        rfl (by rw [hpc]; rfl) rfl
  | addEnqueue job =>
      simp only [go, hpc, Option.some.injEq] at h
      subst h
      exact .enqueues hpc
  | addSignal =>
      simp only [go, hpc, Option.some.injEq] at h
      subst h
      exact .signals hpc
  | addUnlock =>
      simp only [go, hpc, Option.some.injEq] at h
      subst h
      exact .unlocks (by rw [hpc]; rfl) (by rw [hpc]; rfl) (.inl ⟨hpc, rfl⟩)
  | lock =>
      simp only [go, hpc] at h
      exact hlock (by rw [hpc]; rfl) h (by rw [hpc]; rfl) (by rw [hpc]; rfl) (by rw [hpc]; rfl)
        rfl (by rw [hpc]; rfl) rfl
  | loop =>
      simp only [go, hpc] at h
      split at h
      · rename_i hwaits
        cases h
        exact .waits hpc (List.isEmpty_iff.mp hwaits.1) hwaits.2
      · cases h
        exact .tests hpc
  | waiting => simp only [go, hpc, reduceCtorEq] at h
  | woken =>
      simp only [go, hpc] at h
      exact hlock (by rw [hpc]; rfl) h (by rw [hpc]; rfl) (by rw [hpc]; rfl) (by rw [hpc]; rfl)
        rfl (by rw [hpc]; rfl) rfl
  | test =>
      simp only [go, hpc] at h
      split at h
      · rename_i hactive
        cases h
        exact .dequeues hpc hactive
      · rename_i hactive
        cases h
        refine .leaves (.inr ⟨hpc, Bool.eq_false_iff.mpr hactive⟩) ?_ rfl id
          fun u hu => .inl (Function.update_of_ne hu ..)
        exact congrArg Pc.leaving (Function.update_self t .sdLock s.pc)
  | dequeue =>
      simp only [go, hpc, Option.some.injEq] at h
      subst h
      exact .takes hpc
  | unlock node =>
      simp only [go, hpc, Option.some.injEq] at h
      subst h
      exact .unlocks (by rw [hpc]; rfl) (by rw [hpc]; rfl) (.inr ⟨node, hpc, rfl⟩)
  | job node =>
      cases node with
      | none =>
          simp only [go, hpc, Option.some.injEq] at h
          subst h
          exact .idles hpc
      | some job =>
          simp only [go, hpc, Option.some.injEq] at h
          subst h
          refine .finishes hpc ?_
          cases null
          · exact .inl rfl
          · exact .inr rfl
  | clear =>
      simp only [go, hpc, Option.some.injEq] at h
      subst h
      exact .clears hpc
  | join loop i =>
      have hleaving : (s.pc t).leaving = true := by rw [hpc]; rfl
      simp only [go, hpc] at h
      split at h
      · rw [Option.some.injEq, pthreadJoin] at h
        subst h
        split
        · exact hgoto hleaving rfl
        · refine .leaves (.inl hleaving) ?_ rfl id fun u hu => .inl (Function.update_of_ne hu ..)
          exact congrArg Pc.leaving (Function.update_self t (.joining loop i) s.pc)
      · cases h
        exact hgoto hleaving (by cases loop <;> rfl)
  | joining loop i => simp only [go, hpc, reduceCtorEq] at h
  | sdLock =>
      simp only [go, hpc] at h
      exact hlock (by rw [hpc]; rfl) h (by rw [hpc]; rfl) (by rw [hpc]; rfl) (by rw [hpc]; rfl)
        rfl (by rw [hpc]; rfl) rfl
  | sdClear =>
      simp only [go, hpc, Option.some.injEq] at h
      subst h
      refine .leaves (.inl (by rw [hpc]; rfl)) ?_ rfl (fun hactive => by cases hactive)
        fun u hu => .inl (Function.update_of_ne hu ..)
      exact congrArg Pc.leaving (Function.update_self t .sdBroadcast s.pc)
  | sdBroadcast =>
      simp only [go, hpc, Option.some.injEq] at h
      subst h
      refine .leaves (.inl (by rw [hpc]; rfl)) ?_ rfl id
        fun u hu => .inr (Function.update_of_ne hu ..)
      exact congrArg Pc.leaving (Function.update_self t .sdUnlock s.broadcast.pc)
  | sdUnlock =>
      simp only [go, hpc, Option.some.injEq] at h
      subst h
      refine .leaves (.inl (by rw [hpc]; rfl)) ?_ rfl id
        fun u hu => .inl (Function.update_of_ne hu ..)
      exact congrArg Pc.leaving (Function.update_self t (.join .shutdown 0) s.pc)
  | free =>
      simp only [go, hpc, Option.some.injEq] at h
      subst h
      refine .leaves (.inl (by rw [hpc]; rfl)) ?_ rfl id
        fun u hu => .inl (Function.update_of_ne hu ..)
      exact congrArg Pc.leaving (Function.update_self t .exited s.pc)
  | exited => simp only [go, hpc, reduceCtorEq] at h

/-! ### No job is lost -/

@[simp] lemma ofThread_nil (t : Thread n) : ofThread t ([] : List (Thread n × J)) = [] := rfl

@[simp] lemma ofThread_self (t : Thread n) (job : J) : ofThread t [(t, job)] = [job] := by
  simp [ofThread]

lemma ofThread_of_ne {u : Thread n} (h : u ≠ t) (job : J) : ofThread t [(u, job)] = [] := by
  simp [ofThread, h]

lemma ofThread_flatMap (t : Thread n) (f : PoolTransition n J → List (Thread n × J))
    (ts : List (PoolTransition n J)) :
    ofThread t (ts.flatMap f) = ts.flatMap fun tr => ofThread t (f tr) := by
  induction ts with
  | nil => rfl
  | cons tr ts ih =>
      rw [List.flatMap_cons, List.flatMap_cons, ← ih, ofThread, List.filter_append,
        List.map_append]
      rfl

/-- What a transition does with the jobs of the queue, with those of `add_job` and with those that
have been taken. -/
structure Conserves (tr : PoolTransition n J) : Prop where
  queue : tr.pre.jobs ++ (enqueued tr).map (·.2) = (taken tr).map (·.2) ++ tr.post.jobs
  adding : ∀ t, (tr.pre.pc t).adding.toList ++ ofThread t (submitted tr) =
    ofThread t (enqueued tr) ++ (tr.post.pc t).adding.toList
  current : ∀ t, (tr.pre.pc t).current.toList ++ ofThread t (taken tr) =
    ofThread t (finished tr) ++ (tr.post.pc t).current.toList

/-- Nothing happens to a job. -/
lemma conserves_of_quiet {a : PoolAct n J} {o : Unit} (hjobs : s'.jobs = s.jobs)
    (hadding : ∀ u, (s'.pc u).adding = (s.pc u).adding)
    (hcurrent : ∀ u, (s'.pc u).current = (s.pc u).current)
    (ha : ∀ u job, a ≠ .addJob u job)
    (hquiet : ∀ u null woken, a = .go u null woken → (s.pc u).quiet = true) :
    Conserves ⟨s, a, o, s'⟩ := by
  have hnone : submitted ⟨s, a, o, s'⟩ = [] ∧ enqueued ⟨s, a, o, s'⟩ = [] ∧
      taken ⟨s, a, o, s'⟩ = [] ∧ finished ⟨s, a, o, s'⟩ = [] := by
    cases a with
    | addJob u job => exact absurd rfl (ha u job)
    | poolWait => exact ⟨rfl, rfl, rfl, rfl⟩
    | wake u => exact ⟨rfl, rfl, rfl, rfl⟩
    | go u null woken =>
        have hu := hquiet u null woken rfl
        simp only [submitted, enqueued, taken, finished, true_and]
        cases hpc : s.pc u with
        | addEnqueue | dequeue =>
            rw [hpc] at hu
            cases hu
        | job node =>
            cases node with
            | none => exact ⟨rfl, rfl, rfl⟩
            | some job =>
                rw [hpc] at hu
                cases hu
        | _ => exact ⟨rfl, rfl, rfl⟩
  obtain ⟨hsubmitted, henqueued, htaken, hfinished⟩ := hnone
  refine ⟨?_, fun u => ?_, fun u => ?_⟩
  · rw [henqueued, htaken]
    simp [hjobs]
  · rw [hsubmitted, henqueued, hadding]
    simp
  · rw [htaken, hfinished, hcurrent]
    simp

lemma Wakes.jobs_eq (h : Wakes s s') : s'.jobs = s.jobs := by rw [h.rest_eq]

/-- A thread goes on, and others may be woken up. -/
lemma apply_eq_of_pc {α : Type} {f : Pc J → α} (hf : ∀ pc, f pc.wakeUp = f pc)
    (ht : f (s'.pc t) = f (s.pc t))
    (hpc : ∀ u, u ≠ t → s'.pc u = s.pc u ∨ s'.pc u = (s.pc u).wakeUp) (u : Thread n) :
    f (s'.pc u) = f (s.pc u) := by
  by_cases hu : u = t
  · rw [hu]
    exact ht
  · obtain heq | heq := hpc u hu
    · rw [heq]
    · rw [heq, hf]

lemma goto_pc_self (s : ThreadPool n J) (t : Thread n) (pc : Pc J) : (s.goto t pc).pc t = pc :=
  Function.update_self ..

lemma goto_eq_self {pc : Pc J} (h : s.pc t = pc) : s.goto t pc = s := by
  rw [goto, ← h, Function.update_eq_self]

lemma goto_pc_of_ne {u : Thread n} (s : ThreadPool n J) (pc : Pc J) (h : u ≠ t) :
    (s.goto t pc).pc u = s.pc u :=
  Function.update_of_ne h ..

/-- A step of a thread conserves the jobs. -/
lemma GoCase.conserves {o : Unit} (h : GoCase s t woken s') :
    Conserves ⟨s, .go t null woken, o, s'⟩ := by
  have hquiet : ∀ s' : ThreadPool n J, s'.jobs = s.jobs → (s.pc t).quiet = true →
      (s'.pc t).adding = (s.pc t).adding → (s'.pc t).current = (s.pc t).current →
      (∀ u, u ≠ t → s'.pc u = s.pc u ∨ s'.pc u = (s.pc u).wakeUp) →
      Conserves ⟨s, .go t null woken, o, s'⟩ := by
    intro s' hjobs hq hadding hcurrent hpc
    refine conserves_of_quiet hjobs (apply_eq_of_pc Pc.adding_wakeUp hadding hpc)
      (apply_eq_of_pc Pc.current_wakeUp hcurrent hpc) (fun u job heq => by cases heq) ?_
    intro u null woken heq
    cases heq
    exact hq
  have hgoto : ∀ pc : Pc J, (s.pc t).quiet = true → pc.adding = (s.pc t).adding →
      pc.current = (s.pc t).current → Conserves ⟨s, .go t null woken, o, s.goto t pc⟩ := by
    intro pc hq hadding hcurrent
    refine hquiet _ rfl hq ?_ ?_ fun u hu => .inl (s.goto_pc_of_ne pc hu)
    · rw [goto_pc_self, hadding]
    · rw [goto_pc_self, hcurrent]
  cases h with
  | @locks pc hlocks hadding _ _ _ hnode hnode' _ =>
      obtain ⟨h₁, h₂, h₃⟩ := hgoto pc (Pc.quiet_of_locks hlocks) hadding (hnode'.trans hnode.symm)
      exact ⟨h₁, h₂, h₃⟩
  | @unlocks pc hadding hcurrent h =>
      have hq : (s.pc t).quiet = true := by
        obtain ⟨hpc, -⟩ | ⟨node, hpc, -⟩ := h
        · rw [hpc]
          rfl
        · rw [hpc]
          rfl
      obtain ⟨h₁, h₂, h₃⟩ := hgoto pc hq hadding hcurrent
      exact ⟨h₁, h₂, h₃⟩
  | @enqueues job hpc =>
      refine ⟨?_, fun u => ?_, fun u => ?_⟩
      · simp [enqueued, taken, hpc]
      · by_cases hu : u = t
        · subst hu
          simp [submitted, enqueued, hpc, goto, Pc.adding]
        · simp [submitted, enqueued, hpc, goto, Function.update_of_ne hu,
            ofThread_of_ne (Ne.symm hu)]
      · by_cases hu : u = t
        · subst hu
          simp [taken, finished, hpc, goto, Pc.current]
        · simp [taken, finished, hpc, goto, Function.update_of_ne hu]
  | signals hpc =>
      have hwakes := s.wakes_signal woken
      refine hquiet _ ?_ (by rw [hpc]; rfl) ?_ ?_ fun u hu => ?_
      · exact hwakes.jobs_eq
      · rw [goto_pc_self, hpc]
        rfl
      · rw [goto_pc_self, hpc]
        rfl
      · rw [goto_pc_of_ne _ _ hu]
        exact hwakes.pc_eq u
  | waits hpc _ _ =>
      obtain ⟨h₁, h₂, h₃⟩ := hgoto .waiting (by rw [hpc]; rfl) (by rw [hpc]; rfl) (by rw [hpc]; rfl)
      exact ⟨h₁, h₂, h₃⟩
  | tests hpc => exact hgoto .test (by rw [hpc]; rfl) (by rw [hpc]; rfl) (by rw [hpc]; rfl)
  | dequeues hpc _ => exact hgoto .dequeue (by rw [hpc]; rfl) (by rw [hpc]; rfl) (by rw [hpc]; rfl)
  | takes hpc =>
      refine ⟨?_, fun u => ?_, fun u => ?_⟩
      · cases hjobs : s.jobs <;> simp [enqueued, taken, hpc, hjobs]
      · by_cases hu : u = t
        · subst hu
          simp [submitted, enqueued, hpc, goto, Pc.adding]
        · simp [submitted, enqueued, hpc, goto, Function.update_of_ne hu]
      · by_cases hu : u = t
        · subst hu
          cases hjobs : s.jobs.head? <;> simp [taken, finished, hpc, goto, hjobs, Pc.current]
        · cases hjobs : s.jobs.head? <;> simp [taken, finished, hpc, goto, hjobs,
            Function.update_of_ne hu, ofThread_of_ne (Ne.symm hu)]
  | idles hpc => exact hgoto .lock (by rw [hpc]; rfl) (by rw [hpc]; rfl) (by rw [hpc]; rfl)
  | @finishes job pc hpc h =>
      have hadding : pc.adding = none := by obtain rfl | rfl := h <;> rfl
      have hcurrent : pc.current = none := by obtain rfl | rfl := h <;> rfl
      refine ⟨?_, fun u => ?_, fun u => ?_⟩
      · simp [enqueued, taken, hpc, goto]
      · by_cases hu : u = t
        · subst hu
          simp [submitted, enqueued, goto_pc_self, hpc, hadding, show (Pc.job (some job)).adding =
            none from rfl]
        · simp [submitted, enqueued, hpc, goto, Function.update_of_ne hu]
      · by_cases hu : u = t
        · subst hu
          simp [taken, finished, goto_pc_self, hpc, hcurrent, show (Pc.job (some job)).current =
            some job from rfl]
        · simp [taken, finished, hpc, goto, Function.update_of_ne hu,
            ofThread_of_ne (Ne.symm hu)]
  | clears hpc =>
      obtain ⟨h₁, h₂, h₃⟩ := hgoto .sdLock (by rw [hpc]; rfl) (by rw [hpc]; rfl) (by rw [hpc]; rfl)
      exact ⟨h₁, h₂, h₃⟩
  | leaves h hleaving hjobs _ hpc =>
      have hnone : (s.pc t).quiet = true ∧ (s.pc t).adding = none ∧ (s.pc t).current = none := by
        obtain h | ⟨htest, -⟩ := h
        · exact ⟨Pc.quiet_of_leaving h, Pc.adding_of_leaving h, Pc.current_of_leaving h⟩
        · rw [htest]
          exact ⟨rfl, rfl, rfl⟩
      refine hquiet s' hjobs hnone.1 ?_ ?_ hpc
      · rw [Pc.adding_of_leaving hleaving, hnone.2.1]
      · rw [Pc.current_of_leaving hleaving, hnone.2.2]

/-- **A step** conserves the jobs. -/
lemma step_conserves {a : PoolAct n J} {o : Unit} (h : step s a = some (s', o)) :
    Conserves ⟨s, a, o, s'⟩ := by
  cases a with
  | addJob t job =>
      simp only [step] at h
      split at h
      · rename_i hpc
        cases h
        refine ⟨?_, fun u => ?_, fun u => ?_⟩
        · simp [enqueued, taken, goto]
        · by_cases hu : u = t
          · subst hu
            simp [submitted, enqueued, hpc, goto, Pc.adding]
          · simp [submitted, enqueued, goto, Function.update_of_ne hu, ofThread_of_ne (Ne.symm hu)]
        · by_cases hu : u = t
          · subst hu
            simp [taken, finished, hpc, goto, Pc.current]
          · simp [taken, finished, goto, Function.update_of_ne hu]
      · cases h
  | poolWait =>
      simp only [step] at h
      split at h
      · rename_i hpc
        cases h
        have hothers : ∀ u, u ≠ Thread.main →
            (s.goto .main (.join .wait 0)).pc u = s.pc u ∨
              (s.goto .main (.join .wait 0)).pc u = (s.pc u).wakeUp :=
          fun u hu => .inl (s.goto_pc_of_ne _ hu)
        refine conserves_of_quiet rfl (apply_eq_of_pc Pc.adding_wakeUp ?_ hothers)
          (apply_eq_of_pc Pc.current_wakeUp ?_ hothers) (fun u job heq => by cases heq)
          fun u null woken heq => by cases heq
        · rw [goto_pc_self, hpc]
          rfl
        · rw [goto_pc_self, hpc]
          rfl
      · cases h
  | wake t =>
      cases h
      have hwakes := s.wakes_wake t
      refine conserves_of_quiet rfl (hwakes.apply_eq Pc.adding_wakeUp)
        (hwakes.apply_eq Pc.current_wakeUp) (fun u job heq => by cases heq)
        fun u null woken heq => by cases heq
  | go t null woken =>
      obtain ⟨s'', hgo, heq⟩ := Option.map_eq_some_iff.mp h
      cases heq
      exact (go_cases hgo).conserves

/-- **No job is lost, doubled or overtaken.**  Over every run, in any order of the steps: the jobs
that have been put into the queue are those that have been taken out of it, in the same order,
followed by those that are in it; each thread has put in what it has called `add_job` with, but for
a call that it is in; and each thread has run to their ends the jobs that it has taken, but for one
that it is at. -/
theorem jobs_conserved {ts : List (PoolTransition n J)}
    (h : Machine.Run step (threadPoolInit n J) ts s) :
    (ts.flatMap enqueued).map (·.2) = (ts.flatMap taken).map (·.2) ++ s.jobs ∧
    ∀ t, ofThread t (ts.flatMap submitted) =
        ofThread t (ts.flatMap enqueued) ++ (s.pc t).adding.toList ∧
      ofThread t (ts.flatMap taken) =
        ofThread t (ts.flatMap finished) ++ (s.pc t).current.toList := by
  have hall : ∀ tr ∈ ts, Conserves tr :=
    h.forall_transition (P := fun _ => True) (fun _ _ _ _ _ _ => trivial)
      (fun s a s' o _ hs => step_conserves hs) trivial
  have hinit : ∀ t, ((threadPoolInit n J).pc t).adding = none ∧
      ((threadPoolInit n J).pc t).current = none := by
    intro t
    cases t <;> exact ⟨rfl, rfl⟩
  refine ⟨?_, fun t => ⟨?_, ?_⟩⟩
  · have hqueue := h.conserves ThreadPool.jobs (fun tr => (enqueued tr).map (·.2))
      (fun tr => (taken tr).map (·.2)) fun tr htr => (hall tr htr).queue
    rw [List.map_flatMap, List.map_flatMap, ← hqueue]
    rfl
  · have hadding := h.conserves (fun s => (s.pc t).adding.toList)
      (fun tr => ofThread t (submitted tr)) (fun tr => ofThread t (enqueued tr))
      fun tr htr => (hall tr htr).adding t
    rw [ofThread_flatMap, ofThread_flatMap, ← hadding, (hinit t).1]
    rfl
  · have hcurrent := h.conserves (fun s => (s.pc t).current.toList)
      (fun tr => ofThread t (taken tr)) (fun tr => ofThread t (finished tr))
      fun tr htr => (hall tr htr).current t
    rw [ofThread_flatMap, ofThread_flatMap, ← hcurrent, (hinit t).2]
    rfl

/-! ### Workers that wait -/

/-- `pthread_cond_signal` wakes up a thread that waits, if there is one. -/
def Signals (tr : PoolTransition n J) : Prop :=
  ∀ t null woken, tr.act = .go t null woken → tr.pre.pc t = .addSignal →
    (∃ u, tr.pre.pc u = .waiting) → ∃ u, woken = some u ∧ tr.pre.pc u = .waiting

/-- A worker waits. -/
def Waits (s : ThreadPool n J) : Prop := ∃ i : Fin n, s.pc (.worker i) = .waiting

/-- The workers that come to the queue without a signal. -/
def headings (s : ThreadPool n J) : Finset (Fin n) :=
  Finset.univ.filter fun i => (s.pc (.worker i)).heading = true

/-- The workers are the threads in the loop of `thread_pool_job`. -/
def RoleInv (s : ThreadPool n J) : Prop := ∀ t, (s.pc t).inLoop = true ↔ ∃ i, t = .worker i

/-- While a worker waits, there is another one for each job in the queue, but for one job of which
the signal is still to come. -/
def WakeInv (s : ThreadPool n J) : Prop :=
  s.Waits → s.jobs.length ≤ s.headings.card ∨
    ∃ t, s.pc t = .addSignal ∧ s.jobs.length ≤ s.headings.card + 1

lemma mem_headings {i : Fin n} : i ∈ s.headings ↔ (s.pc (.worker i)).heading = true := by
  simp [headings]

/-- One worker more, or the same, comes to the queue. -/
lemma headings_subset
    (ht : (s.pc t).heading = true → (s'.pc t).heading = true)
    (hpc : ∀ u, u ≠ t → s'.pc u = s.pc u ∨ s'.pc u = (s.pc u).wakeUp) :
    s.headings ⊆ s'.headings := by
  intro i hi
  rw [mem_headings] at hi ⊢
  by_cases hu : .worker i = t
  · rw [hu] at hi ⊢
    exact ht hi
  · obtain heq | heq := hpc _ hu
    · rwa [heq]
    · rw [heq]
      exact Pc.heading_wakeUp hi

/-- No worker begins to wait. -/
lemma Waits.of_step (h : s'.Waits) (ht : s'.pc t ≠ .waiting)
    (hpc : ∀ u, u ≠ t → s'.pc u = s.pc u ∨ s'.pc u = (s.pc u).wakeUp) : s.Waits := by
  obtain ⟨i, hi⟩ := h
  have hu : .worker i ≠ t := by
    rintro rfl
    exact ht hi
  obtain heq | heq := hpc _ hu
  · exact ⟨i, heq ▸ hi⟩
  · exact absurd (heq ▸ hi) Pc.ne_waiting_of_wakeUp

/-- A step that neither changes the queue nor takes a worker off its way to it. -/
lemma WakeInv.mono (h : WakeInv s) (hjobs : s'.jobs = s.jobs)
    (ht : (s.pc t).heading = true → (s'.pc t).heading = true) (hsignal : s.pc t ≠ .addSignal)
    (hwaits : s'.pc t ≠ .waiting)
    (hpc : ∀ u, u ≠ t → s'.pc u = s.pc u ∨ s'.pc u = (s.pc u).wakeUp) : WakeInv s' := by
  intro hw
  have hcard := Finset.card_le_card (headings_subset ht hpc)
  rw [hjobs]
  obtain hle | ⟨u, hu, hle⟩ := h (hw.of_step hwaits hpc)
  · exact .inl (by omega)
  · refine .inr ⟨u, ?_, by omega⟩
    have hut : u ≠ t := by
      rintro rfl
      exact hsignal hu
    obtain heq | heq := hpc u hut
    · rw [heq, hu]
    · rw [heq, hu]
      rfl

/-- As long as the pool is active, the mutex is kept and no wake-up has been lost. -/
structure Awake (s : ThreadPool n J) : Prop where
  inv : Inv s
  role : RoleInv s
  wake : WakeInv s

lemma awake_init : Awake (threadPoolInit n J) := by
  refine ⟨inv_init, fun t => ?_, fun hw => ?_⟩
  · cases t with
    | worker i => exact iff_of_true rfl ⟨i, rfl⟩
    | main => exact iff_of_false Bool.false_ne_true fun ⟨i, hi⟩ => by cases hi
    | caller k => exact iff_of_false Bool.false_ne_true fun ⟨i, hi⟩ => by cases hi
  · obtain ⟨i, hi⟩ := hw
    cases hi

/-- The threads stay in or out of the loop. -/
lemma RoleInv.of_step (h : RoleInv s) (ht : (s'.pc t).inLoop = (s.pc t).inLoop)
    (hpc : ∀ u, u ≠ t → s'.pc u = s.pc u ∨ s'.pc u = (s.pc u).wakeUp) : RoleInv s' := by
  intro u
  rw [apply_eq_of_pc Pc.inLoop_wakeUp ht hpc]
  exact h u

lemma RoleInv.goto (h : RoleInv s) (pc : Pc J) (hpc : pc.inLoop = (s.pc t).inLoop) :
    RoleInv (s.goto t pc) := by
  refine h.of_step ?_ fun u hu => .inl (s.goto_pc_of_ne pc hu)
  rw [goto_pc_self, hpc]

lemma GoCase.role (h : RoleInv s) (hactive : s'.active = true) (hcase : GoCase s t woken s') :
    RoleInv s' := by
  cases hcase with
  | locks _ _ hinLoop _ _ _ _ _ => exact h.goto _ hinLoop
  | unlocks _ _ hpc =>
      obtain ⟨hpc, rfl⟩ | ⟨node, hpc, rfl⟩ := hpc
      · exact h.goto .idle (by rw [hpc]; rfl)
      · exact h.goto (.job node) (by rw [hpc]; rfl)
  | enqueues hpc => exact h.goto .addSignal (by rw [hpc]; rfl)
  | signals hpc =>
      refine h.of_step (t := t) ?_ fun u hu => ?_
      · rw [goto_pc_self, hpc]
        rfl
      · rw [goto_pc_of_ne _ _ hu]
        exact (s.wakes_signal woken).pc_eq u
  | waits hpc _ _ => exact h.goto .waiting (by rw [hpc]; rfl)
  | tests hpc => exact h.goto _ (by rw [hpc]; rfl)
  | dequeues hpc _ => exact h.goto _ (by rw [hpc]; rfl)
  | takes hpc => exact h.goto (.unlock s.jobs.head?) (by rw [hpc]; rfl)
  | idles hpc => exact h.goto _ (by rw [hpc]; rfl)
  | finishes hpc hpc' => obtain rfl | rfl := hpc' <;> exact h.goto _ (by rw [hpc]; rfl)
  | clears hpc => cases hactive
  | leaves hleaves hleaving _ hmono hpc =>
      obtain hleaves | ⟨-, hfalse⟩ := hleaves
      · refine h.of_step ?_ hpc
        rw [Pc.inLoop_of_leaving hleaving, Pc.inLoop_of_leaving hleaves]
      · rw [hmono hactive] at hfalse
        cases hfalse

/-- A thread that goes on, but not from its signal and not to sleep. -/
lemma WakeInv.goto (h : WakeInv s) (pc : Pc J)
    (ht : (s.pc t).heading = true → pc.heading = true) (hsignal : s.pc t ≠ .addSignal)
    (hwaits : pc ≠ .waiting) : WakeInv (s.goto t pc) := by
  refine h.mono rfl ?_ hsignal ?_ fun u hu => .inl (s.goto_pc_of_ne pc hu)
  · rwa [goto_pc_self]
  · rwa [goto_pc_self]

/-- While a thread that holds the mutex is not at its signal, no signal is still to come. -/
lemma Awake.length_le (h : Awake s) (hheld : (s.pc t).holding = true)
    (hsignal : s.pc t ≠ .addSignal) (hw : s.Waits) : s.jobs.length ≤ s.headings.card := by
  obtain hle | ⟨u, hu, -⟩ := h.wake hw
  · exact hle
  · have hown := (h.inv.mutex u).mpr (by rw [hu]; rfl)
    rw [(h.inv.mutex t).mpr hheld] at hown
    cases hown
    exact absurd hu hsignal

/-- The job is one more in the queue, and its signal is still to come. -/
lemma Awake.wake_enqueue {job : J} (h : Awake s) (hpc : s.pc t = .addEnqueue job) :
    WakeInv { s.goto t .addSignal with jobs := s.jobs ++ [job] } := by
  intro hw
  have hothers : ∀ u, u ≠ t → (s.goto t .addSignal).pc u = s.pc u ∨
      (s.goto t .addSignal).pc u = (s.pc u).wakeUp := fun u hu => .inl (s.goto_pc_of_ne _ hu)
  have hcard : s.headings.card ≤ (s.goto t .addSignal).headings.card :=
    Finset.card_le_card <| headings_subset (fun ht => by rw [hpc] at ht; cases ht) hothers
  have hwaits : s.Waits := Waits.of_step (show (s.goto t .addSignal).Waits from hw)
    (by rw [goto_pc_self]; exact fun h => by cases h) hothers
  have hle := h.length_le (by rw [hpc]; rfl) (by rw [hpc]; exact fun h => by cases h) hwaits
  refine .inr ⟨t, s.goto_pc_self t .addSignal, ?_⟩
  change (s.jobs ++ [job]).length ≤ (s.goto t .addSignal).headings.card + 1
  rw [List.length_append, List.length_singleton]
  omega

/-- The thread that is woken up comes to the queue, too. -/
lemma Awake.wake_signal (h : Awake s) (hpc : s.pc t = .addSignal)
    (hsignals : (∃ u, s.pc u = .waiting) → ∃ u, woken = some u ∧ s.pc u = .waiting) :
    WakeInv ((s.signal woken).goto t .addUnlock) := by
  intro hw
  have hwakes := s.wakes_signal woken
  have hothers : ∀ u, u ≠ t → ((s.signal woken).goto t .addUnlock).pc u = s.pc u ∨
      ((s.signal woken).goto t .addUnlock).pc u = (s.pc u).wakeUp := by
    intro u hu
    rw [goto_pc_of_ne _ _ hu]
    exact hwakes.pc_eq u
  have hwaits : s.Waits := hw.of_step (by rw [goto_pc_self]; exact fun h => by cases h) hothers
  obtain ⟨i, hi⟩ := hwaits
  obtain ⟨u, rfl, hu⟩ := hsignals ⟨_, hi⟩
  obtain ⟨j, rfl⟩ := (h.role u).mp (by rw [hu]; rfl)
  have hjt : Thread.worker j ≠ t := by
    rintro rfl
    rw [hu] at hpc
    cases hpc
  have hnew : j ∉ s.headings := by
    rw [mem_headings, hu]
    exact Bool.false_ne_true
  have hsubset : insert j s.headings ⊆
      ((s.signal (some (.worker j))).goto t .addUnlock).headings := by
    refine Finset.insert_subset ?_
      (headings_subset (fun ht => by rw [hpc] at ht; cases ht) hothers)
    rw [mem_headings, goto_pc_of_ne _ _ hjt, signal, ThreadPool.wake, goto_pc_self, hu]
    rfl
  have hcard := Finset.card_le_card hsubset
  rw [Finset.card_insert_of_notMem hnew] at hcard
  left
  change (s.signal _).jobs.length ≤ _
  rw [hwakes.jobs_eq]
  obtain hle | ⟨v, -, hle⟩ := h.wake ⟨i, hi⟩ <;> omega

/-- One job less, and one worker less that comes to the queue. -/
lemma Awake.wake_dequeue (h : Awake s) (hpc : s.pc t = .dequeue) :
    WakeInv { s.goto t (.unlock s.jobs.head?) with jobs := s.jobs.tail } := by
  intro hw
  obtain ⟨j, rfl⟩ := (h.role t).mp (by rw [hpc]; rfl)
  have hwaits : s.Waits := Waits.of_step
    (show (s.goto (.worker j) (.unlock s.jobs.head?)).Waits from hw)
    (by rw [goto_pc_self]; exact fun h => by cases h)
    fun u hu => .inl (s.goto_pc_of_ne _ hu)
  have hle := h.length_le (by rw [hpc]; rfl) (by rw [hpc]; exact fun h => by cases h) hwaits
  have hmem : j ∈ s.headings := by
    rw [mem_headings, hpc]
    rfl
  have hsubset : s.headings.erase j ⊆
      (s.goto (.worker j) (.unlock s.jobs.head?)).headings := by
    intro i hi
    obtain ⟨hij, hi⟩ := Finset.mem_erase.mp hi
    rw [mem_headings] at hi ⊢
    rwa [goto_pc_of_ne _ _ fun heq => hij (Thread.worker.inj heq)]
  have hcard := Finset.card_le_card hsubset
  rw [Finset.card_erase_of_mem hmem] at hcard
  have hpos := Finset.card_pos.mpr ⟨j, hmem⟩
  left
  change s.jobs.tail.length ≤ (s.goto (.worker j) (.unlock s.jobs.head?)).headings.card
  rw [List.length_tail]
  omega

/-- **A step of a thread loses no wake-up.** -/
lemma GoCase.wake {o : Unit} (h : Awake s) (hactive : s'.active = true)
    (hsignals : Signals ⟨s, .go t null woken, o, s'⟩) (hcase : GoCase s t woken s') :
    WakeInv s' := by
  cases hcase with
  | locks hlocks _ _ hheading hholding _ _ _ =>
      refine h.wake.goto _ (fun ht => hheading.trans ht) (fun hpc => ?_) fun hpc => ?_
      · rw [hpc] at hlocks
        cases hlocks
      · rw [hpc] at hholding
        cases hholding
  | unlocks _ _ hpc =>
      obtain ⟨hpc, rfl⟩ | ⟨node, hpc, rfl⟩ := hpc
      · exact h.wake.goto .idle (by rw [hpc]; exact fun h => by cases h)
          (by rw [hpc]; exact fun h => by cases h) fun h => by cases h
      · exact h.wake.goto (.job node) (by rw [hpc]; exact fun h => by cases h)
          (by rw [hpc]; exact fun h => by cases h) fun h => by cases h
  | enqueues hpc => exact h.wake_enqueue hpc
  | signals hpc => exact h.wake_signal hpc (hsignals t null woken rfl hpc)
  | waits hpc hjobs _ =>
      intro _
      left
      change s.jobs.length ≤ _
      rw [hjobs]
      exact Nat.zero_le _
  | tests hpc | dequeues hpc _ | idles hpc =>
      exact h.wake.goto _ (fun _ => rfl) (by rw [hpc]; exact fun h => by cases h)
        fun h => by cases h
  | takes hpc => exact h.wake_dequeue hpc
  | finishes hpc hpc' =>
      refine h.wake.goto _ (fun ht => ?_) (by rw [hpc]; exact fun h => by cases h) ?_
      · rw [hpc] at ht
        cases ht
      · obtain rfl | rfl := hpc' <;> exact fun h => by cases h
  | clears hpc => cases hactive
  | leaves hleaves hleaving hjobs hmono hpc =>
      obtain hleaves | ⟨-, hfalse⟩ := hleaves
      · refine h.wake.mono hjobs (fun ht => ?_) (fun ht => ?_) (fun hw => ?_) hpc
        · rw [Pc.heading_of_leaving hleaves] at ht
          cases ht
        · rw [ht] at hleaves
          cases hleaves
        · rw [hw] at hleaving
          cases hleaving
      · rw [hmono hactive] at hfalse
        cases hfalse

/-- The pool does not become active again. -/
lemma GoCase.active (hcase : GoCase s t woken s') (hactive : s'.active = true) :
    s.active = true := by
  cases hcase with
  | signals hpc =>
      have hrest := (s.wakes_signal woken).active_eq
      exact hrest.symm.trans hactive
  | clears hpc => cases hactive
  | leaves _ _ _ hmono _ => exact hmono hactive
  | _ => exact hactive

lemma step_active {a : PoolAct n J} {o : Unit} (h : step s a = some (s', o))
    (hactive : s'.active = true) : s.active = true := by
  cases a with
  | addJob t job =>
      simp only [step] at h
      split at h
      · cases h
        exact hactive
      · cases h
  | poolWait =>
      simp only [step] at h
      split at h
      · cases h
        exact hactive
      · cases h
  | wake t =>
      cases h
      exact hactive
  | go t null woken =>
      obtain ⟨s'', hgo, heq⟩ := Option.map_eq_some_iff.mp h
      cases heq
      exact (go_cases hgo).active hactive

/-- **A step** of an active pool loses no wake-up. -/
lemma Awake.step {a : PoolAct n J} {o : Unit} (h : Awake s) (hs : step s a = some (s', o))
    (hsignals : Signals ⟨s, a, o, s'⟩) (hactive : s'.active = true) : Awake s' := by
  have hinv := h.inv.step hs (not_leavesLocked (step_active hs hactive))
  cases a with
  | addJob t job =>
      simp only [ThreadPool.step] at hs
      split at hs
      · rename_i hpc
        cases hs
        refine ⟨hinv, h.role.goto _ (by rw [hpc]; rfl), h.wake.goto _ (fun ht => ?_) ?_ ?_⟩
        · rw [hpc] at ht
          cases ht
        · rw [hpc]
          exact fun h => by cases h
        · exact fun h => by cases h
      · cases hs
  | poolWait =>
      simp only [ThreadPool.step] at hs
      split at hs
      · rename_i hpc
        cases hs
        refine ⟨hinv, h.role.goto _ (by rw [hpc]; rfl), h.wake.goto _ (fun ht => ?_) ?_ ?_⟩
        · rw [hpc] at ht
          cases ht
        · rw [hpc]
          exact fun h => by cases h
        · exact fun h => by cases h
      · cases hs
  | wake t =>
      cases hs
      have hwakes := s.wakes_wake t
      refine ⟨hinv, fun u => ?_, ?_⟩
      · rw [hwakes.apply_eq Pc.inLoop_wakeUp]
        exact h.role u
      · have hpc : (s.wake t).pc t = (s.pc t).wakeUp := s.goto_pc_self t _
        by_cases hsignal : s.pc t = .addSignal
        · have heq : s.wake t = s := by
            rw [ThreadPool.wake, hsignal]
            exact goto_eq_self hsignal
          rw [heq]
          exact h.wake
        · refine h.wake.mono rfl (fun ht => ?_) hsignal ?_ fun u _ => hwakes.pc_eq u
          · rw [hpc]
            exact Pc.heading_wakeUp ht
          · rw [hpc]
            exact Pc.ne_waiting_of_wakeUp
  | go t null woken =>
      obtain ⟨s'', hgo, heq⟩ := Option.map_eq_some_iff.mp hs
      cases heq
      have hcase := go_cases hgo
      exact ⟨hinv, hcase.role h.role hactive, hcase.wake h hactive hsignals⟩

/-- A run that leaves the pool active. -/
lemma run_awake {ts : List (PoolTransition n J)} (h : Machine.Run step (threadPoolInit n J) ts s)
    (hsignals : ∀ tr ∈ ts, Signals tr) (hactive : s.active = true) : Awake s :=
  h.history (P := fun _ s => s.active = true → Awake s) (Q := Signals)
    (fun _ _ _ _ _ hs hsig hstep hactive =>
      (hs (step_active hstep hactive)).step hstep hsig hactive)
    hsignals (fun _ => awake_init) hactive

/-! ### Jobs that wait -/

/-- Only the jobs go on: no thread can take a step in the pool. -/
def Quiet (s : ThreadPool n J) : Prop :=
  ∀ t null woken, (s.go t null woken).isSome → ∃ job, s.pc t = .job (some job)

/-- A thread that holds the mutex goes on. -/
lemma isSome_go_of_holding (h : (s.pc t).holding = true) : (s.go t false none).isSome := by
  cases hpc : s.pc t with
  | addEnqueue | addSignal | addUnlock | dequeue | unlock | sdClear | sdBroadcast | sdUnlock =>
      simp [go, hpc]
  | loop | test =>
      simp only [go, hpc]
      split <;> rfl
  | _ =>
      rw [hpc] at h
      cases h

/-- A thread that locks the mutex goes on, when no thread holds it. -/
lemma isSome_go_of_locks (h : (s.pc t).locks = true) (howner : s.owner = none) :
    (s.go t false none).isSome := by
  cases hpc : s.pc t with
  | addLock | lock | woken | sdLock => simp [go, hpc, lockMutex, howner]
  | _ =>
      rw [hpc] at h
      cases h

lemma Quiet.not_holding (h : s.Quiet) (t : Thread n) : (s.pc t).holding = false := by
  by_contra hne
  have hholding := Bool.eq_true_of_not_eq_false hne
  obtain ⟨job, hpc⟩ := h t _ _ (isSome_go_of_holding hholding)
  rw [hpc] at hholding
  cases hholding

lemma Quiet.owner_eq (h : s.Quiet) (hmutex : MutexInv s) : s.owner = none := by
  by_contra hne
  obtain ⟨t, ht⟩ := Option.ne_none_iff_exists'.mp hne
  have hholding := (hmutex t).mp ht
  rw [h.not_holding t] at hholding
  cases hholding

lemma Quiet.not_locks (h : s.Quiet) (hmutex : MutexInv s) (t : Thread n) :
    (s.pc t).locks = false := by
  by_contra hne
  have hlocks := Bool.eq_true_of_not_eq_false hne
  obtain ⟨job, hpc⟩ := h t _ _ (isSome_go_of_locks hlocks (h.owner_eq hmutex))
  rw [hpc] at hlocks
  cases hlocks

/-- Then a worker waits, or runs a job. -/
lemma Quiet.worker (h : s.Quiet) (hawake : Awake s) (i : Fin n) :
    s.pc (.worker i) = .waiting ∨ ∃ job, s.pc (.worker i) = .job (some job) := by
  have hloop := (hawake.role (.worker i)).mpr ⟨i, rfl⟩
  have hholding := h.not_holding (.worker i)
  have hlocks := h.not_locks hawake.inv.mutex (.worker i)
  cases hpc : s.pc (.worker i) with
  | waiting => exact .inl rfl
  | job node =>
      cases node with
      | some job => exact .inr ⟨job, rfl⟩
      | none =>
          obtain ⟨job, hjob⟩ := h (.worker i) false none (by simp [go, hpc])
          rw [hpc] at hjob
          cases hjob
  | clear =>
      obtain ⟨job, hjob⟩ := h (.worker i) false none (by simp [go, hpc])
      rw [hpc] at hjob
      cases hjob
  | lock | woken =>
      rw [hpc] at hlocks
      cases hlocks
  | loop | test | dequeue | unlock =>
      rw [hpc] at hholding
      cases hholding
  | _ =>
      rw [hpc] at hloop
      cases hloop

/-- A job in the queue, when only jobs go on: every worker runs one. -/
lemma Quiet.all_busy (h : s.Quiet) (hawake : Awake s) (hjobs : s.jobs ≠ []) (i : Fin n) :
    ∃ job, s.pc (.worker i) = .job (some job) := by
  refine (h.worker hawake i).resolve_left fun hwaits => hjobs ?_
  have hnone : s.headings = ∅ := by
    refine Finset.eq_empty_of_forall_notMem fun j hj => ?_
    rw [mem_headings] at hj
    obtain hpc | ⟨job, hpc⟩ := h.worker hawake j
    · rw [hpc] at hj
      cases hj
    · rw [hpc] at hj
      cases hj
  obtain hle | ⟨t, ht, -⟩ := hawake.wake ⟨i, hwaits⟩
  · rw [hnone, Finset.card_empty] at hle
    exact List.length_eq_zero_iff.mp (Nat.le_zero.mp hle)
  · have hholding := h.not_holding t
    rw [ht] at hholding
    cases hholding

/-- **No wake-up is lost.**  Over every run, in any order of the steps, as long as the pool is
active: while a worker waits, there is another one on its way for each job in the queue, but for one
job whose signal is still to come; and when only jobs go on, a job is left in the queue only if
every worker runs one. -/
theorem no_lost_wakeup {ts : List (PoolTransition n J)}
    (h : Machine.Run step (threadPoolInit n J) ts s) (hsignals : ∀ tr ∈ ts, Signals tr)
    (hactive : s.active = true) :
    (s.Waits → s.jobs.length ≤ s.headings.card ∨
      ∃ t, s.pc t = .addSignal ∧ s.jobs.length ≤ s.headings.card + 1) ∧
    (s.Quiet → s.jobs ≠ [] → ∀ i, ∃ job, s.pc (.worker i) = .job (some job)) := by
  have hawake := run_awake h hsignals hactive
  exact ⟨hawake.wake, fun hquiet hjobs i => hquiet.all_busy hawake hjobs i⟩

/-! ### As many jobs as workers -/

section Counts

open Classical in
lemma count_ofThread (t : Thread n) (job : J) (l : List (Thread n × J)) :
    (ofThread t l).count job = l.count (t, job) := by
  induction l with
  | nil => rfl
  | cons p l ih =>
      obtain ⟨u, job'⟩ := p
      by_cases hu : u = t
      · subst hu
        have hcons : ofThread u ((u, job') :: l) = job' :: ofThread u l := by simp [ofThread]
        rw [hcons, List.count_cons, List.count_cons, ih]
        simp
      · have hcons : ofThread t ((u, job') :: l) = ofThread t l := by simp [ofThread, hu]
        rw [hcons, ih, List.count_cons_of_ne]
        exact fun heq => hu (Prod.mk.inj heq).1

/-- What threads have done is determined, but for the order, by what each of them has done. -/
lemma perm_of_ofThread {l l' : List (Thread n × J)} (h : ∀ t, ofThread t l = ofThread t l') :
    l.Perm l' := by
  classical
  refine List.perm_iff_count.mpr fun p => ?_
  obtain ⟨t, job⟩ := p
  rw [← count_ofThread, ← count_ofThread, h]

/-- With a job that runs on every worker, as many jobs as workers have been taken. -/
lemma length_taken {ts : List (PoolTransition n J)}
    (h : Machine.Run step (threadPoolInit n J) ts s)
    (hbusy : ∀ i, ∃ job, s.pc (.worker i) = .job (some job)) :
    n ≤ (ts.flatMap taken).length := by
  have hsubset : Finset.univ.image Thread.worker ⊆
      ((ts.flatMap taken).map (·.1)).toFinset := by
    intro t ht
    obtain ⟨i, -, rfl⟩ := Finset.mem_image.mp ht
    obtain ⟨job, hjob⟩ := hbusy i
    have htaken := ((jobs_conserved h).2 (.worker i)).2
    rw [hjob] at htaken
    have hmem : job ∈ ofThread (.worker i) (ts.flatMap taken) := by
      rw [htaken]
      exact List.mem_append_right _ (Option.mem_toList.mpr rfl)
    obtain ⟨p, hp, -⟩ := List.mem_map.mp hmem
    obtain ⟨hp, hfst⟩ := List.mem_filter.mp hp
    rw [List.mem_toFinset]
    exact List.mem_map.mpr ⟨p, hp, of_decide_eq_true hfst⟩
  have hcard := (Finset.card_le_card hsubset).trans (List.toFinset_card_le _)
  rw [Finset.card_image_of_injective _ fun i j hij => Thread.worker.inj hij, Finset.card_univ,
    Fintype.card_fin, List.length_map] at hcard
  exact hcard

/-- **As many jobs as workers are all taken.**  Over every run, in any order of the steps, in which
`add_job` is called at most as often as there are workers: when only jobs go on in an active pool,
no job is in the queue, and what has been taken is what `add_job` has been called with. -/
theorem all_jobs_taken {ts : List (PoolTransition n J)}
    (h : Machine.Run step (threadPoolInit n J) ts s) (hsignals : ∀ tr ∈ ts, Signals tr)
    (hactive : s.active = true) (hquiet : s.Quiet) (hle : (ts.flatMap submitted).length ≤ n) :
    s.jobs = [] ∧
      ((ts.flatMap submitted).map (·.2)).Perm ((ts.flatMap taken).map (·.2)) := by
  have hawake := run_awake h hsignals hactive
  obtain ⟨hqueue, hthreads⟩ := jobs_conserved h
  -- no thread is in `add_job`
  have hadding : ∀ t, (s.pc t).adding = none := by
    intro t
    cases hpc : s.pc t with
    | addLock job =>
        have hlocks := hquiet.not_locks hawake.inv.mutex t
        rw [hpc] at hlocks
        cases hlocks
    | addEnqueue job =>
        have hholding := hquiet.not_holding t
        rw [hpc] at hholding
        cases hholding
    | _ => rfl
  have hperm : (ts.flatMap submitted).Perm (ts.flatMap enqueued) := by
    refine perm_of_ofThread fun t => ?_
    rw [(hthreads t).1, hadding t]
    exact List.append_nil _
  have hjobs : s.jobs = [] := by
    by_contra hne
    have hn := length_taken h (hquiet.all_busy hawake hne)
    have hlength := congrArg List.length hqueue
    rw [List.length_map, List.length_append, List.length_map] at hlength
    have hsubmitted := hperm.length_eq
    have hpos := List.length_pos_of_ne_nil hne
    omega
  refine ⟨hjobs, ?_⟩
  rw [hjobs, List.append_nil] at hqueue
  rw [← hqueue]
  exact hperm.map _

end Counts

/-! ### A pool of three workers -/

/-- A signal, if the transition is one, wakes up a thread that waits. -/
def wakesOne (tr : PoolTransition n J) : Bool :=
  match tr.act with
  | .go t _ woken =>
      match tr.pre.pc t, woken with
      | .addSignal, some u =>
          match tr.pre.pc u with
          | .waiting => true
          | _ => false
      | .addSignal, none => false
      | _, _ => true
  | _ => true

lemma signals_of_wakesOne {tr : PoolTransition n J} (h : wakesOne tr = true) : Signals tr := by
  intro t null woken hact hpc _
  simp only [wakesOne, hact, hpc] at h
  cases woken with
  | none => cases h
  | some u =>
      refine ⟨u, rfl, ?_⟩
      simp only at h
      split at h
      · assumption
      · cases h

namespace ThreeWorkers

/-- All workers wait; the main thread adds a job and wakes up the first worker, which takes it. -/
lemma exists_run_takes : ∃ ts s, Machine.Run step (threadPoolInit 3 Unit) ts s ∧
    (∀ tr ∈ ts, Signals tr) ∧ s.active = true ∧ s.Waits ∧ s.Quiet ∧
    (ts.flatMap submitted).length = 1 ∧ (ts.flatMap taken).map (·.2) = [()] := by
  have hrun : Machine.Run step (threadPoolInit 3 Unit) _ _ :=
    .cons (a := run (.worker 0)) rfl <| .cons (a := run (.worker 0)) rfl <|
    .cons (a := run (.worker 1)) rfl <| .cons (a := run (.worker 1)) rfl <|
    .cons (a := run (.worker 2)) rfl <| .cons (a := run (.worker 2)) rfl <|
    .cons (a := .addJob .main ()) rfl <| .cons (a := run .main) rfl <| .cons (a := run .main) rfl <|
    .cons (a := .go .main false (some (.worker 0))) rfl <| .cons (a := run .main) rfl <|
    .cons (a := run (.worker 0)) rfl <| .cons (a := run (.worker 0)) rfl <|
    .cons (a := run (.worker 0)) rfl <| .cons (a := run (.worker 0)) rfl <|
    .cons (a := run (.worker 0)) rfl <| .nil _
  refine ⟨_, _, hrun, fun tr htr => signals_of_wakesOne ?_, rfl, ⟨1, rfl⟩, ?_, rfl, rfl⟩
  · revert tr htr
    decide
  · intro t null woken hsome
    cases t with
    | worker i =>
        match i with
        | 0 => exact ⟨(), rfl⟩
        | 1 => cases hsome
        | 2 => cases hsome
    | main => cases hsome
    | caller k => cases hsome

/-- The job has been put into the queue and has been taken out of it. -/
theorem jobs_conserved_one : ∃ ts s, Machine.Run step (threadPoolInit 3 Unit) ts s ∧
    (ts.flatMap submitted).length = 1 ∧
    (ts.flatMap enqueued).map (·.2) = (ts.flatMap taken).map (·.2) ++ s.jobs ∧
    ∀ t, ofThread t (ts.flatMap submitted) =
        ofThread t (ts.flatMap enqueued) ++ (s.pc t).adding.toList ∧
      ofThread t (ts.flatMap taken) =
        ofThread t (ts.flatMap finished) ++ (s.pc t).current.toList := by
  obtain ⟨ts, s, hrun, -, -, -, -, hlength, -⟩ := exists_run_takes
  exact ⟨ts, s, hrun, hlength, jobs_conserved hrun⟩

/-- The other workers wait, with no job in the queue. -/
theorem no_lost_wakeup_one : ∃ (s : ThreadPool 3 Unit), s.Waits ∧
    (s.Waits → s.jobs.length ≤ s.headings.card ∨
      ∃ t, s.pc t = .addSignal ∧ s.jobs.length ≤ s.headings.card + 1) ∧
    (s.Quiet → s.jobs ≠ [] → ∀ i, ∃ job, s.pc (.worker i) = .job (some job)) := by
  obtain ⟨ts, s, hrun, hsignals, hactive, hwaits, -⟩ := exists_run_takes
  exact ⟨s, hwaits, no_lost_wakeup hrun hsignals hactive⟩

/-- The one job is taken. -/
theorem all_jobs_taken_one : ∃ ts s, Machine.Run step (threadPoolInit 3 Unit) ts s ∧
    (ts.flatMap submitted).length = 1 ∧ s.jobs = [] ∧
      ((ts.flatMap submitted).map (·.2)).Perm ((ts.flatMap taken).map (·.2)) := by
  obtain ⟨ts, s, hrun, hsignals, hactive, -, hquiet, hlength, -⟩ := exists_run_takes
  exact ⟨ts, s, hrun, hlength, all_jobs_taken hrun hsignals hactive hquiet (by omega)⟩

end ThreeWorkers

end ThreadPool

end Megaphone
