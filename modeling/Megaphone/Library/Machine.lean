import Mathlib.Tactic

/-!
Machines that take steps with an input and an output, and their runs.

A machine is a partial function `step`: `step s a = some (s', o)` when the input `a` takes the
state `s` to `s'` with the output `o`, and `none` when it takes it nowhere.

* `Run`: a run, with the list of its transitions; `Run.append`, `Run.split`, `Run.eq_of_acts`.
* `exec`: the run of given inputs, computed.
* `Run.invariant`: what every step preserves, every run preserves.
* `Run.history`: the same of a state and the transitions before it.
* `Run.forall_transition`: what every step from a state with the invariant satisfies, every
  transition of a run satisfies.
* `Run.forall_iff`, `Run.forall_prefix_iff`, `Run.forall_state_iff`: the exact condition for a
  property to hold throughout a run, of the transitions, of the states with the transitions before
  them, or of the states; `Run.pre_of_forall_not`: of the states that the transitions start in.
* `Run.exists_of_mem`, `Run.exists_prefix_of_mem`, `Run.pairwise`: the transitions of a run are
  steps, with runs between them.
* `Run.rel`: a reflexive and transitive relation between the ends of a step relates the ends of a
  run.
* `Run.conserves`: what is put into a queue has been taken out of it or is still there.
* `pairwise_of_forall₂`: what holds of two transitions of a run holds of those of a matching run.
* `Run.simulates`: a step by step simulation carries over to runs, transition by transition.
-/

namespace Machine

variable {S A O : Type*}

/-- One transition of a machine. -/
structure Transition (S A O : Type*) where
  pre : S
  act : A
  out : O
  post : S

/-- A run from one state to another and the list of its transitions. -/
inductive Run (step : S → A → Option (S × O)) : S → List (Transition S A O) → S → Prop
  | nil (s : S) : Run step s [] s
  | cons {s s' s'' : S} {a : A} {o : O} {ts : List (Transition S A O)}
      (h : step s a = some (s', o)) (hr : Run step s' ts s'') : Run step s (⟨s, a, o, s'⟩ :: ts) s''

variable {step : S → A → Option (S × O)}

namespace Run

lemma append {s s' s'' : S} {ts us : List (Transition S A O)} (h : Run step s ts s')
    (h' : Run step s' us s'') : Run step s (ts ++ us) s'' := by
  induction h with
  | nil => exact h'
  | cons hs _ ih => exact cons hs (ih h')

lemma split {s s'' : S} {ts us : List (Transition S A O)} (h : Run step s (ts ++ us) s'') :
    ∃ s', Run step s ts s' ∧ Run step s' us s'' := by
  induction ts generalizing s with
  | nil => exact ⟨s, nil s, h⟩
  | cons t ts ih =>
      cases h with
      | cons hs hr =>
          obtain ⟨s', h₁, h₂⟩ := ih hr
          exact ⟨s', cons hs h₁, h₂⟩

/-- The inputs decide the end of a run. -/
lemma eq_of_acts {s s' s'' : S} {ts us : List (Transition S A O)} (h : Run step s ts s')
    (h' : Run step s us s'') (heq : ts.map (·.act) = us.map (·.act)) : ts = us ∧ s' = s'' := by
  induction h generalizing us with
  | nil =>
      obtain rfl := List.map_eq_nil_iff.mp heq.symm
      cases h'
      exact ⟨rfl, rfl⟩
  | cons hs _ ih =>
      cases h' with
      | nil => cases heq
      | cons hs' hr' =>
          obtain ⟨hact, hacts⟩ := List.cons.inj heq
          obtain rfl : _ = _ := hact
          obtain ⟨rfl, rfl⟩ := Prod.mk.inj (Option.some.inj (hs.symm.trans hs'))
          obtain ⟨rfl, rfl⟩ := ih hr' hacts
          exact ⟨rfl, rfl⟩

/-- **Invariants**: what every step preserves, every run preserves. -/
theorem invariant {P : S → Prop} (hstep : ∀ s a s' o, P s → step s a = some (s', o) → P s')
    {s s' : S} {ts : List (Transition S A O)} (h : Run step s ts s') (hs : P s) : P s' := by
  induction h with
  | nil => exact hs
  | cons h _ ih => exact ih (hstep _ _ _ _ hs h)

/-- **Histories**: what every step within `Q` preserves of a state and the transitions before it. -/
theorem history {P : List (Transition S A O) → S → Prop} {Q : Transition S A O → Prop}
    (hstep : ∀ us s a s' o, P us s → Q ⟨s, a, o, s'⟩ → step s a = some (s', o) →
      P (us ++ [⟨s, a, o, s'⟩]) s')
    {s s' : S} {ts : List (Transition S A O)} (h : Run step s ts s') (hQ : ∀ t ∈ ts, Q t)
    (hs : P [] s) : P ts s' := by
  have hfrom : ∀ us, P us s → P (us ++ ts) s' := by
    clear hs
    induction h with
    | nil s =>
        intro us hs
        rwa [List.append_nil]
    | cons h _ ih =>
        intro us hs
        obtain ⟨hQ₁, hQ'⟩ := List.forall_mem_cons.mp hQ
        rw [List.append_cons]
        exact ih hQ' _ (hstep _ _ _ _ _ hs hQ₁ h)
  exact hfrom [] hs

/-- Every transition of a run is a step from a state with the invariant. -/
theorem forall_transition {P : S → Prop}
    (hstep : ∀ s a s' o, P s → step s a = some (s', o) → P s') {Q : Transition S A O → Prop}
    (hQ : ∀ s a s' o, P s → step s a = some (s', o) → Q ⟨s, a, o, s'⟩)
    {s s' : S} {ts : List (Transition S A O)} (h : Run step s ts s') (hs : P s) :
    ∀ t ∈ ts, Q t := by
  induction h with
  | nil => simp
  | cons h _ ih =>
      intro t ht
      rcases List.mem_cons.mp ht with rfl | ht
      · exact hQ _ _ _ _ hs h
      · exact ih (hstep _ _ _ _ hs h) t ht

/-- **Exact conditions**: when every step from a state with the invariant either has `B`, and then
not `Q`, or has `Q` and preserves the invariant, a run has `Q` throughout just when no step has
`B`. -/
theorem forall_iff {P : S → Prop} {B Q : Transition S A O → Prop}
    (hB : ∀ s a s' o, P s → step s a = some (s', o) → B ⟨s, a, o, s'⟩ → ¬Q ⟨s, a, o, s'⟩)
    (hQ : ∀ s a s' o, P s → step s a = some (s', o) → ¬B ⟨s, a, o, s'⟩ →
      P s' ∧ Q ⟨s, a, o, s'⟩)
    {s s' : S} {ts : List (Transition S A O)} (h : Run step s ts s') (hs : P s) :
    (∀ t ∈ ts, Q t) ↔ ∀ t ∈ ts, ¬B t := by
  induction h with
  | nil => simp
  | cons h _ ih =>
      rw [List.forall_mem_cons, List.forall_mem_cons]
      constructor
      · rintro ⟨hq, hqs⟩
        have hb := fun hb => hB _ _ _ _ hs h hb hq
        exact ⟨hb, (ih (hQ _ _ _ _ hs h hb).1).mp hqs⟩
      · rintro ⟨hb, hbs⟩
        obtain ⟨hs', hq⟩ := hQ _ _ _ _ hs h hb
        exact ⟨hq, (ih hs').mpr hbs⟩

/-- The same of a property of a state and of the transitions before it, `vs` being those before the
run. -/
theorem forall_prefix_iff {P H : List (Transition S A O) → S → Prop} {B : Transition S A O → Prop}
    (hP : ∀ us s, P us s → H us s)
    (hB : ∀ us s a s' o, P us s → step s a = some (s', o) → B ⟨s, a, o, s'⟩ →
      ¬H (us ++ [⟨s, a, o, s'⟩]) s')
    (hstep : ∀ us s a s' o, P us s → step s a = some (s', o) → ¬B ⟨s, a, o, s'⟩ →
      P (us ++ [⟨s, a, o, s'⟩]) s')
    {s s' : S} {vs ts : List (Transition S A O)} (h : Run step s ts s') (hs : P vs s) :
    (∀ us s₁, us <+: ts → Run step s us s₁ → H (vs ++ us) s₁) ↔ ∀ t ∈ ts, ¬B t := by
  induction h generalizing vs with
  | nil s =>
      refine ⟨fun _ t ht => absurd ht List.not_mem_nil, fun _ us s₁ hus hrun => ?_⟩
      obtain rfl := List.prefix_nil.mp hus
      cases hrun
      rw [List.append_nil]
      exact hP _ _ hs
  | @cons s s₁ s' a o ts h hr ih =>
      rw [List.forall_mem_cons]
      constructor
      · intro hH
        have hb : ¬B ⟨s, a, o, s₁⟩ := fun hb => hB _ _ _ _ _ hs h hb
          (hH [_] s₁ (List.prefix_append [_] ts) (cons h (nil s₁)))
        refine ⟨hb, (ih (hstep _ _ _ _ _ hs h hb)).mp fun us s₂ hus hrun => ?_⟩
        rw [List.append_assoc, List.singleton_append]
        exact hH _ s₂ (List.cons_prefix_cons.mpr ⟨rfl, hus⟩) (cons h hrun)
      · rintro ⟨hb, hbs⟩ us s₂ hus hrun
        cases hrun with
        | nil =>
            rw [List.append_nil]
            exact hP _ _ hs
        | cons h' hr' =>
            obtain ⟨heq, hus'⟩ := List.cons_prefix_cons.mp hus
            cases heq
            rw [← List.singleton_append, ← List.append_assoc]
            exact (ih (hstep _ _ _ _ _ hs h hb)).mpr hbs _ s₂ hus' hr'

/-- The same of an invariant that holds just as long as no step has `B`. -/
theorem forall_state_iff {P : S → Prop} {B : Transition S A O → Prop}
    (hB : ∀ s a s' o, P s → step s a = some (s', o) → B ⟨s, a, o, s'⟩ → ¬P s')
    (hstep : ∀ s a s' o, P s → step s a = some (s', o) → ¬B ⟨s, a, o, s'⟩ → P s')
    {s s' : S} {ts : List (Transition S A O)} (h : Run step s ts s') (hs : P s) :
    (∀ us s₁, us <+: ts → Run step s us s₁ → P s₁) ↔ ∀ t ∈ ts, ¬B t :=
  @forall_prefix_iff S A O step (fun _ => P) (fun _ => P) B (fun _ _ h => h) (fun _ => hB)
    (fun _ => hstep) s s' [] ts h hs

/-- The transitions of a run without `B` start in a state with the invariant. -/
theorem pre_of_forall_not {P : S → Prop} {B : Transition S A O → Prop}
    (hstep : ∀ s a s' o, P s → step s a = some (s', o) → ¬B ⟨s, a, o, s'⟩ → P s')
    {s s' : S} {ts : List (Transition S A O)} (h : Run step s ts s') (hs : P s)
    (hts : ∀ t ∈ ts, ¬B t) : ∀ t ∈ ts, P t.pre := by
  induction h with
  | nil => exact fun t ht => absurd ht List.not_mem_nil
  | cons h _ ih =>
      obtain ⟨hb, hbs⟩ := List.forall_mem_cons.mp hts
      exact List.forall_mem_cons.mpr ⟨hs, ih (hstep _ _ _ _ hs h hb) hbs⟩

/-- A transition of a run is a step, from a state that the run reaches, and the run goes on from
there. -/
theorem exists_of_mem {s s' : S} {ts : List (Transition S A O)} (h : Run step s ts s')
    {t : Transition S A O} (ht : t ∈ ts) :
    step t.pre t.act = some (t.post, t.out) ∧ (∃ us, Run step s us t.pre) ∧
      ∃ us, Run step t.post us s' := by
  obtain ⟨us, vs, rfl⟩ := List.append_of_mem ht
  obtain ⟨s₁, h₁, h₂⟩ := h.split
  cases h₂ with
  | cons hs hr => exact ⟨hs, ⟨us, h₁⟩, vs, hr⟩

/-- The transitions before one of a run are a run to its beginning. -/
theorem exists_prefix_of_mem {s s' : S} {ts : List (Transition S A O)} (h : Run step s ts s')
    {t : Transition S A O} (ht : t ∈ ts) : ∃ us, us <+: ts ∧ Run step s us t.pre := by
  obtain ⟨us, vs, rfl⟩ := List.append_of_mem ht
  obtain ⟨s₁, h₁, h₂⟩ := h.split
  cases h₂ with
  | cons hs hr => exact ⟨us, List.prefix_append _ _, h₁⟩

/-- From each transition of a run there is a run to every later one. -/
theorem pairwise {s s' : S} {ts : List (Transition S A O)} (h : Run step s ts s') :
    ts.Pairwise fun t t' => ∃ us, Run step t.post us t'.pre := by
  induction h with
  | nil => exact .nil
  | cons hs hr ih => exact .cons (fun t ht => (hr.exists_of_mem ht).2.1) ih

/-- What holds between the ends of each step holds between the ends of a run. -/
theorem rel {R : S → S → Prop} (hrefl : ∀ s, R s s)
    (htrans : ∀ s s' s'', R s s' → R s' s'' → R s s'')
    (hstep : ∀ s a s' o, step s a = some (s', o) → R s s')
    {s s' : S} {ts : List (Transition S A O)} (h : Run step s ts s') : R s s' := by
  induction h with
  | nil => exact hrefl _
  | cons h _ ih => exact htrans _ _ _ (hstep _ _ _ _ h) ih

/-- **Queues**: when in every transition what is held, followed by what is put in, is what is taken
out, followed by what is held then, so it is over a run. -/
theorem conserves {B : Type*} (held : S → List B) (into out : Transition S A O → List B)
    {s s' : S} {ts : List (Transition S A O)} (h : Run step s ts s')
    (hts : ∀ t ∈ ts, held t.pre ++ into t = out t ++ held t.post) :
    held s ++ ts.flatMap into = ts.flatMap out ++ held s' := by
  induction h with
  | nil => simp
  | @cons s s₁ s' a o ts _ _ ih =>
      obtain ⟨ht, hts'⟩ := List.forall_mem_cons.mp hts
      rw [List.flatMap_cons, List.flatMap_cons, ← List.append_assoc, ht, List.append_assoc,
        ih hts', List.append_assoc]

/-- **Simulation**: when every step within `Q` from related states is matched by a step of `spec` to
related states, every run within `Q` is matched by a run of `spec`, transition by transition. -/
theorem simulates {T B P : Type*} {spec : T → B → Option (T × P)} {R : S → T → Prop}
    {Q : Transition S A O → Prop} {M : Transition S A O → Transition T B P → Prop}
    (hstep : ∀ s a s' o t, R s t → Q ⟨s, a, o, s'⟩ → step s a = some (s', o) →
      ∃ b t' p, spec t b = some (t', p) ∧ M ⟨s, a, o, s'⟩ ⟨t, b, p, t'⟩ ∧ R s' t')
    {s s' : S} {ts : List (Transition S A O)} (h : Run step s ts s') (hQ : ∀ t ∈ ts, Q t) {t : T}
    (hR : R s t) : ∃ us t', Run spec t us t' ∧ R s' t' ∧ List.Forall₂ M ts us := by
  induction h generalizing t with
  | nil => exact ⟨[], t, nil t, hR, .nil⟩
  | cons h _ ih =>
      obtain ⟨hQ₁, hQ'⟩ := List.forall_mem_cons.mp hQ
      obtain ⟨b, t₁, p, h₁, hM, hR₁⟩ := hstep _ _ _ _ _ hR hQ₁ h
      obtain ⟨us, t', h₂, hR', hall⟩ := ih hQ' hR₁
      exact ⟨_, t', cons h₁ h₂, hR', .cons hM hall⟩

end Run

/-- The run of given inputs. -/
def exec (step : S → A → Option (S × O)) (s : S) : List A → Option (List (Transition S A O) × S)
  | [] => some ([], s)
  | a :: as => (step s a).bind fun (s', o) =>
      (exec step s' as).map fun (ts, s'') => (⟨s, a, o, s'⟩ :: ts, s'')

/-- It is a run. -/
theorem run_of_exec {s s' : S} {as : List A} {ts : List (Transition S A O)}
    (h : exec step s as = some (ts, s')) : Run step s ts s' ∧ ts.map (·.act) = as := by
  induction as generalizing s ts with
  | nil =>
      cases h
      exact ⟨.nil _, rfl⟩
  | cons a as ih =>
      obtain ⟨⟨s₁, o⟩, hstep, h⟩ := Option.bind_eq_some_iff.mp h
      obtain ⟨⟨us, s₂⟩, hexec, h⟩ := Option.map_eq_some_iff.mp h
      cases h
      obtain ⟨hrun, hacts⟩ := ih hexec
      exact ⟨.cons hstep hrun, by rw [List.map_cons, hacts]⟩

/-- What holds of any two transitions of a run, in their order, holds of those of a run that it
matches. -/
theorem pairwise_of_forall₂ {α β : Type*} {M : α → β → Prop} {R : α → α → Prop}
    {R' : β → β → Prop} (hR : ∀ a a' b b', M a b → M a' b' → R' b b' → R a a') {l : List α}
    {l' : List β} (h : List.Forall₂ M l l') (hl' : l'.Pairwise R') : l.Pairwise R := by
  rw [List.pairwise_iff_getElem] at hl' ⊢
  intro i j hi hj hij
  have hlength := h.length_eq
  have hi' : i < l'.length := by omega
  have hj' : j < l'.length := by omega
  exact hR _ _ _ _ (h.get hi hi') (h.get hj hj') (hl' i j hi' hj' hij)

end Machine
