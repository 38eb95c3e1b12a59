import Megaphone.Library.Machine

/-!
Machines whose inputs each belong to one component.

A machine has components when every input has a key, and a step on an input does to the component
of its key what the machine `comp` of the components does, and nothing to the other ones.

* `Components`: the assumption, within states that have `P` and `Q`: `P` is preserved by every
  step, and `Q` is assumed of the states that a run goes through.
* `Components.view_run`: a run, seen from one component, is a run of the component.
* `Components.exists_run`: when every component has a run on its own inputs, the machine has a run
  on all of them.
* `Run.purge`: a run without the inputs of the other components does the same to one.
-/

namespace Machine

variable {S A O K C : Type*}

/-- A step on the input `a` is one of the component `key a`. -/
structure Components (step : S → A → Option (S × O)) (comp : C → A → Option (C × O)) (key : A → K)
    (view : S → K → C) (P Q : S → Prop) : Prop where
  step_of_comp : ∀ s a c o, P s → Q s → comp (view s (key a)) a = some (c, o) →
    ∃ s', step s a = some (s', o)
  comp_of_step : ∀ s a s' o, P s → Q s → step s a = some (s', o) →
    comp (view s (key a)) a = some (view s' (key a), o)
  frame : ∀ s a s' o, P s → Q s → step s a = some (s', o) → ∀ k, k ≠ key a →
    view s' k = view s k
  inv : ∀ s a s' o, P s → Q s → step s a = some (s', o) → P s'

variable {step : S → A → Option (S × O)} {comp : C → A → Option (C × O)} {key : A → K}
  {view : S → K → C} {P Q : S → Prop}

namespace Components

/-- The transitions of a run are steps from states with `P`. -/
theorem forall_transition (h : Components step comp key view P Q) {s s' : S}
    {ts : List (Transition S A O)} (hrun : Run step s ts s') (hP : P s) (hQ : ∀ t ∈ ts, Q t.pre) :
    ∀ t ∈ ts, P t.pre ∧ step t.pre t.act = some (t.post, t.out) := by
  induction hrun with
  | nil s => simp
  | @cons s s₁ s' a o ts hs _ ih =>
      obtain ⟨hQs, hQ⟩ := List.forall_mem_cons.mp hQ
      exact List.forall_mem_cons.mpr ⟨⟨hP, hs⟩, ih (h.inv s a s₁ o hP hQs hs) hQ⟩

end Components

variable [DecidableEq K]

/-- The transitions of a run on the inputs with the key `k`. -/
def ofKey (key : A → K) (k : K) (ts : List (Transition S A O)) : List (Transition S A O) :=
  ts.filter fun t => key t.act = k

lemma map_act_ofKey (key : A → K) (k : K) (ts : List (Transition S A O)) :
    (ofKey key k ts).map (·.act) = (ts.map (·.act)).filter (key · = k) := by
  rw [ofKey, List.filter_map]
  rfl

namespace Components

/-- A transition as the component `k` sees it. -/
def viewAt (view : S → K → C) (k : K) (t : Transition S A O) : Transition C A O :=
  ⟨view t.pre k, t.act, t.out, view t.post k⟩

/-- **A run seen from one component** is a run of the component. -/
theorem view_run (h : Components step comp key view P Q) {s s' : S} {ts : List (Transition S A O)}
    (hrun : Run step s ts s') (hP : P s) (hQ : ∀ t ∈ ts, Q t.pre) (k : K) :
    Run comp (view s k) ((ofKey key k ts).map (viewAt view k)) (view s' k) := by
  induction hrun with
  | nil s => exact .nil _
  | @cons s s₁ s' a o ts hs _ ih =>
      obtain ⟨hQs, hQ⟩ := List.forall_mem_cons.mp hQ
      have hrest := ih (h.inv s a s₁ o hP hQs hs) hQ
      by_cases hk : key a = k
      · subst hk
        rw [ofKey, List.filter_cons_of_pos (by simp)]
        exact .cons (h.comp_of_step s a s₁ o hP hQs hs) hrest
      · rw [ofKey, List.filter_cons_of_neg (by simpa using hk)]
        rwa [h.frame s a s₁ o hP hQs hs k (Ne.symm hk)] at hrest

/-- **Runs of the components** on their own inputs make a run on all of them, if the states that it
goes through have `Q`. -/
theorem exists_run (h : Components step comp key view P Q) {s : S} {as : List A} (hP : P s)
    (hcomp : ∀ k, ∃ us c, Run comp (view s k) us c ∧ us.map (·.act) = as.filter (key · = k))
    (hQ : ∀ ts s', Run step s ts s' → ts.map (·.act) <+: as → Q s') :
    ∃ ts s', Run step s ts s' ∧ ts.map (·.act) = as := by
  induction as generalizing s with
  | nil => exact ⟨[], s, .nil s, rfl⟩
  | cons a as ih =>
      have hQs : Q s := hQ [] s (.nil s) (List.nil_prefix)
      obtain ⟨us, c, hus, hacts⟩ := hcomp (key a)
      rw [List.filter_cons_of_pos (by simp)] at hacts
      cases hus with
      | nil => cases hacts
      | @cons _ c₁ _ b o us hs hr =>
          obtain ⟨hb, hrest⟩ := List.cons.inj hacts
          obtain rfl : b = a := hb
          obtain ⟨s₁, hstep⟩ := h.step_of_comp s b c₁ o hP hQs hs
          have hc₁ := h.comp_of_step s b s₁ o hP hQs hstep
          rw [hs] at hc₁
          obtain ⟨rfl, -⟩ := Prod.mk.inj (Option.some.inj hc₁)
          obtain ⟨ts, s', hts, hmap⟩ := ih (h.inv s b s₁ o hP hQs hstep) (fun k => by
            by_cases hk : key b = k
            · subst hk
              exact ⟨us, c, hr, hrest⟩
            · obtain ⟨vs, c', hvs, hmap⟩ := hcomp k
              rw [List.filter_cons_of_neg (by simpa using hk)] at hmap
              exact ⟨vs, c', by rwa [h.frame s b s₁ o hP hQs hstep k (Ne.symm hk)], hmap⟩)
            fun ts s' hts hpre => hQ _ s' (.cons hstep hts) (by
              rw [List.map_cons]
              exact (List.prefix_cons_inj b).mpr hpre)
          exact ⟨_, s', .cons hstep hts, by rw [List.map_cons, hmap]⟩

end Components

/-- **Leaving out the other inputs**: when `R` relates the states of a run to those of a run on the
inputs with the key `k` alone, the second run exists, and its transitions match those of the first
one on these inputs. -/
theorem Run.purge (key : A → K) {R : S → S → Prop} {k : K}
    (hown : ∀ s s₁ a s' o, R s s₁ → Q s → key a = k → step s a = some (s', o) →
      ∃ s₁', step s₁ a = some (s₁', o) ∧ R s' s₁')
    (hother : ∀ s s₁ a s' o, R s s₁ → Q s → key a ≠ k → step s a = some (s', o) → R s' s₁)
    {s s' s₁ : S} {ts : List (Transition S A O)} (h : Run step s ts s') (hQ : ∀ t ∈ ts, Q t.pre)
    (hR : R s s₁) : ∃ us s₁', Run step s₁ us s₁' ∧ R s' s₁' ∧
      us.map (·.act) = (ts.map (·.act)).filter (key · = k) ∧
      List.Forall₂ (fun t u => t.act = u.act ∧ t.out = u.out ∧ R t.post u.post) (ofKey key k ts)
        us := by
  induction h generalizing s₁ with
  | nil s => exact ⟨[], s₁, .nil s₁, hR, rfl, .nil⟩
  | @cons s s₂ s' a o ts hs _ ih =>
      obtain ⟨hQs, hQ⟩ := List.forall_mem_cons.mp hQ
      by_cases hk : key a = k
      · obtain ⟨s₃, hs₃, hR₃⟩ := hown s s₁ a s₂ o hR hQs hk hs
        obtain ⟨us, s₁', hus, hR', hacts, hall⟩ := ih hQ hR₃
        refine ⟨_, s₁', .cons hs₃ hus, hR', ?_, ?_⟩
        · rw [List.map_cons, List.map_cons, List.filter_cons_of_pos (by simpa using hk), hacts]
        · rw [ofKey, List.filter_cons_of_pos (by simpa using hk)]
          exact .cons ⟨rfl, rfl, hR₃⟩ hall
      · obtain ⟨us, s₁', hus, hR', hacts, hall⟩ := ih hQ (hother s s₁ a s₂ o hR hQs hk hs)
        refine ⟨us, s₁', hus, hR', ?_, ?_⟩
        · rw [List.map_cons, List.filter_cons_of_neg (by simpa using hk), hacts]
        · rw [ofKey, List.filter_cons_of_neg (by simpa using hk)]
          exact hall

end Machine
