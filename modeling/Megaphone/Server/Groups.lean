import Megaphone.Library.Machine

/-!
Which notification group a subscription gets, in the abstract.

Each record of a table may have a group.  A subscription to `f` gets the group of the record `f`,
and makes one when there is none; a new entry of the table clears the record it is put in.

* `Groups`, `Groups.step`: the table and what may happen to it.
* `Groups.distinct`: subscriptions to two different numbers get different groups.
* `Groups.same_iff`: two subscriptions to one number get the same group exactly when the record was
  not cleared in between.
-/

namespace Megaphone

open Machine

/-- The number of entries of the table, the group of each record, and the number that each group
was made for. -/
structure Groups where
  count : ℕ
  notif : ℕ → Option ℕ
  owner : List ℕ

/-- What may happen: nothing to the groups, a new entry, or a subscription. -/
inductive GroupInput
  | other
  | feed
  | subscribe (f : ℕ)

namespace Groups

/-- No entry and no group. -/
def empty : Groups := ⟨0, fun _ => none, []⟩

/-- A new entry, whose record has no group. -/
def addFeed (g : Groups) : Groups :=
  { g with count := g.count + 1, notif := Function.update g.notif g.count none }

/-- A new group for the number `f`. -/
def addGroup (g : Groups) (f : ℕ) : Groups :=
  { g with
    notif := Function.update g.notif f (some g.owner.length)
    owner := g.owner ++ [f] }

/-- What happens; the output is the number and the group of a subscription. -/
def step (g : Groups) : GroupInput → Option (Groups × Option (ℕ × ℕ))
  | .other => some (g, none)
  | .feed => some (g.addFeed, none)
  | .subscribe f =>
      if 0 < f ∧ f ≤ g.count then
        match g.notif f with
        | some k => some (g, some (f, k))
        | none => some (g.addGroup f, some (f, g.owner.length))
      else none

@[simp] lemma addFeed_count (g : Groups) : g.addFeed.count = g.count + 1 := rfl

@[simp] lemma addFeed_notif_self (g : Groups) : g.addFeed.notif g.count = none :=
  Function.update_self ..

lemma addFeed_notif_of_ne (g : Groups) {f : ℕ} (h : f ≠ g.count) :
    g.addFeed.notif f = g.notif f :=
  Function.update_of_ne h ..

@[simp] lemma addGroup_count (g : Groups) (f : ℕ) : (g.addGroup f).count = g.count := rfl

@[simp] lemma addGroup_owner (g : Groups) (f : ℕ) : (g.addGroup f).owner = g.owner ++ [f] := rfl

@[simp] lemma addGroup_notif_self (g : Groups) (f : ℕ) :
    (g.addGroup f).notif f = some g.owner.length :=
  Function.update_self ..

lemma addGroup_notif_of_ne (g : Groups) {f f' : ℕ} (h : f' ≠ f) :
    (g.addGroup f).notif f' = g.notif f' :=
  Function.update_of_ne h ..

/-- What a step does, in one of four ways. -/
inductive Effect (g : Groups) : GroupInput → Groups → Option (ℕ × ℕ) → Prop
  | other : Effect g .other g none
  | feed : Effect g .feed g.addFeed none
  | old {f k : ℕ} (hpos : 0 < f) (hle : f ≤ g.count) (hk : g.notif f = some k) :
      Effect g (.subscribe f) g (some (f, k))
  | new {f : ℕ} (hpos : 0 < f) (hle : f ≤ g.count) (hk : g.notif f = none) :
      Effect g (.subscribe f) (g.addGroup f) (some (f, g.owner.length))

lemma step_effect {g g' : Groups} {i : GroupInput} {o : Option (ℕ × ℕ)}
    (h : g.step i = some (g', o)) : g.Effect i g' o := by
  cases i with
  | other =>
      cases h
      exact .other
  | feed =>
      cases h
      exact .feed
  | subscribe f =>
      rw [step] at h
      split at h
      next hf =>
        split at h
        next k hk =>
          cases h
          exact .old hf.1 hf.2 hk
        next hk =>
          cases h
          exact .new hf.1 hf.2 hk
      next => cases h

/-! ### Invariants -/

/-- Every group that a record has was made for the number of the record. -/
def Inv (g : Groups) : Prop := ∀ f k, g.notif f = some k → g.owner[k]? = some f

lemma inv_empty : empty.Inv := fun _ _ h => by cases h

lemma Effect.inv {g g' : Groups} {i : GroupInput} {o : Option (ℕ × ℕ)} (h : g.Effect i g' o)
    (hg : g.Inv) : g'.Inv := by
  cases h with
  | other => exact hg
  | feed =>
      intro f k hk
      by_cases hf : f = g.count
      · rw [hf, addFeed_notif_self] at hk
        cases hk
      · rw [addFeed_notif_of_ne g hf] at hk
        exact hg f k hk
  | old hpos hle hk => exact hg
  | @new f hpos hle hk =>
      intro f' k' hk'
      by_cases hf : f' = f
      · rw [hf, addGroup_notif_self] at hk'
        cases hk'
        rw [hf]
        exact List.getElem?_concat_length
      · rw [addGroup_notif_of_ne g hf] at hk'
        have hold := hg f' k' hk'
        rw [addGroup_owner, List.getElem?_append_left (List.getElem?_eq_some_iff.mp hold).1, hold]

/-- The number of entries only grows. -/
lemma Effect.count_le {g g' : Groups} {i : GroupInput} {o : Option (ℕ × ℕ)}
    (h : g.Effect i g' o) : g.count ≤ g'.count := by
  cases h with
  | feed => exact Nat.le_succ _
  | _ => exact le_rfl

/-- Groups are only added. -/
lemma Effect.owner_extends {g g' : Groups} {i : GroupInput} {o : Option (ℕ × ℕ)}
    (h : g.Effect i g' o) : g.owner <+: g'.owner := by
  cases h with
  | new => exact List.prefix_append _ _
  | _ => exact List.prefix_refl _

/-- A subscription: the record has the group that is given out, and it had it before or had none. -/
structure Gives (g g' : Groups) (f k : ℕ) : Prop where
  le_count : f ≤ g.count
  count_eq : g'.count = g.count
  notif_eq : g'.notif f = some k
  old_or_new : g.notif f = some k ∨ g.notif f = none ∧ k = g.owner.length

lemma Effect.gives {g g' : Groups} {i : GroupInput} {f k : ℕ}
    (h : g.Effect i g' (some (f, k))) : g.Gives g' f k := by
  cases h with
  | old hpos hle hk => exact ⟨hle, rfl, hk, .inl hk⟩
  | new hpos hle hk => exact ⟨hle, rfl, addGroup_notif_self g f, .inr ⟨hk, rfl⟩⟩

/-! ### Runs -/

/-- A transition of the table. -/
abbrev GroupTransition := Transition Groups GroupInput (Option (ℕ × ℕ))

variable {g g' : Groups} {us : List GroupTransition}

lemma run_inv (h : Run step g us g') (hg : g.Inv) : g'.Inv :=
  h.invariant (fun _ _ _ _ hs hstep => (step_effect hstep).inv hs) hg

lemma run_count_le (h : Run step g us g') : g.count ≤ g'.count :=
  h.rel (R := fun g g' => g.count ≤ g'.count) (fun _ => le_rfl) (fun _ _ _ => le_trans)
    fun _ _ _ _ hstep => (step_effect hstep).count_le

lemma run_owner_extends (h : Run step g us g') : g.owner <+: g'.owner :=
  h.rel (R := fun g g' => g.owner <+: g'.owner) (fun _ => List.prefix_refl _)
    (fun _ _ _ => List.IsPrefix.trans) fun _ _ _ _ hstep => (step_effect hstep).owner_extends

/-- A record keeps its group as long as no new entry is put there. -/
lemma run_notif_eq {f k : ℕ} (h : Run step g us g') (hk : g.notif f = some k)
    (hf : f < g.count ∨ g'.count ≤ f) : g'.notif f = some k := by
  induction h with
  | nil => exact hk
  | cons hs hr ih =>
      have hle := run_count_le hr
      have heffect := step_effect hs
      refine ih ?_ ?_
      · cases heffect with
        | other => exact hk
        | feed =>
            rw [addFeed_notif_of_ne _ (by rintro rfl; simp at hle; omega), hk]
        | old => exact hk
        | @new f' hpos hle' hk' =>
            rw [addGroup_notif_of_ne _ (by rintro rfl; rw [hk] at hk'; cases hk'), hk]
      · have := heffect.count_le
        omega

/-- A record whose entry is new has a new group, if any. -/
lemma run_notif_new {f : ℕ} {n : ℕ} (h : Run step g us g') (hn : n ≤ g.owner.length)
    (hf : g.count ≤ f ∨ ∀ k, g.notif f = some k → n ≤ k) :
    g'.count ≤ f ∨ ∀ k, g'.notif f = some k → n ≤ k := by
  induction h with
  | nil => exact hf
  | @cons g₀ g₁ _ _ _ _ hs hr ih =>
      have heffect := step_effect hs
      refine ih (hn.trans heffect.owner_extends.length_le) ?_
      cases heffect with
      | other => exact hf
      | feed =>
          by_cases hcount : f = g₀.count
          · subst hcount
            exact .inr fun k hk => by simp at hk
          · rw [addFeed_notif_of_ne g₀ hcount, addFeed_count]
            exact hf.imp_left fun h => by omega
      | old => exact hf
      | @new f' hpos hle hk' =>
          rw [addGroup_count]
          refine hf.imp_right fun h k hk => ?_
          by_cases hf' : f = f'
          · rw [hf', addGroup_notif_self] at hk
            cases hk
            exact hn
          · rw [addGroup_notif_of_ne g₀ hf'] at hk
            exact h k hk

/-- Every group that is given out was made for the number that it is given out for. -/
lemma owner_of_mem (h : Run step g us g') (hg : g.Inv) {t : GroupTransition} (ht : t ∈ us)
    {f k : ℕ} (hout : t.out = some (f, k)) : g'.owner[k]? = some f := by
  obtain ⟨hstep, ⟨vs, hpre⟩, vs', hpost⟩ := h.exists_of_mem ht
  have heffect := step_effect hstep
  have hinv := heffect.inv (run_inv hpre hg)
  rw [hout] at heffect
  have hk := hinv f k heffect.gives.notif_eq
  obtain ⟨rest, hrest⟩ := run_owner_extends hpost
  rw [← hrest, List.getElem?_append_left (List.getElem?_eq_some_iff.mp hk).1, hk]

/-- **Two numbers** never get the same group. -/
theorem distinct (h : Run step g us g') (hg : g.Inv) {t t' : GroupTransition} (ht : t ∈ us)
    (ht' : t' ∈ us) {f f' k k' : ℕ} (hout : t.out = some (f, k)) (hout' : t'.out = some (f', k'))
    (hne : f ≠ f') : k ≠ k' := by
  rintro rfl
  have hf := owner_of_mem h hg ht hout
  rw [owner_of_mem h hg ht' hout'] at hf
  exact hne (Option.some.inj hf).symm

/-- **One number** gets the same group twice exactly when its entry was not made in between. -/
theorem same_iff (h : Run step g us g') (hg : g.Inv) :
    us.Pairwise fun t t' => ∀ f k k', t.out = some (f, k) → t'.out = some (f, k') →
      (k = k' ↔ ¬(t.pre.count = f ∧ f < t'.pre.count)) := by
  refine h.pairwise.imp_of_mem fun {t t'} ht ht' hrun f k k' hout hout' => ?_
  obtain ⟨vs, hrun⟩ := hrun
  obtain ⟨hstep, ⟨ws, hpre⟩, -⟩ := h.exists_of_mem ht
  obtain ⟨hstep', -, -⟩ := h.exists_of_mem ht'
  have heffect := step_effect hstep
  have heffect' := step_effect hstep'
  have hinv := heffect.inv (run_inv hpre hg)
  rw [hout] at heffect
  rw [hout'] at heffect'
  have hgives := heffect.gives
  have hgives' := heffect'.gives
  have hlt := (List.getElem?_eq_some_iff.mp (hinv f k hgives.notif_eq)).1
  have hle := hgives.le_count
  have hcount := hgives.count_eq
  constructor
  · rintro rfl ⟨hf, hf'⟩
    -- the entry number `f` was made in between, and its record cleared
    obtain hle' | hnew := run_notif_new hrun le_rfl (.inl (show t.post.count ≤ f by omega))
    · omega
    · obtain hold | ⟨-, hk⟩ := hgives'.old_or_new
      · have := hnew k hold
        omega
      · have := (run_owner_extends hrun).length_le
        omega
  · intro hf
    have hf' : f < t.post.count ∨ t'.pre.count ≤ f := by omega
    have hkeep := run_notif_eq hrun hgives.notif_eq hf'
    obtain hold | ⟨hnone, -⟩ := hgives'.old_or_new
    · rw [hkeep] at hold
      exact Option.some.inj hold
    · rw [hkeep] at hnone
      cases hnone

end Groups

end Megaphone
