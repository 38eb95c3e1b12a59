import Mathlib.Tactic

/-!
Threads that wait for each other to end, none of which ever does.

* `Passes`: a join returns at once, with an error.
* `Waiting`: who waits for whom, among some workers and one thread more.
* `Waiting.eq_of_passes`: at most one thread passes the joins of all workers.
-/

namespace Joins

variable {T : Type*}

/-- The join of `w` by `t` returns with an error, as they are the same thread, `w` waits for `t`, or
there is a thread that waits for `w`; `waiter w` is that thread. -/
def Passes (waiter : T → Option T) (t w : T) : Prop :=
  t = w ∨ waiter t = some w ∨ (waiter w).isSome = true

instance [DecidableEq T] (waiter : T → Option T) (t w : T) : Decidable (Passes waiter t w) :=
  inferInstanceAs (Decidable (_ ∨ _ ∨ _))

/-- A thread that has started to wait does not let a join through that waited before. -/
lemma Passes.update [DecidableEq T] {waiter : T → Option T} {t w v u : T}
    (h : Passes waiter t w) (hv : waiter v = none) :
    Passes (Function.update waiter v (some u)) t w := by
  have hsome : ∀ x, (waiter x).isSome = true →
      Function.update waiter v (some u) x = waiter x := fun x hx =>
    Function.update_of_ne (fun hxv => by rw [hxv, hv] at hx; cases hx) _ _
  obtain h | h | h := h
  · exact .inl h
  · exact .inr (.inl (by rw [hsome t (by rw [h]; rfl), h]))
  · exact .inr (.inr (by rw [hsome w h]; exact h))

/-- Workers and the thread `main` wait, each for one worker at most. -/
structure Waiting (workers : Finset T) (main : T) (waiter : T → Option T) : Prop where
  main_notMem : main ∉ workers
  mem : ∀ w t, waiter w = some t → t = main ∨ t ∈ workers
  inj : ∀ w w' t, waiter w = some t → waiter w' = some t → w = w'

variable [DecidableEq T] {workers : Finset T} {main : T} {waiter : T → Option T}

/-- **The pigeonhole**: when every worker is waited for, all threads but one wait. -/
lemma Waiting.eq_of_covered (h : Waiting workers main waiter)
    (hall : ∀ w ∈ workers, (waiter w).isSome = true) {t u : T} (ht : t = main ∨ t ∈ workers)
    (hu : u = main ∨ u ∈ workers) (htw : ∀ w, waiter w ≠ some t) (huw : ∀ w, waiter w ≠ some u) :
    t = u := by
  by_contra hne
  have hmaps : ∀ w ∈ workers,
      (waiter w).getD main ∈ ((insert main workers).erase t).erase u := by
    intro w hw
    obtain ⟨v, hv⟩ := Option.isSome_iff_exists.mp (hall w hw)
    rw [hv, Option.getD_some, Finset.mem_erase, Finset.mem_erase, Finset.mem_insert]
    exact ⟨fun hvu => huw w (hvu ▸ hv), fun hvt => htw w (hvt ▸ hv), h.mem w v hv⟩
  have hinj : Set.InjOn (fun w => (waiter w).getD main) workers := by
    intro w hw w' hw' heq
    obtain ⟨v, hv⟩ := Option.isSome_iff_exists.mp (hall w hw)
    obtain ⟨v', hv'⟩ := Option.isSome_iff_exists.mp (hall w' hw')
    simp only [hv, hv', Option.getD_some] at heq
    exact h.inj w w' v hv (heq ▸ hv')
  have hcard := Finset.card_le_card_of_injOn _ hmaps hinj
  have ht' : t ∈ insert main workers := Finset.mem_insert.mpr ht
  have hu' : u ∈ (insert main workers).erase t :=
    Finset.mem_erase.mpr ⟨fun hut => hne hut.symm, Finset.mem_insert.mpr hu⟩
  have hpos := Finset.card_pos.mpr ⟨u, hu'⟩
  rw [Finset.card_erase_of_mem hu'] at hcard
  rw [Finset.card_erase_of_mem ht', Finset.card_insert_of_notMem h.main_notMem] at hcard hpos
  omega

/-- **At most one thread passes**: two threads that have passed the joins of all workers, and so
wait for none, are the same. -/
theorem Waiting.eq_of_passes (h : Waiting workers main waiter) {t u : T}
    (ht : t = main ∨ t ∈ workers) (hu : u = main ∨ u ∈ workers) (htw : ∀ w, waiter w ≠ some t)
    (huw : ∀ w, waiter w ≠ some u) (hpt : ∀ w ∈ workers, Passes waiter t w)
    (hpu : ∀ w ∈ workers, Passes waiter u w) : t = u := by
  by_contra hne
  refine hne (h.eq_of_covered (fun w hw => ?_) ht hu htw huw)
  obtain htw' | htw' | hsome := hpt w hw
  · obtain huw' | huw' | hsome := hpu w hw
    · exact absurd (htw'.trans huw'.symm) hne
    · exact absurd (htw' ▸ huw') (htw u)
    · exact hsome
  · obtain huw' | huw' | hsome := hpu w hw
    · exact absurd (huw' ▸ htw') (huw t)
    · exact absurd (h.inj t u w htw' huw') hne
    · exact hsome
  · exact hsome

end Joins
