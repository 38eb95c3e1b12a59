import Mathlib.Data.List.ReduceOption
import Mathlib.Tactic

/-!
What arrives of a list whose elements are handed on one by one.

* `Handed`: each element arrives as it is, as another one, or not at all.
* `Handed.concat`: one more element.
* `Handed.eq_iff`: the lists are the same when each element arrives as it is, and only then.
-/

namespace Lossy

variable {α : Type*}

/-- The list `l'` is what has arrived of `l`: the elements in `whole` have arrived as they were, and
the others as another one or not at all. -/
def Handed (whole : α → Prop) (l l' : List α) : Prop :=
  ∃ os : List (Option α), List.Forall₂ (fun a o => o = some a ↔ whole a) l os ∧ l' = os.reduceOption

variable {whole : α → Prop} {l l' : List α}

lemma handed_nil : Handed whole [] [] := ⟨[], .nil, rfl⟩

/-- One more element, which arrives as `o`. -/
lemma Handed.concat (h : Handed whole l l') {a : α} {o : Option α} (ho : o = some a ↔ whole a) :
    Handed whole (l ++ [a]) (l' ++ o.toList) := by
  obtain ⟨os, hos, rfl⟩ := h
  refine ⟨os ++ [o], List.rel_append hos (.cons ho .nil), ?_⟩
  rw [List.reduceOption_append]
  cases o <;> rfl

lemma Handed.length_le (h : Handed whole l l') : l'.length ≤ l.length := by
  obtain ⟨os, hos, rfl⟩ := h
  rw [hos.length_eq]
  exact List.reduceOption_length_le os

/-- All elements of `os` are there when no one is missing. -/
lemma map_some_reduceOption {os : List (Option α)} (h : os.reduceOption.length = os.length) :
    os.reduceOption.map some = os := by
  induction os with
  | nil => rfl
  | cons o os ih =>
      cases o with
      | none =>
          have hle := List.reduceOption_length_le os
          rw [List.reduceOption_cons_of_none, List.length_cons] at h
          omega
      | some a =>
          rw [List.reduceOption_cons_of_some, List.length_cons, List.length_cons] at h
          rw [List.reduceOption_cons_of_some, List.map_cons, ih (Nat.succ_injective h)]

lemma reduceOption_map_some (l : List α) : (l.map some).reduceOption = l := by
  induction l with
  | nil => rfl
  | cons a l ih => rw [List.map_cons, List.reduceOption_cons_of_some, ih]

/-- **Nothing is lost** when each element arrives as it is, and only then. -/
lemma Handed.eq_iff (h : Handed whole l l') : l' = l ↔ ∀ a ∈ l, whole a := by
  obtain ⟨os, hos, rfl⟩ := h
  constructor
  · intro heq a ha
    have hmap : os = l.map some := by
      rw [← heq, map_some_reduceOption]
      rw [heq, hos.length_eq]
    rw [hmap, List.forall₂_map_right_iff, List.forall₂_same] at hos
    exact (hos a ha).mp rfl
  · intro hall
    have hmap : os = l.map some := by
      induction hos with
      | nil => rfl
      | cons ho _ ih =>
          obtain ⟨hhead, htail⟩ := List.forall_mem_cons.mp hall
          rw [List.map_cons, ih htail, ho.mpr hhead]
    rw [hmap, reduceOption_map_some]

end Lossy
