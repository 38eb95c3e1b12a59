import Mathlib.Tactic

/-!
Lists that only grow at the end, while what they hold may grow too.

* `Extends R l l'`: every element of `l` is at its place in `l'`, up to the relation `R`.
* `Extends.refl`, `Extends.trans`: a preorder, when `R` is one.
* `extends_append`, `extends_set`: what appending to a list, and writing an element of it, does.
* `Extends.map_prefix`: what `R` keeps of the elements is a prefix.
-/

namespace Growing

variable {α β : Type*}

/-- Every element of `l` is at its place in `l'`, up to `R`. -/
def Extends (R : α → α → Prop) (l l' : List α) : Prop :=
  ∀ (i : ℕ) (x : α), l[i]? = some x → ∃ y, l'[i]? = some y ∧ R x y

variable {R : α → α → Prop} {l l' l'' : List α}

lemma Extends.refl (hR : ∀ x, R x x) (l : List α) : Extends R l l :=
  fun _ x hx => ⟨x, hx, hR x⟩

lemma Extends.trans (hR : ∀ x y z, R x y → R y z → R x z) (h : Extends R l l')
    (h' : Extends R l' l'') : Extends R l l'' := by
  intro i x hx
  obtain ⟨y, hy, hxy⟩ := h i x hx
  obtain ⟨z, hz, hyz⟩ := h' i y hy
  exact ⟨z, hz, hR x y z hxy hyz⟩

lemma extends_append (hR : ∀ x, R x x) (l t : List α) : Extends R l (l ++ t) := by
  intro i x hx
  have hi := (List.getElem?_eq_some_iff.mp hx).1
  exact ⟨x, by rwa [List.getElem?_append_left hi], hR x⟩

/-- Writing an element over one that it extends. -/
lemma extends_set (hR : ∀ x, R x x) {i : ℕ} {y : α} (hy : ∀ x, l[i]? = some x → R x y) :
    Extends R l (l.set i y) := by
  intro j x hx
  have hj := (List.getElem?_eq_some_iff.mp hx).1
  by_cases hij : i = j
  · subst hij
    exact ⟨y, by rw [List.getElem?_set_self hj], hy x hx⟩
  · exact ⟨x, by rwa [List.getElem?_set_ne hij], hR x⟩

lemma Extends.length_le (h : Extends R l l') : l.length ≤ l'.length := by
  by_contra hlt
  obtain ⟨y, hy, -⟩ := h l'.length _ (List.getElem?_eq_getElem (not_le.mp hlt))
  exact lt_irrefl _ (List.getElem?_eq_some_iff.mp hy).1

/-- What `R` keeps of the elements is a prefix. -/
lemma Extends.map_prefix (h : Extends R l l') {f : α → β} (hf : ∀ x y, R x y → f y = f x) :
    l.map f <+: l'.map f := by
  rw [List.prefix_iff_getElem?]
  intro i hi
  rw [List.length_map] at hi
  obtain ⟨y, hy, hxy⟩ := h i l[i] (List.getElem?_eq_getElem hi)
  rw [List.getElem?_map, hy, Option.map_some, hf _ _ hxy, List.getElem_map]

end Growing
