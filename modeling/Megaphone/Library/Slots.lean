import Mathlib.Tactic

/-!
Tables of slots, each of which is free or in use under a key.

* `Replaces`: one slot of a table is another, or there is one more.
* `Tracks`: the keys of a table, each of which is in exactly one slot.
* `Tracks.place`, `Tracks.release`: a key is put into a free slot, and a slot is made free.
-/

namespace Slots

variable {α K : Type*}

/-- The slot `i` is `a` in the table `l'`, and the others are as in `l`. -/
structure Replaces (l l' : List α) (i : ℕ) (a : α) : Prop where
  self : l'[i]? = some a
  other : ∀ j, j ≠ i → l'[j]? = l[j]?

lemma replaces_set {l : List α} {i : ℕ} (hi : i < l.length) (a : α) :
    Replaces l (l.set i a) i a :=
  ⟨List.getElem?_set_self hi, fun _ hj => List.getElem?_set_ne hj.symm⟩

lemma replaces_append (l : List α) (a : α) : Replaces l (l ++ [a]) l.length a := by
  refine ⟨List.getElem?_concat_length, fun j hj => ?_⟩
  rcases Nat.lt_or_ge j l.length with hlt | hge
  · exact List.getElem?_append_left hlt
  · rw [List.getElem?_eq_none hge, List.getElem?_eq_none (by simp; omega)]

/-- The slots of `l` that are in use have the keys `ks`, each of them in exactly one slot; a slot
`a` is free when `key a = none`. -/
structure Tracks (key : α → Option K) (l : List α) (ks : Set K) : Prop where
  mem : ∀ (i : ℕ) a k, l[i]? = some a → key a = some k → k ∈ ks
  covers : ∀ k ∈ ks, ∃ (i : ℕ) (a : α), l[i]? = some a ∧ key a = some k
  inj : ∀ (i j : ℕ) a b k, l[i]? = some a → l[j]? = some b → key a = some k → key b = some k → i = j

variable {key : α → Option K} {l l' : List α} {ks : Set K} {i : ℕ} {a : α} {k : K}

/-- A slot that is in use under a key is the only one. -/
lemma Tracks.existsUnique (h : Tracks key l ks) (hk : k ∈ ks) :
    ∃! i : ℕ, ∃ a, l[i]? = some a ∧ key a = some k := by
  obtain ⟨i, a, hi, ha⟩ := h.covers k hk
  exact ⟨i, ⟨a, hi, ha⟩, fun j ⟨b, hj, hb⟩ => h.inj j i b a k hj hi hb ha⟩

/-- The keys are what counts of the slots. -/
lemma Tracks.congr (h : Tracks key l ks)
    (heq : ∀ i : ℕ, (l'[i]?).map key = (l[i]?).map key) : Tracks key l' ks := by
  have hold : ∀ (i : ℕ) a, l'[i]? = some a → ∃ b, l[i]? = some b ∧ key b = key a := by
    intro i a ha
    have hmap := heq i
    rw [ha] at hmap
    exact Option.map_eq_some_iff.mp hmap.symm
  refine ⟨fun i a k ha hk => ?_, fun k hk => ?_, fun i j a b k ha hb hka hkb => ?_⟩
  · obtain ⟨b, hb, hba⟩ := hold i a ha
    exact h.mem i b k hb (hba.trans hk)
  · obtain ⟨i, b, hb, hkb⟩ := h.covers k hk
    have hmap := heq i
    rw [hb] at hmap
    obtain ⟨a, ha, hab⟩ := Option.map_eq_some_iff.mp hmap
    exact ⟨i, a, ha, hab.trans hkb⟩
  · obtain ⟨a', ha', haa⟩ := hold i a ha
    obtain ⟨b', hb', hbb⟩ := hold j b hb
    exact h.inj i j a' b' k ha' hb' (haa.trans hka) (hbb.trans hkb)

/-- **A key is put into a free slot**, or behind the last one. -/
theorem Tracks.place (h : Tracks key l ks) (hl : Replaces l l' i a)
    (hfree : ∀ b, l[i]? = some b → key b = none) (ha : key a = some k) (hk : k ∉ ks) :
    Tracks key l' (insert k ks) := by
  have hself : ∀ b k', l'[i]? = some b → key b = some k' → k' = k := by
    intro b k' hb hk'
    obtain rfl := Option.some.inj (hl.self.symm.trans hb)
    exact Option.some.inj (hk'.symm.trans ha)
  have hne : ∀ (j : ℕ) b k', l[j]? = some b → key b = some k' → j ≠ i := by
    rintro j b k' hb hk' rfl
    rw [hfree b hb] at hk'
    cases hk'
  refine ⟨fun j b k' hb hk' => ?_, fun k' hk' => ?_, fun j j' b b' k' hb hb' hkb hkb' => ?_⟩
  · by_cases hj : j = i
    · subst hj
      exact .inl (hself b k' hb hk')
    · rw [hl.other j hj] at hb
      exact .inr (h.mem j b k' hb hk')
  · obtain rfl | hk' := hk'
    · exact ⟨i, a, hl.self, ha⟩
    · obtain ⟨j, b, hb, hkb⟩ := h.covers k' hk'
      exact ⟨j, b, (hl.other j (hne j b k' hb hkb)).trans hb, hkb⟩
  · by_cases hj : j = i
    · by_cases hj' : j' = i
      · rw [hj, hj']
      · subst hj
        obtain rfl := hself b k' hb hkb
        rw [hl.other j' hj'] at hb'
        exact absurd (h.mem j' b' k' hb' hkb') hk
    · rw [hl.other j hj] at hb
      by_cases hj' : j' = i
      · subst hj'
        obtain rfl := hself b' k' hb' hkb'
        exact absurd (h.mem j b k' hb hkb) hk
      · rw [hl.other j' hj'] at hb'
        exact h.inj j j' b b' k' hb hb' hkb hkb'

/-- **A slot is made free.** -/
theorem Tracks.release {b : α} (h : Tracks key l ks) (hl : Replaces l l' i a) (ha : key a = none)
    (hb : l[i]? = some b) (hk : key b = some k) : Tracks key l' (ks \ {k}) := by
  have hne : ∀ (j : ℕ) c k', l'[j]? = some c → key c = some k' → j ≠ i := by
    rintro j c k' hc hk' rfl
    obtain rfl := Option.some.inj (hl.self.symm.trans hc)
    rw [ha] at hk'
    cases hk'
  refine ⟨fun j c k' hc hk' => ?_, fun k' hk' => ?_, fun j j' c c' k' hc hc' hkc hkc' => ?_⟩
  · have hj := hne j c k' hc hk'
    rw [hl.other j hj] at hc
    refine ⟨h.mem j c k' hc hk', ?_⟩
    rintro rfl
    exact hj (h.inj j i c b k' hc hb hk' hk)
  · obtain ⟨j, c, hc, hkc⟩ := h.covers k' hk'.1
    refine ⟨j, c, (hl.other j ?_).trans hc, hkc⟩
    rintro rfl
    obtain rfl := Option.some.inj (hb.symm.trans hc)
    exact hk'.2 (Option.some.inj (hkc.symm.trans hk))
  · rw [hl.other j (hne j c k' hc hkc)] at hc
    rw [hl.other j' (hne j' c' k' hc' hkc')] at hc'
    exact h.inj j j' c c' k' hc hc' hkc hkc'

end Slots
