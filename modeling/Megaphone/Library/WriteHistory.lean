import Mathlib.Tactic

/-!
What a sequence of writes at indices leaves behind: a list with holes.

* `lastAt ws i`: the value of the last write at the index `i`, if there is one.
* `extent ws`: 0 when nothing has been written, and otherwise one more than the largest index.
* `lastAt_concat`, `extent_concat`: what one more write does to them.
* `lt_extent_of_lastAt`, `exists_extent_eq`: a written index is in front of the extent, which is the
  smallest such bound.
-/

namespace WriteHistory

variable {α : Type*}

/-- The value of the last write at the index `i`. -/
def lastAt (ws : List (ℕ × α)) (i : ℕ) : Option α := (ws.reverse.find? (·.1 = i)).map Prod.snd

/-- One more than the largest index that has been written. -/
def extent (ws : List (ℕ × α)) : ℕ := ws.foldl (fun n w => max n (w.1 + 1)) 0

lemma extent_nil : extent ([] : List (ℕ × α)) = 0 := rfl

lemma lastAt_concat (ws : List (ℕ × α)) (w : ℕ × α) (i : ℕ) :
    lastAt (ws ++ [w]) i = if w.1 = i then some w.2 else lastAt ws i := by
  rw [lastAt, List.reverse_append, List.reverse_singleton, List.singleton_append, List.find?_cons]
  by_cases h : w.1 = i
  · simp [h]
  · simp [h, lastAt]

lemma extent_concat (ws : List (ℕ × α)) (w : ℕ × α) :
    extent (ws ++ [w]) = max (extent ws) (w.1 + 1) := by
  rw [extent, List.foldl_append]
  rfl

/-- The indices that have been written are in front of the extent. -/
lemma lt_extent_of_mem {ws : List (ℕ × α)} {w : ℕ × α} (h : w ∈ ws) : w.1 < extent ws := by
  induction ws using List.reverseRecOn with
  | nil => cases h
  | append_singleton ws v ih =>
      rw [extent_concat]
      obtain hw | hw := List.mem_append.mp h
      · exact lt_of_lt_of_le (ih hw) (le_max_left _ _)
      · rw [List.mem_singleton.mp hw]
        exact lt_of_lt_of_le (Nat.lt_succ_self _) (le_max_right _ _)

lemma lt_extent_of_lastAt {ws : List (ℕ × α)} {i : ℕ} {a : α} (h : lastAt ws i = some a) :
    i < extent ws := by
  obtain ⟨w, hfind, -⟩ := Option.map_eq_some_iff.mp h
  have hi : w.1 = i := by simpa using List.find?_some hfind
  rw [← hi]
  exact lt_extent_of_mem (List.mem_reverse.mp (List.mem_of_find?_eq_some hfind))

/-- **The extent** is one more than the index of a write that no other one is behind. -/
lemma exists_extent_eq {ws : List (ℕ × α)} (h : ws ≠ []) :
    ∃ w ∈ ws, extent ws = w.1 + 1 ∧ ∀ v ∈ ws, v.1 ≤ w.1 := by
  obtain ⟨w, hw, hext⟩ : ∃ w ∈ ws, extent ws = w.1 + 1 := by
    induction ws using List.reverseRecOn with
    | nil => exact absurd rfl h
    | append_singleton ws v ih =>
        rw [extent_concat]
        obtain hle | hlt := le_or_gt (extent ws) (v.1 + 1)
        · exact ⟨v, by simp, max_eq_right hle⟩
        · have hne : ws ≠ [] := by
            rintro rfl
            exact absurd hlt (Nat.not_lt_zero _)
          obtain ⟨w, hw, hext⟩ := ih hne
          exact ⟨w, List.mem_append_left _ hw, (max_eq_left hlt.le).trans hext⟩
  refine ⟨w, hw, hext, fun v hv => ?_⟩
  have hlt := lt_extent_of_mem hv
  omega

end WriteHistory
