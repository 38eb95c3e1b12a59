import Mathlib.Tactic

/-!
Chains of nodes, each of which has a pointer to the next one, `none` for none.

* `Chain next head ps`: the pointers `next` lead from `head` through the nodes `ps`, and end there.
* `Chain.eq`, `Chain.nodup`: the chain from a node is unique, and no node is in it twice.
* `Reaches`, `Chain.mem_iff`, `Chain.ncard_eq`: the nodes of a chain are those that can be reached.
* `follow`, `Chain.follow_eq`: following at most so many pointers.
* `Chain.update`, `Chain.concat`: what writing a pointer does to a chain, outside of it and at its
  end.
-/

namespace Chains

variable {P : Type*}

/-- The nodes `ps`, one behind the other from `head` on, are all that there are. -/
def Chain (next : P → Option P) : Option P → List P → Prop
  | head, [] => head = none
  | head, p :: ps => head = some p ∧ Chain next (next p) ps

/-- The node `q` is found by following the pointers from `head` on. -/
inductive Reaches (next : P → Option P) : Option P → P → Prop
  | here (p : P) : Reaches next (some p) p
  | there {p q : P} (h : Reaches next (next p) q) : Reaches next (some p) q

variable {next : P → Option P} {head : Option P} {ps : List P}

/-- A chain begins with its first node. -/
lemma Chain.head_eq (h : Chain next head ps) : head = ps.head? := by
  cases ps with
  | nil => exact h
  | cons p ps => exact h.1

/-- **The chain** from a node is unique. -/
lemma Chain.eq {qs : List P} (h : Chain next head ps) (h' : Chain next head qs) : ps = qs := by
  induction ps generalizing head qs with
  | nil =>
      cases qs with
      | nil => rfl
      | cons q qs => exact absurd (h.symm.trans h'.1) (Option.some_ne_none q).symm
  | cons p ps ih =>
      cases qs with
      | nil => exact absurd (h'.symm.trans h.1) (Option.some_ne_none p).symm
      | cons q qs =>
          obtain rfl := Option.some.inj (h.1.symm.trans h'.1)
          rw [ih h.2 h'.2]

/-- The chain from a node of a chain is the rest of it. -/
lemma Chain.of_append {p : P} {qs : List P} (h : Chain next head (ps ++ p :: qs)) :
    Chain next (some p) (p :: qs) := by
  induction ps generalizing head with
  | nil => exact ⟨rfl, h.2⟩
  | cons p' ps ih => exact ih h.2

/-- **Chains are acyclic**: a node that came twice would have two chains behind it. -/
lemma Chain.nodup (h : Chain next head ps) : ps.Nodup := by
  induction ps generalizing head with
  | nil => exact List.nodup_nil
  | cons p ps ih =>
      refine List.nodup_cons.mpr ⟨fun hp => ?_, ih h.2⟩
      obtain ⟨qs, rs, rfl⟩ := List.append_of_mem hp
      have hrest : Chain next (some p) (p :: rs) := h.2.of_append
      have hwhole : Chain next (some p) (p :: (qs ++ p :: rs)) := ⟨rfl, h.2⟩
      have hlength := congrArg List.length (hwhole.eq hrest)
      simp at hlength
      omega

/-! ### Nodes that are reached -/

/-- The nodes of a chain are those that its beginning leads to. -/
lemma Chain.mem_iff (h : Chain next head ps) {q : P} : q ∈ ps ↔ Reaches next head q := by
  constructor
  · intro hq
    induction ps generalizing head with
    | nil => cases hq
    | cons p ps ih =>
        obtain ⟨rfl, htail⟩ := h
        obtain rfl | hq := List.mem_cons.mp hq
        · exact .here q
        · exact .there (ih htail hq)
  · intro hq
    induction hq generalizing ps with
    | here p =>
        cases ps with
        | nil => cases h
        | cons p' ps =>
            obtain rfl := Option.some.inj h.1
            exact List.mem_cons_self
    | there _ ih =>
        cases ps with
        | nil => cases h
        | cons p' ps =>
            obtain rfl := Option.some.inj h.1
            exact List.mem_cons_of_mem _ (ih h.2)

/-- The length of a chain is the number of the nodes that are reached. -/
lemma Chain.ncard_eq (h : Chain next head ps) : {q | Reaches next head q}.ncard = ps.length := by
  classical
  have hset : {q | Reaches next head q} = (ps.toFinset : Set P) := by
    ext q
    simp [h.mem_iff]
  rw [hset, Set.ncard_coe_finset, List.toFinset_card_of_nodup h.nodup]

/-- The nodes that following at most `n` pointers leads to. -/
def follow (next : P → Option P) : ℕ → Option P → List P
  | 0, _ => []
  | _ + 1, none => []
  | n + 1, some p => p :: follow next n (next p)

/-- They are the first nodes of the chain. -/
lemma Chain.follow_eq (h : Chain next head ps) (n : ℕ) : follow next n head = ps.take n := by
  induction n generalizing head ps with
  | zero => rfl
  | succ n ih =>
      cases ps with
      | nil =>
          obtain rfl : head = none := h
          rfl
      | cons p ps =>
          obtain ⟨rfl, htail⟩ := h
          rw [follow, ih htail, List.take_succ_cons]

/-! ### Writing pointers -/

variable [DecidableEq P]

/-- A pointer of a node that is not in the chain. -/
lemma Chain.update (h : Chain next head ps) {p : P} (hp : p ∉ ps) (x : Option P) :
    Chain (Function.update next p x) head ps := by
  induction ps generalizing head with
  | nil => exact h
  | cons q ps ih =>
      obtain ⟨hne, hp⟩ := not_or.mp (List.mem_cons.not.mp hp)
      refine ⟨h.1, ?_⟩
      rw [Function.update_of_ne (Ne.symm hne)]
      exact ih h.2 hp

/-- **Linking a node** behind the last one of a chain. -/
lemma Chain.concat (h : Chain next head ps) {last p : P} (hlast : ps.getLast? = some last)
    (hp : p ∉ ps) (hnext : next p = none) :
    Chain (Function.update next last (some p)) head (ps ++ [p]) := by
  induction ps generalizing head with
  | nil => cases hlast
  | cons q ps ih =>
      have hnodup := h.nodup
      obtain ⟨rfl, htail⟩ := h
      obtain ⟨hne, hp⟩ := not_or.mp (List.mem_cons.not.mp hp)
      refine ⟨rfl, ?_⟩
      cases ps with
      | nil =>
          obtain rfl : q = last := by simpa using hlast
          rw [Function.update_self]
          exact ⟨rfl, (Function.update_of_ne hne ..).trans hnext⟩
      | cons r ps =>
          have hlast' : (r :: ps).getLast? = some last := by simpa using hlast
          have hmem : last ∈ r :: ps := List.mem_of_getLast? hlast'
          have hq : q ≠ last := by
            rintro rfl
            exact (List.nodup_cons.mp hnodup).1 hmem
          rw [Function.update_of_ne hq]
          exact ih htail hlast' hp

end Chains
