import Megaphone.DataStructures.Queue

/-!
The end of a queue (`queue_free` of `queue.c`, with `node_free` of `node.c`): its memory over every
run of calls.

* `Queue.queueFree`, `Heap.freeNodes`: the loop of `queue_free`, and the calls of `node_free` on
  nodes that have been taken out.
* `Heap.Extends`: a heap with the nodes of a list, each with its data, and nothing else more than
  before; `Extends.nodeInit`, `Extends.setNext`, `Extends.nodeFree`: what the functions do to it.
* `queue_freed_once`: nothing is left on the heap, and nothing is freed twice.
-/

namespace Megaphone

open Chains

namespace Queue

/-- The loop of `queue_free`, as far as `fuel` nodes; `none` when it goes on behind them, or follows
a pointer to where no node is. -/
def queueFree : ℕ → Queue → Heap → Option (Queue × Heap)
  | 0, queue, h => if queue.head = none then some (queue, h) else none
  | fuel + 1, queue, h =>
      match queue.head with
      | none => some (queue, h)
      | some p => do
          let node ← h.nodes p
          let queue := { queue with head := node.next }
          let h ← h.nodeFree p
          queueFree fuel queue h

/-- Nothing is done to an empty queue. -/
lemma queueFree_of_head_eq {queue : Queue} (hhead : queue.head = none) (fuel : ℕ) (h : Heap) :
    queue.queueFree fuel h = some ({ queue with head := none }, h) := by
  have heq : { queue with head := none } = queue := by rw [← hhead]
  rw [heq]
  cases fuel with
  | zero => rw [queueFree, if_pos hhead]
  | succ fuel => simp only [queueFree, hhead]

/-- The first node is freed. -/
lemma queueFree_succ {queue : Queue} {p : Addr} (hhead : queue.head = some p) {fuel : ℕ}
    {h h' : Heap} {node : Node} (hnode : h.nodes p = some node) (hfree : h.nodeFree p = some h') :
    queue.queueFree (fuel + 1) h = queueFree fuel { queue with head := node.next } h' := by
  simp only [queueFree, hhead, hnode, hfree, Option.bind_eq_bind, Option.bind_some]

end Queue

namespace Heap

/-- `node_free` on each node of a list. -/
def freeNodes (h : Heap) (l : List Addr) : Option Heap := l.foldlM (fun h p => h.nodeFree p) h

/-! ### Heaps that have become larger -/

/-- The heap is `h₀`, with the nodes `l` and their data. -/
structure Extends (h₀ h : Heap) (l : List Addr) : Prop where
  owns : h.Owns l
  nodes_none : ∀ p ∈ l, h₀.nodes p = none
  blocks_none : ∀ block, some block ∈ l.map h.dataOf → h₀.blocks block = none
  nodes_eq : ∀ p, p ∉ l → h.nodes p = h₀.nodes p
  blocks_eq : ∀ block, some block ∉ l.map h.dataOf → h.blocks block = h₀.blocks block

variable {h₀ h h' : Heap} {l l' : List Addr} {p : Addr}

namespace Extends

lemma refl (h : Heap) : Extends h h [] :=
  ⟨⟨List.nodup_nil, List.forall_mem_nil _⟩, by simp, by simp, fun _ _ => rfl, fun _ _ => rfl⟩

/-- Without more nodes it is the heap that was there. -/
lemma eq_of_nil (hx : Extends h₀ h []) : h = h₀ := by
  have hnodes : h.nodes = h₀.nodes := funext fun p => hx.nodes_eq p List.not_mem_nil
  have hblocks : h.blocks = h₀.blocks := funext fun b => hx.blocks_eq b List.not_mem_nil
  cases h
  cases h₀
  rw [Heap.mk.injEq]
  exact ⟨hnodes, hblocks⟩

lemma perm (hx : Extends h₀ h l) (hl : l.Perm l') : Extends h₀ h l' := by
  refine ⟨hx.owns.perm hl, fun p hp => hx.nodes_none p (hl.mem_iff.mpr hp), fun b hb => ?_,
    fun p hp => hx.nodes_eq p fun hp' => hp (hl.mem_iff.mp hp'), fun b hb => ?_⟩
  · exact hx.blocks_none b ((hl.map h.dataOf).mem_iff.mpr hb)
  · exact hx.blocks_eq b fun hb' => hb ((hl.map h.dataOf).mem_iff.mp hb')

/-- **A pointer** of one of the nodes is written. -/
lemma setNext (hx : Extends h₀ h l) (hp : p ∈ l) {x : Option Addr}
    (hset : h.setNext p x = some h') : Extends h₀ h' l := by
  obtain ⟨block, bytes, hdata, -⟩ := hx.owns.exists_block hp
  obtain ⟨h'', hset', -, hdata', hblocks'⟩ := Heap.setNext_spec hdata x
  cases hset.symm.trans hset'
  obtain ⟨node, -, rfl⟩ := Option.map_eq_some_iff.mp hset
  refine ⟨hx.owns.congr hdata' rfl, hx.nodes_none, ?_, fun q hq => ?_, ?_⟩
  · rw [hdata']
    exact hx.blocks_none
  · have hqp : q ≠ p := fun heq => hq (heq ▸ hp)
    exact (Function.update_of_ne hqp ..).trans (hx.nodes_eq q hq)
  · rw [hdata']
    exact hx.blocks_eq

/-- **A new node** is one more. -/
lemma nodeInit (hx : Extends h₀ h l) {data : ℕ → UInt8} {dataSize : ℕ} {block : Addr}
    (hinit : h.nodeInit data dataSize p block = some h') : Extends h₀ h' (p :: l) := by
  obtain ⟨⟨hp, hblock, -⟩, -, hdata, hblocks⟩ := nodeInit_spec hinit
  obtain ⟨howns, -, -, -⟩ := hx.owns.nodeInit hinit
  have hpl : p ∉ l := (List.nodup_cons.mp howns.nodup).1
  have hmap : (p :: l).map h'.dataOf = some block :: l.map h.dataOf := by
    rw [List.map_cons, hdata, Function.update_self]
    refine congrArg (some block :: ·) (List.map_congr_left fun q hq => ?_)
    have hqp : q ≠ p := fun heq => hpl (heq ▸ hq)
    rw [Function.update_of_ne hqp]
  have hnotin : some block ∉ l.map h.dataOf := by
    have hnodup := howns.nodup_dataOf
    rw [hmap] at hnodup
    exact (List.nodup_cons.mp hnodup).1
  obtain ⟨-, hinit⟩ := Option.ite_none_right_eq_some.mp hinit
  cases hinit
  refine ⟨howns, List.forall_mem_cons.mpr ⟨?_, hx.nodes_none⟩, fun b hb => ?_, fun q hq => ?_,
    fun b hb => ?_⟩
  · rw [← hx.nodes_eq p hpl]
    exact hp.1
  · rw [hmap] at hb
    obtain heq | hb := List.mem_cons.mp hb
    · rw [Option.some.inj heq, ← hx.blocks_eq block hnotin]
      exact hblock.2
    · exact hx.blocks_none b hb
  · obtain ⟨hne, hq⟩ := not_or.mp (List.mem_cons.not.mp hq)
    exact (Function.update_of_ne hne ..).trans (hx.nodes_eq q hq)
  · rw [hmap] at hb
    obtain ⟨hne, hb⟩ := not_or.mp (List.mem_cons.not.mp hb)
    have hbne : b ≠ block := fun heq => hne (congrArg some heq)
    exact (Function.update_of_ne hbne ..).trans (hx.blocks_eq b hb)

/-- **A node is freed**, once. -/
lemma nodeFree (hx : Extends h₀ h (p :: l)) :
    ∃ h', h.nodeFree p = some h' ∧ h'.next = Function.update h.next p none ∧
      Extends h₀ h' l := by
  obtain ⟨block, bytes, hdata, hbytes⟩ := hx.owns.exists_block List.mem_cons_self
  obtain ⟨hpl, -⟩ := List.nodup_cons.mp hx.owns.nodup
  obtain ⟨hnotin, hnodup⟩ := List.nodup_cons.mp hx.owns.nodup_dataOf
  rw [hdata] at hnotin
  have hfree : h.nodeFree p = some ⟨Function.update h.nodes p none,
      Function.update h.blocks block none⟩ := by
    rw [Heap.nodeFree, Heap.nodes_eq hdata, Option.bind_eq_bind, Option.bind_some, hbytes]
    rfl
  set h' : Heap := ⟨Function.update h.nodes p none, Function.update h.blocks block none⟩ with hh'
  have hold : ∀ q ∈ l, h'.dataOf q = h.dataOf q := by
    intro q hq
    have hqp : q ≠ p := fun heq => hpl (heq ▸ hq)
    rw [hh', dataOf_update, Function.update_of_ne hqp]
  have hmap : l.map h'.dataOf = l.map h.dataOf := List.map_congr_left hold
  have hrest : h.Owns l :=
    ⟨hnodup, fun q hq => hx.owns.isSome_valueOf q (List.mem_cons_of_mem p hq)⟩
  have hvalues := hrest.valueOf_eq hold hnotin rfl
  refine ⟨h', hfree, next_update .., ⟨hmap ▸ hnodup, fun q hq => ?_⟩,
    fun q hq => hx.nodes_none q (List.mem_cons_of_mem p hq), fun b hb => ?_, fun q hq => ?_,
    fun b hb => ?_⟩
  · rw [hvalues q hq]
    exact hrest.isSome_valueOf q hq
  · rw [hmap] at hb
    exact hx.blocks_none b (List.mem_cons_of_mem _ hb)
  · by_cases hqp : q = p
    · rw [hqp]
      exact (Function.update_self ..).trans (hx.nodes_none p List.mem_cons_self).symm
    · refine (Function.update_of_ne hqp ..).trans (hx.nodes_eq q fun hmem => ?_)
      exact hq ((List.mem_cons.mp hmem).resolve_left hqp)
  · by_cases hbb : b = block
    · rw [hbb]
      refine (Function.update_self ..).trans (hx.blocks_none block ?_).symm
      rw [← hdata]
      exact List.mem_map_of_mem List.mem_cons_self
    · refine (Function.update_of_ne hbb ..).trans (hx.blocks_eq b fun hmem => ?_)
      rw [List.map_cons, hdata, List.mem_cons] at hmem
      rw [hmap] at hb
      exact hb (hmem.resolve_left fun heq => hbb (Option.some.inj heq))

/-- Nodes are freed one after the other. -/
lemma freeNodes (hx : Extends h₀ h (l ++ l')) :
    ∃ h', h.freeNodes l = some h' ∧ Extends h₀ h' l' := by
  induction l generalizing h with
  | nil => exact ⟨h, rfl, hx⟩
  | cons p l ih =>
      obtain ⟨h₁, hfree, -, hx₁⟩ := hx.nodeFree
      obtain ⟨h', hrest, hx'⟩ := ih hx₁
      refine ⟨h', ?_, hx'⟩
      rw [Heap.freeNodes, List.foldlM_cons, hfree]
      exact hrest

/-- **`queue_free`** frees the nodes of a chain. -/
lemma queueFree (hx : Extends h₀ h (l ++ l')) {queue : Queue} (hchain : Chain h.next queue.head l)
    {fuel : ℕ} (hfuel : l.length ≤ fuel) :
    ∃ h', queue.queueFree fuel h = some ({ queue with head := none }, h') ∧ Extends h₀ h' l' := by
  induction l generalizing h queue fuel with
  | nil => exact ⟨h, Queue.queueFree_of_head_eq hchain fuel h, hx⟩
  | cons p l ih =>
      obtain ⟨block, -, hdata, -⟩ := hx.owns.exists_block List.mem_cons_self
      obtain ⟨hpl, -⟩ := List.nodup_cons.mp hchain.nodup
      obtain ⟨h₁, hfree, hnext, hx₁⟩ := hx.nodeFree
      have hchain₁ : Chain h₁.next (h.next p) l := hnext ▸ hchain.2.update hpl none
      rw [List.length_cons] at hfuel
      obtain ⟨fuel, rfl⟩ : ∃ k, fuel = k + 1 := ⟨fuel - 1, by omega⟩
      obtain ⟨h', hrest, hx'⟩ := ih hx₁
        (show Chain h₁.next { queue with head := h.next p }.head l from hchain₁)
        (Nat.le_of_succ_le_succ hfuel)
      refine ⟨h', ?_, hx'⟩
      rw [Queue.queueFree_succ hchain.1 (Heap.nodes_eq hdata) hfree]
      exact hrest

end Extends

end Heap

/-! ### Runs -/

namespace QueueState

variable {n : ℕ} {heap : Heap} {s s' : QueueState} {ps : List Addr}

/-- **One call** leaves no other nodes on the heap than those of the queue and those that have been
taken out of it. -/
lemma Inv.extends_step (h : Inv n s ps) (hx : heap.Extends s.heap (ps ++ s.detached))
    {c : QueueCall} {o : Option Addr} (hstep : s.step c = some (s', o)) {ps' : List Addr}
    (h' : Inv n s' ps') : heap.Extends s'.heap (ps' ++ s'.detached) := by
  cases c with
  | enqueue data p block =>
      obtain ⟨⟨queue, h₂⟩, henq, heq⟩ := Option.map_eq_some_iff.mp hstep
      cases heq
      obtain ⟨h₁, hinit, henq'⟩ := Option.bind_eq_some_iff.mp henq
      obtain ⟨hfree, -⟩ := Option.ite_none_right_eq_some.mp hinit
      have hx₁ := hx.nodeInit hinit
      obtain ⟨queue', heap', henq'', hinv, -⟩ := h.enqueue data hfree
      cases henq.symm.trans henq''
      obtain rfl : ps' = ps ++ [p] := h'.chain.eq hinv.chain
      have hperm : (p :: (ps ++ s.detached)).Perm (ps ++ [p] ++ s.detached) := by
        rw [List.append_assoc, List.singleton_append]
        exact List.perm_middle.symm
      refine Heap.Extends.perm ?_ hperm
      by_cases hempty : s.queue.length = 0
      · rw [if_pos hempty] at henq'
        cases henq'
        exact hx₁
      · rw [if_neg hempty] at henq'
        obtain ⟨tail, htail, henq'⟩ := Option.bind_eq_some_iff.mp henq'
        obtain ⟨h₂, hset, heq⟩ := Option.bind_eq_some_iff.mp henq'
        cases heq
        rw [h.tail_eq] at htail
        have hmem : tail ∈ ps := List.mem_of_getLast? htail
        exact hx₁.setNext (List.mem_cons_of_mem p (List.mem_append_left _ hmem)) hset
  | dequeue =>
      obtain ⟨⟨queue, h₂, node⟩, hdeq, heq⟩ := Option.map_eq_some_iff.mp hstep
      cases heq
      cases ps with
      | nil =>
          cases hdeq.symm.trans h.dequeue_nil
          obtain rfl : ps' = [] := h'.chain.eq h.chain
          simpa using hx
      | cons p ps =>
          obtain ⟨queue', heap', hdeq', hinv, -⟩ := h.dequeue_cons
          cases hdeq.symm.trans hdeq'
          obtain rfl : ps' = ps := h'.chain.eq hinv.chain
          have hperm : (p :: ps' ++ s.detached).Perm (ps' ++ (s.detached ++ [p])) := by
            rw [List.cons_append, ← List.append_assoc]
            exact (List.perm_append_singleton p _).symm
          refine Heap.Extends.perm ?_ hperm
          rw [Queue.dequeue] at hdeq
          split at hdeq
          · cases hdeq
          · obtain ⟨p', hhead, hdeq⟩ := Option.bind_eq_some_iff.mp hdeq
            obtain ⟨node, hnode, hdeq⟩ := Option.bind_eq_some_iff.mp hdeq
            obtain ⟨h₂, hset, heq⟩ := Option.bind_eq_some_iff.mp hdeq
            cases heq
            exact hx.setNext List.mem_cons_self hset
  | nodeFree p =>
      obtain ⟨hp, hmap⟩ := Option.ite_none_right_eq_some.mp hstep
      obtain ⟨h₂, hfree, heq⟩ := Option.map_eq_some_iff.mp hmap
      cases heq
      obtain ⟨heap', hfree', hinv, -⟩ := h.nodeFree hp
      cases hfree.symm.trans hfree'
      obtain rfl : ps' = ps := h'.chain.eq hinv.chain
      have hperm : (ps' ++ s.detached).Perm (p :: (ps' ++ s.detached.erase p)) :=
        ((List.perm_cons_erase hp).append_left ps').trans List.perm_middle
      obtain ⟨h₃, hfree₃, -, hx₃⟩ := (hx.perm hperm).nodeFree
      cases hfree.symm.trans hfree₃
      exact hx₃

/-- **A run of calls**, likewise. -/
lemma run_extends {ts : List QueueTransition}
    (hrun : Machine.Run step ⟨heap, queueInit n, []⟩ ts s) :
    ∃ ps, Inv n s ps ∧ heap.Extends s.heap (ps ++ s.detached) := by
  refine hrun.invariant (P := fun s => ∃ ps, Inv n s ps ∧
    heap.Extends s.heap (ps ++ s.detached)) (fun s c s' o ⟨ps, h, hx⟩ hstep => ?_)
    ⟨[], inv_queueInit n heap, .refl heap⟩
  obtain ⟨ps', h', -⟩ := step_inv h hstep
  exact ⟨ps', h', h.extends_step hx hstep h'⟩

/-- **The memory of a queue** over every run of calls on any heap: `queue_free` frees the nodes that
are in the queue, and the nodes that have been taken out of it can be freed behind it, in any order,
each of them once; then the heap is what it was before the first call.  The fields `tail` and
`length` stay, so that `dequeue` on a queue that was not empty follows a `NULL` pointer. -/
theorem queue_freed_once {dataSize : ℕ} {ts : List QueueTransition}
    (hrun : Machine.Run step ⟨heap, queueInit dataSize, []⟩ ts s) {fuel : ℕ}
    (hfuel : s.queue.length ≤ fuel) {ps : List Addr} (hps : s.detached.Perm ps) :
    ∃ h', s.queue.queueFree fuel s.heap = some ({ s.queue with head := none }, h') ∧
      h'.freeNodes ps = some heap ∧
      (s.queue.length ≠ 0 → ({ s.queue with head := none } : Queue).dequeue heap = none) := by
  obtain ⟨qs, hinv, hx⟩ := run_extends hrun
  obtain ⟨h₁, hfree, hx₁⟩ := hx.queueFree hinv.chain (hinv.length_eq ▸ hfuel)
  have hperm : s.detached.Perm (ps ++ []) := by rwa [List.append_nil]
  obtain ⟨h₂, hrest, hx₂⟩ := (hx₁.perm hperm).freeNodes
  refine ⟨h₁, hfree, ?_, fun hne => ?_⟩
  · rw [hrest, hx₂.eq_of_nil]
  · rw [Queue.dequeue, if_neg hne]
    rfl

/-- Two elements are put into the queue and one is taken out; both nodes are freed. -/
theorem queue_freed_once_two : ∃ ts s,
    Machine.Run step ⟨⟨fun _ => none, fun _ => none⟩, queueInit 1, []⟩ ts s ∧
    ts.map (·.act) = [.enqueue (fun _ => 120) 1 2, .enqueue (fun _ => 121) 3 4, .dequeue] ∧
    s.detached = [1] ∧
    ∃ h', s.queue.queueFree s.queue.length s.heap = some ({ s.queue with head := none }, h') ∧
      h'.freeNodes s.detached = some ⟨fun _ => none, fun _ => none⟩ ∧
      (s.queue.length ≠ 0 → ({ s.queue with head := none } : Queue).dequeue
        ⟨fun _ => none, fun _ => none⟩ = none) := by
  have hrun : Machine.Run step ⟨⟨fun _ => none, fun _ => none⟩, queueInit 1, []⟩ _ _ :=
    .cons (a := .enqueue (fun _ => 120) 1 2) rfl <| .cons (a := .enqueue (fun _ => 121) 3 4) rfl <|
    .cons (a := .dequeue) rfl <| .nil _
  exact ⟨_, _, hrun, rfl, rfl, queue_freed_once hrun le_rfl (.refl _)⟩

end QueueState

end Megaphone
