import Megaphone.Library.Chains
import Megaphone.Library.Machine
import Megaphone.Library.Memory

/-!
The linked queue of `node.c` and `queue.c`, on a heap.

* `Heap`: the nodes and the blocks of data that have been allocated; `nodeInit` and `nodeFree` are
  the functions of `node.c`.
* `Queue`, `enqueue`, `dequeue`, `queueInit`: the functions of `queue.c`.
* `Heap.Owns`: nodes that are there, each with data of its own; `Owns.nodeInit` and `Owns.nodeFree`
  are what allocating and freeing a node does to them.
* `QueueState`, `step`: a queue, its heap, and the nodes that it has handed out.
* `Inv`: the nodes of the queue are a chain from `head` to `tail`; `Inv.enqueue`,
  `Inv.dequeue_cons`, `Inv.nodeFree`: what each function does to it.
* `run_inv`, `queue_fifo`: over every run of calls, what has been taken out, followed by what is in
  the queue, is what has been put in.
-/

namespace Megaphone

open Chains

/-! ### The heap -/

/-- An address of the heap; a pointer is an `Option Addr`, `none` being `NULL`. -/
abbrev Addr := Fin (2 ^ 64)

/-- `struct node`. -/
structure Node where
  data : Addr
  next : Option Addr

/-- The nodes and the blocks of bytes, by their addresses. -/
structure Heap where
  nodes : Addr → Option Node
  blocks : Addr → Option (List UInt8)

namespace Heap

/-- `malloc` can return the address: nothing is there. -/
def IsFree (h : Heap) (p : Addr) : Prop := h.nodes p = none ∧ h.blocks p = none

instance (h : Heap) (p : Addr) : Decidable (h.IsFree p) :=
  decidable_of_iff ((h.nodes p).isNone ∧ (h.blocks p).isNone) (by simp [IsFree])

/-- `node_init`, where the first `malloc` returns `p` and the second one `block`; `none` when they
cannot. -/
def nodeInit (h : Heap) (data : ℕ → UInt8) (dataSize : ℕ) (p block : Addr) : Option Heap :=
  if h.IsFree p ∧ h.IsFree block ∧ block ≠ p then
    some { nodes := Function.update h.nodes p (some ⟨block, none⟩)
           blocks := Function.update h.blocks block (some (Memory.read data 0 dataSize)) }
  else none

/-- `node_free`; `none` when there is no node, or when its data has been freed. -/
def nodeFree (h : Heap) (p : Addr) : Option Heap := do
  let node ← h.nodes p
  let _ ← h.blocks node.data
  some { nodes := Function.update h.nodes p none
         blocks := Function.update h.blocks node.data none }

/-- Writing to the pointer `p->next`; `none` when there is no node. -/
def setNext (h : Heap) (p : Addr) (next : Option Addr) : Option Heap :=
  (h.nodes p).map fun node =>
    { h with nodes := Function.update h.nodes p (some { node with next := next }) }

end Heap

/-! ### The queue -/

/-- `struct queue`. -/
structure Queue where
  head : Option Addr
  tail : Option Addr
  dataSize : ℕ
  length : ℕ

/-- `queue_init`. -/
def queueInit (dataSize : ℕ) : Queue := ⟨none, none, dataSize, 0⟩

namespace Queue

/-- `enqueue`, where `node_init` gets the addresses `p` and `block`. -/
def enqueue (queue : Queue) (h : Heap) (data : ℕ → UInt8) (p block : Addr) :
    Option (Queue × Heap) :=
  (h.nodeInit data queue.dataSize p block).bind fun h =>
    let length := (queue.length + 1) % 2 ^ 64
    if queue.length = 0 then
      some ({ queue with head := some p, tail := some p, length := length }, h)
    else do
      let tail ← queue.tail
      let h ← h.setNext tail (some p)
      some ({ queue with tail := some p, length := length }, h)

/-- `dequeue`, with the pointer to the node, `none` for `NULL`; the outer `none` is a pointer that
is followed to where no node is. -/
def dequeue (queue : Queue) (h : Heap) : Option (Queue × Heap × Option Addr) :=
  if queue.length = 0 then some (queue, h, none)
  else do
    let p ← queue.head
    let node ← h.nodes p
    let queue :=
      if queue.length > 1 then { queue with head := node.next }
      else { queue with head := none, tail := none }
    let h ← h.setNext p none
    some ({ queue with length := queue.length - 1 }, h, some p)

end Queue

/-! ### What the functions do to the heap -/

namespace Heap

/-- The pointers from node to node. -/
def next (h : Heap) (p : Addr) : Option Addr := (h.nodes p).bind Node.next

/-- Where the data of a node is. -/
def dataOf (h : Heap) (p : Addr) : Option Addr := (h.nodes p).map Node.data

/-- The data of a node. -/
def valueOf (h : Heap) (p : Addr) : Option (List UInt8) := (h.dataOf p).bind h.blocks

variable {h h' : Heap} {p : Addr}

/-- The pointers, when a node has been written or removed. -/
lemma next_update (h : Heap) (p : Addr) (x : Option Node) (blocks : Addr → Option (List UInt8)) :
    next ⟨Function.update h.nodes p x, blocks⟩ = Function.update h.next p (x.bind Node.next) :=
  Function.comp_update (fun x : Option Node => x.bind Node.next) h.nodes p x

/-- Where the data is then. -/
lemma dataOf_update (h : Heap) (p : Addr) (x : Option Node) (blocks : Addr → Option (List UInt8)) :
    dataOf ⟨Function.update h.nodes p x, blocks⟩ = Function.update h.dataOf p (x.map Node.data) :=
  Function.comp_update (fun x : Option Node => x.map Node.data) h.nodes p x

lemma nodes_eq {block : Addr} (hdata : h.dataOf p = some block) :
    h.nodes p = some ⟨block, h.next p⟩ := by
  obtain ⟨node, hnode, rfl⟩ := Option.map_eq_some_iff.mp hdata
  rw [next, hnode]
  rfl

/-- **Writing `p->next`** changes this pointer only. -/
lemma setNext_spec {block : Addr} (hdata : h.dataOf p = some block) (x : Option Addr) :
    ∃ h', h.setNext p x = some h' ∧ h'.next = Function.update h.next p x ∧
      h'.dataOf = h.dataOf ∧ h'.blocks = h.blocks := by
  have hnode := nodes_eq hdata
  refine ⟨⟨Function.update h.nodes p (some ⟨block, x⟩), h.blocks⟩, ?_, next_update .., ?_, rfl⟩
  · rw [setNext, hnode]
    rfl
  · rw [dataOf_update, Option.map_some, ← hdata, Function.update_eq_self]

/-- **A new node** holds a copy of the data, and the others are as before. -/
lemma nodeInit_spec {data : ℕ → UInt8} {dataSize : ℕ} {block : Addr}
    (hinit : h.nodeInit data dataSize p block = some h') :
    (h.IsFree p ∧ h.IsFree block ∧ block ≠ p) ∧ h'.next = h.next ∧
      h'.dataOf = Function.update h.dataOf p (some block) ∧
      h'.blocks = Function.update h.blocks block (some (Memory.read data 0 dataSize)) := by
  obtain ⟨hfree, hinit⟩ := Option.ite_none_right_eq_some.mp hinit
  cases hinit
  refine ⟨hfree, ?_, dataOf_update .., rfl⟩
  have hnone : (none : Option Addr) = h.next p := by
    rw [next, hfree.1.1]
    rfl
  rw [next_update, Option.bind_some, hnone, Function.update_eq_self]

/-- **A node is freed**, with its data, and the others are as before. -/
lemma nodeFree_spec {block : Addr} {bytes : List UInt8} (hdata : h.dataOf p = some block)
    (hbytes : h.blocks block = some bytes) (hnext : h.next p = none) :
    ∃ h', h.nodeFree p = some h' ∧ h'.next = h.next ∧
      h'.dataOf = Function.update h.dataOf p none ∧
      h'.blocks = Function.update h.blocks block none := by
  refine ⟨⟨Function.update h.nodes p none, Function.update h.blocks block none⟩, ?_, ?_,
    dataOf_update .., rfl⟩
  · rw [nodeFree, nodes_eq hdata, Option.bind_eq_bind, Option.bind_some, hbytes]
    rfl
  · rw [next_update, Option.bind_none, ← hnext, Function.update_eq_self]

/-! ### Nodes that are owned -/

/-- The nodes `l` are there, each with data of its own. -/
structure Owns (h : Heap) (l : List Addr) : Prop where
  nodup_dataOf : (l.map h.dataOf).Nodup
  isSome_valueOf : ∀ p ∈ l, (h.valueOf p).isSome

variable {l l' : List Addr}

lemma Owns.nodup (ho : h.Owns l) : l.Nodup := ho.nodup_dataOf.of_map _

lemma Owns.perm (ho : h.Owns l) (hl : l.Perm l') : h.Owns l' :=
  ⟨(hl.map h.dataOf).nodup_iff.mp ho.nodup_dataOf,
    fun p hp => ho.isSome_valueOf p (hl.mem_iff.mpr hp)⟩

/-- A node that is owned has a block of data. -/
lemma Owns.exists_block (ho : h.Owns l) (hp : p ∈ l) :
    ∃ block bytes, h.dataOf p = some block ∧ h.blocks block = some bytes := by
  obtain ⟨bytes, hbytes⟩ := Option.isSome_iff_exists.mp (ho.isSome_valueOf p hp)
  obtain ⟨block, hblock, hbytes⟩ := Option.bind_eq_some_iff.mp hbytes
  exact ⟨block, bytes, hblock, hbytes⟩

/-- When only pointers have been written, everything is owned as before. -/
lemma Owns.congr (ho : h.Owns l) (hdata : h'.dataOf = h.dataOf) (hblocks : h'.blocks = h.blocks) :
    h'.Owns l := by
  refine ⟨hdata ▸ ho.nodup_dataOf, fun p hp => ?_⟩
  rw [valueOf, hdata, hblocks]
  exact ho.isSome_valueOf p hp

/-- The data of nodes that are owned, when another block has been written or removed. -/
lemma Owns.valueOf_eq (ho : h.Owns l) {block : Addr} {x : Option (List UInt8)}
    (hdata : ∀ q ∈ l, h'.dataOf q = h.dataOf q) (hblock : some block ∉ l.map h.dataOf)
    (hblocks : h'.blocks = Function.update h.blocks block x) :
    ∀ q ∈ l, h'.valueOf q = h.valueOf q := by
  intro q hq
  obtain ⟨b, bytes, hb, hbytes⟩ := ho.exists_block hq
  have hne : b ≠ block := by
    rintro rfl
    exact hblock (hb ▸ List.mem_map_of_mem hq)
  rw [valueOf, valueOf, hdata q hq, hb, hblocks]
  exact Function.update_of_ne hne ..

/-- **A new node** is owned, too. -/
lemma Owns.nodeInit (ho : h.Owns l) {data : ℕ → UInt8} {dataSize : ℕ} {block : Addr}
    (hinit : h.nodeInit data dataSize p block = some h') :
    h'.Owns (p :: l) ∧ h'.valueOf p = some (Memory.read data 0 dataSize) ∧
      (∀ q ∈ l, h'.valueOf q = h.valueOf q) ∧ block ∉ p :: l := by
  obtain ⟨⟨hp, hblock, hne⟩, -, hdata, hblocks⟩ := nodeInit_spec hinit
  have hfree : ∀ {q}, h.IsFree q → q ∉ l := by
    intro q hq hmem
    obtain ⟨b, bytes, hb, -⟩ := ho.exists_block hmem
    rw [dataOf, hq.1] at hb
    cases hb
  have hold : ∀ q ∈ l, h'.dataOf q = h.dataOf q := by
    intro q hq
    have hqp : q ≠ p := fun heq => hfree hp (heq ▸ hq)
    rw [hdata, Function.update_of_ne hqp]
  have hnew : some block ∉ l.map h.dataOf := by
    intro hmem
    obtain ⟨q, hq, heq⟩ := List.mem_map.mp hmem
    obtain ⟨b, bytes, hb, hbytes⟩ := ho.exists_block hq
    cases hb.symm.trans heq
    rw [hblock.2] at hbytes
    cases hbytes
  have hself : h'.dataOf p = some block := by rw [hdata, Function.update_self]
  have hvalue : h'.valueOf p = some (Memory.read data 0 dataSize) := by
    rw [valueOf, hself, hblocks]
    exact Function.update_self ..
  have hvalues := ho.valueOf_eq hold hnew hblocks
  refine ⟨⟨?_, List.forall_mem_cons.mpr ⟨?_, fun q hq => ?_⟩⟩, hvalue, hvalues, ?_⟩
  · rw [List.map_cons, hself, List.map_congr_left hold]
    exact List.nodup_cons.mpr ⟨hnew, ho.nodup_dataOf⟩
  · rw [hvalue]
    rfl
  · rw [hvalues q hq]
    exact ho.isSome_valueOf q hq
  · exact List.not_mem_cons_of_ne_of_not_mem hne (hfree hblock)

/-- There are fewer nodes than a `size_t` counts, as the last one and its data have addresses. -/
lemma Owns.length_lt (ho : h.Owns (p :: l)) {block : Addr} (hblock : block ∉ p :: l) :
    l.length + 1 < 2 ^ 64 := by
  have hcard := (List.nodup_cons.mpr ⟨hblock, ho.nodup⟩).length_le_card
  rw [Fintype.card_fin] at hcard
  exact hcard

/-- **A freed node** is not owned, and the others are as before. -/
lemma Owns.nodeFree (ho : h.Owns (p :: l)) (hnext : h.next p = none) :
    ∃ h', h.nodeFree p = some h' ∧ h'.next = h.next ∧ h'.Owns l ∧
      ∀ q ∈ l, h'.valueOf q = h.valueOf q := by
  obtain ⟨block, bytes, hblock, hbytes⟩ := ho.exists_block List.mem_cons_self
  obtain ⟨h', hfree, hnext', hdata, hblocks⟩ := nodeFree_spec hblock hbytes hnext
  have hrest : h.Owns l := ⟨(List.nodup_cons.mp ho.nodup_dataOf).2,
    fun q hq => ho.isSome_valueOf q (List.mem_cons_of_mem p hq)⟩
  have hnotin : some block ∉ l.map h.dataOf := hblock ▸ (List.nodup_cons.mp ho.nodup_dataOf).1
  have hold : ∀ q ∈ l, h'.dataOf q = h.dataOf q := by
    intro q hq
    have hqp : q ≠ p := fun heq => (List.nodup_cons.mp ho.nodup).1 (heq ▸ hq)
    rw [hdata, Function.update_of_ne hqp]
  have hvalues := hrest.valueOf_eq hold hnotin hblocks
  refine ⟨h', hfree, hnext', ⟨?_, fun q hq => ?_⟩, hvalues⟩
  · rw [List.map_congr_left hold]
    exact hrest.nodup_dataOf
  · rw [hvalues q hq]
    exact hrest.isSome_valueOf q hq

end Heap

/-! ### Calls -/

/-- A queue and its heap, with the nodes that it has handed out and that have not been freed. -/
structure QueueState where
  heap : Heap
  queue : Queue
  detached : List Addr

/-- A call; `malloc` returns `p` and `block` to `enqueue`.  A node that has been taken out of the
queue may be freed. -/
inductive QueueCall
  | enqueue (data : ℕ → UInt8) (p block : Addr)
  | dequeue
  | nodeFree (p : Addr)

/-- The bytes that a call puts into a queue. -/
def QueueCall.data? (dataSize : ℕ) : QueueCall → Option (List UInt8)
  | .enqueue data _ _ => some (Memory.read data 0 dataSize)
  | .dequeue => none
  | .nodeFree _ => none

namespace QueueState

/-- The machine; the output is the node that has been taken out. -/
def step (s : QueueState) : QueueCall → Option (QueueState × Option Addr)
  | .enqueue data p block => (s.queue.enqueue s.heap data p block).map fun (queue, heap) =>
      ({ s with heap := heap, queue := queue }, none)
  | .dequeue => (s.queue.dequeue s.heap).map fun (queue, heap, node) =>
      (⟨heap, queue, s.detached ++ node.toList⟩, node)
  | .nodeFree p =>
      if p ∈ s.detached then
        (s.heap.nodeFree p).map fun heap =>
          ({ s with heap := heap, detached := s.detached.erase p }, none)
      else none

/-- The queue is the chain of the nodes `ps`, and the nodes that it has handed out are linked to
none. -/
structure Inv (n : ℕ) (s : QueueState) (ps : List Addr) : Prop where
  dataSize_eq : s.queue.dataSize = n
  chain : Chain s.heap.next s.queue.head ps
  tail_eq : s.queue.tail = ps.getLast?
  length_eq : s.queue.length = ps.length
  owns : s.heap.Owns (ps ++ s.detached)
  next_detached : ∀ p ∈ s.detached, s.heap.next p = none

variable {n : ℕ} {s s' : QueueState} {ps : List Addr}

lemma inv_queueInit (n : ℕ) (heap : Heap) : Inv n ⟨heap, queueInit n, []⟩ [] := by
  refine ⟨rfl, rfl, rfl, rfl, ⟨List.nodup_nil, ?_⟩, ?_⟩ <;> simp

/-- **`enqueue`** links a new node behind the chain. -/
lemma Inv.enqueue (h : Inv n s ps) (data : ℕ → UInt8) {p block : Addr}
    (hfree : s.heap.IsFree p ∧ s.heap.IsFree block ∧ block ≠ p) :
    ∃ queue heap, s.queue.enqueue s.heap data p block = some (queue, heap) ∧
      Inv n { s with heap := heap, queue := queue } (ps ++ [p]) ∧
      heap.valueOf p = some (Memory.read data 0 n) ∧
      ∀ q ∈ ps, heap.valueOf q = s.heap.valueOf q := by
  obtain ⟨h₁, hinit⟩ : ∃ h₁, s.heap.nodeInit data n p block = some h₁ := ⟨_, if_pos hfree⟩
  obtain ⟨-, hnext, -, -⟩ := Heap.nodeInit_spec hinit
  obtain ⟨howns, hvalue, hvalues, hblock⟩ := h.owns.nodeInit hinit
  have hp : p ∉ ps := fun hp =>
    (List.nodup_cons.mp howns.nodup).1 (List.mem_append_left _ hp)
  have hnone : h₁.next p = none := by
    rw [hnext, Heap.next, hfree.1.1]
    rfl
  have hperm : (p :: (ps ++ s.detached)).Perm (ps ++ [p] ++ s.detached) := by
    rw [List.append_assoc, List.singleton_append]
    exact List.perm_middle.symm
  have hlength : (s.queue.length + 1) % 2 ^ 64 = (ps ++ [p]).length := by
    have hlt := howns.length_lt hblock
    rw [List.length_append] at hlt
    rw [h.length_eq, List.length_append, List.length_singleton]
    exact Nat.mod_eq_of_lt (by omega)
  have hkept : ∀ q ∈ ps, h₁.valueOf q = s.heap.valueOf q := fun q hq =>
    hvalues q (List.mem_append_left _ hq)
  simp only [Queue.enqueue, h.dataSize_eq, hinit, Option.bind_some, hlength]
  by_cases hempty : s.queue.length = 0
  · obtain rfl : ps = [] := List.eq_nil_of_length_eq_zero (h.length_eq.symm.trans hempty)
    refine ⟨_, h₁, if_pos hempty, ⟨rfl, ⟨rfl, hnone⟩, rfl, rfl, howns.perm hperm, fun q hq => ?_⟩,
      hvalue, hkept⟩
    rw [hnext]
    exact h.next_detached q hq
  · have hne : ps ≠ [] := by
      rintro rfl
      exact hempty h.length_eq
    have hlast := List.getLast?_eq_some_getLast hne
    have hmem := List.getLast_mem hne
    obtain ⟨b, bytes, hb, -⟩ :=
      howns.exists_block (List.mem_cons_of_mem p (List.mem_append_left s.detached hmem))
    obtain ⟨heap, hlink, hnext', hdata', hblocks'⟩ := Heap.setNext_spec hb (some p)
    have hchain : Chain h₁.next s.queue.head ps := hnext ▸ h.chain
    have hvalue' : heap.valueOf = h₁.valueOf := by
      funext q
      rw [Heap.valueOf, Heap.valueOf, hdata', hblocks']
    rw [if_neg hempty, h.tail_eq, hlast, Option.bind_eq_bind, Option.bind_some, hlink]
    refine ⟨_, heap, rfl, ⟨rfl, ?_, ?_, rfl, (howns.congr hdata' hblocks').perm hperm, ?_⟩, ?_, ?_⟩
    · rw [hnext']
      exact hchain.concat hlast hp hnone
    · exact List.getLast?_concat.symm
    · intro q hq
      have hqlast : q ≠ ps.getLast hne := fun heq =>
        List.disjoint_of_nodup_append h.owns.nodup hmem (heq ▸ hq)
      rw [hnext', Function.update_of_ne hqlast, hnext]
      exact h.next_detached q hq
    · rwa [hvalue']
    · rwa [hvalue']

/-- Nothing is taken out of an empty queue. -/
lemma Inv.dequeue_nil (h : Inv n s []) : s.queue.dequeue s.heap = some (s.queue, s.heap, none) :=
  if_pos h.length_eq

/-- **`dequeue`** takes the first node out of the chain. -/
lemma Inv.dequeue_cons {p : Addr} (h : Inv n s (p :: ps)) :
    ∃ queue heap, s.queue.dequeue s.heap = some (queue, heap, some p) ∧
      Inv n ⟨heap, queue, s.detached ++ [p]⟩ ps ∧ heap.valueOf = s.heap.valueOf := by
  obtain ⟨block, bytes, hdata, -⟩ := h.owns.exists_block List.mem_cons_self
  obtain ⟨heap, hset, hnext, hdata', hblocks⟩ := Heap.setNext_spec hdata none
  have hlength : s.queue.length = ps.length + 1 := h.length_eq
  obtain ⟨hp, -⟩ := List.nodup_cons.mp h.chain.nodup
  have hdequeue : s.queue.dequeue s.heap =
      some (⟨if ps.length + 1 > 1 then s.heap.next p else none,
        if ps.length + 1 > 1 then s.queue.tail else none, s.queue.dataSize, ps.length⟩,
        heap, some p) := by
    rw [Queue.dequeue, if_neg (by omega), h.chain.1, Option.bind_eq_bind, Option.bind_some,
      Heap.nodes_eq hdata, Option.bind_eq_bind, Option.bind_some, hset, hlength]
    split <;> rfl
  obtain ⟨hhead, htail⟩ : (if ps.length + 1 > 1 then s.heap.next p else none) = s.heap.next p ∧
      (if ps.length + 1 > 1 then s.queue.tail else none) = ps.getLast? := by
    rw [h.tail_eq]
    cases ps with
    | nil => exact ⟨h.chain.2.symm, rfl⟩
    | cons q ps => exact ⟨if_pos (by simp), if_pos (by simp)⟩
  refine ⟨_, _, hdequeue, ⟨h.dataSize_eq, ?_, htail, rfl, ?_, ?_⟩, ?_⟩
  · rw [hhead, hnext]
    exact h.chain.2.update hp none
  · refine (h.owns.congr hdata' hblocks).perm ?_
    rw [List.cons_append, ← List.append_assoc]
    exact (List.perm_append_singleton p _).symm
  · intro q hq
    rw [hnext]
    obtain hq | hq := List.mem_append.mp hq
    · by_cases heq : q = p
      · rw [heq, Function.update_self]
      · rw [Function.update_of_ne heq]
        exact h.next_detached q hq
    · rw [List.mem_singleton.mp hq, Function.update_self]
  · funext q
    rw [Heap.valueOf, Heap.valueOf, hdata', hblocks]

/-- **A node that has been taken out is freed**: the queue is as before. -/
lemma Inv.nodeFree (h : Inv n s ps) {p : Addr} (hp : p ∈ s.detached) :
    ∃ heap, s.heap.nodeFree p = some heap ∧
      Inv n { s with heap := heap, detached := s.detached.erase p } ps ∧
      ∀ q ∈ ps, heap.valueOf q = s.heap.valueOf q := by
  have hperm : (ps ++ s.detached).Perm (p :: (ps ++ s.detached.erase p)) :=
    ((List.perm_cons_erase hp).append_left ps).trans List.perm_middle
  obtain ⟨heap, hfree, hnext, howns, hvalues⟩ :=
    (h.owns.perm hperm).nodeFree (h.next_detached p hp)
  refine ⟨heap, hfree, ⟨h.dataSize_eq, ?_, h.tail_eq, h.length_eq, howns, fun q hq => ?_⟩,
    fun q hq => hvalues q (List.mem_append_left _ hq)⟩
  · rw [hnext]
    exact h.chain
  · rw [hnext]
    exact h.next_detached q (List.mem_of_mem_erase hq)

/-! ### Runs -/

/-- One call. -/
abbrev QueueTransition := Machine.Transition QueueState QueueCall (Option Addr)

/-- What the calls put into the queue, in their order. -/
def enqueued (dataSize : ℕ) (ts : List QueueTransition) : List (List UInt8) :=
  ts.filterMap fun t => t.act.data? dataSize

/-- The data of the nodes that the calls take out, in their order. -/
def dequeued (ts : List QueueTransition) : List (Option (List UInt8)) :=
  ts.filterMap fun t => t.out.map t.post.heap.valueOf

/-- The node `p` is linked to none, and is not in the queue. -/
def IsDetached (s : QueueState) (p : Addr) : Prop :=
  (∃ block, s.heap.nodes p = some ⟨block, none⟩) ∧ ¬Reaches s.heap.next s.queue.head p

lemma Inv.isDetached (h : Inv n s ps) {p : Addr} (hp : p ∈ s.detached) : s.IsDetached p := by
  obtain ⟨block, -, hdata, -⟩ := h.owns.exists_block (List.mem_append_right ps hp)
  refine ⟨⟨block, ?_⟩, fun hreach => ?_⟩
  · rw [Heap.nodes_eq hdata, h.next_detached p hp]
  · exact List.disjoint_of_nodup_append h.owns.nodup (h.chain.mem_iff.mpr hreach) hp

/-- **One call**: what is put into the queue comes behind what is in it, and what is taken out comes
from the front of it. -/
lemma step_inv (h : Inv n s ps) {c : QueueCall} {o : Option Addr}
    (hstep : s.step c = some (s', o)) :
    ∃ ps', Inv n s' ps' ∧
      ps.map s.heap.valueOf ++ ((c.data? n).map some).toList =
        (o.map s'.heap.valueOf).toList ++ ps'.map s'.heap.valueOf ∧
      ∀ p, o = some p → p ∈ s'.detached := by
  cases c with
  | enqueue data p block =>
      obtain ⟨⟨queue, heap⟩, henq, heq⟩ := Option.map_eq_some_iff.mp hstep
      cases heq
      obtain ⟨h₁, hinit, -⟩ := Option.bind_eq_some_iff.mp henq
      obtain ⟨hfree, -⟩ := Option.ite_none_right_eq_some.mp hinit
      obtain ⟨queue', heap', henq', hinv, hvalue, hkept⟩ := h.enqueue data hfree
      cases henq.symm.trans henq'
      refine ⟨ps ++ [p], hinv, ?_, fun p hp => by cases hp⟩
      rw [List.map_append, List.map_congr_left hkept, List.map_singleton, hvalue]
      rfl
  | dequeue =>
      obtain ⟨⟨queue, heap, node⟩, hdeq, heq⟩ := Option.map_eq_some_iff.mp hstep
      cases heq
      cases ps with
      | nil =>
          cases hdeq.symm.trans h.dequeue_nil
          refine ⟨[], ?_, rfl, fun p hp => by cases hp⟩
          rw [Option.toList_none, List.append_nil]
          exact h
      | cons p ps =>
          obtain ⟨queue', heap', hdeq', hinv, hvalue⟩ := h.dequeue_cons
          cases hdeq.symm.trans hdeq'
          refine ⟨ps, hinv, ?_, fun q hq => ?_⟩
          · rw [List.map_cons, hvalue]
            simp [QueueCall.data?]
          · cases hq
            simp
  | nodeFree p =>
      obtain ⟨hp, hmap⟩ := Option.ite_none_right_eq_some.mp hstep
      obtain ⟨heap, hfree, heq⟩ := Option.map_eq_some_iff.mp hmap
      cases heq
      obtain ⟨heap', hfree', hinv, hkept⟩ := h.nodeFree hp
      cases hfree.symm.trans hfree'
      refine ⟨ps, hinv, ?_, fun p hp => by cases hp⟩
      rw [List.map_congr_left hkept]
      simp [QueueCall.data?]

/-- **A run of calls**, likewise. -/
lemma run_inv {ts : List QueueTransition} {heap : Heap}
    (hrun : Machine.Run step ⟨heap, queueInit n, []⟩ ts s) :
    ∃ ps, Inv n s ps ∧ dequeued ts ++ ps.map s.heap.valueOf = (enqueued n ts).map some ∧
      ∀ t ∈ ts, ∀ p, t.out = some p → p ∈ t.post.detached ∧ t.post.IsDetached p := by
  refine hrun.history (P := fun ts s => ∃ ps, Inv n s ps ∧
      dequeued ts ++ ps.map s.heap.valueOf = (enqueued n ts).map some ∧
      ∀ t ∈ ts, ∀ p, t.out = some p → p ∈ t.post.detached ∧ t.post.IsDetached p)
    (fun ts s c s' o ⟨ps, h, hvalues, hout⟩ _ hstep => ?_) (fun _ _ => trivial)
    ⟨[], inv_queueInit n heap, rfl, List.forall_mem_nil _⟩
  obtain ⟨ps', h', hvalues', hout'⟩ := step_inv h hstep
  have henqueued : (enqueued n (ts ++ [⟨s, c, o, s'⟩])).map some =
      (enqueued n ts).map some ++ ((c.data? n).map some).toList := by
    rw [enqueued, List.filterMap_append, List.map_append, enqueued]
    cases c <;> rfl
  have hdequeued : dequeued (ts ++ [⟨s, c, o, s'⟩]) =
      dequeued ts ++ (o.map s'.heap.valueOf).toList := by
    rw [dequeued, List.filterMap_append, dequeued]
    cases o <;> rfl
  refine ⟨ps', h', ?_, List.forall_mem_append.mpr ⟨hout, List.forall_mem_singleton.mpr ?_⟩⟩
  · calc
      dequeued (ts ++ [⟨s, c, o, s'⟩]) ++ ps'.map s'.heap.valueOf
          = dequeued ts ++ ((o.map s'.heap.valueOf).toList ++ ps'.map s'.heap.valueOf) := by
            rw [hdequeued, List.append_assoc]
      _ = dequeued ts ++ ps.map s.heap.valueOf ++ ((c.data? n).map some).toList := by
            rw [← hvalues', List.append_assoc]
      _ = (enqueued n (ts ++ [⟨s, c, o, s'⟩])).map some := by rw [hvalues, henqueued]
  · exact fun p hp => ⟨hout' p hp, h'.isDetached (hout' p hp)⟩

/-- The queue consists of the nodes `ps`, its fields agree with them, and the nodes that it has
handed out are not linked to it. -/
structure IsChain (s : QueueState) (ps : List Addr) : Prop where
  chain : Chain s.heap.next s.queue.head ps
  isSome_nodes : ∀ p ∈ ps, (s.heap.nodes p).isSome
  ncard_eq : {p | Reaches s.heap.next s.queue.head p}.ncard = s.queue.length
  head_iff : s.queue.head = none ↔ s.queue.length = 0
  tail_iff : s.queue.tail = none ↔ s.queue.length = 0
  tail_eq : s.queue.tail = ps.getLast?
  detached : ∀ p ∈ s.detached, s.IsDetached p

lemma Inv.isChain (h : Inv n s ps) : s.IsChain ps := by
  refine ⟨h.chain, fun p hp => ?_, ?_, ?_, ?_, h.tail_eq, fun p hp => h.isDetached hp⟩
  · obtain ⟨block, bytes, hdata, -⟩ := h.owns.exists_block (List.mem_append_left _ hp)
    rw [Heap.nodes_eq hdata]
    rfl
  · rw [h.chain.ncard_eq, h.length_eq]
  · rw [h.chain.head_eq, h.length_eq, List.head?_eq_none_iff, List.length_eq_zero_iff]
  · rw [h.tail_eq, h.length_eq, List.getLast?_eq_none_iff, List.length_eq_zero_iff]

/-- No call follows a pointer to where no node is. -/
structure Proceeds (s : QueueState) : Prop where
  enqueue : ∀ data p block, s.heap.IsFree p ∧ s.heap.IsFree block ∧ block ≠ p →
    (s.step (.enqueue data p block)).isSome
  dequeue : (s.step .dequeue).isSome
  nodeFree : ∀ p ∈ s.detached, (s.step (.nodeFree p)).isSome

lemma Inv.proceeds (h : Inv n s ps) : s.Proceeds := by
  refine ⟨fun data p block hfree => ?_, ?_, fun p hp => ?_⟩
  · obtain ⟨queue, heap, henq, -⟩ := h.enqueue data hfree
    rw [step, henq]
    rfl
  · cases ps with
    | nil =>
        rw [step, h.dequeue_nil]
        rfl
    | cons p ps =>
        obtain ⟨queue, heap, hdeq, -⟩ := h.dequeue_cons
        rw [step, hdeq]
        rfl
  · obtain ⟨heap, hfree, -⟩ := h.nodeFree hp
    rw [step, if_pos hp, hfree]
    rfl

/-- **The linked queue is first in, first out**, over every run of calls on any heap, in which the
nodes that have been taken out may be freed: the nodes that are reached from `head` are as many as
`length` says, and what has been taken out, followed by what they hold, is what has been put in.  A
node that is taken out is linked to none and not in the queue, also later on. -/
theorem queue_fifo {dataSize : ℕ} {heap : Heap} {ts : List QueueTransition}
    (hrun : Machine.Run step ⟨heap, queueInit dataSize, []⟩ ts s) :
    ∃ ps, s.IsChain ps ∧ dequeued ts ++ ps.map s.heap.valueOf = (enqueued dataSize ts).map some ∧
      (∀ t ∈ ts, ∀ p, t.out = some p → p ∈ t.post.detached ∧ t.post.IsDetached p) ∧
      s.Proceeds := by
  obtain ⟨ps, hinv, hvalues, hout⟩ := run_inv hrun
  exact ⟨ps, hinv.isChain, hvalues, hout, hinv.proceeds⟩

/-- Two elements are put into the queue, one is taken out, and its node is freed. -/
theorem queue_fifo_two : ∃ ts s,
    Machine.Run step ⟨⟨fun _ => none, fun _ => none⟩, queueInit 1, []⟩ ts s ∧
    ts.map (·.act) = [.enqueue (fun _ => 120) 1 2, .enqueue (fun _ => 121) 3 4, .dequeue,
      .nodeFree 1] ∧
    ∃ ps, s.IsChain ps ∧ dequeued ts ++ ps.map s.heap.valueOf = (enqueued 1 ts).map some ∧
      (∀ t ∈ ts, ∀ p, t.out = some p → p ∈ t.post.detached ∧ t.post.IsDetached p) ∧
      s.Proceeds :=
  ⟨_, _, .cons rfl (.cons rfl (.cons rfl (.cons rfl (.nil _)))), rfl,
    queue_fifo (.cons rfl (.cons rfl (.cons rfl (.cons rfl (.nil _)))))⟩

end QueueState

end Megaphone
