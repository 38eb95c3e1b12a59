import Megaphone.DataStructures.Queue

/-!
`enqueue` and `dequeue` of `queue.c`, one access to the shared memory after the other.

* `EnqueueAt`, `DequeueAt`: where a call is, with its local variables; `EnqueueAt.step` and
  `DequeueAt.step` are its next access.
* `enqueue_eq_run`, `dequeue_eq_run`: the accesses in their order are the functions.
* `Linking`, `Unlinking`: what the queue is while a call is at work, `Linking.step` and
  `Unlinking.step`: what an access does to it, when no call of the other function is at work.
* `Queue.nodes`: the nodes that `head` and `length` give, also then.
-/

namespace Megaphone

open Chains

/-! ### The accesses -/

/-- Where `enqueue` is, behind `node_init`.

* `test`: before the test of `length`;
* `setHead`: before the write of `head`;
* `loadTail`, `setNext tail`: before the read of `tail`, and before the write of `tail->next`;
* `setTail`: before the write of `tail`;
* `loadLength`, `setLength length`: before the read of `length`, and before its write. -/
inductive EnqueueAt
  | test
  | setHead
  | loadTail
  | setNext (tail : Option Addr)
  | setTail
  | loadLength
  | setLength (length : ℕ)

/-- Where `dequeue` is.

* `test`: before the first test of `length`;
* `loadHead`: before the read of `head` into `node`;
* `compare node`: before the second test of `length`;
* `loadFirst node`, `loadNext node first`: before the reads of `head` and of `head->next`;
* `setHead node next`: before the write of `head`;
* `clearHead node`, `clearTail node`: before the writes of `NULL`;
* `loadLength node`, `setLength node length`: before the read of `length`, and before its write;
* `unlink node`: before the write of `node->next`. -/
inductive DequeueAt
  | test
  | loadHead
  | compare (node : Option Addr)
  | loadFirst (node : Option Addr)
  | loadNext (node first : Option Addr)
  | setHead (node next : Option Addr)
  | clearHead (node : Option Addr)
  | clearTail (node : Option Addr)
  | loadLength (node : Option Addr)
  | setLength (node : Option Addr) (length : ℕ)
  | unlink (node : Option Addr)

/-- The next access of `enqueue` with the node `new`, and where the call is then, `none` when it
returns. -/
def EnqueueAt.step (new : Addr) (queue : Queue) (h : Heap) :
    EnqueueAt → Option (Queue × Heap × Option EnqueueAt)
  | .test => some (queue, h, some (if queue.length = 0 then .setHead else .loadTail))
  | .setHead => some ({ queue with head := some new }, h, some .setTail)
  | .loadTail => some (queue, h, some (.setNext queue.tail))
  | .setNext tail => do
      let tail ← tail
      let h ← h.setNext tail (some new)
      some (queue, h, some .setTail)
  | .setTail => some ({ queue with tail := some new }, h, some .loadLength)
  | .loadLength => some (queue, h, some (.setLength queue.length))
  | .setLength length => some ({ queue with length := (length + 1) % 2 ^ 64 }, h, none)

/-- The next access of `dequeue`, and where the call is then, or what it returns. -/
def DequeueAt.step (queue : Queue) (h : Heap) :
    DequeueAt → Option (Queue × Heap × (DequeueAt ⊕ Option Addr))
  | .test => some (queue, h, if queue.length = 0 then .inr none else .inl .loadHead)
  | .loadHead => some (queue, h, .inl (.compare queue.head))
  | .compare node =>
      some (queue, h, .inl (if queue.length > 1 then .loadFirst node else .clearHead node))
  | .loadFirst node => some (queue, h, .inl (.loadNext node queue.head))
  | .loadNext node first => do
      let first ← first
      let first ← h.nodes first
      some (queue, h, .inl (.setHead node first.next))
  | .setHead node next => some ({ queue with head := next }, h, .inl (.loadLength node))
  | .clearHead node => some ({ queue with head := none }, h, .inl (.clearTail node))
  | .clearTail node => some ({ queue with tail := none }, h, .inl (.loadLength node))
  | .loadLength node => some (queue, h, .inl (.setLength node queue.length))
  | .setLength node length => some ({ queue with length := length - 1 }, h, .inl (.unlink node))
  | .unlink node => do
      let p ← node
      let h ← h.setNext p none
      some (queue, h, .inr (some p))

/-! ### The accesses of one call alone -/

/-- A call of `enqueue`, when nothing falls between its accesses. -/
def EnqueueAt.run (new : Addr) : ℕ → EnqueueAt → Queue → Heap → Option (Queue × Heap)
  | 0, _, _, _ => none
  | n + 1, loc, queue, h => do
      let (queue, h, next) ← loc.step new queue h
      match next with
      | some loc => run new n loc queue h
      | none => some (queue, h)

/-- And one of `dequeue`. -/
def DequeueAt.run : ℕ → DequeueAt → Queue → Heap → Option (Queue × Heap × Option Addr)
  | 0, _, _, _ => none
  | n + 1, loc, queue, h => do
      let (queue, h, next) ← loc.step queue h
      match next with
      | .inl loc => run n loc queue h
      | .inr node => some (queue, h, node)

variable {new : Addr} {queue queue' : Queue} {h h' : Heap}

lemma EnqueueAt.run_succ {n : ℕ} {loc loc' : EnqueueAt}
    (hstep : loc.step new queue h = some (queue', h', some loc')) :
    EnqueueAt.run new (n + 1) loc queue h = EnqueueAt.run new n loc' queue' h' := by
  rw [EnqueueAt.run, hstep]
  rfl

lemma DequeueAt.run_succ {n : ℕ} {loc loc' : DequeueAt}
    (hstep : loc.step queue h = some (queue', h', .inl loc')) :
    DequeueAt.run (n + 1) loc queue h = DequeueAt.run n loc' queue' h' := by
  rw [DequeueAt.run, hstep]
  rfl

lemma DequeueAt.run_of_none {n : ℕ} {loc : DequeueAt} (hstep : loc.step queue h = none) :
    DequeueAt.run (n + 1) loc queue h = none := by
  rw [DequeueAt.run, hstep]
  rfl

/-- **The accesses of `enqueue`** in their order are the function. -/
theorem enqueue_eq_run (queue : Queue) (h : Heap) (data : ℕ → UInt8) (p block : Addr) :
    queue.enqueue h data p block =
      (h.nodeInit data queue.dataSize p block).bind fun h => EnqueueAt.run p 6 .test queue h := by
  rw [Queue.enqueue]
  refine congrArg _ (funext fun h => ?_)
  by_cases hempty : queue.length = 0
  · have htest : EnqueueAt.test.step p queue h = some (queue, h, some .setHead) := by
      rw [EnqueueAt.step, if_pos hempty]
    rw [EnqueueAt.run_succ htest]
    exact if_pos hempty
  · have htest : EnqueueAt.test.step p queue h = some (queue, h, some .loadTail) := by
      rw [EnqueueAt.step, if_neg hempty]
    rw [EnqueueAt.run_succ htest, EnqueueAt.run_succ rfl]
    refine (if_neg hempty).trans ?_
    cases queue.tail with
    | none => rfl
    | some tail =>
        cases hset : h.setNext tail (some p) <;> simp [EnqueueAt.run, EnqueueAt.step, hset]

/-- The accesses of `dequeue` behind the write of `tail`, or of `head`. -/
lemma DequeueAt.run_loadLength (queue : Queue) (h : Heap) (p : Addr) (n : ℕ) :
    DequeueAt.run (n + 3) (.loadLength (some p)) queue h =
      (h.setNext p none).map fun h => ({ queue with length := queue.length - 1 }, h, some p) := by
  rw [DequeueAt.run_succ rfl, DequeueAt.run_succ rfl, DequeueAt.run, DequeueAt.step]
  cases hset : h.setNext p none <;> simp [hset]

/-- **The accesses of `dequeue`** in their order are the function. -/
theorem dequeue_eq_run (queue : Queue) (h : Heap) :
    queue.dequeue h = DequeueAt.run 9 .test queue h := by
  rw [Queue.dequeue]
  by_cases hempty : queue.length = 0
  · rw [if_pos hempty, DequeueAt.run, DequeueAt.step, if_pos hempty]
    rfl
  · have htest : DequeueAt.test.step queue h = some (queue, h, .inl .loadHead) := by
      rw [DequeueAt.step, if_neg hempty]
    rw [if_neg hempty, DequeueAt.run_succ htest, DequeueAt.run_succ rfl]
    by_cases hlength : queue.length > 1
    · have hcompare : (DequeueAt.compare queue.head).step queue h =
          some (queue, h, .inl (.loadFirst queue.head)) := by
        rw [DequeueAt.step, if_pos hlength]
      rw [DequeueAt.run_succ hcompare, DequeueAt.run_succ rfl]
      cases hhead : queue.head with
      | none => rw [DequeueAt.run_of_none rfl]; rfl
      | some p =>
          cases hnode : h.nodes p with
          | none =>
              have hnext : (DequeueAt.loadNext (some p) (some p)).step queue h = none := by
                simp [DequeueAt.step, hnode]
              rw [DequeueAt.run_of_none hnext]
              simp [hnode]
          | some node =>
              have hnext : (DequeueAt.loadNext (some p) (some p)).step queue h =
                  some (queue, h, .inl (.setHead (some p) node.next)) := by
                simp [DequeueAt.step, hnode]
              rw [DequeueAt.run_succ hnext, DequeueAt.run_succ rfl, DequeueAt.run_loadLength]
              simp [hnode, hlength, Heap.setNext]
    · have hcompare : (DequeueAt.compare queue.head).step queue h =
          some (queue, h, .inl (.clearHead queue.head)) := by
        rw [DequeueAt.step, if_neg hlength]
      rw [DequeueAt.run_succ hcompare, DequeueAt.run_succ rfl, DequeueAt.run_succ rfl]
      cases hhead : queue.head with
      | none =>
          rw [DequeueAt.run_succ rfl, DequeueAt.run_succ rfl, DequeueAt.run_of_none rfl]
          rfl
      | some p =>
          rw [DequeueAt.run_loadLength]
          cases hnode : h.nodes p <;> simp [hnode, hlength, Heap.setNext]

/-! ### The nodes of a queue -/

/-- The nodes that `head` and `length` give. -/
def Queue.nodes (queue : Queue) (h : Heap) : List Addr := follow h.next queue.length queue.head

variable {n : ℕ} {p : Addr} {held ps qs : List Addr}

lemma Queue.nodes_eq (hchain : Chain h.next queue.head (ps ++ qs))
    (hlength : queue.length = ps.length) : queue.nodes h = ps := by
  rw [nodes, hchain.follow_eq, hlength, List.take_left]

lemma Queue.nodes_eq_of_le (hchain : Chain h.next queue.head ps) (hle : ps.length ≤ queue.length) :
    queue.nodes h = ps := by
  rw [nodes, hchain.follow_eq, List.take_of_length_le hle]

lemma QueueState.Inv.nodes_eq (hinv : QueueState.Inv n ⟨h, queue, held⟩ ps) :
    queue.nodes h = ps :=
  Queue.nodes_eq_of_le hinv.chain hinv.length_eq.ge

/-! ### While `enqueue` is at work -/

/-- The new node is not in the queue of the nodes `ps`. -/
def Unlinked (new : Addr) (ps : List Addr) (queue : Queue) (h : Heap) : Prop :=
  Chain h.next queue.head ps ∧ h.next new = none ∧ queue.tail = ps.getLast?

/-- What the fields are where `enqueue` is. -/
def EnqueueAt.Links (new : Addr) (ps : List Addr) (queue : Queue) (h : Heap) : EnqueueAt → Prop
  | .test => Unlinked new ps queue h
  | .setHead => Unlinked new ps queue h ∧ ps = []
  | .loadTail => Unlinked new ps queue h ∧ ps ≠ []
  | .setNext tail => Unlinked new ps queue h ∧ ps ≠ [] ∧ tail = ps.getLast?
  | .setTail => Chain h.next queue.head (ps ++ [new])
  | .loadLength => Chain h.next queue.head (ps ++ [new]) ∧ queue.tail = some new
  | .setLength length =>
      Chain h.next queue.head (ps ++ [new]) ∧ queue.tail = some new ∧ length = ps.length

/-- `enqueue` of the node `new` is at `loc`; `held` are nodes that the queue has handed out. -/
structure Linking (n : ℕ) (new : Addr) (held ps : List Addr) (queue : Queue) (h : Heap)
    (loc : EnqueueAt) : Prop where
  dataSize_eq : queue.dataSize = n
  length_eq : queue.length = ps.length
  length_lt : ps.length + 1 < 2 ^ 64
  owns : h.Owns (ps ++ [new] ++ held)
  next_held : ∀ p ∈ held, h.next p = none
  links : loc.Links new ps queue h

/-- Until `length` is written, the queue has the nodes that it had. -/
lemma Linking.nodes_eq {loc : EnqueueAt} (hl : Linking n new held ps queue h loc) :
    queue.nodes h = ps := by
  have hlinks := hl.links
  cases loc with
  | test => exact Queue.nodes_eq_of_le hlinks.1 hl.length_eq.ge
  | setHead => exact Queue.nodes_eq_of_le hlinks.1.1 hl.length_eq.ge
  | loadTail => exact Queue.nodes_eq_of_le hlinks.1.1 hl.length_eq.ge
  | setNext tail => exact Queue.nodes_eq_of_le hlinks.1.1 hl.length_eq.ge
  | setTail => exact Queue.nodes_eq hlinks hl.length_eq
  | loadLength => exact Queue.nodes_eq hlinks.1 hl.length_eq
  | setLength length => exact Queue.nodes_eq hlinks.1 hl.length_eq

/-- **`node_init`**: `enqueue` begins. -/
lemma QueueState.Inv.linking (hinv : QueueState.Inv n ⟨h, queue, held⟩ ps) {data : ℕ → UInt8}
    {block : Addr} (hinit : h.nodeInit data n new block = some h') :
    Linking n new held ps queue h' .test ∧ h'.valueOf new = some (Memory.read data 0 n) ∧
      ∀ q ∈ ps ++ held, h'.valueOf q = h.valueOf q := by
  obtain ⟨⟨hnew, -, -⟩, hnext, -, -⟩ := Heap.nodeInit_spec hinit
  obtain ⟨howns, hvalue, hvalues, hblock⟩ := hinv.owns.nodeInit hinit
  have hlength := howns.length_lt hblock
  rw [List.length_append] at hlength
  have hnone : h.next new = none := by
    rw [Heap.next, hnew.1]
    rfl
  have hperm : (new :: (ps ++ held)).Perm (ps ++ [new] ++ held) := by
    rw [List.append_assoc, List.singleton_append]
    exact List.perm_middle.symm
  refine ⟨⟨hinv.dataSize_eq, hinv.length_eq, by omega, howns.perm hperm, ?_, ?_⟩, hvalue, hvalues⟩
  · rw [hnext]
    exact hinv.next_detached
  · refine ⟨?_, ?_, hinv.tail_eq⟩
    · rw [hnext]
      exact hinv.chain
    · rw [hnext, hnone]

/-- How many accesses `enqueue` has still to make, at most. -/
def EnqueueAt.rank : EnqueueAt → ℕ
  | .test => 5
  | .setHead => 3
  | .loadTail => 4
  | .setNext _ => 3
  | .setTail => 2
  | .loadLength => 1
  | .setLength _ => 0

/-- **The write of `tail->next`** links the new node behind the others. -/
lemma Linking.setNext (hl : Linking n new held ps queue h (.setNext ps.getLast?)) :
    ∃ h', (EnqueueAt.setNext ps.getLast?).step new queue h = some (queue, h', some .setTail) ∧
      Linking n new held ps queue h' .setTail ∧ h'.valueOf = h.valueOf := by
  obtain ⟨⟨hchain, hnone, -⟩, hne, -⟩ := hl.links
  have hlast := List.getLast?_eq_some_getLast hne
  have hmem := List.getLast_mem hne
  obtain ⟨block, bytes, hdata, -⟩ := hl.owns.exists_block
    (List.mem_append_left held (List.mem_append_left [new] hmem))
  obtain ⟨h', hset, hnext, hdata', hblocks⟩ := Heap.setNext_spec hdata (some new)
  have hnodup := hl.owns.nodup
  have hnew : new ∉ ps := fun hmem' =>
    List.disjoint_of_nodup_append (List.nodup_append.mp hnodup).1 hmem' (List.mem_singleton_self _)
  refine ⟨h', ?_, ⟨hl.dataSize_eq, hl.length_eq, hl.length_lt, hl.owns.congr hdata' hblocks,
    fun q hq => ?_, ?_⟩, ?_⟩
  · rw [EnqueueAt.step, hlast, Option.bind_eq_bind, Option.bind_some, hset]
    rfl
  · have hqlast : q ≠ ps.getLast hne := fun heq =>
      List.disjoint_of_nodup_append hnodup (List.mem_append_left [new] hmem) (heq ▸ hq)
    rw [hnext, Function.update_of_ne hqlast]
    exact hl.next_held q hq
  · show Chain h'.next queue.head (ps ++ [new])
    rw [hnext]
    exact hchain.concat hlast hnew hnone
  · funext q
    rw [Heap.valueOf, Heap.valueOf, hdata', hblocks]

/-- **An access of `enqueue`**, when no call of `dequeue` is at work: the call goes on, or the new
node is in the queue. -/
lemma Linking.step {loc : EnqueueAt} (hl : Linking n new held ps queue h loc) :
    (∃ queue' h' loc', loc.step new queue h = some (queue', h', some loc') ∧
      Linking n new held ps queue' h' loc' ∧ h'.valueOf = h.valueOf ∧ loc'.rank < loc.rank) ∨
    ∃ queue', loc.step new queue h = some (queue', h, none) ∧
      QueueState.Inv n ⟨h, queue', held⟩ (ps ++ [new]) := by
  have hlinks := hl.links
  cases loc with
  | test =>
      by_cases hempty : queue.length = 0
      · refine .inl ⟨queue, h, .setHead, ?_, { hl with links := ⟨hlinks, ?_⟩ }, rfl, ?_⟩
        · rw [EnqueueAt.step, if_pos hempty]
        · exact List.eq_nil_of_length_eq_zero (hl.length_eq.symm.trans hempty)
        · exact Nat.lt_of_sub_eq_succ rfl
      · refine .inl ⟨queue, h, .loadTail, ?_, { hl with links := ⟨hlinks, ?_⟩ }, rfl, ?_⟩
        · rw [EnqueueAt.step, if_neg hempty]
        · rintro rfl
          exact hempty hl.length_eq
        · exact Nat.lt_of_sub_eq_succ rfl
  | setHead =>
      obtain ⟨⟨-, hnone, -⟩, rfl⟩ := hlinks
      exact .inl ⟨_, h, .setTail, rfl, { hl with links := ⟨rfl, hnone⟩ }, rfl,
        Nat.lt_of_sub_eq_succ rfl⟩
  | loadTail =>
      exact .inl ⟨queue, h, _, rfl, { hl with links := ⟨hlinks.1, hlinks.2, hlinks.1.2.2⟩ }, rfl,
        Nat.lt_of_sub_eq_succ rfl⟩
  | setNext tail =>
      obtain ⟨hbefore, hne, rfl⟩ := hlinks
      obtain ⟨h', hstep, hl', hvalues⟩ := hl.setNext
      exact .inl ⟨queue, h', _, hstep, hl', hvalues, Nat.lt_of_sub_eq_succ rfl⟩
  | setTail =>
      exact .inl ⟨_, h, _, rfl, { hl with links := ⟨hlinks, rfl⟩ }, rfl, Nat.lt_of_sub_eq_succ rfl⟩
  | loadLength =>
      exact .inl ⟨queue, h, _, rfl, { hl with links := ⟨hlinks.1, hlinks.2, hl.length_eq⟩ }, rfl,
        Nat.lt_of_sub_eq_succ rfl⟩
  | setLength length =>
      obtain ⟨hchain, htail, rfl⟩ := hlinks
      refine .inr ⟨_, rfl, hl.dataSize_eq, hchain, ?_, ?_, hl.owns, hl.next_held⟩
      · rw [List.getLast?_concat]
        exact htail
      · rw [List.length_append, List.length_singleton]
        exact Nat.mod_eq_of_lt hl.length_lt

/-- A node that has been handed out may be freed meanwhile. -/
lemma Linking.nodeFree {loc : EnqueueAt} (hl : Linking n new [p] ps queue h loc) :
    ∃ h', h.nodeFree p = some h' ∧ Linking n new [] ps queue h' loc ∧
      ∀ q ∈ ps ++ [new], h'.valueOf q = h.valueOf q := by
  have hperm : (ps ++ [new] ++ [p]).Perm (p :: (ps ++ [new])) := List.perm_append_singleton p _
  obtain ⟨h', hfree, hnext, howns, hvalues⟩ :=
    (hl.owns.perm hperm).nodeFree (hl.next_held p (List.mem_singleton_self p))
  refine ⟨h', hfree, ⟨hl.dataSize_eq, hl.length_eq, hl.length_lt, ?_, nofun, ?_⟩, hvalues⟩
  · rw [List.append_nil]
    exact howns
  · have hlinks := hl.links
    cases loc <;> simpa only [EnqueueAt.Links, Unlinked, hnext] using hlinks

/-! ### While `dequeue` is at work -/

/-- The queue of the nodes `p` and `ps`. -/
def Whole (p : Addr) (ps : List Addr) (queue : Queue) (h : Heap) : Prop :=
  Chain h.next queue.head (p :: ps) ∧ queue.tail = (p :: ps).getLast? ∧
    queue.length = ps.length + 1

/-- What the fields are where `dequeue` is, once it has found a node. -/
def DequeueAt.Unlinks (p : Addr) (ps : List Addr) (queue : Queue) (h : Heap) : DequeueAt → Prop
  | .test => False
  | .loadHead => Whole p ps queue h
  | .compare node => node = some p ∧ Whole p ps queue h
  | .loadFirst node => node = some p ∧ ps ≠ [] ∧ Whole p ps queue h
  | .loadNext node first => node = some p ∧ first = some p ∧ ps ≠ [] ∧ Whole p ps queue h
  | .setHead node next => node = some p ∧ next = ps.head? ∧ ps ≠ [] ∧ Whole p ps queue h
  | .clearHead node => node = some p ∧ ps = [] ∧ Whole p ps queue h
  | .clearTail node => node = some p ∧ ps = [] ∧ queue.head = none ∧ queue.length = 1
  | .loadLength node => node = some p ∧ Chain h.next queue.head ps ∧ queue.tail = ps.getLast? ∧
      queue.length = ps.length + 1
  | .setLength node length => node = some p ∧ Chain h.next queue.head ps ∧
      queue.tail = ps.getLast? ∧ queue.length = ps.length + 1 ∧ length = ps.length + 1
  | .unlink node => node = some p ∧ Chain h.next queue.head ps ∧ queue.tail = ps.getLast? ∧
      queue.length = ps.length

/-- `dequeue` is at `loc`, with the node `p`. -/
structure Unlinking (n : ℕ) (p : Addr) (ps : List Addr) (queue : Queue) (h : Heap)
    (loc : DequeueAt) : Prop where
  dataSize_eq : queue.dataSize = n
  owns : h.Owns (p :: ps)
  unlinks : loc.Unlinks p ps queue h

lemma Unlinking.ne_test {loc : DequeueAt} (hu : Unlinking n p ps queue h loc) : loc ≠ .test := by
  rintro rfl
  exact hu.unlinks

/-- The node that `dequeue` has taken out of the queue. -/
def DequeueAt.taken : DequeueAt → Option Addr
  | .clearTail node => node
  | .loadLength node => node
  | .setLength node _ => node
  | .unlink node => node
  | _ => none

/-- The nodes of the queue, before and behind the write of `head`. -/
lemma Unlinking.nodes_eq {loc : DequeueAt} (hu : Unlinking n p ps queue h loc) :
    loc.taken = none ∧ queue.nodes h = p :: ps ∨ loc.taken = some p ∧ queue.nodes h = ps := by
  have hwhole : Whole p ps queue h → queue.nodes h = p :: ps := fun hwhole =>
    Queue.nodes_eq_of_le hwhole.1 hwhole.2.2.ge
  have hunlinks := hu.unlinks
  cases loc with
  | test => exact hunlinks.elim
  | loadHead => exact .inl ⟨rfl, hwhole hunlinks⟩
  | compare node => exact .inl ⟨rfl, hwhole hunlinks.2⟩
  | loadFirst node => exact .inl ⟨rfl, hwhole hunlinks.2.2⟩
  | loadNext node first => exact .inl ⟨rfl, hwhole hunlinks.2.2.2⟩
  | setHead node next => exact .inl ⟨rfl, hwhole hunlinks.2.2.2⟩
  | clearHead node => exact .inl ⟨rfl, hwhole hunlinks.2.2⟩
  | clearTail node =>
      obtain ⟨hnode, rfl, hhead, -⟩ := hunlinks
      exact .inr ⟨hnode, Queue.nodes_eq_of_le hhead (Nat.zero_le _)⟩
  | loadLength node =>
      obtain ⟨hnode, hchain, -, hlength⟩ := hunlinks
      exact .inr ⟨hnode, Queue.nodes_eq_of_le hchain (by omega)⟩
  | setLength node length =>
      obtain ⟨hnode, hchain, -, hlength, -⟩ := hunlinks
      exact .inr ⟨hnode, Queue.nodes_eq_of_le hchain (by omega)⟩
  | unlink node =>
      obtain ⟨hnode, hchain, -, hlength⟩ := hunlinks
      exact .inr ⟨hnode, Queue.nodes_eq_of_le hchain (by omega)⟩

/-- How many accesses `dequeue` has still to make, at most. -/
def DequeueAt.rank : DequeueAt → ℕ
  | .test => 9
  | .loadHead => 8
  | .compare _ => 7
  | .loadFirst _ => 6
  | .loadNext _ _ => 5
  | .setHead _ _ => 4
  | .clearHead _ => 4
  | .clearTail _ => 3
  | .loadLength _ => 2
  | .setLength _ _ => 1
  | .unlink _ => 0

/-- **The first test of `length`**: the queue is empty, or the call goes on. -/
lemma QueueState.Inv.test (hinv : QueueState.Inv n ⟨h, queue, []⟩ ps) :
    ps = [] ∧ DequeueAt.test.step queue h = some (queue, h, .inr none) ∨
    ∃ p qs, ps = p :: qs ∧ DequeueAt.test.step queue h = some (queue, h, .inl .loadHead) ∧
      Unlinking n p qs queue h .loadHead := by
  have hlength : queue.length = ps.length := hinv.length_eq
  cases ps with
  | nil =>
      rw [List.length_nil] at hlength
      exact .inl ⟨rfl, by rw [DequeueAt.step, if_pos hlength]⟩
  | cons p qs =>
      rw [List.length_cons] at hlength
      have howns := hinv.owns
      rw [List.append_nil] at howns
      refine .inr ⟨p, qs, rfl, ?_, hinv.dataSize_eq, howns, hinv.chain, hinv.tail_eq, hlength⟩
      rw [DequeueAt.step, if_neg (by omega)]

/-- **The write of `node->next`**: the node is handed out. -/
lemma Unlinking.unlink (hu : Unlinking n p ps queue h (.unlink (some p))) :
    ∃ h', (DequeueAt.unlink (some p)).step queue h = some (queue, h', .inr (some p)) ∧
      QueueState.Inv n ⟨h', queue, [p]⟩ ps ∧ h'.valueOf = h.valueOf := by
  obtain ⟨-, hchain, htail, hlength⟩ := hu.unlinks
  obtain ⟨block, bytes, hdata, -⟩ := hu.owns.exists_block List.mem_cons_self
  obtain ⟨h', hset, hnext, hdata', hblocks⟩ := Heap.setNext_spec hdata none
  obtain ⟨hp, -⟩ := List.nodup_cons.mp hu.owns.nodup
  refine ⟨h', ?_, ⟨hu.dataSize_eq, ?_, htail, hlength, ?_, fun q hq => ?_⟩, ?_⟩
  · rw [DequeueAt.step, Option.bind_eq_bind, Option.bind_some, hset]
    rfl
  · rw [hnext]
    exact hchain.update hp none
  · exact (hu.owns.congr hdata' hblocks).perm (List.perm_append_singleton p ps).symm
  · rw [List.mem_singleton.mp hq, hnext, Function.update_self]
  · funext q
    rw [Heap.valueOf, Heap.valueOf, hdata', hblocks]

/-- **An access of `dequeue`**, when no call of `enqueue` is at work: the call goes on, or it hands
out the node. -/
lemma Unlinking.step {loc : DequeueAt} (hu : Unlinking n p ps queue h loc) :
    (∃ queue' loc', loc.step queue h = some (queue', h, .inl loc') ∧
      Unlinking n p ps queue' h loc' ∧ loc'.rank < loc.rank ∧
      (loc.taken = some p → loc'.taken = some p)) ∨
    ∃ h', loc.step queue h = some (queue, h', .inr (some p)) ∧
      QueueState.Inv n ⟨h', queue, [p]⟩ ps ∧ h'.valueOf = h.valueOf ∧ loc.taken = some p := by
  have hunlinks := hu.unlinks
  cases loc with
  | test => exact hunlinks.elim
  | loadHead =>
      exact .inl ⟨queue, _, rfl, { hu with unlinks := ⟨hunlinks.1.1, hunlinks⟩ },
        Nat.lt_of_sub_eq_succ rfl, nofun⟩
  | compare node =>
      obtain ⟨hnode, hwhole⟩ := hunlinks
      have hlength := hwhole.2.2
      by_cases hlt : queue.length > 1
      · refine .inl ⟨queue, .loadFirst node, ?_, { hu with unlinks := ⟨hnode, ?_, hwhole⟩ },
          Nat.lt_of_sub_eq_succ rfl, nofun⟩
        · rw [DequeueAt.step, if_pos hlt]
        · rintro rfl
          exact absurd hlength hlt.ne'
      · refine .inl ⟨queue, .clearHead node, ?_, { hu with unlinks := ⟨hnode, ?_, hwhole⟩ },
          Nat.lt_of_sub_eq_succ rfl, nofun⟩
        · rw [DequeueAt.step, if_neg hlt]
        · exact List.eq_nil_of_length_eq_zero (by omega)
  | loadFirst node =>
      obtain ⟨hnode, hne, hwhole⟩ := hunlinks
      exact .inl ⟨queue, _, rfl, { hu with unlinks := ⟨hnode, hwhole.1.1, hne, hwhole⟩ },
        Nat.lt_of_sub_eq_succ rfl, nofun⟩
  | loadNext node first =>
      obtain ⟨hnode, rfl, hne, hwhole⟩ := hunlinks
      obtain ⟨block, bytes, hdata, -⟩ := hu.owns.exists_block List.mem_cons_self
      refine .inl ⟨queue, .setHead node (h.next p), ?_,
        { hu with unlinks := ⟨hnode, hwhole.1.2.head_eq, hne, hwhole⟩ },
        Nat.lt_of_sub_eq_succ rfl, nofun⟩
      rw [DequeueAt.step, Option.bind_eq_bind, Option.bind_some, Heap.nodes_eq hdata]
      rfl
  | setHead node next =>
      obtain ⟨hnode, rfl, hne, hchain, htail, hlength⟩ := hunlinks
      refine .inl ⟨_, _, rfl, { hu with unlinks := ⟨hnode, ?_, ?_, hlength⟩ },
        Nat.lt_of_sub_eq_succ rfl, nofun⟩
      · have hhead : h.next p = ps.head? := hchain.2.head_eq
        rw [← hhead]
        exact hchain.2
      · obtain ⟨q, qs, rfl⟩ := List.exists_cons_of_ne_nil hne
        rwa [List.getLast?_cons_cons] at htail
  | clearHead node =>
      obtain ⟨hnode, rfl, hwhole⟩ := hunlinks
      exact .inl ⟨_, _, rfl, { hu with unlinks := ⟨hnode, rfl, rfl, hwhole.2.2⟩ },
        Nat.lt_of_sub_eq_succ rfl, nofun⟩
  | clearTail node =>
      obtain ⟨hnode, rfl, hhead, hlength⟩ := hunlinks
      exact .inl ⟨_, _, rfl, { hu with unlinks := ⟨hnode, hhead, rfl, hlength⟩ },
        Nat.lt_of_sub_eq_succ rfl, id⟩
  | loadLength node =>
      obtain ⟨hnode, hchain, htail, hlength⟩ := hunlinks
      exact .inl ⟨queue, _, rfl,
        { hu with unlinks := ⟨hnode, hchain, htail, hlength, hlength⟩ },
        Nat.lt_of_sub_eq_succ rfl, id⟩
  | setLength node length =>
      obtain ⟨hnode, hchain, htail, hlength, rfl⟩ := hunlinks
      exact .inl ⟨_, _, rfl, { hu with unlinks := ⟨hnode, hchain, htail, rfl⟩ },
        Nat.lt_of_sub_eq_succ rfl, id⟩
  | unlink node =>
      obtain ⟨rfl, -⟩ := hunlinks
      obtain ⟨h', hstep, hinv, hvalues⟩ := hu.unlink
      exact .inr ⟨h', hstep, hinv, hvalues, rfl⟩

end Megaphone
