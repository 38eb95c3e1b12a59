import Megaphone.Client.NotifThreads

/-!
The threads of the client refine those with whole calls of `enqueue` and `dequeue`, as long as no
two calls overlap on the same queue.

* `toData`: what the data stand for: a call of `dequeue` takes effect with the write of `head`, and
  one of `enqueue` with that of `length`.
* `QueueInv`, `Inv`: the invariant, by where the two threads are in a queue.
* `Inv.exists_userStep`, `Inv.exists_centerStep`: the threads go on, and what a step does.
* `Inv.step`, `exists_run`: a step, and a run, without overlaps.
-/

namespace Megaphone

open Memory

/-! ### What the data stand for -/

/-- The message in a node. -/
def Heap.messageAt (h : Heap) (p : Addr) : Message := .ofBytes ((h.valueOf p).getD [])

lemma Heap.messageAt_congr {h h' : Heap} {p : Addr} (heq : h'.valueOf p = h.valueOf p) :
    h'.messageAt p = h.messageAt p := by
  rw [messageAt, messageAt, heq]

lemma Heap.messageAt_eq {h : Heap} {p : Addr} {message : Message}
    (hvalue : h.valueOf p = some message.bytes) : h.messageAt p = message := by
  rw [messageAt, hvalue, Option.getD_some, Message.ofBytes_bytes]

namespace LinkedNotif

/-- The messages that the nodes of the queue hold. -/
def toNotif (x : LinkedNotif) : Notif :=
  ⟨x.nbfeed, (x.messages.nodes x.heap).map x.heap.messageAt⟩

variable {x : LinkedNotif} {messages : Queue} {heap : Heap}

/-- An entry with the same nodes, which hold what they held. -/
lemma toNotif_withQueue (hnodes : messages.nodes heap = x.messages.nodes x.heap)
    (hvalues : ∀ p ∈ x.messages.nodes x.heap, heap.valueOf p = x.heap.valueOf p) :
    (x.withQueue messages heap).toNotif = x.toNotif := by
  have hmessages := List.map_congr_left fun p hp => Heap.messageAt_congr (hvalues p hp)
  rw [toNotif, withQueue, hnodes, hmessages, toNotif]

end LinkedNotif

namespace PrintLoc

/-- Where the thread of the user is in `dequeue` on the queue of entry `k`, once it has found
`length` to be other than `0`. -/
def inside (k : ℕ) : PrintLoc → Option DequeueAt
  | .dequeuing _ _ _ _ .test => none
  | .dequeuing _ i _ _ loc => if i = k then some loc else none
  | _ => none

lemma inside_dequeuing {nbFeed i : ℕ} {ptr : Ptr} {feed : UInt16} {loc : DequeueAt}
    (hloc : loc ≠ .test) (k : ℕ) :
    inside k (.dequeuing nbFeed i ptr feed loc) = if i = k then some loc else none := by
  cases loc with
  | test => exact absurd rfl hloc
  | _ => rfl

lemma dequeues_eq {nbFeed i : ℕ} {ptr : Ptr} {feed : UInt16} {loc : DequeueAt}
    (hloc : loc ≠ .test) : dequeues (.dequeuing nbFeed i ptr feed loc) = some i := by
  cases loc with
  | test => exact absurd rfl hloc
  | _ => rfl

lemma inside_eq_none_iff {user : PrintLoc} {k : ℕ} :
    user.inside k = none ↔ user.dequeues ≠ some k := by
  cases user with
  | dequeuing nbFeed i ptr feed loc =>
      by_cases hloc : loc = .test
      · subst hloc
        exact iff_of_true rfl (Option.some_ne_none k).symm
      · rw [inside_dequeuing hloc, dequeues_eq hloc]
        simp
  | _ => exact iff_of_true rfl (Option.some_ne_none k).symm

/-- The node of entry `k` that it has been handed out. -/
def held (k : ℕ) : PrintLoc → List Addr
  | .showing _ i _ _ node => if i = k then [node] else []
  | _ => []

/-- It is at no other entry than number `i`. -/
def At (i : ℕ) : PrintLoc → Prop
  | .dequeuing _ j _ _ _ => j = i
  | .showing _ j _ _ _ => j = i
  | _ => True

lemma At.away {i k : ℕ} {user : PrintLoc} (h : user.At i) (hk : k ≠ i) :
    user.held k = [] ∧ user.inside k = none := by
  cases user with
  | dequeuing nbFeed j ptr feed loc =>
      obtain rfl : j = i := h
      cases loc <;> exact ⟨rfl, by simp [inside, Ne.symm hk]⟩
  | showing nbFeed j ptr feed node =>
      obtain rfl : j = i := h
      exact ⟨if_neg (Ne.symm hk), rfl⟩
  | _ => exact ⟨rfl, rfl⟩

/-- How many accesses it makes, at most, before `print_notif` does something that can be seen. -/
def rank : PrintLoc → ℕ
  | .dequeuing _ _ _ _ loc => loc.rank + 1
  | _ => 0

end PrintLoc

/-- Where the notifications center is in `enqueue` on the queue of entry `k`, with the new node and
its message. -/
def AddNotifLoc.inside (k : ℕ) : AddNotifLoc → Option (Addr × Message × EnqueueAt)
  | .idle => none
  | .enqueuing _ message pseudo ptr new loc =>
      if ptr.index = k then some (new, localMessage message pseudo, loc) else none

/-- What holds of an entry, by where the two threads are in its queue. -/
inductive QueueInv (x : LinkedNotif) :
    List Addr → Option DequeueAt → Option (Addr × Message × EnqueueAt) → Prop
  | rest {held ps : List Addr}
      (hinv : QueueState.Inv SIZEOF_MESSAGE ⟨x.heap, x.messages, held⟩ ps) :
      QueueInv x held none none
  | unlinking {p : Addr} {ps : List Addr} {loc : DequeueAt}
      (hu : Unlinking SIZEOF_MESSAGE p ps x.messages x.heap loc) : QueueInv x [] (some loc) none
  | linking {held ps : List Addr} {new : Addr} {message : Message} {loc : EnqueueAt}
      (hl : Linking SIZEOF_MESSAGE new held ps x.messages x.heap loc)
      (hvalue : x.heap.valueOf new = some message.bytes) :
      QueueInv x held none (some (new, message, loc))

lemma QueueInv.exists_linking {x : LinkedNotif} {held : List Addr} {u : Option DequeueAt}
    {new : Addr} {message : Message} {loc : EnqueueAt}
    (h : QueueInv x held u (some (new, message, loc))) :
    u = none ∧ ∃ ps, Linking SIZEOF_MESSAGE new held ps x.messages x.heap loc ∧
      x.heap.valueOf new = some message.bytes := by
  cases h with
  | linking hl hvalue => exact ⟨rfl, _, hl, hvalue⟩

lemma QueueInv.exists_unlinking {x : LinkedNotif} {held : List Addr} {loc : DequeueAt}
    {e : Option (Addr × Message × EnqueueAt)} (h : QueueInv x held (some loc) e) :
    e = none ∧ ∃ p ps, Unlinking SIZEOF_MESSAGE p ps x.messages x.heap loc := by
  cases h with
  | unlinking hu => exact ⟨rfl, _, _, hu⟩

lemma QueueInv.exists_rest {x : LinkedNotif} {held : List Addr} (h : QueueInv x held none none) :
    ∃ ps, QueueState.Inv SIZEOF_MESSAGE ⟨x.heap, x.messages, held⟩ ps := by
  cases h with
  | rest hinv => exact ⟨_, hinv⟩

/-- Outside of `dequeue`, the queue has as many messages as `length` says. -/
lemma QueueInv.length_eq {x : LinkedNotif} {held : List Addr}
    {e : Option (Addr × Message × EnqueueAt)} (h : QueueInv x held none e) :
    x.toNotif.messages.length = x.messages.length := by
  rw [LinkedNotif.toNotif, List.length_map]
  cases h with
  | rest hinv => rw [hinv.nodes_eq, ← hinv.length_eq]
  | linking hl hvalue => rw [hl.nodes_eq, hl.length_eq]

namespace NotifThreads

/-- The message in a node of an entry. -/
def messageAt (c : NotifThreads) (i : ℕ) (node : Addr) : Message :=
  (c.notification.toList[i]?).elim (.ofBytes []) fun x => x.heap.messageAt node

/-- Where the thread of the user is, when a call of `dequeue` takes effect with the write of
`head`. -/
def toUser (c : NotifThreads) : UserThread :=
  match c.user with
  | .idle => .idle
  | .adding sb => .adding sb
  | .printing nbFeed i => .printing nbFeed i
  | .dequeuing nbFeed i ptr feed loc =>
      match loc.taken with
      | none => .dequeuing nbFeed i ptr feed
      | some node => .showing nbFeed i ptr feed (c.messageAt i node)
  | .showing nbFeed i ptr feed node => .showing nbFeed i ptr feed (c.messageAt i node)

/-- The data and the thread of the user, when a call of `dequeue` takes effect with the write of
`head`, and one of `enqueue` with that of `length`. -/
def toData (c : NotifThreads) : NotifData :=
  ⟨c.subscriptions, c.notification.map LinkedNotif.toNotif, c.toUser⟩

/-- The entries are in order, by where the two threads are in their queues. -/
def Queues (c : NotifThreads) : Prop := ∀ k x, c.notification.toList[k]? = some x →
  QueueInv x (c.user.held k) (c.user.inside k) (c.center.inside k)

/-- The invariant of every run without overlaps. -/
structure Inv (c : NotifThreads) : Prop where
  data : c.toData.Inv
  indexed : c.toData.Indexed
  queues : c.Queues
  center : ∀ fd message pseudo ptr new loc,
    c.center = .enqueuing fd message pseudo ptr new loc → ∃ sb,
      (c.subscriptions.toList.find? fun sb => sb.multInfo.sockFd == fd) = some sb ∧ sb.notif = ptr

variable {c c' : NotifThreads} {o : NotifOut}

lemma deref_toData (c : NotifThreads) (ptr : Ptr) :
    c.toData.deref ptr = (c.deref ptr).map LinkedNotif.toNotif :=
  FullArray.deref_map _ _ _

lemma length_toData (c : NotifThreads) :
    c.toData.notification.toList.length = c.notification.toList.length := List.length_map _

/-- What a pointer reads is an entry, if its index is one. -/
lemma getElem?_of_deref {ptr : Ptr} {x : LinkedNotif} (h : c.deref ptr = some x)
    (hlt : ptr.index < c.notification.toList.length) :
    c.notification.toList[ptr.index]? = some x := by
  rw [deref, CArray.deref] at h
  split at h
  next => exact FullArray.getElem?_of_at? h hlt
  next => cases h

lemma messageAt_eq {i : ℕ} {x : LinkedNotif} (hget : c.notification.toList[i]? = some x)
    (node : Addr) : c.messageAt i node = x.heap.messageAt node := by
  rw [messageAt, hget, Option.elim_some]

/-- The entries, when one has been written. -/
lemma notification_put (ptr : Ptr) (y : LinkedNotif) :
    (c.put ptr y).notification.map LinkedNotif.toNotif =
      (c.notification.map LinkedNotif.toNotif).write ptr.index y.toNotif :=
  FullArray.map_write _ _ _ _

/-- They stand for the same, when that one does. -/
lemma notification_put_of_eq {ptr : Ptr} {x y : LinkedNotif}
    (hget : c.notification.toList[ptr.index]? = some x) (heq : y.toNotif = x.toNotif) :
    (c.put ptr y).notification.map LinkedNotif.toNotif =
      c.notification.map LinkedNotif.toNotif := by
  rw [notification_put, heq]
  refine FullArray.write_eq_self ?_
  show (c.notification.toList.map _)[ptr.index]? = _
  rw [List.getElem?_map, hget, Option.map_some]

/-- The message in a node of an entry, when one has been written. -/
lemma messageAt_put {ptr : Ptr} {x y : LinkedNotif} {i : ℕ} {node : Addr}
    (hget : c.notification.toList[ptr.index]? = some x)
    (hvalue : i = ptr.index → y.heap.valueOf node = x.heap.valueOf node) :
    (c.put ptr y).messageAt i node = c.messageAt i node := by
  rw [messageAt, messageAt, put, FullArray.toList_write]
  by_cases hi : ptr.index = i
  · subst hi
    rw [List.getElem?_set_self (List.getElem?_eq_some_iff.mp hget).1, hget, Option.elim_some,
      Option.elim_some, Heap.messageAt_congr (hvalue rfl)]
  · rw [List.getElem?_set_ne hi]

/-- The entries are in order, when one has been written, and the threads are where they were in the
queues of the others. -/
lemma queues_put {ptr : Ptr} {y : LinkedNotif} {user : PrintLoc} {center : AddNotifLoc}
    (hqueues : c.Queues)
    (hothers : ∀ k, k ≠ ptr.index → user.held k = c.user.held k ∧
      user.inside k = c.user.inside k ∧ center.inside k = c.center.inside k)
    (hy : QueueInv y (user.held ptr.index) (user.inside ptr.index) (center.inside ptr.index)) :
    ({ c.put ptr y with user := user, center := center } : NotifThreads).Queues := by
  intro k x hget
  change (c.put ptr y).notification.toList[k]? = some x at hget
  show QueueInv x (user.held k) (user.inside k) (center.inside k)
  rw [put, FullArray.toList_write] at hget
  by_cases hk : ptr.index = k
  · subst hk
    have hlt := (List.getElem?_eq_some_iff.mp hget).1
    rw [List.length_set] at hlt
    rw [List.getElem?_set_self hlt] at hget
    rw [← Option.some.inj hget]
    exact hy
  · obtain ⟨hheld, huser, hcenter⟩ := hothers k (Ne.symm hk)
    rw [List.getElem?_set_ne hk] at hget
    rw [hheld, huser, hcenter]
    exact hqueues k x hget

/-! ### The thread of the user -/

/-- What a step of the thread of the user does: nothing that can be seen, or a step of the
thread with whole calls. -/
def UserMatch (c c' : NotifThreads) (o : NotifOut) : Prop :=
  c'.toData = c.toData ∧ o = .quiet ∧ c'.user.rank < c.user.rank ∨
    NotifData.NotifStep c.toData .user c'.toData o

lemma toData_congr (hnotification : c'.notification.map LinkedNotif.toNotif =
    c.notification.map LinkedNotif.toNotif) (hsubscriptions : c'.subscriptions = c.subscriptions)
    (huser : c'.toUser = c.toUser) : c'.toData = c.toData := by
  rw [toData, toData, hnotification, hsubscriptions, huser]

lemma toUser_of_none {nbFeed i : ℕ} {ptr : Ptr} {feed : UInt16} {loc : DequeueAt}
    (huser : c.user = .dequeuing nbFeed i ptr feed loc) (htaken : loc.taken = none) :
    c.toUser = .dequeuing nbFeed i ptr feed := by
  simp only [toUser, huser, htaken]

lemma toUser_of_some {nbFeed i : ℕ} {ptr : Ptr} {feed : UInt16} {loc : DequeueAt} {p : Addr}
    (huser : c.user = .dequeuing nbFeed i ptr feed loc) (htaken : loc.taken = some p) :
    c.toUser = .showing nbFeed i ptr feed (c.messageAt i p) := by
  simp only [toUser, huser, htaken]

lemma toUser_showing {nbFeed i : ℕ} {ptr : Ptr} {feed : UInt16} {node : Addr}
    (huser : c.user = .showing nbFeed i ptr feed node) :
    c.toUser = .showing nbFeed i ptr feed (c.messageAt i node) := by
  simp only [toUser, huser]

/-- `print_notif` is at an entry, that its pointer designates. -/
lemma Inv.atEntry (hinv : c.Inv) {nbFeed i : ℕ} {ptr : Ptr} {feed : UInt16}
    (huser : (∃ loc, c.user = .dequeuing nbFeed i ptr feed loc) ∨
      ∃ node, c.user = .showing nbFeed i ptr feed node) :
    ptr.index = i ∧ ∃ x, c.notification.toList[i]? = some x ∧ c.deref ptr = some x := by
  have hat : c.toData.AtEntry nbFeed i ptr feed := by
    have hdata := hinv.data.user
    obtain ⟨loc, hloc⟩ | ⟨node, hnode⟩ := huser
    · cases htaken : loc.taken with
      | none =>
          rwa [NotifData.UserInv, show c.toData.user = _ from toUser_of_none hloc htaken] at hdata
      | some p =>
          rwa [NotifData.UserInv, show c.toData.user = _ from toUser_of_some hloc htaken] at hdata
    · rwa [NotifData.UserInv, show c.toData.user = _ from toUser_showing hnode] at hdata
  obtain ⟨hlt, hle, rfl, -⟩ := hat
  rw [length_toData] at hle
  have hget := List.getElem?_eq_getElem (lt_of_lt_of_le hlt hle)
  exact ⟨rfl, _, hget, FullArray.deref_addr hget⟩

/-- The entries are in order, when the thread of the user has written one. -/
lemma Queues.put {ptr : Ptr} {y : LinkedNotif} {user : PrintLoc} (hqueues : c.Queues)
    (hat : c.user.At ptr.index) (hat' : user.At ptr.index)
    (hy : QueueInv y (user.held ptr.index) (user.inside ptr.index)
      (c.center.inside ptr.index)) : ({ c.put ptr y with user := user } : NotifThreads).Queues := by
  refine queues_put hqueues (fun k hk => ?_) hy
  obtain ⟨hheld, hinside⟩ := hat.away hk
  obtain ⟨hheld', hinside'⟩ := hat'.away hk
  rw [hheld, hinside, hheld', hinside']
  exact ⟨rfl, rfl, rfl⟩

/-- Or when it has gone on outside of the queues. -/
lemma Queues.withUser {user : PrintLoc} (hqueues : c.Queues)
    (hsame : ∀ k, user.held k = c.user.held k ∧ user.inside k = c.user.inside k) :
    ({ c with user := user } : NotifThreads).Queues := by
  intro k x hget
  show QueueInv x (user.held k) (user.inside k) (c.center.inside k)
  rw [(hsame k).1, (hsame k).2]
  exact hqueues k x hget

/-- It is in no queue, in front of it and behind. -/
lemma Queues.outside {user : PrintLoc} (hqueues : c.Queues)
    (hnone : ∀ k, c.user.held k = [] ∧ c.user.inside k = none)
    (hnone' : ∀ k, user.held k = [] ∧ user.inside k = none) :
    ({ c with user := user } : NotifThreads).Queues := by
  refine hqueues.withUser fun k => ?_
  rw [(hnone k).1, (hnone k).2, (hnone' k).1, (hnone' k).2]
  exact ⟨rfl, rfl⟩

/-- What a step of the thread of the user leaves behind. -/
structure UserResult (c c' : NotifThreads) (o : NotifOut) : Prop where
  queues : c'.Queues
  result : UserMatch c c' o
  center_eq : c'.center = c.center
  subscriptions_eq : c'.subscriptions = c.subscriptions ∨ c.center = .idle

/-- The loop of `print_notif` goes on with an entry, or ends. -/
lemma Inv.printing (hinv : c.Inv) {nbFeed i : ℕ} (huser : c.user = .printing nbFeed i) :
    ∃ c', c.userStep = some (c', .quiet) ∧ UserResult c c' .quiet := by
  have htoUser : c.toUser = .printing nbFeed i := by simp only [toUser, huser]
  have hnone : ∀ k, c.user.held k = [] ∧ c.user.inside k = none := fun k => by
    rw [huser]
    exact ⟨rfl, rfl⟩
  by_cases hlt : i < nbFeed
  · have hdata := hinv.data.user
    rw [NotifData.UserInv, show c.toData.user = _ from htoUser, length_toData] at hdata
    have hi : i < c.notification.toList.length := lt_of_lt_of_le hlt hdata
    have hget : c.notification.toList[i]? = some c.notification.toList[i] :=
      List.getElem?_eq_getElem hi
    obtain ⟨x, hx⟩ : ∃ x, c.notification.toList[i] = x := ⟨_, rfl⟩
    rw [hx] at hget
    have hptr : c.notification.get i = some i := FullArray.get_eq_some hi.le
    have hderef : c.deref (c.notification.toCArray.addr i) = some x := FullArray.deref_addr hget
    have hderef' : c.toData.deref (c.toData.notification.toCArray.addr i) = some x.toNotif := by
      rw [deref_toData]
      exact congrArg _ hderef
    have hqueue := hinv.queues i x hget
    rw [huser] at hqueue
    have hlength := hqueue.length_eq
    have hstep : c.userStep = some (if x.messages.length > 0 then
        { c with user := .dequeuing nbFeed i (c.notification.toCArray.addr i) x.nbfeed .test }
        else { c with user := .printing nbFeed (i + 1) }, .quiet) := by
      simp only [userStep, huser, if_pos hlt, printEntry, hptr, hderef, Option.bind_eq_bind,
        Option.bind_some]
      split <;> rfl
    rw [hstep]
    by_cases hpos : x.messages.length > 0
    · rw [if_pos hpos]
      refine ⟨_, rfl, hinv.queues.outside hnone fun k => ⟨rfl, rfl⟩, .inr ?_, rfl, .inl rfl⟩
      refine .heading htoUser hlt hptr hderef' fun hnil => ?_
      rw [hnil] at hlength
      exact hpos.ne hlength
    · rw [if_neg hpos]
      refine ⟨_, rfl, hinv.queues.outside hnone fun k => ⟨rfl, rfl⟩, .inr ?_, rfl, .inl rfl⟩
      refine .skip htoUser hlt hptr hderef' (List.eq_nil_of_length_eq_zero ?_)
      omega
  · refine ⟨{ c with user := .idle }, ?_, hinv.queues.outside hnone fun k => ⟨rfl, rfl⟩,
      .inr (.printed htoUser (not_lt.mp hlt)), rfl, .inl rfl⟩
    simp only [userStep, huser, if_neg hlt]

/-- The node at hand is shown and freed. -/
lemma Inv.showing (hinv : c.Inv) {nbFeed i : ℕ} {ptr : Ptr} {feed : UInt16} {node : Addr}
    (huser : c.user = .showing nbFeed i ptr feed node) :
    ∃ c', c.userStep = some (c', .shown i feed (c.messageAt i node)) ∧
      UserResult c c' (.shown i feed (c.messageAt i node)) := by
  obtain ⟨hindex, x, hget, hderef⟩ := hinv.atEntry (.inr ⟨node, huser⟩)
  have hqueue := hinv.queues i x hget
  rw [huser, show (PrintLoc.showing nbFeed i ptr feed node).held i = [node] from if_pos rfl]
    at hqueue
  obtain ⟨bytes, heap, hvalue, hfree, hnodes, hvalues, hqueue'⟩ : ∃ bytes heap,
      x.heap.valueOf node = some bytes ∧ x.heap.nodeFree node = some heap ∧
      x.messages.nodes heap = x.messages.nodes x.heap ∧
      (∀ q ∈ x.messages.nodes x.heap, heap.valueOf q = x.heap.valueOf q) ∧
      QueueInv (x.withQueue x.messages heap) [] none (c.center.inside i) := by
    generalize c.center.inside i = e at hqueue ⊢
    cases hqueue with
    | rest hrest =>
        obtain ⟨bytes, hvalue⟩ := Option.isSome_iff_exists.mp
          (hrest.owns.isSome_valueOf node (List.mem_append_right _ (List.mem_singleton_self node)))
        obtain ⟨heap, hfree, hrest', hvalues⟩ := hrest.nodeFree (List.mem_singleton_self node)
        rw [show ([node] : List Addr).erase node = [] from List.erase_cons_head ..] at hrest'
        refine ⟨bytes, heap, hvalue, hfree, ?_, ?_, .rest hrest'⟩
        · rw [hrest'.nodes_eq, hrest.nodes_eq]
        · rw [hrest.nodes_eq]
          exact hvalues
    | @linking _ ps new message loc hl hnew =>
        obtain ⟨bytes, hvalue⟩ := Option.isSome_iff_exists.mp
          (hl.owns.isSome_valueOf node (List.mem_append_right _ (List.mem_singleton_self node)))
        obtain ⟨heap, hfree, hl', hvalues⟩ := hl.nodeFree
        refine ⟨bytes, heap, hvalue, hfree, ?_, ?_, .linking hl' ?_⟩
        · rw [hl'.nodes_eq, hl.nodes_eq]
        · rw [hl.nodes_eq]
          exact fun q hq => hvalues q (List.mem_append_left _ hq)
        · exact (hvalues new (List.mem_append_right _ (List.mem_singleton_self new))).trans hnew
  have hmessage : c.messageAt i node = .ofBytes bytes := by
    rw [messageAt_eq hget, Heap.messageAt, hvalue, Option.getD_some]
  have hget' : c.notification.toList[ptr.index]? = some x := hindex ▸ hget
  refine ⟨{ c.put ptr (x.withQueue x.messages heap) with
    user := .dequeuing nbFeed i ptr feed .test }, ?_, ?_, .inr ?_, rfl, .inl rfl⟩
  · simp only [userStep, huser, printMessage, hderef, hvalue, hfree, hmessage,
      Option.bind_eq_bind, Option.bind_some]
  · refine hinv.queues.put (by rw [huser]; exact hindex.symm) hindex.symm ?_
    rw [hindex]
    exact hqueue'
  · have hdata : ({ c.put ptr (x.withQueue x.messages heap) with
        user := .dequeuing nbFeed i ptr feed .test } : NotifThreads).toData =
          { c.toData with user := .dequeuing nbFeed i ptr feed } := by
      rw [toData, toData, ← notification_put_of_eq hget'
        (LinkedNotif.toNotif_withQueue hnodes hvalues)]
      rfl
    rw [hdata]
    exact .displayed (toUser_showing huser)

/-- **The call of `dequeue` begins**, with its first test of `length`. -/
lemma Inv.testing (hinv : c.Inv) {nbFeed i : ℕ} {ptr : Ptr} {feed : UInt16}
    (huser : c.user = .dequeuing nbFeed i ptr feed .test) :
    ∃ c', c.userStep = some (c', .quiet) ∧ c'.center = c.center ∧
      (¬c'.Overlaps → UserResult c c' .quiet) := by
  obtain ⟨hindex, x, hget, hderef⟩ := hinv.atEntry (.inl ⟨_, huser⟩)
  have hget' : c.notification.toList[ptr.index]? = some x := hindex ▸ hget
  have hput : c.put ptr x = c := by
    rw [put, FullArray.write_eq_self hget']
  have htoUser : c.toData.user = .dequeuing nbFeed i ptr feed := toUser_of_none huser rfl
  have hderef' : c.toData.deref ptr = some x.toNotif := by
    rw [deref_toData, hderef, Option.map_some]
  have hqueue := hinv.queues i x hget
  rw [huser] at hqueue
  have hlength := hqueue.length_eq
  by_cases hempty : x.messages.length = 0
  · have hnone : ∀ k, c.user.held k = [] ∧ c.user.inside k = none := fun k => by
      rw [huser]
      exact ⟨rfl, rfl⟩
    have hlast := NotifData.NotifStep.last htoUser hderef'
      (List.eq_nil_of_length_eq_zero (hlength.trans hempty))
    refine ⟨{ c with user := .printing nbFeed (i + 1) }, ?_, rfl,
      fun _ => ⟨hinv.queues.outside hnone fun k => ⟨rfl, rfl⟩, .inr hlast, rfl, .inl rfl⟩⟩
    simp only [userStep, huser, printNext, hderef, DequeueAt.step, if_pos hempty,
      Option.bind_eq_bind, Option.bind_some, Option.map_some]
    rw [show x.withQueue x.messages x.heap = x from rfl, hput]
  · refine ⟨{ c with user := .dequeuing nbFeed i ptr feed .loadHead }, ?_, rfl, fun hsep => ?_⟩
    · simp only [userStep, huser, printNext, hderef, DequeueAt.step, if_neg hempty,
        Option.bind_eq_bind, Option.bind_some, Option.map_some]
      rw [show x.withQueue x.messages x.heap = x from rfl, hput]
    · have hunlinking : QueueInv x [] (some .loadHead) (c.center.inside i) := by
        have hcenter : c.center.inside i = none := by
          cases hcenter : c.center with
          | idle => rfl
          | enqueuing fd message pseudo ptr' new loc =>
              refine if_neg fun hptr => hsep ⟨Option.some_ne_none i, ?_⟩
              rw [hcenter]
              exact congrArg some hptr.symm
        rw [hcenter] at hqueue ⊢
        cases hqueue with
        | rest hrest =>
            obtain ⟨rfl, -⟩ | ⟨p, ps, rfl, -, hu⟩ := hrest.test
            · exact absurd hrest.length_eq hempty
            · exact .unlinking hu
      have hloc : DequeueAt.loadHead ≠ .test := by
        intro h
        cases h
      refine ⟨?_, .inl ⟨?_, rfl, ?_⟩, rfl, .inl rfl⟩
      · rw [← hput]
        refine hinv.queues.put (by rw [huser]; exact hindex.symm) hindex.symm ?_
        rw [hindex, PrintLoc.inside_dequeuing hloc, if_pos rfl]
        exact hunlinking
      · exact toData_congr rfl rfl ((toUser_of_none rfl rfl).trans htoUser.symm)
      · rw [huser]
        exact Nat.lt_succ_self _

/-- An access of `dequeue` behind its first test cannot be seen, but for the write of `head`. -/
lemma userMatch_access {nbFeed i : ℕ} {ptr : Ptr} {feed : UInt16} {loc loc' : DequeueAt}
    {x : LinkedNotif} {queue : Queue} {p : Addr} {ps : List Addr}
    (huser : c.user = .dequeuing nbFeed i ptr feed loc) (hindex : ptr.index = i)
    (hget : c.notification.toList[i]? = some x) (hderef : c.deref ptr = some x)
    (hu : Unlinking SIZEOF_MESSAGE p ps x.messages x.heap loc)
    (hu' : Unlinking SIZEOF_MESSAGE p ps queue x.heap loc') (hrank : loc'.rank < loc.rank)
    (hmono : loc.taken = some p → loc'.taken = some p) :
    UserMatch c { c.put ptr (x.withQueue queue x.heap) with
      user := .dequeuing nbFeed i ptr feed loc' } .quiet := by
  have hget' : c.notification.toList[ptr.index]? = some x := hindex ▸ hget
  have hmessage : (c.put ptr (x.withQueue queue x.heap)).messageAt i p = c.messageAt i p :=
    messageAt_put hget' fun _ => rfl
  have hsilent : queue.nodes x.heap = x.messages.nodes x.heap →
      ({ c.put ptr (x.withQueue queue x.heap) with
        user := .dequeuing nbFeed i ptr feed loc' } : NotifThreads).toUser = c.toUser →
      UserMatch c { c.put ptr (x.withQueue queue x.heap) with
        user := .dequeuing nbFeed i ptr feed loc' } .quiet := by
    refine fun hnodes htoUser => .inl ⟨toData_congr ?_ rfl htoUser, rfl, ?_⟩
    · exact notification_put_of_eq hget' (LinkedNotif.toNotif_withQueue hnodes fun _ _ => rfl)
    · rw [huser]
      exact Nat.succ_lt_succ hrank
  obtain ⟨hnone, hnodes⟩ | ⟨hsome, hnodes⟩ := hu.nodes_eq
  · obtain ⟨hnone', hnodes'⟩ | ⟨hsome', hnodes'⟩ := hu'.nodes_eq
    · refine hsilent (hnodes'.trans hnodes.symm) ?_
      rw [toUser_of_none rfl hnone', toUser_of_none huser hnone]
    · -- the write of `head`
      refine .inr ?_
      have hdata : ({ c.put ptr (x.withQueue queue x.heap) with
          user := .dequeuing nbFeed i ptr feed loc' } : NotifThreads).toData =
            { c.toData.put ptr { x.toNotif with messages := ps.map x.heap.messageAt } with
              user := .showing nbFeed i ptr feed (x.heap.messageAt p) } := by
        rw [toData, toUser_of_some rfl hsome']
        show (⟨c.subscriptions, (c.put ptr (x.withQueue queue x.heap)).notification.map _,
          .showing nbFeed i ptr feed ((c.put ptr _).messageAt i p)⟩ : NotifData) = _
        rw [notification_put, hmessage, messageAt_eq hget, LinkedNotif.toNotif]
        show (⟨_, (c.notification.map _).write _ ⟨_, (queue.nodes x.heap).map _⟩, _⟩ :
          NotifData) = _
        rw [hnodes']
        rfl
      rw [hdata]
      refine .next (toUser_of_none huser hnone) ?_ ?_
      · rw [deref_toData, hderef, Option.map_some]
      · rw [LinkedNotif.toNotif, hnodes, List.map_cons]
  · obtain ⟨hnone', -⟩ | ⟨hsome', hnodes'⟩ := hu'.nodes_eq
    · rw [hmono hsome] at hnone'
      cases hnone'
    · refine hsilent (hnodes'.trans hnodes.symm) ?_
      rw [toUser_of_some rfl hsome', toUser_of_some huser hsome]
      exact congrArg _ hmessage

/-- Nor can its last one, which hands out the node. -/
lemma userMatch_taken {nbFeed i : ℕ} {ptr : Ptr} {feed : UInt16} {loc : DequeueAt}
    {x : LinkedNotif} {heap : Heap} {p : Addr} (huser : c.user = .dequeuing nbFeed i ptr feed loc)
    (hget : c.notification.toList[ptr.index]? = some x) (htaken : loc.taken = some p)
    (hnodes : x.messages.nodes heap = x.messages.nodes x.heap)
    (hvalues : heap.valueOf = x.heap.valueOf) :
    UserMatch c { c.put ptr (x.withQueue x.messages heap) with
      user := .showing nbFeed i ptr feed p } .quiet := by
  refine .inl ⟨toData_congr ?_ rfl ?_, rfl, ?_⟩
  · exact notification_put_of_eq hget
      (LinkedNotif.toNotif_withQueue hnodes fun q _ => congrFun hvalues q)
  · rw [toUser_of_some huser htaken, toUser_showing rfl]
    exact congrArg _ (messageAt_put hget fun _ => congrFun hvalues p)
  · rw [huser]
    exact Nat.succ_pos _

/-- **An access of `dequeue`** behind its first test. -/
lemma Inv.dequeuing (hinv : c.Inv) {nbFeed i : ℕ} {ptr : Ptr} {feed : UInt16} {loc : DequeueAt}
    (huser : c.user = .dequeuing nbFeed i ptr feed loc) (hloc : loc ≠ .test) :
    ∃ c', c.userStep = some (c', .quiet) ∧ UserResult c c' .quiet := by
  obtain ⟨hindex, x, hget, hderef⟩ := hinv.atEntry (.inl ⟨_, huser⟩)
  have hat : c.user.At ptr.index := by
    rw [huser]
    exact hindex.symm
  have hqueue := hinv.queues i x hget
  rw [huser, PrintLoc.inside_dequeuing hloc, if_pos rfl] at hqueue
  obtain ⟨hcenter, p, ps, hu⟩ := hqueue.exists_unlinking
  obtain ⟨queue, loc', hstep, hu', hrank, hmono⟩ | ⟨heap, hstep, hrest, hvalues, htaken⟩ := hu.step
  · refine ⟨{ c.put ptr (x.withQueue queue x.heap) with
      user := .dequeuing nbFeed i ptr feed loc' }, ?_, ?_,
      userMatch_access huser hindex hget hderef hu hu' hrank hmono, rfl, .inl rfl⟩
    · simp only [userStep, huser, printNext, hderef, hstep, Option.bind_eq_bind, Option.bind_some,
        Option.map_some]
    · refine hinv.queues.put hat hindex.symm ?_
      rw [hindex, PrintLoc.inside_dequeuing hu'.ne_test, if_pos rfl, hcenter]
      exact .unlinking hu'
  · obtain ⟨hnone, -⟩ | ⟨-, hnodes⟩ := hu.nodes_eq
    · rw [htaken] at hnone
      cases hnone
    · refine ⟨{ c.put ptr (x.withQueue x.messages heap) with
        user := .showing nbFeed i ptr feed p }, ?_, ?_, userMatch_taken huser (hindex ▸ hget)
        htaken (hrest.nodes_eq.trans hnodes.symm) hvalues, rfl, .inl rfl⟩
      · simp only [userStep, huser, printNext, hderef, hstep, Option.bind_eq_bind, Option.bind_some,
          Option.map_some]
      · refine hinv.queues.put hat hindex.symm ?_
        rw [hindex, hcenter, show (PrintLoc.showing nbFeed i ptr feed p).held i = [p] from
          if_pos rfl]
        exact .rest hrest

/-- **A step of the thread of the user**: it goes on, unless it waits for `m_subscriptions`. -/
lemma Inv.exists_userStep (hinv : c.Inv) (hidle : c.user ≠ .idle)
    (hadding : ∀ sb, c.user = .adding sb → c.center = .idle) :
    ∃ c' o, c.userStep = some (c', o) ∧ c'.center = c.center ∧
      (¬c'.Overlaps → UserResult c c' o) := by
  cases huser : c.user with
  | idle => exact absurd huser hidle
  | adding sb =>
      have hcenter := hadding sb huser
      refine ⟨{ c with subscriptions := c.subscriptions.append sb, user := .idle }, .quiet, ?_,
        rfl, fun _ => ⟨fun k x hget => ?_, .inr ?_, rfl, .inr hcenter⟩⟩
      · simp only [userStep, huser, hcenter]
      · have hqueue := hinv.queues k x hget
        rwa [huser] at hqueue
      · exact .subscribed sb (by simp only [toData, toUser, huser])
  | printing nbFeed i =>
      obtain ⟨c', hstep, hresult⟩ := hinv.printing huser
      exact ⟨c', _, hstep, hresult.center_eq, fun _ => hresult⟩
  | dequeuing nbFeed i ptr feed loc =>
      by_cases hloc : loc = .test
      · subst hloc
        obtain ⟨c', hstep, hcenter, hresult⟩ := hinv.testing huser
        exact ⟨c', _, hstep, hcenter, hresult⟩
      · obtain ⟨c', hstep, hresult⟩ := hinv.dequeuing huser hloc
        exact ⟨c', _, hstep, hresult.center_eq, fun _ => hresult⟩
  | showing nbFeed i ptr feed node =>
      obtain ⟨c', hstep, hresult⟩ := hinv.showing huser
      exact ⟨c', _, hstep, hresult.center_eq, fun _ => hresult⟩

/-! ### The notifications center -/

/-- The pointer that `add_notif` has found is to an entry. -/
lemma Inv.index_lt (hinv : c.Inv) {fd : ℕ} {sb : Sb}
    (hfind : (c.subscriptions.toList.find? fun sb => sb.multInfo.sockFd == fd) = some sb) :
    sb.notif.index < c.notification.toList.length := by
  obtain ⟨k, hk⟩ := List.getElem?_of_mem (List.mem_of_find?_eq_some hfind)
  have hk' : c.toData.subscriptions.toList[k]? = some sb := hk
  have hentry : c.toData.entries[k]? = some sb := by
    rw [NotifData.entries, List.getElem?_append_left (List.getElem?_eq_some_iff.mp hk').1, hk']
  rw [hinv.indexed k sb hentry, ← length_toData, ← hinv.data.length_eq]
  exact (List.getElem?_eq_some_iff.mp hentry).1

/-- The thread of the user is where it was, when an entry has been written that it is not in the
queue of, and the node that it has been handed out holds what it held. -/
lemma toUser_put {ptr : Ptr} {x y : LinkedNotif}
    (hget : c.notification.toList[ptr.index]? = some x)
    (hinside : c.user.inside ptr.index = none)
    (hvalues : ∀ node ∈ c.user.held ptr.index, y.heap.valueOf node = x.heap.valueOf node) :
    (c.put ptr y).toUser = c.toUser := by
  have hput : (c.put ptr y).user = c.user := rfl
  cases huser : c.user with
  | dequeuing nbFeed i ptr' feed loc =>
      cases htaken : loc.taken with
      | none => rw [toUser_of_none huser htaken, toUser_of_none (hput.trans huser) htaken]
      | some p =>
          have hloc : loc ≠ .test := by
            rintro rfl
            cases htaken
          rw [huser, PrintLoc.inside_dequeuing hloc] at hinside
          rw [toUser_of_some huser htaken, toUser_of_some (hput.trans huser) htaken,
            messageAt_put hget fun hi => by simp [hi] at hinside]
  | showing nbFeed i ptr' feed node =>
      rw [toUser_showing huser, toUser_showing (hput.trans huser), messageAt_put hget fun hi => ?_]
      refine hvalues node ?_
      rw [huser, hi]
      simp [PrintLoc.held]
  | _ => simp only [toUser, hput, huser]

/-- The entries are in order, when the notifications center has written one. -/
lemma Queues.putCenter {ptr : Ptr} {y : LinkedNotif} {center : AddNotifLoc} (hqueues : c.Queues)
    (hothers : ∀ k, k ≠ ptr.index → center.inside k = c.center.inside k)
    (hy : QueueInv y (c.user.held ptr.index) (c.user.inside ptr.index) (center.inside ptr.index)) :
    ({ c.put ptr y with center := center } : NotifThreads).Queues :=
  queues_put hqueues (fun k hk => ⟨rfl, rfl, hothers k hk⟩) hy

/-- **An access of `enqueue`**: it goes on, or the message is in the queue. -/
lemma Inv.exists_centerStep (hinv : c.Inv) {fd : ℕ} {message : ℕ → UInt8} {pseudo : Pseudo}
    {ptr : Ptr} {new : Addr} {loc : EnqueueAt} {x : LinkedNotif}
    (hcenter : c.center = .enqueuing fd message pseudo ptr new loc)
    (hderef : c.deref ptr = some x) :
    (∃ c' loc', c.centerStep = some (c', .quiet) ∧ c'.Queues ∧ c'.toData = c.toData ∧
      c'.user = c.user ∧ c'.subscriptions = c.subscriptions ∧
      c'.center = .enqueuing fd message pseudo ptr new loc' ∧ (c'.deref ptr).isSome ∧
      loc'.rank < loc.rank) ∨
    ∃ c', c.centerStep = some (c', .added 0) ∧ c'.Queues ∧
      NotifData.NotifStep c.toData (.addNotif fd message pseudo) c'.toData (.added 0) ∧
      c'.user = c.user ∧ c'.subscriptions = c.subscriptions ∧ c'.center = .idle := by
  obtain ⟨sb, hfind, rfl⟩ := hinv.center _ _ _ _ _ _ hcenter
  have hlt := hinv.index_lt hfind
  have hget := getElem?_of_deref hderef hlt
  have hothers : ∀ k, k ≠ sb.notif.index → c.center.inside k = none := fun k hk => by
    rw [hcenter]
    exact if_neg (Ne.symm hk)
  have hinside : ∀ loc, (AddNotifLoc.enqueuing fd message pseudo sb.notif new loc).inside
      sb.notif.index = some (new, localMessage message pseudo, loc) := fun loc => if_pos rfl
  have hqueue := hinv.queues _ x hget
  rw [hcenter, hinside] at hqueue
  obtain ⟨hnone, ps, hl, hvalue⟩ := hqueue.exists_linking
  obtain ⟨queue, heap, loc', hstep, hl', hvalues, hrank⟩ | ⟨queue, hstep, hrest⟩ := hl.step
  · refine .inl ⟨{ c.put sb.notif (x.withQueue queue heap) with
      center := .enqueuing fd message pseudo sb.notif new loc' }, loc', ?_, ?_, ?_, rfl, rfl, rfl,
      ?_, hrank⟩
    · simp only [centerStep, hcenter, hderef, hstep, Option.bind_eq_bind, Option.bind_some]
    · refine hinv.queues.putCenter (fun k hk => ?_) ?_
      · rw [hothers k hk]
        exact if_neg (Ne.symm hk)
      · rw [hnone, hinside]
        exact .linking hl' (by rw [← hvalue]; exact congrFun hvalues new)
    · refine toData_congr ?_ rfl (toUser_put hget hnone fun node _ => congrFun hvalues node)
      exact notification_put_of_eq hget (LinkedNotif.toNotif_withQueue
        (hl'.nodes_eq.trans hl.nodes_eq.symm) fun q _ => congrFun hvalues q)
    · exact Option.isSome_iff_exists.mpr ⟨_, FullArray.deref_write hderef _⟩
  · refine .inr ⟨{ c.put sb.notif (x.withQueue queue x.heap) with center := .idle }, ?_, ?_, ?_,
      rfl, rfl, rfl⟩
    · simp only [centerStep, hcenter, hderef, hstep, Option.bind_eq_bind, Option.bind_some]
    · refine hinv.queues.putCenter (fun k hk => (hothers k hk).symm) ?_
      rw [hnone]
      exact .rest hrest
    · have hdata : ({ c.put sb.notif (x.withQueue queue x.heap) with center := .idle } :
          NotifThreads).toData =
            c.toData.put sb.notif (x.toNotif.enqueue (localMessage message pseudo)) := by
        have hnotif : (x.withQueue queue x.heap).toNotif =
            x.toNotif.enqueue (localMessage message pseudo) := by
          rw [LinkedNotif.toNotif, LinkedNotif.toNotif, Notif.enqueue, LinkedNotif.withQueue,
            hrest.nodes_eq, hl.nodes_eq, List.map_append, List.map_singleton,
            Heap.messageAt_eq hvalue]
        have htoUser := toUser_put (y := x.withQueue queue x.heap) hget hnone fun _ _ => rfl
        rw [NotifData.put, ← hnotif]
        show (⟨c.subscriptions, (c.put _ _).notification.map _, (c.put _ _).toUser⟩ : NotifData) = _
        rw [notification_put, htoUser]
        rfl
      rw [hdata]
      exact .enqueued message pseudo hfind (by rw [deref_toData, hderef, Option.map_some])

/-- **A call of `add_notif`**: there is no subscription with the socket, or the call of `enqueue`
has made its node. -/
lemma Inv.addNotif_cases (hinv : c.Inv) {fd : ℕ} {message : ℕ → UInt8} {pseudo : Pseudo}
    {p block : Addr} (hidle : c.center = .idle)
    (h : c.addNotif fd message pseudo p block = some (c', o)) (hsep : ¬c'.Overlaps) :
    (c' = c ∧ o = .added 1 ∧
      (c.subscriptions.toList.find? fun sb => sb.multInfo.sockFd == fd) = none) ∨
    ∃ sb, (c.subscriptions.toList.find? fun sb => sb.multInfo.sockFd == fd) = some sb ∧
      o = .quiet ∧ c'.Queues ∧ c'.toData = c.toData ∧ c'.user = c.user ∧
      c'.subscriptions = c.subscriptions ∧
      c'.center = .enqueuing fd message pseudo sb.notif p .test := by
  rw [addNotif] at h
  split at h
  next hfind =>
    cases h
    exact .inl ⟨rfl, rfl, hfind⟩
  next sb hfind =>
    obtain ⟨x, hderef, h⟩ := Option.bind_eq_some_iff.mp h
    obtain ⟨heap, hinit, h⟩ := Option.bind_eq_some_iff.mp h
    cases h
    have hget := getElem?_of_deref hderef (hinv.index_lt hfind)
    have hqueue := hinv.queues _ x hget
    rw [hidle] at hqueue
    have hnone : c.user.inside sb.notif.index = none :=
      PrintLoc.inside_eq_none_iff.mpr fun hdequeues =>
        hsep ⟨fun h => Option.some_ne_none _ (hdequeues.symm.trans h), hdequeues⟩
    rw [hnone] at hqueue
    obtain ⟨ps, hrest⟩ := hqueue.exists_rest
    have hsize : x.messages.dataSize = SIZEOF_MESSAGE := hrest.dataSize_eq
    rw [hsize] at hinit
    obtain ⟨hl, hvalue, hvalues⟩ := hrest.linking hinit
    rw [Message.read_bytes] at hvalue
    refine .inr ⟨sb, hfind, rfl, hinv.queues.putCenter (fun k hk => ?_) ?_,
      toData_congr ?_ rfl (toUser_put hget hnone fun node hnode => ?_), rfl, rfl, rfl⟩
    · rw [hidle]
      exact if_neg (Ne.symm hk)
    · rw [hnone, show (AddNotifLoc.enqueuing fd message pseudo sb.notif p .test).inside
        sb.notif.index = some (p, localMessage message pseudo, .test) from if_pos rfl]
      exact .linking hl hvalue
    · refine notification_put_of_eq hget (LinkedNotif.toNotif_withQueue
        (hl.nodes_eq.trans hrest.nodes_eq.symm) fun q hq => ?_)
      rw [hrest.nodes_eq] at hq
      exact hvalues q (List.mem_append_left _ hq)
    · exact hvalues node (List.mem_append_right _ hnode)

/-! ### Runs -/

/-- A transition of the two threads. -/
abbrev ThreadTransition := Machine.Transition NotifThreads ThreadAct NotifOut

/-- The call of `subscription_add` that begins with a step. -/
def callOf : ThreadAct → Option SubscriptionCall
  | .subscriptionAdd call => some call
  | _ => none

/-- The calls of `subscription_add` of a run. -/
def calls (ts : List ThreadTransition) : List SubscriptionCall := ts.filterMap fun t => callOf t.act

/-- The message, when the socket `fd` is that of subscription `j`. -/
def messageFor (c : NotifThreads) (j fd : ℕ) (message : ℕ → UInt8) (pseudo : Pseudo) :
    List Message :=
  if (c.subscriptions.toList[j]?).map (·.multInfo.sockFd) = some fd then
    [localMessage message pseudo]
  else []

/-- The message that a transition gives to `add_notif` with the socket of subscription `j`. -/
def givenTo (j : ℕ) (t : ThreadTransition) : List Message :=
  match t.act with
  | .addNotif fd message pseudo _ _ => t.pre.messageFor j fd message pseudo
  | _ => []

/-- The message that a transition displays from entry `j` under the heading of a feed. -/
def shownFrom (j : ℕ) (feed : UInt16) (t : ThreadTransition) : List Message :=
  match t.out with
  | .shown i feed' message => if i = j ∧ feed' = feed then [message] else []
  | _ => []

/-- The message for subscription `j` that `add_notif` is putting into a queue. -/
def entering (c : NotifThreads) (j : ℕ) : List Message :=
  match c.center with
  | .idle => []
  | .enqueuing fd message pseudo _ _ _ => c.messageFor j fd message pseudo

/-- What a transition of the threads and those of the threads with whole calls have in common. -/
structure Matches (t : ThreadTransition) (us : List NotifData.NotifTransition) : Prop where
  calls : NotifData.calls us = (callOf t.act).toList
  shown : ∀ j feed, us.flatMap (NotifData.shownFrom j feed) = shownFrom j feed t
  given : ∀ j, t.pre.entering j ++ givenTo j t =
    us.flatMap (NotifData.givenTo j) ++ t.post.entering j

/-- A step that cannot be seen keeps the invariant. -/
lemma Inv.of_toData_eq (hinv : c.Inv) (heq : c'.toData = c.toData) (hqueues : c'.Queues)
    (hcenter : ∀ fd message pseudo ptr new loc,
      c'.center = .enqueuing fd message pseudo ptr new loc → ∃ sb,
      (c'.subscriptions.toList.find? fun sb => sb.multInfo.sockFd == fd) = some sb ∧
        sb.notif = ptr) : c'.Inv :=
  ⟨heq ▸ hinv.data, heq ▸ hinv.indexed, hqueues, hcenter⟩

/-- Such a step of the notifications center in `enqueue` in particular. -/
lemma Inv.of_center (hinv : c.Inv) {fd : ℕ} {message : ℕ → UInt8} {pseudo : Pseudo} {new : Addr}
    {loc : EnqueueAt} {sb : Sb}
    (hfind : (c.subscriptions.toList.find? fun sb => sb.multInfo.sockFd == fd) = some sb)
    (heq : c'.toData = c.toData) (hqueues : c'.Queues)
    (hsubscriptions : c'.subscriptions = c.subscriptions)
    (hcenter : c'.center = .enqueuing fd message pseudo sb.notif new loc) : c'.Inv := by
  refine hinv.of_toData_eq heq hqueues fun fd' message' pseudo' ptr' new' loc' hc' => ?_
  rw [hcenter] at hc'
  cases hc'
  rw [hsubscriptions]
  exact ⟨sb, hfind, rfl⟩

/-- And so does one that can. -/
lemma Inv.of_notifStep (hinv : c.Inv) {b : NotifAct} {o : NotifOut}
    (hstep : NotifData.NotifStep c.toData b c'.toData o) (hqueues : c'.Queues)
    (hcenter : ∀ fd message pseudo ptr new loc,
      c'.center = .enqueuing fd message pseudo ptr new loc → ∃ sb,
      (c'.subscriptions.toList.find? fun sb => sb.multInfo.sockFd == fd) = some sb ∧
        sb.notif = ptr) : c'.Inv :=
  ⟨NotifData.step_inv hinv.data hstep, hinv.indexed.step hinv.data hstep, hqueues, hcenter⟩

lemma entering_congr (hcenter : c'.center = c.center)
    (hsubscriptions : c'.subscriptions = c.subscriptions ∨ c.center = .idle) (j : ℕ) :
    c'.entering j = c.entering j := by
  rw [entering, entering, hcenter]
  obtain heq | hidle := hsubscriptions
  · cases c.center with
    | idle => rfl
    | enqueuing fd message pseudo ptr new loc => simp only [messageFor, heq]
  · rw [hidle]

/-- What the pointer of `add_notif` was found by is still there. -/
lemma Inv.center_congr (hinv : c.Inv) (hcenter : c'.center = c.center)
    (hsubscriptions : c'.subscriptions = c.subscriptions ∨ c.center = .idle)
    (fd : ℕ) (message : ℕ → UInt8) (pseudo : Pseudo) (ptr : Ptr) (new : Addr) (loc : EnqueueAt)
    (hc' : c'.center = .enqueuing fd message pseudo ptr new loc) : ∃ sb,
      (c'.subscriptions.toList.find? fun sb => sb.multInfo.sockFd == fd) = some sb ∧
        sb.notif = ptr := by
  rw [hcenter] at hc'
  obtain heq | hidle := hsubscriptions
  · rw [heq]
    exact hinv.center _ _ _ _ _ _ hc'
  · rw [hidle] at hc'
    cases hc'

/-- What a transition refines. -/
def Refines (c : NotifThreads) (a : ThreadAct) (o : NotifOut) (c' : NotifThreads) : Prop :=
  ∃ us, Machine.Run NotifData.step c.toData us c'.toData ∧ Matches ⟨c, a, o, c'⟩ us

/-- A step that cannot be seen. -/
lemma refines_of_eq {a : ThreadAct} (heq : c'.toData = c.toData) (hcall : callOf a = none)
    (hshown : ∀ j feed, shownFrom j feed ⟨c, a, o, c'⟩ = [])
    (hgiven : ∀ j, c.entering j ++ givenTo j ⟨c, a, o, c'⟩ = c'.entering j) :
    Refines c a o c' := by
  refine ⟨[], ?_, ⟨?_, fun j feed => (hshown j feed).symm, hgiven⟩⟩
  · rw [heq]
    exact .nil _
  · show [] = (callOf a).toList
    rw [hcall]
    rfl

/-- A step that can. -/
lemma refines_of_step {a : ThreadAct} {b : NotifAct}
    (hstep : NotifData.NotifStep c.toData b c'.toData o) (hcall : callOf a = NotifData.callOf b)
    (hgiven : ∀ j, c.entering j ++ givenTo j ⟨c, a, o, c'⟩ =
      NotifData.givenTo j ⟨c.toData, b, o, c'.toData⟩ ++ c'.entering j) :
    Refines c a o c' := by
  refine ⟨[⟨c.toData, b, o, c'.toData⟩], .cons hstep.step_eq (.nil _), ⟨?_, fun j feed => ?_,
    fun j => ?_⟩⟩
  · show NotifData.calls [_] = (callOf a).toList
    rw [hcall, NotifData.calls, List.filterMap_cons]
    cases NotifData.callOf b <;> rfl
  · rw [List.flatMap_singleton]
    rfl
  · rw [List.flatMap_singleton]
    exact hgiven j

/-- **The thread of the user** refines the one with whole calls. -/
lemma UserResult.refines (hresult : UserResult c c' o) : Refines c .user o c' := by
  have hentering := entering_congr hresult.center_eq hresult.subscriptions_eq
  obtain ⟨heq, rfl, -⟩ | hstep := hresult.result
  · refine refines_of_eq heq rfl (fun _ _ => rfl) fun j => ?_
    rw [hentering]
    exact List.append_nil _
  · refine refines_of_step hstep rfl fun j => ?_
    rw [hentering]
    exact List.append_nil _

lemma UserResult.inv (hinv : c.Inv) (hresult : UserResult c c' o) : c'.Inv := by
  have hcenter := hinv.center_congr hresult.center_eq hresult.subscriptions_eq
  obtain ⟨heq, -, -⟩ | hstep := hresult.result
  · exact hinv.of_toData_eq heq hresult.queues hcenter
  · exact hinv.of_notifStep hstep hresult.queues hcenter

/-- A call of `subscription_add` makes an entry with an empty queue. -/
lemma Inv.queues_subscriptionAdd (hinv : c.Inv) (call : SubscriptionCall) (huser : c.user = .idle) :
    (c.subscriptionAdd call).Queues := by
  intro k x hget
  have hlt := (List.getElem?_eq_some_iff.mp hget).1
  change (c.notification.toList ++ [LinkedNotif.init call.feedNb])[k]? = some x at hget
  show QueueInv x [] none (c.center.inside k)
  by_cases hk : k < c.notification.toList.length
  · rw [List.getElem?_append_left hk] at hget
    have hqueue := hinv.queues k x hget
    rwa [huser] at hqueue
  · have hcenter : c.center.inside k = none := by
      cases hcenter : c.center with
      | idle => rfl
      | enqueuing fd message pseudo ptr new loc =>
          obtain ⟨sb, hfind, rfl⟩ := hinv.center _ _ _ _ _ _ hcenter
          have hindex := hinv.index_lt hfind
          exact if_neg (by omega)
    change k < (c.notification.toList ++ [LinkedNotif.init call.feedNb]).length at hlt
    rw [List.length_append, List.length_singleton] at hlt
    obtain rfl : k = c.notification.toList.length := by omega
    rw [List.getElem?_concat_length, Option.some.injEq] at hget
    rw [hcenter, ← hget]
    exact .rest (QueueState.inv_queueInit SIZEOF_MESSAGE _)

lemma toData_subscriptionAdd (call : SubscriptionCall) :
    (c.subscriptionAdd call).toData = c.toData.subscriptionAdd call := by
  have hnotification : (c.subscriptionAdd call).notification.map LinkedNotif.toNotif =
      (c.toData.subscriptionAdd call).notification := FullArray.map_append _ _ _
  have haddr : ∀ i, (c.subscriptionAdd call).notification.toCArray.addr i =
      (c.toData.subscriptionAdd call).notification.toCArray.addr i := fun i => by
    rw [← hnotification]
    rfl
  have hlength : (c.subscriptionAdd call).notification.length =
      (c.toData.subscriptionAdd call).notification.length := by
    rw [← hnotification]
    rfl
  rw [toData, hnotification]
  show (⟨c.subscriptions, _, .adding (NotifData.localSb call
    ((c.subscriptionAdd call).notification.toCArray.addr _))⟩ : NotifData) = _
  rw [haddr]
  show (⟨_, _, .adding (NotifData.localSb call (CArray.addr _
    ((c.subscriptionAdd call).notification.length - 1)))⟩ : NotifData) = _
  rw [hlength]
  rfl

/-- **A call of `add_notif`** begins. -/
lemma Inv.addNotif (hinv : c.Inv) {fd : ℕ} {message : ℕ → UInt8} {pseudo : Pseudo}
    {p block : Addr} (hidle : c.center = .idle)
    (h : c.addNotif fd message pseudo p block = some (c', o)) (hsep : ¬c'.Overlaps) :
    c'.Inv ∧ Refines c (.addNotif fd message pseudo p block) o c' := by
  obtain ⟨rfl, rfl, hfind⟩ | ⟨sb, hfind, rfl, hqueues, heq, huser, hsub, hcenter⟩ :=
    hinv.addNotif_cases hidle h hsep
  · refine ⟨hinv, refines_of_step (.unknown message pseudo hfind) rfl fun j => ?_⟩
    rw [NotifData.givenTo_of_find?_eq_none hfind]
    have hnone : NotifData.givenTo j
        ⟨c'.toData, .addNotif fd message pseudo, .added 1, c'.toData⟩ = [] :=
      NotifData.givenTo_of_find?_eq_none hfind j
    rw [entering, hidle]
    exact hnone
  · refine ⟨hinv.of_center hfind heq hqueues hsub hcenter,
      refines_of_eq heq rfl (fun _ _ => rfl) fun j => ?_⟩
    rw [entering, entering, hidle, hcenter]
    simp only [List.nil_append, givenTo, messageFor, hsub]

/-- **The notifications center** goes on in it. -/
lemma Inv.centerStep (hinv : c.Inv) (h : c.centerStep = some (c', o)) :
    c'.Inv ∧ Refines c .center o c' := by
  cases hcenter : c.center with
  | idle => simp only [NotifThreads.centerStep, hcenter, reduceCtorEq] at h
  | enqueuing fd message pseudo ptr new loc =>
      obtain ⟨x, hderef⟩ : ∃ x, c.deref ptr = some x := by
        simp only [NotifThreads.centerStep, hcenter] at h
        obtain ⟨x, hderef, -⟩ := Option.bind_eq_some_iff.mp h
        exact ⟨x, hderef⟩
      obtain ⟨sb, hfind, rfl⟩ := hinv.center _ _ _ _ _ _ hcenter
      obtain ⟨c₁, loc', hstep, hqueues, heq, -, hsub, hcenter', -, -⟩ |
        ⟨c₁, hstep, hqueues, hnotif, -, hsub, hcenter'⟩ := hinv.exists_centerStep hcenter hderef
      · obtain ⟨rfl, rfl⟩ := Prod.mk.inj (Option.some.inj (hstep.symm.trans h))
        refine ⟨hinv.of_center hfind heq hqueues hsub hcenter',
          refines_of_eq heq rfl (fun _ _ => rfl) fun j => ?_⟩
        rw [entering, entering, hcenter, hcenter']
        simp only [givenTo, messageFor, hsub, List.append_nil]
      · obtain ⟨rfl, rfl⟩ := Prod.mk.inj (Option.some.inj (hstep.symm.trans h))
        refine ⟨hinv.of_notifStep hnotif hqueues fun _ _ _ _ _ _ hc' => ?_,
          refines_of_step hnotif rfl fun j => ?_⟩
        · rw [hcenter'] at hc'
          cases hc'
        · rw [entering, entering, hcenter, hcenter']
          rfl

/-- **One step** keeps the invariant, and refines the threads with whole calls. -/
lemma Inv.step (hinv : c.Inv) {a : ThreadAct} (h : c.step a = some (c', o)) (hsep : ¬c'.Overlaps) :
    c'.Inv ∧ Refines c a o c' := by
  cases a with
  | subscriptionAdd call =>
      cases huser : c.user with
      | idle =>
          simp only [NotifThreads.step, huser, Option.some.injEq, Prod.mk.injEq] at h
          obtain ⟨rfl, rfl⟩ := h
          have hstep : NotifData.NotifStep c.toData (.subscriptionAdd call)
              (c.subscriptionAdd call).toData .quiet := by
            rw [toData_subscriptionAdd]
            exact .subscribe call (by simp only [toData, toUser, huser])
          refine ⟨hinv.of_notifStep hstep (hinv.queues_subscriptionAdd call huser) hinv.center,
            refines_of_step hstep rfl fun j => ?_⟩
          exact List.append_nil _
      | _ => simp only [NotifThreads.step, huser, reduceCtorEq] at h
  | printNotif =>
      cases huser : c.user with
      | idle =>
          simp only [NotifThreads.step, huser, Option.some.injEq, Prod.mk.injEq] at h
          obtain ⟨rfl, rfl⟩ := h
          have hstep : NotifData.NotifStep c.toData .printNotif
              ({ c with user := .printing c.notification.length 0 } : NotifThreads).toData
              .quiet := .print (by simp only [toData, toUser, huser])
          refine ⟨hinv.of_notifStep hstep (hinv.queues.withUser fun k => ?_) hinv.center,
            refines_of_step hstep rfl fun j => ?_⟩
          · rw [huser]
            exact ⟨rfl, rfl⟩
          · exact List.append_nil _
      | _ => simp only [NotifThreads.step, huser, reduceCtorEq] at h
  | user =>
      have hidle : c.user ≠ .idle := fun huser => by
        simp only [NotifThreads.step, userStep, huser, reduceCtorEq] at h
      have hadding : ∀ sb, c.user = .adding sb → c.center = .idle := fun sb huser => by
        cases hcenter : c.center with
        | idle => rfl
        | enqueuing fd message pseudo ptr new loc =>
            simp only [NotifThreads.step, userStep, huser, hcenter, reduceCtorEq] at h
      obtain ⟨c₁, o₁, hstep, -, hresult⟩ := hinv.exists_userStep hidle hadding
      obtain ⟨rfl, rfl⟩ := Prod.mk.inj (Option.some.inj (hstep.symm.trans h))
      exact ⟨(hresult hsep).inv hinv, (hresult hsep).refines⟩
  | addNotif fd message pseudo p block =>
      cases hcenter : c.center with
      | idle =>
          simp only [NotifThreads.step, hcenter] at h
          exact hinv.addNotif hcenter h hsep
      | enqueuing fd' message' pseudo' ptr new loc =>
          simp only [NotifThreads.step, hcenter, reduceCtorEq] at h
  | center => exact hinv.centerStep h

lemma inv_dataInit : dataInit.Inv := by
  have heq : dataInit.toData = NotifData.dataInit := rfl
  refine ⟨heq ▸ NotifData.inv_dataInit, heq ▸ NotifData.indexed_dataInit, fun k x hget => ?_,
    nofun⟩
  cases hget

/-- **Refinement**: a run in which no call of `enqueue` overlaps one of `dequeue` on the same queue
is a run of the threads with whole calls. -/
theorem exists_run {ts : List ThreadTransition} (h : Machine.Run step dataInit ts c)
    (hsep : ∀ t ∈ ts, ¬t.post.Overlaps) : c.Inv ∧ ∃ us,
      Machine.Run NotifData.step NotifData.dataInit us c.toData ∧
      NotifData.calls us = calls ts ∧
      (∀ j feed, us.flatMap (NotifData.shownFrom j feed) = ts.flatMap (shownFrom j feed)) ∧
      ∀ j, ts.flatMap (givenTo j) = us.flatMap (NotifData.givenTo j) ++ c.entering j := by
  refine h.history (P := fun ts c => c.Inv ∧ ∃ us,
      Machine.Run NotifData.step NotifData.dataInit us c.toData ∧
      NotifData.calls us = calls ts ∧
      (∀ j feed, us.flatMap (NotifData.shownFrom j feed) = ts.flatMap (shownFrom j feed)) ∧
      ∀ j, ts.flatMap (givenTo j) = us.flatMap (NotifData.givenTo j) ++ c.entering j)
    (fun ts c a c' o ⟨hinv, us, hrun, hcalls, hshown, hgiven⟩ hsep hstep => ?_) hsep
    ⟨inv_dataInit, [], .nil _, rfl, fun _ _ => rfl, fun _ => rfl⟩
  obtain ⟨hinv', us', hrun', hmatches⟩ := hinv.step hstep hsep
  refine ⟨hinv', us ++ us', hrun.append hrun', ?_, fun j feed => ?_, fun j => ?_⟩
  · have hcall : calls [⟨c, a, o, c'⟩] = NotifData.calls us' := by
      rw [hmatches.calls, calls, List.filterMap_cons]
      cases callOf a <;> rfl
    rw [calls, List.filterMap_append]
    rw [calls] at hcalls hcall
    rw [hcall, ← hcalls]
    exact List.filterMap_append
  · rw [List.flatMap_append, List.flatMap_append, hshown, hmatches.shown, List.flatMap_singleton]
  · have hstep := hmatches.given j
    rw [List.flatMap_append, List.flatMap_singleton, hgiven, List.append_assoc, List.flatMap_append,
      List.append_assoc, ← hstep]

end NotifThreads

end Megaphone
