import Megaphone.Client.Notifications
import Megaphone.DataStructures.QueueAccesses

/-!
The notifications of the client, one access to a queue after the other.

`add_notif` is in the critical section of `m_subscriptions` when it calls `enqueue`, and
`print_notif` calls `dequeue` in none.

* `LinkedNotif`, `PrintLoc`, `AddNotifLoc`, `NotifThreads`: the data with the linked queues, and
  where the two threads are.
* `ThreadAct`, `step`: the two threads, in any order.
* `Overlaps`: a call of `enqueue` and one of `dequeue` are at work on the same queue.
-/

namespace Megaphone

open Memory

/-! ### The data -/

/-- `sizeof(Message)`. -/
def SIZEOF_MESSAGE : ℕ := NT_DATA_LEN + PSEUDO_LEN

namespace Message

/-- The bytes of a `Message`. -/
def bytes (message : Message) : List UInt8 := message.data.toList ++ message.pseudo.toList

/-- The `Message` of such bytes. -/
def ofBytes (bytes : List UInt8) : Message :=
  ⟨Vector.ofFn fun i => bytes.getD i 0, Vector.ofFn fun i => bytes.getD (NT_DATA_LEN + i) 0⟩

lemma length_bytes (message : Message) : message.bytes.length = SIZEOF_MESSAGE := by
  rw [bytes, List.length_append, Vector.length_toList, Vector.length_toList, SIZEOF_MESSAGE]

lemma ofBytes_bytes (message : Message) : ofBytes message.bytes = message := by
  obtain ⟨data, pseudo⟩ := message
  rw [ofBytes, Message.mk.injEq]
  refine ⟨?_, ?_⟩
  · ext i hi
    simp [bytes, List.getElem?_append_left]
  · ext i hi
    simp [bytes]

/-- What `node_init` copies. -/
lemma read_bytes (message : Message) :
    Memory.read (Memory.ofList message.bytes 0) 0 SIZEOF_MESSAGE = message.bytes := by
  rw [← message.length_bytes]
  exact Memory.read_ofList message.bytes 0

end Message

/-- `Notif`, with the part of the heap that `malloc` gives to the nodes of its queue. -/
structure LinkedNotif where
  nbfeed : UInt16
  messages : Queue
  heap : Heap

namespace LinkedNotif

/-- A `Notif` whose queue comes from `queue_init`. -/
def init (nbfeed : UInt16) : LinkedNotif :=
  ⟨nbfeed, queueInit SIZEOF_MESSAGE, fun _ => none, fun _ => none⟩

/-- The queue and its nodes have been written. -/
def withQueue (x : LinkedNotif) (messages : Queue) (heap : Heap) : LinkedNotif :=
  { x with messages := messages, heap := heap }

end LinkedNotif

instance : CZero LinkedNotif := ⟨⟨0, queueInit 0, fun _ => none, fun _ => none⟩⟩

/-- Where the thread of the user is.

* `adding sb`: in `subscription_add`, between its two critical sections;
* `printing nbFeed i`: in `print_notif`, before entry `i` of the first `nbFeed`;
* `dequeuing nbFeed i notif feed loc`: there, under the heading of the feed, at `loc` of a call of
  `dequeue` on the queue of the entry `notif`;
* `showing nbFeed i notif feed node`: there, with the node of a message. -/
inductive PrintLoc
  | idle
  | adding (sb : Sb)
  | printing (nbFeed i : ℕ)
  | dequeuing (nbFeed i : ℕ) (notif : Ptr) (feed : UInt16) (loc : DequeueAt)
  | showing (nbFeed i : ℕ) (notif : Ptr) (feed : UInt16) (node : Addr)

/-- Where the thread of the notifications center is in `add_notif`: with the arguments `fd`,
`message` and `pseudo`, at `loc` of the call of `enqueue` with the node `new` on the queue of the
entry `notif`. -/
inductive AddNotifLoc
  | idle
  | enqueuing (fd : ℕ) (message : ℕ → UInt8) (pseudo : Pseudo) (notif : Ptr) (new : Addr)
      (loc : EnqueueAt)

/-- The variables `m_subscriptions` and `m_notification`, and the two threads. -/
structure NotifThreads where
  subscriptions : FullArray Sb
  notification : FullArray LinkedNotif
  user : PrintLoc
  center : AddNotifLoc

/-- What may happen.

* `subscriptionAdd`: the user's thread calls `subscription_add`, up to the end of its first critical
  section;
* `printNotif`: it calls `print_notif`;
* `user`: it goes on;
* `addNotif`: the notifications center calls `add_notif`, up to the end of `node_init`, to which
  `malloc` returns `p` and `block`;
* `center`: it goes on. -/
inductive ThreadAct
  | subscriptionAdd (call : SubscriptionCall)
  | printNotif
  | user
  | addNotif (fd : ℕ) (message : ℕ → UInt8) (pseudo : Pseudo) (p block : Addr)
  | center

namespace NotifThreads

/-! ### The steps -/

/-- `data_init`. -/
def dataInit : NotifThreads := ⟨.arrayNew Sb 0, .arrayNew LinkedNotif 0, .idle, .idle⟩

/-- What a pointer into `m_notification` reads, `none` when it is no longer one. -/
def deref (c : NotifThreads) (notif : Ptr) : Option LinkedNotif :=
  c.notification.toCArray.deref notif

/-- Writing through a pointer. -/
def put (c : NotifThreads) (ptr : Ptr) (notif : LinkedNotif) : NotifThreads :=
  { c with notification := c.notification.write ptr.index notif }

/-- `subscription_add`, up to the end of the first critical section. -/
def subscriptionAdd (c : NotifThreads) (call : SubscriptionCall) : NotifThreads :=
  let notification := c.notification.append (.init call.feedNb)
  let notif := notification.toCArray.addr (notification.length - 1)
  { c with notification := notification, user := .adding (NotifData.localSb call notif) }

/-- `add_notif`, up to the end of `node_init`. -/
def addNotif (c : NotifThreads) (fd : ℕ) (message : ℕ → UInt8) (pseudo : Pseudo) (p block : Addr) :
    Option (NotifThreads × NotifOut) :=
  match c.subscriptions.toList.find? fun sb => sb.multInfo.sockFd == fd with
  | none => some (c, .added 1)
  | some sb => do
      let notif ← c.deref sb.notif
      let heap ← notif.heap.nodeInit (ofList (localMessage message pseudo).bytes 0)
        notif.messages.dataSize p block
      some ({ c.put sb.notif (notif.withQueue notif.messages heap) with
        center := .enqueuing fd message pseudo sb.notif p .test }, .quiet)

/-- The thread of the notifications center goes on. -/
def centerStep (c : NotifThreads) : Option (NotifThreads × NotifOut) :=
  match c.center with
  | .idle => none
  | .enqueuing fd message pseudo ptr new loc => do
      let notif ← c.deref ptr
      let (messages, heap, next) ← loc.step new notif.messages notif.heap
      let c := c.put ptr (notif.withQueue messages heap)
      match next with
      | some loc =>
          some ({ c with center := .enqueuing fd message pseudo ptr new loc }, .quiet)
      | none => some ({ c with center := .idle }, .added 0)

/-- The loop of `print_notif`, when the thread of the user goes on with entry `i`. -/
def printEntry (c : NotifThreads) (nbFeed i : ℕ) : Option NotifThreads := do
  let j ← c.notification.get i
  let ptr := c.notification.toCArray.addr j
  let notif ← c.deref ptr
  if notif.messages.length > 0 then
    some { c with user := .dequeuing nbFeed i ptr notif.nbfeed .test }
  else some { c with user := .printing nbFeed (i + 1) }

/-- The next access of `dequeue` in `print_notif`. -/
def printNext (c : NotifThreads) (nbFeed i : ℕ) (ptr : Ptr) (feed : UInt16) (loc : DequeueAt) :
    Option NotifThreads := do
  let notif ← c.deref ptr
  let (messages, heap, next) ← loc.step notif.messages notif.heap
  let c := c.put ptr (notif.withQueue messages heap)
  match next with
  | .inl loc => some { c with user := .dequeuing nbFeed i ptr feed loc }
  | .inr none => some { c with user := .printing nbFeed (i + 1) }
  | .inr (some node) => some { c with user := .showing nbFeed i ptr feed node }

/-- A message is displayed, and its node is freed. -/
def printMessage (c : NotifThreads) (nbFeed i : ℕ) (ptr : Ptr) (feed : UInt16) (node : Addr) :
    Option (NotifThreads × NotifOut) := do
  let notif ← c.deref ptr
  let bytes ← notif.heap.valueOf node
  let heap ← notif.heap.nodeFree node
  some ({ c.put ptr (notif.withQueue notif.messages heap) with
    user := .dequeuing nbFeed i ptr feed .test }, .shown i feed (.ofBytes bytes))

/-- The thread of the user goes on.  The second critical section of `subscription_add` waits while
the notifications center is in `add_notif`. -/
def userStep (c : NotifThreads) : Option (NotifThreads × NotifOut) :=
  match c.user with
  | .idle => none
  | .adding sb =>
      match c.center with
      | .idle =>
          some ({ c with subscriptions := c.subscriptions.append sb, user := .idle }, .quiet)
      | .enqueuing .. => none
  | .printing nbFeed i =>
      if i < nbFeed then (c.printEntry nbFeed i).map fun c => (c, .quiet)
      else some ({ c with user := .idle }, .quiet)
  | .dequeuing nbFeed i ptr feed loc =>
      (c.printNext nbFeed i ptr feed loc).map fun c => (c, .quiet)
  | .showing nbFeed i ptr feed node => c.printMessage nbFeed i ptr feed node

/-- The two threads. -/
def step (c : NotifThreads) : ThreadAct → Option (NotifThreads × NotifOut)
  | .subscriptionAdd call =>
      match c.user with
      | .idle => some (c.subscriptionAdd call, .quiet)
      | _ => none
  | .printNotif =>
      match c.user with
      | .idle => some ({ c with user := .printing c.notification.length 0 }, .quiet)
      | _ => none
  | .user => c.userStep
  | .addNotif fd message pseudo p block =>
      match c.center with
      | .idle => c.addNotif fd message pseudo p block
      | .enqueuing .. => none
  | .center => c.centerStep

end NotifThreads

/-- The entry on whose queue a call of `dequeue` is at work, once it has found `length` to be other
than `0`. -/
def PrintLoc.dequeues : PrintLoc → Option ℕ
  | .dequeuing _ _ _ _ .test => none
  | .dequeuing _ i _ _ _ => some i
  | _ => none

/-- The entry on whose queue a call of `enqueue` is at work. -/
def AddNotifLoc.enqueues : AddNotifLoc → Option ℕ
  | .idle => none
  | .enqueuing _ _ _ ptr _ _ => some ptr.index

/-- A call of `enqueue` and one of `dequeue` are at work on the same queue. -/
def NotifThreads.Overlaps (c : NotifThreads) : Prop :=
  c.user.dequeues ≠ none ∧ c.user.dequeues = c.center.enqueues

instance (c : NotifThreads) : Decidable c.Overlaps := inferInstanceAs (Decidable (_ ∧ _))

end Megaphone
