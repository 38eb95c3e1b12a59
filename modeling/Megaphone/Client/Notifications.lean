import Megaphone.Library.Machine
import Megaphone.Server.Data

/-!
The notifications of the client (`data.c` and `print_notif` of `tcp_client.c`), when a call of
`enqueue` or of `dequeue` is one step.

* `Message`, `Notif`, `Sb`, `NotifData`: the data, with a queue as the list of its messages, and
  where the thread of the user is.
* `NotifAct`, `step`: the two threads, in any order: the user subscribes and displays the
  notifications, and the notifications center takes messages in.
* `NotifStep`, `step_cases`: all that a step can do.
* `Inv`: what holds of the pointers as long as `m_notification` has not moved; `Indexed`: which
  entry they are for.
* `step_conserves`: what is given is displayed or still in a queue.
-/

namespace Megaphone

open Memory

/-! ### The data -/

/-- `Message`. -/
structure Message where
  data : Vector UInt8 NT_DATA_LEN
  pseudo : Pseudo

/-- `Notif`, with the list of the messages that the nodes of its queue hold. -/
structure Notif where
  nbfeed : UInt16
  messages : List Message

instance : CZero Notif := ⟨⟨0, []⟩⟩

/-- `Sb`; `notif` points into `m_notification`. -/
structure Sb where
  multInfo : Mult
  notif : Ptr

instance : CZero Sb := ⟨⟨⟨.replicate ADDRMULT_LEN 0, 0, 0, 0⟩, ⟨0, 0⟩⟩⟩

/-- Where the thread of the user is.

* `adding sb`: in `subscription_add`, between its two critical sections;
* `printing nbFeed i`: in `print_notif`, before entry `i` of the first `nbFeed`;
* `dequeuing nbFeed i notif feed`: there, under the heading of the feed, before a call of `dequeue`
  on the queue of the entry `notif`;
* `showing nbFeed i notif feed message`: there, with a message of the entry at hand. -/
inductive UserThread
  | idle
  | adding (sb : Sb)
  | printing (nbFeed i : ℕ)
  | dequeuing (nbFeed i : ℕ) (notif : Ptr) (feed : UInt16)
  | showing (nbFeed i : ℕ) (notif : Ptr) (feed : UInt16) (message : Message)

/-- The variables `m_subscriptions` and `m_notification`, and the thread of the user. -/
structure NotifData where
  subscriptions : FullArray Sb
  notification : FullArray Notif
  user : UserThread

/-- The arguments of a call of `subscription_add`, with what its variable `mult` holds before. -/
structure SubscriptionCall where
  addr : Vector UInt8 ADDRMULT_LEN
  port : UInt16
  sfd : ℕ
  feedNb : UInt16
  junkMult : Mult

/-- What may happen.

* `subscriptionAdd`: the user's thread calls `subscription_add`, up to the end of its first critical
  section;
* `printNotif`: it calls `print_notif`;
* `user`: it goes on;
* `addNotif`: the notifications center calls `add_notif`. -/
inductive NotifAct
  | subscriptionAdd (call : SubscriptionCall)
  | printNotif
  | user
  | addNotif (fd : ℕ) (message : ℕ → UInt8) (pseudo : Pseudo)

/-- The return code of `add_notif`, and what `print_notif` displays: a message from the entry number
`entry`, under the heading of a feed. -/
inductive NotifOut
  | quiet
  | added (err : UInt8)
  | shown (entry : ℕ) (feed : UInt16) (message : Message)

/-- The local variable `msg` of `add_notif`. -/
def localMessage (message : ℕ → UInt8) (pseudo : Pseudo) : Message :=
  ⟨Vector.ofFn fun i => message i, pseudo⟩

/-- A whole call of `dequeue` on the queue of an entry: the message and the entry, or `none` for
`NULL`. -/
def Notif.dequeue (notif : Notif) : Option (Message × Notif) :=
  match notif.messages with
  | [] => none
  | message :: messages => some (message, { notif with messages := messages })

/-- A whole call of `enqueue`. -/
def Notif.enqueue (notif : Notif) (message : Message) : Notif :=
  { notif with messages := notif.messages ++ [message] }

namespace NotifData

/-- `data_init`. -/
def dataInit : NotifData := ⟨.arrayNew Sb 0, .arrayNew Notif 0, .idle⟩

/-- What a pointer into `m_notification` reads, `none` when it is no longer one. -/
def deref (c : NotifData) (notif : Ptr) : Option Notif := c.notification.toCArray.deref notif

/-- Writing through a pointer. -/
def put (c : NotifData) (ptr : Ptr) (notif : Notif) : NotifData :=
  { c with notification := c.notification.write ptr.index notif }

/-- The local variable `sb` of `subscription_add`.  Of the address, `sizeof(*addr)` bytes are
copied, which is one. -/
def localSb (call : SubscriptionCall) (notif : Ptr) : Sb :=
  { multInfo := { call.junkMult with
      addr := call.junkMult.addr.set 0 call.addr[0]
      port := call.port
      sockFd := call.sfd }
    notif := notif }

/-- `subscription_add`, up to the end of the first critical section. -/
def subscriptionAdd (c : NotifData) (call : SubscriptionCall) : NotifData :=
  let notification := c.notification.append ⟨call.feedNb, []⟩
  let notif := notification.toCArray.addr (notification.length - 1)
  { c with notification := notification, user := .adding (localSb call notif) }

/-- `add_notif`: the return code and the data. -/
def addNotif (c : NotifData) (fd : ℕ) (message : ℕ → UInt8) (pseudo : Pseudo) :
    Option (UInt8 × NotifData) :=
  match c.subscriptions.toList.find? fun sb => sb.multInfo.sockFd == fd with
  | none => some (1, c)
  | some sb => do
      let notif ← c.deref sb.notif
      some (0, c.put sb.notif (notif.enqueue (localMessage message pseudo)))

/-- The loop of `print_notif`, when the thread of the user goes on with entry `i`: the heading is
displayed if there are messages. -/
def printEntry (c : NotifData) (nbFeed i : ℕ) : Option NotifData := do
  let j ← c.notification.get i
  let ptr := c.notification.toCArray.addr j
  let notif ← c.deref ptr
  if notif.messages.length > 0 then
    some { c with user := .dequeuing nbFeed i ptr notif.nbfeed }
  else some { c with user := .printing nbFeed (i + 1) }

/-- The inner loop of `print_notif`, up to the next message. -/
def printNext (c : NotifData) (nbFeed i : ℕ) (ptr : Ptr) (feed : UInt16) : Option NotifData := do
  let notif ← c.deref ptr
  match notif.dequeue with
  | none => some { c with user := .printing nbFeed (i + 1) }
  | some (message, notif') =>
      some { c.put ptr notif' with user := .showing nbFeed i ptr feed message }

/-- The thread of the user goes on. -/
def userStep (c : NotifData) : Option (NotifData × NotifOut) :=
  match c.user with
  | .idle => none
  | .adding sb =>
      some ({ c with subscriptions := c.subscriptions.append sb, user := .idle }, .quiet)
  | .printing nbFeed i =>
      if i < nbFeed then (c.printEntry nbFeed i).map fun c => (c, .quiet)
      else some ({ c with user := .idle }, .quiet)
  | .dequeuing nbFeed i ptr feed => (c.printNext nbFeed i ptr feed).map fun c => (c, .quiet)
  | .showing nbFeed i ptr feed message =>
      some ({ c with user := .dequeuing nbFeed i ptr feed }, .shown i feed message)

/-- The two threads. -/
def step (c : NotifData) : NotifAct → Option (NotifData × NotifOut)
  | .subscriptionAdd call =>
      match c.user with
      | .idle => some (c.subscriptionAdd call, .quiet)
      | _ => none
  | .printNotif =>
      match c.user with
      | .idle => some ({ c with user := .printing c.notification.length 0 }, .quiet)
      | _ => none
  | .user => c.userStep
  | .addNotif fd message pseudo => (c.addNotif fd message pseudo).map fun p => (p.2, .added p.1)

/-! ### All that a step can do -/

/-- A step, by what the thread of the user was doing. -/
inductive NotifStep (c : NotifData) : NotifAct → NotifData → NotifOut → Prop
  | subscribe (call : SubscriptionCall) (huser : c.user = .idle) :
      NotifStep c (.subscriptionAdd call) (c.subscriptionAdd call) .quiet
  | subscribed (sb : Sb) (huser : c.user = .adding sb) :
      NotifStep c .user { c with subscriptions := c.subscriptions.append sb, user := .idle } .quiet
  | print (huser : c.user = .idle) :
      NotifStep c .printNotif { c with user := .printing c.notification.length 0 } .quiet
  | printed {nbFeed i : ℕ} (huser : c.user = .printing nbFeed i) (hge : nbFeed ≤ i) :
      NotifStep c .user { c with user := .idle } .quiet
  | skip {nbFeed i : ℕ} {notif : Notif} (huser : c.user = .printing nbFeed i) (hlt : i < nbFeed)
      (hget : c.notification.get i = some i)
      (hnotif : c.deref (c.notification.toCArray.addr i) = some notif)
      (hempty : notif.messages = []) :
      NotifStep c .user { c with user := .printing nbFeed (i + 1) } .quiet
  | heading {nbFeed i : ℕ} {notif : Notif} (huser : c.user = .printing nbFeed i) (hlt : i < nbFeed)
      (hget : c.notification.get i = some i)
      (hnotif : c.deref (c.notification.toCArray.addr i) = some notif)
      (hne : notif.messages ≠ []) :
      NotifStep c .user
        { c with user := .dequeuing nbFeed i (c.notification.toCArray.addr i) notif.nbfeed } .quiet
  | last {nbFeed i : ℕ} {ptr : Ptr} {feed : UInt16} {notif : Notif}
      (huser : c.user = .dequeuing nbFeed i ptr feed) (hnotif : c.deref ptr = some notif)
      (hempty : notif.messages = []) :
      NotifStep c .user { c with user := .printing nbFeed (i + 1) } .quiet
  | next {nbFeed i : ℕ} {ptr : Ptr} {feed : UInt16} {message : Message} {notif : Notif}
      {messages : List Message} (huser : c.user = .dequeuing nbFeed i ptr feed)
      (hnotif : c.deref ptr = some notif) (hmessages : notif.messages = message :: messages) :
      NotifStep c .user { c.put ptr { notif with messages := messages }
        with user := .showing nbFeed i ptr feed message } .quiet
  | displayed {nbFeed i : ℕ} {ptr : Ptr} {feed : UInt16} {message : Message}
      (huser : c.user = .showing nbFeed i ptr feed message) :
      NotifStep c .user { c with user := .dequeuing nbFeed i ptr feed } (.shown i feed message)
  | unknown {fd : ℕ} (message : ℕ → UInt8) (pseudo : Pseudo)
      (hfind : (c.subscriptions.toList.find? fun sb => sb.multInfo.sockFd == fd) = none) :
      NotifStep c (.addNotif fd message pseudo) c (.added 1)
  | enqueued {fd : ℕ} (message : ℕ → UInt8) (pseudo : Pseudo) {sb : Sb} {notif : Notif}
      (hfind : (c.subscriptions.toList.find? fun sb => sb.multInfo.sockFd == fd) = some sb)
      (hnotif : c.deref sb.notif = some notif) :
      NotifStep c (.addNotif fd message pseudo)
        (c.put sb.notif (notif.enqueue (localMessage message pseudo))) (.added 0)

variable {c c' : NotifData} {o : NotifOut}

lemma get_eq {i j : ℕ} (h : c.notification.get i = some j) : j = i := CArray.eq_of_get h

lemma userStep_cases (h : c.userStep = some (c', o)) : NotifStep c .user c' o := by
  rw [userStep] at h
  cases huser : c.user with
  | idle => simp only [huser, reduceCtorEq] at h
  | adding sb =>
      simp only [huser, Option.some.injEq, Prod.mk.injEq] at h
      obtain ⟨rfl, rfl⟩ := h
      exact .subscribed sb huser
  | printing nbFeed i =>
      simp only [huser] at h
      split at h
      next hlt =>
        obtain ⟨c₁, hc₁, heq⟩ := Option.map_eq_some_iff.mp h
        obtain ⟨rfl, rfl⟩ := Prod.mk.inj heq
        obtain ⟨j, hj, hc₁⟩ := Option.bind_eq_some_iff.mp hc₁
        obtain rfl := get_eq hj
        obtain ⟨notif, hnotif, hc₁⟩ := Option.bind_eq_some_iff.mp hc₁
        split at hc₁
        next hpos =>
          cases hc₁
          exact .heading huser hlt hj hnotif (List.length_pos_iff.mp hpos)
        next hzero =>
          cases hc₁
          exact .skip huser hlt hj hnotif
            (List.length_eq_zero_iff.mp (Nat.eq_zero_of_not_pos hzero))
      next hge =>
        obtain ⟨rfl, rfl⟩ := Prod.mk.inj (Option.some.inj h)
        exact .printed huser (not_lt.mp hge)
  | showing nbFeed i ptr feed message =>
      simp only [huser, Option.some.injEq, Prod.mk.injEq] at h
      obtain ⟨rfl, rfl⟩ := h
      exact .displayed huser
  | dequeuing nbFeed i ptr feed =>
      simp only [huser] at h
      obtain ⟨c₁, hc₁, heq⟩ := Option.map_eq_some_iff.mp h
      obtain ⟨rfl, rfl⟩ := Prod.mk.inj heq
      obtain ⟨notif, hnotif, hc₁⟩ := Option.bind_eq_some_iff.mp hc₁
      cases hmessages : notif.messages with
      | nil =>
          simp only [Notif.dequeue, hmessages, Option.some.injEq] at hc₁
          rw [← hc₁]
          exact .last huser hnotif hmessages
      | cons message messages =>
          simp only [Notif.dequeue, hmessages, Option.some.injEq] at hc₁
          rw [← hc₁]
          exact .next huser hnotif hmessages

/-- **All that a step can do.** -/
lemma step_cases {a : NotifAct} (h : c.step a = some (c', o)) : NotifStep c a c' o := by
  cases a with
  | subscriptionAdd call =>
      cases huser : c.user with
      | idle =>
          simp only [step, huser, Option.some.injEq, Prod.mk.injEq] at h
          obtain ⟨rfl, rfl⟩ := h
          exact .subscribe call huser
      | adding sb => simp only [step, huser, reduceCtorEq] at h
      | printing nbFeed i => simp only [step, huser, reduceCtorEq] at h
      | dequeuing nbFeed i ptr feed => simp only [step, huser, reduceCtorEq] at h
      | showing nbFeed i ptr feed message => simp only [step, huser, reduceCtorEq] at h
  | printNotif =>
      cases huser : c.user with
      | idle =>
          simp only [step, huser, Option.some.injEq, Prod.mk.injEq] at h
          obtain ⟨rfl, rfl⟩ := h
          exact .print huser
      | adding sb => simp only [step, huser, reduceCtorEq] at h
      | printing nbFeed i => simp only [step, huser, reduceCtorEq] at h
      | dequeuing nbFeed i ptr feed => simp only [step, huser, reduceCtorEq] at h
      | showing nbFeed i ptr feed message => simp only [step, huser, reduceCtorEq] at h
  | user => exact userStep_cases h
  | addNotif fd message pseudo =>
      obtain ⟨⟨err, c₁⟩, hadd, heq⟩ := Option.map_eq_some_iff.mp h
      obtain ⟨rfl, rfl⟩ := Prod.mk.inj heq
      rw [addNotif] at hadd
      split at hadd
      next hfind =>
        obtain ⟨rfl, rfl⟩ := Prod.mk.inj (Option.some.inj hadd)
        exact .unknown message pseudo hfind
      next sb hfind =>
        obtain ⟨notif, hnotif, hadd⟩ := Option.bind_eq_some_iff.mp hadd
        obtain ⟨rfl, rfl⟩ := Prod.mk.inj (Option.some.inj hadd)
        exact .enqueued message pseudo hfind hnotif

/-- And it can do all of that. -/
lemma NotifStep.step_eq {a : NotifAct} (h : NotifStep c a c' o) : c.step a = some (c', o) := by
  cases h with
  | subscribe call huser => simp only [step, huser]
  | subscribed sb huser => simp only [step, userStep, huser]
  | print huser => simp only [step, huser]
  | printed huser hge => simp only [step, userStep, huser, if_neg (not_lt.mpr hge)]
  | skip huser hlt hget hnotif hempty =>
      simp only [step, userStep, huser, if_pos hlt, printEntry, hget, hnotif, hempty,
        List.length_nil, gt_iff_lt, lt_irrefl, if_false, Option.bind_eq_bind, Option.bind_some,
        Option.map_some]
  | heading huser hlt hget hnotif hne =>
      simp only [step, userStep, huser, if_pos hlt, printEntry, hget, hnotif,
        if_pos (List.length_pos_iff.mpr hne), Option.bind_eq_bind, Option.bind_some,
        Option.map_some]
  | last huser hnotif hempty =>
      simp only [step, userStep, huser, printNext, hnotif, Notif.dequeue, hempty,
        Option.bind_eq_bind, Option.bind_some, Option.map_some]
  | next huser hnotif hmessages =>
      simp only [step, userStep, huser, printNext, hnotif, Notif.dequeue, hmessages,
        Option.bind_eq_bind, Option.bind_some, Option.map_some]
  | displayed huser => simp only [step, userStep, huser]
  | unknown message pseudo hfind => simp only [step, addNotif, hfind, Option.map_some]
  | enqueued message pseudo hfind hnotif =>
      simp only [step, addNotif, hfind, hnotif, Option.bind_eq_bind, Option.bind_some,
        Option.map_some]

/-! ### What the pointers designate -/

/-- The `Sb` that is not stored yet. -/
def adding (c : NotifData) : List Sb :=
  match c.user with
  | .adding sb => [sb]
  | _ => []

/-- The `Sb` of every call so far. -/
def entries (c : NotifData) : List Sb := c.subscriptions.toList ++ c.adding

/-- The sockets of the calls so far, and their feeds. -/
def sockets (c : NotifData) : List ℕ := c.entries.map (·.multInfo.sockFd)

def feeds (c : NotifData) : List UInt16 := c.notification.toList.map (·.nbfeed)

/-- The queue of an entry. -/
def queue (c : NotifData) (j : ℕ) : List Message :=
  (c.notification.toList[j]?).elim [] (·.messages)

/-- The message of an entry that is about to be displayed. -/
def atHand (c : NotifData) (j : ℕ) : List Message :=
  match c.user with
  | .showing _ i _ _ message => if i = j then [message] else []
  | _ => []

/-- `print_notif` is at entry `i`, with a pointer to it. -/
def AtEntry (c : NotifData) (nbFeed i : ℕ) (ptr : Ptr) (feed : UInt16) : Prop :=
  i < nbFeed ∧ nbFeed ≤ c.notification.toList.length ∧ ptr = c.notification.toCArray.addr i ∧
    c.feeds[i]? = some feed

/-- What `print_notif` relies on, where it is. -/
def UserInv (c : NotifData) : Prop :=
  match c.user with
  | .idle => True
  | .adding _ => True
  | .printing nbFeed _ => nbFeed ≤ c.notification.toList.length
  | .dequeuing nbFeed i ptr feed => c.AtEntry nbFeed i ptr feed
  | .showing nbFeed i ptr feed _ => c.AtEntry nbFeed i ptr feed

/-- The invariant of every run: call number `j` has made entry number `j`, and as long as there were
at most `INIT_CAP` of them its pointer was into the first block. -/
structure Inv (c : NotifData) : Prop where
  grows : (CArray.arrayNew Notif 0).GrowsTo c.notification.toCArray
  length_eq : c.entries.length = c.notification.toList.length
  notif_eq : ∀ j sb, c.entries[j]? = some sb → j < INIT_CAP → sb.notif = ⟨0, j⟩
  user : c.UserInv

lemma inv_dataInit : dataInit.Inv := by
  refine ⟨.refl (Nat.zero_le _), rfl, fun j sb h => ?_, trivial⟩
  rw [show dataInit.entries = [] from rfl, List.getElem?_nil] at h
  cases h

/-- As long as `m_notification` has not moved, its pointers are into the first block. -/
lemma Inv.block_eq (h : c.Inv) (hle : c.notification.toList.length ≤ INIT_CAP) :
    c.notification.toCArray.block = 0 := by
  have hlength := c.notification.holds.length_eq
  exact (h.grows.stays (by rw [hlength]; exact hle)).1

lemma Inv.block_pos (h : c.Inv) (hlt : INIT_CAP < c.notification.toList.length) :
    0 < c.notification.toCArray.block := by
  have hlength := c.notification.holds.length_eq
  exact h.grows.moves (by rw [hlength]; exact hlt)

/-- What a pointer reads is an entry, if its index is one. -/
lemma getElem?_of_deref {ptr : Ptr} {notif : Notif} (h : c.deref ptr = some notif)
    (hlt : ptr.index < c.notification.toList.length) :
    c.notification.toList[ptr.index]? = some notif := by
  rw [deref, CArray.deref] at h
  split at h
  next => exact FullArray.getElem?_of_at? h hlt
  next => cases h

/-- The queues when other messages have been written to an entry. -/
lemma queue_put (ptr : Ptr) (notif : Notif) (hlt : ptr.index < c.notification.toList.length)
    (j : ℕ) : (c.put ptr notif).queue j = if j = ptr.index then notif.messages else c.queue j := by
  rw [queue, put, FullArray.toList_write]
  split
  next hj =>
    rw [hj, List.getElem?_set_self hlt]
    rfl
  next hj =>
    rw [List.getElem?_set_ne (Ne.symm hj)]
    rfl

/-- An entry that `print_notif` is at. -/
lemma AtEntry.getElem? {nbFeed i : ℕ} {ptr : Ptr} {feed : UInt16} {notif : Notif}
    (h : c.AtEntry nbFeed i ptr feed) (hnotif : c.deref ptr = some notif) :
    c.notification.toList[i]? = some notif := by
  obtain ⟨hlt, hle, rfl, -⟩ := h
  exact getElem?_of_deref hnotif (lt_of_lt_of_le hlt hle)

/-- `print_notif` begins with an entry. -/
lemma atEntry_addr {nbFeed i : ℕ} {notif : Notif} (hlt : i < nbFeed)
    (hle : nbFeed ≤ c.notification.toList.length)
    (hnotif : c.deref (c.notification.toCArray.addr i) = some notif) :
    c.AtEntry nbFeed i (c.notification.toCArray.addr i) notif.nbfeed := by
  have hget : c.notification.toList[i]? = some notif :=
    getElem?_of_deref hnotif (lt_of_lt_of_le hlt hle)
  refine ⟨hlt, hle, rfl, ?_⟩
  rw [feeds, List.getElem?_map, hget, Option.map_some]

/-- Writing to an entry keeps its feed. -/
lemma feeds_put {ptr : Ptr} {notif : Notif} (h : c.deref ptr = some notif) (notif' : Notif)
    (hnbfeed : notif'.nbfeed = notif.nbfeed) : (c.put ptr notif').feeds = c.feeds := by
  rw [feeds, put, FullArray.toList_write, feeds]
  by_cases hlt : ptr.index < c.notification.toList.length
  · obtain ⟨hget, hnotif⟩ := List.getElem?_eq_some_iff.mp (getElem?_of_deref h hlt)
    have hlt' : ptr.index < (c.notification.toList.map (·.nbfeed)).length := by simpa
    have hself : notif'.nbfeed = (c.notification.toList.map (·.nbfeed))[ptr.index] := by
      rw [hnbfeed, List.getElem_map, hnotif]
    rw [List.map_set, hself, List.set_getElem_self]
  · rw [List.set_eq_of_length_le (not_lt.mp hlt)]

/-! ### What a step does -/

/-- A call of `subscription_add` adds one entry at the end. -/
lemma Inv.subscriptionAdd (h : c.Inv) (call : SubscriptionCall) (huser : c.user = .idle) :
    (c.subscriptionAdd call).Inv := by
  have hlength : ((c.notification.append ⟨call.feedNb, []⟩).length - 1) =
      c.notification.toList.length := by
    rw [FullArray.length_eq, FullArray.toList_append, List.length_append, List.length_singleton,
      Nat.add_sub_cancel]
  have hentries : (c.subscriptionAdd call).entries = c.entries ++
      [localSb call ((c.notification.append ⟨call.feedNb, []⟩).toCArray.addr
        c.notification.toList.length)] := by
    rw [entries, entries, adding, adding, huser, List.append_nil, NotifData.subscriptionAdd,
      hlength]
  have hgrows : (CArray.arrayNew Notif 0).GrowsTo
      (c.notification.append ⟨call.feedNb, []⟩).toCArray :=
    h.grows.trans (c.notification.holds.growsTo_append _)
  refine ⟨hgrows, ?_, fun j sb hsb hj => ?_, trivial⟩
  · rw [hentries, List.length_append, h.length_eq, NotifData.subscriptionAdd,
      FullArray.toList_append, List.length_append]
    rfl
  · rw [hentries] at hsb
    by_cases hold : j < c.entries.length
    · rw [List.getElem?_append_left hold] at hsb
      exact h.notif_eq j sb hsb hj
    · have hlt := (List.getElem?_eq_some_iff.mp hsb).1
      rw [List.length_append, List.length_singleton] at hlt
      obtain rfl : j = c.entries.length := by omega
      rw [List.getElem?_concat_length, Option.some.injEq] at hsb
      have hholds := (c.notification.append ⟨call.feedNb, []⟩).holds.length_eq
      rw [FullArray.toList_append, List.length_append, List.length_singleton] at hholds
      have hblock : (c.notification.append ⟨call.feedNb, []⟩).toCArray.block = 0 :=
        (hgrows.stays (by rw [hholds, ← h.length_eq]; exact hj)).1
      rw [← hsb, localSb, CArray.addr, hblock, h.length_eq]

/-- Messages are taken from an entry or put into it. -/
lemma Inv.put (h : c.Inv) {ptr : Ptr} {notif : Notif} (hnotif : c.deref ptr = some notif)
    (notif' : Notif) (hnbfeed : notif'.nbfeed = notif.nbfeed) : (c.put ptr notif').Inv := by
  have hfeeds := feeds_put hnotif notif' hnbfeed
  have hlength : (c.put ptr notif').notification.toList.length = c.notification.toList.length := by
    rw [NotifData.put, FullArray.toList_write, List.length_set]
  refine ⟨h.grows.trans (c.notification.holds.growsTo_write _ _), ?_, h.notif_eq, ?_⟩
  · rw [hlength]
    exact h.length_eq
  · have huser := h.user
    simp only [UserInv, AtEntry] at huser ⊢
    rw [hfeeds, hlength]
    exact huser

/-- The thread of the user goes on without a change of the entries. -/
lemma Inv.withUser (h : c.Inv) (hadding : c.adding = []) {user : UserThread}
    (hadding' : ({ c with user := user } : NotifData).adding = [])
    (huser : ({ c with user := user } : NotifData).UserInv) :
    ({ c with user := user } : NotifData).Inv := by
  have hentries : ({ c with user := user } : NotifData).entries = c.entries := by
    rw [entries, entries, hadding, hadding']
  exact ⟨h.grows, by rw [hentries]; exact h.length_eq, by rw [hentries]; exact h.notif_eq, huser⟩

lemma step_inv {a : NotifAct} (h : c.Inv) (hstep : NotifStep c a c' o) : c'.Inv := by
  have huser := h.user
  rw [UserInv] at huser
  cases hstep with
  | subscribe call hidle => exact h.subscriptionAdd call hidle
  | subscribed sb hadding =>
      have hentries : ({ c with subscriptions := c.subscriptions.append sb, user := .idle } :
          NotifData).entries = c.entries := by
        rw [entries, entries, adding, adding, hadding, FullArray.toList_append, List.append_nil]
      exact ⟨h.grows, by rw [hentries]; exact h.length_eq, by rw [hentries]; exact h.notif_eq,
        trivial⟩
  | print hidle =>
      refine h.withUser (by rw [adding, hidle]) rfl ?_
      show c.notification.length ≤ c.notification.toList.length
      rw [FullArray.length_eq]
  | printed hprinting hge => exact h.withUser (by rw [adding, hprinting]) rfl trivial
  | skip hprinting hlt hget hnotif hempty =>
      rw [hprinting] at huser
      exact h.withUser (by rw [adding, hprinting]) rfl huser
  | heading hprinting hlt hget hnotif hne =>
      rw [hprinting] at huser
      exact h.withUser (by rw [adding, hprinting]) rfl (atEntry_addr hlt huser hnotif)
  | last hdequeuing hnotif hempty =>
      rw [hdequeuing] at huser
      exact h.withUser (by rw [adding, hdequeuing]) rfl huser.2.1
  | displayed hshowing =>
      rw [hshowing] at huser
      exact h.withUser (by rw [adding, hshowing]) rfl huser
  | @next nbFeed i ptr feed message notif messages hdequeuing hnotif hmessages =>
      rw [hdequeuing] at huser
      have hput := h.put hnotif { notif with messages := messages } rfl
      refine hput.withUser (by rw [adding]; simp only [NotifData.put, hdequeuing]) rfl ?_
      have hfeeds := feeds_put hnotif { notif with messages := messages } rfl
      refine ⟨huser.1, ?_, huser.2.2.1, ?_⟩
      · rw [NotifData.put, FullArray.toList_write, List.length_set]
        exact huser.2.1
      · show (c.put ptr { notif with messages := messages }).feeds[i]? = _
        rw [hfeeds]
        exact huser.2.2.2
  | unknown message pseudo hfind => exact h
  | enqueued message pseudo hfind hnotif => exact h.put hnotif _ rfl

/-- The pointer of call number `j` is to entry number `j`, wherever `m_notification` is. -/
def Indexed (c : NotifData) : Prop := ∀ j, ∀ sb : Sb, c.entries[j]? = some sb → sb.notif.index = j

/-- Only a call of `subscription_add` makes an entry. -/
lemma entries_eq {u : NotifAct} (h : NotifStep c u c' o)
    (hu : ∀ call, u ≠ .subscriptionAdd call) :
    c'.entries = c.entries := by
  cases h with
  | subscribe call hidle => exact absurd rfl (hu call)
  | subscribed sb hadding =>
      rw [entries, entries, adding, adding, hadding, FullArray.toList_append, List.append_nil]
  | print hidle => rw [entries, entries, adding, adding, hidle]
  | printed hprinting hge => rw [entries, entries, adding, adding, hprinting]
  | skip hprinting hlt hget hnotif hempty => rw [entries, entries, adding, adding, hprinting]
  | heading hprinting hlt hget hnotif hne => rw [entries, entries, adding, adding, hprinting]
  | last hdequeuing hnotif hempty => rw [entries, entries, adding, adding, hdequeuing]
  | next hdequeuing hnotif hmessages =>
      rw [entries, entries, adding, adding, hdequeuing]
      rfl
  | displayed hshowing => rw [entries, entries, adding, adding, hshowing]
  | unknown message pseudo hfind => rfl
  | enqueued message pseudo hfind hnotif => rfl

/-- The entry that a call makes. -/
lemma Indexed.subscriptionAdd (hindexed : c.Indexed) (hinv : c.Inv) (call : SubscriptionCall)
    (hidle : c.user = .idle) : (c.subscriptionAdd call).Indexed := by
  have hlength : (c.notification.append ⟨call.feedNb, []⟩).length - 1 = c.entries.length := by
    rw [FullArray.length_eq, FullArray.toList_append, List.length_append, List.length_singleton,
      Nat.add_sub_cancel, hinv.length_eq]
  have hentries : (c.subscriptionAdd call).entries = c.entries ++
      [localSb call ((c.notification.append ⟨call.feedNb, []⟩).toCArray.addr
        c.entries.length)] := by
    rw [entries, adding, NotifData.subscriptionAdd, hlength, entries, adding, hidle,
      List.append_nil]
  intro j sb hsb
  rw [hentries] at hsb
  obtain hlt | rfl | hgt := lt_trichotomy j c.entries.length
  · rw [List.getElem?_append_left hlt] at hsb
    exact hindexed j sb hsb
  · rw [List.getElem?_concat_length, Option.some.injEq] at hsb
    rw [← hsb]
    rfl
  · rw [List.getElem?_eq_none (by simp; omega)] at hsb
    cases hsb

lemma Indexed.step {u : NotifAct} (hindexed : c.Indexed) (hinv : c.Inv)
    (h : NotifStep c u c' o) : c'.Indexed := by
  by_cases hu : ∃ call, u = .subscriptionAdd call
  · obtain ⟨call, rfl⟩ := hu
    cases h with
    | subscribe call hidle => exact hindexed.subscriptionAdd hinv call hidle
  · intro j sb hsb
    rw [entries_eq h fun call hcall => hu ⟨call, hcall⟩] at hsb
    exact hindexed j sb hsb

lemma indexed_dataInit : dataInit.Indexed := by
  intro j sb h
  rw [show dataInit.entries = [] from rfl, List.getElem?_nil] at h
  cases h

/-! ### Runs -/

/-- A transition of the two threads. -/
abbrev NotifTransition := Machine.Transition NotifData NotifAct NotifOut

/-- The call of `subscription_add` that begins with a step. -/
def callOf : NotifAct → Option SubscriptionCall
  | .subscriptionAdd call => some call
  | _ => none

/-- The calls of `subscription_add` of a run. -/
def calls (ts : List NotifTransition) : List SubscriptionCall := ts.filterMap fun t => callOf t.act

/-- The message that a transition gives to `add_notif` with the socket of subscription `j`. -/
def givenTo (j : ℕ) (t : NotifTransition) : List Message :=
  match t.act with
  | .addNotif fd message pseudo =>
      if (t.pre.subscriptions.toList[j]?).map (·.multInfo.sockFd) = some fd then
        [localMessage message pseudo]
      else []
  | _ => []

/-- The message that a transition displays from entry `j` under the heading of a feed. -/
def shownFrom (j : ℕ) (feed : UInt16) (t : NotifTransition) : List Message :=
  match t.out with
  | .shown i feed' message => if i = j ∧ feed' = feed then [message] else []
  | _ => []

/-- A step adds the socket and the feed of the call that begins with it. -/
lemma step_entries {a : NotifAct} (hstep : NotifStep c a c' o) :
    c'.sockets = c.sockets ++ ((callOf a).map (·.sfd)).toList ∧
      c'.feeds = c.feeds ++ ((callOf a).map (·.feedNb)).toList := by
  cases hstep with
  | subscribe call hidle =>
      refine ⟨?_, ?_⟩
      · simp [sockets, entries, adding, hidle, subscriptionAdd, callOf, localSb]
      · simp [feeds, subscriptionAdd, callOf]
  | subscribed sb hadding => simp [sockets, entries, adding, hadding, feeds, callOf]
  | print hidle => simp [sockets, entries, adding, hidle, feeds, callOf]
  | printed hprinting hge => simp [sockets, entries, adding, hprinting, feeds, callOf]
  | skip hprinting hlt hget hnotif hempty =>
      simp [sockets, entries, adding, hprinting, feeds, callOf]
  | heading hprinting hlt hget hnotif hne =>
      simp [sockets, entries, adding, hprinting, feeds, callOf]
  | last hdequeuing hnotif hempty => simp [sockets, entries, adding, hdequeuing, feeds, callOf]
  | displayed hshowing => simp [sockets, entries, adding, hshowing, feeds, callOf]
  | @next nbFeed i ptr feed message notif messages hdequeuing hnotif hmessages =>
      refine ⟨?_, ?_⟩
      · simp [sockets, entries, adding, hdequeuing, put, callOf]
      · have hfeeds := feeds_put hnotif { notif with messages := messages } rfl
        exact hfeeds.trans (List.append_nil _).symm
  | unknown message pseudo hfind => simp [callOf]
  | enqueued message pseudo hfind hnotif =>
      have hnbfeed : ∀ notif : Notif, (notif.enqueue (localMessage message pseudo)).nbfeed =
          notif.nbfeed := fun _ => rfl
      have hfeeds := feeds_put hnotif _ (hnbfeed _)
      exact ⟨(List.append_nil _).symm, hfeeds.trans (List.append_nil _).symm⟩

/-- The entries of a run are those of its calls. -/
lemma run_entries {ts : List NotifTransition} (h : Machine.Run step c ts c') :
    c'.sockets = c.sockets ++ (calls ts).map (·.sfd) ∧
      c'.feeds = c.feeds ++ (calls ts).map (·.feedNb) := by
  induction h with
  | nil => simp [calls]
  | @cons c c₁ c' a o ts hstep _ ih =>
      obtain ⟨hsockets, hfeeds⟩ := step_entries (step_cases hstep)
      obtain ⟨ih₁, ih₂⟩ := ih
      have hcalls : calls (⟨c, a, o, c₁⟩ :: ts) = (callOf a).toList ++ calls ts := by
        rw [calls, List.filterMap_cons]
        cases callOf a <;> rfl
      rw [ih₁, ih₂, hsockets, hfeeds, hcalls]
      cases callOf a <;> simp

lemma run_inv {ts : List NotifTransition} (h : Machine.Run step c ts c') (hc : c.Inv) : c'.Inv :=
  h.invariant (fun _ _ _ _ hs hstep => step_inv hs (step_cases hstep)) hc

/-- The subscription that `add_notif` finds, and the entry that its pointer designates. -/
lemma Inv.find? (h : c.Inv) (hle : c.notification.toList.length ≤ INIT_CAP) {fd : ℕ} {sb : Sb}
    (hfind : (c.subscriptions.toList.find? fun sb => sb.multInfo.sockFd == fd) = some sb) :
    ∃ k, c.subscriptions.toList[k]? = some sb ∧ sb.multInfo.sockFd = fd ∧ sb.notif = ⟨0, k⟩ ∧
      k < c.notification.toList.length := by
  obtain ⟨k, hk⟩ := List.getElem?_of_mem (List.mem_of_find?_eq_some hfind)
  have hentry : c.entries[k]? = some sb := by
    rw [entries, List.getElem?_append_left (List.getElem?_eq_some_iff.mp hk).1, hk]
  have hlt : k < c.notification.toList.length := by
    rw [← h.length_eq]
    exact (List.getElem?_eq_some_iff.mp hentry).1
  have hfd := List.find?_some hfind
  exact ⟨k, hk, beq_iff_eq.mp hfd, h.notif_eq k sb hentry (by omega), hlt⟩

/-- Different subscriptions have different sockets. -/
lemma eq_of_socket (hnodup : c.sockets.Nodup) {j k : ℕ} {sb sb' : Sb}
    (hj : c.subscriptions.toList[j]? = some sb) (hk : c.subscriptions.toList[k]? = some sb')
    (heq : sb.multInfo.sockFd = sb'.multInfo.sockFd) : j = k := by
  rw [sockets, entries, List.map_append, List.nodup_append] at hnodup
  have hlt : j < (c.subscriptions.toList.map (·.multInfo.sockFd)).length := by
    rw [List.length_map]
    exact (List.getElem?_eq_some_iff.mp hj).1
  refine (List.getElem?_inj hlt hnodup.1).mp ?_
  rw [List.getElem?_map, List.getElem?_map, hj, hk, Option.map_some, Option.map_some, heq]

/-- A new subscription has an empty queue. -/
lemma queue_subscriptionAdd (call : SubscriptionCall) (j : ℕ) :
    (c.subscriptionAdd call).queue j = c.queue j := by
  rw [queue, queue, subscriptionAdd, FullArray.toList_append]
  obtain hlt | rfl | hgt := lt_trichotomy j c.notification.toList.length
  · rw [List.getElem?_append_left hlt]
  · simp
  · rw [List.getElem?_eq_none (by simp; omega), List.getElem?_eq_none hgt.le]

/-- A message is taken from the front of the queue of its entry. -/
lemma queue_pop {i : ℕ} {notif : Notif} {message : Message} {messages : List Message}
    (hget : c.notification.toList[i]? = some notif)
    (hmessages : notif.messages = message :: messages) (j : ℕ) :
    (if i = j then [message] else []) ++
      (c.put (c.notification.toCArray.addr i) { notif with messages := messages }).queue j =
        c.queue j := by
  rw [queue_put _ _ (List.getElem?_eq_some_iff.mp hget).1]
  by_cases hj : i = j
  · subst hj
    rw [queue, hget]
    simp [hmessages, CArray.addr]
  · simp [hj, CArray.addr, Ne.symm hj]

/-- A message is put at the end of the queue of its entry. -/
lemma queue_push {k : ℕ} {ptr : Ptr} {notif : Notif} (hptr : ptr.index = k)
    (hget : c.notification.toList[k]? = some notif) (message : Message) (j : ℕ) :
    (c.put ptr (notif.enqueue message)).queue j =
      c.queue j ++ if j = k then [message] else [] := by
  rw [queue_put _ _ (by rw [hptr]; exact (List.getElem?_eq_some_iff.mp hget).1), hptr]
  by_cases hj : j = k
  · subst hj
    rw [if_pos rfl, if_pos rfl, queue, hget]
    rfl
  · rw [if_neg hj, if_neg hj, List.append_nil]

/-- What `print_notif` shows is under the heading of its entry. -/
lemma shown_eq {feeds : List UInt16} {i j : ℕ} {feed feed' : UInt16} (hi : feeds[i]? = some feed')
    (hfeed : ∀ f, feeds[j]? = some f → f = feed) (shown : Message) :
    (if i = j ∧ feed' = feed then [shown] else []) = if i = j then [shown] else [] := by
  by_cases hj : i = j
  · subst hj
    obtain rfl : feed' = feed := hfeed _ hi
    simp
  · simp [hj]

/-- A message for a socket without a subscription is given to none. -/
lemma givenTo_of_find?_eq_none {fd : ℕ} {message : ℕ → UInt8} {pseudo : Pseudo}
    (hfind : (c.subscriptions.toList.find? fun sb => sb.multInfo.sockFd == fd) = none) (j : ℕ) :
    givenTo j ⟨c, .addNotif fd message pseudo, o, c'⟩ = [] := by
  rw [givenTo]
  refine if_neg fun hsocket => ?_
  obtain ⟨sb, hsb, hfd⟩ := Option.map_eq_some_iff.mp hsocket
  have hno := List.find?_eq_none.mp hfind sb (List.mem_of_getElem? hsb)
  exact hno (beq_iff_eq.mpr hfd)

/-- A message is given to the subscription of its socket. -/
lemma givenTo_eq (hnodup : c.sockets.Nodup) {k fd : ℕ} {sb : Sb}
    (hk : c.subscriptions.toList[k]? = some sb) (hfd : sb.multInfo.sockFd = fd)
    (message : ℕ → UInt8) (pseudo : Pseudo) (j : ℕ) :
    givenTo j ⟨c, .addNotif fd message pseudo, o, c'⟩ =
      if j = k then [localMessage message pseudo] else [] := by
  rw [givenTo]
  by_cases hj : j = k
  · subst hj
    rw [hk, Option.map_some, hfd, if_pos rfl]
    exact if_pos rfl
  · rw [if_neg hj]
    refine if_neg fun hsocket => ?_
    obtain ⟨sb', hsb', hfd'⟩ := Option.map_eq_some_iff.mp hsocket
    exact hj (eq_of_socket hnodup hsb' hk (hfd'.trans hfd.symm))

/-- **The queues.**  In every step, what is about to be displayed and queued, followed by what is
given, is what is displayed, followed by what is about to be displayed and queued then. -/
lemma step_conserves {a : NotifAct} (h : c.Inv) (hle : c.notification.toList.length ≤ INIT_CAP)
    (hnodup : c.sockets.Nodup) (hstep : NotifStep c a c' o) {j : ℕ} {feed : UInt16}
    (hfeed : ∀ f, c'.feeds[j]? = some f → f = feed) :
    (c.atHand j ++ c.queue j) ++ givenTo j ⟨c, a, o, c'⟩ =
      shownFrom j feed ⟨c, a, o, c'⟩ ++ (c'.atHand j ++ c'.queue j) := by
  have huser := h.user
  rw [UserInv] at huser
  cases hstep with
  | subscribe call hidle =>
      have hhand : c.atHand j = [] := by rw [atHand, hidle]
      rw [hhand]
      show ([] ++ c.queue j) ++ [] = [] ++ ([] ++ (c.subscriptionAdd call).queue j)
      rw [queue_subscriptionAdd, List.append_nil]
      rfl
  | subscribed sb hadding => simp [givenTo, shownFrom, atHand, hadding, queue]
  | print hidle => simp [givenTo, shownFrom, atHand, hidle, queue]
  | printed hprinting hge => simp [givenTo, shownFrom, atHand, hprinting, queue]
  | skip hprinting hlt hget hnotif hempty => simp [givenTo, shownFrom, atHand, hprinting, queue]
  | heading hprinting hlt hget hnotif hne =>
      simp [givenTo, shownFrom, atHand, hprinting, queue]
  | last hdequeuing hnotif hempty => simp [givenTo, shownFrom, atHand, hdequeuing, queue]
  | @next nbFeed i ptr feed' message notif messages hdequeuing hnotif hmessages =>
      rw [hdequeuing] at huser
      have hget := huser.getElem? hnotif
      obtain ⟨-, -, rfl, -⟩ := huser
      have hhand : c.atHand j = [] := by rw [atHand, hdequeuing]
      rw [hhand]
      show ([] ++ c.queue j) ++ [] = [] ++ ((if i = j then [message] else []) ++
        (c.put (c.notification.toCArray.addr i) { notif with messages := messages }).queue j)
      rw [queue_pop hget hmessages, List.append_nil]
  | @displayed nbFeed i ptr feed' shown hshowing =>
      rw [hshowing] at huser
      obtain ⟨-, -, -, hfeed'⟩ := huser
      have hhand : c.atHand j = if i = j then [shown] else [] := by rw [atHand, hshowing]
      rw [hhand]
      show ((if i = j then [shown] else []) ++ c.queue j) ++ [] =
        (if i = j ∧ feed' = feed then [shown] else []) ++ ([] ++ c.queue j)
      rw [shown_eq hfeed' hfeed, List.append_nil, List.nil_append]
  | @unknown fd message pseudo hfind =>
      rw [givenTo_of_find?_eq_none hfind, List.append_nil]
      rfl
  | @enqueued fd message pseudo sb notif hfind hnotif =>
      obtain ⟨k, hk, hfd, hptr, hlt⟩ := h.find? hle hfind
      have hindex : sb.notif.index = k := by rw [hptr]
      have hget : c.notification.toList[k]? = some notif := by
        rw [← hindex] at hlt ⊢
        exact getElem?_of_deref hnotif hlt
      rw [givenTo_eq hnodup hk hfd]
      show (c.atHand j ++ c.queue j) ++ _ = [] ++ (c.atHand j ++
        (c.put sb.notif (notif.enqueue (localMessage message pseudo))).queue j)
      rw [queue_push hindex hget, List.append_assoc, List.nil_append]

end NotifData

end Megaphone
