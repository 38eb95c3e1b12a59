import Megaphone.Client.Notifications
import Megaphone.Network.Codec
import Megaphone.Network.FileTransfer

/-!
The notifications center (`notifications_center.c`, with `wait_notif` and `refresh_fds` of
`data.c`), beside the thread of the user and the sockets that messages arrive at.  A call of
`enqueue` or of `dequeue` is one step here: `NotifThreads.exists_run` says when that is so.

* `SubscriptionFd`, `CenterLoc`, `NotificationsCenter`: the table for `poll`, where the loop is, the
  state.
* `waitNotif`, `refreshFds`, `pollFds`, `nextFd`, `recvNotif`, `handleNotif`: the loop, in steps
  between two locks or calls of the system; `userStep`: the steps of the user.
* `step`, `StepCase`, `step_cases`: the two threads in any order, and what a step is.
* `Inv`: the table is a part of the subscriptions; `Served`: only one socket has been read.
* `one_feed_notified`: over every run, as the sockets are not `O_NONBLOCK`.
-/

namespace Megaphone

open Memory

/-! ### The state -/

/-- `struct pollfd` of the socket of a subscription, with whether there is `POLLIN` in `revents`. -/
structure SubscriptionFd where
  fd : ℕ
  pollin : Bool

instance : CZero SubscriptionFd := ⟨⟨0, false⟩⟩

/-- Where `notifications_center_loop` is.

* `wait`: before the test of `wait_notif`; `waiting`: in its `pthread_cond_wait`;
* `refresh`, `poll`: before `refresh_fds`, and before `poll`;
* `ready i`: in `recv_notifications`, before entry `i` of the table;
* `recv i`, `put i rq`: there, before `recv_notif` on entry `i`, and before `add_notif`. -/
inductive CenterLoc
  | wait
  | waiting
  | refresh
  | poll
  | ready (i : ℕ)
  | recv (i : ℕ)
  | put (i : ℕ) (rq : ServerRQNt)
  | returned

/-- The data that both threads share, `m_fds`, the messages that have arrived at a socket and that
have not been received, and where the loop is. -/
structure NotificationsCenter where
  data : NotifData
  fds : FullArray SubscriptionFd
  inbox : ℕ → List (List UInt8)
  loc : CenterLoc

/-- The result of `poll`, with the entries that have `POLLIN`. -/
inductive CenterPoll
  | error
  | timeout
  | ready (pollin : ℕ → Bool)

/-- The steps: of the user, of the network, and of the loop; `wake` is a wake-up without a signal,
and `recv` says whether `recvfrom` fails. -/
inductive CenterAct
  | user (a : NotifAct)
  | arrives (fd : ℕ) (datagram : List UInt8)
  | wait
  | wake
  | refresh
  | poll (r : CenterPoll)
  | next
  | recv (fails : Bool)
  | put

/-- What a step does outside of the data: `received` is a message taken from a socket, and `added`
the result of `add_notif`. -/
inductive CenterOut
  | quiet
  | user (o : NotifOut)
  | received (fd : ℕ) (datagram : List UInt8)
  | added (err : UInt8)

/-- `recv_notif` on a message.  The `NT_DATA_LEN` bytes of `data` are all copied. -/
def notifOf (datagram : List UInt8) : ServerRQNt :=
  ntohServerrqnt (fun _ => 0) (bytesOf (datagram.take SIZEOF_FTRANSFERRQ))

/-- The `Message` that `add_notif` makes of it. -/
def messageOf (rq : ServerRQNt) : Message := localMessage rq.data rq.pseudo

namespace NotificationsCenter

/-! ### The steps -/

/-- The test of `wait_notif`. -/
def waitNotif (s : NotificationsCenter) : NotificationsCenter :=
  { s with loc := if s.data.subscriptions.length = 0 then .waiting else .refresh }

/-- `refresh_fds`. -/
def refreshFds (s : NotificationsCenter) : FullArray SubscriptionFd :=
  (s.data.subscriptions.toList.drop s.fds.length).foldl
    (fun fds sb => fds.append ⟨sb.multInfo.sockFd, false⟩) s.fds

/-- `poll`: an entry has `POLLIN` only if there is something to read. -/
def pollFds (s : NotificationsCenter) : CenterPoll → Option NotificationsCenter
  | .error => some { s with loc := .returned }
  | .timeout => some { s with loc := .refresh }
  | .ready pollin =>
      if ∀ p ∈ s.fds.toList.zipIdx, pollin p.2 = true → s.inbox p.1.fd ≠ [] then
        some { s with fds := s.fds.mapIdx fun i p => { p with pollin := pollin i }
                      loc := .ready 0 }
      else none

/-- The loop of `recv_notifications`, before an entry. -/
def nextFd (s : NotificationsCenter) (i : ℕ) : CenterLoc :=
  match s.fds.toList[i]? with
  | none => .refresh
  | some p => if p.pollin then .recv i else .ready (i + 1)

/-- `recv_notif` on an entry.  The sockets are not `O_NONBLOCK`: without a message, `recvfrom`
waits for one. -/
def recvNotif (s : NotificationsCenter) (i : ℕ) (fails : Bool) :
    Option (NotificationsCenter × CenterOut) := do
  let p ← s.fds.toList[i]?
  if fails then some ({ s with loc := .returned }, .quiet)
  else match s.inbox p.fd with
    | [] => none
    | datagram :: datagrams =>
        some ({ s with inbox := Function.update s.inbox p.fd datagrams
                       loc := .put i (notifOf datagram) }, .received p.fd datagram)

/-- `add_notif` in `recv_notifications`. -/
def handleNotif (s : NotificationsCenter) (i : ℕ) (rq : ServerRQNt) :
    Option (NotificationsCenter × CenterOut) := do
  let p ← s.fds.toList[i]?
  let (err, data) ← s.data.addNotif p.fd rq.data rq.pseudo
  some ({ s with data := data, loc := if err = 0 then .recv i else .returned }, .added err)

/-- `pthread_cond_signal` on `m_subscriptions_cond`. -/
def signaled : CenterLoc → CenterLoc
  | .waiting => .wait
  | loc => loc

/-- The thread of the user; the second critical section of `subscription_add` signals when there is
one subscription. -/
def userStep (s : NotificationsCenter) (a : NotifAct) :
    Option (NotificationsCenter × CenterOut) := do
  let (data, o) ← s.data.step a
  let loc :=
    match s.data.user, a with
    | .adding _, .user => if data.subscriptions.length = 1 then signaled s.loc else s.loc
    | _, _ => s.loc
  match a with
  | .addNotif .. => none
  | _ => some ({ s with data := data, loc := loc }, .user o)

/-- The two threads, and the network. -/
def step (s : NotificationsCenter) : CenterAct → Option (NotificationsCenter × CenterOut)
  | .user a => s.userStep a
  | .arrives fd datagram =>
      some ({ s with inbox := Function.update s.inbox fd (s.inbox fd ++ [datagram]) }, .quiet)
  | .wait => match s.loc with
      | .wait => some (s.waitNotif, .quiet)
      | _ => none
  | .wake => match s.loc with
      | .waiting => some ({ s with loc := .wait }, .quiet)
      | _ => none
  | .refresh => match s.loc with
      | .refresh => some ({ s with fds := s.refreshFds, loc := .poll }, .quiet)
      | _ => none
  | .poll r => match s.loc with
      | .poll => (s.pollFds r).map fun s => (s, .quiet)
      | _ => none
  | .next => match s.loc with
      | .ready i => some ({ s with loc := s.nextFd i }, .quiet)
      | _ => none
  | .recv fails => match s.loc with
      | .recv i => s.recvNotif i fails
      | _ => none
  | .put => match s.loc with
      | .put i rq => s.handleNotif i rq
      | _ => none

/-- `data_init`, and the threads that `launch_client` starts. -/
def start : NotificationsCenter := ⟨.dataInit, .arrayNew SubscriptionFd 0, fun _ => [], .wait⟩

end NotificationsCenter

/-! ### What a step is -/

/-- The loop has not received anything. -/
def CenterLoc.Early : CenterLoc → Prop
  | .recv _ => False
  | .put _ _ => False
  | .returned => False
  | _ => True

/-- Steps of the loop. -/
def CenterAct.IsQuiet : CenterAct → Prop
  | .user _ => False
  | .arrives _ _ => False
  | _ => True

/-- Steps of the thread of the user. -/
def NotifAct.IsUser : NotifAct → Prop
  | .addNotif .. => False
  | _ => True

namespace NotificationsCenter

variable {s s' : NotificationsCenter} {a : CenterAct} {out : CenterOut}

/-- What a step is.

* `user`, `arrives`: of the user, and of the network;
* `moves`: the loop goes on, or to sleep while there is no subscription;
* `refreshes`, `polls`: the table is brought up to date, and the descriptors are tested;
* `begins`, `receives`, `gives`: an entry is ready, a message is received, and it is stored;
* `pollFails`, `recvFails`: the loop ends. -/
inductive StepCase (s : NotificationsCenter) :
    CenterAct → NotificationsCenter → CenterOut → Prop
  | user {a : NotifAct} {data : NotifData} {o : NotifOut} {loc : CenterLoc}
      (hstep : NotifData.NotifStep s.data a data o) (ha : a.IsUser)
      (hloc : loc = s.loc ∨ s.loc = .waiting ∧ loc = .wait)
      (hwait : loc = .waiting → s.data.subscriptions.toList = [] → data.subscriptions.toList = []) :
      StepCase s (.user a) { s with data := data, loc := loc } (.user o)
  | arrives (fd : ℕ) (datagram : List UInt8) :
      StepCase s (.arrives fd datagram)
        { s with inbox := Function.update s.inbox fd (s.inbox fd ++ [datagram]) } .quiet
  | moves {a : CenterAct} {loc : CenterLoc} (hact : a.IsQuiet) (hpre : s.loc.Early)
      (hloc : loc.Early) (hwait : loc = .waiting → s.data.subscriptions.toList = []) :
      StepCase s a { s with loc := loc } .quiet
  | refreshes (hloc : s.loc = .refresh) :
      StepCase s .refresh { s with fds := s.refreshFds, loc := .poll } .quiet
  | polls (pollin : ℕ → Bool) (hloc : s.loc = .poll) :
      StepCase s (.poll (.ready pollin))
        { s with fds := s.fds.mapIdx fun i p => { p with pollin := pollin i }, loc := .ready 0 }
        .quiet
  | pollFails (hloc : s.loc = .poll) :
      StepCase s (.poll .error) { s with loc := .returned } .quiet
  | begins {i : ℕ} {p : SubscriptionFd} (hloc : s.loc = .ready i)
      (hp : s.fds.toList[i]? = some p) : StepCase s .next { s with loc := .recv i } .quiet
  | receives {i : ℕ} {p : SubscriptionFd} {datagram : List UInt8} {datagrams : List (List UInt8)}
      (hloc : s.loc = .recv i) (hp : s.fds.toList[i]? = some p)
      (hinbox : s.inbox p.fd = datagram :: datagrams) :
      StepCase s (.recv false)
        { s with inbox := Function.update s.inbox p.fd datagrams, loc := .put i (notifOf datagram) }
        (.received p.fd datagram)
  | recvFails {i : ℕ} (hloc : s.loc = .recv i) :
      StepCase s (.recv true) { s with loc := .returned } .quiet
  | gives {i : ℕ} {rq : ServerRQNt} {p : SubscriptionFd} {err : UInt8} {data : NotifData}
      (hloc : s.loc = .put i rq) (hp : s.fds.toList[i]? = some p)
      (hadd : s.data.addNotif p.fd rq.data rq.pseudo = some (err, data)) :
      StepCase s .put { s with data := data, loc := if err = 0 then .recv i else .returned }
        (.added err)

/-- A step of the user that does not store the first subscription leaves the loop asleep. -/
lemma userStep_cases {u : NotifAct} (h : s.userStep u = some (s', out)) :
    StepCase s (.user u) s' out := by
  obtain ⟨⟨data, o⟩, hdata, h⟩ := Option.bind_eq_some_iff.mp h
  have hstep := NotifData.step_cases hdata
  have hsame : ∀ {v : NotifAct}, NotifData.NotifStep s.data v data o → v.IsUser →
      data.subscriptions.toList = s.data.subscriptions.toList →
      StepCase s (.user v) { s with data := data } (.user o) := by
    intro v hv huser heq
    exact @StepCase.user s v data o s.loc hv huser (.inl rfl) fun _ hnil => heq.trans hnil
  cases hstep with
  | subscribe call hidle =>
      simp only [hidle] at h
      cases h
      exact hsame (.subscribe call hidle) trivial rfl
  | @subscribed sb hadding =>
      simp only [hadding] at h
      cases h
      refine .user (.subscribed sb hadding) trivial ?_ fun hloc hnil => ?_
      · split
        · cases s.loc with
          | waiting => exact .inr ⟨rfl, rfl⟩
          | _ => exact .inl rfl
        · exact .inl rfl
      · have hone : (s.data.subscriptions.append sb).length = 1 := by
          rw [FullArray.length_eq, FullArray.toList_append, hnil]
          rfl
        rw [if_pos hone] at hloc
        cases hs : s.loc with
        | waiting =>
            rw [hs] at hloc
            cases hloc
        | _ =>
            rw [hs] at hloc
            cases hloc
  | print hidle =>
      simp only [hidle] at h
      cases h
      exact hsame (.print hidle) trivial rfl
  | printed hprinting hge =>
      simp only [hprinting] at h
      cases h
      exact hsame (.printed hprinting hge) trivial rfl
  | skip hprinting hlt hget hnotif hempty =>
      simp only [hprinting] at h
      cases h
      exact hsame (.skip hprinting hlt hget hnotif hempty) trivial rfl
  | heading hprinting hlt hget hnotif hne =>
      simp only [hprinting] at h
      cases h
      exact hsame (.heading hprinting hlt hget hnotif hne) trivial rfl
  | last hdequeuing hnotif hempty =>
      simp only [hdequeuing] at h
      cases h
      exact hsame (.last hdequeuing hnotif hempty) trivial rfl
  | next hdequeuing hnotif hmessages =>
      simp only [hdequeuing] at h
      cases h
      exact hsame (.next hdequeuing hnotif hmessages) trivial rfl
  | displayed hshowing =>
      simp only [hshowing] at h
      cases h
      exact hsame (.displayed hshowing) trivial rfl
  | unknown message pseudo hfind => cases h
  | enqueued message pseudo hfind hnotif => cases h

/-- **One step.** -/
lemma step_cases (h : s.step a = some (s', out)) : StepCase s a s' out := by
  cases a with
  | user u => exact userStep_cases h
  | arrives fd datagram =>
      cases h
      exact .arrives fd datagram
  | wait =>
      rw [step] at h
      split at h
      next hloc =>
        cases h
        refine .moves trivial (by rw [hloc]; trivial) ?_ fun hwait => ?_
        · split
          · trivial
          · trivial
        · split at hwait
          next hzero => exact List.length_eq_zero_iff.mp (by rwa [FullArray.length_eq] at hzero)
          next => cases hwait
      · cases h
  | wake =>
      rw [step] at h
      split at h
      next hloc =>
        cases h
        exact .moves trivial (by rw [hloc]; trivial) trivial nofun
      · cases h
  | refresh =>
      rw [step] at h
      split at h
      next hloc =>
        cases h
        exact .refreshes hloc
      · cases h
  | poll r =>
      rw [step] at h
      split at h
      next hloc =>
        obtain ⟨s₁, hpoll, heq⟩ := Option.map_eq_some_iff.mp h
        cases heq
        cases r with
        | error =>
            cases hpoll
            exact .pollFails hloc
        | timeout =>
            cases hpoll
            exact .moves trivial (by rw [hloc]; trivial) trivial nofun
        | ready pollin =>
            rw [pollFds] at hpoll
            split at hpoll
            · cases hpoll
              exact .polls pollin hloc
            · cases hpoll
      · cases h
  | next =>
      rw [step] at h
      split at h
      next i hloc =>
        have hearly : s.loc.Early := by
          rw [hloc]
          trivial
        cases h
        rw [nextFd]
        split
        next => exact .moves trivial hearly trivial nofun
        next p hp =>
          split
          · exact .begins hloc hp
          · exact .moves trivial hearly trivial nofun
      · cases h
  | recv fails =>
      rw [step] at h
      split at h
      next i hloc =>
        obtain ⟨p, hp, h⟩ := Option.bind_eq_some_iff.mp h
        cases fails with
        | true =>
            cases h
            exact .recvFails hloc
        | false =>
            cases hinbox : s.inbox p.fd with
            | nil =>
                simp only [hinbox, Bool.false_eq_true, if_false, reduceCtorEq] at h
            | cons datagram datagrams =>
                simp only [hinbox, Bool.false_eq_true, if_false, Option.some.injEq] at h
                cases h
                exact .receives hloc hp hinbox
      · cases h
  | put =>
      rw [step] at h
      split at h
      next i rq hloc =>
        obtain ⟨p, hp, h⟩ := Option.bind_eq_some_iff.mp h
        obtain ⟨⟨err, data⟩, hadd, h⟩ := Option.bind_eq_some_iff.mp h
        cases h
        exact .gives hloc hp hadd
      · cases h

end NotificationsCenter

/-! ### The entries -/

namespace NotifData

variable {c c' : NotifData} {o : NotifOut} {u : NotifAct}

/-- Subscriptions are only added. -/
lemma step_subscriptions (h : NotifStep c u c' o) :
    c.subscriptions.toList <+: c'.subscriptions.toList := by
  cases h with
  | subscribed sb hadding => exact List.prefix_append _ _
  | _ => exact List.prefix_rfl

/-- And so are the feeds of the entries. -/
lemma step_feeds (h : NotifStep c u c' o) : c.feeds <+: c'.feeds := by
  obtain ⟨-, hfeeds⟩ := step_entries h
  rw [hfeeds]
  exact List.prefix_append _ _

/-- The message that the user is shown from an entry. -/
def shownOf (i : ℕ) : NotifOut → List Message
  | .shown j _ message => if j = i then [message] else []
  | _ => []

/-- The user takes the messages of an entry in their order, and shows each. -/
lemma shownOf_append (hinv : c.Inv) (h : NotifStep c u c' o) (hu : u.IsUser) (i : ℕ) :
    shownOf i o ++ (c'.atHand i ++ c'.queue i) = c.atHand i ++ c.queue i := by
  have huser := hinv.user
  rw [UserInv] at huser
  cases h with
  | subscribe call hidle =>
      have hhand : c.atHand i = [] := by rw [atHand, hidle]
      rw [hhand]
      exact queue_subscriptionAdd call i
  | subscribed sb hadding => simp [shownOf, atHand, hadding, queue]
  | print hidle => simp [shownOf, atHand, hidle, queue]
  | printed hprinting hge => simp [shownOf, atHand, hprinting, queue]
  | skip hprinting hlt hget hnotif hempty => simp [shownOf, atHand, hprinting, queue]
  | heading hprinting hlt hget hnotif hne => simp [shownOf, atHand, hprinting, queue]
  | last hdequeuing hnotif hempty => simp [shownOf, atHand, hdequeuing, queue]
  | next hdequeuing hnotif hmessages =>
      rw [hdequeuing] at huser
      have hget := huser.getElem? hnotif
      obtain ⟨-, -, rfl, -⟩ := huser
      have hhand : c.atHand i = [] := by rw [atHand, hdequeuing]
      rw [hhand]
      exact queue_pop hget hmessages i
  | @displayed nbFeed j ptr feed shown hshowing =>
      have hhand : c.atHand i = if j = i then [shown] else [] := by rw [atHand, hshowing]
      rw [hhand]
      rfl
  | unknown message pseudo hfind => exact hu.elim
  | enqueued message pseudo hfind hnotif => exact hu.elim

/-- What is shown is under the heading of the feed of its entry. -/
lemma shown_feed (hinv : c.Inv) (h : NotifStep c u c' o) {i : ℕ} {feed : UInt16}
    {message : Message} (ho : o = .shown i feed message) : c.feeds[i]? = some feed := by
  have huser := hinv.user
  rw [UserInv] at huser
  cases h with
  | displayed hshowing =>
      cases ho
      rw [hshowing] at huser
      exact huser.2.2.2
  | _ => cases ho

/-- `add_notif` with a socket that has a subscription. -/
lemma addNotif_eq {fd : ℕ} {message : ℕ → UInt8} {pseudo : Pseudo} {err : UInt8} {sb : Sb}
    (h : c.addNotif fd message pseudo = some (err, c'))
    (hfind : (c.subscriptions.toList.find? fun sb => sb.multInfo.sockFd == fd) = some sb) :
    err = 0 ∧ ∃ notif, c.deref sb.notif = some notif ∧
      c' = c.put sb.notif (notif.enqueue (localMessage message pseudo)) := by
  rw [addNotif, hfind] at h
  obtain ⟨notif, hnotif, h⟩ := Option.bind_eq_some_iff.mp h
  cases h
  exact ⟨rfl, notif, hnotif, rfl⟩

/-- Where a message goes that is given to `add_notif`. -/
lemma queue_addNotif (hinv : c.Inv) (hindexed : c.Indexed) {fd : ℕ} {sb : Sb} {notif : Notif}
    (hfind : (c.subscriptions.toList.find? fun sb => sb.multInfo.sockFd == fd) = some sb)
    (hnotif : c.deref sb.notif = some notif) (message : Message) (i : ℕ) :
    (c.put sb.notif (notif.enqueue message)).queue i =
      c.queue i ++ if i = sb.notif.index then [message] else [] := by
  obtain ⟨k, hk⟩ := List.getElem?_of_mem (List.mem_of_find?_eq_some hfind)
  have hentry : c.entries[k]? = some sb := by
    rw [entries, List.getElem?_append_left (List.getElem?_eq_some_iff.mp hk).1, hk]
  have hindex := hindexed k sb hentry
  have hlt : k < c.notification.toList.length := by
    rw [← hinv.length_eq]
    exact (List.getElem?_eq_some_iff.mp hentry).1
  rw [← hindex] at hlt
  exact queue_push rfl (getElem?_of_deref hnotif hlt) message i

end NotifData

namespace NotificationsCenter

/-! ### The table -/

variable {s s' : NotificationsCenter} {a : CenterAct} {out : CenterOut}

lemma toList_refreshFds (s : NotificationsCenter) : s.refreshFds.toList = s.fds.toList ++
    (s.data.subscriptions.toList.drop s.fds.toList.length).map
      fun sb => ⟨sb.multInfo.sockFd, false⟩ := by
  rw [refreshFds, FullArray.length_eq]
  generalize s.data.subscriptions.toList.drop s.fds.toList.length = l
  induction l generalizing s with
  | nil => simp
  | cons sb l ih =>
      rw [List.foldl_cons]
      have h := ih { s with fds := s.fds.append ⟨sb.multInfo.sockFd, false⟩ }
      rw [h, FullArray.toList_append, List.map_cons, List.append_assoc, List.singleton_append]

/-- The sockets of the table. -/
def polled (s : NotificationsCenter) : List ℕ := s.fds.toList.map (·.fd)

/-- The sockets of the subscriptions. -/
def subscribed (c : NotifData) : List ℕ := c.subscriptions.toList.map (·.multInfo.sockFd)

/-- The subscription that `add_notif` finds for a socket. -/
def subscription (c : NotifData) (fd : ℕ) : Option Sb :=
  c.subscriptions.toList.find? fun sb => sb.multInfo.sockFd == fd

/-- The entry of the first subscription with a socket. -/
def entryOf (c : NotifData) (fd : ℕ) : ℕ := (subscription c fd).elim 0 (·.notif.index)

/-- The invariant: the table is a part of the subscriptions, and the loop sleeps only without
one. -/
structure Inv (s : NotificationsCenter) : Prop where
  data : s.data.Inv
  indexed : s.data.Indexed
  table : s.polled <+: subscribed s.data
  asleep : s.loc = .waiting → s.data.subscriptions.toList = []

lemma inv_start : start.Inv := by
  exact ⟨NotifData.inv_dataInit, NotifData.indexed_dataInit, List.nil_prefix, nofun⟩

/-- `refresh_fds` makes the table that of all subscriptions. -/
lemma polled_refreshFds (h : s.polled <+: subscribed s.data) :
    s.refreshFds.toList.map (·.fd) = subscribed s.data := by
  obtain ⟨l, hl⟩ := h
  have hlength : s.polled.length = s.fds.toList.length := List.length_map _
  rw [toList_refreshFds, List.map_append, List.map_map, List.map_drop]
  show s.polled ++ List.drop _ (subscribed s.data) = _
  rw [← hl, ← hlength, List.drop_left]

lemma Inv.step (h : s.Inv) (hstep : StepCase s a s' out) : s'.Inv := by
  cases hstep with
  | user hdata ha hloc hwait =>
      refine ⟨NotifData.step_inv h.data hdata, h.indexed.step h.data hdata, ?_, fun hs => ?_⟩
      · exact h.table.trans ((NotifData.step_subscriptions hdata).map _)
      · obtain rfl | ⟨-, rfl⟩ := hloc
        · exact hwait hs (h.asleep hs)
        · cases hs
  | arrives fd datagram => exact ⟨h.data, h.indexed, h.table, h.asleep⟩
  | moves hact hpre hloc hwait => exact ⟨h.data, h.indexed, h.table, hwait⟩
  | refreshes hloc =>
      refine ⟨h.data, h.indexed, ?_, nofun⟩
      show s.refreshFds.toList.map _ <+: _
      rw [polled_refreshFds h.table]
  | polls pollin hloc =>
      refine ⟨h.data, h.indexed, ?_, nofun⟩
      have heq : (s.fds.toList.mapIdx fun i p =>
          ({ p with pollin := pollin i } : SubscriptionFd)).map (·.fd) = s.polled :=
        List.ext_getElem (by simp [polled]) fun j h₁ h₂ => by simp [polled]
      show List.map _ (List.mapIdx _ _) <+: _
      rw [heq]
      exact h.table
  | pollFails hloc => exact ⟨h.data, h.indexed, h.table, nofun⟩
  | begins hloc hp => exact ⟨h.data, h.indexed, h.table, nofun⟩
  | receives hloc hp hinbox => exact ⟨h.data, h.indexed, h.table, nofun⟩
  | recvFails hloc => exact ⟨h.data, h.indexed, h.table, nofun⟩
  | @gives i rq p err data hloc hp hadd =>
      have hdata := NotifData.step_cases (a := .addNotif p.fd rq.data rq.pseudo)
        (by rw [NotifData.step, hadd]; rfl)
      refine ⟨NotifData.step_inv h.data hdata, h.indexed.step h.data hdata, ?_, fun hs => ?_⟩
      · exact h.table.trans ((NotifData.step_subscriptions hdata).map _)
      · split at hs <;> cases hs

/-- The socket of an entry of the table has a subscription. -/
lemma Inv.exists_subscription (h : s.Inv) {i : ℕ} {p : SubscriptionFd}
    (hp : s.fds.toList[i]? = some p) : ∃ sb, subscription s.data p.fd = some sb := by
  have hmem : p.fd ∈ subscribed s.data :=
    h.table.subset (List.mem_map_of_mem (List.mem_of_getElem? hp))
  obtain ⟨sb, hsb, hfd⟩ := List.mem_map.mp hmem
  refine Option.isSome_iff_exists.mp (List.find?_isSome.mpr ⟨sb, hsb, ?_⟩)
  exact beq_iff_eq.mpr hfd

/-- The subscription of a socket remains the same. -/
lemma subscription_of_prefix {c c' : NotifData} {fd : ℕ} {sb : Sb}
    (hpre : c.subscriptions.toList <+: c'.subscriptions.toList)
    (h : subscription c fd = some sb) : subscription c' fd = some sb := by
  obtain ⟨l, hl⟩ := hpre
  rw [subscription, ← hl, List.find?_append]
  rw [subscription] at h
  rw [h]
  rfl

/-! ### Histories -/

/-- A transition. -/
abbrev CenterTransition := Machine.Transition NotificationsCenter CenterAct CenterOut

/-- The message that arrives at a socket, and the one that is received from it. -/
def arrivedAt (fd : ℕ) (t : CenterTransition) : List (List UInt8) :=
  match t.act with
  | .arrives fd' datagram => if fd' = fd then [datagram] else []
  | _ => []

def receivedFrom (fd : ℕ) (t : CenterTransition) : List (List UInt8) :=
  match t.out with
  | .received fd' datagram => if fd' = fd then [datagram] else []
  | _ => []

/-- The message that is displayed from an entry. -/
def displayedFrom (i : ℕ) (t : CenterTransition) : List Message :=
  match t.out with
  | .user o => NotifData.shownOf i o
  | _ => []

/-- Those of a run. -/
def arrived (fd : ℕ) (ts : List CenterTransition) : List (List UInt8) := ts.flatMap (arrivedAt fd)

def received (fd : ℕ) (ts : List CenterTransition) : List (List UInt8) :=
  ts.flatMap (receivedFrom fd)

def displayed (i : ℕ) (ts : List CenterTransition) : List Message := ts.flatMap (displayedFrom i)

/-- The message that the loop has at hand. -/
def held (s : NotificationsCenter) : List Message :=
  match s.loc with
  | .put _ rq => [messageOf rq]
  | _ => []

lemma held_of_early (h : s.loc.Early) : s.held = [] := by
  rw [held]
  split
  next hloc =>
    rw [hloc] at h
    exact h.elim
  next => rfl

/-- **The sockets.**  What arrives at a socket is received from it, in its order. -/
lemma run_arrived {ts : List CenterTransition} (h : Machine.Run step s ts s') (fd : ℕ) :
    s.inbox fd ++ arrived fd ts = received fd ts ++ s'.inbox fd := by
  refine h.conserves (fun s => s.inbox fd) (arrivedAt fd) (receivedFrom fd) fun t ht => ?_
  obtain ⟨hs, -⟩ := h.exists_of_mem ht
  obtain ⟨s₁, a, out, s₂⟩ := t
  have hcase : StepCase s₁ a s₂ out := step_cases hs
  show s₁.inbox fd ++ arrivedAt fd ⟨s₁, a, out, s₂⟩ =
    receivedFrom fd ⟨s₁, a, out, s₂⟩ ++ s₂.inbox fd
  cases hcase with
  | arrives fd' datagram =>
      show s₁.inbox fd ++ (if fd' = fd then [datagram] else []) =
        [] ++ Function.update s₁.inbox fd' (s₁.inbox fd' ++ [datagram]) fd
      by_cases heq : fd' = fd
      · subst heq
        rw [if_pos rfl, Function.update_self, List.nil_append]
      · rw [if_neg heq, Function.update_of_ne (Ne.symm heq), List.append_nil, List.nil_append]
  | @receives i p datagram datagrams hloc hp hinbox =>
      show s₁.inbox fd ++ [] = (if p.fd = fd then [datagram] else []) ++
        Function.update s₁.inbox p.fd datagrams fd
      by_cases heq : p.fd = fd
      · subst heq
        rw [if_pos rfl, Function.update_self, hinbox, List.append_nil, List.singleton_append]
      · rw [if_neg heq, Function.update_of_ne (Ne.symm heq), List.append_nil, List.nil_append]
  | moves hact hpre hloc hwait =>
      cases a with
      | arrives fd' datagram => exact hact.elim
      | _ => exact List.append_nil _
  | _ => exact List.append_nil _

/-- Only one socket has been read, whose messages have gone to one entry, from where they are
displayed in their order. -/
structure Served (fd k : ℕ) (ts : List CenterTransition) (s : NotificationsCenter) : Prop where
  others : ∀ fd', fd' ≠ fd → received fd' ts = []
  messages : ∀ i, displayed i ts ++ (s.data.atHand i ++ s.data.queue i) ++
    (if i = k then s.held else []) =
      if i = k then (received fd ts).map fun d => messageOf (notifOf d) else []

/-- Before anything has been received, whatever the socket is; afterwards, for the one at hand. -/
def ServedAt (ts : List CenterTransition) (s : NotificationsCenter) : Prop :=
  match s.loc with
  | .recv i => ∃ p, s.fds.toList[i]? = some p ∧ Served p.fd (entryOf s.data p.fd) ts s
  | .put i _ => ∃ p, s.fds.toList[i]? = some p ∧ Served p.fd (entryOf s.data p.fd) ts s
  | .returned => ∃ fd k, Served fd k ts s
  | _ => ∀ fd k, Served fd k ts s

lemma servedAt_of_early {ts : List CenterTransition} (h : s.loc.Early) :
    ServedAt ts s ↔ ∀ fd k, Served fd k ts s := by
  rw [ServedAt]
  split
  next hloc =>
    rw [hloc] at h
    exact h.elim
  next hloc =>
    rw [hloc] at h
    exact h.elim
  next hloc =>
    rw [hloc] at h
    exact h.elim
  next => rfl

lemma received_concat (fd : ℕ) (ts : List CenterTransition) (t : CenterTransition) :
    received fd (ts ++ [t]) = received fd ts ++ receivedFrom fd t := by
  simp [received]

lemma displayed_concat (i : ℕ) (ts : List CenterTransition) (t : CenterTransition) :
    displayed i (ts ++ [t]) = displayed i ts ++ displayedFrom i t := by
  simp [displayed]

namespace Served

variable {fd k : ℕ} {ts : List CenterTransition} {t : CenterTransition}

/-- A step that neither displays nor receives anything. -/
lemma quiet (h : Served fd k ts s) (hout : t.out = .quiet) (hdata : s'.data = s.data)
    (hheld : s'.held = s.held) : Served fd k (ts ++ [t]) s' := by
  have hreceived : ∀ fd', received fd' (ts ++ [t]) = received fd' ts := fun fd' => by
    rw [received_concat, receivedFrom, hout, List.append_nil]
  refine ⟨fun fd' hne => by rw [hreceived, h.others fd' hne], fun i => ?_⟩
  rw [displayed_concat, displayedFrom, hout, List.append_nil, hdata, hheld, hreceived]
  exact h.messages i

/-- A step of the user. -/
lemma user (h : Served fd k ts s) (hinv : s.data.Inv) {u : NotifAct} {o : NotifOut}
    (hstep : NotifData.NotifStep s.data u s'.data o) (hu : u.IsUser) (hout : t.out = .user o)
    (hheld : s'.held = s.held) : Served fd k (ts ++ [t]) s' := by
  have hreceived : ∀ fd', received fd' (ts ++ [t]) = received fd' ts := fun fd' => by
    rw [received_concat, receivedFrom, hout, List.append_nil]
  refine ⟨fun fd' hne => by rw [hreceived, h.others fd' hne], fun i => ?_⟩
  have hshown := NotifData.shownOf_append hinv hstep hu i
  have hmessages := h.messages i
  rw [← hshown, ← List.append_assoc (displayed i ts)] at hmessages
  rw [displayed_concat, displayedFrom, hout, hreceived, hheld]
  exact hmessages

/-- Another message of the socket is received. -/
lemma receives (h : Served fd k ts s) (hheld : s.held = []) {datagram : List UInt8}
    (hout : t.out = .received fd datagram) (hdata : s'.data = s.data)
    (hheld' : s'.held = [messageOf (notifOf datagram)]) : Served fd k (ts ++ [t]) s' := by
  refine ⟨fun fd' hne => ?_, fun i => ?_⟩
  · rw [received_concat, receivedFrom, hout, h.others fd' hne]
    exact if_neg (Ne.symm hne)
  · have hmessages := h.messages i
    rw [hheld, ite_self, List.append_nil] at hmessages
    rw [displayed_concat, displayedFrom, hout, List.append_nil, hdata, hheld', hmessages,
      received_concat, receivedFrom, hout]
    by_cases hi : i = k
    · simp [hi]
    · simp [hi]

/-- The message at hand is put into the queue of the entry. -/
lemma gives (h : Served fd k ts s) {rq : ServerRQNt} (hheld : s.held = [messageOf rq])
    (hout : t.out = .added 0) (hhand : s'.data.atHand = s.data.atHand)
    (hqueue : ∀ i, s'.data.queue i = s.data.queue i ++ if i = k then [messageOf rq] else [])
    (hheld' : s'.held = []) : Served fd k (ts ++ [t]) s' := by
  have hreceived : ∀ fd', received fd' (ts ++ [t]) = received fd' ts := fun fd' => by
    rw [received_concat, receivedFrom, hout, List.append_nil]
  refine ⟨fun fd' hne => by rw [hreceived, h.others fd' hne], fun i => ?_⟩
  have hmessages := h.messages i
  rw [hheld] at hmessages
  rw [displayed_concat, displayedFrom, hout, List.append_nil, hhand, hqueue, hheld', ite_self,
    List.append_nil, hreceived, ← hmessages, List.append_assoc, List.append_assoc]

end Served

/-- Steps that leave the loop where it is. -/
lemma ServedAt.same {ts ts' : List CenterTransition} (h : ServedAt ts s) (hloc : s'.loc = s.loc)
    (hfds : s'.fds = s.fds)
    (hentry : ∀ p ∈ s.fds.toList, entryOf s'.data p.fd = entryOf s.data p.fd)
    (hserved : ∀ fd k, Served fd k ts s → Served fd k ts' s') : ServedAt ts' s' := by
  cases hs : s.loc with
  | recv i =>
      rw [ServedAt, hs] at h
      obtain ⟨p, hp, h⟩ := h
      rw [ServedAt, hloc, hs]
      exact ⟨p, by rw [hfds, hp], by
        rw [hentry p (List.mem_of_getElem? hp)]
        exact hserved _ _ h⟩
  | put i rq =>
      rw [ServedAt, hs] at h
      obtain ⟨p, hp, h⟩ := h
      rw [ServedAt, hloc, hs]
      exact ⟨p, by rw [hfds, hp], by
        rw [hentry p (List.mem_of_getElem? hp)]
        exact hserved _ _ h⟩
  | returned =>
      rw [ServedAt, hs] at h
      obtain ⟨fd, k, h⟩ := h
      rw [ServedAt, hloc, hs]
      exact ⟨fd, k, hserved fd k h⟩
  | _ =>
      have hearly : s.loc.Early := by
        rw [hs]
        trivial
      rw [servedAt_of_early hearly] at h
      rw [← hloc] at hearly
      exact (servedAt_of_early hearly).mpr fun fd k => hserved fd k (h fd k)

lemma held_eq_nil {i : ℕ} (h : s.loc = .recv i) : s.held = [] := by
  rw [held, h]

/-- **The sockets that are read.**  Once the loop is at an entry, it never leaves it. -/
lemma ServedAt.step {ts : List CenterTransition} (h : ServedAt ts s) (hinv : s.Inv)
    (hstep : StepCase s a s' out) : ServedAt (ts ++ [⟨s, a, out, s'⟩]) s' := by
  cases hstep with
  | @user u data o loc hdata hu hloc hwait =>
      have hsub := NotifData.step_subscriptions hdata
      have hentry : ∀ p ∈ s.fds.toList, entryOf data p.fd = entryOf s.data p.fd := by
        intro p hp
        obtain ⟨i, hi⟩ := List.getElem?_of_mem hp
        obtain ⟨sb, hsb⟩ := hinv.exists_subscription hi
        rw [entryOf, entryOf, hsb, subscription_of_prefix hsub hsb]
      obtain rfl | ⟨hwaiting, rfl⟩ := hloc
      · exact h.same rfl rfl hentry fun fd k hs => hs.user hinv.data hdata hu rfl rfl
      · rw [servedAt_of_early (by rw [hwaiting]; trivial)] at h
        have hheld : s.held = [] := by rw [held, hwaiting]
        exact fun fd k => (h fd k).user hinv.data hdata hu rfl hheld.symm
  | arrives fd datagram =>
      exact h.same rfl rfl (fun _ _ => rfl) fun fd k hs => hs.quiet rfl rfl rfl
  | moves hact hpre hloc hwait =>
      rw [servedAt_of_early hpre] at h
      exact (servedAt_of_early hloc).mpr fun fd k =>
        (h fd k).quiet rfl rfl ((held_of_early hloc).trans (held_of_early hpre).symm)
  | refreshes hloc =>
      rw [servedAt_of_early (by rw [hloc]; trivial)] at h
      exact fun fd k => (h fd k).quiet rfl rfl (by rw [held, held, hloc])
  | polls pollin hloc =>
      rw [servedAt_of_early (by rw [hloc]; trivial)] at h
      exact fun fd k => (h fd k).quiet rfl rfl (by rw [held, held, hloc])
  | pollFails hloc =>
      rw [servedAt_of_early (by rw [hloc]; trivial)] at h
      exact ⟨0, 0, (h 0 0).quiet rfl rfl (by rw [held, held, hloc])⟩
  | @begins i p hloc hp =>
      rw [servedAt_of_early (by rw [hloc]; trivial)] at h
      exact ⟨p, hp, (h _ _).quiet rfl rfl (by rw [held, held, hloc])⟩
  | @receives i p datagram datagrams hloc hp hinbox =>
      rw [ServedAt, hloc] at h
      obtain ⟨p', hp', hserved⟩ := h
      obtain rfl := Option.some.inj (hp.symm.trans hp')
      exact ⟨p, hp, hserved.receives (held_eq_nil hloc) rfl rfl rfl⟩
  | @recvFails i hloc =>
      rw [ServedAt, hloc] at h
      obtain ⟨p, -, hserved⟩ := h
      exact ⟨_, _, hserved.quiet rfl rfl (held_eq_nil hloc).symm⟩
  | @gives i rq p err data hloc hp hadd =>
      rw [ServedAt, hloc] at h
      obtain ⟨p', hp', hserved⟩ := h
      obtain rfl := Option.some.inj (hp.symm.trans hp')
      obtain ⟨sb, hsb⟩ := hinv.exists_subscription hp
      obtain ⟨rfl, notif, hnotif, rfl⟩ := NotifData.addNotif_eq hadd hsb
      have hentry : entryOf s.data p.fd = sb.notif.index := by
        rw [entryOf, hsb]
        rfl
      have hheld : s.held = [messageOf rq] := by rw [held, hloc]
      refine ⟨p, hp, hserved.gives hheld rfl rfl (fun j => ?_) rfl⟩
      rw [hentry]
      exact NotifData.queue_addNotif hinv.data hinv.indexed hsb hnotif (messageOf rq) j

lemma ServedAt.exists_served {ts : List CenterTransition} (h : ServedAt ts s) :
    ∃ fd k, Served fd k ts s := by
  rw [ServedAt] at h
  split at h
  next =>
    obtain ⟨p, -, h⟩ := h
    exact ⟨_, _, h⟩
  next =>
    obtain ⟨p, -, h⟩ := h
    exact ⟨_, _, h⟩
  next => exact h
  next => exact ⟨0, 0, h 0 0⟩

/-- A call that fails, behind which the loop ends. -/
def CallFails (t : CenterTransition) : Prop := t.act = .poll .error ∨ t.act = .recv true

/-- What holds of a state and the transitions before it. -/
structure History (ts : List CenterTransition) (s : NotificationsCenter) : Prop where
  inv : s.Inv
  served : ServedAt ts s
  feeds : ∀ t ∈ ts, ∀ j feed message, t.out = .user (.shown j feed message) →
    s.data.feeds[j]? = some feed
  added : ∀ t ∈ ts, ∀ err, t.out = .added err → err = 0
  returned : s.loc = .returned → ∃ t ∈ ts, CallFails t

/-- The entries keep their feeds. -/
lemma StepCase.feeds (h : StepCase s a s' out) : s.data.feeds <+: s'.data.feeds := by
  cases h with
  | user hdata hu hloc hwait => exact NotifData.step_feeds hdata
  | @gives i rq p err data hloc hp hadd =>
      exact NotifData.step_feeds (NotifData.step_cases (a := .addNotif p.fd rq.data rq.pseudo)
        (by rw [NotifData.step, hadd]; rfl))
  | _ => exact List.prefix_rfl

/-- `add_notif` accepts what has been received. -/
lemma StepCase.added (h : StepCase s a s' out) (hinv : s.Inv) {err : UInt8}
    (hout : out = .added err) : err = 0 := by
  cases h with
  | gives hloc hp hadd =>
      cases hout
      obtain ⟨sb, hsb⟩ := hinv.exists_subscription hp
      exact (NotifData.addNotif_eq hadd hsb).1
  | _ => cases hout

/-- The loop ends with a call that fails. -/
lemma StepCase.returned (h : StepCase s a s' out) (hinv : s.Inv) (hs' : s'.loc = .returned) :
    s.loc = .returned ∨ CallFails ⟨s, a, out, s'⟩ := by
  cases h with
  | user hdata hu hloc hwait =>
      obtain rfl | ⟨-, rfl⟩ := hloc
      · exact .inl hs'
      · cases hs'
  | arrives fd datagram => exact .inl hs'
  | @moves _ loc hact hpre hloc hwait =>
      obtain rfl : loc = .returned := hs'
      exact hloc.elim
  | pollFails hloc => exact .inr (.inl rfl)
  | recvFails hloc => exact .inr (.inr rfl)
  | @gives i rq p err data hloc hp hadd =>
      obtain ⟨sb, hsb⟩ := hinv.exists_subscription hp
      have hzero := (NotifData.addNotif_eq hadd hsb).1
      change (if err = 0 then CenterLoc.recv i else .returned) = .returned at hs'
      rw [if_pos hzero] at hs'
      cases hs'
  | _ => cases hs'

lemma History.step {ts : List CenterTransition} (h : History ts s) (hstep : StepCase s a s' out) :
    History (ts ++ [⟨s, a, out, s'⟩]) s' := by
  refine ⟨h.inv.step hstep, h.served.step h.inv hstep, fun t ht j feed message hout => ?_,
    fun t ht err hout => ?_, fun hs' => ?_⟩
  · obtain ⟨l, hl⟩ := hstep.feeds
    have hold : s.data.feeds[j]? = some feed := by
      obtain ht | ht := List.mem_append.mp ht
      · exact h.feeds t ht j feed message hout
      · obtain rfl := List.mem_singleton.mp ht
        cases hstep with
        | user hdata hu hloc hwait =>
            exact NotifData.shown_feed h.inv.data hdata (CenterOut.user.inj hout)
        | _ => cases hout
    have hlt := (List.getElem?_eq_some_iff.mp hold).1
    rw [← hl, List.getElem?_append_left hlt, hold]
  · obtain ht | ht := List.mem_append.mp ht
    · exact h.added t ht err hout
    · obtain rfl := List.mem_singleton.mp ht
      exact hstep.added h.inv hout
  · obtain hs | hfails := hstep.returned h.inv hs'
    · obtain ⟨t, ht, hfails⟩ := h.returned hs
      exact ⟨t, List.mem_append_left _ ht, hfails⟩
    · exact ⟨_, List.mem_append_right _ List.mem_cons_self, hfails⟩

lemma history_start : History [] start := by
  refine ⟨inv_start, fun fd k => ⟨fun _ _ => rfl, fun i => ?_⟩,
    fun t ht => absurd ht List.not_mem_nil, fun t ht => absurd ht List.not_mem_nil,
    fun hloc => by cases hloc⟩
  show [] ++ ([] ++ []) ++ (if i = k then [] else []) = if i = k then [] else []
  split
  · rfl
  · rfl

/-- Of all that arrives, only the messages of one socket are received, and they are displayed from
one entry in their order, the last of them being still at hand, in the queue of the entry, or at the
socket. -/
structure OnlyFrom (fd k : ℕ) (ts : List CenterTransition) (s : NotificationsCenter) : Prop where
  messages : (arrived fd ts).map (fun d => messageOf (notifOf d)) =
    displayed k ts ++ (s.data.atHand k ++ s.data.queue k) ++ s.held ++
      (s.inbox fd).map fun d => messageOf (notifOf d)
  others : ∀ fd', fd' ≠ fd → s.inbox fd' = arrived fd' ts
  shown : ∀ t ∈ ts, ∀ j feed message, t.out = .user (.shown j feed message) →
    j = k ∧ s.data.feeds[k]? = some feed

/-- **Only one feed is notified.**  The sockets of the subscriptions are not `O_NONBLOCK`: the first
one that `recv_notifications` reads is the only one ever.  Over every run of the user and the
notifications center, with messages arriving in between, there are a socket and an entry such that
all that is received comes from the socket, and all that is displayed from the entry, under the
heading of its feed: what arrives there, in its order.  What arrives at another socket remains
there.  The table is always a part of the subscriptions, `add_notif` accepts every message, the loop
ends only behind a call that fails, and it sleeps only as long as there is no subscription.

A run ends where `add_notif` would follow a pointer that the ninth subscription has left behind. -/
theorem one_feed_notified {ts : List CenterTransition} (h : Machine.Run step start ts s) :
    (∃ fd k, OnlyFrom fd k ts s) ∧ s.polled <+: subscribed s.data ∧
      (∀ t ∈ ts, ∀ err, t.out = .added err → err = 0) ∧
      (s.loc = .returned → ∃ t ∈ ts, CallFails t) ∧
      (s.loc = .waiting → s.data.subscriptions.toList = []) := by
  have hhistory : History ts s := h.history (P := History) (Q := fun _ => True)
    (fun us s₁ a s₂ o hs _ hstep => hs.step (step_cases hstep)) (fun _ _ => trivial) history_start
  refine ⟨?_, hhistory.inv.table, hhistory.added, hhistory.returned, hhistory.inv.asleep⟩
  obtain ⟨fd, k, hserved⟩ := hhistory.served.exists_served
  have harrived : ∀ fd', arrived fd' ts = received fd' ts ++ s.inbox fd' := fun fd' =>
    run_arrived h fd'
  refine ⟨fd, k, ?_, fun fd' hne => ?_, fun t ht j feed message hout => ?_⟩
  · have hmessages := hserved.messages k
    rw [if_pos rfl, if_pos rfl] at hmessages
    rw [harrived, List.map_append, hmessages]
  · rw [harrived, hserved.others fd' hne, List.nil_append]
  · obtain rfl : j = k := by
      by_contra hne
      have hmessages := hserved.messages j
      rw [if_neg hne, if_neg hne, List.append_nil] at hmessages
      have hnone := List.flatMap_eq_nil_iff.mp (List.append_eq_nil_iff.mp hmessages).1 t ht
      simp [displayedFrom, hout, NotifData.shownOf] at hnone
    exact ⟨rfl, hhistory.feeds t ht j feed message hout⟩

namespace TwoFeeds

/-- A subscription to a feed, with a socket. -/
def call (sfd : ℕ) (feedNb : UInt16) : SubscriptionCall :=
  ⟨.replicate ADDRMULT_LEN 0, 0, sfd, feedNb, ⟨.replicate ADDRMULT_LEN 0, 0, 0, 0⟩⟩

/-- A message arrives at each of two sockets, and the user asks for the notifications. -/
def acts : List CenterAct :=
  [.user (.subscriptionAdd (call 5 1)), .user .user, .user (.subscriptionAdd (call 6 2)),
    .user .user, .wait, .refresh, .arrives 5 [1], .arrives 6 [2], .poll (.ready fun _ => true),
    .next, .recv false, .put, .user .printNotif, .user .user, .user .user, .user .user]

lemma exists_run : ∃ ts s, Machine.Run step start ts s ∧ ts.map (·.act) = acts ∧
    displayed 0 ts = [messageOf (notifOf [1])] ∧ s.inbox 6 = [[2]] :=
  ⟨_, _, .cons rfl (.cons rfl (.cons rfl (.cons rfl (.cons rfl (.cons rfl (.cons rfl (.cons rfl
    (.cons rfl (.cons rfl (.cons rfl (.cons rfl (.cons rfl (.cons rfl (.cons rfl (.cons rfl
      (.nil _)))))))))))))))), rfl, rfl, rfl⟩

/-- The first is displayed, and the other is not. -/
theorem one_feed_notified_two : ∃ ts s, Machine.Run step start ts s ∧ ts.map (·.act) = acts ∧
    displayed 0 ts = [messageOf (notifOf [1])] ∧ s.inbox 6 = [[2]] ∧
    (∃ fd k, OnlyFrom fd k ts s) := by
  obtain ⟨ts, s, hrun, hacts, hdisplayed, hinbox⟩ := exists_run
  exact ⟨ts, s, hrun, hacts, hdisplayed, hinbox, (one_feed_notified hrun).1⟩

end TwoFeeds

end NotificationsCenter

end Megaphone
