import Megaphone.Client.Drained
import Megaphone.Client.NotifRefinement

/-!
Notifications reach the queue that is displayed.

* `queue`, `atHand`: the messages in a queue, and the one that has been taken out of it.
* `exists_userRun`, `exists_centerRun`: the threads end what they have begun.
* `Displays`: what becomes of the messages of a run.
* `displays_iff`: this holds, in every run in which no call of `enqueue` overlaps one of `dequeue`
  on the same queue, exactly up to `INIT_CAP` subscriptions, behind which `m_notification` has moved
  and the `Sb` point to where it was.
-/

namespace Megaphone

open Memory

namespace NotifThreads

variable {c c' : NotifThreads} {o : NotifOut}

/-! ### What is displayed -/

/-- The messages in the queue of an entry: those of the nodes that `head` and `length` give. -/
def queue (c : NotifThreads) (k : ℕ) : List Message :=
  (c.notification.toList[k]?).elim [] fun x =>
    (x.messages.nodes x.heap).map x.heap.messageAt

/-- The message of an entry that `dequeue` has taken out of the queue, and that has not been
displayed. -/
def atHand (c : NotifThreads) (k : ℕ) : List Message :=
  match c.user with
  | .dequeuing _ i _ _ loc => if i = k then loc.taken.toList.map (c.messageAt i) else []
  | .showing _ i _ _ node => if i = k then [c.messageAt i node] else []
  | _ => []

lemma queue_toData (c : NotifThreads) (k : ℕ) : c.toData.queue k = c.queue k := by
  rw [NotifData.queue, queue]
  show ((c.notification.toList.map LinkedNotif.toNotif)[k]?).elim [] _ = _
  rw [List.getElem?_map]
  cases c.notification.toList[k]? <;> rfl

lemma atHand_toData (c : NotifThreads) (k : ℕ) : c.toData.atHand k = c.atHand k := by
  rw [NotifData.atHand, atHand, show c.toData.user = c.toUser from rfl]
  cases huser : c.user with
  | dequeuing nbFeed i ptr feed loc =>
      cases htaken : loc.taken with
      | none =>
          rw [toUser_of_none huser htaken]
          simp [htaken]
      | some p =>
          rw [toUser_of_some huser htaken]
          simp [htaken]
  | showing nbFeed i ptr feed node => rw [toUser_showing huser]
  | _ => simp only [toUser, huser]

/-- No call of `enqueue` is at work. -/
lemma not_overlaps_of_idle (hcenter : c.center = .idle) : ¬c.Overlaps := by
  rintro ⟨hne, heq⟩
  rw [hcenter] at heq
  exact hne heq

lemma user_eq_idle (h : c.toData.user = .idle) : c.user = .idle := by
  cases huser : c.user with
  | idle => rfl
  | dequeuing nbFeed i ptr feed loc =>
      cases htaken : loc.taken with
      | none => rw [show c.toData.user = _ from toUser_of_none huser htaken] at h; cases h
      | some p => rw [show c.toData.user = _ from toUser_of_some huser htaken] at h; cases h
  | _ => simp only [toData, toUser, huser, reduceCtorEq] at h

/-- **The thread of the user** does, while nothing else happens, what the thread with whole calls
does. -/
lemma exists_userRun {us : List NotifData.NotifTransition} {d : NotifData} (hinv : c.Inv)
    (hcenter : c.center = .idle) (hrun : Machine.Run NotifData.step c.toData us d)
    (hacts : ∀ u ∈ us, u.act = .user) (hd : d.user = .idle) :
    ∃ vs c', Machine.Run step c vs c' ∧ (∀ v ∈ vs, v.act = .user) ∧ c'.user = .idle ∧
      ∀ j feed, vs.flatMap (shownFrom j feed) = us.flatMap (NotifData.shownFrom j feed) := by
  induction us generalizing c with
  | nil =>
      cases hrun
      exact ⟨[], c, .nil c, List.forall_mem_nil _, user_eq_idle hd, fun _ _ => rfl⟩
  | cons u us ih =>
      -- by the accesses that remain until the next step that can be seen
      induction hn : c.user.rank using Nat.strong_induction_on generalizing c with
      | _ n ihrank =>
      have hrun₀ := hrun
      cases hrun with
      | @cons _ d₁ _ a o' _ hs hr =>
      obtain ⟨hact, hacts'⟩ := List.forall_mem_cons.mp hacts
      obtain rfl : a = .user := hact
      have hidle : c.user ≠ .idle := fun huser => by
        rw [NotifData.step, NotifData.userStep,
          show c.toData.user = .idle by simp only [toData, toUser, huser]] at hs
        cases hs
      obtain ⟨c₁, o, hstep, hcenter₁, hresult⟩ :=
        hinv.exists_userStep hidle fun _ _ => hcenter
      change c.step .user = _ at hstep
      rw [hcenter] at hcenter₁
      have hresult := hresult (not_overlaps_of_idle hcenter₁)
      have hinv₁ := hresult.inv hinv
      obtain ⟨heq, rfl, hrank⟩ | hnotif := hresult.result
      · obtain ⟨vs, c', hvs, hvacts, huser, hshown⟩ :=
          ihrank _ (hn ▸ hrank) hinv₁ hcenter₁ (heq ▸ hrun₀) rfl
        refine ⟨_, c', .cons hstep hvs, List.forall_mem_cons.mpr ⟨rfl, hvacts⟩, huser,
          fun j feed => ?_⟩
        rw [List.flatMap_cons, hshown]
        rfl
      · obtain ⟨rfl, rfl⟩ := Prod.mk.inj (Option.some.inj (hs.symm.trans hnotif.step_eq))
        obtain ⟨vs, c', hvs, hvacts, huser, hshown⟩ := ih hinv₁ hcenter₁ hr hacts'
        refine ⟨_, c', .cons hstep hvs, List.forall_mem_cons.mpr ⟨rfl, hvacts⟩, huser,
          fun j feed => ?_⟩
        rw [List.flatMap_cons, List.flatMap_cons, hshown]
        rfl

/-- **`add_notif`** ends, while nothing else happens, and returns `0`. -/
lemma exists_centerRun {fd : ℕ} {message : ℕ → UInt8} {pseudo : Pseudo} {ptr : Ptr} {new : Addr}
    {loc : EnqueueAt} (hinv : c.Inv)
    (hcenter : c.center = .enqueuing fd message pseudo ptr new loc)
    (hderef : (c.deref ptr).isSome) :
    ∃ vs c', Machine.Run step c vs c' ∧ (∃ n, vs.map (·.act) = List.replicate n .center) ∧
      (vs.getLast?).map (·.out) = some (.added 0) ∧ c'.center = .idle ∧
      NotifData.NotifStep c.toData (.addNotif fd message pseudo) c'.toData (.added 0) := by
  induction hn : loc.rank using Nat.strong_induction_on generalizing c loc with
  | _ n ih =>
  obtain ⟨x, hx⟩ := Option.isSome_iff_exists.mp hderef
  obtain ⟨c₁, loc', hstep, hqueues, heq, -, hsub, hcenter₁, hderef₁, hrank⟩ |
    ⟨c₁, hstep, -, hnotif, -, -, hcenter₁⟩ := hinv.exists_centerStep hcenter hx
  · change c.step .center = _ at hstep
    obtain ⟨sb, hfind, hptr⟩ := hinv.center _ _ _ _ _ _ hcenter
    have hinv₁ : c₁.Inv := hinv.of_center hfind heq hqueues hsub (hptr ▸ hcenter₁)
    obtain ⟨vs, c', hvs, ⟨k, hacts⟩, hlast, hidle, hnotif⟩ :=
      ih _ (hn ▸ hrank) hinv₁ hcenter₁ hderef₁ rfl
    refine ⟨_, c', .cons hstep hvs, ⟨k + 1, ?_⟩, ?_, hidle, heq ▸ hnotif⟩
    · rw [List.map_cons, hacts]
      rfl
    · cases vs with
      | nil => cases hlast
      | cons v vs => rwa [List.getLast?_cons_cons]
  · change c.step .center = _ at hstep
    exact ⟨_, c₁, .cons hstep (.nil c₁), ⟨1, rfl⟩, rfl, hcenter₁, hnotif⟩

/-- **Notifications reach the queue that is displayed**, after a run to `c`.

* `designates`: every stored `Sb` points to the entry in the current storage of `m_notification`
  that the same call of `subscription_add` has made;
* `enqueues`: `add_notif` with its socket ends, returns `0`, and has put the message into the queue
  of that entry, and into no other;
* `shown`: the messages given so far are those that have been displayed from that entry, under the
  number of its feed, followed by those that are still to be displayed, in the order in which they
  were given;
* `displays`: the next call of `print_notif` displays the rest of them. -/
structure Displays (ts : List ThreadTransition) (c : NotifThreads) : Prop where
  designates : ∀ j sb, c.subscriptions.toList[j]? = some sb → ∃ call notif,
    (calls ts)[j]? = some call ∧ sb.multInfo.sockFd = call.sfd ∧
      sb.notif = c.notification.toCArray.addr j ∧ c.deref sb.notif = some notif ∧
      notif.nbfeed = call.feedNb
  enqueues : c.center = .idle → ∀ j sb, c.subscriptions.toList[j]? = some sb →
    c.user.inside j = none → ∀ message pseudo p block notif, c.deref sb.notif = some notif →
    notif.heap.IsFree p ∧ notif.heap.IsFree block ∧ block ≠ p → ∃ us c',
      Machine.Run step c us c' ∧
      (∃ n, us.map (·.act) =
        .addNotif sb.multInfo.sockFd message pseudo p block :: List.replicate n .center) ∧
      (us.getLast?).map (·.out) = some (.added 0) ∧ c'.center = .idle ∧
      ∀ k, c'.queue k = if k = j then c.queue k ++ [localMessage message pseudo] else c.queue k
  shown : ∀ j call, (calls ts)[j]? = some call → ts.flatMap (givenTo j) =
    ts.flatMap (shownFrom j call.feedNb) ++ (c.atHand j ++ c.queue j ++ c.entering j)
  displays : c.user = .idle → c.center = .idle → ∃ us c', Machine.Run step c us c' ∧
    c'.user = .idle ∧ (∃ n, us.map (·.act) = .printNotif :: List.replicate n .user) ∧
    ∀ j call, (calls ts)[j]? = some call → ts.flatMap (givenTo j) =
      (ts ++ us).flatMap (shownFrom j call.feedNb)

/-- The run of the threads with whole calls, when there are few of `subscription_add`. -/
lemma exists_fewCalls {ts : List ThreadTransition} (h : Machine.Run step dataInit ts c)
    (hsockets : ((calls ts).map (·.sfd)).Nodup) (hsep : ∀ t ∈ ts, ¬t.post.Overlaps)
    (hle : (calls ts).length ≤ INIT_CAP) : c.Inv ∧ ∃ us, NotifData.FewCalls us c.toData ∧
      NotifData.calls us = calls ts ∧
      (∀ j feed, us.flatMap (NotifData.shownFrom j feed) = ts.flatMap (shownFrom j feed)) ∧
      ∀ j, ts.flatMap (givenTo j) = us.flatMap (NotifData.givenTo j) ++ c.entering j := by
  obtain ⟨hinv, us, hrun, hcalls, hshown, hgiven⟩ := exists_run h hsep
  refine ⟨hinv, us, ⟨hrun, ?_, ?_⟩, hcalls, hshown, hgiven⟩
  · rw [hcalls]
    exact hsockets
  · rw [hcalls]
    exact hle

/-- A call of `add_notif` for a stored subscription, while nothing else happens. -/
lemma exists_addNotif {us : List NotifData.NotifTransition} (hinv : c.Inv)
    (hfew : NotifData.FewCalls us c.toData) (hidle : c.center = .idle) {j : ℕ} {sb : Sb}
    (hsb : c.subscriptions.toList[j]? = some sb) (hinside : c.user.inside j = none)
    (message : ℕ → UInt8) (pseudo : Pseudo) {p block : Addr} {notif : LinkedNotif}
    (hderef : c.deref sb.notif = some notif)
    (hfree : notif.heap.IsFree p ∧ notif.heap.IsFree block ∧ block ≠ p) :
    ∃ vs c', Machine.Run step c vs c' ∧
      (∃ n, vs.map (·.act) =
        .addNotif sb.multInfo.sockFd message pseudo p block :: List.replicate n .center) ∧
      (vs.getLast?).map (·.out) = some (.added 0) ∧ c'.center = .idle ∧
      ∀ k, c'.queue k =
        if k = j then c.queue k ++ [localMessage message pseudo] else c.queue k := by
  obtain ⟨d, hadd, hqueue⟩ := hfew.enqueues hsb message pseudo
  obtain ⟨-, -, -, -, hptr, -, -⟩ := hfew.designates hsb
  have hindex : sb.notif.index = j := by
    rw [hptr]
    rfl
  have hnotif : NotifData.NotifStep c.toData (.addNotif sb.multInfo.sockFd message pseudo) d
      (.added 0) := NotifData.step_cases (by rw [NotifData.step, hadd]; rfl)
  obtain ⟨heap, hinit⟩ : ∃ heap, notif.heap.nodeInit
      (ofList (localMessage message pseudo).bytes 0) notif.messages.dataSize p block = some heap :=
    ⟨_, if_pos hfree⟩
  obtain ⟨c₁, hc₁⟩ : ∃ c₁ : NotifThreads, c₁ = { c.put sb.notif
      (notif.withQueue notif.messages heap) with
        center := .enqueuing sb.multInfo.sockFd message pseudo sb.notif p .test } := ⟨_, rfl⟩
  have hstep : c.addNotif sb.multInfo.sockFd message pseudo p block = some (c₁, .quiet) := by
    have hfind : (c.subscriptions.toList.find? fun sb' =>
        sb'.multInfo.sockFd == sb.multInfo.sockFd) = some sb := hfew.find?_eq hsb
    rw [addNotif, hfind, hc₁]
    show (c.deref sb.notif).bind _ = _
    rw [hderef, Option.bind_some, Option.bind_eq_bind, hinit]
    rfl
  have hstep' : c.step (.addNotif sb.multInfo.sockFd message pseudo p block) =
      some (c₁, .quiet) := by
    rw [NotifThreads.step, hidle]
    exact hstep
  have hsep : ¬c₁.Overlaps := by
    rw [hc₁]
    rintro ⟨-, heq⟩
    change c.user.dequeues = some sb.notif.index at heq
    rw [hindex] at heq
    exact PrintLoc.inside_eq_none_iff.mp hinside heq
  obtain ⟨hinv₁, -⟩ := hinv.step hstep' hsep
  obtain ⟨rfl, hadded, -⟩ | ⟨-, -, -, -, heq, -⟩ := hinv.addNotif_cases hidle hstep hsep
  · cases hadded
  · obtain ⟨vs, c', hvs, ⟨n, hacts⟩, hlast, hidle', hnotif'⟩ := exists_centerRun hinv₁
      (by rw [hc₁]) (by
        rw [hc₁]
        exact Option.isSome_iff_exists.mpr ⟨_, FullArray.deref_write hderef _⟩)
    rw [heq] at hnotif'
    obtain ⟨rfl, -⟩ :=
      Prod.mk.inj (Option.some.inj (hnotif.step_eq.symm.trans hnotif'.step_eq))
    refine ⟨_, c', .cons hstep' hvs, ⟨n, by rw [List.map_cons, hacts]⟩, ?_, hidle', fun k => ?_⟩
    · cases vs with
      | nil => cases hlast
      | cons v vs => rwa [List.getLast?_cons_cons]
    · rw [← queue_toData, hqueue, queue_toData]

/-- A call of `print_notif`, while nothing else happens. -/
lemma exists_printNotif {ts : List ThreadTransition} {us : List NotifData.NotifTransition}
    (hinv : c.Inv) (hfew : NotifData.FewCalls us c.toData) (huser : c.user = .idle)
    (hidle : c.center = .idle)
    (hcalls : NotifData.calls us = calls ts)
    (hshown : ∀ j feed, us.flatMap (NotifData.shownFrom j feed) = ts.flatMap (shownFrom j feed))
    (hgiven : ∀ j, ts.flatMap (givenTo j) = us.flatMap (NotifData.givenTo j) ++ c.entering j) :
    ∃ vs c', Machine.Run step c vs c' ∧ c'.user = .idle ∧
      (∃ n, vs.map (·.act) = .printNotif :: List.replicate n .user) ∧
      ∀ j call, (calls ts)[j]? = some call → ts.flatMap (givenTo j) =
        (ts ++ vs).flatMap (shownFrom j call.feedNb) := by
  have huser' : c.toData.user = .idle := by simp only [toData, toUser, huser]
  obtain ⟨ws, d, hws, hd, ⟨n, hacts⟩, hdisplayed⟩ := hfew.displays huser'
  cases hws with
  | nil => cases hacts
  | @cons _ d₁ _ a o ws hs hr =>
  obtain ⟨rfl, htail⟩ : a = .printNotif ∧ ws.map (·.act) = List.replicate n .user :=
    List.cons.inj hacts
  have hstep : c.step .printNotif =
      some ({ c with user := .printing c.notification.length 0 }, .quiet) := by
    simp only [step, huser]
  obtain ⟨hinv₁, -⟩ := hinv.step hstep (not_overlaps_of_idle hidle)
  have hprint : NotifData.NotifStep c.toData .printNotif
      ({ c with user := .printing c.notification.length 0 } : NotifThreads).toData .quiet :=
    .print huser'
  obtain ⟨rfl, rfl⟩ := Prod.mk.inj (Option.some.inj (hs.symm.trans hprint.step_eq))
  have hwacts : ∀ w ∈ ws, w.act = .user := fun w hw => by
    have hmem : w.act ∈ ws.map (·.act) := List.mem_map_of_mem hw
    rw [htail] at hmem
    exact List.eq_of_mem_replicate hmem
  obtain ⟨vs, c', hvs, hvacts, hc', hvshown⟩ := exists_userRun hinv₁ hidle hr hwacts hd
  refine ⟨_, c', .cons hstep hvs, hc', ⟨vs.length, ?_⟩, fun j call hcall => ?_⟩
  · rw [List.map_cons, List.cons_inj_right, List.eq_replicate_iff, List.length_map]
    refine ⟨rfl, fun a ha => ?_⟩
    obtain ⟨v, hv, rfl⟩ := List.mem_map.mp ha
    exact hvacts v hv
  · have hentering : c.entering j = [] := by rw [entering, hidle]
    have hall := hdisplayed j call (by rw [hcalls]; exact hcall)
    rw [hgiven, hentering, List.append_nil, hall, List.flatMap_append, List.flatMap_append,
      List.flatMap_cons, List.flatMap_cons, hshown, hvshown]
    rfl

/-- **Notifications.**  After a run whose subscriptions have different sockets, and in which no call
of `enqueue` overlaps one of `dequeue` on the same queue, every stored `Sb` designates the entry
that its call has made, and every message for its socket is displayed exactly once, in the order of
arrival and under the number of its feed, exactly when `subscription_add` has been called at most
`INIT_CAP` times. -/
theorem displays_iff {ts : List ThreadTransition} (h : Machine.Run step dataInit ts c)
    (hsockets : ((calls ts).map (·.sfd)).Nodup) (hsep : ∀ t ∈ ts, ¬t.post.Overlaps) :
    Displays ts c ↔ (calls ts).length ≤ INIT_CAP := by
  constructor
  · intro hdisplays
    by_contra hlt
    obtain ⟨-, us, hrun, hcalls, -, -⟩ := exists_run h hsep
    obtain ⟨sb, hsb, hne, -⟩ := NotifData.stale_of_lt hrun (by rw [hcalls]; exact not_le.mp hlt)
    obtain ⟨call, notif, -, -, hptr, -⟩ := hdisplays.designates 0 sb hsb
    exact hne hptr
  · intro hle
    obtain ⟨hinv, us, hfew, hcalls, hshown, hgiven⟩ := exists_fewCalls h hsockets hsep hle
    refine ⟨fun j sb hsb => ?_, fun hidle j sb hsb hinside message pseudo p block notif hderef =>
      exists_addNotif hinv hfew hidle hsb hinside message pseudo hderef, fun j call hcall => ?_,
      fun huser hidle => exists_printNotif hinv hfew huser hidle hcalls hshown hgiven⟩
    · obtain ⟨call, notif, hcall, hsocket, hptr, hnotif, hfeed⟩ := hfew.designates hsb
      rw [hcalls] at hcall
      obtain ⟨x, hx, rfl⟩ : ∃ x, c.notification.toList[j]? = some x ∧ x.toNotif = notif := by
        change (c.notification.toList.map LinkedNotif.toNotif)[j]? = some notif at hnotif
        rw [List.getElem?_map] at hnotif
        exact Option.map_eq_some_iff.mp hnotif
      have hptr' : sb.notif = c.notification.toCArray.addr j := hptr
      refine ⟨call, x, hcall, hsocket, hptr', ?_, hfeed⟩
      rw [hptr']
      exact FullArray.deref_addr hx
    · have hall := hfew.shown (by rw [hcalls]; exact hcall)
      rw [hgiven, hall, hshown, atHand_toData, queue_toData, List.append_assoc]

/-! ### Two runs in which it fails -/

namespace NineCalls

/-- A call with the socket `sfd`, for the feed with the same number. -/
def call (sfd : ℕ) : SubscriptionCall :=
  ⟨.replicate ADDRMULT_LEN 0, 6228, sfd, UInt16.ofNat sfd, ⟨.replicate ADDRMULT_LEN 0, 0, 0, 0⟩⟩

/-- The run of calls one after the other. -/
lemma exists_calls (cs : List SubscriptionCall) {c : NotifThreads} (huser : c.user = .idle)
    (hcenter : c.center = .idle) : ∃ ts c', Machine.Run step c ts c' ∧ calls ts = cs ∧
      ∀ t ∈ ts, t.post.center = .idle := by
  induction cs generalizing c with
  | nil => exact ⟨[], c, .nil c, rfl, List.forall_mem_nil _⟩
  | cons call cs ih =>
      have hfirst : c.step (.subscriptionAdd call) = some (c.subscriptionAdd call, .quiet) := by
        simp only [step, huser]
      obtain ⟨c₂, hsecond, huser₂, hcenter₂⟩ : ∃ c₂, (c.subscriptionAdd call).step .user =
          some (c₂, .quiet) ∧ c₂.user = .idle ∧ c₂.center = .idle := by
        simp only [step, userStep, subscriptionAdd, hcenter]
        exact ⟨_, rfl, rfl, rfl⟩
      obtain ⟨ts, c', hrun, hcalls, hidle⟩ := ih huser₂ hcenter₂
      refine ⟨_, c', .cons hfirst (.cons hsecond hrun), ?_,
        List.forall_mem_cons.mpr ⟨hcenter, List.forall_mem_cons.mpr ⟨hcenter₂, hidle⟩⟩⟩
      rw [← hcalls]
      rfl

/-- A message of one letter, for the socket `3`; the addresses are those of its node. -/
def give (letter : UInt8) (p block : Addr) : ThreadAct :=
  .addNotif 3 (fun _ => letter) (.replicate PSEUDO_LEN letter) p block

/-- A message is enqueued while `print_notif` is in `dequeue`, which has taken the other one for the
only one. -/
def overlapping : List ThreadAct :=
  [.subscriptionAdd (call 3), .user, give 97 1 2] ++ List.replicate 5 .center ++
    [.printNotif, .user, .user, .user, .user, give 98 3 4] ++ List.replicate 6 .center ++
    List.replicate 6 .user

/-- Nine subscriptions: a message for the socket of the first one is written to memory that has
been freed.  And one subscription: the second of two messages is neither displayed nor in the
queue. -/
theorem not_displays_nine :
    (∃ ts c, Machine.Run step dataInit ts c ∧ calls ts = (List.range 9).map call ∧
      ((calls ts).map (·.sfd)).Nodup ∧ (∀ t ∈ ts, ¬t.post.Overlaps) ∧ ¬Displays ts c) ∧
    ∃ ts c, Machine.Run step dataInit ts c ∧ ts.map (·.act) = overlapping ∧
      calls ts = [call 3] ∧ ¬Displays ts c := by
  refine ⟨?_, ?_⟩
  · obtain ⟨ts, c, hrun, hcalls, hidle⟩ := exists_calls ((List.range 9).map call) (c := dataInit)
      rfl rfl
    have hsep : ∀ t ∈ ts, ¬t.post.Overlaps := fun t ht => not_overlaps_of_idle (hidle t ht)
    have hsfd : (calls ts).map (·.sfd) = List.range 9 := by
      rw [hcalls]
      rfl
    refine ⟨ts, c, hrun, hcalls, by rw [hsfd]; exact List.nodup_range, hsep, fun hdisplays => ?_⟩
    obtain ⟨-, us, hrun', hcalls', -, -⟩ := exists_run hrun hsep
    obtain ⟨sb, hsb, hne, -⟩ := NotifData.stale_of_lt hrun'
      (by rw [hcalls', hcalls]; exact Nat.lt_succ_self 8)
    obtain ⟨call, notif, -, -, hptr, -⟩ := hdisplays.designates 0 sb hsb
    exact hne hptr
  · have hfacts : (Machine.exec step dataInit overlapping).map (fun p => (calls p.1,
        (p.1.flatMap (givenTo 0)).length, (p.1.flatMap (shownFrom 0 3)).length,
        (p.2.atHand 0 ++ p.2.queue 0 ++ p.2.entering 0).length)) = some ([call 3], 2, 1, 0) := rfl
    obtain ⟨⟨ts, c⟩, hexec, hfacts⟩ := Option.map_eq_some_iff.mp hfacts
    obtain ⟨hrun, hacts⟩ := Machine.run_of_exec hexec
    simp only [Prod.mk.injEq] at hfacts
    obtain ⟨hcalls, hgiven, hshown, hrest⟩ := hfacts
    refine ⟨ts, c, hrun, hacts, hcalls, fun hdisplays => ?_⟩
    have hlength := congrArg List.length (hdisplays.shown 0 (call 3) (by rw [hcalls]; rfl))
    rw [List.length_append, hgiven, show (call 3).feedNb = 3 from rfl, hshown, hrest] at hlength
    exact absurd hlength (by decide)

/-- A subscription, a message for it, and its display. -/
def apart : List ThreadAct :=
  [.subscriptionAdd (call 3), .user, give 97 1 2] ++ List.replicate 5 .center ++
    .printNotif :: List.replicate 12 .user

theorem displays_iff_one : ∃ ts c, Machine.Run step dataInit ts c ∧ ts.map (·.act) = apart ∧
    calls ts = [call 3] ∧
    ts.flatMap (shownFrom 0 3) = [localMessage (fun _ => 97) (.replicate PSEUDO_LEN 97)] ∧
    (Displays ts c ↔ (calls ts).length ≤ INIT_CAP) := by
  have hfacts : (Machine.exec step dataInit apart).map (fun p => (calls p.1,
      p.1.flatMap (shownFrom 0 3), p.1.all fun t => decide ¬t.post.Overlaps)) =
        some ([call 3], [localMessage (fun _ => 97) (.replicate PSEUDO_LEN 97)], true) := rfl
  obtain ⟨⟨ts, c⟩, hexec, hfacts⟩ := Option.map_eq_some_iff.mp hfacts
  obtain ⟨hrun, hacts⟩ := Machine.run_of_exec hexec
  simp only [Prod.mk.injEq, List.all_eq_true, decide_eq_true_eq] at hfacts
  obtain ⟨hcalls, hshown, hsep⟩ := hfacts
  exact ⟨ts, c, hrun, hacts, hcalls, hshown,
    displays_iff hrun (by rw [hcalls]; exact List.nodup_singleton _) hsep⟩

end NineCalls

end NotifThreads

end Megaphone
