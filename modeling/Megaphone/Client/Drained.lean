import Megaphone.Client.Notifications

/-!
`print_notif` drains the queues, when a call of `enqueue` or of `dequeue` is one step.

* `Drains`, `exists_drains`: `print_notif` ends, and leaves the queues empty.
* `FewCalls`: runs with at most `INIT_CAP` calls of `subscription_add`; `FewCalls.shown`,
  `FewCalls.designates`, `FewCalls.enqueues`, `FewCalls.displays`: what becomes of the messages.
* `stale_of_lt`: behind `INIT_CAP` calls, the first `Sb` points to where `m_notification` was.
-/

namespace Megaphone

open Memory

namespace NotifData

variable {c c' : NotifData} {o : NotifOut}

/-! ### What is displayed -/

/-- The thread of the user displays the entries from number `i` on and below number `n`, while
nothing else happens: their queues are empty then, and the others are as before. -/
structure Drains (c : NotifData) (us : List NotifTransition) (c' : NotifData) (i n : ℕ) : Prop where
  run : Machine.Run step c us c'
  acts : ∀ t ∈ us, t.act = .user
  length_eq : c'.notification.toList.length = c.notification.toList.length
  drained : ∀ k, i ≤ k → k < n → c'.queue k = []
  others : ∀ k, k < i ∨ n ≤ k → c'.queue k = c.queue k

lemma Drains.trans {c'' : NotifData} {us us' : List NotifTransition} {i m n : ℕ}
    (h : Drains c us c' i m) (h' : Drains c' us' c'' m n) (him : i ≤ m) (hmn : m ≤ n) :
    Drains c (us ++ us') c'' i n := by
  refine ⟨h.run.append h'.run, fun t ht => ?_, h'.length_eq.trans h.length_eq, fun k hik hkn => ?_,
    fun k hk => ?_⟩
  · exact (List.mem_append.mp ht).elim (h.acts t) (h'.acts t)
  · by_cases hkm : k < m
    · rw [h'.others k (.inl hkm)]
      exact h.drained k hik hkm
    · exact h'.drained k (not_lt.mp hkm) hkn
  · rw [h'.others k (by omega), h.others k (by omega)]

/-- A step of the thread of the user to messages of entry `i` that are drained then. -/
lemma Drains.cons {c'' : NotifData} {us : List NotifTransition} {i : ℕ}
    (hstep : NotifStep c .user c' o) (hlength : c'.notification.toList.length =
      c.notification.toList.length) (hothers : ∀ k, k ≠ i → c'.queue k = c.queue k)
    (h : Drains c' us c'' i (i + 1)) : Drains c (⟨c, .user, o, c'⟩ :: us) c'' i (i + 1) := by
  refine ⟨.cons hstep.step_eq h.run, fun t ht => ?_, h.length_eq.trans hlength, h.drained,
    fun k hk => ?_⟩
  · obtain rfl | ht := List.mem_cons.mp ht
    · rfl
    · exact h.acts t ht
  · rw [h.others k hk, hothers k (by omega)]

/-- A step past an entry whose queue is empty. -/
lemma drains_of_empty {i : ℕ} {user : UserThread} {notif : Notif}
    (hstep : NotifStep c .user { c with user := user } o)
    (hget : c.notification.toList[i]? = some notif) (hempty : notif.messages = []) :
    Drains c [⟨c, .user, o, { c with user := user }⟩] { c with user := user } i (i + 1) := by
  refine ⟨.cons hstep.step_eq (.nil _), fun t ht => ?_, rfl, fun k hik hki => ?_, fun k _ => rfl⟩
  · rw [List.mem_singleton.mp ht]
  · obtain rfl : k = i := by omega
    show (c.notification.toList[k]?).elim [] (·.messages) = []
    rw [hget]
    exact hempty

/-- The inner loop of `print_notif` ends when the queue is empty. -/
lemma exists_drains_dequeuing {nbFeed i : ℕ} {feed : UInt16} {notif : Notif}
    (huser : c.user = .dequeuing nbFeed i (c.notification.toCArray.addr i) feed)
    (hget : c.notification.toList[i]? = some notif) :
    ∃ us c', Drains c us c' i (i + 1) ∧ c'.user = .printing nbFeed (i + 1) := by
  have hlt := (List.getElem?_eq_some_iff.mp hget).1
  obtain ⟨messages, hmessages⟩ : ∃ messages, notif.messages = messages := ⟨_, rfl⟩
  induction messages generalizing c notif with
  | nil =>
      have hstep := NotifStep.last huser (FullArray.deref_addr hget) hmessages
      exact ⟨_, _, drains_of_empty hstep hget hmessages, rfl⟩
  | cons message messages ih =>
      have hnext := NotifStep.next huser (FullArray.deref_addr hget) hmessages
      have hdisplayed := NotifStep.displayed (c := { c.put (c.notification.toCArray.addr i)
        { notif with messages := messages } with
          user := .showing nbFeed i (c.notification.toCArray.addr i) feed message }) rfl
      obtain ⟨us, c', hdrains, huser'⟩ := ih (c := { c.put (c.notification.toCArray.addr i)
        { notif with messages := messages } with
          user := .dequeuing nbFeed i (c.notification.toCArray.addr i) feed })
        rfl (List.getElem?_set_self hlt) (by simpa [put] using hlt) rfl
      refine ⟨_, c', (hdrains.cons hdisplayed rfl fun _ _ => rfl).cons hnext (List.length_set ..)
        fun k hk => ?_, huser'⟩
      exact (queue_put (c.notification.toCArray.addr i) { notif with messages := messages } hlt
        k).trans (if_neg hk)

/-- The loop of `print_notif` displays one entry. -/
lemma exists_drains_printing {nbFeed i : ℕ} (huser : c.user = .printing nbFeed i)
    (hlt : i < nbFeed) (hle : nbFeed ≤ c.notification.toList.length) :
    ∃ us c', Drains c us c' i (i + 1) ∧ c'.user = .printing nbFeed (i + 1) := by
  have hi : i < c.notification.toList.length := lt_of_lt_of_le hlt hle
  have hgetptr : c.notification.get i = some i := FullArray.get_eq_some hi.le
  have hget := List.getElem?_eq_getElem hi
  cases hmessages : (c.notification.toList[i]).messages with
  | nil =>
      have hstep := NotifStep.skip huser hlt hgetptr (FullArray.deref_addr hget) hmessages
      exact ⟨_, _, drains_of_empty hstep hget hmessages, rfl⟩
  | cons message messages =>
      have hstep := NotifStep.heading huser hlt hgetptr (FullArray.deref_addr hget)
        (by rw [hmessages]; exact List.cons_ne_nil message messages)
      obtain ⟨us, c', hdrains, huser'⟩ := exists_drains_dequeuing
        (c := { c with user := .dequeuing nbFeed i (c.notification.toCArray.addr i)
                         (c.notification.toList[i]).nbfeed }) rfl hget
      exact ⟨_, c', hdrains.cons hstep rfl fun _ _ => rfl, huser'⟩

/-- The loop of `print_notif` ends when all queues are empty. -/
lemma exists_drains {nbFeed i : ℕ} (huser : c.user = .printing nbFeed i)
    (hle : nbFeed ≤ c.notification.toList.length) (hi : i ≤ nbFeed) :
    ∃ us c', Drains c us c' i nbFeed ∧ c'.user = .idle := by
  obtain ⟨n, hn⟩ : ∃ n, nbFeed - i = n := ⟨_, rfl⟩
  induction n generalizing c i with
  | zero =>
      have hstep := NotifStep.printed huser (by omega)
      refine ⟨_, _, ⟨.cons hstep.step_eq (.nil _), fun t ht => ?_, rfl, fun k hik hki => ?_,
        fun k _ => rfl⟩, rfl⟩
      · rw [List.mem_singleton.mp ht]
      · omega
  | succ n ih =>
      obtain ⟨us, c₁, hdrains, huser₁⟩ := exists_drains_printing huser (by omega) hle
      obtain ⟨us', c', hdrains', huser'⟩ := ih huser₁ (by rw [hdrains.length_eq]; exact hle)
        (by omega) (by omega)
      exact ⟨_, c', hdrains.trans hdrains' (by omega) (by omega), huser'⟩

/-! ### Up to `INIT_CAP` subscriptions -/

/-- A run from the start of the client, with different sockets and at most `INIT_CAP` calls of
`subscription_add`. -/
structure FewCalls (ts : List NotifTransition) (c : NotifData) : Prop where
  run : Machine.Run step dataInit ts c
  nodup : ((calls ts).map (·.sfd)).Nodup
  length_le : (calls ts).length ≤ INIT_CAP

namespace FewCalls

variable {ts : List NotifTransition}

lemma inv (h : FewCalls ts c) : c.Inv := run_inv h.run inv_dataInit

lemma sockets_eq (h : FewCalls ts c) : c.sockets = (calls ts).map (·.sfd) :=
  (run_entries h.run).1

lemma feeds_eq (h : FewCalls ts c) : c.feeds = (calls ts).map (·.feedNb) :=
  (run_entries h.run).2

lemma length_eq (h : FewCalls ts c) : c.notification.toList.length = (calls ts).length := by
  have hlength := congrArg List.length h.feeds_eq
  rwa [feeds, List.length_map, List.length_map] at hlength

/-- **The messages that were given** have been displayed, or are still to be. -/
lemma shown (h : FewCalls ts c) {j : ℕ} {call : SubscriptionCall}
    (hcall : (calls ts)[j]? = some call) : ts.flatMap (givenTo j) =
      ts.flatMap (shownFrom j call.feedNb) ++ (c.atHand j ++ c.queue j) := by
  refine Machine.Run.conserves (fun c => c.atHand j ++ c.queue j) (givenTo j)
    (shownFrom j call.feedNb) h.run fun t ht => ?_
  obtain ⟨hstep, ⟨us, hpre⟩, vs, hpost⟩ := h.run.exists_of_mem ht
  obtain ⟨hsockets, hfeeds⟩ := run_entries (.cons hstep hpost)
  obtain ⟨-, hfeeds'⟩ := run_entries hpost
  refine step_conserves (run_inv hpre inv_dataInit) ?_ ?_ (step_cases hstep) fun f hf => ?_
  · have hlength := congrArg List.length hfeeds
    rw [List.length_append, feeds, feeds, List.length_map, List.length_map, h.length_eq] at hlength
    have := h.length_le
    omega
  · have hnodup := h.nodup
    rw [← h.sockets_eq, hsockets, List.nodup_append] at hnodup
    exact hnodup.1
  · have hlt := (List.getElem?_eq_some_iff.mp hf).1
    have hget : c.feeds[j]? = some f := by rw [hfeeds', List.getElem?_append_left hlt, hf]
    rw [h.feeds_eq, List.getElem?_map, hcall, Option.map_some] at hget
    exact (Option.some.inj hget).symm

lemma designates (h : FewCalls ts c) {j : ℕ} {sb : Sb}
    (hsb : c.subscriptions.toList[j]? = some sb) : ∃ call notif, (calls ts)[j]? = some call ∧
      sb.multInfo.sockFd = call.sfd ∧ sb.notif = c.notification.toCArray.addr j ∧
      c.notification.toList[j]? = some notif ∧ notif.nbfeed = call.feedNb := by
  have hentry : c.entries[j]? = some sb := by
    rw [entries, List.getElem?_append_left (List.getElem?_eq_some_iff.mp hsb).1, hsb]
  have hlt := (List.getElem?_eq_some_iff.mp hentry).1
  rw [h.inv.length_eq] at hlt
  have hle := h.length_le
  rw [← h.length_eq] at hle
  have hsocket := congrArg (·[j]?) h.sockets_eq
  have hfeed := congrArg (·[j]?) h.feeds_eq
  have hcalls : j < (calls ts).length := by rwa [← h.length_eq]
  have hcall := List.getElem?_eq_getElem hcalls
  have hnotif := List.getElem?_eq_getElem hlt
  simp only [sockets, feeds, List.getElem?_map, hentry, hcall, hnotif, Option.map_some,
    Option.some.injEq] at hsocket hfeed
  refine ⟨_, _, hcall, hsocket, ?_, hnotif, hfeed⟩
  rw [CArray.addr, h.inv.block_eq hle]
  exact h.inv.notif_eq j sb hentry (by omega)

/-- `add_notif` finds the subscription of a socket. -/
lemma find?_eq (h : FewCalls ts c) {j : ℕ} {sb : Sb}
    (hsb : c.subscriptions.toList[j]? = some sb) :
    (c.subscriptions.toList.find? fun sb' => sb'.multInfo.sockFd == sb.multInfo.sockFd) =
      some sb := by
  have hle := h.length_le
  rw [← h.length_eq] at hle
  have hnodup := h.nodup
  rw [← h.sockets_eq] at hnodup
  have hsome : (c.subscriptions.toList.find? fun sb' =>
      sb'.multInfo.sockFd == sb.multInfo.sockFd).isSome :=
    List.find?_isSome.mpr ⟨sb, List.mem_of_getElem? hsb, by simp⟩
  obtain ⟨sb', hfind⟩ := Option.isSome_iff_exists.mp hsome
  obtain ⟨k, hk, hfd, -, -⟩ := h.inv.find? hle hfind
  obtain rfl : j = k := eq_of_socket hnodup hsb hk hfd.symm
  rw [hfind, ← hsb, hk]

lemma enqueues (h : FewCalls ts c) {j : ℕ} {sb : Sb}
    (hsb : c.subscriptions.toList[j]? = some sb) (message : ℕ → UInt8) (pseudo : Pseudo) :
    ∃ c', c.addNotif sb.multInfo.sockFd message pseudo = some (0, c') ∧
      ∀ k, c'.queue k =
        if k = j then c.queue k ++ [localMessage message pseudo] else c.queue k := by
  have hfind := h.find?_eq hsb
  obtain ⟨call, notif, -, -, hptr, hnotif, -⟩ := h.designates hsb
  have hlt := (List.getElem?_eq_some_iff.mp hnotif).1
  have hderef : c.deref sb.notif = some notif := by
    rw [hptr]
    exact FullArray.deref_addr hnotif
  refine ⟨c.put sb.notif (notif.enqueue (localMessage message pseudo)), ?_, fun k => ?_⟩
  · simp only [addNotif, hfind, hderef, Option.bind_eq_bind, Option.bind_some]
  · rw [hptr, queue_put (c.notification.toCArray.addr j) _ hlt]
    by_cases hkj : k = j
    · subst hkj
      rw [if_pos rfl, queue, hnotif]
      exact if_pos rfl
    · rw [if_neg hkj]
      exact if_neg hkj

/-- A call of `print_notif`, while nothing else happens, empties the queues. -/
lemma displays (h : FewCalls ts c) (huser : c.user = .idle) :
    ∃ us c', Machine.Run step c us c' ∧ c'.user = .idle ∧
      (∃ n, us.map (·.act) = .printNotif :: List.replicate n .user) ∧
      ∀ j call, (calls ts)[j]? = some call → ts.flatMap (givenTo j) =
        (ts ++ us).flatMap (shownFrom j call.feedNb) := by
  have hlength : c.notification.length = c.notification.toList.length := FullArray.length_eq _
  have hstep := NotifStep.print huser
  obtain ⟨us, c', hdrains, huser'⟩ := exists_drains
    (c := { c with user := .printing c.notification.length 0 }) rfl hlength.le (Nat.zero_le _)
  have hrun := Machine.Run.cons hstep.step_eq hdrains.run
  refine ⟨_, c', hrun, huser', ⟨us.length, ?_⟩, fun j call hcall => ?_⟩
  · rw [List.map_cons, List.cons_inj_right, List.eq_replicate_iff, List.length_map]
    refine ⟨rfl, fun a ha => ?_⟩
    obtain ⟨t, ht, rfl⟩ := List.mem_map.mp ha
    exact hdrains.acts t ht
  · -- nothing is given meanwhile, and no call begins
    have hcalls : calls us = [] := List.filterMap_eq_nil_iff.mpr fun t ht => by
      rw [hdrains.acts t ht]
      rfl
    have hgiven : us.flatMap (givenTo j) = [] := List.flatMap_eq_nil_iff.mpr fun t ht => by
      rw [givenTo, hdrains.acts t ht]
    have hcalls' : ∀ t : NotifTransition, t.act = .printNotif →
        calls (ts ++ t :: us) = calls ts := by
      intro t ht
      rw [calls, List.filterMap_append, List.filterMap_cons, ht]
      show calls ts ++ calls us = calls ts
      rw [hcalls, List.append_nil]
    have hfew := FewCalls.mk (h.run.append hrun) (by rw [hcalls' _ rfl]; exact h.nodup)
      (by rw [hcalls' _ rfl]; exact h.length_le)
    have hshown := hfew.shown (by rw [hcalls' _ rfl]; exact hcall)
    have hhand : c'.atHand j = [] := by rw [atHand, huser']
    have hlt : j < c.notification.length := by
      rw [hlength, h.length_eq]
      exact (List.getElem?_eq_some_iff.mp hcall).1
    rw [hhand, hdrains.drained j (Nat.zero_le _) hlt, List.append_nil, List.append_nil,
      List.flatMap_append, List.flatMap_cons, hgiven] at hshown
    simpa [givenTo] using hshown

end FewCalls

/-- Behind the first `INIT_CAP` calls, `m_notification` has moved, and the first `Sb` points to
where it was. -/
lemma stale_of_lt {ts : List NotifTransition} (h : Machine.Run step dataInit ts c)
    (hlt : INIT_CAP < (calls ts).length) : ∃ sb, c.subscriptions.toList[0]? = some sb ∧
      sb.notif ≠ c.notification.toCArray.addr 0 ∧ c.deref sb.notif = none := by
  have hinv := run_inv h inv_dataInit
  have hfeeds := (run_entries h).2
  have hlength : c.notification.toList.length = (calls ts).length := by
    have hlength := congrArg List.length hfeeds
    rwa [feeds, List.length_map, show dataInit.feeds = [] from rfl, List.nil_append,
      List.length_map] at hlength
  have hblock := hinv.block_pos (by omega)
  have hadding : c.adding.length ≤ 1 := by
    rw [adding]
    split <;> simp
  have hpos : 0 < c.subscriptions.toList.length := by
    have hentries := hinv.length_eq
    rw [entries, List.length_append] at hentries
    rw [INIT_CAP] at hlt
    omega
  have hsb := List.getElem?_eq_getElem hpos
  have hentry : c.entries[0]? = some c.subscriptions.toList[0] := by
    rw [entries, List.getElem?_append_left hpos, hsb]
  have hptr := hinv.notif_eq 0 _ hentry (Nat.zero_lt_succ 7)
  have hne : c.notification.toCArray.block ≠ 0 := hblock.ne'
  refine ⟨_, hsb, fun heq => ?_, ?_⟩
  · rw [hptr, CArray.addr] at heq
    exact hne (Ptr.mk.inj heq).1.symm
  · rw [hptr, deref]
    exact CArray.deref_of_ne hne.symm

end NotifData

end Megaphone
