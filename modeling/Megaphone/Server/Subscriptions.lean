import Megaphone.Server.Run
import Megaphone.Server.Groups

/-!
Which notification group a subscription gets.

`subscriptions_request` and `notif_new` take `get_feeds(f)` for the record of feed number `f`: it is
the record behind the one of feed `f`, and for the last feed the slot behind the array, which the
next feed is put in.

* `Subscribes`: the inputs that are accepted as subscriptions.
* `subscribed`: the feed and the port of a subscription that is accepted.
* `Tracks`, `step_tracks`: the records of the server are a table of groups.
* `one_group_per_feed_iff`: no accepted subscription uses the record of its feed; two feeds get
  different ports all the same, and one feed gets the same port unless it was the last one and
  another feed has been made in between.
-/

namespace Megaphone

open Memory

/-- A subscription of a known user to a feed that there is. -/
def Server.Subscribes (s : Server) : Input → Prop
  | .tcp _ (.cl type _ rq) => type = SUBSCRIBE ∧ (s.getPseudo (getId rq.header)).isSome ∧
      0 < rq.feedNumber.toNat ∧ rq.feedNumber.toNat ≤ s.feeds.toList.length
  | _ => False

/-- The feed that a request is about. -/
def Input.feedNumber : Input → ℕ
  | .tcp _ (.cl _ _ rq) => rq.feedNumber.toNat
  | _ => 0

/-- The feed number and the port of a subscription that is accepted. -/
def subscribed (t : ServerTransition) : Option (ℕ × UInt16) :=
  match t.act, t.out with
  | .tcp _ (.cl type _ rq), some ans =>
      match ans.entry 0 with
      | some ⟨_, .sb sb⟩ =>
          if type = SUBSCRIBE ∧ ans.code = 0 then some (rq.feedNumber.toNat, sb.count) else none
      | _ => none
  | _, _ => none

lemma subscribed_of_ne {w w' : World} {env : Env} {type : UInt8} {htype : type ≠ REGISTRATION}
    {rq : ClientRQCl} {out : Option Answer} (h : type ≠ SUBSCRIBE) :
    subscribed ⟨w, .tcp env (.cl type htype rq), out, w'⟩ = none := by
  cases out with
  | none => rfl
  | some ans =>
      simp only [subscribed]
      split
      · exact if_neg fun hsub => h hsub.1
      · rfl

/-- The port of the group number `k`. -/
def portOf (k : ℕ) : UInt16 := UInt16.ofNat (6226 + k % 2 ^ 16 + 2)

lemma portOf_inj {k k' : ℕ} (hk : k < 65536) (hk' : k' < 65536) (h : portOf k = portOf k') :
    k = k' := by
  have hval := congrArg UInt16.toNat h
  simp only [portOf, UInt16.toNat_ofNat'] at hval
  omega

/-- The pointer in the record number `i`; a record that nothing has been written to holds none. -/
def Server.notifAt (s : Server) (i : ℕ) : Option Ptr := (s.feeds.toCArray.at? i).bind (·.notif)

/-- The records of the server are the table `g`, and the ports are those of the groups. -/
structure Tracks (s : Server) (g : Groups) : Prop where
  count_eq : g.count = s.feeds.toList.length
  notif_eq : ∀ i, g.notif i = (s.notifAt i).map (·.index)
  owner_eq : g.owner = s.suscribe.toList.map (·.nbfeed)
  port_eq : ∀ k info, s.suscribe.toList[k]? = some info → info.multInfos.port = portOf k

/-- Memory that has not been initialised reads as `NULL`, and sockets can be made. -/
def Env.Clean (env : Env) : Prop := env.junkNotif = none ∧ env.mult.isSome

/-- The same of the outside of an input. -/
def Input.Clean : Input → Prop
  | .tcp env _ => env.Clean
  | .udp env _ => env.Clean
  | _ => True

/-! ### Feeds and posts -/

lemma tracks_dataInit : Tracks dataInit .empty := by
  refine ⟨rfl, fun i => ?_, rfl, fun k info h => by simp [dataInit] at h⟩
  have hat : dataInit.feeds.toCArray.at? i = none ∨
      dataInit.feeds.toCArray.at? i = some CZero.zero := CArray.at?_arrayNew 0 i
  rw [Server.notifAt]
  rcases hat with hat | hat
  · rw [hat]
    rfl
  · rw [hat]
    rfl

/-- The groups depend on the feeds and the subscriptions only. -/
lemma Tracks.congr {s s' : Server} {g : Groups} (h : Tracks s g) (hfeeds : s'.feeds = s.feeds)
    (hsuscribe : s'.suscribe = s.suscribe) : Tracks s' g := by
  refine ⟨?_, fun i => ?_, ?_, ?_⟩
  · rw [hfeeds, h.count_eq]
  · rw [Server.notifAt, hfeeds]
    exact h.notif_eq i
  · rw [hsuscribe, h.owner_eq]
  · rw [hsuscribe]
    exact h.port_eq

lemma Tracks.sameStore {s s' : Server} {g : Groups} (h : Tracks s g) (hs : Server.SameStore s s') :
    Tracks s' g :=
  h.congr hs.feeds_eq hs.suscribe_eq

/-- The pointers after a new feed: that of the feed has not been initialised. -/
lemma notifAt_newFeed {env : Env} {s s' : Server} (hs : Server.NewFeed env s s') (j : ℕ) :
    s'.notifAt j = if j = s.feeds.toList.length then env.junkNotif else s.notifAt j := by
  obtain ⟨creator, rfl⟩ := hs
  rw [Server.notifAt, Server.appendFeed, FullArray.at?_append]
  split
  · rfl
  · rfl

/-- A new feed is a new entry of the table. -/
lemma Tracks.newFeed {env : Env} {s s' : Server} {g : Groups} (henv : env.Clean) (h : Tracks s g)
    (hs : Server.NewFeed env s s') : Tracks s' g.addFeed := by
  have hnotif := notifAt_newFeed hs
  obtain ⟨creator, rfl⟩ := hs
  refine ⟨by simp [Server.appendFeed, h.count_eq], fun i => ?_, h.owner_eq, h.port_eq⟩
  rw [hnotif, ← h.count_eq]
  split
  next hi =>
    rw [hi, Groups.addFeed_notif_self, henv.1]
    rfl
  next hi =>
    rw [Groups.addFeed_notif_of_ne g hi]
    exact h.notif_eq i

/-- The pointers after writing a record. -/
lemma notifAt_write {s s' : Server} {i : ℕ} {feed : Feed} (hs : s'.feeds = s.feeds.write i feed)
    (hi : i < s.feeds.toCArray.slots.length) (j : ℕ) :
    s'.notifAt j = if j = i then feed.notif else s.notifAt j := by
  rw [Server.notifAt, hs, FullArray.at?_write s.feeds feed hi]
  split
  · rfl
  · rfl

/-- The pointers after a new post. -/
lemma notifAt_newPost {s s' : Server} (hs : Server.NewPost s s') (j : ℕ) :
    s'.notifAt j = s.notifAt j := by
  obtain ⟨i, feed, post, hfeed, rfl⟩ := hs
  have hi := lt_of_lt_of_le (List.getElem?_eq_some_iff.mp hfeed).1 s.feeds.length_le_slots
  have hnotif : (s.appendPost i feed post).notifAt j = _ := notifAt_write (s := s) rfl hi j
  rw [hnotif]
  split
  next hj => rw [hj, Server.notifAt, FullArray.at?_eq_some hfeed, Option.bind_some]
  next => rfl

/-- A new post is nothing to the groups. -/
lemma Tracks.newPost {s s' : Server} {g : Groups} (h : Tracks s g) (hs : Server.NewPost s s') :
    Tracks s' g := by
  have hnotif := notifAt_newPost hs
  obtain ⟨i, feed, post, hfeed, rfl⟩ := hs
  refine ⟨by simp [Server.appendPost, h.count_eq], fun j => ?_, h.owner_eq, h.port_eq⟩
  rw [h.notif_eq, hnotif]

/-- What is neither a registration nor a subscription is a step of the table. -/
lemma Tracks.posting {env : Env} {s s' : Server} {g : Groups} (henv : env.Clean) (h : Tracks s g)
    (hs : Server.Posting env s s') :
    ∃ i g', g.step i = some (g', none) ∧ Tracks s' g' := by
  cases hs with
  | same hs => exact ⟨.other, g, rfl, h.sameStore hs⟩
  | feed h₁ hs => exact ⟨.feed, _, rfl, (h.newFeed henv h₁).sameStore hs⟩
  | post h₁ hs => exact ⟨.other, g, rfl, (h.newPost h₁).sameStore hs⟩
  | feedPost h₁ h₂ hs =>
      exact ⟨.feed, _, rfl, ((h.newFeed henv h₁).newPost h₂).sameStore hs⟩

/-! ### Subscriptions -/

/-- The pointer in a record that is read through a fresh pointer. -/
lemma notif_of_slot {env : Env} {s : Server} {f : ℕ} {feed : Feed} (henv : env.Clean)
    (h : s.feeds.slot env.junkFeed f = some feed) : feed.notif = s.notifAt f := by
  obtain ⟨-, rfl⟩ := FullArray.slot_eq_some h
  rw [Server.notifAt]
  cases s.feeds.toCArray.at? f with
  | none => exact henv.1
  | some feed => rfl

/-- The group of the record `f` has the port of its number. -/
lemma Tracks.feedMult {env : Env} {s : Server} {g : Groups} {f k : ℕ} {mult : Mult}
    (henv : env.Clean) (h : Tracks s g) (hg : g.Inv) (hk : g.notif f = some k)
    (hmult : s.feedMult env f = some mult) : mult.port = portOf k := by
  obtain ⟨feed, hfeed, hmult⟩ := Option.bind_eq_some_iff.mp hmult
  obtain ⟨ptr, hptr, hmult⟩ := Option.bind_eq_some_iff.mp hmult
  obtain ⟨infos, hinfos, hmult⟩ := Option.bind_eq_some_iff.mp hmult
  cases hmult
  rw [notif_of_slot henv hfeed] at hptr
  rw [h.notif_eq, hptr] at hk
  cases hk
  -- the group that the pointer designates is an entry of `m_suscribe`
  have howner := hg f ptr.index (by rw [h.notif_eq, hptr]; rfl)
  rw [h.owner_eq, List.getElem?_map] at howner
  obtain ⟨infos', hinfos', -⟩ := Option.map_eq_some_iff.mp howner
  have hderef : s.suscribe.toCArray.deref ptr = some infos' ∨
      s.suscribe.toCArray.deref ptr = none := by
    rw [CArray.deref]
    split
    · exact .inl (FullArray.at?_eq_some hinfos')
    · exact .inr rfl
  rw [hinfos] at hderef
  obtain heq | heq := hderef
  · cases heq
    exact h.port_eq _ _ hinfos'
  · cases heq

/-- `notif_new` appends a group and writes the record behind that of the feed. -/
lemma notifNew_eq_some {env : Env} {s s' : Server} {f : ℕ} {mult : Mult}
    (hf : f ≤ s.feeds.toList.length) (hs : s.notifNew env f mult = some s') :
    ∃ feed, s.feeds.slot env.junkFeed f = some feed ∧
      s' = { s with
        suscribe := s.suscribe.append ⟨f, 0, mult⟩
        feeds := s.feeds.write f { feed with notif := some ((s.suscribe.append
          ⟨f, 0, mult⟩).toCArray.addr ((s.suscribe.append ⟨f, 0, mult⟩).length - 1)) } } := by
  obtain ⟨i, hi, hs⟩ := Option.bind_eq_some_iff.mp hs
  have hif : f = i := by
    rw [Server.feedRecord, Server.getFeeds, FullArray.get_eq_some hf] at hi
    exact Option.some.inj hi
  subst hif
  obtain ⟨feed, hfeed, hs⟩ := Option.bind_eq_some_iff.mp hs
  exact ⟨feed, hfeed, (Option.some.inj hs).symm⟩

/-- A new group. -/
lemma Tracks.notifNew {env : Env} {s s' : Server} {g : Groups} {f : ℕ} (henv : env.Clean)
    (h : Tracks s g) (hf : f ≤ s.feeds.toList.length)
    (hs : s.notifNew env f (s.setMult env) = some s') : Tracks s' (g.addGroup f) := by
  obtain ⟨feed, hfeed, rfl⟩ := notifNew_eq_some hf hs
  obtain ⟨hlt, -⟩ := FullArray.slot_eq_some hfeed
  have hlength := h.owner_eq
  refine ⟨by simp [h.count_eq], fun j => ?_, by simp [h.owner_eq], fun k info hk => ?_⟩
  · rw [notifAt_write (s := s) rfl hlt]
    split
    next hj =>
      rw [hj, Groups.addGroup_notif_self, h.owner_eq]
      simp [CArray.addr]
    next hj => rw [Groups.addGroup_notif_of_ne g hj, h.notif_eq]
  · rw [FullArray.toList_append] at hk
    rcases lt_or_ge k s.suscribe.toList.length with hlt' | hge
    · rw [List.getElem?_append_left hlt'] at hk
      exact h.port_eq k info hk
    · rw [List.getElem?_append_right hge, List.getElem?_singleton] at hk
      split at hk
      next h0 =>
        cases hk
        obtain ⟨fd, hfd⟩ := Option.isSome_iff_exists.mp henv.2
        rw [show k = s.suscribe.toList.length by omega, Server.setMult, hfd, portOf,
          Server.getSubscribeCount, FullArray.length_eq]
      next => cases hk

/-- Setting `last_send_post` is nothing to the groups. -/
lemma Tracks.loopStore {s s' : Server} {g : Groups} (h : Tracks s g) (hs : s.LoopStore s') :
    Tracks s' g := by
  let group := fun info : NotificationsInfos => (info.nbfeed, info.multInfos)
  have hentry : ∀ k : ℕ,
      (s'.suscribe.toList[k]?).map group = (s.suscribe.toList[k]?).map group := by
    intro k
    obtain heq | ⟨ptr, info, n, hinfo, heq⟩ := hs.suscribe_eq
    · rw [heq]
    · rw [heq, FullArray.toList_write]
      by_cases hk : ptr.index = k
      · subst hk
        rcases lt_or_ge ptr.index s.suscribe.toList.length with hlt | hge
        · have hat : s.suscribe.toCArray.at? ptr.index = some info := by
            rw [CArray.deref] at hinfo
            split at hinfo
            · exact hinfo
            · cases hinfo
          rw [List.getElem?_set_self hlt, FullArray.getElem?_of_at? hat hlt]
          rfl
        · rw [List.set_eq_of_length_le hge]
      · rw [List.getElem?_set_ne hk]
  refine ⟨by rw [hs.feeds_eq, h.count_eq], fun i => ?_, ?_, fun k info hk => ?_⟩
  · rw [Server.notifAt, hs.feeds_eq]
    exact h.notif_eq i
  · rw [h.owner_eq]
    refine List.ext_getElem? fun k => ?_
    have hk := congrArg (Option.map Prod.fst) (hentry k)
    simpa [Option.map_map, Function.comp_def] using hk.symm
  · have hk' := hentry k
    rw [hk] at hk'
    obtain ⟨info', hinfo', heq⟩ := Option.map_eq_some_iff.mp hk'.symm
    rw [← h.port_eq k info' hinfo', (Prod.mk.inj heq).2]

/-- A subscription over TCP that is accepted is one of the table; one that is not leaves it. -/
lemma Tracks.subscription {env : Env} {s s' : Server} {g : Groups} {rq : ClientRQCl}
    {htype : SUBSCRIBE ≠ REGISTRATION} {ans : Answer} (henv : env.Clean) (h : Tracks s g)
    (hg : g.Inv) (hs : s.handleTcpConnection env (.cl SUBSCRIBE htype rq) = some (s', ans)) :
    (Tracks s' g ∧ ∀ sb type, ans.code = 0 → ans.entry 0 ≠ some ⟨type, .sb sb⟩) ∨
    ∃ g' k, g.step (.subscribe rq.feedNumber.toNat) = some (g', some (rq.feedNumber.toNat, k)) ∧
      Tracks s' g' ∧ ans.code = 0 ∧ ∃ sb type, ans.entry 0 = some ⟨type, .sb sb⟩ ∧
        sb.count = portOf k := by
  obtain ⟨r, hrq, hr⟩ := Server.handleTcpConnection_cases hs
  have hrq' : Server.subscriptionsRequest env { s with dErrno := NOERROR } (.arrayNew ServerRQ 0)
    rq = some r := hrq
  have h₀ : Tracks { s with dErrno := NOERROR } g := h.sameStore ⟨rfl, rfl, rfl⟩
  obtain ⟨e, -, -, rfl⟩ | ⟨-, hpos, hle, feed, s₁, mult, hfeed, hs₁, hmult, rfl⟩ :=
    Server.subscriptionsRequest_cases hrq'
  · left
    obtain ⟨hcode, -⟩ | ⟨-, rfl, -, rfl⟩ | ⟨-, rfl, -, rfl⟩ := hr
    · exact absurd (show (1 : UInt8) = 0 from hcode) (by decide)
    · exact ⟨h.sameStore ⟨rfl, rfl, rfl⟩,
        fun _ _ hcode => absurd (show (1 : UInt8) = 0 from hcode) (by decide)⟩
    · refine ⟨h.sameStore ⟨rfl, rfl, rfl⟩, fun sb type _ hentry => ?_⟩
      cases hentry
  · right
    have hlist : rq.feedNumber.toNat ≤ g.count := by
      rw [h.count_eq]
      exact hle
    rw [notif_of_slot henv hfeed] at hs₁
    -- the group of the record, or a new one
    obtain ⟨g', k, hstep, h₁, hg', hk⟩ : ∃ g' k, g.step (.subscribe rq.feedNumber.toNat) =
        some (g', some (rq.feedNumber.toNat, k)) ∧ Tracks s₁ g' ∧ g'.Inv ∧
        g'.notif rq.feedNumber.toNat = some k := by
      have hnotif := h₀.notif_eq rq.feedNumber.toNat
      cases hptr : Server.notifAt { s with dErrno := NOERROR } rq.feedNumber.toNat with
      | none =>
          rw [hptr] at hnotif hs₁
          have hstep : g.step (.subscribe rq.feedNumber.toNat) =
              some (g.addGroup rq.feedNumber.toNat,
                some (rq.feedNumber.toNat, g.owner.length)) := by
            simp only [Groups.step, hpos, hlist, and_self, if_true, hnotif, Option.map_none]
          exact ⟨_, _, hstep, h₀.notifNew henv hle hs₁, (Groups.step_effect hstep).inv hg,
            Groups.addGroup_notif_self g _⟩
      | some ptr =>
          rw [hptr] at hnotif hs₁
          cases hs₁
          have hstep : g.step (.subscribe rq.feedNumber.toNat) =
              some (g, some (rq.feedNumber.toNat, ptr.index)) := by
            simp only [Groups.step, hpos, hlist, and_self, if_true, hnotif, Option.map_some]
          exact ⟨_, _, hstep, h₀, hg, hnotif⟩
    have hport := h₁.feedMult henv hg' hk hmult
    obtain ⟨-, rfl, rfl⟩ | ⟨hcode, -⟩ | ⟨hcode, -⟩ := hr
    · exact ⟨g', k, hstep, h₁.sameStore ⟨rfl, rfl, rfl⟩, rfl, _, _, rfl, hport⟩
    · exact absurd rfl hcode
    · exact absurd rfl hcode

lemma Tracks.registration {env : Env} {s s' : Server} {g : Groups} {rq : ClientRQRg} {ans : Answer}
    (h : Tracks s g) (hs : s.handleTcpConnection env (.rg rq) = some (s', ans)) :
    Tracks s' g := by
  obtain ⟨r, e, hrq, rfl⟩ := Server.handleTcpConnection_server hs
  obtain ⟨-, rfl⟩ | ⟨-, id, -, rfl⟩ := Server.registrationRequest_cases hrq
  · exact h.congr rfl rfl
  · exact h.congr rfl rfl

lemma Tracks.otherRequest {env : Env} {s s' : Server} {g : Groups} {type : UInt8}
    {htype : type ≠ REGISTRATION} {rq : ClientRQCl} {ans : Answer} (henv : env.Clean)
    (h : Tracks s g) (hsub : type ≠ SUBSCRIBE)
    (hs : s.handleTcpConnection env (.cl type htype rq) = some (s', ans)) :
    ∃ i g', g.step i = some (g', none) ∧ Tracks s' g' := by
  obtain ⟨r, e, hrq, rfl⟩ := Server.handleTcpConnection_server hs
  have h₀ : Tracks { s with dErrno := NOERROR } g := h.congr rfl rfl
  obtain ⟨i, g', hstep, h'⟩ := h₀.posting henv (Server.requests_posting hsub hrq)
  exact ⟨i, g', hstep, h'.congr rfl rfl⟩

/-! ### Runs -/

/-- **One step** of the server is one of the table. -/
lemma step_tracks {w w' : World} {i : Input} {out : Option Answer} {g : Groups}
    (hi : i.Clean) (h : Tracks w.server g) (hg : g.Inv) (hs : step w i = some (w', out)) :
    ∃ j g' o, g.step j = some (g', o) ∧
      subscribed ⟨w, i, out, w'⟩ = o.map (fun p => (p.1, portOf p.2)) ∧ Tracks w'.server g' := by
  cases step_cases hs with
  | @tcp env rq s' ans hconn =>
      cases rq with
      | rg rq =>
          exact ⟨.other, g, none, rfl, rfl, h.registration hconn⟩
      | cl type htype rq =>
          by_cases hsub : type = SUBSCRIBE
          · subst hsub
            obtain ⟨h', hnone⟩ | ⟨g', k, hstep, h', hcode, sb, type, hentry, hport⟩ :=
              h.subscription hi hg hconn
            · refine ⟨.other, g, none, rfl, ?_, h'⟩
              simp only [subscribed]
              split
              next type sb hentry =>
                rw [if_neg fun hcode => hnone sb type hcode.2 hentry]
                rfl
              next => rfl
            · exact ⟨_, g', _, hstep, by simp [subscribed, hentry, hcode, hport], h'⟩
          · obtain ⟨j, g', hstep, h'⟩ := h.otherRequest hi hsub hconn
            exact ⟨j, g', none, hstep, subscribed_of_ne hsub, h'⟩
  | sent hs' =>
      exact ⟨.other, g, none, rfl, rfl, h.sameStore (Server.idClearTransfer_sameStore hs')⟩
  | timeout now =>
      exact ⟨.other, g, none, rfl, rfl, h.sameStore ⟨rfl, rfl, rfl⟩⟩
  | udp hrecv hp =>
      obtain ⟨j, g', hstep, h'⟩ := h.posting hi (Server.handleUploadPacket_posting hp)
      exact ⟨j, g', none, hstep, rfl, h'⟩
  | loop hr =>
      exact ⟨.other, g, none, rfl, rfl, h.loopStore (loopStep_loopStore hr)⟩

/-- A transition of the server and the one of the table. -/
structure MatchesGroups (t : ServerTransition) (u : Groups.GroupTransition) : Prop where
  out_eq : subscribed t = u.out.map fun p => (p.1, portOf p.2)
  count_eq : u.pre.count = t.pre.server.feeds.toList.length

lemma MatchesGroups.exists_group {t : ServerTransition} {u : Groups.GroupTransition}
    (h : MatchesGroups t u) {f : ℕ} {p : UInt16} (hsub : subscribed t = some (f, p)) :
    ∃ k, u.out = some (f, k) ∧ p = portOf k := by
  rw [h.out_eq] at hsub
  obtain ⟨q, hq, heq⟩ := Option.map_eq_some_iff.mp hsub
  obtain ⟨rfl, rfl⟩ := Prod.mk.inj heq
  exact ⟨q.2, hq, rfl⟩

/-- A run of the server is a run of the table. -/
lemma run_tracks {w : World} {ts : List ServerTransition} (h : Machine.Run step World.init ts w)
    (hts : ∀ t ∈ ts, t.act.Clean) : ∃ us g, Machine.Run Groups.step .empty us g ∧
      Tracks w.server g ∧ List.Forall₂ MatchesGroups ts us := by
  obtain ⟨us, g, hrun, ⟨htracks, -⟩, hall⟩ := h.simulates
    (R := fun w g => Tracks w.server g ∧ g.Inv) (Q := fun t => t.act.Clean) (M := MatchesGroups)
    (fun w i w' out g hR hi hs => by
      obtain ⟨htracks, hg⟩ := hR
      obtain ⟨j, g', o, hstep, hout, h'⟩ := step_tracks hi htracks hg hs
      exact ⟨j, g', o, hstep, ⟨hout, htracks.count_eq⟩, h', (Groups.step_effect hstep).inv hg⟩)
    hts ⟨tracks_dataInit, Groups.inv_empty⟩
  exact ⟨us, g, hrun, htracks, hall⟩

/-- Two subscriptions of a run, to the same feed and to different ones, in their order. -/
def SamePort (t t' : ServerTransition) : Prop :=
  ∀ f p p', subscribed t = some (f, p) → subscribed t' = some (f, p') → p = p'

/-- Subscriptions to different feeds have different ports. -/
def DistinctPort (t t' : ServerTransition) : Prop :=
  ∀ f f' p p', subscribed t = some (f, p) → subscribed t' = some (f', p') → f ≠ f' → p ≠ p'

/-- The feed of two subscriptions was the last one at the first of them and not at the second. -/
structure FeedBetween (t t' : ServerTransition) : Prop where
  first : t.pre.server.Subscribes t.act
  second : t'.pre.server.Subscribes t'.act
  same : t'.act.feedNumber = t.act.feedNumber
  last : t.pre.server.feeds.toList.length = t.act.feedNumber
  lt : t.act.feedNumber < t'.pre.server.feeds.toList.length

/-- The record that an accepted subscription uses is that of its feed, an existing one. -/
def OwnRecord (t : ServerTransition) : Prop :=
  ∀ f p, subscribed t = some (f, p) →
    t.pre.server.feedRecord f = some (f - 1) ∧ f - 1 < t.pre.server.feeds.toList.length

/-- One notification group for each feed. -/
structure OneGroupPerFeed (ts : List ServerTransition) : Prop where
  record : ∀ t ∈ ts, OwnRecord t
  same : ts.Pairwise SamePort
  distinct : ts.Pairwise DistinctPort

/-- What `subscriptions_request` refuses is no subscription. -/
lemma Server.not_subscribes {s : Server} {env : Env} {htype : SUBSCRIBE ≠ REGISTRATION}
    {rq : ClientRQCl} (h : s.getPseudo (getId rq.header) = none ∨
      s.feeds.toList.length < rq.feedNumber.toNat ∨ rq.feedNumber = 0) :
    ¬s.Subscribes (.tcp env (.cl SUBSCRIBE htype rq)) := by
  rintro ⟨-, hid, hpos, hle⟩
  obtain hnone | hlt | hzero := h
  · rw [hnone] at hid
    cases hid
  · exact absurd hle (not_le.mpr hlt)
  · rw [hzero] at hpos
    exact Nat.lt_irrefl _ hpos

/-- What is accepted is answered with a port, and nothing else is. -/
lemma subscribed_cases {w w' : World} {i : Input} {out : Option Answer}
    (h : step w i = some (w', out)) :
    (¬w.server.Subscribes i ∧ subscribed ⟨w, i, out, w'⟩ = none) ∨
    (w.server.Subscribes i ∧ ∃ p, subscribed ⟨w, i, out, w'⟩ = some (i.feedNumber, p)) := by
  cases step_cases h with
  | @tcp env rq s' ans hconn =>
      cases rq with
      | rg rq => exact .inl ⟨id, rfl⟩
      | cl type htype rq =>
          by_cases hsub : type = SUBSCRIBE
          · subst hsub
            obtain ⟨r, hrq, hr⟩ := Server.handleTcpConnection_cases hconn
            have hrq' : Server.subscriptionsRequest env { w.server with dErrno := NOERROR }
              (.arrayNew ServerRQ 0) rq = some r := hrq
            obtain ⟨e, -, hrefused, rfl⟩ | ⟨hid, hpos, hle, feed, s₁, mult, -, -, -, rfl⟩ :=
              Server.subscriptionsRequest_cases hrq'
            · refine .inl ⟨Server.not_subscribes hrefused, ?_⟩
              obtain ⟨hcode, -⟩ | ⟨-, -, -, rfl⟩ | ⟨-, -, -, rfl⟩ := hr
              · exact absurd (show (1 : UInt8) = 0 from hcode) (by decide)
              · rfl
              · rfl
            · obtain ⟨-, rfl, rfl⟩ | ⟨hcode, -⟩ | ⟨hcode, -⟩ := hr
              · exact .inr ⟨⟨rfl, hid, hpos, hle⟩, mult.port, rfl⟩
              · exact absurd rfl hcode
              · exact absurd rfl hcode
          · exact .inl ⟨fun h => hsub h.1, subscribed_of_ne hsub⟩
  | _ => exact .inl ⟨id, rfl⟩

lemma subscribed_eq_none_iff {w w' : World} {i : Input} {out : Option Answer}
    (h : step w i = some (w', out)) :
    subscribed ⟨w, i, out, w'⟩ = none ↔ ¬w.server.Subscribes i := by
  obtain ⟨hnot, hnone⟩ | ⟨hsub, p, hsome⟩ := subscribed_cases h
  · exact ⟨fun _ => hnot, fun _ => hnone⟩
  · rw [hsome]
    exact ⟨nofun, fun hnot => absurd hsub hnot⟩

lemma subscribes_of_subscribed {w w' : World} {i : Input} {out : Option Answer} {f : ℕ}
    {p : UInt16} (h : step w i = some (w', out)) (hsub : subscribed ⟨w, i, out, w'⟩ = some (f, p)) :
    w.server.Subscribes i ∧ i.feedNumber = f := by
  obtain ⟨-, hnone⟩ | ⟨hsubscribes, p', hsome⟩ := subscribed_cases h
  · rw [hnone] at hsub
    cases hsub
  · rw [hsome] at hsub
    cases hsub
    exact ⟨hsubscribes, rfl⟩

/-- A subscription is to a feed that there is. -/
lemma Server.Subscribes.feedNumber {s : Server} {i : Input} (h : s.Subscribes i) :
    0 < i.feedNumber ∧ i.feedNumber ≤ s.feeds.toList.length := by
  cases i with
  | tcp env rq =>
      cases rq with
      | rg rq => exact h.elim
      | cl type htype rq => exact h.2.2
  | _ => exact h.elim

/-- The record that an accepted subscription uses is the one behind that of its feed. -/
lemma feedRecord_of_subscribed {w w' : World} {i : Input} {out : Option Answer} {f : ℕ} {p : UInt16}
    (h : step w i = some (w', out)) (hsub : subscribed ⟨w, i, out, w'⟩ = some (f, p)) :
    0 < f ∧ w.server.feedRecord f = some f := by
  obtain ⟨hsubscribes, rfl⟩ := subscribes_of_subscribed h hsub
  obtain ⟨hpos, hle⟩ := hsubscribes.feedNumber
  exact ⟨hpos, FullArray.get_eq_some hle⟩

/-- The feed of two subscriptions that were answered. -/
lemma feedBetween_iff {w w' : World} {ts : List ServerTransition} (h : Machine.Run step w ts w')
    {t t' : ServerTransition} (ht : t ∈ ts) (ht' : t' ∈ ts) :
    FeedBetween t t' ↔ ∃ f p p', subscribed t = some (f, p) ∧ subscribed t' = some (f, p') ∧
      t.pre.server.feeds.toList.length = f ∧ f < t'.pre.server.feeds.toList.length := by
  have hstep := (h.exists_of_mem ht).1
  have hstep' := (h.exists_of_mem ht').1
  constructor
  · rintro ⟨hfirst, hsecond, hsame, hlast, hlt⟩
    obtain ⟨hnot, -⟩ | ⟨-, p, hsub⟩ := subscribed_cases hstep
    · exact absurd hfirst hnot
    obtain ⟨hnot, -⟩ | ⟨-, p', hsub'⟩ := subscribed_cases hstep'
    · exact absurd hsecond hnot
    rw [hsame] at hsub'
    exact ⟨_, p, p', hsub, hsub', hlast, hlt⟩
  · rintro ⟨f, p, p', hsub, hsub', hlast, hlt⟩
    obtain ⟨hfirst, hfeed⟩ := subscribes_of_subscribed hstep hsub
    obtain ⟨hsecond, hfeed'⟩ := subscribes_of_subscribed hstep' hsub'
    exact ⟨hfirst, hsecond, hfeed'.trans hfeed.symm, by rw [hfeed, hlast], by rwa [hfeed]⟩

/-- No accepted subscription uses the record of its feed. -/
lemma not_ownRecord {w w' : World} {ts : List ServerTransition} (h : Machine.Run step w ts w')
    {t : ServerTransition} (ht : t ∈ ts) (hown : OwnRecord t) : subscribed t = none := by
  cases hsub : subscribed t with
  | none => rfl
  | some q =>
      obtain ⟨f, p⟩ := q
      obtain ⟨hpos, hrecord⟩ := feedRecord_of_subscribed (h.exists_of_mem ht).1 hsub
      have hown' := (hown f p hsub).1
      rw [hrecord] at hown'
      have := Option.some.inj hown'
      omega

/-- The ports of a run of the table: those of different numbers differ, and those of one number are
the same exactly when its entry was not made in between. -/
lemma groups_pairwise {g : Groups} {us : List Groups.GroupTransition}
    (h : Machine.Run Groups.step .empty us g) (hlen : g.owner.length ≤ 65536) :
    us.Pairwise fun u u' => (∀ f f' k k', u.out = some (f, k) → u'.out = some (f', k') → f ≠ f' →
        portOf k ≠ portOf k') ∧
      ∀ f k k', u.out = some (f, k) → u'.out = some (f, k') →
        (portOf k = portOf k' ↔ ¬(u.pre.count = f ∧ f < u'.pre.count)) := by
  have hlt : ∀ u ∈ us, ∀ f k, u.out = some (f, k) → k < 65536 := fun u hu f k hout =>
    lt_of_lt_of_le (List.getElem?_eq_some_iff.mp
      (Groups.owner_of_mem h Groups.inv_empty hu hout)).1 hlen
  refine (Groups.same_iff h Groups.inv_empty).imp_of_mem fun {u u'} hu hu' hsame => ⟨?_, ?_⟩
  · intro f f' k k' hout hout' hne hport
    exact Groups.distinct h Groups.inv_empty hu hu' hout hout' hne
      (portOf_inj (hlt u hu f k hout) (hlt u' hu' f' k' hout') hport)
  · intro f k k' hout hout'
    rw [← hsame f k k' hout hout']
    exact ⟨portOf_inj (hlt u hu f k hout) (hlt u' hu' f k' hout'), congrArg portOf⟩

/-- The same of a run of the server. -/
lemma ports_pairwise {w : World} {ts : List ServerTransition}
    (h : Machine.Run step World.init ts w) (hts : ∀ t ∈ ts, t.act.Clean)
    (hlen : w.server.suscribe.toList.length ≤ 65536) :
    ts.Pairwise fun t t' => DistinctPort t t' ∧ (SamePort t t' ↔
      ¬∃ f p p', subscribed t = some (f, p) ∧ subscribed t' = some (f, p') ∧
        t.pre.server.feeds.toList.length = f ∧ f < t'.pre.server.feeds.toList.length) := by
  obtain ⟨us, g, hrun, htracks, hall⟩ := run_tracks h hts
  have howner : g.owner.length ≤ 65536 := by rwa [htracks.owner_eq, List.length_map]
  refine Machine.pairwise_of_forall₂ (fun t t' u u' hm hm' hports => ?_) hall
    (groups_pairwise hrun howner)
  obtain ⟨hdistinct, hsame⟩ := hports
  refine ⟨fun f f' p p' hsub hsub' hne => ?_, fun hp => ?_, fun hnot f p p' hsub hsub' => ?_⟩
  · obtain ⟨k, hk, rfl⟩ := hm.exists_group hsub
    obtain ⟨k', hk', rfl⟩ := hm'.exists_group hsub'
    exact hdistinct f f' k k' hk hk' hne
  · rintro ⟨f, p, p', hsub, hsub', hlast, hlt⟩
    obtain ⟨k, hk, rfl⟩ := hm.exists_group hsub
    obtain ⟨k', hk', rfl⟩ := hm'.exists_group hsub'
    refine (hsame f k k' hk hk').mp (hp f _ _ hsub hsub') ?_
    rw [hm.count_eq, hm'.count_eq]
    exact ⟨hlast, hlt⟩
  · obtain ⟨k, hk, rfl⟩ := hm.exists_group hsub
    obtain ⟨k', hk', rfl⟩ := hm'.exists_group hsub'
    refine (hsame f k k' hk hk').mpr ?_
    rw [hm.count_eq, hm'.count_eq]
    rintro ⟨hlast, hlt⟩
    exact hnot ⟨f, _, _, hsub, hsub', hlast, hlt⟩

/-- **One notification group for each feed.**  It is so in a run exactly when no request of it is
accepted as a subscription.  When memory that has not been initialised reads as `NULL`, sockets can
be made and there are at most 65536 groups, two feeds get different ports, and each feed gets the
same port unless it was the last one and another feed has been made in between. -/
theorem one_group_per_feed_iff {w : World} {ts : List ServerTransition}
    (h : Machine.Run step World.init ts w) :
    (OneGroupPerFeed ts ↔ ∀ t ∈ ts, ¬t.pre.server.Subscribes t.act) ∧
    ((∀ t ∈ ts, t.act.Clean) → w.server.suscribe.toList.length ≤ 65536 →
      ts.Pairwise DistinctPort ∧
      (ts.Pairwise SamePort ↔ ts.Pairwise fun t t' => ¬FeedBetween t t')) := by
  have hiff : ∀ t ∈ ts, subscribed t = none ↔ ¬t.pre.server.Subscribes t.act := fun t ht =>
    subscribed_eq_none_iff (h.exists_of_mem ht).1
  refine ⟨⟨fun hone t ht => (hiff t ht).mp (not_ownRecord h ht (hone.record t ht)), fun hnot => ?_⟩,
    fun hts hlen => ?_⟩
  · have hnone : ∀ t ∈ ts, subscribed t = none := fun t ht => (hiff t ht).mpr (hnot t ht)
    refine ⟨fun t ht f p hsub => ?_, ?_, ?_⟩
    · rw [hnone t ht] at hsub
      cases hsub
    · refine List.pairwise_of_forall_mem_list fun t ht t' _ f p p' hsub => ?_
      rw [hnone t ht] at hsub
      cases hsub
    · refine List.pairwise_of_forall_mem_list fun t ht t' _ f f' p p' hsub => ?_
      rw [hnone t ht] at hsub
      cases hsub
  · have hports := ports_pairwise h hts hlen
    refine ⟨hports.imp And.left, ?_⟩
    rw [List.Pairwise.iff_of_mem fun ht ht' => not_congr (feedBetween_iff h ht ht')]
    exact ⟨fun hsame => hports.imp₂ (fun _ _ hp hs => hp.2.mp hs) hsame,
      fun hfeed => hports.imp₂ (fun _ _ hp hf => hp.2.mpr hf) hfeed⟩

namespace FeedAfter

/-- A request over TCP of the user 1. -/
def request (type : UInt8) (htype : type ≠ REGISTRATION) (feedNumber : UInt16) : Input :=
  .tcp (.quiet []) (.cl type htype ⟨mkHeader type 1, feedNumber, 0, 1, fun _ => 98⟩)

/-- A user makes a feed, subscribes to it, makes another feed and subscribes to the first again. -/
def acts : List Input :=
  [.tcp (.quiet [0]) (.rg ⟨mkHeader REGISTRATION 0, .replicate PSEUDO_LEN 97⟩),
    request NEWPOST newpost_ne 0, request SUBSCRIBE subscribe_ne 1, request NEWPOST newpost_ne 0,
    request SUBSCRIBE subscribe_ne 1]

/-- The run: the second subscription gets another port. -/
lemma exists_run : ∃ ts w, Machine.Run step World.init ts w ∧ ts.map (·.act) = acts ∧
    ts.map subscribed = [none, none, some (1, 6228), none, some (1, 6229)] ∧
    w.server.suscribe.toList.length = 2 :=
  ⟨_, _, .cons rfl (.cons rfl (.cons rfl (.cons rfl (.cons rfl (.nil _))))), rfl, rfl, rfl⟩

/-- The transition number `i` of a list whose subscriptions are known. -/
lemma exists_subscribed {ts : List ServerTransition} {l : List (Option (ℕ × UInt16))}
    (h : ts.map subscribed = l) {i : ℕ} {o : Option (ℕ × UInt16)} (hi : l[i]? = some o) :
    ∃ hlt : i < ts.length, subscribed ts[i] = o := by
  rw [← h, List.getElem?_map] at hi
  obtain ⟨t, ht, hsub⟩ := Option.map_eq_some_iff.mp hi
  obtain ⟨hlt, rfl⟩ := List.getElem?_eq_some_iff.mp ht
  exact ⟨hlt, hsub⟩

/-- The feed has two groups. -/
theorem not_oneGroupPerFeed : ∃ ts w, Machine.Run step World.init ts w ∧ ts.map (·.act) = acts ∧
    ¬(∀ t ∈ ts, OwnRecord t) ∧ ¬ts.Pairwise SamePort ∧ ¬OneGroupPerFeed ts := by
  obtain ⟨ts, w, hrun, hacts, hsub, -⟩ := exists_run
  obtain ⟨h2, hsub2⟩ := exists_subscribed hsub (i := 2) rfl
  obtain ⟨h4, hsub4⟩ := exists_subscribed hsub (i := 4) rfl
  have hrecord : ¬∀ t ∈ ts, OwnRecord t := by
    intro hown
    have hnone := not_ownRecord hrun (List.getElem_mem h2) (hown _ (List.getElem_mem h2))
    rw [hsub2] at hnone
    cases hnone
  have hsame : ¬ts.Pairwise SamePort := by
    intro hsame
    have hport := List.pairwise_iff_getElem.mp hsame 2 4 h2 h4 (by decide) 1 _ _ hsub2 hsub4
    exact absurd hport (by decide)
  exact ⟨ts, w, hrun, hacts, hrecord, hsame, fun hone => hsame hone.same⟩

/-- Both sides fail in the run, and memory is clean. -/
theorem one_group_per_feed_iff_feedAfter : ∃ ts w, Machine.Run step World.init ts w ∧
    ts.map (·.act) = acts ∧
    (OneGroupPerFeed ts ↔ ∀ t ∈ ts, ¬t.pre.server.Subscribes t.act) ∧
    ts.Pairwise DistinctPort ∧
    (ts.Pairwise SamePort ↔ ts.Pairwise fun t t' => ¬FeedBetween t t') := by
  obtain ⟨ts, w, hrun, hacts, -, hlength⟩ := exists_run
  have hclean : ∀ i ∈ acts, i.Clean := by
    simp [acts, request, Input.Clean, Env.Clean, Env.quiet]
  obtain ⟨hiff, hports⟩ := one_group_per_feed_iff hrun
  refine ⟨ts, w, hrun, hacts, hiff, hports (fun t ht => hclean _ ?_) (by omega)⟩
  rw [← hacts]
  exact List.mem_map_of_mem ht

end FeedAfter

end Megaphone
