import Megaphone.Server.Data
import Megaphone.Library.Machine

/-!
The notification loop (`notifications_server.c`), in steps between which other threads may run.

* `Loop`: where the loop is, with its local variables; `loopStep`: the next step of it.
* `NotifState`, `notifStep`: the loop together with the posts that arrive over TCP, and the posts
  that have been sent for each subscription so far.
* `notifStep_inv`: the invariant of the loop, and `notifStep_complete`: which posts a step leaves
  unsent.
* `notifications_exact_iff`: every post is sent exactly once, exactly when none arrives between the
  two readings of a length and `posts_count` fits into an `int`.
-/

namespace Megaphone

open Memory

/-! ### The loop -/

/-- `serverrq_nt_new`. -/
def serverrqNtNew (hd feedNumber : UInt16) (pseudo : Pseudo) (data : List UInt8) : ServerRQNt :=
  { header := hd, feedNumber := feedNumber, pseudo := pseudo, data := ofList data 0 }

/-- An entry of `a_serverrq`, with the post that it was made of. -/
structure Notification where
  post : Post
  nt : ServerRQNt

/-- Where the loop is.

* `sleep`: before a round;
* `next`: before the subscription number `i` of the `nbFeed` of the round;
* `build`: making the notifications of `postsCount` posts from `startPost` on;
* `send`: sending them, `j` of which have been sent;
* `stopped`: a datagram could not be sent, and the thread has ended.

`infos` and `feed` are the pointers that the loop holds. -/
inductive Loop
  | sleep
  | next (nbFeed i : ℕ)
  | build (nbFeed i : ℕ) (infos feed : Ptr) (startPost postsCount : ℕ) (a : List Notification)
  | send (nbFeed i : ℕ) (infos feed : Ptr) (startPost postsCount : ℕ) (a : List Notification)
      (j : ℕ)
  | stopped

/-- How often the loop of `send_notif` runs: up to `(int) posts_count`, and not at all when that is
negative. -/
def nbRq (postsCount : ℕ) : ℕ :=
  if postsCount % 2 ^ 32 < 2 ^ 31 then postsCount % 2 ^ 32 else 0

lemma nbRq_of_lt {n : ℕ} (h : n < 2 ^ 31) : nbRq n = n := by
  rw [nbRq, Nat.mod_eq_of_lt (by omega), if_pos h]

lemma nbRq_lt (n : ℕ) : nbRq n < 2 ^ 31 := by
  rw [nbRq]
  split
  · assumption
  · exact Nat.two_pow_pos 31

lemma nbRq_le (n : ℕ) : nbRq n ≤ n := by
  by_cases hn : n < 2 ^ 31
  · exact (nbRq_of_lt hn).le
  · exact (nbRq_lt n).le.trans (not_lt.mp hn)

namespace Server

/-- The beginning of the body: `posts_count` is fixed. -/
def loopBegin (s : Server) (nbFeed i : ℕ) : Option Loop := do
  let i' ← s.getNotifInfo i
  let infos := s.suscribe.toCArray.addr i'
  let info ← s.suscribe.toCArray.deref infos
  let f ← s.getFeeds (sizeSub info.nbfeed 1)
  let ptr := s.feeds.toCArray.addr f
  let feed ← s.feeds.toCArray.deref ptr
  let startPost := info.lastSendPost
  some (.build nbFeed i infos ptr startPost (sizeSub feed.posts.length startPost) [])

/-- The notification of the post number `k` of a feed. -/
def loopBuild (s : Server) (nbFeed : ℕ) (ptr : Ptr) (k : ℕ) : Option Notification := do
  let feed ← s.feeds.toCArray.deref ptr
  let k' ← feed.posts.get k
  let post ← feed.posts.toCArray.at? k'
  some ⟨post, serverrqNtNew SUBSCRIBE.toUInt16 (UInt16.ofNat nbFeed) post.pseudo
    (strncpy post.data NT_DATA_LEN)⟩

/-- The end of the body: `last_send_post` is set to the length that the list of posts has now. -/
def loopStore (s : Server) (infos ptr : Ptr) : Option Server := do
  let feed ← s.feeds.toCArray.deref ptr
  let info ← s.suscribe.toCArray.deref infos
  some { s with
    suscribe := s.suscribe.write infos.index { info with lastSendPost := feed.posts.length } }

/-- One step of the loop; `ok` is whether `sendto` succeeds.  The last component is what is sent,
and for which subscription. -/
def loopStep (s : Server) (ok : Bool) : Loop → Option (Server × Loop × Option (ℕ × Notification))
  | .sleep => some (s, .next s.getSubscribeCount 0, none)
  | .next nbFeed i =>
      if i < nbFeed then (s.loopBegin nbFeed i).map fun l => (s, l, none)
      else some (s, .sleep, none)
  | .build nbFeed i infos feed startPost postsCount a =>
      if a.length < postsCount then
        (s.loopBuild nbFeed feed (startPost + a.length)).map fun n =>
          (s, .build nbFeed i infos feed startPost postsCount (a ++ [n]), none)
      else some (s, .send nbFeed i infos feed startPost postsCount a 0, none)
  | .send nbFeed i infos feed startPost postsCount a j =>
      if j < nbRq postsCount then
        (a[j]?).map fun n =>
          if ok then
            (s, .send nbFeed i infos feed startPost postsCount a (j + 1), some (i, n))
          else (s, .stopped, none)
      else (s.loopStore infos feed).map fun s => (s, .next nbFeed (i + 1), none)
  | .stopped => none

end Server

/-- What a step of the loop is, one case for each branch. -/
inductive LoopCase (s : Server) (ok : Bool) :
    Loop → Server × Loop × Option (ℕ × Notification) → Prop
  | sleep : LoopCase s ok .sleep (s, .next s.getSubscribeCount 0, none)
  | begins {nbFeed i : ℕ} {l : Loop} (hi : i < nbFeed) (h : s.loopBegin nbFeed i = some l) :
      LoopCase s ok (.next nbFeed i) (s, l, none)
  | ended {nbFeed i : ℕ} (hi : nbFeed ≤ i) : LoopCase s ok (.next nbFeed i) (s, .sleep, none)
  | made {nbFeed i : ℕ} {infos feed : Ptr} {startPost postsCount : ℕ} {a : List Notification}
      {n : Notification} (hlength : a.length < postsCount)
      (h : s.loopBuild nbFeed feed (startPost + a.length) = some n) :
      LoopCase s ok (.build nbFeed i infos feed startPost postsCount a)
        (s, .build nbFeed i infos feed startPost postsCount (a ++ [n]), none)
  | built {nbFeed i : ℕ} {infos feed : Ptr} {startPost postsCount : ℕ} {a : List Notification}
      (hlength : postsCount ≤ a.length) :
      LoopCase s ok (.build nbFeed i infos feed startPost postsCount a)
        (s, .send nbFeed i infos feed startPost postsCount a 0, none)
  | sent {nbFeed i : ℕ} {infos feed : Ptr} {startPost postsCount : ℕ} {a : List Notification}
      {j : ℕ} {n : Notification} (hj : j < nbRq postsCount) (hget : a[j]? = some n)
      (hok : ok = true) :
      LoopCase s ok (.send nbFeed i infos feed startPost postsCount a j)
        (s, .send nbFeed i infos feed startPost postsCount a (j + 1), some (i, n))
  | failed {nbFeed i : ℕ} {infos feed : Ptr} {startPost postsCount : ℕ} {a : List Notification}
      {j : ℕ} {n : Notification} (hj : j < nbRq postsCount) (hget : a[j]? = some n)
      (hok : ok = false) :
      LoopCase s ok (.send nbFeed i infos feed startPost postsCount a j) (s, .stopped, none)
  | stored {nbFeed i : ℕ} {infos feed : Ptr} {startPost postsCount : ℕ} {a : List Notification}
      {j : ℕ} {s' : Server} (hj : nbRq postsCount ≤ j) (h : s.loopStore infos feed = some s') :
      LoopCase s ok (.send nbFeed i infos feed startPost postsCount a j)
        (s', .next nbFeed (i + 1), none)

lemma loopStep_cases {s : Server} {ok : Bool} {l : Loop}
    {r : Server × Loop × Option (ℕ × Notification)} (h : s.loopStep ok l = some r) :
    LoopCase s ok l r := by
  cases l with
  | sleep =>
      cases h
      exact .sleep
  | stopped => cases h
  | next nbFeed i =>
      rw [Server.loopStep] at h
      split at h
      next hi =>
        obtain ⟨l', hl', rfl⟩ := Option.map_eq_some_iff.mp h
        exact .begins hi hl'
      next hi =>
        cases h
        exact .ended (not_lt.mp hi)
  | build nbFeed i infos feed startPost postsCount a =>
      rw [Server.loopStep] at h
      split at h
      next hlength =>
        obtain ⟨n, hn, rfl⟩ := Option.map_eq_some_iff.mp h
        exact .made hlength hn
      next hlength =>
        cases h
        exact .built (not_lt.mp hlength)
  | send nbFeed i infos feed startPost postsCount a j =>
      rw [Server.loopStep] at h
      split at h
      next hj =>
        obtain ⟨n, hn, rfl⟩ := Option.map_eq_some_iff.mp h
        cases ok with
        | true => exact .sent hj hn rfl
        | false => exact .failed hj hn rfl
      next hj =>
        obtain ⟨s', hs', rfl⟩ := Option.map_eq_some_iff.mp h
        exact .stored (not_lt.mp hj) hs'

/-- What a step of the loop may do to the server: it sets `last_send_post` of an entry. -/
structure Server.LoopStore (s s' : Server) : Prop where
  users_eq : s'.users = s.users
  feeds_eq : s'.feeds = s.feeds
  transferFiles_eq : s'.transferFiles = s.transferFiles
  suscribe_eq : s'.suscribe = s.suscribe ∨ ∃ ptr info n, s.suscribe.toCArray.deref ptr = some info ∧
    s'.suscribe = s.suscribe.write ptr.index { info with lastSendPost := n }

lemma loopStep_loopStore {s : Server} {ok : Bool} {l : Loop}
    {r : Server × Loop × Option (ℕ × Notification)} (h : s.loopStep ok l = some r) :
    s.LoopStore r.1 := by
  have hrefl : s.LoopStore s := ⟨rfl, rfl, rfl, .inl rfl⟩
  cases loopStep_cases h with
  | stored hj hstore =>
      obtain ⟨f, -, hs'⟩ := Option.bind_eq_some_iff.mp hstore
      obtain ⟨info, hinfo, hs'⟩ := Option.bind_eq_some_iff.mp hs'
      cases hs'
      exact ⟨rfl, rfl, rfl, .inr ⟨_, info, _, hinfo, rfl⟩⟩
  | _ => exact hrefl

/-! ### Posts and notifications -/

/-- The server, the loop, and the posts sent so far for each subscription. -/
structure NotifState where
  server : Server
  loop : Loop
  sent : ℕ → List Post

/-- A post that arrives over TCP, or a step of the loop. -/
inductive NotifInput
  | post (env : Env) (pseudo : Pseudo) (datalen : UInt8) (data : ℕ → UInt8) (feedNumber : ℕ)
  | loop (ok : Bool)

/-- One step. -/
def notifStep (s : NotifState) : NotifInput → Option (NotifState × Unit)
  | .post env pseudo datalen data feedNumber =>
      (s.server.postNew env pseudo datalen data feedNumber).map fun server =>
        ({ s with server := server }, ())
  | .loop ok =>
      (s.server.loopStep ok s.loop).map fun p =>
        ({ server := p.1, loop := p.2.1,
           sent := match p.2.2 with
             | some (i, n) => Function.update s.sent i (s.sent i ++ [n.post])
             | none => s.sent }, ())

/-! ### Subscriptions -/

/-- Subscription number `i` is the entry `info`, and its feed is `feed`. -/
structure Server.Subscription (s : Server) (i : ℕ) (info : NotificationsInfos) (feed : Feed) :
    Prop where
  info_eq : s.suscribe.toList[i]? = some info
  nbfeed_pos : 0 < info.nbfeed
  feed_eq : s.feeds.toList[info.nbfeed - 1]? = some feed
  last_le : info.lastSendPost ≤ feed.posts.toList.length

/-- Every subscription is to an existing feed, and no more posts of it have been sent than it
has. -/
def Server.Subscribed (s : Server) : Prop :=
  ∀ i < s.suscribe.toList.length, ∃ info feed, s.Subscription i info feed

/-- The posts of the feed of a subscription. -/
def Server.subscriptionPosts (s : Server) (i : ℕ) : List Post :=
  match s.suscribe.toList[i]? with
  | some info => match s.feeds.toList[info.nbfeed - 1]? with
    | some feed => feed.posts.toList
    | none => []
  | none => []

/-- The field `last_send_post` of a subscription. -/
def Server.lastSendPost (s : Server) (i : ℕ) : ℕ :=
  match s.suscribe.toList[i]? with
  | some info => info.lastSendPost
  | none => 0

namespace Server.Subscription

variable {s : Server} {i : ℕ} {info : NotificationsInfos} {feed : Feed}

lemma posts_eq (h : s.Subscription i info feed) : s.subscriptionPosts i = feed.posts.toList := by
  simp only [subscriptionPosts, h.info_eq, h.feed_eq]

lemma last_eq (h : s.Subscription i info feed) : s.lastSendPost i = info.lastSendPost := by
  simp only [lastSendPost, h.info_eq]

lemma sizeSub_eq (h : s.Subscription i info feed) : sizeSub info.nbfeed 1 = info.nbfeed - 1 := by
  rw [sizeSub, if_pos (show 1 ≤ info.nbfeed from h.nbfeed_pos)]

lemma lt_length (h : s.Subscription i info feed) : i < s.suscribe.toList.length :=
  (List.getElem?_eq_some_iff.mp h.info_eq).1

/-- What the loop holds when it begins with a subscription. -/
lemma loopBegin_eq (h : s.Subscription i info feed) (nbFeed : ℕ) :
    s.loopBegin nbFeed i = some (.build nbFeed i (s.suscribe.toCArray.addr i)
      (s.feeds.toCArray.addr (info.nbfeed - 1)) info.lastSendPost
      (feed.posts.toList.length - info.lastSendPost) []) := by
  have hf := (List.getElem?_eq_some_iff.mp h.feed_eq).1
  have hle := h.last_le
  simp only [loopBegin, getNotifInfo, FullArray.get_eq_some h.lt_length.le, Option.bind_eq_bind,
    Option.bind_some, FullArray.deref_addr h.info_eq, h.sizeSub_eq, getFeeds,
    FullArray.get_eq_some hf.le, FullArray.deref_addr h.feed_eq, FullArray.length_eq]
  rw [sizeSub, if_pos hle]

/-- The notification that the loop makes is of the post that it asks for. -/
lemma loopBuild_eq (h : s.Subscription i info feed) (nbFeed : ℕ) {k : ℕ} {post : Post}
    (hk : feed.posts.toList[k]? = some post) :
    ∃ n, s.loopBuild nbFeed (s.feeds.toCArray.addr (info.nbfeed - 1)) k = some n ∧
      n.post = post := by
  have hlt := (List.getElem?_eq_some_iff.mp hk).1
  simp only [loopBuild, FullArray.deref_addr h.feed_eq, Option.bind_eq_bind, Option.bind_some,
    FullArray.get_eq_some hlt.le, FullArray.at?_eq_some hk]
  exact ⟨_, rfl, rfl⟩

/-- What the loop stores at the end. -/
lemma loopStore_eq (h : s.Subscription i info feed) :
    s.loopStore (s.suscribe.toCArray.addr i) (s.feeds.toCArray.addr (info.nbfeed - 1)) =
      some { s with
        suscribe := s.suscribe.write i
          { info with lastSendPost := feed.posts.toList.length } } := by
  simp only [loopStore, FullArray.deref_addr h.feed_eq, FullArray.deref_addr h.info_eq,
    Option.bind_eq_bind, Option.bind_some, FullArray.length_eq]
  rfl

end Server.Subscription

/-! ### One step -/

/-- What the loop holds while it is at subscription `i`, whose entry is `info` and whose feed is
`feed`: its pointers are fresh, and the notifications are of the posts from `startPost` on. -/
structure Server.InRound (s : Server) (nbFeed i : ℕ) (infos ptr : Ptr) (startPost postsCount : ℕ)
    (a : List Notification) (info : NotificationsInfos) (feed : Feed) : Prop where
  sub : s.Subscription i info feed
  nbFeed_le : nbFeed ≤ s.suscribe.toList.length
  infos_eq : infos = s.suscribe.toCArray.addr i
  ptr_eq : ptr = s.feeds.toCArray.addr (info.nbfeed - 1)
  start_eq : startPost = info.lastSendPost
  count_le : startPost + postsCount ≤ feed.posts.toList.length
  length_le : a.length ≤ postsCount
  posts_eq : ∀ k (n : Notification), a[k]? = some n →
    feed.posts.toList[startPost + k]? = some n.post

/-- The invariant of the loop. -/
def Loop.Inv (s : Server) : Loop → Prop
  | .sleep => True
  | .next nbFeed _ => nbFeed ≤ s.suscribe.toList.length
  | .build nbFeed i infos ptr startPost postsCount a =>
      ∃ info feed, s.InRound nbFeed i infos ptr startPost postsCount a info feed
  | .send nbFeed i infos ptr startPost postsCount a j =>
      (∃ info feed, s.InRound nbFeed i infos ptr startPost postsCount a info feed) ∧
        a.length = postsCount ∧ j ≤ nbRq postsCount
  | .stopped => True

/-- How many posts of subscription `i` have been dealt with. -/
def Loop.progress (s : Server) (i : ℕ) : Loop → ℕ
  | .send _ i' _ _ startPost _ _ j => if i' = i then startPost + j else s.lastSendPost i
  | _ => s.lastSendPost i

/-- What a step of the loop can do: move on without a datagram, send one, fail to send one, or
store the length that the list of posts has now. -/
inductive LoopEffect (s : Server) : Loop → Server → Loop → Option (ℕ × Notification) → Prop
  | quiet {l l' : Loop} (hl : l'.Inv s) (hp : ∀ i, l'.progress s i = l.progress s i) :
      LoopEffect s l s l' none
  | sent {nbFeed i : ℕ} {infos ptr : Ptr} {startPost postsCount : ℕ} {a : List Notification}
      {j : ℕ} {n : Notification} {info : NotificationsInfos} {feed : Feed}
      (h : s.InRound nbFeed i infos ptr startPost postsCount a info feed)
      (hlen : a.length = postsCount) (hj : j < nbRq postsCount)
      (hpost : feed.posts.toList[startPost + j]? = some n.post) :
      LoopEffect s (.send nbFeed i infos ptr startPost postsCount a j) s
        (.send nbFeed i infos ptr startPost postsCount a (j + 1)) (some (i, n))
  | stopped {l : Loop} : LoopEffect s l s .stopped none
  | store {nbFeed i : ℕ} {infos ptr : Ptr} {startPost postsCount : ℕ} {a : List Notification}
      {info : NotificationsInfos} {feed : Feed}
      (h : s.InRound nbFeed i infos ptr startPost postsCount a info feed) :
      LoopEffect s (.send nbFeed i infos ptr startPost postsCount a (nbRq postsCount))
        { s with
          suscribe := s.suscribe.write i { info with lastSendPost := feed.posts.toList.length } }
        (.next nbFeed (i + 1)) none

/-- **What a step of the loop does.** -/
lemma loopStep_effect {s s' : Server} {l l' : Loop} {ok : Bool} {out : Option (ℕ × Notification)}
    (hs : s.Subscribed) (hl : l.Inv s) (h : s.loopStep ok l = some (s', l', out)) :
    LoopEffect s l s' l' out := by
  cases loopStep_cases h with
  | sleep => exact .quiet (le_of_eq s.suscribe.length_eq) fun _ => rfl
  | begins hi hbegin =>
      obtain ⟨info, feed, hsub⟩ := hs _ (lt_of_lt_of_le hi hl)
      rw [hsub.loopBegin_eq] at hbegin
      cases hbegin
      have hle := hsub.last_le
      exact .quiet ⟨info, feed, hsub, hl, rfl, rfl, rfl, by omega, Nat.zero_le _, by simp⟩
        fun _ => rfl
  | ended => exact .quiet trivial fun _ => rfl
  | @made nbFeed i infos ptr startPost postsCount a n hlength hbuild =>
      obtain ⟨info, feed, hin⟩ := hl
      have hcount := hin.count_le
      obtain ⟨n', hn', hpost⟩ := hin.sub.loopBuild_eq nbFeed (k := startPost + a.length)
        (List.getElem?_eq_getElem (by omega))
      rw [hin.ptr_eq, hn'] at hbuild
      cases hbuild
      refine .quiet ⟨info, feed, { hin with
        length_le := by simpa using hlength, posts_eq := fun k m hk => ?_ }⟩ fun _ => rfl
      rcases Nat.lt_or_ge k a.length with hlt | hge
      · exact hin.posts_eq k m (by rwa [List.getElem?_append_left hlt] at hk)
      · rw [List.getElem?_append_right hge, List.getElem?_singleton] at hk
        split at hk
        · cases hk
          rw [hpost, show k = a.length by omega, ← List.getElem?_eq_getElem]
        · cases hk
  | built hlength =>
      obtain ⟨info, feed, hin⟩ := hl
      refine .quiet ⟨⟨info, feed, hin⟩, by have := hin.length_le; omega, Nat.zero_le _⟩
        fun i' => ?_
      simp only [Loop.progress]
      split
      next heq => rw [← heq, hin.sub.last_eq, hin.start_eq, Nat.add_zero]
      next => rfl
  | sent hj hget =>
      obtain ⟨⟨info, feed, hin⟩, hlength, -⟩ := hl
      exact .sent hin hlength hj (hin.posts_eq _ _ hget)
  | failed => exact .stopped
  | @stored nbFeed i infos ptr startPost postsCount a j s' hge hstore =>
      obtain ⟨⟨info, feed, hin⟩, -, hj⟩ := hl
      obtain rfl : j = nbRq postsCount := by omega
      rw [hin.infos_eq, hin.ptr_eq, hin.sub.loopStore_eq] at hstore
      cases hstore
      exact .store hin

/-! ### What steps preserve -/

/-- Whatever happens between two steps of the loop, its pointers stay fresh and the posts of a
subscription only grow. -/
structure Server.Extends (s s' : Server) : Prop where
  length_eq : s'.suscribe.toList.length = s.suscribe.toList.length
  infos_eq : ∀ i, s'.suscribe.toCArray.addr i = s.suscribe.toCArray.addr i
  ptr_eq : ∀ i, s'.feeds.toCArray.addr i = s.feeds.toCArray.addr i
  sub : ∀ i info feed, s.Subscription i info feed →
    ∃ feed', s'.Subscription i info feed' ∧ feed.posts.toList <+: feed'.posts.toList

lemma getElem?_of_prefix {α : Type} {l l' : List α} (h : l <+: l') {i : ℕ} {x : α}
    (hx : l[i]? = some x) : l'[i]? = some x := by
  obtain ⟨hi, rfl⟩ := List.getElem?_eq_some_iff.mp hx
  rw [h.getElem hi]
  exact List.getElem?_eq_getElem _

/-- A post that arrives. -/
lemma postNew_extends {env : Env} {s s' : Server} {pseudo : Pseudo} {datalen : UInt8}
    {data : ℕ → UInt8} {feedNumber : ℕ}
    (h : s.postNew env pseudo datalen data feedNumber = some s') : s.Extends s' := by
  obtain ⟨feed₀, hfeed₀, rfl⟩ := Server.postNew_eq_some h
  refine ⟨rfl, fun _ => rfl, fun _ => rfl, fun i info feed hsub => ?_⟩
  have hlt := (List.getElem?_eq_some_iff.mp hsub.feed_eq).1
  by_cases hk : info.nbfeed - 1 = sizeSub feedNumber 1
  · obtain rfl : feed₀ = feed := by
      rw [← hk, hsub.feed_eq] at hfeed₀
      exact (Option.some.inj hfeed₀).symm
    refine ⟨{ feed₀ with posts := feed₀.posts.append (Server.localPost env pseudo datalen data) },
      ⟨hsub.info_eq, hsub.nbfeed_pos, ?_, ?_⟩, List.prefix_append _ _⟩
    · simp only [Server.appendPost, FullArray.toList_write]
      rw [← hk, List.getElem?_set_self hlt]
    · have := hsub.last_le
      simp only [FullArray.toList_append, List.length_append]
      omega
  · refine ⟨feed, ⟨hsub.info_eq, hsub.nbfeed_pos, ?_, hsub.last_le⟩, List.prefix_refl _⟩
    simp only [Server.appendPost, FullArray.toList_write]
    rw [List.getElem?_set_ne (Ne.symm hk), hsub.feed_eq]

lemma Server.Subscribed.extends {s s' : Server} (h : s.Subscribed) (he : s.Extends s') :
    s'.Subscribed := by
  intro i hi
  obtain ⟨info, feed, hsub⟩ := h i (by rwa [he.length_eq] at hi)
  obtain ⟨feed', hsub', -⟩ := he.sub i info feed hsub
  exact ⟨info, feed', hsub'⟩

lemma Server.InRound.extends {s s' : Server} {nbFeed i : ℕ} {infos ptr : Ptr}
    {startPost postsCount : ℕ} {a : List Notification} {info : NotificationsInfos} {feed : Feed}
    (h : s.InRound nbFeed i infos ptr startPost postsCount a info feed) (he : s.Extends s') :
    ∃ feed', s'.InRound nbFeed i infos ptr startPost postsCount a info feed' := by
  obtain ⟨feed', hsub', hpre⟩ := he.sub i info feed h.sub
  have hcount := h.count_le
  have hlen := hpre.length_le
  exact ⟨feed', { h with
    sub := hsub'
    nbFeed_le := by rw [he.length_eq]; exact h.nbFeed_le
    infos_eq := by rw [he.infos_eq]; exact h.infos_eq
    ptr_eq := by rw [he.ptr_eq]; exact h.ptr_eq
    count_le := by omega
    posts_eq := fun k n hk => getElem?_of_prefix hpre (h.posts_eq k n hk) }⟩

lemma Loop.Inv.extends {s s' : Server} {l : Loop} (h : l.Inv s) (he : s.Extends s') :
    l.Inv s' := by
  cases l with
  | sleep => trivial
  | stopped => trivial
  | next nbFeed i => exact le_of_le_of_eq h he.length_eq.symm
  | build nbFeed i infos ptr startPost postsCount a =>
      obtain ⟨info, feed, hin⟩ := h
      exact ⟨info, hin.extends he⟩
  | send nbFeed i infos ptr startPost postsCount a j =>
      obtain ⟨⟨info, feed, hin⟩, hlen, hj⟩ := h
      exact ⟨⟨info, hin.extends he⟩, hlen, hj⟩

/-- Storing `last_send_post` of a subscription leaves the other ones alone. -/
lemma Server.Subscription.store {s : Server} {i j : ℕ} {info info' : NotificationsInfos}
    {feed feed' : Feed} (h : s.Subscription i info feed) (h' : s.Subscription j info' feed') :
    Server.Subscription { s with
      suscribe := s.suscribe.write i { info with lastSendPost := feed.posts.toList.length } } j
      (if j = i then { info' with lastSendPost := feed.posts.toList.length } else info') feed' := by
  by_cases hj : j = i
  · subst hj
    obtain rfl : info = info' := Option.some.inj (h.info_eq.symm.trans h'.info_eq)
    obtain rfl : feed = feed' := Option.some.inj (h.feed_eq.symm.trans h'.feed_eq)
    rw [if_pos rfl]
    refine ⟨?_, h.nbfeed_pos, h.feed_eq, le_rfl⟩
    simp only [FullArray.toList_write]
    rw [List.getElem?_set_self h.lt_length]
  · rw [if_neg hj]
    refine ⟨?_, h'.nbfeed_pos, h'.feed_eq, h'.last_le⟩
    simp only [FullArray.toList_write]
    rw [List.getElem?_set_ne (Ne.symm hj), h'.info_eq]

/-- A step of the loop keeps its invariant and the subscriptions. -/
lemma LoopEffect.inv {s s' : Server} {l l' : Loop} {out : Option (ℕ × Notification)}
    (h : LoopEffect s l s' l' out) (hs : s.Subscribed) : s'.Subscribed ∧ l'.Inv s' := by
  cases h with
  | quiet hl _ => exact ⟨hs, hl⟩
  | sent hin hlen hj _ => exact ⟨hs, ⟨_, _, hin⟩, hlen, hj⟩
  | stopped => exact ⟨hs, trivial⟩
  | store hin =>
      refine ⟨fun i hi => ?_, by simpa [Loop.Inv] using hin.nbFeed_le⟩
      simp only [FullArray.toList_write, List.length_set] at hi
      obtain ⟨info, feed, hsub⟩ := hs i hi
      exact ⟨_, feed, hin.sub.store hsub⟩

/-- The invariant of the server and the loop. -/
structure NotifState.Inv (s : NotifState) : Prop where
  subs : s.server.Subscribed
  loop : s.loop.Inv s.server

/-- Fewer posts have been sent than dealt with: the rest has been skipped. -/
def NotifState.Short (s : NotifState) : Prop :=
  s.loop = .stopped ∨ ∀ i < s.server.suscribe.toList.length,
    (s.sent i).length ≤ s.loop.progress s.server i

/-- The posts that have been dealt with have been sent, in order and each once. -/
def NotifState.Complete (s : NotifState) : Prop :=
  s.loop = .stopped ∨ ∀ i < s.server.suscribe.toList.length,
    s.sent i = (s.server.subscriptionPosts i).take (s.loop.progress s.server i)

/-- The posts sent are those of the feed with an index below `last_send_post`. -/
def NotifState.Exact (s : NotifState) : Prop :=
  ∀ i < s.server.suscribe.toList.length,
    s.sent i = (s.server.subscriptionPosts i).take (s.server.lastSendPost i)

/-- The loop is not in the middle of the round of a subscription. -/
def Loop.AtEnd : Loop → Prop
  | .sleep => True
  | .next _ _ => True
  | _ => False

/-- When the step stores `posts->length`, that is still the length of which `posts_count` was made:
no post has been appended to the feed in between.  And `posts_count` fits into an `int`. -/
def StoresSent (t : Machine.Transition NotifState NotifInput Unit) : Prop :=
  ∀ ok nbFeed i infos ptr startPost postsCount a, t.act = .loop ok →
    t.pre.loop = .send nbFeed i infos ptr startPost postsCount a (nbRq postsCount) →
      (t.pre.server.subscriptionPosts i).length = startPost + postsCount ∧ postsCount < 2 ^ 31

/-- What a step of the machine is: a post that arrives, or a step of the loop. -/
lemma notifStep_cases {s s' : NotifState} {act : NotifInput} {o : Unit}
    (h : notifStep s act = some (s', o)) (hs : s.Inv) :
    (s.server.Extends s'.server ∧ s'.loop = s.loop ∧ s'.sent = s.sent ∧ ∀ ok, act ≠ .loop ok) ∨
    ∃ ok out, act = .loop ok ∧ s.loop ≠ .stopped ∧
      LoopEffect s.server s.loop s'.server s'.loop out ∧ s'.sent = match out with
        | some (i, n) => Function.update s.sent i (s.sent i ++ [n.post])
        | none => s.sent := by
  cases act with
  | post env pseudo datalen data feedNumber =>
      obtain ⟨server, hpost, h⟩ := Option.map_eq_some_iff.mp h
      cases h
      exact Or.inl ⟨postNew_extends hpost, rfl, rfl, by simp⟩
  | loop ok =>
      obtain ⟨⟨server, l, out⟩, hloop, h⟩ := Option.map_eq_some_iff.mp h
      cases h
      refine Or.inr ⟨ok, out, rfl, fun hl => ?_, loopStep_effect hs.subs hs.loop hloop, rfl⟩
      rw [hl] at hloop
      cases hloop

lemma notifStep_inv {s s' : NotifState} {act : NotifInput} {o : Unit}
    (h : notifStep s act = some (s', o)) (hs : s.Inv) : s'.Inv := by
  rcases notifStep_cases h hs with ⟨hext, hloop, -, -⟩ | ⟨ok, out, -, -, heff, -⟩
  · exact ⟨hs.subs.extends hext, by rw [hloop]; exact hs.loop.extends hext⟩
  · obtain ⟨h₁, h₂⟩ := heff.inv hs.subs
    exact ⟨h₁, h₂⟩

/-- A post that arrives changes nothing about how far the loop is. -/
lemma Server.Extends.progress_eq {s s' : Server} (he : s.Extends s') (hs : s.Subscribed) {i : ℕ}
    (hi : i < s.suscribe.toList.length) (l : Loop) : l.progress s' i = l.progress s i := by
  obtain ⟨info, feed, hsub⟩ := hs i hi
  obtain ⟨feed', hsub', -⟩ := he.sub i info feed hsub
  have hlast : s'.lastSendPost i = s.lastSendPost i := by rw [hsub'.last_eq, hsub.last_eq]
  cases l <;> simp only [Loop.progress, hlast]

/-- What has been dealt with are posts of the feed. -/
lemma Loop.Inv.progress_le {s : Server} {l : Loop} (h : l.Inv s) {i : ℕ}
    {info : NotificationsInfos} {feed : Feed} (hsub : s.Subscription i info feed) :
    l.progress s i ≤ feed.posts.toList.length := by
  have hlast : s.lastSendPost i ≤ feed.posts.toList.length := by
    rw [hsub.last_eq]
    exact hsub.last_le
  cases l with
  | send nbFeed i' infos ptr startPost postsCount a j =>
      obtain ⟨⟨info', feed', hin⟩, -, hj⟩ := h
      simp only [Loop.progress]
      split
      next heq =>
        subst heq
        obtain rfl : info' = info := Option.some.inj (hin.sub.info_eq.symm.trans hsub.info_eq)
        obtain rfl : feed' = feed := Option.some.inj (hin.sub.feed_eq.symm.trans hsub.feed_eq)
        have := hin.count_le
        have := nbRq_le postsCount
        omega
      next => exact hlast
  | _ => exact hlast

/-- Where the loop is at subscription `i`, another subscription stands at `last_send_post`. -/
lemma Loop.progress_of_ne {s : Server} {nbFeed i i' startPost postsCount j : ℕ} {infos ptr : Ptr}
    {a : List Notification} (h : i' ≠ i) :
    (Loop.send nbFeed i infos ptr startPost postsCount a j).progress s i' = s.lastSendPost i' := by
  simp only [Loop.progress, if_neg h.symm]

lemma Loop.progress_self {s : Server} {nbFeed i startPost postsCount j : ℕ} {infos ptr : Ptr}
    {a : List Notification} :
    (Loop.send nbFeed i infos ptr startPost postsCount a j).progress s i = startPost + j := by
  simp only [Loop.progress, if_true]

section Store

variable {s : Server} {i : ℕ} {info : NotificationsInfos} {feed : Feed}
  (h : s.Subscription i info feed)
include h

/-- What storing the length of the list of posts makes of `last_send_post`. -/
lemma lastSendPost_store_self :
    Server.lastSendPost { s with
      suscribe := s.suscribe.write i { info with lastSendPost := feed.posts.toList.length } } i =
        (s.subscriptionPosts i).length := by
  have h' := h.store h
  rw [if_pos rfl] at h'
  rw [h'.last_eq, h.posts_eq]

omit h in
lemma lastSendPost_store_of_ne {j : ℕ} (hj : j ≠ i) :
    Server.lastSendPost { s with
      suscribe := s.suscribe.write i { info with lastSendPost := feed.posts.toList.length } } j =
        s.lastSendPost j := by
  simp only [Server.lastSendPost, FullArray.toList_write, List.getElem?_set_ne (Ne.symm hj)]

lemma subscriptionPosts_store (j : ℕ) :
    Server.subscriptionPosts { s with
      suscribe := s.suscribe.write i { info with lastSendPost := feed.posts.toList.length } } j =
        s.subscriptionPosts j := by
  by_cases hj : j = i
  · subst hj
    have h' := h.store h
    rw [if_pos rfl] at h'
    rw [h'.posts_eq, h.posts_eq]
  · simp only [Server.subscriptionPosts, FullArray.toList_write, List.getElem?_set_ne (Ne.symm hj)]

end Store

/-- No step sends more posts than it deals with. -/
lemma notifStep_short {s s' : NotifState} {act : NotifInput} {o : Unit}
    (h : notifStep s act = some (s', o)) (hs : s.Inv) (hshort : s.Short) : s'.Short := by
  obtain ⟨server, loop, sent⟩ := s
  obtain ⟨server', loop', sent'⟩ := s'
  rcases notifStep_cases h hs with ⟨hext, hloop, hsent, -⟩ | ⟨ok, out, -, hne, heff, hsent⟩
  · simp only at hloop hsent hext
    subst hloop hsent
    rcases hshort with hstop | hshort
    · exact Or.inl hstop
    · refine Or.inr fun i hi => ?_
      rw [hext.length_eq] at hi
      rw [hext.progress_eq hs.subs hi]
      exact hshort i hi
  · simp only at hne heff hsent
    replace hshort := hshort.resolve_left hne
    cases heff with
    | quiet hl hp =>
        subst hsent
        refine Or.inr fun i hi => ?_
        rw [hp i]
        exact hshort i hi
    | stopped => exact Or.inl rfl
    | @sent nbFeed i infos ptr startPost postsCount a j n info feed hin hlen hj hpost =>
        subst hsent
        refine Or.inr fun i' hi' => ?_
        have hold := hshort i' hi'
        by_cases heq : i' = i
        · subst heq
          simp only [Loop.progress_self, Function.update_self, List.length_append,
            List.length_singleton] at hold ⊢
          omega
        · simp only [Loop.progress_of_ne heq, Function.update_of_ne heq] at hold ⊢
          exact hold
    | @store nbFeed i infos ptr startPost postsCount a info feed hin =>
        subst hsent
        refine Or.inr fun i' hi' => ?_
        simp only [FullArray.toList_write, List.length_set] at hi'
        have hold := hshort i' hi'
        by_cases heq : i' = i
        · subst heq
          have hcount := hin.count_le
          have hnbRq := nbRq_le postsCount
          simp only [Loop.progress_self] at hold
          simp only [Loop.progress, lastSendPost_store_self hin.sub, hin.sub.posts_eq]
          omega
        · rw [Loop.progress_of_ne heq] at hold
          simpa only [Loop.progress, lastSendPost_store_of_ne heq] using hold

/-- A step that stores only what has been sent skips nothing. -/
lemma notifStep_complete {s s' : NotifState} {act : NotifInput} {o : Unit}
    (h : notifStep s act = some (s', o)) (hs : s.Inv) (hcomplete : s.Complete)
    (hstore : StoresSent ⟨s, act, o, s'⟩) : s'.Complete := by
  obtain ⟨server, loop, sent⟩ := s
  obtain ⟨server', loop', sent'⟩ := s'
  rcases notifStep_cases h hs with ⟨hext, hloop, hsent, -⟩ | ⟨ok, out, hact, hne, heff, hsent⟩
  · simp only at hloop hsent hext
    subst hloop hsent
    rcases hcomplete with hstop | hcomplete
    · exact Or.inl hstop
    · refine Or.inr fun i hi => ?_
      rw [hext.length_eq] at hi
      obtain ⟨info, feed, hsub⟩ := hs.subs i hi
      obtain ⟨feed', hsub', hpre⟩ := hext.sub i info feed hsub
      have hle := hs.loop.progress_le hsub
      have hold := hcomplete i hi
      simp only [hsub.posts_eq] at hold
      simp only [hext.progress_eq hs.subs hi, hsub'.posts_eq, hold]
      obtain ⟨t, ht⟩ := hpre
      rw [← ht, List.take_append_of_le_length hle]
  · simp only at hne heff hsent
    replace hcomplete := hcomplete.resolve_left hne
    cases heff with
    | quiet hl hp =>
        subst hsent
        refine Or.inr fun i hi => ?_
        rw [hp i]
        exact hcomplete i hi
    | stopped => exact Or.inl rfl
    | @sent nbFeed i infos ptr startPost postsCount a j n info feed hin hlen hj hpost =>
        subst hsent
        refine Or.inr fun i' hi' => ?_
        have hold := hcomplete i' hi'
        by_cases heq : i' = i
        · subst heq
          simp only [Loop.progress_self, Function.update_self, hin.sub.posts_eq] at hold ⊢
          rw [hold, ← Nat.add_assoc, List.take_add_one, hpost]
          rfl
        · simp only [Loop.progress_of_ne heq, Function.update_of_ne heq] at hold ⊢
          exact hold
    | @store nbFeed i infos ptr startPost postsCount a info feed hin =>
        subst hsent
        obtain ⟨hlength, hint⟩ := hstore ok _ _ _ _ _ _ _ hact rfl
        refine Or.inr fun i' hi' => ?_
        simp only [FullArray.toList_write, List.length_set] at hi'
        have hold := hcomplete i' hi'
        simp only [subscriptionPosts_store hin.sub]
        by_cases heq : i' = i
        · subst heq
          rw [Loop.progress_self, nbRq_of_lt hint, ← hlength] at hold
          simpa only [Loop.progress, lastSendPost_store_self hin.sub] using hold
        · rw [Loop.progress_of_ne heq] at hold
          simpa only [Loop.progress, lastSendPost_store_of_ne heq] using hold

/-! ### Runs -/

/-- The states that the loop starts from: every subscription is to an existing feed, and nothing has
been sent. -/
structure NotifState.Initial (s : NotifState) : Prop where
  subs : s.server.Subscribed
  loop : s.loop = .sleep
  last : ∀ i, s.server.lastSendPost i = 0
  sent : ∀ i, s.sent i = []

lemma NotifState.Initial.inv {s : NotifState} (h : s.Initial) : s.Inv :=
  ⟨h.subs, by rw [h.loop]; trivial⟩

lemma NotifState.Initial.short {s : NotifState} (h : s.Initial) : s.Short :=
  Or.inr fun i _ => by simp [h.sent]

lemma NotifState.Initial.complete {s : NotifState} (h : s.Initial) : s.Complete :=
  Or.inr fun i _ => by simp [h.sent, h.loop, Loop.progress, h.last]

/-- In a run whose steps store only what has been sent nothing is skipped. -/
lemma run_complete {s s' : NotifState}
    {ts : List (Machine.Transition NotifState NotifInput Unit)}
    (h : Machine.Run notifStep s ts s') (hs : s.Inv) (hcomplete : s.Complete)
    (hts : ∀ t ∈ ts, StoresSent t) : ∀ t ∈ ts, t.post.Complete := by
  induction h with
  | nil => simp
  | cons hstep _ ih =>
      obtain ⟨hhead, htail⟩ := List.forall_mem_cons.mp hts
      have hnext := notifStep_complete hstep hs hcomplete hhead
      exact List.forall_mem_cons.mpr ⟨hnext, ih (notifStep_inv hstep hs) hnext htail⟩

/-- **Every post is notified exactly once** in the states at the end of a round of a run, from any
feeds and subscriptions, if and only if no post is appended to a feed between the two moments of a
round at which the loop reads the length of its posts, and there are fewer than `2 ^ 31` new ones of
it in a round. -/
theorem notifications_exact_iff {s s' : NotifState}
    {ts : List (Machine.Transition NotifState NotifInput Unit)} (hs : s.Initial)
    (h : Machine.Run notifStep s ts s') :
    (∀ t ∈ ts, t.post.loop.AtEnd → t.post.Exact) ↔ ∀ t ∈ ts, StoresSent t := by
  constructor
  · intro hexact
    have hsteps := h.forall_transition (P := fun s => s.Inv ∧ s.Short)
      (Q := fun t => (t.pre.Inv ∧ t.pre.Short) ∧ notifStep t.pre t.act = some (t.post, t.out))
      (fun s a s' o hs hstep =>
        ⟨notifStep_inv hstep hs.1, notifStep_short hstep hs.1 hs.2⟩)
      (fun s a s' o hs hstep => ⟨hs, hstep⟩) ⟨hs.inv, hs.short⟩
    rintro ⟨⟨server, loop, sent⟩, act, o, ⟨server', loop', sent'⟩⟩ ht ok nbFeed i infos ptr
      startPost postsCount a rfl hloop
    obtain ⟨⟨hinv, hshort⟩, hstep⟩ := hsteps _ ht
    have hend := hexact _ ht
    simp only at hloop
    subst hloop
    obtain ⟨⟨info, feed, hin⟩, -, -⟩ := hinv.loop
    simp only [notifStep, Server.loopStep, if_neg (Nat.lt_irrefl (nbRq postsCount)), hin.infos_eq,
      hin.ptr_eq, hin.sub.loopStore_eq, Option.map_some, Option.some.injEq, Prod.mk.injEq,
      NotifState.mk.injEq, and_true] at hstep
    obtain ⟨rfl, rfl, rfl⟩ := hstep
    have hi : i < server.suscribe.toList.length := hin.sub.lt_length
    have hsent := hend trivial i (by simpa using hi)
    simp only [subscriptionPosts_store hin.sub, lastSendPost_store_self hin.sub,
      List.take_length] at hsent
    have hle := hshort.resolve_left (by simp) i hi
    simp only [Loop.progress_self, hsent] at hle
    have hcount := hin.count_le
    have hnbRq := nbRq_le postsCount
    have hint := nbRq_lt postsCount
    simp only [hin.sub.posts_eq] at hle ⊢
    omega
  · intro hts t ht hend
    have hcomplete := run_complete h hs.inv hs.complete hts t ht
    obtain ⟨pre, act, o, ⟨server, loop, sent⟩⟩ := t
    intro i hi
    cases loop with
    | sleep => exact hcomplete.resolve_left (by simp) i hi
    | next nbFeed i' => exact hcomplete.resolve_left (by simp) i hi
    | build => exact hend.elim
    | send => exact hend.elim
    | stopped => exact hend.elim

/-! ### A post that is skipped -/

namespace Race

/-- The author of the posts. -/
def author : Pseudo := .replicate PSEUDO_LEN 97

/-- The post that is there when the round begins. -/
def first : Post := ⟨author, 1, fun _ => 98⟩

/-- A server with one feed of one post, and a subscription to it. -/
def server : Server :=
  { dataInit with
    feeds := dataInit.feeds.append ⟨(FullArray.arrayNew Post 0).append first, author, none⟩
    suscribe := dataInit.suscribe.append ⟨1, 0, ⟨.replicate ADDRMULT_LEN 0, 6228, 3, 6228⟩⟩ }

/-- The loop before its first round. -/
def start : NotifState := ⟨server, .sleep, fun _ => []⟩

lemma initial_start : start.Initial := by
  refine ⟨fun i hi => ?_, rfl, fun i => ?_, fun _ => rfl⟩
  · obtain rfl : i = 0 := by simpa [start, server, dataInit] using hi
    exact ⟨_, _, rfl, Nat.one_pos, rfl, Nat.zero_le _⟩
  · cases i <;> rfl

/-- The steps of the run: a second post arrives while the first is made into a notification. -/
def acts : List NotifInput :=
  [.loop true, .loop true, .post (.quiet []) author 1 (fun _ => 99) 1, .loop true, .loop true,
    .loop true, .loop true]

/-- The run: at the end of the round `last_send_post` is 2, and one post has been sent. -/
lemma exists_run : ∃ ts s, Machine.Run notifStep start ts s ∧ ts.map (·.act) = acts ∧
    s.loop.AtEnd ∧ s.server.lastSendPost 0 = 2 ∧ (s.server.subscriptionPosts 0).length = 2 ∧
    (s.sent 0).length = 1 ∧ 0 < s.server.suscribe.toList.length := by
  refine ⟨_, _, .cons (a := .loop true) rfl (.cons (a := .loop true) rfl
    (.cons (a := .post (.quiet []) author 1 (fun _ => 99) 1) rfl (.cons (a := .loop true) rfl
    (.cons (a := .loop true) rfl (.cons (a := .loop true) rfl (.cons (a := .loop true) rfl
    (.nil _))))))), ?_⟩
  exact ⟨rfl, trivial, rfl, rfl, rfl, Nat.one_pos⟩

/-- The second post is never sent. -/
theorem not_exact : start.Initial ∧ ∃ ts s, Machine.Run notifStep start ts s ∧
    ts.map (·.act) = acts ∧ s.loop.AtEnd ∧ ¬s.Exact := by
  obtain ⟨ts, s, hrun, hacts, hend, hlast, hposts, hsent, hlength⟩ := exists_run
  refine ⟨initial_start, ts, s, hrun, hacts, hend, fun h => ?_⟩
  have hexact := congrArg List.length (h 0 hlength)
  rw [List.length_take, hlast, hposts, hsent] at hexact
  exact absurd hexact (by decide)

/-- Both sides fail in the run that skips a post. -/
theorem notifications_exact_iff_race : start.Initial ∧ ∃ ts s, Machine.Run notifStep start ts s ∧
    ts.map (·.act) = acts ∧
    ((∀ t ∈ ts, t.post.loop.AtEnd → t.post.Exact) ↔ ∀ t ∈ ts, StoresSent t) := by
  obtain ⟨ts, s, hrun, hacts, -⟩ := exists_run
  exact ⟨initial_start, ts, s, hrun, hacts, notifications_exact_iff initial_start hrun⟩

end Race

end Megaphone
