import Megaphone.Library.Keyed
import Megaphone.Server.Log

/-!
Posts to different feeds commute.

* `Server.AcceptsPost`, `Server.posts`: posts to feeds that exist by users that exist, and a list of
  them.
* `SameByFeed`: two orders of the same requests that agree for every feed.
* `Server.SamePosts`: two servers with the same users, feeds and posts.
* `posts_run`: a list of posts works on the table of the feeds, feed by feed.
* `SamePosts.lastPostsRequest`: what `last_posts_request` builds from either server.
* `posts_commute`: both together.
-/

namespace Megaphone

open Memory

/-! ### Posts that are accepted -/

/-- A post to a feed that exists, by a user that is registered. -/
structure Server.AcceptsPost (s : Server) (rq : ClientRQCl) : Prop where
  pos : 1 ≤ rq.feedNumber.toNat
  le : rq.feedNumber.toNat ≤ s.getFeedsCount
  author : (s.getPseudo (getId rq.header)).isSome

/-- `NEWPOST` requests, one connection after the other. -/
def Server.posts (s : Server) : List (Env × ClientRQCl) → Option Server
  | [] => some s
  | (env, rq) :: is => do
      let (s, _) ← s.handleTcpConnection env (.cl NEWPOST newpost_ne rq)
      s.posts is

/-- The same requests in another order, which is the same for each feed. -/
structure SameByFeed (rqs rqs' : List ClientRQCl) : Prop where
  perm : rqs.Perm rqs'
  order : ∀ f, Keyed.ofKey (·.feedNumber.toNat) f rqs = Keyed.ofKey (·.feedNumber.toNat) f rqs'

/-- Two posts with the same author and the same text.  Their bytes behind the text are never
read. -/
structure Post.Same (p p' : Post) : Prop where
  pseudo : p.pseudo = p'.pseudo
  datalen : p.datalen = p'.datalen
  text : p.text = p'.text

/-- Two feeds with the same posts. -/
structure Feed.Same (f f' : Feed) : Prop where
  creator : f.creator = f'.creator
  notif : f.notif = f'.notif
  posts : List.Forall₂ Post.Same f.posts.toList f'.posts.toList

/-- Two servers with the same users, feeds and posts, and the same of the rest but `d_errno`. -/
structure Server.SamePosts (s s' : Server) : Prop where
  users : s.users = s'.users
  feeds : List.Forall₂ Feed.Same s.feeds.toList s'.feeds.toList
  suscribe : s.suscribe = s'.suscribe
  transferFiles : s.transferFiles = s'.transferFiles
  disk : s.disk = s'.disk

/-- Two bodies of entries with the same fields. -/
def ServerBody.Same : ServerBody → ServerBody → Prop
  | .cl rq, .cl rq' => rq = rq'
  | .sb rq, .sb rq' => rq = rq'
  | .lp rq, .lp rq' => rq.Same rq'
  | _, _ => False

/-- Two results of `last_posts_request`: the same code, the same error, and as many entries with the
same bodies. -/
structure Handled.SameEntries (h h' : Handled) : Prop where
  code_eq : h.code = h'.code
  dErrno_eq : h.code ≠ 0 → h.server.dErrno = h'.server.dErrno
  entries : ∃ l l', h.serverrq.Holds l ∧ h'.serverrq.Holds l' ∧
    List.Forall₂ (fun e e' => e.body.Same e'.body) l l'

lemma Feed.Same.refl (f : Feed) : f.Same f :=
  ⟨rfl, rfl, List.forall₂_same.mpr fun _ _ => ⟨rfl, rfl, rfl⟩⟩

/-! ### The table of the feeds -/

/-- What a request does to the feed with its number. -/
def addTo (getPseudo : UInt16 → Option Pseudo) (i : Env × ClientRQCl) (feed : Option Feed) :
    Option Feed := do
  let pseudo ← getPseudo (getId i.2.header)
  let feed ← feed
  some { feed with
    posts := feed.posts.append (Server.localPost i.1 pseudo i.2.datalen i.2.data) }

/-- The number of the feed of a request. -/
def feedNumberOf (i : Env × ClientRQCl) : ℕ := i.2.feedNumber.toNat

/-- The feeds by their numbers. -/
def Server.table (s : Server) : ℕ → Option Feed
  | 0 => none
  | k + 1 => s.feeds.toList[k]?

namespace Server

variable {s s' : Server}

/-- **One post** is accepted, and works on the entry of its feed. -/
lemma handleTcpConnection_post (env : Env) {rq : ClientRQCl} (h : s.AcceptsPost rq) :
    ∃ s' ans, s.handleTcpConnection env (.cl NEWPOST newpost_ne rq) = some (s', ans) ∧
      ans.code = 0 ∧ s' = { s with feeds := s'.feeds, dErrno := NOERROR } ∧
      s'.table = Keyed.apply feedNumberOf (addTo s.getPseudo) s.table (env, rq) := by
  obtain ⟨pseudo, hpseudo⟩ := Option.isSome_iff_exists.mp h.author
  have hle := h.le
  rw [getFeedsCount, FullArray.length_eq] at hle
  obtain ⟨i, hi⟩ : ∃ i, rq.feedNumber.toNat = i + 1 :=
    Nat.exists_eq_succ_of_ne_zero (Nat.one_le_iff_ne_zero.mp h.pos)
  have hlt : i < s.feeds.toList.length := by omega
  have hfeed := List.getElem?_eq_getElem hlt
  have hnew : rq.feedNumber ≠ 0 := by
    rintro h0
    rw [h0] at hi
    cases hi
  have hrq : Server.requests env { s with dErrno := NOERROR } (.arrayNew ServerRQ 0)
      (.cl NEWPOST newpost_ne rq) = some ⟨0, appendPost { s with dErrno := NOERROR } i
        s.feeds.toList[i] (localPost env pseudo rq.datalen rq.data),
        (CArray.arrayNew ServerRQ 0).append
          ⟨env.junk 0, .cl ⟨rq.header, rq.feedNumber, rq.count⟩⟩⟩ := by
    show Server.postRequest env { s with dErrno := NOERROR } _ rq = _
    rw [postRequest, getFeedsCount, FullArray.length_eq, if_neg (fun h => hnew h.2),
      if_neg (not_lt.mpr (show rq.feedNumber.toNat ≤ s.feeds.toList.length by omega)),
      show ({ s with dErrno := NOERROR } : Server).getPseudo _ = some pseudo from hpseudo]
    simp only [if_neg hnew, ne_eq, not_true, if_false, hi]
    rw [postNew_eq (s := { s with dErrno := NOERROR }) hfeed]
    rfl
  have hconn := handleTcpRequest_of_ok hrq rfl
  refine ⟨_, _, congrArg (Option.map _) hconn, rfl, rfl, funext fun k => ?_⟩
  rw [Keyed.apply, feedNumberOf, hi]
  cases k with
  | zero => rfl
  | succ k =>
      by_cases hk : k = i
      · subst hk
        simp [table, appendPost, addTo, hpseudo, hlt]
      · rw [Function.update_of_ne (by omega)]
        simp [table, appendPost, Ne.symm hk]

/-- A post leaves the other posts accepted. -/
lemma AcceptsPost.step {rq : ClientRQCl} (h : s.AcceptsPost rq)
    (hs' : s' = { s with feeds := s'.feeds, dErrno := NOERROR }) {i : Env × ClientRQCl}
    (htable : s'.table = Keyed.apply feedNumberOf (addTo s.getPseudo) s.table i)
    (hi : s.AcceptsPost i.2) : s'.AcceptsPost rq := by
  have hpseudo : s'.getPseudo = s.getPseudo := by
    rw [hs']
    rfl
  refine ⟨h.pos, ?_, by rw [hpseudo]; exact h.author⟩
  -- the entry of every feed is still there
  obtain ⟨k, hk⟩ : ∃ k, rq.feedNumber.toNat = k + 1 :=
    Nat.exists_eq_succ_of_ne_zero (Nat.one_le_iff_ne_zero.mp h.pos)
  have hle := h.le
  rw [getFeedsCount, FullArray.length_eq, hk] at hle
  have hfeed : s.table (k + 1) = some s.feeds.toList[k] := List.getElem?_eq_getElem hle
  have hsome : (s'.table (k + 1)).isSome := by
    rw [htable, Keyed.apply]
    obtain ⟨pseudo, hauthor⟩ := Option.isSome_iff_exists.mp hi.author
    by_cases hki : k + 1 = feedNumberOf i
    · rw [← hki, Function.update_self, addTo, hauthor, hfeed]
      rfl
    · rw [Function.update_of_ne hki, hfeed]
      rfl
  obtain ⟨feed, hfeed'⟩ := Option.isSome_iff_exists.mp hsome
  rw [getFeedsCount, FullArray.length_eq, hk]
  exact (List.getElem?_eq_some_iff.mp hfeed').1

/-- **A list of posts** is accepted, and works on the table of the feeds, feed by feed. -/
lemma posts_run {is : List (Env × ClientRQCl)} (h : ∀ i ∈ is, s.AcceptsPost i.2) :
    ∃ s', s.posts is = some s' ∧
      s'.table = Keyed.run feedNumberOf (addTo s.getPseudo) s.table is ∧
      s'.users = s.users ∧ s'.suscribe = s.suscribe ∧ s'.transferFiles = s.transferFiles ∧
      s'.disk = s.disk := by
  induction is generalizing s with
  | nil => exact ⟨s, rfl, rfl, rfl, rfl, rfl, rfl⟩
  | cons i is ih =>
      have hi := h i List.mem_cons_self
      obtain ⟨s₁, ans, hconn, -, hs₁, htable⟩ := handleTcpConnection_post i.1 hi
      obtain ⟨s', hposts, hrun, husers, hsuscribe, hfiles, hdisk⟩ := ih (s := s₁)
        fun j hj => (h j (List.mem_cons_of_mem i hj)).step hs₁ htable hi
      have hpseudo : s₁.getPseudo = s.getPseudo := by
        rw [hs₁]
        rfl
      rw [hs₁] at husers hsuscribe hfiles hdisk
      refine ⟨s', ?_, ?_, husers, hsuscribe, hfiles, hdisk⟩
      · rw [posts, hconn]
        exact hposts
      · rw [hrun, hpseudo, htable]
        rfl

end Server

/-! ### Two orders -/

/-- A request with the same fields does the same to the same posts. -/
lemma addTo_same {getPseudo : UInt16 → Option Pseudo} {i j : Env × ClientRQCl} (hij : i.2 = j.2)
    {v w : Option Feed} (hvw : Option.Rel Feed.Same v w) :
    Option.Rel Feed.Same (addTo getPseudo i v) (addTo getPseudo j w) := by
  rw [addTo, addTo, hij]
  cases getPseudo (getId j.2.header) with
  | none => exact .none
  | some pseudo =>
      cases hvw with
      | none => exact .none
      | some hsame =>
          refine .some ⟨hsame.creator, hsame.notif, ?_⟩
          rw [FullArray.toList_append, FullArray.toList_append]
          refine List.rel_append hsame.posts (.cons ⟨rfl, rfl, ?_⟩ .nil)
          rw [text_localPost, text_localPost]

/-- The posts to one feed are the same in both orders. -/
lemma SameByFeed.forall₂ {xs ys : List (Env × ClientRQCl)}
    (h : SameByFeed (xs.map (·.2)) (ys.map (·.2))) (k : ℕ) :
    List.Forall₂ (fun i j : Env × ClientRQCl => i.2 = j.2) (Keyed.ofKey feedNumberOf k xs)
      (Keyed.ofKey feedNumberOf k ys) := by
  have hmap : ∀ is : List (Env × ClientRQCl), (Keyed.ofKey feedNumberOf k is).map (·.2) =
      Keyed.ofKey (·.feedNumber.toNat) k (is.map (·.2)) := fun is => by
    rw [Keyed.ofKey, Keyed.ofKey, List.filter_map]
    rfl
  have heq : List.Forall₂ (· = ·) ((Keyed.ofKey feedNumberOf k xs).map (·.2))
      ((Keyed.ofKey feedNumberOf k ys).map (·.2)) := by
    rw [List.forall₂_eq_eq_eq, hmap, hmap]
    exact h.order k
  exact List.forall₂_map_right_iff.mp (List.forall₂_map_left_iff.mp heq)

/-! ### The posts that are asked for -/

namespace Server.SamePosts

variable {s s' : Server}

lemma getPseudo_eq (h : s.SamePosts s') : s.getPseudo = s'.getPseudo := by
  funext id
  rw [getPseudo, getPseudo, h.users]

/-- The posts that a request selects. -/
lemma lastOf {posts posts' : List Post} (h : List.Forall₂ Post.Same posts posts')
    (count : UInt16) : List.Forall₂ Post.Same (Server.lastOf count posts)
      (Server.lastOf count posts') := by
  rw [Server.lastOf, Server.lastOf, h.length_eq]
  exact List.forall₂_drop _ h

/-- The entries of the posts. -/
lemma entries {feeds feeds' : List Feed} (h : List.Forall₂ Feed.Same feeds feeds') (env env' : Env)
    (count : UInt16) (i : ℕ) : List.Forall₂ (fun e e' : ServerRQ => e.body.Same e'.body)
      ((feeds.zipIdx i).flatMap fun p => (Server.lastOf count p.1.posts.toList).map
        (lpEntry env (UInt16.ofNat (p.2 + 1)) p.1.creator))
      ((feeds'.zipIdx i).flatMap fun p => (Server.lastOf count p.1.posts.toList).map
        (lpEntry env' (UInt16.ofNat (p.2 + 1)) p.1.creator)) := by
  induction h generalizing i with
  | nil => exact .nil
  | cons hfeed _ ih =>
      rw [List.zipIdx_cons, List.zipIdx_cons, List.flatMap_cons, List.flatMap_cons]
      refine List.rel_append ?_ (ih (i + 1))
      rw [List.forall₂_map_left_iff, List.forall₂_map_right_iff]
      refine (lastOf hfeed.posts count).imp fun p p' hpost => ?_
      refine ⟨rfl, hfeed.creator, hpost.pseudo, hpost.datalen, ?_⟩
      calc textOf p.datalen (write env.junk 0 (textOf p.datalen p.data))
          = textOf p.datalen p.data := textOf_write p.data env.junk 0 p.datalen
        _ = textOf p'.datalen p'.data := hpost.text
        _ = textOf p'.datalen (write env'.junk 0 (textOf p'.datalen p'.data)) :=
            (textOf_write p'.data env'.junk 0 p'.datalen).symm

lemma selectedFeeds_eq (h : s.SamePosts s') (rq : ClientRQCl) :
    s.selectedFeeds rq = s'.selectedFeeds rq := by
  rw [selectedFeeds, selectedFeeds, h.feeds.length_eq]

/-- The entries that a request selects, in either server. -/
lemma selectedEntries (h : s.SamePosts s') (env env' : Env) (rq : ClientRQCl) :
    List.Forall₂ (fun e e' : ServerRQ => e.body.Same e'.body) (s.selectedEntries env rq)
      (s'.selectedEntries env' rq) := by
  rw [Server.selectedEntries, Server.selectedEntries, ← h.selectedFeeds_eq]
  exact entries (List.forall₂_take _ (List.forall₂_drop _ h.feeds)) env env' rq.count _

lemma lastPostsHeader_eq (h : s.SamePosts s') (rq : ClientRQCl) :
    s.lastPostsHeader rq = s'.lastPostsHeader rq := by
  have hcount := (h.selectedEntries (.quiet []) (.quiet []) rq).length_eq
  rw [length_selectedEntries, length_selectedEntries] at hcount
  rw [lastPostsHeader, lastPostsHeader, h.feeds.length_eq, hcount]

/-- **`last_posts_request`** builds the same entries from either server. -/
lemma lastPostsRequest (h : s.SamePosts s') (env env' : Env) (rq : ClientRQCl) :
    ∃ r r', s.lastPostsRequest env (.arrayNew ServerRQ 0) rq = some r ∧
      s'.lastPostsRequest env' (.arrayNew ServerRQ 0) rq = some r' ∧ r.SameEntries r' := by
  have hfail : ∀ e, (s.fail (.arrayNew ServerRQ 0) e).SameEntries
      (s'.fail (.arrayNew ServerRQ 0) e) := fun e =>
    ⟨rfl, fun _ => rfl, [], [], CArray.holds_arrayNew 0,
      CArray.holds_arrayNew 0, .nil⟩
  have hlength := h.feeds.length_eq
  by_cases hid : (s.getPseudo (getId rq.header)).isSome
  · have hid' : (s'.getPseudo (getId rq.header)).isSome := by rwa [← h.getPseudo_eq]
    by_cases hnb : rq.feedNumber.toNat ≤ s.feeds.toList.length
    · obtain ⟨a, hrq, -, hholds⟩ := lastPostsRequest_eq env hid hnb
      obtain ⟨a', hrq', -, hholds'⟩ := lastPostsRequest_eq env' hid' (hlength ▸ hnb)
      refine ⟨_, _, hrq, hrq', rfl, fun hcode => absurd rfl hcode, _, _, hholds, hholds', ?_⟩
      exact .cons (h.lastPostsHeader_eq rq) (h.selectedEntries env env' rq)
    · have hlt : s.getFeedsCount < rq.feedNumber.toNat := by
        rw [getFeedsCount, FullArray.length_eq]
        exact not_le.mp hnb
      have hlt' : s'.getFeedsCount < rq.feedNumber.toNat := by
        rw [getFeedsCount, FullArray.length_eq, ← hlength]
        exact not_le.mp hnb
      refine ⟨_, _, ?_, ?_, hfail ERR_FEEDNB⟩
      · rw [Server.lastPostsRequest, if_neg (by simpa using Option.isSome_iff_ne_none.mp hid),
          if_pos hlt]
      · rw [Server.lastPostsRequest, if_neg (by simpa using Option.isSome_iff_ne_none.mp hid'),
          if_pos hlt']
  · have hnone : (s.getPseudo (getId rq.header)).isNone := by simpa using hid
    refine ⟨_, _, ?_, ?_, hfail ERR_NOID⟩
    · rw [Server.lastPostsRequest, if_pos hnone]
    · rw [Server.lastPostsRequest, ← h.getPseudo_eq, if_pos hnone]

end Server.SamePosts

/-- **Posts to different feeds commute.**  Two orders of posts to feeds that exist by registered
users, which agree for each feed, end in the same users, feeds and posts, and `last_posts_request`
builds the same entries behind either, whatever memory that nothing has been written to contains. -/
theorem posts_commute (s : Server) (xs ys : List (Env × ClientRQCl))
    (hxs : ∀ i ∈ xs, s.AcceptsPost i.2) (h : SameByFeed (xs.map (·.2)) (ys.map (·.2))) :
    ∃ s₁ s₂, s.posts xs = some s₁ ∧ s.posts ys = some s₂ ∧ s₁.SamePosts s₂ ∧
      ∀ env env' rq, ∃ r r', s₁.lastPostsRequest env (.arrayNew ServerRQ 0) rq = some r ∧
        s₂.lastPostsRequest env' (.arrayNew ServerRQ 0) rq = some r' ∧ r.SameEntries r' := by
  have hys : ∀ i ∈ ys, s.AcceptsPost i.2 := by
    intro i hi
    obtain ⟨j, hj, heq⟩ := List.mem_map.mp (h.perm.mem_iff.mpr (List.mem_map_of_mem hi))
    rw [← heq]
    exact hxs j hj
  obtain ⟨s₁, hposts₁, htable₁, husers₁, hsuscribe₁, hfiles₁, hdisk₁⟩ := Server.posts_run hxs
  obtain ⟨s₂, hposts₂, htable₂, husers₂, hsuscribe₂, hfiles₂, hdisk₂⟩ := Server.posts_run hys
  have htable : ∀ k, Option.Rel Feed.Same (s₁.table k) (s₂.table k) := by
    have hrefl : ∀ k, Option.Rel Feed.Same (s.table k) (s.table k) := fun k => by
      cases s.table k with
      | none => exact .none
      | some feed => exact .some (.refl feed)
    have hact : ∀ i j : Env × ClientRQCl, i.2 = j.2 → ∀ v w, Option.Rel Feed.Same v w →
        Option.Rel Feed.Same (addTo s.getPseudo i v) (addTo s.getPseudo j w) :=
      fun i j hij v w hvw => addTo_same hij hvw
    rw [htable₁, htable₂]
    exact Keyed.run_rel hact h.forall₂ hrefl
  have hsame : s₁.SamePosts s₂ :=
    ⟨husers₁.trans husers₂.symm, Keyed.forall₂_of_getElem? fun k => htable (k + 1),
      hsuscribe₁.trans hsuscribe₂.symm, hfiles₁.trans hfiles₂.symm, hdisk₁.trans hdisk₂.symm⟩
  exact ⟨s₁, s₂, hposts₁, hposts₂, hsame, hsame.lastPostsRequest⟩

namespace TwoFeeds

/-- A user and two feeds without posts. -/
def server : Server :=
  ((dataInit.userNew 1 (.replicate PSEUDO_LEN 97)).appendFeed
    (Server.localFeed (.quiet []) (.replicate PSEUDO_LEN 97))).appendFeed
      (Server.localFeed (.quiet []) (.replicate PSEUDO_LEN 97))

/-- A post of one letter. -/
def post (f : UInt16) (letter : UInt8) : Env × ClientRQCl :=
  (.quiet [], ⟨mkHeader NEWPOST 1, f, 0, 1, fun _ => letter⟩)

/-- Two posts to the first feed, with one to the second in front of them or between. -/
theorem posts_commute_two : ∃ s₁ s₂,
    server.posts [post 1 98, post 2 99, post 1 100] = some s₁ ∧
      server.posts [post 2 99, post 1 98, post 1 100] = some s₂ ∧ s₁.SamePosts s₂ ∧
      ∀ env env' rq, ∃ r r', s₁.lastPostsRequest env (.arrayNew ServerRQ 0) rq = some r ∧
        s₂.lastPostsRequest env' (.arrayNew ServerRQ 0) rq = some r' ∧ r.SameEntries r' := by
  have haccepts : ∀ f : UInt16, f = 1 ∨ f = 2 → ∀ letter, server.AcceptsPost (post f letter).2 := by
    have hauthor : (server.getPseudo (getId (mkHeader NEWPOST 1))).isSome := by decide
    rintro f (rfl | rfl) letter
    · exact ⟨le_rfl, Nat.le_succ 1, hauthor⟩
    · exact ⟨Nat.le_succ 1, le_rfl, hauthor⟩
  refine posts_commute server _ _ (fun i hi => ?_) ⟨.swap _ _ _, fun f => ?_⟩
  · rw [List.mem_cons, List.mem_cons, List.mem_singleton] at hi
    rcases hi with rfl | rfl | rfl
    · exact haccepts 1 (.inl rfl) _
    · exact haccepts 2 (.inr rfl) _
    · exact haccepts 1 (.inl rfl) _
  · by_cases h₁ : 1 = f
    · subst h₁
      rfl
    · simp [Keyed.ofKey, post, List.filter_cons, h₁]

end TwoFeeds

end Megaphone
