import Megaphone.Server.Commute
import Megaphone.Server.FailedUploads
import Megaphone.Server.Outcome

/-!
The limits of the 16-bit numbers of the server: the number of a new feed, and the number of posts
in an answer.

* `Server.NumbersNewFeed`: a post for a new feed makes it, and uses and answers its number.
* `numbers_new_feed_iff`: this is so up to the feed number 65535, while `FEED_NB_MAX` lets one more
  in.
* `Handled.CountsPosts`: the count in the header of an answer to `LASTPOSTS` is the number of posts
  behind it, for the two loops that go up to it as well.
* `counts_posts_iff`: this is so for fewer than 65536 posts.
* `exists_run_feeds`, `exists_run_posts`: runs with as many feeds, or posts, as one likes.
-/

namespace Megaphone

open Memory

namespace Server

variable {env : Env} {s : Server} {a : CArray ServerRQ} {rq : ClientRQCl}

/-! ### The numbers of new feeds -/

/-- A post for a new feed makes one feed, and unless `feed_new` fails then, the number that is used
and answered is the number of that feed, which is not 0, and its record has the post. -/
def NumbersNewFeed (env : Env) (s : Server) (a : CArray ServerRQ) (rq : ClientRQCl) : Prop :=
  ∃ h, s.postRequest env a rq = some h ∧
    h.server.feeds.toList.length = s.feeds.toList.length + 1 ∧
    (h.code = 0 → ∃ (number : UInt16) (feed : Feed),
      number ≠ 0 ∧ number.toNat = s.feeds.toList.length + 1 ∧
      h.serverrq = a.append ⟨env.junk 0, .cl ⟨rq.header, number, rq.count⟩⟩ ∧
      h.server.feeds.toList[number.toNat - 1]? = some feed ∧
      feed.posts.toList.map Post.text = [textOf rq.datalen rq.data])

/-- `post_request` for a new feed, up to the call of `post_new`. -/
lemma postRequest_newFeed {pseudo : Pseudo} (hid : s.getPseudo (getId rq.header) = some pseudo)
    (hnew : rq.feedNumber = 0) (hlt : s.feeds.toList.length < FEED_NB_MAX) :
    s.postRequest env a rq =
      if (s.feedNew env pseudo).1 ≠ 0 then some ⟨1, s.appendFeed (localFeed env pseudo), a⟩
      else ((s.appendFeed (localFeed env pseudo)).postNew env pseudo rq.datalen rq.data
        (UInt16.ofNat s.feeds.toList.length + 1).toNat).map fun s' => ⟨0, s', a.append
          ⟨env.junk 0, .cl ⟨rq.header, UInt16.ofNat s.feeds.toList.length + 1, rq.count⟩⟩⟩ := by
  rw [postRequest, getFeedsCount, FullArray.length_eq,
    if_neg (fun h => absurd h.1 (not_le.mpr hlt)), if_neg (by rw [hnew]; simp), hid]
  simp only [hnew, if_true, feedNew_snd]

/-- The number of a new feed, as a `uint16_t`. -/
lemma toNat_ofNat_add_one {n : ℕ} (h : n < 65535) : (UInt16.ofNat n + 1).toNat = n + 1 := by
  rw [UInt16.toNat_add, UInt16.toNat_ofNat']
  change (n % 2 ^ 16 + 1) % 2 ^ 16 = _
  omega

/-- **The numbers of new feeds.**  A post for a new feed that passes the checks of `post_request`
gives the feed its number, if and only if there are fewer than 65535 feeds, or the directory of the
new feed can be neither found nor made. -/
theorem numbers_new_feed_iff (env : Env) (s : Server) (a : CArray ServerRQ) (rq : ClientRQCl)
    (hnew : rq.feedNumber = 0) (hlt : s.feeds.toList.length < FEED_NB_MAX)
    (hid : (s.getPseudo (getId rq.header)).isSome) :
    s.NumbersNewFeed env a rq ↔ s.feeds.toList.length < 65535 ∨ s.NoDirectory env := by
  obtain ⟨pseudo, hpseudo⟩ := Option.isSome_iff_exists.mp hid
  have hrq : s.postRequest env a rq = _ := postRequest_newFeed hpseudo hnew hlt
  have hlength : (s.appendFeed (localFeed env pseudo)).feeds.toList.length =
      s.feeds.toList.length + 1 := by
    rw [appendFeed, FullArray.toList_append, List.length_append, List.length_singleton]
  by_cases hdir : s.NoDirectory env
  · rw [if_pos ((noDirectory_iff env s pseudo).mp hdir)] at hrq
    refine ⟨fun _ => .inr hdir, fun _ => ⟨_, hrq, hlength, fun hcode => ?_⟩⟩
    exact absurd (show (1 : UInt8) = 0 from hcode) (by decide)
  · rw [if_neg ((noDirectory_iff env s pseudo).not.mp hdir)] at hrq
    have hnone := postNew_new env hlt (localFeed env pseudo) pseudo rq.datalen rq.data
    constructor
    · rintro ⟨h, hh, -⟩
      rw [hrq] at hh
      left
      by_contra hge
      have hfull : s.feeds.toList.length = 65535 := by
        rw [FEED_NB_MAX] at hlt
        omega
      rw [hnone.mpr hfull] at hh
      cases hh
    · rintro (hlt' | hdir')
      · have hnum := toNat_ofNat_add_one hlt'
        rw [hnum, postNew_appendFeed, Option.map_some] at hrq
        refine ⟨_, hrq, ?_, fun _ => ⟨_, { localFeed env pseudo with
          posts := (localFeed env pseudo).posts.append
            (localPost env pseudo rq.datalen rq.data) }, fun h0 => ?_, hnum, rfl, ?_, ?_⟩⟩
        · rw [appendPost, FullArray.toList_write, List.length_set, hlength]
        · rw [h0] at hnum
          cases hnum
        · rw [hnum, appendPost, FullArray.toList_write, Nat.add_sub_cancel,
            List.getElem?_set_self (by omega)]
        · simp [localFeed, text_localPost]
      · exact absurd hdir' hdir

/-! ### Runs with many feeds -/

/-- The post of user 1 on the feed `f`. -/
def onePost (f : UInt16) : ClientRQCl := ⟨mkHeader NEWPOST 1, f, 0, 1, fun _ => 98⟩

/-- One more feed. -/
lemma exists_step_newFeed {w : World} (hid : (w.server.getPseudo 1).isSome)
    (hlt : w.server.feeds.toList.length < 65535) : ∃ w' out,
    step w (.tcp (.quiet []) (.cl NEWPOST newpost_ne (onePost 0))) = some (w', out) ∧
      w'.server.users = w.server.users ∧
      w'.server.feeds.toList.length = w.server.feeds.toList.length + 1 := by
  obtain ⟨pseudo, hpseudo⟩ := Option.isSome_iff_exists.mp hid
  obtain ⟨server, loop⟩ := w
  have hroom : server.feeds.toList.length < FEED_NB_MAX := by
    simp only [FEED_NB_MAX] at hlt ⊢
    omega
  have hnew : feedNew (.quiet []) { server with dErrno := NOERROR } pseudo = _ :=
    feedNew_eq (fun _ => rfl) pseudo
  have hrq : postRequest (.quiet []) { server with dErrno := NOERROR } (.arrayNew ServerRQ 0)
      (onePost 0) = _ := postRequest_newFeed hpseudo rfl hroom
  have hpost := postNew_appendFeed (.quiet []) { server with dErrno := NOERROR }
    (localFeed (.quiet []) pseudo) pseudo 1 fun _ => 98
  rw [hnew, if_neg (by simp), toNat_ofNat_add_one hlt] at hrq
  simp only [onePost] at hrq
  rw [hpost, Option.map_some] at hrq
  have hconn : handleTcpRequest (.quiet []) server (.arrayNew ServerRQ 0)
      (.cl NEWPOST newpost_ne (onePost 0)) = _ := handleTcpRequest_of_ok hrq rfl
  refine ⟨_, _, congrArg (Option.map _) (congrArg (Option.map _) hconn), rfl, ?_⟩
  simp [appendPost, appendFeed]

/-- The state after a registration. -/
lemma exists_run_registration : ∃ ts w, Machine.Run step World.init ts w ∧ ts.length = 1 ∧
    (w.server.getPseudo 1).isSome ∧ w.server.feeds.toList.length = 0 :=
  ⟨_, _, .cons (a := .tcp (.quiet [0]) (.rg ⟨0, .replicate PSEUDO_LEN 97⟩)) rfl (.nil _), rfl, rfl,
    rfl⟩

/-- **Runs with many feeds**: one registration, and a post for each of them. -/
lemma exists_run_feeds {n : ℕ} (hn : n ≤ 65535) : ∃ ts w, Machine.Run step World.init ts w ∧
    ts.length = n + 1 ∧ (w.server.getPseudo 1).isSome ∧ w.server.feeds.toList.length = n := by
  induction n with
  | zero => exact exists_run_registration
  | succ n ih =>
      obtain ⟨ts, w, hrun, hlength, hid, hfeeds⟩ := ih (by omega)
      obtain ⟨w', out, hs, husers, hfeeds'⟩ := exists_step_newFeed hid (by omega)
      refine ⟨_, w', hrun.append (.cons hs (.nil w')), ?_, ?_, ?_⟩
      · rw [List.length_append, hlength, List.length_singleton]
      · rw [getPseudo, husers]
        exact hid
      · rw [hfeeds', hfeeds]

/-- With 65535 feeds, the post for the next one is not numbered. -/
theorem not_numbersNewFeed : ∃ ts w, Machine.Run step World.init ts w ∧
    w.server.feeds.toList.length = 65535 ∧ w.server.feeds.toList.length < FEED_NB_MAX ∧
    (w.server.getPseudo (getId (onePost 0).header)).isSome ∧
    w.server.postRequest (.quiet []) (.arrayNew ServerRQ 0) (onePost 0) = none ∧
    ¬w.server.NumbersNewFeed (.quiet []) (.arrayNew ServerRQ 0) (onePost 0) := by
  obtain ⟨ts, w, hrun, -, hid, hfeeds⟩ := exists_run_feeds le_rfl
  have hlt : w.server.feeds.toList.length < FEED_NB_MAX := by
    rw [hfeeds]
    decide
  obtain ⟨pseudo, hpseudo⟩ := Option.isSome_iff_exists.mp hid
  have hnone : w.server.postRequest (.quiet []) (.arrayNew ServerRQ 0) (onePost 0) = none := by
    have hrq : w.server.postRequest (.quiet []) (.arrayNew ServerRQ 0) (onePost 0) = _ :=
      postRequest_newFeed hpseudo rfl hlt
    rw [hrq, feedNew_eq (fun _ => rfl), if_neg (by simp),
      (postNew_new (.quiet []) hlt _ pseudo _ _).mpr hfeeds]
    rfl
  refine ⟨ts, w, hrun, hfeeds, hlt, hid, hnone, ?_⟩
  rintro ⟨h, hh, -⟩
  rw [hnone] at hh
  cases hh

/-- The first feed has the number 1. -/
theorem numbers_new_feed_iff_first : ∃ ts w, Machine.Run step World.init ts w ∧
    w.server.feeds.toList.length = 0 ∧
    (w.server.NumbersNewFeed (.quiet []) (.arrayNew ServerRQ 0) (onePost 0) ↔
      w.server.feeds.toList.length < 65535 ∨ w.server.NoDirectory (.quiet [])) := by
  obtain ⟨ts, w, hrun, -, hid, hfeeds⟩ := exists_run_registration
  refine ⟨ts, w, hrun, hfeeds, numbers_new_feed_iff (.quiet []) w.server _ (onePost 0) rfl ?_ hid⟩
  rw [hfeeds]
  decide

end Server

/-! ### The number of posts in an answer -/

/-- The entry number `i` of an answer to `LASTPOSTS`, with the type that `handle_tcp_request` sets
in the first one. -/
def Handled.typedEntry (h : Handled) (i : ℕ) : Option ServerRQ :=
  (h.serverrq.at? i).map fun e => if i = 0 then { e with type := LASTPOSTS } else e

/-- The count in the header of an answer to `LASTPOSTS` is the number of entries behind it, so that
the loop of `send_server_request` sends every entry, and the one of `recv_server_request` ends, if
it does not fail, with all posts. -/
structure Handled.CountsPosts (h : Handled) : Prop where
  count : ∃ type cl, h.serverrq.at? 0 = some ⟨type, .cl cl⟩ ∧
    cl.count.toNat + 1 = h.serverrq.length
  sent : ∃ ms, sendServerRequest (fun _ => true) h.typedEntry = some (0, ms) ∧
    ms.length = h.serverrq.length
  received : ∀ type cl, h.serverrq.at? 0 = some ⟨type, .cl cl⟩ →
    ∀ (junk : ℕ → UInt8) (σ : Type) (sock : Socket σ) (s : σ) (rb : BytesRQ) p,
      recvPosts junk sock cl.count.toNat s rb = some p → p.1 = 0 →
        p.2.1.length + 1 = h.serverrq.length

/-- The loop of `recv_server_request` reads as many posts as it is told. -/
lemma length_recvPosts {σ : Type} {junk : ℕ → UInt8} {sock : Socket σ} {n : ℕ} {s : σ}
    {rb : BytesRQ} {p : UInt8 × List ServerRQLp × BytesRQ × σ}
    (h : recvPosts junk sock n s rb = some p) (hcode : p.1 = 0) : p.2.1.length = n := by
  induction n generalizing s rb p with
  | zero =>
      cases h
      rfl
  | succ n ih =>
      obtain ⟨r, -, h⟩ := Option.bind_eq_some_iff.mp h
      split at h
      next =>
        cases h
        exact absurd (show (1 : UInt8) = 0 from hcode) (by decide)
      next =>
        obtain ⟨p', hp', rfl⟩ := Option.map_eq_some_iff.mp h
        rw [List.length_cons, ih hp' hcode]

namespace Server

variable {env : Env} {s : Server} {rq : ClientRQCl}

/-- The entries of an answer are sent, when there are as many as the header says. -/
lemma send_typedEntry {h : Handled}
    (hholds : h.serverrq.Holds (⟨0, .cl (s.lastPostsHeader rq)⟩ :: s.selectedEntries env rq))
    (hlt : s.selectedCount rq < 65536) :
    ∃ ms, sendServerRequest (fun _ => true) h.typedEntry = some (0, ms) ∧
      ms.length = s.selectedCount rq + 1 := by
  have hhead : h.typedEntry 0 = some ⟨LASTPOSTS, .cl (s.lastPostsHeader rq)⟩ := by
    rw [Handled.typedEntry, hholds.at?_eq 0 (Nat.succ_pos _)]
    rfl
  have hcount : (s.lastPostsHeader rq).count.toNat = s.selectedCount rq :=
    (UInt16.toNat_ofNat' ..).trans (Nat.mod_eq_of_lt hlt)
  obtain ⟨lps, hlps, hlength⟩ := exists_lpEntries h.typedEntry 1 (s.selectedCount rq) fun j hj => by
    have hj' : j < (s.selectedEntries env rq).length := by rwa [length_selectedEntries]
    obtain ⟨lp, hlp⟩ := lp_of_mem_selectedEntries (List.getElem_mem hj')
    refine ⟨_, lp, ?_, hlp⟩
    rw [Nat.add_comm 1 j, Handled.typedEntry, hholds.at?_eq (j + 1) (Nat.succ_lt_succ hj'),
      List.getElem_cons_succ, Option.map_some, if_neg (Nat.succ_ne_zero j)]
  have hplain : ¬isPlain LASTPOSTS = true := by decide
  refine ⟨terminated (htonServerrqcl (s.lastPostsHeader rq)) ::
    lps.map fun lp => terminated (htonServerrqlp lp), ?_, by simp [hlength]⟩
  simp only [sendServerRequest, hhead, Option.bind_some, if_neg hplain, if_true, ServerBody.cl?,
    hcount, hlps, Option.map_some, sendAll_true]

/-- **The count of posts.**  A `LASTPOSTS` request of a known user for a feed that there is, or for
all of them, is accepted, and the count in the header of its answer is the number of posts in it, if
and only if fewer than 65536 posts are selected. -/
theorem counts_posts_iff (env : Env) (s : Server) (rq : ClientRQCl)
    (hid : (s.getPseudo (getId rq.header)).isSome)
    (hnb : rq.feedNumber.toNat ≤ s.getFeedsCount) :
    ∃ h, s.lastPostsRequest env (.arrayNew ServerRQ 0) rq = some h ∧ h.code = 0 ∧
      (h.CountsPosts ↔ s.selectedCount rq < 65536) := by
  rw [getFeedsCount, FullArray.length_eq] at hnb
  obtain ⟨a', hrq, -, hholds⟩ := lastPostsRequest_eq env hid hnb
  have hlength : a'.length = s.selectedCount rq + 1 := by
    rw [hholds.length_eq, List.length_cons, length_selectedEntries]
  have hhead : a'.at? 0 = some ⟨0, .cl (s.lastPostsHeader rq)⟩ :=
    hholds.at?_eq 0 (Nat.succ_pos _)
  have hcount : (s.lastPostsHeader rq).count.toNat = s.selectedCount rq % 65536 :=
    UInt16.toNat_ofNat' ..
  refine ⟨_, hrq, rfl, fun hcounts => ?_, fun hlt => ?_⟩
  · obtain ⟨type, cl, hat, hcl⟩ := hcounts.count
    obtain ⟨-, hcl'⟩ := ServerRQ.mk.inj (Option.some.inj (hhead.symm.trans hat))
    obtain rfl := ServerBody.cl.inj hcl'
    rw [hcount] at hcl
    change s.selectedCount rq % 65536 + 1 = a'.length at hcl
    omega
  · obtain ⟨ms, hms, hlen⟩ := send_typedEntry (h := ⟨0, s, a'⟩) hholds hlt
    refine ⟨⟨0, _, hhead, ?_⟩, ⟨ms, hms, hlen.trans hlength.symm⟩,
      fun type cl hat junk σ sock t rb p hp hcode => ?_⟩
    · rw [hcount, hlength, Nat.mod_eq_of_lt hlt]
    · obtain ⟨-, hcl'⟩ := ServerRQ.mk.inj (Option.some.inj (hhead.symm.trans hat))
      obtain rfl := ServerBody.cl.inj hcl'
      rw [length_recvPosts hp hcode, hcount, hlength, Nat.mod_eq_of_lt hlt]

/-! ### Runs with many posts -/

/-- One more post on the only feed. -/
lemma exists_step_post {w : World} {feed : Feed} (hid : (w.server.getPseudo 1).isSome)
    (hfeeds : w.server.feeds.toList = [feed]) : ∃ w' out feed',
    step w (.tcp (.quiet []) (.cl NEWPOST newpost_ne (onePost 1))) = some (w', out) ∧
      w'.server.users = w.server.users ∧ w'.server.feeds.toList = [feed'] ∧
      feed'.posts.toList.length = feed.posts.toList.length + 1 := by
  obtain ⟨pseudo, hpseudo⟩ := Option.isSome_iff_exists.mp hid
  have hauthor : w.server.getPseudo (getId (onePost 1).header) = some pseudo := hpseudo
  have haccepts : w.server.AcceptsPost (onePost 1) := by
    refine ⟨le_rfl, ?_, hid⟩
    rw [getFeedsCount, FullArray.length_eq, hfeeds]
    rfl
  obtain ⟨s', ans, hconn, -, hs', htable⟩ := handleTcpConnection_post (.quiet []) haccepts
  set feed' : Feed := { feed with
    posts := feed.posts.append (localPost (.quiet []) pseudo 1 fun _ => 98) } with hfeed'
  have hlist : s'.feeds.toList = [feed'] := by
    refine List.ext_getElem? fun k => ?_
    have hk := congrFun htable (k + 1)
    change s'.feeds.toList[k]? = _ at hk
    rw [hk, Keyed.apply]
    cases k with
    | zero =>
        show addTo w.server.getPseudo (.quiet [], onePost 1) w.server.feeds.toList[0]? = _
        simp only [hfeeds, addTo, hauthor]
        rfl
    | succ k =>
        rw [Function.update_of_ne (by simp [feedNumberOf, onePost])]
        show w.server.feeds.toList[k + 1]? = _
        rw [hfeeds]
        rfl
  refine ⟨{ w with server := s' }, some ans, feed', ?_, ?_, hlist, ?_⟩
  · rw [step, hconn]
    rfl
  · show s'.users = _
    rw [hs']
  · rw [hfeed', FullArray.toList_append, List.length_append, List.length_singleton]

/-- **Runs with many posts** on one feed. -/
lemma exists_run_posts (n : ℕ) : ∃ ts w feed, Machine.Run step World.init ts w ∧
    ts.length = n + 2 ∧ (w.server.getPseudo 1).isSome ∧ w.server.feeds.toList = [feed] ∧
    feed.posts.toList.length = n + 1 := by
  induction n with
  | zero =>
      exact ⟨_, _, _, .cons (a := .tcp (.quiet [0]) (.rg ⟨0, .replicate PSEUDO_LEN 97⟩)) rfl
        (.cons (a := .tcp (.quiet []) (.cl NEWPOST newpost_ne (onePost 0))) rfl (.nil _)), rfl,
        rfl, rfl, rfl⟩
  | succ n ih =>
      obtain ⟨ts, w, feed, hrun, hlength, hid, hfeeds, hposts⟩ := ih
      obtain ⟨w', out, feed', hs, husers, hfeeds', hposts'⟩ := exists_step_post hid hfeeds
      refine ⟨_, w', feed', hrun.append (.cons hs (.nil w')), ?_, ?_, hfeeds', ?_⟩
      · rw [List.length_append, hlength, List.length_singleton]
      · rw [getPseudo, husers]
        exact hid
      · rw [hposts', hposts]

/-- The request of user 1 for all posts of the first feed. -/
def allPosts : ClientRQCl := ⟨mkHeader LASTPOSTS 1, 1, 0, 0, fun _ => 0⟩

lemma selectedCount_allPosts {feed : Feed} (h : s.feeds.toList = [feed]) :
    s.selectedCount allPosts = feed.posts.toList.length := by
  rw [selectedCount, h]
  rfl

/-- With 65536 posts, the count is 0. -/
theorem not_countsPosts : ∃ ts w h, Machine.Run step World.init ts w ∧
    (w.server.getPseudo (getId allPosts.header)).isSome ∧
    allPosts.feedNumber.toNat ≤ w.server.getFeedsCount ∧
    w.server.lastPostsRequest (.quiet []) (.arrayNew ServerRQ 0) allPosts = some h ∧
    h.code = 0 ∧ h.serverrq.length = 65537 ∧
    (∃ cl, h.serverrq.at? 0 = some ⟨0, .cl cl⟩ ∧ cl.count = 0) ∧ ¬h.CountsPosts := by
  obtain ⟨ts, w, feed, hrun, -, hid, hfeeds, hposts⟩ := exists_run_posts 65535
  have hnb : allPosts.feedNumber.toNat ≤ w.server.feeds.toList.length := by
    rw [hfeeds]
    rfl
  have hcount : w.server.selectedCount allPosts = 65536 :=
    (selectedCount_allPosts hfeeds).trans hposts
  obtain ⟨a', hrq, -, hholds⟩ := lastPostsRequest_eq (.quiet []) hid hnb
  have hlength : a'.length = 65537 := by
    rw [hholds.length_eq, List.length_cons, length_selectedEntries, hcount]
  have hhead : a'.at? 0 = some ⟨0, .cl (w.server.lastPostsHeader allPosts)⟩ :=
    hholds.at?_eq 0 (Nat.succ_pos _)
  have hzero : (w.server.lastPostsHeader allPosts).count = 0 := by
    rw [lastPostsHeader, hcount]
    rfl
  refine ⟨ts, w, _, hrun, hid, by rwa [getFeedsCount, FullArray.length_eq], hrq, rfl, hlength,
    ⟨_, hhead, hzero⟩, fun hcounts => ?_⟩
  obtain ⟨type, cl, hat, hcl⟩ := hcounts.count
  obtain ⟨-, hcl'⟩ := ServerRQ.mk.inj (Option.some.inj (hhead.symm.trans hat))
  obtain rfl := ServerBody.cl.inj hcl'
  rw [hzero] at hcl
  change 0 + 1 = a'.length at hcl
  omega

/-- One post is counted. -/
theorem counts_posts_iff_one : ∃ ts w, Machine.Run step World.init ts w ∧
    w.server.selectedCount allPosts = 1 ∧
    ∃ h, w.server.lastPostsRequest (.quiet []) (.arrayNew ServerRQ 0) allPosts = some h ∧
      h.code = 0 ∧ (h.CountsPosts ↔ w.server.selectedCount allPosts < 65536) := by
  obtain ⟨ts, w, feed, hrun, -, hid, hfeeds, hposts⟩ := exists_run_posts 0
  refine ⟨ts, w, hrun, (selectedCount_allPosts hfeeds).trans hposts,
    counts_posts_iff (.quiet []) w.server allPosts hid ?_⟩
  rw [getFeedsCount, FullArray.length_eq, hfeeds]
  rfl

end Server

end Megaphone
