import Megaphone.Server.Run
import Mathlib.Data.List.DropRight

/-!
What the store behind `REGISTRATION`, `NEWPOST` and `LASTPOSTS` is for: a log of posts.

* `Log`, `Log.step`: the log and its three requests, in its own terms: users are a map from
  identifiers, feeds are lists of posts, and feed numbers count from 1.
* `Server.toLog`: the log that a server stands for.
* `register_step`, `post_step`, `last_step`: each request does to the log what it is meant to do.
* `store_refines_log`: every run of `handle_tcp_request` on such requests is a run of the log.
-/

namespace Megaphone

open Memory

/-! ### The log -/

/-- A feed: its creator, and the author and the text of each post. -/
structure LogFeed where
  creator : Pseudo
  posts : List (Pseudo × List UInt8)

/-- A log: the pseudo of every user and the feeds. -/
structure Log where
  users : UInt16 → Option Pseudo
  feeds : List LogFeed

/-- A post as it is answered, with the number of its feed. -/
structure LogEntry where
  number : ℕ
  creator : Pseudo
  author : Pseudo
  text : List UInt8

/-- The requests; the new identifier is part of a registration. -/
inductive LogRequest
  | register (id : UInt16) (pseudo : Pseudo)
  | post (id : UInt16) (f : ℕ) (text : List UInt8)
  | last (id : UInt16) (f n : ℕ)

/-- The answers. -/
inductive LogAnswer
  | error (e : UInt16)
  | registered (id : UInt16)
  | posted (f : ℕ)
  | posts (es : List LogEntry)

namespace Log

/-- The log before the first request. -/
def empty : Log := ⟨fun _ => none, []⟩

/-- The newest `n` elements of a list, or all of them for `0`. -/
def newest {α : Type*} (n : ℕ) (l : List α) : List α := if n = 0 then l else l.rtake n

/-- The newest `n` posts of the feed number `f`. -/
def feedEntries (f n : ℕ) (feed : LogFeed) : List LogEntry :=
  (newest n feed.posts).map fun p => ⟨f, feed.creator, p.1, p.2⟩

/-- The newest `n` posts of the feed number `f`, or of every feed for `0`. -/
def entries (l : Log) (f n : ℕ) : List LogEntry :=
  if f = 0 then (l.feeds.zipIdx 1).flatMap fun p => feedEntries p.2 n p.1
  else (l.feeds[f - 1]?).elim [] (feedEntries f n)

/-- A post at the end of feed number `f`, or of a new feed for `0`; the number of the feed. -/
def addPost (l : Log) (pseudo : Pseudo) (f : ℕ) (text : List UInt8) : Log × ℕ :=
  if f = 0 then
    ({ l with feeds := l.feeds ++ [⟨pseudo, [(pseudo, text)]⟩] }, l.feeds.length + 1)
  else
    ({ l with feeds := l.feeds.modify (f - 1) fun feed =>
        { feed with posts := feed.posts ++ [(pseudo, text)] } }, f)

open Classical in
/-- What each request does.  A registration may be given any new identifier from `1` to `ID_MAX`. -/
noncomputable def step (l : Log) : LogRequest → Option (Log × LogAnswer)
  | .register id pseudo =>
      if USER_MAX ≤ Set.ncard {id | l.users id ≠ none} then some (l, .error ERR_IDMAX)
      else if l.users id = none ∧ 1 ≤ id.toNat ∧ id.toNat ≤ ID_MAX then
        some ({ l with users := Function.update l.users id (some pseudo) }, .registered id)
      else none
  | .post id f text =>
      if l.feeds.length < f then some (l, .error ERR_FEEDNB)
      else match l.users id with
        | none => some (l, .error ERR_NOID)
        | some pseudo => some ((l.addPost pseudo f text).1, .posted (l.addPost pseudo f text).2)
  | .last id f n =>
      if l.users id = none then some (l, .error ERR_NOID)
      else if l.feeds.length < f then some (l, .error ERR_FEEDNB)
      else some (l, .posts (l.entries f n))

end Log

/-! ### The log of a server -/

/-- The author and the text of a post. -/
def Post.toLog (p : Post) : Pseudo × List UInt8 := (p.pseudo, p.text)

/-- A feed of the server as one of the log. -/
def Feed.toLog (f : Feed) : LogFeed := ⟨f.creator, f.posts.toList.map Post.toLog⟩

/-- The log that a server stands for. -/
def Server.toLog (s : Server) : Log := ⟨s.getPseudo, s.feeds.toList.map Feed.toLog⟩

/-- The post in an entry of `a_serverrq`. -/
def logEntry (e : ServerRQ) : Option LogEntry :=
  e.body.lp?.map fun lp => ⟨lp.feedNumber.toNat, lp.creator, lp.pseudo, textOf lp.datalen lp.data⟩

/-- A request over TCP as one to the log; the identifier of a registration is left open. -/
inductive Asks : ClientRQ → LogRequest → Prop
  | register (rq : ClientRQRg) (id : UInt16) : Asks (.rg rq) (.register id rq.pseudo)
  | post (h : NEWPOST ≠ REGISTRATION) (rq : ClientRQCl) : Asks (.cl NEWPOST h rq)
      (.post (getId rq.header) rq.feedNumber.toNat (textOf rq.datalen rq.data))
  | last (h : LASTPOSTS ≠ REGISTRATION) (rq : ClientRQCl) : Asks (.cl LASTPOSTS h rq)
      (.last (getId rq.header) rq.feedNumber.toNat rq.count.toNat)

/-- The array `a_serverrq` holds an answer of the log. -/
def Answers (a : CArray ServerRQ) : LogAnswer → Prop
  | .error e => a.at? 0 = some ⟨e.toUInt8, .cl ⟨e, 0, 0⟩⟩
  | .registered id => a.at? 0 = some ⟨REGISTRATION, .cl ⟨mkHeader REGISTRATION id, 0, 0⟩⟩
  | .posted f => ∃ cl, a.at? 0 = some ⟨NEWPOST, .cl cl⟩ ∧ cl.feedNumber.toNat = f
  | .posts es => ∃ head l, a.Holds (head :: l) ∧ l.map logEntry = es.map some

/-- `handle_tcp_request` on a fresh array. -/
def tcpStep (s : Server) (i : Env × ClientRQ) : Option (Server × Handled) :=
  (s.handleTcpRequest i.1 (.arrayNew ServerRQ 0) i.2).map fun h => (h.server, h)

/-- A request of one of the three types, when allocations and `mkdir` succeed, `errno` is not
`ENOMEM` and there are fewer than 65535 feeds. -/
structure InScope (s : Server) (i : Env × ClientRQ) : Prop where
  type_eq : i.2.type = REGISTRATION ∨ i.2.type = NEWPOST ∨ i.2.type = LASTPOSTS
  enomem_eq : i.1.enomem = false
  mkdir_eq : ∀ path, i.1.mkdir path = true
  feeds_lt : s.feeds.toList.length < 65535

/-- The loop of `generate_new_id` ends, if it is run. -/
def LoopEnds (s : Server) (i : Env × ClientRQ) : Prop :=
  i.2.type = REGISTRATION → s.getNbUser < USER_MAX → (s.generateNewId i.1.random).isSome

/-- A transition of the server and the one of the log. -/
structure Matches (t : Machine.Transition Server (Env × ClientRQ) Handled)
    (u : Machine.Transition Log LogRequest LogAnswer) : Prop where
  pre_eq : u.pre = t.pre.toLog
  asks : Asks t.act.2 u.act
  code_eq : t.out.code = 0
  answers : Answers t.out.serverrq u.out
  post_eq : u.post = t.post.toLog

/-! ### Registrations -/

/-- The number of users of the log is the number of users. -/
lemma ncard_users {s : Server} (h : s.UsersInv) :
    Set.ncard {id | s.toLog.users id ≠ none} = s.users.toList.length := by
  have hset : {id | s.toLog.users id ≠ none} = (s.users.toList.map (·.id)).toFinset := by
    ext id
    simp only [Set.mem_ofPred_eq, Server.toLog, ne_eq, Server.getPseudo_eq_none, not_not,
      List.coe_toFinset]
  rw [hset, Set.ncard_coe_finset, List.toFinset_card_of_nodup h.nodup, List.length_map]

/-- What `handle_tcp_request` does in a state with the invariant of the users. -/
structure StepsAs (s : Server) (i : Env × ClientRQ) (h : Handled) : Prop where
  step_eq : tcpStep s i = some (h.server, h)
  code_eq : h.code = 0
  matched : ∃ r o, Asks i.2 r ∧ s.toLog.step r = some (h.server.toLog, o) ∧ Answers h.serverrq o
  inv : h.server.UsersInv

lemma tcpStep_eq {s : Server} {i : Env × ClientRQ} {h : Handled}
    (hs : s.handleTcpRequest i.1 (.arrayNew ServerRQ 0) i.2 = some h) :
    tcpStep s i = some (h.server, h) := by
  rw [tcpStep, hs, Option.map_some]

/-- A registration adds one fresh identifier, unless there are `USER_MAX` users. -/
lemma register_step {s : Server} {env : Env} {rq : ClientRQRg} (hs : s.UsersInv)
    (henomem : env.enomem = false)
    (hid : s.getNbUser < USER_MAX → (s.generateNewId env.random).isSome) :
    ∃ h, StepsAs s (env, .rg rq) h := by
  have hncard := ncard_users hs
  rw [Server.getNbUser, FullArray.length_eq] at hid
  by_cases hmax : USER_MAX ≤ s.users.toList.length
  · have hrq : Server.requests env { s with dErrno := NOERROR } (.arrayNew ServerRQ 0) (.rg rq) =
        some (Server.fail { s with dErrno := NOERROR } (.arrayNew ServerRQ 0) ERR_IDMAX) := by
      simp only [Server.requests, Server.registrationRequest, Server.getNbUser,
        FullArray.length_eq, ge_iff_le, hmax, if_true]
    refine ⟨_, tcpStep_eq (Server.handleTcpRequest_of_fail hrq henomem), rfl,
      ⟨.register 0 rq.pseudo, .error ERR_IDMAX, .register rq 0, ?_, rfl⟩,
      hs.congr rfl⟩
    rw [Log.step, hncard, if_pos hmax]
    rfl
  · obtain ⟨id, hgen⟩ := Option.isSome_iff_exists.mp (hid (not_le.mp hmax))
    obtain ⟨hnew, hpos, hle⟩ := Server.generateNewId_spec hgen
    have hrq : Server.requests env { s with dErrno := NOERROR } (.arrayNew ServerRQ 0) (.rg rq) =
        some ⟨0, Server.userNew { s with dErrno := NOERROR } id rq.pseudo,
          (CArray.arrayNew ServerRQ 0).append
            ⟨env.junk 0, .cl ⟨mkHeader REGISTRATION id, 0, 0⟩⟩⟩ := by
      have hgen' : ({ s with dErrno := NOERROR } : Server).generateNewId env.random = some id := by
        exact (Server.generateNewId_congr s { s with dErrno := NOERROR } rfl env.random).trans hgen
      simp only [Server.requests, Server.registrationRequest, Server.getNbUser,
        FullArray.length_eq, ge_iff_le, hmax, if_false, hgen', Option.bind_eq_bind,
        Option.bind_some]
    refine ⟨_, tcpStep_eq (Server.handleTcpRequest_of_ok hrq rfl), rfl,
      ⟨.register id rq.pseudo, .registered id, .register rq id, ?_, rfl⟩, ?_⟩
    · have hnone : s.toLog.users id = none :=
        Server.getPseudo_eq_none.mpr (Server.existId_eq_false.mp hnew).2
      rw [Log.step, hncard, if_neg hmax, if_pos ⟨hnone, hpos, hle⟩]
      exact congrArg (fun users => some (Log.mk users s.toLog.feeds, LogAnswer.registered id))
        (Server.getPseudo_userNew hnew rq.pseudo).symm
    · exact (hs.userNew ⟨hnew, hpos, hle⟩ (not_le.mp hmax) rq.pseudo).congr rfl

/-! ### Posts -/

lemma text_localPost (env : Env) (pseudo : Pseudo) (datalen : UInt8) (data : ℕ → UInt8) :
    (Server.localPost env pseudo datalen data).text = textOf datalen data :=
  textOf_write data env.junk 0 datalen

/-- A post at the end of the feed number `i + 1`. -/
lemma toLog_appendPost {s : Server} {i : ℕ} {feed : Feed} (h : s.feeds.toList[i]? = some feed)
    (post : Post) : (s.appendPost i feed post).toLog =
      (s.toLog.addPost post.pseudo (i + 1) post.text).1 := by
  obtain ⟨hi, rfl⟩ := List.getElem?_eq_some_iff.mp h
  rw [Log.addPost, if_neg (Nat.succ_ne_zero i), Nat.add_sub_cancel]
  refine congrArg (Log.mk s.getPseudo) ?_
  refine List.ext_getElem (by simp [Server.toLog, Server.appendPost]) fun k h₁ h₂ => ?_
  by_cases hk : i = k
  · subst hk
    simp [Server.toLog, Server.appendPost, Feed.toLog, Post.toLog]
  · simp [Server.toLog, Server.appendPost, hk]

/-- A post on a new feed. -/
lemma toLog_appendFeed (env : Env) (s : Server) (post : Post) :
    ((s.appendFeed (Server.localFeed env post.pseudo)).appendPost s.feeds.toList.length
      (Server.localFeed env post.pseudo) post).toLog =
      (s.toLog.addPost post.pseudo 0 post.text).1 := by
  refine congrArg (Log.mk s.getPseudo) ?_
  simp [Server.appendFeed, Server.appendPost, Server.localFeed, Server.toLog, Feed.toLog,
    Post.toLog]

/-- An accepted `NEWPOST`: the handler appends a post, and answers the number of its feed. -/
lemma post_accepted {s s' : Server} {env : Env} {htype : NEWPOST ≠ REGISTRATION} {rq : ClientRQCl}
    {pseudo : Pseudo} {number : UInt16} (hs : s.UsersInv)
    (hid : s.getPseudo (getId rq.header) = some pseudo)
    (hnb : ¬s.feeds.toList.length < rq.feedNumber.toNat)
    (hrq : Server.requests env { s with dErrno := NOERROR } (.arrayNew ServerRQ 0)
      (.cl NEWPOST htype rq) = some ⟨0, s', (CArray.arrayNew ServerRQ 0).append
        ⟨env.junk 0, .cl ⟨rq.header, number, rq.count⟩⟩⟩)
    (husers : s'.users = s.users)
    (hlog : s.toLog.addPost pseudo rq.feedNumber.toNat (textOf rq.datalen rq.data) =
      (s'.toLog, number.toNat)) : ∃ h, StepsAs s (env, .cl NEWPOST htype rq) h := by
  refine ⟨_, tcpStep_eq (Server.handleTcpRequest_of_ok hrq rfl), rfl,
    ⟨_, .posted number.toNat, .post htype rq, ?_, _, rfl, rfl⟩, hs.congr husers⟩
  have hlength : s.toLog.feeds.length = s.feeds.toList.length := List.length_map _
  rw [Log.step, hlength, if_neg hnb,
    show s.toLog.users (getId rq.header) = some pseudo from hid]
  simp only [hlog]
  rfl

/-- `NEWPOST` appends a post to a feed, or to a new one. -/
lemma post_step {s : Server} {env : Env} {htype : NEWPOST ≠ REGISTRATION} {rq : ClientRQCl}
    (hs : s.UsersInv) (hscope : InScope s (env, .cl NEWPOST htype rq)) :
    ∃ h, StepsAs s (env, .cl NEWPOST htype rq) h := by
  have hlt := hscope.feeds_lt
  have hlength : s.toLog.feeds.length = s.feeds.toList.length := List.length_map _
  set s₀ : Server := { s with dErrno := NOERROR } with hs₀
  set a := CArray.arrayNew ServerRQ 0
  have hrequests : s₀.requests env a (.cl NEWPOST htype rq) = s₀.postRequest env a rq := rfl
  have hmax : ¬(s.feeds.toList.length ≥ FEED_NB_MAX ∧ rq.feedNumber = 0) := by
    rw [FEED_NB_MAX]
    omega
  rw [Server.postRequest, Server.getFeedsCount, FullArray.length_eq,
    show s₀.feeds.toList = s.feeds.toList from rfl, if_neg hmax] at hrequests
  by_cases hnb : s.feeds.toList.length < rq.feedNumber.toNat
  · rw [if_pos hnb] at hrequests
    refine ⟨_, tcpStep_eq (Server.handleTcpRequest_of_fail hrequests hscope.enomem_eq), rfl,
      ⟨_, .error ERR_FEEDNB, .post htype rq, ?_, rfl⟩, hs.congr rfl⟩
    rw [Log.step, hlength, if_pos hnb]
    rfl
  rw [if_neg hnb] at hrequests
  cases hid : s.getPseudo (getId rq.header) with
  | none =>
      rw [show s₀.getPseudo (getId rq.header) = none from hid] at hrequests
      refine ⟨_, tcpStep_eq (Server.handleTcpRequest_of_fail hrequests hscope.enomem_eq), rfl,
        ⟨_, .error ERR_NOID, .post htype rq, ?_, rfl⟩, hs.congr rfl⟩
      rw [Log.step, hlength, if_neg hnb, show s.toLog.users (getId rq.header) = none from hid]
      rfl
  | some pseudo =>
      rw [show s₀.getPseudo (getId rq.header) = some pseudo from hid] at hrequests
      by_cases hnew : rq.feedNumber = 0
      · have hnumber : (UInt16.ofNat s.feeds.toList.length + 1).toNat =
            s.feeds.toList.length + 1 := by
          rw [UInt16.toNat_add, UInt16.toNat_ofNat']
          change (s.feeds.toList.length % 2 ^ 16 + 1) % 2 ^ 16 = _
          omega
        have hpost := Server.postNew_appendFeed env s₀ (Server.localFeed env pseudo) pseudo
          rq.datalen rq.data
        rw [show s₀.feeds.toList.length = s.feeds.toList.length from rfl] at hpost
        simp only [if_pos hnew, Server.feedNew_eq hscope.mkdir_eq, ne_eq, not_true, if_false,
          hnumber, hpost, Option.map_some] at hrequests
        refine post_accepted hs hid hnb hrequests rfl ?_
        have hlog := toLog_appendFeed env s₀ (Server.localPost env pseudo rq.datalen rq.data)
        rw [hnumber, hnew]
        refine Prod.ext (Eq.trans ?_ hlog.symm) (by rw [Log.addPost, ← hlength]; rfl)
        rw [text_localPost]
        rfl
      · obtain ⟨i, hi⟩ : ∃ i, rq.feedNumber.toNat = i + 1 :=
          Nat.exists_eq_succ_of_ne_zero fun h0 => hnew (UInt16.toNat_inj.mp h0)
        have hfeed : s₀.feeds.toList[i]? = some s.feeds.toList[i] :=
          List.getElem?_eq_getElem (show i < s.feeds.toList.length by omega)
        simp only [if_neg hnew, ne_eq, not_true, if_false, hi, Server.postNew_eq hfeed,
          Option.map_some] at hrequests
        refine post_accepted hs hid hnb hrequests rfl ?_
        have hlog := toLog_appendPost hfeed (Server.localPost env pseudo rq.datalen rq.data)
        rw [hi]
        refine Prod.ext (Eq.trans ?_ hlog.symm) ?_
        · rw [text_localPost]
          rfl
        · rw [Log.addPost, if_neg (Nat.succ_ne_zero i)]

/-! ### The last posts -/

/-- The newest posts of a feed. -/
lemma map_lastOf (count : UInt16) (posts : List Post) :
    (Server.lastOf count posts).map Post.toLog =
      Log.newest count.toNat (posts.map Post.toLog) := by
  rw [Server.lastOf, Server.postsCount, Log.newest]
  by_cases hall : count = 0
  · simp [hall]
  · have hne : count.toNat ≠ 0 := fun h0 => hall (UInt16.toNat_inj.mp h0)
    rw [if_neg hne, List.rtake, List.length_map, ← List.map_drop]
    by_cases hlt : count.toNat > posts.length
    · rw [if_pos (Or.inr hlt), Nat.sub_self, Nat.sub_eq_zero_of_le hlt.le]
    · rw [if_neg (not_or.mpr ⟨hall, hlt⟩)]

lemma logEntry_lpEntry (env : Env) (number : UInt16) (creator : Pseudo) (post : Post) :
    logEntry (Server.lpEntry env number creator post) =
      some ⟨number.toNat, creator, post.pseudo, post.text⟩ := by
  have htext := textOf_write post.data env.junk 0 post.datalen
  simp only [logEntry, Server.lpEntry, Server.serverrqLpNew, ServerBody.lp?, Option.map_some]
  rw [show textOf post.datalen (write env.junk 0 (textOf post.datalen post.data)) = post.text
    from htext]

/-- The entries of one feed. -/
lemma map_lpEntry (env : Env) (count : UInt16) {i : ℕ} (hi : i < 65535) (feed : Feed) :
    ((Server.lastOf count feed.posts.toList).map
        (Server.lpEntry env (UInt16.ofNat (i + 1)) feed.creator)).map logEntry =
      (Log.feedEntries (i + 1) count.toNat feed.toLog).map some := by
  have hnumber : (UInt16.ofNat (i + 1)).toNat = i + 1 := by
    rw [UInt16.toNat_ofNat']
    omega
  rw [Log.feedEntries, Feed.toLog, ← map_lastOf, List.map_map, List.map_map, List.map_map]
  refine List.map_congr_left fun post _ => ?_
  rw [Function.comp_apply, logEntry_lpEntry, hnumber]
  rfl

/-- The entries of all feeds of a list, whose numbers start at `i + 1`. -/
lemma map_flatMap_lpEntry (env : Env) (count : UInt16) (feeds : List Feed) {i : ℕ}
    (hi : i + feeds.length ≤ 65535) :
    ((feeds.zipIdx i).flatMap fun p => (Server.lastOf count p.1.posts.toList).map
        (Server.lpEntry env (UInt16.ofNat (p.2 + 1)) p.1.creator)).map logEntry =
      (((feeds.map Feed.toLog).zipIdx (i + 1)).flatMap fun p =>
        Log.feedEntries p.2 count.toNat p.1).map some := by
  induction feeds generalizing i with
  | nil => rfl
  | cons feed feeds ih =>
      rw [List.length_cons] at hi
      rw [List.zipIdx_cons, List.map_cons, List.zipIdx_cons, List.flatMap_cons, List.flatMap_cons,
        List.map_append, List.map_append, ih (by omega), map_lpEntry env count (by omega)]

/-- The entries of a request are the posts of the log that it asks for. -/
lemma map_selectedEntries (env : Env) {s : Server} {rq : ClientRQCl}
    (hlt : s.feeds.toList.length < 65535) (hnb : rq.feedNumber.toNat ≤ s.feeds.toList.length) :
    (s.selectedEntries env rq).map logEntry =
      (s.toLog.entries rq.feedNumber.toNat rq.count.toNat).map some := by
  rw [Server.selectedEntries, Server.feedEntries, Server.selectedFeeds, Log.entries]
  by_cases hall : rq.feedNumber = 0
  · have hlength : (UInt16.ofNat s.feeds.toList.length).toNat = s.feeds.toList.length := by
      rw [UInt16.toNat_ofNat']
      omega
    simp only [hall, if_true, hlength, List.drop_zero, List.take_length, UInt16.toNat_zero]
    exact map_flatMap_lpEntry env rq.count s.feeds.toList (by omega)
  · obtain ⟨i, hi⟩ : ∃ i, rq.feedNumber.toNat = i + 1 :=
      Nat.exists_eq_succ_of_ne_zero fun h0 => hall (UInt16.toNat_inj.mp h0)
    have hlt' : i < s.feeds.toList.length := by omega
    have hfeed : s.toLog.feeds[i]? = some s.feeds.toList[i].toLog := by
      simp [Server.toLog, hlt']
    simp only [hall, if_false, hi, Nat.succ_ne_zero, Nat.add_sub_cancel, hfeed, Option.elim_some,
      List.drop_eq_getElem_cons hlt', List.take_succ_cons, List.take_zero, List.zipIdx_cons,
      List.zipIdx_nil, List.flatMap_cons, List.flatMap_nil, List.append_nil]
    exact map_lpEntry env rq.count (by omega) _

/-- `LASTPOSTS` answers the last posts. -/
lemma last_step {s : Server} {env : Env} {htype : LASTPOSTS ≠ REGISTRATION} {rq : ClientRQCl}
    (hs : s.UsersInv) (hscope : InScope s (env, .cl LASTPOSTS htype rq)) :
    ∃ h, StepsAs s (env, .cl LASTPOSTS htype rq) h := by
  have hlength : s.toLog.feeds.length = s.feeds.toList.length := List.length_map _
  set s₀ : Server := { s with dErrno := NOERROR } with hs₀
  have hrequests : s₀.requests env (.arrayNew ServerRQ 0) (.cl LASTPOSTS htype rq) =
    s₀.lastPostsRequest env (.arrayNew ServerRQ 0) rq := rfl
  cases hid : s.getPseudo (getId rq.header) with
  | none =>
      rw [Server.lastPostsRequest, show s₀.getPseudo (getId rq.header) = none from hid,
        if_pos Option.isNone_none] at hrequests
      refine ⟨_, tcpStep_eq (Server.handleTcpRequest_of_fail hrequests hscope.enomem_eq), rfl,
        ⟨_, .error ERR_NOID, .last htype rq, ?_, rfl⟩, hs.congr rfl⟩
      rw [Log.step, if_pos (show s.toLog.users (getId rq.header) = none from hid)]
      rfl
  | some pseudo =>
      have huser : ¬s.toLog.users (getId rq.header) = none := by
        rw [show s.toLog.users (getId rq.header) = some pseudo from hid]
        simp
      by_cases hnb : s.feeds.toList.length < rq.feedNumber.toNat
      · rw [Server.lastPostsRequest, show s₀.getPseudo (getId rq.header) = some pseudo from hid,
          if_neg (by simp), Server.getFeedsCount, FullArray.length_eq,
          show s₀.feeds.toList = s.feeds.toList from rfl, if_pos hnb] at hrequests
        refine ⟨_, tcpStep_eq (Server.handleTcpRequest_of_fail hrequests hscope.enomem_eq), rfl,
          ⟨_, .error ERR_FEEDNB, .last htype rq, ?_, rfl⟩, hs.congr rfl⟩
        rw [Log.step, if_neg huser, hlength, if_pos hnb]
        rfl
      · have huser₀ : (s₀.getPseudo (getId rq.header)).isSome := by
          rw [show s₀.getPseudo (getId rq.header) = some pseudo from hid]
          rfl
        have hnb₀ : rq.feedNumber.toNat ≤ s₀.feeds.toList.length := not_lt.mp hnb
        obtain ⟨a', hrq, -, hholds⟩ := Server.lastPostsRequest_eq env huser₀ hnb₀
        rw [hrq] at hrequests
        refine ⟨_, tcpStep_eq (Server.handleTcpRequest_of_ok hrequests rfl), rfl,
          ⟨_, .posts (s.toLog.entries rq.feedNumber.toNat rq.count.toNat), .last htype rq, ?_, ?_⟩,
          hs.congr rfl⟩
        · rw [Log.step, if_neg huser, hlength, if_neg hnb]
          rfl
        · obtain ⟨head, hholds'⟩ := hholds.poke_zero 0 fun e => { e with type := LASTPOSTS }
          exact ⟨head, _, hholds', map_selectedEntries env hscope.feeds_lt (not_lt.mp hnb)⟩

/-! ### Runs -/

/-- **One request** of the three types: it is handled, and it does to the log what it is meant to
do. -/
lemma tcpStep_spec {s : Server} {i : Env × ClientRQ} (hs : s.UsersInv) (hscope : InScope s i)
    (hends : LoopEnds s i) : ∃ h, StepsAs s i h := by
  obtain ⟨env, rq⟩ := i
  cases rq with
  | rg rq => exact register_step hs hscope.enomem_eq (hends rfl)
  | cl type htype rq =>
      obtain rfl | rfl | rfl := hscope.type_eq
      · exact absurd rfl htype
      · exact post_step hs hscope
      · exact last_step hs hscope

/-- When a request has been handled, the loop of `generate_new_id` has ended. -/
lemma loopEnds_of_tcpStep {s s' : Server} {i : Env × ClientRQ} {h : Handled}
    (hstep : tcpStep s i = some (s', h)) : LoopEnds s i := by
  obtain ⟨env, rq⟩ := i
  intro htype hroom
  cases rq with
  | rg rq =>
      rw [Server.getNbUser, FullArray.length_eq] at hroom
      obtain ⟨h₀, hhandle, -⟩ := Option.map_eq_some_iff.mp hstep
      obtain ⟨h₁, hrq, -⟩ := Option.map_eq_some_iff.mp hhandle
      obtain ⟨hmax, -⟩ | ⟨-, id, hid, -⟩ := Server.registrationRequest_cases hrq
      · exact absurd hroom (not_lt.mpr hmax)
      · rw [← Server.generateNewId_congr s { s with dErrno := NOERROR } rfl, hid]
        rfl
  | cl type hne rq => exact absurd htype hne

/-- A request that has been handled did to the log what it is meant to do. -/
lemma tcpStep_matches {s s' : Server} {i : Env × ClientRQ} {h : Handled} (hs : s.UsersInv)
    (hscope : InScope s i) (hstep : tcpStep s i = some (s', h)) :
    ∃ r l o, s.toLog.step r = some (l, o) ∧ Matches ⟨s, i, h, s'⟩ ⟨s.toLog, r, o, l⟩ ∧
      l = s'.toLog ∧ s'.UsersInv := by
  obtain ⟨h', hh'⟩ := tcpStep_spec hs hscope (loopEnds_of_tcpStep hstep)
  have heq := hh'.step_eq
  rw [hstep] at heq
  cases heq
  obtain ⟨r, o, hasks, hlog, hans⟩ := hh'.matched
  exact ⟨r, _, o, hlog, ⟨rfl, hasks, hh'.code_eq, hans, rfl⟩, rfl, hh'.inv⟩

/-- **The store refines the log.**  Every run of `handle_tcp_request` on requests of the three types
is a run of the log, request by request and answer by answer; and in the state that it reaches every
such request is handled, unless `generate_new_id` is still looking for an identifier. -/
theorem store_refines_log {s : Server}
    {ts : List (Machine.Transition Server (Env × ClientRQ) Handled)}
    (h : Machine.Run tcpStep dataInit ts s) (hts : ∀ t ∈ ts, InScope t.pre t.act) :
    (∃ us, Machine.Run Log.step Log.empty us s.toLog ∧ List.Forall₂ Matches ts us) ∧
    ∀ i, InScope s i → LoopEnds s i → (tcpStep s i).isSome := by
  obtain ⟨us, l, hrun, ⟨rfl, hs⟩, hall⟩ := h.simulates
    (R := fun s l => l = s.toLog ∧ s.UsersInv) (Q := fun t => InScope t.pre t.act) (M := Matches)
    (fun s i s' o l hR hscope hstep => by
      obtain ⟨rfl, hs⟩ := hR
      obtain ⟨r, l', o', hlog, hmatch, hl', hs'⟩ := tcpStep_matches hs hscope hstep
      exact ⟨r, l', o', hlog, hmatch, hl', hs'⟩)
    hts ⟨rfl, Server.usersInv_dataInit⟩
  refine ⟨⟨us, hrun, hall⟩, fun i hscope hends => ?_⟩
  obtain ⟨h', hh'⟩ := tcpStep_spec hs hscope hends
  rw [hh'.step_eq]
  rfl

/-- A registration, a post on a new feed and the request for all posts. -/
theorem store_refines_log_three : ∃ ts s, Machine.Run tcpStep dataInit ts s ∧ ts.length = 3 ∧
    s.feeds.toList.length = 1 ∧
    (∃ us, Machine.Run Log.step Log.empty us s.toLog ∧ List.Forall₂ Matches ts us) ∧
    ∀ i, InScope s i → LoopEnds s i → (tcpStep s i).isSome := by
  have hrun : Machine.Run tcpStep dataInit _ _ :=
    .cons (a := (.quiet [0], .rg ⟨mkHeader REGISTRATION 0, .replicate PSEUDO_LEN 97⟩)) rfl <|
    .cons (a := (.quiet [], .cl NEWPOST newpost_ne
      ⟨mkHeader NEWPOST 1, 0, 0, 1, fun _ => 98⟩)) rfl <|
    .cons (a := (.quiet [], .cl LASTPOSTS lastposts_ne
      ⟨mkHeader LASTPOSTS 1, 0, 0, 0, fun _ => 0⟩)) rfl <| .nil _
  refine ⟨_, _, hrun, rfl, rfl, store_refines_log hrun fun t ht => ?_⟩
  rw [List.mem_cons, List.mem_cons, List.mem_singleton] at ht
  rcases ht with rfl | rfl | rfl
  · exact ⟨.inl rfl, rfl, fun _ => rfl, by decide⟩
  · exact ⟨.inr (.inl rfl), rfl, fun _ => rfl, by decide⟩
  · exact ⟨.inr (.inr rfl), rfl, fun _ => rfl, Nat.lt_of_sub_pos (by decide)⟩

end Megaphone
