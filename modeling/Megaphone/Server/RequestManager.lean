import Megaphone.Server.Data

/-!
The handlers of the requests that arrive over TCP, and of the datagrams of an upload
(`request_manager.c` of the server).

* `registrationRequest`, `postRequest`, `lastPostsRequest`, `subscriptionsRequest`,
  `prepareUploadRequest`, `prepareDownloadRequest`: the handlers.  Each gives its return code, the
  state and the array `a_serverrq` of the answer.
* `handleTcpRequest`: the dispatch, which completes the answer through a pointer that was taken
  before the handler ran.
* `handleUploadPacket`: a datagram.
* `registrationRequest_cases`, `postRequest_cases` and the others: all that a handler can do, and
  `requests_posting`, `requests_users`: what it does to the store.
* `lastPostsRequest_eq`: the entries that `last_posts_request` makes, and where they are.
-/

namespace Megaphone

open Memory

/-- What a handler leaves: the return code, the state and the entries of the answer. -/
structure Handled where
  code : UInt8
  server : Server
  serverrq : CArray ServerRQ

namespace Server

variable (env : Env)

/-- A handler that sets `d_errno` and returns 1. -/
def fail (s : Server) (a : CArray ServerRQ) (e : UInt16) : Handled :=
  ⟨1, { s with dErrno := e }, a⟩

/-- `registration_request`. -/
def registrationRequest (s : Server) (a : CArray ServerRQ) (rq : ClientRQRg) : Option Handled :=
  if s.getNbUser ≥ USER_MAX then some (s.fail a ERR_IDMAX)
  else do
    let id ← s.generateNewId env.random
    let s := s.userNew id rq.pseudo
    let header := mkHeader REGISTRATION id
    some ⟨0, s, a.append ⟨env.junk 0, .cl ⟨header, 0, 0⟩⟩⟩

/-- `post_request`. -/
def postRequest (s : Server) (a : CArray ServerRQ) (rq : ClientRQCl) : Option Handled :=
  let feedNumber := rq.feedNumber
  let feedCount := s.getFeedsCount
  if feedCount ≥ FEED_NB_MAX ∧ feedNumber = 0 then some (s.fail a ERR_FEEDMAX)
  else if feedNumber.toNat > feedCount then some (s.fail a ERR_FEEDNB)
  else match s.getPseudo (getId rq.header) with
    | none => some (s.fail a ERR_NOID)
    | some pseudo =>
        let (feedNumber, err, s) :=
          if feedNumber = 0 then (UInt16.ofNat feedCount + 1, s.feedNew env pseudo)
          else (feedNumber, 0, s)
        if err ≠ 0 then some ⟨1, s, a⟩
        else (s.postNew env pseudo rq.datalen rq.data feedNumber.toNat).map fun s =>
          ⟨0, s, a.append ⟨env.junk 0, .cl ⟨rq.header, feedNumber, rq.count⟩⟩⟩

/-- `serverrq_lp_new`.  Behind the text, `data` keeps what was on the stack. -/
def serverrqLpNew (feedNumber : UInt16) (creator pseudo : Pseudo) (datalen : UInt8)
    (data : ℕ → UInt8) : ServerRQLp :=
  { feedNumber := feedNumber, creator := creator, pseudo := pseudo, datalen := datalen
    data := write env.junk 0 (textOf datalen data) }

/-- The inner loop of `last_posts_request`: `n` posts of a feed from number `j` on. -/
def copyPosts (number : UInt16) (feed : Feed) : ℕ → ℕ → CArray ServerRQ → Option (CArray ServerRQ)
  | 0, _, a => some a
  | n + 1, j, a => do
      let j' ← feed.posts.get j
      let post ← feed.posts.toCArray.at? j'
      let lp := serverrqLpNew env number feed.creator post.pseudo post.datalen post.data
      copyPosts number feed n (j + 1) (a.append ⟨env.junk 0, .lp lp⟩)

/-- The number of posts of a feed that a request asks for. -/
def postsCount (count : UInt16) (length : ℕ) : ℕ :=
  if count = 0 ∨ count.toNat > length then length else count.toNat

/-- The outer loop of `last_posts_request`: `n` feeds from index `i` on. -/
def copyFeeds (s : Server) (count : UInt16) : ℕ → ℕ → CArray ServerRQ → Option (CArray ServerRQ)
  | 0, _, a => some a
  | n + 1, i, a => do
      let i' ← s.getFeeds i
      let feed ← s.feeds.toCArray.at? i'
      let length := feed.posts.length
      let postsCount := postsCount count length
      let a ← copyPosts env (UInt16.ofNat (i + 1)) feed postsCount (length - postsCount) a
      copyFeeds s count n (i + 1) a

/-- `last_posts_request`. -/
def lastPostsRequest (s : Server) (a : CArray ServerRQ) (rq : ClientRQCl) : Option Handled :=
  let feedNumber := rq.feedNumber
  let allFeed := feedNumber = 0
  let feedCount : UInt16 := if allFeed then UInt16.ofNat s.getFeedsCount else 1
  if (s.getPseudo (getId rq.header)).isNone then some (s.fail a ERR_NOID)
  else if s.getFeedsCount < feedNumber.toNat then some (s.fail a ERR_FEEDNB)
  else do
    let startFeed := if allFeed then 0 else feedNumber.toNat - 1
    let a ← s.copyFeeds env rq.count feedCount.toNat startFeed { a with length := 1 }
    let head ← a.at? 0
    let cl : ServerRQCl := ⟨rq.header, if allFeed then feedCount else feedNumber,
      UInt16.ofNat (a.length - 1)⟩
    some ⟨0, s, a.write 0 { head with body := .cl cl }⟩

/-- `ADDR_MULT`, with the zero behind it. -/
def ADDR_MULT : List UInt8 := "ff12::1:2:3".toUTF8.data.toList ++ [0]

/-- `set_mult`, whose return code nobody reads: without a socket nothing is set.  The 16 bytes
copied reach over the end of `ADDR_MULT`. -/
def setMult (s : Server) : Mult :=
  match env.mult with
  | none => env.junkMult
  | some sockFd =>
      let port := UInt16.ofNat (6226 + s.getSubscribeCount % 2 ^ 16 + 2)
      { addr := Vector.ofFn fun i => ADDR_MULT.getD i (env.junk i)
        port := port, sockFd := sockFd, sockAddr := port }

/-- The group that `feed->notif` points to. -/
def feedMult (s : Server) (i : ℕ) : Option Mult := do
  let feed ← s.feeds.slot env.junkFeed i
  let ptr ← feed.notif
  let infos ← s.suscribe.toCArray.deref ptr
  some infos.multInfos

/-- `subscriptions_request`. -/
def subscriptionsRequest (s : Server) (a : CArray ServerRQ) (rq : ClientRQCl) : Option Handled :=
  if (s.getPseudo (getId rq.header)).isNone then some (s.fail a ERR_NOID)
  else if rq.feedNumber.toNat > s.getFeedsCount ∨ rq.feedNumber = 0 then
    some (s.fail a ERR_FEEDNB)
  else do
    let i ← s.feedRecord rq.feedNumber.toNat
    let feed ← s.feeds.slot env.junkFeed i
    let s ← (if feed.notif.isNone then s.notifNew env rq.feedNumber.toNat (s.setMult env)
      else some s)
    let mult ← s.feedMult env i
    some ⟨0, s, a.append ⟨env.junk 0, .sb ⟨rq.header, rq.feedNumber, mult.port, mult.addr⟩⟩⟩

/-- `prepare_upload_request`. -/
def prepareUploadRequest (s : Server) (a : CArray ServerRQ) (rq : ClientRQCl) : Option Handled :=
  if (s.getPseudo (getId rq.header)).isNone then some (s.fail a ERR_NOID)
  else if rq.feedNumber.toNat > s.getFeedsCount then some (s.fail a ERR_FEEDNB)
  else
    let a := a.append ⟨env.junk 0, .cl ⟨rq.header, rq.feedNumber, UDP_PORT⟩⟩
    (s.transferNew env (getId rq.header) rq.feedNumber rq.data).map fun s => ⟨0, s, a⟩

/-- `file_exist`: whether the file can be opened, and `file_name` with the path copied over it,
without a zero behind it. -/
def fileExist (fileName : ℕ → UInt8) (feedNumber : UInt16) : Option (Bool × (ℕ → UInt8)) :=
  let path := UPLOAD_FILES_PATH ++ [47] ++ decimal feedNumber.toNat ++ [47] ++
    cString fileName MAX_DATALEN
  if path.length < MAX_DATALEN then
    some (if env.openRead path then (true, write fileName 0 path) else (false, fileName))
  else none

/-- `file_path` in `prepare_download_request`, when `file_exist` has found the file. -/
def downloadPath (rq : ClientRQCl) : ℕ → UInt8 :=
  let fileName := write env.junk 0 (cString rq.data MAX_DATALEN ++ [0])
  write fileName 0 (UPLOAD_FILES_PATH ++ [47] ++ decimal rq.feedNumber.toNat ++ [47] ++
    cString fileName MAX_DATALEN)

/-- `prepare_download_request`. -/
def prepareDownloadRequest (s : Server) (a : CArray ServerRQ) (rq : ClientRQCl) : Option Handled :=
  if (s.getPseudo (getId rq.header)).isNone then some (s.fail a ERR_NOID)
  else if rq.feedNumber.toNat > s.getFeedsCount then some (s.fail a ERR_FEEDNB)
  else
    let name := cString rq.data MAX_DATALEN
    -- `strcpy` into the uninitialised `file_path`
    if name.length < MAX_DATALEN then do
      let (exist, filePath) ← fileExist env (write env.junk 0 (name ++ [0])) rq.feedNumber
      if exist then
        let a := a.append ⟨env.junk 0, .cl ⟨rq.header, rq.feedNumber, rq.count⟩⟩
        let s ← s.transferNew env (getId rq.header) rq.feedNumber filePath
        some ⟨0, s, a⟩
      else some (s.fail a ERR_NOFILE)
    else none

/-- The table `requests`, indexed by the type; `none` outside of it. -/
def requests (s : Server) (a : CArray ServerRQ) : ClientRQ → Option Handled
  | .rg rq => s.registrationRequest env a rq
  | .cl type _ rq =>
      if type = NEWPOST then s.postRequest env a rq
      else if type = LASTPOSTS then s.lastPostsRequest env a rq
      else if type = SUBSCRIBE then s.subscriptionsRequest env a rq
      else if type = UPLOAD then s.prepareUploadRequest env a rq
      else if type = DOWNLOAD then s.prepareDownloadRequest env a rq
      else none

/-- `serverrq_error`. -/
def serverrqError (s : Server) : ServerRQCl := ⟨s.dErrno, 0, 0⟩

/-- `handle_tcp_request`.  The type, and the entry of an error, are written through a pointer that
was taken before the handler ran. -/
def handleTcpRequest (s : Server) (a : CArray ServerRQ) (rq : ClientRQ) : Option Handled :=
  (requests env { s with dErrno := NOERROR } a rq).map fun h =>
    if h.code = 0 then
      ⟨0, { h.server with dErrno := NOERROR },
        h.serverrq.poke (a.addr 0) fun serverrq => { serverrq with type := rq.type }⟩
    else if env.enomem then ⟨1, h.server, h.serverrq⟩
    else ⟨0, h.server, h.serverrq.poke (a.addr 0) fun _ =>
      ⟨h.server.dErrno.toUInt8, .cl h.server.serverrqError⟩⟩

/-- `handle_upload_packet` on a datagram of `nbytes` bytes: the return code and the state. -/
def handleUploadPacket (s : Server) (type : UInt8) (ft : FTransferRQ) (nbytes : ℕ) :
    Option (UInt8 × Server) :=
  if type ≠ UPLOAD then some (0, s)
  else s.addPacket env (getId ft.header) ft.numblock ft.data (sizeSub nbytes 4)

/-! ### What the handlers do -/

variable {env} {s : Server} {a : CArray ServerRQ}

/-- `registration_request`: an error, or one more user with a new identifier. -/
lemma registrationRequest_cases {rq : ClientRQRg} {h : Handled}
    (hrq : s.registrationRequest env a rq = some h) :
    (USER_MAX ≤ s.users.toList.length ∧ h = s.fail a ERR_IDMAX) ∨
    (s.users.toList.length < USER_MAX ∧ ∃ id, s.generateNewId env.random = some id ∧
      h = ⟨0, s.userNew id rq.pseudo,
        a.append ⟨env.junk 0, .cl ⟨mkHeader REGISTRATION id, 0, 0⟩⟩⟩) := by
  rw [registrationRequest, getNbUser, FullArray.length_eq] at hrq
  split at hrq
  next hmax => exact .inl ⟨hmax, (Option.some.inj hrq).symm⟩
  next hmax =>
    obtain ⟨id, hid, hrq⟩ := Option.bind_eq_some_iff.mp hrq
    exact .inr ⟨not_le.mp hmax, id, hid, (Option.some.inj hrq).symm⟩

/-- `post_request`: an error, or a post at the end of an existing or of a new feed. -/
lemma postRequest_cases {rq : ClientRQCl} {h : Handled} (hrq : s.postRequest env a rq = some h) :
    (FEED_NB_MAX ≤ s.feeds.toList.length ∧ rq.feedNumber = 0 ∧ h = s.fail a ERR_FEEDMAX) ∨
    (s.feeds.toList.length < rq.feedNumber.toNat ∧ h = s.fail a ERR_FEEDNB) ∨
    (rq.feedNumber.toNat ≤ s.feeds.toList.length ∧ s.getPseudo (getId rq.header) = none ∧
      h = s.fail a ERR_NOID) ∨
    (∃ pseudo, s.getPseudo (getId rq.header) = some pseudo ∧ rq.feedNumber = 0 ∧
      s.feeds.toList.length < FEED_NB_MAX ∧ (s.feedNew env pseudo).1 ≠ 0 ∧
      h = ⟨1, (s.feedNew env pseudo).2, a⟩) ∨
    (∃ pseudo feedNumber s₀ s', s.getPseudo (getId rq.header) = some pseudo ∧
      rq.feedNumber.toNat ≤ s.feeds.toList.length ∧
      ((rq.feedNumber = 0 ∧ s.feeds.toList.length < FEED_NB_MAX ∧
          feedNumber = UInt16.ofNat s.feeds.toList.length + 1 ∧ s.feedNew env pseudo = (0, s₀)) ∨
        (rq.feedNumber ≠ 0 ∧ feedNumber = rq.feedNumber ∧ s₀ = s)) ∧
      s₀.postNew env pseudo rq.datalen rq.data feedNumber.toNat = some s' ∧
      h = ⟨0, s', a.append ⟨env.junk 0, .cl ⟨rq.header, feedNumber, rq.count⟩⟩⟩) := by
  rw [postRequest, getFeedsCount, FullArray.length_eq] at hrq
  split at hrq
  next hmax => exact .inl ⟨hmax.1, hmax.2, (Option.some.inj hrq).symm⟩
  next hmax =>
  have hlt : rq.feedNumber = 0 → s.feeds.toList.length < FEED_NB_MAX := fun hnew =>
    not_le.mp fun hge => hmax ⟨hge, hnew⟩
  split at hrq
  next hnb => exact .inr (.inl ⟨hnb, (Option.some.inj hrq).symm⟩)
  next hnb =>
    rw [not_lt] at hnb
    split at hrq
    next hid => exact .inr (.inr (.inl ⟨hnb, hid, (Option.some.inj hrq).symm⟩))
    next pseudo hid =>
      by_cases hnew : rq.feedNumber = 0
      · simp only [if_pos hnew] at hrq
        split at hrq
        next herr =>
          exact .inr (.inr (.inr (.inl ⟨pseudo, hid, hnew, hlt hnew, herr,
            (Option.some.inj hrq).symm⟩)))
        next herr =>
          obtain ⟨s', hs', hrq⟩ := Option.map_eq_some_iff.mp hrq
          exact .inr (.inr (.inr (.inr ⟨pseudo, _, _, s', hid, hnb,
            .inl ⟨hnew, hlt hnew, rfl, Prod.ext (not_not.mp herr) rfl⟩, hs', hrq.symm⟩)))
      · simp only [if_neg hnew, ne_eq, not_true, if_false] at hrq
        obtain ⟨s', hs', hrq⟩ := Option.map_eq_some_iff.mp hrq
        exact .inr (.inr (.inr (.inr ⟨pseudo, _, _, s', hid, hnb,
          .inr ⟨hnew, rfl, rfl⟩, hs', hrq.symm⟩)))

/-- `subscriptions_request`: an error, for an unknown user or a feed that there is not, or an answer
with the group that the record of the feed has then. -/
lemma subscriptionsRequest_cases {rq : ClientRQCl} {h : Handled}
    (hrq : s.subscriptionsRequest env a rq = some h) :
    (∃ e, isError e.toUInt8 = true ∧
      (s.getPseudo (getId rq.header) = none ∨ s.feeds.toList.length < rq.feedNumber.toNat ∨
        rq.feedNumber = 0) ∧ h = s.fail a e) ∨
    ((s.getPseudo (getId rq.header)).isSome ∧
      0 < rq.feedNumber.toNat ∧ rq.feedNumber.toNat ≤ s.feeds.toList.length ∧
      ∃ feed s' mult, s.feeds.slot env.junkFeed rq.feedNumber.toNat = some feed ∧
        (if feed.notif.isNone then s.notifNew env rq.feedNumber.toNat (s.setMult env)
          else some s) = some s' ∧
        s'.feedMult env rq.feedNumber.toNat = some mult ∧
        h = ⟨0, s', a.append ⟨env.junk 0,
          .sb ⟨rq.header, rq.feedNumber, mult.port, mult.addr⟩⟩⟩) := by
  rw [subscriptionsRequest, getFeedsCount, FullArray.length_eq] at hrq
  split at hrq
  next hid =>
    exact .inl ⟨ERR_NOID, rfl, .inl (Option.isNone_iff_eq_none.mp hid),
      (Option.some.inj hrq).symm⟩
  next hid =>
  split at hrq
  next hnb => exact .inl ⟨ERR_FEEDNB, rfl, .inr hnb, (Option.some.inj hrq).symm⟩
  next hnb =>
    rw [not_or, not_lt] at hnb
    rw [Bool.not_eq_true, Option.isNone_eq_false_iff] at hid
    rw [feedRecord, getFeeds, FullArray.get_eq_some hnb.1, Option.bind_eq_bind,
      Option.bind_some] at hrq
    obtain ⟨feed, hfeed, hrq⟩ := Option.bind_eq_some_iff.mp hrq
    obtain ⟨s', hs', hrq⟩ := Option.bind_eq_some_iff.mp hrq
    obtain ⟨mult, hmult, hrq⟩ := Option.bind_eq_some_iff.mp hrq
    have hpos : rq.feedNumber.toNat ≠ 0 := fun h0 => hnb.2 (UInt16.toNat_inj.mp h0)
    exact .inr ⟨hid, by omega, hnb.1, feed, s', mult, hfeed, hs', hmult,
      (Option.some.inj hrq).symm⟩

/-- `last_posts_request`: an error, or an answer, and the state stays. -/
lemma lastPostsRequest_cases {rq : ClientRQCl} {h : Handled}
    (hrq : s.lastPostsRequest env a rq = some h) :
    (∃ e, isError e.toUInt8 = true ∧ h = s.fail a e) ∨ (h.code = 0 ∧ h.server = s) := by
  rw [lastPostsRequest] at hrq
  split at hrq
  next => exact .inl ⟨ERR_NOID, rfl, (Option.some.inj hrq).symm⟩
  split at hrq
  next => exact .inl ⟨ERR_FEEDNB, rfl, (Option.some.inj hrq).symm⟩
  next =>
    obtain ⟨a', -, hrq⟩ := Option.bind_eq_some_iff.mp hrq
    obtain ⟨head, -, hrq⟩ := Option.bind_eq_some_iff.mp hrq
    cases hrq
    exact .inr ⟨rfl, rfl⟩

/-- `last_posts_request` sets `d_errno` at most. -/
lemma lastPostsRequest_server {rq : ClientRQCl} {h : Handled}
    (hrq : s.lastPostsRequest env a rq = some h) : ∃ e, h.server = { s with dErrno := e } := by
  obtain ⟨e, -, rfl⟩ | ⟨-, hs⟩ := lastPostsRequest_cases hrq
  · exact ⟨e, rfl⟩
  · exact ⟨s.dErrno, hs⟩

/-- `prepare_upload_request`: an error, or a transfer for an existing feed or a new one. -/
lemma prepareUploadRequest_cases {rq : ClientRQCl} {h : Handled}
    (hrq : s.prepareUploadRequest env a rq = some h) :
    (∃ e, isError e.toUInt8 = true ∧ h = s.fail a e) ∨
    (∃ pseudo s', s.getPseudo (getId rq.header) = some pseudo ∧
      rq.feedNumber.toNat ≤ s.feeds.toList.length ∧
      s.transferNew env (getId rq.header) rq.feedNumber rq.data = some s' ∧
      h = ⟨0, s', a.append ⟨env.junk 0, .cl ⟨rq.header, rq.feedNumber, UDP_PORT⟩⟩⟩) := by
  rw [prepareUploadRequest, getFeedsCount, FullArray.length_eq] at hrq
  split at hrq
  next => exact .inl ⟨ERR_NOID, rfl, (Option.some.inj hrq).symm⟩
  next hid =>
    split at hrq
    next => exact .inl ⟨ERR_FEEDNB, rfl, (Option.some.inj hrq).symm⟩
    next hnb =>
      rw [Option.isNone_iff_eq_none] at hid
      obtain ⟨pseudo, hpseudo⟩ := Option.ne_none_iff_exists'.mp hid
      obtain ⟨s', hs', rfl⟩ := Option.map_eq_some_iff.mp hrq
      exact .inr ⟨pseudo, s', hpseudo, not_lt.mp hnb, hs', rfl⟩

lemma fileExist_eq {rq : ClientRQCl} {filePath : ℕ → UInt8}
    (h : fileExist env (write env.junk 0 (cString rq.data MAX_DATALEN ++ [0])) rq.feedNumber =
      some (true, filePath)) : filePath = downloadPath env rq := by
  simp only [fileExist] at h
  split at h
  next =>
    split at h
    next => exact (congrArg Prod.snd (Option.some.inj h)).symm
    next => cases h
  next => cases h

/-- `prepare_download_request`: an error, or a transfer of the path that was found. -/
lemma prepareDownloadRequest_cases {rq : ClientRQCl} {h : Handled}
    (hrq : s.prepareDownloadRequest env a rq = some h) :
    (∃ e, isError e.toUInt8 = true ∧ h = s.fail a e) ∨
    (∃ pseudo s', s.getPseudo (getId rq.header) = some pseudo ∧
      rq.feedNumber.toNat ≤ s.feeds.toList.length ∧
      s.transferNew env (getId rq.header) rq.feedNumber (downloadPath env rq) = some s' ∧
      h = ⟨0, s', a.append ⟨env.junk 0, .cl ⟨rq.header, rq.feedNumber, rq.count⟩⟩⟩) := by
  simp only [prepareDownloadRequest, getFeedsCount, FullArray.length_eq] at hrq
  split at hrq
  next => exact .inl ⟨ERR_NOID, rfl, (Option.some.inj hrq).symm⟩
  next hid =>
    split at hrq
    next => exact .inl ⟨ERR_FEEDNB, rfl, (Option.some.inj hrq).symm⟩
    next hnb =>
      rw [Option.isNone_iff_eq_none] at hid
      obtain ⟨pseudo, hpseudo⟩ := Option.ne_none_iff_exists'.mp hid
      split at hrq
      next =>
        obtain ⟨⟨exist, filePath⟩, hexist, hrq⟩ := Option.bind_eq_some_iff.mp hrq
        simp only at hrq
        split at hrq
        next htrue =>
          obtain ⟨s', hs', hrq⟩ := Option.bind_eq_some_iff.mp hrq
          rw [htrue] at hexist
          rw [fileExist_eq hexist] at hs'
          exact .inr ⟨pseudo, s', hpseudo, not_lt.mp hnb, hs', (Option.some.inj hrq).symm⟩
        next => exact .inl ⟨ERR_NOFILE, rfl, (Option.some.inj hrq).symm⟩
      next => cases hrq

/-- `handle_tcp_request` when the handler accepts the request. -/
lemma handleTcpRequest_of_ok {rq : ClientRQ} {h : Handled}
    (hrq : requests env { s with dErrno := NOERROR } a rq = some h) (hcode : h.code = 0) :
    s.handleTcpRequest env a rq = some ⟨0, { h.server with dErrno := NOERROR },
      h.serverrq.poke (a.addr 0) fun serverrq => { serverrq with type := rq.type }⟩ := by
  simp only [handleTcpRequest, hrq, Option.map_some, hcode, if_true]

/-- `handle_tcp_request` when the handler sets `d_errno`. -/
lemma handleTcpRequest_of_fail {rq : ClientRQ} {s' : Server} {e : UInt16}
    (hrq : requests env { s with dErrno := NOERROR } a rq = some (s'.fail a e))
    (henomem : env.enomem = false) :
    s.handleTcpRequest env a rq = some ⟨0, { s' with dErrno := e },
      a.poke (a.addr 0) fun _ => ⟨e.toUInt8, .cl ⟨e, 0, 0⟩⟩⟩ := by
  simp only [handleTcpRequest, hrq, Option.map_some, henomem]
  rfl

/-! ### What a request does to the users, the feeds and the subscriptions -/

lemma postRequest_posting {rq : ClientRQCl} {h : Handled} (hrq : s.postRequest env a rq = some h) :
    Posting env s h.server := by
  obtain ⟨-, -, rfl⟩ | ⟨-, rfl⟩ | ⟨-, -, rfl⟩ | ⟨pseudo, -, -, -, -, rfl⟩ |
    ⟨pseudo, feedNumber, s₀, s', -, -, hs₀, hs', rfl⟩ := postRequest_cases hrq
  · exact .same ⟨rfl, rfl, rfl⟩
  · exact .same ⟨rfl, rfl, rfl⟩
  · exact .same ⟨rfl, rfl, rfl⟩
  · exact .feed (newFeed_of_feedNew env s pseudo) (.refl _)
  · have hpost := newPost_of_postNew hs'
    obtain ⟨-, -, -, hnew⟩ | ⟨-, -, rfl⟩ := hs₀
    · have hfeed := newFeed_of_feedNew env s pseudo
      rw [hnew] at hfeed
      exact .feedPost hfeed hpost (.refl s')
    · exact .post hpost (.refl s')

lemma lastPostsRequest_sameStore {rq : ClientRQCl} {h : Handled}
    (hrq : s.lastPostsRequest env a rq = some h) : SameStore s h.server := by
  obtain ⟨e, he⟩ := lastPostsRequest_server hrq
  rw [he]
  exact ⟨rfl, rfl, rfl⟩

lemma prepareUploadRequest_sameStore {rq : ClientRQCl} {h : Handled}
    (hrq : s.prepareUploadRequest env a rq = some h) : SameStore s h.server := by
  obtain ⟨e, -, rfl⟩ | ⟨pseudo, s', -, -, hs', rfl⟩ := prepareUploadRequest_cases hrq
  · exact ⟨rfl, rfl, rfl⟩
  · exact transferNew_sameStore hs'

lemma prepareDownloadRequest_sameStore {rq : ClientRQCl} {h : Handled}
    (hrq : s.prepareDownloadRequest env a rq = some h) : SameStore s h.server := by
  obtain ⟨e, -, rfl⟩ | ⟨pseudo, s', -, -, hs', rfl⟩ := prepareDownloadRequest_cases hrq
  · exact ⟨rfl, rfl, rfl⟩
  · exact transferNew_sameStore hs'

/-- The handler that returned `h`, with the requests that the table gives it. -/
inductive HandledBy (env : Env) (s : Server) (a : CArray ServerRQ) (h : Handled) :
    ClientRQ → Prop
  | registration {rq : ClientRQRg} (hrq : s.registrationRequest env a rq = some h) :
      HandledBy env s a h (.rg rq)
  | post {htype : NEWPOST ≠ REGISTRATION} {rq : ClientRQCl}
      (hrq : s.postRequest env a rq = some h) : HandledBy env s a h (.cl NEWPOST htype rq)
  | lastPosts {htype : LASTPOSTS ≠ REGISTRATION} {rq : ClientRQCl}
      (hrq : s.lastPostsRequest env a rq = some h) :
      HandledBy env s a h (.cl LASTPOSTS htype rq)
  | subscriptions {htype : SUBSCRIBE ≠ REGISTRATION} {rq : ClientRQCl}
      (hrq : s.subscriptionsRequest env a rq = some h) :
      HandledBy env s a h (.cl SUBSCRIBE htype rq)
  | prepareUpload {htype : UPLOAD ≠ REGISTRATION} {rq : ClientRQCl}
      (hrq : s.prepareUploadRequest env a rq = some h) :
      HandledBy env s a h (.cl UPLOAD htype rq)
  | prepareDownload {htype : DOWNLOAD ≠ REGISTRATION} {rq : ClientRQCl}
      (hrq : s.prepareDownloadRequest env a rq = some h) :
      HandledBy env s a h (.cl DOWNLOAD htype rq)

lemma requests_cases {rq : ClientRQ} {h : Handled} (hrq : s.requests env a rq = some h) :
    HandledBy env s a h rq := by
  cases rq with
  | rg rq => exact .registration hrq
  | cl type htype rq =>
      rw [requests] at hrq
      split at hrq
      next hpost =>
        subst hpost
        exact .post hrq
      split at hrq
      next hlast =>
        subst hlast
        exact .lastPosts hrq
      split at hrq
      next hsub =>
        subst hsub
        exact .subscriptions hrq
      split at hrq
      next hup =>
        subst hup
        exact .prepareUpload hrq
      split at hrq
      next hdown =>
        subst hdown
        exact .prepareDownload hrq
      next => cases hrq

/-- What a request does that is neither a registration nor a subscription. -/
lemma requests_posting {type : UInt8} {htype : type ≠ REGISTRATION} {rq : ClientRQCl} {h : Handled}
    (hsub : type ≠ SUBSCRIBE) (hrq : s.requests env a (.cl type htype rq) = some h) :
    Posting env s h.server := by
  cases requests_cases hrq with
  | post hrq => exact postRequest_posting hrq
  | lastPosts hrq => exact .same (lastPostsRequest_sameStore hrq)
  | subscriptions hrq => exact absurd rfl hsub
  | prepareUpload hrq => exact .same (prepareUploadRequest_sameStore hrq)
  | prepareDownload hrq => exact .same (prepareDownloadRequest_sameStore hrq)

/-- A datagram of another type than `UPLOAD` is dropped, and one of that type is a packet. -/
lemma handleUploadPacket_cases {type : UInt8} {ft : FTransferRQ} {nbytes : ℕ}
    {r : UInt8 × Server} (h : s.handleUploadPacket env type ft nbytes = some r) :
    (type ≠ UPLOAD ∧ r = (0, s)) ∨ (type = UPLOAD ∧
      s.addPacket env (getId ft.header) ft.numblock ft.data (sizeSub nbytes 4) = some r) := by
  rw [handleUploadPacket] at h
  split at h
  next htype => exact .inl ⟨htype, (Option.some.inj h).symm⟩
  next htype => exact .inr ⟨not_not.mp htype, h⟩

lemma handleUploadPacket_posting {type : UInt8} {ft : FTransferRQ} {nbytes : ℕ}
    {r : UInt8 × Server} (h : s.handleUploadPacket env type ft nbytes = some r) :
    Posting env s r.2 := by
  obtain ⟨-, rfl⟩ | ⟨-, h⟩ := handleUploadPacket_cases h
  · exact .same (.refl s)
  · exact addPacket_posting h

lemma notifNew_users {s' : Server} {nbfeed : ℕ} {mult : Mult}
    (h : s.notifNew env nbfeed mult = some s') : s'.users = s.users := by
  obtain ⟨i, -, h⟩ := Option.bind_eq_some_iff.mp h
  obtain ⟨feed, -, h⟩ := Option.bind_eq_some_iff.mp h
  cases h
  rfl

/-- Only a registration changes the users. -/
lemma requests_users {type : UInt8} {htype : type ≠ REGISTRATION} {rq : ClientRQCl} {h : Handled}
    (hrq : s.requests env a (.cl type htype rq) = some h) : h.server.users = s.users := by
  by_cases hsub : type = SUBSCRIBE
  · subst hsub
    have hrq' : s.subscriptionsRequest env a rq = some h := hrq
    obtain ⟨e, -, -, rfl⟩ | ⟨-, -, -, feed, s', mult, -, hs', -, rfl⟩ :=
      subscriptionsRequest_cases hrq'
    · rfl
    · split at hs'
      · exact notifNew_users hs'
      · cases hs'
        rfl
  · exact (requests_posting hsub hrq).users_eq

/-! ### The answer to `LASTPOSTS` -/

/-- The entry of a post in an answer to `LASTPOSTS`. -/
def lpEntry (env : Env) (number : UInt16) (creator : Pseudo) (post : Post) : ServerRQ :=
  ⟨env.junk 0, .lp (serverrqLpNew env number creator post.pseudo post.datalen post.data)⟩

/-- The posts of a feed that a request selects: the last ones. -/
def lastOf (count : UInt16) (posts : List Post) : List Post :=
  posts.drop (posts.length - postsCount count posts.length)

/-- The entries of the `n` feeds from index `i` on. -/
def feedEntries (env : Env) (s : Server) (count : UInt16) (i n : ℕ) : List ServerRQ :=
  ((s.feeds.toList.drop i).take n).zipIdx i |>.flatMap fun p =>
    (lastOf count p.1.posts.toList).map (lpEntry env (UInt16.ofNat (p.2 + 1)) p.1.creator)

lemma postsCount_le (count : UInt16) (n : ℕ) : postsCount count n ≤ n := by
  rw [postsCount]
  split <;> omega

/-- The inner loop appends the entries of the posts from number `j` on. -/
lemma copyPosts_eq (env : Env) (number : UInt16) (feed : Feed) {n j : ℕ} {l : List ServerRQ}
    (h : j + n ≤ feed.posts.toList.length) (ha : a.Holds l) :
    ∃ a', copyPosts env number feed n j a = some a' ∧ a.GrowsTo a' ∧
      a'.Holds (l ++ ((feed.posts.toList.drop j).take n).map
        (lpEntry env number feed.creator)) := by
  induction n generalizing j l a with
  | zero => exact ⟨a, rfl, .refl ha.length_le, by simpa using ha⟩
  | succ n ih =>
      have hj : j < feed.posts.toList.length := by omega
      have hpost := List.getElem?_eq_getElem hj
      obtain ⟨a', hcopy, hgrows, hholds⟩ := ih (j := j + 1) (by omega)
        (ha.append (lpEntry env number feed.creator feed.posts.toList[j]))
      refine ⟨a', ?_, (ha.growsTo_append _).trans hgrows, ?_⟩
      · simp only [copyPosts, FullArray.get_eq_some hj.le, Option.bind_eq_bind, Option.bind_some,
          FullArray.at?_eq_some hpost]
        exact hcopy
      · rw [List.drop_eq_getElem_cons hj, List.take_succ_cons, List.map_cons,
          List.append_cons]
        exact hholds

/-- The outer loop appends the entries of the feeds from index `i` on. -/
lemma copyFeeds_eq (env : Env) (count : UInt16) {n i : ℕ} {l : List ServerRQ}
    (h : i + n ≤ s.feeds.toList.length) (ha : a.Holds l) :
    ∃ a', s.copyFeeds env count n i a = some a' ∧ a.GrowsTo a' ∧
      a'.Holds (l ++ s.feedEntries env count i n) := by
  induction n generalizing i l a with
  | zero => exact ⟨a, rfl, .refl ha.length_le, by simpa [feedEntries] using ha⟩
  | succ n ih =>
      have hi : i < s.feeds.toList.length := by omega
      have hfeed := List.getElem?_eq_getElem hi
      have hcount := postsCount_le count s.feeds.toList[i].posts.toList.length
      obtain ⟨a₁, hcopy₁, hgrows₁, hholds₁⟩ := copyPosts_eq env (UInt16.ofNat (i + 1))
        s.feeds.toList[i] (n := postsCount count s.feeds.toList[i].posts.toList.length)
        (j := s.feeds.toList[i].posts.toList.length -
          postsCount count s.feeds.toList[i].posts.toList.length) (by omega) ha
      obtain ⟨a', hcopy, hgrows, hholds⟩ := ih (i := i + 1) (by omega) hholds₁
      refine ⟨a', ?_, hgrows₁.trans hgrows, ?_⟩
      · simp only [copyFeeds, getFeeds, FullArray.get_eq_some hi.le, Option.bind_eq_bind,
          Option.bind_some, FullArray.at?_eq_some hfeed, FullArray.length_eq, hcopy₁]
        exact hcopy
      · rw [feedEntries, List.drop_eq_getElem_cons hi, List.take_succ_cons, List.zipIdx_cons,
          List.flatMap_cons, ← List.append_assoc]
        rw [List.take_of_length_le (by simp; omega)] at hholds
        exact hholds

/-- The index of the first feed that a request selects, and their number. -/
def selectedFeeds (s : Server) (rq : ClientRQCl) : ℕ × ℕ :=
  if rq.feedNumber = 0 then (0, (UInt16.ofNat s.feeds.toList.length).toNat)
  else (rq.feedNumber.toNat - 1, 1)

/-- The entries of the posts that a request selects. -/
def selectedEntries (env : Env) (s : Server) (rq : ClientRQCl) : List ServerRQ :=
  s.feedEntries env rq.count (s.selectedFeeds rq).1 (s.selectedFeeds rq).2

/-- The number of posts that a request selects. -/
def selectedCount (s : Server) (rq : ClientRQCl) : ℕ :=
  (((s.feeds.toList.drop (s.selectedFeeds rq).1).take (s.selectedFeeds rq).2).map fun feed =>
    postsCount rq.count feed.posts.toList.length).sum

/-- The header of the answer to a request. -/
def lastPostsHeader (s : Server) (rq : ClientRQCl) : ServerRQCl :=
  ⟨rq.header, if rq.feedNumber = 0 then UInt16.ofNat s.feeds.toList.length else rq.feedNumber,
    UInt16.ofNat (s.selectedCount rq)⟩

lemma length_lastOf (count : UInt16) (posts : List Post) :
    (lastOf count posts).length = postsCount count posts.length := by
  have := postsCount_le count posts.length
  rw [lastOf, List.length_drop]
  omega

lemma length_selectedEntries (env : Env) (s : Server) (rq : ClientRQCl) :
    (s.selectedEntries env rq).length = s.selectedCount rq := by
  rw [selectedEntries, feedEntries, selectedCount, List.length_flatMap]
  simp only [List.length_map, length_lastOf]
  generalize (s.feeds.toList.drop _).take _ = feeds
  generalize (s.selectedFeeds rq).1 = i
  induction feeds generalizing i with
  | nil => rfl
  | cons feed feeds ih =>
      rw [List.zipIdx_cons, List.map_cons, List.map_cons, List.sum_cons, List.sum_cons, ih]

lemma selectedFeeds_le {rq : ClientRQCl} (h : rq.feedNumber.toNat ≤ s.feeds.toList.length) :
    (s.selectedFeeds rq).1 + (s.selectedFeeds rq).2 ≤ s.feeds.toList.length := by
  rw [selectedFeeds]
  split
  next =>
    simp only [UInt16.toNat_ofNat', Nat.zero_add]
    exact Nat.mod_le _ _
  next hnum =>
    have hpos : rq.feedNumber.toNat ≠ 0 := fun h0 => hnum (UInt16.toNat_inj.mp h0)
    simp only
    omega

/-- The array of an answer when its first entry has been set aside for the header. -/
lemma holds_header :
    ({ CArray.arrayNew ServerRQ 0 with length := 1 } : CArray ServerRQ).Holds [CZero.zero] := by
  refine ⟨rfl, rfl, le_rfl, by decide, fun i hi => ?_⟩
  obtain rfl : i = 0 := by simpa using hi
  rfl

/-- **`last_posts_request`** stores a header and the entries of the posts that are selected. -/
lemma lastPostsRequest_eq (env : Env) {rq : ClientRQCl}
    (hid : (s.getPseudo (getId rq.header)).isSome)
    (hnb : rq.feedNumber.toNat ≤ s.feeds.toList.length) :
    ∃ a', s.lastPostsRequest env (.arrayNew ServerRQ 0) rq = some ⟨0, s, a'⟩ ∧
      ({ CArray.arrayNew ServerRQ 0 with length := 1 } : CArray ServerRQ).GrowsTo a' ∧
      a'.Holds (⟨0, .cl (s.lastPostsHeader rq)⟩ :: s.selectedEntries env rq) := by
  obtain ⟨a₁, hcopy, hgrows, hholds⟩ :=
    copyFeeds_eq env rq.count (selectedFeeds_le hnb) holds_header
  rw [← selectedEntries, List.singleton_append] at hholds
  have hhead : a₁.at? 0 = some ⟨0, .cl ⟨0, 0, 0⟩⟩ := hholds.at?_eq 0 (Nat.succ_pos _)
  refine ⟨a₁.write 0 ⟨0, .cl (s.lastPostsHeader rq)⟩, ?_,
    ⟨hgrows.length_le, hgrows.stays, hgrows.moves⟩, hholds.write 0 _⟩
  have hlength : a₁.length - 1 = s.selectedCount rq := by
    rw [hholds.length_eq, List.length_cons, length_selectedEntries]
    rfl
  rw [lastPostsRequest, if_neg (by simpa using Option.isSome_iff_ne_none.mp hid),
    if_neg (by rw [getFeedsCount, FullArray.length_eq]; omega)]
  rw [selectedFeeds] at hcopy
  by_cases hall : rq.feedNumber = 0
  · simp only [hall, if_true] at hcopy
    simp only [hall, if_true, getFeedsCount, FullArray.length_eq, hcopy, Option.bind_eq_bind,
      Option.bind_some, hhead, hlength, lastPostsHeader]
  · simp only [hall, if_false] at hcopy
    simp only [hall, if_false, UInt16.reduceToNat, hcopy, Option.bind_eq_bind,
      Option.bind_some, hhead, hlength, lastPostsHeader]

end Server

end Megaphone
