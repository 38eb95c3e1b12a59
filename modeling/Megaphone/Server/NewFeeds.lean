import Megaphone.Server.Blocks
import Megaphone.Server.EndToEnd

/-!
New feeds of the two threads: `post_request` in the thread of `tcp_server.c`, and the end of an
upload in `add_packet` in that of `udp_server.c`, in any order of their steps between two accesses
to the users and to the feeds (`data.c`).

* `NewFeeds`: the server, and where the two threads are.
* `NewFeeds.begin`, `postStep`, `receive`, `packetStep`: the functions in steps.
* `step`, `PostCase`, `PacketCase`, `StepCase`: the machine, and what a step is.
* `Own`, `Crosses`: the numbers that the threads have in hand are those of their own feeds, and the
  steps behind which they are not.
* `run_postRequest`, `run_addPacket`: the steps of one thread in a row are `post_request` and
  `add_packet`.
* `Server.postsOf`, `run_postsOf`: the posts of a feed, and those that a run stores there.
* `new_feeds_iff`: over every run.
-/

namespace Megaphone

open Memory Machine

/-! ### The state -/

/-- Where `post_request` is.

* `counted`: behind `get_feeds_count` and the checks; `named`: before `feed_new`;
* `appended`: in `feed_new`, behind the lock; `ready`: before `post_new`.

The index of the feed that it has appended is kept beside the number that it takes for the one of
the feed. -/
inductive PostLoc
  | idle
  | counted (rq : ClientRQCl) (count : ℕ)
  | named (rq : ClientRQCl) (pseudo : Pseudo) (number : UInt16)
  | appended (rq : ClientRQCl) (pseudo : Pseudo) (number : UInt16) (own : ℕ)
  | ready (rq : ClientRQCl) (pseudo : Pseudo) (number : UInt16) (own : Option ℕ)

/-- Where `add_packet` is, with the user of the slot that `infos` points to.

* `received`: behind the test that all packets are there; `named`: before the first test of
  `feed_number`;
* `appended`: in `feed_new`, behind the lock; `made`: before the second test of `feed_number`;
* `numbered`: before `post_new`; `posted`: before `write_file`;
* `returned`: `udp_server_loop` has ended.

The variable `pseudo` points into `m_known_users`, to the user that `user` points to. -/
inductive PacketLoc
  | idle
  | received (id : UInt16)
  | named (id : UInt16) (user : Ptr)
  | appended (id : UInt16) (user : Ptr) (own : ℕ)
  | made (id : UInt16) (user : Ptr) (own : Option ℕ)
  | numbered (id : UInt16) (user : Ptr) (own : Option ℕ)
  | posted (id : UInt16) (own : Option ℕ)
  | returned

/-- The server with its two threads. -/
structure NewFeeds where
  server : Server
  post : PostLoc
  packet : PacketLoc

/-- What a thread does with a number: the directory that `feed_new` looks for, a post, the number
that the client is answered, the file that is written. -/
inductive FeedEvent
  | directory (path : List UInt8)
  | post (number : UInt16) (post : Post)
  | answer (number : UInt16)
  | file (path : List UInt8)

/-- The steps.

* `begin`: `post_request` begins; `post`: it goes on;
* `receive`: `add_packet` begins; `packet`: it goes on;
* `other`: another request over TCP; `sent`: the end of a download; `timeout`:
  `check_transfers_timeout`, which takes no lock. -/
inductive FeedAct
  | begin (rq : ClientRQCl)
  | post (env : Env)
  | receive (id numblock : UInt16) (data : Block) (nbytes : ℕ)
  | packet (env : Env)
  | other (env : Env) (rq : ClientRQ)
  | sent (id : UInt16)
  | timeout (now : ℕ)

/-- The slot that the thread works on. -/
def PacketLoc.slot : PacketLoc → Option UInt16
  | .received id => some id
  | .named id _ => some id
  | .appended id _ _ => some id
  | .made id _ _ => some id
  | .numbered id _ _ => some id
  | .posted id _ => some id
  | _ => none

/-- A request that takes the lock of the transfers. -/
def ClientRQ.locksTransfers (rq : ClientRQ) : Bool := rq.type == UPLOAD || rq.type == DOWNLOAD

/-! ### The pointers of `get_pseudo` -/

namespace Server

variable {s s' : Server} {id : UInt16}

/-- The user that the result of `get_pseudo` points to. -/
def userPtr (s : Server) (id : UInt16) : Option Ptr :=
  (s.users.toList.findIdx? (·.id == id)).map s.users.toCArray.addr

/-- The pseudo that such a pointer reads: none when a registration has moved the users since. -/
def pseudoAt (s : Server) (user : Ptr) : Option Pseudo :=
  (s.users.toCArray.deref user).map (·.pseudo)

/-- `get_pseudo` is both. -/
lemma getPseudo_eq (s : Server) (id : UInt16) :
    s.getPseudo id = (s.userPtr id).bind s.pseudoAt := by
  rw [getPseudo, userPtr, List.find?_eq_bind_findIdx?_getElem?]
  cases hidx : s.users.toList.findIdx? (·.id == id) with
  | none => rfl
  | some i =>
      obtain ⟨hi, -⟩ := List.findIdx?_eq_some_iff_getElem.mp hidx
      have hget : s.users.toList[i]? = some s.users.toList[i] := List.getElem?_eq_getElem hi
      rw [Option.bind_some, Option.map_some, Option.bind_some, pseudoAt, hget,
        FullArray.deref_addr hget]

lemma pseudoAt_congr (h : s'.users = s.users) (user : Ptr) :
    s'.pseudoAt user = s.pseudoAt user := by
  rw [pseudoAt, pseudoAt, h]

end Server

namespace NewFeeds

/-! ### The steps -/

/-- `post_request`, up to its checks of the number of feeds. -/
def begin (s : NewFeeds) (rq : ClientRQCl) : NewFeeds :=
  let feedCount := s.server.getFeedsCount
  if feedCount ≥ FEED_NB_MAX ∧ rq.feedNumber = 0 then
    { s with server := { s.server with dErrno := ERR_FEEDMAX } }
  else if rq.feedNumber.toNat > feedCount then
    { s with server := { s.server with dErrno := ERR_FEEDNB } }
  else { s with post := .counted rq feedCount }

/-- `post_request`, behind the checks. -/
def postStep (env : Env) (s : NewFeeds) : Option (NewFeeds × List FeedEvent) :=
  match s.post with
  | .idle => none
  | .counted rq feedCount =>
      match s.server.getPseudo (getId rq.header) with
      | none => some ({ s with server := { s.server with dErrno := ERR_NOID }, post := .idle }, [])
      | some pseudo =>
          let post := if rq.feedNumber = 0 then .named rq pseudo (UInt16.ofNat feedCount + 1)
            else .ready rq pseudo rq.feedNumber none
          some ({ s with post := post }, [])
  | .named rq pseudo number =>
      some ({ s with server := s.server.appendFeed (Server.localFeed env pseudo)
                     post := .appended rq pseudo number s.server.feeds.length }, [])
  | .appended rq pseudo number own =>
      let path := feedPath s.server.feeds.length
      let post := if env.stat path || env.mkdir path then .ready rq pseudo number (some own)
        else .idle
      some ({ s with post := post }, [.directory path])
  | .ready rq pseudo number _ => do
      let server ← s.server.postNew env pseudo rq.datalen rq.data number.toNat
      some ({ s with server := server, post := .idle },
        [.post number (Server.localPost env pseudo rq.datalen rq.data), .answer number])

/-- `add_packet`, up to the test that all packets are there. -/
def receive (s : NewFeeds) (id numblock : UInt16) (data : Block) (nbytes : ℕ) :
    Option NewFeeds :=
  match s.server.transferFiles.get id.toNat with
  | none => some { s with packet := .returned }
  | some i => do
      let infos ← s.server.transferFiles.at? i
      if infos.active then
        let infos ← infos.record numblock data nbytes
        some { s with server := s.server.putTransfer i infos
                      packet := if infos.received then .received id else .idle }
      else some s

/-- `add_packet`, behind the test. -/
def packetStep (env : Env) (s : NewFeeds) : Option (NewFeeds × List FeedEvent) :=
  match s.packet with
  | .idle => none
  | .received id => do
      let user ← s.server.userPtr id
      some ({ s with packet := .named id user }, [])
  | .named id user => do
      let infos ← s.server.transferFiles.at? id.toNat
      if infos.feedNumber = 0 then
        let pseudo ← s.server.pseudoAt user
        some ({ s with server := s.server.appendFeed (Server.localFeed env pseudo)
                       packet := .appended id user s.server.feeds.length }, [])
      else some ({ s with packet := .made id user none }, [])
  | .appended id user own =>
      let path := feedPath s.server.feeds.length
      let packet := if env.stat path || env.mkdir path then .made id user (some own)
        else .returned
      some ({ s with packet := packet }, [.directory path])
  | .made id user own => do
      let infos ← s.server.transferFiles.at? id.toNat
      let server := if infos.feedNumber = 0 then
          s.server.putTransfer id.toNat
            { infos with feedNumber := UInt16.ofNat s.server.feeds.length }
        else s.server
      some ({ s with server := server, packet := .numbered id user own }, [])
  | .numbered id user own => do
      let infos ← s.server.transferFiles.at? id.toNat
      let fileName := Server.announcement infos
      let pseudo ← s.server.pseudoAt user
      let datalen := UInt8.ofNat fileName.length
      let server ← s.server.postNew env pseudo datalen (ofList fileName 0) infos.feedNumber.toNat
      some ({ s with server := server, packet := .posted id own },
        [.post infos.feedNumber (Server.localPost env pseudo datalen (ofList fileName 0))])
  | .posted id _ => do
      let infos ← s.server.transferFiles.at? id.toNat
      let (err, server) ← s.server.writeFile env infos
      if err ≠ 0 then some ({ s with server := server, packet := .returned }, [])
      else some ({ s with server := server.putTransfer id.toNat (transferClear infos)
                          packet := .idle }, [.file (Server.filePathOf infos)])
  | .returned => none

/-- The machine.  The thread of the connections handles one request at a time, and what takes the
lock of the transfers waits for the end of `add_packet`. -/
def step (s : NewFeeds) : FeedAct → Option (NewFeeds × List FeedEvent)
  | .begin rq => match s.post with
      | .idle => some (s.begin rq, [])
      | _ => none
  | .post env => s.postStep env
  | .receive id numblock data nbytes => match s.packet with
      | .idle => (s.receive id numblock data nbytes).map fun s => (s, [])
      | _ => none
  | .packet env => s.packetStep env
  | .other env rq => match s.post with
      | .idle =>
          if rq.type = NEWPOST ∨ (rq.locksTransfers ∧ s.packet.slot.isSome) then none
          else (s.server.handleTcpConnection env rq).map fun p => ({ s with server := p.1 }, [])
      | _ => none
  | .sent id => match s.post with
      | .idle =>
          if s.packet.slot.isSome then none
          else (s.server.idClearTransfer id).map fun server => ({ s with server := server }, [])
      | _ => none
  | .timeout now => match s.post with
      | .idle => some ({ s with server := s.server.checkTransfersTimeout now }, [])
      | _ => none

/-! ### What a step is -/

/-- All that `post_request` can do behind its checks. -/
inductive PostCase (env : Env) (s : NewFeeds) : NewFeeds → List FeedEvent → Prop
  | unknown {rq : ClientRQCl} {count : ℕ} (hloc : s.post = .counted rq count) :
      PostCase env s { s with server := { s.server with dErrno := ERR_NOID }, post := .idle } []
  | new {rq : ClientRQCl} {count : ℕ} (pseudo : Pseudo) (hloc : s.post = .counted rq count)
      (hzero : rq.feedNumber = 0) :
      PostCase env s { s with post := .named rq pseudo (UInt16.ofNat count + 1) } []
  | old {rq : ClientRQCl} {count : ℕ} (pseudo : Pseudo) (hloc : s.post = .counted rq count) :
      PostCase env s { s with post := .ready rq pseudo rq.feedNumber none } []
  | append {rq : ClientRQCl} {pseudo : Pseudo} {number : UInt16}
      (hloc : s.post = .named rq pseudo number) :
      PostCase env s { s with server := s.server.appendFeed (Server.localFeed env pseudo)
                              post := .appended rq pseudo number s.server.feeds.length } []
  | path {rq : ClientRQCl} {pseudo : Pseudo} {number : UInt16} {own : ℕ} {loc : PostLoc}
      (hloc : s.post = .appended rq pseudo number own)
      (hnext : loc = .ready rq pseudo number (some own) ∨ loc = .idle) :
      PostCase env s { s with post := loc } [.directory (feedPath s.server.feeds.length)]
  | stored {rq : ClientRQCl} {pseudo : Pseudo} {number : UInt16} {own : Option ℕ} {server : Server}
      (hloc : s.post = .ready rq pseudo number own)
      (hstore : s.server.postNew env pseudo rq.datalen rq.data number.toNat = some server) :
      PostCase env s { s with server := server, post := .idle }
        [.post number (Server.localPost env pseudo rq.datalen rq.data), .answer number]

/-- All that `add_packet` can do behind its test. -/
inductive PacketCase (env : Env) (s : NewFeeds) : NewFeeds → List FeedEvent → Prop
  | user {id : UInt16} {user : Ptr} (hloc : s.packet = .received id)
      (huser : s.server.userPtr id = some user) :
      PacketCase env s { s with packet := .named id user } []
  | new {id : UInt16} {user : Ptr} {infos : FileTransferInfos} {pseudo : Pseudo}
      (hloc : s.packet = .named id user)
      (hat : s.server.transferFiles.at? id.toNat = some infos) (hzero : infos.feedNumber = 0)
      (hpseudo : s.server.pseudoAt user = some pseudo) :
      PacketCase env s { s with server := s.server.appendFeed (Server.localFeed env pseudo)
                                packet := .appended id user s.server.feeds.length } []
  | old {id : UInt16} {user : Ptr} {infos : FileTransferInfos}
      (hloc : s.packet = .named id user)
      (hat : s.server.transferFiles.at? id.toNat = some infos) (hne : infos.feedNumber ≠ 0) :
      PacketCase env s { s with packet := .made id user none } []
  | path {id : UInt16} {user : Ptr} {own : ℕ} {loc : PacketLoc}
      (hloc : s.packet = .appended id user own)
      (hnext : loc = .made id user (some own) ∨ loc = .returned) :
      PacketCase env s { s with packet := loc } [.directory (feedPath s.server.feeds.length)]
  | number {id : UInt16} {user : Ptr} {own : Option ℕ} {infos : FileTransferInfos}
      (hloc : s.packet = .made id user own)
      (hat : s.server.transferFiles.at? id.toNat = some infos) (hzero : infos.feedNumber = 0) :
      PacketCase env s { s with
        server := s.server.putTransfer id.toNat
          { infos with feedNumber := UInt16.ofNat s.server.feeds.length }
        packet := .numbered id user own } []
  | numbered {id : UInt16} {user : Ptr} {own : Option ℕ} {infos : FileTransferInfos}
      (hloc : s.packet = .made id user own)
      (hat : s.server.transferFiles.at? id.toNat = some infos) (hne : infos.feedNumber ≠ 0) :
      PacketCase env s { s with packet := .numbered id user own } []
  | stored {id : UInt16} {user : Ptr} {own : Option ℕ} {infos : FileTransferInfos}
      {pseudo : Pseudo} {datalen : UInt8} {data : ℕ → UInt8} {server : Server}
      (hloc : s.packet = .numbered id user own)
      (hat : s.server.transferFiles.at? id.toNat = some infos)
      (hpseudo : s.server.pseudoAt user = some pseudo)
      (hstore : s.server.postNew env pseudo datalen data infos.feedNumber.toNat = some server) :
      PacketCase env s { s with server := server, packet := .posted id own }
        [.post infos.feedNumber (Server.localPost env pseudo datalen data)]
  | failed {id : UInt16} {own : Option ℕ} {infos : FileTransferInfos} {r : UInt8 × Server}
      (hloc : s.packet = .posted id own)
      (hat : s.server.transferFiles.at? id.toNat = some infos)
      (hwrite : s.server.writeFile env infos = some r) :
      PacketCase env s { s with server := r.2, packet := .returned } []
  | written {id : UInt16} {own : Option ℕ} {infos : FileTransferInfos} {r : UInt8 × Server}
      (hloc : s.packet = .posted id own)
      (hat : s.server.transferFiles.at? id.toNat = some infos)
      (hwrite : s.server.writeFile env infos = some r) :
      PacketCase env s { s with server := r.2.putTransfer id.toNat (transferClear infos)
                                packet := .idle } [.file (Server.filePathOf infos)]

variable {env : Env} {s s' : NewFeeds} {out : List FeedEvent}

lemma postStep_cases (h : s.postStep env = some (s', out)) : PostCase env s s' out := by
  rw [postStep] at h
  split at h
  next => cases h
  next rq count hloc =>
    split at h
    next =>
      cases h
      exact .unknown hloc
    next pseudo _ =>
      cases h
      by_cases hzero : rq.feedNumber = 0
      · simp only [if_pos hzero]
        exact .new pseudo hloc hzero
      · simp only [if_neg hzero]
        exact .old pseudo hloc
  next rq pseudo number hloc =>
    cases h
    exact .append hloc
  next rq pseudo number own hloc =>
    cases h
    refine .path hloc ?_
    split
    · exact .inl rfl
    · exact .inr rfl
  next rq pseudo number own hloc =>
    obtain ⟨server, hstore, h⟩ := Option.bind_eq_some_iff.mp h
    cases h
    exact .stored hloc hstore

lemma packetStep_cases (h : s.packetStep env = some (s', out)) : PacketCase env s s' out := by
  rw [packetStep] at h
  split at h
  next => cases h
  next id hloc =>
    obtain ⟨user, huser, h⟩ := Option.bind_eq_some_iff.mp h
    cases h
    exact .user hloc huser
  next id user hloc =>
    obtain ⟨infos, hat, h⟩ := Option.bind_eq_some_iff.mp h
    split at h
    next hzero =>
      obtain ⟨pseudo, hpseudo, h⟩ := Option.bind_eq_some_iff.mp h
      cases h
      exact .new hloc hat hzero hpseudo
    next hne =>
      cases h
      exact .old hloc hat hne
  next id user own hloc =>
    cases h
    refine .path hloc ?_
    split
    · exact .inl rfl
    · exact .inr rfl
  next id user own hloc =>
    obtain ⟨infos, hat, h⟩ := Option.bind_eq_some_iff.mp h
    cases h
    by_cases hzero : infos.feedNumber = 0
    · simp only [if_pos hzero]
      exact .number hloc hat hzero
    · simp only [if_neg hzero]
      exact .numbered hloc hat hzero
  next id user own hloc =>
    obtain ⟨infos, hat, h⟩ := Option.bind_eq_some_iff.mp h
    obtain ⟨pseudo, hpseudo, h⟩ := Option.bind_eq_some_iff.mp h
    obtain ⟨server, hstore, h⟩ := Option.bind_eq_some_iff.mp h
    cases h
    exact .stored hloc hat hpseudo hstore
  next id own hloc =>
    obtain ⟨infos, hat, h⟩ := Option.bind_eq_some_iff.mp h
    obtain ⟨⟨err, server⟩, hwrite, h⟩ := Option.bind_eq_some_iff.mp h
    simp only at h
    split at h
    next =>
      cases h
      exact .failed hloc hat hwrite
    next =>
      cases h
      exact .written hloc hat hwrite
  next => cases h

/-- The checks of the number of feeds: an error, or the number. -/
lemma begin_cases (s : NewFeeds) (rq : ClientRQCl) :
    (∃ e, s.begin rq = { s with server := { s.server with dErrno := e } }) ∨
      (s.begin rq = { s with post := .counted rq s.server.feeds.toList.length } ∧
        (rq.feedNumber = 0 → s.server.feeds.toList.length < FEED_NB_MAX)) := by
  rw [begin, Server.getFeedsCount, FullArray.length_eq]
  split
  next => exact .inl ⟨_, rfl⟩
  next hmax =>
    split
    · exact .inl ⟨_, rfl⟩
    · exact .inr ⟨rfl, fun hzero => not_le.mp fun hge => hmax ⟨hge, hzero⟩⟩

/-- A packet that is not the last one of its transfer, or is: the slot is still active. -/
lemma receive_cases {id numblock : UInt16} {data : Block} {nbytes : ℕ}
    (h : s.receive id numblock data nbytes = some s') :
    s' = s ∨ s' = { s with packet := .returned } ∨ ∃ infos, infos.active = true ∧
      id.toNat < s.server.transferFiles.slots.length ∧
      (s' = { s with server := s.server.putTransfer id.toNat infos, packet := .received id } ∨
        s' = { s with server := s.server.putTransfer id.toNat infos, packet := .idle }) := by
  rw [receive] at h
  split at h
  next =>
    cases h
    exact .inr (.inl rfl)
  next i hget =>
    obtain rfl := CArray.eq_of_get hget
    obtain ⟨infos, hat, h⟩ := Option.bind_eq_some_iff.mp h
    split at h
    next hactive =>
      obtain ⟨infos', hrecord, h⟩ := Option.bind_eq_some_iff.mp h
      cases h
      refine .inr (.inr ⟨infos', ?_, CArray.lt_of_at? hat, ?_⟩)
      · rw [(FileTransferInfos.record_keeps hrecord).1, hactive]
      · split
        · exact .inl rfl
        · exact .inr rfl
    next =>
      cases h
      exact .inl rfl

/-- What a step is, one case for each action. -/
inductive StepCase (s : NewFeeds) : FeedAct → NewFeeds → List FeedEvent → Prop
  | begin (rq : ClientRQCl) (hloc : s.post = .idle) : StepCase s (.begin rq) (s.begin rq) []
  | post {env : Env} {s' : NewFeeds} {out : List FeedEvent} (h : PostCase env s s' out) :
      StepCase s (.post env) s' out
  | receive {id numblock : UInt16} {data : Block} {nbytes : ℕ} {s' : NewFeeds}
      (hloc : s.packet = .idle) (h : s.receive id numblock data nbytes = some s') :
      StepCase s (.receive id numblock data nbytes) s' []
  | packet {env : Env} {s' : NewFeeds} {out : List FeedEvent} (h : PacketCase env s s' out) :
      StepCase s (.packet env) s' out
  | other {env : Env} {rq : ClientRQ} {server : Server} {ans : Answer} (hne : rq.type ≠ NEWPOST)
      (hlock : s.packet.slot.isSome → rq.locksTransfers = false)
      (h : s.server.handleTcpConnection env rq = some (server, ans)) :
      StepCase s (.other env rq) { s with server := server } []
  | sent {id : UInt16} {server : Server} (hslot : s.packet.slot = none)
      (h : s.server.idClearTransfer id = some server) :
      StepCase s (.sent id) { s with server := server } []
  | timeout (now : ℕ) :
      StepCase s (.timeout now) { s with server := s.server.checkTransfersTimeout now } []

lemma step_cases {a : FeedAct} (h : s.step a = some (s', out)) : StepCase s a s' out := by
  cases a with
  | «begin» rq =>
      simp only [step] at h
      split at h
      next hloc =>
        cases h
        exact .begin rq hloc
      next => cases h
  | post env => exact .post (postStep_cases h)
  | receive id numblock data nbytes =>
      simp only [step] at h
      split at h
      next hloc =>
        obtain ⟨s₁, hs₁, heq⟩ := Option.map_eq_some_iff.mp h
        cases heq
        exact .receive hloc hs₁
      next => cases h
  | packet env => exact .packet (packetStep_cases h)
  | other env rq =>
      simp only [step] at h
      split at h
      next =>
        split at h
        next => cases h
        next hfree =>
          obtain ⟨⟨server, ans⟩, hconn, heq⟩ := Option.map_eq_some_iff.mp h
          cases heq
          rw [not_or, not_and] at hfree
          refine .other hfree.1 (fun hslot => ?_) hconn
          by_contra hlock
          exact hfree.2 (by simpa using hlock) hslot
      next => cases h
  | sent id =>
      simp only [step] at h
      split at h
      next =>
        split at h
        next => cases h
        next hslot =>
          obtain ⟨server, hclear, heq⟩ := Option.map_eq_some_iff.mp h
          cases heq
          exact .sent (by simpa using hslot) hclear
      next => cases h
  | timeout now =>
      simp only [step] at h
      split at h
      next =>
        cases h
        exact .timeout now
      next => cases h

end NewFeeds

/-! ### Other requests -/

namespace Server

variable {env : Env} {s s' : Server} {rq : ClientRQ} {ans : Answer}

/-- A request that is not a post leaves the feeds, as feeds of the log. -/
lemma handleTcpConnection_feeds (hne : rq.type ≠ NEWPOST)
    (h : s.handleTcpConnection env rq = some (s', ans)) :
    s'.feeds.toList.map Feed.toLog = s.feeds.toList.map Feed.toLog := by
  by_cases hlog : rq.IsLog
  · obtain ⟨r, e, hrq, rfl⟩ := handleTcpConnection_server h
    cases rq with
    | rg rq =>
        obtain ⟨-, rfl⟩ | ⟨-, id, -, rfl⟩ := registrationRequest_cases hrq
        · rfl
        · rfl
    | cl type htype rq =>
        obtain hrg | hpost | hlast := hlog
        · exact absurd hrg htype
        · exact absurd hpost hne
        · obtain rfl : type = LASTPOSTS := hlast
          exact congrArg (·.toList.map Feed.toLog) (lastPostsRequest_sameStore hrq).feeds_eq
  · exact (handleTcpConnection_sameLog hlog h).feeds_eq

/-- A request that does not take the lock of the transfers leaves them. -/
lemma handleTcpConnection_transferFiles (hlock : rq.locksTransfers = false)
    (h : s.handleTcpConnection env rq = some (s', ans)) :
    s'.transferFiles = s.transferFiles := by
  obtain ⟨r, e, hrq, rfl⟩ := handleTcpConnection_server h
  obtain heq | ⟨type, htype, rq', fileName, e', rfl, hup, -⟩ := requests_transferFiles hrq
  · exact heq
  · rw [ClientRQ.locksTransfers, Bool.or_eq_false_iff] at hlock
    obtain ⟨rfl, -⟩ | ⟨rfl, -⟩ := hup
    · exact absurd hlock.1 (by simp [ClientRQ.type])
    · exact absurd hlock.2 (by simp [ClientRQ.type])

lemma length_feeds_of_toLog (h : s'.feeds.toList.map Feed.toLog = s.feeds.toList.map Feed.toLog) :
    s'.feeds.toList.length = s.feeds.toList.length := by
  simpa using congrArg List.length h

lemma length_feeds_appendFeed (s : Server) (feed : Feed) :
    (s.appendFeed feed).feeds.toList.length = s.feeds.toList.length + 1 := by
  simp [appendFeed]

lemma length_feeds_postNew {pseudo : Pseudo} {datalen : UInt8} {data : ℕ → UInt8} {n : ℕ}
    (h : s.postNew env pseudo datalen data n = some s') :
    s'.feeds.toList.length = s.feeds.toList.length := by
  obtain ⟨feed, -, rfl⟩ := postNew_eq_some h
  simp [appendPost]

end Server

/-! ### Numbers of feeds -/

/-- A number has been read for a new feed that has not been made, or the directory of the feed has
not been looked for. -/
def PostLoc.Holds : PostLoc → Prop
  | .counted rq _ => rq.feedNumber = 0
  | .named .. => True
  | .appended .. => True
  | _ => False

/-- A feed has been made whose number has not been read. -/
def PacketLoc.Holds : PacketLoc → Prop
  | .appended .. => True
  | .made _ _ (some _) => True
  | _ => False

/-- What `post_request` has in hand, when there are `n` feeds, is the number of its own feed. -/
def PostLoc.Own (n : ℕ) : PostLoc → Prop
  | .counted rq count => rq.feedNumber = 0 → count = n ∧ n < 65535
  | .named _ _ number => number.toNat = n + 1
  | .appended _ _ number own => n = own + 1 ∧ number.toNat = own + 1
  | .ready _ _ number (some own) => number.toNat = own + 1
  | _ => True

/-- What the slot has as its feed is the number of the feed of `add_packet`. -/
def PacketLoc.Numbered (number : UInt16) : Option ℕ → Prop
  | some own => number.toNat = own + 1
  | none => number ≠ 0

/-- Before the number of a new feed is read, it is that of the last feed. -/
def PacketLoc.Numbers (n : ℕ) (number : UInt16) : PacketLoc → Prop
  | .appended _ _ own => number = 0 ∧ n = own + 1 ∧ n < 65536
  | .made _ _ (some own) => number = 0 ∧ n = own + 1 ∧ n < 65536
  | .made _ _ none => number ≠ 0
  | .numbered _ _ own => Numbered number own
  | .posted _ own => Numbered number own
  | _ => True

/-- The slot that `add_packet` works on is active, with the number of the feed of its own. -/
def PacketLoc.Own (s : Server) (loc : PacketLoc) : Prop :=
  ∀ id, loc.slot = some id → ∃ infos, s.transferFiles.at? id.toNat = some infos ∧
    infos.active = true ∧ loc.Numbers s.feeds.toList.length infos.feedNumber

/-- Both threads have the numbers of their own feeds in hand. -/
structure NewFeeds.Own (s : NewFeeds) : Prop where
  post : s.post.Own s.server.feeds.toList.length
  packet : s.packet.Own s.server

/-- A transition of the two threads. -/
abbrev FeedTransition := Transition NewFeeds FeedAct (List FeedEvent)

/-- A feed is made. -/
def FeedTransition.Appends (t : FeedTransition) : Prop :=
  t.post.server.feeds.toList.length ≠ t.pre.server.feeds.toList.length

/-- One thread makes a feed between the reading of the number and the making of the feed of the
other, or the other way around; the slot of a transfer is cleared while its file is announced; or
there are too many feeds for a `uint16_t`. -/
inductive Crosses (t : FeedTransition) : Prop
  | post {env : Env} (hact : t.act = .post env) (happends : t.Appends) (hhold : t.pre.packet.Holds)
  | packet {env : Env} (hact : t.act = .packet env) (happends : t.Appends)
      (hhold : t.pre.post.Holds)
  | timeout {now : ℕ} {id : UInt16} (hact : t.act = .timeout now)
      (hslot : t.pre.packet.slot = some id)
      (hclear : ∀ infos, t.post.server.transferFiles.at? id.toNat = some infos →
        infos.active = false)
  | postLimit {rq : ClientRQCl} (hact : t.act = .begin rq) (hzero : rq.feedNumber = 0)
      (hlimit : t.pre.server.feeds.toList.length = 65535)
  | packetLimit {env : Env} (hact : t.act = .packet env) (happends : t.Appends)
      (hlimit : 65535 ≤ t.pre.server.feeds.toList.length)

/-! ### What keeps the numbers -/

/-- The number of feeds matters only while a thread holds on to it. -/
lemma PostLoc.Own.congr {loc : PostLoc} {n n' : ℕ} (h : loc.Own n) (hn : loc.Holds → n' = n) :
    loc.Own n' := by
  cases loc with
  | counted rq count =>
      intro hzero
      rw [hn hzero]
      exact h hzero
  | named => rwa [hn trivial]
  | appended => rwa [hn trivial]
  | ready rq pseudo number own => cases own <;> exact h
  | idle => trivial

lemma PostLoc.Own.eq_of_holds {loc : PostLoc} {n n' : ℕ} (h : loc.Own n) (h' : loc.Own n')
    (hhold : loc.Holds) : n' = n := by
  cases loc with
  | counted rq count => exact (h' hhold).1.symm.trans (h hhold).1
  | named _ _ number =>
      have hn : number.toNat = n + 1 := h
      have hn' : number.toNat = n' + 1 := h'
      omega
  | appended => exact h'.1.trans h.1.symm
  | _ => exact hhold.elim

lemma PacketLoc.Numbers.congr {loc : PacketLoc} {n n' : ℕ} {number : UInt16}
    (h : loc.Numbers n number) (hn : loc.Holds → n' = n) : loc.Numbers n' number := by
  cases loc with
  | appended => rwa [hn trivial]
  | made id pseudo own =>
      cases own with
      | none => exact h
      | some own => rwa [hn trivial]
  | _ => exact h

lemma PacketLoc.Numbers.eq_of_holds {loc : PacketLoc} {n n' : ℕ} {number number' : UInt16}
    (h : loc.Numbers n number) (h' : loc.Numbers n' number') (hhold : loc.Holds) : n' = n := by
  cases loc with
  | appended => exact h'.2.1.trans h.2.1.symm
  | made id pseudo own =>
      cases own with
      | none => exact hhold.elim
      | some own => exact h'.2.1.trans h.2.1.symm
  | _ => exact hhold.elim

/-- Nor does anything but the slot. -/
lemma PacketLoc.Own.congr {loc : PacketLoc} {s s' : Server} (h : loc.Own s)
    (hlength : loc.Holds → s'.feeds.toList.length = s.feeds.toList.length)
    (hslot : loc.slot.isSome → s'.transferFiles = s.transferFiles) : loc.Own s' := by
  intro id hid
  obtain ⟨infos, hat, hactive, hnumbers⟩ := h id hid
  rw [hslot (by rw [hid]; rfl)]
  exact ⟨infos, hat, hactive, hnumbers.congr hlength⟩

/-- A thread that holds on to the number of feeds is at work on a slot. -/
lemma PacketLoc.Holds.exists_slot {loc : PacketLoc} (h : loc.Holds) : ∃ id, loc.slot = some id := by
  cases loc with
  | appended id => exact ⟨id, rfl⟩
  | made id => exact ⟨id, rfl⟩
  | _ => exact h.elim

lemma PacketLoc.Own.eq_of_holds {loc : PacketLoc} {s s' : Server} (h : loc.Own s) (h' : loc.Own s')
    (hhold : loc.Holds) : s'.feeds.toList.length = s.feeds.toList.length := by
  obtain ⟨id, hid⟩ := hhold.exists_slot
  obtain ⟨infos, -, -, hnumbers⟩ := h id hid
  obtain ⟨infos', -, -, hnumbers'⟩ := h' id hid
  exact hnumbers.eq_of_holds hnumbers' hhold

lemma PacketLoc.own_of_slot_eq_none {loc : PacketLoc} (h : loc.slot = none) (s : Server) :
    loc.Own s := by
  intro id hid
  rw [h] at hid
  cases hid

lemma PacketLoc.own_of_at? {loc : PacketLoc} {s : Server} {id : UInt16} (hid : loc.slot = some id)
    {infos : FileTransferInfos} (hat : s.transferFiles.at? id.toNat = some infos)
    (hactive : infos.active = true)
    (hnumbers : loc.Numbers s.feeds.toList.length infos.feedNumber) : loc.Own s := by
  intro id' hid'
  obtain rfl := Option.some.inj (hid.symm.trans hid')
  exact ⟨infos, hat, hactive, hnumbers⟩

namespace NewFeeds

variable {env : Env} {s s' : NewFeeds} {out : List FeedEvent}

/-! ### The steps of `post_request` -/

lemma PostCase.packet_eq (h : PostCase env s s' out) : s'.packet = s.packet := by
  cases h <;> rfl

lemma PostCase.transferFiles_eq (h : PostCase env s s' out) :
    s'.server.transferFiles = s.server.transferFiles := by
  cases h with
  | stored _ hstore => exact Server.transferFiles_postNew hstore
  | _ => rfl

/-- The number that `post_request` takes is that of the feed that it makes. -/
lemma PostCase.own_post (h : PostCase env s s' out) (hs : s.Own) :
    s'.post.Own s'.server.feeds.toList.length := by
  have hpost := hs.post
  cases h with
  | unknown => trivial
  | @new rq count pseudo hloc hzero =>
      rw [hloc] at hpost
      obtain ⟨hcount, hlt⟩ := hpost hzero
      show (UInt16.ofNat count + 1).toNat = _
      rw [hcount, UInt16.toNat_add, UInt16.toNat_ofNat']
      change (s.server.feeds.toList.length % 2 ^ 16 + 1) % 2 ^ 16 = _
      rw [Nat.mod_eq_of_lt (by omega), Nat.mod_eq_of_lt (by omega)]
  | old => trivial
  | append hloc =>
      rw [hloc] at hpost
      refine ⟨?_, ?_⟩
      · rw [Server.length_feeds_appendFeed, FullArray.length_eq]
      · rw [FullArray.length_eq]
        exact hpost
  | path hloc hnext =>
      rw [hloc] at hpost
      obtain rfl | rfl := hnext
      · exact hpost.2
      · trivial
  | stored => trivial

/-- **The thread of `post_request`** keeps the numbers, unless it makes a feed while the other one
holds on to theirs. -/
lemma PostCase.own (h : PostCase env s s' out) (hs : s.Own)
    (hfree : s'.server.feeds.toList.length ≠ s.server.feeds.toList.length → ¬s.packet.Holds) :
    s'.Own := by
  refine ⟨h.own_post hs, ?_⟩
  rw [h.packet_eq]
  refine hs.packet.congr (fun hhold => ?_) fun _ => h.transferFiles_eq
  by_contra hne
  exact hfree hne hhold

/-! ### The steps of `add_packet` -/

lemma PacketCase.post_eq (h : PacketCase env s s' out) : s'.post = s.post := by
  cases h <;> rfl

/-- What the slot that `add_packet` works on holds. -/
lemma Own.slot (hs : s.Own) {loc : PacketLoc} (hloc : s.packet = loc) {id : UInt16}
    (hid : loc.slot = some id) {infos : FileTransferInfos}
    (hat : s.server.transferFiles.at? id.toNat = some infos) :
    infos.active = true ∧ loc.Numbers s.server.feeds.toList.length infos.feedNumber := by
  obtain ⟨infos', hat', h⟩ := hs.packet id (by rw [hloc, hid])
  obtain rfl := Option.some.inj (hat.symm.trans hat')
  rwa [hloc] at h

/-- The number that the slot is given is that of the feed that `add_packet` makes. -/
lemma PacketCase.own_packet (h : PacketCase env s s' out) (hs : s.Own)
    (hlimit : s'.server.feeds.toList.length ≠ s.server.feeds.toList.length →
      s.server.feeds.toList.length < 65535) : s'.packet.Own s'.server := by
  cases h with
  | @user id user hloc huser =>
      obtain ⟨infos, hat, hactive, -⟩ := hs.packet id (by rw [hloc]; rfl)
      exact PacketLoc.own_of_at? rfl hat hactive trivial
  | new hloc hat hzero =>
      obtain ⟨hactive, -⟩ := hs.slot hloc rfl hat
      rw [Server.length_feeds_appendFeed] at hlimit
      have hlt := hlimit (by omega)
      refine PacketLoc.own_of_at? rfl hat hactive ⟨hzero, ?_, ?_⟩
      · rw [Server.length_feeds_appendFeed, FullArray.length_eq]
      · rw [Server.length_feeds_appendFeed]
        omega
  | old hloc hat hne => exact PacketLoc.own_of_at? rfl hat (hs.slot hloc rfl hat).1 hne
  | @path id user own loc hloc hnext =>
      obtain ⟨infos, hat, hactive, hnumbers⟩ := hs.packet id (by rw [hloc]; rfl)
      rw [hloc] at hnumbers
      obtain rfl | rfl := hnext
      · exact PacketLoc.own_of_at? rfl hat hactive hnumbers
      · exact PacketLoc.own_of_slot_eq_none rfl _
  | @number id user own infos hloc hat hzero =>
      obtain ⟨hactive, hnumbers⟩ := hs.slot hloc rfl hat
      refine PacketLoc.own_of_at? rfl (CArray.at?_write_self _ _ (CArray.lt_of_at? hat)) hactive ?_
      cases own with
      | none => exact absurd hzero hnumbers
      | some own =>
          obtain ⟨-, hlength, hlt⟩ := hnumbers
          show (UInt16.ofNat _).toNat = own + 1
          rw [FullArray.length_eq, UInt16.toNat_ofNat', Nat.mod_eq_of_lt hlt, hlength]
  | @numbered id user own infos hloc hat hne =>
      obtain ⟨hactive, hnumbers⟩ := hs.slot hloc rfl hat
      refine PacketLoc.own_of_at? rfl hat hactive ?_
      cases own with
      | none => exact hne
      | some own => exact absurd hnumbers.1 hne
  | stored hloc hat _ hstore =>
      obtain ⟨hactive, hnumbers⟩ := hs.slot hloc rfl hat
      rw [← Server.transferFiles_postNew hstore] at hat
      exact PacketLoc.own_of_at? rfl hat hactive hnumbers
  | failed => exact PacketLoc.own_of_slot_eq_none rfl _
  | written => exact PacketLoc.own_of_slot_eq_none rfl _

/-- **The thread of `add_packet`** keeps the numbers, unless it makes a feed while the other one
holds on to theirs, or one too many. -/
lemma PacketCase.own (h : PacketCase env s s' out) (hs : s.Own)
    (hfree : s'.server.feeds.toList.length ≠ s.server.feeds.toList.length → ¬s.post.Holds)
    (hlimit : s'.server.feeds.toList.length ≠ s.server.feeds.toList.length →
      s.server.feeds.toList.length < 65535) : s'.Own := by
  refine ⟨?_, h.own_packet hs hlimit⟩
  rw [h.post_eq]
  refine hs.post.congr fun hhold => ?_
  by_contra hne
  exact hfree hne hhold

/-! ### The other steps -/

/-- A step that makes no feed and leaves the place of `add_packet` and its slot. -/
lemma Own.of_quiet (hs : s.Own) (hpost : s'.post = s.post) (hpacket : s'.packet = s.packet)
    (hlength : s'.server.feeds.toList.length = s.server.feeds.toList.length)
    (hslot : s.packet.slot.isSome → s'.server.transferFiles = s.server.transferFiles) : s'.Own := by
  refine ⟨?_, ?_⟩
  · rw [hpost, hlength]
    exact hs.post
  · rw [hpacket]
    exact hs.packet.congr (fun _ => hlength) hslot

lemma own_begin (hs : s.Own) (rq : ClientRQCl)
    (hlimit : rq.feedNumber = 0 → s.server.feeds.toList.length ≠ 65535) : (s.begin rq).Own := by
  obtain ⟨e, heq⟩ | ⟨heq, hlt⟩ := s.begin_cases rq
  · rw [heq]
    exact hs.of_quiet rfl rfl rfl fun _ => rfl
  · rw [heq]
    refine ⟨fun hzero => ⟨rfl, ?_⟩, hs.packet⟩
    have hne := hlimit hzero
    have hlt := hlt hzero
    rw [FEED_NB_MAX] at hlt
    show s.server.feeds.toList.length < 65535
    omega

lemma own_receive (hs : s.Own) (hloc : s.packet = .idle) {id numblock : UInt16} {data : Block}
    {nbytes : ℕ} (h : s.receive id numblock data nbytes = some s') : s'.Own := by
  obtain rfl | rfl | ⟨infos, hactive, hlt, rfl | rfl⟩ := receive_cases h
  · exact hs
  · exact ⟨hs.post, PacketLoc.own_of_slot_eq_none rfl _⟩
  · exact ⟨hs.post, PacketLoc.own_of_at? rfl (CArray.at?_write_self _ infos hlt) hactive trivial⟩
  · exact ⟨hs.post, PacketLoc.own_of_slot_eq_none rfl _⟩

/-- A check of the transfers that does not clear the one that `add_packet` works on. -/
lemma own_timeout (hs : s.Own) (now : ℕ) (hkept : ∀ id, s.packet.slot = some id →
      ∃ infos, (s.server.checkTransfersTimeout now).transferFiles.at? id.toNat = some infos ∧
        infos.active = true) :
    NewFeeds.Own { s with server := s.server.checkTransfersTimeout now } := by
  refine ⟨hs.post, fun id hid => ?_⟩
  obtain ⟨infos, hat, hactive⟩ := hkept id hid
  obtain heq | ⟨old, -, hclear⟩ := s.server.at?_checkTransfersTimeout now id.toNat
  · obtain ⟨infos', hat', h⟩ := hs.packet id hid
    exact ⟨infos', heq.trans hat', h⟩
  · rw [hclear] at hat
    cases hat
    cases hactive

/-! ### Every step -/

variable {a : FeedAct}

/-- Behind a step of these kinds, some number is not that of its own feed. -/
lemma not_own_of_crosses (hs : s.Own) (h : s.step a = some (s', out))
    (hcrosses : Crosses ⟨s, a, out, s'⟩) : ¬s'.Own := by
  intro hs'
  cases hcrosses with
  | post hact happends hhold =>
      obtain rfl : a = _ := hact
      cases step_cases h with
      | post hcase =>
          refine happends (hs.packet.eq_of_holds ?_ hhold)
          rw [← hcase.packet_eq]
          exact hs'.packet
  | packet hact happends hhold =>
      obtain rfl : a = _ := hact
      cases step_cases h with
      | packet hcase =>
          refine happends (hs.post.eq_of_holds ?_ hhold)
          rw [← hcase.post_eq]
          exact hs'.post
  | timeout hact hslot hclear =>
      obtain rfl : a = _ := hact
      cases step_cases h with
      | timeout now =>
          obtain ⟨infos, hat, hactive, -⟩ := hs'.packet _ hslot
          rw [hclear infos hat] at hactive
          cases hactive
  | @postLimit rq hact hzero hlimit =>
      obtain rfl : a = _ := hact
      cases step_cases h with
      | «begin» rq hloc =>
          have hpost := hs'.post
          rw [begin, Server.getFeedsCount, FullArray.length_eq, if_neg, if_neg] at hpost
          · exact absurd (hpost hzero).2 (by
              show ¬s.server.feeds.toList.length < 65535
              exact hlimit.ge.not_gt)
          · rw [hzero]
            exact Nat.not_lt_zero _
          · rintro ⟨hmax, -⟩
            rw [FEED_NB_MAX] at hmax
            change s.server.feeds.toList.length = 65535 at hlimit
            omega
  | packetLimit hact happends hlimit =>
      obtain rfl : a = _ := hact
      cases step_cases h with
      | packet hcase =>
          cases hcase with
          | @new id user infos pseudo hloc hat hzero hpseudo =>
              obtain ⟨infos', -, -, -, -, hlt⟩ := hs'.packet id rfl
              rw [Server.length_feeds_appendFeed] at hlt
              change 65535 ≤ s.server.feeds.toList.length at hlimit
              omega
          | stored _ _ _ hstore => exact happends (Server.length_feeds_postNew hstore)
          | failed _ _ hwrite =>
              exact happends (by rw [(Server.writeFile_sameStore hwrite).feeds_eq])
          | written _ _ hwrite =>
              refine happends ?_
              show (Server.putTransfer _ _ _).feeds.toList.length = _
              rw [Server.putTransfer, (Server.writeFile_sameStore hwrite).feeds_eq]
          | _ => exact happends rfl

/-- Every other step keeps the numbers. -/
lemma own_step (hs : s.Own) (h : s.step a = some (s', out))
    (hcrosses : ¬Crosses ⟨s, a, out, s'⟩) : s'.Own := by
  cases step_cases h with
  | «begin» rq hloc =>
      exact own_begin hs rq fun hzero hlimit => hcrosses (.postLimit rfl hzero hlimit)
  | post hcase =>
      exact hcase.own hs fun happends hhold => hcrosses (.post rfl happends hhold)
  | receive hloc hreceive => exact own_receive hs hloc hreceive
  | packet hcase =>
      refine hcase.own hs (fun happends hhold => hcrosses (.packet rfl happends hhold)) ?_
      intro happends
      by_contra hlimit
      exact hcrosses (.packetLimit rfl happends (not_lt.mp hlimit))
  | other hne hlock hconn =>
      exact hs.of_quiet rfl rfl
        (Server.length_feeds_of_toLog (Server.handleTcpConnection_feeds hne hconn))
        fun hslot => Server.handleTcpConnection_transferFiles (hlock hslot) hconn
  | sent hslot hclear =>
      refine hs.of_quiet rfl rfl ?_ fun hsome => ?_
      · rw [(Server.idClearTransfer_sameStore hclear).feeds_eq]
      · rw [hslot] at hsome
        cases hsome
  | timeout now =>
      refine own_timeout hs now fun id hid => ?_
      by_contra hnone
      refine hcrosses (.timeout rfl hid fun infos hat => ?_)
      by_contra hactive
      exact hnone ⟨infos, hat, by simpa using hactive⟩

end NewFeeds

/-! ### One thread on its own -/

namespace NewFeeds

/-- The directory of a new feed is there, or can be made. -/
def hasDirectory (env : Env) (s : Server) : Bool :=
  env.stat (feedPath s.feeds.length) || env.mkdir (feedPath s.feeds.length)

lemma feedNew_eq (env : Env) (s : Server) (creator : Pseudo) :
    s.feedNew env creator =
      (if hasDirectory env (s.appendFeed (Server.localFeed env creator)) then 0 else 1,
        s.appendFeed (Server.localFeed env creator)) := by
  rw [Server.feedNew, hasDirectory]
  cases env.stat _ <;> cases env.mkdir _ <;> rfl

section

variable {env : Env} {server : Server} {a : CArray ServerRQ} {rq : ClientRQCl}

/-- A post by `post_request`. -/
lemma step_ready (packet : PacketLoc) {pseudo : Pseudo} {number : UInt16} (own : Option ℕ)
    {s' : Server} (h : server.postNew env pseudo rq.datalen rq.data number.toNat = some s') :
    step ⟨server, .ready rq pseudo number own, packet⟩ (.post env) = some (⟨s', .idle, packet⟩,
      [.post number (Server.localPost env pseudo rq.datalen rq.data), .answer number]) := by
  simp only [step, postStep, h]
  rfl

/-- The directory of a new feed of `post_request`. -/
lemma step_appended (env : Env) (server : Server) (rq : ClientRQCl) (packet : PacketLoc)
    (pseudo : Pseudo) (number : UInt16) (own : ℕ) :
    step ⟨server, .appended rq pseudo number own, packet⟩ (.post env) =
      some (⟨server, if hasDirectory env server then .ready rq pseudo number (some own) else .idle,
        packet⟩, [.directory (feedPath server.feeds.length)]) := rfl

/-- **`post_request`** is its steps in a row: they lead to the same server, and the number that is
answered is the same. -/
theorem run_postRequest {packet : PacketLoc} {h : Handled}
    (hrq : server.postRequest env a rq = some h) :
    ∃ ts, Run step ⟨server, .idle, packet⟩ ts ⟨h.server, .idle, packet⟩ ∧
      (h.code = 0 → ∃ number, .answer number ∈ ts.flatMap (·.out) ∧
        h.serverrq = a.append ⟨env.junk 0, .cl ⟨rq.header, number, rq.count⟩⟩) := by
  have hfail : (1 : UInt8) ≠ 0 := by decide
  rw [Server.postRequest] at hrq
  split at hrq
  next hmax =>
    cases hrq
    have hbegin : step ⟨server, .idle, packet⟩ (.begin rq) =
        some (⟨{ server with dErrno := ERR_FEEDMAX }, .idle, packet⟩, []) := by
      simp only [step, begin, if_pos hmax]
    exact ⟨_, .cons hbegin (.nil _), fun hcode => absurd hcode hfail⟩
  next hmax =>
  split at hrq
  next hnb =>
    cases hrq
    have hbegin : step ⟨server, .idle, packet⟩ (.begin rq) =
        some (⟨{ server with dErrno := ERR_FEEDNB }, .idle, packet⟩, []) := by
      simp only [step, begin, if_neg hmax, if_pos hnb]
    exact ⟨_, .cons hbegin (.nil _), fun hcode => absurd hcode hfail⟩
  next hnb =>
  have hbegin : step ⟨server, .idle, packet⟩ (.begin rq) =
      some (⟨server, .counted rq server.getFeedsCount, packet⟩, []) := by
    simp only [step, begin, if_neg hmax, if_neg hnb]
  split at hrq
  next hid =>
    cases hrq
    have hunknown : step ⟨server, .counted rq server.getFeedsCount, packet⟩ (.post env) =
        some (⟨{ server with dErrno := ERR_NOID }, .idle, packet⟩, []) := by
      simp only [step, postStep, hid]
    exact ⟨_, .cons hbegin (.cons hunknown (.nil _)), fun hcode => absurd hcode hfail⟩
  next pseudo hid =>
  by_cases hzero : rq.feedNumber = 0
  · have hnamed : step ⟨server, .counted rq server.getFeedsCount, packet⟩ (.post env) =
        some (⟨server, .named rq pseudo (UInt16.ofNat server.getFeedsCount + 1), packet⟩, []) := by
      simp only [step, postStep, hid, if_pos hzero]
    have hdirectory := step_appended env (server.appendFeed (Server.localFeed env pseudo)) rq packet
      pseudo (UInt16.ofNat server.getFeedsCount + 1) server.feeds.length
    simp only [if_pos hzero, feedNew_eq] at hrq
    by_cases hdir : hasDirectory env (server.appendFeed (Server.localFeed env pseudo)) = true
    · simp only [if_pos hdir] at hrq hdirectory
      obtain ⟨s', hs', rfl⟩ := Option.map_eq_some_iff.mp hrq
      have hready := step_ready packet (some server.feeds.length) hs'
      exact ⟨_, .cons hbegin (.cons hnamed (.cons (a := .post env) rfl (.cons hdirectory
        (.cons hready (.nil _))))), fun _ => ⟨_, by simp, rfl⟩⟩
    · simp only [if_neg hdir, if_pos hfail] at hrq hdirectory
      cases hrq
      exact ⟨_, .cons hbegin (.cons hnamed (.cons (a := .post env) rfl (.cons hdirectory
        (.nil _)))), fun hcode => absurd hcode hfail⟩
  · simp only [if_neg hzero] at hrq
    obtain ⟨s', hs', rfl⟩ := Option.map_eq_some_iff.mp hrq
    have hnamed : step ⟨server, .counted rq server.getFeedsCount, packet⟩ (.post env) =
        some (⟨server, .ready rq pseudo rq.feedNumber none, packet⟩, []) := by
      simp only [step, postStep, hid, if_neg hzero]
    have hready := step_ready packet none hs'
    exact ⟨_, .cons hbegin (.cons hnamed (.cons hready (.nil _))), fun _ => ⟨_, by simp, rfl⟩⟩

end

section

variable {env : Env} {server : Server} {post : PostLoc} {id : UInt16} {infos : FileTransferInfos}

/-- Where `add_packet` is when it has returned. -/
def returns (r : UInt8 × Server) (post : PostLoc) : NewFeeds :=
  ⟨r.2, post, if r.1 = 0 then .idle else .returned⟩

/-- The end of a transfer, behind the number of its feed: the post and the file. -/
lemma run_numbered {user : Ptr} {pseudo : Pseudo} (own : Option ℕ)
    (hat : server.transferFiles.at? id.toNat = some infos)
    (hpseudo : server.pseudoAt user = some pseudo) {r : UInt8 × Server}
    (h : ((server.announce env pseudo infos).bind fun s₂ => (s₂.writeFile env infos).bind fun w =>
      if w.1 ≠ 0 then some (1, w.2)
      else some (0, w.2.putTransfer id.toNat (transferClear infos))) = some r) :
    ∃ ts, Run step ⟨server, post, .numbered id user own⟩ ts (returns r post) := by
  obtain ⟨s₂, hstore, h⟩ := Option.bind_eq_some_iff.mp h
  obtain ⟨⟨err, s₃⟩, hwrite, h⟩ := Option.bind_eq_some_iff.mp h
  rw [Server.announce] at hstore
  have hnumbered : step ⟨server, post, .numbered id user own⟩ (.packet env) =
      some (⟨s₂, post, .posted id own⟩, [.post infos.feedNumber (Server.localPost env pseudo
        (UInt8.ofNat (Server.announcement infos).length)
        (ofList (Server.announcement infos) 0))]) := by
    simp only [step, packetStep, hat, hpseudo, Option.bind_eq_bind, Option.bind_some, hstore]
  rw [← Server.transferFiles_postNew hstore] at hat
  have hposted : step ⟨s₂, post, .posted id own⟩ (.packet env) = if err ≠ 0 then
        some (⟨s₃, post, .returned⟩, [])
      else some (⟨s₃.putTransfer id.toNat (transferClear infos), post, .idle⟩,
        [.file (Server.filePathOf infos)]) := by
    simp only [step, packetStep, hat, Option.bind_eq_bind, Option.bind_some, hwrite]
  simp only at h
  split at h
  next herr =>
    cases h
    rw [if_pos herr] at hposted
    exact ⟨_, .cons hnumbered (.cons hposted (.nil _))⟩
  next herr =>
    cases h
    rw [if_neg herr] at hposted
    exact ⟨_, .cons hnumbered (.cons hposted (.nil _))⟩

/-- The end of a transfer, from the test that all packets are there. -/
lemma run_completeTransfer (hat : server.transferFiles.at? id.toNat = some infos)
    {r : UInt8 × Server} (h : server.completeTransfer env id id.toNat infos = some r) :
    ∃ ts, Run step ⟨server, post, .received id⟩ ts (returns r post) := by
  obtain ⟨pseudo, hpseudo, -⟩ := Option.bind_eq_some_iff.mp h
  obtain ⟨user, huser, hread⟩ :=
    Option.bind_eq_some_iff.mp ((Server.getPseudo_eq server id).symm.trans hpseudo)
  have hreceived : step ⟨server, post, .received id⟩ (.packet env) =
      some (⟨server, post, .named id user⟩, []) := by
    simp only [step, packetStep, huser, Option.bind_eq_bind, Option.bind_some]
  by_cases hzero : infos.feedNumber = 0
  · set made := server.appendFeed (Server.localFeed env pseudo) with hmade
    have hnamed : step ⟨server, post, .named id user⟩ (.packet env) =
        some (⟨made, post, .appended id user server.feeds.length⟩, []) := by
      simp only [step, packetStep, hat, hread, Option.bind_eq_bind, Option.bind_some, if_pos hzero,
        hmade]
    have hdirectory : step ⟨made, post, .appended id user server.feeds.length⟩ (.packet env) =
        some (⟨made, post, if hasDirectory env made then .made id user (some server.feeds.length)
          else .returned⟩, [.directory (feedPath made.feeds.length)]) := rfl
    have hfeed := feedNew_eq env server pseudo
    rw [← hmade] at hfeed
    by_cases hdir : hasDirectory env made = true
    · rw [if_pos hdir] at hfeed hdirectory
      rw [Server.completeTransfer_feed hpseudo fun _ => by rw [hfeed]] at h
      simp only [Server.withFeed, Server.withNumber, if_pos hzero, ← hmade] at h
      have hat' : made.transferFiles.at? id.toNat = some infos := hat
      have hnumber : step ⟨made, post, .made id user (some server.feeds.length)⟩ (.packet env) =
          some (⟨made.putTransfer id.toNat
            { infos with feedNumber := UInt16.ofNat made.feeds.length }, post,
            .numbered id user (some server.feeds.length)⟩, []) := by
        simp only [step, packetStep, hat', Option.bind_eq_bind, Option.bind_some, if_pos hzero]
      obtain ⟨ts, hts⟩ := run_numbered (some server.feeds.length)
        (Server.at?_putTransfer hat' _) ((Server.pseudoAt_congr rfl user).trans hread) h
      exact ⟨_, .cons hreceived (.cons hnamed (.cons hdirectory (.cons hnumber hts)))⟩
    · rw [if_neg hdir] at hfeed hdirectory
      have hne : (server.feedNew env pseudo).1 ≠ 0 := by
        rw [hfeed]
        exact show (1 : UInt8) ≠ 0 by decide
      rw [Server.completeTransfer_noDirectory hpseudo hzero hne] at h
      cases h
      exact ⟨_, .cons hreceived (.cons hnamed (.cons hdirectory (.nil _)))⟩
  · rw [Server.completeTransfer_feed hpseudo fun hz => absurd hz hzero] at h
    simp only [Server.withFeed, Server.withNumber, if_neg hzero, Server.putTransfer_self hat] at h
    have hnamed : step ⟨server, post, .named id user⟩ (.packet env) =
        some (⟨server, post, .made id user none⟩, []) := by
      simp only [step, packetStep, hat, Option.bind_eq_bind, Option.bind_some, if_neg hzero]
    have hnumber : step ⟨server, post, .made id user none⟩ (.packet env) =
        some (⟨server, post, .numbered id user none⟩, []) := by
      simp only [step, packetStep, hat, Option.bind_eq_bind, Option.bind_some, if_neg hzero]
    obtain ⟨ts, hts⟩ := run_numbered none hat hread h
    exact ⟨_, .cons hreceived (.cons hnamed (.cons hnumber hts))⟩

/-- **`add_packet`** is its steps in a row. -/
theorem run_addPacket {numblock : UInt16} {data : Block} {nbytes : ℕ} {r : UInt8 × Server}
    (h : server.addPacket env id numblock data nbytes = some r) :
    ∃ ts, Run step ⟨server, post, .idle⟩ ts (returns r post) := by
  rw [Server.addPacket] at h
  split at h
  next hget =>
    cases h
    have hreceive : step ⟨server, post, .idle⟩ (.receive id numblock data nbytes) =
        some (⟨server, post, .returned⟩, []) := by
      simp only [step, receive, hget]
      rfl
    exact ⟨_, .cons hreceive (.nil _)⟩
  next i hget =>
    obtain rfl := CArray.eq_of_get hget
    obtain ⟨infos, hat, h⟩ := Option.bind_eq_some_iff.mp h
    split at h
    next hactive =>
      obtain ⟨infos', hrecord, h⟩ := Option.bind_eq_some_iff.mp h
      have hreceive : step ⟨server, post, .idle⟩ (.receive id numblock data nbytes) =
          some (⟨server.putTransfer id.toNat infos', post,
            if infos'.received then .received id else .idle⟩, []) := by
        simp only [step, receive, hget, hat, Option.bind_eq_bind, Option.bind_some, if_pos hactive,
          hrecord, Option.map_some]
      simp only at h
      split at h
      next hall =>
        rw [if_pos hall] at hreceive
        obtain ⟨ts, hts⟩ := run_completeTransfer
          (CArray.at?_write_self _ infos' (CArray.lt_of_at? hat)) h
        exact ⟨_, .cons hreceive hts⟩
      next hall =>
        cases h
        rw [if_neg hall] at hreceive
        exact ⟨_, .cons hreceive (.nil _)⟩
    next hfree =>
      cases h
      have hreceive : step ⟨server, post, .idle⟩ (.receive id numblock data nbytes) =
          some (⟨server, post, .idle⟩, []) := by
        simp only [step, receive, hget, hat, Option.bind_eq_bind, Option.bind_some, if_neg hfree,
          Option.map_some]
      exact ⟨_, .cons hreceive (.nil _)⟩

end

end NewFeeds

/-! ### Runs -/

/-- The index of the feed that a thread has made, and not finished with. -/
def PostLoc.own : PostLoc → Option ℕ
  | .appended _ _ _ own => some own
  | .ready _ _ _ own => own
  | _ => none

/-- The same of `add_packet`. -/
def PacketLoc.own : PacketLoc → Option ℕ
  | .appended _ _ own => some own
  | .made _ _ own => own
  | .numbered _ _ own => own
  | .posted _ own => own
  | _ => none

/-- The same of the thread that takes the step. -/
def FeedTransition.own (t : FeedTransition) : Option ℕ :=
  match t.act with
  | .post _ => t.pre.post.own
  | .packet _ => t.pre.packet.own
  | _ => none

/-- What is done is done for the feed at this index, with its number. -/
def FeedEvent.IsOf (own : ℕ) : FeedEvent → Prop
  | .directory path => path = feedPath (own + 1)
  | .post number _ => number.toNat = own + 1
  | .answer number => number.toNat = own + 1
  | .file path => ∃ name, path =
      snprintf (UPLOAD_FILES_PATH ++ [47] ++ decimal (own + 1) ++ [47] ++ name)

namespace NewFeeds

variable {env : Env} {s s' : NewFeeds} {out : List FeedEvent}

lemma PostCase.isOf (h : PostCase env s s' out) (hs : s.Own) {own : ℕ}
    (hown : s.post.own = some own) : ∀ e ∈ out, e.IsOf own := by
  have hpost := hs.post
  cases h with
  | path hloc hnext =>
      rw [hloc] at hpost hown
      cases hown
      simp only [List.mem_singleton, forall_eq]
      show feedPath _ = _
      rw [FullArray.length_eq, hpost.1]
  | stored hloc hstore =>
      rw [hloc] at hpost hown
      obtain rfl := hown
      simp only [List.mem_cons, List.not_mem_nil, or_false, forall_eq_or_imp, forall_eq]
      exact ⟨hpost, hpost⟩
  | _ => exact fun e he => absurd he List.not_mem_nil

lemma PacketCase.isOf (h : PacketCase env s s' out) (hs : s.Own) {own : ℕ}
    (hown : s.packet.own = some own) : ∀ e ∈ out, e.IsOf own := by
  cases h with
  | @path id user own loc hloc hnext =>
      obtain ⟨infos, -, -, hnumbers⟩ := hs.packet id (by rw [hloc]; rfl)
      rw [hloc] at hnumbers hown
      cases hown
      simp only [List.mem_singleton, forall_eq]
      show feedPath _ = _
      rw [FullArray.length_eq, hnumbers.2.1]
  | stored hloc hat _ hstore =>
      obtain ⟨-, hnumbers⟩ := hs.slot hloc rfl hat
      rw [hloc] at hown
      obtain rfl := hown
      simp only [List.mem_singleton, forall_eq]
      exact hnumbers
  | @written id own infos r hloc hat hwrite =>
      obtain ⟨-, hnumbers⟩ := hs.slot hloc rfl hat
      rw [hloc] at hown
      obtain rfl := hown
      simp only [List.mem_singleton, forall_eq]
      refine ⟨cString infos.filePath MAX_DATALEN, ?_⟩
      rw [Server.filePathOf, show infos.feedNumber.toNat = _ from hnumbers]
  | _ => exact fun e he => absurd he List.not_mem_nil

lemma isOf_of_step {a : FeedAct} (hs : s.Own) (h : s.step a = some (s', out)) {own : ℕ}
    (hown : FeedTransition.own ⟨s, a, out, s'⟩ = some own) : ∀ e ∈ out, e.IsOf own := by
  cases step_cases h with
  | post hcase => exact hcase.isOf hs hown
  | packet hcase => exact hcase.isOf hs hown
  | _ => cases hown

end NewFeeds

/-! ### Posts -/

/-- The posts of the feed at index `i`, as posts of the log. -/
def Server.postsOf (s : Server) (i : ℕ) : List (Pseudo × List UInt8) :=
  match (s.feeds.toList.map Feed.toLog)[i]? with
  | some feed => feed.posts
  | none => []

/-- The post that is stored under the number `n`. -/
def FeedEvent.postTo (n : ℕ) : FeedEvent → Option (Pseudo × List UInt8)
  | .post number p => if number.toNat = n then some p.toLog else none
  | _ => none

namespace Server

variable {env : Env} {s s' : Server}

lemma postsOf_congr (h : s'.feeds.toList.map Feed.toLog = s.feeds.toList.map Feed.toLog) :
    s'.postsOf = s.postsOf := by
  funext i
  rw [postsOf, postsOf, h]

/-- A new feed has no posts. -/
lemma postsOf_appendFeed (env : Env) (s : Server) (creator : Pseudo) :
    (s.appendFeed (localFeed env creator)).postsOf = s.postsOf := by
  funext i
  simp only [postsOf, appendFeed, FullArray.toList_append, List.map_append, List.map_singleton]
  rcases lt_trichotomy i (s.feeds.toList.map Feed.toLog).length with hi | rfl | hi
  · rw [List.getElem?_append_left hi]
  · rw [List.getElem?_concat_length, List.getElem?_eq_none le_rfl]
    rfl
  · rw [List.getElem?_eq_none hi.le, List.getElem?_eq_none]
    rw [List.length_append, List.length_singleton]
    exact hi

/-- A post is stored behind those of the feed with its number. -/
lemma postsOf_postNew {pseudo : Pseudo} {datalen : UInt8} {data : ℕ → UInt8} {number : UInt16}
    (h : s.postNew env pseudo datalen data number.toNat = some s') {i : ℕ} (hi : i < 2 ^ 64 - 1) :
    s'.postsOf i = s.postsOf i ++
      [.post number (localPost env pseudo datalen data)].filterMap (FeedEvent.postTo (i + 1)) := by
  obtain ⟨feed, hfeed, rfl⟩ := postNew_eq_some h
  have hlt := (List.getElem?_eq_some_iff.mp hfeed).1
  have hindex : i = sizeSub number.toNat 1 ↔ number.toNat = i + 1 := by
    rw [sizeSub]
    split <;> omega
  simp only [postsOf, appendPost, FullArray.toList_write, List.map_set, List.getElem?_set,
    FeedEvent.postTo, List.filterMap_cons, List.filterMap_nil]
  by_cases hn : number.toNat = i + 1
  · rw [← hindex.mpr hn] at hlt hfeed ⊢
    rw [if_pos rfl, if_pos (by rwa [List.length_map]), if_pos hn, List.getElem?_map, hfeed]
    simp [Feed.toLog]
  · rw [if_neg fun heq => hn (hindex.mp heq.symm), if_neg hn]
    simp

end Server

namespace NewFeeds

variable {s s' : NewFeeds} {out : List FeedEvent}

/-- **One step**: what it stores under the number `i + 1` is behind the posts of the feed at index
`i`, and no other post is. -/
lemma step_postsOf {a : FeedAct} (h : s.step a = some (s', out)) {i : ℕ} (hi : i < 2 ^ 64 - 1) :
    s'.server.postsOf i = s.server.postsOf i ++ out.filterMap (FeedEvent.postTo (i + 1)) := by
  have hsame : ∀ {server : Server},
      server.feeds.toList.map Feed.toLog = s.server.feeds.toList.map Feed.toLog →
      server.postsOf i = s.server.postsOf i ++ [].filterMap (FeedEvent.postTo (i + 1)) := by
    intro server heq
    rw [Server.postsOf_congr heq, List.filterMap_nil, List.append_nil]
  cases step_cases h with
  | «begin» rq hloc =>
      obtain ⟨e, heq⟩ | ⟨heq, -⟩ := s.begin_cases rq
      · rw [heq]
        exact hsame rfl
      · rw [heq]
        exact hsame rfl
  | post hcase =>
      cases hcase with
      | unknown => exact hsame rfl
      | append =>
          rw [Server.postsOf_appendFeed, List.filterMap_nil, List.append_nil]
      | stored hloc hstore => exact Server.postsOf_postNew hstore hi
      | _ => simp [FeedEvent.postTo]
  | receive hloc hreceive =>
      obtain rfl | rfl | ⟨infos, -, -, rfl | rfl⟩ := receive_cases hreceive
      · exact hsame rfl
      · exact hsame rfl
      · exact hsame rfl
      · exact hsame rfl
  | packet hcase =>
      cases hcase with
      | new =>
          rw [Server.postsOf_appendFeed, List.filterMap_nil, List.append_nil]
      | number => exact hsame rfl
      | stored hloc hat hpseudo hstore => exact Server.postsOf_postNew hstore hi
      | failed hloc hat hwrite =>
          exact hsame (by rw [(Server.writeFile_sameStore hwrite).feeds_eq])
      | written hloc hat hwrite =>
          have heq := (Server.writeFile_sameStore hwrite).feeds_eq
          exact hsame (congrArg (fun feeds => feeds.toList.map Feed.toLog) heq)
      | _ => simp [FeedEvent.postTo]
  | other hne hlock hconn => exact hsame (Server.handleTcpConnection_feeds hne hconn)
  | sent hslot hclear => exact hsame (by rw [(Server.idClearTransfer_sameStore hclear).feeds_eq])
  | timeout now => exact hsame rfl

/-- **A run**: the posts of a feed are those that it had, and those that the steps store under its
number, in their order. -/
lemma run_postsOf {ts : List FeedTransition} (h : Run step s ts s') {i : ℕ} (hi : i < 2 ^ 64 - 1) :
    s'.server.postsOf i = s.server.postsOf i ++
      ts.flatMap fun t => t.out.filterMap (FeedEvent.postTo (i + 1)) := by
  have hconserves := h.conserves (fun s => s.server.postsOf i)
    (fun t => t.out.filterMap (FeedEvent.postTo (i + 1))) (fun _ => []) fun t ht => by
      rw [List.nil_append]
      exact (step_postsOf (h.exists_of_mem ht).1 hi).symm
  rw [List.flatMap_eq_nil_iff.mpr fun _ _ => rfl, List.nil_append] at hconserves
  exact hconserves.symm

end NewFeeds

/-- **New feeds of the two threads.**  Over every run of the thread of the connections and the one
of the datagrams, in any order of their steps, from a state where neither is making a feed.

The numbers that they have in hand are those of their own feeds in every state if and only if
neither makes a feed while the other one holds on to the number of feeds (between `get_feeds_count`
in `post_request` and the reading of `m_feeds.length` in `feed_new`, and between `feed_new` and the
second reading of `m_feeds.length` in `add_packet`), the slot of a transfer is not cleared by
`check_transfers_timeout` while its file is announced, and no feed beyond number 65535 is made.  In
such a run each thread looks for the directory of its own feed, posts to it, writes the file into
it, and answers with its number.

In every run, no post is lost or stored twice: the posts of a feed are those that it had, and those
that the threads have stored under its number, in this order.

A run ends where `add_packet` would read a pseudo through a pointer to the users that a registration
has moved meanwhile. -/
theorem new_feeds_iff {s s' : NewFeeds} {ts : List FeedTransition} (h : Run NewFeeds.step s ts s')
    (hpost : s.post = .idle) (hpacket : s.packet = .idle) :
    ((∀ us s₁, us <+: ts → Run NewFeeds.step s us s₁ → s₁.Own) ↔ ∀ t ∈ ts, ¬Crosses t) ∧
    ((∀ t ∈ ts, ¬Crosses t) → ∀ t ∈ ts, ∀ own, FeedTransition.own t = some own →
      ∀ e ∈ t.out, e.IsOf own) ∧
    ∀ i < 2 ^ 64 - 1, s'.server.postsOf i =
      s.server.postsOf i ++ ts.flatMap fun t => t.out.filterMap (FeedEvent.postTo (i + 1)) := by
  have hs : s.Own := by
    refine ⟨?_, PacketLoc.own_of_slot_eq_none (by rw [hpacket]; rfl) _⟩
    rw [hpost]
    trivial
  have hstep : ∀ s a s' out, s.Own → NewFeeds.step s a = some (s', out) →
      ¬Crosses ⟨s, a, out, s'⟩ → s'.Own := fun _ _ _ _ => NewFeeds.own_step
  refine ⟨h.forall_state_iff (fun _ _ _ _ => NewFeeds.not_own_of_crosses) hstep hs,
    fun hts t ht own hown => ?_, fun i hi => NewFeeds.run_postsOf h hi⟩
  exact NewFeeds.isOf_of_step (h.pre_of_forall_not hstep hs hts t ht) (h.exists_of_mem ht).1 hown

namespace OneNewFeed

/-- A server with one user. -/
def init : NewFeeds := ⟨dataInit.userNew 5 (.replicate PSEUDO_LEN 97), .idle, .idle⟩

/-- The user posts `"b"` on a new feed. -/
def rq : ClientRQCl := ⟨mkHeader NEWPOST 5, 0, 0, 1, ofList [98] 0⟩

/-- The user uploads a file `"a"` to a new feed. -/
def upload : ClientRQCl := ⟨mkHeader UPLOAD 5, 0, 0, 1, ofList [97] 0⟩

/-- The file has one byte.  Its end, behind the number of its feed, falls between the steps of
`post_request`. -/
def acts : List FeedAct :=
  [.other (.quiet []) (.cl UPLOAD upload_ne upload), .receive 5 1 (fun _ => 99) 1,
    .packet (.quiet []), .packet (.quiet []), .packet (.quiet []), .packet (.quiet []),
    .begin rq, .post (.quiet []), .packet (.quiet []), .post (.quiet []), .packet (.quiet []),
    .post (.quiet []), .post (.quiet [])]

set_option maxRecDepth 100000 in
/-- Each of the two feeds has its post. -/
theorem new_feeds_iff_one : ∃ ts s', Run NewFeeds.step init ts s' ∧ ts.map (·.act) = acts ∧
    s'.server.postsOf 0 = [(.replicate PSEUDO_LEN 97, [97, 32, 49])] ∧
    s'.server.postsOf 1 = [(.replicate PSEUDO_LEN 97, [98])] ∧
    ((∀ us s₁, us <+: ts → Run NewFeeds.step init us s₁ → s₁.Own) ↔ ∀ t ∈ ts, ¬Crosses t) := by
  have hfacts : (Machine.exec NewFeeds.step init acts).map
      (fun p => (p.2.server.postsOf 0, p.2.server.postsOf 1)) =
      some ([(.replicate PSEUDO_LEN 97, [97, 32, 49])], [(.replicate PSEUDO_LEN 97, [98])]) := rfl
  obtain ⟨⟨ts, s'⟩, hexec, hfacts⟩ := Option.map_eq_some_iff.mp hfacts
  obtain ⟨hrun, hacts⟩ := Machine.run_of_exec hexec
  obtain ⟨hfirst, hsecond⟩ := Prod.mk.inj hfacts
  exact ⟨ts, s', hrun, hacts, hfirst, hsecond, (new_feeds_iff hrun rfl rfl).1⟩

end OneNewFeed

end Megaphone
