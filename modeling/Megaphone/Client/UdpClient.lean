import Megaphone.Client.TcpClient

/-!
The thread of the downloads (`udp_client.c`) and what the thread of the user does to the transfer
that they share (`data.c`).

* `UdpClient`: the client, where `udp_client_loop` is, and where the thread of the user is.
* `waitTransfer`, `handleDownload`, `handleReadyFds`, `handlePacket`, `resetTransferSocket`: the
  loop in steps between two locks of `m_transfer_mutex`; `userStep`: those of the user.
* `step`, `StepCase`, `step_cases`: the two threads in any order, and what a step is.
* `WorksOnOwn`, `Disturbs`: the thread works on the socket of the transfer, and the steps behind
  which it does not.
* `downloads_isolated_iff`: over every run.
-/

namespace Megaphone

open Memory

/-! ### The state -/

/-- Where `udp_client_loop` is.

* `wait`: before the test of `wait_transfer`; `waiting`: in its `pthread_cond_wait`;
* `check`, `poll`: before `check_transfer_timeout` and `poll` in `handle_download`;
* `recv`: before `recv_datagrams` in `handle_ready_fds`; `put`: before `add_packet`;
* `reset`: before `reset_transfer_socket`, with the result that comes behind it. -/
inductive UdpLoc
  | wait
  | waiting
  | check (fd : ℕ)
  | poll (fd : ℕ)
  | recv (fd : ℕ)
  | put (fd : ℕ) (p : Packet)
  | reset (fd : ℕ) (err : Int8)
  | returned

/-- Where the thread of the user is: outside of an exchange, behind `transfer_new` of a download, or
behind `create_request`. -/
inductive UserLoc
  | free
  | opening
  | exchanging
  deriving DecidableEq

/-- The client with its two threads. -/
structure UdpClient where
  client : Client
  loc : UdpLoc
  user : UserLoc

/-- The result of `poll`, with whether there is `POLLIN`. -/
inductive PollOut
  | error
  | timeout
  | ready (pollin : Bool)

/-- The result of `recvfrom`: `EWOULDBLOCK`, another error, or a datagram. -/
inductive RecvOut
  | block
  | error
  | datagram (bytes : List UInt8)

/-- The steps of the user.

* `transferNew`: `transfer_new` in `create_request`, for a download or an upload;
* `createTransferAddress`: behind it, for a download;
* `request`: the request is another one;
* `setUserId`: `set_user_id`;
* `signalTransfer`, `clearCurrentTransfer`, `ends`: the exchange ends with an answer of the type
  `DOWNLOAD`, with a file that has been sent, or otherwise. -/
inductive UserAct
  | transferNew (download : Bool) (now : ℕ) (fileName : ℕ → UInt8)
  | createTransferAddress (env : RequestEnv)
  | request
  | setUserId (id : UInt16) (h : id.toNat < 2048)
  | signalTransfer
  | clearCurrentTransfer
  | ends

/-- The steps of both; `wake` is a wake-up without a signal. -/
inductive UdpAct
  | wait
  | wake
  | check (now : ℕ)
  | poll (r : PollOut)
  | recv (r : RecvOut)
  | put (env : ClientEnv)
  | reset
  | user (u : UserAct)

namespace UdpClient

/-! ### The steps -/

/-- The test of `wait_transfer`. -/
def waitTransfer (s : UdpClient) : UdpClient :=
  let sfd := s.client.transferFile.sfd
  { s with loc := if sfd = 0 then .waiting else .check sfd }

/-- Where `udp_client_loop` is behind `handle_download`. -/
def handled (fd : ℕ) (err : Int8) : UdpLoc :=
  if err = -1 then .returned else if err = 0 then .wait else .check fd

/-- `check_transfer_timeout` in `handle_download`, with the descriptors that are closed. -/
def checkTimeout (s : UdpClient) (fd now : ℕ) : UdpClient × List ℕ :=
  let r := s.client.checkTransferTimeout now
  if r.1 ≠ 0 then ({ s with client := r.2, loc := handled fd 0 }, [s.client.transferFile.sfd])
  else ({ s with client := r.2, loc := .poll fd }, [])

/-- The `poll` of `handle_download`. -/
def handleDownload (s : UdpClient) (fd : ℕ) : PollOut → UdpClient × List ℕ
  | .error => ({ s with loc := handled fd (-1) }, [])
  | .timeout => ({ s with loc := .reset fd 0 }, [fd])
  | .ready false => ({ s with loc := handled fd 1 }, [])
  | .ready true => ({ s with loc := .recv fd }, [])

/-- The loop of `handle_ready_fds`, up to `add_packet`. -/
def handleReadyFds (s : UdpClient) (fd : ℕ) : RecvOut → Option UdpClient
  | .block => some { s with loc := handled fd 1 }
  | .error => some { s with loc := handled fd (-1) }
  | .datagram bytes => do
      let (type, ft, nbytes) ← recvDatagrams ntohServerrqdl bytes
      if type ≠ DOWNLOAD then some { s with loc := .recv fd }
      else if s.client.userId ≠ getId ft.header then some { s with loc := .recv fd }
      else some { s with loc := .put fd ⟨ft.numblock, ft.data, sizeSub nbytes 4⟩ }

/-- `add_packet` in `handle_ready_fds`, with the descriptors that are closed. -/
def handlePacket (env : ClientEnv) (s : UdpClient) (fd : ℕ) (p : Packet) :
    Option (UdpClient × List ℕ) := do
  let (err, client) ← s.client.addPacket env p.numblock p.data p.nbytes
  some ({ s with client := client, loc := if err ≠ 1 then .reset fd err else .recv fd },
    if err = 0 then [s.client.transferFile.sfd] else [])

/-- `reset_transfer_socket`, and the return from `handle_download`. -/
def resetTransferSocket (s : UdpClient) (fd : ℕ) (err : Int8) : UdpClient :=
  { s with
    client := { s.client with transferFile := { s.client.transferFile with sfd := 0 } }
    loc := handled fd err }

/-- `signal_transfer`. -/
def signalTransfer (s : UdpClient) : UdpClient :=
  match s.loc with
  | .waiting => { s with loc := .wait }
  | _ => s

/-- The thread of the user. -/
def userStep (s : UdpClient) : UserAct → Option UdpClient
  | .transferNew download now fileName =>
      if s.user = .free then
        some { s with client := s.client.transferNew now fileName
                      user := if download then .opening else .exchanging }
      else none
  | .createTransferAddress env =>
      if s.user = .opening then
        some { s with client := (s.client.createTransferAddress env).2, user := .exchanging }
      else none
  | .request => if s.user = .free then some { s with user := .exchanging } else none
  | .setUserId id h =>
      if s.user ≠ .opening then some { s with client := s.client.setUserId id h } else none
  | .signalTransfer =>
      if s.user = .exchanging then some { s.signalTransfer with user := .free } else none
  | .clearCurrentTransfer =>
      if s.user = .exchanging then
        some { s with client := s.client.clearCurrentTransfer, user := .free }
      else none
  | .ends => if s.user = .exchanging then some { s with user := .free } else none

/-- The machine, whose output are the descriptors that are closed. -/
def step (s : UdpClient) : UdpAct → Option (UdpClient × List ℕ)
  | .wait => match s.loc with
      | .wait => some (s.waitTransfer, [])
      | _ => none
  | .wake => match s.loc with
      | .waiting => some ({ s with loc := .wait }, [])
      | _ => none
  | .check now => match s.loc with
      | .check fd => some (s.checkTimeout fd now)
      | _ => none
  | .poll r => match s.loc with
      | .poll fd => some (s.handleDownload fd r)
      | _ => none
  | .recv r => match s.loc with
      | .recv fd => (s.handleReadyFds fd r).map fun s => (s, [])
      | _ => none
  | .put env => match s.loc with
      | .put fd p => s.handlePacket env fd p
      | _ => none
  | .reset => match s.loc with
      | .reset fd err => some (s.resetTransferSocket fd err, [])
      | _ => none
  | .user u => (s.userStep u).map fun s => (s, [])

/-- `launch_client` starts both threads; `data_init` has cleared the transfer. -/
def start (c : Client) : UdpClient := ⟨c, .wait, .free⟩

/-! ### What a step is -/

variable {s s' : UdpClient} {out : List ℕ}

end UdpClient

/-- The socket that the thread works on. -/
def UdpLoc.works : UdpLoc → Option ℕ
  | .check fd => some fd
  | .poll fd => some fd
  | .recv fd => some fd
  | .put fd _ => some fd
  | _ => none

/-- The socket that it has worked on, before `reset_transfer_socket`. -/
def UdpLoc.resets : UdpLoc → Option ℕ
  | .reset fd _ => some fd
  | _ => none

/-- In `wait_transfer`. -/
def UdpLoc.Waits (loc : UdpLoc) : Prop := loc = .wait ∨ loc = .waiting

lemma UdpLoc.works_eq_none {loc : UdpLoc} (h : loc.Waits) : loc.works = none := by
  obtain rfl | rfl := h
  · rfl
  · rfl

lemma UdpLoc.exists_of_resets {loc : UdpLoc} {fd : ℕ} (h : loc.resets = some fd) :
    ∃ err, loc = .reset fd err := by
  cases loc with
  | reset fd' err =>
      cases h
      exact ⟨err, rfl⟩
  | _ => cases h

/-- Steps that neither store a packet nor are of the user. -/
def UdpAct.IsQuiet : UdpAct → Prop
  | .put _ => False
  | .user _ => False
  | _ => True

/-- Steps that neither store a packet nor begin a transfer. -/
def UdpAct.KeepsSession : UdpAct → Prop
  | .put _ => False
  | .user (.transferNew ..) => False
  | _ => True

lemma UdpAct.thread_or_user (a : UdpAct) : (∀ u, a ≠ .user u) ∨ ∃ u, a = .user u := by
  cases a with
  | user u => exact .inr ⟨u, rfl⟩
  | _ => exact .inl nofun

lemma UdpAct.IsQuiet.keepsSession {a : UdpAct} (h : a.IsQuiet) : a.KeepsSession := by
  cases a with
  | put => exact h.elim
  | user => exact h.elim
  | _ => trivial

namespace Client

variable {env : ClientEnv} {c c' : Client} {err : Int8}

/-- A file is written: the content of the transfer, at a path that can be opened for it. -/
structure Writes (c : Client) (env : ClientEnv) (infos : FileTransferInfos) (c' : Client) :
    Prop where
  written : ∃ path bytes, env.openDownload infos.filePath = some (some path) ∧
    infos.content env.junk = some bytes ∧ c'.disk = c.disk ++ [(path, bytes)]
  transferFile_eq : c'.transferFile = .zero

/-- All that `add_packet` can do. -/
inductive PacketCase (env : ClientEnv) (c : Client) (p : Packet) : Int8 → Client → Prop
  | ignored (hfree : c.transferFile.active = false) : PacketCase env c p 1 c
  | stored {infos : FileTransferInfos} (hactive : c.transferFile.active = true)
      (hrecord : c.transferFile.record p.numblock p.data p.nbytes = some infos) :
      PacketCase env c p 1 (c.withTransfer infos)
  | failed {infos : FileTransferInfos} (hactive : c.transferFile.active = true)
      (hrecord : c.transferFile.record p.numblock p.data p.nbytes = some infos) :
      PacketCase env c p (-1) (c.withTransfer infos)
  | written {infos : FileTransferInfos} {c₁ : Client} (hactive : c.transferFile.active = true)
      (hrecord : c.transferFile.record p.numblock p.data p.nbytes = some infos)
      (hwrites : c.Writes env infos c₁) : PacketCase env c p 0 c₁

/-- A packet that does not end the transfer leaves its socket. -/
lemma PacketCase.keeps {p : Packet} (h : PacketCase env c p err c') (herr : err ≠ 0) :
    c'.transferFile.active = c.transferFile.active ∧ c'.transferFile.sfd = c.transferFile.sfd := by
  cases h with
  | ignored => exact ⟨rfl, rfl⟩
  | stored _ hrecord =>
      obtain ⟨hactive, hsfd, -⟩ := FileTransferInfos.record_keeps hrecord
      exact ⟨hactive, hsfd⟩
  | failed _ hrecord =>
      obtain ⟨hactive, hsfd, -⟩ := FileTransferInfos.record_keeps hrecord
      exact ⟨hactive, hsfd⟩
  | written => exact absurd rfl herr

lemma PacketCase.transferFile_eq {p : Packet} (h : PacketCase env c p 0 c') :
    c'.transferFile = .zero := by
  cases h with
  | written _ _ hwrites => exact hwrites.transferFile_eq

lemma addPacket_cases {p : Packet}
    (h : c.addPacket env p.numblock p.data p.nbytes = some (err, c')) :
    PacketCase env c p err c' := by
  rw [addPacket] at h
  split at h
  next hactive =>
    obtain ⟨infos, hrecord, h⟩ := Option.bind_eq_some_iff.mp h
    split at h
    · obtain ⟨⟨code, c₁⟩, hwrite, h⟩ := Option.bind_eq_some_iff.mp h
      obtain ⟨path?, hopen, hwrite⟩ := Option.bind_eq_some_iff.mp hwrite
      cases path? with
      | none =>
          cases hwrite
          cases h
          exact .failed hactive hrecord
      | some path =>
          simp only at hwrite
          split at hwrite
          · split at hwrite
            · obtain ⟨bytes, hbytes, heq⟩ := Option.map_eq_some_iff.mp hwrite
              cases heq
              cases h
              exact .written hactive hrecord ⟨⟨path, bytes, hopen, hbytes, rfl⟩, rfl⟩
            · cases hwrite
          · cases hwrite
            cases h
            exact .failed hactive hrecord
    · cases h
      exact .stored hactive hrecord
  next hfree =>
    cases h
    exact .ignored (Bool.eq_false_iff.mpr hfree)

end Client

namespace UdpClient

variable {s s' : UdpClient} {out : List ℕ}

/-- What a step is.

* `waits`, `takes`, `wakes`: of `wait_transfer`;
* `moves`, `gives`: the thread goes on with its socket, or returns;
* `expires`, `idles`: a timeout of `check_transfer_timeout`, and one of `poll`;
* `stores`, `fails`, `completes`: the results of `add_packet`;
* `resets`: `reset_transfer_socket`;
* `user`: of the user. -/
inductive StepCase (s : UdpClient) : UdpAct → UdpClient → List ℕ → Prop
  | waits (hloc : s.loc = .wait) (hsfd : s.client.transferFile.sfd = 0) :
      StepCase s .wait { s with loc := .waiting } []
  | takes (hloc : s.loc = .wait) (hsfd : s.client.transferFile.sfd ≠ 0) :
      StepCase s .wait { s with loc := .check s.client.transferFile.sfd } []
  | wakes (hloc : s.loc = .waiting) : StepCase s .wake { s with loc := .wait } []
  | moves {a : UdpAct} {fd : ℕ} {loc : UdpLoc} (hact : a.IsQuiet) (hworks : s.loc.works = some fd)
      (hworks' : loc.works = some fd) : StepCase s a { s with loc := loc } []
  | gives {a : UdpAct} {fd : ℕ} (hact : a.IsQuiet) (hworks : s.loc.works = some fd) :
      StepCase s a { s with loc := .returned } []
  | expires {fd now : ℕ} (hloc : s.loc = .check fd)
      (hactive : s.client.transferFile.active = true) :
      StepCase s (.check now) { s with client := s.client.clearCurrentTransfer, loc := .wait }
        [s.client.transferFile.sfd]
  | idles {fd : ℕ} (hloc : s.loc = .poll fd) :
      StepCase s (.poll .timeout) { s with loc := .reset fd 0 } [fd]
  | stores {env : ClientEnv} {fd : ℕ} {p : Packet} {c : Client} (hloc : s.loc = .put fd p)
      (h : Client.PacketCase env s.client p 1 c) :
      StepCase s (.put env) { s with client := c, loc := .recv fd } []
  | fails {env : ClientEnv} {fd : ℕ} {p : Packet} {c : Client} (hloc : s.loc = .put fd p)
      (h : Client.PacketCase env s.client p (-1) c) :
      StepCase s (.put env) { s with client := c, loc := .reset fd (-1) } []
  | completes {env : ClientEnv} {fd : ℕ} {p : Packet} {c : Client} (hloc : s.loc = .put fd p)
      (h : Client.PacketCase env s.client p 0 c) :
      StepCase s (.put env) { s with client := c, loc := .reset fd 0 }
        [s.client.transferFile.sfd]
  | resets {fd : ℕ} {err : Int8} (hloc : s.loc = .reset fd err) :
      StepCase s .reset (s.resetTransferSocket fd err) []
  | user {u : UserAct} {s₁ : UdpClient} (h : s.userStep u = some s₁) : StepCase s (.user u) s₁ []

/-- **One step.** -/
lemma step_cases {a : UdpAct} (h : s.step a = some (s', out)) : StepCase s a s' out := by
  cases a with
  | wait =>
      rw [step] at h
      split at h
      next hloc =>
        cases h
        rw [waitTransfer]
        split
        next hsfd => exact .waits hloc hsfd
        next hsfd => exact .takes hloc hsfd
      · cases h
  | wake =>
      rw [step] at h
      split at h
      next hloc =>
        cases h
        exact .wakes hloc
      · cases h
  | check now =>
      rw [step] at h
      split at h
      next fd hloc =>
        have h := Option.some.inj h
        simp only [checkTimeout, Client.checkTransferTimeout] at h
        split at h
        next hexpired =>
          cases h
          exact .expires hloc hexpired.1
        next =>
          cases h
          exact .moves trivial (by rw [hloc]; rfl) rfl
      · cases h
  | poll r =>
      rw [step] at h
      split at h
      next fd hloc =>
        have h := Option.some.inj h
        have hworks : s.loc.works = some fd := by
          rw [hloc]
          rfl
        cases r with
        | error =>
            cases h
            exact .gives trivial hworks
        | timeout =>
            cases h
            exact .idles hloc
        | ready pollin =>
            cases pollin with
            | false =>
                cases h
                exact .moves trivial hworks rfl
            | true =>
                cases h
                exact .moves trivial hworks rfl
      · cases h
  | recv r =>
      rw [step] at h
      split at h
      next fd hloc =>
        obtain ⟨s₁, hrecv, heq⟩ := Option.map_eq_some_iff.mp h
        cases heq
        have hworks : s.loc.works = some fd := by
          rw [hloc]
          rfl
        cases r with
        | block =>
            cases hrecv
            exact .moves trivial hworks rfl
        | error =>
            cases hrecv
            exact .gives trivial hworks
        | datagram bytes =>
            obtain ⟨⟨type, ft, nbytes⟩, -, hrecv⟩ := Option.bind_eq_some_iff.mp hrecv
            simp only at hrecv
            split at hrecv
            · cases hrecv
              exact .moves trivial hworks rfl
            · split at hrecv
              · cases hrecv
                exact .moves trivial hworks rfl
              · cases hrecv
                exact .moves trivial hworks rfl
      · cases h
  | put env =>
      rw [step] at h
      split at h
      next fd p hloc =>
        obtain ⟨⟨err, c⟩, hpacket, h⟩ := Option.bind_eq_some_iff.mp h
        have hcase := Client.addPacket_cases hpacket
        cases hcase with
        | ignored hfree =>
            cases h
            exact .stores hloc (.ignored hfree)
        | stored hactive hrecord =>
            cases h
            exact .stores hloc (.stored hactive hrecord)
        | failed hactive hrecord =>
            cases h
            exact .fails hloc (.failed hactive hrecord)
        | written hactive hrecord hwrites =>
            cases h
            exact .completes hloc (.written hactive hrecord hwrites)
      · cases h
  | reset =>
      rw [step] at h
      split at h
      next fd err hloc =>
        cases h
        exact .resets hloc
      · cases h
  | user u =>
      obtain ⟨s₁, hu, heq⟩ := Option.map_eq_some_iff.mp h
      cases heq
      exact .user hu

/-- What a step of the user is, by where this thread is. -/
inductive UserCase (s : UdpClient) : UserAct → UdpClient → Prop
  | begins {download : Bool} {now : ℕ} {fileName : ℕ → UInt8} (huser : s.user = .free) :
      UserCase s (.transferNew download now fileName)
        { s with client := s.client.transferNew now fileName
                 user := if download then .opening else .exchanging }
  | opens {env : RequestEnv} (huser : s.user = .opening) : UserCase s (.createTransferAddress env)
      { s with client := (s.client.createTransferAddress env).2, user := .exchanging }
  | requests (huser : s.user = .free) : UserCase s .request { s with user := .exchanging }
  | identifies {id : UInt16} {h : id.toNat < 2048} (huser : s.user ≠ .opening) :
      UserCase s (.setUserId id h) { s with client := s.client.setUserId id h }
  | signals (huser : s.user = .exchanging) :
      UserCase s .signalTransfer { s.signalTransfer with user := .free }
  | clears (huser : s.user = .exchanging) : UserCase s .clearCurrentTransfer
      { s with client := s.client.clearCurrentTransfer, user := .free }
  | ends (huser : s.user = .exchanging) : UserCase s .ends { s with user := .free }

lemma userStep_cases {u : UserAct} (h : s.userStep u = some s') : UserCase s u s' := by
  cases u with
  | transferNew download now fileName =>
      obtain ⟨huser, ⟨⟩⟩ := Option.ite_none_right_eq_some.mp h
      exact .begins huser
  | createTransferAddress env =>
      obtain ⟨huser, ⟨⟩⟩ := Option.ite_none_right_eq_some.mp h
      exact .opens huser
  | request =>
      obtain ⟨huser, ⟨⟩⟩ := Option.ite_none_right_eq_some.mp h
      exact .requests huser
  | setUserId id hid =>
      obtain ⟨huser, ⟨⟩⟩ := Option.ite_none_right_eq_some.mp h
      exact .identifies huser
  | signalTransfer =>
      obtain ⟨huser, ⟨⟩⟩ := Option.ite_none_right_eq_some.mp h
      exact .signals huser
  | clearCurrentTransfer =>
      obtain ⟨huser, ⟨⟩⟩ := Option.ite_none_right_eq_some.mp h
      exact .clears huser
  | ends =>
      obtain ⟨huser, ⟨⟩⟩ := Option.ite_none_right_eq_some.mp h
      exact .ends huser

lemma StepCase.userCase {u : UserAct} (h : StepCase s (.user u) s' out) : UserCase s u s' := by
  cases h with
  | moves hact => exact hact.elim
  | gives hact => exact hact.elim
  | user hu => exact userStep_cases hu

/-- A signal does not change what the thread works on. -/
lemma signalTransfer_spec (s : UdpClient) :
    s.signalTransfer.client = s.client ∧ s.signalTransfer.loc ≠ .waiting ∧
      (s.signalTransfer.loc = s.loc ∨ s.loc = .waiting ∧ s.signalTransfer.loc = .wait) := by
  rw [signalTransfer]
  split
  next hloc => exact ⟨rfl, nofun, .inr ⟨hloc, rfl⟩⟩
  next hloc => exact ⟨rfl, hloc, .inl rfl⟩

/-- What `create_transfer_address` makes of the transfer: it may get a socket. -/
lemma transferFile_createTransferAddress (env : RequestEnv) (c : Client) :
    (c.createTransferAddress env).2.transferFile = c.transferFile ∨
      c.transferFile.active = true ∧ ∃ sfd, (c.createTransferAddress env).2.transferFile =
        { c.transferFile with sfd := sfd } := by
  rw [Client.createTransferAddress]
  split
  · exact .inl rfl
  next sfd port _ =>
    by_cases hactive : c.transferFile.active = true
    · exact .inr ⟨hactive, sfd, by rw [if_pos hactive]⟩
    · exact .inl (by rw [if_neg hactive])

/-! ### The thread and its transfer -/

/-- A transition of the two threads. -/
abbrev UdpTransition := Machine.Transition UdpClient UdpAct (List ℕ)

/-- The thread works on the socket of the transfer, and so it has before `reset_transfer_socket` if
there is a transfer. -/
structure WorksOnOwn (s : UdpClient) : Prop where
  works : ∀ fd, s.loc.works = some fd →
    s.client.transferFile.active = true ∧ s.client.transferFile.sfd = fd
  resets : ∀ fd, s.loc.resets = some fd → s.client.transferFile.active = true →
    s.client.transferFile.sfd = fd

/-- A transition that takes the transfer from the thread: another one begins, or it is cleared. -/
inductive Disturbs (t : UdpTransition) : Prop
  | begins {download : Bool} {now : ℕ} {fileName : ℕ → UInt8}
      (hact : t.act = .user (.transferNew download now fileName))
      (hworks : t.pre.loc.works ≠ none ∨ t.pre.loc.resets ≠ none)
  | clears (hact : t.act = .user .clearCurrentTransfer) (hworks : t.pre.loc.works ≠ none)

/-- The invariant of runs without such a transition: no socket is 0, a socket belongs to a transfer,
and the thread does not work on anything while a download is being prepared. -/
structure Own (s : UdpClient) : Prop where
  own : s.WorksOnOwn
  ne_zero : ∀ fd, s.loc.works = some fd ∨ s.loc.resets = some fd → fd ≠ 0
  active : s.client.transferFile.sfd ≠ 0 → s.client.transferFile.active = true
  opening : s.user = .opening →
    s.client.transferFile.sfd = 0 ∧ s.loc.works = none ∧ s.loc.resets = none
  code : ∀ fd err, s.loc = .reset fd err → err = 0 ∨ err = -1

/-- A thread without a socket. -/
lemma own_of_idle (hworks : s.loc.works = none) (hresets : s.loc.resets = none)
    (hactive : s.client.transferFile.sfd ≠ 0 → s.client.transferFile.active = true)
    (huser : s.user = .opening → s.client.transferFile.sfd = 0) : s.Own := by
  refine ⟨⟨fun fd h => ?_, fun fd h => ?_⟩, fun fd h => ?_, hactive,
    fun h => ⟨huser h, hworks, hresets⟩, fun fd err h => ?_⟩
  · rw [hworks] at h
    cases h
  · rw [hresets] at h
    cases h
  · rw [hworks, hresets] at h
    obtain h | h := h
    · cases h
    · cases h
  · rw [h] at hresets
    cases hresets

/-- A thread with the socket of the transfer. -/
lemma own_of_works {fd : ℕ} (hworks : s.loc.works = some fd) (hne : fd ≠ 0)
    (hactive : s.client.transferFile.active = true) (hsfd : s.client.transferFile.sfd = fd)
    (huser : s.user ≠ .opening) : s.Own := by
  have hresets : s.loc.resets = none := by
    cases hloc : s.loc with
    | reset fd err =>
        rw [hloc] at hworks
        cases hworks
    | _ => rfl
  refine ⟨⟨fun fd' h => ?_, fun fd' h => ?_⟩, fun fd' h => ?_, fun _ => hactive,
    fun h => absurd h huser, fun fd' err h => ?_⟩
  · obtain rfl := Option.some.inj (hworks.symm.trans h)
    exact ⟨hactive, hsfd⟩
  · rw [hresets] at h
    cases h
  · obtain h | h := h
    · obtain rfl := Option.some.inj (hworks.symm.trans h)
      exact hne
    · rw [hresets] at h
      cases h
  · rw [h] at hresets
    cases hresets

/-- A thread that is about to reset the socket. -/
lemma own_of_resets {fd : ℕ} {err : Int8} (hloc : s.loc = .reset fd err) (hne : fd ≠ 0)
    (hactive : s.client.transferFile.sfd ≠ 0 → s.client.transferFile.active = true)
    (hsfd : s.client.transferFile.active = true → s.client.transferFile.sfd = fd)
    (huser : s.user ≠ .opening) (herr : err = 0 ∨ err = -1) : s.Own := by
  refine ⟨⟨fun fd' h => ?_, fun fd' h hactive => ?_⟩, fun fd' h => ?_, hactive,
    fun h => absurd h huser, fun fd' err' h => ?_⟩
  · rw [hloc] at h
    cases h
  · rw [hloc] at h
    cases h
    exact hsfd hactive
  · rw [hloc] at h
    obtain h | h := h
    · cases h
    · cases h
      exact hne
  · rw [hloc] at h
    cases h
    exact herr

/-- Behind `reset_transfer_socket` the thread has no socket. -/
lemma handled_idle {err : Int8} (herr : err = 0 ∨ err = -1) (fd : ℕ) :
    (handled fd err).works = none ∧ (handled fd err).resets = none := by
  obtain rfl | rfl := herr
  · exact ⟨rfl, rfl⟩
  · exact ⟨rfl, rfl⟩

lemma own_start {c : Client} (hc : c.transferFile = .zero) : (start c).Own := by
  have hsfd : c.transferFile.sfd = 0 := congrArg FileTransferInfos.sfd hc
  exact own_of_idle rfl rfl (fun hne => absurd hsfd hne) fun _ => hsfd

namespace Own

variable {fd : ℕ}

lemma user_ne (h : s.Own) (hworks : s.loc.works = some fd ∨ s.loc.resets = some fd) :
    s.user ≠ .opening := by
  intro huser
  obtain ⟨-, hworks', hresets'⟩ := h.opening huser
  rw [hworks', hresets'] at hworks
  obtain h | h := hworks
  · cases h
  · cases h

/-- **One step of the thread.** -/
lemma step {a : UdpAct} (h : s.Own) (hstep : StepCase s a s' out) (hnot : ∀ u, a ≠ .user u) :
    s'.Own := by
  cases hstep with
  | waits _ hsfd => exact own_of_idle rfl rfl h.active fun _ => hsfd
  | takes _ hsfd =>
      exact own_of_works rfl hsfd (h.active hsfd) rfl fun huser => hsfd (h.opening huser).1
  | wakes => exact own_of_idle rfl rfl h.active fun huser => (h.opening huser).1
  | moves _ hworks hworks' =>
      obtain ⟨hactive, hsfd⟩ := h.own.works _ hworks
      exact own_of_works hworks' (h.ne_zero _ (.inl hworks)) hactive hsfd (h.user_ne (.inl hworks))
  | gives => exact own_of_idle rfl rfl h.active fun huser => (h.opening huser).1
  | expires => exact own_of_idle rfl rfl (fun hsfd => absurd rfl hsfd) fun _ => rfl
  | @idles fd hloc =>
      have hworks : s.loc.works = some fd := congrArg UdpLoc.works hloc
      obtain ⟨hactive, hsfd⟩ := h.own.works _ hworks
      exact own_of_resets rfl (h.ne_zero _ (.inl hworks)) (fun _ => hactive) (fun _ => hsfd)
        (h.user_ne (.inl hworks)) (.inl rfl)
  | @stores env fd p c hloc hcase =>
      have hworks : s.loc.works = some fd := congrArg UdpLoc.works hloc
      obtain ⟨hactive, hsfd⟩ := h.own.works _ hworks
      obtain ⟨hactive', hsfd'⟩ := hcase.keeps (by decide)
      exact own_of_works rfl (h.ne_zero _ (.inl hworks)) (hactive'.trans hactive)
        (hsfd'.trans hsfd) (h.user_ne (.inl hworks))
  | @fails env fd p c hloc hcase =>
      have hworks : s.loc.works = some fd := congrArg UdpLoc.works hloc
      obtain ⟨hactive, hsfd⟩ := h.own.works _ hworks
      obtain ⟨hactive', hsfd'⟩ := hcase.keeps (by decide)
      exact own_of_resets rfl (h.ne_zero _ (.inl hworks)) (fun _ => hactive'.trans hactive)
        (fun _ => hsfd'.trans hsfd) (h.user_ne (.inl hworks)) (.inr rfl)
  | @completes env fd p c hloc hcase =>
      have hworks : s.loc.works = some fd := congrArg UdpLoc.works hloc
      have hzero := hcase.transferFile_eq
      refine own_of_resets rfl (h.ne_zero _ (.inl hworks)) (fun hsfd => ?_) (fun hactive => ?_)
        (h.user_ne (.inl hworks)) (.inl rfl)
      · exact absurd (congrArg FileTransferInfos.sfd hzero) hsfd
      · exact absurd (hactive.symm.trans (congrArg FileTransferInfos.active hzero)) (by decide)
  | @resets fd err hloc =>
      obtain ⟨hworks, hresets⟩ := handled_idle (h.code fd err hloc) fd
      exact own_of_idle hworks hresets (fun hsfd => absurd rfl hsfd) fun _ => rfl
  | user => exact absurd rfl (hnot _)

/-- **One step of the user** that does not disturb the thread. -/
lemma userStep {u : UserAct} (h : s.Own) (hu : UserCase s u s')
    (hnot : ¬Disturbs ⟨s, .user u, out, s'⟩) : s'.Own := by
  cases hu with
  | begins =>
      have hidle : s.loc.works = none ∧ s.loc.resets = none := by
        by_contra hwork
        exact hnot (.begins rfl (not_and_or.mp hwork))
      exact own_of_idle hidle.1 hidle.2 (fun _ => rfl) fun _ => rfl
  | @opens env huser =>
      obtain ⟨-, hworks, hresets⟩ := h.opening huser
      refine own_of_idle hworks hresets ?_ nofun
      obtain hsame | ⟨hactive, sfd, hset⟩ := transferFile_createTransferAddress env s.client
      · rw [hsame]
        exact h.active
      · rw [hset]
        exact fun _ => hactive
  | requests => exact ⟨⟨h.own.works, h.own.resets⟩, h.ne_zero, h.active, nofun, h.code⟩
  | identifies => exact ⟨⟨h.own.works, h.own.resets⟩, h.ne_zero, h.active, h.opening, h.code⟩
  | signals =>
      obtain ⟨hclient, -, hloc | ⟨-, hloc⟩⟩ := signalTransfer_spec s
      · refine ⟨⟨?_, ?_⟩, ?_, ?_, nofun, ?_⟩
        · simp only [hclient, hloc]
          exact h.own.works
        · simp only [hclient, hloc]
          exact h.own.resets
        · simp only [hloc]
          exact h.ne_zero
        · simp only [hclient]
          exact h.active
        · simp only [hloc]
          exact h.code
      · refine own_of_idle (congrArg UdpLoc.works hloc) (congrArg UdpLoc.resets hloc) ?_ nofun
        simp only [hclient]
        exact h.active
  | clears huser =>
      have hworks : s.loc.works = none := by
        by_contra hwork
        exact hnot (.clears rfl hwork)
      cases hresets : s.loc.resets with
      | none => exact own_of_idle hworks hresets (fun hsfd => absurd rfl hsfd) fun _ => rfl
      | some fd =>
          obtain ⟨err, hloc⟩ := UdpLoc.exists_of_resets hresets
          exact own_of_resets hloc (h.ne_zero fd (.inr hresets)) (fun hsfd => absurd rfl hsfd) nofun
            nofun (h.code fd err hloc)
  | ends => exact ⟨⟨h.own.works, h.own.resets⟩, h.ne_zero, h.active, nofun, h.code⟩

end Own

/-- Behind a step that disturbs the thread, this has lost its transfer. -/
lemma Disturbs.not_worksOnOwn {a : UdpAct} (hb : Disturbs ⟨s, a, out, s'⟩) (h : s.Own)
    (hstep : s.step a = some (s', out)) : ¬s'.WorksOnOwn := by
  intro hown
  cases hb with
  | @begins download now fileName hact hworks =>
      obtain rfl : a = .user (.transferNew download now fileName) := hact
      obtain ⟨s₁, hu, heq⟩ := Option.map_eq_some_iff.mp hstep
      cases heq
      cases userStep_cases hu with
      | begins =>
          obtain hworks | hresets := hworks
          · obtain ⟨fd, hfd⟩ := Option.ne_none_iff_exists'.mp hworks
            exact h.ne_zero fd (.inl hfd) (hown.works fd hfd).2.symm
          · obtain ⟨fd, hfd⟩ := Option.ne_none_iff_exists'.mp hresets
            exact h.ne_zero fd (.inr hfd) (hown.resets fd hfd rfl).symm
  | clears hact hworks =>
      obtain rfl : a = .user .clearCurrentTransfer := hact
      obtain ⟨s₁, hu, heq⟩ := Option.map_eq_some_iff.mp hstep
      cases heq
      cases userStep_cases hu with
      | clears =>
          obtain ⟨fd, hfd⟩ := Option.ne_none_iff_exists'.mp hworks
          exact Bool.false_ne_true (hown.works fd hfd).1

/-! ### The packets of a transfer -/

end UdpClient

/-- Packets, stored one after the other. -/
def FileTransferInfos.recordAll (infos : FileTransferInfos) (ps : List Packet) :
    Option FileTransferInfos :=
  ps.foldlM (fun infos p => infos.record p.numblock p.data p.nbytes) infos

namespace FileTransferInfos

variable {infos infos' : FileTransferInfos} {ps : List Packet}

lemma recordAll_concat (h : infos.recordAll ps = some infos') (p : Packet) :
    infos.recordAll (ps ++ [p]) = infos'.record p.numblock p.data p.nbytes := by
  rw [recordAll] at h
  rw [recordAll, List.foldlM_append, h]
  simp

/-- The socket does not matter to what is stored. -/
lemma record_withSfd {numblock : UInt16} {data : Block} {nbytes : ℕ}
    (h : infos.record numblock data nbytes = some infos') (sfd : ℕ) :
    { infos with sfd := sfd }.record numblock data nbytes = some { infos' with sfd := sfd } := by
  obtain ⟨fileData, hset, rfl⟩ := Option.map_eq_some_iff.mp h
  rw [record, hset]
  rfl

lemma recordAll_withSfd (h : infos.recordAll ps = some infos') (sfd : ℕ) :
    { infos with sfd := sfd }.recordAll ps = some { infos' with sfd := sfd } := by
  induction ps generalizing infos with
  | nil =>
      cases h
      rfl
  | cons p ps ih =>
      obtain ⟨infos₁, hrecord, h⟩ := Option.bind_eq_some_iff.mp h
      rw [recordAll, List.foldlM_cons, record_withSfd hrecord]
      exact ih h

end FileTransferInfos

namespace UdpClient

variable {s s' : UdpClient} {out : List ℕ}

/-- A transfer as it began, and the packets that have been handed to `add_packet` since, each with
the socket that it was received on. -/
structure Session where
  begun : FileTransferInfos
  packets : List (ℕ × Packet)

/-- What a transition makes of the session. -/
def Session.after (σ : Option Session) (t : UdpTransition) : Option Session :=
  match t.act with
  | .user (.transferNew _ now fileName) => some ⟨transferInit now fileName 0, []⟩
  | .put _ => match t.pre.loc with
      | .put fd p => σ.map fun σ => ⟨σ.begun, σ.packets ++ [(fd, p)]⟩
      | _ => σ
  | _ => σ

/-- The session behind some transitions. -/
def session (ts : List UdpTransition) : Option Session := ts.foldl Session.after none

lemma session_concat (ts : List UdpTransition) (t : UdpTransition) :
    session (ts ++ [t]) = Session.after (session ts) t := by
  rw [session, List.foldl_append]
  rfl

lemma session_keeps {a : UdpAct} (ha : a.KeepsSession) (ts : List UdpTransition) :
    session (ts ++ [⟨s, a, out, s'⟩]) = session ts := by
  rw [session_concat]
  cases a with
  | put => exact ha.elim
  | user u =>
      cases u with
      | transferNew => exact ha.elim
      | _ => rfl
  | _ => rfl

/-- What the packets of a session make of the transfer, with the socket `sfd`. -/
def Session.transfer (σ : Session) (sfd : ℕ) : Option FileTransferInfos :=
  { σ.begun with sfd := sfd }.recordAll (σ.packets.map Prod.snd)

/-- The transfer is what the packets of its session have made of it. -/
def Recorded (ts : List UdpTransition) (s : UdpClient) : Prop :=
  s.client.transferFile.active = true → ∃ σ, session ts = some σ ∧
    σ.transfer s.client.transferFile.sfd = some s.client.transferFile

lemma session_put {env : ClientEnv} {fd : ℕ} {p : Packet} (hloc : s.loc = .put fd p)
    (ts : List UdpTransition) : session (ts ++ [⟨s, .put env, out, s'⟩]) =
      (session ts).map fun σ => ⟨σ.begun, σ.packets ++ [(fd, p)]⟩ := by
  rw [session_concat]
  simp only [Session.after, hloc]

/-- A packet that has been stored. -/
lemma Recorded.record {ts : List UdpTransition} {env : ClientEnv} {fd : ℕ} {p : Packet}
    {infos : FileTransferInfos} (h : Recorded ts s) (hloc : s.loc = .put fd p)
    (hactive : s.client.transferFile.active = true)
    (hrecord : s.client.transferFile.record p.numblock p.data p.nbytes = some infos) :
    ∃ σ, session (ts ++ [⟨s, .put env, out, s'⟩]) = some σ ∧ σ.transfer infos.sfd = some infos := by
  obtain ⟨σ, hσ, htransfer⟩ := h hactive
  refine ⟨⟨σ.begun, σ.packets ++ [(fd, p)]⟩, ?_, ?_⟩
  · rw [session_put hloc, hσ, Option.map_some]
  · obtain ⟨-, hsfd, -⟩ := FileTransferInfos.record_keeps hrecord
    rw [Session.transfer, hsfd, List.map_append, List.map_singleton]
    exact (FileTransferInfos.recordAll_concat htransfer p).trans hrecord

lemma Recorded.keep {ts : List UdpTransition} {a : UdpAct} (h : Recorded ts s)
    (ha : a.KeepsSession) (hsame : s'.client.transferFile = s.client.transferFile) :
    Recorded (ts ++ [⟨s, a, out, s'⟩]) s' := by
  rw [Recorded, session_keeps ha, hsame]
  exact h

lemma Recorded.of_free {ts : List UdpTransition} (h : s.client.transferFile.active = false) :
    Recorded ts s := fun hactive => absurd (h.symm.trans hactive) Bool.false_ne_true

/-- Another socket. -/
lemma Recorded.withSfd {ts : List UdpTransition} {a : UdpAct} {sfd : ℕ} (h : Recorded ts s)
    (ha : a.KeepsSession)
    (hset : s'.client.transferFile = { s.client.transferFile with sfd := sfd }) :
    Recorded (ts ++ [⟨s, a, out, s'⟩]) s' := by
  rw [Recorded, session_keeps ha, hset]
  intro hactive
  obtain ⟨σ, hσ, htransfer⟩ := h hactive
  exact ⟨σ, hσ, FileTransferInfos.recordAll_withSfd htransfer sfd⟩

/-- **One step.** -/
lemma Recorded.step {ts : List UdpTransition} {a : UdpAct} (h : Recorded ts s)
    (hstep : StepCase s a s' out) : Recorded (ts ++ [⟨s, a, out, s'⟩]) s' := by
  cases hstep with
  | waits => exact h.keep trivial rfl
  | takes => exact h.keep trivial rfl
  | wakes => exact h.keep trivial rfl
  | moves hact => exact h.keep hact.keepsSession rfl
  | gives hact => exact h.keep hact.keepsSession rfl
  | expires => exact .of_free rfl
  | idles => exact h.keep trivial rfl
  | stores hloc hcase =>
      cases hcase with
      | ignored hfree => exact .of_free hfree
      | stored hactive hrecord => exact fun _ => h.record hloc hactive hrecord
  | fails hloc hcase =>
      cases hcase with
      | failed hactive hrecord => exact fun _ => h.record hloc hactive hrecord
  | completes hloc hcase =>
      exact .of_free (congrArg FileTransferInfos.active hcase.transferFile_eq)
  | resets => exact h.withSfd trivial rfl
  | user hu =>
      cases userStep_cases hu with
      | begins => exact fun _ => ⟨_, session_concat ts _, rfl⟩
      | @opens env huser =>
          obtain hsame | ⟨-, sfd, hset⟩ := transferFile_createTransferAddress env s.client
          · exact h.keep trivial hsame
          · exact h.withSfd trivial hset
      | requests => exact h.keep trivial rfl
      | identifies => exact h.keep trivial rfl
      | signals =>
          exact h.keep trivial (congrArg Client.transferFile (signalTransfer_spec s).1)
      | clears => exact .of_free rfl
      | ends => exact h.keep trivial rfl

/-- A transfer that is prepared, or that is there for the thread to take. -/
def Prepared (s : UdpClient) : Prop := s.client.transferFile.sfd ≠ 0 ∨ s.user = .opening

/-- The packets of a session are of the socket that the thread works on, and there are none before
it does. -/
structure OwnPackets (ts : List UdpTransition) (s : UdpClient) : Prop where
  works : ∀ σ fd, session ts = some σ → s.loc.works = some fd → ∀ q ∈ σ.packets, q.1 = fd
  waits : ∀ σ, session ts = some σ → s.loc.Waits → s.Prepared → σ.packets = []

namespace OwnPackets

variable {ts : List UdpTransition} {a : UdpAct}

lemma keep (h : OwnPackets ts s) (ha : a.KeepsSession)
    (hworks : ∀ fd, s'.loc.works = some fd → s.loc.works = some fd)
    (hwaits : s'.loc.Waits → s'.Prepared → s.loc.Waits ∧ s.Prepared) :
    OwnPackets (ts ++ [⟨s, a, out, s'⟩]) s' := by
  refine ⟨fun σ fd hσ hfd => ?_, fun σ hσ hloc hprepared => ?_⟩
  · rw [session_keeps ha] at hσ
    exact h.works σ fd hσ (hworks fd hfd)
  · rw [session_keeps ha] at hσ
    obtain ⟨hloc', hprepared'⟩ := hwaits hloc hprepared
    exact h.waits σ hσ hloc' hprepared'

lemma of_idle (hworks : s.loc.works = none) (hwaits : s.loc.Waits → ¬s.Prepared) :
    OwnPackets ts s := by
  refine ⟨fun σ fd _ hfd => ?_, fun σ _ hloc hprepared => absurd hprepared (hwaits hloc)⟩
  rw [hworks] at hfd
  cases hfd

/-- **One step of the thread.** -/
lemma step (h : OwnPackets ts s) (hown : s.Own) (hstep : StepCase s a s' out)
    (hnot : ∀ u, a ≠ .user u) : OwnPackets (ts ++ [⟨s, a, out, s'⟩]) s' := by
  cases hstep with
  | waits hloc => exact h.keep trivial nofun fun _ hprepared => ⟨.inl hloc, hprepared⟩
  | takes hloc hsfd =>
      refine ⟨fun σ fd hσ _ => ?_, nofun⟩
      rw [session_keeps (show UdpAct.KeepsSession .wait from trivial)] at hσ
      rw [h.waits σ hσ (.inl hloc) (.inl hsfd)]
      exact nofun
  | wakes hloc => exact h.keep trivial nofun fun _ hprepared => ⟨.inr hloc, hprepared⟩
  | @moves a fd loc hact hworks hworks' =>
      refine h.keep hact.keepsSession (fun fd' hfd' => ?_) fun hwaits => ?_
      · rw [hworks, ← hworks']
        exact hfd'
      · rw [UdpLoc.works_eq_none hwaits] at hworks'
        cases hworks'
  | gives => exact .of_idle rfl nofun
  | @expires fd now hloc =>
      have hworks : s.loc.works = some fd := congrArg UdpLoc.works hloc
      refine .of_idle rfl fun _ hprepared => ?_
      obtain hsfd | huser := hprepared
      · exact hsfd rfl
      · exact hown.user_ne (.inl hworks) huser
  | idles => exact .of_idle rfl nofun
  | @stores env fd p c hloc =>
      refine ⟨fun σ fd' hσ hfd' q hq => ?_, nofun⟩
      rw [session_put hloc] at hσ
      obtain ⟨σ₀, hσ₀, rfl⟩ := Option.map_eq_some_iff.mp hσ
      obtain rfl : fd = fd' := Option.some.inj hfd'
      obtain hq | hq := List.mem_append.mp hq
      · exact h.works σ₀ fd hσ₀ (congrArg UdpLoc.works hloc) q hq
      · rw [List.mem_singleton.mp hq]
  | fails => exact .of_idle rfl nofun
  | completes => exact .of_idle rfl nofun
  | @resets fd err hloc =>
      obtain ⟨hworks, -⟩ := handled_idle (hown.code fd err hloc) fd
      refine .of_idle hworks fun _ hprepared => ?_
      obtain hsfd | huser := hprepared
      · exact hsfd rfl
      · exact hown.user_ne (.inr (congrArg UdpLoc.resets hloc)) huser
  | user => exact absurd rfl (hnot _)

/-- **One step of the user** that does not disturb the thread. -/
lemma userStep {u : UserAct} (h : OwnPackets ts s) (hu : UserCase s u s')
    (hnot : ¬Disturbs ⟨s, .user u, out, s'⟩) : OwnPackets (ts ++ [⟨s, .user u, out, s'⟩]) s' := by
  cases hu with
  | begins =>
      refine ⟨fun σ fd hσ _ => ?_, fun σ hσ _ _ => ?_⟩
      · rw [session_concat] at hσ
        cases hσ
        exact nofun
      · rw [session_concat] at hσ
        cases hσ
        rfl
  | opens huser => exact h.keep trivial (fun _ hfd => hfd) fun hloc _ => ⟨hloc, .inr huser⟩
  | requests =>
      refine h.keep trivial (fun _ hfd => hfd) fun hloc hprepared => ⟨hloc, ?_⟩
      obtain hsfd | huser := hprepared
      · exact .inl hsfd
      · cases huser
  | identifies => exact h.keep trivial (fun _ hfd => hfd) fun hloc hprepared => ⟨hloc, hprepared⟩
  | signals =>
      obtain ⟨hclient, -, hloc⟩ := signalTransfer_spec s
      refine h.keep trivial (fun fd hfd => ?_) fun hwaits hprepared => ⟨?_, ?_⟩
      · obtain hloc | ⟨-, hloc⟩ := hloc
        · exact (congrArg UdpLoc.works hloc).symm.trans hfd
        · exact absurd ((congrArg UdpLoc.works hloc).symm.trans hfd) nofun
      · obtain hloc | ⟨hloc, -⟩ := hloc
        · exact hloc ▸ hwaits
        · exact .inr hloc
      · obtain hsfd | huser := hprepared
        · exact .inl (hclient ▸ hsfd)
        · cases huser
  | clears =>
      have hworks : s.loc.works = none := by
        by_contra hwork
        exact hnot (.clears rfl hwork)
      refine .of_idle hworks fun _ hprepared => ?_
      obtain hsfd | huser := hprepared
      · exact hsfd rfl
      · cases huser
  | ends =>
      refine h.keep trivial (fun _ hfd => hfd) fun hloc hprepared => ⟨hloc, ?_⟩
      obtain hsfd | huser := hprepared
      · exact .inl hsfd
      · cases huser

end OwnPackets

/-! ### Files and sockets -/

/-- Only the socket that the thread works on is closed. -/
def ClosesOwn (t : UdpTransition) : Prop := ∀ fd ∈ t.out, t.pre.loc.works = some fd

/-- A file that is written is made of the packets of its session, all of which have been received on
the socket that the thread works on. -/
def WritesOwn (ts : List UdpTransition) (t : UdpTransition) : Prop :=
  t.post.client.disk ≠ t.pre.client.disk → ∃ env fd p σ infos, t.act = .put env ∧
    t.pre.loc = .put fd p ∧ session ts = some σ ∧ (∀ q ∈ σ.packets, q.1 = fd) ∧
    { σ.begun with sfd := fd }.recordAll (σ.packets.map Prod.snd ++ [p]) = some infos ∧
    t.pre.client.Writes env infos t.post.client

lemma disk_transferNew (now : ℕ) (c : Client) (fileName : ℕ → UInt8) :
    (c.transferNew now fileName).disk = c.disk := by
  rw [Client.transferNew]
  split
  · rfl
  · rfl

lemma disk_createTransferAddress (env : RequestEnv) (c : Client) :
    (c.createTransferAddress env).2.disk = c.disk := by
  rw [Client.createTransferAddress]
  split
  · rfl
  · split
    · rfl
    · rfl

lemma UserCase.disk_eq {u : UserAct} (h : UserCase s u s') : s'.client.disk = s.client.disk := by
  cases h with
  | begins => exact disk_transferNew _ _ _
  | opens => exact disk_createTransferAddress _ _
  | signals => exact congrArg Client.disk (signalTransfer_spec s).1
  | _ => rfl

/-- **One step**: what it closes and what it writes. -/
lemma Own.closes_writes {ts : List UdpTransition} {a : UdpAct} (h : s.Own)
    (hpackets : OwnPackets ts s) (hrecorded : Recorded ts s) (hstep : StepCase s a s' out) :
    ClosesOwn ⟨s, a, out, s'⟩ ∧ WritesOwn ts ⟨s, a, out, s'⟩ := by
  cases hstep with
  | @expires fd now hloc =>
      have hworks : s.loc.works = some fd := congrArg UdpLoc.works hloc
      refine ⟨fun fd' hfd' => ?_, fun hdisk => absurd rfl hdisk⟩
      rw [List.mem_singleton.mp hfd', (h.own.works fd hworks).2]
      exact hworks
  | @idles fd hloc =>
      refine ⟨fun fd' hfd' => ?_, fun hdisk => absurd rfl hdisk⟩
      rw [List.mem_singleton.mp hfd']
      exact congrArg UdpLoc.works hloc
  | @completes env fd p c hloc hcase =>
      have hworks : s.loc.works = some fd := congrArg UdpLoc.works hloc
      have hsfd := (h.own.works fd hworks).2
      refine ⟨fun fd' hfd' => ?_, fun _ => ?_⟩
      · rw [List.mem_singleton.mp hfd', hsfd]
        exact hworks
      · cases hcase with
        | written hactive hrecord hwrites =>
            obtain ⟨σ, hσ, htransfer⟩ := hrecorded hactive
            rw [hsfd] at htransfer
            exact ⟨env, fd, p, σ, _, rfl, hloc, hσ, hpackets.works σ fd hσ hworks,
              (FileTransferInfos.recordAll_concat htransfer p).trans hrecord, hwrites⟩
  | stores hloc hcase =>
      cases hcase with
      | ignored => exact ⟨nofun, fun hdisk => absurd rfl hdisk⟩
      | stored => exact ⟨nofun, fun hdisk => absurd rfl hdisk⟩
  | fails hloc hcase =>
      cases hcase with
      | failed => exact ⟨nofun, fun hdisk => absurd rfl hdisk⟩
  | user hu => exact ⟨nofun, fun hdisk => absurd (userStep_cases hu).disk_eq hdisk⟩
  | _ => exact ⟨nofun, fun hdisk => absurd rfl hdisk⟩

/-! ### Wake-ups -/

/-- Whether the last exchange that has ended has ended with `signal_transfer`. -/
def signalled (ts : List UdpTransition) : Option Bool :=
  ts.foldl (fun last t => match t.act with
    | .user .signalTransfer => some true
    | .user .clearCurrentTransfer => some false
    | .user .ends => some false
    | _ => last) none

/-- While the thread waits for a signal, there is no socket for it, or the exchange is still going
on, or it has ended without a signal. -/
structure Awake (ts : List UdpTransition) (s : UdpClient) : Prop where
  waiting : s.loc = .waiting → s.client.transferFile.sfd ≠ 0 →
    s.user = .exchanging ∨ signalled ts = some false
  opening : s.user = .opening → s.client.transferFile.sfd = 0

lemma awake_start {c : Client} (hc : c.transferFile = .zero) : Awake [] (start c) :=
  ⟨nofun, fun _ => congrArg FileTransferInfos.sfd hc⟩

/-- What a step of the thread leaves: no socket but the one that there was, and it waits for a
signal when there is none. -/
lemma StepCase.thread {a : UdpAct} (h : StepCase s a s' out) (hnot : ∀ u, a ≠ .user u) :
    s'.user = s.user ∧ (s.client.transferFile.sfd = 0 → s'.client.transferFile.sfd = 0) ∧
      (s'.loc = .waiting → s'.client.transferFile.sfd = 0) := by
  cases h with
  | waits _ hsfd => exact ⟨rfl, id, fun _ => hsfd⟩
  | moves _ _ hworks' =>
      refine ⟨rfl, id, fun hloc => ?_⟩
      rw [UdpLoc.works_eq_none (.inr hloc)] at hworks'
      cases hworks'
  | expires => exact ⟨rfl, fun _ => rfl, fun _ => rfl⟩
  | stores hloc hcase =>
      refine ⟨rfl, fun hsfd => ?_, nofun⟩
      exact (hcase.keeps (by decide)).2.trans hsfd
  | fails hloc hcase =>
      refine ⟨rfl, fun hsfd => ?_, nofun⟩
      exact (hcase.keeps (by decide)).2.trans hsfd
  | completes hloc hcase =>
      exact ⟨rfl, fun _ => congrArg FileTransferInfos.sfd hcase.transferFile_eq, nofun⟩
  | resets => exact ⟨rfl, fun _ => rfl, fun _ => rfl⟩
  | user => exact absurd rfl (hnot _)
  | _ => exact ⟨rfl, id, nofun⟩

/-- **One step.** -/
lemma Awake.step {ts : List UdpTransition} {a : UdpAct} (h : Awake ts s)
    (hstep : StepCase s a s' out) : Awake (ts ++ [⟨s, a, out, s'⟩]) s' := by
  obtain hthread | ⟨u, rfl⟩ := a.thread_or_user
  · obtain ⟨huser, hsfd, hwaiting⟩ := hstep.thread hthread
    refine ⟨fun hloc hne => absurd (hwaiting hloc) hne, fun hopening => ?_⟩
    exact hsfd (h.opening (huser.symm.trans hopening))
  · have hconcat : signalled (ts ++ [⟨s, .user u, out, s'⟩]) = match u with
        | .signalTransfer => some true
        | .clearCurrentTransfer => some false
        | .ends => some false
        | _ => signalled ts := by
      rw [signalled, List.foldl_append]
      cases u <;> rfl
    cases hstep.userCase with
    | begins => exact ⟨fun _ hne => absurd rfl hne, fun _ => rfl⟩
    | opens => exact ⟨fun _ _ => .inl rfl, nofun⟩
    | requests => exact ⟨fun _ _ => .inl rfl, nofun⟩
    | identifies =>
        refine ⟨fun hloc hne => ?_, h.opening⟩
        rw [hconcat]
        exact h.waiting hloc hne
    | signals =>
        obtain ⟨-, hloc, -⟩ := signalTransfer_spec s
        exact ⟨fun hloc' => absurd hloc' hloc, nofun⟩
    | clears => exact ⟨fun _ hne => absurd rfl hne, nofun⟩
    | ends => exact ⟨fun _ _ => .inr hconcat, nofun⟩

/-! ### Runs -/

/-- What a run leaves without a transition that disturbs the thread. -/
structure Undisturbed (ts : List UdpTransition) (s : UdpClient) : Prop where
  own : s.Own
  packets : OwnPackets ts s
  recorded : Recorded ts s

lemma Undisturbed.step {ts : List UdpTransition} {a : UdpAct} (h : Undisturbed ts s)
    (hnot : ¬Disturbs ⟨s, a, out, s'⟩) (hstep : s.step a = some (s', out)) :
    Undisturbed (ts ++ [⟨s, a, out, s'⟩]) s' := by
  have hcase := step_cases hstep
  refine ⟨?_, ?_, h.recorded.step hcase⟩
  · obtain hthread | ⟨u, rfl⟩ := a.thread_or_user
    · exact h.own.step hcase hthread
    · exact h.own.userStep hcase.userCase hnot
  · obtain hthread | ⟨u, rfl⟩ := a.thread_or_user
    · exact h.packets.step h.own hcase hthread
    · exact h.packets.userStep hcase.userCase hnot

lemma undisturbed_start {c : Client} (hc : c.transferFile = .zero) : Undisturbed [] (start c) := by
  refine ⟨own_start hc, .of_idle rfl fun _ hprepared => ?_, .of_free ?_⟩
  · obtain hsfd | huser := hprepared
    · exact hsfd (congrArg FileTransferInfos.sfd hc)
    · cases huser
  · exact congrArg FileTransferInfos.active hc

/-- **Downloads are isolated.**  Over every run of the thread of the downloads and the thread of the
user, in any order of their steps, from their start:

* the thread works on the socket of the transfer in every state just when the user neither begins a
  transfer nor has one cleared while it does;
* in such a run it closes no other socket, and each file that is written is made of the packets that
  have been received on the socket of its own transfer since this began, in their order;
* in every run, while the thread waits there is no socket, or an exchange is still going on, or the
  last one has ended without a signal. -/
theorem downloads_isolated_iff {c : Client} {ts : List UdpTransition} {s : UdpClient}
    (hc : c.transferFile = .zero) (hrun : Machine.Run step (start c) ts s) :
    ((∀ us s', us <+: ts → Machine.Run step (start c) us s' → s'.WorksOnOwn) ↔
        ∀ t ∈ ts, ¬Disturbs t) ∧
      ((∀ t ∈ ts, ¬Disturbs t) → ∀ us t, us ++ [t] <+: ts → ClosesOwn t ∧ WritesOwn us t) ∧
      ∀ us s', us <+: ts → Machine.Run step (start c) us s' → Awake us s' := by
  refine ⟨?_, fun hnot us t hus => ?_, fun us s' _ hrun' => ?_⟩
  · exact hrun.forall_prefix_iff (P := Undisturbed) (H := fun _ s => s.WorksOnOwn) (B := Disturbs)
      (fun _ _ h => h.own.own) (fun us s a s' o h hstep hb => hb.not_worksOnOwn h.own hstep)
      (fun us s a s' o h hstep hb => h.step hb hstep) (undisturbed_start hc)
  · obtain ⟨vs, rfl⟩ := hus
    rw [List.append_assoc] at hrun
    obtain ⟨s₁, hrun₁, hrun₂⟩ := hrun.split
    cases hrun₂ with
    | cons hstep _ =>
        have hundisturbed := hrun₁.history (P := Undisturbed) (Q := fun t => ¬Disturbs t)
          (fun us s a s' o h hb hstep => h.step hb hstep)
          (fun t ht => hnot t (List.mem_append_left _ (List.mem_append_left _ ht)))
          (undisturbed_start hc)
        exact hundisturbed.own.closes_writes hundisturbed.packets hundisturbed.recorded
          (step_cases hstep)
  · exact hrun'.history (P := Awake) (Q := fun _ => True)
      (fun us s a s' o h _ hstep => h.step (step_cases hstep)) (fun _ _ => trivial)
      (awake_start hc)

namespace OneDownload

/-- An outside in which the socket 5 is opened. -/
def address : RequestEnv := ⟨0, fun _ => 0, some (5, 1), 0⟩

/-- An outside in which the file can be written. -/
def outside : ClientEnv :=
  ⟨some [104], fun _ => true, fun _ => true, fun _ => true, fun _ => true, fun _ => 0⟩

/-- The steps of a download of one byte. -/
def acts : List UdpAct :=
  [.wait, .user (.transferNew true 0 (ofList [97] 0)), .user (.createTransferAddress address),
    .user .signalTransfer, .wait, .check 0, .poll (.ready true), .recv (.datagram [0, 6, 0, 1, 99]),
    .put outside, .reset]

set_option maxRecDepth 100000 in
/-- A download whose packet arrives, and whose file is written. -/
theorem downloads_isolated_iff_one : ∃ ts s,
    Machine.Run step (start Client.SomeLines.client) ts s ∧ ts.map (·.act) = acts ∧
    ts.flatMap (·.out) = [5] ∧ s.client.disk.map (·.2) = [[99]] ∧
    ((∀ us s', us <+: ts → Machine.Run step (start Client.SomeLines.client) us s' →
        s'.WorksOnOwn) ↔ ∀ t ∈ ts, ¬Disturbs t) ∧
      ((∀ t ∈ ts, ¬Disturbs t) → ∀ us t, us ++ [t] <+: ts → ClosesOwn t ∧ WritesOwn us t) ∧
      ∀ us s', us <+: ts → Machine.Run step (start Client.SomeLines.client) us s' →
        Awake us s' := by
  have hfacts : (Machine.exec step (start Client.SomeLines.client) acts).map
      (fun p => (p.1.flatMap (·.out), p.2.client.disk.map (·.2))) = some ([5], [[99]]) := rfl
  obtain ⟨⟨ts, s⟩, hexec, hfacts⟩ := Option.map_eq_some_iff.mp hfacts
  obtain ⟨hrun, hacts⟩ := Machine.run_of_exec hexec
  obtain ⟨hclosed, hdisk⟩ := Prod.mk.inj hfacts
  exact ⟨ts, s, hrun, hacts, hclosed, hdisk, downloads_isolated_iff rfl hrun⟩

end OneDownload

end UdpClient

end Megaphone
