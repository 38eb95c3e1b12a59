import Megaphone.Server.TcpServer
import Megaphone.Server.Outcome

/-!
The faults of a connection of the TCP server.

* `ConnEnv.FaultFree`: a connection without any of the faults: a `recv` that does not return, a
  failing `recv` or `send`, bytes that name no request, a handler that leaves its memory, a feed
  without directory, `ENOMEM`, a file that cannot be sent.
* `TcpServer.Answered`: what a connection that has been answered leaves of the state.
* `TcpServer.handleTcpConnection_spec`: `handle_tcp_connection` returns 0 exactly without a fault.
-/

namespace Megaphone

open Memory Framing

variable {σ : Type}

namespace Server

/-- A request keeps the invariant of the table. -/
lemma handleTcpConnection_tableInv {env : Env} {s s' : Server} {rq : ClientRQ} {ans : Answer}
    (hinv : s.TableInv) (h : s.handleTcpConnection env rq = some (s', ans)) : s'.TableInv := by
  have hstep : step ⟨s, .sleep⟩ (.tcp env rq) = some (⟨s', .sleep⟩, some ans) := by
    rw [step, h, Option.map_some]
  exact hinv.effect (step_table (w := ⟨s, .sleep⟩) hinv hstep)

end Server

/-! ### Files -/

/-- A file that can be sent from its path: it can be opened, and mapped unless it is empty, it is
not read outside its mapping, and no call of `sendto` fails. -/
def DownloadEnv.Works (env : DownloadEnv) (filePath : ℕ → UInt8) : Prop :=
  ∃ file, env.file (cString filePath MAX_DATALEN) = some file ∧
    (file.length = 0 ∨ env.mmap (cString filePath MAX_DATALEN) = true) ∧
    Server.ReadsMapped file.length ∧
    (env.socket = true → ∀ i < (numblockOf file.length).toNat, env.sendto i = true)

namespace Server

variable {env : DownloadEnv} {s : Server} {id port : UInt16} {addr : In6Addr}

lemma length_sendFtransferRequests (hton : FTransferRQ → BytesRQ) (header : UInt16)
    (file : ℕ → UInt8) (n : ℕ) :
    (sendFtransferRequests hton (ftransferrqsNew header file n) n).length =
      (numblockOf n).toNat := by
  simp [sendFtransferRequests, ftransferrqsNew]

/-- **Sending a file** from the path of a transfer. -/
lemma handleFileDowload_iff (env : DownloadEnv) (port : UInt16) (addr : In6Addr)
    {filePath : ℕ → UInt8} (hpath : s.getTranferFilePath id = some filePath) {s' : Server}
    (hclear : s.idClearTransfer id = some s') :
    (∃ s' events, s.handleFileDowload env id port addr = some (0, s', events)) ↔
      env.Works filePath := by
  simp only [handleFileDowload, createFtransferRequests, hpath, DownloadEnv.Works,
    Option.bind_eq_bind, Option.bind_some]
  cases env.file (cString filePath MAX_DATALEN) with
  | none => simp
  | some file =>
      simp only [Option.some.injEq, exists_eq_left']
      rw [← and_assoc]
      by_cases hreads : (file.length = 0 ∨ env.mmap (cString filePath MAX_DATALEN) = true) ∧
          ReadsMapped file.length
      · rw [and_iff_right hreads, if_pos hreads]
        cases hsocket : env.socket with
        | false => simp
        | true =>
            have hsend := sendAll_fst env.sendto (sendFtransferRequests htonServerrqft
              (ftransferrqsNew (mkHeader DOWNLOAD id) (ofList file 0) file.length) file.length)
            rw [length_sendFtransferRequests] at hsend
            simp [hclear, ← hsend]
      · rw [if_neg hreads, Option.bind_none]
        exact iff_of_false (by rintro ⟨_, _, ⟨⟩⟩) fun h => hreads h.1

lemma handleFileDowload_tableInv {err : UInt8} {s' : Server} {events : List SocketEvent}
    (hinv : s.TableInv) (h : s.handleFileDowload env id port addr = some (err, s', events)) :
    s'.TableInv := by
  obtain ⟨r, -, h⟩ := Option.bind_eq_some_iff.mp h
  cases r with
  | none =>
      cases h
      exact hinv
  | some p =>
      simp only at h
      split at h
      · obtain ⟨s₁, hclear, h⟩ := Option.bind_eq_some_iff.mp h
        cases h
        exact hinv.keeps (idClearTransfer_keepsTable hclear)
      · cases h
        exact hinv

end Server

/-! ### One connection -/

namespace ConnEnv

/-- The request that the client sends on the connection. -/
def Brings (env : ConnEnv) (rq : ClientRQ) : Prop :=
  ∃ c, recvClientRequest env.sock env.s .zero = some c ∧ c.clientrq = some rq

/-- A request without a fault up to its answer: neither the handler nor `send_server_request` leaves
its memory, a request that is refused is not one for a new feed without directory and `errno` is not
`ENOMEM`, and no call of `send` fails. -/
structure Answers (env : ConnEnv) (s : Server) (rq : ClientRQ) : Prop where
  inMemory : ¬s.LeavesMemory env.env rq
  refused : s.Rejects env.env rq → ¬s.NewFeedFails env.env rq ∧ env.env.enomem = false
  send : ∀ i < s.messageCount rq, env.send i = true

/-- Behind a download that is not refused the file can be sent. -/
def Downloads (env : ConnEnv) (s : Server) (rq : ClientRQ) : Prop :=
  ∀ htype rq', rq = .cl DOWNLOAD htype rq' → ¬s.Rejects env.env rq →
    env.download.Works (Server.downloadPath env.env rq')

/-- **A connection without a fault**, on the data `s`: every call of `recv` returns and none fails,
the bytes that arrive name a request, it is answered without a fault, and so is the download behind
it. -/
structure FaultFree (env : ConnEnv) (s : Server) : Prop where
  returns : ¬RecvBlocks env.sock env.s []
  recv : ¬RecvFails env.sock env.s []
  names : NamesRequest (arriving env.sock env.s [])
  answers : ∀ rq, env.Brings rq → env.Answers s rq
  downloads : ∀ rq, env.Brings rq → env.Downloads s rq

/-- What a connection brings, by the calls of `recv`: one that does not return, one that fails, or a
request. -/
lemma recv_cases (env : ConnEnv) :
    (RecvBlocks env.sock env.s [] ∧ recvClientRequest env.sock env.s .zero = none) ∨
    (¬RecvBlocks env.sock env.s [] ∧ ∃ c, recvClientRequest env.sock env.s .zero = some c ∧
      ((RecvFails env.sock env.s [] ∧ c.code ≠ 0) ∨
        (¬RecvFails env.sock env.s [] ∧ c.code = 0 ∧ ∃ rq, c.clientrq = some rq ∧
          (∀ rq', env.Brings rq' ↔ rq' = rq) ∧
          (InTable rq.type ↔ NamesRequest (arriving env.sock env.s []))))) := by
  have hframe : BytesRQ.zero.frame = [] := rfl
  by_cases hblocks : RecvBlocks env.sock env.s []
  · refine .inl ⟨hblocks, ?_⟩
    rw [recvClientRequest, recvRequest_eq_none clean_zero (by rwa [hframe]), Option.map_none]
  refine .inr ⟨hblocks, ?_⟩
  obtain ⟨r, hr, hleaves, hfails, -⟩ :=
    recvRequest_leaves clean_zero (by rwa [hframe] : ¬RecvBlocks env.sock env.s BytesRQ.zero.frame)
  rw [hframe] at hleaves hfails
  by_cases hexit : r.exit = .error
  · have hc : recvClientRequest env.sock env.s .zero =
        some ⟨1, none, r.rbytesRq, r.sock⟩ := by
      rw [recvClientRequest, hr, Option.map_some, hexit]
      rfl
    exact ⟨_, hc, .inl ⟨hfails.mp hexit, show (1 : UInt8) ≠ 0 by decide⟩⟩
  · have hcode : r.exit.code = 0 := by
      cases h : r.exit with
      | error => exact absurd h hexit
      | _ => rfl
    have hc : recvClientRequest env.sock env.s .zero =
        some ⟨0, some (decodeClientrq r.bytesRq), r.rbytesRq, r.sock⟩ := by
      rw [recvClientRequest, hr, Option.map_some, if_neg (by rw [hcode]; decide)]
    refine ⟨_, hc, .inr ⟨fun h => hexit (hfails.mpr h), rfl, _, rfl, fun rq' => ?_,
      inTable_decode_iff hleaves⟩⟩
    constructor
    · rintro ⟨c, hc', hrq'⟩
      obtain rfl := Option.some.inj (hc.symm.trans hc')
      exact (Option.some.inj hrq').symm
    · rintro rfl
      exact ⟨_, hc, rfl⟩

/-- The calls of `send` for a list of messages. -/
lemma sends_iff {ok : ℕ → Bool} (m : List UInt8) (ms : List (List UInt8)) :
    (∃ ms', sendAll ok (m :: ms) = (0, m :: ms')) ↔ ∀ i < (m :: ms).length, ok i = true := by
  rw [← sendAll_fst]
  constructor
  · rintro ⟨ms', h⟩
    rw [h]
  · intro h
    obtain ⟨ms', h'⟩ := sendAll_snd ok m ms
    exact ⟨ms', Prod.ext h h'⟩

variable {env : ConnEnv} {s : Server} {rq : ClientRQ}

/-- A request without a fault is handled, and its answer is sent. -/
lemma Answers.sent (h : env.Answers s rq) (hwf : s.transferFiles.Wf) (hrq : InTable rq.type) :
    ∃ s' ans e m ms, s.handleTcpConnection env.env rq = some (s', ans) ∧ ans.code = 0 ∧
      ans.send env.send = some (0, m :: ms) ∧ ans.entry 0 = some e := by
  have hout : s.Outcome env.env rq (s.handleTcpConnection env.env rq) :=
    Server.connection_outcome hwf hrq
  generalize s.handleTcpConnection env.env rq = r at hout ⊢
  cases hout with
  | left hleaves => exact absurd hleaves h.inMemory
  | enomem _ hrejects henomem =>
      rw [(h.refused hrejects).2] at henomem
      cases henomem
  | unknown _ hrejects hfails => exact absurd hfails (h.refused hrejects).1
  | @error s' ans e m _ hrejects _ _ hcode he _ hsend =>
      have hcount : s.messageCount rq = 1 :=
        Server.messageCount_of_not_listsPosts (Server.not_listsPosts_of_rejects hrejects)
      obtain ⟨ms', hms'⟩ := (sends_iff m []).mpr fun i hi =>
        h.send i (by rwa [hcount])
      exact ⟨s', ans, e, m, ms', rfl, hcode, by rw [hsend, hms'], he⟩
  | @accepted s' ans e m ms _ _ hcode he _ hcount hsend =>
      obtain ⟨ms', hms'⟩ := (sends_iff m ms).mpr fun i hi =>
        h.send i (hcount ▸ hi)
      exact ⟨s', ans, e, m, ms', rfl, hcode, by rw [hsend, hms'], he⟩

/-- A request that is handled, and whose answer is sent, is without a fault. -/
lemma answers_of_sent (hwf : s.transferFiles.Wf) (hrq : InTable rq.type) {s' : Server}
    {ans : Answer} {e : ServerRQ} {messages : List (List UInt8)}
    (hconn : s.handleTcpConnection env.env rq = some (s', ans)) (hcode : ans.code = 0)
    (hsent : ans.send env.send = some (0, messages)) (he : ans.entry 0 = some e) :
    env.Answers s rq := by
  have hout : s.Outcome env.env rq (s.handleTcpConnection env.env rq) :=
    Server.connection_outcome hwf hrq
  rw [hconn] at hout
  cases hout with
  | left _ hentry =>
      rw [(hentry s' ans rfl).2] at he
      cases he
  | enomem _ _ _ hone => exact absurd (hcode.symm.trans hone) (by decide)
  | unknown _ _ _ _ _ _ hsend =>
      rw [hsend] at hsent
      cases hsent
  | error hleaves hrejects hfails henomem _ _ _ hsend =>
      have hcount : s.messageCount rq = 1 :=
        Server.messageCount_of_not_listsPosts (Server.not_listsPosts_of_rejects hrejects)
      rw [hsend] at hsent
      have hall := (sendAll_fst _ _).mp (congrArg Prod.fst (Option.some.inj hsent))
      exact ⟨hleaves, fun _ => ⟨hfails, henomem⟩, fun i hi => hall i (by rwa [hcount] at hi)⟩
  | accepted hleaves hrejects _ _ _ hcount hsend =>
      rw [hsend] at hsent
      have hall := (sendAll_fst _ _).mp (congrArg Prod.fst (Option.some.inj hsent))
      exact ⟨hleaves, fun h => absurd h hrejects, fun i hi => hall i (hcount ▸ hi)⟩

end ConnEnv

namespace Server

/-- What a download that is not refused leaves: the entry of the answer, and a transfer of the
path. -/
lemma download_of_not_rejects {env : Env} {s s' : Server} {htype : DOWNLOAD ≠ REGISTRATION}
    {rq : ClientRQCl} {ans : Answer} {e : ServerRQ} (hwf : s.transferFiles.Wf)
    (hconn : s.handleTcpConnection env (.cl DOWNLOAD htype rq) = some (s', ans))
    (hnot : ¬s.Rejects env (.cl DOWNLOAD htype rq)) (he : ans.entry 0 = some e) :
    e.body = .cl ⟨rq.header, rq.feedNumber, rq.count⟩ ∧
      s'.getTranferFilePath (getId rq.header) = some (downloadPath env rq) ∧
      ∃ s'', s'.idClearTransfer (getId rq.header) = some s'' := by
  obtain ⟨r, hrq, hr⟩ := handleTcpConnection_cases hconn
  change ({ s with dErrno := NOERROR } : Server).prepareDownloadRequest env
    (.arrayNew ServerRQ 0) rq = some r at hrq
  have hresult : HandlerResult (.arrayNew ServerRQ 0) DOWNLOAD
      (({ s with dErrno := NOERROR } : Server).Rejects env (.cl DOWNLOAD htype rq))
      (({ s with dErrno := NOERROR } : Server).LeavesMemory env (.cl DOWNLOAD htype rq))
      (({ s with dErrno := NOERROR } : Server).prepareDownloadRequest env
        (.arrayNew ServerRQ 0) rq) :=
    prepareDownloadRequest_result (s := { s with dErrno := NOERROR }) hwf rq
  rw [hrq] at hresult
  have hcode := hresult.code_eq_zero (mt rejects_dErrno_iff.mp hnot)
  obtain ⟨-, rfl, rfl⟩ | ⟨hne, -⟩ | ⟨hne, -⟩ := hr
  · obtain ⟨err, -, rfl⟩ | ⟨pseudo, s₁, -, -, hnew, rfl⟩ := prepareDownloadRequest_cases hrq
    · exact absurd (show (1 : UInt8) = 0 from hcode) (by decide)
    · obtain ⟨s₂, hnew', -, hget, hat⟩ := transferNew_eq (s := { s with dErrno := NOERROR }) hwf env
        (getId rq.header) rq.feedNumber (downloadPath env rq)
      obtain rfl := Option.some.inj (hnew.symm.trans hnew')
      refine ⟨?_, ?_, ?_⟩
      · rw [← Option.some.inj he]
      · simp only [getTranferFilePath, hget, Option.bind_eq_bind, Option.bind_some, hat]
        rfl
      · simp only [idClearTransfer, hget, Option.bind_eq_bind, Option.bind_some, hat]
        exact ⟨_, rfl⟩
  · exact absurd hcode hne
  · exact absurd hcode hne

end Server

namespace TcpServer

/-- What a connection that is answered leaves: the descriptors are as before, and the answer has
been sent. -/
structure Answered (fd : ℤ) (t t' : TcpServer) : Prop where
  sfd_eq : t'.sfd = t.sfd
  fds_eq : t'.fds = t.fds
  connectionInfos_eq : t'.connectionInfos = t.connectionInfos
  table : t'.data.TableInv
  events : ∃ m ms events, t'.events = t.events ++ .send fd (m :: ms) :: events

variable {env : ConnEnv} {t : TcpServer} {fd : ℤ} {rq : ClientRQ} {i : ℕ} {infos : ConnectionInfos}

/-- The callback behind an answer to a download. -/
lemma serverCallback_download (env : DownloadEnv) {e : ServerRQ} {cl : ServerRQCl}
    {rq' : ClientRQCl} (htype : e.type = DOWNLOAD) (hbody : e.body = .cl cl)
    (hrq : rq.cl? = some rq') (hget : t.connectionInfos.get (sizeT fd) = some i)
    (hat : t.connectionInfos.at? i = some infos) :
    t.serverCallback env fd rq e =
      (t.data.handleFileDowload env (getId cl.header) rq'.count infos.addr).bind fun r =>
        some (if r.1 ≠ 0 then 1 else 0, { t with data := r.2.1, events := t.events ++ r.2.2 }) := by
  have hcl : e.body.cl? = some cl := by
    rw [hbody]
    rfl
  simp only [serverCallback, if_pos htype, hget, hat, hcl, hrq, Option.bind_eq_bind,
    Option.bind_some]

/-- The callback behind an answer that has been sent. -/
lemma serverCallback_spec {s s' : Server} {ans : Answer} {e : ServerRQ} (hinv : s.TableInv)
    (hin : InTable rq.type)
    (hconn : s.handleTcpConnection env.env rq = some (s', ans)) (hcode : ans.code = 0)
    (he : ans.entry 0 = some e) (hdata : t.data = s')
    (hget : t.connectionInfos.get (sizeT fd) = some i)
    (hat : t.connectionInfos.at? i = some infos) :
    (env.Downloads s rq ∧ ∃ s'' events, t.serverCallback env.download fd rq e =
      some (0, { t with data := s'', events := t.events ++ events }) ∧ s''.TableInv) ∨
    (¬env.Downloads s rq ∧
      ∀ err t', t.serverCallback env.download fd rq e = some (err, t') → err = 1) := by
  have hinv' := Server.handleTcpConnection_tableInv hinv hconn
  have hiff := Server.type_eq_download_iff hinv.wf_transferFiles hin hcode hconn he
  by_cases hdown : e.type = DOWNLOAD
  · obtain ⟨hnot, htype⟩ := hiff.mp hdown
    cases rq with
    | rg rq => exact absurd htype (show REGISTRATION ≠ DOWNLOAD by decide)
    | cl type hne rq' =>
        obtain rfl : type = DOWNLOAD := htype
        obtain ⟨hbody, hpath, s₁, hclear⟩ :=
          Server.download_of_not_rejects hinv.wf_transferFiles hconn hnot he
        have heval := serverCallback_download env.download hdown hbody
          (show (ClientRQ.cl DOWNLOAD hne rq').cl? = some rq' from rfl) hget hat
        have hiff := Server.handleFileDowload_iff env.download rq'.count infos.addr hpath hclear
        have hdownloads : env.Downloads s (.cl DOWNLOAD hne rq') ↔
            env.download.Works (Server.downloadPath env.env rq') := by
          constructor
          · exact fun h => h hne rq' rfl hnot
          · rintro h _ _ ⟨⟩ -
            exact h
        rw [hdata] at heval
        rw [heval, hdownloads, ← hiff]
        cases hsend : s'.handleFileDowload env.download (getId rq'.header) rq'.count infos.addr with
        | none => exact .inr ⟨by rintro ⟨s'', events, ⟨⟩⟩, by rintro err t' ⟨⟩⟩
        | some r =>
            obtain ⟨err, s'', events⟩ := r
            by_cases herr : err = 0
            · subst herr
              exact .inl ⟨⟨s'', events, rfl⟩, s'', events, rfl,
                Server.handleFileDowload_tableInv hinv' hsend⟩
            · refine .inr ⟨fun ⟨_, _, h⟩ => ?_, fun err' t' h => ?_⟩
              · cases h
                exact herr rfl
              · simp only [Option.bind_some, if_pos (show err ≠ 0 from herr)] at h
                cases h
                rfl
  · refine .inl ⟨?_, s', [], ?_, hinv'⟩
    · rintro htype rq' rfl hnot
      exact absurd (hiff.mpr ⟨hnot, rfl⟩) hdown
    · rw [serverCallback, if_neg hdown, List.append_nil, ← hdata]

/-- **A request that is answered**: `handle_tcp_connection` returns 0 exactly when its answer and
the download behind it are without a fault, and otherwise 1. -/
lemma answerRequest_spec (env : ConnEnv) (hinv : t.data.TableInv) (hin : InTable rq.type)
    (hget : t.connectionInfos.get (sizeT fd) = some i)
    (hat : t.connectionInfos.at? i = some infos) :
    ((env.Answers (env.others.act t.data) rq ∧ env.Downloads (env.others.act t.data) rq) ∧
      ∃ t', t.answerRequest env fd rq = some (0, true, t') ∧ Answered fd t t') ∨
    (¬(env.Answers (env.others.act t.data) rq ∧ env.Downloads (env.others.act t.data) rq) ∧
      ∀ err b t', t.answerRequest env fd rq = some (err, b, t') → err = 1) := by
  have hinv' := env.others.tableInv t.data hinv
  by_cases hans : env.Answers (env.others.act t.data) rq
  · obtain ⟨s', ans, e, m, ms, hconn, hcode, hsend, he⟩ := hans.sent hinv'.wf_transferFiles hin
    have heval : t.answerRequest env fd rq =
        (serverCallback env.download { t with
          data := s', events := t.events ++ [SocketEvent.send fd (m :: ms)] } fd rq e).bind fun r =>
            if r.1 ≠ (0 : UInt8) then some (1, false, r.2) else some (0, true, r.2) := by
      simp only [answerRequest, hconn, Option.bind_eq_bind, Option.bind_some, hcode, hsend, he,
        ne_eq, not_true_eq_false, if_false]
    obtain ⟨hdown, s'', events, hcall, hinv''⟩ | ⟨hnot, hcall⟩ := serverCallback_spec
      (t := { t with data := s', events := t.events ++ [SocketEvent.send fd (m :: ms)] })
      hinv' hin hconn hcode he rfl hget hat
    · have hres : t.answerRequest env fd rq = some (0, true, { t with
          data := s'', events := t.events ++ [SocketEvent.send fd (m :: ms)] ++ events }) := by
        rw [heval, hcall]
        rfl
      exact .inl ⟨⟨hans, hdown⟩, _, hres, rfl, rfl, rfl, hinv'', m, ms, events, by simp⟩
    · refine .inr ⟨fun h => hnot h.2, fun err b t' h => ?_⟩
      rw [heval] at h
      obtain ⟨⟨err', t''⟩, hr, h⟩ := Option.bind_eq_some_iff.mp h
      obtain rfl := hcall err' t'' hr
      cases h
      rfl
  · refine .inr ⟨fun h => hans h.1, fun err b t' h => ?_⟩
    obtain ⟨⟨s', ans⟩, hconn, h⟩ := Option.bind_eq_some_iff.mp h
    simp only at h
    split at h
    next =>
      cases h
      rfl
    next hcode =>
      obtain ⟨⟨code, messages⟩, hsend, h⟩ := Option.bind_eq_some_iff.mp h
      simp only at h
      split at h
      next =>
        cases h
        rfl
      next hzero =>
        obtain ⟨e, he, -⟩ := Option.bind_eq_some_iff.mp h
        rw [not_not] at hcode hzero
        subst hzero
        exact absurd (ConnEnv.answers_of_sent hinv'.wf_transferFiles hin hconn hcode hsend he) hans

/-- **One connection** that nothing has been carried over on: `handle_tcp_connection` returns 0
exactly when it is without a fault, and otherwise 1; in the first case it has been answered and is
to be closed. -/
lemma handleTcpConnection_spec (env : ConnEnv) (hinv : t.data.TableInv)
    (hget : t.connectionInfos.get (sizeT fd) = some i) (hat : t.connectionInfos.at? i = some infos)
    (hcarry : infos.rbRq = .zero) :
    (env.FaultFree (env.others.act t.data) ∧ ∃ t' infos',
      t.handleTcpConnection env fd = some (0, true, t') ∧
        Answered fd { t with connectionInfos := t.connectionInfos.write i infos' } t') ∨
    (¬env.FaultFree (env.others.act t.data) ∧
      ∀ err b t', t.handleTcpConnection env fd = some (err, b, t') → err = 1) := by
  obtain ⟨hblocks, hnone⟩ | ⟨hreturns, c, hc,
    ⟨hfails, hcode⟩ | ⟨hnot, hcode, rq, hrq, hbrings, htable⟩⟩ := env.recv_cases
  · refine .inr ⟨fun h => h.returns hblocks, fun err b t' h => ?_⟩
    simp only [handleTcpConnection, hget, hat, hcarry, hnone, Option.bind_eq_bind,
      Option.bind_some, Option.bind_none] at h
    cases h
  · refine .inr ⟨fun h => h.recv hfails, fun err b t' h => ?_⟩
    simp only [handleTcpConnection, hget, hat, hcarry, hc, Option.bind_eq_bind, Option.bind_some,
      if_pos hcode] at h
    cases h
    rfl
  · have heval : t.handleTcpConnection env fd = answerRequest env { t with
        connectionInfos := t.connectionInfos.write i { infos with rbRq := c.rbRq } } fd rq := by
      simp only [handleTcpConnection, hget, hat, hcarry, hc, Option.bind_eq_bind, Option.bind_some,
        hcode, hrq, ne_eq, not_true_eq_false, if_false]
    have hfree : env.FaultFree (env.others.act t.data) ↔ InTable rq.type ∧
        env.Answers (env.others.act t.data) rq ∧ env.Downloads (env.others.act t.data) rq := by
      constructor
      · exact fun h => ⟨htable.mpr h.names, h.answers rq ((hbrings rq).mpr rfl),
          h.downloads rq ((hbrings rq).mpr rfl)⟩
      · rintro ⟨hin, hans, hdown⟩
        refine ⟨hreturns, hnot, htable.mp hin, fun rq' h => ?_, fun rq' h => ?_⟩
        · rwa [(hbrings rq').mp h]
        · rwa [(hbrings rq').mp h]
    rw [heval, hfree]
    by_cases hin : InTable rq.type
    · obtain ⟨hfree, t', ht', hanswered⟩ | ⟨hnot, hone⟩ := answerRequest_spec env
        (t := { t with connectionInfos := t.connectionInfos.write i { infos with rbRq := c.rbRq } })
        hinv hin hget (CArray.at?_write_self _ _ (CArray.lt_of_at? hat))
      · exact .inl ⟨⟨hin, hfree⟩, t', _, ht', hanswered⟩
      · exact .inr ⟨fun h => hnot h.2, hone⟩
    · refine .inr ⟨fun h => hin h.1, fun err b t' h => ?_⟩
      -- there is no handler for the type
      have hnone : (env.others.act t.data).handleTcpConnection env.env rq = none := by
        rw [Server.handleTcpConnection, handleTcpRequest_eq_none hin]
        rfl
      simp only [answerRequest, hnone] at h
      cases h

end TcpServer

end Megaphone
