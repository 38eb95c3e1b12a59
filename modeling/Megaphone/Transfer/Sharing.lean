import Megaphone.Server.Downloads
import Megaphone.Server.FilePaths
import Megaphone.Transfer.Effect
import Megaphone.Transfer.RoundTrip

/-!
Files from one user to another: what has been uploaded is what is downloaded.

* `fileAt`, `WritesTo`: what is at a path, and the steps that write there; `run_fileAt`: it stays
  there over a run without such steps.
* `accepted_of_startsTransfer`: a request for a transfer whose answer says that it is accepted.
* `Downloads`: a download up to the file that the client writes.
* `shared_file`: from the upload of the one user to the file of the other.
-/

namespace Megaphone

open Memory Machine

/-! ### What is at a path -/

/-- What is at a path: what has been written there last. -/
def fileAt (disk : List (List UInt8 × List UInt8)) (path : List UInt8) : Option (List UInt8) :=
  (disk.reverse.find? (·.1 == path)).map (·.2)

lemma fileAt_append_self (disk : List (List UInt8 × List UInt8)) (path bytes : List UInt8) :
    fileAt (disk ++ [(path, bytes)]) path = some bytes := by
  simp [fileAt]

lemma fileAt_append_of_ne (disk : List (List UInt8 × List UInt8)) {p path : List UInt8}
    (h : p ≠ path) (bytes : List UInt8) :
    fileAt (disk ++ [(p, bytes)]) path = fileAt disk path := by
  simp [fileAt, h]

/-- The step writes a file to the path. -/
def WritesTo (path : List UInt8) (t : ServerTransition) : Prop :=
  ∃ bytes, t.post.server.disk = t.pre.server.disk ++ [(path, bytes)]

namespace Server

variable {env : Env} {s s' : Server}

lemma disk_transferNew {id feedNumber : UInt16} {fileName : ℕ → UInt8}
    (h : s.transferNew env id feedNumber fileName = some s') : s'.disk = s.disk := by
  obtain ⟨files, -, h⟩ := Option.bind_eq_some_iff.mp h
  cases h
  split
  · split <;> rfl
  · rfl

lemma disk_notifNew {nbfeed : ℕ} {mult : Mult} (h : s.notifNew env nbfeed mult = some s') :
    s'.disk = s.disk := by
  obtain ⟨i, -, h⟩ := Option.bind_eq_some_iff.mp h
  obtain ⟨feed, -, h⟩ := Option.bind_eq_some_iff.mp h
  cases h
  rfl

/-- No request writes a file. -/
lemma disk_requests {a : CArray ServerRQ} {rq : ClientRQ} {h : Handled}
    (hrq : s.requests env a rq = some h) : h.server.disk = s.disk := by
  cases requests_cases hrq with
  | registration hrq =>
      obtain ⟨-, rfl⟩ | ⟨-, id, -, rfl⟩ := registrationRequest_cases hrq
      · rfl
      · rfl
  | post hrq =>
      obtain ⟨-, -, rfl⟩ | ⟨-, rfl⟩ | ⟨-, -, rfl⟩ | ⟨pseudo, -, -, -, -, rfl⟩ |
        ⟨pseudo, feedNumber, s₀, s', -, -, hs₀, hs', rfl⟩ := postRequest_cases hrq
      · rfl
      · rfl
      · rfl
      · exact (congrArg disk (feedNew_snd env s pseudo)).trans rfl
      · obtain ⟨feed, -, rfl⟩ := postNew_eq_some hs'
        obtain ⟨-, -, -, hnew⟩ | ⟨-, -, rfl⟩ := hs₀
        · have hsnd := feedNew_snd env s pseudo
          rw [hnew] at hsnd
          exact (congrArg disk hsnd).trans rfl
        · rfl
  | lastPosts hrq =>
      obtain ⟨e, he⟩ := lastPostsRequest_server hrq
      rw [he]
  | subscriptions hrq =>
      obtain ⟨e, -, -, rfl⟩ | ⟨-, -, -, feed, s', mult, -, hs', -, rfl⟩ :=
        subscriptionsRequest_cases hrq
      · rfl
      · split at hs'
        · exact disk_notifNew hs'
        · cases hs'
          rfl
  | prepareUpload hrq =>
      obtain ⟨e, -, rfl⟩ | ⟨pseudo, s', -, -, hs', rfl⟩ := prepareUploadRequest_cases hrq
      · rfl
      · exact disk_transferNew hs'
  | prepareDownload hrq =>
      obtain ⟨e, -, rfl⟩ | ⟨pseudo, s', -, -, hs', rfl⟩ := prepareDownloadRequest_cases hrq
      · rfl
      · exact disk_transferNew hs'

/-- Nor does the notification loop. -/
lemma disk_loopStep {ok : Bool} {l : Loop} {r : Server × Loop × Option (ℕ × Notification)}
    (h : s.loopStep ok l = some r) : r.1.disk = s.disk := by
  cases loopStep_cases h with
  | stored hj hstore =>
      obtain ⟨f, -, hs'⟩ := Option.bind_eq_some_iff.mp hstore
      obtain ⟨info, -, hs'⟩ := Option.bind_eq_some_iff.mp hs'
      cases hs'
      rfl
  | _ => rfl

end Server

/-- **One step** writes one file at most. -/
lemma step_disk {w w' : World} {i : Input} {out : Option Answer} (h : step w i = some (w', out)) :
    w'.server.disk = w.server.disk ∨
      ∃ path bytes, w'.server.disk = w.server.disk ++ [(path, bytes)] := by
  cases step_cases h with
  | tcp hconn =>
      obtain ⟨r, e, hrq, rfl⟩ := Server.handleTcpConnection_server hconn
      have hdisk := Server.disk_requests hrq
      exact .inl hdisk
  | sent hclear =>
      obtain ⟨i, -, hclear⟩ := Option.bind_eq_some_iff.mp hclear
      obtain ⟨infos, -, hclear⟩ := Option.bind_eq_some_iff.mp hclear
      cases hclear
      exact .inl rfl
  | timeout now => exact .inl rfl
  | udp hrecv hp =>
      obtain hsame | ⟨infos, bytes, -, -, hdisk⟩ := Server.disk_handleUploadPacket hp
      · exact .inl hsame
      · exact .inr ⟨_, bytes, hdisk⟩
  | loop hr => exact .inl (Server.disk_loopStep hr)

/-- **A run** without a step that writes to a path leaves what is there. -/
lemma run_fileAt {w w' : World} {ts : List ServerTransition} (h : Run step w ts w')
    {path : List UInt8} (hts : ∀ t ∈ ts, ¬WritesTo path t) :
    fileAt w'.server.disk path = fileAt w.server.disk path := by
  refine h.history (P := fun _ w' => fileAt w'.server.disk path = fileAt w.server.disk path)
    (fun _ w₁ a w₂ out heq hwrites hs => ?_) hts rfl
  obtain hsame | ⟨p, bytes, hdisk⟩ := step_disk hs
  · rw [hsame]
    exact heq
  · have hne : p ≠ path := fun hp => hwrites ⟨bytes, by rw [← hp]; exact hdisk⟩
    rw [hdisk, fileAt_append_of_ne _ hne]
    exact heq

/-! ### Accepted requests -/

lemma download_ne : DOWNLOAD ≠ REGISTRATION := by decide

/-- A request for a transfer whose answer says that it is accepted is handled without an error. -/
lemma accepted_of_startsTransfer {w w' : World} {env : Env} {type : UInt8}
    {hne : type ≠ REGISTRATION} {rq : ClientRQCl} {out : Option Answer} {id : UInt16}
    (h : step w (.tcp env (.cl type hne rq)) = some (w', out))
    (hstarts : startsTransfer ⟨w, .tcp env (.cl type hne rq), out, w'⟩ = some id) :
    (type = UPLOAD ∨ type = DOWNLOAD) ∧ ∃ r, Server.requests env { w.server with dErrno := NOERROR }
        (.arrayNew ServerRQ 0) (.cl type hne rq) = some r ∧ r.code = 0 ∧
      w' = { w with server := { r.server with dErrno := NOERROR } } := by
  cases step_cases h with
  | @tcp _ _ s' ans hconn =>
      have hif : (if (type = UPLOAD ∨ type = DOWNLOAD) ∧ ans.code = 0 ∧
          (ans.entry 0).map (·.type) = some type then some (getId rq.header) else none) =
          some id := hstarts
      split at hif
      next hgood =>
        obtain ⟨htype, hcode, hentry⟩ := hgood
        refine ⟨htype, ?_⟩
        obtain ⟨r, hrq, ⟨hzero, rfl, -⟩ | ⟨-, -, -, rfl⟩ | ⟨hne', -, -, rfl⟩⟩ :=
          Server.handleTcpConnection_cases hconn
        · exact ⟨r, hrq, hzero, rfl⟩
        · exact absurd (show (1 : UInt8) = 0 from hcode) (by decide)
        · exfalso
          have hfail : ∃ e, isError e.toUInt8 = true ∧
              r = Server.fail { w.server with dErrno := NOERROR } (.arrayNew ServerRQ 0) e := by
            obtain rfl | rfl := htype
            · obtain hfail | ⟨pseudo, s₁, -, -, -, rfl⟩ := Server.prepareUploadRequest_cases hrq
              · exact hfail
              · exact absurd rfl hne'
            · obtain hfail | ⟨pseudo, s₁, -, -, -, rfl⟩ := Server.prepareDownloadRequest_cases hrq
              · exact hfail
              · exact absurd rfl hne'
          obtain ⟨e, herror, rfl⟩ := hfail
          have hentry' : some e.toUInt8 = some type := hentry
          rw [Option.some.inj hentry'] at herror
          obtain rfl | rfl := htype
          · exact absurd herror (by decide)
          · exact absurd herror (by decide)
      next => cases hif

/-! ### The upload -/

/-- The arrival of the datagrams of a file in their order, number `i` with the outside `envs i`. -/
def uploadInputs (envs : ℕ → WorkingEnv) (id : UInt16) (file : ℕ → UInt8) (n : ℕ) : List Input :=
  (sendFtransferRequests htonClientrqft (ftransferrqsNew (mkHeader UPLOAD id) file n) n).zipIdx.map
    fun d => .udp (envs d.2).1 d.1

/-- The number of the feed that an upload is for: a new one for `0`. -/
def Server.uploadFeed (s : Server) (rq : ClientRQCl) : UInt16 :=
  if rq.feedNumber = 0 then UInt16.ofNat (s.feeds.toList.length + 1) else rq.feedNumber

/-- The path of the file of an upload. -/
def Server.uploadPath (s : Server) (rq : ClientRQCl) : List UInt8 :=
  askedPath { rq with feedNumber := s.uploadFeed rq }

/-- Datagrams that the server takes are a run. -/
lemma exists_run_of_foldlM {env : ℕ → WorkingEnv} {l : List (List UInt8 × ℕ)} {s s' : Server}
    (loop : Loop) (h : l.foldlM (fun s d => (s.udpServerLoop (env d.2).1 d.1).map (·.2)) s =
      some s') :
    ∃ ds, Run step ⟨s, loop⟩ ds ⟨s', loop⟩ ∧
      ds.map (·.act) = l.map fun d => .udp (env d.2).1 d.1 := by
  induction l generalizing s with
  | nil =>
      cases h
      exact ⟨[], .nil _, rfl⟩
  | cons d l ih =>
      rw [List.foldlM_cons] at h
      obtain ⟨s₁, hs₁, h⟩ := Option.bind_eq_some_iff.mp h
      obtain ⟨r, hr, rfl⟩ := Option.map_eq_some_iff.mp hs₁
      obtain ⟨ds, hds, hacts⟩ := ih h
      have hstep : step ⟨s, loop⟩ (.udp (env d.2).1 d.1) = some (⟨r.2, loop⟩, none) := by
        simp only [step, hr, Option.map_some]
      exact ⟨_, .cons hstep hds, by rw [List.map_cons, List.map_cons, hacts]⟩

section

variable {w₀ w₁ : World} {env : Env} {rq : ClientRQCl} {out : Option Answer} {id : UInt16} {n : ℕ}

/-- An upload that is accepted has started the transfer. -/
lemma uploading_of_startsTransfer (hwf : w₀.server.transferFiles.Wf)
    (hfeeds : w₀.server.feeds.toList.length < 65535)
    (h : step w₀ (.tcp env (.cl UPLOAD upload_ne rq)) = some (w₁, out))
    (hstarts : startsTransfer ⟨w₀, .tcp env (.cl UPLOAD upload_ne rq), out, w₁⟩ = some id) :
    w₁.loop = w₀.loop ∧ w₁.server.disk = w₀.server.disk ∧
      w₁.server.feeds = w₀.server.feeds ∧ ∃ pseudo, w₁.server.Uploading (getId rq.header)
        (transferInit env.now rq.data rq.feedNumber) pseudo := by
  obtain ⟨-, r, hrq, hcode, rfl⟩ := accepted_of_startsTransfer h hstarts
  have hdisk := Server.disk_requests hrq
  replace hrq : Server.prepareUploadRequest env { w₀.server with dErrno := NOERROR }
    (.arrayNew ServerRQ 0) rq = some r := hrq
  have hsame := (Server.prepareUploadRequest_sameStore hrq).feeds_eq
  obtain ⟨pseudo, huploading⟩ := Server.uploading_of_prepareUploadRequest
    (show ({ w₀.server with dErrno := NOERROR } : Server).transferFiles.Wf from hwf)
    (show w₀.server.feeds.toList.length < 2 ^ 64 - 1 by omega) hrq hcode
  exact ⟨rfl, hdisk, hsame, pseudo, huploading.id_lt, huploading.get_eq, huploading.at?_eq,
    huploading.fresh, huploading.pseudo_eq, huploading.feed_le, huploading.feeds_lt⟩

/-- The number of the feed under which a file is announced. -/
lemma ofNat_announced (s : Server) (now : ℕ) (rq : ClientRQCl) (pseudo : Pseudo)
    (bytes : List UInt8) :
    UInt16.ofNat (s.announced (transferInit now rq.data rq.feedNumber) pseudo bytes).2 =
      s.uploadFeed rq := by
  rw [Server.announced, Server.uploadFeed, Log.addPost]
  by_cases hzero : rq.feedNumber = 0
  · have hzero' : (transferInit now rq.data rq.feedNumber).feedNumber.toNat = 0 := by
      show rq.feedNumber.toNat = 0
      rw [hzero]
      rfl
    rw [if_pos hzero', if_pos hzero, Server.toLog, List.length_map]
  · have hne : (transferInit now rq.data rq.feedNumber).feedNumber.toNat ≠ 0 := fun h =>
      hzero (UInt16.toNat_inj.mp h)
    rw [if_neg hne, if_neg hzero]
    exact UInt16.ofNat_toNat

/-- **The upload**: the server survives it, and then the bytes of the file are at its path. -/
lemma exists_upload (hwf : w₀.server.transferFiles.Wf)
    (hfeeds : w₀.server.feeds.toList.length < 65535)
    (h : step w₀ (.tcp env (.cl UPLOAD upload_ne rq)) = some (w₁, out))
    (hstarts : startsTransfer ⟨w₀, .tcp env (.cl UPLOAD upload_ne rq), out, w₁⟩ = some id)
    (hn : n < FILE_SIZE_MAX) (hshort : LastBlockShort n) (file : ℕ → UInt8)
    (envs : ℕ → WorkingEnv) :
    ∃ ds w₂, Run step w₁ ds w₂ ∧ ds.map (·.act) = uploadInputs envs (getId rq.header) file n ∧
      w₂.server.disk =
        w₀.server.disk ++ [(snprintf (w₀.server.uploadPath rq), read file 0 n)] := by
  obtain ⟨hloop, hdisk, hsame, pseudo, huploading⟩ :=
    uploading_of_startsTransfer hwf hfeeds h hstarts
  obtain ⟨s', hs', huploaded⟩ := (Server.upload_iff hn huploading envs file).mpr
    ⟨hshort, fun _ => by rwa [hsame]⟩
  obtain ⟨ds, hrun, hacts⟩ := exists_run_of_foldlM w₁.loop hs'
  refine ⟨ds, _, hrun, hacts, ?_⟩
  have hfeed : w₁.server.uploadFeed rq = w₀.server.uploadFeed rq := by
    rw [Server.uploadFeed, Server.uploadFeed, hsame]
  rw [huploaded.disk_eq, hdisk, ofNat_announced, hfeed]
  rfl

end

/-! ### The download -/

/-- A download that the server has accepted, up to its end: `handle_file_dowload` sends datagrams to
the client, and once they have arrived in their order, number `i` with the outside `envs i`, the
bytes are in the file that the client has opened for the name in its transfer. -/
def Downloads (denv : DownloadEnv) (port : UInt16) (addr : In6Addr) (s : Server)
    (envs : ℕ → WorkingClientEnv) (c : Client) (bytes : List UInt8) : Prop :=
  ∃ datagrams s', s.handleFileDowload denv c.userId port addr =
      some (0, s', datagrams.map (.sendto addr port)) ∧
    ∃ c' opened, c.takeDatagrams envs datagrams = some c' ∧
      c.Downloaded c.transferFile.filePath bytes opened c'

section

variable {w w' : World} {env : Env} {rq : ClientRQCl} {out : Option Answer} {id : UInt16}

/-- A download that is accepted has the path that was checked in its transfer, when the byte behind
the path was zero. -/
lemma opens_of_startsTransfer (hwf : w.server.transferFiles.Wf)
    (h : step w (.tcp env (.cl DOWNLOAD download_ne rq)) = some (w', out))
    (hstarts : startsTransfer ⟨w, .tcp env (.cl DOWNLOAD download_ne rq), out, w'⟩ = some id)
    (hzero : env.junk (Server.askedPath rq).length = 0) :
    (Server.askedPath rq).length < MAX_DATALEN ∧
    w'.server.transferFiles.get (getId rq.header).toNat = some (getId rq.header).toNat ∧
    (∃ infos, w'.server.transferFiles.at? (getId rq.header).toNat = some infos) ∧
    ∀ denv, Server.createFtransferRequests denv w'.server (getId rq.header) =
      Server.ftransferRequestsOf denv (getId rq.header) (Server.askedPath rq) := by
  obtain ⟨-, r, hrq, hcode, rfl⟩ := accepted_of_startsTransfer h hstarts
  replace hrq : Server.prepareDownloadRequest env { w.server with dErrno := NOERROR }
    (.arrayNew ServerRQ 0) rq = some r := hrq
  replace hwf : ({ w.server with dErrno := NOERROR } : Server).transferFiles.Wf := hwf
  have hlt := Server.length_askedPath_lt hwf hrq hcode
  obtain ⟨e, -, rfl⟩ | ⟨pseudo, s', -, -, hnew, rfl⟩ := Server.prepareDownloadRequest_cases hrq
  · exact absurd (show (1 : UInt8) = 0 from hcode) (by decide)
  · obtain ⟨s'', hnew', -, hget, hat⟩ := Server.transferNew_eq hwf env (getId rq.header)
      rq.feedNumber (Server.downloadPath env rq)
    obtain rfl := Option.some.inj (hnew.symm.trans hnew')
    have hpath : Server.getTranferFilePath { s' with dErrno := NOERROR } (getId rq.header) =
        some (Server.downloadPath env rq) := by
      simp only [Server.getTranferFilePath, hget, Option.bind_eq_bind, Option.bind_some, hat]
      rfl
    refine ⟨hlt, hget, ⟨_, hat⟩, fun denv => ?_⟩
    rw [Server.createFtransferRequests_eq hpath, (Server.cString_downloadPath_iff hlt).mpr hzero]

/-- **The download** of the bytes at the path. -/
lemma downloads_of_startsTransfer (hwf : w.server.transferFiles.Wf)
    (h : step w (.tcp env (.cl DOWNLOAD download_ne rq)) = some (w', out))
    (hstarts : startsTransfer ⟨w, .tcp env (.cl DOWNLOAD download_ne rq), out, w'⟩ = some id)
    (hzero : env.junk (Server.askedPath rq).length = 0) {denv : DownloadEnv} {bytes : List UInt8}
    (hbytes : denv.file (Server.askedPath rq) = some bytes)
    (hmmap : denv.mmap (Server.askedPath rq) = true) (hsocket : denv.socket = true)
    (hsend : ∀ i, denv.sendto i = true) (hn : bytes.length < FILE_SIZE_MAX)
    (hshort : LastBlockShort bytes.length) (port : UInt16) (addr : In6Addr)
    (envs : ℕ → WorkingClientEnv) {c : Client} (hid : c.userId = getId rq.header)
    (hc : c.transferFile.Fresh) : Downloads denv port addr w'.server envs c bytes := by
  obtain ⟨-, hget, ⟨infos, hat⟩, hopens⟩ := opens_of_startsTransfer hwf h hstarts hzero
  have hmapped : Server.ReadsMapped bytes.length := by
    intro r hr
    have hle := (reads_le_iff hn).mpr hshort r hr
    omega
  obtain ⟨c', hc', hdownloaded⟩ := (Client.download_iff hn hc envs (ofList bytes 0)).mpr hshort
  rw [read_ofList] at hdownloaded
  set datagrams := sendFtransferRequests htonServerrqft
    (ftransferrqsNew (mkHeader DOWNLOAD c.userId) (ofList bytes 0) bytes.length) bytes.length
    with hdatagrams
  have hsent : sendAll denv.sendto datagrams = (0, datagrams) := by
    rw [sendAll, if_pos (List.all_eq_true.mpr fun i _ => hsend i)]
  have hclear : w'.server.idClearTransfer c.userId =
      some (w'.server.putTransfer c.userId.toNat (transferClear infos)) := by
    rw [← hid] at hget hat
    simp only [Server.idClearTransfer, hget, Option.bind_eq_bind, Option.bind_some, hat]
  refine ⟨datagrams, w'.server.putTransfer c.userId.toNat (transferClear infos), ?_, c', _, hc',
    hdownloaded⟩
  rw [Server.handleFileDowload, hid, hopens, Server.ftransferRequestsOf, ← hid]
  simp only [hbytes, if_pos (And.intro (Or.inr hmmap) hmapped), Option.bind_eq_bind,
    Option.bind_some, hsocket, if_true, ← hdatagrams, hsent, hclear, ne_eq, not_true, if_false]

end

/-! ### Both together -/

/-- **What is uploaded is what is downloaded.**  After any run with fewer than 65535 feeds, an
upload of `n` bytes is accepted, where `n` is `0` or no multiple of 512, and its datagrams arrive in
their order: the server survives it.  Then, after any run in which no file is written to its path, a
download of the same name from the feed of the upload is accepted, with a zero behind the path that
is checked: `handle_file_dowload` reads what is at the path and sends it, and once its datagrams
have arrived in their order, the other client has written the `n` bytes of the first.

The datagrams come directly behind the acceptance.  Every call of the system is assumed to succeed
that is made for them (`WorkingEnv`, `WorkingClientEnv`), and so are `open`, `fstat` and `mmap` on
the path, `socket` and `sendto` at the download.  Paths are compared as strings. -/
theorem shared_file {w₀ w₁ : World} {ts : List ServerTransition}
    (hbefore : Run step World.init ts w₀) (hfeeds : w₀.server.feeds.toList.length < 65535)
    {env : Env} {rq : ClientRQCl} {out : Option Answer}
    (hup : step w₀ (.tcp env (.cl UPLOAD upload_ne rq)) = some (w₁, out))
    (hupAccepted : startsTransfer ⟨w₀, .tcp env (.cl UPLOAD upload_ne rq), out, w₁⟩ =
      some (getId rq.header))
    {n : ℕ} (hn : n < 65534 * 512) (hshort : n = 0 ∨ n % 512 ≠ 0) (file : ℕ → UInt8)
    (envs : ℕ → WorkingEnv) :
    ∃ ds w₂, Run step w₁ ds w₂ ∧ ds.map (·.act) = uploadInputs envs (getId rq.header) file n ∧
      ∀ us w₃, Run step w₂ us w₃ → (∀ t ∈ us, ¬WritesTo (w₀.server.uploadPath rq) t) →
      ∀ env' rq' out' w₄, step w₃ (.tcp env' (.cl DOWNLOAD download_ne rq')) = some (w₄, out') →
        startsTransfer ⟨w₃, .tcp env' (.cl DOWNLOAD download_ne rq'), out', w₄⟩ =
          some (getId rq'.header) →
        Server.askedPath rq' = w₀.server.uploadPath rq →
        env'.junk (Server.askedPath rq').length = 0 →
      ∀ denv : DownloadEnv,
        denv.file (Server.askedPath rq') = fileAt w₄.server.disk (Server.askedPath rq') →
        denv.mmap (Server.askedPath rq') = true → denv.socket = true →
        (∀ i, denv.sendto i = true) →
      ∀ port addr clientEnvs (c : Client), c.userId = getId rq'.header → c.transferFile.Fresh →
        Downloads denv port addr w₄.server clientEnvs c (read file 0 n) := by
  have hwf₀ := run_wf hbefore
  obtain ⟨ds, w₂, hds, hacts, hdisk⟩ :=
    exists_upload hwf₀ hfeeds hup hupAccepted hn hshort file envs
  refine ⟨ds, w₂, hds, hacts, fun us w₃ hus hkept env' rq' out' w₄ hdown hdownAccepted hpath hzero
    denv hfile hmmap hsocket hsend port addr clientEnvs c hid hc => ?_⟩
  have hwf := run_wf (((hbefore.append (.cons hup (.nil _))).append hds).append hus)
  obtain ⟨hlt, -⟩ := opens_of_startsTransfer hwf hdown hdownAccepted hzero
  have hwhole : snprintf (w₀.server.uploadPath rq) = w₀.server.uploadPath rq :=
    snprintf_of_lt (by rwa [← hpath])
  have hat : fileAt w₄.server.disk (Server.askedPath rq') = some (read file 0 n) := by
    obtain ⟨-, r, hrq, -, rfl⟩ := accepted_of_startsTransfer hdown hdownAccepted
    show fileAt r.server.disk _ = _
    rw [Server.disk_requests hrq, hpath]
    show fileAt w₃.server.disk _ = _
    rw [run_fileAt hus hkept, hdisk, hwhole, fileAt_append_self]
  have hlength : (read file 0 n).length = n := length_read _ _ _
  exact downloads_of_startsTransfer hwf hdown hdownAccepted hzero (by rw [hfile, hat]) hmmap hsocket
    hsend (by rwa [hlength]) (by rwa [hlength]) port addr clientEnvs hid hc

namespace TwoUsers

open OutOfOrder (env clientEnv)

/-- User 1 uploads `"b"` to a new feed. -/
def upload : ClientRQCl := ⟨mkHeader UPLOAD 1, 0, 0, 1, ofList [98] 0⟩

/-- User 2 downloads it. -/
def download : ClientRQCl := ⟨mkHeader DOWNLOAD 2, 1, 0, 1, ofList [98] 0⟩

/-- User 2, who has asked for the download. -/
def client : Client := Client.transferNew 0 ⟨2, by decide, .zero, []⟩ (ofList [98] 0)

lemma uploadInputs_one : uploadInputs (fun _ => env) (getId upload.header) (fun _ => 99) 1 =
    [.udp env.1 [0, 37, 0, 1, 99]] := by
  have hdatagrams : sendFtransferRequests htonClientrqft
      (ftransferrqsNew (mkHeader UPLOAD (getId upload.header)) (fun _ => 99) 1) 1 =
      [[0, 37, 0, 1, 99]] := by decide +kernel
  rw [uploadInputs, hdatagrams]
  rfl

/-- The upload goes to feed 1, from where the download reads. -/
lemma askedPath_download {s : Server} (h : s.feeds.toList.length = 0) :
    Server.askedPath download = s.uploadPath upload := by
  rw [Server.uploadPath, Server.uploadFeed, h]
  rfl

lemma exists_run : ∃ ts w₀ w₁ out ds w₂ w₃ out', Run step World.init ts w₀ ∧
    w₀.server.feeds.toList.length = 0 ∧
    step w₀ (.tcp env.1 (.cl UPLOAD upload_ne upload)) = some (w₁, out) ∧
    startsTransfer ⟨w₀, .tcp env.1 (.cl UPLOAD upload_ne upload), out, w₁⟩ =
      some (getId upload.header) ∧
    Run step w₁ ds w₂ ∧ ds.map (·.act) = [.udp env.1 [0, 37, 0, 1, 99]] ∧
    step w₂ (.tcp env.1 (.cl DOWNLOAD download_ne download)) = some (w₃, out') ∧
    startsTransfer ⟨w₂, .tcp env.1 (.cl DOWNLOAD download_ne download), out', w₃⟩ =
      some (getId download.header) :=
  ⟨_, _, _, _, _, _, _, _,
    .cons (a := .tcp (.quiet [0]) (.rg ⟨mkHeader REGISTRATION 0, .replicate PSEUDO_LEN 97⟩)) rfl
      (.cons (a := .tcp (.quiet [1]) (.rg ⟨mkHeader REGISTRATION 0, .replicate PSEUDO_LEN 98⟩)) rfl
        (.nil _)),
    rfl, rfl, rfl, .cons (a := .udp env.1 [0, 37, 0, 1, 99]) rfl (.nil _), rfl, rfl, rfl⟩

/-- User 2 has what user 1 has uploaded. -/
theorem shared_file_two : ∃ ts w₀ w₁ out ds w₂ w₃ out', Run step World.init ts w₀ ∧
    step w₀ (.tcp env.1 (.cl UPLOAD upload_ne upload)) = some (w₁, out) ∧
    Run step w₁ ds w₂ ∧
    ds.map (·.act) = uploadInputs (fun _ => env) (getId upload.header) (fun _ => 99) 1 ∧
    step w₂ (.tcp env.1 (.cl DOWNLOAD download_ne download)) = some (w₃, out') ∧
    Downloads ⟨fileAt w₃.server.disk, fun _ => true, true, fun _ => true⟩ 0 (.replicate 16 0)
      w₃.server (fun _ => clientEnv) client [99] := by
  obtain ⟨ts, w₀, w₁, out, ds, w₂, w₃, out', hts, hfeeds, hup, hupAccepted, hds, hacts, hdown,
    hdownAccepted⟩ := exists_run
  obtain ⟨ds', w₂', hds', hacts', hall⟩ := shared_file hts (by omega) hup hupAccepted
    (show 1 < 65534 * 512 by decide) (.inr (by decide)) (fun _ => 99) (fun _ => env)
  obtain ⟨rfl, rfl⟩ := hds.eq_of_acts hds' (by rw [hacts, hacts', uploadInputs_one])
  exact ⟨ts, w₀, w₁, out, ds, w₂, w₃, out', hts, hup, hds, hacts', hdown,
    hall [] w₂ (.nil _) (List.forall_mem_nil _) _ _ _ _ hdown hdownAccepted
      (askedPath_download hfeeds) rfl _ rfl rfl rfl (fun _ => rfl) _ _ _ _ rfl
      (Client.fresh_transferNew 0 _ _)⟩

end TwoUsers

end Megaphone
