import Megaphone.Network.Reassembly

/-!
The download of the client (`data.c`, and the part of `request_manager.c` and `udp_client.c` that
takes the datagrams in).

* `Client`, `ClientEnv`: the state and the outside.
* `Client.transferNew`, `Client.writeFile`, `Client.addPacket`, `Client.handleDownloadPacket`: the
  functions, under their own names.
* `Client.receiver`: the client as a receiver of packets.
* `Client.Downloaded`, `Client.StillDownloading`: the two outcomes, and `Client.outcomes`: which of
  them it is.
-/

namespace Megaphone

open Memory

/-! ### The state -/

/-- The data of a client that a download uses: the identifier of the user, the transfer, and the
files written to disk.  An identifier has 11 bits. -/
structure Client where
  userId : UInt16
  userId_lt : userId.toNat < 2048
  transferFile : FileTransferInfos
  disk : List (List UInt8 × List UInt8)

/-- What the outside decides during a step.

* `home`: the variable `HOME`;
* `openWrite`: whether a path can be opened;
* `openMkdir`: the same after the call of `mkdir`;
* `ftruncate`: whether the file that has been opened can be given its length;
* `mmap`: whether it can be mapped when it is not empty (an empty one never can);
* `junk`: bytes of memory that have not been initialised. -/
structure ClientEnv where
  home : Option (List UInt8)
  openWrite : List UInt8 → Bool
  openMkdir : List UInt8 → Bool
  ftruncate : List UInt8 → Bool
  mmap : List UInt8 → Bool
  junk : ℕ → UInt8

/-- `PATH_MAX`. -/
def PATH_MAX : ℕ := 4096

/-- `sprintf` into `PATH_MAX` bytes, `none` when the string does not fit. -/
def sprintfPath (bs : List UInt8) : Option (List UInt8) :=
  if bs.length < PATH_MAX then some bs else none

/-- The path of a downloaded file, `"%s/%s"`. -/
def downloadFile (dir : List UInt8) (fileName : ℕ → UInt8) : List UInt8 :=
  snprintf (dir ++ [47] ++ cString fileName MAX_DATALEN)

/-- The first part of `write_file`: the path of the file that is opened, or `none` for no file, in
an option that is `none` when a path does not fit. -/
def ClientEnv.openDownload (env : ClientEnv) (fileName : ℕ → UInt8) :
    Option (Option (List UInt8)) :=
  match env.home with
  | none => some none
  | some home => do
      let dir ← sprintfPath (home ++ "/Téléchargements".toUTF8.data.toList)
      let path := downloadFile dir fileName
      if env.openWrite path then some (some path)
      else do
        let dir ← sprintfPath (home ++ "/Downloads".toUTF8.data.toList)
        let path := downloadFile dir fileName
        if env.openWrite path then some (some path)
        else if env.openMkdir path then some (some path)
        else some none

namespace Client

/-! ### The functions -/

/-- `transfer_new` at the time `now`. -/
def transferNew (now : ℕ) (c : Client) (fileName : ℕ → UInt8) : Client :=
  let c := if c.transferFile.active then
      { c with transferFile := transferClear c.transferFile }
    else c
  { c with transferFile := transferInit now fileName 0 }

/-- `transfer_new` leaves a fresh transfer. -/
lemma fresh_transferNew (now : ℕ) (c : Client) (fileName : ℕ → UInt8) :
    (c.transferNew now fileName).transferFile.Fresh :=
  fresh_transferInit now fileName 0

/-- `write_file`: the return code and the state.  As at the server, a failing `mmap` is not
noticed. -/
def writeFile (env : ClientEnv) (c : Client) (infos : FileTransferInfos) :
    Option (UInt8 × Client) := do
  match ← env.openDownload infos.filePath with
  | none => some (1, c)
  | some path =>
      if env.ftruncate path then
        if infos.fileSize = 0 ∨ env.mmap path = true then
          (infos.content env.junk).map fun bytes =>
            (0, { c with disk := c.disk ++ [(path, bytes)] })
        else none
      else some (1, c)

/-- `add_packet`: the return code and the state. -/
def addPacket (env : ClientEnv) (c : Client) (numblock : UInt16) (data : Block) (nbytes : ℕ) :
    Option (Int8 × Client) :=
  if c.transferFile.active then do
    let infos ← c.transferFile.record numblock data nbytes
    let c := { c with transferFile := infos }
    if infos.received then do
      let (err, c) ← c.writeFile env infos
      if err ≠ 0 then some (-1, c)
      else some (0, { c with transferFile := transferClear infos })
    else some (1, c)
  else some (1, c)

/-- `handle_download_packet` on a datagram of `nbytes` bytes: the return code and the state. -/
def handleDownloadPacket (env : ClientEnv) (c : Client) (type : UInt8) (ft : FTransferRQ)
    (nbytes : ℕ) : Option (Int8 × Client) :=
  if type ≠ DOWNLOAD then some (1, c)
  else if c.userId ≠ getId ft.header then some (1, c)
  else c.addPacket env ft.numblock ft.data (sizeSub nbytes 4)

/-- One round of `handle_ready_fds`: the datagram is received and handled. -/
def handleReadyFds (env : ClientEnv) (c : Client) (datagram : List UInt8) :
    Option (Int8 × Client) := do
  let (type, ft, nbytes) ← recvDatagrams ntohServerrqdl datagram
  c.handleDownloadPacket env type ft nbytes

end Client

/-! ### The client as a receiver -/

/-- A file can be opened for every name, given its length and mapped. -/
def ClientEnv.Works (env : ClientEnv) : Prop :=
  ∀ fileName, ∃ path, env.openDownload fileName = some (some path) ∧ env.ftruncate path = true ∧
    env.mmap path = true

/-- An outside where the file of a download can be written. -/
abbrev WorkingClientEnv : Type := { env : ClientEnv // env.Works }

namespace Client

/-- The transfer `infos` of the client. -/
def withTransfer (c : Client) (infos : FileTransferInfos) : Client :=
  { c with transferFile := infos }

/-- What is left of the client when the transfer `infos` is complete. -/
def downloadEnd (c : Client) (env : WorkingClientEnv) (infos : FileTransferInfos) :
    Option Client :=
  ((env.1.openDownload infos.filePath).bind id).bind fun path =>
    (infos.content env.1.junk).map fun bytes =>
      { c with transferFile := .zero, disk := c.disk ++ [(path, bytes)] }

variable {c : Client} {infos infos' : FileTransferInfos}

/-- `add_packet` on a transfer that is going on. -/
lemma addPacket_withTransfer (env : WorkingClientEnv) (hactive : infos.active = true) {p : Packet}
    (hrecord : infos.record p.numblock p.data p.nbytes = some infos') :
    (c.withTransfer infos).addPacket env.1 p.numblock p.data p.nbytes =
      if infos'.received then (c.downloadEnd env infos').map fun c' => (0, c')
      else some (1, c.withTransfer infos') := by
  obtain ⟨path, hpath, htruncate, hmmap⟩ := env.2 infos'.filePath
  rw [addPacket, withTransfer]
  simp only [hactive, if_true, hrecord, Option.bind_eq_bind, Option.bind_some, writeFile, hpath,
    htruncate, hmmap, or_true, downloadEnd, id]
  split
  · cases infos'.content env.1.junk <;> rfl
  · rfl

/-- `add_packet` at the client: the state. -/
def takePacket (c : Client) (q : WorkingClientEnv × Packet) : Option Client :=
  (c.addPacket q.1.1 q.2.numblock q.2.data q.2.nbytes).map (·.2)

lemma writeFile_userId {env : ClientEnv} {r : UInt8 × Client}
    (h : c.writeFile env infos = some r) : r.2.userId = c.userId := by
  obtain ⟨path, -, h⟩ := Option.bind_eq_some_iff.mp h
  cases path with
  | none =>
      cases h
      rfl
  | some path =>
      simp only at h
      split at h
      · split at h
        · obtain ⟨bytes, -, rfl⟩ := Option.map_eq_some_iff.mp h
          rfl
        · cases h
      · cases h
        rfl

/-- A packet leaves the user as it is. -/
lemma takePacket_userId {q : WorkingClientEnv × Packet} {c' : Client}
    (h : c.takePacket q = some c') : c'.userId = c.userId := by
  obtain ⟨r, hr, rfl⟩ := Option.map_eq_some_iff.mp h
  rw [addPacket] at hr
  split at hr
  · obtain ⟨infos', -, hr⟩ := Option.bind_eq_some_iff.mp hr
    split at hr
    · obtain ⟨⟨err, c'⟩, hr', hr⟩ := Option.bind_eq_some_iff.mp hr
      have huser := writeFile_userId hr'
      by_cases herr : err ≠ 0
      · simp only [if_pos herr] at hr
        cases hr
        exact huser
      · simp only [if_neg herr] at hr
        cases hr
        exact huser
    · cases hr
      rfl
  · cases hr
    rfl

/-- After the end of a transfer there is none. -/
lemma transferFile_downloadEnd {env : WorkingClientEnv} {c' : Client}
    (h : c.downloadEnd env infos = some c') : c'.transferFile = .zero := by
  obtain ⟨path, -, h⟩ := Option.bind_eq_some_iff.mp h
  obtain ⟨bytes, -, rfl⟩ := Option.map_eq_some_iff.mp h
  rfl

/-- The client takes packets in through its transfer. -/
def receiver (c : Client) : Receiver WorkingClientEnv Client where
  step := takePacket
  pending := c.withTransfer
  complete := c.downloadEnd
  step_pending infos infos' q hactive hrecord := by
    rw [takePacket, addPacket_withTransfer q.1 hactive hrecord]
    split
    · cases c.downloadEnd q.1 infos' <;> rfl
    · rfl
  step_complete env infos c' q h := by
    rw [takePacket, addPacket, transferFile_downloadEnd h]
    rfl

/-! ### Which outcome it is -/

/-- The transfer is going on: there is no file. -/
structure StillDownloading (c c' : Client) : Prop where
  active : c'.transferFile.active = true
  disk_eq : c'.disk = c.disk

/-- The transfer of the file `fileName` is complete: the bytes are in the file that was opened with
one of the outsides `envs`, and there is no transfer. -/
structure Downloaded (c : Client) (fileName : ℕ → UInt8) (bytes : List UInt8)
    (envs : List WorkingClientEnv) (c' : Client) : Prop where
  inactive : c'.transferFile.active = false
  disk_eq : ∃ env ∈ envs, ∃ path, env.1.openDownload fileName = some (some path) ∧
    c'.disk = c.disk ++ [(path, bytes)]

/-- **A complete transfer** with all bytes. -/
lemma downloadEnd_spec {F : BlockFile} {infos₀ : FileTransferInfos}
    {ps : List (WorkingClientEnv × Packet)} {env : WorkingClientEnv}
    (h : Receiver.Ends infos₀ F ps env infos) :
    ∃ c', c.downloadEnd env infos = some c' ∧
      c.Downloaded infos₀.filePath F.bytes (ps.map (·.1)) c' := by
  obtain ⟨q, hq, rfl⟩ := h.env_mem
  obtain ⟨path, hpath, -, -⟩ := q.1.2 infos.filePath
  refine ⟨{ c with transferFile := .zero, disk := c.disk ++ [(path, F.bytes)] }, ?_, rfl, q.1,
    List.mem_map_of_mem hq, path, ?_, rfl⟩
  · simp only [downloadEnd, hpath, Option.bind_some, id, h.content_eq, Option.map_some]
  · rw [← h.filePath_eq]
    exact hpath

/-- **The outcomes of a download.** -/
lemma outcomes (c : Client) (infos₀ : FileTransferInfos) (F : BlockFile)
    (ps : List (WorkingClientEnv × Packet)) :
    c.receiver.Outcomes infos₀ F c.StillDownloading
      (c.Downloaded infos₀.filePath F.bytes (ps.map (·.1))) True ps := by
  refine ⟨fun infos hactive => ⟨hactive, rfl⟩, fun env infos c' hend hgoing => ?_,
    fun env infos hends => ⟨fun _ => trivial, fun _ => downloadEnd_spec hends⟩⟩
  have hactive := hgoing.active
  rw [transferFile_downloadEnd hend] at hactive
  cases hactive

/-- **Downloads**: every prefix of the packets leaves the client as it is meant to, exactly when the
last block comes last. -/
lemma reassembles_iff {F : BlockFile} (hc : c.transferFile.Fresh)
    {ps : List (WorkingClientEnv × Packet)} (hps : F.Delivers ps) :
    Reassembles takePacket F c c.StillDownloading
      (c.Downloaded c.transferFile.filePath F.bytes (ps.map (·.1))) ps ↔ F.LastBlockLast ps := by
  have h := Receiver.reassembles_iff hc hps (outcomes c c.transferFile F ps)
  rw [imp_true_iff, and_true] at h
  exact h

/-- A sequence of packets that ends with the last block leaves the bytes of the file and no other
bytes. -/
lemma downloaded_iff {F : BlockFile} (hc : c.transferFile.Fresh)
    {ps : List (WorkingClientEnv × Packet)} (hps : F.Delivers ps) (hlast : F.LastBlockLast ps)
    (hmem : F.count ∈ numbers ps) (bytes : List UInt8) :
    (∃ c', ps.foldlM takePacket c = some c' ∧
      c.Downloaded c.transferFile.filePath bytes (ps.map (·.1)) c') ↔ F.bytes = bytes := by
  obtain ⟨-, env, infos, hrun, hends⟩ :=
    Receiver.foldlM_ends (R := c.receiver) hc hps hlast hmem
  change ps.foldlM takePacket c = c.downloadEnd env infos at hrun
  obtain ⟨c', hend, hdownloaded⟩ := downloadEnd_spec (c := c) hends
  rw [hrun, hend]
  constructor
  · rintro ⟨c'', hc'', hdownloaded'⟩
    cases hc''
    obtain ⟨_, -, path, -, hdisk⟩ := hdownloaded.disk_eq
    obtain ⟨_, -, path', -, hdisk'⟩ := hdownloaded'.disk_eq
    rw [hdisk, List.append_cancel_left_eq, List.singleton_inj, Prod.mk.injEq] at hdisk'
    exact hdisk'.2
  · rintro rfl
    exact ⟨c', rfl, hdownloaded⟩

end Client

end Megaphone
