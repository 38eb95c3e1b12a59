import Megaphone.Library.PathResolution
import Megaphone.Server.FailedUploads
import Megaphone.Server.Outcome

/-!
The files of the feeds, and where their paths lead.

* `directoryPath`, `directoryOf`: the directory of a feed, by its path and by the entries to it.
* `StaysInside`: the name of a file comes back to the directory of its feed; `inside_iff`: this is
  so exactly when the file at the path is inside that directory.
* `run_asksFor`: the name in an active transfer is that of a request of the run.
* `UsesFile`: the files that are opened or made in a step; `UsesFile.requested`: their names are
  those of requests of the run.
* `stays_inside_iff`: all of them, in every run, are inside the directory of their feed, exactly
  when their names stay inside.
-/

namespace Megaphone

open Memory

/-! ### Paths and names -/

/-- What a process in the directory `cwd` finds at a path. -/
def resolvePath (cwd : List (List UInt8)) (path : List UInt8) : List (List UInt8) :=
  Paths.find 47 46 cwd path

/-- The path of the directory of a feed, `"%s/%u"`. -/
def directoryPath (n : UInt16) : List UInt8 := UPLOAD_FILES_PATH ++ [47] ++ decimal n.toNat

/-- The entries on the way to the directory of a feed. -/
def directoryOf (cwd : List (List UInt8)) (n : UInt16) : List (List UInt8) :=
  cwd ++ ["res".toUTF8.data.toList, "server".toUTF8.data.toList, "files".toUTF8.data.toList,
    decimal n.toNat]

lemma resolvePath_directoryPath (cwd : List (List UInt8)) (n : UInt16) :
    resolvePath cwd (directoryPath n) = directoryOf cwd n := by
  have hcomponents : Paths.components 47 46 UPLOAD_FILES_PATH =
      [.entry "res".toUTF8.data.toList, .entry "server".toUTF8.data.toList,
        .entry "files".toUTF8.data.toList] := by
    decide +kernel
  have hres : Paths.find 47 46 cwd UPLOAD_FILES_PATH = cwd ++ ["res".toUTF8.data.toList,
      "server".toUTF8.data.toList, "files".toUTF8.data.toList] := by
    rw [Paths.find, if_neg (show UPLOAD_FILES_PATH.head? ≠ some 47 by decide), hcomponents]
    simp [Paths.resolve, Paths.Component.walk]
  have hslash : (47 : UInt8) ∉ decimal n.toNat := notMem_decimal (by decide) _
  have hdot : (46 : UInt8) ∉ decimal n.toNat := notMem_decimal (by decide) _
  have hpart := Paths.find_append_part (show UPLOAD_FILES_PATH ≠ [] by decide) hslash
    (decimal_ne_nil _) hdot cwd
  calc Paths.find 47 46 cwd (UPLOAD_FILES_PATH ++ [47] ++ decimal n.toNat)
      = Paths.find 47 46 cwd (UPLOAD_FILES_PATH ++ 47 :: decimal n.toNat) := by
        rw [List.append_assoc, List.singleton_append]
    _ = Paths.find 47 46 cwd UPLOAD_FILES_PATH ++ [decimal n.toNat] := hpart
    _ = directoryOf cwd n := by
        rw [hres, List.append_assoc]
        rfl

/-- How many bytes of the name of a file there is room for in its path. -/
def nameRoom (n : UInt16) : ℕ := MAX_DATALEN - 2 - (directoryPath n).length

lemma length_directoryPath_le (n : UInt16) : (directoryPath n).length ≤ 22 := by
  have hn := n.toNat_lt
  have hlength : (decimal n.toNat).length ≤ 5 := length_decimal_le (by omega) (by omega)
  have hdir : UPLOAD_FILES_PATH.length = 16 := by decide
  rw [directoryPath, List.length_append, List.length_append, hdir, List.length_singleton]
  omega

lemma directoryPath_append (n : UInt16) (name : List UInt8) : directoryPath n ++ 47 :: name =
    UPLOAD_FILES_PATH ++ [47] ++ decimal n.toNat ++ [47] ++ name := by
  rw [List.append_assoc _ [47] name, List.singleton_append, directoryPath]

/-- `snprintf` cuts the name. -/
lemma snprintf_path (n : UInt16) (name : List UInt8) :
    snprintf (directoryPath n ++ 47 :: name) = directoryPath n ++ 47 :: name.take (nameRoom n) := by
  have hle := length_directoryPath_le n
  have hroom : MAX_DATALEN - 1 - (directoryPath n).length = nameRoom n + 1 := by
    rw [nameRoom, MAX_DATALEN]
    omega
  have hdirectory : (directoryPath n).take (MAX_DATALEN - 1) = directoryPath n :=
    List.take_of_length_le (by rw [MAX_DATALEN]; omega)
  calc (directoryPath n ++ 47 :: name).take (MAX_DATALEN - 1)
      = directoryPath n ++ (47 :: name).take (nameRoom n + 1) := by
        rw [List.take_append, hdirectory, hroom]
    _ = directoryPath n ++ 47 :: name.take (nameRoom n) := by rw [List.take_succ_cons]

/-- The name, as far as there is room for it, comes back to the directory of the feed: so many
components of the name as lead above it are followed by the entries of `directoryOf` from there on,
and then by at least one more. -/
def StaysInside (cwd : List (List UInt8)) (n : UInt16) (name : List UInt8) : Prop :=
  (Paths.reduce (Paths.components 47 46 (name.take (nameRoom n)))).ComesBack (directoryOf cwd n)

/-- **The file at a path** is inside the directory of the feed exactly when its name stays
inside. -/
lemma inside_iff (cwd : List (List UInt8)) (n : UInt16) (name : List UInt8) :
    Paths.Inside (resolvePath cwd (directoryPath n))
        (resolvePath cwd (snprintf (directoryPath n ++ 47 :: name))) ↔ StaysInside cwd n name := by
  have hne : directoryPath n ≠ [] := by
    rw [directoryPath, List.append_assoc]
    exact List.append_ne_nil_of_left_ne_nil (by decide) _
  have hiff : Paths.Inside (Paths.find 47 46 cwd (directoryPath n))
      (Paths.find 47 46 cwd (directoryPath n ++ 47 :: name.take (nameRoom n))) ↔ _ :=
    Paths.inside_find_iff hne cwd (name.take (nameRoom n))
  have hdirectory : Paths.find 47 46 cwd (directoryPath n) = directoryOf cwd n :=
    resolvePath_directoryPath cwd n
  rw [snprintf_path, StaysInside, ← hdirectory]
  exact hiff

/-! ### The names in the transfers -/

/-- The request that is accepted. -/
lemma AsksFor.exists_request {t : ServerTransition} {i : ℕ} {fileName : ℕ → UInt8}
    (h : AsksFor t i fileName) : ∃ env type htype rq, t.act = .tcp env (.cl type htype rq) ∧
      startsTransfer t = some (getId rq.header) ∧
      (fileName = rq.data ∨ fileName = Server.downloadPath env rq) := by
  cases h with
  | upload hact hstarts => exact ⟨_, _, _, _, hact, hstarts, .inl rfl⟩
  | download hact hstarts => exact ⟨_, _, _, _, hact, hstarts, .inr rfl⟩

/-- Recording a block leaves the name and the feed as they are. -/
lemma record_names {infos infos' : FileTransferInfos} {numblock : UInt16} {data : Block}
    {nbytes : ℕ} (h : infos.record numblock data nbytes = some infos') :
    infos'.active = infos.active ∧ infos'.filePath = infos.filePath ∧
      infos'.feedNumber = infos.feedNumber := by
  obtain ⟨fileData, -, rfl⟩ := Option.map_eq_some_iff.mp h
  exact ⟨rfl, rfl, rfl⟩

/-- **The names, one step**: that of an active transfer is the one before, or is asked for. -/
lemma step_names {w w' : World} {a : Input} {out : Option Answer} (hw : w.server.TableInv)
    (h : step w a = some (w', out)) {i : ℕ} {infos' : FileTransferInfos}
    (hat : w'.server.transferFiles.at? i = some infos') (hactive : infos'.active = true) :
    (∃ infos, w.server.transferFiles.at? i = some infos ∧ infos.active = true ∧
      infos'.filePath = infos.filePath) ∨ AsksFor ⟨w, a, out, w'⟩ i infos'.filePath := by
  obtain hafter | ⟨now, fileName, feedNumber, rfl, hasks⟩ := step_slotAfter hw h hat
  · left
    cases hafter with
    | cleared => cases hactive
    | kept hbefore => exact ⟨infos', hbefore, hactive, rfl⟩
    | @stored old infos numblock data nbytes hbefore hrecord n =>
        obtain ⟨hactive', hpath, -⟩ := record_names hrecord
        exact ⟨old, hbefore, hactive'.symm.trans hactive, hpath⟩
  · exact .inr hasks

/-- A name after a run was in the same slot before it, or is asked for in the run. -/
lemma run_names {w w' : World} {ts : List ServerTransition} (h : Machine.Run step w ts w')
    (hw : w.server.TableInv) {i : ℕ} {infos' : FileTransferInfos}
    (hat : w'.server.transferFiles.at? i = some infos') (hactive : infos'.active = true) :
    (∃ infos, w.server.transferFiles.at? i = some infos ∧ infos.active = true ∧
      infos'.filePath = infos.filePath) ∨ ∃ t ∈ ts, AsksFor t i infos'.filePath := by
  induction h with
  | nil => exact .inl ⟨infos', hat, hactive, rfl⟩
  | @cons w w₁ w' a o ts hs _ ih =>
      obtain ⟨infos₁, hat₁, hactive₁, hpath₁⟩ | ⟨t, ht, hasks⟩ := ih (hw.effect (step_table hw hs))
        hat
      · rw [hpath₁]
        obtain hbefore | hasks := step_names hw hs hat₁ hactive₁
        · exact .inl hbefore
        · exact .inr ⟨_, List.mem_cons_self, hasks⟩
      · exact .inr ⟨t, List.mem_cons_of_mem _ ht, hasks⟩

/-- **The names over a run**: that of an active transfer is asked for in the run. -/
theorem run_asksFor {w : World} {ts : List ServerTransition} (h : Machine.Run step World.init ts w)
    {i : ℕ} {infos : FileTransferInfos} (hat : w.server.transferFiles.at? i = some infos)
    (hactive : infos.active = true) : ∃ t ∈ ts, AsksFor t i infos.filePath := by
  obtain ⟨infos₀, hat₀, hactive₀, -⟩ | hasks := run_names h Server.tableInv_dataInit hat hactive
  · obtain ⟨u, hu, -⟩ := (Server.tableInv_dataInit.backed i infos₀ hat₀ hactive₀).user
    exact absurd hu List.not_mem_nil
  · exact hasks

/-! ### The files that are used -/

/-- The step uses the file of the feed `n` that has this name, at a path: `file_exist` has opened it
for a download that is accepted, or `write_file` has made it at the end of a transfer. -/
inductive UsesFile (t : ServerTransition) : UInt16 → List UInt8 → List UInt8 → Prop
  | opened {env : Env} {htype : DOWNLOAD ≠ REGISTRATION} {rq : ClientRQCl}
      (hact : t.act = .tcp env (.cl DOWNLOAD htype rq))
      (hstarts : startsTransfer t = some (getId rq.header)) :
      UsesFile t rq.feedNumber (cString rq.data MAX_DATALEN) (Server.askedPath rq)
  | made {env : Env} {datagram : List UInt8} {ft : FTransferRQ} {nbytes : ℕ}
      {infos : FileTransferInfos} {path bytes : List UInt8} (hact : t.act = .udp env datagram)
      (hrecv : recvDatagrams (ntohClientrqup env.junk) datagram = some (UPLOAD, ft, nbytes))
      (hat : t.pre.server.transferFiles.at? (getId ft.header).toNat = some infos)
      (hdisk : t.post.server.disk = t.pre.server.disk ++ [(path, bytes)]) :
      UsesFile t (Server.withNumber infos (t.pre.server.feeds.toList.length + 1)).feedNumber
        (cString infos.filePath MAX_DATALEN) path

namespace Server

variable {env : Env} {s s' : Server} {i : ℕ} {infos : FileTransferInfos}

lemma disk_writeFile {r : UInt8 × Server} (h : s.writeFile env infos = some r) :
    r.2.disk = s.disk ∨ ∃ bytes, r.2.disk = s.disk ++ [(filePathOf infos, bytes)] := by
  obtain ⟨bytes, rfl⟩ | rfl := writeFile_cases h
  · exact .inr ⟨bytes, rfl⟩
  · exact .inl rfl

/-- The end of a transfer makes one file at most, at the path of the transfer. -/
lemma disk_completeTransfer {id : UInt16} {r : UInt8 × Server}
    (h : s.completeTransfer env id i infos = some r) :
    r.2.disk = s.disk ∨ ∃ bytes, r.2.disk =
      s.disk ++ [(filePathOf (withNumber infos (s.feeds.toList.length + 1)), bytes)] := by
  obtain ⟨pseudo, hpseudo, -⟩ := Option.bind_eq_some_iff.mp h
  by_cases hdir : infos.feedNumber = 0 ∧ (s.feedNew env pseudo).1 ≠ 0
  · rw [completeTransfer_noDirectory hpseudo hdir.1 hdir.2] at h
    cases h
    exact .inl rfl
  · rw [completeTransfer_feed hpseudo fun hf => not_not.mp fun hne => hdir ⟨hf, hne⟩] at h
    obtain ⟨s₂, hs₂, h⟩ := Option.bind_eq_some_iff.mp h
    obtain ⟨w, hw, h⟩ := Option.bind_eq_some_iff.mp h
    have hr : r.2.disk = w.2.disk := by
      split at h
      · cases h
        rfl
      · cases h
        rfl
    obtain ⟨feed, -, rfl⟩ := postNew_eq_some hs₂
    have hwrite := disk_writeFile hw
    rw [withNumber_length] at hwrite
    rw [hr, ← disk_withFeed env s pseudo infos]
    exact hwrite

/-- A datagram makes one file at most, at the path of the transfer of its user. -/
lemma disk_handleUploadPacket {type : UInt8} {ft : FTransferRQ} {nbytes : ℕ} {r : UInt8 × Server}
    (h : s.handleUploadPacket env type ft nbytes = some r) :
    r.2.disk = s.disk ∨ ∃ infos bytes, s.transferFiles.at? (getId ft.header).toNat = some infos ∧
      infos.active = true ∧ r.2.disk =
        s.disk ++ [(filePathOf (withNumber infos (s.feeds.toList.length + 1)), bytes)] := by
  obtain ⟨-, rfl⟩ | ⟨-, h⟩ := handleUploadPacket_cases h
  · exact .inl rfl
  · obtain ⟨hr, -⟩ | ⟨old, infos, hat, hactive, hrecord, ⟨-, hr⟩ | ⟨-, hr⟩⟩ := addPacket_cases h
    · exact .inl (congrArg disk hr)
    · rw [hr]
      exact .inl rfl
    · obtain hdisk | ⟨bytes, hdisk⟩ := disk_completeTransfer hr
      · exact .inl hdisk
      · obtain ⟨-, hpath, hfeed⟩ := record_names hrecord
        have hsame : filePathOf (withNumber infos (s.feeds.toList.length + 1)) =
            filePathOf (withNumber old (s.feeds.toList.length + 1)) := by
          refine filePathOf_congr ?_ ?_
          · rw [filePath_withNumber, filePath_withNumber, hpath]
          · rw [withNumber, withNumber, hfeed]
            split
            · rfl
            · exact hfeed
        refine .inr ⟨old, bytes, hat, hactive, ?_⟩
        rw [← hsame]
        exact hdisk

/-- The path of a download that is accepted is short. -/
lemma length_askedPath_of_entry (hwf : s.transferFiles.Wf) {htype : DOWNLOAD ≠ REGISTRATION}
    {rq : ClientRQCl} {ans : Answer} {e : ServerRQ}
    (hconn : s.handleTcpConnection env (.cl DOWNLOAD htype rq) = some (s', ans))
    (hcode : ans.code = 0) (he : ans.entry 0 = some e) (hdown : e.type = DOWNLOAD) :
    (askedPath rq).length < MAX_DATALEN := by
  have htable : InTable (ClientRQ.cl DOWNLOAD htype rq).type :=
    inTable_iff.mpr (show 1 ≤ DOWNLOAD.toNat ∧ DOWNLOAD.toNat ≤ 6 by decide)
  have hrejects := ((type_eq_download_iff hwf htable hcode hconn he).mp hdown).1
  have hout : s.Outcome env (.cl DOWNLOAD htype rq) _ := connection_outcome hwf htable
  rw [hconn] at hout
  exact length_askedPath_of_accepts hrejects (hout.not_leavesMemory he)

end Server

/-- What the end of a transfer has made: the transfer was active, and the path is its path. -/
lemma exists_active_of_made {w w' : World} {out : Option Answer} {env : Env} {datagram : List UInt8}
    {ft : FTransferRQ} {nbytes : ℕ} {infos : FileTransferInfos} {path bytes : List UInt8}
    (hstep : step w (.udp env datagram) = some (w', out))
    (hrecv : recvDatagrams (ntohClientrqup env.junk) datagram = some (UPLOAD, ft, nbytes))
    (hat : w.server.transferFiles.at? (getId ft.header).toNat = some infos)
    (hdisk : w'.server.disk = w.server.disk ++ [(path, bytes)]) : infos.active = true ∧
      path = Server.filePathOf (Server.withNumber infos (w.server.feeds.toList.length + 1)) := by
  cases step_cases hstep with
  | @udp _ _ type ft' nbytes' r hrecv' hp =>
      obtain ⟨rfl, rfl, rfl⟩ : type = UPLOAD ∧ ft' = ft ∧ nbytes' = nbytes := by
        simpa using hrecv'.symm.trans hrecv
      obtain hsame | ⟨infos', bytes', hat', hactive, hdisk'⟩ := Server.disk_handleUploadPacket hp
      · have hlength := congrArg List.length (hsame.symm.trans hdisk)
        rw [List.length_append, List.length_singleton] at hlength
        exact absurd hlength (Nat.ne_of_lt (Nat.lt_succ_self _))
      · obtain rfl := Option.some.inj (hat'.symm.trans hat)
        have hfile := List.append_cancel_left (hdisk.symm.trans hdisk')
        exact ⟨hactive, (Prod.mk.inj (List.singleton_inj.mp hfile)).1⟩

/-- The path at which a file is used. -/
lemma UsesFile.path_eq {t : ServerTransition} {n : UInt16} {name path : List UInt8}
    (h : UsesFile t n name path) (hinv : t.pre.server.TableInv)
    (hstep : step t.pre t.act = some (t.post, t.out)) :
    path = snprintf (directoryPath n ++ 47 :: name) := by
  obtain ⟨w, a, out, w'⟩ := t
  cases h with
  | @opened env htype rq hact hstarts =>
      obtain rfl : a = _ := hact
      replace hstep : step w (.tcp env (.cl DOWNLOAD htype rq)) = some (w', out) := hstep
      cases step_cases hstep with
      | @tcp _ _ s' ans hconn =>
          have hif : (if (DOWNLOAD = UPLOAD ∨ DOWNLOAD = DOWNLOAD) ∧ ans.code = 0 ∧
              (ans.entry 0).map (·.type) = some DOWNLOAD then some (getId rq.header)
              else none) = some (getId rq.header) := hstarts
          split at hif
          next hgood =>
            obtain ⟨-, hcode, hentry⟩ := hgood
            obtain ⟨e, he, hdown⟩ := Option.map_eq_some_iff.mp hentry
            have hlt := Server.length_askedPath_of_entry hinv.wf_transferFiles hconn hcode he hdown
            rw [directoryPath_append, snprintf]
            exact (List.take_of_length_le (show (Server.askedPath rq).length ≤ _ by omega)).symm
          next => cases hif
  | @made env datagram ft nbytes infos path bytes hact hrecv hat hdisk =>
      obtain rfl : a = _ := hact
      obtain ⟨-, rfl⟩ := exists_active_of_made hstep hrecv hat hdisk
      rw [directoryPath_append, Server.filePathOf, Server.filePath_withNumber]

/-- **The name of every file that is used** is asked for in the run: it is that of a request, or the
path that a download has left in its transfer. -/
theorem UsesFile.requested {w : World} {ts : List ServerTransition}
    (hrun : Machine.Run step World.init ts w) {t : ServerTransition} (ht : t ∈ ts) {n : UInt16}
    {name path : List UInt8} (h : UsesFile t n name path) :
    ∃ t' ∈ ts, ∃ env type htype rq, t'.act = .tcp env (.cl type htype rq) ∧
      startsTransfer t' = some (getId rq.header) ∧ (name = cString rq.data MAX_DATALEN ∨
        name = cString (Server.downloadPath env rq) MAX_DATALEN) := by
  obtain ⟨hstep, -, -⟩ := hrun.exists_of_mem ht
  obtain ⟨us, hus, hbefore⟩ := hrun.exists_prefix_of_mem ht
  cases h with
  | opened hact hstarts => exact ⟨t, ht, _, _, _, _, hact, hstarts, .inl rfl⟩
  | made hact hrecv hat hdisk =>
      rw [hact] at hstep
      obtain ⟨hactive, -⟩ := exists_active_of_made hstep hrecv hat hdisk
      obtain ⟨t', ht', hasks⟩ := run_asksFor hbefore hat hactive
      obtain ⟨env, type, htype, rq, hact', hstarts, hname⟩ := hasks.exists_request
      refine ⟨t', hus.subset ht', env, type, htype, rq, hact', hstarts, ?_⟩
      exact hname.imp (congrArg (cString · MAX_DATALEN)) (congrArg (cString · MAX_DATALEN))

/-- **The files of the feeds stay in their directories**: in every run, and for every working
directory, a file is opened or made inside the directory of its feed, for each that is used, exactly
when its name stays inside. -/
theorem stays_inside_iff {w : World} {ts : List ServerTransition}
    (hrun : Machine.Run step World.init ts w) (cwd : List (List UInt8)) :
    (∀ t ∈ ts, ∀ n name path, UsesFile t n name path →
      Paths.Inside (resolvePath cwd (directoryPath n)) (resolvePath cwd path)) ↔
      ∀ t ∈ ts, ∀ n name path, UsesFile t n name path → StaysInside cwd n name := by
  have hsteps := hrun.forall_transition (P := fun w => w.server.TableInv)
    (Q := fun t => t.pre.server.TableInv ∧ step t.pre t.act = some (t.post, t.out))
    (fun w a w' o hw hs => hw.effect (step_table hw hs)) (fun w a w' o hw hs => ⟨hw, hs⟩)
    Server.tableInv_dataInit
  refine forall₂_congr fun t ht => ?_
  obtain ⟨hinv, hstep⟩ := hsteps t ht
  refine forall₄_congr fun n name path huses => ?_
  rw [huses.path_eq hinv hstep]
  exact inside_iff cwd n name

/-! ### A file beside the directory of its feed -/

namespace Beside

/-- The only datagram of the file. -/
def datagram : List UInt8 := [0, 37, 0, 1, 98]

/-- User 1 registers, and uploads a file named `"../x"` to a new feed. -/
def acts : List Input :=
  [.tcp (.quiet [0]) (.rg ⟨mkHeader REGISTRATION 0, .replicate PSEUDO_LEN 97⟩),
    .tcp (.quiet []) (.cl UPLOAD upload_ne ⟨mkHeader UPLOAD 1, 0, 0, 4,
      ofList [46, 46, 47, 120] 0⟩),
    .udp (.quiet []) datagram]

/-- The path of the file. -/
def path : List UInt8 := UPLOAD_FILES_PATH ++ [47, 49, 47, 46, 46, 47, 120]

lemma exists_run : ∃ ts w t ft nbytes infos, Machine.Run step World.init ts w ∧
    ts.map (·.act) = acts ∧ t ∈ ts ∧ t.act = .udp (.quiet []) datagram ∧
    recvDatagrams (ntohClientrqup (Env.quiet []).junk) datagram = some (UPLOAD, ft, nbytes) ∧
    t.pre.server.transferFiles.at? (getId ft.header).toNat = some infos ∧
    t.post.server.disk = t.pre.server.disk ++ [(path, [98])] ∧
    (Server.withNumber infos (t.pre.server.feeds.toList.length + 1)).feedNumber = 1 :=
  ⟨_, _, _, _, _, _, .cons rfl (.cons rfl (.cons rfl (.nil _))), rfl,
    List.mem_cons_of_mem _ (List.mem_cons_of_mem _ List.mem_cons_self), rfl, rfl, rfl, rfl, rfl⟩

/-- The file is in the directory of all feeds, and not in the one of its feed. -/
lemma not_inside : ¬Paths.Inside (resolvePath [] (directoryPath 1)) (resolvePath [] path) := by
  have hdirectory : (resolvePath [] (directoryPath 1)).length = 4 := by decide +kernel
  have hpath : (resolvePath [] path).length = 4 := by decide +kernel
  rintro ⟨l, hl, heq⟩
  have hlength := congrArg List.length heq
  rw [List.length_append, hdirectory, hpath] at hlength
  exact hl (List.length_eq_zero_iff.mp (by omega))

/-- The upload makes a file outside the directory of its feed. -/
theorem not_staysInside : ∃ ts w, Machine.Run step World.init ts w ∧ ts.map (·.act) = acts ∧
    ¬∀ t ∈ ts, ∀ n name path, UsesFile t n name path →
      Paths.Inside (resolvePath [] (directoryPath n)) (resolvePath [] path) := by
  obtain ⟨ts, w, t, ft, nbytes, infos, hrun, hacts, ht, hact, hrecv, hat, hdisk, hnumber⟩ :=
    exists_run
  refine ⟨ts, w, hrun, hacts, fun h => ?_⟩
  have hinside := h t ht _ _ _ (.made hact hrecv hat hdisk)
  rw [hnumber] at hinside
  exact not_inside hinside

/-- Both sides fail in this run. -/
theorem stays_inside_iff_beside : ∃ ts w, Machine.Run step World.init ts w ∧
    ts.map (·.act) = acts ∧
    ((∀ t ∈ ts, ∀ n name path, UsesFile t n name path →
        Paths.Inside (resolvePath [] (directoryPath n)) (resolvePath [] path)) ↔
      ∀ t ∈ ts, ∀ n name path, UsesFile t n name path → StaysInside [] n name) := by
  obtain ⟨ts, w, -, -, -, -, hrun, hacts, -⟩ := exists_run
  exact ⟨ts, w, hrun, hacts, stays_inside_iff hrun []⟩

end Beside

end Megaphone
