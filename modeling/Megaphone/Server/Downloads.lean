import Megaphone.Server.Handlers
import Megaphone.Server.TcpServer

/-!
The path of a download: the one that `file_exist` has found, and the one that is opened then.

`file_exist` copies the path over the name in `file_path`, without the zero at its end.

* `OpensChecked`: the path in `file_path`, the one in the transfer and the one that
  `create_ftransfer_requests` opens are the path that was checked.
* `opens_checked_iff`: this is so exactly when the byte behind the path was zero before.
-/

namespace Megaphone

open Memory

namespace Server

/-- What `create_ftransfer_requests` makes of what is at the path. -/
def ftransferRequestsOf (env : DownloadEnv) (id : UInt16) (path : List UInt8) :
    Option (Option (List FTransferRQ × ℕ)) :=
  match env.file path with
  | none => some none
  | some file =>
      if (file.length = 0 ∨ env.mmap path = true) ∧ ReadsMapped file.length then
        some (some
          (ftransferrqsNew (mkHeader DOWNLOAD id) (ofList file 0) file.length, file.length))
      else none

lemma createFtransferRequests_eq {s : Server} {id : UInt16} {filePath : ℕ → UInt8}
    (h : s.getTranferFilePath id = some filePath) (env : DownloadEnv) :
    createFtransferRequests env s id =
      ftransferRequestsOf env id (cString filePath MAX_DATALEN) := by
  rw [createFtransferRequests, h, ftransferRequestsOf]
  cases henv : env.file (cString filePath MAX_DATALEN) with
  | none => simp [henv]
  | some file => simp [henv]

/-- The string that is left in `file_path`, and in the transfer of the state `s'`, is the path that
was checked, and it is the file there that is sent. -/
structure OpensChecked (env : Env) (rq : ClientRQCl) (s' : Server) : Prop where
  buffer : cString (downloadPath env rq) MAX_DATALEN = askedPath rq
  stored : (s'.getTranferFilePath (getId rq.header)).map (cString · MAX_DATALEN) =
    some (askedPath rq)
  opened : ∀ denv, createFtransferRequests denv s' (getId rq.header) =
    ftransferRequestsOf denv (getId rq.header) (askedPath rq)

variable {env : Env} {s : Server} {a : CArray ServerRQ} {rq : ClientRQCl} {h : Handled}

/-- There is no zero in a path. -/
lemma zero_notMem_askedPath (rq : ClientRQCl) : 0 ∉ askedPath rq := by
  have hdir : 0 ∉ UPLOAD_FILES_PATH := by decide
  have hnumber := notMem_decimal (show isDigit 0 = false by decide) rq.feedNumber.toNat
  have hname := zero_notMem_cString rq.data MAX_DATALEN
  simp [askedPath, hdir, hnumber, hname]

/-- A download that is accepted is for a short path. -/
lemma length_askedPath_lt (hwf : s.transferFiles.Wf)
    (hrq : s.prepareDownloadRequest env a rq = some h) (hcode : h.code = 0) :
    (askedPath rq).length < MAX_DATALEN := by
  have htype : DOWNLOAD ≠ REGISTRATION := by decide
  have hresult : HandlerResult a DOWNLOAD (s.Rejects env (.cl DOWNLOAD htype rq))
      (s.LeavesMemory env (.cl DOWNLOAD htype rq)) (s.prepareDownloadRequest env a rq) :=
    prepareDownloadRequest_result hwf rq
  rw [hrq] at hresult
  obtain ⟨hrejects, hleaves⟩ := hresult.accepts hcode
  exact length_askedPath_of_accepts hrejects hleaves

/-- The string in `file_path`. -/
lemma cString_downloadPath_iff (hlt : (askedPath rq).length < MAX_DATALEN) :
    cString (downloadPath env rq) MAX_DATALEN = askedPath rq ↔
      env.junk (askedPath rq).length = 0 := by
  have hname : (cString rq.data MAX_DATALEN).length + 1 ≤ (askedPath rq).length := by
    simp only [askedPath, List.length_append, List.length_singleton]
    omega
  have hpath : downloadPath env rq =
      write (write env.junk 0 (cString rq.data MAX_DATALEN ++ [0])) 0 (askedPath rq) := by
    rw [downloadPath, cString_write env.junk (zero_notMem_cString rq.data MAX_DATALEN) (by omega)]
    rfl
  have hbehind : write env.junk 0 (cString rq.data MAX_DATALEN ++ [0]) (askedPath rq).length =
      env.junk (askedPath rq).length :=
    write_of_ge env.junk _ (by simpa using hname)
  rw [hpath, cString_write_eq_iff _ (zero_notMem_askedPath rq) hlt, hbehind]

/-- **A download opens the file that was checked** exactly when the byte behind the path was zero in
`file_path`. -/
theorem opens_checked_iff {w : World} {ts : List ServerTransition}
    (hrun : Machine.Run step World.init ts w) (env : Env) (a : CArray ServerRQ) (rq : ClientRQCl)
    {h : Handled} (hrq : w.server.prepareDownloadRequest env a rq = some h) (hcode : h.code = 0) :
    OpensChecked env rq h.server ↔ env.junk (askedPath rq).length = 0 := by
  have hwf := run_wf hrun
  have hiff : _ ↔ env.junk _ = 0 := cString_downloadPath_iff (length_askedPath_lt hwf hrq hcode)
  obtain ⟨err, -, rfl⟩ | ⟨pseudo, s', -, -, hnew, rfl⟩ := prepareDownloadRequest_cases hrq
  · exact absurd (show (1 : UInt8) = 0 from hcode) (by decide)
  · obtain ⟨s'', hnew', -, hget, hat⟩ :=
      transferNew_eq hwf env (getId rq.header) rq.feedNumber (downloadPath env rq)
    obtain rfl := Option.some.inj (hnew.symm.trans hnew')
    have hpath : s'.getTranferFilePath (getId rq.header) = some (downloadPath env rq) := by
      simp only [getTranferFilePath, hget, Option.bind_eq_bind, Option.bind_some, hat]
      rfl
    refine ⟨fun hopens => hiff.mp hopens.buffer, fun hzero => ?_⟩
    have hbuffer := hiff.mpr hzero
    refine ⟨hbuffer, ?_, fun denv => ?_⟩
    · rw [hpath, Option.map_some, hbuffer]
    · rw [createFtransferRequests_eq hpath, hbuffer]

/-! ### A path behind which something stands -/

namespace DirtyPath

/-- User 1 registers and posts on a new feed. -/
def acts : List Input :=
  [.tcp (.quiet [0]) (.rg ⟨mkHeader REGISTRATION 0, .replicate PSEUDO_LEN 97⟩),
    .tcp (.quiet []) (.cl NEWPOST newpost_ne ⟨mkHeader NEWPOST 1, 0, 0, 1, fun _ => 98⟩)]

/-- The download of `"b"` from feed 1. -/
def request : ClientRQCl := ⟨mkHeader DOWNLOAD 1, 1, 0, 1, ofList [98] 0⟩

/-- There is only the file that is asked for, and what nothing has been written to is 1. -/
def outside : Env :=
  { Env.quiet [] with openRead := fun path => path == askedPath request, junk := fun _ => 1 }

lemma exists_run : ∃ ts w h, Machine.Run step World.init ts w ∧ ts.map (·.act) = acts ∧
    w.server.prepareDownloadRequest outside (.arrayNew ServerRQ 0) request = some h ∧ h.code = 0 :=
  ⟨_, _, _, .cons rfl (.cons rfl (.nil _)), rfl, rfl, rfl⟩

/-- The path in the transfer goes on behind the one that was checked. -/
theorem not_opensChecked : ∃ ts w h, Machine.Run step World.init ts w ∧ ts.map (·.act) = acts ∧
    w.server.prepareDownloadRequest outside (.arrayNew ServerRQ 0) request = some h ∧ h.code = 0 ∧
    ¬OpensChecked outside request h.server := by
  obtain ⟨ts, w, h, hrun, hacts, hrq, hcode⟩ := exists_run
  refine ⟨ts, w, h, hrun, hacts, hrq, hcode, fun hopens => ?_⟩
  have hzero := (cString_downloadPath_iff (length_askedPath_lt (run_wf hrun) hrq hcode)).mp
    hopens.buffer
  exact absurd hzero (show (1 : UInt8) ≠ 0 by decide)

/-- The two sides of the equivalence for this download. -/
theorem opens_checked_iff_dirty : ∃ ts w h, Machine.Run step World.init ts w ∧
    ts.map (·.act) = acts ∧
    w.server.prepareDownloadRequest outside (.arrayNew ServerRQ 0) request = some h ∧ h.code = 0 ∧
    (OpensChecked outside request h.server ↔
      outside.junk (askedPath request).length = 0) := by
  obtain ⟨ts, w, h, hrun, hacts, hrq, hcode⟩ := exists_run
  exact ⟨ts, w, h, hrun, hacts, hrq, hcode, opens_checked_iff hrun outside _ request hrq hcode⟩

end DirtyPath

end Server

end Megaphone
