import Megaphone.Server.Blocks
import Megaphone.Server.Failures
import Megaphone.Server.Transfers

/-!
Uploads whose last step fails: what is left of them in the feeds.

`add_packet` makes the feed, then the post, and then the file, and it undoes nothing.

* `Server.NoDirectory`, `Server.CompletionFails`, `Server.UploadFails`: the datagrams that complete
  a transfer when the directory of the new feed can be neither found nor made, or when the file
  cannot be opened.
* `completeTransfer_fails`, `completeTransfer_code`: the end of a transfer returns 1 for these only,
  and then a feed or a post is left.
* `LeavesNoTrace`: when `add_packet` returns 1, the feeds and the posts are as before.
* `leaves_no_trace_iff`: every datagram of a run leaves no trace, exactly when there is no such
  datagram.
-/

namespace Megaphone

namespace Server

/-- The directory of the next feed can be neither found nor made. -/
def NoDirectory (env : Env) (s : Server) : Prop :=
  env.stat (feedPath (s.feeds.toList.length + 1)) = false ∧
    env.mkdir (feedPath (s.feeds.toList.length + 1)) = false

/-- The end of the transfer `infos` fails: there is no directory for its new feed, or there is one,
`post_new` finds the record of the feed, and the file cannot be opened or given its length. -/
inductive CompletionFails (env : Env) (s : Server) (infos : FileTransferInfos) : Prop
  | directory (hnew : infos.feedNumber = 0) (hdir : s.NoDirectory env)
  | file (hdir : infos.feedNumber = 0 → ¬s.NoDirectory env)
      (hrecord : sizeSub (withNumber infos (s.feeds.toList.length + 1)).feedNumber.toNat 1 <
        s.feeds.toList.length + 1)
      (hopen : env.openWrite (filePathOf (withNumber infos (s.feeds.toList.length + 1))) = false)

/-- A datagram that completes an active transfer whose end fails. -/
def UploadFails (s : Server) : Input → Prop
  | .udp env datagram => ∃ ft nbytes old infos,
      recvDatagrams (ntohClientrqup env.junk) datagram = some (UPLOAD, ft, nbytes) ∧
        s.transferFiles.get (getId ft.header).toNat = some (getId ft.header).toNat ∧
        s.transferFiles.at? (getId ft.header).toNat = some old ∧ old.active = true ∧
        old.record ft.numblock ft.data (sizeSub nbytes 4) = some infos ∧
        infos.received = true ∧ s.CompletionFails env infos
  | _ => False

variable {env : Env} {s s₁ s' : Server} {id : UInt16} {i : ℕ} {infos : FileTransferInfos}
  {pseudo : Pseudo}

/-! ### What is left in the feeds -/

/-- A new feed is one more in the log. -/
lemma length_toLog_appendFeed (s : Server) (feed : Feed) :
    (s.appendFeed feed).toLog.feeds.length = s.toLog.feeds.length + 1 := by
  simp only [toLog, appendFeed, FullArray.toList_append, List.length_map, List.length_append,
    List.length_singleton]

/-- A new post is seen in the log. -/
lemma toLog_appendPost_ne {feed : Feed} (h : s.feeds.toList[i]? = some feed) (post : Post) :
    (s.appendPost i feed post).toLog.feeds ≠ s.toLog.feeds := by
  intro heq
  have hi := (List.getElem?_eq_some_iff.mp h).1
  have hposts := congrArg (fun feeds : List LogFeed => feeds[i]?.map (·.posts.length)) heq
  simp only [toLog, appendPost, FullArray.toList_write, List.getElem?_map,
    List.getElem?_set_self hi, h, Option.map_some, Feed.toLog, List.length_map,
    FullArray.toList_append, List.length_append, List.length_singleton, Option.some.injEq] at hposts
  omega

/-- The feeds of a server with a post, and with a new feed for it or not, are not those before. -/
lemma toLog_post_withFeed {feed : Feed} (env : Env) (pseudo : Pseudo) (infos : FileTransferInfos)
    (h : (s.withFeed env pseudo infos).feeds.toList[i]? = some feed) (post : Post) :
    ((s.withFeed env pseudo infos).appendPost i feed post).toLog.feeds ≠ s.toLog.feeds := by
  by_cases hf : infos.feedNumber = 0
  · rw [withFeed, if_pos hf] at h ⊢
    intro heq
    have hlength := congrArg List.length heq
    have hnew := length_toLog_appendFeed s (localFeed env pseudo)
    simp only [toLog, appendPost, FullArray.toList_write, List.length_map,
      List.length_set] at hlength
    simp only [toLog, List.length_map] at hnew
    omega
  · rw [withFeed, if_neg hf] at h ⊢
    exact toLog_appendPost_ne h post

/-! ### The end of a transfer -/

lemma noDirectory_iff (env : Env) (s : Server) (creator : Pseudo) :
    s.NoDirectory env ↔ (s.feedNew env creator).1 ≠ 0 :=
  (feedNew_fst env s creator).symm

/-- The number that the transfer is given. -/
lemma withNumber_length (env : Env) (s : Server) (pseudo : Pseudo) (infos : FileTransferInfos) :
    withNumber infos (s.withFeed env pseudo infos).feeds.length =
      withNumber infos (s.feeds.toList.length + 1) := by
  by_cases hf : infos.feedNumber = 0
  · rw [withFeed, if_pos hf, FullArray.length_eq, appendFeed, FullArray.toList_append,
      List.length_append, List.length_singleton]
  · rw [withNumber, withNumber, if_neg hf, if_neg hf]

lemma length_withFeed_le (env : Env) (s : Server) (pseudo : Pseudo) (infos : FileTransferInfos) :
    (s.withFeed env pseudo infos).feeds.toList.length ≤ s.feeds.toList.length + 1 := by
  rw [withFeed]
  split
  · rw [appendFeed, FullArray.toList_append, List.length_append, List.length_singleton]
  · exact Nat.le_succ _

/-- The record that `post_new` looks for at the end of a transfer. -/
lemma exists_record (hle : infos.feedNumber.toNat ≤ s.feeds.toList.length)
    (hrecord : sizeSub (withNumber infos (s.feeds.toList.length + 1)).feedNumber.toNat 1 <
      s.feeds.toList.length + 1) (env : Env) (pseudo : Pseudo) :
    ∃ feed, (s.withFeed env pseudo infos).feeds.toList[sizeSub
      (withNumber infos (s.feeds.toList.length + 1)).feedNumber.toNat 1]? = some feed := by
  refine Option.ne_none_iff_exists'.mp fun hnone => ?_
  have hge := List.getElem?_eq_none_iff.mp hnone
  by_cases hf : infos.feedNumber = 0
  · rw [withFeed, if_pos hf, appendFeed, FullArray.toList_append, List.length_append,
      List.length_singleton] at hge
    omega
  · have hpos : infos.feedNumber.toNat ≠ 0 := fun h0 => hf (UInt16.toNat_inj.mp h0)
    rw [withFeed, withNumber, if_neg hf, if_neg hf, sizeSub, if_pos (by omega)] at hge
    omega

/-- `post_new` at the end of a transfer, when it finds the record. -/
lemma exists_announce {feed : Feed} (hfeed : s.feeds.toList[sizeSub infos.feedNumber.toNat 1]? =
      some feed) (env : Env) (pseudo : Pseudo) : ∃ post, s.announce env pseudo infos =
    some (s.appendPost (sizeSub infos.feedNumber.toNat 1) feed post) := by
  have hlt := (List.getElem?_eq_some_iff.mp hfeed).1
  simp only [announce, postNew, FullArray.get_eq_some hlt.le, Option.bind_eq_bind,
    Option.bind_some, hfeed]
  exact ⟨_, rfl⟩

/-- **The end of a transfer that fails** returns 1, and leaves a feed or a post. -/
lemma completeTransfer_fails (hbacked : s.Backed id.toNat infos)
    (hfails : s.CompletionFails env infos) :
    ∃ s', s.completeTransfer env id i infos = some (1, s') ∧ s'.toLog.feeds ≠ s.toLog.feeds := by
  obtain ⟨pseudo, hpseudo⟩ := exists_pseudo hbacked.user
  cases hfails with
  | directory hnew hdir =>
      refine ⟨_, completeTransfer_noDirectory hpseudo hnew
        ((noDirectory_iff env s pseudo).mp hdir), fun heq => ?_⟩
      have hlength := congrArg List.length heq
      rw [length_toLog_appendFeed] at hlength
      omega
  | file hdir hrecord hopen =>
      have hcomplete := completeTransfer_feed (i := i) hpseudo fun hf =>
        not_not.mp ((noDirectory_iff env s pseudo).not.mp (hdir hf))
      obtain ⟨feed, hfeed⟩ := exists_record hbacked.feed_le hrecord env pseudo
      rw [← withNumber_length env s pseudo infos] at hfeed hopen
      set s₁ := s.withFeed env pseudo infos
      set infos' := withNumber infos s₁.feeds.length
      obtain ⟨post, hannounce⟩ := exists_announce (s := s₁.putTransfer i infos') hfeed env pseudo
      refine ⟨(s₁.putTransfer i infos').appendPost _ feed post, hcomplete.trans ?_,
        toLog_post_withFeed env pseudo infos hfeed post⟩
      show ((s₁.putTransfer i infos').announce env pseudo infos').bind _ = _
      rw [hannounce, Option.bind_some, writeFile, if_neg (by rw [hopen]; decide)]
      rfl

/-- The end of any other transfer does not return 1. -/
lemma completeTransfer_code (hbacked : s.Backed id.toNat infos)
    (hfails : ¬s.CompletionFails env infos) {r : UInt8 × Server}
    (h : s.completeTransfer env id i infos = some r) : r.1 = 0 := by
  obtain ⟨pseudo, hpseudo⟩ := exists_pseudo hbacked.user
  have hdir : infos.feedNumber = 0 → ¬s.NoDirectory env := fun hf hno =>
    hfails (.directory hf hno)
  rw [completeTransfer_feed hpseudo fun hf =>
    not_not.mp ((noDirectory_iff env s pseudo).not.mp (hdir hf))] at h
  obtain ⟨s₂, hs₂, h⟩ := Option.bind_eq_some_iff.mp h
  obtain ⟨w, hw, h⟩ := Option.bind_eq_some_iff.mp h
  obtain ⟨feed, hfeed, -⟩ := postNew_eq_some hs₂
  have hlt := (List.getElem?_eq_some_iff.mp hfeed).1
  rw [withNumber_length env s pseudo infos] at hlt hw
  have hrecord := lt_of_lt_of_le hlt (length_withFeed_le env s pseudo infos)
  have hopen : env.openWrite (filePathOf (withNumber infos (s.feeds.toList.length + 1))) = true :=
    Bool.eq_true_of_not_eq_false fun hopen => hfails (.file hdir hrecord hopen)
  simp only [writeFile, hopen, if_true] at hw
  split at hw
  · obtain ⟨bytes, -, rfl⟩ := Option.map_eq_some_iff.mp hw
    cases h
    rfl
  · cases hw

/-! ### Datagrams -/

/-- **A datagram that fails** leaves a feed or a post. -/
lemma udpServerLoop_fails (hinv : s.TableInv) {datagram : List UInt8}
    (hfails : s.UploadFails (.udp env datagram)) :
    ∃ s', s.udpServerLoop env datagram = some (1, s') ∧ s'.toLog.feeds ≠ s.toLog.feeds := by
  obtain ⟨ft, nbytes, old, infos, hrecv, hget, hat, hactive, hrecord, hreceived, hfails⟩ := hfails
  have hold := hinv.backed _ old hat hactive
  have hbacked : (s.putTransfer (getId ft.header).toNat infos).Backed (getId ft.header).toNat
      infos := ⟨hold.user, by rw [(record_eq_some hrecord).2.1]; exact hold.feed_le⟩
  have hfails' : (s.putTransfer (getId ft.header).toNat infos).CompletionFails env infos := by
    cases hfails with
    | directory hnew hdir => exact .directory hnew hdir
    | file hdir hrecord hopen => exact .file hdir hrecord hopen
  obtain ⟨s', hs', hne⟩ := completeTransfer_fails (i := (getId ft.header).toNat) hbacked hfails'
  refine ⟨s', ?_, hne⟩
  simp only [udpServerLoop, hrecv, Option.bind_eq_bind, Option.bind_some, handleUploadPacket,
    ne_eq, not_true, if_false]
  rw [addPacket_eq env hget hat hactive ⟨ft.numblock, ft.data, sizeSub nbytes 4⟩]
  simp only [hrecord, Option.bind_some, hreceived, if_true, hs']

/-- Any other datagram leaves the feeds as they are when 1 is returned. -/
lemma udpServerLoop_noTrace (hinv : s.TableInv) {datagram : List UInt8}
    (hfails : ¬s.UploadFails (.udp env datagram))
    (h : s.udpServerLoop env datagram = some (1, s')) : s'.toLog.feeds = s.toLog.feeds := by
  obtain ⟨⟨type, ft, nbytes⟩, hrecv, h⟩ := Option.bind_eq_some_iff.mp h
  obtain ⟨-, hr⟩ | ⟨rfl, h⟩ := handleUploadPacket_cases h
  · exact absurd (show (1 : UInt8) = 0 from (Prod.mk.inj hr).1) (by decide)
  · obtain ⟨rfl, -⟩ | ⟨old, infos, hat, hactive, hrecord, ⟨-, hr⟩ | ⟨hreceived, hcomplete⟩⟩ :=
      addPacket_cases h
    · rfl
    · exact absurd (show (1 : UInt8) = 0 from (Prod.mk.inj hr).1) (by decide)
    · have hold := hinv.backed _ old hat hactive
      have hbacked : (s.putTransfer (getId ft.header).toNat infos).Backed (getId ft.header).toNat
          infos := ⟨hold.user, by rw [(record_eq_some hrecord).2.1]; exact hold.feed_le⟩
      have hget : s.transferFiles.get (getId ft.header).toNat = some (getId ft.header).toNat := by
        have hlt := hinv.covered _ old hat hactive
        rw [CArray.get, if_neg (by omega)]
      have hcode := completeTransfer_code hbacked (fun hfails' => hfails ⟨ft, nbytes, old, infos,
        hrecv, hget, hat, hactive, hrecord, hreceived, by
          cases hfails' with
          | directory hnew hdir => exact .directory hnew hdir
          | file hdir hrecord hopen => exact .file hdir hrecord hopen⟩) hcomplete
      exact absurd (show (1 : UInt8) = 0 from hcode) (by decide)

/-! ### Runs -/

/-- A datagram for which `add_packet` returns 1 leaves the feeds and their posts as they were. -/
def LeavesNoTrace (t : ServerTransition) : Prop :=
  ∀ env datagram s', t.act = .udp env datagram →
    t.pre.server.udpServerLoop env datagram = some (1, s') →
      s'.toLog.feeds = t.pre.server.toLog.feeds

/-- **A failed upload leaves no trace in the feeds**, over every run: for every datagram for which
`add_packet` returns 1 the feeds and the posts are as before, if and only if no datagram completes a
transfer whose end fails, for want of a directory for its new feed or of its file.  (A file that
cannot be mapped does not make it return 1.) -/
theorem leaves_no_trace_iff {w : World} {ts : List ServerTransition}
    (h : Machine.Run step World.init ts w) :
    (∀ t ∈ ts, LeavesNoTrace t) ↔ ∀ t ∈ ts, ¬t.pre.server.UploadFails t.act := by
  refine h.forall_iff (P := fun w => w.server.TableInv) (Q := LeavesNoTrace)
    (B := fun t => t.pre.server.UploadFails t.act) (fun w i w' out hinv hs hfails htrace => ?_)
    (fun w i w' out hinv hs hfails => ⟨?_, fun env datagram s' hact hudp => ?_⟩) tableInv_dataInit
  · cases i with
    | udp env datagram =>
        obtain ⟨s', hs', hne⟩ := udpServerLoop_fails hinv hfails
        exact hne (htrace env datagram s' rfl hs')
    | tcp env rq => exact hfails
    | sent id => exact hfails
    | timeout now => exact hfails
    | loop ok => exact hfails
  · exact run_table (.cons hs (.nil w')) hinv
  · obtain rfl : i = .udp env datagram := hact
    exact udpServerLoop_noTrace hinv hfails hudp

namespace NoFile

/-- Outside, no file can be opened. -/
def outside : Env := { Env.quiet [] with openWrite := fun _ => false }

/-- The last datagram of an upload of user 1: the block number 1, with one byte. -/
def datagram : List UInt8 := [0, 37, 0, 1, 98]

/-- User 1 registers, asks for an upload of `"a/b"` to a new feed, and sends the file. -/
def acts : List Input :=
  [.tcp (.quiet [0]) (.rg ⟨mkHeader REGISTRATION 0, .replicate PSEUDO_LEN 97⟩),
    .tcp (.quiet []) (.cl UPLOAD upload_ne
      ⟨mkHeader UPLOAD 1, 0, 0, 3, Memory.ofList [97, 47, 98] 0⟩),
    .udp outside datagram]

/-- The run: there is a feed with a post, and no file. -/
lemma exists_run : ∃ ts w t s', Machine.Run step World.init ts w ∧ ts.map (·.act) = acts ∧
    w.server.disk.length = 0 ∧ t ∈ ts ∧ t.act = .udp outside datagram ∧
    t.pre.server.udpServerLoop outside datagram = some (1, s') ∧
    t.pre.server.toLog.feeds.length = 0 ∧ s'.toLog.feeds.map (·.posts.length) = [1] :=
  ⟨_, _, _, _, .cons rfl (.cons rfl (.cons rfl (.nil _))), rfl, rfl,
    List.mem_cons_of_mem _ (List.mem_cons_of_mem _ List.mem_cons_self), rfl, rfl, rfl, rfl⟩

/-- The post announces a file that is not there. -/
theorem not_leavesNoTrace : ∃ ts w, Machine.Run step World.init ts w ∧ ts.map (·.act) = acts ∧
    w.server.disk.length = 0 ∧ ¬∀ t ∈ ts, LeavesNoTrace t := by
  obtain ⟨ts, w, t, s', hrun, hacts, hdisk, ht, hact, hudp, hnone, hone⟩ := exists_run
  refine ⟨ts, w, hrun, hacts, hdisk, fun htrace => ?_⟩
  rw [htrace t ht outside datagram s' hact hudp, List.length_eq_zero_iff.mp hnone] at hone
  cases hone

/-- Both sides fail in this run. -/
theorem leaves_no_trace_iff_noFile : ∃ ts w, Machine.Run step World.init ts w ∧
    ts.map (·.act) = acts ∧
    ((∀ t ∈ ts, LeavesNoTrace t) ↔ ∀ t ∈ ts, ¬t.pre.server.UploadFails t.act) := by
  obtain ⟨ts, w, t, s', hrun, hacts, -⟩ := exists_run
  exact ⟨ts, w, hrun, hacts, leaves_no_trace_iff hrun⟩

end NoFile

end Server

end Megaphone
