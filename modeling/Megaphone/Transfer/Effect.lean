import Megaphone.Server.Blocks
import Megaphone.Transfer.Order

/-!
What the store shows of an upload whose blocks arrive in order.

* `announcement_eq`, `filePathOf_eq`: for a short name, neither text is cut off.
* `Server.uploadPacket`: a block through `handle_upload_packet`; `BlockFile.InOrder`: all blocks of
  a file, one after the other.
* `Server.OnlySlot`, `Server.UploadEffect`: a step that changes the slot of the user only, and the
  one that completes the upload; `uploadEnd_effect`: the end of a transfer is of the second kind.
* `complete_upload_effect`: the blocks before the last one are of the first kind, and the last one
  is of the second.
-/

namespace Megaphone

open Memory

/-! ### Texts -/

/-- The longest name of a file of which no text is cut off, plus one. -/
def NAME_LEN : ℕ := 230

lemma snprintf_of_lt {l : List UInt8} (h : l.length < MAX_DATALEN) : snprintf l = l := by
  rw [snprintf, List.take_of_length_le (by rw [MAX_DATALEN] at h ⊢; omega)]

namespace Server

/-- The text of the post for a file with a short name. -/
lemma announcement_eq {infos : FileTransferInfos} {name : List UInt8}
    (hname : cString infos.filePath MAX_DATALEN = name) (hlen : name.length < NAME_LEN)
    (hsize : infos.fileSize < 10 ^ 8) :
    announcement infos = name ++ [32] ++ decimal infos.fileSize := by
  have hdecimal := length_decimal_le (by omega) hsize
  rw [NAME_LEN] at hlen
  rw [announcement, hname]
  refine snprintf_of_lt ?_
  rw [List.length_append, List.length_append, List.length_singleton, MAX_DATALEN]
  omega

/-- The path of a file with a short name. -/
lemma filePathOf_eq {infos : FileTransferInfos} {name : List UInt8}
    (hname : cString infos.filePath MAX_DATALEN = name) (hlen : name.length < NAME_LEN) :
    filePathOf infos =
      UPLOAD_FILES_PATH ++ [47] ++ decimal infos.feedNumber.toNat ++ [47] ++ name := by
  have hlt := infos.feedNumber.toNat_lt
  have hdecimal : (decimal infos.feedNumber.toNat).length ≤ 5 :=
    length_decimal_le (by omega) (by omega)
  have hdir : UPLOAD_FILES_PATH.length = 16 := rfl
  rw [NAME_LEN] at hlen
  rw [filePathOf, hname]
  refine snprintf_of_lt ?_
  simp only [List.length_append, List.length_singleton, hdir, MAX_DATALEN]
  omega

end Server

/-- A file in blocks has fewer than `10 ^ 8` bytes. -/
lemma BlockFile.length_bytes_lt (F : BlockFile) : F.bytes.length < 10 ^ 8 := by
  have hle := F.length_bytes_le
  have hcount : F.count ≤ 65535 := F.length_le
  rw [FILE_PACKET_SIZE] at hle
  omega

/-! ### Blocks in order -/

/-- All blocks of the file, one after the other, each with the outside at its arrival. -/
def BlockFile.InOrder {E : Type} (F : BlockFile) (qs : List (E × Packet)) : Prop :=
  List.Forall₂ (fun i q => q.2.numblock.toNat = i + 1 ∧
    F.blocks[i]? = some (read q.2.data 0 q.2.nbytes)) (List.range F.count) qs

namespace BlockFile.InOrder

variable {E : Type} {F : BlockFile} {qs : List (E × Packet)}

lemma length_eq (h : F.InOrder qs) : qs.length = F.count := by
  rw [← List.Forall₂.length_eq h, List.length_range]

lemma numbers_eq (h : F.InOrder qs) : numbers qs = (List.range F.count).map (· + 1) := by
  rw [numbers]
  refine (List.ext_getElem ?_ fun i h₁ h₂ => ?_).symm
  · rw [List.length_map, List.length_map, h.length_eq, List.length_range]
  · rw [List.getElem_map, List.getElem_map, List.getElem_range]
    have hget := List.Forall₂.get h (i := i) (by simpa using h₁) (by simpa using h₂)
    simpa using hget.1.symm

/-- Each block comes once. -/
lemma delivers (h : F.InOrder qs) : F.Delivers qs := by
  refine ⟨fun q hq => ?_, ?_⟩
  · obtain ⟨i, hi, rfl⟩ := List.mem_iff_getElem.mp hq
    have hget := List.Forall₂.get h (i := i) (by rw [← h.length_eq]; simpa using hi)
      (by simpa using hi)
    simp only [List.get_eq_getElem, List.getElem_range] at hget
    refine ⟨by rw [hget.1]; exact Nat.succ_pos i, ?_⟩
    rw [hget.1, Nat.add_sub_cancel, hget.2]
  · rw [h.numbers_eq]
    exact List.nodup_range.map fun i j hij => Nat.succ.inj hij

/-- Before the last block has come. -/
lemma notMem_take (h : F.InOrder qs) {j : ℕ} (hj : j < F.count) :
    F.count ∉ numbers (qs.take j) := by
  rw [numbers, List.map_take]
  change F.count ∉ (numbers qs).take j
  rw [h.numbers_eq, ← List.map_take, List.take_range]
  intro hmem
  obtain ⟨i, hi, heq⟩ := List.mem_map.mp hmem
  have hlt := List.mem_range.mp hi
  omega

/-- The last block comes last. -/
lemma lastBlockLast (h : F.InOrder qs) : F.LastBlockLast qs ∧ F.count ∈ numbers qs := by
  have hall : ∀ i, 1 ≤ i → i ≤ F.count → i ∈ numbers qs := by
    intro i h₁ h₂
    rw [h.numbers_eq, List.mem_map]
    exact ⟨i - 1, List.mem_range.mpr (by omega), by omega⟩
  refine ⟨?_, hall _ F.count_pos le_rfl⟩
  obtain ⟨pre, q, rfl⟩ : ∃ pre q, qs = pre ++ [q] := by
    refine ⟨qs.dropLast, qs.getLast fun hnil => ?_, (List.dropLast_append_getLast _).symm⟩
    have hlength := h.length_eq
    have hpos := F.count_pos
    rw [hnil] at hlength
    exact absurd hlength.symm (Nat.pos_iff_ne_zero.mp hpos)
  have hdelivers := h.delivers
  refine hdelivers.lastBlockLast hall ?_
  have hnumbers := h.numbers_eq
  obtain ⟨n, hn⟩ : ∃ n, F.count = n + 1 := ⟨F.count - 1, by have := F.count_pos; omega⟩
  rw [hn, List.range_succ, List.map_append, List.map_singleton, numbers, List.map_append,
    List.map_singleton] at hnumbers
  have hlast := (List.append_inj' hnumbers rfl).2
  rw [hn]
  exact List.singleton_inj.mp hlast

end BlockFile.InOrder

/-! ### The effect of a block -/

namespace Server

/-- A block of user `id` through `handle_upload_packet`: the state. -/
def uploadPacket (id : UInt16) (s : Server) (q : WorkingEnv × Packet) : Option Server :=
  (s.handleUploadPacket q.1.1 UPLOAD ⟨mkHeader UPLOAD id, q.2.numblock, q.2.data⟩
    (4 + q.2.nbytes)).map (·.2)

/-- Nothing has changed but the slot of user `id`, and it is active. -/
structure OnlySlot (s : Server) (id : UInt16) (s' : Server) : Prop where
  users_eq : s'.users = s.users
  feeds_eq : s'.feeds = s.feeds
  suscribe_eq : s'.suscribe = s.suscribe
  dErrno_eq : s'.dErrno = s.dErrno
  disk_eq : s'.disk = s.disk
  active : ∃ infos, s'.transferFiles.at? id.toNat = some infos ∧ infos.active = true
  length_eq : s'.transferFiles.length = s.transferFiles.length
  other : ∀ j, j ≠ id.toNat → s'.transferFiles.at? j = s.transferFiles.at? j

/-- The post `post` is at the end of the feed number `f`, or in a new feed of its own when `f` is 0,
which has been created by `pseudo`; the other feeds stay. -/
def PostsOn (s : Server) (f : UInt16) (pseudo : Pseudo) (post : Post) (s' : Server) : Prop :=
  if f = 0 then
    ∃ feed : Feed, s'.feeds.toList = s.feeds.toList ++ [feed] ∧ feed.creator = pseudo ∧
      feed.posts.toList = [post]
  else
    ∃ feed : Feed, s.feeds.toList[f.toNat - 1]? = some feed ∧
      s'.feeds.toList =
        s.feeds.toList.set (f.toNat - 1) { feed with posts := feed.posts.append post }

/-- The number of the feed that a file for feed number `f` goes to. -/
def feedOf (s : Server) (f : UInt16) : ℕ := if f = 0 then s.feeds.toList.length + 1 else f.toNat

/-- An upload of user `id` has been completed: one post by `pseudo`, with the name and the length of
the file, one file in the directory of the feed, the slot is free, and nothing else has changed. -/
structure UploadEffect (s : Server) (id f : UInt16) (pseudo : Pseudo) (name bytes : List UInt8)
    (s' : Server) : Prop where
  users_eq : s'.users = s.users
  suscribe_eq : s'.suscribe = s.suscribe
  dErrno_eq : s'.dErrno = s.dErrno
  posts : ∃ post : Post, post.pseudo = pseudo ∧
    post.text = name ++ [32] ++ decimal bytes.length ∧ s.PostsOn f pseudo post s'
  disk_eq : s'.disk = s.disk ++
    [(UPLOAD_FILES_PATH ++ [47] ++ decimal (s.feedOf f) ++ [47] ++ name, bytes)]
  slot_eq : s'.transferFiles.at? id.toNat = some .zero
  length_eq : s'.transferFiles.length = s.transferFiles.length
  other : ∀ j, j ≠ id.toNat → s'.transferFiles.at? j = s.transferFiles.at? j

variable {s s' : Server} {id : UInt16} {pseudo : Pseudo} {infos₀ infos : FileTransferInfos}

/-- `handle_upload_packet` takes the length of the two words off. -/
lemma uploadPacket_eq (hid : id.toNat < 2048) (s : Server) (q : WorkingEnv × Packet) :
    s.uploadPacket id q = takePacket id s q := by
  have hid' : getId (mkHeader UPLOAD id) = id := getId_mkHeader (by decide) hid
  have hsub : sizeSub (4 + q.2.nbytes) 4 = q.2.nbytes := by
    rw [sizeSub, if_pos (by omega), Nat.add_sub_cancel_left]
  rw [uploadPacket, takePacket, handleUploadPacket, if_neg (fun h => h rfl), hid', hsub]

/-- Storing a transfer in its slot. -/
lemma onlySlot_putTransfer (hat : s.transferFiles.at? id.toNat = some infos₀)
    (hactive : infos.active = true) : s.OnlySlot id (s.putTransfer id.toNat infos) :=
  ⟨rfl, rfl, rfl, rfl, rfl, ⟨infos, at?_putTransfer hat infos, hactive⟩, rfl,
    fun _ hj => CArray.at?_write_of_ne _ _ hj⟩

/-- A new feed changes the feeds only. -/
lemma withFeed_eq (env : Env) (s : Server) (pseudo : Pseudo) (infos : FileTransferInfos) :
    s.withFeed env pseudo infos = { s with feeds := (s.withFeed env pseudo infos).feeds } := by
  rw [withFeed]
  split <;> rfl

/-- The number of the feed at the end of a transfer. -/
lemma toNat_feedNumber_withNumber (env : Env) (s : Server) (pseudo : Pseudo)
    (infos : FileTransferInfos) (hroom : s.feeds.toList.length < 65535) :
    (withNumber infos (s.withFeed env pseudo infos).feeds.length).feedNumber.toNat =
      s.feedOf infos.feedNumber := by
  by_cases hf : infos.feedNumber = 0
  · rw [withNumber, if_pos hf, withFeed, if_pos hf, feedOf, if_pos hf]
    show (UInt16.ofNat (s.appendFeed (localFeed env pseudo)).feeds.length).toNat = _
    rw [UInt16.toNat_ofNat', FullArray.length_eq, appendFeed, FullArray.toList_append,
      List.length_append, List.length_singleton]
    omega
  · rw [withNumber, if_neg hf, feedOf, if_neg hf]

/-- The post at the end of a transfer. -/
lemma postsOn_appendPost (env : Env) {feed : Feed} {post : Post}
    (hfeed : (s.withFeed env pseudo infos).feeds.toList[s.feedOf infos.feedNumber - 1]? =
      some feed)
    (hs' : s'.feeds.toList = (s.withFeed env pseudo infos).feeds.toList.set
      (s.feedOf infos.feedNumber - 1) { feed with posts := feed.posts.append post }) :
    s.PostsOn infos.feedNumber pseudo post s' := by
  by_cases hf : infos.feedNumber = 0
  · have hfeeds : (s.withFeed env pseudo infos).feeds.toList =
        s.feeds.toList ++ [localFeed env pseudo] := by
      rw [withFeed, if_pos hf]
      rfl
    rw [feedOf, if_pos hf, Nat.add_sub_cancel, hfeeds] at hfeed hs'
    rw [List.getElem?_concat_length, Option.some.injEq] at hfeed
    rw [PostsOn, if_pos hf]
    refine ⟨{ feed with posts := feed.posts.append post }, ?_, ?_, ?_⟩
    · rw [hs', List.set_append_right _ _ le_rfl, Nat.sub_self]
      rfl
    · rw [← hfeed]
      rfl
    · rw [← hfeed]
      rfl
  · rw [feedOf, if_neg hf, withFeed, if_neg hf] at hfeed hs'
    rw [PostsOn, if_neg hf]
    exact ⟨feed, hfeed, hs'⟩

/-- **The end of a transfer** with a short name and all bytes of a file. -/
lemma uploadEnd_effect {F : BlockFile} {ps : List (WorkingEnv × Packet)} {env : WorkingEnv}
    {name : List UInt8} (hs : s.Uploading id infos₀ pseudo)
    (h : Receiver.Ends infos₀ F ps env infos) (hroom : s.feeds.toList.length < 65535)
    (hname : cString infos₀.filePath MAX_DATALEN = name) (hlen : name.length < NAME_LEN)
    (hend : s.uploadEnd id env infos = some s') :
    s.UploadEffect id infos₀.feedNumber pseudo name F.bytes s' := by
  obtain ⟨s₂, infos', bytes, hinfos', hs₂, hbytes, rfl⟩ := uploadEnd_eq_some hs.pseudo_eq hend
  obtain ⟨feed, hfeed, rfl⟩ := postNew_eq_some hs₂
  have hnumber : infos'.feedNumber.toNat = s.feedOf infos₀.feedNumber := by
    rw [hinfos', ← h.feedNumber_eq]
    exact toNat_feedNumber_withNumber env.1 (s.putTransfer id.toNat infos) pseudo infos hroom
  have hindex : sizeSub infos'.feedNumber.toNat 1 = s.feedOf infos₀.feedNumber - 1 := by
    have hpos : 1 ≤ s.feedOf infos₀.feedNumber := by
      rw [feedOf]
      split
      · exact Nat.succ_pos _
      next hf => exact Nat.pos_of_ne_zero fun h0 => hf (UInt16.toNat_inj.mp h0)
    rw [hnumber, sizeSub, if_pos hpos]
  have hname' : cString infos'.filePath MAX_DATALEN = name := by
    rw [hinfos', filePath_withNumber, h.filePath_eq, hname]
  have hsize : infos'.fileSize = F.bytes.length := by
    rw [hinfos', fileSize_withNumber, h.fileSize_eq]
  have hcontent : bytes = F.bytes := by
    rw [hinfos', content_withNumber, h.content_eq] at hbytes
    exact (Option.some.inj hbytes).symm
  have hwith := withFeed_eq env.1 (s.putTransfer id.toNat infos) pseudo infos
  rw [hindex] at hfeed hs₂ ⊢
  have hfiles : (((s.putTransfer id.toNat infos).withFeed env.1 pseudo
      infos).transferFiles.write id.toNat infos').write id.toNat .zero =
        s.transferFiles.write id.toNat .zero := by
    rw [hwith, CArray.write_write, putTransfer, CArray.write_write]
  refine ⟨?_, ?_, ?_, ⟨localPost env.1 pseudo (UInt8.ofNat (announcement infos').length)
    (ofList (announcement infos') 0), rfl, ?_, ?_⟩, ?_, ?_, ?_, fun j hj => ?_⟩
  · show ((s.putTransfer id.toNat infos).withFeed env.1 pseudo infos).users = _
    rw [hwith]
    rfl
  · show ((s.putTransfer id.toNat infos).withFeed env.1 pseudo infos).suscribe = _
    rw [hwith]
    rfl
  · show ((s.putTransfer id.toNat infos).withFeed env.1 pseudo infos).dErrno = _
    rw [hwith]
    rfl
  · rw [text_localPost, textOf_announcement, ← hsize]
    exact announcement_eq hname' hlen (hsize ▸ F.length_bytes_lt)
  · rw [← h.feedNumber_eq] at hfeed ⊢
    exact postsOn_appendPost (s := s.putTransfer id.toNat infos) env.1 hfeed rfl
  · show ((s.putTransfer id.toNat infos).withFeed env.1 pseudo infos).disk ++ _ = _
    rw [hwith, filePathOf_eq hname' hlen, hnumber, hcontent]
    rfl
  · show ((((s.putTransfer id.toNat infos).withFeed env.1 pseudo infos).transferFiles.write
      id.toNat infos').write id.toNat .zero).at? id.toNat = _
    rw [hfiles]
    exact CArray.at?_write_self _ _ (CArray.lt_of_at? hs.at?_eq)
  · show ((((s.putTransfer id.toNat infos).withFeed env.1 pseudo infos).transferFiles.write
      id.toNat infos').write id.toNat .zero).length = _
    rw [hfiles]
    rfl
  · show ((((s.putTransfer id.toNat infos).withFeed env.1 pseudo infos).transferFiles.write
      id.toNat infos').write id.toNat .zero).at? j = _
    rw [hfiles]
    exact CArray.at?_write_of_ne _ _ hj

/-- **Before the last block** only the slot changes. -/
lemma onlySlot_of_notMem {F : BlockFile} {ps : List (WorkingEnv × Packet)}
    (hs : s.Uploading id infos₀ pseudo) (hps : F.Delivers ps) (hlast : F.count ∉ numbers ps) :
    ∃ s', ps.foldlM (takePacket id) s = some s' ∧ s.OnlySlot id s' := by
  obtain ⟨infos, hrun, -⟩ := Progress.foldlM_pending hs.fresh hps hlast
  obtain ⟨heq, hactive⟩ := Receiver.foldlM_eq (R := s.receiver id infos₀ pseudo hs)
    hs.fresh.active_eq hrun
  change ps.foldlM (takePacket id) (s.putTransfer id.toNat infos₀) =
    some (s.putTransfer id.toNat infos) at heq
  rw [putTransfer_self hs.at?_eq] at heq
  exact ⟨_, heq, onlySlot_putTransfer hs.at?_eq (hactive infos rfl)⟩

/-- **The last block** completes the upload. -/
lemma uploadEffect_of_mem {F : BlockFile} {ps : List (WorkingEnv × Packet)} {name : List UInt8}
    (hs : s.Uploading id infos₀ pseudo) (hps : F.Delivers ps) (hlast : F.LastBlockLast ps)
    (hmem : F.count ∈ numbers ps) (hroom : s.feeds.toList.length < 65535)
    (hname : cString infos₀.filePath MAX_DATALEN = name) (hlen : name.length < NAME_LEN) :
    ∃ s', ps.foldlM (takePacket id) s = some s' ∧
      s.UploadEffect id infos₀.feedNumber pseudo name F.bytes s' := by
  obtain ⟨env, infos, hrun, hends⟩ := exists_uploadEnd hs hps hlast hmem
  obtain ⟨s', hend, -⟩ := uploadEnd_of_room hs hends fun _ => hroom
  exact ⟨s', hrun.trans hend, uploadEnd_effect hs hends hroom hname hlen hend⟩

/-- A transfer that `transfer_new` starts after a run. -/
lemma uploading_of_transferNew {w : World} {ts : List ServerTransition}
    (h : Machine.Run step World.init ts w) {f : UInt16} {fileName : ℕ → UInt8} {env : Env}
    (hid : w.server.getPseudo id = some pseudo) (hf : f.toNat ≤ w.server.feeds.toList.length)
    (hroom : w.server.feeds.toList.length < 65535)
    (hs : w.server.transferNew env id f fileName = some s) :
    s.Uploading id (transferInit env.now fileName f) pseudo ∧ s.feeds = w.server.feeds := by
  obtain ⟨s', hs', -, hget, hat⟩ := transferNew_eq (run_wf h) env id f fileName
  rw [hs] at hs'
  cases hs'
  obtain ⟨husers, hfeeds, -⟩ := transferNew_sameStore hs
  obtain ⟨u, hu, hu'⟩ := exists_user_of_getPseudo hid
  have hrange := ((run_usersInv h usersInv_dataInit).range u hu).2
  rw [ID_MAX] at hrange
  refine ⟨⟨by omega, hget, hat, fresh_transferInit _ _ _, ?_, ?_, ?_⟩, hfeeds⟩
  · rw [getPseudo, husers]
    exact hid
  · rw [hfeeds]
    exact hf
  · rw [hfeeds]
    omega

/-- **The effect of a complete upload on the store.**  After a run, `transfer_new` starts a transfer
for a user who is registered, a feed that exists or a new one, and a short name.  The blocks of a
file arrive in order.  Up to each block before the last one, nothing has changed but the slot of the
user; the last one makes one post, with the name and the length of the file, at the end of the feed
or as the only one of a new feed of the user, writes the file in the directory of that feed, frees
the slot, and changes nothing else. -/
theorem complete_upload_effect {w : World} {ts : List ServerTransition}
    (h : Machine.Run step World.init ts w) {id f : UInt16} {pseudo : Pseudo}
    (hid : w.server.getPseudo id = some pseudo) (hf : f.toNat ≤ w.server.feeds.toList.length)
    (hroom : w.server.feeds.toList.length < 65535) {fileName : ℕ → UInt8} {name : List UInt8}
    (hname : cString fileName MAX_DATALEN = name) (hlen : name.length < 230) {env : Env}
    {s : Server} (hs : w.server.transferNew env id f fileName = some s) {F : BlockFile}
    {qs : List (WorkingEnv × Packet)} (hqs : F.InOrder qs) :
    (∀ j < F.count, ∃ s', (qs.take j).foldlM (uploadPacket id) s = some s' ∧ s.OnlySlot id s') ∧
    ∃ s', qs.foldlM (uploadPacket id) s = some s' ∧
      s.UploadEffect id f pseudo name F.bytes s' := by
  obtain ⟨huploading, hfeeds⟩ := uploading_of_transferNew h hid hf hroom hs
  have hstep : uploadPacket id = takePacket id := by
    funext s q
    exact uploadPacket_eq huploading.id_lt s q
  rw [hstep]
  refine ⟨fun j hj => ?_, ?_⟩
  · have hsplit : F.Delivers (qs.take j ++ qs.drop j) := by
      rw [List.take_append_drop]
      exact hqs.delivers
    exact onlySlot_of_notMem huploading hsplit.append_left (hqs.notMem_take hj)
  · obtain ⟨hlast, hmem⟩ := hqs.lastBlockLast
    exact uploadEffect_of_mem huploading hqs.delivers hlast hmem (by rwa [hfeeds]) hname hlen

/-- Two blocks of user 1, for a new feed. -/
theorem complete_upload_effect_two : ∃ ts w s, Machine.Run step World.init ts w ∧
    w.server.transferNew OutOfOrder.env.1 1 0 (ofList [97] 0) = some s ∧
    (∃ s', [(OutOfOrder.env, OutOfOrder.first)].foldlM (uploadPacket 1) s = some s' ∧
      s.OnlySlot 1 s') ∧
    ∃ s', [(OutOfOrder.env, OutOfOrder.first), (OutOfOrder.env, OutOfOrder.second)].foldlM
        (uploadPacket 1) s = some s' ∧
      s.UploadEffect 1 0 (.replicate PSEUDO_LEN 97) [97] OutOfOrder.file.bytes s' := by
  have hrun : Machine.Run step World.init _ _ :=
    .cons (a := .tcp (.quiet [0]) (.rg ⟨0, .replicate PSEUDO_LEN 97⟩)) rfl (.nil _)
  have hinOrder : OutOfOrder.file.InOrder
      [(OutOfOrder.env, OutOfOrder.first), (OutOfOrder.env, OutOfOrder.second)] :=
    .cons ⟨rfl, rfl⟩ (.cons ⟨rfl, rfl⟩ .nil)
  have hid : (World.init.server.userNew 1 (.replicate PSEUDO_LEN 97)).getPseudo 1 =
      some (.replicate PSEUDO_LEN 97) := rfl
  have hname : cString (ofList [97] 0) MAX_DATALEN = [97] := rfl
  obtain ⟨hbefore, hlast⟩ := complete_upload_effect hrun hid (f := 0) (Nat.zero_le _)
    (show 0 < 65535 by decide) hname (by decide) rfl hinOrder
  exact ⟨_, _, _, hrun, rfl, hbefore 1 (by decide), hlast⟩

end Server

end Megaphone
