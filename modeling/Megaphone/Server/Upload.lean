import Megaphone.Network.Reassembly
import Megaphone.Server.Log

/-!
Uploads: the server as a receiver of packets.

* `Server.Uploading`: a transfer that has just been started.
* `completeTransfer_eq`: what `add_packet` does when a transfer is complete.
* `Server.receiver`: the server, whose state is that of the transfer in its slot.
* `Server.Uploaded`, `Server.StillUploading`: the two outcomes, and `Server.outcomes`: which of them
  it is.
* `Server.reassembles_iff`, `Server.uploaded_iff`: what a sequence of packets leaves.
-/

namespace Megaphone

open Memory

/-- `mkdir` succeeds, and `open` with the `ftruncate` and `mmap` behind it. -/
structure Env.Works (env : Env) : Prop where
  mkdir_eq : ∀ path, env.mkdir path = true
  openWrite_eq : ∀ path, env.openWrite path = true
  mmap_eq : ∀ path, env.mmap path = true

/-- An outside where every call succeeds that the end of a transfer makes. -/
abbrev WorkingEnv : Type := { env : Env // env.Works }

namespace Server

/-- The user `id` has started the transfer `infos`, and nothing of it has arrived yet. -/
structure Uploading (s : Server) (id : UInt16) (infos : FileTransferInfos) (pseudo : Pseudo) :
    Prop where
  id_lt : id.toNat < 2048
  get_eq : s.transferFiles.get id.toNat = some id.toNat
  at?_eq : s.transferFiles.at? id.toNat = some infos
  fresh : infos.Fresh
  pseudo_eq : s.getPseudo id = some pseudo
  feed_le : infos.feedNumber.toNat ≤ s.feeds.toList.length
  feeds_lt : s.feeds.toList.length < 2 ^ 64 - 1

/-! ### The slot of a transfer -/

lemma at?_putTransfer {s : Server} {i : ℕ} {old : FileTransferInfos}
    (h : s.transferFiles.at? i = some old) (infos : FileTransferInfos) :
    (s.putTransfer i infos).transferFiles.at? i = some infos := by
  refine CArray.at?_write_self _ _ ?_
  by_contra hge
  rw [CArray.at?, List.getElem?_eq_none (not_lt.mp hge)] at h
  cases h

lemma putTransfer_putTransfer (s : Server) (i : ℕ) (infos infos' : FileTransferInfos) :
    (s.putTransfer i infos).putTransfer i infos' = s.putTransfer i infos' := by
  simp [putTransfer, CArray.write]

/-- Storing what is there. -/
lemma putTransfer_self {s : Server} {i : ℕ} {infos : FileTransferInfos}
    (h : s.transferFiles.at? i = some infos) : s.putTransfer i infos = s := by
  rw [CArray.at?, Option.join_eq_some_iff] at h
  obtain ⟨hi, hget⟩ := List.getElem?_eq_some_iff.mp h
  have hset : s.transferFiles.slots.set i (some infos) = s.transferFiles.slots := by
    rw [← hget, List.set_getElem_self]
  simp only [putTransfer, CArray.write, hset]

/-! ### The end of a transfer -/

variable {env : Env} {s : Server} {id : UInt16} {i : ℕ} {infos : FileTransferInfos}
  {pseudo : Pseudo}

/-- The feeds when a transfer is complete: with a new one, unless it is for an existing one. -/
def withFeed (env : Env) (s : Server) (pseudo : Pseudo) (infos : FileTransferInfos) : Server :=
  if infos.feedNumber = 0 then s.appendFeed (localFeed env pseudo) else s

/-- The transfer with the number of its feed, which is a `uint16_t`. -/
def withNumber (infos : FileTransferInfos) (n : ℕ) : FileTransferInfos :=
  if infos.feedNumber = 0 then { infos with feedNumber := UInt16.ofNat n } else infos

/-- The post that announces a file. -/
def announce (env : Env) (s : Server) (pseudo : Pseudo) (infos : FileTransferInfos) :
    Option Server :=
  s.postNew env pseudo (UInt8.ofNat (announcement infos).length) (ofList (announcement infos) 0)
    infos.feedNumber.toNat

/-- The end of a transfer when the directory of a new feed can be neither found nor made. -/
lemma completeTransfer_noDirectory (hid : s.getPseudo id = some pseudo)
    (hf : infos.feedNumber = 0) (hdir : (s.feedNew env pseudo).1 ≠ 0) :
    s.completeTransfer env id i infos = some (1, s.appendFeed (localFeed env pseudo)) := by
  simp only [completeTransfer, hid, Option.bind_eq_bind, Option.bind_some, if_pos hf, if_pos hdir,
    feedNew_snd]
  rfl

/-- Otherwise there is a new feed, if there is none yet, then the post, and then the file. -/
lemma completeTransfer_feed (hid : s.getPseudo id = some pseudo)
    (hdir : infos.feedNumber = 0 → (s.feedNew env pseudo).1 = 0) :
    s.completeTransfer env id i infos =
      (let s₁ := s.withFeed env pseudo infos
       let infos' := withNumber infos s₁.feeds.length
       ((s₁.putTransfer i infos').announce env pseudo infos').bind fun s₂ =>
         (s₂.writeFile env infos').bind fun r =>
           if r.1 ≠ 0 then some (1, r.2)
           else some (0, r.2.putTransfer i (transferClear infos'))) := by
  by_cases hf : infos.feedNumber = 0
  · have hnew : s.feedNew env pseudo = (0, s.appendFeed (localFeed env pseudo)) :=
      Prod.ext (hdir hf) (feedNew_snd env s pseudo)
    simp only [completeTransfer, hid, Option.bind_eq_bind, Option.bind_some, if_pos hf, hnew,
      ne_eq, not_true, if_false, withFeed, withNumber, announce]
    rfl
  · simp only [completeTransfer, hid, Option.bind_eq_bind, Option.bind_some, if_neg hf, ne_eq,
      not_true, if_false, withFeed, withNumber, announce]
    rfl

/-- **The end of a transfer**: a new feed, if there is none yet, the post, the file, and the slot is
cleared. -/
lemma completeTransfer_eq (henv : env.Works) (hid : s.getPseudo id = some pseudo) :
    s.completeTransfer env id i infos =
      (let s₁ := s.withFeed env pseudo infos
       let infos' := withNumber infos s₁.feeds.length
       ((s₁.putTransfer i infos').announce env pseudo infos').bind fun s₂ =>
         (infos'.content env.junk).map fun bytes =>
           (0, ({ s₂ with
             disk := s₂.disk ++ [(filePathOf infos', bytes)] }.putTransfer i .zero))) := by
  have hfinish : ∀ (s₂ : Server) (infos' : FileTransferInfos),
      ((s₂.writeFile env infos').bind fun r =>
        if r.1 ≠ 0 then some (1, r.2)
        else some ((0 : UInt8), r.2.putTransfer i (transferClear infos'))) =
      (infos'.content env.junk).map fun bytes =>
        (0, ({ s₂ with disk := s₂.disk ++ [(filePathOf infos', bytes)] }.putTransfer i .zero)) := by
    intro s₂ infos'
    simp only [writeFile, henv.openWrite_eq, henv.mmap_eq, or_true, if_true]
    cases infos'.content env.junk with
    | none => rfl
    | some bytes => rfl
  rw [completeTransfer_feed hid fun _ => congrArg Prod.fst (feedNew_eq henv.mkdir_eq pseudo)]
  exact congrArg (Option.bind _) (funext fun s₂ => hfinish s₂ _)

/-! ### The outcomes of a transfer -/

/-- The transfer is going on: there is no file and no post. -/
structure StillUploading (s : Server) (id : UInt16) (s' : Server) : Prop where
  active : ∃ infos, s'.transferFiles.at? id.toNat = some infos ∧ infos.active = true
  disk_eq : s'.disk = s.disk
  log_eq : s'.toLog = s.toLog

/-- The post that announces the file of a transfer, on a log: the log and the number of the feed. -/
def announced (s : Server) (infos : FileTransferInfos) (pseudo : Pseudo) (bytes : List UInt8) :
    Log × ℕ :=
  s.toLog.addPost pseudo infos.feedNumber.toNat
    (announcement { infos with fileSize := bytes.length })

/-- The transfer `infos` is complete: the bytes are in the file, the post is in the feed, and the
slot is free. -/
structure Uploaded (s : Server) (id : UInt16) (infos : FileTransferInfos) (pseudo : Pseudo)
    (bytes : List UInt8) (s' : Server) : Prop where
  inactive : ∃ infos', s'.transferFiles.at? id.toNat = some infos' ∧ infos'.active = false
  disk_eq : s'.disk = s.disk ++ [(filePathOf { infos with
    feedNumber := UInt16.ofNat (s.announced infos pseudo bytes).2 }, bytes)]
  log_eq : s'.toLog = (s.announced infos pseudo bytes).1

/-- What is left of the server when the transfer `infos` is complete. -/
def uploadEnd (s : Server) (id : UInt16) (env : WorkingEnv) (infos : FileTransferInfos) :
    Option Server :=
  ((s.putTransfer id.toNat infos).completeTransfer env.1 id id.toNat infos).map (·.2)

variable {infos₀ : FileTransferInfos}

/-- A transfer that is complete has made a post and written a file, and its slot is free. -/
lemma uploadEnd_eq_some {s' : Server} {env : WorkingEnv} (hid : s.getPseudo id = some pseudo)
    (h : s.uploadEnd id env infos = some s') : ∃ s₂ infos' bytes,
      let s₁ := (s.putTransfer id.toNat infos).withFeed env.1 pseudo infos
      infos' = withNumber infos s₁.feeds.length ∧
      (s₁.putTransfer id.toNat infos').announce env.1 pseudo infos' = some s₂ ∧
      infos'.content env.1.junk = some bytes ∧
      s' = { s₂ with
        disk := s₂.disk ++ [(filePathOf infos', bytes)] }.putTransfer id.toNat .zero := by
  obtain ⟨r, hr, rfl⟩ := Option.map_eq_some_iff.mp h
  rw [completeTransfer_eq env.2 (show (s.putTransfer id.toNat infos).getPseudo id = some pseudo from
    hid)] at hr
  obtain ⟨s₂, hs₂, hr⟩ := Option.bind_eq_some_iff.mp hr
  obtain ⟨bytes, hbytes, rfl⟩ := Option.map_eq_some_iff.mp hr
  exact ⟨s₂, _, bytes, rfl, hs₂, hbytes, rfl⟩

lemma transferFiles_withFeed (env : Env) (s : Server) (pseudo : Pseudo)
    (infos : FileTransferInfos) :
    (s.withFeed env pseudo infos).transferFiles = s.transferFiles := by
  rw [withFeed]
  split <;> rfl

lemma disk_withFeed (env : Env) (s : Server) (pseudo : Pseudo) (infos : FileTransferInfos) :
    (s.withFeed env pseudo infos).disk = s.disk := by
  rw [withFeed]
  split <;> rfl

/-- The slot after the end of a transfer. -/
lemma transferFiles_uploadEnd {s' : Server} {env : WorkingEnv}
    (hs : s.Uploading id infos₀ pseudo) (h : s.uploadEnd id env infos = some s') :
    s'.transferFiles.get id.toNat = some id.toNat ∧
      s'.transferFiles.at? id.toNat = some .zero := by
  obtain ⟨s₂, infos', bytes, -, hs₂, -, rfl⟩ := uploadEnd_eq_some hs.pseudo_eq h
  obtain ⟨feed, -, rfl⟩ := postNew_eq_some hs₂
  have hput := at?_putTransfer (at?_putTransfer hs.at?_eq infos) infos'
  have hat := at?_putTransfer hput .zero
  refine ⟨?_, ?_⟩
  · have hget := hs.get_eq
    rw [CArray.get] at hget ⊢
    simpa only [putTransfer, appendPost, CArray.write, transferFiles_withFeed] using hget
  · simpa only [putTransfer, appendPost, CArray.write, transferFiles_withFeed] using hat

/-! ### The server as a receiver -/

/-- `add_packet` on a slot with a transfer that is going on. -/
lemma addPacket_putTransfer {infos' : FileTransferInfos} (hs : s.Uploading id infos₀ pseudo)
    (hactive : infos.active = true) {p : Packet}
    (hrecord : infos.record p.numblock p.data p.nbytes = some infos') :
    (s.putTransfer id.toNat infos).addPacket env id p.numblock p.data p.nbytes =
      if infos'.received then
        (s.putTransfer id.toNat infos').completeTransfer env id id.toNat infos'
      else some (0, s.putTransfer id.toNat infos') := by
  have hget : (s.putTransfer id.toNat infos).transferFiles.get id.toNat = some id.toNat := hs.get_eq
  rw [addPacket, hget]
  simp only [at?_putTransfer hs.at?_eq, Option.bind_eq_bind, Option.bind_some, hactive, if_true,
    hrecord, putTransfer_putTransfer]
  rfl

/-- `add_packet` on a free slot. -/
lemma addPacket_inactive (hget : s.transferFiles.get id.toNat = some id.toNat)
    (hat : s.transferFiles.at? id.toNat = some .zero) (p : Packet) :
    s.addPacket env id p.numblock p.data p.nbytes = some (0, s) := by
  rw [addPacket, hget]
  simp only [hat, Option.bind_eq_bind, Option.bind_some, FileTransferInfos.zero,
    Bool.false_eq_true, if_false]
  rfl

/-- `add_packet` on a packet of user `id`: the state. -/
def takePacket (id : UInt16) (s : Server) (q : WorkingEnv × Packet) : Option Server :=
  (s.addPacket q.1.1 id q.2.numblock q.2.data q.2.nbytes).map (·.2)

/-- The server takes packets in through the slot of the user. -/
def receiver (s : Server) (id : UInt16) (infos₀ : FileTransferInfos) (pseudo : Pseudo)
    (hs : s.Uploading id infos₀ pseudo) : Receiver WorkingEnv Server where
  step := takePacket id
  pending := s.putTransfer id.toNat
  complete := s.uploadEnd id
  step_pending infos infos' q hactive hrecord := by
    rw [takePacket, addPacket_putTransfer hs hactive hrecord]
    split <;> rfl
  step_complete env infos s' q h := by
    obtain ⟨hget, hat⟩ := transferFiles_uploadEnd hs h
    rw [takePacket, addPacket_inactive hget hat]
    rfl

/-! ### Which outcome it is -/

lemma length_announcement_lt (infos : FileTransferInfos) :
    (announcement infos).length < 2 ^ 8 := by
  have hle : (announcement infos).length ≤ MAX_DATALEN - 1 := List.length_take_le _ _
  rw [MAX_DATALEN] at hle
  omega

/-- The text of the post that announces a file. -/
lemma textOf_announcement (infos : FileTransferInfos) :
    textOf (UInt8.ofNat (announcement infos).length) (ofList (announcement infos) 0) =
      announcement infos := by
  have hlen : (UInt8.ofNat (announcement infos).length).toNat = (announcement infos).length := by
    rw [UInt8.toNat_ofNat']
    exact Nat.mod_eq_of_lt (length_announcement_lt infos)
  rw [textOf, hlen, read_ofList]

/-- The announcement depends on the name and on the size. -/
lemma announcement_congr {infos' : FileTransferInfos} (hpath : infos'.filePath = infos.filePath)
    (hsize : infos'.fileSize = infos.fileSize) : announcement infos' = announcement infos := by
  rw [announcement, announcement, hpath, hsize]

/-- The path depends on the name and on the number of the feed. -/
lemma filePathOf_congr {infos' : FileTransferInfos} (hpath : infos'.filePath = infos.filePath)
    (hfeed : infos'.feedNumber = infos.feedNumber) : filePathOf infos' = filePathOf infos := by
  rw [filePathOf, filePathOf, hpath, hfeed]

/-- The number of a new feed is a `uint16_t`. -/
def RoomForFeed (s : Server) (infos : FileTransferInfos) : Prop :=
  infos.feedNumber = 0 → s.feeds.toList.length < 65535

lemma content_withNumber (infos : FileTransferInfos) (n : ℕ) (junk : ℕ → UInt8) :
    (withNumber infos n).content junk = infos.content junk := by
  rw [withNumber]
  split <;> rfl

lemma filePath_withNumber (infos : FileTransferInfos) (n : ℕ) :
    (withNumber infos n).filePath = infos.filePath := by
  rw [withNumber]
  split <;> rfl

lemma fileSize_withNumber (infos : FileTransferInfos) (n : ℕ) :
    (withNumber infos n).fileSize = infos.fileSize := by
  rw [withNumber]
  split <;> rfl

/-- The feed that a file is announced in, and what a post on it does to the log. -/
lemma exists_target (hle : infos.feedNumber.toNat ≤ s.feeds.toList.length)
    (hroom : s.RoomForFeed infos) (env : Env) (pseudo : Pseudo) :
    ∃ i feed, (s.withFeed env pseudo infos).feeds.toList[i]? = some feed ∧
      (withNumber infos (s.withFeed env pseudo infos).feeds.length).feedNumber.toNat = i + 1 ∧
      ∀ post : Post, post.pseudo = pseudo →
        s.toLog.addPost pseudo infos.feedNumber.toNat post.text =
          (((s.withFeed env pseudo infos).appendPost i feed post).toLog, i + 1) := by
  by_cases hf : infos.feedNumber = 0
  · have hlt := hroom hf
    rw [withFeed, withNumber, if_pos hf, if_pos hf]
    refine ⟨s.feeds.toList.length, localFeed env pseudo, List.getElem?_concat_length, ?_, ?_⟩
    · show (UInt16.ofNat (s.appendFeed (localFeed env pseudo)).feeds.length).toNat = _
      rw [UInt16.toNat_ofNat', FullArray.length_eq, appendFeed, FullArray.toList_append,
        List.length_append, List.length_singleton]
      omega
    · rintro post rfl
      refine Prod.ext ?_ ?_
      · rw [toLog_appendFeed, hf]
        rfl
      · rw [hf, Log.addPost, if_pos UInt16.toNat_zero, toLog, List.length_map]
  · obtain ⟨i, hi⟩ : ∃ i, infos.feedNumber.toNat = i + 1 :=
      Nat.exists_eq_succ_of_ne_zero fun h0 => hf (UInt16.toNat_inj.mp h0)
    have hfeed : s.feeds.toList[i]? = some s.feeds.toList[i] :=
      List.getElem?_eq_getElem (show i < s.feeds.toList.length by omega)
    rw [withFeed, withNumber, if_neg hf, if_neg hf]
    refine ⟨i, s.feeds.toList[i], hfeed, hi, ?_⟩
    rintro post rfl
    refine Prod.ext ?_ ?_
    · rw [toLog_appendPost hfeed, hi]
    · rw [hi, Log.addPost, if_neg (Nat.succ_ne_zero i)]

/-- **A complete transfer** with all bytes, when there is room for the feed. -/
lemma uploadEnd_of_room {F : BlockFile} {ps : List (WorkingEnv × Packet)} {env : WorkingEnv}
    (hs : s.Uploading id infos₀ pseudo) (h : Receiver.Ends infos₀ F ps env infos)
    (hroom : s.RoomForFeed infos₀) :
    ∃ s', s.uploadEnd id env infos = some s' ∧ s.Uploaded id infos₀ pseudo F.bytes s' := by
  have hfeed₀ := h.feedNumber_eq
  have hle : infos.feedNumber.toNat ≤ (s.putTransfer id.toNat infos).feeds.toList.length := by
    rw [hfeed₀]
    exact hs.feed_le
  obtain ⟨i, feed, hfeed, hnum, hlog⟩ :=
    exists_target hle (fun hf => hroom (hfeed₀ ▸ hf)) env.1 pseudo
  set s₁ := (s.putTransfer id.toNat infos).withFeed env.1 pseudo infos with hs₁
  set infos' := withNumber infos s₁.feeds.length with hinfos'
  set post := localPost env.1 pseudo (UInt8.ofNat (announcement infos').length)
    (ofList (announcement infos') 0) with hpost
  have hannounce : (s₁.putTransfer id.toNat infos').announce env.1 pseudo infos' =
      some ((s₁.putTransfer id.toNat infos').appendPost i feed post) := by
    rw [announce, hnum]
    exact postNew_eq hfeed
  have hcontent : infos'.content env.1.junk = some F.bytes :=
    (content_withNumber infos _ _).trans (h.content_eq _)
  have htext : post.text = announcement { infos₀ with fileSize := F.bytes.length } := by
    rw [hpost, text_localPost, textOf_announcement]
    refine announcement_congr ?_ ?_
    · exact (filePath_withNumber infos _).trans h.filePath_eq
    · exact (fileSize_withNumber infos _).trans h.fileSize_eq
  have hlog' := hlog post rfl
  rw [htext, hfeed₀] at hlog'
  have hend : s.uploadEnd id env infos =
      some (({ (s₁.putTransfer id.toNat infos').appendPost i feed post with
          disk := s.disk ++ [(filePathOf infos', F.bytes)] } : Server).putTransfer
        id.toNat .zero) := by
    have hdisk : s₁.disk = s.disk := disk_withFeed env.1 _ pseudo infos
    rw [uploadEnd, completeTransfer_eq env.2 (show (s.putTransfer id.toNat infos).getPseudo id =
      some pseudo from hs.pseudo_eq), ← hdisk]
    change ((((s₁.putTransfer id.toNat infos').announce env.1 pseudo infos').bind fun s₂ =>
      (infos'.content env.1.junk).map _).map _) = _
    rw [hannounce, Option.bind_some, hcontent]
    rfl
  have hannounced : s.announced infos₀ pseudo F.bytes =
      ((s₁.appendPost i feed post).toLog, i + 1) := hlog'
  refine ⟨_, hend, ⟨_, (transferFiles_uploadEnd hs hend).2, rfl⟩, ?_, ?_⟩
  · have hpath : filePathOf infos' = filePathOf { infos₀ with
        feedNumber := UInt16.ofNat (s.announced infos₀ pseudo F.bytes).2 } := by
      refine filePathOf_congr ((filePath_withNumber infos _).trans h.filePath_eq) ?_
      rw [hannounced, ← hnum, UInt16.ofNat_toNat]
    rw [← hpath]
    rfl
  · rw [hannounced]
    rfl

/-- **A complete transfer** when there is no room for its feed: the number of the new feed wraps
around, and the post is in another feed or nowhere. -/
lemma not_uploaded_of_full {s' : Server} {env : WorkingEnv} (hs : s.Uploading id infos₀ pseudo)
    (hfeed₀ : infos.feedNumber = infos₀.feedNumber) (hroom : ¬s.RoomForFeed infos₀)
    (h : s.uploadEnd id env infos = some s') (bytes : List UInt8) :
    ¬s.Uploaded id infos₀ pseudo bytes s' := by
  rw [RoomForFeed, Classical.not_imp, not_lt] at hroom
  obtain ⟨hf₀, hfull⟩ := hroom
  have hf : infos.feedNumber = 0 := hfeed₀.trans hf₀
  have hlt := hs.feeds_lt
  obtain ⟨s₂, infos', _, hinfos', hs₂, -, rfl⟩ := uploadEnd_eq_some hs.pseudo_eq h
  obtain ⟨feed, -, rfl⟩ := postNew_eq_some hs₂
  -- the index that the post goes to is not that of the new feed
  have hne : sizeSub infos'.feedNumber.toNat 1 ≠ s.feeds.toList.length := by
    have hnum : infos'.feedNumber.toNat = (s.feeds.toList.length + 1) % 2 ^ 16 := by
      rw [hinfos', withNumber, if_pos hf, withFeed, if_pos hf]
      show (UInt16.ofNat (appendFeed _ _).feeds.length).toNat = _
      rw [UInt16.toNat_ofNat', FullArray.length_eq, appendFeed, FullArray.toList_append,
        List.length_append, List.length_singleton]
      rfl
    rw [sizeSub, hnum]
    split <;> omega
  intro huploaded
  have hlast : (s.announced infos₀ pseudo bytes).1.feeds[s.feeds.toList.length]? =
      some ⟨pseudo, []⟩ := by
    rw [← huploaded.log_eq]
    show (List.map Feed.toLog (List.set (withFeed _ _ _ _).feeds.toList _ _))[_]? = _
    rw [List.getElem?_map, List.getElem?_set_ne hne, withFeed, if_pos hf]
    show ((s.feeds.toList ++ [localFeed env.1 pseudo])[_]?).map Feed.toLog = _
    rw [List.getElem?_concat_length]
    rfl
  have hmeant : (s.announced infos₀ pseudo bytes).1.feeds[s.feeds.toList.length]? =
      some ⟨pseudo, [(pseudo, announcement { infos₀ with fileSize := bytes.length })]⟩ := by
    rw [announced, Log.addPost, if_pos (by rw [hf₀]; rfl)]
    show (s.feeds.toList.map Feed.toLog ++ [_])[_]? = _
    rw [show s.feeds.toList.length = (s.feeds.toList.map Feed.toLog).length from
      (List.length_map _).symm, List.getElem?_concat_length]
  rw [hmeant] at hlast
  simp at hlast

/-- **The outcomes of an upload.** -/
lemma outcomes (hs : s.Uploading id infos₀ pseudo) (F : BlockFile)
    (ps : List (WorkingEnv × Packet)) :
    (s.receiver id infos₀ pseudo hs).Outcomes infos₀ F (s.StillUploading id)
      (s.Uploaded id infos₀ pseudo F.bytes) (s.RoomForFeed infos₀) ps := by
  refine ⟨fun infos hactive => ⟨⟨infos, at?_putTransfer hs.at?_eq infos, hactive⟩, rfl, rfl⟩,
    fun env infos s' hend hgoing => ?_, fun env infos hends => ⟨?_, uploadEnd_of_room hs hends⟩⟩
  · obtain ⟨infos', hat, hactive⟩ := hgoing.active
    rw [(transferFiles_uploadEnd hs hend).2] at hat
    cases hat
    cases hactive
  · rintro ⟨s', hend, huploaded⟩
    by_contra hroom
    exact not_uploaded_of_full hs hends.feedNumber_eq hroom hend _ huploaded

/-- **Uploads**: every prefix of the packets leaves the server as it is meant to, exactly when the
last block comes last and there is room for the feed. -/
lemma reassembles_iff (hs : s.Uploading id infos₀ pseudo) {F : BlockFile}
    {ps : List (WorkingEnv × Packet)} (hps : F.Delivers ps) :
    Reassembles (takePacket id) F s (s.StillUploading id) (s.Uploaded id infos₀ pseudo F.bytes) ps ↔
      F.LastBlockLast ps ∧ (F.count ∈ numbers ps → s.RoomForFeed infos₀) := by
  have h := Receiver.reassembles_iff hs.fresh hps (outcomes hs F ps)
  rwa [show (s.receiver id infos₀ pseudo hs).pending infos₀ = s from
    putTransfer_self hs.at?_eq] at h

/-- A sequence of packets that ends with the last block ends the upload. -/
lemma exists_uploadEnd (hs : s.Uploading id infos₀ pseudo) {F : BlockFile}
    {ps : List (WorkingEnv × Packet)} (hps : F.Delivers ps) (hlast : F.LastBlockLast ps)
    (hmem : F.count ∈ numbers ps) :
    ∃ env infos, ps.foldlM (takePacket id) s = s.uploadEnd id env infos ∧
      Receiver.Ends infos₀ F ps env infos := by
  obtain ⟨-, env, infos, hrun, hends⟩ :=
    Receiver.foldlM_ends (R := s.receiver id infos₀ pseudo hs) hs.fresh hps hlast hmem
  change ps.foldlM (takePacket id) (s.putTransfer id.toNat infos₀) =
    s.uploadEnd id env infos at hrun
  rw [putTransfer_self hs.at?_eq] at hrun
  exact ⟨env, infos, hrun, hends⟩

/-- A sequence of packets that ends with the last block leaves the bytes of the file, if there is
room for the feed, and no other bytes. -/
lemma uploaded_iff (hs : s.Uploading id infos₀ pseudo) {F : BlockFile}
    {ps : List (WorkingEnv × Packet)} (hps : F.Delivers ps) (hlast : F.LastBlockLast ps)
    (hmem : F.count ∈ numbers ps) (bytes : List UInt8) :
    (∃ s', ps.foldlM (takePacket id) s = some s' ∧ s.Uploaded id infos₀ pseudo bytes s') ↔
      F.bytes = bytes ∧ s.RoomForFeed infos₀ := by
  obtain ⟨env, infos, hrun, hends⟩ := exists_uploadEnd hs hps hlast hmem
  rw [hrun]
  constructor
  · rintro ⟨s', hend, huploaded⟩
    have hroom : s.RoomForFeed infos₀ := by
      by_contra hroom
      exact not_uploaded_of_full hs hends.feedNumber_eq hroom hend _ huploaded
    obtain ⟨s'', hend', huploaded'⟩ := uploadEnd_of_room hs hends hroom
    rw [hend] at hend'
    cases hend'
    have hdisk := huploaded'.disk_eq
    rw [huploaded.disk_eq, List.append_cancel_left_eq, List.singleton_inj, Prod.mk.injEq] at hdisk
    exact ⟨hdisk.2.symm, hroom⟩
  · rintro ⟨rfl, hroom⟩
    exact uploadEnd_of_room hs hends hroom

end Server

end Megaphone
