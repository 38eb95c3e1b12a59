import Megaphone.Network.FileTransfer
import Megaphone.System.Decimal

/-!
The data of the server (`data.c`): users, feeds with their posts, subscriptions and transfers.

* `Server`: the state.  Every function runs under the mutexes that it takes, so that each is one
  step.
* `Env`: what the outside decides during a step: random numbers, the file system, sockets, the time,
  and the bytes of memory that nothing has been written to.
* `userNew`, `getPseudo`, `generateNewId`, `postNew`, `feedNew`, `notifNew`, `transferNew`,
  `addPacket` and the others: the functions, under their own names.  The result is `none` where the
  code reads or writes through `NULL` or outside of an allocation.
* `generateNewId_spec`, `exists_fresh`: the identifiers of new users.
* `SameStore`, `Posting`: what a step does to the users, the feeds and the subscriptions;
  `transferNew_sameStore`, `addPacket_posting` and the others say which it is.
-/

namespace Megaphone

open Memory

/-! ### The state -/

/-- `ID_MAX`. -/
def ID_MAX : ℕ := 2047

/-- `USER_MAX`. -/
def USER_MAX : ℕ := 2047

/-- `FEED_NB_MAX`. -/
def FEED_NB_MAX : ℕ := 65536

/-- `FT_TIMEOUT_SEC`. -/
def FT_TIMEOUT_SEC : ℕ := 5

/-- `User`. -/
structure User where
  id : UInt16
  pseudo : Pseudo

instance : CZero User := ⟨⟨0, .replicate PSEUDO_LEN 0⟩⟩

/-- `Post`. -/
structure Post where
  pseudo : Pseudo
  datalen : UInt8
  data : ℕ → UInt8

instance : CZero Post := ⟨⟨.replicate PSEUDO_LEN 0, 0, fun _ => 0⟩⟩

/-- The text of a post. -/
def Post.text (p : Post) : List UInt8 := textOf p.datalen p.data

/-- `Mult`.  Of `sock_addr` only the port is kept, whose address is that of the group. -/
structure Mult where
  addr : Vector UInt8 ADDRMULT_LEN
  port : UInt16
  sockFd : ℕ
  sockAddr : UInt16

/-- `NotificationsInfos`. -/
structure NotificationsInfos where
  nbfeed : ℕ
  lastSendPost : ℕ
  multInfos : Mult

instance : CZero NotificationsInfos := ⟨⟨0, 0, ⟨.replicate ADDRMULT_LEN 0, 0, 0, 0⟩⟩⟩

/-- `Feed`; `notif` points into `m_suscribe`, and is `none` for `NULL`. -/
structure Feed where
  posts : FullArray Post
  creator : Pseudo
  notif : Option Ptr

/-- A cleared record.  It is never taken for a feed: of the records behind the last feed only the
field `notif` is ever used. -/
instance : CZero Feed := ⟨⟨.arrayNew Post 0, .replicate PSEUDO_LEN 0, none⟩⟩

/-- The data of the server, with `d_errno` and the files written to disk, path and contents. -/
structure Server where
  users : FullArray User
  feeds : FullArray Feed
  suscribe : FullArray NotificationsInfos
  transferFiles : CArray FileTransferInfos
  dErrno : UInt16
  disk : List (List UInt8 × List UInt8)

/-- `data_init`. -/
def dataInit : Server :=
  { users := .arrayNew User 0
    feeds := .arrayNew Feed 0
    suscribe := .arrayNew NotificationsInfos 0
    transferFiles := .arrayNew FileTransferInfos (ID_MAX + 1)
    dErrno := NOERROR
    disk := [] }

/-- What the outside decides during a step.

* `random`: the results of the calls of `random`, one after the other;
* `stat`, `mkdir`, `openRead`, `openWrite`: whether the call succeeds on a path, the last one with
  the `ftruncate` behind it;
* `mmap`: whether a file that is not empty can be mapped (an empty one never can);
* `enomem`: whether `errno` is `ENOMEM` when a handler has failed, from any earlier call of the
  thread, since nothing resets it;
* `mult`: the socket of `set_mult`, or `none` when it fails;
* `junk`, `junkNotif`, `junkMult`: bytes of memory, a pointer and a `Mult` that have not been
  initialised. -/
structure Env where
  random : List ℕ
  now : ℕ
  stat : List UInt8 → Bool
  mkdir : List UInt8 → Bool
  openRead : List UInt8 → Bool
  openWrite : List UInt8 → Bool
  mmap : List UInt8 → Bool
  enomem : Bool
  mult : Option ℕ
  junk : ℕ → UInt8
  junkNotif : Option Ptr
  junkMult : Mult

/-- An outside where every call succeeds and memory is clear. -/
def Env.quiet (random : List ℕ) : Env :=
  { random := random, now := 0, stat := fun _ => true, mkdir := fun _ => true
    openRead := fun _ => true, openWrite := fun _ => true, mmap := fun _ => true
    enomem := false, mult := some 3, junk := fun _ => 0, junkNotif := none
    junkMult := ⟨.replicate ADDRMULT_LEN 0, 0, 0, 0⟩ }

/-- A record of `m_feeds` that has not been initialised, of which only `notif` is ever used. -/
def Env.junkFeed (env : Env) : Feed := ⟨.arrayNew Post 0, .replicate PSEUDO_LEN 0, env.junkNotif⟩

/-! ### Strings -/

/-- `UPLOAD_FILES_PATH`. -/
def UPLOAD_FILES_PATH : List UInt8 := "res/server/files".toUTF8.data.toList

/-- The directory of a feed, `"%s/%zu"`. -/
def feedPath (n : ℕ) : List UInt8 := snprintf (UPLOAD_FILES_PATH ++ [47] ++ decimal n)

namespace Server

/-! ### Users -/

/-- `exist_id`. -/
def existId (s : Server) (id : UInt16) : Bool :=
  id == 0 || s.users.toList.any (·.id == id)

/-- `user_new`. -/
def userNew (s : Server) (id : UInt16) (pseudo : Pseudo) : Server :=
  { s with users := s.users.append ⟨id, pseudo⟩ }

/-- `get_nb_user`. -/
def getNbUser (s : Server) : ℕ := s.users.length

/-- `get_pseudo`. -/
def getPseudo (s : Server) (id : UInt16) : Option Pseudo :=
  (s.users.toList.find? (·.id == id)).map (·.pseudo)

/-- `generate_new_id`, on the results of the calls of `random`; `none` when the loop is still going
on after them. -/
def generateNewId (s : Server) : List ℕ → Option UInt16
  | [] => none
  | x :: xs =>
      let id := UInt16.ofNat x % UInt16.ofNat ID_MAX + 1
      if s.existId id then s.generateNewId xs else some id

/-! ### Feeds -/

/-- `get_feeds`: the index of the record that the pointer designates. -/
def getFeeds (s : Server) (feedNumber : ℕ) : Option ℕ := s.feeds.get feedNumber

/-- `get_feeds_count`. -/
def getFeedsCount (s : Server) : ℕ := s.feeds.length

/-- The local variable `post` of `post_new`.  Its bytes behind the text are those of the stack. -/
def localPost (env : Env) (pseudo : Pseudo) (datalen : UInt8) (data : ℕ → UInt8) : Post :=
  ⟨pseudo, datalen, write env.junk 0 (textOf datalen data)⟩

/-- Appending a post to the record `feed` at index `i`. -/
def appendPost (s : Server) (i : ℕ) (feed : Feed) (post : Post) : Server :=
  { s with feeds := s.feeds.write i { feed with posts := feed.posts.append post } }

/-- `post_new`. -/
def postNew (env : Env) (s : Server) (pseudo : Pseudo) (datalen : UInt8) (data : ℕ → UInt8)
    (feedNumber : ℕ) : Option Server := do
  let i ← s.feeds.get (sizeSub feedNumber 1)
  let feed ← s.feeds.toList[i]?
  some (s.appendPost i feed (localPost env pseudo datalen data))

/-- The local variable `new_feed` of `feed_new`, whose `notif` is set to `NULL` only after it has
been appended. -/
def localFeed (env : Env) (creator : Pseudo) : Feed :=
  ⟨.arrayNew Post 0, creator, env.junkNotif⟩

/-- Appending a feed. -/
def appendFeed (s : Server) (feed : Feed) : Server := { s with feeds := s.feeds.append feed }

/-- `feed_new`: the return code and the state. -/
def feedNew (env : Env) (s : Server) (creator : Pseudo) : UInt8 × Server :=
  let s := s.appendFeed (localFeed env creator)
  let path := feedPath s.feeds.length
  if env.stat path then (0, s) else if env.mkdir path then (0, s) else (1, s)

/-- The record that a subscription to a feed takes for the one of the feed. -/
def feedRecord (s : Server) (feedNumber : ℕ) : Option ℕ := s.getFeeds feedNumber

/-- `get_subscribe_count`. -/
def getSubscribeCount (s : Server) : ℕ := s.suscribe.length

/-- `notif_new`. -/
def notifNew (env : Env) (s : Server) (nbfeed : ℕ) (mult : Mult) : Option Server := do
  let s := { s with suscribe := s.suscribe.append ⟨nbfeed, 0, mult⟩ }
  let i ← s.feedRecord nbfeed
  let feed ← s.feeds.slot env.junkFeed i
  let ptr := s.suscribe.toCArray.addr (s.suscribe.length - 1)
  some { s with feeds := s.feeds.write i { feed with notif := some ptr } }

/-- `get_notif_info`: the index of the entry that the pointer designates. -/
def getNotifInfo (s : Server) (index : ℕ) : Option ℕ := s.suscribe.get index

/-! ### Transfers -/

/-- Storing a transfer in the table. -/
def putTransfer (s : Server) (i : ℕ) (infos : FileTransferInfos) : Server :=
  { s with transferFiles := s.transferFiles.write i infos }

/-- `transfer_new`. -/
def transferNew (env : Env) (s : Server) (id feedNumber : UInt16) (fileName : ℕ → UInt8) :
    Option Server := do
  let old := (s.transferFiles.get id.toNat).bind s.transferFiles.at?
  let s := match old with
    | some infos => if infos.active then s.putTransfer id.toNat (transferClear infos) else s
    | none => s
  let files ← s.transferFiles.set id.toNat (transferInit env.now fileName feedNumber)
  some { s with transferFiles := files }

/-- `id_clear_transfer`. -/
def idClearTransfer (s : Server) (id : UInt16) : Option Server := do
  let i ← s.transferFiles.get id.toNat
  let infos ← s.transferFiles.at? i
  some (s.putTransfer i (transferClear infos))

/-- `check_transfers_timeout` at the time `now`: the data.  The sockets that it closes are those of
`timedOut`. -/
def checkTransfersTimeout (s : Server) (now : ℕ) : Server :=
  let files := s.transferFiles
  let check := fun infos : FileTransferInfos =>
    if infos.active ∧ now - infos.begin > FT_TIMEOUT_SEC then transferClear infos else infos
  { s with transferFiles := { files with
      slots := files.slots.mapIdx fun i infos =>
        if i < files.length then infos.map check else infos } }

/-- The transfers that `check_transfers_timeout` ends at the time `now`. -/
def timedOut (s : Server) (now : ℕ) : List FileTransferInfos :=
  ((s.transferFiles.slots.take s.transferFiles.length).filterMap id).filter fun infos =>
    infos.active ∧ now - infos.begin > FT_TIMEOUT_SEC

lemma mem_timedOut {s : Server} {now i : ℕ} {infos : FileTransferInfos}
    (hlt : i < s.transferFiles.length) (hat : s.transferFiles.at? i = some infos)
    (hactive : infos.active = true) (hout : now - infos.begin > FT_TIMEOUT_SEC) :
    infos ∈ s.timedOut now := by
  have hslot := Option.join_eq_some_iff.mp hat
  refine List.mem_filter.mpr ⟨List.mem_filterMap.mpr ⟨some infos, ?_, rfl⟩, by simp [hactive, hout]⟩
  refine List.mem_iff_getElem?.mpr ⟨i, ?_⟩
  rw [List.getElem?_take_of_lt hlt, hslot]

/-- No transfer ends before the first timeout. -/
lemma timedOut_of_le (s : Server) {now : ℕ} (h : now ≤ FT_TIMEOUT_SEC) : s.timedOut now = [] := by
  refine List.filter_eq_nil_iff.mpr fun infos _ => ?_
  rw [decide_eq_true_eq]
  exact fun hout => absurd hout.2 (by omega)

/-- The path of the file of a transfer, `"%s/%u/%s"`. -/
def filePathOf (infos : FileTransferInfos) : List UInt8 :=
  snprintf (UPLOAD_FILES_PATH ++ [47] ++ decimal infos.feedNumber.toNat ++ [47] ++
    cString infos.filePath MAX_DATALEN)

/-- `write_file`: the return code and the state.  A failing `mmap` is not noticed, as it returns
`MAP_FAILED` and not `NULL`; copying to there is outside of the memory, unless there is nothing to
copy. -/
def writeFile (env : Env) (s : Server) (infos : FileTransferInfos) : Option (UInt8 × Server) :=
  let path := filePathOf infos
  if env.openWrite path then
    if infos.fileSize = 0 ∨ env.mmap path = true then
      (infos.content env.junk).map fun bytes => (0, { s with disk := s.disk ++ [(path, bytes)] })
    else none
  else some (1, s)

/-- The text of the post that announces a file, `"%s %ld"`. -/
def announcement (infos : FileTransferInfos) : List UInt8 :=
  snprintf (cString infos.filePath MAX_DATALEN ++ [32] ++ decimal infos.fileSize)

/-- The last part of `add_packet`, when all packets are received: `i` is the index of the slot. -/
def completeTransfer (env : Env) (s : Server) (id : UInt16) (i : ℕ) (infos : FileTransferInfos) :
    Option (UInt8 × Server) := do
  let pseudo ← s.getPseudo id
  let (err, s) := if infos.feedNumber = 0 then s.feedNew env pseudo else (0, s)
  if err ≠ 0 then return (1, s)
  let infos := if infos.feedNumber = 0 then
      { infos with feedNumber := UInt16.ofNat s.feeds.length }
    else infos
  let s := s.putTransfer i infos
  let fileName := announcement infos
  let s ← s.postNew env pseudo (UInt8.ofNat fileName.length) (ofList fileName 0)
    infos.feedNumber.toNat
  let (err, s) ← s.writeFile env infos
  if err ≠ 0 then return (1, s)
  return (0, s.putTransfer i (transferClear infos))

/-- `add_packet`: the return code and the state. -/
def addPacket (env : Env) (s : Server) (id numblock : UInt16) (data : Block) (nbytes : ℕ) :
    Option (UInt8 × Server) :=
  match s.transferFiles.get id.toNat with
  | none => some (1, s)
  | some i => do
      let infos ← s.transferFiles.at? i
      if infos.active then
        let infos ← infos.record numblock data nbytes
        let s := s.putTransfer i infos
        if infos.received then s.completeTransfer env id i infos
        else return (0, s)
      else return (0, s)

/-! ### Users and identifiers -/

lemma existId_eq_false {s : Server} {id : UInt16} :
    s.existId id = false ↔ id ≠ 0 ∧ id ∉ s.users.toList.map (·.id) := by
  simp [existId]

/-- An identifier that a new user may be given. -/
structure Fresh (s : Server) (id : UInt16) : Prop where
  new : s.existId id = false
  pos : 0 < id.toNat
  le_max : id.toNat ≤ ID_MAX

/-- The users of a server: no identifier is given twice, and there are not too many. -/
structure UsersInv (s : Server) : Prop where
  nodup : (s.users.toList.map (·.id)).Nodup
  range : ∀ u ∈ s.users.toList, 0 < u.id.toNat ∧ u.id.toNat ≤ ID_MAX
  length_le : s.users.toList.length ≤ USER_MAX

lemma usersInv_dataInit : dataInit.UsersInv :=
  ⟨by simp [dataInit], by simp [dataInit], by simp [dataInit]⟩

lemma UsersInv.congr {s s' : Server} (h : s.UsersInv) (hs' : s'.users = s.users) :
    s'.UsersInv := by
  refine ⟨?_, ?_, ?_⟩
  · rw [hs']
    exact h.nodup
  · rw [hs']
    exact h.range
  · rw [hs']
    exact h.length_le

/-- A user with a fresh identifier may join. -/
lemma UsersInv.userNew {s : Server} {id : UInt16} (h : s.UsersInv) (hid : s.Fresh id)
    (hroom : s.users.toList.length < USER_MAX) (pseudo : Pseudo) :
    (s.userNew id pseudo).UsersInv := by
  have hnew := (existId_eq_false.mp hid.new).2
  have husers : (s.userNew id pseudo).users.toList = s.users.toList ++ [⟨id, pseudo⟩] := rfl
  refine ⟨?_, fun v hv => ?_, ?_⟩
  · rw [husers, List.map_append, List.map_singleton, List.nodup_append]
    refine ⟨h.nodup, List.nodup_singleton _, fun id₁ h₁ id₂ h₂ heq => ?_⟩
    have hid₁ : id₁ = id := heq.trans (List.mem_singleton.mp h₂)
    exact hnew (by rwa [← hid₁])
  · rw [husers, List.mem_append, List.mem_singleton] at hv
    rcases hv with hv | rfl
    · exact h.range v hv
    · exact ⟨hid.pos, hid.le_max⟩
  · rw [husers, List.length_append, List.length_singleton]
    exact hroom

/-- An identifier that `generate_new_id` returns is new and in range. -/
lemma generateNewId_spec {s : Server} {xs : List ℕ} {id : UInt16}
    (h : s.generateNewId xs = some id) : s.Fresh id := by
  induction xs with
  | nil => cases h
  | cons x xs ih =>
      rw [generateNewId] at h
      split at h
      next => exact ih h
      next hexist =>
        have hid := Option.some.inj h
        have hval : id.toNat = x % 2 ^ 16 % 2047 + 1 := by
          rw [← hid, UInt16.toNat_add, UInt16.toNat_mod, UInt16.toNat_ofNat']
          change (x % 2 ^ 16 % 2047 + 1) % 2 ^ 16 = _
          omega
        refine ⟨by simpa [hid] using hexist, by omega, ?_⟩
        rw [hval, ID_MAX]
        omega

/-- `generate_new_id` looks at the users only. -/
lemma generateNewId_congr (s s' : Server) (h : s'.users = s.users) (xs : List ℕ) :
    s'.generateNewId xs = s.generateNewId xs := by
  induction xs with
  | nil => rfl
  | cons x xs ih =>
      have hexist : ∀ id, s'.existId id = s.existId id := fun id => by rw [existId, existId, h]
      simp only [generateNewId, hexist, ih]

/-- Every identifier in range that is new is the one that some value of `random` gives. -/
lemma generateNewId_of_fresh {s : Server} {id : UInt16} (h : s.Fresh id) :
    s.generateNewId [id.toNat - 1] = some id := by
  obtain ⟨hnew, hpos, hle⟩ := h
  rw [ID_MAX] at hle
  have hval : UInt16.ofNat (id.toNat - 1) % UInt16.ofNat ID_MAX + 1 = id := by
    rw [← UInt16.toNat_inj, UInt16.toNat_add, UInt16.toNat_mod, UInt16.toNat_ofNat']
    change ((id.toNat - 1) % 2 ^ 16 % 2047 + 1) % 2 ^ 16 = _
    omega
  simp only [generateNewId, hval, hnew, Bool.false_eq_true, if_false]

/-- **The pigeonhole**: as long as fewer than `ID_MAX` users are known, some identifier in range is
new. -/
lemma exists_fresh {s : Server} (h : s.users.toList.length < ID_MAX) : ∃ id, s.Fresh id := by
  have hcard : ((s.users.toList.map fun u => u.id.toNat).toFinset).card <
      (Finset.Icc 1 ID_MAX).card := by
    calc ((s.users.toList.map fun u => u.id.toNat).toFinset).card
        ≤ (s.users.toList.map fun u => u.id.toNat).length := List.toFinset_card_le _
      _ = s.users.toList.length := List.length_map _
      _ < ID_MAX := h
      _ = (Finset.Icc 1 ID_MAX).card := by simp
  obtain ⟨n, hn, hfree⟩ := Finset.exists_mem_notMem_of_card_lt_card hcard
  rw [Finset.mem_Icc] at hn
  have hval : (UInt16.ofNat n).toNat = n := by
    have hmax : ID_MAX = 2047 := rfl
    rw [UInt16.toNat_ofNat']
    omega
  refine ⟨UInt16.ofNat n, existId_eq_false.mpr ⟨fun h => ?_, fun h => ?_⟩, by omega, by omega⟩
  · rw [h] at hval
    simp at hval
    omega
  · obtain ⟨u, hu, hid⟩ := List.mem_map.mp h
    exact hfree (List.mem_toFinset.mpr (List.mem_map.mpr ⟨u, hu, by rw [hid, hval]⟩))

/-- The pseudo of a known user, when no identifier is given twice. -/
lemma getPseudo_of_mem {s : Server} (h : (s.users.toList.map (·.id)).Nodup) {u : User}
    (hu : u ∈ s.users.toList) : s.getPseudo u.id = some u.pseudo := by
  obtain ⟨pre, post, hl⟩ := List.append_of_mem hu
  rw [hl, List.map_append, List.map_cons] at h
  have hpre : ∀ v ∈ pre, ¬(v.id == u.id) = true := by
    intro v hv heq
    have hdisj := List.disjoint_of_nodup_append h
    exact hdisj (List.mem_map_of_mem hv) (by simp [beq_iff_eq.mp heq])
  rw [getPseudo, hl, List.find?_append, List.find?_eq_none.mpr hpre]
  simp

/-- A user who is not known has no pseudo. -/
lemma getPseudo_eq_none {s : Server} {id : UInt16} :
    s.getPseudo id = none ↔ id ∉ s.users.toList.map (·.id) := by
  simp [getPseudo]

/-- A new user, and nobody else, has the pseudo that was given. -/
lemma getPseudo_userNew {s : Server} {id : UInt16} (h : s.existId id = false) (pseudo : Pseudo) :
    (s.userNew id pseudo).getPseudo = Function.update s.getPseudo id (some pseudo) := by
  have hnew := (existId_eq_false.mp h).2
  funext id'
  simp only [getPseudo, userNew, FullArray.toList_append, List.find?_append]
  by_cases hid : id' = id
  · subst hid
    rw [Function.update_self, List.find?_eq_none.mpr fun u hu heq => hnew
      (List.mem_map.mpr ⟨u, hu, beq_iff_eq.mp heq⟩)]
    simp
  · rw [Function.update_of_ne hid, getPseudo]
    simp [Ne.symm hid]

/-! ### Posts -/

/-- `post_new` on an existing feed. -/
lemma postNew_eq {env : Env} {s : Server} {pseudo : Pseudo} {datalen : UInt8} {data : ℕ → UInt8}
    {i : ℕ} {feed : Feed} (h : s.feeds.toList[i]? = some feed) :
    s.postNew env pseudo datalen data (i + 1) =
      some (s.appendPost i feed (localPost env pseudo datalen data)) := by
  have hi := (List.getElem?_eq_some_iff.mp h).1
  have hsub : sizeSub (i + 1) 1 = i := by
    rw [sizeSub, if_pos (by omega), Nat.add_sub_cancel]
  simp only [postNew, hsub, FullArray.get_eq_some hi.le, Option.bind_eq_bind, Option.bind_some, h]

/-- `post_new` on the feed that has just been appended. -/
lemma postNew_appendFeed (env : Env) (s : Server) (feed : Feed) (pseudo : Pseudo)
    (datalen : UInt8) (data : ℕ → UInt8) :
    (s.appendFeed feed).postNew env pseudo datalen data (s.feeds.toList.length + 1) =
      some ((s.appendFeed feed).appendPost s.feeds.toList.length feed
        (localPost env pseudo datalen data)) :=
  postNew_eq (List.getElem?_concat_length)

/-- `feed_new` when the directory is made. -/
lemma feedNew_eq {env : Env} {s : Server} (h : ∀ path, env.mkdir path = true) (creator : Pseudo) :
    s.feedNew env creator = (0, s.appendFeed (localFeed env creator)) := by
  simp only [feedNew, h, if_true, ite_self]

/-- Whatever `post_new` does, it appends to the posts of an existing feed. -/
lemma postNew_eq_some {env : Env} {s s' : Server} {pseudo : Pseudo} {datalen : UInt8}
    {data : ℕ → UInt8} {feedNumber : ℕ}
    (h : s.postNew env pseudo datalen data feedNumber = some s') :
    ∃ feed, s.feeds.toList[sizeSub feedNumber 1]? = some feed ∧
      s' = s.appendPost (sizeSub feedNumber 1) feed (localPost env pseudo datalen data) := by
  obtain ⟨i, hi, h⟩ := Option.bind_eq_some_iff.mp h
  obtain ⟨feed, hfeed, h⟩ := Option.bind_eq_some_iff.mp h
  have hget : i = sizeSub feedNumber 1 := CArray.eq_of_get hi
  rw [Option.some.injEq] at h
  exact ⟨feed, by rw [← hget, hfeed], by rw [← h, hget]⟩

/-! ### What a step does to the users, the feeds and the subscriptions -/

/-- The users, the feeds and the subscriptions are the same. -/
structure SameStore (s s' : Server) : Prop where
  users_eq : s'.users = s.users
  feeds_eq : s'.feeds = s.feeds
  suscribe_eq : s'.suscribe = s.suscribe

/-- A new feed. -/
def NewFeed (env : Env) (s s' : Server) : Prop :=
  ∃ creator, s' = s.appendFeed (localFeed env creator)

/-- A new post on an existing feed. -/
def NewPost (s s' : Server) : Prop :=
  ∃ i feed post, s.feeds.toList[i]? = some feed ∧ s' = s.appendPost i feed post

/-- What every step that is neither a registration nor a subscription does: it appends a feed, or
not, and then a post, or not. -/
inductive Posting (env : Env) (s : Server) : Server → Prop
  | same {s' : Server} (h : SameStore s s') : Posting env s s'
  | feed {s₁ s' : Server} (h₁ : NewFeed env s s₁) (h : SameStore s₁ s') : Posting env s s'
  | post {s₁ s' : Server} (h₁ : NewPost s s₁) (h : SameStore s₁ s') : Posting env s s'
  | feedPost {s₁ s₂ s' : Server} (h₁ : NewFeed env s s₁) (h₂ : NewPost s₁ s₂)
      (h : SameStore s₂ s') : Posting env s s'

lemma SameStore.refl (s : Server) : SameStore s s := ⟨rfl, rfl, rfl⟩

lemma SameStore.trans {s s' s'' : Server} (h : SameStore s s') (h' : SameStore s' s'') :
    SameStore s s'' :=
  ⟨h'.users_eq.trans h.users_eq, h'.feeds_eq.trans h.feeds_eq,
    h'.suscribe_eq.trans h.suscribe_eq⟩

/-- A new feed does not depend on what the store does not hold. -/
lemma NewFeed.of_sameStore {env : Env} {s₀ s s' : Server} (h₀ : SameStore s₀ s)
    (h : NewFeed env s s') : ∃ s₀', NewFeed env s₀ s₀' ∧ SameStore s₀' s' := by
  obtain ⟨creator, rfl⟩ := h
  exact ⟨_, ⟨creator, rfl⟩, h₀.users_eq, by rw [appendFeed, appendFeed, h₀.feeds_eq],
    h₀.suscribe_eq⟩

/-- Nor does a new post. -/
lemma NewPost.of_sameStore {s₀ s s' : Server} (h₀ : SameStore s₀ s) (h : NewPost s s') :
    ∃ s₀', NewPost s₀ s₀' ∧ SameStore s₀' s' := by
  obtain ⟨i, feed, post, hi, rfl⟩ := h
  rw [h₀.feeds_eq] at hi
  exact ⟨_, ⟨i, feed, post, hi, rfl⟩, h₀.users_eq, by rw [appendPost, appendPost, h₀.feeds_eq],
    h₀.suscribe_eq⟩

lemma Posting.of_sameStore {env : Env} {s₀ s s' : Server} (h : Posting env s s')
    (h₀ : SameStore s₀ s) : Posting env s₀ s' := by
  cases h with
  | same h => exact .same (h₀.trans h)
  | feed h₁ h =>
      obtain ⟨t₁, ht₁, hs₁⟩ := h₁.of_sameStore h₀
      exact .feed ht₁ (hs₁.trans h)
  | post h₁ h =>
      obtain ⟨t₁, ht₁, hs₁⟩ := h₁.of_sameStore h₀
      exact .post ht₁ (hs₁.trans h)
  | feedPost h₁ h₂ h =>
      obtain ⟨t₁, ht₁, hs₁⟩ := h₁.of_sameStore h₀
      obtain ⟨t₂, ht₂, hs₂⟩ := h₂.of_sameStore hs₁
      exact .feedPost ht₁ ht₂ (hs₂.trans h)

lemma Posting.users_eq {env : Env} {s s' : Server} (h : Posting env s s') :
    s'.users = s.users := by
  cases h with
  | same h => exact h.users_eq
  | feed h₁ h =>
      obtain ⟨creator, rfl⟩ := h₁
      exact h.users_eq
  | post h₁ h =>
      obtain ⟨i, feed, post, -, rfl⟩ := h₁
      exact h.users_eq
  | feedPost h₁ h₂ h =>
      obtain ⟨creator, rfl⟩ := h₁
      obtain ⟨i, feed, post, -, rfl⟩ := h₂
      exact h.users_eq

/-- A step of this kind makes one feed at most. -/
lemma Posting.length_feeds_le {env : Env} {s s' : Server} (h : Posting env s s') :
    s'.feeds.toList.length ≤ s.feeds.toList.length + 1 := by
  cases h with
  | same h =>
      rw [h.feeds_eq]
      exact Nat.le_succ _
  | feed h₁ h =>
      obtain ⟨creator, rfl⟩ := h₁
      rw [h.feeds_eq, appendFeed, FullArray.toList_append, List.length_append,
        List.length_singleton]
  | post h₁ h =>
      obtain ⟨i, feed, post, -, rfl⟩ := h₁
      rw [h.feeds_eq, appendPost, FullArray.toList_write, List.length_set]
      exact Nat.le_succ _
  | feedPost h₁ h₂ h =>
      obtain ⟨creator, rfl⟩ := h₁
      obtain ⟨i, feed, post, -, rfl⟩ := h₂
      rw [h.feeds_eq, appendPost, FullArray.toList_write, List.length_set, appendFeed,
        FullArray.toList_append, List.length_append, List.length_singleton]

lemma newPost_of_postNew {env : Env} {s s' : Server} {pseudo : Pseudo} {datalen : UInt8}
    {data : ℕ → UInt8} {feedNumber : ℕ}
    (h : s.postNew env pseudo datalen data feedNumber = some s') : NewPost s s' := by
  obtain ⟨feed, hfeed, rfl⟩ := postNew_eq_some h
  exact ⟨_, feed, _, hfeed, rfl⟩

/-- Whether or not its directory can be made, `feed_new` appends the feed. -/
lemma feedNew_snd (env : Env) (s : Server) (creator : Pseudo) :
    (s.feedNew env creator).2 = s.appendFeed (localFeed env creator) := by
  simp only [feedNew]
  split
  · rfl
  · split <;> rfl

lemma newFeed_of_feedNew (env : Env) (s : Server) (creator : Pseudo) :
    NewFeed env s (s.feedNew env creator).2 :=
  ⟨creator, feedNew_snd env s creator⟩

lemma transferNew_sameStore {env : Env} {s s' : Server} {id feedNumber : UInt16}
    {fileName : ℕ → UInt8} (h : s.transferNew env id feedNumber fileName = some s') :
    SameStore s s' := by
  obtain ⟨files, -, h⟩ := Option.bind_eq_some_iff.mp h
  cases h
  split
  · split <;> exact ⟨rfl, rfl, rfl⟩
  · exact ⟨rfl, rfl, rfl⟩

lemma idClearTransfer_sameStore {s s' : Server} {id : UInt16}
    (h : s.idClearTransfer id = some s') : SameStore s s' := by
  obtain ⟨i, -, h⟩ := Option.bind_eq_some_iff.mp h
  obtain ⟨infos, -, h⟩ := Option.bind_eq_some_iff.mp h
  cases h
  exact ⟨rfl, rfl, rfl⟩

/-- `write_file` makes one file, or returns 1 and changes nothing. -/
lemma writeFile_cases {env : Env} {s : Server} {infos : FileTransferInfos}
    {r : UInt8 × Server} (h : s.writeFile env infos = some r) :
    (∃ bytes, r = (0, { s with disk := s.disk ++ [(filePathOf infos, bytes)] })) ∨
      r = (1, s) := by
  simp only [writeFile] at h
  split at h
  · split at h
    · obtain ⟨bytes, -, hr⟩ := Option.map_eq_some_iff.mp h
      exact .inl ⟨bytes, hr.symm⟩
    · cases h
  · exact .inr (Option.some.inj h).symm

lemma writeFile_sameStore {env : Env} {s : Server} {infos : FileTransferInfos}
    {r : UInt8 × Server} (h : s.writeFile env infos = some r) : SameStore s r.2 := by
  obtain ⟨bytes, rfl⟩ | rfl := writeFile_cases h
  · exact ⟨rfl, rfl, rfl⟩
  · exact .refl s

/-- The end of a transfer: a new feed, or none, and then an error, or a post and a file, and the
slot is cleared unless there is no file.  The number of the feed is the one that the transfer had,
or that of the last feed, as a `uint16_t`. -/
lemma completeTransfer_cases {env : Env} {s : Server} {id : UInt16} {i : ℕ}
    {infos : FileTransferInfos} {r : UInt8 × Server}
    (h : s.completeTransfer env id i infos = some r) :
    ∃ pseudo s₀, ((infos.feedNumber ≠ 0 ∧ s₀ = s) ∨
        (infos.feedNumber = 0 ∧ s₀ = (s.feedNew env pseudo).2)) ∧
      (r = (1, s₀) ∨ ∃ infos' datalen data feedNumber s' w,
        infos' = { infos with feedNumber := infos'.feedNumber } ∧
        (infos'.feedNumber = infos.feedNumber ∨
          infos'.feedNumber.toNat ≤ s₀.feeds.toList.length) ∧
        (s₀.putTransfer i infos').postNew env pseudo datalen data feedNumber = some s' ∧
        s'.writeFile env infos' = some w ∧
        (r = (1, w.2) ∨ r = (0, w.2.putTransfer i (transferClear infos')))) := by
  obtain ⟨pseudo, -, h⟩ := Option.bind_eq_some_iff.mp h
  have hfeed : (infos.feedNumber ≠ 0 ∧
        (if infos.feedNumber = 0 then s.feedNew env pseudo else (0, s)).2 = s) ∨
      (infos.feedNumber = 0 ∧ (if infos.feedNumber = 0 then s.feedNew env pseudo else (0, s)).2 =
        (s.feedNew env pseudo).2) := by
    split
    next hzero => exact .inr ⟨hzero, rfl⟩
    next hne => exact .inl ⟨hne, rfl⟩
  generalize (if infos.feedNumber = 0 then s.feedNew env pseudo else (0, s)) = r₀ at h hfeed
  obtain ⟨err, s₀⟩ := r₀
  refine ⟨pseudo, s₀, hfeed, ?_⟩
  simp only at h
  split at h
  · cases h
    exact .inl rfl
  · obtain ⟨s', hs', h⟩ := Option.bind_eq_some_iff.mp h
    obtain ⟨w, hw, h⟩ := Option.bind_eq_some_iff.mp h
    refine .inr ⟨_, _, _, _, s', w, ?_, ?_, hs', hw, ?_⟩
    · split <;> rfl
    · split
      · right
        simp only [UInt16.toNat_ofNat', FullArray.length_eq]
        exact Nat.mod_le _ _
      · exact .inl rfl
    · split at h <;> cases h
      · exact .inl rfl
      · exact .inr rfl

/-- A transfer that ends makes a new feed, if it is not for an existing one, and announces the
file. -/
lemma completeTransfer_posting {env : Env} {s : Server} {id : UInt16} {i : ℕ}
    {infos : FileTransferInfos} {r : UInt8 × Server}
    (h : s.completeTransfer env id i infos = some r) : Posting env s r.2 := by
  obtain ⟨pseudo, s₀, hs₀, rfl | ⟨infos', _, _, _, s', w, -, -, hs', hw, hr⟩⟩ :=
    completeTransfer_cases h
  · obtain ⟨-, rfl⟩ | ⟨-, rfl⟩ := hs₀
    · exact .same (.refl s₀)
    · exact .feed (newFeed_of_feedNew env s pseudo) (.refl _)
  · have hput : SameStore s₀ (s₀.putTransfer i infos') := ⟨rfl, rfl, rfl⟩
    obtain ⟨s₁, hpost, hs₁⟩ := (newPost_of_postNew hs').of_sameStore hput
    have hwrite := writeFile_sameStore hw
    have hclear : SameStore s' r.2 := by
      obtain rfl | rfl := hr
      · exact hwrite
      · exact hwrite.trans ⟨rfl, rfl, rfl⟩
    obtain ⟨-, rfl⟩ | ⟨-, rfl⟩ := hs₀
    · exact .post hpost (hs₁.trans hclear)
    · exact .feedPost (newFeed_of_feedNew env s pseudo) hpost (hs₁.trans hclear)

/-- `add_packet` leaves everything as it is when there is no active transfer, and stores a block,
and ends a transfer if all its blocks are there. -/
lemma addPacket_cases {env : Env} {s : Server} {id numblock : UInt16} {data : Block} {nbytes : ℕ}
    {r : UInt8 × Server} (h : s.addPacket env id numblock data nbytes = some r) :
    (r.2 = s ∧ (s.transferFiles.get id.toNat = none ∨
      ∃ infos, s.transferFiles.at? id.toNat = some infos ∧ infos.active = false)) ∨
    ∃ old infos, s.transferFiles.at? id.toNat = some old ∧ old.active = true ∧
      old.record numblock data nbytes = some infos ∧
      ((infos.received = false ∧ r = (0, s.putTransfer id.toNat infos)) ∨ (infos.received = true ∧
        (s.putTransfer id.toNat infos).completeTransfer env id id.toNat infos = some r)) := by
  rw [addPacket] at h
  split at h
  next hnone =>
    cases h
    exact .inl ⟨rfl, .inl hnone⟩
  next i hi =>
    obtain rfl := CArray.eq_of_get hi
    obtain ⟨old, hold, h⟩ := Option.bind_eq_some_iff.mp h
    split at h
    next hactive =>
      obtain ⟨infos, hinfos, h⟩ := Option.bind_eq_some_iff.mp h
      split at h
      next hreceived => exact .inr ⟨old, infos, hold, hactive, hinfos, .inr ⟨hreceived, h⟩⟩
      next hgoing =>
        cases h
        exact .inr ⟨old, infos, hold, hactive, hinfos, .inl ⟨by simpa using hgoing, rfl⟩⟩
    next hfree =>
      cases h
      exact .inl ⟨rfl, .inr ⟨old, hold, by simpa using hfree⟩⟩

/-- `add_packet` stores a block, or ends a transfer. -/
lemma addPacket_posting {env : Env} {s : Server} {id numblock : UInt16} {data : Block} {nbytes : ℕ}
    {r : UInt8 × Server} (h : s.addPacket env id numblock data nbytes = some r) :
    Posting env s r.2 := by
  obtain ⟨hr, -⟩ | ⟨old, infos, -, -, -, ⟨-, hr⟩ | ⟨-, hr⟩⟩ := addPacket_cases h
  · rw [hr]
    exact .same (.refl s)
  · rw [hr]
    exact .same ⟨rfl, rfl, rfl⟩
  · exact (completeTransfer_posting hr).of_sameStore ⟨rfl, rfl, rfl⟩

end Server

end Megaphone
