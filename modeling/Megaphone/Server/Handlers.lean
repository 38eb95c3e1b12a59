import Megaphone.Server.Failures
import Megaphone.Server.Transfers
import Megaphone.Server.Dispatch

/-!
What the handlers return, by the request and the state that it finds.

* `Server.Rejects`: the requests that are refused.
* `Server.LeavesMemory`: those with which a handler, or `send_server_request` behind it, leaves its
  memory, or `generate_new_id` finds no identifier.
* `Server.HandlerResult`: what a handler returns, by these two.
* `registrationRequest_result` and the lemmas behind it: one for each handler.
* `requests_result`: the handlers of the table.
* `fails_cleanly_iff`: a request that fails leaves the state as it was and is answered with an
  error, unless it is a post for a new feed without directory or `errno` is `ENOMEM`.
* `NoDirectory`: such a post.
-/

namespace Megaphone

open Memory

namespace Server

/-! ### The requests -/

/-- The path that a download is for, `"%s/%u/%s"`. -/
def askedPath (rq : ClientRQCl) : List UInt8 :=
  UPLOAD_FILES_PATH ++ [47] ++ decimal rq.feedNumber.toNat ++ [47] ++ cString rq.data MAX_DATALEN

/-- The user of a request is known, and its feed exists, or it is for no feed. -/
def Admits (s : Server) (rq : ClientRQCl) : Prop :=
  (s.getPseudo (getId rq.header)).isSome = true ∧ rq.feedNumber.toNat ≤ s.feeds.toList.length

instance (s : Server) (rq : ClientRQCl) : Decidable (s.Admits rq) :=
  inferInstanceAs (Decidable (_ ∧ _))

/-- The record that a subscription to the feed `n` takes for the one of the feed is inside the
storage of the feeds, and its pointer to a group is `NULL` or points to one. -/
def ReadsGroup (env : Env) (s : Server) (n : ℕ) : Prop :=
  ∃ feed, s.feeds.slot env.junkFeed n = some feed ∧
    ∀ ptr, feed.notif = some ptr → ∃ infos, s.suscribe.toCArray.deref ptr = some infos

/-- **The requests that are refused.** -/
def Rejects (env : Env) (s : Server) : ClientRQ → Prop
  | .rg _ => USER_MAX ≤ s.users.toList.length
  | .cl type htype rq => ¬s.Admits rq ∨
      (type = NEWPOST ∧ rq.feedNumber = 0 ∧ FEED_NB_MAX ≤ s.feeds.toList.length) ∨
      s.NewFeedFails env (.cl type htype rq) ∨
      (type = SUBSCRIBE ∧ rq.feedNumber = 0) ∨
      (type = DOWNLOAD ∧ (askedPath rq).length < MAX_DATALEN ∧ env.openRead (askedPath rq) = false)

/-- **The requests that are not handled inside the memory**: a registration for which the values of
`random` give no new identifier, a post for feed number 65536, an answer of more than 7 posts, a
subscription whose record or group does not exist, and a download of a path that is too long. -/
def LeavesMemory (env : Env) (s : Server) : ClientRQ → Prop
  | .rg _ => s.users.toList.length < USER_MAX ∧
      ∀ x ∈ env.random, s.existId (UInt16.ofNat x % UInt16.ofNat ID_MAX + 1) = true
  | .cl type htype rq => s.Admits rq ∧
      ((type = NEWPOST ∧ rq.feedNumber = 0 ∧ s.feeds.toList.length = 65535 ∧
          ¬s.NewFeedFails env (.cl type htype rq)) ∨
        (type = LASTPOSTS ∧ 7 < s.selectedCount rq) ∨
        (type = SUBSCRIBE ∧ rq.feedNumber ≠ 0 ∧ ¬s.ReadsGroup env rq.feedNumber.toNat) ∨
        (type = DOWNLOAD ∧ MAX_DATALEN ≤ (askedPath rq).length))

variable {env : Env} {s : Server} {a : CArray ServerRQ}

/-- `d_errno` does not matter. -/
lemma rejects_dErrno_iff {rq : ClientRQ} :
    ({ s with dErrno := NOERROR } : Server).Rejects env rq ↔ s.Rejects env rq := by
  cases rq <;> exact Iff.rfl

lemma leavesMemory_dErrno_iff {rq : ClientRQ} :
    ({ s with dErrno := NOERROR } : Server).LeavesMemory env rq ↔ s.LeavesMemory env rq := by
  cases rq <;> exact Iff.rfl

/-! ### The handlers -/

/-- The body of an entry that `send_server_request` reads for a type. -/
def BodyFits (type : UInt8) (body : ServerBody) : Prop :=
  (isPlain type = true ∧ ∃ cl, body = .cl cl) ∨ (type = SUBSCRIBE ∧ ∃ sb, body = .sb sb)

/-- **What a handler returns**, apart from `last_posts_request`, by whether it rejects the request
and whether it leaves its memory. -/
inductive HandlerResult (a : CArray ServerRQ) (type : UInt8) (rejects leaves : Prop) :
    Option Handled → Prop
  | rejected {h : Handled} (hrejects : rejects) (hleaves : ¬leaves) (hcode : h.code ≠ 0) :
      HandlerResult a type rejects leaves (some h)
  | left (hrejects : ¬rejects) (hleaves : leaves) : HandlerResult a type rejects leaves none
  | accepted {s' : Server} {e : ServerRQ} (hrejects : ¬rejects) (hleaves : ¬leaves)
      (hbody : BodyFits type e.body) :
      HandlerResult a type rejects leaves (some ⟨0, s', a.append e⟩)

/-- A request that is not refused is handled with the code 0. -/
lemma HandlerResult.code_eq_zero {type : UInt8} {rejects leaves : Prop} {h : Handled}
    (hresult : HandlerResult a type rejects leaves (some h)) (hnot : ¬rejects) : h.code = 0 := by
  cases hresult with
  | rejected hrejects => exact absurd hrejects hnot
  | accepted => rfl

/-- A request that is handled with the code 0 is not refused, and does not leave the memory. -/
lemma HandlerResult.accepts {type : UInt8} {rejects leaves : Prop} {h : Handled}
    (hresult : HandlerResult a type rejects leaves (some h)) (hcode : h.code = 0) :
    ¬rejects ∧ ¬leaves := by
  cases hresult with
  | rejected hrejects hleaves hne => exact absurd hcode hne
  | accepted hrejects hleaves => exact ⟨hrejects, hleaves⟩

/-- The values of `random` give no new identifier. -/
lemma generateNewId_eq_none {xs : List ℕ} : s.generateNewId xs = none ↔
    ∀ x ∈ xs, s.existId (UInt16.ofNat x % UInt16.ofNat ID_MAX + 1) = true := by
  induction xs with
  | nil => simp [generateNewId]
  | cons x xs ih =>
      rw [generateNewId, List.forall_mem_cons, ← ih]
      by_cases hexist : s.existId (UInt16.ofNat x % UInt16.ofNat ID_MAX + 1) = true
      · simp only [hexist, if_true, true_and]
      · simp only [hexist, if_false, false_and, reduceCtorEq, Bool.false_eq_true]

lemma registrationRequest_result (rq : ClientRQRg) :
    HandlerResult a REGISTRATION (s.Rejects env (.rg rq)) (s.LeavesMemory env (.rg rq))
      (s.registrationRequest env a rq) := by
  rw [registrationRequest, getNbUser, FullArray.length_eq]
  by_cases hmax : USER_MAX ≤ s.users.toList.length
  · rw [if_pos hmax]
    exact .rejected hmax (fun h => absurd hmax (not_le.mpr h.1)) (show (1 : UInt8) ≠ 0 by decide)
  · rw [if_neg hmax]
    cases hid : s.generateNewId env.random with
    | none => exact .left hmax ⟨not_le.mp hmax, generateNewId_eq_none.mp hid⟩
    | some id =>
        refine .accepted hmax (fun h => ?_) (.inl ⟨rfl, _, rfl⟩)
        rw [generateNewId_eq_none.mpr h.2] at hid
        cases hid

/-- The result of a handler on a request whose user is unknown or whose feed does not exist. -/
lemma HandlerResult.of_not_admits {type : UInt8} {htype : type ≠ REGISTRATION} {rq : ClientRQCl}
    (h : ¬s.Admits rq) (err : UInt16) : HandlerResult a type (s.Rejects env (.cl type htype rq))
      (s.LeavesMemory env (.cl type htype rq)) (some (s.fail a err)) :=
  .rejected (.inl h) (fun hleaves => h hleaves.1) (show (1 : UInt8) ≠ 0 by decide)

/-- A post on a feed that exists. -/
lemma postNew_of_le (env : Env) {n : UInt16} (hn : n ≠ 0) (hle : n.toNat ≤ s.feeds.toList.length)
    (pseudo : Pseudo) (datalen : UInt8) (data : ℕ → UInt8) :
    ∃ s', s.postNew env pseudo datalen data n.toNat = some s' := by
  have hpos : n.toNat ≠ 0 := fun h => hn (UInt16.toNat_inj.mp h)
  have hfeed := List.getElem?_eq_getElem (show n.toNat - 1 < s.feeds.toList.length by omega)
  have hnum : n.toNat - 1 + 1 = n.toNat := by omega
  have hpost : s.postNew env pseudo datalen data (n.toNat - 1 + 1) = _ := postNew_eq hfeed
  rw [hnum] at hpost
  exact ⟨_, hpost⟩

/-- A post on a feed that has just been made: its number is not 65536. -/
lemma postNew_new (env : Env) (hlt : s.feeds.toList.length < FEED_NB_MAX) (feed : Feed)
    (pseudo : Pseudo) (datalen : UInt8) (data : ℕ → UInt8) :
    (s.appendFeed feed).postNew env pseudo datalen data
        (UInt16.ofNat s.feeds.toList.length + 1).toNat = none ↔
      s.feeds.toList.length = 65535 := by
  have hnum : (UInt16.ofNat s.feeds.toList.length + 1).toNat =
      (s.feeds.toList.length + 1) % 65536 := by
    rw [UInt16.toNat_add, UInt16.toNat_ofNat']
    change (s.feeds.toList.length % 65536 + 1) % 65536 = _
    omega
  rw [FEED_NB_MAX] at hlt
  by_cases hfull : s.feeds.toList.length = 65535
  · have hlength : (s.appendFeed feed).feeds.length = 65536 := by
      rw [FullArray.length_eq, appendFeed, FullArray.toList_append, List.length_append, hfull]
      rfl
    have hget : (s.appendFeed feed).feeds.get (sizeSub 0 1) = none := by
      have hlength' : (s.appendFeed feed).feeds.toCArray.length = 65536 := hlength
      rw [FullArray.get, CArray.get, hlength', if_pos (by decide)]
    rw [hnum, hfull]
    refine ⟨fun _ => rfl, fun _ => ?_⟩
    rw [postNew, hget]
    rfl
  · rw [hnum, Nat.mod_eq_of_lt (by omega), postNew_appendFeed]
    exact ⟨fun h => absurd h (Option.some_ne_none _), fun h => absurd h hfull⟩

lemma rejects_newpost_iff {rq : ClientRQCl} :
    s.Rejects env (.cl NEWPOST newpost_ne rq) ↔ ¬s.Admits rq ∨
      (rq.feedNumber = 0 ∧ FEED_NB_MAX ≤ s.feeds.toList.length) ∨
        s.NewFeedFails env (.cl NEWPOST newpost_ne rq) := by
  simp [Rejects, NEWPOST, SUBSCRIBE, DOWNLOAD]

lemma leavesMemory_newpost_iff {rq : ClientRQCl} :
    s.LeavesMemory env (.cl NEWPOST newpost_ne rq) ↔ s.Admits rq ∧ rq.feedNumber = 0 ∧
      s.feeds.toList.length = 65535 ∧ ¬s.NewFeedFails env (.cl NEWPOST newpost_ne rq) := by
  simp [LeavesMemory, NEWPOST, LASTPOSTS, SUBSCRIBE, DOWNLOAD]

/-- A post on a new feed. -/
lemma postRequest_new {rq : ClientRQCl} (hadmits : s.Admits rq) (hnew : rq.feedNumber = 0)
    (hlt : s.feeds.toList.length < FEED_NB_MAX) :
    HandlerResult a NEWPOST (s.Rejects env (.cl NEWPOST newpost_ne rq))
      (s.LeavesMemory env (.cl NEWPOST newpost_ne rq)) (s.postRequest env a rq) := by
  obtain ⟨pseudo, hpseudo⟩ := Option.isSome_iff_exists.mp hadmits.1
  have hfails : s.NewFeedFails env (.cl NEWPOST newpost_ne rq) ↔
      (s.feedNew env pseudo).1 ≠ 0 := by
    rw [feedNew_fst]
    exact ⟨fun h => h.2.2.2.2, fun h => ⟨rfl, hnew, hadmits.1, hlt, h⟩⟩
  rw [postRequest, getFeedsCount, FullArray.length_eq,
    if_neg (fun h => absurd h.1 (not_le.mpr hlt)), if_neg (not_lt.mpr hadmits.2), hpseudo]
  simp only [hnew, if_true]
  by_cases herr : (s.feedNew env pseudo).1 = 0
  · have hnot : ¬s.Rejects env (.cl NEWPOST newpost_ne rq) := fun h => by
      obtain h | ⟨-, h⟩ | h := rejects_newpost_iff.mp h
      · exact h hadmits
      · exact absurd h (not_le.mpr hlt)
      · exact hfails.mp h herr
    have hpost := postNew_new env hlt (localFeed env pseudo) pseudo rq.datalen rq.data
    rw [if_neg (not_not.mpr herr), feedNew_snd]
    cases hs' : (s.appendFeed (localFeed env pseudo)).postNew env pseudo rq.datalen rq.data
        (UInt16.ofNat s.feeds.toList.length + 1).toNat with
    | none =>
        exact .left hnot (leavesMemory_newpost_iff.mpr ⟨hadmits, hnew, hpost.mp hs', fun h =>
          hfails.mp h herr⟩)
    | some s' =>
        refine .accepted hnot (fun h => ?_) (.inl ⟨rfl, _, rfl⟩)
        rw [hpost.mpr (leavesMemory_newpost_iff.mp h).2.2.1] at hs'
        cases hs'
  · rw [if_pos herr]
    exact .rejected (rejects_newpost_iff.mpr (.inr (.inr (hfails.mpr herr))))
      (fun h => (leavesMemory_newpost_iff.mp h).2.2.2 (hfails.mpr herr))
      (show (1 : UInt8) ≠ 0 by decide)

/-- A post on a feed that exists. -/
lemma postRequest_old {rq : ClientRQCl} (hadmits : s.Admits rq) (hne : rq.feedNumber ≠ 0) :
    HandlerResult a NEWPOST (s.Rejects env (.cl NEWPOST newpost_ne rq))
      (s.LeavesMemory env (.cl NEWPOST newpost_ne rq)) (s.postRequest env a rq) := by
  obtain ⟨pseudo, hpseudo⟩ := Option.isSome_iff_exists.mp hadmits.1
  obtain ⟨s', hs'⟩ := postNew_of_le env hne hadmits.2 pseudo rq.datalen rq.data
  rw [postRequest, getFeedsCount, FullArray.length_eq, if_neg (fun h => hne h.2),
    if_neg (not_lt.mpr hadmits.2), hpseudo]
  simp only [hne, if_false, ne_eq, not_true_eq_false, hs', Option.map_some]
  refine .accepted (fun h => ?_) (fun h => hne (leavesMemory_newpost_iff.mp h).2.1)
    (.inl ⟨rfl, _, rfl⟩)
  obtain h | ⟨h, -⟩ | h := rejects_newpost_iff.mp h
  · exact h hadmits
  · exact hne h
  · exact hne h.2.1

lemma postRequest_result (rq : ClientRQCl) :
    HandlerResult a NEWPOST (s.Rejects env (.cl NEWPOST newpost_ne rq))
      (s.LeavesMemory env (.cl NEWPOST newpost_ne rq)) (s.postRequest env a rq) := by
  by_cases hmax : s.feeds.toList.length ≥ FEED_NB_MAX ∧ rq.feedNumber = 0
  · rw [postRequest, getFeedsCount, FullArray.length_eq, if_pos hmax]
    refine .rejected (rejects_newpost_iff.mpr (.inr (.inl ⟨hmax.2, hmax.1⟩))) (fun h => ?_)
      (show (1 : UInt8) ≠ 0 by decide)
    have hle := hmax.1
    rw [(leavesMemory_newpost_iff.mp h).2.2.1] at hle
    exact absurd hle (by decide)
  · by_cases hadmits : s.Admits rq
    · by_cases hnew : rq.feedNumber = 0
      · exact postRequest_new hadmits hnew (not_le.mp fun h => hmax ⟨h, hnew⟩)
      · exact postRequest_old hadmits hnew
    · rw [postRequest, getFeedsCount, FullArray.length_eq, if_neg hmax]
      by_cases hnb : rq.feedNumber.toNat > s.feeds.toList.length
      · rw [if_pos hnb]
        exact .of_not_admits hadmits _
      · rw [if_neg hnb]
        cases hid : s.getPseudo (getId rq.header) with
        | none => exact .of_not_admits hadmits _
        | some pseudo => exact absurd ⟨by rw [hid]; rfl, not_lt.mp hnb⟩ hadmits

lemma admits_iff {rq : ClientRQCl} : s.Admits rq ↔
    ¬(s.getPseudo (getId rq.header)).isNone ∧ ¬rq.feedNumber.toNat > s.feeds.toList.length := by
  rw [Admits, not_lt, Option.isSome_iff_ne_none, ne_eq, Option.isNone_iff_eq_none]

/-- The result of a handler behind the checks of the user and of the feed. -/
lemma HandlerResult.of_checks {type : UInt8} {htype : type ≠ REGISTRATION} {rq : ClientRQCl}
    {r : Option Handled} (err err' : UInt16)
    (h : s.Admits rq → HandlerResult a type (s.Rejects env (.cl type htype rq))
      (s.LeavesMemory env (.cl type htype rq)) r) :
    HandlerResult a type (s.Rejects env (.cl type htype rq))
      (s.LeavesMemory env (.cl type htype rq))
      (if (s.getPseudo (getId rq.header)).isNone then some (s.fail a err)
      else if rq.feedNumber.toNat > s.feeds.toList.length then some (s.fail a err') else r) := by
  by_cases hid : (s.getPseudo (getId rq.header)).isNone
  · rw [if_pos hid]
    exact .of_not_admits (fun hadmits => (admits_iff.mp hadmits).1 hid) _
  · rw [if_neg hid]
    by_cases hnb : rq.feedNumber.toNat > s.feeds.toList.length
    · rw [if_pos hnb]
      exact .of_not_admits (fun hadmits => (admits_iff.mp hadmits).2 hnb) _
    · rw [if_neg hnb]
      exact h (admits_iff.mpr ⟨hid, hnb⟩)

lemma prepareUploadRequest_result (hwf : s.transferFiles.Wf) (rq : ClientRQCl) :
    HandlerResult a UPLOAD (s.Rejects env (.cl UPLOAD upload_ne rq))
      (s.LeavesMemory env (.cl UPLOAD upload_ne rq)) (s.prepareUploadRequest env a rq) := by
  have hleaves : ¬s.LeavesMemory env (.cl UPLOAD upload_ne rq) := by
    simp [LeavesMemory, UPLOAD, NEWPOST, LASTPOSTS, SUBSCRIBE, DOWNLOAD]
  have hrejects : s.Rejects env (.cl UPLOAD upload_ne rq) ↔ ¬s.Admits rq := by
    simp [Rejects, NewFeedFails, UPLOAD, NEWPOST, SUBSCRIBE, DOWNLOAD]
  obtain ⟨s', hs', -⟩ :=
    transferNew_eq hwf env (getId rq.header) rq.feedNumber rq.data
  rw [prepareUploadRequest, getFeedsCount, FullArray.length_eq]
  refine .of_checks _ _ fun hadmits => ?_
  simp only [hs', Option.map_some]
  exact .accepted (fun h => hrejects.mp h hadmits) hleaves (.inl ⟨rfl, _, rfl⟩)

/-- `file_exist` on the name that has been copied to the stack. -/
lemma fileExist_askedPath {rq : ClientRQCl}
    (hlt : (cString rq.data MAX_DATALEN).length < MAX_DATALEN) :
    fileExist env (write env.junk 0 (cString rq.data MAX_DATALEN ++ [0])) rq.feedNumber =
      if (askedPath rq).length < MAX_DATALEN then
        some (if env.openRead (askedPath rq) then (true, downloadPath env rq)
          else (false, write env.junk 0 (cString rq.data MAX_DATALEN ++ [0])))
      else none := by
  have hname : cString (write env.junk 0 (cString rq.data MAX_DATALEN ++ [0])) MAX_DATALEN =
      cString rq.data MAX_DATALEN :=
    cString_write env.junk (zero_notMem_cString rq.data MAX_DATALEN) hlt
  simp only [fileExist, hname, askedPath, downloadPath]

lemma rejects_download_iff {htype : DOWNLOAD ≠ REGISTRATION} {rq : ClientRQCl} :
    s.Rejects env (.cl DOWNLOAD htype rq) ↔ ¬s.Admits rq ∨
      (askedPath rq).length < MAX_DATALEN ∧ env.openRead (askedPath rq) = false := by
  simp [Rejects, NewFeedFails, NEWPOST, SUBSCRIBE, DOWNLOAD]

lemma leavesMemory_download_iff {htype : DOWNLOAD ≠ REGISTRATION} {rq : ClientRQCl} :
    s.LeavesMemory env (.cl DOWNLOAD htype rq) ↔
      s.Admits rq ∧ MAX_DATALEN ≤ (askedPath rq).length := by
  simp [LeavesMemory, NEWPOST, LASTPOSTS, SUBSCRIBE, DOWNLOAD]

/-- The path of a download that is accepted is short. -/
lemma length_askedPath_of_accepts {htype : DOWNLOAD ≠ REGISTRATION} {rq : ClientRQCl}
    (hrejects : ¬s.Rejects env (.cl DOWNLOAD htype rq))
    (hleaves : ¬s.LeavesMemory env (.cl DOWNLOAD htype rq)) :
    (askedPath rq).length < MAX_DATALEN := by
  rw [rejects_download_iff, not_or, not_not] at hrejects
  rw [leavesMemory_download_iff, not_and, not_le] at hleaves
  exact hleaves hrejects.1

lemma prepareDownloadRequest_result (hwf : s.transferFiles.Wf) {htype : DOWNLOAD ≠ REGISTRATION}
    (rq : ClientRQCl) :
    HandlerResult a DOWNLOAD (s.Rejects env (.cl DOWNLOAD htype rq))
      (s.LeavesMemory env (.cl DOWNLOAD htype rq)) (s.prepareDownloadRequest env a rq) := by
  obtain ⟨s', hs', -⟩ := transferNew_eq hwf env (getId rq.header) rq.feedNumber
    (downloadPath env rq)
  have hle : (cString rq.data MAX_DATALEN).length ≤ (askedPath rq).length := by
    rw [askedPath, List.length_append]
    exact Nat.le_add_left _ _
  rw [prepareDownloadRequest, getFeedsCount, FullArray.length_eq]
  refine .of_checks _ _ fun hadmits => ?_
  by_cases hlong : MAX_DATALEN ≤ (askedPath rq).length
  · have hnot : ¬s.Rejects env (.cl DOWNLOAD htype rq) := fun h => by
      obtain h | ⟨h, -⟩ := rejects_download_iff.mp h
      · exact h hadmits
      · exact absurd hlong (not_le.mpr h)
    have hnone : HandlerResult a DOWNLOAD (s.Rejects env (.cl DOWNLOAD htype rq))
        (s.LeavesMemory env (.cl DOWNLOAD htype rq)) none :=
      .left hnot (leavesMemory_download_iff.mpr ⟨hadmits, hlong⟩)
    by_cases hname : (cString rq.data MAX_DATALEN).length < MAX_DATALEN
    · simp only [if_pos hname, fileExist_askedPath hname, if_neg (not_lt.mpr hlong)]
      exact hnone
    · simp only [if_neg hname]
      exact hnone
  · have hshort := not_le.mp hlong
    have hname := lt_of_le_of_lt hle hshort
    have hnot : ¬s.LeavesMemory env (.cl DOWNLOAD htype rq) := fun h =>
      hlong (leavesMemory_download_iff.mp h).2
    simp only [if_pos hname, fileExist_askedPath hname, if_pos hshort, Option.bind_eq_bind,
      Option.bind_some]
    cases hopen : env.openRead (askedPath rq) with
    | false =>
        exact .rejected (rejects_download_iff.mpr (.inr ⟨hshort, hopen⟩)) hnot
          (show (1 : UInt8) ≠ 0 by decide)
    | true =>
        simp only [if_true, hs', Option.bind_some]
        refine .accepted (fun h => ?_) hnot (.inl ⟨rfl, _, rfl⟩)
        obtain h | ⟨-, h⟩ := rejects_download_iff.mp h
        · exact h hadmits
        · rw [hopen] at h
          cases h

/-- A new group, for a feed without one. -/
lemma exists_notifNew (env : Env) {n : ℕ} {feed : Feed} (hn : n ≤ s.feeds.toList.length)
    (hfeed : s.feeds.slot env.junkFeed n = some feed) (mult : Mult) :
    ∃ s', s.notifNew env n mult = some s' ∧ s'.feedMult env n = some mult := by
  have hget : s.feeds.get n = some n := FullArray.get_eq_some hn
  have hslots : n < s.feeds.toCArray.slots.length := by
    obtain ⟨x, hx, -⟩ := Option.map_eq_some_iff.mp hfeed
    exact (List.getElem?_eq_some_iff.mp hx).1
  have hwrite : ∀ feed', (s.feeds.write n feed').slot env.junkFeed n = some feed' := by
    intro feed'
    show ((s.feeds.toCArray.slots.set n (some feed'))[n]?).map _ = _
    rw [List.getElem?_set_self hslots]
    rfl
  obtain ⟨ptr, hptr⟩ : ∃ ptr, ptr = (s.suscribe.append ⟨n, 0, mult⟩).toCArray.addr
      ((s.suscribe.append ⟨n, 0, mult⟩).length - 1) := ⟨_, rfl⟩
  have hnew : (s.suscribe.append ⟨n, 0, mult⟩).toCArray.deref ptr = some ⟨n, 0, mult⟩ := by
    rw [hptr]
    refine FullArray.deref_addr ?_
    rw [FullArray.length_eq, FullArray.toList_append, List.length_append, List.length_singleton,
      Nat.add_sub_cancel, List.getElem?_concat_length]
  refine ⟨{ s with
    suscribe := s.suscribe.append ⟨n, 0, mult⟩
    feeds := s.feeds.write n { feed with notif := some ptr } }, ?_, ?_⟩
  · simp only [notifNew, feedRecord, getFeeds, hget, hfeed, hptr, Option.bind_eq_bind,
      Option.bind_some]
  · simp only [feedMult, hwrite, hnew, Option.bind_eq_bind, Option.bind_some]

lemma subscriptionsRequest_result (rq : ClientRQCl) :
    HandlerResult a SUBSCRIBE (s.Rejects env (.cl SUBSCRIBE subscribe_ne rq))
      (s.LeavesMemory env (.cl SUBSCRIBE subscribe_ne rq)) (s.subscriptionsRequest env a rq) := by
  have hleaves : s.LeavesMemory env (.cl SUBSCRIBE subscribe_ne rq) ↔ s.Admits rq ∧
      rq.feedNumber ≠ 0 ∧ ¬s.ReadsGroup env rq.feedNumber.toNat := by
    simp [LeavesMemory, NEWPOST, LASTPOSTS, SUBSCRIBE, DOWNLOAD]
  have hrejects : s.Rejects env (.cl SUBSCRIBE subscribe_ne rq) ↔ ¬s.Admits rq ∨
      rq.feedNumber = 0 := by
    simp [Rejects, NewFeedFails, NEWPOST, SUBSCRIBE, DOWNLOAD]
  rw [subscriptionsRequest, getFeedsCount, FullArray.length_eq]
  by_cases hid : (s.getPseudo (getId rq.header)).isNone
  · rw [if_pos hid]
    exact .of_not_admits (fun hadmits => (admits_iff.mp hadmits).1 hid) _
  · rw [if_neg hid]
    by_cases hnb : rq.feedNumber.toNat > s.feeds.toList.length ∨ rq.feedNumber = 0
    · rw [if_pos hnb]
      refine .rejected (hrejects.mpr (hnb.imp_left fun h hadmits => ?_)) (fun h => ?_)
        (show (1 : UInt8) ≠ 0 by decide)
      · exact absurd hadmits.2 (not_le.mpr h)
      · obtain ⟨hadmits, hne, -⟩ := hleaves.mp h
        exact hnb.elim (fun h => absurd hadmits.2 (not_le.mpr h)) hne
    · rw [if_neg hnb]
      rw [not_or, not_lt] at hnb
      have hadmits : s.Admits rq := ⟨Option.isSome_iff_ne_none.mpr (by simpa using hid), hnb.1⟩
      have hnot : ¬s.Rejects env (.cl SUBSCRIBE subscribe_ne rq) := fun h =>
        (hrejects.mp h).elim (fun h => h hadmits) hnb.2
      have hreads : s.ReadsGroup env rq.feedNumber.toNat → ¬s.LeavesMemory env
          (.cl SUBSCRIBE subscribe_ne rq) := fun h hl => (hleaves.mp hl).2.2 h
      have hget : s.feeds.get rq.feedNumber.toNat = some rq.feedNumber.toNat :=
        FullArray.get_eq_some hnb.1
      simp only [feedRecord, getFeeds, hget, Option.bind_eq_bind, Option.bind_some]
      cases hfeed : s.feeds.slot env.junkFeed rq.feedNumber.toNat with
      | none =>
          refine .left hnot (hleaves.mpr ⟨hadmits, hnb.2, ?_⟩)
          rintro ⟨feed, h, -⟩
          rw [hfeed] at h
          cases h
      | some feed =>
          cases hnotif : feed.notif with
          | none =>
              obtain ⟨s', hs', hmult⟩ := exists_notifNew env hnb.1 hfeed (s.setMult env)
              simp only [Option.bind_some, hnotif, Option.isNone_none, if_true, hs', hmult]
              refine .accepted hnot (hreads ⟨feed, hfeed, fun ptr h => ?_⟩) (.inr ⟨rfl, _, rfl⟩)
              rw [hnotif] at h
              cases h
          | some ptr =>
              simp only [Option.bind_some, hnotif, Option.isNone_some, if_false, feedMult, hfeed,
                Option.bind_eq_bind, Bool.false_eq_true]
              cases hptr : s.suscribe.toCArray.deref ptr with
              | none =>
                  refine .left hnot (hleaves.mpr ⟨hadmits, hnb.2, ?_⟩)
                  rintro ⟨feed', h, hvalid⟩
                  obtain rfl := Option.some.inj (hfeed.symm.trans h)
                  obtain ⟨infos, hinfos⟩ := hvalid ptr hnotif
                  rw [hptr] at hinfos
                  cases hinfos
              | some infos =>
                  refine .accepted hnot (hreads ⟨feed, hfeed, fun ptr' h => ?_⟩)
                    (.inr ⟨rfl, _, rfl⟩)
                  obtain rfl := Option.some.inj (hnotif.symm.trans h)
                  exact ⟨infos, hptr⟩

/-- A `LASTPOSTS` request that is not refused is the only one whose handler says nothing of the
answer. -/
def ListsPosts (s : Server) : ClientRQ → Prop
  | .rg _ => False
  | .cl type _ rq => type = LASTPOSTS ∧ s.Admits rq

lemma rejects_lastPosts_iff {htype : LASTPOSTS ≠ REGISTRATION} {rq : ClientRQCl} :
    s.Rejects env (.cl LASTPOSTS htype rq) ↔ ¬s.Admits rq := by
  simp [Rejects, NewFeedFails, NEWPOST, LASTPOSTS, SUBSCRIBE, DOWNLOAD]

lemma leavesMemory_lastPosts_iff {htype : LASTPOSTS ≠ REGISTRATION} {rq : ClientRQCl} :
    s.LeavesMemory env (.cl LASTPOSTS htype rq) ↔ s.Admits rq ∧ 7 < s.selectedCount rq := by
  simp [LeavesMemory, NEWPOST, LASTPOSTS, SUBSCRIBE, DOWNLOAD]

lemma lastPostsRequest_result {htype : LASTPOSTS ≠ REGISTRATION} {rq : ClientRQCl}
    (h : ¬s.Admits rq) :
    HandlerResult a LASTPOSTS (s.Rejects env (.cl LASTPOSTS htype rq))
      (s.LeavesMemory env (.cl LASTPOSTS htype rq)) (s.lastPostsRequest env a rq) := by
  rw [lastPostsRequest, getFeedsCount, FullArray.length_eq]
  exact .of_checks _ _ fun hadmits => absurd hadmits h

/-- Posts that are asked for are not refused. -/
lemma not_listsPosts_of_rejects {rq : ClientRQ} (h : s.Rejects env rq) : ¬s.ListsPosts rq := by
  cases rq with
  | rg rq => exact id
  | cl type htype rq =>
      rintro ⟨rfl, hadmits⟩
      exact rejects_lastPosts_iff.mp h hadmits

/-- The six handlers. -/
lemma requests_result (hwf : s.transferFiles.Wf) {rq : ClientRQ} (hrq : InTable rq.type)
    (hlists : ¬s.ListsPosts rq) : HandlerResult a rq.type (s.Rejects env rq)
      (s.LeavesMemory env rq) (s.requests env a rq) := by
  cases rq with
  | rg rq => exact registrationRequest_result rq
  | cl type htype rq =>
      have hmem : type ∈ requestTypes := List.mem_of_getElem? (getElem?_requestTypes hrq)
      have htypes : type = REGISTRATION ∨ type = NEWPOST ∨ type = LASTPOSTS ∨ type = SUBSCRIBE ∨
          type = UPLOAD ∨ type = DOWNLOAD := by
        simpa [requestTypes] using hmem
      obtain rfl | rfl | rfl | rfl | rfl | rfl := htypes
      · exact absurd rfl htype
      · exact postRequest_result rq
      · exact lastPostsRequest_result fun hadmits => hlists ⟨rfl, hadmits⟩
      · exact subscriptionsRequest_result rq
      · exact prepareUploadRequest_result hwf rq
      · exact prepareDownloadRequest_result hwf rq

/-! ### Requests that fail -/

/-- A handler that fails has refused the request. -/
lemma rejects_of_code_ne_zero (hwf : s.transferFiles.Wf) {rq : ClientRQ} (hrq : InTable rq.type)
    {h : Handled} (hr : s.requests env (.arrayNew ServerRQ 0) rq = some h) (hcode : h.code ≠ 0) :
    s.Rejects env rq := by
  by_contra hnot
  by_cases hlists : s.ListsPosts rq
  · cases rq with
    | rg rq => exact hlists
    | cl type htype rq =>
        obtain ⟨rfl, hid, hnb⟩ := hlists
        obtain ⟨a', heq, -⟩ := lastPostsRequest_eq env hid hnb
        change s.lastPostsRequest env (.arrayNew ServerRQ 0) rq = some h at hr
        cases hr.symm.trans heq
        exact hcode rfl
  · have hresult : HandlerResult (.arrayNew ServerRQ 0) rq.type (s.Rejects env rq)
      (s.LeavesMemory env rq) (some h) := hr ▸ requests_result hwf hrq hlists
    exact hcode (hresult.code_eq_zero hnot)

/-- **A request that fails changes nothing and is answered with an error**, whatever its type,
exactly when it is not a post for a new feed that has passed all checks when the directory of the
feed can be neither found nor made, and `errno` is not `ENOMEM` when it is refused.  The server
never resets `errno`, so that any earlier call of its thread may have left it there. -/
theorem fails_cleanly_iff {w : World} {ts : List ServerTransition}
    (hrun : Machine.Run step World.init ts w) (env : Env) {rq : ClientRQ} (hrq : InTable rq.type) :
    (∀ h, requests env { w.server with dErrno := NOERROR } (.arrayNew ServerRQ 0) rq = some h →
      h.code ≠ 0 → w.server.FailsCleanly env rq h) ↔
    ¬w.server.NewFeedFails env rq ∧ (w.server.Rejects env rq → env.enomem = false) := by
  have hwf : ({ w.server with dErrno := NOERROR } : Server).transferFiles.Wf := run_wf hrun
  constructor
  · refine fun hclean => ⟨fun hfails => ?_, fun hrejects => Bool.eq_false_iff.mpr fun henomem => ?_⟩
    · obtain ⟨creator, hpost⟩ := requests_newFeedFails (newFeedFails_dErrno_iff.mpr hfails)
      have hfeeds := (hclean _ hpost (show (1 : UInt8) ≠ 0 by decide)).feeds_eq
      have hlength := congrArg (fun feeds : FullArray Feed => feeds.toList.length) hfeeds
      simp [appendFeed] at hlength
    · have hresult : HandlerResult (.arrayNew ServerRQ 0) rq.type _ _
          (requests env { w.server with dErrno := NOERROR } (.arrayNew ServerRQ 0) rq) :=
        requests_result hwf hrq (not_listsPosts_of_rejects (rejects_dErrno_iff.mpr hrejects))
      generalize hr : requests env { w.server with dErrno := NOERROR } (.arrayNew ServerRQ 0) rq =
        r at hresult
      cases hresult with
      | left hnot => exact hnot (rejects_dErrno_iff.mpr hrejects)
      | accepted hnot => exact hnot (rejects_dErrno_iff.mpr hrejects)
      | @rejected h _ _ hcode =>
          -- `handle_tcp_request` returns 1 without an answer
          obtain ⟨s', ans, e, hconn, -, -, -, hzero, -⟩ := (hclean h hr hcode).answer
          obtain ⟨h', hr', ⟨hcode', -⟩ | ⟨-, -, -, rfl⟩ | ⟨-, -, hno, -⟩⟩ :=
            handleTcpConnection_cases hconn
          · obtain rfl := Option.some.inj (hr.symm.trans hr')
            exact hcode hcode'
          · exact absurd hzero (show (1 : UInt8) ≠ 0 by decide)
          · rw [henomem] at hno
            cases hno
  · rintro ⟨hnot, henomem⟩ h hr hcode
    obtain ⟨e, he, rfl⟩ | ⟨hfails, -⟩ := requests_fail hr hcode
    · refine failsCleanly_of_fail he (henomem ?_) hr
      exact rejects_dErrno_iff.mp (rejects_of_code_ne_zero hwf hrq hr hcode)
    · exact absurd (newFeedFails_dErrno_iff.mp hfails) hnot

namespace NoDirectory

/-- Outside, no directory is found, and none can be made. -/
def outside : Env := { Env.quiet [] with stat := fun _ => false, mkdir := fun _ => false }

/-- A post of user 1 on a new feed. -/
def post : ClientRQ := .cl NEWPOST newpost_ne ⟨mkHeader NEWPOST 1, 0, 0, 1, fun _ => 97⟩

lemma inTable_post : InTable post.type :=
  inTable_iff.mpr (show 1 ≤ NEWPOST.toNat ∧ NEWPOST.toNat ≤ 6 by decide)

/-- A user who is registered. -/
def register : Input := .tcp (.quiet [0]) (.rg ⟨0, .replicate PSEUDO_LEN 97⟩)

lemma exists_run : ∃ ts w, Machine.Run step World.init ts w ∧ ts.map (·.act) = [register] ∧
    w.server.feeds.toList.length = 0 ∧ w.server.NewFeedFails outside post :=
  ⟨_, _, .cons rfl (.nil _), rfl, rfl, rfl, rfl, rfl, by decide, rfl, rfl⟩

/-- The feed is there although the request has failed, and the answer has the type 0, which is not
sent. -/
theorem not_failsCleanly : ∃ ts w h, Machine.Run step World.init ts w ∧
    ts.map (·.act) = [register] ∧
    requests outside { w.server with dErrno := NOERROR } (.arrayNew ServerRQ 0) post = some h ∧
    h.code = 1 ∧ w.server.feeds.toList.length = 0 ∧ h.server.feeds.toList.length = 1 ∧
    (∃ s' ans e, w.server.handleTcpConnection outside post = some (s', ans) ∧ ans.entry 0 = some e ∧
      e.type = 0 ∧ isError e.type = false ∧
      (ans.send fun _ => true).map Prod.fst = some (1 : UInt8)) ∧
    ¬w.server.FailsCleanly outside post h := by
  refine ⟨_, _, _, .cons rfl (.nil _), rfl, rfl, rfl, rfl, rfl, ⟨_, _, _, rfl, rfl, rfl, rfl, rfl⟩,
    fun hclean => ?_⟩
  have hlength := congrArg (fun feeds : FullArray Feed => feeds.toList.length) hclean.feeds_eq
  exact absurd hlength (by decide)

/-- The post fails, but not cleanly. -/
theorem fails_cleanly_iff_post : ∃ ts w, Machine.Run step World.init ts w ∧ InTable post.type ∧
    w.server.NewFeedFails outside post ∧
    ((∀ h, requests outside { w.server with dErrno := NOERROR } (.arrayNew ServerRQ 0) post =
      some h → h.code ≠ 0 → w.server.FailsCleanly outside post h) ↔
        ¬w.server.NewFeedFails outside post ∧
          (w.server.Rejects outside post → outside.enomem = false)) := by
  obtain ⟨ts, w, hrun, -, -, hfails⟩ := exists_run
  exact ⟨ts, w, hrun, inTable_post, hfails, fails_cleanly_iff hrun outside inTable_post⟩

end NoDirectory

end Server

end Megaphone
