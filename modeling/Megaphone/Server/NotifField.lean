import Megaphone.Server.Subscriptions

/-!
The field `notif` of the feeds.

`feed_new` sets it only in its local variable, after that has been copied into `m_feeds`, and
`notif_new` sets it in `get_feeds(f)`, which is not the record of the feed `f`.

* `MeaningfulNotif`: what the field of a feed should hold after the subscriptions of a run.
* `MakesFeed`: the inputs that make a feed.
* `NotifEffect`, `step_notifs`: what a step does to the fields.
* `notif_meaningful_iff`: the fields are right in every state of a run exactly when it has no
  accepted subscription and every feed is made while uninitialised memory reads as `NULL`.
-/

namespace Megaphone

open Memory

/-- The field of the record `i`, that of the feed `i + 1`: it is `NULL` when no subscription to the
feed has been accepted, and otherwise it designates an entry of `m_suscribe` for the feed. -/
structure MeaningfulNotif (ts : List ServerTransition) (s : Server) (i : ℕ) : Prop where
  null : (∀ t ∈ ts, ∀ p, subscribed t ≠ some (i + 1, p)) → s.notifAt i = none
  entry : ∀ t ∈ ts, ∀ p, subscribed t = some (i + 1, p) →
    ∃ k info, s.notifAt i = some (s.suscribe.toCArray.addr k) ∧
      s.suscribe.toList[k]? = some info ∧ info.nbfeed = i + 1

/-- The fields of all the feeds. -/
def MeaningfulNotifs (ts : List ServerTransition) (s : Server) : Prop :=
  ∀ i < s.feeds.toList.length, MeaningfulNotif ts s i

/-- The value of the uninitialised field in the local variable of `feed_new`. -/
def Input.junkNotif : Input → Option Ptr
  | .tcp env _ => env.junkNotif
  | .udp env _ => env.junkNotif
  | _ => none

namespace Server

/-- A post to the feed number 0 that is not refused. -/
def PostsNew (s : Server) (rq : ClientRQCl) : Prop :=
  rq.feedNumber = 0 ∧ s.feeds.toList.length < FEED_NB_MAX ∧
    (s.getPseudo (getId rq.header)).isSome

/-- A block that completes a transfer to the feed number 0. -/
def CompletesNew (s : Server) (id numblock : UInt16) (data : Block) (nbytes : ℕ) : Prop :=
  ∃ old infos, s.transferFiles.get id.toNat = some id.toNat ∧
    s.transferFiles.at? id.toNat = some old ∧ old.active = true ∧
    old.record numblock data nbytes = some infos ∧ infos.received = true ∧ infos.feedNumber = 0

/-- An input that makes a feed. -/
def MakesFeed (s : Server) : Input → Prop
  | .tcp _ (.cl type _ rq) => type = NEWPOST ∧ s.PostsNew rq
  | .udp env datagram => ∃ ft nbytes,
      recvDatagrams (ntohClientrqup env.junk) datagram = some (UPLOAD, ft, nbytes) ∧
        s.CompletesNew (getId ft.header) ft.numblock ft.data (sizeSub nbytes 4)
  | _ => False

/-- An input after which a field is wrong. -/
def SpoilsNotif (s : Server) (i : Input) : Prop :=
  s.Subscribes i ∨ (s.MakesFeed i ∧ i.junkNotif ≠ none)

/-! ### What a step does to the fields -/

/-- The feeds have the same fields. -/
structure SameNotifs (s s' : Server) : Prop where
  length_eq : s'.feeds.toList.length = s.feeds.toList.length
  notif_eq : ∀ j, s'.notifAt j = s.notifAt j

/-- There is one more feed, with the field `p`. -/
structure NewNotif (p : Option Ptr) (s s' : Server) : Prop where
  length_eq : s'.feeds.toList.length = s.feeds.toList.length + 1
  notif_eq : ∀ j, s'.notifAt j = if j = s.feeds.toList.length then p else s.notifAt j

variable {env : Env} {p : Option Ptr} {s s₁ s' : Server}

lemma SameNotifs.of_feeds_eq (h : s'.feeds = s.feeds) : SameNotifs s s' :=
  ⟨by rw [h], fun j => by rw [notifAt, h, notifAt]⟩

lemma SameStore.sameNotifs (h : SameStore s s') : SameNotifs s s' := .of_feeds_eq h.feeds_eq

lemma NewPost.sameNotifs (h : NewPost s s') : SameNotifs s s' := by
  refine ⟨?_, notifAt_newPost h⟩
  obtain ⟨i, feed, post, -, rfl⟩ := h
  simp [appendPost]

lemma NewFeed.newNotif (h : NewFeed env s s') : NewNotif env.junkNotif s s' := by
  refine ⟨?_, notifAt_newFeed h⟩
  obtain ⟨creator, rfl⟩ := h
  simp [appendFeed]

lemma SameNotifs.trans (h : SameNotifs s s₁) (h' : SameNotifs s₁ s') : SameNotifs s s' :=
  ⟨h'.length_eq.trans h.length_eq, fun j => (h'.notif_eq j).trans (h.notif_eq j)⟩

lemma NewNotif.trans (h : NewNotif p s s₁) (h' : SameNotifs s₁ s') : NewNotif p s s' :=
  ⟨h'.length_eq.trans h.length_eq, fun j => (h'.notif_eq j).trans (h.notif_eq j)⟩

lemma SameNotifs.newNotif (h : SameNotifs s s₁) (h' : NewNotif p s₁ s') : NewNotif p s s' := by
  refine ⟨by rw [h'.length_eq, h.length_eq], fun j => ?_⟩
  rw [h'.notif_eq, h.notif_eq, h.length_eq]

/-- `post_request` makes a feed for the posts of known users to the feed number 0. -/
lemma postRequest_notifs {a : CArray ServerRQ} {rq : ClientRQCl} {h : Handled}
    (hrq : s.postRequest env a rq = some h) :
    (¬s.PostsNew rq ∧ SameNotifs s h.server) ∨
      (s.PostsNew rq ∧ NewNotif env.junkNotif s h.server) := by
  obtain ⟨hmax, -, rfl⟩ | ⟨hlt, rfl⟩ | ⟨-, hid, rfl⟩ | ⟨pseudo, hid, hnew, hlt, -, rfl⟩ |
    ⟨pseudo, feedNumber, s₀, s', hid, -, hs₀, hs', rfl⟩ := postRequest_cases hrq
  · exact .inl ⟨fun hpost => absurd hpost.2.1 (not_lt.mpr hmax), .of_feeds_eq rfl⟩
  · refine .inl ⟨fun hpost => ?_, .of_feeds_eq rfl⟩
    rw [hpost.1] at hlt
    exact Nat.not_lt_zero _ hlt
  · refine .inl ⟨fun hpost => ?_, .of_feeds_eq rfl⟩
    have hsome := hpost.2.2
    rw [hid] at hsome
    cases hsome
  · exact .inr ⟨⟨hnew, hlt, by rw [hid]; rfl⟩, (newFeed_of_feedNew env s pseudo).newNotif⟩
  · have hpost := (newPost_of_postNew hs').sameNotifs
    obtain ⟨hnew, hlt, -, hfeed⟩ | ⟨hne, -, rfl⟩ := hs₀
    · have hnotif := (newFeed_of_feedNew env s pseudo).newNotif
      rw [hfeed] at hnotif
      exact .inr ⟨⟨hnew, hlt, by rw [hid]; rfl⟩, hnotif.trans hpost⟩
    · exact .inl ⟨fun hnew => hne hnew.1, hpost⟩

/-- The other requests, subscriptions apart, make none. -/
lemma requests_notifs {a : CArray ServerRQ} {type : UInt8} {htype : type ≠ REGISTRATION}
    {rq : ClientRQCl} {h : Handled} (hsub : type ≠ SUBSCRIBE)
    (hrq : s.requests env a (.cl type htype rq) = some h) :
    (¬(type = NEWPOST ∧ s.PostsNew rq) ∧ SameNotifs s h.server) ∨
      ((type = NEWPOST ∧ s.PostsNew rq) ∧ NewNotif env.junkNotif s h.server) := by
  cases requests_cases hrq with
  | post hrq =>
      obtain ⟨hnew, hs⟩ | ⟨hnew, hs⟩ := postRequest_notifs hrq
      · exact .inl ⟨fun hpost => hnew hpost.2, hs⟩
      · exact .inr ⟨⟨rfl, hnew⟩, hs⟩
  | lastPosts hrq =>
      exact .inl ⟨fun hpost => absurd hpost.1 (by decide),
        (lastPostsRequest_sameStore hrq).sameNotifs⟩
  | subscriptions hrq => exact absurd rfl hsub
  | prepareUpload hrq =>
      exact .inl ⟨fun hpost => absurd hpost.1 (by decide),
        (prepareUploadRequest_sameStore hrq).sameNotifs⟩
  | prepareDownload hrq =>
      exact .inl ⟨fun hpost => absurd hpost.1 (by decide),
        (prepareDownloadRequest_sameStore hrq).sameNotifs⟩

/-- The end of a transfer makes a feed when it is for the feed number 0. -/
lemma completeTransfer_notifs {id : UInt16} {i : ℕ} {infos : FileTransferInfos}
    {r : UInt8 × Server} (h : s.completeTransfer env id i infos = some r) :
    (infos.feedNumber ≠ 0 ∧ SameNotifs s r.2) ∨
      (infos.feedNumber = 0 ∧ NewNotif env.junkNotif s r.2) := by
  obtain ⟨pseudo, s₀, hs₀, hr⟩ := completeTransfer_cases h
  have hrest : SameNotifs s₀ r.2 := by
    obtain rfl | ⟨infos', _, _, _, s', w, -, -, hs', hw, hr⟩ := hr
    · exact .of_feeds_eq rfl
    · have hput : SameNotifs s₀ (s₀.putTransfer i infos') := .of_feeds_eq rfl
      have hwrite := (writeFile_sameStore hw).sameNotifs
      refine (hput.trans (newPost_of_postNew hs').sameNotifs).trans ?_
      obtain rfl | rfl := hr
      · exact hwrite
      · exact hwrite.trans (.of_feeds_eq rfl)
  obtain ⟨hne, rfl⟩ | ⟨hzero, rfl⟩ := hs₀
  · exact .inl ⟨hne, hrest⟩
  · exact .inr ⟨hzero, (newFeed_of_feedNew env s pseudo).newNotif.trans hrest⟩

lemma addPacket_notifs {id numblock : UInt16} {data : Block} {nbytes : ℕ} {r : UInt8 × Server}
    (h : s.addPacket env id numblock data nbytes = some r) :
    (¬s.CompletesNew id numblock data nbytes ∧ SameNotifs s r.2) ∨
      (s.CompletesNew id numblock data nbytes ∧ NewNotif env.junkNotif s r.2) := by
  cases hget : s.transferFiles.get id.toNat with
  | none =>
      rw [addPacket, hget] at h
      cases h
      refine .inl ⟨?_, .of_feeds_eq rfl⟩
      rintro ⟨old, infos, hget', -⟩
      rw [hget] at hget'
      cases hget'
  | some i =>
      obtain rfl := CArray.eq_of_get hget
      have hunique : ∀ {old infos : FileTransferInfos},
          s.transferFiles.at? id.toNat = some old →
          old.record numblock data nbytes = some infos →
          s.CompletesNew id numblock data nbytes →
          old.active = true ∧ infos.received = true ∧ infos.feedNumber = 0 := by
        rintro old infos hold hinfos ⟨old', infos', -, hold', hactive, hinfos', hend⟩
        obtain rfl := Option.some.inj (hold.symm.trans hold')
        obtain rfl := Option.some.inj (hinfos.symm.trans hinfos')
        exact ⟨hactive, hend⟩
      obtain ⟨hr, hnone | ⟨infos, hinfos, hactive⟩⟩ |
        ⟨old, infos, hold, hactive, hinfos, ⟨hrec, rfl⟩ | ⟨hrec, hr⟩⟩ := addPacket_cases h
      · rw [hget] at hnone
        cases hnone
      · refine .inl ⟨?_, .of_feeds_eq (by rw [hr])⟩
        rintro ⟨old, _, -, hold, hactive', -⟩
        obtain rfl := Option.some.inj (hinfos.symm.trans hold)
        rw [hactive] at hactive'
        cases hactive'
      · refine .inl ⟨fun hnew => ?_, .of_feeds_eq rfl⟩
        have hreceived := (hunique hold hinfos hnew).2.1
        rw [hrec] at hreceived
        cases hreceived
      · have hput : SameNotifs s (s.putTransfer id.toNat infos) := .of_feeds_eq rfl
        obtain ⟨hne, hs⟩ | ⟨hzero, hs⟩ := completeTransfer_notifs hr
        · exact .inl ⟨fun hnew => hne (hunique hold hinfos hnew).2.2, hput.trans hs⟩
        · exact .inr ⟨⟨old, infos, hget, hold, hactive, hinfos, hrec, hzero⟩, hput.newNotif hs⟩

/-- `notif_new` writes the record behind that of the feed. -/
lemma notifNew_notifs {f : ℕ} {mult : Mult} (hf : f ≤ s.feeds.toList.length)
    (hs : s.notifNew env f mult = some s') : s'.feeds.toList.length = s.feeds.toList.length ∧
      ∀ j ≠ f, s'.notifAt j = s.notifAt j := by
  obtain ⟨feed, hfeed, rfl⟩ := notifNew_eq_some hf hs
  refine ⟨by simp, fun j hj => ?_⟩
  rw [notifAt_write (s := s) rfl (FullArray.slot_eq_some hfeed).1, if_neg hj]

end Server

open Server

/-- What a step makes of the input `i`, with the subscription `o` that it accepts. -/
inductive NotifEffect (s : Server) (i : Input) (o : Option (ℕ × UInt16)) (s' : Server) : Prop
  | same (hsub : ¬s.Subscribes i) (hfeed : ¬s.MakesFeed i) (ho : o = none) (h : SameNotifs s s')
  | feed (hsub : ¬s.Subscribes i) (hfeed : s.MakesFeed i) (ho : o = none)
      (h : NewNotif i.junkNotif s s')
  | subscribe (f : ℕ) (p : UInt16) (hsub : s.Subscribes i) (ho : o = some (f + 1, p))
      (hf : f < s.feeds.toList.length) (hlength : s'.feeds.toList.length = s.feeds.toList.length)
      (h : ∀ j ≠ f + 1, s'.notifAt j = s.notifAt j)

/-- A subscription that is accepted leaves the field of its feed. -/
lemma subscription_notifs {env : Env} {w : World} {s' : Server} {rq : ClientRQCl}
    {htype : SUBSCRIBE ≠ REGISTRATION} {ans : Answer}
    (hs : w.server.handleTcpConnection env (.cl SUBSCRIBE htype rq) = some (s', ans)) :
    let i := Input.tcp env (.cl SUBSCRIBE htype rq)
    NotifEffect w.server i (subscribed ⟨w, i, some ans, ⟨s', w.loop⟩⟩) s' := by
  obtain ⟨r, hrq, hr⟩ := handleTcpConnection_cases hs
  have hrq' : subscriptionsRequest env { w.server with dErrno := NOERROR }
    (.arrayNew ServerRQ 0) rq = some r := hrq
  obtain ⟨e, -, hrefused, rfl⟩ | ⟨hid, hpos, hle, feed, s₁, mult, hfeed, hs₁, hmult, rfl⟩ :=
    subscriptionsRequest_cases hrq'
  · refine .same (not_subscribes hrefused) (fun hnew => absurd hnew.1 (by decide)) ?_ ?_
    · obtain ⟨hcode, -⟩ | ⟨-, -, -, rfl⟩ | ⟨-, -, -, rfl⟩ := hr
      · exact absurd (show (1 : UInt8) = 0 from hcode) (by decide)
      · rfl
      · rfl
    · obtain ⟨r', e', hrq'', rfl⟩ := handleTcpConnection_server hs
      obtain rfl := Option.some.inj (hrq.symm.trans hrq'')
      exact .of_feeds_eq rfl
  · obtain ⟨f, hf⟩ := Nat.exists_eq_add_one_of_ne_zero hpos.ne'
    have hnotifs : s₁.feeds.toList.length = w.server.feeds.toList.length ∧
        ∀ j ≠ f + 1, s₁.notifAt j = w.server.notifAt j := by
      rw [← hf]
      split at hs₁
      · exact notifNew_notifs (s := { w.server with dErrno := NOERROR }) hle hs₁
      · cases hs₁
        exact ⟨rfl, fun _ _ => rfl⟩
    have hlt : f < w.server.feeds.toList.length := by
      rw [← Nat.succ_le_iff, Nat.succ_eq_add_one, ← hf]
      exact hle
    obtain ⟨-, rfl, rfl⟩ | ⟨hcode, -⟩ | ⟨hcode, -⟩ := hr
    · refine .subscribe f mult.port ⟨rfl, hid, hpos, hle⟩ ?_ hlt hnotifs.1 hnotifs.2
      rw [← hf]
      rfl
    · exact absurd rfl hcode
    · exact absurd rfl hcode

/-- A datagram. -/
lemma handleUploadPacket_notifs {env : Env} {s : Server} {datagram : List UInt8} {type : UInt8}
    {ft : FTransferRQ} {nbytes : ℕ} {r : UInt8 × Server}
    (hrecv : recvDatagrams (ntohClientrqup env.junk) datagram = some (type, ft, nbytes))
    (hp : s.handleUploadPacket env type ft nbytes = some r) :
    NotifEffect s (.udp env datagram) none r.2 := by
  have hfeed : s.MakesFeed (.udp env datagram) ↔
      type = UPLOAD ∧ s.CompletesNew (getId ft.header) ft.numblock ft.data (sizeSub nbytes 4) := by
    constructor
    · rintro ⟨ft', nbytes', hrecv', hnew⟩
      cases hrecv.symm.trans hrecv'
      exact ⟨rfl, hnew⟩
    · rintro ⟨rfl, hnew⟩
      exact ⟨ft, nbytes, hrecv, hnew⟩
  obtain ⟨htype, rfl⟩ | ⟨htype, hp⟩ := handleUploadPacket_cases hp
  · exact .same id (fun h => htype (hfeed.mp h).1) rfl (.of_feeds_eq rfl)
  · obtain ⟨hnew, h⟩ | ⟨hnew, h⟩ := addPacket_notifs hp
    · exact .same id (fun h => hnew (hfeed.mp h).2) rfl h
    · exact .feed id (hfeed.mpr ⟨htype, hnew⟩) rfl h

/-- **One step** of the server and the fields. -/
lemma step_notifs {w w' : World} {i : Input} {out : Option Answer}
    (hs : step w i = some (w', out)) :
    NotifEffect w.server i (subscribed ⟨w, i, out, w'⟩) w'.server := by
  cases step_cases hs with
  | @tcp env rq s' ans hconn =>
      cases rq with
      | rg rq =>
          obtain ⟨r, e, hrq, rfl⟩ := handleTcpConnection_server hconn
          refine .same id id rfl (.of_feeds_eq ?_)
          obtain ⟨-, rfl⟩ | ⟨-, id, -, rfl⟩ := registrationRequest_cases hrq
          · rfl
          · rfl
      | cl type htype rq =>
          by_cases hsub : type = SUBSCRIBE
          · subst hsub
            exact subscription_notifs hconn
          · obtain ⟨r, e, hrq, rfl⟩ := handleTcpConnection_server hconn
            have hpre : SameNotifs w.server { w.server with dErrno := NOERROR } := .of_feeds_eq rfl
            have hpost : SameNotifs r.server { r.server with dErrno := e } := .of_feeds_eq rfl
            obtain ⟨hnew, h⟩ | ⟨hnew, h⟩ := requests_notifs hsub hrq
            · exact .same (fun h => hsub h.1) hnew (subscribed_of_ne hsub)
                ((hpre.trans h).trans hpost)
            · exact .feed (fun h => hsub h.1) hnew (subscribed_of_ne hsub)
                ((hpre.newNotif h).trans hpost)
  | sent hs' =>
      exact .same id id rfl (idClearTransfer_sameStore hs').sameNotifs
  | timeout now =>
      exact .same id id rfl (.of_feeds_eq rfl)
  | udp hrecv hp => exact handleUploadPacket_notifs hrecv hp
  | loop hr =>
      exact .same id id rfl (.of_feeds_eq (loopStep_loopStore hr).feeds_eq)

/-- Until a field is wrong no subscription has been accepted and all the fields are `NULL`. -/
structure NoNotifs (ts : List ServerTransition) (s : Server) : Prop where
  unsubscribed : ∀ t ∈ ts, subscribed t = none
  null : ∀ i < s.feeds.toList.length, s.notifAt i = none

lemma NoNotifs.meaningful {ts : List ServerTransition} {s : Server} (h : NoNotifs ts s) :
    MeaningfulNotifs ts s := by
  refine fun i hi => ⟨fun _ => h.null i hi, fun t ht p hsub => ?_⟩
  rw [h.unsubscribed t ht] at hsub
  cases hsub

lemma noNotifs_init : NoNotifs [] dataInit :=
  ⟨fun _ ht => absurd ht List.not_mem_nil, fun i hi => absurd hi (Nat.not_lt_zero i)⟩

/-- The step that spoils a field. -/
lemma NoNotifs.spoil {ts : List ServerTransition} {t : ServerTransition}
    (h : NoNotifs ts t.pre.server)
    (hs : NotifEffect t.pre.server t.act (subscribed t) t.post.server)
    (hspoil : t.pre.server.SpoilsNotif t.act) : ¬MeaningfulNotifs (ts ++ [t]) t.post.server := by
  intro hmean
  cases hs with
  | same hsub hfeed =>
      obtain hsub' | ⟨hfeed', -⟩ := hspoil
      · exact hsub hsub'
      · exact hfeed hfeed'
  | feed hsub hfeed ho hnew =>
      obtain hsub' | ⟨-, hjunk⟩ := hspoil
      · exact hsub hsub'
      -- the new feed has no subscription
      have hnull := (hmean t.pre.server.feeds.toList.length (by rw [hnew.length_eq]; omega)).null
        fun u hu p hsub => by
          obtain hu | hu := List.mem_append.mp hu
          · rw [h.unsubscribed u hu] at hsub
            cases hsub
          · rw [List.mem_singleton.mp hu, ho] at hsub
            cases hsub
      rw [hnew.notif_eq, if_pos rfl] at hnull
      exact hjunk hnull
  | subscribe f p hsub ho hf hlength hnotif =>
      -- the feed of the subscription has the field that it had
      obtain ⟨k, info, hk, -⟩ := (hmean f (by rwa [hlength])).entry t
        (List.mem_append_right _ (List.mem_singleton.mpr rfl)) p ho
      rw [hnotif f (by omega), h.null f hf] at hk
      cases hk

/-- The other steps. -/
lemma NoNotifs.step {ts : List ServerTransition} {t : ServerTransition}
    (h : NoNotifs ts t.pre.server)
    (hs : NotifEffect t.pre.server t.act (subscribed t) t.post.server)
    (hspoil : ¬t.pre.server.SpoilsNotif t.act) : NoNotifs (ts ++ [t]) t.post.server := by
  have hnone : ∀ {o}, subscribed t = o → o = none → ∀ u ∈ ts ++ [t], subscribed u = none := by
    rintro _ rfl ho u hu
    obtain hu | hu := List.mem_append.mp hu
    · exact h.unsubscribed u hu
    · rw [List.mem_singleton.mp hu, ho]
  cases hs with
  | same hsub hfeed ho hsame =>
      refine ⟨hnone rfl ho, fun i hi => ?_⟩
      rw [hsame.length_eq] at hi
      rw [hsame.notif_eq, h.null i hi]
  | feed hsub hfeed ho hnew =>
      refine ⟨hnone rfl ho, fun i hi => ?_⟩
      rw [hnew.length_eq] at hi
      rw [hnew.notif_eq]
      split
      next => exact not_not.mp fun hjunk => hspoil (.inr ⟨hfeed, hjunk⟩)
      next hne => exact h.null i (by omega)
  | subscribe f p hsub => exact absurd (.inl hsub) hspoil

/-- **The fields `notif`.**  They are right in every state of a run exactly when no subscription of
a known user to an existing feed comes in, and whenever a feed is made the uninitialised field of
the local variable reads as `NULL`. -/
theorem notif_meaningful_iff {w : World} {ts : List ServerTransition}
    (h : Machine.Run step World.init ts w) :
    (∀ us w', us <+: ts → Machine.Run step World.init us w' → MeaningfulNotifs us w'.server) ↔
      ∀ t ∈ ts, ¬t.pre.server.SpoilsNotif t.act := by
  have hiff := h.forall_prefix_iff
    (P := fun us w => NoNotifs us w.server) (H := fun us w => MeaningfulNotifs us w.server)
    (B := fun t => t.pre.server.SpoilsNotif t.act)
    (fun _ _ hP => hP.meaningful) (fun _ _ _ _ _ hP hs => hP.spoil (step_notifs hs))
    (fun _ _ _ _ _ hP hs => hP.step (step_notifs hs)) noNotifs_init
  simpa only [List.nil_append] using hiff

namespace FirstFeed

/-- The registration of a user. -/
def registration : Input :=
  .tcp (.quiet [0]) (.rg ⟨mkHeader REGISTRATION 0, .replicate PSEUDO_LEN 97⟩)

/-- The first feed, made while the uninitialised field reads as `junk`. -/
def newFeed (junk : Option Ptr) : Input :=
  .tcp { Env.quiet [] with junkNotif := junk }
    (.cl NEWPOST newpost_ne ⟨mkHeader NEWPOST 1, 0, 0, 1, fun _ => 98⟩)

/-- A subscription to the feed leaves its field. -/
lemma exists_run_subscribe : ∃ ts w, Machine.Run step World.init ts w ∧
    ts.map (·.act) = [registration, newFeed none, FeedAfter.request SUBSCRIBE subscribe_ne 1] ∧
    ts.map subscribed = [none, none, some (1, 6228)] ∧
    w.server.feeds.toList.length = 1 ∧ w.server.notifAt 0 = none :=
  ⟨_, _, .cons rfl (.cons rfl (.cons rfl (.nil _))), rfl, rfl, rfl, rfl⟩

/-- The field of the new feed is what was on the stack. -/
lemma exists_run_junk (junk : Ptr) : ∃ ts w, Machine.Run step World.init ts w ∧
    ts.map (·.act) = [registration, newFeed (some junk)] ∧ ts.map subscribed = [none, none] ∧
    w.server.feeds.toList.length = 1 ∧ w.server.notifAt 0 = some junk :=
  ⟨_, _, .cons rfl (.cons rfl (.nil _)), rfl, rfl, rfl, rfl⟩

/-- The field is `NULL` after a subscription, and it is not before one. -/
theorem not_meaningful :
    (∃ ts w, Machine.Run step World.init ts w ∧
      ts.map (·.act) = [registration, newFeed none, FeedAfter.request SUBSCRIBE subscribe_ne 1] ∧
      ¬MeaningfulNotifs ts w.server) ∧
    ∃ ts w, Machine.Run step World.init ts w ∧
      ts.map (·.act) = [registration, newFeed (some ⟨7, 0⟩)] ∧ ¬MeaningfulNotifs ts w.server := by
  constructor
  · obtain ⟨ts, w, hrun, hacts, hsub, hlength, hnull⟩ := exists_run_subscribe
    refine ⟨ts, w, hrun, hacts, fun hmean => ?_⟩
    obtain ⟨h2, hsub2⟩ := FeedAfter.exists_subscribed hsub (i := 2) rfl
    obtain ⟨k, info, hk, -⟩ := (hmean 0 (by omega)).entry _ (List.getElem_mem h2) _ hsub2
    rw [hnull] at hk
    cases hk
  · obtain ⟨ts, w, hrun, hacts, hsub, hlength, hjunk⟩ := exists_run_junk ⟨7, 0⟩
    refine ⟨ts, w, hrun, hacts, fun hmean => ?_⟩
    have hnull := (hmean 0 (by omega)).null fun t ht p hp => by
      have hmem := List.mem_map_of_mem (f := subscribed) ht
      rw [hsub, hp] at hmem
      simp at hmem
    rw [hjunk] at hnull
    cases hnull

/-- Both sides hold when the field reads as `NULL`. -/
theorem notif_meaningful_iff_newFeed : ∃ ts w, Machine.Run step World.init ts w ∧
    ts.map (·.act) = [registration, newFeed none] ∧
    ((∀ us w', us <+: ts → Machine.Run step World.init us w' → MeaningfulNotifs us w'.server) ↔
      ∀ t ∈ ts, ¬t.pre.server.SpoilsNotif t.act) ∧
    ∀ t ∈ ts, ¬t.pre.server.SpoilsNotif t.act := by
  refine ⟨_, _, .cons rfl (.cons rfl (.nil _)), rfl,
    notif_meaningful_iff (.cons rfl (.cons rfl (.nil _))), ?_⟩
  refine List.forall_mem_cons.mpr ⟨?_, List.forall_mem_singleton.mpr ?_⟩
  · rintro (hsub | ⟨hfeed, -⟩)
    · exact hsub
    · exact hfeed
  · rintro (hsub | ⟨-, hjunk⟩)
    · exact absurd hsub.1 (by decide)
    · exact hjunk rfl

end FirstFeed

end Megaphone
