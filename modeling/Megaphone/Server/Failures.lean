import Megaphone.Server.Run

/-!
Requests that fail: what is left of the state, and what is answered.

* `Server.NewFeedFails`: a post for a new feed whose directory can be neither found nor made.
* `requests_fail`: all ways in which a handler fails: it sets `d_errno` and nothing else, or it is
  such a post.
* `Server.FailsCleanly`: the state is as before, and the answer is an error that can be sent.
* `failsCleanly_of_fail`: it is so behind a handler that sets `d_errno`, unless `errno` is `ENOMEM`.
-/

namespace Megaphone

namespace Server

/-- A post for a new feed, which has passed all checks, when the directory of the feed can be
neither found nor made. -/
def NewFeedFails (env : Env) (s : Server) : ClientRQ → Prop
  | .rg _ => False
  | .cl type _ rq => type = NEWPOST ∧ rq.feedNumber = 0 ∧
      (s.getPseudo (getId rq.header)).isSome ∧ s.feeds.toList.length < FEED_NB_MAX ∧
      env.stat (feedPath (s.feeds.toList.length + 1)) = false ∧
      env.mkdir (feedPath (s.feeds.toList.length + 1)) = false

/-- The state is as before the request, and an error is answered that `send_server_request` sends.
-/
structure FailsCleanly (env : Env) (s : Server) (rq : ClientRQ) (h : Handled) : Prop where
  users_eq : h.server.users = s.users
  feeds_eq : h.server.feeds = s.feeds
  transferFiles_eq : h.server.transferFiles = s.transferFiles
  answer : ∃ s' ans e, s.handleTcpConnection env rq = some (s', ans) ∧ s'.users = s.users ∧
    s'.feeds = s.feeds ∧ s'.transferFiles = s.transferFiles ∧ ans.code = 0 ∧
    ans.entry 0 = some e ∧ isError e.type = true ∧
    (ans.send fun _ => true).map Prod.fst = some (0 : UInt8)

variable {env : Env} {s : Server} {a : CArray ServerRQ} {rq : ClientRQ} {h : Handled}

/-! ### How handlers fail -/

/-- The code of `feed_new`. -/
lemma feedNew_fst (env : Env) (s : Server) (creator : Pseudo) :
    (s.feedNew env creator).1 ≠ 0 ↔ env.stat (feedPath (s.feeds.toList.length + 1)) = false ∧
      env.mkdir (feedPath (s.feeds.toList.length + 1)) = false := by
  have hlength : (s.appendFeed (localFeed env creator)).feeds.length =
      s.feeds.toList.length + 1 := by
    rw [FullArray.length_eq, appendFeed, FullArray.toList_append, List.length_append,
      List.length_singleton]
  simp only [feedNew, hlength]
  cases env.stat (feedPath (s.feeds.toList.length + 1)) with
  | true => simp
  | false => cases env.mkdir (feedPath (s.feeds.toList.length + 1)) <;> simp

lemma postRequest_fail {rq : ClientRQCl} (hrq : s.postRequest env a rq = some h)
    (hcode : h.code ≠ 0) :
    (∃ e, isError e.toUInt8 = true ∧ h = s.fail a e) ∨
    (s.NewFeedFails env (.cl NEWPOST newpost_ne rq) ∧
      ∃ pseudo, h = ⟨1, (s.feedNew env pseudo).2, a⟩) := by
  obtain ⟨-, -, rfl⟩ | ⟨-, rfl⟩ | ⟨-, -, rfl⟩ | ⟨pseudo, hpseudo, hnew, hlt, herr, rfl⟩ |
    ⟨pseudo, feedNumber, s₀, s', -, -, -, -, rfl⟩ := postRequest_cases hrq
  · exact .inl ⟨ERR_FEEDMAX, rfl, rfl⟩
  · exact .inl ⟨ERR_FEEDNB, rfl, rfl⟩
  · exact .inl ⟨ERR_NOID, rfl, rfl⟩
  · obtain ⟨hstat, hmkdir⟩ := (feedNew_fst env s pseudo).mp herr
    exact .inr ⟨⟨rfl, hnew, by rw [hpseudo]; rfl, hlt, hstat, hmkdir⟩, pseudo, rfl⟩
  · exact absurd rfl hcode

/-- **How a handler fails**: it sets `d_errno` and nothing else, or it is a post for a new feed
whose directory can be neither found nor made. -/
lemma requests_fail (hrq : s.requests env a rq = some h) (hcode : h.code ≠ 0) :
    (∃ e, isError e.toUInt8 = true ∧ h = s.fail a e) ∨
    (s.NewFeedFails env rq ∧ ∃ pseudo, h = ⟨1, (s.feedNew env pseudo).2, a⟩) := by
  cases requests_cases hrq with
  | registration hrq =>
      obtain ⟨-, rfl⟩ | ⟨-, id, -, rfl⟩ := registrationRequest_cases hrq
      · exact .inl ⟨ERR_IDMAX, rfl, rfl⟩
      · exact absurd rfl hcode
  | post hrq => exact postRequest_fail hrq hcode
  | lastPosts hrq =>
      obtain herr | ⟨hzero, -⟩ := lastPostsRequest_cases hrq
      · exact .inl herr
      · exact absurd hzero hcode
  | subscriptions hrq =>
      obtain ⟨e, he, -, rfl⟩ | ⟨-, -, -, feed, s', mult, -, -, -, rfl⟩ :=
        subscriptionsRequest_cases hrq
      · exact .inl ⟨e, he, rfl⟩
      · exact absurd rfl hcode
  | prepareUpload hrq =>
      obtain herr | ⟨pseudo, s', -, -, -, rfl⟩ := prepareUploadRequest_cases hrq
      · exact .inl herr
      · exact absurd rfl hcode
  | prepareDownload hrq =>
      obtain herr | ⟨pseudo, s', -, -, -, rfl⟩ := prepareDownloadRequest_cases hrq
      · exact .inl herr
      · exact absurd rfl hcode

/-- The check does not look at `d_errno`. -/
lemma newFeedFails_dErrno_iff :
    ({ s with dErrno := NOERROR } : Server).NewFeedFails env rq ↔ s.NewFeedFails env rq := by
  cases rq <;> exact Iff.rfl

/-- A post for a new feed whose directory cannot be made has made the feed. -/
lemma requests_newFeedFails (hfails : s.NewFeedFails env rq) : ∃ creator,
    s.requests env a rq = some ⟨1, s.appendFeed (localFeed env creator), a⟩ := by
  cases rq with
  | rg rq => exact hfails.elim
  | cl type htype rq =>
      obtain ⟨rfl, hnew, hid, hlt, hstat, hmkdir⟩ := hfails
      obtain ⟨pseudo, hpseudo⟩ := Option.isSome_iff_exists.mp hid
      have herr := (feedNew_fst env s pseudo).mpr ⟨hstat, hmkdir⟩
      refine ⟨pseudo, ?_⟩
      rw [requests, if_pos rfl, postRequest, getFeedsCount, FullArray.length_eq,
        if_neg (fun hmax => absurd hmax.1 (not_le.mpr hlt)), if_neg (by rw [hnew]; simp), hpseudo]
      simp only [if_pos hnew, if_pos herr, feedNew_snd]

/-! ### What is answered -/

/-- What is answered when a handler sets `d_errno`. -/
def errorAnswer (e : UInt16) : Answer :=
  ⟨0, (CArray.arrayNew ServerRQ 0).poke ⟨0, 0⟩ fun _ => ⟨e.toUInt8, .cl ⟨e, 0, 0⟩⟩, ⟨0, 0⟩⟩

lemma entry_errorAnswer (e : UInt16) :
    (errorAnswer e).entry 0 = some ⟨e.toUInt8, .cl ⟨e, 0, 0⟩⟩ := rfl

/-- An error is sent, if `send` succeeds. -/
lemma send_errorAnswer {e : UInt16} (he : isError e.toUInt8 = true) (ok : ℕ → Bool) :
    (errorAnswer e).send ok = some (sendAll ok [terminated (htonServerrqcl ⟨e, 0, 0⟩)]) := by
  have hplain : isPlain e.toUInt8 = true := by
    rw [isPlain, he, Bool.or_true]
  rw [Answer.send, sendServerRequest, entry_errorAnswer, Option.bind_some, if_pos hplain]
  rfl

lemma handleTcpConnection_of_fail {e : UInt16} (henomem : env.enomem = false)
    (hrq : requests env { s with dErrno := NOERROR } (.arrayNew ServerRQ 0) rq =
      some ({ s with dErrno := NOERROR }.fail (.arrayNew ServerRQ 0) e)) :
    s.handleTcpConnection env rq = some ({ s with dErrno := e }, errorAnswer e) := by
  rw [handleTcpConnection, handleTcpRequest_of_fail hrq henomem]
  rfl

/-- A handler that sets `d_errno` fails cleanly. -/
lemma failsCleanly_of_fail {e : UInt16} (he : isError e.toUInt8 = true)
    (henomem : env.enomem = false)
    (hrq : requests env { s with dErrno := NOERROR } (.arrayNew ServerRQ 0) rq =
      some ({ s with dErrno := NOERROR }.fail (.arrayNew ServerRQ 0) e)) :
    s.FailsCleanly env rq ({ s with dErrno := NOERROR }.fail (.arrayNew ServerRQ 0) e) := by
  refine ⟨rfl, rfl, rfl, _, _, _, handleTcpConnection_of_fail henomem hrq, rfl, rfl, rfl, rfl,
    entry_errorAnswer e, he, ?_⟩
  rw [send_errorAnswer he, sendAll_true]
  rfl

end Server

end Megaphone
