import Megaphone.Server.Handlers
import Megaphone.Server.Reply

/-!
What `handle_tcp_connection` has to send, by the request and the state that it finds.

* `Server.messageCount`: the number of messages of the answer.
* `Server.Outcome`: the ways that a request can go.
* `outcome_lastPosts`, `outcome_of_rejected`, `outcome_of_result`: posts that are asked for, a
  request that is refused, and any other one.
* `connection_outcome`: every request inside the table of the handlers goes one of these ways.
* `type_eq_download_iff`: the requests whose answer has the type `DOWNLOAD`.
-/

namespace Megaphone

open Memory

namespace Server

variable {env : Env} {s : Server}

/-! ### The ways of a request -/

/-- The number of messages of the answer to a request. -/
def messageCount (s : Server) : ClientRQ → ℕ
  | .rg _ => 1
  | .cl type _ rq => if type = LASTPOSTS ∧ s.Admits rq then s.selectedCount rq + 1 else 1

/-- **What `handle_tcp_connection` has to send** for a request. -/
inductive Outcome (env : Env) (s : Server) (rq : ClientRQ) : Option (Server × Answer) → Prop
  | left {r : Option (Server × Answer)} (hleaves : s.LeavesMemory env rq)
      (hentry : ∀ s' ans, r = some (s', ans) → ans.code = 0 ∧ ans.entry 0 = none) :
      Outcome env s rq r
  | enomem {s' : Server} {ans : Answer} (hleaves : ¬s.LeavesMemory env rq)
      (hrejects : s.Rejects env rq) (henomem : env.enomem = true) (hcode : ans.code = 1) :
      Outcome env s rq (some (s', ans))
  | unknown {s' : Server} {ans : Answer} {e : ServerRQ} (hleaves : ¬s.LeavesMemory env rq)
      (hrejects : s.Rejects env rq) (hfails : s.NewFeedFails env rq) (hcode : ans.code = 0)
      (he : ans.entry 0 = some e) (htype : e.type = 0)
      (hsend : ∀ ok, ans.send ok = some (1, [])) : Outcome env s rq (some (s', ans))
  | error {s' : Server} {ans : Answer} {e : ServerRQ} {m : List UInt8}
      (hleaves : ¬s.LeavesMemory env rq) (hrejects : s.Rejects env rq)
      (hfails : ¬s.NewFeedFails env rq) (henomem : env.enomem = false) (hcode : ans.code = 0)
      (he : ans.entry 0 = some e) (htype : isError e.type = true)
      (hsend : ∀ ok, ans.send ok = some (sendAll ok [m])) : Outcome env s rq (some (s', ans))
  | accepted {s' : Server} {ans : Answer} {e : ServerRQ} {m : List UInt8} {ms : List (List UInt8)}
      (hleaves : ¬s.LeavesMemory env rq) (hrejects : ¬s.Rejects env rq) (hcode : ans.code = 0)
      (he : ans.entry 0 = some e) (htype : e.type = rq.type)
      (hcount : (m :: ms).length = s.messageCount rq)
      (hsend : ∀ ok, ans.send ok = some (sendAll ok (m :: ms))) : Outcome env s rq (some (s', ans))

/-- An entry of the type 0 is not sent. -/
lemma send_of_type_zero {ans : Answer} {e : ServerRQ} (he : ans.entry 0 = some e)
    (htype : e.type = 0) (ok : ℕ → Bool) : ans.send ok = some (1, []) := by
  rw [Answer.send, sendServerRequest, he, Option.bind_some, htype]
  rfl

/-- An entry whose body is the one for its type is sent in one message. -/
lemma send_of_bodyFits {ans : Answer} {e : ServerRQ} (he : ans.entry 0 = some e)
    (hbody : BodyFits e.type e.body) : ∃ m, ∀ ok, ans.send ok = some (sendAll ok [m]) := by
  obtain ⟨hplain, cl, hcl⟩ | ⟨hsub, sb, hsb⟩ := hbody
  · refine ⟨terminated (htonServerrqcl cl), fun ok => ?_⟩
    rw [Answer.send, sendServerRequest, he, Option.bind_some, if_pos hplain, hcl]
    rfl
  · have hplain : ¬isPlain e.type = true := by
      rw [hsub]
      decide
    have hlp : e.type ≠ LASTPOSTS := by
      rw [hsub]
      decide
    refine ⟨terminated (htonServerrqsb sb), fun ok => ?_⟩
    rw [Answer.send, sendServerRequest, he, Option.bind_some, if_neg hplain, if_neg hlp,
      if_pos hsub, hsb]
    rfl

/-- The members `lp` of a row of entries. -/
lemma exists_lpEntries (serverrq : ℕ → Option ServerRQ) (i n : ℕ)
    (h : ∀ j < n, ∃ e lp, serverrq (i + j) = some e ∧ e.body = .lp lp) :
    ∃ lps, lpEntries serverrq i n = some lps ∧ lps.length = n := by
  induction n generalizing i with
  | zero => exact ⟨[], rfl, rfl⟩
  | succ n ih =>
      obtain ⟨e, lp, he, hlp⟩ := h 0 (Nat.succ_pos n)
      obtain ⟨lps, hlps, hlength⟩ := ih (i + 1) fun j hj => by
        have hnext := h (j + 1) (by omega)
        rwa [Nat.add_comm j 1, ← Nat.add_assoc] at hnext
      refine ⟨lp :: lps, ?_, by rw [List.length_cons, hlength]⟩
      have hlp' : e.body.lp? = some lp := by
        rw [hlp]
        rfl
      rw [Nat.add_zero] at he
      simp only [lpEntries, he, Option.bind_some, hlp', hlps, Option.map_some]

lemma lp_of_mem_selectedEntries {rq : ClientRQCl} {e : ServerRQ}
    (h : e ∈ s.selectedEntries env rq) : ∃ lp, e.body = .lp lp := by
  obtain ⟨p, -, h⟩ := List.mem_flatMap.mp h
  obtain ⟨post, -, rfl⟩ := List.mem_map.mp h
  exact ⟨_, rfl⟩

/-- The messages of an answer to `LASTPOSTS` that has not moved. -/
lemma send_lastPosts {rq : ClientRQCl} {stored : CArray ServerRQ} {ans : Answer}
    (hholds : stored.Holds (⟨0, .cl (s.lastPostsHeader rq)⟩ :: s.selectedEntries env rq))
    (hsends : ans.SendsStored LASTPOSTS stored) (hle : s.selectedCount rq ≤ 7) :
    ∃ e m ms, ans.entry 0 = some e ∧ e.type = LASTPOSTS ∧
      (m :: ms).length = s.selectedCount rq + 1 ∧
      ∀ ok, ans.send ok = some (sendAll ok (m :: ms)) := by
  obtain ⟨e, hat, he⟩ := hsends.head
  have hhead : stored.at? 0 = some ⟨0, .cl (s.lastPostsHeader rq)⟩ :=
    hholds.at?_eq 0 (Nat.succ_pos _)
  obtain rfl := Option.some.inj (hhead.symm.trans hat)
  have hcount : (s.lastPostsHeader rq).count.toNat = s.selectedCount rq := by
    show (UInt16.ofNat (s.selectedCount rq)).toNat = _
    rw [UInt16.toNat_ofNat']
    omega
  obtain ⟨lps, hlps, hlength⟩ := exists_lpEntries ans.entry 1
    (s.selectedCount rq) fun j hj => by
      have hj' : j < (s.selectedEntries env rq).length := by rwa [length_selectedEntries]
      have hlt : 1 + j < stored.length := by
        rw [hholds.length_eq, List.length_cons]
        omega
      obtain ⟨e, hat, he⟩ := hsends.tail (1 + j) (by omega) hlt
      rw [Nat.add_comm 1 j] at hat
      have hentry := hholds.at?_eq (j + 1) (Nat.succ_lt_succ hj')
      rw [List.getElem_cons_succ] at hentry
      obtain rfl := Option.some.inj (hentry.symm.trans hat)
      obtain ⟨lp, hlp⟩ := lp_of_mem_selectedEntries (List.getElem_mem hj')
      exact ⟨_, lp, he, hlp⟩
  have hplain : ¬isPlain LASTPOSTS = true := by decide
  refine ⟨_, terminated (htonServerrqcl (s.lastPostsHeader rq)),
    lps.map fun lp => terminated (htonServerrqlp lp), he, rfl, by simp [hlength], fun ok => ?_⟩
  simp only [Answer.send, sendServerRequest, he, Option.bind_some, if_neg hplain, if_true,
    ServerBody.cl?, hcount, hlps, Option.map_some]

lemma messageCount_of_not_listsPosts {rq : ClientRQ} (h : ¬s.ListsPosts rq) :
    s.messageCount rq = 1 := by
  cases rq with
  | rg rq => rfl
  | cl type htype rq => exact if_neg h

lemma messageCount_of_listsPosts {htype : LASTPOSTS ≠ REGISTRATION} {rq : ClientRQCl}
    (h : s.Admits rq) : s.messageCount (.cl LASTPOSTS htype rq) = s.selectedCount rq + 1 :=
  if_pos ⟨rfl, h⟩

/-- The answer to posts that are asked for. -/
lemma outcome_lastPosts {htype : LASTPOSTS ≠ REGISTRATION} {rq : ClientRQCl} (h : s.Admits rq) :
    Outcome env s (.cl LASTPOSTS htype rq)
      (s.handleTcpConnection env (.cl LASTPOSTS htype rq)) := by
  obtain ⟨hid, hnb⟩ := h
  obtain ⟨a', -, hconn, hholds, hblock⟩ := lastPosts_answer env s htype rq hid
    (by rwa [getFeedsCount, FullArray.length_eq])
  rw [hconn]
  by_cases hle : s.selectedCount rq ≤ 7
  · obtain ⟨e, m, ms, he, hetype, hcount, hsend⟩ :=
      send_lastPosts hholds (sendsStored_of_block hholds (hblock.mpr hle)) hle
    exact .accepted
      (fun hleaves => absurd (leavesMemory_lastPosts_iff.mp hleaves).2 (not_lt.mpr hle))
      (fun hrejects => rejects_lastPosts_iff.mp hrejects ⟨hid, hnb⟩) rfl he hetype
      (hcount.trans (messageCount_of_listsPosts ⟨hid, hnb⟩).symm) hsend
  · have hmoved : 0 < a'.block := Nat.pos_of_ne_zero fun h0 => hle (hblock.mp h0)
    refine .left (leavesMemory_lastPosts_iff.mpr ⟨⟨hid, hnb⟩, not_le.mp hle⟩) ?_
    rintro s' ans ⟨⟩
    exact ⟨rfl, entry_of_block hmoved 0⟩

/-- The answer to a request that is refused. -/
lemma outcome_of_rejected {rq : ClientRQ} {h : Handled} (hleaves : ¬s.LeavesMemory env rq)
    (hrejects : s.Rejects env rq)
    (hrq : requests env { s with dErrno := NOERROR } (.arrayNew ServerRQ 0) rq = some h)
    (hcode : h.code ≠ 0) : Outcome env s rq (s.handleTcpConnection env rq) := by
  cases henomem : env.enomem with
  | true =>
      have hconn : s.handleTcpConnection env rq = some (h.server, ⟨1, h.serverrq, ⟨0, 0⟩⟩) := by
        rw [handleTcpConnection, handleTcpRequest, hrq, Option.map_some, if_neg hcode,
          if_pos henomem]
        rfl
      rw [hconn]
      exact .enomem hleaves hrejects henomem rfl
  | false =>
      by_cases hfails : s.NewFeedFails env rq
      · obtain ⟨creator, hrq'⟩ := requests_newFeedFails (a := .arrayNew ServerRQ 0)
          (newFeedFails_dErrno_iff.mpr hfails)
        have hconn : s.handleTcpConnection env rq =
            some (({ s with dErrno := NOERROR } : Server).appendFeed (localFeed env creator),
              errorAnswer NOERROR) := by
          rw [handleTcpConnection, handleTcpRequest, hrq', Option.map_some,
            if_neg (show ¬(1 : UInt8) = 0 by decide), if_neg (by rw [henomem]; decide)]
          rfl
        rw [hconn]
        exact .unknown hleaves hrejects hfails rfl (entry_errorAnswer NOERROR) rfl
          (send_of_type_zero (entry_errorAnswer NOERROR) rfl)
      · obtain ⟨err, herr, rfl⟩ | ⟨hfails', -⟩ := requests_fail hrq hcode
        · rw [handleTcpConnection_of_fail henomem hrq]
          exact .error hleaves hrejects hfails henomem rfl (entry_errorAnswer err) herr
            (send_errorAnswer herr)
        · exact absurd (newFeedFails_dErrno_iff.mp hfails') hfails

/-- The answer to a request that is handled. -/
lemma outcome_of_result {rq : ClientRQ} (hlists : ¬s.ListsPosts rq)
    (h : HandlerResult (.arrayNew ServerRQ 0) rq.type
      (({ s with dErrno := NOERROR } : Server).Rejects env rq)
      (({ s with dErrno := NOERROR } : Server).LeavesMemory env rq)
      (requests env { s with dErrno := NOERROR } (.arrayNew ServerRQ 0) rq)) :
    Outcome env s rq (s.handleTcpConnection env rq) := by
  generalize hr : requests env { s with dErrno := NOERROR } (.arrayNew ServerRQ 0) rq = r at h
  cases h with
  | left hrejects hleaves =>
      have hconn : s.handleTcpConnection env rq = none := by
        rw [handleTcpConnection, handleTcpRequest, hr]
        rfl
      rw [hconn]
      exact .left (leavesMemory_dErrno_iff.mp hleaves) fun _ _ h => absurd h.symm
        (Option.some_ne_none _)
  | rejected hrejects hleaves hcode =>
      exact outcome_of_rejected (mt leavesMemory_dErrno_iff.mpr hleaves)
        (rejects_dErrno_iff.mp hrejects) hr hcode
  | @accepted s' e hrejects hleaves hbody =>
      have hconn : s.handleTcpConnection env rq = some ({ s' with dErrno := NOERROR },
          ⟨0, ((CArray.arrayNew ServerRQ 0).append e).poke ⟨0, 0⟩ fun e =>
            { e with type := rq.type }, ⟨0, 0⟩⟩) := by
        rw [handleTcpConnection, handleTcpRequest_of_ok hr rfl]
        rfl
      have he : Answer.entry ⟨0, ((CArray.arrayNew ServerRQ 0).append e).poke ⟨0, 0⟩ fun e =>
          { e with type := rq.type }, ⟨0, 0⟩⟩ 0 = some { e with type := rq.type } := rfl
      obtain ⟨m, hsend⟩ := send_of_bodyFits he hbody
      rw [hconn]
      exact .accepted (mt leavesMemory_dErrno_iff.mpr hleaves) (mt rejects_dErrno_iff.mpr hrejects)
        rfl he rfl (m := m) (by rw [messageCount_of_not_listsPosts hlists]; rfl) hsend

/-- **The outcome of a request** inside the table of the handlers. -/
theorem connection_outcome (hwf : s.transferFiles.Wf) {rq : ClientRQ} (hrq : InTable rq.type) :
    Outcome env s rq (s.handleTcpConnection env rq) := by
  by_cases hlists : s.ListsPosts rq
  · cases rq with
    | rg rq => exact hlists.elim
    | cl type htype rq =>
        obtain ⟨rfl, hadmits⟩ := hlists
        exact outcome_lastPosts hadmits
  · exact outcome_of_result hlists
      (requests_result (s := { s with dErrno := NOERROR }) hwf hrq (by cases rq <;> exact hlists))

/-- A request that is answered is handled inside the memory. -/
lemma Outcome.not_leavesMemory {rq : ClientRQ} {s' : Server} {ans : Answer} {e : ServerRQ}
    (h : Outcome env s rq (some (s', ans))) (he : ans.entry 0 = some e) :
    ¬s.LeavesMemory env rq := by
  cases h with
  | left _ hentry =>
      rw [(hentry s' ans rfl).2] at he
      cases he
  | enomem hleaves => exact hleaves
  | unknown hleaves => exact hleaves
  | error hleaves => exact hleaves
  | accepted hleaves => exact hleaves

/-- An entry of the type `DOWNLOAD` answers a download that is not refused. -/
lemma type_eq_download_iff (hwf : s.transferFiles.Wf) {rq : ClientRQ} (hrq : InTable rq.type)
    {s' : Server} {ans : Answer} {e : ServerRQ} (hcode : ans.code = 0)
    (hconn : s.handleTcpConnection env rq = some (s', ans)) (he : ans.entry 0 = some e) :
    e.type = DOWNLOAD ↔ ¬s.Rejects env rq ∧ rq.type = DOWNLOAD := by
  have hout : s.Outcome env rq (s.handleTcpConnection env rq) := connection_outcome hwf hrq
  rw [hconn] at hout
  cases hout with
  | left _ hentry =>
      rw [(hentry s' ans rfl).2] at he
      cases he
  | enomem _ _ _ hone => exact absurd (hcode.symm.trans hone) (by decide)
  | unknown _ hrejects _ _ he' hzero =>
      obtain rfl := Option.some.inj (he.symm.trans he')
      exact ⟨fun h => absurd (hzero.symm.trans h) (by decide), fun h => absurd hrejects h.1⟩
  | error _ hrejects _ _ _ he' herror =>
      obtain rfl := Option.some.inj (he.symm.trans he')
      refine ⟨fun h => ?_, fun h => absurd hrejects h.1⟩
      rw [h] at herror
      exact absurd herror (by decide)
  | accepted _ hrejects _ he' htype =>
      obtain rfl := Option.some.inj (he.symm.trans he')
      rw [htype]
      exact ⟨fun h => ⟨hrejects, h⟩, fun h => h.2⟩

end Server

end Megaphone
