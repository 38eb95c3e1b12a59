import Megaphone.Server.Run

/-!
The answer to `LASTPOSTS` between the handler that builds it and `send_server_request`.

`handle_tcp_connection` and `handle_tcp_request` keep a pointer to the storage of `a_serverrq`
across the handler, and `append` moves the array as soon as it holds more than `INIT_CAP` entries.

* `Answer.SendsStored`: what is read through the pointer is what the handler stored.
* `lastPosts_sent_iff`: this holds exactly up to 7 posts.
-/

namespace Megaphone

open Memory

/-- The entries that `send_server_request` reads through its pointer are those that the handler
stored, with the type that `handle_tcp_request` sets in the first one. -/
structure Answer.SendsStored (ans : Answer) (type : UInt8) (stored : CArray ServerRQ) : Prop where
  head : ∃ e, stored.at? 0 = some e ∧ ans.entry 0 = some { e with type := type }
  tail : ∀ i, 0 < i → i < stored.length → ∃ e, stored.at? i = some e ∧ ans.entry i = some e

/-- An answer whose array has not moved sends what was stored. -/
lemma sendsStored_of_block {stored : CArray ServerRQ} {e : ServerRQ} {l : List ServerRQ}
    {type : UInt8} (h : stored.Holds (e :: l)) (hblock : stored.block = 0) :
    (Answer.mk 0 (stored.poke ⟨0, 0⟩ fun e => { e with type := type }) ⟨0, 0⟩).SendsStored type
      stored := by
  have hhead : stored.at? 0 = some e := h.at?_eq 0 (Nat.succ_pos _)
  have hpos : 0 < stored.slots.length := by
    have := h.length_le
    have := h.slots_length
    have := h.length_eq
    rw [List.length_cons] at this
    omega
  rw [CArray.poke_of_eq hblock.symm hhead]
  have hentry : ∀ i, (Answer.mk 0 (stored.write 0 { e with type := type }) ⟨0, 0⟩).entry i =
      (stored.write 0 { e with type := type }).at? i := by
    intro i
    rw [Answer.entry, CArray.deref_of_eq hblock.symm, Nat.zero_add]
  refine ⟨⟨e, hhead, ?_⟩, fun i hi hlt => ?_⟩
  · rw [hentry, CArray.at?_write_self stored _ hpos]
  · rw [h.length_eq] at hlt
    exact ⟨_, h.at?_eq i hlt, by
      rw [hentry, CArray.at?_write_of_ne stored _ hi.ne', h.at?_eq i hlt]⟩

/-- An answer whose array has moved sends nothing of it. -/
lemma entry_of_block {stored : CArray ServerRQ} {f : ServerRQ → ServerRQ} (h : 0 < stored.block)
    (i : ℕ) : (Answer.mk 0 (stored.poke ⟨0, 0⟩ f) ⟨0, 0⟩).entry i = none := by
  rw [CArray.poke_of_ne (show (0 : ℕ) ≠ stored.block from h.ne), Answer.entry,
    CArray.deref_of_ne (show (0 : ℕ) ≠ stored.block from h.ne)]

/-- What an accepted `LASTPOSTS` request leaves: the array `a'` of the handler, and an answer with
the pointer to where it was at first. -/
lemma lastPosts_answer (env : Env) (s : Server) (htype : LASTPOSTS ≠ REGISTRATION)
    (rq : ClientRQCl) (hid : (s.getPseudo (getId rq.header)).isSome)
    (hnb : rq.feedNumber.toNat ≤ s.getFeedsCount) :
    ∃ a', ({ s with dErrno := NOERROR } : Server).lastPostsRequest env (.arrayNew ServerRQ 0) rq =
        some ⟨0, { s with dErrno := NOERROR }, a'⟩ ∧
      s.handleTcpConnection env (.cl LASTPOSTS htype rq) = some ({ s with dErrno := NOERROR },
        ⟨0, a'.poke ⟨0, 0⟩ fun e => { e with type := LASTPOSTS }, ⟨0, 0⟩⟩) ∧
      a'.Holds (⟨0, .cl (s.lastPostsHeader rq)⟩ :: s.selectedEntries env rq) ∧
      (a'.block = 0 ↔ s.selectedCount rq ≤ 7) := by
  rw [Server.getFeedsCount, FullArray.length_eq] at hnb
  obtain ⟨a', hrq, hgrows, hholds⟩ :=
    Server.lastPostsRequest_eq env (s := { s with dErrno := NOERROR }) hid hnb
  refine ⟨a', hrq, ?_, hholds, ?_⟩
  · have hreq : Server.requests env { s with dErrno := NOERROR } (.arrayNew ServerRQ 0)
        (.cl LASTPOSTS htype rq) = some ⟨0, { s with dErrno := NOERROR }, a'⟩ := hrq
    simp only [Server.handleTcpConnection, Server.handleTcpRequest, hreq, Option.map_some,
      if_true]
    rfl
  · have hlength : a'.length = s.selectedCount rq + 1 := by
      rw [hholds.length_eq, List.length_cons, Server.length_selectedEntries]
      rfl
    constructor
    · intro hblock
      by_contra hlt
      have hmoves : 0 < a'.block := hgrows.moves (by
        show 8 < a'.length
        omega)
      omega
    · intro hle
      exact (hgrows.stays (by
        show a'.length ≤ 8
        omega)).1

/-- **The answer that is sent.**  An accepted `LASTPOSTS` request is handled, and what
`send_server_request` reads is what the handler stored if and only if at most 7 posts are
selected. -/
theorem lastPosts_sent_iff (env : Env) (s : Server) (rq : ClientRQCl)
    (hid : (s.getPseudo (getId rq.header)).isSome) (hnb : rq.feedNumber.toNat ≤ s.getFeedsCount) :
    ∃ h ans, ({ s with dErrno := NOERROR } : Server).lastPostsRequest env (.arrayNew ServerRQ 0)
        rq = some h ∧ h.code = 0 ∧
      s.handleTcpConnection env (.cl LASTPOSTS lastposts_ne rq) =
        some ({ h.server with dErrno := NOERROR }, ans) ∧
      (ans.SendsStored LASTPOSTS h.serverrq ↔ s.selectedCount rq ≤ 7) := by
  obtain ⟨a', hrq, hconn, hholds, hblock⟩ := lastPosts_answer env s lastposts_ne rq hid hnb
  refine ⟨_, _, hrq, rfl, hconn, fun hsends => ?_, fun hle => ?_⟩
  · by_contra hlt
    have hmoved : 0 < a'.block := Nat.pos_of_ne_zero fun h0 => hlt (hblock.mp h0)
    obtain ⟨e', -, hentry⟩ := hsends.head
    rw [entry_of_block hmoved] at hentry
    cases hentry
  · exact sendsStored_of_block hholds (hblock.mpr hle)

/-- When the array has moved, the first read of `send_server_request` is of memory that has been
freed. -/
lemma send_eq_none {ok : ℕ → Bool} {ans : Answer} (h : ans.entry 0 = none) :
    ans.send ok = none := by
  rw [Answer.send, sendServerRequest, h, Option.bind_none]

namespace EightPosts

/-- A post on the feed `feedNumber`, by the user 1. -/
def post (feedNumber : UInt16) : Input :=
  .tcp (.quiet []) (.cl NEWPOST newpost_ne ⟨mkHeader NEWPOST 1, feedNumber, 0, 1, fun _ => 98⟩)

/-- A user registers, and posts eight times. -/
def acts : List Input :=
  .tcp (.quiet [0]) (.rg ⟨mkHeader REGISTRATION 0, .replicate PSEUDO_LEN 97⟩) :: post 0 ::
    List.replicate 7 (post 1)

/-- The request for all posts of the feed. -/
def request : ClientRQCl := ⟨mkHeader LASTPOSTS 1, 1, 0, 0, fun _ => 0⟩

/-- The state after the posts. -/
lemma exists_run : ∃ ts w, Machine.Run step World.init ts w ∧ ts.map (·.act) = acts ∧
    w.server.getPseudo (getId request.header) = some (.replicate PSEUDO_LEN 97) ∧
    request.feedNumber.toNat ≤ w.server.getFeedsCount ∧ w.server.selectedCount request = 8 := by
  refine ⟨_, _, .cons rfl (.cons rfl (.cons rfl (.cons rfl (.cons rfl (.cons rfl (.cons rfl
    (.cons rfl (.cons rfl (.nil _))))))))), rfl, rfl, ?_, rfl⟩
  decide

/-- The answer to the request reads nothing of the array, the header included. -/
theorem not_sendsStored : ∃ ts w, Machine.Run step World.init ts w ∧ ts.map (·.act) = acts ∧
    ∃ h s' ans, ({ w.server with dErrno := NOERROR } : Server).lastPostsRequest (.quiet [])
        (.arrayNew ServerRQ 0) request = some h ∧ h.code = 0 ∧
      w.server.handleTcpConnection (.quiet []) (.cl LASTPOSTS lastposts_ne request) =
        some (s', ans) ∧
      ¬ans.SendsStored LASTPOSTS h.serverrq ∧ ans.send (fun _ => true) = none := by
  obtain ⟨ts, w, hrun, hacts, hid, hnb, hcount⟩ := exists_run
  obtain ⟨a', hrq, hconn, -, hblock⟩ := lastPosts_answer (.quiet []) w.server
    lastposts_ne request (by rw [hid]; rfl) hnb
  have hmoved : 0 < a'.block := by
    rw [hcount] at hblock
    omega
  refine ⟨ts, w, hrun, hacts, _, _, _, hrq, rfl, hconn, fun hsends => ?_,
    send_eq_none (entry_of_block hmoved 0)⟩
  obtain ⟨e', -, hentry⟩ := hsends.head
  rw [entry_of_block hmoved] at hentry
  cases hentry

/-- Both sides fail after eight posts. -/
theorem lastPosts_sent_iff_eight : ∃ ts w, Machine.Run step World.init ts w ∧
    ts.map (·.act) = acts ∧ ¬w.server.selectedCount request ≤ 7 ∧
    ∃ h ans, ({ w.server with dErrno := NOERROR } : Server).lastPostsRequest (.quiet [])
        (.arrayNew ServerRQ 0) request = some h ∧ h.code = 0 ∧
      w.server.handleTcpConnection (.quiet []) (.cl LASTPOSTS lastposts_ne request) =
        some ({ h.server with dErrno := NOERROR }, ans) ∧
      (ans.SendsStored LASTPOSTS h.serverrq ↔ w.server.selectedCount request ≤ 7) := by
  obtain ⟨ts, w, hrun, hacts, hid, hnb, hcount⟩ := exists_run
  exact ⟨ts, w, hrun, hacts, by omega,
    lastPosts_sent_iff (.quiet []) w.server request (by rw [hid]; rfl) hnb⟩

end EightPosts

end Megaphone
