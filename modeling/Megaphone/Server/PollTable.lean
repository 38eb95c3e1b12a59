import Megaphone.Server.TcpLoop

/-!
The table of the descriptors `m_fds` of the TCP server.

* `Connection`, `OpenInTable`: each open connection is in exactly one entry, and its record is its
  own.
* `OwnRequest`, `Served`: what `handle_tcp_connection` does on a connection.
* `PollTable`: the invariant behind them.
* `PollTable.foldlM`, `PollTable.handleReadyFd_client`: new connections, and one that is served.
-/

namespace Megaphone

open Memory Framing

namespace TcpServer

/-! ### The open connections -/

/-- A connection: its descriptor, and the address of the client. -/
abbrev Connection := Descriptor × In6Addr

/-- The descriptors that are closed. -/
def closed : List SocketEvent → List ℤ
  | [] => []
  | .close fd :: events => fd :: closed events
  | .send _ _ :: events => closed events
  | .sendto _ _ _ :: events => closed events

/-- The connections that `accept` returns in a round that begins in the state `t`: it is called when
something has arrived on the socket of the server. -/
def accepts (env : RoundEnv) (t : TcpServer) : List Connection :=
  if t.fds.toList.any fun e => e.fd == t.sfd.val && e.revents then env.accepted else []

/-- `accept` returns descriptors that are not open. -/
structure Fresh (t : TcpServer) (cs accepted : List Connection) : Prop where
  nodup : (accepted.map Prod.fst).Nodup
  ne_sfd : ∀ c ∈ accepted, c.1 ≠ t.sfd
  notMem : ∀ c ∈ accepted, ∀ c' ∈ cs, c.1 ≠ c'.1

/-- **The table tracks the open connections**: the first entry is the socket of the server, every
other one is not in use or the descriptor of an open connection, each of which is in exactly one
entry, and its record holds its own address, and nothing carried over. -/
structure OpenInTable (t : TcpServer) (cs : List Connection) : Prop where
  listening : ∃ e : PollFd, t.fds.toList[0]? = some e ∧ e.fd = t.sfd.val
  entries : ∀ (i : ℕ) (e : PollFd), i ≠ 0 → t.fds.toList[i]? = some e →
    e.fd = -1 ∨ ∃ c ∈ cs, e.fd = c.1.val
  existsUnique : ∀ c ∈ cs, ∃! i : ℕ, ∃ e : PollFd, t.fds.toList[i]? = some e ∧ e.fd = c.1.val
  infos : ∀ c ∈ cs, t.connectionInfos.get c.1.val = some c.1.val ∧
    t.connectionInfos.at? c.1.val = some ⟨c.2, .zero⟩

/-! ### A connection that is served -/

/-- The request that `handle_tcp_connection` answers on the connection `c` is decoded from the bytes
that have been received on it, with the record of the client itself. -/
structure OwnRequest (env : ConnEnv) (t : TcpServer) (c : Connection) : Prop where
  infos : t.connectionInfos.at? c.1.val = some ⟨c.2, .zero⟩
  request : ∃ rec, recvRequest env.sock env.s .zero = some rec ∧ rec.Leaves rec.got ∧
    t.handleTcpConnection env c.1.val = answerRequest env { t with
      connectionInfos := t.connectionInfos.write c.1.val ⟨c.2, rec.rbytesRq⟩ } c.1.val
        (decodeClientrq rec.bytesRq)

/-- A connection that has been served: an answer has been sent on it, and it has been closed, which
no other one has been. -/
def Served (t t' : TcpServer) (fd : ℤ) : Prop :=
  ∃ m ms events, t'.events = t.events ++ .send fd (m :: ms) :: (events ++ [.close fd]) ∧
    closed events = []

/-! ### The invariant -/

/-- The descriptor of an entry that is in use. -/
def entryFd (e : PollFd) : Option ℤ := if e.fd = -1 then none else some e.fd

/-- The descriptors of the server and of the open connections. -/
def openFds (sfd : Descriptor) (cs : List Connection) : Set ℤ :=
  {fd | fd = sfd.val ∨ ∃ c ∈ cs, fd = c.1.val}

/-- **The invariant of the table.** -/
structure PollTable (t : TcpServer) (cs : List Connection) : Prop where
  inv : t.Inv
  listening : ∃ e : PollFd, t.fds.toList[0]? = some e ∧ e.fd = t.sfd.val
  fds : Slots.Tracks entryFd t.fds.toList (openFds t.sfd cs)
  infos : ∀ c ∈ cs, t.connectionInfos.get c.1.val = some c.1.val ∧
    t.connectionInfos.at? c.1.val = some ⟨c.2, .zero⟩
  ne_sfd : ∀ c ∈ cs, c.1 ≠ t.sfd

variable {t t' : TcpServer} {cs : List Connection} {env : RoundEnv}

lemma mem_openFds {sfd : Descriptor} {fd : ℤ} :
    fd ∈ openFds sfd cs ↔ fd = sfd.val ∨ ∃ c ∈ cs, fd = c.1.val := .rfl

lemma entryFd_eq_some {e : PollFd} {fd : ℤ} : entryFd e = some fd ↔ e.fd = fd ∧ fd ≠ -1 := by
  rw [entryFd]
  split
  next h => exact ⟨(fun h' => by cases h'), fun ⟨h₁, h₂⟩ => absurd (h₁.symm.trans h) h₂⟩
  next h =>
    rw [Option.some.injEq]
    exact ⟨fun h' => ⟨h', h' ▸ h⟩, And.left⟩

lemma entryFd_of_descriptor {e : PollFd} {fd : Descriptor} (h : e.fd = fd.val) :
    entryFd e = some (fd.val : ℤ) :=
  entryFd_eq_some.mpr ⟨h, by omega⟩

lemma entryFd_eq_none {e : PollFd} (h : e.fd = -1) : entryFd e = none := if_pos h

lemma val_inj {c c' : Descriptor} (h : (c.val : ℤ) = c'.val) : c = c' :=
  Fin.ext (Nat.cast_injective h)

namespace PollTable

/-- Two connections with the same descriptor are the same. -/
lemma eq_of_fst (h : PollTable t cs) {c c' : Connection} (hc : c ∈ cs) (hc' : c' ∈ cs)
    (heq : c.1 = c'.1) : c = c' := by
  have hat := (h.infos c hc).2.symm.trans (heq ▸ (h.infos c' hc').2)
  refine Prod.ext heq ?_
  injection Option.some.inj hat

/-- The entry of a connection. -/
lemma exists_mem (h : PollTable t cs) {i : ℕ} {e : PollFd} (he : t.fds.toList[i]? = some e)
    (hsfd : e.fd ≠ t.sfd.val) (hused : e.fd ≠ -1) : ∃ c ∈ cs, e.fd = c.1.val :=
  (h.fds.mem i e e.fd he (entryFd_eq_some.mpr ⟨rfl, hused⟩)).resolve_left hsfd

/-- The socket of the server is in the first entry only. -/
lemma eq_zero (h : PollTable t cs) {i : ℕ} {e : PollFd} (he : t.fds.toList[i]? = some e)
    (hsfd : e.fd = t.sfd.val) : i = 0 := by
  obtain ⟨e₀, he₀, hsfd₀⟩ := h.listening
  exact h.fds.inj i 0 e e₀ _ he he₀ (entryFd_of_descriptor hsfd) (entryFd_of_descriptor hsfd₀)

lemma openInTable (h : PollTable t cs) : OpenInTable t cs := by
  refine ⟨h.listening, fun i e hi he => ?_, fun c hc => ?_, h.infos⟩
  · by_cases hused : e.fd = -1
    · exact .inl hused
    · exact .inr (h.exists_mem he (fun hsfd => hi (h.eq_zero he hsfd)) hused)
  · obtain ⟨i, ⟨e, he, hkey⟩, hunique⟩ :=
      h.fds.existsUnique (k := (c.1.val : ℤ)) (.inr ⟨c, hc, rfl⟩)
    exact ⟨i, ⟨e, he, (entryFd_eq_some.mp hkey).1⟩,
      fun j ⟨b, hb, hfd⟩ => hunique j ⟨b, hb, entryFd_of_descriptor hfd⟩⟩

/-- Only the members of the list count. -/
lemma congr (h : PollTable t cs) {cs' : List Connection} (hcs : ∀ c, c ∈ cs' ↔ c ∈ cs) :
    PollTable t cs' := by
  have hfds : openFds t.sfd cs' = openFds t.sfd cs := by
    ext fd
    simp only [mem_openFds, hcs]
  exact ⟨h.inv, h.listening, hfds ▸ h.fds, fun c hc => h.infos c ((hcs c).mp hc),
    fun c hc => h.ne_sfd c ((hcs c).mp hc)⟩

/-! ### New connections -/

/-- **A new connection.** -/
lemma addNewConnections (h : PollTable t cs) {c : Connection} (hsfd : c.1 ≠ t.sfd)
    (hnot : ∀ c' ∈ cs, c.1 ≠ c'.1) :
    ∃ t', t.addNewConnections c.1 c.2 = some t' ∧ PollTable t' (cs ++ [c]) ∧ t'.sfd = t.sfd ∧
      t'.events = t.events := by
  obtain ⟨infos', fds', k, heq, hwf, hlength, hself, hother, hgrows, hl, hfree, -⟩ :=
    addNewConnections_eq h.inv.wf c.1 c.2
  obtain ⟨t₁, heq₁, hinv, hsfd₁, -, -, -, hkeeps⟩ := addNewConnections_spec h.inv c.1 c.2
  obtain rfl := Option.some.inj (heq.symm.trans heq₁)
  have hlt := c.1.isLt
  have hfds : openFds t.sfd (cs ++ [c]) = insert (c.1.val : ℤ) (openFds t.sfd cs) := by
    ext fd
    simp only [mem_openFds, Set.mem_insert_iff, List.mem_append, List.mem_singleton,
      or_and_right, exists_or, exists_eq_left]
    rw [← or_assoc, or_comm]
  have hget : ∀ n, n ≤ infos'.length → infos'.get n = some n := fun n hn =>
    if_neg (not_lt.mpr hn)
  refine ⟨_, heq, ⟨hinv, ?_, ?_, fun c' hc' => ?_, fun c' hc' => ?_⟩, rfl, rfl⟩
  · obtain ⟨e, he, hfd⟩ := h.listening
    exact ⟨e, (hkeeps 0).used 0 le_rfl e he (by rw [hfd]; omega), hfd⟩
  · rw [hfds]
    refine h.fds.place hl (fun b hb => entryFd_eq_none (hfree b hb)) (entryFd_of_descriptor rfl) ?_
    rintro (heq | ⟨c', hc', heq⟩)
    · exact hsfd (val_inj heq)
    · exact hnot c' hc' (val_inj heq)
  · rcases List.mem_append.mp hc' with hc' | hc'
    · obtain ⟨hget', hat⟩ := h.infos c' hc'
      have hle : c'.1.val ≤ t.connectionInfos.length := by
        by_contra hlt
        rw [CArray.get, if_pos (not_le.mp hlt)] at hget'
        cases hget'
      have hne : c'.1.val ≠ c.1.val := fun heq => hnot c' hc' (Fin.ext heq.symm)
      exact ⟨hget _ (by omega), (hother _ hne).trans hat⟩
    · obtain rfl := List.mem_singleton.mp hc'
      exact ⟨hget _ (by omega), hself⟩
  · rcases List.mem_append.mp hc' with hc' | hc'
    · exact h.ne_sfd c' hc'
    · obtain rfl := List.mem_singleton.mp hc'
      exact hsfd

/-- The connections of a list, by induction on it. -/
lemma foldlM (l : List Connection) (h : PollTable t cs) (hfresh : t.Fresh cs l) :
    ∃ t', l.foldlM (fun t a => TcpServer.addNewConnections t a.1 a.2) t = some t' ∧
      PollTable t' (cs ++ l) ∧ t'.events = t.events := by
  induction l generalizing t cs with
  | nil => exact ⟨t, rfl, by rwa [List.append_nil], rfl⟩
  | cons c l ih =>
      obtain ⟨hnodup, hsfd, hnot⟩ := hfresh
      rw [List.map_cons, List.nodup_cons] at hnodup
      obtain ⟨t₁, hadd, h₁, hsfd₁, hevents₁⟩ := h.addNewConnections (hsfd c List.mem_cons_self)
        (hnot c List.mem_cons_self)
      have hfresh₁ : t₁.Fresh (cs ++ [c]) l := by
        refine ⟨hnodup.2, fun c' hc' => ?_, fun c' hc' c'' hc'' => ?_⟩
        · rw [hsfd₁]
          exact hsfd c' (List.mem_cons_of_mem _ hc')
        · rcases List.mem_append.mp hc'' with hc'' | hc''
          · exact hnot c' (List.mem_cons_of_mem _ hc') c'' hc''
          · rw [List.mem_singleton.mp hc'']
            exact fun heq => hnodup.1 (List.mem_map.mpr ⟨c', hc', heq⟩)
      obtain ⟨t₂, hfold, h₂, hevents₂⟩ := ih h₁ hfresh₁
      refine ⟨t₂, ?_, ?_, hevents₂.trans hevents₁⟩
      · rw [List.foldlM_cons, hadd]
        exact hfold
      · rwa [List.append_assoc] at h₂

end PollTable

/-! ### One connection -/

@[simp] lemma closed_append (events events' : List SocketEvent) :
    closed (events ++ events') = closed events ++ closed events' := by
  induction events with
  | nil => rfl
  | cons event events ih =>
      cases event with
      | close fd => exact congrArg (fd :: ·) ih
      | send fd messages => exact ih
      | sendto addr port datagram => exact ih

lemma closed_map_sendto (addr : In6Addr) (port : UInt16) (datagrams : List (List UInt8)) :
    closed (datagrams.map (.sendto addr port)) = [] := by
  induction datagrams with
  | nil => rfl
  | cons _ _ ih => exact ih

/-- `handle_file_dowload` closes no connection. -/
lemma closed_handleFileDowload {env : DownloadEnv} {s s' : Server} {id port : UInt16}
    {addr : In6Addr} {err : UInt8} {events : List SocketEvent}
    (h : s.handleFileDowload env id port addr = some (err, s', events)) : closed events = [] := by
  obtain ⟨r, -, h⟩ := Option.bind_eq_some_iff.mp h
  cases r with
  | none =>
      cases h
      rfl
  | some p =>
      simp only at h
      split at h
      · obtain ⟨s₁, -, h⟩ := Option.bind_eq_some_iff.mp h
        cases h
        exact closed_map_sendto _ _ _
      · cases h
        rfl

/-- Nor does `server_callback`. -/
lemma closed_serverCallback {env : DownloadEnv} {fd : ℤ} {clientrq : ClientRQ}
    {serverrq : ServerRQ} {err : UInt8}
    (h : t.serverCallback env fd clientrq serverrq = some (err, t')) :
    ∃ events, t'.events = t.events ++ events ∧ closed events = [] := by
  rw [serverCallback] at h
  split at h
  · split at h
    · cases h
      exact ⟨[], (List.append_nil _).symm, rfl⟩
    · obtain ⟨infos, -, h⟩ := Option.bind_eq_some_iff.mp h
      obtain ⟨cl, -, h⟩ := Option.bind_eq_some_iff.mp h
      obtain ⟨rq, -, h⟩ := Option.bind_eq_some_iff.mp h
      obtain ⟨⟨err', data, events⟩, hdown, h⟩ := Option.bind_eq_some_iff.mp h
      cases h
      exact ⟨events, rfl, closed_handleFileDowload hdown⟩
  · cases h
    exact ⟨[], (List.append_nil _).symm, rfl⟩

/-- A connection on which `handle_tcp_connection` returns 0 is still open. -/
lemma closed_handleTcpConnection {env : ConnEnv} {fd : ℤ} {b : Bool}
    (h : t.handleTcpConnection env fd = some (0, b, t')) :
    ∃ events, t'.events = t.events ++ events ∧ closed events = [] := by
  rw [handleTcpConnection] at h
  split at h
  · cases h
  · obtain ⟨infos, -, h⟩ := Option.bind_eq_some_iff.mp h
    obtain ⟨c, -, h⟩ := Option.bind_eq_some_iff.mp h
    simp only at h
    split at h
    · cases h
    · obtain ⟨rq, -, h⟩ := Option.bind_eq_some_iff.mp h
      obtain ⟨⟨data, ans⟩, -, h⟩ := Option.bind_eq_some_iff.mp h
      simp only at h
      split at h
      · cases h
      · obtain ⟨⟨err, messages⟩, -, h⟩ := Option.bind_eq_some_iff.mp h
        simp only at h
        split at h
        · cases h
        · obtain ⟨e, -, h⟩ := Option.bind_eq_some_iff.mp h
          obtain ⟨⟨err', t₁⟩, hcall, h⟩ := Option.bind_eq_some_iff.mp h
          simp only at h
          split at h
          · cases h
          · cases h
            obtain ⟨events, hevents, hclosed⟩ := closed_serverCallback hcall
            exact ⟨.send fd messages :: events, by rw [hevents, List.append_assoc]; rfl, hclosed⟩

/-- What has been closed when a connection has been served. -/
lemma Served.closed {fd : ℤ} (h : Served t t' fd) :
    ∃ events, t'.events = t.events ++ events ∧ TcpServer.closed events = [fd] := by
  obtain ⟨m, ms, events, hevents, hclosed⟩ := h
  refine ⟨_, hevents, ?_⟩
  show TcpServer.closed (events ++ [.close fd]) = _
  rw [closed_append, hclosed]
  rfl

namespace PollTable

/-- The request on a connection, when `handle_tcp_connection` returns 0. -/
lemma ownRequest (h : PollTable t cs) {env : ConnEnv} {c : Connection} (hc : c ∈ cs) {b : Bool}
    (hcall : t.handleTcpConnection env c.1.val = some (0, b, t')) : OwnRequest env t c := by
  obtain ⟨hget, hat⟩ := h.infos c hc
  have hget' : t.connectionInfos.get (sizeT c.1.val) = some c.1.val := by
    rw [sizeT_natCast c.1.isLt, hget]
  obtain ⟨rec, hrec⟩ : ∃ rec, recvRequest env.sock env.s .zero = some rec := by
    cases hrec : recvRequest env.sock env.s .zero with
    | some rec => exact ⟨rec, rfl⟩
    | none =>
        simp only [handleTcpConnection, hget', hat, recvClientRequest, hrec, Option.map_none,
          Option.bind_eq_bind, Option.bind_some, Option.bind_none] at hcall
        cases hcall
  obtain ⟨hleaves, -, harriving⟩ := leaves_of_recvRequest clean_zero hrec
  have hgot : arriving env.sock env.s BytesRQ.zero.frame = rec.got := harriving
  rw [hgot] at hleaves
  refine ⟨hat, rec, hrec, hleaves, ?_⟩
  by_cases hcode : rec.exit.code = 0
  · have hrecv : recvClientRequest env.sock env.s .zero =
        some ⟨0, some (decodeClientrq rec.bytesRq), rec.rbytesRq, rec.sock⟩ := by
      rw [recvClientRequest, hrec, Option.map_some, if_neg (not_not.mpr hcode)]
    simp only [handleTcpConnection, hget', hat, hrecv, Option.bind_eq_bind, Option.bind_some]
    rfl
  · have hrecv : recvClientRequest env.sock env.s .zero =
        some ⟨1, none, rec.rbytesRq, rec.sock⟩ := by
      rw [recvClientRequest, hrec, Option.map_some, if_pos hcode]
    simp only [handleTcpConnection, hget', hat, hrecv, Option.bind_eq_bind,
      Option.bind_some] at hcall
    cases hcall

/-- The descriptors without that of a connection. -/
lemma openFds_filter {sfd : Descriptor} {c : Connection} (hc : (c.1.val : ℤ) ≠ sfd.val) :
    openFds sfd (cs.filter fun c' => c'.1 ≠ c.1) = openFds sfd cs \ {(c.1.val : ℤ)} := by
  ext fd
  simp only [mem_openFds, Set.mem_sdiff, Set.mem_singleton_iff, List.mem_filter,
    decide_eq_true_eq]
  constructor
  · rintro (rfl | ⟨c', ⟨hc', hne⟩, rfl⟩)
    · exact ⟨.inl rfl, fun heq => hc heq.symm⟩
    · exact ⟨.inr ⟨c', hc', rfl⟩, fun heq => hne (val_inj heq)⟩
  · rintro ⟨rfl | ⟨c', hc', rfl⟩, hne⟩
    · exact .inl rfl
    · exact .inr ⟨c', ⟨hc', fun heq => hne (by rw [heq])⟩, rfl⟩

/-- A connection is removed: its entry is free, and only its `ConnectionInfos` is another one. -/
lemma remove (h : PollTable t cs) {c : Connection} {i : ℕ} {e : PollFd}
    (he : t.fds.toList[i]? = some e) (hfd : e.fd = c.1.val) (hsfd : e.fd ≠ t.sfd.val)
    (hinv : t'.Inv) (hsfd' : t'.sfd = t.sfd) (hfds : t'.fds = t.fds.write i { e with fd := -1 })
    (hget : ∀ j, t'.connectionInfos.get j = t.connectionInfos.get j)
    (hat : ∀ j ≠ c.1.val, t'.connectionInfos.at? j = t.connectionInfos.at? j) :
    PollTable t' (cs.filter fun c' => c'.1 ≠ c.1) := by
  have hl : Slots.Replaces t.fds.toList t'.fds.toList i { e with fd := -1 } := by
    rw [hfds, FullArray.toList_write]
    exact Slots.replaces_set (List.getElem?_eq_some_iff.mp he).1 _
  refine ⟨hinv, ?_, ?_, fun c' hc' => ?_, fun c' hc' => ?_⟩
  · obtain ⟨e₀, he₀, hsfd₀⟩ := h.listening
    have hne : 0 ≠ i := by
      rintro rfl
      obtain rfl := Option.some.inj (he.symm.trans he₀)
      exact hsfd hsfd₀
    exact ⟨e₀, (hl.other 0 hne).trans he₀, by rw [hsfd']; exact hsfd₀⟩
  · rw [hsfd', openFds_filter (hfd ▸ hsfd)]
    exact h.fds.release hl (entryFd_eq_none rfl) he (entryFd_of_descriptor hfd)
  · obtain ⟨hc', hne⟩ := List.mem_filter.mp hc'
    have hne' : c'.1.val ≠ c.1.val := fun heq => of_decide_eq_true hne (Fin.ext heq)
    obtain ⟨hget', hat'⟩ := h.infos c' hc'
    exact ⟨(hget _).trans hget', (hat _ hne').trans hat'⟩
  · rw [hsfd']
    exact h.ne_sfd c' (List.mem_of_mem_filter hc')

/-- **The entry of a client** whose handler returns 0: the connection is closed, and no longer in
the table. -/
lemma handleReadyFd_client (h : PollTable t cs) {i fds : ℕ} {e : PollFd}
    (hfds : fds = t.fds.toCArray.block) (he : t.fds.toList[i]? = some e) (hrev : e.revents = true)
    (hsfd : e.fd ≠ t.sfd.val) (hused : e.fd ≠ -1)
    (hstep : handleReadyFd env fds t i = some (0, t')) :
    ∃ c ∈ cs, e.fd = c.1.val ∧ OwnRequest (env.conn i) t c ∧ Visited env t t' i ∧
      PollTable t' (cs.filter fun c' => c'.1 ≠ c.1) ∧ Served t t' e.fd := by
  obtain ⟨c, hc, hfd⟩ := h.exists_mem he hsfd hused
  obtain ⟨hget, hat⟩ := h.infos c hc
  have hlt := c.1.isLt
  have hle : c.1.val ≤ t.connectionInfos.length := by
    by_contra hlt
    rw [CArray.get, if_pos (not_le.mp hlt)] at hget
    cases hget
  have hget' : t.connectionInfos.get (sizeT e.fd) = some c.1.val := by
    rw [hfd, sizeT_natCast hlt, hget]
  -- the handler has returned 0, so that the connection has been answered
  rw [handleReadyFd_client_eq env (deref_fds hfds he) hrev hsfd] at hstep
  obtain ⟨⟨err, b, t₁⟩, hcall, hstep⟩ := Option.bind_eq_some_iff.mp hstep
  obtain ⟨-, t₁', infos', hcall', hanswered⟩ | ⟨-, hone⟩ :=
    handleTcpConnection_spec (env.conn i) h.inv.table hget' hat rfl
  swap
  · rw [hone err b t₁ hcall] at hstep
    cases hstep
  cases hcall.symm.trans hcall'
  have hclose := closeConnection_answered hfds he hfd hlt hle hanswered
  obtain ⟨t'', hclose', hvisited⟩ :=
    visited_of_answered env h.inv hfds he hfd hlt hat hle hanswered
  obtain rfl := Option.some.inj (hclose.symm.trans hclose')
  rw [if_neg (not_not.mpr rfl), hclose, Option.map_some] at hstep
  cases hstep
  obtain ⟨m, ms, events, hevents⟩ : ∃ m ms events,
    t₁.events = t.events ++ .send e.fd (m :: ms) :: events := hanswered.events
  obtain ⟨events', hevents', hclosed⟩ := closed_handleTcpConnection hcall
  obtain rfl := List.append_cancel_left (hevents'.symm.trans hevents)
  have htable := h.remove he hfd hsfd hvisited.inv hvisited.sfd_eq rfl (fun _ => rfl)
    fun j hj => CArray.at?_write_of_ne _ _ hj
  rw [hfd] at hcall
  refine ⟨c, hc, hfd, h.ownRequest hc hcall, hvisited, htable, m, ms, events, ?_, hclosed⟩
  · show t₁.events ++ [.close e.fd] = _
    rw [hevents, List.append_assoc, List.cons_append]

end PollTable

end TcpServer

end Megaphone
