import Megaphone.Server.PollTable

/-!
The table `m_fds` over every run of the TCP server: when it tracks exactly the connections that are
open.

* `openConnections`: the connections that `accept` has returned and that have not been closed, by
  what happens on the sockets.
* `Round.Calls`, `Round.ServesOpen`: the calls of `handle_tcp_connection` in a round.
* `Round.Tracks`, `Round.ClosesEntry`: what is meant to hold in a round, and a timeout that closes a
  socket of the table.
* `Progress`, `PollTable.progress`: what the entries in front of one leave.
* `Round.servesOpen`: one round.
* `poll_table_tracks_iff`: every run, whatever descriptors and entries are used once more.
* `TimedOut`: two uploads that are not completed, and a client with the descriptor 0.
-/

namespace Megaphone

open Memory Framing

namespace TcpServer

/-! ### The open connections -/

/-- The connections that `accept` returns in an iteration of the loop. -/
def Round.accepts (r : Round) (t : TcpServer) : List Connection :=
  match r.poll with
  | .ready revents => TcpServer.accepts r.env (r.begins revents t)
  | .timeout => []
  | .error => []

/-- The connections that are not closed. -/
def stillOpen (events : List SocketEvent) (cs : List Connection) : List Connection :=
  cs.filter fun c => !(closed events).contains c.1.val

/-- The connections that are open when `poll` is called: a timeout closes the socket of its
transfer. -/
def Round.openAtPoll (r : Round) (t : TcpServer) (cs : List Connection) : List Connection :=
  stillOpen ((t.data.timedOut r.now).map fun infos => .close infos.sfd) cs

/-- The connections that are open behind an iteration, from the state `t` to `t'`: those that are
open when `poll` is called and those that `accept` has returned, without those that have been closed
since. -/
def Round.openBehind (r : Round) (t t' : TcpServer) (cs : List Connection) : List Connection :=
  stillOpen (t'.events.drop (t.checkTransfersTimeout r.now).events.length)
    (r.openAtPoll t cs ++ r.accepts t)

/-- The connections that are open behind the iterations of a list. -/
def openConnections : List Round → TcpServer → List Connection → List Connection
  | [], _, cs => cs
  | r :: rs, t, cs =>
      match t.tcpServerRound r with
      | some (_, t') => openConnections rs t' (r.openBehind t t' cs)
      | none => cs

/-- In every round of a run `accept` returns descriptors that are not open. -/
def AcceptsFresh (sfd : Descriptor) (rs : List Round) : Prop :=
  ∀ rs₁ r rs₂ t, rs = rs₁ ++ r :: rs₂ → tcpServerLoop rs₁ (tcpServerInit sfd) = some (true, t) →
    t.Fresh (r.openAtPoll t (openConnections rs₁ (tcpServerInit sfd) [])) (r.accepts t)

/-! ### The calls in a round -/

/-- `handle_ready_fds` calls `handle_tcp_connection` on the descriptor `fd`, with the entry `i` and
in the state `tᵢ`. -/
structure Round.Calls (r : Round) (revents : ℕ → Bool) (t : TcpServer) (i : ℕ) (tᵢ : TcpServer)
    (fd : ℤ) : Prop where
  lt : i < (r.begins revents t).fds.length
  reaches : r.Reaches revents t i tᵢ
  entry : ∃ e, tᵢ.fds.toCArray.deref ⟨(r.begins revents t).fds.toCArray.block, i⟩ = some e ∧
    e.revents = true ∧ e.fd = fd
  client : fd ≠ tᵢ.sfd.val

/-- **A round that serves the open connections** `cs`: each one on which something has arrived
exactly once, none that has been accepted in the round, each with its own request. -/
structure Round.ServesOpen (r : Round) (revents : ℕ → Bool) (t : TcpServer)
    (cs : List Connection) : Prop where
  once : ∀ c ∈ cs, (∃ e ∈ (r.begins revents t).fds.toList, e.fd = c.1.val ∧ e.revents = true) →
    ∃! i, ∃ tᵢ, r.Calls revents t i tᵢ c.1.val
  accepted : ∀ c ∈ r.accepts t, ∀ i tᵢ, ¬r.Calls revents t i tᵢ c.1.val
  own : ∀ i tᵢ fd, r.Calls revents t i tᵢ fd → ∃ c ∈ cs, fd = c.1.val ∧
    OwnRequest (r.env.conn i) tᵢ c ∧
    ∃ tₖ, r.Reaches revents t (i + 1) tₖ ∧ Served tᵢ tₖ fd

/-- **The table in a round** that begins in the state `t` with the connections `cs`: it tracks them,
and those that are open when `poll` is called, and the socket of the server is open then; and when
no handler fails, they are served. -/
structure Round.Tracks (r : Round) (t : TcpServer) (cs : List Connection) : Prop where
  begins : OpenInTable t cs
  atPoll : OpenInTable (t.checkTransfersTimeout r.now) (r.openAtPoll t cs)
  listening : (t.sfd.val : ℤ) ∉ closed (t.checkTransfersTimeout r.now).events
  serves : ∀ revents t', r.poll = .ready revents →
    (r.begins revents t).handleReadyFds r.env = some (0, t') →
      r.ServesOpen revents t (r.openAtPoll t cs)

/-- A transfer times out whose socket is a descriptor of the table. -/
def Round.ClosesEntry (r : Round) (t : TcpServer) : Prop :=
  ∃ infos ∈ t.data.timedOut r.now, ∃ e ∈ t.fds.toList, e.fd = infos.sfd

/-! ### One round -/

variable {t t' : TcpServer} {cs : List Connection} {env : RoundEnv}

lemma closed_map_close (l : List FileTransferInfos) :
    closed (l.map fun infos => .close infos.sfd) = l.map fun infos => (infos.sfd : ℤ) := by
  induction l with
  | nil => rfl
  | cons infos l ih => exact congrArg ((infos.sfd : ℤ) :: ·) ih

lemma mem_stillOpen {events : List SocketEvent} {c : Connection} :
    c ∈ stillOpen events cs ↔ c ∈ cs ∧ (c.1.val : ℤ) ∉ closed events := by
  rw [stillOpen, List.mem_filter, Bool.not_eq_true', List.contains_eq_mem, decide_eq_false_iff_not]

lemma mem_stillOpen_nil {c : Connection} : c ∈ stillOpen [] cs ↔ c ∈ cs := by
  rw [mem_stillOpen]
  exact and_iff_left List.not_mem_nil

/-- What the entries in front of number `i` leave, in a round that begins in the state `b` with the
connections `cs`. -/
structure Progress (env : RoundEnv) (b : TcpServer) (cs : List Connection) (i : ℕ)
    (t : TcpServer) : Prop where
  table : ∃ events, t.events = b.events ++ events ∧ (b.sfd.val : ℤ) ∉ closed events ∧
    PollTable t (stillOpen events (cs ++ b.accepts env))
  sfd_eq : t.sfd = b.sfd
  keeps : b.Keeps t i
  block_eq : t.fds.toCArray.block = b.fds.toCArray.block
  length_le : b.fds.toList.length ≤ t.fds.toList.length

variable {b : TcpServer} {i : ℕ}

/-- When something has arrived on the socket of the server. -/
lemma PollTable.accepts_eq (h : PollTable b cs) {e : PollFd} (he : b.fds.toList[0]? = some e)
    (hsfd : e.fd = b.sfd.val) :
    b.accepts env = if e.revents = true then env.accepted else [] := by
  have hany : (b.fds.toList.any fun e => e.fd == b.sfd.val && e.revents) = e.revents := by
    rw [Bool.eq_iff_iff, List.any_eq_true]
    constructor
    · rintro ⟨e', hmem, he'⟩
      rw [Bool.and_eq_true, beq_iff_eq] at he'
      obtain ⟨j, hj⟩ := List.mem_iff_getElem?.mp hmem
      obtain rfl := h.eq_zero hj he'.1
      obtain rfl := Option.some.inj (he.symm.trans hj)
      exact he'.2
    · intro hrev
      exact ⟨e, List.mem_of_getElem? he, by rw [hrev, Bool.and_true, beq_iff_eq, hsfd]⟩
  rw [accepts, hany]

/-- A connection that stays open is left as it is. -/
lemma closeConnection_eq_of_false {fds : ℕ} (h : closeConnection fds t i false = some t') :
    t' = t := by
  obtain ⟨e, -, h⟩ := Option.bind_eq_some_iff.mp h
  split at h
  · cases h
    rfl
  · cases h
    rfl

/-- **The first entry**: the connections that `accept` returns are in the table. -/
lemma PollTable.first (h : PollTable b cs) (hfresh : b.Fresh cs (b.accepts env))
    (hstep : handleReadyFd env b.fds.toCArray.block b 0 = some (0, t')) :
    Progress env b cs 1 t' := by
  obtain ⟨e, he, hsfd⟩ := h.listening
  have haccepts : b.accepts env = _ := h.accepts_eq he hsfd
  cases hrev : e.revents with
  | false =>
      rw [handleReadyFd_idle env rfl he hrev] at hstep
      cases hstep
      rw [hrev, if_neg Bool.false_ne_true] at haccepts
      refine ⟨⟨[], (List.append_nil _).symm, List.not_mem_nil, h.congr fun c => ?_⟩, rfl,
        .refl _ 1, rfl, le_rfl⟩
      rw [mem_stillOpen_nil, haccepts, List.append_nil]
  | true =>
      rw [hrev, if_pos rfl] at haccepts
      rw [haccepts] at hfresh
      obtain ⟨t₁, hfold, h₁, hevents⟩ := h.foldlM env.accepted hfresh
      have heval : handleReadyFd env b.fds.toCArray.block b 0 =
          if env.acceptFails = true then some (1, t₁)
          else (closeConnection b.fds.toCArray.block t₁ 0 false).map fun t => (0, t) := by
        simp only [handleReadyFd, deref_fds rfl he, hrev, hsfd, acceptNewConnections, hfold,
          Option.bind_eq_bind, Option.bind_some, Option.map_some, if_true, Bool.true_eq_false,
          if_false]
        cases env.acceptFails <;> rfl
      cases haccept : env.acceptFails with
      | true =>
          rw [heval, haccept, if_pos rfl] at hstep
          cases hstep
      | false =>
          obtain ⟨-, t'', hstep', hvisited⟩ | ⟨-, hnone⟩ :=
            handleReadyFd_server h.inv rfl he hrev hsfd haccept
          · cases hstep.symm.trans hstep'
            rw [heval, haccept, if_neg Bool.false_ne_true] at hstep
            obtain ⟨t'', hclose, heq⟩ := Option.map_eq_some_iff.mp hstep
            cases heq
            obtain rfl := closeConnection_eq_of_false hclose
            refine ⟨⟨[], by rw [hevents, List.append_nil], List.not_mem_nil,
              h₁.congr fun c => ?_⟩, hvisited.sfd_eq, hvisited.keeps, hvisited.block_eq,
              hvisited.length_le⟩
            rw [mem_stillOpen_nil, haccepts]
          · cases hnone.symm.trans hstep

/-- **The entries behind it**: a client on whose connection something has arrived is served, and its
connection is no longer in the table. -/
lemma Progress.next (h : Progress env b cs i t) (hpolled : b.Polled 0) (hi : i ≠ 0)
    (hlt : i < b.fds.toList.length)
    (hstep : handleReadyFd env b.fds.toCArray.block t i = some (0, t')) :
    Progress env b cs (i + 1) t' := by
  obtain ⟨events, hevents, hlistening, htable⟩ := h.table
  obtain ⟨e, he⟩ : ∃ e, t.fds.toList[i]? = some e :=
    ⟨_, List.getElem?_eq_getElem (hlt.trans_le h.length_le)⟩
  cases hrev : e.revents with
  | false =>
      rw [handleReadyFd_idle env h.block_eq.symm he hrev] at hstep
      cases hstep
      exact ⟨⟨events, hevents, hlistening, htable⟩, h.sfd_eq,
        h.keeps.trans (.refl t (i + 1)) (Nat.le_succ i), h.block_eq, h.length_le⟩
  | true =>
      have hold := h.keeps.new i le_rfl e he hrev
      have hsfd : e.fd ≠ t.sfd.val := fun hsfd => hi (htable.eq_zero he hsfd)
      have hused := hpolled i (Nat.zero_le i) e hold hrev
      obtain ⟨c, hc, hfd, -, hvisited, htable', hserved⟩ :=
        htable.handleReadyFd_client h.block_eq.symm he hrev hsfd hused hstep
      obtain ⟨events', hevents', hclosed⟩ := hserved.closed
      refine ⟨⟨events ++ events', by rw [hevents', hevents, List.append_assoc], ?_,
        htable'.congr fun c' => ?_⟩, hvisited.sfd_eq.trans h.sfd_eq,
        h.keeps.trans hvisited.keeps (Nat.le_succ i), hvisited.block_eq.trans h.block_eq,
        h.length_le.trans hvisited.length_le⟩
      · rw [closed_append, hclosed, List.mem_append, List.mem_singleton, not_or, ← h.sfd_eq]
        exact ⟨h.sfd_eq ▸ hlistening, hsfd.symm⟩
      have hmem : (c'.1.val : ℤ) ∈ closed (events ++ events') ↔
          (c'.1.val : ℤ) ∈ closed events ∨ c'.1 = c.1 := by
        rw [closed_append, hclosed, hfd, List.mem_append, List.mem_singleton]
        exact or_congr_right ⟨val_inj, fun heq => by rw [heq]⟩
      rw [List.mem_filter, mem_stillOpen, mem_stillOpen, hmem, not_or, decide_eq_true_eq, and_assoc]

/-- Every entry that the loop comes to. -/
lemma PollTable.progress (h : PollTable b cs) (hfresh : b.Fresh cs (b.accepts env))
    (hpolled : b.Polled 0) (hcomes : ComesTo env b.fds.toCArray.block 0 b i t) (hi : i ≠ 0)
    (hle : i ≤ b.fds.toList.length) : Progress env b cs i t := by
  induction hcomes with
  | start => exact absurd rfl hi
  | @next i t t' hcomes hstep ih =>
      by_cases hzero : i = 0
      · subst hzero
        cases hcomes with
        | start => exact h.first hfresh hstep
      · exact (ih hzero (Nat.le_of_succ_le hle)).next hpolled hzero hle hstep

/-- The loop of `handle_ready_fds` comes to every entry, in one state only. -/
lemma ComesTo.unique {fds i₀ : ℕ} {t₀ : TcpServer} (h : ComesTo env fds i₀ t₀ i t)
    (h' : ComesTo env fds i₀ t₀ i t') : t = t' := by
  induction h generalizing t' with
  | start =>
      cases h' with
      | start => rfl
      | next h' _ =>
          have := h'.le
          omega
  | @next i t t₁ h hstep ih =>
      cases h' with
      | start =>
          have := h.le
          omega
      | next h' hstep' =>
          obtain rfl := ih h'
          cases hstep.symm.trans hstep'
          rfl

/-- When `handle_ready_fds` returns 0, every entry is done with. -/
lemma comesTo_of_handleReadyFdsFrom {fds : ℕ} (n : ℕ) : ∀ {i : ℕ} {t : TcpServer},
    handleReadyFdsFrom env fds n i t = some (0, t') →
    ComesTo env fds i t (i + n) t' ∧ ∀ j, i ≤ j → j < i + n → ∃ tⱼ tₖ,
      ComesTo env fds i t j tⱼ ∧ handleReadyFd env fds tⱼ j = some (0, tₖ) := by
  induction n with
  | zero =>
      intro i t h
      cases h
      refine ⟨.start, fun j hj hlt => ?_⟩
      omega
  | succ n ih =>
      intro i t h
      obtain ⟨⟨err, t₁⟩, hstep, h⟩ := Option.bind_eq_some_iff.mp h
      simp only at h
      split at h
      · cases h
      · next herr =>
          obtain rfl := not_not.mp herr
          obtain ⟨hend, hall⟩ := ih h
          refine ⟨?_, fun j hj hlt => ?_⟩
          · rw [show i + (n + 1) = i + 1 + n by omega]
            exact hend.cons hstep
          · obtain rfl | hj := Nat.eq_or_lt_of_le hj
            · exact ⟨t, t₁, .start, hstep⟩
            · obtain ⟨tⱼ, tₖ, hⱼ, hₖ⟩ := hall j hj (by omega)
              exact ⟨tⱼ, tₖ, hⱼ.cons hstep, hₖ⟩

/-- What `poll` writes keeps the table. -/
lemma PollTable.begins {r : Round} (h : PollTable t cs) (revents : ℕ → Bool) :
    PollTable (r.begins revents t) cs := by
  have hlist : ∀ i : ℕ, (r.begins revents t).fds.toList[i]? =
      t.fds.toList[i]?.map fun e => { e with revents := revents i && 0 ≤ e.fd } := by
    intro i
    rw [Round.begins, pollFds, FullArray.toList_mapIdx, List.getElem?_mapIdx]
    rfl
  refine ⟨h.inv.pollFds revents, ?_, h.fds.congr fun i => ?_, h.infos, h.ne_sfd⟩
  · obtain ⟨e, he, hsfd⟩ := h.listening
    exact ⟨_, (hlist 0).trans (congrArg _ he), hsfd⟩
  · rw [hlist, Option.map_map]
    rfl

/-- A state that the loop comes to: the entries from there on that something has arrived on are as
they were. -/
lemma PollTable.keeps (h : PollTable b cs) (hfresh : b.Fresh cs (b.accepts env))
    (hpolled : b.Polled 0) (hcomes : ComesTo env b.fds.toCArray.block 0 b i t)
    (hle : i ≤ b.fds.toList.length) :
    t.sfd = b.sfd ∧ b.Keeps t i ∧ t.fds.toCArray.block = b.fds.toCArray.block ∧
      b.fds.toList.length ≤ t.fds.toList.length := by
  by_cases hi : i = 0
  · subst hi
    cases hcomes with
    | start => exact ⟨rfl, .refl _ 0, rfl, le_rfl⟩
  · have hprogress := h.progress hfresh hpolled hcomes hi hle
    exact ⟨hprogress.sfd_eq, hprogress.keeps, hprogress.block_eq, hprogress.length_le⟩

namespace Round

variable {r : Round} {revents : ℕ → Bool} {tᵢ : TcpServer} {fd : ℤ}

/-- The entry with which `handle_tcp_connection` is called is one on which something has arrived
when the round begins. -/
lemma Calls.entry_begins (hcall : r.Calls revents t i tᵢ fd)
    (h : PollTable (r.begins revents t) cs)
    (hfresh : (r.begins revents t).Fresh cs ((r.begins revents t).accepts r.env)) :
    ∃ e, tᵢ.fds.toList[i]? = some e ∧ (r.begins revents t).fds.toList[i]? = some e ∧
      e.revents = true ∧ e.fd = fd ∧ fd ≠ t.sfd.val := by
  obtain ⟨hlt, hreaches, ⟨e, hderef, hrev, hfd⟩, hclient⟩ := hcall
  rw [FullArray.length_eq] at hlt
  obtain ⟨hsfd, hkeeps, hblock, hlen⟩ :=
    h.keeps hfresh (polled_pollFds _ revents 0) hreaches hlt.le
  have he := List.getElem?_eq_getElem (hlt.trans_le hlen)
  obtain rfl := Option.some.inj (hderef.symm.trans (deref_fds hblock.symm he))
  rw [hsfd] at hclient
  exact ⟨_, he, hkeeps.new i le_rfl _ he hrev, hrev, hfd, hclient⟩

/-- An open connection on which something has arrived is served once. -/
lemma served_once (h : PollTable (r.begins revents t) cs)
    (hfresh : (r.begins revents t).Fresh cs ((r.begins revents t).accepts r.env))
    (hall : ∀ j < (r.begins revents t).fds.toList.length, ∃ tⱼ tₖ, r.Reaches revents t j tⱼ ∧
      handleReadyFd r.env (r.begins revents t).fds.toCArray.block tⱼ j = some (0, tₖ))
    {c : Connection} (hc : c ∈ cs)
    (hready : ∃ e ∈ (r.begins revents t).fds.toList, e.fd = c.1.val ∧ e.revents = true) :
    ∃! i, ∃ tᵢ, r.Calls revents t i tᵢ c.1.val := by
  obtain ⟨e, hmem, hfd, hrev⟩ := hready
  obtain ⟨j, hj⟩ := List.mem_iff_getElem?.mp hmem
  have hlt := (List.getElem?_eq_some_iff.mp hj).1
  obtain ⟨tⱼ, -, hreaches, -⟩ := hall j hlt
  obtain ⟨hsfd, hkeeps, hblock, -⟩ :=
    h.keeps hfresh (polled_pollFds _ revents 0) hreaches hlt.le
  have hused : e.fd ≠ -1 := by
    rw [hfd]
    omega
  refine ⟨j, ⟨tⱼ, by rwa [FullArray.length_eq], hreaches, ⟨e, ?_, hrev, hfd⟩, ?_⟩,
    fun i hserved => ?_⟩
  · exact deref_fds hblock.symm (hkeeps.used j le_rfl e hj hused)
  · rw [hsfd]
    exact fun heq => h.ne_sfd c hc (val_inj heq)
  · obtain ⟨tᵢ, hcall⟩ := hserved
    obtain ⟨e', -, hi, -, hfd', -⟩ := hcall.entry_begins h hfresh
    exact h.fds.inj i j e' e _ hi hj (entryFd_of_descriptor hfd') (entryFd_of_descriptor hfd)

/-- A connection that has been accepted in the round is not served. -/
lemma not_calls_accepted (h : PollTable (r.begins revents t) cs)
    (hfresh : (r.begins revents t).Fresh cs ((r.begins revents t).accepts r.env))
    {c : Connection} (hc : c ∈ (r.begins revents t).accepts r.env) :
    ¬r.Calls revents t i tᵢ c.1.val := by
  intro hcall
  obtain ⟨e, -, he, -, hfd, hclient⟩ := hcall.entry_begins h hfresh
  obtain ⟨c', hc', hfd'⟩ := h.exists_mem he (by rwa [hfd]) (by rw [hfd]; omega)
  exact hfresh.notMem c hc c' hc' (val_inj (hfd.symm.trans hfd'))

/-- What is served is an open connection, with the request that has arrived on it. -/
lemma served_own (h : PollTable (r.begins revents t) cs)
    (hfresh : (r.begins revents t).Fresh cs ((r.begins revents t).accepts r.env))
    (hall : ∀ j < (r.begins revents t).fds.toList.length, ∃ tⱼ tₖ, r.Reaches revents t j tⱼ ∧
      handleReadyFd r.env (r.begins revents t).fds.toCArray.block tⱼ j = some (0, tₖ))
    (hcall : r.Calls revents t i tᵢ fd) :
    ∃ c ∈ cs, fd = c.1.val ∧ OwnRequest (r.env.conn i) tᵢ c ∧
      ∃ tₖ, r.Reaches revents t (i + 1) tₖ ∧ Served tᵢ tₖ fd := by
  have hpolled : (r.begins revents t).Polled 0 := polled_pollFds _ revents 0
  obtain ⟨e, hi, he, hrev, rfl, hclient⟩ := hcall.entry_begins h hfresh
  have hlt := (List.getElem?_eq_some_iff.mp he).1
  have hused := hpolled i (Nat.zero_le i) e he hrev
  obtain ⟨c, hc, hfd⟩ := h.exists_mem he hclient hused
  have hzero : i ≠ 0 := by
    rintro rfl
    obtain ⟨e₀, he₀, hsfd⟩ := h.listening
    obtain rfl := Option.some.inj (he.symm.trans he₀)
    exact hclient hsfd
  have hprogress := h.progress hfresh hpolled hcall.reaches hzero hlt.le
  obtain ⟨events, -, -, htable⟩ := hprogress.table
  obtain ⟨tᵢ', tₖ, hreaches', hstep⟩ := hall i hlt
  obtain rfl := hcall.reaches.unique hreaches'
  obtain ⟨c', hc', hfd', hown, -, -, hserved⟩ :=
    htable.handleReadyFd_client hprogress.block_eq.symm hi hrev hcall.client hused hstep
  have heq := val_inj (hfd.symm.trans hfd')
  obtain rfl : c = c' := by
    rcases List.mem_append.mp (mem_stillOpen.mp hc').1 with hc' | hc'
    · exact h.eq_of_fst hc hc' heq
    · exact absurd heq.symm (hfresh.notMem c' hc' c hc)
  exact ⟨c, hc, hfd, hown, tₖ, .next hcall.reaches hstep, hserved⟩

/-- **A round in which no handler fails** serves the connections that are open when `poll` is
called, and keeps the table. -/
lemma servesOpen (h : PollTable t cs) (hpoll : r.poll = .ready revents)
    (hfresh : t.Fresh cs (r.accepts t))
    (hret : (r.begins revents t).handleReadyFds r.env = some (0, t')) :
    r.ServesOpen revents t cs ∧ t'.sfd = t.sfd ∧
      ∃ events, t'.events = (t.checkTransfersTimeout r.now).events ++ events ∧
        (t.sfd.val : ℤ) ∉ closed events ∧ PollTable t' (stillOpen events (cs ++ r.accepts t)) := by
  have haccepts : r.accepts t = (r.begins revents t).accepts r.env := by
    rw [Round.accepts, hpoll]
  have hb := h.begins (r := r) revents
  have hfreshb : (r.begins revents t).Fresh cs ((r.begins revents t).accepts r.env) := by
    rw [← haccepts]
    exact ⟨hfresh.nodup, hfresh.ne_sfd, hfresh.notMem⟩
  rw [handleReadyFds, FullArray.length_eq] at hret
  obtain ⟨hend, hall⟩ := comesTo_of_handleReadyFdsFrom _ hret
  rw [Nat.zero_add] at hend hall
  have hall' := fun j hj => hall j (Nat.zero_le j) hj
  refine ⟨⟨fun c hc hready => served_once hb hfreshb hall' hc hready, fun c hc i tᵢ => ?_,
    fun i tᵢ fd hcall => served_own hb hfreshb hall' hcall⟩, ?_⟩
  · rw [haccepts] at hc
    exact not_calls_accepted hb hfreshb hc
  · obtain ⟨e₀, he₀, -⟩ := hb.listening
    have hpos := (List.getElem?_eq_some_iff.mp he₀).1
    have hprogress :=
      hb.progress hfreshb (polled_pollFds _ revents 0) hend (by omega) le_rfl
    rw [haccepts]
    exact ⟨hprogress.sfd_eq, hprogress.table⟩

/-- The connections that are open when `poll` is called, when no timeout closes one of the table. -/
lemma mem_openAtPoll (h : PollTable t cs) (hnot : ¬r.ClosesEntry t) (c : Connection) :
    c ∈ r.openAtPoll t cs ↔ c ∈ cs := by
  rw [openAtPoll, mem_stillOpen, closed_map_close, List.mem_map]
  refine and_iff_left_of_imp fun hc hclosed => hnot ?_
  obtain ⟨infos, hinfos, heq⟩ := hclosed
  obtain ⟨i, ⟨e, he, hfd⟩, -⟩ := h.openInTable.existsUnique c hc
  exact ⟨infos, hinfos, e, List.mem_of_getElem? he, by rw [hfd, heq]⟩

/-- Nor does one then close the socket of the server. -/
lemma listening_of_not_closesEntry (h : PollTable t cs)
    (hopen : (t.sfd.val : ℤ) ∉ closed t.events) (hnot : ¬r.ClosesEntry t) :
    (t.sfd.val : ℤ) ∉ closed (t.checkTransfersTimeout r.now).events := by
  obtain ⟨e, he, hfd⟩ := h.listening
  show (t.sfd.val : ℤ) ∉ closed (t.events ++ _)
  rw [closed_append, closed_map_close, List.mem_append, not_or, List.mem_map]
  refine ⟨hopen, fun ⟨infos, hinfos, heq⟩ => hnot ⟨infos, hinfos, e, List.mem_of_getElem? he, ?_⟩⟩
  rw [hfd, heq]

/-- **A round** in which no timeout closes a socket of the table. -/
lemma tracks (h : PollTable t cs) (hopen : (t.sfd.val : ℤ) ∉ closed t.events)
    (hfresh : t.Fresh (r.openAtPoll t cs) (r.accepts t)) (hnot : ¬r.ClosesEntry t) :
    r.Tracks t cs := by
  have hpoll := h.congr (mem_openAtPoll h hnot)
  refine ⟨h.openInTable, ?_, listening_of_not_closesEntry h hopen hnot, fun revents t' heq hret =>
    (servesOpen hpoll heq hfresh hret).1⟩
  obtain ⟨hlistening, hentries, hunique, hinfos⟩ := hpoll.openInTable
  exact ⟨hlistening, hentries, hunique, hinfos⟩

/-- When a timeout closes a socket of the table, there is an entry that is not open. -/
lemma Tracks.not_closesEntry (h : r.Tracks t cs) : ¬r.ClosesEntry t := by
  rintro ⟨infos, hinfos, e, he, hfd⟩
  have hclosed : e.fd ∈ closed ((t.data.timedOut r.now).map fun infos => .close infos.sfd) := by
    rw [closed_map_close, hfd]
    exact List.mem_map_of_mem hinfos
  obtain ⟨i, hi⟩ := List.mem_iff_getElem?.mp he
  by_cases hzero : i = 0
  · subst hzero
    obtain ⟨e₀, he₀, hsfd⟩ := h.begins.listening
    obtain rfl := Option.some.inj (hi.symm.trans he₀)
    refine h.listening ?_
    show (t.sfd.val : ℤ) ∈ closed (t.events ++ _)
    rw [closed_append, List.mem_append, ← hsfd]
    exact .inr hclosed
  · obtain hfree | ⟨c, hc, hfd'⟩ := h.atPoll.entries i e hzero hi
    · omega
    · exact (mem_stillOpen.mp hc).2 (hfd' ▸ hclosed)

/-- An iteration of the loop behind which it goes on keeps the table. -/
lemma pollTable (h : PollTable t cs) (hopen : (t.sfd.val : ℤ) ∉ closed t.events)
    (hfresh : t.Fresh (r.openAtPoll t cs) (r.accepts t)) (hnot : ¬r.ClosesEntry t)
    (hround : t.tcpServerRound r = some (true, t')) :
    PollTable t' (r.openBehind t t' cs) ∧ t'.sfd = t.sfd ∧ (t'.sfd.val : ℤ) ∉ closed t'.events := by
  have hatPoll := h.congr (mem_openAtPoll h hnot)
  have hlistening := listening_of_not_closesEntry h hopen hnot
  rw [tcpServerRound] at hround
  cases hpoll : r.poll with
  | error =>
      simp only [hpoll] at hround
      cases hround
  | timeout =>
      simp only [hpoll] at hround
      cases hround
      refine ⟨(hatPoll.begins (r := r) fun _ => false).congr fun c => ?_, rfl, hlistening⟩
      have hdrop : (r.begins (fun _ => false) t).events.drop
          (t.checkTransfersTimeout r.now).events.length = [] := List.drop_length
      have haccepts : r.accepts t = [] := by rw [Round.accepts, hpoll]
      show c ∈ stillOpen ((r.begins (fun _ => false) t).events.drop _) _ ↔ _
      rw [hdrop, haccepts, List.append_nil, mem_stillOpen_nil]
  | ready revents =>
      simp only [hpoll] at hround
      obtain ⟨⟨err, t''⟩, hret, heq⟩ := Option.map_eq_some_iff.mp hround
      obtain ⟨herr, rfl⟩ := Prod.mk.inj heq
      obtain rfl : err = 0 := beq_iff_eq.mp herr
      obtain ⟨-, hsfd, events, hevents, hkept, htable⟩ := servesOpen hatPoll hpoll hfresh hret
      refine ⟨?_, hsfd, ?_⟩
      · rwa [openBehind, hevents, List.drop_left]
      · rw [hevents, closed_append, List.mem_append, not_or, hsfd]
        exact ⟨hlistening, hkept⟩

end Round

/-! ### Runs -/

/-- The connections that are open behind one more iteration. -/
lemma openConnections_snoc {rs : List Round} {r : Round} {t₁ : TcpServer} {active : Bool}
    (h : tcpServerLoop rs t = some (true, t₁)) (hround : t₁.tcpServerRound r = some (active, t')) :
    openConnections (rs ++ [r]) t cs = r.openBehind t₁ t' (openConnections rs t cs) := by
  induction rs generalizing t cs with
  | nil =>
      cases h
      simp only [List.nil_append, openConnections, hround]
  | cons r' rs ih =>
      obtain ⟨⟨active', t₂⟩, hround', h⟩ := Option.bind_eq_some_iff.mp h
      cases active' with
      | false => cases h
      | true =>
          simp only [List.cons_append, openConnections, hround']
          exact ih h

/-- Before any iteration no connection is open. -/
lemma pollTable_tcpServerInit (sfd : Descriptor) : PollTable (tcpServerInit sfd) [] := by
  have hlist : (tcpServerInit sfd).fds.toList = [⟨sfd.val, false⟩] := rfl
  refine ⟨inv_tcpServerInit sfd, ⟨_, by rw [hlist]; rfl, rfl⟩, ⟨fun i e fd he hfd => ?_,
    fun fd hfd => ?_, fun i j e e' fd he he' _ _ => ?_⟩, fun c hc => absurd hc List.not_mem_nil,
    fun c hc => absurd hc List.not_mem_nil⟩
  · rw [hlist] at he
    obtain rfl := List.mem_singleton.mp (List.mem_of_getElem? he)
    exact .inl (entryFd_eq_some.mp hfd).1.symm
  · obtain rfl | ⟨c, hc, -⟩ := hfd
    · exact ⟨0, ⟨sfd.val, false⟩, by rw [hlist]; rfl, entryFd_of_descriptor rfl⟩
    · exact absurd hc List.not_mem_nil
  · rw [hlist] at he he'
    have hi := (List.getElem?_eq_some_iff.mp he).1
    have hj := (List.getElem?_eq_some_iff.mp he').1
    rw [List.length_singleton] at hi hj
    omega

lemma AcceptsFresh.left {sfd : Descriptor} {rs rs' : List Round}
    (h : AcceptsFresh sfd (rs ++ rs')) : AcceptsFresh sfd rs := by
  rintro rs₁ r rs₂ t rfl ht
  exact h rs₁ r (rs₂ ++ rs') t (by rw [List.append_assoc, List.cons_append]) ht

/-- In no round of a run a timeout closes a socket of the table. -/
def KeepsEntries (sfd : Descriptor) (rs : List Round) : Prop :=
  ∀ rs₁ r rs₂ t, rs = rs₁ ++ r :: rs₂ → tcpServerLoop rs₁ (tcpServerInit sfd) = some (true, t) →
    ¬r.ClosesEntry t

lemma KeepsEntries.left {sfd : Descriptor} {rs rs' : List Round}
    (h : KeepsEntries sfd (rs ++ rs')) : KeepsEntries sfd rs := by
  rintro rs₁ r rs₂ t rfl ht
  exact h rs₁ r (rs₂ ++ rs') t (by rw [List.append_assoc, List.cons_append]) ht

/-- The invariant over a run, by the number of iterations. -/
lemma pollTable_tcpServerLoop {sfd : Descriptor} {rs : List Round} (hfresh : AcceptsFresh sfd rs)
    (hkeeps : KeepsEntries sfd rs)
    (h : tcpServerLoop rs (tcpServerInit sfd) = some (true, t)) :
    PollTable t (openConnections rs (tcpServerInit sfd) []) ∧ t.sfd = sfd ∧
      (t.sfd.val : ℤ) ∉ closed t.events := by
  induction rs using List.reverseRecOn generalizing t with
  | nil =>
      cases h
      exact ⟨pollTable_tcpServerInit sfd, rfl, List.not_mem_nil⟩
  | append_singleton rs r ih =>
      obtain ⟨t₁, hloop, hround⟩ := tcpServerLoop_snoc h
      obtain ⟨htable, hsfd, hopen⟩ := ih hfresh.left hkeeps.left hloop
      obtain ⟨htable', hsfd', hopen'⟩ := Round.pollTable htable hopen
        (hfresh rs r [] t₁ rfl hloop) (hkeeps rs r [] t₁ rfl hloop) hround
      rw [openConnections_snoc hloop hround]
      exact ⟨htable', hsfd'.trans hsfd, hopen'⟩

/-- **The table and the open connections.**  Over every run of the loop in which `accept` returns
descriptors that are not open, the table tracks exactly the open connections in each round that the
loop comes to, if and only if in none of these rounds a transfer times out whose socket is a
descriptor of the table.  That the table tracks them means: when the round begins, and when `poll`
is called, each open connection is in exactly one entry behind that of the server, with its own
record; and when no handler fails in the round, each open connection on which something has arrived
is served exactly once, those accepted meanwhile are not, and every request is decoded from what has
been received on its own connection. -/
theorem poll_table_tracks_iff (sfd : Descriptor) {rs : List Round} (hfresh : AcceptsFresh sfd rs) :
    (∀ rs₁ r rs₂ t, rs = rs₁ ++ r :: rs₂ →
      tcpServerLoop rs₁ (tcpServerInit sfd) = some (true, t) →
        t.sfd = sfd ∧ r.Tracks t (openConnections rs₁ (tcpServerInit sfd) [])) ↔
    ∀ rs₁ r rs₂ t, rs = rs₁ ++ r :: rs₂ →
      tcpServerLoop rs₁ (tcpServerInit sfd) = some (true, t) →
        ¬∃ infos ∈ t.data.timedOut r.now, ∃ e ∈ t.fds.toList, e.fd = infos.sfd := by
  constructor
  · intro h rs₁ r rs₂ t hsplit ht
    exact (h rs₁ r rs₂ t hsplit ht).2.not_closesEntry
  · rintro h rs₁ r rs₂ t rfl ht
    have hkeeps : KeepsEntries sfd (rs₁ ++ r :: rs₂) := h
    obtain ⟨htable, hsfd, hopen⟩ := pollTable_tcpServerLoop hfresh.left hkeeps.left ht
    exact ⟨hsfd, Round.tracks htable hopen (hfresh rs₁ r rs₂ t rfl ht) (h rs₁ r rs₂ t rfl ht)⟩

/-! ### A connection that is answered -/

/-- On a connection a request arrives that takes the data `s` to `s'`, and the messages `ms` of its
answer are sent, which is not the one to a download. -/
structure Exchanges (env : ConnEnv) (s s' : Server) (ms : List (List UInt8)) : Prop where
  exchanged : ∃ rq rb σ' ans e,
    recvClientRequest env.sock env.s .zero = some ⟨0, some rq, rb, σ'⟩ ∧
    (env.others.act s).handleTcpConnection env.env rq = some (s', ans) ∧ ans.code = 0 ∧
    ans.send env.send = some (0, ms) ∧ ans.entry 0 = some e ∧ e.type ≠ DOWNLOAD

variable {s' : Server} {ms : List (List UInt8)} {infos : ConnectionInfos}

/-- A handler that answers a request returns 0. -/
lemma Exchanges.handleTcpConnection {env : ConnEnv} {fd : ℤ} {i : ℕ}
    (h : Exchanges env t.data s' ms) (hget : t.connectionInfos.get (sizeT fd) = some i)
    (hat : t.connectionInfos.at? i = some infos) (hcarry : infos.rbRq = .zero) :
    ∃ rb, t.handleTcpConnection env fd = some (0, true, { t with
      data := s'
      connectionInfos := t.connectionInfos.write i { infos with rbRq := rb }
      events := t.events ++ [.send fd ms] }) := by
  obtain ⟨rq, rb, σ', ans, e, hrecv, hconn, hcode, hsend, he, htype⟩ := h.exchanged
  refine ⟨rb, ?_⟩
  simp only [TcpServer.handleTcpConnection, hget, hat, hcarry, hrecv, Option.bind_eq_bind,
    Option.bind_some]
  rw [if_neg (not_not.mpr rfl)]
  simp only [answerRequest, hconn, Option.bind_eq_bind, Option.bind_some]
  rw [if_neg (not_not.mpr hcode)]
  simp only [hsend, he, Option.bind_some]
  rw [if_neg (not_not.mpr rfl)]
  simp only [serverCallback, if_neg htype]
  rfl

/-- Behind the entry `i` of a client that is answered, on the descriptor `n`. -/
structure Exchanged (t t' : TcpServer) (i n : ℕ) (s' : Server) : Prop where
  data_eq : t'.data = s'
  sfd_eq : t'.sfd = t.sfd
  fds_eq : t'.fds = t.fds.write i ⟨-1, true⟩
  connectionInfos_eq : t'.connectionInfos = t.connectionInfos.write n CZero.zero

lemma Exchanged.block_eq {i n : ℕ} (h : Exchanged t t' i n s') :
    t'.fds.toCArray.block = t.fds.toCArray.block := by
  rw [h.fds_eq]
  rfl

lemma Exchanged.toList_eq {i n : ℕ} {l : List PollFd} (h : Exchanged t t' i n s')
    (hl : t.fds.toList = l) : t'.fds.toList = l.set i ⟨-1, true⟩ := by
  rw [h.fds_eq, FullArray.toList_write, hl]

/-- The entry of a client that is answered. -/
lemma Exchanges.handleReadyFd {fds i n : ℕ} {e : PollFd} (h : Exchanges (env.conn i) t.data s' ms)
    (hfds : fds = t.fds.toCArray.block) (he : t.fds.toList[i]? = some e) (hrev : e.revents = true)
    (hsfd : e.fd ≠ t.sfd.val) (hn : e.fd = n) (hlt : n < 2 ^ 31)
    (hget : t.connectionInfos.get n = some n) (hat : t.connectionInfos.at? n = some infos)
    (hcarry : infos.rbRq = .zero) :
    ∃ t', t.handleReadyFd env fds i = some (0, t') ∧ Exchanged t t' i n s' := by
  have hsize : sizeT e.fd = n := by rw [hn, sizeT_natCast hlt]
  obtain ⟨rb, hcall⟩ := h.handleTcpConnection
    (show t.connectionInfos.get (sizeT e.fd) = some n by rw [hsize, hget]) hat hcarry
  have hclose : ∀ j infos', (t.connectionInfos.write j infos').get n = some n := fun _ _ => hget
  rw [handleReadyFd_client_eq env (deref_fds hfds he) hrev hsfd, hcall, Option.bind_some,
    if_neg (not_not.mpr rfl)]
  simp only [closeConnection, deref_fds hfds he, hsize, hclose, Option.bind_eq_bind,
    Option.bind_some, if_true, CArray.write_write, Option.map_some]
  exact ⟨_, rfl, rfl, rfl, by rw [hrev], rfl⟩

/-- What `poll` writes into the entries. -/
lemma toList_begins (r : Round) (revents : ℕ → Bool) {l : List PollFd} (h : t.fds.toList = l) :
    (r.begins revents t).fds.toList =
      l.mapIdx fun i e => { e with revents := revents i && 0 ≤ e.fd } := by
  rw [Round.begins, pollFds, FullArray.toList_mapIdx]
  show t.fds.toList.mapIdx _ = _
  rw [h]

namespace TwoClients

/-- A connection on which bytes and a terminator arrive. -/
def brings (env : Env) (bytes : List UInt8) : ConnEnv :=
  { RecvError.quiet _ chunkSocket [bytes ++ CR :: [LF]] with env := env }

/-- What they are decoded to. -/
lemma recv_brings (env : Env) {bytes : List UInt8} (h : CR ∉ bytes)
    (hlen : (bytes ++ CR :: [LF]).length ≤ BUFSIZ) :
    recvClientRequest (brings env bytes).sock (brings env bytes).s .zero =
      some ⟨0, some (decodeClientrq (cutFrame bytes [LF])), bytesOf [], []⟩ :=
  congrArg (Option.map _) (recvRequest_chunk h hlen [])

/-- A connection on which a registration arrives. -/
def registers : ConnEnv := brings (.quiet [0]) ([0, 1] ++ List.replicate 10 97)

/-- Two clients connect. -/
def connect : Round :=
  ⟨0, .ready fun i => i == 0,
    ⟨[(4, .replicate 16 1), (5, .replicate 16 2)], false, fun _ => registers⟩⟩

/-- A registration has arrived on the connection of the first one. -/
def serve : Round := ⟨0, .ready fun i => i == 1, ⟨[], false, fun _ => registers⟩⟩

/-- What the registration is decoded to. -/
def registration : ClientRQ := decodeClientrq (cutFrame ([0, 1] ++ List.replicate 10 97) [LF])

lemma recv_registers : recvClientRequest registers.sock registers.s .zero =
    some ⟨0, some registration, bytesOf [], []⟩ :=
  recv_brings _ (by decide) (by decide)

set_option maxRecDepth 100000 in
lemma connected : ∃ t, tcpServerLoop [connect] (tcpServerInit 3) = some (true, t) ∧
    t.sfd = 3 ∧ t.fds.toList = [⟨3, true⟩, ⟨4, false⟩, ⟨5, false⟩] ∧
    t.connectionInfos.get 4 = some 4 ∧
    t.connectionInfos.at? 4 = some ⟨.replicate 16 1, .zero⟩ ∧ t.events = [] ∧
    t.data = dataInit.checkTransfersTimeout 0 :=
  ⟨_, rfl, rfl, rfl, rfl, rfl, rfl, rfl⟩

set_option maxRecDepth 100000 in
/-- The connections of both are open then. -/
lemma openConnections_connect {t : TcpServer}
    (h : tcpServerLoop [connect] (tcpServerInit 3) = some (true, t)) (hevents : t.events = []) :
    openConnections [connect] (tcpServerInit 3) [] =
      [(4, .replicate 16 1), (5, .replicate 16 2)] := by
  have h' : tcpServerLoop ([] ++ [connect]) (tcpServerInit 3) = some (true, t) := h
  obtain ⟨t₁, hloop, hround⟩ := tcpServerLoop_snoc h'
  cases hloop
  rw [show [connect] = [] ++ [connect] from rfl, openConnections_snoc rfl hround,
    Round.openBehind, hevents]
  rfl

/-- The registration is answered. -/
lemma registered : ∃ s' ms,
    Exchanges registers ((dataInit.checkTransfersTimeout 0).checkTransfersTimeout 0) s' ms :=
  ⟨_, _, ⟨_, _, _, _, _, recv_registers, rfl, rfl, rfl, rfl, by decide⟩⟩

/-- The round ends with 0. -/
lemma exists_handleReadyFds {t : TcpServer} (hsfd : t.sfd = 3)
    (hfds : t.fds.toList = [⟨3, true⟩, ⟨4, false⟩, ⟨5, false⟩])
    (hget : t.connectionInfos.get 4 = some 4) {infos : ConnectionInfos}
    (hat : t.connectionInfos.at? 4 = some infos) (hcarry : infos.rbRq = .zero)
    (hdata : t.data = dataInit.checkTransfersTimeout 0) :
    ∃ t', (serve.begins (fun i => i == 1) t).handleReadyFds serve.env = some (0, t') := by
  obtain ⟨s', ms, hexchanges⟩ := registered
  have hlist := toList_begins serve (fun i => i == 1) hfds
  have hsfd' : (serve.begins (fun i => i == 1) t).sfd = 3 := hsfd
  have hget' : (serve.begins (fun i => i == 1) t).connectionInfos.get 4 = some 4 := hget
  have hat' : (serve.begins (fun i => i == 1) t).connectionInfos.at? 4 = some infos := hat
  have hdata' : (serve.begins (fun i => i == 1) t).data =
      (dataInit.checkTransfersTimeout 0).checkTransfersTimeout 0 :=
    congrArg (Server.checkTransfersTimeout · 0) hdata
  generalize serve.begins (fun i => i == 1) t = b at *
  rw [← hdata'] at hexchanges
  have hzero : b.handleReadyFd serve.env b.fds.toCArray.block 0 = some (0, b) :=
    handleReadyFd_idle _ rfl (by rw [hlist]; rfl) rfl
  obtain ⟨t₁, hone, hexchanged⟩ := Exchanges.handleReadyFd
    (show Exchanges (serve.env.conn 1) b.data s' ms from hexchanges) rfl
    (show b.fds.toList[1]? = some ⟨4, true⟩ by rw [hlist]; rfl) rfl (by rw [hsfd']; decide)
    (show (4 : ℤ) = (4 : ℕ) from rfl) (by decide) hget' hat' hcarry
  have htwo : t₁.handleReadyFd serve.env b.fds.toCArray.block 2 = some (0, t₁) :=
    handleReadyFd_idle _ hexchanged.block_eq.symm (by rw [hexchanged.toList_eq hlist]; rfl) rfl
  refine ⟨t₁, ?_⟩
  rw [handleReadyFds, FullArray.length_eq, hlist]
  show handleReadyFdsFrom serve.env _ 3 0 b = some (0, t₁)
  rw [handleReadyFdsFrom_cons hzero, handleReadyFdsFrom_cons hone, handleReadyFdsFrom_cons htwo]
  rfl

lemma acceptsFresh : AcceptsFresh 3 [connect, serve] := by
  intro rs₁ r rs₂ t hsplit ht
  have hserve : ∀ cs, r = serve → t.Fresh cs (r.accepts t) := by
    rintro cs rfl
    have hnil : serve.accepts t = [] := ite_self _
    rw [hnil]
    exact ⟨.nil, fun c hc => absurd hc List.not_mem_nil, fun c hc => absurd hc List.not_mem_nil⟩
  obtain ⟨rfl, h⟩ | ⟨rs, rfl, h⟩ := List.cons_eq_append_iff.mp hsplit
  · cases h
    cases ht
    refine ⟨by decide, by decide, fun c _ c' hc' => absurd hc' List.not_mem_nil⟩
  · obtain ⟨rfl, h⟩ | ⟨rs, rfl, h⟩ := List.cons_eq_append_iff.mp h
    · cases h
      exact hserve _ rfl
    · cases rs <;> cases h

/-- Nothing times out. -/
lemma keepsEntries : ∀ rs₁ r rs₂ t, [connect, serve] = rs₁ ++ r :: rs₂ →
    tcpServerLoop rs₁ (tcpServerInit 3) = some (true, t) →
      ¬∃ infos ∈ t.data.timedOut r.now, ∃ e ∈ t.fds.toList, e.fd = infos.sfd := by
  rintro rs₁ r rs₂ t hsplit - ⟨infos, hinfos, -⟩
  have hnow : r.now = 0 := by
    have hr : r ∈ [connect, serve] := by simp [hsplit]
    rcases List.mem_pair.mp hr with rfl | rfl
    · rfl
    · rfl
  rw [Server.timedOut_of_le _ (by omega)] at hinfos
  exact absurd hinfos List.not_mem_nil

/-- The registration is served, and the other connection stays in the table. -/
theorem poll_table_tracks_iff_two : ∃ t t',
    tcpServerLoop [connect] (tcpServerInit 3) = some (true, t) ∧
    (serve.begins (fun i => i == 1) t).handleReadyFds serve.env = some (0, t') ∧
    OpenInTable t [(4, .replicate 16 1), (5, .replicate 16 2)] ∧
    serve.ServesOpen (fun i => i == 1) t
      (serve.openAtPoll t [(4, .replicate 16 1), (5, .replicate 16 2)]) := by
  obtain ⟨t, ht, hsfd, hfds, hget, hat, hevents, hdata⟩ := connected
  obtain ⟨t', hret⟩ := exists_handleReadyFds hsfd hfds hget hat rfl hdata
  obtain ⟨-, htracks⟩ :=
    (poll_table_tracks_iff 3 acceptsFresh).mpr keepsEntries [connect] serve [] t rfl ht
  rw [openConnections_connect ht hevents] at htracks
  exact ⟨t, t', ht, hret, htracks.begins, htracks.serves _ t' rfl hret⟩

end TwoClients

namespace TimedOut

open TwoClients

/-- A connection on which user 1 asks for an upload of `"a"` to a new feed, at the time `now`. -/
def uploads (now : ℕ) : ConnEnv :=
  brings { Env.quiet [] with now := now } [0, 37, 0, 0, 0, 0, 1, 97]

lemma recv_uploads (now : ℕ) : recvClientRequest (uploads now).sock (uploads now).s .zero =
    some ⟨0, some (decodeClientrq (cutFrame [0, 37, 0, 0, 0, 0, 1, 97] [LF])), bytesOf [], []⟩ :=
  recv_brings _ (by decide) (by decide)

/-- Three clients connect. -/
def connect : Round :=
  ⟨0, .ready fun i => i == 0, ⟨[(4, .replicate 16 1), (5, .replicate 16 1), (6, .replicate 16 1)],
    false, fun _ => registers⟩⟩

/-- The first one registers, and asks for an upload on the second connection. -/
def ask : Round :=
  ⟨0, .ready fun i => i == 1 || i == 2,
    ⟨[], false, fun i => if i = 1 then registers else uploads 0⟩⟩

/-- The upload has timed out, so that its socket is closed, which is 0; a fourth client connects and
gets this descriptor.  The first one asks for an upload again, on the third connection. -/
def again : Round :=
  ⟨6, .ready fun i => i == 0 || i == 3, ⟨[(0, .replicate 16 2)], false, fun _ => uploads 6⟩⟩

/-- The second upload has timed out. -/
def late : Round := ⟨12, .timeout, ⟨[], false, fun _ => registers⟩⟩

set_option maxRecDepth 100000 in
lemma connected : ∃ t, tcpServerLoop [connect] (tcpServerInit 3) = some (true, t) ∧
    t.sfd = 3 ∧ t.fds.toList = [⟨3, true⟩, ⟨4, false⟩, ⟨5, false⟩, ⟨6, false⟩] ∧
    t.fds.toCArray.capacity = ID_MAX ∧ t.connectionInfos.length = 7 ∧
    t.connectionInfos.get 4 = some 4 ∧ t.connectionInfos.get 5 = some 5 ∧
    t.connectionInfos.at? 4 = some ⟨.replicate 16 1, .zero⟩ ∧
    t.connectionInfos.at? 5 = some ⟨.replicate 16 1, .zero⟩ ∧
    t.connectionInfos.at? 6 = some ⟨.replicate 16 1, .zero⟩ ∧
    t.data = dataInit.checkTransfersTimeout 0 :=
  ⟨_, rfl, rfl, rfl, rfl, rfl, rfl, rfl, rfl, rfl, rfl, rfl⟩

lemma systemWorks : ∀ r ∈ [connect], r.SystemWorks := by
  intro r hr
  rw [List.mem_singleton.mp hr]
  exact ⟨nofun, rfl⟩

/-- A registration on the data at the beginning. -/
lemma registered : ∃ s' ms,
    Exchanges registers ((dataInit.checkTransfersTimeout 0).checkTransfersTimeout 0) s' ms ∧
    s'.TableInv ∧ (s'.getPseudo 1).isSome = true ∧ s'.feeds.toList.length = 0 := by
  have hinv : ((dataInit.checkTransfersTimeout 0).checkTransfersTimeout 0).TableInv :=
    (Server.tableInv_dataInit.keeps (Server.checkTransfersTimeout_keepsTable _ 0)).keeps
      (Server.checkTransfersTimeout_keepsTable _ 0)
  obtain ⟨s', ans, hconn, hrest⟩ : ∃ s' ans,
      ((dataInit.checkTransfersTimeout 0).checkTransfersTimeout 0).handleTcpConnection
        registers.env registration = some (s', ans) ∧ (∃ ms e, ans.code = 0 ∧
          ans.send registers.send = some (0, ms) ∧ ans.entry 0 = some e ∧ e.type ≠ DOWNLOAD) ∧
        (s'.getPseudo 1).isSome = true ∧ s'.feeds.toList.length = 0 :=
    ⟨_, _, rfl, ⟨_, _, rfl, rfl, rfl, by decide⟩, rfl, rfl⟩
  obtain ⟨⟨ms, e, hcode, hsend, he, htype⟩, huser, hfeeds⟩ := hrest
  exact ⟨s', ms, ⟨_, _, _, ans, e, recv_registers, hconn, hcode, hsend, he, htype⟩,
    Server.handleTcpConnection_tableInv hinv hconn, huser, hfeeds⟩

/-- An upload is accepted. -/
lemma uploaded {s : Server} (now : ℕ) (hinv : s.TableInv) (huser : (s.getPseudo 1).isSome = true)
    (hfeeds : s.feeds.toList.length = 0) : ∃ s' ms infos, Exchanges (uploads now) s s' ms ∧
      s'.TableInv ∧ (s'.getPseudo 1).isSome = true ∧ s'.feeds.toList.length = 0 ∧
      s'.transferFiles.at? 1 = some infos ∧ infos.active = true ∧ infos.begin = now ∧
      infos.sfd = 0 := by
  obtain ⟨rq, hrq, hid, hfeed⟩ : ∃ rq, decodeClientrq (cutFrame [0, 37, 0, 0, 0, 0, 1, 97] [LF]) =
      .cl UPLOAD upload_ne rq ∧ getId rq.header = 1 ∧ rq.feedNumber = 0 := ⟨_, rfl, rfl, rfl⟩
  have hadmits : s.Admits rq := ⟨by rwa [hid], by rw [hfeed]; exact Nat.zero_le _⟩
  have hrejects : ¬s.Rejects (uploads now).env (.cl UPLOAD upload_ne rq) := by
    rintro (h | ⟨h, -⟩ | ⟨h, -⟩ | ⟨h, -⟩ | ⟨h, -⟩)
    · exact h hadmits
    all_goals exact absurd h (by decide)
  have hin : InTable (ClientRQ.cl UPLOAD upload_ne rq).type :=
    inTable_iff.mpr (show 1 ≤ UPLOAD.toNat ∧ UPLOAD.toNat ≤ 6 by decide)
  have hout : s.Outcome (uploads now).env (.cl UPLOAD upload_ne rq)
      (s.handleTcpConnection (uploads now).env (.cl UPLOAD upload_ne rq)) :=
    Server.connection_outcome hinv.wf_transferFiles hin
  generalize hconn : s.handleTcpConnection (uploads now).env (.cl UPLOAD upload_ne rq) = o at hout
  cases hout with
  | left h =>
      obtain ⟨-, ⟨h, -⟩ | ⟨h, -⟩ | ⟨h, -⟩ | ⟨h, -⟩⟩ := h
      all_goals exact absurd h (by decide)
  | enomem _ h => exact absurd h hrejects
  | unknown _ h => exact absurd h hrejects
  | error _ h => exact absurd h hrejects
  | @accepted s' ans e m ms _ _ hcode he htype _ hsend =>
      have hinv' := Server.handleTcpConnection_tableInv hinv hconn
      have hsent : ans.send (uploads now).send = some (0, m :: ms) := by
        rw [hsend]
        exact congrArg some (if_pos (List.all_eq_true.mpr fun _ _ => rfl))
      have hne : e.type ≠ DOWNLOAD := by
        rw [htype]
        exact show UPLOAD ≠ DOWNLOAD by decide
      have hrecv := recv_uploads now
      rw [hrq] at hrecv
      have hwf : ({ s with dErrno := NOERROR } : Server).transferFiles.Wf := hinv.wf_transferFiles
      obtain ⟨r, hr, hcases⟩ := Server.handleTcpConnection_cases hconn
      have hcode' : ¬r.code ≠ 0 := fun hne' =>
        hrejects (Server.rejects_dErrno_iff.mp (Server.rejects_of_code_ne_zero hwf hin hr hne'))
      change ({ s with dErrno := NOERROR } : Server).prepareUploadRequest (uploads now).env
        (.arrayNew ServerRQ 0) rq = some r at hr
      obtain ⟨hzero, rfl, -⟩ | ⟨hne', -⟩ | ⟨hne', -⟩ := hcases
      · obtain ⟨pseudo, huploading⟩ := Server.uploading_of_prepareUploadRequest hwf
          (show s.feeds.toList.length < 2 ^ 64 - 1 by omega) hr hzero
        rw [hid] at huploading
        refine ⟨_, m :: ms, _, ⟨_, _, _, ans, e, hrecv, hconn, hcode, hsent, he, hne⟩, hinv', ?_,
          ?_, huploading.at?_eq, rfl, rfl, rfl⟩
        · exact Option.isSome_iff_exists.mpr ⟨pseudo, huploading.pseudo_eq⟩
        · rw [(Server.prepareUploadRequest_sameStore hr).feeds_eq]
          exact hfeeds
      · exact absurd hne' hcode'
      · exact absurd hne' hcode'

/-- The round of the two requests. -/
lemma tcpServerRound_ask {t : TcpServer} (hsfd : t.sfd = 3)
    (hfds : t.fds.toList = [⟨3, true⟩, ⟨4, false⟩, ⟨5, false⟩, ⟨6, false⟩])
    (hget₄ : t.connectionInfos.get 4 = some 4) (hget₅ : t.connectionInfos.get 5 = some 5)
    {infos₄ infos₅ : ConnectionInfos} (hat₄ : t.connectionInfos.at? 4 = some infos₄)
    (hat₅ : t.connectionInfos.at? 5 = some infos₅) (hcarry₄ : infos₄.rbRq = .zero)
    (hcarry₅ : infos₅.rbRq = .zero) {s₁ s₂ : Server} {ms₁ ms₂ : List (List UInt8)}
    (h₁ : Exchanges registers (t.data.checkTransfersTimeout 0) s₁ ms₁)
    (h₂ : Exchanges (uploads 0) s₁ s₂ ms₂) :
    ∃ t', t.tcpServerRound ask = some (true, t') ∧ t'.data = s₂ ∧ t'.sfd = 3 ∧
      t'.fds = ((ask.begins (fun i => i == 1 || i == 2) t).fds.write 1 ⟨-1, true⟩).write 2
        ⟨-1, true⟩ ∧
      t'.connectionInfos = (t.connectionInfos.write 4 CZero.zero).write 5 CZero.zero := by
  have hround : t.tcpServerRound ask = ((ask.begins (fun i => i == 1 || i == 2) t).handleReadyFds
      ask.env).map fun p => (p.1 == 0, p.2) := rfl
  have hlist := toList_begins ask (fun i => i == 1 || i == 2) hfds
  have hsfd' : (ask.begins (fun i => i == 1 || i == 2) t).sfd = 3 := hsfd
  have hinfos : (ask.begins (fun i => i == 1 || i == 2) t).connectionInfos = t.connectionInfos :=
    rfl
  have hdata : (ask.begins (fun i => i == 1 || i == 2) t).data = t.data.checkTransfersTimeout 0 :=
    rfl
  generalize ask.begins (fun i => i == 1 || i == 2) t = b at *
  rw [← hinfos] at hget₄ hget₅ hat₄ hat₅
  rw [← hdata] at h₁
  have hzero : b.handleReadyFd ask.env b.fds.toCArray.block 0 = some (0, b) :=
    handleReadyFd_idle _ rfl (by rw [hlist]; rfl) rfl
  obtain ⟨b₁, hone, hb₁⟩ := Exchanges.handleReadyFd
    (show Exchanges (ask.env.conn 1) b.data s₁ ms₁ from h₁) rfl
    (show b.fds.toList[1]? = some ⟨4, true⟩ by rw [hlist]; rfl) rfl (by rw [hsfd']; decide)
    (show (4 : ℤ) = (4 : ℕ) from rfl) (by decide) hget₄ hat₄ hcarry₄
  have hlist₁ := hb₁.toList_eq hlist
  obtain ⟨b₂, htwo, hb₂⟩ := Exchanges.handleReadyFd
    (show Exchanges (ask.env.conn 2) b₁.data s₂ ms₂ from hb₁.data_eq.symm ▸ h₂)
    hb₁.block_eq.symm (show b₁.fds.toList[2]? = some ⟨5, true⟩ by rw [hlist₁]; rfl) rfl
    (by rw [hb₁.sfd_eq, hsfd']; decide) (show (5 : ℤ) = (5 : ℕ) from rfl) (by decide)
    (by rw [hb₁.connectionInfos_eq]; exact hget₅)
    (by rw [hb₁.connectionInfos_eq, CArray.at?_write_of_ne _ _ (by decide)]; exact hat₅) hcarry₅
  have hlist₂ := hb₂.toList_eq hlist₁
  have hthree : b₂.handleReadyFd ask.env b.fds.toCArray.block 3 = some (0, b₂) :=
    handleReadyFd_idle _ (hb₁.block_eq.symm.trans hb₂.block_eq.symm) (by rw [hlist₂]; rfl) rfl
  refine ⟨b₂, ?_, hb₂.data_eq, by rw [hb₂.sfd_eq, hb₁.sfd_eq, hsfd'], ?_, ?_⟩
  · rw [hround, handleReadyFds, FullArray.length_eq, hlist]
    show (handleReadyFdsFrom ask.env _ 4 0 b).map _ = _
    rw [handleReadyFdsFrom_cons hzero, handleReadyFdsFrom_cons hone, handleReadyFdsFrom_cons htwo,
      handleReadyFdsFrom_cons hthree]
    rfl
  · rw [hb₂.fds_eq, hb₁.fds_eq]
  · rw [hb₂.connectionInfos_eq, hb₁.connectionInfos_eq, hinfos]

/-- The first entry of the round behind it: the fourth client gets a free entry. -/
lemma accepted_again {b : TcpServer} (hwf : b.connectionInfos.Wf) (hsfd : b.sfd = 3)
    (hlist : b.fds.toList = [⟨3, true⟩, ⟨-1, false⟩, ⟨-1, false⟩, ⟨6, true⟩])
    (hcap : 4 ≤ b.fds.toCArray.capacity) :
    ∃ b₁ k, b.handleReadyFd again.env b.fds.toCArray.block 0 = some (0, b₁) ∧ b₁.data = b.data ∧
      b₁.sfd = b.sfd ∧ b₁.fds.toCArray.block = b.fds.toCArray.block ∧
      b.connectionInfos.length ≤ b₁.connectionInfos.length ∧
      b₁.connectionInfos.at? 6 = b.connectionInfos.at? 6 ∧ k ≠ 0 ∧ k ≠ 3 ∧
      b₁.fds.toList[k]? = some ⟨0, false⟩ ∧
      ∀ j ≠ k, b₁.fds.toList[j]? = b.fds.toList[j]? := by
  obtain ⟨infos, fds, k, hnew, -, hlength, -, hother, hgrows, hl, hfree, hlen, -⟩ :=
    addNewConnections_eq hwf 0 (.replicate 16 2)
  have hcount : b.free = 2 := by
    rw [free, hlist]
    rfl
  have hk : ∀ j, (b.fds.toList[j]?.map fun e => e.fd == -1) = some false → k ≠ j := by
    rintro j hj rfl
    obtain ⟨e, he, hne⟩ := Option.map_eq_some_iff.mp hj
    rw [hfree e he] at hne
    cases hne
  obtain ⟨hblock, -⟩ := hgrows.stays (by
    rw [fds.holds.length_eq, hlen, hlist, hcount]
    exact hcap)
  refine ⟨{ b with connectionInfos := infos, fds := fds }, k, ?_, rfl, rfl, hblock, ?_,
    hother 6 (by decide), hk 0 (by rw [hlist]; rfl), hk 3 (by rw [hlist]; rfl), hl.self, hl.other⟩
  · have hderef : b.fds.toCArray.deref ⟨b.fds.toCArray.block, 0⟩ = some ⟨3, true⟩ :=
      deref_fds rfl (by rw [hlist]; rfl)
    have hfold : again.env.accepted.foldlM (fun t a => addNewConnections t a.1 a.2) b =
        some { b with connectionInfos := infos, fds := fds } := by
      show (b.addNewConnections 0 (.replicate 16 2)).bind some = _
      rw [hnew]
      rfl
    have hclose : closeConnection b.fds.toCArray.block
        { b with connectionInfos := infos, fds := fds } 0 false =
          some { b with connectionInfos := infos, fds := fds } := by
      refine closeConnection_false hblock.symm (e := ⟨3, true⟩) ?_
      rw [hl.other 0 (hk 0 (by rw [hlist]; rfl)).symm, hlist]
      rfl
    have hserver : (3 : ℤ) = b.sfd.val := by
      rw [hsfd]
      rfl
    simp only [handleReadyFd, hderef, ← hserver, acceptNewConnections, hfold, Option.bind_eq_bind,
      Option.bind_some, Option.map_some, if_true, Bool.true_eq_false, if_false]
    rw [if_neg (show ¬((if again.env.acceptFails = true then 1 else 0) ≠ (0 : UInt8)) by decide),
      hclose]
    rfl
  · show b.connectionInfos.length ≤ infos.length
    omega

/-- The round of the fourth client. -/
lemma tcpServerRound_again {t : TcpServer} (hwf : t.connectionInfos.Wf) (hsfd : t.sfd = 3)
    (hfds : t.fds.toList = [⟨3, false⟩, ⟨-1, true⟩, ⟨-1, true⟩, ⟨6, false⟩])
    (hcap : 4 ≤ t.fds.toCArray.capacity) (hlen : 6 ≤ t.connectionInfos.length)
    {infos : ConnectionInfos} (hat : t.connectionInfos.at? 6 = some infos)
    (hcarry : infos.rbRq = .zero) {s' : Server} {ms : List (List UInt8)}
    (h : Exchanges (uploads 6) (t.data.checkTransfersTimeout 6) s' ms) :
    ∃ t', t.tcpServerRound again = some (true, t') ∧ t'.data = s' ∧
      (⟨0, false⟩ : PollFd) ∈ t'.fds.toList := by
  have hround : t.tcpServerRound again = ((again.begins (fun i => i == 0 || i == 3)
      t).handleReadyFds again.env).map fun p => (p.1 == 0, p.2) := rfl
  have hlist : (again.begins (fun i => i == 0 || i == 3) t).fds.toList =
      [⟨3, true⟩, ⟨-1, false⟩, ⟨-1, false⟩, ⟨6, true⟩] := toList_begins again _ hfds
  have hsfd' : (again.begins (fun i => i == 0 || i == 3) t).sfd = 3 := hsfd
  have hinfos : (again.begins (fun i => i == 0 || i == 3) t).connectionInfos =
    t.connectionInfos := rfl
  have hcap' : 4 ≤ (again.begins (fun i => i == 0 || i == 3) t).fds.toCArray.capacity := hcap
  have hdata : (again.begins (fun i => i == 0 || i == 3) t).data =
    t.data.checkTransfersTimeout 6 := rfl
  generalize again.begins (fun i => i == 0 || i == 3) t = b at *
  rw [← hinfos] at hwf hlen hat
  rw [← hdata] at h
  obtain ⟨b₁, k, hzero, hdata₁, hsfd₁, hblock, hlen₁, hat₁, hk₀, hk₃, hself, hother⟩ :=
    accepted_again hwf hsfd' hlist hcap'
  -- nothing has arrived on the entries between the two
  have hidle : ∀ j, j = 1 ∨ j = 2 →
      b₁.handleReadyFd again.env b.fds.toCArray.block j = some (0, b₁) := by
    intro j hj
    by_cases hjk : j = k
    · exact handleReadyFd_idle _ hblock.symm (hjk ▸ hself) rfl
    · refine handleReadyFd_idle _ hblock.symm (e := ⟨-1, false⟩) ?_ rfl
      rw [hother j hjk, hlist]
      obtain rfl | rfl := hj
      · rfl
      · rfl
  have hthird : b₁.fds.toList[3]? = some ⟨6, true⟩ := by
    rw [hother 3 hk₃.symm, hlist]
    rfl
  obtain ⟨b₂, hthree, hb₂⟩ := Exchanges.handleReadyFd
    (show Exchanges (again.env.conn 3) b₁.data s' ms from hdata₁.symm ▸ h) hblock.symm hthird rfl
    (by rw [hsfd₁, hsfd']; decide) (show (6 : ℤ) = (6 : ℕ) from rfl) (by decide)
    (if_neg (by omega)) (hat₁.trans hat) hcarry
  refine ⟨b₂, ?_, hb₂.data_eq, ?_⟩
  · rw [hround, handleReadyFds, FullArray.length_eq, hlist]
    show (handleReadyFdsFrom again.env _ 4 0 b).map _ = _
    rw [handleReadyFdsFrom_cons hzero, handleReadyFdsFrom_cons (hidle 1 (.inl rfl)),
      handleReadyFdsFrom_cons (hidle 2 (.inr rfl)), handleReadyFdsFrom_cons hthree]
    rfl
  · refine List.mem_of_getElem? (i := k) ?_
    rw [hb₂.toList_eq rfl, List.getElem?_set_ne hk₃.symm]
    exact hself

/-- The run in front of the last round. -/
lemma exists_run : ∃ t₁ t₂ t₃ infos infos', tcpServerLoop [connect] (tcpServerInit 3) =
      some (true, t₁) ∧ tcpServerLoop [connect, ask] (tcpServerInit 3) = some (true, t₂) ∧
    t₂.sfd = 3 ∧ tcpServerLoop [connect, ask, again] (tcpServerInit 3) = some (true, t₃) ∧
    infos ∈ t₂.data.timedOut again.now ∧ infos.sfd = 0 ∧
    infos' ∈ t₃.data.timedOut late.now ∧ infos'.sfd = 0 ∧
    (⟨0, false⟩ : PollFd) ∈ t₃.fds.toList := by
  obtain ⟨t₁, ht₁, hsfd, hfds, hcap, hlen, hget₄, hget₅, hat₄, hat₅, hat₆, hdata⟩ := connected
  have hcap₁ : 4 ≤ t₁.fds.toCArray.capacity := by
    rw [hcap]
    decide
  have hlen₁ : 6 ≤ t₁.connectionInfos.length := by omega
  have hwf : t₁.connectionInfos.Wf :=
    (tcpServerLoop_inv systemWorks (inv_tcpServerInit 3) ht₁).wf
  obtain ⟨s₁, ms₁, h₁, hinv₁, huser₁, hfeeds₁⟩ := registered
  obtain ⟨s₂, ms₂, infos, h₂, hinv₂, huser₂, hfeeds₂, hat, hactive, hbegin, hzero⟩ :=
    uploaded 0 hinv₁ huser₁ hfeeds₁
  obtain ⟨s₃, ms₃, infos', h₃, hinv₃, -, -, hat', hactive', hbegin', hzero'⟩ := uploaded 6
    (s := s₂.checkTransfersTimeout 6) (hinv₂.keeps (Server.checkTransfersTimeout_keepsTable s₂ 6))
    huser₂ hfeeds₂
  obtain ⟨t₂, hround₂, rfl, hsfd₂, hfds₂, hinfos₂⟩ :=
    tcpServerRound_ask hsfd hfds hget₄ hget₅ hat₄ hat₅ rfl rfl
      (by rw [hdata]; exact h₁) h₂
  have hlist₂ : t₂.fds.toList = [⟨3, false⟩, ⟨-1, true⟩, ⟨-1, true⟩, ⟨6, false⟩] := by
    rw [hfds₂, FullArray.toList_write, FullArray.toList_write, toList_begins ask _ hfds]
    rfl
  obtain ⟨t₃, hround₃, rfl, hmem⟩ := tcpServerRound_again
    (by rw [hinfos₂]; exact (hwf.write 4 _).write 5 _) hsfd₂ hlist₂
    (by rw [hfds₂]; exact hcap₁) (by rw [hinfos₂]; exact hlen₁)
    (by rw [hinfos₂, CArray.at?_write_of_ne _ _ (by decide),
      CArray.at?_write_of_ne _ _ (by decide)]; exact hat₆) rfl h₃
  have ht₂ : tcpServerLoop ([connect] ++ [ask]) (tcpServerInit 3) = some (true, t₂) := by
    rw [tcpServerLoop_append, ht₁]
    exact hround₂
  have ht₃ : tcpServerLoop ([connect, ask] ++ [again]) (tcpServerInit 3) = some (true, t₃) := by
    rw [tcpServerLoop_append, show tcpServerLoop [connect, ask] _ = _ from ht₂]
    exact hround₃
  refine ⟨t₁, t₂, t₃, infos, infos', ht₁, ht₂, hsfd₂, ht₃, ?_, hzero, ?_, hzero', hmem⟩
  · exact Server.mem_timedOut (hinv₂.covered 1 infos hat hactive) hat hactive (by
      rw [hbegin]
      decide)
  · exact Server.mem_timedOut (hinv₃.covered 1 infos' hat' hactive') hat' hactive' (by
      rw [hbegin']
      decide)

lemma fresh_of_accepts_nil {t : TcpServer} {cs accepted : List Connection} (h : accepted = []) :
    t.Fresh cs accepted := by
  subst h
  exact ⟨.nil, fun c hc => absurd hc List.not_mem_nil, fun c hc => absurd hc List.not_mem_nil⟩

/-- Behind the first two rounds only the first three connections can be open. -/
lemma mem_openConnections {t : TcpServer} {c : Connection}
    (ht : tcpServerLoop [connect, ask] (tcpServerInit 3) = some (true, t))
    (hc : c ∈ openConnections [connect, ask] (tcpServerInit 3) []) : c ∈ connect.env.accepted := by
  obtain ⟨t₁, hloop, hround⟩ := tcpServerLoop_snoc
    (show tcpServerLoop ([connect] ++ [ask]) (tcpServerInit 3) = some (true, t) from ht)
  obtain ⟨t₀, hnil, hfirst⟩ := tcpServerLoop_snoc
    (show tcpServerLoop ([] ++ [connect]) (tcpServerInit 3) = some (true, t₁) from hloop)
  cases hnil
  rw [show [connect, ask] = [connect] ++ [ask] from rfl, openConnections_snoc hloop hround] at hc
  have hask : ask.accepts t₁ = [] := ite_self _
  have hc := (mem_stillOpen.mp hc).1
  rw [hask, List.append_nil] at hc
  have hc := (mem_stillOpen.mp hc).1
  rw [show [connect] = [] ++ [connect] from rfl,
    openConnections_snoc (show tcpServerLoop [] (tcpServerInit 3) = some (true, tcpServerInit 3)
      from rfl) hfirst] at hc
  have hc := (mem_stillOpen.mp hc).1
  have hconnect : connect.accepts (tcpServerInit 3) = connect.env.accepted := rfl
  rwa [hconnect, show connect.openAtPoll _ (openConnections [] _ []) = [] from rfl,
    List.nil_append] at hc

lemma acceptsFresh : AcceptsFresh 3 [connect, ask, again, late] := by
  intro rs₁ r rs₂ t hsplit ht
  rcases rs₁ with _ | ⟨r₁, _ | ⟨r₂, _ | ⟨r₃, _ | ⟨r₄, rs₁⟩⟩⟩⟩
  · cases hsplit
    cases ht
    exact ⟨by decide, by decide, fun c _ c' hc' => absurd hc' List.not_mem_nil⟩
  · cases hsplit
    exact fresh_of_accepts_nil (ite_self _)
  · cases hsplit
    obtain ⟨-, t₂, -, -, -, -, ht₂, hsfd, -⟩ := exists_run
    obtain rfl : t = t₂ := congrArg Prod.snd (Option.some.inj (ht.symm.trans ht₂))
    obtain hnil | hone : again.accepts t = [] ∨ again.accepts t = [(0, .replicate 16 2)] :=
      (ite_eq_or_eq _ _ _).symm
    · exact fresh_of_accepts_nil hnil
    · rw [hone]
      refine ⟨List.nodup_singleton _, fun c hc => ?_, fun c hc c' hc' => ?_⟩
      · rw [List.mem_singleton.mp hc, hsfd]
        decide
      · have hne : ∀ c ∈ connect.env.accepted, (0 : Descriptor) ≠ c.1 := by decide
        rw [List.mem_singleton.mp hc]
        exact hne c' (mem_openConnections ht (mem_stillOpen.mp hc').1)
  · cases hsplit
    exact fresh_of_accepts_nil rfl
  · have hlength := congrArg List.length hsplit
    simp at hlength

/-- **The second timeout closes the socket of the fourth client.**  The descriptor 0 has been closed
by the first one. -/
theorem not_poll_table_tracks : AcceptsFresh 3 [connect, ask, again, late] ∧
    (∃ t, tcpServerLoop [connect, ask] (tcpServerInit 3) = some (true, t) ∧
      .close 0 ∈ (t.checkTransfersTimeout again.now).events) ∧
    ¬∀ rs₁ r rs₂ t, [connect, ask, again, late] = rs₁ ++ r :: rs₂ →
      tcpServerLoop rs₁ (tcpServerInit 3) = some (true, t) →
        t.sfd = 3 ∧ r.Tracks t (openConnections rs₁ (tcpServerInit 3) []) := by
  obtain ⟨-, t₂, t₃, infos, infos', -, ht₂, -, ht₃, hinfos, hzero, hinfos', hzero', hmem⟩ :=
    exists_run
  refine ⟨acceptsFresh, ⟨t₂, ht₂, ?_⟩, fun h => ?_⟩
  · exact List.mem_append_right _ (List.mem_map.mpr ⟨infos, hinfos, by rw [hzero]; rfl⟩)
  · exact (h [connect, ask, again] late [] t₃ rfl ht₃).2.not_closesEntry
      ⟨infos', hinfos', _, hmem, by rw [hzero']; rfl⟩

end TimedOut

end TcpServer

end Megaphone
