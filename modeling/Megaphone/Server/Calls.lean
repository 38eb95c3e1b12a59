import Megaphone.Server.TcpLoop

/-!
The calls of `handle_tcp_connection` over a run of the TCP server, in their order.

* `Call`, `callsFrom`, `Round.calls`, `calls`: the calls that the loop makes, one for each entry of
  a round on which a request has arrived.
* `Called`: a call on a connection that nothing has been carried over on, which returns 0.
* `handleReadyFd_calls`, `handleReadyFdsFrom_calls`, `Round.calls_spec`: an entry, the entries of a
  round, and a round.
* `tcpServerLoop_history`: what the timeouts and the calls preserve of the data and the calls
  before, a run preserves.
-/

namespace Megaphone

namespace TcpServer

/-! ### The calls -/

/-- A call of `handle_tcp_connection`: what the outside decides, the state and the descriptor. -/
structure Call where
  env : ConnEnv
  state : TcpServer
  fd : ℤ

/-- The call that the loop of `handle_ready_fds` makes for the entry `i`, if any. -/
def callAt (env : RoundEnv) (fds : ℕ) (t : TcpServer) (i : ℕ) : List Call :=
  match t.fds.toCArray.deref ⟨fds, i⟩ with
  | none => []
  | some pfd => if pfd.revents = true ∧ pfd.fd ≠ t.sfd.val then [⟨env.conn i, t, pfd.fd⟩] else []

/-- The calls for `n` entries from number `i` on. -/
def callsFrom (env : RoundEnv) (fds : ℕ) : ℕ → ℕ → TcpServer → List Call
  | 0, _, _ => []
  | n + 1, i, t => callAt env fds t i ++
      match t.handleReadyFd env fds i with
      | none => []
      | some r => if r.1 ≠ (0 : UInt8) then [] else callsFrom env fds n (i + 1) r.2

/-- The calls in an iteration of the loop. -/
def Round.calls (r : Round) (t : TcpServer) : List Call :=
  match r.poll with
  | .ready revents =>
      callsFrom r.env (r.begins revents t).fds.toCArray.block (r.begins revents t).fds.length 0
        (r.begins revents t)
  | .timeout => []
  | .error => []

/-- The calls in the iterations of a list. -/
def calls : List Round → TcpServer → List Call
  | [], _ => []
  | r :: rs, t => r.calls t ++
      match t.tcpServerRound r with
      | none => []
      | some p => if p.1 = true then calls rs p.2 else []

/-- A call that returns 0, on a connection that nothing has been carried over on: it is in the
record `i`, and the data behind it is `data`. -/
structure Called (c : Call) (data : Server) : Prop where
  inv : c.state.Inv
  infos : ∃ i infos, c.state.connectionInfos.get (sizeT c.fd) = some i ∧
    c.state.connectionInfos.at? i = some infos ∧ infos.rbRq = .zero
  returns : ∃ close t, c.state.handleTcpConnection c.env c.fd = some (0, close, t) ∧ t.data = data

/-- The calls of a run behind its first round. -/
lemma calls_cons {r : Round} {rs : List Round} {t t' : TcpServer}
    (h : t.tcpServerRound r = some (true, t')) : calls (r :: rs) t = r.calls t ++ calls rs t' := by
  simp only [calls, h, if_true]

/-! ### One entry -/

variable {env : RoundEnv} {t t' : TcpServer} {fds i : ℕ}

lemma closeConnection_data {clCon : Bool} (h : closeConnection fds t i clCon = some t') :
    t'.data = t.data := by
  obtain ⟨pfd, -, h⟩ := Option.bind_eq_some_iff.mp h
  split at h
  · cases h
    rfl
  · split at h
    · cases h
      rfl
    · cases h
      rfl

lemma foldlM_addNewConnections_data {l : List (Descriptor × In6Addr)}
    (h : l.foldlM (fun t a => addNewConnections t a.1 a.2) t = some t') : t'.data = t.data := by
  induction l generalizing t with
  | nil =>
      cases h
      rfl
  | cons a l ih =>
      obtain ⟨t₁, hadd, h⟩ := Option.bind_eq_some_iff.mp h
      obtain ⟨infos', -, hadd⟩ := Option.bind_eq_some_iff.mp hadd
      rw [ih h]
      simp only at hadd
      split at hadd
      · cases hadd
        rfl
      · cases hadd
        rfl

/-- The listening socket: no call of `callback`. -/
lemma handleReadyFd_calls_server {e : PollFd} (hinv : t.Inv) (hfds : fds = t.fds.toCArray.block)
    (he : t.fds.toList[i]? = some e) (hrev : e.revents = true) (hsfd : e.fd = t.sfd.val)
    (h : t.handleReadyFd env fds i = some (0, t')) :
    Visited env t t' i ∧ callAt env fds t i = [] ∧ t'.data = t.data := by
  have hderef := deref_fds hfds he
  have heval : t.handleReadyFd env fds i = (t.acceptNewConnections env).bind fun p =>
      if p.1 ≠ (0 : UInt8) then some (1, p.2)
      else (closeConnection fds p.2 i false).map fun t => (0, t) := by
    simp only [handleReadyFd, hderef, hrev, hsfd, Option.bind_eq_bind, Option.bind_some,
      if_true, Bool.true_eq_false, if_false, Option.bind_map, Function.comp_def]
  obtain ⟨⟨err, t₁⟩, haccept, hclose⟩ := Option.bind_eq_some_iff.mp (heval ▸ h)
  obtain ⟨t₂, hfold, heq⟩ := Option.map_eq_some_iff.mp haccept
  obtain ⟨rfl, rfl⟩ := Prod.mk.inj heq
  by_cases hfails : env.acceptFails = true
  · simp only [hfails, if_true] at hclose
    rw [if_pos (show (1 : UInt8) ≠ 0 by decide)] at hclose
    cases hclose
  · have hvisited : Visited env t t' i := by
      obtain ⟨-, t'', hstep, hvisited⟩ | ⟨-, hnone⟩ := handleReadyFd_server hinv hfds he hrev
        hsfd (Bool.eq_false_iff.mpr hfails)
      · cases h.symm.trans hstep
        exact hvisited
      · cases h.symm.trans hnone
    simp only [if_neg hfails] at hclose
    rw [if_neg (not_not.mpr rfl)] at hclose
    obtain ⟨t₃, hclose, heq⟩ := Option.map_eq_some_iff.mp hclose
    cases heq
    refine ⟨hvisited, ?_, ?_⟩
    · simp only [callAt, hderef, hsfd, ne_eq, not_true, and_false, if_false]
    · rw [closeConnection_data hclose, foldlM_addNewConnections_data hfold]

/-- A connection: one call of `callback`. -/
lemma handleReadyFd_calls_client {e : PollFd} (hinv : t.Inv) (hfds : fds = t.fds.toCArray.block)
    (he : t.fds.toList[i]? = some e) (hrev : e.revents = true) (hsfd : e.fd ≠ t.sfd.val)
    (hused : e.fd ≠ -1) (h : t.handleReadyFd env fds i = some (0, t')) :
    Visited env t t' i ∧ ∃ c, callAt env fds t i = [c] ∧ c.state = t ∧ Called c t'.data := by
  have hderef := deref_fds hfds he
  have hvisited : Visited env t t' i := by
    obtain ⟨-, t'', hstep, hvisited⟩ | ⟨-, hone⟩ :=
      handleReadyFd_client env hinv hfds he hrev hsfd hused
    · cases h.symm.trans hstep
      exact hvisited
    · exact absurd (hone 0 t' h) (by decide)
  rw [handleReadyFd_client_eq env hderef hrev hsfd] at h
  obtain ⟨⟨err, clCon, t₁⟩, hcall, h⟩ := Option.bind_eq_some_iff.mp h
  by_cases herr : err = 0
  · subst herr
    simp only [ne_eq, not_true, if_false] at h
    obtain ⟨t₂, hclose, heq⟩ := Option.map_eq_some_iff.mp h
    cases heq
    obtain ⟨n, hn, hlt, hle, infos, hat, hcarry⟩ :=
      hinv.knows e (List.mem_of_getElem? he) hsfd hused
    refine ⟨hvisited, ⟨env.conn i, t, e.fd⟩, ?_, rfl, hinv, ⟨n, infos, ?_, hat, hcarry⟩,
      clCon, t₁, hcall, (closeConnection_data hclose).symm⟩
    · simp only [callAt, hderef, hrev, ne_eq, hsfd, not_false_iff, and_self, if_true]
    · rw [hn, sizeT_natCast hlt, CArray.get, if_neg (not_lt.mpr hle)]
  · simp only [if_pos (show err ≠ 0 from herr)] at h
    cases h

/-- **One entry** behind which the loop goes on: no call and the data is as before, or one call. -/
lemma handleReadyFd_calls (hinv : t.Inv) (hfds : fds = t.fds.toCArray.block)
    (hi : i < t.fds.toList.length) (hpolled : t.Polled i)
    (h : t.handleReadyFd env fds i = some (0, t')) :
    Visited env t t' i ∧ ((callAt env fds t i = [] ∧ t'.data = t.data) ∨
      ∃ c, callAt env fds t i = [c] ∧ c.state = t ∧ Called c t'.data) := by
  have he := List.getElem?_eq_getElem hi
  generalize t.fds.toList[i] = e at he
  cases hrev : e.revents with
  | false =>
      rw [handleReadyFd_idle env hfds he hrev] at h
      cases h
      refine ⟨⟨hinv, rfl, rfl, le_rfl, .refl t _, fun e₁ he₁ hrev₁ => ?_⟩, .inl ⟨?_, rfl⟩⟩
      · obtain rfl := Option.some.inj (he.symm.trans he₁)
        rw [hrev] at hrev₁
        cases hrev₁
      · simp only [callAt, deref_fds hfds he, hrev, Bool.false_eq_true, false_and, if_false]
  | true =>
      by_cases hsfd : e.fd = t.sfd.val
      · exact (handleReadyFd_calls_server hinv hfds he hrev hsfd h).imp_right .inl
      · have hused := hpolled i le_rfl e he hrev
        exact (handleReadyFd_calls_client hinv hfds he hrev hsfd hused h).imp_right .inr

/-! ### Runs -/

section History

variable {P : List Call → Server → Prop} {Q : Call → Prop}
  (htimeout : ∀ cs s now, P cs s → P cs (s.checkTransfersTimeout now))
  (hcall : ∀ cs c data, P cs c.state.data → Q c → Called c data → P (cs ++ [c]) data)

include hcall

/-- The entries of a round, by the number of them that are left. -/
lemma handleReadyFdsFrom_calls (n : ℕ) : ∀ {i : ℕ} {t : TcpServer} {cs : List Call},
    t.Inv → fds = t.fds.toCArray.block → i + n ≤ t.fds.toList.length → t.Polled i →
    handleReadyFdsFrom env fds n i t = some (0, t') →
    (∀ c ∈ callsFrom env fds n i t, Q c) → P cs t.data →
    t'.Inv ∧ P (cs ++ callsFrom env fds n i t) t'.data := by
  induction n with
  | zero =>
      intro i t cs hinv _ _ _ h _ hP
      cases h
      rw [callsFrom, List.append_nil]
      exact ⟨hinv, hP⟩
  | succ n ih =>
      intro i t cs hinv hfds hlen hpolled h hQ hP
      obtain ⟨⟨err, t₁⟩, hstep, h⟩ := Option.bind_eq_some_iff.mp h
      by_cases herr : err = 0
      · subst herr
        simp only [ne_eq, not_true, if_false] at h
        obtain ⟨hvisited, hentry⟩ := handleReadyFd_calls hinv hfds (by omega) hpolled hstep
        have hle := hvisited.length_le
        have hcalls : callsFrom env fds (n + 1) i t =
            callAt env fds t i ++ callsFrom env fds n (i + 1) t₁ := by
          simp only [callsFrom, hstep, ne_eq, not_true, if_false]
        rw [hcalls] at hQ ⊢
        have hP₁ : P (cs ++ callAt env fds t i) t₁.data := by
          obtain ⟨hnil, hdata⟩ | ⟨c, hc, hstate, hcalled⟩ := hentry
          · rw [hnil, List.append_nil, hdata]
            exact hP
          · rw [hc]
            refine hcall cs c t₁.data (hstate ▸ hP) (hQ c ?_) hcalled
            rw [hc]
            exact List.mem_append_left _ (List.mem_singleton_self c)
        rw [← List.append_assoc]
        exact ih hvisited.inv (hfds.trans hvisited.block_eq.symm) (by omega)
          (hpolled.keeps hvisited.keeps (by omega)) h
          (fun c hc => hQ c (List.mem_append_right _ hc)) hP₁
      · simp only [if_pos (show err ≠ 0 from herr)] at h
        cases h

include htimeout

/-- **One round** behind which the loop is active. -/
lemma Round.calls_spec {r : Round} {cs : List Call} (hinv : t.Inv)
    (h : t.tcpServerRound r = some (true, t')) (hQ : ∀ c ∈ r.calls t, Q c) (hP : P cs t.data) :
    t'.Inv ∧ P (cs ++ r.calls t) t'.data := by
  rw [tcpServerRound] at h
  rw [Round.calls] at hQ ⊢
  cases hpoll : r.poll with
  | error =>
      simp only [hpoll] at h
      cases h
  | timeout =>
      simp only [hpoll] at h ⊢
      cases h
      rw [List.append_nil]
      exact ⟨hinv.pollFds _, htimeout cs t.data r.now hP⟩
  | ready revents =>
      simp only [hpoll] at h hQ ⊢
      obtain ⟨⟨err, t''⟩, hret, heq⟩ := Option.map_eq_some_iff.mp h
      obtain ⟨herr, rfl⟩ := Prod.mk.inj heq
      obtain rfl : err = 0 := beq_iff_eq.mp herr
      have hret' : (r.begins revents t).handleReadyFds r.env = some (0, t'') := hret
      rw [handleReadyFds] at hret'
      exact handleReadyFdsFrom_calls hcall _ (hinv.pollFds revents) rfl
        (by rw [FullArray.length_eq, Nat.zero_add]) (polled_pollFds _ revents 0) hret' hQ
        (htimeout cs t.data r.now hP)

/-- **Histories of calls**: what the timeouts and the calls within `Q` preserve of the calls before
and the data, every run preserves behind which the loop is active. -/
theorem tcpServerLoop_history {rs : List Round} {cs : List Call} (hinv : t.Inv)
    (h : tcpServerLoop rs t = some (true, t')) (hQ : ∀ c ∈ calls rs t, Q c) (hP : P cs t.data) :
    t'.Inv ∧ P (cs ++ calls rs t) t'.data := by
  induction rs generalizing t cs with
  | nil =>
      cases h
      rw [calls, List.append_nil]
      exact ⟨hinv, hP⟩
  | cons r rs ih =>
      obtain ⟨⟨active, t₁⟩, hround, h⟩ := Option.bind_eq_some_iff.mp h
      cases active with
      | false => cases h
      | true =>
          rw [calls_cons hround] at hQ ⊢
          obtain ⟨hinv₁, hP₁⟩ := Round.calls_spec htimeout hcall hinv hround
            (fun c hc => hQ c (List.mem_append_left _ hc)) hP
          rw [← List.append_assoc]
          exact ih hinv₁ h (fun c hc => hQ c (List.mem_append_right _ hc)) hP₁

end History

end TcpServer

end Megaphone
