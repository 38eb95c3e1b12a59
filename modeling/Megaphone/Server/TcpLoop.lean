import Megaphone.Server.Faults
import Megaphone.Library.Slots

/-!
The loop of the TCP server over every run: when one client stops it.

* `TcpServer.Inv`: the invariant of the connections: nothing has been carried over on any of them.
* `TcpServer.Fits`, `EntryOk`: an entry without a fault: the connections that are accepted fit into
  the array of the descriptors, and the connection is without a fault.
* `addNewConnections_spec`, `handleReadyFd_spec`: one entry of a round.
* `ComesTo`, `Round.FaultFree`, `Round.Survives`: a round.
* `one_client_cannot_stop_iff`: the loop survives all rounds of a run exactly when none of them has
  a fault.
* `RecvError`: a client on whose connection `recv` fails.
-/

namespace Megaphone

namespace TcpServer

/-! ### The invariant -/

/-- A connection that nothing has been carried over on. -/
def Knows (t : TcpServer) (fd : ℤ) : Prop :=
  ∃ n : ℕ, fd = n ∧ n < 2 ^ 31 ∧ n ≤ t.connectionInfos.length ∧
    ∃ infos, t.connectionInfos.at? n = some infos ∧ infos.rbRq = .zero

/-- **The invariant of the connections.** -/
structure Inv (t : TcpServer) : Prop where
  table : t.data.TableInv
  wf : t.connectionInfos.Wf
  knows : ∀ e ∈ t.fds.toList, e.fd ≠ t.sfd.val → e.fd ≠ -1 → t.Knows e.fd

/-- The entries from number `i` on that something has arrived on are in use. -/
def Polled (t : TcpServer) (i : ℕ) : Prop :=
  ∀ j, i ≤ j → ∀ e, t.fds.toList[j]? = some e → e.revents = true → e.fd ≠ -1

/-- What happens to the entries from number `i` on: those in use stay as they are, and nothing has
arrived on a new one. -/
structure Keeps (t t' : TcpServer) (i : ℕ) : Prop where
  used : ∀ j, i ≤ j → ∀ e, t.fds.toList[j]? = some e → e.fd ≠ -1 → t'.fds.toList[j]? = some e
  new : ∀ j, i ≤ j → ∀ e, t'.fds.toList[j]? = some e → e.revents = true →
    t.fds.toList[j]? = some e

lemma Keeps.refl (t : TcpServer) (i : ℕ) : t.Keeps t i :=
  ⟨fun _ _ _ he _ => he, fun _ _ _ he _ => he⟩

lemma Keeps.trans {t t' t'' : TcpServer} {i i' : ℕ} (h : t.Keeps t' i) (h' : t'.Keeps t'' i')
    (hle : i ≤ i') : t.Keeps t'' i' :=
  ⟨fun j hj e he hne => h'.used j hj e (h.used j (hle.trans hj) e he hne) hne,
    fun j hj e he hrev => h.new j (hle.trans hj) e (h'.new j hj e he hrev) hrev⟩

lemma Polled.keeps {t t' : TcpServer} {i i' : ℕ} (h : t.Polled i) (hkeeps : t.Keeps t' i')
    (hle : i ≤ i') : t'.Polled i' :=
  fun j hj e he hrev => h j (hle.trans hj) e (hkeeps.new j hj e he hrev) hrev

/-- The number of entries that are not in use. -/
def free (t : TcpServer) : ℕ := t.fds.toList.countP fun e => e.fd == -1

/-- The connections that `accept` returns fit into the storage of `m_fds`. -/
def Fits (env : RoundEnv) (t : TcpServer) : Prop :=
  t.fds.toList.length + (env.accepted.length - t.free) ≤ t.fds.toCArray.capacity

lemma sizeT_natCast {n : ℕ} (h : n < 2 ^ 31) : sizeT n = n := by
  rw [sizeT]
  omega

variable {t t' : TcpServer} {env : RoundEnv}

/-- Writing a record that nothing is carried over in. -/
lemma Knows.write {fd : ℤ} (h : t.Knows fd) (n : ℕ) {infos : ConnectionInfos}
    (hcarry : infos.rbRq = .zero)
    (ht : t'.connectionInfos = t.connectionInfos.write n infos) : t'.Knows fd := by
  obtain ⟨m, rfl, hlt, hle, old, hat, hold⟩ := h
  refine ⟨m, rfl, hlt, ?_, ?_⟩
  · rw [ht]
    exact hle
  · rw [ht]
    by_cases hm : m = n
    · subst hm
      exact ⟨infos, CArray.at?_write_self _ _ (CArray.lt_of_at? hat), hcarry⟩
    · exact ⟨old, (CArray.at?_write_of_ne _ _ hm).trans hat, hold⟩

/-! ### New connections -/

/-- A new connection in the entry `k`. -/
lemma keeps_new {pfd : PollFd} (hpfd : pfd.revents = false) {k : ℕ}
    (hl : Slots.Replaces t.fds.toList t'.fds.toList k pfd)
    (hk : ∀ e, t.fds.toList[k]? = some e → e.fd = -1) (i : ℕ) : t.Keeps t' i := by
  refine ⟨fun j _ e he hne => ?_, fun j _ e he hrev => ?_⟩
  · rw [hl.other j, he]
    rintro rfl
    exact hne (hk e he)
  · rw [← hl.other j, he]
    rintro rfl
    obtain rfl := Option.some.inj (hl.self.symm.trans he)
    rw [hpfd] at hrev
    cases hrev

/-- **A new connection**: its address is in the records, and its descriptor in the entry `k`, which
is the first one that is not in use, or behind the last one when there is none. -/
lemma addNewConnections_eq (hwf : t.connectionInfos.Wf) (sfd : Descriptor) (addr : In6Addr) :
    ∃ infos' fds' k,
      t.addNewConnections sfd addr = some { t with connectionInfos := infos', fds := fds' } ∧
      infos'.Wf ∧ infos'.length = max t.connectionInfos.length (sfd.val + 1) ∧
      infos'.at? sfd.val = some ⟨addr, .zero⟩ ∧
      (∀ n, n ≠ sfd.val → infos'.at? n = t.connectionInfos.at? n) ∧
      t.fds.toCArray.GrowsTo fds'.toCArray ∧
      Slots.Replaces t.fds.toList fds'.toList k ⟨sfd.val, false⟩ ∧
      (∀ e, t.fds.toList[k]? = some e → e.fd = -1) ∧
      fds'.toList.length = t.fds.toList.length + (1 - t.free) ∧
      fds'.toList.countP (fun e => e.fd == -1) = t.free - 1 := by
  have hlt := sfd.isLt
  obtain ⟨infos', hset, hwf', hlength, -, hself, hother⟩ :=
    CArray.set_spec hwf (i := sfd.val) (by omega) ⟨addr, .zero⟩
  have hfd : ((sfd.val : ℤ) == -1) = false := by
    rw [beq_eq_false_iff_ne]
    omega
  cases hfind : t.fds.toList.findIdx? fun e => e.fd == -1 with
  | some k =>
      obtain ⟨hk, hfree, -⟩ := List.findIdx?_eq_some_iff_getElem.mp hfind
      have hpos : 0 < t.free := List.countP_pos_iff.mpr ⟨_, List.getElem_mem hk, hfree⟩
      refine ⟨infos', t.fds.write k ⟨sfd.val, false⟩, k, ?_, hwf', hlength, hself, hother,
        t.fds.holds.growsTo_write k _, ?_, fun e he => ?_, ?_, ?_⟩
      · simp only [addNewConnections, hset, hfind, Option.bind_eq_bind, Option.bind_some]
        rfl
      · rw [FullArray.toList_write]
        exact Slots.replaces_set hk _
      · rw [List.getElem?_eq_getElem hk, Option.some.injEq] at he
        rw [← he]
        simpa using hfree
      · rw [FullArray.toList_write, List.length_set]
        omega
      · rw [FullArray.toList_write, List.countP_set hk, if_pos hfree, hfd]
        rfl
  | none =>
      have hfree : t.free = 0 := by
        rw [free, List.countP_eq_zero]
        intro e he
        rw [List.findIdx?_eq_none_iff.mp hfind e he]
        decide
      refine ⟨infos', t.fds.append ⟨sfd.val, false⟩, t.fds.toList.length, ?_, hwf', hlength, hself,
        hother, t.fds.holds.growsTo_append _, ?_, fun e he => ?_, ?_, ?_⟩
      · simp only [addNewConnections, hset, hfind, Option.bind_eq_bind, Option.bind_some]
        rfl
      · rw [FullArray.toList_append]
        exact Slots.replaces_append _ _
      · rw [List.getElem?_eq_none le_rfl] at he
        cases he
      · rw [FullArray.toList_append, List.length_append, List.length_singleton]
        omega
      · have hold : t.fds.toList.countP (fun e => e.fd == -1) = 0 := hfree
        rw [FullArray.toList_append, List.countP_append, hold, hfree, List.countP_singleton, hfd]
        rfl

/-- What a new connection does to the descriptors. -/
lemma addNewConnections_spec (hinv : t.Inv) (sfd : Descriptor) (addr : In6Addr) :
    ∃ t', t.addNewConnections sfd addr = some t' ∧ t'.Inv ∧ t'.sfd = t.sfd ∧
      t.fds.toCArray.GrowsTo t'.fds.toCArray ∧
      t'.fds.toList.length = t.fds.toList.length + (1 - t.free) ∧ t'.free = t.free - 1 ∧
      ∀ i, t.Keeps t' i := by
  obtain ⟨infos', fds', k, heq, hwf, hlength, hself, hother, hgrows, hl, hfree, hlen, hcount⟩ :=
    addNewConnections_eq hinv.wf sfd addr
  have hlt := sfd.isLt
  refine ⟨_, heq, ⟨hinv.table, hwf, fun e he hsfd hne => ?_⟩, rfl, hgrows, hlen, hcount,
    keeps_new rfl hl hfree⟩
  obtain ⟨j, hj⟩ := List.mem_iff_getElem?.mp he
  by_cases hjk : j = k
  · rw [hjk] at hj
    obtain rfl := Option.some.inj (hl.self.symm.trans hj)
    exact ⟨sfd.val, rfl, hlt, by simp only [hlength]; omega, _, hself, rfl⟩
  · have hold := (hl.other j hjk).symm.trans hj
    obtain ⟨n, hn, hn', hle, old, hat, hcarry⟩ :=
      hinv.knows e (List.mem_of_getElem? hold) hsfd hne
    have hle' : n ≤ infos'.length := by omega
    by_cases hnot : n = sfd.val
    · rw [hnot] at hn hn' hle'
      exact ⟨sfd.val, hn, hn', hle', _, hself, rfl⟩
    · exact ⟨n, hn, hn', hle', old, (hother n hnot).trans hat, hcarry⟩

/-- The connections of a list, by induction on it. -/
lemma foldlM_addNewConnections (l : List (Descriptor × In6Addr)) (hinv : t.Inv) :
    ∃ t', l.foldlM (fun t a => addNewConnections t a.1 a.2) t = some t' ∧ t'.Inv ∧
      t'.sfd = t.sfd ∧ t.fds.toCArray.GrowsTo t'.fds.toCArray ∧
      t'.fds.toList.length = t.fds.toList.length + (l.length - t.free) ∧ ∀ i, t.Keeps t' i := by
  induction l generalizing t with
  | nil =>
      exact ⟨t, rfl, hinv, rfl, .refl t.fds.holds.length_le, by simp, fun i => .refl t i⟩
  | cons a l ih =>
      obtain ⟨t₁, hadd, hinv₁, hsfd₁, hgrows₁, hlength₁, hfree₁, hkeeps₁⟩ :=
        addNewConnections_spec hinv a.1 a.2
      obtain ⟨t₂, hfold, hinv₂, hsfd₂, hgrows₂, hlength₂, hkeeps₂⟩ := ih hinv₁
      refine ⟨t₂, ?_, hinv₂, hsfd₂.trans hsfd₁, hgrows₁.trans hgrows₂, ?_,
        fun i => (hkeeps₁ i).trans (hkeeps₂ i) le_rfl⟩
      · rw [List.foldlM_cons, hadd]
        exact hfold
      · rw [List.length_cons]
        omega

/-! ### One entry -/

/-- An entry without a fault, when something has arrived on it. -/
def EntryOk (env : RoundEnv) (t : TcpServer) (i : ℕ) : Prop :=
  ∀ e, t.fds.toList[i]? = some e → e.revents = true →
    (e.fd = t.sfd.val → t.Fits env) ∧
      (e.fd ≠ t.sfd.val → (env.conn i).FaultFree ((env.conn i).others.act t.data))

/-- What a client gets, when its connection `fd` in the entry `i` is served and that takes the state
`t` to `t'`: the connection is closed and removed, and if it is without a fault it has been
answered. -/
structure Serves (env : RoundEnv) (t t' : TcpServer) (i : ℕ) (fd : ℤ) : Prop where
  removed : ∃ e, t'.fds.toList[i]? = some e ∧ e.fd = -1
  forgotten : t'.connectionInfos.at? (sizeT fd) = some CZero.zero
  events : ∃ events, t'.events = t.events ++ events ∧ .close fd ∈ events ∧
    ((env.conn i).FaultFree ((env.conn i).others.act t.data) →
      ∃ m ms, .send fd (m :: ms) ∈ events)

/-- What an entry that is done with leaves. -/
structure Visited (env : RoundEnv) (t t' : TcpServer) (i : ℕ) : Prop where
  inv : t'.Inv
  sfd_eq : t'.sfd = t.sfd
  block_eq : t'.fds.toCArray.block = t.fds.toCArray.block
  length_le : t.fds.toList.length ≤ t'.fds.toList.length
  keeps : t.Keeps t' (i + 1)
  serves : ∀ e, t.fds.toList[i]? = some e → e.revents = true → e.fd ≠ t.sfd.val →
    Serves env t t' i e.fd

/-- What reading through the pointer `fds` gives. -/
lemma deref_fds {i fds : ℕ} {e : PollFd} (hfds : fds = t.fds.toCArray.block)
    (he : t.fds.toList[i]? = some e) : t.fds.toCArray.deref ⟨fds, i⟩ = some e := by
  subst hfds
  exact FullArray.deref_addr he

/-- An entry on which a connection is not to be closed. -/
lemma closeConnection_false {i fds : ℕ} {e : PollFd} (hfds : fds = t.fds.toCArray.block)
    (he : t.fds.toList[i]? = some e) : closeConnection fds t i false = some t := by
  simp only [closeConnection, deref_fds hfds he, Option.bind_eq_bind, Option.bind_some]
  split
  · rfl
  · rfl

/-- An entry on which nothing has arrived. -/
lemma handleReadyFd_idle (env : RoundEnv) {i fds : ℕ} {e : PollFd}
    (hfds : fds = t.fds.toCArray.block) (he : t.fds.toList[i]? = some e)
    (hrev : e.revents = false) : handleReadyFd env fds t i = some (0, t) := by
  simp only [handleReadyFd, deref_fds hfds he, hrev, Option.bind_eq_bind, Option.bind_some, if_true]

/-- The entry of the server. -/
lemma handleReadyFd_server {i fds : ℕ} {e : PollFd} (hinv : t.Inv)
    (hfds : fds = t.fds.toCArray.block) (he : t.fds.toList[i]? = some e) (hrev : e.revents = true)
    (hfd : e.fd = t.sfd.val) (haccept : env.acceptFails = false) :
    (t.Fits env ∧ ∃ t', handleReadyFd env fds t i = some (0, t') ∧ Visited env t t' i) ∨
    (¬t.Fits env ∧ handleReadyFd env fds t i = none) := by
  obtain ⟨t', hfold, hinv', hsfd, hgrows, hlength, hkeeps⟩ :=
    foldlM_addNewConnections env.accepted hinv
  have hlen := (List.getElem?_eq_some_iff.mp he).1
  have heval : handleReadyFd env fds t i =
      (closeConnection fds t' i false).map fun t => (0, t) := by
    simp only [handleReadyFd, deref_fds hfds he, hrev, hfd, acceptNewConnections, hfold, haccept,
      Option.bind_eq_bind, Option.bind_some, Option.map_some, if_true, if_false, ne_eq,
      not_true_eq_false, Bool.true_eq_false, Bool.false_eq_true]
  by_cases hfits : t.Fits env
  · obtain ⟨hblock, -⟩ := hgrows.stays (by
      rw [t'.fds.holds.length_eq, hlength]
      exact hfits)
    have he' := List.getElem?_eq_getElem (show i < t'.fds.toList.length by omega)
    refine .inl ⟨hfits, t', ?_, hinv', hsfd, hblock, by omega, hkeeps (i + 1), ?_⟩
    · rw [heval, closeConnection_false (hfds.trans hblock.symm) he']
      rfl
    · intro e₁ he₁ _ hne
      obtain rfl := Option.some.inj (he.symm.trans he₁)
      exact absurd hfd hne
  · have hmoves := hgrows.moves (by
      rw [t'.fds.holds.length_eq, hlength]
      exact not_le.mp hfits)
    refine .inr ⟨hfits, ?_⟩
    have hderef : t'.fds.toCArray.deref ⟨fds, i⟩ = none := by
      refine CArray.deref_of_ne ?_
      show fds ≠ t'.fds.toCArray.block
      omega
    rw [heval, closeConnection, hderef]
    rfl

/-- The end of a connection that has been answered: its entry is no longer in use, and its record is
empty. -/
lemma closeConnection_answered {i fds n : ℕ} {e : PollFd} {infos' : ConnectionInfos}
    (hfds : fds = t.fds.toCArray.block) (he : t.fds.toList[i]? = some e) (hn : e.fd = n)
    (hlt : n < 2 ^ 31) (hle : n ≤ t.connectionInfos.length)
    (h : Answered e.fd { t with connectionInfos := t.connectionInfos.write n infos' } t') :
    closeConnection fds t' i true = some { t'.close e.fd with
      fds := t.fds.write i { e with fd := -1 }
      connectionInfos := t.connectionInfos.write n CZero.zero } := by
  have hfds' : t'.fds = t.fds := h.fds_eq
  have hinfos : t'.connectionInfos = t.connectionInfos.write n infos' := h.connectionInfos_eq
  have hsize : sizeT e.fd = n := by rw [hn, sizeT_natCast hlt]
  have hget : t'.connectionInfos.get n = some n := by
    rw [hinfos, CArray.get, if_neg (show ¬n > (t.connectionInfos.write n infos').length from
      not_lt.mpr hle)]
  have hwrite : t'.connectionInfos.write n CZero.zero =
      t.connectionInfos.write n CZero.zero := by
    rw [hinfos, CArray.write_write]
  have hderef := deref_fds hfds he
  simp only [closeConnection, hderef, hsize, hget, hwrite, hfds', Option.bind_eq_bind,
    Option.bind_some, if_true]

/-- A connection that has been answered is closed and removed. -/
lemma visited_of_answered (env : RoundEnv) {i fds n : ℕ} {e : PollFd}
    {infos infos' : ConnectionInfos} (hinv : t.Inv)
    (hfds : fds = t.fds.toCArray.block) (he : t.fds.toList[i]? = some e) (hn : e.fd = n)
    (hlt : n < 2 ^ 31) (hat : t.connectionInfos.at? n = some infos)
    (hle : n ≤ t.connectionInfos.length)
    (h : Answered e.fd { t with connectionInfos := t.connectionInfos.write n infos' } t') :
    ∃ t'', closeConnection fds t' i true = some t'' ∧ Visited env t t'' i := by
  obtain ⟨m, ms, events, hevents⟩ : ∃ m ms events,
    t'.events = t.events ++ .send e.fd (m :: ms) :: events := h.events
  have hlen := (List.getElem?_eq_some_iff.mp he).1
  have hlist : (t.fds.write i { e with fd := -1 }).toList =
      t.fds.toList.set i { e with fd := -1 } := by
    rw [FullArray.toList_write]
  refine ⟨_, closeConnection_answered hfds he hn hlt hle h,
    ⟨h.table, hinv.wf.write n _, fun e₁ he₁ hsfd hused => ?_⟩, h.sfd_eq, rfl, ?_,
    ⟨fun j hj e₁ he₁ _ => ?_, fun j hj e₁ he₁ _ => ?_⟩, fun e₁ he₁ _ _ => ?_⟩
  · change e₁ ∈ (t.fds.write i { e with fd := -1 }).toList at he₁
    rw [hlist] at he₁
    rcases List.mem_or_eq_of_mem_set he₁ with he₁ | rfl
    · exact (hinv.knows e₁ he₁ (by rwa [← h.sfd_eq]) hused).write n rfl rfl
    · exact absurd rfl hused
  · show _ ≤ (t.fds.write i { e with fd := -1 }).toList.length
    rw [hlist, List.length_set]
  · show (t.fds.write i { e with fd := -1 }).toList[j]? = some e₁
    rw [hlist, List.getElem?_set_ne (by omega), he₁]
  · change (t.fds.write i { e with fd := -1 }).toList[j]? = some e₁ at he₁
    rwa [hlist, List.getElem?_set_ne (by omega)] at he₁
  · obtain rfl := Option.some.inj (he.symm.trans he₁)
    refine ⟨⟨{ e with fd := -1 }, ?_, rfl⟩, ?_,
      ⟨.send e.fd (m :: ms) :: events ++ [.close e.fd], ?_, by simp, fun _ => ⟨m, ms, by simp⟩⟩⟩
    · show (t.fds.write i { e with fd := -1 }).toList[i]? = _
      rw [hlist, List.getElem?_set_self hlen]
    · rw [hn, sizeT_natCast hlt]
      exact CArray.at?_write_self _ _ (CArray.lt_of_at? hat)
    · show t'.events ++ [.close e.fd] = _
      rw [hevents, List.append_assoc]

/-- The entry of a client is handed to `handle_tcp_connection`. -/
lemma handleReadyFd_client_eq (env : RoundEnv) {i fds : ℕ} {e : PollFd}
    (hderef : t.fds.toCArray.deref ⟨fds, i⟩ = some e) (hrev : e.revents = true)
    (hfd : e.fd ≠ t.sfd.val) :
    handleReadyFd env fds t i = (t.handleTcpConnection (env.conn i) e.fd).bind fun r =>
      if r.1 ≠ (0 : UInt8) then some (1, r.2.2)
      else (closeConnection fds r.2.2 i r.2.1).map fun t => (0, t) := by
  simp only [handleReadyFd, hderef, hrev, hfd, Option.bind_eq_bind, Option.bind_some,
    if_false, Bool.true_eq_false]

/-- The entry of a client. -/
lemma handleReadyFd_client (env : RoundEnv) {i fds : ℕ} {e : PollFd} (hinv : t.Inv)
    (hfds : fds = t.fds.toCArray.block) (he : t.fds.toList[i]? = some e) (hrev : e.revents = true)
    (hfd : e.fd ≠ t.sfd.val) (hused : e.fd ≠ -1) :
    ((env.conn i).FaultFree ((env.conn i).others.act t.data) ∧
      ∃ t', handleReadyFd env fds t i = some (0, t') ∧ Visited env t t' i) ∨
    (¬(env.conn i).FaultFree ((env.conn i).others.act t.data) ∧
      ∀ err t', handleReadyFd env fds t i = some (err, t') → err = 1) := by
  obtain ⟨n, hn, hlt, hle, infos, hat, hcarry⟩ :=
    hinv.knows e (List.mem_of_getElem? he) hfd hused
  have hget : t.connectionInfos.get (sizeT e.fd) = some n := by
    rw [hn, sizeT_natCast hlt, CArray.get, if_neg (not_lt.mpr hle)]
  have heval := handleReadyFd_client_eq env (deref_fds hfds he) hrev hfd
  obtain ⟨hfree, t', infos', ht', hanswered⟩ | ⟨hnot, hone⟩ :=
    handleTcpConnection_spec (env.conn i) hinv.table hget hat hcarry
  · obtain ⟨t'', hclose, hvisited⟩ :=
      visited_of_answered env hinv hfds he hn hlt hat hle hanswered
    refine .inl ⟨hfree, t'', ?_, hvisited⟩
    rw [heval, ht', Option.bind_some, if_neg (not_not.mpr rfl), hclose, Option.map_some]
  · refine .inr ⟨hnot, fun err t' h => ?_⟩
    rw [heval] at h
    obtain ⟨⟨err', b, t''⟩, hr, h⟩ := Option.bind_eq_some_iff.mp h
    obtain rfl := hone err' b t'' hr
    cases h
    rfl

/-- **One entry**: `handle_ready_fds` goes on behind it exactly when it is without a fault, and
otherwise returns 1. -/
lemma handleReadyFd_spec {i fds : ℕ} (hinv : t.Inv) (hfds : fds = t.fds.toCArray.block)
    (hi : i < t.fds.toList.length) (hpolled : t.Polled i) (haccept : env.acceptFails = false) :
    (EntryOk env t i ∧ ∃ t', handleReadyFd env fds t i = some (0, t') ∧ Visited env t t' i) ∨
    (¬EntryOk env t i ∧ ∀ err t', handleReadyFd env fds t i = some (err, t') → err = 1) := by
  have he := List.getElem?_eq_getElem hi
  generalize t.fds.toList[i] = e at he
  have hok : EntryOk env t i ↔ (e.revents = true → (e.fd = t.sfd.val → t.Fits env) ∧
      (e.fd ≠ t.sfd.val → (env.conn i).FaultFree ((env.conn i).others.act t.data))) := by
    refine ⟨fun h => h e he, fun h e₁ he₁ => ?_⟩
    obtain rfl := Option.some.inj (he.symm.trans he₁)
    exact h
  rw [hok]
  cases hrev : e.revents with
  | false =>
      refine .inl ⟨fun h => absurd h Bool.false_ne_true, t, handleReadyFd_idle env hfds he hrev,
        hinv, rfl, rfl, le_rfl, .refl t _, fun e₁ he₁ hrev₁ => ?_⟩
      obtain rfl := Option.some.inj (he.symm.trans he₁)
      rw [hrev] at hrev₁
      cases hrev₁
  | true =>
      by_cases hfd : e.fd = t.sfd.val
      · obtain ⟨hfits, hvisit⟩ | ⟨hnot, hnone⟩ := handleReadyFd_server hinv hfds he hrev hfd haccept
        · exact .inl ⟨fun _ => ⟨fun _ => hfits, fun hne => absurd hfd hne⟩, hvisit⟩
        · refine .inr ⟨fun h => hnot ((h rfl).1 hfd), fun err t' h => ?_⟩
          cases hnone.symm.trans h
      · obtain ⟨hfree, hvisit⟩ | ⟨hnot, hone⟩ :=
          handleReadyFd_client env hinv hfds he hrev hfd (hpolled i le_rfl e he hrev)
        · exact .inl ⟨fun _ => ⟨fun h => absurd h hfd, fun _ => hfree⟩, hvisit⟩
        · exact .inr ⟨fun h => hnot ((h rfl).2 hfd), hone⟩

/-! ### One round -/

/-- The loop of `handle_ready_fds`, which begins with the entry `i₀` in the state `t₀`, comes to the
entry `i` in the state `t`. -/
inductive ComesTo (env : RoundEnv) (fds i₀ : ℕ) (t₀ : TcpServer) : ℕ → TcpServer → Prop
  | start : ComesTo env fds i₀ t₀ i₀ t₀
  | next {i : ℕ} {t t' : TcpServer} (h : ComesTo env fds i₀ t₀ i t)
      (hstep : handleReadyFd env fds t i = some (0, t')) : ComesTo env fds i₀ t₀ (i + 1) t'

lemma ComesTo.le {fds i₀ i : ℕ} {t₀ : TcpServer} (h : ComesTo env fds i₀ t₀ i t) : i₀ ≤ i := by
  induction h with
  | start => exact le_rfl
  | next _ _ ih => omega

/-- The first entry in front of the others. -/
lemma ComesTo.cons {fds i₀ i : ℕ} {t₀ t₁ : TcpServer}
    (hstep : handleReadyFd env fds t₀ i₀ = some (0, t₁)) (h : ComesTo env fds (i₀ + 1) t₁ i t) :
    ComesTo env fds i₀ t₀ i t := by
  induction h with
  | start => exact .next .start hstep
  | next _ hs ih => exact .next ih hs

/-- Behind the first entry. -/
lemma ComesTo.tail {fds i₀ i : ℕ} {t₀ t₁ : TcpServer}
    (hstep : handleReadyFd env fds t₀ i₀ = some (0, t₁)) (h : ComesTo env fds i₀ t₀ i t)
    (hne : i ≠ i₀) : ComesTo env fds (i₀ + 1) t₁ i t := by
  induction h with
  | start => exact absurd rfl hne
  | @next i t t' h hs ih =>
      by_cases hi : i = i₀
      · subst hi
        cases h with
        | start =>
            rw [hstep] at hs
            cases hs
            exact .start
        | next h' _ =>
            have := h'.le
            omega
      · exact .next (ih hi) hs

/-- What the entries from number `i` to `i + n` come to, in a loop that begins with the entry `i` in
the state `t`. -/
structure RoundDone (env : RoundEnv) (fds i n : ℕ) (t t' : TcpServer) : Prop where
  inv : t'.Inv
  sfd_eq : t'.sfd = t.sfd
  serves : ∀ j, i ≤ j → j < i + n → ∀ e, t.fds.toList[j]? = some e → e.revents = true →
    e.fd ≠ t.sfd.val → ∃ tⱼ tₖ, ComesTo env fds i t j tⱼ ∧ ComesTo env fds i t (j + 1) tₖ ∧
      Serves env tⱼ tₖ j e.fd

/-- The loop goes on behind an entry. -/
lemma handleReadyFdsFrom_cons {fds i n : ℕ} (h : handleReadyFd env fds t i = some (0, t')) :
    handleReadyFdsFrom env fds (n + 1) i t = handleReadyFdsFrom env fds n (i + 1) t' := by
  simp only [handleReadyFdsFrom, h, Option.bind_eq_bind, Option.bind_some, ne_eq,
    not_true_eq_false, if_false]

/-- The loop, by the number of entries that are left. -/
lemma handleReadyFdsFrom_spec (env : RoundEnv) {fds : ℕ} (n : ℕ) : ∀ (i : ℕ) (t : TcpServer),
    t.Inv → fds = t.fds.toCArray.block → i + n ≤ t.fds.toList.length → t.Polled i →
    env.acceptFails = false →
    ((∀ j tⱼ, ComesTo env fds i t j tⱼ → j < i + n → EntryOk env tⱼ j) ∧
      ∃ t', handleReadyFdsFrom env fds n i t = some (0, t') ∧ RoundDone env fds i n t t') ∨
    (¬(∀ j tⱼ, ComesTo env fds i t j tⱼ → j < i + n → EntryOk env tⱼ j) ∧
      ∀ err t', handleReadyFdsFrom env fds n i t = some (err, t') → err = 1) := by
  induction n with
  | zero =>
      intro i t hinv _ _ _ _
      refine .inl ⟨fun j tⱼ h hlt => ?_, t, rfl, hinv, rfl, fun j hj hlt => ?_⟩
      · have := h.le
        omega
      · omega
  | succ n ih =>
      intro i t hinv hfds hlen hpolled haccept
      obtain ⟨hok, t₁, hstep, hvisited⟩ | ⟨hnot, hone⟩ :=
        handleReadyFd_spec hinv hfds (by omega) hpolled haccept
      · have hle := hvisited.length_le
        have hiff : (∀ j tⱼ, ComesTo env fds i t j tⱼ → j < i + (n + 1) → EntryOk env tⱼ j) ↔
            ∀ j tⱼ, ComesTo env fds (i + 1) t₁ j tⱼ → j < i + 1 + n → EntryOk env tⱼ j := by
          constructor
          · exact fun h j tⱼ hj hlt => h j tⱼ (hj.cons hstep) (by omega)
          · intro h j tⱼ hj hlt
            by_cases hji : j = i
            · subst hji
              cases hj with
              | start => exact hok
              | next h' _ =>
                  have := h'.le
                  omega
            · exact h j tⱼ (hj.tail hstep hji) (by omega)
        rw [handleReadyFdsFrom_cons hstep, hiff]
        obtain ⟨hall, t', ht', hdone⟩ | hfault := ih (i + 1) t₁ hvisited.inv
          (hfds.trans hvisited.block_eq.symm) (by omega) (hpolled.keeps hvisited.keeps (by omega))
          haccept
        · refine .inl ⟨hall, t', ht', hdone.inv, hdone.sfd_eq.trans hvisited.sfd_eq,
            fun j hj hlt e he hrev hfd => ?_⟩
          by_cases hji : j = i
          · subst hji
            exact ⟨t, t₁, .start, .next .start hstep, hvisited.serves e he hrev hfd⟩
          · obtain ⟨tⱼ, tₖ, hⱼ, hₖ, hserves⟩ := hdone.serves j (by omega) (by omega) e
              (hvisited.keeps.used j (by omega) e he (hpolled j hj e he hrev)) hrev
              (by rwa [hvisited.sfd_eq])
            exact ⟨tⱼ, tₖ, hⱼ.cons hstep, hₖ.cons hstep, hserves⟩
        · exact .inr hfault
      · refine .inr ⟨fun h => hnot (h i t .start (by omega)), fun err t' h => ?_⟩
        obtain ⟨⟨err', t₁⟩, hr, h⟩ := Option.bind_eq_some_iff.mp h
        obtain rfl := hone err' t₁ hr
        cases h
        rfl

/-- What `poll` writes keeps the invariant. -/
lemma Inv.pollFds {now : ℕ} (h : t.Inv) (revents : ℕ → Bool) :
    Inv ((t.checkTransfersTimeout now).pollFds revents) := by
  refine ⟨h.table.keeps (Server.checkTransfersTimeout_keepsTable t.data now), h.wf,
    fun e he hsfd hused => ?_⟩
  obtain ⟨i, hi, rfl⟩ := List.mem_mapIdx.mp he
  exact h.knows (t.fds.toList[i]) (List.getElem_mem hi) hsfd hused

lemma polled_pollFds (t : TcpServer) (revents : ℕ → Bool) (i : ℕ) :
    (t.pollFds revents).Polled i := by
  intro j _ e he hrev hfd
  rw [TcpServer.pollFds, FullArray.toList_mapIdx, List.getElem?_mapIdx] at he
  obtain ⟨e', -, rfl⟩ := Option.map_eq_some_iff.mp he
  simp only [Bool.and_eq_true, decide_eq_true_eq] at hrev
  simp only at hfd
  omega

namespace Round

/-- The state in which `handle_ready_fds` begins. -/
def begins (r : Round) (revents : ℕ → Bool) (t : TcpServer) : TcpServer :=
  (t.checkTransfersTimeout r.now).pollFds revents

/-- Nothing is closed before the first timeout. -/
lemma begins_events {r : Round} (h : r.now ≤ FT_TIMEOUT_SEC) (revents : ℕ → Bool) (t : TcpServer) :
    (r.begins revents t).events = t.events := by
  show t.events ++ (t.data.timedOut r.now).map _ = t.events
  rw [Server.timedOut_of_le _ h, List.map_nil, List.append_nil]

/-- Neither `poll` nor `accept` fails. -/
structure SystemWorks (r : Round) : Prop where
  poll : r.poll ≠ .error
  accept : r.env.acceptFails = false

/-- The loop of `handle_ready_fds` in a round comes to the entry `i` in the state `t'`. -/
def Reaches (r : Round) (revents : ℕ → Bool) (t : TcpServer) (i : ℕ) (t' : TcpServer) : Prop :=
  ComesTo r.env (r.begins revents t).fds.toCArray.block 0 (r.begins revents t) i t'

/-- **A round without a fault**: every entry that the loop comes to is without one. -/
def FaultFree (r : Round) (t : TcpServer) : Prop :=
  ∀ revents, r.poll = .ready revents → ∀ i t', r.Reaches revents t i t' →
    i < (r.begins revents t).fds.toList.length → EntryOk r.env t' i

/-- **A round that the server survives**: the loop stays active, `handle_ready_fds` returns 0, and
every client on whose connection something has arrived has been served. -/
structure Survives (r : Round) (t : TcpServer) : Prop where
  active : ∃ t', t.tcpServerRound r = some (true, t')
  returns : ∀ revents, r.poll = .ready revents →
    ∃ t', (r.begins revents t).handleReadyFds r.env = some (0, t')
  serves : ∀ revents, r.poll = .ready revents → ∀ i (e : PollFd),
    (r.begins revents t).fds.toList[i]? = some e → e.revents = true → e.fd ≠ t.sfd.val →
      ∃ t' t'', r.Reaches revents t i t' ∧ r.Reaches revents t (i + 1) t'' ∧
        Serves r.env t' t'' i e.fd

/-- **One round** in which neither `poll` nor `accept` fails: the server survives it exactly when it
is without a fault, and otherwise the loop ends. -/
lemma spec {r : Round} (hinv : t.Inv) (hr : r.SystemWorks) :
    (r.FaultFree t ∧ r.Survives t ∧ ∃ t', t.tcpServerRound r = some (true, t') ∧ t'.Inv) ∨
    (¬r.FaultFree t ∧ ∀ active t', t.tcpServerRound r = some (active, t') → active = false) := by
  cases hpoll : r.poll with
  | error => exact absurd hpoll hr.poll
  | timeout =>
      have hround : t.tcpServerRound r = some (true, r.begins (fun _ => false) t) := by
        rw [tcpServerRound, hpoll]
        rfl
      refine .inl ⟨fun revents h => ?_, ⟨⟨_, hround⟩, fun revents h => ?_, fun revents h => ?_⟩, _,
        hround, hinv.pollFds _⟩
      · cases hpoll.symm.trans h
      · cases hpoll.symm.trans h
      · cases hpoll.symm.trans h
  | ready revents =>
      have hround : t.tcpServerRound r =
          ((r.begins revents t).handleReadyFds r.env).map fun p => (p.1 == 0, p.2) := by
        rw [tcpServerRound, hpoll]
        rfl
      have hloop : (r.begins revents t).handleReadyFds r.env =
          handleReadyFdsFrom r.env (r.begins revents t).fds.toCArray.block
            (r.begins revents t).fds.toList.length 0 (r.begins revents t) := by
        rw [handleReadyFds, FullArray.length_eq]
      have hfree : r.FaultFree t ↔ ∀ j tⱼ, r.Reaches revents t j tⱼ →
          j < 0 + (r.begins revents t).fds.toList.length → EntryOk r.env tⱼ j := by
        rw [Nat.zero_add]
        refine ⟨fun h => h revents hpoll, fun h revents' h' => ?_⟩
        cases hpoll.symm.trans h'
        exact h
      rw [hfree]
      obtain ⟨hall, t', ht', hdone⟩ | ⟨hnot, hone⟩ := handleReadyFdsFrom_spec r.env
        (r.begins revents t).fds.toList.length 0 (r.begins revents t) (hinv.pollFds revents) rfl
        (by omega) (polled_pollFds _ revents 0) hr.accept
      · have hactive : t.tcpServerRound r = some (true, t') := by
          rw [hround, hloop, ht']
          rfl
        refine .inl ⟨hall, ⟨⟨t', hactive⟩, fun revents' h' => ?_,
          fun revents' h' i e he hrev hfd => ?_⟩, t', hactive, hdone.inv⟩
        · cases hpoll.symm.trans h'
          exact ⟨t', by rw [hloop, ht']⟩
        · cases hpoll.symm.trans h'
          have hi := (List.getElem?_eq_some_iff.mp he).1
          exact hdone.serves i (Nat.zero_le i) (by omega) e he hrev hfd
      · refine .inr ⟨hnot, fun active t' h => ?_⟩
        rw [hround, hloop] at h
        obtain ⟨⟨err, t''⟩, hr', h⟩ := Option.map_eq_some_iff.mp h
        obtain rfl := hone err t'' hr'
        cases h
        rfl

/-- When the server survives a round. -/
lemma survives_iff {r : Round} (hinv : t.Inv) (hr : r.SystemWorks) :
    r.Survives t ↔ r.FaultFree t := by
  obtain ⟨hfree, hsurvives, -⟩ | ⟨hnot, hends⟩ := spec hinv hr
  · exact ⟨fun _ => hfree, fun _ => hsurvives⟩
  · refine ⟨fun h => ?_, fun h => absurd h hnot⟩
    obtain ⟨t', ht'⟩ := h.active
    cases hends true t' ht'

/-- A round after which the loop is active keeps the invariant. -/
lemma inv_of_active {r : Round} (hinv : t.Inv) (hr : r.SystemWorks)
    (h : t.tcpServerRound r = some (true, t')) : t'.Inv := by
  obtain ⟨-, -, t'', ht'', hinv''⟩ | ⟨-, hends⟩ := spec hinv hr
  · cases h.symm.trans ht''
    exact hinv''
  · cases hends true t' h

end Round

/-! ### Runs -/

lemma inv_tcpServerInit (sfd : Descriptor) : (tcpServerInit sfd).Inv := by
  refine ⟨Server.tableInv_dataInit, CArray.wf_arrayNew ID_MAX, fun e he hsfd _ => ?_⟩
  have hlist : (tcpServerInit sfd).fds.toList = [⟨sfd.val, false⟩] := rfl
  rw [hlist, List.mem_singleton] at he
  rw [he] at hsfd
  exact absurd rfl hsfd

lemma tcpServerLoop_append (rs : List Round) (r : Round) (t : TcpServer) :
    tcpServerLoop (rs ++ [r]) t = (tcpServerLoop rs t).bind fun p =>
      if p.1 = true then tcpServerRound r p.2 else some (false, p.2) := by
  induction rs generalizing t with
  | nil =>
      simp only [List.nil_append, tcpServerLoop, Option.bind_eq_bind, Option.bind_some, if_true]
      cases tcpServerRound r t with
      | none => rfl
      | some p =>
          obtain ⟨active, t'⟩ := p
          cases active <;> rfl
  | cons r' rs ih =>
      simp only [List.cons_append, tcpServerLoop, Option.bind_eq_bind]
      cases tcpServerRound r' t with
      | none => rfl
      | some p =>
          obtain ⟨active, t'⟩ := p
          cases active with
          | false => rfl
          | true => exact ih t'

/-- The last round of a run. -/
lemma tcpServerLoop_snoc {rs : List Round} {r : Round}
    (h : tcpServerLoop (rs ++ [r]) t = some (true, t')) :
    ∃ t'', tcpServerLoop rs t = some (true, t'') ∧ tcpServerRound r t'' = some (true, t') := by
  rw [tcpServerLoop_append] at h
  obtain ⟨⟨active, t''⟩, hloop, h⟩ := Option.bind_eq_some_iff.mp h
  cases active with
  | false => cases h
  | true => exact ⟨t'', hloop, h⟩

/-- The invariant over a run. -/
lemma tcpServerLoop_inv {rs : List Round} (hrs : ∀ r ∈ rs, Round.SystemWorks r) (hinv : t.Inv)
    (h : tcpServerLoop rs t = some (true, t')) : t'.Inv := by
  induction rs using List.reverseRecOn generalizing t' with
  | nil =>
      cases h
      exact hinv
  | append_singleton rs r ih =>
      obtain ⟨t'', hloop, hround⟩ := tcpServerLoop_snoc h
      exact Round.inv_of_active (ih (fun r' hr' => hrs r' (List.mem_append_left _ hr')) hloop)
        (hrs r (List.mem_append_right _ (List.mem_singleton_self r))) hround

/-- **One client and the TCP server**: over a run of the loop in which neither `poll` nor `accept`
fails, the server survives every round exactly when every round that it comes to is without a
fault. -/
theorem one_client_cannot_stop_iff (sfd : Descriptor) {rs : List Round}
    (hrs : ∀ r ∈ rs, r.SystemWorks) :
    (∀ rs₁ r rs₂, rs = rs₁ ++ r :: rs₂ →
      ∃ t, tcpServerLoop rs₁ (tcpServerInit sfd) = some (true, t) ∧ r.Survives t) ↔
    ∀ rs₁ r rs₂ t, rs = rs₁ ++ r :: rs₂ →
      tcpServerLoop rs₁ (tcpServerInit sfd) = some (true, t) → r.FaultFree t := by
  have hmem : ∀ rs₁ r rs₂, rs = rs₁ ++ r :: rs₂ →
      (∀ r' ∈ rs₁, r'.SystemWorks) ∧ r.SystemWorks := by
    rintro rs₁ r rs₂ rfl
    exact ⟨fun r' hr' => hrs r' (List.mem_append_left _ hr'),
      hrs r (List.mem_append_right _ List.mem_cons_self)⟩
  constructor
  · intro h rs₁ r rs₂ t hsplit ht
    obtain ⟨hworks, hr⟩ := hmem rs₁ r rs₂ hsplit
    obtain ⟨t', ht', hsurvives⟩ := h rs₁ r rs₂ hsplit
    cases ht.symm.trans ht'
    exact (Round.survives_iff (tcpServerLoop_inv hworks (inv_tcpServerInit sfd) ht) hr).mp hsurvives
  · intro h rs₁
    -- by the number of rounds in front
    induction rs₁ using List.reverseRecOn with
    | nil =>
        intro r rs₂ hsplit
        obtain ⟨-, hr⟩ := hmem [] r rs₂ hsplit
        exact ⟨_, rfl, (Round.survives_iff (inv_tcpServerInit sfd) hr).mpr
          (h [] r rs₂ _ hsplit rfl)⟩
    | append_singleton rs₁ r' ih =>
        intro r rs₂ hsplit
        obtain ⟨hworks, hr⟩ := hmem (rs₁ ++ [r']) r rs₂ hsplit
        obtain ⟨t, ht, hsurvives⟩ := ih r' (r :: rs₂) (by rw [hsplit, List.append_assoc]; rfl)
        obtain ⟨t', ht'⟩ := hsurvives.active
        have hloop : tcpServerLoop (rs₁ ++ [r']) (tcpServerInit sfd) = some (true, t') := by
          rw [tcpServerLoop_append, ht]
          exact ht'
        exact ⟨t', hloop, (Round.survives_iff
          (tcpServerLoop_inv hworks (inv_tcpServerInit sfd) hloop) hr).mpr
          (h (rs₁ ++ [r']) r rs₂ t' hsplit hloop)⟩

/-! ### An error of `recv` -/

namespace RecvError

/-- A socket on which `recv` fails. -/
def socket : Socket Unit := ⟨fun _ _ => (.error, ()), fun _ _ _ _ h => nomatch h⟩

/-- A connection on a socket, on which nothing else happens. -/
def quiet (σ : Type) (sock : Socket σ) (s : σ) : ConnEnv :=
  { σ := σ, sock := sock, s := s, others := ⟨id, fun _ h => h⟩, env := .quiet [0]
    send := fun _ => true, download := ⟨fun _ => none, fun _ => true, true, fun _ => true⟩ }

/-- Two clients connect. -/
def connect : Round :=
  ⟨0, .ready fun i => i == 0,
    ⟨[(4, .replicate 16 0), (5, .replicate 16 0)], false, fun _ => quiet _ socket ()⟩⟩

/-- On the connection of the first one `recv` fails, and a registration has arrived on the other
one. -/
def fails : Round :=
  ⟨0, .ready fun i => i != 0, ⟨[], false, fun i => if i = 1 then quiet _ socket () else
    quiet _ chunkSocket [[0, 1] ++ List.replicate 10 97 ++ [CR, LF]]⟩⟩

lemma systemWorks : ∀ r ∈ [connect, fails], r.SystemWorks := by
  simp only [List.mem_cons, List.not_mem_nil, or_false, forall_eq_or_imp, forall_eq]
  exact ⟨⟨nofun, rfl⟩, ⟨nofun, rfl⟩⟩

set_option maxRecDepth 100000 in
lemma connected : ∃ t, tcpServerLoop [connect] (tcpServerInit 3) = some (true, t) ∧
    t.sfd = 3 ∧ t.fds.toList = [⟨3, true⟩, ⟨4, false⟩, ⟨5, false⟩] ∧
    t.connectionInfos.get 4 = some 4 ∧
    t.connectionInfos.at? 4 = some ⟨.replicate 16 0, .zero⟩ ∧ t.events = [] :=
  ⟨_, rfl, rfl, rfl, rfl, rfl, rfl⟩

lemma recv_socket : recvClientRequest socket () .zero = some ⟨1, none, .zero, ()⟩ := by
  rw [recvClientRequest, recvRequest, recvLoop]
  rfl

/-- The connection of the first client: the server closes it, and returns 1. -/
lemma handleTcpConnection_fails {t : TcpServer} {infos : ConnectionInfos}
    (hget : t.connectionInfos.get 4 = some 4) (hat : t.connectionInfos.at? 4 = some infos)
    (hcarry : infos.rbRq = .zero) : ∃ t', t.handleTcpConnection (fails.env.conn 1) 4 =
      some (1, false, t') ∧ t'.fds = t.fds ∧ t'.events = t.events ++ [.close 4] := by
  have hrecv : recvClientRequest (fails.env.conn 1).sock (fails.env.conn 1).s infos.rbRq =
      some ⟨1, none, .zero, ()⟩ := by
    rw [hcarry]
    exact recv_socket
  have hsize : sizeT 4 = 4 := rfl
  refine ⟨close { t with
    connectionInfos := t.connectionInfos.write 4 { infos with rbRq := .zero } } 4, ?_, rfl, rfl⟩
  simp only [handleTcpConnection, hsize, hget, hat, hrecv, Option.bind_eq_bind, Option.bind_some]
  rfl

/-- The round ends the loop with the entry of the first client. -/
lemma tcpServerRound_fails {t : TcpServer} (hsfd : t.sfd = 3)
    (hfds : t.fds.toList = [⟨3, true⟩, ⟨4, false⟩, ⟨5, false⟩])
    (hget : t.connectionInfos.get 4 = some 4) {infos : ConnectionInfos}
    (hat : t.connectionInfos.at? 4 = some infos) (hcarry : infos.rbRq = .zero) :
    ∃ t', t.tcpServerRound fails = some (false, t') ∧
      t'.fds.toList = [⟨3, false⟩, ⟨4, true⟩, ⟨5, true⟩] ∧ t'.events = t.events ++ [.close 4] := by
  have hlist : (fails.begins (fun i => i != 0) t).fds.toList =
      [⟨3, false⟩, ⟨4, true⟩, ⟨5, true⟩] := by
    rw [Round.begins, pollFds, FullArray.toList_mapIdx]
    show t.fds.toList.mapIdx _ = _
    rw [hfds]
    rfl
  obtain ⟨t', hconn, hfds', hevents⟩ :=
    handleTcpConnection_fails (t := fails.begins (fun i => i != 0) t) hget hat hcarry
  have hround : t.tcpServerRound fails =
      ((fails.begins (fun i => i != 0) t).handleReadyFds fails.env).map fun p => (p.1 == 0, p.2) :=
    rfl
  have hsfd' : (fails.begins (fun i => i != 0) t).sfd = 3 := hsfd
  have hsame : (fails.begins (fun i => i != 0) t).events = t.events :=
    Round.begins_events (Nat.zero_le _) _ t
  generalize fails.begins (fun i => i != 0) t = b at hlist hconn hfds' hround hsfd' hevents hsame
  have hidle : b.handleReadyFd fails.env b.fds.toCArray.block 0 = some (0, b) :=
    handleReadyFd_idle _ rfl (by rw [hlist]; rfl) rfl
  have hderef : b.fds.toCArray.deref ⟨b.fds.toCArray.block, 1⟩ = some ⟨4, true⟩ :=
    deref_fds rfl (by rw [hlist]; rfl)
  have hfirst : b.handleReadyFd fails.env b.fds.toCArray.block 1 = some (1, t') := by
    have hne : ¬(4 : ℤ) = b.sfd.val := by
      rw [hsfd']
      decide
    simp only [handleReadyFd, hderef, hne, hconn, Option.bind_eq_bind, Option.bind_some]
    rfl
  refine ⟨t', ?_, by rw [hfds', hlist], by rw [hevents, hsame]⟩
  rw [hround, handleReadyFds, FullArray.length_eq, hlist]
  simp only [List.length_cons, List.length_nil, handleReadyFdsFrom, hidle, hfirst,
    Option.bind_eq_bind, Option.bind_some]
  rfl

/-- The server closes the connection of the first client, and its loop ends: the second one is not
served. -/
theorem not_one_client_cannot_stop : (∀ r ∈ [connect, fails], r.SystemWorks) ∧
    (∃ t, tcpServerLoop [connect, fails] (tcpServerInit 3) = some (false, t) ∧
      t.fds.toList = [⟨3, false⟩, ⟨4, true⟩, ⟨5, true⟩] ∧ t.events = [.close 4]) ∧
    ¬∀ rs₁ r rs₂, [connect, fails] = rs₁ ++ r :: rs₂ →
      ∃ t, tcpServerLoop rs₁ (tcpServerInit 3) = some (true, t) ∧ r.Survives t := by
  obtain ⟨t, ht, hsfd, hfds, hget, hat, hevents⟩ := connected
  obtain ⟨t', hround, hfds', hevents'⟩ := tcpServerRound_fails hsfd hfds hget hat rfl
  refine ⟨systemWorks, ⟨t', ?_, hfds', ?_⟩, fun h => ?_⟩
  · rw [show [connect, fails] = [connect] ++ [fails] from rfl, tcpServerLoop_append, ht]
    exact hround
  · rw [hevents', hevents]
    rfl
  · obtain ⟨t'', ht'', hsurvives⟩ := h [connect] fails [] rfl
    obtain rfl : t = t'' := congrArg Prod.snd (Option.some.inj (ht.symm.trans ht''))
    obtain ⟨t₁, hactive⟩ := hsurvives.active
    cases hround.symm.trans hactive

set_option maxRecDepth 100000 in
lemma faultFree_connect : connect.FaultFree (tcpServerInit 3) := by
  intro revents hpoll i t' hreaches hi
  cases hpoll
  have hlen : (connect.begins (fun i => i == 0) (tcpServerInit 3)).fds.toList =
      [⟨3, true⟩] := rfl
  rw [hlen, List.length_singleton] at hi
  cases hreaches with
  | next _ _ => omega
  | start =>
      intro e he _
      rw [hlen] at he
      cases he
      refine ⟨fun _ => ?_, fun h => absurd rfl h⟩
      rw [Fits, hlen]
      show 1 + (2 - 0) ≤ ID_MAX
      decide

/-- The server survives the first round. -/
theorem one_client_cannot_stop_iff_connect : (∀ r ∈ [connect], r.SystemWorks) ∧
    ∀ rs₁ r rs₂, [connect] = rs₁ ++ r :: rs₂ →
      ∃ t, tcpServerLoop rs₁ (tcpServerInit 3) = some (true, t) ∧ r.Survives t := by
  have hworks : ∀ r ∈ [connect], r.SystemWorks :=
    fun r hr => systemWorks r (List.mem_cons.mpr (.inl (List.mem_singleton.mp hr)))
  refine ⟨hworks, (one_client_cannot_stop_iff 3 hworks).mpr fun rs₁ r rs₂ t hsplit ht => ?_⟩
  obtain ⟨rfl, h⟩ | ⟨rs, rfl, h⟩ := List.cons_eq_append_iff.mp hsplit
  · cases h
    cases ht
    exact faultFree_connect
  · cases rs <;> cases h

end RecvError

end TcpServer

end Megaphone
