import Megaphone.Server.RequestManager
import Megaphone.Server.Notifications

/-!
The server as a machine: the connections of `tcp_server.c`, the datagrams of `udp_server.c` and the
notification loop, in any order.

* `Answer`, `handleTcpConnection`: a request over TCP, and what `send_server_request` gets to read.
* `Input`, `step`: what may happen, and the machine.  A server that stops after an error is taken
  to go on, so that it has every run of the program and more.
* `StepCase`, `step_cases`: what a step is, for each input.
* `users_unique_and_available`: the identifiers of the users over every run.
-/

namespace Megaphone

open Memory

/-! ### Connections -/

/-- What `handle_tcp_connection` holds when it comes to send: the return code of
`handle_tcp_request`, the array of the entries, and the pointer `serverrq` to its storage that was
taken before. -/
structure Answer where
  code : UInt8
  entries : CArray ServerRQ
  serverrq : Ptr

namespace Answer

/-- The entry `serverrq[i]`. -/
def entry (ans : Answer) (i : ℕ) : Option ServerRQ :=
  ans.entries.deref ⟨ans.serverrq.block, ans.serverrq.index + i⟩

/-- What is sent; `ok i` is whether call number `i` of `send` succeeds. -/
def send (ok : ℕ → Bool) (ans : Answer) : Option (UInt8 × List (List UInt8)) :=
  sendServerRequest ok ans.entry

end Answer

namespace Server

/-- `handle_tcp_connection` on a request that has been received. -/
def handleTcpConnection (env : Env) (s : Server) (rq : ClientRQ) : Option (Server × Answer) :=
  let aServerrq := CArray.arrayNew ServerRQ 0
  let serverrq := aServerrq.addr 0
  (s.handleTcpRequest env aServerrq rq).map fun h => (h.server, ⟨h.code, h.serverrq, serverrq⟩)

/-- What `handle_tcp_connection` makes of the result of the handler. -/
lemma handleTcpConnection_cases {env : Env} {s s' : Server} {rq : ClientRQ} {ans : Answer}
    (h : s.handleTcpConnection env rq = some (s', ans)) :
    ∃ r, Server.requests env { s with dErrno := NOERROR } (.arrayNew ServerRQ 0) rq = some r ∧
      ((r.code = 0 ∧ s' = { r.server with dErrno := NOERROR } ∧
          ans = ⟨0, r.serverrq.poke ⟨0, 0⟩ fun e => { e with type := rq.type }, ⟨0, 0⟩⟩) ∨
        (r.code ≠ 0 ∧ s' = r.server ∧ env.enomem = true ∧ ans = ⟨1, r.serverrq, ⟨0, 0⟩⟩) ∨
        (r.code ≠ 0 ∧ s' = r.server ∧ env.enomem = false ∧
          ans = ⟨0, r.serverrq.poke ⟨0, 0⟩ fun _ =>
            ⟨r.server.dErrno.toUInt8, .cl r.server.serverrqError⟩, ⟨0, 0⟩⟩)) := by
  obtain ⟨h₀, hh, heq⟩ := Option.map_eq_some_iff.mp h
  obtain ⟨r, hrq, rfl⟩ := Option.map_eq_some_iff.mp hh
  obtain ⟨rfl, rfl⟩ := Prod.mk.inj heq
  refine ⟨r, hrq, ?_⟩
  by_cases hcode : r.code = 0
  · rw [if_pos hcode]
    exact .inl ⟨hcode, rfl, rfl⟩
  · rw [if_neg hcode]
    cases henomem : env.enomem with
    | true => exact .inr (.inl ⟨hcode, rfl, rfl, rfl⟩)
    | false => exact .inr (.inr ⟨hcode, rfl, rfl, rfl⟩)

/-- It is that of the handler but for `d_errno`. -/
lemma handleTcpConnection_server {env : Env} {s s' : Server} {rq : ClientRQ} {ans : Answer}
    (h : s.handleTcpConnection env rq = some (s', ans)) :
    ∃ r e, Server.requests env { s with dErrno := NOERROR } (.arrayNew ServerRQ 0) rq = some r ∧
      s' = { r.server with dErrno := e } := by
  obtain ⟨r, hrq, hr⟩ := handleTcpConnection_cases h
  obtain ⟨-, rfl, -⟩ | ⟨-, rfl, -⟩ | ⟨-, rfl, -⟩ := hr
  · exact ⟨r, NOERROR, hrq, rfl⟩
  · exact ⟨r, r.server.dErrno, hrq, rfl⟩
  · exact ⟨r, r.server.dErrno, hrq, rfl⟩

/-- One round of `udp_server_loop`: the datagram is received and handled. -/
def udpServerLoop (env : Env) (s : Server) (datagram : List UInt8) : Option (UInt8 × Server) := do
  let (type, ft, nbytes) ← recvDatagrams (ntohClientrqup env.junk) datagram
  s.handleUploadPacket env type ft nbytes

end Server

/-! ### The machine -/

/-- The data of the server and where the notification loop is. -/
structure World where
  server : Server
  loop : Loop

/-- The server after its start. -/
def World.init : World := ⟨dataInit, .sleep⟩

/-- What may happen.

* `tcp`: a request over TCP;
* `sent`: the end of a download, after which its transfer is cleared;
* `timeout`: the check at the beginning of a round of `tcp_server_loop`;
* `udp`: a datagram;
* `loop`: a step of the notification loop. -/
inductive Input
  | tcp (env : Env) (rq : ClientRQ)
  | sent (id : UInt16)
  | timeout (now : ℕ)
  | udp (env : Env) (datagram : List UInt8)
  | loop (ok : Bool)

/-- The machine, whose output is the answer to a request over TCP. -/
def step (w : World) : Input → Option (World × Option Answer)
  | .tcp env rq =>
      (w.server.handleTcpConnection env rq).map fun p => ({ w with server := p.1 }, some p.2)
  | .sent id => (w.server.idClearTransfer id).map fun s => ({ w with server := s }, none)
  | .timeout now => some ({ w with server := w.server.checkTransfersTimeout now }, none)
  | .udp env datagram =>
      (w.server.udpServerLoop env datagram).map fun p => ({ w with server := p.2 }, none)
  | .loop ok => (w.server.loopStep ok w.loop).map fun p => (⟨p.1, p.2.1⟩, none)

/-- What a step is, one case for each input. -/
inductive StepCase (w : World) : Input → World → Option Answer → Prop
  | tcp {env : Env} {rq : ClientRQ} {s' : Server} {ans : Answer}
      (h : w.server.handleTcpConnection env rq = some (s', ans)) :
      StepCase w (.tcp env rq) { w with server := s' } (some ans)
  | sent {id : UInt16} {s' : Server} (h : w.server.idClearTransfer id = some s') :
      StepCase w (.sent id) { w with server := s' } none
  | timeout (now : ℕ) :
      StepCase w (.timeout now) { w with server := w.server.checkTransfersTimeout now } none
  | udp {env : Env} {datagram : List UInt8} {type : UInt8} {ft : FTransferRQ} {nbytes : ℕ}
      {r : UInt8 × Server}
      (hrecv : recvDatagrams (ntohClientrqup env.junk) datagram = some (type, ft, nbytes))
      (h : w.server.handleUploadPacket env type ft nbytes = some r) :
      StepCase w (.udp env datagram) { w with server := r.2 } none
  | loop {ok : Bool} {r : Server × Loop × Option (ℕ × Notification)}
      (h : w.server.loopStep ok w.loop = some r) : StepCase w (.loop ok) ⟨r.1, r.2.1⟩ none

lemma step_cases {w w' : World} {i : Input} {out : Option Answer}
    (h : step w i = some (w', out)) : StepCase w i w' out := by
  cases i with
  | tcp env rq =>
      obtain ⟨⟨s', ans⟩, hconn, heq⟩ := Option.map_eq_some_iff.mp h
      obtain ⟨rfl, rfl⟩ := Prod.mk.inj heq
      exact .tcp hconn
  | sent id =>
      obtain ⟨s', hs', heq⟩ := Option.map_eq_some_iff.mp h
      obtain ⟨rfl, rfl⟩ := Prod.mk.inj heq
      exact .sent hs'
  | timeout now =>
      obtain ⟨rfl, rfl⟩ := Prod.mk.inj (Option.some.inj h)
      exact .timeout now
  | udp env datagram =>
      obtain ⟨r, hr, heq⟩ := Option.map_eq_some_iff.mp h
      obtain ⟨rfl, rfl⟩ := Prod.mk.inj heq
      obtain ⟨p, hrecv, hp⟩ := Option.bind_eq_some_iff.mp hr
      exact .udp hrecv hp
  | loop ok =>
      obtain ⟨r, hr, heq⟩ := Option.map_eq_some_iff.mp h
      obtain ⟨rfl, rfl⟩ := Prod.mk.inj heq
      exact .loop hr

/-- A transition of the server. -/
abbrev ServerTransition := Machine.Transition World Input (Option Answer)

/-! ### Users -/

/-- The user that a transition registers: the identifier is the one in the header that is sent. -/
def registered (t : ServerTransition) : Option User :=
  match t.act, t.out with
  | .tcp _ (.rg rq), some ans =>
      match ans.entry 0 with
      | some ⟨type, .cl cl⟩ =>
          if ans.code = 0 ∧ type = REGISTRATION then some ⟨getId cl.header, rq.pseudo⟩ else none
      | _ => none
  | _, _ => none

/-- A registration that is accepted: the user `u` and the answer. -/
structure Registers (s : Server) (u : User) (ans : Answer) : Prop where
  code_eq : ans.code = 0
  entry_eq : ans.entry 0 = some ⟨REGISTRATION, .cl ⟨mkHeader REGISTRATION u.id, 0, 0⟩⟩
  room : s.users.toList.length < USER_MAX
  fresh : s.Fresh u.id

/-- A registration over TCP: nothing happens to the users, or one is registered under the
identifier that is sent. -/
lemma handleTcpConnection_rg {env : Env} {s s' : Server} {rq : ClientRQRg} {ans : Answer}
    (h : s.handleTcpConnection env (.rg rq) = some (s', ans)) :
    (s'.users = s.users ∧ (ans.code = 0 → ∃ cl, ans.entry 0 = some ⟨ERR_IDMAX.toUInt8, .cl cl⟩)) ∨
    ∃ id, Registers s ⟨id, rq.pseudo⟩ ans ∧ s'.users = (s.userNew id rq.pseudo).users := by
  obtain ⟨r, hrq, hr⟩ := Server.handleTcpConnection_cases h
  obtain ⟨-, rfl⟩ | ⟨hroom, id, hid, rfl⟩ := Server.registrationRequest_cases hrq
  · obtain ⟨hcode, -⟩ | ⟨-, rfl, -, rfl⟩ | ⟨-, rfl, -, rfl⟩ := hr
    · exact absurd (show (1 : UInt8) = 0 from hcode) (by decide)
    · exact .inl ⟨rfl, fun hcode => absurd (show (1 : UInt8) = 0 from hcode) (by decide)⟩
    · exact .inl ⟨rfl, fun _ => ⟨_, rfl⟩⟩
  · obtain ⟨hnew, hpos, hmax⟩ := Server.generateNewId_spec hid
    obtain ⟨-, rfl, rfl⟩ | ⟨hcode, -⟩ | ⟨hcode, -⟩ := hr
    · exact .inr ⟨id, ⟨rfl, rfl, hroom, ⟨hnew, hpos, hmax⟩⟩, rfl⟩
    · exact absurd rfl hcode
    · exact absurd rfl hcode

/-- No other request changes the users. -/
lemma handleTcpConnection_cl {env : Env} {s s' : Server} {type : UInt8}
    {htype : type ≠ REGISTRATION} {rq : ClientRQCl} {ans : Answer}
    (h : s.handleTcpConnection env (.cl type htype rq) = some (s', ans)) : s'.users = s.users := by
  obtain ⟨r, e, hrq, rfl⟩ := Server.handleTcpConnection_server h
  have husers := Server.requests_users hrq
  exact husers

/-- **Users, one step**: they stay, or the one that the step registers joins them. -/
lemma step_users {w w' : World} {i : Input} {out : Option Answer}
    (h : step w i = some (w', out)) :
    (w'.server.users = w.server.users ∧ registered ⟨w, i, out, w'⟩ = none) ∨
    ∃ u ans, registered ⟨w, i, out, w'⟩ = some u ∧ out = some ans ∧ Registers w.server u ans ∧
      w'.server.users = (w.server.userNew u.id u.pseudo).users := by
  cases step_cases h with
  | @tcp env rq s' ans hconn =>
      cases rq with
      | rg rq =>
          obtain ⟨husers, herr⟩ | ⟨id, hreg, husers⟩ := handleTcpConnection_rg hconn
          · refine .inl ⟨husers, ?_⟩
            by_cases hcode : ans.code = 0
            · obtain ⟨cl, hentry⟩ := herr hcode
              simp only [registered, hentry]
              rw [if_neg (fun h => absurd h.2 (by decide))]
            · simp only [registered]
              split
              · rw [if_neg (fun h => hcode h.1)]
              · rfl
          · have hmax := hreg.fresh.le_max
            have hid : getId (mkHeader REGISTRATION id) = id :=
              getId_mkHeader (by decide) (by simp only [ID_MAX] at hmax; omega)
            refine .inr ⟨⟨id, rq.pseudo⟩, ans, ?_, rfl, hreg, husers⟩
            simp [registered, hreg.entry_eq, hreg.code_eq, hid]
      | cl type htype rq =>
          exact .inl ⟨handleTcpConnection_cl hconn, rfl⟩
  | sent hs' =>
      exact .inl ⟨(Server.idClearTransfer_sameStore hs').users_eq, rfl⟩
  | timeout now =>
      exact .inl ⟨rfl, rfl⟩
  | udp hrecv hp =>
      exact .inl ⟨(Server.handleUploadPacket_posting hp).users_eq, rfl⟩
  | loop hr =>
      exact .inl ⟨(loopStep_loopStore hr).users_eq, rfl⟩

/-- The users after a run are those that it has registered, in this order. -/
lemma run_users {w w' : World} {ts : List ServerTransition} (h : Machine.Run step w ts w') :
    w'.server.users.toList = w.server.users.toList ++ ts.filterMap registered := by
  induction h with
  | nil => simp
  | cons hs _ ih =>
      rw [ih, List.filterMap_cons]
      obtain ⟨husers, hnone⟩ | ⟨u, ans, hsome, -, -, husers⟩ := step_users hs
      · rw [husers, hnone]
      · rw [husers, hsome, Server.userNew, FullArray.toList_append, List.append_assoc,
          List.singleton_append]

/-- The invariant of the users over every run. -/
lemma run_usersInv {w w' : World} {ts : List ServerTransition} (h : Machine.Run step w ts w')
    (hw : w.server.UsersInv) : w'.server.UsersInv := by
  refine h.invariant (P := fun w => w.server.UsersInv) (fun w i w' out hw hs => ?_) hw
  obtain ⟨husers, -⟩ | ⟨u, ans, -, -, hreg, husers⟩ := step_users hs
  · exact hw.congr husers
  · exact (hw.userNew hreg.fresh hreg.room u.pseudo).congr husers

/-- The header of the answer to a registration gives the identifier and the type back. -/
lemma run_header {w w' : World} {ts : List ServerTransition} (h : Machine.Run step w ts w') :
    ∀ t ∈ ts, ∀ u, registered t = some u → ∃ ans cl, t.out = some ans ∧
      ans.entry 0 = some ⟨REGISTRATION, .cl cl⟩ ∧ cl.header = mkHeader REGISTRATION u.id ∧
      getId cl.header = u.id ∧ getRqType cl.header = REGISTRATION := by
  refine h.forall_transition (P := fun _ => True) (fun _ _ _ _ _ _ => trivial)
    (fun w i w' out _ hs u hu => ?_) trivial
  obtain ⟨-, hnone⟩ | ⟨u', ans, hsome, rfl, hreg, -⟩ := step_users hs
  · rw [hnone] at hu
    cases hu
  · rw [hsome] at hu
    cases hu
    have hmax := hreg.fresh.le_max
    have hlt : u.id.toNat < 2048 := by
      simp only [ID_MAX] at hmax
      omega
    exact ⟨ans, _, rfl, hreg.entry_eq, rfl, getId_mkHeader (by decide) hlt,
      getRqType_mkHeader (by decide) hlt⟩

/-- **User identifiers are unique and never run out early.**  After every run: the users are those
whose registration was answered, under the identifier that the answer carries; no identifier is
given twice, and each is in `1..ID_MAX`; there are at most `USER_MAX` users; the pseudo of each is
the one that it was registered with; as long as `registration_request` passes its check, some
value of `random` gives a new identifier; and the header of each answer gives the identifier back,
with the type.

A run ends where the code leaves the memory of an array: at a subscription to the last feed when the
array of the feeds is full, at a block behind which `write_file` reads over the blocks that are
stored, and at the name of a file whose path does not fit into `MAX_DATALEN` bytes. -/
theorem users_unique_and_available {w : World} {ts : List ServerTransition}
    (h : Machine.Run step World.init ts w) :
    w.server.users.toList = ts.filterMap registered ∧
    (w.server.users.toList.map (·.id)).Nodup ∧
    (∀ u ∈ w.server.users.toList, 1 ≤ u.id.toNat ∧ u.id.toNat ≤ 2047) ∧
    w.server.users.toList.length ≤ 2047 ∧
    (∀ u ∈ w.server.users.toList, w.server.getPseudo u.id = some u.pseudo) ∧
    (w.server.getNbUser < USER_MAX → ∃ id : UInt16, 1 ≤ id.toNat ∧ id.toNat ≤ ID_MAX ∧
      w.server.existId id = false ∧ ∃ x < 2 ^ 31, w.server.generateNewId [x] = some id) ∧
    ∀ t ∈ ts, ∀ u, registered t = some u → ∃ ans cl, t.out = some ans ∧
      ans.entry 0 = some ⟨REGISTRATION, .cl cl⟩ ∧ cl.header = mkHeader REGISTRATION u.id ∧
      getId cl.header = u.id ∧ getRqType cl.header = REGISTRATION := by
  have hinv := run_usersInv h Server.usersInv_dataInit
  refine ⟨by simpa [World.init, dataInit] using run_users h, hinv.nodup, hinv.range,
    hinv.length_le, fun u hu => Server.getPseudo_of_mem hinv.nodup hu, fun hroom => ?_,
    run_header h⟩
  rw [Server.getNbUser, FullArray.length_eq] at hroom
  obtain ⟨id, hid⟩ := Server.exists_fresh hroom
  refine ⟨id, hid.pos, hid.le_max, hid.new, id.toNat - 1, ?_, Server.generateNewId_of_fresh hid⟩
  have hmax := hid.le_max
  simp only [ID_MAX] at hmax
  omega

/-- One user, registered under the identifier 5. -/
theorem users_unique_and_available_one : ∃ ts w, Machine.Run step World.init ts w ∧
    ts.length = 1 ∧ w.server.users.toList = ts.filterMap registered ∧
    w.server.users.toList.map (·.id) = [5] := by
  have hrun : Machine.Run step World.init _ _ :=
    .cons (a := .tcp (.quiet [4]) (.rg ⟨0, .replicate PSEUDO_LEN 97⟩)) rfl (.nil _)
  exact ⟨_, _, hrun, rfl, (users_unique_and_available hrun).1, rfl⟩

end Megaphone
