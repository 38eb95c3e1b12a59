import Megaphone.Server.TcpServer
import Megaphone.Server.Run

/-!
The start of the server (`server_manager.c`, and `server.c` behind it).

* `isPort`, `parse`: the command line.
* `createTcpServer`, `createUdpServer`, `launchServer`: the sockets, and the ports that they are
  bound to.
* `CommandLine`: the command lines that are accepted, with the ports that they give.
* `ListensAsTold`: the servers are started on these ports, and the answers to `UPLOAD` announce the
  one of the UDP server.
* `listensAsTold_iff`: when this is so.
-/

namespace Megaphone

open Memory

/-! ### The command line -/

/-- `TCP_PORT`. -/
def TCP_PORT : UInt16 := 6226

/-- `is_port`: the port, or `none` for the result 0. -/
def isPort (portstr : List UInt8) : Option UInt16 := do
  let (l, endptr) ← strtol portstr
  if endptr ≠ [] then none
  else if l < 1024 ∨ l > 49151 then none
  else some (UInt16.ofNat l.toNat)

/-- `"-t"`. -/
def OPT_T : List UInt8 := [45, 116]

/-- `"-u"`. -/
def OPT_U : List UInt8 := [45, 117]

/-- `parse`, on the ports that it is to write to: those that it leaves, or `none` when it ends the
program. -/
def parse (argv : List (List UInt8)) (portTcp portUdp : UInt16) : Option (UInt16 × UInt16) :=
  let argc := argv.length
  let arg := fun i => argv.getD i []
  if argc = 1 then some (portTcp, portUdp)
  else if argc = 3 ∧ arg 1 = OPT_T then (isPort (arg 2)).map fun p => (p, portUdp)
  else if argc = 3 ∧ arg 1 = OPT_U then (isPort (arg 2)).map fun p => (portTcp, p)
  else if argc = 5 then do
    let idT := if arg 1 = OPT_T then 2 else 0
    let idU := if arg 1 = OPT_U then 2 else 0
    let idT := if arg 3 = OPT_T then 4 else idT
    let idU := if arg 3 = OPT_U then 4 else idU
    -- whichever option comes first, both ports are read from `argv[2]`
    let portTcp ← isPort (arg 2)
    let portUdp ← isPort (arg 2)
    if idT ≠ 0 ∧ idU ≠ 0 then some (portTcp, portUdp) else none
  else none

/-! ### The servers -/

/-- `Server` of `server.h`, with the port in its address. -/
structure NetServer where
  port : UInt16
  sfd : Descriptor
  sin6Port : UInt16

/-- What the outside decides while a server is created: the result of `socket`, and whether the
other calls succeed. -/
structure SocketEnv where
  socket : Option Descriptor
  setNonBlocking : Bool
  sockoptInit : Bool
  bind : UInt16 → Bool
  listen : Bool

/-- `create_tcp_server`, or `none` for the return code 1. -/
def createTcpServer (env : SocketEnv) (port : UInt16) : Option NetServer := do
  let sfd ← env.socket
  let tcpServer : NetServer := ⟨port, sfd, htons port⟩
  if env.setNonBlocking ∧ env.sockoptInit ∧ env.bind tcpServer.sin6Port ∧ env.listen then
    some tcpServer
  else none

/-- `create_udp_server`, or `none` for the return code 1. -/
def createUdpServer (env : SocketEnv) (port : UInt16) : Option NetServer := do
  let sfd ← env.socket
  let udpServer : NetServer := ⟨port, sfd, htons port⟩
  if env.sockoptInit ∧ env.bind udpServer.sin6Port then some udpServer else none

/-- The servers when the jobs are added to the thread pool. -/
structure Launched where
  tcpServer : NetServer
  udpServer : NetServer
  tcp : TcpServer

/-- What the outside decides in `launch_server`; `threadPool` is whether `thread_pool_init`
succeeds. -/
structure LaunchEnv where
  tcp : SocketEnv
  udp : SocketEnv
  threadPool : Bool

/-- `launch_server`, or `none` when it ends the program before the thread pool runs. -/
def launchServer (env : LaunchEnv) (argv : List (List UInt8)) : Option Launched := do
  let (tcpPort, udpPort) ← parse argv TCP_PORT UDP_PORT
  let tcpServer ← createTcpServer env.tcp tcpPort
  let udpServer ← createUdpServer env.udp udpPort
  if env.threadPool then some ⟨tcpServer, udpServer, .tcpServerInit tcpServer.sfd⟩ else none

/-! ### Ports in decimal -/

/-- Every port from 1024 to 49151 may be given by its digits. -/
lemma isPort_decimal {port : UInt16} (hle : 1024 ≤ port.toNat) (hge : port.toNat ≤ 49151) :
    isPort (decimal port.toNat) = some port := by
  rw [isPort, strtol_decimal (by omega)]
  simp only [Option.bind_eq_bind, Option.bind_some, ne_eq, not_true, if_false]
  rw [if_neg (by omega), Int.toNat_natCast, UInt16.ofNat_toNat]

/-! ### What the command line says -/

/-- An argument that `is_port` accepts. -/
structure PortArg where
  text : List UInt8
  port : UInt16
  isPort_eq : isPort text = some port

/-- A port by its digits. -/
def PortArg.ofPort (port : UInt16) (hle : 1024 ≤ port.toNat) (hge : port.toNat ≤ 49151) :
    PortArg :=
  ⟨decimal port.toNat, port, isPort_decimal hle hge⟩

/-- The options. -/
inductive CommandLine
  | none
  | t (p : PortArg)
  | u (q : PortArg)
  | tu (p q : PortArg)
  | ut (q p : PortArg)

namespace CommandLine

/-- The arguments behind the name of the program. -/
def args : CommandLine → List (List UInt8)
  | none => []
  | t p => [OPT_T, p.text]
  | u q => [OPT_U, q.text]
  | tu p q => [OPT_T, p.text, OPT_U, q.text]
  | ut q p => [OPT_U, q.text, OPT_T, p.text]

/-- The port given with `-t`. -/
def tcpPort : CommandLine → UInt16
  | none => TCP_PORT
  | t p => p.port
  | u _ => TCP_PORT
  | tu p _ => p.port
  | ut _ p => p.port

/-- The port given with `-u`. -/
def udpPort : CommandLine → UInt16
  | none => UDP_PORT
  | t _ => UDP_PORT
  | u q => q.port
  | tu _ q => q.port
  | ut q _ => q.port

/-- The ports that `parse` leaves. -/
def parsed : CommandLine → UInt16 × UInt16
  | none => (TCP_PORT, UDP_PORT)
  | t p => (p.port, UDP_PORT)
  | u q => (TCP_PORT, q.port)
  | tu p _ => (p.port, p.port)
  | ut q _ => (q.port, q.port)

/-- **`parse`** accepts each of these command lines. -/
lemma parse_eq (name : List UInt8) (c : CommandLine) :
    parse (name :: c.args) TCP_PORT UDP_PORT = some c.parsed := by
  have hne : OPT_U ≠ OPT_T := by decide
  cases c with
  | none => rfl
  | t p => simp [parse, args, parsed, p.isPort_eq]
  | u q => simp [parse, args, parsed, q.isPort_eq, hne]
  | tu p q => simp [parse, args, parsed, p.isPort_eq, hne, hne.symm]
  | ut q p => simp [parse, args, parsed, q.isPort_eq, hne, hne.symm]

end CommandLine

/-! ### The ports that are announced -/

/-- The answer to every `UPLOAD` request that is accepted, in every run of the server from the state
`s` on, announces `port`. -/
def Server.Announces (s : Server) (port : UInt16) : Prop :=
  ∀ ts w, Machine.Run step ⟨s, .sleep⟩ ts w → ∀ t ∈ ts, ∀ env htype rq ans cl,
    t.act = .tcp env (.cl UPLOAD htype rq) → t.out = some ans → ans.code = 0 →
      ans.entry 0 = some ⟨UPLOAD, .cl cl⟩ → cl.count = port

/-- **The server listens where it is told and announces where it listens.** -/
def ListensAsTold (name : List UInt8) (c : CommandLine) : Prop :=
  ∀ env launched, launchServer env (name :: c.args) = some launched →
    launched.tcpServer.sin6Port = htons c.tcpPort ∧
      launched.udpServer.sin6Port = htons c.udpPort ∧
      launched.tcp.data.Announces launched.udpServer.port

/-- **Accepted uploads** are always told the same port. -/
lemma upload_announces {env : Env} {s s' : Server} {htype : UPLOAD ≠ REGISTRATION}
    {rq : ClientRQCl} {ans : Answer} {cl : ServerRQCl}
    (h : s.handleTcpConnection env (.cl UPLOAD htype rq) = some (s', ans)) (hcode : ans.code = 0)
    (hentry : ans.entry 0 = some ⟨UPLOAD, .cl cl⟩) : cl.count = UDP_PORT := by
  obtain ⟨r, hrq, hr⟩ := Server.handleTcpConnection_cases h
  have hrq' : Server.prepareUploadRequest env { s with dErrno := NOERROR } (.arrayNew ServerRQ 0)
      rq = some r := hrq
  obtain ⟨e, he, rfl⟩ | ⟨pseudo, s₁, -, -, -, rfl⟩ := Server.prepareUploadRequest_cases hrq'
  · -- the type of the entry is the error
    obtain ⟨h0, -, -⟩ | ⟨-, -, -, rfl⟩ | ⟨-, -, -, rfl⟩ := hr
    · exact absurd h0 (show (1 : UInt8) ≠ 0 by decide)
    · exact absurd hcode (show (1 : UInt8) ≠ 0 by decide)
    · have htype : e.toUInt8 = UPLOAD :=
        congrArg ServerRQ.type (Option.some.inj hentry)
      rw [htype] at he
      exact absurd he (by decide)
  · obtain ⟨-, -, rfl⟩ | ⟨hne, -⟩ | ⟨hne, -⟩ := hr
    · have hbody : ServerBody.cl ⟨rq.header, rq.feedNumber, UDP_PORT⟩ = .cl cl :=
        congrArg ServerRQ.body (Option.some.inj hentry)
      cases hbody
      rfl
    · exact absurd rfl hne
    · exact absurd rfl hne

/-- The port that is announced is the default one. -/
lemma announces_udpPort (s : Server) : s.Announces UDP_PORT := by
  intro ts w hrun t ht env htype rq ans cl hact hout hcode hentry
  obtain ⟨hstep, -, -⟩ := hrun.exists_of_mem ht
  rw [hact] at hstep
  obtain ⟨⟨s', ans'⟩, hconn, heq⟩ := Option.map_eq_some_iff.mp hstep
  have hans : ans' = ans := Option.some.inj ((Prod.mk.inj heq).2.trans hout)
  subst hans
  exact upload_announces hconn hcode hentry

/-- A user registers and asks for an upload, which is accepted. -/
lemma eq_udpPort_of_announces {port : UInt16} (h : dataInit.Announces port) : UDP_PORT = port := by
  have hrun : Machine.Run step ⟨dataInit, .sleep⟩ _ _ :=
    .cons (a := .tcp (.quiet [0]) (.rg ⟨mkHeader REGISTRATION 0, .replicate PSEUDO_LEN 97⟩)) rfl <|
    .cons (a := .tcp (.quiet []) (.cl UPLOAD upload_ne
      ⟨mkHeader UPLOAD 1, 0, 0, 1, fun _ => 98⟩)) rfl <| .nil _
  exact h _ _ hrun _ (List.mem_cons_of_mem _ List.mem_cons_self) _ _ _ _ _ rfl rfl rfl rfl

/-! ### When the ports are right -/

/-- The UDP server is on its default port, and with both options the TCP server is on the same
one. -/
def CommandLine.OnDefaultPort : CommandLine → Prop
  | none => True
  | t _ => True
  | u q => q.port = UDP_PORT
  | tu p q => p.port = UDP_PORT ∧ q.port = UDP_PORT
  | ut q p => q.port = UDP_PORT ∧ p.port = UDP_PORT

/-- The outside where the sockets can be opened. -/
def LaunchEnv.quiet : LaunchEnv :=
  let socket : SocketEnv := ⟨some 3, true, true, fun _ => true, true⟩
  ⟨socket, socket, true⟩

lemma createTcpServer_eq_some {env : SocketEnv} {port : UInt16} {server : NetServer}
    (h : createTcpServer env port = some server) :
    server.port = port ∧ server.sin6Port = htons port := by
  obtain ⟨sfd, -, h⟩ := Option.bind_eq_some_iff.mp h
  obtain ⟨-, h⟩ := Option.ite_none_right_eq_some.mp h
  cases h
  exact ⟨rfl, rfl⟩

lemma createUdpServer_eq_some {env : SocketEnv} {port : UInt16} {server : NetServer}
    (h : createUdpServer env port = some server) :
    server.port = port ∧ server.sin6Port = htons port := by
  obtain ⟨sfd, -, h⟩ := Option.bind_eq_some_iff.mp h
  obtain ⟨-, h⟩ := Option.ite_none_right_eq_some.mp h
  cases h
  exact ⟨rfl, rfl⟩

/-- The servers that are launched are bound to the ports that `parse` leaves. -/
lemma launchServer_eq_some {env : LaunchEnv} {name : List UInt8} {c : CommandLine}
    {launched : Launched} (h : launchServer env (name :: c.args) = some launched) :
    launched.tcpServer.sin6Port = htons c.parsed.1 ∧
      launched.udpServer.sin6Port = htons c.parsed.2 ∧ launched.udpServer.port = c.parsed.2 ∧
      launched.tcp.data = dataInit := by
  rw [launchServer, c.parse_eq, Option.bind_eq_bind, Option.bind_some] at h
  obtain ⟨tcpServer, htcp, h⟩ := Option.bind_eq_some_iff.mp h
  obtain ⟨udpServer, hudp, h⟩ := Option.bind_eq_some_iff.mp h
  obtain ⟨-, h⟩ := Option.ite_none_right_eq_some.mp h
  cases h
  exact ⟨(createTcpServer_eq_some htcp).2, (createUdpServer_eq_some hudp).2,
    (createUdpServer_eq_some hudp).1, rfl⟩

lemma htons_inj {x y : UInt16} : htons x = htons y ↔ x = y :=
  ⟨fun h => by rw [← ntohs_htons x, h, ntohs_htons], congrArg htons⟩

/-- The property, by the ports that `parse` leaves. -/
lemma listensAsTold_iff_parsed {name : List UInt8} {c : CommandLine} :
    ListensAsTold name c ↔ c.parsed = (c.tcpPort, c.udpPort) ∧ c.parsed.2 = UDP_PORT := by
  constructor
  · intro h
    have hlaunch : launchServer .quiet (name :: c.args) = some ⟨⟨c.parsed.1, 3, htons c.parsed.1⟩,
        ⟨c.parsed.2, 3, htons c.parsed.2⟩, .tcpServerInit 3⟩ := by
      rw [launchServer, c.parse_eq]
      rfl
    obtain ⟨htcp, hudp, hannounces⟩ := h _ _ hlaunch
    exact ⟨Prod.ext (htons_inj.mp htcp) (htons_inj.mp hudp),
      (eq_udpPort_of_announces hannounces).symm⟩
  · rintro ⟨hparsed, hport⟩ env launched hlaunch
    obtain ⟨htcp, hudp, hbound, hdata⟩ := launchServer_eq_some hlaunch
    rw [hbound, hport, hdata]
    rw [hparsed] at htcp hudp
    exact ⟨htcp, hudp, announces_udpPort dataInit⟩

/-- **The ports.**  The server listens where it is told and announces where it listens exactly when
the UDP server is given its default port or none, and with both options the TCP server is given the
same port. -/
theorem listensAsTold_iff (name : List UInt8) (c : CommandLine) :
    ListensAsTold name c ↔ c.OnDefaultPort := by
  rw [listensAsTold_iff_parsed]
  cases c with
  | none => exact ⟨fun _ => trivial, fun _ => ⟨rfl, rfl⟩⟩
  | t p => exact ⟨fun _ => trivial, fun _ => ⟨rfl, rfl⟩⟩
  | u q => exact ⟨fun h => h.2, fun h => ⟨rfl, h⟩⟩
  | tu p q =>
      constructor
      · rintro ⟨hparsed, hport⟩
        have hpq : p.port = q.port := (Prod.mk.inj hparsed).2
        exact ⟨hport, hpq.symm.trans hport⟩
      · rintro ⟨hp, hq⟩
        exact ⟨Prod.ext rfl (hp.trans hq.symm), hp⟩
  | ut q p =>
      constructor
      · rintro ⟨hparsed, hport⟩
        have hqp : q.port = p.port := (Prod.mk.inj hparsed).1
        exact ⟨hport, hqp.symm.trans hport⟩
      · rintro ⟨hq, hp⟩
        exact ⟨Prod.ext (hq.trans hp.symm) rfl, hq⟩

/-- `-t 7000 -u 8000`: the UDP server is started on port 7000. -/
theorem not_listensAsTold : ¬ListensAsTold [115]
    (.tu (.ofPort 7000 (by decide) (by decide)) (.ofPort 8000 (by decide) (by decide))) := by
  intro h
  have hparsed := (listensAsTold_iff_parsed.mp h).1
  exact absurd hparsed (by decide)

end Megaphone
