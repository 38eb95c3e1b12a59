import Megaphone.Server.Failures
import Megaphone.Server.Transfers
import Megaphone.Network.FileTransfer

/-!
The TCP server (`tcp_server.c`): its connections, the rounds of `handle_ready_fds`, and the loop.

* `TcpServer`, `SocketEvent`: the state, and what is done on the sockets.
* `ConnEnv`, `RoundEnv`, `Round`: what the outside decides while a connection is handled, in a
  round and in an iteration of the loop.
* `handleFileDowload`, `serverCallback`, `handleTcpConnection`: one connection.
* `addNewConnections`, `acceptNewConnections`, `handleReadyFds`: one round.
* `tcpServerInit`, `tcpServerLoop`: the server.
-/

namespace Megaphone

open Memory Framing

/-! ### The state -/

/-- A descriptor that `accept` or `socket` returns: an `int` that is not negative. -/
abbrev Descriptor := Fin (2 ^ 31)

instance Descriptor.neZero : NeZero (2 ^ 31) := ⟨by decide⟩

/-- `struct pollfd` for `POLLIN`, which `revents` is whether it is set. -/
structure PollFd where
  fd : ℤ
  revents : Bool

instance : CZero PollFd := ⟨⟨0, false⟩⟩

/-- `sin6_addr`. -/
abbrev In6Addr := Vector UInt8 16

/-- `ConnectionInfos`; of the address only `sin6_addr` is used. -/
structure ConnectionInfos where
  addr : In6Addr
  rbRq : BytesRQ

instance : CZero ConnectionInfos := ⟨⟨.replicate 16 0, .zero⟩⟩

/-- What is done on the sockets: an answer on a connection, a datagram to an address and a port, and
the end of a connection. -/
inductive SocketEvent
  | send (fd : ℤ) (messages : List (List UInt8))
  | sendto (addr : In6Addr) (port : UInt16) (datagram : List UInt8)
  | close (fd : ℤ)

/-- The data of the server, the variables of `tcp_server.c`, and what has been done on the
sockets. -/
structure TcpServer where
  data : Server
  sfd : Descriptor
  fds : FullArray PollFd
  connectionInfos : CArray ConnectionInfos
  events : List SocketEvent

/-- What the other threads do to the data meanwhile: anything that keeps the table of the
transfers. -/
structure Others where
  act : Server → Server
  tableInv : ∀ s, s.TableInv → (act s).TableInv

/-- What the outside decides while a file is sent.

* `file`: the contents of the file at a path, `none` when `open` or `fstat` fails;
* `mmap`: whether what is at a path can be mapped when it is not empty (a directory cannot);
* `socket`: whether a socket can be opened;
* `sendto`: whether call number `i` of `sendto` succeeds. -/
structure DownloadEnv where
  file : List UInt8 → Option (List UInt8)
  mmap : List UInt8 → Bool
  socket : Bool
  sendto : ℕ → Bool

/-- What the outside decides while a connection is handled: what the client sends, what the other
threads have done before, and whether call number `i` of `send` succeeds. -/
structure ConnEnv where
  σ : Type
  sock : Socket σ
  s : σ
  others : Others
  env : Env
  send : ℕ → Bool
  download : DownloadEnv

/-- A conversion to `size_t`. -/
def sizeT (fd : ℤ) : ℕ := (fd % 2 ^ 64).toNat

/-- The member `cl` of the union. -/
def ClientRQ.cl? : ClientRQ → Option ClientRQCl
  | .rg _ => none
  | .cl _ _ rq => some rq

/-! ### Sending a file -/

namespace Server

/-- `get_tranfer_file_path`, and what is there. -/
def getTranferFilePath (s : Server) (id : UInt16) : Option (ℕ → UInt8) := do
  let i ← s.transferFiles.get id.toNat
  let infos ← s.transferFiles.at? i
  some infos.filePath

/-- All that `ftransferrqs_new` reads of a file of `fSize` bytes is on the pages of its mapping. -/
def ReadsMapped (fSize : ℕ) : Prop :=
  ∀ r ∈ ftransferrqsReads fSize, r.1 + r.2 ≤ (fSize + 4095) / 4096 * 4096

instance (fSize : ℕ) : Decidable (ReadsMapped fSize) :=
  inferInstanceAs (Decidable (∀ r ∈ ftransferrqsReads fSize, _))

/-- `create_ftransfer_requests`: the blocks and the size of the file, or `none` for the return code
1.  A failing `mmap` is not noticed, as it returns `MAP_FAILED` and not `NULL`; reading there is
outside of the memory, unless there is nothing to read. -/
def createFtransferRequests (env : DownloadEnv) (s : Server) (id : UInt16) :
    Option (Option (List FTransferRQ × ℕ)) := do
  let filePath ← s.getTranferFilePath id
  let path := cString filePath MAX_DATALEN
  match env.file path with
  | none => some none
  | some file =>
      let fSize := file.length
      let header := mkHeader DOWNLOAD id
      if (fSize = 0 ∨ env.mmap path = true) ∧ ReadsMapped fSize then
        some (some (ftransferrqsNew header (ofList file 0) fSize, fSize))
      else none

/-- `handle_file_dowload`: the return code, the data and the datagrams that are sent. -/
def handleFileDowload (env : DownloadEnv) (s : Server) (id port : UInt16) (addr : In6Addr) :
    Option (UInt8 × Server × List SocketEvent) := do
  match ← createFtransferRequests env s id with
  | none => some (1, s, [])
  | some (aFtrq, fileSize) =>
      if env.socket then
        let (err, datagrams) := sendAll env.sendto
          (sendFtransferRequests htonServerrqft aFtrq fileSize)
        let s ← s.idClearTransfer id
        some (if err ≠ 0 then 1 else 0, s, datagrams.map (.sendto addr port))
      else some (0, s, [])

end Server

namespace TcpServer

/-! ### One connection -/

/-- `server_callback`. -/
def serverCallback (env : DownloadEnv) (t : TcpServer) (sfd : ℤ) (clientrq : ClientRQ)
    (serverrq : ServerRQ) : Option (UInt8 × TcpServer) :=
  if serverrq.type = DOWNLOAD then
    match t.connectionInfos.get (sizeT sfd) with
    | none => some (1, t)
    | some i => do
        let infos ← t.connectionInfos.at? i
        let cl ← serverrq.body.cl?
        let rq ← clientrq.cl?
        let (err, data, events) ← t.data.handleFileDowload env (getId cl.header) rq.count infos.addr
        some (if err ≠ 0 then 1 else 0, { t with data := data, events := t.events ++ events })
  else some (0, t)

/-- `close`. -/
def close (t : TcpServer) (fd : ℤ) : TcpServer := { t with events := t.events ++ [.close fd] }

/-- `handle_tcp_connection` from `handle_tcp_request` on: the return code, `close_connection` and
the state. -/
def answerRequest (env : ConnEnv) (t : TcpServer) (clientSfd : ℤ) (clientrq : ClientRQ) :
    Option (UInt8 × Bool × TcpServer) := do
  let (data, ans) ← (env.others.act t.data).handleTcpConnection env.env clientrq
  let t := { t with data := data }
  if ans.code ≠ 0 then some (1, false, t.close clientSfd)
  else do
    let (err, messages) ← ans.send env.send
    let t := { t with events := t.events ++ [SocketEvent.send clientSfd messages] }
    if err ≠ 0 then some (1, false, t.close clientSfd)
    else do
      let serverrq ← ans.entry 0
      let r ← t.serverCallback env.download clientSfd clientrq serverrq
      if r.1 ≠ (0 : UInt8) then some (1, false, r.2) else some (0, true, r.2)

/-- `handle_tcp_connection`. -/
def handleTcpConnection (env : ConnEnv) (t : TcpServer) (clientSfd : ℤ) :
    Option (UInt8 × Bool × TcpServer) :=
  match t.connectionInfos.get (sizeT clientSfd) with
  | none => some (1, false, t)
  | some i => do
      let infos ← t.connectionInfos.at? i
      let c ← recvClientRequest env.sock env.s infos.rbRq
      let t := { t with
        connectionInfos := t.connectionInfos.write i { infos with rbRq := c.rbRq } }
      if c.code ≠ 0 then some (1, false, t.close clientSfd)
      else do
        let clientrq ← c.clientrq
        t.answerRequest env clientSfd clientrq

/-! ### One round -/

/-- `add_new_connections`. -/
def addNewConnections (t : TcpServer) (sfd : Descriptor) (addr : In6Addr) : Option TcpServer := do
  let connectionInfos ← t.connectionInfos.set sfd.val ⟨addr, .zero⟩
  let t := { t with connectionInfos := connectionInfos }
  let pfd : PollFd := ⟨sfd.val, false⟩
  match t.fds.toList.findIdx? fun e => e.fd == -1 with
  | some i => return { t with fds := t.fds.write i pfd }
  | none => return { t with fds := t.fds.append pfd }

/-- What the outside decides in a round: the connections that `accept` returns, whether it fails
behind them with another error than `EWOULDBLOCK`, and what happens on the connection in an
entry. -/
structure RoundEnv where
  accepted : List (Descriptor × In6Addr)
  acceptFails : Bool
  conn : ℕ → ConnEnv

/-- `accept_new_connections`. -/
def acceptNewConnections (env : RoundEnv) (t : TcpServer) : Option (UInt8 × TcpServer) :=
  (env.accepted.foldlM (fun t a => addNewConnections t a.1 a.2) t).map fun t =>
    (if env.acceptFails then 1 else 0, t)

/-- The end of the body of the loop of `handle_ready_fds` for the entry `i`; `fds` is the allocation
that its pointer was taken to. -/
def closeConnection (fds : ℕ) (t : TcpServer) (i : ℕ) (clCon : Bool) : Option TcpServer := do
  let pfd ← t.fds.toCArray.deref ⟨fds, i⟩
  match t.connectionInfos.get (sizeT pfd.fd) with
  | none => some t
  | some j =>
      if clCon then
        some { t.close pfd.fd with
          fds := t.fds.write i { pfd with fd := -1 }
          connectionInfos := t.connectionInfos.write j CZero.zero }
      else some t

/-- The body of the loop of `handle_ready_fds` for the entry `i`. -/
def handleReadyFd (env : RoundEnv) (fds : ℕ) (t : TcpServer) (i : ℕ) :
    Option (UInt8 × TcpServer) := do
  let pfd ← t.fds.toCArray.deref ⟨fds, i⟩
  if pfd.revents = false then some (0, t)
  else do
    let isTcpserver := pfd.fd = t.sfd.val
    let r ← if isTcpserver then (t.acceptNewConnections env).map fun p => (p.1, false, p.2)
      else t.handleTcpConnection (env.conn i) pfd.fd
    if r.1 ≠ (0 : UInt8) then some (1, r.2.2)
    else (closeConnection fds r.2.2 i r.2.1).map fun t => (0, t)

/-- The loop of `handle_ready_fds` over `n` entries from number `i` on. -/
def handleReadyFdsFrom (env : RoundEnv) (fds : ℕ) : ℕ → ℕ → TcpServer → Option (UInt8 × TcpServer)
  | 0, _, t => some (0, t)
  | n + 1, i, t => do
      let r ← t.handleReadyFd env fds i
      if r.1 ≠ (0 : UInt8) then some (1, r.2) else handleReadyFdsFrom env fds n (i + 1) r.2

/-- `handle_ready_fds`. -/
def handleReadyFds (env : RoundEnv) (t : TcpServer) : Option (UInt8 × TcpServer) :=
  handleReadyFdsFrom env t.fds.toCArray.block t.fds.length 0 t

/-! ### The loop -/

/-- The results of `poll`: an error, nothing within the timeout, or the entries on which there is
something to read. -/
inductive PollResult
  | error
  | timeout
  | ready (revents : ℕ → Bool)

/-- What the outside decides in an iteration of the loop. -/
structure Round where
  now : ℕ
  poll : PollResult
  env : RoundEnv

/-- What `poll` writes: an entry with a negative descriptor is left out. -/
def pollFds (t : TcpServer) (revents : ℕ → Bool) : TcpServer :=
  { t with fds := t.fds.mapIdx fun i pfd => { pfd with revents := revents i && 0 ≤ pfd.fd } }

/-- `check_transfers_timeout` at the time `now`, with the sockets that it closes. -/
def checkTransfersTimeout (now : ℕ) (t : TcpServer) : TcpServer :=
  { t with
    data := t.data.checkTransfersTimeout now
    events := t.events ++ (t.data.timedOut now).map fun infos => .close infos.sfd }

/-- An iteration of `tcp_server_loop`: `active` behind it, and the state. -/
def tcpServerRound (r : Round) (t : TcpServer) : Option (Bool × TcpServer) :=
  let t := t.checkTransfersTimeout r.now
  match r.poll with
  | .error => some (false, t)
  | .timeout => some (true, t.pollFds fun _ => false)
  | .ready revents =>
      ((t.pollFds revents).handleReadyFds r.env).map fun p => (p.1 == 0, p.2)

/-- `tcp_server_loop`, as far as the iterations of a list. -/
def tcpServerLoop : List Round → TcpServer → Option (Bool × TcpServer)
  | [], t => some (true, t)
  | r :: rs, t => do
      let (active, t) ← t.tcpServerRound r
      if active = true then tcpServerLoop rs t else some (false, t)

/-- `tcp_server_init`, behind `data_init`. -/
def tcpServerInit (sfd : Descriptor) : TcpServer :=
  { data := dataInit
    sfd := sfd
    fds := (FullArray.arrayNew PollFd ID_MAX).append ⟨sfd.val, false⟩
    connectionInfos := .arrayNew ConnectionInfos ID_MAX
    events := [] }

end TcpServer

end Megaphone
