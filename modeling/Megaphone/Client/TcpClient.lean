import Megaphone.Client.Display
import Megaphone.Client.Connection
import Megaphone.Client.Notifications
import Megaphone.Client.RequestManager
import Megaphone.Client.Run
import Megaphone.Server.TcpServer
import Megaphone.User.Accounts
import Megaphone.User.Pseudos

/-!
The thread of the user (`tcp_client.c`): it signs up or logs in, and acts as this user.

* `TcpClient`: its state, with the accounts, and where it is.
* `handleFileUpload`, `clientCallback`, `handleClientConnection`, `selectAccount`, `authenticate`,
  `clientAction`: the functions, under their own names; of the two loops, one pass each.
* `step`: the passes of `tcp_client_loop`, with what the other threads and programs do between them.
* `authenticates`, `lastAuthenticated`: the identifier that a pass authenticates, and the last one.
* `acts_as_authenticated_iff`: when the user that the client acts as is the one authenticated last.
-/

namespace Megaphone

open Memory

/-! ### The state -/

/-- What the outside decides while a file is sent.

* `file`: the contents of the file at a path, `none` when `open` or `fstat` fails;
* `mmap`: whether what is at a path can be mapped when it is not empty (a directory cannot);
* `connects`: whether `connect_client` succeeds;
* `sendto`: whether call number `i` of `sendto` succeeds. -/
structure UploadEnv where
  file : List UInt8 → Option (List UInt8)
  mmap : List UInt8 → Bool
  connects : Bool
  sendto : ℕ → Bool

/-- What the outside decides during an exchange.

* `request`: what it decides while the request is made;
* `connects`, `sends`: whether `connect_client` and `send` succeed;
* `exchange`: the connection, and what is on the stack;
* `upload`: what it decides while a file is sent;
* `multSock`: the socket of a subscription, `none` when `socket` or `SO_REUSEADDR` fails;
* `junkMult`: what is in the variable `mult` of `subscription_add`. -/
structure ExchangeEnv where
  request : RequestEnv
  connects : Bool
  sends : Bool
  exchange : Exchange
  upload : UploadEnv
  multSock : Option ℕ
  junkMult : Mult

/-- What an exchange does outside of the state: datagrams are sent to a port, a subscription is
added, and the thread of the downloads is signalled. -/
inductive ClientEvent
  | sendto (port : UInt16) (datagrams : List (List UInt8))
  | subscriptionAdd (call : SubscriptionCall)
  | signalTransfer

/-- Where the thread of the user is: before a pass of `authenticate`, before one of `client_action`,
behind `tcp_client_loop`, or behind `exit`. -/
inductive TcpLoc
  | authenticate
  | clientAction
  | returned
  | exited
  deriving DecidableEq

/-- The accounts of this machine: their identifiers have 11 bits. -/
def Accounts.IdsLt (a : Accounts) : Prop := ∀ u ∈ a.toList, u.id.toNat < 2048

/-- The thread of the user: the client, the accounts, the carry-over buffer of
`recv_server_request`, the lines that are still to be typed, and where it is. -/
structure TcpClient where
  client : Client
  accounts : Accounts
  ids_lt : accounts.IdsLt
  rbRq : BytesRQ
  typed : List Typed
  loc : TcpLoc

/-- What a pass shows: the number of the action, the account that is chosen, the request that is
sent, the answer to it, and the events. -/
structure PassOut where
  action : ℤ
  account : Option UInt16 := none
  request : Option ClientRQ := none
  reply : Option ServerRQ := none
  events : List ClientEvent := []

/-- `clientrq->rg.pseudo`, whatever the type of the request is: the ten bytes behind its header. -/
def ClientRQ.rgPseudo : ClientRQ → Pseudo
  | .rg rq => rq.pseudo
  | .cl _ _ rq => pseudoOfBytes
      (u16Bytes rq.feedNumber ++ u16Bytes rq.count ++ [rq.datalen] ++ read rq.data 0 5)

/-! ### The functions -/

namespace Client

/-- `set_user_id`. -/
def setUserId (c : Client) (id : UInt16) (h : id.toNat < 2048) : Client :=
  { c with userId := id, userId_lt := h }

/-- `create_ftransfer_requests`: the blocks and the size of the file, or `none` for the return code
1.  As at the server, a failing `mmap` is not noticed. -/
def createFtransferRequests (env : UploadEnv) (c : Client) (id : UInt16) :
    Option (Option (List FTransferRQ × ℕ)) :=
  let path := cString c.transferFile.filePath MAX_DATALEN
  match env.file path with
  | none => some none
  | some file =>
      let fSize := file.length
      let header := mkHeader UPLOAD id
      if (fSize = 0 ∨ env.mmap path = true) ∧ Server.ReadsMapped fSize then
        some (some (ftransferrqsNew header (ofList file 0) fSize, fSize))
      else none

/-- `handle_file_upload`: the return code, the state and the datagrams that are sent. -/
def handleFileUpload (env : UploadEnv) (c : Client) :
    Option (UInt8 × Client × List (List UInt8)) := do
  match ← c.createFtransferRequests env c.userId with
  | none => some (1, c, [])
  | some (aFtrq, fileSize) =>
      if env.connects then
        let (err, datagrams) := sendAll env.sendto
          (sendFtransferRequests htonClientrqft aFtrq fileSize)
        some (if err ≠ 0 then 1 else 0, c.clearCurrentTransfer, datagrams)
      else some (1, c, [])

end Client

namespace Accounts

variable {a : Accounts}

/-- `add_account` keeps the bound of the identifiers. -/
lemma IdsLt.addAccount (h : a.IdsLt) {id : UInt16} (hid : id.toNat < 2048) (pseudo : Pseudo) :
    (a.addAccount id pseudo).2.IdsLt := by
  rw [Accounts.addAccount]
  split
  · exact h
  · intro u hu
    obtain hu | rfl := List.mem_or_eq_of_mem_set hu
    · exact h u hu
    · exact hid

lemma exists_of_idExistLoop {id : UInt16} {us : List User} {k : ℕ}
    (h : idExistLoop id us k ≠ 0) : ∃ u ∈ us, u.id = id := by
  induction us generalizing k with
  | nil =>
      cases k with
      | zero => exact absurd rfl h
      | succ k => exact absurd rfl h
  | cons u us ih =>
      cases k with
      | zero => exact absurd rfl h
      | succ k =>
          rw [idExistLoop] at h
          split at h
          next heq => exact ⟨u, List.mem_cons_self, heq⟩
          next =>
            obtain ⟨v, hv, hid⟩ := ih h
            exact ⟨v, List.mem_cons_of_mem u hv, hid⟩

/-- An identifier that exists has 11 bits. -/
lemma IdsLt.lt_of_idExist (h : a.IdsLt) {id : UInt16} (hid : a.idExist id ≠ 0) :
    id.toNat < 2048 := by
  obtain ⟨u, hu, rfl⟩ := exists_of_idExistLoop hid
  exact h u hu

end Accounts

/-- A number from `lo` to `hi`, which is asked for until it is typed. -/
def readAction (lo hi : ℤ) : Reader Typed ℤ :=
  readint.retry fun action => if action < lo ∨ action > hi then none else some action

lemma run_readAction (lo hi : ℤ) (ls : List Typed) :
    (readAction lo hi).run ls = Reader.firstAccepted (fun t =>
      ((Option.guard (fun t => t.line ≠ [] ∧ t.line.length < INPUT_SIZE) t).bind lineInt).bind
        fun action => if action < lo ∨ action > hi then none else some action) ls := by
  rw [readAction, readint, readstring, Reader.retry_first, Reader.retry_first]
  rfl

namespace TcpClient

/-- `client_callback`: the return code, the state and the events. -/
def clientCallback (env : ExchangeEnv) (c : TcpClient) (clientrq : ClientRQ)
    (serverrq : ServerRQ) : Option (UInt8 × TcpClient × List ClientEvent) :=
  if serverrq.type = REGISTRATION then do
    let cl ← serverrq.body.cl?
    let id := getId cl.header
    let hid := toNat_getId_lt cl.header
    let added := c.accounts.addAccount id clientrq.rgPseudo
    let c := { c with client := c.client.setUserId id hid
                      accounts := added.2
                      ids_lt := c.ids_lt.addAccount hid _ }
    some (if added.1 ≠ 0 then 1 else 0, c, [])
  else if serverrq.type = UPLOAD then do
    let cl ← serverrq.body.cl?
    let (err, client, datagrams) ← c.client.handleFileUpload env.upload
    some (if err ≠ 0 then 1 else 0, { c with client := client }, [.sendto cl.count datagrams])
  else if serverrq.type = SUBSCRIBE then
    match serverrq.body, env.multSock with
    | .sb sb, some multSock =>
        some (0, c, [.subscriptionAdd
          ⟨sb.addr, ntohs sb.count, multSock, sb.feedNumber, env.junkMult⟩])
    | .sb _, none => some (1, c, [])
    | _, _ => none
  else if serverrq.type = DOWNLOAD then some (0, c, [.signalTransfer])
  else some (0, c, [])

/-- `handle_client_connection`: the return code, the state and what is shown of the action. -/
def handleClientConnection (env : ExchangeEnv) (c : TcpClient) (type : UInt8) (action : ℤ) :
    Option (UInt8 × TcpClient × PassOut) := do
  let ((clientrq, client), typed) ← c.client.createRequest env.request type c.client.userId c.typed
  let c := { c with client := client, typed := typed }
  if env.connects then
    let (err, _) := sendClientRequest env.sends clientrq
    if err ≠ 0 then some (1, c, { action := action })
    else do
      let r ← env.exchange.recv c.rbRq
      let c := { c with rbRq := r.rbRq }
      if r.code ≠ 0 then some (1, c, { action := action, request := clientrq })
      else do
        let serverrq ← r.serverrq
        let (err, c, events) ← c.clientCallback env clientrq serverrq
        some (if err ≠ 0 then 1 else 0, c,
          { action := action, request := clientrq, reply := serverrq, events := events })
  else some (1, c, { action := action })

/-- `select_account`, on the number that has been typed. -/
def selectAccount (c : TcpClient) (account : UInt16) : UInt16 :=
  if c.accounts.idExist account = 0 then 0 else account

lemma selectAccount_lt (c : TcpClient) (account : UInt16) :
    (c.selectAccount account).toNat < 2048 := by
  rw [selectAccount]
  split
  · decide
  next hne => exact c.ids_lt.lt_of_idExist hne

/-- What the loop of `tcp_client_loop` does behind `authenticate`. -/
def goesOn (c : TcpClient) (err : UInt8) : TcpClient :=
  { c with loc := if err ≠ 0 then .returned
                  else if c.client.userId = 0 then .authenticate
                  else .clientAction }

/-- `authenticate`, with what the loop does behind it; no line is left at the end of the input. -/
def authenticate (env : ExchangeEnv) (c : TcpClient) : Option (TcpClient × PassOut) := do
  let (action, typed) ← (readAction 0 3).run c.typed
  let c := { c with typed := typed }
  if action = 1 then do
    let (err, c, out) ← c.handleClientConnection env REGISTRATION action
    some (c.goesOn err, out)
  else if action = 2 then
    if c.accounts.getNbAccounts = 0 then
      some ({ c with client := c.client.setUserId 0 (by decide) }.goesOn 0, { action := action })
    else do
      let (number, typed) ← readint.run c.typed
      let account := UInt16.ofInt number
      let client := c.client.setUserId (c.selectAccount account) (c.selectAccount_lt account)
      some ({ c with typed := typed, client := client }.goesOn 0,
        { action := action, account := account })
  else some ({ c with loc := .exited }, { action := action })

/-- A pass of the loop of `client_action`. -/
def clientAction (env : ExchangeEnv) (c : TcpClient) : Option (TcpClient × PassOut) := do
  let (action, typed) ← (readAction 1 8).run c.typed
  let c := { c with typed := typed }
  if action = 7 then some ({ c with loc := .authenticate }, { action := action })
  else if action = 8 then some ({ c with loc := .exited }, { action := action })
  else if action = 6 then some (c, { action := action })
  else do
    let (err, c, out) ← c.handleClientConnection env (UInt8.ofInt (action + 1)) action
    some ({ c with loc := if err ≠ 0 then .returned else .clientAction }, out)

/-! ### Passes and what is between them -/

/-- What the other threads and programs do between two passes: the identifier is not theirs to set,
and the accounts that they add have identifiers of 11 bits. -/
structure Meanwhile where
  client : Client → Client
  userId_eq : ∀ c, (client c).userId = c.userId
  accounts : Accounts → Accounts
  ids_lt : ∀ a, a.IdsLt → (accounts a).IdsLt

/-- What happens to the thread of the user. -/
inductive ClientAct
  | pass (env : ExchangeEnv)
  | meanwhile (others : Meanwhile)

/-- The machine: the passes of `tcp_client_loop`, which show something, and what is between them. -/
def step (c : TcpClient) : ClientAct → Option (TcpClient × Option PassOut)
  | .pass env =>
      match c.loc with
      | .authenticate => (c.authenticate env).map fun p => (p.1, some p.2)
      | .clientAction => (c.clientAction env).map fun p => (p.1, some p.2)
      | .returned => none
      | .exited => none
  | .meanwhile others =>
      some ({ c with client := others.client c.client
                     accounts := others.accounts c.accounts
                     ids_lt := others.ids_lt _ c.ids_lt }, none)

/-- One step. -/
abbrev ClientTransition := Machine.Transition TcpClient ClientAct (Option PassOut)

end TcpClient

/-! ### Requests -/

/-- The header of a request. -/
def ClientRQ.header : ClientRQ → UInt16
  | .rg rq => rq.header
  | .cl _ _ rq => rq.header

/-- A request of the type `type` of the user `id`: a registration is of no user. -/
structure ClientRQ.IsOf (rq : ClientRQ) (type : UInt8) (id : UInt16) : Prop where
  type_eq : rq.type = type
  header_eq : rq.header = mkHeader type (if type = REGISTRATION then 0 else id)

namespace Client

variable {env : RequestEnv} {c c' : Client} {type : UInt8} {id : UInt16} {ls rest : List Typed}

lemma userId_transferNew (now : ℕ) (c : Client) (fileName : ℕ → UInt8) :
    (c.transferNew now fileName).userId = c.userId := by
  rw [transferNew]
  split <;> rfl

lemma userId_createTransferAddress (env : RequestEnv) (c : Client) :
    (c.createTransferAddress env).2.userId = c.userId := by
  rw [createTransferAddress]
  split
  · rfl
  · simp only
    split <;> rfl

/-- **`create_request`** makes a request of its type and identifier, and does not set the latter. -/
lemma createRequest_isOf {rq : ClientRQ}
    (h : c.createRequest env type id ls = some ((rq, c'), rest)) :
    rq.IsOf type id ∧ c'.userId = c.userId := by
  rw [createRequest] at h
  split at h
  next htype =>
    subst htype
    obtain ⟨p, -, h⟩ := Option.bind_eq_some_iff.mp h
    cases h
    exact ⟨⟨rfl, rfl⟩, rfl⟩
  next htype =>
    obtain ⟨⟨⟨cl, c''⟩, rest'⟩, hcl, h⟩ := Option.map_eq_some_iff.mp h
    cases h
    split at hcl
    next hdl =>
      subst hdl
      obtain ⟨p, -, hcl⟩ := Option.bind_eq_some_iff.mp hcl
      obtain ⟨q, -, hcl⟩ := Option.bind_eq_some_iff.mp hcl
      cases hcl
      exact ⟨⟨rfl, rfl⟩, (userId_createTransferAddress _ _).trans (userId_transferNew _ _ _)⟩
    next =>
      obtain ⟨p, -, hcl⟩ := Option.bind_eq_some_iff.mp hcl
      obtain ⟨q, -, hcl⟩ := Option.bind_eq_some_iff.mp hcl
      obtain ⟨r, -, hcl⟩ := Option.bind_eq_some_iff.mp hcl
      simp only at hcl
      split at hcl
      · obtain ⟨w, -, hcl⟩ := Option.bind_eq_some_iff.mp hcl
        cases hcl
        exact ⟨⟨rfl, (by rw [if_neg htype]; rfl)⟩, userId_transferNew _ _ _⟩
      · cases hcl
        exact ⟨⟨rfl, (by rw [if_neg htype]; rfl)⟩, rfl⟩

lemma userId_handleFileUpload {env : UploadEnv} {err : UInt8} {datagrams : List (List UInt8)}
    (h : c.handleFileUpload env = some (err, c', datagrams)) : c'.userId = c.userId := by
  obtain ⟨r, -, h⟩ := Option.bind_eq_some_iff.mp h
  cases r with
  | none =>
      cases h
      rfl
  | some p =>
      simp only at h
      split at h
      · cases h
        rfl
      · cases h
        rfl

end Client

namespace TcpClient

variable {env : ExchangeEnv} {c c' : TcpClient} {type : UInt8} {action : ℤ} {err : UInt8}
  {out : PassOut}

/-! ### Exchanges -/

/-- What the answer of an exchange does to the identifier `id`.

* `failed`: there is no answer;
* `answered`: the answer is not a registration;
* `registered`: the answer is a registration. -/
inductive Exchanged (id : UInt16) : UInt8 → TcpClient → PassOut → Prop
  | failed {c' : TcpClient} {out : PassOut} (hid : c'.client.userId = id)
      (hreply : out.reply = none) : Exchanged id 1 c' out
  | answered {err : UInt8} {c' : TcpClient} {out : PassOut} {e : ServerRQ}
      (hid : c'.client.userId = id) (hreply : out.reply = some e)
      (htype : e.type ≠ REGISTRATION) : Exchanged id err c' out
  | registered {err : UInt8} {c' : TcpClient} {out : PassOut} {e : ServerRQ} {cl : ServerRQCl}
      (hcl : e.body.cl? = some cl) (hid : c'.client.userId = getId cl.header)
      (hreply : out.reply = some e) (htype : e.type = REGISTRATION) : Exchanged id err c' out

/-- **The answer**: only a registration sets the identifier. -/
lemma clientCallback_cases {clientrq : ClientRQ} {e : ServerRQ} {events : List ClientEvent}
    (h : c.clientCallback env clientrq e = some (err, c', events)) :
    (e.type ≠ REGISTRATION ∧ c'.client.userId = c.client.userId) ∨
      e.type = REGISTRATION ∧ ∃ cl, e.body.cl? = some cl ∧
        c'.client.userId = getId cl.header := by
  rw [clientCallback] at h
  split at h
  next htype =>
    obtain ⟨cl, hcl, h⟩ := Option.bind_eq_some_iff.mp h
    cases h
    exact .inr ⟨htype, cl, hcl, rfl⟩
  next htype =>
    refine .inl ⟨htype, ?_⟩
    split at h
    · obtain ⟨cl, -, h⟩ := Option.bind_eq_some_iff.mp h
      obtain ⟨⟨err', client, datagrams⟩, hupload, h⟩ := Option.bind_eq_some_iff.mp h
      cases h
      exact Client.userId_handleFileUpload hupload
    · split at h
      · split at h
        · cases h
          rfl
        · cases h
          rfl
        · cases h
      · split at h
        · cases h
          rfl
        · cases h
          rfl

/-- A registration sets the identifier and adds the account. -/
lemma clientCallback_registration (env : ExchangeEnv) (c : TcpClient) (rq : ClientRQ)
    (cl : ServerRQCl) :
    c.clientCallback env rq ⟨REGISTRATION, .cl cl⟩ = some
      (if (c.accounts.addAccount (getId cl.header) rq.rgPseudo).1 ≠ 0 then 1 else 0,
        { c with client := c.client.setUserId (getId cl.header) (toNat_getId_lt cl.header)
                 accounts := (c.accounts.addAccount (getId cl.header) rq.rgPseudo).2
                 ids_lt := c.ids_lt.addAccount (toNat_getId_lt cl.header) _ }, []) :=
  if_pos rfl

/-- **An exchange**: the request is of the user that the client acts as, and the answer decides on
the identifier. -/
lemma handleClientConnection_cases
    (h : c.handleClientConnection env type action = some (err, c', out)) :
    Exchanged c.client.userId err c' out ∧ out.action = action ∧ out.account = none ∧
      ∀ rq, out.request = some rq → rq.IsOf type c.client.userId := by
  obtain ⟨⟨⟨rq, client⟩, typed⟩, hrq, h⟩ := Option.bind_eq_some_iff.mp h
  obtain ⟨hof, hid⟩ := Client.createRequest_isOf hrq
  have hrequest : ∀ rq', some rq = some rq' → rq'.IsOf type c.client.userId := by
    rintro _ ⟨⟩
    exact hof
  simp only at h
  split at h
  · split at h
    · cases h
      exact ⟨.failed hid rfl, rfl, rfl, nofun⟩
    · obtain ⟨r, -, h⟩ := Option.bind_eq_some_iff.mp h
      split at h
      · cases h
        exact ⟨.failed hid rfl, rfl, rfl, hrequest⟩
      · obtain ⟨e, -, h⟩ := Option.bind_eq_some_iff.mp h
        obtain ⟨⟨err', c'', events⟩, hcallback, h⟩ := Option.bind_eq_some_iff.mp h
        cases h
        refine ⟨?_, rfl, rfl, hrequest⟩
        obtain ⟨htype, hid'⟩ | ⟨htype, cl, hcl, hid'⟩ := clientCallback_cases hcallback
        · exact .answered (hid'.trans hid) rfl htype
        · exact .registered hcl hid' rfl htype
  · cases h
    exact ⟨.failed hid rfl, rfl, rfl, nofun⟩

/-- An exchange that nothing prevents. -/
lemma handleClientConnection_eq {clientrq : ClientRQ} {client : Client} {typed : List Typed}
    {r : ServerReceived env.exchange.σ} {e : ServerRQ} {events : List ClientEvent}
    (hrq : c.client.createRequest env.request type c.client.userId c.typed =
      some ((clientrq, client), typed))
    (hconnects : env.connects = true) (hsends : env.sends = true)
    (hrecv : env.exchange.recv c.rbRq = some r) (hcode : r.code = 0) (he : r.serverrq = some e)
    (hcallback : { c with client := client, typed := typed, rbRq := r.rbRq }.clientCallback env
      clientrq e = some (err, c', events)) :
    c.handleClientConnection env type action = some (if err ≠ 0 then 1 else 0, c',
      { action := action, request := clientrq, reply := e, events := events }) := by
  have hsent : (sendClientRequest env.sends clientrq).1 = 0 := by
    rw [hsends]
    rfl
  simp only [handleClientConnection, hrq, hconnects, hsent, hrecv, hcode, he, hcallback,
    Option.bind_eq_bind, Option.bind_some, if_true, ne_eq, not_true, if_false]

/-! ### Passes -/

/-- All that a pass can do to the identifier and to the place.

* `signUp`, `logIn`, `noAccounts`: of `authenticate`;
* `exchange`, `notif`, `logOut`: of `client_action`;
* `leave`: of both. -/
inductive Passed (c c' : TcpClient) (out : PassOut) : Prop
  | signUp {err : UInt8} (hloc : c.loc = .authenticate) (haction : out.action = 1)
      (hex : Exchanged c.client.userId err c' out)
      (hpost : c'.loc = if err ≠ 0 then .returned
        else if c'.client.userId = 0 then .authenticate else .clientAction)
  | logIn {account : UInt16} (hloc : c.loc = .authenticate) (haction : out.action = 2)
      (haccount : out.account = some account) (hreply : out.reply = none)
      (hid : c'.client.userId = c.selectAccount account)
      (hpost : c'.loc = if c'.client.userId = 0 then .authenticate else .clientAction)
  | noAccounts (hloc : c.loc = .authenticate) (hreply : out.reply = none)
      (hid : c'.client.userId = 0) (hpost : c'.loc = .authenticate)
  | exchange {err : UInt8} (hloc : c.loc = .clientAction)
      (hex : Exchanged c.client.userId err c' out)
      (hpost : c'.loc = if err ≠ 0 then .returned else .clientAction)
  | notif (hloc : c.loc = .clientAction) (hreply : out.reply = none)
      (hid : c'.client.userId = c.client.userId) (hpost : c'.loc = .clientAction)
  | logOut (hloc : c.loc = .clientAction) (haction : out.action = 7) (hreply : out.reply = none)
      (hid : c'.client.userId = c.client.userId) (hpost : c'.loc = .authenticate)
  | leave (hreply : out.reply = none) (hpost : c'.loc = .exited)

/-- A request that a pass sends: a registration in `authenticate`, and one of the types from 2 to 6
of the user that the client acts as in `client_action`. -/
inductive Sends (c : TcpClient) (rq : ClientRQ) : Prop
  | signUp (hloc : c.loc = .authenticate) (hrq : rq.IsOf REGISTRATION 0)
  | act {type : UInt8} (hloc : c.loc = .clientAction) (hlo : 2 ≤ type.toNat)
      (hhi : type.toNat ≤ 6) (hrq : rq.IsOf type c.client.userId)

/-- The place does not matter to what an exchange does. -/
lemma Exchanged.withLoc {id : UInt16} (h : Exchanged id err c' out) (loc : TcpLoc) :
    Exchanged id err { c' with loc := loc } out := by
  cases h with
  | failed hid hreply => exact .failed hid hreply
  | answered hid hreply htype => exact .answered hid hreply htype
  | registered hcl hid hreply htype => exact .registered hcl hid hreply htype

lemma bounds_of_readAction {lo hi : ℤ} {ls rest : List Typed}
    (h : (readAction lo hi).run ls = some (action, rest)) : lo ≤ action ∧ action ≤ hi := by
  obtain ⟨number, hnumber⟩ := Reader.exists_of_retry h
  split at hnumber
  · cases hnumber
  next hbounds =>
    cases hnumber
    omega

/-- **A pass of `authenticate`.** -/
lemma authenticate_cases (hloc : c.loc = .authenticate)
    (h : c.authenticate env = some (c', out)) :
    c.Passed c' out ∧ ∀ rq, out.request = some rq → c.Sends rq := by
  obtain ⟨⟨action, typed⟩, -, h⟩ := Option.bind_eq_some_iff.mp h
  simp only at h
  split at h
  next haction =>
    obtain ⟨⟨err, c₁, out₁⟩, hex, h⟩ := Option.bind_eq_some_iff.mp h
    cases h
    obtain ⟨hex, hout, -, hrequest⟩ := handleClientConnection_cases hex
    exact ⟨.signUp hloc (hout.trans haction) (hex.withLoc _) rfl,
      fun rq hrq => .signUp hloc ⟨(hrequest rq hrq).type_eq, (hrequest rq hrq).header_eq⟩⟩
  · split at h
    next haction =>
      split at h
      · cases h
        exact ⟨.noAccounts hloc rfl rfl rfl, nofun⟩
      · obtain ⟨⟨number, typed'⟩, -, h⟩ := Option.bind_eq_some_iff.mp h
        cases h
        exact ⟨.logIn hloc haction rfl rfl rfl rfl, nofun⟩
    · cases h
      exact ⟨.leave rfl rfl, nofun⟩

/-- **A pass of `client_action`.** -/
lemma clientAction_cases (hloc : c.loc = .clientAction)
    (h : c.clientAction env = some (c', out)) :
    c.Passed c' out ∧ ∀ rq, out.request = some rq → c.Sends rq := by
  obtain ⟨⟨action, typed⟩, hread, h⟩ := Option.bind_eq_some_iff.mp h
  obtain ⟨hlo, hhi⟩ := bounds_of_readAction hread
  simp only at h
  split at h
  next haction =>
    cases h
    exact ⟨.logOut hloc haction rfl rfl rfl, nofun⟩
  · split at h
    · cases h
      exact ⟨.leave rfl rfl, nofun⟩
    · split at h
      · cases h
        exact ⟨.notif hloc rfl rfl hloc, nofun⟩
      · obtain ⟨⟨err, c₁, out₁⟩, hex, h⟩ := Option.bind_eq_some_iff.mp h
        cases h
        obtain ⟨hex, -, -, hrequest⟩ := handleClientConnection_cases hex
        have htype : (UInt8.ofInt (action + 1)).toNat = (action + 1).toNat := by
          rw [UInt8.ofInt, UInt8.toNat_ofNat']
          omega
        exact ⟨.exchange hloc (hex.withLoc _) rfl,
          fun rq hrq => .act hloc (by omega) (by omega) (hrequest rq hrq)⟩

/-! ### Histories -/

/-- The identifier that a pass of `authenticate` authenticates: the one that a registration is
answered with, or the account that has been chosen. -/
def authenticates (t : ClientTransition) : Option UInt16 :=
  t.out.bind fun out =>
    if out.action = 1 then
      out.reply.bind fun e =>
        if e.type = REGISTRATION then e.body.cl?.map fun cl => getId cl.header else none
    else out.account.filter fun account => t.pre.accounts.idExist account != 0

/-- A pass of `authenticate`. -/
def isAuthentication (t : ClientTransition) : Bool :=
  t.out.isSome && decide (t.pre.loc = .authenticate)

/-- The identifier that the last pass of `authenticate` has authenticated. -/
def lastAuthenticated (ts : List ClientTransition) : Option UInt16 :=
  (ts.reverse.find? isAuthentication).bind authenticates

/-- The last action that has been chosen. -/
def lastAction (ts : List ClientTransition) : Option ℤ :=
  (ts.reverse.find? (·.out.isSome)).bind fun t => t.out.map (·.action)

variable {ts : List ClientTransition} {t : ClientTransition}

lemma lastAuthenticated_append (ts : List ClientTransition) (t : ClientTransition) :
    lastAuthenticated (ts ++ [t]) =
      if isAuthentication t = true then authenticates t else lastAuthenticated ts := by
  rw [lastAuthenticated, List.reverse_append, List.reverse_singleton, List.singleton_append,
    List.find?_cons]
  cases isAuthentication t <;> rfl

lemma lastAction_append (ts : List ClientTransition) (t : ClientTransition) :
    lastAction (ts ++ [t]) = (t.out.map (·.action)).or (lastAction ts) := by
  rw [lastAction, List.reverse_append, List.reverse_singleton, List.singleton_append,
    List.find?_cons]
  cases hout : t.out with
  | none => rfl
  | some out => simp [hout]

/-- In `client_action`, the client acts as the user that has been authenticated last. -/
def ActsAs (ts : List ClientTransition) (c : TcpClient) : Prop :=
  c.loc = .clientAction → ∃ id, id ≠ 0 ∧ lastAuthenticated ts = some id ∧ c.client.userId = id

/-- A pass behind which the client acts as a user that has not been authenticated by it:

* a sign-up without a new identifier, while there is an old one, or
* another request that is answered by a registration of another identifier. -/
inductive ActsAsOther (t : ClientTransition) : Prop
  | signUp {out : PassOut} {e : ServerRQ} (hloc : t.pre.loc = .authenticate)
      (hout : t.out = some out) (haction : out.action = 1) (hreply : out.reply = some e)
      (htype : e.type ≠ REGISTRATION) (hid : t.pre.client.userId ≠ 0)
      (hpost : t.post.loc ≠ .returned)
  | act {out : PassOut} {e : ServerRQ} {cl : ServerRQCl} (hloc : t.pre.loc = .clientAction)
      (hout : t.out = some out) (hreply : out.reply = some e) (htype : e.type = REGISTRATION)
      (hcl : e.body.cl? = some cl) (hid : getId cl.header ≠ t.pre.client.userId)
      (hpost : t.post.loc ≠ .returned)

/-- A pass sends the requests of the user that the client acts as. -/
def SendsAs (t : ClientTransition) : Prop :=
  ∀ out rq, t.out = some out → out.request = some rq → t.pre.Sends rq

/-- **One step**: a pass that shows something, or none. -/
lemma step_cases {a : ClientAct} {o : Option PassOut} (h : c.step a = some (c', o)) :
    (∃ out, o = some out ∧ c.Passed c' out ∧ ∀ rq, out.request = some rq → c.Sends rq) ∨
      o = none ∧ c'.loc = c.loc ∧ c'.client.userId = c.client.userId := by
  cases a with
  | meanwhile others =>
      cases h
      exact .inr ⟨rfl, rfl, others.userId_eq _⟩
  | pass env =>
      rw [step] at h
      split at h
      next hloc =>
        obtain ⟨⟨c₁, out⟩, hpass, h⟩ := Option.map_eq_some_iff.mp h
        cases h
        exact .inl ⟨out, rfl, authenticate_cases hloc hpass⟩
      next hloc =>
        obtain ⟨⟨c₁, out⟩, hpass, h⟩ := Option.map_eq_some_iff.mp h
        cases h
        exact .inl ⟨out, rfl, clientAction_cases hloc hpass⟩
      · cases h
      · cases h

lemma Passed.authenticates_eq (h : c.Passed c' out) (hloc : c.loc = .authenticate) {a : ClientAct}
    (hpost : c'.loc = .clientAction)
    (hother : ¬ActsAsOther ⟨c, a, some out, c'⟩) :
    authenticates ⟨c, a, some out, c'⟩ = some c'.client.userId ∧ c'.client.userId ≠ 0 := by
  cases h with
  | signUp _ haction hex hloc' =>
      rw [hpost] at hloc'
      split at hloc'
      · cases hloc'
      split at hloc'
      · cases hloc'
      next herr hne =>
        refine ⟨?_, hne⟩
        cases hex with
        | failed => exact absurd (by decide) herr
        | answered hid hreply htype =>
            refine absurd (.signUp hloc rfl haction hreply htype (hid ▸ hne) ?_) hother
            show c'.loc ≠ _
            rw [hpost]
            decide
        | registered hcl hid hreply htype =>
            simp only [authenticates, Option.bind_some, haction, if_true, hreply, htype, hcl,
              Option.map_some, hid]
  | logIn _ haction haccount _ hid hloc' =>
      rw [hpost] at hloc'
      split at hloc'
      · cases hloc'
      next hne =>
        refine ⟨?_, hne⟩
        rw [hid, selectAccount] at hne ⊢
        split at hne
        · exact absurd rfl hne
        next hexist =>
          simp [authenticates, haction, haccount, hexist]
  | noAccounts _ _ _ hloc' =>
      rw [hpost] at hloc'
      cases hloc'
  | exchange hloc' => rw [hloc] at hloc'; cases hloc'
  | notif hloc' => rw [hloc] at hloc'; cases hloc'
  | logOut hloc' => rw [hloc] at hloc'; cases hloc'
  | leave _ hloc' => rw [hpost] at hloc'; cases hloc'

/-- A pass of `client_action` after which it goes on keeps the identifier. -/
lemma Passed.userId_eq (h : c.Passed c' out) (hloc : c.loc = .clientAction) {a : ClientAct}
    (hpost : c'.loc = .clientAction) (hother : ¬ActsAsOther ⟨c, a, some out, c'⟩) :
    c'.client.userId = c.client.userId := by
  cases h with
  | signUp hloc' => rw [hloc] at hloc'; cases hloc'
  | logIn hloc' => rw [hloc] at hloc'; cases hloc'
  | noAccounts hloc' => rw [hloc] at hloc'; cases hloc'
  | exchange _ hex hloc' =>
      cases hex with
      | failed hid => exact hid
      | answered hid => exact hid
      | @registered _ _ _ e cl hcl hid hreply htype =>
          by_contra hne
          refine hother (.act hloc rfl hreply htype hcl (hid ▸ hne) ?_)
          show c'.loc ≠ _
          rw [hpost]
          decide
  | notif _ _ hid => exact hid
  | logOut _ _ _ hid => exact hid
  | leave _ hloc' => rw [hpost] at hloc'; cases hloc'

lemma isAuthentication_of_loc {a : ClientAct} (hloc : c.loc = .authenticate) :
    isAuthentication ⟨c, a, some out, c'⟩ = true := by
  simp [isAuthentication, hloc]

lemma isAuthentication_of_ne {a : ClientAct} {o : Option PassOut} (hloc : c.loc ≠ .authenticate) :
    isAuthentication ⟨c, a, o, c'⟩ = false := by
  simp [isAuthentication, hloc]

/-- **One step** that is not of these keeps to the identifier that has been authenticated. -/
lemma ActsAs.step {a : ClientAct} {o : Option PassOut} (h : ActsAs ts c)
    (hstep : c.step a = some (c', o)) (hother : ¬ActsAsOther ⟨c, a, o, c'⟩) :
    ActsAs (ts ++ [⟨c, a, o, c'⟩]) c' := by
  intro hpost
  rw [lastAuthenticated_append]
  obtain ⟨out, rfl, hpassed, -⟩ | ⟨rfl, hloc, hid⟩ := step_cases hstep
  · by_cases hloc : c.loc = .authenticate
    · rw [if_pos (isAuthentication_of_loc hloc)]
      obtain ⟨heq, hne⟩ := hpassed.authenticates_eq hloc hpost hother
      exact ⟨_, hne, heq, rfl⟩
    · have hact : c.loc = .clientAction := by
        cases hpassed with
        | signUp hloc' => exact absurd hloc' hloc
        | logIn hloc' => exact absurd hloc' hloc
        | noAccounts hloc' => exact absurd hloc' hloc
        | exchange hloc' => exact hloc'
        | notif hloc' => exact hloc'
        | logOut hloc' => exact hloc'
        | leave _ hloc' => rw [hpost] at hloc'; cases hloc'
      rw [isAuthentication_of_ne hloc, if_neg (by decide)]
      obtain ⟨id, hne, hlast, heq⟩ := h hact
      exact ⟨id, hne, hlast, (hpassed.userId_eq hact hpost hother).trans heq⟩
  · have hnone : isAuthentication ⟨c, a, none, c'⟩ = false := rfl
    rw [hnone, if_neg (by decide)]
    obtain ⟨id, hne, hlast, heq⟩ := h (hloc.symm.trans hpost)
    exact ⟨id, hne, hlast, hid.trans heq⟩

/-- A pass with an answer is an exchange. -/
lemma Passed.exchanged (h : c.Passed c' out) {e : ServerRQ} (hreply : out.reply = some e) :
    ∃ err, Exchanged c.client.userId err c' out ∧
      ((c.loc = .authenticate ∧ out.action = 1 ∧ c'.loc = if err ≠ 0 then .returned
        else if c'.client.userId = 0 then .authenticate else .clientAction) ∨
      c.loc = .clientAction ∧ c'.loc = if err ≠ 0 then .returned else .clientAction) := by
  cases h with
  | signUp hloc haction hex hpost => exact ⟨_, hex, .inl ⟨hloc, haction, hpost⟩⟩
  | exchange hloc hex hpost => exact ⟨_, hex, .inr ⟨hloc, hpost⟩⟩
  | logIn _ _ _ hnone => rw [hreply] at hnone; cases hnone
  | noAccounts _ hnone => rw [hreply] at hnone; cases hnone
  | notif _ hnone => rw [hreply] at hnone; cases hnone
  | logOut _ _ hnone => rw [hreply] at hnone; cases hnone
  | leave hnone => rw [hreply] at hnone; cases hnone

/-- What an answer does to the identifier. -/
lemma Exchanged.userId_eq {id : UInt16} {e : ServerRQ} (h : Exchanged id err c' out)
    (hreply : out.reply = some e) :
    (e.type ≠ REGISTRATION → c'.client.userId = id) ∧
      ∀ cl, e.type = REGISTRATION → e.body.cl? = some cl →
        c'.client.userId = getId cl.header := by
  cases h with
  | failed _ hnone =>
      rw [hreply] at hnone
      cases hnone
  | answered hid hreply' htype =>
      obtain rfl := Option.some.inj (hreply.symm.trans hreply')
      exact ⟨fun _ => hid, fun _ htype' => absurd htype' htype⟩
  | registered hcl hid hreply' htype =>
      obtain rfl := Option.some.inj (hreply.symm.trans hreply')
      refine ⟨fun htype' => absurd htype htype', fun cl _ hcl' => ?_⟩
      obtain rfl := Option.some.inj (hcl.symm.trans hcl')
      exact hid

/-- **One step** that is of these leaves the identifier that has been authenticated. -/
lemma ActsAsOther.not_actsAs {a : ClientAct} {o : Option PassOut} (h : ActsAs ts c)
    (hstep : c.step a = some (c', o)) (hother : ActsAsOther ⟨c, a, o, c'⟩) :
    ¬ActsAs (ts ++ [⟨c, a, o, c'⟩]) c' := by
  intro hacts
  obtain ⟨out, rfl, hpassed, -⟩ | ⟨rfl, -⟩ := step_cases hstep
  swap
  · cases hother with
    | signUp _ hout => cases hout
    | act _ hout => cases hout
  rw [ActsAs, lastAuthenticated_append] at hacts
  cases hother with
  | signUp hloc hout haction hreply htype hid hpost =>
      cases hout
      change c.loc = _ at hloc
      change c'.loc ≠ _ at hpost
      have hnone : authenticates ⟨c, a, some out, c'⟩ = none := by
        simp only [authenticates, Option.bind_some, haction, if_true, hreply, if_neg htype]
      obtain ⟨err, hex, ⟨-, -, hloc'⟩ | ⟨hloc', -⟩⟩ := hpassed.exchanged hreply
      · have hkept := (hex.userId_eq hreply).1 htype
        have hne : c'.client.userId ≠ 0 := fun hzero => hid (hkept.symm.trans hzero)
        simp only [if_neg hne] at hloc'
        split at hloc'
        · exact hpost hloc'
        · obtain ⟨id, -, hsome, -⟩ := hacts hloc'
          rw [if_pos (isAuthentication_of_loc hloc), hnone] at hsome
          cases hsome
      · rw [hloc] at hloc'
        cases hloc'
  | act hloc hout hreply htype hcl hid hpost =>
      cases hout
      change c.loc = _ at hloc
      change c'.loc ≠ _ at hpost
      have hne : c.loc ≠ .authenticate := by
        rw [hloc]
        decide
      obtain ⟨err, hex, ⟨hloc', -⟩ | ⟨-, hloc'⟩⟩ := hpassed.exchanged hreply
      · exact hne hloc'
      · split at hloc'
        · exact hpost hloc'
        · obtain ⟨id, -, hsome, heq⟩ := hacts hloc'
          obtain ⟨id', -, hsome', heq'⟩ := h hloc
          rw [isAuthentication_of_ne hne, if_neg (by decide)] at hsome
          obtain rfl := Option.some.inj (hsome.symm.trans hsome')
          refine hid ?_
          rw [← (hex.userId_eq hreply).2 _ htype hcl, heq]
          exact heq'.symm

/-- What is left of a user that has logged out. -/
def LoggedOut (ts : List ClientTransition) (c : TcpClient) : Prop :=
  c.loc = .authenticate → c.client.userId ≠ 0 → lastAction ts = some 7

/-- **One step**, of a user that has logged out. -/
lemma LoggedOut.step {a : ClientAct} {o : Option PassOut} (h : LoggedOut ts c)
    (hstep : c.step a = some (c', o)) : LoggedOut (ts ++ [⟨c, a, o, c'⟩]) c' := by
  intro hpost hne
  rw [lastAction_append]
  obtain ⟨out, rfl, hpassed, -⟩ | ⟨rfl, hloc, hid⟩ := step_cases hstep
  · cases hpassed with
    | logOut _ haction => exact congrArg some haction
    | noAccounts _ _ hid => exact absurd hid hne
    | signUp _ _ _ hloc' =>
        rw [if_neg hne, hpost] at hloc'
        split at hloc' <;> cases hloc'
    | logIn _ _ _ _ _ hloc' =>
        rw [if_neg hne, hpost] at hloc'
        cases hloc'
    | exchange _ _ hloc' =>
        rw [hpost] at hloc'
        split at hloc' <;> cases hloc'
    | notif _ _ _ hloc' => rw [hpost] at hloc'; cases hloc'
    | leave _ hloc' => rw [hpost] at hloc'; cases hloc'
  · exact h (hloc.symm.trans hpost) (hid ▸ hne)

/-- **The user that the client acts as** is the one that has been authenticated last, in every state
of a run of the thread, exactly when no sign-up without a new identifier is made while there is an
old one, and no other request is answered by a registration of another identifier.  All requests are
of the user that the client acts as, and there is an old identifier only when the last action was to
log out. -/
theorem acts_as_authenticated_iff {c₀ : TcpClient} (hloc : c₀.loc = .authenticate)
    (hid : c₀.client.userId = 0) (hrun : Machine.Run step c₀ ts c) :
    ((∀ us s, us <+: ts → Machine.Run step c₀ us s → ActsAs us s) ↔
        ∀ t ∈ ts, ¬ActsAsOther t) ∧
      (∀ t ∈ ts, SendsAs t) ∧
      ∀ us s, us <+: ts → Machine.Run step c₀ us s → LoggedOut us s := by
  have hacts : ActsAs [] c₀ := fun hact => by
    rw [hloc] at hact
    cases hact
  refine ⟨?_, ?_, fun us s _ hrun' => ?_⟩
  · exact hrun.forall_prefix_iff (P := ActsAs) (H := ActsAs) (B := ActsAsOther)
      (fun _ _ h => h) (fun us s a s' o h hstep hb => hb.not_actsAs h hstep)
      (fun us s a s' o h hstep hb => h.step hstep hb) hacts
  · refine hrun.forall_transition (P := fun _ => True) (fun _ _ _ _ _ _ => trivial)
      (fun s a s' o _ hstep out rq hout hrq => ?_) trivial
    obtain ⟨out', rfl, -, hsends⟩ | ⟨rfl, -⟩ := step_cases hstep
    · cases hout
      exact hsends rq hrq
    · cases hout
  · exact hrun'.history (P := LoggedOut) (Q := fun _ => True)
      (fun us s a s' o h _ hstep => h.step hstep) (fun _ _ => trivial)
      fun _ hne => absurd hid hne

namespace NewUser

open Client.SomeLines

/-- A connection on which the registration is answered with the identifier 1. -/
def answered : Exchange :=
  ⟨_, chunkSocket, (registrationReply 1).messages.map fun m => m ++ [CR, LF], fun _ => 0⟩

/-- An outside where this connection is made. -/
def around : ExchangeEnv :=
  ⟨outside, true, true, answered, ⟨fun _ => none, fun _ => true, true, fun _ => true⟩, none,
    ⟨.replicate ADDRMULT_LEN 0, 0, 0, 0⟩⟩

lemma seven_ne : (55 : UInt8) ≠ 0 := by decide

/-- The line of a log-out. -/
def seven : Typed := line 55 seven_ne 1 .noFile

/-- The line of a pseudo. -/
def letter : Typed := line 97 letter_ne 1 .noFile

lemma idsLt_zero : Accounts.zero.IdsLt := by
  intro u hu
  rw [List.eq_of_mem_replicate hu]
  exact Nat.zero_lt_succ _

/-- The thread of a user without accounts, who is to sign up and to log out. -/
def start : TcpClient :=
  ⟨Client.SomeLines.client, .zero, idsLt_zero, .zero, [feed, letter, seven], .authenticate⟩

/-- The same behind the number of the action. -/
def chosen : TcpClient := { start with typed := [letter, seven] }

lemma valid_letter : letter.Valid := valid_of_run (run_letters le_rfl (by decide))

/-- The answer sets the identifier and adds the account. -/
lemma callback {c : TcpClient} (hc : c.accounts = .zero) (rq : ClientRQ) :
    ∃ c', c.clientCallback around rq (registrationReply 1).head = some (0, c', []) ∧
      c'.client.userId = 1 ∧ c'.typed = c.typed := by
  have hid : getId (mkHeader REGISTRATION 1) = 1 := by decide
  obtain ⟨hcode, -⟩ := Accounts.lists_zero.addAccount_room (Nat.succ_pos _)
    (show getId (mkHeader REGISTRATION 1) ≠ 0 by rw [hid]; decide) rq.rgPseudo
  rw [← hc] at hcode
  have heq := clientCallback_registration around c rq ⟨mkHeader REGISTRATION 1, 0, 0⟩
  rw [hcode, if_neg (by decide)] at heq
  exact ⟨_, heq, hid, rfl⟩

/-- The user signs up. -/
lemma signsUp : ∃ c out, start.step (.pass around) = some (c, some out) ∧ c.loc = .clientAction ∧
    c.typed = [seven] := by
  obtain ⟨res, hres, hcode, hreply, -⟩ := getsReply_registrationReply (fun _ => 0)
    (show (1 : UInt16) = 1 ∨ (1 : UInt16) = 8 from .inl rfl)
  have hrecv : around.exchange.recv chosen.rbRq = some res := hres
  have hread : (readAction 0 3).run start.typed = some (1, [letter, seven]) :=
    (run_readAction _ _ _).trans rfl
  have hpseudo : pseudoManager.run [letter, seven] = some (letter, [seven]) :=
    run_pseudoManager_cons_valid valid_letter _
  have hrq : chosen.client.createRequest around.request REGISTRATION chosen.client.userId
      chosen.typed = some ((.rg ⟨mkHeader REGISTRATION 0, pseudoOfBytes (read
        (write (fun _ => 35) 0 letter.line) 0 PSEUDO_LEN)⟩, chosen.client), [seven]) := by
    rw [Client.createRequest, dif_pos rfl, Client.createRqrg,
      show chosen.typed = [letter, seven] from rfl, hpseudo]
    rfl
  obtain ⟨c', hcallback, hid, htyped⟩ := callback
    (c := { chosen with client := chosen.client, typed := [seven], rbRq := res.rbRq }) rfl
    (.rg ⟨mkHeader REGISTRATION 0, pseudoOfBytes (read
      (write (fun _ => 35) 0 letter.line) 0 PSEUDO_LEN)⟩)
  obtain ⟨out, hex⟩ : ∃ out,
      chosen.handleClientConnection around REGISTRATION 1 = some (0, c', out) :=
    ⟨_, handleClientConnection_eq hrq rfl rfl hrecv hcode hreply hcallback⟩
  refine ⟨c'.goesOn 0, out, ?_, ?_, htyped⟩
  · rw [step, show start.loc = .authenticate from rfl]
    rw [chosen] at hex
    simp only [authenticate, hread, Option.bind_eq_bind, Option.bind_some, if_true, hex,
      Option.map_some]
  · rw [goesOn, if_neg (by decide), hid, if_neg (by decide)]

/-- The user logs out. -/
lemma logsOut {c : TcpClient} (hloc : c.loc = .clientAction) (htyped : c.typed = [seven]) :
    ∃ c' out, c.step (.pass around) = some (c', some out) ∧ c'.loc = .authenticate := by
  have hread : (readAction 1 8).run c.typed = some (7, []) := by
    rw [htyped]
    exact (run_readAction _ _ _).trans rfl
  refine ⟨{ c with typed := [], loc := .authenticate }, { action := 7 }, ?_, rfl⟩
  rw [step, hloc]
  simp only [clientAction, hread, Option.bind_eq_bind, Option.bind_some, if_true, Option.map_some]

/-- A user signs up and logs out. -/
theorem acts_as_authenticated_iff_newUser : ∃ ts c, Machine.Run step start ts c ∧
    ts.length = 2 ∧
    ((∀ us s, us <+: ts → Machine.Run step start us s → ActsAs us s) ↔
        ∀ t ∈ ts, ¬ActsAsOther t) ∧
      (∀ t ∈ ts, SendsAs t) ∧
      ∀ us s, us <+: ts → Machine.Run step start us s → LoggedOut us s := by
  obtain ⟨c, out, hsignUp, hloc, htyped⟩ := signsUp
  obtain ⟨c', out', hlogOut, -⟩ := logsOut hloc htyped
  have hrun : Machine.Run step start _ _ := .cons hsignUp <| .cons hlogOut <| .nil _
  exact ⟨_, _, hrun, rfl, acts_as_authenticated_iff rfl rfl hrun⟩

end NewUser

end TcpClient

end Megaphone
