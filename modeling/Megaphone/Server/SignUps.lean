import Megaphone.Library.Lossy
import Megaphone.Client.Display
import Megaphone.Client.TcpClient
import Megaphone.Server.EndToEnd

/-!
The accounts of the clients and the users of the server.

* `Accounts.listed`: the accounts that `get_nb_accounts` counts.
* `told_registration`, `told_cut`: what a client receives of the identifier that it is given.
* `Call.SignUp`, `SignUps`: the registrations of a run of the server, each made by
  `handle_client_connection` of a client, with the accounts of these clients in one table.
* `listed_eq_users_iff`: when the accounts are the users of the server.
-/

namespace Megaphone

open Memory Framing

/-! ### Accounts -/

namespace Accounts

variable {a : Accounts}

/-- The accounts that `get_nb_accounts` counts. -/
def listed (a : Accounts) : List User := a.toList.takeWhile fun u => decide (u.id ≠ 0)

/-- Behind these accounts no entry has an identifier. -/
def Packed (a : Accounts) : Prop :=
  ∃ rest, a.toList = a.listed ++ rest ∧ ∀ u ∈ rest, u.id = 0

/-- What `client_callback` makes of the table, on a request and its answer. -/
def callback (a : Accounts) (rq : ClientRQ) (e : ServerRQ) : Accounts :=
  if e.type = REGISTRATION then
    match e.body.cl? with
    | none => a
    | some cl => (a.addAccount (getId cl.header) rq.rgPseudo).2
  else a

lemma getNbAccountsLoop_eq (us : List User) (n : ℕ) :
    getNbAccountsLoop us n = n + (us.takeWhile fun u => decide (u.id ≠ 0)).length := by
  induction us generalizing n with
  | nil => rfl
  | cons u us ih =>
      by_cases hu : u.id = 0
      · simp [getNbAccountsLoop, hu]
      · simp only [getNbAccountsLoop, List.takeWhile_cons, ne_eq, hu, not_false_iff, if_true, ih,
          decide_true, List.length_cons]
        omega

lemma getNbAccounts_eq (a : Accounts) : a.getNbAccounts = a.listed.length := by
  rw [getNbAccounts, getNbAccountsLoop_eq, Nat.zero_add, listed]

lemma takeWhile_append {us rest : List User} (hus : ∀ u ∈ us, u.id ≠ 0)
    (hrest : ∀ u ∈ rest, u.id = 0) :
    (us ++ rest).takeWhile (fun u => decide (u.id ≠ 0)) = us := by
  have hnil : rest.takeWhile (fun u => decide (u.id ≠ 0)) = [] := by
    cases rest with
    | nil => rfl
    | cons v rest => simp [hrest v List.mem_cons_self]
  rw [List.takeWhile_append_of_pos (fun u hu => decide_eq_true (hus u hu)), hnil, List.append_nil]

lemma ne_zero_of_mem_listed {u : User} (hu : u ∈ a.listed) : u.id ≠ 0 :=
  of_decide_eq_true (List.mem_takeWhile_imp (p := fun u : User => decide (u.id ≠ 0)) hu)

lemma packed_zero : zero.Packed := by
  have hzero : ∀ u ∈ zero.toList, u.id = 0 := by
    intro u hu
    rw [List.eq_of_mem_replicate hu]
    rfl
  exact ⟨zero.toList, rfl, hzero⟩

lemma listed_zero : zero.listed = [] := rfl

/-- **One more account**: it is listed behind the others, unless its identifier is zero. -/
lemma Packed.addAccount (h : a.Packed) (hroom : a.listed.length < ID_MAX) (id : UInt16)
    (pseudo : Pseudo) :
    (a.addAccount id pseudo).2.Packed ∧ (a.addAccount id pseudo).2.listed =
      if id = 0 then a.listed else a.listed ++ [userInit id pseudo] := by
  obtain ⟨rest, hlist, hrest⟩ := h
  have hlength := a.length_eq
  rw [hlist, List.length_append] at hlength
  cases rest with
  | nil =>
      rw [List.length_nil] at hlength
      omega
  | cons v rest =>
      have hset : (a.addAccount id pseudo).2.toList = a.listed ++ userInit id pseudo :: rest := by
        rw [Accounts.addAccount, if_neg (by rw [getNbAccounts_eq]; exact hroom.ne)]
        show a.toList.set _ _ = _
        rw [hlist, getNbAccounts_eq, List.set_append_right _ _ le_rfl, Nat.sub_self]
        rfl
      have hrest' : ∀ u ∈ rest, u.id = 0 := fun u hu => hrest u (List.mem_cons_of_mem v hu)
      by_cases hid : id = 0
      · have hall : ∀ u ∈ userInit id pseudo :: rest, u.id = 0 :=
          List.forall_mem_cons.mpr ⟨hid, hrest'⟩
        have hlisted : (a.addAccount id pseudo).2.listed = a.listed := by
          rw [listed, hset]
          exact takeWhile_append (fun u hu => ne_zero_of_mem_listed hu) hall
        rw [if_pos hid]
        exact ⟨⟨_, by rw [hlisted, hset], hall⟩, hlisted⟩
      · have hlisted : (a.addAccount id pseudo).2.listed = a.listed ++ [userInit id pseudo] := by
          rw [listed, hset, ← List.singleton_append, ← List.append_assoc]
          refine takeWhile_append (fun u hu => ?_) hrest'
          obtain hu | hu := List.mem_append.mp hu
          · exact ne_zero_of_mem_listed hu
          · rw [List.mem_singleton.mp hu]
            exact hid
        rw [if_neg hid]
        exact ⟨⟨rest, by rw [hlisted, hset, List.append_assoc, List.singleton_append], hrest'⟩,
          hlisted⟩

/-- The account that an answer makes: none under the identifier zero. -/
def made (rq : ClientRQ) (e : ServerRQ) : Option User :=
  if e.type = REGISTRATION then
    e.body.cl?.bind fun cl =>
      if getId cl.header = 0 then none else some (userInit (getId cl.header) rq.rgPseudo)
  else none

/-- **The table behind an answer**: the account that it makes is listed behind the others. -/
lemma Packed.callback (h : a.Packed) (hroom : a.listed.length < ID_MAX) (rq : ClientRQ)
    (e : ServerRQ) :
    (a.callback rq e).Packed ∧ (a.callback rq e).listed = a.listed ++ (made rq e).toList := by
  rw [Accounts.callback, made]
  by_cases htype : e.type = REGISTRATION
  · rw [if_pos htype, if_pos htype]
    cases hcl : e.body.cl? with
    | none => exact ⟨h, (List.append_nil _).symm⟩
    | some cl =>
        obtain ⟨hpacked, hlisted⟩ := h.addAccount hroom (getId cl.header) rq.rgPseudo
        refine ⟨hpacked, hlisted.trans ?_⟩
        rw [Option.bind_some]
        split
        · rw [Option.toList_none, List.append_nil]
        · rw [Option.toList_some]
  · rw [if_neg htype, if_neg htype]
    exact ⟨h, (List.append_nil _).symm⟩

end Accounts

/-! ### What a client receives -/

/-- The message that assigns an identifier. -/
lemma messages_registrationReply (id : UInt16) : (registrationReply id).messages =
    [[hi (mkHeader REGISTRATION id), lo (mkHeader REGISTRATION id), 0, 0, 0, 0]] := by
  have hzero : hi 0 = 0 ∧ lo 0 = 0 := by decide
  simp [registrationReply, Reply.messages, ServerBody.fields, ServerRQCl.fields, hzero]

lemma toNat_hi_registration {id : UInt16} (hid : id.toNat < 2048) :
    (hi (mkHeader REGISTRATION id)).toNat = id.toNat / 8 ∧
      (lo (mkHeader REGISTRATION id)).toNat = id.toNat % 8 * 32 + 1 := by
  have hheader := toNat_mkHeader (show REGISTRATION.toNat < 32 by decide) hid
  have hone : REGISTRATION.toNat = 1 := rfl
  rw [hi, lo, UInt8.toNat_ofNat', UInt8.toNat_ofNat', hheader, hone]
  omega

/-- **An identifier** that is not from 104 to 111 is received. -/
lemma told_registration (junk : ℕ → UInt8) {id : UInt16} (hid : id.toNat < 2048)
    (hne : id.toNat / 8 ≠ 13) {cs : List (List UInt8)}
    (h : Arrives CR LF BUFSIZ [] cs (registrationReply id).messages) :
    ∃ res, recvServerRequest junk chunkSocket cs .zero NOERROR = some res ∧ res.code = 0 ∧
      res.serverrq = some ⟨REGISTRATION, .cl ⟨mkHeader REGISTRATION id, 0, 0⟩⟩ := by
  obtain ⟨hhi, hlo⟩ := toNat_hi_registration hid
  have htype : getRqType (mkHeader REGISTRATION id) = REGISTRATION :=
    getRqType_mkHeader (by decide) hid
  have hvalid : (registrationReply id).Valid := by
    have hplain := Reply.Valid.plain ⟨mkHeader REGISTRATION id, 0, 0⟩
      (by rw [htype]; rfl)
    rwa [htype] at hplain
  have hcr : ∀ m ∈ (registrationReply id).messages, CR ∉ m := by
    rw [messages_registrationReply]
    intro m hm
    rw [List.mem_singleton.mp hm]
    have hzero : CR ≠ 0 := by decide
    simp only [List.mem_cons, List.not_mem_nil, or_false, hzero, not_or]
    refine ⟨fun heq => hne ?_, fun heq => ?_⟩
    · rw [← hhi, ← heq]
      rfl
    · have hthirteen : CR.toNat = 13 := rfl
      rw [heq, hlo] at hthirteen
      omega
  obtain ⟨res, hres, hcode, hhead, -⟩ := getsReply_of_arrives junk NOERROR hvalid hcr h
  exact ⟨res, hres, hcode, hhead⟩

/-- The chunks begin with the first byte of the stream, and the first of them is what has arrived
when this byte is a `CR`. -/
lemma arriving_of_CR {l : List UInt8} {cs : List (List UInt8)} {ms : List (List UInt8)}
    (h : Arrives CR LF BUFSIZ [] cs ms) (hwire : wire CR LF ms = CR :: l) :
    ∃ t, arriving chunkSocket cs [] = CR :: t ∧ t <+: l := by
  have hstream := h.stream
  rw [List.nil_append, hwire] at hstream
  have hfits := h.fits
  cases cs with
  | nil => cases hstream
  | cons c cs =>
      cases hfits with
      | cut hcut => cases hcut
      | full _ hl => exact absurd hl (by decide)
      | read _ hc hl =>
          cases c with
          | nil => exact absurd rfl hc
          | cons b t =>
              rw [List.flatten_cons, List.cons_append] at hstream
              obtain ⟨rfl, rfl⟩ := List.cons.inj hstream
              rw [List.length_nil, Nat.zero_add] at hl
              have hrecv : chunkSocket.recv ((CR :: t) :: cs) (BUFSIZ - ([] : List UInt8).length) =
                  (.data (CR :: t), cs) := by
                rw [List.length_nil, Nat.sub_zero]
                simp only [chunkSocket, chunkRecv]
                rw [List.take_of_length_le hl, if_pos hl]
              have hroom : ([] : List UInt8).length + (CR :: t).length ≤ BUFSIZ := by
                rwa [List.length_nil, Nat.zero_add]
              refine ⟨t, ?_, List.prefix_append _ _⟩
              rw [arriving, if_neg List.not_mem_nil, hrecv]
              simp only [reduceCtorEq, if_false, dif_pos hroom, List.nil_append]
              rw [arriving, if_pos List.mem_cons_self]

/-- What is left of a message in front of which there is a `CR`: its first byte is cleared, or
nothing has arrived behind it. -/
lemma buf_cutFrame_nil {t : List UInt8} (hlf : t.head? ≠ some LF) :
    (cutFrame [] t).buf 0 = 0 ∨ (cutFrame [] t).buf 1 = 0 := by
  have hdrop : dropLf LF t = t := by
    obtain h | h := dropLf_cases t
    · exact h.symm
    · rw [h] at hlf
      exact absurd rfl hlf
  have hbuf : ∀ i, (cutFrame [] t).buf i = if i < t.length then 0 else (CR :: t)[i]?.getD 0 := by
    intro i
    show fill (ofList (CR :: t) 0) (if t.head? = some LF then 1 else 0) (dropLf LF t).length 0 i = _
    rw [if_neg hlf, hdrop]
    simp [fill, ofList]
  rw [hbuf 0, hbuf 1]
  cases t with
  | nil => exact .inr rfl
  | cons b t => exact .inl rfl

/-- The header of an answer is the first two bytes that have been received, and it has the type. -/
lemma header_of_serverrq {σ : Type} {junk : ℕ → UInt8} {sock : Socket σ} {s : σ} {rb : BytesRQ}
    {dErrno : UInt16} {q : Received σ} {res : ServerReceived σ} {e : ServerRQ} {cl : ServerRQCl}
    (hq : recvRequest sock s rb = some q)
    (hres : recvServerRequest junk sock s rb dErrno = some res) (he : res.serverrq = some e)
    (hcl : e.body.cl? = some cl) :
    e.type = getRqType cl.header ∧
      cl.header.toNat = (q.bytesRq.buf 0).toNat * 256 + (q.bytesRq.buf 1).toNat := by
  have hbytes : (ntohs (u16OfBytes (read q.bytesRq.buf 0 2))).toNat =
      (q.bytesRq.buf 0).toNat * 256 + (q.bytesRq.buf 1).toNat := by
    rw [show read q.bytesRq.buf 0 2 = [q.bytesRq.buf 0, q.bytesRq.buf 1] from rfl,
      toNat_ntohs_u16OfBytes]
  rw [recvServerRequest, hq, Option.bind_some] at hres
  split at hres
  · cases hres
    cases he
  · simp only at hres
    split at hres
    · cases hres
      cases he
      cases hcl
      exact ⟨rfl, hbytes⟩
    · split at hres
      · obtain ⟨p, -, rfl⟩ := Option.map_eq_some_iff.mp hres
        cases he
        cases hcl
        exact ⟨rfl, hbytes⟩
      · split at hres
        · cases hres
          cases he
          cases hcl
          exact ⟨rfl, hbytes⟩
        · cases hres
          cases he

/-- **An identifier** from 104 to 111 is not received: nothing is, or a smaller identifier. -/
lemma told_cut (junk : ℕ → UInt8) {id : UInt16} (hid : id.toNat < 2048) (heq : id.toNat / 8 = 13)
    {cs : List (List UInt8)} (h : Arrives CR LF BUFSIZ [] cs (registrationReply id).messages)
    {res : ServerReceived (List (List UInt8))}
    (hres : recvServerRequest junk chunkSocket cs .zero NOERROR = some res) {e : ServerRQ}
    (he : res.serverrq = some e) (htype : e.type = REGISTRATION) {cl : ServerRQCl}
    (hcl : e.body.cl? = some cl) : (getId cl.header).toNat < 8 := by
  obtain ⟨hhi, hlo⟩ := toNat_hi_registration hid
  have hcr : hi (mkHeader REGISTRATION id) = CR := UInt8.toNat_inj.mp (hhi.trans heq)
  have hwire : wire CR LF (registrationReply id).messages =
      CR :: (lo (mkHeader REGISTRATION id) :: [0, 0, 0, 0, CR, LF]) := by
    rw [messages_registrationReply, hcr]
    rfl
  obtain ⟨t, harriving, hprefix⟩ := arriving_of_CR h hwire
  have hlf : t.head? ≠ some LF := by
    cases t with
    | nil => exact nofun
    | cons b t =>
        obtain ⟨rfl, -⟩ := List.cons_prefix_cons.mp hprefix
        intro hhead
        have hten : (lo (mkHeader REGISTRATION id)).toNat = 10 :=
          congrArg UInt8.toNat (Option.some.inj hhead)
        omega
  obtain ⟨q, hq, hleaves, -⟩ :=
    recvRequest_leaves clean_zero (returns_chunkSocket.not_recvBlocks cs _)
  rw [frame_zero, harriving] at hleaves
  have hbytes : q.bytesRq = cutFrame [] t := by
    cases hleaves with
    | @cut f t' hl hf _ hbytes _ =>
        cases f with
        | nil =>
            obtain ⟨-, rfl⟩ := List.cons.inj hl
            exact hbytes
        | cons b f => exact absurd ((List.cons.inj hl).1 ▸ List.mem_cons_self) hf
    | whole hnot => exact absurd List.mem_cons_self hnot
  obtain ⟨htype', hheader⟩ := header_of_serverrq hq hres he hcl
  rw [hbytes] at hheader
  obtain hzero | hone := buf_cutFrame_nil hlf
  · have hlt := ((cutFrame [] t).buf 1).toNat_lt
    rw [hzero, show (0 : UInt8).toNat = 0 from rfl, Nat.zero_mul, Nat.zero_add] at hheader
    rw [toNat_getId, hheader]
    omega
  · rw [hone, show (0 : UInt8).toNat = 0 from rfl, Nat.add_zero] at hheader
    rw [htype] at htype'
    have htoNat := congrArg UInt8.toNat htype'
    rw [toNat_getRqType, hheader, show REGISTRATION.toNat = 1 from rfl] at htoNat
    omega

/-- The answer to a registration that is refused. -/
def refusalReply : Reply := ⟨⟨ERR_IDMAX.toUInt8, .cl ⟨ERR_IDMAX, 0, 0⟩⟩, []⟩

/-- A refusal is received. -/
lemma told_refusal (junk : ℕ → UInt8) {cs : List (List UInt8)}
    (h : Arrives CR LF BUFSIZ [] cs refusalReply.messages) :
    ∃ res, recvServerRequest junk chunkSocket cs .zero NOERROR = some res ∧
      res.serverrq = some refusalReply.head := by
  have hvalid : refusalReply.Valid := Reply.Valid.plain ⟨ERR_IDMAX, 0, 0⟩ (by decide)
  have hcr : ∀ m ∈ refusalReply.messages, CR ∉ m := by
    intro m hm
    rw [List.mem_singleton.mp hm]
    decide
  obtain ⟨res, hres, -, hhead, -⟩ := getsReply_of_arrives junk NOERROR hvalid hcr h
  exact ⟨res, hres, hhead⟩

/-! ### What a client sends -/

/-- The bytes of a padded pseudo are those that have been typed and `'#'`. -/
lemma mem_paddedPseudo {l : List UInt8} {b : UInt8}
    (hb : b ∈ (Client.paddedPseudo l).toList) : b ∈ l ∨ b = 35 := by
  rw [Client.paddedPseudo, toList_pseudoOfBytes (length_read ..)] at hb
  obtain ⟨i, -, rfl⟩ := List.mem_map.mp hb
  rw [Nat.zero_add, write, if_pos (Nat.zero_le i), Nat.sub_zero]
  cases hget : l[i]? with
  | none => exact .inr rfl
  | some v => exact .inl (List.mem_of_getElem? hget)

/-- **A registration** has no `CR` in it. -/
lemma createRequest_registration {env : RequestEnv} {c c' : Client} {id : UInt16}
    {ls rest : List Typed} {rq : ClientRQ}
    (h : c.createRequest env REGISTRATION id ls = some ((rq, c'), rest)) :
    ∃ rg, rq = .rg rg ∧ rq.Valid ∧ ∀ f ∈ rq.fields, CR ∉ f := by
  rw [Client.createRequest, dif_pos rfl] at h
  obtain ⟨⟨pseudo, ls'⟩, hpseudo, h⟩ := Option.bind_eq_some_iff.mp h
  cases h
  have hvalid := valid_of_run hpseudo
  refine ⟨_, rfl, show getRqType (mkHeader REGISTRATION 0) = REGISTRATION by decide, ?_⟩
  intro f hf
  obtain rfl | rfl := List.mem_pair.mp hf
  · show CR ∉ [hi (mkHeader REGISTRATION 0), lo (mkHeader REGISTRATION 0)]
    decide
  · intro hmem
    obtain hline | hhash := mem_paddedPseudo hmem
    · exact absurd (hvalid.chars CR hline) (by decide)
    · exact absurd hhash (by decide)

/-! ### One exchange -/

namespace TcpClient

variable {env : ExchangeEnv} {c c' : TcpClient} {type : UInt8} {action : ℤ} {err : UInt8}
  {out : PassOut}

lemma clientCallback_accounts {rq : ClientRQ} {e : ServerRQ} {events : List ClientEvent}
    (h : c.clientCallback env rq e = some (err, c', events)) :
    c'.accounts = c.accounts.callback rq e := by
  rw [clientCallback] at h
  rw [Accounts.callback]
  split at h
  next htype =>
    obtain ⟨cl, hcl, h⟩ := Option.bind_eq_some_iff.mp h
    cases h
    rw [if_pos htype, hcl]
  next htype =>
    rw [if_neg htype]
    split at h
    · obtain ⟨cl, -, h⟩ := Option.bind_eq_some_iff.mp h
      obtain ⟨p, -, h⟩ := Option.bind_eq_some_iff.mp h
      cases h
      rfl
    · split at h
      · split at h
        · cases h
          rfl
        · cases h
          rfl
        · cases h
      · split at h
        · cases h
          rfl
        · cases h
          rfl

/-- **The accounts behind an exchange** whose request is sent. -/
lemma handleClientConnection_accounts {rq : ClientRQ}
    (h : c.handleClientConnection env type action = some (err, c', out))
    (hrq : out.request = some rq) :
    (∃ client typed, c.client.createRequest env.request type c.client.userId c.typed =
      some ((rq, client), typed)) ∧
    ∃ res, env.exchange.recv c.rbRq = some res ∧
      (res.code ≠ 0 ∧ c'.accounts = c.accounts ∨
        ∃ e, res.serverrq = some e ∧ c'.accounts = c.accounts.callback rq e) := by
  obtain ⟨⟨⟨rq', client⟩, typed⟩, hcreate, h⟩ := Option.bind_eq_some_iff.mp h
  simp only at h
  split at h
  · split at h
    · cases h
      cases hrq
    · obtain ⟨res, hres, h⟩ := Option.bind_eq_some_iff.mp h
      split at h
      next hcode =>
        cases h
        cases hrq
        exact ⟨⟨client, typed, hcreate⟩, res, hres, .inl ⟨hcode, rfl⟩⟩
      · obtain ⟨e, he, h⟩ := Option.bind_eq_some_iff.mp h
        obtain ⟨⟨err', c'', events⟩, hcallback, h⟩ := Option.bind_eq_some_iff.mp h
        cases h
        cases hrq
        exact ⟨⟨client, typed, hcreate⟩, res, hres,
          .inr ⟨e, he, (clientCallback_accounts hcallback :)⟩⟩
  · cases h
    cases hrq

end TcpClient

/-! ### One call of the server -/

namespace Server

variable {env : Env} {s s' : Server} {ans : Answer}

/-- A registration that is answered: it is refused, or one more user is registered. -/
lemma refused_or_registers {rq : ClientRQRg} {e : ServerRQ}
    (h : s.handleTcpConnection env (.rg rq) = some (s', ans)) (hcode : ans.code = 0)
    (he : ans.entry 0 = some e) :
    (s'.users = s.users ∧ e = refusalReply.head) ∨
    ∃ id, Registers s ⟨id, rq.pseudo⟩ ans ∧ s'.users = (s.userNew id rq.pseudo).users := by
  obtain ⟨husers, -⟩ | hregisters := handleTcpConnection_rg h
  · obtain ⟨r, hrq, hr⟩ := handleTcpConnection_cases h
    obtain ⟨-, rfl⟩ | ⟨-, id, -, rfl⟩ := registrationRequest_cases hrq
    · obtain ⟨hone, -⟩ | ⟨-, -, -, rfl⟩ | ⟨-, -, -, rfl⟩ := hr
      · exact absurd (show (1 : UInt8) = 0 from hone) (by decide)
      · exact absurd (show (1 : UInt8) = 0 from hcode) (by decide)
      · cases he
        exact .inl ⟨husers, rfl⟩
    · obtain ⟨-, rfl, -⟩ | ⟨hne, -⟩ | ⟨hne, -⟩ := hr
      · have hlength := congrArg (fun users => users.toList.length) husers
        simp [userNew] at hlength
      · exact absurd rfl hne
      · exact absurd rfl hne
  · exact .inr hregisters

end Server

namespace TcpServer

/-- A call that returns 0 sends these messages and nothing else. -/
def Call.Replies (c : Call) (ms : List (List UInt8)) : Prop :=
  ∃ close t, c.state.handleTcpConnection c.env c.fd = some (0, close, t) ∧
    t.events = c.state.events ++ [.send c.fd (ms.map fun m => m ++ [CR, LF])]

lemma Call.Replies.eq {c : Call} {ms ms' : List (List UInt8)} (h : c.Replies ms)
    (h' : c.Replies ms') : ms = ms' := by
  obtain ⟨close, t, hcall, hevents⟩ := h
  obtain ⟨close', t', hcall', hevents'⟩ := h'
  cases hcall.symm.trans hcall'
  have hsend := List.append_cancel_left (hevents.symm.trans hevents')
  have hmap := (SocketEvent.send.inj (List.singleton_inj.mp hsend)).2
  exact List.map_injective_iff.mpr (fun m m' heq => List.append_cancel_right heq) hmap

/-- The other threads leave the users as they are. -/
def Call.KeepsUsers (c : Call) : Prop :=
  (c.env.others.act c.state.data).users = c.state.data.users

/-- What a call does to the users.

* `other`: another request leaves them;
* `refused`: a registration is refused;
* `registered`: a user joins them, under a new identifier that is sent. -/
inductive Call.Users (c : Call) (data : Server) : Prop
  | other {rq : ClientRQ} (hbrings : c.env.Brings rq) (htype : rq.type ≠ REGISTRATION)
      (husers : data.users = c.state.data.users) : Users c data
  | refused {rq : ClientRQRg} (hbrings : c.env.Brings (.rg rq))
      (husers : data.users = c.state.data.users) (hreplies : c.Replies refusalReply.messages) :
      Users c data
  | registered {rq : ClientRQRg} {id : UInt16} (hbrings : c.env.Brings (.rg rq))
      (hroom : c.state.data.users.toList.length < USER_MAX) (hfresh : c.state.data.Fresh id)
      (husers : data.users = (c.state.data.userNew id rq.pseudo).users)
      (hreplies : c.Replies (registrationReply id).messages) : Users c data

/-- A header that has been sent. -/
lemma Call.Sends.replies {c : Call} {rq : ClientRQ} {s' : Server} {ans : Answer} {e : ServerRQ}
    {ms : List (List UInt8)} {t' : TcpServer} (h : c.Sends rq s' ans e ms t') {close : Bool}
    (hcall : c.state.handleTcpConnection c.env c.fd = some (0, close, t')) {type : UInt8}
    {cl : ServerRQCl} (he : e = ⟨type, .cl cl⟩) (hplain : isPlain type = true)
    (htype : type ≠ DOWNLOAD) : c.Replies (Reply.mk e []).messages := by
  subst he
  refine ⟨close, t', hcall, ?_⟩
  rw [h.events_eq htype,
    messages_of_sent (Answer.sendsReply_plain h.entry_eq hplain c.env.send) h.send_eq]

/-- **The users behind a call.** -/
lemma Called.users {c : Call} {data : Server} (h : Called c data) (hkeeps : c.KeepsUsers) :
    c.Users data := by
  obtain ⟨rq, s', ans, e, ms, t', hsends, rfl, close, hcall⟩ := h.sends
  have husers : t'.data.users = s'.users := hsends.sameLog.users_eq
  cases rq with
  | cl type htype rq =>
      refine .other hsends.brings htype (husers.trans ?_)
      rw [handleTcpConnection_cl hsends.handled]
      exact hkeeps
  | rg rq =>
      obtain ⟨hsame, he⟩ | ⟨id, hreg, hnew⟩ :=
        Server.refused_or_registers hsends.handled hsends.code_eq hsends.entry_eq
      · refine .refused hsends.brings (husers.trans (hsame.trans hkeeps)) ?_
        have hreplies := hsends.replies hcall he (by decide) (by decide)
        rw [he] at hreplies
        exact hreplies
      · have he := Option.some.inj (hsends.entry_eq.symm.trans hreg.entry_eq)
        have hreplies := hsends.replies hcall he rfl (by decide)
        rw [he] at hreplies
        have hroom := hreg.room
        have hfresh := hreg.fresh
        rw [hkeeps] at hroom
        refine .registered hsends.brings hroom ⟨?_, hfresh.pos, hfresh.le_max⟩ ?_ hreplies
        · rw [← hfresh.new, Server.existId, Server.existId, hkeeps]
        · rw [husers, hnew, Server.userNew, Server.userNew, hkeeps]

/-! ### The accounts behind a call -/

/-- What a call makes of the accounts of the clients, which are in one table.

* `other`: the call brings no registration;
* `signUp`: the registration that it brings is sent by `handle_client_connection` of a client, which
  receives what the call sends; the chunks do not separate the terminators. -/
inductive Call.SignUp (c : Call) (a : Accounts) : Accounts → Prop
  | other (h : ∀ rq, c.env.Brings rq → rq.type ≠ REGISTRATION) : SignUp c a a
  | signUp {client client' : TcpClient} {env : ExchangeEnv} {action : ℤ} {err : UInt8}
      {out : PassOut} {rq : ClientRQ} {ms cs : List (List UInt8)} {junk : ℕ → UInt8}
      (haccounts : client.accounts = a) (hcarry : client.rbRq = .zero)
      (hexchange : client.handleClientConnection env REGISTRATION action = some (err, client', out))
      (hrequest : out.request = some rq) (hcarries : c.env.Carries rq.fields.flatten)
      (hreplies : c.Replies ms) (harrives : Arrives CR LF BUFSIZ [] cs ms)
      (hexchanged : env.exchange = ⟨List (List UInt8), chunkSocket, cs, junk⟩) :
      SignUp c a client'.accounts

/-- The accounts behind the calls of a list. -/
inductive SignUps (a : Accounts) : List Call → Accounts → Prop
  | nil : SignUps a [] a
  | concat {cs : List Call} {c : Call} {a' a'' : Accounts} (h : SignUps a cs a')
      (hc : c.SignUp a' a'') : SignUps a (cs ++ [c]) a''

lemma SignUps.of_concat {a a'' : Accounts} {cs : List Call} {c : Call}
    (h : SignUps a (cs ++ [c]) a'') : ∃ a', SignUps a cs a' ∧ c.SignUp a' a'' := by
  generalize hl : cs ++ [c] = l at h
  cases h with
  | nil => exact absurd hl (by simp)
  | concat h hc =>
      obtain ⟨rfl, hcons⟩ := List.append_inj' hl rfl
      obtain rfl := List.singleton_inj.mp hcons
      exact ⟨_, h, hc⟩

lemma brings_unique {env : ConnEnv} {rq rq' : ClientRQ} (h : env.Brings rq)
    (h' : env.Brings rq') : rq = rq' := by
  obtain ⟨c, hrecv, hrq⟩ := h
  obtain ⟨c', hrecv', hrq'⟩ := h'
  obtain rfl := Option.some.inj (hrecv.symm.trans hrecv')
  exact Option.some.inj (hrq.symm.trans hrq')

/-- A registration that is carried to the server is what it gets. -/
lemma brings_of_carries {env : ConnEnv} {rq : ClientRQRg} (hvalid : (ClientRQ.rg rq).Valid)
    (hcr : ∀ f ∈ (ClientRQ.rg rq).fields, CR ∉ f)
    (h : env.Carries (ClientRQ.rg rq).fields.flatten) : env.Brings (.rg rq) := by
  cases h with
  | intro harr =>
      obtain ⟨c, rq', hrecv, -, hrq, hsame⟩ :=
        getsRequest_of_arrives hvalid (by simpa using hcr) harr
      cases rq' with
      | cl => exact hsame.elim
      | rg rq' =>
          obtain rfl : rq' = rq := hsame
          exact ⟨c, hrecv, hrq⟩

/-- A call on the accounts: none of a request that is not a registration, and otherwise the one that
the answer makes, if it is received. -/
lemma Call.SignUp.cases {c : Call} {a a' : Accounts} (h : c.SignUp a a') :
    (a' = a ∧ ∀ rq, c.env.Brings rq → rq.type ≠ REGISTRATION) ∨
    ∃ rq ms cs junk res, c.env.Brings (.rg rq) ∧ c.Replies ms ∧ Arrives CR LF BUFSIZ [] cs ms ∧
      recvServerRequest junk chunkSocket cs .zero NOERROR = some res ∧
      (res.code ≠ 0 ∧ a' = a ∨ ∃ e, res.serverrq = some e ∧ a' = a.callback (.rg rq) e) := by
  cases h with
  | other h => exact .inl ⟨rfl, h⟩
  | @signUp client client' env action err out rq ms cs junk haccounts hcarry hexchange hrequest
      hcarries hreplies harrives hexchanged =>
      obtain ⟨⟨client₁, typed, hcreate⟩, res, hres, hresult⟩ :=
        TcpClient.handleClientConnection_accounts hexchange hrequest
      obtain ⟨rg, rfl, hvalid, hcr⟩ := createRequest_registration hcreate
      have hbrings := brings_of_carries hvalid hcr hcarries
      rw [haccounts] at hresult
      generalize env.exchange = x at *
      subst hexchanged
      rw [hcarry] at hres
      exact .inr ⟨rg, ms, cs, junk, res, hbrings, hreplies, harrives, hres, hresult⟩

/-! ### Runs -/

/-- The first byte of the header that assigns the identifier is not a `CR`. -/
def Uncut (u : User) : Prop := u.id.toNat / 8 ≠ 13

instance (u : User) : Decidable (Uncut u) := inferInstanceAs (Decidable (_ ≠ _))

/-- **One more user**: the account that the answer makes is the user, unless it is cut. -/
lemma callback_registered {a a' : Accounts} {rq : ClientRQRg} {id : UInt16} {junk : ℕ → UInt8}
    {cs : List (List UInt8)} {res : ServerReceived (List (List UInt8))} (hid : id.toNat < 2048)
    (hne : 0 < id.toNat) (h : Arrives CR LF BUFSIZ [] cs (registrationReply id).messages)
    (hres : recvServerRequest junk chunkSocket cs .zero NOERROR = some res)
    (ha : res.code ≠ 0 ∧ a' = a ∨ ∃ e, res.serverrq = some e ∧ a' = a.callback (.rg rq) e)
    (hpacked : a.Packed) (hroom : a.listed.length < ID_MAX) :
    ∃ o : Option User, (o = some ⟨id, rq.pseudo⟩ ↔ Uncut ⟨id, rq.pseudo⟩) ∧ a'.Packed ∧
      a'.listed = a.listed ++ o.toList := by
  by_cases hcut : id.toNat / 8 = 13
  · have hnot : ¬Uncut ⟨id, rq.pseudo⟩ := fun h => h hcut
    obtain ⟨-, rfl⟩ | ⟨e, he, rfl⟩ := ha
    · exact ⟨none, ⟨nofun, fun h => absurd h hnot⟩, hpacked, (List.append_nil _).symm⟩
    · refine ⟨Accounts.made (.rg rq) e, ⟨fun hmade => ?_, fun h => absurd h hnot⟩,
        hpacked.callback hroom (.rg rq) e⟩
      rw [Accounts.made] at hmade
      split at hmade
      next htype =>
        obtain ⟨cl, hcl, hmade⟩ := Option.bind_eq_some_iff.mp hmade
        have hlt := told_cut junk hid hcut h hres he htype hcl
        split at hmade
        · cases hmade
        · have hidEq : getId cl.header = id := congrArg User.id (Option.some.inj hmade)
          rw [hidEq] at hlt
          omega
      next => cases hmade
  · obtain ⟨res', hres', hcode, hhead⟩ := told_registration junk hid hcut h
    obtain rfl := Option.some.inj (hres.symm.trans hres')
    obtain ⟨hcode', -⟩ | ⟨e, he, rfl⟩ := ha
    · exact absurd hcode hcode'
    · obtain rfl := Option.some.inj (he.symm.trans hhead)
      have hget : getId (mkHeader REGISTRATION id) = id := getId_mkHeader (by decide) hid
      have hzero : id ≠ 0 := fun h => by
        rw [h] at hne
        exact absurd hne (by decide)
      have hmade : Accounts.made (.rg rq)
          ⟨REGISTRATION, .cl ⟨mkHeader REGISTRATION id, 0, 0⟩⟩ = some ⟨id, rq.pseudo⟩ := by
        rw [Accounts.made, if_pos rfl]
        simp only [ServerBody.cl?, Option.bind_some, hget, if_neg hzero]
        rfl
      exact ⟨some ⟨id, rq.pseudo⟩, ⟨fun _ => hcut, fun _ => rfl⟩,
        hmade ▸ hpacked.callback hroom (.rg rq) _⟩

/-- A refusal makes no account. -/
lemma callback_refused {a a' : Accounts} {rq : ClientRQRg} {junk : ℕ → UInt8}
    {cs : List (List UInt8)} {res : ServerReceived (List (List UInt8))}
    (h : Arrives CR LF BUFSIZ [] cs refusalReply.messages)
    (hres : recvServerRequest junk chunkSocket cs .zero NOERROR = some res)
    (ha : res.code ≠ 0 ∧ a' = a ∨ ∃ e, res.serverrq = some e ∧ a' = a.callback (.rg rq) e) :
    a' = a := by
  obtain ⟨-, rfl⟩ | ⟨e, he, rfl⟩ := ha
  · rfl
  · obtain ⟨res', hres', hhead⟩ := told_refusal junk h
    obtain rfl := Option.some.inj (hres.symm.trans hres')
    obtain rfl := Option.some.inj (he.symm.trans hhead)
    exact if_neg (by decide)

/-- What a run leaves: the accounts of the clients are what they have received of the users. -/
structure SignedUp (cs : List Call) (s : Server) : Prop where
  inv : s.UsersInv
  handed : ∀ a, SignUps .zero cs a → a.Packed ∧ Lossy.Handed Uncut s.users.toList a.listed

lemma SignedUp.congr {cs : List Call} {s s' : Server} (h : SignedUp cs s)
    (hs : s'.users = s.users) : SignedUp cs s' := ⟨h.inv.congr hs, by rw [hs]; exact h.handed⟩

/-- One more call. -/
lemma SignedUp.called {cs : List Call} {c : Call} {data : Server} (h : SignedUp cs c.state.data)
    (hkeeps : c.KeepsUsers) (hcalled : Called c data) : SignedUp (cs ++ [c]) data := by
  cases hcalled.users hkeeps with
  | other hbrings htype husers =>
      refine ⟨h.inv.congr husers, fun a' ha' => ?_⟩
      obtain ⟨a, ha, hc⟩ := ha'.of_concat
      rw [husers]
      obtain ⟨rfl, -⟩ | ⟨rq', ms, cs', junk, res, hbrings', -⟩ := hc.cases
      · exact h.handed _ ha
      · exact absurd (show (ClientRQ.rg rq').type = REGISTRATION from rfl)
          (brings_unique hbrings hbrings' ▸ htype)
  | refused hbrings husers hreplies =>
      refine ⟨h.inv.congr husers, fun a' ha' => ?_⟩
      obtain ⟨a, ha, hc⟩ := ha'.of_concat
      rw [husers]
      obtain ⟨rfl, -⟩ | ⟨rq', ms, cs', junk, res, -, hreplies', harrives, hres, hresult⟩ := hc.cases
      · exact h.handed _ ha
      · obtain rfl := hreplies'.eq hreplies
        rw [callback_refused harrives hres hresult]
        exact h.handed a ha
  | @registered rq id hbrings hroom hfresh husers hreplies =>
      refine ⟨(h.inv.userNew hfresh hroom rq.pseudo).congr husers, fun a' ha' => ?_⟩
      obtain ⟨a, ha, hc⟩ := ha'.of_concat
      obtain ⟨-, hnot⟩ | ⟨rq', ms, cs', junk, res, hbrings', hreplies', harrives, hres, hresult⟩ :=
        hc.cases
      · exact absurd rfl (hnot _ hbrings)
      · obtain rfl := ClientRQ.rg.inj (brings_unique hbrings hbrings')
        obtain rfl := hreplies'.eq hreplies
        obtain ⟨hpacked, hhanded⟩ := h.handed a ha
        have hmax := hfresh.le_max
        rw [ID_MAX] at hmax
        obtain ⟨o, ho, hpacked', hlisted⟩ := callback_registered (by omega) hfresh.pos harrives
          hres hresult hpacked (hhanded.length_le.trans_lt hroom)
        rw [husers, hlisted]
        exact ⟨hpacked', hhanded.concat ho⟩

/-- **The accounts of the clients and the users of the server.**  In every run of the TCP server
that it survives, whose registrations are all made by `handle_client_connection` of clients that
keep their accounts in one table, over any connections and with any other requests between them:
the accounts are the users, in their order, when no identifier from 104 to 111 has been given, and
only then.  In this case each account is that of one user, and the server has its pseudo under its
identifier. -/
theorem listed_eq_users_iff (sfd : Descriptor) {rs : List Round} {t : TcpServer} {a : Accounts}
    (h : tcpServerLoop rs (tcpServerInit sfd) = some (true, t))
    (hkeeps : ∀ c ∈ calls rs (tcpServerInit sfd), c.KeepsUsers)
    (hsignUps : SignUps .zero (calls rs (tcpServerInit sfd)) a) :
    (a.listed = t.data.users.toList ↔ ∀ u ∈ t.data.users.toList, Uncut u) ∧
      a.listed.length ≤ t.data.users.toList.length ∧
      ((∀ u ∈ t.data.users.toList, Uncut u) → (a.listed.map (·.id)).Nodup ∧
        ∀ u ∈ a.listed, t.data.getPseudo u.id = some u.pseudo) := by
  obtain ⟨-, hinv, hhanded⟩ := tcpServerLoop_history (P := SignedUp) (Q := Call.KeepsUsers)
    (fun cs s now h => h.congr rfl) (fun cs c data h hkeeps hcalled => h.called hkeeps hcalled)
    (inv_tcpServerInit sfd) h hkeeps
    (show SignedUp [] (tcpServerInit sfd).data from ⟨Server.usersInv_dataInit, fun a ha => by
      generalize hl : ([] : List Call) = l at ha
      cases ha with
      | nil => exact ⟨Accounts.packed_zero, Accounts.listed_zero ▸ Lossy.handed_nil⟩
      | concat => exact absurd hl (by simp)⟩)
  obtain ⟨-, hhanded⟩ := hhanded a hsignUps
  refine ⟨hhanded.eq_iff, hhanded.length_le, fun huncut => ?_⟩
  rw [hhanded.eq_iff.mpr huncut]
  exact ⟨hinv.nodup, fun u hu => Server.getPseudo_of_mem hinv.nodup hu⟩

namespace OneClient

open TwoClients Client.SomeLines TcpClient.NewUser

/-- The registration gets the identifier 1. -/
lemma registered_one : ∃ s' ans, ((dataInit.checkTransfersTimeout 0).checkTransfersTimeout
    0).handleTcpConnection registers.env registration = some (s', ans) ∧
      ans.entry 0 = some (registrationReply 1).head := ⟨_, _, rfl, rfl⟩

lemma replies {b : TcpServer} {data : Server}
    (hdata : b.data = (dataInit.checkTransfersTimeout 0).checkTransfersTimeout 0)
    (h : Called ⟨registers, b, 4⟩ data) :
    Call.Replies ⟨registers, b, 4⟩ (registrationReply 1).messages := by
  obtain ⟨rq, s', ans, e, ms, t', hsends, rfl, close, hcall⟩ := h.sends
  obtain rfl : rq = registration := brings_unique hsends.brings ⟨_, recv_registers, rfl⟩
  obtain ⟨s₁, ans₁, hconn, he⟩ := registered_one
  have hhandled := hsends.handled
  rw [show registers.others.act b.data = b.data from rfl, hdata] at hhandled
  cases hhandled.symm.trans hconn
  obtain rfl := Option.some.inj (hsends.entry_eq.symm.trans he)
  exact hsends.replies hcall rfl rfl (by decide)

/-- The client that has typed the pseudo. -/
def signingUp : TcpClient := { start with typed := [letters 10] }

/-- Its request. -/
def typedRegistration : ClientRQ :=
  .rg ⟨mkHeader REGISTRATION 0, Client.paddedPseudo (letters 10).line⟩

lemma carries : registers.Carries typedRegistration.fields.flatten := by
  have harrives : Arrives CR LF BUFSIZ []
      ([typedRegistration.fields.flatten].map fun m => m ++ [CR, LF])
      [typedRegistration.fields.flatten] := by
    refine arrives_messages (by decide) fun m hm => ?_
    rw [List.mem_singleton.mp hm]
    decide
  exact .intro harrives

/-- The client signs up. -/
lemma signsUp : ∃ c' out, signingUp.handleClientConnection around REGISTRATION 1 =
    some (0, c', out) ∧ out.request = some typedRegistration := by
  obtain ⟨res, hres, hcode, hreply, -⟩ := getsReply_registrationReply (fun _ => 0)
    (show (1 : UInt16) = 1 ∨ (1 : UInt16) = 8 from .inl rfl)
  have hrecv : around.exchange.recv signingUp.rbRq = some res := hres
  have hrq : signingUp.client.createRequest around.request REGISTRATION signingUp.client.userId
      signingUp.typed = some ((typedRegistration, signingUp.client), []) := by
    rw [Client.createRequest, dif_pos rfl, Client.createRqrg,
      show signingUp.typed = [letters 10] from rfl, run_letters (by decide) le_rfl]
    rfl
  obtain ⟨c', hcallback, -⟩ := TcpClient.NewUser.callback
    (c := { signingUp with client := signingUp.client, typed := [], rbRq := res.rbRq }) rfl
    typedRegistration
  exact ⟨c', _, TcpClient.handleClientConnection_eq hrq rfl rfl hrecv hcode hreply hcallback, rfl⟩

/-- A client signs up. -/
theorem listed_eq_users_iff_one : ∃ t a,
    tcpServerLoop [connect, serve] (tcpServerInit 3) = some (true, t) ∧
    SignUps .zero (calls [connect, serve] (tcpServerInit 3)) a ∧
    (calls [connect, serve] (tcpServerInit 3)).length = 1 ∧
    (a.listed = t.data.users.toList ↔ ∀ u ∈ t.data.users.toList, Uncut u) ∧
      a.listed.length ≤ t.data.users.toList.length ∧
      ((∀ u ∈ t.data.users.toList, Uncut u) → (a.listed.map (·.id)).Nodup ∧
        ∀ u ∈ a.listed, t.data.getPseudo u.id = some u.pseudo) := by
  obtain ⟨t, b, data, hloop, hall, hdata, hcalled⟩ := served
  obtain ⟨c', out, hexchange, hrequest⟩ := signsUp
  have harrives : Arrives CR LF BUFSIZ []
      ((registrationReply 1).messages.map fun m => m ++ [CR, LF]) (registrationReply 1).messages :=
    arrives_messages (by decide) (by decide)
  have hsignUps : SignUps .zero (calls [connect, serve] (tcpServerInit 3)) c'.accounts := by
    rw [hall]
    exact .concat .nil (.signUp rfl rfl hexchange hrequest carries (replies hdata hcalled) harrives
      rfl)
  refine ⟨t, c'.accounts, hloop, hsignUps, by rw [hall]; rfl,
    listed_eq_users_iff 3 hloop (fun c hc => ?_) hsignUps⟩
  rw [hall] at hc
  rw [List.mem_singleton.mp hc]
  exact rfl

end OneClient

end TcpServer

end Megaphone
