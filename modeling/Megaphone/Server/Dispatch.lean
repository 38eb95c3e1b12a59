import Megaphone.Network.Decode
import Megaphone.Server.RequestManager

/-!
The dispatch of the requests that arrive over TCP, whatever bytes a client sends.

* `requestTypes`, `requestIndex`, `InTable`: the table `requests`, and the index at which
  `handle_tcp_request` reads it.
* `dispatch_in_range_iff`: when the index is inside the table.
-/

namespace Megaphone

open Memory Framing

/-- The types that the entries of the table `requests` are for, in its order. -/
def requestTypes : List UInt8 := [REGISTRATION, NEWPOST, LASTPOSTS, SUBSCRIBE, UPLOAD, DOWNLOAD]

/-- The index `clientrq->type - 1`, which is an `int`. -/
def requestIndex (type : UInt8) : ℤ := (type.toNat : ℤ) - 1

/-- The index is inside the table. -/
def InTable (type : UInt8) : Prop :=
  0 ≤ requestIndex type ∧ requestIndex type < requestTypes.length

lemma inTable_iff {type : UInt8} : InTable type ↔ 1 ≤ type.toNat ∧ type.toNat ≤ 6 := by
  have hlen : requestTypes.length = 6 := rfl
  rw [InTable, requestIndex, hlen]
  omega

/-- The entry at an index inside the table is the one for the type. -/
lemma getElem?_requestTypes {type : UInt8} (h : InTable type) :
    requestTypes[(requestIndex type).toNat]? = some type := by
  obtain ⟨hpos, hle⟩ := inTable_iff.mp h
  have hindex : (requestIndex type).toNat = type.toNat - 1 := by
    rw [requestIndex]
    omega
  have htype : type = UInt8.ofNat type.toNat := (UInt8.ofNat_toNat).symm
  rw [hindex]
  generalize type.toNat = n at *
  subst htype
  interval_cases n <;> rfl

/-- Outside of the table there is no handler. -/
lemma handleTcpRequest_eq_none {rq : ClientRQ} (h : ¬InTable rq.type) (env : Env) (s : Server)
    (a : CArray ServerRQ) : s.handleTcpRequest env a rq = none := by
  have hne : ∀ type ∈ requestTypes, rq.type ≠ type := by
    rintro type htype rfl
    refine h (inTable_iff.mpr ?_)
    have hall : (requestTypes.all fun type => 1 ≤ type.toNat ∧ type.toNat ≤ 6) = true := rfl
    simpa using List.all_eq_true.mp hall _ htype
  cases rq with
  | rg rq => exact absurd rfl (hne REGISTRATION (by simp [requestTypes]))
  | cl type htype rq =>
      have hne' : ∀ t ∈ requestTypes, type ≠ t := hne
      rw [Server.handleTcpRequest, Server.requests,
        if_neg (hne' NEWPOST (by simp [requestTypes])),
        if_neg (hne' LASTPOSTS (by simp [requestTypes])),
        if_neg (hne' SUBSCRIBE (by simp [requestTypes])),
        if_neg (hne' UPLOAD (by simp [requestTypes])),
        if_neg (hne' DOWNLOAD (by simp [requestTypes])), Option.map_none]

variable {σ : Type}

/-- The request that a call on a fresh connection returns is decoded from what has arrived. -/
lemma recvClientRequest_leaves {sock : Socket σ} {s : σ} {c : ClientReceived σ} {rq : ClientRQ}
    (h : recvClientRequest sock s .zero = some c) (hrq : c.clientrq = some rq) :
    ∃ r : Received σ, r.Leaves (arriving sock s []) ∧ rq = decodeClientrq r.bytesRq := by
  obtain ⟨r, hr, rfl⟩ := Option.map_eq_some_iff.mp h
  refine ⟨r, (leaves_of_recvRequest clean_zero hr).1, ?_⟩
  split at hrq
  · cases hrq
  · exact (Option.some.inj hrq).symm

/-- The index for a request that is decoded, by the bytes that have arrived. -/
lemma inTable_decode_iff {r : Received σ} {l : List UInt8} (h : r.Leaves l) :
    InTable (decodeClientrq r.bytesRq).type ↔ NamesRequest l := by
  have hsmall : (decodeClientrq r.bytesRq).type.toNat % 32 =
      (decodeClientrq r.bytesRq).type.toNat := by
    rw [type_decodeClientrq, toNat_headType, Nat.mod_mod]
  rw [← type_decode_iff h, inTable_iff, IsType, hsmall]

/-- **Dispatch**: a request that is received on a fresh connection is dispatched inside the table
exactly when the bytes that have arrived name a request, and otherwise there is nothing to answer
it. -/
theorem dispatch_in_range_iff {sock : Socket σ} {s : σ} {c : ClientReceived σ} {rq : ClientRQ}
    (h : recvClientRequest sock s .zero = some c) (hrq : c.clientrq = some rq) :
    (InTable rq.type ↔ NamesRequest (arriving sock s [])) ∧
      (¬InTable rq.type → ∀ env (server : Server) a,
        server.handleTcpRequest env a rq = none) := by
  obtain ⟨r, hleaves, rfl⟩ := recvClientRequest_leaves h hrq
  exact ⟨inTable_decode_iff hleaves, handleTcpRequest_eq_none⟩

/-- A post on a fresh connection. -/
theorem dispatch_in_range_iff_post : ∃ c rq,
    recvClientRequest chunkSocket [[0, 2, 0, 1, 0, 0, 0, CR, LF]] .zero = some c ∧
      c.clientrq = some rq ∧
      (InTable rq.type ↔
        NamesRequest (arriving chunkSocket [[0, 2, 0, 1, 0, 0, 0, CR, LF]] [])) ∧
      (¬InTable rq.type → ∀ env (server : Server) a,
        server.handleTcpRequest env a rq = none) := by
  have hrecv := recvRequest_chunk (f := [0, 2, 0, 1, 0, 0, 0]) (t := [LF]) (by decide) (by decide)
    []
  have hdecode : recvClientRequest chunkSocket [[0, 2, 0, 1, 0, 0, 0, CR, LF]] .zero =
      some ⟨0, some (decodeClientrq (cutFrame [0, 2, 0, 1, 0, 0, 0] [LF])),
        bytesOf (dropLf LF [LF]), []⟩ := by
    rw [recvClientRequest]
    change (recvRequest chunkSocket [[0, 2, 0, 1, 0, 0, 0] ++ CR :: [LF]] .zero).map _ = _
    rw [hrecv]
    rfl
  exact ⟨_, _, hdecode, rfl, dispatch_in_range_iff hdecode rfl⟩

/-- A connection that is closed without a byte: the table is read in front of its first entry. -/
theorem not_inTable_closed : ∃ c rq, recvClientRequest chunkSocket [] .zero = some c ∧
    c.code = 0 ∧ c.clientrq = some rq ∧ requestIndex rq.type = -1 ∧ ¬InTable rq.type ∧
      ∀ env (server : Server) a, server.handleTcpRequest env a rq = none := by
  have hrecv : recvRequest chunkSocket [] .zero = some ⟨.closed, .zero, .zero, [], []⟩ := by
    rw [recvRequest, recvLoop, show BytesRQ.zero.findCR = none from rfl]
    rfl
  have hdecode : recvClientRequest chunkSocket [] .zero =
      some ⟨0, some (decodeClientrq .zero), .zero, []⟩ := by
    rw [recvClientRequest, hrecv]
    rfl
  have hout : ¬InTable (decodeClientrq .zero).type := by
    rw [inTable_iff]
    decide
  exact ⟨_, _, hdecode, rfl, rfl, rfl, hout, handleTcpRequest_eq_none hout⟩

end Megaphone
