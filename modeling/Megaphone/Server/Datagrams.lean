import Megaphone.Server.Transfers

/-!
Datagrams that belong to no transfer, and the loop of `udp_server.c` that receives them.

* `Server.udpServer`: the loop on a sequence of datagrams.
* `udpServerLoop_eq`: a datagram of at least four bytes, in terms of its bytes.
* `Server.Stray`: a datagram whose user has no active transfer; `addPacket_stray`: what
  `add_packet` does with it.
* `stray_ignored_iff`: it is ignored exactly when its identifier is at most the length of the table.
-/

namespace Megaphone

open Memory

namespace Server

/-- `udp_server_loop` on the datagrams that arrive: whether it is still running, and the state. -/
def udpServer (s : Server) : List (Env × List UInt8) → Option (Bool × Server)
  | [] => some (true, s)
  | (env, datagram) :: ds => do
      let (err, s) ← s.udpServerLoop env datagram
      if err ≠ 0 then some (false, s) else udpServer s ds

/-- The user that a datagram is of. -/
def datagramId (d : List UInt8) : UInt16 := getId (datagramHeader d)

/-- A datagram of an upload that is not going on. -/
structure Stray (s : Server) (d : List UInt8) : Prop where
  four_le : 4 ≤ d.length
  type_eq : getRqType (datagramHeader d) = UPLOAD
  inactive : ∀ infos, s.transferFiles.at? (datagramId d).toNat = some infos → infos.active = false

variable {s : Server} {d : List UInt8}

/-- A datagram of an upload. -/
lemma udpServerLoop_eq (env : Env) (s : Server) (hd : 4 ≤ d.length)
    (htype : getRqType (datagramHeader d) = UPLOAD) :
    s.udpServerLoop env d = s.addPacket env (datagramId d) (datagramNumblock d)
      (write env.junk 0 (datagramPayload d)) (datagramPayload d).length := by
  have hrecv : recvDatagrams (ntohClientrqup env.junk) d = _ := recvDatagrams_eq env.junk hd
  have hsub : sizeSub (4 + (datagramPayload d).length) 4 = (datagramPayload d).length := by
    rw [sizeSub, if_pos (by omega)]
    omega
  rw [udpServerLoop, hrecv]
  simp only [Option.bind_eq_bind, Option.bind_some, handleUploadPacket, htype, ne_eq, not_true,
    if_false, hsub]
  rfl

/-- **A packet of a user without a transfer**: the loop is told to go on, and nothing happens, when
the table reaches up to the user, and it is told to stop when not. -/
lemma addPacket_stray {id : UInt16} (hinv : s.TableInv) (hid : id.toNat ≤ ID_MAX)
    (hinactive : ∀ infos, s.transferFiles.at? id.toNat = some infos → infos.active = false)
    (env : Env) (numblock : UInt16) (data : Block) (nbytes : ℕ) :
    s.addPacket env id numblock data nbytes =
      some (if id.toNat ≤ s.transferFiles.length then 0 else 1, s) := by
  obtain ⟨infos, hat⟩ := hinv.filled id.toNat hid
  have hfree := hinactive infos hat
  by_cases hle : id.toNat ≤ s.transferFiles.length
  · have hget : s.transferFiles.get id.toNat = some id.toNat := by
      rw [CArray.get, if_neg (by omega)]
    rw [addPacket, hget]
    simp only [hat, Option.bind_eq_bind, Option.bind_some, hfree, Bool.false_eq_true, if_false,
      if_pos hle]
    rfl
  · have hget : s.transferFiles.get id.toNat = none := by
      rw [CArray.get, if_pos (by omega)]
    rw [addPacket, hget, if_neg hle]

lemma datagramId_le (d : List UInt8) : (datagramId d).toNat ≤ ID_MAX := by
  have hlt := toNat_getId_lt (datagramHeader d)
  rw [ID_MAX, datagramId]
  omega

lemma Stray.udpServerLoop_eq (hinv : s.TableInv) (hd : s.Stray d) (env : Env) :
    s.udpServerLoop env d =
      some (if (datagramId d).toNat ≤ s.transferFiles.length then 0 else 1, s) := by
  rw [Server.udpServerLoop_eq env s hd.four_le hd.type_eq]
  exact addPacket_stray hinv (datagramId_le d) hd.inactive env _ _ _

/-- The loop on stray datagrams: it goes on as long as the table reaches up to their users. -/
lemma udpServer_stray (hinv : s.TableInv) {ds : List (Env × List UInt8)}
    (hds : ∀ p ∈ ds, s.Stray p.2) :
    s.udpServer ds = some (ds.all fun p => (datagramId p.2).toNat ≤ s.transferFiles.length, s) := by
  induction ds with
  | nil => rfl
  | cons p ds ih =>
      obtain ⟨hp, hds⟩ := List.forall_mem_cons.mp hds
      rw [udpServer, hp.udpServerLoop_eq hinv, List.all_cons]
      by_cases hle : (datagramId p.2).toNat ≤ s.transferFiles.length
      · rw [if_pos hle, decide_eq_true hle, Bool.true_and]
        exact ih hds
      · rw [if_neg hle, decide_eq_false hle, Bool.false_and]
        rfl

/-- **Datagrams without a transfer** are ignored exactly when their identifier is at most the length
of the table, which is the largest identifier that an upload or a download has been asked for with,
plus one.  In every state that a run reaches: `handle_upload_packet` returns 0 and leaves the state
as it is under this condition, and under no other; and `udp_server_loop` is still running after a
sequence of such datagrams, with the state as it was, exactly when the condition holds for each. -/
theorem stray_ignored_iff {w : World} {ts : List ServerTransition}
    (h : Machine.Run step World.init ts w) :
    (∀ env d, w.server.Stray d → (w.server.udpServerLoop env d = some (0, w.server) ↔
      (datagramId d).toNat ≤ w.server.transferFiles.length)) ∧
    ∀ ds : List (Env × List UInt8), (∀ p ∈ ds, w.server.Stray p.2) →
      (w.server.udpServer ds = some (true, w.server) ↔
        ∀ p ∈ ds, (datagramId p.2).toNat ≤ w.server.transferFiles.length) := by
  have hinv := run_table h tableInv_dataInit
  refine ⟨fun env d hd => ?_, fun ds hds => ?_⟩
  · rw [hd.udpServerLoop_eq hinv]
    constructor
    · intro heq
      by_contra hlt
      rw [if_neg hlt] at heq
      exact absurd (congrArg (Option.map Prod.fst) heq) (by simp)
    · intro hle
      rw [if_pos hle]
  · rw [udpServer_stray hinv hds]
    simp only [Option.some.injEq, Prod.mk.injEq, and_true, List.all_eq_true, decide_eq_true_eq]

/-- The datagram of block 1 of an upload of user 1, with an empty payload. -/
def strayOne : List UInt8 := [0, 37, 0, 1]

lemma stray_strayOne : World.init.server.Stray strayOne := by
  refine ⟨le_rfl, by decide, fun infos hat => ?_⟩
  by_contra hactive
  obtain ⟨u, hu, -⟩ := (tableInv_dataInit.backed _ infos hat (by simpa using hactive)).user
  cases hu

/-- A server that has just been started stops receiving datagrams at the first one of user 1. -/
theorem not_stray_ignored : World.init.server.Stray strayOne ∧
    World.init.server.udpServerLoop (.quiet []) strayOne = some (1, World.init.server) ∧
    World.init.server.udpServer [(.quiet [], strayOne)] = some (false, World.init.server) :=
  ⟨stray_strayOne, stray_strayOne.udpServerLoop_eq tableInv_dataInit _,
    udpServer_stray tableInv_dataInit fun p hp => by
      rw [List.mem_singleton.mp hp]
      exact stray_strayOne⟩

/-- At the start, before any transfer. -/
theorem stray_ignored_iff_init : World.init.server.Stray strayOne ∧
    (World.init.server.udpServerLoop (.quiet []) strayOne = some (0, World.init.server) ↔
      (datagramId strayOne).toNat ≤ World.init.server.transferFiles.length) :=
  ⟨stray_strayOne, (stray_ignored_iff (.nil World.init)).1 (.quiet []) strayOne stray_strayOne⟩

end Server

end Megaphone
