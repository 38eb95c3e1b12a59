import Megaphone.Client.Data
import Megaphone.Server.Upload

/-!
The order in which the blocks of a file arrive.

* `reassembles_iff_last_block_last`: at the server and at the client, a transfer is complete when
  all blocks have been delivered, and not before, exactly when the last block comes last.
* `OutOfOrder`: two blocks, of which the second comes first.
-/

namespace Megaphone

open Memory

/-- **Reassembly under reordering and loss.**  Some of the packets of a file, in any order and none
of them twice, arrive for a transfer that has just been started.  Every prefix of them leaves the
transfer complete, with the file written and at the server the post made, if all blocks have been
delivered, and going on if not, exactly when at the arrival of the last block all blocks have been
delivered, and at the server the number of the feed, should it be a new one, is a `uint16_t`. -/
theorem reassembles_iff_last_block_last {F : BlockFile} {s : Server} {id : UInt16}
    {infos : FileTransferInfos} {pseudo : Pseudo} (hs : s.Uploading id infos pseudo)
    {ps : List (WorkingEnv × Packet)} (hps : F.Delivers ps) {c : Client}
    (hc : c.transferFile.Fresh) {qs : List (WorkingClientEnv × Packet)} (hqs : F.Delivers qs) :
    (Reassembles (Server.takePacket id) F s (s.StillUploading id)
        (s.Uploaded id infos pseudo F.bytes) ps ↔
      F.LastBlockLast ps ∧ (F.count ∈ numbers ps → s.RoomForFeed infos)) ∧
    (Reassembles Client.takePacket F c c.StillDownloading
        (c.Downloaded c.transferFile.filePath F.bytes (qs.map (·.1))) qs ↔
      F.LastBlockLast qs) :=
  ⟨Server.reassembles_iff hs hps, Client.reassembles_iff hc hqs⟩

namespace OutOfOrder

/-- A full block and one of a single byte. -/
def file : BlockFile where
  blocks := [read (fun _ => 97) 0 FILE_PACKET_SIZE, [98]]
  ne_nil := List.cons_ne_nil _ _
  length_le := by decide
  full b hb := by
    rw [List.mem_singleton.mp hb]
    exact length_read _ _ _
  short := by decide

def first : Packet := ⟨1, fun _ => 97, FILE_PACKET_SIZE⟩

def second : Packet := ⟨2, fun _ => 98, 1⟩

lemma carries_first : file.Carries first := ⟨by decide, rfl⟩

lemma carries_second : file.Carries second := ⟨by decide, rfl⟩

def env : WorkingEnv := ⟨.quiet [], fun _ => rfl, fun _ => rfl, fun _ => rfl⟩

def clientEnv : WorkingClientEnv :=
  ⟨⟨some [], fun _ => true, fun _ => true, fun _ => true, fun _ => true, fun _ => 0⟩,
    fun _ => ⟨_, rfl, rfl, rfl⟩⟩

/-- A server whose user 1 has asked for an upload to a new feed. -/
def server : Server :=
  ((dataInit.userNew 1 (.replicate PSEUDO_LEN 97)).transferNew env.1 1 0 fun _ => 0).getD dataInit

/-- A client who has asked for a download. -/
def client : Client := Client.transferNew 0 ⟨1, by decide, .zero, []⟩ fun _ => 0

lemma uploading :
    server.Uploading 1 (transferInit 0 (fun _ => 0) 0) (.replicate PSEUDO_LEN 97) := by
  refine ⟨by decide, rfl, rfl, fresh_transferInit _ _ _, rfl, Nat.zero_le _, ?_⟩
  show 0 < 2 ^ 64 - 1
  omega

/-- The blocks in their order. -/
lemma delivers {E : Type} (e : E) : file.Delivers [(e, first), (e, second)] := by
  refine ⟨fun q hq => ?_, show [1, 2].Nodup by decide⟩
  rcases List.mem_pair.mp hq with rfl | rfl
  · exact carries_first
  · exact carries_second

lemma lastBlockLast {E : Type} (e : E) : file.LastBlockLast [(e, first), (e, second)] := by
  have hdelivers : file.Delivers ([(e, first)] ++ [(e, second)]) := delivers e
  refine hdelivers.lastBlockLast (fun i h₁ h₂ => ?_) rfl
  show i ∈ [1, 2]
  have h₂' : i ≤ 2 := h₂
  simp
  omega

/-- The second block, without the first. -/
lemma delivers_second {E : Type} (e : E) : file.Delivers [(e, second)] := by
  refine ⟨fun q hq => ?_, show [2].Nodup by decide⟩
  rw [List.mem_singleton.mp hq]
  exact carries_second

/-- The second block, which is the last one, comes without the first. -/
lemma not_lastBlockLast {E : Type} (e : E) : ¬file.LastBlockLast [(e, second)] := fun h =>
  absurd (h [] (e, second) [] rfl rfl 1 le_rfl (by decide))
    (show 1 ∉ [2] by decide)

/-- The second block alone ends the transfer, and what is written is a byte of the first block,
which has not come. -/
theorem not_reassembles :
    ¬Reassembles (Server.takePacket 1) file server (server.StillUploading 1)
      (server.Uploaded 1 (transferInit 0 (fun _ => 0) 0) (.replicate PSEUDO_LEN 97) file.bytes)
      [(env, second)] ∧
    ¬Reassembles Client.takePacket file client client.StillDownloading
      (client.Downloaded client.transferFile.filePath file.bytes [clientEnv])
      [(clientEnv, second)] ∧
    (Client.takePacket client (clientEnv, second)).map (fun c => c.disk.map (·.2)) =
      some [[0]] := by
  refine ⟨fun h => ?_, fun h => ?_, rfl⟩
  · exact not_lastBlockLast env
      ((Server.reassembles_iff uploading (delivers_second env)).mp h).1
  · exact not_lastBlockLast clientEnv
      ((Client.reassembles_iff (fresh_transferInit _ _ _) (delivers_second clientEnv)).mp h)

/-- Both blocks in their order. -/
theorem reassembles_iff_last_block_last_two :
    Reassembles (Server.takePacket 1) file server (server.StillUploading 1)
      (server.Uploaded 1 (transferInit 0 (fun _ => 0) 0) (.replicate PSEUDO_LEN 97) file.bytes)
      [(env, first), (env, second)] ∧
    Reassembles Client.takePacket file client client.StillDownloading
      (client.Downloaded client.transferFile.filePath file.bytes [clientEnv, clientEnv])
      [(clientEnv, first), (clientEnv, second)] := by
  have h := reassembles_iff_last_block_last uploading (delivers env)
    (c := client) (Client.fresh_transferNew 0 _ fun _ => 0) (delivers clientEnv)
  exact ⟨h.1.mpr ⟨lastBlockLast env, fun _ _ => show 0 < 65535 by decide⟩,
    h.2.mpr (lastBlockLast clientEnv)⟩

end OutOfOrder

end Megaphone
