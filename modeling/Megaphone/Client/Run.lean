import Megaphone.Client.Data
import Megaphone.Server.Blocks

/-!
The client as a machine: the downloads that it asks for and the datagrams of `udp_client.c`, in any
order.

* `Client.checkTransferTimeout`, `Client.clearCurrentTransfer`: the functions, under their own
  names.
* `ClientInput`, `Client.step`: what may happen to the transfer, and the machine.
* `Client.addPacket_transferFile`: what a packet leaves of the transfer.
* `Client.run_blocks`: the invariant of its blocks over every run.
-/

namespace Megaphone

/-- What may happen to the transfer of a client: a download begins, or is given up, it is checked
for a timeout, or a datagram arrives. -/
inductive ClientInput
  | download (now : ℕ) (fileName : ℕ → UInt8)
  | clear
  | timeout (now : ℕ)
  | udp (env : ClientEnv) (datagram : List UInt8)

namespace Client

/-- `clear_current_transfer`. -/
def clearCurrentTransfer (c : Client) : Client :=
  { c with transferFile := transferClear c.transferFile }

/-- `check_transfer_timeout` at the time `now`: the return code and the state. -/
def checkTransferTimeout (now : ℕ) (c : Client) : UInt8 × Client :=
  if c.transferFile.active ∧ now - c.transferFile.begin > FT_TIMEOUT_SEC then
    (1, c.clearCurrentTransfer)
  else (0, c)

/-- The machine, whose output is the return code for a datagram. -/
def step (c : Client) : ClientInput → Option (Client × Option Int8)
  | .download now fileName => some (c.transferNew now fileName, none)
  | .clear => some (c.clearCurrentTransfer, none)
  | .timeout now => some ((c.checkTransferTimeout now).2, none)
  | .udp env datagram => (c.handleReadyFds env datagram).map fun p => (p.2, some p.1)

variable {env : ClientEnv} {c c' : Client}

lemma transferFile_writeFile {infos : FileTransferInfos} {r : UInt8 × Client}
    (h : c.writeFile env infos = some r) : r.2.transferFile = c.transferFile := by
  obtain ⟨path, -, h⟩ := Option.bind_eq_some_iff.mp h
  cases path with
  | none =>
      cases h
      rfl
  | some path =>
      simp only at h
      split at h
      · split at h
        · obtain ⟨bytes, -, rfl⟩ := Option.map_eq_some_iff.mp h
          rfl
        · cases h
      · cases h
        rfl

/-- **A packet** leaves the transfer as it is, stores a block, or ends it. -/
lemma addPacket_transferFile {numblock : UInt16} {data : Block} {nbytes : ℕ} {r : Int8 × Client}
    (h : c.addPacket env numblock data nbytes = some r) :
    (r.2 = c ∧ c.transferFile.active = false) ∨
      ∃ infos, c.transferFile.record numblock data nbytes = some infos ∧
        (r.2.transferFile = infos ∨ infos.received = true ∧ r.2.transferFile = .zero) := by
  rw [addPacket] at h
  split at h
  · obtain ⟨infos, hrecord, h⟩ := Option.bind_eq_some_iff.mp h
    refine .inr ⟨infos, hrecord, ?_⟩
    split at h
    next hreceived =>
      obtain ⟨w, hw, h⟩ := Option.bind_eq_some_iff.mp h
      have hfile := transferFile_writeFile hw
      by_cases herr : w.1 ≠ 0
      · simp only [if_pos herr] at h
        cases h
        exact .inl hfile
      · simp only [if_neg herr] at h
        cases h
        exact .inr ⟨hreceived, rfl⟩
    next =>
      cases h
      exact .inl rfl
  next hfree =>
    cases h
    exact .inl ⟨rfl, by simpa using hfree⟩

/-- The blocks of a transfer: their array is well formed, and there is storage for at most 65535 of
them. -/
structure BlocksInv (c : Client) : Prop where
  wf : c.transferFile.fileData.Wf
  capacity_le : c.transferFile.fileData.capacity ≤ 65535

lemma blocksInv_zero (h : c.transferFile = .zero) : c.BlocksInv := by
  refine ⟨?_, ?_⟩
  · rw [h]
    exact ⟨rfl, le_rfl⟩
  · rw [h]
    exact Nat.zero_le _

/-- **The blocks, one step.** -/
lemma step_blocks {i : ClientInput} {out : Option Int8} (hc : c.BlocksInv)
    (h : c.step i = some (c', out)) : c'.BlocksInv := by
  cases i with
  | download now fileName =>
      obtain ⟨rfl, rfl⟩ := Prod.mk.inj (Option.some.inj h)
      refine ⟨CArray.wf_arrayNew 0, ?_⟩
      show INIT_CAP ≤ 65535
      rw [INIT_CAP]
      omega
  | clear =>
      obtain ⟨rfl, rfl⟩ := Prod.mk.inj (Option.some.inj h)
      exact blocksInv_zero rfl
  | timeout now =>
      obtain ⟨rfl, rfl⟩ := Prod.mk.inj (Option.some.inj h)
      rw [checkTransferTimeout]
      split
      · exact blocksInv_zero rfl
      · exact hc
  | udp env datagram =>
      obtain ⟨r, hr, heq⟩ := Option.map_eq_some_iff.mp h
      obtain ⟨rfl, rfl⟩ := Prod.mk.inj heq
      obtain ⟨⟨type, ft, nbytes⟩, -, hp⟩ := Option.bind_eq_some_iff.mp hr
      simp only [handleDownloadPacket] at hp
      split at hp
      · cases hp
        exact hc
      split at hp
      · cases hp
        exact hc
      · obtain ⟨heq, -⟩ | ⟨infos, hrecord, heq | ⟨-, heq⟩⟩ := addPacket_transferFile hp
        · rw [heq]
          exact hc
        · refine ⟨?_, ?_⟩
          · rw [heq]
            exact (Server.record_eq_some hrecord).2.2 hc.wf
          · rw [heq]
            exact FileTransferInfos.capacity_record hc.capacity_le hrecord
        · exact blocksInv_zero heq

/-- The blocks over a run. -/
lemma run_blocks {ts : List (Machine.Transition Client ClientInput (Option Int8))}
    (h : Machine.Run step c ts c') (hc : c.transferFile = .zero) : c'.BlocksInv :=
  h.invariant (P := BlocksInv) (fun _ _ _ _ hc hs => step_blocks hc hs) (blocksInv_zero hc)

end Client

end Megaphone
