import Megaphone.Library.LockOrder

/-!
The mutexes of the server's data (`data.c`): which ones a function locks, by its branches.

* `DataCall`, `calls`: the functions of `data.c` and their calls on the mutexes.
* `ordered_calls`: `add_packet` locks one mutex inside of another, all others one at a time.
* `calls_return`: the threads of the server do not block each other for ever.
-/

namespace Megaphone

/-- `m_users_mutex`, `m_feeds_mutex` and `m_tranfer_mutex`. -/
inductive DataMutex
  | users
  | feeds
  | transfer
  deriving DecidableEq

/-- The branches of `add_packet`. -/
structure PacketBranch where
  /-- `infos != NULL` -/
  found : Bool
  /-- `infos->active` -/
  active : Bool
  /-- `file_data.set` returns an error. -/
  setFails : Bool
  /-- `infos->file_data.length == infos->last_packet` -/
  received : Bool
  /-- `infos->feed_number == 0` -/
  newFeed : Bool
  /-- `array_new` fails in `feed_new`. -/
  arrayFails : Bool
  /-- `append` or `mkdir` fails in `feed_new`. -/
  feedFails : Bool
  /-- `snprintf` fails. -/
  printFails : Bool
  /-- `post_new` returns an error. -/
  postFails : Bool
  /-- `write_file` returns an error. -/
  writeFails : Bool

/-- A call of a function of `data.c`, with what its branches depend on. The other functions use no
mutex. -/
inductive DataCall
  | existId (id : UInt16)
  | userNew
  | getNbUser
  | getPseudo
  | generateNewId (ids : List UInt16)
  | postNew
  | feedNew (arrayFails : Bool)
  | notifNew (appendFails : Bool)
  | getFeeds
  | getFeedsCount
  | transferNew
  | getTranferFilePath
  | idClearTransfer
  | checkTransfersTimeout
  | addPacket (b : PacketBranch)

namespace DataLocks

open LockOrder

/-- A section without a branch that leaves it. -/
def critical (m : DataMutex) : List (Op DataMutex) := [.lock m, .unlock m]

def existId (id : UInt16) : List (Op DataMutex) :=
  if id = 0 then [] else critical .users

def userNew : List (Op DataMutex) := critical .users

def getNbUser : List (Op DataMutex) := critical .users

-- both returns of `get_pseudo` unlock the mutex first
def getPseudo : List (Op DataMutex) := critical .users

/-- `ids` are the identifiers that are drawn. -/
def generateNewId (ids : List UInt16) : List (Op DataMutex) := ids.flatMap existId

def postNew : List (Op DataMutex) := critical .feeds

-- `m_feeds.length` is read once more behind the section, for the path of the directory
def feedNew (arrayFails : Bool) : List (Op DataMutex) :=
  if arrayFails then [] else critical .feeds

def getFeeds : List (Op DataMutex) := critical .feeds

def getFeedsCount : List (Op DataMutex) := critical .feeds

def notifNew (appendFails : Bool) : List (Op DataMutex) :=
  if appendFails then [] else getFeeds

def transferNew : List (Op DataMutex) := critical .transfer

def getTranferFilePath : List (Op DataMutex) := critical .transfer

def idClearTransfer : List (Op DataMutex) := critical .transfer

-- it reads the transfers without their mutex
def checkTransfersTimeout : List (Op DataMutex) := []

/-- The last part of `add_packet`, from `snprintf` on. -/
def postPacket (b : PacketBranch) : List (Op DataMutex) :=
  if b.printFails then [.unlock .transfer]
  else postNew ++
    if b.postFails then [.unlock .transfer]
    else if b.writeFails then [.unlock .transfer]
    else [.unlock .transfer]

/-- Every `return` of `add_packet` has its own `unlock_transfer`. -/
def addPacket (b : PacketBranch) : List (Op DataMutex) :=
  .lock .transfer ::
    if !b.found then [.unlock .transfer]
    else if !b.active then [.unlock .transfer]
    else if b.setFails then [.unlock .transfer]
    else if b.received then
      getPseudo ++
        if b.newFeed then
          feedNew b.arrayFails ++
            if b.arrayFails || b.feedFails then [.unlock .transfer]
            else postPacket b
        else postPacket b
    else [.unlock .transfer]

/-- The calls on the mutexes. -/
def calls : DataCall → List (Op DataMutex)
  | .existId id => existId id
  | .userNew => userNew
  | .getNbUser => getNbUser
  | .getPseudo => getPseudo
  | .generateNewId ids => generateNewId ids
  | .postNew => postNew
  | .feedNew arrayFails => feedNew arrayFails
  | .notifNew appendFails => notifNew appendFails
  | .getFeeds => getFeeds
  | .getFeedsCount => getFeedsCount
  | .transferNew => transferNew
  | .getTranferFilePath => getTranferFilePath
  | .idClearTransfer => idClearTransfer
  | .checkTransfersTimeout => checkTransfersTimeout
  | .addPacket b => addPacket b

/-! ### The order -/

/-- The mutex of the transfers comes first, and no function holds the other two at once. -/
def rank : DataMutex → ℕ
  | .transfer => 0
  | .users => 1
  | .feeds => 1

/-- No mutex is held. -/
def NoneHeld : DataMutex → Prop := fun _ => False

/-- Only the mutex of the transfers is held. -/
def TransferHeld : DataMutex → Prop := fun m => m = .transfer

lemma ordered_nil : Ordered rank NoneHeld [] := fun _ h => h

/-- A section, when no mutex is held. -/
lemma ordered_critical {m : DataMutex} {ops : List (Op DataMutex)}
    (h : Ordered rank NoneHeld ops) : Ordered rank NoneHeld (critical m ++ ops) := by
  refine ⟨fun _ hk => hk.elim, .inl rfl, h.congr fun k => ?_⟩
  exact iff_of_false id fun ⟨hne, hk⟩ => hk.elim hne id

lemma ordered_unlockTransfer : Ordered rank TransferHeld [.unlock .transfer] :=
  ⟨rfl, fun _ hk => hk.1 hk.2⟩

/-- A section on one of the other mutexes, inside of the one on the transfers. -/
lemma ordered_inner {m : DataMutex} {ops : List (Op DataMutex)} (hm : m ≠ .transfer)
    (h : Ordered rank TransferHeld ops) : Ordered rank TransferHeld (critical m ++ ops) := by
  refine ⟨fun k hk => ?_, .inl rfl, h.congr fun k => ?_⟩
  · obtain rfl := hk
    cases m with
    | transfer => exact absurd rfl hm
    | users | feeds => exact Nat.zero_lt_one
  · constructor
    · intro hk
      exact ⟨fun hkm => hm (hkm.symm.trans hk), .inr hk⟩
    · rintro ⟨hne, hk⟩
      exact hk.resolve_left hne

lemma ordered_existId (id : UInt16) {ops : List (Op DataMutex)} (h : Ordered rank NoneHeld ops) :
    Ordered rank NoneHeld (existId id ++ ops) := by
  rw [existId]
  split
  · exact h
  · exact ordered_critical h

lemma ordered_generateNewId (ids : List UInt16) : Ordered rank NoneHeld (generateNewId ids) := by
  induction ids with
  | nil => exact ordered_nil
  | cons id ids ih => exact ordered_existId id ih

lemma ordered_postPacket (b : PacketBranch) : Ordered rank TransferHeld (postPacket b) := by
  rw [postPacket, ite_self, ite_self]
  split
  · exact ordered_unlockTransfer
  · exact ordered_inner nofun ordered_unlockTransfer

lemma ordered_feedNew (arrayFails : Bool) {ops : List (Op DataMutex)}
    (h : Ordered rank TransferHeld ops) :
    Ordered rank TransferHeld (feedNew arrayFails ++ ops) := by
  rw [feedNew]
  split
  · exact h
  · exact ordered_inner nofun h

/-- `add_packet` gives its mutex back in every branch. -/
lemma ordered_addPacket (b : PacketBranch) : Ordered rank NoneHeld (addPacket b) := by
  refine ⟨fun _ hk => hk.elim, Ordered.congr (P := TransferHeld) ?_ fun _ =>
    (or_iff_left id).symm⟩
  split
  · exact ordered_unlockTransfer
  · split
    · exact ordered_unlockTransfer
    · split
      · exact ordered_unlockTransfer
      · split
        · refine ordered_inner nofun ?_
          split
          · refine ordered_feedNew b.arrayFails ?_
            split
            · exact ordered_unlockTransfer
            · exact ordered_postPacket b
          · exact ordered_postPacket b
        · exact ordered_unlockTransfer

/-- **Every function** locks the mutexes in one order, and gives them all back. -/
lemma ordered_calls (f : DataCall) : Ordered rank NoneHeld (calls f) := by
  cases f with
  | existId id =>
      have h := ordered_existId id ordered_nil
      rwa [List.append_nil] at h
  | generateNewId ids => exact ordered_generateNewId ids
  | addPacket b => exact ordered_addPacket b
  | checkTransfersTimeout => exact ordered_nil
  | feedNew fails | notifNew fails =>
      cases fails with
      | true => exact ordered_nil
      | false => exact ordered_critical ordered_nil
  | _ => exact ordered_critical ordered_nil

/-! ### Runs -/

variable {T : Type} [DecidableEq T]

/-- Threads that call the functions of `data.c`. -/
abbrev dataStep (s : Threads T DataMutex) (a : Act T DataCall) :
    Option (Threads T DataMutex × Unit) := step calls s a

/-- Threads, a function call or a call on a mutex, threads. -/
abbrev DataTransition (T : Type) := Machine.Transition (Threads T DataMutex) (Act T DataCall) Unit

/-- **The functions of `data.c` return.** Whatever the threads of the server call, and in whatever
order they go on, a thread unlocks only a mutex that it has locked; and from any state on the
threads go on only so often, until they have all returned and no mutex is locked. -/
theorem calls_return [Fintype T] {s s' : Threads T DataMutex} {ts us : List (DataTransition T)}
    (h : Machine.Run dataStep (init T DataMutex) ts s) (hrun : Machine.Run dataStep s us s')
    (hgo : ∀ tr ∈ us, ∃ t, tr.act = .go t) :
    (∀ tr ∈ ts, ∀ t m ops, tr.act = .go t → tr.pre.todo t = .unlock m :: ops →
        tr.pre.owner m = some t) ∧
      us.length + work s' = work s ∧
      ((∀ t, dataStep s' (.go t) = none) → ∀ t m, s'.todo t = [] ∧ s'.owner m = none) := by
  have hstep : ∀ (s₁ : Threads T DataMutex) a s₂ o, Inv rank s₁ → dataStep s₁ a = some (s₂, o) →
      Inv rank s₂ := fun _ _ _ _ hs hstep => hs.step ordered_calls hstep
  refine ⟨?_, run_go_length hrun hgo, fun hstuck t m => ?_⟩
  · refine h.forall_transition hstep (fun s₁ a s₂ o hs _ t m ops hact htodo => ?_) inv_init
    have hordered := hs t
    rw [htodo] at hordered
    exact hordered.1
  · have hinv : Inv rank s' := hrun.invariant hstep (h.invariant hstep inv_init)
    have hnil := hinv.todo_eq_nil hstuck
    refine ⟨hnil t, ?_⟩
    cases howner : s'.owner m with
    | none => rfl
    | some u =>
        have hordered := hinv u
        rw [hnil u] at hordered
        exact absurd howner (hordered m)

namespace TwoThreads

/-- All packets are received, and the file goes to a new feed. -/
def lastPacket : PacketBranch where
  found := true
  active := true
  setFails := false
  received := true
  newFeed := true
  arrayFails := false
  feedFails := false
  printFails := false
  postFails := false
  writeFails := false

/-- The thread `false` has all packets of a file, `true` is in `get_feeds`. -/
def start : List (Act Bool DataCall) :=
  [.call false (.addPacket lastPacket), .call true .getFeeds, .go false, .go true, .go false,
    .go false]

/-- `false` waits for the mutex of the feeds. -/
lemma exists_run : ∃ ts us s s', Machine.Run dataStep (init Bool DataMutex) ts s ∧
    Machine.Run dataStep s us s' ∧ ts.map (·.act) = start ∧
    us.map (·.act) = [.go true, .go false, .go false, .go false, .go false, .go false] ∧
    dataStep s (.go false) = none ∧ ∀ t, dataStep s' (.go t) = none :=
  ⟨_, _, _, _,
    .cons rfl (.cons rfl (.cons rfl (.cons rfl (.cons rfl (.cons rfl (.nil _)))))),
    .cons rfl (.cons rfl (.cons rfl (.cons rfl (.cons rfl (.cons rfl (.nil _)))))), rfl, rfl, rfl,
    fun t => by cases t <;> rfl⟩

/-- Both return. -/
theorem calls_return_two : ∃ ts us, ∃ s s' : Threads Bool DataMutex,
    Machine.Run dataStep (init Bool DataMutex) ts s ∧ Machine.Run dataStep s us s' ∧
    dataStep s (.go false) = none ∧ work s' = 0 ∧ us.length + work s' = work s ∧
    ∀ t m, s'.todo t = [] ∧ s'.owner m = none := by
  obtain ⟨ts, us, s, s', h, hrun, -, hacts, hwaits, hstuck⟩ := exists_run
  have hgo : ∀ tr ∈ us, ∃ t, tr.act = .go t := by
    intro tr htr
    have hmem : tr.act ∈ us.map (·.act) := List.mem_map_of_mem htr
    rw [hacts] at hmem
    simp only [List.mem_cons, List.not_mem_nil, or_false] at hmem
    obtain h | h | h | h | h | h := hmem <;> exact ⟨_, h⟩
  obtain ⟨-, hlength, hreturn⟩ := calls_return h hrun hgo
  have hnil := hreturn hstuck
  refine ⟨ts, us, s, s', h, hrun, hwaits, ?_, hlength, hnil⟩
  exact Finset.sum_eq_zero fun t _ => by rw [(hnil t .users).1, List.length_nil]

end TwoThreads

end DataLocks

end Megaphone
