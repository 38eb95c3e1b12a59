import Megaphone.Library.Machine
import Megaphone.Server.Data

/-!
The accounts of the user on this machine (`user.c`).

* `Accounts`: the table in the file, of `ID_MAX` entries.
* `getNbAccounts`, `addAccount`, `idExist`: the functions, under their own names.
* `Lists`: the entries in front are the accounts of a list, and the others are cleared.
* `step`, `accounts_append_only`: over every run of calls, the table is the list of the accounts
  that have been added.
-/

namespace Megaphone

/-- `user_init`. -/
def userInit (id : UInt16) (pseudo : Pseudo) : User := ⟨id, pseudo⟩

/-- The file of the accounts, as it is mapped. -/
structure Accounts where
  toList : List User
  length_eq : toList.length = ID_MAX

namespace Accounts

/-! ### The functions -/

/-- The file that `load_accounts` makes, which `ftruncate` fills with zeros. -/
def zero : Accounts := ⟨List.replicate ID_MAX CZero.zero, List.length_replicate⟩

/-- The loop of `get_nb_accounts`, from the entry number `nbAccount` on. -/
def getNbAccountsLoop : List User → ℕ → ℕ
  | [], nbAccount => nbAccount
  | user :: users, nbAccount =>
      if user.id ≠ 0 then getNbAccountsLoop users (nbAccount + 1) else nbAccount

/-- `get_nb_accounts`. -/
def getNbAccounts (a : Accounts) : ℕ := getNbAccountsLoop a.toList 0

/-- `add_account`: the return code, and the table. -/
def addAccount (a : Accounts) (id : UInt16) (pseudo : Pseudo) : UInt8 × Accounts :=
  let nbUsers := a.getNbAccounts
  if nbUsers = ID_MAX then (1, a)
  else (0, ⟨a.toList.set nbUsers (userInit id pseudo), List.length_set.trans a.length_eq⟩)

/-- The loop of `id_exist`, over the first `k` of the entries. -/
def idExistLoop (id : UInt16) : List User → ℕ → UInt8
  | _, 0 => 0
  | [], _ + 1 => 0
  | user :: users, k + 1 => if user.id = id then 1 else idExistLoop id users k

/-- `id_exist`. -/
def idExist (a : Accounts) (id : UInt16) : UInt8 := idExistLoop id a.toList a.getNbAccounts

/-! ### Tables and lists -/

/-- The accounts `us` are in the first entries, and nothing is in the others. -/
structure Lists (a : Accounts) (us : List User) : Prop where
  toList_eq : a.toList = us ++ List.replicate (ID_MAX - us.length) CZero.zero
  ne_zero : ∀ u ∈ us, u.id ≠ 0

variable {a : Accounts} {us : List User}

lemma lists_zero : Lists zero [] := ⟨rfl, List.forall_mem_nil _⟩

lemma Lists.length_le (h : Lists a us) : us.length ≤ ID_MAX := by
  have hlength := a.length_eq
  rw [h.toList_eq, List.length_append] at hlength
  omega

/-- The scan ends behind the accounts. -/
lemma getNbAccountsLoop_append (hne : ∀ u ∈ us, u.id ≠ 0) (k n : ℕ) :
    getNbAccountsLoop (us ++ List.replicate k CZero.zero) n = n + us.length := by
  induction us generalizing n with
  | nil =>
      cases k with
      | zero => rfl
      | succ k => exact if_neg (not_not.mpr rfl)
  | cons u us ih =>
      rw [List.cons_append, getNbAccountsLoop, if_pos (hne u List.mem_cons_self),
        ih (fun v hv => hne v (List.mem_cons_of_mem u hv)), List.length_cons]
      omega

lemma Lists.getNbAccounts_eq (h : Lists a us) : a.getNbAccounts = us.length := by
  rw [getNbAccounts, h.toList_eq, getNbAccountsLoop_append h.ne_zero, Nat.zero_add]

/-- The loop of `id_exist` looks at the accounts only. -/
lemma idExistLoop_append (id : UInt16) (us rest : List User) :
    idExistLoop id (us ++ rest) us.length = 1 ↔ ∃ u ∈ us, u.id = id := by
  induction us with
  | nil => simp [idExistLoop]
  | cons u us ih =>
      rw [List.cons_append, List.length_cons, idExistLoop]
      split
      next heq => simp [heq]
      next hne => simp [ih, hne]

lemma Lists.idExist_iff (h : Lists a us) (id : UInt16) :
    a.idExist id = 1 ↔ ∃ u ∈ us, u.id = id := by
  rw [idExist, h.getNbAccounts_eq, h.toList_eq, idExistLoop_append]

/-- **A full table** stays as it is. -/
lemma Lists.addAccount_full (h : Lists a us) (hfull : us.length = ID_MAX) (id : UInt16)
    (pseudo : Pseudo) : a.addAccount id pseudo = (1, a) :=
  if_pos (h.getNbAccounts_eq.trans hfull)

/-- **An account is added** behind the others. -/
lemma Lists.addAccount_room (h : Lists a us) (hroom : us.length < ID_MAX) {id : UInt16}
    (hid : id ≠ 0) (pseudo : Pseudo) :
    (a.addAccount id pseudo).1 = 0 ∧
      Lists (a.addAccount id pseudo).2 (us ++ [userInit id pseudo]) := by
  have hne : a.getNbAccounts ≠ ID_MAX := by
    rw [h.getNbAccounts_eq]
    exact hroom.ne
  rw [addAccount, if_neg hne]
  refine ⟨rfl, ?_, fun u hu => ?_⟩
  · obtain ⟨k, hk⟩ : ∃ k, ID_MAX - us.length = k + 1 := ⟨ID_MAX - us.length - 1, by omega⟩
    have hrest : ID_MAX - (us ++ [userInit id pseudo]).length = k := by
      rw [List.length_append, List.length_singleton]
      omega
    simp only [h.getNbAccounts_eq, h.toList_eq, hk, hrest, List.replicate_succ]
    simp
  · obtain hu | hu := List.mem_append.mp hu
    · exact h.ne_zero u hu
    · rw [List.mem_singleton.mp hu]
      exact hid

/-! ### Runs -/

/-- A call of a function of the table. -/
inductive Call
  | addAccount (id : UInt16) (pseudo : Pseudo)
  | idExist (id : UInt16)

/-- The machine: the output is what the function returns. -/
def step (a : Accounts) : Call → Option (Accounts × UInt8)
  | .addAccount id pseudo => some ((a.addAccount id pseudo).2, (a.addAccount id pseudo).1)
  | .idExist id => some (a, a.idExist id)

/-- One call. -/
abbrev AccountTransition := Machine.Transition Accounts Call UInt8

/-- The account that a call is to add. -/
def Call.account? : Call → Option User
  | .addAccount id pseudo => some (userInit id pseudo)
  | .idExist _ => none

/-- The account that has been added, when 0 has been returned. -/
def added? (t : AccountTransition) : Option User := if t.out = 0 then t.act.account? else none

/-- The table `a` is the append-only list `us`. -/
structure AppendOnly (a : Accounts) (us : List User) : Prop where
  lists : Lists a us
  idExist_iff : ∀ id, a.idExist id = 1 ↔ ∃ u ∈ us, u.id = id
  full_iff : ∀ id pseudo, (a.addAccount id pseudo).1 = 1 ↔ us.length = ID_MAX
  unchanged : ∀ id pseudo, (a.addAccount id pseudo).1 = 1 → (a.addAccount id pseudo).2 = a

lemma Lists.appendOnly (h : Lists a us) : AppendOnly a us := by
  have hfull : ∀ id pseudo, (a.addAccount id pseudo).1 = 1 ↔ us.length = ID_MAX := by
    intro id pseudo
    rw [← h.getNbAccounts_eq, addAccount]
    split
    next heq => exact iff_of_true rfl heq
    next hne => exact iff_of_false (show (0 : UInt8) ≠ 1 by decide) hne
  refine ⟨h, h.idExist_iff, hfull, fun id pseudo hone => ?_⟩
  rw [h.addAccount_full ((hfull id pseudo).mp hone)]

/-- The accounts that the calls are to add, in their order. -/
def requested (ts : List AccountTransition) : List User := ts.filterMap (·.act.account?)

/-- Those that have been added. -/
def added (ts : List AccountTransition) : List User := ts.filterMap added?

/-- **One call** adds its account, if it is to add one and there is room for it. -/
lemma step_lists {c : Call} {a' : Accounts} {o : UInt8} (h : Lists a us)
    (hc : ∀ id pseudo, c = .addAccount id pseudo → id ≠ 0) (hstep : step a c = some (a', o)) :
    Lists a' (us ++ added [⟨a, c, o, a'⟩]) ∧
      added [⟨a, c, o, a'⟩] = (requested [⟨a, c, o, a'⟩]).take (ID_MAX - us.length) := by
  cases c with
  | idExist id =>
      cases hstep
      have hnone : added? ⟨a, .idExist id, a.idExist id, a⟩ = none := ite_self none
      have hadded : added [⟨a, .idExist id, a.idExist id, a⟩] = [] := by simp [added, hnone]
      rw [hadded, List.append_nil]
      exact ⟨h, List.take_nil.symm⟩
  | addAccount id pseudo =>
      cases hstep
      by_cases hfull : us.length = ID_MAX
      · rw [h.addAccount_full hfull]
        have hadded : added [⟨a, .addAccount id pseudo, 1, a⟩] = [] := rfl
        rw [hadded, List.append_nil, hfull, Nat.sub_self, List.take_zero]
        exact ⟨h, rfl⟩
      · have hroom := lt_of_le_of_ne h.length_le hfull
        obtain ⟨hcode, hlists⟩ := h.addAccount_room hroom (hc id pseudo rfl) pseudo
        rw [hcode]
        refine ⟨hlists, (List.take_of_length_le ?_).symm⟩
        show 1 ≤ ID_MAX - us.length
        omega

/-- **A run of calls** adds their accounts, as long as there is room for them. -/
lemma run_lists {ts : List AccountTransition} (hrun : Machine.Run step zero ts a)
    (hts : ∀ t ∈ ts, ∀ id pseudo, t.act = .addAccount id pseudo → id ≠ 0) :
    Lists a (added ts) ∧ added ts = (requested ts).take ID_MAX := by
  refine hrun.history (P := fun ts a => Lists a (added ts) ∧ added ts = (requested ts).take ID_MAX)
    (fun ts a c a' o h hc hstep => ?_) hts ⟨lists_zero, rfl⟩
  obtain ⟨hlists, hadded⟩ := step_lists h.1 hc hstep
  have hrest : ID_MAX - (added ts).length = ID_MAX - (requested ts).length := by
    rw [h.2, List.length_take]
    omega
  have hsplit : added (ts ++ [⟨a, c, o, a'⟩]) = added ts ++ added [⟨a, c, o, a'⟩] :=
    List.filterMap_append
  have hsplit' : requested (ts ++ [⟨a, c, o, a'⟩]) = requested ts ++ requested [⟨a, c, o, a'⟩] :=
    List.filterMap_append
  refine ⟨hsplit ▸ hlists, ?_⟩
  rw [hsplit, hsplit', List.take_append, ← h.2, hadded, hrest]

/-- **The table of the accounts is an append-only list**, over every run of calls from a cleared
table, with identifiers that are not zero: it lists the accounts that have been added, in their
order, and these are the first `ID_MAX` of those that were to be added. -/
theorem accounts_append_only {ts : List AccountTransition} {a : Accounts}
    (hrun : Machine.Run step zero ts a)
    (hts : ∀ t ∈ ts, ∀ id pseudo, t.act = .addAccount id pseudo → id ≠ 0) :
    AppendOnly a (added ts) ∧ added ts = (requested ts).take ID_MAX := by
  obtain ⟨hlists, hadded⟩ := run_lists hrun hts
  exact ⟨hlists.appendOnly, hadded⟩

/-- Two accounts are added, and one is looked up. -/
theorem accounts_append_only_two : ∃ ts a, Machine.Run step zero ts a ∧
    ts.map (·.act) = [.addAccount 1 (.replicate PSEUDO_LEN 97), .idExist 1,
      .addAccount 2 (.replicate PSEUDO_LEN 98)] ∧
    AppendOnly a (added ts) ∧ added ts = (requested ts).take ID_MAX := by
  refine ⟨_, _, .cons rfl (.cons rfl (.cons rfl (.nil _))), rfl, ?_⟩
  refine accounts_append_only (.cons rfl (.cons rfl (.cons rfl (.nil _))))
    fun t ht id pseudo hact => ?_
  simp only [List.mem_cons, List.not_mem_nil, or_false] at ht
  obtain rfl | rfl | rfl := ht
  · cases hact
    decide
  · cases hact
  · cases hact
    decide

end Accounts

end Megaphone
