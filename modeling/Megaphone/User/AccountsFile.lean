import Megaphone.User.Accounts

/-!
The file of the accounts, shared by all clients on this machine (`user.c`, with `lock_rdwr` and
`unlock_rdwr`).

* `AccountsFile`: the table, the locks of the processes on the file, and where each process is.
* `setWrite`, `setRead`: the two calls of `fcntl` in `lock_rdwr`, whose results nobody looks at.
* `step`, `StepCase`, `step_cases`: the processes in any order.
* `Excludes`: a lock is one for writing only between the two calls.
* `Loses`, `accounts_shared_iff`: when the table lists the accounts that have been added.
-/

namespace Megaphone

/-- A lock on the file. -/
inductive FileLock
  | read
  | write
  deriving DecidableEq

/-- A call of a function that locks the file. -/
inductive FileCall
  | addAccount (id : UInt16) (pseudo : Pseudo)
  | idExist (id : UInt16)
  | showAccounts

/-- Where a process is.

* `lockWrite`, `lockRead`: in `lock_rdwr`, before one of its calls of `fcntl`;
* `count`: before `get_nb_accounts`; `use`: behind it, with the number of accounts;
* `unlock`: before `unlock_rdwr`, with the result. -/
inductive FileLoc
  | idle
  | lockWrite (c : FileCall)
  | lockRead (c : FileCall)
  | count (c : FileCall)
  | use (c : FileCall) (nbUsers : ℕ)
  | unlock (result : UInt8)

/-- The file, as `n` processes have it mapped. -/
structure AccountsFile (n : ℕ) where
  table : Accounts
  locks : Fin n → Option FileLock
  loc : Fin n → FileLoc

/-- A process calls a function, or goes on. -/
inductive FileAct (n : ℕ)
  | call (p : Fin n) (c : FileCall)
  | go (p : Fin n)

namespace AccountsFile

variable {n : ℕ}

/-! ### The steps -/

/-- `F_SETLK` with `F_WRLCK`, which fails when another process has a lock. -/
def setWrite (s : AccountsFile n) (p : Fin n) : Fin n → Option FileLock :=
  if ∀ q, q ≠ p → s.locks q = none then Function.update s.locks p (some .write) else s.locks

/-- `F_SETLK` with `F_RDLCK`, which fails when another process has a lock for writing. -/
def setRead (s : AccountsFile n) (p : Fin n) : Fin n → Option FileLock :=
  if ∀ q, q ≠ p → s.locks q ≠ some .write then Function.update s.locks p (some .read) else s.locks

/-- A process goes on elsewhere. -/
def goto (s : AccountsFile n) (p : Fin n) (loc : FileLoc) : AccountsFile n :=
  { s with loc := Function.update s.loc p loc }

/-- Writing an entry of the table. -/
def put (s : AccountsFile n) (nbUsers : ℕ) (user : User) : AccountsFile n :=
  { s with table := ⟨s.table.toList.set nbUsers user, List.length_set.trans s.table.length_eq⟩ }

/-- `get_nb_accounts`; `show_accounts` returns at once when there is none, and keeps its lock. -/
def countStep (s : AccountsFile n) (p : Fin n) (c : FileCall) : AccountsFile n × Option UInt8 :=
  match c with
  | .showAccounts =>
      if s.table.getNbAccounts = 0 then (s.goto p .idle, some 1)
      else (s.goto p (.use c s.table.getNbAccounts), none)
  | _ => (s.goto p (.use c s.table.getNbAccounts), none)

/-- What a function does with the number of accounts. -/
def useStep (s : AccountsFile n) (p : Fin n) (nbUsers : ℕ) : FileCall → AccountsFile n
  | .addAccount id pseudo =>
      if nbUsers = ID_MAX then s.goto p (.unlock 1)
      else (s.put nbUsers (userInit id pseudo)).goto p (.unlock 0)
  | .idExist id => s.goto p (.unlock (Accounts.idExistLoop id s.table.toList nbUsers))
  | .showAccounts => s.goto p (.unlock 0)

/-- The machine, whose output is what a function returns. -/
def step (s : AccountsFile n) : FileAct n → Option (AccountsFile n × Option UInt8)
  | .call p c => match s.loc p with
      | .idle => some (s.goto p (.lockWrite c), none)
      | _ => none
  | .go p => match s.loc p with
      | .idle => none
      | .lockWrite c => some ({ s.goto p (.lockRead c) with locks := s.setWrite p }, none)
      | .lockRead c => some ({ s.goto p (.count c) with locks := s.setRead p }, none)
      | .count c => some (s.countStep p c)
      | .use c nbUsers => some (s.useStep p nbUsers c, none)
      | .unlock result =>
          some ({ s.goto p .idle with locks := Function.update s.locks p none }, some result)

/-- The processes behind `load_accounts`. -/
def start (n : ℕ) (a : Accounts) : AccountsFile n := ⟨a, fun _ => none, fun _ => .idle⟩

/-! ### What a step is -/

variable {s s' : AccountsFile n} {a : FileAct n} {out : Option UInt8}

/-- What a step is.

* `locks`, `reads`, `unlocks`: the calls of `fcntl`;
* `counts`, `adds`: an account is about to be added or looked for, and an account is added;
* `moves`: the process goes on without either. -/
inductive StepCase (s : AccountsFile n) : FileAct n → AccountsFile n → Prop
  | locks {p : Fin n} {c : FileCall} (hloc : s.loc p = .lockWrite c) :
      StepCase s (.go p) { s.goto p (.lockRead c) with locks := s.setWrite p }
  | reads {p : Fin n} {c : FileCall} (hloc : s.loc p = .lockRead c) :
      StepCase s (.go p) { s.goto p (.count c) with locks := s.setRead p }
  | unlocks {p : Fin n} {result : UInt8} (hloc : s.loc p = .unlock result) :
      StepCase s (.go p) { s.goto p .idle with locks := Function.update s.locks p none }
  | counts {p : Fin n} {c : FileCall} (hloc : s.loc p = .count c) :
      StepCase s (.go p) (s.goto p (.use c s.table.getNbAccounts))
  | adds {p : Fin n} {id : UInt16} {pseudo : Pseudo} {nbUsers : ℕ}
      (hloc : s.loc p = .use (.addAccount id pseudo) nbUsers) (hroom : nbUsers ≠ ID_MAX) :
      StepCase s (.go p) ((s.put nbUsers (userInit id pseudo)).goto p (.unlock 0))
  | moves {a : FileAct n} {p : Fin n} {loc : FileLoc}
      (hadd : ∀ id pseudo nbUsers, a = .go p → s.loc p = .use (.addAccount id pseudo) nbUsers →
        nbUsers = ID_MAX)
      (hact : a = .go p ∨ ∃ c, a = .call p c) (hpre : ∀ c, s.loc p ≠ .lockRead c)
      (hloc : ∀ c nbUsers, loc ≠ .use c nbUsers) :
      StepCase s a (s.goto p loc)

/-- **One step.** -/
lemma step_cases (h : s.step a = some (s', out)) : StepCase s a s' := by
  cases a with
  | call p c =>
      rw [step] at h
      split at h
      next hloc =>
        cases h
        exact .moves nofun (.inr ⟨c, rfl⟩) (by rw [hloc]; nofun) nofun
      next => cases h
  | go p =>
      rw [step] at h
      split at h
      next => cases h
      next c hloc =>
        cases h
        exact .locks hloc
      next c hloc =>
        cases h
        exact .reads hloc
      next c hloc =>
        cases c with
        | showAccounts =>
            simp only [countStep] at h
            split at h
            · cases h
              exact .moves (by rw [hloc]; nofun) (.inl rfl) (by rw [hloc]; nofun) nofun
            · cases h
              exact .counts hloc
        | _ =>
            cases h
            exact .counts hloc
      next c nbUsers hloc =>
        cases c with
        | addAccount id pseudo =>
            simp only [useStep] at h
            split at h
            next hfull =>
              cases h
              refine .moves (fun id' pseudo' nb' _ hloc' => ?_) (.inl rfl) (by rw [hloc]; nofun)
                nofun
              rw [hloc] at hloc'
              cases hloc'
              exact hfull
            next hroom =>
              cases h
              exact .adds hloc hroom
        | _ =>
            cases h
            exact .moves (by rw [hloc]; nofun) (.inl rfl) (by rw [hloc]; nofun) nofun
      next result hloc =>
        cases h
        exact .unlocks hloc

/-! ### The locks -/

/-- A lock for writing is held in `lock_rdwr` only, and then alone. -/
def Excludes (s : AccountsFile n) : Prop :=
  ∀ p, s.locks p = some .write → (∃ c, s.loc p = .lockRead c) ∧ ∀ q, q ≠ p → s.locks q = none

lemma loc_goto_of_ne {p q : Fin n} (h : q ≠ p) (loc : FileLoc) : (s.goto p loc).loc q = s.loc q :=
  Function.update_of_ne h _ _

/-- A process that is not before its second call of `fcntl` goes on. -/
lemma Excludes.goto (h : s.Excludes) {p : Fin n} (hp : ∀ c, s.loc p ≠ .lockRead c)
    (loc : FileLoc) : (s.goto p loc).Excludes := by
  intro r hr
  obtain ⟨⟨c, hc⟩, hothers⟩ := h r hr
  have hne : r ≠ p := fun heq => hp c (heq ▸ hc)
  exact ⟨⟨c, by rw [loc_goto_of_ne hne, hc]⟩, hothers⟩

/-- The first call of `fcntl` gives the lock for writing when no other process has one. -/
lemma Excludes.lockWrite {p : Fin n} {c : FileCall} (h : s.Excludes)
    (hloc : s.loc p = .lockWrite c) :
    Excludes { s.goto p (.lockRead c) with locks := s.setWrite p } := by
  rw [Excludes, setWrite]
  split
  next hnone =>
    intro r hr
    by_cases heq : r = p
    · subst heq
      refine ⟨⟨c, Function.update_self _ _ _⟩, fun q hq => ?_⟩
      exact (Function.update_of_ne hq _ _).trans (hnone q hq)
    · have hr' : s.locks r = some .write := (Function.update_of_ne heq _ _).symm.trans hr
      rw [hnone r heq] at hr'
      cases hr'
  next => exact h.goto (fun c' => by rw [hloc]; nofun) _

/-- The second one gives a lock for reading in place of it. -/
lemma Excludes.lockRead {p : Fin n} {c : FileCall} (h : s.Excludes) :
    Excludes { s.goto p (.count c) with locks := s.setRead p } := by
  rw [Excludes, setRead]
  split
  next hno =>
    intro r hr
    by_cases heq : r = p
    · subst heq
      have hr' : some FileLock.read = some .write :=
        (Function.update_self r _ s.locks).symm.trans hr
      cases hr'
    · exact absurd ((Function.update_of_ne heq _ _).symm.trans hr) (hno r heq)
  next hsome =>
    -- another process writes, so this one has no lock
    intro r hr
    obtain ⟨⟨c', hc'⟩, hothers⟩ := h r hr
    have hne : r ≠ p := by
      rintro rfl
      refine hsome fun q hq => ?_
      rw [hothers q hq]
      nofun
    exact ⟨⟨c', by rw [← hc']; exact loc_goto_of_ne hne _⟩, hothers⟩

lemma Excludes.unlock {p : Fin n} (h : s.Excludes) :
    Excludes { s.goto p .idle with locks := Function.update s.locks p none } := by
  intro r hr
  have hne : r ≠ p := by
    rintro rfl
    have hr' : none = some FileLock.write := (Function.update_self r _ s.locks).symm.trans hr
    cases hr'
  obtain ⟨⟨c, hc⟩, hothers⟩ := h r ((Function.update_of_ne hne _ _).symm.trans hr)
  refine ⟨⟨c, by rw [← hc]; exact loc_goto_of_ne hne _⟩, fun q hq => ?_⟩
  by_cases heq : q = p
  · subst heq
    exact Function.update_self _ _ _
  · exact (Function.update_of_ne heq _ _).trans (hothers q hq)

lemma Excludes.step (h : s.Excludes) (hstep : StepCase s a s') : s'.Excludes := by
  cases hstep with
  | locks hloc => exact h.lockWrite hloc
  | reads hloc => exact h.lockRead
  | unlocks hloc => exact h.unlock
  | counts hloc => exact h.goto (fun c' => by rw [hloc]; nofun) _
  | @adds p id pseudo nbUsers hloc hroom =>
      have hput : (s.put nbUsers (userInit id pseudo)).Excludes := h
      exact hput.goto (fun c' => by rw [show (s.put _ _).loc p = s.loc p from rfl, hloc]; nofun) _
  | moves hadd hact hpre hloc => exact h.goto hpre _

/-! ### The accounts -/

/-- A transition. -/
abbrev FileTransition (n : ℕ) := Machine.Transition (AccountsFile n) (FileAct n) (Option UInt8)

/-- The account that a transition writes to the table. -/
def added? (t : FileTransition n) : Option User :=
  match t.act with
  | .call _ _ => none
  | .go p =>
      match t.pre.loc p with
      | .use (.addAccount id pseudo) nbUsers =>
          if nbUsers = ID_MAX then none else some (userInit id pseudo)
      | _ => none

/-- Those of a run. -/
def added (ts : List (FileTransition n)) : List User := ts.filterMap added?

/-- An account is lost: it has no identifier, or it is written where another one has been added
since the accounts have been counted. -/
inductive Loses (t : FileTransition n) : Prop
  | mk {p : Fin n} {id : UInt16} {pseudo : Pseudo} {nbUsers : ℕ} (hact : t.act = .go p)
      (hloc : t.pre.loc p = .use (.addAccount id pseudo) nbUsers) (hroom : nbUsers ≠ ID_MAX)
      (hlost : id = 0 ∨ nbUsers ≠ t.pre.table.getNbAccounts)

/-- **One step** writes one account at most. -/
lemma table_cases (h : StepCase s a s') (out : Option UInt8) :
    (added? ⟨s, a, out, s'⟩ = none ∧ s'.table = s.table) ∨
      ∃ p id pseudo nbUsers, a = .go p ∧ s.loc p = .use (.addAccount id pseudo) nbUsers ∧
        nbUsers ≠ ID_MAX ∧ added? ⟨s, a, out, s'⟩ = some (userInit id pseudo) ∧
        s'.table = (s.put nbUsers (userInit id pseudo)).table := by
  cases h with
  | locks hloc => exact .inl ⟨by simp [added?, hloc], rfl⟩
  | reads hloc => exact .inl ⟨by simp [added?, hloc], rfl⟩
  | unlocks hloc => exact .inl ⟨by simp [added?, hloc], rfl⟩
  | counts hloc => exact .inl ⟨by simp [added?, hloc], rfl⟩
  | @adds p id pseudo nbUsers hloc hroom =>
      exact .inr ⟨p, id, pseudo, nbUsers, rfl, hloc, hroom, by simp [added?, hloc, hroom], rfl⟩
  | @moves a p loc hadd hact hpre hloc =>
      refine .inl ⟨?_, rfl⟩
      obtain rfl | ⟨c, rfl⟩ := hact
      · rw [added?]
        split
        next => rfl
        next q hq =>
          cases hq
          split
          next id pseudo nbUsers huse => exact if_pos (hadd id pseudo nbUsers rfl huse)
          next => rfl
      · rfl

variable {us : List User}

/-- An account with an identifier is added behind the others. -/
lemma lists_put (h : s.table.Lists us) {id : UInt16} (hid : id ≠ 0) (pseudo : Pseudo)
    (hroom : s.table.getNbAccounts ≠ ID_MAX) :
    (s.put s.table.getNbAccounts (userInit id pseudo)).table.Lists
      (us ++ [userInit id pseudo]) := by
  have hlt : us.length < ID_MAX := by
    rw [h.getNbAccounts_eq] at hroom
    exact lt_of_le_of_ne h.length_le hroom
  have hlists := (h.addAccount_room hlt hid pseudo).2
  rwa [Accounts.addAccount, if_neg hroom] at hlists

/-- An account that is lost is not behind the others. -/
lemma not_lists_put (h : s.table.Lists us) {user : User} {nbUsers : ℕ}
    (hlost : user.id = 0 ∨ nbUsers ≠ us.length) :
    ¬(s.put nbUsers user).table.Lists (us ++ [user]) := by
  intro hlists
  have hid : user.id ≠ 0 := hlists.ne_zero user (by simp)
  obtain hzero | hne := hlost
  · exact hid hzero
  · have hroom := hlists.length_le
    rw [List.length_append, List.length_singleton] at hroom
    obtain ⟨k, hk⟩ : ∃ k, ID_MAX - us.length = k + 1 := ⟨ID_MAX - us.length - 1, by omega⟩
    -- the entry behind the list is still clear
    have hput : (s.put nbUsers user).table.toList[us.length]? = some CZero.zero := by
      show (s.table.toList.set nbUsers user)[us.length]? = _
      rw [List.getElem?_set_ne hne, h.toList_eq, hk, List.replicate_succ,
        List.getElem?_append_right le_rfl, Nat.sub_self]
      rfl
    rw [hlists.toList_eq, List.append_assoc, List.getElem?_append_right le_rfl, Nat.sub_self]
      at hput
    have huser : user = CZero.zero := Option.some.inj hput
    exact hid (by rw [huser]; rfl)

lemma added_concat (ts : List (FileTransition n)) (t : FileTransition n) :
    added (ts ++ [t]) = added ts ++ (added? t).toList := by
  rw [added, List.filterMap_append, added]
  cases h : added? t <;> simp [h]

/-- **One step** without a loss. -/
lemma lists_step (h : s.table.Lists us) (hstep : StepCase s a s')
    (hloses : ¬Loses (⟨s, a, out, s'⟩ : FileTransition n)) :
    s'.table.Lists (us ++ (added? ⟨s, a, out, s'⟩).toList) := by
  obtain ⟨hnone, htable⟩ | ⟨p, id, pseudo, nbUsers, rfl, hloc, hroom, hsome, htable⟩ :=
    table_cases hstep out
  · rw [hnone, htable]
    show s.table.Lists (us ++ [])
    rwa [List.append_nil]
  · have hid : id ≠ 0 := fun hzero => hloses (.mk rfl hloc hroom (.inl hzero))
    have hnb : nbUsers = s.table.getNbAccounts := by
      by_contra hne
      exact hloses (.mk rfl hloc hroom (.inr hne))
    subst hnb
    rw [hsome, htable]
    exact lists_put h hid pseudo hroom

/-- **A loss.** -/
lemma not_lists_step (h : s.table.Lists us) (hstep : StepCase s a s')
    (hloses : Loses (⟨s, a, out, s'⟩ : FileTransition n)) :
    ¬s'.table.Lists (us ++ (added? ⟨s, a, out, s'⟩).toList) := by
  cases hloses with
  | @mk p id pseudo nbUsers hact hloc hroom hlost =>
      replace hact : a = .go p := hact
      replace hloc : s.loc p = .use (.addAccount id pseudo) nbUsers := hloc
      subst hact
      obtain ⟨hnone, -⟩ | ⟨q, id', pseudo', nbUsers', hq, hloc', -, hsome, htable⟩ :=
        table_cases hstep out
      · simp [added?, hloc, hroom] at hnone
      · obtain rfl : p = q := FileAct.go.inj hq
        rw [hloc] at hloc'
        cases hloc'
        rw [hsome, htable]
        refine not_lists_put h ?_
        rwa [← h.getNbAccounts_eq]

/-- **The accounts of all clients.**  Over every run of any number of processes that add, look for
and show accounts in one file, in any order of their steps, the table lists in every state the
accounts that were there, followed by those that have been added, exactly when no step loses one: an
account without an identifier, or one that is written where another has been added since the
accounts have been counted.  The locks do not keep a process from that, as one for writing is held
only inside of `lock_rdwr`. -/
theorem accounts_shared_iff {vs : List User} {table : Accounts} (hvs : table.Lists vs)
    {ts : List (FileTransition n)} (h : Machine.Run step (start n table) ts s) :
    ((∀ us s₁, us <+: ts → Machine.Run step (start n table) us s₁ →
        s₁.table.Lists (vs ++ added us)) ↔ ∀ t ∈ ts, ¬Loses t) ∧
      ∀ p, s.locks p = some .write → ∃ c, s.loc p = .lockRead c := by
  constructor
  · have hstart : table.Lists (vs ++ added ([] : List (FileTransition n))) := by
      rwa [show added ([] : List (FileTransition n)) = [] from rfl, List.append_nil]
    refine Machine.Run.forall_prefix_iff (P := fun us s => s.table.Lists (vs ++ added us))
      (H := fun us s => s.table.Lists (vs ++ added us)) (fun _ _ hs => hs)
      (fun us s₁ a s₂ o hs hstep hloses => ?_) (fun us s₁ a s₂ o hs hstep hloses => ?_) h hstart
    · rw [added_concat, ← List.append_assoc]
      exact not_lists_step hs (step_cases hstep) hloses
    · rw [added_concat, ← List.append_assoc]
      exact lists_step hs (step_cases hstep) hloses
  · have hexcludes : s.Excludes := h.invariant (P := Excludes)
      (fun s₁ a s₂ o hs hstep => hs.step (step_cases hstep)) nofun
    exact fun p hp => (hexcludes p hp).1

namespace TwoClients

/-- Two clients register at the same time. -/
def acts : List (FileAct 2) :=
  [.call 0 (.addAccount 1 (.replicate PSEUDO_LEN 97)), .go 0, .go 0,
    .call 1 (.addAccount 2 (.replicate PSEUDO_LEN 98)), .go 1, .go 1, .go 0, .go 1, .go 0, .go 1]

lemma exists_run : ∃ ts s, Machine.Run step (start 2 .zero) ts s ∧ ts.map (·.act) = acts ∧
    added ts = [userInit 1 (.replicate PSEUDO_LEN 97), userInit 2 (.replicate PSEUDO_LEN 98)] ∧
    s.table.toList[1]? = some CZero.zero :=
  ⟨_, _, .cons rfl (.cons rfl (.cons rfl (.cons rfl (.cons rfl (.cons rfl (.cons rfl (.cons rfl
    (.cons rfl (.cons rfl (.nil _)))))))))), rfl, rfl, rfl⟩

/-- One of the two accounts is lost. -/
theorem accounts_shared_iff_two : ∃ ts s, Machine.Run step (start 2 .zero) ts s ∧
    ts.map (·.act) = acts ∧ ¬s.table.Lists ([] ++ added ts) ∧
    ((∀ us s₁, us <+: ts → Machine.Run step (start 2 .zero) us s₁ →
        s₁.table.Lists ([] ++ added us)) ↔ ∀ t ∈ ts, ¬Loses t) := by
  obtain ⟨ts, s, hrun, hacts, hadded, hclear⟩ := exists_run
  refine ⟨ts, s, hrun, hacts, fun hlists => ?_, (accounts_shared_iff Accounts.lists_zero hrun).1⟩
  rw [hadded] at hlists
  rw [hlists.toList_eq] at hclear
  have hid : (2 : UInt16) = 0 := congrArg User.id (Option.some.inj hclear)
  exact absurd hid (by decide)

end TwoClients

end AccountsFile

end Megaphone
