import Megaphone.User.UserInput

/-!
The pseudos that `pseudo_manager` accepts.

* `Typed.IsPseudo`: what its message promises.
* `isValidPseudo_input`, `Typed.Valid`: what `is_valid_pseudo` and the loop accept.
* `ChecksPseudo`, `checks_pseudo_iff`: the two are the same except for the lines of two characters
  or more without a letter.
-/

namespace Megaphone

open Memory

/-- A letter, a digit, or one of `.-_`. -/
def isPseudoChar (c : UInt8) : Bool := isAlnum c || c == 46 || c == 45 || c == 95

/-- What the message says: 10 characters at most, of those that are allowed, and at least one
letter. -/
structure Typed.IsPseudo (t : Typed) : Prop where
  length_pos : 1 ≤ t.line.length
  length_le : t.line.length ≤ PSEUDO_LEN
  chars : ∀ c ∈ t.line, isPseudoChar c = true
  letter : ∃ c ∈ t.line, isAlpha c = true

/-! ### What is accepted -/

/-- The test of the loop, which the zero behind a string passes. -/
lemma passes_iff {c : UInt8} (hc : c ≠ 0) :
    ¬(isAlnum c = false ∧ c ∉ ACCEPTED_CHAR) ↔ isPseudoChar c = true := by
  rw [not_and, not_not, ACCEPTED_CHAR, isPseudoChar]
  cases isAlnum c <;> simp [hc, or_assoc]

/-- The loop ends behind a string of allowed characters, and returns on any other one. -/
lemma isValidPseudoLoop_ofList {l : List UInt8} (hl : 0 ∉ l) (k i : ℕ) (hi : i ≤ l.length)
    (hlen : l.length ≤ i + k) :
    isValidPseudoLoop (ofList l 0) k i =
      if (l.drop i).all isPseudoChar then some l.length else none := by
  induction k generalizing i with
  | zero =>
      obtain rfl : i = l.length := by omega
      simp [isValidPseudoLoop]
  | succ k ih =>
      rw [isValidPseudoLoop]
      obtain rfl | hlt := hi.eq_or_lt
      · rw [ofList_of_ge 0 le_rfl, if_neg (by decide), if_pos rfl]
        simp
      · have hne : l[i] ≠ 0 := ne_of_mem_of_not_mem (List.getElem_mem hlt) hl
        rw [ofList_of_lt 0 hlt, if_neg hne, ih (i + 1) hlt (by omega),
          List.drop_eq_getElem_cons hlt]
        by_cases hchar : isPseudoChar l[i] = true
        · rw [if_neg ((passes_iff hne).mpr hchar)]
          simp only [List.all_cons, hchar, Bool.true_and]
        · rw [if_pos (not_not.mp (mt (passes_iff hne).mp hchar)),
            if_neg fun h => hchar (List.all_eq_true.mp h _ List.mem_cons_self)]

/-- The pseudos that are accepted: the letter is looked for in those of one character only. -/
structure Typed.Valid (t : Typed) : Prop where
  length_pos : 1 ≤ t.line.length
  length_le : t.line.length ≤ PSEUDO_LEN
  chars : ∀ c ∈ t.line, isPseudoChar c = true
  letter : t.line.length = 1 → ∃ c ∈ t.line, isAlpha c = true

/-- `is_valid_pseudo` on a string that is not too long. -/
lemma isValidPseudo_input {t : Typed} (hpos : 1 ≤ t.line.length)
    (hlen : t.line.length ≤ PSEUDO_LEN) : isValidPseudo t.input = true ↔ t.Valid := by
  have hloop := isValidPseudoLoop_ofList t.zero_notMem PSEUDO_LEN 0 (Nat.zero_le _)
    (by rwa [Nat.zero_add])
  rw [List.drop_zero] at hloop
  rw [isValidPseudo, Typed.input, hloop]
  by_cases hchars : ∀ c ∈ t.line, isPseudoChar c = true
  · rw [if_pos (List.all_eq_true.mpr hchars)]
    by_cases hone : t.line.length = 1
    · obtain ⟨c, hc⟩ := List.length_eq_one_iff.mp hone
      have hletter : (∃ c ∈ t.line, isAlpha c = true) ↔ isAlpha c = true := by simp [hc]
      have hfirst : ofList t.line 0 0 = c := by simp [hc, ofList]
      rw [hone, hfirst]
      simp only [beq_self_eq_true, Bool.true_and, Bool.not_not]
      exact ⟨fun h => ⟨hpos, hlen, hchars, fun _ => hletter.mpr h⟩,
        fun h => hletter.mp (h.letter hone)⟩
    · simp only [beq_false_of_ne hone, Bool.false_and, Bool.not_false, true_iff]
      exact ⟨hpos, hlen, hchars, fun h => absurd h hone⟩
  · rw [if_neg (mt List.all_eq_true.mp hchars)]
    exact iff_of_false Bool.false_ne_true fun h => hchars h.chars

/-- What the loop returns for a line. -/
def checkPseudo (t : Typed) : Option Typed :=
  (Option.guard (fun t => t.line ≠ [] ∧ t.line.length < INPUT_SIZE) t).bind
    (Option.guard fun t => t.line.length ≤ PSEUDO_LEN ∧ isValidPseudo t.input)

lemma run_pseudoManager (ls : List Typed) :
    pseudoManager.run ls = Reader.firstAccepted checkPseudo ls := by
  rw [pseudoManager, readstring, Reader.retry_first]
  rfl

lemma checkPseudo_eq_some {t t' : Typed} : checkPseudo t = some t' ↔ t = t' ∧ t.Valid := by
  simp only [checkPseudo, Option.bind_eq_some_iff, Option.guard_eq_some_iff, decide_eq_true_eq]
  constructor
  · rintro ⟨t₁, ⟨rfl, hne, -⟩, rfl, hlen, hvalid⟩
    exact ⟨rfl, (isValidPseudo_input (List.length_pos_iff.mpr hne) hlen).mp hvalid⟩
  · rintro ⟨rfl, h⟩
    exact ⟨t, ⟨rfl, List.length_pos_iff.mp h.length_pos, lt_of_le_of_lt h.length_le (by decide)⟩,
      rfl, h.length_le, (isValidPseudo_input h.length_pos h.length_le).mpr h⟩

/-- A valid line ends `pseudo_manager`, whatever is typed behind it. -/
lemma run_pseudoManager_cons_valid {t : Typed} (h : t.Valid) (ls : List Typed) :
    pseudoManager.run (t :: ls) = some (t, ls) := by
  rw [run_pseudoManager]
  exact Reader.firstAccepted_cons_some (checkPseudo_eq_some.mpr ⟨rfl, h⟩) ls

/-- Another one is passed over. -/
lemma run_pseudoManager_cons_not_valid {t : Typed} (h : ¬t.Valid) (ls : List Typed) :
    pseudoManager.run (t :: ls) = pseudoManager.run ls := by
  have hnone : checkPseudo t = none :=
    Option.eq_none_iff_forall_ne_some.mpr fun t' ht => h (checkPseudo_eq_some.mp ht).2
  rw [run_pseudoManager, run_pseudoManager, Reader.firstAccepted_cons_none hnone]

/-- The pseudo that is returned is valid. -/
lemma valid_of_run {ls rest : List Typed} {t : Typed} (h : pseudoManager.run ls = some (t, rest)) :
    t.Valid := by
  rw [run_pseudoManager, Reader.firstAccepted_eq_some] at h
  obtain ⟨pre, l, -, -, hl⟩ := h
  obtain ⟨rfl, hvalid⟩ := checkPseudo_eq_some.mp hl
  exact hvalid

/-! ### When it is what the message says -/

/-- A line is accepted, whatever is typed behind it, or asked for again, as the message says. -/
structure ChecksPseudo (t : Typed) : Prop where
  accepts : t.IsPseudo → ∀ ls, pseudoManager.run (t :: ls) = some (t, ls)
  refuses : ¬t.IsPseudo → ∀ ls, pseudoManager.run (t :: ls) = pseudoManager.run ls

lemma checksPseudo_iff_valid {t : Typed} : ChecksPseudo t ↔ (t.Valid ↔ t.IsPseudo) := by
  constructor
  · intro h
    constructor
    · intro hvalid
      by_contra hnot
      have hrun := h.refuses hnot []
      rw [run_pseudoManager_cons_valid hvalid, run_pseudoManager] at hrun
      cases hrun
    · intro hpseudo
      exact valid_of_run (h.accepts hpseudo [])
  · intro h
    exact ⟨fun hpseudo => run_pseudoManager_cons_valid (h.mpr hpseudo),
      fun hnot => run_pseudoManager_cons_not_valid (mt h.mp hnot)⟩

/-- **The check of a pseudo** is the one that the message promises, except for a line of two
characters or more, all of them allowed, without a letter. -/
theorem checks_pseudo_iff (t : Typed) :
    ChecksPseudo t ↔
      ¬(2 ≤ t.line.length ∧ t.line.length ≤ PSEUDO_LEN ∧
        (∀ c ∈ t.line, isPseudoChar c = true) ∧ ∀ c ∈ t.line, isAlpha c = false) := by
  rw [checksPseudo_iff_valid]
  constructor
  · rintro h ⟨htwo, hlen, hchars, hletter⟩
    have hvalid : t.Valid := ⟨by omega, hlen, hchars, fun hone => by omega⟩
    obtain ⟨c, hc, halpha⟩ := (h.mp hvalid).letter
    rw [hletter c hc] at halpha
    cases halpha
  · intro h
    constructor
    · intro hvalid
      refine ⟨hvalid.length_pos, hvalid.length_le, hvalid.chars, ?_⟩
      by_contra hnone
      refine h ⟨?_, hvalid.length_le, hvalid.chars, fun c hc => ?_⟩
      · exact Nat.lt_of_le_of_ne hvalid.length_pos fun heq => hnone (hvalid.letter heq.symm)
      · exact Bool.eq_false_iff.mpr fun halpha => hnone ⟨c, hc, halpha⟩
    · intro hpseudo
      exact ⟨hpseudo.length_pos, hpseudo.length_le, hpseudo.chars, fun _ => hpseudo.letter⟩

lemma zero_notMem_digits : 0 ∉ [(49 : UInt8), 50] := by decide

/-- The line `12`. -/
def digits : Typed := ⟨[49, 50], zero_notMem_digits, .noFile⟩

lemma mem_digits {c : UInt8} (hc : c ∈ digits.line) : c = 49 ∨ c = 50 := by
  simpa [digits] using hc

/-- The pseudo `12` is accepted. -/
theorem not_checksPseudo :
    pseudoManager.run [digits] = some (digits, []) ∧ ¬digits.IsPseudo ∧ ¬ChecksPseudo digits := by
  have hnot : ¬digits.IsPseudo := by
    intro h
    obtain ⟨c, hc, halpha⟩ := h.letter
    obtain rfl | rfl := mem_digits hc
    · cases halpha
    · cases halpha
  have hvalid : digits.Valid := by
    refine ⟨by decide, by decide, fun c hc => ?_, fun hone => by cases hone⟩
    obtain rfl | rfl := mem_digits hc
    · rfl
    · rfl
  exact ⟨run_pseudoManager_cons_valid hvalid [], hnot,
    fun h => hnot ((checksPseudo_iff_valid.mp h).mp hvalid)⟩

end Megaphone
