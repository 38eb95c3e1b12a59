import Megaphone.Library.Reader
import Megaphone.Network.Request
import Megaphone.System.Decimal

/-!
What the user types (`user_input.c`).

* `Typed`: a line, with what `open` and `fstat` find when it is tried as a path.
* `readstring`, `readint`, `feedNumberManager`, `countNumberManager`, `pseudoManager`,
  `dataManager`, `fileManager`: the functions, as programs that read lines.
* `Taken`: the line that `readstring` takes, and `PathAccepted`: the path that `file_manager` ends
  with.
-/

namespace Megaphone

open Memory

/-! ### Lines -/

/-- `INPUT_SIZE`. -/
def INPUT_SIZE : ℕ := 512

/-- `MAX_FILE_SIZE`. -/
def MAX_FILE_SIZE : ℕ := 2 ^ 25

/-- `UINT16_MAX`, as an `int`. -/
def UINT16_MAX : ℤ := 65535

/-- What `open` and `fstat` find at a path. -/
inductive FileStat
  | noFile
  | noStat
  | size (n : ℕ)

/-- A line that `readline` returns, a string, with what is found when it is tried as a path. -/
structure Typed where
  line : List UInt8
  zero_notMem : 0 ∉ line
  file : FileStat

namespace Typed

/-- A cleared buffer: the empty string, which is no path. -/
def empty : Typed := ⟨[], List.not_mem_nil, .noFile⟩

/-- The buffer of `INPUT_SIZE` bytes, cleared before the line was copied into it. -/
def input (t : Typed) : ℕ → UInt8 := ofList t.line 0

end Typed

/-! ### Strings and numbers -/

/-- `readstring`: blank lines and those that do not fit are passed over. -/
def readstring (inputSize : ℕ) : Reader Typed Typed :=
  .first (Option.guard fun t => t.line ≠ [] ∧ t.line.length < inputSize)

/-- The body of the loop of `readint`: the `int` that is returned, `none` for no integer. -/
def lineInt (t : Typed) : Option ℤ :=
  match strtol t.line with
  | some (inputInteger, []) => some (Int.bmod inputInteger (2 ^ 32))
  | _ => none

/-- `readint`. -/
def readint : Reader Typed ℤ := (readstring INPUT_SIZE).retry lineInt

/-- The loop of `feed_number_manager` and `count_number_manager`, which refuses some numbers. -/
def numberManager (refused : ℤ → Prop) [DecidablePred refused] : Reader Typed UInt16 :=
  readint.retry fun number => if refused number then none else some (.ofInt number)

/-- The numbers that `feed_number_manager` refuses. -/
def FeedRefused (rqType : UInt8) (number : ℤ) : Prop :=
  ¬(number < UINT16_MAX ∧ ¬(number = 0 ∧ (rqType = DOWNLOAD ∨ rqType = SUBSCRIBE)))

instance (rqType : UInt8) : DecidablePred (FeedRefused rqType) :=
  fun _ => inferInstanceAs (Decidable (¬_))

/-- `feed_number_manager`. -/
def feedNumberManager (rqType : UInt8) : Reader Typed UInt16 := numberManager (FeedRefused rqType)

/-- The numbers that `count_number_manager` refuses. -/
def CountRefused (number : ℤ) : Prop := ¬number < UINT16_MAX

instance : DecidablePred CountRefused := fun _ => inferInstanceAs (Decidable (¬_))

/-- `count_number_manager`. -/
def countNumberManager (rqType : UInt8) (ls : List Typed) : Option (UInt16 × List Typed) :=
  if rqType ≠ LASTPOSTS then some (0, ls) else (numberManager CountRefused).run ls

lemma countNumberManager_of_ne {rqType : UInt8} (h : rqType ≠ LASTPOSTS) (ls : List Typed) :
    countNumberManager rqType ls = some (0, ls) :=
  if_pos h

/-! ### Pseudos -/

/-- `isalpha`. -/
def isAlpha (c : UInt8) : Bool := (65 ≤ c && c ≤ 90) || (97 ≤ c && c ≤ 122)

/-- `isalnum`. -/
def isAlnum (c : UInt8) : Bool := isAlpha c || isDigit c

/-- `ACCEPTED_CHAR`, with the zero at its end, which `strrchr` finds too. -/
def ACCEPTED_CHAR : List UInt8 := [46, 45, 95, 0]

/-- The loop of `is_valid_pseudo` from `i` on, for `k` characters at most: where it ends, or `none`
when it returns. -/
def isValidPseudoLoop (pseudo : ℕ → UInt8) : ℕ → ℕ → Option ℕ
  | 0, i => some i
  | k + 1, i =>
      if isAlnum (pseudo i) = false ∧ pseudo i ∉ ACCEPTED_CHAR then none
      else if pseudo i = 0 then some i
      else isValidPseudoLoop pseudo k (i + 1)

/-- `is_valid_pseudo`. -/
def isValidPseudo (pseudo : ℕ → UInt8) : Bool :=
  match isValidPseudoLoop pseudo PSEUDO_LEN 0 with
  | none => false
  | some i => !(i == 1 && !isAlpha (pseudo 0))

/-- `pseudo_manager`: the length is the one of the line. -/
def pseudoManager : Reader Typed Typed :=
  (readstring INPUT_SIZE).retry
    (Option.guard fun t => t.line.length ≤ PSEUDO_LEN ∧ isValidPseudo t.input)

/-! ### Texts and files -/

/-- The size that `data_manager` hands to `readstring`, `none` when it asks for nothing. -/
def dataInputSize (rqType : UInt8) : Option ℕ :=
  if rqType = NEWPOST then some INPUT_SIZE
  else if rqType = UPLOAD then some 230
  else if rqType = DOWNLOAD then some 230
  else none

/-- `data_manager`: the length that is returned, and the line in the buffer. -/
def dataManager (rqType : UInt8) (ls : List Typed) : Option ((UInt8 × Typed) × List Typed) :=
  match dataInputSize rqType with
  | none => some ((0, .empty), ls)
  | some inputSize => do
      let (t, ls) ← (readstring inputSize).run ls
      some ((UInt8.ofNat t.line.length, t), ls)

lemma dataManager_eq {rqType : UInt8} {inputSize : ℕ} (h : dataInputSize rqType = some inputSize)
    (ls : List Typed) :
    dataManager rqType ls = ((readstring inputSize).run ls).map fun p =>
      ((UInt8.ofNat p.1.line.length, p.1), p.2) := by
  simp only [dataManager, h]
  cases (readstring inputSize).run ls with
  | none => rfl
  | some p => rfl

/-- What `file_manager` returns for a path, `none` when it asks for another one. -/
def fileCode : FileStat → Option UInt8
  | .noFile => none
  | .noStat => some 1
  | .size n => if n ≤ MAX_FILE_SIZE ∧ n ≠ 0 then some 0 else none

/-- `file_manager` on the path in the buffer: the code that is returned, and the path that is left
there. -/
def fileManager (fileName : Typed) (ls : List Typed) : Option ((UInt8 × Typed) × List Typed) :=
  (readstring INPUT_SIZE).loop (fun t => (fileCode t.file).map fun code => (code, t)) fileName ls

/-! ### Which line is taken -/

/-- The line is neither blank nor too long. -/
def Typed.Fits (inputSize : ℕ) (t : Typed) : Prop := t.line ≠ [] ∧ t.line.length < inputSize

/-- The line `t` is the first one that fits, and `rest` is behind it. -/
def Taken (inputSize : ℕ) (ls : List Typed) (t : Typed) (rest : List Typed) : Prop :=
  ∃ pre, ls = pre ++ t :: rest ∧ (∀ x ∈ pre, ¬x.Fits inputSize) ∧ t.Fits inputSize

lemma run_readstring {inputSize : ℕ} {ls rest : List Typed} {t : Typed} :
    (readstring inputSize).run ls = some (t, rest) ↔ Taken inputSize ls t rest := by
  refine Reader.firstAccepted_eq_some.trans ?_
  simp only [Option.guard_eq_none_iff, Option.guard_eq_some_iff, decide_eq_true_eq,
    decide_eq_false_iff_not]
  constructor
  · rintro ⟨pre, l, rfl, hpre, rfl, hfits⟩
    exact ⟨pre, rfl, hpre, hfits⟩
  · rintro ⟨pre, rfl, hpre, hfits⟩
    exact ⟨pre, t, rfl, hpre, rfl, hfits⟩

/-- Lines that do not fit do not count. -/
lemma run_readstring_append {inputSize : ℕ} {pre : List Typed}
    (h : ∀ x ∈ pre, ¬x.Fits inputSize) (ls : List Typed) :
    (readstring inputSize).run (pre ++ ls) = (readstring inputSize).run ls := by
  refine Reader.firstAccepted_append (fun x hx => ?_) ls
  rw [Option.guard_eq_none_iff, decide_eq_false_iff_not]
  exact h x hx

/-- `file_manager` is done with the path: it is a file of an accepted size, or one that `fstat`
fails on. -/
def Typed.IsFile (t : Typed) : Prop :=
  t.file = .noStat ∨ ∃ n, t.file = .size n ∧ 0 < n ∧ n ≤ MAX_FILE_SIZE

/-- The path `path` is the first one that `file_manager` is done with, of `fileName` and the lines
that fit. -/
inductive PathAccepted (fileName : Typed) (ls : List Typed) (path : Typed) (rest : List Typed) :
    Prop
  | this : fileName.IsFile → path = fileName → rest = ls → PathAccepted fileName ls path rest
  | typed (pre : List Typed) : ¬fileName.IsFile → ls = pre ++ path :: rest →
      (∀ x ∈ pre, ¬(x.Fits INPUT_SIZE ∧ x.IsFile)) → path.Fits INPUT_SIZE → path.IsFile →
      PathAccepted fileName ls path rest

lemma Typed.isFile_iff (t : Typed) : t.IsFile ↔ ∃ code, fileCode t.file = some code := by
  rw [Typed.IsFile]
  cases t.file with
  | noFile => simp [fileCode]
  | noStat => simp [fileCode]
  | size n =>
      simp [fileCode, Nat.pos_iff_ne_zero, and_comm]

/-- The test of `file_manager` on a line that is read. -/
def checkFile (t : Typed) : Option (UInt8 × Typed) :=
  (Option.guard (fun t => t.line ≠ [] ∧ t.line.length < INPUT_SIZE) t).bind fun t =>
    (fileCode t.file).map fun code => (code, t)

lemma checkFile_eq_some {t path : Typed} {code : UInt8} :
    checkFile t = some (code, path) ↔
      t = path ∧ t.Fits INPUT_SIZE ∧ fileCode t.file = some code := by
  simp only [checkFile, Option.bind_eq_some_iff, Option.guard_eq_some_iff, decide_eq_true_eq,
    Option.map_eq_some_iff, Prod.mk.injEq]
  constructor
  · rintro ⟨t', ⟨rfl, hfits⟩, code', hcode, rfl, rfl⟩
    exact ⟨rfl, hfits, hcode⟩
  · rintro ⟨rfl, hfits, hcode⟩
    exact ⟨t, ⟨rfl, hfits⟩, code, hcode, rfl, rfl⟩

lemma checkFile_eq_none {t : Typed} :
    checkFile t = none ↔ ¬(t.Fits INPUT_SIZE ∧ t.IsFile) := by
  rw [Option.eq_none_iff_forall_ne_some, t.isFile_iff]
  constructor
  · rintro h ⟨hfits, code, hcode⟩
    exact h (code, t) (checkFile_eq_some.mpr ⟨rfl, hfits, hcode⟩)
  · rintro h ⟨code, path⟩ hcheck
    obtain ⟨-, hfits, hcode⟩ := checkFile_eq_some.mp hcheck
    exact h ⟨hfits, code, hcode⟩

lemma exists_fileManager_iff {fileName path : Typed} {ls rest : List Typed} :
    (∃ code, fileManager fileName ls = some ((code, path), rest)) ↔
      PathAccepted fileName ls path rest := by
  have hnone : fileCode fileName.file = none ↔ ¬fileName.IsFile := by
    rw [fileName.isFile_iff, Option.eq_none_iff_forall_ne_some, not_exists]
  simp only [fileManager, readstring, Reader.loop_first_eq_some, Option.map_eq_some_iff,
    Option.map_eq_none_iff, Prod.mk.injEq]
  constructor
  · rintro ⟨code, ⟨⟨code', hcode, rfl, rfl⟩, rfl⟩ | ⟨hcode, hread⟩⟩
    · exact .this (fileName.isFile_iff.mpr ⟨_, hcode⟩) rfl rfl
    · obtain ⟨pre, l, rfl, hpre, hl⟩ := Reader.firstAccepted_eq_some.mp hread
      obtain ⟨rfl, hfits, hfile⟩ := checkFile_eq_some.mp hl
      exact .typed pre (hnone.mp hcode) rfl (fun x hx => checkFile_eq_none.mp (hpre x hx)) hfits
        (l.isFile_iff.mpr ⟨code, hfile⟩)
  · rintro (⟨hfile, rfl, rfl⟩ | ⟨pre, hfile, rfl, hpre, hfits, hpath⟩)
    · obtain ⟨code, hcode⟩ := path.isFile_iff.mp hfile
      exact ⟨code, .inl ⟨⟨code, hcode, rfl, rfl⟩, rfl⟩⟩
    · obtain ⟨code, hcode⟩ := path.isFile_iff.mp hpath
      refine ⟨code, .inr ⟨hnone.mpr hfile, Reader.firstAccepted_eq_some.mpr
        ⟨pre, path, rfl, fun x hx => ?_, ?_⟩⟩⟩
      · exact checkFile_eq_none.mpr (hpre x hx)
      · exact checkFile_eq_some.mpr ⟨rfl, hfits, hcode⟩

end Megaphone
