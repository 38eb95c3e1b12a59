import Megaphone.Client.RequestManager
import Megaphone.User.Pseudos

/-!
What the client displays of an answer to `LASTPOSTS` (`print_last_post` of `tcp_client.c`).

* `getPseudo`, `getData`, `printLastPost`: the functions, under their own names.
* `IsString`: an array holds a string, with its zero.
* `shows_pseudo_iff`: a pseudo is displayed as it was registered unless it fills its field.
-/

namespace Megaphone

open Memory

namespace Client

/-! ### The functions -/

/-- The loop of `get_pseudo` from `i` on, for `k` bytes at most. -/
def getPseudoLoop (pseudo : ℕ → UInt8) : ℕ → ℕ → (ℕ → UInt8) → ℕ → UInt8
  | 0, _, dst => dst
  | k + 1, i, dst =>
      if pseudo i = 35 then dst else getPseudoLoop pseudo k (i + 1) (write dst i [pseudo i])

/-- `get_pseudo`: the bytes from `dst` on, of which the array has `PSEUDO_LEN`. -/
def getPseudo (dst pseudo : ℕ → UInt8) : ℕ → UInt8 :=
  getPseudoLoop pseudo PSEUDO_LEN 0 (fill dst 0 PSEUDO_LEN 0)

/-- What `get_data` does: the bytes around `dst`, by their index, the indices of `dst` that it
writes, and those of `data` that it reads. -/
structure Copy where
  dst : ℤ → UInt8
  writes : List ℤ
  reads : List ℕ

/-- `dst[i] = c`. -/
def Copy.put (s : Copy) (i : ℤ) (c : UInt8) : Copy :=
  { s with dst := Function.update s.dst i c, writes := s.writes ++ [i] }

/-- `memset(dst, 0, n)`. -/
def Copy.cleared (dst : ℤ → UInt8) (n : ℕ) : Copy :=
  { dst := fun i => if 0 ≤ i ∧ i < n then 0 else dst i
    writes := (List.range n).map fun i : ℕ => (i : ℤ)
    reads := [] }

/-- The loop of `get_data`, for the `k` bytes of `data` from `idData` on; `id` is where the next one
goes. -/
def getDataLoop (data : ℕ → UInt8) : ℕ → ℕ → ℕ → Copy → Copy
  | 0, _, _, s => s
  | k + 1, idData, id, s =>
      let s := { s.put id (data idData) with reads := s.reads ++ [idData] }
      if (id + 1 + 1) % 35 = 0 then
        -- a line break and a space
        getDataLoop data k (idData + 1) (id + 1 + 2)
          ((s.put (id + 1 : ℕ) 10).put (id + 1 + 1 : ℕ) 32)
      else getDataLoop data k (idData + 1) (id + 1) s

/-- `get_data`. -/
def getData (dst : ℤ → UInt8) (data : ℕ → UInt8) (datalen : UInt8) : Copy :=
  (getDataLoop data datalen.toNat 0 0 (.cleared dst datalen.toNat)).put (datalen.toNat - 1) 0

/-- What is displayed of a post.

* `feed`: the number and the array with the creator of its feed, above the first post of a feed;
* `pseudo`: the array with the author;
* `len`: the size of the array with the text;
* `data`: this array, as `get_data` leaves it. -/
structure ShownPost where
  feed : Option (UInt16 × (ℕ → UInt8))
  pseudo : ℕ → UInt8
  len : ℕ
  data : Copy

/-- `len` in `print_last_post`. -/
def lenOf (datalen : UInt8) : ℕ := datalen.toNat + datalen.toNat / 10 + 1

/-- The loop of `print_last_post` from post number `i` on.  The array with the text is a new one for
each post, which holds `junk i`. -/
def printLastPostLoop (junk : ℕ → ℤ → UInt8) :
    List ServerRQLp → ℕ → UInt16 → (ℕ → UInt8) → List ShownPost
  | [], _, _, _ => []
  | lp :: lps, i, feedNb, pseudo =>
      let (feed, feedNb, pseudo) :=
        if feedNb ≠ lp.feedNumber then
          let pseudo := getPseudo pseudo (ofList lp.creator.toList 0)
          (some (lp.feedNumber, pseudo), lp.feedNumber, pseudo)
        else (none, feedNb, pseudo)
      let pseudo := getPseudo pseudo (ofList lp.pseudo.toList 0)
      { feed := feed
        pseudo := pseudo
        len := lenOf lp.datalen
        data := getData (junk i) lp.data (UInt8.ofNat (lenOf lp.datalen)) } ::
        printLastPostLoop junk lps (i + 1) feedNb pseudo

/-- `print_last_post` on the posts behind the header. -/
def printLastPost (junk : ℕ → ℤ → UInt8) (pseudo : ℕ → UInt8) (lps : List ServerRQLp) :
    List ShownPost :=
  printLastPostLoop junk lps 0 0 pseudo

/-- The array of `n` bytes at `m` holds the string `str`, with its zero. -/
structure IsString (m : ℕ → UInt8) (n : ℕ) (str : List UInt8) : Prop where
  zero_notMem : 0 ∉ str
  length_lt : str.length < n
  read_eq : read m 0 (str.length + 1) = str ++ [0]

/-! ### Pseudos -/

/-- The loop copies a string up to a `'#'` behind it, or to the end of the field. -/
lemma getPseudoLoop_eq {m : ℕ → UInt8} {l : List UInt8} (hl : 35 ∉ l)
    (hm : read m 0 l.length = l) {k i : ℕ} (hi : i ≤ l.length) (hlen : l.length ≤ i + k)
    (hend : l.length < i + k → m l.length = 35) (dst : ℕ → UInt8) :
    getPseudoLoop m k i dst = write dst i (l.drop i) := by
  induction k generalizing i dst with
  | zero =>
      obtain rfl : i = l.length := by omega
      rw [getPseudoLoop, List.drop_length, write_nil]
  | succ k ih =>
      rw [getPseudoLoop]
      obtain rfl | hlt := hi.eq_or_lt
      · rw [if_pos (hend (by omega)), List.drop_length, write_nil]
      · have hget : m i = l[i] := by
          have h := getElem?_read m 0 hlt
          rw [hm, List.getElem?_eq_getElem hlt, Nat.zero_add] at h
          exact (Option.some.inj h).symm
        have hne : m i ≠ 35 := by
          rw [hget]
          exact ne_of_mem_of_not_mem (List.getElem_mem hlt) hl
        rw [if_neg hne, ih hlt (by omega) (fun h => hend (by omega)), hget, write_cons,
          ← List.drop_eq_getElem_cons hlt]

/-- A pseudo in the field that `create_rqrg` makes of it, padded with `'#'`. -/
def paddedPseudo (line : List UInt8) : Pseudo :=
  pseudoOfBytes (read (write (fun _ => 35) 0 line) 0 PSEUDO_LEN)

lemma getPseudo_padded {line : List UInt8} (hline : 35 ∉ line) (hlen : line.length ≤ PSEUDO_LEN)
    (dst : ℕ → UInt8) :
    getPseudo dst (ofList (paddedPseudo line).toList 0) =
      write (fill dst 0 PSEUDO_LEN 0) 0 line := by
  have hfield : ∀ i < PSEUDO_LEN, ofList (paddedPseudo line).toList 0 i =
      write (fun _ => 35) 0 line i := by
    intro i hi
    rw [paddedPseudo, toList_pseudoOfBytes (length_read ..), ofList_read _ _ hi]
  refine getPseudoLoop_eq hline ?_ (Nat.zero_le _) (by omega) (fun hlt => ?_) _
  · calc read (ofList (paddedPseudo line).toList 0) 0 line.length
        = read (write (fun _ => 35) 0 line) 0 line.length :=
          read_congr fun i _ hi => hfield i (by omega)
      _ = line := read_write_self ..
  · rw [hfield _ (by omega), write_of_ge _ _ (by omega)]

/-- `get_pseudo` writes to its array only. -/
lemma getPseudoLoop_of_ge (pseudo : ℕ → UInt8) {k i j : ℕ} (hj : i + k ≤ j) (dst : ℕ → UInt8) :
    getPseudoLoop pseudo k i dst j = dst j := by
  induction k generalizing i dst with
  | zero => rfl
  | succ k ih =>
      rw [getPseudoLoop]
      split
      · rfl
      · rw [ih (by omega), write_of_ge dst _ (by simp; omega)]

lemma getPseudo_of_ge (dst pseudo : ℕ → UInt8) {j : ℕ} (hj : PSEUDO_LEN ≤ j) :
    getPseudo dst pseudo j = dst j := by
  rw [getPseudo, getPseudoLoop_of_ge pseudo (by omega), fill, if_neg (by omega)]

lemma isString_padded_iff {t : Typed} (hvalid : t.Valid) (dst : ℕ → UInt8) :
    IsString (getPseudo dst (ofList (paddedPseudo t.line).toList 0)) PSEUDO_LEN t.line ↔
      t.line.length < PSEUDO_LEN := by
  have hhash : 35 ∉ t.line := fun h => absurd (hvalid.chars 35 h) (by decide)
  rw [getPseudo_padded hhash hvalid.length_le]
  refine ⟨fun h => h.length_lt, fun hlt => ⟨t.zero_notMem, hlt, ?_⟩⟩
  rw [read_append, read_write_self, Nat.zero_add, read_one, write_of_ge _ _ (by omega),
    fill_of_mem _ _ (Nat.zero_le _) (by omega)]

/-- **A pseudo is displayed as it was registered** exactly when it does not fill the field, whose
size is the one of the array.  There is nothing written behind the array. -/
theorem shows_pseudo_iff (c : Client) {ls rest : List Typed} {t : Typed}
    (h : pseudoManager.run ls = some (t, rest)) (dst : ℕ → UInt8) :
    ∃ rq, createRqrg c ls = some ((.rg rq, c), rest) ∧
      (∀ j, PSEUDO_LEN ≤ j → getPseudo dst (ofList rq.pseudo.toList 0) j = dst j) ∧
      (IsString (getPseudo dst (ofList rq.pseudo.toList 0)) PSEUDO_LEN t.line ↔
        t.line.length < PSEUDO_LEN) := by
  refine ⟨⟨mkHeader REGISTRATION 0, paddedPseudo t.line⟩, ?_, fun j hj => getPseudo_of_ge dst _ hj,
    isString_padded_iff (valid_of_run h) dst⟩
  simp only [createRqrg, h, Option.bind_eq_bind, Option.bind_some]
  rfl

namespace SomeLines

/-- A pseudo of `k` letters. -/
def letters (k : ℕ) : Typed := line 97 letter_ne k .noFile

lemma run_letters {k : ℕ} (hpos : 1 ≤ k) (hle : k ≤ PSEUDO_LEN) :
    pseudoManager.run [letters k] = some (letters k, []) := by
  have hlen : (letters k).line.length = k := List.length_replicate
  have hmem : ∀ c ∈ (letters k).line, c = 97 := fun c hc => List.eq_of_mem_replicate hc
  refine run_pseudoManager_cons_valid ⟨by omega, by omega, fun c hc => ?_, fun _ => ?_⟩ []
  · rw [hmem c hc]
    rfl
  · exact ⟨97, List.mem_replicate.mpr ⟨by omega, rfl⟩, rfl⟩

end SomeLines

open SomeLines in
/-- A pseudo of ten letters fills the array, without a zero. -/
theorem not_isString_letters :
    pseudoManager.run [letters 10] = some (letters 10, []) ∧
    ∃ rq, createRqrg client [letters 10] = some ((.rg rq, client), []) ∧
      read (getPseudo (fun _ => 1) (ofList rq.pseudo.toList 0)) 0 PSEUDO_LEN =
        (letters 10).line ∧
      ¬IsString (getPseudo (fun _ => 1) (ofList rq.pseudo.toList 0)) PSEUDO_LEN
        (letters 10).line := by
  have hrun := run_letters (k := 10) (by decide) le_rfl
  have hvalid := valid_of_run hrun
  refine ⟨hrun, ⟨mkHeader REGISTRATION 0, paddedPseudo (letters 10).line⟩, ?_, rfl, fun h => ?_⟩
  · simp only [createRqrg, hrun, Option.bind_eq_bind, Option.bind_some]
    rfl
  · exact lt_irrefl 10 ((isString_padded_iff hvalid _).mp h)

open SomeLines in
/-- One of two letters. -/
theorem shows_pseudo_iff_two :
    ∃ rq, createRqrg client [letters 2] = some ((.rg rq, client), []) ∧
      (∀ j, PSEUDO_LEN ≤ j → getPseudo (fun _ => 1) (ofList rq.pseudo.toList 0) j = 1) ∧
      (IsString (getPseudo (fun _ => 1) (ofList rq.pseudo.toList 0)) PSEUDO_LEN
        (letters 2).line ↔ (letters 2).line.length < PSEUDO_LEN) :=
  shows_pseudo_iff client (run_letters (by decide) (by decide)) fun _ => 1

end Client

end Megaphone
