import Mathlib.Data.List.DropRight
import Mathlib.Tactic

/-!
Paths, and the directories that they lead to when there are no links.

* `Component`: the directory itself, the one above it, or an entry.
* `resolve`: where components lead from a directory; the root is above itself.
* `Climb`: so many levels up, and then down through entries; `reduce`: what components come down to.
* `resolve_eq_walk`: components lead where their climb leads.
* `inside_resolve_iff`: they lead inside the directory exactly when the climb comes down through the
  levels that it has gone up, and on.
* `components`, `find`: the components of a path, and what is found at it.
-/

namespace Paths

variable {α : Type}

/-! ### Components -/

/-- A component of a path. -/
inductive Component (α : Type)
  | here
  | up
  | entry (a : α)
  deriving DecidableEq

/-- Where a component leads from the directory that `dir` are the entries to. -/
def Component.walk (dir : List α) : Component α → List α
  | .here => dir
  | .up => dir.dropLast
  | .entry a => dir ++ [a]

/-- Where components lead from a directory. -/
def resolve (dir : List α) (cs : List (Component α)) : List α := cs.foldl Component.walk dir

lemma resolve_append (dir : List α) (cs cs' : List (Component α)) :
    resolve dir (cs ++ cs') = resolve (resolve dir cs) cs' :=
  List.foldl_append

lemma resolve_concat (dir : List α) (cs : List (Component α)) (c : Component α) :
    resolve dir (cs ++ [c]) = c.walk (resolve dir cs) := by
  rw [resolve_append]
  rfl

/-- The file or directory `p` is inside the directory `dir`. -/
def Inside (dir p : List α) : Prop := ∃ l ≠ [], p = dir ++ l

lemma inside_append_iff (dir l l' : List α) : Inside (dir ++ l) (dir ++ l') ↔ Inside l l' := by
  simp only [Inside, List.append_assoc, List.append_cancel_left_eq]

/-! ### Climbs -/

/-- So many levels up, and then down through the entries. -/
structure Climb (α : Type) where
  levels : ℕ
  entries : List α

namespace Climb

/-- Where a climb leads from a directory. -/
def walk (c : Climb α) (dir : List α) : List α := dir.rdrop c.levels ++ c.entries

/-- The climb with one more component. -/
def next (c : Climb α) : Component α → Climb α
  | .here => c
  | .up => if c.entries = [] then ⟨c.levels + 1, []⟩ else ⟨c.levels, c.entries.dropLast⟩
  | .entry a => ⟨c.levels, c.entries ++ [a]⟩

lemma rdrop_succ (l : List α) (n : ℕ) : l.rdrop (n + 1) = (l.rdrop n).dropLast := by
  rw [List.rdrop, List.rdrop, List.dropLast_eq_take, List.take_take, List.length_take]
  congr 1
  omega

lemma walk_next (c : Climb α) (dir : List α) (x : Component α) :
    (c.next x).walk dir = x.walk (c.walk dir) := by
  cases x with
  | here => rfl
  | entry a => exact (List.append_assoc _ _ _).symm
  | up =>
      rw [next, Component.walk]
      split
      next hnil =>
        calc dir.rdrop (c.levels + 1) ++ []
            = (dir.rdrop c.levels).dropLast := by rw [List.append_nil, rdrop_succ]
          _ = (c.walk dir).dropLast := by rw [walk, hnil, List.append_nil]
      next hne =>
        calc dir.rdrop c.levels ++ c.entries.dropLast
            = (dir.rdrop c.levels ++ c.entries).dropLast :=
              (List.dropLast_append_of_ne_nil hne).symm
          _ = (c.walk dir).dropLast := rfl

/-- The climb comes down through the levels of `dir` that it has gone up, and on. -/
def ComesBack (c : Climb α) (dir : List α) : Prop :=
  Inside (dir.drop (dir.length - c.levels)) c.entries

/-- **A climb leads inside the directory** exactly when it comes back. -/
lemma inside_walk_iff (c : Climb α) (dir : List α) : Inside dir (c.walk dir) ↔ c.ComesBack dir := by
  have hdir : dir.rdrop c.levels ++ dir.drop (dir.length - c.levels) = dir :=
    List.take_append_drop _ _
  have hiff := inside_append_iff (dir.rdrop c.levels) (dir.drop (dir.length - c.levels)) c.entries
  rwa [hdir] at hiff

end Climb

/-- What components come down to. -/
def reduce (cs : List (Component α)) : Climb α := cs.foldl Climb.next ⟨0, []⟩

lemma reduce_concat (cs : List (Component α)) (c : Component α) :
    reduce (cs ++ [c]) = (reduce cs).next c := by
  rw [reduce, List.foldl_append]
  rfl

/-- **Components lead where their climb leads.** -/
theorem resolve_eq_walk (dir : List α) (cs : List (Component α)) :
    resolve dir cs = (reduce cs).walk dir := by
  induction cs using List.reverseRecOn with
  | nil =>
      show dir = dir.rdrop 0 ++ []
      rw [List.rdrop_zero, List.append_nil]
  | append_singleton cs c ih =>
      calc resolve dir (cs ++ [c])
          = c.walk (resolve dir cs) := resolve_concat dir cs c
        _ = c.walk ((reduce cs).walk dir) := by rw [ih]
        _ = ((reduce cs).next c).walk dir := (Climb.walk_next _ dir c).symm
        _ = (reduce (cs ++ [c])).walk dir := by rw [reduce_concat]

/-- **Components lead inside the directory** exactly when their climb comes back. -/
theorem inside_resolve_iff (dir : List α) (cs : List (Component α)) :
    Inside dir (resolve dir cs) ↔ (reduce cs).ComesBack dir := by
  rw [resolve_eq_walk, Climb.inside_walk_iff]

/-! ### The components of a path -/

variable [DecidableEq α]

/-- What stands between two separators; `dot` is the dot. -/
def ofPart (dot : α) (part : List α) : Component (List α) :=
  if part = [] ∨ part = [dot] then .here
  else if part = [dot, dot] then .up
  else .entry part

/-- The components of a path, which `sep` separates. -/
def components (sep dot : α) (path : List α) : List (Component (List α)) :=
  (path.splitOn sep).map (ofPart dot)

/-- What is found at a path by a process in the directory `cwd`.  A path that begins with a
separator begins at the root. -/
def find (sep dot : α) (cwd : List (List α)) (path : List α) : List (List α) :=
  resolve (if path.head? = some sep then [] else cwd) (components sep dot path)

variable {sep dot : α}

lemma components_append (path path' : List α) :
    components sep dot (path ++ sep :: path') =
      components sep dot path ++ components sep dot path' := by
  rw [components, List.splitOn_append_cons_self, List.map_append]
  rfl

lemma components_of_notMem {part : List α} (hsep : sep ∉ part) :
    components sep dot part = [ofPart dot part] := by
  rw [components, List.splitOn_eq_singleton hsep, List.map_singleton]

/-- A part that is not empty and has no dots is an entry. -/
lemma ofPart_of_notMem {part : List α} (hne : part ≠ []) (hdot : dot ∉ part) :
    ofPart dot part = .entry part := by
  have hhere : ¬(part = [] ∨ part = [dot]) := by
    rintro (rfl | rfl)
    · exact hne rfl
    · exact hdot List.mem_cons_self
  have hup : part ≠ [dot, dot] := by
    rintro rfl
    exact hdot List.mem_cons_self
  rw [ofPart, if_neg hhere, if_neg hup]

/-- What is behind a path is found from the directory at the path. -/
lemma find_append {path : List α} (hne : path ≠ []) (cwd : List (List α)) (path' : List α) :
    find sep dot cwd (path ++ sep :: path') =
      resolve (find sep dot cwd path) (components sep dot path') := by
  rw [find, find, components_append, resolve_append, List.head?_append_of_ne_nil path hne]

/-- A part is found in the directory at the path in front of it. -/
lemma find_append_part {path part : List α} (hpath : path ≠ []) (hsep : sep ∉ part)
    (hne : part ≠ []) (hdot : dot ∉ part) (cwd : List (List α)) :
    find sep dot cwd (path ++ sep :: part) = find sep dot cwd path ++ [part] := by
  rw [find_append hpath, components_of_notMem hsep, ofPart_of_notMem hne hdot]
  rfl

/-- **What is behind a path** is found inside the directory at the path exactly when the climb of
its components comes back. -/
theorem inside_find_iff {path : List α} (hne : path ≠ []) (cwd : List (List α)) (path' : List α) :
    Inside (find sep dot cwd path) (find sep dot cwd (path ++ sep :: path')) ↔
      (reduce (components sep dot path')).ComesBack (find sep dot cwd path) := by
  rw [find_append hne, inside_resolve_iff]

end Paths
