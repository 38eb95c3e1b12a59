import Mathlib.Data.List.DropRight
import Megaphone.Client.Data
import Megaphone.User.Numbers

/-!
The requests that the client makes of what the user types (`create_request` of
`request_manager.c`).

* `createRqrg`, `createRqdl`, `createRequest`: the functions, under their own names.
* `PathsTyped`: what is typed for an upload, the first path and the accepted one, and
  `upload_announced_iff`: when the upload is announced under the name of the accepted one.
* `SendsPostWhole`, `post_sent_whole_iff`: when a post is sent as it was typed.
-/

namespace Megaphone

open Memory

/-! ### The functions -/

/-- What the outside decides while a request is made.

* `now`: the time;
* `data`: the bytes in `clientrq->cl.data` before;
* `address`: the socket and the port that `create_transfer_address` gets, `none` when it fails;
* `sin6Port`: what is in the address when it fails. -/
structure RequestEnv where
  now : ℕ
  data : ℕ → UInt8
  address : Option (ℕ × UInt16)
  sin6Port : UInt16

/-- `strrchr`. -/
def strrchr (str : List UInt8) (c : UInt8) : Option (List UInt8) :=
  if c ∈ str then some (c :: str.rtakeWhile (· ≠ c)) else none

/-- The end of the branch for uploads: the part behind the last `'/'` is moved to the front. -/
def stripDirectory (input : Typed) : ℕ → UInt8 :=
  match strrchr input.line 47 with
  | none => input.input
  | some slash => write input.input 0 (slash.tail ++ [0])

namespace Client

/-- `create_rqrg`. -/
def createRqrg (c : Client) (ls : List Typed) : Option ((ClientRQ × Client) × List Typed) := do
  let (pseudo, ls) ← pseudoManager.run ls
  let field := write (fun _ => 35) 0 pseudo.line
  some ((.rg ⟨mkHeader REGISTRATION 0, pseudoOfBytes (read field 0 PSEUDO_LEN)⟩, c), ls)

/-- `create_transfer_address`: the port in the address, and the state. -/
def createTransferAddress (env : RequestEnv) (c : Client) : UInt16 × Client :=
  match env.address with
  | none => (env.sin6Port, c)
  | some (sfd, port) =>
      (port, if c.transferFile.active then
          { c with transferFile := { c.transferFile with sfd := sfd } }
        else c)

/-- `create_rqdl`. -/
def createRqdl (env : RequestEnv) (c : Client) (id : UInt16) (ls : List Typed) :
    Option ((ClientRQCl × Client) × List Typed) := do
  let (feedNumber, ls) ← (feedNumberManager DOWNLOAD).run ls
  let ((datalen, fileName), ls) ← dataManager DOWNLOAD ls
  let (port, c) := createTransferAddress env (c.transferNew env.now fileName.input)
  some (({ header := mkHeader DOWNLOAD id
           feedNumber := feedNumber
           count := ntohs port
           datalen := datalen
           data := write env.data 0 (strncpy fileName.input datalen.toNat) }, c), ls)

/-- The part of `create_request` for the other types. -/
def createRqcl (env : RequestEnv) (c : Client) (type : UInt8) (id : UInt16) (ls : List Typed) :
    Option ((ClientRQCl × Client) × List Typed) := do
  let (feedNumber, ls) ← (feedNumberManager type).run ls
  let (count, ls) ← countNumberManager type ls
  let ((datalen, line), ls) ← dataManager type ls
  let (input, c, ls) ←
    if type = UPLOAD then do
      let ((_, path), ls) ← fileManager line ls
      some (stripDirectory path, c.transferNew env.now path.input, ls)
    else some (line.input, c, ls)
  some (({ header := mkHeader type id
           feedNumber := feedNumber
           count := count
           datalen := datalen
           data := write env.data 0 (read input 0 datalen.toNat) }, c), ls)

/-- `create_request`: the request, the state and the lines that are left. -/
def createRequest (env : RequestEnv) (c : Client) (type : UInt8) (id : UInt16) (ls : List Typed) :
    Option ((ClientRQ × Client) × List Typed) :=
  if h : type = REGISTRATION then createRqrg c ls
  else
    (if type = DOWNLOAD then createRqdl env c id ls else createRqcl env c type id ls).map
      fun p => ((.cl type h p.1.1, p.1.2), p.2)

end Client

/-! ### Names of files -/

/-- The part of a path behind the last `'/'`. -/
def baseName (path : List UInt8) : List UInt8 := path.rtakeWhile (· ≠ 47)

lemma zero_notMem_baseName (t : Typed) : 0 ∉ baseName t.line :=
  fun h => t.zero_notMem ((List.rtakeWhile_suffix _ _).subset h)

/-- The buffer of a line, with the zero behind it. -/
lemma read_input (t : Typed) : read t.input 0 (t.line.length + 1) = t.line ++ [0] := by
  rw [read_append, Typed.input, read_ofList, Nat.zero_add, read_one, ofList_of_ge 0 le_rfl]

/-- The directory is stripped off. -/
lemma read_stripDirectory (t : Typed) :
    read (stripDirectory t) 0 ((baseName t.line).length + 1) = baseName t.line ++ [0] := by
  by_cases hslash : 47 ∈ t.line
  · have hstrip : stripDirectory t = write t.input 0 (baseName t.line ++ [0]) := by
      simp only [stripDirectory, strrchr, if_pos hslash]
      rfl
    have hread := read_write_self t.input 0 (baseName t.line ++ [0])
    rw [List.length_append, List.length_singleton] at hread
    rw [hstrip, hread]
  · have hstrip : stripDirectory t = t.input := by
      simp only [stripDirectory, strrchr, if_neg hslash]
    have hbase : baseName t.line = t.line := by
      refine List.rtakeWhile_eq_self_iff.mpr fun b hb => ?_
      rw [decide_eq_true_eq]
      rintro rfl
      exact hslash hb
    rw [hstrip, hbase, read_input]

namespace Client

variable {env : RequestEnv} {c : Client} {id : UInt16} {ls : List Typed}

/-! ### Uploads -/

/-- What is typed for an upload: a feed number, a first path, and the path that `file_manager`
accepts. -/
inductive PathsTyped (ls : List Typed) (first path : Typed) (rest : List Typed) : Prop
  | intro {feedNumber ls₁ ls₂} : (feedNumberManager UPLOAD).run ls = some (feedNumber, ls₁) →
      Taken 230 ls₁ first ls₂ → PathAccepted first ls₂ path rest → PathsTyped ls first path rest

/-- The upload is announced under the name of the file at `path`, and it is this file that is
sent. -/
structure AnnouncesPath (rq : ClientRQCl) (c : Client) (path : List UInt8) : Prop where
  name : cString rq.data rq.datalen.toNat = baseName path
  file : cString c.transferFile.filePath MAX_DATALEN = path

/-- The request for an upload of what is typed. -/
def uploadRequest (env : RequestEnv) (id feedNumber : UInt16) (first path : Typed) : ClientRQCl :=
  { header := mkHeader UPLOAD id
    feedNumber := feedNumber
    count := 0
    datalen := UInt8.ofNat first.line.length
    data := write env.data 0 (read (stripDirectory path) 0
      (UInt8.ofNat first.line.length).toNat) }

lemma createRequest_upload_eq :
    createRequest env c UPLOAD id ls =
      ((feedNumberManager UPLOAD).run ls).bind fun f =>
        ((readstring 230).run f.2).bind fun t =>
          (fileManager t.1 t.2).map fun q =>
            ((.cl UPLOAD upload_ne (uploadRequest env id f.1 t.1 q.1.2),
              c.transferNew env.now q.1.2.input), q.2) := by
  rw [createRequest, dif_neg upload_ne, if_neg (by decide), createRqcl]
  cases (feedNumberManager UPLOAD).run ls with
  | none => rfl
  | some f =>
      obtain ⟨feedNumber, ls₁⟩ := f
      simp only [countNumberManager_of_ne (show UPLOAD ≠ LASTPOSTS by decide),
        dataManager_eq (show dataInputSize UPLOAD = some 230 by decide), Option.bind_eq_bind,
        Option.bind_some, if_true]
      cases (readstring 230).run ls₁ with
      | none => rfl
      | some t =>
          obtain ⟨first, ls₂⟩ := t
          simp only [Option.map_some, Option.bind_some]
          cases fileManager first ls₂ with
          | none => rfl
          | some q => rfl

/-- **`create_request` for an upload** returns exactly when the paths have been typed. -/
lemma pathsTyped_of_createRequest {p : (ClientRQ × Client) × List Typed}
    (h : createRequest env c UPLOAD id ls = some p) :
    ∃ first path, PathsTyped ls first path p.2 := by
  rw [createRequest_upload_eq] at h
  obtain ⟨f, hfeed, h⟩ := Option.bind_eq_some_iff.mp h
  obtain ⟨t, hfirst, h⟩ := Option.bind_eq_some_iff.mp h
  obtain ⟨q, hpath, rfl⟩ := Option.map_eq_some_iff.mp h
  exact ⟨t.1, q.1.2, .intro hfeed (run_readstring.mp hfirst) (exists_fileManager_iff.mp ⟨_, hpath⟩)⟩

lemma PathsTyped.createRequest_eq (env : RequestEnv) (c : Client) (id : UInt16)
    {first path : Typed} {rest : List Typed} (h : PathsTyped ls first path rest) :
    ∃ feedNumber, createRequest env c UPLOAD id ls =
      some ((.cl UPLOAD upload_ne (uploadRequest env id feedNumber first path),
        c.transferNew env.now path.input), rest) := by
  obtain ⟨hfeed, hfirst, hpath⟩ := h
  obtain ⟨code, hcode⟩ := exists_fileManager_iff.mpr hpath
  rw [createRequest_upload_eq, hfeed, Option.bind_some, run_readstring.mpr hfirst,
    Option.bind_some, hcode]
  exact ⟨_, rfl⟩

/-- The name and the path in the request for an upload. -/
lemma announcesPath_iff {feedNumber : UInt16} {first path : Typed}
    (hfirst : first.line.length < 256) :
    AnnouncesPath (uploadRequest env id feedNumber first path) (c.transferNew env.now path.input)
        path.line ↔
      (baseName path.line).length ≤ first.line.length ∧ path.line.length ≤ MAX_DATALEN := by
  have hdatalen : (UInt8.ofNat first.line.length).toNat = first.line.length := by
    rw [UInt8.toNat_ofNat']
    exact Nat.mod_eq_of_lt hfirst
  have hname : cString (uploadRequest env id feedNumber first path).data
      (uploadRequest env id feedNumber first path).datalen.toNat =
        (baseName path.line).take first.line.length := by
    have hread := read_write_self env.data 0
      (read (stripDirectory path) 0 first.line.length)
    rw [length_read] at hread
    simp only [uploadRequest, hdatalen]
    rw [cString, hread]
    exact cString_eq_take (zero_notMem_baseName path) (read_stripDirectory path) _
  have hfile : cString (c.transferNew env.now path.input).transferFile.filePath MAX_DATALEN =
      path.line.take MAX_DATALEN :=
    cString_eq_take path.zero_notMem (read_input path) _
  constructor
  · rintro ⟨h₁, h₂⟩
    rw [hname, List.take_eq_self_iff] at h₁
    rw [hfile, List.take_eq_self_iff] at h₂
    exact ⟨h₁, h₂⟩
  · rintro ⟨h₁, h₂⟩
    refine ⟨?_, ?_⟩
    · rw [hname, List.take_of_length_le h₁]
    · rw [hfile, List.take_of_length_le h₂]

/-- **An upload is announced under the name of the file that is sent** exactly when this name is not
longer than the path that was typed first, and the path fits into the transfer. -/
theorem upload_announced_iff (env : RequestEnv) (c : Client) (id : UInt16) (ls : List Typed)
    {rq : ClientRQCl} {c' : Client} {rest : List Typed}
    (h : createRequest env c UPLOAD id ls = some ((.cl UPLOAD upload_ne rq, c'), rest)) :
    (∃ first path, PathsTyped ls first path rest) ∧
    ∀ first path, PathsTyped ls first path rest →
      (AnnouncesPath rq c' path.line ↔
        (baseName path.line).length ≤ first.line.length ∧ path.line.length ≤ MAX_DATALEN) := by
  refine ⟨pathsTyped_of_createRequest h, fun first path hpaths => ?_⟩
  obtain ⟨feedNumber, heq⟩ := hpaths.createRequest_eq env c id
  simp only [h, Option.some.injEq, Prod.mk.injEq, ClientRQ.cl.injEq, true_and, and_true] at heq
  obtain ⟨rfl, rfl⟩ := heq
  obtain ⟨-, ⟨pre, -, -, hfits⟩, -⟩ := hpaths
  exact announcesPath_iff (hfits.2.trans (by decide))

/-! ### Lines -/

namespace SomeLines

/-- A line of `n` times the character `b`. -/
def line (b : UInt8) (h : b ≠ 0) (n : ℕ) (file : FileStat) : Typed :=
  ⟨.replicate n b, fun hmem => h (List.eq_of_mem_replicate hmem).symm, file⟩

lemma one_ne : (49 : UInt8) ≠ 0 := by decide

lemma letter_ne : (97 : UInt8) ≠ 0 := by decide

/-- The number of a feed. -/
def feed : Typed := line 49 one_ne 1 .noFile

/-- A path to no file. -/
def first : Typed := line 97 letter_ne 1 .noFile

/-- A longer path, to a file. -/
def second : Typed := line 97 letter_ne 2 (.size 1)

/-- A line of 300 characters. -/
def long : Typed := line 97 letter_ne 300 .noFile

/-- A client. -/
def client : Client := ⟨0, Nat.zero_lt_succ 2047, .zero, []⟩

/-- An outside. -/
def outside : RequestEnv := ⟨0, fun _ => 0, none, 0⟩

/-- A line in front of the others that fits is taken. -/
lemma taken (b : UInt8) (h : b ≠ 0) (file : FileStat) {n inputSize : ℕ} (hpos : 0 < n)
    (hlt : n < inputSize) (ls : List Typed) :
    Taken inputSize (line b h n file :: ls) (line b h n file) ls := by
  refine ⟨[], rfl, by simp, fun hnil => ?_, ?_⟩
  · rw [line, List.replicate_eq_nil_iff] at hnil
    omega
  · rwa [line, List.length_replicate]

lemma pathsTyped_second : PathsTyped [feed, first, second] first second [] := by
  have hfeed : (feedNumberManager UPLOAD).run [feed, first, second] = some (1, [first, second]) :=
    (run_numberManager _).trans rfl
  obtain ⟨-, -, -, hfits⟩ := taken 97 letter_ne (.size 1) (show 0 < 2 by decide)
    (show 2 < INPUT_SIZE by decide) []
  refine .intro hfeed (taken 97 letter_ne _ (by decide) (by decide) _)
    (.typed [] ?_ rfl (by simp) hfits (.inr ⟨1, rfl, by decide, by decide⟩))
  rintro (h | ⟨n, h, -⟩)
  · cases h
  · cases h

lemma pathsTyped_first : PathsTyped [feed, second] second second [] :=
  .intro ((run_numberManager [feed, second]).trans rfl)
    (taken 97 letter_ne _ (by decide) (by decide) _)
    (.this (.inr ⟨1, rfl, by decide, by decide⟩) rfl rfl)

end SomeLines

open SomeLines in
/-- The upload of a second, longer path is announced under the beginning of its name. -/
theorem not_announcesPath : ∃ rq c',
    createRequest outside client UPLOAD 1 [feed, first, second] =
      some ((.cl UPLOAD upload_ne rq, c'), []) ∧
    cString rq.data rq.datalen.toNat = [97] ∧ baseName second.line = [97, 97] ∧
    ¬AnnouncesPath rq c' second.line := by
  obtain ⟨feedNumber, heq⟩ := pathsTyped_second.createRequest_eq outside client 1
  have hname : cString (uploadRequest outside 1 feedNumber first second).data 1 = [97] := rfl
  refine ⟨_, _, heq, hname, by decide, fun h => ?_⟩
  exact absurd (hname.symm.trans h.name) (by decide)

open SomeLines in
/-- The upload of a first path is announced under its name. -/
theorem upload_announced_iff_first : ∃ rq c',
    createRequest outside client UPLOAD 1 [feed, second] =
      some ((.cl UPLOAD upload_ne rq, c'), []) ∧
    (∃ first path, PathsTyped [feed, second] first path []) ∧
    ∀ first path, PathsTyped [feed, second] first path [] →
      (AnnouncesPath rq c' path.line ↔
        (baseName path.line).length ≤ first.line.length ∧ path.line.length ≤ MAX_DATALEN) := by
  obtain ⟨feedNumber, heq⟩ := pathsTyped_first.createRequest_eq outside client 1
  exact ⟨_, _, heq, upload_announced_iff outside client 1 [feed, second] heq⟩

/-! ### Posts -/

/-- The request for a post of what is typed. -/
def newpostRequest (env : RequestEnv) (id feedNumber : UInt16) (line : Typed) : ClientRQCl :=
  { header := mkHeader NEWPOST id
    feedNumber := feedNumber
    count := 0
    datalen := UInt8.ofNat line.line.length
    data := write env.data 0 (read line.input 0 (UInt8.ofNat line.line.length).toNat) }

lemma createRequest_newpost_eq :
    createRequest env c NEWPOST id ls =
      ((feedNumberManager NEWPOST).run ls).bind fun f =>
        ((readstring INPUT_SIZE).run f.2).map fun t =>
          ((.cl NEWPOST newpost_ne (newpostRequest env id f.1 t.1), c), t.2) := by
  rw [createRequest, dif_neg newpost_ne, if_neg (by decide), createRqcl]
  cases (feedNumberManager NEWPOST).run ls with
  | none => rfl
  | some f =>
      obtain ⟨feedNumber, ls₁⟩ := f
      simp only [countNumberManager_of_ne (show NEWPOST ≠ LASTPOSTS by decide),
        dataManager_eq (show dataInputSize NEWPOST = some INPUT_SIZE by decide),
        Option.bind_eq_bind, Option.bind_some, if_neg (show NEWPOST ≠ UPLOAD by decide)]
      cases (readstring INPUT_SIZE).run ls₁ with
      | none => rfl
      | some t => rfl

/-- Every line that is accepted for a post, of those in `ls₁` behind the feed number, is sent with
its length and all its bytes, and a line of more than 255 bytes is asked for again. -/
structure SendsPostWhole (env : RequestEnv) (c : Client) (id : UInt16) (ls ls₁ : List Typed) :
    Prop where
  whole : ∀ t rest, Taken INPUT_SIZE ls₁ t rest → ∃ datalen rq,
    dataManager NEWPOST ls₁ = some ((datalen, t), rest) ∧ datalen.toNat = t.line.length ∧
    createRequest env c NEWPOST id ls = some ((.cl NEWPOST newpost_ne rq, c), rest) ∧
    rq.datalen = datalen ∧ textOf rq.datalen rq.data = t.line
  refused : ∀ pre t rest, ls₁ = pre ++ t :: rest → (∀ x ∈ pre, ¬x.Fits INPUT_SIZE) →
    255 < t.line.length → dataManager NEWPOST ls₁ = dataManager NEWPOST rest

/-- **A post is sent whole** exactly when the line that is accepted for it has 255 bytes at most. -/
theorem post_sent_whole_iff (env : RequestEnv) (c : Client) (id : UInt16) (ls : List Typed)
    {feedNumber : UInt16} {ls₁ : List Typed}
    (hfeed : (feedNumberManager NEWPOST).run ls = some (feedNumber, ls₁)) :
    SendsPostWhole env c id ls ls₁ ↔
      ∀ t rest, Taken INPUT_SIZE ls₁ t rest → t.line.length ≤ 255 := by
  have hdata := dataManager_eq (show dataInputSize NEWPOST = some INPUT_SIZE by decide)
  constructor
  · intro h t rest ht
    obtain ⟨datalen, rq, -, hlength, -⟩ := h.whole t rest ht
    have hlt := datalen.toNat_lt
    omega
  · intro h
    refine ⟨fun t rest ht => ?_, fun pre t rest hls hpre hlong => ?_⟩
    · have hread := run_readstring.mpr ht
      have hle := h t rest ht
      have hdatalen : (UInt8.ofNat t.line.length).toNat = t.line.length := by
        rw [UInt8.toNat_ofNat']
        exact Nat.mod_eq_of_lt (by omega)
      refine ⟨_, newpostRequest env id feedNumber t, ?_, hdatalen, ?_, rfl, ?_⟩
      · rw [hdata, hread, Option.map_some]
      · rw [createRequest_newpost_eq, hfeed, Option.bind_some, hread, Option.map_some]
      · have htext := read_write_self env.data 0 t.line
        have hline : read t.input 0 t.line.length = t.line := read_ofList t.line 0
        simp only [newpostRequest, textOf, hdatalen, hline, htext]
    · have hnot : ∀ x ∈ pre ++ [t], ¬x.Fits INPUT_SIZE := by
        intro x hx hfits
        obtain hx | hx := List.mem_append.mp hx
        · exact hpre x hx hfits
        · obtain rfl := List.mem_singleton.mp hx
          exact absurd (h x rest ⟨pre, hls, hpre, hfits⟩) (Nat.not_le.mpr hlong)
      rw [hdata, hdata, hls, List.append_cons, run_readstring_append hnot]

open SomeLines in
/-- A post of 300 bytes is accepted, and 44 of them are sent. -/
theorem not_sendsPostWhole :
    (feedNumberManager NEWPOST).run [feed, long] = some (1, [long]) ∧
    dataManager NEWPOST [long] = some ((44, long), []) ∧
    ¬SendsPostWhole outside client 1 [feed, long] [long] := by
  have htaken : Taken INPUT_SIZE [long] long [] :=
    taken 97 letter_ne .noFile (by decide) (by decide) []
  have hlong : long.line.length = 300 := List.length_replicate
  refine ⟨(run_numberManager _).trans rfl, ?_, fun h => ?_⟩
  · rw [dataManager_eq (show dataInputSize NEWPOST = some INPUT_SIZE by decide),
      run_readstring.mpr htaken, Option.map_some, hlong]
    rfl
  · obtain ⟨datalen, rq, -, hlength, -⟩ := h.whole long [] htaken
    have hlt := datalen.toNat_lt
    omega

open SomeLines in
/-- A post of one byte. -/
theorem post_sent_whole_iff_first :
    SendsPostWhole outside client 1 [feed, first] [first] ↔
      ∀ t rest, Taken INPUT_SIZE [first] t rest → t.line.length ≤ 255 :=
  post_sent_whole_iff outside client 1 [feed, first] ((run_numberManager [feed, first]).trans rfl)

end Client

end Megaphone
