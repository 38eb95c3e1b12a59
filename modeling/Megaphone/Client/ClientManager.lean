import Megaphone.Network.FileTransfer
import Megaphone.System.Decimal

/-!
The start of the client (`client_manager.c`), up to the host and the port that `connect_client`
looks up.

* `isPort`, `parse`: the command line, copied by `strcpy` into arrays of a fixed size.
* `launchClient`: the host name and the port that the client keeps.
* `CommandLine`: the command lines that are accepted; `Overflows`: those that are copied past the
  end of an array.
* `launchClient_iff`: what becomes of every command line.
-/

namespace Megaphone

open Memory

namespace ClientManager

/-! ### The command line -/

def PORT_STRLEN : ℕ := 6

def HOSTNAME_STRLEN : ℕ := 20

/-- `TCP_PORT_STR`, `"6226"`. -/
def TCP_PORT_STR : List UInt8 := [54, 50, 50, 54]

/-- `"::1"`. -/
def LOCALHOST : List UInt8 := [58, 58, 49]

/-- `"-p"`. -/
def OPT_P : List UInt8 := [45, 112]

/-- `"-i"`. -/
def OPT_I : List UInt8 := [45, 105]

/-- `is_port`. -/
def isPort (port : List UInt8) : Bool :=
  match strtol port with
  | none => false
  | some (l, endptr) =>
      if endptr ≠ [] then false
      else if l < 1024 ∨ l > 49151 then false
      else true

/-- A cleared array, behind `strcpy`. -/
def copied (src : List UInt8) : ℕ → UInt8 := write (fun _ => 0) 0 (src ++ [0])

/-- `strcpy` into an array of `size` bytes that has been cleared; `none` past its end. -/
def strcpy (size : ℕ) (src : List UInt8) : Option (ℕ → UInt8) :=
  if src.length < size then some (copied src) else none

/-- The two arrays that `parse` fills. -/
structure Args where
  hostname : ℕ → UInt8
  port : ℕ → UInt8

/-- `parse`, on the arguments as strings: the arrays, `some none` when it ends the program, and
`none` when it writes past the end of one. -/
def parse (argv : List (List UInt8)) : Option (Option Args) := do
  let argc := argv.length
  let arg := fun i => argv.getD i []
  let port ← strcpy PORT_STRLEN TCP_PORT_STR
  let hostname ← strcpy HOSTNAME_STRLEN LOCALHOST
  if argc = 1 then some (some ⟨hostname, port⟩)
  else if argc = 3 ∧ arg 1 = OPT_P then
    if isPort (arg 2) then do
      let port ← strcpy PORT_STRLEN (arg 2)
      some (some ⟨hostname, port⟩)
    else some none
  else if argc = 3 ∧ arg 1 = OPT_I then do
    let hostname ← strcpy HOSTNAME_STRLEN (arg 2)
    some (some ⟨hostname, port⟩)
  else if argc = 5 then do
    let idP := if arg 1 = OPT_P then 2 else 0
    let idI := if arg 1 = OPT_I then 2 else 0
    let idP := if arg 3 = OPT_P then 4 else idP
    let idI := if arg 3 = OPT_I then 4 else idI
    -- without one of the options, this is `argv[0]`
    let hostname ← strcpy HOSTNAME_STRLEN (arg idI)
    if isPort (arg idP) then do
      let port ← strcpy PORT_STRLEN (arg idP)
      if idI ≠ 0 ∧ idP ≠ 0 then some (some ⟨hostname, port⟩) else some none
    else some none
  else some none

/-! ### The start -/

/-- What the outside decides in `launch_client`: whether `load_accounts` and `thread_pool_init`
succeed. -/
structure LaunchEnv where
  loadAccounts : Bool
  threadPool : Bool

/-- `m_hostname` and `m_port`. -/
structure Target where
  hostname : ℕ → UInt8
  port : ℕ → UInt8

/-- The strings that `connect_client` gives to `getaddrinfo`. -/
def Target.node (t : Target) : List UInt8 := cString t.hostname HOSTNAME_STRLEN

def Target.service (t : Target) : List UInt8 := cString t.port PORT_STRLEN

/-- `set_hostname` and `tcp_client_init`. -/
def setTarget (args : Args) : Target :=
  ⟨ofList (strncpy args.hostname HOSTNAME_STRLEN) 0, ofList (strncpy args.port PORT_STRLEN) 0⟩

/-- `launch_client`, up to the jobs of the thread pool; as in `parse`, `some none` ends the
program. -/
def launchClient (env : LaunchEnv) (argv : List (List UInt8)) : Option (Option Target) :=
  if env.loadAccounts then
    (parse argv).map fun args => args.bind fun args =>
      if env.threadPool then some (setTarget args) else none
  else some none

/-! ### What the command line says -/

/-- The options. -/
inductive CommandLine
  | none
  | p (port : List UInt8)
  | i (host : List UInt8)
  | pi (port host : List UInt8)
  | ip (host port : List UInt8)

namespace CommandLine

/-- The arguments behind the name of the program. -/
def args : CommandLine → List (List UInt8)
  | none => []
  | p port => [OPT_P, port]
  | i host => [OPT_I, host]
  | pi port host => [OPT_P, port, OPT_I, host]
  | ip host port => [OPT_I, host, OPT_P, port]

/-- The host given with `-i`. -/
def host : CommandLine → List UInt8
  | none => LOCALHOST
  | p _ => LOCALHOST
  | i host => host
  | pi _ host => host
  | ip host _ => host

/-- The port given with `-p`. -/
def port : CommandLine → List UInt8
  | none => TCP_PORT_STR
  | p port => port
  | i _ => TCP_PORT_STR
  | pi port _ => port
  | ip _ port => port

/-- The strings fit into the arrays, with the zeros behind them. -/
def Fits (c : CommandLine) : Prop :=
  c.host.length < HOSTNAME_STRLEN ∧ c.port.length < PORT_STRLEN

end CommandLine

/-- The argument behind an option of two, the last if it is given twice, or `argv[0]`. -/
def optArg (opt : List UInt8) (argv : List (List UInt8)) : List UInt8 :=
  if argv.getD 3 [] = opt then argv.getD 4 []
  else if argv.getD 1 [] = opt then argv.getD 2 []
  else argv.getD 0 []

/-- A string is copied past the end of its array: a port, a host, or what is taken for one of them
with two options. -/
inductive Overflows : List (List UInt8) → Prop
  | port {name port : List UInt8} (hport : isPort port = true) (hlong : PORT_STRLEN ≤ port.length) :
      Overflows [name, OPT_P, port]
  | host {name host : List UInt8} (hlong : HOSTNAME_STRLEN ≤ host.length) :
      Overflows [name, OPT_I, host]
  | hosts {argv : List (List UInt8)} (hlength : argv.length = 5)
      (hlong : HOSTNAME_STRLEN ≤ (optArg OPT_I argv).length) : Overflows argv
  | ports {argv : List (List UInt8)} (hlength : argv.length = 5)
      (hport : isPort (optArg OPT_P argv) = true)
      (hlong : PORT_STRLEN ≤ (optArg OPT_P argv).length) : Overflows argv

/-! ### The cases of `parse` -/

lemma strcpy_eq_some {size : ℕ} {src : List UInt8} {m : ℕ → UInt8} :
    strcpy size src = some m ↔ src.length < size ∧ copied src = m := by
  rw [strcpy, Option.ite_none_right_eq_some, Option.some.injEq]

lemma strcpy_eq_none {size : ℕ} {src : List UInt8} :
    strcpy size src = none ↔ size ≤ src.length := by
  rw [strcpy, ite_eq_right_iff, ← not_lt]
  simp

/-- The defaults fit. -/
lemma strcpy_port : strcpy PORT_STRLEN TCP_PORT_STR = some (copied TCP_PORT_STR) := rfl

lemma strcpy_localhost : strcpy HOSTNAME_STRLEN LOCALHOST = some (copied LOCALHOST) := rfl

lemma optP_ne_optI : OPT_P ≠ OPT_I := by decide

/-- An option given last, and one given first. -/
lemma optArg_last (opt a b c e : List UInt8) : optArg opt [a, b, c, opt, e] = e := if_pos rfl

lemma optArg_first {opt d : List UInt8} (hne : d ≠ opt) (a c e : List UInt8) :
    optArg opt [a, opt, c, d, e] = c := (if_neg hne).trans (if_pos rfl)

lemma parse_three (a b c : List UInt8) : parse [a, b, c] =
    if b = OPT_P then
      if isPort c then (strcpy PORT_STRLEN c).map fun port => some ⟨copied LOCALHOST, port⟩
      else some none
    else if b = OPT_I then
      (strcpy HOSTNAME_STRLEN c).map fun hostname => some ⟨hostname, copied TCP_PORT_STR⟩
    else some none := by
  simp only [parse, strcpy_port, strcpy_localhost, Option.bind_eq_bind, Option.bind_some,
    List.length_cons, List.length_nil, List.getD_cons_succ, List.getD_cons_zero]
  by_cases hp : b = OPT_P
  · simp [hp, Option.map_eq_bind]
  · simp [hp, Option.map_eq_bind]

lemma parse_five (a b c d e : List UInt8) : parse [a, b, c, d, e] =
    (strcpy HOSTNAME_STRLEN (optArg OPT_I [a, b, c, d, e])).bind fun hostname =>
      if isPort (optArg OPT_P [a, b, c, d, e]) then
        (strcpy PORT_STRLEN (optArg OPT_P [a, b, c, d, e])).map fun port =>
          if (d = OPT_I ∨ b = OPT_I) ∧ (d = OPT_P ∨ b = OPT_P) then some ⟨hostname, port⟩ else none
      else some none := by
  have hne := optP_ne_optI
  have hne' := optP_ne_optI.symm
  simp only [parse, strcpy_port, strcpy_localhost, Option.bind_eq_bind, Option.bind_some,
    List.length_cons, List.length_nil, List.getD_cons_succ, List.getD_cons_zero, optArg]
  -- which option is `argv[3]`, and which one is `argv[1]`
  by_cases hdi : d = OPT_I
  · by_cases hbp : b = OPT_P
    · simp [hdi, hbp, hne, hne', Option.map_eq_bind]
    · simp [hdi, hbp, hne', Option.map_eq_bind]
  · by_cases hdp : d = OPT_P
    · by_cases hbi : b = OPT_I
      · simp [hdp, hbi, hne, hne', Option.map_eq_bind]
      · simp [hdp, hbi, hne, Option.map_eq_bind]
    · by_cases hbi : b = OPT_I
      · simp [hdi, hdp, hbi, hne', Option.map_eq_bind]
      · by_cases hbp : b = OPT_P
        · simp [hdi, hdp, hbp, hne, Option.map_eq_bind]
        · simp [hdi, hdp, hbi, hbp, Option.map_eq_bind]

lemma exists_of_length_five {argv : List (List UInt8)} (h : argv.length = 5) :
    ∃ a b c d e, argv = [a, b, c, d, e] := by
  match argv, h with
  | [a, b, c, d, e], _ => exact ⟨a, b, c, d, e, rfl⟩

/-- `parse` by the number of arguments. -/
lemma parse_shapes (argv : List (List UInt8)) :
    (∃ a, argv = [a]) ∨ (∃ a b c, argv = [a, b, c]) ∨ (∃ a b c d e, argv = [a, b, c, d, e]) ∨
      parse argv = some none := by
  by_cases h1 : argv.length = 1
  · exact .inl (List.length_eq_one_iff.mp h1)
  · by_cases h3 : argv.length = 3
    · exact .inr (.inl (List.length_eq_three.mp h3))
    · by_cases h5 : argv.length = 5
      · exact .inr (.inr (.inl (exists_of_length_five h5)))
      · refine .inr (.inr (.inr ?_))
        simp only [parse, strcpy_port, strcpy_localhost, Option.bind_eq_bind, Option.bind_some, h1,
          h3, h5, false_and, if_false]

/-- **Overflows.** -/
lemma parse_eq_none_iff (argv : List (List UInt8)) : parse argv = none ↔ Overflows argv := by
  constructor
  · intro h
    obtain ⟨a, rfl⟩ | ⟨a, b, c, rfl⟩ | ⟨a, b, c, d, e, rfl⟩ | hother := parse_shapes argv
    · cases h
    · rw [parse_three] at h
      split at h
      next hb =>
        subst hb
        split at h
        next hport => exact .port hport (strcpy_eq_none.mp (Option.map_eq_none_iff.mp h))
        next => cases h
      next =>
        split at h
        next hb =>
          subst hb
          exact .host (strcpy_eq_none.mp (Option.map_eq_none_iff.mp h))
        next => cases h
    · rw [parse_five] at h
      by_cases hlong : HOSTNAME_STRLEN ≤ (optArg OPT_I [a, b, c, d, e]).length
      · exact .hosts rfl hlong
      · rw [strcpy, if_pos (not_le.mp hlong), Option.bind_some] at h
        split at h
        next hport => exact .ports rfl hport (strcpy_eq_none.mp (Option.map_eq_none_iff.mp h))
        next => cases h
    · rw [hother] at h
      cases h
  · intro h
    cases h with
    | port hport hlong =>
        rw [parse_three, if_pos rfl, if_pos hport, strcpy_eq_none.mpr hlong, Option.map_none]
    | host hlong =>
        rw [parse_three, if_neg optP_ne_optI.symm, if_pos rfl, strcpy_eq_none.mpr hlong,
          Option.map_none]
    | hosts hlength hlong =>
        obtain ⟨a, b, c, d, e, rfl⟩ := exists_of_length_five hlength
        rw [parse_five, strcpy_eq_none.mpr hlong, Option.bind_none]
    | ports hlength hport hlong =>
        obtain ⟨a, b, c, d, e, rfl⟩ := exists_of_length_five hlength
        rw [parse_five]
        cases strcpy HOSTNAME_STRLEN (optArg OPT_I [a, b, c, d, e]) with
        | none => rfl
        | some hostname =>
            rw [Option.bind_some, if_pos hport, strcpy_eq_none.mpr hlong, Option.map_none]

/-- A command line that is accepted. -/
structure Accepted (argv : List (List UInt8)) (c : CommandLine) : Prop where
  argv_eq : ∃ name, argv = name :: c.args
  isPort : isPort c.port = true
  fits : c.Fits

/-- **`parse`** accepts these. -/
lemma parse_of_accepted {argv : List (List UInt8)} {c : CommandLine} (h : Accepted argv c) :
    parse argv = some (some ⟨copied c.host, copied c.port⟩) := by
  obtain ⟨⟨name, rfl⟩, hport, hhost, hfits⟩ := h
  have hcopy := strcpy_eq_some.mpr ⟨hhost, rfl⟩
  have hcopy' := strcpy_eq_some.mpr ⟨hfits, rfl⟩
  have hne := optP_ne_optI
  cases c with
  | none => rfl
  | p port =>
      replace hport : ClientManager.isPort port = true := hport
      replace hcopy' : strcpy PORT_STRLEN port = some (copied port) := hcopy'
      rw [CommandLine.args, parse_three, if_pos rfl, if_pos hport, hcopy']
      rfl
  | i host =>
      replace hcopy : strcpy HOSTNAME_STRLEN host = some (copied host) := hcopy
      rw [CommandLine.args, parse_three, if_neg hne.symm, if_pos rfl, hcopy]
      rfl
  | pi port host =>
      replace hport : ClientManager.isPort port = true := hport
      replace hcopy : strcpy HOSTNAME_STRLEN host = some (copied host) := hcopy
      replace hcopy' : strcpy PORT_STRLEN port = some (copied port) := hcopy'
      rw [CommandLine.args, parse_five, optArg_last, optArg_first hne.symm, hcopy, Option.bind_some,
        if_pos hport, hcopy', Option.map_some, if_pos ⟨.inl rfl, .inr rfl⟩]
      rfl
  | ip host port =>
      replace hport : ClientManager.isPort port = true := hport
      replace hcopy : strcpy HOSTNAME_STRLEN host = some (copied host) := hcopy
      replace hcopy' : strcpy PORT_STRLEN port = some (copied port) := hcopy'
      rw [CommandLine.args, parse_five, optArg_last, optArg_first hne, hcopy, Option.bind_some,
        if_pos hport, hcopy', Option.map_some, if_pos ⟨.inr rfl, .inl rfl⟩]
      rfl

/-- And no others. -/
lemma accepted_of_parse {argv : List (List UInt8)} {args : Args}
    (h : parse argv = some (some args)) :
    ∃ c, Accepted argv c ∧ args = ⟨copied c.host, copied c.port⟩ := by
  have hfits : LOCALHOST.length < HOSTNAME_STRLEN := by decide
  have hfits' : TCP_PORT_STR.length < PORT_STRLEN := by decide
  have hport : isPort TCP_PORT_STR = true := by decide
  obtain ⟨a, rfl⟩ | ⟨a, b, c, rfl⟩ | ⟨a, b, c, d, e, rfl⟩ | hother := parse_shapes argv
  · cases h
    exact ⟨.none, ⟨⟨a, rfl⟩, hport, hfits, hfits'⟩, rfl⟩
  · rw [parse_three] at h
    split at h
    next hb =>
      subst hb
      split at h
      next hc =>
        obtain ⟨port, hcopy, heq⟩ := Option.map_eq_some_iff.mp h
        obtain ⟨hlt, rfl⟩ := strcpy_eq_some.mp hcopy
        cases heq
        exact ⟨.p c, ⟨⟨a, rfl⟩, hc, hfits, hlt⟩, rfl⟩
      next => cases h
    next =>
      split at h
      next hb =>
        subst hb
        obtain ⟨hostname, hcopy, heq⟩ := Option.map_eq_some_iff.mp h
        obtain ⟨hlt, rfl⟩ := strcpy_eq_some.mp hcopy
        cases heq
        exact ⟨.i c, ⟨⟨a, rfl⟩, hport, hlt, hfits'⟩, rfl⟩
      next => cases h
  · rw [parse_five] at h
    obtain ⟨hostname, hcopy, h⟩ := Option.bind_eq_some_iff.mp h
    obtain ⟨hhost, rfl⟩ := strcpy_eq_some.mp hcopy
    split at h
    next hp =>
      obtain ⟨port, hcopy', heq⟩ := Option.map_eq_some_iff.mp h
      obtain ⟨hlt, rfl⟩ := strcpy_eq_some.mp hcopy'
      obtain ⟨⟨hi, hp'⟩, heq⟩ := Option.ite_none_right_eq_some.mp heq
      cases heq
      have hne := optP_ne_optI
      obtain rfl | rfl := hi
      · obtain hd | rfl := hp'
        · exact absurd hd.symm hne
        · rw [optArg_last] at hhost
          rw [optArg_first hne.symm] at hp hlt
          rw [optArg_last, optArg_first hne.symm]
          exact ⟨.pi c e, ⟨⟨a, rfl⟩, hp, hhost, hlt⟩, rfl⟩
      · obtain rfl | hb := hp'
        · rw [optArg_first hne] at hhost
          rw [optArg_last] at hp hlt
          rw [optArg_last, optArg_first hne]
          exact ⟨.ip c e, ⟨⟨a, rfl⟩, hp, hhost, hlt⟩, rfl⟩
        · exact absurd hb.symm hne
    next => cases h
  · rw [hother] at h
    cases h

/-! ### Where the client connects -/

/-- A string that fits is copied twice and read back. -/
lemma cString_copied {str : List UInt8} {size : ℕ} (hstr : 0 ∉ str) (hlt : str.length < size) :
    cString (ofList (strncpy (copied str) size) 0) size = str := by
  have hcopied : cString (copied str) size = str := cString_write _ hstr hlt
  have hread := read_ofList (strncpy (copied str) size) 0
  rw [length_strncpy] at hread
  rw [cString, hread, strncpy, hcopied]
  exact takeWhile_zeros hstr _

lemma zero_notMem_args {argv : List (List UInt8)} {c : CommandLine} (h : Accepted argv c)
    (hargv : ∀ a ∈ argv, 0 ∉ a) : 0 ∉ c.host ∧ 0 ∉ c.port := by
  obtain ⟨⟨name, rfl⟩, -, -⟩ := h
  have hargs : ∀ a ∈ c.args, 0 ∉ a := fun a ha => hargv a (List.mem_cons_of_mem _ ha)
  have hhost : 0 ∉ LOCALHOST := by decide
  have hport : 0 ∉ TCP_PORT_STR := by decide
  cases c with
  | none => exact ⟨hhost, hport⟩
  | p port => exact ⟨hhost, hargs port (by simp [CommandLine.args])⟩
  | i host => exact ⟨hargs host (by simp [CommandLine.args]), hport⟩
  | pi port host =>
      exact ⟨hargs host (by simp [CommandLine.args]), hargs port (by simp [CommandLine.args])⟩
  | ip host port =>
      exact ⟨hargs host (by simp [CommandLine.args]), hargs port (by simp [CommandLine.args])⟩

/-- **The command line.**  The client looks up a host and a port exactly when the command line is
one of the five that are accepted, its port is one for `is_port` and both strings fit into their
arrays, which are of 20 and of 6 bytes; they are those of the command line then.  It writes past the
end of an array exactly when a string that is copied does not fit: a host, a port for `is_port`, or
with four arguments that are not both options, also the name of the program.  With every other
command line the program ends. -/
theorem launchClient_iff (env : LaunchEnv) (argv : List (List UInt8))
    (hargv : ∀ a ∈ argv, 0 ∉ a) :
    (∀ node service, (∃ t, launchClient env argv = some (some t) ∧ t.node = node ∧
        t.service = service) ↔
      env.loadAccounts = true ∧ env.threadPool = true ∧
        ∃ c, Accepted argv c ∧ c.host = node ∧ c.port = service) ∧
      (launchClient env argv = none ↔ env.loadAccounts = true ∧ Overflows argv) := by
  refine ⟨fun node service => ⟨?_, ?_⟩, ?_⟩
  · rintro ⟨t, ht, rfl, rfl⟩
    rw [launchClient] at ht
    split at ht
    next hload =>
      obtain ⟨args?, hargs, ht⟩ := Option.map_eq_some_iff.mp ht
      obtain ⟨args, rfl, ht⟩ := Option.bind_eq_some_iff.mp ht
      obtain ⟨hpool, heq⟩ := Option.ite_none_right_eq_some.mp ht
      cases heq
      obtain ⟨c, hc, rfl⟩ := accepted_of_parse hargs
      obtain ⟨hhost, hport⟩ := zero_notMem_args hc hargv
      exact ⟨hload, hpool, c, hc, (cString_copied hhost hc.fits.1).symm,
        (cString_copied hport hc.fits.2).symm⟩
    next => cases ht
  · rintro ⟨hload, hpool, c, hc, rfl, rfl⟩
    obtain ⟨hhost, hport⟩ := zero_notMem_args hc hargv
    refine ⟨setTarget ⟨copied c.host, copied c.port⟩, ?_, cString_copied hhost hc.fits.1,
      cString_copied hport hc.fits.2⟩
    rw [launchClient, if_pos hload, parse_of_accepted hc, Option.map_some, Option.bind_some,
      if_pos hpool]
  · rw [← parse_eq_none_iff, launchClient]
    split
    next hload => simp [hload]
    next hload => simp [hload]

/-- `-p 7000` is where the client connects, and `-i 2001:db8::8a2e:370:7334` does not fit. -/
theorem launchClient_iff_address :
    (∃ t, launchClient ⟨true, true⟩ [[99], OPT_P, [55, 48, 48, 48]] = some (some t) ∧
      t.node = LOCALHOST ∧ t.service = [55, 48, 48, 48]) ∧
    launchClient ⟨true, true⟩ [[99], OPT_I, [50, 48, 48, 49, 58, 100, 98, 56, 58, 58, 56, 97, 50,
      101, 58, 51, 55, 48, 58, 55, 51, 51, 52]] = none := by
  refine ⟨((launchClient_iff _ _ (by decide)).1 _ _).mpr
    ⟨rfl, rfl, .p [55, 48, 48, 48], ⟨⟨[99], rfl⟩, by decide, by decide, by decide⟩, rfl, rfl⟩, ?_⟩
  exact (launchClient_iff _ _ (by decide)).2.mpr ⟨rfl, .host (by decide)⟩

end ClientManager

end Megaphone
