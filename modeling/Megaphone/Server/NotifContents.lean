import Megaphone.Server.Notifications

/-!
What is in the notifications that `notifications_loop` sends.

* `Notification.Made`: what `serverrq_nt_new` has put into a notification; `loopStep_made`,
  `notifStep_made`: it is so for those of a round.
* `DescribesPost`: a notification has the number of the feed of its post, its author and the
  beginning of its text.
* `describes_posts_iff`: it is so for all that are sent in a run, exactly when the number of the
  feed is the one of subscriptions, and the texts are long or end with a zero.
-/

namespace Megaphone

open Memory

/-! ### The notifications of a round -/

/-- The notification is what the loop makes of its post when there are `count` subscriptions. -/
def Notification.Made (count : ℕ) (n : Notification) : Prop :=
  n.nt = serverrqNtNew SUBSCRIBE.toUInt16 (UInt16.ofNat count) n.post.pseudo
    (strncpy n.post.data NT_DATA_LEN)

namespace Notification.Made

variable {count : ℕ} {n : Notification}

lemma feedNumber_eq (h : n.Made count) : n.nt.feedNumber.toNat = count % 2 ^ 16 := by
  rw [h]
  exact UInt16.toNat_ofNat'

lemma data_eq (h : n.Made count) :
    read n.nt.data 0 NT_DATA_LEN = strncpy n.post.data NT_DATA_LEN := by
  have hread := read_ofList (strncpy n.post.data NT_DATA_LEN) 0
  rw [length_strncpy] at hread
  rw [h]
  exact hread

end Notification.Made

/-- The number of subscriptions of the round is `count`, and its notifications are made so. -/
def Loop.Made (count : ℕ) : Loop → Prop
  | .sleep => True
  | .next nbFeed _ => nbFeed = count
  | .build nbFeed _ _ _ _ _ a => nbFeed = count ∧ ∀ n ∈ a, n.Made count
  | .send nbFeed _ _ _ _ _ a _ => nbFeed = count ∧ ∀ n ∈ a, n.Made count
  | .stopped => True

/-- No notification has been made when the loop begins with a subscription. -/
lemma loopBegin_eq_some {s : Server} {nbFeed i : ℕ} {l : Loop} (h : s.loopBegin nbFeed i = some l) :
    ∃ infos feed startPost postsCount, l = .build nbFeed i infos feed startPost postsCount [] := by
  obtain ⟨i', -, h⟩ := Option.bind_eq_some_iff.mp h
  obtain ⟨info, -, h⟩ := Option.bind_eq_some_iff.mp h
  obtain ⟨f, -, h⟩ := Option.bind_eq_some_iff.mp h
  obtain ⟨feed, -, h⟩ := Option.bind_eq_some_iff.mp h
  exact ⟨_, _, _, _, (Option.some.inj h).symm⟩

lemma loopBuild_made {s : Server} {nbFeed k : ℕ} {ptr : Ptr} {n : Notification}
    (h : s.loopBuild nbFeed ptr k = some n) : n.Made nbFeed := by
  obtain ⟨feed, -, h⟩ := Option.bind_eq_some_iff.mp h
  obtain ⟨k', -, h⟩ := Option.bind_eq_some_iff.mp h
  obtain ⟨post, -, h⟩ := Option.bind_eq_some_iff.mp h
  rw [← Option.some.inj h]
  rfl

/-- The loop leaves the number of subscriptions as it is. -/
lemma Server.LoopStore.length_eq {s s' : Server} (h : s.LoopStore s') :
    s'.suscribe.toList.length = s.suscribe.toList.length := by
  obtain heq | ⟨ptr, info, n, -, heq⟩ := h.suscribe_eq
  · rw [heq]
  · rw [heq, FullArray.toList_write, List.length_set]

/-- A step of the loop. -/
lemma loopStep_made {s : Server} {ok : Bool} {l : Loop}
    {r : Server × Loop × Option (ℕ × Notification)} (h : s.loopStep ok l = some r)
    (hl : l.Made s.suscribe.toList.length) : r.2.1.Made r.1.suscribe.toList.length := by
  rw [(loopStep_loopStore h).length_eq]
  cases loopStep_cases h with
  | sleep => exact s.suscribe.length_eq
  | begins hi hbegin =>
      obtain ⟨infos, feed, startPost, postsCount, rfl⟩ := loopBegin_eq_some hbegin
      exact ⟨hl, fun n hn => absurd hn List.not_mem_nil⟩
  | ended => trivial
  | made hlength hbuild =>
      obtain ⟨rfl, hmade⟩ := hl
      refine ⟨rfl, fun m hm => ?_⟩
      obtain hm | hm := List.mem_append.mp hm
      · exact hmade m hm
      · rw [List.mem_singleton.mp hm]
        exact loopBuild_made hbuild
  | built => exact hl
  | sent => exact hl
  | failed => trivial
  | stored => exact hl.1

/-- The loop sends one of the notifications of the round. -/
lemma mem_of_loopStep {s s' : Server} {ok : Bool} {l l' : Loop} {i : ℕ} {n : Notification}
    (h : s.loopStep ok l = some (s', l', some (i, n))) :
    ∃ nbFeed infos feed startPost postsCount a j,
      l = .send nbFeed i infos feed startPost postsCount a j ∧ n ∈ a := by
  cases loopStep_cases h with
  | sent hj hget => exact ⟨_, _, _, _, _, _, _, rfl, List.mem_of_getElem? hget⟩

/-- **The notifications of a round** are made as they are meant to be, over every step. -/
lemma notifStep_made {s s' : NotifState} {act : NotifInput} {o : Unit}
    (h : notifStep s act = some (s', o)) (hs : s.loop.Made s.server.suscribe.toList.length) :
    s'.loop.Made s'.server.suscribe.toList.length := by
  cases act with
  | post env pseudo datalen data feedNumber =>
      obtain ⟨server, hpost, h⟩ := Option.map_eq_some_iff.mp h
      cases h
      rw [(postNew_extends hpost).length_eq]
      exact hs
  | loop ok =>
      obtain ⟨r, hloop, h⟩ := Option.map_eq_some_iff.mp h
      cases h
      exact loopStep_made hloop hs

/-! ### What is sent -/

/-- The notification `n` for subscription number `i` says of which feed its post is, who has written
it, and what it begins with. -/
structure NotifState.DescribesPost (s : NotifState) (i : ℕ) (n : Notification) : Prop where
  belongs : ∃ info feed, s.server.Subscription i info feed ∧ n.post ∈ feed.posts.toList ∧
    n.nt.feedNumber.toNat = info.nbfeed
  pseudo : n.nt.pseudo = n.post.pseudo
  data : read n.nt.data 0 NT_DATA_LEN = n.post.text.take NT_DATA_LEN ++
    List.replicate (NT_DATA_LEN - n.post.datalen.toNat) 0

/-- The number of subscriptions is, as a `uint16_t`, the number of the feed of subscription number
`i`, and the text of the post is not shorter than the data of a notification, or there is a zero
behind it. -/
structure NotifState.NumberedAlike (s : NotifState) (i : ℕ) (n : Notification) : Prop where
  number : ∃ info, s.server.suscribe.toList[i]? = some info ∧
    s.server.suscribe.toList.length % 2 ^ 16 = info.nbfeed
  text : NT_DATA_LEN ≤ n.post.datalen.toNat ∨ n.post.data n.post.datalen.toNat = 0

/-- The step sends the notification `n` for subscription number `i`. -/
def SendsNotif (t : Machine.Transition NotifState NotifInput Unit) (i : ℕ) (n : Notification) :
    Prop :=
  ∃ ok s' l', t.act = .loop ok ∧
    t.pre.server.loopStep ok t.pre.loop = some (s', l', some (i, n))

/-- **A notification that is sent** describes its post exactly when the numbers are alike. -/
lemma describesPost_iff {t : Machine.Transition NotifState NotifInput Unit} {i : ℕ}
    {n : Notification} (hinv : t.pre.Inv)
    (hmade : t.pre.loop.Made t.pre.server.suscribe.toList.length) (hsends : SendsNotif t i n)
    (htext : 0 ∉ n.post.text) : t.pre.DescribesPost i n ↔ t.pre.NumberedAlike i n := by
  obtain ⟨ok, s', l', -, hstep⟩ := hsends
  have heffect := loopStep_effect hinv.subs hinv.loop hstep
  obtain ⟨nbFeed, infos, ptr, startPost, postsCount, a, j, hl, hn⟩ := mem_of_loopStep hstep
  rw [hl] at hmade heffect
  have hnt := hmade.2 n hn
  obtain ⟨info, feed, hsub, hmem⟩ : ∃ info feed, t.pre.server.Subscription i info feed ∧
      n.post ∈ feed.posts.toList := by
    cases heffect with
    | sent hround hlen hj hpost => exact ⟨_, _, hround.sub, List.mem_of_getElem? hpost⟩
  constructor
  · rintro ⟨⟨info', feed', hsub', -, hnumber⟩, -, hdata⟩
    refine ⟨⟨info', hsub'.info_eq, ?_⟩, ?_⟩
    · rw [← hnt.feedNumber_eq, hnumber]
    · rwa [hnt.data_eq, Post.text, textOf, strncpy_eq_iff htext] at hdata
  · rintro ⟨⟨info', hinfo', hnumber⟩, hbehind⟩
    obtain rfl : info = info' := Option.some.inj (hsub.info_eq.symm.trans hinfo')
    refine ⟨⟨info, feed, hsub, hmem, ?_⟩, ?_, ?_⟩
    · rw [hnt.feedNumber_eq, hnumber]
    · rw [hnt]
      rfl
    · rwa [hnt.data_eq, Post.text, textOf, strncpy_eq_iff htext]

/-- **Every notification describes its post**, over every run of the loop, from any feeds and
subscriptions, exactly when the number of the feed is the number of subscriptions, and a short text
ends with a zero, for each that is sent. -/
theorem describes_posts_iff {s s' : NotifState}
    {ts : List (Machine.Transition NotifState NotifInput Unit)} (hsubs : s.server.Subscribed)
    (hloop : s.loop = .sleep) (h : Machine.Run notifStep s ts s') :
    (∀ t ∈ ts, ∀ i n, SendsNotif t i n → 0 ∉ n.post.text → t.pre.DescribesPost i n) ↔
      ∀ t ∈ ts, ∀ i n, SendsNotif t i n → 0 ∉ n.post.text → t.pre.NumberedAlike i n := by
  have hstart : s.Inv ∧ s.loop.Made s.server.suscribe.toList.length := by
    rw [hloop]
    exact ⟨⟨hsubs, by rw [hloop]; trivial⟩, trivial⟩
  have hsteps := h.forall_transition
    (P := fun s => s.Inv ∧ s.loop.Made s.server.suscribe.toList.length)
    (Q := fun t => t.pre.Inv ∧ t.pre.loop.Made t.pre.server.suscribe.toList.length)
    (fun s a s' o hs hstep => ⟨notifStep_inv hstep hs.1, notifStep_made hstep hs.2⟩)
    (fun s a s' o hs hstep => hs) hstart
  refine forall₂_congr fun t ht => ?_
  obtain ⟨hinv, hmade⟩ := hsteps t ht
  exact forall₂_congr fun i n => forall₂_congr fun hsends htext =>
    describesPost_iff hinv hmade hsends htext

/-! ### A notification that does not -/

namespace TwoSubscriptions

/-- A server with one feed and two subscriptions to it.  Behind the one byte of its post there are
others. -/
def server : Server :=
  { Race.server with
    suscribe := Race.server.suscribe.append ⟨1, 0, ⟨.replicate ADDRMULT_LEN 0, 6228, 3, 6228⟩⟩ }

/-- The loop before its first round. -/
def start : NotifState := ⟨server, .sleep, fun _ => []⟩

lemma subscribed_start : start.server.Subscribed := by
  intro i hi
  have hi : i < 2 := hi
  obtain rfl | rfl : i = 0 ∨ i = 1 := by omega
  · exact ⟨_, _, rfl, Nat.one_pos, rfl, Nat.zero_le _⟩
  · exact ⟨_, _, rfl, Nat.one_pos, rfl, Nat.zero_le _⟩

/-- What is sent for the first subscription. -/
def sent : Notification :=
  ⟨Race.first, serverrqNtNew SUBSCRIBE.toUInt16 2 Race.author (.replicate NT_DATA_LEN 98)⟩

/-- The notification is sent in the fifth step. -/
lemma exists_run : ∃ ts s, Machine.Run notifStep start ts s ∧
    ∃ t ∈ ts, SendsNotif t 0 sent ∧ 0 ∉ sent.post.text := by
  refine ⟨_, _, .cons (a := .loop true) rfl (.cons (a := .loop true) rfl
    (.cons (a := .loop true) rfl (.cons (a := .loop true) rfl
    (.cons (a := .loop true) rfl (.nil _))))), _, List.mem_cons_of_mem _ (List.mem_cons_of_mem _
    (List.mem_cons_of_mem _ (List.mem_cons_of_mem _ List.mem_cons_self))), ?_⟩
  exact ⟨⟨true, _, _, rfl, rfl⟩, by decide⟩

/-- The notification has the number of subscriptions, and twenty bytes for a text of one. -/
theorem not_describesPosts : start.server.Subscribed ∧ start.loop = .sleep ∧
    ∃ ts s, Machine.Run notifStep start ts s ∧
      ¬∀ t ∈ ts, ∀ i n, SendsNotif t i n → 0 ∉ n.post.text → t.pre.DescribesPost i n := by
  obtain ⟨ts, s, hrun, t, ht, hsends, htext⟩ := exists_run
  refine ⟨subscribed_start, rfl, ts, s, hrun, fun h => ?_⟩
  have hdata := (h t ht 0 sent hsends htext).data
  exact absurd hdata (by decide)

/-- Both sides fail in this run. -/
theorem describes_posts_iff_two : start.server.Subscribed ∧ start.loop = .sleep ∧
    ∃ ts s, Machine.Run notifStep start ts s ∧
      ((∀ t ∈ ts, ∀ i n, SendsNotif t i n → 0 ∉ n.post.text → t.pre.DescribesPost i n) ↔
        ∀ t ∈ ts, ∀ i n, SendsNotif t i n → 0 ∉ n.post.text → t.pre.NumberedAlike i n) := by
  obtain ⟨ts, s, hrun, -⟩ := exists_run
  exact ⟨subscribed_start, rfl, ts, s, hrun, describes_posts_iff subscribed_start rfl hrun⟩

end TwoSubscriptions

end Megaphone
