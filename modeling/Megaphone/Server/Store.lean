import Megaphone.Library.Extends
import Megaphone.Server.Run

/-!
The store of the server only grows.

* `Feed.GrowsTo`, `Server.GrowsTo`: a feed and a server that have more posts, feeds and users than
  before, and everything that they had.
* `requests_growsTo`, `handleTcpConnection_growsTo`, `step_store`: what a step does to the store.
* `store_append_only`: what a run does to it.
-/

namespace Megaphone

open Growing

/-- The feed has kept its creator and its posts. -/
structure Feed.GrowsTo (feed feed' : Feed) : Prop where
  creator_eq : feed'.creator = feed.creator
  posts_prefix : feed.posts.toList <+: feed'.posts.toList

/-- The server has kept its users and its feeds. -/
structure Server.GrowsTo (s s' : Server) : Prop where
  users_prefix : s.users.toList <+: s'.users.toList
  feeds_grow : Growing.Extends Feed.GrowsTo s.feeds.toList s'.feeds.toList

lemma Feed.GrowsTo.refl (feed : Feed) : feed.GrowsTo feed := ⟨rfl, List.prefix_rfl⟩

lemma Feed.GrowsTo.trans {feed feed' feed'' : Feed} (h : feed.GrowsTo feed')
    (h' : feed'.GrowsTo feed'') : feed.GrowsTo feed'' :=
  ⟨h'.creator_eq.trans h.creator_eq, h.posts_prefix.trans h'.posts_prefix⟩

namespace Server

variable {env : Env} {s s' s'' : Server}

lemma GrowsTo.refl (s : Server) : s.GrowsTo s :=
  ⟨List.prefix_rfl, Growing.Extends.refl Feed.GrowsTo.refl _⟩

lemma GrowsTo.trans (h : s.GrowsTo s') (h' : s'.GrowsTo s'') : s.GrowsTo s'' :=
  ⟨h.users_prefix.trans h'.users_prefix,
    h.feeds_grow.trans (fun _ _ _ => Feed.GrowsTo.trans) h'.feeds_grow⟩

/-- Only the users and the feeds matter. -/
lemma GrowsTo.of_eq (husers : s'.users = s.users) (hfeeds : s'.feeds = s.feeds) : s.GrowsTo s' := by
  refine ⟨?_, ?_⟩
  · rw [husers]
  · rw [hfeeds]
    exact Growing.Extends.refl Feed.GrowsTo.refl _

/-- Everything is kept that there was before, so that there are not fewer feeds. -/
lemma GrowsTo.feeds_le (h : s.GrowsTo s') : s.feeds.toList.length ≤ s'.feeds.toList.length :=
  h.feeds_grow.length_le

/-! ### What the functions append -/

lemma userNew_growsTo (s : Server) (id : UInt16) (pseudo : Pseudo) :
    s.GrowsTo (s.userNew id pseudo) :=
  ⟨List.prefix_append _ _, Growing.Extends.refl Feed.GrowsTo.refl _⟩

lemma SameStore.growsTo (h : SameStore s s') : s.GrowsTo s' := .of_eq h.users_eq h.feeds_eq

lemma NewFeed.growsTo (h : NewFeed env s s') : s.GrowsTo s' := by
  obtain ⟨creator, rfl⟩ := h
  exact ⟨List.prefix_rfl, extends_append Feed.GrowsTo.refl _ _⟩

lemma NewPost.growsTo (h : NewPost s s') : s.GrowsTo s' := by
  obtain ⟨i, feed, post, hi, rfl⟩ := h
  refine ⟨List.prefix_rfl, extends_set Feed.GrowsTo.refl fun feed' hfeed' => ?_⟩
  obtain rfl := Option.some.inj (hi.symm.trans hfeed')
  exact ⟨rfl, List.prefix_append _ _⟩

lemma Posting.growsTo (h : Posting env s s') : s.GrowsTo s' := by
  cases h with
  | same h => exact h.growsTo
  | feed h₁ h => exact h₁.growsTo.trans h.growsTo
  | post h₁ h => exact h₁.growsTo.trans h.growsTo
  | feedPost h₁ h₂ h => exact (h₁.growsTo.trans h₂.growsTo).trans h.growsTo

/-- `notif_new` writes the field `notif` of a record, whose other fields are those that it has read,
or a record that is not a feed. -/
lemma notifNew_growsTo {nbfeed : ℕ} {mult : Mult} (h : s.notifNew env nbfeed mult = some s') :
    s.GrowsTo s' := by
  obtain ⟨i, -, h⟩ := Option.bind_eq_some_iff.mp h
  obtain ⟨feed, hfeed, h⟩ := Option.bind_eq_some_iff.mp h
  cases h
  refine ⟨List.prefix_rfl, extends_set Feed.GrowsTo.refl fun feed' hfeed' => ?_⟩
  have hslot := (FullArray.slot_eq_some hfeed).2
  have hat : s.feeds.toCArray.at? i = some feed' := FullArray.at?_eq_some hfeed'
  change (s.feeds.toCArray.at? i).getD env.junkFeed = feed at hslot
  rw [hat, Option.getD_some] at hslot
  subst hslot
  exact ⟨rfl, List.prefix_rfl⟩

lemma subscriptionsRequest_growsTo {a : CArray ServerRQ} {rq : ClientRQCl} {h : Handled}
    (hrq : s.subscriptionsRequest env a rq = some h) : s.GrowsTo h.server := by
  obtain ⟨e, -, -, rfl⟩ | ⟨-, -, -, feed, s', mult, -, hs', -, rfl⟩ :=
    subscriptionsRequest_cases hrq
  · exact .of_eq rfl rfl
  · split at hs'
    · exact notifNew_growsTo hs'
    · cases hs'
      exact .refl s

/-- A request appends to the store, whether it is accepted or not. -/
lemma requests_growsTo {a : CArray ServerRQ} {rq : ClientRQ} {h : Handled}
    (hrq : s.requests env a rq = some h) : s.GrowsTo h.server := by
  cases rq with
  | rg rq =>
      obtain ⟨-, rfl⟩ | ⟨-, id, -, rfl⟩ := registrationRequest_cases hrq
      · exact .of_eq rfl rfl
      · exact userNew_growsTo s id rq.pseudo
  | cl type htype rq =>
      by_cases hsub : type = SUBSCRIBE
      · subst hsub
        exact subscriptionsRequest_growsTo hrq
      · exact (requests_posting hsub hrq).growsTo

lemma handleTcpConnection_growsTo {rq : ClientRQ} {ans : Answer}
    (h : s.handleTcpConnection env rq = some (s', ans)) : s.GrowsTo s' := by
  obtain ⟨r, e, hrq, rfl⟩ := handleTcpConnection_server h
  have hstart : s.GrowsTo { s with dErrno := NOERROR } := .of_eq rfl rfl
  exact (hstart.trans (requests_growsTo hrq)).trans (.of_eq rfl rfl)

end Server

/-- **The store, one step.** -/
lemma step_store {w w' : World} {i : Input} {out : Option Answer}
    (h : step w i = some (w', out)) : w.server.GrowsTo w'.server := by
  cases step_cases h with
  | @tcp env rq s' ans hconn =>
      exact Server.handleTcpConnection_growsTo hconn
  | sent hs' =>
      exact (Server.idClearTransfer_sameStore hs').growsTo
  | timeout now =>
      exact .of_eq rfl rfl
  | udp hrecv hp =>
      exact (Server.handleUploadPacket_posting hp).growsTo
  | loop hr =>
      have hstore := loopStep_loopStore hr
      exact .of_eq hstore.users_eq hstore.feeds_eq

/-- The store over a run. -/
lemma run_store {w w' : World} {ts : List ServerTransition} (h : Machine.Run step w ts w') :
    w.server.GrowsTo w'.server :=
  h.rel (R := fun w w' => w.server.GrowsTo w'.server) (fun w => .refl w.server)
    (fun _ _ _ => Server.GrowsTo.trans) fun _ _ _ _ => step_store

/-- **The store is append-only.**  Over every run, from any state of the server: the users are a
prefix of the later ones, the creators of the feeds are a prefix of the later ones, and the posts of
each feed are a prefix of those that the feed with the same number has later.

A run ends where the code leaves the memory of an array: at a subscription to the last feed when the
array of the feeds is full, at a block behind which `write_file` reads over the blocks that are
stored, and at the name of a file whose path does not fit into `MAX_DATALEN` bytes. -/
theorem store_append_only {w w' : World} {ts : List ServerTransition}
    (h : Machine.Run step w ts w') :
    w.server.users.toList <+: w'.server.users.toList ∧
    (w.server.feeds.toList.map (·.creator)) <+: (w'.server.feeds.toList.map (·.creator)) ∧
    ∀ (i : ℕ) (feed : Feed), w.server.feeds.toList[i]? = some feed →
      ∃ feed', w'.server.feeds.toList[i]? = some feed' ∧ feed'.creator = feed.creator ∧
        feed.posts.toList <+: feed'.posts.toList := by
  obtain ⟨husers, hfeeds⟩ := run_store h
  refine ⟨husers, hfeeds.map_prefix fun _ _ hfeed => hfeed.creator_eq, fun i feed hfeed => ?_⟩
  obtain ⟨feed', hfeed', hcreator, hposts⟩ := hfeeds i feed hfeed
  exact ⟨feed', hfeed', hcreator, hposts⟩

/-- A post of user 1 on feed 1. -/
def postOne : Input :=
  .tcp (.quiet []) (.cl NEWPOST newpost_ne ⟨mkHeader NEWPOST 1, 1, 0, 1, fun _ => 99⟩)

/-- A feed with one post, and a second post on it. -/
theorem store_append_only_two : ∃ ts us w w', Machine.Run step World.init ts w ∧
    Machine.Run step w us w' ∧ w.server.users.toList.length = 1 ∧
    w'.server.feeds.toList.map (fun feed => feed.posts.toList.length) = [2] ∧
    w.server.users.toList <+: w'.server.users.toList ∧
    (w.server.feeds.toList.map (·.creator)) <+: (w'.server.feeds.toList.map (·.creator)) ∧
    ∀ (i : ℕ) (feed : Feed), w.server.feeds.toList[i]? = some feed →
      ∃ feed', w'.server.feeds.toList[i]? = some feed' ∧ feed'.creator = feed.creator ∧
        feed.posts.toList <+: feed'.posts.toList := by
  have hrun : Machine.Run step World.init _ _ :=
    .cons (a := .tcp (.quiet [0]) (.rg ⟨mkHeader REGISTRATION 0, .replicate PSEUDO_LEN 97⟩)) rfl <|
    .cons (a := .tcp (.quiet []) (.cl NEWPOST newpost_ne
      ⟨mkHeader NEWPOST 1, 0, 0, 1, fun _ => 98⟩)) rfl <| .nil _
  exact ⟨_, _, _, _, hrun, .cons (a := postOne) rfl (.nil _), rfl, rfl,
    store_append_only (.cons (a := postOne) rfl (.nil _))⟩

end Megaphone
