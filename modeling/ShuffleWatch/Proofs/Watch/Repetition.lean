import ShuffleWatch.Proofs.Session.Requests
import ShuffleWatch.Proofs.Watch.Grounds

/-!
# No request is repeated

A client whose shuffle is on chain when a feed is opened is not asked again
(`outbox_eq_none_of_opens`), as long as it plays the same role for the same
players and no later rematch is delivered. Whatever happens in between, the
session either knows of the shuffle, and finds no reason to ask, or it holds
requests back until the feed has delivered it (`Secures`). When the feed is lost
or the session begins anew, the next feed delivers it again.
-/

namespace ShuffleWatch

open Position (isAbove reaches)

namespace Session

variable {s : Session} {a : Address} {q : Position}

/-- A client whose shuffle is known and above the floor should not act. -/
theorem shouldAct_eq_false_of_reflects (hc : s.facts.IsCoherent)
    (ha : s.players.roleOf (some a) = .ok s.role)
    (h : s.facts.Reflects ⟨q, .shuffled s.game a⟩) (hq : isAbove s.floor q = true) :
    s.shouldAct s.role = false := by
  -- The entry is above the floor, so that the session has not dropped it. If
  -- the address is a player of the game, its shuffle was recorded.
  have hrecorded : s.players.contains a = true → (s.facts.shuffleBy a).isSome = true := by
    intro hplayer
    refine Position.isSome_of_reaches ((h rfl).resolve_left (fun hfloor => ?_) hplayer)
    exact absurd hfloor (Bool.eq_false_iff.1 (Position.isAbove_iff_not_reaches.1 hq))
  rw [Players.roleOf] at ha
  split at ha
  · rename_i hcreator
    have hknown : s.progress.creator = true := by
      rw [hcreator, shuffleBy_creator] at hrecorded
      exact hc.creator_flag.trans (hrecorded Players.contains_creator)
    rw [← Except.ok.inj ha, shouldAct, hknown, Bool.not_true, Bool.and_false]
  split at ha
  · rename_i hjoiner
    have hknown : s.progress.joiner = true := by
      rw [hjoiner, shuffleBy_joiner hc.creator_ne_joiner] at hrecorded
      exact hc.joiner_flag.trans (hrecorded Players.contains_joiner)
    rw [← Except.ok.inj ha, shouldAct, hknown, Bool.not_true, Bool.and_false]
  · -- An observer never acts.
    rw [← Except.ok.inj ha, shouldAct]

end Session

namespace Watch

/-- A step in which the watch opens a feed. -/
def Opens (w v : Watch) : Prop := Step w v ∧ w.access.chain.opened < v.access.chain.opened

/-- The client plays the same role for the same players as in the watch `u`, and
    no rematch of the game was delivered at the position or above it. -/
structure Upholds (u : Watch) (q : Position) (w : Watch) : Prop where
  players_eq : w.session.players = u.session.players
  role_eq : w.session.role = u.session.role
  rematch_lt : ∀ e ∈ w.access.chain.history,
    e.event = .rematch u.session.game → e.position < q

/-- If the watch follows a feed, its session knows of the entry, or holds requests
    back until the feed has delivered it. -/
def Secures (w : Watch) (e : Entry) : Prop :=
  ∀ feed sub, w.phase = .following feed → w.access.chain.subscription? feed = some sub →
    w.session.facts.Reflects e ∨ w.session.holding = true ∧
      ∃ (es : List Entry) (rest : List Item),
        sub.queue = es.map .entry ++ .caughtUp :: rest ∧ e ∈ es

variable {u v w : Watch} {feed : Nat} {e : Entry} {sub : Subscription} {item : Item}
  {input : Input} {P : Watch → Prop} {q : Position} {a : Address}

instance : Decidable (u.Upholds q w) :=
  decidable_of_iff (w.session.players = u.session.players ∧ w.session.role = u.session.role ∧
      ∀ e ∈ w.access.chain.history, e.event = .rematch u.session.game → e.position < q)
    ⟨fun ⟨hplayers, hrole, hlt⟩ => ⟨hplayers, hrole, hlt⟩,
      fun ⟨hplayers, hrole, hlt⟩ => ⟨hplayers, hrole, hlt⟩⟩

/-! ## Securing an entry -/

/-- A new feed delivers what is on chain before the end of its backlog, until when
    requests are held back. -/
theorem secures_attach {status : Status} (hw : w.IsGrounded) (he : e ∈ w.access.chain.history)
    (hgame : e.event.game = w.session.game)
    (hphase : v.phase = .following w.access.chain.opened)
    (hchain : v.access.chain = (w.access.chain.subscribe w.filter).1)
    (hs : v.session = (w.session.awaitBacklog.seed status).1) : v.Secures e := by
  intro feed sub hfeed hsub
  rw [hphase] at hfeed
  cases hfeed
  rw [hchain, Chain.subscription?_subscribe hw.chain] at hsub
  cases hsub
  -- A new feed begins with the backlog, hence the entry comes before the mark.
  refine .inr ⟨?_, w.access.chain.backlog w.filter, [], rfl, ?_⟩
  · rw [hs, Session.holding_seed]
    rfl
  · exact List.mem_filter.2 ⟨he, admits_filter_iff.2 hgame⟩

/-- Taking an item from the feed secures what was secured: the entry is not taken
    before it is known, and nor is the mark behind it. -/
theorem Secures.next (hw : w.IsGrounded) (h : w.Secures e) (hphase : w.phase = .following feed)
    (hphase' : v.phase = .following feed)
    (hnext : w.access.chain.next feed = (v.access.chain, .item item))
    (hfacts : v.session.facts = (w.session.receive item).1.facts)
    (hholding : v.session.holding = (w.session.receive item).1.holding) : v.Secures e := by
  intro feed' sub hfeed hsub
  rw [hphase'] at hfeed
  cases hfeed
  obtain ⟨sub', rest', hsub', hqueue, hrest, -⟩ := Chain.next_eq_item hnext
  rw [hrest] at hsub
  cases hsub
  rw [hfacts, hholding]
  rcases h feed sub' hphase hsub' with hreflects | ⟨hhold, es, rest, hes, he⟩
  · exact .inl (hreflects.receive hw.session.isCoherent)
  -- The entry waits before the mark, so what is taken is an entry, not the mark.
  · cases es with
    | nil => cases he
    | cons e' es =>
      rw [hqueue] at hes
      obtain ⟨rfl, rfl⟩ := List.cons.inj hes
      rcases List.mem_cons.1 he with rfl | he
      · exact .inl (Session.reflects_apply hw.session.isCoherent)
      · exact .inr ⟨(Session.holding_apply e').trans hhold, es, rest, rfl, he⟩

/-- A step secures what was secured. -/
theorem Secures.move (hw : w.IsGrounded) (he : e ∈ w.access.chain.history)
    (hgame : e.event.game = w.session.game) (h : w.Secures e) (hm : w.Move v) : v.Secures e := by
  -- As long as the feed holds the entry, the session waits for the
  -- mark behind it. Taking the entry makes it known for good.
  cases hm with
  | attach _ hphase hchain hs _ => exact secures_attach hw he hgame hphase hchain hs
  | take _ hphase hphase' hnext hs _ =>
    exact h.next hw hphase hphase' hnext (congrArg Session.facts hs) (congrArg Session.holding hs)
  | resync _ hphase hphase' hnext hs _ =>
    refine h.next hw hphase hphase' hnext ?_ ?_
    · rw [hs, Session.facts_seed]
    · rw [hs, Session.holding_seed]
  | stay hphase hchain hs _ =>
    intro feed sub hfeed hsub
    rw [hphase] at hfeed
    rw [hchain] at hsub
    rw [hs]
    exact h feed sub hfeed hsub
  | leave _ hphase _ _ _ _ => exact fun feed _ hfeed => absurd hfeed (hphase feed)

/-- An input secures what was secured, as it only adds to what waits in the feed. -/
theorem Secures.accept (h : w.Secures e) : (w.accept input).Secures e := by
  have hs := (accept_frame w input).session_eq
  have hchain := (accept_frame w input).chain_eq
  intro feed sub hfeed hsub
  rw [following_accept_iff] at hfeed
  rw [hs]
  cases hh : input.happening? with
  | none =>
    rw [hh, Option.elim_none] at hchain
    rw [hchain] at hsub
    exact h feed sub hfeed hsub
  | some happening =>
    rw [hh, Option.elim_some] at hchain
    rw [hchain, Chain.subscription?_undergo] at hsub
    obtain ⟨sub', hsub', rfl⟩ := Option.map_eq_some_iff.1 hsub
    refine (h feed sub' hfeed hsub').imp id fun ⟨hhold, es, rest, hes, he⟩ => ⟨hhold, es, ?_⟩
    -- What is relayed comes last, behind the entry and the mark.
    obtain ⟨more, hqueue, -⟩ := Chain.queue_relay w.access.chain happening sub'
    refine ⟨rest ++ more, ?_, he⟩
    rw [hqueue, hes, List.append_assoc, List.cons_append]

/-- A step that opens a feed secures every entry of the game that is on chain. -/
theorem secures_of_opens (hw : w.IsGrounded) (he : e ∈ w.access.chain.history)
    (hgame : e.event.game = w.session.game) (hopens : w.Opens v) : v.Secures e := by
  obtain ⟨hstep, hlt⟩ := hopens
  -- Taking an item opens no feed.
  have hnot : ∀ {feed item}, w.access.chain.next feed = (v.access.chain, .item item) → False := by
    intro feed item hnext
    obtain ⟨sub, rest, -, -, -, -, hopened⟩ := Chain.next_eq_item hnext
    exact absurd hopened hlt.ne'
  cases hstep.move with
  | attach _ hphase hchain hs _ => exact secures_attach hw he hgame hphase hchain hs
  | take _ _ _ hnext _ _ => exact (hnot hnext).elim
  | resync _ _ _ hnext _ _ => exact (hnot hnext).elim
  | stay _ hchain _ _ =>
    rw [hchain] at hlt
    exact absurd rfl hlt.ne
  | leave _ hphase _ _ _ _ => exact fun feed _ hfeed => absurd hfeed (hphase feed)

/-! ## No action -/

/-- An action is on its way only when the session justifies it, and the watch
    follows a feed. -/
theorem Move.justifies {action : Action} (hm : w.Move v) (ho : v.outbox = some action) :
    v.session.Justifies action ∧ ∃ feed, v.phase = .following feed := by
  -- In each case in which the outbox is filled, this is by a verdict or a status that was read.
  cases hm with
  | @attach status _ hphase _ hs ho' =>
    have hanswers := Session.answers_seed (s := w.session.awaitBacklog) status
    rw [← hs, ← ho', ho] at hanswers
    exact ⟨hanswers.justifies, _, hphase⟩
  | @take feed item _ _ hphase _ hs ho' =>
    have hanswers := Session.answers_perform w.session (.receive item)
    change w.session.Answers (w.session.receive item).1
      (w.session.receive item).2.action? at hanswers
    rw [← hs, ← ho', ho] at hanswers
    exact ⟨hanswers.justifies, feed, hphase⟩
  | @resync feed item status _ _ hphase _ hs ho' =>
    have hanswers := Session.answers_seed (s := (w.session.receive item).1) status
    rw [← hs, ← ho', ho] at hanswers
    exact ⟨hanswers.justifies, feed, hphase⟩
  | stay _ _ _ ho' =>
    rw [ho'] at ho
    cases ho
  | leave _ _ _ _ _ ho' =>
    rw [ho'] at ho
    cases ho

/-- A step puts no action on its way, if it secures a shuffle of the client and no
    rematch has overtaken that. -/
theorem outbox_eq_none_of_secures (hm : w.Move v) (hv : v.IsGrounded)
    (hgame : v.session.game = u.session.game) (hupholds : u.Upholds q v)
    (ha : u.session.players.roleOf (some a) = .ok u.session.role)
    (hsecures : v.Secures ⟨q, .shuffled u.session.game a⟩) : v.outbox = none := by
  rw [← hgame] at hsecures
  rw [← hupholds.players_eq, ← hupholds.role_eq] at ha
  -- The floor is a rematch on chain, and these are all below the shuffle.
  have habove : isAbove v.session.floor q = true := by
    cases hfloor : v.session.floor with
    | none => rfl
    | some p =>
      have hmem : ⟨p, .rematch v.session.game⟩ ∈ v.access.chain.history :=
        hv.drawn.floor_mem p hfloor
      rw [hgame] at hmem
      have hlt := hupholds.rematch_lt _ hmem rfl
      exact Position.isAbove_some.2 hlt
  cases ho : v.outbox with
  | none => rfl
  | some action =>
    obtain ⟨hjustifies, feed, hfeed⟩ := hm.justifies ho
    obtain ⟨sub, hsub, -⟩ := hv.feed feed hfeed
    rcases hsecures feed sub hfeed hsub with hreflects | ⟨hholding, -⟩
    · have hact := Session.shouldAct_eq_false_of_reflects hv.session.isCoherent ha hreflects habove
      rw [hjustifies.shouldAct] at hact
      cases hact
    · rw [hjustifies.not_holding] at hholding
      cases hholding

/-- Suppose that a watch opens a feed when a shuffle of the client is on chain
    already. Then, as long as the client plays the same role for the same players,
    and no rematch is delivered at the position of the shuffle or above it, no
    action is on its way, and no step of the watch sends any to the outlet, whatever
    else happens. -/
theorem outbox_eq_none_of_opens {u' : Watch} (hw : w.IsNew) (hu : w.Leads u)
    (hopens : u.Opens u') (ha : u.session.players.roleOf (some a) = .ok u.session.role)
    (hq : ⟨q, .shuffled u.session.game a⟩ ∈ u.access.chain.history)
    (hv : u'.LeadsWhile (u.Upholds q) v) :
    v.outbox = none ∧ ∀ v', Step v v' → v'.outlet = v.outlet := by
  have hgu := isGrounded_leads hw.isGrounded hu
  have hgu' := hgu.move hopens.1.move
  have hgame := hopens.1.move.game_eq
  -- From the moment at which the feed is opened, the shuffle is on chain and secured.
  have hinv : ⟨q, .shuffled u.session.game a⟩ ∈ v.access.chain.history ∧
      v.Secures ⟨q, .shuffled u.session.game a⟩ ∧ v.outbox = none := by
    induction hv with
    | refl hupholds =>
      have hsecures := secures_of_opens hgu hq rfl hopens
      refine ⟨?_, hsecures, ?_⟩
      · rw [hopens.1.move.serves.history_eq]
        exact hq
      · exact outbox_eq_none_of_secures hopens.1.move hgu' hgame hupholds ha hsecures
    | @step x y hx hstep hupholds ih =>
      obtain ⟨hmem, hsecures, -⟩ := ih
      have hgx := isGrounded_leads hgu' hx.leads
      have hgamex := (game_leads hx.leads).trans hgame
      have hsecures' := hsecures.move hgx hmem hgamex.symm hstep.move
      refine ⟨?_, hsecures', ?_⟩
      · rw [hstep.move.serves.history_eq]
        exact hmem
      · exact outbox_eq_none_of_secures hstep.move (hgx.move hstep.move)
          (hstep.move.game_eq.trans hgamex) hupholds ha hsecures'
    | @accept x input _ _ ih =>
      obtain ⟨hmem, hsecures, houtbox⟩ := ih
      exact ⟨mem_history_accept input hmem, hsecures.accept,
        (accept_frame x input).outbox_eq.trans houtbox⟩
  exact ⟨hinv.2.2, fun v' hstep => outlet_eq_of_step hinv.2.2 hstep⟩

/-- A client that shuffled is not asked again, after a rematch below its shuffle, a
    lost feed and an epoch that the application asked for. -/
theorem outbox_eq_none_of_opens_restarted :
    ∃ w u u' v : Watch, w.IsNew ∧ w.Leads u ∧ u.Opens u' ∧ u'.LeadsWhile (u.Upholds ⟨5, 0⟩) v ∧
      v.access.chain.opened = 3 ∧ v.session.epoch = 2 ∧ v.session.status = .shuffling ∧
      v.session.holding = false ∧ v.outbox = none ∧ ∀ v', Step v v' → v'.outlet = v.outlet := by
  let w := create (Session.fresh ⟨7⟩ ⟨.fill 0xc1, .fill 0x01⟩ .creator)
    (.ofRange 1000000 1000000) .empty (.ofCapacity 4) []
  let u := ((w.accept (.happen (.setStatus ⟨7⟩ .shuffling))).accept
    (.happen (.deliver ⟨⟨5, 0⟩, .shuffled ⟨7⟩ (.fill 0xc1)⟩))).accept .start
  let lost := settleWithin 4 (((settleWithin 4 u.connect).accept
    (.happen (.deliver ⟨⟨4, 0⟩, .rematch ⟨7⟩⟩))).accept (.happen .disconnect))
  let back := settleWithin 9 (lost.accept (.elapse 1000000))
  let v := settleWithin 9 (back.accept (.post .restart))
  have hw : w.IsNew := .create _ _ _
    (show Setup.session ⟨some ⟨7⟩, some (.fill 0xc1), some (.fill 0x01), some (.fill 0xc1)⟩ =
      .ok _ from rfl) .empty
  have hu : w.Leads u := .accept _ (.accept _ (.accept _ .refl))
  have hopens : u.Opens u.connect := ⟨.step rfl, by decide +kernel⟩
  -- The connection is lost and opened again, and then an epoch is
  -- begun by request. The shuffle stays above the floor all along.
  have hlost : u.connect.LeadsWhile (u.Upholds ⟨5, 0⟩) lost :=
    .settleWithin (.accept _ (.accept _ (.settleWithin (.refl (by decide +kernel)) 4
      (by decide +kernel)) (by decide +kernel)) (by decide +kernel)) 4 (by decide +kernel)
  have hback : u.connect.LeadsWhile (u.Upholds ⟨5, 0⟩) back :=
    .settleWithin (.accept _ hlost (by decide +kernel)) 9 (by decide +kernel)
  have hv : u.connect.LeadsWhile (u.Upholds ⟨5, 0⟩) v :=
    .settleWithin (.accept _ hback (by decide +kernel)) 9 (by decide +kernel)
  have ha : u.session.players.roleOf (some (.fill 0xc1)) = .ok u.session.role := by decide +kernel
  have hq : ⟨⟨5, 0⟩, .shuffled u.session.game (.fill 0xc1)⟩ ∈ u.access.chain.history := by
    decide +kernel
  obtain ⟨houtbox, houtlet⟩ := outbox_eq_none_of_opens hw hu hopens ha hq hv
  exact ⟨w, u, u.connect, v, hw, hu, hopens, hv, by decide +kernel, by decide +kernel,
    by decide +kernel, by decide +kernel, houtbox, houtlet⟩

end Watch

end ShuffleWatch
