import ShuffleWatch.Proofs.Position.Latest
import ShuffleWatch.Session.Operation

/-!
# The facts of a session

What a session derives from the log of the chain alone: the floor, and who has
shuffled above it and where. The status, the requests and the link have no part
in them, and only a few operations change them: an entry of the log, and what
begins an epoch.

* `facts_perform`: an operation that does not begin an epoch at the wish of the
  application changes the facts by the entry that it brings, if any;
* `Facts.IsCoherent`: the players differ, the flags say which shuffles are
  recorded, and what is recorded is above the floor;
* `Reachable.isCoherent`: so it is in every session.
-/

namespace ShuffleWatch

namespace Players

variable {ps : Players}

theorem contains_creator : ps.contains ps.creator = true := by
  rw [contains, beq_self_eq_true, Bool.true_or]

theorem contains_joiner : ps.contains ps.joiner = true := by
  rw [contains, beq_self_eq_true, Bool.or_true]

end Players

namespace Session

open Position (reaches isAbove isAbove_some)

/-- What a session derives from the log of the chain, and for whom. -/
structure Facts where
  game : GameId
  players : Players
  floor : Option Position
  progress : Progress
  creatorShuffle : Option Position
  joinerShuffle : Option Position
  deriving DecidableEq

/-- The facts that the session goes by. -/
def facts (s : Session) : Facts :=
  ⟨s.game, s.players, s.floor, s.progress, s.creatorShuffle, s.joinerShuffle⟩

namespace Facts

/-- The recorded shuffle of the player with this address. -/
def shuffleBy (f : Facts) (a : Address) : Option Position :=
  if a = f.players.creator then f.creatorShuffle
  else if a = f.players.joiner then f.joinerShuffle
  else none

/-- The facts without the shuffles. -/
def withoutShuffles (f : Facts) : Facts :=
  { f with progress := .none, creatorShuffle := none, joinerShuffle := none }

/-- The players differ, the flags say which shuffles are recorded, and every
    recorded shuffle is above the floor. -/
structure IsCoherent (f : Facts) : Prop where
  creator_ne_joiner : f.players.creator ≠ f.players.joiner
  creator_flag : f.progress.creator = f.creatorShuffle.isSome
  joiner_flag : f.progress.joiner = f.joinerShuffle.isSome
  isAbove_floor : ∀ a p, f.shuffleBy a = some p → isAbove f.floor p = true

variable {f : Facts} {a : Address}

theorem shuffleBy_creator : f.shuffleBy f.players.creator = f.creatorShuffle := if_pos rfl

theorem shuffleBy_joiner (h : f.players.creator ≠ f.players.joiner) :
    f.shuffleBy f.players.joiner = f.joinerShuffle := by
  rw [shuffleBy, if_neg h.symm, if_pos rfl]

theorem shuffleBy_withoutShuffles : f.withoutShuffles.shuffleBy a = none := by
  rw [shuffleBy, withoutShuffles, ite_self, ite_self]

theorem isCoherent_withoutShuffles (h : f.players.creator ≠ f.players.joiner) :
    f.withoutShuffles.IsCoherent where
  creator_ne_joiner := h
  creator_flag := rfl
  joiner_flag := rfl
  isAbove_floor a p hp := by
    rw [shuffleBy_withoutShuffles] at hp
    cases hp

end Facts

variable {s : Session} {a b : Address} {p q : Position} {e : Entry}

theorem shuffleBy_creator : s.facts.shuffleBy s.players.creator = s.creatorShuffle :=
  Facts.shuffleBy_creator

theorem shuffleBy_joiner (h : s.players.creator ≠ s.players.joiner) :
    s.facts.shuffleBy s.players.joiner = s.joinerShuffle :=
  Facts.shuffleBy_joiner h

/-! ## What leaves the facts as they are -/

theorem facts_markAsked (r : Role) : (s.markAsked r).facts = s.facts := by
  cases r <;> rfl

@[simp]
theorem facts_takeAction : s.takeAction.1.facts = s.facts := by
  rw [takeAction]
  split
  · exact facts_markAsked s.role
  · rfl

@[simp]
theorem facts_advance (target : Status) : (s.advance target).facts = s.facts := by
  rw [advance]
  split <;> rfl

@[simp]
theorem facts_settle : s.settle.facts = s.facts := by
  rw [settle]
  split
  · exact facts_advance _
  · rfl

@[simp]
theorem facts_seed (status : Status) : (s.seed status).1.facts = s.facts := by
  rw [seed]
  split
  · rw [facts_takeAction, facts_settle]
    rfl
  · rfl

@[simp]
theorem facts_loseLink : s.loseLink.facts = s.facts := rfl

@[simp]
theorem facts_awaitBacklog : s.awaitBacklog.facts = s.facts := rfl

@[simp]
theorem facts_catchUp : s.catchUp.1.facts = s.facts := facts_takeAction

@[simp]
theorem facts_restart : s.restart.facts = s.facts.withoutShuffles := rfl

/-! ## Recording a shuffle -/

/-- A shuffle changes what is recorded of the player, and nothing else. -/
theorem shuffleBy_recordShuffle (hne : s.players.creator ≠ s.players.joiner)
    (ha : s.players.contains a = true) :
    (s.recordShuffle a p).facts.shuffleBy b =
      if b = a then some ((s.facts.shuffleBy a).elim p (max · p)) else s.facts.shuffleBy b := by
  rw [Players.contains, Bool.or_eq_true, beq_iff_eq, beq_iff_eq] at ha
  -- The shuffle is recorded with the creator if it is by them, and with the joiner otherwise.
  -- What is known of the other player must not change, for which they have to differ.
  rcases ha with rfl | rfl
  · rw [recordShuffle, if_pos rfl]
    split
    · rename_i hb
      subst hb
      rw [shuffleBy_creator (s := s)]
      exact if_pos rfl
    · rename_i hb
      exact (if_neg hb).trans (if_neg hb).symm
  · rw [recordShuffle, if_neg hne.symm]
    split
    · rename_i hb
      subst hb
      rw [shuffleBy_joiner (s := s) hne]
      exact (if_neg hne.symm).trans (if_pos rfl)
    · rename_i hb
      by_cases hc : b = s.players.creator
      · exact (if_pos hc).trans (if_pos hc).symm
      · exact (if_neg hc).trans ((if_neg hb).trans ((if_neg hc).trans (if_neg hb)).symm)

theorem recordShuffle_frame : (s.recordShuffle a p).game = s.game ∧
    (s.recordShuffle a p).players = s.players ∧ (s.recordShuffle a p).floor = s.floor := by
  rw [recordShuffle]
  split <;> exact ⟨rfl, rfl, rfl⟩

theorem game_recordShuffle : (s.recordShuffle a p).game = s.game := recordShuffle_frame.1

theorem players_recordShuffle : (s.recordShuffle a p).players = s.players :=
  recordShuffle_frame.2.1

theorem floor_recordShuffle : (s.recordShuffle a p).floor = s.floor := recordShuffle_frame.2.2

theorem isCoherent_recordShuffle (h : s.facts.IsCoherent) (ha : s.players.contains a = true)
    (hp : isAbove s.floor p = true) : (s.recordShuffle a p).facts.IsCoherent where
  creator_ne_joiner := by
    rw [show (s.recordShuffle a p).facts.players = s.players from players_recordShuffle]
    exact h.creator_ne_joiner
  creator_flag := by
    rw [recordShuffle]
    split
    · rfl
    · exact h.creator_flag
  joiner_flag := by
    rw [recordShuffle]
    split
    · exact h.joiner_flag
    · rfl
  isAbove_floor b q hq := by
    rw [show (s.recordShuffle a p).facts.floor = s.floor from floor_recordShuffle]
    rw [shuffleBy_recordShuffle h.creator_ne_joiner ha] at hq
    split at hq
    · cases hq
      -- The later of two positions is one of them, and both are above the floor.
      rcases Position.elim_max_eq (s.facts.shuffleBy a) p with hmax | hmax
      · rw [hmax]
        exact hp
      · exact h.isAbove_floor a _ hmax
    · exact h.isAbove_floor b q hq

/-! ## Rematches -/

/-- What was recorded of a player is carried over if it is above the rematch. -/
theorem shuffleBy_carryShuffle (hne : s.players.creator ≠ s.players.joiner)
    (ha : s.players.contains a = true) (hnone : s.facts.shuffleBy a = none)
    (o : Option Position) :
    (carryShuffle p s a o).facts.shuffleBy b =
      if b = a then o.filter (p < ·) else s.facts.shuffleBy b := by
  -- Nothing is recorded of the player, so it makes no difference to leave it so.
  have hsame : s.facts.shuffleBy b = if b = a then none else s.facts.shuffleBy b := by
    by_cases hb : b = a
    · rw [if_pos hb, hb, hnone]
    · rw [if_neg hb]
  cases o with
  | none => exact hsame
  | some q =>
    rw [carryShuffle]
    split
    · rename_i hpq
      rw [shuffleBy_recordShuffle hne ha, hnone, Option.elim_none, Option.filter_some,
        decide_eq_true hpq, if_pos rfl]
    · rename_i hpq
      rw [Option.filter_some, decide_eq_false hpq, if_neg Bool.false_ne_true, ← hsame]

theorem carryShuffle_frame {o : Option Position} : (carryShuffle p s a o).game = s.game ∧
    (carryShuffle p s a o).players = s.players ∧ (carryShuffle p s a o).floor = s.floor := by
  rw [carryShuffle.eq_def]
  split
  · split
    · exact recordShuffle_frame
    · exact ⟨rfl, rfl, rfl⟩
  · exact ⟨rfl, rfl, rfl⟩

theorem game_carryShuffle {o : Option Position} : (carryShuffle p s a o).game = s.game :=
  carryShuffle_frame.1

theorem players_carryShuffle {o : Option Position} : (carryShuffle p s a o).players = s.players :=
  carryShuffle_frame.2.1

theorem floor_carryShuffle {o : Option Position} : (carryShuffle p s a o).floor = s.floor :=
  carryShuffle_frame.2.2

theorem isCoherent_carryShuffle {o : Option Position} (h : s.facts.IsCoherent)
    (ha : s.players.contains a = true) (hp : s.floor = some p) :
    (carryShuffle p s a o).facts.IsCoherent := by
  rw [carryShuffle.eq_def]
  split
  · split
    · rename_i q hpq
      exact isCoherent_recordShuffle h ha (hp ▸ isAbove_some.2 hpq)
    · exact h
  · exact h

/-- The session at the rematch at position `p`, before any shuffle is carried over. -/
def raise (s : Session) (p : Position) : Session := { s with floor := some p }.restart

theorem facts_raise : (s.raise p).facts = { s.facts with floor := some p }.withoutShuffles := rfl

/-- A rematch carries over what was recorded of the creator, and then of the joiner. -/
theorem rematch_eq :
    s.rematch p = carryShuffle p (carryShuffle p (s.raise p) s.players.creator s.creatorShuffle)
      s.players.joiner s.joinerShuffle := rfl

theorem players_rematch : (s.rematch p).players = s.players := by
  rw [rematch_eq, players_carryShuffle, players_carryShuffle]
  rfl

theorem floor_rematch : (s.rematch p).floor = some p := by
  rw [rematch_eq, floor_carryShuffle, floor_carryShuffle]
  rfl

theorem game_rematch : (s.rematch p).game = s.game := by
  rw [rematch_eq, game_carryShuffle, game_carryShuffle]
  rfl

theorem isCoherent_rematch (h : s.facts.IsCoherent) : (s.rematch p).facts.IsCoherent := by
  have hraise : (s.raise p).facts.IsCoherent := by
    rw [facts_raise]
    exact Facts.isCoherent_withoutShuffles h.creator_ne_joiner
  refine isCoherent_carryShuffle (isCoherent_carryShuffle hraise ?_ rfl) ?_ ?_
  · exact Players.contains_creator
  · rw [players_carryShuffle]
    exact Players.contains_joiner
  · rw [floor_carryShuffle]
    rfl

/-- After a rematch, what was recorded above it is left. -/
theorem shuffleBy_rematch (h : s.facts.IsCoherent) :
    (s.rematch p).facts.shuffleBy a = (s.facts.shuffleBy a).filter (p < ·) := by
  have hne : s.players.creator ≠ s.players.joiner := h.creator_ne_joiner
  have hraise : ∀ b, (s.raise p).facts.shuffleBy b = none := fun b => by
    rw [facts_raise, Facts.shuffleBy_withoutShuffles]
  have hcreator : ∀ b, (carryShuffle p (s.raise p) s.players.creator
      s.creatorShuffle).facts.shuffleBy b =
        if b = s.players.creator then s.creatorShuffle.filter (p < ·) else none := fun b => by
    rw [shuffleBy_carryShuffle (s := s.raise p) (a := s.players.creator) hne
      Players.contains_creator (hraise _), hraise]
  -- The joiner is carried over last, which leaves the creator as it was.
  have hjoiner : (s.rematch p).facts.shuffleBy a =
      if a = s.players.joiner then s.joinerShuffle.filter (p < ·)
      else if a = s.players.creator then s.creatorShuffle.filter (p < ·) else none := by
    rw [rematch_eq, shuffleBy_carryShuffle (by rw [players_carryShuffle]; exact hne)
      (by rw [players_carryShuffle]; exact Players.contains_joiner)
      (by rw [hcreator, if_neg hne.symm]), hcreator]
  rw [hjoiner]
  by_cases hj : a = s.players.joiner
  · rw [if_pos hj, hj, shuffleBy_joiner hne]
  · rw [if_neg hj]
    by_cases hc : a = s.players.creator
    · rw [if_pos hc, hc, shuffleBy_creator]
    · rw [if_neg hc, show s.facts.shuffleBy a = none from (if_neg hc).trans (if_neg hj)]
      rfl

/-! ## Entries of the log -/

/-- An entry is taken in if it is of the game, above the floor, and about the
    right player. -/
theorem filtered?_eq_none_iff :
    s.filtered? e = none ↔ e.event.game = s.game ∧ isAbove s.floor e.position = true ∧
      s.players.accept e.event = true := by
  rw [filtered?, Position.isAbove_iff_not_reaches, isStale, ← reaches]
  split
  · rename_i hgame
    simp [hgame]
  · rename_i hgame
    rw [ne_eq, not_not] at hgame
    cases reaches s.floor e.position <;> cases s.players.accept e.event <;> simp [hgame]

theorem apply_of_filtered {why : Filtered} (h : s.filtered? e = some why) :
    s.apply e = (s, .filtered why) := by
  rw [apply, h]

theorem facts_apply (h : s.filtered? e = none) :
    (s.apply e).1.facts = (s.learn e.position e.event).facts := by
  rw [apply, h]
  dsimp only
  split
  · rfl
  · exact facts_takeAction

/-- Of the events, only shuffles and rematches bear on the facts. -/
theorem facts_learn (event : Event) :
    (s.learn p event).facts =
      match event with
      | .shuffled _ player => (s.recordShuffle player p).facts
      | .rematch _ => (s.rematch p).facts
      | _ => s.facts := by
  -- Moves of the status do not touch the facts. Only a shuffle and a rematch do.
  cases event with
  | created g a => exact facts_advance _
  | joined g a =>
    rw [learn]
    split
    · rw [facts_settle, facts_advance]
    · rfl
  | shuffled g a => exact facts_settle
  | ended g a => exact facts_advance _
  | rematch g => rfl

theorem game_apply : (s.apply e).1.game = s.game := by
  change (s.apply e).1.facts.game = s.facts.game
  cases h : s.filtered? e with
  | some why => rw [apply_of_filtered h]
  | none =>
    rw [facts_apply h, facts_learn]
    cases e.event with
    | shuffled g a => exact game_recordShuffle
    | rematch g => exact game_rematch
    | _ => rfl

theorem players_apply : (s.apply e).1.players = s.players := by
  change (s.apply e).1.facts.players = s.facts.players
  cases h : s.filtered? e with
  | some why => rw [apply_of_filtered h]
  | none =>
    rw [facts_apply h, facts_learn]
    cases e.event with
    | shuffled g a => exact players_recordShuffle
    | rematch g => exact players_rematch
    | _ => rfl

theorem isCoherent_apply (h : s.facts.IsCoherent) : (s.apply e).1.facts.IsCoherent := by
  cases hf : s.filtered? e with
  | some why =>
    rw [apply_of_filtered hf]
    exact h
  | none =>
    obtain ⟨-, habove, haccept⟩ := filtered?_eq_none_iff.1 hf
    rw [facts_apply hf, facts_learn]
    cases he : e.event with
    | shuffled g a =>
      rw [he] at haccept
      exact isCoherent_recordShuffle h haccept habove
    | rematch g => exact isCoherent_rematch h
    | _ => exact h

/-! ## Operations -/

/-- The entry of the log that the operation brings, if it brings one. -/
def Operation.entry? : Operation → Option Entry
  | .apply e => some e
  | .receive (.entry e) => some e
  | _ => none

/-- The operation begins an epoch at the wish of the application. -/
def Operation.startsOver : Operation → Bool
  | .restart => true
  | .rebind .. => true
  | _ => false

/-- The entries of the log that the operations bring. -/
def entries (ops : List Operation) : List Entry := ops.filterMap Operation.entry?

theorem entries_cons (op : Operation) (ops : List Operation) :
    entries (op :: ops) = op.entry?.toList ++ entries ops := by
  rw [entries, List.filterMap_cons]
  cases op.entry? <;> rfl

/-- But for the wishes of the application, only entries change the facts. -/
theorem facts_perform {op : Operation} (h : op.startsOver = false) :
    (s.perform op).1.facts =
      match op.entry? with
      | some e => (s.apply e).1.facts
      | none => s.facts := by
  -- Of the items of a feed, only an entry tells something.
  cases op with
  | seed status => exact facts_seed status
  | apply e => rfl
  | receive item =>
    cases item with
    | entry e => rfl
    | caughtUp => exact facts_catchUp
    | fault f =>
      simp only [perform, receive]
      split <;> rfl
  | catchUp => exact facts_catchUp
  | awaitBacklog => rfl
  | loseLink => rfl
  | restart => cases h
  | rebind players self => cases h

/-- Only two different players make a session. -/
theorem creator_ne_joiner_of_bind {players : Players} {self : Option Address} {r : Role}
    (h : bind players self = .ok r) : players.creator ≠ players.joiner := by
  rw [bind] at h
  split at h
  · cases h
  · assumption

theorem create_eq_ok {game : GameId} {players : Players} {self : Option Address}
    (h : create game players self = .ok s) :
    ∃ r, bind players self = .ok r ∧ s = fresh game players r := by
  rw [create] at h
  cases hr : bind players self with
  | error refusal =>
    rw [hr] at h
    cases h
  | ok r =>
    rw [hr] at h
    cases h
    exact ⟨r, rfl, rfl⟩

theorem rebind_eq_ok {players : Players} {self : Option Address} {t : Session}
    (h : s.rebind players self = .ok t) :
    ∃ r, bind players self = .ok r ∧ t = { s with players := players, role := r }.restart := by
  rw [rebind] at h
  cases hr : bind players self with
  | error refusal =>
    rw [hr] at h
    cases h
  | ok r =>
    rw [hr] at h
    cases h
    exact ⟨r, rfl, rfl⟩

/-- A session is about one game. -/
theorem game_perform (op : Operation) : (s.perform op).1.game = s.game := by
  -- An operation that starts over may change the players and the role, though not the game.
  cases hop : op.startsOver with
  | false =>
    change (s.perform op).1.facts.game = s.facts.game
    rw [facts_perform hop]
    split
    · exact game_apply
    · rfl
  | true =>
    cases op with
    | restart => rfl
    | rebind players self =>
      simp only [perform]
      split
      · rename_i t ht
        obtain ⟨r, -, rfl⟩ := rebind_eq_ok ht
        rfl
      · rfl
    | _ => cases hop

theorem game_run (ops : List Operation) : (s.run ops).1.game = s.game := by
  induction ops generalizing s with
  | nil => rfl
  | cons op ops ih => exact ih.trans (game_perform op)

theorem players_perform {op : Operation} (h : op.startsOver = false) :
    (s.perform op).1.players = s.players := by
  change (s.perform op).1.facts.players = s.facts.players
  rw [facts_perform h]
  split
  · exact players_apply
  · rfl

theorem isCoherent_perform (op : Operation) (h : s.facts.IsCoherent) :
    (s.perform op).1.facts.IsCoherent := by
  -- What starts over forgets all shuffles, and a rebinding
  -- that gives one address both roles is refused.
  cases hop : op.startsOver with
  | false =>
    rw [facts_perform hop]
    split
    · exact isCoherent_apply h
    · exact h
  | true =>
    cases op with
    | restart => exact Facts.isCoherent_withoutShuffles h.creator_ne_joiner
    | rebind players self =>
      simp only [perform]
      split
      · rename_i t ht
        obtain ⟨r, hr, rfl⟩ := rebind_eq_ok ht
        rw [facts_restart]
        exact Facts.isCoherent_withoutShuffles (creator_ne_joiner_of_bind hr)
      · exact h
    | _ => cases hop

/-- In every session the players differ, the flags say which shuffles are
    recorded, and what is recorded is above the floor. -/
theorem Reachable.isCoherent (h : Reachable s) : s.facts.IsCoherent := by
  induction h with
  | create hs =>
    obtain ⟨r, hr, rfl⟩ := create_eq_ok hs
    exact Facts.isCoherent_withoutShuffles (f := facts (fresh _ _ r))
      (creator_ne_joiner_of_bind hr)
  | perform op _ ih => exact isCoherent_perform op ih

end Session

end ShuffleWatch
