import ShuffleWatch.Proofs.Session.Account

/-!
# Convergence of sessions

Two clients may be told of the same entries of the log in different orders, and
of some of them more than once. Unless an application asks for an epoch, their
sessions agree on the facts in the end: these depend on the *set* of the entries
alone (`run_eq_of_mem_iff`), and on where the sessions began.

* `accountsFor_run`: after a run, the facts account for the entries that it
  brought besides those that they accounted for before;
* `floor_run`, `shuffleBy_run`: the closed form of the facts after a run.
-/

namespace ShuffleWatch.Session

open Position (latest latestAbove)

variable {s t : Session} {S : Set Entry} {ops ops' : List Operation}

/-! ## Runs -/

/-- An operation that does not start over accounts for what it brings besides. -/
theorem accountsFor_perform {op : Operation} (hc : s.facts.IsCoherent)
    (h : s.facts.AccountsFor S) (hop : op.startsOver = false) :
    (s.perform op).1.facts.AccountsFor (S ∪ {e | e ∈ op.entry?.toList}) := by
  rw [facts_perform hop]
  cases op.entry? with
  | none =>
    have hS : S ∪ {e | e ∈ (none : Option Entry).toList} = S := by
      ext e
      simp
    rw [hS]
    exact h
  | some e =>
    have hS : S ∪ {e' | e' ∈ (some e).toList} = insert e S := by
      ext e'
      simp [or_comm]
    rw [hS]
    exact h.apply hc

/-- A run of such operations accounts for all that it brings besides. -/
theorem accountsFor_run (hc : s.facts.IsCoherent) (h : s.facts.AccountsFor S)
    (hops : ∀ op ∈ ops, op.startsOver = false) :
    (s.run ops).1.facts.AccountsFor (S ∪ {e | e ∈ entries ops}) := by
  -- By induction on the operations, where those that were performed have told the entries of `S`.
  induction ops generalizing s S with
  | nil =>
    have hS : S ∪ {e | e ∈ entries []} = S := by
      ext e
      simp [entries]
    rw [hS]
    exact h
  | cons op ops ih =>
    have hop := accountsFor_perform hc h (hops op List.mem_cons_self)
    have hrest := ih (isCoherent_perform op hc) hop fun op' hop' =>
      hops op' (List.mem_cons_of_mem op hop')
    have hS : S ∪ {e | e ∈ entries (op :: ops)} =
        S ∪ {e | e ∈ op.entry?.toList} ∪ {e | e ∈ entries ops} := by
      ext e
      rw [entries_cons]
      simp [or_assoc]
    rw [hS]
    exact hrest

theorem players_run (hops : ∀ op ∈ ops, op.startsOver = false) :
    (s.run ops).1.players = s.players := by
  induction ops generalizing s with
  | nil => rfl
  | cons op ops ih =>
    have hrest := ih (s := (s.perform op).1) fun op' hop' => hops op' (List.mem_cons_of_mem op hop')
    exact hrest.trans (players_perform (hops op List.mem_cons_self))

/-! ## The closed form -/

/-- After a run, the floor is the latest of the floor before it and the rematches
    that it brought. -/
theorem floor_run (hs : Reachable s) (hops : ∀ op ∈ ops, op.startsOver = false) :
    (s.run ops).1.floor =
      latest (s.floor.toList ++ (Event.rematch s.game).positionsIn (entries ops)) := by
  have h := accountsFor_run hs.isCoherent Facts.accountsFor_remembered hops
  refine Facts.floor_eq_latest h fun p => ?_
  have hgame : (s.run ops).1.facts.game = s.facts.game := game_run ops
  rw [List.mem_append, Event.mem_positionsIn, hgame, Set.mem_union, Facts.mem_remembered_rematch,
    Option.mem_toList]
  exact Iff.rfl

/-- After a run, the recorded shuffle of a player is the latest above the floor,
    of the one before the run and those that it brought. -/
theorem shuffleBy_run {a : Address} (hs : Reachable s)
    (hops : ∀ op ∈ ops, op.startsOver = false) (ha : s.players.contains a = true) :
    (s.run ops).1.facts.shuffleBy a = latestAbove (s.run ops).1.floor
      ((s.facts.shuffleBy a).toList ++ (Event.shuffled s.game a).positionsIn (entries ops)) := by
  have h := accountsFor_run hs.isCoherent Facts.accountsFor_remembered hops
  have hcontains : (s.run ops).1.facts.players.contains a = true := by
    rw [show (s.run ops).1.facts.players = s.players from players_run hops]
    exact ha
  refine Facts.shuffleBy_eq_latestAbove (hs.run ops).isCoherent h hcontains fun p => ?_
  have hgame : (s.run ops).1.facts.game = s.facts.game := game_run ops
  rw [List.mem_append, Event.mem_positionsIn, hgame, Set.mem_union, Facts.mem_remembered_shuffled,
    Option.mem_toList]
  exact Iff.rfl

theorem creatorShuffle_run (hs : Reachable s) (hops : ∀ op ∈ ops, op.startsOver = false) :
    (s.run ops).1.creatorShuffle = latestAbove (s.run ops).1.floor (s.creatorShuffle.toList ++
      (Event.shuffled s.game s.players.creator).positionsIn (entries ops)) := by
  have h := shuffleBy_run hs hops Players.contains_creator
  rw [shuffleBy_creator] at h
  rw [← h, ← players_run hops, shuffleBy_creator]

theorem joinerShuffle_run (hs : Reachable s) (hops : ∀ op ∈ ops, op.startsOver = false) :
    (s.run ops).1.joinerShuffle = latestAbove (s.run ops).1.floor (s.joinerShuffle.toList ++
      (Event.shuffled s.game s.players.joiner).positionsIn (entries ops)) := by
  have h := shuffleBy_run hs hops Players.contains_joiner
  rw [shuffleBy_joiner hs.isCoherent.creator_ne_joiner] at h
  rw [← h, ← players_run hops, shuffleBy_joiner (hs.run ops).isCoherent.creator_ne_joiner]

/-- The flags say which shuffles are recorded. -/
theorem Reachable.progress_eq (h : Reachable s) :
    s.progress = ⟨s.creatorShuffle.isSome, s.joinerShuffle.isSome⟩ := by
  have hcreator : s.progress.creator = s.creatorShuffle.isSome := h.isCoherent.creator_flag
  have hjoiner : s.progress.joiner = s.joinerShuffle.isSome := h.isCoherent.joiner_flag
  rw [← hcreator, ← hjoiner]

/-! ## Convergence -/

/-- Sessions of one game and one pair of players, with the same floor and the
    same recorded shuffles to begin with, agree on the floor, the flags and the
    recorded shuffles after any two runs that bring the same entries of the log,
    in any order and any number of times each, and in which the application asks
    for no epoch. The floor is then the latest rematch, and the recorded shuffles
    are the latest ones above it. -/
theorem run_eq_of_mem_iff (hs : Reachable s) (ht : Reachable t) (hgame : s.game = t.game)
    (hplayers : s.players = t.players) (hfloor : s.floor = t.floor)
    (hcreator : s.creatorShuffle = t.creatorShuffle) (hjoiner : s.joinerShuffle = t.joinerShuffle)
    (hops : ∀ op ∈ ops, op.startsOver = false) (hops' : ∀ op ∈ ops', op.startsOver = false)
    (hset : ∀ e, e ∈ entries ops ↔ e ∈ entries ops') :
    ((s.run ops).1.floor = (t.run ops').1.floor ∧
      (s.run ops).1.progress = (t.run ops').1.progress ∧
      (s.run ops).1.creatorShuffle = (t.run ops').1.creatorShuffle ∧
      (s.run ops).1.joinerShuffle = (t.run ops').1.joinerShuffle) ∧
    (s.run ops).1.floor =
      latest (s.floor.toList ++ (Event.rematch s.game).positionsIn (entries ops)) ∧
    (s.run ops).1.creatorShuffle = latestAbove (s.run ops).1.floor (s.creatorShuffle.toList ++
      (Event.shuffled s.game s.players.creator).positionsIn (entries ops)) ∧
    (s.run ops).1.joinerShuffle = latestAbove (s.run ops).1.floor (s.joinerShuffle.toList ++
      (Event.shuffled s.game s.players.joiner).positionsIn (entries ops)) ∧
    (s.run ops).1.progress =
      ⟨(s.run ops).1.creatorShuffle.isSome, (s.run ops).1.joinerShuffle.isSome⟩ := by
  -- The two runs bring each event at the same positions.
  have hpos : ∀ (event : Event) (o : Option Position) (p : Position),
      p ∈ o.toList ++ event.positionsIn (entries ops) ↔
        p ∈ o.toList ++ event.positionsIn (entries ops') := fun event o p => by
    rw [List.mem_append, List.mem_append, Event.mem_positionsIn, Event.mem_positionsIn, hset]
  have hfloor' : (s.run ops).1.floor = (t.run ops').1.floor := by
    rw [floor_run hs hops, floor_run ht hops', ← hfloor, ← hgame]
    exact Position.latest_congr (hpos _ _)
  have hcreator' : (s.run ops).1.creatorShuffle = (t.run ops').1.creatorShuffle := by
    rw [creatorShuffle_run hs hops, creatorShuffle_run ht hops', hfloor', ← hcreator, ← hgame,
      ← hplayers]
    exact Position.latestAbove_congr (hpos _ _)
  have hjoiner' : (s.run ops).1.joinerShuffle = (t.run ops').1.joinerShuffle := by
    rw [joinerShuffle_run hs hops, joinerShuffle_run ht hops', hfloor', ← hjoiner, ← hgame,
      ← hplayers]
    exact Position.latestAbove_congr (hpos _ _)
  have hprogress' : (s.run ops).1.progress = (t.run ops').1.progress := by
    rw [(hs.run ops).progress_eq, (ht.run ops').progress_eq, hcreator', hjoiner']
  exact ⟨⟨hfloor', hprogress', hcreator', hjoiner'⟩, floor_run hs hops,
    creatorShuffle_run hs hops, joinerShuffle_run hs hops, (hs.run ops).progress_eq⟩

/-- Told of a shuffle before its rematch or after it, of another game and of what
    is past, once or twice, the creator and the joiner agree in the end. -/
theorem run_eq_of_mem_iff_overtaken :
    ∃ s t : Session, ∃ ops ops' : List Operation, s.role ≠ t.role ∧ entries ops ≠ entries ops' ∧
      (s.run ops).1.floor = (t.run ops').1.floor ∧
      (s.run ops).1.progress = (t.run ops').1.progress ∧
      (s.run ops).1.creatorShuffle = (t.run ops').1.creatorShuffle ∧
      (s.run ops).1.joinerShuffle = (t.run ops').1.joinerShuffle ∧
      (s.run ops).1.floor = some ⟨4, 0⟩ ∧ (s.run ops).1.creatorShuffle = some ⟨5, 1⟩ ∧
      (s.run ops).1.joinerShuffle = none := by
  let players : Players := ⟨.fill 0xc1, .fill 0x01⟩
  let shuffle : Entry := ⟨⟨5, 1⟩, .shuffled ⟨7⟩ (.fill 0xc1)⟩
  let rematch : Entry := ⟨⟨4, 0⟩, .rematch ⟨7⟩⟩
  let past : Entry := ⟨⟨3, 0⟩, .shuffled ⟨7⟩ (.fill 0x01)⟩
  let other : Entry := ⟨⟨6, 0⟩, .rematch ⟨8⟩⟩
  let ops : List Operation := [.seed .shuffling, .apply shuffle, .receive (.entry past),
    .apply rematch, .apply shuffle, .apply other]
  let ops' : List Operation := [.awaitBacklog, .apply rematch, .apply other, .loseLink,
    .receive (.entry past), .apply rematch, .catchUp, .apply shuffle]
  have hs : Reachable (fresh ⟨7⟩ players .creator) :=
    .create (show create ⟨7⟩ players (some (.fill 0xc1)) = .ok _ from rfl)
  have ht : Reachable (fresh ⟨7⟩ players .joiner) :=
    .create (show create ⟨7⟩ players (some (.fill 0x01)) = .ok _ from rfl)
  -- The first session learns of the rematch after both shuffles, and
  -- the second one twice, before its shuffles and between them.
  have hops : ∀ op ∈ ops, op.startsOver = false := by decide
  have hops' : ∀ op ∈ ops', op.startsOver = false := by decide
  have hset : (∀ e ∈ entries ops, e ∈ entries ops') ∧ ∀ e ∈ entries ops', e ∈ entries ops := by
    decide +kernel
  obtain ⟨⟨hfloor, hprogress, hcreator, hjoiner⟩, -⟩ := run_eq_of_mem_iff hs ht rfl rfl rfl rfl rfl
    hops hops' fun e => ⟨hset.1 e, hset.2 e⟩
  exact ⟨_, _, ops, ops', by decide, by decide +kernel, hfloor, hprogress, hcreator, hjoiner,
    by decide +kernel, by decide +kernel, by decide +kernel⟩

end ShuffleWatch.Session
