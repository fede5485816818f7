import ShuffleWatch.Proofs.Session.Endings

/-!
# The integrity of sessions

A session is sound (`IsSound`) when its fields fit together: the players differ, the
flags say which shuffles are recorded, and these are above the floor; a game that both
players have shuffled for is in progress, once its status is known; and only the local
player has been asked, the joiner not before the creator has shuffled. Every session is
sound (`Reachable.isSound`).

What a session has learned is not taken back (`Precedes`): the floor and the epoch only
rise, and who has shuffled has done so for the rest of the epoch. That is so of every
operation (`precedes_perform`), and hence of every run (`precedes_run`). Who is bound is
said by the requests of the application alone (`bound`).
-/

namespace ShuffleWatch.Session

open Position (reaches isAbove)

/-- The fields of the session fit together. -/
structure IsSound (s : Session) : Prop where
  creator_ne_joiner : s.players.creator ≠ s.players.joiner
  creator_flag : s.progress.creator = s.creatorShuffle.isSome
  joiner_flag : s.progress.joiner = s.joinerShuffle.isSome
  creator_above : ∀ p, s.creatorShuffle = some p → isAbove s.floor p = true
  joiner_above : ∀ p, s.joinerShuffle = some p → isAbove s.floor p = true
  inProgress_le : s.status.isKnown = true → s.progress.creator = true →
    s.progress.joiner = true → .inProgress ≤ s.status
  creator_asked : s.creatorAsked = true → s.role = .creator
  joiner_asked : s.joinerAsked = true → s.role = .joiner ∧ s.progress.creator = true

/-- Nothing that the session `s` knows is taken back in the session `t`: the floor and
    the epoch are not lower, and within the epoch the flags are still set. -/
structure Precedes (s t : Session) : Prop where
  reaches_floor : ∀ p, s.floor = some p → reaches t.floor p = true
  epoch_le : s.epoch ≤ t.epoch
  creator_flag : t.epoch = s.epoch → s.progress.creator = true → t.progress.creator = true
  joiner_flag : t.epoch = s.epoch → s.progress.joiner = true → t.progress.joiner = true

/-- The players and the identity that the operation binds. It is refused if the players
    are the same or there is no identity. -/
def Operation.binds? : Operation → Option (Players × Option Address)
  | .rebind players self =>
    if players.creator ≠ players.joiner ∧ self.isSome then some (players, self) else none
  | _ => none

/-- The players and the identity that were bound last, after the operations. -/
def bound (before : Players × Option Address) (ops : List Operation) :
    Players × Option Address :=
  ops.foldl (fun binding op => op.binds?.getD binding) before

variable {s t u : Session} {e : Entry} {op : Operation} {ops : List Operation}

/-! ## What is not taken back -/

namespace Precedes

theorem refl (s : Session) : s.Precedes s where
  reaches_floor p hp := Position.reaches_iff.2 ⟨p, hp, le_rfl⟩
  epoch_le := le_rfl
  creator_flag _ h := h
  joiner_flag _ h := h

theorem trans (h : s.Precedes t) (h' : t.Precedes u) : s.Precedes u where
  reaches_floor p hp := by
    obtain ⟨q, hq, hpq⟩ := Position.reaches_iff.1 (h.reaches_floor p hp)
    obtain ⟨r, hr, hqr⟩ := Position.reaches_iff.1 (h'.reaches_floor q hq)
    exact Position.reaches_iff.2 ⟨r, hr, hpq.trans hqr⟩
  epoch_le := h.epoch_le.trans h'.epoch_le
  -- The epoch is the same in the end, so it has been the same all along.
  creator_flag hepoch hflag := by
    have hle := h.epoch_le
    have hle' := h'.epoch_le
    exact h'.creator_flag (by omega) (h.creator_flag (by omega) hflag)
  joiner_flag hepoch hflag := by
    have hle := h.epoch_le
    have hle' := h'.epoch_le
    exact h'.joiner_flag (by omega) (h.joiner_flag (by omega) hflag)

/-- A session that begins an epoch may forget who has shuffled, but not the floor. -/
theorem of_epoch_lt (hepoch : s.epoch < t.epoch)
    (hfloor : ∀ p, s.floor = some p → reaches t.floor p = true) : s.Precedes t where
  reaches_floor := hfloor
  epoch_le := hepoch.le
  creator_flag h := absurd h hepoch.ne'
  joiner_flag h := absurd h hepoch.ne'

/-- A session with the same floor, and at least the same flags, takes nothing back. -/
theorem of_floor_eq (hepoch : s.epoch ≤ t.epoch) (hfloor : t.floor = s.floor)
    (hcreator : s.progress.creator = true → t.progress.creator = true)
    (hjoiner : s.progress.joiner = true → t.progress.joiner = true) : s.Precedes t where
  reaches_floor p hp := Position.reaches_iff.2 ⟨p, hfloor.trans hp, le_rfl⟩
  epoch_le := hepoch
  creator_flag _ := hcreator
  joiner_flag _ := hjoiner

theorem of_facts_eq (hepoch : s.epoch ≤ t.epoch) (hfacts : t.facts = s.facts) :
    s.Precedes t := by
  have hprogress : t.progress = s.progress := congrArg Facts.progress hfacts
  exact of_floor_eq hepoch (congrArg Facts.floor hfacts) (by simp [hprogress]) (by simp [hprogress])

end Precedes

/-- A shuffle that is recorded clears no flag. -/
theorem progress_recordShuffle {a : Address} {p : Position} :
    (s.progress.creator = true → (s.recordShuffle a p).progress.creator = true) ∧
      (s.progress.joiner = true → (s.recordShuffle a p).progress.joiner = true) := by
  rw [recordShuffle]
  split <;> simp

theorem epoch_apply_of_takesRematch (h : s.takesRematch e = true) :
    (s.apply e).1.epoch = s.epoch + 1 := by
  rw [takesRematch, Bool.and_eq_true, Option.isNone_iff_eq_none, decide_eq_true_eq] at h
  obtain ⟨p, event⟩ := e
  cases event with
  | rematch game =>
    rw [apply, h.1]
    exact congrArg (fun r => r.1.epoch) (restraint_rematch (s := s) p)
  | _ => cases h.2

theorem precedes_apply (e : Entry) : s.Precedes (s.apply e).1 := by
  have hepoch : s.epoch ≤ (s.apply e).1.epoch := (answers_apply e).epoch_le
  rcases hf : s.filtered? e with _ | why
  · obtain ⟨-, habove, -⟩ := filtered?_eq_none_iff.1 hf
    have hfacts := facts_apply hf
    rw [facts_learn] at hfacts
    obtain ⟨p, event⟩ := e
    cases event with
    | shuffled game player =>
      have hfloor : (s.apply ⟨p, .shuffled game player⟩).1.floor = s.floor :=
        (congrArg Facts.floor hfacts).trans floor_recordShuffle
      have hprogress : (s.apply ⟨p, .shuffled game player⟩).1.progress =
          (s.recordShuffle player p).progress := congrArg Facts.progress hfacts
      obtain ⟨hcreator, hjoiner⟩ := progress_recordShuffle (s := s) (a := player) (p := p)
      exact .of_floor_eq hepoch hfloor (hprogress ▸ hcreator) (hprogress ▸ hjoiner)
    | rematch game =>
      have hrematch : s.takesRematch ⟨p, .rematch game⟩ = true := by
        rw [takesRematch, hf]
        rfl
      -- A rematch that is taken in lies above the floor, and becomes the floor itself.
      refine .of_epoch_lt (by rw [epoch_apply_of_takesRematch hrematch]; omega) fun q hq => ?_
      rw [floor_apply_of_takesRematch hrematch, Position.reaches_some]
      rw [hq] at habove
      exact (Position.isAbove_some.1 habove).le
    | _ => exact .of_facts_eq hepoch hfacts
  · rw [apply_of_filtered hf]
    exact .refl s

/-- No operation takes back what the session knows. -/
theorem precedes_perform (op : Operation) : s.Precedes (s.perform op).1 := by
  have hepoch : s.epoch ≤ (s.perform op).1.epoch := (answers_perform s op).epoch_le
  -- Within an epoch the facts only grow. A new epoch has a higher number and keeps the floor.
  cases hop : op.startsOver with
  | false =>
    have hfacts := facts_perform (s := s) hop
    cases op with
    | apply e => exact precedes_apply e
    | receive item =>
      cases item with
      | entry e => exact precedes_apply e
      | _ => exact .of_facts_eq hepoch hfacts
    | _ => exact .of_facts_eq hepoch hfacts
  | true =>
    cases op with
    | restart =>
      exact .of_epoch_lt (Nat.lt_succ_self _) fun p hp => Position.reaches_iff.2 ⟨p, hp, le_rfl⟩
    | rebind players self =>
      simp only [perform]
      split
      · rename_i t ht
        obtain ⟨r, -, rfl⟩ := rebind_eq_ok ht
        exact .of_epoch_lt (Nat.lt_succ_self _) fun p hp => Position.reaches_iff.2 ⟨p, hp, le_rfl⟩
      · exact .refl s
    | _ => cases hop

/-- No run takes back what the session knows. -/
theorem precedes_run (s : Session) (ops : List Operation) : s.Precedes (s.run ops).1 := by
  induction ops generalizing s with
  | nil => exact .refl s
  | cons op ops ih => exact (precedes_perform op).trans (ih _)

/-! ## Who is bound -/

theorem bind_eq_ok {players : Players} {self : Option Address} {r : Role} :
    bind players self = .ok r ↔
      players.creator ≠ players.joiner ∧ players.roleOf self = .ok r := by
  rw [bind]
  split
  · rename_i hsame
    simp [hsame]
  · rename_i hne
    cases players.roleOf self <;> simp [hne, Except.mapError]

theorem roleOf_isOk_iff {players : Players} {self : Option Address} :
    (∃ r, players.roleOf self = .ok r) ↔ self.isSome = true := by
  cases self with
  | none => simp [Players.roleOf]
  | some a =>
    rw [Players.roleOf]
    split
    · simp
    · split <;> simp

/-- Only an operation that binds changes the role. -/
theorem role_perform (h : op.startsOver = false) : (s.perform op).1.role = s.role := by
  -- Neither taking an action nor taking in an entry touches the role.
  have htake : ∀ t : Session, t.takeAction.1.role = t.role := fun t => by
    rw [takeAction]
    split
    · exact role_markAsked t.role
    · rfl
  have happly : ∀ e : Entry, (s.apply e).1.role = s.role := fun e => by
    rw [apply]
    split
    · rfl
    · split
      · obtain ⟨p, event⟩ := e
        cases event with
        | rematch game => exact congrArg (fun r => r.1.role) (restraint_rematch p)
        | _ => contradiction
      · rename_i hkind
        exact (htake _).trans (congrArg (fun r => r.1.role) (restraint_learn hkind))
  cases op with
  | seed status =>
    simp only [perform, seed]
    split
    · exact (htake _).trans (congrArg (fun r => r.1.role) restraint_settle)
    · rfl
  | apply e => exact happly e
  | receive item =>
    cases item with
    | entry e => exact happly e
    | caughtUp => exact htake { s with holding := false }
    | fault f =>
      simp only [perform, receive]
      split <;> rfl
  | catchUp => exact htake { s with holding := false }
  | awaitBacklog => rfl
  | loseLink => rfl
  | restart => cases h
  | rebind players self => cases h

/-- The session is one of these players, and of the client with this identity. -/
def IsBoundTo (s : Session) (binding : Players × Option Address) : Prop :=
  s.players = binding.1 ∧ s.players.roleOf binding.2 = .ok s.role

theorem IsBoundTo.perform {binding : Players × Option Address} (h : s.IsBoundTo binding)
    (op : Operation) : (s.perform op).1.IsBoundTo (op.binds?.getD binding) := by
  cases hop : op.startsOver with
  | false =>
    have hbinds : op.binds? = none := by
      cases op with
      | rebind players self => cases hop
      | _ => rfl
    rw [IsBoundTo, players_perform hop, role_perform hop, hbinds]
    exact h
  | true =>
    cases op with
    | restart => exact h
    | rebind players self =>
      simp only [Session.perform, Operation.binds?]
      split
      · rename_i t ht
        obtain ⟨r, hr, rfl⟩ := rebind_eq_ok ht
        obtain ⟨hne, hrole⟩ := bind_eq_ok.1 hr
        rw [if_pos ⟨hne, roleOf_isOk_iff.1 ⟨r, hrole⟩⟩]
        exact ⟨rfl, hrole⟩
      · -- A rebinding that was refused does not bind. That it
        -- has all that is needed would contradict this.
        rename_i refusal hrefused
        split
        · rename_i haccepted
          obtain ⟨r, hrole⟩ := roleOf_isOk_iff.2 haccepted.2
          rw [rebind, bind_eq_ok.2 ⟨haccepted.1, hrole⟩] at hrefused
          cases hrefused
        · exact h
    | _ => cases hop

theorem IsBoundTo.run {binding : Players × Option Address} (h : s.IsBoundTo binding)
    (ops : List Operation) : (s.run ops).1.IsBoundTo (bound binding ops) := by
  induction ops generalizing s binding with
  | nil => exact h
  | cons op ops ih => exact ih (h.perform op)

/-! ## Who has been asked -/

/-- Only the local player has been asked, the joiner not before the creator has
    shuffled. -/
structure AsksInTurn (s : Session) : Prop where
  role_eq : ∀ r, s.asked r = true → s.role = r
  creator_flag : s.asked .joiner = true → s.progress.creator = true

/-- The role stays the same within an epoch. -/
theorem Answers.role_eq {o : Option Action} (h : s.Answers t o) (hepoch : s.epoch = t.epoch) :
    t.role = s.role := by
  cases h with
  | begin hnext _ => omega
  | quiet hasks => exact congrArg Asks.role hasks
  | @ask u hasks _ => exact (role_markAsked u.role).trans (congrArg Asks.role hasks)

/-- Who counts as asked was asked before in this epoch, or is the local player and should
    act now. -/
theorem AsksInTurn.of_answers {o : Option Action} (h : s.AsksInTurn) (hanswers : s.Answers t o)
    (hprecedes : s.Precedes t) : t.AsksInTurn := by
  -- Whoever is asked now is the client itself, whose turn it is.
  have hnow : ∀ r, o = some (.shuffle t.game r) → t.role = r ∧ t.shouldAct r = true := by
    rintro r rfl
    have hjustified := hanswers.justifies
    have hrole := (Action.shuffle.inj hjustified.action_eq).2
    exact ⟨hrole.symm, hrole ▸ hjustified.shouldAct⟩
  refine ⟨fun r hasked => ?_, fun hasked => ?_⟩
  · rcases hanswers.asked_iff.1 hasked with ⟨hbefore, hepoch⟩ | hask
    · rw [hanswers.role_eq hepoch]
      exact h.role_eq r hbefore
    · exact (hnow r hask).1
  · rcases hanswers.asked_iff.1 hasked with ⟨hbefore, hepoch⟩ | hask
    · exact hprecedes.creator_flag hepoch.symm (h.creator_flag hbefore)
    · have hact := (hnow .joiner hask).2
      rw [shouldAct, Bool.and_eq_true] at hact
      exact hact.1

/-! ## Soundness -/

theorem Reachable.asksInTurn (h : Reachable s) : s.AsksInTurn := by
  induction h with
  | @create game players _ _ hs =>
    obtain ⟨r, -, rfl⟩ := create_eq_ok hs
    have hnobody : ∀ r', (fresh game players r).asked r' ≠ true := fun r' => by
      cases r' <;> exact Bool.false_ne_true
    exact ⟨fun r' h => absurd h (hnobody r'), fun h => absurd h (hnobody .joiner)⟩
  | perform op _ ih => exact ih.of_answers (answers_perform _ op) (precedes_perform op)

/-- In every session, the status comes from one that was adopted, if it is known. -/
theorem Reachable.stemsFrom (h : Reachable s) : ∃ o, s.StemsFrom o := by
  induction h with
  | create hs =>
    obtain ⟨r, -, rfl⟩ := create_eq_ok hs
    exact ⟨none, .nothing rfl⟩
  | perform op _ ih =>
    obtain ⟨o, ho⟩ := ih
    exact ⟨_, ho.perform⟩

/-- Once its status is known, a game that both players have shuffled for is in
    progress. -/
theorem Reachable.inProgress_le (h : Reachable s) (hknown : s.status.isKnown = true)
    (hcomplete : s.progress.isComplete = true) : .inProgress ≤ s.status := by
  obtain ⟨o, ho⟩ := h.stemsFrom
  cases ho with
  | nothing hunknown =>
    rw [hunknown] at hknown
    cases hknown
  | adopted S hσ hproceeds => exact hproceeds.inProgress_le hcomplete

theorem Reachable.isSound (h : Reachable s) : s.IsSound where
  creator_ne_joiner := h.isCoherent.creator_ne_joiner
  creator_flag := h.isCoherent.creator_flag
  joiner_flag := h.isCoherent.joiner_flag
  creator_above p hp := h.isCoherent.isAbove_floor s.players.creator p (shuffleBy_creator.trans hp)
  joiner_above p hp := h.isCoherent.isAbove_floor s.players.joiner p
    ((shuffleBy_joiner h.isCoherent.creator_ne_joiner).trans hp)
  inProgress_le hknown hcreator hjoiner := by
    refine h.inProgress_le hknown ?_
    rw [Progress.isComplete, hcreator, hjoiner]
    rfl
  creator_asked := h.asksInTurn.role_eq .creator
  joiner_asked hasked := ⟨h.asksInTurn.role_eq .joiner hasked, h.asksInTurn.creator_flag hasked⟩

/-- Whatever is done to a new session, it is sound, its role is the one that the identity
    bound last has among the players bound last, and whatever is done to it after that
    takes back nothing that it knows. -/
theorem isSound_run {game : GameId} {players : Players} {self : Option Address}
    (h : create game players self = .ok s) (ops ops' : List Operation) :
    (s.run ops).1.IsSound ∧
    (s.run ops).1.players = (bound (players, self) ops).1 ∧
    (bound (players, self) ops).1.roleOf (bound (players, self) ops).2 =
      .ok (s.run ops).1.role ∧
    (s.run ops).1.Precedes ((s.run ops).1.run ops').1 := by
  have hbound : s.IsBoundTo (players, self) := by
    obtain ⟨r, hr, rfl⟩ := create_eq_ok h
    exact ⟨rfl, (bind_eq_ok.1 hr).2⟩
  obtain ⟨hplayers, hrole⟩ := hbound.run ops
  rw [hplayers] at hrole
  exact ⟨((Reachable.create h).run ops).isSound, hplayers, hrole, precedes_run _ ops'⟩

/-- The creator of a game is bound as its joiner, with the roles exchanged, and a request
    without an identity is refused. The shuffle of the new creator is carried over a rematch,
    and the client is asked. A later rematch begins another epoch. -/
theorem isSound_run_rebound :
    ∃ s : Session, create ⟨7⟩ ⟨.fill 0xc1, .fill 0x01⟩ (some (.fill 0xc1)) = .ok s ∧
      ∃ ops ops' : List Operation,
        (s.run ops).1.IsSound ∧ (s.run ops).1.Precedes ((s.run ops).1.run ops').1 ∧
        (s.run ops).1.role = .joiner ∧ (s.run ops).1.joinerAsked = true ∧
        (s.run ops).1.floor = some ⟨4, 0⟩ ∧ (s.run ops).1.creatorShuffle = some ⟨5, 1⟩ ∧
        ((s.run ops).1.run ops').1.floor = some ⟨6, 0⟩ ∧
        ((s.run ops).1.run ops').1.progress = .none := by
  have hs : create ⟨7⟩ ⟨.fill 0xc1, .fill 0x01⟩ (some (.fill 0xc1)) =
      .ok (fresh ⟨7⟩ ⟨.fill 0xc1, .fill 0x01⟩ .creator) := rfl
  let ops : List Operation := [.seed .shuffling,
    .rebind ⟨.fill 0x01, .fill 0xc1⟩ (some (.fill 0xc1)), .rebind ⟨.fill 0x02, .fill 0xc1⟩ none,
    .apply ⟨⟨5, 1⟩, .shuffled ⟨7⟩ (.fill 0x01)⟩, .apply ⟨⟨4, 0⟩, .rematch ⟨7⟩⟩, .seed .shuffling]
  let ops' : List Operation := [.apply ⟨⟨6, 0⟩, .rematch ⟨7⟩⟩]
  -- The players change places, a second rebinding is refused, and
  -- the shuffle above the rematch is carried over.
  obtain ⟨hsound, -, hrole, hprecedes⟩ := isSound_run hs ops ops'
  have hjoiner : (.ok (((fresh ⟨7⟩ ⟨.fill 0xc1, .fill 0x01⟩ .creator).run ops).1.role) :
      Except Error Role) = .ok .joiner := hrole.symm.trans (by decide +kernel)
  exact ⟨_, hs, ops, ops', hsound, hprecedes, Except.ok.inj hjoiner, by decide +kernel,
    by decide +kernel, by decide +kernel, by decide +kernel, by decide +kernel⟩

end ShuffleWatch.Session
