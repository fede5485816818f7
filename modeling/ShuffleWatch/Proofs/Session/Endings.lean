import ShuffleWatch.Proofs.Session.Course

/-!
# When shuffling is over

A game that is in progress or finished needs no more shuffles. How far a session
goes by that depends on where its status comes from. Entries of the log only ever
move it forward, and `Proceeds` says how; a status that is adopted from the contract
replaces it.

* `status_of_action`: nobody is asked in a finished game, and in a game in progress
  only the joiner is, when that status was adopted before the shuffle of the joiner
  was seen;
* `finished_perform`: within an epoch, a finished game stays finished, unless an
  earlier status is adopted, and so it does in a run in which none is.
-/

namespace ShuffleWatch.Session

/-- The operation begins an epoch: the application asks for it and is not refused, or
    there is a rematch. -/
def startsEpoch (s : Session) : Operation → Bool
  | .restart => true
  | .rebind players self => (bind players self).isOk
  | op => op.entry?.any s.takesRematch

/-- The status that the operation adopts from the contract. -/
def Operation.adopts? : Operation → Option Status
  | .seed status => if status.isKnown then some status else none
  | _ => none

/-- The operation adopts a status that says that the game is not over. -/
def Operation.reopens (op : Operation) : Bool := op.adopts?.any (!·.isOver)

/-- The status that was adopted last in the current epoch, if one was, after the
    operation. -/
def adoptedNext (s : Session) (adopted : Option Status) (op : Operation) : Option Status :=
  if s.startsEpoch op then none else op.adopts?.or adopted

/-- The status that was adopted last in the epoch in which a run ends, if one was. -/
def adopted (s : Session) (before : Option Status) : List Operation → Option Status
  | [] => before
  | op :: ops => (s.perform op).1.adopted (s.adoptedNext before op) ops

/-- The operations of the run begin no epoch, and adopt no status that says that the game is not
    over. -/
def staysOver (s : Session) : List Operation → Bool
  | [] => true
  | op :: ops => !s.startsEpoch op && !op.reopens && (s.perform op).1.staysOver ops

variable {s t : Session} {σ status : Status} {S : Set Entry} {e : Entry} {op : Operation}
  {ops : List Operation} {a : Action}

/-! ## Adopting a status -/

theorem Operation.adopts?_eq_some (h : op.adopts? = some status) :
    op = .seed status ∧ status.isKnown = true := by
  cases op with
  | seed status' =>
    rw [adopts?] at h
    split at h
    · cases h
      exact ⟨rfl, ‹_›⟩
    · cases h
  | _ => cases h

/-- A status that is not adopted changes nothing. -/
theorem seed_of_not_adopts (h : (Operation.seed status).adopts? = none) :
    s.seed status = (s, none) := by
  rw [Operation.adopts?] at h
  split at h
  · cases h
  · rename_i hunknown
    rw [seed, if_neg hunknown]

/-! ## Beginning an epoch -/

theorem apply_ne_reset (h : s.startsEpoch (.apply e) = false) : (s.apply e).2 ≠ .reset := by
  rw [ne_eq, apply_eq_reset_iff, Bool.not_eq_true]
  exact h

theorem receive_ne_reset {item : Item} (h : s.startsEpoch (.receive item) = false) :
    (s.receive item).2 ≠ .reset := by
  rw [ne_eq, receive_eq_reset_iff]
  rintro ⟨e, rfl, hrematch⟩
  exact apply_ne_reset h (apply_eq_reset_iff.2 hrematch)

/-- A refused request of the application changes nothing. -/
theorem perform_rebind_of_refused {players : Players} {self : Option Address}
    (h : s.startsEpoch (.rebind players self) = false) :
    (s.perform (.rebind players self)).1 = s := by
  rw [startsEpoch] at h
  rw [perform, rebind]
  cases hbind : bind players self with
  | error refusal => rfl
  | ok r =>
    rw [hbind] at h
    cases h

/-! ## Statuses that no entry moves -/

theorem status_advance_of_not_advancesTo (h : s.advancesTo status = false) :
    (s.advance status).status = s.status := by
  rw [advance, h, if_neg Bool.false_ne_true]

theorem advancesTo_congr (h : t.status = s.status) : t.advancesTo = s.advancesTo := by
  funext target
  rw [advancesTo, advancesTo, h]

theorem status_settle_of_not_advancesTo (h : ∀ target, s.advancesTo target = false) :
    s.settle.status = s.status := by
  rw [settle]
  split
  · exact status_advance_of_not_advancesTo (h _)
  · rfl

/-- A status that does not move forward stays, whatever is learned in its epoch. -/
theorem status_learn_of_not_advancesTo {p : Position} {event : Event}
    (h : ∀ target, s.advancesTo target = false) (hkind : event.kind ≠ .rematch) :
    (s.learn p event).status = s.status := by
  cases event with
  | created game creator => exact status_advance_of_not_advancesTo (h _)
  | joined game joiner => rw [learn, h, if_neg Bool.false_ne_true]
  | shuffled game player =>
    have hrecord : (s.recordShuffle player p).status = s.status := status_recordShuffle
    rw [learn, status_settle_of_not_advancesTo (by rwa [advancesTo_congr hrecord]), hrecord]
  | ended game winner => exact status_advance_of_not_advancesTo (h _)
  | rematch game => exact absurd rfl hkind

theorem status_apply_of_not_advancesTo (h : ∀ target, s.advancesTo target = false)
    (hreset : (s.apply e).2 ≠ .reset) : (s.apply e).1.status = s.status := by
  rw [apply] at *
  split
  · rfl
  · rename_i hfiltered
    rw [hfiltered] at hreset
    dsimp only at hreset ⊢
    split
    · rename_i hkind
      rw [if_pos hkind] at hreset
      exact absurd rfl hreset
    · rename_i hkind
      exact status_takeAction.trans (status_learn_of_not_advancesTo h hkind)

/-- A status that does not move forward stays within the epoch, until another one is
    adopted. -/
theorem status_perform_of_not_advancesTo (h : ∀ target, s.advancesTo target = false)
    (hop : s.startsEpoch op = false) (hnone : op.adopts? = none) :
    (s.perform op).1.status = s.status := by
  -- If nothing advances the status, then only a status to adopt or a new epoch changes it.
  cases op with
  | seed status => rw [perform, seed_of_not_adopts hnone]
  | apply e => exact status_apply_of_not_advancesTo h (apply_ne_reset hop)
  | receive item =>
    cases item with
    | entry e => exact status_apply_of_not_advancesTo h (apply_ne_reset hop)
    | caughtUp => exact status_takeAction (s := { s with holding := false })
    | fault f =>
      simp only [perform, receive]
      split <;> rfl
  | catchUp => exact status_takeAction (s := { s with holding := false })
  | awaitBacklog => rfl
  | loseLink => rfl
  | restart => cases hop
  | rebind players self => rw [perform_rebind_of_refused hop]

theorem not_advancesTo_of_unknown (h : s.status = .uninitialized) (target : Status) :
    s.advancesTo target = false := by
  rw [advancesTo, h]
  rfl

theorem not_advancesTo_of_finished (h : s.status = .finished) (target : Status) :
    s.advancesTo target = false := by
  rw [advancesTo, h]
  cases target <;> rfl

/-! ## Where the status of an epoch comes from -/

/-- The status of the session is unknown while none was adopted in its epoch, and it
    has come about from the one that was adopted last. -/
inductive StemsFrom (s : Session) : Option Status → Prop
  | nothing : s.status = .uninitialized → StemsFrom s none
  | adopted {σ : Status} (S : Set Entry) :
      σ.isKnown = true → s.Proceeds σ S → StemsFrom s (some σ)

theorem Proceeds.perform (h : s.Proceeds σ S) (hσ : σ.isKnown = true)
    (hop : s.startsEpoch op = false) (hnone : op.adopts? = none) :
    ∃ S, (s.perform op).1.Proceeds σ S := by
  cases op with
  | seed status =>
    rw [Session.perform, seed_of_not_adopts hnone]
    exact ⟨S, h⟩
  | apply e => exact ⟨_, h.apply hσ (apply_ne_reset hop)⟩
  | receive item => exact ⟨_, h.receive hσ (receive_ne_reset hop)⟩
  | catchUp => exact ⟨S, (h.congr (t := { s with holding := false }) rfl rfl).takeAction⟩
  | awaitBacklog => exact ⟨S, h.congr rfl rfl⟩
  | loseLink => exact ⟨S, h.congr rfl rfl⟩
  | restart => cases hop
  | rebind players self =>
    rw [perform_rebind_of_refused hop]
    exact ⟨S, h⟩

/-- The status is unknown when an epoch begins. -/
theorem status_perform_of_startsEpoch (hop : s.startsEpoch op = true) :
    (s.perform op).1.status = .uninitialized := by
  -- An epoch begins by a rematch that is taken in, or by an operation that starts over.
  have hrematch : ∀ e : Entry, s.takesRematch e = true →
      (s.apply e).1.status = .uninitialized := by
    rintro ⟨p, event⟩ h
    rw [takesRematch, Bool.and_eq_true, Option.isNone_iff_eq_none, decide_eq_true_eq] at h
    obtain ⟨hfiltered, hkind⟩ := h
    cases event with
    | rematch game =>
      rw [apply, hfiltered]
      exact status_rematch
    | _ => cases hkind
  cases op with
  | apply e => exact hrematch e hop
  | receive item =>
    cases item with
    | entry e => exact hrematch e hop
    | _ => cases hop
  | restart => rfl
  | rebind players self =>
    rw [startsEpoch] at hop
    rw [perform, rebind]
    cases hbind : bind players self with
    | error refusal =>
      rw [hbind] at hop
      cases hop
    | ok r => rfl
  | _ => cases hop

theorem StemsFrom.perform {o : Option Status} (h : s.StemsFrom o) :
    (s.perform op).1.StemsFrom (s.adoptedNext o op) := by
  rw [adoptedNext]
  split
  · rename_i hop
    exact .nothing (status_perform_of_startsEpoch hop)
  · rename_i hop
    rw [Bool.not_eq_true] at hop
    cases hadopts : op.adopts? with
    | some status =>
      obtain ⟨rfl, hknown⟩ := Operation.adopts?_eq_some hadopts
      exact .adopted ∅ hknown (proceeds_seed hknown nofun)
    | none =>
      -- What was adopted stays where the session proceeds
      -- from. If nothing was, no event moves the status.
      cases h with
      | nothing hunknown =>
        have hstays := not_advancesTo_of_unknown hunknown
        exact .nothing ((status_perform_of_not_advancesTo hstays hop hadopts).trans hunknown)
      | adopted S hknown hproceeds =>
        obtain ⟨S', hproceeds'⟩ := hproceeds.perform hknown hop hadopts
        exact .adopted S' hknown hproceeds'

theorem StemsFrom.run {o : Option Status} (h : s.StemsFrom o) :
    (s.run ops).1.StemsFrom (s.adopted o ops) := by
  induction ops generalizing s o with
  | nil => exact h
  | cons op ops ih => exact ih h.perform

/-- Events make a game in progress only once both players have shuffled. Otherwise the
    status was adopted. -/
theorem StemsFrom.eq_inProgress {o : Option Status} (h : s.StemsFrom o)
    (hstatus : s.status = .inProgress) (hcomplete : s.progress.isComplete = false) :
    o = some .inProgress := by
  cases h with
  | nothing hunknown =>
    rw [hunknown] at hstatus
    cases hstatus
  | adopted S hknown hproceeds =>
    -- No event moves a game to this status, and only one player has
    -- shuffled. What is left is that it was adopted.
    rcases hproceeds.status_eq with heq | ⟨hboth, -⟩ | ⟨e, -, hmoves⟩
    · rw [← heq, hstatus]
    · rw [hcomplete] at hboth
      cases hboth
    · have htarget := (target?_eq_some hmoves).2
      rw [hstatus] at htarget
      cases hevent : e.event <;> rw [hevent] at htarget <;> cases htarget

/-! ## Requests when shuffling is over -/

/-- A player who should act in a game in progress is the joiner, whose shuffle is the
    one that is missing. -/
theorem Justifies.joiner_of_inProgress (h : s.Justifies a) (hstatus : s.status = .inProgress) :
    s.role = .joiner ∧ s.progress = ⟨true, false⟩ := by
  have hact := h.shouldAct
  rcases h.isPlayer with hrole | hrole
  · rw [hrole, Session.shouldAct, hstatus] at hact
    cases hact
  · rw [hrole, Session.shouldAct, Bool.and_eq_true, Bool.not_eq_true'] at hact
    refine ⟨hrole, ?_⟩
    rw [← hact.1, ← hact.2]

/-- Whatever is done to a new session, nobody is asked to shuffle in a game that is
    finished. In a game in progress, only the joiner is asked, when the session knows of
    the shuffle of the creator and not of that of the joiner, and the status was adopted
    from the contract in the same epoch. -/
theorem status_of_action {game : GameId} {players : Players} {self : Option Address}
    (h : create game players self = .ok s) (ops : List Operation) (op : Operation)
    (ha : ((s.run ops).1.perform op).2.action? = some a) :
    ((s.run ops).1.perform op).1.status ≠ .finished ∧
    (((s.run ops).1.perform op).1.status = .inProgress →
      ((s.run ops).1.perform op).1.role = .joiner ∧
      ((s.run ops).1.perform op).1.progress = ⟨true, false⟩ ∧
      s.adopted none (ops ++ [op]) = some .inProgress) := by
  have hanswers := answers_perform (s.run ops).1 op
  rw [ha] at hanswers
  have hjustified := hanswers.justifies
  refine ⟨hjustified.not_over, fun hstatus => ?_⟩
  obtain ⟨hrole, hprogress⟩ := hjustified.joiner_of_inProgress hstatus
  refine ⟨hrole, hprogress, ?_⟩
  obtain ⟨r, -, rfl⟩ := create_eq_ok h
  have hstems : ((fresh game players r).run (ops ++ [op])).1.StemsFrom
      ((fresh game players r).adopted none (ops ++ [op])) := (StemsFrom.nothing rfl).run
  rw [run_append] at hstems
  -- The creator has shuffled and the joiner has not, or there would be no action.
  have hcomplete : (((fresh game players r).run ops).1.perform op).1.progress.isComplete = false := by
    rw [hprogress]
    rfl
  exact hstems.eq_inProgress hstatus hcomplete

/-- The joiner is asked in a game that the contract reports to be in progress, when the
    shuffle of the creator comes. -/
theorem status_of_action_adopted :
    ∃ s : Session, create ⟨7⟩ ⟨.fill 0xc1, .fill 0x01⟩ (some (.fill 0x01)) = .ok s ∧
      ((s.run [.seed .inProgress]).1.perform
          (.apply ⟨⟨10, 0⟩, .shuffled ⟨7⟩ (.fill 0xc1)⟩)).2.action? =
        some (.shuffle ⟨7⟩ .joiner) ∧
      ((s.run [.seed .inProgress]).1.perform
          (.apply ⟨⟨10, 0⟩, .shuffled ⟨7⟩ (.fill 0xc1)⟩)).1.status ≠ .finished ∧
      ((s.run [.seed .inProgress]).1.perform
          (.apply ⟨⟨10, 0⟩, .shuffled ⟨7⟩ (.fill 0xc1)⟩)).1.progress = ⟨true, false⟩ := by
  have hs : create ⟨7⟩ ⟨.fill 0xc1, .fill 0x01⟩ (some (.fill 0x01)) =
      .ok (fresh ⟨7⟩ ⟨.fill 0xc1, .fill 0x01⟩ .joiner) := rfl
  have ha : (((fresh ⟨7⟩ ⟨.fill 0xc1, .fill 0x01⟩ .joiner).run [.seed .inProgress]).1.perform
      (.apply ⟨⟨10, 0⟩, .shuffled ⟨7⟩ (.fill 0xc1)⟩)).2.action? =
        some (.shuffle ⟨7⟩ .joiner) := by
    decide +kernel
  obtain ⟨hover, hjoiner⟩ := status_of_action hs _ _ ha
  exact ⟨_, hs, ha, hover, (hjoiner (by decide +kernel)).2.1⟩

/-- So an action may come with a status that says that shuffling is over. -/
theorem not_forall_shuffling_over :
    ¬ ∀ (game : GameId) (players : Players) (self : Option Address) (s : Session)
      (ops : List Operation) (op : Operation), create game players self = .ok s →
        ((s.run ops).1.perform op).1.status = .inProgress ∨
          ((s.run ops).1.perform op).1.status = .finished →
        ((s.run ops).1.perform op).2.action? = none := by
  intro hnever
  have hs : create ⟨7⟩ ⟨.fill 0xc1, .fill 0x01⟩ (some (.fill 0x01)) =
      .ok (fresh ⟨7⟩ ⟨.fill 0xc1, .fill 0x01⟩ .joiner) := rfl
  have hnone := hnever _ _ _ _ [.seed .inProgress] (.apply ⟨⟨10, 0⟩, .shuffled ⟨7⟩ (.fill 0xc1)⟩)
    hs (.inl (by decide +kernel))
  exact absurd hnone (by decide +kernel)

/-! ## Finished games -/

/-- Nobody is asked once the game is finished. -/
theorem action?_of_finished (h : (s.perform op).1.status = .finished) :
    (s.perform op).2.action? = none := by
  have hanswers := answers_perform s op
  cases ha : (s.perform op).2.action? with
  | none => rfl
  | some a =>
    rw [ha] at hanswers
    exact absurd h hanswers.justifies.not_over

/-- A status that is adopted is left at most for `inProgress`. -/
theorem status_seed_eq_finished_iff (h : status.isKnown = true) :
    (s.seed status).1.status = .finished ↔ status = .finished := by
  rw [status_seed h]
  split
  · cases status <;> decide
  · rfl

/-- Within an epoch, a finished game is reopened exactly when such a status is
    adopted. -/
theorem status_perform_eq_finished_iff (h : s.status = .finished)
    (hop : s.startsEpoch op = false) :
    (s.perform op).1.status = .finished ↔ op.reopens = false := by
  rw [Operation.reopens]
  cases hadopts : op.adopts? with
  | none =>
    rw [status_perform_of_not_advancesTo (not_advancesTo_of_finished h) hop hadopts]
    exact iff_of_true h rfl
  | some status =>
    obtain ⟨rfl, hknown⟩ := Operation.adopts?_eq_some hadopts
    refine (status_seed_eq_finished_iff hknown).trans ?_
    simp [Status.isOver]

/-- A finished game stays finished in a run of such operations, which makes no requests. -/
theorem run_of_staysOver (h : s.status = .finished) (hops : s.staysOver ops = true) :
    (s.run ops).1.status = .finished ∧ s.requests ops = [] := by
  induction ops generalizing s with
  | nil => exact ⟨h, rfl⟩
  | cons op ops ih =>
    rw [staysOver, Bool.and_eq_true, Bool.and_eq_true, Bool.not_eq_true', Bool.not_eq_true'] at hops
    obtain ⟨⟨hop, hreopens⟩, hrest⟩ := hops
    -- The game is finished after the operation, so nobody is asked in it, and the rest follows.
    have hstays := (status_perform_eq_finished_iff h hop).2 hreopens
    obtain ⟨hlast, hnone⟩ := ih hstays hrest
    refine ⟨hlast, ?_⟩
    rw [requests_cons, action?_of_finished hstays, hnone]
    rfl

/-- Within an epoch, a finished game stays finished and nobody is asked to shuffle,
    whatever is done, unless the status is read again and says that the game is not
    over. That status is adopted. So through every run that begins no epoch and adopts
    no such status the game stays finished, and the run makes no requests. -/
theorem finished_perform (h : s.status = .finished) :
    (∀ op, s.startsEpoch op = false →
      ((s.perform op).1.status = .finished ↔ op.reopens = false) ∧
      (op.reopens = false → (s.perform op).2.action? = none)) ∧
    ∀ ops, s.staysOver ops = true → (s.run ops).1.status = .finished ∧ s.requests ops = [] := by
  refine ⟨fun op hop => ?_, fun ops => run_of_staysOver h⟩
  have hstatus := status_perform_eq_finished_iff h hop
  exact ⟨hstatus, fun hreopens => action?_of_finished (hstatus.2 hreopens)⟩

/-- A late shuffle changes nothing in a finished game, and neither does a status that
    says the same again, nor both in turn. -/
theorem finished_perform_shuffled :
    ∃ (s : Session) (ops : List Operation), s.status = .finished ∧
      ops = [.apply ⟨⟨10, 0⟩, .shuffled ⟨7⟩ (.fill 0xc1)⟩, .seed .finished] ∧
      (∀ op ∈ ops, (s.perform op).1.status = .finished ∧ (s.perform op).2.action? = none) ∧
      (s.run ops).1.status = .finished ∧ s.requests ops = [] := by
  let s := ((fresh ⟨7⟩ ⟨.fill 0xc1, .fill 0x01⟩ .joiner).seed .finished).1
  let ops := [Operation.apply ⟨⟨10, 0⟩, .shuffled ⟨7⟩ (.fill 0xc1)⟩, .seed .finished]
  have hs : s.status = .finished := by decide +kernel
  obtain ⟨hstep, hrun⟩ := finished_perform hs
  refine ⟨s, ops, hs, rfl, fun op hmem => ?_, hrun ops (by decide +kernel)⟩
  have hop : s.startsEpoch op = false ∧ op.reopens = false := by
    revert op
    decide +kernel
  obtain ⟨hstatus, hquiet⟩ := hstep op hop.1
  exact ⟨hstatus.2 hop.2, hquiet hop.2⟩

/-- A status that is adopted may reopen a finished game, and ask for a shuffle. -/
theorem not_forall_stays_finished :
    ¬ ∀ (s : Session) (op : Operation), Reachable s → s.status = .finished →
      s.startsEpoch op = false →
      (s.perform op).1.status = .finished ∧ (s.perform op).2.action? = none := by
  intro hterminal
  have hs : create ⟨7⟩ ⟨.fill 0xc1, .fill 0x01⟩ (some (.fill 0xc1)) =
      .ok (fresh ⟨7⟩ ⟨.fill 0xc1, .fill 0x01⟩ .creator) := rfl
  have hstays := hterminal _ (.seed .shuffling) ((Reachable.create hs).perform (.seed .finished))
    (by decide +kernel) rfl
  exact absurd hstays.1 (by decide +kernel)

end ShuffleWatch.Session
