import ShuffleWatch.Proofs.Session.Requests

/-!
# No request is missed

A client that should act, in a session that knows the status of the game, has been
asked to (`exists_mem_requests_of_shouldAct`). A reason to act can arise in many
ways: a status is adopted, a shuffle is learned of, the joiner joins, or the feed
has caught up after requests were held back. But whatever a session learns in an
epoch whose status it knows, it goes on to ask if it has to (`isPrompt_perform`). A
rematch, after which shuffles may be carried over without a request, leaves the
status unknown until one is adopted.
-/

namespace ShuffleWatch.Session

/-- Once the status is known, nobody who has to be asked is left waiting. -/
def IsPrompt (s : Session) : Prop := s.status.isKnown = true → s.mustAsk = false

variable {s t : Session} {ops : List Operation}

/-! ## Asking -/

/-- Who has been asked does not have to be asked. -/
theorem mustAsk_eq_false_of_asked (h : s.asked s.role = true) : s.mustAsk = false := by
  rw [mustAsk, h, Bool.not_true, Bool.and_false]

/-- A session that was ready to ask has done so. -/
theorem mustAsk_takeAction : s.takeAction.1.mustAsk = false := by
  rw [takeAction]
  split
  · rename_i hask
    have hplayer := isPlayer_of_shouldAct (mustAsk_iff.1 hask).2.2.1
    refine mustAsk_eq_false_of_asked ?_
    rw [role_markAsked]
    exact (asked_markAsked_iff hplayer).2 (.inr rfl)
  · rename_i hask
    exact Bool.eq_false_iff.2 hask

theorem isPrompt_takeAction : s.takeAction.1.IsPrompt := fun _ => mustAsk_takeAction

/-! ## Epochs without a status -/

/-- A session without a status need not have asked yet. -/
theorem isPrompt_of_uninitialized (h : s.status = .uninitialized) : s.IsPrompt := by
  intro hknown
  rw [h] at hknown
  cases hknown

theorem status_recordShuffle {player : Address} {p : Position} :
    (s.recordShuffle player p).status = s.status := by
  rw [recordShuffle]
  split <;> rfl

theorem status_carryShuffle {p : Position} {player : Address} {o : Option Position} :
    (carryShuffle p s player o).status = s.status := by
  rw [carryShuffle.eq_def]
  split
  · split
    · exact status_recordShuffle
    · rfl
  · rfl

/-- A rematch makes the status unknown, also when shuffles are carried over. -/
theorem status_rematch {p : Position} : (s.rematch p).status = .uninitialized := by
  rw [rematch_eq, status_carryShuffle, status_carryShuffle]
  rfl

/-! ## Operations -/

theorem isPrompt_apply (e : Entry) (h : s.IsPrompt) : (s.apply e).1.IsPrompt := by
  rw [apply]
  split
  · exact h
  · split
    · obtain ⟨p, event⟩ := e
      cases event with
      | rematch g => exact isPrompt_of_uninitialized status_rematch
      | _ => contradiction
    · exact isPrompt_takeAction

theorem isPrompt_seed (status : Status) (h : s.IsPrompt) : (s.seed status).1.IsPrompt := by
  rw [seed]
  split
  · exact isPrompt_takeAction
  · exact h

theorem isPrompt_receive (item : Item) (h : s.IsPrompt) : (s.receive item).1.IsPrompt := by
  cases item with
  | entry e => exact isPrompt_apply e h
  | caughtUp => exact isPrompt_takeAction
  | fault f =>
    rw [receive]
    split
    -- The link has no part in who has to be asked.
    · exact h
    · exact h

/-- Whatever is done to a prompt session, it stays prompt. -/
theorem isPrompt_perform (op : Operation) (h : s.IsPrompt) : (s.perform op).1.IsPrompt := by
  -- Each operation that may make it the turn of the client looks for an action in
  -- the end. The others hold requests back, or leave no status to act in.
  cases op with
  | seed status => exact isPrompt_seed status h
  | apply e => exact isPrompt_apply e h
  | receive item => exact isPrompt_receive item h
  | catchUp => exact isPrompt_takeAction
  | awaitBacklog => exact fun _ => rfl
  | loseLink => exact h
  | restart => exact isPrompt_of_uninitialized rfl
  | rebind players self =>
    simp only [perform]
    split
    · rename_i t ht
      obtain ⟨r, -, rfl⟩ := rebind_eq_ok ht
      exact isPrompt_of_uninitialized rfl
    · exact h

/-- Every session is prompt. -/
theorem Reachable.isPrompt (h : Reachable s) : s.IsPrompt := by
  induction h with
  | create hs =>
    obtain ⟨r, -, rfl⟩ := create_eq_ok hs
    exact isPrompt_of_uninitialized rfl
  | perform op _ ih => exact isPrompt_perform op ih

/-- A client that should act has been asked, once the status is known, unless the
    game is over or requests are held back. -/
theorem Reachable.asked_of_shouldAct (h : Reachable s) (hknown : s.status.isKnown = true)
    (hover : s.status ≠ .finished) (hholding : s.holding = false)
    (hact : s.shouldAct s.role = true) : s.asked s.role = true := by
  have hprompt := h.isPrompt hknown
  by_contra hasked
  rw [Bool.not_eq_true] at hasked
  rw [mustAsk_iff.2 ⟨hholding, hover, hact, hasked⟩] at hprompt
  cases hprompt

/-! ## Every request that is due was made -/

/-- Whatever is done to a new session: if it then knows the status of the game,
    which is not over, if it does not hold requests back and the client should act,
    then the client was asked to in the current epoch. -/
theorem exists_mem_requests_of_shouldAct {game : GameId} {players : Players}
    {self : Option Address} (h : create game players self = .ok s) (ops : List Operation)
    (hknown : (s.run ops).1.status.isKnown = true) (hover : (s.run ops).1.status ≠ .finished)
    (hholding : (s.run ops).1.holding = false)
    (hact : (s.run ops).1.shouldAct (s.run ops).1.role = true) :
    ∃ t, (t, .shuffle game (s.run ops).1.role) ∈ s.requests ops ∧
      t.epoch = (s.run ops).1.epoch := by
  have hasked := ((Reachable.create h).run ops).asked_of_shouldAct hknown hover hholding hact
  obtain ⟨r, -, rfl⟩ := create_eq_ok h
  -- A new session has asked nobody, so the request is one of the run.
  rcases (asked_run_iff _ ops _).1 hasked with ⟨hfresh, -⟩ | hrequest
  · have hnobody : ∀ r', (fresh game players r).asked r' = false := fun r' => by cases r' <;> rfl
    rw [hnobody] at hfresh
    cases hfresh
  · exact hrequest

/-- The joiner is asked in the epoch of a rematch that was overtaken by the shuffle
    of the creator, when the feed has caught up: neither the rematch nor the status
    that is adopted while requests are held back asks. -/
theorem exists_mem_requests_of_shouldAct_overtaken :
    ∃ s : Session, create ⟨7⟩ ⟨.fill 0xc1, .fill 0x01⟩ (some (.fill 0x01)) = .ok s ∧
      ∃ ops : List Operation, (s.run ops).1.shouldAct .joiner = true ∧
        (∃ t, (t, .shuffle ⟨7⟩ .joiner) ∈ s.requests ops ∧ t.epoch = 1) ∧
        (s.run ops).2.dropLast.all (fun outcome => outcome.action?.isNone) = true := by
  have hs : create ⟨7⟩ ⟨.fill 0xc1, .fill 0x01⟩ (some (.fill 0x01)) =
      .ok (fresh ⟨7⟩ ⟨.fill 0xc1, .fill 0x01⟩ .joiner) := rfl
  let ops : List Operation := [.awaitBacklog, .seed .inProgress,
    .apply ⟨⟨5, 0⟩, .shuffled ⟨7⟩ (.fill 0xc1)⟩, .apply ⟨⟨4, 0⟩, .rematch ⟨7⟩⟩, .seed .shuffling,
    .receive .caughtUp]
  -- The request is held back in both epochs, and made at the end of the backlog.
  have hrequest := exists_mem_requests_of_shouldAct hs ops (by decide +kernel) (by decide +kernel)
    (by decide +kernel) (by decide +kernel)
  have hrole : ((fresh ⟨7⟩ ⟨.fill 0xc1, .fill 0x01⟩ .joiner).run ops).1.role = .joiner := by
    decide +kernel
  have hepoch : ((fresh ⟨7⟩ ⟨.fill 0xc1, .fill 0x01⟩ .joiner).run ops).1.epoch = 1 := by
    decide +kernel
  rw [hrole, hepoch] at hrequest
  exact ⟨_, hs, ops, by decide +kernel, hrequest, by decide +kernel⟩

end ShuffleWatch.Session
