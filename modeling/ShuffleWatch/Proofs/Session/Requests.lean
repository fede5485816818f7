import Mathlib.Data.List.Nodup
import ShuffleWatch.Proofs.Session.Facts

/-!
# Requests

When a session asks the client to shuffle. What any operation does about it is
said once (`Answers`, `answers_perform`): it begins an epoch in which the client
has not been asked, or it leaves the requests alone, or it asks, since the
client has to be asked after what the operation brought.

* `Answers.justifies`: a request is justified by the session right after it;
* `nodup_epochs_requests`: a run makes at most one request in each epoch;
* `asked_run_iff`: a player counts as asked exactly when a run has asked it in the
  current epoch.
-/

namespace ShuffleWatch.Session

/-- How often the session began anew, and what it has asked of whom since. -/
structure Asks where
  epoch : Nat
  role : Role
  creatorAsked : Bool
  joinerAsked : Bool
  deriving DecidableEq

/-- The requests of the session in its epoch. -/
def asks (s : Session) : Asks := ⟨s.epoch, s.role, s.creatorAsked, s.joinerAsked⟩

/-- The requests of the session, and whether further ones are held back. -/
def restraint (s : Session) : Asks × Bool := (s.asks, s.holding)

/-- The session is such that the client has just been asked for the action, and
    rightly so. -/
structure Justifies (s : Session) (a : Action) : Prop where
  not_holding : s.holding = false
  not_over : s.status ≠ .finished
  isPlayer : s.role = .creator ∨ s.role = .joiner
  shouldAct : s.shouldAct s.role = true
  action_eq : a = .shuffle s.game s.role

/-- The requests that a run makes, each with the session right after it. -/
def requests (s : Session) : List Operation → List (Session × Action)
  | [] => []
  | op :: ops =>
    let (t, outcome) := s.perform op
    outcome.action?.toList.map (t, ·) ++ t.requests ops

variable {s t u : Session} {a : Action} {ops : List Operation}

theorem requests_cons (s : Session) (op : Operation) (ops : List Operation) :
    s.requests (op :: ops) =
      (s.perform op).2.action?.toList.map ((s.perform op).1, ·) ++
        (s.perform op).1.requests ops := rfl

/-- The requests are the actions that the operations answer with. -/
theorem map_snd_requests (s : Session) (ops : List Operation) :
    (s.requests ops).map Prod.snd = (s.run ops).2.filterMap Outcome.action? := by
  induction ops generalizing s with
  | nil => rfl
  | cons op ops ih =>
    rw [requests_cons, run_cons, List.map_append, ih, List.filterMap_cons]
    cases (s.perform op).2.action? <;> simp

/-! ## What an operation does about requests -/

theorem restraint_advance (target : Status) : (s.advance target).restraint = s.restraint := by
  rw [advance]
  split <;> rfl

theorem restraint_settle : s.settle.restraint = s.restraint := by
  rw [settle]
  split
  · exact restraint_advance _
  · rfl

theorem restraint_recordShuffle (player : Address) (p : Position) :
    (s.recordShuffle player p).restraint = s.restraint := by
  rw [recordShuffle]
  split <;> rfl

theorem restraint_carryShuffle (p : Position) (player : Address) (o : Option Position) :
    (carryShuffle p s player o).restraint = s.restraint := by
  rw [carryShuffle.eq_def]
  split
  · split
    · exact restraint_recordShuffle player _
    · rfl
  · rfl

/-- A rematch begins an epoch, in which nobody has been asked. -/
theorem restraint_rematch (p : Position) :
    (s.rematch p).restraint = (⟨s.epoch + 1, s.role, false, false⟩, s.holding) := by
  rw [rematch, restraint_carryShuffle, restraint_carryShuffle]
  rfl

/-- What an event other than a rematch teaches has no part in the requests. -/
theorem restraint_learn {p : Position} {event : Event} (h : event.kind ≠ .rematch) :
    (s.learn p event).restraint = s.restraint := by
  cases event with
  | created g b => exact restraint_advance _
  | joined g b =>
    rw [learn]
    split
    · rw [restraint_settle, restraint_advance]
    · rfl
  | shuffled g b => rw [learn, restraint_settle, restraint_recordShuffle]
  | ended g w => exact restraint_advance _
  | rematch g => exact absurd rfl h

/-- What may become of a session and of the requests in an operation. -/
inductive Answers (s : Session) : Session → Option Action → Prop
  /-- An epoch begins, in which the client has not been asked. -/
  | begin {t : Session} : t.epoch = s.epoch + 1 → (∀ r, t.asked r = false) → Answers s t none
  /-- The client is not asked. -/
  | quiet {t : Session} : t.asks = s.asks → Answers s t none
  /-- The client is asked, since it has to be after what the session learned. -/
  | ask {t : Session} : t.asks = s.asks → t.mustAsk = true →
      Answers s (t.markAsked t.role) (some (.shuffle t.game t.role))

theorem answers_takeAction (h : t.asks = s.asks) : s.Answers t.takeAction.1 t.takeAction.2 := by
  rw [takeAction]
  split
  · rename_i hask
    exact .ask h hask
  · exact .quiet h

/-- A session that just began an epoch has asked nobody. -/
theorem asked_eq_false {e : Nat} {r : Role} (h : t.asks = ⟨e, r, false, false⟩) (r' : Role) :
    t.asked r' = false := by
  cases r' with
  | creator => exact congrArg Asks.creatorAsked h
  | joiner => exact congrArg Asks.joinerAsked h
  | spectator => rfl

theorem answers_apply (e : Entry) : s.Answers (s.apply e).1 (s.apply e).2.action? := by
  rw [apply]
  split
  · exact .quiet rfl
  · split
    · rename_i hkind
      have hasks : (s.learn e.position e.event).asks = ⟨s.epoch + 1, s.role, false, false⟩ := by
        obtain ⟨p, event⟩ := e
        cases event with
        | rematch g => exact congrArg Prod.fst (restraint_rematch p)
        | _ => cases hkind
      exact .begin (congrArg Asks.epoch hasks) (asked_eq_false hasks)
    · rename_i hkind
      have hlearn := restraint_learn (s := s) (p := e.position) hkind
      have h := answers_takeAction (congrArg Prod.fst hlearn)
      dsimp only
      -- An unchanged session has no action, which is what `unchanged` answers.
      split
      · rename_i hsame
        rw [Bool.and_eq_true, Option.isNone_iff_eq_none] at hsame
        rw [hsame.2] at h
        exact h
      · exact h

theorem answers_seed (status : Status) : s.Answers (s.seed status).1 (s.seed status).2 := by
  rw [seed]
  split
  · exact answers_takeAction (congrArg Prod.fst restraint_settle)
  · exact .quiet rfl

theorem answers_catchUp : s.Answers s.catchUp.1 s.catchUp.2 := answers_takeAction rfl

/-- Every operation begins an epoch, leaves the requests alone or asks. -/
theorem answers_perform (s : Session) (op : Operation) :
    s.Answers (s.perform op).1 (s.perform op).2.action? := by
  cases op with
  | seed status => exact answers_seed status
  | apply e => exact answers_apply e
  | receive item =>
    cases item with
    | entry e => exact answers_apply e
    | caughtUp =>
      have h := answers_catchUp (s := s)
      simp only [perform, receive]
      -- To receive the mark is to catch up. Only the verdict is another one.
      split
      · rename_i hnone
        rw [Option.isNone_iff_eq_none] at hnone
        rw [hnone] at h
        exact h
      · exact h
    | fault f =>
      simp only [perform, receive]
      split <;> exact .quiet rfl
  | catchUp => exact answers_catchUp
  | awaitBacklog => exact .quiet rfl
  | loseLink => exact .quiet rfl
  | restart => exact .begin rfl fun r => by cases r <;> rfl
  | rebind players self =>
    simp only [perform]
    cases hr : s.rebind players self with
    | error refusal => exact .quiet rfl
    | ok t =>
      obtain ⟨r, -, rfl⟩ := rebind_eq_ok hr
      exact .begin rfl fun r' => by cases r' <;> rfl

/-! ## A request is justified -/

@[simp]
theorem holding_markAsked (r : Role) : (s.markAsked r).holding = s.holding := by
  cases r <;> rfl

@[simp]
theorem status_markAsked (r : Role) : (s.markAsked r).status = s.status := by
  cases r <;> rfl

@[simp]
theorem role_markAsked (r : Role) : (s.markAsked r).role = s.role := by
  cases r <;> rfl

@[simp]
theorem game_markAsked (r : Role) : (s.markAsked r).game = s.game := by
  cases r <;> rfl

@[simp]
theorem epoch_markAsked (r : Role) : (s.markAsked r).epoch = s.epoch := by
  cases r <;> rfl

@[simp]
theorem shouldAct_markAsked (r r' : Role) : (s.markAsked r).shouldAct r' = s.shouldAct r' := by
  cases r <;> rfl

theorem holding_takeAction : s.takeAction.1.holding = s.holding := by
  rw [takeAction]
  split
  · exact holding_markAsked s.role
  · rfl

/-- Requests stay held back whatever entry comes. -/
theorem holding_apply (e : Entry) : (s.apply e).1.holding = s.holding := by
  rw [apply]
  split
  · rfl
  · split
    · obtain ⟨p, event⟩ := e
      cases event with
      | rematch g => exact congrArg Prod.snd (restraint_rematch p)
      | _ => contradiction
    · rename_i hkind
      exact holding_takeAction.trans (congrArg Prod.snd (restraint_learn hkind))

/-- Requests stay held back when a status is adopted. -/
theorem holding_seed (status : Status) : (s.seed status).1.holding = s.holding := by
  rw [seed]
  split
  · exact holding_takeAction.trans (congrArg Prod.snd restraint_settle)
  · rfl

/-- What makes a session ask: requests are not held back, the game is not over,
    and the client should act and has not been asked. -/
theorem mustAsk_iff :
    s.mustAsk = true ↔ s.holding = false ∧ s.status ≠ .finished ∧ s.shouldAct s.role = true ∧
      s.asked s.role = false := by
  simp [mustAsk, Status.isOver, and_assoc]

/-- A session that should act is the session of a player. -/
theorem isPlayer_of_shouldAct {r : Role} (h : s.shouldAct r = true) :
    r = .creator ∨ r = .joiner := by
  cases r with
  | creator => exact .inl rfl
  | joiner => exact .inr rfl
  | spectator => cases h

/-- Marking the client as asked changes nothing that the request rests on. -/
theorem Answers.justifies (h : s.Answers t (some a)) : t.Justifies a := by
  cases h with
  | @ask u hasks hask =>
    obtain ⟨hholding, hover, hact, -⟩ := mustAsk_iff.1 hask
    have hplayer := isPlayer_of_shouldAct hact
    constructor <;> simp [hholding, hover, hact, hplayer]

theorem justifies_of_mem_requests (h : (t, a) ∈ s.requests ops) : t.Justifies a := by
  induction ops generalizing s with
  | nil => cases h
  | cons op ops ih =>
    rw [requests_cons, List.mem_append] at h
    rcases h with h | h
    · have hanswers := answers_perform s op
      cases ha : (s.perform op).2.action? with
      | none =>
        rw [ha] at h
        cases h
      | some b =>
        rw [ha] at h hanswers
        obtain ⟨rfl, rfl⟩ := Prod.mk.inj (List.mem_singleton.1 h)
        exact hanswers.justifies
    · exact ih h

/-! ## One request in each epoch -/

/-- Marking a player as asked leaves the other one as it was. -/
theorem asked_markAsked_iff {r r' : Role} (h : r = .creator ∨ r = .joiner) :
    (s.markAsked r).asked r' = true ↔ s.asked r' = true ∨ r = r' := by
  rcases h with rfl | rfl <;> cases r' <;> simp [markAsked, Session.asked]

/-- The client that was asked counts as asked from then on. -/
theorem Answers.asked (h : s.Answers t (some a)) : t.asked t.role = true := by
  cases h with
  | @ask u hasks hask =>
    rw [role_markAsked]
    exact (asked_markAsked_iff (isPlayer_of_shouldAct (mustAsk_iff.1 hask).2.2.1)).2 (.inr rfl)

theorem asked_eq_of_asks_eq (h : t.asks = s.asks) (r : Role) : t.asked r = s.asked r := by
  cases r with
  | creator => exact congrArg Asks.creatorAsked h
  | joiner => exact congrArg Asks.joinerAsked h
  | spectator => rfl

theorem asked_congr (h : t.asks = s.asks) : t.asked t.role = s.asked s.role := by
  have hrole : t.role = s.role := congrArg Asks.role h
  rw [asked_eq_of_asks_eq h, hrole]

/-- A request is made in the current epoch, to a client that was not asked yet. -/
theorem Answers.of_some (h : s.Answers t (some a)) :
    t.epoch = s.epoch ∧ s.asked s.role = false := by
  cases h with
  | @ask u hasks hask =>
    rw [epoch_markAsked, ← asked_congr hasks]
    exact ⟨congrArg Asks.epoch hasks, (mustAsk_iff.1 hask).2.2.2⟩

/-- Without a request, an epoch begins or all stays as it was. -/
theorem Answers.of_none (h : s.Answers t none) : t.epoch = s.epoch + 1 ∨ t.asks = s.asks := by
  cases h with
  | begin hepoch _ => exact .inl hepoch
  | quiet hasks => exact .inr hasks

theorem epoch_le_of_mem_requests (h : (t, a) ∈ s.requests ops) : s.epoch ≤ t.epoch := by
  induction ops generalizing s with
  | nil => cases h
  | cons op ops ih =>
    have hanswers := answers_perform s op
    rw [requests_cons] at h
    cases ha : (s.perform op).2.action? with
    | none =>
      rw [ha] at h hanswers
      have hle := ih h
      -- An operation without an action may begin an epoch, and only that changes its number.
      rcases hanswers.of_none with hepoch | hasks
      · omega
      · have hepoch : (s.perform op).1.epoch = s.epoch := congrArg Asks.epoch hasks
        omega
    | some b =>
      rw [ha] at h hanswers
      have hepoch := hanswers.of_some.1
      rcases List.mem_cons.1 h with h | h
      · obtain ⟨rfl, -⟩ := Prod.mk.inj h
        exact hepoch.ge
      · have hle := ih h
        omega

/-- A client that was asked is not asked again in the same epoch. -/
theorem epoch_lt_of_mem_requests (hasked : s.asked s.role = true)
    (h : (t, a) ∈ s.requests ops) : s.epoch < t.epoch := by
  -- A session that asked asks again after a new epoch only, and epochs never come back.
  induction ops generalizing s with
  | nil => cases h
  | cons op ops ih =>
    have hanswers := answers_perform s op
    rw [requests_cons] at h
    cases ha : (s.perform op).2.action? with
    | none =>
      rw [ha] at h hanswers
      rcases hanswers.of_none with hepoch | hasks
      · have hle := epoch_le_of_mem_requests h
        omega
      · have hlt := ih ((asked_congr hasks).trans hasked) h
        have hepoch : (s.perform op).1.epoch = s.epoch := congrArg Asks.epoch hasks
        omega
    | some b =>
      rw [ha] at hanswers
      exact absurd hasked (by rw [hanswers.of_some.2]; exact Bool.false_ne_true)

/-- A run makes at most one request in each epoch. -/
theorem nodup_epochs_requests (s : Session) (ops : List Operation) :
    ((s.requests ops).map fun r => r.1.epoch).Nodup := by
  induction ops generalizing s with
  | nil => exact List.nodup_nil
  | cons op ops ih =>
    have hanswers := answers_perform s op
    rw [requests_cons]
    cases ha : (s.perform op).2.action? with
    | none => exact ih _
    | some b =>
      rw [ha] at hanswers
      -- The first request marks its epoch as asked, hence all others belong to later ones.
      refine List.nodup_cons.2 ⟨fun hmem => ?_, ih _⟩
      obtain ⟨⟨u, c⟩, hu, hepoch⟩ := List.mem_map.1 hmem
      exact absurd hepoch (epoch_lt_of_mem_requests hanswers.asked hu).ne'

/-! ## Who counts as asked -/

theorem Answers.epoch_le {o : Option Action} (h : s.Answers t o) : s.epoch ≤ t.epoch := by
  cases o with
  | none =>
    rcases h.of_none with hepoch | hasks
    · omega
    · exact (congrArg Asks.epoch hasks).ge
  | some a => exact h.of_some.1.ge

theorem epoch_le_run (s : Session) (ops : List Operation) : s.epoch ≤ (s.run ops).1.epoch := by
  induction ops generalizing s with
  | nil => exact le_rfl
  | cons op ops ih => exact (answers_perform s op).epoch_le.trans (ih _)

/-- A player counts as asked if it did before in the same epoch, or is asked now. -/
theorem Answers.asked_iff {o : Option Action} {r : Role} (h : s.Answers t o) :
    t.asked r = true ↔ s.asked r = true ∧ s.epoch = t.epoch ∨ o = some (.shuffle t.game r) := by
  -- A mark is set with the request, and is taken away when an epoch begins.
  cases h with
  | begin hepoch hnone =>
    have hne : s.epoch ≠ t.epoch := by omega
    simp [hnone r, hne]
  | quiet hasks =>
    have hepoch : t.epoch = s.epoch := congrArg Asks.epoch hasks
    simp [asked_eq_of_asks_eq hasks r, hepoch]
  | @ask u hasks hask =>
    have hepoch : u.epoch = s.epoch := congrArg Asks.epoch hasks
    have hplayer := isPlayer_of_shouldAct (mustAsk_iff.1 hask).2.2.1
    rw [asked_markAsked_iff hplayer, asked_eq_of_asks_eq hasks r, epoch_markAsked, game_markAsked]
    simp [hepoch]

/-- After a run, a player counts as asked if it did before, or was asked in the
    run, in the epoch that is current in the end. -/
theorem asked_run_iff (s : Session) (ops : List Operation) (r : Role) :
    (s.run ops).1.asked r = true ↔
      s.asked r = true ∧ s.epoch = (s.run ops).1.epoch ∨
        ∃ t, (t, .shuffle s.game r) ∈ s.requests ops ∧ t.epoch = (s.run ops).1.epoch := by
  induction ops generalizing s with
  | nil => simp [run, requests]
  | cons op ops ih =>
    have hanswers := answers_perform s op
    have hle := hanswers.epoch_le
    have hle' := epoch_le_run (s.perform op).1 ops
    rw [run_cons, requests_cons, ih, hanswers.asked_iff, game_perform]
    simp only [List.mem_append, List.mem_map, Option.mem_toList, Prod.mk.injEq]
    constructor
    · rintro (⟨⟨hasked, hepoch⟩ | haction, hlast⟩ | ⟨t, ht, hlast⟩)
      · exact .inl ⟨hasked, hepoch.trans hlast⟩
      · exact .inr ⟨_, .inl ⟨_, haction, rfl, rfl⟩, hlast⟩
      · exact .inr ⟨t, .inr ht, hlast⟩
    · rintro (⟨hasked, hlast⟩ | ⟨t, ⟨a, haction, rfl, rfl⟩ | ht, hlast⟩)
      -- The epoch is the same in the end, so it has been the same all along.
      · exact .inl ⟨.inl ⟨hasked, by omega⟩, by omega⟩
      · exact .inl ⟨.inr haction, hlast⟩
      · exact .inr ⟨t, ht, hlast⟩

/-- After a run, the joiner counts as asked if it did before, or was asked in the
    run, in the epoch that is current in the end. -/
theorem joinerAsked_run_iff (s : Session) (ops : List Operation) :
    (s.run ops).1.joinerAsked = true ↔
      s.joinerAsked = true ∧ s.epoch = (s.run ops).1.epoch ∨
        ∃ t, (t, .shuffle s.game .joiner) ∈ s.requests ops ∧ t.epoch = (s.run ops).1.epoch :=
  asked_run_iff s ops .joiner

/-! ## At most one request, and only a justified one -/

/-- Whatever is done to a new session, it makes at most one request in each epoch,
    every request is justified right after it is made, and the joiner counts as
    asked exactly when it was asked in the current epoch. The requests are the
    actions that the operations answer with. -/
theorem requests_of_create {game : GameId} {players : Players} {self : Option Address}
    (h : create game players self = .ok s) (ops : List Operation) :
    (s.requests ops).map Prod.snd = (s.run ops).2.filterMap Outcome.action? ∧
    ((s.requests ops).map fun r => r.1.epoch).Nodup ∧
    (∀ t a, (t, a) ∈ s.requests ops → t.Justifies a) ∧
    ((s.run ops).1.joinerAsked = true ↔
      ∃ t, (t, .shuffle game .joiner) ∈ s.requests ops ∧ t.epoch = (s.run ops).1.epoch) := by
  obtain ⟨r, -, rfl⟩ := create_eq_ok h
  refine ⟨map_snd_requests _ ops, nodup_epochs_requests _ ops,
    fun t a => justifies_of_mem_requests, ?_⟩
  rw [joinerAsked_run_iff]
  -- Nothing was asked at the beginning, so that the mark stems from a request of the run.
  have hfresh : (fresh game players r).joinerAsked = false := rfl
  rw [hfresh]
  simp only [Bool.false_eq_true, false_and, false_or]
  exact Iff.rfl

/-- The creator is asked, not asked again when the status comes repeatedly, and
    asked once more after a rematch. -/
theorem requests_of_create_rematch :
    ∃ s : Session, create ⟨7⟩ ⟨.fill 0xc1, .fill 0x01⟩ (some (.fill 0xc1)) = .ok s ∧
      ∃ ops : List Operation,
        ((s.requests ops).map fun r => r.1.epoch).Nodup ∧
        (∀ t a, (t, a) ∈ s.requests ops → t.Justifies a) ∧
        (s.requests ops).map (fun r => (r.1.epoch, r.2)) =
          [(0, .shuffle ⟨7⟩ .creator), (1, .shuffle ⟨7⟩ .creator)] := by
  have hs : create ⟨7⟩ ⟨.fill 0xc1, .fill 0x01⟩ (some (.fill 0xc1)) =
      .ok (fresh ⟨7⟩ ⟨.fill 0xc1, .fill 0x01⟩ .creator) := rfl
  let ops : List Operation := [.seed .shuffling, .seed .shuffling, .loseLink, .seed .shuffling,
    .apply ⟨⟨4, 0⟩, .rematch ⟨7⟩⟩, .awaitBacklog, .seed .shuffling, .catchUp, .seed .shuffling]
  obtain ⟨-, hnodup, hjustified, -⟩ := requests_of_create hs ops
  exact ⟨_, hs, ops, hnodup, hjustified, by decide +kernel⟩

end ShuffleWatch.Session
