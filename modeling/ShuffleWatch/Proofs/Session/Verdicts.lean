import ShuffleWatch.Proofs.Session.Currency
import ShuffleWatch.Proofs.Session.Repeats
import ShuffleWatch.Proofs.Session.Standing

/-!
# What a verdict tells

Whoever hands items of a feed to a session looks at nothing but the verdict. So it has to
tell all that may have become of the session (`Tells`, `tells_receive`): why an item was
filtered out, that nothing was learned, or that the status or the flags moved forward or the
client is asked. What a verdict does not announce has not changed. It takes `learn_eq` and
`takeAction_eq` for that, which say what an entry can change at all.
-/

namespace ShuffleWatch

/-- The later of two recorded positions takes the place of the earlier one, if the record
    changes. -/
def Position.Rises (o o' : Option Position) : Prop := o' = o ∨ ∃ p ∈ o, ∃ q ∈ o', p < q

/-- The event names somebody whom it cannot be about: the creator creates, the joiner joins,
    and either of them shuffles. -/
def Event.NamesStranger (event : Event) (ps : Players) : Prop :=
  match event with
  | .created _ a => a ≠ ps.creator
  | .joined _ a => a ≠ ps.joiner
  | .shuffled _ a => a ≠ ps.creator ∧ a ≠ ps.joiner
  | .ended .. => False
  | .rematch _ => False

theorem Players.accept_eq_false_iff {ps : Players} {event : Event} :
    ps.accept event = false ↔ event.NamesStranger ps := by
  cases event <;> simp [accept, contains, Event.NamesStranger]

namespace Session

open Position (reaches isAbove Rises)

/-- The session `t` is the session `s`, but for a later shuffle that may be recorded of one
    of the players. -/
structure StaysAs (s t : Session) : Prop where
  eq : t = { s with creatorShuffle := t.creatorShuffle, joinerShuffle := t.joinerShuffle }
  creator_rises : Rises s.creatorShuffle t.creatorShuffle
  joiner_rises : Rises s.joinerShuffle t.joinerShuffle
  one : t.creatorShuffle = s.creatorShuffle ∨ t.joinerShuffle = s.joinerShuffle

/-- From the session `s` to the session `t`, the status or the flags moved forward, or the
    client is asked for the action. The epoch, the floor, the link and whether requests are
    held back are the same. -/
structure MovesTo (s t : Session) (action : Option Action) : Prop where
  eq : t = { s with
    status := t.status
    progress := t.progress
    creatorShuffle := t.creatorShuffle
    joinerShuffle := t.joinerShuffle
    creatorAsked := t.creatorAsked
    joinerAsked := t.joinerAsked }
  status_le : s.status ≤ t.status
  creator_flag : s.progress.creator = true → t.progress.creator = true
  joiner_flag : s.progress.joiner = true → t.progress.joiner = true
  asked_iff : ∀ r, t.asked r = true ↔ s.asked r = true ∨ action = some (.shuffle s.game r)
  moved : s.status < t.status ∨ s.progress ≠ t.progress ∨ action.isSome = true

/-- What the verdict tells of the session `s`, which took in the item and became `t`. -/
structure Tells (s : Session) (item : Item) (t : Session) (v : Verdict) : Prop where
  otherGame_iff : v = .filtered .otherGame ↔ ∃ e, item = .entry e ∧ e.event.game ≠ s.game
  stale_iff : v = .filtered .stale ↔
    ∃ e, item = .entry e ∧ e.event.game = s.game ∧ reaches s.floor e.position = true
  unknownPlayer_iff : v = .filtered .unknownPlayer ↔
    ∃ e, item = .entry e ∧ e.event.game = s.game ∧ isAbove s.floor e.position = true ∧
      e.event.NamesStranger s.players
  reset_iff : v = .reset ↔ ∃ e, item = .entry e ∧ e.event = .rematch s.game ∧
    isAbove s.floor e.position = true
  malformed_iff : v = .malformed ↔ ∃ f, item = .fault f ∧ f.losesConnection = false
  disconnected_iff : v = .disconnected ↔ ∃ f, item = .fault f ∧ f.losesConnection = true
  of_filtered : ∀ why, v = .filtered why → t = s
  of_malformed : v = .malformed → t = s
  of_disconnected : v = .disconnected → t = { s with link := .lost }
  of_unchanged : ∀ e, item = .entry e → v = .unchanged → s.StaysAs t
  of_changed : ∀ e action, item = .entry e → v = .changed action → s.MovesTo t action
  of_caughtUp : item = .caughtUp →
    v = .unchanged ∧ t = { s with holding := false } ∨
      v = .changed (some (.shuffle s.game s.role)) ∧ s.asked s.role = false ∧
        t = { s with holding := false }.markAsked s.role

variable {s t : Session} {e : Entry} {item : Item} {p : Position} {o : Option Position}

/-! ## Records -/

theorem rises_refl : Rises o o := .inl rfl

/-- Of a player who has shuffled, a later shuffle is recorded in place of the earlier one. -/
theorem rises_elim_max (h : o.isSome = true) : Rises o (some (o.elim p (max · p))) := by
  obtain ⟨q, rfl⟩ := Option.isSome_iff_exists.1 h
  rcases lt_or_ge q p with hlt | hge
  · exact .inr ⟨q, rfl, p, by rw [Option.elim_some, max_eq_right hlt.le]; rfl, hlt⟩
  · rw [Option.elim_some, max_eq_left hge]
    exact rises_refl

/-! ## What an entry can change -/

/-- What is learned within an epoch is the status and who has shuffled where. -/
theorem learn_eq {event : Event} (hkind : event.kind ≠ .rematch) :
    s.learn p event = { s with
      status := (s.learn p event).status
      progress := (s.learn p event).progress
      creatorShuffle := (s.learn p event).creatorShuffle
      joinerShuffle := (s.learn p event).joinerShuffle } := by
  -- Apart from a rematch, an event moves the status and records a shuffle, and nothing else.
  cases event with
  | created game creator =>
    rw [learn, advance]
    split <;> rfl
  | joined game joiner =>
    rw [learn]
    split
    · rw [settle_eq_withStatus, advance_eq_withStatus]
    · rfl
  | shuffled game player =>
    rw [learn, settle_eq_withStatus, recordShuffle]
    split <;> rfl
  | ended game winner =>
    rw [learn, advance]
    split <;> rfl
  | rematch game => exact absurd rfl hkind

/-- To ask is to mark the client as asked. -/
theorem takeAction_eq : s.takeAction.1 = { s with
    creatorAsked := s.takeAction.1.creatorAsked
    joinerAsked := s.takeAction.1.joinerAsked } := by
  rw [takeAction]
  split
  · rw [markAsked.eq_def]
    split <;> rfl
  · rfl

theorem takeAction_of_none (h : s.takeAction.2 = none) : s.takeAction.1 = s := by
  rw [takeAction] at *
  split
  · rename_i hask
    rw [if_pos hask] at h
    cases h
  · rfl

theorem takeAction_of_some {action : Action} (h : s.takeAction.2 = some action) :
    action = .shuffle s.game s.role ∧ s.asked s.role = false ∧
      s.takeAction.1 = s.markAsked s.role := by
  rw [takeAction] at *
  split
  · rename_i hask
    rw [if_pos hask] at h
    exact ⟨(Option.some.inj h).symm, (mustAsk_iff.1 hask).2.2.2, rfl⟩
  · rename_i hquiet
    rw [if_neg hquiet] at h
    cases h

/-! ## Which verdict it is -/

theorem filtered?_eq_otherGame_iff :
    s.filtered? e = some .otherGame ↔ e.event.game ≠ s.game := by
  rw [filtered?]
  split
  · simp_all
  · split
    · simp_all
    · split <;> simp_all

theorem filtered?_eq_stale_iff : s.filtered? e = some .stale ↔
    e.event.game = s.game ∧ reaches s.floor e.position = true := by
  rw [filtered?, isStale, ← reaches]
  split
  · simp_all
  · split
    · simp_all
    · split <;> simp_all

theorem filtered?_eq_unknownPlayer_iff : s.filtered? e = some .unknownPlayer ↔
    e.event.game = s.game ∧ isAbove s.floor e.position = true ∧
      e.event.NamesStranger s.players := by
  rw [filtered?, isStale, ← reaches, Position.isAbove_iff_not_reaches,
    ← Players.accept_eq_false_iff]
  split
  · simp_all
  · split
    · simp_all
    · split <;> simp_all

/-- An entry is filtered out, begins an epoch, or is learned from. -/
theorem apply_cases (s : Session) (e : Entry) :
    (∃ why, s.filtered? e = some why ∧ s.apply e = (s, .filtered why)) ∨
    (s.filtered? e = none ∧ e.event.kind = .rematch ∧ (s.apply e).2 = .reset) ∨
    (s.filtered? e = none ∧ e.event.kind ≠ .rematch ∧ s.apply e =
      ((s.learn e.position e.event).takeAction.1,
        if s.looksLike (s.learn e.position e.event).takeAction.1 &&
            (s.learn e.position e.event).takeAction.2.isNone then .unchanged
        else .changed (s.learn e.position e.event).takeAction.2)) := by
  rw [apply]
  cases s.filtered? e with
  | some why => exact .inl ⟨why, rfl, rfl⟩
  | none =>
    -- A rematch is answered by a reset whether or not it
    -- changed anything, since it begins an epoch.
    by_cases hkind : e.event.kind = .rematch
    · exact .inr (.inl ⟨rfl, hkind, by dsimp only; rw [if_pos hkind]⟩)
    · exact .inr (.inr ⟨rfl, hkind, by dsimp only; rw [if_neg hkind]⟩)

/-- An entry that is learned from changes the session or leaves it unchanged. -/
theorem verdict_of_learned (hf : s.filtered? e = none) (hkind : e.event.kind ≠ .rematch) :
    (s.apply e).2 = .unchanged ∨ ∃ action, (s.apply e).2 = .changed action := by
  rcases apply_cases s e with ⟨why, hwhy, -⟩ | ⟨-, hrematch, -⟩ | ⟨-, -, happly⟩
  · rw [hf] at hwhy
    cases hwhy
  · exact absurd hrematch hkind
  · rw [happly]
    dsimp only
    split
    · exact .inl rfl
    · exact .inr ⟨_, rfl⟩

/-- So does the mark at the end of the backlog. -/
theorem verdict_of_caughtUp (s : Session) : (s.receive .caughtUp).2 = .unchanged ∨
    ∃ action, (s.receive .caughtUp).2 = .changed action := by
  rw [receive]
  dsimp only
  split
  · exact .inl rfl
  · exact .inr ⟨_, rfl⟩

theorem receive_eq_filtered_iff {why : Filtered} : (s.receive item).2 = .filtered why ↔
    ∃ e, item = .entry e ∧ s.filtered? e = some why := by
  cases item with
  | entry e =>
    rcases apply_cases s e with ⟨why', hwhy, happly⟩ | ⟨hf, -, hreset⟩ | ⟨hf, hkind, -⟩
    · simp [receive, happly, hwhy]
    · simp [receive, hreset, hf]
    · rcases verdict_of_learned hf hkind with hv | ⟨action, hv⟩ <;> simp [receive, hv, hf]
  | caughtUp => rcases verdict_of_caughtUp s with hv | ⟨action, hv⟩ <;> simp [hv]
  | fault f =>
    rw [receive]
    split <;> simp

/-- Nothing but a fault that does not end the feed is malformed. -/
theorem receive_eq_malformed_iff :
    (s.receive item).2 = .malformed ↔ ∃ f, item = .fault f ∧ f.losesConnection = false := by
  cases item with
  | entry e =>
    rcases apply_cases s e with ⟨why', -, happly⟩ | ⟨-, -, hreset⟩ | ⟨hf, hkind, -⟩
    · simp [receive, happly]
    · simp [receive, hreset]
    · rcases verdict_of_learned hf hkind with hv | ⟨action, hv⟩ <;> simp [receive, hv]
  | caughtUp => rcases verdict_of_caughtUp s with hv | ⟨action, hv⟩ <;> simp [hv]
  | fault f =>
    rw [receive]
    split <;> simp_all

/-! ## What the verdict on an entry tells -/

/-- A shuffle of a player who has shuffled takes the place of an earlier one. -/
theorem rises_learn (hc : s.facts.IsCoherent) {event : Event} (hkind : event.kind ≠ .rematch)
    (hprogress : (s.learn p event).progress = s.progress) :
    Rises s.creatorShuffle (s.learn p event).creatorShuffle ∧
    Rises s.joinerShuffle (s.learn p event).joinerShuffle ∧
    ((s.learn p event).creatorShuffle = s.creatorShuffle ∨
      (s.learn p event).joinerShuffle = s.joinerShuffle) := by
  have hfacts := facts_learn (s := s) (p := p) event
  -- Whatever leaves the facts as they are leaves the records as they are.
  have hsame : (s.learn p event).facts = s.facts →
      Rises s.creatorShuffle (s.learn p event).creatorShuffle ∧
      Rises s.joinerShuffle (s.learn p event).joinerShuffle ∧
      ((s.learn p event).creatorShuffle = s.creatorShuffle ∨
        (s.learn p event).joinerShuffle = s.joinerShuffle) := fun h =>
    ⟨.inl (congrArg Facts.creatorShuffle h), .inl (congrArg Facts.joinerShuffle h),
      .inl (congrArg Facts.creatorShuffle h)⟩
  cases event with
  | shuffled game player =>
    have hcreator : s.progress.creator = s.creatorShuffle.isSome := hc.creator_flag
    have hjoiner : s.progress.joiner = s.joinerShuffle.isSome := hc.joiner_flag
    rw [show (s.learn p (.shuffled game player)).creatorShuffle =
        (s.recordShuffle player p).creatorShuffle from congrArg Facts.creatorShuffle hfacts,
      show (s.learn p (.shuffled game player)).joinerShuffle =
        (s.recordShuffle player p).joinerShuffle from congrArg Facts.joinerShuffle hfacts]
    rw [show (s.learn p (.shuffled game player)).progress =
        (s.recordShuffle player p).progress from congrArg Facts.progress hfacts] at hprogress
    rw [recordShuffle] at hprogress ⊢
    split at hprogress
    · rename_i hplayer
      rw [if_pos hplayer]
      have hflag : true = s.progress.creator := congrArg Progress.creator hprogress
      exact ⟨rises_elim_max (hcreator.symm.trans hflag.symm), rises_refl, .inr rfl⟩
    · rename_i hplayer
      rw [if_neg hplayer]
      have hflag : true = s.progress.joiner := congrArg Progress.joiner hprogress
      exact ⟨rises_refl, rises_elim_max (hjoiner.symm.trans hflag.symm), .inl rfl⟩
  | rematch game => exact absurd rfl hkind
  | _ => exact hsame hfacts

/-- If nothing new was learned, at most a recorded shuffle is a later one. -/
theorem staysAs_apply (hc : s.facts.IsCoherent) (h : (s.apply e).2 = .unchanged) :
    s.StaysAs (s.apply e).1 := by
  rcases apply_cases s e with ⟨why, -, happly⟩ | ⟨-, -, hreset⟩ | ⟨-, hkind, happly⟩
  · rw [happly] at h
    cases h
  · rw [hreset] at h
    cases h
  · rw [happly] at h ⊢
    dsimp only at h ⊢
    split at h
    · rename_i hsame
      rw [Bool.and_eq_true, Option.isNone_iff_eq_none] at hsame
      rw [takeAction_of_none hsame.2] at hsame ⊢
      obtain ⟨hlooks, -⟩ := hsame
      rw [looksLike, Bool.and_eq_true, beq_iff_eq, beq_iff_eq] at hlooks
      obtain ⟨hstatus, hprogress⟩ := hlooks
      -- The status and the flags are as they were. The
      -- position of a shuffle may still have risen.
      obtain ⟨hcreator, hjoiner, hone⟩ := rises_learn hc hkind hprogress.symm
      have heq := learn_eq (s := s) (p := e.position) hkind
      rw [← hstatus, ← hprogress] at heq
      exact ⟨heq, hcreator, hjoiner, hone⟩
    · cases h

/-- What an entry changes within an epoch, the requests included. -/
theorem apply_eq (hkind : e.event.kind ≠ .rematch) : (s.apply e).1 = { s with
    status := (s.apply e).1.status
    progress := (s.apply e).1.progress
    creatorShuffle := (s.apply e).1.creatorShuffle
    joinerShuffle := (s.apply e).1.joinerShuffle
    creatorAsked := (s.apply e).1.creatorAsked
    joinerAsked := (s.apply e).1.joinerAsked } := by
  rcases apply_cases s e with ⟨why, -, happly⟩ | ⟨-, hrematch, -⟩ | ⟨-, -, happly⟩
  · rw [happly]
  · exact absurd hrematch hkind
  · rw [happly]
    dsimp only
    have hlearn := learn_eq (s := s) (p := e.position) hkind
    have htake := takeAction_eq (s := s.learn e.position e.event)
    have hfacts := facts_takeAction (s := s.learn e.position e.event)
    rw [status_takeAction,
      show (s.learn e.position e.event).takeAction.1.progress =
        (s.learn e.position e.event).progress from congrArg Facts.progress hfacts,
      show (s.learn e.position e.event).takeAction.1.creatorShuffle =
        (s.learn e.position e.event).creatorShuffle from congrArg Facts.creatorShuffle hfacts,
      show (s.learn e.position e.event).takeAction.1.joinerShuffle =
        (s.learn e.position e.event).joinerShuffle from congrArg Facts.joinerShuffle hfacts]
    -- Only the requests are marked after learning.
    have hmarked := congrArg (fun t : Session => { t with
      creatorAsked := (s.learn e.position e.event).takeAction.1.creatorAsked
      joinerAsked := (s.learn e.position e.event).takeAction.1.joinerAsked }) hlearn
    exact htake.trans hmarked

/-- A change within an epoch moves the status or the flags forward, or asks the client. -/
theorem movesTo_apply {action : Option Action} (h : (s.apply e).2 = .changed action) :
    s.MovesTo (s.apply e).1 action := by
  have hreset : (s.apply e).2 ≠ .reset := fun h' => by simp [h] at h'
  rcases apply_cases s e with ⟨why, -, happly⟩ | ⟨-, -, hreset'⟩ | ⟨-, hkind, happly⟩
  · simp [happly] at h
  · exact absurd hreset' hreset
  · have heq := apply_eq (s := s) (e := e) hkind
    have hgame : (s.apply e).1.game = s.game := by rw [heq]
    have hepoch : (s.apply e).1.epoch = s.epoch := by rw [heq]
    have hle := le_status_apply hreset
    have hprecedes := precedes_apply (s := s) e
    have hanswers := answers_apply (s := s) e
    rw [h, Verdict.action?] at hanswers
    refine ⟨heq, hle, hprecedes.creator_flag hepoch, hprecedes.joiner_flag hepoch, fun r => ?_, ?_⟩
    · rw [hanswers.asked_iff, hgame, hepoch]
      simp
    · -- Were nothing to have moved, the verdict would be that the session is unchanged.
      by_contra hstill
      push Not at hstill
      obtain ⟨hstatus, hprogress, hquiet⟩ := hstill
      have hsame : s.status = (s.apply e).1.status := hle.eq_of_not_lt hstatus.not_gt
      rw [happly] at h hsame hprogress
      dsimp only at h hsame hprogress
      split at h
      · cases h
      · rename_i hdiffer
        rw [Verdict.changed.injEq] at h
        rw [h, Option.not_isSome_iff_eq_none.1 hquiet, looksLike, ← hsame, ← hprogress] at hdiffer
        simp at hdiffer

/-- The mark at the end of the backlog only ends the holding back of requests, and the client
    may be asked then. -/
theorem receive_caughtUp (s : Session) :
    s.receive .caughtUp = ({ s with holding := false }, .unchanged) ∨
    s.receive .caughtUp = ({ s with holding := false }.markAsked s.role,
      .changed (some (.shuffle s.game s.role))) ∧ s.asked s.role = false := by
  rw [receive, catchUp]
  -- Ending the backlog may release a request that was held back.
  rcases ha : ({ s with holding := false } : Session).takeAction.2 with _ | action
  · refine .inl (Prod.ext (takeAction_of_none ha) ?_)
    simp [ha]
  · obtain ⟨rfl, hasked, htake⟩ := takeAction_of_some ha
    have hasked' : s.asked s.role = false := by
      rw [← hasked]
      cases s.role <;> rfl
    refine .inr ⟨Prod.ext htake ?_, hasked'⟩
    simp [ha]

/-- Whatever was done to a session, the verdict on the next item tells exactly what has become
    of it. -/
theorem tells_receive (hs : Reachable s) (item : Item) :
    s.Tells item (s.receive item).1 (s.receive item).2 where
  otherGame_iff := by
    simp only [receive_eq_filtered_iff, filtered?_eq_otherGame_iff]
  stale_iff := by
    simp only [receive_eq_filtered_iff, filtered?_eq_stale_iff]
  unknownPlayer_iff := by
    simp only [receive_eq_filtered_iff, filtered?_eq_unknownPlayer_iff]
  reset_iff := by
    simp only [receive_eq_reset_iff, takesRematch_iff]
  malformed_iff := receive_eq_malformed_iff
  disconnected_iff := receive_eq_disconnected_iff
  of_filtered why h := by
    obtain ⟨e, rfl, hf⟩ := receive_eq_filtered_iff.1 h
    rw [receive, apply_of_filtered hf]
  of_malformed h := by
    obtain ⟨f, rfl, hstays⟩ := receive_eq_malformed_iff.1 h
    simp [receive, hstays]
  of_disconnected h := by
    obtain ⟨f, rfl, hloses⟩ := receive_eq_disconnected_iff.1 h
    simp [receive, hloses, loseLink]
  of_unchanged e hitem h := by
    subst hitem
    exact staysAs_apply hs.isCoherent h
  of_changed e action hitem h := by
    subst hitem
    exact movesTo_apply h
  -- The mark always ends the time of holding back. It is
  -- an action that tells the two verdicts apart.
  of_caughtUp hitem := by
    subst hitem
    rcases receive_caughtUp s with h | ⟨h, hasked⟩
    · exact .inl ⟨congrArg Prod.snd h, congrArg Prod.fst h⟩
    · exact .inr ⟨congrArg Prod.snd h, hasked, congrArg Prod.fst h⟩

/-- The joiner shuffles twice after a rematch, and the second verdict is that nothing was
    learned. Only the recorded position has risen. -/
theorem tells_receive_repeated :
    ∃ s : Session, Reachable s ∧ ∃ item : Item,
      s.Tells item (s.receive item).1 (s.receive item).2 ∧
      (s.receive item).2 = .unchanged ∧ s.joinerShuffle = some ⟨5, 1⟩ ∧
      (s.receive item).1 = { s with joinerShuffle := some ⟨6, 0⟩ } := by
  have hs : create ⟨7⟩ ⟨.fill 0xc1, .fill 0x01⟩ (some (.fill 0xc1)) =
      .ok (fresh ⟨7⟩ ⟨.fill 0xc1, .fill 0x01⟩ .creator) := rfl
  let ops : List Operation := [.apply ⟨⟨4, 0⟩, .rematch ⟨7⟩⟩, .seed .shuffling,
    .apply ⟨⟨5, 1⟩, .shuffled ⟨7⟩ (.fill 0x01)⟩]
  have hreachable := (Reachable.create hs).run ops
  exact ⟨_, hreachable, .entry ⟨⟨6, 0⟩, .shuffled ⟨7⟩ (.fill 0x01)⟩,
    tells_receive hreachable _, by decide +kernel, by decide +kernel, by decide +kernel⟩

end Session

end ShuffleWatch
