import Mathlib.Order.Bounds.Basic
import ShuffleWatch.Proofs.Session.Convergence
import ShuffleWatch.Proofs.Session.Integrity

/-!
# The standing of a game after many entries

Where a session stands after it took in entries of the log, among which there is no
rematch above its floor. The status is then the greatest of the one before, those to which
the events move the game, and `inProgress` once both players have shuffled
(`isGreatest_status_run`). So the order of the entries is of no account, nor how often each
of them comes, and the status has never moved backwards (`le_status_apply`).

It all rests on `Proceeds`: a session proceeds from its own status, since both shuffles
are reflected in that already (`Reachable.proceeds`), and the entries do not change what is
filtered out (`filtered?_apply`).
-/

namespace ShuffleWatch.Session

open Position (isAbove latestAbove)

/-- The event is logged among the entries, above the floor. -/
def Hears (s : Session) (es : List Entry) (event : Event) : Prop :=
  ∃ p, ⟨p, event⟩ ∈ es ∧ isAbove s.floor p = true

/-- The statuses that the session may have once it has taken in the entries, and knows
    that these players have shuffled. -/
def contenders (s : Session) (es : List Entry) (progress : Progress) : Set Status :=
  {σ | σ = s.status ∨
    σ = .inProgress ∧ progress = ⟨true, true⟩ ∨
    σ = .waitingForJoin ∧ s.Hears es (.created s.game s.players.creator) ∨
    σ = .shuffling ∧ s.Hears es (.joined s.game s.players.joiner) ∨
    σ = .finished ∧ ∃ winner, s.Hears es (.ended s.game winner)}

variable {s t : Session} {σ status : Status} {S : Set Entry} {e : Entry} {es es' : List Entry}
  {p : Position}

/-! ## Never backwards -/

theorem le_status_advance (target : Status) : s.status ≤ (s.advance target).status := by
  rw [advance]
  split
  · rename_i hadvances
    rw [advancesTo, Bool.and_eq_true, decide_eq_true_eq] at hadvances
    exact hadvances.2.le
  · exact le_rfl

theorem le_status_settle : s.status ≤ s.settle.status := by
  rw [settle]
  split
  · exact le_status_advance _
  · exact le_rfl

theorem le_status_learn {event : Event} (hkind : event.kind ≠ .rematch) :
    s.status ≤ (s.learn p event).status := by
  cases event with
  | created game creator => exact le_status_advance _
  | joined game joiner =>
    rw [learn]
    split
    · exact (le_status_advance _).trans le_status_settle
    · exact le_rfl
  | shuffled game player => exact status_recordShuffle.ge.trans le_status_settle
  | ended game winner => exact le_status_advance _
  | rematch game => exact absurd rfl hkind

/-- The status never moves backwards, until an epoch begins. -/
theorem le_status_apply (hreset : (s.apply e).2 ≠ .reset) : s.status ≤ (s.apply e).1.status := by
  rcases hf : s.filtered? e with _ | why
  · rw [apply, hf] at hreset ⊢
    dsimp only at hreset ⊢
    split
    · rename_i hkind
      rw [if_pos hkind] at hreset
      exact absurd rfl hreset
    · rename_i hkind
      exact (le_status_learn hkind).trans status_takeAction.ge
  · rw [apply_of_filtered hf]

/-! ## Entries without a rematch -/

theorem takesRematch_iff :
    s.takesRematch e = true ↔ e.event = .rematch s.game ∧ isAbove s.floor e.position = true := by
  obtain ⟨p, event⟩ := e
  rw [takesRematch, Bool.and_eq_true, Option.isNone_iff_eq_none, decide_eq_true_eq,
    filtered?_eq_none_iff]
  cases event with
  | rematch game => simp [Event.kind, Event.game, Players.accept]
  | _ => simp [Event.kind]

theorem floor_apply_of_ne_reset (hreset : (s.apply e).2 ≠ .reset) :
    (s.apply e).1.floor = s.floor := by
  rcases hf : s.filtered? e with _ | why
  · have hfloor : (s.apply e).1.facts.floor = (s.learn e.position e.event).facts.floor :=
      congrArg Facts.floor (facts_apply hf)
    rw [facts_learn] at hfloor
    obtain ⟨p, event⟩ := e
    cases event with
    | shuffled game player => exact hfloor.trans floor_recordShuffle
    -- A rematch that is not filtered would be answered by a reset.
    | rematch game =>
      refine absurd (apply_eq_reset_iff.2 ?_) hreset
      rw [takesRematch, hf]
      rfl
    | _ => exact hfloor
  · rw [apply_of_filtered hf]

/-- An entry that begins no epoch leaves it as it is which entries are filtered out. -/
theorem filtered?_apply (hreset : (s.apply e).2 ≠ .reset) :
    (s.apply e).1.filtered? = s.filtered? :=
  filtered?_congr game_apply players_apply (floor_apply_of_ne_reset hreset)

/-- No entry among these is a rematch that the session would take in. -/
def HasNoRematch (s : Session) (es : List Entry) : Prop := ∀ e ∈ es, s.takesRematch e = false

theorem hasNoRematch_iff :
    s.HasNoRematch es ↔ ∀ p, ⟨p, .rematch s.game⟩ ∈ es → isAbove s.floor p = false := by
  refine ⟨fun h p hp => ?_, fun h e he => ?_⟩
  · have hnone := h _ hp
    rw [← Bool.not_eq_true, takesRematch_iff] at hnone
    exact Bool.eq_false_iff.2 fun habove => hnone ⟨rfl, habove⟩
  · rw [← Bool.not_eq_true, takesRematch_iff]
    rintro ⟨hevent, habove⟩
    obtain ⟨p, event⟩ := e
    cases hevent
    exact absurd habove (Bool.eq_false_iff.1 (h p he))

theorem HasNoRematch.head (h : s.HasNoRematch (e :: es)) : (s.apply e).2 ≠ .reset := by
  rw [ne_eq, apply_eq_reset_iff, h e List.mem_cons_self]
  exact Bool.false_ne_true

theorem HasNoRematch.tail (h : s.HasNoRematch (e :: es)) : (s.apply e).1.HasNoRematch es := by
  intro e' he'
  rw [takesRematch, filtered?_apply h.head]
  exact h e' (List.mem_cons_of_mem e he')

/-! ## Taking in the entries -/

theorem entries_map_apply (es : List Entry) : entries (es.map .apply) = es := by
  induction es with
  | nil => rfl
  | cons e es ih => exact congrArg (e :: ·) ih

theorem startsOver_of_mem_map_apply (es : List Entry) :
    ∀ op ∈ es.map Operation.apply, op.startsOver = false := by
  intro op hop
  obtain ⟨e, -, rfl⟩ := List.mem_map.1 hop
  rfl

/-- After the entries, the session filters out the same as before. -/
theorem filtered?_run (h : s.HasNoRematch es) :
    (s.run (es.map .apply)).1.filtered? = s.filtered? := by
  induction es generalizing s with
  | nil => rfl
  | cons e es ih => exact (ih h.tail).trans (filtered?_apply h.head)

/-- The status never moves backwards as the entries come one after the other. -/
theorem le_status_run (h : s.HasNoRematch (es ++ es')) :
    (s.run (es.map .apply)).1.status ≤ (s.run ((es ++ es').map .apply)).1.status := by
  induction es generalizing s with
  | nil =>
    induction es' generalizing s with
    | nil => exact le_rfl
    | cons e es' ih => exact (le_status_apply h.head).trans (ih h.tail)
  | cons e es ih => exact ih h.tail

/-- Without a status, none comes of the entries. -/
theorem status_run_of_unknown (hs : s.status = .uninitialized) (h : s.HasNoRematch es) :
    (s.run (es.map .apply)).1.status = .uninitialized := by
  induction es generalizing s with
  | nil => exact hs
  | cons e es ih =>
    have hstays := status_apply_of_not_advancesTo (not_advancesTo_of_unknown hs) h.head
    exact ih (hstays.trans hs) h.tail

/-- The entries are all part of the course of the status. -/
theorem Proceeds.run (hs : s.Proceeds σ S) (hσ : σ.isKnown = true) (h : s.HasNoRematch es) :
    (s.run (es.map .apply)).1.Proceeds σ (S ∪ {e | e ∈ es}) := by
  induction es generalizing s S with
  | nil =>
    have hS : S ∪ {e | e ∈ ([] : List Entry)} = S := by
      ext e
      simp
    exact hS.symm ▸ hs
  | cons e es ih =>
    have hS : S ∪ {e' | e' ∈ e :: es} = Insert.insert e S ∪ {e' | e' ∈ es} := by
      ext e'
      simp [or_left_comm, or_assoc]
    exact hS.symm ▸ ih (hs.apply hσ h.head) h.tail

/-- Every session proceeds from its own status. -/
theorem Reachable.proceeds (hs : Reachable s) (hknown : s.status.isKnown = true) :
    s.Proceeds s.status ∅ where
  adopted_le := le_rfl
  inProgress_le := hs.inProgress_le hknown
  target_le _ he := absurd he (Set.notMem_empty _)
  status_eq := .inl rfl

/-! ## Which status it is -/

/-- The entries that move the session forward are those of its own players, or of the end
    of the game. -/
theorem target?_eq_some_iff : s.target? e = some status ↔ isAbove s.floor e.position = true ∧
    (status = .waitingForJoin ∧ e.event = .created s.game s.players.creator ∨
      status = .shuffling ∧ e.event = .joined s.game s.players.joiner ∨
      status = .finished ∧ ∃ winner, e.event = .ended s.game winner) := by
  have htarget : s.target? e = some status ↔
      s.filtered? e = none ∧ e.event.target? = some status := by
    refine ⟨target?_eq_some, fun ⟨hf, h⟩ => ?_⟩
    rw [target?, hf]
    exact h
  rw [htarget, filtered?_eq_none_iff]
  cases e.event <;> simp [Event.game, Event.target?, Players.accept] <;> grind

/-- The contenders are the status before, `inProgress` once both players have shuffled,
    and those to which an entry moves the session. -/
theorem mem_contenders_iff {progress : Progress} : σ ∈ s.contenders es progress ↔
    σ = s.status ∨ σ = .inProgress ∧ progress = ⟨true, true⟩ ∨
      ∃ e ∈ es, s.target? e = some σ := by
  -- The entries that move the status are of three kinds.
  have hmoves : (∃ e ∈ es, s.target? e = some σ) ↔
      σ = .waitingForJoin ∧ s.Hears es (.created s.game s.players.creator) ∨
      σ = .shuffling ∧ s.Hears es (.joined s.game s.players.joiner) ∨
      σ = .finished ∧ ∃ winner, s.Hears es (.ended s.game winner) := by
    simp only [target?_eq_some_iff]
    constructor
    · rintro ⟨⟨p, event⟩, he, habove, ⟨rfl, rfl⟩ | ⟨rfl, rfl⟩ | ⟨rfl, winner, rfl⟩⟩
      · exact .inl ⟨rfl, p, he, habove⟩
      · exact .inr (.inl ⟨rfl, p, he, habove⟩)
      · exact .inr (.inr ⟨rfl, winner, p, he, habove⟩)
    · rintro (⟨rfl, p, he, habove⟩ | ⟨rfl, p, he, habove⟩ | ⟨rfl, winner, p, he, habove⟩)
      · exact ⟨_, he, habove, .inl ⟨rfl, rfl⟩⟩
      · exact ⟨_, he, habove, .inr (.inl ⟨rfl, rfl⟩)⟩
      · exact ⟨_, he, habove, .inr (.inr ⟨rfl, winner, rfl⟩)⟩
  rw [hmoves]
  exact Iff.rfl

theorem isComplete_iff {progress : Progress} :
    progress.isComplete = true ↔ progress = ⟨true, true⟩ := by
  obtain ⟨creator, joiner⟩ := progress
  simp [Progress.isComplete]

/-- A session that proceeded from `s` through the entries has the greatest status that it
    may have. -/
theorem Proceeds.isGreatest (h : t.Proceeds s.status {e | e ∈ es})
    (htarget : t.target? = s.target?) :
    IsGreatest (s.contenders es t.progress) t.status := by
  constructor
  · rw [mem_contenders_iff, ← isComplete_iff, ← htarget, and_comm]
    exact h.status_eq
  · intro σ hσ
    rw [mem_contenders_iff, ← isComplete_iff, ← htarget] at hσ
    rcases hσ with rfl | ⟨rfl, hcomplete⟩ | ⟨e, he, hmoves⟩
    · exact h.adopted_le
    · exact h.inProgress_le hcomplete
    · exact h.target_le e he σ hmoves

theorem Reachable.isGreatest_status (hs : Reachable s) (hknown : s.status.isKnown = true)
    (h : s.HasNoRematch es) :
    IsGreatest (s.contenders es (s.run (es.map .apply)).1.progress)
      (s.run (es.map .apply)).1.status := by
  have hproceeds := (hs.proceeds hknown).run hknown h
  rw [Set.empty_union] at hproceeds
  exact hproceeds.isGreatest (target?_congr (filtered?_run h))

/-! ## The order is of no account -/

/-- Who has shuffled in the end depends on the set of the entries alone. -/
theorem Reachable.progress_run_congr (hs : Reachable s) (hset : ∀ e, e ∈ es' ↔ e ∈ es) :
    (s.run (es'.map .apply)).1.progress = (s.run (es.map .apply)).1.progress := by
  -- What is known after a run depends on positions through
  -- their maximum, thus on the set of entries alone.
  have hpos : ∀ (event : Event) (o : Option Position) (p : Position),
      p ∈ o.toList ++ event.positionsIn es' ↔ p ∈ o.toList ++ event.positionsIn es := by
    intro event o p
    rw [List.mem_append, List.mem_append, Event.mem_positionsIn, Event.mem_positionsIn, hset]
  have hops := startsOver_of_mem_map_apply es
  have hops' := startsOver_of_mem_map_apply es'
  have hfloor : (s.run (es'.map .apply)).1.floor = (s.run (es.map .apply)).1.floor := by
    rw [floor_run hs hops, floor_run hs hops', entries_map_apply, entries_map_apply]
    exact Position.latest_congr (hpos _ _)
  rw [(hs.run _).progress_eq, (hs.run _).progress_eq, creatorShuffle_run hs hops,
    creatorShuffle_run hs hops', joinerShuffle_run hs hops, joinerShuffle_run hs hops',
    entries_map_apply, entries_map_apply, hfloor, Position.latestAbove_congr (hpos _ _),
    Position.latestAbove_congr (hpos _ _)]

/-- The same entries in another order, and any number of times each, lead to the same
    status. -/
theorem Reachable.status_run_congr (hs : Reachable s) (h : s.HasNoRematch es)
    (hset : ∀ e, e ∈ es' ↔ e ∈ es) :
    (s.run (es'.map .apply)).1.status = (s.run (es.map .apply)).1.status := by
  have h' : s.HasNoRematch es' := fun e he => h e ((hset e).1 he)
  cases hknown : s.status.isKnown with
  | false =>
    have hunknown : s.status = .uninitialized := by simpa [Status.isKnown] using hknown
    rw [status_run_of_unknown hunknown h, status_run_of_unknown hunknown h']
  | true =>
    -- The contenders are a matter of the set of entries, and a set has one greatest element.
    have hcontenders : ∀ progress, s.contenders es' progress = s.contenders es progress := by
      intro progress
      simp only [contenders, Hears, hset]
    have hgreatest := hs.isGreatest_status hknown h'
    rw [hs.progress_run_congr hset, hcontenders] at hgreatest
    exact hgreatest.unique (hs.isGreatest_status hknown h)

/-! ## Where the session stands -/

/-- A session takes in entries of the log, in any order and any number of times each, among
    which there is no rematch of its game above its floor. If it knows a status, it ends up
    with the greatest of that status and of those which its entries above the floor move it
    to, or with `inProgress` once both players have shuffled. Without a status it stays so.
    The status never moves backwards on the way, and the same entries in any other order lead
    to the same status. -/
theorem isGreatest_status_run (hs : Reachable s)
    (hes : ∀ p, ⟨p, .rematch s.game⟩ ∈ es → isAbove s.floor p = false) :
    (s.status.isKnown = true →
      IsGreatest (s.contenders es (s.run (es.map .apply)).1.progress)
        (s.run (es.map .apply)).1.status) ∧
    (s.status = .uninitialized → (s.run (es.map .apply)).1.status = .uninitialized) ∧
    (∀ es₁ es₂, es = es₁ ++ es₂ →
      (s.run (es₁.map .apply)).1.status ≤ (s.run (es.map .apply)).1.status) ∧
    ∀ es' : List Entry, (∀ e, e ∈ es' ↔ e ∈ es) →
      (s.run (es'.map .apply)).1.status = (s.run (es.map .apply)).1.status := by
  have h : s.HasNoRematch es := hasNoRematch_iff.2 hes
  refine ⟨fun hknown => hs.isGreatest_status hknown h, fun hunknown => ?_, ?_, fun es' hset => ?_⟩
  · exact status_run_of_unknown hunknown h
  · rintro es₁ es₂ rfl
    exact le_status_run h
  · exact hs.status_run_congr h hset

/-- In the epoch of a rematch, an end of the game that is past, a stranger who creates it
    and a rematch of another game are of no account. The shuffles come before the joiner has
    joined, and put the game in progress. -/
theorem isGreatest_status_run_overtaken :
    ∃ s : Session, ∃ es : List Entry, Reachable s ∧ s.status = .waitingForStart ∧
      IsGreatest (s.contenders es ⟨true, true⟩) .inProgress ∧
      (s.run (es.map .apply)).1.status = .inProgress ∧
      (s.run (es.reverse.map .apply)).1.status = .inProgress := by
  have hs : create ⟨7⟩ ⟨.fill 0xc1, .fill 0x01⟩ (some (.fill 0x01)) =
      .ok (fresh ⟨7⟩ ⟨.fill 0xc1, .fill 0x01⟩ .joiner) := rfl
  let s : Session := ((fresh ⟨7⟩ ⟨.fill 0xc1, .fill 0x01⟩ .joiner).run
    [.apply ⟨⟨4, 0⟩, .rematch ⟨7⟩⟩, .seed .waitingForStart]).1
  let es : List Entry := [⟨⟨5, 2⟩, .shuffled ⟨7⟩ (.fill 0x01)⟩, ⟨⟨3, 0⟩, .ended ⟨7⟩ none⟩,
    ⟨⟨5, 0⟩, .created ⟨7⟩ (.fill 0x02)⟩, ⟨⟨2, 0⟩, .rematch ⟨7⟩⟩,
    ⟨⟨5, 2⟩, .shuffled ⟨7⟩ (.fill 0xc1)⟩, ⟨⟨6, 0⟩, .rematch ⟨8⟩⟩,
    ⟨⟨5, 1⟩, .joined ⟨7⟩ (.fill 0x01)⟩]
  have hreachable : Reachable s := (Reachable.create hs).run _
  have hes : ∀ e ∈ es, s.takesRematch e = false := by decide +kernel
  obtain ⟨hgreatest, -, -, hset⟩ := isGreatest_status_run hreachable (hasNoRematch_iff.1 hes)
  have hstatus : (s.run (es.map .apply)).1.status = .inProgress := by decide +kernel
  have hprogress : (s.run (es.map .apply)).1.progress = ⟨true, true⟩ := by decide +kernel
  have hgreatest' := hgreatest (by decide +kernel)
  rw [hstatus, hprogress] at hgreatest'
  exact ⟨s, es, hreachable, by decide +kernel, hgreatest', hstatus,
    (hset es.reverse fun e => List.mem_reverse).trans hstatus⟩

end ShuffleWatch.Session
