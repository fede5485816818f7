import Mathlib.Data.Set.Insert
import ShuffleWatch.Proofs.Session.Facts

/-!
# Accounting for entries

When do the facts of a session agree with a set of entries of the log, however
the session came to know them? When nothing in the facts is made up, and no
entry is neglected:

* the facts are *drawn from* the entries (`Facts.IsDrawnFrom`): the floor and
  the recorded shuffles are entries;
* they *reflect* an entry (`Facts.Reflects`): it is at or below the floor, or a
  shuffle that is recorded, or a later one of the same player is.

Taking in an entry keeps both (`IsDrawnFrom.apply`, `Reflects.apply`) and makes
that entry reflected (`reflects_apply`), in whatever order the entries come.
Facts that are drawn from the entries and reflect them all have a closed form
(`Facts.floor_eq_latest`, `Facts.shuffleBy_eq_latestAbove`), in which only the
set of the entries occurs.
-/

namespace ShuffleWatch

open Position (reaches isAbove latest latestAbove)

/-- Where the event is logged among the entries. -/
def Event.positionsIn (event : Event) (es : List Entry) : List Position :=
  es.filterMap fun e => if e.event = event then some e.position else none

theorem Event.mem_positionsIn {event : Event} {es : List Entry} {p : Position} :
    p ∈ event.positionsIn es ↔ ⟨p, event⟩ ∈ es := by
  rw [positionsIn, List.mem_filterMap]
  constructor
  · rintro ⟨e, he, hp⟩
    split at hp
    · rename_i hevent
      cases hp
      rw [← hevent]
      exact he
    · cases hp
  · intro he
    exact ⟨_, he, if_pos rfl⟩

theorem Event.isSome_latestAbove_positionsIn {event : Event} {es : List Entry}
    {floor : Option Position} :
    (latestAbove floor (event.positionsIn es)).isSome = true ↔
      ∃ p, ⟨p, event⟩ ∈ es ∧ isAbove floor p = true := by
  rw [Position.isSome_latestAbove]
  simp only [Event.mem_positionsIn]

namespace Session

namespace Facts

/-- The floor and the recorded shuffles are among the entries. -/
structure IsDrawnFrom (f : Facts) (S : Set Entry) : Prop where
  floor_mem : ∀ p, f.floor = some p → ⟨p, .rematch f.game⟩ ∈ S
  shuffle_mem : ∀ a p, f.shuffleBy a = some p → ⟨p, .shuffled f.game a⟩ ∈ S

/-- The entry is recorded, or has no part in the facts. -/
def Records (f : Facts) (e : Entry) : Prop :=
  match e.event with
  | .shuffled _ a => f.players.contains a = true → reaches (f.shuffleBy a) e.position = true
  | .rematch _ => False
  | _ => True

/-- The entry is past or recorded, if it is one of the game. -/
def Reflects (f : Facts) (e : Entry) : Prop :=
  e.event.game = f.game → reaches f.floor e.position = true ∨ f.Records e

/-- The facts are drawn from the entries, and reflect all of them. -/
structure AccountsFor (f : Facts) (S : Set Entry) : Prop where
  drawn : f.IsDrawnFrom S
  reflects : ∀ e ∈ S, f.Reflects e

/-- The entries that the facts themselves tell of. -/
def remembered (f : Facts) : Set Entry :=
  {e | f.floor = some e.position ∧ e.event = .rematch f.game ∨
    ∃ a, f.shuffleBy a = some e.position ∧ e.event = .shuffled f.game a}

variable {f : Facts} {S T : Set Entry} {e : Entry} {a : Address} {p : Position}

theorem IsDrawnFrom.mono (h : f.IsDrawnFrom S) (hST : S ⊆ T) : f.IsDrawnFrom T where
  floor_mem p hp := hST (h.floor_mem p hp)
  shuffle_mem a p hp := hST (h.shuffle_mem a p hp)

/-- Forgetting shuffles makes nothing up, whoever the players are from then on. -/
theorem IsDrawnFrom.withoutShuffles (h : f.IsDrawnFrom S) (players : Players) :
    ({ f with players := players }.withoutShuffles).IsDrawnFrom S where
  floor_mem := h.floor_mem
  shuffle_mem a p hp := by
    rw [shuffleBy_withoutShuffles] at hp
    cases hp

theorem mem_remembered_rematch : ⟨p, .rematch f.game⟩ ∈ f.remembered ↔ f.floor = some p := by
  simp [remembered]

theorem mem_remembered_shuffled :
    ⟨p, .shuffled f.game a⟩ ∈ f.remembered ↔ f.shuffleBy a = some p := by
  simp [remembered]

/-- Facts account for what they tell of. -/
theorem accountsFor_remembered : f.AccountsFor f.remembered where
  drawn :=
    { floor_mem := fun _ hp => mem_remembered_rematch.2 hp
      shuffle_mem := fun _ _ hp => mem_remembered_shuffled.2 hp }
  reflects := by
    rintro ⟨p, event⟩ (⟨hfloor, -⟩ | ⟨a, ha, rfl⟩) -
    · exact .inl (Position.reaches_iff.2 ⟨p, hfloor, le_rfl⟩)
    · exact .inr fun _ => Position.reaches_iff.2 ⟨p, ha, le_rfl⟩

/-- What is recorded stays so where the recorded shuffles only get later. -/
theorem Records.imp {f' : Facts} (h : f.Records e) (hplayers : f'.players = f.players)
    (hreach : ∀ a, reaches (f.shuffleBy a) e.position = true →
      reaches (f'.shuffleBy a) e.position = true) : f'.Records e := by
  obtain ⟨p, event⟩ := e
  cases event with
  | shuffled g a =>
    intro ha
    rw [hplayers] at ha
    exact hreach a (h ha)
  | rematch g => exact h
  | _ => trivial

/-! ## The closed form -/

/-- The floor is the latest rematch. -/
theorem floor_eq_latest {ps : List Position} (h : f.AccountsFor S)
    (hps : ∀ p, p ∈ ps ↔ ⟨p, .rematch f.game⟩ ∈ S) : f.floor = latest ps := by
  refine Position.eq_latest_iff.2 ⟨fun p hp => (hps p).2 (h.drawn.floor_mem p hp), ?_⟩
  intro p hp
  exact (h.reflects _ ((hps p).1 hp) rfl).resolve_right id

/-- What is recorded of a player is the latest shuffle above the floor. -/
theorem shuffleBy_eq_latestAbove {ps : List Position} (hc : f.IsCoherent) (h : f.AccountsFor S)
    (ha : f.players.contains a = true) (hps : ∀ p, p ∈ ps ↔ ⟨p, .shuffled f.game a⟩ ∈ S) :
    f.shuffleBy a = latestAbove f.floor ps := by
  refine Position.eq_latestAbove_iff.2 ⟨fun p hp => ?_, fun p hp => ?_⟩
  · exact ⟨(hps p).2 (h.drawn.shuffle_mem a p hp), hc.isAbove_floor a p hp⟩
  · exact (h.reflects _ ((hps p).1 hp) rfl).imp id fun hrec => hrec ha

end Facts

variable {s : Session} {S : Set Entry} {e e' : Entry}

/-! ## Taking in an entry -/

/-- Nothing is made up when an entry is taken in. -/
theorem Facts.IsDrawnFrom.apply (hc : s.facts.IsCoherent) (h : s.facts.IsDrawnFrom S) (he : e ∈ S) :
    (s.apply e).1.facts.IsDrawnFrom S := by
  cases hf : s.filtered? e with
  | some why =>
    rw [apply_of_filtered hf]
    exact h
  | none =>
    obtain ⟨hgame, -, haccept⟩ := filtered?_eq_none_iff.1 hf
    obtain ⟨p, event⟩ := e
    rw [facts_apply hf, facts_learn]
    cases event with
    | shuffled g a =>
      obtain rfl : g = s.game := hgame
      refine ⟨fun q hq => ?_, fun b q hq => ?_⟩
      · change (s.recordShuffle a p).floor = some q at hq
        rw [floor_recordShuffle] at hq
        rw [show (s.recordShuffle a p).facts.game = s.game from game_recordShuffle]
        exact h.floor_mem q hq
      · rw [show (s.recordShuffle a p).facts.game = s.game from game_recordShuffle]
        rw [shuffleBy_recordShuffle hc.creator_ne_joiner haccept] at hq
        split at hq
        · rename_i hb
          subst hb
          cases hq
          -- The later one of two shuffles is either the entry, or was known before.
          rcases Position.elim_max_eq (s.facts.shuffleBy b) p with hmax | hmax
          · rw [hmax]
            exact he
          · exact h.shuffle_mem b _ hmax
        · exact h.shuffle_mem b q hq
    | rematch g =>
      obtain rfl : g = s.game := hgame
      refine ⟨fun q hq => ?_, fun b q hq => ?_⟩
      · change (s.rematch p).floor = some q at hq
        rw [floor_rematch] at hq
        cases hq
        rw [show (s.rematch p).facts.game = s.game from game_rematch]
        exact he
      · rw [show (s.rematch p).facts.game = s.game from game_rematch]
        rw [shuffleBy_rematch hc, Option.filter_eq_some_iff] at hq
        exact h.shuffle_mem b q hq.1
    | _ => exact h

/-- An entry is reflected once it has been taken in. -/
theorem reflects_apply (hc : s.facts.IsCoherent) : (s.apply e).1.facts.Reflects e := by
  intro hgame
  change e.event.game = (s.apply e).1.game at hgame
  rw [game_apply] at hgame
  obtain ⟨p, event⟩ := e
  by_cases hstale : reaches s.floor p = true
  · left
    have hf : s.filtered? ⟨p, event⟩ = some .stale := by
      exact (if_neg (not_not.2 hgame)).trans (if_pos hstale)
    rw [apply_of_filtered hf]
    exact hstale
  -- Above the floor, the entry is filtered out only if it is about a stranger.
  · have habove := Position.isAbove_iff_not_reaches.2 (Bool.eq_false_iff.2 hstale)
    cases event with
    | shuffled g a =>
      right
      intro ha
      change (s.apply _).1.players.contains a = true at ha
      rw [players_apply] at ha
      have hf : s.filtered? ⟨p, .shuffled g a⟩ = none :=
        filtered?_eq_none_iff.2 ⟨hgame, habove, ha⟩
      rw [facts_apply hf, facts_learn]
      dsimp only
      rw [shuffleBy_recordShuffle hc.creator_ne_joiner ha, if_pos rfl]
      exact Position.reaches_elim_max.2 (.inr le_rfl)
    | rematch g =>
      left
      have hf : s.filtered? ⟨p, .rematch g⟩ = none :=
        filtered?_eq_none_iff.2 ⟨hgame, habove, rfl⟩
      rw [facts_apply hf, facts_learn]
      change reaches (s.rematch p).floor p = true
      rw [floor_rematch]
      exact Position.reaches_some.2 le_rfl
    | _ => exact .inr trivial

/-- What is reflected stays so: what a rematch does not carry over is at or
    below it. -/
theorem Facts.Reflects.apply (hc : s.facts.IsCoherent) (h : s.facts.Reflects e) :
    (s.apply e').1.facts.Reflects e := by
  cases hf : s.filtered? e' with
  | some why =>
    rw [apply_of_filtered hf]
    exact h
  | none =>
    intro hgame
    change e.event.game = (s.apply e').1.game at hgame
    rw [game_apply] at hgame
    obtain ⟨-, habove, haccept⟩ := filtered?_eq_none_iff.1 hf
    obtain ⟨p', event'⟩ := e'
    rw [facts_apply hf, facts_learn]
    cases event' with
    | shuffled g b =>
      refine (h hgame).imp (fun hfloor => ?_) fun hrec => hrec.imp players_recordShuffle ?_
      · change reaches (s.recordShuffle b p').floor e.position = true
        rw [floor_recordShuffle]
        exact hfloor
      · intro a ha
        rw [shuffleBy_recordShuffle hc.creator_ne_joiner haccept]
        split
        · rename_i hb
          rw [← hb]
          exact Position.reaches_elim_max.2 (.inl ha)
        · exact ha
    | rematch g =>
      change reaches (s.rematch p').floor e.position = true ∨ _
      rw [floor_rematch, Position.reaches_some]
      refine or_iff_not_imp_left.2 fun hlt => ?_
      rw [not_le] at hlt
      -- Above the new floor, the entry was not reflected by the old one.
      have hrec : s.facts.Records e := (h hgame).resolve_left fun hfloor =>
        absurd hlt (Position.lt_of_reaches_of_isAbove hfloor habove).asymm
      refine hrec.imp players_rematch fun a ha => ?_
      obtain ⟨q, hq, hle⟩ := Position.reaches_iff.1 ha
      rw [shuffleBy_rematch hc, hq, Option.filter_some,
        if_pos (decide_eq_true (lt_of_lt_of_le hlt hle))]
      exact Position.reaches_some.2 hle
    | _ => exact h hgame

/-- Facts that account for some entries account for one more when it is taken in. -/
theorem Facts.AccountsFor.apply (hc : s.facts.IsCoherent) (h : s.facts.AccountsFor S) :
    (s.apply e).1.facts.AccountsFor (insert e S) where
  drawn := (h.drawn.mono (Set.subset_insert e S)).apply hc (Set.mem_insert e S)
  reflects := by
    rintro e' (rfl | he')
    · exact reflects_apply hc
    · exact (h.reflects e' he').apply hc

/-! ## Operations -/

/-- A new session knows nothing. -/
theorem isDrawnFrom_fresh {game : GameId} {players : Players} {r : Role} :
    (fresh game players r).facts.IsDrawnFrom S where
  floor_mem _ hp := by cases hp
  shuffle_mem a p hp := by
    rw [show (fresh game players r).facts.shuffleBy a = none from
      Facts.shuffleBy_withoutShuffles (f := (fresh game players r).facts)] at hp
    cases hp

/-- What is reflected stays so, whatever the feed delivers. -/
theorem Facts.Reflects.receive {item : Item} (hc : s.facts.IsCoherent) (h : s.facts.Reflects e) :
    (s.receive item).1.facts.Reflects e := by
  cases item with
  | entry e' => exact h.apply hc
  | caughtUp =>
    change (s.perform (.receive .caughtUp)).1.facts.Reflects e
    rw [facts_perform rfl]
    exact h
  | fault f =>
    change (s.perform (.receive (.fault f))).1.facts.Reflects e
    rw [facts_perform rfl]
    exact h

/-- Nothing is made up by an operation, also when it begins an epoch. -/
theorem Facts.IsDrawnFrom.perform {op : Operation} (hc : s.facts.IsCoherent)
    (h : s.facts.IsDrawnFrom S) (hop : ∀ e ∈ op.entry?.toList, e ∈ S) :
    (s.perform op).1.facts.IsDrawnFrom S := by
  cases hstart : op.startsOver with
  | false =>
    rw [facts_perform hstart]
    cases hentry : op.entry? with
    | none => exact h
    | some e => exact h.apply hc (hop e (hentry ▸ List.mem_singleton_self e))
  | true =>
    -- Starting over forgets the shuffles. There is less to account for then.
    cases op with
    | restart => exact h.withoutShuffles s.players
    | rebind players self =>
      simp only [Session.perform]
      split
      · rename_i t ht
        obtain ⟨r, -, rfl⟩ := rebind_eq_ok ht
        exact h.withoutShuffles players
      · exact h
    | _ => cases hstart

/-- Nothing is made up in a run. -/
theorem Facts.IsDrawnFrom.run {ops : List Operation} (hc : s.facts.IsCoherent)
    (h : s.facts.IsDrawnFrom S) (hops : ∀ e ∈ entries ops, e ∈ S) :
    (s.run ops).1.facts.IsDrawnFrom S := by
  induction ops generalizing s with
  | nil => exact h
  | cons op ops ih =>
    rw [entries_cons] at hops
    have hop := h.perform hc fun e he => hops e (List.mem_append_left _ he)
    exact ih (isCoherent_perform op hc) hop fun e he => hops e (List.mem_append_right _ he)

end Session

end ShuffleWatch
