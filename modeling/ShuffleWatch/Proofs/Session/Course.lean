import Mathlib.Data.Set.Insert
import ShuffleWatch.Proofs.Session.Promptness

/-!
# The course of the status

How the status of a session comes about within an epoch. A status is adopted from
the contract, events of the game move it forward, and so does the second of the two
shuffles. In the end it is the latest of these (`Proceeds`), in whatever order the
events come and however often:

* `proceeds_seed`: a status that is adopted is where the session proceeds from;
* `Proceeds.apply`: an entry of the log moves it forward to its target, if it has
  one and is not filtered out;
* `Proceeds.status_unique`: the status that was adopted, the entries and the shuffles
  determine the status.

A rematch is no part of the course: it begins an epoch, without a status.
-/

namespace ShuffleWatch

namespace Status

instance : LinearOrder Status where
  le_refl s := Nat.le_refl s.rank
  le_trans _ _ _ h h' := le_iff_rank.2 (Nat.le_trans (le_iff_rank.1 h) (le_iff_rank.1 h'))
  le_antisymm _ _ h h' := eq_of_rank_eq (Nat.le_antisymm h h')
  le_total s t := Nat.le_total s.rank t.rank
  lt_iff_le_not_ge s t := Nat.lt_iff_le_and_not_ge (m := s.rank) (n := t.rank)
  toDecidableLE := inferInstance
  toDecidableEq := inferInstance
  toDecidableLT := inferInstance
  max_def _ _ := rfl

/-- What is not earlier than a known status is known. -/
theorem isKnown_of_le {s t : Status} (h : s.isKnown = true) (hle : s ≤ t) : t.isKnown = true := by
  cases t with
  | uninitialized =>
    have hs : s = uninitialized := le_antisymm hle (by cases s <;> decide)
    rw [hs] at h
    cases h
  | _ => rfl

end Status

/-- The status to which an event moves its game forward, if it does. -/
def Event.target? : Event → Option Status
  | .created .. => some .waitingForJoin
  | .joined .. => some .shuffling
  | .ended .. => some .finished
  | _ => none

namespace Session

/-- The status to which an entry moves the session forward, unless it is filtered
    out. -/
def target? (s : Session) (e : Entry) : Option Status :=
  match s.filtered? e with
  | some _ => none
  | none => e.event.target?

/-- The entry is a rematch that the session takes in. -/
def takesRematch (s : Session) (e : Entry) : Bool :=
  (s.filtered? e).isNone && decide (e.event.kind = .rematch)

/-- The status of the session is the latest of the status `σ`, those to which the
    entries move it, and `inProgress` once both players have shuffled. -/
structure Proceeds (s : Session) (σ : Status) (S : Set Entry) : Prop where
  adopted_le : σ ≤ s.status
  inProgress_le : s.progress.isComplete = true → .inProgress ≤ s.status
  target_le : ∀ e ∈ S, ∀ status, s.target? e = some status → status ≤ s.status
  status_eq : s.status = σ ∨ s.progress.isComplete = true ∧ s.status = .inProgress ∨
    ∃ e ∈ S, s.target? e = some s.status

variable {s t : Session} {σ status : Status} {S : Set Entry} {e : Entry} {p : Position} {item : Item}

/-! ## Rematches -/

theorem apply_eq_reset_iff : (s.apply e).2 = .reset ↔ s.takesRematch e = true := by
  rw [apply, takesRematch]
  cases s.filtered? e with
  | some why => simp
  | none =>
    by_cases hkind : e.event.kind = .rematch
    · simp [hkind]
    · dsimp only
      rw [if_neg hkind]
      dsimp only
      split <;> simp [hkind]

/-- A session is reset by the rematches that it takes in. -/
theorem receive_eq_reset_iff :
    (s.receive item).2 = .reset ↔ ∃ e, item = .entry e ∧ s.takesRematch e = true := by
  cases item with
  | entry e => simp [receive, apply_eq_reset_iff]
  | caughtUp =>
    rw [receive]
    dsimp only
    split <;> simp
  | fault f =>
    rw [receive]
    split <;> simp

/-- A rematch that is taken in is the floor of the epoch that it begins. -/
theorem floor_apply_of_takesRematch (h : s.takesRematch e = true) :
    (s.apply e).1.floor = some e.position := by
  rw [takesRematch, Bool.and_eq_true, Option.isNone_iff_eq_none, decide_eq_true_eq] at h
  obtain ⟨p, event⟩ := e
  cases event with
  | rematch game =>
    rw [apply, h.1]
    exact floor_rematch
  | _ => cases h.2

/-! ## Targets -/

theorem target?_of_filtered (h : s.filtered? e ≠ none) : s.target? e = none := by
  obtain ⟨why, hwhy⟩ := Option.ne_none_iff_exists'.1 h
  rw [target?, hwhy]

theorem target?_eq_some (h : s.target? e = some status) :
    s.filtered? e = none ∧ e.event.target? = some status := by
  rw [target?] at h
  split at h
  · cases h
  · exact ⟨‹_›, h⟩

/-- An entry at or below the floor moves the session nowhere. -/
theorem target?_of_isStale (h : s.isStale e.position = true) : s.target? e = none := by
  refine target?_of_filtered ?_
  rw [filtered?, h]
  split <;> simp

/-- What is filtered out depends on the game, the players and the floor alone. -/
theorem filtered?_congr (hgame : t.game = s.game) (hplayers : t.players = s.players)
    (hfloor : t.floor = s.floor) : t.filtered? = s.filtered? := by
  funext e
  rw [filtered?, filtered?, isStale, isStale, hgame, hplayers, hfloor]

theorem target?_congr (h : t.filtered? = s.filtered?) : t.target? = s.target? := by
  funext e
  rw [target?, target?, h]

theorem filtered?_of_facts_eq (h : t.facts = s.facts) : t.filtered? = s.filtered? :=
  filtered?_congr (congrArg Facts.game h) (congrArg Facts.players h) (congrArg Facts.floor h)

theorem filtered?_recordShuffle {a : Address} :
    (s.recordShuffle a p).filtered? = s.filtered? :=
  filtered?_congr game_recordShuffle players_recordShuffle floor_recordShuffle

/-! ## Moving forward -/

/-- A known status moves forward to the target, unless it is there already. -/
theorem status_advance (h : s.status.isKnown = true) (target : Status) :
    (s.advance target).status = max s.status target := by
  rw [advance]
  split
  · rename_i hlt
    rw [advancesTo, h, Bool.true_and, decide_eq_true_eq] at hlt
    exact (max_eq_right hlt.le).symm
  · rename_i hge
    rw [advancesTo, h, Bool.true_and, decide_eq_true_eq, not_lt] at hge
    exact (max_eq_left hge).symm

theorem status_settle (h : s.status.isKnown = true) : s.settle.status =
    if s.progress.isComplete = true then max s.status .inProgress else s.status := by
  rw [settle]
  split
  · exact status_advance h _
  · rfl

theorem status_takeAction : s.takeAction.1.status = s.status := by
  rw [takeAction]
  split
  · exact status_markAsked s.role
  · rfl

theorem progress_eq_of_facts_eq (h : t.facts = s.facts) : t.progress = s.progress :=
  congrArg Facts.progress h

/-! ## Adopting a status -/

theorem status_seed (h : status.isKnown = true) : (s.seed status).1.status =
    if s.progress.isComplete = true then max status .inProgress else status := by
  rw [seed, if_pos h, status_takeAction]
  exact status_settle (s := { s with status := status, link := .live }) h

/-- A session proceeds from the status that it adopts, when the entries that came
    before move it no more. -/
theorem proceeds_seed (h : status.isKnown = true) (hS : ∀ e ∈ S, s.target? e = none) :
    (s.seed status).1.Proceeds status S := by
  have htarget : (s.seed status).1.target? = s.target? :=
    target?_congr (filtered?_of_facts_eq (facts_seed status))
  have hprogress : (s.seed status).1.progress = s.progress :=
    progress_eq_of_facts_eq (facts_seed status)
  have hstatus := status_seed (s := s) h
  -- No entry of `S` moves the session, so that its status has
  -- no reason but the one adopted and the two shuffles.
  refine ⟨?_, fun hcomplete => ?_, fun e he target hmoves => ?_, ?_⟩
  · rw [hstatus]
    split
    · exact le_max_left _ _
    · exact le_rfl
  · rw [hprogress] at hcomplete
    rw [hstatus, if_pos hcomplete]
    exact le_max_right _ _
  · rw [htarget, hS e he] at hmoves
    cases hmoves
  · rw [hstatus, hprogress]
    split
    · rename_i hcomplete
      exact (max_choice status .inProgress).imp id fun hmax => .inl ⟨hcomplete, hmax⟩
    · exact .inl rfl

/-! ## Entries -/

namespace Proceeds

theorem isKnown (h : s.Proceeds σ S) (hσ : σ.isKnown = true) : s.status.isKnown = true :=
  Status.isKnown_of_le hσ h.adopted_le

/-- The requests have no part in the course of the status. -/
theorem congr (h : s.Proceeds σ S) (hstatus : t.status = s.status) (hfacts : t.facts = s.facts) :
    t.Proceeds σ S := by
  have htarget : t.target? = s.target? := target?_congr (filtered?_of_facts_eq hfacts)
  have hprogress := progress_eq_of_facts_eq hfacts
  obtain ⟨hle, hcomplete, hentries, heq⟩ := h
  constructor
  · rwa [hstatus]
  · rwa [hprogress, hstatus]
  · rwa [htarget, hstatus]
  · rwa [hprogress, htarget, hstatus]

/-- What an entry may do to the course: the status stays, reaches `inProgress`, or
    reaches the target of the entry. -/
theorem insert (h : s.Proceeds σ S) (htarget : t.target? = s.target?)
    (hprogress : s.progress.isComplete = true → t.progress.isComplete = true)
    (hcomplete : t.progress.isComplete = true → .inProgress ≤ t.status)
    (hle : s.status ≤ t.status) (he : ∀ status, s.target? e = some status → status ≤ t.status)
    (hstatus : t.status = s.status ∨ t.progress.isComplete = true ∧ t.status = .inProgress ∨
      s.target? e = some t.status) : t.Proceeds σ (insert e S) where
  adopted_le := h.adopted_le.trans hle
  inProgress_le := hcomplete
  target_le := by
    rw [htarget]
    rintro e' (rfl | he') status hmoves
    · exact he status hmoves
    · exact (h.target_le e' he' status hmoves).trans hle
  status_eq := by
    rw [htarget]
    -- The new status has a reason: an old one, both shuffles, or the entry that was added.
    rcases hstatus with hstays | hreaches | hmoves
    · rw [hstays]
      refine h.status_eq.imp id fun h => h.imp (fun ⟨hc, hs⟩ => ⟨hprogress hc, hs⟩) ?_
      exact fun ⟨e', he', hmoves⟩ => ⟨e', .inr he', hmoves⟩
    · exact .inr (.inl hreaches)
    · exact .inr (.inr ⟨e, .inl rfl, hmoves⟩)

/-- An entry that moves the session nowhere has no part in its course. -/
theorem insert_of_target?_eq_none (h : s.Proceeds σ S) (he : s.target? e = none) :
    s.Proceeds σ (Insert.insert e S) := by
  refine h.insert rfl id h.inProgress_le le_rfl (fun status hmoves => ?_) (.inl rfl)
  rw [he] at hmoves
  cases hmoves

/-- An entry moves the session forward to its target. -/
theorem advance (h : s.Proceeds σ S) (hσ : σ.isKnown = true) (he : s.target? e = some status) :
    (s.advance status).Proceeds σ (Insert.insert e S) := by
  have hfacts := facts_advance (s := s) status
  have hprogress := progress_eq_of_facts_eq hfacts
  have hstatus := status_advance (h.isKnown hσ) status
  refine h.insert (target?_congr (filtered?_of_facts_eq hfacts)) (fun hc => hprogress ▸ hc)
    (fun hc => ?_) ?_ (fun target hmoves => ?_) ?_
  · rw [hstatus]
    exact le_max_of_le_left (h.inProgress_le (hprogress ▸ hc))
  · rw [hstatus]
    exact le_max_left _ _
  · rw [he] at hmoves
    cases hmoves
    rw [hstatus]
    exact le_max_right _ _
  · rw [hstatus, he]
    -- The greater of the two is the status as it was, or the one the entry moves to.
    rcases max_choice s.status status with hmax | hmax <;> rw [hmax]
    · exact .inl rfl
    · exact .inr (.inr rfl)

/-- Once both players have shuffled, the game is in progress already. -/
theorem settle_eq (h : s.Proceeds σ S) : s.settle = s := by
  rw [Session.settle]
  split
  · rename_i hcomplete
    rw [Session.advance, advancesTo, decide_eq_false (not_lt.2 (h.inProgress_le hcomplete)),
      Bool.and_false, if_neg Bool.false_ne_true]
  · rfl

/-- A shuffle moves the session forward when it is the second one. -/
theorem recordShuffle {a : Address} (h : s.Proceeds σ S) (hσ : σ.isKnown = true)
    (he : s.target? e = none) :
    (s.recordShuffle a p).settle.Proceeds σ (Insert.insert e S) := by
  have hknown : (s.recordShuffle a p).status.isKnown = true := by
    rw [status_recordShuffle]
    exact h.isKnown hσ
  have hfacts := facts_settle (s := s.recordShuffle a p)
  have hfiltered : (s.recordShuffle a p).settle.filtered? = s.filtered? :=
    (filtered?_of_facts_eq hfacts).trans filtered?_recordShuffle
  have hprogress := progress_eq_of_facts_eq hfacts
  -- A recorded shuffle is never forgotten, so that a complete game stays complete.
  have hcomplete : s.progress.isComplete = true →
      (s.recordShuffle a p).progress.isComplete = true := by
    rw [Session.recordShuffle, Progress.isComplete, Bool.and_eq_true]
    rintro ⟨hcreator, hjoiner⟩
    split <;> simp [Progress.isComplete, hcreator, hjoiner]
  have hstatus := status_settle hknown
  rw [status_recordShuffle] at hstatus
  refine h.insert (target?_congr hfiltered) (fun hc => hprogress ▸ hcomplete hc) (fun hc => ?_) ?_
    (fun target hmoves => ?_) ?_
  · rw [hprogress] at hc
    rw [hstatus, if_pos hc]
    exact le_max_right _ _
  · rw [hstatus]
    split
    · exact le_max_left _ _
    · exact le_rfl
  · rw [he] at hmoves
    cases hmoves
  · rw [hprogress, hstatus]
    split
    · rename_i hc
      exact (max_choice s.status .inProgress).imp id fun hmax => .inl ⟨hc, hmax⟩
    · exact .inl rfl

/-- All that is learned within an epoch is part of the course. -/
theorem learn (h : s.Proceeds σ S) (hσ : σ.isKnown = true) (he : s.filtered? e = none)
    (hkind : e.event.kind ≠ .rematch) :
    (s.learn e.position e.event).Proceeds σ (Insert.insert e S) := by
  have htarget : s.target? e = e.event.target? := by rw [target?, he]
  obtain ⟨p, event⟩ := e
  cases event with
  | created game creator => exact h.advance hσ htarget
  | joined game joiner =>
    have hadvance := h.advance hσ htarget
    rw [Session.learn]
    split
    · rw [hadvance.settle_eq]
      exact hadvance
    · rename_i hstays
      rw [Session.advance, if_neg hstays] at hadvance
      exact hadvance
  | shuffled game player => exact h.recordShuffle hσ htarget
  | ended game winner => exact h.advance hσ htarget
  | rematch game => exact absurd rfl hkind

theorem takeAction (h : s.Proceeds σ S) : s.takeAction.1.Proceeds σ S :=
  h.congr status_takeAction facts_takeAction

/-- An entry is part of the course, unless it begins an epoch. -/
theorem apply (h : s.Proceeds σ S) (hσ : σ.isKnown = true) (hreset : (s.apply e).2 ≠ .reset) :
    (s.apply e).1.Proceeds σ (Insert.insert e S) := by
  rw [Session.apply] at *
  -- An entry that is filtered is no reason to move, whereas
  -- one that is taken in moves the status at once.
  cases hf : s.filtered? e with
  | some why => exact h.insert_of_target?_eq_none (target?_of_filtered (by simp [hf]))
  | none =>
    rw [hf] at hreset
    dsimp only at hreset ⊢
    split
    · rename_i hkind
      rw [if_pos hkind] at hreset
      exact absurd rfl hreset
    · rename_i hkind
      exact (h.learn hσ hf hkind).takeAction

/-- What a feed delivers is part of the course, unless it begins an epoch. -/
theorem receive (h : s.Proceeds σ S) (hσ : σ.isKnown = true)
    (hreset : (s.receive item).2 ≠ .reset) :
    (s.receive item).1.Proceeds σ (S ∪ {e | item = .entry e}) := by
  -- An entry adds itself to `S`. The other items add nothing.
  cases item with
  | entry e =>
    have hS : S ∪ {e' | Item.entry e = .entry e'} = Insert.insert e S := by
      ext e'
      simp [eq_comm]
    exact hS.symm ▸ h.apply hσ hreset
  | caughtUp =>
    have hS : S ∪ {e | Item.caughtUp = .entry e} = S := by simp
    exact hS.symm ▸ (h.congr (t := { s with holding := false }) rfl rfl).takeAction
  | fault f =>
    have hS : S ∪ {e | Item.fault f = .entry e} = S := by simp
    refine hS.symm ▸ h.congr ?_ ?_
    · rw [Session.receive]
      split <;> rfl
    · rw [Session.receive]
      split <;> rfl

/-! ## The end of the course -/

/-- Where a session has proceeded to is determined by where it proceeded from, by the
    entries that count, and by whether both players have shuffled. -/
theorem status_unique (hs : s.Proceeds σ S) (ht : t.Proceeds σ S)
    (htarget : t.target? = s.target?) (hprogress : t.progress = s.progress) :
    t.status = s.status := by
  have hle : ∀ {s t : Session}, s.Proceeds σ S → t.Proceeds σ S → t.target? = s.target? →
      t.progress = s.progress → s.status ≤ t.status := by
    intro s t hs ht htarget hprogress
    rcases hs.status_eq with heq | ⟨hcomplete, heq⟩ | ⟨e, he, hmoves⟩
    · rw [heq]
      exact ht.adopted_le
    · rw [heq]
      exact ht.inProgress_le (hprogress ▸ hcomplete)
    · exact ht.target_le e he _ (htarget ▸ hmoves)
  exact le_antisymm (hle ht hs htarget.symm hprogress.symm) (hle hs ht htarget hprogress)

end Proceeds

end Session

end ShuffleWatch
