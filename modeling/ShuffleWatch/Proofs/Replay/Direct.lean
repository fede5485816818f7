import ShuffleWatch.Proofs.Chain.Waiting
import ShuffleWatch.Proofs.Session.Digest
import ShuffleWatch.Replay

/-!
# Replays without a chain

A replay publishes its events on a chain, and takes in what a feed of that chain delivers.
Each event is taken out of the feed before the next one is published, so the feed is always
idle, and what it delivers is the event itself, in the block after the last one
(`Chain.IsIdle.next_of_event`), or the fault by which it is undecodable
(`Chain.IsIdle.next_of_error`). So the chain makes no difference, while there is a block for
each event (`ofLines_eq_direct`).
-/

namespace ShuffleWatch

/-! ## Publishing on an idle chain -/

namespace Chain

variable {c : Chain} {id : Nat} {filter : Filter} {w : WrittenEvent} {e : Event} {error : Error}

/-- An event is logged in the block after the last one, while there is one. -/
theorem logged?_of_event (he : w.event = .ok e) (hroom : c.lastBlock.toNat + 1 < UInt64.size) :
    c.logged? (.publishWritten w) = some ⟨.blockStart (c.lastBlock + 1), e⟩ := by
  rw [logged?, he]
  exact if_pos hroom

theorem logged?_of_error (he : w.event = .error error) :
    c.logged? (.publishWritten w) = none := by
  rw [logged?, he]

/-- Nothing but the mark at the end of an empty history waits in a feed of a new chain. -/
theorem isIdle_subscribe_empty (filter : Filter) :
    ((empty.subscribe filter).1.next 0).1.IsIdle 0 filter :=
  ⟨⟨0, filter, [], 1 + liveCapacity, true⟩, rfl, rfl, rfl, rfl, Nat.add_pos_left Nat.one_pos _⟩

namespace IsIdle

/-- An event that is published is what a feed of everything delivers next. -/
theorem next_of_event (hc : c.IsIdle id .everything) (he : w.event = .ok e)
    (hroom : c.lastBlock.toNat + 1 < UInt64.size) :
    ∃ d, (c.publishWritten w).1.next id =
        (d, .item (.entry ⟨.blockStart (c.lastBlock + 1), e⟩)) ∧
      d.IsIdle id .everything ∧ d.lastBlock.toNat = c.lastBlock.toNat + 1 := by
  have hoffer : c.offered? .everything (.publishWritten w) =
      some (.entry ⟨.blockStart (c.lastBlock + 1), e⟩) := by
    rw [offered?, logged?_of_event he hroom]
    exact if_pos (Filter.admits_everything e)
  obtain ⟨d, hnext, hidle, hblock, -⟩ := hc.undergo_of_some (h := .publishWritten w) (by simp) hoffer
  -- The block after the last one does not wrap around, as there is room.
  have hsucc : (c.lastBlock + 1).toNat = c.lastBlock.toNat + 1 := by
    rw [UInt64.toNat_add]
    exact Nat.mod_eq_of_lt hroom
  have hle : c.lastBlock ≤ c.lastBlock + 1 := by
    rw [UInt64.le_iff_toNat_le, hsucc]
    exact Nat.le_succ _
  refine ⟨d, hnext, hidle, ?_⟩
  rw [hblock, ← hsucc]
  change (c.publishWritten w).1.lastBlock.toNat = _
  rw [(publishWritten_frame c w).2, logged?_of_event he hroom, Option.elim_some]
  exact congrArg UInt64.toNat (if_pos hle)

/-- Why a written event is undecodable is what a feed delivers next. -/
theorem next_of_error (hc : c.IsIdle id filter) (he : w.event = .error error) :
    ∃ d, (c.publishWritten w).1.next id =
        (d, .item (.fault (.malformedEvent (.misread error)))) ∧
      d.IsIdle id filter ∧ d.lastBlock = c.lastBlock := by
  have hoffer : c.offered? filter (.publishWritten w) =
      some (.fault (.malformedEvent (.misread error))) := by
    rw [offered?, logged?_of_error he, Happening.fault?, he]
    rfl
  obtain ⟨d, hnext, hidle, hblock, -⟩ := hc.undergo_of_some (h := .publishWritten w) (by simp) hoffer
  refine ⟨d, hnext, hidle, ?_⟩
  rw [hblock]
  change (c.publishWritten w).1.lastBlock = _
  rw [(publishWritten_frame c w).2, logged?_of_error he, Option.elim_none]

end IsIdle

end Chain

/-! ## Steps of a replay -/

namespace Replay

theorem start_eq (initial : Status) (s : Session) :
    (start initial s).session = (s.seed initial).1 ∧ (start initial s).snapshots = [] ∧
      (start initial s).actions = (s.seed initial).2.toList := by
  refine ⟨rfl, rfl, ?_⟩
  change ((s.seed initial).2.toList ++ []).reverse = _
  cases (s.seed initial).2 <;> rfl

/-- An item that a replay takes in is digested, and shown. -/
theorem receive_eq (r : Replay) (initial : Status) (item : Item) :
    (r.receive initial item).session = (r.session.digest initial item).1 ∧
    (r.receive initial item).snapshots =
      r.snapshots ++ [(r.session.digest initial item).1.snapshot none] ∧
    (r.receive initial item).actions =
      r.actions ++ (r.session.digest initial item).2.toList := by
  have hreverse : ∀ o : Option Action, (o.toList ++ r.requested).reverse =
      r.requested.reverse ++ o.toList := fun o => by cases o <;> simp
  rw [receive, Session.digest]
  rcases r.session.receive item with ⟨t, verdict⟩
  -- What is shown and requested is kept in reverse, and read the other way round.
  cases verdict with
  | changed action => exact ⟨rfl, List.reverse_cons, hreverse action⟩
  | reset => exact ⟨rfl, List.reverse_cons, hreverse _⟩
  | _ => exact ⟨rfl, List.reverse_cons, (List.append_nil _).symm⟩

/-! ## Replaying on a chain -/

/-- The events that are written on the lines. -/
def events (lines : List (Option WrittenEvent)) : List Event :=
  lines.filterMap fun o => o.bind (·.event.toOption)

variable {w : WrittenEvent} {e : Event} {lines : List (Option WrittenEvent)}

theorem events_cons_of_event (he : w.event = .ok e) :
    events (some w :: lines) = e :: events lines :=
  List.filterMap_cons_some (by rw [Option.bind_some, he]; rfl)

theorem events_cons_of_error {error : Error} (he : w.event = .error error) :
    events (some w :: lines) = events lines :=
  List.filterMap_cons_none (by rw [Option.bind_some, he]; rfl)

/-- What comes of the lines does not depend on the chain, but for its last block. -/
theorem onChain_eq_directFrom (initial : Status) {c : Chain} {feed : Nat} (r : Replay)
    (hc : c.IsIdle feed .everything)
    (hroom : c.lastBlock.toNat + (events lines).length < UInt64.size) :
    onChain initial feed c r lines = directFrom initial c.lastBlock.toNat r lines := by
  induction lines generalizing c r with
  | nil => rfl
  | cons o lines ih =>
    rcases o with _ | w
    · exact ih r.miss hc hroom
    rw [onChain, directFrom]
    rcases he : w.event with error | e
    · obtain ⟨d, hnext, hidle, hblock⟩ := hc.next_of_error he
      rw [events_cons_of_error he, ← hblock] at hroom
      rw [hnext, ← hblock]
      exact ih _ hidle hroom
    · rw [events_cons_of_event he, List.length_cons] at hroom
      -- The event takes the next block, and the feed is empty again after it was read.
      obtain ⟨d, hnext, hidle, hblock⟩ := hc.next_of_event he (by omega)
      have hsucc : UInt64.ofNat (c.lastBlock.toNat + 1) = c.lastBlock + 1 := by
        rw [UInt64.ofNat_add, UInt64.ofNat_toNat]
        rfl
      rw [hnext]
      dsimp only
      rw [hsucc, ← hblock]
      exact ih _ hidle (by omega)

/-- A replay on a chain that has a block for each event is the direct one. -/
theorem ofLines_eq_direct (s : Session) (initial : Status)
    (hroom : (events lines).length < UInt64.size) :
    ofLines s initial lines = direct s initial lines := by
  let c := ((Chain.empty.subscribe .everything).1.next 0).1
  have hidle : c.IsIdle 0 .everything := Chain.isIdle_subscribe_empty .everything
  have hblock : c.lastBlock.toNat = 0 := rfl
  have hroom' : c.lastBlock.toNat + (events lines).length < UInt64.size := by
    rwa [hblock, Nat.zero_add]
  exact onChain_eq_directFrom initial (start initial s) hidle hroom'

end Replay

end ShuffleWatch
