import ShuffleWatch.Proofs.Chain.Delivery

/-!
# Fresh positions

A chain chooses the positions of the events that are published on it, whereas an entry that is
delivered as it is brings its own. Both go into the history, and the last block is always the
greatest one in there (`IsGreatestBlock`, kept by `isGreatestBlock_perform`). So the position
that is chosen next is above all others (`lt_of_published?`), and there is none once the block
with the greatest number has been delivered (`published?_eq_none_iff`):

* `fresh_of_run`: published positions are fresh, and a publication that fails changes nothing.
-/

namespace ShuffleWatch.Chain

/-- The greatest block among the entries, or 0 if there are none. -/
def IsGreatestBlock (es : List Entry) (block : UInt64) : Prop :=
  (∀ e ∈ es, e.position.block ≤ block) ∧
    (es = [] ∧ block = 0 ∨ ∃ e ∈ es, e.position.block = block)

/-- An entry has been delivered in the block after which there is none. -/
def IsFull (c : Chain) : Prop := ∃ e ∈ c.history, e.position.block.toNat + 1 = UInt64.size

/-- The event that the operation publishes, if it publishes one. -/
def Operation.publishes? : Operation → Option Event
  | .happen (.publish e) => some e
  | .happen (.publishWritten w) => w.event.toOption
  | _ => none

/-- The position at which an event was published, if one was. -/
def Outcome.position? : Outcome → Option Position
  | .published (.logged p) => some p
  | _ => none

/-- The entry that the operation delivers, in view of what it answers. -/
def Operation.delivers? (op : Operation) (outcome : Outcome) : Option Entry :=
  match op with
  | .happen (.deliver e) => some e
  | op => op.publishes?.bind fun e => outcome.position?.map (⟨·, e⟩)

/-- The entries that the operations deliver, in view of what they answer. -/
def delivered (ops : List Operation) (outcomes : List Outcome) : List Entry :=
  (ops.zip outcomes).filterMap fun answered => answered.1.delivers? answered.2

/-- The positions at which events were published. -/
def positions (outcomes : List Outcome) : List Position := outcomes.filterMap Outcome.position?

variable {c : Chain} {op : Operation} {ops : List Operation} {outcomes : List Outcome}
  {e x : Entry} {event : Event} {es : List Entry} {block : UInt64} {p : Position}

/-! ## One operation -/

/-- An event is published in the block after the last one, if there is one. -/
theorem perform_of_publishes (h : op.publishes? = some event) :
    c.perform op = (c.published? event).elim (c, .published .noBlockLeft)
      fun x => (c.deliver x, .published (.logged x.position)) := by
  have hpublish : c.publish event = (c.published? event).elim (c, .noBlockLeft)
      fun x => (c.deliver x, .logged x.position) := by
    rw [publish, published?]
    split <;> rfl
  have hperform : c.perform op = ((c.publish event).1, .published (c.publish event).2) := by
    -- An event that can be read is published in the same
    -- way, whether it comes as it is or in writing.
    cases op with
    | happen h' =>
      cases h' with
      | publish e =>
        obtain rfl := Option.some.inj h
        rfl
      | publishWritten w =>
        change w.event.toOption = some event at h
        cases hw : w.event with
        | ok e =>
          rw [hw] at h
          obtain rfl := Option.some.inj h
          rw [perform, undergo, publishWritten, hw]
        | error error =>
          rw [hw] at h
          cases h
      | _ => cases h
    | _ => cases h
  rw [hperform, hpublish]
  cases c.published? event <;> rfl

theorem delivers?_of_publishes {outcome : Outcome} (h : op.publishes? = some event) :
    op.delivers? outcome = outcome.position?.map (⟨·, event⟩) := by
  rw [Operation.delivers?, h]
  · rfl
  · rintro e rfl
    cases h

/-- An operation that publishes nothing delivers an entry, or it leaves the history and the last
    block as they are. -/
theorem perform_of_not_publishes (c : Chain) (h : op.publishes? = none) :
    (c.perform op).2.position? = none ∧
    ((∃ e, op = .happen (.deliver e)) ∨ op.delivers? (c.perform op).2 = none ∧
      (c.perform op).1.history = c.history ∧ (c.perform op).1.lastBlock = c.lastBlock) := by
  -- Only an entry that is delivered as it is adds to the history without being published.
  cases op with
  | happen h' =>
    cases h' with
    | publish e => cases h
    | deliver e => exact ⟨rfl, .inl ⟨e, rfl⟩⟩
    | publishWritten w =>
      change w.event.toOption = none at h
      cases hw : w.event with
      | ok e =>
        rw [hw] at h
        cases h
      | error error =>
        have hperform : c.perform (.happen (.publishWritten w)) =
            (c.broadcast (.malformedEvent (.misread error)), .published .undecodable) := by
          rw [perform, undergo, publishWritten, hw]
        rw [hperform]
        exact ⟨rfl, .inr ⟨congrArg (Option.bind · _) h, rfl, rfl⟩⟩
    | _ => exact ⟨rfl, .inr ⟨rfl, rfl, rfl⟩⟩
  | subscribe filter => exact ⟨rfl, .inr ⟨rfl, rfl, rfl⟩⟩
  | release feed => exact ⟨rfl, .inr ⟨rfl, rfl, rfl⟩⟩
  | next feed =>
    refine ⟨rfl, .inr ⟨rfl, ?_⟩⟩
    change (c.next feed).1.history = _ ∧ (c.next feed).1.lastBlock = _
    rw [next]
    split
    · exact ⟨rfl, rfl⟩
    · split <;> exact ⟨rfl, rfl⟩

/-- An operation delivers an entry, or it leaves the history and the last block as they are. -/
theorem perform_cases (c : Chain) (op : Operation) :
    (∃ e, op.delivers? (c.perform op).2 = some e ∧ (c.perform op).1 = c.deliver e) ∨
    op.delivers? (c.perform op).2 = none ∧ (c.perform op).1.history = c.history ∧
      (c.perform op).1.lastBlock = c.lastBlock := by
  cases hop : op.publishes? with
  | none =>
    rcases (perform_of_not_publishes c hop).2 with ⟨e, rfl⟩ | hframe
    · exact .inl ⟨e, rfl, rfl⟩
    · exact .inr hframe
  | some event =>
    rw [delivers?_of_publishes hop, perform_of_publishes hop, published?]
    split
    · exact .inl ⟨_, rfl, rfl⟩
    · exact .inr ⟨rfl, rfl, rfl⟩

/-- An operation adds what it delivers to the history. -/
theorem history_perform (c : Chain) (op : Operation) :
    (c.perform op).1.history = c.history ++ (op.delivers? (c.perform op).2).toList := by
  rcases perform_cases c op with ⟨e, he, hc⟩ | ⟨he, hhistory, -⟩
  · rw [he, hc]
    rfl
  · rw [he, hhistory, Option.toList_none, List.append_nil]

/-- What is published is delivered. -/
theorem exists_of_position? (h : (c.perform op).2.position? = some p) :
    ∃ event e, c.published? event = some e ∧ e.position = p ∧ (c.perform op).1 = c.deliver e := by
  cases hop : op.publishes? with
  | none => cases (perform_of_not_publishes c hop).1.symm.trans h
  | some event =>
    rw [perform_of_publishes hop] at h ⊢
    cases he : c.published? event with
    | none =>
      rw [he] at h
      cases h
    | some e =>
      rw [he] at h
      exact ⟨event, e, he, Option.some.inj h, rfl⟩

/-! ## The last block -/

theorem IsGreatestBlock.append (h : IsGreatestBlock es block) (e : Entry) :
    IsGreatestBlock (es ++ [e]) (max block e.position.block) := by
  have he : e ∈ es ++ [e] := List.mem_append_right _ (List.mem_singleton_self e)
  change IsGreatestBlock _ (if block ≤ e.position.block then e.position.block else block)
  split
  · rename_i hle
    refine ⟨fun x hx => ?_, .inr ⟨e, he, rfl⟩⟩
    rcases List.mem_append.1 hx with hx | hx
    · exact UInt64.le_trans (h.1 x hx) hle
    · rw [List.mem_singleton.1 hx]
      exact UInt64.le_refl _
  · rename_i hlt
    refine ⟨fun x hx => ?_, .inr ?_⟩
    · rcases List.mem_append.1 hx with hx | hx
      · exact h.1 x hx
      · rw [List.mem_singleton.1 hx]
        exact UInt64.le_of_lt (UInt64.not_le.1 hlt)
    · rcases h.2 with ⟨-, hzero⟩ | ⟨x, hx, hblock⟩
      · -- Every block is at least the one that stands for an empty history.
        rw [hzero] at hlt
        exact absurd (UInt64.le_iff_toNat_le.2 (Nat.zero_le _)) hlt
      · exact ⟨x, List.mem_append_left _ hx, hblock⟩

theorem isGreatestBlock_perform (h : IsGreatestBlock c.history c.lastBlock) (op : Operation) :
    IsGreatestBlock (c.perform op).1.history (c.perform op).1.lastBlock := by
  rcases perform_cases c op with ⟨e, -, hc⟩ | ⟨-, hhistory, hblock⟩
  · rw [hc]
    exact h.append e
  · rw [hhistory, hblock]
    exact h

/-- The last block is the greatest one that has been delivered. -/
theorem Reachable.isGreatestBlock (h : Reachable c) : IsGreatestBlock c.history c.lastBlock := by
  induction h with
  | empty => exact ⟨fun e he => absurd he List.not_mem_nil, .inl ⟨rfl, rfl⟩⟩
  | perform op _ ih => exact isGreatestBlock_perform ih op

/-! ## The next block -/

/-- The position that is chosen next is above all that have been delivered. -/
theorem lt_of_published? (h : Reachable c) (hx : c.published? event = some x) (he : e ∈ c.history) :
    e.position < x.position := by
  rw [published?] at hx
  split at hx
  · rename_i hroom
    obtain rfl := Option.some.inj hx
    -- There is room for another block, hence its number does not wrap around.
    have hsucc : (c.lastBlock + 1).toNat = c.lastBlock.toNat + 1 := by
      rw [UInt64.toNat_add]
      exact Nat.mod_eq_of_lt hroom
    refine Position.lt_iff.2 (.inl ?_)
    change e.position.block < c.lastBlock + 1
    rw [UInt64.lt_iff_toNat_lt, hsucc]
    exact Nat.lt_succ_of_le (h.isGreatestBlock.1 e he)
  · cases hx

theorem event_published? (h : c.published? event = some x) : x.event = event := by
  rw [published?] at h
  split at h
  · obtain rfl := Option.some.inj h
    rfl
  · cases h

theorem published?_eq_none_iff (h : Reachable c) : c.published? event = none ↔ c.IsFull := by
  have hlast := c.lastBlock.toNat_lt_size
  rw [published?, ite_eq_right_iff]
  constructor
  · intro hnone
    have hend : c.lastBlock.toNat + 1 = UInt64.size := by
      rcases Nat.lt_or_ge (c.lastBlock.toNat + 1) UInt64.size with hroom | hfull
      · cases hnone hroom
      · omega
    -- The last block is that of an entry, since without entries it would be zero.
    rcases h.isGreatestBlock.2 with ⟨-, hzero⟩ | ⟨e, he, hblock⟩
    · rw [hzero] at hend
      exact absurd hend (by decide)
    · exact ⟨e, he, by rw [hblock, hend]⟩
  · rintro ⟨e, he, hend⟩ hroom
    have hle : e.position.block.toNat ≤ c.lastBlock.toNat := h.isGreatestBlock.1 e he
    omega

/-! ## Runs -/

theorem run_cons (c : Chain) (op : Operation) (ops : List Operation) :
    c.run (op :: ops) =
      (((c.perform op).1.run ops).1, (c.perform op).2 :: ((c.perform op).1.run ops).2) := rfl

/-- A run adds what it delivers to the history. -/
theorem history_run (c : Chain) (ops : List Operation) :
    (c.run ops).1.history = c.history ++ delivered ops (c.run ops).2 := by
  induction ops generalizing c with
  | nil => exact (List.append_nil _).symm
  | cons op ops ih =>
    rw [run_cons, ih, history_perform, List.append_assoc, delivered, delivered,
      List.zip_cons_cons, List.filterMap_cons]
    cases op.delivers? (c.perform op).2 <;> rfl

/-- What is published in a run is above all that was delivered before it, and above all that
    was published before in the run. -/
theorem positions_run (h : Reachable c) (ops : List Operation) :
    (∀ p ∈ positions (c.run ops).2, ∀ e ∈ c.history, e.position < p) ∧
      (positions (c.run ops).2).Pairwise (· < ·) := by
  -- By induction on the operations, from any chain: the history only grows, so what is above all
  -- of it later is above what is in it now.
  induction ops generalizing c with
  | nil => exact ⟨fun p hp => absurd hp List.not_mem_nil, .nil⟩
  | cons op ops ih =>
    obtain ⟨habove, hpairwise⟩ := ih (h.perform op)
    have hkept : ∀ p ∈ positions ((c.perform op).1.run ops).2, ∀ e ∈ c.history, e.position < p :=
      fun p hp e he => habove p hp e (history_perform c op ▸ List.mem_append_left _ he)
    rw [run_cons, positions, List.filterMap_cons]
    cases hp : (c.perform op).2.position? with
    | none => exact ⟨hkept, hpairwise⟩
    | some p =>
      obtain ⟨event, x, hx, rfl, hdeliver⟩ := exists_of_position? hp
      refine ⟨fun q hq e he => ?_, List.pairwise_cons.2 ⟨fun q hq => ?_, hpairwise⟩⟩
      · rcases List.mem_cons.1 hq with rfl | hq
        · exact lt_of_published? h hx he
        · exact hkept q hq e he
      · -- What is published is in the history from then on.
        refine habove q hq x ?_
        rw [hdeliver]
        exact List.mem_append_right _ (List.mem_singleton_self x)

/-- Published positions are fresh. After every run, the last block is the greatest one that
    has been delivered, and the positions published so far are ever greater. Another event is
    published above everything that has been delivered, unless there is no block left. Then
    nothing changes, and what comes later is the same as without the attempt. -/
theorem fresh_of_run (h : empty.run ops = (c, outcomes)) :
    c.history = delivered ops outcomes ∧ IsGreatestBlock c.history c.lastBlock ∧
    (positions outcomes).Pairwise (· < ·) ∧
    ∀ op event, op.publishes? = some event →
      (¬c.IsFull → ∃ p, c.perform op = (c.deliver ⟨p, event⟩, .published (.logged p)) ∧
        ∀ e ∈ c.history, e.position < p) ∧
      (c.IsFull → c.perform op = (c, .published .noBlockLeft) ∧
        ∀ later, c.run (op :: later) =
          ((c.run later).1, .published .noBlockLeft :: (c.run later).2)) := by
  have hc : Reachable c := by
    have hrun := Reachable.empty.run ops
    rwa [h] at hrun
  have hhistory := history_run empty ops
  have hpositions := (positions_run .empty ops).2
  rw [h] at hhistory hpositions
  refine ⟨hhistory, hc.isGreatestBlock, hpositions, fun op event hop => ⟨fun hroom => ?_,
    fun hfull => ?_⟩⟩
  · rw [perform_of_publishes hop]
    cases hx : c.published? event with
    | none => exact absurd ((published?_eq_none_iff hc).1 hx) hroom
    | some x =>
      obtain rfl : x.event = event := event_published? hx
      exact ⟨x.position, rfl, fun e he => lt_of_published? hc hx he⟩
  · -- A full chain stays as it is, hence later operations do not notice.
    have hperform : c.perform op = (c, .published .noBlockLeft) := by
      rw [perform_of_publishes hop, (published?_eq_none_iff hc).2 hfull]
      rfl
    refine ⟨hperform, fun later => ?_⟩
    rw [run_cons, hperform]

/-- Entries are delivered in block 5, in an earlier one and in the greatest one. In between,
    events are published in the blocks 6 and 7, and after that in none, but a feed opened then
    delivers. -/
theorem fresh_of_run_full :
    ∃ c outcomes, ∃ ops : List Operation, empty.run ops = (c, outcomes) ∧ c.IsFull ∧
      positions outcomes = [⟨6, 0⟩, ⟨7, 0⟩] ∧ (positions outcomes).Pairwise (· < ·) ∧
      c.perform (.happen (.publish (.rematch ⟨7⟩))) = (c, .published .noBlockLeft) ∧
      (c.run [.happen (.publish (.rematch ⟨7⟩)), .subscribe .everything, .next 0]).2 =
        [.published .noBlockLeft, .opened 0,
          .found (.item (.entry ⟨⟨5, 3⟩, .rematch ⟨7⟩⟩))] := by
  let ops : List Operation := [.happen (.deliver ⟨⟨5, 3⟩, .rematch ⟨7⟩⟩),
    .happen (.publish (.rematch ⟨7⟩)), .happen (.deliver ⟨⟨2, 0⟩, .rematch ⟨7⟩⟩),
    .happen (.publishWritten (.ofEvent (.rematch ⟨7⟩))),
    .happen (.deliver ⟨⟨-1, 4⟩, .rematch ⟨7⟩⟩)]
  have hrun : empty.run ops = ((empty.run ops).1, (empty.run ops).2) := rfl
  have hfull : (empty.run ops).1.IsFull :=
    ⟨⟨⟨-1, 4⟩, .rematch ⟨7⟩⟩, by decide +kernel, by decide +kernel⟩
  obtain ⟨-, -, hpositions, hpublish⟩ := fresh_of_run hrun
  obtain ⟨hperform, hlater⟩ := (hpublish (.happen (.publish (.rematch ⟨7⟩))) _ rfl).2 hfull
  refine ⟨_, _, ops, hrun, hfull, by decide +kernel, hpositions, hperform, ?_⟩
  rw [hlater]
  decide +kernel

end ShuffleWatch.Chain
