import ShuffleWatch.Proofs.Chain.Delivery

/-!
# What waits in a feed

The feeds that are open and have room, with the items that wait in them (`Holds`): an
item is found at the front (`Holds.next`), and the backlog waits in a feed that was just
opened (`holds_subscribe`). A feed is idle when nothing waits in it. Whatever happens on
the chain then, except for a disconnection, either brings nothing to the feed
(`IsIdle.undergo_of_none`), or one item, which is the next one that is found in it
(`IsIdle.undergo_of_some`). After that the feed is idle again.
-/

namespace ShuffleWatch

/-- The entry that an item brings, if it brings one. -/
def Item.brings? : Item → Option Entry
  | .entry e => some e
  | _ => none

theorem Item.brings?_eq_some_iff {item : Item} {e : Entry} :
    item.brings? = some e ↔ item = .entry e := by
  cases item <;> simp [brings?]

namespace Chain

/-- The feed held by this number is open and has room, and these items wait in it. -/
def Holds (c : Chain) (id : Nat) (filter : Filter) (items : List Item) : Prop :=
  ∃ sub, c.subscription? id = some sub ∧ sub.filter = filter ∧ sub.queue = items ∧
    sub.isLive = true ∧ 0 < sub.capacity

/-- The feed held by this number is open and has room, and nothing waits in it. -/
def IsIdle (c : Chain) (id : Nat) (filter : Filter) : Prop := c.Holds id filter []

variable {c d : Chain} {h : Happening} {id : Nat} {filter : Filter} {item : Item}
  {items : List Item} {w : WrittenEvent}

/-! ## The last block -/

/-- What is offered depends on the last block of the chain alone. -/
theorem offered?_congr (hblock : d.lastBlock = c.lastBlock) : d.offered? = c.offered? := by
  have hlogged : d.logged? = c.logged? := by
    funext h
    cases h <;> simp only [logged?, published?, hblock]
  funext filter h
  rw [offered?, offered?, hlogged]

/-- A written event that is published leaves the statuses as they are, and the last
    block depends on the event and on the last block before. -/
theorem publishWritten_frame (c : Chain) (w : WrittenEvent) :
    (c.publishWritten w).1.statusOf = c.statusOf ∧
      (c.publishWritten w).1.lastBlock =
        (c.logged? (.publishWritten w)).elim c.lastBlock fun e =>
          max c.lastBlock e.position.block := by
  rw [publishWritten, logged?]
  cases w.event with
  | error error => exact ⟨rfl, rfl⟩
  | ok e =>
    dsimp only
    rw [publish_eq]
    cases c.published? e <;> exact ⟨rfl, rfl⟩

theorem statusOf_publishWritten : (c.publishWritten w).1.statusOf = c.statusOf :=
  (publishWritten_frame c w).1

theorem lastBlock_publishWritten_congr (hblock : d.lastBlock = c.lastBlock) :
    (d.publishWritten w).1.lastBlock = (c.publishWritten w).1.lastBlock := by
  have hlogged : d.logged? (.publishWritten w) = c.logged? (.publishWritten w) := by
    simp only [logged?, published?, hblock]
  rw [(publishWritten_frame d w).2, (publishWritten_frame c w).2, hlogged, hblock]

/-- A subscriber to everything hears of every publication, unless there is no block
    left. -/
theorem publishWritten_eq_noBlockLeft_iff : (c.publishWritten w).2 = .noBlockLeft ↔
    c.offered? .everything (.publishWritten w) = none := by
  rw [publishWritten, offered?, logged?, Happening.fault?]
  cases w.event with
  | error error => simp
  | ok e =>
    dsimp only
    rw [publish, published?]
    split
    · simp [Filter.admits_everything]
    · simp

/-- There is a block left while the last one is below the greatest number. -/
theorem lastBlock_publishWritten_le (hroom : c.lastBlock.toNat + 1 < UInt64.size) :
    (c.publishWritten w).2 ≠ .noBlockLeft ∧
      (c.publishWritten w).1.lastBlock.toNat ≤ c.lastBlock.toNat + 1 := by
  have hsucc : (c.lastBlock + 1).toNat = c.lastBlock.toNat + 1 := by
    rw [UInt64.toNat_add]
    exact Nat.mod_eq_of_lt hroom
  rw [publishWritten]
  -- An event that cannot be read takes no block.
  cases w.event with
  | error error => exact ⟨by simp, Nat.le_succ _⟩
  | ok e =>
    dsimp only
    rw [publish, if_pos hroom]
    refine ⟨by simp, ?_⟩
    change (if c.lastBlock ≤ c.lastBlock + 1 then c.lastBlock + 1 else c.lastBlock).toNat ≤ _
    split
    · exact Nat.le_of_eq hsucc
    · exact Nat.le_succ _

/-- What is offered to everybody is offered to a feed, unless it is an entry that the
    filter of that feed does not admit. -/
theorem offered?_of_everything (ho : c.offered? .everything h = some item) :
    c.offered? filter h = some item ∨
      c.offered? filter h = none ∧ ∃ e, item = .entry e ∧ filter.admits e.event = false := by
  rw [offered?] at ho ⊢
  split at ho
  · rename_i e _
    rw [if_pos (Filter.admits_everything e.event)] at ho
    split
    · exact .inl ho
    · rename_i hadmits
      exact .inr ⟨rfl, e, (Option.some.inj ho).symm, Bool.eq_false_iff.2 hadmits⟩
  · exact .inl ho

/-- A written event that is published never ends a feed. -/
theorem offered?_publishWritten (ho : c.offered? filter (.publishWritten w) = some item) :
    (∃ e, item = .entry e) ∨ ∃ garble, item = .fault (.malformedEvent garble) := by
  rw [offered?] at ho
  split at ho
  · split at ho
    · exact .inl ⟨_, (Option.some.inj ho).symm⟩
    · cases ho
  · rw [Happening.fault?] at ho
    split at ho
    · cases ho
    · exact .inr ⟨_, (Option.some.inj ho).symm⟩

/-- A happening adds to the backlog what it brings to a feed with that filter. -/
theorem backlog_undergo (c : Chain) (filter : Filter) (h : Happening) :
    (c.undergo h).1.backlog filter =
      c.backlog filter ++ (c.offered? filter h).toList.filterMap Item.brings? := by
  rw [backlog, history_undergo, List.filter_append, offered?]
  cases c.logged? h with
  | none => cases h.fault? <;> simp [backlog, Item.brings?]
  | some e => cases hadmits : filter.admits e.event <;> simp [backlog, hadmits, Item.brings?]

/-! ## Looking at a feed -/

theorem next_of_queue {sub : Subscription} (hsub : c.subscription? id = some sub)
    (hqueue : sub.queue = item :: items) : c.next id = (c.setQueue id items, .item item) := by
  rw [Chain.next, hsub]
  dsimp only
  rw [hqueue]

/-- The item at the front is found, and leaves the queue. -/
theorem Holds.next (hc : c.Holds id filter (item :: items)) :
    c.next id = (c.setQueue id items, .item item) ∧
      (c.setQueue id items).Holds id filter items := by
  obtain ⟨sub, hsub, hfilter, hqueue, hlive, hcapacity⟩ := hc
  exact ⟨next_of_queue hsub hqueue, _, subscription?_setQueue hsub, hfilter, rfl, hlive, hcapacity⟩

/-- What waits in a feed that was just opened brings the backlog. -/
theorem filterMap_brings?_feed (es : List Entry) :
    (es.map Item.entry ++ [Item.caughtUp]).filterMap Item.brings? = es := by
  induction es with
  | nil => rfl
  | cons e es ih => exact congrArg (e :: ·) ih

/-- The backlog and the mark at the end of it wait in a feed that was just opened. -/
theorem holds_subscribe (hc : c.Reachable) (filter : Filter) :
    (c.subscribe filter).1.Holds c.opened filter
      ((c.backlog filter).map .entry ++ [.caughtUp]) :=
  ⟨_, subscription?_subscribe hc filter, rfl, rfl, rfl, Nat.zero_lt_succ _⟩

namespace IsIdle

/-- Nothing is found yet in an idle feed. -/
theorem next_eq (hc : c.IsIdle id filter) : c.next id = (c, .pending) := by
  obtain ⟨sub, hsub, -, hqueue, hlive, -⟩ := hc
  rw [next, hsub]
  dsimp only
  rw [hqueue]
  dsimp only
  rw [hlive, if_pos rfl]

theorem undergo_of_none (hc : c.IsIdle id filter) (hd : h ≠ .disconnect)
    (ho : c.offered? filter h = none) : (c.undergo h).1.IsIdle id filter := by
  obtain ⟨sub, hsub, rfl, hqueue, hlive, hcapacity⟩ := hc
  refine ⟨sub, ?_, rfl, hqueue, hlive, hcapacity⟩
  rw [subscription?_undergo, hsub, Option.map_some, relay_eq hd, ho]
  rfl

/-- What is offered to an idle feed is what is found in it next. -/
theorem undergo_of_some (hc : c.IsIdle id filter) (hd : h ≠ .disconnect)
    (ho : c.offered? filter h = some item) :
    ∃ d, (c.undergo h).1.next id = (d, .item item) ∧ d.IsIdle id filter ∧
      d.lastBlock = (c.undergo h).1.lastBlock ∧ d.statusOf = (c.undergo h).1.statusOf := by
  obtain ⟨sub, hsub, rfl, hqueue, hlive, hcapacity⟩ := hc
  have hholds : (c.undergo h).1.Holds id sub.filter [item] := by
    refine ⟨c.relay h sub, ?_, filter_relay, ?_, ?_, by rwa [capacity_relay]⟩
    · rw [subscription?_undergo, hsub, Option.map_some]
    · rw [queue_relay_of_room hlive (by rw [hqueue, ho]; exact hcapacity), hqueue, ho]
      rfl
    · rw [relay_eq hd, ho, Option.elim_some, offer_eq]
      exact hlive
  exact ⟨_, hholds.next.1, hholds.next.2, rfl, rfl⟩

/-- A disconnection is the next thing that is found in an idle feed. -/
theorem next_disconnect (hc : c.IsIdle id filter) :
    ∃ d, (c.undergo .disconnect).1.next id =
        (d, .item (.fault (.connectionLost .disconnected))) ∧
      d.history = c.history ∧ d.statusOf = c.statusOf := by
  obtain ⟨sub, hsub, rfl, hqueue, hlive, hcapacity⟩ := hc
  have hsub' : (c.undergo .disconnect).1.subscription? id = some (c.relay .disconnect sub) := by
    rw [subscription?_undergo, hsub, Option.map_some]
  have hqueue' : (c.relay .disconnect sub).queue =
      [.fault (.connectionLost .disconnected)] := by
    rw [queue_relay_of_room hlive (by rw [hqueue]; exact hcapacity), hqueue]
    rfl
  exact ⟨_, next_of_queue hsub' hqueue', rfl, rfl⟩

end IsIdle

end Chain

end ShuffleWatch
