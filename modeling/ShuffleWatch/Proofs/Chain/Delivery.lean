import ShuffleWatch.Chain.Operation

/-!
# Delivery

What a happening on a chain means for the feeds that somebody holds. It logs an
entry or causes a fault, or neither (`logged?`, `Happening.fault?`), and each
feed is offered the one item that follows from it, if its filter lets it through
(`offered?`). Every feed hears of it in the same way (`relay`):

* `history_undergo`: a happening adds what it logs to the history;
* `subscriptions_undergo`, `subscription?_undergo`: the feeds are relayed to,
  and nothing else becomes of them;
* `queue_relay`, `queue_relay_of_room`: what was waiting in a feed still waits,
  in front of what is offered, which is in the queue if there is room.

A feed is found under the number under which it was opened
(`subscription?_subscribe`), since that number is above all earlier ones
(`Reachable.id_lt`). What its holder does with it is no happening
(`Serves.history_eq`).
-/

namespace ShuffleWatch

namespace Chain

/-- The entry by which the event is logged when it is published, if there is a
    block left. -/
def published? (c : Chain) (e : Event) : Option Entry :=
  if c.lastBlock.toNat + 1 < UInt64.size then some ⟨.blockStart (c.lastBlock + 1), e⟩ else none

/-- The entry that a happening logs, if it logs one. -/
def logged? (c : Chain) : Happening → Option Entry
  | .publish e => c.published? e
  | .deliver e => some e
  | .publishWritten w =>
    match w.event with
    | .ok e => c.published? e
    | .error _ => none
  | _ => none

/-- The fault that every subscriber is told of, if a happening causes one. -/
def Happening.fault? : Happening → Option Fault
  | .publishWritten w =>
    match w.event with
    | .ok _ => none
    | .error error => some (.malformedEvent (.misread error))
  | .disconnect => some (.connectionLost .disconnected)
  | _ => none

/-- What a happening brings to a feed with this filter, if it brings anything. -/
def offered? (c : Chain) (filter : Filter) (h : Happening) : Option Item :=
  match c.logged? h with
  | some e => if filter.admits e.event then some (.entry e) else none
  | none => h.fault?.map .fault

/-- What becomes of a feed in a happening. -/
def relay (c : Chain) (h : Happening) (sub : Subscription) : Subscription :=
  let sub := (c.offered? sub.filter h).elim sub sub.offer
  match h with
  | .disconnect => { sub with isLive := false }
  | _ => sub

variable {c d : Chain} {sub : Subscription} {h : Happening} {id : Nat} {item : Item} {e : Entry}

/-! ## Relaying to a feed -/

theorem queue_offer_of_room (hlive : sub.isLive = true) (hroom : sub.queue.length < sub.capacity) :
    (sub.offer item).queue = sub.queue ++ [item] := by
  rw [Subscription.offer, hlive, decide_eq_true hroom, Bool.and_self, if_pos rfl]

/-- An offered item is put behind those that wait, or dropped. -/
theorem queue_offer (sub : Subscription) (item : Item) :
    ∃ more, (sub.offer item).queue = sub.queue ++ more ∧ more ⊆ [item] := by
  rw [Subscription.offer]
  split
  · exact ⟨[item], rfl, fun _ hi => hi⟩
  · exact ⟨[], (List.append_nil _).symm, List.nil_subset _⟩

/-- An offer changes the queue alone. -/
theorem offer_eq (sub : Subscription) (item : Item) :
    sub.offer item = { sub with queue := (sub.offer item).queue } := by
  rw [Subscription.offer]
  split <;> rfl

/-- Only a disconnection ends a feed. -/
theorem relay_eq (hd : h ≠ .disconnect) :
    c.relay h sub = (c.offered? sub.filter h).elim sub sub.offer := by
  cases h with
  | disconnect => exact absurd rfl hd
  | _ => rfl

theorem queue_relay_eq :
    (c.relay h sub).queue = ((c.offered? sub.filter h).elim sub sub.offer).queue := by
  cases h <;> rfl

/-- A happening changes the queue of a feed, and may end it. -/
theorem relay_frame (c : Chain) (h : Happening) (sub : Subscription) :
    (c.relay h sub).id = sub.id ∧ (c.relay h sub).filter = sub.filter ∧
      (c.relay h sub).capacity = sub.capacity ∧
      ((c.relay h sub).isLive = true → sub.isLive = true) := by
  -- All but the disconnection itself is an offer, or nothing.
  have hoffer : (c.offered? sub.filter h).elim sub sub.offer =
      { sub with queue := (c.relay h sub).queue } := by
    rw [queue_relay_eq]
    cases c.offered? sub.filter h with
    | none => rfl
    | some item => exact offer_eq sub item
  by_cases hd : h = .disconnect
  · subst hd
    rw [relay, hoffer]
    exact ⟨rfl, rfl, rfl, nofun⟩
  · rw [relay_eq hd, hoffer]
    exact ⟨rfl, rfl, rfl, id⟩

theorem id_relay : (c.relay h sub).id = sub.id := (relay_frame c h sub).1

theorem filter_relay : (c.relay h sub).filter = sub.filter := (relay_frame c h sub).2.1

theorem capacity_relay : (c.relay h sub).capacity = sub.capacity := (relay_frame c h sub).2.2.1

/-- A feed that is live after a happening was live before it. -/
theorem isLive_of_isLive_relay (hlive : (c.relay h sub).isLive = true) : sub.isLive = true :=
  (relay_frame c h sub).2.2.2 hlive

/-- What waits in a feed goes on waiting, and only what is offered comes behind it. -/
theorem queue_relay (c : Chain) (h : Happening) (sub : Subscription) :
    ∃ more, (c.relay h sub).queue = sub.queue ++ more ∧
      ∀ i ∈ more, c.offered? sub.filter h = some i := by
  rw [queue_relay_eq]
  cases hoffer : c.offered? sub.filter h with
  | none => exact ⟨[], (List.append_nil _).symm, fun _ hi => absurd hi List.not_mem_nil⟩
  | some i =>
    obtain ⟨more, hqueue, hmore⟩ := queue_offer sub i
    exact ⟨more, hqueue, fun j hj => by rw [List.mem_singleton.1 (hmore hj)]⟩

/-- A live feed with room for what it is offered gets it. -/
theorem queue_relay_of_room (hlive : sub.isLive = true)
    (hroom : sub.queue.length + (c.offered? sub.filter h).toList.length ≤ sub.capacity) :
    (c.relay h sub).queue = sub.queue ++ (c.offered? sub.filter h).toList := by
  rw [queue_relay_eq]
  cases ho : c.offered? sub.filter h with
  | none => exact (List.append_nil _).symm
  | some i =>
    rw [ho] at hroom
    exact queue_offer_of_room hlive hroom

/-- A feed is offered an entry when it is logged. -/
theorem logged?_of_offered? {filter : Filter} (ho : c.offered? filter h = some (.entry e)) :
    c.logged? h = some e := by
  rw [offered?] at ho
  split at ho
  · rename_i e' he'
    split at ho
    · cases ho
      exact he'
    · cases ho
  · obtain ⟨f, -, hf⟩ := Option.map_eq_some_iff.1 ho
    cases hf

/-- A logged entry is offered to every feed whose filter lets it through. -/
theorem offered?_of_logged? {filter : Filter} (hl : c.logged? h = some e)
    (hadmits : filter.admits e.event = true) : c.offered? filter h = some (.entry e) := by
  rw [offered?, hl]
  exact if_pos hadmits

/-! ## Happenings -/

/-- Publishing either logs an entry and delivers it, or does nothing. -/
theorem publish_eq (c : Chain) (event : Event) :
    (c.publish event).1 = (c.published? event).elim c c.deliver := by
  rw [publish, published?]
  split <;> rfl

/-- What is logged is delivered, and nothing else happens. -/
theorem undergo_of_logged? (hl : c.logged? h = some e) : (c.undergo h).1 = c.deliver e := by
  -- Three happenings log an entry, and each of them delivers what it logged.
  cases h with
  | publish event =>
    change (c.publish event).1 = _
    rw [publish_eq, show c.published? event = some e from hl]
    rfl
  | deliver e' =>
    cases hl
    rfl
  | publishWritten w =>
    rw [logged?] at hl
    change (c.publishWritten w).1 = _
    rw [publishWritten]
    cases hw : w.event with
    | ok event =>
      rw [hw] at hl
      dsimp only
      rw [publish_eq, show c.published? event = some e from hl]
      rfl
    | error error =>
      rw [hw] at hl
      cases hl
  | _ => cases hl

/-- A logged entry is relayed to every feed as it is delivered. -/
theorem relay_of_logged? (hl : c.logged? h = some e) : c.relay h sub = sub.deliver e := by
  have hoffer : (c.offered? sub.filter h).elim sub sub.offer = sub.deliver e := by
    rw [offered?, hl, Subscription.deliver]
    dsimp only
    split <;> rfl
  cases h with
  | disconnect => cases hl
  | _ => exact hoffer

/-- When nothing is logged, the history stays as it is, and the feeds are told of
    the fault, if there is one. -/
theorem undergo_of_not_logged? (hl : c.logged? h = none) :
    (c.undergo h).1.history = c.history ∧
      (c.undergo h).1.subscriptions = c.subscriptions.map (c.relay h) := by
  -- Of what logs nothing, a feed hears the fault, whatever its filter.
  have hoffer : ∀ sub : Subscription, c.offered? sub.filter h = h.fault?.map .fault := by
    intro sub
    rw [offered?, hl]
  cases h with
  | publish event =>
    change (c.publish event).1.history = _ ∧ (c.publish event).1.subscriptions = _
    rw [publish_eq, show c.published? event = none from hl]
    refine ⟨rfl, (List.map_id' _).symm.trans (List.map_congr_left fun sub _ => ?_)⟩
    rw [relay_eq (h := .publish event) nofun, hoffer]
    rfl
  | deliver e' => cases hl
  | publishWritten w =>
    change (c.publishWritten w).1.history = _ ∧ (c.publishWritten w).1.subscriptions = _
    rw [logged?] at hl
    rw [publishWritten]
    cases hw : w.event with
    | ok event =>
      rw [hw] at hl
      dsimp only
      rw [publish_eq, show c.published? event = none from hl]
      refine ⟨rfl, (List.map_id' _).symm.trans (List.map_congr_left fun sub _ => ?_)⟩
      rw [relay_eq (h := .publishWritten w) nofun, hoffer, Happening.fault?, hw]
      rfl
    | error error =>
      refine ⟨rfl, List.map_congr_left fun sub _ => ?_⟩
      rw [relay_eq (h := .publishWritten w) nofun, hoffer, Happening.fault?, hw]
      rfl
  | disconnect => exact ⟨rfl, List.map_congr_left fun sub _ => rfl⟩
  | setStatus game status => exact ⟨rfl, (List.map_id' _).symm⟩
  | removeGame game => exact ⟨rfl, (List.map_id' _).symm⟩

/-- A happening adds what it logs to the history. -/
theorem history_undergo (c : Chain) (h : Happening) :
    (c.undergo h).1.history = c.history ++ (c.logged? h).toList := by
  cases hl : c.logged? h with
  | none => rw [(undergo_of_not_logged? hl).1, Option.toList_none, List.append_nil]
  | some e =>
    rw [undergo_of_logged? hl]
    rfl

/-- A happening is relayed to all feeds, and opens and gives up none. -/
theorem subscriptions_undergo (c : Chain) (h : Happening) :
    (c.undergo h).1.subscriptions = c.subscriptions.map (c.relay h) := by
  cases hl : c.logged? h with
  | none => exact (undergo_of_not_logged? hl).2
  | some e =>
    rw [undergo_of_logged? hl]
    exact List.map_congr_left fun sub _ => (relay_of_logged? hl).symm

theorem opened_undergo (c : Chain) (h : Happening) : (c.undergo h).1.opened = c.opened := by
  cases h with
  | publish event =>
    change (c.publish event).1.opened = _
    rw [publish_eq]
    cases c.published? event <;> rfl
  | publishWritten w =>
    change (c.publishWritten w).1.opened = _
    rw [publishWritten]
    cases w.event with
    | ok event =>
      dsimp only
      rw [publish_eq]
      cases c.published? event <;> rfl
    | error error => rfl
  | _ => rfl

theorem fst_perform_happen (c : Chain) (h : Happening) :
    (c.perform (.happen h)).1 = (c.undergo h).1 := by
  rw [perform]
  split <;> rename_i hundergo <;> rw [hundergo]

theorem Reachable.undergo (hc : Reachable c) (h : Happening) : Reachable (c.undergo h).1 := by
  rw [← fst_perform_happen]
  exact hc.perform (.happen h)

/-- A feed is still held under its number after a happening. -/
theorem subscription?_undergo :
    (c.undergo h).1.subscription? id = (c.subscription? id).map (c.relay h) := by
  rw [subscription?, subscriptions_undergo, List.find?_map]
  have hid : (fun sub : Subscription => sub.id == id) ∘ c.relay h = fun sub => sub.id == id := by
    funext sub
    exact congrArg (· == id) id_relay
  rw [hid]
  rfl

/-! ## Holding a feed -/

theorem mem_subscriptions_setQueue {queue : List Item}
    (hsub : sub ∈ (c.setQueue id queue).subscriptions) :
    ∃ sub' ∈ c.subscriptions, sub.id = sub'.id := by
  obtain ⟨sub', hsub', rfl⟩ := List.mem_map.1 hsub
  refine ⟨sub', hsub', ?_⟩
  split <;> rfl

/-- A look at a feed takes an item from its queue, or changes nothing. -/
theorem next_eq (c : Chain) (id : Nat) :
    (c.next id).1 = c ∨ ∃ queue, (c.next id).1 = c.setQueue id queue := by
  rw [next]
  split
  · exact .inl rfl
  · split
    · exact .inr ⟨_, rfl⟩
    · exact .inl rfl

/-- Feeds are numbered in the order in which they are opened. -/
theorem Reachable.id_lt (hc : Reachable c) : ∀ sub ∈ c.subscriptions, sub.id < c.opened := by
  induction hc with
  | empty => exact fun _ hsub => absurd hsub List.not_mem_nil
  | @perform c op _ ih =>
    intro sub hsub
    -- A new subscription takes the next number. Nothing
    -- else changes the numbers that were given out.
    cases op with
    | happen h =>
      rw [fst_perform_happen, subscriptions_undergo] at hsub
      rw [fst_perform_happen, opened_undergo]
      obtain ⟨sub', hsub', rfl⟩ := List.mem_map.1 hsub
      rw [id_relay]
      exact ih sub' hsub'
    | subscribe filter =>
      rcases List.mem_append.1 hsub with hsub | hsub
      · exact Nat.lt_succ_of_lt (ih sub hsub)
      · rw [List.mem_singleton.1 hsub]
        exact Nat.lt_succ_self c.opened
    | next feed =>
      change sub ∈ (c.next feed).1.subscriptions at hsub
      change sub.id < (c.next feed).1.opened
      rcases next_eq c feed with heq | ⟨queue, heq⟩
      · rw [heq] at hsub ⊢
        exact ih sub hsub
      · rw [heq] at hsub ⊢
        obtain ⟨sub', hsub', hid⟩ := mem_subscriptions_setQueue hsub
        rw [hid]
        exact ih sub' hsub'
    | release feed => exact ih sub (List.mem_filter.1 hsub).1

/-- A feed is held under the number under which it was opened. -/
theorem subscription?_subscribe (hc : Reachable c) (filter : Filter) :
    (c.subscribe filter).1.subscription? c.opened = some (c.feed filter) := by
  have hnone : c.subscriptions.find? (·.id == c.opened) = none := by
    rw [List.find?_eq_none]
    intro sub hsub
    rw [beq_iff_eq]
    exact Nat.ne_of_lt (hc.id_lt sub hsub)
  change (c.subscriptions ++ [c.feed filter]).find? (·.id == c.opened) = _
  rw [List.find?_append, hnone, Option.none_or, List.find?_singleton]
  exact if_pos (beq_self_eq_true c.opened)

theorem subscription?_setQueue {queue : List Item} (hsub : c.subscription? id = some sub) :
    (c.setQueue id queue).subscription? id = some { sub with queue := queue } := by
  have hid : sub.id = id := by
    have hfound := List.find?_some hsub
    exact beq_iff_eq.1 hfound
  rw [subscription?, setQueue, List.find?_map]
  -- Replacing queues leaves the numbers, by which feeds are found.
  have hkeep : (fun sub : Subscription => sub.id == id) ∘
      (fun sub => if sub.id = id then { sub with queue := queue } else sub) =
        fun sub => sub.id == id := by
    funext sub
    rw [Function.comp_apply]
    split <;> rfl
  rw [hkeep, show c.subscriptions.find? (·.id == id) = some sub from hsub, Option.map_some,
    if_pos hid]

/-- An item is found at the front of the queue, which it leaves. -/
theorem next_eq_item (hnext : c.next id = (d, .item item)) :
    ∃ sub rest, c.subscription? id = some sub ∧ sub.queue = item :: rest ∧
      d.subscription? id = some { sub with queue := rest } ∧ d.history = c.history ∧
      d.opened = c.opened := by
  rw [next] at hnext
  split at hnext
  · cases hnext
  · rename_i sub hsub
    split at hnext
    · rename_i i rest hqueue
      cases hnext
      exact ⟨sub, rest, hsub, hqueue, subscription?_setQueue hsub, rfl, rfl⟩
    · split at hnext <;> cases hnext

/-- Nothing is found yet in a live feed whose queue is empty. -/
theorem next_eq_pending (hnext : c.next id = (d, .pending)) :
    ∃ sub, c.subscription? id = some sub ∧ sub.queue = [] ∧ sub.isLive = true ∧ d = c := by
  rw [next] at hnext
  split at hnext
  · cases hnext
  · rename_i sub hsub
    split at hnext
    · cases hnext
    · rename_i hqueue
      split at hnext
      · rename_i hlive
        cases hnext
        exact ⟨sub, hsub, hqueue, hlive, rfl⟩
      · cases hnext

/-! ## Holders of feeds -/

/-- What the holders of feeds make of a chain, while nothing happens on it. -/
inductive Serves (c : Chain) : Chain → Prop
  | refl : Serves c c
  | subscribe {d : Chain} (filter : Filter) : Serves c d → Serves c (d.subscribe filter).1
  | next {d : Chain} (feed : Nat) : Serves c d → Serves c (d.next feed).1
  | release {d : Chain} (feed : Nat) : Serves c d → Serves c (d.release feed)

theorem Serves.history_eq (h : c.Serves d) : d.history = c.history := by
  induction h with
  | refl => rfl
  | subscribe filter _ ih => exact ih
  | @next d feed _ ih =>
    rcases next_eq d feed with heq | ⟨queue, heq⟩
    · rw [heq]
      exact ih
    · rw [heq]
      exact ih
  | release feed _ ih => exact ih

theorem Serves.reachable (h : c.Serves d) (hc : c.Reachable) : d.Reachable := by
  induction h with
  | refl => exact hc
  | subscribe filter _ ih => exact ih.perform (.subscribe filter)
  | next feed _ ih => exact ih.perform (.next feed)
  | release feed _ ih => exact ih.perform (.release feed)

end Chain

end ShuffleWatch
