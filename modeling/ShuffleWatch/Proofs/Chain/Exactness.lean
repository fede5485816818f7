import ShuffleWatch.Proofs.Chain.Delivery

/-!
# Exact feeds

What the holder of a feed gets to see, whatever happens on the chain and whatever
other feeds are opened, read and given up meanwhile. Two things are compared:

* what was `received` from the feed, as the answers to the holder's looks tell,
  with what still waits in its queue;
* what is due to it: the backlog, the mark at the end of the backlog, and the
  `offers` of what happened later, until the chain closed the feed. An offer is
  lost if it found the queue full, and only then.

They are the same list (`received_append_queue`). One operation either takes the
first item from the queue or puts behind it what it causes (`received_perform`).
-/

namespace ShuffleWatch.Chain

/-- What a happening causes for a feed with this filter: the entry that is published or
    delivered, if the filter admits it, or the fault that every subscriber is told of. -/
def caused (c : Chain) (filter : Filter) (h : Happening) : List Item :=
  ((c.logged? h).toList.filter fun e => filter.admits e.event).map .entry ++
    h.fault?.toList.map .fault

/-- The number of items that wait in the feed held by this number. -/
def waiting (c : Chain) (id : Nat) : Nat := (c.subscription? id).elim 0 (·.queue.length)

/-- What the operations cause for the feed, up to the end of the feed, each item with
    the number of items that were waiting when it was caused. -/
def offers (id : Nat) (filter : Filter) : Chain → List Operation → List (Item × Nat)
  | _, [] => []
  | c, .happen h :: ops =>
    (c.caused filter h).map (·, c.waiting id) ++
      if h = .disconnect then [] else offers id filter (c.undergo h).1 ops
  | c, op :: ops => offers id filter (c.perform op).1 ops

/-- The item that an operation found, if it was a look at the feed. -/
def found? (id : Nat) : Operation → Outcome → Option Item
  | .next feed, .found (.item item) => if feed = id then some item else none
  | _, _ => none

/-- The items that were taken from the feed, as the answers to the operations tell. -/
def received (id : Nat) (ops : List Operation) (outcomes : List Outcome) : List Item :=
  (ops.zip outcomes).filterMap fun (op, outcome) => found? id op outcome

variable {c d : Chain} {sub : Subscription} {h : Happening} {id : Nat} {op : Operation}
  {ops : List Operation} {filter : Filter}

theorem received_cons (op : Operation) (ops : List Operation) (outcome : Outcome)
    (outcomes : List Outcome) :
    received id (op :: ops) (outcome :: outcomes) =
      (found? id op outcome).toList ++ received id ops outcomes := by
  rw [received, List.zip_cons_cons, List.filterMap_cons]
  dsimp only
  split <;> rename_i hfound <;> rw [hfound] <;> rfl

theorem received_run_cons (c : Chain) (op : Operation) (ops : List Operation) :
    received id (op :: ops) (c.run (op :: ops)).2 =
      (found? id op (c.perform op).2).toList ++ received id ops ((c.perform op).1.run ops).2 :=
  received_cons op ops _ _

/-! ## What is caused -/

/-- What is logged is told as an entry, and not as a fault. -/
theorem fault?_of_logged? {e : Entry} (hl : c.logged? h = some e) : h.fault? = none := by
  cases h with
  | publishWritten w =>
    rw [logged?] at hl
    rw [Happening.fault?]
    cases hw : w.event with
    | ok event => rfl
    | error error =>
      rw [hw] at hl
      cases hl
  | disconnect => cases hl
  | _ => rfl

/-- What a happening causes is what it offers. -/
theorem caused_eq (c : Chain) (filter : Filter) (h : Happening) :
    c.caused filter h = (c.offered? filter h).toList := by
  rw [caused, offered?]
  cases hl : c.logged? h with
  | none => cases h.fault? <;> rfl
  | some e =>
    rw [fault?_of_logged? hl]
    dsimp only [Option.toList_some]
    cases hadmits : filter.admits e.event <;> simp [hadmits]

theorem caughtUp_not_mem_caused (c : Chain) (filter : Filter) (h : Happening) :
    .caughtUp ∉ c.caused filter h := by
  simp [caused]

/-- A mark is never caused: it is in the queue from the beginning. -/
theorem caughtUp_not_mem_offers (ops : List Operation) {n : Nat} :
    (.caughtUp, n) ∉ offers id filter c ops := by
  induction ops generalizing c with
  | nil => exact List.not_mem_nil
  | cons op ops ih =>
    -- Only happenings offer something, and the mark is not among it.
    cases op with
    | happen h =>
      rw [offers, List.mem_append]
      rintro (hmem | hmem)
      · obtain ⟨item, hitem, heq⟩ := List.mem_map.1 hmem
        cases heq
        exact caughtUp_not_mem_caused c filter h hitem
      · split at hmem
        · cases hmem
        · exact ih hmem
    | _ => exact ih

/-! ## One operation -/

/-- The items that a feed keeps of what an operation causes: all of them, if it is
    live and has room. -/
def kept (c : Chain) (sub : Subscription) : Operation → List Item
  | .happen h =>
    if sub.isLive = true ∧ sub.queue.length < sub.capacity then c.caused sub.filter h else []
  | _ => []

theorem queue_relay_eq_append : (c.relay h sub).queue = sub.queue ++ c.kept sub (.happen h) := by
  rw [queue_relay_eq, kept, caused_eq]
  cases c.offered? sub.filter h with
  | none => simp
  | some item =>
    rw [Option.elim_some, Subscription.offer]
    by_cases hroom : sub.isLive = true ∧ sub.queue.length < sub.capacity
    · rw [if_pos hroom, if_pos (by simp [hroom])]
      rfl
    · rw [if_neg hroom, if_neg (by simpa using hroom), List.append_nil]

/-- A disconnection ends a feed, and nothing else does. -/
theorem isLive_relay : (c.relay h sub).isLive = (sub.isLive && decide (h ≠ .disconnect)) := by
  have hoffer : ((c.offered? sub.filter h).elim sub sub.offer).isLive = sub.isLive := by
    cases c.offered? sub.filter h with
    | none => rfl
    | some item => rw [Option.elim_some, offer_eq]
  by_cases hd : h = .disconnect
  · subst hd
    exact (Bool.and_false _).symm
  · rw [relay_eq hd, hoffer, decide_eq_true hd, Bool.and_true]

theorem subscription?_setQueue_of_ne {feed : Nat} {queue : List Item} (hne : feed ≠ id) :
    (c.setQueue feed queue).subscription? id = c.subscription? id := by
  rw [subscription?, setQueue, List.find?_map]
  -- Changing a queue leaves the numbers of the
  -- subscriptions alone, so that the same one is found.
  have hkeep : (fun sub : Subscription => sub.id == id) ∘
      (fun sub => if sub.id = feed then { sub with queue := queue } else sub) =
        fun sub => sub.id == id := by
    funext sub
    rw [Function.comp_apply]
    split <;> rfl
  rw [hkeep]
  change (c.subscription? id).map _ = _
  cases hsub : c.subscription? id with
  | none => rfl
  | some sub =>
    have hid := List.find?_some hsub
    rw [beq_iff_eq] at hid
    rw [Option.map_some, if_neg (hid ▸ hne.symm)]

theorem subscription?_release_of_ne {feed : Nat} (hne : feed ≠ id) :
    (c.release feed).subscription? id = c.subscription? id := by
  rw [subscription?, release, List.find?_filter]
  refine congrArg (List.find? · c.subscriptions) (funext fun sub => ?_)
  by_cases hid : sub.id = id
  · simp [hid, hne.symm]
  · simp [hid]

/-- Opening a further feed takes no number that is in use. -/
theorem subscription?_subscribe_of_some (hsub : c.subscription? id = some sub) (filter : Filter) :
    (c.subscribe filter).1.subscription? id = some sub := by
  change (c.subscriptions ++ [c.feed filter]).find? (·.id == id) = _
  rw [List.find?_append, show c.subscriptions.find? (·.id == id) = some sub from hsub,
    Option.some_or]

/-- An operation takes the first item from the queue of a held feed, or else puts
    behind it what the feed keeps of what it causes. -/
theorem received_perform (hsub : c.subscription? id = some sub) (hop : op ≠ .release id) :
    ∃ sub', (c.perform op).1.subscription? id = some sub' ∧ sub'.filter = sub.filter ∧
      sub'.capacity = sub.capacity ∧
      sub'.isLive = (sub.isLive && decide (op ≠ .happen .disconnect)) ∧
      (found? id op (c.perform op).2).toList ++ sub'.queue = sub.queue ++ c.kept sub op := by
  cases op with
  | happen h =>
    refine ⟨c.relay h sub, ?_, filter_relay, capacity_relay, ?_, ?_⟩
    · rw [fst_perform_happen, subscription?_undergo, hsub]
      rfl
    · rw [isLive_relay]
      simp
    · exact queue_relay_eq_append
  | subscribe filter =>
    exact ⟨sub, subscription?_subscribe_of_some hsub filter, rfl, rfl, by simp,
      (List.append_nil _).symm⟩
  | release feed =>
    have hne : feed ≠ id := fun heq => hop (by rw [heq])
    refine ⟨sub, ?_, rfl, rfl, by simp, (List.append_nil _).symm⟩
    rw [← hsub]
    exact subscription?_release_of_ne hne
  | next feed =>
    simp only [kept, List.append_nil]
    by_cases hfeed : feed = id
    · subst hfeed
      rw [perform, next, hsub]
      dsimp only
      cases hqueue : sub.queue with
      | nil => exact ⟨sub, hsub, rfl, rfl, by simp, by cases sub.isLive <;> simp [found?, hqueue]⟩
      | cons item rest =>
        exact ⟨_, subscription?_setQueue hsub, rfl, rfl, by simp, by simp [found?]⟩
    -- A look at another feed leaves this one as it is.
    · refine ⟨sub, ?_, rfl, rfl, by simp, ?_⟩
      · change (c.next feed).1.subscription? id = some sub
        rcases next_eq c feed with heq | ⟨queue, heq⟩
        · rw [heq, hsub]
        · rw [heq, subscription?_setQueue_of_ne hfeed, hsub]
      · change (found? id (.next feed) (.found (c.next feed).2)).toList ++ _ = _
        cases (c.next feed).2 <;> simp [found?, hfeed]

/-- A happening causes one item at most, which is kept only if there is room. -/
theorem length_queue_add_kept_le (op : Operation) (hlength : sub.queue.length ≤ sub.capacity) :
    sub.queue.length + (c.kept sub op).length ≤ sub.capacity := by
  cases op with
  | happen h =>
    have hone : (c.offered? sub.filter h).toList.length ≤ 1 := Option.length_toList_le
    rw [kept, caused_eq]
    split
    · omega
    · exact hlength
  | _ => exact hlength

/-! ## Runs -/

/-- The offers that found room in a feed of this capacity. -/
def fitting (capacity : Nat) (os : List (Item × Nat)) : List Item :=
  (os.filter (·.2 ≠ capacity)).map Prod.fst

theorem fitting_append (capacity : Nat) (os os' : List (Item × Nat)) :
    fitting capacity (os ++ os') = fitting capacity os ++ fitting capacity os' := by
  rw [fitting, List.filter_append, List.map_append]
  rfl

/-- What a live feed keeps of a happening is what finds it not full. -/
theorem fitting_caused (hsub : c.subscription? id = some sub) (hlive : sub.isLive = true)
    (hlength : sub.queue.length ≤ sub.capacity) :
    fitting sub.capacity ((c.caused sub.filter h).map (·, c.waiting id)) =
      c.kept sub (.happen h) := by
  have hwaiting : c.waiting id = sub.queue.length := by rw [waiting, hsub, Option.elim_some]
  rw [hwaiting, fitting, List.filter_map, List.map_map, kept]
  by_cases hroom : sub.queue.length < sub.capacity
  · rw [if_pos ⟨hlive, hroom⟩]
    simp [Function.comp_def, Nat.ne_of_lt hroom]
  · rw [if_neg fun h => hroom h.2]
    simp [Function.comp_def, show sub.queue.length = sub.capacity by omega]

/-- Of the offers of a run, a live feed first keeps what it keeps of the first
    operation, unless that closes it. -/
theorem fitting_offers_cons (hsub : c.subscription? id = some sub) (hlive : sub.isLive = true)
    (hlength : sub.queue.length ≤ sub.capacity) (hd : op ≠ .happen .disconnect) :
    fitting sub.capacity (offers id sub.filter c (op :: ops)) =
      c.kept sub op ++ fitting sub.capacity (offers id sub.filter (c.perform op).1 ops) := by
  cases op with
  | happen h =>
    have hne : h ≠ .disconnect := fun heq => hd (by rw [heq])
    rw [offers, if_neg hne, fitting_append, fitting_caused hsub hlive hlength, fst_perform_happen]
  | _ => rfl

/-- A feed that has ended gets nothing any more. -/
theorem received_run_of_ended (hsub : c.subscription? id = some sub) (hlive : sub.isLive = false)
    (hops : .release id ∉ ops) :
    ∃ sub', (c.run ops).1.subscription? id = some sub' ∧ sub'.isLive = false ∧
      received id ops (c.run ops).2 ++ sub'.queue = sub.queue := by
  induction ops generalizing c sub with
  | nil => exact ⟨sub, hsub, hlive, rfl⟩
  | cons op ops ih =>
    rw [List.mem_cons, not_or] at hops
    obtain ⟨sub₁, hsub₁, -, -, hlive₁, hqueue₁⟩ := received_perform hsub (Ne.symm hops.1)
    -- A feed that has ended keeps nothing of what happens.
    have hkept : c.kept sub op = [] := by
      cases op with
      | happen h => exact if_neg fun hroom => by rw [hlive] at hroom; cases hroom.1
      | _ => rfl
    rw [hlive, Bool.false_and] at hlive₁
    rw [hkept, List.append_nil] at hqueue₁
    obtain ⟨sub₂, hsub₂, hlive₂, hqueue₂⟩ := ih hsub₁ hlive₁ hops.2
    refine ⟨sub₂, hsub₂, hlive₂, ?_⟩
    rw [received_run_cons, List.append_assoc, hqueue₂, hqueue₁]

/-- What waited in a live feed at the beginning of a run, and the offers of the run
    that found room, are received in the run or wait at its end, in that order. -/
theorem received_run (hsub : c.subscription? id = some sub) (hlive : sub.isLive = true)
    (hlength : sub.queue.length ≤ sub.capacity) (hops : .release id ∉ ops) :
    ∃ sub', (c.run ops).1.subscription? id = some sub' ∧
      sub'.isLive = decide (.happen .disconnect ∉ ops) ∧
      received id ops (c.run ops).2 ++ sub'.queue =
        sub.queue ++ fitting sub.capacity (offers id sub.filter c ops) := by
  induction ops generalizing c sub with
  | nil => exact ⟨sub, hsub, by simp [hlive], (List.append_nil _).symm⟩
  | cons op ops ih =>
    rw [List.mem_cons, not_or] at hops
    obtain ⟨sub₁, hsub₁, hfilter₁, hcapacity₁, hlive₁, hqueue₁⟩ :=
      received_perform hsub (Ne.symm hops.1)
    rw [hlive, Bool.true_and] at hlive₁
    simp only [received_run_cons, List.append_assoc]
    by_cases hd : op = .happen .disconnect
    -- The chain closes the feed, and what comes after is not for it.
    · subst hd
      obtain ⟨sub₂, hsub₂, hlive₂, hqueue₂⟩ :=
        received_run_of_ended hsub₁ (by simpa using hlive₁) hops.2
      refine ⟨sub₂, hsub₂, by simp [hlive₂], ?_⟩
      rw [hqueue₂, hqueue₁, offers, if_pos rfl, List.append_nil, fitting_caused hsub hlive hlength]
    · rw [decide_eq_true hd] at hlive₁
      have hlength₁ : sub₁.queue.length ≤ sub₁.capacity := by
        have hcount := congrArg List.length hqueue₁
        rw [List.length_append, List.length_append] at hcount
        have hbound := length_queue_add_kept_le (c := c) op hlength
        omega
      obtain ⟨sub₂, hsub₂, hlive₂, hqueue₂⟩ := ih hsub₁ hlive₁ hlength₁ hops.2
      refine ⟨sub₂, hsub₂, ?_, ?_⟩
      · rw [hlive₂]
        simp [Ne.symm hd]
      · rw [hqueue₂, ← List.append_assoc, hqueue₁, fitting_offers_cons hsub hlive hlength hd,
          hfilter₁, hcapacity₁, List.append_assoc]

/-! ## Exactness -/

/-- The answer to a look at a feed in which nothing waits. -/
theorem next_of_queue_eq_nil (hsub : c.subscription? id = some sub) (hqueue : sub.queue = []) :
    (c.next id).2 = if sub.isLive then .pending else .ended := by
  rw [next, hsub]
  dsimp only
  rw [hqueue]

/-- Suppose that a feed is opened on a chain in memory, and kept while other things are
    done to the chain and its feeds. What its holder has received so far, followed by
    what still waits, is this: the entries of the backlog in the order of the history,
    the mark at their end, and what was caused from then on until the chain closed the
    feed, each item at the place of the operation that caused it, except for those
    that were caused while as many items were waiting as the backlog, the mark and the
    live capacity come to. There is no further mark, and when nothing waits any more,
    the feed has ended if the chain closed it, and may yet deliver otherwise. -/
theorem received_append_queue (hc : c.Reachable) (hopen : c.subscribe filter = (d, id))
    (hkept : .release id ∉ ops) :
    ∃ sub live, (d.run ops).1.subscription? id = some sub ∧
      received id ops (d.run ops).2 ++ sub.queue =
        (c.backlog filter).map .entry ++ .caughtUp :: live ∧
      live = ((offers id filter d ops).filter
        (·.2 ≠ (c.backlog filter).length + 1 + liveCapacity)).map Prod.fst ∧
      .caughtUp ∉ live ∧
      (sub.queue = [] →
        ((d.run ops).1.next id).2 = if .happen .disconnect ∈ ops then .ended else .pending) := by
  obtain rfl : (c.subscribe filter).1 = d := by rw [hopen]
  obtain rfl : c.opened = id := congrArg Prod.snd hopen
  have hlength : (c.feed filter).queue.length ≤ (c.feed filter).capacity := by
    simp [feed]
  obtain ⟨sub, hsub, hlive, hqueue⟩ :=
    received_run (subscription?_subscribe hc filter) rfl hlength hkept
  -- The feed begins with the backlog and the mark. What
  -- it gains in a run is what it had room for.
  refine ⟨sub, _, hsub, ?_, rfl, ?_, fun hempty => ?_⟩
  · rw [hqueue]
    exact List.append_assoc _ _ _
  · intro hmark
    obtain ⟨⟨item, n⟩, ho, heq⟩ := List.mem_map.1 hmark
    cases heq
    exact caughtUp_not_mem_offers ops (List.mem_filter.1 ho).1
  · rw [next_of_queue_eq_nil hsub hempty, hlive]
    by_cases hd : Operation.happen .disconnect ∈ ops <;> simp [hd]

/-- A feed of some kinds of events of a game, which is read in between: its backlog and
    the mark, an undecodable event, an event that it admits, and the end. An event of
    another kind, and what comes after the end, is not for it. -/
theorem received_append_queue_disconnected :
    ∃ (c d : Chain) (id : Nat) (filter : Filter) (ops : List Operation), c.Reachable ∧
      c.subscribe filter = (d, id) ∧ .release id ∉ ops ∧ ∃ sub,
        (d.run ops).1.subscription? id = some sub ∧
        (received id ops (d.run ops).2).length = 3 ∧
        received id ops (d.run ops).2 ++ sub.queue =
          [.entry ⟨⟨3, 0⟩, .shuffled ⟨7⟩ (.fill 0xc1)⟩, .caughtUp,
            .fault (.malformedEvent (.misread (.malformedEvent (.unknownName "Shuffled")))),
            .entry ⟨⟨4, 0⟩, .rematch ⟨7⟩⟩, .fault (.connectionLost .disconnected)] := by
  let filter : Filter := ⟨some ⟨7⟩, [.shuffled, .rematch]⟩
  let c := (Chain.empty.run [.happen (.deliver ⟨⟨3, 0⟩, .shuffled ⟨7⟩ (.fill 0xc1)⟩),
    .subscribe .everything, .happen (.deliver ⟨⟨2, 0⟩, .rematch ⟨8⟩⟩)]).1
  let ops : List Operation := [.next 1, .happen (.publishWritten ⟨"Shuffled", "7", none⟩),
    .happen (.publish (.rematch ⟨7⟩)), .release 0,
    .happen (.publish (.joined ⟨7⟩ (.fill 0x01))), .next 1, .next 1, .happen .disconnect,
    .happen (.publish (.rematch ⟨7⟩))]
  have hc : c.Reachable := Reachable.empty.run _
  have hopen : c.subscribe filter = ((c.subscribe filter).1, 1) := rfl
  have hkept : Operation.release 1 ∉ ops := by decide
  -- Two of the events are not for this feed: one has another
  -- kind, and one comes after the connection is lost.
  obtain ⟨sub, live, hsub, hitems, hlive, -, -⟩ := received_append_queue hc hopen hkept
  have hevaluated : live =
      [.fault (.malformedEvent (.misread (.malformedEvent (.unknownName "Shuffled")))),
        .entry ⟨⟨4, 0⟩, .rematch ⟨7⟩⟩, .fault (.connectionLost .disconnected)] :=
    hlive.trans (by decide +kernel)
  have hbacklog : c.backlog filter = [⟨⟨3, 0⟩, .shuffled ⟨7⟩ (.fill 0xc1)⟩] := by decide +kernel
  rw [hbacklog, hevaluated] at hitems
  exact ⟨c, _, 1, filter, ops, hc, hopen, hkept, sub, hsub, by decide +kernel, hitems⟩

end ShuffleWatch.Chain
