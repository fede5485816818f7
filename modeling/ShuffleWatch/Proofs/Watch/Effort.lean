import ShuffleWatch.Proofs.Chain.Exactness
import ShuffleWatch.Proofs.Watch.Pace
import ShuffleWatch.Proofs.Watch.Rest
import ShuffleWatch.Proofs.Watch.Tracking

/-!
# Coming to rest in time

A watch that is left alone comes to rest. What is left for it to do is counted on two levels.
The *attempts* are those to open a feed that may still be made: one for each request in the
mailbox, and one if it is due. The *chores* are what comes before the next attempt: each item
that waits in the feed is taken, and the action that it leads to is sent. A step either uses up
an attempt, and a new feed brings no more chores than there are entries on chain, or it uses up
a chore and makes no further attempt necessary (`spends_of_step`). A rematch among the items is
such a chore, as the status is read without a new feed.

So every run ends within a number of steps that is known beforehand (`RunsOn.add_effort_le`,
`effort_le_workload`), and ends at rest if the application takes its actions
(`isAtRest_of_leads`).
-/

namespace ShuffleWatch

namespace Chain

variable {c d : Chain} {id : Nat} {item : Item}

theorem waiting_of_next (hnext : c.next id = (d, .item item)) :
    c.waiting id = d.waiting id + 1 := by
  obtain ⟨sub, rest, hsub, hqueue, hrest, -⟩ := next_eq_item hnext
  rw [waiting, waiting, hsub, hrest, Option.elim_some, Option.elim_some, hqueue, List.length_cons]

/-- At most the whole history waits in a new feed, and the mark at the end of it. -/
theorem waiting_subscribe_le (hc : c.Reachable) (filter : Filter) :
    (c.subscribe filter).1.waiting c.opened ≤ c.history.length + 1 := by
  have hlength : (c.feed filter).queue.length = (c.backlog filter).length + 1 := by simp [feed]
  rw [waiting, subscription?_subscribe hc, Option.elim_some, hlength]
  exact Nat.succ_le_succ (List.length_filter_le _ _)

end Chain

namespace Watch

/-! ## What is left to do -/

/-- The attempts to open a feed that are due in this phase. -/
def Phase.attempts (clock : Duration) : Phase → Nat
  | .connecting => 1
  | .waiting due => if due ≤ clock then 1 else 0
  | _ => 0

/-- The attempts to open a feed that may follow without an input. -/
def attempts (w : Watch) : Nat := w.mailbox.waiting.length + w.phase.attempts w.clock

/-- The steps of this phase: an item is taken and an action sent for each one that waits, and
    the phase comes to an end. -/
def Phase.chores (chain : Chain) : Phase → Nat
  | .following feed => 2 * chain.waiting feed + 2
  | .waiting _ => 1
  | _ => 0

/-- The steps that may be taken before the next attempt. -/
def chores (w : Watch) : Nat := w.outbox.toList.length + w.phase.chores w.access.chain

/-- The most steps that may follow without an input, since each attempt may bring the whole
    history into the feed. -/
def effort (w : Watch) : Nat := w.attempts * (2 * w.access.chain.history.length + 6) + w.chores

/-- What a step uses up of all that. -/
inductive Spends (w v : Watch) : Prop
  /-- An attempt was made. -/
  | attempt : v.access.subscribes = w.access.subscribes + 1 → v.attempts < w.attempts →
      v.chores ≤ 2 * w.access.chain.history.length + 5 → Spends w v
  /-- An attempt is not necessary any more. -/
  | spare : v.access.subscribes = w.access.subscribes → v.attempts < w.attempts →
      v.chores ≤ w.chores → Spends w v
  | chore : v.access.subscribes = w.access.subscribes → v.attempts ≤ w.attempts →
      v.chores < w.chores → Spends w v

/-- Every wait takes time, and there is room for an action in the outlet. -/
structure IsSteady (w : Watch) : Prop where
  chain : w.access.chain.Reachable
  backoff : w.backoff.TakesTime
  capacity_pos : 0 < w.outlet.capacity

/-- The runs of a watch that is left alone, by the number of their steps: nothing else happens
    and no time passes, but the application may take the actions that were sent to it. -/
inductive RunsOn (w : Watch) : Nat → Watch → Prop
  | refl : RunsOn w 0 w
  | step {n : Nat} {u v : Watch} : RunsOn w n u → Step u v → RunsOn w (n + 1) v
  | takeActions {n : Nat} {u : Watch} : RunsOn w n u → RunsOn w n (u.accept .takeActions)

variable {u v w : Watch} {feed n : Nat} {due : Duration} {item : Item}

theorem length_queue_le_foldl {sub : Subscription} {subs : List Subscription} (h : sub ∈ subs)
    (n : Nat) :
    n + sub.queue.length ≤ subs.foldl (fun n sub => n + sub.queue.length) n := by
  -- The sum only grows, by what is added to it from the left.
  have hle (subs : List Subscription) (n : Nat) :
      n ≤ subs.foldl (fun n sub => n + sub.queue.length) n := by
    induction subs generalizing n with
    | nil => exact le_rfl
    | cons sub subs ih => exact (Nat.le_add_right _ _).trans (ih _)
  induction subs generalizing n with
  | nil => cases h
  | cons sub' subs ih =>
    rw [List.foldl_cons]
    rcases List.mem_cons.1 h with rfl | h
    · exact hle subs _
    · exact (Nat.add_le_add_right (Nat.le_add_right n _) _).trans (ih h _)

theorem waiting_le_queued (w : Watch) (feed : Nat) : w.access.chain.waiting feed ≤ w.queued := by
  rw [Chain.waiting]
  cases hsub : w.access.chain.subscription? feed with
  | none => exact Nat.zero_le _
  | some sub =>
    have hle := length_queue_le_foldl (List.mem_of_find?_eq_some hsub) 0
    rwa [Nat.zero_add] at hle

theorem attempts_le (w : Watch) : w.attempts ≤ w.mailbox.waiting.length + 1 := by
  have hphase : w.phase.attempts w.clock ≤ 1 := by
    rw [Phase.attempts.eq_def]
    split
    · exact le_rfl
    · split <;> omega
    · exact Nat.zero_le 1
  exact Nat.add_le_add_left hphase _

/-- The workload that is counted beforehand is enough. -/
theorem effort_le_workload (w : Watch) : w.effort ≤ w.workload := by
  have houtbox : w.outbox.toList.length ≤ 1 := Option.length_toList_le
  have hattempts := w.attempts_le
  have hchores : w.phase.chores w.access.chain ≤ 2 * w.queued + 2 := by
    rw [Phase.chores.eq_def]
    split
    · rename_i feed _
      have := waiting_le_queued w feed
      omega
    · omega
    · exact Nat.zero_le _
  -- For each attempt that is left there is a round of chores in the
  -- workload, and one more for the feed that is followed now.
  have hrounds : w.attempts * (2 * w.access.chain.history.length + 6) ≤
      (w.mailbox.waiting.length + 2) * (2 * w.access.chain.history.length + 8) :=
    Nat.mul_le_mul (by omega) (by omega)
  rw [effort, chores, workload]
  omega

/-! ## Time and attempts -/

/-- The time, and the number of attempts to open a feed so far. -/
def meters (w : Watch) : Duration × Nat := (w.clock, w.access.subscribes)

theorem meters_connect : w.connect.meters = (w.clock, w.access.subscribes + 1) := by
  have hopened : ({ w with access := (w.access.subscribe w.filter).1 } : Watch).meters =
      (w.clock, w.access.subscribes + 1) := by
    rw [meters, Access.subscribe]
    cases w.access.subscribeFault <;> rfl
  obtain ⟨u, ⟨_, _, _, _, rfl⟩, heq | heq | heq⟩ := updates_connect w
  · rw [heq]
    exact hopened
  · rw [heq]
    exact hopened
  · rw [heq]
    exact hopened

theorem meters_take : (w.take feed item).meters = w.meters := by
  obtain ⟨u, ⟨_, _, _, _, rfl⟩, heq | heq⟩ := updates_take w feed item
  · rw [heq]
    rfl
  · rw [heq]
    rfl

theorem meters_stop : w.stop.meters = w.meters := by
  rw [stop]
  split <;> rfl

/-- No step takes time. -/
theorem clock_of_step (h : Step w v) : v.clock = w.clock := by
  -- Time only passes by an input.
  cases h.turn with
  | stop _ => exact congrArg Prod.fst meters_stop
  | dispatch _ _ _ _ => rfl
  | connect _ _ _ => exact congrArg Prod.fst meters_connect
  | take _ _ _ _ => exact congrArg Prod.fst meters_take
  | lose _ _ _ _ => rfl
  | @attend ticket r rest _ _ _ _ =>
    obtain ⟨s, reply, heq | ⟨feed, -, heq⟩⟩ :=
      attend_eq { w with mailbox := { w.mailbox with waiting := rest } } ticket r
    · rw [heq]
    · rw [heq]
      rfl
  | wake _ _ _ _ => rfl

/-- A wait that begins is not over yet. -/
theorem lt_of_step (hbackoff : w.backoff.TakesTime) (h : Step w v) (hdue : v.phase = .waiting due)
    (hbegins : w.phase ≠ .waiting due) : v.clock < due := by
  -- Only a failure begins a wait, and the delay after it takes some time.
  by_cases hfails : w.Fails
  · obtain ⟨v', honly, hwaits⟩ := hfails.exists_waitsAfter
    obtain rfl := (honly v).1 h
    have hdelay := hbackoff.le_delay w.draws
    obtain rfl := Phase.waiting.inj (hdue.symm.trans hwaits.phase_eq)
    rw [clock_of_step h]
    exact Nat.lt_add_of_pos_right (Nat.lt_of_lt_of_le (by decide) hdelay)
  by_cases hattaches : w.Attaches
  · obtain ⟨v', honly, hphase, -⟩ := hattaches.exists_reset
    obtain rfl := (honly v).1 h
    cases hdue.symm.trans hphase
  · exact absurd ((frame_of_step h hfails hattaches).2.2 due hdue) hbegins

/-! ## What a step uses up -/

theorem attempts_of_following (hphase : w.phase = .following feed) :
    w.attempts = w.mailbox.waiting.length := by
  rw [attempts, hphase]
  rfl

theorem chores_of_following (hphase : w.phase = .following feed) :
    w.chores = w.outbox.toList.length + (2 * w.access.chain.waiting feed + 2) := by
  rw [chores, hphase]
  rfl

/-- A watch whose wait has just begun has no chores but to serve its mailbox. -/
theorem attempts_of_waiting (hphase : w.phase = .waiting due) (hlater : w.clock < due) :
    w.attempts = w.mailbox.waiting.length := by
  rw [attempts, hphase, Phase.attempts, if_neg (Nat.not_le.2 hlater), Nat.add_zero]

theorem chores_of_waiting (hphase : w.phase = .waiting due) :
    w.chores = w.outbox.toList.length + 1 := by
  rw [chores, hphase]
  rfl

/-- An action is under way only after a step to a watch that follows a feed. -/
theorem outbox_eq_none_of_waiting (h : Step w v) (houtbox : w.outbox = none)
    (hphase : v.phase = .waiting due) : v.outbox = none := by
  by_contra hbusy
  obtain ⟨feed, hfeed⟩ := following_of_outbox (.step .refl h) houtbox hbusy
  cases hphase.symm.trans hfeed

/-- An attempt ends with a feed that is followed, or with a wait. -/
theorem phase_connect (w : Watch) : w.connect.phase = .following w.access.chain.opened ∨
    ∃ due, w.connect.phase = .waiting due := by
  obtain ⟨u, -, heq | heq | heq⟩ := updates_connect w
  · rw [heq]
    exact .inr ⟨_, rfl⟩
  · rw [heq]
    exact .inr ⟨_, rfl⟩
  · rw [heq]
    exact .inl rfl

theorem spends_connect (hw : w.IsSteady) (h : Step w w.connect) (houtbox : w.outbox = none)
    (hphase : w.phase = .connecting) : w.Spends w.connect := by
  have hsubscribes : w.connect.access.subscribes = w.access.subscribes + 1 :=
    congrArg Prod.snd meters_connect
  have hmailbox : w.connect.mailbox = w.mailbox := congrArg Prod.fst ends_connect
  have hattempts : w.attempts = w.mailbox.waiting.length + 1 := by
    rw [attempts, hphase]
    rfl
  rcases phase_connect w with hfollowing | ⟨due, hdue⟩
  · -- The backlog waits in the feed, and an action may be under way.
    obtain ⟨hfault, hread, status, hstatus⟩ := of_following_connect hfollowing
    have hchain : w.connect.access.chain = (w.access.chain.subscribe w.filter).1 := by
      rw [connect_eq hfault hread hstatus]
    have hwaiting := Chain.waiting_subscribe_le hw.chain w.filter
    have haction : w.connect.outbox.toList.length ≤ 1 := Option.length_toList_le
    refine .attempt hsubscribes ?_ ?_
    · rw [attempts_of_following hfollowing, hmailbox, hattempts]
      exact Nat.lt_succ_self _
    · rw [chores_of_following hfollowing, hchain]
      omega
  · -- The attempt has failed. The wait after it ends later
    -- than now, hence no further attempt is due.
    have hlater := lt_of_step hw.backoff h hdue (by simp [hphase])
    refine .attempt hsubscribes ?_ ?_
    · rw [attempts_of_waiting hdue hlater, hmailbox, hattempts]
      exact Nat.lt_succ_self _
    · rw [chores_of_waiting hdue, outbox_eq_none_of_waiting h houtbox hdue]
      exact Nat.le_add_left 1 _

/-- After an item the watch goes on where it is, or waits. -/
theorem phase_take (w : Watch) (feed : Nat) (item : Item) : (w.take feed item).phase = w.phase ∨
    ∃ due, (w.take feed item).phase = .waiting due := by
  obtain ⟨u, ⟨_, _, _, _, rfl⟩, heq | heq⟩ := updates_take w feed item
  · rw [heq]
    exact .inl rfl
  · rw [heq]
    exact .inr ⟨_, rfl⟩

theorem spends_take {access : Access} (hw : w.IsSteady)
    (h : Step w ({ w with access := access }.take feed item)) (houtbox : w.outbox = none)
    (hphase : w.phase = .following feed) (hnext : w.access.next feed = (access, .item item)) :
    w.Spends ({ w with access := access }.take feed item) := by
  have hsubscribes : ({ w with access := access }.take feed item).access.subscribes =
      w.access.subscribes :=
    (congrArg Prod.snd meters_take).trans (congrArg (·.1.subscribes) hnext.symm)
  have hmailbox : ({ w with access := access }.take feed item).mailbox = w.mailbox :=
    congrArg Prod.fst ends_take
  have hwaiting := Chain.waiting_of_next (next_eq_of_access hnext)
  have hattempts := attempts_of_following hphase
  have hchores := chores_of_following hphase
  rw [houtbox, Option.toList_none, List.length_nil] at hchores
  rcases phase_take { w with access := access } feed item with hstays | ⟨due, hdue⟩
  · -- The item has left the feed, and an action may follow it.
    have hfollowing := hstays.trans hphase
    have hchain := (take_of_following hfollowing).1
    have haction : ({ w with access := access }.take feed item).outbox.toList.length ≤ 1 :=
      Option.length_toList_le
    refine .chore hsubscribes ?_ ?_
    · rw [attempts_of_following hfollowing, hmailbox, hattempts]
    · rw [chores_of_following hfollowing, hchain, hchores]
      change _ + (2 * access.chain.waiting feed + 2) < _
      omega
  · -- The feed was given up for a wait, which is a single chore.
    have hlater := lt_of_step hw.backoff h hdue (by simp [hphase])
    refine .chore hsubscribes ?_ ?_
    · rw [attempts_of_waiting hdue hlater, hmailbox, hattempts]
    · rw [chores_of_waiting hdue, outbox_eq_none_of_waiting h houtbox hdue, hchores,
        Option.toList_none, List.length_nil]
      omega

theorem spends_lose (hw : w.IsSteady) (h : Step w (w.lose.giveUp feed))
    (houtbox : w.outbox = none) (hphase : w.phase = .following feed) :
    w.Spends (w.lose.giveUp feed) := by
  have hlater := lt_of_step hw.backoff h rfl (by simp [hphase])
  refine .chore rfl ?_ ?_
  · rw [attempts_of_waiting rfl hlater, attempts_of_following hphase]
    exact le_rfl
  · rw [chores_of_waiting rfl, outbox_eq_none_of_waiting h houtbox rfl, chores_of_following hphase,
      Option.toList_none, List.length_nil]
    omega

/-- To serve a request uses up the attempt that it might make necessary, or the chores of the
    feed that is given up. -/
theorem spends_attend {ticket : Nat} {r : Request} {rest : List (Nat × Request)}
    (hwaiting : w.mailbox.waiting = (ticket, r) :: rest) :
    w.Spends ({ w with mailbox := { w.mailbox with waiting := rest } }.attend ticket r) := by
  have hattempts : w.attempts = rest.length + 1 + w.phase.attempts w.clock := by
    rw [attempts, hwaiting, List.length_cons]
  obtain ⟨s, reply, heq | ⟨feed, hphase, heq⟩⟩ :=
    attend_eq { w with mailbox := { w.mailbox with waiting := rest } } ticket r
  · rw [heq]
    refine .spare rfl ?_ le_rfl
    rw [hattempts]
    change rest.length + w.phase.attempts w.clock < _
    omega
  · -- An epoch begins, and the watch leaves its feed. The attempt to
    -- open the next one takes the place of the request.
    rw [heq]
    replace hphase : w.phase = .following feed := hphase
    refine .chore rfl ?_ ?_
    · rw [hattempts]
      change rest.length + 1 ≤ _
      omega
    · rw [chores_of_following hphase]
      change w.outbox.toList.length + 0 < _
      omega

/-- An end leaves nothing to do. -/
theorem spends_stop (hrunning : w.isRunning = true) : w.Spends w.stop := by
  have hsubscribes : w.stop.access.subscribes = w.access.subscribes :=
    congrArg Prod.snd meters_stop
  have hattempts : w.stop.attempts = 0 := rfl
  have hchores : w.stop.chores = 0 := rfl
  rw [isRunning, Bool.and_eq_true, bne_iff_ne, bne_iff_ne] at hrunning
  -- A watch that stops has nothing left to do. What it gives up thereby depends on the phase.
  cases hphase : w.phase with
  | idle => exact absurd hphase hrunning.1
  | connecting =>
    refine .spare hsubscribes ?_ (hchores ▸ Nat.zero_le _)
    rw [hattempts, attempts, hphase]
    exact Nat.succ_pos _
  | following feed =>
    refine .chore hsubscribes (hattempts ▸ Nat.zero_le _) ?_
    rw [hchores, chores_of_following hphase]
    omega
  | waiting due =>
    refine .chore hsubscribes (hattempts ▸ Nat.zero_le _) ?_
    rw [hchores, chores_of_waiting hphase]
    exact Nat.succ_pos _
  | stopped => exact absurd hphase hrunning.2

/-- Every step uses up an attempt or a chore. -/
theorem spends_of_step (hw : w.IsSteady) (h : Step w v) : w.Spends v := by
  cases h.turn with
  | stop _ => exact spends_stop h.isRunning
  | dispatch _ houtbox _ _ =>
    refine .chore rfl le_rfl ?_
    rw [chores, chores, houtbox]
    exact Nat.add_lt_add_right Nat.zero_lt_one _
  | connect _ houtbox hphase => exact spends_connect hw h houtbox hphase
  | take _ houtbox hphase hnext => exact spends_take hw h houtbox hphase hnext
  | lose _ houtbox hphase _ => exact spends_lose hw h houtbox hphase
  | attend _ _ hwaiting _ => exact spends_attend hwaiting
  | @wake due _ _ hphase hdue =>
    refine .chore rfl ?_ ?_
    · rw [attempts, attempts, hphase, Phase.attempts, Phase.attempts, if_pos hdue]
    · rw [chores_of_waiting hphase]
      exact Nat.lt_succ_self _

/-! ## Counting down -/

namespace Spends

variable (h : w.Spends v)
include h

/-- Every attempt that is made was left to be made. -/
theorem subscribes_add_attempts_le :
    v.access.subscribes + v.attempts ≤ w.access.subscribes + w.attempts := by
  cases h with
  | attempt hsubscribes hattempts _ => omega
  | spare hsubscribes hattempts _ => omega
  | chore hsubscribes hattempts _ => omega

theorem effort_lt (hhistory : v.access.chain.history = w.access.chain.history) :
    v.effort < w.effort := by
  have hrounds {m n : Nat} (k : Nat) (hlt : m < n) : m * k + k ≤ n * k := by
    rw [← Nat.succ_mul]
    exact Nat.mul_le_mul_right k hlt
  rw [effort, effort, hhistory]
  -- An attempt less pays for all the chores of a round. Without one the chores alone are fewer.
  cases h with
  | attempt _ hattempts hchores =>
    have := hrounds (2 * w.access.chain.history.length + 6) hattempts
    omega
  | spare _ hattempts hchores =>
    have := hrounds (2 * w.access.chain.history.length + 6) hattempts
    omega
  | chore _ hattempts hchores =>
    have := Nat.mul_le_mul_right (2 * w.access.chain.history.length + 6) hattempts
    omega

end Spends

/-! ## Steadiness -/

theorem takesTime_of_step (hw : w.backoff.TakesTime) (h : Step w v) : v.backoff.TakesTime := by
  by_cases hfails : w.Fails
  · obtain ⟨v', honly, hwaits⟩ := hfails.exists_waitsAfter
    rw [(honly v).1 h, hwaits.backoff_eq]
    exact hw.next w.draws
  by_cases hattaches : w.Attaches
  · obtain ⟨v', honly, -, hreset⟩ := hattaches.exists_reset
    rw [(honly v).1 h, hreset]
    exact hw.reset
  · rw [(frame_of_step h hfails hattaches).1]
    exact hw

theorem capacity_of_step (h : Step w v) : v.outlet.capacity = w.outlet.capacity := by
  cases h.turn with
  | stop _ =>
    rw [stop]
    split <;> rfl
  | @dispatch action outlet sent _ _ hsend _ =>
    have hcapacity := w.outlet.capacity_send action
    rwa [hsend] at hcapacity
  | connect _ houtbox _ => rw [outlet_eq_of_step houtbox h]
  | take _ houtbox _ _ => rw [outlet_eq_of_step houtbox h]
  | lose _ houtbox _ _ => rw [outlet_eq_of_step houtbox h]
  | attend _ houtbox _ _ => rw [outlet_eq_of_step houtbox h]
  | wake _ houtbox _ _ => rw [outlet_eq_of_step houtbox h]

namespace IsSteady

variable (hw : w.IsSteady)
include hw

theorem step (h : Step w v) : v.IsSteady where
  chain := h.move.serves.reachable hw.chain
  backoff := takesTime_of_step hw.backoff h
  capacity_pos := by
    rw [capacity_of_step h]
    exact hw.capacity_pos

theorem accept (input : Input) : (w.accept input).IsSteady where
  chain := by
    rw [(accept_frame w input).chain_eq]
    cases input.happening? with
    | none => exact hw.chain
    | some h => exact hw.chain.undergo h
  backoff := by
    rw [(accept_frame w input).backoff_eq]
    exact hw.backoff
  capacity_pos := by
    rw [(accept_frame w input).capacity_eq]
    exact hw.capacity_pos

theorem leads (h : w.Leads v) : v.IsSteady := by
  induction h with
  | refl => exact hw
  | step _ hstep ih => exact ih.step hstep
  | accept input _ ih => exact ih.accept input

theorem effort_lt (h : Step w v) : v.effort < w.effort :=
  (spends_of_step hw h).effort_lt h.move.serves.history_eq

/-- With as many steps as the effort, a watch is run until there is nothing to do for it. -/
theorem step?_settleWithin (hn : w.effort ≤ n) : (settleWithin n w).step? = none := by
  induction n generalizing w with
  | zero =>
    refine Option.eq_none_iff_forall_not_mem.2 fun v hv => ?_
    have hlt := hw.effort_lt (.step hv)
    omega
  | succ n ih =>
    rw [settleWithin]
    cases hstep : w.step? with
    | none => exact hstep
    | some u =>
      have hlt := hw.effort_lt (.step hstep)
      exact ih (hw.step (.step hstep)) (by omega)

end IsSteady

/-! ## Runs -/

theorem phase_ne_idle_of_step (h : Step w v) : v.phase ≠ .idle := by
  have hstarted : w.phase ≠ .idle := by
    have hrunning := h.isRunning
    rw [isRunning, Bool.and_eq_true, bne_iff_ne] at hrunning
    exact hrunning.1
  -- A step goes from one phase of a started watch to another, and none of them leads back.
  cases h.turn with
  | stop _ => exact fun hidle => by cases hidle
  | dispatch _ _ _ _ => exact hstarted
  | connect _ _ _ =>
    rcases phase_connect w with hfollowing | ⟨due, hdue⟩
    · simp [hfollowing]
    · simp [hdue]
  | @take feed access item _ _ _ _ =>
    rcases phase_take { w with access := access } feed item with hstays | ⟨due, hdue⟩
    · rw [hstays]
      exact hstarted
    · simp [hdue]
  | lose _ _ _ _ => exact fun hidle => by cases hidle
  | attend _ _ _ _ =>
    rcases frame_attend.2.2 with hstays | ⟨-, hconnecting⟩
    · rw [hstays]
      exact hstarted
    · simp [hconnecting]
  | wake _ _ _ _ => exact fun hidle => by cases hidle

namespace RunsOn

theorem leads (h : w.RunsOn n v) : w.Leads v := by
  induction h with
  | refl => exact .refl
  | step _ hstep ih => exact .step ih hstep
  | takeActions _ ih => exact .accept .takeActions ih

theorem settleWithin (h : w.RunsOn n v) (k : Nat) : ∃ m, w.RunsOn m (settleWithin k v) := by
  induction k generalizing v n with
  | zero => exact ⟨n, h⟩
  | succ k ih =>
    rw [Watch.settleWithin]
    split
    · exact ⟨n, h⟩
    · rename_i u hu
      exact ih (.step h (.step hu))

theorem phase_ne_idle (h : w.RunsOn n v) (hstarted : w.phase ≠ .idle) : v.phase ≠ .idle := by
  induction h with
  | refl => exact hstarted
  | step _ hstep _ => exact phase_ne_idle_of_step hstep
  | takeActions _ ih => exact ih

variable (hw : w.IsSteady)
include hw

/-- The effort bounds the number of steps. -/
theorem add_effort_le (h : w.RunsOn n v) : n + v.effort ≤ w.effort := by
  induction h with
  | refl => exact (Nat.zero_add _).le
  | @step n u v hu hstep ih =>
    have hlt := (hw.leads hu.leads).effort_lt hstep
    omega
  | takeActions _ ih => exact ih

theorem subscribes_add_attempts_le (h : w.RunsOn n v) :
    v.access.subscribes + v.attempts ≤ w.access.subscribes + w.attempts := by
  induction h with
  | refl => exact le_rfl
  | @step n u v hu hstep ih =>
    exact (spends_of_step (hw.leads hu.leads) hstep).subscribes_add_attempts_le.trans ih
  | takeActions _ ih => exact ih

/-- A run goes on until it comes to rest. -/
theorem exists_isAtRest (hstarted : w.phase ≠ .idle) (h : w.RunsOn n v) :
    ∃ m u, w.RunsOn m u ∧ u.IsAtRest := by
  -- By induction on the effort that is left, which each further step lessens.
  induction heffort : v.effort using Nat.strong_induction_on generalizing n v with
  | h k ih =>
    subst heffort
    have hv := hw.leads h.leads
    by_cases hrest : v.IsAtRest
    · exact ⟨n, v, h, hrest⟩
    rw [isAtRest_iff (h.phase_ne_idle hstarted) hv.capacity_pos] at hrest
    push Not at hrest
    obtain ⟨v', hstep⟩ := hrest
    exact ih v'.effort ((hv.accept .takeActions).effort_lt hstep) (.step (.takeActions h) hstep) rfl

end RunsOn

/-- A watch comes to rest by itself. Take any watch to which a run has led, whatever has
    happened on its chain, to its access and in its mailbox, if its shortest delay is a millisecond
    or more. However it goes on when nothing else happens and no time passes, it takes no more
    steps than its workload, and opens no more feeds than one for each request that waits, and one
    more. It is at rest when there is nothing to do for it once the application has taken its
    actions, and only then: it waits for its feed and its mailbox, or for a delay that is not over
    and its mailbox, or it has ended. So it comes to rest. If it is run by itself, it is at rest
    then, unless a full outlet holds it up. -/
theorem isAtRest_of_leads {session : Session} {chain : Chain} {draws : List UInt64}
    {capacity : Nat} {least most : Duration} (hchain : chain.Reachable)
    (hleast : Duration.millisecond ≤ least)
    (hu : (create session (.ofRange least most) chain (.ofCapacity capacity) draws).Leads u)
    (hstarted : u.phase ≠ .idle) :
    (∀ n v, u.RunsOn n v → n ≤ u.workload ∧
      v.access.subscribes ≤ u.access.subscribes + u.mailbox.waiting.length + 1 ∧
      (v.IsAtRest ↔ ∀ v', ¬Step (v.accept .takeActions) v')) ∧
    (∃ n v, u.RunsOn n v ∧ v.IsAtRest) ∧
    (u.settle.IsAtRest ∨ u.settle.IsHeldUp) := by
  have hcapacity : 0 < (Outlet.ofCapacity capacity).capacity := Nat.le_max_right capacity 1
  have hsteady : u.IsSteady :=
    IsSteady.leads ⟨hchain, Backoff.takesTime_ofRange hleast, hcapacity⟩ hu
  refine ⟨fun n v hv => ⟨?_, ?_, ?_⟩, RunsOn.refl.exists_isAtRest hsteady hstarted, ?_⟩
  · have hsteps := hv.add_effort_le hsteady
    exact (Nat.le_add_right n _).trans (hsteps.trans u.effort_le_workload)
  · have hattempts := hv.subscribes_add_attempts_le hsteady
    have hdue := u.attempts_le
    omega
  · exact isAtRest_iff (hv.phase_ne_idle hstarted) (hsteady.leads hv.leads).capacity_pos
  · -- To settle is one of the runs, and its fuel is the workload, which no run exceeds.
    obtain ⟨m, hsettle⟩ := (RunsOn.refl (w := u)).settleWithin u.workload
    exact isAtRest_or_isHeldUp (hsettle.phase_ne_idle hstarted)
      (hsteady.step?_settleWithin u.effort_le_workload)

/-- Two rematches of the game are on chain, and one that was overtaken. Two requests wait that
    make a watch start over, which has yet to open its first feed. It opens three, in each of which
    all the rematches wait again, and then it is at rest. -/
theorem isAtRest_of_leads_rematch :
    ∃ u : Watch,
      (create (Session.fresh ⟨7⟩ ⟨.fill 0xc1, .fill 0x01⟩ .creator)
        (.ofRange Duration.millisecond 0) .empty (.ofCapacity 4) []).Leads u ∧
      u.phase = .connecting ∧
      u.access.chain.history =
        [⟨⟨4, 0⟩, .rematch ⟨7⟩⟩, ⟨⟨6, 0⟩, .rematch ⟨7⟩⟩, ⟨⟨5, 0⟩, .rematch ⟨7⟩⟩] ∧
      u.mailbox.waiting =
        [(0, .restart), (1, .rebind ⟨.fill 0xc1, .fill 0x01⟩ (some (.fill 0x01)))] ∧
      (∀ n v, u.RunsOn n v → n ≤ 64 ∧ v.access.subscribes ≤ 3) ∧
      (∃ n v, u.RunsOn n v ∧ v.IsAtRest) ∧ u.settle.IsAtRest ∧
      u.settle.phase = .following 2 ∧ u.settle.access.subscribes = 3 ∧
      u.settle.access.reads = 5 ∧ u.settle.session.epoch = 4 := by
  let w := create (Session.fresh ⟨7⟩ ⟨.fill 0xc1, .fill 0x01⟩ .creator)
    (.ofRange Duration.millisecond 0) .empty (.ofCapacity 4) []
  let known := (((w.accept (.happen (.setStatus ⟨7⟩ .shuffling))).accept
    (.happen (.deliver ⟨⟨4, 0⟩, .rematch ⟨7⟩⟩))).accept
    (.happen (.deliver ⟨⟨6, 0⟩, .rematch ⟨7⟩⟩))).accept
    (.happen (.deliver ⟨⟨5, 0⟩, .rematch ⟨7⟩⟩))
  let u := ((known.accept .start).accept (.post .restart)).accept
    (.post (.rebind ⟨.fill 0xc1, .fill 0x01⟩ (some (.fill 0x01))))
  have hknown : w.Leads known := .accept _ (.accept _ (.accept _ (.accept _ .refl)))
  have hu : w.Leads u := .accept _ (.accept _ (.accept _ hknown))
  obtain ⟨hruns, hrests, hsettle⟩ := isAtRest_of_leads .empty le_rfl hu (by decide +kernel)
  -- Both requests start over, and so do two of the rematches, as the third is
  -- below the floor of the second. The outlet has room for what is sent.
  have hfree : ¬u.settle.IsHeldUp := by
    rintro ⟨action, hbusy, -⟩
    have hnone : u.settle.outbox = none := by decide +kernel
    cases hnone.symm.trans hbusy
  refine ⟨u, hu, rfl, rfl, rfl, fun n v hv => ?_, hrests, hsettle.resolve_right hfree,
    by decide +kernel, by decide +kernel, by decide +kernel, by decide +kernel⟩
  obtain ⟨hsteps, hsubscribes, -⟩ := hruns n v hv
  exact ⟨hsteps.trans (by decide +kernel), hsubscribes⟩

/-- Where a delay takes no time, a watch that finds no status goes on after its workload. -/
example :
    (((create (Session.fresh ⟨7⟩ ⟨.fill 0xc1, .fill 0x01⟩ .creator) (.ofRange 0 0) .empty
      (.ofCapacity 4) []).accept .start).settle.step?).isSome = true := by
  decide +kernel

end Watch

end ShuffleWatch
