import ShuffleWatch.Proofs.Watch.Display

/-!
# Watches at rest

What a watch waits for when there is nothing to do, said without the steps that it takes
(`IsAtRest`). A watch that was started and can take no step is at rest, unless a full outlet
holds up an action (`isAtRest_or_isHeldUp`), and one at rest can take no step
(`IsAtRest.not_step`). Once the application has taken its actions nothing is held up, so then
the watches that can take no step are those at rest (`isAtRest_iff`).
-/

namespace ShuffleWatch

namespace Outlet

/-- Only an open outlet without room holds an action up. -/
theorem snd_send_eq_full_iff {o : Outlet} {action : Action} :
    (o.send action).2 = .full ↔ o.isOpen = true ∧ o.capacity ≤ o.queue.length := by
  rw [send]
  cases o.isOpen with
  | false => simp
  | true =>
    by_cases hroom : o.queue.length < o.capacity
    · simp [hroom]
    · simp [hroom, Nat.not_lt.1 hroom]

theorem capacity_send (o : Outlet) (action : Action) :
    (o.send action).1.capacity = o.capacity := by
  rw [send]
  split
  · rfl
  · split <;> rfl

end Outlet

namespace Watch

/-- The watch serves its mailbox, in which nothing waits. -/
structure AwaitsRequests (w : Watch) : Prop where
  isKilled_eq : w.isKilled = false
  outbox_eq : w.outbox = none
  waiting_eq : w.mailbox.waiting = []
  isOpen_eq : w.mailbox.isOpen = true

/-- There is nothing to do for the watch. -/
inductive IsAtRest (w : Watch) : Prop
  /-- It waits for its feed, and for requests. -/
  | feed {feed : Nat} : w.AwaitsRequests → w.phase = .following feed →
      (w.access.next feed).2 = .pending → IsAtRest w
  /-- It waits until it may start over, and for requests. -/
  | retry {due : Duration} : w.AwaitsRequests → w.phase = .waiting due → w.clock < due → IsAtRest w
  /-- It has ended. -/
  | stopped : w.phase = .stopped → IsAtRest w

/-- An action is on its way for which there is no room. -/
def IsHeldUp (w : Watch) : Prop :=
  ∃ action, w.outbox = some action ∧ (w.outlet.send action).2 = .full

variable {v w : Watch} {feed : Nat} {due : Duration}

/-! ## Without a step -/

theorem awaitsRequests_of_serveNext? (hkilled : w.isKilled = false) (houtbox : w.outbox = none)
    (h : w.serveNext? = none) : w.AwaitsRequests := by
  rw [serveNext?] at h
  split at h
  · cases h
  · rename_i hwaiting
    split at h
    · exact ⟨hkilled, houtbox, hwaiting, ‹_›⟩
    · cases h

theorem isAtRest_of_proceed? (hstarted : w.phase ≠ .idle) (hkilled : w.isKilled = false)
    (houtbox : w.outbox = none) (h : w.proceed? = none) : w.IsAtRest := by
  rw [proceed?] at h
  -- A feed is to be opened at once, so only a feed with nothing in
  -- it, a wait that goes on and the end leave a watch at rest.
  cases hphase : w.phase with
  | idle => exact absurd hphase hstarted
  | connecting =>
    rw [hphase] at h
    cases h
  | following feed =>
    rw [hphase] at h
    change w.follow? feed = none at h
    rw [follow?] at h
    split at h
    · cases h
    · cases h
    · rename_i hnext
      exact .feed (awaitsRequests_of_serveNext? hkilled houtbox h) hphase (congrArg Prod.snd hnext)
  | waiting due =>
    rw [hphase] at h
    change w.wait? due = none at h
    rw [wait?, Option.or_eq_none_iff] at h
    obtain ⟨hserve, hwait⟩ := h
    split at hwait
    · cases hwait
    · rename_i hlater
      exact .retry (awaitsRequests_of_serveNext? hkilled houtbox hserve) hphase
        (Nat.not_le.1 hlater)
  | stopped => exact .stopped hphase

/-- A watch that was started has something to do, unless it is at rest or held up. -/
theorem isAtRest_or_isHeldUp (hstarted : w.phase ≠ .idle) (h : w.step? = none) :
    w.IsAtRest ∨ w.IsHeldUp := by
  rw [step?] at h
  -- The choices of a step in their order: whether the watch runs,
  -- whether it was killed, and whether an action is under way.
  split at h
  · rename_i hidle
    have hstopped : w.phase = .stopped := by simpa [isRunning, hstarted] using hidle
    exact .inl (.stopped hstopped)
  split at h
  · cases h
  rename_i hkilled
  cases houtbox : w.outbox with
  | none =>
    rw [houtbox] at h
    exact .inl (isAtRest_of_proceed? hstarted (Bool.eq_false_iff.2 hkilled) houtbox h)
  | some action =>
    rw [houtbox] at h
    change w.dispatch? action = none at h
    rw [dispatch?] at h
    split at h
    · rename_i hsend
      exact .inr ⟨action, houtbox, congrArg Prod.snd hsend⟩
    · cases h

/-! ## At rest -/

/-- A step of a watch in whose mailbox nothing waits opens a feed, or comes of what is found in
    the feed or of the end of a wait. -/
theorem AwaitsRequests.phase_of_step (h : w.AwaitsRequests) (hstep : Step w v) :
    w.phase = .connecting ∨
      (∃ feed, w.phase = .following feed ∧ (w.access.next feed).2 ≠ .pending) ∨
      ∃ due, w.phase = .waiting due ∧ due ≤ w.clock := by
  -- Without a request, an action or a reason to stop, what remains are the steps of the phase.
  cases hstep.turn with
  | stop hwhy =>
    rw [h.isKilled_eq, h.isOpen_eq] at hwhy
    simp at hwhy
  | dispatch _ houtbox _ _ => cases h.outbox_eq.symm.trans houtbox
  | connect _ _ hphase => exact .inl hphase
  | take _ _ hphase hnext => exact .inr (.inl ⟨_, hphase, by rw [hnext]; simp⟩)
  | lose _ _ hphase hnext => exact .inr (.inl ⟨_, hphase, by rw [hnext]; simp⟩)
  | attend _ _ hwaiting _ => cases h.waiting_eq.symm.trans hwaiting
  | wake _ _ hphase hdue => exact .inr (.inr ⟨_, hphase, hdue⟩)

/-- A watch at rest does nothing by itself. -/
theorem IsAtRest.not_step (h : w.IsAtRest) : ¬Step w v := by
  intro hstep
  -- The phase excludes all steps but one, and that one by what the watch waits for.
  cases h with
  | feed hawaits hphase hpending =>
    rcases hawaits.phase_of_step hstep with hphase' | ⟨feed', hphase', hfound⟩ | ⟨due, hphase', -⟩
    · cases hphase.symm.trans hphase'
    · cases hphase.symm.trans hphase'
      exact hfound hpending
    · cases hphase.symm.trans hphase'
  | retry hawaits hphase hlater =>
    rcases hawaits.phase_of_step hstep with hphase' | ⟨feed, hphase', -⟩ | ⟨due', hphase', hdue⟩
    · cases hphase.symm.trans hphase'
    · cases hphase.symm.trans hphase'
    · cases hphase.symm.trans hphase'
      exact Nat.not_le.2 hlater hdue
  | stopped hphase => exact not_step_of_stopped hphase hstep

/-! ## With an outlet that is emptied -/

/-- There is room in an outlet that was emptied. -/
theorem not_isHeldUp_takeActions (hcapacity : 0 < w.outlet.capacity) :
    ¬(w.accept .takeActions).IsHeldUp := by
  rintro ⟨action, -, hfull⟩
  have hle : w.outlet.capacity ≤ ([] : List Action).length := (Outlet.snd_send_eq_full_iff.1 hfull).2
  exact Nat.not_le.2 hcapacity hle

/-- The outlet makes no difference to a watch at rest. -/
theorem IsAtRest.withOutlet (h : w.IsAtRest) (outlet : Outlet) :
    ({ w with outlet := outlet } : Watch).IsAtRest := by
  have hawaits (h : w.AwaitsRequests) : ({ w with outlet := outlet } : Watch).AwaitsRequests :=
    ⟨h.isKilled_eq, h.outbox_eq, h.waiting_eq, h.isOpen_eq⟩
  cases h with
  | feed h hphase hpending => exact .feed (hawaits h) hphase hpending
  | retry h hphase hlater => exact .retry (hawaits h) hphase hlater
  | stopped hphase => exact .stopped hphase

/-- A watch that was started is at rest if there is nothing to do for it once its actions are
    taken, and only then. -/
theorem isAtRest_iff (hstarted : w.phase ≠ .idle) (hcapacity : 0 < w.outlet.capacity) :
    w.IsAtRest ↔ ∀ v, ¬Step (w.accept .takeActions) v := by
  constructor
  · intro h v
    exact (h.withOutlet { w.outlet with queue := [] }).not_step
  · intro h
    have hstep : (w.accept .takeActions).step? = none :=
      Option.eq_none_iff_forall_not_mem.2 fun v hv => h v (.step hv)
    have hrest : (w.accept .takeActions).IsAtRest :=
      (isAtRest_or_isHeldUp (w := w.accept .takeActions) hstarted hstep).resolve_right
        (not_isHeldUp_takeActions hcapacity)
    exact hrest.withOutlet w.outlet

end Watch

end ShuffleWatch
