import ShuffleWatch.Proofs.Backoff.Delays
import ShuffleWatch.Proofs.Session.Course
import ShuffleWatch.Proofs.Watch.Service

/-!
# Waits between attempts

A watch waits after every attempt that fails, and only then. What makes an attempt fail is said
without what the watch does about it (`Mishap`), and so is what makes one succeed (`Attaches`).
The failures since the last success are counted along a run (`LeadsAfter`), and the base delay
is always the one after so many failures (`LeadsAfter.backoff_eq`), as only a failure and a
success change it (`frame_of_step`). From this it follows how long the watch waits
(`waits_of_leadsAfter`).
-/

namespace ShuffleWatch.Watch

/-- The status of the game cannot be read, or there is none. -/
def LacksStatus (w : Watch) : Prop :=
  w.access.statusFault ≠ none ∨ w.access.chain.statusOf w.session.game = none

/-- What makes an attempt fail. -/
inductive Mishap (w : Watch) : Prop
  /-- No feed can be opened. -/
  | subscribe : w.phase = .connecting → w.access.subscribeFault ≠ none → Mishap w
  /-- A feed can be opened, but there is no status to adopt. -/
  | read : w.phase = .connecting → w.access.subscribeFault = none → w.LacksStatus → Mishap w
  /-- The feed has come to an end. -/
  | lose {feed : Nat} : w.phase = .following feed → (w.access.next feed).2 = .ended → Mishap w
  /-- The feed delivers that the connection is lost. -/
  | disconnect {feed : Nat} {f : Fault} : w.phase = .following feed →
      (w.access.next feed).2 = .item (.fault f) → f.losesConnection = true → Mishap w
  /-- The feed delivers the rematch that begins an epoch, for which there is no status. -/
  | reread {feed : Nat} {e : Entry} : w.phase = .following feed →
      (w.access.next feed).2 = .item (.entry e) → w.session.takesRematch e = true →
      w.LacksStatus → Mishap w

/-- What the watch does next is an attempt that fails. -/
structure Fails (w : Watch) : Prop where
  isKilled_eq : w.isKilled = false
  outbox_eq : w.outbox = none
  mishap : w.Mishap

/-- What the watch does next is to open a feed and to adopt a status. -/
structure Attaches (w : Watch) : Prop where
  isKilled_eq : w.isKilled = false
  outbox_eq : w.outbox = none
  phase_eq : w.phase = .connecting
  subscribeFault_eq : w.access.subscribeFault = none
  hasStatus : ¬w.LacksStatus

/-- The watches that steps and happenings lead to, with the number of attempts that have failed
    since a feed was opened and a status adopted last, or since the beginning. -/
inductive LeadsAfter (w : Watch) : Nat → Watch → Prop
  | refl : LeadsAfter w 0 w
  | accept {n : Nat} {u : Watch} (input : Input) : LeadsAfter w n u →
      LeadsAfter w n (u.accept input)
  | fail {n : Nat} {u v : Watch} : LeadsAfter w n u → Step u v → u.Fails → LeadsAfter w (n + 1) v
  | attach {n : Nat} {u v : Watch} : LeadsAfter w n u → Step u v → u.Attaches → LeadsAfter w 0 v
  | other {n : Nat} {u v : Watch} : LeadsAfter w n u → Step u v → ¬u.Fails → ¬u.Attaches →
      LeadsAfter w n v

/-- The only step that the watch `w` can take leads to `v`. -/
def StepsOnlyTo (w v : Watch) : Prop := ∀ v', Step w v' ↔ v' = v

/-- The watch `v` waits for as long as `u` has to after a failed attempt. -/
structure WaitsAfter (u v : Watch) : Prop where
  phase_eq : v.phase = .waiting (u.clock + (u.backoff.next u.draws).1)
  backoff_eq : v.backoff = (u.backoff.next u.draws).2.1

/-- The watch waits until `due`, or until it is stopped. -/
structure WaitsOut (w : Watch) (due : Duration) : Prop where
  accept (input : Input) : (w.accept input).phase = .waiting due
  step {v : Watch} : Step w v → v.phase = .waiting due ∨
    due ≤ w.clock ∧ v = { w with phase := .connecting } ∨
    v = w.stop ∧ (w.isKilled = true ∨ w.mailbox.waiting = [] ∧ w.mailbox.isOpen = false)
  wake : due ≤ w.clock → w.isKilled = false → Step w { w with phase := .connecting }

variable {u v w : Watch} {feed n : Nat} {due : Duration} {item : Item}

theorem stepsOnlyTo (h : w.step? = some v) (hphase : ∀ due, w.phase ≠ .waiting due) :
    w.StepsOnlyTo v := by
  refine fun v' => ⟨fun hstep => ?_, fun hv => hv ▸ .step h⟩
  cases hstep with
  | step h' => exact Option.some.inj (h'.symm.trans h)
  | resume hwaiting _ _ _ => exact absurd hwaiting (hphase _)

/-- An attempt fails while a feed is opened, or over what is found in the one that is followed. -/
theorem Mishap.phase_eq (h : w.Mishap) : w.phase = .connecting ∨
    ∃ feed, w.phase = .following feed ∧ (w.access.next feed).2 ≠ .pending := by
  cases h with
  | subscribe hphase _ => exact .inl hphase
  | read hphase _ _ => exact .inl hphase
  | @lose feed hphase hended => exact .inr ⟨feed, hphase, by simp [hended]⟩
  | @disconnect feed _ hphase hitem _ => exact .inr ⟨feed, hphase, by simp [hitem]⟩
  | @reread feed _ hphase hitem _ _ => exact .inr ⟨feed, hphase, by simp [hitem]⟩

/-! ## Reading the status -/

theorem resync_eq_false_iff : w.resync.2 = false ↔ w.LacksStatus := by
  rw [resync, Access.readStatus, LacksStatus]
  cases w.access.statusFault with
  | some fault => simp
  | none =>
    dsimp only
    cases w.access.chain.statusOf w.session.game <;> simp

theorem exists_status (h : ¬w.LacksStatus) : w.access.statusFault = none ∧
    ∃ status, w.access.chain.statusOf w.session.game = some status := by
  rw [LacksStatus, not_or, not_not] at h
  exact ⟨h.1, Option.ne_none_iff_exists'.1 h.2⟩

/-- Reading the status takes no time, and changes no delay. -/
theorem backoff_resync : w.resync.1.backoff = w.backoff ∧ w.resync.1.draws = w.draws ∧
    w.resync.1.clock = w.clock := by
  obtain ⟨_, _, _, _, hread⟩ := updates_resync w
  rw [hread]
  exact ⟨rfl, rfl, rfl⟩

theorem waitsAfter_backOff (hbackoff : w.backoff = u.backoff) (hdraws : w.draws = u.draws)
    (hclock : w.clock = u.clock) : u.WaitsAfter w.backOff where
  phase_eq := by rw [← hbackoff, ← hdraws, ← hclock]; rfl
  backoff_eq := by rw [← hbackoff, ← hdraws]; rfl

/-- If there is no status to adopt, the watch waits. -/
theorem waitsAfter_resync : w.WaitsAfter (w.resync.1.giveUp feed) := by
  obtain ⟨hbackoff, hdraws, hclock⟩ := backoff_resync (w := w)
  exact waitsAfter_backOff hbackoff hdraws hclock

/-! ## Failures -/

theorem waitsAfter_attach (h : w.LacksStatus) : w.WaitsAfter (w.attach feed) := by
  let u : Watch := { w with session := w.session.awaitBacklog }
  have hread : u.resync.2 = false := resync_eq_false_iff.2 h
  have hwaits : u.WaitsAfter (u.resync.1.giveUp feed) := waitsAfter_resync
  rw [attach]
  dsimp only
  rw [hread]
  exact ⟨hwaits.phase_eq, hwaits.backoff_eq⟩

theorem waitsAfter_connect (h : w.access.subscribeFault ≠ none ∨ w.LacksStatus) :
    w.WaitsAfter w.connect := by
  cases hsubscribe : w.access.subscribeFault with
  -- A feed that does not open costs a delay at once.
  | some fault =>
    rw [connect, Access.subscribe, hsubscribe]
    exact waitsAfter_backOff rfl rfl rfl
  | none =>
    -- The feed opens, so it is the status that is missing. The watch that opened it differs from
    -- `w` in neither the delays nor the clock, hence the bounds of its wait are those of `w`.
    let access : Access := { w.access with
      chain := (w.access.chain.subscribe w.filter).1
      subscribeFault := none
      subscribes := w.access.subscribes + 1 }
    have hopened : w.access.subscribe w.filter = (access, .ok w.access.chain.opened) := by
      rw [Access.subscribe, hsubscribe]
      rfl
    let u : Watch := { w with access := access }
    have hwaits : u.WaitsAfter (u.attach w.access.chain.opened) :=
      waitsAfter_attach (h.resolve_left (not_not.2 hsubscribe))
    rw [connect, hopened]
    exact ⟨hwaits.phase_eq, hwaits.backoff_eq⟩

/-- A look at the feed does not change whether there is a status. -/
theorem lacksStatus_next {access : Access} {found : Next}
    (hnext : w.access.next feed = (access, found)) :
    ({ w with access := access } : Watch).LacksStatus ↔ w.LacksStatus := by
  have hfault : access.statusFault = w.access.statusFault :=
    congrArg (·.1.statusFault) hnext.symm
  have hstatus := Chain.statusOf_next (next_eq_of_access hnext)
  rw [LacksStatus, LacksStatus, hfault, hstatus]

theorem take_of_disconnected (h : (w.session.receive item).2 = .disconnected) :
    w.take feed item = giveUp { w with
      session := (w.session.receive item).1, condition := some .connectionLost } feed := by
  rw [take]
  rcases hreceive : w.session.receive item with ⟨s, verdict⟩
  rw [hreceive] at h
  obtain rfl : verdict = .disconnected := h
  rfl

theorem take_of_reset (h : (w.session.receive item).2 = .reset) (hu : u =
    { w with session := (w.session.receive item).1 }) :
    w.take feed item = if u.resync.2 then u.resync.1 else u.resync.1.giveUp feed := by
  rw [take, hu]
  rcases hreceive : w.session.receive item with ⟨s, verdict⟩
  rw [hreceive] at h
  obtain rfl : verdict = .reset := h
  rfl

/-- An epoch that an item begins is one of the same game. -/
theorem lacksStatus_receive (hu : u = { w with session := (w.session.receive item).1 }) :
    u.LacksStatus ↔ w.LacksStatus := by
  have hgame : (w.session.receive item).1.game = w.session.game :=
    Session.game_perform (.receive item)
  rw [LacksStatus, LacksStatus, hu, hgame]

/-- If an item tells that the connection is lost, or begins an epoch for which there is no
    status, the watch waits. -/
theorem waitsAfter_take (h : (w.session.receive item).2 = .disconnected ∨
    (w.session.receive item).2 = .reset ∧ w.LacksStatus) : w.WaitsAfter (w.take feed item) := by
  rcases h with h | ⟨h, hlacks⟩
  · rw [take_of_disconnected h]
    exact waitsAfter_backOff rfl rfl rfl
  · obtain ⟨u, hu⟩ : ∃ u, u = { w with session := (w.session.receive item).1 } := ⟨_, rfl⟩
    have hwaits : u.WaitsAfter (u.resync.1.giveUp feed) := waitsAfter_resync
    rw [take_of_reset h hu, resync_eq_false_iff.2 ((lacksStatus_receive hu).2 hlacks)]
    rw [hu] at hwaits ⊢
    exact ⟨hwaits.phase_eq, hwaits.backoff_eq⟩

/-- If it does neither, the watch stays with its feed, and changes no delay. -/
theorem frame_take (hlost : (w.session.receive item).2 ≠ .disconnected)
    (hreset : (w.session.receive item).2 = .reset → ¬w.LacksStatus) :
    (w.take feed item).phase = w.phase ∧ (w.take feed item).backoff = w.backoff ∧
      (w.take feed item).draws = w.draws := by
  by_cases hverdict : (w.session.receive item).2 = .reset
  · -- An epoch that begins reads the status. Here there is
    -- one, and reading it leaves the delays as they are.
    obtain ⟨u, hu⟩ : ∃ u, u = { w with session := (w.session.receive item).1 } := ⟨_, rfl⟩
    have hread : u.resync.2 = true := by
      rw [← Bool.not_eq_false, resync_eq_false_iff, lacksStatus_receive hu]
      exact hreset hverdict
    obtain ⟨hbackoff, hdraws, -⟩ := backoff_resync (w := u)
    rw [take_of_reset hverdict hu, hread, if_pos rfl, (resync_frame u).2.1, hbackoff, hdraws, hu]
    exact ⟨rfl, rfl, rfl⟩
  · rw [take]
    rcases hreceive : w.session.receive item with ⟨s, verdict⟩
    rw [hreceive] at hlost hverdict
    cases verdict with
    | disconnected => exact absurd rfl hlost
    | reset => exact absurd rfl hverdict
    | _ => exact ⟨rfl, rfl, rfl⟩

/-- After a failed attempt the watch waits. -/
theorem Fails.exists_waitsAfter (h : w.Fails) : ∃ v, w.StepsOnlyTo v ∧ w.WaitsAfter v := by
  obtain ⟨hkilled, houtbox, hmishap⟩ := h
  have hconnect (hphase : w.phase = .connecting) : w.StepsOnlyTo w.connect :=
    stepsOnlyTo (step?_of_connecting hkilled houtbox hphase) (by simp [hphase])
  have htake {feed : Nat} {item : Item} {u : Watch} (hphase : w.phase = .following feed)
      (hitem : (w.access.next feed).2 = .item item)
      (hu : u = { w with access := (w.access.next feed).1 })
      (hwaits : u.WaitsAfter (u.take feed item)) : ∃ v, w.StepsOnlyTo v ∧ w.WaitsAfter v := by
    subst hu
    refine ⟨_, stepsOnlyTo ?_ (by simp [hphase]), hwaits.phase_eq, hwaits.backoff_eq⟩
    rw [step?_of_following hkilled houtbox hphase, follow?,
      show w.access.next feed = ((w.access.next feed).1, .item item) from Prod.ext rfl hitem]
  -- Each mishap decides which step comes next, and that it ends in a wait.
  cases hmishap with
  | subscribe hphase hfault => exact ⟨_, hconnect hphase, waitsAfter_connect (.inl hfault)⟩
  | read hphase _ hlacks => exact ⟨_, hconnect hphase, waitsAfter_connect (.inr hlacks)⟩
  | @lose feed hphase hended =>
    have hstep : w.step? = some (w.lose.giveUp feed) := by
      rw [step?_of_following hkilled houtbox hphase, follow?,
        show w.access.next feed = ((w.access.next feed).1, .ended) from Prod.ext rfl hended]
    exact ⟨_, stepsOnlyTo hstep (by simp [hphase]), waitsAfter_backOff rfl rfl rfl⟩
  | disconnect hphase hitem hloses =>
    exact htake hphase hitem rfl
      (waitsAfter_take (.inl (Session.receive_eq_disconnected_iff.2 ⟨_, rfl, hloses⟩)))
  | reread hphase hitem hrematch hlacks =>
    exact htake hphase hitem rfl
      (waitsAfter_take (.inr ⟨Session.receive_eq_reset_iff.2 ⟨_, rfl, hrematch⟩,
        (lacksStatus_next rfl).2 hlacks⟩))

/-! ## Successes -/

/-- A watch that is about to open a feed fails, or it succeeds. -/
theorem fails_or_attaches (hkilled : w.isKilled = false) (houtbox : w.outbox = none)
    (hphase : w.phase = .connecting) : w.Fails ∨ w.Attaches := by
  cases hsubscribe : w.access.subscribeFault with
  | some fault => exact .inl ⟨hkilled, houtbox, .subscribe hphase (by simp [hsubscribe])⟩
  | none =>
    by_cases hlacks : w.LacksStatus
    · exact .inl ⟨hkilled, houtbox, .read hphase hsubscribe hlacks⟩
    · exact .inr ⟨hkilled, houtbox, hphase, hsubscribe, hlacks⟩

/-- After a success the watch follows a feed, and the delays start over. -/
theorem Attaches.exists_reset (h : w.Attaches) : ∃ v, w.StepsOnlyTo v ∧
    v.phase = .following w.access.chain.opened ∧ v.backoff = w.backoff.reset := by
  obtain ⟨hfault, status, hstatus⟩ := exists_status h.hasStatus
  refine ⟨_, stepsOnlyTo (step?_of_connecting h.isKilled_eq h.outbox_eq h.phase_eq)
    (by simp [h.phase_eq]), ?_⟩
  rw [connect_eq h.subscribeFault_eq hfault hstatus]
  exact ⟨rfl, rfl⟩

/-! ## Other steps -/

/-- Only a watch that follows a feed is made to start over by a request. -/
theorem frame_attend {ticket : Nat} {r : Request} :
    (w.attend ticket r).backoff = w.backoff ∧ (w.attend ticket r).draws = w.draws ∧
      ((w.attend ticket r).phase = w.phase ∨
        (∃ feed, w.phase = .following feed) ∧ (w.attend ticket r).phase = .connecting) := by
  obtain ⟨s, reply, heq | ⟨feed, hphase, heq⟩⟩ := w.attend_eq ticket r
  · rw [heq]
    exact ⟨rfl, rfl, .inl rfl⟩
  · rw [heq]
    exact ⟨rfl, rfl, .inr ⟨⟨feed, hphase⟩, rfl⟩⟩

/-- A step in which no attempt fails or succeeds changes no delay, and begins no wait. -/
theorem frame_of_step (h : Step w v) (hfails : ¬w.Fails) (hattaches : ¬w.Attaches) :
    v.backoff = w.backoff ∧ v.draws = w.draws ∧
      ∀ due, v.phase = .waiting due → w.phase = .waiting due := by
  -- A turn that opens or loses a feed is an attempt, and one that takes an item is none only if
  -- the item neither tells that the connection is lost nor makes the watch read in vain.
  cases h.turn with
  | stop _ =>
    rw [stop]
    refine ⟨?_, ?_, fun _ h => by cases h⟩
    · split <;> rfl
    · split <;> rfl
  | dispatch _ _ _ _ => exact ⟨rfl, rfl, fun _ hdue => hdue⟩
  | connect hkilled houtbox hphase =>
    rcases fails_or_attaches hkilled houtbox hphase with h | h
    · exact absurd h hfails
    · exact absurd h hattaches
  | @take feed access item hkilled houtbox hphase hnext =>
    have hitem : (w.access.next feed).2 = .item item := congrArg Prod.snd hnext
    have hlost : (w.session.receive item).2 ≠ .disconnected := by
      intro hlost
      obtain ⟨f, rfl, hloses⟩ := Session.receive_eq_disconnected_iff.1 hlost
      exact hfails ⟨hkilled, houtbox, .disconnect hphase hitem hloses⟩
    have hread : (w.session.receive item).2 = .reset →
        ¬({ w with access := access } : Watch).LacksStatus := by
      intro hreset hlacks
      obtain ⟨e, rfl, hrematch⟩ := Session.receive_eq_reset_iff.1 hreset
      exact hfails ⟨hkilled, houtbox,
        .reread hphase hitem hrematch ((lacksStatus_next hnext).1 hlacks)⟩
    obtain ⟨hphase', hbackoff, hdraws⟩ := frame_take (w := { w with access := access }) hlost hread
    exact ⟨hbackoff, hdraws, fun due hdue => hphase'.symm.trans hdue⟩
  | lose hkilled houtbox hphase hnext =>
    exact absurd ⟨hkilled, houtbox, .lose hphase (congrArg Prod.snd hnext)⟩ hfails
  | attend _ _ _ _ =>
    obtain ⟨hbackoff, hdraws, hphase⟩ := frame_attend
    refine ⟨hbackoff, hdraws, fun due hdue => ?_⟩
    rcases hphase with hphase | ⟨-, hphase⟩
    · exact hphase.symm.trans hdue
    · cases hphase.symm.trans hdue
  | wake _ _ _ _ => exact ⟨rfl, rfl, fun _ hdue => by cases hdue⟩

/-- A step in which a request is answered is no attempt. -/
theorem not_attempt_of_answers (h : Step w v)
    (hanswers : v.mailbox.replies ≠ w.mailbox.replies) : ¬w.Fails ∧ ¬w.Attaches := by
  obtain ⟨ticket, r, rest, hkilled, houtbox, -, hpending, -⟩ := h.exists_attend hanswers
  have hconnecting : w.phase ≠ .connecting := by
    intro hphase
    have honly : w.StepsOnlyTo w.connect :=
      stepsOnlyTo (step?_of_connecting hkilled houtbox hphase) (by simp [hphase])
    rw [(honly v).1 h] at hanswers
    exact hanswers (replies_eq_of_ends ends_connect)
  refine ⟨fun hfails => ?_, fun hattaches => hconnecting hattaches.phase_eq⟩
  rcases hfails.mishap.phase_eq with hphase | ⟨feed, hphase, hfound⟩
  · exact hconnecting hphase
  · exact hfound (hpending feed hphase)

/-! ## Waiting -/

/-- An action is under way only while a feed is followed. -/
theorem following_of_outbox (h : w.Leads u) (hw : w.outbox = none) (hu : u.outbox ≠ none) :
    ∃ feed, u.phase = .following feed := by
  induction h with
  | refl => exact absurd hw hu
  | step _ hstep _ =>
    -- Only a watch that attaches to a feed or follows one fills its outbox.
    cases hstep.move with
    | attach _ hphase _ _ _ => exact ⟨_, hphase⟩
    | take _ _ hphase _ _ _ => exact ⟨_, hphase⟩
    | resync _ _ hphase _ _ _ => exact ⟨_, hphase⟩
    | stay _ _ _ houtbox => exact absurd houtbox hu
    | leave _ _ _ _ _ houtbox => exact absurd houtbox hu
  | @accept t input _ ih =>
    rw [(accept_frame t input).outbox_eq] at hu
    obtain ⟨feed, hphase⟩ := ih hu
    exact ⟨feed, (following_accept_iff t input).2 hphase⟩

theorem step_of_waiting (h : Step w v) (hphase : w.phase = .waiting due) :
    v.phase = .waiting due ∨ due ≤ w.clock ∧ v = { w with phase := .connecting } ∨
      v = w.stop ∧ (w.isKilled = true ∨ w.mailbox.waiting = [] ∧ w.mailbox.isOpen = false) := by
  cases h.turn with
  | stop hwhy => exact .inr (.inr ⟨rfl, hwhy⟩)
  | dispatch _ _ _ _ => exact .inl hphase
  | connect _ _ hconnecting => cases hphase.symm.trans hconnecting
  | take _ _ hfollowing _ => cases hphase.symm.trans hfollowing
  | lose _ _ hfollowing _ => cases hphase.symm.trans hfollowing
  -- A request may begin an epoch, but only from a feed does that change the phase.
  | attend _ _ _ _ =>
    rcases frame_attend.2.2 with hsame | ⟨⟨feed, hfollowing⟩, -⟩
    · exact .inl (hsame.trans hphase)
    · cases hphase.symm.trans hfollowing
  | wake _ _ hwaiting hdue =>
    cases hphase.symm.trans hwaiting
    exact .inr (.inl ⟨hdue, rfl⟩)

theorem waitsOut (hphase : w.phase = .waiting due) (houtbox : w.outbox = none) :
    w.WaitsOut due where
  accept input := (waiting_accept_iff w input).2 hphase
  step h := step_of_waiting h hphase
  wake hdue hkilled := .resume hphase hdue hkilled houtbox

/-! ## Runs -/

/-- No attempt both fails and succeeds, so there is only one way to count it. -/
theorem Fails.not_attaches (h : w.Fails) : ¬w.Attaches := by
  intro hattaches
  cases h.mishap with
  | subscribe _ hfault => exact hfault hattaches.subscribeFault_eq
  | read _ _ hlacks => exact hattaches.hasStatus hlacks
  | lose hphase _ => cases hphase.symm.trans hattaches.phase_eq
  | disconnect hphase _ _ => cases hphase.symm.trans hattaches.phase_eq
  | reread hphase _ _ _ => cases hphase.symm.trans hattaches.phase_eq

namespace LeadsAfter

theorem leads (h : w.LeadsAfter n u) : w.Leads u := by
  induction h with
  | refl => exact .refl
  | accept input _ ih => exact .accept input ih
  | fail _ hstep _ ih => exact .step ih hstep
  | attach _ hstep _ ih => exact .step ih hstep
  | other _ hstep _ _ ih => exact .step ih hstep

/-- No attempt is made while the watch waits. -/
theorem step_of_waiting (h : w.LeadsAfter n u) (hstep : Step u v)
    (hphase : u.phase = .waiting due) : w.LeadsAfter n v := by
  refine h.other hstep (fun hfails => ?_) fun hattaches => by
    cases hphase.symm.trans hattaches.phase_eq
  rcases hfails.mishap.phase_eq with hconnecting | ⟨feed, hfollowing, -⟩
  · cases hphase.symm.trans hconnecting
  · cases hphase.symm.trans hfollowing

/-- The base delay is the one after the failures since the last success. -/
theorem backoff_eq {least most : Nat} (hleast : least < UInt64.size) (hmost : most < UInt64.size)
    (hw : w.backoff = .afterFailures least most 0) (h : w.LeadsAfter n u) :
    u.backoff = .afterFailures least most n := by
  -- By induction on the run. A failure doubles the base delay and a success makes it start over,
  -- each in the only step there is then; nothing else changes it.
  induction h with
  | refl => exact hw
  | @accept n u input _ ih => exact (accept_frame u input).backoff_eq.trans ih
  | @fail n u v _ hstep hfails ih =>
    obtain ⟨v', honly, hwaits⟩ := hfails.exists_waitsAfter
    rw [(honly v).1 hstep, hwaits.backoff_eq, ih]
    exact Backoff.next_afterFailures hleast hmost _
  | @attach n u v _ hstep hattaches ih =>
    obtain ⟨v', honly, -, hreset⟩ := hattaches.exists_reset
    rw [(honly v).1 hstep, hreset, ih]
    exact Backoff.reset_afterFailures
  | other _ hstep hfails hattaches ih => exact (frame_of_step hstep hfails hattaches).1.trans ih

end LeadsAfter

/-- Every run has a number of failures since the last success. -/
theorem Leads.exists_leadsAfter (h : w.Leads u) : ∃ n, w.LeadsAfter n u := by
  induction h with
  | refl => exact ⟨0, .refl⟩
  | accept input _ ih =>
    obtain ⟨n, hn⟩ := ih
    exact ⟨n, .accept input hn⟩
  | @step u v _ hstep ih =>
    obtain ⟨n, hn⟩ := ih
    by_cases hfails : u.Fails
    · exact ⟨n + 1, .fail hn hstep hfails⟩
    by_cases hattaches : u.Attaches
    · exact ⟨0, .attach hn hstep hattaches⟩
    · exact ⟨n, .other hn hstep hfails hattaches⟩

/-- Waits are bounded, and only a success makes them short again. Take a watch after a run in
    which `n` attempts have failed since the last success, and let `d` be the shortest delay in
    milliseconds, doubled `n` times, or the longest one if that is less. The base delay is
    exactly `d`. If the next attempt fails, the watch waits after it, for between half of `d` and
    all of it, and for exactly `d` if that is at most 1. It begins to wait for no other reason,
    and waits until that time, whatever happens to it and whichever requests it serves, unless it
    is stopped. To serve a request is no attempt, and changes no delay. One that begins an epoch
    while a feed is followed makes the watch open another feed next. -/
theorem waits_of_leadsAfter {session : Session} {chain : Chain} {outlet : Outlet}
    {draws : List UInt64} {least most d : Nat} (hleast : least < UInt64.size)
    (hmost : most < UInt64.size)
    (h : (create session (.ofRange (.ofMillis least) (.ofMillis most)) chain outlet
      draws).LeadsAfter n u) (hd : d = min (least * 2 ^ n) (max least most)) :
    u.backoff.IsExact d ∧
    (u.Fails → ∃ v m, u.StepsOnlyTo v ∧ v.phase = .waiting (u.clock + .ofMillis m) ∧
      d / 2 ≤ m ∧ m ≤ d ∧ (d ≤ 1 → m = d)) ∧
    (∀ v due, Step u v → v.phase = .waiting due → u.phase = .waiting due ∨ u.Fails) ∧
    (∀ due, u.phase = .waiting due → u.WaitsOut due) ∧
    (u.phase = .connecting → u.isKilled = false → u.Fails ∨ u.Attaches) ∧
    (∀ v, Step u v → v.mailbox.replies ≠ u.mailbox.replies →
      ¬u.Fails ∧ ¬u.Attaches ∧ v.backoff = u.backoff) ∧
    ∀ feed ticket r rest s, u.phase = .following feed → u.IsListening →
      u.mailbox.waiting = (ticket, r) :: rest → r.renewal? u.session = some s →
      ∃ v, u.StepsOnlyTo v ∧ v.phase = .connecting ∧ v.StepsOnlyTo v.connect := by
  obtain rfl : d = Duration.millisAfter least most n := hd
  have hbackoff : u.backoff = .afterFailures least most n :=
    h.backoff_eq hleast hmost (Backoff.ofRange_ofMillis least most)
  -- Away from a feed no action is under way, so nothing
  -- stands between the watch and its next turn.
  have hidle (hphase : ∀ feed, u.phase ≠ .following feed) : u.outbox = none := by
    by_contra hbusy
    obtain ⟨feed, hfeed⟩ := following_of_outbox h.leads rfl hbusy
    exact hphase feed hfeed
  refine ⟨?_, fun hfails => ?_, fun v due hstep hdue => ?_, fun due hdue => ?_,
    fun hphase hkilled => ?_, fun v hstep hanswers => ?_,
    fun feed ticket r rest s hphase hlistens hwaiting hrenewal => ?_⟩
  · rw [hbackoff]
    exact Backoff.isExact_afterFailures hleast hmost
  · obtain ⟨v, honly, hwaits⟩ := hfails.exists_waitsAfter
    obtain ⟨m, hm, hbounds⟩ := Backoff.delay_afterFailures hleast hmost u.draws
    refine ⟨v, m, honly, ?_, hbounds⟩
    rw [hwaits.phase_eq, hbackoff, hm]
  · by_cases hfails : u.Fails
    · exact .inr hfails
    -- A wait that no failure began was there before. An
    -- attempt that succeeds does not end in one.
    by_cases hattaches : u.Attaches
    · obtain ⟨v', honly, hphase, -⟩ := hattaches.exists_reset
      rw [(honly v).1 hstep] at hdue
      cases hphase.symm.trans hdue
    · exact .inl ((frame_of_step hstep hfails hattaches).2.2 due hdue)
  · exact waitsOut hdue (hidle (by simp [hdue]))
  · exact fails_or_attaches hkilled (hidle (by simp [hphase])) hphase
  · obtain ⟨hfails, hattaches⟩ := not_attempt_of_answers hstep hanswers
    exact ⟨hfails, hattaches, (frame_of_step hstep hfails hattaches).1⟩
  · have hstep := (answersAs_of_following hwaiting hrenewal hphase).step?_eq hlistens
    exact ⟨_, stepsOnlyTo hstep (by simp [hphase]), rfl,
      stepsOnlyTo (step?_of_connecting hlistens.isKilled_eq hlistens.outbox_eq rfl) (by simp)⟩

/-- The delays are from 3 to 10 milliseconds, and there is no status of the game. After the
    second attempt the base delay would be 12 milliseconds. A request that is served during the
    first wait makes no difference. -/
theorem waits_of_leadsAfter_unknown :
    ∃ w first asked u v : Watch, ∃ m,
      w.backoff = .ofRange (.ofMillis 3) (.ofMillis 10) ∧ w.LeadsAfter 1 first ∧
      first.phase = .waiting 1000000 ∧ w.LeadsAfter 1 asked ∧ asked.session.epoch = 1 ∧
      asked.phase = .waiting 1000000 ∧ w.LeadsAfter 2 u ∧ u.Fails ∧ u.backoff.IsExact 10 ∧
      u.StepsOnlyTo v ∧ v.phase = .waiting (u.clock + .ofMillis m) ∧ 5 ≤ m ∧ m ≤ 10 := by
  let w := create (Session.fresh ⟨7⟩ ⟨.fill 0xc1, .fill 0x01⟩ .creator)
    (.ofRange (.ofMillis 3) (.ofMillis 10)) .empty (.ofCapacity 4) [0, -1, 0x8000000000000000]
  -- The game is unknown, so that every attempt fails. The request after the first one
  -- finds the watch waiting, and changes neither the delay nor its end.
  let started := w.accept .start
  let first := settleWithin 1 started
  let asked := settleWithin 1 (first.accept (.post .restart))
  let woken := settleWithin 1 (asked.accept (.elapse (.ofMillis 3)))
  let second := settleWithin 1 woken
  let u := settleWithin 1 (second.accept (.elapse (.ofMillis 6)))
  have hstarted : w.LeadsAfter 0 started := .accept .start .refl
  have hfirst : w.LeadsAfter 1 first := .fail hstarted (step_settleWithin (by decide +kernel))
    ⟨rfl, rfl, .read rfl rfl (.inr rfl)⟩
  have hphase : first.phase = .waiting 1000000 := by decide +kernel
  have hasked : w.LeadsAfter 1 asked := .step_of_waiting (.accept _ hfirst)
    (step_settleWithin (by decide +kernel)) ((waiting_accept_iff first _).2 hphase)
  have hphase' : asked.phase = .waiting 1000000 := by decide +kernel
  have hwoken : w.LeadsAfter 1 woken := .step_of_waiting (.accept _ hasked)
    (step_settleWithin (by decide +kernel)) ((waiting_accept_iff asked _).2 hphase')
  have hsecond : w.LeadsAfter 2 second := .fail hwoken (step_settleWithin (by decide +kernel))
    ⟨by decide +kernel, by decide +kernel, .read (by decide +kernel) (by decide +kernel)
      (.inr (by decide +kernel))⟩
  have hphase'' : second.phase = .waiting 8000000 := by decide +kernel
  have hu : w.LeadsAfter 2 u := .step_of_waiting (.accept _ hsecond)
    (step_settleWithin (by decide +kernel)) ((waiting_accept_iff second _).2 hphase'')
  have hfails : u.Fails := ⟨by decide +kernel, by decide +kernel, .read (by decide +kernel)
    (by decide +kernel) (.inr (by decide +kernel))⟩
  obtain ⟨hexact, hwaits, -⟩ :=
    waits_of_leadsAfter (d := 10) (by decide +kernel) (by decide +kernel) hu (by decide +kernel)
  obtain ⟨v, m, honly, hv, hhalf, hall, -⟩ := hwaits hfails
  exact ⟨w, first, asked, u, v, m, rfl, hfirst, hphase, hasked, by decide +kernel, hphase', hu,
    hfails, hexact, honly, hv, hhalf, hall⟩

end ShuffleWatch.Watch
