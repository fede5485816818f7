import ShuffleWatch.Proofs.Chain.Holding
import ShuffleWatch.Proofs.Session.Currency
import ShuffleWatch.Proofs.Watch.Grounds

/-!
# What a watch shows

What the application is shown agrees with what the watch does (`Displays`). A watch
that follows a feed holds this one alone, and shows no condition, a live link and a
known status; a watch that waits holds none, and shows why it waits. Whatever else
a watch does, it does with no feed in its hands, and shows nothing then.

Conditions, links and feeds are set in different places, so that is an invariant of
the turns of a watch, shown turn by turn (`Displays.turn`). It needs that a chain
never reports a status that is not known.
-/

namespace ShuffleWatch.Watch

/-- The watch shows why it waits: it lost its connection, or there is no such game. -/
def ExplainsWait (w : Watch) : Prop :=
  w.condition = some .connectionLost ∧ w.session.link = .lost ∨
    w.condition = some (.unknownGame w.session.game)

/-- What the watch shows agrees with what it does, and it holds no other feed than
    the one that it follows, of those opened when `n` were open or had been. -/
structure Displays (n : Nat) (w : Watch) : Prop where
  following : ∀ feed, w.phase = .following feed →
    w.access.chain.numbersSince n = [feed] ∧ w.condition = none ∧ w.session.IsCurrent
  apart : (∀ feed, w.phase ≠ .following feed) → w.access.chain.numbersSince n = []
  waiting : ∀ due, w.phase = .waiting due → w.ExplainsWait

/-- The status that the chain reports for the game, if any, is a known one. -/
def ReadsKnown (w : Watch) : Prop :=
  w.access.chain.statusOf w.session.game ≠ some .uninitialized

instance : DecidablePred ReadsKnown := fun w =>
  inferInstanceAs (Decidable (w.access.chain.statusOf w.session.game ≠ some .uninitialized))

variable {u v w : Watch} {n feed : Nat} {item : Item}

/-! ## Reading the status -/

/-- A status that is read is shown as it is, and so is why there is none. -/
theorem resync_shows (h : w.ReadsKnown) :
    w.resync.2 = true ∧ w.resync.1.condition = none ∧ w.resync.1.session.IsCurrent ∨
      w.resync.2 = false ∧ w.resync.1.ExplainsWait := by
  rw [resync, Access.readStatus]
  cases w.access.statusFault with
  | some fault => exact .inr ⟨rfl, .inl ⟨rfl, rfl⟩⟩
  | none =>
    dsimp only
    cases hstatus : w.access.chain.statusOf w.session.game with
    | none => exact .inr ⟨rfl, .inr rfl⟩
    | some status =>
      refine .inl ⟨rfl, rfl, Session.isCurrent_seed ?_⟩
      rw [ReadsKnown, hstatus] at h
      exact bne_iff_ne.2 fun heq => h (congrArg some heq)

/-- Serving a request changes no condition. -/
theorem condition_serve (w : Watch) (ticket : Nat) (r : Request) :
    (w.serve ticket r).1.condition = w.condition := by
  cases r with
  | rebind players self =>
    rw [serve]
    cases w.session.rebind players self <;> rfl
  | _ => rfl

/-! ## Turns -/

/-- A watch that follows the only feed that it holds shows that it is up to date. -/
theorem displays_of_following (hphase : w.phase = .following feed)
    (hnumbers : w.access.chain.numbersSince n = [feed]) (hcondition : w.condition = none)
    (hcurrent : w.session.IsCurrent) : w.Displays n where
  following feed' hfeed := by
    cases hphase.symm.trans hfeed
    exact ⟨hnumbers, hcondition, hcurrent⟩
  apart hne := absurd hphase (hne feed)
  waiting due hdue := by cases hphase.symm.trans hdue

/-- A watch that waits and holds no feed shows why it waits. -/
theorem displays_of_waiting {due : Duration} (hphase : w.phase = .waiting due)
    (hnumbers : w.access.chain.numbersSince n = []) (hexplains : w.ExplainsWait) :
    w.Displays n where
  following feed hfeed := by cases hphase.symm.trans hfeed
  apart _ := hnumbers
  waiting _ _ := hexplains

/-- A watch that neither follows a feed nor waits has nothing to show. -/
theorem displays_of_apart (hphase : w.phase = .idle ∨ w.phase = .connecting ∨ w.phase = .stopped)
    (hnumbers : w.access.chain.numbersSince n = []) : w.Displays n where
  following feed hfeed := by rcases hphase with h | h | h <;> cases h.symm.trans hfeed
  apart _ := hnumbers
  waiting due hdue := by rcases hphase with h | h | h <;> cases h.symm.trans hdue

/-- A watch that gives up the only feed that it holds waits, and shows why. -/
theorem displays_giveUp (hnumbers : w.access.chain.numbersSince n = [feed])
    (hexplains : w.ExplainsWait) : (w.giveUp feed).Displays n :=
  displays_of_waiting rfl (Chain.numbersSince_release_of_singleton hnumbers) hexplains

theorem displays_attach (hnumbers : w.access.chain.numbersSince n = [feed])
    (hknown : w.ReadsKnown) : (w.attach feed).Displays n := by
  rw [attach]
  generalize hu : ({ w with session := w.session.awaitBacklog } : Watch) = u
  have hnumbersu : u.resync.1.access.chain.numbersSince n = [feed] := by
    rw [(resync_frame u).1, ← hu]
    exact hnumbers
  have hknownu : u.ReadsKnown := by
    rw [← hu]
    exact hknown
  dsimp only
  -- A status that was read is shown as it is. Otherwise the
  -- watch shows why there is none, and waits.
  rcases resync_shows hknownu with ⟨hread, hcondition, hcurrent⟩ | ⟨hread, hexplains⟩
  · rw [if_pos hread]
    exact displays_of_following rfl hnumbersu hcondition hcurrent
  · rw [if_neg (Bool.eq_false_iff.1 hread)]
    exact displays_giveUp hnumbersu hexplains

namespace Displays

theorem connect (h : w.Displays n) (hknown : w.ReadsKnown) (hn : n ≤ w.access.chain.opened)
    (hphase : w.phase = .connecting) : w.connect.Displays n := by
  have hnumbers : w.access.chain.numbersSince n = [] :=
    h.apart fun _ hfeed => by cases hphase.symm.trans hfeed
  rw [Watch.connect, Access.subscribe]
  cases w.access.subscribeFault with
  | some fault => exact displays_of_waiting rfl hnumbers (.inl ⟨rfl, rfl⟩)
  | none =>
    refine displays_attach ?_ hknown
    change (w.access.chain.subscribe w.filter).1.numbersSince n = _
    rw [Chain.numbersSince_subscribe hn, hnumbers]
    rfl

theorem take {access : Access} (h : w.Displays n) (hknown : w.ReadsKnown)
    (hphase : w.phase = .following feed) (hnext : w.access.next feed = (access, .item item)) :
    ({ w with access := access }.take feed item).Displays n := by
  obtain ⟨hnumbers, hcondition, hcurrent⟩ := h.following feed hphase
  replace hnext := next_eq_of_access hnext
  rw [← Chain.numbersSince_next hnext] at hnumbers
  rw [Watch.take]
  have hgame := Session.game_perform (s := w.session) (.receive item)
  have hstays : (w.session.receive item).2 ≠ .reset → (w.session.receive item).2 ≠ .disconnected →
      (w.session.receive item).1.IsCurrent := hcurrent.receive
  have hlost : (w.session.receive item).2 = .disconnected →
      (w.session.receive item).1.link = .lost := Session.link_receive_of_disconnected
  change (w.session.receive item).1.game = _ at hgame
  generalize w.session.receive item = received at *
  obtain ⟨s, verdict⟩ := received
  -- Unless an epoch begins or the feed is lost, the watch stays with the feed.
  have hkept (hreset : verdict ≠ .reset) (hdisconnected : verdict ≠ .disconnected)
      (action : Option Action) :
      Displays n { w with access := access, session := s, outbox := action } :=
    displays_of_following hphase hnumbers hcondition (hstays hreset hdisconnected)
  dsimp only
  cases verdict with
  | changed action => exact hkept (by simp) (by simp) action
  | unchanged => exact hkept (by simp) (by simp) w.outbox
  | filtered why => exact hkept (by simp) (by simp) w.outbox
  | malformed => exact hkept (by simp) (by simp) w.outbox
  | disconnected => exact displays_giveUp hnumbers (.inl ⟨rfl, hlost rfl⟩)
  | reset =>
    generalize hu : ({ w with access := access, session := s } : Watch) = u
    have hphaseu : u.resync.1.phase = .following feed := by
      rw [(resync_frame u).2.1, ← hu]
      exact hphase
    have hnumbersu : u.resync.1.access.chain.numbersSince n = [feed] := by
      rw [(resync_frame u).1, ← hu]
      exact hnumbers
    have hknownu : u.ReadsKnown := by
      rw [← hu, ReadsKnown, Chain.statusOf_next hnext, hgame]
      exact hknown
    dsimp only
    rcases resync_shows hknownu with ⟨hread, hcondition', hcurrent'⟩ | ⟨hread, hexplains⟩
    · rw [if_pos hread]
      exact displays_of_following hphaseu hnumbersu hcondition' hcurrent'
    · rw [if_neg (Bool.eq_false_iff.1 hread)]
      exact displays_giveUp hnumbersu hexplains

/-- A watch that waits goes on showing why, also when a new epoch begins. -/
theorem attend {mailbox : Mailbox} {ticket : Nat} {r : Request} (h : w.Displays n) :
    ({ w with mailbox := mailbox }.attend ticket r).Displays n := by
  obtain ⟨haccess, hphase, -, -, hsession⟩ := serve_cases { w with mailbox := mailbox } ticket r
  have hcondition := condition_serve { w with mailbox := mailbox } ticket r
  rw [Watch.attend]
  generalize ({ w with mailbox := mailbox } : Watch).serve ticket r = u at *
  change u.1.phase = w.phase at hphase
  have hnumbers : u.1.access.chain.numbersSince n = w.access.chain.numbersSince n := by
    rw [haccess]
  dsimp only
  -- While a feed is followed, the watch shows no
  -- condition, and stays with the feed or starts over.
  split
  · rename_i feed hfeed
    obtain ⟨hheld, hnone, hcurrent⟩ := h.following feed (hphase ▸ hfeed)
    rcases hsession with ⟨hnew, hs⟩ | ⟨hnew, -⟩
    · rw [if_neg (Bool.eq_false_iff.1 hnew)]
      exact displays_of_following hfeed (hnumbers.trans hheld) (hcondition.trans hnone)
        (hs ▸ hcurrent)
    · rw [if_pos hnew]
      exact displays_of_apart (.inr (.inl rfl))
        (Chain.numbersSince_release_of_singleton (hnumbers.trans hheld))
  · -- A watch that waits goes on showing why: neither the game nor the lost link changes in an
    -- epoch that the application begins.
    rename_i hne
    refine ⟨fun feed hfeed => absurd hfeed (hne feed), fun _ => ?_, fun due hdue => ?_⟩
    · rw [hnumbers]
      exact h.apart (hphase ▸ hne)
    · have hexplains := h.waiting due (hphase ▸ hdue)
      rw [ExplainsWait, hcondition]
      rcases hsession with ⟨-, hs⟩ | ⟨-, op, hop, hs⟩
      · rw [hs]
        exact hexplains
      · rw [hs, Session.link_perform_of_startsOver hop, Session.game_perform]
        exact hexplains

theorem stop (h : w.Displays n) : w.stop.Displays n := by
  refine displays_of_apart (.inr (.inr rfl)) ?_
  rw [Watch.stop]
  split
  · rename_i feed hphase
    exact Chain.numbersSince_release_of_singleton (h.following feed hphase).1
  · rename_i hne
    exact h.apart hne

/-- A turn keeps what a watch shows in agreement with what it does. -/
theorem turn (h : w.Displays n) (hknown : w.ReadsKnown) (hn : n ≤ w.access.chain.opened)
    (hturn : w.Turn v) : v.Displays n := by
  cases hturn with
  | stop _ => exact h.stop
  | dispatch _ _ _ _ => exact ⟨h.following, h.apart, h.waiting⟩
  | connect _ _ hphase => exact h.connect hknown hn hphase
  | take _ _ hphase hnext => exact h.take hknown hphase hnext
  | lose _ _ hphase _ => exact displays_giveUp (h.following _ hphase).1 (.inl ⟨rfl, rfl⟩)
  | attend _ _ _ _ => exact h.attend
  | wake _ _ hphase _ =>
    exact displays_of_apart (.inr (.inl rfl))
      (h.apart fun _ hfeed => by cases hphase.symm.trans hfeed)

/-- So does an input. -/
theorem accept (h : w.Displays n) (input : Input) : (w.accept input).Displays n := by
  have hframe := accept_frame w input
  have hnumbers : (w.accept input).access.chain.numbersSince n =
      w.access.chain.numbersSince n := by
    rw [hframe.chain_eq]
    cases input.happening? with
    | none => rfl
    | some happening => exact Chain.numbersSince_undergo happening
  refine ⟨fun feed hfeed => ?_, fun hne => ?_, fun due hdue => ?_⟩
  · rw [hnumbers, hframe.condition_eq, hframe.session_eq]
    exact h.following feed ((following_accept_iff w input).1 hfeed)
  · rw [hnumbers]
    exact h.apart fun feed hfeed => hne feed ((following_accept_iff w input).2 hfeed)
  · rw [ExplainsWait, hframe.condition_eq, hframe.session_eq]
    exact h.waiting due ((waiting_accept_iff w input).1 hdue)

end Displays

/-! ## Runs -/

theorem opened_le_leads (h : u.Leads v) : u.access.chain.opened ≤ v.access.chain.opened := by
  induction h with
  | refl => exact Nat.le_refl _
  | step _ hstep ih => exact Nat.le_trans ih hstep.move.serves.opened_le
  | @accept x input _ ih =>
    rw [(accept_frame x input).chain_eq]
    cases input.happening? with
    | none => exact ih
    | some happening =>
      rw [Option.elim_some, Chain.opened_undergo]
      exact ih

/-- What a watch shows agrees with what it does, as long as the chain reports no
    other status than a known one. -/
theorem displays_leadsWhile (hw : w.IsNew) (h : w.LeadsWhile ReadsKnown v) :
    v.Displays w.access.chain.opened := by
  -- Only a step reads the status, as it is before the step.
  induction h with
  | refl _ =>
    have hnumbers := Chain.numbersSince_opened hw.isGrounded.chain
    cases hw with
    | create => exact displays_of_apart (.inl rfl) hnumbers
  | step hu hstep _ ih => exact ih.turn hu.holds (opened_le_leads hu.leads) hstep.turn
  | accept input _ _ ih => exact ih.accept input

/-! ## Answers -/

theorem Step.isRunning (h : Step w v) : w.isRunning = true := by
  cases h with
  | step h =>
    rw [step?] at h
    split at h
    · cases h
    · rename_i hrunning
      simpa using hrunning
  | resume hphase =>
    rw [Watch.isRunning, hphase]
    rfl

theorem replies_eq_of_ends (h : v.ends = w.ends) : v.mailbox.replies = w.mailbox.replies :=
  congrArg (fun ends : Mailbox × Outlet => ends.1.replies) h

theorem replies_stop : w.stop.mailbox.replies = w.mailbox.replies := by
  rw [stop]
  split <;> rfl

/-- A watch that is about to open a feed answers nothing. -/
theorem replies_eq_of_connecting (h : Step w v) (hphase : w.phase = .connecting) :
    v.mailbox.replies = w.mailbox.replies := by
  cases h with
  | step h =>
    rw [step?] at h
    split at h
    · cases h
    split at h
    · cases h
      exact replies_stop
    -- A watch that is about to open a feed does that or sends an action. It serves nobody.
    cases houtbox : w.outbox with
    | none =>
      rw [houtbox] at h
      change w.proceed? = some v at h
      rw [proceed?, hphase] at h
      cases h
      exact replies_eq_of_ends ends_connect
    | some action =>
      rw [houtbox] at h
      change w.dispatch? action = some v at h
      rw [dispatch?] at h
      split at h
      · cases h
      · cases h
        rfl
  | resume => rfl

/-- A request gets one answer. If that shows the session, it shows it as it is, and
    the watch goes on with what it did. -/
theorem replies_attend {ticket : Nat} {r : Request} :
    ∃ reply, (w.attend ticket r).mailbox.replies = (ticket, reply) :: w.mailbox.replies ∧
      ∀ s, reply = .shown s → s = w.snapshot ∧
        w.attend ticket r = { w with mailbox := w.mailbox.answer ticket reply } := by
  -- What follows the service leaves the mailbox alone.
  have hserve : (w.attend ticket r).mailbox = (w.serve ticket r).1.mailbox := by
    rw [attend]
    dsimp only
    split
    · split <;> rfl
    · rfl
  rw [hserve]
  cases r with
  | restart => exact ⟨.done, rfl, fun _ hs => by cases hs⟩
  | rebind players self =>
    rw [serve]
    cases w.session.rebind players self with
    | ok session => exact ⟨.done, rfl, fun _ hs => by cases hs⟩
    | error refusal => exact ⟨.refused (.ofRefusal refusal), rfl, fun _ hs => by cases hs⟩
  | snapshot =>
    refine ⟨.shown w.snapshot, rfl, fun s hs => ⟨(Reply.shown.inj hs).symm, ?_⟩⟩
    rw [attend, serve]
    dsimp only
    split <;> rfl

/-- A step answers a request only if the watch waits, or follows a feed in which
    nothing waits. -/
theorem Step.replies (h : Step w v) :
    v.mailbox.replies = w.mailbox.replies ∨ ∃ ticket r rest,
      v = { w with mailbox := { w.mailbox with waiting := rest } }.attend ticket r ∧
      ((∃ due, w.phase = .waiting due) ∨
        ∃ feed, w.phase = .following feed ∧ (w.access.next feed).2 = .pending) := by
  cases h.turn with
  | stop _ => exact .inl replies_stop
  | dispatch _ _ _ _ => exact .inl rfl
  | connect _ _ _ => exact .inl (replies_eq_of_ends ends_connect)
  | take _ _ _ _ => exact .inl (replies_eq_of_ends ends_take)
  | lose _ _ _ _ => exact .inl rfl
  | wake _ _ _ _ => exact .inl rfl
  | attend _ _ _ hpending =>
    -- By the rules for turns a request might be served
    -- while a feed is opened, but no step does so.
    by_cases hconnecting : w.phase = .connecting
    · exact .inl (replies_eq_of_connecting h hconnecting)
    refine .inr ⟨_, _, _, rfl, ?_⟩
    have hrunning := h.isRunning
    rw [Watch.isRunning, Bool.and_eq_true, bne_iff_ne, bne_iff_ne] at hrunning
    cases hphase : w.phase with
    | idle => exact absurd hphase hrunning.1
    | connecting => exact absurd hphase hconnecting
    | following feed => exact .inr ⟨feed, rfl, hpending feed hphase⟩
    | waiting due => exact .inl ⟨due, rfl⟩
    | stopped => exact absurd hphase hrunning.2

/-! ## The end -/

/-- A watch that has ended takes no step. -/
theorem not_step_of_stopped (h : w.phase = .stopped) : ¬ Step w v := by
  intro hstep
  have hrunning := hstep.isRunning
  rw [isRunning, h] at hrunning
  cases hrunning

/-- A watch that has ended takes no step any more, and holds no feed. -/
theorem Displays.leads_of_stopped (h : w.Displays n) (hstopped : w.phase = .stopped)
    (hl : w.Leads v) : v.Displays n ∧ v.phase = .stopped := by
  induction hl with
  | refl => exact ⟨h, hstopped⟩
  | step _ hstep ih => exact absurd hstep (not_step_of_stopped ih.2)
  | accept input _ ih =>
    exact ⟨ih.1.accept input, (phase_accept_iff (by simp) (by simp) input).2 ih.2⟩

/-- A watch that is killed ends, and sends no action any more. -/
theorem eq_stop_of_isKilled (hkilled : w.isKilled = true) (h : Step w v) : v = w.stop := by
  cases h with
  | step h =>
    rw [step?, hkilled] at h
    split at h
    · cases h
    · exact (Option.some.inj h).symm
  | resume _ _ halive =>
    rw [hkilled] at halive
    cases halive

/-! ## What the application is shown -/

namespace Displays

theorem length_heldSince_le (h : w.Displays n) : (w.access.chain.heldSince n).length ≤ 1 := by
  rw [← List.length_map (·.id), Chain.map_id_heldSince]
  by_cases hfollows : ∃ feed, w.phase = .following feed
  · obtain ⟨feed, hphase⟩ := hfollows
    rw [(h.following feed hphase).1]
    exact Nat.le_refl 1
  · rw [h.apart fun feed hphase => hfollows ⟨feed, hphase⟩]
    exact Nat.zero_le 1

/-- A feed in which nothing waits yet is open. -/
theorem of_following (h : w.Displays n) (hphase : w.phase = .following feed)
    (hpending : (w.access.next feed).2 = .pending) :
    w.condition = none ∧ w.session.IsCurrent ∧
      ∃ sub, w.access.chain.heldSince n = [sub] ∧ sub.isLive = true ∧ sub.id = feed := by
  obtain ⟨hnumbers, hcondition, hcurrent⟩ := h.following feed hphase
  obtain ⟨sub, hsub, -, hlive, -⟩ := Chain.next_eq_pending
    (next_eq_of_access (Prod.ext rfl hpending : w.access.next feed = (_, .pending)))
  obtain ⟨hheld, hid⟩ := Chain.heldSince_eq_singleton hnumbers hsub
  exact ⟨hcondition, hcurrent, sub, hheld, hlive, hid⟩

theorem of_stopped (h : w.Displays n) (hphase : w.phase = .stopped) :
    w.access.chain.heldSince n = [] :=
  Chain.heldSince_eq_nil (h.apart fun _ hfeed => by cases hphase.symm.trans hfeed)

theorem of_waiting {due : Duration} (h : w.Displays n) (hphase : w.phase = .waiting due) :
    w.access.chain.heldSince n = [] ∧ ∃ c, w.condition = some c ∧
      (c = .connectionLost ∧ w.session.link = .lost ∨ c = .unknownGame w.session.game) := by
  have hnumbers : w.access.chain.numbersSince n = [] :=
    h.apart fun _ hfeed => by cases hphase.symm.trans hfeed
  refine ⟨Chain.heldSince_eq_nil hnumbers, ?_⟩
  rcases h.waiting due hphase with ⟨hcondition, hlink⟩ | hcondition
  · exact ⟨_, hcondition, .inl ⟨rfl, hlink⟩⟩
  · exact ⟨_, hcondition, .inr rfl⟩

end Displays

/-- Suppose that a chain never reports a status that is not known. Then a watch of it
    never holds two feeds of its own. It answers requests in its steps alone, and
    when it shows the session, this is what it shows. Without a condition, the watch
    follows a feed, which is the only one that it holds and is open, with a live link
    and a known status. With a condition, it holds no feed and waits to try again, and
    either it has lost its connection and the link, or there is no such game. A watch
    that has ended holds no feed and takes no step, whatever happens then, and one
    that is killed ends with its next step, and sends no action. -/
theorem shown_of_leadsWhile (hw : w.IsNew) (hu : w.LeadsWhile ReadsKnown u) :
    let held := fun v : Watch => v.access.chain.heldSince w.access.chain.opened
    (held u).length ≤ 1 ∧
      (∀ input, (u.accept input).mailbox.replies = u.mailbox.replies) ∧
      (∀ v, Step u v → v.mailbox.replies = u.mailbox.replies ∨
        ∃ ticket reply, v.mailbox.replies = (ticket, reply) :: u.mailbox.replies ∧
          ∀ s, reply = .shown s →
            (s.condition = none → ∃ sub, held v = [sub] ∧ sub.isLive = true ∧
              v.phase = .following sub.id ∧ s.link = .live ∧ s.status ≠ .uninitialized) ∧
            ∀ c, s.condition = some c → held v = [] ∧ (∃ due, v.phase = .waiting due) ∧
              (c = .connectionLost ∧ s.link = .lost ∨ c = .unknownGame s.game)) ∧
      (u.hasStopped = true → ∀ v, u.Leads v → held v = [] ∧ ∀ v', ¬ Step v v') ∧
      (u.isKilled = true → (u.isRunning = true → ∃ v, Step u v) ∧
        ∀ v, Step u v → v.hasStopped = true ∧ held v = [] ∧ v.outlet = u.outlet) := by
  intro held
  have hdisplays := displays_leadsWhile hw hu
  refine ⟨hdisplays.length_heldSince_le, fun input => (accept_frame u input).replies_eq,
    fun v hstep => ?_,
    fun hstopped v hv => ?_, fun hkilled => ⟨fun hrunning => ?_, fun v hstep => ?_⟩⟩
  · -- A session is shown when a request is served, which leaves the watch as it is. Then the watch
    -- follows a feed in which nothing waits, or waits itself.
    rcases hstep.replies with hsame | ⟨ticket, r, rest, rfl, hattentive⟩
    · exact .inl hsame
    obtain ⟨reply, hreplies, hshown⟩ :=
      replies_attend (w := { u with mailbox := { u.mailbox with waiting := rest } })
    refine .inr ⟨ticket, reply, hreplies, fun s hs => ?_⟩
    obtain ⟨rfl, hv⟩ := hshown s hs
    rw [hv]
    rcases hattentive with ⟨due, hphase⟩ | ⟨feed, hphase, hpending⟩
    · obtain ⟨hheld, c, hcondition, hwhy⟩ := hdisplays.of_waiting hphase
      refine ⟨fun hnone => ?_, fun c' hc' => ?_⟩
      · cases hcondition.symm.trans hnone
      · cases hcondition.symm.trans hc'
        exact ⟨hheld, ⟨due, hphase⟩, hwhy⟩
    · obtain ⟨hcondition, hcurrent, sub, hheld, hlive, rfl⟩ :=
        hdisplays.of_following hphase hpending
      refine ⟨fun _ => ⟨sub, hheld, hlive, hphase, hcurrent.link_eq, ?_⟩, fun c hc => ?_⟩
      · exact bne_iff_ne.1 hcurrent.isKnown
      · cases hcondition.symm.trans hc
  · obtain ⟨hdisplays', hphase⟩ := hdisplays.leads_of_stopped (beq_iff_eq.1 hstopped) hv
    exact ⟨hdisplays'.of_stopped hphase, fun v' => not_step_of_stopped hphase⟩
  · -- A watch that is aborted ends in its next step, and it has one.
    refine ⟨u.stop, .step ?_⟩
    rw [step?, hrunning, hkilled]
    rfl
  · rw [eq_stop_of_isKilled hkilled hstep]
    refine ⟨rfl, hdisplays.stop.of_stopped rfl, ?_⟩
    rw [stop]
    split <;> rfl

/-- A watch is asked for a snapshot when it follows its feed, on a chain of which
    somebody else holds another feed, and again when the chain has closed all feeds. -/
theorem shown_of_leadsWhile_disconnected :
    ∃ (w u v u' v' : Watch) (s s' : Snapshot), w.IsNew ∧ w.access.chain.subscriptions.length = 1 ∧
      w.LeadsWhile ReadsKnown u ∧ Step u v ∧ v.mailbox.replies = [(0, .shown s)] ∧
      s.condition = none ∧ s.status = .shuffling ∧ s.link = .live ∧
      (∃ sub, v.access.chain.heldSince 1 = [sub] ∧ sub.isLive = true) ∧
      w.LeadsWhile ReadsKnown u' ∧ Step u' v' ∧
      v'.mailbox.replies = [(1, .shown s'), (0, .shown s)] ∧
      s'.condition = some .connectionLost ∧ s'.link = .lost ∧ v'.access.chain.heldSince 1 = [] ∧
      ∃ due, v'.phase = .waiting due := by
  let c := (Chain.empty.run [.subscribe .everything, .happen (.setStatus ⟨7⟩ .shuffling)]).1
  let w := create (Session.fresh ⟨7⟩ ⟨.fill 0xc1, .fill 0x01⟩ .creator)
    (.ofRange 1000000 1000000) c (.ofCapacity 4) []
  -- The session is shown once in the feed, and once after the connection was lost.
  let u := (settleWithin 4 (w.accept .start)).accept (.post .snapshot)
  let v := settleWithin 1 u
  let u' := (settleWithin 2 (v.accept (.happen .disconnect))).accept (.post .snapshot)
  let v' := settleWithin 1 u'
  have hw : w.IsNew := .create _ _ _
    (show Setup.session ⟨some ⟨7⟩, some (.fill 0xc1), some (.fill 0x01), some (.fill 0xc1)⟩ =
      .ok _ from rfl) (Chain.Reachable.empty.run _)
  have hu : w.LeadsWhile ReadsKnown u :=
    .accept _ (.settleWithin (.accept _ (.refl (by decide +kernel)) (by decide +kernel)) 4
      (by decide +kernel)) (by decide +kernel)
  have hstep : Step u v := step_settleWithin (by decide +kernel)
  have hv : w.LeadsWhile ReadsKnown v := .step hu hstep (by decide +kernel)
  have hu' : w.LeadsWhile ReadsKnown u' :=
    .accept _ (.settleWithin (.accept _ hv (by decide +kernel)) 2 (by decide +kernel))
      (by decide +kernel)
  have hstep' : Step u' v' := step_settleWithin (by decide +kernel)
  have hreplies : v.mailbox.replies = [(0, .shown u.snapshot)] := by decide +kernel
  have hreplies' : v'.mailbox.replies = [(1, .shown u'.snapshot), (0, .shown u.snapshot)] := by
    decide +kernel
  obtain ⟨-, -, hshown, -⟩ := shown_of_leadsWhile hw hu
  obtain ⟨-, -, hshown', -⟩ := shown_of_leadsWhile hw hu'
  rcases hshown v hstep with hsame | ⟨ticket, reply, hreply, hs⟩
  · exact absurd hsame (by decide +kernel)
  rcases hshown' v' hstep' with hsame | ⟨ticket', reply', hreply', hs'⟩
  · exact absurd hsame (by decide +kernel)
  rw [hreplies] at hreply
  rw [hreplies'] at hreply'
  have hlive := (hs _ (Prod.mk.inj (List.cons.inj hreply).1).2.symm).1
  have hlost := (hs' _ (Prod.mk.inj (List.cons.inj hreply').1).2.symm).2
  have hnone : u.snapshot.condition = none := by decide +kernel
  have hsome : u'.snapshot.condition = some .connectionLost := by decide +kernel
  obtain ⟨sub, hheld, hopen, -, hlink, -⟩ := hlive hnone
  obtain ⟨hheld', hwaits, ⟨-, hlink'⟩ | hwhy⟩ := hlost _ hsome
  · exact ⟨w, u, v, u', v', _, _, hw, by decide +kernel, hu, hstep, hreplies, hnone,
      by decide +kernel, hlink, ⟨sub, hheld, hopen⟩, hu', hstep', hreplies', hsome, hlink', hheld',
      hwaits⟩
  · cases hwhy

end ShuffleWatch.Watch
