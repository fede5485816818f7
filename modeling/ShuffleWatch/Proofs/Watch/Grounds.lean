import ShuffleWatch.Proofs.Watch.Moves

/-!
# Grounds of a watch

What a watch knows is grounded in the chain (`IsGrounded`): the floor and the
recorded shuffles of its session are entries of the history, and the feed that it
follows is open under its number, admits the entries of the game, and holds no
others than those of the history. A new watch is grounded (`IsNew.isGrounded`),
and neither a step nor an input changes that, so it always is (`isGrounded_leads`).
-/

namespace ShuffleWatch.Watch

/-- A watch that was just set up, for a client and a chain, and not started. -/
inductive IsNew : Watch → Prop
  | create {setup : Setup} {session : Session} {chain : Chain} (backoff : Backoff)
      (outlet : Outlet) (draws : List UInt64) : setup.session = .ok session → chain.Reachable →
      IsNew (create session backoff chain outlet draws)

/-- What the watch knows, and what waits in its feed, comes from the chain. -/
structure IsGrounded (w : Watch) : Prop where
  session : w.session.Reachable
  chain : w.access.chain.Reachable
  drawn : w.session.facts.IsDrawnFrom {e | e ∈ w.access.chain.history}
  feed : ∀ feed, w.phase = .following feed →
    ∃ sub, w.access.chain.subscription? feed = some sub ∧ sub.filter = w.filter ∧
      ∀ e, .entry e ∈ sub.queue → e ∈ w.access.chain.history

/-- The watches that steps and happenings lead to, through such watches alone. -/
inductive LeadsWhile (P : Watch → Prop) (w : Watch) : Watch → Prop
  | refl : P w → LeadsWhile P w w
  | step {u v : Watch} : LeadsWhile P w u → Step u v → P v → LeadsWhile P w v
  | accept {u : Watch} (input : Input) : LeadsWhile P w u → P (u.accept input) →
      LeadsWhile P w (u.accept input)

variable {u v w : Watch} {feed : Nat} {e : Entry} {sub : Subscription} {P : Watch → Prop}

/-- The filter of a watch admits the events of its game. -/
theorem admits_filter_iff {event : Event} :
    w.filter.admits event = true ↔ event.game = w.session.game := by
  have hkind : EventKind.all.contains event.kind = true := by
    cases event.kind <;> rfl
  change (w.session.game == event.game && (_ || EventKind.all.contains event.kind)) = true ↔ _
  rw [hkind, Bool.or_true, Bool.and_true, beq_iff_eq]
  exact eq_comm

/-! ## New watches -/

/-- The session that a client is set up for is a new one. -/
theorem create_of_setup {setup : Setup} {s : Session} (h : setup.session = .ok s) :
    ∃ game players self, Session.create game players self = .ok s := by
  rw [Setup.session.eq_def] at h
  split at h
  · rename_i game creator joiner _ _ _
    cases hs : Session.create game ⟨creator, joiner⟩ setup.self with
    | error refusal =>
      rw [hs] at h
      cases h
    | ok t =>
      rw [hs] at h
      cases h
      exact ⟨game, ⟨creator, joiner⟩, setup.self, hs⟩
  · cases h

theorem IsNew.isGrounded (h : w.IsNew) : w.IsGrounded := by
  cases h with
  | create backoff outlet draws hsetup hchain =>
    obtain ⟨game, players, self, hs⟩ := create_of_setup hsetup
    refine ⟨.create hs, hchain, ?_, fun _ hphase => by cases hphase⟩
    obtain ⟨r, -, rfl⟩ := Session.create_eq_ok hs
    exact Session.isDrawnFrom_fresh

/-! ## Steps -/

/-- What waits in the feed of a grounded watch is on chain. -/
theorem IsGrounded.mem_history (hw : w.IsGrounded) (he : w.Awaits e) :
    e ∈ w.access.chain.history := by
  obtain ⟨feed, sub, hphase, hsub, hqueue⟩ := he
  obtain ⟨sub', hsub', -, hmem⟩ := hw.feed feed hphase
  rw [hsub] at hsub'
  cases hsub'
  exact hmem e hqueue

/-- What waits in a new feed is the history, as far as the filter admits it. -/
theorem mem_queue_feed_iff {c : Chain} {filter : Filter} :
    .entry e ∈ (c.feed filter).queue ↔ e ∈ c.history ∧ filter.admits e.event = true := by
  change Item.entry e ∈ (c.history.filter _).map .entry ++ [.caughtUp] ↔ _
  rw [List.mem_append, List.mem_map]
  constructor
  · rintro (⟨e', he', heq⟩ | he)
    · cases heq
      exact List.mem_filter.1 he'
    · cases List.mem_singleton.1 he
  · intro he
    exact .inl ⟨e, List.mem_filter.2 he, rfl⟩

/-- Taking an item from the feed leaves what is behind it. -/
theorem IsGrounded.next (hw : w.IsGrounded) {d : Chain} {item : Item}
    (hphase : w.phase = .following feed) (hnext : w.access.chain.next feed = (d, .item item)) :
    ∃ sub, d.subscription? feed = some sub ∧ sub.filter = w.filter ∧
      ∀ e, .entry e ∈ sub.queue → e ∈ w.access.chain.history := by
  obtain ⟨sub, hsub, hfilter, hmem⟩ := hw.feed feed hphase
  obtain ⟨sub', rest, hsub', hqueue, hrest, -⟩ := Chain.next_eq_item hnext
  rw [hsub] at hsub'
  cases hsub'
  rw [hqueue] at hmem
  exact ⟨_, hrest, hfilter, fun e he => hmem e (List.mem_cons_of_mem item he)⟩

/-- A move keeps a watch grounded. -/
theorem IsGrounded.move (hw : w.IsGrounded) (h : w.Move v) : v.IsGrounded := by
  obtain ⟨ops, hs, hentries⟩ := h.session_eq
  have hhistory : v.access.chain.history = w.access.chain.history := h.serves.history_eq
  have hfilter : v.filter = w.filter := by rw [filter, filter, h.game_eq]
  refine ⟨?_, h.serves.reachable hw.chain, ?_, fun feed hfeed => ?_⟩
  · rw [hs]
    exact hw.session.run ops
  · rw [hs, hhistory]
    exact hw.drawn.run hw.session.isCoherent fun e he => hw.mem_history (hentries e he)
  · -- The feed that is followed afterwards is a new one, or the one
    -- that was followed before, with an item less in it at most.
    rw [hhistory, hfilter]
    cases h with
    | attach _ hphase hchain _ _ =>
      rw [hphase] at hfeed
      cases hfeed
      rw [hchain]
      exact ⟨_, Chain.subscription?_subscribe hw.chain w.filter, rfl,
        fun e he => (mem_queue_feed_iff.1 he).1⟩
    | take _ hphase hphase' hnext _ _ =>
      rw [hphase'] at hfeed
      cases hfeed
      exact hw.next hphase hnext
    | resync _ hphase hphase' hnext _ _ =>
      rw [hphase'] at hfeed
      cases hfeed
      exact hw.next hphase hnext
    | stay hphase hchain _ _ =>
      rw [hphase] at hfeed
      rw [hchain]
      exact hw.feed feed hfeed
    | leave _ hphase _ _ _ _ => exact absurd hfeed (hphase feed)

/-! ## Inputs -/

theorem filter_accept (input : Input) : (w.accept input).filter = w.filter := by
  rw [filter, filter, (accept_frame w input).session_eq]

/-- An input keeps a watch grounded. -/
theorem IsGrounded.accept (hw : w.IsGrounded) (input : Input) : (w.accept input).IsGrounded := by
  have hs := (accept_frame w input).session_eq
  have hchain := (accept_frame w input).chain_eq
  have hfollow : ∀ feed, (w.accept input).phase = .following feed ↔ w.phase = .following feed :=
    fun feed => following_accept_iff w input
  have hfilter := filter_accept (w := w) input
  generalize w.accept input = v at *
  cases hh : input.happening? with
  | none =>
    rw [hh, Option.elim_none] at hchain
    refine ⟨hs ▸ hw.session, hchain ▸ hw.chain, by rw [hs, hchain]; exact hw.drawn, ?_⟩
    intro feed hfeed
    rw [hchain, hfilter]
    exact hw.feed feed ((hfollow feed).1 hfeed)
  | some h =>
    rw [hh, Option.elim_some] at hchain
    have hhistory := Chain.history_undergo w.access.chain h
    refine ⟨hs ▸ hw.session, hchain ▸ hw.chain.undergo h, ?_, ?_⟩
    · rw [hs, hchain, hhistory]
      exact hw.drawn.mono fun e he => List.mem_append_left _ he
    · intro feed hfeed
      obtain ⟨sub, hsub, hsubfilter, hmem⟩ := hw.feed feed ((hfollow feed).1 hfeed)
      rw [hchain, hfilter]
      -- The feed is relayed to. Behind what waited in it there is at most what the chain logs.
      refine ⟨w.access.chain.relay h sub, ?_, Chain.filter_relay.trans hsubfilter, fun e he => ?_⟩
      · rw [Chain.subscription?_undergo, hsub]
        rfl
      · rw [hhistory]
        obtain ⟨more, hqueue, hmore⟩ := Chain.queue_relay w.access.chain h sub
        rw [hqueue] at he
        rcases List.mem_append.1 he with he | he
        · exact List.mem_append_left _ (hmem e he)
        · rw [Chain.logged?_of_offered? (hmore _ he)]
          exact List.mem_append_right _ (List.mem_singleton_self e)

/-- What is on chain stays there. -/
theorem mem_history_accept (input : Input) (he : e ∈ w.access.chain.history) :
    e ∈ (w.accept input).access.chain.history := by
  rw [(accept_frame w input).chain_eq]
  cases input.happening? with
  | none => exact he
  | some h =>
    rw [Option.elim_some, Chain.history_undergo]
    exact List.mem_append_left _ he

/-! ## Runs -/

/-- A watch is about one game. -/
theorem game_leads (h : u.Leads v) : v.session.game = u.session.game := by
  induction h with
  | refl => rfl
  | step _ hstep ih => exact hstep.move.game_eq.trans ih
  | @accept x input _ ih => exact (congrArg Session.game (accept_frame x input).session_eq).trans ih

/-- A watch is always grounded. -/
theorem isGrounded_leads (hu : u.IsGrounded) (h : u.Leads v) : v.IsGrounded := by
  induction h with
  | refl => exact hu
  | step _ hstep ih => exact ih.move hstep.move
  | accept input _ ih => exact ih.accept input

/-! ## Runs through watches of a kind -/

theorem LeadsWhile.leads (h : w.LeadsWhile P v) : w.Leads v := by
  induction h with
  | refl _ => exact .refl
  | step _ hstep _ ih => exact .step ih hstep
  | accept input _ _ ih => exact .accept input ih

theorem LeadsWhile.holds (h : w.LeadsWhile P v) : P v := by
  cases h with
  | refl hP => exact hP
  | step _ _ hP => exact hP
  | accept _ _ hP => exact hP

theorem step_settleWithin (h : w.step?.isSome = true) : Step w (settleWithin 1 w) := by
  obtain ⟨v, hv⟩ := Option.isSome_iff_exists.1 h
  rw [settleWithin, hv]
  exact .step hv

/-- The watch may be run by itself, as long as all the watches on the way are such. -/
theorem LeadsWhile.settleWithin (h : w.LeadsWhile P v) (n : Nat)
    (hP : ∀ i < n + 1, P (settleWithin i v)) : w.LeadsWhile P (settleWithin n v) := by
  induction n generalizing v with
  | zero => exact h
  | succ n ih =>
    -- The first step leads to a watch of the kind, and so do the others from there.
    have hstep := hP 1 (by omega)
    rw [Watch.settleWithin]
    rw [Watch.settleWithin] at hstep
    cases hu : v.step? with
    | none => exact h
    | some u =>
      rw [hu] at hstep
      refine ih (.step h (.step hu) hstep) fun i hi => ?_
      have hnext := hP (i + 1) (by omega)
      rw [Watch.settleWithin, hu] at hnext
      exact hnext

end ShuffleWatch.Watch
