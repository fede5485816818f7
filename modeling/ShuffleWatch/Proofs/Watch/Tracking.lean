import ShuffleWatch.Proofs.Chain.Waiting
import ShuffleWatch.Proofs.Session.Course
import ShuffleWatch.Proofs.Watch.Agreement
import ShuffleWatch.Proofs.Watch.Display
import ShuffleWatch.Proofs.Watch.Settling

/-!
# What a watch has taken in

A live feed that has dropped nothing splits the backlog of the watch in two: the entries
that were taken in, and those that still wait. The session reflects the former, and its
status has come about from them and from the status that was read last (`Tracks`). That
is kept turn by turn (`KeepsTrack.turn`), as long as the chain delivers its entries in
the order of their positions: then nothing that was taken in before a rematch counts
after it. In the end a watch that waits for its feed has taken in the whole backlog
(`Lossless.tracks`).
-/

namespace ShuffleWatch.Watch

/-- The live feed of the watch has room for what the input offers to it. -/
def HasRoom (w : Watch) (input : Input) : Prop :=
  ∀ sub ∈ w.liveFeed?, sub.queue.length + w.offers input ≤ sub.capacity

instance (w : Watch) : DecidablePred w.HasRoom := fun input =>
  inferInstanceAs (Decidable (∀ sub ∈ w.liveFeed?, sub.queue.length + w.offers input ≤ sub.capacity))

/-- The watches to which runs lead in which the live feed never drops anything, with the
    status that the chain reported for the game when it was read last. -/
inductive Lossless (w : Watch) : Watch → Option Status → Prop
  | refl : Lossless w w none
  | step {u v : Watch} {o : Option Status} : Lossless w u o → Step u v →
      v.access.reads = u.access.reads → Lossless w v o
  | read {u v : Watch} {o : Option Status} : Lossless w u o → Step u v →
      v.access.reads ≠ u.access.reads →
      Lossless w v (u.access.chain.statusOf u.session.game)
  | accept {u : Watch} {o : Option Status} (input : Input) : Lossless w u o → u.HasRoom input →
      Lossless w (u.accept input) o

/-- Since the watch read this status, it has taken in these entries of its backlog, and
    the others are among these items that wait. -/
structure Tracks (w : Watch) (status : Status) (taken : List Entry) (items : List Item) :
    Prop where
  condition_eq : w.condition = none
  backlog_eq : w.access.chain.backlog w.filter = taken ++ items.filterMap Item.brings?
  caughtUp_mem : w.session.holding = true → .caughtUp ∈ items
  reflects : ∀ e ∈ taken, w.session.facts.Reflects e
  proceeds : status.isKnown = true →
    w.session.IsCurrent ∧ w.session.Proceeds status {e | e ∈ taken}

/-- The live feed of the watch has dropped nothing, and this status was read last. -/
def KeepsTrack (w : Watch) (o : Option Status) : Prop :=
  ∀ sub, w.liveFeed? = some sub →
    0 < sub.capacity ∧ ∃ status taken, o = some status ∧ w.Tracks status taken sub.queue

/-- The status that was read last before a turn of the watch to `v`, or in it. -/
def lastRead (w v : Watch) (o : Option Status) : Option Status :=
  if v.access.reads = w.access.reads then o else w.access.chain.statusOf w.session.game

/-- The entries of the history are in the order of their positions. -/
def IsOrdered (w : Watch) : Prop :=
  w.access.chain.history.Pairwise (·.position ≤ ·.position)

instance : DecidablePred IsOrdered := fun w =>
  inferInstanceAs (Decidable (w.access.chain.history.Pairwise (·.position ≤ ·.position)))

variable {u v w : Watch} {feed : Nat} {status : Status} {taken : List Entry} {item : Item}
  {items : List Item} {o : Option Status} {sub : Subscription} {input : Input}

theorem Lossless.leads (h : w.Lossless v o) : w.Leads v := by
  induction h with
  | refl => exact .refl
  | step _ hstep _ ih => exact .step ih hstep
  | read _ hstep _ ih => exact .step ih hstep
  | accept input _ _ ih => exact .accept input ih

/-- The watch may be run by itself, as long as it does not read the status. -/
theorem Lossless.settleWithin (h : w.Lossless v o) (k : Nat)
    (hreads : ∀ i < k, (settleWithin (i + 1) v).access.reads = (settleWithin i v).access.reads) :
    w.Lossless (settleWithin k v) o := by
  -- The first step is taken from `v`, and the induction goes on from the watch it leads to.
  induction k generalizing v with
  | zero => exact h
  | succ k ih =>
    have hread := hreads 0 k.succ_pos
    simp only [Watch.settleWithin] at hread ⊢
    cases hu : v.step? with
    | none => exact h
    | some u =>
      rw [hu] at hread
      refine ih (.step h (.step hu) hread) fun i hi => ?_
      have hnext := hreads (i + 1) (Nat.succ_lt_succ hi)
      simp only [Watch.settleWithin, hu] at hnext ⊢
      exact hnext

/-- A step in which the status is read. -/
theorem Lossless.read_settleWithin (h : w.Lossless v o) (hstep : v.step?.isSome = true)
    (hreads : (Watch.settleWithin 1 v).access.reads ≠ v.access.reads)
    (hstatus : v.access.chain.statusOf v.session.game = some status) :
    w.Lossless (Watch.settleWithin 1 v) (some status) :=
  hstatus ▸ .read h (step_settleWithin hstep) hreads

/-! ## Reading the status -/

/-- A status that is read is adopted. -/
theorem resync_of_read (h : w.resync.2 = true) : w.access.statusFault = none ∧
    w.resync.1.access.reads = w.access.reads + 1 ∧ w.resync.1.condition = none ∧
    ∃ status, w.access.chain.statusOf w.session.game = some status ∧
      w.resync.1.session = (w.session.seed status).1 := by
  -- Two things can be missing, the answer of the chain and the
  -- game itself. Either would make the result false.
  rw [resync, Access.readStatus] at *
  cases hfault : w.access.statusFault with
  | some fault =>
    rw [hfault] at h
    cases h
  | none =>
    rw [hfault] at h
    dsimp only at h ⊢
    cases hstatus : w.access.chain.statusOf w.session.game with
    | none =>
      rw [hstatus] at h
      cases h
    | some status => exact ⟨rfl, rfl, rfl, status, rfl, rfl⟩

/-- A watch that has read the status tracks its feed, when what it took in before moves
    the status no more. -/
theorem tracks_of_seed {s : Session} (hs : v.session = (s.seed status).1)
    (hcondition : v.condition = none)
    (hbacklog : v.access.chain.backlog v.filter = taken ++ items.filterMap Item.brings?)
    (hmark : s.holding = true → .caughtUp ∈ items) (hreflects : ∀ e ∈ taken, s.facts.Reflects e)
    (htarget : ∀ e ∈ taken, s.target? e = none) : v.Tracks status taken items where
  condition_eq := hcondition
  backlog_eq := hbacklog
  caughtUp_mem := by
    rw [hs, Session.holding_seed]
    exact hmark
  reflects := by
    rw [hs, Session.facts_seed]
    exact hreflects
  proceeds hknown := by
    rw [hs]
    exact ⟨Session.isCurrent_seed hknown, Session.proceeds_seed hknown htarget⟩

/-! ## Turns -/

theorem keepsTrack_of_not_following (h : ∀ feed, v.phase ≠ .following feed) :
    v.KeepsTrack o := by
  intro sub hsub
  obtain ⟨feed, hfeed, -⟩ := liveFeed?_eq_some_iff.1 hsub
  exact absurd hfeed (h feed)

theorem lastRead_of_eq (h : v.access.reads = w.access.reads) : w.lastRead v o = o := if_pos h

theorem lastRead_of_succ (h : v.access.reads = w.access.reads + 1) :
    w.lastRead v o = w.access.chain.statusOf w.session.game :=
  if_neg (by omega)

theorem keepsTrack_of_holds (hphase : v.phase = .following feed)
    (hholds : v.access.chain.Holds feed v.filter items) (h : v.Tracks status taken items) :
    v.KeepsTrack (some status) := by
  obtain ⟨sub, hsub, -, rfl, -, hcapacity⟩ := hholds
  intro sub' hsub'
  obtain ⟨feed', hfeed', hsub', -⟩ := liveFeed?_eq_some_iff.1 hsub'
  cases hphase.symm.trans hfeed'
  cases hsub.symm.trans hsub'
  exact ⟨hcapacity, status, taken, rfl, h⟩

theorem filter_eq_of_game_eq (h : v.session.game = w.session.game) : v.filter = w.filter := by
  rw [filter, filter, h]

/-- A watch that has connected found the chain at hand, and a status for its game. -/
theorem of_following_connect (h : w.connect.phase = .following feed) :
    w.access.subscribeFault = none ∧ w.access.statusFault = none ∧
      ∃ status, w.access.chain.statusOf w.session.game = some status := by
  rw [connect, Access.subscribe] at h
  cases hsubscribe : w.access.subscribeFault with
  | some fault =>
    rw [hsubscribe] at h
    cases h
  | none =>
    rw [hsubscribe] at h
    dsimp only at h
    rw [attach] at h
    dsimp only at h
    -- With a feed the watch goes on only if the status was read. It gives up otherwise.
    split at h
    · rename_i hread
      obtain ⟨hfault, -, -, status, hstatus, -⟩ := resync_of_read hread
      exact ⟨rfl, hfault, status, hstatus⟩
    · exact absurd h (phase_giveUp _ _ _)

/-- A watch that has opened a feed and read the status has taken in nothing yet. -/
theorem keepsTrack_connect (hw : w.IsGrounded) : w.connect.KeepsTrack (w.lastRead w.connect o) := by
  by_cases hfollows : ∃ feed, w.connect.phase = .following feed
  · obtain ⟨feed, hfeed⟩ := hfollows
    obtain ⟨hsubscribe, hread, status, hstatus⟩ := of_following_connect hfeed
    have heq := connect_eq hsubscribe hread hstatus
    -- The watch follows a new feed, which holds the backlog and the
    -- mark behind it. Nothing of it has been taken yet.
    have hlast : w.lastRead w.connect o = some status := by
      rw [← hstatus]
      exact lastRead_of_succ (by rw [heq])
    have hgame : w.connect.session.game = w.session.game := by
      rw [heq]
      exact Session.game_perform (s := w.session.awaitBacklog) (.seed status)
    have hholds : w.connect.access.chain.Holds w.access.chain.opened w.connect.filter
        ((w.access.chain.backlog w.filter).map Item.entry ++ [Item.caughtUp]) := by
      rw [filter_eq_of_game_eq hgame, heq]
      exact Chain.holds_subscribe hw.chain w.filter
    have htracks : w.connect.Tracks status []
        ((w.access.chain.backlog w.filter).map Item.entry ++ [Item.caughtUp]) := by
      refine tracks_of_seed (s := w.session.awaitBacklog) (by rw [heq]) (by rw [heq]) ?_ (by simp)
        (by simp) (by simp)
      rw [filter_eq_of_game_eq hgame, heq, Chain.filterMap_brings?_feed]
      rfl
    rw [hlast]
    exact keepsTrack_of_holds (by rw [heq]) hholds htracks
  · exact keepsTrack_of_not_following fun feed h => hfollows ⟨feed, h⟩

/-! ## Items -/

/-- Requests are held back until the mark is taken in. -/
theorem of_holding_receive (h : (w.session.receive item).1.holding = true) :
    w.session.holding = true ∧ item ≠ .caughtUp := by
  cases item with
  | entry e => exact ⟨(Session.holding_apply e).symm.trans h, by simp⟩
  | caughtUp =>
    have hholding : (w.session.receive .caughtUp).1.holding = false := Session.holding_takeAction
    rw [hholding] at h
    cases h
  | fault f =>
    refine ⟨?_, by simp⟩
    rw [Session.receive] at h
    split at h <;> exact h

/-- Of an item that is taken in, the entry counts as taken from then on. -/
theorem Tracks.next (h : w.Tracks status taken (item :: items))
    (hc : w.session.facts.IsCoherent) :
    w.access.chain.backlog w.filter =
        taken ++ item.brings?.toList ++ items.filterMap Item.brings? ∧
      ((w.session.receive item).1.holding = true → .caughtUp ∈ items) ∧
      ∀ e ∈ taken ++ item.brings?.toList, (w.session.receive item).1.facts.Reflects e := by
  refine ⟨?_, fun hholding => ?_, fun e he => ?_⟩
  · rw [h.backlog_eq, List.filterMap_cons]
    cases item.brings? <;> simp
  · obtain ⟨hholding, hitem⟩ := of_holding_receive hholding
    exact (List.mem_cons.1 (h.caughtUp_mem hholding)).resolve_left hitem.symm
  · -- What was known stays known, and the entry that is taken now becomes known by it.
    rcases List.mem_append.1 he with he | he
    · exact (h.reflects e he).receive hc
    · rw [Option.mem_toList, Item.brings?_eq_some_iff] at he
      rw [he]
      exact Session.reflects_apply hc

/-- A watch that takes in an item tracks its feed, unless an epoch begins. -/
theorem Tracks.receive (h : w.Tracks status taken (item :: items))
    (hc : w.session.facts.IsCoherent) (hcondition : v.condition = w.condition)
    (hbacklog : v.access.chain.backlog v.filter = w.access.chain.backlog w.filter)
    (hs : v.session = (w.session.receive item).1)
    (hreset : (w.session.receive item).2 ≠ .reset)
    (hlost : (w.session.receive item).2 ≠ .disconnected) :
    v.Tracks status (taken ++ item.brings?.toList) items where
  condition_eq := hcondition.trans h.condition_eq
  backlog_eq := hbacklog.trans (h.next hc).1
  caughtUp_mem := by
    rw [hs]
    exact (h.next hc).2.1
  reflects := by
    rw [hs]
    exact (h.next hc).2.2
  proceeds hknown := by
    obtain ⟨hcurrent, hproceeds⟩ := h.proceeds hknown
    -- The entries taken are those from before and the one of this item, if there is one.
    have htaken : {e | e ∈ taken ++ item.brings?.toList} =
        {e | e ∈ taken} ∪ {e | item = .entry e} := by
      ext e
      simp [Item.brings?_eq_some_iff]
    rw [hs, htaken]
    exact ⟨hcurrent.receive hreset hlost, hproceeds.receive hknown hreset⟩

/-- So does one that reads the status when an epoch begins: what was taken in before the
    rematch is at or below it. -/
theorem Tracks.reset {status' : Status} (h : w.Tracks status taken (item :: items))
    (hc : w.session.facts.IsCoherent) (hordered : w.IsOrdered) (hcondition : v.condition = none)
    (hbacklog : v.access.chain.backlog v.filter = w.access.chain.backlog w.filter)
    (hreset : (w.session.receive item).2 = .reset)
    (hs : v.session = ((w.session.receive item).1.seed status').1) :
    v.Tracks status' (taken ++ item.brings?.toList) items := by
  obtain ⟨hsplit, hmark, hreflects⟩ := h.next hc
  obtain ⟨e, rfl, hrematch⟩ := Session.receive_eq_reset_iff.1 hreset
  refine tracks_of_seed hs hcondition (hbacklog.trans hsplit) hmark hreflects fun e' he' => ?_
  have hsorted : (taken ++ [e] ++ items.filterMap Item.brings?).Pairwise
      (·.position ≤ ·.position) := by
    rw [← show _ = taken ++ [e] ++ _ from hsplit]
    exact List.Pairwise.sublist List.filter_sublist hordered
  -- The rematch came last, so it is above all that was taken in before.
  have hle : e'.position ≤ e.position := by
    rcases List.mem_append.1 he' with he' | he'
    · exact (List.pairwise_append.1 (List.pairwise_append.1 hsorted).1).2.2 e' he' e
        (List.mem_singleton_self e)
    · rw [List.mem_singleton.1 he']
  refine Session.target?_of_isStale ?_
  rw [Session.isStale, show (w.session.receive (.entry e)).1.floor = some e.position from
    Session.floor_apply_of_takesRematch hrematch, Option.any_some]
  exact decide_eq_true hle

/-- A watch that goes on following its feed after an item has not lost it, and has read
    the status if an epoch began. -/
theorem take_of_following {feed' : Nat} (h : (w.take feed item).phase = .following feed') :
    (w.take feed item).access.chain = w.access.chain ∧ (w.take feed item).phase = w.phase ∧
    ((w.session.receive item).2 ≠ .reset ∧ (w.session.receive item).2 ≠ .disconnected ∧
        (w.take feed item).access.reads = w.access.reads ∧
        (w.take feed item).condition = w.condition ∧
        (w.take feed item).session = (w.session.receive item).1 ∨
      (w.session.receive item).2 = .reset ∧
        (w.take feed item).access.reads = w.access.reads + 1 ∧
        (w.take feed item).condition = none ∧
        ∃ status, w.access.chain.statusOf w.session.game = some status ∧
          (w.take feed item).session = ((w.session.receive item).1.seed status).1) := by
  have hgame : (w.session.receive item).1.game = w.session.game :=
    Session.game_perform (.receive item)
  rw [take] at *
  -- Only the verdict matters from here on, and the game that the session keeps.
  generalize w.session.receive item = received at *
  obtain ⟨s, verdict⟩ := received
  cases verdict with
  | disconnected => exact absurd h (phase_giveUp _ _ _)
  | reset =>
    obtain ⟨hchain, hphase, -⟩ := resync_frame { w with session := s }
    dsimp only at h hgame ⊢
    split at h
    · rename_i hread
      obtain ⟨-, hreads, hcondition, status, hstatus, hs⟩ := resync_of_read hread
      rw [if_pos hread]
      exact ⟨hchain, hphase, .inr ⟨rfl, hreads, hcondition, status, hgame ▸ hstatus, hs⟩⟩
    · exact absurd h (phase_giveUp _ _ _)
  | _ => exact ⟨rfl, rfl, .inl ⟨by simp, by simp, rfl, rfl, rfl⟩⟩

/-- A watch that takes an item from its feed goes on tracking it. -/
theorem KeepsTrack.take {access : Access} (h : w.KeepsTrack o) (hw : w.IsGrounded)
    (hordered : w.IsOrdered) (houtbox : w.outbox = none) (hphase : w.phase = .following feed)
    (hnext : w.access.next feed = (access, .item item)) :
    ({ w with access := access }.take feed item).KeepsTrack
      (w.lastRead ({ w with access := access }.take feed item) o) := by
  have hreads : access.reads = w.access.reads := congrArg (·.1.reads) hnext.symm
  have hgame := (move_take houtbox hphase hnext).game_eq
  replace hnext := next_eq_of_access hnext
  have hstatusOf : access.chain.statusOf = w.access.chain.statusOf := Chain.statusOf_next hnext
  have hc := hw.session.isCoherent
  intro sub hsub
  obtain ⟨feed', hfeed', hsub', hlive⟩ := liveFeed?_eq_some_iff.1 hsub
  obtain ⟨hchain, hphase', hcases⟩ := take_of_following hfeed'
  generalize ({ w with access := access } : Watch).take feed item = v at *
  cases hphase.symm.trans (hphase'.symm.trans hfeed')
  -- The feed is the same, without the item.
  obtain ⟨sub₀, rest, hsub₀, hqueue, hrest, hhistory, -⟩ := Chain.next_eq_item hnext
  rw [hchain, hrest] at hsub'
  cases hsub'
  obtain ⟨hcapacity, status, taken, ho, htracks⟩ :=
    h sub₀ (liveFeed?_eq_some_iff.2 ⟨feed, hphase, hsub₀, hlive⟩)
  rw [hqueue] at htracks
  have hbacklog : v.access.chain.backlog v.filter = w.access.chain.backlog w.filter := by
    rw [filter_eq_of_game_eq hgame, hchain, Chain.backlog, hhistory]
    rfl
  refine ⟨hcapacity, ?_⟩
  rcases hcases with ⟨hreset, hlost, hreads', hcondition, hs⟩ |
    ⟨hreset, hreads', hcondition, status', hstatus, hs⟩
  · rw [lastRead_of_eq (hreads'.trans hreads)]
    exact ⟨status, _, ho, htracks.receive hc hcondition hbacklog hs hreset hlost⟩
  · rw [lastRead_of_succ (hreads'.trans (congrArg (· + 1) hreads)), ← hstatusOf]
    exact ⟨status', _, hstatus, htracks.reset hc hordered hcondition hbacklog hreset hs⟩

/-! ## Keeping the feed -/

/-- A watch that goes on with its session tracks its feed, also when something is put
    behind what waits. -/
theorem Tracks.append {more : List Item} (h : w.Tracks status taken items)
    (hcondition : v.condition = w.condition) (hs : v.session = w.session)
    (hbacklog : v.access.chain.backlog w.filter =
      w.access.chain.backlog w.filter ++ more.filterMap Item.brings?) :
    v.Tracks status taken (items ++ more) where
  condition_eq := hcondition.trans h.condition_eq
  backlog_eq := by
    rw [filter_eq_of_game_eq (congrArg Session.game hs), hbacklog, h.backlog_eq,
      List.append_assoc, List.filterMap_append]
  caughtUp_mem := by
    rw [hs]
    exact fun hholding => List.mem_append_left _ (h.caughtUp_mem hholding)
  reflects := by
    rw [hs]
    exact h.reflects
  proceeds := by
    rw [hs]
    exact h.proceeds

/-- A watch that keeps its feed, with what waits in it, goes on tracking it. -/
theorem KeepsTrack.congr (h : w.KeepsTrack o)
    (hphase : ∀ feed, v.phase = .following feed → w.phase = .following feed)
    (hchain : v.access.chain = w.access.chain) (hcondition : v.condition = w.condition)
    (hs : v.session = w.session) : v.KeepsTrack o := by
  intro sub hsub
  obtain ⟨feed, hfeed, hsub, hlive⟩ := liveFeed?_eq_some_iff.1 hsub
  rw [hchain] at hsub
  obtain ⟨hcapacity, status, taken, ho, htracks⟩ :=
    h sub (liveFeed?_eq_some_iff.2 ⟨feed, hphase feed hfeed, hsub, hlive⟩)
  have happend : v.Tracks status taken (sub.queue ++ []) :=
    htracks.append hcondition hs (by simp [hchain])
  rw [List.append_nil] at happend
  exact ⟨hcapacity, status, taken, ho, happend⟩

theorem KeepsTrack.stay (h : w.KeepsTrack o) (hphase : v.phase = w.phase)
    (haccess : v.access = w.access) (hcondition : v.condition = w.condition)
    (hs : v.session = w.session) : v.KeepsTrack (w.lastRead v o) := by
  rw [lastRead_of_eq (congrArg Access.reads haccess)]
  exact h.congr (fun _ hfeed => hphase.symm.trans hfeed) (congrArg Access.chain haccess)
    hcondition hs

theorem KeepsTrack.attend {mailbox : Mailbox} {ticket : Nat} {r : Request} (h : w.KeepsTrack o) :
    ({ w with mailbox := mailbox }.attend ticket r).KeepsTrack
      (w.lastRead ({ w with mailbox := mailbox }.attend ticket r) o) := by
  obtain ⟨haccess, hphase, -, -, hsession⟩ := serve_cases { w with mailbox := mailbox } ticket r
  have hcondition := condition_serve { w with mailbox := mailbox } ticket r
  rw [Watch.attend]
  generalize ({ w with mailbox := mailbox } : Watch).serve ticket r = u at *
  dsimp only
  split
  · -- The watch follows a feed. Only a request that begins an epoch makes it leave.
    rcases hsession with ⟨hnew, hs⟩ | ⟨hnew, -⟩
    · rw [if_neg (Bool.eq_false_iff.1 hnew)]
      exact h.stay hphase haccess hcondition hs
    · rw [if_pos hnew]
      exact keepsTrack_of_not_following fun _ hfeed => by cases hfeed
  · rename_i hne
    exact keepsTrack_of_not_following hne

/-- A turn keeps track of the live feed. -/
theorem KeepsTrack.turn (h : w.KeepsTrack o) (hw : w.IsGrounded) (hordered : w.IsOrdered)
    (hturn : w.Turn v) : v.KeepsTrack (w.lastRead v o) := by
  cases hturn with
  | stop _ => exact keepsTrack_of_not_following fun _ hfeed => by cases hfeed
  | dispatch _ _ _ _ => exact h.stay rfl rfl rfl rfl
  | connect _ _ _ => exact keepsTrack_connect hw
  | take _ houtbox hphase hnext => exact h.take hw hordered houtbox hphase hnext
  | lose _ _ _ _ => exact keepsTrack_of_not_following (phase_giveUp _ _)
  | attend _ _ _ _ => exact h.attend
  | wake _ _ _ _ => exact keepsTrack_of_not_following fun _ hfeed => by cases hfeed

/-! ## Inputs -/

/-- An input for which there is room keeps track of the live feed. -/
theorem KeepsTrack.accept (h : w.KeepsTrack o) (hw : w.IsGrounded) (hroom : w.HasRoom input) :
    (w.accept input).KeepsTrack o := by
  have hs := (accept_frame w input).session_eq
  have hchain := (accept_frame w input).chain_eq
  have hcondition := (accept_frame w input).condition_eq
  cases hh : input.happening? with
  | none =>
    rw [hh, Option.elim_none] at hchain
    exact h.congr (fun _ => (following_accept_iff w input).1) hchain hcondition hs
  | some happening =>
    rw [hh, Option.elim_some] at hchain
    intro sub hsub
    obtain ⟨feed, hfeed, hsub, hlive⟩ := liveFeed?_eq_some_iff.1 hsub
    rw [following_accept_iff] at hfeed
    rw [hchain, Chain.subscription?_undergo] at hsub
    obtain ⟨sub', hsub', rfl⟩ := Option.map_eq_some_iff.1 hsub
    have hlive' := Chain.isLive_of_isLive_relay hlive
    have hfollowed := liveFeed?_eq_some_iff.2 ⟨feed, hfeed, hsub', hlive'⟩
    obtain ⟨sub'', hsub'', hfilter, -⟩ := hw.feed feed hfeed
    cases hsub'.symm.trans hsub''
    obtain ⟨hcapacity, status, taken, ho, htracks⟩ := h sub' hfollowed
    -- As there is room, the feed is told what is added to its backlog.
    have hfits := hroom sub' hfollowed
    rw [offers_of_happening hfollowed hh] at hfits
    rw [Chain.capacity_relay, Chain.queue_relay_of_room hlive' hfits]
    refine ⟨hcapacity, status, taken, ho, htracks.append hcondition hs ?_⟩
    rw [hchain, hfilter, Chain.backlog_undergo]

/-! ## Runs -/

theorem isOrdered_of_step (h : Step u v) (hv : v.IsOrdered) : u.IsOrdered := by
  rw [IsOrdered, ← h.move.serves.history_eq]
  exact hv

theorem isOrdered_of_accept (h : (u.accept input).IsOrdered) : u.IsOrdered := by
  rw [IsOrdered, (accept_frame u input).chain_eq] at h
  cases hh : input.happening? with
  | none =>
    rw [hh] at h
    exact h
  | some happening =>
    rw [hh, Option.elim_some, Chain.history_undergo] at h
    exact h.sublist (List.sublist_append_left _ _)

/-- A watch keeps track of its live feed while that drops nothing. -/
theorem Lossless.keepsTrack (hw : w.IsNew) (h : w.Lossless v o) (hordered : v.IsOrdered) :
    v.KeepsTrack o := by
  have hturn : ∀ {u v o}, w.Lossless u o → Step u v → u.KeepsTrack o → v.IsOrdered →
      v.KeepsTrack (u.lastRead v o) := fun hu hstep h hordered =>
    h.turn (isGrounded_leads hw.isGrounded hu.leads) (isOrdered_of_step hstep hordered) hstep.turn
  -- By induction on the run. As no entry is ever taken off the chain, the
  -- entries were in order all along if they are in the end.
  induction h with
  | refl =>
    cases hw
    exact keepsTrack_of_not_following fun _ hfeed => by cases hfeed
  | @step u v o hu hstep hreads ih =>
    rw [← show u.lastRead v o = o from if_pos hreads]
    exact hturn hu hstep (ih (isOrdered_of_step hstep hordered)) hordered
  | @read u v o hu hstep hreads ih =>
    rw [← show u.lastRead v o = _ from if_neg hreads]
    exact hturn hu hstep (ih (isOrdered_of_step hstep hordered)) hordered
  | accept input hu hroom ih =>
    exact (ih (isOrdered_of_accept hordered)).accept (isGrounded_leads hw.isGrounded hu.leads) hroom

/-- A watch that waits for its feed has taken in the whole backlog, and its status has
    come about from that and from the status that was read last. -/
theorem Lossless.tracks (hw : w.IsNew) (h : w.Lossless v (some status)) (hrest : v.AwaitsFeed)
    (hordered : v.IsOrdered) : ∃ feed, v.phase = .following feed ∧
      v.access.chain.IsIdle feed v.filter ∧
      v.Tracks status (v.access.chain.backlog v.filter) [] := by
  obtain ⟨sub, hsub, hempty⟩ := hrest.liveFeed?
  obtain ⟨hcapacity, status', taken, hstatus, htracks⟩ := h.keepsTrack hw hordered sub hsub
  obtain ⟨feed, hphase, hsub, hlive⟩ := liveFeed?_eq_some_iff.1 hsub
  obtain ⟨sub', hsub', hfilter, -⟩ := (isGrounded_leads hw.isGrounded h.leads).feed feed hphase
  cases hsub.symm.trans hsub'
  cases hstatus
  -- Nothing is left in the feed, so all of the backlog has been taken.
  have htaken : v.access.chain.backlog v.filter = taken := by
    rw [htracks.backlog_eq, hempty]
    exact List.append_nil _
  rw [htaken, ← hempty]
  exact ⟨feed, hphase, ⟨sub, hsub, hfilter, hempty, hlive, hcapacity⟩, htracks⟩

end ShuffleWatch.Watch
