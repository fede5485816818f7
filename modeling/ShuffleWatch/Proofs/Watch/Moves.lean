import ShuffleWatch.Proofs.Chain.Delivery
import ShuffleWatch.Proofs.Session.Account
import ShuffleWatch.Watch.Run

/-!
# Moves of a watch

What a watch can do in a step, said twice. The first account is by the turns of
its loop, with the watch that each leads to (`Turn`, `Step.turn`). The second is
by what becomes of the session, of the chain and of the action under way, which
is all that matters to what the session knows (`Move`, `Turn.move`): the watch

* attaches to a new feed, and adopts a status while requests are held back;
* takes an item from its feed, and reads the status again if a new epoch began;
* stays with its feed, when it sends an action or serves a request;
* or leaves, and follows no feed from then on.
-/

namespace ShuffleWatch.Watch

/-! ## Turns -/

/-- The turns of the loop of a watch, and the watch that each leads to. -/
inductive Turn (w : Watch) : Watch → Prop
  /-- It is aborted, or there will be no further requests. -/
  | stop : w.isKilled = true ∨ w.mailbox.waiting = [] ∧ w.mailbox.isOpen = false → Turn w w.stop
  /-- The action on its way reaches the outlet, or is lost if that is closed. -/
  | dispatch {action : Action} {outlet : Outlet} {sent : Sent} : w.isKilled = false →
      w.outbox = some action → w.outlet.send action = (outlet, sent) → sent ≠ .full →
      Turn w { w with outlet := outlet, outbox := none }
  | connect : w.isKilled = false → w.outbox = none → w.phase = .connecting → Turn w w.connect
  | take {feed : Nat} {access : Access} {item : Item} : w.isKilled = false → w.outbox = none →
      w.phase = .following feed → w.access.next feed = (access, .item item) →
      Turn w ({ w with access := access }.take feed item)
  /-- The feed came to an end without a word. -/
  | lose {feed : Nat} {access : Access} : w.isKilled = false → w.outbox = none →
      w.phase = .following feed → w.access.next feed = (access, .ended) →
      Turn w (w.lose.giveUp feed)
  /-- A request is served, when nothing waits in the feed or there is none. -/
  | attend {ticket : Nat} {r : Request} {rest : List (Nat × Request)} : w.isKilled = false →
      w.outbox = none → w.mailbox.waiting = (ticket, r) :: rest →
      (∀ feed, w.phase = .following feed → (w.access.next feed).2 = .pending) →
      Turn w ({ w with mailbox := { w.mailbox with waiting := rest } }.attend ticket r)
  /-- The wait is over. -/
  | wake {due : Duration} : w.isKilled = false → w.outbox = none → w.phase = .waiting due →
      due ≤ w.clock → Turn w { w with phase := .connecting }

variable {u v w : Watch} {feed : Nat}

theorem turn_of_serveNext? (hkilled : w.isKilled = false) (houtbox : w.outbox = none)
    (hpending : ∀ feed, w.phase = .following feed → (w.access.next feed).2 = .pending)
    (h : w.serveNext? = some v) : w.Turn v := by
  rw [serveNext?] at h
  split at h
  · rename_i ticket r rest hwaiting
    cases h
    exact .attend hkilled houtbox hwaiting hpending
  · rename_i hwaiting
    split at h
    · cases h
    · rename_i hopen
      cases h
      exact .stop (.inr ⟨hwaiting, Bool.eq_false_iff.2 hopen⟩)

theorem turn_of_proceed? (hkilled : w.isKilled = false) (houtbox : w.outbox = none)
    (h : w.proceed? = some v) : w.Turn v := by
  rw [proceed?] at h
  -- What comes next is a matter of the phase. Requests are served in two of them.
  cases hphase : w.phase with
  | idle =>
    rw [hphase] at h
    cases h
  | stopped =>
    rw [hphase] at h
    cases h
  | connecting =>
    rw [hphase] at h
    cases h
    exact .connect hkilled houtbox hphase
  | following feed =>
    rw [hphase] at h
    change w.follow? feed = some v at h
    rw [follow?] at h
    split at h
    · rename_i access item hnext
      cases h
      exact .take hkilled houtbox hphase hnext
    · rename_i access hnext
      cases h
      exact .lose hkilled houtbox hphase hnext
    · rename_i access hnext
      refine turn_of_serveNext? hkilled houtbox (fun feed' hfeed' => ?_) h
      rw [hphase] at hfeed'
      cases hfeed'
      rw [hnext]
  | waiting due =>
    rw [hphase] at h
    change w.wait? due = some v at h
    rw [wait?, Option.or_eq_some_iff] at h
    rcases h with h | ⟨-, h⟩
    · -- A watch that waits follows no feed, so there is nothing to show of one.
      refine turn_of_serveNext? hkilled houtbox (fun feed hfeed => ?_) h
      rw [hphase] at hfeed
      cases hfeed
    · split at h
      · rename_i hdue
        cases h
        exact .wake hkilled houtbox hphase hdue
      · cases h

/-- Every step is a turn. -/
theorem Step.turn (h : Step w v) : w.Turn v := by
  cases h with
  | step h =>
    rw [step?] at h
    split at h
    · cases h
    split at h
    · rename_i hkilled
      cases h
      exact .stop (.inl hkilled)
    rename_i hkilled
    rw [Bool.not_eq_true] at hkilled
    -- An action under way comes before anything else.
    cases houtbox : w.outbox with
    | none =>
      rw [houtbox] at h
      exact turn_of_proceed? hkilled houtbox h
    | some action =>
      rw [houtbox] at h
      change w.dispatch? action = some v at h
      rw [dispatch?] at h
      split at h
      · cases h
      · rename_i outlet sent hfull hsend
        cases h
        exact .dispatch hkilled houtbox hsend hfull
  | resume hphase hdue hkilled houtbox => exact .wake hkilled houtbox hphase hdue

/-! ## Moves -/

/-- The entry waits in the feed that the watch follows. -/
def Awaits (w : Watch) (e : Entry) : Prop :=
  ∃ feed sub, w.phase = .following feed ∧ w.access.chain.subscription? feed = some sub ∧
    .entry e ∈ sub.queue

/-- What becomes of the session, of the chain and of the action under way in a
    step. -/
inductive Move (w : Watch) (v : Watch) : Prop
  /-- A feed is opened, and a status is adopted. -/
  | attach {status : Status} : w.outbox = none → v.phase = .following w.access.chain.opened →
      v.access.chain = (w.access.chain.subscribe w.filter).1 →
      v.session = (w.session.awaitBacklog.seed status).1 →
      v.outbox = (w.session.awaitBacklog.seed status).2 → Move w v
  /-- An item is taken in. -/
  | take {feed : Nat} {item : Item} : w.outbox = none → w.phase = .following feed →
      v.phase = .following feed → w.access.chain.next feed = (v.access.chain, .item item) →
      v.session = (w.session.receive item).1 →
      v.outbox = (w.session.receive item).2.action? → Move w v
  /-- An item is taken in, which begins an epoch, and a status is adopted. -/
  | resync {feed : Nat} {item : Item} {status : Status} : w.outbox = none →
      w.phase = .following feed → v.phase = .following feed →
      w.access.chain.next feed = (v.access.chain, .item item) →
      v.session = ((w.session.receive item).1.seed status).1 →
      v.outbox = ((w.session.receive item).1.seed status).2 → Move w v
  /-- The feed is kept, with what waits in it. -/
  | stay : v.phase = w.phase → v.access.chain = w.access.chain → v.session = w.session →
      v.outbox = none → Move w v
  /-- No feed is followed from then on. -/
  | leave (ops : List Session.Operation) : (∀ feed, v.phase ≠ .following feed) →
      w.access.chain.Serves v.access.chain → v.session = (w.session.run ops).1 →
      (∀ e ∈ Session.entries ops, w.Awaits e) → v.outbox = none → Move w v

/-- A watch that gives up its feed does not follow any. -/
theorem phase_giveUp (w : Watch) (feed feed' : Nat) :
    (w.giveUp feed).phase ≠ .following feed' := fun h => by cases h

/-- What the application has in its hands: the mailbox and the outlet. -/
def ends (w : Watch) : Mailbox × Outlet := (w.mailbox, w.outlet)

/-- `u` is `w` with another session, condition, action under way or count of status reads. -/
def Updates (w u : Watch) : Prop :=
  ∃ session condition outbox reads, u = { w with
    session := session
    condition := condition
    outbox := outbox
    access := { w.access with reads := reads } }

theorem updates_resync (w : Watch) : w.Updates w.resync.1 := by
  have hread : w.access.readStatus w.session.game =
      ({ w.access with reads := w.access.reads + 1 },
        (w.access.readStatus w.session.game).2) := rfl
  rw [resync, hread]
  dsimp only
  split <;> exact ⟨_, _, _, _, rfl⟩

/-- An item updates the watch, which then goes on with what it does, or gives up its feed. -/
theorem updates_take (w : Watch) (feed : Nat) (item : Item) :
    ∃ u, w.Updates u ∧ (w.take feed item = u ∨ w.take feed item = u.giveUp feed) := by
  obtain ⟨_, _, _, _, hread⟩ := updates_resync { w with session := (w.session.receive item).1 }
  rw [take]
  dsimp only
  split
  · exact ⟨_, ⟨_, _, _, _, rfl⟩, .inl rfl⟩
  · refine ⟨_, ⟨_, _, _, _, hread⟩, ?_⟩
    split
    · exact .inl rfl
    · exact .inr rfl
  · exact ⟨_, ⟨_, _, _, _, rfl⟩, .inr rfl⟩
  · exact ⟨_, ⟨_, _, _, _, rfl⟩, .inl rfl⟩

/-- An attempt to open a feed updates the watch, which then waits, or follows the feed. -/
theorem updates_connect (w : Watch) :
    ∃ u, ({ w with access := (w.access.subscribe w.filter).1 } : Watch).Updates u ∧
      (w.connect = u.backOff ∨ w.connect = u.giveUp w.access.chain.opened ∨
        w.connect = { u with
          backoff := u.backoff.reset
          phase := .following w.access.chain.opened }) := by
  rw [connect]
  rcases hopen : w.access.subscribe w.filter with ⟨access, fault | feed⟩
  · exact ⟨_, ⟨_, _, _, _, rfl⟩, .inl rfl⟩
  · -- The feed is open. What is left is to read the status, which updates the watch.
    have hfeed : feed = w.access.chain.opened := by
      rw [Access.subscribe] at hopen
      split at hopen <;> cases hopen
      rfl
    obtain ⟨_, _, _, _, hread⟩ :=
      updates_resync { w with access := access, session := w.session.awaitBacklog }
    refine ⟨_, ⟨_, _, _, _, hread⟩, .inr ?_⟩
    subst hfeed
    dsimp only
    rw [attach]
    dsimp only
    split
    · exact .inr rfl
    · exact .inl rfl

/-- Reading the status leaves the chain, the phase, the mailbox and the outlet as
    they are. -/
theorem resync_frame (w : Watch) :
    w.resync.1.access.chain = w.access.chain ∧ w.resync.1.phase = w.phase ∧
      w.resync.1.ends = w.ends := by
  obtain ⟨_, _, _, _, hread⟩ := updates_resync w
  rw [hread]
  exact ⟨rfl, rfl, rfl⟩

/-- A status is read and adopted, or there is none to adopt. -/
theorem resync_cases (w : Watch) :
    (w.resync.2 = true ∧ ∃ status, w.resync.1.session = (w.session.seed status).1 ∧
      w.resync.1.outbox = (w.session.seed status).2) ∨
    (w.resync.2 = false ∧ w.resync.1.outbox = w.outbox ∧
      (w.resync.1.session = w.session ∨ w.resync.1.session = w.session.loseLink)) := by
  rw [resync, Access.readStatus]
  cases w.access.statusFault with
  | some fault => exact .inr ⟨rfl, rfl, .inr rfl⟩
  | none =>
    dsimp only
    cases w.access.chain.statusOf w.session.game with
    | none => exact .inr ⟨rfl, rfl, .inl rfl⟩
    | some status => exact .inl ⟨rfl, status, rfl, rfl⟩

/-- What becomes of a watch `w` that has opened a feed, which makes it `u`. -/
theorem move_attach (houtbox : w.outbox = none) (hsession : u.session = w.session)
    (houtbox' : u.outbox = w.outbox)
    (hchain : u.access.chain = (w.access.chain.subscribe w.filter).1) :
    w.Move (u.attach w.access.chain.opened) := by
  rw [attach]
  generalize hv : ({ u with session := u.session.awaitBacklog } : Watch) = v
  have hsessionv : v.session = w.session.awaitBacklog := by rw [← hv, ← hsession]
  have houtboxv : v.outbox = none := by rw [← hv, ← houtbox, ← houtbox']
  have hchainv : v.resync.1.access.chain = (w.access.chain.subscribe w.filter).1 := by
    rw [(resync_frame v).1, ← hchain, ← hv]
  dsimp only
  -- A status that is read decides: with one, the watch attaches to
  -- the new feed, and without one it gives it up again.
  rcases resync_cases v with ⟨hread, status, hs, ho⟩ | ⟨hread, ho, hs⟩
  · rw [if_pos hread]
    rw [hsessionv] at hs ho
    exact .attach houtbox rfl hchainv hs ho
  · rw [if_neg (Bool.eq_false_iff.1 hread)]
    rw [houtboxv] at ho
    rw [hsessionv] at hs
    have hserves : w.access.chain.Serves v.resync.1.access.chain := by
      rw [hchainv]
      exact .subscribe w.filter .refl
    rcases hs with hs | hs
    · exact .leave [.awaitBacklog] (phase_giveUp _ _) (hserves.release _) hs nofun ho
    · exact .leave [.awaitBacklog, .loseLink] (phase_giveUp _ _) (hserves.release _) hs nofun ho

theorem move_connect (houtbox : w.outbox = none) : w.Move w.connect := by
  rw [connect, Access.subscribe]
  cases w.access.subscribeFault with
  | some fault => exact .leave [.loseLink] (fun _ h => by cases h) .refl rfl nofun houtbox
  | none => exact move_attach houtbox rfl rfl rfl

/-- A look at the feed through the access is one at the feed of the chain. -/
theorem next_eq_of_access {access : Access} {found : Next}
    (h : w.access.next feed = (access, found)) :
    w.access.chain.next feed = (access.chain, found) := by
  obtain ⟨rfl, rfl⟩ := Prod.mk.inj h
  rfl

/-- The entry that a look at the feed finds was waiting in it. -/
theorem awaits_of_next {d : Chain} {item : Item} {ops : List Session.Operation}
    (hphase : w.phase = .following feed) (hnext : w.access.chain.next feed = (d, .item item))
    (hops : Session.entries ops = []) :
    ∀ e ∈ Session.entries (.receive item :: ops), w.Awaits e := by
  intro e he
  rw [Session.entries_cons, hops, List.append_nil] at he
  obtain ⟨sub, rest, hsub, hqueue, -⟩ := Chain.next_eq_item hnext
  cases item with
  | entry e' =>
    rw [List.mem_singleton.1 he]
    exact ⟨feed, sub, hphase, hsub, hqueue ▸ List.mem_cons_self⟩
  | caughtUp => cases he
  | fault f => cases he

/-- What comes of an item is read off the verdict of the session. -/
theorem move_take {access : Access} {item : Item} (houtbox : w.outbox = none)
    (hphase : w.phase = .following feed) (hnext : w.access.next feed = (access, .item item)) :
    w.Move ({ w with access := access }.take feed item) := by
  replace hnext := next_eq_of_access hnext
  have hserves : w.access.chain.Serves access.chain := by
    have hchain : access.chain = (w.access.chain.next feed).1 := by rw [hnext]
    rw [hchain]
    exact .next feed .refl
  rw [take]
  rcases hreceive : w.session.receive item with ⟨s, verdict⟩
  have hs : s = (w.session.receive item).1 := (congrArg Prod.fst hreceive).symm
  -- Most verdicts only concern the session: the watch stays with its feed.
  have htake : w.Move { w with access := access, session := s, outbox := verdict.action? } :=
    .take houtbox hphase hphase hnext hs (by rw [hreceive])
  dsimp only
  cases verdict with
  | changed action => exact htake
  | unchanged => exact houtbox ▸ htake
  | filtered why => exact houtbox ▸ htake
  | malformed => exact houtbox ▸ htake
  | disconnected =>
    exact .leave [.receive item] (phase_giveUp _ _) (hserves.release _) hs
      (awaits_of_next hphase hnext rfl) houtbox
  | reset =>
    -- An epoch begins. `u` is the watch that reads the status then: it has the new session and
    -- the new place in the feed, and no action under way.
    generalize hu : ({ w with access := access, session := s } : Watch) = u
    have hsession : u.session = (w.session.receive item).1 := by rw [← hu, hs]
    have houtboxu : u.outbox = none := by
      rw [← hu]
      exact houtbox
    have hphaseu : u.resync.1.phase = .following feed := by
      rw [(resync_frame u).2.1, ← hu]
      exact hphase
    have hchain : u.resync.1.access.chain = access.chain := by rw [(resync_frame u).1, ← hu]
    rw [← hchain] at hnext hserves
    dsimp only
    rcases resync_cases u with ⟨hread, status, hseed, ho⟩ | ⟨hread, ho, hkeep⟩
    · -- With a status to adopt the watch stays with its feed.
      rw [if_pos hread]
      rw [hsession] at hseed ho
      exact .resync houtbox hphase hphaseu hnext hseed ho
    · -- Without one it leaves. The chain was lost if reading
      -- failed, and there is no such game if it did not.
      rw [if_neg (Bool.eq_false_iff.1 hread)]
      rw [houtboxu] at ho
      rw [hsession] at hkeep
      rcases hkeep with hkeep | hkeep
      · exact .leave [.receive item] (phase_giveUp _ _) (hserves.release _) hkeep
          (awaits_of_next hphase hnext rfl) ho
      · exact .leave [.receive item, .loseLink] (phase_giveUp _ _) (hserves.release _) hkeep
          (awaits_of_next hphase hnext rfl) ho

/-- A request is served by the session, or by the watch alone. -/
theorem serve_cases (w : Watch) (ticket : Nat) (r : Request) :
    (w.serve ticket r).1.access = w.access ∧ (w.serve ticket r).1.phase = w.phase ∧
      (w.serve ticket r).1.outbox = w.outbox ∧ (w.serve ticket r).1.outlet = w.outlet ∧
      ((w.serve ticket r).2 = false ∧ (w.serve ticket r).1.session = w.session ∨
        (w.serve ticket r).2 = true ∧ ∃ op : Session.Operation, op.startsOver = true ∧
          (w.serve ticket r).1.session = (w.session.perform op).1) := by
  cases r with
  | restart => exact ⟨rfl, rfl, rfl, rfl, .inr ⟨rfl, .restart, rfl, rfl⟩⟩
  | rebind players self =>
    rw [serve]
    cases hr : w.session.rebind players self with
    | error refusal => exact ⟨rfl, rfl, rfl, rfl, .inl ⟨rfl, rfl⟩⟩
    | ok s =>
      refine ⟨rfl, rfl, rfl, rfl, .inr ⟨rfl, .rebind players self, rfl, ?_⟩⟩
      rw [Session.perform, hr]
  | snapshot => exact ⟨rfl, rfl, rfl, rfl, .inl ⟨rfl, rfl⟩⟩

/-- A request that begins an epoch makes the watch leave its feed. -/
theorem move_attend {mailbox : Mailbox} {ticket : Nat} {r : Request} (houtbox : w.outbox = none) :
    w.Move ({ w with mailbox := mailbox }.attend ticket r) := by
  obtain ⟨haccess, hphase, ho, -, hsession⟩ := serve_cases { w with mailbox := mailbox } ticket r
  rw [attend]
  generalize ({ w with mailbox := mailbox } : Watch).serve ticket r = u at *
  have houtboxu : u.1.outbox = none := ho.trans houtbox
  have hchain : u.1.access.chain = w.access.chain := congrArg Access.chain haccess
  have hserves : w.access.chain.Serves u.1.access.chain := by
    rw [hchain]
    exact .refl
  -- What the application asks for brings no entries.
  have hentries : ∀ op : Session.Operation, op.startsOver = true →
      ∀ e ∈ Session.entries [op], w.Awaits e := by
    intro op hop e he
    cases op with
    | restart => cases he
    | rebind players self => cases he
    | _ => cases hop
  dsimp only
  split
  · rename_i feed hfeed
    rcases hsession with ⟨hnew, hs⟩ | ⟨hnew, op, hop, hs⟩
    · -- Only a new epoch makes a watch that follows a feed give it up.
      rw [if_neg (Bool.eq_false_iff.1 hnew)]
      exact .stay hphase hchain hs houtboxu
    · rw [if_pos hnew]
      exact .leave [op] (fun _ h => by cases h) (hserves.release feed) hs (hentries op hop) houtboxu
  · rename_i hne
    rcases hsession with ⟨-, hs⟩ | ⟨-, op, hop, hs⟩
    · exact .leave [] hne hserves hs nofun houtboxu
    · exact .leave [op] hne hserves hs (hentries op hop) houtboxu

theorem move_stop : w.Move w.stop := by
  rw [stop]
  refine .leave [] (fun _ h => by cases h) ?_ ?_ nofun rfl
  · split
    · exact .release _ .refl
    · exact .refl
  · split <;> rfl

/-- Every turn is a move. -/
theorem Turn.move (h : w.Turn v) : w.Move v := by
  cases h with
  | stop _ => exact move_stop
  | dispatch _ _ _ _ => exact .stay rfl rfl rfl rfl
  | connect _ houtbox _ => exact move_connect houtbox
  | take _ houtbox hphase hnext => exact move_take houtbox hphase hnext
  | lose _ houtbox hphase hnext =>
    exact .leave [.loseLink] (phase_giveUp _ _) (.release _ .refl) rfl nofun houtbox
  | attend _ houtbox _ _ => exact move_attend houtbox
  | wake _ houtbox _ _ => exact .leave [] (fun _ h => by cases h) .refl rfl nofun houtbox

theorem Step.move (h : Step w v) : w.Move v := h.turn.move

/-! ## Moves, as operations on the session and on the chain -/

/-- What becomes of the session in a move is a run of operations on it, and the
    entries that they bring were waiting in the feed. -/
theorem Move.session_eq (h : w.Move v) : ∃ ops, v.session = (w.session.run ops).1 ∧
    ∀ e ∈ Session.entries ops, w.Awaits e := by
  cases h with
  | @attach status _ _ _ hs _ => exact ⟨[.awaitBacklog, .seed status], hs, nofun⟩
  | @take feed item _ hphase _ hnext hs _ =>
    exact ⟨[.receive item], hs, awaits_of_next hphase hnext rfl⟩
  | @resync feed item status _ hphase _ hnext hs _ =>
    exact ⟨[.receive item, .seed status], hs, awaits_of_next hphase hnext rfl⟩
  | stay _ _ hs _ => exact ⟨[], hs, nofun⟩
  | leave ops _ _ hs hawaits _ => exact ⟨ops, hs, hawaits⟩

theorem Move.game_eq (h : w.Move v) : v.session.game = w.session.game := by
  obtain ⟨ops, hs, -⟩ := h.session_eq
  rw [hs]
  exact Session.game_run ops

/-- Nothing happens on the chain in a move. -/
theorem Move.serves (h : w.Move v) : w.access.chain.Serves v.access.chain := by
  have hnext : ∀ {feed d found}, w.access.chain.next feed = (d, found) →
      w.access.chain.Serves d := by
    intro feed d found hnext
    rw [show d = (w.access.chain.next feed).1 by rw [hnext]]
    exact .next feed .refl
  cases h with
  | attach _ _ hchain _ _ =>
    rw [hchain]
    exact .subscribe w.filter .refl
  | take _ _ _ hitem _ _ => exact hnext hitem
  | resync _ _ _ hitem _ _ => exact hnext hitem
  | stay _ hchain _ _ =>
    rw [hchain]
    exact .refl
  | leave _ _ hserves _ _ _ => exact hserves

/-! ## The mailbox and the outlet -/

theorem ends_connect : w.connect.ends = w.ends := by
  have hopened : ({ w with access := (w.access.subscribe w.filter).1 } : Watch).ends = w.ends := rfl
  obtain ⟨u, ⟨_, _, _, _, rfl⟩, heq | heq | heq⟩ := updates_connect w
  · rw [heq]
    exact hopened
  · rw [heq]
    exact hopened
  · rw [heq]
    exact hopened

theorem ends_take {item : Item} : (w.take feed item).ends = w.ends := by
  obtain ⟨u, ⟨_, _, _, _, rfl⟩, heq | heq⟩ := updates_take w feed item
  · rw [heq]
    rfl
  · rw [heq]
    rfl

theorem outlet_attend {ticket : Nat} {r : Request} : (w.attend ticket r).outlet = w.outlet := by
  obtain ⟨-, -, -, hframe, -⟩ := serve_cases w ticket r
  rw [attend]
  dsimp only
  split
  · split
    · exact hframe
    · exact hframe
  · exact hframe

/-- A watch without an action under way sends nothing to the outlet. -/
theorem outlet_eq_of_step (houtbox : w.outbox = none) (h : Step w v) : v.outlet = w.outlet := by
  cases h.turn with
  | stop _ =>
    rw [stop]
    split <;> rfl
  | dispatch _ haction _ _ =>
    rw [houtbox] at haction
    cases haction
  | connect _ _ _ => exact congrArg Prod.snd ends_connect
  | take _ _ _ _ => exact congrArg Prod.snd ends_take
  | lose _ _ _ _ => rfl
  | attend _ _ _ _ => exact outlet_attend
  | wake _ _ _ _ => rfl

/-! ## Inputs -/

/-- What happens on the chain in an input, if it is that. -/
def Input.happening? : Input → Option Chain.Happening
  | .happen h => some h
  | _ => none

/-- What an input leaves of a watch `w`, which it makes `v`. The rest is up to the input: the
    clock, the faults, the requests that wait, and what the application takes, closes or kills. -/
structure AcceptFrame (w : Watch) (input : Input) (v : Watch) : Prop where
  session_eq : v.session = w.session
  condition_eq : v.condition = w.condition
  backoff_eq : v.backoff = w.backoff
  outbox_eq : v.outbox = w.outbox
  /-- Only what happens on the chain changes it. -/
  chain_eq : v.access.chain =
    input.happening?.elim w.access.chain fun h => (w.access.chain.undergo h).1
  replies_eq : v.mailbox.replies = w.mailbox.replies
  capacity_eq : v.outlet.capacity = w.outlet.capacity
  /-- The watch goes on with what it does, unless it is started. -/
  phase_eq : v.phase = w.phase ∨ w.phase = .idle ∧ v.phase = .connecting

theorem accept_frame (w : Watch) (input : Input) : w.AcceptFrame input (w.accept input) := by
  cases input with
  | start =>
    rw [accept]
    split
    · rename_i hidle
      exact ⟨rfl, rfl, rfl, rfl, rfl, rfl, rfl, .inr ⟨hidle, rfl⟩⟩
    · exact ⟨rfl, rfl, rfl, rfl, rfl, rfl, rfl, .inl rfl⟩
  | post r =>
    rw [accept]
    split <;> exact ⟨rfl, rfl, rfl, rfl, rfl, rfl, rfl, .inl rfl⟩
  | kill =>
    rw [accept]
    split <;> exact ⟨rfl, rfl, rfl, rfl, rfl, rfl, rfl, .inl rfl⟩
  | _ => exact ⟨rfl, rfl, rfl, rfl, rfl, rfl, rfl, .inl rfl⟩

/-- An input begins nothing but the first attempt, and ends nothing. -/
theorem phase_accept_iff {phase : Phase} (hidle : phase ≠ .idle)
    (hconnecting : phase ≠ .connecting) (input : Input) :
    (w.accept input).phase = phase ↔ w.phase = phase := by
  rcases (accept_frame w input).phase_eq with hsame | ⟨hphase, hphase'⟩
  · rw [hsame]
  · rw [hphase, hphase']
    exact iff_of_false hconnecting.symm hidle.symm

/-- No input makes a watch follow a feed, or leave it. -/
theorem following_accept_iff (w : Watch) (input : Input) :
    (w.accept input).phase = .following feed ↔ w.phase = .following feed :=
  phase_accept_iff (by simp) (by simp) input

/-- Nor does one begin or end a wait. -/
theorem waiting_accept_iff {due : Duration} (w : Watch) (input : Input) :
    (w.accept input).phase = .waiting due ↔ w.phase = .waiting due :=
  phase_accept_iff (by simp) (by simp) input

end ShuffleWatch.Watch
