import ShuffleWatch.Proofs.Session.Renewal
import ShuffleWatch.Proofs.Watch.Display
import ShuffleWatch.Proofs.Watch.Settling

/-!
# Serving requests

What a watch makes of a request for a new epoch. One that the session refuses changes nothing
but the mailbox, so the watch goes on with what it did (`attend_rebind_of_error`). One that it
does not refuse begins an epoch: a watch that follows a feed gives it up and starts over at
once (`attend_of_following`), and one that waits waits on (`attend_of_not_following`). A step
in which a request is answered does just that (`answersAs_attend`). The session of the new
epoch shows no trace of what came before (`renewal_of_run`).
-/

namespace ShuffleWatch

/-- The session of the epoch that the request begins, if it begins one. -/
def Request.renewal? (s : Session) : Request → Option Session
  | .restart => some s.restart
  | .rebind players self => (s.rebind players self).toOption
  | .snapshot => none

namespace Watch

/-- The mailbox after the answer to its oldest request, with those that wait on. -/
def answered (w : Watch) (ticket : Nat) (rest : List (Nat × Request)) (reply : Reply) : Mailbox :=
  { w.mailbox with waiting := rest }.answer ticket reply

/-- The watch turns to its mailbox: it waits, or nothing waits in the feed that it follows. -/
structure IsListening (w : Watch) : Prop where
  isKilled_eq : w.isKilled = false
  outbox_eq : w.outbox = none
  attends : (∃ due, w.phase = .waiting due) ∨
    ∃ feed, w.phase = .following feed ∧ (w.access.next feed).2 = .pending

variable {v w : Watch} {feed ticket : Nat} {r : Request} {rest : List (Nat × Request)}
  {mailbox : Mailbox} {players : Players} {self : Option Address} {refusal : Refusal} {s : Session}

/-! ## Attending to a request -/

theorem serve_of_renewal (h : r.renewal? w.session = some s) :
    ({ w with mailbox := mailbox } : Watch).serve ticket r =
      ({ w with session := s, mailbox := mailbox.answer ticket .done }, true) := by
  cases r with
  | restart =>
    obtain rfl := Option.some.inj h
    rfl
  | rebind players self =>
    rw [Request.renewal?] at h
    rw [serve]
    dsimp only
    -- A rebinding that is refused renews nothing.
    cases hrebind : w.session.rebind players self with
    | error refusal =>
      rw [hrebind] at h
      cases h
    | ok u =>
      rw [hrebind] at h
      obtain rfl := Option.some.inj h
      rfl
  | snapshot => cases h

/-- What is refused changes nothing but the mailbox. -/
theorem attend_rebind_of_error (h : w.session.rebind players self = .error refusal) :
    ({ w with mailbox := mailbox } : Watch).attend ticket (.rebind players self) =
      { w with mailbox := mailbox.answer ticket (.refused (.ofRefusal refusal)) } := by
  rw [attend, serve]
  dsimp only
  rw [h]
  dsimp only
  split <;> rfl

/-- When an epoch begins, a watch that follows a feed gives it up and starts over. -/
theorem attend_of_following (h : r.renewal? w.session = some s)
    (hphase : w.phase = .following feed) :
    ({ w with mailbox := mailbox } : Watch).attend ticket r = { w.release feed with
      session := s, mailbox := mailbox.answer ticket .done, phase := .connecting } := by
  rw [attend, serve_of_renewal h]
  dsimp only
  rw [hphase]
  rfl

/-- When an epoch begins, a watch that waits waits on. -/
theorem attend_of_not_following (h : r.renewal? w.session = some s)
    (hphase : ∀ feed, w.phase ≠ .following feed) :
    ({ w with mailbox := mailbox } : Watch).attend ticket r =
      { w with session := s, mailbox := mailbox.answer ticket .done } := by
  rw [attend, serve_of_renewal h]
  dsimp only
  split
  · rename_i feed hfeed
    exact absurd hfeed (hphase feed)
  · rfl

/-- A request is answered where the watch is, or makes it give up its feed and start over. -/
theorem attend_eq (w : Watch) (ticket : Nat) (r : Request) : ∃ s reply,
    w.attend ticket r = { w with session := s, mailbox := w.mailbox.answer ticket reply } ∨
      ∃ feed, w.phase = .following feed ∧ w.attend ticket r = { w.release feed with
        session := s, mailbox := w.mailbox.answer ticket reply, phase := .connecting } := by
  have hrenewal {s : Session} (h : r.renewal? w.session = some s) : ∃ s reply,
      w.attend ticket r = { w with session := s, mailbox := w.mailbox.answer ticket reply } ∨
        ∃ feed, w.phase = .following feed ∧ w.attend ticket r = { w.release feed with
          session := s, mailbox := w.mailbox.answer ticket reply, phase := .connecting } := by
    by_cases hfollowing : ∃ feed, w.phase = .following feed
    · obtain ⟨feed, hphase⟩ := hfollowing
      exact ⟨s, .done, .inr ⟨feed, hphase, attend_of_following h hphase⟩⟩
    · exact ⟨s, .done, .inl (attend_of_not_following h (not_exists.1 hfollowing))⟩
  -- Of the requests, two renew the session. A rebinding may be refused instead, and is
  -- then answered like a request for the snapshot, with the session as it was.
  cases r with
  | restart => exact hrenewal rfl
  | rebind players self =>
    cases hrebind : w.session.rebind players self with
    | ok s => exact hrenewal (s := s) (by rw [Request.renewal?, hrebind]; rfl)
    | error refusal => exact ⟨w.session, _, .inl (attend_rebind_of_error hrebind)⟩
  | snapshot => exact ⟨w.session, _, .inl (attend_snapshot w ticket)⟩

/-! ## Answers -/

/-- The watch `w` becomes `v` when its oldest request is answered, which is what comes next if
    it turns to its mailbox. -/
structure AnswersAs (w v : Watch) : Prop where
  step?_eq : w.IsListening → w.step? = some v
  eq_of_step {u : Watch} : Step w u → u.mailbox.replies ≠ w.mailbox.replies → u = v

/-- A step in which there is an answer attends to the oldest request. -/
theorem Step.exists_attend (h : Step w v) (hanswers : v.mailbox.replies ≠ w.mailbox.replies) :
    ∃ ticket r rest, w.isKilled = false ∧ w.outbox = none ∧
      w.mailbox.waiting = (ticket, r) :: rest ∧
      (∀ feed, w.phase = .following feed → (w.access.next feed).2 = .pending) ∧
      v = { w with mailbox := { w.mailbox with waiting := rest } }.attend ticket r := by
  -- Nothing but a request that is served changes what was answered.
  cases h.turn with
  | stop _ => exact absurd replies_stop hanswers
  | dispatch _ _ _ _ => exact absurd rfl hanswers
  | connect _ _ _ => exact absurd (replies_eq_of_ends ends_connect) hanswers
  | take _ _ _ _ => exact absurd (replies_eq_of_ends ends_take) hanswers
  | lose _ _ _ _ => exact absurd rfl hanswers
  | wake _ _ _ _ => exact absurd rfl hanswers
  | attend hkilled houtbox hwaiting hpending =>
    exact ⟨_, _, _, hkilled, houtbox, hwaiting, hpending, rfl⟩

/-- To answer the oldest request is to attend to it. -/
theorem answersAs_attend (hwaiting : w.mailbox.waiting = (ticket, r) :: rest) :
    w.AnswersAs ({ w with mailbox := { w.mailbox with waiting := rest } }.attend ticket r) where
  step?_eq hlistens := by
    have hserve : w.serveNext? =
        some ({ w with mailbox := { w.mailbox with waiting := rest } }.attend ticket r) := by
      rw [serveNext?, hwaiting]
    -- A watch that waits serves before it looks at the clock, and one
    -- that follows a feed once the feed has nothing for it.
    rcases hlistens.attends with ⟨due, hphase⟩ | ⟨feed, hphase, hpending⟩
    · rw [step?_of_waiting hlistens.isKilled_eq hlistens.outbox_eq hphase, wait?, hserve,
        Option.some_or]
    · have hnext : w.access.chain.next feed = ((w.access.next feed).1.chain, .pending) :=
        next_eq_of_access (Prod.ext rfl hpending)
      rw [step?_of_pending hlistens.isKilled_eq hlistens.outbox_eq hphase hnext, hserve]
  eq_of_step h hanswers := by
    obtain ⟨ticket', r', rest', -, -, hwaiting', -, rfl⟩ := h.exists_attend hanswers
    cases hwaiting'.symm.trans hwaiting
    rfl

/-- A request that the session refuses is answered, and that is all. -/
theorem answersAs_of_error (hwaiting : w.mailbox.waiting = (ticket, .rebind players self) :: rest)
    (h : w.session.rebind players self = .error refusal) :
    w.AnswersAs { w with mailbox := w.answered ticket rest (.refused (.ofRefusal refusal)) } := by
  have hattend := answersAs_attend hwaiting
  rwa [attend_rebind_of_error h] at hattend

/-- A watch that follows a feed starts over with the session of the new epoch. -/
theorem answersAs_of_following (hwaiting : w.mailbox.waiting = (ticket, r) :: rest)
    (h : r.renewal? w.session = some s) (hphase : w.phase = .following feed) :
    w.AnswersAs { w.release feed with
      session := s, mailbox := w.answered ticket rest .done, phase := .connecting } := by
  have hattend := answersAs_attend hwaiting
  rwa [attend_of_following h hphase] at hattend

/-- A watch that waits does so with the session of the new epoch. -/
theorem answersAs_of_waiting {due : Duration}
    (hwaiting : w.mailbox.waiting = (ticket, r) :: rest) (h : r.renewal? w.session = some s)
    (hphase : w.phase = .waiting due) :
    w.AnswersAs { w with session := s, mailbox := w.answered ticket rest .done } := by
  have hattend := answersAs_attend hwaiting
  rwa [attend_of_not_following h fun feed hfeed => by cases hphase.symm.trans hfeed] at hattend

/-! ## Nothing of the past -/

/-- New epochs start clean, and what is refused changes nothing. Take a session after a run.
    Other players are refused if they are the same, or else if there is no identity. Then
    the session stays as it is, and so does a watch over it, except for the answer. A request
    that is not refused makes a watch that follows a feed start over, while one that waits
    waits on. The session of the new epoch is a new one for the players and the identity that
    are bound then, but for what outlasts an epoch. If that is the same after another run,
    the two sessions make the same of whatever comes later. -/
theorem renewal_of_run {game : GameId} {s s' t t' : Session}
    (first first' : Players × Option Address) (ops ops' : List Session.Operation)
    (hs : Session.create game first.1 first.2 = .ok s)
    (hs' : Session.create game first'.1 first'.2 = .ok s')
    (ht : (s.run ops).1 = t) (ht' : (s'.run ops').1 = t') :
    (∀ players self refusal, t.rebind players self = .error refusal ↔
      players.creator = players.joiner ∧ refusal = .duplicatePlayers players.creator ∨
      players.creator ≠ players.joiner ∧ self = none ∧ refusal = .noRole .noIdentity) ∧
    (∀ players self refusal, t.rebind players self = .error refusal →
      t.perform (.rebind players self) = (t, .refused refusal) ∧
      ∀ (w : Watch) (ticket : Nat) (rest : List (Nat × Request)), w.session = t →
        w.mailbox.waiting = (ticket, .rebind players self) :: rest →
        w.AnswersAs { w with
          mailbox := w.answered ticket rest (.refused (.ofRefusal refusal)) }) ∧
    (∀ (r : Request) (u : Session), r.renewal? t = some u →
      ∀ (w : Watch) (ticket : Nat) (rest : List (Nat × Request)), w.session = t →
        w.mailbox.waiting = (ticket, r) :: rest →
        (∀ feed, w.phase = .following feed → w.AnswersAs { w.release feed with
          session := u, mailbox := w.answered ticket rest .done, phase := .connecting }) ∧
        ∀ due, w.phase = .waiting due → w.AnswersAs { w with
          session := u, mailbox := w.answered ticket rest .done }) ∧
    ∀ binding u, t.Renews (Session.bound first ops) binding u →
      (∃ f, Session.create game binding.1 binding.2 = .ok f ∧ u = t.renewed f) ∧
      ∀ u', t'.Renews (Session.bound first' ops') binding u' → u.epoch = u'.epoch →
        u.floor = u'.floor → u.holding = u'.holding → u.link = u'.link →
        ∀ later, u.run later = u'.run later := by
  have hbound : t.IsBoundTo (Session.bound first ops) := ht ▸ (Session.isBoundTo_create hs).run ops
  have hbound' : t'.IsBoundTo (Session.bound first' ops') :=
    ht' ▸ (Session.isBoundTo_create hs').run ops'
  have hreachable : t.Reachable := ht ▸ (Session.Reachable.create hs).run ops
  have hreachable' : t'.Reachable := ht' ▸ (Session.Reachable.create hs').run ops'
  have hgame : t.game = game := by
    rw [← ht, Session.game_run, Session.game_create hs]
  have hgame' : t'.game = game := by
    rw [← ht', Session.game_run, Session.game_create hs']
  refine ⟨fun _ _ _ => Session.rebind_eq_error_iff, fun _ _ _ hrefused =>
    ⟨Session.perform_rebind_of_error hrefused, fun _ _ _ hw hwaiting =>
      answersAs_of_error hwaiting (hw ▸ hrefused)⟩, fun _ _ hrenewal _ _ _ hw hwaiting =>
    ⟨fun _ => answersAs_of_following hwaiting (hw ▸ hrenewal),
      fun _ => answersAs_of_waiting hwaiting (hw ▸ hrenewal)⟩, fun binding u hu => ⟨?_, ?_⟩⟩
  · rw [← hgame]
    exact hu.eq_renewed hbound hreachable.isSound.creator_ne_joiner
  · -- The two renewed sessions are equal, so that their later runs are too. What is
    -- compared is all that a renewal keeps, since both runs belong to the same game.
    intro u' hu' hepoch hfloor hholding hlink later
    rw [hu.eq_of_agree hu' hbound hbound' hreachable.isSound.creator_ne_joiner
      hreachable'.isSound.creator_ne_joiner (hgame.trans hgame'.symm) hepoch hfloor hholding hlink]

/-- The creator of a game is asked after a rematch. Bound as its joiner then, the client is
    asked in the new epoch as one who has only seen the rematch. Before that, a watch refuses
    to bind the creator as both players, and waits on. -/
theorem renewal_of_run_rebound :
    ∃ s s' u : Session, ∃ ops ops' : List Session.Operation, ∃ w v : Watch,
      Session.create ⟨7⟩ ⟨.fill 0xc1, .fill 0x01⟩ (some (.fill 0xc1)) = .ok s ∧
      Session.create ⟨7⟩ ⟨.fill 0xc1, .fill 0x01⟩ (some (.fill 0x01)) = .ok s' ∧
      (s.run ops).1.creatorAsked = true ∧ (s'.run ops').1.joinerAsked = false ∧
      (s.run ops).1.rebind ⟨.fill 0xc1, .fill 0x01⟩ (some (.fill 0x01)) = .ok u ∧
      u.floor = some ⟨4, 0⟩ ∧ (∀ later, u.run later = (s'.run ops').1.restart.run later) ∧
      (u.run [.seed .shuffling, .apply ⟨⟨5, 0⟩, .shuffled ⟨7⟩ (.fill 0xc1)⟩,
        .catchUp]).1.joinerAsked = true ∧
      w.session = (s.run ops).1 ∧ w.phase = .waiting 1000000 ∧
      w.mailbox.waiting = [(0, .rebind ⟨.fill 0xc1, .fill 0xc1⟩ none)] ∧ w.step? = some v ∧
      v.session = w.session ∧ v.phase = w.phase ∧
      v.mailbox.replies = [(0, .refused (.ofRefusal (.duplicatePlayers (.fill 0xc1))))] := by
  let s := Session.fresh ⟨7⟩ ⟨.fill 0xc1, .fill 0x01⟩ .creator
  let s' := Session.fresh ⟨7⟩ ⟨.fill 0xc1, .fill 0x01⟩ .joiner
  let ops : List Session.Operation :=
    [.apply ⟨⟨4, 0⟩, .rematch ⟨7⟩⟩, .seed .shuffling, .awaitBacklog]
  let ops' : List Session.Operation := [.awaitBacklog, .apply ⟨⟨4, 0⟩, .rematch ⟨7⟩⟩]
  let t := (s.run ops).1
  let u := ({ t with role := .joiner } : Session).restart
  have hs : Session.create ⟨7⟩ ⟨.fill 0xc1, .fill 0x01⟩ (some (.fill 0xc1)) = .ok s := rfl
  have hs' : Session.create ⟨7⟩ ⟨.fill 0xc1, .fill 0x01⟩ (some (.fill 0x01)) = .ok s' := rfl
  have hu : t.rebind ⟨.fill 0xc1, .fill 0x01⟩ (some (.fill 0x01)) = .ok u := rfl
  -- The watch has failed to read the status once, and waits. The
  -- request asks for one address in both roles, which is refused.
  let w := (settleWithin 1 ((create t (.ofRange 1000000 1000000) .empty (.ofCapacity 4) []).accept
    .start)).accept (.post (.rebind ⟨.fill 0xc1, .fill 0xc1⟩ none))
  have hw : w.session = t := by decide +kernel
  have hphase : w.phase = .waiting 1000000 := by decide +kernel
  have hwaiting : w.mailbox.waiting = [(0, .rebind ⟨.fill 0xc1, .fill 0xc1⟩ none)] := by
    decide +kernel
  have hlistens : w.IsListening := ⟨by decide +kernel, by decide +kernel, .inl ⟨_, hphase⟩⟩
  obtain ⟨hrefuses, hserves, -, hrenews⟩ := renewal_of_run
    (⟨.fill 0xc1, .fill 0x01⟩, some (.fill 0xc1)) (⟨.fill 0xc1, .fill 0x01⟩, some (.fill 0x01))
    ops ops' hs hs' rfl rfl
  have hrefused := (hrefuses ⟨.fill 0xc1, .fill 0xc1⟩ none (.duplicatePlayers (.fill 0xc1))).2
    (.inl ⟨rfl, rfl⟩)
  obtain ⟨-, hsame⟩ := hrenews _ u (.rebind hu)
  exact ⟨s, s', u, ops, ops', w, _, hs, hs', by decide +kernel, by decide +kernel, hu,
    by decide +kernel, hsame _ .restart (by decide +kernel) (by decide +kernel) (by decide +kernel)
      (by decide +kernel), by decide +kernel, hw, hphase, hwaiting,
    ((hserves _ _ _ hrefused).2 w 0 [] hw hwaiting).step?_eq hlistens, rfl, rfl, by decide +kernel⟩

end Watch

end ShuffleWatch
