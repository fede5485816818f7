import ShuffleWatch.Proofs.Session.Integrity

/-!
# New epochs

The application may ask for a new epoch, for the players and the identity that are bound or
for others. Others are refused if the players are the same, or else if there is no identity
(`rebind_eq_error_iff`), and a refusal changes nothing (`perform_rebind_of_error`). If they
are not refused, the epoch begins with a session that is a new one for them, but for what
outlasts an epoch: the floor, the link and whether requests are held back (`renewed`,
`Renews.eq_renewed`). Nothing else of the past is left (`Renews.eq_of_agree`).
-/

namespace ShuffleWatch.Session

/-- The session `f`, in the epoch after that of the session `s`, and with what outlasts the
    epochs of `s`. -/
def renewed (s f : Session) : Session :=
  { f with epoch := s.epoch + 1, floor := s.floor, holding := s.holding, link := s.link }

/-- At the wish of the application, the session `t` follows `s` in a new epoch, for the
    players and the identity that are bound, or for others. -/
inductive Renews (s : Session) (before : Players × Option Address) :
    Players × Option Address → Session → Prop
  | restart : Renews s before before s.restart
  | rebind {players : Players} {self : Option Address} {t : Session} :
      s.rebind players self = .ok t → Renews s before (players, self) t

variable {s s' t t' : Session} {players : Players} {self : Option Address} {refusal : Refusal}
  {before before' binding : Players × Option Address}

/-! ## Refusals -/

/-- That the players are the same is found before that there is no identity. -/
theorem bind_eq_error_iff : bind players self = .error refusal ↔
    players.creator = players.joiner ∧ refusal = .duplicatePlayers players.creator ∨
    players.creator ≠ players.joiner ∧ self = none ∧ refusal = .noRole .noIdentity := by
  by_cases hsame : players.creator = players.joiner
  · rw [bind, if_pos hsame]
    simp [hsame, eq_comm]
  cases self with
  | none =>
    rw [bind, if_neg hsame, Players.roleOf]
    simp [hsame, Except.mapError, eq_comm]
  | some a =>
    -- With an identity there is a role, if only that of a spectator.
    obtain ⟨r, hr⟩ := roleOf_isOk_iff.2 (rfl : (some a).isSome = true)
    rw [bind_eq_ok.2 ⟨hsame, hr⟩]
    simp [hsame]

/-- To bind others is to renew a session that is created for them. -/
theorem rebind_eq_map_create (s : Session) (players : Players) (self : Option Address) :
    s.rebind players self = (create s.game players self).map s.renewed := by
  rw [rebind, create]
  cases bind players self <;> rfl

theorem rebind_eq_error_iff : s.rebind players self = .error refusal ↔
    players.creator = players.joiner ∧ refusal = .duplicatePlayers players.creator ∨
    players.creator ≠ players.joiner ∧ self = none ∧ refusal = .noRole .noIdentity := by
  rw [← bind_eq_error_iff, rebind]
  cases bind players self <;> simp [Except.map]

/-- What is refused changes nothing. -/
theorem perform_rebind_of_error (h : s.rebind players self = .error refusal) :
    s.perform (.rebind players self) = (s, .refused refusal) := by
  rw [perform, h]

/-! ## Renewals -/

/-- A new session is bound to what it was created for. -/
theorem isBoundTo_create {game : GameId} (h : create game players self = .ok s) :
    s.IsBoundTo (players, self) := by
  obtain ⟨r, hr, rfl⟩ := create_eq_ok h
  exact ⟨rfl, (bind_eq_ok.1 hr).2⟩

/-- A new session is about the game that it was created for. -/
theorem game_create {game : GameId} (h : create game players self = .ok s) : s.game = game := by
  obtain ⟨r, -, rfl⟩ := create_eq_ok h
  rfl

/-- For the players and the identity that are bound, a session can be created. -/
theorem IsBoundTo.create_eq (h : s.IsBoundTo binding) (hne : s.players.creator ≠ s.players.joiner) :
    create s.game binding.1 binding.2 = .ok (fresh s.game s.players s.role) := by
  obtain ⟨hplayers, hrole⟩ := h
  rw [hplayers] at hne hrole
  rw [create, bind_eq_ok.2 ⟨hne, hrole⟩, hplayers]
  rfl

namespace Renews

/-- A session that follows another one in a new epoch is a new one, but for what outlasts
    an epoch. -/
theorem eq_renewed (h : s.Renews before binding t) (hs : s.IsBoundTo before)
    (hne : s.players.creator ≠ s.players.joiner) :
    ∃ f, create s.game binding.1 binding.2 = .ok f ∧ t = s.renewed f := by
  cases h with
  -- The players differ already, so the session could be created again.
  | restart => exact ⟨_, hs.create_eq hne, rfl⟩
  | @rebind players self _ hrebind =>
    rw [rebind_eq_map_create] at hrebind
    cases hf : create s.game players self with
    | error refusal =>
      rw [hf] at hrebind
      cases hrebind
    | ok f =>
      rw [hf] at hrebind
      exact ⟨f, rfl, (Except.ok.inj hrebind).symm⟩

/-- Two sessions that begin an epoch for the same players and the same identity are the
    same, if they agree on what outlasts an epoch. -/
theorem eq_of_agree (h : s.Renews before binding t) (h' : s'.Renews before' binding t')
    (hs : s.IsBoundTo before) (hs' : s'.IsBoundTo before')
    (hne : s.players.creator ≠ s.players.joiner) (hne' : s'.players.creator ≠ s'.players.joiner)
    (hgame : s.game = s'.game) (hepoch : t.epoch = t'.epoch) (hfloor : t.floor = t'.floor)
    (hholding : t.holding = t'.holding) (hlink : t.link = t'.link) : t = t' := by
  obtain ⟨f, hf, rfl⟩ := h.eq_renewed hs hne
  obtain ⟨f', hf', rfl⟩ := h'.eq_renewed hs' hne'
  rw [hgame] at hf
  obtain rfl : f = f' := Except.ok.inj (hf.symm.trans hf')
  simp only [renewed] at hepoch hfloor hholding hlink ⊢
  rw [hepoch, hfloor, hholding, hlink]

end Renews

end ShuffleWatch.Session
