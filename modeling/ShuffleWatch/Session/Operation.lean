import ShuffleWatch.Session.Apply

/-!
# Operations on sessions

All that can be done to a session, as data, and the runs of such operations.
The reachable sessions are those that a run leads to from a new session.
-/

namespace ShuffleWatch

namespace Session

/-- Something that is done to a session. -/
inductive Operation
  | seed (status : Status)
  | apply (e : Entry)
  | receive (item : Item)
  | catchUp
  | awaitBacklog
  | loseLink
  | restart
  | rebind (players : Players) (self : Option Address)
  deriving DecidableEq

/-- What an operation answers. -/
inductive Outcome
  | done
  | action (action : Option Action)
  | verdict (verdict : Verdict)
  | refused (refusal : Refusal)
  deriving DecidableEq

/-- The action that the client has to take. -/
def Outcome.action? : Outcome → Option Action
  | action a => a
  | verdict v => v.action?
  | _ => none

/-- Does something to a session. A refused operation leaves it as it was. -/
def perform (s : Session) : Operation → Session × Outcome
  | .seed status => let (t, a) := s.seed status; (t, .action a)
  | .apply e => let (t, v) := s.apply e; (t, .verdict v)
  | .receive item => let (t, v) := s.receive item; (t, .verdict v)
  | .catchUp => let (t, a) := s.catchUp; (t, .action a)
  | .awaitBacklog => (s.awaitBacklog, .done)
  | .loseLink => (s.loseLink, .done)
  | .restart => (s.restart, .done)
  | .rebind players self =>
    match s.rebind players self with
    | .ok t => (t, .done)
    | .error refusal => (s, .refused refusal)

/-- Does one thing after another, and collects the answers. -/
def run (s : Session) : List Operation → Session × List Outcome
  | [] => (s, [])
  | op :: ops =>
    let (t, outcome) := s.perform op
    let (u, outcomes) := t.run ops
    (u, outcome :: outcomes)

/-- The sessions that operations lead to. -/
inductive Reachable : Session → Prop
  | create {game : GameId} {players : Players} {self : Option Address} {s : Session} :
      Session.create game players self = .ok s → Reachable s
  | perform {s : Session} (op : Operation) : Reachable s → Reachable (s.perform op).1

theorem run_cons (s : Session) (op : Operation) (ops : List Operation) :
    s.run (op :: ops) =
      (((s.perform op).1.run ops).1, (s.perform op).2 :: ((s.perform op).1.run ops).2) := rfl

theorem run_append (s : Session) (ops ops' : List Operation) :
    s.run (ops ++ ops') =
      (((s.run ops).1.run ops').1, (s.run ops).2 ++ ((s.run ops).1.run ops').2) := by
  induction ops generalizing s with
  | nil => rfl
  | cons op ops ih => simp [run, ih]

theorem Reachable.run {s : Session} (h : Reachable s) (ops : List Operation) :
    Reachable (s.run ops).1 := by
  induction ops generalizing s with
  | nil => exact h
  | cons op ops ih => exact ih (h.perform op)

end Session

end ShuffleWatch
