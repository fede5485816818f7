import ShuffleWatch.Chain

/-!
# Operations on chains

What can happen on a chain in memory, and what the holders of its feeds can do,
as data, and the runs of such operations. The reachable chains are those that a
run leads to from the chain on which nothing has happened.
-/

namespace ShuffleWatch.Chain

/-- Something that happens on a chain. -/
inductive Happening
  | publish (e : Event)
  | deliver (e : Entry)
  | publishWritten (w : WrittenEvent)
  | disconnect
  | setStatus (game : GameId) (status : Status)
  | removeGame (game : GameId)
  deriving DecidableEq

/-- Lets something happen, and tells what became of it if it was a
    publication. -/
def undergo (c : Chain) : Happening → Chain × Option Published
  | .publish e => let (d, p) := c.publish e; (d, some p)
  | .deliver e => (c.deliver e, none)
  | .publishWritten w => let (d, p) := c.publishWritten w; (d, some p)
  | .disconnect => (c.disconnect, none)
  | .setStatus game status => (c.setStatus game status, none)
  | .removeGame game => (c.removeGame game, none)

/-- Something that happens on a chain, or that is done to one of its feeds. -/
inductive Operation
  | happen (h : Happening)
  | subscribe (filter : Filter)
  | next (feed : Nat)
  | release (feed : Nat)
  deriving DecidableEq

/-- What an operation answers. -/
inductive Outcome
  | done
  | published (p : Published)
  | opened (feed : Nat)
  | found (n : Next)
  deriving DecidableEq

/-- Does something to a chain or to one of its feeds. -/
def perform (c : Chain) : Operation → Chain × Outcome
  | .happen h =>
    match c.undergo h with
    | (d, some p) => (d, .published p)
    | (d, none) => (d, .done)
  | .subscribe filter => let (d, feed) := c.subscribe filter; (d, .opened feed)
  | .next feed => let (d, n) := c.next feed; (d, .found n)
  | .release feed => (c.release feed, .done)

/-- Does one thing after another, and collects the answers. -/
def run (c : Chain) : List Operation → Chain × List Outcome
  | [] => (c, [])
  | op :: ops =>
    let (d, outcome) := c.perform op
    let (last, outcomes) := d.run ops
    (last, outcome :: outcomes)

/-- The chains that operations lead to. -/
inductive Reachable : Chain → Prop
  | empty : Reachable .empty
  | perform {c : Chain} (op : Operation) : Reachable c → Reachable (c.perform op).1

theorem run_append (c : Chain) (ops ops' : List Operation) :
    c.run (ops ++ ops') =
      (((c.run ops).1.run ops').1, (c.run ops).2 ++ ((c.run ops).1.run ops').2) := by
  induction ops generalizing c with
  | nil => rfl
  | cons op ops ih => simp [run, ih]

theorem Reachable.run {c : Chain} (h : Reachable c) (ops : List Operation) :
    Reachable (c.run ops).1 := by
  induction ops generalizing c with
  | nil => exact h
  | cons op ops ih => exact ih (h.perform op)

end ShuffleWatch.Chain
