import ShuffleWatch.Session.Basic

/-!
# Outlets

The way by which requested actions reach the application: a queue of bounded
length, which the application may close. Whether an action is carried out is
never reported back; a shuffle that succeeds shows up as an event.
-/

namespace ShuffleWatch

/-- Where actions wait for the application. -/
structure Outlet where
  queue : List Action
  capacity : Nat
  isOpen : Bool
  deriving DecidableEq

/-- What became of an action that was sent. -/
inductive Sent
  | queued
  /-- There is no room yet. -/
  | full
  /-- Nobody takes actions any more. -/
  | closed
  deriving DecidableEq

/-- What the application finds when it looks for an action. -/
inductive Taken
  | action (action : Action)
  /-- No action waits yet. -/
  | empty
  /-- No action waits, and none will. -/
  | closed
  deriving DecidableEq

namespace Outlet

/-- The greatest capacity of an outlet. -/
def maxCapacity : Nat := UInt64.size / 8 - 1

/-- An outlet with room for so many actions, and for one at least. -/
def ofCapacity (capacity : Nat) : Outlet := ⟨[], max capacity 1, true⟩

/-- Sends an action to the application, without waiting for room. -/
def send (o : Outlet) (a : Action) : Outlet × Sent :=
  if !o.isOpen then (o, .closed)
  else if o.queue.length < o.capacity then ({ o with queue := o.queue ++ [a] }, .queued)
  else (o, .full)

/-- Takes the next action. -/
def take (o : Outlet) : Outlet × Taken :=
  match o.queue with
  | a :: rest => ({ o with queue := rest }, .action a)
  | [] => (o, if o.isOpen then .empty else .closed)

/-- Closes the outlet, with all the actions that wait in it. -/
def close (o : Outlet) : Outlet := { o with queue := [], isOpen := false }

end Outlet

end ShuffleWatch
