import ShuffleWatch.Proofs.Chain.Delivery

/-!
# Feeds that are held

Which of the feeds opened from some moment on are still held (`heldSince`), told by
their numbers (`numbersSince`). Opening a feed adds its number and giving it up
removes it; neither a look at a feed nor a happening on the chain does anything to
that.
-/

namespace ShuffleWatch.Chain

/-- The feeds that are held, of those opened when `n` were open or had been. -/
def heldSince (c : Chain) (n : Nat) : List Subscription :=
  c.subscriptions.filter (n ≤ ·.id)

/-- The numbers of these feeds. -/
def numbersSince (c : Chain) (n : Nat) : List Nat := (c.subscriptions.map (·.id)).filter (n ≤ ·)

variable {c d : Chain} {n id : Nat} {filter : Filter} {found : Next} {sub : Subscription}

/-! ## The feeds that are held -/

theorem map_id_heldSince : (c.heldSince n).map (·.id) = c.numbersSince n := by
  rw [heldSince, numbersSince, List.filter_map]
  rfl

theorem numbersSince_opened (hc : c.Reachable) : c.numbersSince c.opened = [] := by
  refine List.filter_eq_nil_iff.2 fun id hid => ?_
  obtain ⟨sub, hsub, rfl⟩ := List.mem_map.1 hid
  simpa using hc.id_lt sub hsub

theorem numbersSince_undergo (h : Happening) :
    (c.undergo h).1.numbersSince n = c.numbersSince n := by
  rw [numbersSince, subscriptions_undergo, List.map_map]
  exact congrArg _ (List.map_congr_left fun sub _ => id_relay)

theorem numbersSince_subscribe (h : n ≤ c.opened) :
    (c.subscribe filter).1.numbersSince n = c.numbersSince n ++ [c.opened] := by
  rw [numbersSince, subscribe, List.map_append, List.filter_append]
  exact congrArg _ (List.filter_cons_of_pos (decide_eq_true h))

theorem numbersSince_next (hnext : c.next id = (d, found)) :
    d.numbersSince n = c.numbersSince n := by
  obtain rfl : (c.next id).1 = d := by rw [hnext]
  rcases next_eq c id with heq | ⟨queue, heq⟩
  · rw [heq]
  · rw [heq, numbersSince, setQueue, List.map_map]
    refine congrArg _ (List.map_congr_left fun sub _ => ?_)
    rw [Function.comp_apply]
    split <;> rfl

theorem numbersSince_release :
    (c.release id).numbersSince n = (c.numbersSince n).filter (· != id) := by
  have hids : (c.release id).subscriptions.map (·.id) =
      (c.subscriptions.map (·.id)).filter (· != id) := by
    rw [List.filter_map]
    rfl
  rw [numbersSince, numbersSince, hids, List.filter_filter, List.filter_filter]
  exact List.filter_congr fun x _ => Bool.and_comm _ _

/-- Who gives up the only feed that is held holds none. -/
theorem numbersSince_release_of_singleton (h : c.numbersSince n = [id]) :
    (c.release id).numbersSince n = [] := by
  rw [numbersSince_release, h]
  simp

/-- If a single feed is held, it is the one that is found under its number. -/
theorem heldSince_eq_singleton (h : c.numbersSince n = [id])
    (hsub : c.subscription? id = some sub) : c.heldSince n = [sub] ∧ sub.id = id := by
  rw [← map_id_heldSince] at h
  obtain ⟨sub', hheld, hid'⟩ := List.map_eq_singleton_iff.1 h
  have hid : sub.id = id := by
    have hfound := List.find?_some hsub
    exact beq_iff_eq.1 hfound
  have hmem' : sub' ∈ c.heldSince n := hheld ▸ List.mem_singleton_self sub'
  have hle : n ≤ sub.id := by
    rw [hid, ← hid']
    exact of_decide_eq_true (List.mem_filter.1 hmem').2
  -- The subscription is one of those held since `n`, and there is only one.
  have hmem : sub ∈ c.heldSince n :=
    List.mem_filter.2 ⟨List.mem_of_find?_eq_some hsub, decide_eq_true hle⟩
  rw [hheld] at hmem
  exact ⟨by rw [hheld, List.mem_singleton.1 hmem], hid⟩

theorem heldSince_eq_nil (h : c.numbersSince n = []) : c.heldSince n = [] := by
  rw [← map_id_heldSince] at h
  exact List.map_eq_nil_iff.1 h

theorem statusOf_next (hnext : c.next id = (d, found)) : d.statusOf = c.statusOf := by
  obtain rfl : (c.next id).1 = d := by rw [hnext]
  rcases next_eq c id with heq | ⟨queue, heq⟩ <;> rw [heq]
  rfl

theorem Serves.opened_le (h : c.Serves d) : c.opened ≤ d.opened := by
  induction h with
  | refl => exact Nat.le_refl _
  | subscribe filter _ ih => exact Nat.le_succ_of_le ih
  | @next d feed _ ih =>
    rcases next_eq d feed with heq | ⟨queue, heq⟩
    · rw [heq]
      exact ih
    · rw [heq]
      exact ih
  | release feed _ ih => exact ih

end ShuffleWatch.Chain
