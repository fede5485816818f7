import Mathlib.Data.List.Basic
import Mathlib.Data.List.Pairwise
import ShuffleWatch.Contract.Poll

/-!
# Ledgers

The logs of the contract on a chain, block by block (`Ledger`). A chain only grows:
a block that a node has reported keeps its logs, so these are the same whenever a
node is asked for them.

* `sort_eq_found`: whatever the order in which a node gives out the logs that a
  query asks for, sorting them gives the order of the chain;
* `filterMap_item?_found`: what a feed delivers of these logs is what it should
  show of all the logs in these blocks. A log that is filed under another game
  is no event of the game, although it may be undecodable.
-/

namespace ShuffleWatch.Contract

/-- The logs of the contract in each block of a chain, in the order of their indices.
    Each log knows its block and its index, and no two have both in common. -/
structure Ledger where
  logs : Nat → List Log
  block_eq : ∀ b, ∀ l ∈ logs b, l.block.map UInt64.toNat = some b
  index_lt : ∀ b, (logs b).Pairwise fun l m =>
    ∃ i j, l.index = some i ∧ m.index = some j ∧ i < j

/-- The logs of the blocks from `a` on and before `b`, in the order of the chain. -/
def Ledger.between (c : Ledger) (a b : Nat) : List Log := (List.range' a (b - a)).flatMap c.logs

/-- Each of the topics that is asked for is one that admits any, or the topic at the
    same place. -/
def hasTopics : List (Option Word) → List Word → Bool
  | [], _ => true
  | _ :: _, [] => false
  | asked :: rest, topic :: topics => asked.all (· == topic) && hasTopics rest topics

/-- The query asks for logs with such topics. -/
def Query.selects (q : Query) (l : Log) : Bool := q.topics.all (hasTopics · l.topics)

/-- The logs that the query asks for, in the order of the chain. -/
def Query.found (q : Query) (c : Ledger) : List Log :=
  (c.between q.first (q.last + 1)).filter q.selects

/-- The log is filed under the game, if there is one. -/
def Log.isFiledUnder (l : Log) (game : Option GameId) : Bool :=
  game.all fun g => l.topics[1]? == some (.ofNat g.val.toNat)

/-- What a feed with this filter should show of a log: the entry that it is, if the
    filter admits that, and otherwise why it is none, if it is filed under the game
    of the filter. -/
def shown? (f : Filter) (l : Log) : Option Item :=
  match l.decode with
  | .ok entry => if f.admits entry.event then some (.entry entry) else none
  | .error garble =>
    if l.isFiledUnder f.game then some (.fault (.malformedEvent garble)) else none

/-- What a feed with this filter should show of the blocks from `a` on and before `b`. -/
def Ledger.shown (c : Ledger) (f : Filter) (a b : Nat) : List Item :=
  (c.between a b).filterMap (shown? f)

variable {c : Ledger} {f : Filter} {q : Query} {l m : Log} {ls : List Log} {a b n : Nat}

/-! ## The order of logs -/

namespace Log

theorem optionLe_refl (o : Option Nat) : optionLe o o = true := by
  cases o <;> simp [optionLe]

theorem optionLe_total (o o' : Option Nat) : (optionLe o o' || optionLe o' o) = true := by
  cases o with
  | none => rfl
  | some m =>
    cases o' with
    | none => rfl
    | some n => simpa [optionLe] using Nat.le_total m n

theorem optionLe_trans {o o' o'' : Option Nat} (h : optionLe o o' = true)
    (h' : optionLe o' o'' = true) : optionLe o o'' = true := by
  cases o <;> cases o' <;> cases o'' <;> simp_all [optionLe]
  omega

theorem optionLe_antisymm {o o' : Option Nat} (h : optionLe o o' = true)
    (h' : optionLe o' o = true) : o = o' := by
  cases o <;> cases o' <;> simp_all [optionLe]
  omega

/-- The order is by block first, and by index within a block. -/
theorem le_iff : l.le m = true ↔
    optionLe (l.block.map UInt64.toNat) (m.block.map UInt64.toNat) = true ∧
      (l.block.map UInt64.toNat = m.block.map UInt64.toNat → optionLe l.index m.index = true) := by
  rw [le]
  split
  · rename_i heq
    simp [heq, optionLe_refl]
  · rename_i hne
    simp [hne]

theorem le_trans {l m k : Log} (h : l.le m = true) (h' : m.le k = true) : l.le k = true := by
  rw [le_iff] at *
  refine ⟨optionLe_trans h.1 h'.1, fun heq => ?_⟩
  -- The block in between is the same one, too.
  have hlm := optionLe_antisymm h.1 (by rw [heq]; exact h'.1)
  exact optionLe_trans (h.2 hlm) (h'.2 (hlm.symm.trans heq))

theorem le_total (l m : Log) : (l.le m || m.le l) = true := by
  rw [le, le]
  by_cases heq : l.block.map UInt64.toNat = m.block.map UInt64.toNat
  · rw [if_pos heq, if_pos heq.symm]
    exact optionLe_total _ _
  · rw [if_neg heq, if_neg (Ne.symm heq)]
    exact optionLe_total _ _

theorem pairwise_sort (ls : List Log) : (sort ls).Pairwise fun l m => l.le m = true := by
  rw [sort]
  exact List.pairwise_mergeSort (fun l m k h h' => le_trans (l := l) (m := m) (k := k) h h')
    le_total ls

/-- Logs that come one strictly after the other are in the order of any sorting. -/
theorem sort_eq_of_perm (hperm : ls.Perm ls') (hsorted : ls'.Pairwise fun l m => m.le l = false) :
    sort ls = ls' := by
  have htotal : ∀ {l m : Log}, m.le l = false → l.le m = true := fun {l m} h => by
    simpa [h] using le_total l m
  -- No two logs come both before each other, so there is only one sorted list of them.
  have hdistinct : ∀ l ∈ ls', ∀ m ∈ ls', l.le m = true → m.le l = true → l = m := by
    intro l hl m hm
    refine List.Pairwise.forall_of_forall_of_flip
      (R := fun l m : Log => l.le m = true → m.le l = true → l = m) (fun _ _ _ _ => rfl)
      (hsorted.imp fun hlt _ hle => ?_) (hsorted.imp fun hlt hle _ => ?_) hl hm
    · rw [hlt] at hle
      cases hle
    · rw [hlt] at hle
      cases hle
  have hsort : (sort ls).Perm ls' := (List.mergeSort_perm ls le).trans hperm
  exact List.Perm.eq_of_pairwise (fun l m hl hm => hdistinct l (hsort.mem_iff.1 hl) m hm)
    (pairwise_sort ls) (hsorted.imp htotal) hsort

end Log

/-! ## Ranges of blocks -/

namespace Ledger

theorem between_append (hab : a ≤ b) (hbn : b ≤ n) :
    c.between a b ++ c.between b n = c.between a n := by
  have hrange := List.range'_append_1 (s := a) (m := b - a) (n := n - b)
  rw [Nat.add_sub_cancel' hab, show b - a + (n - b) = n - a by omega] at hrange
  rw [between, between, between, ← hrange, List.flatMap_append]

theorem between_eq_nil (h : b ≤ a) : c.between a b = [] := by
  rw [between, Nat.sub_eq_zero_of_le h]
  rfl

/-- Of any two logs in a range, the second one comes strictly after the first. -/
theorem pairwise_between : (c.between a b).Pairwise fun l m => m.le l = false := by
  -- Within a block the indices tell, and otherwise the blocks.
  refine List.pairwise_flatMap.2 ⟨fun n _ => (c.index_lt n).imp_of_mem ?_, ?_⟩
  · rintro l m hl hm ⟨i, j, hi, hj, hlt⟩
    rw [Log.le, c.block_eq n l hl, c.block_eq n m hm, if_pos rfl, hi, hj]
    simpa [Log.optionLe] using hlt
  · refine (List.pairwise_lt_range' 1).imp fun {n n'} hlt l hl m hm => ?_
    rw [Log.le, c.block_eq n l hl, c.block_eq n' m hm, if_neg (by simpa using Nat.ne_of_gt hlt)]
    simpa [Log.optionLe] using hlt

theorem shown_append (hab : a ≤ b) (hbn : b ≤ n) :
    c.shown f a b ++ c.shown f b n = c.shown f a n := by
  rw [shown, shown, shown, ← List.filterMap_append, between_append hab hbn]

theorem shown_eq_nil (h : b ≤ a) : c.shown f a b = [] := by
  rw [shown, between_eq_nil h]
  rfl

end Ledger

/-! ## Topics -/

/-- A query for a game asks for the logs that are filed under it. -/
theorem selects_eq : q.selects l = l.isFiledUnder q.game := by
  rw [Query.selects, Query.topics, Log.isFiledUnder]
  cases q.game with
  | none => rfl
  | some g =>
    rcases l.topics with _ | ⟨signature, _ | ⟨game, others⟩⟩
    · rfl
    · rfl
    · simp [hasTopics, eq_comm]

/-- A log with the content of an event has the game as its second topic, and logs the
    event in that game. -/
theorem of_content? {make : GameId → Event} (h : l.content? = some (n, make)) :
    (∃ game, l.topics[1]? = some game ∧ game.toNat = n) ∧ ∀ g, (make g).game = g := by
  rw [Log.content?] at h
  split at h
  · rename_i signature game others htopics
    obtain ⟨kind, -, h⟩ := Option.bind_eq_some_iff.1 h
    -- A log of each kind makes an event of whatever game it is given.
    have hmade : game.toNat = n ∧ ∀ g, (make g).game = g := by
      dsimp only at h
      split at h
      case h_1 | h_2 | h_5 =>
        obtain ⟨rfl, rfl⟩ : game.toNat = n ∧ _ = make := by simpa using h
        exact ⟨rfl, fun _ => rfl⟩
      case h_3 | h_4 =>
        obtain ⟨who, -, rfl, rfl⟩ : ∃ who, _ ∧ game.toNat = n ∧ _ = make := by
          simpa [Option.bind_eq_some_iff] using h
        exact ⟨rfl, fun _ => rfl⟩
      case h_6 => cases h
    exact ⟨⟨game, by rw [htopics]; rfl, hmade.1⟩, hmade.2⟩
  · cases h

/-- An event that the filter admits is logged in a log that is filed under its game. -/
theorem isFiledUnder_of_decode {entry : Entry} (h : l.decode = .ok entry)
    (hadmits : f.admits entry.event = true) : l.isFiledUnder f.game = true := by
  rw [Log.decode] at h
  split at h
  · cases h
  · split at h
    · cases h
    · rename_i p hp n make hcontent
      obtain ⟨⟨game, htopic, hgame⟩, hmake⟩ := of_content? hcontent
      split at h
      · rename_i hlt
        injection h with h
        subst h
        rw [Log.isFiledUnder, Option.all_eq_true]
        intro g hg
        rw [Filter.admits, hg, hmake, Bool.and_eq_true, Option.all_some, beq_iff_eq] at hadmits
        -- The topic of the log is the game as a word. Reading it back
        -- loses nothing, since the number is one of 64 bits.
        have hword : Word.ofNat g.val.toNat = game := by
          rw [hadmits.1, UInt64.toNat_ofNat_of_lt' hlt, ← hgame, Word.ofNat_toNat]
        rw [htopic, hword, beq_self_eq_true]
      · cases h

/-- What a feed delivers of the logs that a query finds is what it should show of the
    blocks that are asked for. -/
theorem filterMap_item?_found (hq : q.game = f.game) :
    (q.found c).filterMap (Poll.item? f) = c.shown f q.first (q.last + 1) := by
  rw [Query.found, List.filterMap_filter, Ledger.shown]
  refine List.filterMap_congr fun l _ => ?_
  rw [selects_eq, hq, Poll.item?, shown?]
  cases hdecode : l.decode with
  | error garble => rfl
  | ok entry =>
    dsimp only
    by_cases hadmits : f.admits entry.event = true
    · rw [if_pos (isFiledUnder_of_decode hdecode hadmits)]
    · simp [hadmits]

/-- Sorting the logs that a query finds, in whatever order they are given, gives the
    order of the chain. -/
theorem sort_eq_found (h : ls.Perm (q.found c)) : Log.sort ls = q.found c :=
  Log.sort_eq_of_perm h (Ledger.pairwise_between.filter _)

end ShuffleWatch.Contract
