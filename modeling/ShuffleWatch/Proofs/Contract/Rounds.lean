import Mathlib.Data.List.Infix
import Mathlib.Data.List.Permutation
import ShuffleWatch.Proofs.Contract.Ledger

/-!
# Rounds of a poll

A *round* is what a poll does from one call for the head of the chain to the next
(`Round`, `Poll.rounds`). What the rounds are, when the node reports a ledger
(`Reports`), is said once (`Transcript`, `transcript_rounds`); what a feed does over
any number of rounds follows from that by induction.

* `Transcript.tiles`: the blocks that are asked for follow each other without a gap
  or an overlap, so many at once as the endpoint allows and none above the head;
* `Transcript.items_eq`: the feed delivers what it should show of these blocks, and
  says once that it has caught up, as soon as that is so;
* `subscribe_of_reports`: what the feed of an endpoint does.
-/

namespace ShuffleWatch.Contract

/-- The query of a move that makes one. -/
def Move.query? : Move → Option Query
  | .query q => some q
  | .deliver _ => none

/-- The item of a move that delivers one. -/
def Move.item? : Move → Option Item
  | .query _ => none
  | .deliver item => some item

/-- What a poll does from one call for the head to the next. -/
structure Round where
  /-- The answer to the call for the head. -/
  head : Option UInt64
  /-- The answer to the query, if there is one. -/
  found : Option (List Log)
  moves : List Move
  deriving DecidableEq

namespace Round

def queries (r : Round) : List Query := r.moves.filterMap Move.query?

def items (r : Round) : List Item := r.moves.filterMap Move.item?

/-- One of the calls in this round has no answer. -/
def fails (r : Round) : Bool := r.head.isNone || (!r.queries.isEmpty && r.found.isNone)

/-- The first block that has not been asked for after the round, if `a` was that
    before. -/
def next (r : Round) (a : Nat) : Nat :=
  match r.queries, r.found with
  | [q], some _ => q.last + 1
  | _, _ => a

end Round

/-- The first block that has not been asked for after the rounds, if `a` was that
    before. -/
def frontier (a : Nat) (rs : List Round) : Nat := rs.foldl (fun a r => r.next a) a

/-- The head that is read in the first round after which all blocks up to the head
    have been asked for, if there is such a round. -/
def caughtUpAt? : Nat → List Round → Option Nat
  | _, [] => none
  | a, r :: rs =>
    match r.head with
    | some head => if head.toNat < r.next a then some head.toNat else caughtUpAt? (r.next a) rs
    | none => caughtUpAt? (r.next a) rs

/-- What a feed delivers when a call fails in one of the rounds. -/
def loss (rs : List Round) : List Item :=
  if rs.any Round.fails then [.fault (.connectionLost .callFailed)] else []

/-- What a feed that begins at the block `a` should have delivered after the rounds:
    what there is to show of the blocks that were asked for, the word that it has
    caught up after the last block up to the head of that time, and, when a call
    fails, the loss of the connection. -/
def Ledger.delivered (c : Ledger) (f : Filter) (a : Nat) (rs : List Round) : List Item :=
  (match caughtUpAt? a rs with
    | none => c.shown f a (frontier a rs)
    | some head =>
      c.shown f a (head + 1) ++ .caughtUp :: c.shown f (max a (head + 1)) (frontier a rs)) ++
  loss rs

/-- The queries ask for the blocks from `a` on, each for the blocks right after those
    of the one before, for one block at least and `width` blocks at most. -/
inductive Tiles (width : Nat) : Nat → List Query → Prop
  | nil (a : Nat) : Tiles width a []
  | cons {q : Query} {qs : List Query} (first_le : q.first ≤ q.last)
      (last_lt : q.last < q.first + width) (rest : Tiles width (q.last + 1) qs) :
      Tiles width q.first (q :: qs)

/-- In these rounds a node reports the ledger: the heads never decrease and are not
    the greatest number a block can have, and each query is answered by the logs
    that it asks for, in some order. -/
structure Reports (c : Ledger) (rs : List Round) : Prop where
  pairwise_head : (rs.filterMap Round.head).Pairwise (· ≤ ·)
  head_lt : ∀ r ∈ rs, ∀ head ∈ r.head, head.toNat < Poll.lastBlock
  perm_found : ∀ r ∈ rs, ∀ q ∈ r.queries, ∀ found ∈ r.found, found.Perm (q.found c)

/-- The query is the one for the next blocks up to the head, if `a` is the first block
    that has not been asked for. -/
structure Query.IsNext (q : Query) (e : Endpoint) (f : Filter) (a head : Nat) : Prop where
  first_eq : q.first = a
  first_le : q.first ≤ q.last
  last_le : q.last ≤ head
  last_lt : q.last < q.first + max e.logRange.toNat 1
  contract_eq : q.contract = e.contract
  game_eq : q.game = f.game

/-- The rounds of a poll of a node that reports the ledger, if `a` is the first block
    that has not been asked for. The feed may have been told that it has caught up. -/
inductive Transcript (c : Ledger) (e : Endpoint) (f : Filter) : Bool → Nat → List Round → Prop
  | done {told : Bool} {a : Nat} : Transcript c e f told a []
  | unreached {told : Bool} {a : Nat} {r : Round} (hhead : r.head = none)
      (hqueries : r.queries = []) (hitems : r.items = [.fault (.connectionLost .callFailed)]) :
      Transcript c e f told a [r]
  | waited {told : Bool} {a : Nat} {r : Round} {rs : List Round} {head : UInt64}
      (hhead : r.head = some head) (hqueries : r.queries = []) (hlt : head.toNat < a)
      (hitems : r.items = if told then [] else [.caughtUp]) (rest : Transcript c e f true a rs) :
      Transcript c e f told a (r :: rs)
  | unanswered {told : Bool} {a : Nat} {r : Round} {head : UInt64} {q : Query}
      (hhead : r.head = some head) (hqueries : r.queries = [q])
      (hnext : q.IsNext e f a head.toNat) (hfound : r.found = none)
      (hitems : r.items = [.fault (.connectionLost .callFailed)]) :
      Transcript c e f told a [r]
  | answered {told : Bool} {a : Nat} {r : Round} {rs : List Round} {head : UInt64} {q : Query}
      {found : List Log} (hhead : r.head = some head) (hqueries : r.queries = [q])
      (hnext : q.IsNext e f a head.toNat) (hfound : r.found = some found)
      (hitems : r.items = c.shown f a (q.last + 1) ++
        if told || q.last != head.toNat then [] else [.caughtUp])
      (rest : Transcript c e f (told || q.last == head.toNat) (q.last + 1) rs) :
      Transcript c e f told a (r :: rs)

namespace Poll

/-- What the poll does when the node reports a head. -/
def round (p : Poll) (e : Endpoint) (f : Filter) (logs : Nat → Query → Option (List Log))
    (head : UInt64) : Round :=
  let moves := (p.step e f logs head.toNat).1
  ⟨some head, (moves.findSome? Move.query?).bind (logs p.queries), moves⟩

/-- The rounds of the poll as the node reports its heads. -/
def rounds (e : Endpoint) (f : Filter) (logs : Nat → Query → Option (List Log)) :
    Poll → List (Option UInt64) → List Round
  | _, [] => []
  | _, none :: _ => [⟨none, none, [lose]⟩]
  | p, some head :: heads =>
    p.round e f logs head ::
      match (p.step e f logs head.toNat).2 with
      | none => []
      | some p => rounds e f logs p heads

end Poll

variable {c : Ledger} {e : Endpoint} {f : Filter} {logs : Nat → Query → Option (List Log)}
  {p : Poll} {heads : List (Option UInt64)} {head : UInt64} {a k n : Nat} {r : Round}
  {rs : List Round}

/-! ## Rounds and moves -/

namespace Poll

theorem run_eq_flatMap_rounds :
    run e f logs p heads = (rounds e f logs p heads).flatMap Round.moves := by
  induction heads generalizing p with
  | nil => rfl
  | cons head heads ih =>
    cases head with
    | none => rfl
    | some head =>
      rw [run, rounds, List.flatMap_cons, round]
      split
      · rename_i moves heq
        simp [heq]
      · rename_i moves p' heq
        simp [heq, ih]

theorem take_rounds : (rounds e f logs p heads).take k = rounds e f logs p (heads.take k) := by
  induction heads generalizing p k with
  | nil => simp [rounds]
  | cons head heads ih =>
    cases k with
    | zero => simp [rounds]
    | succ k =>
      cases head with
      | none => simp [rounds]
      | some head =>
        rw [rounds, List.take_succ_cons, List.take_succ_cons, rounds]
        -- A round may end the poll. What is taken beyond it is nothing on both sides.
        cases (p.step e f logs head.toNat).2 with
        | none => simp
        | some p' => simp [ih]

/-- The poll reads the heads one after the other. -/
theorem map_head_rounds_isPrefix : (rounds e f logs p heads).map Round.head <+: heads := by
  induction heads generalizing p with
  | nil => exact List.prefix_rfl
  | cons head heads ih =>
    cases head with
    | none => exact (List.prefix_cons_inj none).2 List.nil_prefix
    | some head =>
      rw [rounds, List.map_cons, round]
      refine (List.prefix_cons_inj (some head)).2 ?_
      cases (p.step e f logs head.toNat).2 with
      | none => exact List.nil_prefix
      | some p' => exact ih

end Poll

/-! ## What a round can be -/

theorem queries_deliver (items : List Item) :
    (items.map Move.deliver).filterMap Move.query? = [] := by
  rw [List.filterMap_map]
  exact List.filterMap_eq_nil_iff.2 fun _ _ => rfl

theorem items_deliver (items : List Item) :
    (items.map Move.deliver).filterMap Move.item? = items := by
  rw [List.filterMap_map]
  exact List.filterMap_some

namespace Poll

/-- The query for the next blocks is below the greatest number that a block can have,
    if the head is. -/
theorem isNext_query (hhead : head.toNat < lastBlock) (hle : p.next ≤ head.toNat) :
    (p.query e f head.toNat).IsNext e f p.next head.toNat := by
  have hwidth : 1 ≤ max e.logRange.toNat 1 := Nat.le_max_right _ _
  refine ⟨rfl, ?_, ?_, ?_, rfl, rfl⟩
  all_goals
    simp only [query]
    omega

theorem catchUp_eq : p.catchUp = (if p.hasCaughtUp then [] else [Item.caughtUp]).map .deliver := by
  rw [catchUp]
  cases p.hasCaughtUp <;> rfl

/-- A poll that has asked for all blocks up to the head waits. -/
theorem rounds_of_lt (h : head.toNat < p.next) :
    rounds e f logs p (some head :: heads) =
      ⟨some head, none, p.catchUp⟩ :: rounds e f logs { p with hasCaughtUp := true } heads := by
  have hstep : p.step e f logs head.toNat = (p.catchUp, some { p with hasCaughtUp := true }) :=
    if_pos h
  have hquery : p.catchUp.findSome? Move.query? = none := by
    rw [catchUp]
    cases p.hasCaughtUp <;> rfl
  rw [rounds, round, hstep, hquery]
  rfl

/-- A query without an answer is the end of the poll. -/
theorem rounds_of_unanswered (h : ¬ head.toNat < p.next)
    (hlogs : logs p.queries (p.query e f head.toNat) = none) :
    rounds e f logs p (some head :: heads) =
      [⟨some head, none, [.query (p.query e f head.toNat), lose]⟩] := by
  have hstep : p.step e f logs head.toNat =
      ([.query (p.query e f head.toNat), lose], none) := by
    rw [step, if_neg h]
    simp only [hlogs]
  have hquery : [Move.query (p.query e f head.toNat), lose].findSome? Move.query? =
      some (p.query e f head.toNat) := rfl
  rw [rounds, round, hstep, hquery, Option.bind_some, hlogs]

/-- The answer to a query is sorted and delivered, and after the last block up to the
    head the feed has caught up. -/
theorem rounds_of_answered {found : List Log} (h : ¬ head.toNat < p.next)
    (hlogs : logs p.queries (p.query e f head.toNat) = some found) :
    let q := p.query e f head.toNat
    rounds e f logs p (some head :: heads) =
      ⟨some head, some found, .query q :: ((Log.sort found).filterMap (item? f) ++
        if p.hasCaughtUp || q.last != head.toNat then [] else [Item.caughtUp]).map .deliver⟩ ::
      rounds e f logs ⟨min lastBlock (q.last + 1), p.queries + 1,
        p.hasCaughtUp || q.last == head.toNat⟩ heads := by
  intro q
  have hstep : p.step e f logs head.toNat =
      (.query q :: ((Log.sort found).filterMap (item? f) ++
        if p.hasCaughtUp || q.last != head.toNat then [] else [Item.caughtUp]).map .deliver,
      some ⟨min lastBlock (q.last + 1), p.queries + 1,
        p.hasCaughtUp || q.last == head.toNat⟩) := by
    rw [step, if_neg h]
    simp only [hlogs]
    -- The mark follows the items if the query reached the head and none was delivered before.
    by_cases hlast : q.last = head.toNat
    · rw [if_pos hlast, catchUp_eq]
      simp [hlast, q]
    · rw [if_neg hlast]
      simp [hlast, q]
  have hquery (moves : List Move) : (Move.query q :: moves).findSome? Move.query? = some q := rfl
  rw [rounds, round, hstep, hquery, Option.bind_some, hlogs]

end Poll

theorem Reports.sublist {rs' : List Round} (h : Reports c rs) (hsub : rs'.Sublist rs) :
    Reports c rs' where
  pairwise_head := h.pairwise_head.sublist (hsub.filterMap _)
  head_lt r hr := h.head_lt r (hsub.subset hr)
  perm_found r hr := h.perm_found r (hsub.subset hr)

theorem Reports.tail (h : Reports c (r :: rs)) : Reports c rs :=
  h.sublist (List.sublist_cons_self r rs)

/-- The rounds in which a node reports a ledger. -/
theorem transcript_rounds (h : Reports c (Poll.rounds e f logs p heads)) :
    Transcript c e f p.hasCaughtUp p.next (Poll.rounds e f logs p heads) := by
  -- The induction is on the heads, for any poll: each round leaves another one behind.
  induction heads generalizing p with
  | nil => exact .done
  | cons head heads ih =>
    rcases head with _ | head
    · exact .unreached rfl rfl rfl
    by_cases hlt : head.toNat < p.next
    · -- There is nothing to ask for.
      rw [Poll.rounds_of_lt hlt] at h ⊢
      refine .waited rfl ?_ hlt ?_ (ih h.tail)
      · rw [Round.queries, Poll.catchUp_eq, queries_deliver]
      · rw [Round.items, Poll.catchUp_eq, items_deliver]
    cases hlogs : logs p.queries (p.query e f head.toNat) with
    | none =>
      rw [Poll.rounds_of_unanswered hlt hlogs] at h ⊢
      have hhead := h.head_lt _ List.mem_cons_self head rfl
      exact .unanswered rfl rfl (Poll.isNext_query hhead (Nat.le_of_not_lt hlt)) rfl rfl
    | some found =>
      rw [Poll.rounds_of_answered hlt hlogs] at h ⊢
      -- No head is the last block, so the bound on the next block is never met.
      have hhead := h.head_lt _ List.mem_cons_self head rfl
      have hnext : (p.query e f head.toNat).IsNext e f p.next head.toNat :=
        Poll.isNext_query hhead (Nat.le_of_not_lt hlt)
      have hperm : found.Perm ((p.query e f head.toNat).found c) :=
        h.perm_found _ List.mem_cons_self _ List.mem_cons_self _ rfl
      have hmin : min Poll.lastBlock ((p.query e f head.toNat).last + 1) =
          (p.query e f head.toNat).last + 1 := by
        have := hnext.last_le
        omega
      rw [hmin] at h ⊢
      refine .answered rfl (congrArg (List.cons _) (queries_deliver _)) hnext rfl ?_ (ih h.tail)
      refine (items_deliver _).trans ?_
      rw [sort_eq_found hperm, filterMap_item?_found hnext.game_eq, hnext.first_eq]

/-! ## What rounds are together -/

namespace Round

theorem next_eq_of_queries_eq_nil (h : r.queries = []) : r.next a = a := by
  rw [next, h]

theorem next_eq_of_found_eq_none (h : r.found = none) : r.next a = a := by
  rw [next, h]
  split <;> simp_all

theorem next_eq_of_found {q : Query} {found : List Log} (h : r.queries = [q])
    (hfound : r.found = some found) : r.next a = q.last + 1 := by
  rw [next, h, hfound]

end Round

theorem frontier_cons : frontier a (r :: rs) = frontier (r.next a) rs := rfl

theorem loss_cons (h : r.fails = false) : loss (r :: rs) = loss rs := by
  rw [loss, loss, List.any_cons, h, Bool.false_or]

theorem loss_singleton (h : r.fails = true) :
    loss [r] = [.fault (.connectionLost .callFailed)] := by
  rw [loss, List.any_cons, h, Bool.true_or, if_pos rfl]

theorem caughtUpAt?_cons_of_lt (hhead : r.head = some head) (h : head.toNat < r.next a) :
    caughtUpAt? a (r :: rs) = some head.toNat := by
  rw [caughtUpAt?, hhead]
  exact if_pos h

theorem caughtUpAt?_cons_of_le (h : ∀ head ∈ r.head, r.next a ≤ head.toNat) :
    caughtUpAt? a (r :: rs) = caughtUpAt? (r.next a) rs := by
  rw [caughtUpAt?]
  split
  · rename_i head hhead
    exact if_neg (Nat.not_lt_of_le (h head hhead))
  · rfl

/-- The head at which the feed has caught up is one of those that are read. -/
theorem mem_head_of_caughtUpAt? (h : caughtUpAt? a rs = some n) :
    ∃ head ∈ rs.filterMap Round.head, head.toNat = n := by
  induction rs generalizing a with
  | nil => cases h
  | cons r rs ih =>
    rw [caughtUpAt?] at h
    -- Either the first round catches up, or a later one.
    split at h
    · rename_i head hhead
      rw [List.filterMap_cons_some hhead]
      split at h
      · exact ⟨head, List.mem_cons_self, Option.some.inj h⟩
      · obtain ⟨head', hmem, heq⟩ := ih h
        exact ⟨head', List.mem_cons_of_mem _ hmem, heq⟩
    · rename_i hhead
      rw [List.filterMap_cons_none hhead]
      exact ih h

namespace Ledger

theorem delivered_nil : c.delivered f a [] = [] := by
  rw [delivered, caughtUpAt?, loss]
  exact List.append_eq_nil_iff.2 ⟨shown_eq_nil (Nat.le_refl a), rfl⟩

theorem delivered_eq_of_none (h : caughtUpAt? a rs = none) :
    c.delivered f a rs = c.shown f a (frontier a rs) ++ loss rs := by
  rw [delivered, h]

/-- A round in which a call fails brings that word alone. -/
theorem delivered_of_fails (hfails : r.fails = true) (hnext : r.next a = a)
    (hhead : ∀ head ∈ r.head, a ≤ head.toNat) :
    c.delivered f a [r] = [.fault (.connectionLost .callFailed)] := by
  have hat : caughtUpAt? a [r] = none := caughtUpAt?_cons_of_le (hnext.symm ▸ hhead)
  have hfrontier : frontier a [r] = a := hnext
  rw [delivered_eq_of_none hat, hfrontier, shown_eq_nil (Nat.le_refl a), loss_singleton hfails]
  rfl

theorem delivered_eq_of_some (h : caughtUpAt? a rs = some n) :
    c.delivered f a rs = c.shown f a (n + 1) ++ .caughtUp ::
      c.shown f (max a (n + 1)) (frontier a rs) ++ loss rs := by
  rw [delivered, h]

end Ledger

namespace Transcript

variable {told : Bool}

/-- A query for the next blocks is followed by queries for the blocks after these. -/
theorem tiles (h : Transcript c e f told a rs) :
    Tiles (max e.logRange.toNat 1) a (rs.flatMap Round.queries) := by
  induction h with
  | done => exact .nil _
  | unreached _ hqueries =>
    rw [List.flatMap_cons, hqueries]
    exact .nil _
  | waited _ hqueries _ _ _ ih =>
    rw [List.flatMap_cons, hqueries]
    exact ih
  -- The range that was not answered is the last one, for the poll ends with it.
  | unanswered _ hqueries hnext =>
    rw [List.flatMap_cons, hqueries, ← hnext.first_eq]
    exact .cons hnext.first_le hnext.last_lt (.nil _)
  | answered _ hqueries hnext _ _ _ ih =>
    rw [List.flatMap_cons, hqueries, ← hnext.first_eq]
    exact .cons hnext.first_le hnext.last_lt ih

/-- Each query is the one for the next blocks up to the head that was read right
    before. -/
theorem isNext_of_mem_queries (h : Transcript c e f told a rs) (hr : r ∈ rs) {q : Query}
    (hq : q ∈ r.queries) : ∃ head, r.head = some head ∧ q.IsNext e f q.first head.toNat := by
  -- A round makes one query at most, which begins where the rounds before it have come to.
  induction h with
  | done => cases hr
  | unreached _ hqueries =>
    rw [List.mem_singleton.1 hr, hqueries] at hq
    cases hq
  | waited _ hqueries _ _ _ ih =>
    rcases List.mem_cons.1 hr with rfl | hr
    · rw [hqueries] at hq
      cases hq
    · exact ih hr
  | unanswered hhead hqueries hnext =>
    rw [List.mem_singleton.1 hr, hqueries, List.mem_singleton] at hq
    subst hq
    exact ⟨_, List.mem_singleton.1 hr ▸ hhead, { hnext with first_eq := rfl }⟩
  | answered hhead hqueries hnext _ _ _ ih =>
    rcases List.mem_cons.1 hr with rfl | hr
    · rw [hqueries, List.mem_singleton] at hq
      subst hq
      exact ⟨_, hhead, { hnext with first_eq := rfl }⟩
    · exact ih hr

theorem tail (h : Transcript c e f told a (r :: rs)) :
    ∃ told', Transcript c e f told' (r.next a) rs := by
  cases h with
  | unreached | unanswered => exact ⟨told, .done⟩
  | waited _ hqueries _ _ rest => exact ⟨true, Round.next_eq_of_queries_eq_nil hqueries ▸ rest⟩
  | answered _ hqueries _ hfound _ rest =>
    exact ⟨_, Round.next_eq_of_found hqueries hfound ▸ rest⟩

/-- A round asks for logs as soon as the head is a block that has not been asked for. -/
theorem queries_eq_nil_iff {before after : List Round}
    (h : Transcript c e f told a (before ++ r :: after)) :
    r.queries = [] ↔ ∀ head ∈ r.head, head.toNat < frontier a before := by
  induction before generalizing told a with
  | nil =>
    -- The query of a round begins at the frontier, and ends at the head at the latest.
    have hasks {q : Query} {head : UInt64} (hhead : r.head = some head)
        (hqueries : r.queries = [q]) (hnext : q.IsNext e f a head.toNat) :
        r.queries = [] ↔ ∀ head ∈ r.head, head.toNat < a := by
      have hle := hnext.first_eq ▸ Nat.le_trans hnext.first_le hnext.last_le
      simp [hhead, hqueries, hle]
    cases h with
    | unreached hhead hqueries => simp [hhead, hqueries]
    | waited hhead hqueries hlt => simp [hhead, hqueries, frontier, hlt]
    | unanswered hhead hqueries hnext => exact hasks hhead hqueries hnext
    | answered hhead hqueries hnext => exact hasks hhead hqueries hnext
  | cons r' before ih =>
    obtain ⟨told', h⟩ := tail h
    exact ih h

theorem le_frontier (h : Transcript c e f told a rs) : a ≤ frontier a rs := by
  -- Only a round that is answered moves the frontier, and it does so past the end of its query.
  induction h with
  | done => exact Nat.le_refl _
  | unreached _ hqueries =>
    exact Nat.le_of_eq (Round.next_eq_of_queries_eq_nil hqueries).symm
  | waited _ hqueries _ _ _ ih =>
    rw [frontier_cons, Round.next_eq_of_queries_eq_nil hqueries]
    exact ih
  | unanswered _ _ _ hfound =>
    exact Nat.le_of_eq (Round.next_eq_of_found_eq_none hfound).symm
  | answered _ hqueries hnext hfound _ _ ih =>
    rw [frontier_cons, Round.next_eq_of_found hqueries hfound]
    have hle := hnext.first_eq ▸ hnext.first_le
    exact Nat.le_trans (Nat.le_succ_of_le hle) ih

/-- A feed that has been told that it has caught up delivers what there is to show. -/
theorem items_eq_of_told (h : Transcript c e f true a rs) :
    rs.flatMap Round.items = c.shown f a (frontier a rs) ++ loss rs := by
  generalize htold : true = told at h
  induction h with
  | done => simp [frontier, loss, Ledger.shown_eq_nil]
  | unreached hhead hqueries hitems =>
    rw [frontier_cons, Round.next_eq_of_queries_eq_nil hqueries, List.flatMap_cons, hitems]
    simp [frontier, loss, Round.fails, hhead, Ledger.shown_eq_nil]
  | waited hhead hqueries _ hitems _ ih =>
    rw [frontier_cons, Round.next_eq_of_queries_eq_nil hqueries, List.flatMap_cons, hitems,
      loss_cons (by simp [Round.fails, hhead, hqueries]), ← ih rfl, ← htold]
    rfl
  | unanswered hhead hqueries hnext hfound hitems =>
    rw [frontier_cons, Round.next_eq_of_found_eq_none hfound, List.flatMap_cons, hitems]
    simp [frontier, loss, Round.fails, hhead, hqueries, hfound, Ledger.shown_eq_nil]
  -- The items of the query are those of its range, and the ranges of the rest begin behind it.
  | answered hhead hqueries hnext hfound hitems rest ih =>
    rw [frontier_cons, Round.next_eq_of_found hqueries hfound, List.flatMap_cons, hitems,
      loss_cons (by simp [Round.fails, hhead, hfound]), ih (by simp [← htold])]
    have hle := hnext.first_eq ▸ hnext.first_le
    rw [← Ledger.shown_append (Nat.le_succ_of_le hle) rest.le_frontier, ← htold]
    simp

/-- A feed delivers what it should. -/
theorem items_eq (h : Transcript c e f false a rs)
    (hheads : (rs.filterMap Round.head).Pairwise (· ≤ ·)) :
    rs.flatMap Round.items = c.delivered f a rs := by
  generalize htold : false = told at h
  induction h with
  | done => rw [Ledger.delivered_nil, List.flatMap_nil]
  | unreached hhead hqueries hitems =>
    rw [Ledger.delivered_of_fails (by simp [Round.fails, hhead])
      (Round.next_eq_of_queries_eq_nil hqueries) (by simp [hhead]), List.flatMap_cons, hitems]
    rfl
  | @waited _ a r rs head hhead hqueries hlt hitems rest ih =>
    subst htold
    -- The feed has caught up with nothing, and delivers what there is to show from now on.
    have hnext : r.next a = a := Round.next_eq_of_queries_eq_nil hqueries
    rw [Ledger.delivered_eq_of_some (caughtUpAt?_cons_of_lt hhead (hnext.symm ▸ hlt)),
      loss_cons (by simp [Round.fails, hhead, hqueries]), frontier_cons, hnext, List.flatMap_cons,
      hitems, items_eq_of_told rest, Ledger.shown_eq_nil (Nat.succ_le_of_lt hlt),
      Nat.max_eq_left (Nat.succ_le_of_lt hlt)]
    rfl
  | unanswered hhead hqueries hq hfound hitems =>
    have hle := hq.first_eq ▸ Nat.le_trans hq.first_le hq.last_le
    rw [Ledger.delivered_of_fails (by simp [Round.fails, hhead, hqueries, hfound])
      (Round.next_eq_of_found_eq_none hfound) (by simp [hhead, hle]), List.flatMap_cons, hitems]
    rfl
  | @answered _ a r rs head q found hhead hqueries hq hfound hitems rest ih =>
    subst htold
    have hnext : r.next a = q.last + 1 := Round.next_eq_of_found hqueries hfound
    have hfirst : a ≤ q.last := hq.first_eq ▸ hq.first_le
    have hloss : loss (r :: rs) = loss rs := loss_cons (by simp [Round.fails, hhead, hfound])
    rw [List.filterMap_cons_some hhead, List.pairwise_cons] at hheads
    rw [List.flatMap_cons, hitems]
    by_cases hall : q.last = head.toNat
    · -- These were the last blocks up to the head.
      rw [hall] at hnext hfirst rest ⊢
      rw [beq_self_eq_true, Bool.or_true] at rest
      rw [Ledger.delivered_eq_of_some (caughtUpAt?_cons_of_lt hhead (by omega)), hloss,
        frontier_cons, hnext, items_eq_of_told rest, Nat.max_eq_right (by omega)]
      simp
    · -- There are more blocks, and the heads to come are not below this one.
      have hlt : q.last < head.toNat := Nat.lt_of_le_of_ne hq.last_le hall
      have hat : caughtUpAt? a (r :: rs) = caughtUpAt? (q.last + 1) rs := by
        rw [← hnext]
        exact caughtUpAt?_cons_of_le (by simpa [hhead, hnext, Nat.succ_le_iff] using hlt)
      rw [ih hheads.2 (by simp [hall])]
      cases hrest : caughtUpAt? (q.last + 1) rs with
      | none =>
        rw [Ledger.delivered_eq_of_none hrest, Ledger.delivered_eq_of_none (hat.trans hrest), hloss,
          frontier_cons, hnext,
          ← Ledger.shown_append (Nat.le_succ_of_le hfirst) rest.le_frontier]
        simp [hall]
      | some n =>
        obtain ⟨head', hmem, rfl⟩ := mem_head_of_caughtUpAt? hrest
        have hle : head.toNat ≤ head'.toNat := hheads.1 head' hmem
        rw [Ledger.delivered_eq_of_some hrest, Ledger.delivered_eq_of_some (hat.trans hrest), hloss,
          frontier_cons, hnext, Nat.max_eq_right (by omega), Nat.max_eq_right (by omega),
          ← Ledger.shown_append (a := a) (n := head'.toNat + 1) (Nat.le_succ_of_le hfirst)
            (by omega)]
        simp [hall]

/-- A call that fails is the end. -/
theorem eq_nil_of_fails {before after : List Round}
    (h : Transcript c e f told a (before ++ r :: after)) (hfails : r.fails = true) :
    after = [] := by
  induction before generalizing told a with
  | nil =>
    cases h with
    | unreached | unanswered => rfl
    | waited hhead hqueries => simp [Round.fails, hhead, hqueries] at hfails
    | answered hhead _ _ hfound => simp [Round.fails, hhead, hfound] at hfails
  | cons r' before ih =>
    obtain ⟨told', h⟩ := tail h
    exact ih h

end Transcript

/-- A poll goes on as long as no call fails. -/
theorem Poll.map_head_rounds (h : ∀ r ∈ rounds e f logs p heads, r.fails = false) :
    (rounds e f logs p heads).map Round.head = heads := by
  -- A round uses up a head, and the poll goes on with the next one unless the round fails.
  induction heads generalizing p with
  | nil => rfl
  | cons head heads ih =>
    rcases head with _ | head
    · cases h _ List.mem_cons_self
    by_cases hlt : head.toNat < p.next
    · rw [rounds_of_lt hlt] at h ⊢
      exact congrArg (List.cons _) (ih fun r hr => h r (List.mem_cons_of_mem _ hr))
    cases hlogs : logs p.queries (p.query e f head.toNat) with
    | none =>
      rw [rounds_of_unanswered hlt hlogs] at h
      cases h _ List.mem_cons_self
    | some found =>
      rw [rounds_of_answered hlt hlogs] at h ⊢
      exact congrArg (List.cons _) (ih fun r hr => h r (List.mem_cons_of_mem _ hr))

/-! ## Feeds of the contract -/

/-- Suppose that a node reports a ledger to a feed of the contract, and answers the
    first call. Then the feed reads the heads, one in each round, until a call fails.
    Its queries begin with the start block and follow each other without a gap or an
    overlap; none is for more blocks than the endpoint allows, or for a block above
    the head that was read right before, and there is one whenever that head has not
    been asked for. After any number of rounds, it has delivered what there is to
    show of the blocks that were asked for, each log once and in the order of the
    chain, the word that it has caught up after the last block up to the head of that
    time, and the loss of the connection, if a call failed. -/
theorem subscribe_of_reports {node : Node} {first : UInt64}
    (hheads : node.heads = some first :: heads)
    (hreports : Reports c (Poll.rounds e f node.logs (.start e) heads)) :
    let rs := Poll.rounds e f node.logs (.start e) heads
    let start := e.startBlock.toNat
    subscribe e f node = .ok (rs.flatMap Round.moves) ∧
      rs.map Round.head <+: heads ∧
      ((∀ r ∈ rs, r.fails = false) → rs.map Round.head = heads) ∧
      Tiles (max e.logRange.toNat 1) start (rs.flatMap Round.queries) ∧
      (∀ r ∈ rs, ∀ q ∈ r.queries, q.contract = e.contract ∧ q.game = f.game ∧
        ∃ head, r.head = some head ∧ q.last ≤ head.toNat) ∧
      (∀ before r after, rs = before ++ r :: after →
        (r.queries = [] ↔ ∀ head ∈ r.head, head.toNat < frontier start before) ∧
        (r.fails = true → after = [])) ∧
      ∀ k, (rs.take k).flatMap Round.items = c.delivered f start (rs.take k) := by
  intro rs start
  have htranscript : Transcript c e f false start rs := transcript_rounds hreports
  refine ⟨?_, Poll.map_head_rounds_isPrefix, Poll.map_head_rounds, htranscript.tiles, ?_, ?_, ?_⟩
  · rw [subscribe, hheads]
    exact congrArg Except.ok Poll.run_eq_flatMap_rounds
  · intro r hr q hq
    obtain ⟨head, hhead, hnext⟩ := htranscript.isNext_of_mem_queries hr hq
    exact ⟨hnext.contract_eq, hnext.game_eq, head, hhead, hnext.last_le⟩
  · intro before r after hsplit
    rw [hsplit] at htranscript
    exact ⟨htranscript.queries_eq_nil_iff, htranscript.eq_nil_of_fails⟩
  · intro k
    -- The first rounds are the rounds of the first heads,
    -- of which everything said so far is true.
    have htake : rs.take k = Poll.rounds e f node.logs (.start e) (heads.take k) :=
      Poll.take_rounds
    have hreports' : Reports c (rs.take k) := hreports.sublist (List.take_sublist k rs)
    rw [htake] at hreports' ⊢
    exact (transcript_rounds hreports').items_eq hreports'.pairwise_head

/-- A chain with a log of the game 7 that is undecodable, and one of another game. -/
def mixedLedger : Ledger where
  logs b :=
    match b with
    | 3 => [.ofEntry ⟨⟨3, 1⟩, .created ⟨7⟩ (.fill 0xc1)⟩]
    | 5 => [⟨some 5, some 0, [signature .shuffled, .ofNat 7], []⟩,
      .ofEntry ⟨⟨5, 1⟩, .rematch ⟨8⟩⟩, .ofEntry ⟨⟨5, 2⟩, .rematch ⟨7⟩⟩]
    | 7 => [.ofEntry ⟨⟨7, 0⟩, .shuffled ⟨7⟩ (.fill 0xc1)⟩]
    | _ => []
  block_eq b l hl := by
    split at hl <;> simp only [List.mem_cons, List.not_mem_nil, or_false] at hl
    · subst hl
      rfl
    · rcases hl with rfl | rfl | rfl <;> rfl
    · subst hl
      rfl
  index_lt b := by
    split
    · exact List.pairwise_singleton _ _
    · simp [Log.ofEntry, Log.write]
    · exact List.pairwise_singleton _ _
    · exact .nil

/-- A node that reports this chain as it grows, until it does not answer any more. It
    gives out the logs of a query in the reverse order. -/
def reversingNode : Node where
  heads := [some 5, some 5, some 5, some 5, some 7, none]
  logs _ q := some (q.found mixedLedger).reverse

/-- The feed of the game 7 from block 3 on, where two blocks are asked for at once. -/
theorem subscribe_of_reports_reversed :
    ∃ (e : Endpoint) (f : Filter) (rs : List Round), Reports mixedLedger rs ∧
      subscribe e f reversingNode = .ok (rs.flatMap Round.moves) ∧
      rs.flatMap Round.queries = [⟨3, 4, .fill 0xaa, some ⟨7⟩⟩, ⟨5, 5, .fill 0xaa, some ⟨7⟩⟩,
        ⟨6, 7, .fill 0xaa, some ⟨7⟩⟩] ∧
      rs.flatMap Round.items = [.entry ⟨⟨3, 1⟩, .created ⟨7⟩ (.fill 0xc1)⟩,
        .fault (.malformedEvent (.undecodable ⟨5, 0⟩)), .entry ⟨⟨5, 2⟩, .rematch ⟨7⟩⟩, .caughtUp,
        .entry ⟨⟨7, 0⟩, .shuffled ⟨7⟩ (.fill 0xc1)⟩, .fault (.connectionLost .callFailed)] := by
  let rs : List Round :=
    [⟨some 5, some (mixedLedger.logs 3),
        [.query ⟨3, 4, .fill 0xaa, some ⟨7⟩⟩,
          .deliver (.entry ⟨⟨3, 1⟩, .created ⟨7⟩ (.fill 0xc1)⟩)]⟩,
      ⟨some 5, some [.ofEntry ⟨⟨5, 2⟩, .rematch ⟨7⟩⟩,
          ⟨some 5, some 0, [signature .shuffled, .ofNat 7], []⟩],
        [.query ⟨5, 5, .fill 0xaa, some ⟨7⟩⟩,
          .deliver (.fault (.malformedEvent (.undecodable ⟨5, 0⟩))),
          .deliver (.entry ⟨⟨5, 2⟩, .rematch ⟨7⟩⟩), .deliver .caughtUp]⟩,
      ⟨some 5, none, []⟩,
      ⟨some 7, some (mixedLedger.logs 7),
        [.query ⟨6, 7, .fill 0xaa, some ⟨7⟩⟩,
          .deliver (.entry ⟨⟨7, 0⟩, .shuffled ⟨7⟩ (.fill 0xc1)⟩)]⟩,
      ⟨none, none, [Poll.lose]⟩]
  -- One round finds that the head has not moved, and asks for nothing. The log that is too
  -- short to be read is reported between the entries, in the order of their places.
  have hrounds : Poll.rounds ⟨"http://127.0.0.1:8545", .fill 0xaa, 3, 2, 2000, 1024⟩
      ⟨some ⟨7⟩, [.created, .shuffled, .rematch]⟩ reversingNode.logs
      (.start ⟨"http://127.0.0.1:8545", .fill 0xaa, 3, 2, 2000, 1024⟩)
      [some 5, some 5, some 5, some 7, none] = rs := by
    cbv
  have hlt : ∀ r ∈ rs, ∀ head ∈ r.head, head.toNat < Poll.lastBlock := by
    simp [rs, Poll.lastBlock]
  have hreports : Reports mixedLedger rs := ⟨by decide +kernel, hlt, by decide +kernel⟩
  obtain ⟨hrun, -⟩ := subscribe_of_reports rfl (hrounds.symm ▸ hreports)
  rw [hrounds] at hrun
  exact ⟨_, _, rs, hreports, hrun, rfl, rfl⟩

end ShuffleWatch.Contract
