import BlockLattice.Ledger.Query
import BlockLattice.Proofs.Delegates

namespace BlockLattice

def Delegate.Outranks (a b : Delegate) : Prop :=
  b.weight.raw < a.weight.raw ∨ a.weight.raw = b.weight.raw ∧ compare a.account b.account = .lt

namespace Delegate

theorem ranksBefore_iff {a b : Delegate} : a.ranksBefore b = true ↔
    b.weight.raw < a.weight.raw ∨ a.weight.raw = b.weight.raw ∧ (compare a.account b.account).isLE = true := by
  simp [ranksBefore]

theorem ranksBefore_trans {a b c : Delegate} (first : a.ranksBefore b = true) (second : b.ranksBefore c = true) :
    a.ranksBefore c = true := by
  rw [ranksBefore_iff] at *
  rcases first with more | ⟨even, lower⟩
  · left
    omega
  · rcases second with more | ⟨again, below⟩
    · left
      omega
    · exact .inr ⟨even.trans again, Std.TransCmp.isLE_trans lower below⟩

theorem ranksBefore_total (a b : Delegate) : (a.ranksBefore b || b.ranksBefore a) = true := by
  rw [Bool.or_eq_true, ranksBefore_iff, ranksBefore_iff]
  rcases Nat.lt_trichotomy a.weight.raw b.weight.raw with less | even | more
  · exact .inr (.inl less)
  · cases order : compare a.account b.account with
    | gt => exact .inr (.inr ⟨even.symm, by rw [Std.OrientedCmp.lt_of_gt order]; rfl⟩)
    | lt | eq => exact .inl (.inr ⟨even, rfl⟩)
  · exact .inl (.inl more)

theorem ranksBefore_antisymm {a b : Delegate} (first : a.ranksBefore b = true) (second : b.ranksBefore a = true) :
    a = b := by
  rw [ranksBefore_iff] at *
  have even : a.weight.raw = b.weight.raw := by omega
  have lower := (first.resolve_left (by omega)).2
  have higher := (second.resolve_left (by omega)).2
  have same := Std.LawfulEqCmp.eq_of_compare (Std.OrientedCmp.isLE_antisymm lower higher)
  cases a
  cases b
  cases same
  cases Amount.ext even
  rfl

theorem outranks_of_ranksBefore {a b : Delegate} (before : a.ranksBefore b = true) (apart : a.account ≠ b.account) :
    a.Outranks b := by
  rcases ranksBefore_iff.mp before with more | ⟨even, lower⟩
  · exact .inl more
  · refine .inr ⟨even, ?_⟩
    cases order : compare a.account b.account with
    | lt => rfl
    | eq => exact absurd (Std.LawfulEqCmp.eq_of_compare order) apart
    | gt => rw [order] at lower; cases lower

end Delegate

theorem Account.filter_votes (a : Account) (d : AccountId) :
    a.votes.toList.filter (fun v => v == d) = if a.votesFor d then [d] else [] := by
  have once : a.votes.toList.Nodup := by
    apply Std.ExtTreeSet.distinct_toList.imp
    intro x y apart same
    exact apart (Std.LawfulEqCmp.compare_eq_iff_eq.mpr same)
  rw [List.filter_beq, once.count]
  by_cases voted : d ∈ a.votes
  · simp [Account.votesFor, voted]
  · simp [Account.votesFor, voted]

namespace WeightTable

def singly (voters : List (List AccountId × Amount)) : List (AccountId × Amount) :=
  voters.flatMap fun v => v.1.map fun d => (d, v.2)

def addAll (t : WeightTable) (votes : List (AccountId × Amount)) : WeightTable :=
  votes.foldl (fun t v => t.add v.1 v.2) t

def lent (votes : List (AccountId × Amount)) (d : AccountId) : List Nat :=
  (votes.filter fun v => v.1 == d).map fun v => v.2.raw

def lentBy (d : AccountId) (voter : List AccountId × Amount) : List Nat :=
  (voter.1.filter fun x => x == d).map fun _ => voter.2.raw

theorem lent_singly (voters : List (List AccountId × Amount)) (d : AccountId) :
    lent (singly voters) d = voters.flatMap (lentBy d) := by
  rw [lent, singly, List.filter_flatMap, List.map_flatMap]
  apply List.flatMap_congr
  intro v _
  rw [List.filter_map, List.map_map]
  rfl

theorem addVotes_eq (t : WeightTable) (votes : List AccountId) (balance : Amount) :
    t.addVotes votes balance = t.addAll (votes.map fun d => (d, balance)) := by
  rw [addVotes, addAll, List.foldl_map]

theorem ofVoters_eq (voters : List (List AccountId × Amount)) : ofVoters voters = empty.addAll (singly voters) := by
  rw [ofVoters, addAll, singly, List.foldl_flatMap]
  apply List.foldl_ext
  intro t v _
  exact t.addVotes_eq v.1 v.2

theorem weight_add (t : WeightTable) (d : AccountId) (weight : Amount) (id : AccountId) :
    (t.add d weight).weight id = if d = id then (t.weight d).saturatingAdd weight else t.weight id := by
  by_cases same : d = id <;> simp [WeightTable.weight, add, Std.ExtTreeMap.getElem?_insert, same]

-- A sum that has been held at the largest amount stays there, so that a weight
-- is what it would be if it were held there once, at the end.
theorem weight_addAll (t : WeightTable) (votes : List (AccountId × Amount)) (d : AccountId) :
    ((t.addAll votes).weight d).raw = min ((t.weight d).raw + (lent votes d).sum) (Amount.size - 1) := by
  induction votes generalizing t with
  | nil =>
    have bound := (t.weight d).raw_lt
    change (t.weight d).raw = min ((t.weight d).raw + 0) (Amount.size - 1)
    omega
  | cons v rest ih =>
    change ((((t.add v.1 v.2).addAll rest)).weight d).raw = _
    rw [ih, weight_add]
    by_cases same : v.1 = d
    · simp only [lent, same, if_true, Amount.raw_saturatingAdd, beq_self_eq_true, List.filter_cons_of_pos,
        List.map_cons, List.sum_cons]
      omega
    · simp [lent, same]

theorem mem_addAll {t : WeightTable} {votes : List (AccountId × Amount)} {d : AccountId} :
    d ∈ (t.addAll votes).weights ↔ d ∈ t.weights ∨ lent votes d ≠ [] := by
  induction votes generalizing t with
  | nil => simp [addAll, lent]
  | cons v rest ih =>
    change d ∈ ((t.add v.1 v.2).addAll rest).weights ↔ _
    rw [ih]
    by_cases same : v.1 = d
    · simp [add, lent, same]
    · simp [add, lent, same]

theorem ext_weight {t s : WeightTable} (listed : ∀ d, d ∈ t.weights ↔ d ∈ s.weights)
    (weights : ∀ d, t.weight d = s.weight d) : t = s := by
  rw [mk.injEq]
  apply Std.ExtTreeMap.ext_getElem?
  intro d
  have weight := weights d
  by_cases known : d ∈ t.weights
  · rw [Std.ExtTreeMap.getElem?_eq_some_getElem known, Std.ExtTreeMap.getElem?_eq_some_getElem ((listed d).mp known)]
    simpa [WeightTable.weight, known, (listed d).mp known] using weight
  · rw [Std.ExtTreeMap.getElem?_eq_none known,
      Std.ExtTreeMap.getElem?_eq_none fun other => known ((listed d).mpr other)]

theorem addAll_perm (t : WeightTable) {votes order : List (AccountId × Amount)} (perm : order.Perm votes) :
    t.addAll order = t.addAll votes := by
  have lends : ∀ d, (lent order d).Perm (lent votes d) := fun d => (perm.filter _).map _
  apply ext_weight
  · intro d
    rw [mem_addAll, mem_addAll]
    rw [← List.length_pos_iff, ← List.length_pos_iff, (lends d).length_eq]
  · intro d
    apply Amount.ext
    rw [weight_addAll, weight_addAll, (lends d).sum_nat]

def delegates (t : WeightTable) : List Delegate := t.weights.toList.map fun entry => ⟨entry.1, entry.2⟩

theorem ranked_eq (t : WeightTable) : t.ranked = t.delegates.mergeSort Delegate.ranksBefore := rfl

theorem mem_ranked_iff {t : WeightTable} {x : Delegate} :
    x ∈ t.ranked ↔ x.account ∈ t.weights ∧ t.weight x.account = x.weight := by
  rw [ranked_eq, List.mem_mergeSort, delegates, List.mem_map]
  constructor
  · rintro ⟨⟨id, weight⟩, entry, rfl⟩
    rw [Std.ExtTreeMap.mem_toList_iff_getElem?_eq_some] at entry
    exact ⟨Std.ExtTreeMap.mem_iff_isSome_getElem?.mpr (by rw [entry]; rfl), by simp [WeightTable.weight, entry]⟩
  · rintro ⟨listed, weight⟩
    refine ⟨(x.account, x.weight), Std.ExtTreeMap.mem_toList_iff_getElem?_eq_some.mpr ?_, rfl⟩
    rw [Std.ExtTreeMap.getElem?_eq_some_getElem listed]
    simpa [WeightTable.weight, listed] using weight

theorem mem_accounts_ranked {t : WeightTable} {d : AccountId} :
    d ∈ t.ranked.map Delegate.account ↔ d ∈ t.weights := by
  rw [List.mem_map]
  constructor
  · rintro ⟨x, listed, rfl⟩
    exact (mem_ranked_iff.mp listed).1
  · intro listed
    exact ⟨⟨d, t.weight d⟩, mem_ranked_iff.mpr ⟨listed, rfl⟩, rfl⟩

theorem sorted_ranked (order : List Delegate) :
    (order.mergeSort Delegate.ranksBefore).Pairwise fun a b => a.ranksBefore b = true := by
  apply List.pairwise_mergeSort
  · exact fun _ _ _ => Delegate.ranksBefore_trans
  · exact Delegate.ranksBefore_total

theorem outranks_ranked (t : WeightTable) : t.ranked.Pairwise Delegate.Outranks := by
  have apart := List.pairwise_map.mp t.nodup_ranked
  exact (sorted_ranked t.delegates).imp₂ (fun _ _ => Delegate.outranks_of_ranksBefore) apart

theorem ranked_perm {t : WeightTable} {order : List Delegate} (perm : order.Perm t.delegates) :
    order.mergeSort Delegate.ranksBefore = t.ranked := by
  apply List.Perm.eq_of_pairwise (fun _ _ _ _ => Delegate.ranksBefore_antisymm) (sorted_ranked _) (sorted_ranked _)
  exact (List.mergeSort_perm ..).trans (perm.trans (List.mergeSort_perm ..).symm)

end WeightTable

namespace Ledger

variable {l : Ledger}

def ballots (l : Ledger) : List (AccountId × Amount) :=
  WeightTable.singly (l.accounts.toList.filterMap fun (id, a) => l.voter? id a)

theorem weightTable_addAll (l : Ledger) : l.weightTable = WeightTable.empty.addAll l.ballots :=
  WeightTable.ofVoters_eq _

def stake (l : Ledger) (d : AccountId) (entry : AccountId × Account) : List Nat :=
  if entry.2.votesFor d && l.isOpened entry.1 then [l.balance entry.1] else []

theorem stakes_eq (l : Ledger) (d : AccountId) :
    (l.stakeholders d).map l.balance = l.accounts.toList.flatMap (l.stake d) := by
  change ((l.accounts.toList.filter fun entry => entry.2.votesFor d && l.isOpened entry.1).map Prod.fst).map _ = _
  rw [List.map_map]
  induction l.accounts.toList with
  | nil => rfl
  | cons entry rest ih =>
    rw [List.flatMap_cons, ← ih, stake, List.filter_cons]
    split <;> rfl

theorem Sound.lends (sound : l.Sound) (d : AccountId) (entry : AccountId × Account) :
    (l.voter? entry.1 entry.2).toList.flatMap (WeightTable.lentBy d) =
      if l.isDelegate d then l.stake d entry else [] := by
  cases last : l.latest? entry.1 with
  | none =>
    simp [voter?, stake, last, isOpened_eq, sound.unopened_of_latest last]
  | some tip =>
    obtain ⟨c, held, _⟩ := sound.chain?_of_latest last
    have voter : l.voter? entry.1 entry.2 = some (entry.2.votes.toList.filter l.isDelegate, tip.balance) := by
      rw [voter?, last]
      rfl
    rw [voter, Option.toList_some, List.flatMap_singleton, WeightTable.lentBy, List.filter_comm, Account.filter_votes,
      stake, isOpened_eq, held, balance_of_latest last]
    cases entry.2.votesFor d <;> cases delegate : l.isDelegate d <;> simp [delegate]

-- Both walks find the same voters for a delegate, in the same order.
theorem Sound.lent_ballots (sound : l.Sound) (d : AccountId) :
    WeightTable.lent l.ballots d = if l.isDelegate d then (l.stakeholders d).map l.balance else [] := by
  rw [ballots, WeightTable.lent_singly, List.filterMap_eq_flatMap_toList, List.flatMap_assoc, stakes_eq,
    List.flatMap_congr fun entry _ => sound.lends d entry]
  cases l.isDelegate d <;> simp

theorem Sound.mem_ranking (sound : l.Sound) {d : AccountId} :
    d ∈ l.ranking.map Delegate.account ↔ l.isDelegate d = true ∧ l.stakeholders d ≠ [] := by
  rw [ranking, WeightTable.mem_accounts_ranked, weightTable_addAll, WeightTable.mem_addAll, sound.lent_ballots]
  cases l.isDelegate d <;> simp [WeightTable.empty]

-- The ranking is the list of the delegates that have stakeholders, each with the
-- balances of these as its weight, in an order that neither the order of the votes
-- nor that of the table has a part in. An election takes its forgers from the top.
theorem ranking_agrees (calls : List Call) : let l := replay calls
    (l.ranking.map Delegate.account).Nodup ∧
    (∀ d, d ∈ l.ranking.map Delegate.account ↔ l.isDelegate d = true ∧ l.stakeholders d ≠ []) ∧
    (∀ x ∈ l.ranking, x.weight.raw = min ((l.stakeholders x.account).map l.balance).sum (2 ^ 128 - 1)) ∧
    l.ranking.Pairwise Delegate.Outranks ∧
    (∀ votes : List (AccountId × Amount), votes.Perm l.ballots →
      ∀ order : List Delegate, order.Perm (WeightTable.empty.addAll votes).delegates →
        order.mergeSort Delegate.ranksBefore = l.ranking) ∧
    ∀ (d : Delegation) (p : Params), d.round.hasEnded = true → (d.update l p).round.index = 0 ∧
      (d.update l p).round.forgers =
        (l.ranking.filter fun x => d.isRegistered x.account).take p.maxForgers.toNat := by
  intro l
  have sound : l.Sound := (reachable_replay calls).sound
  refine ⟨WeightTable.nodup_ranked _, fun d => sound.mem_ranking, ?_, WeightTable.outranks_ranked _, ?_, ?_⟩
  · intro x listed
    obtain ⟨_, weight⟩ := WeightTable.mem_ranked_iff.mp listed
    rw [← weight, weightTable_addAll, WeightTable.weight_addAll, sound.lent_ballots, if_pos (ranking_delegates listed)]
    simp [WeightTable.weight, WeightTable.empty]
  · intro votes cast order walked
    rw [WeightTable.addAll_perm _ cast, ← weightTable_addAll] at walked
    exact WeightTable.ranked_perm walked
  · intro d p ended
    rw [Delegation.update, if_pos ended]
    exact ⟨rfl, rfl⟩

end Ledger
end BlockLattice
