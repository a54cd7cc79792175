import BlockLattice.Proofs.Enduring

namespace BlockLattice

namespace WeightTable

theorem mem_add {t : WeightTable} {d id : AccountId} {weight : Amount} (listed : id ∈ (t.add d weight).weights) :
    d = id ∨ id ∈ t.weights := by
  simpa [add] using listed

theorem mem_addVotes {t : WeightTable} {votes : List AccountId} {balance : Amount} {id : AccountId}
    (listed : id ∈ (t.addVotes votes balance).weights) : id ∈ votes ∨ id ∈ t.weights := by
  induction votes generalizing t with
  | nil => exact .inr listed
  | cons d rest ih =>
    rcases ih listed with later | before
    · exact .inl (List.mem_cons_of_mem _ later)
    · rcases mem_add before with rfl | old
      · exact .inl (List.mem_cons_self ..)
      · exact .inr old

theorem mem_foldl_addVotes {t : WeightTable} {voters : List (List AccountId × Amount)} {id : AccountId}
    (listed : id ∈ (voters.foldl (fun t v => t.addVotes v.1 v.2) t).weights) :
    (∃ v ∈ voters, id ∈ v.1) ∨ id ∈ t.weights := by
  induction voters generalizing t with
  | nil => exact .inr listed
  | cons v rest ih =>
    rcases ih listed with ⟨w, later, votes⟩ | before
    · exact .inl ⟨w, List.mem_cons_of_mem _ later, votes⟩
    · rcases mem_addVotes before with votes | old
      · exact .inl ⟨v, List.mem_cons_self .., votes⟩
      · exact .inr old

theorem mem_ofVoters {voters : List (List AccountId × Amount)} {id : AccountId}
    (listed : id ∈ (ofVoters voters).weights) : ∃ v ∈ voters, id ∈ v.1 := by
  rcases mem_foldl_addVotes listed with voted | nobody
  · exact voted
  · simp [empty] at nobody

theorem mem_ranked {t : WeightTable} {d : Delegate} (listed : d ∈ t.ranked) : d.account ∈ t.weights := by
  rw [ranked, List.mem_mergeSort, List.mem_map] at listed
  obtain ⟨⟨id, weight⟩, entry, rfl⟩ := listed
  rw [Std.ExtTreeMap.mem_toList_iff_getElem?_eq_some] at entry
  exact Std.ExtTreeMap.mem_iff_isSome_getElem?.mpr (by rw [entry]; rfl)

end WeightTable

namespace Ledger

theorem ranking_delegates {l : Ledger} {d : Delegate} (listed : d ∈ l.ranking) : l.isDelegate d.account = true := by
  obtain ⟨v, voting, votes⟩ := WeightTable.mem_ofVoters (WeightTable.mem_ranked listed)
  obtain ⟨⟨id, a⟩, _, casts⟩ := List.mem_filterMap.mp voting
  obtain ⟨tip, _, rfl⟩ := Option.map_eq_some_iff.mp casts
  exact (List.mem_filter.mp votes).2

theorem isDelegate_affect {l : Ledger} {id : AccountId} {a : Account} (known : l.account? id = some a)
    (payload : Payload) (j : AccountId) : (l.affect id payload).isDelegate j =
      if payload.kind = .delegate ∧ id = j then true else l.isDelegate j := by
  cases payload with
  | delegate share =>
    by_cases same : id = j
    · subst same
      simp [affect, isDelegate, account?_modify, known, Payload.kind]
    · simp [affect, isDelegate, account?_modify, same]
  | change changes => simp [affect, isDelegate_modify, Account.applyVotes, Payload.kind]
  | _ => simp [affect, Payload.kind]

end Ledger

theorem Delegation.mem_update {d : Delegation} {l : Ledger} {p : Params} {x : Delegate}
    (seated : x ∈ (d.update l p).round.forgers) : x ∈ d.round.forgers ∨ l.isDelegate x.account = true := by
  unfold update at seated
  split at seated
  · have eligible : x ∈ d.eligible l := List.mem_of_mem_take seated
    exact .inr (Ledger.ranking_delegates (List.mem_filter.mp eligible).1)
  · exact .inl seated

namespace Node

variable {n n' : Node}

theorem Lands.isDelegate {origin : Origin} {r : Request} {f : Forged} {previous : BlockHash} {block : Block}
    (lands : Lands origin r n f previous block n') (j : AccountId) : n'.ledger.isDelegate j =
      if r.blueprint.kind = .delegate ∧ r.account = j then true else n.ledger.isDelegate j := by
  obtain ⟨a, known, _⟩ := lands.owned
  have placed : (n.ledger.place r.account block).account? r.account = some a := known
  rw [lands.ledger, Ledger.isDelegate_affect placed]
  rfl

theorem Lands.round {origin : Origin} {r : Request} {f : Forged} {previous : BlockHash} {block : Block}
    (lands : Lands origin r n f previous block n') : n'.delegation.round =
      { n.refreshRound.delegation.round with index := n.refreshRound.delegation.round.index + 1 } := by
  rw [lands.after]
  cases r.blueprint.payload <;> rfl

def Seated (n : Node) : Prop := ∀ x ∈ n.delegation.round.forgers, n.ledger.isDelegate x.account = true

theorem Seated.refreshed (seated : n.Seated) : n.refreshRound.Seated := by
  intro x listed
  rcases Delegation.mem_update listed with old | elected
  · exact seated x old
  · exact elected

theorem seated_endures : Endures Seated where
  alike seated _ delegation alike := by
    rw [Seated, delegation]
    intro x listed
    rw [alike.delegates]
    exact seated x listed
  elects := Seated.refreshed
  passes _ seated := seated.refreshed
  applies lands seated := by
    rw [Seated, lands.round]
    intro x listed
    rw [lands.isDelegate]
    split
    · rfl
    · exact seated x listed

theorem Reached.seated {genesis : AccountId} (reached : Reached genesis n) : n.Seated := by
  refine seated_endures.contains.reached (fun born => ?_) reached
  rw [Seated, (openGenesis_ok born).2.2]
  intro x listed
  cases listed

theorem Seated.current {forger : AccountId} (seated : n.Seated) (turn : n.delegation.currentForger = .ok forger) :
    n.ledger.isDelegate forger = true := by
  obtain ⟨x, chosen, rfl⟩ := Delegation.currentForger_ok turn
  apply seated
  unfold Round.forger at chosen
  split at chosen
  · cases chosen
  · split at chosen
    · rename_i found
      cases chosen
      exact List.mem_of_getElem? found
    · cases chosen

end Node
end BlockLattice
