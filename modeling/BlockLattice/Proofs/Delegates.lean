import BlockLattice.Proofs.Acceptance
import BlockLattice.Proofs.Turns

namespace BlockLattice

theorem WeightTable.nodup_ranked (t : WeightTable) : (t.ranked.map Delegate.account).Nodup := by
  have ranked := (List.mergeSort_perm (t.weights.toList.map fun entry => (⟨entry.1, entry.2⟩ : Delegate))
    Delegate.ranksBefore).map Delegate.account
  rw [List.map_map] at ranked
  apply ranked.nodup_iff.mpr
  have keys : t.weights.toList.map Prod.fst = t.weights.keys := Std.ExtTreeMap.map_fst_toList_eq_keys
  exact keys ▸ Std.ExtTreeMap.nodup_keys

namespace Delegation

theorem isRegistered_register (d : Delegation) (id j : AccountId) :
    (d.register id).isRegistered j = if id = j then true else d.isRegistered j := by
  by_cases same : id = j <;> simp [register, isRegistered, same]

theorem isRegistered_update (d : Delegation) (l : Ledger) (p : Params) (id : AccountId) :
    (d.update l p).isRegistered id = d.isRegistered id := by
  unfold update
  split <;> rfl

theorem nodup_elected (d : Delegation) (l : Ledger) (seats : Nat) :
    (((d.eligible l).take seats).map Delegate.account).Nodup := by
  have chosen : ((d.eligible l).take seats).Sublist l.ranking := (List.take_sublist ..).trans List.filter_sublist
  exact (chosen.map _).nodup (WeightTable.nodup_ranked _)

end Delegation

namespace Ledger

-- Votes are for delegates alone, and for no more of them than is allowed or, as
-- those of the first account, for one.
structure Ballot (l : Ledger) (p : Params) (votes : VoteSet) : Prop where
  delegates : ∀ d ∈ votes, l.isDelegate d = true
  limit : votes.size ≤ Nat.max 1 p.maxDelegatesPerAccount.toNat

theorem Ballot.of_delegates {l l' : Ledger} {p : Params} {votes : VoteSet} (ballot : l.Ballot p votes)
    (stays : ∀ d, l.isDelegate d = true → l'.isDelegate d = true) : l'.Ballot p votes :=
  ⟨fun d listed => stays d (ballot.delegates d listed), ballot.limit⟩

theorem Ballot.changed {l : Ledger} {p : Params} {id : AccountId} {changes : List VoteChange}
    (ballot : l.Ballot p (l.votesOf id)) (checked : l.checkVotes p id changes = .ok ()) :
    l.Ballot p (VoteSet.apply (l.votesOf id) changes) := by
  obtain ⟨_, delegates, within⟩ := checkVotes_iff.mp checked
  refine ⟨fun d voted => ?_, Nat.le_trans within (Nat.le_max_right ..)⟩
  rcases VoteSet.mem_apply.mp voted with ⟨before, after, split, _⟩ | ⟨old, _⟩
  · exact delegates d (by simp [split])
  · exact ballot.delegates d old

theorem Founds.account?_eq {p : Params} {keys : KeyPair} {username : String} {clock : Clock} {id : AccountId}
    {l₁ l' : Ledger} {b₀ b₁ b₂ : Block} (founds : Founds p keys username clock id .empty l₁ l' b₀ b₁ b₂) :
    ∃ a, (∀ j, l'.account? j = if id = j then some a else none) ∧ a.isDelegate = true ∧ a.votes.toList = [id] := by
  obtain ⟨a, accounts, _, flag, votes⟩ := founds.accounts
  refine ⟨a, fun j => ?_, flag, votes⟩
  simp [account?, accounts, Std.ExtTreeMap.getElem?_insert]

end Ledger

namespace Node

variable {n n' : Node} {genesis : AccountId}

section Lands

variable {origin : Origin} {r : Request} {f : Forged} {previous : BlockHash} {block : Block}

theorem Lands.enrols (lands : Lands origin r n f previous block n') (j : AccountId) :
    n'.delegation.isRegistered j =
      if r.blueprint.kind = .delegate ∧ r.account = j then true else n.turned.delegation.isRegistered j := by
  have enrolled := n.turned.delegation.isRegistered_register r.account j
  rw [lands.after, Blueprint.kind]
  cases r.blueprint.payload with
  | delegate share =>
    simp only [Payload.kind, true_and]
    exact enrolled
  | _ => simp [applyPayload, withLedger, Payload.kind]

theorem Lands.checksVotes (lands : Lands origin r n f previous block n') {changes : List VoteChange}
    (votes : r.blueprint.payload = .change changes) : n.ledger.checkVotes n.params r.account changes = .ok () := by
  cases origin with
  | client =>
    have allowed := lands.admits.allowed
    simpa only [Ledger.checkPayload, votes] using allowed
  | reward =>
    have reward := lands.raises.1
    rw [votes] at reward
    cases reward

theorem Lands.ballot (lands : Lands origin r n f previous block n') {id : AccountId}
    (ballot : n.ledger.Ballot n.params (n.ledger.votesOf id)) : n.ledger.Ballot n.params (n'.ledger.votesOf id) := by
  rw [lands.votes]
  split
  · rename_i mine
    subst mine
    cases payload : r.blueprint.payload with
    | change changes => exact ballot.changed (lands.checksVotes payload)
    | _ => exact ballot
  · exact ballot

end Lands

def Enrolled (n : Node) : Prop := ∀ id, n.delegation.isRegistered id = n.ledger.isDelegate id

theorem enrolled_endures : Endures Enrolled where
  alike enrolled _ delegation alike id := by
    rw [delegation, alike.delegates]
    exact enrolled id
  elects enrolled id := (Delegation.isRegistered_update ..).trans (enrolled id)
  passes _ enrolled id := (Delegation.isRegistered_update ..).trans (enrolled id)
  applies lands enrolled id := by
    rw [lands.enrols, lands.isDelegate]
    split
    · rfl
    · exact enrolled id

def Voted (n : Node) : Prop := ∀ id, n.ledger.Ballot n.params (n.ledger.votesOf id)

theorem voted_endures : Endures Voted where
  alike voted params _ alike id := by
    rw [params, alike.votes]
    apply (voted id).of_delegates
    intro d delegate
    rw [alike.delegates]
    exact delegate
  elects voted := voted
  passes _ voted := voted
  applies lands voted id := by
    rw [lands.params]
    apply (lands.ballot ⟨(voted id).delegates, (voted id).limit⟩).of_delegates
    intro d delegate
    rw [lands.isDelegate, delegate, ite_self]

def Drawn (n : Node) : Prop := (n.delegation.round.forgers.map Delegate.account).Nodup ∧
  n.delegation.round.forgers.length ≤ n.params.maxForgers.toNat

theorem Drawn.refreshed (drawn : n.Drawn) : n.refreshRound.Drawn := by
  simp only [Drawn, refreshRound, Delegation.update]
  split
  · exact ⟨Delegation.nodup_elected .., List.length_take_le ..⟩
  · exact drawn

theorem drawn_endures : Endures Drawn where
  alike drawn params delegation _ := by
    rw [Drawn, params, delegation]
    exact drawn
  elects := Drawn.refreshed
  passes _ drawn := drawn.refreshed
  applies lands drawn := by
    rw [Drawn, lands.params, lands.round]
    exact drawn

theorem kept_endures (id : AccountId) : Endures fun n => n.delegation.isRegistered id = true where
  alike kept _ delegation _ := by
    rw [delegation]
    exact kept
  elects kept := (Delegation.isRegistered_update ..).trans kept
  passes _ kept := (Delegation.isRegistered_update ..).trans kept
  applies lands kept := by
    rw [lands.enrols]
    split
    · rfl
    · exact kept

def AllOpened (n : Node) : Prop := ∀ id, n.ledger.isRegistered id = true → n.ledger.isOpened id = true

theorem Lands.isOpened {origin : Origin} {r : Request} {f : Forged} {previous : BlockHash} {block : Block}
    (lands : Lands origin r n f previous block n') (id : AccountId) :
    n'.ledger.isOpened id = if r.account = id then true else n.ledger.isOpened id := by
  rw [lands.ledger, Ledger.isOpened_affect, Ledger.isOpened_place]

theorem opened_lasts (id : AccountId) : Lasts fun l => l.isOpened id = true where
  lands lands _ opened := by rw [lands.isOpened, opened, ite_self]
  counts j _ _ opened := by rw [Ledger.isOpened_modify, opened]
  registers registers _ opened := by
    rw [registers.written]
    exact opened

theorem Spares.isRegistered {e : NodeError} (spares : Spares n e n') (id : AccountId) :
    n'.ledger.isRegistered id = n.ledger.isRegistered id :=
  spares.view (·.isRegistered id) fun l forger change => l.isRegistered_modify forger change id

theorem registered_serves (id : AccountId) :
    Serves fun n n' => n'.ledger.isRegistered id = n.ledger.isRegistered id where
  path := ⟨fun _ => rfl, fun first second => second.trans first⟩
  forge _ _ := by
    refine forge_within (fun lands => ?_) fun stops => stops.spares.isRegistered id
    rw [lands.ledger, Ledger.isRegistered_affect]
    rfl
  takeBack _ _ := takeBack_within (fun _ => rfl) fun undone => by
    obtain ⟨c, shorter, undoes⟩ := Ledger.rollback_ok undone
    rw [ledger_withLedger, undoes.written]
    rfl
  record n f := n.ledger.isRegistered_modify f.forger _ id
  count n metrics := rfl

theorem process_opened {r : Request} {o : Outcome} (reachable : n.ledger.Reachable)
    (done : n.perform (process r) = (.ok o, n')) : n'.ledger.isOpened r.account = true := by
  obtain ⟨f, landed, settled, served⟩ := process_ok done
  obtain ⟨previous, block, lands⟩ := forgeAndAppend_ok served.forged
  have opened : landed.ledger.isOpened r.account = true := by rw [lands.isOpened, if_pos rfl]
  exact ((opened_lasts r.account).served served).2 (reachable.leads lands.evolves.2) opened

theorem openAccountWithKeys_allOpened (keys : KeyPair) (username : String) :
    Within (Enduring AllOpened) (openAccountWithKeys keys username) := by
  have evolves := evolves_moves.openAccountWithKeys keys username
  refine .of_results (fun {n e n'} refused => ?_) fun {n new n'} done => ?_
  · refine ⟨evolves.after refused, fun reachable allOpened id known => ?_⟩
    rw [(openAccountWithKeys_spares reachable refused).isRegistered] at known
    exact (((opened_lasts id).openAccountWithKeys keys username).after refused).2 reachable (allOpened id known)
  · refine ⟨evolves.after done, fun reachable allOpened id known => ?_⟩
    obtain ⟨l, o, registration, served⟩ := openAccountWithKeys_ok done
    obtain ⟨rfl, registers⟩ := Ledger.register_ok registration
    have registered := ((registered_serves id).process _).after served
    by_cases mine : (Account.new keys).id = id
    · rw [← mine]
      exact process_opened (reachable.leads (Ledger.leads_register registration)) served
    · have old : l.isRegistered id = n.ledger.isRegistered id := by
        rw [Ledger.isRegistered_eq, Ledger.isRegistered_eq, registers.account?_eq, if_neg mine]
      have stays := (((opened_lasts id).openAccountWithKeys keys username).after done).2 reachable
      exact stays (allOpened id (by rw [← old, ← known, registered]; rfl))

theorem allOpened_contains : Contains (Enduring AllOpened) where
  path := enduring_path AllOpened
  process r n := by
    refine ⟨evolves_moves.process r n, fun reachable allOpened id known => ?_⟩
    rw [(registered_serves id).process r n] at known
    exact ((opened_lasts id).process r n).2 reachable (allOpened id known)
  openAccountWithKeys := openAccountWithKeys_allOpened
  payout forger reward n := by
    refine ⟨evolves_moves.payout forger reward n, fun reachable allOpened id known => ?_⟩
    rw [(registered_serves id).payout forger reward n] at known
    exact ((opened_lasts id).disburses.payout forger reward n).2 reachable (allOpened id known)
  refresh n := ⟨evolves_moves.refresh n, fun _ allOpened => allOpened⟩
  draw n rest := ⟨evolves_moves.draw n rest, fun _ allOpened => allOpened⟩
  tick n time := ⟨evolves_moves.tick n time, fun _ allOpened => allOpened⟩

section Founded

variable {p : Params} {clock : Clock} {source : KeySource} {keys : KeyPair} {username : String}

theorem account?_born (born : (Node.new p clock source).perform (openGenesis keys username) = (.ok genesis, n)) :
    ∃ a, (∀ id, n.ledger.account? id = if genesis = id then some a else none) ∧ a.isDelegate = true ∧
      a.votes.toList = [genesis] := by
  obtain ⟨l₁, b₀, b₁, b₂, founds⟩ := Ledger.openGenesis_ok (openGenesis_ok born).2.1
  exact founds.account?_eq

theorem enrolled_born (born : (Node.new p clock source).perform (openGenesis keys username) = (.ok genesis, n)) :
    n.Enrolled := by
  obtain ⟨a, known, flag, _⟩ := account?_born born
  intro id
  rw [(openGenesis_ok born).2.2, Delegation.isRegistered_register, Ledger.isDelegate, known]
  split
  · exact flag.symm
  · rfl

theorem voted_born (born : (Node.new p clock source).perform (openGenesis keys username) = (.ok genesis, n)) :
    n.Voted := by
  obtain ⟨a, known, flag, votes⟩ := account?_born born
  intro id
  have cast := known id
  by_cases mine : genesis = id
  · rw [if_pos mine] at cast
    rw [Ledger.votesOf_of_account cast]
    constructor
    · intro d listed
      rw [← Std.ExtTreeSet.mem_toList, votes, List.mem_singleton] at listed
      rw [listed, mine, Ledger.isDelegate_of_account cast, flag]
    · rw [← Std.ExtTreeSet.length_toList, votes]
      exact Nat.le_max_left ..
  · rw [if_neg mine] at cast
    have nothing : n.ledger.votesOf id = ∅ := by rw [Ledger.votesOf, cast]
    rw [nothing]
    exact ⟨by simp, by simp⟩

theorem drawn_born (born : (Node.new p clock source).perform (openGenesis keys username) = (.ok genesis, n)) :
    n.Drawn := by
  rw [Drawn, (openGenesis_ok born).2.2]
  exact ⟨List.nodup_nil, Nat.zero_le _⟩

theorem allOpened_born (born : (Node.new p clock source).perform (openGenesis keys username) = (.ok genesis, n)) :
    n.AllOpened := by
  obtain ⟨l₁, b₀, b₁, b₂, founds⟩ := Ledger.openGenesis_ok (openGenesis_ok born).2.1
  obtain ⟨a, known, _⟩ := founds.account?_eq
  intro id registered
  obtain ⟨b, found⟩ := Ledger.isRegistered_iff.mp registered
  rw [known] at found
  split at found
  · rename_i mine
    rw [founds.after, Ledger.isOpened_modify, Ledger.isOpened_place, if_pos mine]
  · cases found

end Founded

-- The delegates of the ledger are those that have registered, and none of them is
-- ever lost. Everyone votes for delegates, and for no more than are allowed. There
-- is no account that is not opened. The forgers of the round are different delegates,
-- no more of them than there are seats, and the turn is within the round.
theorem delegates_agree (reached : Reached genesis n) (room : 1 ≤ n.params.maxDelegatesPerAccount.toNat) :
    (∀ id, n.delegation.isRegistered id = true ↔ ∃ a, n.ledger.account? id = some a ∧ a.isDelegate = true) ∧
    (∀ op id, n.delegation.isRegistered id = true → (n.operate op).delegation.isRegistered id = true) ∧
    (∀ id a, n.ledger.account? id = some a → n.ledger.isOpened id = true ∧
      a.votes.size ≤ n.params.maxDelegatesPerAccount.toNat ∧
      ∀ d ∈ a.votes, ∃ delegate, n.ledger.account? d = some delegate ∧ delegate.isDelegate = true) ∧
    (n.delegation.round.forgers.map Delegate.account).Nodup ∧
    (∀ x ∈ n.delegation.round.forgers, n.delegation.isRegistered x.account = true ∧
      n.ledger.isRegistered x.account = true) ∧
    n.delegation.round.forgers.length ≤ n.params.maxForgers.toNat ∧
    n.delegation.round.index ≤ n.delegation.round.forgers.length := by
  have enrolled := enrolled_endures.contains.reached enrolled_born reached
  have voted := voted_endures.contains.reached voted_born reached
  have drawn := drawn_endures.contains.reached drawn_born reached
  have allOpened := allOpened_contains.reached allOpened_born reached
  refine ⟨fun id => ?_, fun op id => ?_, fun id a known => ?_, drawn.1, fun x seat => ?_, drawn.2, reached.turning⟩
  · rw [enrolled, Ledger.isDelegate, Option.any_eq_true]
  · exact ((kept_endures id).contains.operate n op).2 reached.reachable
  · have ballot := voted id
    rw [Ledger.votesOf_of_account known] at ballot
    refine ⟨allOpened id (Ledger.isRegistered_iff.mpr ⟨a, known⟩), ?_, fun d listed => ?_⟩
    · exact Nat.le_trans ballot.limit (Nat.le_of_eq (Nat.max_eq_right room))
    · exact Ledger.account_of_isDelegate (ballot.delegates d listed)
  · have delegate := reached.seated x seat
    obtain ⟨a, known, _⟩ := Ledger.account_of_isDelegate delegate
    exact ⟨(enrolled x.account).trans delegate, Ledger.isRegistered_iff.mpr ⟨a, known⟩⟩

theorem traded_delegate : Reached loneId traded ∧ 1 ≤ traded.params.maxDelegatesPerAccount.toNat ∧
    traded.delegation.isRegistered loneId = true ∧
    (∃ a, traded.ledger.account? loneId = some a ∧ a.isDelegate = true) ∧
    (traded.delegation.round.forgers.map Delegate.account).Nodup := by
  obtain ⟨params, _, delegation⟩ := openGenesis_ok lone_born
  have room : 1 ≤ lone.params.maxDelegatesPerAccount.toNat := by
    rw [params]
    decide
  have enrolled : lone.delegation.isRegistered loneId = true := by
    rw [delegation, Delegation.isRegistered_register, if_pos rfl]
  have after : traded = lone.operate (.process selfSend) := by
    rw [traded, trade, operate_process]
  have still := (delegates_agree lone_reached room).2.1 (.process selfSend) loneId enrolled
  rw [← after] at still
  have roomy : 1 ≤ traded.params.maxDelegatesPerAccount.toNat := by
    rw [after, (evolves_moves.contains.operate lone (.process selfSend)).1]
    exact room
  have agree := delegates_agree traded_reached roomy
  exact ⟨traded_reached, roomy, still, (agree.1 loneId).mp still, agree.2.2.2.1⟩

end Node
end BlockLattice
