import BlockLattice.Proofs.CheckedRequests

namespace BlockLattice

namespace Ledger

def Idle (l : Ledger) (id : AccountId) : Prop :=
  ∀ a, l.account? id = some a → a.votes.toList.filter l.isDelegate = []

def cast (l : Ledger) (t : WeightTable) (entry : AccountId × Account) : WeightTable :=
  match l.voter? entry.1 entry.2 with
  | some v => t.addVotes v.1 v.2
  | none => t

theorem weightTable_eq (l : Ledger) : l.weightTable = l.accounts.toList.foldl l.cast .empty := by
  rw [weightTable, WeightTable.ofVoters, List.foldl_filterMap]
  apply List.foldl_ext
  intro t entry _
  obtain ⟨id, a⟩ := entry
  dsimp only [cast]
  cases l.voter? id a <;> rfl

theorem accounts_place (l : Ledger) (id : AccountId) (b : Block) : (l.place id b).accounts = l.accounts := rfl

theorem ranking_place {l : Ledger} {id : AccountId} (idle : l.Idle id) (b : Block) :
    (l.place id b).ranking = l.ranking := by
  rw [ranking, ranking, weightTable_eq, weightTable_eq]
  congr 1
  apply List.foldl_ext
  intro t entry listed
  obtain ⟨j, a⟩ := entry
  have delegates : (l.place id b).isDelegate = l.isDelegate := rfl
  rw [cast, cast, voter?, voter?, latest?_place, delegates]
  by_cases same : id = j
  · subst same
    have nobody := idle a (Std.ExtTreeMap.mem_toList_iff_getElem?_eq_some.mp listed)
    rw [if_pos rfl, nobody]
    cases l.latest? id <;> rfl
  · rw [if_neg same]

theorem ranking_sole {l : Ledger} {id : AccountId} {a : Account} {tip : Block}
    (accounts : l.accounts = (∅ : Std.ExtTreeMap AccountId Account).insert id a) (flag : a.isDelegate = true)
    (votes : a.votes.toList = [id]) (last : l.latest? id = some tip) : l.ranking = [⟨id, tip.balance⟩] := by
  have known : l.account? id = some a := by
    rw [account?, accounts, Std.ExtTreeMap.getElem?_insert_self]
  have listed : l.accounts.toList = [(id, a)] := by
    rw [accounts]
    rfl
  have voter : l.voter? id a = some ([id], tip.balance) := by
    simp [voter?, last, votes, isDelegate_of_account known, flag]
  have sum : Amount.zero.saturatingAdd tip.balance = tip.balance := by
    apply Amount.ext
    have bound := tip.balance.raw_lt
    rw [Amount.raw_saturatingAdd, Amount.raw_zero]
    omega
  have table : l.weightTable = ⟨(∅ : Std.ExtTreeMap AccountId Amount).insert id tip.balance⟩ := by
    rw [weightTable_eq, listed, ← sum]
    simp [cast, voter, WeightTable.addVotes, WeightTable.add, WeightTable.weight, WeightTable.empty, sum]
  have weights : ((∅ : Std.ExtTreeMap AccountId Amount).insert id tip.balance).toList = [(id, tip.balance)] := rfl
  rw [ranking, table, WeightTable.ranked, weights]
  simp

end Ledger

theorem Round.hasEnded_next {r : Round} (inTurn : r.InTurn) (going : r.hasEnded = false) :
    ({ r with index := r.index + 1 } : Round).hasEnded = true ↔ r.index + 1 = r.forgers.length := by
  have inside := inTurn.open going
  have some : r.forgers ≠ [] := List.ne_nil_of_length_pos (by omega)
  simp only [hasEnded, Bool.or_eq_true, List.isEmpty_iff, some, false_or, Bool.and_eq_true, bne_iff_ne, beq_iff_eq]
  constructor
  · rintro ⟨_, whole⟩
    have reached := Nat.le_of_dvd (by omega) (Nat.dvd_of_mod_eq_zero whole)
    omega
  · intro final
    exact ⟨by omega, by rw [final, Nat.mod_self]⟩

namespace Node

variable {n m n' : Node} {origin : Origin} {r : Request} {f : Forged} {previous : BlockHash} {block : Block}

theorem Lands.going (lands : Lands origin r n f previous block n') :
    n.refreshRound.delegation.round.hasEnded = false := by
  obtain ⟨_, turn, _⟩ := Delegation.currentForger_ok lands.turn
  exact Round.going_of_forger turn

theorem Lands.ends (lands : Lands origin r n f previous block n') (turning : n.Turning) :
    n'.delegation.round.hasEnded = true ↔
      n.refreshRound.delegation.round.index + 1 = n.refreshRound.delegation.round.forgers.length := by
  rw [lands.round]
  exact Round.hasEnded_next turning.refreshed lands.going

def electedFrom (n : Node) (l : Ledger) : List Delegate := (n.delegation.eligible l).take n.params.maxForgers.toNat

theorem refreshRound_of_ended (ended : n.delegation.round.hasEnded = true) :
    n.refreshRound.delegation.round = ⟨n.electedFrom n.ledger, 0⟩ := by
  simp only [refreshRound, Delegation.update, ended, if_true]
  rfl

theorem Lands.elected (lands : Lands origin r n f previous block n') (ended : n.delegation.round.hasEnded = true) :
    n'.delegation.round.forgers = n.electedFrom n.ledger := by
  rw [lands.round, refreshRound_of_ended ended]

structure Halves (r : Request) (d : AccountId) (n m n' : Node) : Prop where
  sent : ∃ f previous block, n.perform (forgeAndAppend .client r) = (.ok f, m) ∧
    Lands .client r n f previous block m
  received : ∃ bp g previous block, bp.amount = r.blueprint.amount ∧ (∃ s, bp.payload = .receive (some s)) ∧
    Lands .client ⟨d, bp⟩ m g previous block n'

theorem process_halves {o : Outcome} {d : AccountId} (sends : r.blueprint.payload = .send d)
    (done : n.perform (process r) = (.ok o, n')) : ∃ f m g p, n.perform (forgeAndAppend .client r) = (.ok f, m) ∧
      m.perform (pairReceive f.hash r.account d r.blueprint.amount) = (.ok g, p) ∧ Halves r d n m p := by
  obtain ⟨f, m, settled, served⟩ := process_ok done
  obtain ⟨previous, block, lands⟩ := forgeAndAppend_ok served.forged
  rcases settlePayload_ok served.settles with ⟨destination, hash, toward, _, settling⟩ | ⟨other, _, _⟩
  · rw [sends] at toward
    cases toward
    obtain ⟨g, p, paired, _, _⟩ := settle_ok settling
    obtain ⟨bp, pairs, forged⟩ := pairReceive_ok paired
    obtain ⟨tip, receive, answers⟩ := forgeAndAppend_ok forged
    obtain ⟨source, _, receives⟩ := pairs.source
    exact ⟨f, m, g, p, served.forged, paired, ⟨f, previous, block, served.forged, lands⟩,
      bp, g, tip, receive, pairs.amount, ⟨_, receives⟩, answers⟩
  · exact absurd sends (other d)

namespace Halves

variable {d : AccountId}

theorem paid (halves : Halves r d n m n') (sends : r.blueprint.payload = .send d) (id : AccountId) :
    m.ledger.balance id + (if r.account = id then r.blueprint.amount.raw + n.params.transactionFee.raw else 0) =
      n.ledger.balance id := by
  obtain ⟨f, previous, block, _, lands⟩ := halves.sent
  have charged := lands.charged (by simp [sends]) id
  rw [sends] at charged
  exact charged

theorem brought (halves : Halves r d n m n') (id : AccountId) :
    n'.ledger.balance id = m.ledger.balance id + if d = id then r.blueprint.amount.raw else 0 := by
  obtain ⟨bp, g, previous, block, amount, ⟨s, receives⟩, answers⟩ := halves.received
  have earned := answers.settles.earns _ receives
  rw [answers.balance]
  by_cases same : d = id
  · subst same
    rw [if_pos rfl, if_pos rfl, earned, amount]
  · rw [if_neg same, if_neg same, Nat.add_zero]

theorem ledger_sent (halves : Halves r d n m n') (sends : r.blueprint.payload = .send d) :
    ∃ b, m.ledger = n.ledger.place r.account b := by
  obtain ⟨f, previous, block, _, lands⟩ := halves.sent
  exact ⟨block, lands.placed_send sends⟩

theorem ledger_received (halves : Halves r d n m n') : ∃ b, n'.ledger = m.ledger.place d b := by
  obtain ⟨bp, g, previous, block, _, ⟨s, receives⟩, answers⟩ := halves.received
  refine ⟨block, ?_⟩
  rw [answers.ledger, receives]
  rfl

theorem elected_before (halves : Halves r d n m n') (sends : r.blueprint.payload = .send d)
    (idle : n.ledger.Idle r.account) : m.electedFrom m.ledger = m.electedFrom n.ledger := by
  obtain ⟨b, placed⟩ := halves.ledger_sent sends
  rw [electedFrom, electedFrom, Delegation.eligible, Delegation.eligible, placed, Ledger.ranking_place idle]

theorem elected_after (halves : Halves r d n m n') (idle : m.ledger.Idle d) :
    m.electedFrom m.ledger = m.electedFrom n'.ledger := by
  obtain ⟨b, placed⟩ := halves.ledger_received
  rw [electedFrom, electedFrom, Delegation.eligible, Delegation.eligible, placed, Ledger.ranking_place idle]

theorem elected (halves : Halves r d n m n') (ended : m.delegation.round.hasEnded = true) :
    n'.delegation.round.forgers = m.electedFrom m.ledger := by
  obtain ⟨_, _, _, _, _, _, answers⟩ := halves.received
  exact answers.elected ended

theorem ends (halves : Halves r d n m n') (turning : n.Turning) : m.delegation.round.hasEnded = true ↔
    n.refreshRound.delegation.round.index + 1 = n.refreshRound.delegation.round.forgers.length := by
  obtain ⟨_, _, _, _, lands⟩ := halves.sent
  exact lands.ends turning

end Halves

-- The receive of a send starts a round if and only if the send takes the last turn
-- of its own. The forgers of that round are elected between the two blocks, with
-- the amount in neither balance. They are those that the ledger before the send
-- elects if the sender votes for no delegate, and those that the ledger after the
-- receive elects if the destination votes for none.
theorem paired_election {genesis d : AccountId} {o : Outcome} (asked : Asked genesis n r)
    (sends : r.blueprint.payload = .send d) (done : n.perform (process r) = (.ok o, n')) :
    ∃ f m g p, n.perform (forgeAndAppend .client r) = (.ok f, m) ∧
      m.perform (pairReceive f.hash r.account d r.blueprint.amount) = (.ok g, p) ∧
      (m.delegation.round.hasEnded = true ↔
        n.refreshRound.delegation.round.index + 1 = n.refreshRound.delegation.round.forgers.length) ∧
      (∀ id, m.ledger.balance id + (if r.account = id then r.blueprint.amount.raw + n.params.transactionFee.raw else 0) =
        n.ledger.balance id) ∧
      (∀ id, p.ledger.balance id = m.ledger.balance id + if d = id then r.blueprint.amount.raw else 0) ∧
      (m.delegation.round.hasEnded = true → p.delegation.round.forgers = m.electedFrom m.ledger ∧
        (n.ledger.Idle r.account → p.delegation.round.forgers = m.electedFrom n.ledger) ∧
        (m.ledger.Idle d → p.delegation.round.forgers = m.electedFrom p.ledger)) := by
  obtain ⟨f, m, g, p, forged, paired, halves⟩ := process_halves sends done
  refine ⟨f, m, g, p, forged, paired, halves.ends asked.inOrder.turning, halves.paid sends, halves.brought, ?_⟩
  intro ended
  have elected := halves.elected ended
  refine ⟨elected, fun idle => ?_, fun idle => ?_⟩
  · rw [elected, halves.elected_before sends idle]
  · rw [elected, halves.elected_after idle]

theorem selfSend_paired : ∃ o, Asked loneId lone selfSend ∧ selfSend.blueprint.payload = .send loneId ∧
    lone.perform (process selfSend) = (.ok o, traded) ∧
    ∃ m p : Node, (∀ id, p.ledger.balance id = m.ledger.balance id + if loneId = id then 500 else 0) ∧
      (m.delegation.round.hasEnded = true → p.delegation.round.forgers = m.electedFrom m.ledger) := by
  obtain ⟨o, done, _⟩ := trade_served
  have asked := Asked.client selfSend lone_reached
  obtain ⟨_, m, _, p, _, _, _, _, brought, elected⟩ := paired_election asked rfl done
  exact ⟨o, asked, rfl, done, m, p, brought, fun ended => (elected ended).1⟩

theorem Lands.registered {d : AccountId} (lands : Lands .client r n f previous block m)
    (sends : r.blueprint.payload = .send d) : m.delegation.registered = n.delegation.registered := by
  rw [lands.after, sends]
  change n.refreshRound.delegation.registered = _
  simp only [refreshRound, Delegation.update]
  split <;> rfl

theorem selfSend_account : selfSend.account = loneId := by
  rw [selfSend]

theorem selfSend_sends : selfSend.blueprint.payload = .send loneId := by
  rw [selfSend]

theorem lone_delegation : lone.delegation = Delegation.empty.register loneId := (openGenesis_ok lone_born).2.2

theorem lone_elects {l : Ledger} {tip : Block} (params : n.params = lone.params)
    (registered : n.delegation.registered = lone.delegation.registered) (accounts : l.accounts = lone.ledger.accounts)
    (last : l.latest? loneId = some tip) : n.electedFrom l = [⟨loneId, tip.balance⟩] := by
  obtain ⟨l₁, b₀, b₁, b₂, founds⟩ := lone_founded
  obtain ⟨a, sole, _, flag, votes⟩ := founds.accounts
  rw [← accounts] at sole
  have listed : n.delegation.isRegistered loneId = true := by
    rw [Delegation.isRegistered, registered, lone_delegation]
    simp [Delegation.register]
  have ranking := Ledger.ranking_sole sole flag votes last
  have limit : lone.params.maxForgers.toNat = 101 := by
    rw [(openGenesis_ok lone_born).1]
    rfl
  simp [electedFrom, Delegation.eligible, ranking, listed, params, limit]

-- Of the 500 that the first account sends to itself, none is counted when it is
-- elected to forge the receive. Before the send and after the receive they are.
theorem selfSend_halved : Reached loneId lone ∧ ∃ o f m g p, lone.perform (process selfSend) = (.ok o, traded) ∧
    lone.perform (forgeAndAppend .client selfSend) = (.ok f, m) ∧
    m.perform (pairReceive f.hash loneId loneId (.clamp 500)) = (.ok g, p) ∧
    m.delegation.round.hasEnded = true ∧
    m.electedFrom lone.ledger = [⟨loneId, .clamp 100000000000000⟩] ∧
    p.delegation.round.forgers = [⟨loneId, .clamp 99999999899500⟩] ∧
    m.electedFrom p.ledger = [⟨loneId, .clamp 99999999900000⟩] := by
  obtain ⟨o, done, _⟩ := trade_served
  obtain ⟨f, m, g, p, forged, paired, halves⟩ := process_halves selfSend_sends done
  obtain ⟨previous, send, lands⟩ := forgeAndAppend_ok forged
  obtain ⟨receive, after⟩ := halves.ledger_received
  obtain ⟨tip, last, _, spent⟩ := lands.taken selfSend_sends
  have before := lands.placed_send selfSend_sends
  have brought := halves.brought loneId
  have fee : lone.params.transactionFee.raw = 100000 := by
    rw [(openGenesis_ok lone_born).1]
    rfl
  have low : send.balance = .clamp 99999999899500 := lands.balance_eq
  rw [selfSend_account] at last before
  have sent : m.ledger.latest? loneId = some send := by rw [before, Ledger.latest?_place, if_pos rfl]
  have received : p.ledger.latest? loneId = some receive := by rw [after, Ledger.latest?_place, if_pos rfl]
  have high : tip.balance = .clamp 100000000000000 := by
    rw [fee, low] at spent
    apply Amount.ext
    rw [spent]
    decide
  have back : receive.balance = .clamp 99999999900000 := by
    rw [Ledger.balance_of_latest sent, Ledger.balance_of_latest received, if_pos rfl, low] at brought
    apply Amount.ext
    rw [brought]
    decide
  have fresh : lone.delegation.round.hasEnded = true := by
    rw [lone_delegation]
    rfl
  have ended : m.delegation.round.hasEnded = true := by
    rw [halves.ends lone_reached.turning, refreshRound_of_ended fresh, lone_elects rfl rfl rfl last]
    rfl
  have seats {l : Ledger} {b : Block} (accounts : l.accounts = lone.ledger.accounts)
      (last : l.latest? loneId = some b) : m.electedFrom l = [⟨loneId, b.balance⟩] :=
    lone_elects lands.params (lands.registered selfSend_sends) accounts last
  refine ⟨lone_reached, o, f, m, g, p, done, forged, paired, ended, ?_, ?_, ?_⟩
  · rw [seats rfl last, high]
  · rw [halves.elected ended, seats (by rw [before, Ledger.accounts_place]) sent, low]
  · rw [seats (by rw [after, before, Ledger.accounts_place, Ledger.accounts_place]) received, back]

end Node
end BlockLattice
