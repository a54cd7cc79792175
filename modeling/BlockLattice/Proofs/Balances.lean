import Mathlib.Algebra.BigOperators.Group.Finset.Piecewise
import Mathlib.Data.Fintype.EquivFin
import BlockLattice.Proofs.DoubleEntry
import BlockLattice.Proofs.Shares

namespace BlockLattice

namespace Payout

def toward (id : AccountId) (credits : List Credit) : Nat :=
  (credits.map fun c => if c.account = id then c.amount.raw else 0).sum

def credited (credits : List Credit) : Nat := (credits.map fun c => c.amount.raw).sum

def warned (warnings : List Warning) : Nat := (warnings.map fun w => w.amount.raw).sum

theorem toward_append (id : AccountId) (xs ys : List Credit) : toward id (xs ++ ys) = toward id xs + toward id ys := by
  simp [toward]

theorem credited_append (xs ys : List Credit) : credited (xs ++ ys) = credited xs + credited ys := by
  simp [credited]

theorem warned_append (xs ys : List Warning) : warned (xs ++ ys) = warned xs + warned ys := by
  simp [warned]

end Payout

-- There are finitely many names, so that a sum can go over all of them.
noncomputable instance : Fintype AccountId :=
  .ofInjective (fun id : AccountId => id.bits.toFin) fun a b same => by
    cases a; cases b
    exact congrArg AccountId.mk (BitVec.toFin_inj.mp same)

theorem sum_keys (t : Std.ExtTreeMap AccountId β) {f : AccountId → Nat} (others : ∀ id, t[id]? = none → f id = 0) :
    (t.keys.map f).sum = ∑ id : AccountId, f id := by
  have once : t.keys.Nodup := Std.ExtTreeMap.nodup_keys
  rw [← List.sum_toFinset f once]
  apply Finset.sum_subset (Finset.subset_univ _)
  intro id _ missing
  exact others id (Std.ExtTreeMap.getElem?_eq_none (by simpa using missing))

theorem Payout.sum_toward (credits : List Credit) : ∑ id : AccountId, toward id credits = credited credits := by
  induction credits with
  | nil => simp [toward, credited]
  | cons c rest ih =>
    have split : ∀ id, toward id (c :: rest) = (if c.account = id then c.amount.raw else 0) + toward id rest :=
      fun _ => rfl
    simp only [split, Finset.sum_add_distrib, ih, Finset.sum_ite_eq, Finset.mem_univ, if_true]
    rfl

namespace Ledger

def held (l : Ledger) : Nat := (l.chains.keys.map l.balance).sum

theorem held_eq_sum (l : Ledger) : l.held = ∑ id : AccountId, l.balance id := by
  apply sum_keys
  intro id missing
  have unopened : l.chain? id = none := missing
  rw [balance, latest?, unopened]
  rfl

end Ledger

namespace Node

open Payout

-- What a payout of `owed` raw units makes of a node.
structure Pays (n n' : Node) (owed : Nat) (credits : List Credit) (warnings : List Warning) : Prop where
  raised : ∀ id, n'.ledger.balance id = n.ledger.balance id + toward id credits
  whole : credited credits + warned warnings = owed

namespace Pays

variable {n m n' : Node} {owed more : Nat} {credits others : List Credit} {warnings further : List Warning}

theorem nothing (n : Node) : Pays n n 0 [] [] := ⟨fun _ => rfl, rfl⟩

theorem trans (first : Pays n m owed credits warnings) (second : Pays m n' more others further) :
    Pays n n' (owed + more) (credits ++ others) (warnings ++ further) := by
  refine ⟨fun id => ?_, ?_⟩
  · rw [second.raised, first.raised, toward_append, Nat.add_assoc]
  · rw [credited_append, warned_append, ← first.whole, ← second.whole]
    omega

theorem of_warning (w : Warning) (same : ∀ id, n'.ledger.balance id = n.ledger.balance id) :
    Pays n n' w.amount.raw [] [w] :=
  ⟨same, by simp [credited, warned]⟩

end Pays

variable {n n' : Node}

theorem Lands.balance {origin : Origin} {r : Request} {f : Forged} {previous : BlockHash} {block : Block}
    (lands : Lands origin r n f previous block n') (id : AccountId) :
    n'.ledger.balance id = if r.account = id then r.blueprint.balance.raw else n.ledger.balance id := by
  rw [lands.ledger, Ledger.balance_affect, Ledger.balance_place, lands.balance_eq]

theorem Spares.balance {e : NodeError} (spares : Spares n e n') (id : AccountId) :
    n'.ledger.balance id = n.ledger.balance id :=
  spares.view (·.balance id) fun l forger change => l.balance_modify forger change id

theorem balance_recordForged (n : Node) (f : Forged) (id : AccountId) :
    (n.recordForged f).ledger.balance id = n.ledger.balance id := n.ledger.balance_modify f.forger _ id

theorem pays_deals : Deals fun n n' dues => Pays n n' (due dues) where
  nothing := .nothing
  credit {n landed d bp f previous block} amount lands := by
    refine ⟨fun id => ?_, by simp [credited, warned, due]⟩
    have kept : (landed.recordCredit f).ledger.balance id = landed.ledger.balance id := balance_recordForged landed f id
    have raised : bp.balance.raw = n.ledger.balance d.account + bp.amount.raw := lands.raises.2.2
    rw [kept, lands.balance]
    by_cases same : d.account = id
    · subst same
      simp [toward, raised, amount]
    · simp [toward, same]
  warning refused := .of_warning ⟨_, _, _⟩ (creditReward_error refused).balance
  join first second := by
    rw [due_append]
    exact first.trans second

theorem payout_pays (measured : n.ledger.Measured) (forger : AccountId) (reward : Amount) :
    Pays n (n.carryOut (payout forger reward)).2 reward.raw (n.carryOut (payout forger reward)).1.credits
      (n.carryOut (payout forger reward)).1.warnings := by
  rcases payout_cases n forger reward with ⟨a, dues, known, planned, _⟩ | ⟨reason, ran⟩
  · rw [← due_plan (measured forger a known) planned]
    exact pays_deals.payout known planned
  · rw [ran]
    exact .of_warning ⟨forger, reward, reason⟩ fun _ => rfl

theorem payForger_pays (measured : n.ledger.Measured) (f : Forged) :
    Pays n (n.carryOut (payForger f)).2 f.reward.raw (n.carryOut (payForger f)).1.credits
      (n.carryOut (payForger f)).1.warnings := by
  unfold payForger
  split
  · rename_i zero
    rw [Amount.isZero_iff_raw.mp zero]
    exact .nothing n
  · exact payout_pays measured _ _

section Request

variable {r : Request} {f : Forged} {previous : BlockHash} {block : Block}

theorem Lands.charged (lands : Lands .client r n f previous block n')
    (other : ∀ source, r.blueprint.payload ≠ .receive source) (id : AccountId) :
    n'.ledger.balance id +
        (if r.account = id then r.blueprint.amount.raw + (r.blueprint.payload.cost n.params).raw else 0) =
      n.ledger.balance id := by
  have settles := lands.settles
  rw [lands.balance]
  by_cases same : r.account = id
  · subst same
    rw [if_pos rfl, if_pos rfl]
    by_cases opens : r.blueprint.payload = .opening
    · have bare := lands.bare_iff.mpr opens
      rw [settles.opens opens, settles.still (by rw [opens]; rfl), opens, Ledger.balance, bare]
      rfl
    · exact (settles.pays other opens).symm
  · rw [if_neg same, if_neg same]
    rfl

theorem settle_balance {send hash : BlockHash} {sender destination : AccountId} {amount : Amount}
    (done : n.perform (settle send sender destination amount) = (.ok hash, n')) (id : AccountId) :
    n'.ledger.balance id = n.ledger.balance id + if destination = id then amount.raw else 0 := by
  obtain ⟨g, m, paired, _, rfl⟩ := settle_ok done
  obtain ⟨bp, pairs, forged⟩ := pairReceive_ok paired
  obtain ⟨tip, receive, answers⟩ := forgeAndAppend_ok forged
  obtain ⟨source, _, receives⟩ := pairs.source
  have earned := answers.settles.earns _ receives
  rw [balance_recordForged, answers.balance]
  by_cases same : destination = id
  · subst same
    rw [if_pos rfl, if_pos rfl, earned, pairs.amount]
  · rw [if_neg same, if_neg same, Nat.add_zero]

theorem settlePayload_balance {paired : Option BlockHash} (done : n.perform (settlePayload f r) = (.ok paired, n'))
    (id : AccountId) :
    n'.ledger.balance id =
      n.ledger.balance id + if r.blueprint.payload = .send id then r.blueprint.amount.raw else 0 := by
  rcases settlePayload_ok done with ⟨destination, hash, sends, _, settling⟩ | ⟨other, _, rfl⟩
  · rw [settle_balance settling, sends]
    simp
  · simp [other]

theorem raw_rewardFor (p : Params) {payload : Payload} (other : ∀ source, payload ≠ .receive source) :
    (rewardFor p payload).raw = min (Amount.size - 1) (p.forgeReward.raw + (payload.cost p).raw) := by
  have bound := p.forgeReward.raw_lt
  cases payload with
  | receive source => exact absurd rfl (other source)
  | opening =>
    simp only [rewardFor, Payload.cost, Amount.raw_zero]
    omega
  | _ => simp only [rewardFor, Payload.cost, Amount.raw_saturatingAdd, Nat.min_comm]

theorem process_balances {o : Outcome} (measured : n.ledger.Measured)
    (other : ∀ source, r.blueprint.payload ≠ .receive source) (done : n.perform (process r) = (.ok o, n')) :
    (∀ id, n'.ledger.balance id +
        (if r.account = id then r.blueprint.amount.raw + (r.blueprint.payload.cost n.params).raw else 0) =
      n.ledger.balance id + (if r.blueprint.payload = .send id then r.blueprint.amount.raw else 0) +
        toward id o.credits) ∧
    credited o.credits + warned o.warnings = o.reward.raw ∧
    o.reward.raw = min (Amount.size - 1) (n.params.forgeReward.raw + (r.blueprint.payload.cost n.params).raw) := by
  obtain ⟨f, landed, settled, served⟩ := process_ok done
  obtain ⟨previous, block, lands⟩ := forgeAndAppend_ok served.forged
  have later : settled.ledger.Measured := by
    have kept := measured_moves.settlePayload f r landed (lands.measured measured)
    rw [served.settles] at kept
    exact kept
  have pays := payForger_pays (measured_moves.record settled f later) f
  have credits := congrArg Report.credits served.paid
  have warnings := congrArg Report.warnings served.paid
  rw [← credits, ← warnings] at pays
  have reward := served.named.2.2.2
  refine ⟨fun id => ?_, ?_, ?_⟩
  · have charged := lands.charged other id
    have settles := settlePayload_balance served.settles id
    have raised := pays.raised id
    rw [balance_recordForged] at raised
    rw [served.after, ledger_booked, raised]
    dsimp only
    omega
  · rw [reward]
    exact pays.whole
  · rw [reward, lands.reward, raw_rewardFor n.params other]

theorem process_held {o : Outcome} (measured : n.ledger.Measured)
    (other : ∀ source, r.blueprint.payload ≠ .receive source)
    (still : (∀ id, r.blueprint.payload ≠ .send id) → r.blueprint.amount.raw = 0)
    (done : n.perform (process r) = (.ok o, n')) :
    n'.ledger.held + (r.blueprint.payload.cost n.params).raw = n.ledger.held + credited o.credits := by
  have balances := (process_balances measured other done).1
  have summed := Finset.sum_congr (rfl : (Finset.univ : Finset AccountId) = Finset.univ) fun id _ => balances id
  simp only [Finset.sum_add_distrib, Finset.sum_ite_eq, Finset.mem_univ, if_true, ← Ledger.held_eq_sum,
    sum_toward] at summed
  have moved : (∑ id : AccountId, if r.blueprint.payload = .send id then r.blueprint.amount.raw else 0) =
      r.blueprint.amount.raw := by
    cases payload : r.blueprint.payload with
    | send destination => simp
    | _ =>
      rw [still (by simp [payload])]
      simp
  omega

end Request

-- A request that a network is asked to serve: one of a client, or the opening
-- block of an account that was just registered.
inductive Asked (genesis : AccountId) : Node → Request → Prop where
  | client {n : Node} (r : Request) : Reached genesis n → Asked genesis n r
  | opening {n : Node} {keys : KeyPair} {username : String} {l : Ledger} {id : AccountId} : Reached genesis n →
      n.ledger.register (.new keys) username = .ok (l, id) →
      Asked genesis (n.withLedger l) ⟨id, Account.openBlueprint⟩

theorem Asked.reachable {genesis : AccountId} {r : Request} (asked : Asked genesis n r) : n.ledger.Reachable := by
  cases asked with
  | client _ reached => exact reached.reachable
  | opening reached done => exact reached.reachable.leads (Ledger.leads_register done)

theorem Asked.measured {genesis : AccountId} {r : Request} (asked : Asked genesis n r) : n.ledger.Measured := by
  cases asked with
  | client _ reached => exact reached.measured
  | opening reached done => exact (Ledger.register_ok done).2.measured reached.measured

theorem Asked.no_receive {genesis : AccountId} {r : Request} {o : Outcome} (asked : Asked genesis n r)
    (named : n.ledger.Named) (done : n.perform (process r) = (.ok o, n')) (source : Option BlockHash) :
    r.blueprint.payload ≠ .receive source := by
  intro receives
  cases asked with
  | client _ reached => exact (reached.booked named).receive_refused reached.sound receives o n' done
  | opening reached registered => cases receives

-- An accepted request takes its amount and its cost from its account, brings the
-- amount to the destination of a send, and adds the credits; nothing else moves.
-- The credits and the warnings are the reward, which is what forging earns and
-- what the block cost.
theorem accepted_balances {genesis : AccountId} {r : Request} {o : Outcome} (asked : Asked genesis n r)
    (named : n.ledger.Named) (done : n.perform (process r) = (.ok o, n')) :
    (∀ source, r.blueprint.payload ≠ .receive source) ∧
    ((∀ id, r.blueprint.payload ≠ .send id) → r.blueprint.amount.raw = 0) ∧
    (∀ id, (n'.ledger.balance id : Int) = n.ledger.balance id -
      (if r.account = id then (r.blueprint.amount.raw + (r.blueprint.payload.cost n.params).raw : Int) else 0) +
      (if r.blueprint.payload = .send id then (r.blueprint.amount.raw : Int) else 0) + toward id o.credits) ∧
    credited o.credits + warned o.warnings = o.reward.raw ∧
    o.reward.raw = min (Amount.size - 1) (n.params.forgeReward.raw + (r.blueprint.payload.cost n.params).raw) ∧
    (n'.ledger.held : Int) = n.ledger.held + credited o.credits - (r.blueprint.payload.cost n.params).raw ∧
    ∀ id, id ≠ r.account → n.ledger.balance id ≤ n'.ledger.balance id := by
  have other := asked.no_receive named done
  have measured := asked.measured
  obtain ⟨balances, shared, minted⟩ := process_balances measured other done
  have still : (∀ id, r.blueprint.payload ≠ .send id) → r.blueprint.amount.raw = 0 := by
    intro keeps
    obtain ⟨f, landed, settled, served⟩ := process_ok done
    obtain ⟨previous, block, lands⟩ := forgeAndAppend_ok served.forged
    apply lands.settles.still
    cases payload : r.blueprint.payload with
    | send id => exact absurd payload (keeps id)
    | receive source => exact absurd payload (other source)
    | _ => rfl
  refine ⟨other, still, fun id => ?_, shared, minted, ?_, fun id apart => ?_⟩
  · have moved := balances id
    by_cases own : r.account = id
    · by_cases brought : r.blueprint.payload = .send id
      · rw [if_pos own, if_pos brought] at moved ⊢
        omega
      · rw [if_pos own, if_neg brought] at moved ⊢
        omega
    · by_cases brought : r.blueprint.payload = .send id
      · rw [if_neg own, if_pos brought] at moved ⊢
        omega
      · rw [if_neg own, if_neg brought] at moved ⊢
        omega
  · have total := process_held measured other still done
    omega
  · have moved := balances id
    rw [if_neg (Ne.symm apart)] at moved
    omega

theorem lone_named : lone.ledger.Named := by
  have kept : Keeps loneId lone (lone.operate (.process selfSend)) := keeps_contains.operate lone (.process selfSend)
  have grows := kept.grows lone_reached.reachable
  have same : traded = ended (lone.perform (process selfSend)) := by rw [traded, trade]
  rw [operate_process, ← same] at grows
  exact grows.named traded_named

theorem selfSend_balanced : ∃ o, Asked loneId lone selfSend ∧ lone.ledger.Named ∧
    lone.perform (process selfSend) = (.ok o, traded) ∧ o.credits.length = 1 ∧
    (traded.ledger.balance loneId : Int) =
      lone.ledger.balance loneId - lone.params.transactionFee.raw + toward loneId o.credits := by
  obtain ⟨o, done, credits, _⟩ := trade_served
  have asked := Asked.client selfSend lone_reached
  refine ⟨o, asked, lone_named, done, credits, ?_⟩
  obtain ⟨_, _, balances, _⟩ := accepted_balances asked lone_named done
  have moved := balances loneId
  have owner : selfSend.account = loneId := rfl
  have sends : selfSend.blueprint.payload = .send loneId := rfl
  rw [if_pos owner, if_pos sends, sends, Payload.cost] at moved
  omega

end Node
end BlockLattice
