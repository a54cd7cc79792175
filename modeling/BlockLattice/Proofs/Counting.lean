import Mathlib.Algebra.Order.BigOperators.Group.Finset
import BlockLattice.Proofs.Delegates
import BlockLattice.Proofs.Payouts

namespace BlockLattice

theorem sum_entries (t : Std.ExtTreeMap AccountId β) (f : β → Nat) :
    (t.toList.map fun (_, x) => f x).sum = ∑ id : AccountId, (t[id]?.map f).getD 0 := by
  have others : ∀ id : AccountId, t[id]? = none → (t[id]?.map f).getD 0 = 0 := by
    intro id missing
    rw [missing]
    rfl
  rw [← sum_keys t others, ← Std.ExtTreeMap.map_fst_toList_eq_keys, List.map_map]
  apply congrArg List.sum
  apply List.map_congr_left
  rintro ⟨id, x⟩ entry
  rw [Std.ExtTreeMap.mem_toList_iff_getElem?_eq_some] at entry
  simp [entry]

namespace Ledger

variable {l l' : Ledger}

def forged (l : Ledger) : Nat := (l.accounts.toList.map fun (_, a) => a.forged.toNat).sum

def forgedBy (l : Ledger) (id : AccountId) : Nat := ((l.account? id).map fun a => a.forged.toNat).getD 0

theorem forged_eq_sum (l : Ledger) : l.forged = ∑ id : AccountId, l.forgedBy id :=
  sum_entries l.accounts fun a => a.forged.toNat

theorem forgedBy_le (l : Ledger) (id : AccountId) : l.forgedBy id ≤ l.forged := by
  rw [forged_eq_sum]
  exact Finset.single_le_sum (fun _ _ => Nat.zero_le _) (Finset.mem_univ id)

theorem forged_of_same (same : ∀ id, l'.forgedBy id = l.forgedBy id) : l'.forged = l.forged := by
  simp only [forged_eq_sum, same]

theorem forged_modify (l : Ledger) (id : AccountId) {change : Account → Account}
    (kept : ∀ a, (change a).forged = a.forged) : (l.modifyAccount id change).forged = l.forged := by
  apply forged_of_same
  intro j
  rw [forgedBy, forgedBy, account?_modify]
  split
  · rw [Option.map_map]
    simp [Function.comp_def, kept]
  · rfl

@[simp] theorem forged_affect (l : Ledger) (id : AccountId) (payload : Payload) :
    (l.affect id payload).forged = l.forged := by
  cases payload with
  | change changes => exact l.forged_modify id fun _ => rfl
  | delegate share => exact l.forged_modify id fun _ => rfl
  | _ => rfl

theorem Registers.forged {keys : KeyPair} {username : String} (registers : l.Registers (.new keys) username l') :
    l'.forged = l.forged := by
  apply forged_of_same
  intro j
  rw [forgedBy, forgedBy, registers.account?_eq]
  split
  · rename_i same
    have unknown : l.account? j = none := same ▸ registers.new
    rw [unknown]
    rfl
  · rfl

theorem forged_count {id : AccountId} (known : l.isRegistered id = true) (few : l.forged + 1 < UInt64.size) :
    (l.modifyAccount id fun a => { a with forged := a.forged + 1 }).forged = l.forged + 1 := by
  obtain ⟨a, found⟩ := isRegistered_iff.mp known
  have counted : ∀ j, (l.modifyAccount id fun a => { a with forged := a.forged + 1 }).forgedBy j =
      l.forgedBy j + if id = j then 1 else 0 := by
    intro j
    by_cases mine : id = j
    · subst mine
      have own : a.forged.toNat ≤ l.forged := by
        have within := l.forgedBy_le id
        rw [forgedBy, found] at within
        exact within
      have room : a.forged.toNat + 1 < 2 ^ 64 := Nat.lt_of_le_of_lt (Nat.add_le_add_right own 1) few
      rw [forgedBy, forgedBy, account?_modify, if_pos rfl, found, if_pos rfl]
      simp only [Option.map_some, Option.getD_some, UInt64.toNat_add, UInt64.toNat_one]
      exact Nat.mod_eq_of_lt room
    · rw [forgedBy, forgedBy, account?_modify, if_neg mine, if_neg mine]
      rfl
  simp only [forged_eq_sum, counted, Finset.sum_add_distrib, Finset.sum_ite_eq, Finset.mem_univ, if_true]

end Ledger

namespace Node

open Payout

-- So many blocks were counted on the way from one node to the other, so many of
-- them as credits. The counters of the accounts are words, that of the node is not.
structure Counts (n n' : Node) (blocks credits : Nat) : Prop where
  forged : n.ledger.forged + blocks < UInt64.size → n'.ledger.forged = n.ledger.forged + blocks
  blocks : n'.metrics.blocksForged = n.metrics.blocksForged + blocks
  credits : n'.metrics.payoutCredits = n.metrics.payoutCredits + credits

variable {n m n' : Node}

namespace Counts

variable {i j c d : Nat}

theorem nothing (forged : n'.ledger.forged = n.ledger.forged)
    (blocks : n'.metrics.blocksForged = n.metrics.blocksForged)
    (credits : n'.metrics.payoutCredits = n.metrics.payoutCredits) : Counts n n' 0 0 :=
  ⟨fun _ => forged, blocks, credits⟩

theorem trans (first : Counts n m i c) (second : Counts m n' j d) : Counts n n' (i + j) (c + d) := by
  refine ⟨fun few => ?_, ?_, ?_⟩
  · have halfway := first.forged (by omega)
    rw [second.forged (by omega), halfway, Nat.add_assoc]
  · rw [second.blocks, first.blocks, Nat.add_assoc]
  · rw [second.credits, first.credits, Nat.add_assoc]

end Counts

theorem uncounted_path : Path fun n n' => Counts n n' 0 0 := ⟨fun _ => .nothing rfl rfl rfl, .trans⟩

theorem refreshRound_uncounted (n : Node) : Counts n n.refreshRound 0 0 := by
  refine .nothing rfl ?_ ?_
  all_goals
    simp only [refreshRound]
    split <;> rfl

theorem Stops.uncounted {e : NodeError} (stops : Stops n e n') : Counts n n' 0 0 := by
  have elected := n.refreshRound_uncounted
  cases stops with
  | refused => exact uncounted_path.stay n
  | leaderless => exact elected
  | @missed forger =>
    have missed : Counts n.refreshRound (n.refreshRound.later.missTurn forger) 0 0 :=
      .nothing (n.ledger.forged_modify forger fun _ => rfl) rfl rfl
    exact elected.trans missed
  | passed => exact .nothing rfl elected.blocks elected.credits

theorem Spares.forged {e : NodeError} (spares : Spares n e n') : n'.ledger.forged = n.ledger.forged := by
  rcases spares.ledger_cases with same | ⟨forger, missed⟩
  · rw [same]
  · rw [missed]
    exact n.ledger.forged_modify forger fun _ => rfl

section Lands

variable {origin : Origin} {r : Request} {f : Forged} {previous : BlockHash} {block : Block}

theorem Lands.metrics (lands : Lands origin r n f previous block n') : n'.metrics = n.refreshRound.metrics := by
  rw [lands.after]
  cases r.blueprint.payload <;> rfl

theorem Lands.uncounted (lands : Lands origin r n f previous block n') : Counts n n' 0 0 := by
  have elected := n.refreshRound_uncounted
  refine .nothing ?_ ?_ ?_
  · rw [lands.ledger, Ledger.forged_affect]
    rfl
  · rw [lands.metrics]
    exact elected.blocks
  · rw [lands.metrics]
    exact elected.credits

theorem Lands.known (lands : Lands origin r n f previous block n') : n'.ledger.isRegistered f.forger = true := by
  obtain ⟨w, known, _⟩ := lands.witnessed
  rw [lands.ledger, Ledger.isRegistered_affect]
  exact Ledger.isRegistered_iff.mpr ⟨w, known⟩

end Lands

theorem forge_uncounted (origin : Origin) (r : Request) :
    Within (fun n n' => Counts n n' 0 0) (forgeAndAppend origin r) :=
  forge_within Lands.uncounted Stops.uncounted

theorem recordForged_counts {f : Forged} (known : n.ledger.isRegistered f.forger = true) :
    Counts n (n.recordForged f) 1 0 :=
  ⟨Ledger.forged_count known, rfl, rfl⟩

theorem countWarning_uncounted (n : Node) : Counts n { n with metrics := n.metrics.countWarning } 0 0 :=
  .nothing rfl rfl rfl

theorem booked_uncounted (n : Node) (accepted : Bool) : Counts n (n.booked accepted) 0 0 := by
  refine .nothing rfl ?_ ?_
  all_goals cases accepted <;> rfl

section Request

variable {r : Request} {f : Forged} {e : NodeError} {send : BlockHash} {sender destination : AccountId} {amount : Amount}

theorem pairReceive_uncounted :
    Within (fun n n' => Counts n n' 0 0) (pairReceive send sender destination amount) :=
  pairReceive_within uncounted_path forge_uncounted _ _ _ _

theorem settle_counts {hash : BlockHash}
    (done : n.perform (settle send sender destination amount) = (.ok hash, n')) : Counts n n' 1 0 := by
  obtain ⟨g, m, paired, _, rfl⟩ := settle_ok done
  obtain ⟨bp, _, forged⟩ := pairReceive_ok paired
  obtain ⟨tip, receive, lands⟩ := forgeAndAppend_ok forged
  exact lands.uncounted.trans (recordForged_counts lands.known)

-- The send is taken back before it was counted.
theorem settle_uncounted (refused : n.perform (settle send sender destination amount) = (.error e, n')) :
    Counts n n' 0 0 := by
  obtain ⟨cause, m, unpaired, ended⟩ := settle_error refused
  have paired : Counts n (n.perform (pairReceive send sender destination amount)).2 0 0 := pairReceive_uncounted n
  rw [unpaired] at paired
  rcases ended with ⟨l, b, undone, _, rfl⟩ | ⟨_, _, _, rfl⟩
  · obtain ⟨c, shorter, undoes⟩ := Ledger.rollback_ok undone
    have undone : Counts m (m.withLedger l) 0 0 := by
      refine .nothing ?_ rfl rfl
      rw [ledger_withLedger, Ledger.forged, undoes.accounts]
      rfl
    exact paired.trans undone
  · exact paired

theorem settlePayload_counts {paired : Option BlockHash}
    (done : n.perform (settlePayload f r) = (.ok paired, n')) : Counts n n' paired.toList.length 0 := by
  rcases settlePayload_ok done with ⟨_, hash, _, rfl, settling⟩ | ⟨_, rfl, rfl⟩
  · exact settle_counts settling
  · exact uncounted_path.stay n'

theorem creditReward_uncounted {d : Due} (refused : n.perform (creditReward d) = (.error e, n')) : Counts n n' 0 0 := by
  have credited : Counts n (n.perform (creditReward d)).2 0 0 := creditReward_within uncounted_path forge_uncounted d n
  rwa [refused] at credited

theorem counts_deals : Deals fun n n' _ credits _ => Counts n n' credits.length credits.length where
  nothing := uncounted_path.stay
  credit {n landed d bp f previous block} _ lands := by
    have recorded := lands.uncounted.trans (recordForged_counts lands.known)
    exact ⟨recorded.forged, recorded.blocks, congrArg (· + 1) lands.uncounted.credits⟩
  warning refused := (creditReward_uncounted refused).trans (countWarning_uncounted _)
  join first second := by
    rw [List.length_append]
    exact first.trans second

theorem payout_counts (n : Node) (forger : AccountId) (reward : Amount) :
    Counts n (n.carryOut (payout forger reward)).2 (n.carryOut (payout forger reward)).1.credits.length
      (n.carryOut (payout forger reward)).1.credits.length := by
  rcases payout_cases n forger reward with ⟨a, dues, known, planned, _⟩ | ⟨reason, ran⟩
  · exact counts_deals.payout known planned
  · rw [ran]
    exact countWarning_uncounted n

theorem payForger_counts (n : Node) (f : Forged) :
    Counts n (n.carryOut (payForger f)).2 (n.carryOut (payForger f)).1.credits.length
      (n.carryOut (payForger f)).1.credits.length := by
  unfold payForger
  split
  · exact uncounted_path.stay n
  · exact payout_counts _ _ _

theorem process_counts {o : Outcome} (done : n.perform (process r) = (.ok o, n')) :
    Counts n n' (1 + o.pairedReceive.toList.length + o.credits.length) o.credits.length := by
  obtain ⟨f, landed, settled, served⟩ := process_ok done
  obtain ⟨previous, block, lands⟩ := forgeAndAppend_ok served.forged
  have known : settled.ledger.isRegistered f.forger = true := by
    have kept := (registered_serves f.forger).settlePayload f r landed
    rw [served.settles] at kept
    exact kept.trans lands.known
  have settles := lands.uncounted.trans (settlePayload_counts served.settles)
  have counted := settles.trans (recordForged_counts known)
  have paid := payForger_counts (settled.recordForged f) f
  rw [← congrArg Report.credits served.paid] at paid
  have whole := (counted.trans paid).trans (booked_uncounted _ true)
  rw [← served.after] at whole
  simpa [Nat.add_comm] using whole

theorem process_uncounted (refused : n.perform (process r) = (.error e, n')) : Counts n n' 0 0 := by
  obtain ⟨m, rfl, unforged | ⟨f, landed, forged, unsettled⟩⟩ := process_error refused
  · have stopped := (forgeAndAppend_stops unforged).uncounted
    exact stopped.trans (booked_uncounted m false)
  · obtain ⟨previous, block, lands⟩ := forgeAndAppend_ok forged
    obtain ⟨_, _, unsettled⟩ := settlePayload_error unsettled
    exact (lands.uncounted.trans (settle_uncounted unsettled)).trans (booked_uncounted m false)

theorem openAccountWithKeys_uncounted {keys : KeyPair} {username : String} (reachable : n.ledger.Reachable)
    (refused : n.perform (openAccountWithKeys keys username) = (.error e, n')) : Counts n n' 0 0 := by
  have forged := (openAccountWithKeys_spares reachable refused).forged
  obtain ⟨_, _, _, rfl⟩ | ⟨l, id, cause, m, _, ran, ended⟩ := openAccountWithKeys_error refused
  · exact uncounted_path.stay n'
  · have counts := process_uncounted ran
    rcases ended with ⟨_, _, _, _, rfl⟩ | ⟨_, _, _, rfl⟩
    · exact .nothing forged counts.blocks counts.credits
    · exact .nothing forged counts.blocks counts.credits

end Request

end Node
end BlockLattice
