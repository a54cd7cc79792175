import BlockLattice.Proofs.Counters
import BlockLattice.Proofs.Payouts

namespace BlockLattice

theorem length_filter_eq_sum (p : α → Bool) (xs : List α) :
    (xs.filter p).length = (xs.map fun x => (p x).toNat).sum := by
  induction xs with
  | nil => rfl
  | cons x rest ih =>
    rw [List.map_cons, List.sum_cons, ← ih]
    cases kept : p x <;> simp [kept, Nat.add_comm]

def Ledger.Summary.gauges (s : Ledger.Summary) : Nat × Nat × Nat := (s.blocks, s.opened, s.delegates)

def Metrics.gauges (m : Metrics) : Nat × Nat × Nat := (m.blockCount, m.accountCount, m.delegateCount)

namespace Ledger

variable {l l' : Ledger}

theorem delegates_eq_sum (l : Ledger) : l.summary.delegates = ∑ id : AccountId, (l.isDelegate id).toNat := by
  refine (length_filter_eq_sum _ _).trans ((sum_entries l.accounts fun a => a.isDelegate.toNat).trans ?_)
  refine Finset.sum_congr rfl fun id _ => ?_
  rw [isDelegate, account?]
  cases l.accounts[id]? <;> rfl

theorem opened_eq_sum (l : Ledger) : l.summary.opened = ∑ id : AccountId, (l.isOpened id).toNat := by
  have each : l.summary.opened = (l.chains.toList.map fun _ => 1).sum := by simp [summary]
  refine each.trans ((sum_entries l.chains fun _ => 1).trans (Finset.sum_congr rfl fun id _ => ?_))
  rw [isOpened_eq, chain?]
  cases l.chains[id]? <;> rfl

theorem opened_of_same (same : ∀ id, l'.isOpened id = l.isOpened id) : l'.summary.opened = l.summary.opened := by
  simp only [opened_eq_sum, same]

theorem delegates_of_same (same : ∀ id, l'.isDelegate id = l.isDelegate id) :
    l'.summary.delegates = l.summary.delegates := by
  simp only [delegates_eq_sum, same]

theorem gauges_miss (l : Ledger) (forger : AccountId) : (l.miss forger).summary.gauges = l.summary.gauges := by
  have blocks : (l.miss forger).summary.blocks = l.summary.blocks := by simp [summary, miss]
  have opened : (l.miss forger).summary.opened = l.summary.opened := opened_of_same (l.isOpened_modify forger _)
  have delegates : (l.miss forger).summary.delegates = l.summary.delegates :=
    delegates_of_same (l.isDelegate_modify forger fun _ => rfl)
  rw [Summary.gauges, Summary.gauges, blocks, opened, delegates]

theorem Registers.gauges {keys : KeyPair} {username : String} (registers : l.Registers (.new keys) username l') :
    l'.summary.gauges = l.summary.gauges := by
  have delegates := delegates_of_same registers.alike.delegates
  rw [Summary.gauges, Summary.gauges, delegates, registers.written]
  rfl

theorem Recounted.isDelegate (recounted : l.Recounted l') (id : AccountId) : l'.isDelegate id = l.isDelegate id := by
  obtain ⟨forged, missed, changed⟩ := recounted id
  rw [Ledger.isDelegate, Ledger.isDelegate, changed, Option.any_map]

end Ledger

namespace Node

open Payout

variable {n m n' : Node} {lag : Nat}

structure Unread (n n' : Node) : Prop where
  gauges : n'.metrics.gauges = n.metrics.gauges
  timed : n'.metrics.requestsTimed = n.metrics.requestsTimed

theorem unread_path : Path Unread where
  stay _ := ⟨rfl, rfl⟩
  join first second := ⟨second.gauges.trans first.gauges, second.timed.trans first.timed⟩

theorem refreshRound_unread (n : Node) : Unread n n.refreshRound := by
  constructor
  all_goals
    simp only [refreshRound]
    split <;> rfl

theorem Stops.unread {e : NodeError} (stops : Stops n e n') : Unread n n' := by
  have elected := n.refreshRound_unread
  cases stops with
  | refused => exact unread_path.stay n
  | leaderless => exact elected
  | missed => exact ⟨elected.gauges, elected.timed⟩
  | passed => exact ⟨elected.gauges, elected.timed⟩

theorem Lands.unread {origin : Origin} {r : Request} {f : Forged} {previous : BlockHash} {block : Block}
    (lands : Lands origin r n f previous block n') : Unread n n' := by
  have elected := n.refreshRound_unread
  constructor
  · rw [lands.metrics]
    exact elected.gauges
  · rw [lands.metrics]
    exact elected.timed

theorem unread_forges : Forges Unread where
  path := unread_path
  forge _ _ := forge_within Lands.unread Stops.unread
  takeBack _ _ := takeBack_within unread_path.stay fun _ => ⟨rfl, rfl⟩
  record _ _ := ⟨rfl, rfl⟩

theorem unread_deals : Deals fun n n' _ _ _ => Unread n n' where
  nothing := unread_path.stay
  credit _ lands := ⟨lands.unread.gauges, lands.unread.timed⟩
  warning {n m d e} refused := by
    have credited : Unread n m := (creditReward_within unread_path unread_forges.forge d).after refused
    exact ⟨credited.gauges, credited.timed⟩
  join := unread_path.join

theorem payout_unread (n : Node) (forger : AccountId) (reward : Amount) :
    Unread n (n.carryOut (payout forger reward)).2 := by
  rcases payout_cases n forger reward with ⟨a, dues, known, planned, _⟩ | ⟨reason, ran⟩
  · exact unread_deals.payout known planned
  · rw [ran]
    exact ⟨rfl, rfl⟩

theorem payForger_unread (f : Forged) : TaskWithin Unread (payForger f) := by
  unfold payForger
  split
  · exact .pure unread_path _
  · exact fun n => payout_unread n _ _

structure Observed (n n' : Node) : Prop where
  exact : n'.metrics.gauges = n'.ledger.summary.gauges
  later : n.metrics.requestsTimed < n'.metrics.requestsTimed

theorem process_observed (r : Request) : Within Observed (process r) := by
  intro n
  have served := unread_forges.serve payForger_unread r n
  rw [perform_process]
  refine ⟨?_, ?_⟩
  · cases isAccepted (n.perform (serve r)).1 <;> rfl
  · have counted : ∀ (m : Node) accepted, (m.booked accepted).metrics.requestsTimed = m.metrics.requestsTimed + 1 := by
      intro m accepted
      cases accepted
      · rfl
      · exact Nat.add_right_comm _ _ _
    rw [counted, served.timed]
    exact Nat.lt_succ_self _

structure Idle (n n' : Node) : Prop extends Unread n n' where
  same : n'.ledger.summary.gauges = n.ledger.summary.gauges

theorem Spares.gauges {e : NodeError} (spares : Spares n e n') :
    n'.ledger.summary.gauges = n.ledger.summary.gauges := by
  rcases spares.ledger_cases with same | ⟨forger, missed⟩
  · rw [same]
  · rw [missed, Ledger.gauges_miss]

structure Tracks (n n' : Node) : Prop where
  evolves : Evolves n n'
  tracks : n.ledger.Reachable → Idle n n' ∨ Observed n n'

theorem tracks_path : Path Tracks where
  stay n := ⟨evolves_path.stay n, fun _ => .inl ⟨unread_path.stay n, rfl⟩⟩
  join {a b c} first second := by
    refine ⟨evolves_path.join first.evolves second.evolves, fun reachable => ?_⟩
    rcases second.tracks (reachable.leads first.evolves.2) with later | later
    · rcases first.tracks reachable with early | early
      · exact .inl ⟨unread_path.join early.toUnread later.toUnread, later.same.trans early.same⟩
      · refine .inr ⟨later.gauges.trans (early.exact.trans later.same.symm), ?_⟩
        rw [later.timed]
        exact early.later
    · refine .inr ⟨later.exact, Nat.lt_of_le_of_lt ?_ later.later⟩
      rcases first.tracks reachable with early | early
      · exact early.timed.ge
      · exact early.later.le

-- A registration alone changes no gauge, and nor does its removal, so that the gauges
-- taken in between are right after either.
theorem openAccountWithKeys_tracks (keys : KeyPair) (username : String) :
    Within Tracks (openAccountWithKeys keys username) := by
  have evolves := evolves_moves.openAccountWithKeys keys username
  refine .of_results (fun {n e n'} refused => ?_) fun {n id n'} done => ?_
  · refine ⟨evolves.after refused, fun reachable => ?_⟩
    have spared := (openAccountWithKeys_spares reachable refused).gauges
    obtain ⟨_, _, _, rfl⟩ | ⟨l, id, cause, m, registered, ran, ended⟩ := openAccountWithKeys_error refused
    · exact .inl ⟨unread_path.stay n', rfl⟩
    obtain ⟨rfl, registers⟩ := Ledger.register_ok registered
    have sound := (reachable.leads (Ledger.leads_register registered)).sound
    have observed := (process_observed _).after ran
    have between : m.ledger.summary.gauges = n.ledger.summary.gauges :=
      (process_spares sound ran).gauges.trans registers.gauges
    have metrics : n'.metrics = m.metrics := by
      rcases ended with ⟨_, _, _, _, rfl⟩ | ⟨_, _, _, rfl⟩ <;> rfl
    refine .inr ⟨?_, ?_⟩
    · rw [metrics, observed.exact, between, spared]
    · rw [metrics]
      exact observed.later
  · refine ⟨evolves.after done, fun _ => .inr ?_⟩
    obtain ⟨l, o, _, served⟩ := openAccountWithKeys_ok done
    have observed := (process_observed _).after served
    exact ⟨observed.exact, observed.later⟩

theorem tracks_asks : Asks Tracks where
  path := tracks_path
  process r n := ⟨evolves_moves.process r n, fun _ => .inr (process_observed r n)⟩
  openAccountWithKeys := openAccountWithKeys_tracks
  refresh n := ⟨evolves_moves.refresh n, fun _ => .inl ⟨n.refreshRound_unread, rfl⟩⟩
  draw n rest := ⟨evolves_moves.draw n rest, fun _ => .inl ⟨⟨rfl, rfl⟩, rfl⟩⟩
  tick n time := ⟨evolves_moves.tick n time, fun _ => .inl ⟨⟨rfl, rfl⟩, rfl⟩⟩

structure Gauged (n : Node) (lag : Nat) : Prop where
  blocks : n.ledger.summary.blocks = n.metrics.blockCount + lag
  opened : n.ledger.summary.opened = n.metrics.accountCount
  delegates : n.ledger.summary.delegates = n.metrics.delegateCount

theorem gauged_zero : n.Gauged 0 ↔ n.metrics.gauges = n.ledger.summary.gauges := by
  simp only [Metrics.gauges, Ledger.Summary.gauges, Prod.mk.injEq]
  constructor
  · rintro ⟨blocks, opened, delegates⟩
    exact ⟨blocks.symm, opened.symm, delegates.symm⟩
  · rintro ⟨blocks, opened, delegates⟩
    exact ⟨blocks.symm, opened.symm, delegates.symm⟩

theorem Gauged.idle (gauged : n.Gauged lag) (idle : Idle n n') : n'.Gauged lag := by
  have gauges := idle.gauges
  have same := idle.same
  simp only [Metrics.gauges, Ledger.Summary.gauges, Prod.mk.injEq] at gauges same
  refine ⟨?_, ?_, ?_⟩
  · rw [same.1, gauges.1, gauged.blocks]
  · rw [same.2.1, gauges.2.1, gauged.opened]
  · rw [same.2.2, gauges.2.2, gauged.delegates]

theorem opened_deals : Deals fun n n' _ _ _ => ∀ id, n'.ledger.isOpened id = n.ledger.isOpened id where
  nothing _ _ := rfl
  credit {n landed d _ f _ block} _ lands id := by
    obtain ⟨_, ⟨tip, last⟩, _⟩ := lands.raises
    have counted : (landed.recordCredit f).ledger.isOpened id = landed.ledger.isOpened id :=
      landed.ledger.isOpened_modify f.forger _ id
    rw [counted, lands.ledger_credited, Ledger.isOpened_place]
    split
    · rename_i own
      rw [← own, Ledger.isOpened_eq]
      cases held : n.ledger.chain? d.account with
      | none => simp [Ledger.latest?, held] at last
      | some c => rfl
    · rfl
  warning refused id := (creditReward_error refused).view (·.isOpened id) fun l j change => l.isOpened_modify j change id
  join first second id := (second id).trans (first id)

theorem Gauged.payout (gauged : n.Gauged lag) (reachable : n.ledger.Reachable) (forger : AccountId) (reward : Amount) :
    (n.carryOut (payout forger reward)).2.Gauged
      (lag + (n.carryOut (payout forger reward)).1.credits.length) := by
  have later := (reachable.leads (evolves_moves.payout forger reward n).2).sound
  obtain ⟨blocks, writes⟩ := payout_writes n forger reward
  have unread := (payout_unread n forger reward).gauges
  simp only [Metrics.gauges, Prod.mk.injEq] at unread
  have opened : ∀ id, (n.carryOut (Node.payout forger reward)).2.ledger.isOpened id = n.ledger.isOpened id := by
    rcases payout_cases n forger reward with ⟨a, dues, known, planned, _⟩ | ⟨reason, ran⟩
    · exact opened_deals.payout known planned
    · rw [ran]
      exact fun _ => rfl
  refine ⟨?_, ?_, ?_⟩
  · have before : n.ledger.blocks.length = n.metrics.blockCount + lag :=
      reachable.sound.size_index.symm.trans gauged.blocks
    have grown : (n.carryOut (Node.payout forger reward)).2.ledger.summary.blocks = n.ledger.blocks.length + blocks.length := by
      refine later.size_index.trans ?_
      rw [writes.adds.perm.length_eq, List.length_append, List.length_map]
    rw [grown, before, unread.1, ← writes.stand.length_eq, Nat.add_assoc]
  · rw [Ledger.opened_of_same opened, unread.2.1, gauged.opened]
  · rw [Ledger.delegates_of_same (payout_spares n forger reward).2.isDelegate, unread.2.2, gauged.delegates]

def lagAfter (n : Node) (lag : Nat) (op : Operation) : Nat :=
  match op with
  | .payout forger reward => lag + (n.carryOut (payout forger reward)).1.credits.length
  | op => if (n.operate op).metrics.requestsTimed = n.metrics.requestsTimed then lag else 0

def lagOver (n : Node) (lag : Nat) : List Operation → Nat
  | [] => lag
  | op :: rest => (n.operate op).lagOver (n.lagAfter lag op) rest

theorem lagAfter_other {op : Operation} (other : op.isPayout = false) (n : Node) (lag : Nat) :
    n.lagAfter lag op = if (n.operate op).metrics.requestsTimed = n.metrics.requestsTimed then lag else 0 := by
  cases op with
  | payout => cases other
  | _ => rfl

theorem Gauged.operate (gauged : n.Gauged lag) (reachable : n.ledger.Reachable) (op : Operation) :
    (n.operate op).Gauged (n.lagAfter lag op) := by
  cases paid : op.isPayout with
  | true =>
    obtain ⟨forger, reward, rfl⟩ := Operation.isPayout_iff.mp paid
    exact gauged.payout reachable forger reward
  | false =>
    rw [lagAfter_other paid]
    rcases (tracks_asks.operate n paid).tracks reachable with idle | observed
    · rw [if_pos idle.timed]
      exact gauged.idle idle
    · rw [if_neg observed.later.ne']
      exact gauged_zero.mpr observed.exact

theorem Gauged.run {genesis : AccountId} (gauged : n.Gauged lag) (reached : Reached genesis n) (ops : List Operation) :
    (ops.foldl Node.operate n).Gauged (n.lagOver lag ops) := by
  induction ops generalizing n lag with
  | nil => exact gauged
  | cons op rest ih => exact ih (gauged.operate reached.reachable op) (reached.operated op)

theorem lagOver_unpaid (n : Node) {ops : List Operation} (unpaid : ∀ op ∈ ops, op.isPayout = false) :
    n.lagOver 0 ops = 0 := by
  induction ops generalizing n with
  | nil => rfl
  | cons op rest ih =>
    have none : n.lagAfter 0 op = 0 := by
      rw [lagAfter_other (unpaid op (List.mem_cons_self ..))]
      split <;> rfl
    rw [lagOver, none]
    exact ih _ fun op listed => unpaid op (List.mem_cons_of_mem _ listed)

theorem gauged_at_birth {p : Params} {clock : Clock} {source : KeySource} {keys : KeyPair} {username : String}
    {genesis : AccountId} (born : (Node.new p clock source).perform (openGenesis keys username) = (.ok genesis, n)) :
    n.Gauged 0 := by
  rw [openGenesis, perform_bind, perform_get] at born
  dsimp only at born
  split at born
  · cases born
    exact gauged_zero.mpr rfl
  · cases born

-- After any operations on a network, the accounts and the delegates in the gauges are
-- those of the ledger, and the blocks are too, save those that payouts have credited
-- since the last request. Without a payout nothing is ever missing, and every
-- operation that has a request served or refused brings the gauges up to date.
theorem gauges_lag {p : Params} {clock : Clock} {source : KeySource} {keys : KeyPair} {username : String}
    {genesis : AccountId} {start : Node}
    (born : (Node.new p clock source).perform (openGenesis keys username) = (.ok genesis, start))
    (ops : List Operation) :
    let n := ops.foldl operate start
    n.Gauged (start.lagOver 0 ops) ∧ ((∀ op ∈ ops, op.isPayout = false) → n.Gauged 0) ∧
    (∀ r, (n.operate (.process r)).Gauged 0) ∧
    ∀ op, (n.operate op).metrics.requestsTimed ≠ n.metrics.requestsTimed → (n.operate op).Gauged 0 := by
  intro n
  have reached : Reached genesis n := (Reached.started born).run ops
  have gauged : n.Gauged (start.lagOver 0 ops) := (gauged_at_birth born).run (.started born) ops
  refine ⟨gauged, fun unpaid => ?_, fun r => gauged_zero.mpr (process_observed r n).exact, fun op counted => ?_⟩
  · rw [lagOver_unpaid start unpaid] at gauged
    exact gauged
  · have next := gauged.operate reached.reachable op
    cases paid : op.isPayout with
    | false =>
      rw [lagAfter_other paid, if_neg counted] at next
      exact next
    | true =>
      obtain ⟨forger, reward, rfl⟩ := Operation.isPayout_iff.mp paid
      exact absurd (payout_unread n forger reward).timed counted

def payday : Operation := .payout loneId (.clamp 700)

theorem payday_lags :
    (Node.new .standard ticking ⟨fun _ => ⟨3⟩, 0⟩).perform (openGenesis (.ofPrivate ⟨1⟩) "first") = (.ok loneId, lone) ∧
    (lone.operate payday).Gauged 1 ∧ ((lone.operate payday).operate (.process selfSend)).Gauged 0 := by
  obtain ⟨gauged, _, taken, _⟩ := gauges_lag lone_born [payday]
  rw [List.foldl_cons, List.foldl_nil] at gauged taken
  have one : lone.lagOver 0 [payday] = 1 := by
    rw [lagOver, lagOver, payday, lagAfter, payday_length]
  rw [one] at gauged
  exact ⟨lone_born, gauged, taken selfSend⟩

-- Right after the credit the gauge of the blocks is stale.
theorem payday_stale : Reached loneId (lone.operate payday) ∧
    (lone.operate payday).metrics.blockCount ≠ (lone.operate payday).ledger.summary.blocks := by
  have gauged := (gauged_at_birth lone_born).payout lone_reached.reachable loneId (.clamp 700)
  rw [payday_length] at gauged
  refine ⟨lone_reached.operated payday, ?_⟩
  rw [payday, operate, gauged.blocks]
  omega

end Node
end BlockLattice
