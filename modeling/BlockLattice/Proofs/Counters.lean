import BlockLattice.Proofs.Counting
import BlockLattice.Proofs.LedgerBlocks

namespace BlockLattice

namespace Ledger

variable {l l' : Ledger}

theorem count_blocks (l : Ledger) (b : Block) : l.blocks.count b = ∑ id : AccountId, (l.chainOf id).blocks.count b := by
  rw [blocks, List.count_flatMap]
  refine (sum_entries l.chains fun c => c.blocks.count b).trans (Finset.sum_congr rfl fun id _ => ?_)
  rw [chainOf, chain?]
  cases l.chains[id]? <;> rfl

theorem count_portions (added : List (AccountId × Block)) (b : Block) :
    ∑ id : AccountId, (portion id added).count b = (added.map Prod.snd).count b := by
  induction added with
  | nil => simp [portion]
  | cons x rest ih =>
    have first : ∀ id : AccountId, (if x.1 = id then [x.2] else []).count b = if x.1 = id then [x.2].count b else 0 := by
      intro id
      split <;> rfl
    simp only [portion_cons, List.count_append, Finset.sum_add_distrib, ih, first, Finset.sum_ite_eq, Finset.mem_univ,
      if_true]
    rw [← List.count_append]
    rfl

theorem Adds.perm {added : List (AccountId × Block)} (adds : l.Adds l' added) :
    l'.blocks.Perm (l.blocks ++ added.map Prod.snd) := by
  rw [List.perm_iff_count]
  intro b
  have grown : ∀ id, (l'.chainOf id).blocks.count b = (l.chainOf id).blocks.count b + (portion id added).count b := by
    intro id
    rw [adds id, List.count_append]
  simp only [List.count_append, count_blocks, grown, Finset.sum_add_distrib, count_portions]

theorem Sound.size_index (sound : l.Sound) : l.index.size = l.blocks.length := by
  have once : l.index.keys.Nodup := Std.ExtTreeMap.nodup_keys
  have same : l.index.keys.Perm (l.blocks.map Block.hash) := by
    rw [List.perm_ext_iff_of_nodup once sound.nodup_hashes]
    intro hash
    rw [Std.ExtTreeMap.mem_keys, List.mem_map, Std.ExtTreeMap.mem_iff_isSome_getElem?, Option.isSome_iff_exists]
    constructor
    · rintro ⟨p, placed⟩
      obtain ⟨b, found, named⟩ := sound.indexed.mp placed
      exact ⟨b, mem_blocks.mpr ⟨_, _, found⟩, named⟩
    · rintro ⟨b, listed, named⟩
      obtain ⟨id, k, found⟩ := mem_blocks.mp listed
      exact ⟨⟨id, k⟩, sound.indexed.mpr ⟨b, found, named⟩⟩
  rw [← Std.ExtTreeMap.length_keys, same.length_eq, List.length_map]

end Ledger

namespace Node

open Payout

variable {n n' : Node}

-- What the counters tell of the ledger. The three blocks that a network starts with
-- are forged by nobody.
structure Tallied (n : Node) : Prop where
  blocks : n.ledger.blocks.length = n.metrics.blocksForged + 3
  rewards : (n.ledger.blocks.filter Block.isReward).length = n.metrics.payoutCredits
  forged : n.metrics.blocksForged < UInt64.size → n.ledger.forged = n.metrics.blocksForged

theorem Tallied.grown {added : List (AccountId × Block)} {blocks credits : Nat} (tallied : n.Tallied)
    (counts : Counts n n' blocks credits) (adds : n.ledger.Adds n'.ledger added) (size : added.length = blocks)
    (rewards : ((added.map Prod.snd).filter Block.isReward).length = credits) : n'.Tallied := by
  refine ⟨?_, ?_, fun few => ?_⟩
  · rw [adds.perm.length_eq, List.length_append, List.length_map, tallied.blocks, counts.blocks, size]
    omega
  · rw [(adds.perm.filter _).length_eq, List.filter_append, List.length_append, tallied.rewards, counts.credits, rewards]
  · rw [counts.blocks] at few ⊢
    have before := tallied.forged (by omega)
    rw [← before] at few ⊢
    exact counts.forged few

theorem Tallied.unchanged (tallied : n.Tallied) (counts : Counts n n' 0 0)
    (same : ∀ id, n'.ledger.chainOf id = n.ledger.chainOf id) : n'.Tallied :=
  tallied.grown counts (Ledger.adds_none same) rfl rfl

theorem rewards_of_stand {credits : List Credit} {blocks : List (AccountId × Block)}
    (stand : List.Forall₂ Stands credits blocks) :
    ((blocks.map Prod.snd).filter Block.isReward).length = credits.length := by
  induction stand with
  | nil => rfl
  | cons stands _ ih => rw [List.map_cons, List.filter_cons_of_pos stands.reward, List.length_cons, ih, List.length_cons]

theorem isReward_content {bp : Blueprint} (other : ∀ source, bp.payload ≠ .receive source) (id : AccountId)
    (previous : BlockHash) (time : Timestamp) : (bp.content id previous time).isReward = false := by
  unfold Blueprint.content
  cases payload : bp.payload with
  | receive source => exact absurd payload (other source)
  | _ => rfl

namespace Recorded

variable {r : Request} {o : Outcome} {block : Block} {answer credits : List (AccountId × Block)}

theorem size (recorded : Recorded r o n n' block answer credits) :
    ((r.account, block) :: answer ++ credits).length = 1 + o.pairedReceive.toList.length + o.credits.length := by
  have answered : answer.length = o.pairedReceive.toList.length := by
    cases recorded.answered with
    | send _ paired => rw [paired]; rfl
    | other _ unpaired => rw [unpaired]; rfl
  rw [List.length_append, List.length_cons, answered, recorded.credited.length_eq]
  omega

theorem unrewarded (recorded : Recorded r o n n' block answer credits) (named : n'.ledger.Named) :
    (answer.map Prod.snd).filter Block.isReward = [] := by
  cases recorded.answered with
  | @send d receive balance previous time _ _ content =>
    have stands : block ∈ n'.ledger.blocks := recorded.adds.perm.mem_iff.mpr (by simp)
    obtain ⟨id, k, found⟩ := Ledger.mem_blocks.mp stands
    have nonzero : o.hash ≠ .zero := recorded.named ▸ named id k block found
    have plain : receive.isReward = false := by
      rw [Block.isReward, content]
      exact beq_false_of_ne nonzero
    simp [plain]
  | other => rfl

theorem rewards (recorded : Recorded r o n n' block answer credits) (named : n'.ledger.Named)
    (other : ∀ source, r.blueprint.payload ≠ .receive source) :
    ((((r.account, block) :: answer ++ credits).map Prod.snd).filter Block.isReward).length = o.credits.length := by
  obtain ⟨previous, content⟩ := recorded.asked
  have plain : block.isReward = false := by
    rw [Block.isReward, content]
    exact isReward_content other _ _ _
  have first : ¬block.isReward = true := by simp [plain]
  rw [List.cons_append, List.map_cons, List.filter_cons_of_neg first, List.map_append, List.filter_append,
    recorded.unrewarded named, List.nil_append, rewards_of_stand recorded.credited]

end Recorded

-- What keeps the counters in step with the ledger: it does so where all blocks have
-- names and the books were in order before.
structure Tallies (genesis : AccountId) (n n' : Node) : Prop where
  keeps : Keeps genesis n n'
  tallied : n.ledger.Reachable → n'.ledger.Named → Booked genesis n → n.Tallied → n'.Tallied

variable {genesis : AccountId}

theorem tallies_path : Path (Tallies genesis) where
  stay n := ⟨keeps_path.stay n, fun _ _ _ tallied => tallied⟩
  join {a b c} first second := by
    refine ⟨keeps_path.join first.keeps second.keeps, fun reachable named booked tallied => ?_⟩
    have later := reachable.leads first.keeps.evolves.2
    have between := (second.keeps.grows later).named named
    have books := first.keeps.books reachable between booked
    exact second.tallied later named books (first.tallied reachable between booked tallied)

theorem tallies_unchanged (keeps : Keeps genesis n n') (counts : n.ledger.Reachable → Counts n n' 0 0)
    (same : n.ledger.Reachable → ∀ id, n'.ledger.chainOf id = n.ledger.chainOf id) : Tallies genesis n n' :=
  ⟨keeps, fun reachable _ _ tallied => tallied.unchanged (counts reachable) (same reachable)⟩

theorem process_tallies (r : Request) : Within (Tallies genesis) (process r) := by
  refine .of_results (fun {n e n'} refused => ?_) fun {n o n'} done => ?_
  · exact tallies_unchanged ((process_keeps r).after refused) (fun _ => process_uncounted refused)
      fun reachable => (process_spares reachable.sound refused).chainOf
  · refine ⟨(process_keeps r).after done, fun reachable named booked tallied => ?_⟩
    obtain ⟨block, answer, credits, recorded⟩ := process_recorded reachable done
    have other : ∀ source, r.blueprint.payload ≠ .receive source :=
      fun source receives => booked.receive_refused reachable.sound receives o n' done
    exact tallied.grown (process_counts done) recorded.adds recorded.size (recorded.rewards named other)

theorem openAccountWithKeys_tallies (keys : KeyPair) (username : String) :
    Within (Tallies genesis) (openAccountWithKeys keys username) := by
  refine opens_within tallies_path (fun {n e n'} refused => ?_) (fun {n l id} done => ?_) process_tallies
  · have keeps : Keeps genesis n n' := (openAccountWithKeys_keeps keys username).after refused
    exact tallies_unchanged keeps (fun reachable => openAccountWithKeys_uncounted reachable refused)
      fun reachable => (openAccountWithKeys_spares reachable refused).chainOf
  · obtain ⟨_, registers⟩ := Ledger.register_ok done
    exact tallies_unchanged (keeps_register done) (fun _ => .nothing registers.forged rfl rfl) fun _ => registers.chainOf

theorem payout_tallies (forger : AccountId) (reward : Amount) : TaskWithin (Tallies genesis) (payout forger reward) := by
  intro n
  refine ⟨keeps_disburses.payout forger reward n, fun _ _ _ tallied => ?_⟩
  obtain ⟨blocks, writes⟩ := payout_writes n forger reward
  exact tallied.grown (payout_counts n forger reward) writes.adds writes.stand.length_eq.symm (rewards_of_stand writes.stand)

theorem tallies_contains : Contains (Tallies genesis) where
  path := tallies_path
  process := process_tallies
  openAccountWithKeys := openAccountWithKeys_tallies
  payout := payout_tallies
  refresh n := tallies_unchanged (keeps_contains.refresh n) (fun _ => n.refreshRound_uncounted) fun _ _ => rfl
  draw n rest := tallies_unchanged (keeps_contains.draw n rest) (fun _ => .nothing rfl rfl rfl) fun _ _ => rfl
  tick n time := tallies_unchanged (keeps_contains.tick n time) (fun _ => .nothing rfl rfl rfl) fun _ _ => rfl

theorem metrics_openGenesis (n : Node) (keys : KeyPair) (username : String) :
    (n.perform (openGenesis keys username)).2.metrics.blocksForged = n.metrics.blocksForged ∧
      (n.perform (openGenesis keys username)).2.metrics.payoutCredits = n.metrics.payoutCredits := by
  rw [openGenesis, perform_bind, perform_get]
  dsimp only
  obtain ⟨l, clock, result⟩ := n.ledger.openGenesis n.params keys username n.clock
  cases result <;> exact ⟨rfl, rfl⟩

end Node

theorem Ledger.Founds.adds {p : Params} {keys : KeyPair} {username : String} {clock : Clock} {id : AccountId}
    {l l₁ l' : Ledger} {b₀ b₁ b₂ : Block} (founds : Founds p keys username clock id l l₁ l' b₀ b₁ b₂) :
    l.Adds l' [(id, b₀), (id, b₁), (id, b₂)] := by
  obtain ⟨_, registers⟩ := register_ok founds.registered
  intro j
  rw [founds.after, chainOf_modify]
  by_cases mine : id = j
  · subst mine
    simp [chainOf_place, registers.chainOf, portion]
  · simp [chainOf_place, mine, registers.chainOf, portion]

theorem Ledger.Founds.forged {p : Params} {keys : KeyPair} {username : String} {clock : Clock} {id : AccountId}
    {l l₁ l' : Ledger} {b₀ b₁ b₂ : Block} (founds : Founds p keys username clock id l l₁ l' b₀ b₁ b₂) :
    l'.forged = l.forged := by
  obtain ⟨_, registers⟩ := register_ok founds.registered
  rw [founds.after]
  refine Eq.trans (forged_modify _ id ?_) registers.forged
  exact fun _ => rfl

namespace Node

variable {n : Node} {genesis : AccountId}

theorem tallied_at_birth {p : Params} {clock : Clock} {source : KeySource} {keys : KeyPair} {username : String}
    (born : (Node.new p clock source).perform (openGenesis keys username) = (.ok genesis, n)) : n.Tallied := by
  obtain ⟨l₁, b₀, b₁, b₂, founds⟩ := Ledger.openGenesis_ok (openGenesis_ok born).2.1
  have metrics := metrics_openGenesis (Node.new p clock source) keys username
  rw [born] at metrics
  have blocks : n.ledger.blocks.Perm [b₀, b₁, b₂] := founds.adds.perm
  have plain : ∀ b ∈ [b₀, b₁, b₂], b.isReward = false := by
    simp [Block.isReward, founds.opening, founds.delegate, founds.change, Content.isReward]
  refine ⟨?_, ?_, fun _ => ?_⟩
  · rw [blocks.length_eq, metrics.1]
    rfl
  · rw [(blocks.filter _).length_eq, List.filter_eq_nil_iff.mpr (by simpa using plain), metrics.2]
    rfl
  · rw [founds.forged, metrics.1]
    rfl

theorem Reached.tallied (reached : Reached genesis n) (named : n.ledger.Named) : n.Tallied := by
  induction reached with
  | started born => exact tallied_at_birth born
  | @operated n before op ih =>
    have tallies : Tallies genesis n (n.operate op) := tallies_contains.operate n op
    have earlier := (tallies.keeps.grows before.reachable).named named
    exact tallies.tallied before.reachable named (before.booked earlier) (ih earlier)

structure CountsNothing (n n' : Node) : Prop where
  forged : n'.ledger.forged = n.ledger.forged
  blocks : n'.metrics.blocksForged = n.metrics.blocksForged
  credits : n'.metrics.payoutCredits = n.metrics.payoutCredits
  same : n'.ledger.blocks = n.ledger.blocks

theorem Spares.countsNothing {n' : Node} {e : NodeError} (spares : Spares n e n') (counts : Counts n n' 0 0) :
    CountsNothing n n' := by
  refine ⟨spares.forged, counts.blocks, counts.credits, spares.view (·.blocks) fun l forger change => ?_⟩
  rw [Ledger.blocks, Ledger.chains_modify]
  rfl

-- Between two operations, the blocks that the accounts have forged, the blocks that
-- the node has counted and the blocks of the ledger are the same number, save the
-- three of the first account, and the credits that were counted are the rewards on
-- the ledger. A request that is refused, be it for a send that is taken back, and a
-- credit that fails are not counted; one that is served is counted block by block.
theorem counters_match (reached : Reached genesis n) (named : n.ledger.Named)
    (few : n.ledger.blocks.length < UInt64.size) :
    n.ledger.forged = n.metrics.blocksForged ∧
    n.ledger.blocks.length = n.metrics.blocksForged + 3 ∧ n.ledger.summary.blocks = n.ledger.blocks.length ∧
    n.metrics.payoutCredits = (n.ledger.blocks.filter Block.isReward).length ∧
    (∀ r e n', n.perform (process r) = (.error e, n') → CountsNothing n n') ∧
    (∀ d e n', n.perform (creditReward d) = (.error e, n') → CountsNothing n n') ∧
    (∀ r o n', n.perform (process r) = (.ok o, n') →
      Counts n n' (1 + o.pairedReceive.toList.length + o.credits.length) o.credits.length) ∧
    ∀ forger reward report n', n.carryOut (payout forger reward) = (report, n') →
      Counts n n' report.credits.length report.credits.length := by
  have tallied := reached.tallied named
  refine ⟨?_, tallied.blocks, reached.sound.size_index, tallied.rewards.symm, ?_, ?_, fun _ _ _ => process_counts, ?_⟩
  · apply tallied.forged
    rw [tallied.blocks] at few
    omega
  · intro r e n' refused
    exact (process_spares reached.sound refused).countsNothing (process_uncounted refused)
  · intro d e n' refused
    exact (creditReward_error refused).countsNothing (creditReward_uncounted refused)
  · intro forger reward report n' ran
    have counts := payout_counts n forger reward
    rw [ran] at counts
    exact counts

theorem traded_counted : Reached loneId traded ∧ traded.ledger.Named ∧ traded.ledger.blocks.length < UInt64.size ∧
    traded.ledger.forged = 3 ∧ traded.ledger.blocks.length = 6 ∧
    (traded.ledger.blocks.filter Block.isReward).length = 1 := by
  obtain ⟨o, done, credits, _⟩ := trade_served
  obtain ⟨f, landed, settled, served⟩ := process_ok done
  have counts := process_counts done
  have fresh := metrics_openGenesis (Node.new .standard ticking ⟨fun _ => ⟨3⟩, 0⟩) (.ofPrivate ⟨1⟩) "first"
  rw [lone_born] at fresh
  have paired : o.pairedReceive.toList.length = 1 := by
    rcases settlePayload_ok served.settles with ⟨_, hash, _, paired, _⟩ | ⟨other, _⟩
    · rw [paired]
      rfl
    · exact absurd rfl (other loneId)
  have three : traded.metrics.blocksForged = 3 := by
    rw [counts.blocks, fresh.1, paired, credits]
    rfl
  have one : traded.metrics.payoutCredits = 1 := by
    rw [counts.credits, fresh.2, credits]
    rfl
  have six : traded.ledger.blocks.length = 6 := by
    rw [(traded_reached.tallied traded_named).blocks, three]
  have few : traded.ledger.blocks.length < UInt64.size := by
    rw [six]
    decide
  obtain ⟨forged, _, _, rewards, _⟩ := counters_match traded_reached traded_named few
  exact ⟨traded_reached, traded_named, few, forged.trans three, six, rewards.symm.trans one⟩

end Node
end BlockLattice
