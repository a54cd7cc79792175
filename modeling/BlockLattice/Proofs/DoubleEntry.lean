import BlockLattice.Proofs.BalanceSteps
import BlockLattice.Proofs.Paying
import BlockLattice.Proofs.Refusals

namespace BlockLattice

namespace Ledger

def Settled (l : Ledger) : Prop := ∀ id k s d, l.blockAt? id k = some s → s.destination? = some d →
  ∃ j m r, l.blockAt? j m = some r ∧ r.source? = some s.hash

theorem Settled.grown {l l' : Ledger} (settled : l.Settled) (grows : l.Grows l')
    (new : ∀ id k s d, l'.blockAt? id k = some s → s.destination? = some d →
      l.blockAt? id k = some s ∨ ∃ j m r, l'.blockAt? j m = some r ∧ r.source? = some s.hash) : l'.Settled := by
  intro id k s d found sends
  rcases new id k s d found sends with old | paired
  · obtain ⟨j, m, r, receives, source⟩ := settled id k s d old sends
    exact ⟨j, m, r, grows j m r receives, source⟩
  · exact paired

theorem Settled.of_same {l l' : Ledger} (same : ∀ id k, l'.blockAt? id k = l.blockAt? id k) (settled : l.Settled) :
    l'.Settled := by
  apply settled.grown (.of_same same)
  intro id k s d found _
  rw [same] at found
  exact .inl found

theorem receive_of_source {b : Block} {s : BlockHash} (names : b.source? = some s) :
    ∃ balance previous time, b.content = .receive balance previous s time ∧ s ≠ .zero := by
  unfold Block.source? at names
  cases content : b.content with
  | receive balance previous source time =>
    rw [content] at names
    dsimp only [Content.source?] at names
    split at names
    · cases names
    · rename_i nonzero
      cases names
      exact ⟨balance, previous, time, rfl, nonzero⟩
  | _ =>
    rw [content] at names
    cases names

end Ledger

namespace Node

variable {n n' : Node} {genesis : AccountId}

structure Booked (genesis : AccountId) (n : Node) : Prop where
  stepped : n.ledger.Stepped n.params genesis
  settled : n.ledger.Settled

-- What keeps the books of a node: no block goes, and if all that is there then
-- can be named, the books are in order if they were.
structure Keeps (genesis : AccountId) (n n' : Node) : Prop where
  evolves : Evolves n n'
  grows : n.ledger.Reachable → n.ledger.Grows n'.ledger
  books : n.ledger.Reachable → n'.ledger.Named → Booked genesis n → Booked genesis n'

theorem keeps_path : Path (Keeps genesis) where
  stay n := ⟨evolves_path.stay n, fun _ _ _ _ found => found, fun _ _ booked => booked⟩
  join {a b c} first second := by
    have later : a.ledger.Reachable → b.ledger.Reachable := fun reachable => reachable.leads first.evolves.2
    refine ⟨evolves_path.join first.evolves second.evolves, ?_, ?_⟩
    · intro reachable
      exact (first.grows reachable).trans (second.grows (later reachable))
    · intro reachable named booked
      have before := (second.grows (later reachable)).named named
      exact second.books (later reachable) named (first.books reachable before booked)

theorem Keeps.of_same (evolves : Evolves n n')
    (same : n.ledger.Reachable → ∀ id k, n'.ledger.blockAt? id k = n.ledger.blockAt? id k) : Keeps genesis n n' := by
  refine ⟨evolves, fun reachable => .of_same (same reachable), fun reachable _ booked => ⟨?_, ?_⟩⟩
  · rw [evolves.1]
    exact booked.stepped.of_same (same reachable)
  · exact booked.settled.of_same (same reachable)

theorem Spares.blockAt? {e : NodeError} (spares : Spares n e n') (id : AccountId) (k : Nat) :
    n'.ledger.blockAt? id k = n.ledger.blockAt? id k :=
  spares.view (·.blockAt? id k) fun l forger change => l.blockAt?_modify forger change id k

theorem Spares.keeps {e : NodeError} (spares : Spares n e n') : Keeps genesis n n' :=
  .of_same spares.evolves fun _ => spares.blockAt?

theorem keeps_recordForged (n : Node) (f : Forged) : Keeps genesis n (n.recordForged f) :=
  .of_same (evolves_moves.record n f) fun _ => n.ledger.blockAt?_modify f.forger _

theorem keeps_count (n : Node) (metrics : Metrics) : Keeps genesis n { n with metrics := metrics } :=
  .of_same (evolves_moves.count n metrics) fun _ _ _ => rfl

section Lands

variable {origin : Origin} {r : Request} {f : Forged} {previous : BlockHash} {block : Block}

theorem Lands.new (lands : Lands origin r n f previous block n') {id : AccountId} {k : Nat} {b : Block}
    (found : n'.ledger.blockAt? id k = some b) : b = block ∨ n.ledger.blockAt? id k = some b := by
  rw [lands.blockAt?] at found
  rcases Ledger.blockAt?_place_eq_some.mp found with ⟨_, _, new⟩ | old
  · exact .inl new
  · exact .inr old

theorem Lands.destination? (lands : Lands origin r n f previous block n')
    (other : ∀ destination, r.blueprint.payload ≠ .send destination) : block.destination? = none := by
  rw [Block.destination?, lands.content, Blueprint.content]
  cases payload : r.blueprint.payload with
  | send destination => exact absurd payload (other destination)
  | _ => rfl

theorem Lands.keeps (lands : Lands origin r n f previous block n')
    (other : ∀ destination, r.blueprint.payload ≠ .send destination)
    (gains : origin = .reward → 0 < r.blueprint.amount.raw) : Keeps genesis n n' := by
  refine ⟨lands.evolves, fun _ => lands.grows, fun reachable named booked => ⟨?_, ?_⟩⟩
  · exact lands.stepped reachable.sound (lands.grows.named named) gains booked.stepped
  · apply booked.settled.grown lands.grows
    intro id k s d found sends
    rcases lands.new found with rfl | old
    · rw [lands.destination? other] at sends
      cases sends
    · exact .inl old

theorem Lands.keeps_pair {answer : Request} {n'' : Node} {g : Forged} {tip : BlockHash} {receive : Block}
    {destination : AccountId} {amount : Amount} (lands : Lands .client r n f previous block n')
    (pairs : Pairs f.hash destination amount n' answer.blueprint)
    (answers : Lands .client answer n' g tip receive n'') : Keeps genesis n n'' := by
  refine ⟨evolves_path.join lands.evolves answers.evolves, fun _ => lands.grows.trans answers.grows, ?_⟩
  intro reachable named booked
  have midway := answers.grows.named named
  have reachable' := reachable.leads lands.evolves.2
  have stepped := lands.stepped reachable.sound (lands.grows.named midway) (by simp) booked.stepped
  refine ⟨answers.stepped reachable'.sound midway (by simp) stepped, ?_⟩
  obtain ⟨source, found, receives⟩ := pairs.source
  obtain ⟨j, k, stands, same⟩ := reachable'.sound.block?_eq_some.mp found
  rw [lands.hash] at same
  have names : receive.source? = some block.hash := by
    have nonzero : block.hash ≠ .zero := same ▸ midway j k source stands
    rw [Block.source?, answers.content, Blueprint.content, receives, same]
    exact if_neg nonzero
  apply booked.settled.grown (lands.grows.trans answers.grows)
  intro id k s d found sends
  rcases answers.new found with rfl | early
  · rw [answers.destination? (by simp [receives])] at sends
    cases sends
  · rcases lands.new early with rfl | old
    · have placed : n''.ledger.blockAt? answer.account (n'.ledger.chainOf answer.account).length = some receive := by
        rw [answers.blockAt?]
        exact Ledger.blockAt?_place_eq_some.mpr (.inl ⟨rfl, rfl, rfl⟩)
      exact .inr ⟨_, _, receive, placed, names⟩
    · exact .inl old

end Lands

open Payout

theorem keeps_disburses : Disburses (Keeps genesis) where
  path := keeps_path
  credits lands some := by
    have reward := lands.raises.1
    apply lands.keeps
    · simp [reward]
    · exact fun _ => some
  spares spares := spares.keeps
  record := keeps_recordForged
  count := keeps_count

theorem Served.grows {r : Request} {o : Outcome} {f : Forged} {landed settled : Node}
    (served : Served r n o n' f landed settled) (reachable : n.ledger.Reachable) : landed.ledger.Grows n'.ledger := by
  have leads := ((evolves_moves.forge .client r).after served.forged).2
  have settles : landed.ledger.Grows settled.ledger ∧ landed.ledger.Leads settled.ledger := by
    refine ⟨?_, ((evolves_moves.settlePayload f r).after served.settles).2⟩
    rcases settlePayload_ok served.settles with ⟨destination, hash, _, _, settling⟩ | ⟨_, _, rfl⟩
    · obtain ⟨g, m, paired, _, rfl⟩ := settle_ok settling
      obtain ⟨bp, _, forged⟩ := pairReceive_ok paired
      obtain ⟨tip, receive, answers⟩ := forgeAndAppend_ok forged
      exact answers.grows.trans (.of_same (m.ledger.blockAt?_modify g.forger _))
    · exact .of_same fun _ _ => rfl
  rw [served.after]
  have counted : Keeps r.account settled (settled.recordForged f) := keeps_recordForged settled f
  have paid := keeps_path.join counted (keeps_disburses.payForger f (settled.recordForged f))
  exact settles.1.trans ((keeps_path.join paid (keeps_count _ _)).grows ((reachable.leads leads).leads settles.2))

theorem process_keeps (r : Request) : Within (Keeps genesis) (process r) := by
  refine .of_results (fun {n e n'} refused => ?_) fun {n o n'} done => ?_
  · refine .of_same ((evolves_moves.contains.process r).after refused) fun reachable => ?_
    exact (process_spares reachable.sound refused).blockAt?
  · obtain ⟨f, landed, settled, served⟩ := process_ok done
    obtain ⟨previous, block, lands⟩ := forgeAndAppend_ok served.forged
    have kept : Keeps genesis n settled := by
      rcases settlePayload_ok served.settles with ⟨destination, hash, sends, _, settling⟩ | ⟨other, _, rfl⟩
      · obtain ⟨g, m, paired, _, rfl⟩ := settle_ok settling
        obtain ⟨bp, pairs, forged⟩ := pairReceive_ok paired
        obtain ⟨tip, receive, answers⟩ := forgeAndAppend_ok forged
        exact keeps_path.join (lands.keeps_pair pairs answers) (keeps_recordForged m g)
      · exact lands.keeps other (by simp)
    rw [served.after]
    have counted := keeps_path.join kept (keeps_recordForged settled f)
    have paid := keeps_path.join counted (keeps_disburses.payForger f (settled.recordForged f))
    exact keeps_path.join paid (keeps_count _ _)

theorem keeps_register {keys : KeyPair} {username : String} {l : Ledger} {id : AccountId}
    (done : n.ledger.register (.new keys) username = .ok (l, id)) : Keeps genesis n (n.withLedger l) := by
  obtain ⟨_, registers⟩ := Ledger.register_ok done
  refine .of_same (evolves_moves.register n keys username l id done) fun _ j k => ?_
  rw [ledger_withLedger, registers.written]
  rfl

theorem openAccountWithKeys_keeps (keys : KeyPair) (username : String) :
    Within (Keeps genesis) (openAccountWithKeys keys username) := by
  refine opens_within keeps_path (fun {n e n'} refused => ?_) keeps_register process_keeps
  have evolves := (evolves_moves.openAccountWithKeys keys username).after refused
  exact .of_same evolves fun reachable => (openAccountWithKeys_spares reachable refused).blockAt?

theorem keeps_contains : Contains (Keeps genesis) where
  path := keeps_path
  process := process_keeps
  openAccountWithKeys := openAccountWithKeys_keeps
  payout := keeps_disburses.payout
  refresh n := .of_same (evolves_moves.refresh n) fun _ _ _ => rfl
  draw n rest := .of_same (evolves_moves.draw n rest) fun _ _ _ => rfl
  tick n time := .of_same (evolves_moves.tick n time) fun _ _ _ => rfl

end Node

theorem Ledger.Founds.blocks {p : Params} {keys : KeyPair} {username : String} {clock : Clock} {id : AccountId}
    {l₁ l' : Ledger} {b₀ b₁ b₂ : Block} (founds : Founds p keys username clock id .empty l₁ l' b₀ b₁ b₂)
    {j : AccountId} {k : Nat} {x : Block} (found : l'.blockAt? j k = some x) :
    j = id ∧ ((k = 0 ∧ x = b₀) ∨ (k = 1 ∧ x = b₁) ∨ (k = 2 ∧ x = b₂)) := by
  obtain ⟨_, registers⟩ := register_ok founds.registered
  have bare : ∀ i m, l₁.blockAt? i m = none := by
    intro i m
    rw [registers.written]
    simp [Ledger.blockAt?, chain?, Ledger.empty]
  have start : (l₁.chainOf id).length = 0 := by
    have unopened : l₁.chain? id = none := by
      rw [registers.written]
      simp [chain?, Ledger.empty]
    rw [chainOf_unopened unopened]
    rfl
  rw [founds.after, blockAt?_modify] at found
  rcases blockAt?_place_eq_some.mp found with ⟨same, height, block⟩ | found
  · rw [length_chainOf_place, length_chainOf_place, start] at height
    exact ⟨same, .inr (.inr ⟨height, block⟩)⟩
  rcases blockAt?_place_eq_some.mp found with ⟨same, height, block⟩ | found
  · rw [length_chainOf_place, start] at height
    exact ⟨same, .inr (.inl ⟨height, block⟩)⟩
  rcases blockAt?_place_eq_some.mp found with ⟨same, height, block⟩ | found
  · rw [start] at height
    exact ⟨same, .inl ⟨height, block⟩⟩
  · rw [bare] at found
    cases found

namespace Node

variable {n : Node} {genesis : AccountId}

theorem booked_at_birth {p : Params} {clock : Clock} {source : KeySource} {keys : KeyPair} {username : String}
    (born : (Node.new p clock source).perform (openGenesis keys username) = (.ok genesis, n)) : Booked genesis n := by
  obtain ⟨l₁, b₀, b₁, b₂, founds⟩ := Ledger.openGenesis_ok (openGenesis_ok born).2.1
  refine ⟨⟨?_, ?_⟩, ?_⟩
  · intro id b found other
    exact absurd (founds.blocks found).1 other
  · intro id k a b _ found
    obtain ⟨rfl, ⟨height, _⟩ | ⟨height, rfl⟩ | ⟨height, rfl⟩⟩ := founds.blocks found
    · omega
    · exact .inl ⟨rfl, by omega, by rw [Block.source?, founds.delegate]; rfl⟩
    · exact .inl ⟨rfl, by omega, by rw [Block.source?, founds.change]; rfl⟩
  · intro id k s d found sends
    unfold Block.destination? at sends
    obtain ⟨_, ⟨_, rfl⟩ | ⟨_, rfl⟩ | ⟨_, rfl⟩⟩ := founds.blocks found
    · rw [founds.opening] at sends; cases sends
    · rw [founds.delegate] at sends; cases sends
    · rw [founds.change] at sends; cases sends

theorem Reached.booked (reached : Reached genesis n) (named : n.ledger.Named) : Booked genesis n := by
  induction reached with
  | started born => exact booked_at_birth born
  | @operated n before op ih =>
    have keeps : Keeps genesis n (n.operate op) := keeps_contains.operate n op
    exact keeps.books before.reachable named (ih ((keeps.grows before.reachable).named named))

theorem Booked.pair (booked : Booked genesis n) (sound : n.ledger.Sound) {id d : AccountId} {k : Nat} {s : Block}
    (found : n.ledger.blockAt? id k = some s) (sends : s.destination? = some d) :
    ∃ j m before prior r amount, k = j + 1 ∧ n.ledger.blockAt? id j = some before ∧
      n.ledger.blockAt? d m = some prior ∧ n.ledger.blockAt? d (m + 1) = some r ∧ r.source? = some s.hash ∧
      before.balance.raw = s.balance.raw + (amount + n.params.transactionFee.raw) ∧
      r.balance.raw = prior.balance.raw + amount := by
  obtain ⟨i, h, r, stands, names⟩ := booked.settled id k s d found sends
  obtain ⟨balance, previous, time, content, nonzero⟩ := Ledger.receive_of_source names
  obtain ⟨j', k', s', sent, same, destination⟩ := sound.sourced stands names
  obtain ⟨rfl, rfl⟩ := sound.unique sent found same
  rw [found] at sent
  cases sent
  rw [sends] at destination
  cases destination
  obtain ⟨m, prior, rfl, under, _⟩ := sound.preceded stands (by rw [Block.isOpening, content]; rfl)
  rcases booked.stepped.steps under stands with ⟨_, _, sourceless⟩ | step
  · rw [names] at sourceless
    cases sourceless
  rw [content] at step
  rcases step with ⟨zero, _⟩ | ⟨_, amount, ⟨i, j, before, send, earlier, taken, named, moved⟩, risen⟩
  · exact absurd zero nonzero
  obtain ⟨rfl, rfl⟩ := sound.unique taken found named
  rw [found] at taken
  cases taken
  refine ⟨j, m, before, prior, r, amount, rfl, earlier, under, stands, names, moved, ?_⟩
  rw [Block.balance, content]
  exact risen

theorem Booked.receive_refused (booked : Booked genesis n) (sound : n.ledger.Sound) {r : Request}
    {source : Option BlockHash} (receives : r.blueprint.payload = .receive source) (o : Outcome) (n' : Node) :
    n.perform (process r) ≠ (.ok o, n') := by
  intro done
  obtain ⟨f, landed, settled, served⟩ := process_ok done
  obtain ⟨previous, block, lands⟩ := forgeAndAppend_ok served.forged
  cases source with
  | none => exact lands.admits.unrewarded receives
  | some source =>
    have receivable := Ledger.checkPayload_receive_ok receives lands.admits.allowed
    obtain ⟨send, _, found, sends, _⟩ := receivable.moved
    obtain ⟨id, k, stands, rfl⟩ := sound.block?_eq_some.mp found
    obtain ⟨j, m, x, answered, names⟩ := booked.settled id k send _ stands sends
    have taken := sound.received.mpr ⟨j, m, x, answered, names, rfl⟩
    rw [receivable.unreceived] at taken
    cases taken

theorem Booked.forced (booked : Booked genesis n) (sound : n.ledger.Sound) {id : AccountId} {k : Nat} {b : Block}
    (found : n.ledger.blockAt? id k = some b) (later : ¬(id = genesis ∧ k ≤ 2)) :
    (b.content.isOpening = true → b.balance = .zero) ∧
      (b.content.isOpening = false → ∃ j a, k = j + 1 ∧ n.ledger.blockAt? id j = some a ∧
        n.ledger.Step n.params a.balance.raw b.content) := by
  refine ⟨fun opens => ?_, fun other => ?_⟩
  · cases k with
    | zero => exact booked.stepped.opens found fun same => later ⟨same, by omega⟩
    | succ k =>
      obtain ⟨c, held, stored⟩ := Ledger.blockAt?_eq_some.mp found
      have last := (sound.opened held).later stored
      rw [Block.isOpening, opens] at last
      cases last
  · obtain ⟨j, a, rfl, before, _⟩ := sound.preceded found other
    rcases booked.stepped.steps before found with ⟨same, early, _⟩ | step
    · exact absurd ⟨same, by omega⟩ later
    · exact ⟨j, a, rfl, before, step⟩

-- Between two requests, every send is received by one block on the chain of its
-- destination, and what it takes from the one account is the fee and what it
-- brings the other. All other blocks, save the first three, open with nothing,
-- charge their cost, or credit a reward; and no client receives anything.
theorem double_entry (reached : Reached genesis n) (named : n.ledger.Named) :
    (∀ id k s d, n.ledger.blockAt? id k = some s → s.destination? = some d →
      ∃ j m before prior r amount, k = j + 1 ∧ n.ledger.blockAt? id j = some before ∧
        n.ledger.blockAt? d m = some prior ∧ n.ledger.blockAt? d (m + 1) = some r ∧ r.source? = some s.hash ∧
        (∀ i h x, n.ledger.blockAt? i h = some x → x.source? = some s.hash → i = d ∧ h = m + 1) ∧
        before.balance.raw = s.balance.raw + (amount + n.params.transactionFee.raw) ∧
        r.balance.raw = prior.balance.raw + amount) ∧
    (∀ id k b, n.ledger.blockAt? id k = some b → ¬(id = genesis ∧ k ≤ 2) →
      (b.kind = .opening → b.balance = .zero) ∧
      (b.kind = .change → ∃ j a, k = j + 1 ∧ n.ledger.blockAt? id j = some a ∧
        a.balance.raw = b.balance.raw + n.params.changeCost.raw) ∧
      (b.kind = .delegate → ∃ j a, k = j + 1 ∧ n.ledger.blockAt? id j = some a ∧
        a.balance.raw = b.balance.raw + n.params.delegateCost.raw) ∧
      (b.isReward = true → ∃ j a, k = j + 1 ∧ n.ledger.blockAt? id j = some a ∧ a.balance.raw < b.balance.raw)) ∧
    (∀ r source o n', r.blueprint.payload = .receive source → n.perform (process r) ≠ (.ok o, n')) := by
  have sound := reached.sound
  have booked := reached.booked named
  refine ⟨?_, ?_, ?_⟩
  · intro id k s d found sends
    obtain ⟨j, m, before, prior, r, amount, height, earlier, under, stands, names, moved, risen⟩ :=
      booked.pair sound found sends
    refine ⟨j, m, before, prior, r, amount, height, earlier, under, stands, names, ?_, moved, risen⟩
    intro i h x answers again
    exact sound.received_once answers stands again names
  · intro id k b found later
    obtain ⟨opens, steps⟩ := booked.forced sound found later
    unfold Block.kind Block.isReward Block.balance
    cases content : b.content with
    | opening account balance time =>
      rw [content] at opens
      have nothing := opens rfl
      rw [Block.balance, content] at nothing
      simp [Content.kind, Content.isReward, nothing]
    | send balance destination previous time => simp [Content.kind, Content.isReward]
    | receive balance previous source time =>
      rw [content] at steps
      obtain ⟨j, a, height, before, step⟩ := steps rfl
      simp only [Content.kind, Content.isReward, reduceCtorEq, false_implies, true_and, beq_iff_eq]
      intro sourceless
      rcases step with ⟨_, raised⟩ | ⟨some, _⟩
      · exact ⟨j, a, height, before, raised⟩
      · exact absurd sourceless some
    | change balance changes previous time =>
      rw [content] at steps
      obtain ⟨j, a, height, before, step⟩ := steps rfl
      simp only [Content.kind, Content.isReward, reduceCtorEq, false_implies, true_and, and_true, forall_const]
      exact ⟨j, a, height, before, step⟩
    | delegate balance previous share time =>
      rw [content] at steps
      obtain ⟨j, a, height, before, step⟩ := steps rfl
      simp only [Content.kind, Content.isReward, reduceCtorEq, false_implies, true_and, and_true, forall_const]
      exact ⟨j, a, height, before, step⟩
  · intro r source o n' receives
    exact booked.receive_refused sound receives o n'

theorem traded_named : traded.ledger.Named := by
  obtain ⟨o, _, _, unnamed, _⟩ := trade_served
  exact traded_reached.sound.named_of_missing unnamed

theorem traded_pairs : Reached loneId traded ∧ traded.ledger.Named ∧
    ∃ s m r, traded.ledger.blockAt? loneId 3 = some s ∧ traded.ledger.blockAt? loneId (m + 1) = some r ∧
      r.source? = some s.hash := by
  refine ⟨traded_reached, traded_named, ?_⟩
  obtain ⟨o, _, _, _, third⟩ := trade_served
  obtain ⟨s, found, sends⟩ := Option.bind_eq_some_iff.mp third
  obtain ⟨j, m, before, prior, r, amount, _, _, _, stands, names, _⟩ :=
    (double_entry traded_reached traded_named).1 loneId 3 s loneId found sends
  exact ⟨s, m, r, found, stands, names⟩

end Node
end BlockLattice
