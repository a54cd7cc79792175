import BlockLattice.Proofs.Elections
import BlockLattice.Proofs.DoubleEntry

namespace BlockLattice

namespace Ledger

variable {l m l' : Ledger}

theorem Grows.chain (grows : l.Grows l') (id : AccountId) : (l.chainOf id).blocks <+: (l'.chainOf id).blocks := by
  rw [List.prefix_iff_getElem?]
  intro k inside
  have found : l.blockAt? id k = some (l.chainOf id).blocks[k] :=
    (l.blockAt?_chainOf id k).trans (List.getElem?_eq_getElem inside)
  rw [← grows id k _ found, blockAt?_chainOf]
  rfl

theorem Registers.grows {a : Account} {username : String} (registers : l.Registers a username l') : l.Grows l' := by
  apply Grows.of_same
  intro id k
  rw [registers.written]
  rfl

theorem grows_self (id : AccountId) (content : Content) {hash : BlockHash}
    (done : l.appendSelfWitnessed id content = .ok (l', hash)) : l.Grows l' := by
  obtain ⟨_, b, _, _, _, _, rfl, _⟩ := appendSelfWitnessed_ok done
  exact l.grows_place id b

theorem grows_openGenesis (l : Ledger) (p : Params) (keys : KeyPair) (username : String) (clock : Clock) :
    l.Grows (l.openGenesis p keys username clock).1 := by
  unfold openGenesis
  split
  · exact .of_same fun _ _ => rfl
  · rename_i l₁ id registered
    have first := (register_ok registered).2.grows
    split
    · exact first
    · rename_i l₂ _ opened
      have second := first.trans (grows_self _ _ opened)
      split
      · exact second
      · rename_i l₃ _ enrolled
        have third := second.trans (grows_self _ _ enrolled)
        split
        · exact third
        · rename_i l₄ _ voted
          have fourth := third.trans (grows_self _ _ voted)
          split
          · exact fourth
          · exact fourth.trans (.of_same (l₄.blockAt?_modify id _))

def portion (id : AccountId) (added : List (AccountId × Block)) : List Block :=
  (added.filter fun x => x.1 == id).map Prod.snd

theorem portion_cons (id : AccountId) (x : AccountId × Block) (added : List (AccountId × Block)) :
    portion id (x :: added) = (if x.1 = id then [x.2] else []) ++ portion id added := by
  by_cases mine : x.1 = id <;> simp [portion, mine]

theorem portion_append (id : AccountId) (xs ys : List (AccountId × Block)) :
    portion id (xs ++ ys) = portion id xs ++ portion id ys := by
  simp [portion]

def Adds (l l' : Ledger) (added : List (AccountId × Block)) : Prop :=
  ∀ id, (l'.chainOf id).blocks = (l.chainOf id).blocks ++ portion id added

theorem Adds.trans {added more : List (AccountId × Block)} (first : l.Adds m added) (second : m.Adds l' more) :
    l.Adds l' (added ++ more) := by
  intro id
  rw [second id, first id, portion_append, List.append_assoc]

theorem adds_none (same : ∀ id, l'.chainOf id = l.chainOf id) : l.Adds l' [] := by
  intro id
  rw [same]
  exact (List.append_nil _).symm

end Ledger

namespace Node

open Payout

variable {n m n' : Node} {origin : Origin} {r : Request} {f : Forged} {previous : BlockHash} {block : Block}

theorem Lands.adds (lands : Lands origin r n f previous block n') : n.ledger.Adds n'.ledger [(r.account, block)] := by
  intro id
  rw [lands.blocks, Ledger.portion_cons]
  exact congrArg _ (List.append_nil _).symm

theorem Spares.chainOf {e : NodeError} (spares : Spares n e n') (id : AccountId) :
    n'.ledger.chainOf id = n.ledger.chainOf id :=
  spares.view (·.chainOf id) fun l forger change => l.chainOf_modify forger change id

theorem ledger_openGenesis (n : Node) (keys : KeyPair) (username : String) :
    (n.perform (openGenesis keys username)).2.ledger = (n.ledger.openGenesis n.params keys username n.clock).1 := by
  rw [openGenesis, perform_bind, perform_get]
  dsimp only
  obtain ⟨l, clock, result⟩ := n.ledger.openGenesis n.params keys username n.clock
  cases result <;> rfl

theorem adds_record (n : Node) (f : Forged) : n.ledger.Adds (n.recordForged f).ledger [] :=
  Ledger.adds_none (n.ledger.chainOf_modify f.forger _)

structure Stands (c : Credit) (x : AccountId × Block) : Prop where
  account : x.1 = c.account
  hash : x.2.hash = c.hash
  reward : x.2.isReward = true

structure Writes (n n' : Node) (credits : List Credit) (blocks : List (AccountId × Block)) : Prop where
  adds : n.ledger.Adds n'.ledger blocks
  stand : List.Forall₂ Stands credits blocks

theorem Writes.none (same : ∀ id, n'.ledger.chainOf id = n.ledger.chainOf id) : Writes n n' [] [] :=
  ⟨Ledger.adds_none same, .nil⟩

theorem Writes.trans {credits others : List Credit} {blocks more : List (AccountId × Block)}
    (first : Writes n m credits blocks) (second : Writes m n' others more) :
    Writes n n' (credits ++ others) (blocks ++ more) :=
  ⟨first.adds.trans second.adds, List.rel_append first.stand second.stand⟩

theorem Lands.writes (lands : Lands .reward r n f previous block n') (amount : Amount) :
    Writes n n' [⟨r.account, amount, f.hash⟩] [(r.account, block)] := by
  refine ⟨lands.adds, .cons ⟨rfl, lands.hash.symm, ?_⟩ .nil⟩
  rw [Block.isReward, lands.content, Blueprint.content, lands.raises.1]
  rfl

theorem writes_deals : Deals fun n n' _ credits _ => ∃ blocks, Writes n n' credits blocks where
  nothing _ := ⟨[], .none fun _ => rfl⟩
  credit {_ landed d _ f _ _} _ lands := by
    have kept : Writes landed (landed.recordCredit f) [] [] := .none (landed.ledger.chainOf_modify f.forger _)
    exact ⟨_, (lands.writes d.amount).trans kept⟩
  warning refused := ⟨[], .none (creditReward_error refused).chainOf⟩
  join := by
    rintro _ _ _ _ _ _ _ _ _ ⟨blocks, writes⟩ ⟨more, wrote⟩
    exact ⟨blocks ++ more, writes.trans wrote⟩

theorem payout_writes (n : Node) (forger : AccountId) (reward : Amount) : ∃ blocks,
    Writes n (n.carryOut (payout forger reward)).2 (n.carryOut (payout forger reward)).1.credits blocks := by
  rcases payout_cases n forger reward with ⟨a, dues, known, planned, _⟩ | ⟨reason, ran⟩
  · exact writes_deals.payout known planned
  · rw [ran]
    exact ⟨[], .none fun _ => rfl⟩

theorem payForger_writes (n : Node) (f : Forged) : ∃ blocks,
    Writes n (n.carryOut (payForger f)).2 (n.carryOut (payForger f)).1.credits blocks := by
  unfold payForger
  split
  · exact ⟨[], .none fun _ => rfl⟩
  · exact payout_writes _ _ _

inductive Answered (r : Request) (o : Outcome) : List (AccountId × Block) → Prop where
  | send {d : AccountId} {receive : Block} {balance : Amount} {previous : BlockHash} {time : Timestamp} :
      r.blueprint.payload = .send d → o.pairedReceive = some receive.hash →
      receive.content = .receive balance previous o.hash time → Answered r o [(d, receive)]
  | other : (∀ d, r.blueprint.payload ≠ .send d) → o.pairedReceive = none → Answered r o []

theorem settlePayload_answered {o : Outcome} (sound : n.ledger.Sound) (named : o.hash = f.hash)
    (done : n.perform (settlePayload f r) = (.ok o.pairedReceive, n')) :
    ∃ answer, Answered r o answer ∧ n.ledger.Adds n'.ledger answer := by
  rcases settlePayload_ok done with ⟨d, hash, sends, paired, settling⟩ | ⟨other, unpaired, rfl⟩
  · obtain ⟨g, m, pairing, rfl, rfl⟩ := settle_ok settling
    obtain ⟨bp, pairs, forged⟩ := pairReceive_ok pairing
    obtain ⟨tip, receive, lands⟩ := forgeAndAppend_ok forged
    obtain ⟨source, found, receives⟩ := pairs.source
    obtain ⟨_, _, _, same⟩ := sound.block?_eq_some.mp found
    have content : receive.content = .receive bp.balance tip o.hash n.clock.now := by
      rw [lands.content, Blueprint.content, receives, same, named]
      rfl
    have names : o.pairedReceive = some receive.hash := by rw [paired, lands.hash]
    exact ⟨[(d, receive)], .send sends names content, lands.adds.trans (adds_record m g)⟩
  · exact ⟨[], .other other unpaired, Ledger.adds_none fun _ => rfl⟩

structure Recorded (r : Request) (o : Outcome) (n n' : Node) (block : Block)
    (answer credits : List (AccountId × Block)) : Prop where
  named : block.hash = o.hash
  asked : ∃ previous, block.content = r.blueprint.content r.account previous n.clock.now
  answered : Answered r o answer
  credited : List.Forall₂ Stands o.credits credits
  adds : n.ledger.Adds n'.ledger ((r.account, block) :: answer ++ credits)

theorem process_recorded {o : Outcome} (reachable : n.ledger.Reachable)
    (done : n.perform (process r) = (.ok o, n')) : ∃ block answer credits, Recorded r o n n' block answer credits := by
  obtain ⟨f, landed, settled, served⟩ := process_ok done
  obtain ⟨previous, block, lands⟩ := forgeAndAppend_ok served.forged
  have sound := (reachable.leads lands.evolves.2).sound
  obtain ⟨answer, answered, settles⟩ := settlePayload_answered sound served.named.1 served.settles
  obtain ⟨credits, writes⟩ := payForger_writes (settled.recordForged f) f
  have paid := congrArg Report.credits served.paid
  rw [← paid] at writes
  refine ⟨block, answer, credits, ?_, ⟨previous, lands.content⟩, answered, writes.stand, ?_⟩
  · rw [served.named.1, lands.hash]
  · rw [served.after]
    exact (lands.adds.trans settles).trans ((adds_record settled f).trans writes.adds)

theorem portion_uncredited {credits : List Credit} {blocks : List (AccountId × Block)} {id : AccountId}
    (stand : List.Forall₂ Stands credits blocks) (uncredited : id ∉ credits.map Credit.account) :
    Ledger.portion id blocks = [] := by
  induction stand with
  | nil => rfl
  | cons stands _ ih =>
    rw [List.map_cons, List.mem_cons, not_or] at uncredited
    rw [Ledger.portion_cons, stands.account, if_neg (Ne.symm uncredited.1), ih uncredited.2]
    rfl

theorem Recorded.spares {o : Outcome} {answer credits : List (AccountId × Block)}
    (recorded : Recorded r o n n' block answer credits) {id : AccountId} (other : id ≠ r.account)
    (elsewhere : r.blueprint.payload ≠ .send id) (uncredited : id ∉ o.credits.map Credit.account) :
    (n'.ledger.chainOf id).blocks = (n.ledger.chainOf id).blocks := by
  have unanswered : Ledger.portion id answer = [] := by
    cases recorded.answered with
    | send sends =>
      have apart : _ ≠ id := fun same => elsewhere (same ▸ sends)
      simp [Ledger.portion, apart]
    | other => rfl
  rw [recorded.adds, List.cons_append, Ledger.portion_cons, Ledger.portion_append, if_neg other.symm, unanswered,
    portion_uncredited recorded.credited uncredited]
  exact List.append_nil _

-- Whatever is asked of a node, each chain continues as it was, with the signatures
-- on its blocks. If it is to serve a request, the chain of the account grows by the
-- block that was asked for, that of a destination by the receive block, and every
-- other by its credits; if the request is refused, none grows.
theorem history_append_only {genesis : AccountId} (reached : Reached genesis n) :
    (∀ op id, (n.ledger.chainOf id).blocks <+: ((n.operate op).ledger.chainOf id).blocks) ∧
    (∀ keys username id, (n.ledger.chainOf id).blocks <+:
      ((n.perform (openGenesis keys username)).2.ledger.chainOf id).blocks) ∧
    (∀ r o n', n.perform (process r) = (.ok o, n') →
      (∃ block answer credits, Recorded r o n n' block answer credits) ∧
      ∀ id, id ≠ r.account → r.blueprint.payload ≠ .send id → id ∉ o.credits.map Credit.account →
        (n'.ledger.chainOf id).blocks = (n.ledger.chainOf id).blocks) ∧
    ∀ r e n', n.perform (process r) = (.error e, n') →
      ∀ id, (n'.ledger.chainOf id).blocks = (n.ledger.chainOf id).blocks := by
  refine ⟨?_, ?_, ?_, ?_⟩
  · intro op id
    have keeps : Keeps genesis n (n.operate op) := keeps_contains.operate n op
    exact (keeps.grows reached.reachable).chain id
  · intro keys username id
    rw [ledger_openGenesis]
    exact (n.ledger.grows_openGenesis n.params keys username n.clock).chain id
  · intro r o n' done
    obtain ⟨block, answer, credits, recorded⟩ := process_recorded reached.reachable done
    exact ⟨⟨block, answer, credits, recorded⟩, fun _ => recorded.spares⟩
  · intro r e n' refused id
    rw [(process_spares reached.sound refused).chainOf]

theorem selfSend_recorded : Reached loneId lone ∧
    (∀ id, (lone.ledger.chainOf id).blocks <+: (traded.ledger.chainOf id).blocks) ∧
    ∃ o block receive credit, lone.perform (process selfSend) = (.ok o, traded) ∧
      Recorded selfSend o lone traded block [(loneId, receive)] [credit] := by
  obtain ⟨o, done, credits, _⟩ := trade_served
  obtain ⟨grows, _, served, _⟩ := history_append_only lone_reached
  obtain ⟨⟨block, answer, blocks, recorded⟩, _⟩ := served selfSend o traded done
  have after : lone.operate (.process selfSend) = traded := by rw [operate_process, traded, trade]
  have own : selfSend.blueprint.payload = .send loneId := rfl
  refine ⟨lone_reached, after ▸ grows (.process selfSend), ?_⟩
  cases recorded.answered with
  | other nothing => exact absurd own (nothing loneId)
  | @send d receive _ _ _ sends =>
    obtain rfl : d = loneId := Payload.send.inj (sends.symm.trans own)
    obtain ⟨credit, rfl⟩ := List.length_eq_one_iff.mp (recorded.credited.length_eq ▸ credits)
    exact ⟨o, block, receive, credit, done, recorded⟩

end Node
end BlockLattice
