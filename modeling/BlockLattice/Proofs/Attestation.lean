import BlockLattice.Proofs.Delegates
import BlockLattice.Proofs.Landing

namespace BlockLattice

namespace Ledger

structure Attested (l : Ledger) (id : AccountId) (b : Block) : Prop where
  owned : ∃ a, l.account? id = some a ∧ b.verify a.publicKey = true
  witnessed : ∃ w a, l.account? w = some a ∧ l.isDelegate w = true ∧ b.verifyWitness a.publicKey = true

structure Upholds (l l' : Ledger) : Prop where
  retains : l.Retains l'
  delegates : ∀ id, l.isDelegate id = true → l'.isDelegate id = true

variable {l l' : Ledger}

theorem Upholds.of_accounts (same : l'.accounts = l.accounts) : l.Upholds l' where
  retains := .of_same same
  delegates id delegate := by rw [(Alike.of_accounts same).delegates, delegate]

theorem Registers.upholds {keys : KeyPair} {username : String} (registers : l.Registers (.new keys) username l') :
    l.Upholds l' where
  retains := registers.retains
  delegates id delegate := by rw [registers.alike.delegates, delegate]

theorem Attested.kept {id : AccountId} {b : Block} (attested : l.Attested id b) (upholds : l.Upholds l') :
    l'.Attested id b := by
  obtain ⟨a, known, own⟩ := attested.owned
  obtain ⟨w, d, witness, delegate, seen⟩ := attested.witnessed
  obtain ⟨a', still, keys⟩ := upholds.retains id a known
  obtain ⟨d', later, same⟩ := upholds.retains w d witness
  refine ⟨⟨a', still, ?_⟩, w, d', later, upholds.delegates w delegate, ?_⟩
  · rw [Account.publicKey, keys]
    exact own
  · rw [Account.publicKey, same]
    exact seen

-- All blocks are attested but those of a ledger that was given.
def Attests (first l : Ledger) : Prop :=
  ∀ id k b, l.blockAt? id k = some b → first.blockAt? id k = some b ∨ l.Attested id b

theorem Attests.kept {first : Ledger} (attests : first.Attests l) (upholds : l.Upholds l')
    (fewer : ∀ id k b, l'.blockAt? id k = some b → l.blockAt? id k = some b) : first.Attests l' := by
  intro id k b found
  rcases attests id k b (fewer id k b found) with old | attested
  · exact .inl old
  · exact .inr (attested.kept upholds)

theorem Attests.modify {first : Ledger} (attests : first.Attests l) (id : AccountId) {change : Account → Account}
    (keys : ∀ a, (change a).keys = a.keys) (delegates : ∀ a, (change a).isDelegate = a.isDelegate) :
    first.Attests (l.modifyAccount id change) := by
  refine attests.kept ⟨l.retains_modify id keys, fun j delegate => ?_⟩ fun j k b found => ?_
  · rw [l.isDelegate_modify id delegates, delegate]
  · rw [← l.blockAt?_modify id change j k]
    exact found

end Ledger

namespace Node

variable {n n' : Node} {first : Ledger}

theorem Lands.upholds {origin : Origin} {r : Request} {f : Forged} {previous : BlockHash} {block : Block}
    (lands : Lands origin r n f previous block n') : n.ledger.Upholds n'.ledger where
  retains := lands.retains
  delegates id delegate := by rw [lands.isDelegate, delegate, ite_self]

theorem Lands.attested {origin : Origin} {r : Request} {f : Forged} {previous : BlockHash} {block : Block}
    (lands : Lands origin r n f previous block n') (seated : n.Seated) : n'.ledger.Attested r.account block := by
  obtain ⟨w, witness, seen⟩ := lands.witnessed
  have delegate : n.ledger.isDelegate f.forger = true := seated.refreshed.current lands.turn
  have before : n.ledger.Attested r.account block := ⟨lands.owned, f.forger, w, witness, delegate, seen⟩
  exact before.kept lands.upholds

theorem Lands.attests {origin : Origin} {r : Request} {f : Forged} {previous : BlockHash} {block : Block}
    (lands : Lands origin r n f previous block n') (seated : n.Seated) (attests : first.Attests n.ledger) :
    first.Attests n'.ledger := by
  intro id k b found
  rw [lands.blockAt?] at found
  rcases Ledger.blockAt?_place_eq_some.mp found with ⟨rfl, _, rfl⟩ | old
  · exact .inr (lands.attested seated)
  · rcases attests id k b old with given | attested
    · exact .inl given
    · exact .inr (attested.kept lands.upholds)

theorem Spares.attests {e : NodeError} (spares : Spares n e n') (attests : first.Attests n.ledger) :
    first.Attests n'.ledger := by
  rcases spares.ledger_cases with same | ⟨forger, missed⟩
  · rw [same]
    exact attests
  · rw [missed]
    exact attests.modify forger (fun _ => rfl) fun _ => rfl

def Vouched (first : Ledger) (n : Node) : Prop := n.Seated ∧ first.Attests n.ledger

theorem vouched_serves (first : Ledger) : Serves (Enduring (Vouched first)) where
  path := enduring_path _
  forge _ _ := by
    refine forge_within (fun lands => ⟨lands.evolves, fun _ vouched => ?_⟩)
      fun stops => ⟨stops.spares.evolves, fun _ vouched => ?_⟩
    · exact ⟨seated_endures.lands lands vouched.1, lands.attests vouched.1 vouched.2⟩
    · exact ⟨seated_endures.stops stops vouched.1, stops.spares.attests vouched.2⟩
  takeBack _ _ := takeBack_within (enduring_path _).stay fun undone => by
    refine ⟨⟨rfl, Ledger.leads_rollback undone⟩, fun reachable vouched => ?_⟩
    obtain ⟨c, shorter, undoes⟩ := Ledger.rollback_ok undone
    refine ⟨seated_endures.alike vouched.1 rfl rfl (.of_accounts undoes.accounts), ?_⟩
    refine vouched.2.kept (.of_accounts undoes.accounts) fun id k b found => ?_
    exact ((undoes.blockAt?_eq_some reachable.sound).mp found).1
  record n f := by
    refine ⟨evolves_moves.record n f, fun _ vouched => ⟨seated_endures.serves.record n f vouched.1, ?_⟩⟩
    exact vouched.2.modify f.forger (fun _ => rfl) fun _ => rfl
  count n metrics := ⟨evolves_moves.count n metrics, fun _ vouched => vouched⟩

theorem vouched_opens (first : Ledger) (keys : KeyPair) (username : String) :
    Within (Enduring (Vouched first)) (openAccountWithKeys keys username) := by
  refine opens_within (enduring_path _) (fun {n e n'} refused => ?_) (fun {n l id} done => ?_)
    (vouched_serves first).process
  · have seated := seated_endures.openAccountWithKeys keys username n
    rw [refused] at seated
    refine ⟨seated.1, fun reachable vouched => ⟨seated.2 reachable vouched.1, ?_⟩⟩
    exact (openAccountWithKeys_spares reachable refused).attests vouched.2
  · obtain ⟨_, registers⟩ := Ledger.register_ok done
    refine ⟨evolves_moves.register n keys username l id done, fun _ vouched => ?_⟩
    refine ⟨seated_endures.alike vouched.1 rfl rfl registers.alike, vouched.2.kept registers.upholds ?_⟩
    intro j k b found
    rw [ledger_withLedger, registers.written] at found
    exact found

theorem vouched_contains (first : Ledger) : Contains (Enduring (Vouched first)) where
  path := enduring_path _
  process := (vouched_serves first).process
  openAccountWithKeys := vouched_opens first
  payout := (vouched_serves first).payout
  refresh n := ⟨evolves_moves.refresh n, fun _ vouched => ⟨vouched.1.refreshed, vouched.2⟩⟩
  draw n rest := ⟨evolves_moves.draw n rest, fun _ vouched => vouched⟩
  tick n time := ⟨evolves_moves.tick n time, fun _ vouched => vouched⟩

-- Whatever is asked of a network, with whatever keys: a block is one of the three
-- of the first account, or both of its signatures verify, one under the key of the
-- account on whose chain it stands, the other under the key of an account that is
-- a delegate and registered as one.
theorem doubly_signed {p : Params} {clock : Clock} {source : KeySource} {keys : KeyPair} {username : String}
    {genesis : AccountId} {born : Node}
    (birth : (Node.new p clock source).perform (openGenesis keys username) = (.ok genesis, born))
    (ops : List Operation) :
    let n := ops.foldl operate born
    ∀ id k b, n.ledger.blockAt? id k = some b →
      (id = genesis ∧ k ≤ 2 ∧ born.ledger.blockAt? id k = some b) ∨
      ((∃ a, n.ledger.account? id = some a ∧ b.verify a.publicKey = true) ∧
        ∃ w a, n.delegation.isRegistered w = true ∧ n.ledger.account? w = some a ∧ a.isDelegate = true ∧
          b.verifyWitness a.publicKey = true) := by
  intro n id k b found
  have reached := Reached.started birth
  have start : Vouched born.ledger born := ⟨reached.seated, fun _ _ _ stands => .inl stands⟩
  have vouched := ((vouched_contains born.ledger).run born ops).2 reached.reachable start
  have enrolled : n.Enrolled := enrolled_endures.contains.reached enrolled_born (reached.run ops)
  rcases vouched.2 id k b found with given | attested
  · obtain ⟨l₁, b₀, b₁, b₂, founds⟩ := Ledger.openGenesis_ok (openGenesis_ok birth).2.1
    obtain ⟨same, which⟩ := founds.blocks given
    exact .inl ⟨same, by omega, given⟩
  · obtain ⟨w, a, witness, delegate, seen⟩ := attested.witnessed
    refine .inr ⟨attested.owned, w, a, (enrolled w).trans delegate, witness, ?_, seen⟩
    rw [← Ledger.isDelegate_of_account witness]
    exact delegate

theorem selfSend_signed : ∃ b, traded.ledger.blockAt? loneId 3 = some b ∧
    (∃ a, traded.ledger.account? loneId = some a ∧ b.verify a.publicKey = true) ∧
    ∃ w a, traded.delegation.isRegistered w = true ∧ traded.ledger.account? w = some a ∧ a.isDelegate = true ∧
      b.verifyWitness a.publicKey = true := by
  obtain ⟨o, _, _, _, sent⟩ := trade_served
  obtain ⟨b, stands, _⟩ := Option.bind_eq_some_iff.mp sent
  have after : [Operation.process selfSend].foldl operate lone = traded := by
    rw [List.foldl_cons, List.foldl_nil, operate_process, traded, trade]
  have signed := doubly_signed lone_born [.process selfSend] loneId 3 b
  rw [after] at signed
  rcases signed stands with ⟨_, early, _⟩ | both
  · exact absurd early (by decide)
  · exact ⟨b, stands, both⟩

end Node
end BlockLattice
