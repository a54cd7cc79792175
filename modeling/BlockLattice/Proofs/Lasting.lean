import BlockLattice.Proofs.Enduring
import BlockLattice.Proofs.Paying

namespace BlockLattice.Node

structure Lasts (P : Ledger → Prop) : Prop where
  lands : ∀ {origin r n f previous block n'}, Lands origin r n f previous block n' → n.ledger.Sound →
    P n.ledger → P n'.ledger
  counts : ∀ {l : Ledger} (id : AccountId) {change : Account → Account},
    (∀ a, ∃ forged missed, change a = { a with forged := forged, missed := missed }) → P l →
      P (l.modifyAccount id change)
  registers : ∀ {l l' : Ledger} {keys username}, l.Registers (.new keys) username l' → l.Sound → P l → P l'

def Lasting (P : Ledger → Prop) (n n' : Node) : Prop :=
  Evolves n n' ∧ (n.ledger.Reachable → P n.ledger → P n'.ledger)

theorem lasting_path (P : Ledger → Prop) : Path (Lasting P) := enduring_path fun n => P n.ledger

namespace Lasts

variable {P : Ledger → Prop} {n n' : Node}

theorem and {Q : Ledger → Prop} (lasts : Lasts P) (others : Lasts Q) : Lasts fun l => P l ∧ Q l where
  lands lands sound both := ⟨lasts.lands lands sound both.1, others.lands lands sound both.2⟩
  counts id _ counts both := ⟨lasts.counts id counts both.1, others.counts id counts both.2⟩
  registers registers sound both := ⟨lasts.registers registers sound both.1, others.registers registers sound both.2⟩

theorem missed (lasts : Lasts P) {l : Ledger} (forger : AccountId) (holds : P l) : P (l.miss forger) :=
  lasts.counts forger (fun a => ⟨a.forged, a.missed + 1, rfl⟩) holds

theorem spares (lasts : Lasts P) {e : NodeError} (spares : Spares n e n') (holds : P n.ledger) : P n'.ledger := by
  rcases spares.ledger_cases with same | ⟨forger, missed⟩
  · rw [same]
    exact holds
  · rw [missed]
    exact lasts.missed forger holds

theorem landing (lasts : Lasts P) {origin : Origin} {r : Request} {f : Forged} {previous : BlockHash} {block : Block}
    (lands : Lands origin r n f previous block n') : Lasting P n n' :=
  ⟨lands.evolves, fun reachable => lasts.lands lands reachable.sound⟩

theorem record (lasts : Lasts P) (n : Node) (f : Forged) : Lasting P n (n.recordForged f) :=
  ⟨evolves_moves.record n f, fun _ => lasts.counts f.forger fun a => ⟨a.forged + 1, a.missed, rfl⟩⟩

theorem count (n : Node) (metrics : Metrics) : Lasting P n { n with metrics := metrics } :=
  ⟨evolves_moves.count n metrics, fun _ holds => holds⟩

theorem disburses (lasts : Lasts P) : Disburses (Lasting P) where
  path := lasting_path P
  credits lands _ := lasts.landing lands
  spares spares := ⟨spares.evolves, fun _ => lasts.spares spares⟩
  record := lasts.record
  count := count

theorem settled (lasts : Lasts P) {f : Forged} {r : Request} {paired : Option BlockHash}
    (done : n.perform (settlePayload f r) = (.ok paired, n')) : Lasting P n n' := by
  rcases settlePayload_ok done with ⟨destination, hash, _, _, settling⟩ | ⟨_, _, rfl⟩
  · obtain ⟨g, m, received, _, rfl⟩ := settle_ok settling
    obtain ⟨bp, pairs, forged⟩ := pairReceive_ok received
    obtain ⟨tip, receive, answers⟩ := forgeAndAppend_ok forged
    exact (lasting_path P).join (lasts.landing answers) (lasts.record m g)
  · exact (lasting_path P).stay _

theorem served (lasts : Lasts P) {r : Request} {o : Outcome} {f : Forged} {landed settled : Node}
    (served : Served r n o n' f landed settled) : Lasting P landed n' := by
  have counted := (lasting_path P).join (lasts.settled served.settles) (lasts.record settled f)
  rw [served.after]
  exact (lasting_path P).join counted
    ((lasting_path P).join (lasts.disburses.payForger f (settled.recordForged f)) (count _ _))

theorem process (lasts : Lasts P) (r : Request) : Within (Lasting P) (process r) := by
  refine .of_results (fun {n e n'} refused => ?_) fun {n o n'} done => ?_
  · have evolves := (evolves_moves.contains.process r).after refused
    exact ⟨evolves, fun reachable => lasts.spares (process_spares reachable.sound refused)⟩
  · obtain ⟨f, landed, settled, served⟩ := process_ok done
    obtain ⟨previous, block, lands⟩ := forgeAndAppend_ok served.forged
    exact (lasting_path P).join (lasts.landing lands) (lasts.served served)

theorem openAccountWithKeys (lasts : Lasts P) (keys : KeyPair) (username : String) :
    Within (Lasting P) (openAccountWithKeys keys username) := by
  refine opens_within (lasting_path P) (fun {n e n'} refused => ?_) (fun {n l id} done => ?_) lasts.process
  · have evolves := (evolves_moves.openAccountWithKeys keys username).after refused
    exact ⟨evolves, fun reachable => lasts.spares (openAccountWithKeys_spares reachable refused)⟩
  · obtain ⟨_, registers⟩ := Ledger.register_ok done
    refine ⟨evolves_moves.register n keys username l id done, fun reachable holds => ?_⟩
    exact lasts.registers registers reachable.sound holds

theorem contains (lasts : Lasts P) : Contains (Lasting P) where
  path := lasting_path P
  process := lasts.process
  openAccountWithKeys := lasts.openAccountWithKeys
  payout := lasts.disburses.payout
  refresh n := ⟨evolves_moves.refresh n, fun _ holds => holds⟩
  draw n rest := ⟨evolves_moves.draw n rest, fun _ holds => holds⟩
  tick n time := ⟨evolves_moves.tick n time, fun _ holds => holds⟩

theorem reached (lasts : Lasts P)
    (founded : ∀ {p keys username clock id l₁ l' b₀ b₁ b₂},
      Ledger.Founds p keys username clock id .empty l₁ l' b₀ b₁ b₂ → P l')
    {genesis : AccountId} (reached : Reached genesis n) : P n.ledger := by
  refine Contains.reached (P := fun n => P n.ledger) lasts.contains (fun born => ?_) reached
  obtain ⟨l₁, b₀, b₁, b₂, founds⟩ := Ledger.openGenesis_ok (openGenesis_ok born).2.1
  exact founded founds

end Lasts
end BlockLattice.Node
