import BlockLattice.Proofs.Delegates

namespace BlockLattice

structure Ledger.Unharmed (j : AccountId) (l l' : Ledger) : Prop where
  votes : l'.votesOf j = l.votesOf j
  balance : l.balance j ≤ l'.balance j

namespace Ledger.Unharmed

variable {l l' l'' : Ledger} {j : AccountId}

theorem refl (l : Ledger) (j : AccountId) : l.Unharmed j l := ⟨rfl, Nat.le_refl _⟩

theorem trans (first : l.Unharmed j l') (second : l'.Unharmed j l'') : l.Unharmed j l'' :=
  ⟨second.votes.trans first.votes, Nat.le_trans first.balance second.balance⟩

end Ledger.Unharmed

theorem Ledger.Registers.unharmed {l l' : Ledger} {keys : KeyPair} {username : String} {j : AccountId}
    (registers : l.Registers (.new keys) username l') : l.Unharmed j l' where
  votes := registers.alike.votes j
  balance := by
    have chains : l'.chains = l.chains := by rw [registers.written]
    simp [balance, latest?, chain?, chains]

namespace Node

variable {n m n' : Node} {r : Request} {id j : AccountId} {e : NodeError}

def Harmless (j : AccountId) (n n' : Node) : Prop :=
  Evolves n n' ∧ (n.ledger.Reachable → n.ledger.Unharmed j n'.ledger)

theorem harmless_path (j : AccountId) : Path (Harmless j) where
  stay n := ⟨evolves_path.stay n, fun _ => .refl _ _⟩
  join first second := by
    refine ⟨evolves_path.join first.1 second.1, fun reachable => ?_⟩
    exact (first.2 reachable).trans (second.2 (reachable.leads first.1.2))

theorem Spares.unharmed (spares : Spares n e n') (j : AccountId) : n.ledger.Unharmed j n'.ledger :=
  ⟨spares.alike.votes j, Nat.le_of_eq (spares.balance j).symm⟩

theorem raises_disburses (j : AccountId) : Disburses fun n n' => n.ledger.balance j ≤ n'.ledger.balance j where
  path := ⟨fun _ => Nat.le_refl _, Nat.le_trans⟩
  credits {r n f previous block n'} lands _ := by
    rw [lands.balance]
    split
    · rename_i mine
      rw [lands.raises.2.2, mine]
      exact Nat.le_add_right ..
    · exact Nat.le_refl _
  spares spares := Nat.le_of_eq (spares.balance j).symm
  record n f := Nat.le_of_eq (balance_recordForged n f j).symm
  count _ _ := Nat.le_refl _

theorem Served.raises {o : Outcome} {f : Forged} {landed settled : Node} (served : Served r n o n' f landed settled)
    (j : AccountId) : landed.ledger.balance j ≤ n'.ledger.balance j := by
  have brought := settlePayload_balance served.settles j
  have counted := balance_recordForged settled f j
  have paid := (raises_disburses j).payForger f (settled.recordForged f)
  rw [served.after, ledger_booked]
  omega

theorem process_raises {o : Outcome} (done : n.perform (process r) = (.ok o, n')) (apart : r.account ≠ j) :
    n.ledger.balance j ≤ n'.ledger.balance j := by
  obtain ⟨f, landed, settled, served⟩ := process_ok done
  obtain ⟨previous, block, lands⟩ := forgeAndAppend_ok served.forged
  have kept := lands.balance j
  rw [if_neg apart] at kept
  exact kept ▸ served.raises j

theorem process_spends {o : Outcome} (done : n.perform (process r) = (.ok o, n'))
    (other : ∀ source, r.blueprint.payload ≠ .receive source) : n.ledger.balance r.account ≤
      n'.ledger.balance r.account + (r.blueprint.amount.raw + (r.blueprint.payload.cost n.params).raw) := by
  obtain ⟨f, landed, settled, served⟩ := process_ok done
  obtain ⟨previous, block, lands⟩ := forgeAndAppend_ok served.forged
  have charged := lands.charged other r.account
  have raised := served.raises r.account
  rw [if_pos rfl] at charged
  omega

theorem process_unharmed {o : Outcome} (done : n.perform (process r) = (.ok o, n')) (apart : r.account ≠ j) :
    n.ledger.Unharmed j n'.ledger where
  votes := by rw [process_votes done, if_neg apart]
  balance := process_raises done apart

theorem harmless_process (apart : r.account ≠ j) : Within (Harmless j) (process r) := by
  have evolves := evolves_moves.contains.process r
  refine .of_results (fun refused => ?_) fun done => ?_
  · exact ⟨evolves.after refused, fun reachable => (process_spares reachable.sound refused).unharmed j⟩
  · exact ⟨evolves.after done, fun _ => process_unharmed done apart⟩

theorem harmless_wish (apart : id ≠ j) (make : Params → Account → Block → Except ValidationError Blueprint) :
    Within (Harmless j) (wish id make) :=
  .wish (harmless_path j) (fun _ => harmless_process apart) make

theorem harmless_elect (apart : id ≠ j) (tokens : List String) : Within (Harmless j) (elect id tokens) :=
  .elect (harmless_path j) (fun _ => harmless_process apart) tokens

theorem harmless_openAccountWithKeys (keys : KeyPair) (username : String) :
    Within (Harmless j) (openAccountWithKeys keys username) := by
  have evolves := evolves_moves.openAccountWithKeys keys username
  refine .of_results (fun refused => ?_) fun {n id n'} done => ?_
  · exact ⟨evolves.after refused, fun reachable => (openAccountWithKeys_spares reachable refused).unharmed j⟩
  · refine ⟨evolves.after done, fun reachable => ?_⟩
    obtain ⟨l, o, registered, served⟩ := openAccountWithKeys_ok done
    obtain ⟨rfl, registers⟩ := Ledger.register_ok registered
    by_cases mine : (Account.new keys).id = j
    · subst mine
      have bare := reachable.sound.unopened_of_unknown registers.new
      have nothing : n.ledger.balance (Account.new keys).id = 0 := by rw [Ledger.balance, Ledger.latest?, bare]; rfl
      constructor
      · rw [process_votes served, if_pos rfl]
        exact registers.alike.votes _
      · rw [nothing]
        exact Nat.zero_le _
    · exact registers.unharmed.trans (process_unharmed served mine)

theorem harmless_openAccount (username : String) : Within (Harmless j) (openAccount username) := by
  refine .bind (harmless_path j) (fun n => ?_) fun keys => harmless_openAccountWithKeys keys username
  exact ⟨evolves_moves.draw n n.keys.draw.2, fun _ => .refl _ _⟩

end Node
end BlockLattice
