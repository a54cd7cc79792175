import BlockLattice.Proofs.Checking
import BlockLattice.Proofs.NodeLedger

-- No delegate of a network passes on more than the whole of a reward. A stored
-- share may say so, but none gets past the check of a delegate block.
namespace BlockLattice

namespace Ledger

def Measured (l : Ledger) : Prop := ∀ id a, l.account? id = some a → a.share.points.toNat ≤ Share.whole

theorem Measured.of_same {l l' : Ledger} (measured : l.Measured) (same : l'.accounts = l.accounts) : l'.Measured := by
  intro id a known
  rw [account?, same] at known
  exact measured id a known

theorem Measured.modify {l : Ledger} (measured : l.Measured) (id : AccountId) {change : Account → Account}
    (within : ∀ a, a.share.points.toNat ≤ Share.whole → (change a).share.points.toNat ≤ Share.whole) :
    (l.modifyAccount id change).Measured := by
  intro j a known
  rw [account?_modify] at known
  split at known
  · obtain ⟨old, found, rfl⟩ := Option.map_eq_some_iff.mp known
    exact within old (measured j old found)
  · exact measured j a known

theorem Registers.measured {l l' : Ledger} {keys : KeyPair} {username : String} (measured : l.Measured)
    (registers : l.Registers (.new keys) username l') : l'.Measured := by
  intro id a known
  rw [registers.account?_eq] at known
  split at known
  · cases known
    exact Nat.zero_le _
  · exact measured id a known

theorem Removes.measured {l l' : Ledger} {id : AccountId} {a : Account} (measured : l.Measured)
    (removes : l.Removes id a l') : l'.Measured := by
  intro j x known
  rw [removes.account?_eq] at known
  split at known
  · cases known
  · exact measured j x known

theorem Undoes.measured {l l' : Ledger} {id : AccountId} {hash : BlockHash} {b : Block} {c shorter : Chain}
    (measured : l.Measured) (undoes : l.Undoes id hash b c shorter l') : l'.Measured :=
  measured.of_same undoes.accounts

theorem Founds.measured {p : Params} {keys : KeyPair} {username : String} {clock : Clock} {id : AccountId}
    {l l₁ l' : Ledger} {b₀ b₁ b₂ : Block} (measured : l.Measured)
    (founds : Founds p keys username clock id l l₁ l' b₀ b₁ b₂) : l'.Measured := by
  obtain ⟨_, registers⟩ := register_ok founds.registered
  have placed : (((l₁.place id b₀).place id b₁).place id b₂).Measured := (registers.measured measured).of_same rfl
  rw [founds.after]
  exact placed.modify id fun _ _ => Nat.le_refl _

end Ledger

namespace Node

variable {n n' : Node}

theorem Lands.measured {origin : Origin} {r : Request} {f : Forged} {previous : BlockHash} {block : Block}
    (lands : Lands origin r n f previous block n') (measured : n.ledger.Measured) : n'.ledger.Measured := by
  have placed : (n.ledger.place r.account block).Measured := measured.of_same rfl
  rw [lands.ledger]
  cases payload : r.blueprint.payload with
  | change changes => exact placed.modify _ fun _ within => within
  | delegate share =>
    refine placed.modify _ fun _ _ => ?_
    cases origin with
    | client => exact Ledger.checkPayload_delegate_ok payload (Ledger.check_ok lands.checked).allowed
    | reward =>
      have reward := (Ledger.checkReward_ok lands.checked).1
      rw [payload] at reward
      cases reward
  | _ => exact placed

theorem Spares.measured {e : NodeError} (spares : Spares n e n') (measured : n.ledger.Measured) :
    n'.ledger.Measured := by
  rcases spares.ledger_cases with same | ⟨forger, missed⟩
  · rw [same]
    exact measured
  · rw [missed]
    exact measured.modify forger fun _ within => within

theorem measured_moves : Moves fun n n' => n.ledger.Measured → n'.ledger.Measured where
  path := Path.keeping fun n => n.ledger.Measured
  forge _ _ := forge_within (fun lands => lands.measured) fun stops => stops.spares.measured
  takeBack _ _ := takeBack_within (fun _ => id) fun undone => by
    obtain ⟨c, shorter, undoes⟩ := Ledger.rollback_ok undone
    exact undoes.measured
  record n f measured := measured.modify f.forger fun _ within => within
  count n metrics measured := measured
  register n keys username l id done measured := (Ledger.register_ok done).2.measured measured
  deregister id n measured := by
    rw [perform_deregister]
    cases removed : n.ledger.removeUnopened id with
    | error e => exact measured
    | ok result => exact (Ledger.removeUnopened_ok removed).measured measured
  refresh n measured := measured
  draw n rest measured := measured
  tick n time measured := measured

theorem Reached.measured {genesis : AccountId} (reached : Reached genesis n) : n.ledger.Measured := by
  induction reached with
  | started done =>
    obtain ⟨l₁, b₀, b₁, b₂, founds⟩ := Ledger.openGenesis_ok (openGenesis_ok done).2.1
    refine founds.measured ?_
    intro id a known
    simp [Node.new, Ledger.account?, Ledger.empty] at known
  | @operated n _ op ih => exact measured_moves.contains.operate n op ih

end Node
end BlockLattice
