import BlockLattice.Proofs.DoubleEntry
import BlockLattice.Proofs.Lasting

namespace BlockLattice

namespace Ledger

def Retains (l l' : Ledger) : Prop :=
  ∀ id a, l.account? id = some a → ∃ a', l'.account? id = some a' ∧ a'.keys = a.keys

theorem Retains.of_same {l l' : Ledger} (same : l'.accounts = l.accounts) : l.Retains l' := by
  intro id a known
  refine ⟨a, ?_, rfl⟩
  rw [account?, same]
  exact known

theorem Retains.trans {l₁ l₂ l₃ : Ledger} (first : l₁.Retains l₂) (second : l₂.Retains l₃) : l₁.Retains l₃ := by
  intro id a known
  obtain ⟨b, still, keys⟩ := first id a known
  obtain ⟨c, later, again⟩ := second id b still
  exact ⟨c, later, again.trans keys⟩

theorem retains_modify (l : Ledger) (id : AccountId) {change : Account → Account}
    (kept : ∀ a, (change a).keys = a.keys) : l.Retains (l.modifyAccount id change) := by
  intro j a known
  rw [account?_modify, known]
  split
  · exact ⟨change a, rfl, kept a⟩
  · exact ⟨a, rfl, rfl⟩

theorem retains_affect (l : Ledger) (id : AccountId) (payload : Payload) : l.Retains (l.affect id payload) := by
  rcases l.affect_cases id payload with same | ⟨change, kept, changed⟩
  · rw [same]
    exact .of_same rfl
  · rw [changed]
    exact l.retains_modify id kept

theorem Registers.retains {l l' : Ledger} {a : Account} {username : String} (registers : l.Registers a username l') :
    l.Retains l' :=
  fun _ old known => ⟨old, registers.kept known, rfl⟩

-- A block that its owner's key has signed, or whose signature was verified.
def Signed (l : Ledger) : Prop := ∀ id k b, l.blockAt? id k = some b → ∃ a, l.account? id = some a ∧
  (b.verify a.publicKey = true ∨ b.owner = some (a.privateKey.sign b.digest))

theorem Signed.kept {l l' : Ledger} (signed : l.Signed) (retains : l.Retains l')
    (same : ∀ id k, l'.blockAt? id k = l.blockAt? id k) : l'.Signed := by
  intro id k b found
  rw [same] at found
  obtain ⟨a, known, own⟩ := signed id k b found
  obtain ⟨a', still, keys⟩ := retains id a known
  refine ⟨a', still, ?_⟩
  rw [Account.publicKey, Account.privateKey, keys]
  exact own

theorem Signed.place {l : Ledger} (signed : l.Signed) {id : AccountId} {a : Account} {b : Block}
    (known : l.account? id = some a)
    (own : b.verify a.publicKey = true ∨ b.owner = some (a.privateKey.sign b.digest)) : (l.place id b).Signed := by
  intro j k x found
  rcases blockAt?_place_eq_some.mp found with ⟨rfl, _, rfl⟩ | old
  · exact ⟨a, known, own⟩
  · exact signed j k x old

end Ledger

namespace Node

variable {n n' : Node}

theorem Lands.retains {origin : Origin} {r : Request} {f : Forged} {previous : BlockHash} {block : Block}
    (lands : Lands origin r n f previous block n') : n.ledger.Retains n'.ledger := by
  rw [lands.ledger]
  have placed : n.ledger.Retains (n.ledger.place r.account block) := .of_same rfl
  exact placed.trans (Ledger.retains_affect _ _ _)

theorem signed_lasts : Lasts Ledger.Signed where
  lands {origin r n f previous block n'} lands _ signed := by
    obtain ⟨a, known, verified⟩ := lands.owned
    rw [lands.ledger]
    apply (signed.place known (.inl verified)).kept (Ledger.retains_affect _ _ _)
    exact Ledger.blockAt?_affect _ _ _
  counts {l} id change counts signed := by
    have kept : ∀ a, (change a).keys = a.keys := by
      intro a
      obtain ⟨forged, missed, changed⟩ := counts a
      rw [changed]
    exact signed.kept (l.retains_modify id kept) (l.blockAt?_modify id change)
  registers {l l' keys username} registers _ signed := by
    apply signed.kept registers.retains
    intro id k
    rw [registers.written]
    rfl

end Node

theorem Ledger.Founds.signed_blocks {p : Params} {keys : KeyPair} {username : String} {clock : Clock}
    {id : AccountId} {l₁ l' : Ledger} {b₀ b₁ b₂ : Block}
    (founds : Founds p keys username clock id .empty l₁ l' b₀ b₁ b₂) : l'.Signed := by
  intro j k b found
  obtain ⟨rfl, which⟩ := founds.blocks found
  obtain ⟨a, known, own⟩ := founds.signed b (by
    rcases which with ⟨_, same⟩ | ⟨_, same⟩ | ⟨_, same⟩ <;> simp [same])
  have retains : l₁.Retains l' := by
    have placed : l₁.Retains (((l₁.place j b₀).place j b₁).place j b₂) := .of_same rfl
    rw [founds.after]
    exact placed.trans (Ledger.retains_modify _ _ fun _ => rfl)
  obtain ⟨a', still, keys⟩ := retains j a known
  refine ⟨a', still, .inr ?_⟩
  rw [Account.privateKey, keys]
  exact own

theorem Node.Reached.signed {genesis : AccountId} {n : Node} (reached : Reached genesis n) : n.ledger.Signed :=
  signed_lasts.reached (fun founds => founds.signed_blocks) reached

end BlockLattice
