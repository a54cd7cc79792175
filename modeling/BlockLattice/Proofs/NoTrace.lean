import BlockLattice.Proofs.Forgers

namespace BlockLattice.Node

variable {n n' : Node} {e : NodeError}

structure NoTrace (n : Node) (e : NodeError) (n' : Node) : Prop where
  unforged : e.isForgeFault = false → n'.ledger = n.ledger
  missed : e.isForgeFault = true → ∃ forger a, n'.delegation.currentForger = .ok forger ∧
    n.ledger.account? forger = some a ∧
    n'.ledger = { n.ledger with accounts := n.ledger.accounts.insert forger { a with missed := a.missed + 1 } }

theorem Spares.noTrace (spares : Spares n e n') (seated : n'.Seated) : NoTrace n e n' := by
  refine ⟨spares.unforged, fun fault => ?_⟩
  obtain ⟨forger, turn, missed⟩ := spares.missed fault
  have delegate := seated.current turn
  rw [spares.alike.delegates] at delegate
  obtain ⟨a, known, _⟩ := Ledger.account_of_isDelegate delegate
  refine ⟨forger, a, turn, known, ?_⟩
  rw [missed, Ledger.miss, Ledger.modifyAccount, known]

-- Whatever is refused and whyever, the accounts, the names, the chains, the index
-- and the received sends are those before the request. Only if a block could not
-- be built has the forger whose turn it is missed one more turn.
theorem refused_leaves_no_trace {genesis : AccountId} (reached : Reached genesis n) :
    (∀ r e n', n.perform (process r) = (.error e, n') → NoTrace n e n') ∧
    (∀ source destination amount e n',
      n.perform (transfer source destination amount) = (.error e, n') → NoTrace n e n') ∧
    (∀ id percent e n', n.perform (registerDelegate id percent) = (.error e, n') → NoTrace n e n') ∧
    (∀ keys username e n', n.perform (openAccountWithKeys keys username) = (.error e, n') → NoTrace n e n') := by
  have sound := reached.sound
  refine ⟨?_, ?_, ?_, ?_⟩
  · intro r e n' refused
    have seated := (reached.operated (.process r)).seated
    rw [operate, refused] at seated
    exact (process_spares sound refused).noTrace seated
  · intro source destination amount e n' refused
    have seated := (reached.operated (.transfer source destination amount)).seated
    rw [operate, refused] at seated
    rw [transfer_eq] at refused
    exact (wish_spares sound refused).noTrace seated
  · intro id percent e n' refused
    have seated := (reached.operated (.registerDelegate id percent)).seated
    rw [operate, refused] at seated
    rw [registerDelegate_eq] at refused
    exact (wish_spares sound refused).noTrace seated
  · intro keys username e n' refused
    have seated := (reached.operated (.openAccountWithKeys keys username)).seated
    rw [operate, refused] at seated
    exact (openAccountWithKeys_spares reached.reachable refused).noTrace seated

-- An opening block on top of a chain passes the check and fails in the forge.
def secondOpening : Request := ⟨loneId, ⟨(lone.ledger.latest? loneId).map Block.hash, .zero, .zero, .opening⟩⟩

def isForgeFault : Except NodeError Outcome × Node → Bool
  | (.error e, _) => e.isForgeFault
  | (.ok _, _) => false

set_option maxRecDepth 100000 in
theorem secondOpening_faulty : isForgeFault (lone.perform (process secondOpening)) = true := by decide +kernel

theorem secondOpening_missed : Reached loneId lone ∧ ∃ e n' forger a,
    lone.perform (process secondOpening) = (.error e, n') ∧ lone.ledger.account? forger = some a ∧
    n'.ledger = { lone.ledger with
      accounts := lone.ledger.accounts.insert forger { a with missed := a.missed + 1 } } := by
  refine ⟨lone_reached, ?_⟩
  have faulty := secondOpening_faulty
  cases ran : lone.perform (process secondOpening) with
  | mk result n' =>
    rw [ran] at faulty
    cases result with
    | ok o => cases faulty
    | error e =>
      have trace := (refused_leaves_no_trace lone_reached).1 secondOpening e n' ran
      obtain ⟨forger, a, _, known, missed⟩ := trace.missed faulty
      exact ⟨e, n', forger, a, rfl, known, missed⟩

end BlockLattice.Node
