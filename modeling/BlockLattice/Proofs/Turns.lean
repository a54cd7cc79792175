import BlockLattice.Proofs.Forgers

namespace BlockLattice

namespace Round

def InTurn (r : Round) : Prop := r.index ≤ r.forgers.length

theorem InTurn.open {r : Round} (inTurn : r.InTurn) (going : r.hasEnded = false) : r.index < r.forgers.length := by
  simp only [hasEnded, Bool.or_eq_false_iff, Bool.and_eq_false_iff, List.isEmpty_eq_false_iff] at going
  obtain ⟨some, started⟩ := going
  have size : r.forgers.length ≠ 0 := by simpa using some
  apply Nat.lt_of_le_of_ne inTurn
  intro final
  rw [final, Nat.mod_self] at started
  simp [size] at started

theorem InTurn.forger {r : Round} (inTurn : r.InTurn) (going : r.hasEnded = false) :
    ∃ d ∈ r.forgers, r.forger = .ok d := by
  have inside := inTurn.open going
  have found : r.forgers[r.index]? = some r.forgers[r.index] := List.getElem?_eq_getElem inside
  refine ⟨r.forgers[r.index], List.getElem_mem inside, ?_⟩
  rw [Round.forger, going, found]
  rfl

theorem going_of_forger {r : Round} {d : Delegate} (turn : r.forger = .ok d) : r.hasEnded = false := by
  unfold forger at turn
  split at turn
  · cases turn
  · rename_i going
    exact eq_false_of_ne_true going

end Round

namespace Delegation

theorem update_inTurn {d : Delegation} (l : Ledger) (p : Params) (inTurn : d.round.InTurn) :
    (d.update l p).round.InTurn := by
  unfold update
  split
  · exact Nat.zero_le _
  · exact inTurn

-- A new round has ended at once if it has no forger, and only then.
theorem hasEnded_update (d : Delegation) (l : Ledger) (p : Params) :
    (d.update l p).round.hasEnded = (d.update l p).round.forgers.isEmpty := by
  unfold update
  split
  · simp [Round.ofRanking, Round.hasEnded]
  · rename_i going
    rw [eq_false_of_ne_true going]
    simp only [Round.hasEnded, Bool.or_eq_true, not_or] at going
    exact (eq_false_of_ne_true going.1).symm

theorem currentForger_of_forger {d : Delegation} {x : Delegate} (seated : x ∈ d.round.forgers)
    (turn : d.round.forger = .ok x) : d.currentForger = .ok x.account := by
  have some : d.round.forgers.isEmpty = false := by simpa using List.ne_nil_of_mem seated
  rw [currentForger, some, turn]
  rfl

end Delegation

namespace Node

variable {n n' : Node}

def Turning (n : Node) : Prop := n.delegation.round.InTurn

theorem Turning.refreshed (turning : n.Turning) : n.refreshRound.Turning := Delegation.update_inTurn _ _ turning

theorem turning_endures : Endures Turning where
  alike turning _ delegation _ := by
    rw [Turning, delegation]
    exact turning
  elects := Turning.refreshed
  passes turn turning := by
    obtain ⟨d, forger, _⟩ := Delegation.currentForger_ok turn
    exact turning.refreshed.open (Round.going_of_forger forger)
  applies lands turning := by
    rw [Turning, lands.round]
    exact turning

theorem Reached.turning {genesis : AccountId} (reached : Reached genesis n) : n.Turning := by
  refine turning_endures.contains.reached (fun born => ?_) reached
  rw [Turning, (openGenesis_ok born).2.2]
  exact Nat.zero_le _

def Leaderless (n : Node) : Prop := n.refreshRound.delegation.round.forgers = []

theorem Leaderless.noForger (leaderless : n.Leaderless) :
    n.refreshRound.delegation.currentForger = .error .noForger := by
  rw [Delegation.currentForger, leaderless]
  rfl

theorem Turning.elects (turning : n.Turning) (led : ¬n.Leaderless) : ∃ d ∈ n.refreshRound.delegation.round.forgers,
    n.refreshRound.delegation.round.forger = .ok d ∧ n.refreshRound.delegation.currentForger = .ok d.account := by
  have going : n.refreshRound.delegation.round.hasEnded = false := by
    have ended := n.delegation.hasEnded_update n.ledger n.params
    rw [Bool.eq_false_iff]
    intro idle
    exact led (List.isEmpty_iff.mp (ended.symm.trans idle))
  obtain ⟨d, seated, turn⟩ := turning.refreshed.forger going
  exact ⟨d, seated, turn, Delegation.currentForger_of_forger seated turn⟩

end Node
end BlockLattice
