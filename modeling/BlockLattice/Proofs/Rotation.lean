import BlockLattice.Proofs.Landing

namespace BlockLattice

structure Commission where
  ledger : Ledger
  account : AccountId
  blueprint : Blueprint
  time : Timestamp

def Commission.forge (c : Commission) (r : Round) : Except ConsensusError (Round × Block) :=
  r.forge c.ledger c.account c.blueprint c.time

def Commission.WitnessedBy (c : Commission) (b : Block) (d : Delegate) : Prop :=
  b.owner = none ∧ ∃ a, c.ledger.account? d.account = some a ∧ b.witness = some (a.privateKey.sign b.digest)

structure Sitting where
  round : Round
  served : List (Commission × Block)

namespace Sitting

def opening (ranked : List Delegate) (seats : Nat) : Sitting := ⟨.ofRanking ranked seats, []⟩

def attempt (s : Sitting) (c : Commission) : Sitting :=
  match c.forge s.round with
  | .ok (turned, b) => ⟨turned, s.served ++ [(c, b)]⟩
  | .error _ => s

def attempts (s : Sitting) (calls : List Commission) : Sitting := calls.foldl attempt s

end Sitting

theorem Round.InTurn.hasEnded_iff {r : Round} (inTurn : r.InTurn) :
    r.hasEnded = true ↔ r.index = r.forgers.length := by
  constructor
  · intro ended
    have bound : r.index ≤ r.forgers.length := inTurn
    rw [hasEnded, Bool.or_eq_true, List.isEmpty_iff_length_eq_zero, Bool.and_eq_true, bne_iff_ne, beq_iff_eq] at ended
    rcases ended with nobody | ⟨started, whole⟩
    · omega
    · exact Nat.le_antisymm bound (Nat.le_of_dvd (by omega) (Nat.dvd_of_mod_eq_zero whole))
  · intro final
    cases going : r.hasEnded with
    | true => rfl
    | false => exact absurd final (Nat.ne_of_lt (inTurn.open going))

-- The turns of a round that have been taken are those of the first delegates of
-- the ranking, each by its own.
structure Sitting.Orderly (ranked : List Delegate) (seats : Nat) (s : Sitting) : Prop where
  forgers : s.round.forgers = ranked.take seats
  index : s.round.index = s.served.length
  within : s.served.length ≤ min ranked.length seats
  witnessed : ∀ {k : Nat} {x : Commission × Block}, s.served[k]? = some x →
    ∃ d, ranked[k]? = some d ∧ x.1.WitnessedBy x.2 d

namespace Sitting

variable {ranked : List Delegate} {seats : Nat} {s : Sitting}

theorem orderly_opening (ranked : List Delegate) (seats : Nat) : Orderly ranked seats (opening ranked seats) :=
  ⟨rfl, rfl, Nat.zero_le _, by simp [opening]⟩

namespace Orderly

theorem seated (orderly : Orderly ranked seats s) : s.round.forgers.length = min ranked.length seats := by
  rw [orderly.forgers, List.length_take, Nat.min_comm]

theorem inTurn (orderly : Orderly ranked seats s) : s.round.InTurn := by
  rw [Round.InTurn, orderly.index, orderly.seated]
  exact orderly.within

theorem ended (orderly : Orderly ranked seats s) :
    s.round.hasEnded = true ↔ s.served.length = min ranked.length seats := by
  rw [orderly.inTurn.hasEnded_iff, orderly.index, orderly.seated]

theorem forger (orderly : Orderly ranked seats s) (going : s.round.hasEnded = false) :
    ∃ d, ranked[s.served.length]? = some d ∧ s.round.forger = .ok d := by
  have inside := orderly.inTurn.open going
  have found : s.round.forgers[s.round.index]? = some s.round.forgers[s.round.index] :=
    List.getElem?_eq_getElem inside
  refine ⟨s.round.forgers[s.round.index], ?_, ?_⟩
  · rw [← found, orderly.forgers, orderly.index, List.getElem?_take_of_lt]
    rw [orderly.index, orderly.seated] at inside
    omega
  · rw [Round.forger, going, found]
    rfl

theorem forged (orderly : Orderly ranked seats s) {c : Commission} {turned : Round} {b : Block}
    (done : c.forge s.round = .ok (turned, b)) :
    s.round.hasEnded = false ∧ turned = { s.round with index := s.round.index + 1 } ∧
      ∃ d, ranked[s.served.length]? = some d ∧ s.round.forger = .ok d ∧ c.WitnessedBy b d := by
  obtain ⟨d, previous, a, turn, _, known, passed, rfl⟩ := Round.forge_ok done
  have going := Round.going_of_forger turn
  obtain ⟨x, ranks, again⟩ := orderly.forger going
  cases turn.symm.trans again
  exact ⟨going, passed, d, ranks, turn, rfl, a, known, rfl⟩

theorem attempt (orderly : Orderly ranked seats s) (c : Commission) : Orderly ranked seats (s.attempt c) := by
  unfold Sitting.attempt
  split
  · rename_i turned b done
    obtain ⟨going, rfl, d, ranks, _, witnessed⟩ := orderly.forged done
    have inside := orderly.inTurn.open going
    rw [orderly.index, orderly.seated] at inside
    refine ⟨orderly.forgers, ?_, ?_, ?_⟩
    · simp [orderly.index]
    · rw [List.length_append]
      exact inside
    · intro k x served
      rcases Nat.lt_trichotomy k s.served.length with before | now | after
      · rw [List.getElem?_append_left before] at served
        exact orderly.witnessed served
      · subst now
        rw [List.getElem?_concat_length] at served
        cases served
        exact ⟨d, ranks, witnessed⟩
      · rw [List.getElem?_eq_none (by simp; omega)] at served
        cases served
  · exact orderly

theorem attempts (orderly : Orderly ranked seats s) (calls : List Commission) :
    Orderly ranked seats (s.attempts calls) := by
  induction calls generalizing s with
  | nil => exact orderly
  | cons c rest ih => exact ih (orderly.attempt c)

end Orderly

-- Of a round for the first delegates of a ranking, after any calls: it has ended
-- if each has forged, and not before; the next call is served with the key of
-- the delegate that follows those who have, or not at all. It is served if the
-- block has its place and the ledger knows the delegate.
theorem forgers_rotate (ranked : List Delegate) (seats : Nat) (calls : List Commission) (c : Commission) :
    let s := (opening ranked seats).attempts calls
    let k := s.served.length
    let n := min ranked.length seats
    k ≤ n ∧ (s.round.hasEnded = true ↔ k = n) ∧
    (∀ (j : Nat) (x : Commission × Block), s.served[j]? = some x →
      ∃ d, ranked[j]? = some d ∧ x.1.WitnessedBy x.2 d) ∧
    (s.round.hasEnded = false → ∃ d, ranked[k]? = some d ∧ s.round.forger = .ok d ∧
      ∀ previous a, Round.previousFor c.ledger c.account c.blueprint = .ok previous →
        c.ledger.account? d.account = some a → ∃ turned b, c.forge s.round = .ok (turned, b)) ∧
    (s.round.hasEnded = true → s.round.forger = .error .roundEnded ∧ c.forge s.round = .error .roundEnded) ∧
    (∀ e, c.forge s.round = .error e → (s.attempt c).round = s.round ∧ (s.attempt c).served = s.served) ∧
    ∀ turned b, c.forge s.round = .ok (turned, b) → s.round.hasEnded = false ∧
      (s.attempt c).round = turned ∧ (s.attempt c).served = s.served ++ [(c, b)] ∧
      ∃ d, ranked[k]? = some d ∧ s.round.forger = .ok d ∧ c.WitnessedBy b d := by
  intro s k n
  have orderly : Orderly ranked seats s := (orderly_opening ranked seats).attempts calls
  refine ⟨orderly.within, orderly.ended, fun _ _ => orderly.witnessed, ?_, ?_, ?_, ?_⟩
  · intro going
    obtain ⟨d, ranks, turn⟩ := orderly.forger going
    refine ⟨d, ranks, turn, fun previous a follows known => ?_⟩
    exact ⟨_, _, Round.forge_of turn follows known c.time⟩
  · intro ended
    have none : s.round.forger = .error .roundEnded := by rw [Round.forger, if_pos ended]
    refine ⟨none, ?_⟩
    rw [Commission.forge, Round.forge, none]
    rfl
  · intro e failed
    rw [Sitting.attempt, failed]
    exact ⟨rfl, rfl⟩
  · intro turned b done
    obtain ⟨going, _, witnessed⟩ := orderly.forged done
    rw [Sitting.attempt, done]
    exact ⟨going, rfl, rfl, witnessed⟩

end Sitting

-- A node hands its round everything it has to build, and keeps what comes of it.
theorem Node.round_buildBlock (n : Node) (forger : AccountId) (r : Request) (served : List (Commission × Block)) :
    (n.perform (buildBlock forger r)).2.delegation.round =
      (Sitting.attempt ⟨n.delegation.round, served⟩ ⟨n.ledger, r.account, r.blueprint, n.clock.now⟩).round := by
  rw [perform_buildBlock, Sitting.attempt, Commission.forge]
  dsimp only
  cases n.delegation.round.forge n.ledger r.account r.blueprint n.clock.now <;> rfl

end BlockLattice
