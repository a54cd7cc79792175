import BlockLattice.Proofs.Refusals

namespace BlockLattice

namespace Ledger

theorem account_of_isDelegate {l : Ledger} {id : AccountId} (delegate : l.isDelegate id = true) :
    ∃ a, l.account? id = some a ∧ a.isDelegate = true := by
  rw [isDelegate, Option.any_eq_true] at delegate
  exact delegate

theorem isDelegate_of_account {l : Ledger} {id : AccountId} {a : Account} (known : l.account? id = some a) :
    l.isDelegate id = a.isDelegate := by
  rw [isDelegate, known]
  rfl

theorem isDelegate_modify (l : Ledger) (id : AccountId) {change : Account → Account}
    (kept : ∀ a, (change a).isDelegate = a.isDelegate) (j : AccountId) :
    (l.modifyAccount id change).isDelegate j = l.isDelegate j := by
  rw [isDelegate, isDelegate, account?_modify]
  split
  · cases l.account? j <;> simp [kept]
  · rfl

structure Alike (l l' : Ledger) : Prop where
  delegates : ∀ id, l'.isDelegate id = l.isDelegate id
  votes : ∀ id, l'.votesOf id = l.votesOf id

variable {l l' : Ledger}

theorem Alike.refl (l : Ledger) : l.Alike l := ⟨fun _ => rfl, fun _ => rfl⟩

theorem Alike.of_accounts (same : l'.accounts = l.accounts) : l.Alike l' := by
  have known : ∀ id, l'.account? id = l.account? id := by simp [account?, same]
  exact ⟨by simp [isDelegate, known], by simp [votesOf, known]⟩

theorem Alike.modify (l : Ledger) (id : AccountId) {change : Account → Account}
    (delegates : ∀ a, (change a).isDelegate = a.isDelegate) (votes : ∀ a, (change a).votes = a.votes) :
    l.Alike (l.modifyAccount id change) :=
  ⟨l.isDelegate_modify id delegates, l.votesOf_modify id votes⟩

theorem Registers.novice {keys : KeyPair} {username : String} (registers : l.Registers (.new keys) username l') :
    l'.isDelegate (Account.new keys).id = false ∧ l'.votesOf (Account.new keys).id = ∅ := by
  have known : l'.account? (Account.new keys).id = some (.new keys) := by simp [registers.account?_eq]
  exact ⟨isDelegate_of_account known, votesOf_of_account known⟩

theorem Registers.alike {keys : KeyPair} {username : String} (registers : l.Registers (.new keys) username l') :
    l.Alike l' := by
  have unknown : l.account? (Account.new keys).id = none := registers.new
  constructor
  · intro j
    by_cases same : (Account.new keys).id = j
    · rw [← same, registers.novice.1, isDelegate, unknown]
      rfl
    · simp [isDelegate, registers.account?_eq, same]
  · intro j
    by_cases same : (Account.new keys).id = j
    · rw [← same, registers.novice.2, votesOf, unknown]
    · simp [votesOf, registers.account?_eq, same]

theorem Removes.alike {id : AccountId} {a : Account} (removes : l.Removes id a l') (novice : l.isDelegate id = false)
    (abstains : l.votesOf id = ∅) : l.Alike l' := by
  constructor
  · intro j
    by_cases same : id = j
    · rw [← same, novice, isDelegate, removes.account?_eq]
      simp
    · simp [isDelegate, removes.account?_eq, same]
  · intro j
    by_cases same : id = j
    · rw [← same, abstains, votesOf, removes.account?_eq]
      simp
    · simp [votesOf, removes.account?_eq, same]

end Ledger

namespace Node

variable {n n' : Node} {e : NodeError}

theorem Spares.alike (spares : Spares n e n') : n.ledger.Alike n'.ledger := by
  rcases spares.ledger_cases with same | ⟨forger, missed⟩
  · rw [same]
    exact .refl _
  · rw [missed]
    exact .modify _ _ (fun _ => rfl) fun _ => rfl

-- What an operation makes of a property of nodes. The ledger is a reachable one
-- before and after.
def Enduring (P : Node → Prop) (n n' : Node) : Prop := Evolves n n' ∧ (n.ledger.Reachable → P n → P n')

theorem enduring_path (P : Node → Prop) : Path (Enduring P) where
  stay n := ⟨evolves_path.stay n, fun _ holds => holds⟩
  join first second := by
    refine ⟨evolves_path.join first.1 second.1, fun reachable holds => ?_⟩
    exact second.2 (reachable.leads first.1.2) (first.2 reachable holds)

theorem Contains.reached {P : Node → Prop} (inside : Contains (Enduring P)) {genesis : AccountId}
    (founded : ∀ {p clock source keys username n},
      (Node.new p clock source).perform (openGenesis keys username) = (.ok genesis, n) → P n)
    (reached : Reached genesis n) : P n := by
  induction reached with
  | started born => exact founded born
  | @operated n before op ih => exact (inside.operate n op).2 before.reachable ih

theorem enduring_serves {P : Node → Prop}
    (alike : ∀ {n n'}, P n → n'.params = n.params → n'.delegation = n.delegation → n.ledger.Alike n'.ledger → P n')
    (forge : ∀ origin r, Within (fun n n' => P n → P n') (forgeAndAppend origin r)) :
    Serves fun n n' => P n → P n' where
  path := Path.keeping P
  forge := forge
  takeBack _ _ := takeBack_within (fun _ => id) fun undone holds => by
    obtain ⟨c, shorter, undoes⟩ := Ledger.rollback_ok undone
    exact alike holds rfl rfl (.of_accounts undoes.accounts)
  record n f holds := alike holds rfl rfl (.modify _ _ (fun _ => rfl) fun _ => rfl)
  count n metrics holds := alike holds rfl rfl (.refl _)

theorem enduring_opens {P : Node → Prop}
    (alike : ∀ {n n'}, P n → n'.params = n.params → n'.delegation = n.delegation → n.ledger.Alike n'.ledger → P n')
    (serves : Serves fun n n' => P n → P n') (keys : KeyPair) (username : String) :
    Within (Enduring P) (openAccountWithKeys keys username) := by
  intro n
  refine ⟨evolves_moves.openAccountWithKeys keys username n, fun reachable holds => ?_⟩
  rw [perform_openAccountWithKeys]
  cases done : n.ledger.register (.new keys) username with
  | error e => exact holds
  | ok result =>
    obtain ⟨l, id⟩ := result
    obtain ⟨rfl, registers⟩ := Ledger.register_ok done
    have sound := (reachable.leads (Ledger.leads_register done)).sound
    have registered : P (n.withLedger l) := alike holds rfl rfl registers.alike
    have served := serves.process ⟨(Account.new keys).id, Account.openBlueprint⟩ (n.withLedger l) registered
    dsimp only
    cases ran : (n.withLedger l).perform (process ⟨(Account.new keys).id, Account.openBlueprint⟩) with
    | mk result m =>
      rw [ran] at served
      cases result with
      | ok o => exact served
      | error e =>
        have same := (process_spares sound ran).alike
        dsimp only
        rw [perform_deregister]
        cases removed : m.ledger.removeUnopened (Account.new keys).id with
        | error fault => exact served
        | ok result =>
          have removes := Ledger.removeUnopened_ok removed
          refine alike served rfl rfl (removes.alike ?_ ?_)
          · exact (same.delegates _).trans registers.novice.1
          · exact (same.votes _).trans registers.novice.2

theorem enduring_contains {P : Node → Prop}
    (alike : ∀ {n n'}, P n → n'.params = n.params → n'.delegation = n.delegation → n.ledger.Alike n'.ledger → P n')
    (serves : Serves fun n n' => P n → P n') (elects : ∀ {n}, P n → P n.refreshRound) : Contains (Enduring P) where
  path := enduring_path P
  process r n := ⟨evolves_moves.process r n, fun _ => serves.process r n⟩
  openAccountWithKeys := enduring_opens alike serves
  payout forger reward n := ⟨evolves_moves.payout forger reward n, fun _ => serves.payout forger reward n⟩
  refresh n := ⟨evolves_moves.refresh n, fun _ => elects⟩
  draw n rest := ⟨evolves_moves.draw n rest, fun _ holds => alike holds rfl rfl (.refl _)⟩
  tick n time := ⟨evolves_moves.tick n time, fun _ holds => alike holds rfl rfl (.refl _)⟩

-- The steps: an election if the round is over, the turn that passes on, the effect
-- of a block that has been placed, and what leaves delegates and votes alone.
structure Endures (P : Node → Prop) : Prop where
  alike : ∀ {n n'}, P n → n'.params = n.params → n'.delegation = n.delegation → n.ledger.Alike n'.ledger → P n'
  elects : ∀ {n}, P n → P n.refreshRound
  passes : ∀ {n forger}, n.refreshRound.delegation.currentForger = .ok forger → P n → P n.turned
  applies : ∀ {origin r n f previous block n'}, Lands origin r n f previous block n' →
    P (n.turned.withLedger (n.ledger.place r.account block)) → P n'

namespace Endures

variable {P : Node → Prop}

theorem lands (endures : Endures P) {origin : Origin} {r : Request} {f : Forged} {previous : BlockHash} {block : Block}
    (lands : Lands origin r n f previous block n') (holds : P n) : P n' := by
  apply endures.applies lands
  exact endures.alike (endures.passes lands.turn holds) rfl rfl (.of_accounts rfl)

theorem stops (endures : Endures P) (stops : Stops n e n') (holds : P n) : P n' := by
  cases stops with
  | refused => exact holds
  | leaderless => exact endures.elects holds
  | missed => exact endures.alike (endures.elects holds) rfl rfl (.modify _ _ (fun _ => rfl) fun _ => rfl)
  | passed turn => exact endures.passes turn holds

theorem serves (endures : Endures P) : Serves fun n n' => P n → P n' :=
  enduring_serves endures.alike fun _ _ => forge_within endures.lands endures.stops

theorem openAccountWithKeys (endures : Endures P) (keys : KeyPair) (username : String) :
    Within (Enduring P) (openAccountWithKeys keys username) :=
  enduring_opens endures.alike endures.serves keys username

theorem contains (endures : Endures P) : Contains (Enduring P) :=
  enduring_contains endures.alike endures.serves endures.elects

end Endures
end Node
end BlockLattice
