import BlockLattice.Proofs.Newcomers

namespace BlockLattice.Node

variable {n : Node} {g id : AccountId} {funding : Amount}

-- The node when so many delegates have been tried, and how the next one fares.
def tried (n : Node) (g : AccountId) (funding : Amount) : Nat → Node
  | 0 => n
  | k + 1 => ((n.tried g funding k).perform (bringUp g (delegateName (k + 1)) funding)).2

def attempt (n : Node) (g : AccountId) (funding : Amount) (k : Nat) : Except NodeError AccountId × Node :=
  (n.tried g funding k).perform (bringUp g (delegateName (k + 1)) funding)

def cameUp (n : Node) (g : AccountId) (funding : Amount) (count : Nat) : List AccountId :=
  (List.range count).filterMap fun k => (n.attempt g funding k).1.toOption

theorem cameUp_succ (n : Node) (g : AccountId) (funding : Amount) (count : Nat) :
    n.cameUp g funding (count + 1) = n.cameUp g funding count ++ (n.attempt g funding count).1.toOption.toList := by
  simp only [cameUp, List.range_succ, List.filterMap_append]
  cases fared : (n.attempt g funding count).1.toOption <;> simp [fared]

theorem attempt_ok {k : Nat} : (n.attempt g funding k).1 = .ok id ↔
    Steps g (delegateName (k + 1)) funding id (n.tried g funding k) (n.tried g funding (k + 1)) := by
  rw [← bringUp_ok]
  constructor
  · intro came
    rw [← came, tried, attempt]
  · intro ran
    rw [attempt, ran]

theorem mem_cameUp {count : Nat} : id ∈ n.cameUp g funding count ↔
    ∃ k < count, Steps g (delegateName (k + 1)) funding id (n.tried g funding k) (n.tried g funding (k + 1)) := by
  simp only [cameUp, List.mem_filterMap, List.mem_range, ← attempt_ok]
  refine exists_congr fun k => and_congr_right fun _ => ?_
  cases (n.attempt g funding k).1 <;> simp [Except.toOption]

theorem carryOut_bringUpFrom_cons (n : Node) (g : AccountId) (funding : Amount) (first count : Nat) :
    n.carryOut (bringUpFrom g funding first (count + 1)) =
      let early := n.perform (bringUp g (delegateName first) funding)
      let later := early.2.carryOut (bringUpFrom g funding (first + 1) count)
      (early.1.toOption.toList ++ later.1, later.2) := by
  rw [bringUpFrom, carryOut_bind, carryOut_run, carryOut_bind, carryOut_pure]

theorem carryOut_bringUpFrom_snoc (n : Node) (g : AccountId) (funding : Amount) (first count : Nat) :
    n.carryOut (bringUpFrom g funding first (count + 1)) =
      let early := n.carryOut (bringUpFrom g funding first count)
      let later := early.2.perform (bringUp g (delegateName (first + count)) funding)
      (early.1 ++ later.1.toOption.toList, later.2) := by
  induction count generalizing n first with
  | zero =>
    rw [carryOut_bringUpFrom_cons]
    simp [bringUpFrom]
  | succ count ih =>
    have next : first + 1 + count = first + (count + 1) := by omega
    simp only [carryOut_bringUpFrom_cons n g funding first, ih _ (first + 1), next, List.append_assoc]

theorem carryOut_bringUpFrom (n : Node) (g : AccountId) (funding : Amount) (count : Nat) :
    n.carryOut (bringUpFrom g funding 1 count) = (n.cameUp g funding count, n.tried g funding count) := by
  induction count with
  | zero => rfl
  | succ count ih =>
    rw [carryOut_bringUpFrom_snoc, ih, Nat.add_comm 1 count, cameUp_succ]
    rfl

theorem perform_bootstrap {tip : Block} (last : n.ledger.latest? g = some tip) (count : Nat) :
    n.perform (bootstrap g count) =
      match fundingFor n.params tip.balance count with
      | none => (.ok [], n)
      | some funding =>
        if canList count then (.ok (n.cameUp g funding count), n.tried g funding count)
        else (.error .listTooLong, n) := by
  rw [bootstrap, perform_bind, perform_get]
  dsimp only
  rw [last, Option.bind_some]
  cases fundingFor n.params tip.balance count with
  | none => rfl
  | some funding =>
    have ran := perform_lift n (bringUpFrom g funding 1 count)
    rw [carryOut_bringUpFrom] at ran
    dsimp only
    split
    · exact ran
    · rfl

theorem Contains.tried {R : Node → Node → Prop} (inside : Contains R) (n : Node) (g : AccountId) (funding : Amount)
    (k : Nat) : R n (n.tried g funding k) := by
  induction k with
  | zero => exact inside.path.stay n
  | succ k ih => exact inside.path.join ih (inside.bringUp g (delegateName (k + 1)) funding _)

theorem tried_reachable (reachable : n.ledger.Reachable) (g : AccountId) (funding : Amount) (k : Nat) :
    (n.tried g funding k).ledger.Reachable :=
  reachable.leads (evolves_moves.contains.tried n g funding k).2

theorem tried_known (reachable : n.ledger.Reachable) (opened : n.ledger.isOpened id = true) (g : AccountId)
    (funding : Amount) (k : Nat) : (n.tried g funding k).ledger.isRegistered id = true := by
  have still := ((opened_lasts id).contains.tried n g funding k).2 reachable opened
  exact (tried_reachable reachable g funding k).sound.registered still

theorem tried_spends (reachable : n.ledger.Reachable) (opened : n.ledger.isOpened g = true) (funding : Amount) (k : Nat) :
    n.ledger.balance g ≤
      (n.tried g funding k).ledger.balance g + k * (funding.raw + n.params.transactionFee.raw) := by
  induction k with
  | zero => exact Nat.le_add_right ..
  | succ k ih =>
    have spent := bringUp_spends (tried_reachable reachable g funding k) (tried_known reachable opened g funding k)
      (delegateName (k + 1)) funding
    rw [(evolves_moves.contains.tried n g funding k).1] at spent
    rw [tried, Nat.succ_mul]
    omega

-- All the cuts and all the fees are no more than what was there to be cut.
theorem fundingFor_affords {p : Params} {balance : Amount} {count : Nat} (cut : fundingFor p balance count = some funding)
    (enough : p.transactionFee.raw * count ≤ balance.raw) :
    count * (funding.raw + p.transactionFee.raw) ≤ balance.raw := by
  unfold fundingFor Amount.split at cut
  split at cut
  · cases cut
  · cases cut
    have fees : (p.transactionFee.saturatingMul count).raw = p.transactionFee.raw * count := by
      rw [Amount.saturatingMul, Amount.raw_clamp, Nat.min_eq_left]
      exact Nat.le_sub_one_of_lt (Nat.lt_of_le_of_lt enough balance.raw_lt)
    have cuts := Nat.mul_div_le (balance.raw - p.transactionFee.raw * count) count
    simp only [Amount.raw_saturatingSub, fees]
    rw [Nat.mul_add, Nat.mul_comm count p.transactionFee.raw]
    omega

theorem tried_affords (reachable : n.ledger.Reachable) (opened : n.ledger.isOpened g = true) {count k : Nat}
    (enough : count * (funding.raw + n.params.transactionFee.raw) ≤ n.ledger.balance g) (due : k < count) :
    funding.raw + n.params.transactionFee.raw ≤ (n.tried g funding k).ledger.balance g := by
  have spent := tried_spends reachable opened funding k
  have left := Nat.mul_le_mul_right (funding.raw + n.params.transactionFee.raw) due
  rw [Nat.succ_mul] at left
  omega

theorem tried_unshort (reachable : n.ledger.Reachable) (opened : n.ledger.isOpened g = true) {count k : Nat}
    (enough : count * (funding.raw + n.params.transactionFee.raw) ≤ n.ledger.balance g) (due : k < count) {m m' : Node}
    {e : NodeError} (opening : (n.tried g funding k).perform (openAccount (delegateName (k + 1))) = (.ok id, m))
    (refused : m.perform (transfer g id funding) = (.error e, m')) : e.Unshort := by
  obtain ⟨⟨params, _⟩, unharmed⟩ := (harmless_openAccount (j := g) (delegateName (k + 1))).after opening
  have kept := (unharmed (tried_reachable reachable g funding k)).balance
  have affords := tried_affords reachable opened enough due
  refine transfer_unshort ?_ refused
  rw [params, (evolves_moves.contains.tried n g funding k).1]
  exact Nat.le_trans affords kept

theorem tried_raised (reachable : n.ledger.Reachable) (opened : n.ledger.isOpened g = true) {count k : Nat}
    (came : (n.attempt g funding k).1 = .ok id) (due : k < count) :
    (n.tried g funding count).ledger.Raised id (delegateName (k + 1)) := by
  have ran := bringUp_ok.mpr (attempt_ok.mp came)
  obtain ⟨unknown, raised⟩ := bringUp_raised (tried_reachable reachable g funding k) ran
  have apart : g ≠ id := by
    rintro rfl
    rw [tried_known reachable opened g funding k] at unknown
    cases unknown
  -- From then on it is one of the accounts that nobody else harms.
  induction count, due using Nat.le_induction with
  | base => exact raised
  | succ count _ ih =>
    have reachable := tried_reachable reachable g funding count
    rw [tried]
    exact bringUp_keeps reachable ih apart (delegateName (count + 1)) funding

structure CameUp (n : Node) (id : AccountId) (username : String) : Prop where
  named : n.ledger.username? id = some username
  found : n.ledger.idByUsername? username = some id
  opened : n.ledger.isOpened id = true
  registered : n.delegation.isRegistered id = true
  account : ∃ a, n.ledger.account? id = some a ∧ a.isDelegate = true ∧ a.share.points = 10000 ∧ id ∈ a.votes

theorem CameUp.of_raised (reachable : n.ledger.Reachable) (enrolled : n.Enrolled) {username : String}
    (raised : n.ledger.Raised id username) (plain : Lowercase.text username = username) : n.CameUp id username where
  named := reachable.directory.inverse.mp raised.housed.1
  found := raised.housed.1.idByUsername? reachable.directory plain
  opened := raised.housed.2
  registered := (enrolled id).trans raised.enlisted.isDelegate
  account := by
    obtain ⟨a, known, flag, share⟩ := raised.enlisted
    have loyal := raised.loyal
    rw [Ledger.votesOf_of_account known] at loyal
    exact ⟨a, known, flag, by rw [share]; rfl, loyal⟩

theorem CameUp.biUnique (n : Node) : Relator.BiUnique fun id i => n.CameUp id (delegateName i) := by
  constructor
  · intro _ _ _ one other
    exact Option.some.inj (one.found.symm.trans other.found)
  · intro _ _ _ one other
    exact delegateName_inj (Option.some.inj (one.named.symm.trans other.named))

def numbers (n : Node) (g : AccountId) (funding : Amount) (count : Nat) : List Nat :=
  (List.range count).filterMap fun k => (n.attempt g funding k).1.toOption.map fun _ => k + 1

theorem pairwise_numbers (n : Node) (g : AccountId) (funding : Amount) (count : Nat) :
    (n.numbers g funding count).Pairwise (· < ·) := by
  rw [numbers, List.pairwise_filterMap]
  refine List.pairwise_lt_range.imp fun {k m} before i came j later => ?_
  obtain ⟨_, _, rfl⟩ := Option.map_eq_some_iff.mp came
  obtain ⟨_, _, rfl⟩ := Option.map_eq_some_iff.mp later
  exact Nat.succ_lt_succ before

theorem mem_numbers {count i : Nat} (listed : i ∈ n.numbers g funding count) : 1 ≤ i ∧ i ≤ count := by
  obtain ⟨k, due, came⟩ := List.mem_filterMap.mp listed
  obtain ⟨_, _, rfl⟩ := Option.map_eq_some_iff.mp came
  have due := List.mem_range.mp due
  omega

theorem cameUp_numbered {P : AccountId → Nat → Prop} {count : Nat}
    (holds : ∀ k < count, ∀ id, (n.attempt g funding k).1 = .ok id → P id (k + 1)) :
    List.Forall₂ P (n.cameUp g funding count) (n.numbers g funding count) := by
  have same : List.Forall₂ (fun k m => k = m ∧ k < count) (List.range count) (List.range count) :=
    List.forall₂_same.mpr fun k due => ⟨rfl, List.mem_range.mp due⟩
  refine List.rel_filterMap ?_ same
  rintro k _ ⟨rfl, due⟩
  have numbered := holds k due
  dsimp only
  cases fared : (n.attempt g funding k).1 with
  | error e => exact .none
  | ok id => exact .some (numbered id fared)

theorem bootstrap_raises {genesis : AccountId} (reached : Reached genesis n) (opened : n.ledger.isOpened g = true)
    {count : Nat} {ids : List AccountId} {n' : Node} (done : n.perform (bootstrap g count) = (.ok ids, n')) :
    ∃ listed : List Nat, listed.Pairwise (· < ·) ∧ (∀ i ∈ listed, 1 ≤ i ∧ i ≤ count) ∧
      List.Forall₂ (fun id i => n'.CameUp id (delegateName i)) ids listed := by
  have after := reached.operated (.bootstrap g count)
  rw [operate, done] at after
  have enrolled := enrolled_endures.contains.reached enrolled_born after
  obtain ⟨tip, last⟩ := reached.sound.latest?_of_isOpened opened
  rw [perform_bootstrap last] at done
  split at done
  · cases done
    exact ⟨[], .nil, by simp, .nil⟩
  · rename_i funding _
    split at done
    · cases done
      refine ⟨n.numbers g funding count, pairwise_numbers .., fun _ => mem_numbers, ?_⟩
      refine cameUp_numbered fun k due id came => ?_
      exact .of_raised after.reachable enrolled (tried_raised reached.reachable opened came due)
        (Lowercase.text_steady (delegateName_steady (k + 1)))
    · cases done

-- A network is brought up in one go. If the account that pays owns the fees of all
-- transfers to begin with, none of these is refused for want of funds, whatever else
-- may fail. Each delegate is tried when those before it have been, however they fared;
-- it is returned if its four steps go well, and those that are come in the order of
-- their numbers.
theorem bootstrap_delegates {genesis : AccountId} (reached : Reached genesis n) (opened : n.ledger.isOpened g = true)
    (count : Nat) : ∃ tip, n.ledger.latest? g = some tip ∧
    (∀ funding, fundingFor n.params tip.balance count = some funding →
      n.params.transactionFee.raw * count ≤ tip.balance.raw → ∀ k < count, ∀ id m,
        (n.tried g funding k).perform (openAccount (delegateName (k + 1))) = (.ok id, m) →
          ∀ e m', m.perform (transfer g id funding) = (.error e, m') → e.isShortage = false) ∧
    (n.perform (bootstrap g count) =
      match fundingFor n.params tip.balance count with
      | none => (.ok [], n)
      | some funding =>
        if canList count then (.ok (n.cameUp g funding count), n.tried g funding count)
        else (.error .listTooLong, n)) ∧
    (∀ funding id, id ∈ n.cameUp g funding count ↔
      ∃ k < count, Steps g (delegateName (k + 1)) funding id (n.tried g funding k) (n.tried g funding (k + 1))) ∧
    ∀ ids n', n.perform (bootstrap g count) = (.ok ids, n') → ids.Nodup ∧
      ∃ listed : List Nat, listed.Pairwise (· < ·) ∧ (∀ i ∈ listed, 1 ≤ i ∧ i ≤ count) ∧
        List.Forall₂ (fun id i => n'.CameUp id (delegateName i)) ids listed := by
  obtain ⟨tip, last⟩ := reached.sound.latest?_of_isOpened opened
  refine ⟨tip, last, ?_, perform_bootstrap last count, fun _ _ => mem_cameUp, fun ids n' done => ?_⟩
  · intro funding cut enough k due id m opening e m' refused
    have affords := fundingFor_affords cut enough
    rw [← Ledger.balance_of_latest last] at affords
    exact tried_unshort reached.reachable opened affords due opening refused
  · obtain ⟨listed, ordered, within, came⟩ := bootstrap_raises reached opened done
    have once : listed.Nodup := ordered.imp Nat.ne_of_lt
    exact ⟨(List.rel_nodup (CameUp.biUnique n') came).mpr once, listed, ordered, within, came⟩

theorem lone_affords : lone.ledger.isOpened loneId = true ∧ ∃ tip funding, lone.ledger.latest? loneId = some tip ∧
    fundingFor lone.params tip.balance 2 = some funding ∧ lone.params.transactionFee.raw * 2 ≤ tip.balance.raw := by
  obtain ⟨l₁, b₀, b₁, b₂, founds⟩ := lone_founded
  have last : lone.ledger.latest? loneId = some b₂ := by
    rw [founds.after, Ledger.latest?_modify, Ledger.latest?_place, if_pos rfl]
  have balance : b₂.balance = Params.standard.genesisBalance := by rw [Block.balance, founds.change]; rfl
  have params : lone.params = .standard := (openGenesis_ok lone_born).1
  obtain ⟨funding, cut⟩ := Option.isSome_iff_exists.mp
    (show (fundingFor .standard Params.standard.genesisBalance 2).isSome = true by decide)
  obtain ⟨c, held, _⟩ := lone_reached.sound.chain?_of_latest last
  refine ⟨by rw [Ledger.isOpened_eq, held]; rfl, b₂, funding, last, ?_, ?_⟩
  · rw [params, balance]
    exact cut
  · rw [params, balance]
    decide

theorem lone_brought_up : ∃ tip funding, lone.ledger.latest? loneId = some tip ∧
    fundingFor lone.params tip.balance 2 = some funding ∧ lone.params.transactionFee.raw * 2 ≤ tip.balance.raw ∧
    lone.perform (bootstrap loneId 2) = (.ok (lone.cameUp loneId funding 2), lone.tried loneId funding 2) ∧
    (lone.cameUp loneId funding 2).Nodup ∧
    ∀ k < 2, ∀ id m, (lone.tried loneId funding k).perform (openAccount (delegateName (k + 1))) = (.ok id, m) →
      ∀ e m', m.perform (transfer loneId id funding) = (.error e, m') → e.isShortage = false := by
  obtain ⟨opened, tip, funding, last, cut, enough⟩ := lone_affords
  obtain ⟨tip', last', unshort, ran, _, came⟩ := bootstrap_delegates lone_reached opened 2
  obtain rfl : tip' = tip := Option.some.inj (last'.symm.trans last)
  rw [cut] at ran
  exact ⟨tip', funding, last, cut, enough, ran, (came _ _ ran).1, unshort funding cut enough⟩

end BlockLattice.Node
