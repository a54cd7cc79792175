import BlockLattice.Proofs.LedgerViews

namespace BlockLattice

-- What an account pays for a block, beside the amount that the block moves.
def Payload.cost (p : Params) : Payload → Amount
  | .opening => .zero
  | .send _ => p.transactionFee
  | .receive _ => .zero
  | .change _ => p.changeCost
  | .delegate _ => p.delegateCost

namespace Ledger

theorem debit_ok {available needed left : Amount} (done : debit available needed = .ok left) :
    available.raw = left.raw + needed.raw := by
  unfold debit at done
  split at done
  · rename_i d found
    cases done
    exact (Amount.checkedSub_eq_some.mp found).symm
  · cases done

theorem credit_ok {balance amount total : Amount} (done : credit balance amount = .ok total) :
    total.raw = balance.raw + amount.raw := by
  unfold credit at done
  split at done
  · rename_i t found
    cases done
    exact Amount.checkedAdd_eq_some.mp found
  · cases done

theorem tipBalance_ok {l : Ledger} {id : AccountId} {bp : Blueprint} {tip : Option Amount}
    (found : l.tipBalance id bp = .ok tip) :
    (bp.previous = none ∧ l.latest? id = none ∧ tip = none) ∨
      ∃ b, bp.previous = some b.hash ∧ l.latest? id = some b ∧ tip = some b.balance := by
  unfold tipBalance at found
  split at found
  · cases found
  · split at found
    · rename_i start bare
      cases found
      exact .inl ⟨start, bare, rfl⟩
    · cases found
    · cases found
    · rename_i previous b builds last
      split at found
      · rename_i same
        cases found
        exact .inr ⟨b, by rw [builds, same], last, rfl⟩
      · cases found

theorem tipBalance_raw {l : Ledger} {id : AccountId} {bp : Blueprint} {tip : Option Amount}
    (found : l.tipBalance id bp = .ok tip) : (tip.getD .zero).raw = l.balance id := by
  rcases tipBalance_ok found with ⟨_, bare, rfl⟩ | ⟨b, _, last, rfl⟩
  · rw [balance, bare]; rfl
  · rw [balance_of_latest last]; rfl

structure Settles (p : Params) (before : Nat) (bp : Blueprint) : Prop where
  earns : ∀ source, bp.payload = .receive source → bp.balance.raw = before + bp.amount.raw
  pays : (∀ source, bp.payload ≠ .receive source) → bp.payload ≠ .opening →
    before = bp.balance.raw + (bp.amount.raw + (bp.payload.cost p).raw)
  opens : bp.payload = .opening → bp.balance = .zero
  still : movesValue bp.payload = false → bp.amount.raw = 0

theorem checkBalance_ok {p : Params} {tip : Option Amount} {bp : Blueprint}
    (checked : checkBalance p tip bp = .ok ()) (placed : bp.payload = .opening ↔ bp.previous = none) :
    balanceAfter p (tip.getD .zero) bp = .ok bp.balance ∧ (movesValue bp.payload = false → bp.amount.raw = 0) := by
  have same : (bp.payload == .opening) = bp.previous.isNone := by
    rw [Bool.eq_iff_iff, beq_iff_eq, Option.isNone_iff_eq_none]
    exact placed
  unfold checkBalance at checked
  rw [same, bne_self_eq_false] at checked
  simp only [Bool.false_eq_true, ↓reduceIte] at checked
  cases expected : balanceAfter p (tip.getD .zero) bp with
  | error e => rw [expected] at checked; cases checked
  | ok balance =>
    rw [expected] at checked
    simp only [bind, Except.bind] at checked
    split at checked
    · cases checked
    · rename_i still
      split at checked
      · cases checked
      · rename_i same
        refine ⟨by rw [Decidable.not_not.mp same], fun unmoved => ?_⟩
        simpa [unmoved, Amount.isZero] using still

theorem checkBalance_settles {p : Params} {tip : Option Amount} {bp : Blueprint}
    (checked : checkBalance p tip bp = .ok ()) (placed : bp.payload = .opening ↔ bp.previous = none) :
    Settles p (tip.getD .zero).raw bp := by
  obtain ⟨after, still⟩ := checkBalance_ok checked placed
  unfold balanceAfter at after
  refine ⟨?_, ?_, ?_, still⟩
  · intro source receives
    rw [receives] at after
    exact credit_ok after
  · intro other later
    cases payload : bp.payload with
    | opening => exact absurd payload later
    | receive source => exact absurd payload (other source)
    | send destination =>
      rw [payload] at after
      cases needing : credit bp.amount p.transactionFee with
      | error e => rw [needing] at after; cases after
      | ok needed =>
        rw [needing] at after
        have left := debit_ok after
        rw [credit_ok needing] at left
        exact left
    | change changes =>
      rw [payload] at after still
      rw [still rfl, Nat.zero_add]
      exact debit_ok after
    | delegate share =>
      rw [payload] at after still
      rw [still rfl, Nat.zero_add]
      exact debit_ok after
  · intro opens
    rw [opens] at after
    exact (Except.ok.inj after).symm

structure Admits (l : Ledger) (p : Params) (id : AccountId) (bp : Blueprint) : Prop where
  unrewarded : bp.payload ≠ .receive none
  builds : (bp.previous = none ∧ l.latest? id = none) ∨ ∃ b, bp.previous = some b.hash ∧ l.latest? id = some b
  allowed : l.checkPayload p id bp = .ok ()
  settles : (bp.payload = .opening ↔ bp.previous = none) → Settles p (l.balance id) bp

theorem check_ok {l : Ledger} {p : Params} {id : AccountId} {bp : Blueprint} (checked : l.check p id bp = .ok ()) :
    l.Admits p id bp := by
  unfold check at checked
  split at checked
  · cases checked
  · rename_i unrewarded
    cases found : l.tipBalance id bp with
    | error e => rw [found] at checked; cases checked
    | ok tip =>
      cases allowed : l.checkPayload p id bp with
      | error e => rw [found, allowed] at checked; cases checked
      | ok _ =>
        rw [found, allowed] at checked
        refine ⟨unrewarded, ?_, allowed, fun placed => ?_⟩
        · rcases tipBalance_ok found with ⟨start, bare, _⟩ | ⟨b, builds, last, _⟩
          · exact .inl ⟨start, bare⟩
          · exact .inr ⟨b, builds, last⟩
        · rw [← tipBalance_raw found]
          exact checkBalance_settles checked placed

theorem checkReward_ok {l : Ledger} {id : AccountId} {bp : Blueprint} (checked : l.checkReward id bp = .ok ()) :
    bp.payload = .receive none ∧ (∃ b, bp.previous = some b.hash ∧ l.latest? id = some b) ∧
      bp.balance.raw = l.balance id + bp.amount.raw := by
  unfold checkReward at checked
  split at checked
  · cases checked
  · rename_i reward
    cases found : l.tipBalance id bp with
    | error e => rw [found] at checked; cases checked
    | ok tip =>
      rw [found] at checked
      rcases tipBalance_ok found with ⟨_, _, rfl⟩ | ⟨b, builds, last, rfl⟩
      · cases checked
      · simp only [bind, Except.bind] at checked
        cases crediting : credit b.balance bp.amount with
        | error e => rw [crediting] at checked; cases checked
        | ok expected =>
          rw [crediting] at checked
          dsimp only at checked
          split at checked
          · cases checked
          · rename_i same
            refine ⟨Decidable.not_not.mp reward, ⟨b, builds, last⟩, ?_⟩
            rw [balance_of_latest last, Decidable.not_not.mp same]
            exact credit_ok crediting

structure Receivable (l : Ledger) (p : Params) (id : AccountId) (source : BlockHash) (amount : Amount) : Prop where
  unreceived : l.received[source]? = none
  moved : ∃ send before, l.block? source = some send ∧ send.destination? = some id ∧
    l.block? send.previous = some before ∧
    before.balance.raw = send.balance.raw + (amount.raw + p.transactionFee.raw)

theorem sentAmount?_eq_some {l : Ledger} {p : Params} {source : BlockHash} {send : Block} {amount : Amount}
    (found : l.block? source = some send) (sent : l.sentAmount? p source = some amount) :
    ∃ before, l.block? send.previous = some before ∧
      before.balance.raw = send.balance.raw + (amount.raw + p.transactionFee.raw) := by
  unfold sentAmount? at sent
  rw [found] at sent
  simp only [bind, Option.bind_eq_some_iff, Option.bind_some] at sent
  obtain ⟨_, _, before, earlier, moved, dropped, net⟩ := sent
  have gross := Amount.checkedSub_eq_some.mp dropped
  have left := Amount.checkedSub_eq_some.mp net
  exact ⟨before, earlier, by omega⟩

theorem sentAmount?_of {l : Ledger} {p : Params} {source : BlockHash} {send before : Block} {d : AccountId}
    {amount : Amount} (found : l.block? source = some send) (sends : send.destination? = some d)
    (earlier : l.block? send.previous = some before)
    (moved : before.balance.raw = send.balance.raw + (amount.raw + p.transactionFee.raw)) :
    l.sentAmount? p source = some amount := by
  have bound := before.balance.raw_lt
  have gross : before.balance.checkedSub send.balance =
      some ⟨amount.raw + p.transactionFee.raw, by omega⟩ := Amount.checkedSub_eq_some.mpr (by dsimp only; omega)
  have net : (⟨amount.raw + p.transactionFee.raw, by omega⟩ : Amount).checkedSub p.transactionFee = some amount :=
    Amount.checkedSub_eq_some.mpr rfl
  simp only [sentAmount?, found, sends, earlier, gross, net, bind, Option.bind]

theorem checkPayload_receive_ok {l : Ledger} {p : Params} {id : AccountId} {bp : Blueprint} {source : BlockHash}
    (receives : bp.payload = .receive (some source)) (allowed : l.checkPayload p id bp = .ok ()) :
    l.Receivable p id source bp.amount := by
  unfold checkPayload at allowed
  rw [receives] at allowed
  dsimp only at allowed
  cases checked : l.checkSource id source with
  | error e => rw [checked] at allowed; cases allowed
  | ok _ =>
    rw [checked] at allowed
    simp only [bind, Except.bind] at allowed
    obtain ⟨send, found, sends, unreceived⟩ := checkSource_ok_iff.mp checked
    cases sent : l.sentAmount? p source with
    | none => rw [sent] at allowed; cases allowed
    | some amount =>
      rw [sent] at allowed
      dsimp only at allowed
      split at allowed
      · cases allowed
      · rename_i same
        obtain ⟨before, earlier, moved⟩ := sentAmount?_eq_some found sent
        rw [Decidable.not_not.mp same] at moved
        exact ⟨unreceived, send, before, found, sends, earlier, moved⟩

theorem checkPayload_delegate_ok {l : Ledger} {p : Params} {id : AccountId} {bp : Blueprint} {share : Share}
    (registers : bp.payload = .delegate share) (allowed : l.checkPayload p id bp = .ok ()) :
    share.points.toNat ≤ Share.whole := by
  unfold checkPayload at allowed
  rw [registers] at allowed
  dsimp only at allowed
  split at allowed
  · cases allowed
  · split at allowed
    · cases allowed
    · rename_i within
      exact Nat.not_lt.mp within

end Ledger
end BlockLattice
