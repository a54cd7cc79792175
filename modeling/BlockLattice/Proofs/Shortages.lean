import BlockLattice.Proofs.Acceptance

-- When funds are said to be short. The funds are counted where a blueprint is made
-- and where it is checked, and nowhere after that, so that who owns enough for a
-- transfer may be refused it for many reasons, but not for this one.
namespace BlockLattice

def Refuses {ε α : Type} (P : ε → Prop) (x : Except ε α) : Prop := ∀ e, x = .error e → P e

namespace Refuses

variable {ε α β : Type} {P : ε → Prop} {x : Except ε α} {f : α → Except ε β}

theorem ok (a : α) : Refuses P (.ok a : Except ε α) := by
  intro e refused
  cases refused

theorem error {e : ε} (allowed : P e) : Refuses P (.error e : Except ε α) := by
  intro e refused
  cases refused
  exact allowed

theorem bind (first : Refuses P x) (second : ∀ a, x = .ok a → Refuses P (f a)) : Refuses P (x >>= f) := by
  intro e refused
  cases ran : x with
  | error e' =>
    rw [ran] at refused
    cases refused
    exact first _ ran
  | ok a =>
    rw [ran] at refused
    exact second a ran e refused

end Refuses

def ValidationError.isShortage : ValidationError → Bool
  | .insufficientFunds .. => true
  | _ => false

def LedgerError.isShortage : LedgerError → Bool
  | .insufficientFunds .. => true
  | _ => false

def NodeError.isShortage : NodeError → Bool
  | .validation e => e.isShortage
  | .ledger e => e.isShortage
  | .appendFailed e => e.isShortage
  | _ => false

def ValidationError.Unshort (e : ValidationError) : Prop := e.isShortage = false
def LedgerError.Unshort (e : LedgerError) : Prop := e.isShortage = false
def NodeError.Unshort (e : NodeError) : Prop := e.isShortage = false

theorem Chain.checkAppend_unshort (c : Chain) (b : Block) : Refuses LedgerError.Unshort (c.checkAppend b) := by
  unfold checkAppend
  split
  · split
    · exact .ok _
    · exact .error rfl
  · exact .error rfl
  · exact .error rfl
  · split
    · exact .ok _
    · exact .error rfl

namespace Ledger

open LedgerError (Unshort)

variable (l : Ledger) (p : Params) (id : AccountId) (bp : Blueprint)

theorem tipBalance_unshort : Refuses Unshort (l.tipBalance id bp) := by
  unfold tipBalance
  split
  · exact .error rfl
  · split
    · exact .ok _
    · exact .error rfl
    · exact .error rfl
    · split
      · exact .ok _
      · exact .error rfl

theorem checkSource_unshort (s : BlockHash) : Refuses Unshort (l.checkSource id s) := by
  unfold checkSource
  split
  · exact .error rfl
  · split
    · exact .error rfl
    · split
      · exact .error rfl
      · split
        · exact .error rfl
        · exact .ok _

theorem checkVotes_unshort (changes : List VoteChange) : Refuses Unshort (l.checkVotes p id changes) := by
  unfold checkVotes
  dsimp only
  split
  · exact .error rfl
  · split
    · exact .error rfl
    · split
      · exact .error rfl
      · exact .ok _

theorem checkPayload_unshort : Refuses Unshort (l.checkPayload p id bp) := by
  unfold checkPayload
  split
  · exact .ok _
  · split
    · exact .error rfl
    · split
      · exact .error rfl
      · exact .ok _
  · exact .ok _
  · refine .bind (l.checkSource_unshort id _) fun _ _ => ?_
    split
    · exact .error rfl
    · split
      · exact .error rfl
      · exact .ok _
  · exact l.checkVotes_unshort p id _
  · split
    · exact .error rfl
    · split
      · exact .error rfl
      · exact .ok _

theorem credit_unshort (balance amount : Amount) : Refuses Unshort (credit balance amount) := by
  unfold credit
  split
  · exact .ok _
  · exact .error rfl

theorem checkBalance_unshort {tip : Option Amount} (paid : Refuses Unshort (balanceAfter p (tip.getD .zero) bp)) :
    Refuses Unshort (checkBalance p tip bp) := by
  unfold checkBalance
  dsimp only
  split
  · exact .ok _
  · refine .bind paid fun expected _ => ?_
    split
    · exact .error rfl
    · split
      · exact .error rfl
      · exact .ok _

theorem check_unshort
    (paid : ∀ tip, l.tipBalance id bp = .ok tip → Refuses Unshort (balanceAfter p (tip.getD .zero) bp)) :
    Refuses Unshort (l.check p id bp) := by
  unfold check
  dsimp only
  split
  · exact .error rfl
  · refine .bind (l.tipBalance_unshort id bp) fun tip found => ?_
    exact .bind (l.checkPayload_unshort p id bp) fun _ _ => checkBalance_unshort p bp (paid tip found)

theorem check_receive_unshort {source : Option BlockHash} (receives : bp.payload = .receive source) :
    Refuses Unshort (l.check p id bp) := by
  refine l.check_unshort p id bp fun tip _ => ?_
  rw [balanceAfter, receives]
  exact credit_unshort _ _

theorem append_unshort (b : Block) : Refuses Unshort (l.append id b) := by
  unfold append
  dsimp only
  split
  · exact .error rfl
  · refine .bind (Chain.checkAppend_unshort _ b) fun _ _ => .bind ?_ fun _ _ => ?_
    · unfold checkSourceOf
      split
      · exact l.checkSource_unshort id _
      · exact .ok _
    · split
      · exact .error rfl
      · exact .ok _

theorem rollback_unshort (hash : BlockHash) : Refuses Unshort (l.rollback id hash) := by
  unfold rollback
  split
  · exact .error rfl
  · split
    · split
      · exact .error rfl
      · exact .error rfl
    · split
      · exact .error rfl
      · split
        · exact .error rfl
        · exact .ok _

end Ledger

namespace Account

open ValidationError (Unshort)

variable (a : Account) (p : Params) (amount : Amount) (tip : Block)

theorem checkTip_unshort : Refuses Unshort (a.checkTip tip) := by
  unfold checkTip
  split
  · exact .ok _
  · exact .error rfl

theorem credit_unshort (balance amount : Amount) : Refuses Unshort (credit balance amount) := by
  unfold credit
  split
  · exact .ok _
  · exact .error rfl

theorem receiveBlueprint_unshort (source : Block) (key : PublicKey) :
    Refuses Unshort (a.receiveBlueprint amount tip source key) := by
  unfold receiveBlueprint
  refine .bind (a.checkTip_unshort tip) fun _ _ => ?_
  dsimp only
  split
  · exact .error rfl
  · split
    · exact .error rfl
    · exact .bind (credit_unshort _ _) fun _ _ => .ok _

theorem sendBlueprint_unshort (d : AccountId) (enough : amount.raw + p.transactionFee.raw ≤ tip.balance.raw) :
    Refuses Unshort (a.sendBlueprint p amount d tip) := by
  unfold sendBlueprint
  refine .bind (a.checkTip_unshort tip) fun _ _ => .bind (credit_unshort _ _) fun needed total => ?_
  have sum := Amount.checkedAdd_eq_some.mp (credit_eq_ok.mp total)
  have paid : tip.balance.checkedSub needed = some (tip.balance.saturatingSub needed) :=
    Amount.checkedSub_eq_some.mpr (Nat.sub_add_cancel (by omega))
  rw [debit_eq_ok.mpr paid]
  exact .ok _

theorem verify_of_checkTip {a : Account} {tip : Block} (checked : a.checkTip tip = .ok ()) :
    tip.verify a.publicKey = true := by
  unfold checkTip at checked
  split at checked
  · assumption
  · cases checked

theorem verify_of_sendBlueprint {a : Account} {p : Params} {amount : Amount} {tip : Block} {d : AccountId}
    {bp : Blueprint} (made : a.sendBlueprint p amount d tip = .ok bp) : tip.verify a.publicKey = true := by
  unfold sendBlueprint at made
  obtain ⟨_, checked, _⟩ := bind_eq_ok.mp made
  exact verify_of_checkTip checked

theorem verify_of_delegateBlueprint {a : Account} {p : Params} {tip : Block} {percent : Float} {bp : Blueprint}
    (made : a.delegateBlueprint p tip percent = .ok bp) : tip.verify a.publicKey = true := by
  unfold delegateBlueprint at made
  obtain ⟨_, checked, _⟩ := bind_eq_ok.mp made
  exact verify_of_checkTip checked

end Account

namespace Node

open NodeError (Unshort)

variable {n n' : Node} {r : Request} {e : NodeError}

theorem forgeAndAppend_unshort (checks : Refuses LedgerError.Unshort (n.ledger.check n.params r.account r.blueprint))
    (refused : n.perform (forgeAndAppend .client r) = (.error e, n')) : Unshort e := by
  by_contra short
  obtain ⟨cause, failed, rfl, _⟩ := forgeAndAppend_checked (P := Unshort) (fun _ => rfl) (fun _ => rfl)
    (fun _ => rfl) (fun {l id b e} => l.append_unshort id b e) short refused
  exact short (checks cause failed)

theorem pairReceive_unshort (send : BlockHash) (sender destination : AccountId) (amount : Amount) :
    Fails Unshort (pairReceive send sender destination amount) := by
  intro n e n' refused
  unfold pairReceive at refused
  rcases perform_bind_error.mp refused with missing | ⟨receiver, m, receiving, refused⟩
  · exact Fails.account (P := Unshort) rfl n e n' missing
  obtain ⟨_, rfl⟩ := perform_account_ok.mp receiving
  rcases perform_bind_error.mp refused with missing | ⟨previous, m, tipping, refused⟩
  · exact Fails.tip (P := Unshort) rfl n e n' missing
  obtain ⟨_, rfl⟩ := perform_tip_ok.mp tipping
  rw [perform_bind, perform_get] at refused
  dsimp only at refused
  split at refused
  · cases refused
    rfl
  rcases perform_bind_error.mp refused with missing | ⟨a, m, sending, refused⟩
  · exact Fails.account (P := Unshort) rfl n e n' missing
  obtain ⟨_, rfl⟩ := perform_account_ok.mp sending
  rcases perform_bind_error.mp refused with invalid | ⟨bp, m, making, refused⟩
  · obtain ⟨⟨cause, failed, rfl⟩, _⟩ := perform_raise_error.mp invalid
    exact receiver.receiveBlueprint_unshort _ _ _ _ cause failed
  obtain ⟨made, rfl⟩ := perform_raise_ok.mp making
  obtain ⟨_, _, receives, _⟩ := receiveBlueprint_ok made
  exact forgeAndAppend_unshort (n.ledger.check_receive_unshort n.params destination bp receives) refused

theorem settle_unshort {send : BlockHash} {sender destination : AccountId} {amount : Amount}
    (refused : n.perform (settle send sender destination amount) = (.error e, n')) : Unshort e := by
  obtain ⟨cause, m, unpaired, ⟨_, _, _, rfl, _⟩ | ⟨fault, undone, rfl, _⟩⟩ := settle_error refused
  · exact pairReceive_unshort _ _ _ _ _ _ _ unpaired
  · exact m.ledger.rollback_unshort _ _ fault undone

theorem process_unshort (checks : Refuses LedgerError.Unshort (n.ledger.check n.params r.account r.blueprint))
    (refused : n.perform (process r) = (.error e, n')) : Unshort e := by
  obtain ⟨m, _, unforged | ⟨f, landed, _, unsettled⟩⟩ := process_error refused
  · exact forgeAndAppend_unshort checks unforged
  · obtain ⟨destination, _, unsettled⟩ := settlePayload_error unsettled
    exact settle_unshort unsettled

theorem transfer_unshort {source destination : AccountId} {amount : Amount}
    (enough : amount.raw + n.params.transactionFee.raw ≤ n.ledger.balance source)
    (refused : n.perform (transfer source destination amount) = (.error e, n')) : Unshort e := by
  rw [transfer_eq] at refused
  obtain ⟨_, rfl | rfl⟩ | ⟨a, tip, known, last, made⟩ := wish_error refused
  · rfl
  · rfl
  rw [Ledger.balance_of_latest last] at enough
  obtain ⟨cause, failed, rfl, _⟩ | ⟨bp, made, refused⟩ := made
  · exact a.sendBlueprint_unshort _ _ _ _ enough cause failed
  obtain ⟨_, _, continues⟩ := (Account.sendBlueprint_iff (Account.verify_of_sendBlueprint made)).mp made
  refine process_unshort (n.ledger.check_unshort _ _ _ fun balance found => ?_) refused
  obtain ⟨_, rfl⟩ := (Ledger.tipBalance_iff (Ledger.isRegistered_iff.mpr ⟨a, known⟩) last).mp found
  rw [Option.getD_some, continues.balance]
  exact .ok _

end Node
end BlockLattice
