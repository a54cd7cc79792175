import BlockLattice.Proofs.CheckedRequests
import BlockLattice.Proofs.VoteLimit

namespace BlockLattice

section Outcomes

variable {ε α β : Type} {e : ε} {a b : α}

theorem bind_eq_ok {x : Except ε α} {f : α → Except ε β} {b : β} :
    (x >>= f) = .ok b ↔ ∃ a, x = .ok a ∧ f a = .ok b := by
  cases x <;> simp [bind, Except.bind]

theorem throw_eq_ok : (throw e : Except ε α) = .ok a ↔ False := by
  simp [throw, throwThe, MonadExceptOf.throw]

theorem map_eq_ok {x : Except ε α} {f : α → β} {b : β} : f <$> x = .ok b ↔ ∃ a, x = .ok a ∧ f a = b := by
  cases x <;> simp [Functor.map, Except.map]

theorem pure_eq_ok : (pure a : Except ε α) = .ok b ↔ a = b := by
  simp [pure, Except.pure]

end Outcomes

theorem Amount.isZero_iff {a : Amount} : a.isZero = true ↔ a = .zero := by
  constructor
  · intro none
    apply Amount.ext
    simpa [isZero] using none
  · rintro rfl
    rfl

namespace Ledger

variable {l : Ledger} {p : Params} {id : AccountId} {tip : Block} {bp : Blueprint}

theorem debit_eq_ok {available needed left : Amount} :
    debit available needed = .ok left ↔ available.checkedSub needed = some left := by
  unfold debit
  cases available.checkedSub needed <;> simp

theorem credit_eq_ok {balance amount total : Amount} :
    credit balance amount = .ok total ↔ balance.checkedAdd amount = some total := by
  unfold credit
  cases balance.checkedAdd amount <;> simp

-- A blueprint for a block on top of `tip` that leads to the balance which its
-- operation demands, and carries no amount unless it moves one.
structure Continues (p : Params) (tip : Block) (bp : Blueprint) : Prop where
  previous : bp.previous = some tip.hash
  balance : balanceAfter p tip.balance bp = .ok bp.balance
  still : movesValue bp.payload = false → bp.amount = .zero

theorem tipBalance_iff (known : l.isRegistered id = true) (last : l.latest? id = some tip) {balance : Option Amount} :
    l.tipBalance id bp = .ok balance ↔ bp.previous = some tip.hash ∧ balance = some tip.balance := by
  unfold tipBalance
  cases builds : bp.previous with
  | none => simp [known, last]
  | some previous =>
    by_cases same : previous = tip.hash
    · simp [known, last, same, eq_comm]
    · simp [known, last, same]

theorem checkBalance_iff (later : bp.payload ≠ .opening) (builds : bp.previous = some tip.hash) :
    checkBalance p (some tip.balance) bp = .ok () ↔ Continues p tip bp := by
  have placed : (bp.payload == .opening) = false := by simpa using later
  have checks : checkBalance p (some tip.balance) bp = .ok () ↔
      ∃ expected, balanceAfter p tip.balance bp = .ok expected ∧
        (movesValue bp.payload = false → bp.amount.isZero = true) ∧ bp.balance = expected := by
    unfold checkBalance
    simp only [placed, builds, Option.isNone_some, bne_self_eq_false, Bool.false_eq_true, ↓reduceIte,
      Option.getD_some, bind_eq_ok]
    refine exists_congr fun expected => and_congr_right fun _ => ?_
    by_cases same : bp.balance = expected
    · cases movesValue bp.payload <;> cases bp.amount.isZero <;> simp [same, throw_eq_ok, pure_eq_ok]
    · cases movesValue bp.payload <;> cases bp.amount.isZero <;> simp [same, bind_eq_ok, throw_eq_ok]
  rw [checks]
  constructor
  · rintro ⟨_, balance, still, rfl⟩
    exact ⟨builds, balance, fun unmoved => Amount.isZero_iff.mp (still unmoved)⟩
  · intro continues
    exact ⟨_, continues.balance, fun unmoved => Amount.isZero_iff.mpr (continues.still unmoved), rfl⟩

theorem check_iff (known : l.isRegistered id = true) (last : l.latest? id = some tip) (later : bp.payload ≠ .opening) :
    l.check p id bp = .ok () ↔
      bp.payload ≠ .receive none ∧ l.checkPayload p id bp = .ok () ∧ Continues p tip bp := by
  unfold check
  by_cases reward : bp.payload = .receive none
  · simp [reward, bind_eq_ok, throw_eq_ok]
  · simp only [reward, ↓reduceIte, bind_eq_ok, tipBalance_iff known last]
    constructor
    · rintro ⟨_, ⟨builds, rfl⟩, _, allowed, balanced⟩
      exact ⟨reward, allowed, (checkBalance_iff later builds).mp balanced⟩
    · rintro ⟨_, allowed, continues⟩
      exact ⟨_, ⟨continues.previous, rfl⟩, (), allowed, (checkBalance_iff later continues.previous).mpr continues⟩

theorem checkReward_iff (known : l.isRegistered id = true) (last : l.latest? id = some tip) :
    l.checkReward id bp = .ok () ↔ bp.payload = .receive none ∧ Continues p tip bp := by
  unfold checkReward
  by_cases reward : bp.payload = .receive none
  · simp only [reward, ↓reduceIte, bind_eq_ok, tipBalance_iff known last, ne_eq, not_true_eq_false, true_and]
    constructor
    · rintro ⟨_, ⟨builds, rfl⟩, checked⟩
      obtain ⟨expected, raised, checked⟩ := bind_eq_ok.mp checked
      have same : bp.balance = expected := by
        by_contra other
        simp [other, throw_eq_ok] at checked
      refine ⟨builds, ?_, by simp [reward, movesValue]⟩
      simp [balanceAfter, reward, raised, same]
    · intro continues
      have raised := continues.balance
      simp only [balanceAfter, reward] at raised
      exact ⟨_, ⟨continues.previous, rfl⟩, bind_eq_ok.mpr ⟨_, raised, by simp [pure_eq_ok]⟩⟩
  · simp [reward, bind_eq_ok, throw_eq_ok]

theorem strayVote?_eq_none {changes : List VoteChange} :
    l.strayVote? changes = none ↔ ∀ d, .add d ∈ changes → l.isDelegate d = true := by
  induction changes with
  | nil => simp [strayVote?]
  | cons c rest ih =>
    cases c with
    | add d => cases delegate : l.isDelegate d <;> simp [strayVote?, delegate, ih]
    | remove d => simp [strayVote?, ih]

theorem checkVotes_iff {changes : List VoteChange} :
    l.checkVotes p id changes = .ok () ↔ changes.length ≤ p.maxDelegatesPerBlock.toNat ∧
      (∀ d, .add d ∈ changes → l.isDelegate d = true) ∧
      (VoteSet.apply (l.votesOf id) changes).size ≤ p.maxDelegatesPerAccount.toNat := by
  unfold checkVotes
  by_cases many : p.maxDelegatesPerBlock.toNat < changes.length
  · simp [many, Nat.not_le.mpr many]
  · rw [← strayVote?_eq_none]
    cases l.strayVote? changes with
    | some d => simp [many]
    | none =>
      by_cases wide : p.maxDelegatesPerAccount.toNat < (VoteSet.apply (l.votesOf id) changes).size
      · simp [many, wide, Nat.not_le.mpr wide]
      · simp [many, wide, Nat.not_lt.mp many, Nat.not_lt.mp wide]

end Ledger

namespace Account

open Ledger (Continues)

variable {a : Account} {p : Params} {tip : Block} {bp : Blueprint} {amount : Amount}

theorem debit_eq_ok {available needed left : Amount} :
    debit available needed = .ok left ↔ available.checkedSub needed = some left := by
  unfold debit
  cases available.checkedSub needed <;> simp

theorem credit_eq_ok {balance amount total : Amount} :
    credit balance amount = .ok total ↔ balance.checkedAdd amount = some total := by
  unfold credit
  cases balance.checkedAdd amount <;> simp

theorem checkTip_of_verify (own : tip.verify a.publicKey = true) : a.checkTip tip = .ok () := by
  simp [checkTip, own]

theorem made_iff {payload : Payload} (still : Ledger.movesValue payload = false → amount = .zero) :
    (∃ balance, Ledger.balanceAfter p tip.balance ⟨some tip.hash, balance, amount, payload⟩ = .ok balance ∧
      (⟨some tip.hash, balance, amount, payload⟩ : Blueprint) = bp) ↔
    bp.payload = payload ∧ bp.amount = amount ∧ Continues p tip bp := by
  constructor
  · rintro ⟨balance, after, rfl⟩
    exact ⟨rfl, rfl, rfl, after, still⟩
  · rintro ⟨rfl, rfl, builds, after, _⟩
    exact ⟨bp.balance, by simpa only [← builds] using after, by rw [← builds]⟩

theorem sendBlueprint_iff (own : tip.verify a.publicKey = true) {d : AccountId} :
    a.sendBlueprint p amount d tip = .ok bp ↔ bp.payload = .send d ∧ bp.amount = amount ∧ Continues p tip bp := by
  rw [← made_iff (by simp [Ledger.movesValue])]
  simp only [sendBlueprint, checkTip_of_verify own, bind_eq_ok, pure_eq_ok, credit_eq_ok, debit_eq_ok, true_and,
    Ledger.balanceAfter, Ledger.credit_eq_ok, Ledger.debit_eq_ok]
  constructor
  · rintro ⟨_, needed, total, balance, left, made⟩
    exact ⟨balance, ⟨needed, total, left⟩, made⟩
  · rintro ⟨balance, ⟨needed, total, left⟩, made⟩
    exact ⟨(), needed, total, balance, left, made⟩

theorem receiveBlueprint_iff (own : tip.verify a.publicKey = true) {source : Block} {key : PublicKey}
    (signed : source.verify key = true) :
    a.receiveBlueprint amount tip source key = .ok bp ↔ source.destination?.isSome = true ∧
      bp.payload = .receive (some source.hash) ∧ bp.amount = amount ∧ Continues p tip bp := by
  rw [← made_iff (by simp [Ledger.movesValue])]
  cases sends : source.destination? with
  | none => simp [receiveBlueprint, checkTip_of_verify own, signed, sends, bind_eq_ok, throw_eq_ok]
  | some d =>
    simp [receiveBlueprint, checkTip_of_verify own, signed, sends, bind_eq_ok, map_eq_ok, credit_eq_ok,
      Ledger.balanceAfter, Ledger.credit_eq_ok]

theorem rewardBlueprint_iff (own : tip.verify a.publicKey = true) :
    a.rewardBlueprint amount tip = .ok bp ↔
      bp.payload = .receive none ∧ bp.amount = amount ∧ Continues p tip bp := by
  rw [← made_iff (by simp [Ledger.movesValue])]
  simp [rewardBlueprint, checkTip_of_verify own, bind_eq_ok, map_eq_ok, credit_eq_ok, Ledger.balanceAfter,
    Ledger.credit_eq_ok]

theorem changeBlueprint_iff (own : tip.verify a.publicKey = true) {changes : List VoteChange} :
    a.changeBlueprint p changes tip = .ok bp ↔ changes.length ≤ p.maxDelegatesPerBlock.toNat ∧
      bp.payload = .change changes ∧ bp.amount = .zero ∧ Continues p tip bp := by
  rw [← made_iff fun _ => rfl]
  by_cases many : p.maxDelegatesPerBlock.toNat < changes.length
  · simp [changeBlueprint, checkTip_of_verify own, many, Nat.not_le.mpr many, bind_eq_ok, throw_eq_ok]
  · simp [changeBlueprint, checkTip_of_verify own, many, Nat.not_lt.mp many, bind_eq_ok, map_eq_ok, debit_eq_ok,
      Ledger.balanceAfter, Ledger.debit_eq_ok]

theorem delegateBlueprint_iff (own : tip.verify a.publicKey = true) {percent : Float} {share : Share}
    (stands : Share.ofPercent? percent = some share) :
    a.delegateBlueprint p tip percent = .ok bp ↔ a.isDelegate = false ∧
      bp.payload = .delegate share ∧ bp.amount = .zero ∧ Continues p tip bp := by
  rw [← made_iff fun _ => rfl]
  cases novice : a.isDelegate with
  | true => simp [delegateBlueprint, checkTip_of_verify own, novice, stands, bind_eq_ok, throw_eq_ok]
  | false =>
    simp [delegateBlueprint, checkTip_of_verify own, novice, stands, bind_eq_ok, map_eq_ok, debit_eq_ok,
      Ledger.balanceAfter, Ledger.debit_eq_ok]

end Account

namespace Ledger

variable {l : Ledger} {p : Params} {id : AccountId} {a : Account} {tip : Block} {bp : Blueprint}

theorem Sound.isRegistered_of_latest (sound : l.Sound) (last : l.latest? id = some tip) : l.isRegistered id = true := by
  obtain ⟨c, held, _⟩ := sound.chain?_of_latest last
  exact sound.registered (by simp [isOpened_eq, held])

theorem checkPayload_send_iff (sound : l.Sound) {d : AccountId} (sends : bp.payload = .send d) :
    l.checkPayload p id bp = .ok () ↔ l.isOpened d = true := by
  unfold checkPayload
  simp only [sends]
  cases opened : l.isOpened d with
  | true => simp [sound.registered opened]
  | false => cases l.isRegistered d <;> simp

theorem checkPayload_receive_iff (sound : l.Sound) {j : AccountId} {k : Nat} {source : Block}
    (stands : l.blockAt? j k = some source) (receives : bp.payload = .receive (some source.hash)) :
    l.checkPayload p id bp = .ok () ↔ source.destination? = some id ∧ l.isReceived source.hash = false ∧
      l.sentAmount? p source.hash = some bp.amount := by
  have found : l.block? source.hash = some source := sound.block?_eq_some.mpr ⟨j, k, stands, rfl⟩
  have taken : l.isReceived source.hash = false ↔ l.received[source.hash]? = none := by
    simp [isReceived, ← Bool.not_eq_true]
  have sourced : l.checkSource id source.hash = .ok () ↔
      source.destination? = some id ∧ l.isReceived source.hash = false := by
    simp [checkSource_ok_iff, found, taken]
  unfold checkPayload
  simp only [receives, bind_eq_ok]
  cases sent : l.sentAmount? p source.hash with
  | none => simp [throw_eq_ok]
  | some amount =>
    by_cases same : amount = bp.amount
    · simp [sourced, same, pure_eq_ok]
    · simp [same, throw_eq_ok]

theorem checkPayload_delegate_iff (known : l.account? id = some a) {share : Share}
    (within : share.points.toNat ≤ Share.whole) (enrols : bp.payload = .delegate share) :
    l.checkPayload p id bp = .ok () ↔ a.isDelegate = false := by
  unfold checkPayload
  simp only [enrols, isDelegate, known, Option.any_some]
  cases a.isDelegate <;> simp [Nat.not_lt.mpr within]

theorem continues_delegate_iff {share : Share} (enrols : bp.payload = .delegate share) :
    Continues p tip bp ↔ bp.previous = some tip.hash ∧ bp.amount = .zero ∧
      bp.balance.raw + p.delegateCost.raw = tip.balance.raw := by
  rw [← Amount.checkedSub_eq_some, ← debit_eq_ok]
  constructor
  · rintro ⟨builds, after, still⟩
    rw [enrols] at still
    simp only [balanceAfter, enrols] at after
    exact ⟨builds, still rfl, after⟩
  · rintro ⟨builds, still, after⟩
    exact ⟨builds, by simpa [balanceAfter, enrols] using after, fun _ => still⟩

-- The check of the ledger against the five makers of the account, for any
-- parameters. What an account cannot know is left to the ledger: whether the
-- destination is opened, who is a delegate, and which sends wait for it.
theorem check_accepts_blueprints (p : Params) (bp : Blueprint) (reachable : l.Reachable) (known : l.account? id = some a)
    (last : l.latest? id = some tip) (own : tip.verify a.publicKey = true) :
    (∀ d, bp.payload = .send d → (l.check p id bp = .ok () ↔
      a.sendBlueprint p bp.amount d tip = .ok bp ∧ l.isOpened d = true)) ∧
    (∀ changes, bp.payload = .change changes → (l.check p id bp = .ok () ↔
      a.changeBlueprint p changes tip = .ok bp ∧ (∀ d, .add d ∈ changes → l.isDelegate d = true) ∧
        (VoteSet.apply a.votes changes).size ≤ p.maxDelegatesPerAccount.toNat)) ∧
    (∀ j k source sender, bp.payload = .receive (some source.hash) → l.blockAt? j k = some source →
      l.account? j = some sender → source.verify sender.publicKey = true → (l.check p id bp = .ok () ↔
      (source.destination? = some id ∧ l.isReceived source.hash = false ∧
        l.sentAmount? p source.hash = some bp.amount) ∧
        a.receiveBlueprint bp.amount tip source sender.publicKey = .ok bp)) ∧
    (∀ share, bp.payload = .delegate share → share.points.toNat ≤ Share.whole →
      (l.check p id bp = .ok () ↔ a.isDelegate = false ∧ bp.previous = some tip.hash ∧ bp.amount = .zero ∧
        bp.balance.raw + p.delegateCost.raw = tip.balance.raw) ∧
      ∀ percent, Share.ofPercent? percent = some share →
        (l.check p id bp = .ok () ↔ a.delegateBlueprint p tip percent = .ok bp)) ∧
    (l.checkReward id bp = .ok () ↔ a.rewardBlueprint bp.amount tip = .ok bp) := by
  have sound := reachable.sound
  have registered := sound.isRegistered_of_latest last
  refine ⟨?_, ?_, ?_, ?_, ?_⟩
  · intro d sends
    rw [check_iff registered last (by simp [sends]), checkPayload_send_iff sound sends, Account.sendBlueprint_iff own]
    simp [sends, and_comm]
  · intro changes votes
    have allowed : l.checkPayload p id bp = l.checkVotes p id changes := by simp [checkPayload, votes]
    rw [check_iff registered last (by simp [votes]), allowed, checkVotes_iff, votesOf_of_account known,
      Account.changeBlueprint_iff own]
    constructor
    · rintro ⟨_, ⟨few, delegates, within⟩, continues⟩
      exact ⟨⟨few, votes, continues.still (by simp [votes, movesValue]), continues⟩, delegates, within⟩
    · rintro ⟨⟨few, _, _, continues⟩, delegates, within⟩
      exact ⟨by simp [votes], ⟨few, delegates, within⟩, continues⟩
  · intro j k source sender receives stands holder signed
    rw [check_iff registered last (by simp [receives]), checkPayload_receive_iff sound stands receives,
      Account.receiveBlueprint_iff (p := p) own signed]
    constructor
    · rintro ⟨_, fresh, continues⟩
      exact ⟨fresh, by simp [fresh.1], receives, rfl, continues⟩
    · rintro ⟨fresh, _, _, _, continues⟩
      exact ⟨by simp [receives], fresh, continues⟩
  · intro share enrols within
    have accepted : l.check p id bp = .ok () ↔ a.isDelegate = false ∧ Continues p tip bp := by
      rw [check_iff registered last (by simp [enrols]), checkPayload_delegate_iff known within enrols]
      simp [enrols]
    refine ⟨by rw [accepted, continues_delegate_iff enrols], fun percent stands => ?_⟩
    rw [accepted, Account.delegateBlueprint_iff own stands]
    constructor
    · rintro ⟨novice, continues⟩
      exact ⟨novice, enrols, continues.still (by simp [enrols, movesValue]), continues⟩
    · rintro ⟨novice, _, _, continues⟩
      exact ⟨novice, continues⟩
  · rw [checkReward_iff (p := p) registered last, Account.rewardBlueprint_iff (p := p) own]
    simp

end Ledger

namespace Node

theorem lone_signed : ∃ a tip, lone.ledger.account? loneId = some a ∧ lone.ledger.latest? loneId = some tip ∧
    tip.verify a.publicKey = true := by
  obtain ⟨o, done, _⟩ := trade_served
  obtain ⟨f, landed, settled, served⟩ := process_ok done
  obtain ⟨previous, block, lands⟩ := forgeAndAppend_ok served.forged
  obtain ⟨a, known, _⟩ := lands.owned
  obtain ⟨tip, last⟩ : ∃ tip, lone.ledger.latest? loneId = some tip := by
    apply Option.ne_none_iff_exists'.mp
    intro bare
    cases lands.bare_iff.mp bare
  obtain ⟨holder, held, verified⟩ :=
    lone_reached.inOrder.verified selfSend_genuine (Ledger.latest?_eq_some.mp last)
  exact ⟨holder, tip, held, last, verified⟩

theorem selfSend_accepted : ∃ a tip, lone.ledger.Reachable ∧ lone.ledger.account? loneId = some a ∧
    lone.ledger.latest? loneId = some tip ∧ tip.verify a.publicKey = true ∧
    lone.ledger.check lone.params loneId selfSend.blueprint = .ok () ∧
    a.sendBlueprint lone.params selfSend.blueprint.amount loneId tip = .ok selfSend.blueprint := by
  obtain ⟨a, tip, known, last, own⟩ := lone_signed
  obtain ⟨o, done, _⟩ := trade_served
  obtain ⟨f, landed, settled, served⟩ := process_ok done
  obtain ⟨previous, block, lands⟩ := forgeAndAppend_ok served.forged
  have reachable := lone_reached.reachable
  have accepts := Ledger.check_accepts_blueprints lone.params selfSend.blueprint reachable known last own
  exact ⟨a, tip, reachable, known, last, own, lands.checked, ((accepts.1 loneId rfl).mp lands.checked).1⟩

end Node
end BlockLattice
