import BlockLattice.Proofs.Checking
import BlockLattice.Proofs.Plans
import BlockLattice.Proofs.Serving

namespace BlockLattice

namespace Node

open Payout

variable {n n' : Node}

theorem rewardBlueprint_ok {a : Account} {amount : Amount} {tip : Block} {bp : Blueprint}
    (made : a.rewardBlueprint amount tip = .ok bp) : bp.amount = amount := by
  unfold Account.rewardBlueprint at made
  cases checked : a.checkTip tip with
  | error e => rw [checked] at made; cases made
  | ok _ =>
    rw [checked] at made
    cases crediting : Account.credit tip.balance amount with
    | error e => rw [crediting] at made; cases made
    | ok balance =>
      rw [crediting] at made
      cases made
      rfl

theorem creditReward_ok {d : Due} {f : Forged} (done : n.perform (creditReward d) = (.ok f, n')) :
    ∃ bp previous block, bp.amount = d.amount ∧ Lands .reward ⟨d.account, bp⟩ n f previous block n' := by
  unfold creditReward at done
  obtain ⟨a, m, knowing, done⟩ := perform_bind_ok.mp done
  obtain ⟨_, rfl⟩ := perform_account_ok.mp knowing
  obtain ⟨previous, m, tipping, done⟩ := perform_bind_ok.mp done
  obtain ⟨_, rfl⟩ := perform_tip_ok.mp tipping
  obtain ⟨bp, m, making, done⟩ := perform_bind_ok.mp done
  obtain ⟨made, rfl⟩ := perform_raise_ok.mp making
  obtain ⟨previous, block, lands⟩ := forgeAndAppend_ok done
  exact ⟨bp, previous, block, rewardBlueprint_ok made, lands⟩

theorem creditReward_error {d : Due} {e : NodeError} (refused : n.perform (creditReward d) = (.error e, n')) :
    Spares n e n' := by
  unfold creditReward at refused
  rcases perform_bind_error.mp refused with missing | ⟨a, m, knowing, refused⟩
  · exact .at_once (perform_account_error missing)
  obtain ⟨_, rfl⟩ := perform_account_ok.mp knowing
  rcases perform_bind_error.mp refused with missing | ⟨previous, m, tipping, refused⟩
  · exact .at_once (perform_tip_error missing)
  obtain ⟨_, rfl⟩ := perform_tip_ok.mp tipping
  rcases perform_bind_error.mp refused with invalid | ⟨bp, m, making, refused⟩
  · exact .at_once (perform_validation_error invalid)
  obtain ⟨_, rfl⟩ := perform_raise_ok.mp making
  exact forgeAndAppend_error refused

-- A due is either credited, by one block, or warned of, and then only a forger
-- may have missed its turn.
theorem payDue_cases (n : Node) (report : Report) (d : Due) :
    (∃ bp f previous block landed, bp.amount = d.amount ∧ Lands .reward ⟨d.account, bp⟩ n f previous block landed ∧
      n.carryOut (payDue report d) = (report.addCredit ⟨d.account, d.amount, f.hash⟩, landed.recordCredit f)) ∨
    ∃ e m, n.perform (creditReward d) = (.error e, m) ∧
      n.carryOut (payDue report d) =
        (report.addWarning ⟨d.account, d.amount, e.message⟩, { m with metrics := m.metrics.countWarning }) := by
  unfold payDue
  rw [carryOut_bind, carryOut_run]
  cases ran : n.perform (creditReward d) with
  | mk result m =>
    cases result with
    | ok f =>
      obtain ⟨bp, previous, block, amount, lands⟩ := creditReward_ok ran
      exact .inl ⟨bp, f, previous, block, m, amount, lands, rfl⟩
    | error e => exact .inr ⟨e, m, rfl, rfl⟩

theorem payout_unknown {forger : AccountId} (unknown : n.ledger.account? forger = none) (reward : Amount) :
    n.carryOut (payout forger reward) =
      (Report.empty.addWarning ⟨forger, reward, "forger is not in the ledger"⟩,
        { n with metrics := n.metrics.countWarning }) := by
  unfold payout
  rw [carryOut_bind, carryOut_get]
  dsimp only
  rw [unknown]
  rfl

theorem payout_planned {forger : AccountId} {a : Account} {reward : Amount} {dues : List Due}
    (known : n.ledger.account? forger = some a)
    (planned : plan reward a.share forger (n.ledger.stakeholders forger) = .ok dues) :
    n.carryOut (payout forger reward) = n.carryOut (dues.foldlM payDue .empty) := by
  unfold payout
  rw [carryOut_bind, carryOut_get]
  dsimp only
  rw [known]
  dsimp only
  rw [planned]

theorem payout_overflow {forger : AccountId} {a : Account} {reward : Amount} {e : Overflow}
    (known : n.ledger.account? forger = some a)
    (unplanned : plan reward a.share forger (n.ledger.stakeholders forger) = .error e) :
    n.carryOut (payout forger reward) =
      (Report.empty.addWarning ⟨forger, reward, e.message⟩, { n with metrics := n.metrics.countWarning }) := by
  unfold payout
  rw [carryOut_bind, carryOut_get]
  dsimp only
  rw [known]
  dsimp only
  rw [unplanned]
  rfl

theorem payout_cases (n : Node) (forger : AccountId) (reward : Amount) :
    (∃ a dues, n.ledger.account? forger = some a ∧
      plan reward a.share forger (n.ledger.stakeholders forger) = .ok dues ∧
      n.carryOut (payout forger reward) = n.carryOut (dues.foldlM payDue .empty)) ∨
    ∃ reason, n.carryOut (payout forger reward) =
      (Report.empty.addWarning ⟨forger, reward, reason⟩, { n with metrics := n.metrics.countWarning }) := by
  cases known : n.ledger.account? forger with
  | none => exact .inr ⟨_, payout_unknown known reward⟩
  | some a =>
    cases planned : plan reward a.share forger (n.ledger.stakeholders forger) with
    | ok dues => exact .inl ⟨a, dues, rfl, planned, payout_planned known planned⟩
    | error e => exact .inr ⟨_, payout_overflow known planned⟩

-- What can be said of dues, of the credits and warnings that they became, and of the
-- node before and after, if it can be said of one due and joined over many.
structure Deals (R : Node → Node → List Due → List Credit → List Warning → Prop) : Prop where
  nothing : ∀ n, R n n [] [] []
  credit : ∀ {n landed : Node} {d : Due} {bp : Blueprint} {f : Forged} {previous : BlockHash} {block : Block},
    bp.amount = d.amount → Lands .reward ⟨d.account, bp⟩ n f previous block landed →
      R n (landed.recordCredit f) [d] [⟨d.account, d.amount, f.hash⟩] []
  warning : ∀ {n m : Node} {d : Due} {e : NodeError}, n.perform (creditReward d) = (.error e, m) →
    R n { m with metrics := m.metrics.countWarning } [d] [] [⟨d.account, d.amount, e.message⟩]
  join : ∀ {n m n' : Node} {dues more : List Due} {credits others : List Credit} {warnings further : List Warning},
    R n m dues credits warnings → R m n' more others further →
      R n n' (dues ++ more) (credits ++ others) (warnings ++ further)

namespace Deals

variable {R : Node → Node → List Due → List Credit → List Warning → Prop}

theorem payDue (deals : Deals R) (n : Node) (report : Report) (d : Due) : ∃ credits warnings,
    (n.carryOut (payDue report d)).1 = ⟨report.credits ++ credits, report.warnings ++ warnings⟩ ∧
      R n (n.carryOut (payDue report d)).2 [d] credits warnings := by
  rcases payDue_cases n report d with ⟨bp, f, previous, block, landed, amount, lands, ran⟩ | ⟨e, m, refused, ran⟩
  · rw [ran]
    exact ⟨_, _, by simp [Report.addCredit], deals.credit amount lands⟩
  · rw [ran]
    exact ⟨_, _, by simp [Report.addWarning], deals.warning refused⟩

theorem payDues (deals : Deals R) (n : Node) (report : Report) (dues : List Due) : ∃ credits warnings,
    (n.carryOut (dues.foldlM Node.payDue report)).1 = ⟨report.credits ++ credits, report.warnings ++ warnings⟩ ∧
      R n (n.carryOut (dues.foldlM Node.payDue report)).2 dues credits warnings := by
  induction dues generalizing n report with
  | nil => exact ⟨[], [], by simp [List.foldlM_nil], deals.nothing n⟩
  | cons d rest ih =>
    rw [List.foldlM_cons, carryOut_bind]
    obtain ⟨credits, warnings, said, dealt⟩ := deals.payDue n report d
    obtain ⟨others, further, told, later⟩ :=
      ih (n.carryOut (Node.payDue report d)).2 (n.carryOut (Node.payDue report d)).1
    refine ⟨credits ++ others, warnings ++ further, ?_, deals.join dealt later⟩
    rw [told, said]
    simp

theorem payout (deals : Deals R) {forger : AccountId} {a : Account} {reward : Amount} {dues : List Due}
    (known : n.ledger.account? forger = some a)
    (planned : plan reward a.share forger (n.ledger.stakeholders forger) = .ok dues) :
    R n (n.carryOut (payout forger reward)).2 dues (n.carryOut (payout forger reward)).1.credits
      (n.carryOut (payout forger reward)).1.warnings := by
  rw [payout_planned known planned]
  obtain ⟨credits, warnings, said, dealt⟩ := deals.payDues n .empty dues
  rw [said]
  exact dealt

end Deals

structure Disburses (R : Node → Node → Prop) : Prop where
  path : Path R
  credits : ∀ {r n f previous block n'}, Lands .reward r n f previous block n' → 0 < r.blueprint.amount.raw → R n n'
  spares : ∀ {n e n'}, Spares n e n' → R n n'
  record : ∀ (n : Node) f, R n (n.recordForged f)
  count : ∀ (n : Node) metrics, R n { n with metrics := metrics }

namespace Disburses

variable {R : Node → Node → Prop}

theorem payDue (pays : Disburses R) (report : Report) {d : Due} (some : 0 < d.amount.raw) :
    TaskWithin R (payDue report d) := by
  intro n
  rcases payDue_cases n report d with ⟨bp, f, previous, block, landed, amount, lands, ran⟩ | ⟨e, m, refused, ran⟩
  · rw [ran]
    have credited := pays.credits lands (by rw [amount]; exact some)
    exact pays.path.join credited (pays.path.join (pays.record landed f) (pays.count _ _))
  · rw [ran]
    exact pays.path.join (pays.spares (creditReward_error refused)) (pays.count m _)

theorem payout (pays : Disburses R) (forger : AccountId) (reward : Amount) : TaskWithin R (payout forger reward) := by
  intro n
  rcases payout_cases n forger reward with ⟨a, dues, _, planned, ran⟩ | ⟨reason, ran⟩
  · rw [ran]
    have each : ∀ report, ∀ d ∈ dues, TaskWithin R (Node.payDue report d) := by
      intro report d listed
      exact pays.payDue report (plan_pays planned d listed)
    exact TaskWithin.foldlM pays.path dues each .empty n
  · rw [ran]
    exact pays.count n _

theorem payForger (pays : Disburses R) (f : Forged) : TaskWithin R (payForger f) := by
  unfold Node.payForger
  split
  · exact .pure pays.path _
  · exact pays.payout _ _

end Disburses
end Node
end BlockLattice
