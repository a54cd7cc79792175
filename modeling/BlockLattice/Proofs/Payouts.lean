import BlockLattice.Proofs.History

namespace BlockLattice

namespace Payout

inductive Shared : List Due → List Credit → List Warning → Prop where
  | nothing : Shared [] [] []
  | credit {d : Due} {dues : List Due} {credits : List Credit} {warnings : List Warning} (hash : BlockHash) :
      Shared dues credits warnings → Shared (d :: dues) (⟨d.account, d.amount, hash⟩ :: credits) warnings
  | warning {d : Due} {dues : List Due} {credits : List Credit} {warnings : List Warning} (reason : String) :
      Shared dues credits warnings → Shared (d :: dues) credits (⟨d.account, d.amount, reason⟩ :: warnings)

theorem Shared.append {dues more : List Due} {credits others : List Credit} {warnings further : List Warning}
    (first : Shared dues credits warnings) (second : Shared more others further) :
    Shared (dues ++ more) (credits ++ others) (warnings ++ further) := by
  induction first with
  | nothing => exact second
  | credit hash _ ih => exact .credit hash ih
  | warning reason _ ih => exact .warning reason ih

end Payout

def Ledger.Recounted (l l' : Ledger) : Prop := ∀ id, ∃ forged missed,
  l'.account? id = (l.account? id).map fun a => { a with forged := forged, missed := missed }

namespace Ledger

variable {l m l' : Ledger}

theorem Recounted.of_same (same : ∀ id, l'.account? id = l.account? id) : l.Recounted l' := by
  intro id
  rw [same]
  cases l.account? id with
  | none => exact ⟨0, 0, rfl⟩
  | some a => exact ⟨a.forged, a.missed, rfl⟩

theorem Recounted.trans (first : l.Recounted m) (second : m.Recounted l') : l.Recounted l' := by
  intro id
  obtain ⟨_, _, before⟩ := first id
  obtain ⟨forged, missed, after⟩ := second id
  refine ⟨forged, missed, ?_⟩
  rw [after, before, Option.map_map]
  rfl

theorem Recounted.modify (l : Ledger) (id : AccountId) {change : Account → Account}
    (counts : ∀ a, ∃ forged missed, change a = { a with forged := forged, missed := missed }) :
    l.Recounted (l.modifyAccount id change) := by
  intro j
  rw [account?_modify]
  split
  · cases l.account? j with
    | none => exact ⟨0, 0, rfl⟩
    | some a =>
      obtain ⟨forged, missed, changed⟩ := counts a
      exact ⟨forged, missed, congrArg some changed⟩
  · exact Recounted.of_same (fun _ => rfl) j

end Ledger

namespace Node

open Payout

variable {n n' : Node}

theorem Spares.recounted {e : NodeError} (spares : Spares n e n') : n.ledger.Recounted n'.ledger := by
  rcases spares.ledger_cases with same | ⟨forger, missed⟩
  · rw [same]
    exact .of_same fun _ => rfl
  · rw [missed]
    exact .modify _ forger fun a => ⟨a.forged, a.missed + 1, rfl⟩

theorem Lands.ledger_credited {r : Request} {f : Forged} {previous : BlockHash} {block : Block}
    (lands : Lands .reward r n f previous block n') : n'.ledger = n.ledger.place r.account block := by
  rw [lands.ledger, lands.raises.1]
  rfl

theorem shared_deals : Deals fun _ _ => Shared where
  nothing _ := .nothing
  credit _ _ := .credit _ .nothing
  warning _ := .warning _ .nothing
  join := .append

theorem recounted_deals : Deals fun n n' _ _ _ => n.ledger.Recounted n'.ledger where
  nothing _ := .of_same fun _ => rfl
  credit {n landed d _ f _ block} _ lands := by
    have placed : n.ledger.Recounted landed.ledger := .of_same fun id => by rw [lands.ledger_credited]; rfl
    exact placed.trans (.modify landed.ledger f.forger fun a => ⟨a.forged + 1, a.missed, rfl⟩)
  warning refused := (creditReward_error refused).recounted
  join := .trans

theorem uncredited_deals : Deals fun n n' _ credits _ =>
    ∀ id, id ∉ credits.map Credit.account → n'.ledger.chain? id = n.ledger.chain? id where
  nothing _ _ _ := rfl
  credit {n landed d _ f _ block} _ lands id other := by
    have apart : d.account ≠ id := fun same => other (by simp [same])
    have counted : (landed.recordCredit f).ledger.chain? id = landed.ledger.chain? id :=
      landed.ledger.chain?_modify f.forger _ id
    rw [counted, lands.ledger_credited, Ledger.chain?_place, if_neg apart]
  warning refused id _ := (creditReward_error refused).view (·.chain? id) fun l j change => l.chain?_modify j change id
  join first second id other := by
    rw [List.map_append, List.mem_append, not_or] at other
    rw [second id other.2, first id other.1]

theorem portion_stands {credits : List Credit} {blocks : List (AccountId × Block)}
    (stand : List.Forall₂ Stands credits blocks) {c : Credit} (listed : c ∈ credits) :
    ∃ b ∈ Ledger.portion c.account blocks, b.hash = c.hash ∧ b.isReward = true := by
  induction stand with
  | nil => cases listed
  | cons stands _ ih =>
    rw [Ledger.portion_cons]
    rcases List.mem_cons.mp listed with rfl | later
    · exact ⟨_, by simp [stands.account], stands.hash, stands.reward⟩
    · obtain ⟨b, member, found⟩ := ih later
      exact ⟨b, List.mem_append_right _ member, found⟩

theorem Writes.stands {credits : List Credit} {blocks : List (AccountId × Block)} (writes : Writes n n' credits blocks)
    {c : Credit} (listed : c ∈ credits) :
    ∃ b ∈ (n'.ledger.chainOf c.account).blocks, b.hash = c.hash ∧ b.isReward = true := by
  obtain ⟨b, member, found⟩ := portion_stands writes.stand listed
  rw [writes.adds]
  exact ⟨b, List.mem_append_right _ member, found⟩

theorem payout_spares (n : Node) (forger : AccountId) (reward : Amount) :
    (∀ id, id ∉ (n.carryOut (payout forger reward)).1.credits.map Credit.account →
      (n.carryOut (payout forger reward)).2.ledger.chain? id = n.ledger.chain? id) ∧
    n.ledger.Recounted (n.carryOut (payout forger reward)).2.ledger := by
  rcases payout_cases n forger reward with ⟨a, dues, known, planned, _⟩ | ⟨reason, ran⟩
  · exact ⟨uncredited_deals.payout known planned, recounted_deals.payout known planned⟩
  · rw [ran]
    exact ⟨fun _ _ => rfl, .of_same fun _ => rfl⟩

-- The work of a payout as a stack. What a job leaves to do goes on top of what
-- there is, and the jobs are taken from the top until none is left.
inductive Job where
  | payout (forger : AccountId) (reward : Amount)
  | credit (d : Due)

def Job.work (report : Report) : Job → StateM Node (Report × List Job)
  | .payout forger reward => do
    let n ← get
    match n.ledger.account? forger with
    | none => return (← warn report ⟨forger, reward⟩ "forger is not in the ledger", [])
    | some a =>
      match plan reward a.share forger (n.ledger.stakeholders forger) with
      | .ok dues => return (report, dues.map .credit)
      | .error e => return (← warn report ⟨forger, reward⟩ e.message, [])
  | .credit d => return (← payDue report d, [])

inductive Drains : Node → Report → List Job → Node → Report → Prop where
  | dry {n : Node} {report : Report} : Drains n report [] n report
  | next {n m n' : Node} {report told final : Report} {job : Job} {more rest : List Job} :
      n.carryOut (job.work report) = ((told, more), m) → Drains m told (more ++ rest) n' final →
        Drains n report (job :: rest) n' final

theorem dues_drain (n : Node) (report : Report) (dues : List Due) :
    Drains n report (dues.map .credit) (n.carryOut (dues.foldlM payDue report)).2
      (n.carryOut (dues.foldlM payDue report)).1 := by
  induction dues generalizing n report with
  | nil => exact .dry
  | cons d rest ih => exact .next rfl (ih _ _)

theorem work_payout (n : Node) (report : Report) (forger : AccountId) (reward : Amount) :
    n.carryOut (Job.work report (.payout forger reward)) =
      match n.ledger.account? forger with
      | none =>
        ((report.addWarning ⟨forger, reward, "forger is not in the ledger"⟩, []),
          { n with metrics := n.metrics.countWarning })
      | some a =>
        match plan reward a.share forger (n.ledger.stakeholders forger) with
        | .ok dues => ((report, dues.map .credit), n)
        | .error e =>
          ((report.addWarning ⟨forger, reward, e.message⟩, []), { n with metrics := n.metrics.countWarning }) := by
  rw [Job.work, carryOut_bind, carryOut_get]
  dsimp only
  cases n.ledger.account? forger with
  | none => rfl
  | some a =>
    dsimp only
    cases plan reward a.share forger (n.ledger.stakeholders forger) <;> rfl

theorem payout_drains (n : Node) (forger : AccountId) (reward : Amount) :
    Drains n .empty [.payout forger reward] (n.carryOut (payout forger reward)).2
      (n.carryOut (payout forger reward)).1 := by
  have worked := work_payout n .empty forger reward
  cases known : n.ledger.account? forger with
  | none =>
    rw [known] at worked
    rw [payout_unknown known]
    exact .next worked .dry
  | some a =>
    rw [known] at worked
    dsimp only at worked
    cases planned : plan reward a.share forger (n.ledger.stakeholders forger) with
    | ok dues =>
      rw [planned] at worked
      rw [payout_planned known planned]
      refine .next worked ?_
      rw [List.append_nil]
      exact dues_drain n .empty dues
    | error e =>
      rw [planned] at worked
      rw [payout_overflow known planned]
      exact .next worked .dry

-- A payout comes to an end. For a forger that is not known there is one warning and
-- nothing is done. Otherwise the plan for the reward is dealt with due by due: each
-- credit is a new reward block on the chain of its account, which raises the balance
-- by its amount, and no other chain grows; credits and warnings are the reward, and
-- of the accounts no more changes than what the forgers have forged and missed.
theorem payout_accounts {genesis : AccountId} (reached : Reached genesis n) (forger : AccountId) (reward : Amount) :
    ∃ report n', n.carryOut (payout forger reward) = (report, n') ∧
      Drains n .empty [.payout forger reward] n' report ∧
      (n.ledger.account? forger = none →
        report = ⟨[], [⟨forger, reward, "forger is not in the ledger"⟩]⟩ ∧ n'.ledger = n.ledger) ∧
      (∀ a, n.ledger.account? forger = some a →
        ∃ dues, plan reward a.share forger (n.ledger.stakeholders forger) = .ok dues ∧
          Shared dues report.credits report.warnings) ∧
      credited report.credits + warned report.warnings = reward.raw ∧
      (∃ blocks, Writes n n' report.credits blocks) ∧
      (∀ c ∈ report.credits, ∃ b ∈ (n'.ledger.chainOf c.account).blocks, b.hash = c.hash ∧ b.isReward = true) ∧
      (∀ id, n'.ledger.balance id = n.ledger.balance id + toward id report.credits) ∧
      (∀ id, id ∉ report.credits.map Credit.account → n'.ledger.chain? id = n.ledger.chain? id) ∧
      ∀ id, ∃ forged missed, n'.ledger.account? id =
        (n.ledger.account? id).map fun a => { a with forged := forged, missed := missed } := by
  have pays := payout_pays reached.measured forger reward
  obtain ⟨blocks, writes⟩ := payout_writes n forger reward
  obtain ⟨uncredited, recounted⟩ := payout_spares n forger reward
  refine ⟨(n.carryOut (payout forger reward)).1, (n.carryOut (payout forger reward)).2, rfl,
    payout_drains n forger reward, ?_, ?_, pays.whole, ⟨blocks, writes⟩, fun c => writes.stands, pays.raised,
    uncredited, recounted⟩
  · intro unknown
    rw [payout_unknown unknown]
    exact ⟨rfl, rfl⟩
  · intro a known
    obtain ⟨dues, planned⟩ := plan_of_share reward (reached.measured forger a known) forger (n.ledger.stakeholders forger)
    exact ⟨dues, planned, shared_deals.payout known planned⟩

set_option maxRecDepth 100000 in
theorem payday_credited : ((lone.carryOut (payout loneId (.clamp 700))).1.credits.map fun c =>
    (c.account, c.amount.raw)) = [(loneId, 700)] := by decide +kernel

theorem payday_length : (lone.carryOut (payout loneId (.clamp 700))).1.credits.length = 1 := by
  have credits := congrArg List.length payday_credited
  rw [List.length_map] at credits
  exact credits

theorem lone_pays_out : Reached loneId lone ∧ ∃ a dues report c n',
    lone.ledger.account? loneId = some a ∧ a.isDelegate = true ∧
    plan (.clamp 700) a.share loneId (lone.ledger.stakeholders loneId) = .ok dues ∧
    lone.carryOut (payout loneId (.clamp 700)) = (report, n') ∧ Shared dues report.credits report.warnings ∧
    report.credits = [c] ∧ c.account = loneId ∧ c.amount.raw = 700 ∧
    (∃ b ∈ (n'.ledger.chainOf loneId).blocks, b.hash = c.hash ∧ b.isReward = true) ∧
    n'.ledger.balance loneId = lone.ledger.balance loneId + 700 := by
  obtain ⟨l₁, b₀, b₁, b₂, founds⟩ := lone_founded
  obtain ⟨a, accounts, _, flag, _⟩ := founds.accounts
  have known : lone.ledger.account? loneId = some a := by
    rw [Ledger.account?, accounts, Std.ExtTreeMap.getElem?_insert_self]
  obtain ⟨report, n', ran, _, _, planned, _, _, stands, raised, _⟩ := payout_accounts lone_reached loneId (.clamp 700)
  obtain ⟨dues, done, shared⟩ := planned a known
  have credits := payday_credited
  rw [ran, List.map_eq_singleton_iff] at credits
  obtain ⟨c, only, credit⟩ := credits
  obtain ⟨account, amount⟩ := Prod.mk.inj credit
  have written := stands c (only ▸ List.mem_singleton_self c)
  have balance := raised loneId
  rw [account] at written
  rw [only, toward, List.map_singleton, List.sum_singleton, if_pos account, amount] at balance
  exact ⟨lone_reached, a, dues, report, c, n', known, flag, done, ran, shared, only, account, amount, written, balance⟩

end Node
end BlockLattice
