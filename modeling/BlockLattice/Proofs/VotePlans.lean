import BlockLattice.Proofs.Elections

namespace BlockLattice

namespace Election

variable {l : Ledger} {votes : VoteSet} {tokens : List String}

structure Planned (l : Ledger) (votes : VoteSet) (tokens : List String) (changes : List VoteChange) : Prop where
  few : changes.length ≤ tokens.length
  alters : ∀ before c after, changes = before ++ c :: after →
    (VoteSet.apply votes before).change c ≠ VoteSet.apply votes before
  delegates : ∀ d, .add d ∈ changes → ∃ holder, l.account? d = some holder ∧ holder.isDelegate = true
  casts : VoteSet.apply votes changes = tokens.foldl (cast l) votes

theorem takesEffect_of_plan {before after : List VoteChange} {c : VoteChange}
    (planned : plan l votes tokens = before ++ c :: after) :
    takesEffect l (VoteSet.apply votes before) c = true := by
  induction tokens generalizing votes before with
  | nil => simp [plan] at planned
  | cons token rest ih =>
    rw [plan] at planned
    cases parsed : parseToken? l token with
    | none =>
      rw [parsed] at planned
      exact ih planned
    | some first =>
      rw [parsed] at planned
      dsimp only at planned
      split at planned
      · rename_i effect
        cases before with
        | nil =>
          obtain ⟨rfl, _⟩ := List.cons.inj planned
          exact effect
        | cons earlier others =>
          obtain ⟨rfl, later⟩ := List.cons.inj planned
          have effect := ih later
          exact effect
      · exact ih planned

theorem isDelegate_of_plan {d : AccountId} (adds : .add d ∈ plan l votes tokens) : l.isDelegate d = true := by
  obtain ⟨before, after, split⟩ := List.append_of_mem adds
  have effect := takesEffect_of_plan split
  rw [takesEffect, Bool.and_eq_true] at effect
  exact effect.1

theorem length_plan_le (l : Ledger) (votes : VoteSet) (tokens : List String) :
    (plan l votes tokens).length ≤ tokens.length := by
  obtain ⟨asking, taken, asks⟩ := plan_asked l votes tokens
  rw [← asks.length_eq]
  exact taken.length_le

theorem planned_plan (l : Ledger) (votes : VoteSet) (tokens : List String) :
    Planned l votes tokens (plan l votes tokens) where
  few := length_plan_le l votes tokens
  alters _ _ _ split := change_ne_self (takesEffect_of_plan split)
  delegates _ adds := Ledger.account_of_isDelegate (isDelegate_of_plan adds)
  casts := apply_plan l votes tokens

theorem length_of_chunks {p : Params} {chunk : List String} (some : 1 ≤ p.maxDelegatesPerBlock.toNat)
    (cut : chunk ∈ chunks p tokens) : chunk.length ≤ p.maxDelegatesPerBlock.toNat := by
  have bound := ((chunks_cuts p tokens).some chunk (List.mem_reverse.mpr cut)).2
  exact Nat.le_trans bound (Nat.max_le.mpr ⟨some, Nat.le_refl _⟩)

end Election

namespace Ledger

variable {l : Ledger} {p : Params} {id : AccountId} {a : Account} {tip : Block} {bp : Blueprint}
  {changes : List VoteChange}

theorem checkVotes_eq (few : changes.length ≤ p.maxDelegatesPerBlock.toNat)
    (delegates : ∀ d, .add d ∈ changes → l.isDelegate d = true) :
    l.checkVotes p id changes =
      if p.maxDelegatesPerAccount.toNat < (VoteSet.apply (l.votesOf id) changes).size then
        .error (.tooManyDelegates (VoteSet.apply (l.votesOf id) changes).size p.maxDelegatesPerAccount.toNat)
      else .ok () := by
  rw [checkVotes, if_neg (Nat.not_lt.mpr few), strayVote?_eq_none.mpr delegates]

theorem check_change (known : l.isRegistered id = true) (last : l.latest? id = some tip)
    (own : tip.verify a.publicKey = true) (made : a.changeBlueprint p changes tip = .ok bp) :
    l.check p id bp = l.checkVotes p id changes := by
  obtain ⟨_, votes, _, continues⟩ := (Account.changeBlueprint_iff own).mp made
  have builds := (tipBalance_iff known last).mpr ⟨continues.previous, rfl⟩
  have balanced := (checkBalance_iff (by simp [votes]) continues.previous).mpr continues
  have allowed : l.checkPayload p id bp = l.checkVotes p id changes := by simp [checkPayload, votes]
  rw [check, if_neg (by simp [votes]), builds, allowed]
  simp only [bind, Except.bind, balanced]
  cases l.checkVotes p id changes <;> rfl

end Ledger

theorem Account.changeBlueprint_of_funds {a : Account} {p : Params} {tip : Block} {changes : List VoteChange}
    (own : tip.verify a.publicKey = true) (few : changes.length ≤ p.maxDelegatesPerBlock.toNat)
    (funds : p.changeCost.raw ≤ tip.balance.raw) : ∃ bp, a.changeBlueprint p changes tip = .ok bp := by
  have paid : tip.balance.checkedSub p.changeCost = some (tip.balance.saturatingSub p.changeCost) :=
    Amount.checkedSub_eq_some.mpr (Nat.sub_add_cancel funds)
  refine ⟨⟨some tip.hash, tip.balance.saturatingSub p.changeCost, .zero, .change changes⟩, ?_⟩
  refine (changeBlueprint_iff own).mpr ⟨few, rfl, rfl, rfl, ?_, ?_⟩
  · simpa [Ledger.balanceAfter, Ledger.debit_eq_ok] using paid
  · exact fun _ => rfl

namespace Election

variable {l : Ledger} {id : AccountId} {a : Account}

-- A plan holds no more changes than there are tokens. Each of them alters the votes
-- that those before it lead to, delegates alone are added, and together they do what
-- the tokens do one after the other. So of every chunk that an account with the funds
-- is asked for, it makes a blueprint that the ledger accepts, unless the votes come
-- to more than an account may have. The chunks from the last to the first are the
-- tokens. Nothing is asked of the ledger, be it reachable or not.
theorem plan_accepted (p : Params) (known : l.account? id = some a) :
    (∀ tokens, Planned l a.votes tokens (planChunk l a tokens)) ∧
    (∀ tokens chunk tip, 1 ≤ p.maxDelegatesPerBlock.toNat → chunk ∈ chunks p tokens →
      l.latest? id = some tip → tip.verify a.publicKey = true → p.changeCost.raw ≤ tip.balance.raw →
      ∃ bp, a.changeBlueprint p (planChunk l a chunk) tip = .ok bp ∧
        l.check p id bp =
          if p.maxDelegatesPerAccount.toNat < (chunk.foldl (cast l) a.votes).size then
            .error (.tooManyDelegates (chunk.foldl (cast l) a.votes).size p.maxDelegatesPerAccount.toNat)
          else .ok ()) ∧
    (∀ tokens, (chunks p tokens).reverse.flatten = tokens) := by
  refine ⟨planned_plan l a.votes, ?_, fun tokens => (chunks_cuts p tokens).whole⟩
  intro tokens chunk tip some cut last own funds
  have planned : Planned l a.votes chunk (planChunk l a chunk) := planned_plan l a.votes chunk
  have few := Nat.le_trans planned.few (length_of_chunks some cut)
  obtain ⟨bp, made⟩ := Account.changeBlueprint_of_funds own few funds
  refine ⟨bp, made, ?_⟩
  have registered := Ledger.isRegistered_iff.mpr ⟨a, known⟩
  rw [Ledger.check_change registered last own made, Ledger.checkVotes_eq few fun _ adds => isDelegate_of_plan adds,
    Ledger.votesOf_of_account known, planned.casts]

end Election

namespace Node

def wavering : List String := ["+nobody", "-first", "first", "+first", "+first"]

def isWavering (n : Node) : Bool :=
  (n.ledger.account? loneId).any fun a =>
    Election.planChunk n.ledger a wavering == [.remove loneId, .add loneId] &&
    (wavering.foldl (Election.cast n.ledger) a.votes).size == 1 &&
    (n.ledger.latest? loneId).any fun tip => Params.standard.changeCost.raw ≤ tip.balance.raw

set_option maxRecDepth 100000 in
theorem lone_wavers : isWavering lone = true := by decide +kernel

theorem wavering_accepted : ∃ a tip bp, lone.ledger.account? loneId = some a ∧
    lone.ledger.latest? loneId = some tip ∧ tip.verify a.publicKey = true ∧
    Election.planChunk lone.ledger a wavering = [.remove loneId, .add loneId] ∧
    a.changeBlueprint .standard [.remove loneId, .add loneId] tip = .ok bp ∧
    lone.ledger.check .standard loneId bp = .ok () := by
  obtain ⟨a, tip, known, last, own⟩ := lone_signed
  have wavers := lone_wavers
  rw [isWavering, known, last] at wavers
  simp only [Option.any_some, Bool.and_eq_true, beq_iff_eq, decide_eq_true_eq] at wavers
  obtain ⟨⟨plan, size⟩, funds⟩ := wavers
  have cut : wavering ∈ Election.chunks .standard wavering := by decide
  obtain ⟨_, accepts, _⟩ := Election.plan_accepted .standard known
  obtain ⟨bp, made, checked⟩ := accepts wavering wavering tip (by decide) cut last own funds
  rw [size, if_neg (by decide)] at checked
  exact ⟨a, tip, bp, known, last, own, plan, plan ▸ made, checked⟩

end Node
end BlockLattice
