import BlockLattice.Proofs.Independence
import BlockLattice.Proofs.Placement

namespace BlockLattice

theorem Chain.checkAppend_ne_duplicate (c : Chain) (b : Block) (hash : BlockHash) :
    c.checkAppend b ≠ .error (.duplicateBlock hash) := by
  unfold checkAppend
  split
  · split <;> simp
  · simp
  · simp
  · split <;> simp

namespace Ledger

variable {l : Ledger} {id : AccountId} {b : Block} {hash : BlockHash}

theorem checkSourceOf_ne_duplicate (l : Ledger) (id : AccountId) (b : Block) (hash : BlockHash) :
    l.checkSourceOf id b ≠ .error (.duplicateBlock hash) := by
  unfold checkSourceOf
  cases b.source? with
  | none => simp
  | some s =>
    dsimp only
    unfold checkSource
    split
    · simp
    · split
      · simp
      · split
        · simp
        · split <;> simp

def Clashes (l : Ledger) (b : Block) : Prop :=
  ∃ j k x, l.blockAt? j k = some x ∧ x.digest ≠ b.digest ∧ x.hash = b.hash

theorem apart_of_clashless (clear : ¬ l.Clashes b) : l.Apart b.content := by
  intro j k x found same
  by_contra other
  exact clear ⟨j, k, x, found, other, same⟩

theorem Sound.contains_of_clash (sound : l.Sound) (clash : l.Clashes b) : l.index.contains b.hash = true := by
  obtain ⟨j, k, x, found, _, same⟩ := clash
  have placed : l.index[b.hash]? = some ⟨j, k⟩ := sound.indexed.mpr ⟨x, found, same⟩
  rw [Std.ExtTreeMap.contains_eq_isSome_getElem?, placed]
  rfl

theorem append_of_unfit {e : LedgerError} (unfit : (l.chainOf id).checkAppend b = .error e) :
    l.append id b = .error (if l.isRegistered id = true then e else .accountNotFound id) := by
  unfold append
  cases l.isRegistered id with
  | false => rfl
  | true =>
    rw [unfit]
    rfl

theorem append_of_taken (known : l.isRegistered id = true) (chained : (l.chainOf id).checkAppend b = .ok ())
    (sourced : l.checkSourceOf id b = .ok ()) (taken : l.index.contains b.hash = true) :
    l.append id b = .error (.duplicateBlock b.hash) := by
  rw [append, known, chained, sourced, taken]
  rfl

theorem append_duplicate (refused : l.append id b = .error (.duplicateBlock hash)) :
    hash = b.hash ∧ l.isRegistered id = true ∧ (l.chainOf id).checkAppend b = .ok () ∧
      l.checkSourceOf id b = .ok () ∧ l.index.contains b.hash = true := by
  unfold append at refused
  cases known : l.isRegistered id with
  | false => rw [known] at refused; cases refused
  | true =>
    rw [known] at refused
    cases chained : (l.chainOf id).checkAppend b with
    | error e =>
      rw [chained] at refused
      cases refused
      exact absurd chained (Chain.checkAppend_ne_duplicate _ _ _)
    | ok _ =>
      rw [chained] at refused
      cases sourced : l.checkSourceOf id b with
      | error e =>
        rw [sourced] at refused
        cases refused
        exact absurd sourced (checkSourceOf_ne_duplicate _ _ _ _)
      | ok _ =>
        rw [sourced] at refused
        cases taken : l.index.contains b.hash with
        | false => rw [taken] at refused; cases refused
        | true =>
          rw [taken] at refused
          cases refused
          exact ⟨rfl, rfl, rfl, rfl, rfl⟩

theorem Sound.appends (sound : l.Sound) (known : l.isRegistered id = true)
    (chained : (l.chainOf id).checkAppend b = .ok ()) (sourced : l.checkSourceOf id b = .ok ())
    (clear : ¬ l.Clashes b) : l.Appends id b where
  known := known
  fits := Chain.fits_of_checkAppend chained
  source := sourced
  fresh := sound.fresh (Chain.fits_of_checkAppend chained) (apart_of_clashless clear)

-- A block that its chain and its source let through is appended, unless it clashes
-- with a block of the ledger, and it is in this case alone that it is refused as a
-- duplicate. What says the same as a block of the ledger, the block itself among them,
-- does not come that far: no chain takes it.
theorem append_guard (reachable : l.Reachable) (id : AccountId) (b : Block) :
    (l.isRegistered id = true → (l.chainOf id).checkAppend b = .ok () → l.checkSourceOf id b = .ok () →
      ¬ l.Clashes b → l.append id b = .ok (l.place id b, b.hash)) ∧
    (∀ hash, l.append id b = .error (.duplicateBlock hash) ↔ hash = b.hash ∧ l.isRegistered id = true ∧
      (l.chainOf id).checkAppend b = .ok () ∧ l.checkSourceOf id b = .ok () ∧ l.Clashes b) ∧
    (∀ j k x, l.blockAt? j k = some x → x.digest = b.digest → ∃ e, (l.chainOf id).checkAppend b = .error e ∧
      l.append id b = .error (if l.isRegistered id = true then e else .accountNotFound id)) := by
  have sound := reachable.sound
  refine ⟨?_, ?_, ?_⟩
  · intro known chained sourced clear
    exact append_of_appends (sound.appends known chained sourced clear)
  · intro hash
    constructor
    · intro refused
      obtain ⟨same, known, chained, sourced, _⟩ := append_duplicate refused
      refine ⟨same, known, chained, sourced, ?_⟩
      by_contra clear
      rw [append_of_appends (sound.appends known chained sourced clear)] at refused
      cases refused
    · rintro ⟨rfl, known, chained, sourced, clash⟩
      exact append_of_taken known chained sourced (sound.contains_of_clash clash)
  · intro j k x found same
    cases chained : (l.chainOf id).checkAppend b with
    | ok _ => exact absurd (Chain.fits_of_checkAppend chained) (sound.unfit found (Content.eq_of_digest same))
    | error e => exact ⟨e, rfl, append_of_unfit chained⟩

-- While a payment is in flight another can follow it, but the same one can come
-- neither after it nor to the chain of its destination.
set_option maxRecDepth 100000 in
theorem further_seen : inFlight.isRegistered payer.id = true ∧ (inFlight.chainOf payer.id).checkAppend further = .ok () ∧
    inFlight.position? further.hash = none ∧ inFlight.blockAt? payer.id 1 = some paid := by decide +kernel

theorem further_lands : inFlight.Reachable ∧
    inFlight.append payer.id further = .ok (inFlight.place payer.id further, further.hash) ∧
    (∃ e, (inFlight.chainOf payer.id).checkAppend paid = .error e) ∧
    ∃ e, (inFlight.chainOf payee.id).checkAppend paid = .error e := by
  obtain ⟨known, chained, missing, stands⟩ := further_seen
  have reachable : inFlight.Reachable := by
    unfold inFlight funded
    exact (reachable_replay _).call _
  have clear : ¬ inFlight.Clashes further := by
    rintro ⟨j, k, x, found, _, same⟩
    have placed : inFlight.position? further.hash = some ⟨j, k⟩ := reachable.sound.indexed.mpr ⟨x, found, same⟩
    rw [missing] at placed
    cases placed
  obtain ⟨e, own, _⟩ := (append_guard reachable payer.id paid).2.2 _ _ _ stands rfl
  obtain ⟨f, other, _⟩ := (append_guard reachable payee.id paid).2.2 _ _ _ stands rfl
  exact ⟨reachable, (append_guard reachable payer.id further).1 known chained rfl clear, ⟨e, own⟩, ⟨f, other⟩⟩

end Ledger
end BlockLattice
