import BlockLattice.Proofs.Independence
import BlockLattice.Proofs.LedgerUndo
import BlockLattice.Proofs.Placement

namespace BlockLattice.Ledger

def appendAll (l : Ledger) : List (AccountId × Block) → Except LedgerError (Ledger × List BlockHash)
  | [] => .ok (l, [])
  | (id, b) :: rest => do
    let (l, hash) ← l.append id b
    let (l, hashes) ← l.appendAll rest
    return (l, hash :: hashes)

def rollbackAll (l : Ledger) : List (AccountId × BlockHash) → Except LedgerError (Ledger × List Block)
  | [] => .ok (l, [])
  | (id, hash) :: rest => do
    let (l, b) ← l.rollback id hash
    let (l, blocks) ← l.rollbackAll rest
    return (l, b :: blocks)

variable {l m l' : Ledger} {id : AccountId} {b : Block} {hash : BlockHash}

theorem appendAll_cons_ok {rest : List (AccountId × Block)} {hashes : List BlockHash}
    (done : l.appendAll ((id, b) :: rest) = .ok (l', hashes)) :
    ∃ m hash others, l.append id b = .ok (m, hash) ∧ m.appendAll rest = .ok (l', others) ∧ hashes = hash :: others := by
  rw [appendAll] at done
  cases first : l.append id b with
  | error e => rw [first] at done; cases done
  | ok placed =>
    obtain ⟨m, hash⟩ := placed
    rw [first] at done
    simp only [bind, Except.bind] at done
    cases later : m.appendAll rest with
    | error e => rw [later] at done; cases done
    | ok result =>
      rw [later] at done
      cases done
      exact ⟨m, hash, result.2, rfl, later, rfl⟩

theorem rollbackAll_snoc {before : List (AccountId × BlockHash)} {blocks : List Block}
    (first : l.rollbackAll before = .ok (m, blocks)) (last : m.rollback id hash = .ok (l', b)) :
    l.rollbackAll (before ++ [(id, hash)]) = .ok (l', blocks ++ [b]) := by
  induction before generalizing l blocks with
  | nil =>
    cases first
    rw [List.nil_append, rollbackAll, last]
    rfl
  | cons step rest ih =>
    obtain ⟨j, other⟩ := step
    rw [rollbackAll] at first
    rw [List.cons_append, rollbackAll]
    cases undone : l.rollback j other with
    | error e => rw [undone] at first; cases first
    | ok result =>
      obtain ⟨shorter, x⟩ := result
      rw [undone] at first
      simp only [bind, Except.bind] at first ⊢
      cases later : shorter.rollbackAll rest with
      | error e => rw [later] at first; cases first
      | ok result =>
        rw [later] at first
        cases first
        rw [ih later]
        rfl

theorem Sound.rollback_append (sound : l.Sound) (done : l.append id b = .ok (l', hash)) :
    l'.rollback id hash = .ok (l, b) := by
  obtain ⟨appends, rfl, rfl⟩ := append_ok done
  exact rollback_place appends sound

-- By induction on the blocks: what came after the first of them is gone before it.
theorem Sound.rollbackAll_appendAll {steps : List (AccountId × Block)} {hashes : List BlockHash} (sound : l.Sound)
    (done : l.appendAll steps = .ok (l', hashes)) :
    l'.rollbackAll ((steps.map Prod.fst).zip hashes).reverse = .ok (l, (steps.map Prod.snd).reverse) := by
  induction steps generalizing l hashes with
  | nil =>
    cases done
    rfl
  | cons step rest ih =>
    obtain ⟨id, b⟩ := step
    obtain ⟨m, hash, others, first, later, rfl⟩ := appendAll_cons_ok done
    obtain ⟨appends, placed, _⟩ := append_ok first
    have back := ih (placed ▸ appends.sound sound) later
    simp only [List.map_cons, List.zip_cons_cons, List.reverse_cons]
    exact rollbackAll_snoc back (sound.rollback_append first)

def IsTaken (l : Ledger) (hash : BlockHash) : Prop := ∃ id k b, l.blockAt? id k = some b ∧ b.source? = some hash

theorem Sound.isTaken_iff (sound : l.Sound) : l.IsTaken hash ↔ l.isReceived hash = true := by
  rw [isReceived, Std.ExtTreeMap.contains_eq_isSome_getElem?, Option.isSome_iff_exists]
  constructor
  · rintro ⟨id, k, b, found, names⟩
    exact ⟨b.hash, sound.received.mpr ⟨id, k, b, found, names, rfl⟩⟩
  · rintro ⟨r, taken⟩
    obtain ⟨id, k, b, found, names, _⟩ := sound.received.mp taken
    exact ⟨id, k, b, found, names⟩

inductive Keeps (l : Ledger) (id : AccountId) (hash : BlockHash) : LedgerError → Prop where
  | unopened : l.latest? id = none → Keeps l id hash (.notOpened id)
  | buried {tip b : Block} {j : AccountId} {k : Nat} : l.latest? id = some tip → tip.hash ≠ hash →
      l.blockAt? j k = some b → b.hash = hash → Keeps l id hash (.notChainTip hash)
  | missing {tip : Block} : l.latest? id = some tip → (∀ j k b, l.blockAt? j k = some b → b.hash ≠ hash) →
      Keeps l id hash (.blockNotFound hash)
  | received {tip : Block} : l.latest? id = some tip → tip.hash = hash → l.IsTaken hash →
      Keeps l id hash (.sendAlreadyReceived hash)

theorem Sound.keeps_of_error (sound : l.Sound) {e : LedgerError} (refused : l.rollback id hash = .error e) :
    l.Keeps id hash e := by
  unfold rollback at refused
  cases last : l.latest? id with
  | none =>
    rw [sound.unopened_of_latest last] at refused
    cases refused
    exact .unopened last
  | some tip =>
    obtain ⟨c, held, final⟩ := Option.bind_eq_some_iff.mp last
    rw [held] at refused
    dsimp only at refused
    rw [(sound.opened held).head final, Chain.pop?, final] at refused
    by_cases same : tip.hash = hash
    · rw [if_neg (not_not_intro same)] at refused
      cases taken : l.isReceived hash with
      | true =>
        rw [taken] at refused
        cases refused
        exact .received last same (sound.isTaken_iff.mpr taken)
      | false =>
        rw [taken] at refused
        cases refused
    · have indexed : l.index.contains hash = (l.position? hash).isSome := Std.ExtTreeMap.contains_eq_isSome_getElem?
      rw [if_pos same, indexed] at refused
      cases placed : l.position? hash with
      | some p =>
        rw [placed] at refused
        cases refused
        obtain ⟨b, found, named⟩ := sound.indexed.mp placed
        exact .buried last same found named
      | none =>
        rw [placed] at refused
        cases refused
        refine .missing last fun j k b found named => ?_
        have stands : l.position? hash = some ⟨j, k⟩ := sound.indexed.mpr ⟨b, found, named⟩
        rw [placed] at stands
        cases stands

theorem Sound.frees (sound : l.Sound) (done : l.rollback id hash = .ok (l', b)) :
    l.latest? id = some b ∧ b.hash = hash ∧ ¬ l.IsTaken hash := by
  obtain ⟨c, shorter, undoes⟩ := rollback_ok done
  obtain ⟨tip, final, pair⟩ := Option.map_eq_some_iff.mp undoes.popped
  cases pair
  refine ⟨Option.bind_eq_some_iff.mpr ⟨c, undoes.held, final⟩, undoes.named sound, ?_⟩
  rintro ⟨j, k, r, found, names⟩
  have taken := sound.received.mpr ⟨j, k, r, found, names, rfl⟩
  rw [undoes.unreceived] at taken
  cases taken

theorem Sound.rollback_error_iff (sound : l.Sound) : (∃ e, l.rollback id hash = .error e) ↔
    (l.latest? id).map Block.hash ≠ some hash ∨ l.IsTaken hash := by
  constructor
  · rintro ⟨e, refused⟩
    cases sound.keeps_of_error refused with
    | unopened bare => exact .inl (by simp [bare])
    | buried last other _ _ => exact .inl (by simp [last, other])
    | missing last absent => exact .inl (by simp [last, absent _ _ _ (latest?_eq_some.mp last)])
    | received _ _ taken => exact .inr taken
  · intro stays
    cases tried : l.rollback id hash with
    | error e => exact ⟨e, rfl⟩
    | ok result =>
      obtain ⟨last, named, free⟩ := sound.frees tried
      rcases stays with other | taken
      · exact absurd (by rw [last, Option.map_some, named]) other
      · exact absurd taken free

-- After any calls, a block that has been appended can be taken back, which leaves
-- the ledger as it was in every part, and so can any sequence of blocks, the last
-- one first. Nothing but the tip of a chain goes, and no send that is received: the
-- answer says which of the two it is, and the ledger stays as it is.
theorem rollback_undoes (calls : List Call) :
    let l := replay calls
    (∀ id b l' hash, l.append id b = .ok (l', hash) → l'.rollback id hash = .ok (l, b)) ∧
    (∀ steps l' hashes, l.appendAll steps = .ok (l', hashes) →
      l'.rollbackAll ((steps.map Prod.fst).zip hashes).reverse = .ok (l, (steps.map Prod.snd).reverse)) ∧
    (∀ id hash, (l.latest? id).map Block.hash ≠ some hash ∨ l.IsTaken hash ↔
      ∃ e, l.rollback id hash = .error e ∧ l.Keeps id hash e ∧ l.call (.rollback id hash) = l) := by
  have sound := (reachable_replay calls).sound
  refine ⟨fun id b l' hash done => sound.rollback_append done,
    fun steps l' hashes done => sound.rollbackAll_appendAll done, fun id hash => ?_⟩
  rw [← sound.rollback_error_iff]
  constructor
  · rintro ⟨e, refused⟩
    exact ⟨e, refused, sound.keeps_of_error refused, by rw [call, refused]; rfl⟩
  · rintro ⟨e, refused, _⟩
    exact ⟨e, refused⟩

theorem replay_snoc (calls : List Call) (c : Call) : replay (calls ++ [c]) = (replay calls).call c :=
  List.foldl_concat ..

theorem inFlight_replayed : ∃ calls, inFlight = replay calls := by
  unfold inFlight funded
  exact ⟨_, (replay_snoc _ _).symm⟩

theorem taken_undone : ∃ calls l' hash, inFlight = replay calls ∧
    inFlight.append payee.id taken = .ok (l', hash) ∧ l'.rollback payee.id hash = .ok (inFlight, taken) ∧
    ∃ e, l'.rollback payer.id paid.hash = .error e ∧ l'.call (.rollback payer.id paid.hash) = l' := by
  obtain ⟨calls, replayed⟩ := inFlight_replayed
  obtain ⟨_, _, appended, _⟩ := crossing_seen
  cases done : inFlight.append payee.id taken with
  | error e => rw [done] at appended; cases appended
  | ok result =>
    obtain ⟨l', hash⟩ := result
    have later : l' = replay (calls ++ [.append payee.id taken]) := by
      rw [replay_snoc, ← replayed, call, done, afterwards]
    have undone := (rollback_undoes calls).1 payee.id taken l' hash
    have barred := ((rollback_undoes (calls ++ [.append payee.id taken])).2.2 payer.id paid.hash).mp
    rw [← replayed] at undone
    rw [← later] at barred
    obtain ⟨_, placed, _⟩ := append_ok done
    have names : taken.source? = some paid.hash := if_neg inFlight_seen.1.2.2.1
    have stands : l'.IsTaken paid.hash :=
      ⟨payee.id, _, taken, placed ▸ blockAt?_place_eq_some.mpr (.inl ⟨rfl, rfl, rfl⟩), names⟩
    obtain ⟨e, refused, _, same⟩ := barred (.inr stands)
    exact ⟨calls, l', hash, replayed, rfl, undone done, e, refused, same⟩

end BlockLattice.Ledger
