import BlockLattice.Chain

namespace BlockLattice.Chain

inductive Fits (c : Chain) (b : Block) : Prop where
  | first (blank : c.blocks = []) (named : ∃ balance time, b.content = .opening c.account balance time)
  | next (begun : c.blocks ≠ []) (later : b.isOpening = false) (follows : b.previous = c.head)

theorem fits_of_checkAppend {c : Chain} {b : Block} (checked : c.checkAppend b = .ok ()) : c.Fits b := by
  unfold checkAppend at checked
  split at checked
  · rename_i account balance time blank opening
    split at checked
    · rename_i same
      exact .first blank ⟨balance, time, by rw [opening, same]⟩
    · cases checked
  · cases checked
  · cases checked
  · rename_i first rest held later
    split at checked
    · rename_i follows
      refine .next (by simp [held]) ?_ follows
      unfold Block.isOpening
      cases content : b.content with
      | opening account balance time => exact absurd content (later account balance time)
      | _ => rfl
    · cases checked

theorem checkAppend_of_fits {c : Chain} {b : Block} (fits : c.Fits b) : c.checkAppend b = .ok () := by
  unfold checkAppend
  cases fits with
  | first blank named =>
    obtain ⟨balance, time, content⟩ := named
    simp [blank, content]
  | next begun later follows =>
    obtain ⟨first, rest, held⟩ := List.exists_cons_of_ne_nil begun
    unfold Block.isOpening at later
    cases content : b.content with
    | opening account balance time => rw [content] at later; cases later
    | _ => simp [held, follows]

theorem walk_append (hash : BlockHash) (xs ys : List Block) :
    walk hash (xs ++ ys) = (walk hash xs).bind fun reached => walk reached ys := by
  induction xs generalizing hash with
  | nil => rfl
  | cons b rest ih =>
    simp only [List.cons_append, walk]
    split
    · rfl
    · exact ih b.hash

theorem walk_cons_eq_some {hash last : BlockHash} {b : Block} {rest : List Block} :
    walk hash (b :: rest) = some last ↔
      b.isOpening = false ∧ b.previous = hash ∧ walk b.hash rest = some last := by
  cases opening : b.isOpening <;> by_cases follows : b.previous = hash <;> simp [walk, opening, follows]

theorem walk_snoc_eq_some {hash last : BlockHash} {xs : List Block} {b : Block} :
    walk hash (xs ++ [b]) = some last ↔
      walk hash xs = some b.previous ∧ b.isOpening = false ∧ b.hash = last := by
  rw [walk_append, Option.bind_eq_some_iff]
  constructor
  · rintro ⟨reached, passed, final⟩
    obtain ⟨later, follows, same⟩ := walk_cons_eq_some.mp final
    exact ⟨by rw [passed, follows], later, by simpa [walk] using same⟩
  · rintro ⟨passed, later, same⟩
    exact ⟨b.previous, passed, walk_cons_eq_some.mpr ⟨later, rfl, by simp [walk, same]⟩⟩

theorem walk_later {hash last : BlockHash} {bs : List Block} (walked : walk hash bs = some last) :
    ∀ b ∈ bs, b.isOpening = false := by
  induction bs generalizing hash with
  | nil => intro b member; cases member
  | cons first rest ih =>
    obtain ⟨later, _, walkedRest⟩ := walk_cons_eq_some.mp walked
    intro b member
    rcases List.mem_cons.mp member with rfl | old
    · exact later
    · exact ih walkedRest b old

theorem walk_linked {hash last : BlockHash} {bs : List Block} (walked : walk hash bs = some last)
    {k : Nat} {b : Block} (found : bs[k + 1]? = some b) : ∃ a, bs[k]? = some a ∧ b.previous = a.hash := by
  induction bs generalizing hash k with
  | nil => cases found
  | cons first rest ih =>
    obtain ⟨_, _, walkedRest⟩ := walk_cons_eq_some.mp walked
    cases k with
    | zero =>
      refine ⟨first, rfl, ?_⟩
      cases rest with
      | nil => cases found
      | cons second others =>
        have same : second = b := by simpa using found
        rw [← same]
        exact (walk_cons_eq_some.mp walkedRest).2.1
    | succ k =>
      have foundRest : rest[k + 1]? = some b := by simpa using found
      obtain ⟨a, before, follows⟩ := ih walkedRest foundRest
      exact ⟨a, by simpa using before, follows⟩

@[simp] theorem head_push (c : Chain) (b : Block) (hash : BlockHash) : (c.push b hash).head = hash := rfl
@[simp] theorem blocks_push (c : Chain) (b : Block) (hash : BlockHash) :
    (c.push b hash).blocks = c.blocks ++ [b] := rfl

-- A chain as a ledger holds it: it belongs to the account, a block that opens
-- the account comes first, and the links lead from there to the head.
structure Opened (c : Chain) (id : AccountId) : Prop where
  account : c.account = id
  opening : ∃ balance time first rest, c.blocks = first :: rest ∧ first.content = .opening id balance time ∧
    walk first.hash rest = some c.head

namespace Opened

theorem intact {c : Chain} {id : AccountId} (opened : c.Opened id) : c.intact = true := by
  obtain ⟨_, _, first, rest, held, content, walked⟩ := opened.opening
  simp [Chain.intact, held, Block.isOpening, content, Content.isOpening, walked]

theorem begun {c : Chain} {id : AccountId} (opened : c.Opened id) : c.blocks ≠ [] := by
  obtain ⟨_, _, first, rest, held, _⟩ := opened.opening
  simp [held]

theorem first {c : Chain} {id : AccountId} (opened : c.Opened id) :
    ∃ balance time b, c.get? 0 = some b ∧ b.content = .opening id balance time := by
  obtain ⟨balance, time, first, rest, held, content, _⟩ := opened.opening
  exact ⟨balance, time, first, by simp [get?, held], content⟩

theorem later {c : Chain} {id : AccountId} (opened : c.Opened id) {k : Nat} {b : Block}
    (found : c.get? (k + 1) = some b) : b.isOpening = false := by
  obtain ⟨_, _, first, rest, held, _, walked⟩ := opened.opening
  simp only [get?, held, List.getElem?_cons_succ] at found
  exact walk_later walked b (List.mem_of_getElem? found)

theorem linked {c : Chain} {id : AccountId} (opened : c.Opened id) {k : Nat} {b : Block}
    (found : c.get? (k + 1) = some b) : ∃ a, c.get? k = some a ∧ b.previous = a.hash := by
  obtain ⟨_, _, first, rest, held, _, walked⟩ := opened.opening
  simp only [get?, held, List.getElem?_cons_succ] at found ⊢
  cases k with
  | zero =>
    refine ⟨first, rfl, ?_⟩
    cases rest with
    | nil => cases found
    | cons second others =>
      have same : second = b := by simpa using found
      rw [← same]
      exact (walk_cons_eq_some.mp walked).2.1
  | succ k => simpa using walk_linked walked found

theorem head {c : Chain} {id : AccountId} (opened : c.Opened id) {b : Block} (last : c.latest? = some b) :
    c.head = b.hash := by
  obtain ⟨_, _, first, rest, held, _, walked⟩ := opened.opening
  rcases List.eq_nil_or_concat rest with rfl | ⟨before, final, rfl⟩
  · have same : first = b := by simpa [latest?, held] using last
    have reached : first.hash = c.head := by simpa [walk] using walked
    rw [← reached, same]
  · rw [List.concat_eq_append] at held walked
    have ended : c.blocks = (first :: before) ++ [final] := held
    rw [latest?, ended, List.getLast?_concat] at last
    have same : final = b := Option.some.inj last
    rw [← (walk_snoc_eq_some.mp walked).2.2, same]

theorem push {c : Chain} {id : AccountId} {b : Block} (opened : c.Opened id) (later : b.isOpening = false)
    (follows : b.previous = c.head) : (c.push b b.hash).Opened id := by
  obtain ⟨balance, time, first, rest, held, content, walked⟩ := opened.opening
  refine ⟨opened.account, balance, time, first, rest ++ [b], by simp [held], content, ?_⟩
  rw [head_push]
  exact walk_snoc_eq_some.mpr ⟨by rw [walked, follows], later, rfl⟩

end Opened

theorem opened_push_empty {id : AccountId} {b : Block} {balance : Amount} {time : Timestamp}
    (named : b.content = .opening id balance time) : ((empty id).push b b.hash).Opened id :=
  ⟨rfl, balance, time, b, [], by simp [empty, push], named, rfl⟩

structure Popped (c : Chain) (id : AccountId) (b : Block) (shorter : Chain) : Prop where
  blocks : c.blocks = shorter.blocks ++ [b]
  hash : c.head = b.hash
  remains : shorter = empty id ∨ shorter.Opened id

theorem Opened.popped {c : Chain} {id : AccountId} {b : Block} {shorter : Chain} (opened : c.Opened id)
    (taken : c.pop? = some (b, shorter)) : c.Popped id b shorter := by
  obtain ⟨last, found, same⟩ := Option.map_eq_some_iff.mp taken
  cases same
  have headed := opened.head found
  obtain ⟨balance, time, first, rest, held, content, walked⟩ := opened.opening
  have account := opened.account
  rcases List.eq_nil_or_concat rest with rfl | ⟨before, final, rfl⟩
  · have same : first = b := by simpa [latest?, held] using found
    subst same
    refine ⟨by simp [held], headed, .inl ?_⟩
    have previous : first.previous = .zero := by simp [Block.previous, content, Content.previous]
    simp [empty, held, previous, account]
  · rw [List.concat_eq_append] at held walked
    have ended : c.blocks = (first :: before) ++ [final] := held
    rw [latest?, ended, List.getLast?_concat] at found
    have same : final = b := Option.some.inj found
    subst same
    have dropped : c.blocks.dropLast = first :: before := by rw [ended, List.dropLast_concat]
    refine ⟨by rw [dropped, ended], headed, .inr ⟨account, balance, time, first, before, dropped, content, ?_⟩⟩
    exact (walk_snoc_eq_some.mp walked).1

theorem pop_push {c : Chain} {b : Block} {hash : BlockHash} (follows : b.previous = c.head) :
    (c.push b hash).pop? = some (b, c) := by
  simp [pop?, push, latest?, follows]

end BlockLattice.Chain
