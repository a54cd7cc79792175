import BlockLattice.Proofs.AccountHistory
import BlockLattice.Proofs.Conservation

namespace BlockLattice.Ledger

theorem insert_comm [Ord α] [Std.TransOrd α] [Std.LawfulEqOrd α] (t : Std.ExtTreeMap α β) {k j : α} (v w : β)
    (apart : k ≠ j) : (t.insert k v).insert j w = (t.insert j w).insert k v := by
  refine Std.ExtTreeMap.ext_getElem? fun i => ?_
  rw [Std.ExtTreeMap.getElem?_insert, Std.ExtTreeMap.getElem?_insert, Std.ExtTreeMap.getElem?_insert,
    Std.ExtTreeMap.getElem?_insert]
  by_cases first : k = i
  · subst first
    simp [apart.symm]
  · simp [first]

variable {l : Ledger} {a b : AccountId} {x y : Block}

theorem Appends.finds (left : l.Appends a x) {s : BlockHash} {send : Block} (found : l.block? s = some send) :
    (l.place a x).block? s = some send := by
  obtain ⟨p, placed, (stands : l.blockAt? p.account p.height = some send)⟩ := Option.bind_eq_some_iff.mp found
  have other : x.hash ≠ s := by
    intro same
    have missing : l.position? x.hash = none := left.fresh
    rw [same, placed] at missing
    cases missing
  refine Option.bind_eq_some_iff.mpr ⟨p, ?_, blockAt?_place_eq_some.mpr (.inr stands)⟩
  rw [position?_place, if_neg other, placed]

theorem Appends.sources_apart (left : l.Appends a x) (right : l.Appends b y) (apart : a ≠ b) {s t : BlockHash}
    (names : x.source? = some s) (other : y.source? = some t) : s ≠ t := by
  rintro rfl
  obtain ⟨send, found, toward, _⟩ := left.send names
  obtain ⟨again, seen, elsewhere, _⟩ := right.send other
  cases found.symm.trans seen
  exact apart (Option.some.inj (toward.symm.trans elsewhere))

theorem Appends.after (right : l.Appends b y) (left : l.Appends a x) (apart : a ≠ b) (differ : x.hash ≠ y.hash) :
    (l.place a x).Appends b y where
  known := right.known
  fits := by
    rw [chainOf_place, if_neg apart]
    exact right.fits
  source := by
    unfold checkSourceOf
    cases names : y.source? with
    | none => rfl
    | some s =>
      obtain ⟨send, found, toward, untaken⟩ := right.send names
      refine checkSource_ok_iff.mpr ⟨send, left.finds found, toward, ?_⟩
      rw [received_place, if_neg fun own => left.sources_apart right apart own names rfl, untaken]
  fresh := by
    have missing : l.position? y.hash = none := right.fresh
    change (l.place a x).position? y.hash = none
    rw [position?_place, if_neg differ, missing]

theorem Appends.received_comm (left : l.Appends a x) (right : l.Appends b y) (apart : a ≠ b) :
    ((l.place a x).place b y).received = ((l.place b y).place a x).received := by
  unfold place
  cases names : x.source? with
  | none => cases y.source? <;> rfl
  | some s =>
    cases other : y.source? with
    | none => rfl
    | some t => exact insert_comm _ _ _ (left.sources_apart right apart names other)

theorem Appends.place_comm (left : l.Appends a x) (right : l.Appends b y) (apart : a ≠ b) (differ : x.hash ≠ y.hash) :
    (l.place a x).place b y = (l.place b y).place a x := by
  have mine : (l.place b y).chainOf a = l.chainOf a := by rw [chainOf_place, if_neg apart.symm]
  have yours : (l.place a x).chainOf b = l.chainOf b := by rw [chainOf_place, if_neg apart]
  apply Ledger.ext
  · rfl
  · change (l.chains.insert a _).insert b _ = (l.chains.insert b _).insert a _
    rw [mine, yours, insert_comm _ _ _ apart]
  · rfl
  · rfl
  · change (l.index.insert x.hash _).insert y.hash _ = (l.index.insert y.hash _).insert x.hash _
    rw [mine, yours, insert_comm _ _ _ differ]
  · exact left.received_comm right apart

-- Two blocks that both can be appended, to chains of different accounts, can be
-- appended one after the other, and the ledger does not tell which was first.
theorem append_comm {m m' : Ledger} {h k : BlockHash} (apart : a ≠ b) (differ : x.hash ≠ y.hash)
    (left : l.append a x = .ok (m, h)) (right : l.append b y = .ok (m', k)) :
    ∃ both, m.append b y = .ok (both, k) ∧ m'.append a x = .ok (both, h) := by
  obtain ⟨mine, rfl, rfl⟩ := append_ok left
  obtain ⟨yours, rfl, rfl⟩ := append_ok right
  refine ⟨(l.place a x).place b y, append_of_appends (yours.after mine apart differ), ?_⟩
  rw [mine.place_comm yours apart differ]
  exact append_of_appends (mine.after yours apart.symm differ.symm)

def taken : Block := .unsigned (.receive (.clamp 500) (funds payee .zero).hash paid.hash ⟨2⟩)

def further : Block := .unsigned (.send (.clamp 9799000) payee.id paid.hash ⟨2⟩)

set_option maxRecDepth 100000 in
theorem crossing_seen : payee.id ≠ payer.id ∧ taken.hash ≠ further.hash ∧
    (inFlight.append payee.id taken).isOk = true ∧ (inFlight.append payer.id further).isOk = true := by decide +kernel

theorem crossing_comm : payee.id ≠ payer.id ∧ taken.hash ≠ further.hash ∧
    ∃ m m' both h k, inFlight.append payee.id taken = .ok (m, h) ∧ inFlight.append payer.id further = .ok (m', k) ∧
      m.append payer.id further = .ok (both, k) ∧ m'.append payee.id taken = .ok (both, h) := by
  obtain ⟨apart, differ, first, second⟩ := crossing_seen
  refine ⟨apart, differ, ?_⟩
  cases left : inFlight.append payee.id taken with
  | error e => rw [left] at first; cases first
  | ok result =>
    cases right : inFlight.append payer.id further with
    | error e => rw [right] at second; cases second
    | ok other =>
      obtain ⟨both, later, earlier⟩ := append_comm apart differ left right
      exact ⟨_, _, both, _, _, rfl, rfl, later, earlier⟩

end BlockLattice.Ledger
