import BlockLattice.Election
import BlockLattice.Proofs.AccountNames
import BlockLattice.Proofs.LetterCase

namespace BlockLattice

namespace Election

variable {l : Ledger} {name : String}

theorem parseToken?_cons {token : String} (sign : Char) (chars : token.toList = sign :: name.toList)
    (written : name ≠ "") :
    parseToken? l token = (l.idByUsername? name).bind fun id =>
      if sign = '+' then some (.add id) else if sign = '-' then some (.remove id) else none := by
  have begun : name.toList.isEmpty = false := by simpa using written
  simp [parseToken?, chars, begun]

theorem parseToken?_add (written : name ≠ "") :
    parseToken? l ("+" ++ name) = (l.idByUsername? name).map .add := by
  rw [parseToken?_cons '+' (by simp) written]
  cases l.idByUsername? name <;> rfl

theorem parseToken?_remove (written : name ≠ "") :
    parseToken? l ("-" ++ name) = (l.idByUsername? name).map .remove := by
  rw [parseToken?_cons '-' (by simp) written]
  cases l.idByUsername? name <;> rfl

end Election

namespace Ledger

variable {l : Ledger} {id : AccountId} {name v : String}

theorem Directory.idByUsername?_iff (directory : l.Directory) :
    l.idByUsername? v = some id ↔ l.username? id = some (Lowercase.text v) := by
  rw [username?, ← directory.inverse, idByUsername?, Option.bind_eq_bind, Option.bind_eq_some_iff]
  constructor
  · rintro ⟨j, holder, same⟩
    cases (Option.ite_none_right_eq_some.mp same).2
    exact holder
  · intro holder
    have registered : l.accounts.contains id = true := directory.named.mpr ⟨_, directory.inverse.mp holder⟩
    exact ⟨id, holder, if_pos registered⟩

theorem trim_nameFor (u : String) : Blank.trim (nameFor u) = nameFor u := Lowercase.trim_text.mpr (Blank.trim_trim u)

theorem trim_username? {calls : List Call} (named : (replay calls).username? id = some name) :
    Blank.trim name = name ∧ name ≠ "" := by
  obtain ⟨_, _, _, _, _, _, done, rfl, _⟩ := username?_replay.mp named
  exact ⟨trim_nameFor _, (register_ok done).2.named⟩

theorem idByUsername?_padded (calls : List Call) (padded : Blank.trim v ≠ v) : (replay calls).idByUsername? v = none := by
  rw [Option.eq_none_iff_forall_ne_some]
  intro id found
  have named := (reachable_replay calls).directory.idByUsername?_iff.mp found
  exact padded (Lowercase.trim_text.mp (trim_username? named).1)

structure Addresses (l : Ledger) (v : String) (id : AccountId) : Prop where
  found : ∃ a, (l.idByUsername? v).bind l.account? = some a ∧ a.id = id
  added : Election.parseToken? l ("+" ++ v) = some (.add id)
  removed : Election.parseToken? l ("-" ++ v) = some (.remove id)

structure Misses (l : Ledger) (v : String) : Prop where
  unfound : (l.idByUsername? v).bind l.account? = none
  skipped : Election.parseToken? l ("+" ++ v) = none ∧ Election.parseToken? l ("-" ++ v) = none

theorem Directory.addresses_iff (directory : l.Directory) (written : v ≠ "") :
    l.Addresses v id ↔ l.username? id = some (Lowercase.text v) := by
  rw [← directory.idByUsername?_iff]
  constructor
  · intro addresses
    obtain ⟨a, found, rfl⟩ := addresses.found
    exact directory.idByUsername?_iff.mpr (directory.byUsername_iff.mp found).2
  · intro found
    have registered := directory.named.mpr ⟨_, directory.idByUsername?_iff.mp found⟩
    obtain ⟨a, known⟩ := isRegistered_iff.mp registered
    refine ⟨⟨a, ?_, directory.keyed known⟩, ?_, ?_⟩
    · rw [found, Option.bind_some, known]
    · rw [Election.parseToken?_add written, found, Option.map_some]
    · rw [Election.parseToken?_remove written, found, Option.map_some]

theorem misses_padded (calls : List Call) (padded : Blank.trim v ≠ v) : (replay calls).Misses v := by
  have unfound := idByUsername?_padded calls padded
  have written : v ≠ "" := by
    rintro rfl
    exact padded rfl
  refine ⟨?_, ?_, ?_⟩
  · rw [unfound, Option.bind_none]
  · rw [Election.parseToken?_add written, unfound, Option.map_none]
  · rw [Election.parseToken?_remove written, unfound, Option.map_none]

-- As long as an account is not removed, it is found and voted for under every text
-- that is in lower case what its trimmed name is, and under no other. The text that it
-- was registered with is one of them if there is nothing to trim; if there is, that
-- text leads to nobody.
theorem registered_lookup {before after : List Call} {a : Account} {u : String} {l' : Ledger} {id : AccountId}
    (done : (replay before).register a u = .ok (l', id)) (kept : ¬ l'.Freed id after) :
    let l := replay (before ++ .register a u :: after)
    (∀ v, l.Addresses v id ↔ Lowercase.text v = Lowercase.text (Blank.trim u)) ∧
    (Blank.trim u = u → l.Addresses u id) ∧ (Blank.trim u ≠ u → l.Misses u) := by
  intro l
  have directory := (reachable_replay (before ++ .register a u :: after)).directory
  have named : l.username? id = some (nameFor u) := username?_replay.mpr ⟨before, a, u, after, l', rfl, done, rfl, kept⟩
  have spelled : ∀ v, l.Addresses v id ↔ Lowercase.text v = nameFor u := by
    intro v
    by_cases written : v = ""
    · subst written
      constructor
      · intro addresses
        cases addresses.added
      · intro same
        exact absurd same.symm (register_ok done).2.named
    · rw [directory.addresses_iff written, named, Option.some.injEq, eq_comm]
  refine ⟨spelled, fun trimmed => (spelled u).mpr ?_, misses_padded _⟩
  rw [nameFor, trimmed]

theorem register_empty (a : Account) {u : String} (written : nameFor u ≠ "") :
    ∃ l', (replay []).register a u = .ok (l', a.id) := by
  cases done : (replay []).register a u with
  | ok result =>
    obtain ⟨l', id⟩ := result
    obtain ⟨rfl, _⟩ := register_ok done
    exact ⟨l', rfl⟩
  | error e =>
    cases Directory.empty.register_error_iff.mp done with
    | blank empty => exact absurd empty written
    | taken _ held => cases held
    | known _ _ found => cases found

def sophos : Account := .new (.ofPrivate ⟨1⟩)

theorem sophos_found : ∃ l', (replay []).register sophos "Sophos " = .ok (l', sophos.id) ∧
    ¬ l'.Freed sophos.id [.rollback sophos.id .zero] ∧
    (replay ([] ++ .register sophos "Sophos " :: [.rollback sophos.id .zero])).Addresses "SOPHOS" sophos.id := by
  obtain ⟨l', done⟩ := register_empty sophos (u := "Sophos ") (by decide +kernel)
  have kept : ¬ l'.Freed sophos.id [.rollback sophos.id .zero] := by simp [Freed, Frees]
  exact ⟨l', done, kept, ((registered_lookup done kept).1 "SOPHOS").mpr (by decide +kernel)⟩

-- The text that the account has just been registered with leads to nobody.
theorem padded_unfound : ∃ l', (replay []).register sophos " sophos" = .ok (l', sophos.id) ∧
    ¬ l'.Freed sophos.id [] ∧ (replay ([] ++ .register sophos " sophos" :: [])).Misses " sophos" := by
  obtain ⟨l', done⟩ := register_empty sophos (u := " sophos") (by decide +kernel)
  exact ⟨l', done, id, misses_padded _ (by decide +kernel)⟩

end Ledger
end BlockLattice
