import BlockLattice.Proofs.LedgerViews

namespace BlockLattice.Ledger

-- Names and accounts are told by each other, for the registered accounts alone,
-- and an account is stored under the name that follows from its key.
structure Directory (l : Ledger) : Prop where
  named : ∀ {id : AccountId}, l.isRegistered id = true ↔ ∃ name, l.names[id]? = some name
  inverse : ∀ {id : AccountId} {name : String}, l.usernames[name]? = some id ↔ l.names[id]? = some name
  keyed : ∀ {id : AccountId} {a : Account}, l.account? id = some a → a.id = id

theorem isRegistered_iff {l : Ledger} {id : AccountId} : l.isRegistered id = true ↔ ∃ a, l.account? id = some a := by
  rw [isRegistered_eq, Option.isSome_iff_exists]

namespace Registers

variable {l l' : Ledger} {a : Account} {username : String}

theorem account?_eq (registers : l.Registers a username l') (id : AccountId) :
    l'.account? id = if a.id = id then some a else l.account? id := by
  rw [registers.written]
  simp [account?, Std.ExtTreeMap.getElem?_insert]

theorem kept (registers : l.Registers a username l') {id : AccountId} {b : Account} (known : l.account? id = some b) :
    l'.account? id = some b := by
  rw [registers.account?_eq]
  split
  · rename_i same
    have missing : l.account? a.id = none := registers.new
    rw [same, known] at missing
    cases missing
  · exact known

theorem names_eq (registers : l.Registers a username l') (id : AccountId) :
    l'.names[id]? = if a.id = id then some (nameFor username) else l.names[id]? := by
  rw [registers.written]
  simp [Std.ExtTreeMap.getElem?_insert]

theorem usernames_eq (registers : l.Registers a username l') (name : String) :
    l'.usernames[name]? = if nameFor username = name then some a.id else l.usernames[name]? := by
  rw [registers.written]
  simp [Std.ExtTreeMap.getElem?_insert]

theorem unnamed (registers : l.Registers a username l') (directory : l.Directory) : l.names[a.id]? = none := by
  cases found : l.names[a.id]? with
  | none => rfl
  | some name =>
    obtain ⟨b, known⟩ := isRegistered_iff.mp (directory.named.mpr ⟨name, found⟩)
    have missing : l.account? a.id = none := registers.new
    rw [missing] at known
    cases known

theorem directory (registers : l.Registers a username l') (directory : l.Directory) : l'.Directory := by
  have unnamed := registers.unnamed directory
  refine ⟨?_, ?_, ?_⟩
  · intro id
    rw [isRegistered_iff]
    simp only [registers.account?_eq, registers.names_eq]
    split
    · simp
    · rw [← isRegistered_iff]
      exact directory.named
  · intro id name
    rw [registers.usernames_eq, registers.names_eq]
    by_cases mine : a.id = id
    · subst mine
      rw [if_pos rfl]
      split
      · rename_i same
        simp [same]
      · rename_i other
        rw [directory.inverse, unnamed]
        simp [other]
    · rw [if_neg mine]
      split
      · rename_i same
        have free : l.usernames[name]? = none := same ▸ registers.free
        rw [← directory.inverse, free]
        simp [mine]
      · exact directory.inverse
  · intro id b found
    rw [registers.account?_eq] at found
    split at found
    · rename_i same
      cases found
      exact same
    · exact directory.keyed found

end Registers

namespace Removes

variable {l l' : Ledger} {id : AccountId} {a : Account}

theorem account?_eq (removes : l.Removes id a l') (j : AccountId) :
    l'.account? j = if id = j then none else l.account? j := by
  rw [removes.written]
  simp [account?, Std.ExtTreeMap.getElem?_erase]

theorem names_eq (removes : l.Removes id a l') (j : AccountId) :
    l'.names[j]? = if id = j then none else l.names[j]? := by
  rw [removes.written]
  simp [Std.ExtTreeMap.getElem?_erase]

theorem usernames_eq (removes : l.Removes id a l') (name : String) :
    l'.usernames[name]? = if l.names[id]? = some name then none else l.usernames[name]? := by
  rw [removes.written]
  cases found : l.names[id]? with
  | none => simp
  | some old => simp [Std.ExtTreeMap.getElem?_erase]

theorem directory (removes : l.Removes id a l') (directory : l.Directory) : l'.Directory := by
  refine ⟨?_, ?_, ?_⟩
  · intro j
    rw [isRegistered_iff]
    simp only [removes.account?_eq, removes.names_eq]
    split
    · simp
    · rw [← isRegistered_iff]
      exact directory.named
  · intro j name
    rw [removes.usernames_eq, removes.names_eq]
    by_cases mine : id = j
    · subst mine
      rw [if_pos rfl]
      split
      · simp
      · rename_i other
        rw [directory.inverse]
        simp [other]
    · rw [if_neg mine]
      split
      · rename_i taken
        -- The name of the removed account is nobody else's.
        have owner := directory.inverse.mpr taken
        rw [← directory.inverse, owner]
        simp [mine]
      · exact directory.inverse
  · intro j b found
    rw [removes.account?_eq] at found
    split at found
    · cases found
    · exact directory.keyed found

end Removes

namespace Directory

theorem empty : Directory .empty := by
  constructor <;> simp [Ledger.empty, isRegistered, account?]

theorem of_same {l l' : Ledger} (directory : l.Directory) (names : l'.names = l.names)
    (usernames : l'.usernames = l.usernames) (registered : ∀ id, l'.isRegistered id = l.isRegistered id)
    (keyed : ∀ {id : AccountId} {a : Account}, l'.account? id = some a → a.id = id) : l'.Directory := by
  refine ⟨?_, ?_, keyed⟩
  · intro id
    rw [registered, names]
    exact directory.named
  · intro id name
    rw [usernames, names]
    exact directory.inverse

theorem modify {l : Ledger} (directory : l.Directory) (id : AccountId) {change : Account → Account}
    (kept : ∀ a, (change a).keys = a.keys) : (l.modifyAccount id change).Directory := by
  refine directory.of_same (by simp) (by simp) (by simp) fun {j a} found => ?_
  rw [account?_modify] at found
  split at found
  · obtain ⟨b, known, rfl⟩ := Option.map_eq_some_iff.mp found
    rw [← directory.keyed known, Account.id, kept b, Account.id]
  · exact directory.keyed found

theorem call {l : Ledger} (directory : l.Directory) (c : Call) : (l.call c).Directory := by
  cases c with
  | register a username =>
    rw [Ledger.call]
    cases done : l.register a username with
    | error e => exact directory
    | ok result => exact (register_ok done).2.directory directory
  | removeUnopened id =>
    rw [Ledger.call]
    cases done : l.removeUnopened id with
    | error e => exact directory
    | ok result => exact (removeUnopened_ok done).directory directory
  | append id b =>
    rw [Ledger.call]
    cases done : l.append id b with
    | error e => exact directory
    | ok result =>
      obtain ⟨l', hash⟩ := result
      obtain ⟨_, written, _⟩ := append_ok done
      rw [afterwards, written]
      exact directory.of_same rfl rfl (fun _ => rfl) directory.keyed
  | rollback id hash =>
    rw [Ledger.call]
    cases done : l.rollback id hash with
    | error e => exact directory
    | ok result =>
      obtain ⟨l', b⟩ := result
      obtain ⟨c, shorter, undoes⟩ := rollback_ok done
      rw [afterwards, undoes.written]
      exact directory.of_same rfl rfl (fun _ => rfl) directory.keyed
  | edit id change => exact directory.modify id fun _ => rfl

end Directory

theorem Reachable.directory {l : Ledger} (reached : Reachable l) : l.Directory :=
  reached.kept .empty fun _ c directory => directory.call c

end BlockLattice.Ledger
