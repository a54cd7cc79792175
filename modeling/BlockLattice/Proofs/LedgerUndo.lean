import BlockLattice.Proofs.LedgerDirectory

namespace BlockLattice

attribute [ext] Ledger

namespace Ledger

theorem erase_insert_missing [Ord α] [Std.TransOrd α] [Std.LawfulEqOrd α] {t : Std.ExtTreeMap α β} {k : α} (v : β)
    (missing : t[k]? = none) : (t.insert k v).erase k = t := by
  refine Std.ExtTreeMap.ext_getElem? fun j => ?_
  rw [Std.ExtTreeMap.getElem?_erase, Std.ExtTreeMap.getElem?_insert]
  by_cases same : k = j
  · subst same
    simp [missing]
  · simp [same]

theorem insert_same [Ord α] [Std.TransOrd α] [Std.LawfulEqOrd α] {t : Std.ExtTreeMap α β} {k : α} {v : β}
    (held : t[k]? = some v) : t.insert k v = t := by
  refine Std.ExtTreeMap.ext_getElem? fun j => ?_
  rw [Std.ExtTreeMap.getElem?_insert]
  by_cases same : k = j
  · subst same
    simp [held]
  · simp [same]

theorem insert_insert_back [Ord α] [Std.TransOrd α] [Std.LawfulEqOrd α] {t : Std.ExtTreeMap α β} {k : α} (v : β)
    {old : β} (held : t[k]? = some old) : (t.insert k v).insert k old = t := by
  refine Std.ExtTreeMap.ext_getElem? fun j => ?_
  rw [Std.ExtTreeMap.getElem?_insert, Std.ExtTreeMap.getElem?_insert]
  by_cases same : k = j
  · subst same
    simp [held]
  · simp [same]

theorem modify_unchanged (l : Ledger) (id : AccountId) : (l.modifyAccount id fun a => a) = l := by
  rcases l.modifyAccount_cases id fun a => a with ⟨_, same⟩ | ⟨a, known, written⟩
  · exact same
  · rw [written, insert_same known]

variable {l l' : Ledger} {id : AccountId} {b : Block}

theorem Appends.follows (appends : l.Appends id b) (sound : l.Sound) : b.previous = (l.chainOf id).head := by
  cases appends.fits with
  | first blank named =>
    obtain ⟨balance, time, content⟩ := named
    cases held : l.chain? id with
    | none =>
      rw [chainOf_unopened held, Block.previous, content]; rfl
    | some c => exact absurd (by rw [← blank, chainOf_of_chain? held]) (sound.opened held).begun
  | next _ _ follows => exact follows

-- The block is not its own source, and nobody can have received it yet.
theorem Appends.unreceived (appends : l.Appends id b) (sound : l.Sound) :
    (l.place id b).received[b.hash]? = none := by
  cases taken : (l.place id b).received[b.hash]? with
  | none => rfl
  | some r =>
    have after := appends.sound sound
    obtain ⟨j, k, x, found, names, _⟩ := after.received.mp taken
    rcases blockAt?_place_eq_some.mp found with ⟨_, _, final⟩ | old
    · obtain ⟨send, stored, _, _⟩ := appends.send (final ▸ names)
      obtain ⟨i, m, placed, same⟩ := sound.block?_eq_some.mp stored
      exact absurd same (appends.new sound placed)
    · obtain ⟨i, m, send, placed, same, _⟩ := sound.sourced old names
      exact absurd same (appends.new sound placed)

theorem rollback_place (appends : l.Appends id b) (sound : l.Sound) :
    (l.place id b).rollback id b.hash = .ok (l, b) := by
  have held : (l.place id b).chain? id = some ((l.chainOf id).push b b.hash) := by rw [chain?_place, if_pos rfl]
  have missing : (l.place id b).isReceived b.hash = false := by
    rw [isReceived, Std.ExtTreeMap.contains_eq_isSome_getElem?, appends.unreceived sound]; rfl
  have chains : (if (l.chainOf id).isEmpty then (l.place id b).chains.erase id
      else (l.place id b).chains.insert id (l.chainOf id)) = l.chains := by
    cases found : l.chain? id with
    | none =>
      rw [chainOf_unopened found]
      exact erase_insert_missing _ found
    | some c =>
      have begun : c.isEmpty = false := by simpa [Chain.isEmpty] using (sound.opened found).begun
      rw [chainOf_of_chain? found, begun]
      exact insert_insert_back _ found
  have index : (l.place id b).index.erase b.hash = l.index := erase_insert_missing _ appends.fresh
  unfold rollback
  rw [held]
  simp only [Chain.head_push, ne_eq, not_true_eq_false, if_false, missing, Bool.false_eq_true,
    Chain.pop_push (appends.follows sound)]
  refine congrArg (fun undone => Except.ok (undone, b)) ?_
  refine Ledger.ext rfl chains rfl rfl index ?_
  unfold place
  cases names : b.source? with
  | none => rfl
  | some source =>
    obtain ⟨_, _, _, untaken⟩ := appends.send names
    exact erase_insert_missing _ untaken

theorem remove_register {a : Account} {username : String} (registers : l.Registers a username l')
    (directory : l.Directory) (unopened : l.chain? a.id = none) (forger : AccountId) {change : Account → Account} :
    ∃ removed, (l'.modifyAccount forger change).removeUnopened a.id = .ok (l.modifyAccount forger change, removed) := by
  have unnamed := registers.unnamed directory
  have missing : (l'.modifyAccount forger change).chains.contains a.id = false := by
    rw [chains_modify, registers.written, Std.ExtTreeMap.contains_eq_isSome_getElem?]
    exact congrArg Option.isSome unopened
  have known : ∃ removed, (l'.modifyAccount forger change).account? a.id = some removed := by
    rw [account?_modify, registers.account?_eq, if_pos rfl]
    split
    · exact ⟨_, rfl⟩
    · exact ⟨_, rfl⟩
  obtain ⟨removed, found⟩ := known
  refine ⟨removed, ?_⟩
  have accounts : (l'.modifyAccount forger change).accounts.erase a.id = (l.modifyAccount forger change).accounts := by
    refine Std.ExtTreeMap.ext_getElem? fun j => ?_
    change ((l'.modifyAccount forger change).accounts.erase a.id)[j]? = (l.modifyAccount forger change).account? j
    have before : (l'.modifyAccount forger change).accounts[j]? = (l'.modifyAccount forger change).account? j := rfl
    rw [Std.ExtTreeMap.getElem?_erase, before, account?_modify, account?_modify, registers.account?_eq]
    by_cases same : a.id = j
    · have new : l.account? j = none := same ▸ registers.new
      simp [same, new]
    · simp [same]
  have names : (l'.modifyAccount forger change).names.erase a.id = l.names := by
    rw [names_modify, registers.written]
    exact erase_insert_missing _ unnamed
  have usernames : (l'.modifyAccount forger change).usernames.erase (nameFor username) = l.usernames := by
    rw [usernames_modify, registers.written]
    exact erase_insert_missing _ registers.free
  have written : (l'.modifyAccount forger change).names[a.id]? = some (nameFor username) := by
    rw [names_modify, registers.names_eq, if_pos rfl]
  obtain ⟨others, shape⟩ := l.modify_accounts forger change
  unfold removeUnopened
  rw [missing, found, written]
  simp only [Bool.false_eq_true, if_false]
  rw [accounts, names, usernames, chains_modify, index_modify, received_modify, registers.written, shape]

end Ledger
end BlockLattice
