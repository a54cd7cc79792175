import BlockLattice.Proofs.LedgerDirectory

namespace BlockLattice.Ledger

def Enters (l : Ledger) (c : Call) (id : AccountId) (name : String) : Prop :=
  ∃ a username l', c = .register a username ∧ l.register a username = .ok (l', id) ∧ nameFor username = name

def Frees (l : Ledger) (c : Call) (id : AccountId) : Prop :=
  c = .removeUnopened id ∧ ∃ l' a, l.removeUnopened id = .ok (l', a)

def Freed (l : Ledger) (id : AccountId) : List Call → Prop
  | [] => False
  | c :: rest => l.Frees c id ∨ (l.call c).Freed id rest

inductive Bars (l : Ledger) (a : Account) (username : String) : LedgerError → Prop where
  | blank : nameFor username = "" → Bars l a username (.invalidUsername "")
  | taken {owner : AccountId} : nameFor username ≠ "" → l.username? owner = some (nameFor username) →
      Bars l a username (.usernameTaken (nameFor username))
  | known : nameFor username ≠ "" → (∀ id, l.username? id ≠ some (nameFor username)) → l.isRegistered a.id = true →
      Bars l a username (.accountExists a.id)

inductive Holds (l : Ledger) (id : AccountId) : LedgerError → Prop where
  | opened : l.isOpened id = true → Holds l id (.accountInUse id)
  | unknown : l.isOpened id = false → l.isRegistered id = false → Holds l id (.accountNotFound id)

variable {l : Ledger} {c : Call} {a : Account} {id : AccountId} {username name : String} {e : LedgerError}

theorem removeUnopened_error_iff : l.removeUnopened id = .error e ↔ l.Holds id e := by
  have opened : l.chains.contains id = l.isOpened id := rfl
  rw [removeUnopened, opened]
  constructor
  · intro refused
    cases held : l.isOpened id with
    | true =>
      rw [held] at refused
      cases refused
      exact .opened held
    | false =>
      rw [held] at refused
      cases known : l.account? id with
      | some a => rw [known] at refused; cases refused
      | none =>
        rw [known] at refused
        cases refused
        exact .unknown held (by rw [isRegistered_eq, known]; rfl)
  · intro barred
    cases barred with
    | opened held => rw [held]; rfl
    | unknown bare missing =>
      rw [isRegistered_eq, Option.isSome_eq_false_iff, Option.isNone_iff_eq_none] at missing
      rw [bare, missing]
      rfl

@[simp] theorem enters_register :
    l.Enters (.register a username) id name ↔ ∃ l', l.register a username = .ok (l', id) ∧ nameFor username = name := by
  constructor
  · rintro ⟨a, username, l', same, done, named⟩
    cases same
    exact ⟨l', done, named⟩
  · rintro ⟨l', done, named⟩
    exact ⟨a, username, l', rfl, done, named⟩

@[simp] theorem frees_removeUnopened {j : AccountId} :
    l.Frees (.removeUnopened j) id ↔ j = id ∧ ∃ l' a, l.removeUnopened j = .ok (l', a) := by
  rw [Frees, Call.removeUnopened.injEq]
  exact and_congr_right fun same => by rw [same]

namespace Directory

theorem free_iff (directory : l.Directory) : l.usernames[name]? = none ↔ ∀ id, l.username? id ≠ some name := by
  simp only [Option.eq_none_iff_forall_ne_some, ne_eq, directory.inverse, username?]

theorem unique {i j : AccountId} (directory : l.Directory) (one : l.username? i = some name)
    (other : l.username? j = some name) : i = j :=
  Option.some.inj ((directory.inverse.mpr one).symm.trans (directory.inverse.mpr other))

theorem register_error_iff (directory : l.Directory) : l.register a username = .error e ↔ l.Bars a username e := by
  have taken : l.usernames.contains (nameFor username) = (l.usernames[nameFor username]?).isSome :=
    Std.ExtTreeMap.contains_eq_isSome_getElem?
  have known : l.accounts.contains a.id = l.isRegistered a.id := rfl
  have unfolded : Lowercase.text (Blank.trim username) = nameFor username := rfl
  simp only [register, unfolded, taken, known]
  constructor
  · intro refused
    by_cases blank : nameFor username = ""
    · rw [if_pos blank, blank] at refused
      cases refused
      exact .blank blank
    · rw [if_neg blank] at refused
      cases holder : l.usernames[nameFor username]? with
      | some id =>
        rw [holder] at refused
        cases refused
        exact .taken blank (directory.inverse.mp holder)
      | none =>
        rw [holder] at refused
        cases found : l.isRegistered a.id with
        | false => rw [found] at refused; cases refused
        | true =>
          rw [found] at refused
          cases refused
          exact .known blank (directory.free_iff.mp holder) found
  · intro barred
    cases barred with
    | blank blank => rw [if_pos blank, blank]
    | taken named held => rw [if_neg named, directory.inverse.mpr held]; rfl
    | known named free found => rw [if_neg named, directory.free_iff.mpr free, found]; rfl

theorem byUsername_iff (directory : l.Directory) : (l.idByUsername? username).bind l.account? = some a ↔
    l.account? a.id = some a ∧ l.username? a.id = some (Lowercase.text username) := by
  rw [username?, ← directory.inverse, Option.bind_eq_some_iff]
  constructor
  · rintro ⟨id, found, account⟩
    obtain ⟨j, holder, same⟩ := Option.bind_eq_some_iff.mp found
    cases (Option.ite_none_right_eq_some.mp same).2
    have keyed := directory.keyed account
    subst keyed
    exact ⟨account, holder⟩
  · rintro ⟨account, holder⟩
    have registered : l.accounts.contains a.id = true := isRegistered_iff.mpr ⟨a, account⟩
    exact ⟨a.id, by rw [idByUsername?, holder, Option.bind_eq_bind, Option.bind_some, if_pos registered], account⟩

theorem username?_call (directory : l.Directory) :
    (l.call c).username? id = some name ↔ l.Enters c id name ∨ l.username? id = some name ∧ ¬ l.Frees c id := by
  cases c with
  | register a username =>
    have apart : ¬ l.Frees (.register a username) id := fun frees => nomatch frees.1
    rw [Ledger.call]
    cases done : l.register a username with
    | error e => simp [afterwards, apart, done]
    | ok result =>
      obtain ⟨l', j⟩ := result
      obtain ⟨rfl, registers⟩ := register_ok done
      have unnamed := registers.unnamed directory
      simp only [afterwards, enters_register, apart, done, username?, registers.names_eq]
      by_cases mine : a.id = id
      · subst mine
        simp [unnamed]
      · simp [mine]
  | removeUnopened j =>
    have apart : ¬ l.Enters (.removeUnopened j) id name := by rintro ⟨_, _, _, same, _⟩; cases same
    rw [Ledger.call]
    cases done : l.removeUnopened j with
    | error e => simp [afterwards, apart, done]
    | ok result =>
      obtain ⟨l', b⟩ := result
      have removes := removeUnopened_ok done
      by_cases mine : j = id
      · subst mine
        simp [afterwards, apart, done, username?, removes.names_eq]
      · simp [afterwards, apart, username?, removes.names_eq, mine]
  | append j b =>
    rw [Ledger.call]
    cases done : l.append j b with
    | error e => simp [afterwards, Enters, Frees]
    | ok result =>
      obtain ⟨l', hash⟩ := result
      obtain ⟨_, written, _⟩ := append_ok done
      simp [afterwards, Enters, Frees, written, username?, place]
  | rollback j hash =>
    rw [Ledger.call]
    cases done : l.rollback j hash with
    | error e => simp [afterwards, Enters, Frees]
    | ok result =>
      obtain ⟨l', b⟩ := result
      obtain ⟨chain, shorter, undoes⟩ := rollback_ok done
      simp [afterwards, Enters, Frees, undoes.written, username?]
  | edit j change => simp [Ledger.call, Enters, Frees, username?]

theorem freed_iff (directory : l.Directory) (held : l.username? id = some name) :
    (l.call c).usernames[name]? = none ↔ l.Frees c id := by
  rw [(directory.call c).free_iff]
  simp only [ne_eq, directory.username?_call]
  constructor
  · intro free
    exact Classical.byContradiction fun stays => free id (.inr ⟨held, stays⟩)
  · rintro frees j (enters | ⟨other, stays⟩)
    · obtain ⟨_, _, _, registers, _⟩ := enters
      cases frees.1.symm.trans registers
    · cases directory.unique held other
      exact stays frees

-- By induction on the calls, with the names that the first of them leaves.
theorem username?_run (directory : l.Directory) (calls : List Call) :
    (calls.foldl Ledger.call l).username? id = some name ↔ (l.username? id = some name ∧ ¬ l.Freed id calls) ∨
      ∃ before c after, calls = before ++ c :: after ∧ (before.foldl Ledger.call l).Enters c id name ∧
        ¬ ((before.foldl Ledger.call l).call c).Freed id after := by
  induction calls generalizing l with
  | nil => simp [Freed]
  | cons c rest ih =>
    rw [List.foldl_cons, ih (directory.call c), directory.username?_call]
    constructor
    · rintro (⟨enters | ⟨held, stays⟩, kept⟩ | ⟨before, d, after, rfl, enters, kept⟩)
      · exact .inr ⟨[], c, rest, rfl, enters, kept⟩
      · exact .inl ⟨held, not_or.mpr ⟨stays, kept⟩⟩
      · exact .inr ⟨c :: before, d, after, rfl, enters, kept⟩
    · rintro (⟨held, kept⟩ | ⟨before, d, after, split, enters, kept⟩)
      · obtain ⟨stays, kept⟩ := not_or.mp kept
        exact .inl ⟨.inr ⟨held, stays⟩, kept⟩
      · cases before with
        | nil =>
          cases split
          exact .inl ⟨.inl enters, kept⟩
        | cons _ before =>
          cases split
          exact .inr ⟨before, d, after, rfl, enters, kept⟩

end Directory

theorem username?_replay {calls : List Call} : (replay calls).username? id = some name ↔
    ∃ before a username after l', calls = before ++ .register a username :: after ∧
      (replay before).register a username = .ok (l', id) ∧ nameFor username = name ∧ ¬ l'.Freed id after := by
  have called {l l' : Ledger} {a : Account} {username : String} (done : l.register a username = .ok (l', id)) :
      l.call (.register a username) = l' := by rw [call, done, afterwards]
  constructor
  · intro named
    rcases (Directory.empty.username?_run calls).mp named with ⟨nobody, _⟩ | ⟨before, c, after, split, enters, kept⟩
    · simp [username?, empty] at nobody
    · obtain ⟨a, username, l', rfl, done, named⟩ := enters
      rw [called done] at kept
      exact ⟨before, a, username, after, l', split, done, named, kept⟩
  · rintro ⟨before, a, username, after, l', split, done, named, kept⟩
    have enters : (replay before).Enters (.register a username) id name := ⟨a, username, l', rfl, done, named⟩
    exact (Directory.empty.username?_run calls).mpr (.inr ⟨before, _, after, split, enters, (called done).symm ▸ kept⟩)

-- After any calls, names and registered accounts belong to each other one to one. The
-- name of an account is the trimmed and lower-cased text under which it was
-- registered last, and it is free again once the account is removed, not sooner.
-- Whoever asks for a name in any case gets the account that has it. What is refused,
-- for one of five reasons, changes nothing.
theorem directory_bijection (calls : List Call) :
    let l := replay calls
    (∀ id name, l.usernames[name]? = some id ↔ l.username? id = some name) ∧
    (∀ id, l.isRegistered id = true ↔ ∃ name, l.username? id = some name) ∧
    (∀ i j name, l.username? i = some name → l.username? j = some name → i = j) ∧
    (∀ id name, l.username? id = some name ↔ ∃ before a username after l',
      calls = before ++ .register a username :: after ∧ (replay before).register a username = .ok (l', id) ∧
        Lowercase.text (Blank.trim username) = name ∧ ¬ l'.Freed id after) ∧
    (∀ id, l.username? id ≠ some "") ∧
    (∀ v a, (l.idByUsername? v).bind l.account? = some a ↔
      l.account? a.id = some a ∧ l.username? a.id = some (Lowercase.text v)) ∧
    (∀ name, l.usernames[name]? = none ↔ ∀ before a username after l' id,
      calls = before ++ .register a username :: after → (replay before).register a username = .ok (l', id) →
        Lowercase.text (Blank.trim username) = name → l'.Freed id after) ∧
    (∀ c id name, l.username? id = some name → ((l.call c).usernames[name]? = none ↔ l.Frees c id)) ∧
    (∀ a username e, l.register a username = .error e ↔ l.Bars a username e) ∧
    (∀ id e, l.removeUnopened id = .error e ↔ l.Holds id e) ∧
    (∀ a username e, l.register a username = .error e → l.call (.register a username) = l) ∧
    (∀ id e, l.removeUnopened id = .error e → l.call (.removeUnopened id) = l) := by
  have directory := (reachable_replay calls).directory
  refine ⟨fun _ _ => directory.inverse, fun _ => directory.named, fun _ _ _ => directory.unique,
    fun _ _ => username?_replay, ?_, fun _ _ => directory.byUsername_iff, ?_, fun _ _ _ => directory.freed_iff,
    fun _ _ _ => directory.register_error_iff, fun _ _ => removeUnopened_error_iff, ?_, ?_⟩
  · intro id named
    obtain ⟨_, _, _, _, _, _, done, blank, _⟩ := username?_replay.mp named
    exact (register_ok done).2.named blank
  · intro name
    rw [directory.free_iff]
    constructor
    · intro free before a username after l' id split done named
      refine Classical.byContradiction fun kept => ?_
      exact free id (username?_replay.mpr ⟨before, a, username, after, l', split, done, named, kept⟩)
    · intro removed id held
      obtain ⟨before, a, username, after, l', split, done, named, kept⟩ := username?_replay.mp held
      exact kept (removed before a username after l' id split done named)
  · intro a username e refused
    rw [call, refused, afterwards]
  · intro id e refused
    rw [call, refused, afterwards]

end BlockLattice.Ledger
