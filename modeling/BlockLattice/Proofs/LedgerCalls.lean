import BlockLattice.Ledger.Append
import BlockLattice.Ledger.Directory
import BlockLattice.Proofs.ChainStructure

namespace BlockLattice

-- Changes the fields of an account that are open to everybody. Its keys, and so
-- its name, are not among them.
def Account.edit (change : Account → Account) (a : Account) : Account := { change a with keys := a.keys }

namespace Ledger

inductive Call where
  | register (account : Account) (username : String)
  | removeUnopened (id : AccountId)
  | append (id : AccountId) (b : Block)
  | rollback (id : AccountId) (hash : BlockHash)
  | edit (id : AccountId) (change : Account → Account)

def afterwards (l : Ledger) : Except LedgerError (Ledger × α) → Ledger
  | .ok (l', _) => l'
  | .error _ => l

def call (l : Ledger) : Call → Ledger
  | .register a username => l.afterwards (l.register a username)
  | .removeUnopened id => l.afterwards (l.removeUnopened id)
  | .append id b => l.afterwards (l.append id b)
  | .rollback id hash => l.afterwards (l.rollback id hash)
  | .edit id change => l.modifyAccount id (Account.edit change)

inductive Leads : Ledger → Ledger → Prop where
  | refl : Leads l l
  | call : Leads l m → (c : Call) → Leads l (m.call c)

def Reachable (l : Ledger) : Prop := Leads .empty l

theorem Leads.trans {l m r : Ledger} (before : Leads l m) (after : Leads m r) : Leads l r := by
  induction after with
  | refl => exact before
  | call _ c ih => exact ih.call c

theorem Reachable.leads {l m : Ledger} (reached : Reachable l) (later : Leads l m) : Reachable m :=
  Leads.trans reached later

def replay (calls : List Call) : Ledger := calls.foldl call .empty

theorem leads_foldl {l m : Ledger} (before : Leads l m) (calls : List Call) : Leads l (calls.foldl call m) := by
  induction calls generalizing m with
  | nil => exact before
  | cons c rest ih => exact ih (before.call c)

theorem reachable_replay (calls : List Call) : Reachable (replay calls) := leads_foldl .refl calls

theorem Reachable.kept {P : Ledger → Prop} (start : P .empty) (step : ∀ l c, P l → P (l.call c))
    {l : Ledger} (reached : Reachable l) : P l := by
  unfold Reachable at reached
  induction reached with
  | refl => exact start
  | call _ c ih => exact step _ c ih

theorem leads_register {l l' : Ledger} {a : Account} {username : String} {id : AccountId}
    (done : l.register a username = .ok (l', id)) : Leads l l' := by
  have step := Leads.refl.call (l := l) (.register a username)
  rwa [call, done] at step

theorem leads_removeUnopened {l l' : Ledger} {a : Account} {id : AccountId}
    (done : l.removeUnopened id = .ok (l', a)) : Leads l l' := by
  have step := Leads.refl.call (l := l) (.removeUnopened id)
  rwa [call, done] at step

theorem leads_append {l l' : Ledger} {id : AccountId} {b : Block} {hash : BlockHash}
    (done : l.append id b = .ok (l', hash)) : Leads l l' := by
  have step := Leads.refl.call (l := l) (.append id b)
  rwa [call, done] at step

theorem leads_rollback {l l' : Ledger} {id : AccountId} {b : Block} {hash : BlockHash}
    (done : l.rollback id hash = .ok (l', b)) : Leads l l' := by
  have step := Leads.refl.call (l := l) (.rollback id hash)
  rwa [call, done] at step

theorem leads_modify (l : Ledger) (id : AccountId) (change : Account → Account)
    (kept : ∀ a, (change a).keys = a.keys) : Leads l (l.modifyAccount id change) := by
  have same : Account.edit change = change := by
    funext a
    rw [Account.edit, ← kept a]
  have step := Leads.refl.call (l := l) (.edit id change)
  rwa [call, same] at step

def nameFor (username : String) : String := Lowercase.text (Blank.trim username)

structure Registers (l : Ledger) (a : Account) (username : String) (l' : Ledger) : Prop where
  named : nameFor username ≠ ""
  free : l.usernames[nameFor username]? = none
  new : l.accounts[a.id]? = none
  written : l' = { l with
    usernames := l.usernames.insert (nameFor username) a.id
    names := l.names.insert a.id (nameFor username)
    accounts := l.accounts.insert a.id a }

theorem register_ok {l l' : Ledger} {a : Account} {username : String} {id : AccountId}
    (done : l.register a username = .ok (l', id)) : id = a.id ∧ l.Registers a username l' := by
  unfold register at done
  dsimp only at done
  split at done
  · cases done
  · rename_i named
    split at done
    · cases done
    · rename_i free
      split at done
      · cases done
      · rename_i new
        cases done
        exact ⟨rfl, named, Std.ExtTreeMap.getElem?_eq_none_of_contains_eq_false (eq_false_of_ne_true free),
          Std.ExtTreeMap.getElem?_eq_none_of_contains_eq_false (eq_false_of_ne_true new), rfl⟩

structure Removes (l : Ledger) (id : AccountId) (a : Account) (l' : Ledger) : Prop where
  unopened : l.chain? id = none
  known : l.account? id = some a
  written : l' = { l with
    accounts := l.accounts.erase id
    names := l.names.erase id
    usernames := match l.names[id]? with
      | some name => l.usernames.erase name
      | none => l.usernames }

theorem removeUnopened_ok {l l' : Ledger} {a : Account} {id : AccountId}
    (done : l.removeUnopened id = .ok (l', a)) : l.Removes id a l' := by
  unfold removeUnopened at done
  split at done
  · cases done
  · rename_i unopened
    split at done
    · cases done
    · rename_i account known
      cases done
      exact ⟨Std.ExtTreeMap.getElem?_eq_none_of_contains_eq_false (eq_false_of_ne_true unopened), known, rfl⟩

structure Appends (l : Ledger) (id : AccountId) (b : Block) : Prop where
  known : l.isRegistered id = true
  fits : (l.chainOf id).Fits b
  source : l.checkSourceOf id b = .ok ()
  fresh : l.index[b.hash]? = none

theorem append_ok {l l' : Ledger} {id : AccountId} {b : Block} {hash : BlockHash}
    (done : l.append id b = .ok (l', hash)) : l.Appends id b ∧ l' = l.place id b ∧ hash = b.hash := by
  unfold append at done
  cases known : l.isRegistered id with
  | false => rw [known] at done; cases done
  | true =>
    rw [known] at done
    cases checked : (l.chainOf id).checkAppend b with
    | error e => rw [checked] at done; cases done
    | ok _ =>
      rw [checked] at done
      cases source : l.checkSourceOf id b with
      | error e => rw [source] at done; cases done
      | ok _ =>
        rw [source] at done
        cases fresh : l.index.contains b.hash with
        | true => rw [fresh] at done; cases done
        | false =>
          rw [fresh] at done
          cases done
          exact ⟨⟨known, Chain.fits_of_checkAppend checked, source,
            Std.ExtTreeMap.getElem?_eq_none_of_contains_eq_false fresh⟩, rfl, rfl⟩

theorem append_of_appends {l : Ledger} {id : AccountId} {b : Block} (appends : l.Appends id b) :
    l.append id b = .ok (l.place id b, b.hash) := by
  have missing : l.index.contains b.hash = false := by
    rw [Std.ExtTreeMap.contains_eq_isSome_getElem?, appends.fresh]; rfl
  unfold append
  rw [appends.known, Chain.checkAppend_of_fits appends.fits, appends.source, missing]
  rfl

theorem checkSource_ok_iff {l : Ledger} {id : AccountId} {s : BlockHash} :
    l.checkSource id s = .ok () ↔
      ∃ send, l.block? s = some send ∧ send.destination? = some id ∧ l.received[s]? = none := by
  unfold checkSource
  cases found : l.block? s with
  | none => simp
  | some send =>
    cases sent : send.destination? with
    | none => simp [sent]
    | some destination =>
      by_cases same : destination = id
      · cases taken : l.isReceived s with
        | true =>
          have present : l.received[s]?.isSome = true := Std.ExtTreeMap.isSome_getElem?_eq_contains.trans taken
          obtain ⟨r, receiver⟩ := Option.isSome_iff_exists.mp present
          simp [sent, same, receiver]
        | false =>
          have missing := Std.ExtTreeMap.getElem?_eq_none_of_contains_eq_false taken
          simp [sent, same, missing]
      · simp [sent, same]

structure Undoes (l : Ledger) (id : AccountId) (hash : BlockHash) (b : Block) (c shorter : Chain)
    (l' : Ledger) : Prop where
  held : l.chain? id = some c
  tip : c.head = hash
  unreceived : l.received[hash]? = none
  popped : c.pop? = some (b, shorter)
  written : l' = { l with
    chains := if shorter.isEmpty then l.chains.erase id else l.chains.insert id shorter
    index := l.index.erase hash
    received := match b.source? with
      | some source => l.received.erase source
      | none => l.received }

theorem rollback_ok {l l' : Ledger} {id : AccountId} {b : Block} {hash : BlockHash}
    (done : l.rollback id hash = .ok (l', b)) : ∃ c shorter, l.Undoes id hash b c shorter l' := by
  unfold rollback at done
  split at done
  · cases done
  · rename_i c held
    split at done
    · split at done <;> cases done
    · rename_i tip
      split at done
      · cases done
      · rename_i unreceived
        split at done
        · cases done
        · rename_i block shorter popped
          cases done
          have missing : l.received[hash]? = none :=
            Std.ExtTreeMap.getElem?_eq_none_of_contains_eq_false (eq_false_of_ne_true unreceived)
          exact ⟨c, shorter, held, by simpa using tip, missing, popped, rfl⟩

theorem modifyAccount_cases (l : Ledger) (id : AccountId) (change : Account → Account) :
    (l.account? id = none ∧ l.modifyAccount id change = l) ∨
      ∃ a, l.account? id = some a ∧
        l.modifyAccount id change = { l with accounts := l.accounts.insert id (change a) } := by
  unfold modifyAccount
  cases found : l.account? id with
  | none => exact .inl ⟨rfl, rfl⟩
  | some a => exact .inr ⟨a, rfl, rfl⟩

end Ledger
end BlockLattice
