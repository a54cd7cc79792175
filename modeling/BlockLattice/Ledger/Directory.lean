import BlockLattice.Ledger.Basic
import BlockLattice.Text.Blank
import BlockLattice.Text.Lowercase

namespace BlockLattice.Ledger

def register (l : Ledger) (account : Account) (username : String) :
    Except LedgerError (Ledger × AccountId) :=
  let name := Lowercase.text (Blank.trim username)
  if name = "" then .error (.invalidUsername name)
  else if l.usernames.contains name then .error (.usernameTaken name)
  else
    let id := account.id
    if l.accounts.contains id then .error (.accountExists id)
    else .ok ({ l with
      usernames := l.usernames.insert name id
      names := l.names.insert id name
      accounts := l.accounts.insert id account }, id)

def removeUnopened (l : Ledger) (id : AccountId) : Except LedgerError (Ledger × Account) :=
  if l.chains.contains id then .error (.accountInUse id)
  else
    match l.account? id with
    | none => .error (.accountNotFound id)
    | some account =>
      .ok ({ l with
        accounts := l.accounts.erase id
        names := l.names.erase id
        usernames := match l.names[id]? with
          | some name => l.usernames.erase name
          | none => l.usernames }, account)

-- Looks a name up in any case, but with its blanks as they are.
def idByUsername? (l : Ledger) (username : String) : Option AccountId := do
  let id ← l.usernames[Lowercase.text username]?
  if l.accounts.contains id then some id else none

def username? (l : Ledger) (id : AccountId) : Option String := l.names[id]?

end BlockLattice.Ledger
