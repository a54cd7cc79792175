import BlockLattice.Ledger.Check
import BlockLattice.Proofs.LedgerStructure

namespace BlockLattice.Ledger

def balance (l : Ledger) (id : AccountId) : Nat := ((l.latest? id).map fun b => b.balance.raw).getD 0

theorem balance_of_latest {l : Ledger} {id : AccountId} {b : Block} (last : l.latest? id = some b) :
    l.balance id = b.balance.raw := by
  rw [balance, last]; rfl

section Modify

variable (l : Ledger) (id : AccountId) (change : Account → Account)

theorem modify_accounts : ∃ accounts, l.modifyAccount id change = { l with accounts := accounts } := by
  rcases l.modifyAccount_cases id change with ⟨_, same⟩ | ⟨a, _, written⟩
  · exact ⟨l.accounts, same⟩
  · exact ⟨_, written⟩

@[simp] theorem chains_modify : (l.modifyAccount id change).chains = l.chains := by
  obtain ⟨accounts, written⟩ := l.modify_accounts id change
  rw [written]

@[simp] theorem index_modify : (l.modifyAccount id change).index = l.index := by
  obtain ⟨accounts, written⟩ := l.modify_accounts id change
  rw [written]

@[simp] theorem received_modify : (l.modifyAccount id change).received = l.received := by
  obtain ⟨accounts, written⟩ := l.modify_accounts id change
  rw [written]

@[simp] theorem names_modify : (l.modifyAccount id change).names = l.names := by
  obtain ⟨accounts, written⟩ := l.modify_accounts id change
  rw [written]

@[simp] theorem usernames_modify : (l.modifyAccount id change).usernames = l.usernames := by
  obtain ⟨accounts, written⟩ := l.modify_accounts id change
  rw [written]

theorem account?_modify (j : AccountId) :
    (l.modifyAccount id change).account? j = if id = j then (l.account? j).map change else l.account? j := by
  rcases l.modifyAccount_cases id change with ⟨missing, same⟩ | ⟨a, known, written⟩
  · rw [same]
    split
    · rename_i equal
      rw [← equal, missing]; rfl
    · rfl
  · rw [written]
    simp only [account?, Std.ExtTreeMap.getElem?_insert, Std.LawfulEqCmp.compare_eq_iff_eq]
    split
    · rename_i equal
      have found : l.accounts[j]? = some a := equal ▸ known
      rw [found]; rfl
    · rfl

@[simp] theorem isRegistered_modify (j : AccountId) :
    (l.modifyAccount id change).isRegistered j = l.isRegistered j := by
  rw [isRegistered_eq, isRegistered_eq, account?_modify]
  split <;> simp

@[simp] theorem chain?_modify (j : AccountId) : (l.modifyAccount id change).chain? j = l.chain? j := by
  rw [chain?, chains_modify]; rfl

@[simp] theorem latest?_modify (j : AccountId) : (l.modifyAccount id change).latest? j = l.latest? j := by
  rw [latest?, chain?_modify]; rfl

@[simp] theorem isOpened_modify (j : AccountId) : (l.modifyAccount id change).isOpened j = l.isOpened j := by
  rw [isOpened, chains_modify]; rfl

@[simp] theorem blockAt?_modify (j : AccountId) (k : Nat) :
    (l.modifyAccount id change).blockAt? j k = l.blockAt? j k := by
  rw [blockAt?, chain?_modify]; rfl

@[simp] theorem chainOf_modify (j : AccountId) : (l.modifyAccount id change).chainOf j = l.chainOf j := by
  rw [chainOf, chain?_modify]; rfl

@[simp] theorem block?_modify (hash : BlockHash) : (l.modifyAccount id change).block? hash = l.block? hash := by
  simp [block?, position?]

@[simp] theorem checkSourceOf_modify (j : AccountId) (b : Block) :
    (l.modifyAccount id change).checkSourceOf j b = l.checkSourceOf j b := by
  simp [checkSourceOf, checkSource, isReceived]

@[simp] theorem balance_modify (j : AccountId) : (l.modifyAccount id change).balance j = l.balance j := by
  rw [balance, latest?_modify]; rfl

@[simp] theorem account?_place (j : AccountId) (b : Block) : (l.place j b).account? id = l.account? id := rfl

theorem place_modify (j : AccountId) (b : Block) :
    (l.place j b).modifyAccount id change = (l.modifyAccount id change).place j b := by
  unfold modifyAccount
  rw [account?_place]
  cases l.account? id <;> rfl

end Modify

theorem votesOf_of_account {l : Ledger} {id : AccountId} {a : Account} (known : l.account? id = some a) :
    l.votesOf id = a.votes := by
  rw [votesOf, known]

theorem votesOf_modify (l : Ledger) (id : AccountId) {change : Account → Account}
    (kept : ∀ a, (change a).votes = a.votes) (j : AccountId) : (l.modifyAccount id change).votesOf j = l.votesOf j := by
  have changed := l.account?_modify id change j
  unfold votesOf
  rw [changed]
  by_cases same : id = j
  · rw [if_pos same]
    cases l.account? j with
    | none => rfl
    | some a => exact kept a
  · rw [if_neg same]

theorem Appends.modify {l : Ledger} {id : AccountId} {b : Block} (appends : l.Appends id b) (j : AccountId)
    (change : Account → Account) : (l.modifyAccount j change).Appends id b where
  known := by rw [isRegistered_modify]; exact appends.known
  fits := by rw [chainOf_modify]; exact appends.fits
  source := by rw [checkSourceOf_modify]; exact appends.source
  fresh := by rw [index_modify]; exact appends.fresh

theorem isOpened_place (l : Ledger) (id : AccountId) (b : Block) (j : AccountId) :
    (l.place id b).isOpened j = if id = j then true else l.isOpened j := by
  rw [isOpened_eq, isOpened_eq, chain?_place]
  split <;> rfl

theorem latest?_place (l : Ledger) (id : AccountId) (b : Block) (j : AccountId) :
    (l.place id b).latest? j = if id = j then some b else l.latest? j := by
  rw [latest?, chain?_place]
  split
  · simp [Chain.latest?]
  · rfl

theorem balance_place (l : Ledger) (id : AccountId) (b : Block) (j : AccountId) :
    (l.place id b).balance j = if id = j then b.balance.raw else l.balance j := by
  rw [balance, latest?_place]
  split <;> rfl

theorem latest?_eq_some {l : Ledger} {id : AccountId} {b : Block} :
    l.latest? id = some b ↔ l.blockAt? id ((l.chainOf id).length - 1) = some b := by
  rw [latest?, blockAt?]
  cases held : l.chain? id with
  | none => simp
  | some c => simp [chainOf_of_chain? held, Chain.latest?, Chain.get?, Chain.length, List.getLast?_eq_getElem?]

end BlockLattice.Ledger
