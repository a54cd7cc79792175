import BlockLattice.Proofs.LedgerCalls

namespace BlockLattice.Ledger

def blockAt? (l : Ledger) (id : AccountId) (height : Nat) : Option Block :=
  (l.chain? id).bind fun c => c.get? height

theorem blockAt?_eq_some {l : Ledger} {id : AccountId} {height : Nat} {b : Block} :
    l.blockAt? id height = some b ↔ ∃ c, l.chain? id = some c ∧ c.get? height = some b :=
  Option.bind_eq_some_iff

-- Every chain is one that its account opened, and the account is registered.
-- The index gives each block its place, and the received sends are those that a
-- receive block of their destination names.
structure Sound (l : Ledger) : Prop where
  opened : ∀ {id c}, l.chain? id = some c → c.Opened id
  registered : ∀ {id}, l.isOpened id = true → l.isRegistered id = true
  indexed : ∀ {hash p}, l.position? hash = some p ↔
    ∃ b, l.blockAt? p.account p.height = some b ∧ b.hash = hash
  received : ∀ {s r}, l.received[s]? = some r ↔
    ∃ id k b, l.blockAt? id k = some b ∧ b.source? = some s ∧ b.hash = r
  sourced : ∀ {id k b s}, l.blockAt? id k = some b → b.source? = some s →
    ∃ j m send, l.blockAt? j m = some send ∧ send.hash = s ∧ send.destination? = some id

namespace Sound

theorem empty : Sound .empty := by
  constructor <;> simp [Ledger.empty, chain?, isOpened, position?, blockAt?]

theorem unique {l : Ledger} (sound : l.Sound) {i j : AccountId} {k m : Nat} {a b : Block}
    (left : l.blockAt? i k = some a) (right : l.blockAt? j m = some b) (same : a.hash = b.hash) :
    i = j ∧ k = m := by
  have placed : l.position? b.hash = some ⟨i, k⟩ := sound.indexed.mpr ⟨a, left, same⟩
  have again : l.position? b.hash = some ⟨j, m⟩ := sound.indexed.mpr ⟨b, right, rfl⟩
  rw [placed] at again
  cases again
  exact ⟨rfl, rfl⟩

theorem block?_eq_some {l : Ledger} (sound : l.Sound) {hash : BlockHash} {b : Block} :
    l.block? hash = some b ↔ ∃ id k, l.blockAt? id k = some b ∧ b.hash = hash := by
  have looked : l.block? hash = (l.position? hash).bind fun p => l.blockAt? p.account p.height := rfl
  rw [looked, Option.bind_eq_some_iff]
  constructor
  · rintro ⟨p, placed, found⟩
    obtain ⟨a, stored, same⟩ := sound.indexed.mp placed
    rw [found] at stored
    cases stored
    exact ⟨p.account, p.height, found, same⟩
  · rintro ⟨id, k, found, same⟩
    exact ⟨⟨id, k⟩, sound.indexed.mpr ⟨b, found, same⟩, found⟩

theorem received_once {l : Ledger} (sound : l.Sound) {i j : AccountId} {k m : Nat} {a b : Block} {s : BlockHash}
    (left : l.blockAt? i k = some a) (right : l.blockAt? j m = some b) (names : a.source? = some s)
    (again : b.source? = some s) : i = j ∧ k = m := by
  have first : l.received[s]? = some a.hash := sound.received.mpr ⟨i, k, a, left, names, rfl⟩
  have second : l.received[s]? = some b.hash := sound.received.mpr ⟨j, m, b, right, again, rfl⟩
  rw [first] at second
  exact sound.unique left right (Option.some.inj second)

theorem of_same {l l' : Ledger} (sound : l.Sound) (chains : l'.chains = l.chains) (index : l'.index = l.index)
    (received : l'.received = l.received)
    (kept : ∀ id, l.isOpened id = true → l.isRegistered id = true → l'.isRegistered id = true) : l'.Sound := by
  have same : ∀ id k, l'.blockAt? id k = l.blockAt? id k := by
    intro id k
    simp only [blockAt?, chain?, chains]
  refine ⟨?_, ?_, ?_, ?_, ?_⟩
  · intro id c held
    rw [chain?, chains] at held
    exact sound.opened held
  · intro id opened
    rw [isOpened, chains] at opened
    exact kept id opened (sound.registered opened)
  · intro hash p
    simp only [position?, index, same]
    exact sound.indexed
  · intro s r
    simp only [received, same]
    exact sound.received
  · intro id k b s
    simp only [same]
    exact sound.sourced

end Sound

theorem isOpened_eq (l : Ledger) (id : AccountId) : l.isOpened id = (l.chain? id).isSome :=
  Std.ExtTreeMap.contains_eq_isSome_getElem?

theorem isRegistered_eq (l : Ledger) (id : AccountId) : l.isRegistered id = (l.account? id).isSome :=
  Std.ExtTreeMap.contains_eq_isSome_getElem?

theorem Sound.unopened_of_unknown {l : Ledger} {id : AccountId} (sound : l.Sound) (unknown : l.account? id = none) :
    l.chain? id = none := by
  cases held : l.chain? id with
  | none => rfl
  | some c =>
    have known := sound.registered (by rw [isOpened_eq, held]; rfl)
    rw [isRegistered_eq, unknown] at known
    cases known

theorem chain?_place (l : Ledger) (id : AccountId) (b : Block) (j : AccountId) :
    (l.place id b).chain? j = if id = j then some ((l.chainOf id).push b b.hash) else l.chain? j := by
  simp [place, chain?, Std.ExtTreeMap.getElem?_insert]

theorem chainOf_of_chain? {l : Ledger} {id : AccountId} {c : Chain} (held : l.chain? id = some c) :
    l.chainOf id = c := by
  rw [chainOf, held]; rfl

theorem chainOf_unopened {l : Ledger} {id : AccountId} (missing : l.chain? id = none) :
    l.chainOf id = .empty id := by
  rw [chainOf, missing]; rfl

theorem blockAt?_chainOf (l : Ledger) (id : AccountId) (k : Nat) : l.blockAt? id k = (l.chainOf id).get? k := by
  cases held : l.chain? id with
  | none => simp [blockAt?, held, chainOf_unopened held, Chain.get?, Chain.empty]
  | some c => simp [blockAt?, held, chainOf_of_chain? held]

theorem blockAt?_end (l : Ledger) (id : AccountId) : l.blockAt? id (l.chainOf id).length = none := by
  rw [blockAt?_chainOf]
  exact List.getElem?_eq_none (Nat.le_refl _)

theorem blockAt?_place_eq_some {l : Ledger} {id : AccountId} {b : Block} {j : AccountId} {k : Nat} {x : Block} :
    (l.place id b).blockAt? j k = some x ↔
      (j = id ∧ k = (l.chainOf id).length ∧ x = b) ∨ l.blockAt? j k = some x := by
  by_cases same : id = j
  · subst same
    have ended := l.blockAt?_end id
    have pushed : (l.place id b).blockAt? id k = ((l.chainOf id).blocks ++ [b])[k]? := by
      simp [blockAt?, chain?_place, Chain.get?]
    rw [pushed]
    by_cases last : k = (l.chainOf id).length
    · subst last
      rw [ended]
      simp [Chain.length, eq_comm]
    · rw [blockAt?_chainOf, Chain.get?]
      have range : k < (l.chainOf id).blocks.length ∨ (l.chainOf id).blocks.length < k := Nat.lt_or_gt_of_ne last
      rcases range with inside | beyond
      · rw [List.getElem?_append_left inside]
        simp [last]
      · rw [List.getElem?_eq_none (by simp; omega), List.getElem?_eq_none (by omega)]
        simp [last]
  · have other : ¬ j = id := fun h => same h.symm
    simp [blockAt?, chain?_place, same, other]

theorem length_chainOf_place (l : Ledger) (id : AccountId) (b : Block) :
    ((l.place id b).chainOf id).length = (l.chainOf id).length + 1 := by
  rw [chainOf_of_chain? ((l.chain?_place id b id).trans (if_pos rfl)), Chain.length, Chain.blocks_push]
  exact List.length_append

theorem position?_place (l : Ledger) (id : AccountId) (b : Block) (hash : BlockHash) :
    (l.place id b).position? hash =
      if b.hash = hash then some ⟨id, (l.chainOf id).length⟩ else l.position? hash := by
  simp [place, position?, Std.ExtTreeMap.getElem?_insert]

theorem received_place (l : Ledger) (id : AccountId) (b : Block) (s : BlockHash) :
    (l.place id b).received[s]? = if b.source? = some s then some b.hash else l.received[s]? := by
  unfold place
  cases source : b.source? with
  | none => simp
  | some source => simp [Std.ExtTreeMap.getElem?_insert]

theorem Appends.send {l : Ledger} {id : AccountId} {b : Block} (appends : l.Appends id b) {s : BlockHash}
    (names : b.source? = some s) :
    ∃ send, l.block? s = some send ∧ send.destination? = some id ∧ l.received[s]? = none := by
  have source := appends.source
  rw [checkSourceOf, names] at source
  exact checkSource_ok_iff.mp source

theorem Appends.new {l : Ledger} {id : AccountId} {b : Block} (appends : l.Appends id b) (sound : l.Sound)
    {j : AccountId} {k : Nat} {x : Block} (found : l.blockAt? j k = some x) : x.hash ≠ b.hash := by
  intro same
  have placed : l.position? b.hash = some ⟨j, k⟩ := sound.indexed.mpr ⟨x, found, same⟩
  have missing : l.position? b.hash = none := appends.fresh
  rw [missing] at placed
  cases placed

theorem Appends.chain {l : Ledger} {id : AccountId} {b : Block} (appends : l.Appends id b) (sound : l.Sound) :
    ((l.chainOf id).push b b.hash).Opened id := by
  cases held : l.chain? id with
  | none =>
    have empty := chainOf_unopened held
    cases appends.fits with
    | first blank named =>
      obtain ⟨balance, time, content⟩ := named
      rw [empty] at content ⊢
      exact Chain.opened_push_empty content
    | next begun => exact absurd (by rw [empty]; rfl) begun
  | some c =>
    have opened := sound.opened held
    have whole := chainOf_of_chain? held
    cases appends.fits with
    | first blank => exact absurd (by rw [← blank, whole]) opened.begun
    | next begun later follows =>
      rw [whole] at follows ⊢
      exact opened.push later follows

section Appends

variable {l : Ledger} {id : AccountId} {b : Block}

theorem Appends.indexed (appends : l.Appends id b) (sound : l.Sound) {hash : BlockHash} {p : Position} :
    (l.place id b).position? hash = some p ↔
      ∃ x, (l.place id b).blockAt? p.account p.height = some x ∧ x.hash = hash := by
  rw [position?_place]
  by_cases same : b.hash = hash
  · subst same
    rw [if_pos rfl]
    constructor
    · intro placed
      cases placed
      exact ⟨b, blockAt?_place_eq_some.mpr (.inl ⟨rfl, rfl, rfl⟩), rfl⟩
    · rintro ⟨x, found, equal⟩
      rcases blockAt?_place_eq_some.mp found with ⟨account, height, _⟩ | old
      · rw [← height, ← account]
      · exact absurd equal (appends.new sound old)
  · rw [if_neg same, sound.indexed]
    constructor
    · rintro ⟨x, found, equal⟩
      exact ⟨x, blockAt?_place_eq_some.mpr (.inr found), equal⟩
    · rintro ⟨x, found, equal⟩
      rcases blockAt?_place_eq_some.mp found with ⟨_, _, final⟩ | old
      · exact absurd (final ▸ equal) same
      · exact ⟨x, old, equal⟩

theorem Appends.received (appends : l.Appends id b) (sound : l.Sound) {s r : BlockHash} :
    (l.place id b).received[s]? = some r ↔
      ∃ j k x, (l.place id b).blockAt? j k = some x ∧ x.source? = some s ∧ x.hash = r := by
  rw [received_place]
  by_cases names : b.source? = some s
  · obtain ⟨_, _, _, untaken⟩ := appends.send names
    rw [if_pos names]
    constructor
    · intro equal
      exact ⟨id, _, b, blockAt?_place_eq_some.mpr (.inl ⟨rfl, rfl, rfl⟩), names, Option.some.inj equal⟩
    · rintro ⟨j, k, x, found, same, equal⟩
      rcases blockAt?_place_eq_some.mp found with ⟨_, _, final⟩ | old
      · rw [← equal, final]
      · rw [sound.received.mpr ⟨j, k, x, old, same, rfl⟩] at untaken
        cases untaken
  · rw [if_neg names, sound.received]
    constructor
    · rintro ⟨j, k, x, found, same, equal⟩
      exact ⟨j, k, x, blockAt?_place_eq_some.mpr (.inr found), same, equal⟩
    · rintro ⟨j, k, x, found, same, equal⟩
      rcases blockAt?_place_eq_some.mp found with ⟨_, _, final⟩ | old
      · exact absurd (final ▸ same) names
      · exact ⟨j, k, x, old, same, equal⟩

theorem Appends.sourced (appends : l.Appends id b) (sound : l.Sound) {j : AccountId} {k : Nat} {x : Block}
    {s : BlockHash} (found : (l.place id b).blockAt? j k = some x) (names : x.source? = some s) :
    ∃ i m send, (l.place id b).blockAt? i m = some send ∧ send.hash = s ∧ send.destination? = some j := by
  rcases blockAt?_place_eq_some.mp found with ⟨account, _, final⟩ | old
  · subst account final
    obtain ⟨send, stored, toward, _⟩ := appends.send names
    obtain ⟨i, m, placed, equal⟩ := sound.block?_eq_some.mp stored
    exact ⟨i, m, send, blockAt?_place_eq_some.mpr (.inr placed), equal, toward⟩
  · obtain ⟨i, m, send, placed, equal, toward⟩ := sound.sourced old names
    exact ⟨i, m, send, blockAt?_place_eq_some.mpr (.inr placed), equal, toward⟩

theorem Appends.sound (appends : l.Appends id b) (sound : l.Sound) : (l.place id b).Sound where
  opened {j c} held := by
    rw [chain?_place] at held
    split at held
    · rename_i same
      cases held
      rw [← same]
      exact appends.chain sound
    · exact sound.opened held
  registered {j} opened := by
    rw [isOpened_eq, chain?_place] at opened
    split at opened
    · rename_i same
      rw [← same]
      exact appends.known
    · exact sound.registered (by rw [isOpened_eq]; exact opened)
  indexed := appends.indexed sound
  received := appends.received sound
  sourced := appends.sourced sound

end Appends

namespace Undoes

variable {l l' : Ledger} {id : AccountId} {hash : BlockHash} {b : Block} {c shorter : Chain}

theorem chain?_eq (undoes : l.Undoes id hash b c shorter l') (j : AccountId) :
    l'.chain? j = if id = j then (if shorter.isEmpty then none else some shorter) else l.chain? j := by
  rw [undoes.written, chain?]
  cases blank : shorter.isEmpty <;>
    simp [chain?, Std.ExtTreeMap.getElem?_erase, Std.ExtTreeMap.getElem?_insert]

theorem accounts (undoes : l.Undoes id hash b c shorter l') : l'.accounts = l.accounts := by
  rw [undoes.written]

theorem blocks (undoes : l.Undoes id hash b c shorter l') (sound : l.Sound) : c.blocks = shorter.blocks ++ [b] :=
  ((sound.opened undoes.held).popped undoes.popped).blocks

theorem named (undoes : l.Undoes id hash b c shorter l') (sound : l.Sound) : b.hash = hash := by
  rw [← undoes.tip]
  exact ((sound.opened undoes.held).popped undoes.popped).hash.symm

theorem removed (undoes : l.Undoes id hash b c shorter l') (sound : l.Sound) :
    l.blockAt? id shorter.length = some b := by
  refine blockAt?_eq_some.mpr ⟨c, undoes.held, ?_⟩
  simp [Chain.get?, undoes.blocks sound, Chain.length]

theorem blockAt?_eq_some (undoes : l.Undoes id hash b c shorter l') (sound : l.Sound) {j : AccountId} {k : Nat}
    {x : Block} : l'.blockAt? j k = some x ↔ l.blockAt? j k = some x ∧ ¬ (j = id ∧ k = shorter.length) := by
  by_cases same : id = j
  · subst same
    have before : l.blockAt? id k = (shorter.blocks ++ [b])[k]? := by
      simp [blockAt?, undoes.held, Chain.get?, undoes.blocks sound]
    have after : l'.blockAt? id k = shorter.blocks[k]? := by
      rw [blockAt?, undoes.chain?_eq, if_pos rfl]
      by_cases blank : shorter.blocks = []
      · simp [Chain.isEmpty, blank]
      · simp [Chain.isEmpty, blank, Chain.get?]
    rw [before, after]
    have range : k < shorter.blocks.length ∨ k = shorter.blocks.length ∨ shorter.blocks.length < k :=
      Nat.lt_trichotomy _ _
    rcases range with inside | last | beyond
    · rw [List.getElem?_append_left inside]
      simp [Chain.length, Nat.ne_of_lt inside]
    · simp [last, Chain.length]
    · rw [List.getElem?_eq_none (by omega), List.getElem?_eq_none (by simp; omega)]
      simp
  · have other : ¬ j = id := fun h => same h.symm
    simp [blockAt?, undoes.chain?_eq, same, other]

theorem stays (undoes : l.Undoes id hash b c shorter l') (sound : l.Sound) {j : AccountId} {k : Nat} {x : Block}
    (found : l.blockAt? j k = some x) : ¬ (j = id ∧ k = shorter.length) ↔ x.hash ≠ b.hash := by
  constructor
  · intro other same
    exact other (sound.unique found (undoes.removed sound) same)
  · rintro differs ⟨rfl, rfl⟩
    rw [undoes.removed sound] at found
    cases found
    exact differs rfl

theorem received_eq (undoes : l.Undoes id hash b c shorter l') (s : BlockHash) :
    l'.received[s]? = if b.source? = some s then none else l.received[s]? := by
  rw [undoes.written]
  cases source : b.source? with
  | none => simp
  | some source => simp [Std.ExtTreeMap.getElem?_erase]

theorem opened (undoes : l.Undoes id hash b c shorter l') (sound : l.Sound) {j : AccountId} {d : Chain}
    (held : l'.chain? j = some d) : d.Opened j := by
  rw [undoes.chain?_eq] at held
  split at held
  · rename_i same
    split at held
    · cases held
    · rename_i begun
      cases held
      rcases ((sound.opened undoes.held).popped undoes.popped).remains with none | rest
      · rw [none] at begun
        exact absurd rfl begun
      · exact same ▸ rest
  · exact sound.opened held

theorem registered (undoes : l.Undoes id hash b c shorter l') (sound : l.Sound) {j : AccountId}
    (opened : l'.isOpened j = true) : l'.isRegistered j = true := by
  have known : l'.isRegistered j = l.isRegistered j := by rw [undoes.written]; rfl
  rw [known]
  refine sound.registered ?_
  rw [isOpened_eq, undoes.chain?_eq] at opened
  split at opened
  · rename_i same
    rw [isOpened_eq, ← same, undoes.held]
    rfl
  · rw [isOpened_eq]
    exact opened

theorem indexed (undoes : l.Undoes id hash b c shorter l') (sound : l.Sound) {h : BlockHash} {p : Position} :
    l'.position? h = some p ↔ ∃ x, l'.blockAt? p.account p.height = some x ∧ x.hash = h := by
  have erased : l'.position? h = if hash = h then none else l.position? h := by
    rw [undoes.written]
    simp [position?, Std.ExtTreeMap.getElem?_erase]
  have named := undoes.named sound
  rw [erased]
  by_cases gone : hash = h
  · rw [if_pos gone]
    refine ⟨(nomatch ·), ?_⟩
    rintro ⟨x, found, same⟩
    obtain ⟨old, other⟩ := (undoes.blockAt?_eq_some sound).mp found
    exact absurd (by rw [same, named, gone]) ((undoes.stays sound old).mp other)
  · rw [if_neg gone, sound.indexed]
    constructor
    · rintro ⟨x, found, same⟩
      refine ⟨x, (undoes.blockAt?_eq_some sound).mpr ⟨found, (undoes.stays sound found).mpr ?_⟩, same⟩
      rw [same, named]
      exact fun h => gone h.symm
    · rintro ⟨x, found, same⟩
      exact ⟨x, ((undoes.blockAt?_eq_some sound).mp found).1, same⟩

theorem received (undoes : l.Undoes id hash b c shorter l') (sound : l.Sound) {s r : BlockHash} :
    l'.received[s]? = some r ↔ ∃ j k x, l'.blockAt? j k = some x ∧ x.source? = some s ∧ x.hash = r := by
  rw [undoes.received_eq]
  by_cases names : b.source? = some s
  · rw [if_pos names]
    refine ⟨(nomatch ·), ?_⟩
    rintro ⟨j, k, x, found, same, _⟩
    obtain ⟨old, other⟩ := (undoes.blockAt?_eq_some sound).mp found
    exact absurd (sound.received_once old (undoes.removed sound) same names) other
  · rw [if_neg names, sound.received]
    constructor
    · rintro ⟨j, k, x, found, same, equal⟩
      refine ⟨j, k, x, (undoes.blockAt?_eq_some sound).mpr ⟨found, ?_⟩, same, equal⟩
      rintro ⟨rfl, rfl⟩
      rw [undoes.removed sound] at found
      cases found
      exact names same
    · rintro ⟨j, k, x, found, same, equal⟩
      exact ⟨j, k, x, ((undoes.blockAt?_eq_some sound).mp found).1, same, equal⟩

theorem sourced (undoes : l.Undoes id hash b c shorter l') (sound : l.Sound) {j : AccountId} {k : Nat} {x : Block}
    {s : BlockHash} (found : l'.blockAt? j k = some x) (names : x.source? = some s) :
    ∃ i m send, l'.blockAt? i m = some send ∧ send.hash = s ∧ send.destination? = some j := by
  obtain ⟨old, _⟩ := (undoes.blockAt?_eq_some sound).mp found
  obtain ⟨i, m, send, placed, equal, toward⟩ := sound.sourced old names
  refine ⟨i, m, send, (undoes.blockAt?_eq_some sound).mpr ⟨placed, (undoes.stays sound placed).mpr ?_⟩, equal, toward⟩
  -- A send that is received is never the block that goes.
  intro same
  have taken : l.received[hash]? = some x.hash :=
    sound.received.mpr ⟨j, k, x, old, by rw [names, ← equal, same, undoes.named sound], rfl⟩
  rw [undoes.unreceived] at taken
  cases taken

theorem sound (undoes : l.Undoes id hash b c shorter l') (sound : l.Sound) : l'.Sound where
  opened := undoes.opened sound
  registered := undoes.registered sound
  indexed := undoes.indexed sound
  received := undoes.received sound
  sourced := undoes.sourced sound

end Undoes

theorem Sound.modify {l : Ledger} (sound : l.Sound) (id : AccountId) (change : Account → Account) :
    (l.modifyAccount id change).Sound := by
  rcases l.modifyAccount_cases id change with ⟨_, same⟩ | ⟨a, known, written⟩
  · rw [same]
    exact sound
  · rw [written]
    refine sound.of_same rfl rfl rfl fun j _ old => ?_
    simp only [isRegistered, Std.ExtTreeMap.contains_insert] at old ⊢
    rw [old, Bool.or_true]

theorem Sound.call {l : Ledger} (sound : l.Sound) (c : Call) : (l.call c).Sound := by
  cases c with
  | register a username =>
    rw [Ledger.call]
    cases done : l.register a username with
    | error e => exact sound
    | ok result =>
      obtain ⟨l', id⟩ := result
      obtain ⟨_, registers⟩ := register_ok done
      rw [afterwards, registers.written]
      refine sound.of_same rfl rfl rfl fun j _ old => ?_
      simp only [isRegistered, Std.ExtTreeMap.contains_insert] at old ⊢
      rw [old, Bool.or_true]
  | removeUnopened id =>
    rw [Ledger.call]
    cases done : l.removeUnopened id with
    | error e => exact sound
    | ok result =>
      obtain ⟨l', a⟩ := result
      have removes := removeUnopened_ok done
      rw [afterwards, removes.written]
      refine sound.of_same rfl rfl rfl fun j opened old => ?_
      have other : id ≠ j := by
        rintro rfl
        rw [isOpened_eq, removes.unopened] at opened
        cases opened
      rw [isRegistered_eq] at old ⊢
      simpa [account?, Std.ExtTreeMap.getElem?_erase, other] using old
  | append id b =>
    rw [Ledger.call]
    cases done : l.append id b with
    | error e => exact sound
    | ok result =>
      obtain ⟨l', hash⟩ := result
      obtain ⟨appends, written, _⟩ := append_ok done
      rw [afterwards, written]
      exact appends.sound sound
  | rollback id hash =>
    rw [Ledger.call]
    cases done : l.rollback id hash with
    | error e => exact sound
    | ok result =>
      obtain ⟨l', b⟩ := result
      obtain ⟨c, shorter, undoes⟩ := rollback_ok done
      exact undoes.sound sound
  | edit id change => exact sound.modify id _

theorem Leads.sound {l l' : Ledger} (leads : l.Leads l') (sound : l.Sound) : l'.Sound := by
  induction leads with
  | refl => exact sound
  | call _ c ih => exact ih.call c

theorem Reachable.sound {l : Ledger} (reached : Reachable l) : l.Sound := Leads.sound reached .empty

-- What the tables of a ledger say after any calls. Every chain was opened by its
-- account and is intact; the index finds each block in its one place and nothing
-- else; and the received sends are the sources of the receive blocks, each a send
-- to the account on whose chain it is received, and received there alone.
theorem replay_structure (calls : List Call) :
    let l := replay calls
    (∀ id c, l.chain? id = some c → l.isRegistered id = true ∧ c.account = id ∧ c.intact = true ∧
      ∃ balance time first rest, c.blocks = first :: rest ∧ first.content = .opening id balance time ∧
        ∀ b ∈ rest, b.isOpening = false) ∧
    (∀ hash id k, l.position? hash = some ⟨id, k⟩ ↔ ∃ b, l.blockAt? id k = some b ∧ b.hash = hash) ∧
    (∀ hash b, l.block? hash = some b ↔ ∃ id k, l.blockAt? id k = some b ∧ b.hash = hash) ∧
    (∀ i j k m a b, l.blockAt? i k = some a → l.blockAt? j m = some b → a.hash = b.hash → i = j ∧ k = m) ∧
    (∀ s r, l.received[s]? = some r ↔ ∃ id k b, l.blockAt? id k = some b ∧ b.source? = some s ∧ b.hash = r) ∧
    (∀ id k b s, l.blockAt? id k = some b → b.source? = some s →
      ∃ j m send, l.blockAt? j m = some send ∧ send.hash = s ∧ send.destination? = some id) ∧
    (∀ i j k m a b s, l.blockAt? i k = some a → l.blockAt? j m = some b → a.source? = some s → b.source? = some s →
      i = j ∧ k = m) := by
  have sound := (reachable_replay calls).sound
  refine ⟨?_, ?_, ?_, ?_, ?_, ?_, ?_⟩
  · intro id c held
    have opened := sound.opened held
    have open? : (replay calls).isOpened id = true := by rw [isOpened_eq, held]; rfl
    obtain ⟨balance, time, first, rest, blocks, content, walked⟩ := opened.opening
    exact ⟨sound.registered open?, opened.account, opened.intact,
      balance, time, first, rest, blocks, content, Chain.walk_later walked⟩
  · intro hash id k
    exact sound.indexed
  · intro hash b
    exact sound.block?_eq_some
  · intro i j k m a b left right same
    exact sound.unique left right same
  · intro s r
    exact sound.received
  · intro id k b s found names
    exact sound.sourced found names
  · intro i j k m a b s left right names again
    exact sound.received_once left right names again

end BlockLattice.Ledger
