import BlockLattice.Proofs.BalanceSteps
import BlockLattice.Proofs.Forgers
import BlockLattice.Proofs.Lasting
import BlockLattice.Proofs.Shares

namespace BlockLattice

def Content.changes : Content → List VoteChange
  | .change _ changes _ _ => changes
  | _ => []

def Content.share? : Content → Option Share
  | .delegate _ _ share _ => some share
  | _ => none

-- The vote for a delegate that was given last has not been taken back since.
def Standing (changes : List VoteChange) (d : AccountId) : Prop :=
  ∃ before after, changes = before ++ .add d :: after ∧ .remove d ∉ after

theorem standing_cons {c : VoteChange} {changes : List VoteChange} {d : AccountId} :
    Standing (c :: changes) d ↔ Standing changes d ∨ (c = .add d ∧ .remove d ∉ changes) := by
  constructor
  · rintro ⟨before, after, split, kept⟩
    cases before with
    | nil =>
      obtain ⟨rfl, rfl⟩ := List.cons.inj split
      exact .inr ⟨rfl, kept⟩
    | cons first before =>
      obtain ⟨rfl, rfl⟩ := List.cons.inj split
      exact .inl ⟨before, after, rfl, kept⟩
  · rintro (⟨before, after, rfl, kept⟩ | ⟨rfl, kept⟩)
    · exact ⟨c :: before, after, rfl, kept⟩
    · exact ⟨[], changes, rfl, kept⟩

namespace VoteSet

variable {votes : VoteSet} {d : AccountId}

theorem mem_change {c : VoteChange} : d ∈ votes.change c ↔ c = .add d ∨ (d ∈ votes ∧ c ≠ .remove d) := by
  cases c with
  | add a => simp [change]
  | remove a => simp [change, and_comm]

theorem mem_apply {changes : List VoteChange} :
    d ∈ VoteSet.apply votes changes ↔ Standing changes d ∨ (d ∈ votes ∧ .remove d ∉ changes) := by
  induction changes generalizing votes with
  | nil => simp [apply, Standing]
  | cons c rest ih =>
    have step : d ∈ VoteSet.apply votes (c :: rest) ↔ d ∈ VoteSet.apply (votes.change c) rest := Iff.rfl
    rw [step, ih, mem_change, standing_cons, List.mem_cons, eq_comm (a := VoteChange.remove d)]
    by_cases later : VoteChange.remove d ∈ rest <;> simp [later, or_assoc]

theorem apply_append (changes more : List VoteChange) :
    VoteSet.apply votes (changes ++ more) = VoteSet.apply (VoteSet.apply votes changes) more :=
  List.foldl_append

end VoteSet

namespace Chain

def changes (c : Chain) : List VoteChange := c.blocks.flatMap fun b => b.content.changes

def enrolments (c : Chain) : List Block := c.blocks.filter fun b => b.kind = .delegate

theorem changes_push (c : Chain) (b : Block) (hash : BlockHash) :
    (c.push b hash).changes = c.changes ++ b.content.changes := by
  simp [changes]

theorem enrolments_push (c : Chain) (b : Block) (hash : BlockHash) :
    (c.push b hash).enrolments = c.enrolments ++ if b.kind = .delegate then [b] else [] := by
  simp [enrolments, List.filter_cons]

end Chain

def Account.after (a : Account) : Payload → Account
  | .change changes => a.applyVotes changes
  | .delegate share => { a with isDelegate := true, share := share }
  | _ => a

theorem Ledger.account?_affect (l : Ledger) (id : AccountId) (payload : Payload) (j : AccountId) :
    (l.affect id payload).account? j = if id = j then (l.account? j).map (·.after payload) else l.account? j := by
  cases payload with
  | change changes => exact l.account?_modify id _ j
  | delegate share => exact l.account?_modify id _ j
  | _ => simp [affect, Account.after]

structure Account.Told (a : Account) (c : Chain) : Prop where
  votes : a.votes = VoteSet.apply ∅ c.changes
  delegate : a.isDelegate = true → ∃ b, c.enrolments = [b] ∧ b.content.share? = some a.share
  novice : a.isDelegate = false → c.enrolments = [] ∧ a.share = .none

namespace Account.Told

theorem new (keys : KeyPair) (id : AccountId) : (Account.new keys).Told (.empty id) where
  votes := rfl
  delegate flag := by cases flag
  novice _ := ⟨rfl, rfl⟩

theorem counted {a : Account} {c : Chain} (told : a.Told c) (forged missed : UInt64) :
    ({ a with forged := forged, missed := missed } : Account).Told c :=
  ⟨told.votes, told.delegate, told.novice⟩

theorem push {a : Account} {c : Chain} {b : Block} {id : AccountId} {bp : Blueprint} (told : a.Told c)
    (tells : ∃ previous time, b.content = bp.content id previous time)
    (once : ∀ share, bp.payload = .delegate share → a.isDelegate = false) :
    (a.after bp.payload).Told (c.push b b.hash) := by
  have votes := told.votes
  obtain ⟨previous, time, tells⟩ := tells
  unfold Blueprint.content at tells
  cases payload : bp.payload with
  | change changes =>
    rw [payload] at tells
    have plain : b.kind ≠ .delegate := by simp [Block.kind, tells, Content.kind]
    refine ⟨?_, ?_, ?_⟩
    · rw [Chain.changes_push, VoteSet.apply_append, tells, ← votes]
      rfl
    · rw [Chain.enrolments_push, if_neg plain, List.append_nil]
      exact told.delegate
    · rw [Chain.enrolments_push, if_neg plain, List.append_nil]
      exact told.novice
  | delegate share =>
    rw [payload] at tells
    have enrols : b.kind = .delegate := by simp [Block.kind, tells, Content.kind]
    refine ⟨?_, fun _ => ⟨b, ?_, ?_⟩, fun flag => ?_⟩
    · rw [Chain.changes_push, VoteSet.apply_append, tells, ← votes]
      rfl
    · rw [Chain.enrolments_push, if_pos enrols, (told.novice (once share payload)).1, List.nil_append]
    · rw [tells]
      rfl
    · cases flag
  | _ =>
    rw [payload] at tells
    have plain : b.kind ≠ .delegate := by simp [Block.kind, tells, Content.kind]
    have still : b.content.changes = [] := by rw [tells]; rfl
    refine ⟨?_, ?_, ?_⟩
    · rw [Chain.changes_push, still, List.append_nil, ← votes]
      rfl
    · rw [Chain.enrolments_push, if_neg plain, List.append_nil]
      exact told.delegate
    · rw [Chain.enrolments_push, if_neg plain, List.append_nil]
      exact told.novice

end Account.Told

namespace Ledger

def Told (l : Ledger) : Prop := ∀ id a, l.account? id = some a → a.Told (l.chainOf id)

theorem Told.modify {l : Ledger} (told : l.Told) (id : AccountId) {change : Account → Account}
    (counts : ∀ a, ∃ forged missed, change a = { a with forged := forged, missed := missed }) :
    (l.modifyAccount id change).Told := by
  intro j a known
  rw [chainOf_modify]
  rw [account?_modify] at known
  split at known
  · obtain ⟨old, found, rfl⟩ := Option.map_eq_some_iff.mp known
    obtain ⟨forged, missed, changed⟩ := counts old
    rw [changed]
    exact (told j old found).counted forged missed
  · exact told j a known

theorem Registers.chainOf {l l' : Ledger} {a : Account} {username : String} (registers : l.Registers a username l')
    (id : AccountId) : l'.chainOf id = l.chainOf id := by
  rw [registers.written]
  rfl

theorem Registers.told {l l' : Ledger} {keys : KeyPair} {username : String}
    (registers : l.Registers (.new keys) username l') (sound : l.Sound) (told : l.Told) : l'.Told := by
  intro j a known
  rw [registers.chainOf]
  rw [registers.account?_eq] at known
  split at known
  · rename_i same
    cases known
    have missing : l.account? j = none := by
      rw [← same]
      exact registers.new
    rw [chainOf_unopened (sound.unopened_of_unknown missing)]
    exact .new keys j
  · exact told j a known

theorem chainOf_place (l : Ledger) (id : AccountId) (b : Block) (j : AccountId) :
    (l.place id b).chainOf j = if id = j then (l.chainOf id).push b b.hash else l.chainOf j := by
  rw [chainOf, chain?_place]
  split <;> rfl

theorem Told.affected {l : Ledger} (told : l.Told) (id : AccountId) {b : Block} (bp : Blueprint)
    (tells : ∃ previous time, b.content = bp.content id previous time)
    (once : ∀ share, bp.payload = .delegate share → l.isDelegate id = false) :
    ((l.place id b).affect id bp.payload).Told := by
  intro j a known
  rw [account?_affect] at known
  have chain : ((l.place id b).affect id bp.payload).chainOf j = (l.place id b).chainOf j := by
    cases bp.payload <;> simp [affect]
  rw [chain, chainOf_place]
  split at known
  · rename_i same
    subst same
    obtain ⟨old, found, rfl⟩ := Option.map_eq_some_iff.mp known
    rw [if_pos rfl]
    have before : l.account? id = some old := found
    refine (told id old before).push tells fun share enrols => ?_
    have novice := once share enrols
    rw [isDelegate, before] at novice
    exact novice
  · rename_i other
    rw [if_neg other]
    exact told j a known

theorem checkPayload_novice {l : Ledger} {p : Params} {id : AccountId} {bp : Blueprint} {share : Share}
    (registers : bp.payload = .delegate share) (allowed : l.checkPayload p id bp = .ok ()) :
    l.isDelegate id = false := by
  unfold checkPayload at allowed
  rw [registers] at allowed
  dsimp only at allowed
  split at allowed
  · cases allowed
  · rename_i novice
    exact eq_false_of_ne_true novice

end Ledger

namespace Node

variable {n n' : Node}

theorem Lands.once {origin : Origin} {r : Request} {f : Forged} {previous : BlockHash} {block : Block}
    (lands : Lands origin r n f previous block n') {share : Share} (enrols : r.blueprint.payload = .delegate share) :
    n.ledger.isDelegate r.account = false := by
  cases origin with
  | client => exact Ledger.checkPayload_novice enrols lands.admits.allowed
  | reward =>
    have reward := lands.raises.1
    rw [enrols] at reward
    cases reward

theorem Lands.told {origin : Origin} {r : Request} {f : Forged} {previous : BlockHash} {block : Block}
    (lands : Lands origin r n f previous block n') (told : n.ledger.Told) : n'.ledger.Told := by
  rw [lands.ledger]
  exact told.affected _ _ ⟨previous, n.clock.now, lands.content⟩ fun _ => lands.once

theorem told_lasts : Lasts Ledger.Told where
  lands lands _ told := lands.told told
  counts id _ counts told := told.modify id counts
  registers registers sound told := registers.told sound told

end Node

namespace Ledger

theorem modify_modify (l : Ledger) (id : AccountId) (first second : Account → Account) :
    (l.modifyAccount id first).modifyAccount id second = l.modifyAccount id fun a => second (first a) := by
  have known := l.account?_modify id first id
  rw [if_pos rfl] at known
  rcases l.modifyAccount_cases id first with ⟨missing, same⟩ | ⟨a, found, written⟩
  · rw [same, modifyAccount, modifyAccount, missing]
  · rw [found] at known
    rw [modifyAccount, known, written, modifyAccount, found]
    refine Ledger.ext ?_ rfl rfl rfl rfl rfl
    refine Std.ExtTreeMap.ext_getElem? fun j => ?_
    simp only [Option.map_some, Std.ExtTreeMap.getElem?_insert]
    split <;> rfl

theorem Founds.told {p : Params} {keys : KeyPair} {username : String} {clock : Clock} {id : AccountId}
    {l₁ l' : Ledger} {b₀ b₁ b₂ : Block} (founds : Founds p keys username clock id .empty l₁ l' b₀ b₁ b₂) : l'.Told := by
  obtain ⟨named, registers⟩ := register_ok founds.registered
  have bare : Ledger.empty.Told := by
    intro j a known
    simp [account?, Ledger.empty] at known
  have opened := (registers.told .empty bare).affected id ⟨none, p.genesisBalance, .zero, .opening⟩
    ⟨.zero, _, founds.opening⟩ (by simp)
  have enrolled := opened.affected id ⟨some b₀.hash, p.genesisBalance, .zero, .delegate .full⟩
    ⟨b₀.hash, _, founds.delegate⟩ fun share _ => by
      rw [named]
      exact registers.novice.1
  have voted := enrolled.affected id ⟨some b₁.hash, p.genesisBalance, .zero, .change [.add id]⟩
    ⟨b₁.hash, _, founds.change⟩ (by simp)
  rw [founds.after]
  simp only [affect] at voted
  rw [← place_modify, modify_modify] at voted
  exact voted

theorem Founds.changes {p : Params} {keys : KeyPair} {username : String} {clock : Clock} {id : AccountId}
    {l₁ l' : Ledger} {b₀ b₁ b₂ : Block} (founds : Founds p keys username clock id .empty l₁ l' b₀ b₁ b₂) :
    (l'.chainOf id).changes = [.add id] := by
  obtain ⟨_, registers⟩ := register_ok founds.registered
  have bare : (Ledger.empty.chainOf id).changes = [] := rfl
  rw [founds.after, chainOf_modify]
  simp [chainOf_place, Chain.changes_push, registers.chainOf, founds.opening, founds.delegate, founds.change,
    Content.changes, bare]

theorem Founds.accounts {p : Params} {keys : KeyPair} {username : String} {clock : Clock} {id : AccountId}
    {l₁ l' : Ledger} {b₀ b₁ b₂ : Block} (founds : Founds p keys username clock id .empty l₁ l' b₀ b₁ b₂) :
    ∃ a : Account, l'.accounts = (∅ : Std.ExtTreeMap AccountId Account).insert id a ∧ a.keys = keys ∧
      a.isDelegate = true ∧ a.votes.toList = [id] := by
  obtain ⟨named, registers⟩ := register_ok founds.registered
  let started := ((l₁.place id b₀).place id b₁).place id b₂
  have registered : started.accounts = (∅ : Std.ExtTreeMap AccountId Account).insert id (.new keys) := by
    change l₁.accounts = _
    rw [registers.written, ← named]
    rfl
  have known : started.account? id = some (.new keys) := by
    rw [account?, registered, Std.ExtTreeMap.getElem?_insert_self]
  refine ⟨{ Account.new keys with isDelegate := true, share := .full }.applyVotes [.add id], ?_, rfl, rfl, rfl⟩
  rw [founds.after, modifyAccount, known]
  dsimp only
  rw [registered]
  refine Std.ExtTreeMap.ext_getElem? fun j => ?_
  simp only [Std.ExtTreeMap.getElem?_insert]
  split <;> rfl

end Ledger

namespace Node

variable {n : Node} {genesis id : AccountId} {a : Account}

theorem Reached.told (reached : Reached genesis n) : n.ledger.Told :=
  told_lasts.reached (fun founds => founds.told) reached

-- An account is a delegate if and only if a delegate block stands on its chain,
-- and there is no second one. Its share is the one of that block, never above the
-- whole. It votes for those whom the change blocks on its chain have added and not
-- removed since.
theorem account_history (reached : Reached genesis n) (known : n.ledger.account? id = some a) :
    (a.isDelegate = true ↔ ∃ b ∈ (n.ledger.chainOf id).blocks, b.kind = .delegate) ∧
    (∀ b ∈ (n.ledger.chainOf id).blocks, b.kind = .delegate →
      (n.ledger.chainOf id).blocks.filter (·.kind = .delegate) = [b] ∧ b.content.share? = some a.share) ∧
    ((∀ b ∈ (n.ledger.chainOf id).blocks, b.kind ≠ .delegate) → a.share.points = 0) ∧
    a.share.points.toNat ≤ Share.whole ∧
    ∀ d, d ∈ a.votes ↔ Standing ((n.ledger.chainOf id).blocks.flatMap fun b => b.content.changes) d := by
  have told := reached.told id a known
  have listed : ∀ b, b ∈ (n.ledger.chainOf id).enrolments ↔
      b ∈ (n.ledger.chainOf id).blocks ∧ b.kind = .delegate := by simp [Chain.enrolments]
  refine ⟨⟨fun flag => ?_, ?_⟩, ?_, fun plain => ?_, reached.measured id a known, fun d => ?_⟩
  · obtain ⟨b, only, _⟩ := told.delegate flag
    exact ⟨b, (listed b).mp (by simp [only])⟩
  · rintro ⟨b, stands, enrols⟩
    cases flag : a.isDelegate with
    | true => rfl
    | false =>
      have member := (listed b).mpr ⟨stands, enrols⟩
      rw [(told.novice flag).1] at member
      cases member
  · intro b stands enrols
    have member := (listed b).mpr ⟨stands, enrols⟩
    cases flag : a.isDelegate with
    | true =>
      obtain ⟨x, only, share⟩ := told.delegate flag
      rw [only, List.mem_singleton] at member
      subst member
      exact ⟨only, share⟩
    | false =>
      rw [(told.novice flag).1] at member
      cases member
  · cases flag : a.isDelegate with
    | true =>
      obtain ⟨b, only, _⟩ := told.delegate flag
      obtain ⟨stands, enrols⟩ := (listed b).mp (by simp [only])
      exact absurd enrols (plain b stands)
    | false =>
      rw [(told.novice flag).2]
      rfl
  · rw [told.votes, VoteSet.mem_apply]
    simp [Chain.changes]

theorem lone_founded : ∃ l₁ b₀ b₁ b₂, Ledger.Founds .standard (.ofPrivate ⟨1⟩) "first" ticking loneId .empty l₁
    lone.ledger b₀ b₁ b₂ :=
  Ledger.openGenesis_ok (openGenesis_ok lone_born).2.1

theorem lone_history : Reached loneId lone ∧ ∃ a b, lone.ledger.account? loneId = some a ∧
    (lone.ledger.chainOf loneId).blocks.filter (·.kind = .delegate) = [b] ∧ b.content.share? = some a.share ∧
    ((lone.ledger.chainOf loneId).blocks.flatMap fun b => b.content.changes) = [.add loneId] ∧
    loneId ∈ a.votes := by
  obtain ⟨l₁, b₀, b₁, b₂, founds⟩ := lone_founded
  obtain ⟨a, accounts, _, flag, _⟩ := founds.accounts
  have known : lone.ledger.account? loneId = some a := by
    rw [Ledger.account?, accounts, Std.ExtTreeMap.getElem?_insert_self]
  obtain ⟨enrolled, once, _, _, votes⟩ := account_history lone_reached known
  obtain ⟨b, stands, enrols⟩ := enrolled.mp flag
  obtain ⟨only, share⟩ := once b stands enrols
  have changes := founds.changes
  have voted : Standing (lone.ledger.chainOf loneId).changes loneId := by
    rw [changes]
    exact ⟨[], [], rfl, by simp⟩
  exact ⟨lone_reached, a, b, known, only, share, changes, (votes loneId).mpr voted⟩

end Node
end BlockLattice
