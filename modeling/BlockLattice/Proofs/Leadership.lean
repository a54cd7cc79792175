import BlockLattice.Proofs.History
import BlockLattice.Proofs.Ranking

namespace BlockLattice

theorem Delegation.forgers_of_noForger {d : Delegation} (none : d.currentForger = .error .noForger) :
    d.round.forgers = [] := by
  unfold currentForger at none
  split at none
  · rename_i empty
    exact List.isEmpty_iff.mp empty
  · split at none
    · cases none
    · rename_i cause ended
      cases none
      unfold Round.forger at ended
      split at ended
      · cases ended
      · split at ended <;> cases ended

theorem Round.forge_error_ne {round : Round} {l : Ledger} {id : AccountId} {bp : Blueprint} {time : Timestamp}
    {e : ConsensusError} (refused : round.forge l id bp time = .error e) : e ≠ .noForger := by
  rintro rfl
  cases turn : round.forger with
  | ok d => cases Round.forge_error turn refused
  | error cause =>
    unfold forge at refused
    rw [turn] at refused
    cases refused
    unfold forger at turn
    split at turn
    · cases turn
    · split at turn <;> cases turn

namespace Ledger

variable {l l' : Ledger}

def Backed (l : Ledger) : Prop := ∃ id d, d ∈ l.votesOf id

def Counts (l : Ledger) : Prop := ∀ id d, d ∈ l.votesOf id → l.isOpened id = true ∧ l.isDelegate d = true

theorem account_of_vote {id d : AccountId} (voted : d ∈ l.votesOf id) : ∃ a, l.account? id = some a ∧ d ∈ a.votes := by
  cases known : l.account? id with
  | none =>
    rw [votesOf, known] at voted
    simp at voted
  | some a =>
    rw [votesOf_of_account known] at voted
    exact ⟨a, rfl, voted⟩

theorem mem_stakeholders {id d : AccountId} : id ∈ l.stakeholders d ↔ l.isOpened id = true ∧ d ∈ l.votesOf id := by
  simp only [stakeholders, List.mem_map, List.mem_filter, Prod.exists, exists_and_right, exists_eq_right,
    Std.ExtTreeMap.mem_toList_iff_getElem?_eq_some, Bool.and_eq_true, Account.votesFor]
  constructor
  · rintro ⟨a, known, voted, opened⟩
    have found : l.account? id = some a := known
    rw [votesOf_of_account found]
    exact ⟨opened, Std.ExtTreeSet.contains_iff_mem.mp voted⟩
  · rintro ⟨opened, voted⟩
    obtain ⟨a, known, listed⟩ := account_of_vote voted
    exact ⟨a, known, Std.ExtTreeSet.contains_iff_mem.mpr listed, opened⟩

theorem backed_of_ranking {x : Delegate} (listed : x ∈ l.ranking) : l.Backed := by
  obtain ⟨v, voting, votes⟩ := WeightTable.mem_ofVoters (WeightTable.mem_ranked listed)
  obtain ⟨⟨id, a⟩, entry, casts⟩ := List.mem_filterMap.mp voting
  obtain ⟨tip, _, rfl⟩ := Option.map_eq_some_iff.mp casts
  have known : l.account? id = some a := Std.ExtTreeMap.mem_toList_iff_getElem?_eq_some.mp entry
  refine ⟨id, x.account, ?_⟩
  rw [votesOf_of_account known]
  exact Std.ExtTreeSet.mem_toList.mp (List.mem_filter.mp votes).1

theorem ranking_unbacked (nobody : ¬l.Backed) : l.ranking = [] :=
  List.eq_nil_iff_forall_not_mem.mpr fun _ listed => nobody (backed_of_ranking listed)

theorem Sound.ranking_backed (sound : l.Sound) (counts : l.Counts) (backed : l.Backed) : l.ranking ≠ [] := by
  obtain ⟨id, d, voted⟩ := backed
  obtain ⟨opened, delegate⟩ := counts id d voted
  have listed : d ∈ l.ranking.map Delegate.account :=
    sound.mem_ranking.mpr ⟨delegate, List.ne_nil_of_mem (mem_stakeholders.mpr ⟨opened, voted⟩)⟩
  intro empty
  rw [empty] at listed
  cases listed

theorem Alike.backed_iff (alike : l.Alike l') : l'.Backed ↔ l.Backed := by
  simp only [Backed, alike.votes]

end Ledger

namespace Node

variable {n n' : Node} {r : Request} {genesis : AccountId}

theorem Leaderless.ended (leaderless : n.Leaderless) : n.delegation.round.hasEnded = true := by
  unfold Leaderless refreshRound Delegation.update at leaderless
  split at leaderless
  · rename_i ended
    exact ended
  · change n.delegation.round.forgers = [] at leaderless
    rw [Round.hasEnded, leaderless]
    rfl

theorem forgers_refreshRound (ended : n.delegation.round.hasEnded = true) :
    n.refreshRound.delegation.round.forgers = (n.delegation.eligible n.ledger).take n.params.maxForgers.toNat := by
  unfold refreshRound Delegation.update
  rw [if_pos ended]
  rfl

def Stranded (n : Node) : Prop := n.delegation.round.hasEnded = true ∧ ¬n.ledger.Backed

theorem Stranded.leaderless (stranded : n.Stranded) : n.Leaderless := by
  rw [Leaderless, forgers_refreshRound stranded.1, Delegation.eligible, Ledger.ranking_unbacked stranded.2]
  exact List.take_nil

-- What lets every vote count in the next election.
structure Polled (n : Node) : Prop where
  sound : n.ledger.Sound
  enrolled : n.Enrolled
  counts : n.ledger.Counts

theorem Polled.stranded (polled : n.Polled) (seats : 1 ≤ n.params.maxForgers.toNat) (leaderless : n.Leaderless) :
    n.Stranded := by
  refine ⟨leaderless.ended, fun backed => ?_⟩
  have all : n.delegation.eligible n.ledger = n.ledger.ranking := by
    refine List.filter_eq_self.mpr fun x listed => ?_
    rw [polled.enrolled, Ledger.ranking_delegates listed]
  have none := leaderless
  rw [Leaderless, forgers_refreshRound leaderless.ended, all, List.take_eq_nil_iff] at none
  rcases none with unseated | empty
  · omega
  · exact polled.sound.ranking_backed polled.counts backed empty

theorem Reached.counts (reached : Reached genesis n) : n.ledger.Counts := by
  intro id d voted
  have ballot := voted_endures.contains.reached voted_born reached id
  obtain ⟨a, known, _⟩ := Ledger.account_of_vote voted
  have opened := allOpened_contains.reached allOpened_born reached id
  exact ⟨opened (Ledger.isRegistered_iff.mpr ⟨a, known⟩), ballot.delegates d voted⟩

theorem Reached.polled (reached : Reached genesis n) : n.Polled :=
  ⟨reached.sound, enrolled_endures.contains.reached enrolled_born reached, reached.counts⟩

theorem Asked.polled (asked : Asked genesis n r) : n.Polled := by
  have sound := asked.reachable.sound
  cases asked with
  | client _ reached => exact reached.polled
  | @opening n keys username l id reached done =>
    obtain ⟨_, registers⟩ := Ledger.register_ok done
    have before := reached.polled
    have alike := registers.alike
    refine ⟨sound, ?_, fun j d voted => ?_⟩
    · exact enrolled_endures.alike before.enrolled rfl rfl alike
    · rw [ledger_withLedger, alike.votes] at voted
      obtain ⟨opened, delegate⟩ := before.counts j d voted
      refine ⟨?_, (alike.delegates d).trans delegate⟩
      rw [ledger_withLedger, registers.written]
      exact opened

theorem Lands.polled {origin : Origin} {f : Forged} {previous : BlockHash} {block : Block}
    (lands : Lands origin r n f previous block n') (still : r.blueprint.payload.changes = []) (polled : n.Polled) :
    n'.Polled := by
  refine ⟨?_, enrolled_endures.lands lands polled.enrolled, fun id d voted => ?_⟩
  · exact lands.evolves.2.sound polled.sound
  · rw [lands.sameVotes still] at voted
    obtain ⟨opened, delegate⟩ := polled.counts id d voted
    exact ⟨by rw [lands.isOpened, opened, ite_self], by rw [lands.isDelegate, delegate, ite_self]⟩

theorem forgeAndAppend_noForger {origin : Origin}
    (refused : n.perform (forgeAndAppend origin r) = (.error (.consensus .noForger), n')) : n.Leaderless := by
  unfold forgeAndAppend at refused
  rcases perform_bind_error.mp refused with checking | ⟨_, m, checking, refused⟩
  · rw [checkRequest, perform_bind, perform_get] at checking
    cases origin
    all_goals
      obtain ⟨⟨_, _, wrapped⟩, _⟩ := perform_raise_error.mp checking
      cases wrapped
  obtain ⟨_, rfl⟩ := perform_checkRequest_ok.mp checking
  rcases perform_bind_error.mp refused with choosing | ⟨forger, m, _, refused⟩
  · rw [perform_chooseForger] at choosing
    cases turn : n.refreshRound.delegation.currentForger with
    | ok id => rw [turn] at choosing; cases choosing
    | error e =>
      rw [turn] at choosing
      cases choosing
      exact Delegation.forgers_of_noForger turn
  · have other : Fails (· ≠ .consensus .noForger) _ :=
      forging_fails (fun failed same => Round.forge_error_ne failed (NodeError.consensus.inj same)) (fun _ => by simp)
        (fun _ => by simp) (fun _ => by simp) forger r
    exact absurd rfl (other m _ n' refused)

theorem pairReceive_noForger {send : BlockHash} {sender destination : AccountId} {amount : Amount}
    (refused : n.perform (pairReceive send sender destination amount) = (.error (.consensus .noForger), n')) :
    n.Leaderless := by
  unfold pairReceive at refused
  rcases perform_bind_error.mp refused with missing | ⟨receiver, m, receiving, refused⟩
  · exact absurd rfl (Fails.account (P := (· ≠ .consensus .noForger)) (by simp) n _ n' missing)
  obtain ⟨_, rfl⟩ := perform_account_ok.mp receiving
  rcases perform_bind_error.mp refused with missing | ⟨previous, m, tipping, refused⟩
  · exact absurd rfl (Fails.tip (P := (· ≠ .consensus .noForger)) (by simp) n _ n' missing)
  obtain ⟨_, rfl⟩ := perform_tip_ok.mp tipping
  rw [perform_bind, perform_get] at refused
  dsimp only at refused
  split at refused
  · cases refused
  rcases perform_bind_error.mp refused with missing | ⟨a, m, sending, refused⟩
  · exact absurd rfl (Fails.account (P := (· ≠ .consensus .noForger)) (by simp) n _ n' missing)
  obtain ⟨_, rfl⟩ := perform_account_ok.mp sending
  rcases perform_bind_error.mp refused with invalid | ⟨bp, m, making, refused⟩
  · obtain ⟨⟨_, _, wrapped⟩, _⟩ := perform_raise_error.mp invalid
    cases wrapped
  obtain ⟨_, rfl⟩ := perform_raise_ok.mp making
  exact forgeAndAppend_noForger refused

-- A send may find a forger for itself and none for its receive block. It has not
-- changed the votes by then.
theorem Asked.noForger (asked : Asked genesis n r) (seats : 1 ≤ n.params.maxForgers.toNat)
    (refused : n.perform (process r) = (.error (.consensus .noForger), n')) : ¬n.ledger.Backed := by
  have polled := asked.polled
  obtain ⟨m, _, unforged | ⟨f, landed, forged, unsettled⟩⟩ := process_error refused
  · exact (polled.stranded seats (forgeAndAppend_noForger unforged)).2
  · obtain ⟨destination, sends, unsettled⟩ := settlePayload_error unsettled
    obtain ⟨previous, block, lands⟩ := forgeAndAppend_ok forged
    have still : r.blueprint.payload.changes = [] := by rw [sends]; rfl
    obtain ⟨cause, m', unpaired, ended⟩ := settle_error unsettled
    rcases ended with ⟨_, _, _, rfl, _⟩ | ⟨_, _, other, _⟩
    · have seated : 1 ≤ landed.params.maxForgers.toNat := by rw [lands.params]; exact seats
      have stranded := (lands.polled still polled).stranded seated (pairReceive_noForger unpaired)
      rintro ⟨id, d, voted⟩
      exact stranded.2 ⟨id, d, by rw [lands.sameVotes still]; exact voted⟩
    · cases other

theorem openAccountWithKeys_noForger {keys : KeyPair} {username : String} (reached : Reached genesis n)
    (seats : 1 ≤ n.params.maxForgers.toNat)
    (refused : n.perform (openAccountWithKeys keys username) = (.error (.consensus .noForger), n')) :
    ¬n.ledger.Backed := by
  rw [perform_openAccountWithKeys] at refused
  cases done : n.ledger.register (.new keys) username with
  | error cause => rw [done] at refused; cases refused
  | ok result =>
    obtain ⟨l, id⟩ := result
    obtain ⟨_, registers⟩ := Ledger.register_ok done
    rw [done] at refused
    dsimp only at refused
    cases ran : (n.withLedger l).perform (process ⟨id, Account.openBlueprint⟩) with
    | mk result m =>
      rw [ran] at refused
      cases result with
      | ok o => cases refused
      | error cause =>
        dsimp only at refused
        rw [perform_deregister] at refused
        cases removed : m.ledger.removeUnopened id with
        | error fault => rw [removed] at refused; cases refused
        | ok result =>
          rw [removed] at refused
          cases refused
          have unbacked := (Asked.opening reached done).noForger seats ran
          exact fun backed => unbacked (registers.alike.backed_iff.mpr backed)

theorem operate_openAccount_blank (n : Node) : n.operate (.openAccount "") = { n with keys := n.keys.draw.2 } := by
  have blank (keys : KeyPair) : n.ledger.register (.new keys) "" = .error (.invalidUsername "") := by
    rw [Ledger.register]
    exact if_pos rfl
  have drawn : n.perform drawKeys = (.ok n.keys.draw.1, { n with keys := n.keys.draw.2 }) := rfl
  rw [operate, openAccount, perform_bind, drawn]
  dsimp only
  rw [perform_openAccountWithKeys, blank]

theorem openAccount_noForger {username : String} (reached : Reached genesis n) (seats : 1 ≤ n.params.maxForgers.toNat)
    (refused : n.perform (openAccount username) = (.error (.consensus .noForger), n')) : ¬n.ledger.Backed := by
  -- To open an account under no name comes to drawing keys and no more, so that
  -- the node with the keys drawn is one of the network.
  obtain ⟨m, drawn⟩ : ∃ m, m = n.operate (.openAccount "") := ⟨_, rfl⟩
  have reached := reached.operated (.openAccount "")
  rw [← drawn] at reached
  rw [operate_openAccount_blank] at drawn
  have drawing : n.perform drawKeys = (.ok n.keys.draw.1, m) := by rw [drawn]; rfl
  have params : m.params = n.params := by rw [drawn]
  have ledger : m.ledger = n.ledger := by rw [drawn]
  rw [openAccount, perform_bind, drawing] at refused
  rw [← params] at seats
  rw [← ledger]
  exact openAccountWithKeys_noForger reached seats refused

theorem wish_noForger {id : AccountId} {make : Params → Account → Block → Except ValidationError Blueprint}
    (reached : Reached genesis n) (seats : 1 ≤ n.params.maxForgers.toNat)
    (refused : n.perform (wish id make) = (.error (.consensus .noForger), n')) : ¬n.ledger.Backed := by
  obtain ⟨_, other | other⟩ | ⟨_, _, _, _, ⟨_, _, other, _⟩ | ⟨_, _, refused⟩⟩ := wish_error refused
  · cases other
  · cases other
  · cases other
  · exact (Asked.client _ reached).noForger seats refused

theorem vote_lost (reached : Reached genesis n) (op : Operation) {id d : AccountId} (voted : d ∈ n.ledger.votesOf id)
    (lost : d ∉ (n.operate op).ledger.votesOf id) : ∃ added b,
      ((n.operate op).ledger.chainOf id).blocks = (n.ledger.chainOf id).blocks ++ added ∧
      b ∈ added ∧ .remove d ∈ b.content.changes := by
  have later := reached.operated op
  obtain ⟨a, known, listed⟩ := Ledger.account_of_vote voted
  have opened := ((opened_lasts id).contains.operate n op).2 reached.reachable (reached.counts id d voted).1
  obtain ⟨a', still⟩ := Ledger.isRegistered_iff.mp (later.sound.registered opened)
  have keeps : Keeps genesis n (n.operate op) := keeps_contains.operate n op
  obtain ⟨added, grown⟩ := (keeps.grows reached.reachable).chain id
  rw [Ledger.votesOf_of_account still, (later.told id a' still).votes, Chain.changes, ← grown, List.flatMap_append,
    VoteSet.apply_append, ← Chain.changes, ← (reached.told id a known).votes, VoteSet.mem_apply] at lost
  -- No chain is ever shortened: what took the vote away stands on it.
  have taken : VoteChange.remove d ∈ added.flatMap fun b => b.content.changes := by
    by_contra kept
    exact lost (.inr ⟨listed, kept⟩)
  obtain ⟨b, member, removes⟩ := List.mem_flatMap.mp taken
  exact ⟨added, b, grown.symm, member, removes⟩

theorem Stranded.alike (stranded : n.Stranded) (_ : n'.params = n.params) (delegation : n'.delegation = n.delegation)
    (alike : n.ledger.Alike n'.ledger) : n'.Stranded := by
  rw [Stranded, delegation, alike.backed_iff]
  exact stranded

theorem Stranded.refreshed (stranded : n.Stranded) : n.refreshRound.Stranded := by
  refine ⟨?_, stranded.2⟩
  rw [Round.hasEnded, stranded.leaderless]
  rfl

theorem Stranded.unled (stranded : n.Stranded) {forger : AccountId} :
    n.refreshRound.delegation.currentForger ≠ .ok forger := by
  rw [stranded.leaderless.noForger]
  simp

theorem Stranded.unforged (stranded : n.Stranded) (origin : Origin) (r : Request) :
    ∃ e n', n.perform (forgeAndAppend origin r) = (.error e, n') ∧ n'.ledger = n.ledger ∧ n'.Stranded := by
  cases ran : n.perform (forgeAndAppend origin r) with
  | mk result n' =>
    cases result with
    | ok f =>
      obtain ⟨previous, block, lands⟩ := forgeAndAppend_ok ran
      exact absurd lands.turn stranded.unled
    | error e =>
      refine ⟨e, n', rfl, ?_⟩
      cases forgeAndAppend_stops ran with
      | refused => exact ⟨rfl, stranded⟩
      | leaderless => exact ⟨rfl, stranded.refreshed⟩
      | missed turn => exact absurd turn stranded.unled
      | passed turn => exact absurd turn stranded.unled

theorem stranded_serves : Serves fun n n' => Stranded n → Stranded n' := by
  refine enduring_serves Stranded.alike fun origin r n stranded => ?_
  obtain ⟨e, n', ran, _, still⟩ := stranded.unforged origin r
  rw [ran]
  exact still

theorem stranded_contains : Contains (Enduring Stranded) :=
  enduring_contains Stranded.alike stranded_serves Stranded.refreshed

-- When there is a seat to fill, the election at hand seats nobody if and only if the
-- round is over and nobody votes for anybody. Before that no request fails for want
-- of a forger. An election is several requests: the chunks after the first are asked
-- of the node that the chunks before them lead to, and these may have taken back the
-- last vote. A vote is lost only to a change on the chain of its account that takes
-- it back; but any vote can be, and after the last of them no operation brings a
-- forger or a vote again, and no block is forged.
theorem last_vote (reached : Reached genesis n) (seats : 1 ≤ n.params.maxForgers.toNat) :
    (n.Leaderless ↔ n.delegation.round.hasEnded = true ∧ ¬n.ledger.Backed) ∧
    (n.ledger.Backed →
      (∀ r n', n.perform (process r) ≠ (.error (.consensus .noForger), n')) ∧
      (∀ keys username n', n.perform (openAccountWithKeys keys username) ≠ (.error (.consensus .noForger), n')) ∧
      (∀ username n', n.perform (openAccount username) ≠ (.error (.consensus .noForger), n')) ∧
      (∀ source destination amount n',
        n.perform (transfer source destination amount) ≠ (.error (.consensus .noForger), n')) ∧
      ∀ id percent n', n.perform (registerDelegate id percent) ≠ (.error (.consensus .noForger), n')) ∧
    (∀ op id d, d ∈ n.ledger.votesOf id → d ∉ (n.operate op).ledger.votesOf id → ∃ added b,
      ((n.operate op).ledger.chainOf id).blocks = (n.ledger.chainOf id).blocks ++ added ∧
      b ∈ added ∧ .remove d ∈ b.content.changes) ∧
    (n.Leaderless → ∀ ops : List Operation, (ops.foldl operate n).Leaderless ∧ ¬(ops.foldl operate n).ledger.Backed ∧
      ∀ origin r, ∃ e m, (ops.foldl operate n).perform (forgeAndAppend origin r) = (.error e, m) ∧
        m.ledger = (ops.foldl operate n).ledger) := by
  have polled := reached.polled
  refine ⟨⟨polled.stranded seats, Stranded.leaderless⟩, fun backed => ⟨?_, ?_, ?_, ?_, ?_⟩, ?_, fun leaderless ops => ?_⟩
  · intro r n' refused
    exact (Asked.client r reached).noForger seats refused backed
  · intro keys username n' refused
    exact openAccountWithKeys_noForger reached seats refused backed
  · intro username n' refused
    exact openAccount_noForger reached seats refused backed
  · intro source destination amount n' refused
    exact wish_noForger reached seats (transfer_eq source destination amount ▸ refused) backed
  · intro id percent n' refused
    exact wish_noForger reached seats (registerDelegate_eq id percent ▸ refused) backed
  · intro op id d voted lost
    exact vote_lost reached op voted lost
  · have later := (stranded_contains.run n ops).2 reached.reachable (polled.stranded seats leaderless)
    refine ⟨later.leaderless, later.2, fun origin r => ?_⟩
    obtain ⟨e, m, ran, same, _⟩ := later.unforged origin r
    exact ⟨e, m, ran, same⟩

@[irreducible] def withdrawal : Except NodeError (List Outcome) × Node :=
  (ended narrowBirth).perform (elect loneId ["-first"])

def withdrawn : Node := ended withdrawal

def revote : Request := ⟨loneId,
  ⟨(withdrawn.ledger.latest? loneId).map Block.hash, .clamp (withdrawn.ledger.balance loneId), .zero,
    .change [.add loneId]⟩⟩

def isUnled : Except NodeError Outcome × Node → Bool
  | (.error (.consensus .noForger), _) => true
  | _ => false

theorem eq_of_isUnled {run : Except NodeError Outcome × Node} (unled : isUnled run = true) :
    ∃ n', run = (.error (.consensus .noForger), n') := by
  unfold isUnled at unled
  split at unled
  · exact ⟨_, rfl⟩
  · cases unled

set_option maxRecDepth 100000 in
theorem withdrawn_seen : (withdrawn.refreshRound.delegation.round.forgers.isEmpty &&
    isUnled (withdrawn.perform (process revote))) = true := by decide +kernel

theorem operate_elect (n : Node) (id : AccountId) (tokens : List String) :
    n.operate (.elect id tokens) = ended (n.perform (elect id tokens)) := rfl

theorem withdrawn_eq : withdrawn = (ended narrowBirth).operate (.elect loneId ["-first"]) := by
  rw [operate_elect, withdrawn, withdrawal]

theorem withdrawn_reached : ∃ genesis, Reached genesis withdrawn ∧ 1 ≤ withdrawn.params.maxForgers.toNat := by
  obtain ⟨genesis, born⟩ := narrowBirth_ok
  refine ⟨genesis, withdrawn_eq ▸ (Reached.started born).operated _, ?_⟩
  have params : withdrawn.params = narrow := by
    rw [withdrawn_eq]
    exact (evolves_moves.contains.operate (ended narrowBirth) _).1.trans (openGenesis_ok born).1
  rw [params]
  decide

theorem withdrawn_nobody : withdrawn.refreshRound.delegation.round.forgers = [] := by
  have seen := withdrawn_seen
  rw [Bool.and_eq_true] at seen
  exact List.isEmpty_iff.mp seen.1

-- The network has lost its last forger, and the vote that would elect it is refused.
theorem withdrawn_unled : (∃ genesis, Reached genesis withdrawn) ∧ 1 ≤ withdrawn.params.maxForgers.toNat ∧
    withdrawn.refreshRound.delegation.round.forgers = [] ∧
    ∃ n', withdrawn.perform (process revote) = (.error (.consensus .noForger), n') := by
  obtain ⟨genesis, reached, seats⟩ := withdrawn_reached
  have seen := withdrawn_seen
  rw [Bool.and_eq_true] at seen
  exact ⟨⟨genesis, reached⟩, seats, withdrawn_nobody, eq_of_isUnled seen.2⟩

theorem withdrawn_forever : ∃ genesis, Reached genesis withdrawn ∧ 1 ≤ withdrawn.params.maxForgers.toNat ∧
    withdrawn.delegation.round.hasEnded = true ∧ ¬withdrawn.ledger.Backed ∧
    ∀ ops : List Operation,
      (ops.foldl operate withdrawn).Leaderless ∧ ¬(ops.foldl operate withdrawn).ledger.Backed := by
  obtain ⟨genesis, reached, seats⟩ := withdrawn_reached
  obtain ⟨leaderless, _, _, forever⟩ := last_vote reached seats
  obtain ⟨ended, nobody⟩ := leaderless.mp withdrawn_nobody
  refine ⟨genesis, reached, seats, ended, nobody, fun ops => ?_⟩
  obtain ⟨still, unbacked, _⟩ := forever withdrawn_nobody ops
  exact ⟨still, unbacked⟩

end Node
end BlockLattice
