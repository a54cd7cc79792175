import BlockLattice.Proofs.LedgerViews
import BlockLattice.Proofs.NodeActions

namespace BlockLattice

theorem Round.forge_ok {round turned : Round} {l : Ledger} {id : AccountId} {bp : Blueprint} {time : Timestamp}
    {draft : Block} (forged : round.forge l id bp time = .ok (turned, draft)) :
    ∃ d previous w, round.forger = .ok d ∧ Round.previousFor l id bp = .ok previous ∧
      l.account? d.account = some w ∧ turned = { round with index := round.index + 1 } ∧
      draft = (Block.unsigned (bp.content id previous time)).signWitness w.privateKey := by
  unfold forge at forged
  cases turn : round.forger with
  | error e => rw [turn] at forged; cases forged
  | ok d =>
    cases follows : Round.previousFor l id bp with
    | error e => rw [turn, follows] at forged; cases forged
    | ok previous =>
      rw [turn, follows] at forged
      cases known : l.account? d.account with
      | none =>
        simp only [bind, Except.bind] at forged
        rw [known] at forged
        cases forged
      | some w =>
        simp only [bind, Except.bind] at forged
        rw [known] at forged
        cases forged
        exact ⟨d, previous, w, rfl, rfl, known, rfl, rfl⟩

theorem Delegation.currentForger_ok {d : Delegation} {id : AccountId} (turn : d.currentForger = .ok id) :
    ∃ x, d.round.forger = .ok x ∧ x.account = id := by
  unfold currentForger at turn
  split at turn
  · cases turn
  · split at turn
    · rename_i x forger
      cases turn
      exact ⟨x, forger, rfl⟩
    · cases turn

theorem Round.previousFor_ok {l : Ledger} {id : AccountId} {bp : Blueprint} {previous : BlockHash}
    (follows : Round.previousFor l id bp = .ok previous) :
    (bp.payload = .opening ∧ bp.previous = none ∧ l.isOpened id = false) ∨
      (bp.payload ≠ .opening ∧ bp.previous = some previous) := by
  unfold previousFor Blueprint.kind at follows
  cases payload : bp.payload with
  | opening =>
    cases named : bp.previous with
    | some _ => rw [payload, named] at follows; cases follows
    | none =>
      rw [payload, named] at follows
      cases opened : l.isOpened id with
      | true => simp [Payload.kind, opened] at follows
      | false => exact .inl ⟨rfl, rfl, rfl⟩
  | _ =>
    cases named : bp.previous with
    | none => rw [payload, named] at follows; cases follows
    | some found =>
      rw [payload, named] at follows
      simp only [Payload.kind] at follows
      split at follows
      · cases follows
        exact .inr ⟨by simp, rfl⟩
      · cases follows

def NodeError.isForgeFault : NodeError → Bool
  | .consensus (.invalidBlockType ..) => true
  | .consensus (.forgeFailed _) => true
  | _ => false

theorem Round.previousFor_error {l : Ledger} {id : AccountId} {bp : Blueprint} {e : ConsensusError}
    (refused : Round.previousFor l id bp = .error e) : (NodeError.consensus e).isForgeFault = true := by
  unfold previousFor at refused
  split at refused
  · cases refused; rfl
  · split at refused <;> cases refused
    rfl
  · cases refused; rfl
  · split at refused <;> cases refused
    rfl

theorem Round.forge_error {round : Round} {l : Ledger} {id : AccountId} {bp : Blueprint} {time : Timestamp}
    {e : ConsensusError} {d : Delegate} (turn : round.forger = .ok d)
    (refused : round.forge l id bp time = .error e) : (NodeError.consensus e).isForgeFault = true := by
  unfold forge at refused
  rw [turn] at refused
  cases follows : Round.previousFor l id bp with
  | error cause =>
    rw [follows] at refused
    cases refused
    exact previousFor_error follows
  | ok previous =>
    rw [follows] at refused
    simp only [bind, Except.bind] at refused
    split at refused
    · cases refused; rfl
    · cases refused

namespace Node

def passes (n : Node) (r : Request) : Origin → Prop
  | .client => n.ledger.check n.params r.account r.blueprint = .ok ()
  | .reward => n.ledger.checkReward r.account r.blueprint = .ok ()

def turned (n : Node) : Node :=
  let n := n.refreshRound.later
  { n with delegation := { n.delegation with round :=
    { n.delegation.round with index := n.delegation.round.index + 1 } } }

@[simp] theorem ledger_refreshRound (n : Node) : n.refreshRound.ledger = n.ledger := rfl
@[simp] theorem ledger_later (n : Node) : n.later.ledger = n.ledger := rfl
@[simp] theorem ledger_turned (n : Node) : n.turned.ledger = n.ledger := rfl
@[simp] theorem ledger_withLedger (n : Node) (l : Ledger) : (n.withLedger l).ledger = l := rfl

@[simp] theorem params_applyPayload (n : Node) (id : AccountId) (payload : Payload) :
    (n.applyPayload id payload).params = n.params := by
  cases payload <;> rfl

theorem perform_checkRequest_ok {origin : Origin} {r : Request} {n n' : Node} :
    n.perform (checkRequest origin r) = (.ok ⟨⟩, n') ↔ n.passes r origin ∧ n = n' := by
  rw [checkRequest, perform_bind, perform_get]
  cases origin <;> exact perform_raise_ok

theorem perform_checkRequest_error {origin : Origin} {r : Request} {n n' : Node} {e : NodeError}
    (refused : n.perform (checkRequest origin r) = (.error e, n')) : e.isForgeFault = false ∧ n = n' := by
  rw [checkRequest, perform_bind, perform_get] at refused
  cases origin
  all_goals
    obtain ⟨⟨cause, _, wrapped⟩, same⟩ := perform_raise_error.mp refused
    exact ⟨by rw [← wrapped]; rfl, same⟩

theorem perform_chooseForger (n : Node) :
    n.perform chooseForger = (n.refreshRound.delegation.currentForger.mapError .consensus, n.refreshRound) := by
  rw [chooseForger, perform_bind, perform_get]
  dsimp only
  rw [perform_bind, perform_set]
  exact perform_raise _ _ _

theorem currentForger_error {d : Delegation} {e : ConsensusError} (none : d.currentForger = .error e) :
    (NodeError.consensus e).isForgeFault = false := by
  unfold Delegation.currentForger at none
  split at none
  · cases none; rfl
  · split at none
    · cases none
    · rename_i cause ended
      cases none
      unfold Round.forger at ended
      split at ended
      · cases ended; rfl
      · split at ended <;> cases ended
        rfl

theorem perform_readClock (n : Node) : n.perform readClock = (.ok n.clock.now, n.later) := rfl

-- The clock is read whether or not the block can be built.
theorem perform_buildBlock (n : Node) (forger : AccountId) (r : Request) :
    n.perform (buildBlock forger r) =
      match n.delegation.round.forge n.ledger r.account r.blueprint n.clock.now with
      | .ok (round, block) => (.ok block, { n.later with delegation := { n.delegation with round := round } })
      | .error e => (.error (.consensus e), n.later.missTurn forger) := by
  rw [buildBlock, perform_bind, perform_readClock]
  dsimp only
  rw [perform_bind, perform_get]
  dsimp only [later]
  cases n.delegation.round.forge n.ledger r.account r.blueprint n.clock.now <;> rfl

theorem perform_buildBlock_ok {n n' : Node} {forger : AccountId} {r : Request} {draft : Block}
    (built : n.refreshRound.perform (buildBlock forger r) = (.ok draft, n')) :
    n' = n.turned ∧ ∃ previous, ∃ w : Account, Round.previousFor n.ledger r.account r.blueprint = .ok previous ∧
      draft = (Block.unsigned (r.blueprint.content r.account previous n.clock.now)).signWitness w.privateKey := by
  rw [perform_buildBlock] at built
  split at built
  · rename_i round made forged
    obtain ⟨d, previous, w, _, follows, _, passed, drafted⟩ := Round.forge_ok forged
    cases built
    exact ⟨by rw [passed]; rfl, previous, w, follows, drafted⟩
  · cases built

theorem perform_buildBlock_error {n n' : Node} {forger : AccountId} {r : Request} {e : NodeError}
    (turn : n.delegation.currentForger = .ok forger) (refused : n.perform (buildBlock forger r) = (.error e, n')) :
    e.isForgeFault = true ∧ n' = n.later.missTurn forger := by
  obtain ⟨d, seat, _⟩ := Delegation.currentForger_ok turn
  rw [perform_buildBlock] at refused
  split at refused
  · cases refused
  · rename_i cause failed
    cases refused
    exact ⟨Round.forge_error seat failed, rfl⟩

theorem perform_signed_ok {owner forger : AccountId} {draft block : Block} {n n' : Node}
    (done : n.perform (signed owner forger draft) = (.ok block, n')) :
    n = n' ∧ ∃ a w, n.ledger.account? owner = some a ∧ block = draft.sign a.privateKey ∧
      block.verify a.publicKey = true ∧ n.ledger.account? forger = some w ∧
      block.verifyWitness w.publicKey = true := by
  unfold signed at done
  obtain ⟨a, m, owning, done⟩ := perform_bind_ok.mp done
  obtain ⟨known, rfl⟩ := perform_account_ok.mp owning
  dsimp only at done
  split at done
  · cases done
  · rename_i own
    obtain ⟨w, m, witnessing, done⟩ := perform_bind_ok.mp done
    obtain ⟨witness, rfl⟩ := perform_account_ok.mp witnessing
    split at done
    · cases done
    · rename_i seen
      cases done
      exact ⟨rfl, a, w, known, rfl, by simpa using own, witness, by simpa using seen⟩

theorem perform_signed_error {owner forger : AccountId} {draft : Block} {n n' : Node} {e : NodeError}
    (refused : n.perform (signed owner forger draft) = (.error e, n')) : e.isForgeFault = false ∧ n = n' := by
  unfold signed at refused
  rw [perform_bind, perform_account] at refused
  cases known : n.ledger.account? owner with
  | none => rw [known] at refused; cases refused; exact ⟨rfl, rfl⟩
  | some a =>
    rw [known] at refused
    dsimp only at refused
    split at refused
    · cases refused; exact ⟨rfl, rfl⟩
    · rw [perform_bind, perform_account] at refused
      cases witness : n.ledger.account? forger with
      | none => rw [witness] at refused; cases refused; exact ⟨rfl, rfl⟩
      | some w =>
        rw [witness] at refused
        dsimp only at refused
        split at refused <;> cases refused
        exact ⟨rfl, rfl⟩

theorem perform_appendBlock (n : Node) (id : AccountId) (b : Block) :
    n.perform (appendBlock id b) =
      match n.ledger.append id b with
      | .ok (l, hash) => (.ok hash, n.withLedger l)
      | .error e => (.error (.appendFailed e), n) := by
  rw [appendBlock, perform_bind, perform_get]
  dsimp only
  rw [perform_bind, perform_raise]
  cases n.ledger.append id b <;> rfl

theorem perform_appendBlock_ok {n n' : Node} {id : AccountId} {b : Block} {hash : BlockHash}
    (done : n.perform (appendBlock id b) = (.ok hash, n')) :
    n.ledger.Appends id b ∧ hash = b.hash ∧ n' = n.withLedger (n.ledger.place id b) := by
  rw [perform_appendBlock] at done
  split at done
  · rename_i l placed appended
    obtain ⟨appends, written, named⟩ := Ledger.append_ok appended
    cases done
    exact ⟨appends, named, by rw [written]⟩
  · cases done

theorem perform_applyEffects (n : Node) (id : AccountId) (payload : Payload) :
    n.perform (applyEffects id payload) =
      match n.ledger.account? id with
      | some _ => (.ok (rewardFor n.params payload), n.applyPayload id payload)
      | none => (.error (.accountNotFound id), n) := by
  rw [applyEffects, perform_bind, perform_account]
  cases n.ledger.account? id <;> rfl

-- A block that landed, with all that was found in order before it did: the
-- check of the blueprint, the turn of the forger, the block it follows, both
-- signatures, and that it fits the ledger.
structure Lands (origin : Origin) (r : Request) (n : Node) (f : Forged) (previous : BlockHash) (block : Block)
    (n' : Node) : Prop where
  checked : n.passes r origin
  turn : n.refreshRound.delegation.currentForger = .ok f.forger
  follows : Round.previousFor n.ledger r.account r.blueprint = .ok previous
  content : block.content = r.blueprint.content r.account previous n.clock.now
  owned : ∃ a, n.ledger.account? r.account = some a ∧ block.verify a.publicKey = true
  witnessed : ∃ w, n.ledger.account? f.forger = some w ∧ block.verifyWitness w.publicKey = true
  appends : n.ledger.Appends r.account block
  hash : f.hash = block.hash
  kind : f.kind = r.blueprint.kind
  reward : f.reward = rewardFor n.params r.blueprint.payload
  after : n' = (n.turned.withLedger (n.ledger.place r.account block)).applyPayload r.account r.blueprint.payload

theorem forgeAndAppend_ok {origin : Origin} {r : Request} {n n' : Node} {f : Forged}
    (done : n.perform (forgeAndAppend origin r) = (.ok f, n')) :
    ∃ previous block, Lands origin r n f previous block n' := by
  unfold forgeAndAppend at done
  obtain ⟨_, m, checking, done⟩ := perform_bind_ok.mp done
  obtain ⟨checked, rfl⟩ := perform_checkRequest_ok.mp checking
  obtain ⟨forger, m, chosen, done⟩ := perform_bind_ok.mp done
  rw [perform_chooseForger] at chosen
  cases turn : n.refreshRound.delegation.currentForger with
  | error e => rw [turn] at chosen; cases chosen
  | ok id =>
    rw [turn] at chosen
    cases chosen
    obtain ⟨draft, m, built, done⟩ := perform_bind_ok.mp done
    obtain ⟨rfl, previous, keys, follows, drafted⟩ := perform_buildBlock_ok built
    obtain ⟨block, m, signing, done⟩ := perform_bind_ok.mp done
    obtain ⟨rfl, a, w, known, own, verified, witness, seen⟩ := perform_signed_ok signing
    obtain ⟨hash, m, appending, done⟩ := perform_bind_ok.mp done
    obtain ⟨appends, named, rfl⟩ := perform_appendBlock_ok appending
    rw [perform_bind, perform_applyEffects, ledger_withLedger, Ledger.account?_place, known] at done
    cases done
    refine ⟨previous, block, checked, turn, follows, ?_, ⟨a, known, verified⟩, ⟨w, witness, seen⟩, appends,
      named, rfl, rfl, rfl⟩
    rw [own, drafted]
    rfl

end Node

def Ledger.affect (l : Ledger) (id : AccountId) : Payload → Ledger
  | .change changes => l.modifyAccount id (·.applyVotes changes)
  | .delegate share => l.modifyAccount id fun a => { a with isDelegate := true, share := share }
  | _ => l

namespace Ledger

variable (l : Ledger) (id : AccountId) (payload : Payload)

theorem affect_cases : l.affect id payload = l ∨
    ∃ change : Account → Account, (∀ a, (change a).keys = a.keys) ∧
      l.affect id payload = l.modifyAccount id change := by
  cases payload with
  | change changes => exact .inr ⟨(·.applyVotes changes), fun _ => rfl, rfl⟩
  | delegate share => exact .inr ⟨fun a => { a with isDelegate := true, share := share }, fun _ => rfl, rfl⟩
  | _ => exact .inl rfl

@[simp] theorem blockAt?_affect (j : AccountId) (k : Nat) : (l.affect id payload).blockAt? j k = l.blockAt? j k := by
  cases payload <;> simp [affect]

@[simp] theorem isRegistered_affect (j : AccountId) : (l.affect id payload).isRegistered j = l.isRegistered j := by
  cases payload <;> simp [affect]

@[simp] theorem isOpened_affect (j : AccountId) : (l.affect id payload).isOpened j = l.isOpened j := by
  cases payload <;> simp [affect]

@[simp] theorem usernames_affect : (l.affect id payload).usernames = l.usernames := by
  cases payload <;> simp [affect]

@[simp] theorem chainOf_affect (j : AccountId) : (l.affect id payload).chainOf j = l.chainOf j := by
  cases payload <;> simp [affect]

@[simp] theorem balance_affect (j : AccountId) : (l.affect id payload).balance j = l.balance j := by
  cases payload <;> simp [affect]

end Ledger

namespace Node

theorem ledger_applyPayload (n : Node) (id : AccountId) (payload : Payload) :
    (n.applyPayload id payload).ledger = n.ledger.affect id payload := by
  cases payload <;> rfl

variable {origin : Origin} {r : Request} {n n' : Node} {f : Forged} {previous : BlockHash} {block : Block}

theorem Lands.ledger (lands : Lands origin r n f previous block n') :
    n'.ledger = (n.ledger.place r.account block).affect r.account r.blueprint.payload := by
  rw [lands.after, ledger_applyPayload]; rfl

theorem Lands.params (lands : Lands origin r n f previous block n') : n'.params = n.params := by
  rw [lands.after, params_applyPayload]; rfl

end Node

def Ledger.miss (l : Ledger) (forger : AccountId) : Ledger :=
  l.modifyAccount forger fun a => { a with missed := a.missed + 1 }

namespace Node

-- What a refusal leaves behind: the ledger as it was, save that the forger whose
-- turn it is has missed it if the error is that its block cannot be built.
structure Spares (n : Node) (e : NodeError) (n' : Node) : Prop where
  params : n'.params = n.params
  unforged : e.isForgeFault = false → n'.ledger = n.ledger
  missed : e.isForgeFault = true →
    ∃ forger, n'.delegation.currentForger = .ok forger ∧ n'.ledger = n.ledger.miss forger

theorem Spares.of_same {n n' : Node} {e : NodeError} (params : n'.params = n.params) (ledger : n'.ledger = n.ledger)
    (other : e.isForgeFault = false) : Spares n e n' :=
  ⟨params, fun _ => ledger, fun fault => absurd (other.symm.trans fault) (by simp)⟩

theorem Spares.ledger_cases {n n' : Node} {e : NodeError} (spares : Spares n e n') :
    n'.ledger = n.ledger ∨ ∃ forger, n'.ledger = n.ledger.miss forger := by
  cases fault : e.isForgeFault with
  | false => exact .inl (spares.unforged fault)
  | true =>
    obtain ⟨forger, _, missed⟩ := spares.missed fault
    exact .inr ⟨forger, missed⟩

theorem Spares.view {n n' : Node} {e : NodeError} (spares : Spares n e n') (see : Ledger → α)
    (blind : ∀ l id change, see (l.modifyAccount id change) = see l) : see n'.ledger = see n.ledger := by
  rcases spares.ledger_cases with same | ⟨forger, missed⟩
  · rw [same]
  · rw [missed, Ledger.miss, blind]

-- Where a request for which no block lands leaves the node: before its check or
-- after the election that it may bring, with the turn passed on or missed.
inductive Stops (n : Node) (e : NodeError) : Node → Prop where
  | refused : e.isForgeFault = false → Stops n e n
  | leaderless : e.isForgeFault = false → Stops n e n.refreshRound
  | missed {forger : AccountId} : n.refreshRound.delegation.currentForger = .ok forger → e.isForgeFault = true →
      Stops n e (n.refreshRound.later.missTurn forger)
  | passed {forger : AccountId} : n.refreshRound.delegation.currentForger = .ok forger → e.isForgeFault = false →
      Stops n e n.turned

theorem forgeAndAppend_stops {origin : Origin} {r : Request} {n n' : Node} {e : NodeError}
    (refused : n.perform (forgeAndAppend origin r) = (.error e, n')) : Stops n e n' := by
  unfold forgeAndAppend at refused
  rcases perform_bind_error.mp refused with checking | ⟨_, m, checking, choosing⟩
  · obtain ⟨other, rfl⟩ := perform_checkRequest_error checking
    exact .refused other
  obtain ⟨_, rfl⟩ := perform_checkRequest_ok.mp checking
  rw [perform_bind, perform_chooseForger] at choosing
  cases turn : n.refreshRound.delegation.currentForger with
  | error cause =>
    rw [turn] at choosing
    cases choosing
    exact .leaderless (currentForger_error turn)
  | ok forger =>
    rw [turn] at choosing
    dsimp only [Except.mapError] at choosing
    rcases perform_bind_error.mp choosing with building | ⟨draft, m, built, signing⟩
    · obtain ⟨fault, rfl⟩ := perform_buildBlock_error turn building
      exact .missed turn fault
    obtain ⟨rfl, _⟩ := perform_buildBlock_ok built
    rcases perform_bind_error.mp signing with signing | ⟨block, m, signing, appending⟩
    · obtain ⟨other, rfl⟩ := perform_signed_error signing
      exact .passed turn other
    obtain ⟨rfl, a, _, known, _⟩ := perform_signed_ok signing
    rcases perform_bind_error.mp appending with appending | ⟨hash, m, appending, applying⟩
    · rw [perform_appendBlock] at appending
      split at appending <;> cases appending
      exact .passed turn rfl
    -- Once the block stands nothing can fail any more: its account is on the ledger.
    obtain ⟨_, _, rfl⟩ := perform_appendBlock_ok appending
    rw [perform_bind, perform_applyEffects, ledger_withLedger, Ledger.account?_place, known] at applying
    cases applying

theorem Stops.spares {n n' : Node} {e : NodeError} (stops : Stops n e n') : Spares n e n' := by
  cases stops with
  | refused other => exact .of_same rfl rfl other
  | leaderless other => exact .of_same rfl rfl other
  | missed turn fault => exact ⟨rfl, fun other => absurd (fault.symm.trans other) (by simp), fun _ => ⟨_, turn, rfl⟩⟩
  | passed _ other => exact .of_same rfl rfl other

theorem forgeAndAppend_error {origin : Origin} {r : Request} {n n' : Node} {e : NodeError}
    (refused : n.perform (forgeAndAppend origin r) = (.error e, n')) : Spares n e n' :=
  (forgeAndAppend_stops refused).spares

theorem forge_within {R : Node → Node → Prop} {origin : Origin} {r : Request}
    (landing : ∀ {n f previous block n'}, Lands origin r n f previous block n' → R n n')
    (stopping : ∀ {n e n'}, Stops n e n' → R n n') : Within R (forgeAndAppend origin r) := by
  refine .of_results (fun refused => stopping (forgeAndAppend_stops refused)) fun done => ?_
  obtain ⟨previous, block, lands⟩ := forgeAndAppend_ok done
  exact landing lands

theorem forging_fails {P : NodeError → Prop}
    (unbuilt : ∀ {round : Round} {l : Ledger} {id bp time e}, round.forge l id bp time = .error e → P (.consensus e))
    (missing : ∀ id, P (.accountNotFound id)) (unsigned : ∀ signer, P (.signatureInvalid signer))
    (unplaced : ∀ {l : Ledger} {id b e}, l.append id b = .error e → P (.appendFailed e)) (forger : AccountId)
    (r : Request) : Fails P (do
      let block ← buildBlock forger r
      let block ← signed r.account forger block
      let hash ← appendBlock r.account block
      let reward ← applyEffects r.account r.blueprint.payload
      return (⟨hash, r.blueprint.kind, forger, reward⟩ : Forged)) := by
  refine .bind (fun n e n' refused => ?_) fun draft => ?_
  · rw [perform_buildBlock] at refused
    cases forged : n.delegation.round.forge n.ledger r.account r.blueprint n.clock.now with
    | ok result => rw [forged] at refused; cases refused
    | error cause =>
      rw [forged] at refused
      cases refused
      exact unbuilt forged
  refine .bind (.bind (.account (missing _)) fun a => ?_) fun block => ?_
  · dsimp only
    split
    · exact .throw (unsigned _)
    · refine .bind (.account (missing _)) fun w => ?_
      split
      · exact .throw (unsigned _)
      · exact .pure _
  refine .bind (.bind .get fun n => .bind (.raise fun _ refused => unplaced refused) fun _ => .bind (.set _) fun _ => .pure _) fun hash => ?_
  refine .bind (.bind (.account (missing _)) fun a => ?_) fun reward => .pure _
  exact .bind .get fun n => .bind (.set _) fun _ => .pure _

end Node
end BlockLattice
