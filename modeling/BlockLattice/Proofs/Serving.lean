import BlockLattice.Proofs.Forging
import BlockLattice.Proofs.LedgerUndo
import BlockLattice.Proofs.NodeRuns

namespace BlockLattice.Node

variable {n n' : Node}

structure Pairs (send : BlockHash) (destination : AccountId) (amount : Amount) (n : Node) (bp : Blueprint) :
    Prop where
  tip : ∃ previous, n.ledger.latest? destination = some previous ∧ bp.previous = some previous.hash
  source : ∃ source, n.ledger.block? send = some source ∧ bp.payload = .receive (some source.hash)
  balance : bp.balance.raw = n.ledger.balance destination + amount.raw
  amount : bp.amount = amount

theorem credit_ok {balance amount total : Amount} (done : Account.credit balance amount = .ok total) :
    total.raw = balance.raw + amount.raw := by
  unfold Account.credit at done
  split at done
  · rename_i t found
    cases done
    exact Amount.checkedAdd_eq_some.mp found
  · cases done

theorem receiveBlueprint_ok {a : Account} {amount : Amount} {tip source : Block} {key : PublicKey} {bp : Blueprint}
    (made : a.receiveBlueprint amount tip source key = .ok bp) :
    bp.previous = some tip.hash ∧ bp.amount = amount ∧ bp.payload = .receive (some source.hash) ∧
      bp.balance.raw = tip.balance.raw + amount.raw := by
  unfold Account.receiveBlueprint at made
  cases checked : a.checkTip tip with
  | error e => rw [checked] at made; cases made
  | ok _ =>
    rw [checked] at made
    simp only [bind, Except.bind, pure, Except.pure] at made
    split at made
    · cases made
    · split at made
      · cases made
      · split at made
        · cases made
        · rename_i balance credited
          cases made
          exact ⟨rfl, rfl, rfl, credit_ok credited⟩

theorem pairReceive_ok {send : BlockHash} {sender destination : AccountId} {amount : Amount} {f : Forged}
    (done : n.perform (pairReceive send sender destination amount) = (.ok f, n')) :
    ∃ bp, Pairs send destination amount n bp ∧
      n.perform (forgeAndAppend .client ⟨destination, bp⟩) = (.ok f, n') := by
  unfold pairReceive at done
  obtain ⟨receiver, m, receiving, done⟩ := perform_bind_ok.mp done
  obtain ⟨_, rfl⟩ := perform_account_ok.mp receiving
  obtain ⟨previous, m, tipping, done⟩ := perform_bind_ok.mp done
  obtain ⟨last, rfl⟩ := perform_tip_ok.mp tipping
  rw [perform_bind, perform_get] at done
  dsimp only at done
  split at done
  · cases done
  · rename_i source found
    obtain ⟨a, m, sending, done⟩ := perform_bind_ok.mp done
    obtain ⟨_, rfl⟩ := perform_account_ok.mp sending
    obtain ⟨bp, m, making, done⟩ := perform_bind_ok.mp done
    obtain ⟨made, rfl⟩ := perform_raise_ok.mp making
    obtain ⟨follows, amounts, receives, raised⟩ := receiveBlueprint_ok made
    rw [← Ledger.balance_of_latest last] at raised
    exact ⟨bp, ⟨⟨previous, last, follows⟩, ⟨source, found, receives⟩, raised, amounts⟩, done⟩

theorem perform_account_error {id : AccountId} {e : NodeError}
    (missing : n.perform (account id) = (.error e, n')) : e.isForgeFault = false ∧ n = n' := by
  rw [perform_account] at missing
  cases known : n.ledger.account? id with
  | none => rw [known] at missing; cases missing; exact ⟨rfl, rfl⟩
  | some a => rw [known] at missing; cases missing

theorem perform_tip_error {id : AccountId} {e : NodeError}
    (missing : n.perform (tip id) = (.error e, n')) : e.isForgeFault = false ∧ n = n' := by
  rw [perform_tip] at missing
  cases last : n.ledger.latest? id with
  | none => rw [last] at missing; cases missing; exact ⟨rfl, rfl⟩
  | some b => rw [last] at missing; cases missing

theorem perform_validation_error {result : Except ValidationError α} {e : NodeError}
    (refused : n.perform (raise .validation result) = (.error e, n')) : e.isForgeFault = false ∧ n = n' := by
  obtain ⟨⟨cause, _, wrapped⟩, same⟩ := perform_raise_error.mp refused
  exact ⟨by rw [← wrapped]; rfl, same⟩

theorem Spares.at_once {e : NodeError} (early : e.isForgeFault = false ∧ n = n') : Spares n e n' := by
  obtain ⟨other, rfl⟩ := early
  exact .of_same rfl rfl other

theorem pairReceive_error {send : BlockHash} {sender destination : AccountId} {amount : Amount} {e : NodeError}
    (refused : n.perform (pairReceive send sender destination amount) = (.error e, n')) : Spares n e n' := by
  unfold pairReceive at refused
  rcases perform_bind_error.mp refused with missing | ⟨receiver, m, receiving, refused⟩
  · exact .at_once (perform_account_error missing)
  obtain ⟨_, rfl⟩ := perform_account_ok.mp receiving
  rcases perform_bind_error.mp refused with missing | ⟨previous, m, tipping, refused⟩
  · exact .at_once (perform_tip_error missing)
  obtain ⟨_, rfl⟩ := perform_tip_ok.mp tipping
  rw [perform_bind, perform_get] at refused
  dsimp only at refused
  split at refused
  · cases refused
    exact .at_once ⟨rfl, rfl⟩
  rcases perform_bind_error.mp refused with missing | ⟨a, m, sending, refused⟩
  · exact .at_once (perform_account_error missing)
  obtain ⟨_, rfl⟩ := perform_account_ok.mp sending
  rcases perform_bind_error.mp refused with invalid | ⟨bp, m, making, refused⟩
  · exact .at_once (perform_validation_error invalid)
  obtain ⟨_, rfl⟩ := perform_raise_ok.mp making
  exact forgeAndAppend_error refused

theorem perform_takeBack (n : Node) (sender : AccountId) (send : BlockHash) :
    n.perform (takeBack sender send) =
      match n.ledger.rollback sender send with
      | .ok (l, _) => (.ok ⟨⟩, n.withLedger l)
      | .error e => (.error (.ledger e), n) := by
  rw [takeBack, perform_bind, perform_get]
  dsimp only
  rw [perform_bind, perform_raise]
  cases n.ledger.rollback sender send <;> rfl

theorem takeBack_within {R : Node → Node → Prop} {sender : AccountId} {send : BlockHash} (stay : ∀ n, R n n)
    (undoing : ∀ {n : Node} {l b}, n.ledger.rollback sender send = .ok (l, b) → R n (n.withLedger l)) :
    Within R (takeBack sender send) := by
  intro n
  rw [perform_takeBack]
  cases undone : n.ledger.rollback sender send with
  | error e => exact stay n
  | ok result => exact undoing undone

theorem settle_ok {send hash : BlockHash} {sender destination : AccountId} {amount : Amount}
    (done : n.perform (settle send sender destination amount) = (.ok hash, n')) :
    ∃ f m, n.perform (pairReceive send sender destination amount) = (.ok f, m) ∧ hash = f.hash ∧
      n' = m.recordForged f := by
  unfold settle at done
  rw [perform_tryCatch, perform_bind] at done
  cases paired : n.perform (pairReceive send sender destination amount) with
  | mk result m =>
    rw [paired] at done
    cases result with
    | ok f =>
      cases done
      exact ⟨f, m, rfl, rfl, rfl⟩
    | error e =>
      dsimp only at done
      rw [perform_bind, perform_takeBack] at done
      cases undone : m.ledger.rollback sender send <;> rw [undone] at done <;> cases done

theorem settle_error {send : BlockHash} {sender destination : AccountId} {amount : Amount} {e : NodeError}
    (refused : n.perform (settle send sender destination amount) = (.error e, n')) :
    ∃ cause m, n.perform (pairReceive send sender destination amount) = (.error cause, m) ∧
      ((∃ l b, m.ledger.rollback sender send = .ok (l, b) ∧ e = cause ∧ n' = m.withLedger l) ∨
        ∃ fault, m.ledger.rollback sender send = .error fault ∧ e = .ledger fault ∧ n' = m) := by
  unfold settle at refused
  rw [perform_tryCatch, perform_bind] at refused
  cases paired : n.perform (pairReceive send sender destination amount) with
  | mk result m =>
    rw [paired] at refused
    cases result with
    | ok f => cases refused
    | error cause =>
      dsimp only at refused
      rw [perform_bind, perform_takeBack] at refused
      refine ⟨cause, m, rfl, ?_⟩
      cases undone : m.ledger.rollback sender send with
      | ok result =>
        rw [undone] at refused
        cases refused
        exact .inl ⟨result.1, result.2, rfl, rfl, rfl⟩
      | error fault =>
        rw [undone] at refused
        cases refused
        exact .inr ⟨fault, rfl, rfl, rfl⟩

def booked (n : Node) (accepted : Bool) : Node :=
  { n.refreshGauges with metrics := n.refreshGauges.metrics.countRequest accepted }

@[simp] theorem ledger_booked (n : Node) (accepted : Bool) : (n.booked accepted).ledger = n.ledger := rfl

theorem perform_process (n : Node) (r : Request) :
    n.perform (process r) =
      ((n.perform (serve r)).1, (n.perform (serve r)).2.booked (isAccepted (n.perform (serve r)).1)) := rfl

-- An accepted request in its four stages: the block, its settlement, the count
-- for the forger, and the payout.
structure Served (r : Request) (n : Node) (o : Outcome) (n' : Node) (f : Forged) (landed settled : Node) : Prop where
  forged : n.perform (forgeAndAppend .client r) = (.ok f, landed)
  settles : landed.perform (settlePayload f r) = (.ok o.pairedReceive, settled)
  paid : (⟨o.credits, o.warnings⟩ : Payout.Report) = ((settled.recordForged f).carryOut (payForger f)).1
  named : o.hash = f.hash ∧ o.kind = f.kind ∧ o.forger = f.forger ∧ o.reward = f.reward
  after : n' = ((settled.recordForged f).carryOut (payForger f)).2.booked true

theorem process_ok {r : Request} {o : Outcome} (done : n.perform (process r) = (.ok o, n')) :
    ∃ f landed settled, Served r n o n' f landed settled := by
  rw [perform_process] at done
  cases run : n.perform (serve r) with
  | mk result m =>
    rw [run] at done
    cases done
    unfold serve at run
    obtain ⟨f, landed, forged, run⟩ := perform_bind_ok.mp run
    obtain ⟨paired, settled, settling, run⟩ := perform_bind_ok.mp run
    rw [perform_bind, perform_modify] at run
    dsimp only at run
    rw [perform_bind, perform_lift] at run
    cases run
    exact ⟨f, landed, settled, forged, settling, rfl, ⟨rfl, rfl, rfl, rfl⟩, rfl⟩

theorem process_error {r : Request} {e : NodeError} (refused : n.perform (process r) = (.error e, n')) :
    ∃ m, n' = m.booked false ∧ (n.perform (forgeAndAppend .client r) = (.error e, m) ∨
      ∃ f landed, n.perform (forgeAndAppend .client r) = (.ok f, landed) ∧
        landed.perform (settlePayload f r) = (.error e, m)) := by
  rw [perform_process] at refused
  cases run : n.perform (serve r) with
  | mk result m =>
    rw [run] at refused
    cases refused
    refine ⟨m, rfl, ?_⟩
    unfold serve at run
    rcases perform_bind_error.mp run with early | ⟨f, landed, forged, run⟩
    · exact .inl early
    rcases perform_bind_error.mp run with unsettled | ⟨paired, settled, settling, run⟩
    · exact .inr ⟨f, landed, forged, unsettled⟩
    -- Counting and paying out never fail.
    rw [perform_bind, perform_modify] at run
    dsimp only at run
    rw [perform_bind, perform_lift] at run
    cases run

theorem wish_ok {id : AccountId} {make : Params → Account → Block → Except ValidationError Blueprint} {o : Outcome}
    (done : n.perform (wish id make) = (.ok o, n')) :
    ∃ a tip bp, n.ledger.latest? id = some tip ∧ make n.params a tip = .ok bp ∧
      n.perform (process ⟨id, bp⟩) = (.ok o, n') := by
  unfold wish at done
  obtain ⟨a, m, knowing, done⟩ := perform_bind_ok.mp done
  obtain ⟨_, rfl⟩ := perform_account_ok.mp knowing
  obtain ⟨tip, m, tipping, done⟩ := perform_bind_ok.mp done
  obtain ⟨last, rfl⟩ := perform_tip_ok.mp tipping
  rw [perform_bind, perform_get] at done
  obtain ⟨bp, m, making, done⟩ := perform_bind_ok.mp done
  obtain ⟨made, rfl⟩ := perform_raise_ok.mp making
  exact ⟨a, tip, bp, last, made, done⟩

theorem wish_error {id : AccountId} {make : Params → Account → Block → Except ValidationError Blueprint} {e : NodeError}
    (refused : n.perform (wish id make) = (.error e, n')) :
    (n' = n ∧ (e = .accountNotFound id ∨ e = .ledger (.notOpened id))) ∨
    ∃ a tip, n.ledger.account? id = some a ∧ n.ledger.latest? id = some tip ∧
      ((∃ cause, make n.params a tip = .error cause ∧ e = .validation cause ∧ n' = n) ∨
        ∃ bp, make n.params a tip = .ok bp ∧ n.perform (process ⟨id, bp⟩) = (.error e, n')) := by
  unfold wish at refused
  rw [perform_bind, perform_account] at refused
  cases known : n.ledger.account? id with
  | none =>
    rw [known] at refused
    cases refused
    exact .inl ⟨rfl, .inl rfl⟩
  | some a =>
    rw [known] at refused
    dsimp only at refused
    rw [perform_bind, perform_tip] at refused
    cases last : n.ledger.latest? id with
    | none =>
      rw [last] at refused
      cases refused
      exact .inl ⟨rfl, .inr rfl⟩
    | some tip =>
      rw [last] at refused
      dsimp only at refused
      rw [perform_bind, perform_get] at refused
      rcases perform_bind_error.mp refused with invalid | ⟨bp, m, making, refused⟩
      · obtain ⟨⟨cause, failed, rfl⟩, rfl⟩ := perform_raise_error.mp invalid
        exact .inr ⟨a, tip, rfl, rfl, .inl ⟨cause, failed, rfl, rfl⟩⟩
      · obtain ⟨made, rfl⟩ := perform_raise_ok.mp making
        exact .inr ⟨a, tip, rfl, rfl, .inr ⟨bp, made, refused⟩⟩

theorem settlePayload_ok {f : Forged} {r : Request} {paired : Option BlockHash}
    (done : n.perform (settlePayload f r) = (.ok paired, n')) :
    (∃ destination hash, r.blueprint.payload = .send destination ∧ paired = some hash ∧
      n.perform (settle f.hash r.account destination r.blueprint.amount) = (.ok hash, n')) ∨
    ((∀ destination, r.blueprint.payload ≠ .send destination) ∧ paired = none ∧ n' = n) := by
  unfold settlePayload at done
  split at done
  · rename_i destination sends
    obtain ⟨hash, m, settling, done⟩ := perform_bind_ok.mp done
    cases done
    exact .inl ⟨destination, hash, sends, rfl, settling⟩
  · rename_i other
    cases done
    exact .inr ⟨other, rfl, rfl⟩

theorem settlePayload_error {f : Forged} {r : Request} {e : NodeError}
    (refused : n.perform (settlePayload f r) = (.error e, n')) :
    ∃ destination, r.blueprint.payload = .send destination ∧
      n.perform (settle f.hash r.account destination r.blueprint.amount) = (.error e, n') := by
  unfold settlePayload at refused
  split at refused
  · rename_i destination sends
    rcases perform_bind_error.mp refused with unsettled | ⟨hash, m, settling, refused⟩
    · exact ⟨destination, sends, unsettled⟩
    · cases refused
  · cases refused

theorem perform_deregister (n : Node) (id : AccountId) :
    n.perform (deregister id) =
      match n.ledger.removeUnopened id with
      | .ok (l, _) => (.ok ⟨⟩, n.withLedger l)
      | .error e => (.error (.ledger e), n) := by
  rw [deregister, perform_bind, perform_get]
  dsimp only
  rw [perform_bind, perform_raise]
  cases n.ledger.removeUnopened id <;> rfl

theorem perform_openAccountWithKeys (n : Node) (keys : KeyPair) (username : String) :
    n.perform (openAccountWithKeys keys username) =
      match n.ledger.register (.new keys) username with
      | .error e => (.error (.ledger e), n)
      | .ok (l, id) =>
        match (n.withLedger l).perform (process ⟨id, Account.openBlueprint⟩) with
        | (.ok _, m) => (.ok id, m)
        | (.error e, m) =>
          match m.perform (deregister id) with
          | (.ok _, m) => (.error e, m)
          | (.error cause, m) => (.error cause, m) := by
  rw [openAccountWithKeys, perform_bind, perform_get]
  dsimp only
  rw [perform_bind, perform_raise]
  cases n.ledger.register (.new keys) username with
  | error e => rfl
  | ok result =>
    obtain ⟨l, id⟩ := result
    dsimp only [Except.mapError]
    rw [perform_bind, perform_set]
    dsimp only
    rw [perform_tryCatch, perform_bind]
    cases (n.withLedger l).perform (process ⟨id, Account.openBlueprint⟩) with
    | mk result m =>
      cases result with
      | ok o => rfl
      | error e =>
        dsimp only
        rw [perform_bind]
        cases m.perform (deregister id) with
        | mk result m => cases result <;> rfl

theorem openAccountWithKeys_ok {keys : KeyPair} {username : String} {id : AccountId}
    (done : n.perform (openAccountWithKeys keys username) = (.ok id, n')) :
    ∃ l o, n.ledger.register (.new keys) username = .ok (l, id) ∧
      (n.withLedger l).perform (process ⟨id, Account.openBlueprint⟩) = (.ok o, n') := by
  rw [perform_openAccountWithKeys] at done
  cases registering : n.ledger.register (.new keys) username with
  | error e => rw [registering] at done; cases done
  | ok result =>
    obtain ⟨l, named⟩ := result
    rw [registering] at done
    dsimp only at done
    cases ran : (n.withLedger l).perform (process ⟨named, Account.openBlueprint⟩) with
    | mk result m =>
      rw [ran] at done
      cases result with
      | ok o =>
        cases done
        exact ⟨l, o, rfl, ran⟩
      | error cause =>
        dsimp only at done
        rw [perform_deregister] at done
        cases undone : m.ledger.removeUnopened named <;> rw [undone] at done <;> cases done

theorem openAccountWithKeys_error {keys : KeyPair} {username : String} {e : NodeError}
    (refused : n.perform (openAccountWithKeys keys username) = (.error e, n')) :
    (∃ fault, n.ledger.register (.new keys) username = .error fault ∧ e = .ledger fault ∧ n' = n) ∨
    ∃ l id cause m, n.ledger.register (.new keys) username = .ok (l, id) ∧
      (n.withLedger l).perform (process ⟨id, Account.openBlueprint⟩) = (.error cause, m) ∧
      ((∃ l' a, m.ledger.removeUnopened id = .ok (l', a) ∧ e = cause ∧ n' = m.withLedger l') ∨
        ∃ fault, m.ledger.removeUnopened id = .error fault ∧ e = .ledger fault ∧ n' = m) := by
  rw [perform_openAccountWithKeys] at refused
  cases registering : n.ledger.register (.new keys) username with
  | error fault =>
    rw [registering] at refused
    cases refused
    exact .inl ⟨fault, rfl, rfl, rfl⟩
  | ok result =>
    obtain ⟨l, id⟩ := result
    rw [registering] at refused
    dsimp only at refused
    cases ran : (n.withLedger l).perform (process ⟨id, Account.openBlueprint⟩) with
    | mk result m =>
      rw [ran] at refused
      cases result with
      | ok o => cases refused
      | error cause =>
        dsimp only at refused
        rw [perform_deregister] at refused
        refine .inr ⟨l, id, cause, m, rfl, ran, ?_⟩
        cases undone : m.ledger.removeUnopened id with
        | ok removed =>
          rw [undone] at refused
          cases refused
          exact .inl ⟨removed.1, removed.2, rfl, rfl, rfl⟩
        | error fault =>
          rw [undone] at refused
          cases refused
          exact .inr ⟨fault, rfl, rfl, rfl⟩

theorem opens_within {R : Node → Node → Prop} {keys : KeyPair} {username : String} (path : Path R)
    (refuses : ∀ {n e n'}, n.perform (openAccountWithKeys keys username) = (.error e, n') → R n n')
    (registers : ∀ {n : Node} {l id}, n.ledger.register (.new keys) username = .ok (l, id) → R n (n.withLedger l))
    (serves : ∀ r, Within R (process r)) : Within R (openAccountWithKeys keys username) := by
  refine .of_results refuses fun {n id n'} done => ?_
  obtain ⟨l, o, registered, served⟩ := openAccountWithKeys_ok done
  exact path.join (registers registered) ((serves ⟨id, Account.openBlueprint⟩).after served)

end BlockLattice.Node
