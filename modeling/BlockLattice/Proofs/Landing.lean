import BlockLattice.Proofs.Balances
import BlockLattice.Proofs.Forgers
import BlockLattice.Proofs.Placement
import BlockLattice.Proofs.Signatures
import BlockLattice.Proofs.Turns

namespace BlockLattice

theorem Round.forge_of {round : Round} {l : Ledger} {id : AccountId} {bp : Blueprint} {d : Delegate}
    {previous : BlockHash} {w : Account} (turn : round.forger = .ok d)
    (follows : Round.previousFor l id bp = .ok previous) (known : l.account? d.account = some w) (time : Timestamp) :
    round.forge l id bp time = .ok ({ round with index := round.index + 1 },
      (Block.unsigned (bp.content id previous time)).signWitness w.privateKey) := by
  simp only [forge, turn, follows, bind, Except.bind, known]
  rfl

theorem Round.previousFor_misplaced (l : Ledger) (id : AccountId) {bp : Blueprint}
    (misplaced : ¬(bp.payload = .opening ↔ bp.previous = none)) :
    ∃ reason, Round.previousFor l id bp = .error (.invalidBlockType bp.kind reason) := by
  unfold previousFor Blueprint.kind
  cases payload : bp.payload with
  | opening =>
    cases builds : bp.previous with
    | none => simp [payload, builds] at misplaced
    | some previous => exact ⟨.openingNamesPrevious, rfl⟩
  | _ =>
    cases builds : bp.previous with
    | none => exact ⟨.noPrevious, rfl⟩
    | some previous => simp [payload, builds] at misplaced

theorem Round.forge_refused {round : Round} {l : Ledger} {id : AccountId} {bp : Blueprint} {d : Delegate}
    {e : ConsensusError} (turn : round.forger = .ok d) (refused : Round.previousFor l id bp = .error e)
    (time : Timestamp) : round.forge l id bp time = .error e := by
  simp only [forge, turn, refused, bind, Except.bind]

theorem Block.verify_of_owner {b : Block} {s : Signature} (own : b.owner = some s) (k : PublicKey) :
    b.verify k = k.verify b.digest s := by
  rw [verify, own]
  exact Option.any_some

theorem Block.verifyWitness_of_witness {b : Block} {s : Signature} (seen : b.witness = some s) (k : PublicKey) :
    b.verifyWitness k = k.verify b.digest s := by
  rw [verifyWitness, seen]
  exact Option.any_some

namespace Node

variable {n n' : Node} {origin : Origin} {r : Request}

-- What holds of the nodes of a network, and is needed to forge a block.
structure InOrder (n : Node) : Prop where
  sound : n.ledger.Sound
  signed : n.ledger.Signed
  seated : n.Seated
  turning : n.Turning

theorem Reached.inOrder {genesis : AccountId} (reached : Reached genesis n) : n.InOrder :=
  ⟨reached.sound, reached.signed, reached.seated, reached.turning⟩

theorem Asked.inOrder {genesis : AccountId} (asked : Asked genesis n r) : n.InOrder := by
  have sound := asked.reachable.sound
  cases asked with
  | client _ reached => exact reached.inOrder
  | @opening n keys username l id reached done =>
    obtain ⟨_, registers⟩ := Ledger.register_ok done
    have before := reached.inOrder
    refine ⟨sound, ?_, ?_, before.turning⟩
    · exact signed_lasts.registers registers before.sound before.signed
    · exact seated_endures.alike before.seated rfl rfl registers.alike

theorem Lands.inOrder {f : Forged} {previous : BlockHash} {block : Block} (lands : Lands origin r n f previous block n')
    (inOrder : n.InOrder) : n'.InOrder :=
  ⟨lands.evolves.2.sound inOrder.sound, signed_lasts.lands lands inOrder.sound inOrder.signed,
    seated_endures.lands lands inOrder.seated, turning_endures.lands lands inOrder.turning⟩

def draft (n : Node) (r : Request) : Content := r.blueprint.content r.account r.blueprint.follows n.clock.now

def Keyed (n : Node) (c : Content) : Prop := ∀ id a, n.ledger.account? id = some a →
  a.publicKey.verify c.digest (a.privateKey.sign c.digest) = true

theorem perform_signed {owner forger : AccountId} {a w : Account} {c : Content}
    (known : n.ledger.account? owner = some a) (witness : n.ledger.account? forger = some w) (keyed : n.Keyed c) :
    n.perform (signed owner forger ((Block.unsigned c).signWitness w.privateKey)) =
      (.ok (((Block.unsigned c).signWitness w.privateKey).sign a.privateKey), n) := by
  have said : (((Block.unsigned c).signWitness w.privateKey).sign a.privateKey).digest = c.digest := rfl
  have own : (((Block.unsigned c).signWitness w.privateKey).sign a.privateKey).verify a.publicKey = true := by
    rw [Block.verify_of_owner rfl, said]
    exact keyed owner a known
  have seen : (((Block.unsigned c).signWitness w.privateKey).sign a.privateKey).verifyWitness w.publicKey = true := by
    rw [Block.verifyWitness_of_witness rfl, said]
    exact keyed forger w witness
  unfold signed
  refine perform_bind_ok.mpr ⟨a, n, perform_account_ok.mpr ⟨known, rfl⟩, ?_⟩
  simp only [own, Bool.not_true, Bool.false_eq_true, ↓reduceIte]
  refine perform_bind_ok.mpr ⟨w, n, perform_account_ok.mpr ⟨witness, rfl⟩, ?_⟩
  simp only [seen, Bool.not_true, Bool.false_eq_true, ↓reduceIte, perform_pure]

theorem forge_lands (inOrder : n.InOrder) (passes : n.passes r origin)
    (placed : n.ledger.Placed r.account r.blueprint) (led : ¬n.Leaderless) (keyed : n.Keyed (n.draft r))
    (apart : n.ledger.Apart (n.draft r)) : ∃ f n', n.perform (forgeAndAppend origin r) = (.ok f, n') := by
  obtain ⟨d, seat, turn, current⟩ := inOrder.turning.elects led
  obtain ⟨w, witness, _⟩ := Ledger.account_of_isDelegate (inOrder.seated.refreshed d seat)
  obtain ⟨a, known⟩ := Ledger.isRegistered_iff.mp placed.known
  let draft := (Block.unsigned (n.draft r)).signWitness w.privateKey
  let block := draft.sign a.privateKey
  have forged := Round.forge_of turn (placed.previousFor inOrder.sound) witness n.refreshRound.clock.now
  have appends : n.ledger.Appends r.account block := placed.appends inOrder.sound rfl apart
  have checked : n.perform (checkRequest origin r) = (.ok ⟨⟩, n) := perform_checkRequest_ok.mpr ⟨passes, rfl⟩
  have chosen : n.perform chooseForger = (.ok d.account, n.refreshRound) := by
    rw [perform_chooseForger, current]
    rfl
  have built : n.refreshRound.perform (buildBlock d.account r) = (.ok draft, n.turned) := by
    rw [perform_buildBlock, ledger_refreshRound, forged]
    rfl
  have sealed : n.turned.perform (signed r.account d.account draft) = (.ok block, n.turned) :=
    perform_signed known witness keyed
  have appended : n.turned.perform (appendBlock r.account block) =
      (.ok block.hash, n.turned.withLedger (n.ledger.place r.account block)) := by
    rw [perform_appendBlock, ledger_turned, Ledger.append_of_appends appends]
  have applied : (n.turned.withLedger (n.ledger.place r.account block)).perform
      (applyEffects r.account r.blueprint.payload) = (.ok (rewardFor n.turned.params r.blueprint.payload),
        (n.turned.withLedger (n.ledger.place r.account block)).applyPayload r.account r.blueprint.payload) := by
    rw [perform_applyEffects, ledger_withLedger, Ledger.account?_place, known]
    rfl
  unfold forgeAndAppend
  simp only [perform_bind, checked, chosen, built, sealed, appended, applied, perform_pure]
  exact ⟨_, _, rfl⟩

theorem forge_leaderless (passes : n.passes r origin) (leaderless : n.Leaderless) :
    n.perform (forgeAndAppend origin r) = (.error (.consensus .noForger), n.refreshRound) := by
  have checked : n.perform (checkRequest origin r) = (.ok ⟨⟩, n) := perform_checkRequest_ok.mpr ⟨passes, rfl⟩
  have none : n.perform chooseForger = (.error (.consensus .noForger), n.refreshRound) := by
    rw [perform_chooseForger, leaderless.noForger]
    rfl
  unfold forgeAndAppend
  simp only [perform_bind, checked, none]

theorem forge_misplaced (turning : n.Turning) (passes : n.passes r origin) (led : ¬n.Leaderless)
    (misplaced : ¬(r.blueprint.payload = .opening ↔ r.blueprint.previous = none)) :
    ∃ kind reason n', n.perform (forgeAndAppend origin r) = (.error (.consensus (.invalidBlockType kind reason)), n') := by
  obtain ⟨d, seat, turn, current⟩ := turning.elects led
  obtain ⟨reason, refused⟩ := Round.previousFor_misplaced n.ledger r.account misplaced
  have checked : n.perform (checkRequest origin r) = (.ok ⟨⟩, n) := perform_checkRequest_ok.mpr ⟨passes, rfl⟩
  have chosen : n.perform chooseForger = (.ok d.account, n.refreshRound) := by
    rw [perform_chooseForger, current]
    rfl
  have unbuilt : n.refreshRound.perform (buildBlock d.account r) =
      (.error (.consensus (.invalidBlockType r.blueprint.kind reason)), n.refreshRound.later.missTurn d.account) := by
    rw [perform_buildBlock, ledger_refreshRound, Round.forge_refused turn refused]
  unfold forgeAndAppend
  simp only [perform_bind, checked, chosen, unbuilt]
  exact ⟨_, _, _, rfl⟩

end Node
end BlockLattice
