import BlockLattice.Proofs.NodeLedger

namespace BlockLattice.Node

variable {n n' : Node} {e : NodeError}

-- What can be undone whichever account was changed in the meantime can be undone
-- after a refusal.
theorem Spares.undone {start m : Node} (spares : Spares start e m) (params : start.params = n.params)
    (undo : Ledger → Except LedgerError (Ledger × β))
    (undoes : ∀ j change, ∃ x, undo (start.ledger.modifyAccount j change) = .ok (n.ledger.modifyAccount j change, x)) :
    ∃ l x, undo m.ledger = .ok (l, x) ∧ Spares n e (m.withLedger l) := by
  cases fault : e.isForgeFault with
  | false =>
    obtain ⟨x, undone⟩ := undoes ⟨0⟩ fun a => a
    rw [Ledger.modify_unchanged, Ledger.modify_unchanged, ← spares.unforged fault] at undone
    exact ⟨_, x, undone, .of_same (spares.params.trans params) rfl fault⟩
  | true =>
    obtain ⟨forger, turn, missed⟩ := spares.missed fault
    obtain ⟨x, undone⟩ := undoes forger fun a => { a with missed := a.missed + 1 }
    rw [← Ledger.miss, ← missed] at undone
    refine ⟨_, x, undone, spares.params.trans params, fun other => ?_, fun _ => ⟨forger, turn, rfl⟩⟩
    rw [fault] at other
    cases other

theorem settle_undone {r : Request} {f : Forged} {previous : BlockHash} {block : Block} {landed : Node}
    {destination : AccountId} {amount : Amount} (lands : Lands .client r n f previous block landed)
    (sends : r.blueprint.payload = .send destination) (sound : n.ledger.Sound)
    (refused : landed.perform (settle f.hash r.account destination amount) = (.error e, n')) :
    Spares n e n' ∧ ∃ m, landed.perform (pairReceive f.hash r.account destination amount) = (.error e, m) := by
  obtain ⟨cause, m, unpaired, ended⟩ := settle_error refused
  have placed : landed.ledger = n.ledger.place r.account block := by
    rw [lands.ledger, sends]; rfl
  have undoes : ∀ j change, ∃ b, (landed.ledger.modifyAccount j change).rollback r.account f.hash =
      .ok (n.ledger.modifyAccount j change, b) := by
    intro j change
    rw [placed, lands.hash, Ledger.place_modify]
    exact ⟨block, Ledger.rollback_place (lands.appends.modify j change) (sound.modify j change)⟩
  obtain ⟨l, b, undone, spares⟩ := (pairReceive_error unpaired).undone lands.params (·.rollback r.account f.hash) undoes
  rw [undone] at ended
  rcases ended with ⟨_, _, same, rfl, rfl⟩ | ⟨_, other, _⟩
  · cases same
    exact ⟨spares, m, unpaired⟩
  · cases other

theorem Spares.booked {m : Node} (spares : Spares n e m) (accepted : Bool) : Spares n e (m.booked accepted) :=
  ⟨spares.params, spares.unforged, spares.missed⟩

theorem process_spares {r : Request} (sound : n.ledger.Sound)
    (refused : n.perform (process r) = (.error e, n')) : Spares n e n' := by
  obtain ⟨m, rfl, unforged | ⟨f, landed, forged, unsettled⟩⟩ := process_error refused
  · exact (forgeAndAppend_error unforged).booked false
  · obtain ⟨previous, block, lands⟩ := forgeAndAppend_ok forged
    obtain ⟨destination, sends, unsettled⟩ := settlePayload_error unsettled
    exact (settle_undone lands sends sound unsettled).1.booked false

theorem wish_spares {id : AccountId} {make : Params → Account → Block → Except ValidationError Blueprint}
    (sound : n.ledger.Sound) (refused : n.perform (wish id make) = (.error e, n')) : Spares n e n' := by
  obtain ⟨rfl, rfl | rfl⟩ | ⟨a, tip, _, _, ⟨cause, _, rfl, rfl⟩ | ⟨bp, _, refused⟩⟩ := wish_error refused
  · exact .at_once ⟨rfl, rfl⟩
  · exact .at_once ⟨rfl, rfl⟩
  · exact .at_once ⟨rfl, rfl⟩
  · exact process_spares sound refused

theorem remove_after_register {l l' : Ledger} {a : Account} {username : String} (reachable : l.Reachable)
    (registers : l.Registers a username l') (forger : AccountId) (change : Account → Account) :
    ∃ removed, (l'.modifyAccount forger change).removeUnopened a.id = .ok (l.modifyAccount forger change, removed) := by
  exact Ledger.remove_register registers reachable.directory (reachable.sound.unopened_of_unknown registers.new) forger

theorem openAccountWithKeys_spares {keys : KeyPair} {username : String} (reachable : n.ledger.Reachable)
    (refused : n.perform (openAccountWithKeys keys username) = (.error e, n')) : Spares n e n' := by
  obtain ⟨_, _, rfl, rfl⟩ | ⟨l, id, cause, m, done, ran, ended⟩ := openAccountWithKeys_error refused
  · exact .at_once ⟨rfl, rfl⟩
  obtain ⟨rfl, registers⟩ := Ledger.register_ok done
  have sound := (reachable.leads (Ledger.leads_register done)).sound
  obtain ⟨l', a, undone, spares⟩ :=
    (process_spares sound ran).undone (n := n) rfl (·.removeUnopened (Account.new keys).id)
      (remove_after_register reachable registers)
  rw [undone] at ended
  rcases ended with ⟨_, _, same, rfl, rfl⟩ | ⟨_, other, _⟩
  · cases same
    exact spares
  · cases other

end BlockLattice.Node
