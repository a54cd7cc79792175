import BlockLattice.Proofs.Serving

namespace BlockLattice

namespace Node

-- The single moves that the blocks of a request come down to.
structure Forges (R : Node → Node → Prop) : Prop where
  path : Path R
  forge : ∀ origin r, Within R (forgeAndAppend origin r)
  takeBack : ∀ sender send, Within R (takeBack sender send)
  record : ∀ (n : Node) f, R n (n.recordForged f)

structure Serves (R : Node → Node → Prop) : Prop extends Forges R where
  count : ∀ (n : Node) metrics, R n { n with metrics := metrics }

-- All moves there are: a relation that joins and contains them contains every
-- operation.
structure Moves (R : Node → Node → Prop) : Prop extends Serves R where
  register : ∀ (n : Node) (keys : KeyPair) username l id,
    n.ledger.register (.new keys) username = .ok (l, id) → R n (n.withLedger l)
  deregister : ∀ id, Within R (deregister id)
  refresh : ∀ n, R n n.refreshRound
  draw : ∀ (n : Node) rest, R n { n with keys := rest }
  tick : ∀ (n : Node) clock, R n { n with clock := clock }

section Forging

variable {R : Node → Node → Prop}

theorem pairReceive_within (path : Path R) (forge : ∀ origin r, Within R (forgeAndAppend origin r)) (send : BlockHash)
    (sender destination : AccountId) (amount : Amount) : Within R (pairReceive send sender destination amount) := by
  refine .bind path (.account path _) fun receiver => ?_
  refine .bind path (.tip path _) fun previous => ?_
  refine .bind path (.get path) fun n => ?_
  split
  · exact .throw path _
  · refine .bind path (.account path _) fun a => ?_
    refine .bind path (.raise path _ _) fun blueprint => ?_
    exact forge _ _

theorem creditReward_within (path : Path R) (forge : ∀ origin r, Within R (forgeAndAppend origin r)) (d : Payout.Due) :
    Within R (creditReward d) := by
  refine .bind path (.account path _) fun a => ?_
  refine .bind path (.tip path _) fun previous => ?_
  refine .bind path (.raise path _ _) fun blueprint => ?_
  exact forge _ _

end Forging

namespace Forges

variable {R : Node → Node → Prop}

theorem settle (forges : Forges R) (send : BlockHash) (sender destination : AccountId) (amount : Amount) :
    Within R (settle send sender destination amount) := by
  refine .catching forges.path ?_ fun e => ?_
  · refine .bind forges.path (pairReceive_within forges.path forges.forge _ _ _ _) fun receive => ?_
    exact .bind forges.path (.modify fun n => forges.record n receive) fun _ => .pure forges.path _
  · exact .bind forges.path (forges.takeBack _ _) fun _ => .throw forges.path _

theorem settlePayload (forges : Forges R) (f : Forged) (r : Request) : Within R (settlePayload f r) := by
  unfold Node.settlePayload
  split
  · exact .bind forges.path (forges.settle _ _ _ _) fun _ => .pure forges.path _
  · exact .pure forges.path _

theorem serve (forges : Forges R) (pays : ∀ f, TaskWithin R (payForger f)) (r : Request) : Within R (serve r) := by
  refine .bind forges.path (forges.forge _ _) fun f => ?_
  refine .bind forges.path (forges.settlePayload f r) fun paired => ?_
  refine .bind forges.path (.modify fun n => forges.record n f) fun _ => ?_
  exact .bind forges.path (.task (pays f)) fun report => .pure forges.path _

end Forges

namespace Serves

variable {R : Node → Node → Prop}

theorem warn (serves : Serves R) (report : Payout.Report) (d : Payout.Due) (reason : String) :
    TaskWithin R (warn report d reason) :=
  .bind serves.path (fun n => serves.count n _) fun _ => .pure serves.path _

theorem payDue (serves : Serves R) (report : Payout.Report) (d : Payout.Due) : TaskWithin R (payDue report d) := by
  refine .bind serves.path (.run (creditReward_within serves.path serves.forge d)) fun result => ?_
  cases result with
  | ok f =>
    refine .bind serves.path (fun n => ?_) fun _ => .pure serves.path _
    exact serves.path.join (serves.record n f) (serves.count _ _)
  | error e => exact serves.warn _ _ _

theorem payout (serves : Serves R) (forger : AccountId) (reward : Amount) : TaskWithin R (payout forger reward) := by
  refine .bind serves.path (fun n => serves.path.stay n) fun n => ?_
  split
  · exact serves.warn _ _ _
  · split
    · exact .foldlM serves.path _ (fun report d _ => serves.payDue report d) _
    · exact serves.warn _ _ _

theorem payForger (serves : Serves R) (f : Forged) : TaskWithin R (payForger f) := by
  unfold Node.payForger
  split
  · exact .pure serves.path _
  · exact serves.payout _ _

theorem process (serves : Serves R) (r : Request) : Within R (process r) := by
  intro n
  rw [perform_process]
  exact serves.path.join (serves.toForges.serve serves.payForger r n) (serves.count _ _)

end Serves

namespace Moves

variable {R : Node → Node → Prop}

theorem openAccountWithKeys (moves : Moves R) (keys : KeyPair) (username : String) :
    Within R (openAccountWithKeys keys username) := by
  intro n
  rw [perform_openAccountWithKeys]
  cases done : n.ledger.register (.new keys) username with
  | error e => exact moves.path.stay n
  | ok result =>
    obtain ⟨l, id⟩ := result
    have registered := moves.register n keys username l id done
    have served := moves.process ⟨id, Account.openBlueprint⟩ (n.withLedger l)
    dsimp only
    cases ran : (n.withLedger l).perform (Node.process ⟨id, Account.openBlueprint⟩) with
    | mk result m =>
      rw [ran] at served
      have reached := moves.path.join registered served
      cases result with
      | ok o => exact reached
      | error e =>
        have undone := moves.deregister id m
        dsimp only
        cases ran : m.perform (Node.deregister id) with
        | mk result m' =>
          rw [ran] at undone
          cases result <;> exact moves.path.join reached undone

theorem contains (moves : Moves R) : Contains R where
  path := moves.path
  process := moves.process
  openAccountWithKeys := moves.openAccountWithKeys
  payout := moves.payout
  refresh := moves.refresh
  draw := moves.draw
  tick := moves.tick

end Moves

def Evolves (n n' : Node) : Prop := n'.params = n.params ∧ n.ledger.Leads n'.ledger

theorem evolves_path : Path Evolves where
  stay _ := ⟨rfl, .refl⟩
  join first second := ⟨second.1.trans first.1, first.2.trans second.2⟩

theorem leads_affect (l : Ledger) (id : AccountId) (payload : Payload) : l.Leads (l.affect id payload) := by
  rcases l.affect_cases id payload with same | ⟨change, kept, changed⟩
  · rw [same]
    exact .refl
  · rw [changed]
    exact Ledger.leads_modify l id change kept

theorem Lands.evolves {origin : Origin} {r : Request} {n n' : Node} {f : Forged} {previous : BlockHash} {block : Block}
    (lands : Lands origin r n f previous block n') : Evolves n n' := by
  refine ⟨lands.params, ?_⟩
  rw [lands.ledger]
  exact (Ledger.leads_append (Ledger.append_of_appends lands.appends)).trans (leads_affect _ _ _)

theorem Spares.evolves {n n' : Node} {e : NodeError} (spares : Spares n e n') : Evolves n n' := by
  refine ⟨spares.params, ?_⟩
  rcases spares.ledger_cases with same | ⟨forger, missed⟩
  · rw [same]
    exact .refl
  · rw [missed]
    exact Ledger.leads_modify _ _ _ fun _ => rfl

theorem evolves_moves : Moves Evolves where
  path := evolves_path
  forge _ _ := forge_within (fun lands => lands.evolves) fun stops => stops.spares.evolves
  takeBack _ _ := takeBack_within evolves_path.stay fun undone => ⟨rfl, Ledger.leads_rollback undone⟩
  record n f := ⟨rfl, Ledger.leads_modify n.ledger f.forger _ fun _ => rfl⟩
  count n metrics := ⟨rfl, .refl⟩
  register n keys username l id done := ⟨rfl, Ledger.leads_register done⟩
  deregister id n := by
    rw [perform_deregister]
    cases removed : n.ledger.removeUnopened id with
    | error e => exact ⟨rfl, .refl⟩
    | ok result => exact ⟨rfl, Ledger.leads_removeUnopened removed⟩
  refresh n := ⟨rfl, .refl⟩
  draw n rest := ⟨rfl, .refl⟩
  tick n time := ⟨rfl, .refl⟩

end Node

namespace Ledger

theorem appendSelfWitnessed_ok {l l' : Ledger} {id : AccountId} {content : Content} {hash : BlockHash}
    (done : l.appendSelfWitnessed id content = .ok (l', hash)) :
    ∃ a b, l.account? id = some a ∧ b.content = content ∧ b.owner = some (a.privateKey.sign b.digest) ∧
      l.Appends id b ∧ l' = l.place id b ∧ hash = b.hash := by
  unfold appendSelfWitnessed at done
  split at done
  · cases done
  · rename_i a known
    obtain ⟨appends, written, named⟩ := append_ok done
    exact ⟨a, _, known, rfl, rfl, appends, written, named⟩

structure Founds (p : Params) (keys : KeyPair) (username : String) (clock : Clock) (id : AccountId)
    (l l₁ l' : Ledger) (b₀ b₁ b₂ : Block) : Prop where
  registered : l.register (.new keys) username = .ok (l₁, id)
  opens : l₁.Appends id b₀
  opening : b₀.content = .opening id p.genesisBalance clock.now
  enrols : (l₁.place id b₀).Appends id b₁
  delegate : b₁.content = .delegate p.genesisBalance b₀.hash .full clock.next.now
  votes : ((l₁.place id b₀).place id b₁).Appends id b₂
  change : b₂.content = .change p.genesisBalance [.add id] b₁.hash clock.next.next.now
  signed : ∀ b, b = b₀ ∨ b = b₁ ∨ b = b₂ → ∃ a, l₁.account? id = some a ∧
    b.owner = some (a.privateKey.sign b.digest)
  after : l' = (((l₁.place id b₀).place id b₁).place id b₂).modifyAccount id fun a =>
    { a with isDelegate := true, share := .full }.applyVotes [.add id]

theorem openGenesis_ok {p : Params} {keys : KeyPair} {username : String} {clock : Clock} {id : AccountId}
    {l l' : Ledger} {rest : Clock} (done : l.openGenesis p keys username clock = (l', rest, .ok id)) :
    ∃ l₁ b₀ b₁ b₂, Founds p keys username clock id l l₁ l' b₀ b₁ b₂ := by
  unfold openGenesis at done
  split at done
  · cases done
  · rename_i l₁ first registered
    split at done
    · cases done
    · rename_i l₂ hash₀ opened
      split at done
      · cases done
      · rename_i l₃ hash₁ enrolled
        split at done
        · cases done
        · rename_i l₄ hash₂ voted
          split at done <;> cases done
          obtain ⟨a₀, b₀, known₀, opening, own₀, opens, rfl, rfl⟩ := appendSelfWitnessed_ok opened
          obtain ⟨a₁, b₁, known₁, delegate, own₁, enrols, rfl, rfl⟩ := appendSelfWitnessed_ok enrolled
          obtain ⟨a₂, b₂, known₂, change, own₂, votes, rfl, rfl⟩ := appendSelfWitnessed_ok voted
          refine ⟨l₁, b₀, b₁, b₂, registered, opens, opening, enrols, delegate, votes, change, ?_, rfl⟩
          rintro b (rfl | rfl | rfl)
          · exact ⟨a₀, known₀, own₀⟩
          · exact ⟨a₁, known₁, own₁⟩
          · exact ⟨a₂, known₂, own₂⟩

theorem Founds.leads {p : Params} {keys : KeyPair} {username : String} {clock : Clock} {id : AccountId}
    {l l₁ l' : Ledger} {b₀ b₁ b₂ : Block} (founds : Founds p keys username clock id l l₁ l' b₀ b₁ b₂) : l.Leads l' := by
  rw [founds.after]
  have opened := leads_append (append_of_appends founds.opens)
  have enrolled := leads_append (append_of_appends founds.enrols)
  have voted := leads_append (append_of_appends founds.votes)
  have blocks := ((leads_register founds.registered).trans opened).trans (enrolled.trans voted)
  exact blocks.trans (leads_modify _ _ _ fun _ => rfl)

end Ledger

namespace Node

theorem openGenesis_ok {n n' : Node} {keys : KeyPair} {username : String} {id : AccountId}
    (done : n.perform (openGenesis keys username) = (.ok id, n')) :
    n'.params = n.params ∧ n.ledger.openGenesis n.params keys username n.clock = (n'.ledger, n'.clock, .ok id) ∧
      n'.delegation = n.delegation.register id := by
  rw [openGenesis, perform_bind, perform_get] at done
  dsimp only at done
  split at done
  · rename_i l clock first opened
    cases done
    exact ⟨rfl, opened, rfl⟩
  · cases done

theorem Reached.reachable {genesis : AccountId} {n : Node} (reached : Reached genesis n) : n.ledger.Reachable := by
  induction reached with
  | started done =>
    obtain ⟨l₁, b₀, b₁, b₂, founds⟩ := Ledger.openGenesis_ok (openGenesis_ok done).2.1
    exact founds.leads
  | @operated n _ op ih => exact ih.leads (evolves_moves.contains.operate n op).2

theorem Reached.sound {genesis : AccountId} {n : Node} (reached : Reached genesis n) : n.ledger.Sound :=
  reached.reachable.sound

theorem Reached.directory {genesis : AccountId} {n : Node} (reached : Reached genesis n) : n.ledger.Directory :=
  reached.reachable.directory

end Node
end BlockLattice
