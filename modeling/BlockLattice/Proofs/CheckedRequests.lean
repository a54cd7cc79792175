import BlockLattice.Proofs.AccountHistory
import BlockLattice.Proofs.DoubleEntry
import BlockLattice.Proofs.Landing

namespace BlockLattice

namespace Ledger

theorem Appends.found {l : Ledger} {id : AccountId} {b : Block} (appends : l.Appends id b) (sound : l.Sound) :
    (l.place id b).block? b.hash = some b :=
  (appends.sound sound).block?_eq_some.mpr ⟨id, _, blockAt?_place_eq_some.mpr (.inl ⟨rfl, rfl, rfl⟩), rfl⟩

theorem Sound.found {l : Ledger} (sound : l.Sound) {id : AccountId} {k : Nat} {b : Block}
    (stands : l.blockAt? id k = some b) : l.block? b.hash = some b :=
  sound.block?_eq_some.mpr ⟨id, k, stands, rfl⟩

theorem check_receive {l : Ledger} {p : Params} {id : AccountId} {bp : Blueprint} {s : BlockHash} {tip : Block}
    (known : l.isRegistered id = true) (last : l.latest? id = some tip) (builds : bp.previous = some tip.hash)
    (receives : bp.payload = .receive (some s)) (source : l.checkSource id s = .ok ())
    (sent : l.sentAmount? p s = some bp.amount) (raised : bp.balance.raw = tip.balance.raw + bp.amount.raw) :
    l.check p id bp = .ok () := by
  have client : bp.payload ≠ .receive none := by simp [receives]
  have tipped : l.tipBalance id bp = .ok (some tip.balance) := by simp [tipBalance, known, builds, last]
  have allowed : l.checkPayload p id bp = .ok () := by
    simp only [checkPayload, receives, source, sent, bind, Except.bind, ne_eq, not_true_eq_false, if_false]
    rfl
  have added : credit tip.balance bp.amount = .ok bp.balance := by
    rw [credit, Amount.checkedAdd_eq_some.mpr raised]
  have balanced : checkBalance p (some tip.balance) bp = .ok () := by
    simp [checkBalance, receives, builds, balanceAfter, added, movesValue, bind, Except.bind, pure, Except.pure]
  simp only [check, client, if_false, tipped, allowed, balanced, bind, Except.bind]

end Ledger

namespace Node

variable {n m n' : Node} {r : Request}

theorem receiveBlueprint_cases {a : Account} {tip source : Block} {key : PublicKey} {d : AccountId}
    (own : tip.verify a.publicKey = true) (signed : source.verify key = true) (sends : source.destination? = some d)
    (amount : Amount) :
    (∃ bp, a.receiveBlueprint amount tip source key = .ok bp) ∨
      a.receiveBlueprint amount tip source key = .error .balanceOverflow ∧
        Amount.size ≤ tip.balance.raw + amount.raw := by
  unfold Account.receiveBlueprint Account.checkTip
  cases sum : tip.balance.checkedAdd amount with
  | none =>
    refine .inr ⟨?_, Amount.ofRaw?_eq_none.mp sum⟩
    simp [own, signed, sends, Account.credit, sum, bind, Except.bind]
  | some total =>
    refine .inl ⟨⟨some tip.hash, total, amount, .receive (some source.hash)⟩, ?_⟩
    simp [own, signed, sends, Account.credit, sum, bind, Except.bind, pure, Except.pure]

section Answer

variable {f : Forged} {previous : BlockHash} {block : Block} {d : AccountId}

theorem Lands.placed_send (lands : Lands .client r n f previous block m) (sends : r.blueprint.payload = .send d) :
    m.ledger = n.ledger.place r.account block := by
  rw [lands.ledger, sends]
  rfl

theorem Lands.sends (lands : Lands .client r n f previous block m) (sends : r.blueprint.payload = .send d) :
    block.destination? = some d := by
  rw [Block.destination?, lands.content, Blueprint.content, sends]
  rfl

theorem Lands.taken (lands : Lands .client r n f previous block m) (sends : r.blueprint.payload = .send d) :
    ∃ prior, n.ledger.latest? r.account = some prior ∧ block.previous = prior.hash ∧
      prior.balance.raw = block.balance.raw + (r.blueprint.amount.raw + n.params.transactionFee.raw) := by
  have pays := lands.settles.pays (by simp [sends]) (by simp [sends])
  rw [sends, ← lands.balance_eq] at pays
  rcases Round.previousFor_ok lands.follows with ⟨opens, _⟩ | ⟨_, builds⟩
  · rw [sends] at opens
    cases opens
  · rcases lands.admits.builds with ⟨start, _⟩ | ⟨prior, stands, last⟩
    · rw [start] at builds
      cases builds
    · rw [Ledger.balance_of_latest last] at pays
      refine ⟨prior, last, ?_, pays⟩
      rw [builds] at stands
      cases stands
      rw [Block.previous, lands.content, Blueprint.content, sends]
      rfl

theorem checkPayload_send {l : Ledger} {p : Params} {id : AccountId} {bp : Blueprint} (sends : bp.payload = .send d)
    (allowed : l.checkPayload p id bp = .ok ()) : l.isRegistered d = true ∧ l.isOpened d = true := by
  unfold Ledger.checkPayload at allowed
  rw [sends] at allowed
  dsimp only at allowed
  cases known : l.isRegistered d with
  | false => simp [known] at allowed
  | true =>
    cases opened : l.isOpened d with
    | false => simp [known, opened] at allowed
    | true => exact ⟨rfl, rfl⟩

theorem Pairs.passes {bp : Blueprint} (pairs : Pairs f.hash d r.blueprint.amount m bp)
    (lands : Lands .client r n f previous block m) (sends : r.blueprint.payload = .send d)
    (sound : n.ledger.Sound) : m.passes ⟨d, bp⟩ .client := by
  obtain ⟨tip, last, builds⟩ := pairs.tip
  obtain ⟨source, found, receives⟩ := pairs.source
  obtain ⟨prior, under, follows, moved⟩ := lands.taken sends
  have placed := lands.placed_send sends
  have stands : m.ledger.block? block.hash = some block := by
    rw [placed]
    exact lands.appends.found sound
  rw [lands.hash, stands] at found
  cases found
  have known : m.ledger.isRegistered d = true := by
    rw [placed]
    exact (checkPayload_send sends lands.admits.allowed).1
  have source : m.ledger.checkSource d block.hash = .ok () := by
    refine Ledger.checkSource_ok_iff.mpr ⟨block, stands, lands.sends sends, ?_⟩
    rw [placed]
    exact lands.appends.unreceived sound
  have earlier : m.ledger.block? block.previous = some prior := by
    rw [follows, placed]
    apply (lands.appends.sound sound).found
    exact n.ledger.grows_place _ _ _ _ _ (Ledger.latest?_eq_some.mp under)
  rw [← lands.params] at moved
  have sent := Ledger.sentAmount?_of stands (lands.sends sends) earlier moved
  rw [← pairs.amount] at sent
  have raised := pairs.balance
  rw [Ledger.balance_of_latest last, ← pairs.amount] at raised
  exact Ledger.check_receive known last builds receives source sent raised

theorem Lands.opens_iff (lands : Lands .client r n f previous block m) :
    r.blueprint.payload = .opening ↔ r.blueprint.previous = none := by
  rcases Round.previousFor_ok lands.follows with ⟨opens, bare⟩ | ⟨later, builds⟩
  · simp [opens, bare]
  · simp [later, builds]

theorem Lands.clock (lands : Lands .client r n f previous block m) : m.clock = n.clock.next := by
  rw [lands.after]
  cases r.blueprint.payload <;> rfl

theorem Lands.tells (lands : Lands .client r n f previous block m) (sound : n.ledger.Sound)
    (placed : n.ledger.Placed r.account r.blueprint) : block.content = n.draft r := by
  have follows := lands.follows
  rw [placed.previousFor sound] at follows
  cases follows
  exact lands.content

end Answer

-- The contents that come up while a request is served: those of the blocks on the
-- ledger, of the block that is asked for, and of the block that receives it.
inductive Arises (n : Node) (r : Request) : Content → Prop where
  | stands {id : AccountId} {k : Nat} {b : Block} : n.ledger.blockAt? id k = some b → Arises n r b.content
  | asked : Arises n r (n.draft r)
  | answered {f : Forged} {m : Node} {d : AccountId} {bp : Blueprint} :
      n.perform (forgeAndAppend .client r) = (.ok f, m) → r.blueprint.payload = .send d →
      Pairs f.hash d r.blueprint.amount m bp → Arises n r (m.draft ⟨d, bp⟩)

-- On these, the keys of the accounts belong together, and no two different blocks
-- share a hash.
structure Genuine (n : Node) (r : Request) : Prop where
  keyed : ∀ c, n.Arises r c → n.Keyed c
  apart : ∀ c d, n.Arises r c → n.Arises r d → c.hash = d.hash → c.digest = d.digest

theorem InOrder.verified (inOrder : n.InOrder) (genuine : n.Genuine r) {id : AccountId} {k : Nat} {b : Block}
    (stands : n.ledger.blockAt? id k = some b) : ∃ a, n.ledger.account? id = some a ∧ b.verify a.publicKey = true := by
  obtain ⟨a, known, verified | own⟩ := inOrder.signed id k b stands
  · exact ⟨a, known, verified⟩
  · refine ⟨a, known, ?_⟩
    rw [Block.verify_of_owner own]
    exact genuine.keyed b.content (.stands stands) id a known

section Send

variable {f : Forged} {previous : BlockHash} {block : Block} {d : AccountId}

theorem Lands.awaited (lands : Lands .client r n f previous block m) (inOrder : n.InOrder) (genuine : n.Genuine r)
    (sends : r.blueprint.payload = .send d) : ∃ tip a, m.ledger.latest? d = some tip ∧
      n.ledger.account? d = some a ∧ tip.verify a.publicKey = true := by
  rw [lands.placed_send sends, Ledger.latest?_place]
  by_cases same : r.account = d
  · subst same
    obtain ⟨sender, owner, signed⟩ := lands.owned
    exact ⟨block, sender, if_pos rfl, owner, signed⟩
  · rw [if_neg same]
    have opened := (checkPayload_send sends lands.admits.allowed).2
    obtain ⟨tip, last⟩ := inOrder.sound.latest?_of_isOpened opened
    obtain ⟨a, known, own⟩ := inOrder.verified genuine (Ledger.latest?_eq_some.mp last)
    exact ⟨tip, a, last, known, own⟩

-- A send to oneself never overflows: what comes back is less than what went.
theorem pairReceive_cases (inOrder : n.InOrder) (genuine : n.Genuine r) (lands : Lands .client r n f previous block m)
    (sends : r.blueprint.payload = .send d) :
    (∃ bp, Pairs f.hash d r.blueprint.amount m bp ∧
      m.perform (pairReceive f.hash r.account d r.blueprint.amount) = m.perform (forgeAndAppend .client ⟨d, bp⟩)) ∨
    (m.perform (pairReceive f.hash r.account d r.blueprint.amount) = (.error (.validation .balanceOverflow), m) ∧
      d ≠ r.account ∧ Amount.size ≤ n.ledger.balance d + r.blueprint.amount.raw) := by
  have placed := lands.placed_send sends
  have accounts : ∀ id, m.ledger.account? id = n.ledger.account? id := by
    intro id
    rw [placed]
    rfl
  obtain ⟨sender, owner, signed⟩ := lands.owned
  obtain ⟨tip, a, last, known, own⟩ := lands.awaited inOrder genuine sends
  have found : m.ledger.block? f.hash = some block := by
    rw [lands.hash, placed]
    exact lands.appends.found inOrder.sound
  have balance : m.ledger.balance d = tip.balance.raw := Ledger.balance_of_latest last
  have begun : m.perform (pairReceive f.hash r.account d r.blueprint.amount) =
      m.perform (raise .validation (a.receiveBlueprint r.blueprint.amount tip block sender.publicKey) >>=
        fun bp => forgeAndAppend .client ⟨d, bp⟩) := by
    unfold pairReceive
    simp only [perform_bind, perform_account, perform_tip, accounts, known, last, perform_get, found, owner]
  rcases receiveBlueprint_cases own signed (lands.sends sends) r.blueprint.amount with ⟨bp, made⟩ | ⟨exceeds, size⟩
  · obtain ⟨builds, amount, receives, raised⟩ := receiveBlueprint_ok made
    rw [← balance] at raised
    refine .inl ⟨bp, ⟨⟨tip, last, builds⟩, ⟨block, found, receives⟩, raised, amount⟩, ?_⟩
    rw [begun, made]
    rfl
  · have other : d ≠ r.account := by
      rintro rfl
      obtain ⟨prior, _, _, moved⟩ := lands.taken sends
      have bound := prior.balance.raw_lt
      rw [placed, Ledger.latest?_place, if_pos rfl] at last
      cases last
      omega
    rw [placed, Ledger.balance_place, if_neg (Ne.symm other)] at balance
    refine .inr ⟨?_, other, by rw [balance]; exact size⟩
    rw [begun, exceeds]
    rfl

theorem Pairs.lands {bp : Blueprint} (pairs : Pairs f.hash d r.blueprint.amount m bp) (inOrder : n.InOrder)
    (genuine : n.Genuine r) (placed : n.ledger.Placed r.account r.blueprint)
    (done : n.perform (forgeAndAppend .client r) = (.ok f, m)) (lands : Lands .client r n f previous block m)
    (sends : r.blueprint.payload = .send d) (led : ¬m.Leaderless) :
    ∃ g n', m.perform (forgeAndAppend .client ⟨d, bp⟩) = (.ok g, n') := by
  have after := lands.placed_send sends
  have passes := pairs.passes lands sends inOrder.sound
  have arises : n.Arises r (m.draft ⟨d, bp⟩) := .answered done sends pairs
  have kind : bp.payload = .opening ↔ bp.previous = none := by
    obtain ⟨_, _, builds⟩ := pairs.tip
    obtain ⟨_, _, receives⟩ := pairs.source
    simp [builds, receives]
  refine forge_lands (lands.inOrder inOrder) passes (Ledger.placed_of_check passes kind) led ?_ ?_
  · intro id a known
    rw [after] at known
    exact genuine.keyed _ arises id a known
  · intro id k b stands clash
    rw [after] at stands
    rcases Ledger.blockAt?_place_eq_some.mp stands with ⟨_, _, rfl⟩ | old
    · have first : n.Arises r b.content := by
        rw [lands.tells inOrder.sound placed]
        exact .asked
      exact genuine.apart _ _ first arises clash
    · exact genuine.apart _ _ (.stands old) arises clash

end Send

inductive Refusal (n : Node) (r : Request) : NodeError → Prop where
  | unchecked {cause : LedgerError} :
      n.ledger.check n.params r.account r.blueprint = .error cause → Refusal n r (.ledger cause)
  | misplaced {kind : BlockKind} {reason : Misplaced} :
      ¬(r.blueprint.payload = .opening ↔ r.blueprint.previous = none) →
      Refusal n r (.consensus (.invalidBlockType kind reason))
  | leaderless : n.Leaderless → Refusal n r (.consensus .noForger)
  | unanswered {d : AccountId} {f : Forged} {m : Node} : r.blueprint.payload = .send d →
      n.perform (forgeAndAppend .client r) = (.ok f, m) → m.Leaderless → Refusal n r (.consensus .noForger)
  | overflow {d : AccountId} : r.blueprint.payload = .send d → d ≠ r.account →
      Amount.size ≤ n.ledger.balance d + r.blueprint.amount.raw → Refusal n r (.validation .balanceOverflow)

theorem forge_refusal {e : NodeError} (inOrder : n.InOrder) (genuine : n.Genuine r)
    (refused : n.perform (forgeAndAppend .client r) = (.error e, n')) : n.Refusal r e := by
  cases checked : n.ledger.check n.params r.account r.blueprint with
  | error cause =>
    have stopped : n.perform (checkRequest .client r) = (.error (.ledger cause), n) := by
      rw [checkRequest, perform_bind, perform_get]
      dsimp only
      rw [checked, perform_raise]
      rfl
    unfold forgeAndAppend at refused
    rw [perform_bind, stopped] at refused
    cases refused
    exact .unchecked checked
  | ok _ =>
    have passes : n.passes r .client := checked
    by_cases leaderless : n.Leaderless
    · rw [forge_leaderless passes leaderless] at refused
      cases refused
      exact .leaderless leaderless
    · by_cases kind : r.blueprint.payload = .opening ↔ r.blueprint.previous = none
      · have apart : n.ledger.Apart (n.draft r) := by
          intro id k b stands clash
          exact genuine.apart _ _ (.stands stands) .asked clash
        obtain ⟨f, m, landed⟩ := forge_lands inOrder passes (Ledger.placed_of_check checked kind) leaderless
          (genuine.keyed _ .asked) apart
        rw [landed] at refused
        cases refused
      · obtain ⟨_, _, m, misplaced⟩ := forge_misplaced inOrder.turning passes leaderless kind
        rw [misplaced] at refused
        cases refused
        exact .misplaced kind

theorem process_refusal {e : NodeError} (inOrder : n.InOrder) (genuine : n.Genuine r)
    (refused : n.perform (process r) = (.error e, n')) : n.Refusal r e := by
  obtain ⟨m, _, unforged | ⟨f, landed, forged, unsettled⟩⟩ := process_error refused
  · exact forge_refusal inOrder genuine unforged
  obtain ⟨previous, block, lands⟩ := forgeAndAppend_ok forged
  obtain ⟨d, sends, unsettled⟩ := settlePayload_error unsettled
  obtain ⟨_, m', unpaired⟩ := settle_undone lands sends inOrder.sound unsettled
  rcases pairReceive_cases inOrder genuine lands sends with ⟨bp, pairs, answered⟩ | ⟨exceeds, other, size⟩
  · rw [answered] at unpaired
    by_cases leaderless : landed.Leaderless
    · rw [forge_leaderless (pairs.passes lands sends inOrder.sound) leaderless] at unpaired
      cases unpaired
      exact .unanswered sends forged leaderless
    · obtain ⟨g, n'', received⟩ := pairs.lands inOrder genuine (Ledger.placed_of_check lands.checked lands.opens_iff) forged lands
        sends leaderless
      rw [received] at unpaired
      cases unpaired
  · rw [exceeds] at unpaired
    cases unpaired
    exact .overflow sends other size

theorem process_stands {o : Outcome} (reachable : n.ledger.Reachable) (placed : n.ledger.Placed r.account r.blueprint)
    (done : n.perform (process r) = (.ok o, n')) :
    ∃ block, n'.ledger.blockAt? r.account (n.ledger.chainOf r.account).length = some block ∧ block.hash = o.hash ∧
      block.content = n.draft r := by
  obtain ⟨f, landed, settled, served⟩ := process_ok done
  obtain ⟨previous, block, lands⟩ := forgeAndAppend_ok served.forged
  have stands : landed.ledger.blockAt? r.account (n.ledger.chainOf r.account).length = some block := by
    rw [lands.blockAt?]
    exact Ledger.blockAt?_place_eq_some.mpr (.inl ⟨rfl, rfl, rfl⟩)
  refine ⟨block, served.grows reachable _ _ _ stands, ?_, lands.tells reachable.sound placed⟩
  rw [served.named.1, lands.hash]

-- A request that passes its check, and is an opening if and only if it builds on
-- nothing, is served by a block of its own at the end of the chain, unless nobody is elected to forge its block or the one that
-- receives it, or its destination cannot hold what it sends. The forge, the
-- verification and the append refuse nothing that was checked before.
theorem checked_request_lands {genesis : AccountId} (asked : Asked genesis n r) (genuine : n.Genuine r) :
    (n.ledger.check n.params r.account r.blueprint = .ok () →
      (r.blueprint.payload = .opening ↔ r.blueprint.previous = none) →
      (∃ o n' block, n.perform (process r) = (.ok o, n') ∧
        n'.ledger.blockAt? r.account (n.ledger.chainOf r.account).length = some block ∧ block.hash = o.hash ∧
        block.content = n.draft r) ∨
      (∃ n', n.perform (process r) = (.error (.consensus .noForger), n') ∧
        (n.Leaderless ∨ ∃ d f m, r.blueprint.payload = .send d ∧
          n.perform (forgeAndAppend .client r) = (.ok f, m) ∧ m.Leaderless)) ∨
      (∃ n' d, n.perform (process r) = (.error (.validation .balanceOverflow), n') ∧
        r.blueprint.payload = .send d ∧ d ≠ r.account ∧
        Amount.size ≤ n.ledger.balance d + r.blueprint.amount.raw)) ∧
    (∀ e n', n.perform (process r) = (.error e, n') →
      e ≠ .consensus .roundEnded ∧ (∀ reason, e ≠ .consensus (.forgeFailed reason)) ∧
      (∀ cause, e ≠ .appendFailed cause) ∧ (∀ signer, e ≠ .signatureInvalid signer) ∧
      ∀ id, e ≠ .accountNotFound id) := by
  refine ⟨fun checked kind => ?_, fun e n' refused => ?_⟩
  · cases ran : n.perform (process r) with
    | mk result n' =>
      cases result with
      | ok o =>
        obtain ⟨block, stands⟩ := process_stands asked.reachable (Ledger.placed_of_check checked kind) ran
        exact .inl ⟨o, n', block, rfl, stands⟩
      | error e =>
        cases process_refusal asked.inOrder genuine ran with
        | unchecked failed =>
          rw [checked] at failed
          cases failed
        | misplaced other => exact absurd kind other
        | leaderless nobody => exact .inr (.inl ⟨n', rfl, .inl nobody⟩)
        | unanswered sends landed nobody => exact .inr (.inl ⟨n', rfl, .inr ⟨_, _, _, sends, landed, nobody⟩⟩)
        | overflow sends other size => exact .inr (.inr ⟨n', _, rfl, sends, other, size⟩)
  · cases process_refusal asked.inOrder genuine refused <;> simp

def selfReceive : Content :=
  .receive (.clamp 99999999900000) (lone.draft selfSend).hash (lone.draft selfSend).hash
    lone.clock.next.now

def selfContents : List Content :=
  (lone.ledger.chainOf loneId).blocks.map Block.content ++ [lone.draft selfSend, selfReceive]

def isGenuine (k : KeyPair) (contents : List Content) : Bool :=
  (contents.all fun c => k.publicKey.verify c.digest (k.privateKey.sign c.digest)) &&
    decide (contents.map Content.hash).Nodup

set_option maxRecDepth 100000 in
theorem selfContents_genuine : isGenuine (.ofPrivate ⟨1⟩) selfContents = true := by decide +kernel

theorem lone_account {id : AccountId} {a : Account} (known : lone.ledger.account? id = some a) :
    id = loneId ∧ a.keys = .ofPrivate ⟨1⟩ := by
  obtain ⟨l₁, b₀, b₁, b₂, founds⟩ := lone_founded
  obtain ⟨x, accounts, keys, _⟩ := founds.accounts
  rw [Ledger.account?, accounts, Std.ExtTreeMap.getElem?_insert] at known
  split at known
  · rename_i same
    cases known
    exact ⟨(Std.LawfulEqCmp.eq_of_compare same).symm, keys⟩
  · simp at known

theorem selfSend_arises {c : Content} (arises : lone.Arises selfSend c) : c ∈ selfContents := by
  have sound := lone_reached.sound
  cases arises with
  | @stands id k b found =>
    obtain ⟨chain, held, stored⟩ := Ledger.blockAt?_eq_some.mp found
    obtain ⟨a, known⟩ := Ledger.isRegistered_iff.mp (sound.registered (by rw [Ledger.isOpened_eq, held]; rfl))
    obtain ⟨rfl, _⟩ := lone_account known
    rw [Ledger.blockAt?_chainOf] at found
    exact List.mem_append_left _ (List.mem_map_of_mem (List.mem_of_getElem? found))
  | asked => exact List.mem_append_right _ (List.mem_cons_self ..)
  | @answered f m d bp forged sends pairs =>
    obtain ⟨previous, block, lands⟩ := forgeAndAppend_ok forged
    have destination : d = loneId := (Payload.send.inj sends).symm
    subst destination
    obtain ⟨tip, last, builds⟩ := pairs.tip
    obtain ⟨source, found, receives⟩ := pairs.source
    have placed := lands.placed_send sends
    rw [lands.hash, placed, lands.appends.found sound] at found
    rw [placed, Ledger.latest?_place, if_pos (show selfSend.account = loneId from rfl)] at last
    cases found
    cases last
    have tells : block.hash = (lone.draft selfSend).hash := by
      rw [Block.hash, lands.tells sound (Ledger.placed_of_check lands.checked lands.opens_iff)]
    have clock := lands.clock
    have balance : bp.balance = .clamp 99999999900000 := by
      have raised := pairs.balance
      rw [placed, Ledger.balance_place, if_pos (show selfSend.account = loneId from rfl), lands.balance_eq] at raised
      apply Amount.ext
      rw [raised]
      decide
    have draft : m.draft ⟨loneId, bp⟩ = selfReceive := by
      simp only [Node.draft, Blueprint.content, receives, Blueprint.follows, builds, balance, tells, clock,
        Option.getD_some, selfReceive]
    rw [draft]
    exact List.mem_append_right _ (List.mem_cons_of_mem _ (List.mem_singleton.mpr rfl))

theorem selfSend_genuine : lone.Genuine selfSend := by
  have genuine := selfContents_genuine
  simp only [isGenuine, Bool.and_eq_true, List.all_eq_true, decide_eq_true_eq] at genuine
  refine ⟨?_, ?_⟩
  · intro c arises id a known
    obtain ⟨rfl, keys⟩ := lone_account known
    rw [Account.publicKey, Account.privateKey, keys]
    exact genuine.1 c (selfSend_arises arises)
  · intro c d left right clash
    rw [List.inj_on_of_nodup_map genuine.2 (selfSend_arises left) (selfSend_arises right) clash]

theorem selfSend_lands : Asked loneId lone selfSend ∧ lone.Genuine selfSend ∧
    lone.ledger.check lone.params loneId selfSend.blueprint = .ok () ∧
    ∃ o n' block, lone.perform (process selfSend) = (.ok o, n') ∧
      n'.ledger.blockAt? loneId (lone.ledger.chainOf loneId).length = some block ∧ block.hash = o.hash ∧
      block.content = lone.draft selfSend := by
  have asked := Asked.client selfSend lone_reached
  obtain ⟨o, done, _⟩ := trade_served
  obtain ⟨f, landed, settled, served⟩ := process_ok done
  obtain ⟨previous, block, lands⟩ := forgeAndAppend_ok served.forged
  refine ⟨asked, selfSend_genuine, lands.checked, ?_⟩
  rcases (checked_request_lands asked selfSend_genuine).1 lands.checked lands.opens_iff with
    served | ⟨n', refused, _⟩ | ⟨n', d, _, sends, other, _⟩
  · exact served
  · rw [done] at refused
    cases refused
  · exact absurd (Payload.send.inj sends).symm other

end Node
end BlockLattice
