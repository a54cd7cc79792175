import BlockLattice.Proofs.Landing
import BlockLattice.Proofs.LedgerBlocks

namespace BlockLattice.Ledger

-- The ledgers built by opening accounts, by the blocks that a round forges from
-- checked blueprints, and by taking tips off again. What becomes of the accounts
-- beside their chains does not matter.
inductive Traded (p : Params) : Ledger → Prop where
  | empty : Traded p .empty
  | registered {l l' : Ledger} {account : Account} {username : String} {id : AccountId} :
      Traded p l → l.register account username = .ok (l', id) → Traded p l'
  | edited {l : Ledger} (id : AccountId) (change : Account → Account) :
      Traded p l → Traded p (l.modifyAccount id change)
  | opened {l l' : Ledger} {id : AccountId} {b : Block} {hash : BlockHash} :
      Traded p l → b.isOpening = true → b.hash ≠ .zero → l.append id b = .ok (l', hash) → Traded p l'
  | forged {l l' : Ledger} {id : AccountId} {bp : Blueprint} {round turned : Round} {time : Timestamp}
      {draft b : Block} {hash : BlockHash} :
      Traded p l → l.check p id bp = .ok () → round.forge l id bp time = .ok (turned, draft) →
      b.content = draft.content → b.hash ≠ .zero → l.append id b = .ok (l', hash) → Traded p l'
  | undone {l l' : Ledger} {id : AccountId} {hash : BlockHash} {b : Block} :
      Traded p l → l.rollback id hash = .ok (l', b) → Traded p l'

structure Audited (l : Ledger) (p : Params) : Prop where
  sound : l.Sound
  named : l.Named
  fair : ∀ {id k a b}, l.blockAt? id k = some a → l.blockAt? id (k + 1) = some b →
    l.Fair p a.balance.raw b.content

section Steps

variable {l l' : Ledger} {p : Params} {id : AccountId} {b : Block}

theorem Audited.empty (p : Params) : Audited .empty p where
  sound := .empty
  named := by simp [Named, Ledger.empty, blockAt?, chain?]
  fair := by simp [Ledger.empty, blockAt?, chain?]

theorem Audited.of_same (audited : l.Audited p) (sound : l'.Sound)
    (same : ∀ id k, l'.blockAt? id k = l.blockAt? id k) : l'.Audited p where
  sound := sound
  named := by
    intro id k b found
    rw [same] at found
    exact audited.named id k b found
  fair := by
    intro id k a b before found
    rw [same] at before found
    exact (audited.fair before found).imp fun _ _ _ took => took.mono (.of_same same)

theorem Audited.place (audited : l.Audited p) (appends : l.Appends id b) (named : b.hash ≠ .zero)
    (next : ∀ a, l.latest? id = some a → l.Fair p a.balance.raw b.content) : (l.place id b).Audited p where
  sound := appends.sound audited.sound
  named := by
    intro j k x found
    rcases blockAt?_place_eq_some.mp found with ⟨_, _, rfl⟩ | old
    · exact named
    · exact audited.named j k x old
  fair := by
    intro j k a x before found
    have fair : l.Fair p a.balance.raw x.content := by
      rcases next_place before found with ⟨last, rfl⟩ | ⟨under, old⟩
      · exact next a last
      · exact audited.fair under old
    exact fair.imp fun _ _ _ took => took.mono (l.grows_place id b)

theorem Undoes.took {hash source : BlockHash} {amount : Nat} {c shorter : Chain}
    (undoes : l.Undoes id hash b c shorter l') (sound : l.Sound) (other : source ≠ hash)
    (took : l.Took p source amount) : l'.Took p source amount := by
  obtain ⟨j, m, before, send, earlier, stands, named, moved⟩ := took
  refine ⟨j, m, before, send, ?_, ?_, named, moved⟩
  · refine (undoes.blockAt?_eq_some sound).mpr ⟨earlier, ?_⟩
    rintro ⟨rfl, rfl⟩
    obtain ⟨d, held, stored⟩ := Ledger.blockAt?_eq_some.mp stands
    rw [undoes.held] at held
    cases held
    have bound := (List.getElem?_eq_some_iff.mp stored).1
    rw [undoes.blocks sound, List.length_append, List.length_singleton, Chain.length] at bound
    omega
  · refine (undoes.blockAt?_eq_some sound).mpr ⟨stands, (undoes.stays sound stands).mpr ?_⟩
    rw [named, undoes.named sound]
    exact other

theorem Audited.undo {hash : BlockHash} {c shorter : Chain} (audited : l.Audited p)
    (undoes : l.Undoes id hash b c shorter l') : l'.Audited p := by
  have sound := audited.sound
  have shrinks : l'.Grows l := fun j k x found => ((undoes.blockAt?_eq_some sound).mp found).1
  refine ⟨undoes.sound sound, shrinks.named audited.named, ?_⟩
  intro j k a x before found
  have stands := shrinks j (k + 1) x found
  apply (audited.fair (shrinks j k a before) stands).imp
  intro source amount names took
  apply undoes.took sound _ took
  rintro rfl
  have taken := sound.received.mpr ⟨j, k + 1, x, stands, names, rfl⟩
  rw [undoes.unreceived] at taken
  cases taken

theorem Appends.bare_of_opening (appends : l.Appends id b) (opens : b.isOpening = true) : l.latest? id = none := by
  cases appends.fits with
  | first blank _ =>
    cases held : l.chain? id with
    | none => rw [latest?, held]; rfl
    | some c =>
      rw [chainOf_of_chain? held] at blank
      rw [latest?, held, Option.bind_some, Chain.latest?, blank]
      rfl
  | next _ later _ =>
    rw [opens] at later
    cases later

theorem Traded.audited (traded : Traded p l) : l.Audited p := by
  induction traded with
  | empty => exact .empty p
  | @registered l l' account username id _ done ih =>
    have written := (register_ok done).2.written
    refine ih.of_same ?_ fun j k => by rw [written]; rfl
    have step := ih.sound.call (.register account username)
    rwa [call, done] at step
  | edited id change _ ih => exact ih.of_same (ih.sound.modify id change) fun j k => blockAt?_modify _ _ _ _ _
  | opened _ opens named done ih =>
    obtain ⟨appends, rfl, _⟩ := append_ok done
    apply ih.place appends named
    intro a last
    rw [appends.bare_of_opening opens] at last
    cases last
  | forged _ checked forging same named done ih =>
    obtain ⟨appends, rfl, _⟩ := append_ok done
    obtain ⟨_, previous, _, _, follows, _, _, rfl⟩ := Round.forge_ok forging
    apply ih.place appends named
    intro a last
    rw [same, ← balance_of_latest last]
    apply ih.sound.fair_of_check ih.named checked follows
    intro opens
    rw [(bare_of_check checked follows).mpr opens] at last
    cases last
  | undone _ done ih =>
    obtain ⟨c, shorter, undoes⟩ := rollback_ok done
    exact ih.undo undoes

end Steps

section Accounts

variable (l : Ledger) (p : Params)

def moved (send : BlockHash) : Nat := ((l.sentAmount? p send).map Amount.raw).getD 0

def gain (b : Block) : Nat :=
  match b.content with
  | .opening _ balance _ => balance.raw
  | _ => (b.source?.map (l.moved p)).getD 0

def charge (b : Block) : Nat :=
  match b.content with
  | .send .. => l.moved p b.hash + p.transactionFee.raw
  | .change .. => p.changeCost.raw
  | .delegate .. => p.delegateCost.raw
  | _ => 0

def ofKind (kind : BlockKind) : List Block := l.blocks.filter fun b => b.kind == kind

def pending : Nat := (((l.ofKind .send).filter fun b => !l.isReceived b.hash).map fun b => l.moved p b.hash).sum

end Accounts

section Sums

variable {l : Ledger} {p : Params}

theorem kind_eq_send {b : Block} : b.kind = .send ↔ ∃ d, b.destination? = some d := by
  unfold Block.kind Block.destination?
  cases b.content <;> simp [Content.kind, Content.destination?]

theorem Sound.sentAmount?_of_step (sound : l.Sound) {j d : AccountId} {m amount : Nat} {before send : Block}
    (earlier : l.blockAt? j m = some before) (stands : l.blockAt? j (m + 1) = some send)
    (toward : send.destination? = some d)
    (step : before.balance.raw = send.balance.raw + (amount + p.transactionFee.raw)) :
    ∃ sent, l.sentAmount? p send.hash = some sent ∧ sent.raw = amount := by
  obtain ⟨k, a, height, under, follows⟩ := sound.preceded stands (isOpening_of_destination toward)
  cases height
  rw [earlier] at under
  cases under
  have bound := before.balance.raw_lt
  have found := sound.block?_eq_some.mpr ⟨j, m + 1, stands, rfl⟩
  have prior : l.block? send.previous = some before := sound.block?_eq_some.mpr ⟨j, m, earlier, follows.symm⟩
  exact ⟨⟨amount, by omega⟩, sentAmount?_of found toward prior step, rfl⟩

theorem moved_of_sent {send : BlockHash} {sent : Amount} (found : l.sentAmount? p send = some sent) :
    l.moved p send = sent.raw := by
  rw [moved, found]; rfl

theorem Sound.moved_of_took (sound : l.Sound) {id : AccountId} {k amount : Nat} {receive : Block} {source : BlockHash}
    (found : l.blockAt? id k = some receive) (names : receive.source? = some source)
    (took : l.Took p source amount) : l.moved p source = amount := by
  obtain ⟨j, m, before, send, earlier, stands, named, step⟩ := took
  obtain ⟨i, h, other, standing, same, toward⟩ := sound.sourced found names
  obtain ⟨rfl, rfl⟩ := sound.unique stands standing (named.trans same.symm)
  rw [stands] at standing
  cases standing
  obtain ⟨sent, known, rfl⟩ := sound.sentAmount?_of_step earlier stands toward step
  rw [← named]
  exact moved_of_sent known

theorem Audited.sends (audited : l.Audited p) {id d : AccountId} {k : Nat} {a b : Block}
    (before : l.blockAt? id k = some a) (found : l.blockAt? id (k + 1) = some b) (toward : b.destination? = some d) :
    ∃ sent, l.sentAmount? p b.hash = some sent ∧
      a.balance.raw = b.balance.raw + (sent.raw + p.transactionFee.raw) := by
  have fair := audited.fair before found
  obtain ⟨content, owner, witness⟩ := b
  cases content with
  | send balance destination previous time =>
    obtain ⟨amount, step⟩ := fair
    obtain ⟨sent, known, rfl⟩ := audited.sound.sentAmount?_of_step before found toward step
    exact ⟨sent, known, step⟩
  | _ => cases toward

theorem Audited.sent (audited : l.Audited p) {b : Block} (member : b ∈ l.ofKind .send) :
    ∃ sent, l.sentAmount? p b.hash = some sent := by
  obtain ⟨stands, kind⟩ := List.mem_filter.mp member
  obtain ⟨id, k, found⟩ := mem_blocks.mp stands
  obtain ⟨d, toward⟩ := kind_eq_send.mp (beq_iff_eq.mp kind)
  obtain ⟨m, a, rfl, before, _⟩ := audited.sound.preceded found (isOpening_of_destination toward)
  obtain ⟨sent, known, _⟩ := audited.sends before found toward
  exact ⟨sent, known⟩

theorem Audited.step (audited : l.Audited p) {id : AccountId} {k : Nat} {a b : Block}
    (before : l.blockAt? id k = some a) (found : l.blockAt? id (k + 1) = some b) :
    b.balance.raw + l.charge p b = a.balance.raw + l.gain p b := by
  have fair := audited.fair before found
  obtain ⟨content, owner, witness⟩ := b
  cases content with
  | opening account balance time => exact fair.elim
  | send balance destination previous time =>
    obtain ⟨sent, known, step⟩ := audited.sends before found rfl
    change balance.raw + (l.moved p _ + p.transactionFee.raw) = a.balance.raw + 0
    rw [moved_of_sent known]
    exact step.symm
  | receive balance previous source time =>
    obtain ⟨nonzero, amount, took, risen⟩ := fair
    have names : Block.source? ⟨.receive balance previous source time, owner, witness⟩ = some source := if_neg nonzero
    change balance.raw + 0 = a.balance.raw + ((Block.source? _).map (l.moved p)).getD 0
    rw [names, Option.map_some, Option.getD_some, audited.sound.moved_of_took found names took]
    exact risen
  | change balance changes previous time => exact Eq.symm fair
  | delegate balance previous share time => exact Eq.symm fair

theorem Audited.start (audited : l.Audited p) {id : AccountId} {b : Block} (found : l.blockAt? id 0 = some b) :
    b.balance.raw + l.charge p b = l.gain p b := by
  obtain ⟨c, held, stored⟩ := blockAt?_eq_some.mp found
  obtain ⟨balance, time, first, begun, content⟩ := (audited.sound.opened held).first
  rw [begun] at stored
  cases stored
  simp only [charge, gain, Block.balance, content, Content.balance, Nat.add_zero]

theorem Audited.held (audited : l.Audited p) :
    l.held + (l.blocks.map (l.charge p)).sum = (l.blocks.map (l.gain p)).sum := by
  have each : ∀ entry ∈ l.chains.toList,
      l.balance entry.1 + (entry.2.blocks.map (l.charge p)).sum = (entry.2.blocks.map (l.gain p)).sum := by
    rintro ⟨id, c⟩ member
    have held : l.chain? id = some c := Std.ExtTreeMap.mem_toList_iff_getElem?_eq_some.mp member
    have stands : ∀ {k : Nat} {b : Block}, c.blocks[k]? = some b → l.blockAt? id k = some b :=
      fun stored => blockAt?_eq_some.mpr ⟨c, held, stored⟩
    dsimp only
    rw [balance, latest?, held]
    exact Chain.telescope (fun b found => audited.start (stands found))
      fun k a b before found => audited.step (stands before) (stands found)
  rw [Ledger.held, sum_blocks, sum_blocks, ← Std.ExtTreeMap.map_fst_toList_eq_keys, List.map_map,
    ← List.sum_map_add]
  exact congrArg List.sum (List.map_congr_left each)

theorem sum_charge (bs : List Block) : (bs.map (l.charge p)).sum =
    ((bs.filter fun b => b.kind == .send).map fun b => l.moved p b.hash).sum +
      p.transactionFee.raw * (bs.filter fun b => b.kind == .send).length +
      p.changeCost.raw * (bs.filter fun b => b.kind == .change).length +
      p.delegateCost.raw * (bs.filter fun b => b.kind == .delegate).length := by
  induction bs with
  | nil => rfl
  | cons b rest ih =>
    have kind : b.kind = b.content.kind := rfl
    rw [List.map_cons, List.sum_cons, ih, charge]
    cases content : b.content <;> rw [content] at kind <;>
      simp [kind, Content.kind, Nat.mul_add] <;> omega

theorem sum_gain (bs : List Block) : (bs.map (l.gain p)).sum =
    ((bs.filter fun b => b.kind == .opening).map fun b => b.balance.raw).sum +
      ((bs.filterMap Block.source?).map (l.moved p)).sum := by
  induction bs with
  | nil => rfl
  | cons b rest ih =>
    have kind : b.kind = b.content.kind := rfl
    have left : b.balance = b.content.balance := rfl
    have names : b.source? = b.content.source? := rfl
    rw [List.map_cons, List.sum_cons, ih, gain]
    cases content : b.content with
    | opening account balance time =>
      rw [content] at kind left names
      simp [kind, left, names, Content.kind, Content.balance, Content.source?]
      omega
    | _ =>
      rw [content] at kind
      cases source : b.source? with
      | none => simp [kind, source, Content.kind]
      | some s =>
        simp [kind, source, Content.kind]
        omega

-- The sources of the receive blocks are the sends that were received, each once.
theorem Sound.sources_perm (sound : l.Sound) : (l.blocks.filterMap Block.source?).Perm
    (((l.ofKind .send).filter fun b => l.isReceived b.hash).map Block.hash) := by
  have sublist : (((l.ofKind .send).filter fun b => l.isReceived b.hash).map Block.hash).Sublist
      (l.blocks.map Block.hash) := (List.filter_sublist.trans List.filter_sublist).map _
  rw [List.perm_ext_iff_of_nodup sound.nodup_sources (sublist.nodup sound.nodup_hashes)]
  intro source
  simp only [List.mem_filterMap, List.mem_map, List.mem_filter, ofKind, beq_iff_eq, mem_blocks, isReceived,
    Std.ExtTreeMap.contains_eq_isSome_getElem?, Option.isSome_iff_exists]
  constructor
  · rintro ⟨b, ⟨id, k, found⟩, names⟩
    obtain ⟨j, m, send, stands, rfl, toward⟩ := sound.sourced found names
    have taken := sound.received.mpr ⟨id, k, b, found, names, rfl⟩
    exact ⟨send, ⟨⟨⟨j, m, stands⟩, kind_eq_send.mpr ⟨id, toward⟩⟩, b.hash, taken⟩, rfl⟩
  · rintro ⟨send, ⟨_, r, taken⟩, rfl⟩
    obtain ⟨id, k, b, found, names, _⟩ := sound.received.mp taken
    exact ⟨b, ⟨id, k, found⟩, names⟩

theorem Sound.sum_sends (sound : l.Sound) : ((l.ofKind .send).map fun b => l.moved p b.hash).sum =
    l.pending p + ((l.blocks.filterMap Block.source?).map (l.moved p)).sum := by
  have split := ((List.filter_append_perm (fun b => l.isReceived b.hash) (l.ofKind .send)).map
    fun b => l.moved p b.hash).sum_eq
  rw [← split, (sound.sources_perm.map (l.moved p)).sum_eq, List.map_append, List.sum_append, List.map_map,
    Nat.add_comm]
  rfl

-- Nothing is made and nothing is lost: what the accounts hold, what is on the way
-- and what the blocks have paid are what the accounts were opened with, and of
-- each send it is known what it moved.
theorem Traded.conserved (traded : Traded p l) :
    (∀ b ∈ l.ofKind .send, ∃ sent, l.sentAmount? p b.hash = some sent) ∧
    l.held + l.pending p + p.transactionFee.raw * (l.ofKind .send).length +
        p.changeCost.raw * (l.ofKind .change).length + p.delegateCost.raw * (l.ofKind .delegate).length =
      ((l.ofKind .opening).map fun b => b.balance.raw).sum := by
  have audited := traded.audited
  refine ⟨fun b member => audited.sent member, ?_⟩
  have books := audited.held
  rw [sum_charge, sum_gain] at books
  have sends := audited.sound.sum_sends (p := p)
  simp only [ofKind] at sends ⊢
  omega

end Sums

def payer : Account := .new ⟨⟨1⟩, ⟨1⟩⟩

def payee : Account := .new ⟨⟨2⟩, ⟨2⟩⟩

def funds (a : Account) (balance : Amount) : Block := .unsigned (.opening a.id balance ⟨0⟩)

@[irreducible] def funded : Ledger :=
  replay [.register payer "payer", .register payee "payee", .append payer.id (funds payer (.clamp 10000000)),
    .append payee.id (funds payee .zero)]

def payment : Blueprint := ⟨some (funds payer (.clamp 10000000)).hash, .clamp 9899500, .clamp 500, .send payee.id⟩

def paid : Block := .unsigned (payment.content payer.id payment.follows ⟨1⟩)

@[irreducible] def inFlight : Ledger := funded.call (.append payer.id paid)

-- Both in one, so that the ledgers are worked out once.
set_option maxRecDepth 100000 in
theorem inFlight_seen :
    ((funds payer (.clamp 10000000)).hash ≠ .zero ∧ (funds payee .zero).hash ≠ .zero ∧ paid.hash ≠ .zero ∧
      funded.check .standard payer.id payment = .ok ()) ∧
    inFlight.pending .standard = 500 ∧ (inFlight.ofKind .send).length = 1 ∧ (inFlight.ofKind .change).length = 0 ∧
    (inFlight.ofKind .delegate).length = 0 ∧
    ((inFlight.ofKind .opening).map fun b => b.balance.raw).sum = 10000000 := by decide +kernel

theorem Traded.replayed {p : Params} {calls : List Call}
    (harmless : ∀ c ∈ calls, (∃ a username, c = .register a username) ∨
      ∃ id b, c = .append id b ∧ b.isOpening = true ∧ b.hash ≠ .zero) : Traded p (replay calls) := by
  induction calls using List.reverseRecOn with
  | nil => exact .empty
  | append_singleton before c ih =>
    have traded := ih fun x member => harmless x (List.mem_append_left _ member)
    rw [replay, List.foldl_append, List.foldl_cons, List.foldl_nil]
    rcases harmless c (by simp) with ⟨a, username, rfl⟩ | ⟨id, b, rfl, opens, named⟩
    · rw [call]
      cases done : Ledger.register _ a username with
      | error e => exact traded
      | ok result => exact traded.registered done
    · rw [call]
      cases done : Ledger.append _ id b with
      | error e => exact traded
      | ok result => exact traded.opened opens named done

theorem Traded.call_forged {l : Ledger} {p : Params} {id : AccountId} {bp : Blueprint} {round turned : Round}
    {time : Timestamp} {draft b : Block} (traded : Traded p l) (checked : l.check p id bp = .ok ())
    (forging : round.forge l id bp time = .ok (turned, draft)) (same : b.content = draft.content)
    (named : b.hash ≠ .zero) : Traded p (l.call (.append id b)) := by
  rw [call]
  cases done : l.append id b with
  | error e => exact traded
  | ok result => exact traded.forged checked forging same named done

theorem funded_traded (p : Params) : Traded p funded := by
  obtain ⟨⟨first, second, _⟩, _⟩ := inFlight_seen
  unfold funded
  apply Traded.replayed
  simp only [List.forall_mem_cons]
  exact ⟨.inl ⟨_, _, rfl⟩, .inl ⟨_, _, rfl⟩, .inr ⟨_, _, rfl, rfl, first⟩, .inr ⟨_, _, rfl, rfl, second⟩, by simp⟩

theorem inFlight_traded : Traded .standard inFlight := by
  obtain ⟨⟨_, _, named, checked⟩, _⟩ := inFlight_seen
  have traded := funded_traded .standard
  have sound := traded.audited.sound
  have placed := placed_of_check checked (by simp [payment])
  obtain ⟨w, known⟩ := isRegistered_iff.mp placed.known
  have turn : Round.forger ⟨[⟨payer.id, .zero⟩], 0⟩ = .ok ⟨payer.id, .zero⟩ := rfl
  have forging := Round.forge_of turn (placed.previousFor sound) known ⟨1⟩
  unfold inFlight
  exact traded.call_forged checked forging rfl named

theorem inFlight_conserved : Traded .standard inFlight ∧ inFlight.pending .standard = 500 ∧
    inFlight.held + 500 + Params.standard.transactionFee.raw = 10000000 := by
  obtain ⟨_, pending, sends, changes, delegates, opened⟩ := inFlight_seen
  have conserved := inFlight_traded.conserved.2
  rw [pending, sends, changes, delegates, opened] at conserved
  simp only [Nat.mul_one, Nat.mul_zero, Nat.add_zero] at conserved
  exact ⟨inFlight_traded, pending, conserved⟩

end BlockLattice.Ledger
