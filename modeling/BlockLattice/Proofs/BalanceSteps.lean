import BlockLattice.Proofs.Checking
import BlockLattice.Proofs.Forging

namespace BlockLattice

namespace Ledger

def Named (l : Ledger) : Prop := ∀ id k b, l.blockAt? id k = some b → b.hash ≠ .zero

theorem Sound.named_of_missing {l : Ledger} (sound : l.Sound) (missing : l.index.contains .zero = false) :
    l.Named := by
  intro id k b found zero
  have placed : l.position? .zero = some ⟨id, k⟩ := sound.indexed.mpr ⟨b, found, zero⟩
  rw [Std.ExtTreeMap.contains_eq_isSome_getElem?] at missing
  rw [position?] at placed
  rw [placed] at missing
  cases missing

def Grows (l l' : Ledger) : Prop := ∀ id k b, l.blockAt? id k = some b → l'.blockAt? id k = some b

theorem Grows.of_same {l l' : Ledger} (same : ∀ id k, l'.blockAt? id k = l.blockAt? id k) : l.Grows l' := by
  intro id k b found
  rw [same]
  exact found

theorem Grows.trans {l₁ l₂ l₃ : Ledger} (first : l₁.Grows l₂) (second : l₂.Grows l₃) : l₁.Grows l₃ := by
  intro id k b found
  exact second id k b (first id k b found)

theorem Grows.named {l l' : Ledger} (grows : l.Grows l') (named : l'.Named) : l.Named := by
  intro id k b found
  exact named id k b (grows id k b found)

theorem grows_place (l : Ledger) (id : AccountId) (b : Block) : l.Grows (l.place id b) := by
  intro j k x found
  exact blockAt?_place_eq_some.mpr (.inr found)

-- The send named `source` took `amount` and the fee from its account.
def Took (l : Ledger) (p : Params) (source : BlockHash) (amount : Nat) : Prop :=
  ∃ j m before send, l.blockAt? j m = some before ∧ l.blockAt? j (m + 1) = some send ∧ send.hash = source ∧
    before.balance.raw = send.balance.raw + (amount + p.transactionFee.raw)

theorem Took.mono {l l' : Ledger} {p : Params} {source : BlockHash} {amount : Nat} (grows : l.Grows l')
    (took : l.Took p source amount) : l'.Took p source amount := by
  obtain ⟨j, m, before, send, earlier, found, named, moved⟩ := took
  exact ⟨j, m, before, send, grows _ _ _ earlier, grows _ _ _ found, named, moved⟩

theorem Sound.preceded {l : Ledger} (sound : l.Sound) {id : AccountId} {k : Nat} {b : Block}
    (found : l.blockAt? id k = some b) (later : b.isOpening = false) :
    ∃ m a, k = m + 1 ∧ l.blockAt? id m = some a ∧ b.previous = a.hash := by
  obtain ⟨c, held, stored⟩ := blockAt?_eq_some.mp found
  cases k with
  | zero =>
    obtain ⟨balance, time, first, begun, content⟩ := (sound.opened held).first
    rw [begun] at stored
    cases stored
    rw [Block.isOpening, content] at later
    cases later
  | succ m =>
    obtain ⟨a, before, follows⟩ := (sound.opened held).linked stored
    exact ⟨m, a, rfl, blockAt?_eq_some.mpr ⟨c, held, before⟩, follows⟩

theorem isOpening_of_destination {b : Block} {d : AccountId} (sends : b.destination? = some d) :
    b.isOpening = false := by
  unfold Block.destination? at sends
  unfold Block.isOpening
  cases content : b.content <;> rw [content] at sends <;> first | rfl | cases sends

theorem Receivable.took {l : Ledger} {p : Params} {id : AccountId} {source : BlockHash} {amount : Amount}
    (receivable : l.Receivable p id source amount) (sound : l.Sound) : l.Took p source amount.raw := by
  obtain ⟨send, before, found, sends, earlier, moved⟩ := receivable.moved
  obtain ⟨j, k, stands, named⟩ := sound.block?_eq_some.mp found
  obtain ⟨m, a, rfl, preceding, follows⟩ := sound.preceded stands (isOpening_of_destination sends)
  obtain ⟨i, h, standing, same⟩ := sound.block?_eq_some.mp earlier
  obtain ⟨rfl, rfl⟩ := sound.unique preceding standing (by rw [same, follows])
  rw [preceding] at standing
  cases standing
  exact ⟨j, m, before, send, preceding, stands, named, moved⟩

-- The balance that a block on top of `before` may leave. What a send takes is
-- told by the block that receives it.
def Step (l : Ledger) (p : Params) (before : Nat) : Content → Prop
  | .opening .. => False
  | .send .. => True
  | .receive balance _ source _ =>
    (source = .zero ∧ before < balance.raw) ∨
      (source ≠ .zero ∧ ∃ amount, l.Took p source amount ∧ balance.raw = before + amount)
  | .change balance .. => before = balance.raw + p.changeCost.raw
  | .delegate balance .. => before = balance.raw + p.delegateCost.raw

theorem Step.mono {l l' : Ledger} {p : Params} {before : Nat} {content : Content} (grows : l.Grows l')
    (step : l.Step p before content) : l'.Step p before content := by
  cases content with
  | receive balance previous source time =>
    rcases step with reward | ⟨some, amount, took, risen⟩
    · exact .inl reward
    · exact .inr ⟨some, amount, took.mono grows, risen⟩
  | _ => exact step

-- The balance that a block of a client may leave: a send takes its amount and the
-- fee, and what is received was sent.
def Fair (l : Ledger) (p : Params) (before : Nat) : Content → Prop
  | .opening .. => False
  | .send balance .. => ∃ amount, before = balance.raw + (amount + p.transactionFee.raw)
  | .receive balance _ source _ =>
    source ≠ .zero ∧ ∃ amount, l.Took p source amount ∧ balance.raw = before + amount
  | .change balance .. => before = balance.raw + p.changeCost.raw
  | .delegate balance .. => before = balance.raw + p.delegateCost.raw

theorem Fair.step {l : Ledger} {p : Params} {before : Nat} {content : Content} (fair : l.Fair p before content) :
    l.Step p before content := by
  cases content with
  | send balance destination previous time => trivial
  | receive balance previous source time => exact .inr fair
  | _ => exact fair

theorem Fair.imp {l l' : Ledger} {p : Params} {before : Nat} {content : Content} (fair : l.Fair p before content)
    (kept : ∀ source amount, content.source? = some source → l.Took p source amount → l'.Took p source amount) :
    l'.Fair p before content := by
  cases content with
  | receive balance previous source time =>
    obtain ⟨some, amount, took, risen⟩ := fair
    exact ⟨some, amount, kept source amount (if_neg some) took, risen⟩
  | _ => exact fair

theorem Settles.charged {p : Params} {before : Nat} {bp : Blueprint} (settles : Settles p before bp)
    (still : movesValue bp.payload = false) (later : bp.payload ≠ .opening) :
    before = bp.balance.raw + (bp.payload.cost p).raw := by
  have other : ∀ source, bp.payload ≠ .receive source := by
    intro source receives
    rw [receives] at still
    cases still
  have paid := settles.pays other later
  rw [settles.still still, Nat.zero_add] at paid
  exact paid

section Checked

variable {l : Ledger} {p : Params} {id : AccountId} {bp : Blueprint} {previous : BlockHash}

theorem settles_of_check (checked : l.check p id bp = .ok ()) (follows : Round.previousFor l id bp = .ok previous) :
    Settles p (l.balance id) bp := by
  apply (check_ok checked).settles
  rcases Round.previousFor_ok follows with ⟨opens, start, _⟩ | ⟨other, builds⟩
  · simp [opens, start]
  · simp [other, builds]

theorem bare_of_check (checked : l.check p id bp = .ok ()) (follows : Round.previousFor l id bp = .ok previous) :
    l.latest? id = none ↔ bp.payload = .opening := by
  rcases Round.previousFor_ok follows with ⟨opens, start, _⟩ | ⟨other, builds⟩
  · rcases (check_ok checked).builds with ⟨_, bare⟩ | ⟨b, later, _⟩
    · simp [opens, bare]
    · rw [start] at later
      cases later
  · rcases (check_ok checked).builds with ⟨start, _⟩ | ⟨b, _, last⟩
    · rw [builds] at start
      cases start
    · simp [other, last]

theorem Sound.fair_of_check (sound : l.Sound) (named : l.Named) (checked : l.check p id bp = .ok ())
    (follows : Round.previousFor l id bp = .ok previous) (later : bp.payload ≠ .opening) (time : Timestamp) :
    l.Fair p (l.balance id) (bp.content id previous time) := by
  have admits := check_ok checked
  have settles := settles_of_check checked follows
  rw [Blueprint.content]
  cases payload : bp.payload with
  | opening => exact absurd payload later
  | send destination =>
    have paid := settles.pays (by simp [payload]) later
    rw [payload] at paid
    exact ⟨bp.amount.raw, paid⟩
  | receive source =>
    cases source with
    | none => exact absurd payload admits.unrewarded
    | some source =>
      have receivable := checkPayload_receive_ok payload admits.allowed
      obtain ⟨send, _, found, _⟩ := receivable.moved
      obtain ⟨j, k, stands, same⟩ := sound.block?_eq_some.mp found
      refine ⟨?_, bp.amount.raw, receivable.took sound, settles.earns _ payload⟩
      rw [Option.getD_some, ← same]
      exact named j k send stands
  | change changes =>
    have paid := settles.charged (by rw [payload]; rfl) later
    rw [payload] at paid
    exact paid
  | delegate share =>
    have paid := settles.charged (by rw [payload]; rfl) later
    rw [payload] at paid
    exact paid

end Checked

theorem next_place {l : Ledger} {id j : AccountId} {b a x : Block} {k : Nat}
    (before : (l.place id b).blockAt? j k = some a) (found : (l.place id b).blockAt? j (k + 1) = some x) :
    (l.latest? id = some a ∧ x = b) ∨ (l.blockAt? j k = some a ∧ l.blockAt? j (k + 1) = some x) := by
  rcases blockAt?_place_eq_some.mp found with ⟨rfl, height, rfl⟩ | old
  · rcases blockAt?_place_eq_some.mp before with ⟨_, top, _⟩ | under
    · omega
    · refine .inl ⟨?_, rfl⟩
      rw [latest?_eq_some, ← height]
      exact under
  · rcases blockAt?_place_eq_some.mp before with ⟨rfl, top, rfl⟩ | under
    · -- No block stands above the end of a chain.
      obtain ⟨c, held, stored⟩ := blockAt?_eq_some.mp old
      rw [top, chainOf_of_chain? held] at stored
      have beyond := (List.getElem?_eq_some_iff.mp stored).1
      simp only [Chain.length] at beyond
      omega
    · exact .inr ⟨under, old⟩

-- Every account but the first starts with nothing, and every block but the
-- first three of the first account steps as its kind does. Those three receive
-- nothing.
structure Stepped (l : Ledger) (p : Params) (genesis : AccountId) : Prop where
  opens : ∀ {id b}, l.blockAt? id 0 = some b → id ≠ genesis → b.balance = .zero
  steps : ∀ {id k a b}, l.blockAt? id k = some a → l.blockAt? id (k + 1) = some b →
    (id = genesis ∧ k < 2 ∧ b.source? = none) ∨ l.Step p a.balance.raw b.content

theorem Stepped.of_same {l l' : Ledger} {p : Params} {genesis : AccountId}
    (same : ∀ id k, l'.blockAt? id k = l.blockAt? id k) (stepped : l.Stepped p genesis) : l'.Stepped p genesis := by
  refine ⟨?_, ?_⟩
  · intro id b found
    rw [same] at found
    exact stepped.opens found
  · intro id k a b before found
    rw [same] at before found
    rcases stepped.steps before found with founding | step
    · exact .inl founding
    · exact .inr (step.mono (.of_same same))

theorem Stepped.place {l : Ledger} {p : Params} {genesis id : AccountId} {b : Block} (stepped : l.Stepped p genesis)
    (first : l.latest? id = none → b.balance = .zero)
    (next : ∀ a, l.latest? id = some a → l.Step p a.balance.raw b.content) : (l.place id b).Stepped p genesis := by
  have grows := l.grows_place id b
  refine ⟨?_, ?_⟩
  · intro j x found other
    rcases blockAt?_place_eq_some.mp found with ⟨rfl, start, rfl⟩ | old
    · apply first
      rw [latest?, Option.eq_none_iff_forall_ne_some]
      intro a last
      have top := latest?_eq_some.mp last
      rw [← start, Nat.zero_sub, start, blockAt?_end] at top
      cases top
    · exact stepped.opens old other
  · intro j k a x before found
    rcases next_place before found with ⟨last, rfl⟩ | ⟨under, old⟩
    · exact .inr ((next a last).mono grows)
    · rcases stepped.steps under old with founding | step
      · exact .inl founding
      · exact .inr (step.mono grows)

end Ledger

namespace Node

variable {origin : Origin} {r : Request} {n n' : Node} {f : Forged} {previous : BlockHash} {block : Block}

theorem Lands.grows (lands : Lands origin r n f previous block n') : n.ledger.Grows n'.ledger := by
  intro id k b found
  rw [lands.ledger, Ledger.blockAt?_affect]
  exact n.ledger.grows_place _ _ id k b found

theorem Lands.blockAt? (lands : Lands origin r n f previous block n') (id : AccountId) (k : Nat) :
    n'.ledger.blockAt? id k = (n.ledger.place r.account block).blockAt? id k := by
  rw [lands.ledger, Ledger.blockAt?_affect]

theorem Lands.balance_eq (lands : Lands origin r n f previous block n') : block.balance = r.blueprint.balance := by
  rw [Block.balance, lands.content, Blueprint.content]
  cases r.blueprint.payload <;> rfl

theorem Lands.settles (lands : Lands .client r n f previous block n') :
    Ledger.Settles n.params (n.ledger.balance r.account) r.blueprint :=
  Ledger.settles_of_check lands.checked lands.follows

theorem Lands.admits (lands : Lands .client r n f previous block n') :
    n.ledger.Admits n.params r.account r.blueprint := Ledger.check_ok lands.checked

theorem Lands.bare_iff (lands : Lands .client r n f previous block n') :
    n.ledger.latest? r.account = none ↔ r.blueprint.payload = .opening :=
  Ledger.bare_of_check lands.checked lands.follows

theorem Lands.raises (lands : Lands .reward r n f previous block n') :
    r.blueprint.payload = .receive none ∧ (∃ b, n.ledger.latest? r.account = some b) ∧
      r.blueprint.balance.raw = n.ledger.balance r.account + r.blueprint.amount.raw := by
  obtain ⟨reward, ⟨b, _, last⟩, raised⟩ := Ledger.checkReward_ok lands.checked
  exact ⟨reward, ⟨b, last⟩, raised⟩

theorem Lands.step (lands : Lands .client r n f previous block n') (sound : n.ledger.Sound) (named : n.ledger.Named)
    (later : r.blueprint.payload ≠ .opening) :
    n.ledger.Step n.params (n.ledger.balance r.account) block.content := by
  rw [lands.content]
  exact (sound.fair_of_check named lands.checked lands.follows later n.clock.now).step

theorem Lands.stepped {genesis : AccountId} (lands : Lands origin r n f previous block n') (sound : n.ledger.Sound)
    (named : n.ledger.Named) (gains : origin = .reward → 0 < r.blueprint.amount.raw)
    (stepped : n.ledger.Stepped n.params genesis) : n'.ledger.Stepped n'.params genesis := by
  rw [lands.params]
  apply Ledger.Stepped.of_same lands.blockAt?
  apply stepped.place
  · intro bare
    cases origin with
    | client =>
      rw [lands.balance_eq]
      exact lands.settles.opens (lands.bare_iff.mp bare)
    | reward =>
      obtain ⟨_, ⟨b, last⟩, _⟩ := lands.raises
      rw [bare] at last
      cases last
  · intro a last
    rw [← Ledger.balance_of_latest last]
    cases origin with
    | client =>
      apply lands.step sound named
      intro opens
      rw [lands.bare_iff.mpr opens] at last
      cases last
    | reward =>
      obtain ⟨reward, _, raised⟩ := lands.raises
      have gained := gains rfl
      rw [lands.content, Blueprint.content, reward]
      refine .inl ⟨rfl, ?_⟩
      omega

end Node
end BlockLattice
