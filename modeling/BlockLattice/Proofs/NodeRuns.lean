import BlockLattice.Proofs.NodeActions

namespace BlockLattice.Node

inductive Operation where
  | process (r : Request)
  | openAccountWithKeys (keys : KeyPair) (username : String)
  | openAccount (username : String)
  | transfer (source destination : AccountId) (amount : Amount)
  | registerDelegate (id : AccountId) (percent : Float)
  | elect (id : AccountId) (tokens : List String)
  | payout (forger : AccountId) (reward : Amount)
  | bootstrap (genesis : AccountId) (count : Nat)
  | nextForger
  -- Between two operations the clock may be replaced by any other.
  | tick (clock : Clock)

def operate (n : Node) : Operation → Node
  | .process r => (n.perform (process r)).2
  | .openAccountWithKeys keys username => (n.perform (openAccountWithKeys keys username)).2
  | .openAccount username => (n.perform (openAccount username)).2
  | .transfer source destination amount => (n.perform (transfer source destination amount)).2
  | .registerDelegate id percent => (n.perform (registerDelegate id percent)).2
  | .elect id tokens => (n.perform (elect id tokens)).2
  | .payout forger reward => (n.carryOut (payout forger reward)).2
  | .bootstrap genesis count => (n.perform (bootstrap genesis count)).2
  | .nextForger => n.nextForger.2
  | .tick clock => { n with clock := clock }

inductive Reached (genesis : AccountId) : Node → Prop where
  | started {p : Params} {clock : Clock} {source : KeySource} {keys : KeyPair} {username : String} {n : Node} :
      (Node.new p clock source).perform (openGenesis keys username) = (.ok genesis, n) → Reached genesis n
  | operated {n : Node} : Reached genesis n → (op : Operation) → Reached genesis (n.operate op)

def ended : α × Node → Node
  | (_, n) => n

theorem operate_process (n : Node) (r : Request) : n.operate (.process r) = ended (n.perform (process r)) := rfl

def ticking : Clock := ⟨fun k => ⟨.ofNat (5 + k)⟩, 0⟩

-- The least network: a first account under the standard parameters, alone.
@[irreducible] def birth : Except NodeError AccountId × Node :=
  (Node.new .standard ticking ⟨fun _ => ⟨3⟩, 0⟩).perform (openGenesis (.ofPrivate ⟨1⟩) "first")

def lone : Node := ended birth

def loneId : AccountId := (Account.new (.ofPrivate ⟨1⟩)).id

def isNamed (id : AccountId) : Except NodeError AccountId × Node → Bool
  | (.ok named, _) => named = id
  | (.error _, _) => false

set_option maxRecDepth 100000 in
theorem birth_named : isNamed loneId birth = true := by decide +kernel

theorem lone_born : (Node.new .standard ticking ⟨fun _ => ⟨3⟩, 0⟩).perform (openGenesis (.ofPrivate ⟨1⟩) "first") =
    (.ok loneId, lone) := by
  have named := birth_named
  rw [lone]
  cases born : birth with
  | mk result n =>
    rw [born] at named
    cases result with
    | error e => cases named
    | ok id =>
      have same : id = loneId := of_decide_eq_true named
      rw [ended, ← same]
      unfold birth at born
      exact born

theorem lone_reached : Reached loneId lone := .started lone_born

def selfSend : Request :=
  ⟨loneId, ⟨(lone.ledger.latest? loneId).map Block.hash, .clamp 99999999899500, .clamp 500, .send loneId⟩⟩

@[irreducible] def trade : Except NodeError Outcome × Node := lone.perform (process selfSend)

def traded : Node := ended trade

def isTrade : Except NodeError Outcome × Node → Bool
  | (.ok o, n) => o.credits.length == 1 && !n.ledger.index.contains .zero &&
    ((n.ledger.chain? loneId).bind fun c => c.get? 3).bind Block.destination? == some loneId
  | (.error _, _) => false

set_option maxRecDepth 100000 in
theorem trade_seen : isTrade trade = true := by decide +kernel

theorem trade_served : ∃ o, lone.perform (process selfSend) = (.ok o, traded) ∧ o.credits.length = 1 ∧
    traded.ledger.index.contains .zero = false ∧
    (((traded.ledger.chain? loneId).bind fun c => c.get? 3).bind Block.destination?) = some loneId := by
  have seen := trade_seen
  rw [traded]
  unfold trade at seen ⊢
  cases ran : lone.perform (process selfSend) with
  | mk result n =>
    rw [ran] at seen
    cases result with
    | error e => cases seen
    | ok o =>
      simp only [isTrade, Bool.and_eq_true, beq_iff_eq, Bool.not_eq_eq_eq_not, Bool.not_true] at seen
      exact ⟨o, rfl, seen.1.1, seen.1.2, seen.2⟩

theorem traded_reached : Reached loneId traded := by
  have reached := lone_reached.operated (.process selfSend)
  rw [operate_process] at reached
  rw [traded, trade]
  exact reached

def wish (id : AccountId) (make : Params → Account → Block → Except ValidationError Blueprint) : Action Outcome := do
  let a ← account id
  let previous ← tip id
  let blueprint ← raise .validation (make (← get).params a previous)
  process ⟨id, blueprint⟩

theorem transfer_eq (source destination : AccountId) (amount : Amount) :
    transfer source destination amount =
      wish source fun p a previous => a.sendBlueprint p amount destination previous := rfl

theorem registerDelegate_eq (id : AccountId) (percent : Float) :
    registerDelegate id percent = wish id fun p a previous => a.delegateBlueprint p previous percent := rfl

namespace Within

variable {R : Node → Node → Prop} {id : AccountId}

theorem wish (path : Path R) (serves : ∀ bp, Within R (process ⟨id, bp⟩))
    (make : Params → Account → Block → Except ValidationError Blueprint) : Within R (wish id make) := by
  refine .bind path (.account path _) fun a => ?_
  refine .bind path (.tip path _) fun previous => ?_
  refine .bind path (.get path) fun n => ?_
  refine .bind path (.raise path _ _) fun blueprint => ?_
  exact serves _

theorem electChunk (path : Path R) (serves : ∀ bp, Within R (process ⟨id, bp⟩)) (tokens : List String) :
    Within R (electChunk id tokens) := by
  refine .bind path (.account path _) fun a => ?_
  refine .bind path (.get path) fun n => ?_
  dsimp only
  split
  · exact .pure path _
  · refine .bind path (.tip path _) fun previous => ?_
    refine .bind path (.raise path _ _) fun blueprint => ?_
    exact .bind path (serves _) fun outcome => .pure path _

theorem electChunks (path : Path R) (serves : ∀ bp, Within R (process ⟨id, bp⟩)) (chunks : List (List String)) :
    Within R (electChunks id chunks) := by
  induction chunks with
  | nil => exact .pure path _
  | cons chunk rest ih =>
    refine .bind path (electChunk path serves chunk) fun outcome => ?_
    exact .bind path ih fun outcomes => .pure path _

theorem elect (path : Path R) (serves : ∀ bp, Within R (process ⟨id, bp⟩)) (tokens : List String) :
    Within R (elect id tokens) := by
  refine .bind path (.account path _) fun a => ?_
  refine .bind path (.get path) fun n => ?_
  refine .bind path (.raise path _ _) fun _ => ?_
  exact electChunks path serves _

end Within

-- What clients ask of a node is made of five things: serving a request, opening an
-- account, electing, drawing keys and the passing of time. What all of these stay
-- within, every operation but a payout stays within.
structure Asks (R : Node → Node → Prop) : Prop where
  path : Path R
  process : ∀ r, Within R (process r)
  openAccountWithKeys : ∀ keys username, Within R (openAccountWithKeys keys username)
  refresh : ∀ n, R n n.refreshRound
  draw : ∀ n : Node, ∀ rest, R n { n with keys := rest }
  tick : ∀ n : Node, ∀ clock, R n { n with clock := clock }

structure Contains (R : Node → Node → Prop) : Prop extends Asks R where
  payout : ∀ forger reward, TaskWithin R (payout forger reward)

def Operation.isPayout : Operation → Bool
  | .payout _ _ => true
  | _ => false

theorem Operation.isPayout_iff {op : Operation} : op.isPayout = true ↔ ∃ forger reward, op = .payout forger reward := by
  cases op <;> simp [isPayout]

namespace Asks

variable {R : Node → Node → Prop}

theorem openAccount (inside : Asks R) (username : String) : Within R (openAccount username) := by
  refine .bind inside.path (fun n => ?_) fun keys => inside.openAccountWithKeys keys username
  exact inside.draw n n.keys.draw.2

theorem wish (inside : Asks R) (id : AccountId)
    (make : Params → Account → Block → Except ValidationError Blueprint) : Within R (wish id make) :=
  .wish inside.path (fun _ => inside.process _) make

theorem transfer (inside : Asks R) (source destination : AccountId) (amount : Amount) :
    Within R (transfer source destination amount) := by
  rw [transfer_eq]
  exact inside.wish _ _

theorem registerDelegate (inside : Asks R) (id : AccountId) (percent : Float) :
    Within R (registerDelegate id percent) := by
  rw [registerDelegate_eq]
  exact inside.wish _ _

theorem electChunk (inside : Asks R) (id : AccountId) (tokens : List String) : Within R (electChunk id tokens) :=
  .electChunk inside.path (fun _ => inside.process _) tokens

theorem electChunks (inside : Asks R) (id : AccountId) (chunks : List (List String)) :
    Within R (electChunks id chunks) :=
  .electChunks inside.path (fun _ => inside.process _) chunks

theorem elect (inside : Asks R) (id : AccountId) (tokens : List String) : Within R (elect id tokens) :=
  .elect inside.path (fun _ => inside.process _) tokens

theorem bringUp (inside : Asks R) (genesis : AccountId) (username : String) (funding : Amount) :
    Within R (bringUp genesis username funding) := by
  refine .bind inside.path (inside.openAccount username) fun id => ?_
  refine .bind inside.path (inside.transfer genesis id funding) fun _ => ?_
  refine .bind inside.path (inside.registerDelegate id _) fun _ => ?_
  exact .bind inside.path (inside.elect id _) fun _ => .pure inside.path _

theorem bringUpFrom (inside : Asks R) (genesis : AccountId) (funding : Amount) (first count : Nat) :
    TaskWithin R (bringUpFrom genesis funding first count) := by
  induction count generalizing first with
  | zero => exact .pure inside.path _
  | succ count ih =>
    refine .bind inside.path (.run (inside.bringUp genesis _ funding)) fun result => ?_
    exact .bind inside.path (ih (first + 1)) fun others => .pure inside.path _

theorem bootstrap (inside : Asks R) (genesis : AccountId) (count : Nat) : Within R (bootstrap genesis count) := by
  refine .bind inside.path (.get inside.path) fun n => ?_
  split
  · exact .pure inside.path _
  · split
    · exact .task (inside.bringUpFrom genesis _ 1 count)
    · exact .throw inside.path _

theorem operate (inside : Asks R) (n : Node) {op : Operation} (other : op.isPayout = false) : R n (n.operate op) := by
  cases op with
  | process r => exact inside.process r n
  | openAccountWithKeys keys username => exact inside.openAccountWithKeys keys username n
  | openAccount username => exact inside.openAccount username n
  | transfer source destination amount => exact inside.transfer source destination amount n
  | registerDelegate id percent => exact inside.registerDelegate id percent n
  | elect id tokens => exact inside.elect id tokens n
  | payout forger reward => cases other
  | bootstrap genesis count => exact inside.bootstrap genesis count n
  | nextForger => exact inside.refresh n
  | tick clock => exact inside.tick n clock

end Asks

namespace Contains

variable {R : Node → Node → Prop}

theorem operate (inside : Contains R) (n : Node) (op : Operation) : R n (n.operate op) := by
  cases paid : op.isPayout with
  | false => exact inside.toAsks.operate n paid
  | true =>
    obtain ⟨forger, reward, rfl⟩ := Operation.isPayout_iff.mp paid
    exact inside.payout forger reward n

theorem run (inside : Contains R) (n : Node) (ops : List Operation) : R n (ops.foldl Node.operate n) := by
  induction ops generalizing n with
  | nil => exact inside.path.stay n
  | cons op rest ih => exact inside.path.join (inside.operate n op) (ih (n.operate op))

end Contains

theorem Reached.run {genesis : AccountId} {n : Node} (reached : Reached genesis n) (ops : List Operation) :
    Reached genesis (ops.foldl operate n) := by
  induction ops generalizing n with
  | nil => exact reached
  | cons op rest ih => exact ih (reached.operated op)

end BlockLattice.Node
