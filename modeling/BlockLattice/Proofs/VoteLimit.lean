import BlockLattice.Proofs.AccountHistory

namespace BlockLattice

namespace Election

theorem isAdd_of_parse {l : Ledger} {token : String} {d : AccountId} (parsed : parseToken? l token = some (.add d)) :
    isAdd token = true := by
  unfold parseToken? at parsed
  split at parsed
  · rename_i sign name characters
    split at parsed
    · cases parsed
    · rename_i named
      obtain ⟨id, _, chosen⟩ := Option.bind_eq_some_iff.mp parsed
      split at chosen
      · rename_i plus
        subst plus
        cases name with
        | nil => exact absurd rfl named
        | cons c rest =>
          rw [isAdd, characters]
          rfl
      · split at chosen <;> cases chosen
  · cases parsed

theorem size_plan_le (l : Ledger) (votes : VoteSet) (tokens : List String) :
    (VoteSet.apply votes (plan l votes tokens)).size ≤ votes.size + (tokens.filter isAdd).length := by
  induction tokens generalizing votes with
  | nil => exact Nat.le_refl _
  | cons token rest ih =>
    have skips : (rest.filter isAdd).length ≤ ((token :: rest).filter isAdd).length :=
      ((List.sublist_cons_self token rest).filter isAdd).length_le
    rw [plan]
    cases parsed : parseToken? l token with
    | none => exact Nat.le_trans (ih votes) (Nat.add_le_add_left skips _)
    | some c =>
      dsimp only
      split
      · have later := ih (votes.change c)
        rw [VoteSet.apply, List.foldl_cons, ← VoteSet.apply]
        cases c with
        | add d =>
          have grown : (votes.change (.add d)).size ≤ votes.size + 1 := Std.ExtTreeSet.size_insert_le
          rw [List.filter_cons, if_pos (isAdd_of_parse parsed), List.length_cons]
          omega
        | remove d =>
          have fewer : (votes.change (.remove d)).size ≤ votes.size := Std.ExtTreeSet.size_erase_le
          omega
      · exact Nat.le_trans (ih votes) (Nat.add_le_add_left skips _)

theorem flatten_pieces {size : Nat} (some : 0 < size) {fuel : Nat} {items : List α} (enough : items.length ≤ fuel) :
    (pieces size fuel items).flatten = items := by
  induction fuel generalizing items with
  | zero =>
    rw [List.length_eq_zero_iff.mp (Nat.le_zero.mp enough)]
    rfl
  | succ fuel ih =>
    rw [pieces]
    split
    · rename_i empty
      rw [List.isEmpty_iff.mp empty]
      rfl
    · have fewer : (items.drop size).length ≤ fuel := by
        rw [List.length_drop]
        omega
      rw [List.flatten_cons, ih fewer, List.take_append_drop]

theorem chunks_perm (p : Params) (tokens : List String) : (chunks p tokens).flatten.Perm tokens := by
  have whole := flatten_pieces (Nat.lt_of_lt_of_le Nat.zero_lt_one (Nat.le_max_left 1 p.maxDelegatesPerBlock.toNat))
    (Nat.le_refl tokens.length)
  have turned := (List.reverse_perm (pieces (Nat.max 1 p.maxDelegatesPerBlock.toNat) tokens.length tokens)).flatten
  rw [whole] at turned
  exact turned

theorem adds_le {p : Params} {tokens chunk : List String} {done rest : List (List String)}
    (split : chunks p tokens = done ++ chunk :: rest) :
    (done.flatten.filter isAdd).length + (chunk.filter isAdd).length ≤ (tokens.filter isAdd).length := by
  have whole := ((chunks_perm p tokens).filter isAdd).length_eq
  rw [split, List.flatten_append, List.flatten_cons] at whole
  simp only [List.filter_append, List.length_append] at whole
  omega

end Election

def Payload.changes : Payload → List VoteChange
  | .change changes => changes
  | _ => []

namespace Ledger

theorem votesOf_affect {l : Ledger} {id : AccountId} {a : Account} (known : l.account? id = some a) (payload : Payload)
    (j : AccountId) : (l.affect id payload).votesOf j =
      if id = j then VoteSet.apply (l.votesOf j) payload.changes else l.votesOf j := by
  have affected := l.account?_affect id payload j
  unfold votesOf
  rw [affected]
  by_cases same : id = j
  · subst same
    rw [if_pos rfl, if_pos rfl, known]
    cases payload <;> rfl
  · rw [if_neg same, if_neg same]

theorem tipBalance_unlimited {l : Ledger} {id : AccountId} {bp : Blueprint} {count limit : Nat} :
    l.tipBalance id bp ≠ .error (.tooManyDelegates count limit) := by
  unfold tipBalance
  split
  · simp
  · split
    · simp
    · simp
    · simp
    · split <;> simp

theorem checkBalance_unlimited {p : Params} {tip : Option Amount} {bp : Blueprint} {changes : List VoteChange}
    {count limit : Nat} (votes : bp.payload = .change changes) :
    checkBalance p tip bp ≠ .error (.tooManyDelegates count limit) := by
  intro refused
  unfold checkBalance balanceAfter debit at refused
  rw [votes] at refused
  split at refused
  · cases refused
  · cases paid : (tip.getD .zero).checkedSub p.changeCost with
    | none =>
      rw [paid] at refused
      cases refused
    | some left =>
      rw [paid] at refused
      simp only [bind, Except.bind] at refused
      split at refused
      · cases refused
      · split at refused <;> cases refused

theorem check_limit {l : Ledger} {p : Params} {id : AccountId} {bp : Blueprint} {changes : List VoteChange}
    {count limit : Nat} (votes : bp.payload = .change changes)
    (refused : l.check p id bp = .error (.tooManyDelegates count limit)) :
    limit = p.maxDelegatesPerAccount.toNat ∧ count = (VoteSet.apply (l.votesOf id) changes).size ∧ limit < count := by
  unfold check at refused
  rw [if_neg (by simp [votes])] at refused
  cases found : l.tipBalance id bp with
  | error cause =>
    rw [found] at refused
    cases refused
    exact absurd found tipBalance_unlimited
  | ok tip =>
    rw [found] at refused
    cases allowed : l.checkPayload p id bp with
    | ok _ =>
      rw [allowed] at refused
      exact absurd refused (checkBalance_unlimited votes)
    | error cause =>
      rw [allowed] at refused
      cases refused
      unfold checkPayload checkVotes at allowed
      rw [votes] at allowed
      dsimp only at allowed
      split at allowed
      · cases allowed
      · split at allowed
        · cases allowed
        · split at allowed
          · rename_i above
            cases allowed
            exact ⟨rfl, rfl, above⟩
          · cases allowed

end Ledger

theorem Account.changeBlueprint_ok {a : Account} {p : Params} {changes : List VoteChange} {tip : Block} {bp : Blueprint}
    (made : a.changeBlueprint p changes tip = .ok bp) : bp.payload = .change changes := by
  unfold changeBlueprint at made
  cases checked : a.checkTip tip with
  | error e => rw [checked] at made; cases made
  | ok _ =>
    rw [checked] at made
    simp only [bind, Except.bind, pure, Except.pure] at made
    split at made
    · cases made
    · split at made
      · cases made
      · cases made
        rfl

def NodeError.isVoteLimit : NodeError → Bool
  | .validation (.tooManyDelegates ..) => true
  | .ledger (.tooManyDelegates ..) => true
  | _ => false

theorem Account.changeBlueprint_unlimited {a : Account} {p : Params} {changes : List VoteChange} {tip : Block}
    {cause : ValidationError} (refused : a.changeBlueprint p changes tip = .error cause) :
    (NodeError.validation cause).isVoteLimit = false := by
  unfold changeBlueprint checkTip debit at refused
  split at refused
  · simp only [bind, Except.bind, pure, Except.pure] at refused
    split at refused
    · cases refused
      rfl
    · split at refused
      · rename_i unpaid
        split at unpaid <;> cases unpaid
        cases refused
        rfl
      · cases refused
  · cases refused
    rfl

namespace Node

variable {n m n' : Node} {r : Request} {id : AccountId} {e : NodeError}

theorem Lands.votes {origin : Origin} {f : Forged} {previous : BlockHash} {block : Block}
    (lands : Lands origin r n f previous block n') (j : AccountId) : n'.ledger.votesOf j =
      if r.account = j then VoteSet.apply (n.ledger.votesOf j) r.blueprint.payload.changes
      else n.ledger.votesOf j := by
  obtain ⟨a, known, _⟩ := lands.owned
  have placed : (n.ledger.place r.account block).account? r.account = some a := known
  rw [lands.ledger, Ledger.votesOf_affect placed]
  rfl

def SameVotes (n n' : Node) : Prop := ∀ j, n'.ledger.votesOf j = n.ledger.votesOf j

theorem sameVotes_path : Path SameVotes where
  stay _ _ := rfl
  join first second j := (second j).trans (first j)

theorem Lands.sameVotes {origin : Origin} {f : Forged} {previous : BlockHash} {block : Block}
    (lands : Lands origin r n f previous block n') (still : r.blueprint.payload.changes = []) : SameVotes n n' := by
  intro j
  rw [lands.votes, still]
  split <;> rfl

theorem sameVotes_record (n : Node) (f : Forged) : SameVotes n (n.recordForged f) :=
  n.ledger.votesOf_modify f.forger fun _ => rfl

theorem sameVotes_disburses : Disburses SameVotes where
  path := sameVotes_path
  credits lands _ := by
    have reward := lands.raises.1
    apply lands.sameVotes
    rw [reward]
    rfl
  spares spares := spares.alike.votes
  record := sameVotes_record
  count _ _ _ := rfl

theorem process_votes {o : Outcome} (done : n.perform (process r) = (.ok o, n')) (j : AccountId) :
    n'.ledger.votesOf j =
      if r.account = j then VoteSet.apply (n.ledger.votesOf j) r.blueprint.payload.changes
      else n.ledger.votesOf j := by
  obtain ⟨f, landed, settled, served⟩ := process_ok done
  obtain ⟨previous, block, lands⟩ := forgeAndAppend_ok served.forged
  have settles : SameVotes landed settled := by
    rcases settlePayload_ok served.settles with ⟨destination, hash, _, _, settling⟩ | ⟨_, _, rfl⟩
    · obtain ⟨g, m, paired, _, rfl⟩ := settle_ok settling
      obtain ⟨bp, pairs, forged⟩ := pairReceive_ok paired
      obtain ⟨tip, receive, answers⟩ := forgeAndAppend_ok forged
      obtain ⟨source, _, receives⟩ := pairs.source
      exact sameVotes_path.join (answers.sameVotes (by rw [receives]; rfl)) (sameVotes_record m g)
    · exact sameVotes_path.stay _
  have counted := sameVotes_path.join settles (sameVotes_record settled f)
  have paid := sameVotes_path.join counted (sameVotes_disburses.payForger f (settled.recordForged f))
  rw [served.after, ledger_booked, paid, lands.votes]

theorem electChunk_ok {tokens : List String} {result : Option Outcome}
    (done : n.perform (electChunk id tokens) = (.ok result, n')) :
    ∃ a, n.ledger.account? id = some a ∧ ((result = none ∧ n' = n ∧ Election.planChunk n.ledger a tokens = []) ∨
      ∃ o bp, result = some o ∧ bp.payload = .change (Election.planChunk n.ledger a tokens) ∧
        n.perform (process ⟨id, bp⟩) = (.ok o, n') ∧ Election.planChunk n.ledger a tokens ≠ []) := by
  unfold electChunk at done
  obtain ⟨a, m, knowing, done⟩ := perform_bind_ok.mp done
  obtain ⟨known, rfl⟩ := perform_account_ok.mp knowing
  rw [perform_bind, perform_get] at done
  dsimp only at done
  refine ⟨a, known, ?_⟩
  split at done
  · rename_i nothing
    cases done
    exact .inl ⟨rfl, rfl, List.isEmpty_iff.mp nothing⟩
  · rename_i some
    obtain ⟨previous, m, tipping, done⟩ := perform_bind_ok.mp done
    obtain ⟨_, rfl⟩ := perform_tip_ok.mp tipping
    obtain ⟨bp, m, making, done⟩ := perform_bind_ok.mp done
    obtain ⟨made, rfl⟩ := perform_raise_ok.mp making
    obtain ⟨o, m, served, done⟩ := perform_bind_ok.mp done
    cases done
    exact .inr ⟨o, bp, rfl, Account.changeBlueprint_ok made, served, by simpa using some⟩

theorem electChunk_votes {tokens : List String} {result : Option Outcome}
    (done : n.perform (electChunk id tokens) = (.ok result, n')) :
    n'.ledger.votesOf id = VoteSet.apply (n.ledger.votesOf id) (Election.plan n.ledger (n.ledger.votesOf id) tokens) := by
  obtain ⟨a, known, ⟨_, rfl, nothing⟩ | ⟨o, bp, _, changes, served, _⟩⟩ := electChunk_ok done
  · rw [Ledger.votesOf_of_account known, ← Election.planChunk, nothing]
    rfl
  · rw [process_votes served, if_pos rfl, changes, Ledger.votesOf_of_account known]
    rfl

theorem electChunks_votes {chunks : List (List String)} {os : List Outcome}
    (done : n.perform (electChunks id chunks) = (.ok os, n')) :
    (n'.ledger.votesOf id).size ≤ (n.ledger.votesOf id).size + (chunks.flatten.filter Election.isAdd).length := by
  induction chunks generalizing n os with
  | nil =>
    cases done
    exact Nat.le_refl _
  | cons chunk rest ih =>
    obtain ⟨result, m, first, done⟩ := perform_bind_ok.mp done
    obtain ⟨others, m', later, done⟩ := perform_bind_ok.mp done
    cases done
    have step := Election.size_plan_le n.ledger (n.ledger.votesOf id) chunk
    rw [← electChunk_votes first] at step
    have run := ih later
    rw [List.flatten_cons, List.filter_append, List.length_append]
    omega

theorem electChunks_idle {chunks : List (List String)} (done : n.perform (electChunks id chunks) = (.ok [], n')) :
    n' = n := by
  induction chunks generalizing n with
  | nil =>
    cases done
    rfl
  | cons chunk rest ih =>
    obtain ⟨result, m, first, done⟩ := perform_bind_ok.mp done
    obtain ⟨others, m', later, done⟩ := perform_bind_ok.mp done
    cases result with
    | some o => cases done
    | none =>
      cases done
      obtain ⟨_, _, ⟨_, same, _⟩ | ⟨_, _, forged, _⟩⟩ := electChunk_ok first
      · rw [ih later, same]
      · cases forged

-- An election that fails splits into the chunks that went well, the one that
-- failed, and those that were not tried.
theorem electChunks_error {chunks : List (List String)} (refused : n.perform (electChunks id chunks) = (.error e, n')) :
    ∃ done chunk rest os m, chunks = done ++ chunk :: rest ∧ n.perform (electChunks id done) = (.ok os, m) ∧
      m.perform (electChunk id chunk) = (.error e, n') := by
  induction chunks generalizing n with
  | nil => cases refused
  | cons chunk rest ih =>
    rcases perform_bind_error.mp refused with failed | ⟨result, m, first, later⟩
    · exact ⟨[], chunk, rest, [], n, rfl, rfl, failed⟩
    · rcases perform_bind_error.mp later with failed | ⟨others, m', _, ending⟩
      · obtain ⟨done, next, left, os, m', rfl, went, stopped⟩ := ih failed
        refine ⟨chunk :: done, next, left, result.toList ++ os, m', rfl, ?_, stopped⟩
        exact perform_bind_ok.mpr ⟨result, m, first, perform_bind_ok.mpr ⟨os, m', went, rfl⟩⟩
      · cases ending

def Unlimited (e : NodeError) : Prop := e.isVoteLimit = false

theorem forgeAndAppend_checked {P : NodeError → Prop} (forging : ∀ e, P (.consensus e))
    (missing : ∀ id, P (.accountNotFound id)) (unsigned : ∀ signer, P (.signatureInvalid signer))
    (unplaced : ∀ {l : Ledger} {id b e}, l.append id b = .error e → P (.appendFailed e)) (barred : ¬ P e)
    (refused : n.perform (forgeAndAppend .client r) = (.error e, n')) :
    ∃ cause, n.ledger.check n.params r.account r.blueprint = .error cause ∧ e = .ledger cause ∧ n' = n := by
  unfold forgeAndAppend at refused
  rcases perform_bind_error.mp refused with checking | ⟨_, m, _, later⟩
  · rw [checkRequest, perform_bind, perform_get] at checking
    obtain ⟨⟨cause, failed, wrapped⟩, same⟩ := perform_raise_error.mp checking
    exact ⟨cause, failed, wrapped.symm, same.symm⟩
  · refine absurd (Fails.bind ?_ (fun forger => ?_) m e n' later) barred
    · exact .bind .get fun n => .bind (.set _) fun _ => .raise fun e _ => forging e
    · exact forging_fails (fun _ => forging _) missing unsigned unplaced forger r

theorem forgeAndAppend_limit (limited : e.isVoteLimit = true)
    (refused : n.perform (forgeAndAppend .client r) = (.error e, n')) :
    ∃ cause, n.ledger.check n.params r.account r.blueprint = .error cause ∧ e = .ledger cause ∧ n' = n :=
  forgeAndAppend_checked (P := Unlimited) (fun _ => rfl) (fun _ => rfl) (fun _ => rfl) (fun _ => rfl)
    (by simp [Unlimited, limited]) refused

theorem process_limit {changes : List VoteChange} (votes : r.blueprint.payload = .change changes)
    (limited : e.isVoteLimit = true) (refused : n.perform (process r) = (.error e, n')) :
    n' = n.booked false ∧ ∃ count, e = .ledger (.tooManyDelegates count n.params.maxDelegatesPerAccount.toNat) ∧
      count = (VoteSet.apply (n.ledger.votesOf r.account) changes).size ∧
      n.params.maxDelegatesPerAccount.toNat < count := by
  obtain ⟨m, after, unforged | ⟨f, landed, _, unsettled⟩⟩ := process_error refused
  · obtain ⟨cause, checked, rfl, rfl⟩ := forgeAndAppend_limit limited unforged
    cases cause with
    | tooManyDelegates count limit =>
      obtain ⟨rfl, rfl, above⟩ := Ledger.check_limit votes checked
      exact ⟨after, _, rfl, rfl, above⟩
    | _ => cases limited
  · obtain ⟨destination, sends, _⟩ := settlePayload_error unsettled
    rw [votes] at sends
    cases sends

theorem electChunk_limit {tokens : List String} (limited : e.isVoteLimit = true)
    (refused : n.perform (electChunk id tokens) = (.error e, n')) :
    n' = n.booked false ∧ ∃ count, e = .ledger (.tooManyDelegates count n.params.maxDelegatesPerAccount.toNat) ∧
      count = (VoteSet.apply (n.ledger.votesOf id) (Election.plan n.ledger (n.ledger.votesOf id) tokens)).size ∧
      n.params.maxDelegatesPerAccount.toNat < count := by
  have barred {P : Prop} (other : Unlimited e) : P := by
    rw [Unlimited, limited] at other
    cases other
  unfold electChunk at refused
  rcases perform_bind_error.mp refused with missing | ⟨a, m, knowing, refused⟩
  · exact barred (Fails.account (P := Unlimited) rfl n e n' missing)
  obtain ⟨known, rfl⟩ := perform_account_ok.mp knowing
  rw [perform_bind, perform_get] at refused
  dsimp only at refused
  split at refused
  · cases refused
  rcases perform_bind_error.mp refused with missing | ⟨previous, m, tipping, refused⟩
  · exact barred (Fails.tip (P := Unlimited) rfl n e n' missing)
  obtain ⟨_, rfl⟩ := perform_tip_ok.mp tipping
  rcases perform_bind_error.mp refused with invalid | ⟨bp, m, making, refused⟩
  · obtain ⟨⟨cause, failed, rfl⟩, _⟩ := perform_raise_error.mp invalid
    exact barred (Account.changeBlueprint_unlimited failed)
  obtain ⟨made, rfl⟩ := perform_raise_ok.mp making
  rcases perform_bind_error.mp refused with unserved | ⟨o, m, _, refused⟩
  · have limits := process_limit (Account.changeBlueprint_ok made) limited unserved
    rw [Ledger.votesOf_of_account known] at limits ⊢
    exact limits
  · cases refused

theorem checkLimit_ok {p : Params} {a : Account} {tokens : List String}
    (checked : Election.checkLimit p a tokens = .ok ()) : a.votes.size + (tokens.filter Election.isAdd).length ≤
      p.maxDelegatesPerAccount.toNat + (tokens.filter Election.isRemove).length := by
  unfold Election.checkLimit at checked
  dsimp only at checked
  split at checked
  · cases checked
  · omega

theorem elect_error {tokens : List String} (refused : n.perform (elect id tokens) = (.error e, n')) :
    (n' = n ∧ (Unlimited e ∨ ∃ cause, e = .validation cause)) ∨
    ∃ a done chunk rest os m, n.ledger.account? id = some a ∧ Election.checkLimit n.params a tokens = .ok () ∧
      Election.chunks n.params tokens = done ++ chunk :: rest ∧ n.perform (electChunks id done) = (.ok os, m) ∧
      m.perform (electChunk id chunk) = (.error e, n') := by
  unfold elect at refused
  rcases perform_bind_error.mp refused with missing | ⟨a, m, knowing, refused⟩
  · rw [perform_account] at missing
    cases known : n.ledger.account? id with
    | some a => rw [known] at missing; cases missing
    | none =>
      rw [known] at missing
      cases missing
      exact .inl ⟨rfl, .inl rfl⟩
  obtain ⟨known, rfl⟩ := perform_account_ok.mp knowing
  rw [perform_bind, perform_get] at refused
  dsimp only at refused
  rcases perform_bind_error.mp refused with uncounted | ⟨_, m, counting, refused⟩
  · obtain ⟨⟨cause, _, wrapped⟩, same⟩ := perform_raise_error.mp uncounted
    exact .inl ⟨same.symm, .inr ⟨cause, wrapped.symm⟩⟩
  obtain ⟨counted, rfl⟩ := perform_raise_ok.mp counting
  obtain ⟨done, chunk, rest, os, m, split, went, stopped⟩ := electChunks_error refused
  exact .inr ⟨a, done, chunk, rest, os, m, known, counted, split, went, stopped⟩

-- An election that the first count refuses changes nothing. One that the count for
-- a block refuses ends with the ledger that the blocks before that one have led to,
-- so that it changes nothing either if there is none. It can come to that only if
-- some tokens take votes back, at least as many as there are votes above the limit.
theorem limited_election {tokens : List String} (refused : n.perform (elect id tokens) = (.error e, n')) :
    (∀ count limit, e = .validation (.tooManyDelegates count limit) → n' = n) ∧
    (∀ count limit, e = .ledger (.tooManyDelegates count limit) →
      (limit = n.params.maxDelegatesPerAccount.toNat ∧ limit < count ∧
        count ≤ limit + (tokens.filter Election.isRemove).length) ∧
      ∃ done chunk rest os m, Election.chunks n.params tokens = done ++ chunk :: rest ∧
        n.perform (electChunks id done) = (.ok os, m) ∧ n'.ledger = m.ledger ∧ (os = [] → n'.ledger = n.ledger) ∧
        count = (VoteSet.apply (m.ledger.votesOf id) (Election.plan m.ledger (m.ledger.votesOf id) chunk)).size) := by
  rcases elect_error refused with ⟨same, other⟩ | ⟨a, done, chunk, rest, os, m, known, counted, split, went, stopped⟩
  · refine ⟨fun _ _ _ => same, ?_⟩
    rintro count limit rfl
    rcases other with other | ⟨_, other⟩ <;> cases other
  constructor
  · rintro count limit rfl
    obtain ⟨_, _, other, _⟩ := electChunk_limit rfl stopped
    cases other
  · rintro count limit rfl
    obtain ⟨same, _, limits, size, above⟩ := electChunk_limit rfl stopped
    cases limits
    have params := ((evolves_moves.contains.electChunks id done).after went).1
    have bound := checkLimit_ok counted
    have ran := electChunks_votes went
    have last := Election.size_plan_le m.ledger (m.ledger.votesOf id) chunk
    have adds := Election.adds_le split
    rw [Ledger.votesOf_of_account known] at ran
    rw [params] at above ⊢
    refine ⟨⟨rfl, above, by omega⟩, done, chunk, rest, os, m, split, went, by rw [same, ledger_booked], ?_, size⟩
    rintro rfl
    rw [same, ledger_booked, electChunks_idle went]

-- A network with room for one vote, in which a block holds one change. The second
-- account is a delegate like the first. It asks for a vote for each of them, and
-- gives back a vote for nobody.
def narrow : Params :=
  { Params.standard with
    maxDelegatesPerAccount := 1, maxDelegatesPerBlock := 1
    transactionFee := .zero, votingFee := .zero, delegateFee := .zero, forgeReward := .zero }

@[irreducible] def narrowBirth : Except NodeError AccountId × Node :=
  (Node.new narrow ticking ⟨fun _ => ⟨3⟩, 0⟩).perform (openGenesis (.ofPrivate ⟨1⟩) "first")

def voterId : AccountId := (Account.new (.ofPrivate ⟨2⟩)).id

def voterOpened : Node := (ended narrowBirth).operate (.openAccountWithKeys (.ofPrivate ⟨2⟩) "second")

def voterEnrolled : Node := voterOpened.operate
  (.process ⟨voterId, ⟨(voterOpened.ledger.latest? voterId).map Block.hash, .zero, .zero, .delegate .none⟩⟩)

def voterTokens : List String := ["-nobody", "+second", "+first"]

@[irreducible] def voterElection : Except NodeError (List Outcome) × Node :=
  voterEnrolled.perform (elect voterId voterTokens)

def isBorn : Except NodeError AccountId × Node → Bool
  | (.ok _, _) => true
  | (.error _, _) => false

def holdsVotes (n : Node) (votes blocks : Nat) : Bool :=
  (n.ledger.votesOf voterId).size == votes && (n.ledger.chainOf voterId).blocks.length == blocks

theorem holdsVotes_iff {votes blocks : Nat} : holdsVotes n votes blocks = true ↔
    (n.ledger.votesOf voterId).size = votes ∧ (n.ledger.chainOf voterId).blocks.length = blocks := by
  simp [holdsVotes]

def isHalted : Except NodeError (List Outcome) × Node → Bool
  | (.error (.ledger (.tooManyDelegates 2 1)), n) => holdsVotes n 1 3
  | _ => false

theorem eq_of_isHalted {run : Except NodeError (List Outcome) × Node} (halted : isHalted run = true) :
    ∃ n', run = (.error (.ledger (.tooManyDelegates 2 1)), n') ∧ holdsVotes n' 1 3 = true := by
  unfold isHalted at halted
  split at halted
  · exact ⟨_, rfl, halted⟩
  · cases halted

def listsFirst (l : Ledger) : Bool := l.usernames["first"]?.any fun id => l.isRegistered id && l.isDelegate id

set_option maxRecDepth 100000 in
theorem voterElection_seen : (isBorn narrowBirth && holdsVotes voterEnrolled 0 2 && isHalted voterElection &&
    listsFirst voterEnrolled.ledger) = true := by decide +kernel

theorem narrowBirth_ok : ∃ genesis, (Node.new narrow ticking ⟨fun _ => ⟨3⟩, 0⟩).perform
    (openGenesis (.ofPrivate ⟨1⟩) "first") = (.ok genesis, ended narrowBirth) := by
  have seen := voterElection_seen
  simp only [Bool.and_eq_true] at seen
  cases born : narrowBirth with
  | mk result n =>
    cases result with
    | error e =>
      rw [born] at seen
      cases seen.1.1.1
    | ok genesis =>
      unfold narrowBirth at born
      exact ⟨genesis, born⟩

theorem voterEnrolled_reached : ∃ genesis, Reached genesis voterEnrolled := by
  obtain ⟨genesis, born⟩ := narrowBirth_ok
  exact ⟨genesis, ((Reached.started born).operated _).operated _⟩

theorem voterEnrolled_params : voterEnrolled.params = narrow := by
  obtain ⟨genesis, born⟩ := narrowBirth_ok
  refine (evolves_moves.contains.operate voterOpened _).1.trans ?_
  exact (evolves_moves.contains.operate (ended narrowBirth) _).1.trans (openGenesis_ok born).1

theorem voterElection_halted : ∃ n', voterEnrolled.perform (elect voterId voterTokens) =
    (.error (.ledger (.tooManyDelegates 2 1)), n') ∧ holdsVotes voterEnrolled 0 2 = true ∧ holdsVotes n' 1 3 = true := by
  have seen := voterElection_seen
  simp only [Bool.and_eq_true] at seen
  obtain ⟨n', halted, after⟩ := eq_of_isHalted seen.1.2
  unfold voterElection at halted
  exact ⟨n', halted, seen.1.1.2, after⟩

theorem voterEnrolled_lists : ∃ first, voterEnrolled.ledger.usernames["first"]? = some first ∧
    voterEnrolled.ledger.isRegistered first = true ∧ voterEnrolled.ledger.isDelegate first = true := by
  have seen := voterElection_seen
  rw [Bool.and_eq_true, listsFirst, Option.any_eq_true] at seen
  obtain ⟨_, first, listed, seen⟩ := seen
  exact ⟨first, listed, Bool.and_eq_true_iff.mp seen⟩

theorem voterElection_split : ∃ done chunk rest os m n', voterEnrolled.perform (elect voterId voterTokens) =
      (.error (.ledger (.tooManyDelegates 2 1)), n') ∧
    Election.chunks voterEnrolled.params voterTokens = done ++ chunk :: rest ∧
    voterEnrolled.perform (electChunks voterId done) = (.ok os, m) ∧ n'.ledger = m.ledger ∧ os ≠ [] := by
  obtain ⟨n', halted, before, after⟩ := voterElection_halted
  obtain ⟨_, done, chunk, rest, os, m, split, went, same, idle, _⟩ := (limited_election halted).2 2 1 rfl
  refine ⟨done, chunk, rest, os, m, n', halted, split, went, same, fun nothing => ?_⟩
  have cast := (holdsVotes_iff.mp after).1
  rw [idle nothing, (holdsVotes_iff.mp before).1] at cast
  cases cast

theorem voterElection_first : ∃ result m, voterEnrolled.perform (electChunk voterId ["+first"]) = (.ok result, m) := by
  obtain ⟨n', halted, before, after⟩ := voterElection_halted
  have all : Election.chunks narrow voterTokens = [["+first"], ["+second"], ["-nobody"]] := by decide
  rcases elect_error halted with ⟨_, other⟩ | ⟨_, done, chunk, rest, os, m, _, _, split, went, stopped⟩
  · rcases other with other | ⟨_, other⟩ <;> cases other
  rw [voterEnrolled_params, all] at split
  cases done with
  | nil =>
    -- A refused chunk casts no vote.
    cases went
    obtain ⟨same, _⟩ := electChunk_limit rfl stopped
    have cast := (holdsVotes_iff.mp after).1
    rw [same, ledger_booked, (holdsVotes_iff.mp before).1] at cast
    cases cast
  | cons first others =>
    cases (List.cons.inj split).1
    obtain ⟨result, m, cast, _⟩ := perform_bind_ok.mp went
    exact ⟨result, m, cast⟩

-- One of the two votes has been cast when the election is refused.
theorem voterElection_landed : ∃ genesis n', Reached genesis voterEnrolled ∧
    voterEnrolled.perform (elect voterId voterTokens) = (.error (.ledger (.tooManyDelegates 2 1)), n') ∧
    (voterEnrolled.ledger.votesOf voterId).size = 0 ∧ (voterEnrolled.ledger.chainOf voterId).blocks.length = 2 ∧
    (n'.ledger.votesOf voterId).size = 1 ∧ (n'.ledger.chainOf voterId).blocks.length = 3 := by
  obtain ⟨genesis, reached⟩ := voterEnrolled_reached
  obtain ⟨n', halted, before, after⟩ := voterElection_halted
  obtain ⟨none, two⟩ := holdsVotes_iff.mp before
  obtain ⟨one, three⟩ := holdsVotes_iff.mp after
  exact ⟨genesis, n', reached, halted, none, two, one, three⟩

end Node
end BlockLattice
