import BlockLattice.Proofs.Delegates
import BlockLattice.Proofs.Tokens

namespace BlockLattice

namespace Ledger

variable {l l' l'' : Ledger}

structure Reads (l l' : Ledger) : Prop where
  usernames : l'.usernames = l.usernames
  registered : ∀ id, l'.isRegistered id = l.isRegistered id
  delegates : ∀ id, l'.isDelegate id = l.isDelegate id

theorem Reads.refl (l : Ledger) : l.Reads l := ⟨rfl, fun _ => rfl, fun _ => rfl⟩

theorem Reads.trans (first : l.Reads l') (second : l'.Reads l'') : l.Reads l'' where
  usernames := second.usernames.trans first.usernames
  registered id := (second.registered id).trans (first.registered id)
  delegates id := (second.delegates id).trans (first.delegates id)

theorem Reads.modify (l : Ledger) (id : AccountId) {change : Account → Account}
    (kept : ∀ a, (change a).isDelegate = a.isDelegate) : l.Reads (l.modifyAccount id change) :=
  ⟨l.usernames_modify id change, l.isRegistered_modify id change, l.isDelegate_modify id kept⟩

theorem Reads.bearer? (reads : l.Reads l') : Election.bearer? l' = Election.bearer? l := by
  funext name
  have registered : l'.isRegistered = l.isRegistered := funext reads.registered
  rw [Election.bearer?, reads.usernames, registered, ← Election.bearer?]

theorem Reads.asks (reads : l.Reads l') {token : String} {c : VoteChange} (asks : Election.Asks l' token c) :
    Election.Asks l token c := by
  cases asks with
  | add found => exact .add (reads.bearer? ▸ found)
  | remove found => exact .remove (reads.bearer? ▸ found)

theorem Reads.cast (reads : l.Reads l') : Election.cast l' = Election.cast l := by
  funext votes token
  simp only [Election.cast, reads.bearer?, reads.delegates]

theorem Reads.effective (reads : l.Reads l') : Election.effective l' = Election.effective l := by
  funext votes chunks
  induction chunks generalizing votes with
  | nil => rfl
  | cons chunk rest ih => simp only [Election.effective, reads.cast, ih]

end Ledger

namespace Node

variable {n m n' : Node} {r : Request} {id : AccountId} {e : NodeError}

section Lands

variable {origin : Origin} {f : Forged} {previous : BlockHash} {block : Block}

theorem Lands.reads (lands : Lands origin r n f previous block n') (plain : r.blueprint.kind ≠ .delegate) :
    n.ledger.Reads n'.ledger where
  usernames := by
    rw [lands.ledger, Ledger.usernames_affect]
    rfl
  registered id := by
    rw [lands.ledger, Ledger.isRegistered_affect]
    rfl
  delegates id := by simp [lands.isDelegate, plain]

theorem Lands.blocks (lands : Lands origin r n f previous block n') (id : AccountId) :
    (n'.ledger.chainOf id).blocks = (n.ledger.chainOf id).blocks ++ if r.account = id then [block] else [] := by
  rw [lands.ledger, Ledger.chainOf_affect, Ledger.chainOf_place]
  by_cases mine : r.account = id
  · simp [mine]
  · simp [mine]

end Lands

-- A payout: the names and the delegates are as before, and the chains have grown by
-- receive blocks alone.
structure Credits (n n' : Node) : Prop where
  reads : n.ledger.Reads n'.ledger
  grown : ∀ id, ∃ receives, (n'.ledger.chainOf id).blocks = (n.ledger.chainOf id).blocks ++ receives ∧
    ∀ b ∈ receives, b.kind = .receive

theorem Credits.of_chains (reads : n.ledger.Reads n'.ledger)
    (same : ∀ id, n'.ledger.chainOf id = n.ledger.chainOf id) : Credits n n' :=
  ⟨reads, fun id => ⟨[], by simp [same], by simp⟩⟩

theorem credits_path : Path Credits where
  stay n := .of_chains (.refl _) fun _ => rfl
  join first second := by
    refine ⟨first.reads.trans second.reads, fun id => ?_⟩
    obtain ⟨early, before, receives⟩ := first.grown id
    obtain ⟨late, after, receives'⟩ := second.grown id
    refine ⟨early ++ late, by rw [after, before, List.append_assoc], ?_⟩
    intro b listed
    rcases List.mem_append.mp listed with old | new
    · exact receives b old
    · exact receives' b new

theorem credits_record (n : Node) (f : Forged) : Credits n (n.recordForged f) :=
  .of_chains (.modify _ _ fun _ => rfl) (n.ledger.chainOf_modify f.forger _)

theorem credits_disburses : Disburses Credits where
  path := credits_path
  credits {r n f previous block n'} lands _ := by
    have reward := lands.raises.1
    have receives : block.kind = .receive := by
      rw [Block.kind, lands.content, Blueprint.content, reward]
      rfl
    refine ⟨lands.reads (by simp [Blueprint.kind, reward, Payload.kind]), fun id => ⟨_, lands.blocks id, ?_⟩⟩
    intro b listed
    split at listed
    · rw [List.mem_singleton.mp listed]
      exact receives
    · cases listed
  spares {n e n'} spares := by
    rcases spares.ledger_cases with same | ⟨forger, missed⟩
    · apply Credits.of_chains
      · rw [same]
        exact .refl _
      · simp [same]
    · apply Credits.of_chains
      · rw [missed]
        exact .modify _ _ fun _ => rfl
      · simp [missed, Ledger.miss]
  record := credits_record
  count n metrics := .of_chains (.refl _) fun _ => rfl

structure Changed (r : Request) (changes : List VoteChange) (n n' : Node) : Prop where
  reads : n.ledger.Reads n'.ledger
  few : changes.length ≤ n.params.maxDelegatesPerBlock.toNat
  grown : ∃ block receives, (n'.ledger.chainOf r.account).blocks =
      (n.ledger.chainOf r.account).blocks ++ block :: receives ∧
    block.kind = .change ∧ block.content.changes = changes ∧ ∀ b ∈ receives, b.kind = .receive

theorem process_changed {o : Outcome} {changes : List VoteChange} (votes : r.blueprint.payload = .change changes)
    (done : n.perform (process r) = (.ok o, n')) : Changed r changes n n' := by
  obtain ⟨f, landed, settled, served⟩ := process_ok done
  obtain ⟨previous, block, lands⟩ := forgeAndAppend_ok served.forged
  obtain rfl : settled = landed := by
    rcases settlePayload_ok served.settles with ⟨destination, hash, sends, _⟩ | ⟨_, _, same⟩
    · rw [votes] at sends
      cases sends
    · exact same
  have paid : Credits settled n' := by
    rw [served.after]
    refine credits_path.join (credits_record settled f) ?_
    refine credits_path.join (credits_disburses.payForger f (settled.recordForged f)) ?_
    exact .of_chains (.refl _) fun _ => rfl
  obtain ⟨receives, after, kinds⟩ := paid.grown r.account
  refine ⟨(lands.reads (by simp [Blueprint.kind, votes, Payload.kind])).trans paid.reads,
    (Ledger.checkVotes_iff.mp (lands.checksVotes votes)).1, block, receives, ?_, ?_, ?_, kinds⟩
  · rw [after, lands.blocks, if_pos rfl, List.append_assoc]
    rfl
  · simp [Block.kind, lands.content, Blueprint.content, votes, Content.kind]
  · simp [lands.content, Blueprint.content, votes, Content.changes]

end Node

structure Election.Records (l : Ledger) (p : Params) (chunk : List String) (b : Block) : Prop where
  asked : ∃ asking, asking.Sublist chunk ∧ List.Forall₂ (Election.Asks l) asking b.content.changes
  some : b.content.changes ≠ []
  few : b.content.changes.length ≤ p.maxDelegatesPerBlock.toNat

theorem Ledger.Reads.records {l l' : Ledger} (reads : l.Reads l') {p : Params} {chunk : List String} {b : Block}
    (records : Election.Records l' p chunk b) : Election.Records l p chunk b := by
  obtain ⟨asking, taken, asks⟩ := records.asked
  exact ⟨⟨asking, taken, asks.imp fun _ _ => reads.asks⟩, records.some, records.few⟩

theorem Election.Records.sole {l : Ledger} {p : Params} {token : String} {b : Block} {c : VoteChange}
    (records : Election.Records l p [token] b) (asks : Election.Asks l token c) : b.content.changes = [c] := by
  obtain ⟨asking, taken, heard⟩ := records.asked
  rcases List.sublist_singleton.mp taken with rfl | rfl
  · exact absurd (List.forall₂_nil_left_iff.mp heard) records.some
  · obtain ⟨other, rest, one, none, told⟩ := List.forall₂_cons_left_iff.mp heard
    rw [told, one.unique asks, List.forall₂_nil_left_iff.mp none]

namespace Node

variable {n m n' : Node} {id : AccountId} {tokens chunk : List String} {chunks rest : List (List String)}

structure Elects (id : AccountId) (chunks : List (List String)) (n n' : Node) : Prop where
  params : n'.params = n.params
  reads : n.ledger.Reads n'.ledger
  votes : n'.ledger.votesOf id = chunks.flatten.foldl (Election.cast n.ledger) (n.ledger.votesOf id)
  grown : ∃ added, (n'.ledger.chainOf id).blocks = (n.ledger.chainOf id).blocks ++ added ∧
    List.Forall₂ (Election.Records n.ledger n.params) (Election.effective n.ledger (n.ledger.votesOf id) chunks)
      (added.filter (·.kind = .change))

theorem electChunk_elects {result : Option Outcome} (done : n.perform (electChunk id chunk) = (.ok result, n')) :
    Elects id [chunk] n n' := by
  have params := ((evolves_moves.contains.electChunk id chunk).after done).1
  have votes := electChunk_votes done
  rw [Election.apply_plan] at votes
  obtain ⟨a, known, ⟨_, rfl, nothing⟩ | ⟨o, bp, _, changes, served, some⟩⟩ := electChunk_ok done
  · rw [Election.planChunk, Election.plan_eq_nil_iff, ← Ledger.votesOf_of_account known] at nothing
    refine ⟨params, .refl _, by simpa using votes, [], by simp, ?_⟩
    simpa [Election.effective] using nothing
  · have changed := process_changed changes served
    obtain ⟨block, receives, after, kind, holds, kinds⟩ := changed.grown
    have few := changed.few
    rw [Election.planChunk, ← Ledger.votesOf_of_account known] at some holds few
    refine ⟨params, changed.reads, by simpa using votes, block :: receives, after, ?_⟩
    have effect : ¬∀ token ∈ chunk, Election.cast n.ledger (n.ledger.votesOf id) token = n.ledger.votesOf id :=
      fun steady => some (Election.plan_eq_nil_iff.mpr steady)
    have others : receives.filter (·.kind = .change) = [] := by
      rw [List.filter_eq_nil_iff]
      intro b listed
      simp [kinds b listed]
    rw [Election.effective, if_neg effect, List.filter_cons, if_pos (by simp [kind]), others]
    refine .cons ⟨?_, ?_, ?_⟩ .nil
    · rw [holds]
      exact Election.plan_asked ..
    · rw [holds]
      exact some
    · rw [holds]
      exact few

theorem Elects.join (first : Elects id [chunk] n m) (later : Elects id rest m n') : Elects id (chunk :: rest) n n' := by
  obtain ⟨early, before, records⟩ := first.grown
  obtain ⟨late, after, records'⟩ := later.grown
  have votes := first.votes
  rw [List.flatten_singleton] at votes
  refine ⟨later.params.trans first.params, first.reads.trans later.reads, ?_, early ++ late, ?_, ?_⟩
  · rw [later.votes, first.reads.cast, votes, List.flatten_cons, List.foldl_append]
  · rw [after, before, List.append_assoc]
  · rw [first.params, votes, first.reads.effective] at records'
    rw [Election.effective, Election.effective, List.append_nil] at records
    rw [Election.effective, List.filter_append]
    exact List.rel_append records (records'.imp fun _ _ => first.reads.records)

theorem electChunks_elects {os : List Outcome} (done : n.perform (electChunks id chunks) = (.ok os, n')) :
    Elects id chunks n n' := by
  induction chunks generalizing n os with
  | nil =>
    cases done
    exact ⟨rfl, .refl _, rfl, [], by simp, .nil⟩
  | cons chunk rest ih =>
    obtain ⟨result, m, first, done⟩ := perform_bind_ok.mp done
    obtain ⟨others, m', later, done⟩ := perform_bind_ok.mp done
    cases done
    exact (electChunk_elects first).join (ih later)

theorem elect_ok {os : List Outcome} : n.perform (elect id tokens) = (.ok os, n') ↔
    ∃ a, n.ledger.account? id = some a ∧ Election.checkLimit n.params a tokens = .ok () ∧
      n.perform (electChunks id (Election.chunks n.params tokens)) = (.ok os, n') := by
  unfold elect
  constructor
  · intro done
    obtain ⟨a, m, knowing, done⟩ := perform_bind_ok.mp done
    obtain ⟨known, rfl⟩ := perform_account_ok.mp knowing
    rw [perform_bind, perform_get] at done
    obtain ⟨_, m, counting, done⟩ := perform_bind_ok.mp done
    obtain ⟨counted, rfl⟩ := perform_raise_ok.mp counting
    exact ⟨a, known, counted, done⟩
  · rintro ⟨a, known, counted, ran⟩
    refine perform_bind_ok.mpr ⟨a, n, perform_account_ok.mpr ⟨known, rfl⟩, ?_⟩
    rw [perform_bind, perform_get]
    exact perform_bind_ok.mpr ⟨(), n, perform_raise_ok.mpr ⟨counted, rfl⟩, ran⟩

theorem electChunk_steady {a : Account} (known : n.ledger.account? id = some a)
    (steady : ∀ token ∈ chunk, Election.cast n.ledger (n.ledger.votesOf id) token = n.ledger.votesOf id) :
    n.perform (electChunk id chunk) = (.ok none, n) := by
  have nothing := Election.plan_eq_nil_iff.mpr steady
  rw [Ledger.votesOf_of_account known] at nothing
  unfold electChunk
  rw [perform_bind, perform_account, known]
  dsimp only
  rw [perform_bind, perform_get]
  simp [Election.planChunk, nothing]

theorem electChunks_steady {a : Account} (known : n.ledger.account? id = some a) (steady : ∀ chunk ∈ chunks,
      ∀ token ∈ chunk, Election.cast n.ledger (n.ledger.votesOf id) token = n.ledger.votesOf id) :
    n.perform (electChunks id chunks) = (.ok [], n) := by
  induction chunks with
  | nil => rfl
  | cons chunk rest ih =>
    have first := electChunk_steady known (steady chunk (List.mem_cons_self ..))
    have later := ih fun other listed => steady other (List.mem_cons_of_mem _ listed)
    simp [electChunks, perform_bind, first, later]

theorem elect_steady {a : Account} (known : n.ledger.account? id = some a)
    (steady : ∀ token ∈ tokens, Election.cast n.ledger (n.ledger.votesOf id) token = n.ledger.votesOf id) :
    n.perform (elect id tokens) = (.ok [], n) ∨
      ∃ count limit, n.perform (elect id tokens) = (.error (.validation (.tooManyDelegates count limit)), n) := by
  have listed := Election.chunks_perm n.params tokens
  have idle : ∀ chunk ∈ Election.chunks n.params tokens, ∀ token ∈ chunk,
      Election.cast n.ledger (n.ledger.votesOf id) token = n.ledger.votesOf id := by
    intro chunk inside token here
    exact steady token (listed.mem_iff.mp (List.mem_flatten.mpr ⟨chunk, inside, here⟩))
  have chunks := electChunks_steady known idle
  unfold elect
  rw [perform_bind, perform_account, known]
  dsimp only
  rw [perform_bind, perform_get]
  dsimp only
  rw [perform_bind, perform_raise]
  unfold Election.checkLimit
  dsimp only
  by_cases many : n.params.maxDelegatesPerAccount.toNat <
      a.votes.size + (tokens.filter Election.isAdd).length - (tokens.filter Election.isRemove).length
  · rw [if_pos many]
    exact .inr ⟨_, _, rfl⟩
  · rw [if_neg many]
    exact .inl chunks

-- The votes after an election are those that its tokens lead to one by one when the
-- list is cut into pieces and the last piece comes first, and the chain has a new
-- change block for each piece that has had an effect. If no two tokens name one
-- account, it does not matter how the list was cut, and the same election once more
-- changes nothing.
theorem election_result {os : List Outcome} (done : n.perform (elect id tokens) = (.ok os, n')) :
    (∃ pieces added, Election.Cuts (Nat.max 1 n.params.maxDelegatesPerBlock.toNat) tokens pieces ∧
      n'.ledger.votesOf id =
        pieces.reverse.flatten.foldl (Election.cast n.ledger) (n.ledger.votesOf id) ∧
      (n'.ledger.chainOf id).blocks = (n.ledger.chainOf id).blocks ++ added ∧
      List.Forall₂ (Election.Records n.ledger n.params)
        (Election.effective n.ledger (n.ledger.votesOf id) pieces.reverse) (added.filter (·.kind = .change))) ∧
    (Election.Apart n.ledger tokens →
      (∀ d, d ∈ n'.ledger.votesOf id ↔
        (d ∈ n.ledger.votesOf id ∨
          ∃ token ∈ tokens, Election.Asks n.ledger token (.add d) ∧ n.ledger.isDelegate d = true) ∧
        ∀ token ∈ tokens, ¬Election.Asks n.ledger token (.remove d)) ∧
      (n'.perform (elect id tokens) = (.ok [], n') ∨
        ∃ count limit, n'.perform (elect id tokens) = (.error (.validation (.tooManyDelegates count limit)), n'))) := by
  obtain ⟨a, known, _, ran⟩ := elect_ok.mp done
  have elects := electChunks_elects ran
  have listed := Election.chunks_perm n.params tokens
  constructor
  · obtain ⟨added, grown, records⟩ := elects.grown
    have votes := elects.votes
    rw [← (Election.chunks n.params tokens).reverse_reverse] at votes records
    exact ⟨_, added, Election.chunks_cuts n.params tokens, votes, grown, records⟩
  · intro apart
    -- The chunks are a shuffle of the tokens, and apart they remain.
    have shuffled := apart.perm listed
    refine ⟨fun d => ?_, ?_⟩
    · rw [elects.votes, Election.mem_foldl_cast shuffled]
      simp only [listed.mem_iff]
    · obtain ⟨later, still⟩ := Ledger.isRegistered_iff.mp
        ((elects.reads.registered id).trans (Ledger.isRegistered_iff.mpr ⟨a, known⟩))
      apply elect_steady still
      intro token here
      rw [elects.reads.cast, elects.votes]
      exact Election.cast_again shuffled (listed.mem_iff.mpr here)

theorem asks_first : ∃ first, Election.Asks voterEnrolled.ledger "+first" (.add first) ∧
    voterEnrolled.ledger.isDelegate first = true := by
  obtain ⟨first, listed, registered, delegate⟩ := voterEnrolled_lists
  have lower : Lowercase.text "first" = "first" := by decide +kernel
  have found : Election.bearer? voterEnrolled.ledger "first" = some first := by
    rw [Election.bearer?, if_neg (by decide), lower, listed, Option.filter_some, if_pos registered]
  exact ⟨first, .add found, delegate⟩

theorem voterEnrolled_votes : (voterEnrolled.ledger.votesOf voterId).size = 0 := by
  obtain ⟨_, _, before, _⟩ := voterElection_halted
  exact (holdsVotes_iff.mp before).1

theorem voterEnrolled_served : ∃ os n', voterEnrolled.perform (elect voterId ["+first"]) = (.ok os, n') := by
  obtain ⟨result, n', went⟩ := voterElection_first
  have one : Election.chunks narrow ["+first"] = [["+first"]] := by decide
  obtain ⟨a, known, _⟩ := electChunk_ok went
  have counted : Election.checkLimit narrow a ["+first"] = .ok () := by
    rw [Election.checkLimit, ← Ledger.votesOf_of_account known, voterEnrolled_votes]
    exact if_neg (by decide)
  refine ⟨result.toList ++ [], n', elect_ok.mpr ⟨a, known, ?_, ?_⟩⟩
  · rw [voterEnrolled_params]
    exact counted
  · rw [voterEnrolled_params, one]
    exact perform_bind_ok.mpr ⟨result, n', went, rfl⟩

theorem voterEnrolled_elects : ∃ os n' first block added, voterEnrolled.perform (elect voterId ["+first"]) = (.ok os, n') ∧
    Election.Apart voterEnrolled.ledger ["+first"] ∧
    first ∉ voterEnrolled.ledger.votesOf voterId ∧ first ∈ n'.ledger.votesOf voterId ∧
    (n'.ledger.chainOf voterId).blocks = (voterEnrolled.ledger.chainOf voterId).blocks ++ added ∧
    added.filter (·.kind = .change) = [block] ∧ block.content.changes = [.add first] ∧
    (n'.perform (elect voterId ["+first"]) = (.ok [], n') ∨ ∃ count limit,
      n'.perform (elect voterId ["+first"]) = (.error (.validation (.tooManyDelegates count limit)), n')) := by
  obtain ⟨os, n', served⟩ := voterEnrolled_served
  obtain ⟨first, asks, delegate⟩ := asks_first
  have nobody := voterEnrolled_votes
  have missing : first ∉ voterEnrolled.ledger.votesOf voterId := by
    rw [← Std.ExtTreeSet.length_toList, List.length_eq_zero_iff] at nobody
    simp [← Std.ExtTreeSet.mem_toList, nobody]
  have apart : Election.Apart voterEnrolled.ledger ["+first"] := List.pairwise_singleton ..
  obtain ⟨⟨pieces, added, cuts, votes, grown, records⟩, whole⟩ := election_result served
  obtain ⟨set, again⟩ := whole apart
  have voted : first ∈ n'.ledger.votesOf voterId := by
    refine (set first).mpr ⟨.inr ⟨_, List.mem_singleton_self _, asks, delegate⟩, ?_⟩
    intro token listed removes
    cases (List.mem_singleton.mp listed ▸ removes).unique asks
  have alters : Election.cast voterEnrolled.ledger (voterEnrolled.ledger.votesOf voterId) "+first" ≠
      voterEnrolled.ledger.votesOf voterId := by
    rw [Election.cast_add asks, if_pos delegate]
    exact fun same => missing (VoteSet.insert_eq_self.mp same)
  rw [cuts.one, List.reverse_singleton, Election.effective_of_ne alters] at records
  obtain ⟨block, rest, record, none, only⟩ := List.forall₂_cons_left_iff.mp records
  rw [List.forall₂_nil_left_iff.mp none] at only
  exact ⟨os, n', first, block, added, served, apart, missing, voted, grown, only, record.sole asks, again⟩

end Node
end BlockLattice
