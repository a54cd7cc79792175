import BlockLattice.Proofs.Bystanders
import BlockLattice.Proofs.DelegateNames
import BlockLattice.Proofs.Elections
import BlockLattice.Proofs.Lookups
import BlockLattice.Proofs.Shortages

namespace BlockLattice

namespace Ledger

def Titled (id : AccountId) (username : String) (l : Ledger) : Prop := l.usernames[username]? = some id

def Enlisted (id : AccountId) (share : Share) (l : Ledger) : Prop :=
  ∃ a, l.account? id = some a ∧ a.isDelegate = true ∧ a.share = share

variable {l : Ledger} {id : AccountId} {username : String} {share : Share}

theorem Titled.idByUsername? (titled : l.Titled id username) (directory : l.Directory)
    (plain : Lowercase.text username = username) : l.idByUsername? username = some id := by
  rw [directory.idByUsername?_iff, plain]
  exact directory.inverse.mp titled

theorem Enlisted.isDelegate (enlisted : l.Enlisted id share) : l.isDelegate id = true := by
  obtain ⟨a, known, flag, _⟩ := enlisted
  rw [isDelegate_of_account known, flag]

def Housed (id : AccountId) (username : String) (l : Ledger) : Prop := l.Titled id username ∧ l.isOpened id = true

structure Raised (id : AccountId) (username : String) (l : Ledger) : Prop where
  housed : l.Housed id username
  enlisted : l.Enlisted id .full
  loyal : id ∈ l.votesOf id

end Ledger

namespace Node

open Ledger (Titled Housed Enlisted Raised)

variable {n n' : Node} {id j : AccountId} {username : String} {share : Share} {e : NodeError}

theorem titled_lasts (id : AccountId) (username : String) : Lasts (Titled id username) where
  lands lands _ titled := by
    rw [Titled, lands.ledger, Ledger.usernames_affect]
    exact titled
  counts j _ _ titled := by
    rw [Titled, Ledger.usernames_modify]
    exact titled
  registers registers _ titled := by
    rw [Titled, registers.usernames_eq, if_neg]
    · exact titled
    · intro taken
      have free := registers.free
      rw [taken, titled] at free
      cases free

theorem housed_lasts (id : AccountId) (username : String) : Lasts (Housed id username) :=
  (titled_lasts id username).and (opened_lasts id)

theorem Lands.enlisted {origin : Origin} {r : Request} {f : Forged} {previous : BlockHash} {block : Block}
    (lands : Lands origin r n f previous block n') (enlisted : n.ledger.Enlisted id share) :
    n'.ledger.Enlisted id share := by
  have delegate := enlisted.isDelegate
  obtain ⟨a, known, flag, whole⟩ := enlisted
  have placed : (n.ledger.place r.account block).account? id = some a := known
  rw [Enlisted, lands.ledger, Ledger.account?_affect, placed]
  split
  · rename_i mine
    refine ⟨_, rfl, ?_⟩
    cases payload : r.blueprint.payload with
    | delegate share =>
      have novice := lands.once payload
      rw [mine, delegate] at novice
      cases novice
    | _ => exact ⟨flag, whole⟩
  · exact ⟨a, rfl, flag, whole⟩

theorem enlisted_lasts (id : AccountId) (share : Share) : Lasts (Enlisted id share) where
  lands lands _ := lands.enlisted
  counts j change counts enlisted := by
    obtain ⟨a, known, flag, whole⟩ := enlisted
    rw [Enlisted, Ledger.account?_modify, known]
    split
    · obtain ⟨forged, missed, changed⟩ := counts a
      exact ⟨_, rfl, by rw [changed]; exact flag, by rw [changed]; exact whole⟩
    · exact ⟨a, rfl, flag, whole⟩
  registers registers _ enlisted := by
    obtain ⟨a, known, enlisted⟩ := enlisted
    exact ⟨a, registers.kept known, enlisted⟩

theorem openAccountWithKeys_housed {keys : KeyPair} (reachable : n.ledger.Reachable)
    (done : n.perform (openAccountWithKeys keys username) = (.ok id, n')) :
    n.ledger.isRegistered id = false ∧ n'.ledger.Housed id (Ledger.nameFor username) := by
  obtain ⟨l, o, registered, served⟩ := openAccountWithKeys_ok done
  obtain ⟨rfl, registers⟩ := Ledger.register_ok registered
  have missing : n.ledger.account? (Account.new keys).id = none := registers.new
  have known := reachable.leads (Ledger.leads_register registered)
  have titled : l.Titled (Account.new keys).id (Ledger.nameFor username) := by
    rw [Titled, registers.usernames_eq, if_pos rfl]
  have kept := ((titled_lasts (Account.new keys).id (Ledger.nameFor username)).process _).after served
  refine ⟨?_, kept.2 known titled, process_opened known served⟩
  rw [Ledger.isRegistered_eq, missing]
  rfl

theorem openAccount_housed (reachable : n.ledger.Reachable) (done : n.perform (openAccount username) = (.ok id, n')) :
    n.ledger.isRegistered id = false ∧ n'.ledger.Housed id (Ledger.nameFor username) := by
  unfold openAccount at done
  obtain ⟨keys, m, drawing, done⟩ := perform_bind_ok.mp done
  cases drawing
  exact openAccountWithKeys_housed (n := { n with keys := n.keys.draw.2 }) reachable done

theorem registerDelegate_enlisted {percent : Float} {o : Outcome} (stands : Share.ofPercent? percent = some share)
    (reachable : n.ledger.Reachable) (done : n.perform (registerDelegate id percent) = (.ok o, n')) :
    n'.ledger.Enlisted id share := by
  rw [registerDelegate_eq] at done
  obtain ⟨a, tip, bp, _, made, done⟩ := wish_ok done
  have enrols := ((Account.delegateBlueprint_iff (Account.verify_of_delegateBlueprint made) stands).mp made).2.1
  obtain ⟨f, landed, settled, served⟩ := process_ok done
  obtain ⟨previous, block, lands⟩ := forgeAndAppend_ok served.forged
  have enlisted : landed.ledger.Enlisted id share := by
    obtain ⟨b, known, _⟩ := lands.owned
    have placed : (n.ledger.place id block).account? id = some b := known
    rw [Enlisted, lands.ledger, Ledger.account?_affect, if_pos rfl, placed, enrols]
    exact ⟨_, rfl, rfl, rfl⟩
  exact ((enlisted_lasts id share).served served).2 (reachable.leads lands.evolves.2) enlisted

theorem elect_one {token : String} {os : List Outcome} (done : n.perform (elect id [token]) = (.ok os, n')) :
    n'.ledger.votesOf id = Election.cast n.ledger (n.ledger.votesOf id) token := by
  obtain ⟨a, _, _, ran⟩ := elect_ok.mp done
  have whole := List.perm_singleton.mp (Election.chunks_perm n.params [token])
  rw [(electChunks_elects ran).votes, whole]
  rfl

def enrol (username : String) (id : AccountId) : Action AccountId := do
  let _ ← registerDelegate id 100.0
  let _ ← elect id ["+" ++ username]
  return id

theorem bringUp_eq (genesis : AccountId) (username : String) (funding : Amount) :
    bringUp genesis username funding =
      openAccount username >>= fun id => transfer genesis id funding >>= fun _ => enrol username id := rfl

inductive Steps (genesis : AccountId) (username : String) (funding : Amount) (id : AccountId) (n n' : Node) : Prop where
  | intro {opened funded enlisted : Node} {transferred registered : Outcome} {elected : List Outcome} :
      n.perform (openAccount username) = (.ok id, opened) →
      opened.perform (transfer genesis id funding) = (.ok transferred, funded) →
      funded.perform (registerDelegate id 100.0) = (.ok registered, enlisted) →
      enlisted.perform (elect id ["+" ++ username]) = (.ok elected, n') →
      Steps genesis username funding id n n'

theorem bringUp_ok {genesis : AccountId} {funding : Amount} : n.perform (bringUp genesis username funding) = (.ok id, n') ↔
    Steps genesis username funding id n n' := by
  rw [bringUp_eq]
  constructor
  · intro done
    obtain ⟨new, opened, opening, done⟩ := perform_bind_ok.mp done
    obtain ⟨o, funded, transferring, done⟩ := perform_bind_ok.mp done
    obtain ⟨o', enlisted, registering, done⟩ := perform_bind_ok.mp done
    obtain ⟨os, m, electing, done⟩ := perform_bind_ok.mp done
    cases done
    exact ⟨opening, transferring, registering, electing⟩
  · rintro ⟨opening, transferring, registering, electing⟩
    refine perform_bind_ok.mpr ⟨_, _, opening, perform_bind_ok.mpr ⟨_, _, transferring, ?_⟩⟩
    exact perform_bind_ok.mpr ⟨_, _, registering, perform_bind_ok.mpr ⟨_, _, electing, rfl⟩⟩

theorem harmless_enrol (apart : id ≠ j) (username : String) : Within (Harmless j) (enrol username id) := by
  refine .bind (harmless_path j) ?_ fun _ => ?_
  · rw [registerDelegate_eq]
    exact harmless_wish apart _
  · exact .bind (harmless_path j) (harmless_elect apart _) fun _ => .pure (harmless_path j) _

theorem enrol_raised {number : Nat} (reachable : n.ledger.Reachable) (housed : n.ledger.Housed id (delegateName number))
    (done : n.perform (enrol (delegateName number) id) = (.ok j, n')) :
    j = id ∧ n'.ledger.Raised id (delegateName number) := by
  have full : Share.ofPercent? 100.0 = some .full := rfl
  obtain ⟨o, m, registering, done⟩ := perform_bind_ok.mp done
  obtain ⟨os, m', electing, done⟩ := perform_bind_ok.mp done
  cases done
  have enlisted := registerDelegate_enlisted full reachable registering
  have housed := (((housed_lasts id _).contains.registerDelegate id 100.0).after registering).2 reachable housed
  have reachable := reachable.leads ((evolves_moves.contains.registerDelegate id 100.0).after registering).2
  have found := housed.1.idByUsername? reachable.directory (Lowercase.text_steady (delegateName_steady number))
  have adds : Election.Asks m.ledger ("+" ++ delegateName number) (.add id) :=
    .add ((Election.bearer?_of_ne (delegateName_ne_empty number)).trans found)
  refine ⟨rfl, ?_, ?_, ?_⟩
  · exact (((housed_lasts id _).contains.elect id _).after electing).2 reachable housed
  · exact (((enlisted_lasts id .full).contains.elect id _).after electing).2 reachable enlisted
  · rw [elect_one electing, Election.mem_cast]
    refine ⟨.inr ⟨adds, enlisted.isDelegate⟩, fun removes => ?_⟩
    cases adds.unique removes

variable {genesis : AccountId} {funding : Amount}

theorem bringUp_raised {number : Nat} (reachable : n.ledger.Reachable)
    (done : n.perform (bringUp genesis (delegateName number) funding) = (.ok id, n')) :
    n.ledger.isRegistered id = false ∧ n'.ledger.Raised id (delegateName number) := by
  rw [bringUp_eq] at done
  obtain ⟨new, m, opening, done⟩ := perform_bind_ok.mp done
  obtain ⟨o, m', transferring, done⟩ := perform_bind_ok.mp done
  obtain ⟨unknown, housed⟩ := openAccount_housed reachable opening
  rw [Ledger.nameFor_steady (delegateName_steady number)] at housed
  have reachable := reachable.leads ((evolves_moves.contains.openAccount _).after opening).2
  have housed := (((housed_lasts new _).contains.transfer genesis new funding).after transferring).2 reachable housed
  have reachable := reachable.leads ((evolves_moves.contains.transfer genesis new funding).after transferring).2
  obtain ⟨rfl, raised⟩ := enrol_raised reachable housed done
  exact ⟨unknown, raised⟩

theorem openAccount_ne (reachable : n.ledger.Reachable) (known : n.ledger.isRegistered j = true)
    (opening : n.perform (openAccount username) = (.ok id, n')) : id ≠ j := by
  rintro rfl
  rw [(openAccount_housed reachable opening).1] at known
  cases known

theorem bringUp_unharmed (reachable : n.ledger.Reachable) (known : n.ledger.isRegistered j = true) (apart : genesis ≠ j)
    (username : String) (funding : Amount) :
    n.ledger.Unharmed j (n.perform (bringUp genesis username funding)).2.ledger := by
  rw [bringUp_eq, perform_bind]
  cases opening : n.perform (openAccount username) with
  | mk result m =>
    have early := (harmless_openAccount (j := j) username).after opening
    cases result with
    | error e => exact early.2 reachable
    | ok id =>
      have funded : Within (Harmless j) (transfer genesis id funding) := by
        rw [transfer_eq]
        exact harmless_wish apart _
      have enrolled := harmless_enrol (openAccount_ne reachable known opening) username
      have later := Within.bind (harmless_path j) funded fun _ => enrolled
      exact ((harmless_path j).join early (later m)).2 reachable

theorem bringUp_keeps (reachable : n.ledger.Reachable) (raised : n.ledger.Raised id username) (apart : genesis ≠ id)
    (other : String) (funding : Amount) : (n.perform (bringUp genesis other funding)).2.ledger.Raised id username where
  housed := ((housed_lasts id username).contains.bringUp genesis other funding n).2 reachable raised.housed
  enlisted := ((enlisted_lasts id .full).contains.bringUp genesis other funding n).2 reachable raised.enlisted
  loyal := by
    have known := reachable.sound.registered raised.housed.2
    rw [(bringUp_unharmed reachable known apart other funding).votes]
    exact raised.loyal

theorem transfer_spends {source destination : AccountId} {amount : Amount} {o : Outcome}
    (done : n.perform (transfer source destination amount) = (.ok o, n')) :
    n.ledger.balance source ≤ n'.ledger.balance source + (amount.raw + n.params.transactionFee.raw) := by
  rw [transfer_eq] at done
  obtain ⟨a, tip, bp, _, made, done⟩ := wish_ok done
  obtain ⟨sends, moves, _⟩ := (Account.sendBlueprint_iff (Account.verify_of_sendBlueprint made)).mp made
  have spends := process_spends done (by simp [sends])
  rw [moves, sends] at spends
  exact spends

theorem fund_spends (reachable : n.ledger.Reachable) (apart : id ≠ genesis) (username : String) (funding : Amount) :
    n.ledger.balance genesis ≤
      (n.perform (transfer genesis id funding >>= fun _ => enrol username id)).2.ledger.balance genesis +
        (funding.raw + n.params.transactionFee.raw) := by
  rw [perform_bind]
  cases transferring : n.perform (transfer genesis id funding) with
  | mk result m =>
    have moved := (evolves_moves.contains.transfer genesis id funding).after transferring
    cases result with
    | error e =>
      rw [transfer_eq] at transferring
      exact Nat.le_add_right_of_le (Nat.le_of_eq ((wish_spares reachable.sound transferring).balance genesis).symm)
    | ok o =>
      have spent := transfer_spends transferring
      have later := ((harmless_enrol apart username m).2 (reachable.leads moved.2)).balance
      dsimp only
      omega

theorem bringUp_spends (reachable : n.ledger.Reachable) (known : n.ledger.isRegistered genesis = true)
    (username : String) (funding : Amount) : n.ledger.balance genesis ≤
      (n.perform (bringUp genesis username funding)).2.ledger.balance genesis +
        (funding.raw + n.params.transactionFee.raw) := by
  rw [bringUp_eq, perform_bind]
  cases opening : n.perform (openAccount username) with
  | mk result m =>
    obtain ⟨⟨params, leads⟩, unharmed⟩ := (harmless_openAccount (j := genesis) username).after opening
    have kept := (unharmed reachable).balance
    cases result with
    | error e => exact Nat.le_add_right_of_le kept
    | ok id =>
      have spent := fund_spends (reachable.leads leads) (openAccount_ne reachable known opening) username funding
      rw [params] at spent
      exact Nat.le_trans kept spent

end Node
end BlockLattice
