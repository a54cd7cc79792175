import BlockLattice.Node.Bootstrap

-- How the steps of an action follow each other, and two ways to say something of
-- all of them. An action stays within a relation if every run of it ends in a node
-- that the relation leads to, whether it succeeds or fails, and it fails within a
-- set of errors if no run of it ends in another.
namespace BlockLattice.Node

variable {α β : Type} {n n' : Node}

@[simp] theorem perform_pure (n : Node) (a : α) : n.perform (pure a) = (.ok a, n) := rfl

@[simp] theorem perform_throw (n : Node) (e : NodeError) : n.perform (throw e : Action α) = (.error e, n) := rfl

@[simp] theorem perform_get (n : Node) : n.perform get = (.ok n, n) := rfl

@[simp] theorem perform_set (n m : Node) : n.perform (set m) = (.ok ⟨⟩, m) := rfl

@[simp] theorem perform_modify (n : Node) (f : Node → Node) : n.perform (modify f) = (.ok ⟨⟩, f n) := rfl

@[simp] theorem perform_lift (n : Node) (task : StateM Node α) :
    n.perform (liftM task : Action α) = (.ok (n.carryOut task).1, (n.carryOut task).2) := rfl

theorem perform_bind (n : Node) (x : Action α) (f : α → Action β) :
    n.perform (x >>= f) =
      match n.perform x with
      | (.ok a, m) => m.perform (f a)
      | (.error e, m) => (.error e, m) := by
  change (match n.perform x with | (result, m) => (ExceptT.bindCont f result) m) = _
  obtain ⟨result, m⟩ := n.perform x
  cases result <;> rfl

theorem perform_tryCatch (n : Node) (x : Action α) (handle : NodeError → Action α) :
    n.perform (tryCatch x handle) =
      match n.perform x with
      | (.ok a, m) => (.ok a, m)
      | (.error e, m) => m.perform (handle e) := by
  unfold perform StateT.run ExceptT.run
  simp only [tryCatch, tryCatchThe, MonadExceptOf.tryCatch, ExceptT.tryCatch, ExceptT.mk, bind, StateT.bind]
  cases x n with
  | mk result m => cases result <;> rfl

theorem perform_raise (n : Node) (wrap : ε → NodeError) (result : Except ε α) :
    n.perform (raise wrap result) = (result.mapError wrap, n) := by
  cases result <;> rfl

theorem perform_bind_ok {x : Action α} {f : α → Action β} {b : β} :
    n.perform (x >>= f) = (.ok b, n') ↔
      ∃ a m, n.perform x = (.ok a, m) ∧ m.perform (f a) = (.ok b, n') := by
  rw [perform_bind]
  obtain ⟨result, m⟩ := n.perform x
  cases result with
  | error e => simp
  | ok a =>
    constructor
    · intro done
      exact ⟨a, m, rfl, done⟩
    · rintro ⟨_, _, same, done⟩
      cases same
      exact done

theorem perform_bind_error {x : Action α} {f : α → Action β} {e : NodeError} :
    n.perform (x >>= f) = (.error e, n') ↔
      n.perform x = (.error e, n') ∨ ∃ a m, n.perform x = (.ok a, m) ∧ m.perform (f a) = (.error e, n') := by
  rw [perform_bind]
  obtain ⟨result, m⟩ := n.perform x
  cases result with
  | error e => simp
  | ok a =>
    constructor
    · intro failed
      exact .inr ⟨a, m, rfl, failed⟩
    · rintro (failed | ⟨_, _, same, failed⟩)
      · cases failed
      · cases same
        exact failed

theorem perform_raise_ok {wrap : ε → NodeError} {result : Except ε α} {a : α} :
    n.perform (raise wrap result) = (.ok a, n') ↔ result = .ok a ∧ n = n' := by
  cases result <;> simp [raise]

theorem perform_raise_error {wrap : ε → NodeError} {result : Except ε α} {e : NodeError} :
    n.perform (raise wrap result) = (.error e, n') ↔ (∃ cause, result = .error cause ∧ wrap cause = e) ∧ n = n' := by
  cases result <;> simp [raise]

theorem perform_account (n : Node) (id : AccountId) :
    n.perform (account id) =
      match n.ledger.account? id with
      | some a => (.ok a, n)
      | none => (.error (.accountNotFound id), n) := by
  rw [account, perform_bind, perform_get]
  dsimp only
  cases n.ledger.account? id <;> rfl

theorem perform_tip (n : Node) (id : AccountId) :
    n.perform (tip id) =
      match n.ledger.latest? id with
      | some b => (.ok b, n)
      | none => (.error (.ledger (.notOpened id)), n) := by
  rw [tip, perform_bind, perform_get]
  dsimp only
  cases n.ledger.latest? id <;> rfl

theorem perform_account_ok {id : AccountId} {a : Account} :
    n.perform (account id) = (.ok a, n') ↔ n.ledger.account? id = some a ∧ n = n' := by
  rw [perform_account]
  cases n.ledger.account? id <;> simp

theorem perform_tip_ok {id : AccountId} {b : Block} :
    n.perform (tip id) = (.ok b, n') ↔ n.ledger.latest? id = some b ∧ n = n' := by
  rw [perform_tip]
  cases n.ledger.latest? id <;> simp

@[simp] theorem carryOut_pure (n : Node) (a : α) : n.carryOut (pure a) = (a, n) := rfl

@[simp] theorem carryOut_get (n : Node) : n.carryOut get = (n, n) := rfl

theorem carryOut_bind (n : Node) (x : StateM Node α) (f : α → StateM Node β) :
    n.carryOut (x >>= f) = (n.carryOut x).2.carryOut (f (n.carryOut x).1) := rfl

@[simp] theorem carryOut_run (n : Node) (x : Action α) : n.carryOut (ExceptT.run x) = n.perform x := rfl

structure Path (R : Node → Node → Prop) : Prop where
  stay : ∀ n, R n n
  join : ∀ {a b c}, R a b → R b c → R a c

theorem Path.keeping (P : Node → Prop) : Path fun n m => P n → P m :=
  ⟨fun _ h => h, fun first second h => second (first h)⟩

def Within (R : Node → Node → Prop) (x : Action α) : Prop := ∀ n, R n (n.perform x).2

def TaskWithin (R : Node → Node → Prop) (task : StateM Node α) : Prop := ∀ n, R n (n.carryOut task).2

namespace Within

variable {R : Node → Node → Prop}

theorem after {x : Action α} (within : Within R x) {result : Except NodeError α} (ran : n.perform x = (result, n')) :
    R n n' := by
  have ended := within n
  rw [ran] at ended
  exact ended

theorem of_results {x : Action α} (fails : ∀ {n e n'}, n.perform x = (.error e, n') → R n n')
    (succeeds : ∀ {n a n'}, n.perform x = (.ok a, n') → R n n') : Within R x := by
  intro n
  cases ran : n.perform x with
  | mk result n' =>
    cases result with
    | error e => exact fails ran
    | ok a => exact succeeds ran

theorem pure (path : Path R) (a : α) : Within R (pure a) := fun n => path.stay n

theorem throw (path : Path R) (e : NodeError) : Within R (throw e : Action α) := fun n => path.stay n

theorem get (path : Path R) : Within R (get : Action Node) := fun n => path.stay n

theorem modify {f : Node → Node} (step : ∀ n, R n (f n)) : Within R (modify f : Action PUnit) := step

theorem bind (path : Path R) {x : Action α} {f : α → Action β} (first : Within R x)
    (second : ∀ a, Within R (f a)) : Within R (x >>= f) := by
  intro n
  have began := first n
  rw [perform_bind]
  cases ran : n.perform x with
  | mk result m =>
    rw [ran] at began
    cases result with
    | error e => exact began
    | ok a => exact path.join began (second a m)

theorem catching (path : Path R) {x : Action α} {handle : NodeError → Action α} (first : Within R x)
    (second : ∀ e, Within R (handle e)) : Within R (tryCatch x handle) := by
  intro n
  have began := first n
  rw [perform_tryCatch]
  cases ran : n.perform x with
  | mk result m =>
    rw [ran] at began
    cases result with
    | ok a => exact began
    | error e => exact path.join began (second e m)

theorem raise (path : Path R) (wrap : ε → NodeError) (result : Except ε α) : Within R (raise wrap result) := by
  intro n
  rw [perform_raise]
  exact path.stay n

theorem account (path : Path R) (id : AccountId) : Within R (account id) := by
  intro n
  rw [perform_account]
  cases n.ledger.account? id <;> exact path.stay n

theorem tip (path : Path R) (id : AccountId) : Within R (tip id) := by
  intro n
  rw [perform_tip]
  cases n.ledger.latest? id <;> exact path.stay n

theorem task {task : StateM Node α} (within : TaskWithin R task) : Within R (liftM task : Action α) := within

end Within

namespace TaskWithin

variable {R : Node → Node → Prop}

theorem pure (path : Path R) (a : α) : TaskWithin R (pure a) := fun n => path.stay n

theorem bind (path : Path R) {x : StateM Node α} {f : α → StateM Node β} (first : TaskWithin R x)
    (second : ∀ a, TaskWithin R (f a)) : TaskWithin R (x >>= f) :=
  fun n => path.join (first n) (second _ _)

theorem run {x : Action α} (within : Within R x) : TaskWithin R (ExceptT.run x) := within

theorem foldlM (path : Path R) {step : β → α → StateM Node β} (items : List α)
    (within : ∀ b, ∀ a ∈ items, TaskWithin R (step b a)) (b : β) : TaskWithin R (items.foldlM step b) := by
  induction items generalizing b with
  | nil => exact pure path b
  | cons a rest ih =>
    refine bind path (within b a (List.mem_cons_self ..)) fun b => ?_
    exact ih (fun b a listed => within b a (List.mem_cons_of_mem _ listed)) b

end TaskWithin

def Fails (P : NodeError → Prop) (x : Action α) : Prop :=
  ∀ (n : Node) (e : NodeError) (n' : Node), n.perform x = (.error e, n') → P e

namespace Fails

variable {P : NodeError → Prop}

theorem pure (a : α) : Fails P (pure a) := by
  intro n e n' refused
  cases refused

theorem get : Fails P (get : Action Node) := by
  intro n e n' refused
  cases refused

theorem set (m : Node) : Fails P (set m : Action PUnit) := by
  intro n e n' refused
  cases refused

theorem modify (f : Node → Node) : Fails P (modify f : Action PUnit) := by
  intro n e n' refused
  cases refused

theorem throw {e : NodeError} (allowed : P e) : Fails P (throw e : Action α) := by
  intro n e n' refused
  cases refused
  exact allowed

theorem bind {x : Action α} {f : α → Action β} (first : Fails P x) (second : ∀ a, Fails P (f a)) :
    Fails P (x >>= f) := by
  intro n e n' refused
  rcases perform_bind_error.mp refused with early | ⟨a, m, _, later⟩
  · exact first n e n' early
  · exact second a m e n' later

theorem raise {wrap : ε → NodeError} {result : Except ε α} (allowed : ∀ cause, result = .error cause → P (wrap cause)) :
    Fails P (raise wrap result) := by
  intro n e n' refused
  obtain ⟨⟨cause, failed, wrapped⟩, _⟩ := perform_raise_error.mp refused
  rw [← wrapped]
  exact allowed cause failed

theorem account {id : AccountId} (allowed : P (.accountNotFound id)) : Fails P (account id) := by
  intro n e n' refused
  rw [perform_account] at refused
  cases known : n.ledger.account? id with
  | some a =>
    rw [known] at refused
    cases refused
  | none =>
    rw [known] at refused
    cases refused
    exact allowed

theorem tip {id : AccountId} (allowed : P (.ledger (.notOpened id))) : Fails P (tip id) := by
  intro n e n' refused
  rw [perform_tip] at refused
  cases last : n.ledger.latest? id with
  | some b =>
    rw [last] at refused
    cases refused
  | none =>
    rw [last] at refused
    cases refused
    exact allowed

end Fails

end BlockLattice.Node
