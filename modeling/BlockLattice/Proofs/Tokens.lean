import Mathlib.Data.List.Forall2
import Mathlib.Data.List.Pairwise
import BlockLattice.Proofs.Lookups

namespace BlockLattice

namespace VoteSet

variable {votes : VoteSet} {d : AccountId}

theorem contains_eq_false : Std.ExtTreeSet.contains votes d = false ↔ d ∉ votes := by
  rw [← Bool.not_eq_true, ← Std.ExtTreeSet.mem_iff_contains]

theorem insert_eq_self : votes.insert d = votes ↔ d ∈ votes := by
  constructor
  · intro same
    rw [← same]
    simp
  · intro listed
    apply Std.ExtTreeSet.ext_mem
    intro x
    by_cases mine : d = x
    · simp [← mine, listed]
    · simp [mine]

theorem erase_eq_self : votes.erase d = votes ↔ d ∉ votes := by
  constructor
  · intro same
    rw [← same]
    simp
  · intro missing
    apply Std.ExtTreeSet.ext_mem
    intro x
    by_cases mine : d = x
    · simp [← mine, missing]
    · simp [mine]

end VoteSet

namespace Election

-- How a list is cut into pieces: they are full, but for the last one.
structure Cuts (size : Nat) (items : List α) (pieces : List (List α)) : Prop where
  whole : pieces.flatten = items
  full : ∀ piece ∈ pieces.dropLast, piece.length = size
  some : ∀ piece ∈ pieces, piece ≠ [] ∧ piece.length ≤ size

theorem pieces_cuts {size : Nat} (some : 0 < size) {fuel : Nat} {items : List α} (enough : items.length ≤ fuel) :
    Cuts size items (pieces size fuel items) := by
  induction fuel generalizing items with
  | zero =>
    have empty : items = [] := List.length_eq_zero_iff.mp (Nat.le_zero.mp enough)
    constructor <;> simp [pieces, empty]
  | succ fuel ih =>
    rw [pieces]
    split
    · rename_i empty
      constructor <;> simp_all
    · rename_i begun
      have fewer : (items.drop size).length ≤ fuel := by
        rw [List.length_drop]
        omega
      have cuts := ih fewer
      have long : 0 < items.length := by simpa [List.length_pos_iff] using begun
      refine ⟨by rw [List.flatten_cons, cuts.whole, List.take_append_drop], ?_, ?_⟩
      · cases rest : pieces size fuel (items.drop size) with
        | nil => simp
        | cons next others =>
          -- There is more to come, so that the first piece is full.
          have more : items.drop size ≠ [] := by
            have begun := (cuts.some next (by simp [rest])).1
            rw [← cuts.whole, rest]
            simp [begun]
          rw [List.dropLast_cons_cons, ← rest]
          rintro piece (_ | ⟨_, later⟩)
          · rw [List.length_take]
            have := List.length_pos_iff.mpr more
            rw [List.length_drop] at this
            omega
          · exact cuts.full piece later
      · rintro piece (_ | ⟨_, later⟩)
        · rw [← List.length_pos_iff, List.length_take]
          omega
        · exact cuts.some piece later

theorem chunks_cuts (p : Params) (tokens : List String) :
    Cuts (Nat.max 1 p.maxDelegatesPerBlock.toNat) tokens (chunks p tokens).reverse := by
  rw [chunks, List.reverse_reverse]
  exact pieces_cuts (Nat.lt_of_lt_of_le Nat.zero_lt_one (Nat.le_max_left ..)) (Nat.le_refl _)

theorem Cuts.one {size : Nat} {item : α} {pieces : List (List α)} (cuts : Cuts size [item] pieces) :
    pieces = [[item]] := by
  have whole := cuts.whole
  cases pieces with
  | nil => cases whole
  | cons piece rest =>
    have begun := (cuts.some piece List.mem_cons_self).1
    rw [List.flatten_cons, List.append_eq_singleton_iff] at whole
    rcases whole with ⟨empty, _⟩ | ⟨rfl, none⟩
    · exact absurd empty begun
    · have last : rest = [] := by
        refine List.eq_nil_iff_forall_not_mem.mpr fun other listed => ?_
        exact (cuts.some other (List.mem_cons_of_mem _ listed)).1 (List.flatten_eq_nil_iff.mp none other listed)
      rw [last]

variable {l l' : Ledger} {votes : VoteSet} {token : String} {tokens : List String}

-- Who goes by a name: the registered account that is listed under it, in whatever
-- case it is written. Nobody goes by no name.
def bearer? (l : Ledger) (name : String) : Option AccountId :=
  if name = "" then none else l.usernames[Lowercase.text name]?.filter l.isRegistered

-- What a token asks for. One that does not start with a sign, or whose name nobody
-- goes by, asks for nothing.
inductive Asks (l : Ledger) : String → VoteChange → Prop where
  | add {name : String} {d : AccountId} : bearer? l name = some d → Asks l ("+" ++ name) (.add d)
  | remove {name : String} {d : AccountId} : bearer? l name = some d → Asks l ("-" ++ name) (.remove d)

def cast (l : Ledger) (votes : VoteSet) (token : String) : VoteSet :=
  match token.toList with
  | '+' :: name =>
    match bearer? l (.ofList name) with
    | some d => if l.isDelegate d then votes.insert d else votes
    | none => votes
  | '-' :: name =>
    match bearer? l (.ofList name) with
    | some d => votes.erase d
    | none => votes
  | _ => votes

section Tokens

variable {name : String} {d : AccountId} {c c' : VoteChange}

theorem bearer?_of_ne (written : name ≠ "") : bearer? l name = l.idByUsername? name := by
  rw [bearer?, if_neg written, Ledger.idByUsername?]
  cases l.usernames[Lowercase.text name]? with
  | none => rfl
  | some id => simp [Option.filter, Ledger.isRegistered]

theorem parseToken?_plus : parseToken? l ("+" ++ name) = (bearer? l name).map .add := by
  by_cases written : name = ""
  · subst written
    rfl
  · rw [parseToken?_add written, bearer?_of_ne written]

theorem parseToken?_minus : parseToken? l ("-" ++ name) = (bearer? l name).map .remove := by
  by_cases written : name = ""
  · subst written
    rfl
  · rw [parseToken?_remove written, bearer?_of_ne written]

inductive Sign : String → Prop where
  | plus (name : String) : Sign ("+" ++ name)
  | minus (name : String) : Sign ("-" ++ name)
  | none {token : String} : (∀ rest, token.toList ≠ '+' :: rest) → (∀ rest, token.toList ≠ '-' :: rest) → Sign token

theorem sign (token : String) : Sign token := by
  by_cases plus : ∃ rest, token.toList = '+' :: rest
  · obtain ⟨rest, chars⟩ := plus
    have token : token = "+" ++ String.ofList rest := String.toList_injective (by simp [chars])
    exact token ▸ .plus _
  · by_cases minus : ∃ rest, token.toList = '-' :: rest
    · obtain ⟨rest, chars⟩ := minus
      have token : token = "-" ++ String.ofList rest := String.toList_injective (by simp [chars])
      exact token ▸ .minus _
    · exact .none (fun rest chars => plus ⟨rest, chars⟩) fun rest chars => minus ⟨rest, chars⟩

theorem parseToken?_unsigned (plus : ∀ rest, token.toList ≠ '+' :: rest) (minus : ∀ rest, token.toList ≠ '-' :: rest) :
    parseToken? l token = none := by
  unfold parseToken?
  cases chars : token.toList with
  | nil => rfl
  | cons first rest =>
    have other : first ≠ '+' ∧ first ≠ '-' :=
      ⟨fun same => plus rest (same ▸ chars), fun same => minus rest (same ▸ chars)⟩
    simp [other]

theorem parseToken?_iff : parseToken? l token = some c ↔ Asks l token c := by
  constructor
  · intro parsed
    cases sign token with
    | plus name =>
      rw [parseToken?_plus] at parsed
      obtain ⟨d, found, rfl⟩ := Option.map_eq_some_iff.mp parsed
      exact .add found
    | minus name =>
      rw [parseToken?_minus] at parsed
      obtain ⟨d, found, rfl⟩ := Option.map_eq_some_iff.mp parsed
      exact .remove found
    | none plus minus =>
      rw [parseToken?_unsigned plus minus] at parsed
      cases parsed
  · intro asks
    cases asks with
    | add found => rw [parseToken?_plus, found, Option.map_some]
    | remove found => rw [parseToken?_minus, found, Option.map_some]

theorem Asks.unique (asks : Asks l token c) (also : Asks l token c') : c = c' :=
  Option.some.inj ((parseToken?_iff.mpr asks).symm.trans (parseToken?_iff.mpr also))

theorem cast_plus : cast l votes ("+" ++ name) =
    match bearer? l name with
    | some d => if l.isDelegate d then votes.insert d else votes
    | none => votes := by
  simp [cast]

theorem cast_minus : cast l votes ("-" ++ name) =
    match bearer? l name with
    | some d => votes.erase d
    | none => votes := by
  simp [cast]

theorem cast_unsigned (plus : ∀ rest, token.toList ≠ '+' :: rest) (minus : ∀ rest, token.toList ≠ '-' :: rest) :
    cast l votes token = votes := by
  unfold cast
  split
  · rename_i chars
    exact absurd chars (plus _)
  · rename_i chars
    exact absurd chars (minus _)
  · rfl

theorem cast_add (adds : Asks l token (.add d)) :
    cast l votes token = if l.isDelegate d then votes.insert d else votes := by
  cases adds with
  | add found => rw [cast_plus, found]

theorem cast_remove (removes : Asks l token (.remove d)) : cast l votes token = votes.erase d := by
  cases removes with
  | remove found => rw [cast_minus, found]

theorem cast_none (skipped : ∀ c, ¬Asks l token c) : cast l votes token = votes := by
  cases sign token with
  | plus name =>
    have nobody : bearer? l name = none := Option.eq_none_iff_forall_ne_some.mpr fun d found => skipped _ (.add found)
    rw [cast_plus, nobody]
  | minus name =>
    have nobody : bearer? l name = none :=
      Option.eq_none_iff_forall_ne_some.mpr fun d found => skipped _ (.remove found)
    rw [cast_minus, nobody]
  | none plus minus => exact cast_unsigned plus minus

theorem cast_some (asks : Asks l token c) :
    cast l votes token = if takesEffect l votes c then votes.change c else votes := by
  cases c with
  | add d =>
    rw [cast_add asks]
    by_cases listed : d ∈ votes
    · simp [takesEffect, VoteSet.insert_eq_self.mpr listed, Std.ExtTreeSet.mem_iff_contains.mp listed]
    · simp [takesEffect, VoteSet.change, VoteSet.contains_eq_false.mpr listed]
  | remove d =>
    rw [cast_remove asks]
    by_cases listed : d ∈ votes
    · simp [takesEffect, VoteSet.change, listed]
    · simp [takesEffect, VoteSet.erase_eq_self.mpr listed, listed]

theorem asks_of_parse (parsed : parseToken? l token = some c) : Asks l token c := parseToken?_iff.mp parsed

theorem silent_of_parse (skipped : parseToken? l token = none) (c : VoteChange) : ¬Asks l token c := by
  intro asks
  rw [parseToken?_iff.mpr asks] at skipped
  cases skipped

theorem mem_cast : d ∈ cast l votes token ↔
    (d ∈ votes ∨ Asks l token (.add d) ∧ l.isDelegate d = true) ∧ ¬Asks l token (.remove d) := by
  by_cases spoken : ∃ c, Asks l token c
  · obtain ⟨c, asks⟩ := spoken
    have only {c'} : Asks l token c' ↔ c' = c := ⟨fun also => also.unique asks, fun same => same ▸ asks⟩
    cases c with
    | add a =>
      rw [cast_add asks]
      by_cases same : a = d
      · cases delegate : l.isDelegate d <;> simp [only, same, delegate]
      · cases l.isDelegate a <;> simp [only, same, Ne.symm same]
    | remove a =>
      rw [cast_remove asks]
      by_cases same : a = d
      · simp [only, same]
      · simp [only, same, Ne.symm same]
  · have silent : ∀ c, ¬Asks l token c := fun c asks => spoken ⟨c, asks⟩
    simp [cast_none silent, silent]

end Tokens

theorem change_ne_self {c : VoteChange} (effect : takesEffect l votes c = true) : votes.change c ≠ votes := by
  cases c with
  | add d =>
    rw [VoteSet.change, ne_eq, VoteSet.insert_eq_self]
    simp only [takesEffect, Bool.and_eq_true, Bool.not_eq_eq_eq_not, Bool.not_true] at effect
    exact VoteSet.contains_eq_false.mp effect.2
  | remove d =>
    rw [VoteSet.change, ne_eq, VoteSet.erase_eq_self]
    simpa [takesEffect] using effect

theorem apply_plan (l : Ledger) (votes : VoteSet) (tokens : List String) :
    VoteSet.apply votes (plan l votes tokens) = tokens.foldl (cast l) votes := by
  induction tokens generalizing votes with
  | nil => rfl
  | cons token rest ih =>
    rw [plan, List.foldl_cons]
    cases parsed : parseToken? l token with
    | none =>
      rw [cast_none (silent_of_parse parsed)]
      exact ih votes
    | some c =>
      rw [cast_some (asks_of_parse parsed)]
      dsimp only
      split
      · exact ih (votes.change c)
      · exact ih votes

theorem plan_eq_nil_iff : plan l votes tokens = [] ↔ ∀ token ∈ tokens, cast l votes token = votes := by
  induction tokens with
  | nil => simp [plan]
  | cons token rest ih =>
    rw [plan]
    cases parsed : parseToken? l token with
    | none => simp [cast_none (silent_of_parse parsed), ih]
    | some c =>
      have asks := asks_of_parse parsed
      cases effect : takesEffect l votes c with
      | true => simp [cast_some asks, effect, change_ne_self effect]
      | false => simp [cast_some asks, effect, ih]

theorem plan_asked (l : Ledger) (votes : VoteSet) (tokens : List String) :
    ∃ asking, asking.Sublist tokens ∧ List.Forall₂ (Asks l) asking (plan l votes tokens) := by
  induction tokens generalizing votes with
  | nil => exact ⟨[], .slnil, .nil⟩
  | cons token rest ih =>
    rw [plan]
    cases parsed : parseToken? l token with
    | none =>
      obtain ⟨asking, some, asks⟩ := ih votes
      exact ⟨asking, some.cons token, asks⟩
    | some c =>
      dsimp only
      split
      · obtain ⟨asking, some, asks⟩ := ih (votes.change c)
        exact ⟨token :: asking, some.cons_cons token, .cons (asks_of_parse parsed) asks⟩
      · obtain ⟨asking, some, asks⟩ := ih votes
        exact ⟨asking, some.cons token, asks⟩

def effective (l : Ledger) : VoteSet → List (List String) → List (List String)
  | _, [] => []
  | votes, chunk :: rest =>
    (if ∀ token ∈ chunk, cast l votes token = votes then [] else [chunk]) ++
      effective l (chunk.foldl (cast l) votes) rest

theorem effective_of_ne (alters : cast l votes token ≠ votes) : effective l votes [[token]] = [[token]] := by
  simp [effective, alters]

def Differ (l : Ledger) (first second : String) : Prop :=
  ∀ c c', Asks l first c → Asks l second c' → c.delegate ≠ c'.delegate

theorem Differ.symm {first second : String} (differ : Differ l first second) : Differ l second first :=
  fun c c' asks asks' same => differ c' c asks' asks same.symm

instance : Std.Symm (Differ l) := ⟨fun _ _ => Differ.symm⟩

def Apart (l : Ledger) (tokens : List String) : Prop := tokens.Pairwise (Differ l)

theorem Apart.same (apart : Apart l tokens) {first second : String} {c c' : VoteChange} (listed : first ∈ tokens)
    (asks : Asks l first c) (listed' : second ∈ tokens) (asks' : Asks l second c') (named : c.delegate = c'.delegate) :
    c = c' := by
  by_cases one : first = second
  · subst one
    exact asks.unique asks'
  · exact absurd named (List.Pairwise.forall apart listed listed' one c c' asks asks')

theorem Apart.tail (apart : Apart l (token :: tokens)) : Apart l tokens := (List.pairwise_cons.mp apart).2

theorem Apart.perm {others : List String} (apart : Apart l tokens) (perm : others.Perm tokens) : Apart l others :=
  (perm.pairwise_iff Differ.symm).mpr apart

theorem mem_foldl_cast (apart : Apart l tokens) {d : AccountId} : d ∈ tokens.foldl (cast l) votes ↔
    (d ∈ votes ∨ ∃ token ∈ tokens, Asks l token (.add d) ∧ l.isDelegate d = true) ∧
      ∀ token ∈ tokens, ¬Asks l token (.remove d) := by
  induction tokens generalizing votes with
  | nil => simp
  | cons token rest ih =>
    rw [List.foldl_cons, ih apart.tail, mem_cast]
    simp only [List.mem_cons, exists_eq_or_imp, forall_eq_or_imp]
    constructor
    · rintro ⟨⟨old | here, kept⟩ | ⟨other, later, adds, delegate⟩, rest⟩
      · exact ⟨.inl old, kept, rest⟩
      · exact ⟨.inr (.inl here), kept, rest⟩
      · refine ⟨.inr (.inr ⟨other, later, adds, delegate⟩), fun removes => ?_, rest⟩
        cases apart.same (List.mem_cons_of_mem _ later) adds (List.mem_cons_self ..) removes rfl
    · rintro ⟨old | here | later, kept, rest⟩
      · exact ⟨.inl ⟨.inl old, kept⟩, rest⟩
      · exact ⟨.inl ⟨.inr here, kept⟩, rest⟩
      · exact ⟨.inr later, rest⟩

theorem cast_again (apart : Apart l tokens) (listed : token ∈ tokens) :
    cast l (tokens.foldl (cast l) votes) token = tokens.foldl (cast l) votes := by
  apply Std.ExtTreeSet.ext_mem
  intro d
  rw [mem_cast]
  constructor
  · rintro ⟨cast | ⟨adds, delegate⟩, _⟩
    · exact cast
    · refine (mem_foldl_cast apart).mpr ⟨.inr ⟨token, listed, adds, delegate⟩, fun other later removes => ?_⟩
      cases apart.same listed adds later removes rfl
  · intro cast
    exact ⟨.inl cast, ((mem_foldl_cast apart).mp cast).2 token listed⟩

end Election
end BlockLattice
