import BlockLattice.Proofs.BalanceSteps
import BlockLattice.Proofs.Digests

namespace BlockLattice

def Blueprint.follows (bp : Blueprint) : BlockHash := bp.previous.getD .zero

theorem isOpening_content (bp : Blueprint) (id : AccountId) (previous : BlockHash) (time : Timestamp) :
    (bp.content id previous time).isOpening = true ↔ bp.payload = .opening := by
  unfold Blueprint.content
  cases bp.payload <;> simp [Content.isOpening]

theorem source?_content (bp : Blueprint) (id : AccountId) (previous : BlockHash) (time : Timestamp) {s : BlockHash}
    (names : (bp.content id previous time).source? = some s) : bp.payload = .receive (some s) := by
  unfold Blueprint.content at names
  cases payload : bp.payload with
  | receive source =>
    rw [payload] at names
    dsimp only [Content.source?] at names
    split at names
    · cases names
    · rename_i nonzero
      cases source with
      | none => exact absurd rfl nonzero
      | some source => exact congrArg _ names
  | _ =>
    rw [payload] at names
    cases names

namespace Ledger

def Apart (l : Ledger) (c : Content) : Prop :=
  ∀ id k b, l.blockAt? id k = some b → b.hash = c.hash → b.digest = c.digest

structure Placed (l : Ledger) (id : AccountId) (bp : Blueprint) : Prop where
  known : l.isRegistered id = true
  builds : (bp.previous = none ∧ l.latest? id = none) ∨ ∃ b, bp.previous = some b.hash ∧ l.latest? id = some b
  kind : bp.payload = .opening ↔ bp.previous = none
  source : ∀ s, bp.payload = .receive (some s) → l.checkSource id s = .ok ()

theorem Sound.chain?_of_latest {l : Ledger} (sound : l.Sound) {id : AccountId} {b : Block}
    (last : l.latest? id = some b) : ∃ c, l.chain? id = some c ∧ c.Opened id ∧ c.head = b.hash := by
  obtain ⟨c, held, final⟩ := Option.bind_eq_some_iff.mp last
  have opened := sound.opened held
  exact ⟨c, held, opened, opened.head final⟩

theorem Sound.unopened_of_latest {l : Ledger} (sound : l.Sound) {id : AccountId} (bare : l.latest? id = none) :
    l.chain? id = none := by
  cases held : l.chain? id with
  | none => rfl
  | some c =>
    have begun := (sound.opened held).begun
    rw [latest?, held] at bare
    exact absurd (List.getLast?_eq_none_iff.mp bare) begun

theorem Sound.latest?_of_isOpened {l : Ledger} (sound : l.Sound) {id : AccountId} (opened : l.isOpened id = true) :
    ∃ b, l.latest? id = some b := by
  apply Option.ne_none_iff_exists'.mp
  intro bare
  rw [isOpened_eq, sound.unopened_of_latest bare] at opened
  cases opened

theorem Sound.position?_of_latest {l : Ledger} (sound : l.Sound) {id : AccountId} {b : Block}
    (last : l.latest? id = some b) : l.position? b.hash = some ⟨id, (l.chainOf id).length - 1⟩ :=
  sound.indexed.mpr ⟨b, latest?_eq_some.mp last, rfl⟩

theorem Sound.unopened_of_blank {l : Ledger} (sound : l.Sound) {id : AccountId} (blank : (l.chainOf id).blocks = []) :
    l.chain? id = none := by
  cases held : l.chain? id with
  | none => rfl
  | some c => exact absurd (by rw [← chainOf_of_chain? held, blank]) (sound.opened held).begun

theorem chain?_of_begun {l : Ledger} {id : AccountId} (begun : (l.chainOf id).blocks ≠ []) :
    l.chain? id = some (l.chainOf id) := by
  cases held : l.chain? id with
  | none => exact absurd (by rw [chainOf_unopened held]; rfl) begun
  | some c => rw [chainOf_of_chain? held]

theorem Sound.opening_owner {l : Ledger} (sound : l.Sound) {i id : AccountId} {k : Nat} {b : Block} {balance : Amount}
    {time : Timestamp} (found : l.blockAt? i k = some b) (content : b.content = .opening id balance time) : i = id := by
  obtain ⟨c, held, stored⟩ := blockAt?_eq_some.mp found
  have opened := sound.opened held
  cases k with
  | zero =>
    obtain ⟨_, _, first, begun, named⟩ := opened.first
    rw [begun] at stored
    cases stored
    rw [content] at named
    cases named
    rfl
  | succ k =>
    have later := opened.later stored
    rw [Block.isOpening, content] at later
    cases later

theorem Sound.bare_above {l : Ledger} (sound : l.Sound) {id i : AccountId} {k : Nat} {x : Block}
    (begun : (l.chainOf id).blocks ≠ []) (found : l.blockAt? i k = some x) (later : x.isOpening = false)
    (follows : x.previous = (l.chainOf id).head) : False := by
  obtain ⟨m, a, rfl, before, stands⟩ := sound.preceded found later
  have held := chain?_of_begun begun
  obtain ⟨last, final⟩ : ∃ last, l.latest? id = some last := by
    rw [latest?, held]
    exact ⟨_, List.getLast?_eq_some_getLast begun⟩
  have tip : (l.chainOf id).head = last.hash := by
    apply (sound.opened held).head
    rwa [latest?, held] at final
  obtain ⟨rfl, rfl⟩ := sound.unique before (latest?_eq_some.mp final) (by rw [← stands, follows, tip])
  have size : (l.chainOf i).length ≠ 0 := by simpa [Chain.length] using begun
  rw [Nat.sub_add_cancel (Nat.pos_of_ne_zero size), blockAt?_end] at found
  cases found

-- What says the same as a block of the ledger fits no chain. It would stand on the
-- same block, but nothing stands on a tip.
theorem Sound.unfit {l : Ledger} (sound : l.Sound) {id j : AccountId} {k : Nat} {b x : Block}
    (found : l.blockAt? j k = some x) (same : x.content = b.content) : ¬ (l.chainOf id).Fits b := by
  intro fits
  cases fits with
  | first blank named =>
    obtain ⟨balance, time, content⟩ := named
    have missing := sound.unopened_of_blank blank
    rw [chainOf_unopened missing] at content
    have owner := sound.opening_owner found (same.trans content)
    rw [blockAt?, owner] at found
    change (l.chain? id).bind _ = some x at found
    rw [missing] at found
    cases found
  | next begun later follows =>
    have other : x.isOpening = false := by rw [Block.isOpening, same]; exact later
    exact sound.bare_above begun found other (by rw [Block.previous, same]; exact follows)

theorem Sound.fresh {l : Ledger} (sound : l.Sound) {id : AccountId} {b : Block} (fits : (l.chainOf id).Fits b)
    (apart : l.Apart b.content) : l.index[b.hash]? = none := by
  cases placed : l.index[b.hash]? with
  | none => rfl
  | some p =>
    obtain ⟨x, found, clash⟩ := sound.indexed.mp placed
    exact absurd fits (sound.unfit found (Content.eq_of_digest (apart _ _ _ found clash)))

namespace Placed

variable {l : Ledger} {id : AccountId} {bp : Blueprint}

theorem previousFor (placed : l.Placed id bp) (sound : l.Sound) : Round.previousFor l id bp = .ok bp.follows := by
  unfold Round.previousFor Blueprint.follows Blueprint.kind
  rcases placed.builds with ⟨start, bare⟩ | ⟨b, builds, last⟩
  · have opens := placed.kind.mpr start
    have unopened : l.isOpened id = false := by rw [isOpened_eq, sound.unopened_of_latest bare]; rfl
    simp [opens, start, unopened, Payload.kind]
  · have other : bp.payload ≠ .opening := by simp [placed.kind, builds]
    have owned : l.blockAccount? b.hash = some id := by
      rw [blockAccount?, sound.position?_of_latest last]; rfl
    cases payload : bp.payload with
    | opening => exact absurd payload other
    | _ => simp [builds, owned, Payload.kind]

theorem fits (placed : l.Placed id bp) (sound : l.Sound) {b : Block} {time : Timestamp}
    (tells : b.content = bp.content id bp.follows time) : (l.chainOf id).Fits b := by
  rcases placed.builds with ⟨start, bare⟩ | ⟨tip, builds, last⟩
  · have opens := placed.kind.mpr start
    apply Chain.Fits.first
    · rw [chainOf_unopened (sound.unopened_of_latest bare)]
      rfl
    · rw [chainOf_unopened (sound.unopened_of_latest bare), tells, Blueprint.content, opens]
      exact ⟨_, _, rfl⟩
  · obtain ⟨c, held, opened, head⟩ := sound.chain?_of_latest last
    have other : bp.payload ≠ .opening := by simp [placed.kind, builds]
    rw [chainOf_of_chain? held]
    apply Chain.Fits.next opened.begun
    · rw [Block.isOpening, tells, Bool.eq_false_iff]
      exact fun opens => other ((isOpening_content ..).mp opens)
    · rw [Block.previous, tells, head, Blueprint.content, Blueprint.follows, builds]
      cases payload : bp.payload with
      | opening => exact absurd payload other
      | _ => rfl

theorem appends (placed : l.Placed id bp) (sound : l.Sound) {b : Block} {time : Timestamp}
    (tells : b.content = bp.content id bp.follows time) (apart : l.Apart b.content) : l.Appends id b where
  known := placed.known
  fits := placed.fits sound tells
  fresh := sound.fresh (placed.fits sound tells) apart
  source := by
    unfold checkSourceOf
    cases names : b.source? with
    | none => rfl
    | some s =>
      rw [Block.source?, tells] at names
      exact placed.source s (source?_content _ _ _ _ names)

end Placed

theorem tipBalance_known {l : Ledger} {id : AccountId} {bp : Blueprint} {tip : Option Amount}
    (found : l.tipBalance id bp = .ok tip) : l.isRegistered id = true := by
  unfold tipBalance at found
  cases known : l.isRegistered id with
  | true => rfl
  | false => rw [known] at found; cases found

theorem check_known {l : Ledger} {p : Params} {id : AccountId} {bp : Blueprint} (checked : l.check p id bp = .ok ()) :
    l.isRegistered id = true := by
  unfold check at checked
  split at checked
  · cases checked
  · cases found : l.tipBalance id bp with
    | error e => rw [found] at checked; cases checked
    | ok tip => exact tipBalance_known found

theorem checkPayload_source {l : Ledger} {p : Params} {id : AccountId} {bp : Blueprint} {s : BlockHash}
    (receives : bp.payload = .receive (some s)) (allowed : l.checkPayload p id bp = .ok ()) :
    l.checkSource id s = .ok () := by
  unfold checkPayload at allowed
  rw [receives] at allowed
  dsimp only at allowed
  cases checked : l.checkSource id s with
  | error e => rw [checked] at allowed; cases allowed
  | ok _ => rfl

theorem placed_of_check {l : Ledger} {p : Params} {id : AccountId} {bp : Blueprint}
    (checked : l.check p id bp = .ok ()) (kind : bp.payload = .opening ↔ bp.previous = none) : l.Placed id bp where
  known := check_known checked
  builds := (check_ok checked).builds
  kind := kind
  source _ receives := checkPayload_source receives (check_ok checked).allowed

end Ledger
end BlockLattice
