import Mathlib.Data.List.Induction
import MultiWallet.Proofs.Run
import MultiWallet.Proofs.Settling

/-!
Submissions in runs of a registry. Whoever submits a transfer gets a receipt, which
follows what is given to the registry from then on: the first thing that decides
about the submission settles or closes it, and nothing does so twice. A wallet takes
another submission as soon as nobody waits for the last one.
-/

namespace MultiWallet

open Outside

variable {W : Type}

/-- The commands to managers. -/
def Outside.commands (outside : Outside W) : List (EngineManager × ManagerCommand) :=
  outside.journal.filterMap Effect.command?

theorem Outside.Adds.commands {before after : Outside W} {effects : List Effect}
    (h : Adds before after effects) :
    after.commands = before.commands ++ effects.filterMap Effect.command? := by
  simp [Outside.commands, h.journal]

namespace Scene

/-- What can happen to submissions: something is given to the registry, the world goes
its own way, or the holder of a receipt lets it go or takes the outcome from it. -/
inductive Move (W : Type) where
  | given (input : Input)
  | elsewhere (world : W)
  | letGo (receipt : ReceiptId)
  | take (receipt : ReceiptId)

/-- A move as something that happens to a scene. -/
def Move.happening (scene : Scene W) : Move W → Happening W
  | given input => .given input
  | elsewhere world => .meanwhile world scene.outside.receipts
  | letGo receipt => .meanwhile scene.outside.world (scene.outside.receipts.modify receipt (·.letGo))
  | take receipt => .meanwhile scene.outside.world (scene.outside.receipts.modify receipt (·.taken))

/-- The scene after some moves in order. -/
def course (host : Host W) (scene : Scene W) (moves : List (Move W)) : Scene W :=
  moves.foldl (fun scene move => scene.after host (move.happening scene)) scene

/-- A transfer of a wallet was submitted in the course of some moves, for a receipt.
The moves after that are the later ones. -/
def Submitted (host : Host W) (start : Scene W) (moves : List (Move W)) (uid : CurrencyId)
    (id : TransferId) (receipt : ReceiptId) (later : List (Move W)) : Prop :=
  ∃ (before : List (Move W)) (transfer : Transfer) (secret : Bytes),
    moves = before ++ .given (.command (.submit uid transfer secret)) :: later ∧
      transfer.id = id ∧
      ((start.course host before).turn host (.command (.submit uid transfer secret))).answer =
        .ok (.receipt receipt)

/-- What a move decides about the submission of a transfer from a wallet. -/
def Move.decision? (uid : CurrencyId) (id : TransferId) : Move W → Option ReceiptStatus
  | given input => input.decision? uid id
  | _ => none

/-! ### The course of a receipt -/

end Scene

namespace Receipt

open Scene

/-- A receipt that was issued for a transfer of a wallet, after a move. -/
def follow (uid : CurrencyId) (id : TransferId) (number : ReceiptId) (receipt : Receipt) :
    Move W → Receipt
  | .given input => receipt.heed uid id input
  | .elsewhere _ => receipt
  | .letGo other => if other = number then receipt.letGo else receipt
  | .take other => if other = number then receipt.taken else receipt

variable {uid : CurrencyId} {id : TransferId} {number : ReceiptId} {receipt : Receipt}

theorem isHeld_follow (move : Move W) :
    (receipt.follow uid id number move).isHeld = true ↔
      receipt.isHeld = true ∧ move ≠ .letGo number := by
  have decided (status : ReceiptStatus) : (receipt.decide status).isHeld = receipt.isHeld := by
    rw [Receipt.decide]
    split <;> rfl
  cases move with
  | given input =>
      have same : (receipt.heed uid id input).isHeld = receipt.isHeld := by
        rw [heed]
        split
        · exact decided _
        · split
          · rw [close_eq_decide, decided]
          · rfl
      simp [follow, same]
  | elsewhere world => simp [follow]
  | letGo other =>
      rw [follow]
      split
      · simp_all [Receipt.letGo]
      · simp_all
  | take other =>
      have same : receipt.taken.isHeld = receipt.isHeld := by
        rw [taken]
        split <;> rfl
      rw [follow]
      split <;> simp [same]

theorem isHeld_foldl_follow (moves : List (Move W)) :
    (moves.foldl (follow uid id number) receipt).isHeld = true ↔
      receipt.isHeld = true ∧ .letGo number ∉ moves := by
  induction moves generalizing receipt with
  | nil => simp
  | cons move rest ih =>
      rw [List.foldl_cons, ih, isHeld_follow, List.mem_cons, not_or, and_assoc, ne_comm]

/-- What is over stays as it is, but for the outcome being taken. -/
theorem status_foldl_follow_of_done (done : receipt.status ≠ .waiting) (moves : List (Move W)) :
    (moves.foldl (follow uid id number) receipt).status = receipt.status ∨
      (moves.foldl (follow uid id number) receipt).status = .closed ∧ .take number ∈ moves := by
  induction moves generalizing receipt with
  | nil => exact .inl rfl
  | cons move rest ih =>
      have unchanged (same : (receipt.follow uid id number move).status = receipt.status) :
          ((move :: rest).foldl (follow uid id number) receipt).status = receipt.status ∨
            ((move :: rest).foldl (follow uid id number) receipt).status = .closed ∧
              .take number ∈ move :: rest := by
        refine (ih (same ▸ done)).imp (·.trans same) fun taken => ⟨taken.1, ?_⟩
        exact List.mem_cons_of_mem move taken.2
      cases move with
      | given input =>
          exact unchanged (congrArg Receipt.status (heed_of_ne_waiting done))
      | elsewhere world => exact unchanged rfl
      | letGo other =>
          refine unchanged ?_
          rw [follow]
          split <;> rfl
      | take other =>
          by_cases same : other = number
          · subst same
            have closed :
                (receipt.follow uid id other (.take other : Move W)).status = .closed := by
              rw [follow, if_pos rfl, taken, if_neg done]
            refine .inr ⟨?_, List.mem_cons_self⟩
            rcases ih (closed ▸ nofun : (receipt.follow uid id other (.take other : Move W)).status ≠
              .waiting) with kept | ⟨kept, -⟩
            · exact kept.trans closed
            · exact kept
          · exact unchanged (congrArg Receipt.status (if_neg same))

/-- While it is held and nothing is decided, a receipt waits. -/
theorem foldl_follow_of_undecided (held : receipt.isHeld = true) (waits : receipt.status = .waiting)
    {moves : List (Move W)} (undecided : ∀ move ∈ moves, move.decision? uid id = none)
    (kept : .letGo number ∉ moves) : moves.foldl (follow uid id number) receipt = receipt := by
  induction moves with
  | nil => rfl
  | cons move rest ih =>
      obtain ⟨here, later⟩ := List.forall_mem_cons.1 undecided
      rw [List.mem_cons, not_or] at kept
      have same : receipt.follow uid id number move = receipt := by
        cases move with
        | given input => exact heed_of_none here fun _ => held
        | elsewhere world => rfl
        | letGo other => exact if_neg fun same => kept.1 (congrArg Move.letGo same.symm)
        | take other => simp [follow, taken, waits]
      rw [List.foldl_cons, same, ih later kept.2]

theorem status_follow_ne_settled (unsettled : ∀ outcome, receipt.status ≠ .settled outcome)
    {move : Move W} (idle : receipt.isHeld = false ∨ move.decision? uid id = none)
    (outcome : SendOutcome) : (receipt.follow uid id number move).status ≠ .settled outcome := by
  have closed : receipt.close.status ≠ .settled outcome := by
    rw [close]
    split
    · simp
    · exact unsettled outcome
  cases move with
  | given input =>
      rw [follow, heed]
      cases decided : input.decision? uid id with
      | some status =>
          have notHeld : receipt.isHeld = false :=
            idle.resolve_right fun none => by cases decided.symm.trans none
          dsimp only
          rw [← close_eq_decide_of_not_held notHeld]
          exact closed
      | none =>
          dsimp only
          split
          · exact closed
          · exact unsettled outcome
  | elsewhere world => exact unsettled outcome
  | letGo other =>
      rw [follow]
      split <;> exact unsettled outcome
  | take other =>
      rw [follow, taken]
      split
      · split
        · exact unsettled outcome
        · simp
      · exact unsettled outcome

/-- As long as nothing is decided while it is held, a receipt is not settled. -/
theorem status_foldl_follow_ne_settled (unsettled : ∀ outcome, receipt.status ≠ .settled outcome)
    {moves : List (Move W)}
    (idle : receipt.isHeld = false ∨ ∀ move ∈ moves, move.decision? uid id = none)
    (outcome : SendOutcome) :
    (moves.foldl (follow uid id number) receipt).status ≠ .settled outcome := by
  induction moves generalizing receipt with
  | nil => exact unsettled outcome
  | cons move rest ih =>
      have here : receipt.isHeld = false ∨ move.decision? uid id = none :=
        idle.imp_right fun undecided => undecided move List.mem_cons_self
      refine ih (status_follow_ne_settled unsettled here)
        (idle.imp (fun notHeld => ?_) (List.forall_mem_cons.1 · |>.2))
      rw [← Bool.not_eq_true, isHeld_follow, notHeld]
      simp

/-- What a receipt says after some moves since it was issued for a transfer of a
wallet. -/
structure Correlated (uid : CurrencyId) (id : TransferId) (number : ReceiptId)
    (later : List (Move W)) (receipt : Receipt) : Prop where
  held : receipt.isHeld = true ↔ .letGo number ∉ later
  /-- It waits until something is decided or it is let go. -/
  waiting : (∀ move ∈ later, move.decision? uid id = none) → .letGo number ∉ later →
    receipt.status = .waiting
  /-- The first decision is what it says from then on, until that is taken. -/
  decided : ∀ (earlier : List (Move W)) (move : Move W) (rest : List (Move W))
    (status : ReceiptStatus), later = earlier ++ move :: rest →
      (∀ move ∈ earlier, move.decision? uid id = none) → .letGo number ∉ earlier →
      move.decision? uid id = some status →
      receipt.status = status ∨ receipt.status = .closed ∧ .take number ∈ rest
  /-- If it was let go before any decision, it is never settled. -/
  letGo : ∀ (earlier rest : List (Move W)), later = earlier ++ .letGo number :: rest →
    (∀ move ∈ earlier, move.decision? uid id = none) →
    ∀ outcome, receipt.status ≠ .settled outcome

theorem correlated_foldl_follow (uid : CurrencyId) (id : TransferId) (number : ReceiptId)
    (later : List (Move W)) :
    Correlated uid id number later (later.foldl (follow uid id number) .fresh) where
  held := by simp [isHeld_foldl_follow, fresh]
  waiting undecided kept := by
    rw [foldl_follow_of_undecided rfl rfl undecided kept]
    rfl
  decided earlier move rest status split undecided kept decides := by
    obtain ⟨input, rfl, decides⟩ : ∃ input, move = .given input ∧
        input.decision? uid id = some status := by
      cases move with
      | given input => exact ⟨input, rfl, decides⟩
      | _ => cases decides
    have decisive : status ≠ .waiting := fun waits =>
      input.decision?_ne_waiting uid id (decides.trans (congrArg some waits))
    have settled : (Receipt.fresh.heed uid id input).status = status := by
      rw [heed_of_decision decides]
      rfl
    rw [split, List.foldl_append, foldl_follow_of_undecided rfl rfl undecided kept, List.foldl_cons]
    subst settled
    exact status_foldl_follow_of_done decisive rest
  letGo earlier rest split undecided outcome := by
    rw [split, List.foldl_append, List.foldl_cons]
    refine status_foldl_follow_ne_settled (fun outcome => ?_) (.inl ?_) outcome
    · rw [follow, if_pos rfl]
      exact status_foldl_follow_ne_settled (fun _ => by simp [fresh]) (.inr undecided) outcome
    · rw [follow, if_pos rfl]
      rfl

end Receipt

namespace Ledger

open Scene

variable {entries : List (CurrencyId × TransferId)} {registry : Registry} {receipts : Receipts}

/-- Whether somebody still holds a receipt does not matter to a ledger, nor whether an
outcome was taken. -/
theorem modify (ledger : Ledger entries registry receipts) (id : ReceiptId)
    {change : Receipt → Receipt}
    (same : ∀ receipt, (change receipt).status = .waiting ↔ receipt.status = .waiting) :
    Ledger entries registry (receipts.modify id change) := by
  have waits (other : ReceiptId) : (receipts.modify id change).status? other = some .waiting ↔
      receipts.status? other = some .waiting := by
    rw [Receipts.status?_eq_some_iff, Receipts.status?_eq_some_iff]
    by_cases here : id = other
    · subst here
      rw [Receipts.get?_modify_self]
      simp [same]
    · rw [Receipts.get?_modify_of_ne here]
  exact
    { length := by simpa [Receipts.modify] using ledger.length
      pending := fun uid pending found =>
        (ledger.pending uid pending found).imp_right (waits pending.receipt).2
      waiting := fun uid id receipt entry waiting =>
        ledger.waiting uid id receipt entry ((waits receipt).1 waiting) }

end Ledger

namespace Scene

/-! ### Courses -/

theorem course_append (host : Host W) (scene : Scene W) (earlier later : List (Move W)) :
    scene.course host (earlier ++ later) = (scene.course host earlier).course host later :=
  List.foldl_append

theorem course_concat (host : Host W) (scene : Scene W) (moves : List (Move W)) (move : Move W) :
    scene.course host (moves ++ [move]) =
      (scene.course host moves).after host (move.happening (scene.course host moves)) := by
  simp [course]

theorem Sound.course {config : Config} {scene : Scene W} (h : Sound config scene) (host : Host W)
    (moves : List (Move W)) : Sound config (scene.course host moves) := by
  induction moves using List.reverseRecOn with
  | nil => exact h
  | append_singleton moves move ih =>
      rw [course_concat]
      exact ih.after host _

/-- A submission in the course of some moves is one of all but the last, or it is the
last. -/
theorem submitted_concat {host : Host W} {start : Scene W} {moves : List (Move W)} {move : Move W}
    {uid : CurrencyId} {id : TransferId} {receipt : ReceiptId} {later : List (Move W)} :
    Submitted host start (moves ++ [move]) uid id receipt later ↔
      (∃ rest, later = rest ++ [move] ∧ Submitted host start moves uid id receipt rest) ∨
        later = [] ∧ ∃ transfer secret, move = .given (.command (.submit uid transfer secret)) ∧
          transfer.id = id ∧
          ((start.course host moves).turn host (.command (.submit uid transfer secret))).answer =
            .ok (.receipt receipt) := by
  constructor
  · rintro ⟨before, transfer, secret, split, same, answer⟩
    cases later using List.reverseRecOn with
    | nil =>
        obtain ⟨rfl, last⟩ := List.append_inj' split rfl
        exact .inr ⟨rfl, transfer, secret, List.singleton_inj.1 last, same, answer⟩
    | append_singleton rest last =>
        rw [← List.cons_append, ← List.append_assoc] at split
        obtain ⟨whole, last⟩ := List.append_inj' split rfl
        obtain rfl := List.singleton_inj.1 last
        exact .inl ⟨rest, rfl, before, transfer, secret, whole, same, answer⟩
  · rintro (⟨rest, rfl, before, transfer, secret, rfl, same, answer⟩ |
      ⟨rfl, transfer, secret, rfl, same, answer⟩)
    · exact ⟨before, transfer, secret, by simp, same, answer⟩
    · exact ⟨moves, transfer, secret, rfl, same, answer⟩

theorem Submitted.append {host : Host W} {start : Scene W} {moves later : List (Move W)}
    {uid : CurrencyId} {id : TransferId} {receipt : ReceiptId}
    (h : Submitted host start moves uid id receipt later) (rest : List (Move W)) :
    Submitted host start (moves ++ rest) uid id receipt (later ++ rest) := by
  obtain ⟨before, transfer, secret, rfl, same, answer⟩ := h
  exact ⟨before, transfer, secret, by simp, same, answer⟩

/-- The receipts follow a move, and a ledger is left that may list more of them. -/
structure Follows (host : Host W) (scene : Scene W) (move : Move W)
    (entries entries' : List (CurrencyId × TransferId)) : Prop where
  ledger : Ledger entries' (scene.after host (move.happening scene)).registry
    (scene.after host (move.happening scene)).outside.receipts
  followed : ∀ uid id receipt, entries[receipt.number]? = some (uid, id) →
    (scene.after host (move.happening scene)).outside.receipts.get? receipt =
      (scene.outside.receipts.get? receipt).map (·.follow uid id receipt move)

section Moving

variable {config : Config} {host : Host W} {scene : Scene W}
  {entries : List (CurrencyId × TransferId)}

/-- What a holder does to a receipt. -/
theorem follows_modify (ledger : Ledger entries scene.registry scene.outside.receipts)
    {move : Move W} {number : ReceiptId} (change : Receipt → Receipt)
    (same : ∀ receipt, (change receipt).status = .waiting ↔ receipt.status = .waiting)
    (happening : move.happening scene =
      .meanwhile scene.outside.world (scene.outside.receipts.modify number change))
    (follow : ∀ uid id other receipt, Receipt.follow uid id other receipt move =
      if number = other then change receipt else receipt) :
    Follows host scene move entries entries := by
  refine ⟨?_, fun uid id receipt _ => ?_⟩ <;> rw [happening]
  · exact ledger.modify number same
  · change (scene.outside.receipts.modify number change).get? receipt = _
    simp only [follow]
    by_cases here : number = receipt
    · subst here
      simp [Receipts.get?_modify_self]
    · simp [Receipts.get?_modify_of_ne here, here]

/-- All moves but submissions are followed. -/
theorem follows_of_other (sound : scene.Sound config)
    (ledger : Ledger entries scene.registry scene.outside.receipts) {move : Move W}
    (other : ∀ uid transfer secret, move ≠ .given (.command (.submit uid transfer secret))) :
    Follows host scene move entries entries := by
  cases move with
  | given input =>
      have heeds := ledger.handle_heeds (fun closed => (sound.registry.vacant closed).2.2) host
        input fun uid transfer secret same => other uid transfer secret (congrArg Move.given same)
      exact ⟨heeds.ledger, heeds.heeded⟩
  | elsewhere world =>
      refine ⟨ledger, fun uid id receipt _ => ?_⟩
      cases found : scene.outside.receipts.get? receipt <;> exact found
  | letGo number => exact follows_modify ledger (·.letGo) (fun _ => Iff.rfl) rfl fun _ _ _ _ => rfl
  | take number =>
      refine follows_modify ledger (·.taken) (fun receipt => ?_) rfl fun _ _ _ _ => rfl
      by_cases waits : receipt.status = .waiting <;> simp [Receipt.taken, waits]

/-- A submission is refused and followed, or it is carried out and added to the ledger. -/
theorem follows_submit_cases (ledger : Ledger entries scene.registry scene.outside.receipts)
    (uid : CurrencyId) (transfer : Transfer) (secret : Bytes) :
    ((∃ error, (scene.turn host (.command (.submit uid transfer secret))).answer = .error error) ∧
        Follows host scene (.given (.command (.submit uid transfer secret))) entries entries) ∨
      (scene.turn host (.command (.submit uid transfer secret))).answer =
          .ok (.receipt scene.outside.receipts.nextId) ∧
        Follows host scene (.given (.command (.submit uid transfer secret))) entries
          (entries ++ [(uid, transfer.id)]) ∧
        (scene.turn host (.command (.submit uid transfer secret))).outside.receipts.get?
          scene.outside.receipts.nextId = some .fresh := by
  have answer : (scene.turn host (.command (.submit uid transfer secret))).answer =
      (scene.registry.submit host uid transfer secret scene.outside).answer.map .receipt := rfl
  rw [answer]
  rcases ledger.submit_cases host uid transfer secret with
    ⟨⟨error, refused⟩, heeds⟩ | ⟨issued, listed, fresh, heeded⟩
  · rw [refused]
    exact .inl ⟨⟨error, rfl⟩, heeds.ledger, heeds.heeded⟩
  · rw [issued]
    exact .inr ⟨rfl, ⟨listed, heeded⟩, fresh⟩

end Moving

/-- The receipts of a course are accounted for: the ledger lists the submissions, and
each receipt has followed the moves since then. -/
structure Accounted (host : Host W) (start : Scene W) (moves : List (Move W))
    (entries : List (CurrencyId × TransferId)) : Prop where
  ledger : Ledger entries (start.course host moves).registry
    (start.course host moves).outside.receipts
  submitted : ∀ uid id receipt, entries[receipt.number]? = some (uid, id) →
    ∃ later, Submitted host start moves uid id receipt later
  followed : ∀ uid id receipt later, Submitted host start moves uid id receipt later →
    entries[receipt.number]? = some (uid, id) ∧
      (start.course host moves).outside.receipts.get? receipt =
        some (later.foldl (Receipt.follow uid id receipt) .fresh)

namespace Accounted

variable {host : Host W} {start : Scene W} {moves : List (Move W)} {move : Move W}
  {entries : List (CurrencyId × TransferId)}

/-- Receipts that follow one more move, by which none is issued. -/
theorem keep (accounted : Accounted host start moves entries)
    (follows : Follows host (start.course host moves) move entries entries)
    (refused : ∀ uid transfer secret receipt,
      move = .given (.command (.submit uid transfer secret)) →
        ((start.course host moves).turn host (.command (.submit uid transfer secret))).answer ≠
          .ok (.receipt receipt)) :
    Accounted host start (moves ++ [move]) entries where
  ledger := by
    rw [course_concat]
    exact follows.ledger
  submitted uid id receipt entry := by
    obtain ⟨later, submitted⟩ := accounted.submitted uid id receipt entry
    exact ⟨later ++ [move], submitted.append [move]⟩
  followed uid id receipt later submitted := by
    rcases submitted_concat.1 submitted with
      ⟨rest, rfl, before⟩ | ⟨-, transfer, secret, same, -, answer⟩
    · obtain ⟨entry, found⟩ := accounted.followed uid id receipt rest before
      rw [course_concat, follows.followed uid id receipt entry, found, List.foldl_append]
      exact ⟨entry, rfl⟩
    · exact absurd answer (refused uid transfer secret receipt same)

/-- One more submission is carried out. -/
theorem grow (accounted : Accounted host start moves entries) {uid : CurrencyId}
    {transfer : Transfer} {secret : Bytes}
    (follows : Follows host (start.course host moves)
      (.given (.command (.submit uid transfer secret))) entries (entries ++ [(uid, transfer.id)]))
    (answer : ((start.course host moves).turn host (.command (.submit uid transfer secret))).answer =
      .ok (.receipt (start.course host moves).outside.receipts.nextId))
    (fresh : ((start.course host moves).turn host
      (.command (.submit uid transfer secret))).outside.receipts.get?
        (start.course host moves).outside.receipts.nextId = some .fresh) :
    Accounted host start (moves ++ [.given (.command (.submit uid transfer secret))])
      (entries ++ [(uid, transfer.id)]) where
  ledger := by
    rw [course_concat]
    exact follows.ledger
  submitted other id receipt entry := by
    rcases Nat.lt_or_ge receipt.number entries.length with inside | outside
    · rw [List.getElem?_append_left inside] at entry
      obtain ⟨later, submitted⟩ := accounted.submitted other id receipt entry
      exact ⟨_, submitted.append _⟩
    · rw [List.getElem?_append_right outside, List.getElem?_singleton] at entry
      split at entry
      · rename_i first
        cases entry
        have number : receipt = (start.course host moves).outside.receipts.nextId :=
          congrArg ReceiptId.mk (by rw [accounted.ledger.length]; omega)
        exact ⟨[], moves, transfer, secret, rfl, rfl, number ▸ answer⟩
      · cases entry
  followed other id receipt later submitted := by
    rcases submitted_concat.1 submitted with
      ⟨rest, rfl, before⟩ | ⟨rfl, transfer', secret', same, rfl, answer'⟩
    · obtain ⟨entry, found⟩ := accounted.followed other id receipt rest before
      have inside := (List.getElem?_eq_some_iff.1 entry).1
      rw [course_concat, follows.followed other id receipt entry, found, List.foldl_append]
      exact ⟨(List.getElem?_append_left inside).trans entry, rfl⟩
    · cases same
      obtain rfl := Reply.receipt.inj (Except.ok.inj (answer.symm.trans answer'))
      rw [course_concat]
      refine ⟨?_, fresh⟩
      change (entries ++ [(uid, transfer.id)])[List.length _]? = _
      rw [accounted.ledger.length, List.getElem?_concat_length]

end Accounted

/-- The receipts of every course are accounted for. -/
theorem accounted_course (host : Host W) (config : Config) (world : W) (moves : List (Move W)) :
    ∃ entries, Accounted host (first config world) moves entries := by
  induction moves using List.reverseRecOn with
  | nil =>
      refine ⟨[], .fresh config, fun uid id receipt entry => by simp at entry, ?_⟩
      rintro uid id receipt later ⟨before, transfer, secret, split, -⟩
      simp at split
  | append_singleton moves move ih =>
      obtain ⟨entries, accounted⟩ := ih
      by_cases submits : ∃ uid transfer secret,
          move = .given (.command (.submit uid transfer secret))
      · obtain ⟨uid, transfer, secret, rfl⟩ := submits
        rcases follows_submit_cases accounted.ledger uid transfer secret with
          ⟨⟨error, refused⟩, follows⟩ | ⟨answer, follows, fresh⟩
        · refine ⟨entries, accounted.keep follows fun uid' transfer' secret' receipt same => ?_⟩
          cases same
          rw [refused]
          nofun
        · exact ⟨_, accounted.grow follows answer fresh⟩
      · have other (uid transfer secret) :
            move ≠ .given (.command (.submit uid transfer secret)) := fun same =>
          submits ⟨uid, transfer, secret, same⟩
        have sound := (Sound.first config world).course host moves
        exact ⟨entries, accounted.keep (follows_of_other sound accounted.ledger other)
          fun uid transfer secret _ same => absurd same (other uid transfer secret)⟩

namespace Accounted

variable {config : Config} {host : Host W} {start : Scene W} {moves : List (Move W)}
  {entries : List (CurrencyId × TransferId)} {uid : CurrencyId} {controller : WalletController}

/-- A submission that somebody waits for keeps the wallet from another one. -/
theorem submit_refused (accounted : Accounted host start moves entries)
    (sound : (start.course host moves).Sound config)
    (found : (start.course host moves).registry.wallets[uid]? = some controller)
    {id : TransferId} {receipt : ReceiptId} {later : List (Move W)}
    (submitted : Submitted host start moves uid id receipt later)
    (awaited : (start.course host moves).outside.receipts.isAwaited receipt = true)
    (transfer : Transfer) (secret : Bytes) :
    (start.course host moves).turn host (.command (.submit uid transfer secret)) =
      (start.course host moves).registry.refuse (start.course host moves).outside
        (.violation (.sendAlreadyPending uid id)) := by
  obtain ⟨given, there, waits⟩ := (Option.any_eq_true _ _).1 awaited
  rw [Receipt.isAwaited, Bool.and_eq_true, beq_iff_eq] at waits
  have entry := (accounted.followed uid id receipt later submitted).1
  have pending := accounted.ledger.waiting uid id receipt entry
    (Receipts.status?_eq_some_iff.2 ⟨given, there, waits.2⟩)
  rw [Registry.pending?_of_found found] at pending
  have same : controller.currency.uid = uid :=
    sound.registry.keyed uid _ (sound.registry.enrolled uid controller found)
  have isAwaited : controller.awaited? (start.course host moves).outside.receipts =
      some ⟨id, receipt⟩ := Option.filter_eq_some_iff.2 ⟨pending, awaited⟩
  change Turn.map Reply.receipt _ = _
  rw [Registry.submit_of_awaited host found isAwaited, same]
  rfl

/-- A wallet with no submission that somebody waits for takes another one, and its
manager is told so once. -/
theorem submit_granted (accounted : Accounted host start moves entries)
    (found : (start.course host moves).registry.wallets[uid]? = some controller)
    (free : ∀ id receipt later, Submitted host start moves uid id receipt later →
      (start.course host moves).outside.receipts.isAwaited receipt = false)
    (transfer : Transfer) (secret : Bytes) :
    ∃ receipt, ((start.course host moves).turn host
        (.command (.submit uid transfer secret))).answer = .ok (.receipt receipt) ∧
      ((start.course host moves).turn host
        (.command (.submit uid transfer secret))).outside.commands =
          (start.course host moves).outside.commands ++
            [(controller.manager, .submit controller.wallet transfer secret)] := by
  have unawaited : controller.awaited? (start.course host moves).outside.receipts = none := by
    refine Option.filter_eq_none_iff.2 fun pending isPending => ?_
    have known := (Registry.pending?_of_found found).trans isPending
    obtain ⟨later, submitted⟩ := accounted.submitted uid pending.transfer pending.receipt
      (accounted.ledger.pending uid pending known).1
    simp [free pending.transfer pending.receipt later submitted]
  obtain ⟨aside, submitted, -, effects, added, others⟩ :=
    Registry.submit_of_free host found unawaited transfer secret
  change ∃ receipt, (Turn.map Reply.receipt _).answer = _ ∧
    (Turn.map Reply.receipt _).outside.commands = _
  rw [submitted]
  refine ⟨_, rfl, ?_⟩
  have same : aside.commands = (start.course host moves).outside.commands := by
    rw [added.commands, List.filterMap_eq_nil_iff.2 others, List.append_nil]
  rw [← same]
  exact ((Outside.adds_log _ _ _).trans (Outside.adds_command host _ controller.manager _)).commands

end Accounted

end Scene

/-- After any course of things, each receipt says what came of its submission: it waits
for the first decision about the transfer from its wallet, which is final. A wallet is
refused another submission exactly as long as somebody waits for the outcome of one. -/
theorem sends_correlated (host : Host W) (config : Config) (world : W)
    (moves : List (Scene.Move W)) :
    let start := Scene.first config world
    let scene := start.course host moves
    (∀ uid id receipt later, Scene.Submitted host start moves uid id receipt later →
        ∃ given, scene.outside.receipts.get? receipt = some given ∧
          given.Correlated uid id receipt later ∧
          (given.status ≠ .waiting → ∀ rest status,
            (scene.course host rest).outside.receipts.status? receipt = some status →
              status = given.status ∨ status = .closed)) ∧
      ∀ uid controller transfer secret, scene.registry.wallets[uid]? = some controller →
        let turn := scene.turn host (.command (.submit uid transfer secret))
        (∀ id receipt later, Scene.Submitted host start moves uid id receipt later →
            scene.outside.receipts.isAwaited receipt = true →
              turn.answer = .error (.violation (.sendAlreadyPending uid id)) ∧
                turn.registry = scene.registry ∧ turn.outside = scene.outside) ∧
          ((∀ id receipt later, Scene.Submitted host start moves uid id receipt later →
              scene.outside.receipts.isAwaited receipt = false) →
            ∃ receipt, turn.answer = .ok (.receipt receipt) ∧
              turn.outside.commands = scene.outside.commands ++
                [(controller.manager, .submit controller.wallet transfer secret)]) := by
  intro start scene
  obtain ⟨entries, accounted⟩ := Scene.accounted_course host config world moves
  have sound : scene.Sound config := (Scene.Sound.first config world).course host moves
  refine ⟨fun uid id receipt later submitted => ?_, fun uid controller transfer secret found =>
    ⟨fun id receipt later submitted awaited => ?_, fun free => ?_⟩⟩
  · obtain ⟨-, there⟩ := accounted.followed uid id receipt later submitted
    refine ⟨_, there, Receipt.correlated_foldl_follow uid id receipt later, ?_⟩
    intro done rest status found
    -- The receipt goes on to follow the moves of the longer course.
    obtain ⟨_, longer⟩ := Scene.accounted_course host config world (moves ++ rest)
    obtain ⟨-, after⟩ := longer.followed uid id receipt _ (submitted.append rest)
    rw [Scene.course_append] at after
    rw [Receipts.status?, after, List.foldl_append] at found
    obtain rfl := Option.some.inj found
    exact (Receipt.status_foldl_follow_of_done done rest).imp_right (·.1)
  · rw [accounted.submit_refused sound found submitted awaited transfer secret]
    exact ⟨rfl, rfl, rfl⟩
  · exact accounted.submit_granted found free transfer secret

/-- While a transfer is pending, its wallet is refused another one; after the engine's
word about it, its receipt is settled. -/
theorem sends_correlated_bitcoin :
    let host := Host.granting .bitcoin fun _ => []
    let uid := Network.bitcoin.currency
    let wallet : EngineWallet := ⟨0, ⟨uid, "btc", "Bitcoin", .native⟩⟩
    let transfer : Transfer := ⟨⟨"payment"⟩, none, .signed, .sent, .zero uid, none, ⟨""⟩⟩
    let start := Scene.first .standard []
    let pending : List (Scene.Move (List EngineEvent)) :=
      [.given (.command (.create "")), .given (.command .connect),
        .given (.event (.system (.networkAdded .bitcoin))),
        .given (.event (.system (.managerAdded ⟨0, .bitcoin⟩))),
        .given (.event (.manager ⟨0, .bitcoin⟩ (.walletAdded wallet))),
        .given (.command (.submit uid transfer []))]
    let report : Scene.Move (List EngineEvent) :=
      .given (.event (.wallet ⟨0, .bitcoin⟩ wallet (.transferSubmitted transfer true)))
    Scene.Submitted host start pending uid transfer.id ⟨0⟩ [] ∧
      ((start.course host pending).turn host (.command (.submit uid transfer []))).answer =
        .error (.violation (.sendAlreadyPending uid transfer.id)) ∧
      (start.course host (pending ++ [report])).outside.receipts.status? ⟨0⟩ =
        some (.settled (.submitted transfer.id)) := by
  intro host uid wallet transfer start pending report
  have submitted : Scene.Submitted host start pending uid transfer.id ⟨0⟩ [] :=
    ⟨pending.take 5, transfer, [], rfl, rfl, by decide +kernel⟩
  obtain ⟨known, awaited⟩ : uid ∈ (start.course host pending).registry.wallets ∧
      (start.course host pending).outside.receipts.isAwaited ⟨0⟩ = true := by decide +kernel
  obtain ⟨controller, found⟩ := Table.mem_iff_exists.1 known
  have refused := ((sends_correlated host .standard [] pending).2 uid controller transfer []
    found).1 transfer.id ⟨0⟩ [] submitted awaited
  obtain ⟨given, there, correlated, -⟩ :=
    (sends_correlated host .standard [] (pending ++ [report])).1 uid transfer.id ⟨0⟩ [report]
      (submitted.append [report])
  have decided := correlated.decided [] report [] (.settled (.submitted transfer.id)) rfl
    (by simp) (by simp) rfl
  refine ⟨submitted, refused.1, Receipts.status?_eq_some_iff.2 ⟨given, there, ?_⟩⟩
  exact decided.resolve_right (by simp)

end MultiWallet
