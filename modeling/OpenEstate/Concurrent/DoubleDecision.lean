/-
**Two requests for one decision about money.**

A decision reads a status, posts, and writes the status last, and nothing in between takes a lock
that another decision needs before it reads. Two equal requests that start from a status that lets
them through can therefore both go through; so can a cancellation of a receipt and a bounce of its
cheque, and then every entry of the receipt that was not reversed before is reversed twice.

* `exists_pause`: a decision can be paused after its guards, and goes on whatever an equal one has
  done in between;
* `takable_of_bothCommitted`: equal decisions that have both committed could both be taken at first;
* **`decisions_once_iff`**: decisions take effect once under every schedule, exactly when one of the
  two cannot be taken, or they do not clash.
-/

import OpenEstate.Concurrent.DoubleReversal

set_option linter.unusedSectionVars false

namespace OpenEstate

open Relational

/-! ### Equal decisions -/

/-- The same decision about the same thing; the other parameters of the requests may differ. -/
def Decision.Same : Decision → Decision → Prop
  | .refundApproval one, .refundApproval other => one = other
  | .refundPayment one, .refundPayment other => one = other
  | .receiptReversal one, .receiptReversal other => one = other
  | .chequeBounce one, .chequeBounce other => one = other
  | .commissionPayout one _, .commissionPayout other _ => one = other
  | .cancellation one _, .cancellation other _ => one = other
  | _, _ => False

theorem Decision.Same.refl (decision : Decision) : decision.Same decision := by
  cases decision <;> exact rfl

theorem Decision.Same.symm {decision other : Decision} (same : decision.Same other) :
    other.Same decision := by
  cases decision <;> cases other <;> first | exact same.elim | exact Eq.symm same

def Decision.Ruled (masters : CommissionMasters) : Decision → Prop
  | .cancellation _ dto => ∀ ruleId, dto.cancellationRuleId = some ruleId →
      (masters.cancellationRules ruleId).isSome
  | _ => True

theorem Decision.Takable.of_same {masters others : CommissionMasters} {decision other : Decision}
    {db : CommissionDb} (takable : decision.Takable masters db) (same : decision.Same other)
    (ruled : other.Ruled others) : other.Takable others db := by
  -- different kinds of decisions are never the same
  cases decision <;> cases other <;> try exact same.elim
  case cancellation.cancellation =>
    cases same
    exact ⟨takable.1, ruled⟩
  all_goals
    cases same
    exact takable

theorem keeps_ruled (masters : CommissionMasters) (decision : Decision) :
    (decision.statements masters).Keeps (fun _ => True) fun _ => decision.Ruled masters := by
  cases decision with
  | cancellation bookingId dto =>
    refine .read_bind fun _ _ => .check_bind fun booking _ => .check_bind fun _ _ => ?_
    have deduction : (CancellationService.deduction masters.toMasters bookingId booking dto).Keeps
        (fun _ => True) fun _ => (Decision.cancellation bookingId dto).Ruled masters := by
      unfold CancellationService.deduction
      cases named : dto.cancellationRuleId with
      | none =>
        refine .done fun ruleId same => ?_
        rw [named] at same
        cases same
      | some ruleId =>
        refine .check_bind fun rule found => (Tx.keeps_true _).mono fun _ _ other same => ?_
        rw [named] at same
        cases same
        exact Option.isSome_of_eq_some (orThrow_eq_ok.mp found)
    have settle : (CancellationService.settle masters.toMasters bookingId booking dto).Keeps
        (fun _ => True) fun _ => (Decision.cancellation bookingId dto).Ruled masters :=
      .read_bind fun _ _ => deduction.bind fun _ ruled =>
        (Tx.keeps_true _).mono fun _ _ => ruled
    exact settle.bind fun _ ruled => (Tx.keeps_true _).mono fun _ _ => ruled
  | _ => exact Tx.keeps_true _

/-! ### Going on after an equal decision -/

theorem exists_pause {masters others : CommissionMasters} {decision other : Decision}
    (same : decision.Same other) {store middle : Store}
    (takable : decision.Takable masters store.toCommissionDb)
    (ran : (other.statements others).run store = .ok ((), middle)) :
    ∃ rest, (decision.statements masters).Path store rest id [] ∧
      ∃ after, rest.run middle = .ok ((), after) := by
  cases decision with
  | refundApproval refundId =>
    obtain ⟨refund, found, requested⟩ := takable
    exact ⟨_, .read_bind (.orThrow_bind found (.ensure_bind requested (.refl _ _))), _, rfl⟩
  | refundPayment refundId =>
    obtain ⟨refund, found, approved⟩ := takable
    exact ⟨_, .read_bind (.orThrow_bind found (.ensure_bind approved (.refl _ _))), _, rfl⟩
  | receiptReversal receiptId =>
    obtain ⟨receipt, found, unreversed, notBounced⟩ := takable
    have goesOn := reverseReceiptLedger_run receiptId receipt .adjustment 0 middle
    exact ⟨_, .read_bind (.orThrow_bind found (.ensure_bind unreversed
      (.ensure_bind notBounced (.refl _ _)))), _, Tx.run_bind_eq_ok.mpr ⟨(), _, goesOn, rfl⟩⟩
  | chequeBounce receiptId =>
    obtain ⟨receipt, found, cheque, open_⟩ := takable
    have goesOn := reverseReceiptLedger_run receiptId receipt .bounceReversal
      masters.toMasters.chequeBounceChargePaise
      (middle.onBooks (·.recordClearance receiptId .bounced))
    exact ⟨_, .read_bind (.orThrow_bind found (.ensure_bind cheque
      (.ensure_bind open_ (.refl _ _)))), _, goesOn⟩
  | commissionPayout paymentId paymentDate =>
    obtain ⟨payment, found, approved, within⟩ := takable
    obtain ⟨entries, distributed⟩ :=
      (paymentEntries_isOk_iff (outstandingBookings_pos _ payment.brokerId)).mpr within
    exact ⟨_, .read_bind (.orThrow_bind found (.ensure_bind approved (.read_bind
      (.check_bind distributed (.refl _ _))))), _,
      Tx.run_bind_eq_ok.mpr ⟨(), _, postEntries_run entries middle, rfl⟩⟩
  | cancellation bookingId dto =>
    obtain ⟨⟨booking, found, cancellable, _⟩, rule⟩ := takable
    refine ⟨_, .read_bind (.orThrow_bind found (.ensure_bind cancellable (.refl _ _))), ?_⟩
    -- the equal cancellation has left the unit on the market
    cases other <;> try exact same.elim
    cases same
    obtain ⟨db, accepted, rfl⟩ := cancel_run_eq_ok.mp ran
    obtain ⟨again, _, foundAgain, _, _, released⟩ := cancel_eq_ok accepted
    rw [found] at foundAgain
    cases foundAgain
    obtain ⟨deduction, deducted⟩ :
        ∃ deduction, cancellationDeduction masters.toMasters bookingId booking dto db =
          .ok deduction :=
      cancellationDeduction_isOk_iff.mpr rule
    have releasable : (db.settle bookingId dto deduction).IsReleasable booking.unitId :=
      fun unit present => Or.inl (available_of_releaseUnit released present)
    obtain ⟨after, releasedAgain⟩ := releaseUnit_isOk_iff.mpr releasable
    have releases : (CancellationService.releaseUnit booking.unitId).run
        ((store.onDb fun _ => db).onDb (·.settle bookingId dto deduction)) = .ok ((), _) :=
      releaseUnit_run_eq_ok.mpr ⟨after, releasedAgain, rfl⟩
    exact ⟨_, Tx.run_bind_eq_ok.mpr
      ⟨(), _, settle_run_eq_ok.mpr ⟨deduction, deducted, rfl⟩, releases⟩⟩

/-! ### Two sessions -/

section Race

variable {masters : Bool → CommissionMasters} {decision : Bool → Decision} {store : Store}
  {world : World Bool Store RowLock ServiceError Unit}

theorem exists_bothCommitted_of_same (same : (decision false).Same (decision true))
    (takable : ∀ request, (decision request).Takable (masters request) store.toCommissionDb) :
    ∃ schedule, (World.interleave (decisionSessions masters decision) store
      schedule).BothCommitted := by
  obtain ⟨db, accepted⟩ := takable_iff.mp (takable true)
  have ran := decision_run_iff.mpr ⟨db, accepted, rfl⟩
  obtain ⟨rest, pauses, after, resumes⟩ := exists_pause same (takable false) ran
  obtain ⟨schedule, _, committed⟩ := exists_overtaken Bool.false_ne_true pauses accepted resumes
  exact ⟨schedule, committed false, committed true⟩

theorem takable_of_bothCommitted (same : (decision false).Same (decision true))
    (occurs : World.Occurs (decisionSessions masters decision) store world)
    (both : world.BothCommitted) (request : Bool) :
    (decision request).Takable (masters request) store.toCommissionDb := by
  obtain ⟨first, _, after, ran, _, _⟩ := World.first_ran_alone occurs both.1
  obtain ⟨db, accepted, _⟩ := decision_run_iff.mp ran
  have takable : (decision first).Takable (masters first) store.toCommissionDb :=
    takable_iff.mpr ⟨db, accepted⟩
  obtain ⟨_, ruled⟩ := World.answered_of_committed (fun request =>
    keeps_ruled (masters request) (decision request)) trivial occurs (both.each request)
  have sameAsFirst : (decision first).Same (decision request) := by
    cases first <;> cases request
    · exact Decision.Same.refl _
    · exact same
    · exact same.symm
    · exact Decision.Same.refl _
  exact takable.of_same sameAsFirst ruled

/-! ### Once -/

/-- At most one of two equal decisions commits, the rows are as if the other had not been made, and
no entry of a receipt that both undo is reversed twice. -/
structure EffectsOnce (masters : Bool → CommissionMasters) (decision : Bool → Decision)
    (store : Store) (world : World Bool Store RowLock ServiceError Unit) : Prop where
  once : (decision false).Same (decision true) → ¬world.BothCommitted
  rows : (decision false).Same (decision true) → world.rows = store ∨
    ∃ request db, (decision request).apply (masters request) store.toCommissionDb = .ok db ∧
      world.rows = store.onCommission fun _ => db
  reversedOnce : ∀ receiptId, (∀ request, (decision request).Undoes receiptId) →
    world.rows.ReversedOnce receiptId

/-- Whether two decisions are about the same thing: they are equal, or a cancellation of a receipt
and a bounce of its cheque, with an entry left to reverse. -/
def Clash (decision : Bool → Decision) (db : CommissionDb) : Prop :=
  (decision false).Same (decision true) ∨
    ∃ receiptId, (∀ request, (decision request).Undoes receiptId) ∧
      db.pendingEntries receiptId ≠ []

theorem undoing_cases (undo : ∀ request, (decision request).Undoes receiptId) :
    (decision false).Same (decision true) ∨ ∃ first second, first ≠ second ∧
      decision first = .receiptReversal receiptId ∧ decision second = .chequeBounce receiptId := by
  rcases undo false with one | one <;> rcases undo true with other | other
  · rw [one, other]
    exact Or.inl rfl
  · exact Or.inr ⟨false, true, Bool.false_ne_true, one, other⟩
  · exact Or.inr ⟨true, false, Bool.false_ne_true.symm, other, one⟩
  · rw [one, other]
    exact Or.inl rfl

theorem rows_of_not_bothCommitted
    (occurs : World.Occurs (decisionSessions masters decision) store world)
    (one : ¬world.BothCommitted) :
    world.rows = store ∨ ∃ request db,
      (decision request).apply (masters request) store.toCommissionDb = .ok db ∧
        world.rows = store.onCommission fun _ => db := by
  refine World.rows_of_one (fun rows => rows = store ∨ ∃ request db,
    (decision request).apply (masters request) store.toCommissionDb = .ok db ∧
      rows = store.onCommission fun _ => db) occurs one (Or.inl rfl) ?_
  intro request result after ran
  obtain ⟨db, accepted, same⟩ := decision_run_iff.mp ran
  exact Or.inr ⟨request, db, accepted, same⟩

end Race

/-- **Money decisions take effect once** under every schedule of two requests, exactly when one of
the two cannot be taken in the state they start in, or they do not clash there. -/
theorem decisions_once_iff (masters : Bool → CommissionMasters) (decision : Bool → Decision)
    (store : Store) (reachable : ReachableDb store.toDb) :
    (∀ schedule, EffectsOnce masters decision store
      (World.interleave (decisionSessions masters decision) store schedule)) ↔
      ¬((∀ request, (decision request).Takable (masters request) store.toCommissionDb) ∧
        Clash decision store.toCommissionDb) := by
  constructor
  · rintro always ⟨takable, clash⟩
    have unequal : ¬(decision false).Same (decision true) := by
      intro same
      obtain ⟨schedule, both⟩ := exists_bothCommitted_of_same same takable
      exact (always schedule).once same both
    rcases clash with same | ⟨receiptId, undo, pending⟩
    · exact unequal same
    · rcases undoing_cases undo with same | ⟨first, second, different, reversal, bounce⟩
      · exact unequal same
      · obtain ⟨schedule, twice⟩ :=
          exists_reversedTwice different reversal bounce takable pending
        exact twice ((always schedule).reversedOnce receiptId undo)
  · intro condition schedule
    have occurs := World.occurs_interleave (decisionSessions masters decision) store schedule
    have once : (decision false).Same (decision true) →
        ¬(World.interleave (decisionSessions masters decision) store schedule).BothCommitted :=
      fun same both => condition ⟨takable_of_bothCommitted same occurs both, Or.inl same⟩
    refine ⟨once, fun same => rows_of_not_bothCommitted occurs (once same), fun id undo => ?_⟩
    by_cases both :
        (World.interleave (decisionSessions masters decision) store schedule).BothCommitted
    · have takable : ∀ request,
          (decision request).Takable (masters request) store.toCommissionDb :=
        fun request => takable_of_undoing undo occurs (both.each request)
      have nothing : store.pendingEntries id = [] := by
        by_contra pending
        exact condition ⟨takable, Or.inr ⟨id, undo, pending⟩⟩
      exact reversedOnce_of_nothing_pending reachable undo nothing occurs
    · exact reversedOnce_of_one reachable undo occurs both

def smallCheque : Store :=
  { toDb := run exec {} (smallSale ++ [⟨{}, .createReceipt (smallReceipt 0 0 .cheque 1000 0)⟩]) }

def smallCommissionMasters : CommissionMasters := { smallMasters 0 0 with }

def reversalAndBounce (request : Bool) : Decision :=
  if request then .chequeBounce 0 else .receiptReversal 0

def cancellations (_ : Bool) : Decision := .cancellation 0 { cancellationType := .cancel }

theorem decisions_once_iff_smallCheque :
    (∀ schedule, EffectsOnce (fun _ => smallCommissionMasters) reversalAndBounce smallCheque
      (World.interleave (decisionSessions (fun _ => smallCommissionMasters) reversalAndBounce)
        smallCheque schedule)) ↔
      ¬((∀ request, (reversalAndBounce request).Takable smallCommissionMasters
          smallCheque.toCommissionDb) ∧
        Clash reversalAndBounce smallCheque.toCommissionDb) :=
  decisions_once_iff (fun _ => smallCommissionMasters) reversalAndBounce smallCheque
    (reachable_run _ _)

/-- The first request has read what it needs when the second one runs; then it goes on. -/
def overtakingSchedule (reads : Nat) : List (Choice Bool) :=
  List.replicate reads (.advance false) ++ List.replicate 20 (.advance true) ++
    List.replicate 20 (.advance false)

/-- **The credit of the receipt is reversed twice, and the booking is cancelled twice.** -/
theorem decisions_taken_twice :
    let undone := World.interleave (decisionSessions (fun _ => smallCommissionMasters)
      reversalAndBounce) smallCheque (overtakingSchedule 3)
    let cancelled := World.interleave (decisionSessions (fun _ => smallCommissionMasters)
      cancellations) smallCheque (overtakingSchedule 1)
    (undone.rows.reversalsOf 1 = 2 ∧
      ¬EffectsOnce (fun _ => smallCommissionMasters) reversalAndBounce smallCheque undone) ∧
    (cancelled.rows.cancellations.rows.length = 2 ∧
      ¬EffectsOnce (fun _ => smallCommissionMasters) cancellations smallCheque cancelled) := by
  refine ⟨⟨rfl, fun effects => ?_⟩, ⟨rfl, fun effects => ?_⟩⟩
  · have undo : ∀ request, (reversalAndBounce request).Undoes 0 := by
      intro request
      cases request with
      | false => exact Or.inl rfl
      | true => exact Or.inr rfl
    exact absurd (effects.reversedOnce 0 undo 1 _ rfl rfl) (by decide)
  · exact effects.once rfl ⟨⟨(), rfl⟩, ⟨(), rfl⟩⟩

end OpenEstate
