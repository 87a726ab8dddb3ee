import LibVirtualGamepad.ReportPump.Order
import Mathlib.Data.Int.ModEq
import Mathlib.Data.List.Perm.Basic

-- What the pump gives up, counted against what it was given.
namespace LibVirtualGamepad

namespace Queues

variable {α β : Type*}

-- The entry that is given up when this one is enqueued: a priority reply or an aside
-- that finds no room, or the oldest ring entry for a transition.
def discarded (queues : Queues α) (entry : α) : ReportKind → Option α
  | .priority => if priorityCapacity ≤ queues.priority.length then some entry else none
  | .aside => if queues.ring.length = transitionCapacity then some entry else none
  | .transition =>
    if queues.ring.length = transitionCapacity then queues.ring.head?.map Prod.fst else none
  | .continuous => none

-- The entries in line; the snapshot, which is only ever superseded, is not one.
def inLine (queues : Queues α) : List α := queues.priority ++ queues.ring.map Prod.fst

def transitionsWaiting (queues : Queues α) : Nat := queues.ring.countP fun entry => !entry.2

-- What an enqueue gives up is the only entry that goes, the new one included.
theorem inLine_enqueue (queues : Queues α) (entry : α) (kind : ReportKind)
    (hk : kind ≠ .continuous) :
    (queues.inLine ++ [entry]).Perm
      ((queues.enqueue entry kind).inLine ++ (queues.discarded entry kind).toList) := by
  have hswap (priority ring : List α) :
      (priority ++ ring ++ [entry]).Perm (priority ++ [entry] ++ ring) := by
    rw [List.append_assoc, List.append_assoc]
    exact List.Perm.append_left _ List.perm_append_comm
  cases kind with
  | priority =>
    simp only [enqueue, discarded, inLine]
    split
    · exact List.Perm.refl _
    · rw [Option.toList_none, List.append_nil]
      exact hswap _ _
  | aside =>
    simp only [enqueue, discarded, inLine]
    split
    · exact List.Perm.refl _
    · simp only [Option.toList_none, List.append_nil, List.map_append, List.append_assoc]
      exact List.Perm.refl _
  | transition =>
    simp only [enqueue, discarded, inLine]
    split
    · next hfull =>
      cases hring : queues.ring with
      | nil =>
        rw [hring, List.length_nil] at hfull
        exact absurd hfull (by decide)
      | cons oldest rest =>
        simp only [List.tail_cons, List.map_append, List.map_cons, List.map_nil, List.head?_cons,
          Option.map_some, Option.toList_some, List.append_assoc, List.cons_append]
        apply List.Perm.append_left
        have hlast := List.perm_append_singleton oldest.1 (rest.map Prod.fst ++ [entry])
        rw [List.append_assoc] at hlast
        exact hlast.symm
    · simp only [Option.toList_none, List.append_nil, List.map_append, List.append_assoc]
      exact List.Perm.refl _
  | continuous => exact absurd rfl hk

-- A transition that finds no room evicts another transition.
def evictsTransition (queues : Queues α) : Bool :=
  queues.ring.length == transitionCapacity && queues.ring.head?.any fun entry => !entry.2

theorem evictsTransition_map (f : α → β) (queues : Queues α) :
    (queues.map f).evictsTransition = queues.evictsTransition := by
  simp only [evictsTransition, map, List.length_map, List.head?_map, Option.any_map]

theorem transitionsWaiting_transition (queues : Queues α) (entry : α) :
    (queues.enqueue entry .transition).transitionsWaiting +
        (if queues.evictsTransition then 1 else 0) = queues.transitionsWaiting + 1 := by
  rcases queues with ⟨priority, ring, latest⟩
  simp only [enqueue, transitionsWaiting, evictsTransition, List.countP_append,
    List.countP_singleton, Bool.not_false, if_true]
  by_cases hfull : ring.length = transitionCapacity
  · cases ring with
    | nil =>
      rw [List.length_nil] at hfull
      exact absurd hfull (by decide)
    | cons oldest rest =>
      rw [if_pos hfull]
      cases hflag : oldest.2 <;> simp [hfull, hflag]
  · simp [hfull]

theorem transitionsWaiting_other (queues : Queues α) (entry : α) (kind : ReportKind)
    (hk : kind ≠ .transition) :
    (queues.enqueue entry kind).transitionsWaiting = queues.transitionsWaiting := by
  cases kind with
  | priority =>
    simp only [enqueue]
    split <;> rfl
  | continuous => rfl
  | aside =>
    simp only [enqueue]
    split
    · rfl
    · simp [transitionsWaiting]
  | transition => exact absurd rfl hk

theorem transitionsWaiting_map (f : α → β) (queues : Queues α) :
    (queues.map f).transitionsWaiting = queues.transitionsWaiting := by
  simp only [transitionsWaiting, map, List.countP_map]
  rfl

-- An aside moves no transition.
theorem transitions_enqueue_aside (queues : Queues α) (entry : α) :
    (queues.enqueue entry .aside).ring.filter (fun entry => !entry.2) =
      queues.ring.filter fun entry => !entry.2 := by
  simp only [enqueue]
  split
  · rfl
  · rw [List.filter_append]
    simp

end Queues

namespace ReportPump

theorem evictsTransition_eq (pump : ReportPump) :
    pump.queues.evictsTransition =
      (pump.transitionCursor.full && !(pump.transitionCursor.read pump.transitionAside 0)) := by
  have hlen : pump.queues.ring.length = pump.transitionCursor.count := waiting_length pump
  unfold Queues.evictsTransition Cursor.full
  rw [hlen]
  by_cases hc : pump.transitionCursor.count = transitionCapacity
  · have hpos : 0 < pump.transitionCursor.count := by
      rw [hc]
      decide
    have hhead : pump.queues.ring.head? = some (pump.transitionCursor.read pump.transitions 0,
        pump.transitionCursor.read pump.transitionAside 0) := by
      have hw := congrArg List.head? (waiting_cons pump hpos)
      exact hw
    rw [hhead]
    rfl
  · rw [beq_eq_false_iff_ne.2 hc]
    rfl

theorem dropped_enqueue (pump : ReportPump) (byte : UInt8) (bytes : List UInt8) (reportId : UInt8)
    (kind : ReportKind) :
    (pump.enqueue (some (byte :: bytes)) reportId kind).2.dropped =
      if kind = .transition ∧ pump.queues.evictsTransition then pump.dropped + 1
      else pump.dropped := by
  cases kind with
  | priority =>
    simp only [enqueue]
    split <;> rfl
  | continuous => rfl
  | aside =>
    simp only [enqueue, beq_self_eq_true, if_true]
    cases pump.transitionCursor.full <;> rfl
  | transition =>
    have hk : (ReportKind.transition == ReportKind.aside) = false := rfl
    simp only [enqueue, hk, Bool.false_eq_true, if_false, evictsTransition_eq, true_and]
    cases pump.transitionCursor.full with
    | false => rfl
    | true =>
      simp only [if_true, append, dropOldest, Bool.true_and]
      cases pump.transitionCursor.read pump.transitionAside 0 <;> rfl

theorem dropped_take (pump : ReportPump) : pump.take.2.dropped = pump.dropped := by
  unfold take
  repeat' split
  all_goals rfl

-- The answer of an enqueue tells whether the lines gave an entry up.
theorem enqueue_answer (pump : ReportPump) (byte : UInt8) (bytes : List UInt8) (reportId : UInt8)
    (kind : ReportKind) :
    (pump.enqueue (some (byte :: bytes)) reportId kind).1 = false ↔
      (pump.queues.discarded (.store (byte :: bytes) reportId) kind).isSome := by
  have hlen : pump.queues.ring.length = pump.transitionCursor.count := waiting_length pump
  cases kind with
  | priority =>
    simp only [enqueue, Queues.discarded, queues]
    by_cases hfull : priorityCapacity ≤ pump.priority.length
    · simp only [hfull, if_true, Option.isSome_some]
    · simp only [hfull, if_false, Option.isSome_none, Bool.false_eq_true, Bool.true_eq_false]
  | continuous => simp [enqueue, Queues.discarded]
  | aside =>
    simp only [enqueue, Queues.discarded, beq_self_eq_true, if_true, hlen]
    cases hf : pump.transitionCursor.full with
    | true => simp [(Cursor.full_iff _).mp hf]
    | false =>
      have hc := Cursor.lt_of_not_full _ hf
      simp [Nat.ne_of_lt hc]
  | transition =>
    have hk : (ReportKind.transition == ReportKind.aside) = false := rfl
    simp only [enqueue, Queues.discarded, hk, Bool.false_eq_true, if_false, hlen]
    cases hf : pump.transitionCursor.full with
    | true =>
      have hc := (Cursor.full_iff _).mp hf
      cases hring : pump.queues.ring with
      | nil =>
        rw [hring] at hlen
        exact absurd (hlen.trans hc) (by decide)
      | cons oldest rest => simp [hc]
    | false =>
      have hc := Cursor.lt_of_not_full _ hf
      simp [Nat.ne_of_lt hc]

-- A run of the pump beside its books: the lines hold the numbers of the operations
-- that enqueued what the pump holds, `taken` those of what has left and its line.
structure Audit where
  run : PumpRun
  lines : Queues Nat
  taken : List (Nat × ReportKind)

namespace Audit

def step (audit : Audit) (op : PumpOp) : Audit where
  run := audit.run.step op
  lines := match op with
    | .take => if audit.run.pump.ready then audit.lines.take.2 else audit.lines
    | .enqueue .. | .setReady =>
      match op.offered with
      | some offer => audit.lines.enqueue audit.run.time offer.2
      | none => audit.lines
  taken := match op with
    | .take =>
      if audit.run.pump.ready then audit.taken ++ audit.lines.take.1.toList else audit.taken
    | .enqueue .. | .setReady => audit.taken

def start (pump : ReportPump) : Audit := ⟨⟨pump.reset, 0, []⟩, .empty, []⟩

def after (pump : ReportPump) (ops : List PumpOp) : Audit := ops.foldl step (start pump)

def takenTransitions (audit : Audit) : Nat := audit.taken.countP fun taken => taken.2 == .transition

end Audit

-- The report and the line of operation `i`.
def reportOf (ops : List PumpOp) (i : Nat) : ReportBuffer :=
  ((offeredAt ops i).map Prod.fst).getD .zero

def Offered (ops : List PumpOp) (i : Nat) (kind : ReportKind) : Prop :=
  (offeredAt ops i).map Prod.snd = some kind

instance (ops : List PumpOp) (i : Nat) (kind : ReportKind) : Decidable (Offered ops i kind) :=
  inferInstanceAs (Decidable (_ = _))

-- The non-empty transitions among the first `n` operations.
def transitionsEnqueued (ops : List PumpOp) (n : Nat) : Nat :=
  (List.range n).countP fun i => Offered ops i .transition

-- The books after `n` operations. `lost` counts the transitions that were evicted.
structure Booked (ops : List PumpOp) (n : Nat) (audit : Audit) : Prop where
  time : audit.run.time = n
  queues : audit.run.pump.queues = audit.lines.map (reportOf ops)
  lines : audit.lines.Sorted fun i kind => i < n ∧ Offered ops i kind
  taken : ∀ taken ∈ audit.taken, taken.1 < n ∧ Offered ops taken.1 taken.2
  reports : audit.run.taken.map TakenReport.report =
    audit.taken.map fun taken => reportOf ops taken.1
  priority : (((audit.taken.filter fun taken => taken.2 == .priority).map Prod.fst) ++
    audit.lines.priority).Pairwise (· < ·)
  balance : ∃ lost, audit.run.pump.dropped = UInt32.ofNat lost ∧
    lost + audit.takenTransitions + audit.lines.transitionsWaiting = transitionsEnqueued ops n

section Booked

variable {ops : List PumpOp} {n : Nat} {audit : Audit}

theorem transitionsEnqueued_succ (ops : List PumpOp) (n : Nat) :
    transitionsEnqueued ops (n + 1) =
      transitionsEnqueued ops n + if Offered ops n .transition then 1 else 0 := by
  simp only [transitionsEnqueued, List.range_succ, List.countP_append, List.countP_singleton,
    decide_eq_true_eq]

theorem later {i : Nat} {kind : ReportKind}
    (hi : i < n ∧ Offered ops i kind) : i < n + 1 ∧ Offered ops i kind :=
  ⟨Nat.lt_succ_of_lt hi.1, hi.2⟩

-- An operation that offers nothing and takes nothing.
theorem Booked.idle (h : Booked ops n audit) (next : Audit)
    (hpump : next.run.pump.queues = audit.run.pump.queues)
    (hdropped : next.run.pump.dropped = audit.run.pump.dropped)
    (htime : next.run.time = audit.run.time + 1) (htaken : next.run.taken = audit.run.taken)
    (hlines : next.lines = audit.lines) (hbooks : next.taken = audit.taken)
    (hoffer : ¬Offered ops n .transition) : Booked ops (n + 1) next := by
  obtain ⟨lost, hlost, hsum⟩ := h.balance
  constructor
  case time => rw [htime, h.time]
  case queues => rw [hpump, hlines, h.queues]
  case lines =>
    rw [hlines]
    exact Queues.sorted_mono _ h.lines fun _ _ => later
  case taken =>
    rw [hbooks]
    exact fun taken hm => later (h.taken taken hm)
  case reports => rw [htaken, hbooks, h.reports]
  case priority =>
    rw [hbooks, hlines]
    exact h.priority
  case balance =>
    refine ⟨lost, hdropped.trans hlost, ?_⟩
    unfold Audit.takenTransitions at hsum ⊢
    rw [hlines, hbooks, transitionsEnqueued_succ, if_neg hoffer]
    exact hsum

-- Every operation number in the priority line or taken from it is an earlier one.
theorem Booked.priority_lt (h : Booked ops n audit) {i : Nat}
    (hi : i ∈ ((audit.taken.filter fun taken => taken.2 == .priority).map Prod.fst) ++
      audit.lines.priority) : i < n := by
  rcases List.mem_append.mp hi with hi | hi
  · obtain ⟨taken, hm, rfl⟩ := List.mem_map.mp hi
    exact (h.taken taken (List.mem_filter.mp hm).1).1
  · exact (h.lines.1 i hi).1

theorem Booked.enqueue (h : Booked ops n audit) {byte : UInt8} {bytes : List UInt8}
    {reportId : UInt8} {kind : ReportKind}
    (hop : ops[n]? = some (.enqueue (some (byte :: bytes)) reportId kind)) :
    Booked ops (n + 1) (audit.step (.enqueue (some (byte :: bytes)) reportId kind)) := by
  have hoffer : offeredAt ops n = some (.store (byte :: bytes) reportId, kind) := by
    simp only [offeredAt, hop, Option.bind_some, PumpOp.offered]
  have hkind : Offered ops n kind := by
    unfold Offered
    rw [hoffer]
    rfl
  have hlines : (audit.step (.enqueue (some (byte :: bytes)) reportId kind)).lines =
      audit.lines.enqueue n kind := by
    simp only [Audit.step, PumpOp.offered, h.time]
  have hdropped := dropped_enqueue audit.run.pump byte bytes reportId kind
  rw [h.queues, Queues.evictsTransition_map] at hdropped
  obtain ⟨lost, hlost, hsum⟩ := h.balance
  constructor
  case time => exact congrArg (· + 1) h.time
  case queues =>
    have hreport : reportOf ops n = .store (byte :: bytes) reportId := by
      simp only [reportOf, hoffer, Option.map_some, Option.getD_some]
    have hpump := queues_enqueue audit.run.pump byte bytes reportId kind
    rw [h.queues, ← hreport, Queues.map_enqueue] at hpump
    rw [hlines]
    exact hpump
  case lines =>
    rw [hlines]
    exact Queues.sorted_enqueue _ _ _ _ (Queues.sorted_mono _ h.lines fun _ _ => later)
      ⟨Nat.lt_succ_self n, hkind⟩
  case taken => exact fun taken hm => later (h.taken taken hm)
  case reports => exact h.reports
  case priority =>
    rw [hlines]
    cases kind with
    | priority =>
      simp only [Queues.enqueue, Audit.step]
      split
      · exact h.priority
      · rw [← List.append_assoc]
        refine List.pairwise_append.mpr ⟨h.priority, List.pairwise_singleton _ _, ?_⟩
        intro i hi j hj
        rw [List.mem_singleton.mp hj]
        exact h.priority_lt hi
    | aside =>
      simp only [Queues.enqueue, Audit.step]
      split <;> exact h.priority
    | transition => exact h.priority
    | continuous => exact h.priority
  case balance =>
    by_cases hk : kind = .transition
    · subst hk
      have hwaiting := audit.lines.transitionsWaiting_transition n
      rw [transitionsEnqueued_succ, if_pos hkind]
      by_cases hevicts : audit.lines.evictsTransition = true
      · rw [if_pos hevicts] at hwaiting
        rw [if_pos ⟨rfl, hevicts⟩] at hdropped
        refine ⟨lost + 1, ?_, ?_⟩
        · rw [UInt32.ofNat_add, ← hlost]
          exact hdropped
        · rw [hlines]
          simp only [Audit.takenTransitions, Audit.step] at hsum ⊢
          omega
      · rw [if_neg hevicts] at hwaiting
        rw [if_neg fun hboth => hevicts hboth.2] at hdropped
        refine ⟨lost, hdropped.trans hlost, ?_⟩
        rw [hlines]
        simp only [Audit.takenTransitions, Audit.step] at hsum ⊢
        omega
    · have hwaiting := audit.lines.transitionsWaiting_other n kind hk
      have hother : ¬Offered ops n .transition := by
        intro htransition
        exact hk (Option.some.inj (hkind.symm.trans htransition))
      rw [if_neg fun hboth => hk hboth.1] at hdropped
      refine ⟨lost, hdropped.trans hlost, ?_⟩
      rw [hlines, hwaiting, transitionsEnqueued_succ, if_neg hother]
      exact hsum

-- What leaves the lines leaves one of them, and a transition is one less waiting.
theorem taken_transitionsWaiting (lines : Queues Nat) :
    (lines.take.1.toList.countP fun taken => taken.2 == .transition) +
      lines.take.2.transitionsWaiting = lines.transitionsWaiting := by
  rcases lines with ⟨priority, ring, latest⟩
  cases priority with
  | cons entry rest => simp [Queues.take, Queues.transitionsWaiting]
  | nil =>
    cases ring with
    | cons entry rest =>
      rcases entry with ⟨entry, isAside⟩
      cases isAside <;> simp [Queues.take, Queues.transitionsWaiting, Nat.add_comm]
    | nil => cases latest <;> rfl

theorem taken_priority (lines : Queues Nat) :
    ((lines.take.1.toList.filter fun taken => taken.2 == .priority).map Prod.fst) ++
      lines.take.2.priority = lines.priority := by
  rcases lines with ⟨priority, ring, latest⟩
  cases priority with
  | cons entry rest => rfl
  | nil =>
    cases ring with
    | cons entry rest =>
      rcases entry with ⟨entry, isAside⟩
      cases isAside <;> rfl
    | nil => cases latest <;> rfl

theorem Booked.take (h : Booked ops n audit) (hop : ops[n]? = some .take) :
    Booked ops (n + 1) (audit.step .take) := by
  have hoffer : ¬Offered ops n .transition := by
    simp [Offered, offeredAt, hop, PumpOp.offered]
  cases hready : audit.run.pump.ready with
  | false =>
    have hpump := take_not_ready audit.run.pump hready
    apply h.idle
    · simp only [Audit.step, PumpRun.step, hpump]
    · simp only [Audit.step, PumpRun.step, hpump]
    · rfl
    · simp only [Audit.step, PumpRun.step, hpump, Option.map_none, Option.toList_none,
        List.append_nil]
    · simp only [Audit.step, hready, Bool.false_eq_true, if_false]
    · simp only [Audit.step, hready, Bool.false_eq_true, if_false]
    · exact hoffer
  | true =>
    obtain ⟨htaken, hqueues⟩ := queues_take audit.run.pump hready
    rw [h.queues, Queues.map_take] at htaken hqueues
    have hlines : (audit.step .take).lines = audit.lines.take.2 := by
      simp only [Audit.step, hready, if_true]
    have hbooks : (audit.step .take).taken = audit.taken ++ audit.lines.take.1.toList := by
      simp only [Audit.step, hready, if_true]
    obtain ⟨hsorted, hkinds⟩ := Queues.sorted_take _ _ h.lines
    obtain ⟨lost, hlost, hsum⟩ := h.balance
    constructor
    case time => exact congrArg (· + 1) h.time
    case queues =>
      rw [hlines]
      exact hqueues
    case lines =>
      rw [hlines]
      exact Queues.sorted_mono _ hsorted fun _ _ => later
    case taken =>
      rw [hbooks]
      intro taken hm
      rcases List.mem_append.mp hm with hm | hm
      · exact later (h.taken taken hm)
      · exact later (hkinds taken (by simpa using hm))
    case reports =>
      rw [hbooks]
      simp only [Audit.step, PumpRun.step, List.map_append, h.reports, htaken]
      cases audit.lines.take.1 <;> rfl
    case priority =>
      rw [hbooks, hlines, List.filter_append, List.map_append, List.append_assoc, taken_priority]
      exact h.priority
    case balance =>
      refine ⟨lost, (dropped_take _).trans hlost, ?_⟩
      have hwaiting := taken_transitionsWaiting audit.lines
      rw [transitionsEnqueued_succ, if_neg hoffer, hlines]
      unfold Audit.takenTransitions at hsum ⊢
      rw [hbooks, List.countP_append]
      omega

theorem Booked.start (pump : ReportPump) (ops : List PumpOp) : Booked ops 0 (Audit.start pump) where
  time := rfl
  queues := queues_reset pump
  lines := Queues.sorted_empty _
  taken := fun _ hm => by cases hm
  reports := rfl
  priority := List.Pairwise.nil
  balance := ⟨0, rfl, rfl⟩

-- Induction on the number of operations done.
theorem booked_after (pump : ReportPump) (ops : List PumpOp) (n : Nat) (hn : n ≤ ops.length) :
    Booked ops n (Audit.after pump (ops.take n)) := by
  induction n with
  | zero => exact Booked.start pump ops
  | succ n ih =>
    have h := ih (by omega)
    have hlt : n < ops.length := by omega
    have hop : ops[n]? = some ops[n] := List.getElem?_eq_getElem hlt
    have hstep : Audit.after pump (ops.take (n + 1)) =
        (Audit.after pump (ops.take n)).step ops[n] := by
      rw [List.take_add_one, hop]
      simp only [Audit.after, Option.toList_some, List.foldl_append, List.foldl_cons,
        List.foldl_nil]
    rw [hstep]
    cases hk : ops[n] with
    | take => exact h.take (by rw [hop, hk])
    | setReady =>
      exact h.idle _ rfl rfl rfl rfl rfl rfl (by simp [Offered, offeredAt, hop, hk, PumpOp.offered])
    | enqueue data reportId kind =>
      cases data with
      | none =>
        exact h.idle _ rfl rfl rfl rfl rfl rfl
          (by simp [Offered, offeredAt, hop, hk, PumpOp.offered])
      | some data =>
        cases data with
        | nil =>
          exact h.idle _ rfl rfl rfl rfl rfl rfl
            (by simp [Offered, offeredAt, hop, hk, PumpOp.offered])
        | cons byte bytes => exact h.enqueue (by rw [hop, hk])

end Booked

-- The loss contract of a pump after a run, and of the next enqueue.
structure Accounted (start : ReportPump) (ops : List PumpOp) (audit : Audit) : Prop where
  run : audit.run = runFrom start ops
  -- The ring entries with their flags are the enqueued transitions and asides.
  aligned : List.Forall₂ (fun i entry => offeredAt ops i =
      some (entry.1, if entry.2 then .aside else .transition))
    (audit.lines.ring.map Prod.fst) audit.run.pump.waiting
  takenKinds : List.Forall₂ (fun taken (report : TakenReport) =>
    offeredAt ops taken.1 = some (report.report, taken.2)) audit.taken audit.run.taken
  counted : (audit.run.pump.dropped.toNat : Int) ≡
    transitionsEnqueued ops ops.length - audit.takenTransitions -
      audit.run.pump.queues.transitionsWaiting [ZMOD 2 ^ 32]
  priority : ((audit.taken.filter fun taken => taken.2 == .priority).map Prod.fst).Pairwise (· < ·)
  answers : ∀ data reportId kind, (audit.run.pump.enqueue data reportId kind).1 = false ↔
    ∃ byte bytes, data = some (byte :: bytes) ∧
      (audit.run.pump.queues.discarded (.store (byte :: bytes) reportId) kind).isSome
  -- What an enqueue discards is what goes from the lines and the new report.
  discarded : ∀ (byte : UInt8) (bytes : List UInt8) (reportId : UInt8) (kind : ReportKind),
    kind ≠ .continuous →
    (audit.run.pump.queues.inLine ++ [ReportBuffer.store (byte :: bytes) reportId]).Perm
      ((audit.run.pump.enqueue (some (byte :: bytes)) reportId kind).2.queues.inLine ++
        (audit.run.pump.queues.discarded (.store (byte :: bytes) reportId) kind).toList)
  aside : ∀ data reportId,
    (audit.run.pump.enqueue data reportId .aside).2.waiting.filter (fun entry => !entry.2) =
      audit.run.pump.waiting.filter (fun entry => !entry.2) ∧
    (audit.run.pump.enqueue data reportId .aside).2.dropped = audit.run.pump.dropped

theorem audit_run (start : ReportPump) (ops : List PumpOp) :
    (Audit.after start ops).run = runFrom start ops := by
  have hfrom (audit : Audit) :
      (ops.foldl Audit.step audit).run = ops.foldl PumpRun.step audit.run := by
    induction ops generalizing audit with
    | nil => rfl
    | cons op rest ih => exact ih (audit.step op)
  exact hfrom _

theorem offeredAt_eq {ops : List PumpOp} {i : Nat} {kind : ReportKind} (h : Offered ops i kind) :
    offeredAt ops i = some (reportOf ops i, kind) := by
  unfold Offered at h
  obtain ⟨offer, hoffer, rfl⟩ := Option.map_eq_some_iff.1 h
  rw [reportOf, hoffer]
  rfl

theorem enqueue_answers (pump : ReportPump) (data : Option (List UInt8)) (reportId : UInt8)
    (kind : ReportKind) :
    (pump.enqueue data reportId kind).1 = false ↔ ∃ byte bytes, data = some (byte :: bytes) ∧
      (pump.queues.discarded (.store (byte :: bytes) reportId) kind).isSome := by
  match data with
  | none | some [] => simp [enqueue]
  | some (byte :: bytes) =>
    rw [enqueue_answer]
    constructor
    · exact fun h => ⟨byte, bytes, rfl, h⟩
    · rintro ⟨_, _, ⟨⟩, h⟩
      exact h

theorem enqueue_aside (pump : ReportPump) (data : Option (List UInt8)) (reportId : UInt8) :
    (pump.enqueue data reportId .aside).2.waiting.filter (fun entry => !entry.2) =
      pump.waiting.filter (fun entry => !entry.2) ∧
    (pump.enqueue data reportId .aside).2.dropped = pump.dropped := by
  match data with
  | none | some [] => exact ⟨rfl, rfl⟩
  | some (byte :: bytes) =>
    constructor
    · have hring := congrArg Queues.ring (queues_enqueue pump byte bytes reportId .aside)
      have hsame := pump.queues.transitions_enqueue_aside (.store (byte :: bytes) reportId)
      rw [← hring] at hsame
      exact hsame
    · rw [dropped_enqueue, if_neg fun h => by cases h.1]

-- Every run from a reset pump is accounted for.
theorem losses_accounted (start : ReportPump) (ops : List PumpOp) :
    Accounted start ops (Audit.after start ops) := by
  have h := booked_after start ops ops.length (Nat.le_refl _)
  rw [List.take_length] at h
  constructor
  case run => exact audit_run start ops
  case discarded =>
    intro byte bytes reportId kind hk
    rw [queues_enqueue]
    exact Queues.inLine_enqueue _ _ _ hk
  case aligned =>
    have hring : (Audit.after start ops).run.pump.waiting =
        (Audit.after start ops).lines.ring.map fun entry => (reportOf ops entry.1, entry.2) :=
      congrArg Queues.ring h.queues
    rw [hring, List.forall₂_map_left_iff, List.forall₂_map_right_iff, List.forall₂_same]
    intro entry hm
    exact offeredAt_eq (h.lines.2.1 entry hm).2
  case takenKinds =>
    have hreports : List.Forall₂ (fun taken report => offeredAt ops taken.1 =
        some (report, taken.2)) (Audit.after start ops).taken
          ((Audit.after start ops).run.taken.map TakenReport.report) := by
      rw [h.reports, List.forall₂_map_right_iff, List.forall₂_same]
      intro taken hm
      exact offeredAt_eq (h.taken taken hm).2
    rwa [List.forall₂_map_right_iff] at hreports
  case counted =>
    obtain ⟨lost, hlost, hsum⟩ := h.balance
    rw [h.queues, Queues.transitionsWaiting_map, hlost, ← hsum]
    have hmod := Int.mod_modEq (lost : Int) (2 ^ 32)
    have hnat : ((UInt32.ofNat lost).toNat : Int) = (lost : Int) % 2 ^ 32 := by
      rw [UInt32.toNat_ofNat']
      omega
    rw [hnat]
    apply hmod.trans
    have hdifference : (lost : Int) = ((lost + (Audit.after start ops).takenTransitions +
        (Audit.after start ops).lines.transitionsWaiting : Nat) : Int) -
          (Audit.after start ops).takenTransitions -
            (Audit.after start ops).lines.transitionsWaiting := by
      omega
    rw [← hdifference]
  case priority => exact (List.pairwise_append.mp h.priority).1
  case answers => exact enqueue_answers _
  case aside => exact enqueue_aside _

end ReportPump

end LibVirtualGamepad
