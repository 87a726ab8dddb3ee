import LibVirtualGamepad.ReportPump.Refinement
import Mathlib.Data.List.Forall2

namespace LibVirtualGamepad.ReportPump

inductive PumpOp where
  | enqueue (data : Option (List UInt8)) (reportId : UInt8) (kind : ReportKind)
  | setReady
  | take

-- The report an operation offers to the pump: empty calls offer none.
def PumpOp.offered : PumpOp → Option (ReportBuffer × ReportKind)
  | .enqueue (some (byte :: bytes)) reportId kind =>
      some (.store (byte :: bytes) reportId, kind)
  | _ => none

-- A report that left the pump, with the number of operations before that take.
structure TakenReport where
  time : Nat
  report : ReportBuffer

structure PumpRun where
  pump : ReportPump
  time : Nat
  taken : List TakenReport

def PumpRun.step (run : PumpRun) : PumpOp → PumpRun
  | .enqueue data reportId kind =>
      { run with pump := (run.pump.enqueue data reportId kind).2, time := run.time + 1 }
  | .setReady => { run with pump := run.pump.setReady, time := run.time + 1 }
  | .take =>
      { pump := run.pump.take.2
        time := run.time + 1
        taken := run.taken ++ (run.pump.take.1.map (TakenReport.mk run.time)).toList }

def runFrom (start : ReportPump) (ops : List PumpOp) : PumpRun :=
  ops.foldl PumpRun.step ⟨start.reset, 0, []⟩

def offeredAt (ops : List PumpOp) (i : Nat) : Option (ReportBuffer × ReportKind) :=
  ops[i]?.bind PumpOp.offered

-- Whether operation `i` enqueued a non-empty transition or continuous report.
def stateAt (ops : List PumpOp) (i : Nat) : Bool :=
  (offeredAt ops i).any fun offer => offer.2.isState

-- The last of the first `n` operations that enqueued a state report.
def lastState (ops : List PumpOp) (n : Nat) : Option Nat :=
  ((List.range n).filter (stateAt ops)).getLast?

private def reportAt (ops : List PumpOp) (i : Nat) : ReportBuffer :=
  ((offeredAt ops i).map Prod.fst).getD .zero

private def enqueuedBefore (ops : List PumpOp) (n i : Nat) (kind : ReportKind) : Prop :=
  i < n ∧ (offeredAt ops i).map Prod.snd = some kind

-- After `n` operations the pump is the lines of operation numbers `lines`, the
-- reports taken so far came from the operations `origin`, and the state reports
-- taken and pending are in enqueue order up to the newest one.
private structure Tracks (ops : List PumpOp) (n : Nat) (run : PumpRun) (lines : Queues Nat)
    (origin : List Nat) : Prop where
  time : run.time = n
  queues : run.pump.queues = lines.map (reportAt ops)
  sorted : lines.Sorted (enqueuedBefore ops n)
  origins : List.Forall₂ (fun i (taken : TakenReport) =>
    i < taken.time ∧ ∃ kind, offeredAt ops i = some (taken.report, kind)) origin run.taken
  bounded : ∀ i ∈ origin, i < n
  ordered : (origin.filter (stateAt ops) ++ lines.pendingState).Pairwise (· < ·)
  fresh : (origin.filter (stateAt ops) ++ lines.pendingState).getLast? = lastState ops n

private theorem lastState_succ_of_not (ops : List PumpOp) (n : Nat) (h : stateAt ops n = false) :
    lastState ops (n + 1) = lastState ops n := by
  simp [lastState, List.range_succ, h]

private theorem lastState_succ (ops : List PumpOp) (n : Nat) (h : stateAt ops n = true) :
    lastState ops (n + 1) = some n := by
  simp [lastState, List.range_succ, h]

-- Once there was a state report, there is a last one, which is no older.
theorem lastState_of_stateAt {ops : List PumpOp} {n k : Nat} (hk : k < n)
    (h : stateAt ops k = true) :
    ∃ i, lastState ops n = some i ∧ k ≤ i ∧ i < n ∧ stateAt ops i = true := by
  induction n with
  | zero => exact absurd hk (Nat.not_lt_zero k)
  | succ n ih =>
      by_cases hn : stateAt ops n = true
      · exact ⟨n, lastState_succ ops n hn, by omega, by omega, hn⟩
      · have hlt : k < n := by
          have hne : k ≠ n := fun heq => hn (heq ▸ h)
          omega
        obtain ⟨i, hlast, hki, hi, hstate⟩ := ih hlt
        exact ⟨i, (lastState_succ_of_not ops n (by simpa using hn)).trans hlast, hki, by omega, hstate⟩

private theorem enqueuedBefore_succ (ops : List PumpOp) (n i : Nat) (kind : ReportKind)
    (h : enqueuedBefore ops n i kind) : enqueuedBefore ops (n + 1) i kind :=
  ⟨Nat.lt_succ_of_lt h.1, h.2⟩

-- An operation that neither changes the lines nor hands out a report.
private theorem tracks_idle (ops : List PumpOp) (n : Nat) (run next : PumpRun)
    (lines : Queues Nat) (origin : List Nat) (h : Tracks ops n run lines origin)
    (htime : next.time = run.time + 1) (hq : next.pump.queues = run.pump.queues)
    (ht : next.taken = run.taken) (hs : stateAt ops n = false) :
    Tracks ops (n + 1) next lines origin where
  time := by rw [htime, h.time]
  queues := by rw [hq, h.queues]
  sorted := lines.sorted_mono h.sorted (enqueuedBefore_succ ops n)
  origins := by rw [ht]; exact h.origins
  bounded := fun i hi => Nat.lt_succ_of_lt (h.bounded i hi)
  ordered := h.ordered
  fresh := by rw [h.fresh, lastState_succ_of_not ops n hs]

private theorem tracks_enqueue (ops : List PumpOp) (n : Nat) (run : PumpRun) (lines : Queues Nat)
    (origin : List Nat) (h : Tracks ops n run lines origin) (byte : UInt8) (bytes : List UInt8)
    (reportId : UInt8) (kind : ReportKind)
    (hop : ops[n]? = some (.enqueue (some (byte :: bytes)) reportId kind)) :
    Tracks ops (n + 1) (run.step (.enqueue (some (byte :: bytes)) reportId kind))
      (lines.enqueue n kind) origin := by
  have hoffer : offeredAt ops n = some (.store (byte :: bytes) reportId, kind) := by
    simp [offeredAt, hop, PumpOp.offered]
  have hreport : reportAt ops n = .store (byte :: bytes) reportId := by
    simp [reportAt, hoffer]
  have hsorted : (lines.enqueue n kind).Sorted (enqueuedBefore ops (n + 1)) :=
    lines.sorted_enqueue _ _ _ (lines.sorted_mono h.sorted (enqueuedBefore_succ ops n))
      ⟨Nat.lt_succ_self n, by simp [hoffer]⟩
  have hqueues : (run.step (.enqueue (some (byte :: bytes)) reportId kind)).pump.queues =
      (lines.enqueue n kind).map (reportAt ops) := by
    simp only [PumpRun.step, queues_enqueue, h.queues]
    rw [← hreport, Queues.map_enqueue]
  have hbounded : ∀ i ∈ origin, i < n + 1 := fun i hi => Nat.lt_succ_of_lt (h.bounded i hi)
  have htime : (run.step (.enqueue (some (byte :: bytes)) reportId kind)).time = n + 1 := by
    simp [PumpRun.step, h.time]
  cases hk : kind.isState with
  | false =>
      have hstate : stateAt ops n = false := by simp [stateAt, hoffer, hk]
      have hpending := lines.pendingState_enqueue_of_not_isState n kind hk
      exact ⟨htime, hqueues, hsorted, h.origins, hbounded, by rw [hpending]; exact h.ordered,
        by rw [hpending, h.fresh, lastState_succ_of_not ops n hstate]⟩
  | true =>
      have hstate : stateAt ops n = true := by simp [stateAt, hoffer, hk]
      obtain ⟨kept, hkept, hpending⟩ := lines.pendingState_enqueue_of_isState n kind hk
      have hsub : (origin.filter (stateAt ops) ++ kept).Sublist
          (origin.filter (stateAt ops) ++ lines.pendingState) := hkept.append_left _
      have hold : ∀ i ∈ origin.filter (stateAt ops) ++ kept, i < n := by
        intro i hi
        rcases List.mem_append.mp hi with hi | hi
        · exact h.bounded i (List.mem_filter.mp hi).1
        · obtain ⟨_, hb⟩ := lines.pendingState_belongs _ h.sorted i (hkept.subset hi)
          exact hb.1
      refine ⟨htime, hqueues, hsorted, h.origins, hbounded, ?_, ?_⟩
      · rw [hpending, ← List.append_assoc, List.pairwise_append]
        exact ⟨h.ordered.sublist hsub, List.pairwise_singleton _ _, fun i hi j hj =>
          List.mem_singleton.mp hj ▸ hold i hi⟩
      · rw [hpending, ← List.append_assoc, List.getLast?_concat, lastState_succ ops n hstate]

private theorem tracks_take (ops : List PumpOp) (n : Nat) (run : PumpRun) (lines : Queues Nat)
    (origin : List Nat) (h : Tracks ops n run lines origin) (hop : ops[n]? = some .take) :
    ∃ lines' origin', Tracks ops (n + 1) (run.step .take) lines' origin' := by
  have hstate : stateAt ops n = false := by simp [stateAt, offeredAt, hop, PumpOp.offered]
  cases hready : run.pump.ready with
  | false =>
      have htake := take_not_ready run.pump hready
      exact ⟨lines, origin, tracks_idle ops n run _ lines origin h rfl
        (by simp [PumpRun.step, htake]) (by simp [PumpRun.step, htake]) hstate⟩
  | true =>
      obtain ⟨hout, hq⟩ := queues_take run.pump hready
      rw [h.queues, Queues.map_take] at hout hq
      cases hl : lines.take.1 with
      | none =>
          have hsame := lines.take_none hl
          rw [hl] at hout
          have hnone : run.pump.take.1 = none := by simpa using hout
          refine ⟨lines, origin, tracks_idle ops n run _ lines origin h rfl ?_ ?_ hstate⟩
          · simp only [PumpRun.step, hq, hsame, h.queues]
          · simp [PumpRun.step, hnone]
      | some taken =>
          rcases taken with ⟨i, kind⟩
          obtain ⟨hsorted, hbelongs⟩ := lines.sorted_take _ h.sorted
          obtain ⟨hi, hkind⟩ := hbelongs (i, kind) (by rw [hl]; rfl)
          have hsome : run.pump.take.1 = some (reportAt ops i) := by
            rw [hl] at hout
            simpa using hout
          obtain ⟨offer, hoffer, hsnd⟩ := Option.map_eq_some_iff.mp hkind
          have hreport : reportAt ops i = offer.1 := by simp [reportAt, hoffer]
          have hfilter : [i].filter (stateAt ops) = if kind.isState then [i] else [] := by
            cases hk : kind.isState <;> simp [stateAt, hoffer, hsnd, hk]
          have hpending := lines.pendingState_take i kind hl
          have hlist : (origin ++ [i]).filter (stateAt ops) ++ lines.take.2.pendingState =
              origin.filter (stateAt ops) ++ lines.pendingState := by
            rw [hpending, List.filter_append, hfilter, List.append_assoc]
          refine ⟨lines.take.2, origin ++ [i], ?_, ?_, ?_, ?_, ?_, ?_, ?_⟩
          · simp [PumpRun.step, h.time]
          · simp only [PumpRun.step, hq]
          · exact Queues.sorted_mono _ hsorted (enqueuedBefore_succ ops n)
          · simp only [PumpRun.step, hsome, Option.map_some, Option.toList_some]
            apply List.rel_append h.origins
            exact .cons ⟨by simpa [h.time] using hi, offer.2, by rw [hreport, hoffer]⟩ .nil
          · intro j hj
            rcases List.mem_append.mp hj with hj | hj
            · exact Nat.lt_succ_of_lt (h.bounded j hj)
            · rw [List.mem_singleton.mp hj]
              exact Nat.lt_succ_of_lt hi
          · rw [hlist]
            exact h.ordered
          · rw [hlist, h.fresh, lastState_succ_of_not ops n hstate]

-- Induction on the number of operations done.
private theorem runFrom_tracks (start : ReportPump) (ops : List PumpOp) (n : Nat)
    (hn : n ≤ ops.length) :
    ∃ lines origin, Tracks ops n (runFrom start (ops.take n)) lines origin := by
  induction n with
  | zero =>
      exact ⟨.empty, [], rfl, queues_reset start, Queues.sorted_empty _, .nil, by simp,
        by simp [Queues.pendingState, Queues.empty], by simp [Queues.pendingState, Queues.empty,
          lastState]⟩
  | succ n ih =>
      obtain ⟨lines, origin, h⟩ := ih (by omega)
      have hop : ops[n]? = some ops[n] := List.getElem?_eq_getElem (by omega)
      have hstep : runFrom start (ops.take (n + 1)) =
          (runFrom start (ops.take n)).step ops[n] := by
        have hlt : n < ops.length := by omega
        rw [List.take_add_one, List.getElem?_eq_getElem hlt]
        simp only [runFrom, Option.toList_some, List.foldl_append, List.foldl_cons, List.foldl_nil]
      rw [hstep]
      cases hk : ops[n] with
      | take => exact tracks_take ops n _ lines origin h (by rw [hop, hk])
      | setReady =>
          exact ⟨lines, origin, tracks_idle ops n _ _ lines origin h rfl rfl rfl
            (by simp [stateAt, offeredAt, hop, hk, PumpOp.offered])⟩
      | enqueue data reportId kind =>
          cases data with
          | none =>
              exact ⟨lines, origin, tracks_idle ops n _ _ lines origin h rfl rfl rfl
                (by simp [stateAt, offeredAt, hop, hk, PumpOp.offered])⟩
          | some data =>
              cases data with
              | nil =>
                  exact ⟨lines, origin, tracks_idle ops n _ _ lines origin h rfl rfl rfl
                    (by simp [stateAt, offeredAt, hop, hk, PumpOp.offered])⟩
              | cons byte bytes =>
                  exact ⟨lines.enqueue n kind, origin, tracks_enqueue ops n _ lines origin h byte
                    bytes reportId kind (by rw [hop, hk])⟩

-- Without a waiting transition or snapshot, no state report is pending.
private theorem pendingState_of_drained (pump : ReportPump) (f : Nat → ReportBuffer)
    (lines : Queues Nat) (h : pump.queues = lines.map f)
    (hring : ∀ entry ∈ pump.waiting, entry.2 = true) (hlatest : pump.haveLatest = false) :
    lines.pendingState = [] := by
  have hr : pump.waiting = lines.ring.map fun entry => (f entry.1, entry.2) :=
    congrArg Queues.ring h
  have hl : lines.latest = none := by
    have := congrArg Queues.latest h
    simpa [queues, Queues.map, hlatest] using this.symm
  have hf : lines.ring.filter (fun entry => !entry.2) = [] := by
    rw [List.filter_eq_nil_iff]
    intro entry hm
    have ha := hring (f entry.1, entry.2) (by rw [hr]; exact List.mem_map_of_mem hm)
    simpa using ha
  simp [Queues.pendingState, hf, hl]

-- From any reset pump, each taken report is one that was enqueued before, cut to
-- 64 bytes; the state reports among them are taken in enqueue order, each once;
-- and a pump with no state report left has handed out the newest one.
theorem taken_in_order_and_fresh (start : ReportPump) (ops : List PumpOp) :
    ∃ origin : List Nat,
      List.Forall₂ (fun i (taken : TakenReport) =>
        i < taken.time ∧ ∃ kind, offeredAt ops i = some (taken.report, kind))
        origin (runFrom start ops).taken ∧
      (origin.filter (stateAt ops)).Pairwise (· < ·) ∧
      ((∀ entry ∈ (runFrom start ops).pump.waiting, entry.2 = true) →
        (runFrom start ops).pump.haveLatest = false →
        (origin.filter (stateAt ops)).getLast? = lastState ops ops.length) := by
  obtain ⟨lines, origin, h⟩ := runFrom_tracks start ops ops.length (Nat.le_refl _)
  rw [List.take_length] at h
  refine ⟨origin, h.origins, (List.pairwise_append.mp h.ordered).1, ?_⟩
  intro hring hlatest
  have hpending := pendingState_of_drained _ _ lines h.queues hring hlatest
  simpa [hpending] using h.fresh

end LibVirtualGamepad.ReportPump
