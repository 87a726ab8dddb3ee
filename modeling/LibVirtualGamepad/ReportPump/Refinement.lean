import LibVirtualGamepad.ReportPump.Queues

namespace LibVirtualGamepad.ReportPump

-- The three lines behind the arrays and counters.
def queues (pump : ReportPump) : Queues ReportBuffer where
  priority := pump.priority
  ring := pump.waiting
  latest := if pump.haveLatest then some pump.latest else none

theorem waiting_length (pump : ReportPump) :
    pump.waiting.length = pump.transitionCursor.count := by
  simp [waiting]

theorem waiting_eq_nil_iff (pump : ReportPump) :
    pump.waiting = [] ↔ pump.transitionCursor.count = 0 := by
  rw [← List.length_eq_zero_iff, waiting_length]

-- The two arrays move together: an append extends both views at their ends.
theorem waiting_append (pump : ReportPump) (report : ReportBuffer) (isAside : Bool)
    (h : pump.transitionCursor.count < transitionCapacity) :
    (pump.append report isAside).waiting = pump.waiting ++ [(report, isAside)] := by
  simp only [waiting, append, Cursor.view_push _ _ _ h]
  rw [List.zip_append (by simp)]
  rfl

theorem waiting_pop (pump : ReportPump) (other : ReportPump)
    (hc : other.transitionCursor = pump.transitionCursor.pop)
    (ht : other.transitions = pump.transitions)
    (ha : other.transitionAside = pump.transitionAside) :
    other.waiting = pump.waiting.tail := by
  unfold waiting
  rw [hc, ht, ha, Cursor.view_pop, Cursor.view_pop]
  cases pump.transitionCursor.view pump.transitions <;>
    cases pump.transitionCursor.view pump.transitionAside <;> simp

theorem waiting_cons (pump : ReportPump) (h : 0 < pump.transitionCursor.count) :
    pump.waiting = (pump.transitionCursor.read pump.transitions 0,
      pump.transitionCursor.read pump.transitionAside 0) :: pump.waiting.tail := by
  unfold waiting
  rw [Cursor.view_cons _ _ h, Cursor.view_cons _ _ h]
  rfl

theorem waiting_dropOldest (pump : ReportPump) : pump.dropOldest.waiting = pump.waiting.tail :=
  waiting_pop pump pump.dropOldest rfl rfl rfl

theorem queues_append (pump : ReportPump) (report : ReportBuffer) (isAside : Bool)
    (h : pump.transitionCursor.count < transitionCapacity) :
    (pump.append report isAside).queues =
      { pump.queues with ring := pump.waiting ++ [(report, isAside)] } := by
  simp only [queues, waiting_append pump report isAside h]
  rfl

theorem queues_reset (pump : ReportPump) : pump.reset.queues = .empty := rfl

-- Enqueueing a report does to the three lines what the lines say it does.
theorem queues_enqueue (pump : ReportPump) (byte : UInt8) (bytes : List UInt8) (reportId : UInt8)
    (kind : ReportKind) :
    (pump.enqueue (some (byte :: bytes)) reportId kind).2.queues =
      pump.queues.enqueue (.store (byte :: bytes) reportId) kind := by
  cases kind with
  | priority =>
      by_cases hfull : priorityCapacity ≤ pump.priority.length
      · simp only [enqueue, Queues.enqueue, queues, hfull, if_true]
      · simp only [enqueue, Queues.enqueue, queues, hfull, if_false]
        rfl
  | continuous => rfl
  | aside =>
      have hlen : pump.queues.ring.length = pump.transitionCursor.count := waiting_length pump
      simp only [enqueue, Queues.enqueue, beq_self_eq_true, if_true]
      cases hf : pump.transitionCursor.full with
      | true =>
          have hc := (Cursor.full_iff _).mp hf
          simp [hlen, hc]
      | false =>
          have hc := Cursor.lt_of_not_full _ hf
          have hne : pump.queues.ring.length ≠ transitionCapacity := by omega
          simp only [hne, if_false, Bool.false_eq_true]
          exact queues_append pump _ true hc
  | transition =>
      have hlen : pump.queues.ring.length = pump.transitionCursor.count := waiting_length pump
      have hk : (ReportKind.transition == ReportKind.aside) = false := rfl
      simp only [enqueue, Queues.enqueue, hk, Bool.false_eq_true, if_false]
      cases hf : pump.transitionCursor.full with
      | true =>
          have hc := (Cursor.full_iff _).mp hf
          let cleared := { pump with haveLatest := false }
          have hroom : cleared.dropOldest.transitionCursor.count < transitionCapacity := by
            have hpop : cleared.dropOldest.transitionCursor.count =
              pump.transitionCursor.count - 1 := rfl
            have hpos : 0 < transitionCapacity := by decide
            omega
          have hdrop : cleared.dropOldest.waiting = pump.waiting.tail := waiting_dropOldest cleared
          have happend := queues_append cleared.dropOldest (.store (byte :: bytes) reportId) false
            hroom
          rw [hdrop] at happend
          simp only [if_true, hlen, hc]
          exact happend
      | false =>
          have hc := Cursor.lt_of_not_full _ hf
          have hne : pump.queues.ring.length ≠ transitionCapacity := by omega
          simp only [hne, if_false, Bool.false_eq_true]
          exact queues_append { pump with haveLatest := false } _ false hc

theorem take_not_ready (pump : ReportPump) (h : pump.ready = false) : pump.take = (none, pump) := by
  simp [take, h]

-- A ready pump hands out what the lines hand out.
theorem queues_take (pump : ReportPump) (h : pump.ready = true) :
    pump.take.1 = pump.queues.take.1.map Prod.fst ∧ pump.take.2.queues = pump.queues.take.2 := by
  cases hp : pump.priority with
  | cons report rest => simp [take, h, hp, Queues.take, queues, waiting]
  | nil =>
      by_cases hc : 0 < pump.transitionCursor.count
      · have hw := waiting_cons pump hc
        have htake : pump.take = (some (pump.transitionCursor.read pump.transitions 0),
            { pump with
              inFlight := pump.transitionCursor.read pump.transitions 0
              transitionCursor := pump.transitionCursor.pop
              ready := false }) := by
          simp [take, h, hp, hc]
        have hpop := waiting_pop pump pump.take.2 (by rw [htake]) (by rw [htake]) (by rw [htake])
        have hq : pump.queues.take = (some (pump.transitionCursor.read pump.transitions 0,
            if pump.transitionCursor.read pump.transitionAside 0 then .aside else .transition),
            { pump.queues with ring := pump.waiting.tail }) := by
          simp only [Queues.take, queues, hp]
          rw [hw]
          rfl
        rw [hq]
        refine ⟨by rw [htake]; rfl, ?_⟩
        simp only [queues, hpop]
        rw [htake]
      · have hw : pump.waiting = [] := (waiting_eq_nil_iff pump).mpr (by omega)
        cases hl : pump.haveLatest with
        | true =>
            let drained : ReportPump :=
              { pump with inFlight := pump.latest, haveLatest := false, ready := false }
            have htake : pump.take = (some pump.latest, drained) := by
              simp [take, h, hp, hc, hl, drained]
            have hempty : drained.waiting = [] := hw
            rw [htake]
            constructor
            · simp [Queues.take, queues, hp, hl, hw]
            · have hd : drained.queues = ⟨[], [], none⟩ := by
                simp only [queues, hempty]
                simp [drained, hp]
              rw [hd]
              simp [Queues.take, queues, hp, hl, hw]
        | false => simp [take, h, hp, hc, hl, Queues.take, queues, hw]

-- Queueing neither grants readiness nor touches the buffer that VHF may hold.
theorem enqueue_keeps (pump : ReportPump) (data : Option (List UInt8)) (reportId : UInt8)
    (kind : ReportKind) :
    (pump.enqueue data reportId kind).2.ready = pump.ready ∧
      (pump.enqueue data reportId kind).2.inFlight = pump.inFlight := by
  match data with
  | none | some [] => exact ⟨rfl, rfl⟩
  | some (byte :: bytes) =>
    cases kind with
    | priority =>
        simp only [enqueue]
        split <;> exact ⟨rfl, rfl⟩
    | continuous => exact ⟨rfl, rfl⟩
    | aside =>
        simp only [enqueue, beq_self_eq_true, if_true]
        cases pump.transitionCursor.full <;> exact ⟨rfl, rfl⟩
    | transition =>
        have hk : (ReportKind.transition == ReportKind.aside) = false := rfl
        simp only [enqueue, hk, Bool.false_eq_true, if_false]
        cases pump.transitionCursor.full <;> exact ⟨rfl, rfl⟩

-- A take gives the readiness up for the report it hands out, and the buffer holds that
-- report; a pump that stays ready has nothing to hand out.
theorem take_cases (pump : ReportPump) :
    (pump.take.1 = none ∧ pump.take.2 = pump ∧ (pump.ready = true → pump.queues = .empty)) ∨
      ∃ report, pump.take.1 = some report ∧ pump.ready = true ∧ pump.take.2.ready = false ∧
        pump.take.2.inFlight = report := by
  cases hready : pump.ready with
  | false => exact .inl ⟨by simp [take, hready], by simp [take, hready], by simp⟩
  | true =>
      cases hp : pump.priority with
      | cons report rest => exact .inr ⟨report, by simp [take, hready, hp]⟩
      | nil =>
          by_cases hc : 0 < pump.transitionCursor.count
          · exact .inr ⟨pump.transitionCursor.read pump.transitions 0, by simp [take, hready, hp, hc]⟩
          · have hw : pump.waiting = [] := (waiting_eq_nil_iff pump).mpr (by omega)
            cases hl : pump.haveLatest with
            | true => exact .inr ⟨pump.latest, by simp [take, hready, hp, hc, hl]⟩
            | false =>
                refine .inl ⟨by simp [take, hready, hp, hc, hl], by simp [take, hready, hp, hc, hl],
                  fun _ => ?_⟩
                simp [queues, hp, hw, hl, Queues.empty]

theorem empty_iff (pump : ReportPump) : pump.empty = true ↔ pump.queues = .empty := by
  have hw := waiting_eq_nil_iff pump
  simp only [empty, queues, Queues.empty, Bool.and_eq_true, List.isEmpty_iff, beq_iff_eq,
    Bool.not_eq_true', Queues.mk.injEq, hw]
  cases pump.haveLatest <;> simp

-- Two pumps with the same lines do the same.
structure SameLines (pump pump' : ReportPump) : Prop where
  ready : pump'.ready = pump.ready
  queues : pump'.queues = pump.queues

namespace SameLines

variable {pump pump' : ReportPump}

theorem enqueue (h : SameLines pump pump') (data : Option (List UInt8)) (reportId : UInt8)
    (kind : ReportKind) :
    SameLines (pump.enqueue data reportId kind).2 (pump'.enqueue data reportId kind).2 := by
  refine ⟨?_, ?_⟩
  · rw [(enqueue_keeps pump' data reportId kind).1, (enqueue_keeps pump data reportId kind).1,
      h.ready]
  · match data with
    | none | some [] => exact h.queues
    | some (byte :: bytes) => rw [queues_enqueue, queues_enqueue, h.queues]

theorem setReady (h : SameLines pump pump') : SameLines pump.setReady pump'.setReady :=
  ⟨rfl, h.queues⟩

theorem take (h : SameLines pump pump') :
    pump'.take.1 = pump.take.1 ∧ SameLines pump.take.2 pump'.take.2 := by
  cases hready : pump.ready with
  | false =>
      have hready' : pump'.ready = false := h.ready.trans hready
      rw [take_not_ready pump hready, take_not_ready pump' hready']
      exact ⟨rfl, h⟩
  | true =>
      obtain ⟨hout, hqueues⟩ := queues_take pump hready
      obtain ⟨hout', hqueues'⟩ := queues_take pump' (h.ready.trans hready)
      have hsame : pump'.take.1 = pump.take.1 := by rw [hout, hout', h.queues]
      refine ⟨hsame, ?_, by rw [hqueues, hqueues', h.queues]⟩
      rcases take_cases pump with ⟨hnone, hkept, -⟩ | ⟨report, hsome, -, hafter, -⟩ <;>
        rcases take_cases pump' with ⟨hnone', hkept', -⟩ | ⟨report', hsome', -, hafter', -⟩
      · rw [hkept, hkept', h.ready]
      · rw [hsame, hnone] at hsome'
        exact absurd hsome' (by simp)
      · rw [hsame, hsome] at hnone'
        exact absurd hnone' (by simp)
      · rw [hafter, hafter']

end SameLines

-- What the classifier compares an input with.
structure SameSignature (pump pump' : ReportPump) : Prop where
  haveSignature : pump'.haveSignature = pump.haveSignature
  lastButtons : pump'.lastButtons = pump.lastButtons
  lastLeftTrigger : pump'.lastLeftTrigger = pump.lastLeftTrigger
  lastRightTrigger : pump'.lastRightTrigger = pump.lastRightTrigger

theorem SameSignature.refl (pump : ReportPump) : SameSignature pump pump := ⟨rfl, rfl, rfl, rfl⟩

theorem sameSignature_enqueue (pump : ReportPump) (data : Option (List UInt8)) (reportId : UInt8)
    (kind : ReportKind) : SameSignature pump (pump.enqueue data reportId kind).2 := by
  match data with
  | none | some [] => exact .refl pump
  | some (byte :: bytes) =>
    cases kind with
    | priority =>
        simp only [enqueue]
        split <;> exact ⟨rfl, rfl, rfl, rfl⟩
    | continuous => exact ⟨rfl, rfl, rfl, rfl⟩
    | aside =>
        simp only [enqueue, beq_self_eq_true, if_true]
        cases pump.transitionCursor.full <;> exact ⟨rfl, rfl, rfl, rfl⟩
    | transition =>
        have hk : (ReportKind.transition == ReportKind.aside) = false := rfl
        simp only [enqueue, hk, Bool.false_eq_true, if_false]
        cases pump.transitionCursor.full <;> exact ⟨rfl, rfl, rfl, rfl⟩

theorem sameSignature_take (pump : ReportPump) : SameSignature pump pump.take.2 := by
  unfold take
  split
  · exact .refl pump
  · split
    · exact ⟨rfl, rfl, rfl, rfl⟩
    · dsimp only
      split
      · exact ⟨rfl, rfl, rfl, rfl⟩
      · split
        · exact ⟨rfl, rfl, rfl, rfl⟩
        · exact .refl pump

-- A snapshot takes nothing out of the ring.
theorem waiting_enqueue_continuous (pump : ReportPump) (data : Option (List UInt8))
    (reportId : UInt8) : (pump.enqueue data reportId .continuous).2.waiting = pump.waiting := by
  match data with
  | none | some [] => rfl
  | some (byte :: bytes) => rfl

end LibVirtualGamepad.ReportPump
