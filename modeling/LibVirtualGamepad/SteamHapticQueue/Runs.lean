import LibVirtualGamepad.SteamHapticQueue.Refinement

namespace LibVirtualGamepad.FeedbackRing

open Coalescing

variable {capacity : Nat}

inductive RingOp where
  | enqueue (event : FeedbackEvent)
  | poll

-- A ring and its history. Evictions are the increments of the ring's own counter,
-- which itself wraps at 32 bits.
structure RingRun (capacity : Nat) where
  ring : FeedbackRing capacity
  delivered : List FeedbackEvent
  enqueued : List FeedbackEvent
  coalesced : Nat
  evictions : Nat

namespace RingRun

-- Whether a stop of the event's key is waiting.
def replaces (run : RingRun capacity) (event : FeedbackEvent) : Prop :=
  hapticStopKey event ≠ 0 ∧ ∃ other ∈ run.ring.pending, hapticStopKey other = hapticStopKey event

instance (run : RingRun capacity) (event : FeedbackEvent) : Decidable (run.replaces event) :=
  inferInstanceAs (Decidable (_ ∧ _))

def step (run : RingRun capacity) : RingOp → RingRun capacity
  | .enqueue event =>
    let next := (run.ring.enqueueHaptic event).2
    { ring := next
      delivered := run.delivered
      enqueued := run.enqueued ++ [event]
      coalesced := run.coalesced + if run.replaces event then 1 else 0
      evictions := run.evictions + (next.evicted - run.ring.evicted).toNat }
  | .poll =>
    match run.ring.poll with
    | none => run
    | some (event, next) => { run with ring := next, delivered := run.delivered ++ [event] }

def start (ring : FeedbackRing capacity) : RingRun capacity := ⟨ring, [], [], 0, 0⟩

-- The run as a history of a coalescing line.
def line (run : RingRun capacity) : History FeedbackEvent :=
  ⟨run.ring.pending, run.delivered, run.enqueued, run.coalesced, run.evictions⟩

theorem line_enqueue (run : RingRun capacity) (event : FeedbackEvent) :
    (run.step (.enqueue event)).line = run.line.accept hapticStopKey capacity event := by
  obtain ⟨hpending, _, hevicted⟩ := run.ring.enqueueHaptic_spec event
  have hcoalesced : run.replaces event ↔
      outcome hapticStopKey capacity run.ring.pending event = .coalesced :=
    (coalesced_iff run.ring.pending event).symm
  have hcount : ((run.ring.enqueueHaptic event).2.evicted - run.ring.evicted).toNat =
      if outcome hapticStopKey capacity run.ring.pending event = .evicted then 1 else 0 := by
    rw [hevicted]
    split
    · rw [UInt32.add_comm, UInt32.add_sub_cancel]
      rfl
    · simp
  simp only [step, line, History.accept, hpending, hcoalesced, hcount]
  congr

theorem line_poll (run : RingRun capacity) : (run.step .poll).line = run.line.deliver := by
  cases hp : run.ring.poll with
  | none =>
      have hnil := (poll_eq_none_iff run.ring).mp hp
      simp [step, hp, line, History.deliver, hnil]
  | some taken =>
      obtain ⟨event, next⟩ := taken
      obtain ⟨hpending, _⟩ := poll_eq_some run.ring next event hp
      simp [step, hp, line, History.deliver, hpending]

theorem evicted_step (run : RingRun capacity) (op : RingOp) :
    (run.step op).ring.evicted =
      run.ring.evicted + UInt32.ofNat ((run.step op).evictions - run.evictions) := by
  cases op with
  | enqueue event =>
      have hsub : (run.step (.enqueue event)).evictions - run.evictions =
          ((run.ring.enqueueHaptic event).2.evicted - run.ring.evicted).toNat := by
        simp [step]
      rw [hsub, UInt32.ofNat_toNat, UInt32.add_comm, UInt32.sub_add_cancel]
      rfl
  | poll =>
      cases hp : run.ring.poll with
      | none => simp [step, hp]
      | some taken =>
          obtain ⟨event, next⟩ := taken
          have hsame := (poll_eq_some run.ring next event hp).2
          simp [step, hp, hsame]

end RingRun

-- The actuator a stop key names.
private def keyActuator (key : Nat) : UInt8 × UInt8 :=
  (UInt8.ofNat (key / 4),
    if key / 4 = 0x80 then 0 else if key % 4 = 3 then 2 else UInt8.ofNat (key % 4 - 1))

private theorem keyActuator_report (report : Vector UInt8 steamHapticReportBytes) (length : UInt8)
    (h : steamHapticStopKey report length ≠ 0) :
    keyActuator (steamHapticStopKey report length) =
      (report[0], if report[0] = 0x80 then (0 : UInt8) else report[1]) := by
  unfold steamHapticStopKey at h ⊢
  split
  · rename_i hpulse
    rw [hpulse.2.1]
    rfl
  · rename_i hpulse
    rw [if_neg hpulse] at h
    split
    · rename_i hshort
      simp [hshort] at h
    · rename_i hlong
      rw [if_neg hlong] at h
      split
      · rename_i hstop
        have hside := side_cases report[1] fun hgt => hlong (.inr hgt)
        have hid : report[0] = 0x81 ∨ report[0] = 0x82 := by
          rcases hstop with hstop | hstop
          · exact .inl hstop.2.1
          · exact .inr hstop.2.1
        rcases hid with hid | hid <;> rcases hside with hs | hs | hs <;> rw [hid, hs] <;> rfl
      · rename_i hgo
        simp [hgo] at h

private theorem actuator_of_stop (event : FeedbackEvent) (h : hapticStopKey event ≠ 0) :
    actuator event = some (keyActuator (hapticStopKey event)) := by
  unfold hapticStopKey at h ⊢
  unfold actuator
  split
  · rename_i hother
    simp [hother] at h
  · rename_i hsteam
    rw [if_neg hsteam] at h
    rw [keyActuator_report _ _ h]

private theorem actuator_eq_of_key_eq (event other : FeedbackEvent) (h : hapticStopKey other ≠ 0)
    (hk : hapticStopKey event = hapticStopKey other) : actuator event = actuator other := by
  rw [actuator_of_stop other h, actuator_of_stop event (by rwa [hk]), hk]

private theorem stopKeys_lt (h : 8 ≤ capacity) : stopKeys.card < capacity := by
  rw [stopKeys_card]
  omega

private theorem valid_run (h : 8 ≤ capacity) (run : RingRun capacity) (ops : List RingOp)
    (hvalid : run.line.Valid hapticStopKey stopKeys)
    (hfresh : run.line.Freshest hapticStopKey actuator) :
    (ops.foldl RingRun.step run).line.Valid hapticStopKey stopKeys ∧
      (ops.foldl RingRun.step run).line.Freshest hapticStopKey actuator := by
  induction ops generalizing run with
  | nil => exact ⟨hvalid, hfresh⟩
  | cons op rest ih =>
      apply ih
      · cases op with
        | enqueue event =>
            rw [RingRun.line_enqueue]
            exact run.line.valid_accept event (stopKeys_lt h) hvalid (hapticStopKey_mem event)
        | poll =>
            rw [RingRun.line_poll]
            exact run.line.valid_deliver hvalid
      · cases op with
        | enqueue event =>
            rw [RingRun.line_enqueue]
            exact run.line.freshest_accept actuator event (stopKeys_lt h) hvalid hfresh
              fun other hz hk => actuator_eq_of_key_eq event other hz hk
        | poll =>
            rw [RingRun.line_poll]
            exact run.line.freshest_deliver actuator hfresh

-- Evictions only grow, and the ring's counter follows them modulo 2^32.
private theorem evicted_run (run : RingRun capacity) (ops : List RingOp) :
    run.evictions ≤ (ops.foldl RingRun.step run).evictions ∧
      (ops.foldl RingRun.step run).ring.evicted = run.ring.evicted +
        UInt32.ofNat ((ops.foldl RingRun.step run).evictions - run.evictions) := by
  induction ops generalizing run with
  | nil => simp
  | cons op rest ih =>
      obtain ⟨hle, hcount⟩ := ih (run.step op)
      have hstep : run.evictions ≤ (run.step op).evictions := by
        cases op with
        | enqueue event => simp [RingRun.step]
        | poll => cases hp : run.ring.poll <;> simp [RingRun.step, hp]
      refine ⟨Nat.le_trans hstep hle, ?_⟩
      rw [List.foldl_cons, hcount, run.evicted_step op, UInt32.add_assoc, ← UInt32.ofNat_add]
      congr 2
      omega

-- One operation on a valid ring loses a waiting stop only to a poll or to a newer
-- stop of its key.
private theorem stop_kept (run : RingRun capacity) (stop : FeedbackEvent)
    (hm : stop ∈ run.ring.pending) (hz : hapticStopKey stop ≠ 0) (op : RingOp) :
    stop ∈ (run.step op).ring.pending ∨
      (op = .poll ∧ (run.step op).delivered = run.delivered ++ [stop]) ∨
      ∃ event, op = .enqueue event ∧ hapticStopKey event = hapticStopKey stop ∧
        (run.step op).ring.pending.getLast? = some event := by
  cases op with
  | enqueue event =>
      have hpending : (run.step (.enqueue event)).ring.pending =
        accept hapticStopKey capacity run.ring.pending event :=
        (run.ring.enqueueHaptic_spec event).1
      by_cases hk : hapticStopKey event = hapticStopKey stop
      · refine .inr (.inr ⟨event, rfl, hk, ?_⟩)
        rw [hpending, accept_same run.ring.pending event stop hz hm hk, List.getLast?_concat]
      · left
        rw [hpending]
        exact mem_accept run.ring.pending event stop hz hm hk
  | poll =>
      cases hp : run.ring.poll with
      | none =>
          rw [poll_eq_none_iff] at hp
          simp [hp] at hm
      | some taken =>
          obtain ⟨event, next⟩ := taken
          rw [(poll_eq_some run.ring next event hp).1] at hm
          rcases List.mem_cons.mp hm with rfl | hm
          · exact .inr (.inl ⟨rfl, by simp [RingRun.step, hp]⟩)
          · exact .inl (by simpa [RingRun.step, hp] using hm)

-- An enqueue that counts an eviction takes the oldest waiting event that is no stop.
private theorem eviction_oldest (ring : FeedbackRing capacity) (event : FeedbackEvent)
    (h : (ring.enqueueHaptic event).2.evicted ≠ ring.evicted) :
    ∃ before victim after, ring.pending = before ++ victim :: after ∧
      (∀ other ∈ before, hapticStopKey other ≠ 0) ∧ hapticStopKey victim = 0 ∧
      (ring.enqueueHaptic event).2.pending = before ++ after ++ [event] := by
  obtain ⟨hpending, _, hevicted⟩ := ring.enqueueHaptic_spec event
  have ho : outcome hapticStopKey capacity ring.pending event = .evicted := by
    by_contra hne
    rw [if_neg hne, UInt32.add_zero] at hevicted
    exact h hevicted
  obtain ⟨before, victim, after, hsplit, hbefore, hvictim, herase⟩ :=
    eraseP_ordinary_split ring.pending (any_ordinary_of_evicted ring.pending event ho)
  refine ⟨before, victim, after, hsplit, hbefore, hvictim, ?_⟩
  rw [hpending]
  simp only [accept, ho, herase]

-- From an empty ring of at least eight cells, whatever its head, after any
-- enqueues and polls.
theorem haptic_ring_runs (h : 8 ≤ capacity) (queue : Vector FeedbackEvent capacity)
    (head : Fin capacity) (evicted : UInt32) (ops : List RingOp) :
    let run := ops.foldl RingRun.step (.start (emptyAt queue head evicted))
    -- The next enqueue, whichever event it brings, is not refused and ends the line.
    (∀ event, (run.ring.enqueueHaptic event).1 = true ∧
      (run.ring.enqueueHaptic event).2.pending.getLast? = some event) ∧
    -- No two waiting events have the same non-zero stop key.
    run.ring.pending.Pairwise (fun event other =>
      hapticStopKey event ≠ 0 → hapticStopKey event ≠ hapticStopKey other) ∧
    -- A waiting stop leaves by a poll or for a newer stop of its key at the tail.
    (∀ stop ∈ run.ring.pending, hapticStopKey stop ≠ 0 → ∀ op,
      stop ∈ (run.step op).ring.pending ∨
      (op = .poll ∧ (run.step op).delivered = run.delivered ++ [stop]) ∨
      ∃ event, op = .enqueue event ∧ hapticStopKey event = hapticStopKey stop ∧
        (run.step op).ring.pending.getLast? = some event) ∧
    -- The events without a key are delivered in the order they were enqueued.
    (run.delivered.filter (hapticStopKey · = 0)).Sublist
      (run.enqueued.filter (hapticStopKey · = 0)) ∧
    -- An eviction takes the oldest of them.
    (∀ event, (run.ring.enqueueHaptic event).2.evicted ≠ run.ring.evicted →
      ∃ before victim after, run.ring.pending = before ++ victim :: after ∧
        (∀ other ∈ before, hapticStopKey other ≠ 0) ∧ hapticStopKey victim = 0 ∧
        (run.ring.enqueueHaptic event).2.pending = before ++ after ++ [event]) ∧
    -- Every event is accounted for, and the counter counts the evictions.
    run.enqueued.length =
      run.delivered.length + run.ring.pending.length + run.coalesced + run.evictions ∧
    run.ring.evicted = evicted + UInt32.ofNat run.evictions ∧
    -- Once the ring is drained, a motor that was last told to stop was last seen to stop.
    (run.ring.pending = [] → ∀ motor stop,
      (run.enqueued.filter (actuator · = motor)).getLast? = some stop →
      hapticStopKey stop ≠ 0 →
      (run.delivered.filter (actuator · = motor)).getLast? = some stop) := by
  intro run
  obtain ⟨hvalid, hfresh⟩ := valid_run h (.start (emptyAt queue head evicted)) ops
    History.valid_start (History.freshest_start actuator)
  have hvalid : run.line.Valid hapticStopKey stopKeys := hvalid
  have hfresh : run.line.Freshest hapticStopKey actuator := hfresh
  have hordinary : Ordinary hapticStopKey = fun event => decide (hapticStopKey event = 0) := by
    funext event
    simp only [Ordinary, beq_eq_decide]
  refine ⟨?_, hvalid.distinct, ?_, ?_, ?_, hvalid.balance, ?_, ?_⟩
  · intro event
    obtain ⟨hpending, haccepted, _⟩ := run.ring.enqueueHaptic_spec event
    have hnot := outcome_ne_refused stopKeys (stopKeys_lt h) run.ring.pending event
      hvalid.distinct hvalid.named
    obtain ⟨kept, hsplit, _⟩ := History.accept_split run.ring.pending event hnot
    exact ⟨haccepted.mpr hnot, by rw [hpending, hsplit, List.getLast?_concat]⟩
  · exact fun stop hm hz op => stop_kept run stop hm hz op
  · rw [← hordinary]
    apply List.Sublist.trans _ hvalid.ordinary
    rw [List.filter_append]
    exact List.sublist_append_left _ _
  · exact fun event hcount => eviction_oldest run.ring event hcount
  · have hcount := (evicted_run (.start (emptyAt queue head evicted)) ops).2
    exact hcount
  · intro hempty motor stop hlast hz
    have hnewest := hfresh motor stop hlast hz
    have hnil : run.line.pending = [] := hempty
    rwa [hnil, List.append_nil] at hnewest

-- A rumble of the left pad and its stop through a ring of eight whose head is at 5.
private def padRumble (intensity : UInt8) : FeedbackEvent :=
  .make 0 .steamHaptic ([12, 0, 0, 0] ++ [0x82, 1, intensity] ++ List.replicate 9 0)

theorem haptic_ring_runs_eight :
    let ops := [.enqueue (padRumble 3), .enqueue (padRumble 0), .poll, .poll]
    let run := ops.foldl RingRun.step
      (.start (emptyAt (Vector.replicate 8 FeedbackEvent.zero) 5 0))
    run.ring.pending = [] ∧
      (run.delivered.filter (actuator · = some (0x82, 1))).getLast? = some (padRumble 0) := by
  intro ops run
  have hruns := haptic_ring_runs (by decide) (Vector.replicate 8 FeedbackEvent.zero) 5 0 ops
  have hdrained : run.ring.pending = [] := by decide
  exact ⟨hdrained, hruns.2.2.2.2.2.2.2 hdrained (some (0x82, 1)) (padRumble 0)
    (by decide) (by decide)⟩

end LibVirtualGamepad.FeedbackRing
