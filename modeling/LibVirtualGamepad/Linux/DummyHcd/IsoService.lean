import LibVirtualGamepad.Pacing
import LibVirtualGamepad.Linux.DummyHcd.Steps

-- An isochronous endpoint serves one packet for one interval, however late the timer runs.
namespace LibVirtualGamepad.DummyHcd

open Pacing

-- When the packets of one endpoint were served.
def serviceTimes (e : EpIndex) (log : List Event) : List Nat :=
  log.filterMap fun event =>
    match event with
    | .served other _ _ now => if other = e then some now.toNat else none
    | _ => none

theorem serviceTimes_append (e : EpIndex) (log events : List Event) :
    serviceTimes e (log ++ events) = serviceTimes e log ++ serviceTimes e events :=
  List.filterMap_append

theorem serviceTimes_eq_nil {e : EpIndex} {events : List Event}
    (h : ∀ event ∈ events, event.isService = false) : serviceTimes e events = [] := by
  apply List.filterMap_eq_nil_iff.mpr
  intro event hevent
  have hnot := h event hevent
  cases event with
  | served other id frame now => cases hnot
  | enqueued id urb => rfl
  | requestDone other req => rfl
  | givenBack id status => rfl

theorem Speed.frameNs_bounds (speed : Speed) :
    0 < speed.frameNs.toNat ∧ speed.frameNs.toNat ≤ 1000000 := by
  cases speed <;> decide

theorem Urb.serviceNs_bounds (speed : Speed) (urb : Urb) :
    0 < (urb.serviceNs speed).toNat ∧ (urb.serviceNs speed).toNat ≤ 2147483648 * 1000000 := by
  obtain ⟨hpos, hle⟩ := speed.frameNs_bounds
  have hint := urb.interval.toInt_lt
  have hcount : 1 ≤ (max urb.interval.toInt 1).toNat := by omega
  have hmax : (max urb.interval.toInt 1).toNat ≤ 2147483648 := by omega
  have hproduct := Nat.mul_le_mul hmax hle
  have hpositive := Nat.mul_pos hcount hpos
  have hword : (max urb.interval.toInt 1).toNat < 2 ^ 64 := by omega
  unfold serviceNs
  rw [UInt64.toNat_mul, UInt64.toNat_ofNat', Nat.mod_eq_of_lt hword,
    Nat.mod_eq_of_lt (by omega)]
  exact ⟨hpositive, hproduct⟩

theorem ktimeMax_toNat {now : UInt64} (h : now < ktimeMax) : now.toNat < 2 ^ 63 :=
  UInt64.lt_iff_toNat_lt.mp h

-- The next service is due an interval after the last at the earliest, and an interval from now
-- at the latest.
theorem isoNext_bounds {now interval next : UInt64} (hnow : now < ktimeMax) (hle : next ≤ now)
    (hinterval : interval.toNat ≤ 2147483648 * 1000000) :
    next.toNat + interval.toNat ≤ (isoNext now interval next).toNat ∧
      (isoNext now interval next).toNat ≤ now.toNat + interval.toNat := by
  have hlt := ktimeMax_toNat hnow
  have hnext := UInt64.le_iff_toNat_le.mp hle
  unfold isoNext
  rw [UInt64.toNat_add]
  split
  · rw [Nat.mod_eq_of_lt (by omega)]
    omega
  · rw [Nat.mod_eq_of_lt (by omega)]
    omega

theorem isoNext_zero {now interval : UInt64} (hnow : now < ktimeMax)
    (hinterval : interval.toNat ≤ 2147483648 * 1000000) :
    (isoNext now interval 0).toNat = now.toNat + interval.toNat := by
  have hlt := ktimeMax_toNat hnow
  unfold isoNext
  rw [if_pos (Or.inl rfl), UInt64.toNat_add, Nat.mod_eq_of_lt (by omega)]

-- The endpoint since it was enabled: its services keep their distance, and the next of them
-- is due after the interval of the last.
structure Paced (e : EpIndex) (address : UInt8) (speed : Speed) (interval : UInt64)
    (log : List Event) (hcd : Hcd) : Prop where
  speed_eq : hcd.speed = speed
  desc : (hcd.ep e).desc = some address
  unserved : serviceTimes e log = [] → (hcd.ep e).isoNextNs = 0
  spaced : ∀ first rest, serviceTimes e log = first :: rest → 0 < interval.toNat ∧
    Spaced first interval.toNat (serviceTimes e log) ∧
    first + (serviceTimes e log).length * interval.toNat ≤ (hcd.ep e).isoNextNs.toNat

namespace Paced

variable {e : EpIndex} {address : UInt8} {speed : Speed} {interval : UInt64} {log : List Event}
  {hcd hcd' : Hcd} {events : List Event}

theorem quiet (h : Paced e address speed interval log hcd) (hspeed : hcd'.speed = hcd.speed)
    (hdesc : (hcd'.ep e).desc = (hcd.ep e).desc)
    (hnext : (hcd'.ep e).isoNextNs = (hcd.ep e).isoNextNs)
    (hevents : serviceTimes e events = []) :
    Paced e address speed interval (log ++ events) hcd' := by
  have htimes : serviceTimes e (log ++ events) = serviceTimes e log := by
    rw [serviceTimes_append, hevents, List.append_nil]
  constructor
  · rw [hspeed]
    exact h.speed_eq
  · rw [hdesc]
    exact h.desc
  · rw [htimes, hnext]
    exact h.unserved
  · rw [htimes, hnext]
    exact h.spaced

theorem same (h : Paced e address speed interval log hcd) (hsame : SameEps hcd hcd')
    (hevents : ∀ event ∈ events, event.isService = false) :
    Paced e address speed interval (log ++ events) hcd' :=
  h.quiet hsame.speed (hsame.desc e) (hsame.next e) (serviceTimes_eq_nil hevents)

-- A service at another endpoint, or none.
theorem serve (h : Paced e address speed interval log hcd) {now : UInt64} {urbp : Urbp}
    {tmp : Option UrbpId} {other : EpIndex} {total : Int} (hnow : now < ktimeMax)
    (hserve : serveIso now urbp tmp other total hcd = some (hcd', events))
    (hinterval : other = e → urbp.urb.serviceNs speed = interval) :
    Paced e address speed interval (log ++ events) hcd' := by
  rcases serveIso_cases hserve with ⟨-, rfl, rfl⟩ | ⟨hdue, hadvanced, tail, rfl, htail⟩
  · exact h.same ⟨rfl, rfl, fun _ => rfl, fun _ => rfl⟩ (List.forall_mem_nil _)
  · by_cases heq : other = e
    · subst heq
      have hns := hinterval rfl
      have hbounds := urbp.urb.serviceNs_bounds speed
      rw [h.speed_eq] at hadvanced
      rw [hns] at hbounds hadvanced
      have hle : (hcd.ep other).isoNextNs ≤ now := UInt64.not_lt.mp hdue
      have hnext := isoNext_bounds hnow hle hbounds.2
      rw [← hadvanced.next] at hnext
      have htimes : serviceTimes other (log ++ Event.served other urbp.id urbp.isoPacket now :: tail)
          = serviceTimes other log ++ [now.toNat] := by
        have hone : serviceTimes other [Event.served other urbp.id urbp.isoPacket now] =
            [now.toNat] := List.filterMap_cons_some (if_pos rfl)
        rw [List.append_cons, serviceTimes_append, serviceTimes_append, hone,
          serviceTimes_eq_nil htail, List.append_nil]
      constructor
      · rw [hadvanced.speed]
        exact h.speed_eq
      · rw [hadvanced.desc]
        exact h.desc
      · rw [htimes]
        intro hnil
        exact absurd hnil (List.append_ne_nil_of_right_ne_nil _ (List.cons_ne_nil _ _))
      · rw [htimes]
        intro first rest hfirst
        refine ⟨hbounds.1, ?_⟩
        cases hlog : serviceTimes other log with
        | nil =>
            rw [hlog] at hfirst
            injection hfirst with hnow_eq
            have hzero := hadvanced.next
            rw [h.unserved hlog] at hzero
            rw [hzero, isoNext_zero hnow hbounds.2, ← hnow_eq, List.nil_append]
            refine ⟨Spaced.singleton _ _, ?_⟩
            rw [List.length_singleton, Nat.one_mul]
        | cons start times =>
            obtain ⟨-, hspaced, hdue'⟩ := h.spaced start times hlog
            rw [hlog] at hfirst hspaced hdue'
            injection hfirst with hstart
            subst hstart
            have hnow_le := UInt64.le_iff_toNat_le.mp hle
            refine ⟨hspaced.snoc (Nat.le_trans hdue' hnow_le), ?_⟩
            rw [List.length_append, List.length_singleton, Nat.add_mul, Nat.one_mul]
            omega
    · apply h.quiet hadvanced.speed (hadvanced.desc e) (hadvanced.others e (Ne.symm heq))
      have hnone : serviceTimes e [Event.served other urbp.id urbp.isoPacket now] = [] :=
        List.filterMap_cons_none (if_neg heq)
      rw [← List.singleton_append, serviceTimes_append, hnone, serviceTimes_eq_nil htail,
        List.append_nil]

theorem served_le (h : Paced e address speed interval log hcd) {first : Nat} {rest : List Nat}
    (htimes : serviceTimes e log = first :: rest) (t : Nat) :
    ((first :: rest).filter fun u => decide (u ≤ t)).length ≤
      1 + (t - first) / interval.toNat := by
  obtain ⟨hpos, hspaced, -⟩ := h.spaced first rest htimes
  rw [htimes] at hspaced
  exact hspaced.count_le hpos t

end Paced

theorem findEndpoint_desc {address : UInt8} {hcd : Hcd} {e : EpIndex} (he : e ≠ 0)
    (h : hcd.findEndpoint address = some e) : (hcd.ep e).desc = some address := by
  unfold Hcd.findEndpoint at h
  split at h
  · cases h
  · split at h
    · cases h
    · split at h
      · cases h
        exact absurd rfl he
      · have hsome := List.find?_some h
        exact (of_decide_eq_true hsome).2

theorem finishMove_same (id : UrbpId) (tmp : Option UrbpId) (e : EpIndex) (total : Int)
    (how : Moved) (hcd : Hcd) :
    SameEps hcd (finishMove id tmp e total how hcd).1 ∧
      ∀ event ∈ (finishMove id tmp e total how hcd).2, event.isService = false := by
  have hback : ∀ status left, SameEps hcd (returnUrb id (some e) status left hcd).1 ∧
      ∀ event ∈ (returnUrb id (some e) status left hcd).2, event.isService = false := by
    intro status left
    obtain ⟨-, hsame, hevents⟩ := returnUrb_spec id (some e) status left hcd
    refine ⟨hsame, fun event hevent => ?_⟩
    rw [hevents] at hevent
    rw [List.mem_singleton.mp hevent]
    rfl
  cases how with
  | stale =>
      have hsame := SameEps.setEp hcd e { hcd.ep e with alreadySeen := false } rfl rfl
      exact ⟨hsame.trans ⟨rfl, rfl, fun _ => rfl, fun _ => rfl⟩, List.forall_mem_nil _⟩
  | transferred sent status =>
      unfold finishMove
      dsimp only
      split
      · exact ⟨⟨rfl, rfl, fun _ => rfl, fun _ => rfl⟩, List.forall_mem_nil _⟩
      · exact hback status (total - sent)
  | answered status => exact hback status total

section

variable {e : EpIndex} {address : UInt8} {speed : Speed} {interval : UInt64} {log : List Event}
  {hcd hcd' : Hcd} {events : List Event}

theorem visit_paced {now : UInt64} {id : UrbpId} {total : Int} (hnow : now < ktimeMax)
    (h : visit now id total hcd = some (hcd', events))
    (hpaced : Paced e address speed interval log hcd) (he : e ≠ 0)
    (hinterval : ∀ urbp ∈ hcd.urbpList, urbp.urb.pipe = .isochronous →
      urbp.urb.address = address → urbp.urb.serviceNs speed = interval) :
    Paced e address speed interval (log ++ events) hcd' := by
  obtain ⟨urbp, hfind, hturn⟩ := visit_cases h
  obtain ⟨hmem, rfl⟩ := find_some hfind
  cases hturn with
  | walks => exact hpaced.same ⟨rfl, rfl, fun _ => rfl, fun _ => rfl⟩ (List.forall_mem_nil _)
  | returns _ hsame _ =>
      apply hpaced.same hsame
      intro event hevent
      rw [List.mem_singleton.mp hevent]
      rfl
  | moves _ _ hsame _ => exact hpaced.same hsame (List.forall_mem_nil _)
  | @serves _ _ other tmp hpipe hep hserve =>
      have hseen := SameEps.setEp hcd other { hcd.ep other with alreadySeen := true } rfl rfl
      have hpaced' := hpaced.same hseen (List.forall_mem_nil _)
      rw [List.append_nil] at hpaced'
      apply hpaced'.serve hnow hserve
      intro heq
      subst heq
      apply hinterval urbp hmem hpipe
      have hdesc := findEndpoint_desc he hep
      rw [hpaced.desc] at hdesc
      exact (Option.some.inj hdesc).symm

-- An endpoint that is enabled stays so until it is disabled.
theorem step_paced {op : Step} (h : step hcd op = some (hcd', events))
    (hpaced : Paced e address speed interval log hcd) (he : e ≠ 0) (hop : op ≠ .disable e)
    (hinterval : ∀ urbp ∈ hcd.urbpList, urbp.urb.pipe = .isochronous →
      urbp.urb.address = address → urbp.urb.serviceNs speed = interval) :
    Paced e address speed interval (log ++ events) hcd' := by
  have hnone : ∀ event ∈ ([] : List Event), event.isService = false := List.forall_mem_nil _
  cases op with
  | fire =>
      simp only [step] at h
      split at h
      · cases h
        unfold fire
        split
        · exact hpaced.quiet rfl rfl rfl rfl
        · exact hpaced.same (SameEps.refl _) hnone
      · cases h
  | visit now =>
      simp only [step] at h
      split at h
      next hclock =>
        split at h
        · cases h
          exact hpaced.quiet rfl rfl rfl rfl
        · have hpaced' : Paced e address speed interval log { hcd with clock := now } :=
            ⟨hpaced.speed_eq, hpaced.desc, hpaced.unserved, hpaced.spaced⟩
          exact visit_paced hclock.2.2 h hpaced' he hinterval
        · cases h
      next => cases h
  | gadgetReturned =>
      simp only [step] at h
      split at h
      next =>
        obtain ⟨hsame, _, _, _, _, _, _, ⟨-, rfl, -⟩ | ⟨-, rfl, -⟩⟩ := finishIso_cases h
        · apply hpaced.same hsame
          intro event hevent
          rw [List.mem_singleton.mp hevent]
          rfl
        · exact hpaced.same hsame hnone
      next => cases h
  | moved how =>
      simp only [step] at h
      split at h
      next id tmp other total htimer =>
        have hmove := finishMove_same id tmp other total how hcd
        rw [Option.some.inj h] at hmove
        exact hpaced.same hmove.1 hmove.2
      next => cases h
  | hostReturned =>
      simp only [step] at h
      split at h
      next =>
        cases h
        exact hpaced.quiet rfl rfl rfl rfl
      next => cases h
  | enqueue urb =>
      cases of_locked h
      exact hpaced.quiet rfl rfl rfl rfl
  | dequeue id status =>
      cases of_locked h
      unfold dummyUrbDequeue
      split
      · exact hpaced.same (SameEps.refl _) hnone
      · split
        · exact hpaced.same (SameEps.refl _) hnone
        · exact hpaced.same (SameEps.put _ _) hnone
  | queueRequest other req =>
      cases of_locked h
      unfold dummyQueue
      split
      · exact hpaced.same (SameEps.refl _) hnone
      · exact hpaced.same (SameEps.setEp _ _ _ rfl rfl) hnone
  | dropRequest other index =>
      cases of_locked h
      exact hpaced.same (SameEps.setEp _ _ _ rfl rfl) hnone
  | enable other at' =>
      cases h
      unfold dummyEnable
      split
      · exact hpaced.same (SameEps.refl _) hnone
      next hdown =>
        have hne : e ≠ other := by
          intro heq
          subst heq
          exact hdown (Or.inr (by rw [hpaced.desc]; rfl))
        refine hpaced.quiet rfl ?_ ?_ rfl
        · simp [Hcd.setEp, Function.update_of_ne hne]
        · simp [Hcd.setEp, Function.update_of_ne hne]
  | disable other =>
      cases of_locked h
      unfold dummyDisable
      split
      · exact hpaced.same (SameEps.refl _) hnone
      · have hne : e ≠ other := fun heq => hop (congrArg Step.disable heq.symm)
        refine hpaced.quiet rfl ?_ ?_ rfl
        · simp [Hcd.setEp, Function.update_of_ne hne]
        · simp [Hcd.setEp, Function.update_of_ne hne]
  | setHalt other value =>
      cases h
      exact hpaced.same (SameEps.setEp _ _ _ rfl rfl) hnone
  | bus active intsEnabled rhState =>
      cases of_locked h
      exact hpaced.quiet rfl rfl rfl rfl

end

theorem Urb.serviceNs_eq {urb urb' : Urb} (h : urb.static = urb'.static) (speed : Speed) :
    urb.serviceNs speed = urb'.serviceNs speed := by
  have hinterval : urb.interval = urb'.interval := congrArg Static.interval h
  unfold serviceNs
  rw [hinterval]

-- The pace is kept in every run that does not disable the endpoint, by induction on its steps.
theorem run_paced {ops : List Step} {log since : List Event} {hcd hcd' : Hcd}
    {events : List Event} {e : EpIndex} {address : UInt8} {speed : Speed} {interval : UInt64}
    (h : run hcd ops = some (hcd', events)) (hkept : Kept log hcd.books)
    (hpaced : Paced e address speed interval since hcd) (he : e ≠ 0)
    (hops : Step.disable e ∉ ops)
    (haccepted : ∀ id urb, Event.enqueued id urb ∈ log ++ events → urb.Accepted)
    (hinterval : ∀ id urb, Event.enqueued id urb ∈ log ++ events → urb.pipe = .isochronous →
      urb.address = address → urb.serviceNs speed = interval) :
    Paced e address speed interval (since ++ events) hcd' := by
  induction ops generalizing log since hcd events with
  | nil =>
      cases h
      rw [List.append_nil]
      exact hpaced
  | cons op ops ih =>
      obtain ⟨mid, first, rest, hstep, hrun, rfl⟩ := run_cons h
      rw [← List.append_assoc] at haccepted hinterval ⊢
      have hkept' : Kept (log ++ first) mid.books := by
        apply step_kept hstep hkept
        intro id urb henq
        exact haccepted id urb (List.mem_append_left _ henq)
      have hpaced' : Paced e address speed interval (since ++ first) mid := by
        apply step_paced hstep hpaced he
        · intro heq
          rw [heq] at hops
          exact hops List.mem_cons_self
        · intro urbp hmem hpipe haddress
          obtain ⟨urb, henq, hstatic⟩ := hkept.known urbp hmem
          rw [← Urb.serviceNs_eq hstatic]
          apply hinterval urbp.id urb
          · exact List.mem_append_left _ (List.mem_append_left _ henq)
          · exact (Urb.pipe_eq hstatic).trans hpipe
          · exact (congrArg Static.address hstatic).trans haddress
      exact ih hrun hkept' hpaced' (fun hmem => hops (List.mem_cons_of_mem _ hmem)) haccepted
        hinterval

theorem enabled_paced {hcd : Hcd} {e : EpIndex} {address : UInt8} (he : e ≠ 0)
    (hdown : (hcd.ep e).desc = none) (interval : UInt64) :
    Paced e address hcd.speed interval [] (dummyEnable e address hcd) := by
  have hnot : ¬(e = 0 ∨ (hcd.ep e).desc.isSome = true) := by
    rintro (hzero | hsome)
    · exact he hzero
    · rw [hdown] at hsome
      cases hsome
  unfold dummyEnable
  rw [if_neg hnot]
  constructor
  · rfl
  · simp [Hcd.setEp]
  · intro _
    simp [Hcd.setEp]
  · intro first rest htimes
    cases htimes

-- Between its enable and its disable an isochronous endpoint whose URBs have one service
-- interval serves no more than one packet for each interval that has passed since the first,
-- and one. Over the whole run the packets of an URB are served once and in order, and it goes
-- back without an error exactly when they all have been, but for the moment in between.
theorem iso_pacing_and_frames {initial before after : Hcd} {ops later : List Step}
    {log since : List Event} {e : EpIndex} {address : UInt8} {interval : UInt64}
    (hstarted : Started initial) (hbefore : run initial ops = some (before, log)) (he : e ≠ 0)
    (hdown : (before.ep e).desc = none)
    (hafter : run before (.enable e address :: later) = some (after, since))
    (henabled : Step.disable e ∉ later)
    (haccepted : ∀ id urb, Event.enqueued id urb ∈ log ++ since → urb.Accepted)
    (hinterval : ∀ id urb, Event.enqueued id urb ∈ log ++ since → urb.pipe = .isochronous →
      urb.address = address → urb.serviceNs before.speed = interval) :
    (∀ first rest, serviceTimes e since = first :: rest → ∀ t,
      ((first :: rest).filter fun u => decide (u ≤ t)).length ≤
        1 + (t - first) / interval.toNat) ∧
    ∀ id urb, Event.enqueued id urb ∈ log ++ since → urb.pipe = .isochronous →
      ∃ count ≤ urb.numberOfPackets, framesOf id (log ++ since) = List.range count ∧
        (Event.givenBack id 0 ∈ log ++ since → count = urb.numberOfPackets) ∧
        (count = urb.numberOfPackets →
          Event.givenBack id 0 ∈ log ++ since ∨ after.timer.serving = some id) := by
  have hkept : Kept ([] ++ log) before.books := by
    apply run_kept hbefore (started_kept hstarted)
    intro id urb henq
    exact haccepted id urb (List.mem_append_left _ henq)
  rw [List.nil_append] at hkept
  constructor
  · obtain ⟨mid, first, rest, hstep, hrun, rfl⟩ := run_cons hafter
    have hkept' := step_kept hstep hkept fun id urb henq =>
      haccepted id urb (List.mem_append.mpr
        ((List.mem_append.mp henq).imp_right (List.mem_append_left _)))
    cases hstep
    rw [List.append_nil] at hkept'
    have hpaced := run_paced hrun hkept' (enabled_paced he hdown interval) he henabled haccepted
      hinterval
    intro start times htimes t
    exact hpaced.served_le htimes t
  · intro id urb henq hpipe
    exact (run_kept hafter hkept haccepted).frames_served henq hpipe

-- An URB of two packets, the second of which comes after three intervals without the timer.
def tune : Urb where
  pipe := .isochronous
  address := 0x01
  interval := 8
  isoFrameDesc := List.replicate 2 { length := 4, actualLength := 0, status := 0 }
  hasBuffer := true
  actualLength := 0
  errorCount := 0
  unlinked := 0

-- The endpoint of the stream.
def streamEndpoint : EpIndex := ⟨1, Nat.one_lt_succ_succ _⟩

def playing : List Step :=
  [.enqueue tune,
    .queueRequest streamEndpoint { length := 4, actual := 0, hasBuffer := true, status := 0 },
    .fire, .visit 5000000, .gadgetReturned, .visit 5000000,
    .fire, .visit 8000000, .hostReturned, .visit 8000000]

def played : List Event :=
  [.enqueued 0 tune, .served streamEndpoint 0 0 5000000,
    .requestDone streamEndpoint { length := 4, actual := 4, hasBuffer := true, status := 0 },
    .served streamEndpoint 0 1 8000000, .givenBack 0 0]

def plugged : Hcd where
  speed := .high
  active := true
  intsEnabled := true
  rhState := .running
  udev := false
  ep := fun _ =>
    { isoNextNs := 0, queue := [], desc := none, halted := false, alreadySeen := false
      setupStage := false }
  urbpList := []
  nextFrameUrbp := none
  nextId := 0
  timer := .idle
  clock := 0

theorem plugged_plays :
    (run plugged (.enable 1 0x01 :: playing)).map Prod.snd = some played := by decide

theorem iso_pacing_and_frames_tune :
    (∀ t, ([5000000, 8000000].filter fun u => decide (u ≤ t)).length ≤
      1 + (t - 5000000) / 1000000) ∧
    ∃ count ≤ tune.numberOfPackets, framesOf 0 played = List.range count := by
  obtain ⟨⟨after, events⟩, hrun, rfl⟩ := Option.map_eq_some_iff.mp plugged_plays
  have htune : ∀ id urb, Event.enqueued id urb ∈ [] ++ played → urb = tune := by
    intro id urb henq
    simp only [played, List.nil_append, List.mem_cons, List.not_mem_nil, or_false,
      Event.enqueued.injEq, reduceCtorEq] at henq
    exact henq.2
  have hempty : run plugged [] = some (plugged, []) := rfl
  have hiso : (1 : EpIndex) ≠ 0 := by decide
  have hstays : Step.disable 1 ∉ playing := by decide
  have haccepted : ∀ id urb, Event.enqueued id urb ∈ [] ++ played → urb.Accepted := by
    intro id urb henq
    rw [htune id urb henq]
    exact fun _ => by decide
  have hinterval : ∀ id urb, Event.enqueued id urb ∈ [] ++ played → urb.pipe = .isochronous →
      urb.address = 0x01 → urb.serviceNs plugged.speed = 1000000 := by
    intro id urb henq _ _
    rw [htune id urb henq]
    decide
  have hclaim := iso_pacing_and_frames ⟨rfl, rfl, rfl⟩ hempty hiso rfl hrun hstays haccepted
    hinterval
  refine ⟨hclaim.1 5000000 [8000000] (by decide), ?_⟩
  obtain ⟨count, hle, hframes, -⟩ := hclaim.2 0 tune List.mem_cons_self rfl
  exact ⟨count, hle, hframes⟩

end LibVirtualGamepad.DummyHcd
