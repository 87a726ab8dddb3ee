import Mathlib.Data.List.Range
import LibVirtualGamepad.Linux.DummyHcd

-- The packets of an URB are served one after the other, and it goes back without an error
-- once all of them have been.
namespace LibVirtualGamepad.DummyHcd

-- What of an URB stays as the host submitted it.
structure Static where
  pipe : Pipe
  address : UInt8
  interval : Int32
  packets : Nat
  deriving DecidableEq

namespace Urb

def static (urb : Urb) : Static where
  pipe := urb.pipe
  address := urb.address
  interval := urb.interval
  packets := urb.numberOfPackets

-- The USB core submits an isochronous URB to an endpoint of its own, with a packet at least.
def Accepted (urb : Urb) : Prop :=
  urb.pipe = .isochronous → 1 ≤ urb.numberOfPackets ∧ urb.address &&& 0x7F ≠ 0

@[simp] theorem static_setFrame (frame actualLength : Nat) (status : Int) (urb : Urb) :
    (urb.setFrame frame actualLength status).static = urb.static := by
  simp [static, setFrame, numberOfPackets]

@[simp] theorem static_countError (frame : Nat) (urb : Urb) :
    (urb.countError frame).static = urb.static := by
  unfold countError
  split <;> rfl

theorem pipe_eq {urb urb' : Urb} (h : urb.static = urb'.static) : urb.pipe = urb'.pipe :=
  congrArg Static.pipe h

theorem Accepted.of_static {urb urb' : Urb} (h : urb.Accepted) (heq : urb.static = urb'.static) :
    urb'.Accepted := by
  intro hpipe
  obtain ⟨hpackets, haddress⟩ := h ((pipe_eq heq).trans hpipe)
  have haddr : urb.address = urb'.address := congrArg Static.address heq
  have hnum : urb.numberOfPackets = urb'.numberOfPackets := congrArg Static.packets heq
  rw [← haddr, ← hnum]
  exact ⟨hpackets, haddress⟩

theorem packets_eq {urb urb' : Urb} (h : urb.static = urb'.static) :
    urb.numberOfPackets = urb'.numberOfPackets :=
  congrArg Static.packets h

end Urb

def framesOf (id : UrbpId) (log : List Event) : List Nat :=
  log.filterMap fun event =>
    match event with
    | .served _ other frame _ => if other = id then some frame else none
    | _ => none

theorem framesOf_append (id : UrbpId) (log events : List Event) :
    framesOf id (log ++ events) = framesOf id log ++ framesOf id events :=
  List.filterMap_append

def Event.about : Event → Option UrbpId
  | .enqueued id _ => some id
  | .served _ id _ _ => some id
  | .requestDone _ _ => none
  | .givenBack id _ => some id

theorem framesOf_eq_nil {id : UrbpId} {log : List Event}
    (h : ∀ event ∈ log, event.about ≠ some id) : framesOf id log = [] := by
  apply List.filterMap_eq_nil_iff.mpr
  intro event hevent
  have hne := h event hevent
  cases event with
  | served e other frame now =>
      apply if_neg
      intro heq
      exact hne (congrArg some heq)
  | enqueued other urb => rfl
  | requestDone e req => rfl
  | givenBack other status => rfl

namespace Timer

-- The URB that is in the middle of a service.
def serving : Timer → Option UrbpId
  | .giving id _ _ _ _ => some id
  | .idle | .walking _ _ | .moving _ _ _ _ | .returning _ => none

def movingUrb : Timer → Option UrbpId
  | .moving id _ _ _ => some id
  | .idle | .walking _ _ | .giving _ _ _ _ _ | .returning _ => none

end Timer

-- What the bookkeeping of URBs is about.
structure Books where
  urbps : List Urbp
  nextId : UrbpId
  serving : Option UrbpId
  moving : Option UrbpId

def Hcd.books (hcd : Hcd) : Books where
  urbps := hcd.urbpList
  nextId := hcd.nextId
  serving := hcd.timer.serving
  moving := hcd.timer.movingUrb

-- The URB is gone, with the first packets served, and without an error when these are all.
def Finished (log : List Event) (id : UrbpId) (packets : Nat) : Prop :=
  ∃ count ≤ packets, framesOf id log = List.range count ∧
    (count = packets ↔ Event.givenBack id 0 ∈ log)

-- What happens to other URBs changes nothing of one.
theorem framesOf_others {id : UrbpId} {log events : List Event}
    (h : ∀ event ∈ events, event.about ≠ some id) :
    framesOf id (log ++ events) = framesOf id log := by
  rw [framesOf_append, framesOf_eq_nil h, List.append_nil]

theorem mem_others {id : UrbpId} {log events : List Event} {event : Event}
    (h : ∀ event ∈ events, event.about ≠ some id) (habout : event.about = some id) :
    event ∈ log ++ events ↔ event ∈ log := by
  rw [List.mem_append]
  constructor
  · rintro (hlog | hevent)
    · exact hlog
    · exact absurd habout (h event hevent)
  · exact Or.inl

theorem Finished.others {id : UrbpId} {log events : List Event} {packets : Nat}
    (h : Finished log id packets) (hothers : ∀ event ∈ events, event.about ≠ some id) :
    Finished (log ++ events) id packets := by
  obtain ⟨count, hle, hframes, hback⟩ := h
  refine ⟨count, hle, ?_, ?_⟩
  · rw [framesOf_others hothers, hframes]
  · rw [hback, mem_others hothers rfl]

structure Kept (log : List Event) (books : Books) : Prop where
  below : ∀ event ∈ log, ∀ id, event.about = some id → id < books.nextId
  known : ∀ urbp ∈ books.urbps, ∃ urb, Event.enqueued urbp.id urb ∈ log ∧
    urb.static = urbp.urb.static
  once : ∀ id urb urb', Event.enqueued id urb ∈ log → Event.enqueued id urb' ∈ log → urb = urb'
  frames : ∀ urbp ∈ books.urbps, urbp.urb.pipe = .isochronous →
    framesOf urbp.id log = List.range urbp.isoPacket ∧
      urbp.isoPacket ≤ urbp.urb.numberOfPackets ∧
      (urbp.isoPacket = urbp.urb.numberOfPackets → books.serving = some urbp.id)
  here : ∀ urbp ∈ books.urbps, ∀ status, Event.givenBack urbp.id status ∉ log
  gone : ∀ id urb, Event.enqueued id urb ∈ log → urb.pipe = .isochronous →
    (∃ urbp ∈ books.urbps, urbp.id = id) ∨ Finished log id urb.numberOfPackets
  moving : ∀ id, books.moving = some id → (∃ urbp ∈ books.urbps, urbp.id = id) ∧
    ∀ urbp ∈ books.urbps, urbp.id = id → urbp.urb.pipe ≠ .isochronous

def put (urbp : Urbp) (urbps : List Urbp) : List Urbp :=
  urbps.map fun other => if other.id = urbp.id then urbp else other

theorem mem_put {urbp other : Urbp} {urbps : List Urbp} (h : other ∈ put urbp urbps) :
    (other = urbp ∧ ∃ old ∈ urbps, old.id = urbp.id) ∨ (other ∈ urbps ∧ other.id ≠ urbp.id) := by
  obtain ⟨old, hold, heq⟩ := List.mem_map.mp h
  by_cases hid : old.id = urbp.id
  · rw [if_pos hid] at heq
    exact Or.inl ⟨heq.symm, old, hold, hid⟩
  · rw [if_neg hid] at heq
    subst heq
    exact Or.inr ⟨hold, hid⟩

theorem exists_mem_put {urbp : Urbp} {urbps : List Urbp} {id : UrbpId}
    (h : ∃ old ∈ urbps, old.id = id) : ∃ other ∈ put urbp urbps, other.id = id := by
  obtain ⟨old, hold, hid⟩ := h
  refine ⟨_, List.mem_map_of_mem hold, ?_⟩
  split
  next heq => rw [← heq, hid]
  next => exact hid

theorem mem_put_self {urbp old : Urbp} {urbps : List Urbp} (hold : old ∈ urbps)
    (hid : urbp.id = old.id) : urbp ∈ put urbp urbps :=
  List.mem_map.mpr ⟨old, hold, if_pos hid.symm⟩

theorem started_kept {hcd : Hcd} (h : Started hcd) : Kept [] hcd.books where
  below := by
    intro event hevent
    cases hevent
  known := by
    intro urbp hurbp
    rw [Hcd.books, h.empty] at hurbp
    cases hurbp
  once := by
    intro id urb urb' henq
    cases henq
  frames := by
    intro urbp hurbp
    rw [Hcd.books, h.empty] at hurbp
    cases hurbp
  here := by
    intro urbp hurbp
    rw [Hcd.books, h.empty] at hurbp
    cases hurbp
  gone := by
    intro id urb henq
    cases henq
  moving := by
    intro id hmoving
    rw [Hcd.books, h.idle] at hmoving
    cases hmoving

namespace Kept

variable {log : List Event} {books : Books}

theorem id_lt (h : Kept log books) {urbp : Urbp} (hurbp : urbp ∈ books.urbps) :
    urbp.id < books.nextId := by
  obtain ⟨urb, henq, -⟩ := h.known urbp hurbp
  exact h.below _ henq urbp.id rfl

-- A request that goes back to the gadget is about no URB.
theorem request (h : Kept log books) (e : EpIndex) (req : Request) :
    Kept (log ++ [.requestDone e req]) books := by
  have hothers : ∀ id, ∀ event ∈ [Event.requestDone e req], event.about ≠ some id := by
    intro id event hevent
    rw [List.mem_singleton.mp hevent]
    intro habout
    cases habout
  constructor
  · intro event hevent id habout
    exact h.below event ((mem_others (hothers id) habout).mp hevent) id habout
  · intro urbp hurbp
    obtain ⟨urb, henq, hstatic⟩ := h.known urbp hurbp
    exact ⟨urb, List.mem_append_left _ henq, hstatic⟩
  · intro id urb urb' henq henq'
    exact h.once id urb urb' ((mem_others (hothers id) rfl).mp henq)
      ((mem_others (hothers id) rfl).mp henq')
  · intro urbp hurbp hpipe
    rw [framesOf_others (hothers urbp.id)]
    exact h.frames urbp hurbp hpipe
  · intro urbp hurbp status hback
    exact h.here urbp hurbp status ((mem_others (hothers urbp.id) rfl).mp hback)
  · intro id urb henq hpipe
    rcases h.gone id urb ((mem_others (hothers id) rfl).mp henq) hpipe with hlisted | hfinished
    · exact Or.inl hlisted
    · exact Or.inr (hfinished.others (hothers id))
  · exact h.moving

-- An URB changes in what is not kept of it.
theorem touch (h : Kept log books) {old urbp : Urbp} (hold : old ∈ books.urbps)
    (hid : urbp.id = old.id) (hstatic : urbp.urb.static = old.urb.static)
    (hpacket : urbp.isoPacket = old.isoPacket) :
    Kept log { books with urbps := put urbp books.urbps } := by
  constructor
  · exact h.below
  · intro other hother
    rcases mem_put hother with ⟨rfl, -⟩ | ⟨hmem, -⟩
    · rw [hid, hstatic]
      exact h.known old hold
    · exact h.known other hmem
  · exact h.once
  · intro other hother hpipe
    rcases mem_put hother with ⟨rfl, -⟩ | ⟨hmem, -⟩
    · rw [hid, hpacket, Urb.packets_eq hstatic]
      exact h.frames old hold ((Urb.pipe_eq hstatic).symm.trans hpipe)
    · exact h.frames other hmem hpipe
  · intro other hother
    rcases mem_put hother with ⟨rfl, -⟩ | ⟨hmem, -⟩
    · rw [hid]
      exact h.here old hold
    · exact h.here other hmem
  · intro id urb henq hpipe
    rcases h.gone id urb henq hpipe with hlisted | hfinished
    · exact Or.inl (exists_mem_put hlisted)
    · exact Or.inr hfinished
  · intro id hmoving
    refine ⟨exists_mem_put (h.moving id hmoving).1, fun other hother hother_id => ?_⟩
    rcases mem_put hother with ⟨rfl, -⟩ | ⟨hmem, -⟩
    · rw [Urb.pipe_eq hstatic]
      exact (h.moving id hmoving).2 old hold (hid.symm.trans hother_id)
    · exact (h.moving id hmoving).2 other hmem hother_id

theorem enqueue (h : Kept log books) {urb linked : Urb} (haccepted : urb.Accepted)
    (hstatic : linked.static = urb.static) :
    Kept (log ++ [.enqueued books.nextId urb])
      { books with
        urbps := books.urbps ++ [{ id := books.nextId, urb := linked, isoPacket := 0 }]
        nextId := books.nextId + 1 } := by
  have hothers : ∀ id, id ≠ books.nextId →
      ∀ event ∈ [Event.enqueued books.nextId urb], event.about ≠ some id := by
    intro id hne event hevent
    rw [List.mem_singleton.mp hevent]
    intro habout
    exact hne (Option.some.inj habout).symm
  have hnew : ∀ event ∈ log, event.about ≠ some books.nextId := by
    intro event hevent habout
    exact Nat.lt_irrefl _ (h.below event hevent _ habout)
  constructor
  · intro event hevent id habout
    rcases List.mem_append.mp hevent with hlog | hlast
    · exact Nat.lt_succ_of_lt (h.below event hlog id habout)
    · rw [List.mem_singleton.mp hlast] at habout
      rw [← Option.some.inj habout]
      exact Nat.lt_succ_self _
  · intro urbp hurbp
    rcases List.mem_append.mp hurbp with hmem | hlast
    · obtain ⟨urb', henq, hstatic'⟩ := h.known urbp hmem
      exact ⟨urb', List.mem_append_left _ henq, hstatic'⟩
    · rw [List.mem_singleton.mp hlast]
      exact ⟨urb, List.mem_append_right _ List.mem_cons_self, hstatic.symm⟩
  · intro id urb1 urb2 henq1 henq2
    by_cases hid : id = books.nextId
    · subst hid
      have hlast : ∀ urb', Event.enqueued books.nextId urb' ∈
          log ++ [Event.enqueued books.nextId urb] → urb' = urb := by
        intro urb' henq
        rcases List.mem_append.mp henq with hlog | hlast
        · exact absurd rfl (hnew _ hlog)
        · have heq := List.mem_singleton.mp hlast
          injection heq
      rw [hlast urb1 henq1, hlast urb2 henq2]
    · exact h.once id urb1 urb2 ((mem_others (hothers id hid) rfl).mp henq1)
        ((mem_others (hothers id hid) rfl).mp henq2)
  · intro urbp hurbp hpipe
    rcases List.mem_append.mp hurbp with hmem | hlast
    · have hne : urbp.id ≠ books.nextId := Nat.ne_of_lt (h.id_lt hmem)
      rw [framesOf_others (hothers urbp.id hne)]
      exact h.frames urbp hmem hpipe
    · rw [List.mem_singleton.mp hlast] at hpipe ⊢
      have hpackets := (haccepted ((Urb.pipe_eq hstatic).symm.trans hpipe)).1
      rw [← Urb.packets_eq hstatic] at hpackets
      refine ⟨?_, Nat.zero_le _, fun hzero => ?_⟩
      · rw [framesOf_append, framesOf_eq_nil hnew]
        rfl
      · exact absurd hpackets (by rw [← hzero]; exact Nat.not_succ_le_zero 0)
  · intro urbp hurbp status hback
    rcases List.mem_append.mp hback with hlog | hlast
    · rcases List.mem_append.mp hurbp with hmem | hlast
      · exact h.here urbp hmem status hlog
      · rw [List.mem_singleton.mp hlast] at hlog
        exact hnew _ hlog rfl
    · exact absurd (List.mem_singleton.mp hlast) Event.noConfusion
  · intro id urb' henq hpipe
    by_cases hid : id = books.nextId
    · exact Or.inl ⟨_, List.mem_append_right _ List.mem_cons_self, hid.symm⟩
    · rcases h.gone id urb' ((mem_others (hothers id hid) rfl).mp henq) hpipe with
        ⟨urbp, hmem, heq⟩ | hfinished
      · exact Or.inl ⟨urbp, List.mem_append_left _ hmem, heq⟩
      · exact Or.inr (hfinished.others (hothers id hid))
  · intro id hmoving
    obtain ⟨⟨old, hold, rfl⟩, hpipe⟩ := h.moving id hmoving
    refine ⟨⟨old, List.mem_append_left _ hold, rfl⟩, fun urbp hurbp hid => ?_⟩
    rcases List.mem_append.mp hurbp with hmem | hlast
    · exact hpipe urbp hmem hid
    · rw [List.mem_singleton.mp hlast] at hid
      exact absurd hid (Nat.ne_of_gt (h.id_lt hold))

theorem finish (h : Kept log books)
    (hmore : ∀ urbp ∈ books.urbps, books.serving = some urbp.id →
      urbp.isoPacket ≠ urbp.urb.numberOfPackets) :
    Kept log { books with serving := none } where
  below := h.below
  known := h.known
  once := h.once
  frames := by
    intro urbp hurbp hpipe
    obtain ⟨hframes, hle, hlast⟩ := h.frames urbp hurbp hpipe
    exact ⟨hframes, hle, fun heq => absurd heq (hmore urbp hurbp (hlast heq))⟩
  here := h.here
  gone := h.gone
  moving := h.moving

theorem static_eq (h : Kept log books) {urbp urbp' : Urbp} (hmem : urbp ∈ books.urbps)
    (hmem' : urbp' ∈ books.urbps) (hid : urbp.id = urbp'.id) :
    urbp.urb.static = urbp'.urb.static := by
  obtain ⟨urb, henq, hstatic⟩ := h.known urbp hmem
  obtain ⟨urb', henq', hstatic'⟩ := h.known urbp' hmem'
  rw [hid] at henq
  rw [← hstatic, ← hstatic', h.once _ urb urb' henq henq']

theorem move (h : Kept log books) {urbp : Urbp} (hmem : urbp ∈ books.urbps)
    (hpipe : urbp.urb.pipe ≠ .isochronous) :
    Kept log { books with moving := some urbp.id } where
  below := h.below
  known := h.known
  once := h.once
  frames := h.frames
  here := h.here
  gone := h.gone
  moving := by
    intro id hsome
    cases hsome
    refine ⟨⟨urbp, hmem, rfl⟩, fun other hother hid => ?_⟩
    rw [Urb.pipe_eq (h.static_eq hother hmem hid)]
    exact hpipe

theorem moved (h : Kept log books) : Kept log { books with moving := none } where
  below := h.below
  known := h.known
  once := h.once
  frames := h.frames
  here := h.here
  gone := h.gone
  moving := by
    intro id hsome
    cases hsome

-- The next packet of an URB.
theorem serve (h : Kept log books) {old : Urbp} (urbp : Urbp) (hold : old ∈ books.urbps)
    (hid : urbp.id = old.id) (hstatic : urbp.urb.static = old.urb.static)
    (hpacket : urbp.isoPacket = old.isoPacket + 1) (hpipe : old.urb.pipe = .isochronous)
    (hserving : books.serving = none) (hmoving : books.moving = none) (e : EpIndex) (now : UInt64) :
    Kept (log ++ [.served e old.id old.isoPacket now])
      { books with urbps := put urbp books.urbps, serving := some old.id } := by
  have hothers : ∀ id, id ≠ old.id →
      ∀ event ∈ [Event.served e old.id old.isoPacket now], event.about ≠ some id := by
    intro id hne event hevent
    rw [List.mem_singleton.mp hevent]
    intro habout
    exact hne (Option.some.inj habout).symm
  have hlog : ∀ {event : Event}, (∀ id frame, event ≠ .served e id frame now) →
      event ∈ log ++ [Event.served e old.id old.isoPacket now] → event ∈ log := by
    intro event hne hevent
    rcases List.mem_append.mp hevent with hlog | hlast
    · exact hlog
    · exact absurd (List.mem_singleton.mp hlast) (hne _ _)
  have henqueued : ∀ {id : UrbpId} {urb : Urb},
      Event.enqueued id urb ∈ log ++ [Event.served e old.id old.isoPacket now] →
        Event.enqueued id urb ∈ log :=
    fun henq => hlog (fun _ _ => Event.noConfusion) henq
  obtain ⟨hframes, hle, hlast⟩ := h.frames old hold hpipe
  have hmore : old.isoPacket ≠ old.urb.numberOfPackets := by
    intro heq
    have hsome := hlast heq
    rw [hserving] at hsome
    cases hsome
  constructor
  · intro event hevent id habout
    rcases List.mem_append.mp hevent with hold' | hnew
    · exact h.below event hold' id habout
    · rw [List.mem_singleton.mp hnew] at habout
      rw [← Option.some.inj habout]
      exact h.id_lt hold
  · intro other hother
    have hknown : ∃ urb, Event.enqueued other.id urb ∈ log ∧ urb.static = other.urb.static := by
      rcases mem_put hother with ⟨rfl, -⟩ | ⟨hmem, -⟩
      · rw [hid, hstatic]
        exact h.known old hold
      · exact h.known other hmem
    obtain ⟨urb, henq, heq⟩ := hknown
    exact ⟨urb, List.mem_append_left _ henq, heq⟩
  · intro id urb urb' henq henq'
    exact h.once id urb urb' (henqueued henq) (henqueued henq')
  · intro other hother hpipe'
    rcases mem_put hother with ⟨rfl, -⟩ | ⟨hmem, hne⟩
    · rw [hid, hpacket, Urb.packets_eq hstatic]
      refine ⟨?_, by omega, fun _ => rfl⟩
      rw [framesOf_append, hframes, List.range_succ]
      congr 1
      exact List.filterMap_cons_some (if_pos rfl)
    · rw [hid] at hne
      obtain ⟨hframes', hle', hlast'⟩ := h.frames other hmem hpipe'
      rw [framesOf_others (hothers other.id hne)]
      refine ⟨hframes', hle', fun heq => ?_⟩
      have hsome := hlast' heq
      rw [hserving] at hsome
      cases hsome
  · intro other hother status hback
    have hback' := hlog (fun _ _ => Event.noConfusion) hback
    rcases mem_put hother with ⟨rfl, -⟩ | ⟨hmem, -⟩
    · rw [hid] at hback'
      exact h.here old hold status hback'
    · exact h.here other hmem status hback'
  · intro id urb henq hpipe'
    rcases h.gone id urb (henqueued henq) hpipe' with hlisted | hfinished
    · exact Or.inl (exists_mem_put hlisted)
    · by_cases heq : id = old.id
      · exact Or.inl (exists_mem_put ⟨old, hold, heq.symm⟩)
      · exact Or.inr (hfinished.others (hothers id heq))
  · intro id hsome
    rw [hmoving] at hsome
    cases hsome

-- An URB that leaves the list has had all its packets exactly when it leaves without an error.
theorem giveBack (h : Kept log books) {id : UrbpId} {status : Int}
    (hlisted : ∃ urbp ∈ books.urbps, urbp.id = id)
    (hserving : ∀ other, books.serving = some other → other = id)
    (hstatus : ∀ urbp ∈ books.urbps, urbp.id = id → urbp.urb.pipe = .isochronous →
      (urbp.isoPacket = urbp.urb.numberOfPackets ↔ status = 0)) :
    Kept (log ++ [.givenBack id status])
      { books with
        urbps := books.urbps.filter fun urbp => urbp.id ≠ id
        serving := none
        moving := none } := by
  obtain ⟨old, hold, rfl⟩ := hlisted
  have hothers : ∀ id, id ≠ old.id →
      ∀ event ∈ [Event.givenBack old.id status], event.about ≠ some id := by
    intro id hne event hevent
    rw [List.mem_singleton.mp hevent]
    intro habout
    exact hne (Option.some.inj habout).symm
  have henqueued : ∀ {id : UrbpId} {urb : Urb},
      Event.enqueued id urb ∈ log ++ [Event.givenBack old.id status] →
        Event.enqueued id urb ∈ log := by
    intro id urb henq
    rcases List.mem_append.mp henq with hlog | hlast
    · exact hlog
    · exact absurd (List.mem_singleton.mp hlast) Event.noConfusion
  have hkept : ∀ {urbp : Urbp}, urbp ∈ books.urbps.filter (fun urbp => urbp.id ≠ old.id) →
      urbp ∈ books.urbps ∧ urbp.id ≠ old.id := by
    intro urbp hurbp
    obtain ⟨hmem, hne⟩ := List.mem_filter.mp hurbp
    exact ⟨hmem, of_decide_eq_true hne⟩
  constructor
  · intro event hevent id habout
    rcases List.mem_append.mp hevent with hlog | hlast
    · exact h.below event hlog id habout
    · rw [List.mem_singleton.mp hlast] at habout
      rw [← Option.some.inj habout]
      exact h.id_lt hold
  · intro urbp hurbp
    obtain ⟨urb, henq, heq⟩ := h.known urbp (hkept hurbp).1
    exact ⟨urb, List.mem_append_left _ henq, heq⟩
  · intro id urb urb' henq henq'
    exact h.once id urb urb' (henqueued henq) (henqueued henq')
  · intro urbp hurbp hpipe
    obtain ⟨hmem, hne⟩ := hkept hurbp
    obtain ⟨hframes, hle, hlast⟩ := h.frames urbp hmem hpipe
    rw [framesOf_others (hothers urbp.id hne)]
    exact ⟨hframes, hle, fun heq => absurd (hserving _ (hlast heq)) hne⟩
  · intro urbp hurbp status' hback
    obtain ⟨hmem, hne⟩ := hkept hurbp
    exact h.here urbp hmem status' ((mem_others (hothers urbp.id hne) rfl).mp hback)
  · intro id urb henq hpipe
    by_cases heq : id = old.id
    · subst heq
      obtain ⟨urb', henq', hstatic⟩ := h.known old hold
      have hsame := h.once old.id urb urb' (henqueued henq) henq'
      subst hsame
      have hpipe' : old.urb.pipe = .isochronous := (Urb.pipe_eq hstatic).symm.trans hpipe
      obtain ⟨hframes, hle, -⟩ := h.frames old hold hpipe'
      refine Or.inr ⟨old.isoPacket, ?_, ?_, ?_⟩
      · rw [Urb.packets_eq hstatic]
        exact hle
      · rw [framesOf_append, hframes]
        exact List.append_nil _
      · rw [Urb.packets_eq hstatic, hstatus old hold rfl hpipe']
        constructor
        · intro hzero
          rw [hzero]
          exact List.mem_append_right _ List.mem_cons_self
        · intro hback
          rcases List.mem_append.mp hback with hlog | hlast
          · exact absurd hlog (h.here old hold 0)
          · injection List.mem_singleton.mp hlast with _ hzero
            exact hzero.symm
    · rcases h.gone id urb (henqueued henq) hpipe with ⟨urbp, hmem, hid⟩ | hfinished
      · refine Or.inl ⟨urbp, List.mem_filter.mpr ⟨hmem, ?_⟩, hid⟩
        rw [decide_eq_true_eq, hid]
        exact heq
      · exact Or.inr (hfinished.others (hothers id heq))
  · intro id hsome
    cases hsome

end Kept

end LibVirtualGamepad.DummyHcd
