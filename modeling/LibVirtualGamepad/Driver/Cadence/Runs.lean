import LibVirtualGamepad.Driver.Cadence.Programs

-- In every run the timer is set while the worker listens for it, the worker is parked
-- only while nobody reads, and each setting is in time for every slot.
namespace LibVirtualGamepad

open Interleaving

-- The worker is in its loop and has no tick in front of it.
def Listening (w : World) : Prop :=
  Waiting w.threads fun k a => k = .keepaliveWorker ∧ a = .keepalive .wait

-- What a worker that has not ended still has before it.
def Act.loops : Act → Bool
  | .keepalive .wait | .keepalive .tick | .keepalive .workerExit => true
  | _ => false

-- A worker that is being started, before it is published, or a power transition that is
-- announced and has not taken over.
def Act.transition : Act → Bool
  | .keepalive .publishStart => true
  | a => a.takesOver

def Transition (w : World) : Prop := Waiting w.threads fun _ a => a.transition = true

theorem transition_of_takesOver {a : Act} (h : a.takesOver = true) : a.transition = true := by
  cases a with
  | power act => exact h
  | _ => cases h

theorem transition_cases {a : Act} (h : a.transition = true) :
    a = .keepalive .publishStart ∨ a.takesOver = true := by
  cases a with
  | keepalive act =>
    cases act with
    | publishStart => exact .inl rfl
    | _ => cases h
  | power act => exact .inr h
  | _ => cases h

section Worker

variable {w w' : World} {i : Nat} {choice : Choice}

-- The mode in which a thread is that has this act before it.
theorem Attended.mode {holder : Option (Nat × Watch)} (h : LockedBy Act.watch Watched w holder)
    {j : Nat} {t : Task} {a : Act} {rest : List Act} (ht : w.threads[j]? = some t)
    (htodo : t.todo = a :: rest) : ∃ m₁, a.watch t.kind (modeOf holder j) m₁ := by
  have hchain := h.chains j t ht
  rw [htodo] at hchain
  obtain ⟨m₁, hspec, -⟩ := hchain
  exact ⟨m₁, hspec⟩

theorem not_listening {m : Option Watch} (h : Watched m w) (hnone : w.shared.keepalive.thread = none) :
    ¬Listening w := by
  rintro ⟨t, ht, a, ha, hkind, -⟩
  rw [h.ended hnone ht hkind] at ha
  cases ha

-- While a worker is about to be created nobody takes the timer's signal or cancels it.
theorem Attended.creating (h : Attended w) {j : Nat} {t : Task} {rest : List Act}
    (ht : w.threads[j]? = some t) (htodo : t.todo = .keepalive .createWorker :: rest) {i : Nat}
    {u : Task} {a : Act} {rest' : List Act} (hu : w.threads[i]? = some u)
    (hutodo : u.todo = a :: rest') : a ≠ .keepalive .cancel ∧ a ≠ .keepalive .wait := by
  obtain ⟨holder, h⟩ := h
  obtain ⟨-, hpublished, -⟩ := Attended.mode h ht htodo
  have hholder := holder_of_modeOf hpublished
  have hnone : w.shared.keepalive.thread = none :=
    (h.shared.published (by rw [hholder]; rfl)).1
  have hworker (hkind : u.kind = .keepaliveWorker) : False := by
    rw [h.shared.ended hnone (List.mem_of_getElem? hu) hkind] at hutodo
    cases hutodo
  -- Nobody but the creator holds the gate.
  have hother {m : Watch} (hmode : modeOf holder i = some m) : a = .keepalive .createWorker := by
    have hagain := holder_of_modeOf hmode
    rw [hholder] at hagain
    obtain ⟨rfl, -⟩ := Prod.mk.inj (Option.some.inj hagain)
    obtain rfl : t = u := Option.some.inj (ht.symm.trans hu)
    rw [htodo] at hutodo
    exact (List.cons_eq_cons.mp hutodo).1.symm
  obtain ⟨m₁, hspec⟩ := Attended.mode h hu hutodo
  constructor
  · rintro rfl
    obtain ⟨-, ⟨hkind, -⟩ | hmode | hmode⟩ := hspec
    · exact hworker hkind
    · cases hother hmode
    · cases hother hmode
  · rintro rfl
    exact hworker hspec.1

-- Behind the worker's own acts nobody listens but itself.
theorem Attended.alone (h : Attended w) (s : System.ActStep driver w i choice w')
    (hk : s.thread.kind = .keepaliveWorker) (hspawn : s.outcome.spawn = [])
    (hgone : .keepalive .wait ∉ s.outcome.next ++ s.rest) : ¬Listening w' := by
  obtain ⟨holder, h⟩ := h
  rintro ⟨t, ht, a, ha, hkind, rfl⟩
  obtain ⟨j, hj⟩ := List.mem_iff_getElem?.mp ht
  obtain ⟨-, rfl⟩ | ⟨hne, hold⟩ | ⟨-, hnew⟩ := s.cases_after j t hj
  · exact hgone ha
  · have hthis := h.shared.one j t hold hkind (List.ne_nil_of_mem ha)
    have hown := h.shared.one i s.thread s.at_index hk (by rw [s.todo]; simp)
    rw [hthis] at hown
    exact hne (Option.some.inj hown)
  · rw [hspawn] at hnew
    cases hnew

theorem Attended.rest (h : Attended w) (s : System.ActStep driver w i choice w')
    (hk : s.thread.kind = .keepaliveWorker) : Working (s.act :: s.rest) := by
  obtain ⟨holder, h⟩ := h
  rw [← s.todo]
  exact h.shared.shaped s.thread s.mem hk

-- Whoever takes the timer's signal, or cancels it, leaves nobody who listens.
theorem Attended.unset (h : Attended w) (s : System.ActStep driver w i choice w')
    (hact : s.act = .keepalive .cancel ∨ s.act = .keepalive .wait) : ¬Listening w' := by
  have hexec : s.act.exec w.threads w.shared s.thread.kind s.thread.regs choice = some s.outcome :=
    s.exec
  have hspawn : s.outcome.spawn = [] := by
    refine spawn_nil (k := s.thread.kind) ?_ s.exec
    obtain hact | hact := hact <;> simp [hact]
  have hnext : .keepalive .wait ∉ s.outcome.next := fun hmem => by
    cases works_next hexec hmem rfl with
    | starts _ _ act _ _ => obtain hact | hact := hact <;> rw [hact] at act <;> cases act
    | creates act _ _ => obtain hact | hact := hact <;> rw [hact] at act <;> cases act
    | ticks _ next => cases next
    | waits act _ => obtain hact | hact := hact <;> rw [hact] at act <;> cases act
  by_cases hk : s.thread.kind = .keepaliveWorker
  · refine h.alone s hk hspawn fun hmem => (List.mem_append.mp hmem).elim hnext fun hrest => ?_
    have hworking := h.rest s hk
    generalize htodo : s.act :: s.rest = todo at hworking
    cases hworking with
    | done => cases htodo
    | submitting a rest hsubmits _ =>
      obtain ⟨rfl, -⟩ := List.cons_eq_cons.mp htodo
      obtain hact | hact := hact <;> rw [hact] at hsubmits <;> cases hsubmits
    | ticking =>
      obtain ⟨htick, -⟩ := List.cons_eq_cons.mp htodo
      rw [htick] at hact
      obtain hact | hact := hact <;> cases hact
    | waiting | leaving =>
      obtain ⟨-, hnil⟩ := List.cons_eq_cons.mp htodo
      rw [hnil] at hrest
      cases hrest
    | cancelling =>
      obtain ⟨-, hnil⟩ := List.cons_eq_cons.mp htodo
      rw [hnil] at hrest
      simp at hrest
  · obtain ⟨holder, h⟩ := h
    obtain ⟨m₁, hspec⟩ := Attended.mode h s.at_index s.todo
    have hnone : w.shared.keepalive.thread = none := by
      have hwatched := h.shared
      obtain hact | hact := hact <;> rw [hact] at hspec
      · obtain ⟨-, ⟨hkind, -⟩ | hjoined | hpublished⟩ := hspec
        · exact absurd hkind hk
        · refine hwatched.joined ?_
          rw [holder_of_modeOf hjoined]
          rfl
        · refine (hwatched.published ?_).1
          rw [holder_of_modeOf hpublished]
          rfl
      · exact absurd hspec.1 hk
    intro hafter
    obtain hbefore | ⟨a, ha, -, rfl⟩ | ⟨t, ht, -⟩ := s.waiting_after _ hafter
    · exact not_listening h.shared hnone hbefore
    · exact hnext ha
    · rw [hspawn] at ht
      cases ht

-- The input that starts a worker, and its publication, find none in its loop.
theorem Attended.idle (h : Attended w) (s : System.ActStep driver w i choice w')
    (hact : s.act = .keepalive .publishStart ∨ ∃ id step, s.act = .slot id step ∧
      (step.run (w.shared.sectionOf id choice.now) (w.shared.controllers id).data).startKeepalive =
        true) : ¬Listening w := by
  obtain ⟨holder, h⟩ := h
  obtain ⟨m₁, hspec⟩ := Attended.mode h s.at_index s.todo
  obtain hact | ⟨id, step, hact, hstart⟩ := hact <;> rw [hact] at hspec
  · refine not_listening h.shared (h.shared.joined ?_)
    rw [holder_of_modeOf hspec.1]
    rfl
  · obtain ⟨hinput, hwants⟩ := wants_of_start hstart
    rintro ⟨t, ht, a, ha, hkind, rfl⟩
    have hmode := hspec.2 hinput
    have hrunning := h.shared.quiet (.inr (by rw [holder_of_modeOf hmode]; rfl)) t ht hkind (.inl ha)
    simp only [Section.wantsKeepalive, Bool.and_eq_true, Bool.not_eq_true'] at hwants
    have hstopped : w.shared.keepalive.running = false := hwants.2
    rw [hrunning] at hstopped
    cases hstopped

end Worker

-- What makes the two promises inductive: there is a timer for whoever runs, a slot that
-- is being created has had no input, and a device that is out of D0 has no slot in use or
-- is about to take them.
structure Timed (w : World) : Prop where
  inSequence : ∀ t ∈ w.threads, InSequence t.todo
  alive : ∀ t ∈ w.threads, t.kind = .keepaliveWorker →
    t.todo = [] ∨ ∃ a ∈ t.todo, a.loops = true
  timer : w.shared.keepalive.running = true ∨
    (∃ t ∈ w.threads, .keepalive .publishStart ∈ t.todo) → w.shared.keepalive.timer = true
  created : ∀ (j : Nat) (t : Task) (rest : List Act), w.threads[j]? = some t →
    t.todo = .keepalive .createWorker :: rest → w.shared.timerSet
  unused : ∀ id, (w.shared.controllers id).control.state = .starting →
    (w.shared.controllers id).data.haveLastInput = false
  powered : w.shared.powered = false → Waiting w.threads (fun _ a => a.takesOver = true) ∨
    ∀ id, (w.shared.controllers id).control.state ≠ .active
  armed : w.shared.keepalive.running = true → w.shared.keepalive.parked = false → Listening w →
    w.shared.timerSet
  parked : w.shared.keepalive.running = true → w.shared.keepalive.parked = true →
    Transition w ∨ ∀ id, (w.shared.controllers id).reads = false

section Steps

variable {w w' : World} {i : Nat} {choice : Choice}

namespace Timed

theorem inSequence_act (h : Timed w) (s : System.ActStep driver w i choice w') :
    ∀ t ∈ w'.threads, InSequence t.todo := by
  intro t ht
  obtain rfl | hold | hnew := s.mem_after t ht
  · have hthis := h.inSequence s.thread s.mem
    rw [s.todo] at hthis
    exact inSequence_next (k := s.thread.kind) s.exec hthis
  · exact h.inSequence t hold
  · rw [spawn_worker (k := s.thread.kind) s.exec t hnew]
    exact inSequence_of_plain (by simp [Act.announces])

theorem alive_act (h : Timed w) (hattended : Attended w)
    (s : System.ActStep driver w i choice w') :
    ∀ t ∈ w'.threads, t.kind = .keepaliveWorker →
      t.todo = [] ∨ ∃ a ∈ t.todo, a.loops = true := by
  have hexec : s.act.exec w.threads w.shared s.thread.kind s.thread.regs choice = some s.outcome :=
    s.exec
  intro t ht hkind
  obtain rfl | hold | hnew := s.mem_after t ht
  · have hnext {a : Act} (ha : a ∈ s.outcome.next) (hloops : a.loops = true) :
        ∃ a ∈ s.outcome.next ++ s.rest, a.loops = true :=
      ⟨a, List.mem_append_left _ ha, hloops⟩
    have hbefore := h.alive s.thread s.mem hkind
    rw [s.todo] at hbefore
    obtain ⟨a, ha, hloops⟩ := hbefore.resolve_left (List.cons_ne_nil _ _)
    obtain rfl | hrest := List.mem_cons.mp ha
    · have hworking := hattended.rest s hkind
      generalize hact : s.act = act at hexec hloops hworking
      cases act with
      | keepalive act =>
        cases act with
        | wait =>
          simp only [Act.exec, KeepaliveAct.exec] at hexec
          repeat' split at hexec
          · exact .inr (hnext (a := .keepalive .workerExit)
              (by rw [← Option.some.inj hexec]; simp [Device.effect]) rfl)
          · exact .inr (hnext (a := .keepalive .tick)
              (by rw [← Option.some.inj hexec]; simp [Device.effect]) rfl)
          · cases hexec
        | tick =>
          have hlast : (if w.shared.anyActive choice.now then [Act.keepalive .wait]
              else [.keepalive .cancel, .keepalive .workerExit]) ⊆ s.outcome.next := by
            rw [← Option.some.inj hexec]
            exact List.subset_append_right _ _
          cases hactive : w.shared.anyActive choice.now with
          | true =>
            rw [hactive, if_pos rfl] at hlast
            exact .inr (hnext (hlast (List.mem_singleton_self _)) rfl)
          | false =>
            rw [hactive, if_neg Bool.false_ne_true] at hlast
            exact .inr (hnext (hlast (List.mem_cons_of_mem _ (List.mem_singleton_self _))) rfl)
        | workerExit =>
          left
          have hleft : s.rest = [] := by
            generalize htodo : Act.keepalive .workerExit :: s.rest = todo at hworking
            cases hworking with
            | done => cases htodo
            | submitting a rest hsubmits _ =>
              obtain ⟨rfl, -⟩ := List.cons_eq_cons.mp htodo
              cases hsubmits
            | waiting | ticking | cancelling => cases (List.cons_eq_cons.mp htodo).1
            | leaving => exact (List.cons_eq_cons.mp htodo).2
          show s.outcome.next ++ s.rest = []
          rw [← Option.some.inj hexec, hleft]
          rfl
        | _ => cases hloops
      | _ => cases hloops
    · exact .inr ⟨a, List.mem_append_right _ hrest, hloops⟩
  · exact h.alive t hold hkind
  · rw [spawn_worker hexec t hnew]
    exact .inr ⟨.keepalive .wait, List.mem_singleton_self _, rfl⟩

theorem timer_act (h : Timed w) (s : System.ActStep driver w i choice w')
    (hneeds : w'.shared.keepalive.running = true ∨
      ∃ t ∈ w'.threads, .keepalive .publishStart ∈ t.todo) :
    w'.shared.keepalive.timer = true := by
  have hexec : s.act.exec w.threads w.shared s.thread.kind s.thread.regs choice = some s.outcome :=
    s.exec
  rw [s.shared_after] at hneeds ⊢
  rw [timer_after hexec]
  obtain hrunning | ⟨t, ht, hstart⟩ := hneeds
  · obtain hrunning | hpublish | ⟨htimer, -⟩ := running_after hexec hrunning
    · exact h.timer (.inl hrunning)
    · refine h.timer (.inr ⟨s.thread, s.mem, ?_⟩)
      rw [s.todo, hpublish]
      exact List.mem_cons_self
    · exact htimer
  · obtain hnext | hold | ⟨u, hu, hmem⟩ := s.todo_after ht hstart
    · cases works_next hexec hnext rfl with
      | starts id step act start _ =>
        have hwants := (wants_of_start start).2
        simp only [Section.wantsKeepalive, Bool.and_eq_true] at hwants
        exact hwants.1
      | creates _ next _ =>
        rw [next, List.mem_singleton] at hnext
        cases hnext
      | ticks _ next | waits _ next => cases next
    · exact h.timer (.inr hold)
    · rw [spawn_worker hexec u hu] at hmem
      simp at hmem

theorem created_act (h : Timed w) (hattended : Attended w)
    (s : System.ActStep driver w i choice w') {j : Nat} {t : Task} {rest : List Act}
    (ht : w'.threads[j]? = some t) (htodo : t.todo = .keepalive .createWorker :: rest) :
    w'.shared.timerSet := by
  have hexec : s.act.exec w.threads w.shared s.thread.kind s.thread.regs choice = some s.outcome :=
    s.exec
  rw [s.shared_after]
  obtain ⟨-, -, -, hrest⟩ | ⟨-, -, hhead⟩ | ⟨-, hold⟩ | hnew := s.head_after ht htodo
  · have hsequence := h.inSequence s.thread s.mem
    rw [s.todo, hrest] at hsequence
    exact absurd rfl (hsequence.tail _ List.mem_cons_self).2
  · have hnext : Act.keepalive .createWorker ∈ s.outcome.next := List.mem_of_mem_head? hhead
    cases works_next hexec hnext rfl with
    | starts _ _ _ _ next => cases next
    | creates _ _ set => exact set
    | ticks _ next | waits _ next => cases next
  · obtain ⟨hcancel, hwait⟩ := hattended.creating hold htodo s.at_index s.todo
    exact timerSet_after hcancel hwait hexec (h.created j t rest hold htodo)
  · rw [spawn_worker hexec t hnew] at htodo
    cases htodo

theorem powered_act (h : Timed w) (hshown : w.shared.Shown)
    (s : System.ActStep driver w i choice w') (hpowered : w'.shared.powered = false) :
    Waiting w'.threads (fun _ a => a.takesOver = true) ∨
      ∀ id, (w'.shared.controllers id).control.state ≠ .active := by
  have hexec : s.act.exec w.threads w.shared s.thread.kind s.thread.regs choice = some s.outcome :=
    s.exec
  rw [s.shared_after] at hpowered ⊢
  cases hannounces : s.act.announces with
  | true =>
    -- The thread goes on to take the slots over.
    have hsequence := h.inSequence s.thread s.mem
    rw [s.todo] at hsequence
    obtain ⟨b, hb, hover⟩ := hsequence.head _ _ rfl hannounces
    have hafter := List.mem_of_getElem? s.at_index_after
    exact .inl ⟨_, hafter, b, List.mem_append_right _ hb, hover⟩
  | false =>
    have hbefore := powered_before hannounces hexec hpowered
    obtain hwaiting | hidle := h.powered hbefore
    · obtain ⟨-, hover⟩ | hwaiting := s.waiting_before hwaiting
      · exact .inr fun id => inactive_after_mark hshown hover hexec id
      · exact .inl hwaiting
    · refine .inr fun id hactive => ?_
      obtain hactive | ⟨owner, profile, handle, -, hadopts⟩ := active_after hexec hactive
      · exact hidle id hactive
      · simp only [Device.adopts, hbefore, Bool.and_false, Bool.false_and,
          Bool.false_eq_true] at hadopts

theorem armed_act (h : Timed w) (hattended : Attended w) (s : System.ActStep driver w i choice w')
    (hrunning : w'.shared.keepalive.running = true) (hparked : w'.shared.keepalive.parked = false)
    (hlisten : Listening w') : w'.shared.timerSet := by
  have hexec : s.act.exec w.threads w.shared s.thread.kind s.thread.regs choice = some s.outcome :=
    s.exec
  by_cases hunset : s.act = .keepalive .cancel ∨ s.act = .keepalive .wait
  · exact absurd hlisten (hattended.unset s hunset)
  rw [not_or] at hunset
  have hset (hbefore : w.shared.timerSet) : w'.shared.timerSet := by
    rw [s.shared_after]
    exact timerSet_after hunset.1 hunset.2 hexec hbefore
  by_cases htick : s.act = .keepalive .tick
  · -- A tick that goes on arms the timer or parks.
    have hafter : w'.shared.keepalive = (w.shared.keepaliveTick choice.now).keepalive := by
      rw [s.shared_after]
      rw [htick] at hexec
      rw [← Option.some.inj hexec]
      rfl
    rw [hafter] at hrunning hparked
    cases keepalive_tick (d := w.shared) choice.now with
    | ended _ after =>
      rw [after] at hrunning
      cases hrunning
    | parked _ _ after =>
      rw [after] at hparked
      cases hparked
    | stopped stopped after =>
      rw [after] at hrunning
      rw [hrunning, h.timer (.inl hrunning)] at stopped
      cases stopped
    | armed delay after =>
      left
      rw [hafter, after]
      rfl
  rw [s.shared_after] at hrunning hparked
  obtain hbefore | ⟨a, ha, -, rfl⟩ | ⟨t, ht, a, ha, -, rfl⟩ := s.waiting_after _ hlisten
  · -- Somebody listened before.
    obtain hrunning | hpublish | ⟨-, hstart⟩ := running_after hexec hrunning
    · obtain ⟨hsame, -⟩ | ⟨-, hset' | hpublish⟩ | ⟨hagain, -⟩ := parked_cases hexec
      · exact hset (h.armed hrunning (hsame ▸ hparked) hbefore)
      · rw [s.shared_after]
        exact hset'
      · exact absurd hbefore (hattended.idle s (.inl hpublish))
      · exact absurd hagain htick
    · exact absurd hbefore (hattended.idle s (.inl hpublish))
    · exact absurd hbefore (hattended.idle s (.inr hstart))
  · cases works_next hexec ha rfl with
    | starts _ _ _ _ next => cases next
    | creates _ next _ =>
      rw [next, List.mem_singleton] at ha
      cases ha
    | ticks _ next => cases next
    | waits act _ => exact absurd act htick
  · -- The worker has just been created.
    have hact : s.act = .keepalive .createWorker := by
      by_contra hother
      rw [spawn_nil hother hexec] at ht
      cases ht
    exact hset (h.created i s.thread s.rest s.at_index (hact ▸ s.todo))

theorem parked_act (h : Timed w) (hshown : w.shared.Shown)
    (s : System.ActStep driver w i choice w') (hrunning : w'.shared.keepalive.running = true)
    (hparked : w'.shared.keepalive.parked = true) :
    Transition w' ∨ ∀ id, (w'.shared.controllers id).reads = false := by
  have hexec : s.act.exec w.threads w.shared s.thread.kind s.thread.regs choice = some s.outcome :=
    s.exec
  rw [s.shared_after] at hrunning hparked ⊢
  by_cases hnobody : ∀ id, (s.outcome.shared.controllers id).reads = false
  · exact .inr hnobody
  push Not at hnobody
  obtain ⟨id, hreads⟩ := hnobody
  rw [ne_eq, Bool.not_eq_false] at hreads
  left
  have hsource := reads_after h.unused hexec hreads
  have hbefore : w.shared.keepalive.parked = true ∧ s.act ≠ .keepalive .publishStart := by
    obtain ⟨hsame, hpublish⟩ | ⟨hwoken, -⟩ | ⟨htick, hidle, hactive⟩ := parked_cases hexec
    · exact ⟨hsame ▸ hparked, hpublish⟩
    · rw [hparked] at hwoken
      cases hwoken
    · -- The tick has found no reader.
      exfalso
      obtain hbefore | ⟨step, hact, -⟩ := hsource
      · obtain ⟨hstate, hsteam, hinput, hready⟩ := reads_iff.mp hbefore
        obtain ⟨other, -, hother⟩ := List.any_eq_true.mp hactive
        simp only [Device.keepaliveActive, Section.keepaliveActive, Section.isActive,
          Bool.and_eq_true, Bool.not_eq_true'] at hother
        have hstopping : w.shared.stopping = false := hother.1.1.1.1
        refine absurd hidle (Bool.not_eq_false _ ▸
          List.any_eq_true.mpr ⟨id, List.mem_finRange id, ?_⟩)
        simp [Device.keepaliveActive, Section.keepaliveActive, Section.isActive, Device.sectionOf,
          Device.flags, hstopping, hstate, hshown id hstate, hsteam, hinput, hready]
      · rw [htick] at hact
        cases hact
  obtain hruns | hpublish | ⟨-, id', step, hact, hstart⟩ := running_after hexec hrunning
  · obtain htransition | hnobody := h.parked hruns hbefore.1
    · obtain ⟨-, hthis⟩ | hlater := s.waiting_before htransition
      · obtain hpublish | hover := transition_cases hthis
        · exact absurd hpublish hbefore.2
        · rw [keepalive_mark hover hexec] at hrunning
          cases hrunning
      · exact hlater
    · obtain hreads | ⟨step, hact, hrearm | ⟨hactive, hrefused⟩⟩ := hsource
      · rw [hnobody id] at hreads
        cases hreads
      · -- A reader that comes back has the timer armed.
        exfalso
        have hafter : s.outcome.shared = w.shared.afterSection id
            (step.run (w.shared.sectionOf id choice.now) (w.shared.controllers id).data)
              choice.now := by
          rw [hact] at hexec
          rw [← Option.some.inj hexec]
          rfl
        obtain ⟨-, hquiet⟩ | ⟨delay, hset⟩ := keepalive_section (d := w.shared) id
          (step.run (w.shared.sectionOf id choice.now) (w.shared.controllers id).data) choice.now
        · rw [hrearm hbefore.1, h.timer (.inl hruns), hruns] at hquiet
          cases hquiet
        · rw [hafter, hset] at hparked
          cases hparked
      · -- The device is leaving D0, and VHF is given no more reports.
        simp only [Section.isActive, Device.sectionOf, Device.flags, Bool.and_eq_true,
          Bool.not_eq_true', beq_iff_eq] at hactive
        obtain ⟨⟨hstopping, hstate⟩, hvhf⟩ := hactive
        have hpowered : w.shared.powered = false := by
          simpa [Section.acceptsVhfCallbacks, Device.sectionOf, Device.flags, hstopping, hstate, hvhf]
            using hrefused
        obtain hwaiting | hidle := h.powered hpowered
        · obtain ⟨-, hover⟩ | hlater := s.waiting_before hwaiting
          · rw [hact] at hover
            cases hover
          · exact hlater.mono fun _ a => transition_of_takesOver
        · exact absurd hstate (hidle id)
  · exact absurd hpublish hbefore.2
  · refine s.waiting_next (p := fun _ a => a.transition = true) (b := .keepalive .publishStart) ?_ rfl
    rw [hact] at hexec
    rw [← Option.some.inj hexec]
    simp only [SlotStep.exec, Device.effect, hstart, if_true]
    simp [startKeepalive]

theorem act (h : Timed w) (hattended : Attended w) (hshown : w.shared.Shown)
    (s : System.ActStep driver w i choice w') : Timed w' where
  inSequence := h.inSequence_act s
  alive := h.alive_act hattended s
  timer := h.timer_act s
  created _ _ _ := h.created_act hattended s
  unused id hstarting := by
    rw [s.shared_after] at hstarting ⊢
    exact unused_after (k := s.thread.kind) h.unused s.exec hstarting
  powered := h.powered_act hshown s
  armed := h.armed_act hattended s
  parked := h.parked_act hshown s

theorem fires (h : Timed w) : Timed
    { shared := { w.shared with keepalive := { w.shared.keepalive with
        due := none
        signalled := true } }
      threads := w.threads } where
  inSequence := h.inSequence
  alive := h.alive
  timer := h.timer
  created _ _ _ _ _ := .inr rfl
  unused := h.unused
  powered := h.powered
  armed _ _ _ := .inr rfl
  parked := h.parked

-- A new thread brings nothing that works on the keep-alive.
theorem starts (h : Timed w) {operation : Operation} (hworker : operation ≠ .keepaliveWorker) :
    Timed ⟨w.shared, w.threads ++ [operation.start]⟩ where
  inSequence t ht := by
    obtain hold | hnew := List.mem_append.mp ht
    · exact h.inSequence t hold
    · rw [List.mem_singleton.mp hnew]
      exact inSequence_program operation
  alive t ht hkind := by
    obtain hold | hnew := List.mem_append.mp ht
    · exact h.alive t hold hkind
    · rw [List.mem_singleton.mp hnew] at hkind
      exact absurd hkind hworker
  timer hneeds := by
    refine h.timer (hneeds.imp_right ?_)
    rintro ⟨t, ht, hstart⟩
    obtain hold | hnew := List.mem_append.mp ht
    · exact ⟨t, hold, hstart⟩
    · rw [List.mem_singleton.mp hnew] at hstart
      cases works_program hworker _ hstart
  created j t rest ht htodo := by
    obtain hold | ⟨-, rfl⟩ := at_started ht
    · exact h.created j t rest hold htodo
    · have hmem : Act.keepalive .createWorker ∈ operation.program := by
        rw [show operation.program = _ from htodo]
        exact List.mem_cons_self
      cases works_program hworker _ hmem
  unused := h.unused
  powered hpowered := (h.powered hpowered).imp_left fun hwaiting => hwaiting.append_left _
  armed hrunning hparked hlisten := by
    refine h.armed hrunning hparked ?_
    obtain ⟨t, ht, a, ha, hkind, hwait⟩ := hlisten
    obtain hold | hnew := List.mem_append.mp ht
    · exact ⟨t, hold, a, ha, hkind, hwait⟩
    · rw [List.mem_singleton.mp hnew] at hkind
      exact absurd hkind hworker
  parked hrunning hparked :=
    (h.parked hrunning hparked).imp_left fun htransition => htransition.append_left _

theorem env (h : Timed w) {stimulus : Stimulus} (hstep : driver.step w (.env stimulus) = some w') :
    Timed w' := by
  obtain ⟨out, hout, rfl⟩ := System.environment_of_step hstep
  cases stimulus with
  | timerFires =>
    simp only [driver, Stimulus.run] at hout
    split at hout <;> cases hout
    rw [List.append_nil]
    exact h.fires
  | start operation =>
    simp only [driver, Stimulus.run] at hout
    split at hout <;> cases hout
    rename_i hmay
    refine h.starts ?_
    rintro rfl
    cases hmay

theorem initial (keepalive : Bool) : Timed (World.initial keepalive) where
  inSequence t ht := by cases ht
  alive t ht := by cases ht
  timer hneeds := by
    obtain hrunning | ⟨t, ht, -⟩ := hneeds
    · cases hrunning
    · cases ht
  created j t rest ht := by cases ht
  unused id hstarting := by cases hstarting
  powered _ := .inr fun id => by simp [World.initial, Device.added]
  armed hrunning := by cases hrunning
  parked hrunning := by cases hrunning

end Timed

end Steps

section Runs

variable {keepalive : Bool} {w : World}

theorem Reaches.shown (h : driver.Reaches (World.initial keepalive) w) : w.shared.Shown := by
  intro id hactive
  obtain ⟨holder, hok⟩ := Reaches.disciplined h
  have hvhf : ∀ s : Standing, Stands w.shared (.controller id) s → s.vhf.isSome = true →
      (w.shared.controllers id).control.vhf.isSome = true := fun s hstands hs => by
    have hshows : (w.shared.controllers id).control.vhf = s.vhf := hstands.vhf
    rw [hshows]
    exact hs
  have hplace := hok.shared.places (.controller id)
  have hsettled (hsettled : Settled w.shared (.controller id)) :
      (w.shared.controllers id).control.vhf.isSome = true := by
    obtain ⟨handle, hstands⟩ := hsettled.stands_active hactive
    exact hvhf _ hstands rfl
  cases hphase : phaseAt (holderMode holder) (.controller id) with
  | settled =>
    rw [hphase] at hplace
    exact hsettled hplace
  | retired =>
    rw [hphase] at hplace
    exact hsettled (.inl hplace)
  | busy owner stage =>
    rw [hphase] at hplace
    obtain ⟨-, hstands, -⟩ := hplace
    have hstate : (w.shared.controllers id).control.state = stage.standing.state := hstands.state
    rw [hactive] at hstate
    cases stage <;> cases hstate

theorem Reaches.timed (h : driver.Reaches (World.initial keepalive) w) : Timed w := by
  induction h with
  | refl => exact .initial keepalive
  | step event before _ hstep ih =>
    cases event with
    | act i choice =>
      obtain ⟨s⟩ := System.actStep_of_step hstep
      exact ih.act (Reaches.attended before) (Reaches.shown before) s
    | env stimulus => exact ih.env hstep

-- What the keep-alive keeps to. The worker that has not ended is in its loop with no tick
-- begun; outside a start and a stop, one that is parked has nobody to send to.
structure KeepsTime (w : World) : Prop where
  armed : w.shared.keepalive.running = true → w.shared.keepalive.parked = false →
    ∀ t ∈ w.threads, t.kind = .keepaliveWorker → t.todo ≠ [] → .keepalive .tick ∉ t.todo →
      .keepalive .workerExit ∉ t.todo →
        w.shared.keepalive.due.isSome = true ∨ w.shared.keepalive.signalled = true
  parked : w.shared.keepalive.running = true → w.shared.keepalive.parked = true → ¬Transition w →
    ∀ id, (w.shared.controllers id).resends = true →
      (w.shared.controllers id).data.pump.ready = false

theorem Timed.keepsTime (h : Timed w) : KeepsTime w where
  armed hrunning hparked t ht hkind htodo htick hexit := by
    obtain ⟨a, ha, hloops⟩ := (h.alive t ht hkind).resolve_left htodo
    refine h.armed hrunning hparked ⟨t, ht, a, ha, hkind, ?_⟩
    cases a with
    | keepalive act =>
      cases act with
      | wait => rfl
      | tick => exact absurd ha htick
      | workerExit => exact absurd ha hexit
      | _ => cases hloops
    | _ => cases hloops
  parked hrunning hparked hquiet id hresends := by
    have hreads := (h.parked hrunning hparked).resolve_left hquiet id
    simpa only [Slot.reads, hresends, Bool.true_and] using hreads

-- The timer is armed or the worker safely parked, and every setting of the timer is for
-- the slot that is due first.
theorem keepalive_armed_or_parked (run : driver.Run (World.initial keepalive)) :
    (∀ n, n ≤ run.length → KeepsTime (run.world n)) ∧
      ∀ n i choice a, run.Performs n i choice a →
        TimerStep a choice (run.world n).shared (run.world (n + 1)).shared := by
  refine ⟨fun n hn => (Reaches.timed (run.reaches n hn)).keepsTime, ?_⟩
  intro n i choice a hperforms
  obtain ⟨s, rfl⟩ := hperforms.step
  have hshown := Reaches.shown (run.reaches (n + 1) hperforms.lt_length)
  rw [s.shared_after] at hshown ⊢
  exact exec_timerStep (k := s.thread.kind) s.exec hshown

end Runs

end LibVirtualGamepad
