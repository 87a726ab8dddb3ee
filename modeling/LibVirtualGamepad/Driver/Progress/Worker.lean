import LibVirtualGamepad.Driver.Progress.Sections

-- The keep-alive worker and those who wait for its end: whoever joins it has made sure
-- that it ends.
namespace LibVirtualGamepad

open Interleaving

-- What the holder of the gate has made sure of about the worker.
inductive Watch where
  | quiet
  | stopping
  | signalled
  | starting
  | joined
  | published
  deriving DecidableEq

def PowerAct.watch (act : PowerAct) (m m' : Option Watch) : Prop :=
  match act with
  | .stopMark _ | .downMark => m = some .quiet ∧ m' = some .joined
  | .stopCollect _ => m = some .stopping ∧ m' = some .joined
  | _ => m' = m

def KeepaliveAct.watch (k : Operation) (act : KeepaliveAct) (m m' : Option Watch) : Prop :=
  match act with
  | .signalStop => m = some .stopping ∧ m' = some .signalled
  | .join => (m = some .signalled ∨ m = some .starting) ∧ m' = some .joined
  | .publishStart => m = some .joined ∧ m' = some .published
  | .resetStop => m = some .published ∧ m' = some .published
  | .armFirst | .createWorker | .startFailed => m = some .published ∧ m' = some .quiet
  | .cancel =>
    m' = m ∧ (k = .keepaliveWorker ∧ m = none ∨ m = some .joined ∨ m = some .published)
  | .wait | .tick | .workerExit => k = .keepaliveWorker ∧ m = none ∧ m' = none

def KeyboardMouseAct.watch (act : KeyboardMouseAct) (m m' : Option Watch) : Prop :=
  match act with
  | .authorize _ _ | .openEnumerate _ _ | .openCheck _ => m = none ∧ m' = none
  | .submit _ _ | .close _ => m = some .quiet ∧ m' = none
  | _ => m' = m

def Act.watch (k : Operation) (act : Act) (m m' : Option Watch) : Prop :=
  match act with
  | .lockLifetime => m = none ∧ m' = some .quiet
  | .unlockLifetime => (m = some .quiet ∨ m = some .joined) ∧ m' = none
  | .slot _ step => m' = m ∧ (step.isInput = true → m = some .quiet)
  | .create _ _ _ (.check) | .create _ _ _ (.enumerate _) | .destroy _ _ .check =>
    m = none ∧ m' = none
  | .power act => act.watch m m'
  | .keepalive act => act.watch k m m'
  | .keyboardMouse act => act.watch m m'
  | _ => m' = m

-- What may be left of a worker.
inductive Working : List Act → Prop where
  | done : Working []
  | submitting (a : Act) (rest : List Act) (hsubmits : a.submission.isSome = true)
    (hrest : Working rest) : Working (a :: rest)
  | waiting : Working [.keepalive .wait]
  | ticking : Working [.keepalive .tick]
  | cancelling : Working [.keepalive .cancel, .keepalive .workerExit]
  | leaving : Working [.keepalive .workerExit]

-- The worker will look at the stop event again before it ends.
def Loops (todo : List Act) : Prop := .keepalive .wait ∈ todo ∨ .keepalive .tick ∈ todo

structure Watched (m : Option Watch) (w : World) : Prop where
  gate : w.shared.gateHeld = m.isSome
  -- A worker that has not ended is the one whose thread is kept.
  one : ∀ (j : Nat) (t : Task), w.threads[j]? = some t → t.kind = .keepaliveWorker → t.todo ≠ [] →
    w.shared.keepalive.thread = some j
  kept : ∀ j : Nat, w.shared.keepalive.thread = some j →
    ∃ t : Task, w.threads[j]? = some t ∧ t.kind = .keepaliveWorker
  shaped : ∀ t ∈ w.threads, t.kind = .keepaliveWorker → Working t.todo
  quiet : m = none ∨ m = some .quiet → ∀ t ∈ w.threads, t.kind = .keepaliveWorker → Loops t.todo →
    w.shared.keepalive.running = true
  signalled : m = some .signalled → w.shared.keepalive.stop = true
  starting : m = some .starting → ∀ t ∈ w.threads, t.kind = .keepaliveWorker → ¬Loops t.todo
  joined : m = some .joined → w.shared.keepalive.thread = none
  published : m = some .published →
    w.shared.keepalive.thread = none ∧ w.shared.keepalive.running = true

section Acts

variable {w w' : World} {i : Nat} {choice : Choice} {m : Option Watch}

-- Nobody but the kept thread is on its way.
theorem Watched.ended (h : Watched m w) (hnone : w.shared.keepalive.thread = none) {t : Task}
    (ht : t ∈ w.threads) (hkind : t.kind = .keepaliveWorker) : t.todo = [] := by
  obtain ⟨j, hj⟩ := List.mem_iff_getElem?.1 ht
  by_contra htodo
  have hsome := h.one j t hj hkind htodo
  rw [hnone] at hsome
  cases hsome

theorem not_loops_nil : ¬Loops [] := by
  simp [Loops]

-- The workers are as they were, when somebody else has acted.
theorem workers_after (s : System.ActStep driver w i choice w')
    (hk : s.thread.kind ≠ .keepaliveWorker) (hspawn : s.outcome.spawn = []) {j : Nat} {t : Task}
    (ht : w'.threads[j]? = some t) (hkind : t.kind = .keepaliveWorker) :
    w.threads[j]? = some t := by
  obtain ⟨-, rfl⟩ | ⟨-, hold⟩ | ⟨-, hnew⟩ := s.cases_after j t ht
  · exact absurd hkind hk
  · exact hold
  · rw [hspawn] at hnew
    cases hnew

theorem mem_workers_after (s : System.ActStep driver w i choice w')
    (hk : s.thread.kind ≠ .keepaliveWorker) (hspawn : s.outcome.spawn = []) {t : Task}
    (ht : t ∈ w'.threads) (hkind : t.kind = .keepaliveWorker) : t ∈ w.threads := by
  obtain ⟨j, hj⟩ := List.mem_iff_getElem?.1 ht
  exact List.mem_of_getElem? (workers_after s hk hspawn hj hkind)

-- What the worker's state depends on.
structure SameWorker (d d' : Device) : Prop where
  gate : d'.gateHeld = d.gateHeld
  thread : d'.keepalive.thread = d.keepalive.thread
  running : d'.keepalive.running = d.keepalive.running
  stop : d'.keepalive.stop = d.keepalive.stop

theorem SameWorker.of_eq {d d' : Device} (hgate : d'.gateHeld = d.gateHeld)
    (h : d'.keepalive = d.keepalive) : SameWorker d d' := by
  constructor
  · exact hgate
  all_goals rw [h]

theorem kept_after (s : System.ActStep driver w i choice w') {j : Nat} {t : Task}
    (ht : w.threads[j]? = some t) : ∃ u : Task, w'.threads[j]? = some u ∧ u.kind = t.kind := by
  by_cases hj : j = i
  · subst hj
    obtain rfl : t = s.thread := Option.some.inj (ht.symm.trans s.at_index)
    exact ⟨_, s.at_index_after, rfl⟩
  · have hlt := (List.getElem?_eq_some_iff.1 ht).1
    exact ⟨t, (s.at_other j hj hlt).trans ht, rfl⟩

theorem Watched.kept_worker (h : Watched m w) (s : System.ActStep driver w i choice w') {j : Nat}
    (hj : w.shared.keepalive.thread = some j) :
    ∃ t : Task, w'.threads[j]? = some t ∧ t.kind = .keepaliveWorker := by
  obtain ⟨t, ht, hkind⟩ := h.kept j hj
  obtain ⟨u, hu, hsame⟩ := kept_after s ht
  exact ⟨u, hu, hsame.trans hkind⟩

theorem Watched.calm (h : Watched m w) (s : System.ActStep driver w i choice w')
    (hk : s.thread.kind ≠ .keepaliveWorker) (hspawn : s.outcome.spawn = [])
    (hsame : SameWorker w.shared w'.shared) : Watched m w' where
  gate := hsame.gate.trans h.gate
  one j t ht hkind htodo := by
    rw [hsame.thread]
    exact h.one j t (workers_after s hk hspawn ht hkind) hkind htodo
  kept j hj := h.kept_worker s (hsame.thread.symm.trans hj)
  shaped t ht hkind := h.shaped t (mem_workers_after s hk hspawn ht hkind) hkind
  quiet hm t ht hkind hloops := by
    rw [hsame.running]
    exact h.quiet hm t (mem_workers_after s hk hspawn ht hkind) hkind hloops
  signalled hm := hsame.stop.trans (h.signalled hm)
  starting hm t ht hkind := h.starting hm t (mem_workers_after s hk hspawn ht hkind) hkind
  joined hm := hsame.thread.trans (h.joined hm)
  published hm :=
    ⟨hsame.thread.trans (h.published hm).1, hsame.running.trans (h.published hm).2⟩

-- An act of the worker itself.
theorem Watched.worker (h : Watched m w) (s : System.ActStep driver w i choice w')
    (hk : s.thread.kind = .keepaliveWorker) (hspawn : s.outcome.spawn = [])
    (hworking : Working (s.outcome.next ++ s.rest))
    (hgate : w'.shared.gateHeld = w.shared.gateHeld)
    (hthread : w'.shared.keepalive.thread = w.shared.keepalive.thread)
    (hstop : w'.shared.keepalive.stop = w.shared.keepalive.stop)
    (hloops : Loops (s.outcome.next ++ s.rest) →
      Loops s.thread.todo ∧ w'.shared.keepalive.running = w.shared.keepalive.running) :
    Watched m w' := by
  have hkept : w.shared.keepalive.thread = some i :=
    h.one i s.thread s.at_index hk (by rw [s.todo]; simp)
  have hothers (j : Nat) (t : Task) (hj : j ≠ i) (ht : w'.threads[j]? = some t)
      (hkind : t.kind = .keepaliveWorker) : t.todo = [] := by
    obtain ⟨heq, -⟩ | ⟨-, hold⟩ | ⟨-, hnew⟩ := s.cases_after j t ht
    · exact absurd heq hj
    · by_contra htodo
      have hagain := h.one j t hold hkind htodo
      rw [hkept] at hagain
      exact hj (Option.some.inj hagain).symm
    · rw [hspawn] at hnew
      cases hnew
  have hlooping (t : Task) (ht : t ∈ w'.threads) (hkind : t.kind = .keepaliveWorker)
      (hl : Loops t.todo) :
      Loops s.thread.todo ∧ w'.shared.keepalive.running = w.shared.keepalive.running := by
    obtain ⟨j, hj⟩ := List.mem_iff_getElem?.1 ht
    by_cases hji : j = i
    · subst hji
      obtain rfl : t = s.outcome.thread s.thread s.rest :=
        Option.some.inj (hj.symm.trans s.at_index_after)
      exact hloops hl
    · rw [hothers j t hji hj hkind] at hl
      exact absurd hl not_loops_nil
  refine ⟨hgate.trans h.gate, fun j t ht hkind htodo => ?_,
    fun j hj => h.kept_worker s (hthread.symm.trans hj), fun t ht hkind => ?_,
    fun hm t ht hkind hl => ?_,
    fun hm => hstop.trans (h.signalled hm), fun hm t ht hkind hl => ?_, fun hm => ?_, fun hm => ?_⟩
  · by_cases hji : j = i
    · rw [hji, hthread]
      exact hkept
    · exact absurd (hothers j t hji ht hkind) htodo
  · obtain ⟨j, hj⟩ := List.mem_iff_getElem?.1 ht
    by_cases hji : j = i
    · subst hji
      obtain rfl : t = s.outcome.thread s.thread s.rest :=
        Option.some.inj (hj.symm.trans s.at_index_after)
      exact hworking
    · rw [hothers j t hji hj hkind]
      exact .done
  · obtain ⟨hbefore, hrunning⟩ := hlooping t ht hkind hl
    rw [hrunning]
    exact h.quiet hm s.thread s.mem hk hbefore
  · exact h.starting hm s.thread s.mem hk (hlooping t ht hkind hl).1
  · rw [h.joined hm] at hkept
    cases hkept
  · rw [(h.published hm).1] at hkept
    cases hkept

end Acts

section Calm

variable {d : Device} {regs : Registers} {choice : Choice} {threads : List Task} {k : Operation}
  {o : Effect}

theorem sameWorker_stopAdmission : SameWorker d d.stopKeyboardMouseAdmission := by
  unfold Device.stopKeyboardMouseAdmission Device.retireContext
  dsimp only
  repeat' split
  all_goals exact .of_eq rfl rfl

theorem sameWorker_keyboardMouse {act : KeyboardMouseAct} (h : act.exec d regs choice = some o) :
    SameWorker d o.shared := by
  refine .of_eq ?_ (keyboardMouse_only h).1.keepalive
  have hfree (d : Device) (context : Option Nat) : (d.freeContext context).gateHeld = d.gateHeld := by
    cases context <;> rfl
  cases act <;> simp only [KeyboardMouseAct.exec] at h <;> (repeat' split at h) <;> cases h <;>
    first
      | rfl
      | exact sameWorker_stopAdmission.gate
      | exact hfree _ _

theorem sameWorker_create {id : ControllerId} {owner : File} {profile : Profile} (act : CreateAct) :
    SameWorker d (act.exec d regs choice id owner profile).shared := by
  refine .of_eq ?_ (create_only act).keepalive
  cases act with
  | release =>
    simp only [CreateAct.exec, Device.effect, Device.releaseStartingSlot]
    split <;> rfl
  | _ =>
    simp only [CreateAct.exec]
    repeat' split
    all_goals rfl

theorem sameWorker_destroy {id : ControllerId} {owner : File} (act : DestroyAct) :
    SameWorker d (act.exec d regs id owner).shared := by
  refine .of_eq ?_ (destroy_only act).keepalive
  cases act <;> simp only [DestroyAct.exec] <;> (repeat' split) <;> rfl

theorem sameWorker_target (act : TargetAct) : SameWorker d (act.exec d regs choice).shared := by
  cases act <;> simp only [TargetAct.exec] <;> (repeat' split) <;> exact .of_eq rfl rfl

-- A section changes nothing of the worker but for the input that starts it.
theorem sameWorker_section (id : ControllerId) (r : StepResult) (now : UInt64)
    (h : r.startKeepalive = false) : SameWorker d (d.afterSection id r now) := by
  have hsection : SameWorker d (d.applySection id r) := .of_eq rfl rfl
  unfold Device.afterSection Device.arm
  simp only [h, Bool.false_eq_true, if_false]
  repeat' split
  all_goals first
    | exact hsection
    | exact ⟨rfl, rfl, rfl, rfl⟩

-- One act alone starts a thread.
theorem spawn_nil {a : Act} (ha : a ≠ .keepalive .createWorker)
    (h : a.exec threads d k regs choice = some o) : o.spawn = [] := by
  cases a with
  | keepalive act =>
    cases act <;> simp only [Act.exec, KeepaliveAct.exec] at h <;> (repeat' split at h) <;> cases h <;>
      first | rfl | exact absurd rfl ha
  | keyboardMouse act => exact (keyboardMouse_only h).2
  | lockLifetime | waitForSubmits id | deleteEnd handle =>
    simp only [Act.exec] at h
    split at h <;> cases h
    rfl
  | create id owner profile act =>
    cases h
    cases act <;> simp only [CreateAct.exec] <;> (repeat' split) <;> rfl
  | destroy id owner act =>
    cases h
    cases act <;> simp only [DestroyAct.exec] <;> (repeat' split) <;> rfl
  | target act =>
    cases h
    cases act <;> simp only [TargetAct.exec] <;> (repeat' split) <;> rfl
  | power act =>
    cases h
    cases act <;> rfl
  | _ =>
    cases h
    rfl

end Calm

-- The acts that neither need a watch nor change it.
def Act.unwatched : Act → Bool
  | .lockLifetime | .unlockLifetime => false
  | .slot _ step => !step.isInput
  | .create _ _ _ .check | .create _ _ _ (.enumerate _) | .destroy _ _ .check => false
  | .power (.stopMark _) | .power .downMark | .power (.stopCollect _) => false
  | .keepalive _ => false
  | .keyboardMouse (.authorize _ _) | .keyboardMouse (.openEnumerate _ _)
  | .keyboardMouse (.openCheck _) | .keyboardMouse (.submit _ _) | .keyboardMouse (.close _) => false
  | _ => true

section Chains

variable {d : Device} {regs : Registers} {choice : Choice} {k : Operation} {o : Effect}
  {m : Option Watch}

theorem watch_unwatched {a : Act} (h : a.unwatched = true) : a.watch k m m := by
  cases a with
  | lockLifetime | unlockLifetime => cases h
  | slot id step =>
    refine ⟨rfl, fun hinput => ?_⟩
    simp only [Act.unwatched, hinput, Bool.not_true, Bool.false_eq_true] at h
  | create id owner profile act => cases act <;> first | rfl | cases h
  | destroy id owner act => cases act <;> first | rfl | cases h
  | power act => cases act <;> first | rfl | cases h
  | keepalive act => cases act <;> first | rfl | cases h
  | keyboardMouse act => cases act <;> first | rfl | cases h
  | _ => rfl

theorem chain_unwatched {next : List Act} (h : ∀ a ∈ next, a.unwatched = true) :
    Chain (Act.watch k) next m m := by
  induction next with
  | nil => rfl
  | cons a rest ih =>
    exact ⟨m, watch_unwatched (h a List.mem_cons_self), ih fun b hb => h b (List.mem_cons_of_mem _ hb)⟩

theorem unwatched_submission (id : ControllerId) (answers : Bool) :
    ∀ a ∈ d.submission id answers, a.unwatched = true := by
  unfold Device.submission
  split
  · simp [Act.unwatched]
  · exact List.forall_mem_nil _

theorem unwatched_deleteStopped (retain : Bool) :
    ∀ a ∈ deleteStoppedKeyboardMouse retain, a.unwatched = true := by
  simp [deleteStoppedKeyboardMouse, Act.unwatched]

theorem unwatched_deleteCollected (handles : ControllerId → Option Handle)
    {after : ControllerId → List Act} (h : ∀ id, ∀ a ∈ after id, a.unwatched = true) :
    ∀ a ∈ deleteCollected handles after, a.unwatched = true := by
  intro a ha
  simp only [deleteCollected, List.mem_flatMap] at ha
  obtain ⟨id, -, ha⟩ := ha
  split at ha
  · obtain hdelete | hafter := List.mem_append.1 ha
    · simp only [deleteAfterSubmits, List.mem_cons, List.not_mem_nil, or_false] at hdelete
      obtain rfl | rfl | rfl := hdelete <;> rfl
    · exact h id a hafter
  · cases ha

-- A gated section, from the lock to the release.
theorem chain_gate {acts : List Act} {x : Watch} (h : Chain (Act.watch k) acts (some .quiet) (some x))
    (hx : x = .quiet ∨ x = .joined) : Chain (Act.watch k) (gated acts) none none := by
  have hlock : Chain (Act.watch k) [.lockLifetime] none (some .quiet) := .single ⟨rfl, rfl⟩
  have hunlock : Chain (Act.watch k) [.unlockLifetime] (some x) none := by
    refine .single ⟨?_, rfl⟩
    obtain rfl | rfl := hx
    · exact .inl rfl
    · exact .inr rfl
  exact (hlock.append h).append hunlock

theorem chain_stopWorker : Chain (Act.watch k) stopKeepalive (some .stopping) (some .joined) :=
  ⟨_, ⟨rfl, rfl⟩, _, ⟨.inl rfl, rfl⟩, _, ⟨rfl, .inr (.inl rfl)⟩, rfl⟩

theorem chain_startWorker : Chain (Act.watch k) startKeepalive (some .starting) (some .quiet) :=
  ⟨_, ⟨.inr rfl, rfl⟩, _, ⟨rfl, rfl⟩, _, ⟨rfl, rfl⟩, _, ⟨rfl, rfl⟩, rfl⟩

theorem unwatched_create {id : ControllerId} {owner : File} {profile : Profile} {act : CreateAct}
    (hact : (Act.create id owner profile act).unwatched = true) :
    ∀ a ∈ (act.exec d regs choice id owner profile).next, a.unwatched = true := by
  cases act with
  | check | enumerate generation => cases hact
  | _ =>
    simp only [CreateAct.exec]
    repeat' split
    all_goals simp [Device.effect, Act.unwatched, targetOpen]

theorem unwatched_destroy {id : ControllerId} {owner : File} {act : DestroyAct}
    (hact : (Act.destroy id owner act).unwatched = true) :
    ∀ a ∈ (act.exec d regs id owner).next, a.unwatched = true := by
  cases act with
  | check => cases hact
  | _ =>
    simp only [DestroyAct.exec]
    repeat' split
    all_goals simp [Device.effect, Act.unwatched, deleteAfterSubmits]

theorem unwatched_keyboardMouse {act : KeyboardMouseAct}
    (hact : (Act.keyboardMouse act).unwatched = true) (h : act.exec d regs choice = some o) :
    ∀ a ∈ o.next, a.unwatched = true := by
  cases act with
  | authorize owner request | openEnumerate owner generation | openCheck owner
  | submit owner request | close owner => cases hact
  | detach retain =>
    simp only [KeyboardMouseAct.exec] at h
    split at h <;> cases h
    · cases d.keyboardMouse.vhf <;> cases d.keyboardMouse.callbackContext <;>
        simp [Device.effect, Act.unwatched]
    · simp [Device.effect, Act.unwatched]
  | cleanupStop owner =>
    simp only [KeyboardMouseAct.exec] at h
    split at h <;> cases h
    · simp only [Device.effect]
      split
      · exact unwatched_deleteStopped false
      · exact List.forall_mem_nil _
    · exact List.forall_mem_nil _
  | _ =>
    simp only [KeyboardMouseAct.exec] at h
    repeat' split at h
    all_goals cases h
    all_goals simp [Device.effect, Act.unwatched, targetOpen, deleteStoppedKeyboardMouse]

theorem chain_gated_unwatched {a : Act} (h : a.unwatched = true) :
    Chain (Act.watch k) (gated [a]) none none := by
  refine chain_gate (chain_unwatched fun b hb => ?_) (.inl rfl)
  rw [List.mem_singleton.1 hb]
  exact h

theorem chain_watch_keyboardMouse {act : KeyboardMouseAct} {m₁ : Option Watch}
    (hspec : Act.watch k (.keyboardMouse act) m m₁) (h : act.exec d regs choice = some o) :
    Chain (Act.watch k) o.next m m₁ := by
  have hleave {front : List Act} (hfront : ∀ a ∈ front, a.unwatched = true) :
      Chain (Act.watch k) (.unlockLifetime :: front) (some .quiet) none :=
    ⟨none, ⟨.inl rfl, rfl⟩, chain_unwatched hfront⟩
  cases act with
  | authorize owner request =>
    obtain ⟨rfl, rfl⟩ := hspec
    simp only [KeyboardMouseAct.exec] at h
    split at h <;> cases h
    · cases request with
      | query => exact .single rfl
      | openSource => exact .single ⟨rfl, rfl⟩
      | close | submit request => exact ⟨_, ⟨rfl, rfl⟩, .single ⟨rfl, rfl⟩⟩
      | abort => exact chain_gated_unwatched (a := .keyboardMouse (.abort owner)) rfl
    · rfl
  | openCheck owner =>
    obtain ⟨rfl, rfl⟩ := hspec
    simp only [KeyboardMouseAct.exec] at h
    repeat' split at h
    all_goals cases h
    · rfl
    · rfl
    · exact .single ⟨rfl, rfl⟩
  | openEnumerate owner generation =>
    obtain ⟨rfl, rfl⟩ := hspec
    cases h
    exact chain_gated_unwatched
      (a := .keyboardMouse (.openBegin owner generation choice.childPresent)) rfl
  | submit owner request =>
    obtain ⟨rfl, rfl⟩ := hspec
    simp only [KeyboardMouseAct.exec] at h
    repeat' split at h
    all_goals cases h
    all_goals exact hleave (by simp [Act.unwatched])
  | close owner =>
    obtain ⟨rfl, rfl⟩ := hspec
    simp only [KeyboardMouseAct.exec] at h
    repeat' split at h
    all_goals cases h
    all_goals first
      | exact hleave (by simp [Act.unwatched])
      | exact (chain_unwatched (unwatched_deleteStopped false)).append
          (hleave (List.forall_mem_nil _))
  | _ =>
    obtain rfl : m₁ = m := hspec
    exact chain_unwatched (unwatched_keyboardMouse rfl h)

end Chains

end LibVirtualGamepad
