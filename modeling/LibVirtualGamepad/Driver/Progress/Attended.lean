import LibVirtualGamepad.Driver.Progress.Worker

-- Every act keeps what the holder of the gate has made sure of about the worker.
namespace LibVirtualGamepad

open Interleaving

section Kept

variable {w w' : World} {i : Nat} {choice : Choice} {s : System.ActStep driver w i choice w'}
  {held m m₁ : Option Watch}

abbrev WatchKept (s : System.ActStep driver w i choice w') (held m m₁ : Option Watch) : Prop :=
  ∃ after, Interleaving.Kept Act.watch Watched s held m m₁ after

theorem watchKept_same (hm : m = none ∨ m = held) (hok : Watched held w')
    (hchain : Chain (Act.watch s.thread.kind) s.outcome.next m m₁) (hspawn : s.outcome.spawn = []) :
    WatchKept s held m m₁ := by
  refine ⟨m, hchain, by simp [hspawn], ?_⟩
  obtain rfl | rfl := hm
  · exact .inl ⟨rfl, rfl, hok⟩
  · cases m with
    | none => exact .inl ⟨rfl, rfl, hok⟩
    | some x => exact .inr ⟨.inl rfl, hok⟩

theorem watchKept_inside {x : Watch} (hm : m = some x) (after : Option Watch)
    (hok : Watched after w') (hchain : Chain (Act.watch s.thread.kind) s.outcome.next after m₁)
    (hspawn : s.outcome.spawn = []) : WatchKept s held m m₁ :=
  ⟨after, hchain, by simp [hspawn], .inr ⟨.inl (by rw [hm]; rfl), hok⟩⟩

theorem held_of {x : Watch} (hm : m = none ∨ m = held) (hx : m = some x) : held = some x := by
  obtain hnone | heq := hm
  · rw [hnone] at hx
    cases hx
  · rw [← heq]
    exact hx

-- Acts that are none of the worker's business.
theorem watchKept_calm (hm : m = none ∨ m = held) (hok : Watched held w)
    (hk : s.thread.kind ≠ .keepaliveWorker) (hsame : SameWorker w.shared s.outcome.shared)
    (hnext : Chain (Act.watch s.thread.kind) s.outcome.next m m₁) (hspawn : s.outcome.spawn = []) :
    WatchKept s held m m₁ := by
  refine watchKept_same hm (hok.calm s hk hspawn ?_) hnext hspawn
  rw [s.shared_after]
  exact hsame

-- The holder goes on in another mode, the workers being as they were.
theorem Watched.move {m' : Option Watch} (h : Watched m w) (s : System.ActStep driver w i choice w')
    (hk : s.thread.kind ≠ .keepaliveWorker) (hspawn : s.outcome.spawn = [])
    (hgate : w'.shared.gateHeld = m'.isSome)
    (hthread : w'.shared.keepalive.thread = w.shared.keepalive.thread ∨
      w'.shared.keepalive.thread = none ∧ ∀ t ∈ w.threads, t.kind = .keepaliveWorker → t.todo = [])
    (hquiet : m' = none ∨ m' = some .quiet → ∀ t ∈ w.threads, t.kind = .keepaliveWorker →
      Loops t.todo → w'.shared.keepalive.running = true)
    (hsignalled : m' = some .signalled → w'.shared.keepalive.stop = true)
    (hstarting : m' = some .starting → ∀ t ∈ w.threads, t.kind = .keepaliveWorker → ¬Loops t.todo)
    (hjoined : m' = some .joined → w'.shared.keepalive.thread = none)
    (hpublished : m' = some .published →
      w'.shared.keepalive.thread = none ∧ w'.shared.keepalive.running = true) : Watched m' w' where
  gate := hgate
  one j t ht hkind htodo := by
    have hold := workers_after s hk hspawn ht hkind
    obtain hsame | ⟨-, hended⟩ := hthread
    · rw [hsame]
      exact h.one j t hold hkind htodo
    · exact absurd (hended t (List.mem_of_getElem? hold) hkind) htodo
  kept j hj := by
    obtain hsame | ⟨hnone, -⟩ := hthread
    · exact h.kept_worker s (hsame.symm.trans hj)
    · rw [hnone] at hj
      cases hj
  shaped t ht hkind := h.shaped t (mem_workers_after s hk hspawn ht hkind) hkind
  quiet hm t ht hkind hl := hquiet hm t (mem_workers_after s hk hspawn ht hkind) hkind hl
  signalled := hsignalled
  starting hm t ht hkind := hstarting hm t (mem_workers_after s hk hspawn ht hkind) hkind
  joined := hjoined
  published := hpublished

theorem watchKept_lock (hact : s.act = .lockLifetime) (hm : m = none ∨ m = held)
    (hok : Watched held w) (hk : s.thread.kind ≠ .keepaliveWorker)
    (hspec : Act.watch s.thread.kind .lockLifetime m m₁) : WatchKept s held m m₁ := by
  obtain ⟨rfl, rfl⟩ := hspec
  have hexec : s.act.exec w.threads w.shared s.thread.kind s.thread.regs choice = some s.outcome :=
    s.exec
  rw [hact] at hexec
  simp only [Act.exec] at hexec
  split at hexec
  · cases hexec
  · rename_i hgate
    have hfree : held = none := by
      have hheld := hok.gate
      cases held with
      | none => rfl
      | some x => exact absurd hheld (by simpa using hgate)
    have ho := (Option.some.inj hexec).symm
    have hspawn : s.outcome.spawn = [] := by rw [ho]; rfl
    subst hfree
    have hafter : w'.shared = { w.shared with gateHeld := true } := by
      rw [s.shared_after, ho]
      rfl
    refine ⟨some .quiet, by rw [ho]; rfl, by simp [hspawn], .inr ⟨.inr rfl, ?_⟩⟩
    refine hok.move s hk hspawn ?_ (.inl ?_) (fun _ t ht hkind hl => ?_)
      (by simp) (by simp) (by simp) (by simp)
    · rw [hafter]
      rfl
    · rw [hafter]
    · rw [hafter]
      exact hok.quiet (.inl rfl) t ht hkind hl

theorem watchKept_unlock (hact : s.act = .unlockLifetime) (hm : m = none ∨ m = held)
    (hok : Watched held w) (hk : s.thread.kind ≠ .keepaliveWorker)
    (hspec : Act.watch s.thread.kind .unlockLifetime m m₁) : WatchKept s held m m₁ := by
  obtain ⟨hmode, rfl⟩ := hspec
  have hexec : s.act.exec w.threads w.shared s.thread.kind s.thread.regs choice = some s.outcome :=
    s.exec
  rw [hact] at hexec
  have ho := (Option.some.inj hexec).symm
  have hspawn : s.outcome.spawn = [] := by rw [ho]; rfl
  have hafter : w'.shared = { w.shared with gateHeld := false } := by
    rw [s.shared_after, ho]
    rfl
  have hheld : m = held := by
    obtain rfl | heq := hm
    · obtain hmode | hmode := hmode <;> cases hmode
    · exact heq
  obtain ⟨x, hx⟩ : ∃ x, m = some x := by
    obtain hmode | hmode := hmode <;> exact ⟨_, hmode⟩
  refine watchKept_inside hx none ?_ (by rw [ho]; rfl) hspawn
  refine hok.move s hk hspawn (by rw [hafter]; rfl) (.inl (by rw [hafter]))
    (fun _ t ht hkind hl => ?_) (by simp) (by simp) (by simp) (by simp)
  rw [hafter]
  obtain hquiet | hjoined := hmode
  · exact hok.quiet (.inr (hheld ▸ hquiet)) t ht hkind hl
  · rw [hok.ended (hok.joined (hheld ▸ hjoined)) ht hkind] at hl
    exact absurd hl not_loops_nil

theorem exec_of_act {a : Act} (hact : s.act = a) :
    a.exec w.threads w.shared s.thread.kind s.thread.regs choice = some s.outcome := by
  rw [← hact]
  exact s.exec

-- A section: with an input the old worker has ended, or is about to.
theorem watchKept_slot {id : ControllerId} {step : SlotStep} (hact : s.act = .slot id step)
    (hm : m = none ∨ m = held) (hok : Watched held w) (hk : s.thread.kind ≠ .keepaliveWorker)
    (hspec : Act.watch s.thread.kind (.slot id step) m m₁) : WatchKept s held m m₁ := by
  obtain ⟨rfl, hinput⟩ := hspec
  have ho := (Option.some.inj (exec_of_act hact)).symm
  generalize hr : step.run (w.shared.sectionOf id choice.now) (w.shared.controllers id).data = r at ho
  have hspawn : s.outcome.spawn = [] := by rw [ho]; rfl
  have hshared : s.outcome.shared = w.shared.afterSection id r choice.now := by
    rw [ho, ← hr]
    rfl
  have hnext : s.outcome.next = w.shared.nextActs id r := by
    rw [ho, ← hr]
    rfl
  have hrest {x : Option Watch} : Chain (Act.watch s.thread.kind)
      ((if r.submit then w.shared.submission id r.status.isSome else []) ++ r.next.map (.slot id))
      x x := by
    refine chain_unwatched fun a ha => ?_
    obtain hsubmit | hgoes := List.mem_append.1 ha
    · split at hsubmit
      · exact unwatched_submission id _ a hsubmit
      · cases hsubmit
    · obtain ⟨next, hnext, rfl⟩ := List.mem_map.1 hgoes
      rw [← hr] at hnext
      simp only [Act.unwatched, isInput_of_rank hnext, Bool.not_false]
  cases hstart : r.startKeepalive with
  | false =>
    refine watchKept_calm hm hok hk ?_ ?_ hspawn
    · rw [hshared]
      exact sameWorker_section id r choice.now hstart
    · rw [hnext]
      simp only [Device.nextActs, hstart, Bool.false_eq_true, if_false, List.nil_append]
      exact hrest
  | true =>
    have hstep : step.isInput = true := by
      cases hno : step.isInput with
      | true => rfl
      | false =>
        rw [← hr, (descends_run hno).calm] at hstart
        cases hstart
    have hquiet := hinput hstep
    have hheld : held = some .quiet := held_of hm hquiet
    -- It wants a worker because none runs.
    have hidle : w.shared.keepalive.running = false := by
      cases step with
      | input owner request =>
        have hwants : (w.shared.sectionOf id choice.now).wantsKeepalive = true := by
          rw [← hr] at hstart
          simp only [SlotStep.run, Section.input] at hstart
          repeat' split at hstart
          all_goals first | exact hstart | cases hstart
        simp only [Section.wantsKeepalive, Bool.and_eq_true, Bool.not_eq_true'] at hwants
        exact hwants.2
      | _ => cases hstep
    have hsame : (s.outcome.shared.keepalive.thread = w.shared.keepalive.thread) ∧
        s.outcome.shared.gateHeld = w.shared.gateHeld := by
      rw [hshared]
      unfold Device.afterSection Device.arm
      simp only [hstart, if_true]
      repeat' split
      all_goals exact ⟨rfl, rfl⟩
    refine watchKept_inside hquiet (some .starting) ?_ ?_ hspawn
    · refine hok.move s hk hspawn ?_ (.inl ?_) (by simp) (by simp) (fun _ t ht hkind hl => ?_)
        (by simp) (by simp)
      · rw [s.shared_after, hsame.2, hok.gate, hheld]
        rfl
      · rw [s.shared_after]
        exact hsame.1
      · have hrunning := hok.quiet (.inr hheld) t ht hkind hl
        rw [hidle] at hrunning
        cases hrunning
    · rw [hnext, hquiet]
      simp only [Device.nextActs, hstart, if_true, List.append_assoc]
      exact chain_startWorker.append hrest

-- A stop makes the worker end before anybody waits for it.
theorem watchKept_power {act : PowerAct} (hact : s.act = .power act)
    (hm : m = none ∨ m = held) (hok : Watched held w) (hk : s.thread.kind ≠ .keepaliveWorker)
    (hspec : Act.watch s.thread.kind (.power act) m m₁) : WatchKept s held m m₁ := by
  have ho := (Option.some.inj (exec_of_act hact)).symm
  have hspawn : s.outcome.spawn = [] := by
    rw [ho]
    cases act <;> rfl
  have hstopping {front : List Act} (hfront : ∀ a ∈ front, a.unwatched = true) :
      Chain (Act.watch s.thread.kind) (front ++ stopKeepalive) (some .stopping) (some .joined) :=
    (chain_unwatched hfront).append chain_stopWorker
  have htimer : SameWorker w.shared.stopTimer w.shared.stopTimer.stopKeyboardMouseAdmission :=
    sameWorker_stopAdmission
  have hmark (hquiet : m = some .quiet) (hnext : Chain (Act.watch s.thread.kind) s.outcome.next
      (some .stopping) m₁) (hgate : s.outcome.shared.gateHeld = w.shared.gateHeld)
      (hthread : s.outcome.shared.keepalive.thread = w.shared.keepalive.thread) :
      WatchKept s held m m₁ := by
    have hheld : held = some .quiet := held_of hm hquiet
    refine watchKept_inside hquiet (some .stopping) ?_ hnext hspawn
    refine hok.move s hk hspawn ?_ (.inl ?_) (by simp) (by simp) (by simp) (by simp) (by simp)
    · rw [s.shared_after, hgate, hok.gate, hheld]
      rfl
    · rw [s.shared_after]
      exact hthread
  cases act with
  | stopMark forgetTarget =>
    obtain ⟨hquiet, rfl⟩ := hspec
    refine hmark hquiet ?_ ?_ ?_
    · rw [ho]
      exact (chain_unwatched (unwatched_deleteStopped false)).append (.single ⟨rfl, rfl⟩)
    · rw [ho]
      exact htimer.gate
    · rw [ho]
      exact htimer.thread
  | downMark =>
    obtain ⟨hquiet, rfl⟩ := hspec
    refine hmark hquiet ?_ ?_ ?_
    · rw [ho]
      simp only [PowerAct.exec, Device.effect]
      have hfront : ∀ a ∈ deleteStoppedKeyboardMouse true ++
          [Act.power (.downDetach fun id => (w.shared.controllers id).poweredDown)],
          a.unwatched = true := by
        simp [deleteStoppedKeyboardMouse, Act.unwatched]
      have hback : ∀ a ∈ deleteCollected (fun id => (w.shared.controllers id).poweredDown)
          (fun _ => []) ++ [Act.power (.downFinish fun id => (w.shared.controllers id).poweredDown)],
          a.unwatched = true := by
        intro a ha
        obtain hdelete | hfinish := List.mem_append.1 ha
        · exact unwatched_deleteCollected _ (fun _ => List.forall_mem_nil _) a hdelete
        · rw [List.mem_singleton.1 hfinish]
          rfl
      have hchain := (hstopping hfront).append (chain_unwatched (k := s.thread.kind) hback)
      simpa only [List.append_assoc] using hchain
    · rw [ho]
      exact htimer.gate
    · rw [ho]
      exact htimer.thread
  | stopCollect forgetTarget =>
    obtain ⟨hstopping', rfl⟩ := hspec
    have hheld : held = some .stopping := held_of hm hstopping'
    refine watchKept_inside hstopping' (some .stopping) ?_ ?_ hspawn
    · rw [← hheld]
      refine hok.calm s hk hspawn ?_
      rw [s.shared_after, ho]
      exact .of_eq rfl rfl
    · rw [ho]
      exact hstopping (unwatched_deleteCollected _ fun id a ha => by
        rw [List.mem_singleton.1 ha]
        rfl)
  | prepare =>
    obtain rfl : m₁ = m := hspec
    refine watchKept_calm hm hok hk ?_ ?_ hspawn
    · rw [ho]
      exact .of_eq rfl rfl
    · rw [ho]
      exact chain_unwatched (by simp [PowerAct.exec, Device.effect, targetOpen, Act.unwatched])
  | _ =>
    obtain rfl : m₁ = m := hspec
    refine watchKept_calm hm hok hk ?_ ?_ hspawn
    · rw [ho]
      exact .of_eq rfl rfl
    · rw [ho]
      rfl

theorem watchKept_create {id : ControllerId} {owner : File} {profile : Profile} {act : CreateAct}
    (hact : s.act = .create id owner profile act) (hm : m = none ∨ m = held) (hok : Watched held w)
    (hk : s.thread.kind ≠ .keepaliveWorker)
    (hspec : Act.watch s.thread.kind (.create id owner profile act) m m₁) :
    WatchKept s held m m₁ := by
  have hspawn := spawn_nil (k := s.thread.kind) (by simp [hact]) s.exec
  have ho := (Option.some.inj (exec_of_act hact)).symm
  have hsame : SameWorker w.shared s.outcome.shared := by
    rw [ho]
    exact sameWorker_create act
  refine watchKept_calm hm hok hk hsame ?_ hspawn
  rw [ho]
  cases act with
  | check =>
    obtain ⟨rfl, rfl⟩ := hspec
    simp only [CreateAct.exec]
    split
    · rfl
    · exact .single ⟨rfl, rfl⟩
  | enumerate generation =>
    obtain ⟨rfl, rfl⟩ := hspec
    exact chain_gated_unwatched
      (a := .create id owner profile (.begin generation choice.childPresent)) rfl
  | _ =>
    obtain rfl : m₁ = m := hspec
    exact chain_unwatched (unwatched_create rfl)

theorem watchKept_destroy {id : ControllerId} {owner : File} {act : DestroyAct}
    (hact : s.act = .destroy id owner act) (hm : m = none ∨ m = held) (hok : Watched held w)
    (hk : s.thread.kind ≠ .keepaliveWorker)
    (hspec : Act.watch s.thread.kind (.destroy id owner act) m m₁) : WatchKept s held m m₁ := by
  have hspawn := spawn_nil (k := s.thread.kind) (by simp [hact]) s.exec
  have ho := (Option.some.inj (exec_of_act hact)).symm
  have hsame : SameWorker w.shared s.outcome.shared := by
    rw [ho]
    exact sameWorker_destroy act
  refine watchKept_calm hm hok hk hsame ?_ hspawn
  rw [ho]
  cases act with
  | check =>
    obtain ⟨rfl, rfl⟩ := hspec
    simp only [DestroyAct.exec]
    repeat' split
    · rfl
    · rfl
    · exact chain_gated_unwatched (a := .destroy id owner .detach) rfl
  | _ =>
    obtain rfl : m₁ = m := hspec
    exact chain_unwatched (unwatched_destroy rfl)

theorem watchKept_keyboardMouse {act : KeyboardMouseAct} (hact : s.act = .keyboardMouse act)
    (hm : m = none ∨ m = held) (hok : Watched held w) (hk : s.thread.kind ≠ .keepaliveWorker)
    (hspec : Act.watch s.thread.kind (.keyboardMouse act) m m₁) : WatchKept s held m m₁ := by
  have hspawn := spawn_nil (k := s.thread.kind) (by simp [hact]) s.exec
  have hexec : act.exec w.shared s.thread.regs choice = some s.outcome := exec_of_act hact
  exact watchKept_calm hm hok hk (sameWorker_keyboardMouse hexec) (chain_watch_keyboardMouse hspec hexec)
    hspawn

-- Joining the worker, and the three steps in which another one is started.
theorem watchKept_keepalive {act : KeepaliveAct} (hact : s.act = .keepalive act)
    (hm : m = none ∨ m = held) (hok : Watched held w) (hk : s.thread.kind ≠ .keepaliveWorker)
    (hspec : Act.watch s.thread.kind (.keepalive act) m m₁) : WatchKept s held m m₁ := by
  have hexec : act.exec w.threads w.shared s.thread.regs choice = some s.outcome := exec_of_act hact
  have hgate (x y : Watch) (hx : held = some x) (hsame : s.outcome.shared.gateHeld = w.shared.gateHeld) :
      w'.shared.gateHeld = (some y).isSome := by
    rw [s.shared_after, hsame, hok.gate, hx]
    rfl
  cases act with
  | wait | tick | workerExit => exact absurd hspec.1 hk
  | cancel =>
    obtain ⟨rfl, -⟩ := hspec
    have ho := (Option.some.inj hexec).symm
    refine watchKept_calm hm hok hk ?_ (by rw [ho]; rfl) (by rw [ho]; rfl)
    rw [ho]
    exact ⟨rfl, rfl, rfl, rfl⟩
  | signalStop =>
    obtain ⟨hstopping, rfl⟩ := hspec
    have ho := (Option.some.inj hexec).symm
    have hspawn : s.outcome.spawn = [] := by rw [ho]; rfl
    refine watchKept_inside hstopping (some .signalled) ?_ (by rw [ho]; rfl) hspawn
    refine hok.move s hk hspawn (hgate _ _ (held_of hm hstopping) (by rw [ho]; rfl)) (.inl ?_)
      (by simp) (fun _ => ?_) (by simp) (by simp) (by simp)
    · rw [s.shared_after, ho]
      rfl
    · rw [s.shared_after, ho]
      rfl
  | join =>
    obtain ⟨hmode, rfl⟩ := hspec
    obtain ⟨x, hx⟩ : ∃ x, m = some x := by
      obtain hmode | hmode := hmode <;> exact ⟨_, hmode⟩
    have hheld := held_of hm hx
    -- Whoever was kept has ended.
    have hended : ∀ t ∈ w.threads, t.kind = .keepaliveWorker → t.todo = [] := by
      intro t ht hkind
      simp only [KeepaliveAct.exec] at hexec
      split at hexec
      · rename_i hnone
        exact hok.ended hnone ht hkind
      · rename_i thread hthread
        split at hexec
        · rename_i hfinished
          obtain ⟨j, hj⟩ := List.mem_iff_getElem?.1 ht
          by_contra htodo
          have hkept := hok.one j t hj hkind htodo
          obtain rfl : thread = j := Option.some.inj (hthread.symm.trans hkept)
          simp only [finished, hj, List.isEmpty_iff] at hfinished
          exact htodo hfinished
        · cases hexec
    have ho : s.outcome.next = [] ∧ s.outcome.spawn = [] ∧
        s.outcome.shared.gateHeld = w.shared.gateHeld ∧ s.outcome.shared.keepalive.thread = none := by
      simp only [KeepaliveAct.exec] at hexec
      split at hexec
      · rename_i hnone
        rw [← Option.some.inj hexec]
        exact ⟨rfl, rfl, rfl, hnone⟩
      · split at hexec
        · rw [← Option.some.inj hexec]
          exact ⟨rfl, rfl, rfl, rfl⟩
        · cases hexec
    obtain ⟨hnext, hspawn, hsame, hthread⟩ := ho
    have hafter : w'.shared.keepalive.thread = none := by
      rw [s.shared_after]
      exact hthread
    refine watchKept_inside hx (some .joined) ?_ (by rw [hnext]; rfl) hspawn
    exact hok.move s hk hspawn (hgate _ _ hheld hsame) (.inr ⟨hafter, hended⟩) (by simp) (by simp)
      (by simp) (fun _ => hafter) (by simp)
  | publishStart =>
    obtain ⟨hjoined, rfl⟩ := hspec
    have ho := (Option.some.inj hexec).symm
    have hspawn : s.outcome.spawn = [] := by rw [ho]; rfl
    have hheld := held_of hm hjoined
    have hthread : s.outcome.shared.keepalive.thread = none := by
      rw [ho]
      exact hok.joined hheld
    refine watchKept_inside hjoined (some .published) ?_ (by rw [ho]; rfl) hspawn
    refine hok.move s hk hspawn (hgate _ _ hheld (by rw [ho]; rfl)) (.inl ?_) (by simp) (by simp)
      (by simp) (by simp)
      (fun _ => ⟨?_, ?_⟩)
    · rw [s.shared_after, ho]
      rfl
    · rw [s.shared_after]
      exact hthread
    · rw [s.shared_after, ho]
      rfl
  | resetStop =>
    obtain ⟨hpublished, rfl⟩ := hspec
    have ho := (Option.some.inj hexec).symm
    have hspawn : s.outcome.spawn = [] := by rw [ho]; rfl
    have hheld := held_of hm hpublished
    refine watchKept_inside hpublished (some .published) ?_ (by rw [ho]; rfl) hspawn
    refine hok.move s hk hspawn (hgate _ _ hheld (by rw [ho]; rfl)) (.inl ?_) (by simp) (by simp)
      (by simp) (by simp)
      (fun _ => ?_)
    · rw [s.shared_after, ho]
      rfl
    · rw [s.shared_after, ho]
      exact hok.published hheld
  | armFirst =>
    obtain ⟨hpublished, rfl⟩ := hspec
    have hheld := held_of hm hpublished
    simp only [KeepaliveAct.exec] at hexec
    split at hexec
    all_goals
      have ho := (Option.some.inj hexec).symm
      have hspawn : s.outcome.spawn = [] := by rw [ho]; rfl
      have hsame : SameWorker w.shared w'.shared := by
        rw [s.shared_after, ho]
        exact ⟨rfl, rfl, rfl, rfl⟩
      have hafter : Watched (some .published) w' := by
        rw [← hheld]
        exact hok.calm s hk hspawn hsame
      refine watchKept_inside hpublished _ hafter ?_ hspawn
      rw [ho]
      exact .single ⟨rfl, rfl⟩
  | startFailed =>
    obtain ⟨hpublished, rfl⟩ := hspec
    have ho := (Option.some.inj hexec).symm
    have hspawn : s.outcome.spawn = [] := by rw [ho]; rfl
    have hheld := held_of hm hpublished
    refine watchKept_inside hpublished (some .quiet) ?_ (by rw [ho]; rfl) hspawn
    refine hok.move s hk hspawn (hgate _ _ hheld (by rw [ho]; rfl)) (.inl ?_)
      (fun _ t ht hkind hl => ?_) (by simp) (by simp) (by simp) (by simp)
    · rw [s.shared_after, ho]
      rfl
    · rw [hok.ended (hok.published hheld).1 ht hkind] at hl
      exact absurd hl not_loops_nil
  | createWorker =>
    obtain ⟨hpublished, rfl⟩ := hspec
    have hheld := held_of hm hpublished
    obtain ⟨hnone, hrunning⟩ := hok.published hheld
    simp only [KeepaliveAct.exec] at hexec
    split at hexec
    · have ho := (Option.some.inj hexec).symm
      have hshared : w'.shared = { w.shared with
          keepalive := { w.shared.keepalive with thread := some w.threads.length } } := by
        rw [s.shared_after, ho]
      -- The only worker that has not ended is the new one.
      have hcases (j : Nat) (t : Task) (ht : w'.threads[j]? = some t)
          (hkind : t.kind = .keepaliveWorker) : t.todo = [] ∨
            j = w.threads.length ∧ t = ⟨.keepaliveWorker, .initial, [.keepalive .wait]⟩ := by
        have hlen : (w.threads.set i (s.outcome.thread s.thread s.rest)).length = w.threads.length :=
          List.length_set
        rw [s.threads_after, ho] at ht
        by_cases hj : j < w.threads.length
        · rw [List.getElem?_append_left (by simpa using hj)] at ht
          by_cases hji : j = i
          · subst hji
            rw [List.getElem?_set_self s.lt_length] at ht
            obtain rfl := (Option.some.inj ht).symm
            exact absurd hkind hk
          · rw [List.getElem?_set_ne (Ne.symm hji)] at ht
            exact .inl (hok.ended hnone (List.mem_of_getElem? ht) hkind)
        · rw [List.getElem?_append_right (by simpa using hj)] at ht
          simp only [List.length_set] at ht
          obtain ⟨hzero, ht⟩ := List.getElem?_eq_some_iff.1 ht
          simp only [List.length_singleton] at hzero
          have hjlen : j = w.threads.length := by omega
          refine .inr ⟨hjlen, ?_⟩
          subst hjlen
          simpa using ht.symm
      refine ⟨some .quiet, by rw [ho]; rfl, ?_, .inr ⟨.inl (by rw [hpublished]; rfl), ?_⟩⟩
      · rw [ho]
        intro t ht
        rw [List.mem_singleton.1 ht]
        exact .single ⟨rfl, rfl, rfl⟩
      · refine ⟨?_, fun j t ht hkind htodo => ?_, fun j hj => ?_, fun t ht hkind => ?_,
          fun _ t ht hkind hl => ?_, (by simp), (by simp), (by simp), (by simp)⟩
        · rw [hshared]
          exact hok.gate.trans (by rw [hheld]; rfl)
        · obtain hended | ⟨hj, -⟩ := hcases j t ht hkind
          · exact absurd hended htodo
          · rw [hshared, hj]
        · rw [hshared] at hj
          obtain rfl := Option.some.inj hj
          refine ⟨⟨.keepaliveWorker, .initial, [.keepalive .wait]⟩, ?_, rfl⟩
          rw [s.threads_after, ho, List.getElem?_append_right (by simp)]
          simp
        · obtain ⟨j, hj⟩ := List.mem_iff_getElem?.1 ht
          obtain hended | ⟨-, rfl⟩ := hcases j t hj hkind
          · rw [hended]
            exact .done
          · exact .waiting
        · rw [hshared]
          exact hrunning
    · have ho := (Option.some.inj hexec).symm
      have hspawn : s.outcome.spawn = [] := by rw [ho]; rfl
      have hafter : Watched (some .published) w' := by
        rw [← hheld]
        refine hok.calm s hk hspawn ?_
        rw [s.shared_after, ho]
        exact ⟨rfl, rfl, rfl, rfl⟩
      refine watchKept_inside hpublished _ hafter ?_ hspawn
      rw [ho]
      exact ⟨some .published, ⟨rfl, .inr (.inr rfl)⟩, .single ⟨rfl, rfl⟩⟩

theorem working_submissions {acts rest : List Act} (h : ∀ a ∈ acts, a.submission.isSome = true)
    (hrest : Working rest) : Working (acts ++ rest) := by
  induction acts with
  | nil => exact hrest
  | cons a acts ih =>
    exact .submitting a _ (h a List.mem_cons_self) (ih fun b hb => h b (List.mem_cons_of_mem _ hb))

theorem isSome_submission {d : Device} (id : ControllerId) (answers : Bool) :
    ∀ a ∈ d.submission id answers, a.submission.isSome = true := by
  intro a ha
  obtain ⟨handle, -, rfl⟩ := submission_handle ha
  rfl

-- What a tick submits, and how the worker goes on.
theorem working_tick (d : Device) (now : UInt64) : Working
    ((List.finRange maxControllers).flatMap (fun id =>
      if (d.keepaliveResult now id).submit then d.submission id false else []) ++
      (if d.anyActive now then [.keepalive .wait]
        else [.keepalive .cancel, .keepalive .workerExit])) := by
  refine working_submissions (fun a ha => ?_) ?_
  · obtain ⟨id, -, ha⟩ := List.mem_flatMap.1 ha
    split at ha
    · exact isSome_submission id false a ha
    · cases ha
  · split
    · exact .waiting
    · exact .cancelling

theorem unwatched_of_submission {a : Act} (h : a.submission.isSome = true) : a.unwatched = true := by
  cases a <;> first | rfl | cases h

theorem loops_submissions {acts rest : List Act} (h : ∀ a ∈ acts, a.submission.isSome = true)
    (hl : Loops (acts ++ rest)) : Loops rest := by
  have hno (a : Act) (ha : a.submission = none) : a ∉ acts := fun hmem => by
    have hsome := h a hmem
    rw [ha] at hsome
    cases hsome
  obtain hwait | htick := hl
  · exact .inl ((List.mem_append.1 hwait).resolve_left (hno _ rfl))
  · exact .inr ((List.mem_append.1 htick).resolve_left (hno _ rfl))

theorem sameWorker_tick (d : Device) (now : UInt64) :
    (d.keepaliveTick now).gateHeld = d.gateHeld ∧
      (d.keepaliveTick now).keepalive.thread = d.keepalive.thread ∧
      (d.keepaliveTick now).keepalive.stop = d.keepalive.stop ∧
      (d.anyActive now = true → (d.keepaliveTick now).keepalive.running = d.keepalive.running) := by
  unfold Device.keepaliveTick Device.arm
  dsimp only
  split
  · rename_i hactive
    refine ⟨rfl, rfl, rfl, fun h => ?_⟩
    rw [h] at hactive
    cases hactive
  · repeat' split
    all_goals exact ⟨rfl, rfl, rfl, fun _ => rfl⟩

-- The worker's own acts.
theorem watchKept_worker (hm : m = none ∨ m = held) (hok : Watched held w)
    (hk : s.thread.kind = .keepaliveWorker) (hspec : s.act.watch s.thread.kind m m₁) :
    WatchKept s held m m₁ := by
  have hworking := hok.shaped s.thread s.mem hk
  have hloops {a : Act} (ha : a = .keepalive .wait ∨ a = .keepalive .tick) (hact : s.act = a) :
      Loops s.thread.todo := by
    rw [s.todo, hact]
    obtain rfl | rfl := ha
    · exact .inl List.mem_cons_self
    · exact .inr List.mem_cons_self
  rw [s.todo] at hworking
  generalize htodo : s.act :: s.rest = todo at hworking
  cases hworking with
  | done => cases htodo
  | submitting a rest hsubmits hrest =>
    obtain ⟨hact, hrest'⟩ := List.cons_eq_cons.1 htodo
    cases a with
    | submitEnter id handle answers =>
      have ho := (Option.some.inj (exec_of_act hact)).symm
      have hspawn : s.outcome.spawn = [] := by rw [ho]; rfl
      have hnext : s.outcome.next = [.submitLeave id handle answers] := by rw [ho]; rfl
      have hshared : w'.shared = w.shared := by
        rw [s.shared_after, ho]
        rfl
      rw [hact] at hspec
      obtain rfl : m₁ = m := hspec
      refine watchKept_same hm ?_ (by rw [hnext]; exact .single rfl) hspawn
      refine hok.worker s hk hspawn ?_ (by rw [hshared]) (by rw [hshared]) (by rw [hshared])
        fun hl => ⟨?_, by rw [hshared]⟩
      · rw [hnext, hrest']
        exact .submitting _ _ rfl hrest
      · rw [s.todo, hact]
        rw [hnext] at hl
        have hrest := @loops_submissions [.submitLeave id handle answers] _ (by simp [Act.submission]) hl
        obtain hwait | htick := hrest
        · exact .inl (List.mem_cons_of_mem _ hwait)
        · exact .inr (List.mem_cons_of_mem _ htick)
    | submitLeave id handle answers =>
      have ho := (Option.some.inj (exec_of_act hact)).symm
      have hspawn : s.outcome.spawn = [] := by rw [ho]; rfl
      have hnext : s.outcome.next = [] := by rw [ho]; rfl
      have hsame : SameWorker w.shared w'.shared := by
        rw [s.shared_after, ho]
        exact .of_eq rfl rfl
      rw [hact] at hspec
      obtain rfl : m₁ = m := hspec
      refine watchKept_same hm ?_ (by rw [hnext]; rfl) hspawn
      refine hok.worker s hk hspawn ?_ hsame.gate hsame.thread hsame.stop
        fun hl => ⟨?_, hsame.running⟩
      · rw [hnext, hrest']
        exact hrest
      · rw [s.todo]
        rw [hnext] at hl
        obtain hwait | htick := hl
        · exact .inl (List.mem_cons_of_mem _ hwait)
        · exact .inr (List.mem_cons_of_mem _ htick)
    | _ => cases hsubmits
  | waiting =>
    obtain ⟨hact, hrest⟩ := List.cons_eq_cons.1 htodo
    rw [hact] at hspec
    obtain ⟨-, rfl, rfl⟩ := hspec
    have hexec : KeepaliveAct.exec w.threads w.shared s.thread.regs choice .wait = some s.outcome :=
      exec_of_act hact
    simp only [KeepaliveAct.exec] at hexec
    repeat' split at hexec
    · have ho := (Option.some.inj hexec).symm
      have hspawn : s.outcome.spawn = [] := by rw [ho]; rfl
      have hsame : SameWorker w.shared w'.shared := by
        rw [s.shared_after, ho]
        exact .of_eq rfl rfl
      have hleaves : Chain (Act.watch s.thread.kind)
          [.keepalive .cancel, .keepalive .workerExit] none none :=
        ⟨none, ⟨rfl, .inl ⟨hk, rfl⟩⟩, .single ⟨hk, rfl, rfl⟩⟩
      refine watchKept_same hm ?_ (by rw [ho]; exact hleaves) hspawn
      refine hok.worker s hk hspawn ?_ hsame.gate hsame.thread hsame.stop
        fun _ => ⟨hloops (.inl rfl) hact, hsame.running⟩
      rw [ho, hrest]
      exact .cancelling
    · have ho := (Option.some.inj hexec).symm
      have hspawn : s.outcome.spawn = [] := by rw [ho]; rfl
      have hsame : SameWorker w.shared w'.shared := by
        rw [s.shared_after, ho]
        exact ⟨rfl, rfl, rfl, rfl⟩
      refine watchKept_same hm ?_ (by rw [ho]; exact .single ⟨hk, rfl, rfl⟩) hspawn
      refine hok.worker s hk hspawn ?_ hsame.gate hsame.thread hsame.stop
        fun _ => ⟨hloops (.inl rfl) hact, hsame.running⟩
      rw [ho, hrest]
      exact .ticking
    · cases hexec
  | ticking =>
    obtain ⟨hact, hrest⟩ := List.cons_eq_cons.1 htodo
    rw [hact] at hspec
    obtain ⟨-, rfl, rfl⟩ := hspec
    have ho := (Option.some.inj (exec_of_act hact)).symm
    have hspawn : s.outcome.spawn = [] := by rw [ho]; rfl
    obtain ⟨hgate, hthread, hstop, hrunning⟩ := sameWorker_tick w.shared choice.now
    have hshared : w'.shared = w.shared.keepaliveTick choice.now := by
      rw [s.shared_after, ho]
      rfl
    have hnext : s.outcome.next = (List.finRange maxControllers).flatMap (fun id =>
        if (w.shared.keepaliveResult choice.now id).submit then w.shared.submission id false
          else []) ++ (if w.shared.anyActive choice.now then [.keepalive .wait]
            else [.keepalive .cancel, .keepalive .workerExit]) := by
      rw [ho]
      rfl
    have hsubmissions : ∀ a ∈ (List.finRange maxControllers).flatMap (fun id =>
        if (w.shared.keepaliveResult choice.now id).submit then w.shared.submission id false
          else []), a.submission.isSome = true := by
      intro a ha
      obtain ⟨id, -, ha⟩ := List.mem_flatMap.1 ha
      split at ha
      · exact isSome_submission id false a ha
      · cases ha
    refine watchKept_same hm ?_ ?_ hspawn
    · refine hok.worker s hk hspawn ?_ (hshared ▸ hgate) (hshared ▸ hthread) (hshared ▸ hstop)
        fun hl => ⟨hloops (.inr rfl) hact, ?_⟩
      · rw [hnext, hrest, List.append_nil]
        exact working_tick w.shared choice.now
      · rw [hshared]
        refine hrunning ?_
        rw [hnext, hrest, List.append_nil] at hl
        have hl := loops_submissions hsubmissions hl
        cases hactive : w.shared.anyActive choice.now with
        | true => rfl
        | false =>
          rw [hactive] at hl
          simp [Loops] at hl
    · rw [hnext]
      refine (chain_unwatched fun a ha => unwatched_of_submission (hsubmissions a ha)).append ?_
      split
      · exact .single ⟨hk, rfl, rfl⟩
      · exact ⟨none, ⟨rfl, .inl ⟨hk, rfl⟩⟩, .single ⟨hk, rfl, rfl⟩⟩
  | cancelling =>
    obtain ⟨hact, hrest⟩ := List.cons_eq_cons.1 htodo
    rw [hact] at hspec
    obtain ⟨rfl, -⟩ := hspec
    have ho := (Option.some.inj (exec_of_act hact)).symm
    have hspawn : s.outcome.spawn = [] := by rw [ho]; rfl
    have hnext : s.outcome.next = [] := by rw [ho]; rfl
    have hsame : SameWorker w.shared w'.shared := by
      rw [s.shared_after, ho]
      exact ⟨rfl, rfl, rfl, rfl⟩
    refine watchKept_same hm ?_ (by rw [hnext]; rfl) hspawn
    refine hok.worker s hk hspawn ?_ hsame.gate hsame.thread hsame.stop fun hl => ?_
    · rw [hnext, hrest]
      exact .leaving
    · rw [hnext, hrest] at hl
      simp [Loops] at hl
  | leaving =>
    obtain ⟨hact, hrest⟩ := List.cons_eq_cons.1 htodo
    rw [hact] at hspec
    obtain ⟨-, rfl, rfl⟩ := hspec
    have ho := (Option.some.inj (exec_of_act hact)).symm
    have hspawn : s.outcome.spawn = [] := by rw [ho]; rfl
    have hnext : s.outcome.next = [] := by rw [ho]; rfl
    refine watchKept_same hm ?_ (by rw [hnext]; rfl) hspawn
    refine hok.worker s hk hspawn ?_ ?_ ?_ ?_ fun hl => ?_
    · rw [hnext, hrest]
      exact .done
    · rw [s.shared_after, ho]
      rfl
    · rw [s.shared_after, ho]
      rfl
    · rw [s.shared_after, ho]
      rfl
    · rw [hnext, hrest] at hl
      exact absurd hl not_loops_nil

theorem watchKept_act (hm : m = none ∨ m = held) (hok : Watched held w)
    (hspec : s.act.watch s.thread.kind m m₁) : WatchKept s held m m₁ := by
  by_cases hk : s.thread.kind = .keepaliveWorker
  · exact watchKept_worker hm hok hk hspec
  · have hexec := s.exec
    cases hact : s.act with
    | lockLifetime => exact watchKept_lock hact hm hok hk (hact ▸ hspec)
    | unlockLifetime => exact watchKept_unlock hact hm hok hk (hact ▸ hspec)
    | slot id step => exact watchKept_slot hact hm hok hk (hact ▸ hspec)
    | create id owner profile act => exact watchKept_create hact hm hok hk (hact ▸ hspec)
    | destroy id owner act => exact watchKept_destroy hact hm hok hk (hact ▸ hspec)
    | power act => exact watchKept_power hact hm hok hk (hact ▸ hspec)
    | keepalive act => exact watchKept_keepalive hact hm hok hk (hact ▸ hspec)
    | keyboardMouse act => exact watchKept_keyboardMouse hact hm hok hk (hact ▸ hspec)
    | target act =>
      rw [hact] at hspec
      obtain rfl : m₁ = m := hspec
      have ho := (Option.some.inj (exec_of_act hact)).symm
      have hspawn := spawn_nil (k := s.thread.kind) (by simp [hact]) s.exec
      refine watchKept_calm hm hok hk (by rw [ho]; exact sameWorker_target act) ?_ hspawn
      rw [ho]
      refine chain_unwatched ?_
      cases act <;> simp only [TargetAct.exec] <;> (repeat' split) <;>
        simp [Device.effect, Act.unwatched]
    | reply status output | submitEnter id handle answers | submitLeave id handle answers
    | deleteBegin handle =>
      rw [hact] at hspec
      obtain rfl : m₁ = m := hspec
      have ho := (Option.some.inj (exec_of_act hact)).symm
      have hspawn := spawn_nil (k := s.thread.kind) (by simp [hact]) s.exec
      refine watchKept_calm hm hok hk ?_ ?_ hspawn
      · rw [ho]
        exact .of_eq rfl rfl
      · rw [ho]
        exact chain_unwatched (by simp [Device.effect, Act.unwatched])
    | waitForSubmits id =>
      rw [hact] at hspec
      obtain rfl : m₁ = m := hspec
      have hexec := exec_of_act hact
      simp only [Act.exec] at hexec
      split at hexec
      · have ho := (Option.some.inj hexec).symm
        refine watchKept_calm hm hok hk ?_ ?_ (by rw [ho]; rfl)
        · rw [ho]
          exact .of_eq rfl rfl
        · rw [ho]
          rfl
      · cases hexec
    | deleteEnd handle =>
      rw [hact] at hspec
      obtain rfl : m₁ = m := hspec
      have hexec := exec_of_act hact
      simp only [Act.exec] at hexec
      split at hexec
      · cases hexec
      · have ho := (Option.some.inj hexec).symm
        refine watchKept_calm hm hok hk ?_ ?_ (by rw [ho]; rfl)
        · rw [ho]
          exact .of_eq rfl rfl
        · rw [ho]
          rfl

end Kept

section Programs

variable {k : Operation}

theorem chain_watch_withSlot {m m' : Option Watch} {id : UInt32} {program : ControllerId → List Act}
    (hreply : m' = m) (h : ∀ id, Chain (Act.watch k) (program id) m m') :
    Chain (Act.watch k) (withSlot id program) m m' := by
  unfold withSlot
  cases ControllerId.ofRequest id with
  | none => exact .single hreply
  | some id => exact h id

theorem chain_watch_stateUpdate (owner : File) (id : UInt32) (update : StateUpdate) :
    Chain (Act.watch k) (stateUpdate owner id update) none none :=
  chain_gate (chain_watch_withSlot rfl fun _ => chain_unwatched (by simp [Act.unwatched,
    SlotStep.isInput])) (.inl rfl)

theorem chain_watch_request (owner : File) (request : Request) :
    Chain (Act.watch k) (request.program owner) none none := by
  have hreply (status : NtStatus) (output : Output) :
      Chain (Act.watch k) [.reply status output] none none := .single rfl
  have hslot (id : ControllerId) {step : SlotStep} (hstep : step.isInput = false) :
      Chain (Act.watch k) [.slot id step] none none :=
    .single ⟨rfl, fun hinput => by rw [hstep] at hinput; cases hinput⟩
  cases request with
  | query id =>
    cases id with
    | none => exact hreply _ _
    | some id => exact chain_watch_withSlot rfl fun id => hslot id rfl
  | create request =>
    refine chain_watch_withSlot rfl fun id => ?_
    split
    · exact hreply _ _
    · split
      · exact hreply _ _
      · exact .single ⟨rfl, rfl⟩
  | destroy id => exact chain_watch_withSlot rfl fun id => .single ⟨rfl, rfl⟩
  | input request =>
    refine chain_watch_withSlot rfl fun id => ?_
    split
    · exact hreply _ _
    · exact chain_gate (.single ⟨rfl, fun _ => rfl⟩) (.inl rfl)
  | touch request | motion request | battery request =>
    simp only [Request.program]
    split
    · exact hreply _ _
    · exact chain_watch_stateUpdate _ _ _
  | attributes request => exact chain_watch_withSlot rfl fun id => hslot id rfl
  | poll id => exact chain_watch_withSlot rfl fun id => hslot id rfl
  | keyboardMouse request => exact .single ⟨rfl, rfl⟩

theorem chain_watch_cleanup (owner : File) :
    Chain (Act.watch k) (keyboardMouseFileCleanup owner) none none := by
  have hintent : Chain (Act.watch k) [.keyboardMouse (.cleanupIntent owner)] none none := .single rfl
  exact hintent.append (chain_gated_unwatched (a := .keyboardMouse (.cleanupStop owner)) rfl)

theorem chain_watch_transition {intent mark : PowerAct}
    (hintent : Act.watch k (.power intent) none none)
    (hmark : Act.watch k (.power mark) (some .quiet) (some .joined)) :
    Chain (Act.watch k) (.power intent :: gated [.power mark]) none none :=
  ⟨none, hintent, chain_gate (.single hmark) (.inr rfl)⟩

theorem chain_watch_flatMap {α : Type} {f : α → List Act} {m : Option Watch} {xs : List α}
    (h : ∀ x ∈ xs, Chain (Act.watch k) (f x) m m) : Chain (Act.watch k) (xs.flatMap f) m m := by
  induction xs with
  | nil => rfl
  | cons x rest ih =>
    rw [List.flatMap_cons]
    exact (h x List.mem_cons_self).append (ih fun y hy => h y (List.mem_cons_of_mem _ hy))

theorem chain_watch_program (hk : k ≠ .keepaliveWorker) :
    Chain (Act.watch k) k.program none none := by
  cases k with
  | request owner request =>
    cases owner with
    | none => exact .single rfl
    | some owner => exact chain_watch_request owner request
  | fileCleanup owner => exact chain_watch_cleanup owner
  | fileClose owner =>
    refine (chain_watch_cleanup owner).append (chain_watch_flatMap fun id _ => ?_)
    exact chain_gated_unwatched (a := .destroy id owner .detach) rfl
  | callback id handle callback =>
    refine chain_unwatched fun a ha => ?_
    rw [List.mem_singleton.1 ha]
    cases callback <;> rfl
  | keyboardMouseReady handle context => exact chain_unwatched (by simp [Operation.program, Act.unwatched])
  | keepaliveWorker => exact absurd rfl hk
  | d0Entry => exact chain_gated_unwatched (a := .power .d0Entry) rfl
  | d0Exit => exact (@chain_watch_transition _ .downIntent .downMark rfl ⟨rfl, rfl⟩).append (.single rfl)
  | prepareHardware =>
    exact (chain_gated_unwatched (a := .power .prepare) rfl).append (.single rfl)
  | releaseHardware =>
    exact (@chain_watch_transition _ .stopIntent (.stopMark false) rfl ⟨rfl, rfl⟩).append
      (chain_gated_unwatched (a := .power .releaseTarget) rfl)
  | targetCleanup => exact @chain_watch_transition _ .stopIntent (.stopMark true) rfl ⟨rfl, rfl⟩

end Programs

-- The discipline of the worker in a world.
abbrev Attended (w : World) : Prop := Locked Act.watch Watched w

theorem watched_more {m : Option Watch} {w : World} {d : Device} {new : List Task}
    (h : Watched m w) (hsame : SameWorker w.shared d)
    (hnew : ∀ t ∈ new, t.kind ≠ .keepaliveWorker) : Watched m ⟨d, w.threads ++ new⟩ := by
  have hold (t : Task) (ht : t ∈ w.threads ++ new) (hkind : t.kind = .keepaliveWorker) :
      t ∈ w.threads :=
    (List.mem_append.1 ht).resolve_right fun hmem => hnew t hmem hkind
  refine ⟨hsame.gate.trans h.gate, fun j t ht hkind htodo => ?_, fun j hj => ?_, fun t ht hkind =>
    h.shaped t (hold t ht hkind) hkind, fun hm t ht hkind hl => ?_, fun hm =>
    hsame.stop.trans (h.signalled hm), fun hm t ht hkind => h.starting hm t (hold t ht hkind) hkind,
    fun hm => hsame.thread.trans (h.joined hm), fun hm => ⟨hsame.thread.trans (h.published hm).1,
      hsame.running.trans (h.published hm).2⟩⟩
  · by_cases hj : j < w.threads.length
    · rw [List.getElem?_append_left hj] at ht
      exact hsame.thread.trans (h.one j t ht hkind htodo)
    · rw [List.getElem?_append_right (Nat.le_of_not_lt hj)] at ht
      exact absurd hkind (hnew t (List.mem_of_getElem? ht))
  · obtain ⟨t, ht, hkind⟩ := h.kept j (hsame.thread.symm.trans hj)
    refine ⟨t, ?_, hkind⟩
    rw [List.getElem?_append_left (List.getElem?_eq_some_iff.1 ht).1]
    exact ht
  · exact hsame.running.trans (h.quiet hm t (hold t ht hkind) hkind hl)

theorem Attended.step {w w' : World} {event : Interleaving.Event Choice Stimulus} (h : Attended w)
    (hstep : driver.step w event = some w') : Attended w' := by
  cases event with
  | act i choice => exact h.act hstep fun s held m m₁ hm hok hspec => watchKept_act hm hok hspec
  | env stimulus =>
    refine h.environment hstep fun out held hout hok => ?_
    cases stimulus with
    | timerFires =>
      simp only [driver, Stimulus.run] at hout
      split at hout
      · obtain rfl := Option.some.inj hout
        exact ⟨List.forall_mem_nil _, watched_more hok ⟨rfl, rfl, rfl, rfl⟩ (List.forall_mem_nil _)⟩
      · cases hout
    | start operation =>
      simp only [driver, Stimulus.run] at hout
      split at hout
      · rename_i hmay
        obtain rfl := Option.some.inj hout
        have hkind : operation ≠ .keepaliveWorker := by
          rintro rfl
          cases hmay
        refine ⟨fun t ht => ?_, watched_more hok (.of_eq rfl rfl) fun t ht => ?_⟩
        · rw [List.mem_singleton.1 ht]
          exact chain_watch_program hkind
        · rw [List.mem_singleton.1 ht]
          exact hkind
      · cases hout

theorem Reaches.attended {keepalive : Bool} {w : World}
    (h : driver.Reaches (World.initial keepalive) w) : Attended w := by
  refine System.Reaches.invariant h (fun _ _ _ hw hstep => hw.step hstep) ⟨none, ?_, by simp, ?_⟩
  · constructor <;> simp [World.initial, Device.added, holderMode]
  · intro i t ht
    cases ht

end LibVirtualGamepad
