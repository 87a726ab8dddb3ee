import LibVirtualGamepad.Driver.Creation

-- A child is created only where no old instance was found, and what was found is
-- never out of date: no other child of the slot is created since the look for it, and
-- for the keyboard and mouse no transition of the device comes between.
namespace LibVirtualGamepad

open Interleaving

variable {keepalive : Bool} (run : driver.Run (World.initial keepalive))

-- VhfCreate is called for the place.
def CreatesAt (p : Place) (n : Nat) : Prop :=
  ∃ i choice a owner, run.Performs n i choice a ∧ a.creation = some (p, owner, .vhfCreate)

def TakenOverAt (n : Nat) : Prop := ∃ i choice a, run.Performs n i choice a ∧ a.takesOver = true

-- The generation was read at `k`.
structure Checked (p : Place) (owner : File) (i n k : Nat) (generation : UInt64) : Prop where
  before : k < n
  check : ∃ choice a, run.Performs k i choice a ∧ a.creation = some (p, owner, .check)
  generation : (run.world k).shared.generationAt p = generation
  alone : ∀ j, k ≤ j → j < n → ¬ CreatesAt run p j

-- Then the instances were enumerated, at `l`.
structure Enumerated (p : Place) (owner : File) (i n k l : Nat) (generation : UInt64)
    (childPresent : Bool) : Prop where
  checked : Checked run p owner i n k generation
  after : k < l
  before : l < n
  enumerated : ∃ choice a, run.Performs l i choice a ∧
    a.creation = some (p, owner, .enumerate generation) ∧ choice.childPresent = childPresent

-- At `m` the slot was taken, in the generation of the check and without a child found.
structure Adopted (p : Place) (owner : File) (i n k l m : Nat) (generation : UInt64) : Prop where
  enumerated : Enumerated run p owner i n k l generation false
  after : l < m
  before : m < n
  taken : ∃ choice a, run.Performs m i choice a ∧
    a.creation = some (p, owner, .begin generation false)
  generation : (run.world m).shared.generationAt p = generation
  openFor : (run.world m).shared.openFor
  undisturbed : p = .keyboardMouse → ∀ j, k ≤ j → j < n → ¬ TakenOverAt run j

variable {run} {p : Place} {owner : File} {i n k l m : Nat} {generation : UInt64}

section Later

theorem Checked.later (h : Checked run p owner i n k generation) (hn : ¬ CreatesAt run p n) :
    Checked run p owner i (n + 1) k generation where
  before := Nat.lt_succ_of_lt h.before
  check := h.check
  generation := h.generation
  alone j hk hj := by
    rcases Nat.lt_succ_iff_lt_or_eq.mp hj with hj | rfl
    · exact h.alone j hk hj
    · exact hn

theorem Enumerated.later {childPresent : Bool}
    (h : Enumerated run p owner i n k l generation childPresent) (hn : ¬ CreatesAt run p n) :
    Enumerated run p owner i (n + 1) k l generation childPresent :=
  ⟨h.checked.later hn, h.after, Nat.lt_succ_of_lt h.before, h.enumerated⟩

theorem Adopted.later (h : Adopted run p owner i n k l m generation) (hn : ¬ CreatesAt run p n)
    (hover : ¬ TakenOverAt run n) : Adopted run p owner i (n + 1) k l m generation where
  enumerated := h.enumerated.later hn
  after := h.after
  before := Nat.lt_succ_of_lt h.before
  taken := h.taken
  generation := h.generation
  openFor := h.openFor
  undisturbed hp j hk hj := by
    rcases Nat.lt_succ_iff_lt_or_eq.mp hj with hj | rfl
    · exact h.undisturbed hp j hk hj
    · exact hover

end Later

-- What is left of a thread around an act of a creation.
def Creation.Around (todo : List Act) (a : Act) : Creation → Prop
  | .asked | .check | .enumerate _ => todo = [a]
  | .begin _ _ => todo = [.lockLifetime, a, .unlockLifetime] ∨ todo = [a, .unlockLifetime]
  | .opening | .vhfCreate =>
    todo = [a, .unlockLifetime] ∨ ∃ act, todo = [.target act, a, .unlockLifetime]
  | .finishing => True

-- What is behind it.
def Creation.Past (run : driver.Run (World.initial keepalive)) (p : Place) (owner : File)
    (i n : Nat) : Creation → Prop
  | .asked | .check | .finishing => True
  | .enumerate generation => ∃ k, Checked run p owner i n k generation
  | .begin generation childPresent =>
    ∃ k l, Enumerated run p owner i n k l generation childPresent
  | .opening | .vhfCreate => ∃ k l m generation, Adopted run p owner i n k l m generation

def Creation.inside : Creation → Prop
  | .opening | .vhfCreate => True
  | _ => False

theorem Creation.Past.later {progress : Creation} (h : progress.Past run p owner i n)
    (hn : ¬ CreatesAt run p n) (hover : progress.inside → ¬ TakenOverAt run n) :
    progress.Past run p owner i (n + 1) := by
  cases progress with
  | asked | check | finishing => trivial
  | enumerate generation =>
      obtain ⟨k, h⟩ := h
      exact ⟨k, h.later hn⟩
  | «begin» generation childPresent =>
      obtain ⟨k, l, h⟩ := h
      exact ⟨k, l, h.later hn⟩
  | opening | vhfCreate =>
      obtain ⟨k, l, m, generation, h⟩ := h
      exact ⟨k, l, m, generation, h.later hn (hover trivial)⟩

-- A creation runs in a request, and there is one unfinished request at a time.
structure Creations (run : driver.Run (World.initial keepalive)) (n : Nat) : Prop where
  pending : ∀ (i : Nat) (t : Task), (run.world n).threads[i]? = some t → ∀ a ∈ t.todo,
    ∀ (p : Place) (owner : File) (progress : Creation), a.creation = some (p, owner, progress) →
      t.kind.isRequest = true ∧ progress.Around t.todo a ∧ progress.Past run p owner i n
  serial : ∀ (i j : Nat) (t u : Task), (run.world n).threads[i]? = some t → (run.world n).threads[j]? = some u →
    t.kind.isRequest = true → u.kind.isRequest = true → t.todo ≠ [] → u.todo ≠ [] → i = j

-- The gate is held from the adoption to the child's creation.
theorem Creation.needs_gate {a : Act} {progress : Creation} {k : Operation} {M M' : Option Mode}
    (ha : a.creation = some (p, owner, progress)) (hp : progress.inside) (h : a.spec k M M') :
    M.isSome := by
  cases a with
  | create id owner' profile act =>
      obtain ⟨-, -, rfl⟩ := create_creation ha
      cases act <;> first
        | exact hp.elim
        | rw [show M = _ from h.1]; rfl
  | keyboardMouse act =>
      cases act with
      | targetOpened _ | readTarget _ | allocate _ | vhfCreate _ _ =>
          rw [show M = _ from h.1]
          rfl
      | authorize _ request =>
          cases request <;> simp only [Act.creation, KeyboardMouseAct.creation, Option.map_none,
            Option.map_some, Option.some.injEq, Prod.mk.injEq, reduceCtorEq] at ha
          obtain ⟨-, -, rfl⟩ := ha
          exact hp.elim
      | openCheck _ | openEnumerate _ _ | openBegin _ _ _ | publish _ _ _ | start _ _ _ | adopt _ _ =>
          obtain ⟨-, -, rfl⟩ := keyboardMouse_creation rfl ha
          exact hp.elim
      | _ => simp [Act.creation, KeyboardMouseAct.creation] at ha
  | _ => simp [Act.creation] at ha

-- A thread that has begun a creation and not created the child holds the gate.
theorem Creation.Around.holds {w : World} {holder : Option (Nat × Mode)} {a : Act} {t : Task}
    {progress : Creation} (hd : LockedBy Act.spec Ok w holder) (ht : w.threads[i]? = some t)
    (ha : a.creation = some (p, owner, progress)) (hp : progress.inside)
    (h : progress.Around t.todo a) : (modeOf holder i).isSome := by
  have haround : t.todo = [a, .unlockLifetime] ∨
      ∃ act, t.todo = [.target act, a, .unlockLifetime] := by
    cases progress <;> first | exact hp.elim | exact h
  have hchain := hd.chains i t ht
  rcases haround with heq | ⟨act, heq⟩
  · rw [heq] at hchain
    obtain ⟨m₁, hspec, -⟩ := hchain
    exact Creation.needs_gate ha hp hspec
  · rw [heq] at hchain
    obtain ⟨m₁, htarget, m₂, hspec, -⟩ := hchain
    have hsame : m₁ = modeOf holder i := htarget
    rw [hsame] at hspec
    exact Creation.needs_gate ha hp hspec

theorem takesOver_needs_gate {a : Act} (ha : a.takesOver = true) {k : Operation}
    {M M' : Option Mode} (h : a.spec k M M') : M.isSome := by
  cases a with
  | power act =>
      cases act with
      | stopMark _ | downMark =>
          rw [show M = _ from h.1]
          rfl
      | _ => simp [Act.takesOver] at ha
  | _ => simp [Act.takesOver] at ha

-- Nobody takes over while a thread holds the gate, but that thread.
theorem same_holder {holder : Option (Nat × Mode)} {i j : Nat}
    (hi : (modeOf holder i).isSome) (hj : (modeOf holder j).isSome) : i = j := by
  obtain ⟨M, hM⟩ := Option.isSome_iff_exists.mp hi
  obtain ⟨N, hN⟩ := Option.isSome_iff_exists.mp hj
  have heq := (holder_of_modeOf hM).symm.trans (holder_of_modeOf hN)
  simp only [Option.some.injEq, Prod.mk.injEq] at heq
  exact heq.1

-- Only the requests to create and to open start with a creation.
theorem program_creation {operation : Operation} {a : Act} {progress : Creation}
    (ha : a ∈ operation.program) (hp : a.creation = some (p, owner, progress)) :
    operation.isRequest = true ∧ operation.program = [a] ∧ (progress = .asked ∨ progress = .check) := by
  cases program_starts a ha with
  | create file request id profile =>
      obtain ⟨-, -, rfl⟩ := create_creation hp
      have hone : ∃ b, (Request.create request).program file = [b] := by
        simp only [Request.program, withSlot]
        split
        · split
          · exact ⟨_, rfl⟩
          · split <;> exact ⟨_, rfl⟩
        · exact ⟨_, rfl⟩
      obtain ⟨b, hb⟩ := hone
      rw [show (Operation.request (some file) (.create request)).program = [b] from hb] at ha ⊢
      rw [List.mem_singleton.mp ha]
      exact ⟨rfl, rfl, .inr rfl⟩
  | authorize file request =>
      refine ⟨rfl, rfl, ?_⟩
      cases request with
      | openSource => exact .inl (keyboardMouse_creation rfl hp).2.2
      | _ => simp [Act.creation, KeyboardMouseAct.creation] at hp
  | _ => simp [Act.creation, KeyboardMouseAct.creation] at hp

theorem spawn_creates_nothing {threads : List Task} {d : Device} {k : Operation} {regs : Registers}
    {choice : Choice} {o : Effect} {a : Act} (h : a.exec threads d k regs choice = some o) :
    ∀ t ∈ o.spawn, t.kind.isRequest = false ∧ ∀ b ∈ t.todo, b.creation = none := by
  intro t ht
  rw [spawn_worker h t ht]
  exact ⟨rfl, fun b hb => by rw [List.mem_singleton.mp hb]; rfl⟩

-- What one act and one stimulus leave of the creations under way.
section Step

variable {i₀ : Nat} {choice : Choice}

theorem creation_of_createsAt
    (s : System.ActStep driver (run.world n) i₀ choice (run.world (n + 1)))
    (hevent : run.events[n]? = some (.act i₀ choice)) (h : CreatesAt run p n) :
    ∃ owner, s.act.creation = some (p, owner, .vhfCreate) := by
  obtain ⟨i, c, a, owner, ha, hp⟩ := h
  obtain ⟨-, -, rfl⟩ := ha.unique (System.Run.performs_of_step hevent s)
  exact ⟨owner, hp⟩

theorem takesOver_of_takenOverAt
    (s : System.ActStep driver (run.world n) i₀ choice (run.world (n + 1)))
    (hevent : run.events[n]? = some (.act i₀ choice)) (h : TakenOverAt run n) :
    s.act.takesOver = true := by
  obtain ⟨i, c, a, ha, hover⟩ := h
  obtain ⟨-, -, rfl⟩ := ha.unique (System.Run.performs_of_step hevent s)
  exact hover

-- Another thread acts while a creation is under way.
theorem Creations.undisturbed (h : Creations run n)
    (s : System.ActStep driver (run.world n) i₀ choice (run.world (n + 1)))
    (hevent : run.events[n]? = some (.act i₀ choice)) {t : Task} {a : Act} {progress : Creation}
    (ht : (run.world n).threads[i]? = some t) (ha : a ∈ t.todo)
    (hp : a.creation = some (p, owner, progress)) (hi : i ≠ i₀) :
    progress.Past run p owner i (n + 1) := by
  obtain ⟨hrequest, haround, hpast⟩ := h.pending i t ht a ha p owner progress hp
  have hacts : s.act ∈ s.thread.todo := by
    rw [s.todo]
    exact List.mem_cons_self
  refine hpast.later (fun hcreates => ?_) fun hinside hover => ?_
  · obtain ⟨owner', hcreation⟩ := creation_of_createsAt s hevent hcreates
    have hother := (h.pending i₀ s.thread s.at_index _ hacts _ _ _ hcreation).1
    exact hi (h.serial i i₀ t s.thread ht s.at_index hrequest hother (List.ne_nil_of_mem ha)
      (List.ne_nil_of_mem hacts))
  · have hlt := run.lt_length hevent
    obtain ⟨holder, hd⟩ := Reaches.disciplined (run.reaches n (Nat.le_of_lt hlt))
    have hown := hd.chains i₀ s.thread s.at_index
    rw [s.todo] at hown
    obtain ⟨m₁, hspec, -⟩ := hown
    exact hi (same_holder (haround.holds hd ht hp hinside)
      (takesOver_needs_gate (takesOver_of_takenOverAt s hevent hover) hspec))

-- The head of a thread is the only act of its creation.
theorem Creation.Around.rest {a : Act} {rest : List Act} {progress : Creation}
    (ha : a.creation = some (p, owner, progress)) (h : progress.Around (a :: rest) a) :
    match progress with
    | .asked | .check | .enumerate _ => rest = []
    | .begin _ _ | .opening | .vhfCreate => rest = [.unlockLifetime]
    | .finishing => True := by
  cases progress with
  | asked | check | enumerate _ => exact (List.cons.inj h).2
  | «begin» _ _ =>
      rcases h with h | h
      · rw [(List.cons.inj h).1] at ha
        simp [Act.creation] at ha
      · exact (List.cons.inj h).2
  | opening | vhfCreate =>
      rcases h with h | ⟨act, h⟩
      · exact (List.cons.inj h).2
      · rw [(List.cons.inj h).1] at ha
        simp [Act.creation] at ha
  | finishing => trivial

-- An act in front of a creation is the gate's or the target's.
theorem Creations.in_front (h : Creations run n)
    (s : System.ActStep driver (run.world n) i₀ choice (run.world (n + 1)))
    (hevent : run.events[n]? = some (.act i₀ choice)) {a : Act} {progress : Creation}
    (ha : a ∈ s.rest) (hp : a.creation = some (p, owner, progress)) :
    progress.Around (s.outcome.next ++ s.rest) a ∧ progress.Past run p owner i₀ (n + 1) := by
  have hmem : a ∈ s.thread.todo := by
    rw [s.todo]
    exact List.mem_cons_of_mem _ ha
  obtain ⟨-, haround, hpast⟩ := h.pending i₀ s.thread s.at_index a hmem p owner progress hp
  rw [s.todo] at haround
  have hunlock : a ≠ .unlockLifetime := by
    rintro rfl
    simp [Act.creation] at hp
  -- Neither of the two creates a child or takes over.
  have hlater : s.act.creation = none → s.act.takesOver = false →
      progress.Past run p owner i₀ (n + 1) := by
    intro hcreation hover
    refine hpast.later (fun hcreates => ?_) fun _ htaken => ?_
    · obtain ⟨owner', hcreates⟩ := creation_of_createsAt s hevent hcreates
      simp [hcreation] at hcreates
    · simp [takesOver_of_takenOverAt s hevent htaken] at hover
  have hexec := s.exec
  cases progress with
  | asked | check | enumerate _ =>
      rw [(List.cons.inj haround).2] at ha
      simp at ha
  | «begin» generation childPresent =>
      rcases haround with heq | heq
      · obtain ⟨hact, hrest⟩ := List.cons.inj heq
        rw [hact] at hexec
        simp only [driver, Act.exec] at hexec
        split at hexec
        · simp at hexec
        · rw [← Option.some.inj hexec, hrest]
          exact ⟨.inr rfl, hlater (by rw [hact]; rfl) (by rw [hact]; rfl)⟩
      · rw [(List.cons.inj heq).2] at ha
        exact (hunlock (List.mem_singleton.mp ha)).elim
  | opening | vhfCreate =>
      rcases haround with heq | ⟨act, heq⟩
      · rw [(List.cons.inj heq).2] at ha
        exact (hunlock (List.mem_singleton.mp ha)).elim
      · obtain ⟨hact, hrest⟩ := List.cons.inj heq
        rw [hact] at hexec
        refine ⟨?_, hlater (by rw [hact]; rfl) (by rw [hact]; rfl)⟩
        rw [← Option.some.inj hexec, hrest]
        cases act with
        | check =>
            simp only [TargetAct.exec]
            split
            · exact .inl rfl
            · split
              · exact .inl rfl
              · exact .inr ⟨_, rfl⟩
        | openByFile =>
            simp only [TargetAct.exec]
            split
            · exact .inl rfl
            · split
              · exact .inl rfl
              · exact .inr ⟨_, rfl⟩
        | store file => exact .inl rfl
  | finishing => exact ⟨trivial, trivial⟩

theorem takesOver_renews {a : Act} {d : Device} (h : a.takesOver = true) :
    a.renews d choice .keyboardMouse = true := by
  cases a with
  | power act => cases act <;> first | rfl | simp [Act.takesOver] at h
  | _ => simp [Act.takesOver] at h

theorem creation_takesOver {a : Act} {progress : Creation}
    (h : a.creation = some (p, owner, progress)) : a.takesOver = false := by
  cases a with
  | power act => simp [Act.creation] at h
  | _ => rfl

-- The next act of a creation has the one before it in its past.
theorem Creations.next (h : Creations run n)
    (s : System.ActStep driver (run.world n) i₀ choice (run.world (n + 1)))
    (hevent : run.events[n]? = some (.act i₀ choice))
    (hlt : ∀ p, renewals run p run.length < 2 ^ 64) {a : Act} {progress : Creation}
    (ha : a ∈ s.outcome.next) (hp : a.creation = some (p, owner, progress)) :
    s.thread.kind.isRequest = true ∧ progress.Around (s.outcome.next ++ s.rest) a ∧
      progress.Past run p owner i₀ (n + 1) := by
  obtain ⟨progress', hact, hleads⟩ :=
    @creation_leads (run.world n).shared s.thread.regs choice (run.world n).threads s.thread.kind
      s.outcome p owner s.act a s.exec progress ha hp
  have hmem : s.act ∈ s.thread.todo := by
    rw [s.todo]
    exact List.mem_cons_self
  obtain ⟨hrequest, haround, hpast⟩ := h.pending i₀ s.thread s.at_index _ hmem _ _ _ hact
  rw [s.todo] at haround
  have hrest := haround.rest hact
  have hperforms := System.Run.performs_of_step hevent s
  have hover : ¬ TakenOverAt run n := by
    intro htaken
    have htakes := takesOver_of_takenOverAt s hevent htaken
    rw [creation_takesOver hact] at htakes
    simp at htakes
  have halone : progress' ≠ .vhfCreate → ¬ CreatesAt run p n := by
    intro hne hcreates
    obtain ⟨owner', hcreation⟩ := creation_of_createsAt s hevent hcreates
    rw [hact] at hcreation
    simp only [Option.some.injEq, Prod.mk.injEq] at hcreation
    exact hne hcreation.2.2
  refine ⟨hrequest, ?_⟩
  cases progress with
  | finishing => exact ⟨trivial, trivial⟩
  | asked => cases progress' <;> exact hleads.elim
  | check =>
      cases progress' with
      | asked =>
          have hnext : s.outcome.next = [a] := hleads
          have hend : s.rest = [] := hrest
          rw [hnext, hend]
          exact ⟨rfl, trivial⟩
      | _ => exact hleads.elim
  | enumerate generation =>
      cases progress' with
      | check =>
          obtain ⟨hnext, hgeneration⟩ := hleads
          have hend : s.rest = [] := hrest
          rw [hnext, hend]
          refine ⟨rfl, n, Nat.lt_succ_self n, ⟨choice, s.act, hperforms, hact⟩, hgeneration, ?_⟩
          intro j hj hjn
          obtain rfl : j = n := by omega
          exact halone (by simp)
      | _ => exact hleads.elim
  | «begin» generation childPresent =>
      cases progress' with
      | enumerate generation' =>
          obtain ⟨hnext, rfl, rfl⟩ := hleads
          obtain ⟨k, hchecked⟩ := hpast
          have hend : s.rest = [] := hrest
          rw [hnext, hend]
          exact ⟨.inl rfl, k, n, hchecked.later (halone (by simp)), hchecked.before,
            Nat.lt_succ_self n, choice, s.act, hperforms, hact, rfl⟩
      | _ => exact hleads.elim
  | opening =>
      cases progress' with
      | «begin» generation childPresent =>
          obtain ⟨hnext, hgeneration, rfl, hopen⟩ := hleads
          obtain ⟨k, l, hlooked⟩ := hpast
          have hend : s.rest = [.unlockLifetime] := hrest
          rw [hnext, hend]
          refine ⟨.inr ⟨_, rfl⟩, k, l, n, generation, hlooked.later (halone (by simp)), hlooked.before,
            Nat.lt_succ_self n, ⟨choice, s.act, hperforms, hact⟩, hgeneration, hopen, ?_⟩
          rintro rfl j hk hj htaken
          rcases Nat.lt_succ_iff_lt_or_eq.mp hj with hj | rfl
          · -- A transition would have taken the next generation.
            have hsame := hlooked.checked.generation.trans hgeneration.symm
            have hkept := not_renewed (Nat.le_of_lt (run.lt_length hevent)) (hlt _) hsame hk hj
            obtain ⟨i', c, b, hb, hovers⟩ := htaken
            rw [Performs.renewsAt_eq hb, takesOver_renews hovers] at hkept
            simp at hkept
          · exact hover htaken
      | opening =>
          have hnext : s.outcome.next = [a] := hleads
          have hend : s.rest = [.unlockLifetime] := hrest
          rw [hnext, hend]
          exact ⟨.inl rfl, hpast.later (halone (by simp)) fun _ => hover⟩
      | _ => exact hleads.elim
  | vhfCreate =>
      cases progress' with
      | opening =>
          have hnext : s.outcome.next = [a] := hleads
          have hend : s.rest = [.unlockLifetime] := hrest
          have hopening : Creation.opening.Past run p owner i₀ (n + 1) :=
            hpast.later (halone (by simp)) fun _ => hover
          rw [hnext, hend]
          exact ⟨.inl rfl, hopening⟩
      | _ => exact hleads.elim

-- Requests stay one at a time.
theorem serial_act (h : Creations run n)
    (s : System.ActStep driver (run.world n) i₀ choice (run.world (n + 1))) :
    ∀ (i j : Nat) (t u : Task), (run.world (n + 1)).threads[i]? = some t →
      (run.world (n + 1)).threads[j]? = some u → t.kind.isRequest = true → u.kind.isRequest = true →
        t.todo ≠ [] → u.todo ≠ [] → i = j := by
  have hbefore : ∀ (i : Nat) (t : Task), (run.world (n + 1)).threads[i]? = some t →
      t.kind.isRequest = true → t.todo ≠ [] →
        ∃ t', (run.world n).threads[i]? = some t' ∧ t'.kind.isRequest = true ∧ t'.todo ≠ [] := by
    intro i t ht hrequest htodo
    rcases s.cases_after i t ht with ⟨rfl, rfl⟩ | ⟨-, hold⟩ | ⟨-, hnew⟩
    · exact ⟨s.thread, s.at_index, hrequest, by simp [s.todo]⟩
    · exact ⟨t, hold, hrequest, htodo⟩
    · rw [(spawn_creates_nothing (k := s.thread.kind) s.exec t hnew).1] at hrequest
      simp at hrequest
  intro i j t u ht hu hti huj htodo hutodo
  obtain ⟨t', ht', hti', htodo'⟩ := hbefore i t ht hti htodo
  obtain ⟨u', hu', huj', hutodo'⟩ := hbefore j u hu huj hutodo
  exact h.serial i j t' u' ht' hu' hti' huj' htodo' hutodo'

theorem Creations.act (h : Creations run n) (hevent : run.events[n]? = some (.act i₀ choice))
    (hlt : ∀ p, renewals run p run.length < 2 ^ 64) : Creations run (n + 1) := by
  obtain ⟨s⟩ := System.actStep_of_step (run.step_at hevent)
  refine ⟨fun i t ht a ha p owner progress hp => ?_, serial_act h s⟩
  rcases s.cases_after i t ht with ⟨rfl, rfl⟩ | ⟨hne, hold⟩ | ⟨-, hnew⟩
  · rcases List.mem_append.mp ha with hnext | hrest
    · exact h.next s hevent hlt hnext hp
    · have hmem : a ∈ s.thread.todo := by
        rw [s.todo]
        exact List.mem_cons_of_mem _ hrest
      exact ⟨(h.pending i s.thread s.at_index a hmem p owner progress hp).1,
        h.in_front s hevent hrest hp⟩
  · obtain ⟨hrequest, haround, -⟩ := h.pending i t hold a ha p owner progress hp
    exact ⟨hrequest, haround, h.undisturbed s hevent hold ha hp hne⟩
  · rw [(spawn_creates_nothing (k := s.thread.kind) s.exec t hnew).2 a ha] at hp
    simp at hp

-- What starts is the front of a creation or none, and one request at a time.
theorem Creations.env {stimulus : Stimulus} (h : Creations run n)
    (hevent : run.events[n]? = some (.env stimulus)) : Creations run (n + 1) := by
  obtain ⟨out, hout, hw⟩ := System.environment_of_step (run.step_at hevent)
  have hidle : ∀ i c a, ¬ run.Performs n i c a := by
    intro i c a hperforms
    rw [hperforms.event] at hevent
    simp at hevent
  have hnew : ∀ t ∈ out.2, ∃ operation : Operation, t = operation.start ∧
      (operation.isRequest = true →
        unfinished (run.world n).threads Operation.isRequest = false) ∧ out.2 = [t] := by
    cases stimulus with
    | start operation =>
        simp only [driver, Stimulus.run] at hout
        split at hout
        · rename_i hmay
          cases hout
          intro t ht
          refine ⟨operation, List.mem_singleton.mp ht, fun hrequest => ?_, ?_⟩
          · cases operation with
            | request owner request => exact (Bool.not_eq_true' _).mp hmay
            | _ => simp [Operation.isRequest] at hrequest
          · rw [List.mem_singleton.mp ht]
        · simp at hout
    | timerFires =>
        simp only [driver, Stimulus.run] at hout
        split at hout <;> cases hout
        simp
  have hthread : ∀ (i : Nat) (t : Task), (run.world (n + 1)).threads[i]? = some t →
      (run.world n).threads[i]? = some t ∨ ((run.world n).threads.length = i ∧ t ∈ out.2) := by
    intro i t ht
    rw [hw] at ht
    by_cases hi : i < (run.world n).threads.length
    · rw [List.getElem?_append_left hi] at ht
      exact .inl ht
    · rw [List.getElem?_append_right (by omega)] at ht
      have hmem := List.mem_of_getElem? ht
      obtain ⟨operation, -, -, hone⟩ := hnew t hmem
      rw [hone] at ht
      have hzero := (List.getElem?_eq_some_iff.mp ht).1
      simp only [List.length_singleton] at hzero
      exact .inr ⟨by omega, hmem⟩
  -- An unfinished request keeps the next one from starting.
  have hbusy : ∀ (i : Nat) (t u : Task), (run.world n).threads[i]? = some t → u ∈ out.2 →
      t.kind.isRequest = true → u.kind.isRequest = true → t.todo ≠ [] → False := by
    intro i t u ht hu hti huj htodo
    obtain ⟨operation, rfl, hfree, -⟩ := hnew u hu
    have hall := List.any_eq_false.mp (hfree huj) t (List.mem_of_getElem? ht)
    simp [hti, htodo] at hall
  refine ⟨fun i t ht a ha p owner progress hp => ?_, fun i j t u ht hu hti huj htodo hutodo => ?_⟩
  · rcases hthread i t ht with hold | ⟨-, hmem⟩
    · obtain ⟨hrequest, haround, hpast⟩ := h.pending i t hold a ha p owner progress hp
      refine ⟨hrequest, haround, hpast.later ?_ fun _ => ?_⟩
      · rintro ⟨i', c, b, owner', hb, -⟩
        exact hidle i' c b hb
      · rintro ⟨i', c, b, hb, -⟩
        exact hidle i' c b hb
    · obtain ⟨operation, rfl, -, -⟩ := hnew t hmem
      obtain ⟨hrequest, hprogram, hprogress⟩ := program_creation ha hp
      refine ⟨hrequest, ?_⟩
      rcases hprogress with rfl | rfl <;> exact ⟨hprogram, trivial⟩
  · rcases hthread i t ht with hi | ⟨hi, hti'⟩
    · rcases hthread j u hu with hj | ⟨-, huj'⟩
      · exact h.serial i j t u hi hj hti huj htodo hutodo
      · exact (hbusy i t u hi huj' hti huj htodo).elim
    · rcases hthread j u hu with hj | ⟨hj, -⟩
      · exact (hbusy j u t hj hti' huj hti hutodo).elim
      · exact hi.symm.trans hj

end Step

theorem creations (hlt : ∀ p, renewals run p run.length < 2 ^ 64) :
    ∀ n, n ≤ run.length → Creations run n := by
  refine run.induct ⟨?_, ?_⟩ fun n event hevent h => ?_
  · intro i t ht
    rw [run.world_zero] at ht
    simp [World.initial] at ht
  · intro i j t u ht
    rw [run.world_zero] at ht
    simp [World.initial] at ht
  · cases event with
    | act i choice => exact h.act hevent hlt
    | env stimulus => exact h.env hevent

-- Only a D0 entry powers the device up.
theorem powered_after {threads : List Task} {d : Device} {k : Operation} {regs : Registers}
    {choice : Choice} {o : Effect} {a : Act} (h : a.exec threads d k regs choice = some o)
    (hpowered : o.shared.powered = true) : d.powered = true ∨ a = .power .d0Entry := by
  by_cases hmanages : a.manages = true
  · cases a with
    | create id owner profile act =>
        cases h
        exact .inl ((create_only act).powered ▸ hpowered)
    | destroy id owner act =>
        cases h
        exact .inl ((destroy_only act).powered ▸ hpowered)
    | keyboardMouse act => exact .inl ((keyboardMouse_only h).1.powered ▸ hpowered)
    | power act =>
        cases h
        cases act with
        | d0Entry => exact .inr rfl
        | stopIntent | downIntent => simp [PowerAct.exec, Device.effect] at hpowered
        | stopMark forgetTarget | downMark =>
            exact .inl ((only_stopAdmission (d := d.stopTimer)).powered ▸ hpowered)
        | _ => exact .inl hpowered
    | _ => simp [Act.manages] at hmanages
  · have hcontrol := Act.control_of_not_manages (Bool.not_eq_true _ ▸ hmanages) h
    exact .inl (hcontrol.powered ▸ hpowered)

theorem powered_announced {threads : List Task} {d : Device} {k : Operation} {regs : Registers}
    {choice : Choice} {o : Effect} {a : Act} (h : a.exec threads d k regs choice = some o)
    (ha : a.announces = true) : o.shared.powered = false := by
  cases a with
  | power act =>
      cases h
      cases act <;> first | rfl | simp [Act.announces] at ha
  | _ => simp [Act.announces] at ha

-- A transition that has announced itself is over when the device is in D0 again.
theorem entered_after {j i : Nat} {choice : Choice} {a : Act} (hj : run.Performs j i choice a)
    (ha : a.announces = true) : ∀ m, m ≤ run.length → j < m →
      (run.world m).shared.powered = true →
        ∃ j' i' choice', j < j' ∧ j' < m ∧ run.Performs j' i' choice' (.power .d0Entry) := by
  refine run.induct (fun h => absurd h (Nat.not_lt_zero j)) fun m event hevent ih hlt hpowered => ?_
  rcases Nat.lt_succ_iff_lt_or_eq.mp hlt with hlt | rfl
  · have hkept : (run.world m).shared.powered = true ∨
        ∃ i' choice', run.Performs m i' choice' (.power .d0Entry) := by
      cases event with
      | act i' choice' =>
          obtain ⟨s⟩ := System.actStep_of_step (run.step_at hevent)
          rw [s.shared_after] at hpowered
          rcases powered_after (k := s.thread.kind) s.exec hpowered with h | h
          · exact .inl h
          · exact .inr ⟨i', choice', h ▸ System.Run.performs_of_step hevent s⟩
      | env stimulus =>
          obtain ⟨out, hout, hw⟩ := System.environment_of_step (run.step_at hevent)
          rw [hw] at hpowered
          cases stimulus <;> simp only [driver, Stimulus.run] at hout <;> split at hout <;> cases hout <;>
            exact .inl hpowered
    rcases hkept with hbefore | ⟨i', choice', hentry⟩
    · obtain ⟨j', i', choice', hj', hm, hentry⟩ := ih hlt hbefore
      exact ⟨j', i', choice', hj', Nat.lt_succ_of_lt hm, hentry⟩
    · exact ⟨m, i', choice', hlt, Nat.lt_succ_self m, hentry⟩
  · obtain ⟨s, rfl⟩ := hj.step
    rw [s.shared_after, powered_announced (k := s.thread.kind) s.exec ha] at hpowered
    simp at hpowered

-- The look for an old instance was at `l`, after the generation had been read at `k`
-- and before the slot was taken at `m`. It reported absence and still held when the
-- child was created at `n`.
structure AbsentSince (run : driver.Run (World.initial keepalive)) (p : Place) (owner : File)
    (i n k l m : Nat) : Prop where
  order : k < l ∧ l < m ∧ m < n
  checked : ∃ choice a, run.Performs k i choice a ∧ a.creation = some (p, owner, .check)
  absent : ∃ choice a generation, run.Performs l i choice a ∧
    a.creation = some (p, owner, .enumerate generation) ∧ choice.childPresent = false
  taken : ∃ choice a generation, run.Performs m i choice a ∧
    a.creation = some (p, owner, .begin generation false)
  generation : (run.world k).shared.generationAt p = (run.world m).shared.generationAt p
  alone : ∀ j, k ≤ j → j < n → ¬ CreatesAt run p j
  -- No D0 exit and no device stop comes between, and none that was announced before the
  -- slot was taken is still to come.
  undisturbed : p = .keyboardMouse → ∀ j, k ≤ j → j < n → ¬ TakenOverAt run j
  entered : ∀ j i' choice a, run.Performs j i' choice a → a.announces = true → j < m →
    ∃ j' i'' choice', j < j' ∧ j' < m ∧ run.Performs j' i'' choice' (.power .d0Entry)

structure ChildAbsence (run : driver.Run (World.initial keepalive)) : Prop where
  creation : ∀ n i choice a p owner, run.Performs n i choice a →
    a.creation = some (p, owner, .vhfCreate) → ∃ k l m, AbsentSince run p owner i n k l m
  fresh : ∀ n i choice a p, run.Performs n i choice a →
    a.renews (run.world n).shared choice p = true →
      ∀ m ≤ n, (run.world m).shared.generationAt p ≠ (run.world (n + 1)).shared.generationAt p
  -- Two snapshots with a creation that began between them are told apart.
  apart : ∀ p m j n, m ≤ j → j < n → n ≤ run.length → renewsAt run p j = true →
    (run.world m).shared.generationAt p ≠ (run.world n).shared.generationAt p

theorem Adopted.absentSince (h : Adopted run p owner i n k l m generation) (hn : n ≤ run.length) :
    AbsentSince run p owner i n k l m where
  order := ⟨h.enumerated.after, h.after, h.before⟩
  checked := h.enumerated.checked.check
  absent := by
    obtain ⟨choice, a, ha⟩ := h.enumerated.enumerated
    exact ⟨choice, a, generation, ha⟩
  taken := by
    obtain ⟨choice, a, ha⟩ := h.taken
    exact ⟨choice, a, generation, ha⟩
  generation := h.enumerated.checked.generation.trans h.generation.symm
  alone := h.enumerated.checked.alone
  undisturbed := h.undisturbed
  entered j i' choice a hj ha hjm :=
    entered_after hj ha m (Nat.le_trans (Nat.le_of_lt h.before) hn) hjm h.openFor.1

theorem child_absence (run : driver.Run (World.initial keepalive))
    (hlt : ∀ p, renewals run p run.length < 2 ^ 64) : ChildAbsence run := by
  refine ⟨fun n i choice a p owner ha hp => ?_, fun n i choice a p ha hrenews m hm => ?_,
    fun p m j n hm hj hn hrenews heq => ?_⟩
  · have hn := Nat.le_of_lt ha.lt_length
    obtain ⟨s, rfl⟩ := ha.step
    have hmem : s.act ∈ s.thread.todo := by
      rw [s.todo]
      exact List.mem_cons_self
    obtain ⟨-, -, k, l, m, generation, hadopted⟩ :=
      (creations hlt n hn).pending i s.thread s.at_index _ hmem p owner _ hp
    exact ⟨k, l, m, hadopted.absentSince hn⟩
  · rw [← Performs.renewsAt_eq ha] at hrenews
    exact generation_fresh ha.lt_length (hlt p) hrenews hm
  · rw [not_renewed hn (hlt p) heq hm hj] at hrenews
    simp at hrenews

theorem renewals_le_self (p : Place) (n : Nat) : renewals run p n ≤ n := by
  have h := (List.range n).countP_le_length (p := renewsAt run p)
  rwa [List.length_range] at h

-- The creation of an Xbox One controller gets to its child.
theorem child_absence_creation :
    ∃ run : driver.Run (World.initial true),
      (run.last.shared.controllers ⟨0, by decide⟩).control.vhf = some 0 ∧ ChildAbsence run :=
  ⟨⟨creation ⟨0, .xboxOne, 0⟩ 1, by decide +kernel⟩, by decide +kernel,
    child_absence _ fun p => Nat.lt_of_le_of_lt (renewals_le_self p _)
      (by show (creation ⟨0, .xboxOne, 0⟩ 1).length < 2 ^ 64; decide)⟩

end LibVirtualGamepad
