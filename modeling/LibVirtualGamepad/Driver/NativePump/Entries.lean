import LibVirtualGamepad.Driver.NativePump.Activation

-- The readiness callbacks of an activation: what is left of each, and how the context
-- that they run on counts them.
namespace LibVirtualGamepad

open Interleaving

-- The activation that a callback's act runs for.
def KeyboardMouseAct.activation : KeyboardMouseAct → Option Nat
  | .readyEnter context | .readyCheck context | .readyGrant context | .readyExit context => some context
  | .pumpEnter context | .pumpTake context | .submitEnter _ context | .submitLeave _ context => context
  | _ => none

def Act.activation : Act → Option Nat
  | .keyboardMouse act => act.activation
  | _ => none

-- One of these is to be done by every entry that is counted.
def Act.holds (context : Nat) : Act → Bool
  | .keyboardMouse (.readyCheck c) | .keyboardMouse (.readyGrant c) | .keyboardMouse (.readyExit c) =>
    c == context
  | _ => false

-- What may be left of a callback.
inductive Calling (context : Nat) : List Act → Prop where
  | done : Calling context []
  | entering : Calling context [.keyboardMouse (.readyEnter context)]
  | checking : Calling context [.keyboardMouse (.readyCheck context)]
  | granting : Calling context [.keyboardMouse (.readyGrant context)]
  | leaving : Calling context [.keyboardMouse (.readyExit context)]
  | looping (act : KeyboardMouseAct) (hrun : act.running = true)
      (hact : act.activation = some context) :
      Calling context [.keyboardMouse act, .keyboardMouse (.readyExit context)]

-- A callback does nothing but its own acts, and nobody else does them.
def Shaped (t : Task) : Prop :=
  match t.kind with
  | .keyboardMouseReady _ context => Calling context t.todo
  | _ => ∀ a ∈ t.todo, a.activation = none

section Exec

variable {d : Device} {regs : Registers} {choice : Choice} {threads : List Task} {k : Operation}
  {o : Effect} {a : Act} {context : Nat}

theorem activation_of_holds (h : a.holds context = true) : a.activation = some context := by
  unfold Act.holds at h
  split at h
  · rw [← beq_iff_eq.mp h]
    rfl
  · rw [← beq_iff_eq.mp h]
    rfl
  · rw [← beq_iff_eq.mp h]
    rfl
  · simp at h

theorem isKeyboardMouse_of_activation (h : a.activation = some context) : a.isKeyboardMouse = true := by
  cases a <;> first | rfl | simp [Act.activation] at h

-- The steps of a loop lead to no others of a callback.
theorem running_next {act : KeyboardMouseAct} {activation : Option Nat} (hrun : act.running = true)
    (hact : act.activation = activation) (h : act.exec d regs choice = some o) :
    o.next = [] ∨ ∃ act', o.next = [.keyboardMouse act'] ∧ act'.running = true ∧
      act'.activation = activation := by
  cases act with
  | pumpEnter context =>
      simp only [KeyboardMouseAct.exec] at h
      split at h <;> cases h
      · exact .inl rfl
      · exact .inr ⟨_, rfl, rfl, hact⟩
  | pumpTake context =>
      simp only [KeyboardMouseAct.exec] at h
      split at h <;> cases h
      · cases hvhf : d.keyboardMouse.vhf with
        | none => exact .inl (by simp only [Device.effect])
        | some handle => exact .inr ⟨.submitEnter handle context, by simp only [Device.effect], rfl, hact⟩
      · exact .inl rfl
  | submitEnter handle context =>
      cases h
      exact .inr ⟨_, rfl, rfl, hact⟩
  | submitLeave handle context =>
      simp only [KeyboardMouseAct.exec] at h
      split at h
      · cases h
        exact .inl rfl
      · split at h <;> cases h
        · exact .inr ⟨_, rfl, rfl, hact⟩
        · exact .inl rfl
  | _ => simp [KeyboardMouseAct.running] at hrun

theorem Calling.next {rest : List Act} (hcalling : Calling context (a :: rest))
    (h : a.exec threads d k regs choice = some o) : Calling context (o.next ++ rest) := by
  cases hcalling with
  | entering =>
      cases h
      exact .checking
  | checking =>
      simp only [Act.exec, KeyboardMouseAct.exec] at h
      split at h <;> cases h
      · exact .leaving
      · exact .granting
  | granting =>
      simp only [Act.exec, KeyboardMouseAct.exec] at h
      split at h <;> cases h
      · exact .looping (.pumpEnter (some context)) rfl rfl
      · exact .leaving
  | leaving =>
      cases h
      exact .done
  | looping act hrun hact =>
      rcases running_next hrun hact h with hnext | ⟨act', hnext, hrun', hact'⟩
      · rw [hnext]
        exact .leaving
      · rw [hnext]
        exact .looping act' hrun' hact'

-- Outside the callbacks no act leads into one.
theorem keyboardMouse_activation_none {act : KeyboardMouseAct} (hact : act.activation = none)
    (h : act.exec d regs choice = some o) : ∀ b ∈ o.next, b.activation = none := by
  have hone : ∀ b : Act, b.activation = none → ∀ c ∈ [b], c.activation = none := by
    intro b hb c hc
    rw [List.mem_singleton.mp hc, hb]
  cases hrun : act.running with
  | true =>
      rcases running_next hrun hact h with hnext | ⟨act', hnext, -, hact'⟩
      · simp [hnext]
      · rw [hnext]
        exact hone _ hact'
  | false =>
      cases act with
      | authorize owner request =>
          simp only [KeyboardMouseAct.exec] at h
          split at h <;> cases h
          · cases request <;> simp [Device.effect, KeyboardMouseRequest.program, Act.activation,
              KeyboardMouseAct.activation]
          · simp [Device.effect]
      | detach retain =>
          simp only [KeyboardMouseAct.exec] at h
          split at h <;> cases h
          · cases d.keyboardMouse.vhf <;> cases d.keyboardMouse.callbackContext <;>
              simp [Device.effect, Act.activation, KeyboardMouseAct.activation]
          · exact hone _ rfl
      | cleanupStop owner =>
          simp only [KeyboardMouseAct.exec] at h
          split at h <;> cases h
          · simp only [Device.effect]
            split <;> simp [deleteStoppedKeyboardMouse, Act.activation, KeyboardMouseAct.activation]
          · simp [Device.effect]
      | submit owner request | close owner =>
          simp only [KeyboardMouseAct.exec] at h
          repeat' split at h
          all_goals cases h
          all_goals simp [Device.effect, deleteStoppedKeyboardMouse, Act.activation,
            KeyboardMouseAct.activation]
      | readyEnter _ | readyCheck _ | readyGrant _ | readyExit _ =>
          simp [KeyboardMouseAct.activation] at hact
      | pumpEnter _ | pumpTake _ | submitEnter _ _ | submitLeave _ _ =>
          simp [KeyboardMouseAct.running] at hrun
      | _ =>
          simp only [KeyboardMouseAct.exec] at h
          repeat' split at h
          all_goals cases h
          all_goals simp [Device.effect, deleteStoppedKeyboardMouse, targetOpen, Act.activation,
            KeyboardMouseAct.activation]

theorem activation_none_next (ha : a.activation = none) (h : a.exec threads d k regs choice = some o) :
    ∀ b ∈ o.next, b.activation = none := by
  cases hkm : a.isKeyboardMouse with
  | true =>
      obtain ⟨act, rfl⟩ := keyboardMouse_of_isKeyboardMouse hkm
      exact keyboardMouse_activation_none ha h
  | false =>
      intro b hb
      cases hb' : b.isKeyboardMouse with
      | true => rcases (other_next hkm h).2 b hb hb' with rfl | ⟨retain, rfl⟩ <;> rfl
      | false => cases b <;> first | rfl | simp [Act.isKeyboardMouse] at hb'

-- What an act makes of the entries that a context counts.
def Act.entries (context entries : Nat) : Act → Nat
  | .keyboardMouse (.readyEnter c) => if c = context then entries + 1 else entries
  | .keyboardMouse (.readyExit c) => if c = context then entries - 1 else entries
  | _ => entries

def Act.frees (context : Nat) : Act → Bool
  | .keyboardMouse (.vhfCreate _ c) | .keyboardMouse (.release _ (some c)) => c == context
  | _ => false

-- A context behind an act.
structure ContextKept (a : Act) (context : Nat) (x x' : CallbackContext) : Prop where
  generation : x'.generation = x.generation
  retired : x.retired = true → x'.retired = true
  freed : x'.freed = true → x.freed = true ∨ a.frees context = true
  entries : x'.activeEntries = a.entries context x.activeEntries

variable {x : CallbackContext}

theorem context_modify {contexts : List CallbackContext} (hx : contexts[context]? = some x) (i : Nat)
    (f : CallbackContext → CallbackContext) :
    (contexts.modify i f)[context]? = some (if i = context then f x else x) := by
  rw [List.getElem?_modify, hx]
  rfl

-- Acts that bring nobody in or out.
theorem contextKept_retire {d' : Device} (hx : d.contexts[context]? = some x)
    (hentries : ∀ n, a.entries context n = n)
    (h : d'.contexts = d.contexts ∨ ∃ i, d'.contexts = d.contexts.modify i fun c => { c with retired := true }) :
    ∃ x', d'.contexts[context]? = some x' ∧ ContextKept a context x x' := by
  rcases h with h | ⟨i, h⟩
  · exact ⟨x, h ▸ hx, rfl, id, .inl, (hentries _).symm⟩
  · refine ⟨_, h ▸ context_modify hx i _, ?_⟩
    split
    · exact ⟨rfl, fun _ => rfl, .inl, (hentries _).symm⟩
    · exact ⟨rfl, id, .inl, (hentries _).symm⟩

theorem contextKept_free {d' : Device} (freed : Option Nat) (hx : d.contexts[context]? = some x)
    (hentries : ∀ n, a.entries context n = n)
    (hfrees : ∀ c, freed = some c → c = context → a.frees context = true)
    (h : d'.contexts = (d.freeContext freed).contexts) :
    ∃ x', d'.contexts[context]? = some x' ∧ ContextKept a context x x' := by
  cases freed with
  | none => exact ⟨x, h ▸ hx, rfl, id, .inl, (hentries _).symm⟩
  | some c =>
      have hafter : d'.contexts[context]? = some (if c = context then { x with freed := true } else x) := by
        rw [h]
        exact context_modify hx c _
      refine ⟨_, hafter, ?_⟩
      split
      · rename_i heq
        exact ⟨rfl, id, fun _ => .inr (hfrees c rfl heq), (hentries _).symm⟩
      · exact ⟨rfl, id, .inl, (hentries _).symm⟩

theorem stopAdmission_contexts : d.stopKeyboardMouseAdmission.contexts = d.contexts ∨
    ∃ i, d.stopKeyboardMouseAdmission.contexts =
      d.contexts.modify i fun c => { c with retired := true } := by
  unfold Device.stopKeyboardMouseAdmission
  dsimp only
  split
  · exact .inl rfl
  · cases d.keyboardMouse.callbackContext with
    | none => exact .inl rfl
    | some c => exact .inr ⟨c, rfl⟩

theorem keyboardMouse_context {act : KeyboardMouseAct} (h : act.exec d regs choice = some o)
    (hx : d.contexts[context]? = some x) :
    ∃ x', o.shared.contexts[context]? = some x' ∧ ContextKept (.keyboardMouse act) context x x' := by
  cases act with
  | readyEnter c | readyExit c =>
      cases h
      refine ⟨_, context_modify hx c _, ?_⟩
      split
      · rename_i heq
        exact ⟨rfl, id, .inl, by simp [Act.entries, heq]⟩
      · rename_i hne
        exact ⟨rfl, id, .inl, by simp [Act.entries, hne]⟩
  | allocate owner =>
      simp only [KeyboardMouseAct.exec] at h
      split at h <;> cases h
      · refine ⟨x, ?_, rfl, id, .inl, rfl⟩
        rw [← hx]
        exact List.getElem?_append_left (List.getElem?_eq_some_iff.mp hx).1
      · exact ⟨x, hx, rfl, id, .inl, rfl⟩
  | vhfCreate owner c =>
      simp only [KeyboardMouseAct.exec] at h
      split at h <;> cases h
      · exact ⟨x, hx, rfl, id, .inl, rfl⟩
      · refine contextKept_free (some c) hx (fun _ => rfl) (fun c' hc heq => ?_) rfl
        obtain rfl := Option.some.inj hc
        simp [Act.frees, heq]
  | release lostOwner freed =>
      cases h
      refine contextKept_free freed hx (fun _ => rfl) (fun c' hc heq => ?_) ?_
      · rw [hc]
        simp [Act.frees, heq]
      · cases freed <;> (simp only [Device.effect, Device.freeContext]; split <;> rfl)
  | _ =>
      simp only [KeyboardMouseAct.exec] at h
      repeat' split at h
      all_goals cases h
      all_goals first
        | exact ⟨x, hx, rfl, id, .inl, rfl⟩
        | exact contextKept_retire hx (fun _ => rfl) stopAdmission_contexts

theorem exec_context (h : a.exec threads d k regs choice = some o) (hx : d.contexts[context]? = some x) :
    ∃ x', o.shared.contexts[context]? = some x' ∧ ContextKept a context x x' := by
  cases hkm : a.isKeyboardMouse with
  | true =>
      obtain ⟨act, rfl⟩ := keyboardMouse_of_isKeyboardMouse hkm
      exact keyboardMouse_context h hx
  | false =>
      have hentries : ∀ n, a.entries context n = n := by
        intro n
        cases a <;> first | rfl | simp [Act.isKeyboardMouse] at hkm
      refine contextKept_retire hx hentries ?_
      cases hover : a.takesOver with
      | false => exact .inl (other_slot hkm hover h).2.1
      | true =>
          cases a with
          | power act =>
              cases h
              cases act with
              | stopMark forgetTarget | downMark => exact stopAdmission_contexts (d := d.stopTimer)
              | _ => exact .inl rfl
          | _ => simp [Act.takesOver] at hover

-- New contexts are empty.
theorem exec_newContext (h : a.exec threads d k regs choice = some o)
    (hx : o.shared.contexts[context]? = some x) (hnone : d.contexts[context]? = none) :
    context = d.contexts.length ∧ x.activeEntries = 0 ∧ x.freed = false ∧ x.retired = false ∧
      x.generation = d.keyboardMouse.generation ∧ o.shared.keyboardMouse = d.keyboardMouse ∧
        ∃ owner, o.next = [.keyboardMouse (.vhfCreate owner context)] := by
  have hlen : o.shared.contexts.length = d.contexts.length → False := by
    intro hlen
    have hlt := (List.getElem?_eq_some_iff.mp hx).1
    rw [hlen] at hlt
    rw [List.getElem?_eq_getElem hlt] at hnone
    simp at hnone
  have hstop : ∀ d' : Device, d'.contexts = d.contexts →
      d'.stopKeyboardMouseAdmission.contexts.length = d.contexts.length := by
    intro d' heq
    rcases stopAdmission_contexts (d := d') with h | ⟨i, h⟩
    · rw [h, heq]
    · rw [h, heq, List.length_modify]
  have hfree : ∀ (d' : Device) (freed : Option Nat), d'.contexts = d.contexts →
      (d'.freeContext freed).contexts.length = d.contexts.length := by
    intro d' freed heq
    cases freed with
    | none => exact congrArg List.length heq
    | some c => simp [Device.freeContext, Device.mapContext, heq]
  cases hkm : a.isKeyboardMouse with
  | true =>
      obtain ⟨act, rfl⟩ := keyboardMouse_of_isKeyboardMouse hkm
      cases act with
      | allocate owner =>
          simp only [Act.exec, KeyboardMouseAct.exec] at h
          split at h <;> cases h
          · have hle := List.getElem?_eq_none_iff.mp hnone
            have hx' : (d.contexts ++ [⟨d.keyboardMouse.generation, false, 0, false⟩])[context]? = some x := hx
            rw [List.getElem?_append_right hle] at hx'
            have hzero := (List.getElem?_eq_some_iff.mp hx').1
            have hnew := List.mem_singleton.mp (List.mem_of_getElem? hx')
            have hcontext : context = d.contexts.length := by
              simp only [List.length_singleton] at hzero
              omega
            subst hcontext
            rw [hnew]
            exact ⟨rfl, rfl, rfl, rfl, rfl, rfl, owner, rfl⟩
          · exact (hlen rfl).elim
      | readyEnter c | readyExit c =>
          cases h
          exact (hlen (by simp [Device.effect, Device.mapContext])).elim
      | vhfCreate owner c =>
          simp only [Act.exec, KeyboardMouseAct.exec] at h
          split at h <;> cases h
          · exact (hlen rfl).elim
          · exact (hlen (hfree d (some c) rfl)).elim
      | release lostOwner freed =>
          cases h
          refine (hlen (hfree _ freed ?_)).elim
          split <;> rfl
      | _ =>
          simp only [Act.exec, KeyboardMouseAct.exec] at h
          repeat' split at h
          all_goals cases h
          all_goals first
            | exact (hlen rfl).elim
            | exact (hlen (hstop _ rfl)).elim
  | false =>
      refine (hlen ?_).elim
      cases hover : a.takesOver with
      | false => rw [(other_slot hkm hover h).2.1]
      | true =>
          cases a with
          | power act =>
              cases h
              cases act with
              | stopMark forgetTarget | downMark => exact hstop d.stopTimer rfl
              | _ => rfl
          | _ => simp [Act.takesOver] at hover

end Exec

section Threads

variable {w w' : World} {i : Nat} {choice : Choice}

theorem Shaped.next {t : Task} (h : Shaped t) {a : Act} {rest : List Act} (htodo : t.todo = a :: rest)
    {threads : List Task} {d : Device} {regs : Registers} {o : Effect}
    (hexec : a.exec threads d t.kind regs choice = some o) :
    Shaped (o.thread t rest) := by
  unfold Shaped at h ⊢
  show match t.kind with
    | .keyboardMouseReady _ context => Calling context (o.next ++ rest)
    | _ => ∀ b ∈ o.next ++ rest, b.activation = none
  split
  · rename_i handle context hkind
    rw [hkind, htodo] at h
    exact Calling.next h hexec
  · rename_i hkind
    split at h
    · rename_i handle context hkind'
      exact absurd hkind' (hkind handle context)
    · rw [htodo] at h
      intro b hb
      rcases List.mem_append.mp hb with hb | hb
      · exact activation_none_next (h a (by simp)) hexec b hb
      · exact h b (by simp [hb])

theorem shaped_start (operation : Operation) : Shaped operation.start := by
  unfold Shaped
  show match operation with
    | .keyboardMouseReady _ context => Calling context operation.program
    | _ => ∀ b ∈ operation.program, b.activation = none
  split
  · exact .entering
  · rename_i hkind
    intro b hb
    cases program_starts b hb with
    | readyEnter handle context => exact absurd rfl (hkind handle context)
    | _ => rfl

theorem shaped_after (h : ∀ t ∈ w.threads, Shaped t) (s : System.ActStep driver w i choice w') :
    ∀ t ∈ w'.threads, Shaped t := by
  intro t ht
  rcases s.mem_after t ht with rfl | hold | hnew
  · exact (h s.thread s.mem).next s.todo s.exec
  · exact h t hold
  · rw [spawn_worker (k := s.thread.kind) s.exec t hnew]
    intro b hb
    rw [List.mem_singleton.mp hb]
    rfl

end Threads

end LibVirtualGamepad
