import LibVirtualGamepad.Driver.NativePump.Entries

-- An activation's context: it counts the entries that have not left it, and it is freed
-- only when there are none and there can be none any more.
namespace LibVirtualGamepad

open Interleaving

-- The acts that hand a new activation on; they are done as soon as they are put there.
def Act.handsOn : Act → Bool
  | .keyboardMouse (.vhfCreate _ _) | .keyboardMouse (.publish _ _ _) => true
  | _ => false

section Exec

variable {d : Device} {regs : Registers} {choice : Choice} {threads : List Task} {k : Operation}
  {o : Effect} {a : Act} {context : Nat}

-- The entries that a context counts, against the acts that leave it.
theorem entries_balance (h : a.exec threads d k regs choice = some o) {n : Nat}
    (hpos : a.holds context = true → 0 < n) :
    a.entries context n + (if a.holds context then 1 else 0) =
      n + o.next.countP (Act.holds context) := by
  have hnone : ∀ acts : List Act, (∀ b ∈ acts, b.activation = none) →
      acts.countP (Act.holds context) = 0 := by
    intro acts hacts
    refine List.countP_eq_zero.mpr fun b hb hholds => ?_
    have := hacts b hb
    rw [activation_of_holds hholds] at this
    simp at this
  cases hactivation : a.activation with
  | none =>
      have hholds : a.holds context = false := by
        cases hholds : a.holds context with
        | false => rfl
        | true =>
            rw [activation_of_holds hholds] at hactivation
            simp at hactivation
      have hentries : a.entries context n = n := by
        cases a with
        | keyboardMouse act =>
            cases act <;> first | rfl | simp [Act.activation, KeyboardMouseAct.activation] at hactivation
        | _ => rfl
      rw [hholds, hentries, hnone _ (activation_none_next hactivation h)]
      rfl
  | some c =>
      obtain ⟨act, rfl⟩ := keyboardMouse_of_isKeyboardMouse (isKeyboardMouse_of_activation hactivation)
      have hexec : act.exec d regs choice = some o := h
      cases hrun : act.running with
      | true =>
          have hact : (Act.keyboardMouse act).entries context n = n ∧
              (Act.keyboardMouse act).holds context = false := by
            cases act <;> first | exact ⟨rfl, rfl⟩ | simp [KeyboardMouseAct.running] at hrun
          have hnext : o.next.countP (Act.holds context) = 0 := by
            rcases running_next hrun hactivation hexec with hnext | ⟨act', hnext, hrun', -⟩
            · rw [hnext]
              rfl
            · rw [hnext]
              cases act' <;> first | rfl | simp [KeyboardMouseAct.running] at hrun'
          rw [hact.1, hact.2, hnext]
          rfl
      | false =>
          cases act with
          | readyEnter c' =>
              cases h
              by_cases hc : c' = context <;> simp [Act.entries, Act.holds, Device.effect, hc]
          | readyCheck c' =>
              simp only [Act.exec, KeyboardMouseAct.exec] at h
              split at h <;> cases h <;>
                by_cases hc : c' = context <;> simp [Act.entries, Act.holds, Device.effect, hc]
          | readyGrant c' =>
              simp only [Act.exec, KeyboardMouseAct.exec] at h
              split at h <;> cases h <;>
                by_cases hc : c' = context <;>
                  simp [Act.entries, Act.holds, Device.effect, hc]
          | readyExit c' =>
              cases h
              by_cases hc : c' = context
              · have hn := hpos (by simp [Act.holds, hc])
                simp only [Act.entries, Act.holds, Device.effect, hc, BEq.rfl, if_true, List.countP_nil]
                omega
              · simp [Act.entries, Act.holds, Device.effect, hc]
          | pumpEnter | pumpTake | submitEnter | submitLeave => simp [KeyboardMouseAct.running] at hrun
          | _ => simp [Act.activation, KeyboardMouseAct.activation] at hactivation

-- An activation is handed on by its allocation and by its child's creation.
theorem handsOn_from {b : Act} (h : a.exec threads d k regs choice = some o) (hb : b ∈ o.next)
    (hands : b.handsOn = true) :
    (∃ owner, a = .keyboardMouse (.allocate owner)) ∨
      ∃ owner context, a = .keyboardMouse (.vhfCreate owner context) := by
  cases hkm : a.isKeyboardMouse with
  | false =>
      have hb' : b.isKeyboardMouse = true := by
        cases b <;> first | rfl | simp [Act.handsOn] at hands
      rcases (other_next hkm h).2 b hb hb' with rfl | ⟨retain, rfl⟩ <;> simp [Act.handsOn] at hands
  | true =>
      obtain ⟨act, rfl⟩ := keyboardMouse_of_isKeyboardMouse hkm
      have hnone : (∀ c ∈ o.next, c.handsOn = false) → False := by
        intro hnone
        rw [hnone b hb] at hands
        simp at hands
      cases act with
      | allocate owner => exact .inl ⟨owner, rfl⟩
      | vhfCreate owner context => exact .inr ⟨owner, context, rfl⟩
      | authorize owner request =>
          simp only [Act.exec, KeyboardMouseAct.exec] at h
          refine (hnone ?_).elim
          split at h <;> cases h
          · cases request <;> simp [Device.effect, KeyboardMouseRequest.program, Act.handsOn]
          · simp [Device.effect]
      | detach retain =>
          simp only [Act.exec, KeyboardMouseAct.exec] at h
          refine (hnone ?_).elim
          split at h <;> cases h
          · cases d.keyboardMouse.vhf <;> cases d.keyboardMouse.callbackContext <;>
              simp [Device.effect, Act.handsOn]
          · simp [Device.effect, Act.handsOn]
      | cleanupStop owner =>
          simp only [Act.exec, KeyboardMouseAct.exec] at h
          refine (hnone ?_).elim
          split at h <;> cases h
          · simp only [Device.effect]
            split <;> simp [deleteStoppedKeyboardMouse, Act.handsOn]
          · simp [Device.effect]
      | pumpTake context =>
          simp only [Act.exec, KeyboardMouseAct.exec] at h
          refine (hnone ?_).elim
          split at h <;> cases h
          · cases d.keyboardMouse.vhf <;> simp [Device.effect, Act.handsOn]
          · simp [Device.effect]
      | _ =>
          simp only [Act.exec, KeyboardMouseAct.exec] at h
          refine (hnone ?_).elim
          repeat' split at h
          all_goals cases h
          all_goals simp [Device.effect, deleteStoppedKeyboardMouse, targetOpen, Act.handsOn]

theorem handsOn_tail (h : a.exec threads d k regs choice = some o) : ∀ b ∈ o.next.tail, b.handsOn = false := by
  intro b hb
  cases hands : b.handsOn with
  | false => rfl
  | true =>
      rcases handsOn_from h (List.mem_of_mem_tail hb) hands with ⟨owner, rfl⟩ | ⟨owner, context, rfl⟩ <;>
        simp only [Act.exec, KeyboardMouseAct.exec] at h <;> split at h <;> cases h <;>
          simp [Device.effect] at hb

theorem vhfCreate_from {owner : File} (h : a.exec threads d k regs choice = some o)
    (hnext : o.next.head? = some (.keyboardMouse (.vhfCreate owner context))) :
    context = d.contexts.length ∧ o.shared = d.addContext := by
  rcases handsOn_from h (List.mem_of_mem_head? hnext) rfl with ⟨owner', rfl⟩ | ⟨owner', context', rfl⟩
  · simp only [Act.exec, KeyboardMouseAct.exec] at h
    split at h <;> cases h
    · simp only [Device.effect, List.head?_cons, Option.some.injEq, Act.keyboardMouse.injEq,
        KeyboardMouseAct.vhfCreate.injEq] at hnext
      exact ⟨hnext.2.symm, rfl⟩
    · simp [Device.effect] at hnext
  · simp only [Act.exec, KeyboardMouseAct.exec] at h
    split at h <;> cases h <;> simp [Device.effect] at hnext

theorem publish_from {owner : File} {handle : Handle} (h : a.exec threads d k regs choice = some o)
    (hnext : o.next.head? = some (.keyboardMouse (.publish owner context handle))) :
    a = .keyboardMouse (.vhfCreate owner context) ∧ o.shared.contexts = d.contexts ∧
      o.shared.keyboardMouse = d.keyboardMouse := by
  rcases handsOn_from h (List.mem_of_mem_head? hnext) rfl with ⟨owner', rfl⟩ | ⟨owner', context', rfl⟩
  · simp only [Act.exec, KeyboardMouseAct.exec] at h
    split at h <;> cases h <;> simp [Device.effect] at hnext
  · simp only [Act.exec, KeyboardMouseAct.exec] at h
    split at h <;> cases h
    · simp only [Device.effect, List.head?_cons, Option.some.injEq, Act.keyboardMouse.injEq,
        KeyboardMouseAct.publish.injEq] at hnext
      obtain ⟨rfl, rfl, -⟩ := hnext
      exact ⟨rfl, rfl, rfl⟩
    · simp [Device.effect] at hnext

end Exec

theorem Calling.activation {context : Nat} {todo : List Act} (h : Calling context todo) :
    ∀ b ∈ todo, b.activation = some context := by
  cases h with
  | looping act hrun hact =>
      intro b hb
      simp only [List.mem_cons, List.not_mem_nil, or_false] at hb
      rcases hb with rfl | rfl
      · exact hact
      · rfl
  | _ => simp [Act.activation, KeyboardMouseAct.activation]

-- Whoever has been run has entered.
theorem Calling.entered {d : Device} {regs : Registers} {choice : Choice} {threads : List Task}
    {k : Operation} {o : Effect} {a : Act} {rest : List Act} {context : Nat}
    (h : Calling context (a :: rest)) (hexec : a.exec threads d k regs choice = some o)
    (henter : Act.keyboardMouse (.readyEnter context) ∈ o.next ++ rest) : False := by
  cases h with
  | entering =>
      cases hexec
      simp [Device.effect] at henter
  | checking =>
      simp only [Act.exec, KeyboardMouseAct.exec] at hexec
      split at hexec <;> cases hexec <;> simp [Device.effect] at henter
  | granting =>
      simp only [Act.exec, KeyboardMouseAct.exec] at hexec
      split at hexec <;> cases hexec <;> simp [Device.effect] at henter
  | leaving =>
      cases hexec
      simp [Device.effect] at henter
  | looping act hrun hact =>
      rcases running_next hrun hact hexec with hnext | ⟨act', hnext, hrun', -⟩
      · simp [hnext] at henter
      · rw [hnext] at henter
        simp only [List.cons_append, List.nil_append, List.mem_cons, List.not_mem_nil, or_false,
          Act.keyboardMouse.injEq, reduceCtorEq] at henter
        rw [← henter] at hrun'
        simp [KeyboardMouseAct.running] at hrun'

structure Contexts (w : World) : Prop where
  shaped : ∀ t ∈ w.threads, Shaped t
  -- What hands an activation on is done next.
  handed : ∀ t ∈ w.threads, ∀ b ∈ t.todo.tail, b.handsOn = false
  counted : ∀ (c : Nat) (x : CallbackContext), w.shared.contexts[c]? = some x →
    x.activeEntries = pending (fun _ => Act.holds c) w.threads
  known : ∀ t ∈ w.threads, t.todo ≠ [] → ∀ (h : Handle) (c : Nat), t.kind = .keyboardMouseReady h c →
    ∃ child, w.shared.children[h]? = some child ∧ child.place = .keyboardMouse ∧
      child.context = some c ∧ (.keyboardMouse (.readyEnter c) ∈ t.todo → child.deleteReturns = 0)
  bounded : ∀ (h : Handle) (child : Child), w.shared.children[h]? = some child → ∀ c : Nat,
    child.context = some c → child.place = .keyboardMouse ∧ c < w.shared.contexts.length
  -- Every child of a freed context has been deleted, so nobody enters it any more.
  freed : ∀ (c : Nat) (x : CallbackContext), w.shared.contexts[c]? = some x → x.freed = true →
    x.activeEntries = 0 ∧ ∀ (h : Handle) (child : Child), w.shared.children[h]? = some child →
      child.context = some c → 0 < child.deleteReturns
  creating : ∀ (i : Nat) (t : Task) owner (c : Nat) rest, w.threads[i]? = some t →
    t.todo = .keyboardMouse (.vhfCreate owner c) :: rest →
      (∃ x, w.shared.contexts[c]? = some x ∧ x.freed = false ∧ x.retired = false ∧
        x.generation = w.shared.keyboardMouse.generation) ∧
      ∀ (h : Handle) (child : Child), w.shared.children[h]? = some child → child.context ≠ some c
  publishing : ∀ (i : Nat) (t : Task) owner (c : Nat) handle rest, w.threads[i]? = some t →
    t.todo = .keyboardMouse (.publish owner c handle) :: rest →
      ∃ x, w.shared.contexts[c]? = some x ∧ x.retired = false ∧
        x.generation = w.shared.keyboardMouse.generation
  releasing : ∀ (i : Nat) (t : Task) lostOwner (c : Nat) rest, w.threads[i]? = some t →
    t.todo = .keyboardMouse (.release lostOwner (some c)) :: rest →
      ∀ x : CallbackContext, w.shared.contexts[c]? = some x → x.activeEntries = 0

namespace Contexts

variable {w w' : World} {i : Nat} {choice : Choice}

-- Whoever runs for an activation is a callback of a child that was created for it.
theorem caller (h : Contexts w) {t : Task} {b : Act} {c : Nat} (ht : t ∈ w.threads) (hb : b ∈ t.todo)
    (hc : b.activation = some c) : ∃ handle child, t.kind = .keyboardMouseReady handle c ∧
      w.shared.children[handle]? = some child ∧ child.context = some c ∧
        (.keyboardMouse (.readyEnter c) ∈ t.todo → child.deleteReturns = 0) := by
  have hshaped := h.shaped t ht
  unfold Shaped at hshaped
  split at hshaped
  · rename_i handle context hkind
    obtain rfl : context = c := Option.some.inj ((hshaped.activation b hb).symm.trans hc)
    obtain ⟨child, hchild, -, hcc, hreturns⟩ :=
      h.known t ht (List.ne_nil_of_mem hb) handle context hkind
    exact ⟨handle, child, hkind, hchild, hcc, hreturns⟩
  · rw [hshaped b hb] at hc
    simp at hc

theorem no_entries (h : Contexts w) {c : Nat}
    (hno : ∀ (handle : Handle) (child : Child), w.shared.children[handle]? = some child →
      child.context ≠ some c) : pending (fun _ => Act.holds c) w.threads = 0 := by
  refine (pending_eq_zero_iff _ _).mpr fun t ht b hb => ?_
  cases hholds : b.holds c with
  | false => rfl
  | true =>
      obtain ⟨handle, child, -, hchild, hcontext, -⟩ := h.caller ht hb (activation_of_holds hholds)
      exact absurd hcontext (hno handle child hchild)

theorem exec_of (s : System.ActStep driver w i choice w') :
    s.act.exec w.threads w.shared s.thread.kind s.thread.regs choice = some s.outcome := s.exec

theorem handed_after (h : Contexts w) (s : System.ActStep driver w i choice w') : ∀ t ∈ w'.threads, ∀ b ∈ t.todo.tail, b.handsOn = false := by
  intro t ht b hb
  rcases s.mem_after t ht with rfl | hold | hnew
  · have hbefore := h.handed s.thread s.mem
    rw [s.todo, List.tail_cons] at hbefore
    have hfront : b ∈ (s.outcome.next ++ s.rest).tail := hb
    cases hnext : s.outcome.next with
    | nil =>
        rw [hnext, List.nil_append] at hfront
        exact hbefore b (List.mem_of_mem_tail hfront)
    | cons c more =>
        rw [hnext, List.cons_append, List.tail_cons] at hfront
        rcases List.mem_append.mp hfront with hb | hb
        · have htail := handsOn_tail (exec_of s)
          rw [hnext] at htail
          exact htail b hb
        · exact hbefore b hb
  · exact h.handed t hold b hb
  · rw [spawn_worker (exec_of s) t hnew] at hb
    simp at hb

theorem counted_after (h : Contexts w) (s : System.ActStep driver w i choice w') {c : Nat} {x : CallbackContext}
    (hx : w'.shared.contexts[c]? = some x) :
    x.activeEntries = pending (fun _ => Act.holds c) w'.threads := by
  have hspawn : pending (fun _ => Act.holds c) s.outcome.spawn = 0 :=
    pending_spawn (fun _ _ hb => isKeyboardMouse_of_activation (activation_of_holds hb))
      (exec_spawn (exec_of s))
  have heq := s.pending_eq fun _ => Act.holds c
  rw [s.shared_after] at hx
  cases hbefore : w.shared.contexts[c]? with
  | some y =>
      obtain ⟨x', hx', hkept⟩ := exec_context (exec_of s) hbefore
      obtain rfl := Option.some.inj (hx.symm.trans hx')
      have hcount := h.counted c y hbefore
      have hbalance := entries_balance (exec_of s) (n := y.activeEntries) fun hholds => by
        rw [hcount]
        exact pending_pos s.mem (act_mem s) hholds
      rw [hkept.entries]
      omega
  | none =>
      obtain ⟨hc, hzero, -, -, -, -, owner, hnext⟩ := exec_newContext (exec_of s) hx hbefore
      have hno : pending (fun _ => Act.holds c) w.threads = 0 := by
        refine h.no_entries fun handle child hchild hcontext => ?_
        have := (h.bounded handle child hchild c hcontext).2
        omega
      have hnone : s.outcome.next.countP (Act.holds c) = 0 := by
        rw [hnext]
        rfl
      rw [hzero]
      omega

theorem known_after (h : Contexts w) (s : System.ActStep driver w i choice w') :
    ∀ t ∈ w'.threads, t.todo ≠ [] → ∀ (handle : Handle) (c : Nat), t.kind = .keyboardMouseReady handle c →
      ∃ child, w'.shared.children[handle]? = some child ∧ child.place = .keyboardMouse ∧
        child.context = some c ∧ (.keyboardMouse (.readyEnter c) ∈ t.todo → child.deleteReturns = 0) := by
  intro t ht htodo handle c hkind
  have hkin := exec_kin (exec_of s)
  rw [← s.shared_after] at hkin
  rcases s.mem_after t ht with rfl | hold | hnew
  · have hkind' : s.thread.kind = .keyboardMouseReady handle c := hkind
    obtain ⟨child, hchild, hplace, hcontext, -⟩ :=
      h.known s.thread s.mem (by rw [s.todo]; simp) handle c hkind'
    obtain ⟨child', hchild', hplace', hcontext', -⟩ := hkin.forward handle child hchild
    refine ⟨child', hchild', hplace'.trans hplace, hcontext'.trans hcontext, fun henter => ?_⟩
    -- Once it has been run a callback is inside.
    have hshaped := h.shaped s.thread s.mem
    unfold Shaped at hshaped
    rw [hkind', s.todo] at hshaped
    exact (hshaped.entered (exec_of s) henter).elim
  · obtain ⟨child, hchild, hplace, hcontext, hreturns⟩ := h.known t hold htodo handle c hkind
    obtain ⟨child', hchild', hplace', hcontext', hreturns'⟩ := hkin.forward handle child hchild
    refine ⟨child', hchild', hplace'.trans hplace, hcontext'.trans hcontext, fun henter => ?_⟩
    rcases hreturns' with hsame | ⟨hact, -⟩
    · exact hsame.trans (hreturns henter)
    · -- The deletion waits for those that have been called and not entered.
      exfalso
      have hexec := exec_of s
      rw [hact] at hexec
      have hentering : entering w.threads handle = true := by
        refine List.any_eq_true.mpr ⟨t, hold, ?_⟩
        rw [hkind]
        simp only [BEq.rfl, Bool.true_and, List.any_eq_true]
        exact ⟨_, henter, rfl⟩
      simp [Act.exec, hentering] at hexec
  · rw [spawn_worker (exec_of s) t hnew] at hkind
    simp at hkind

theorem length_after (s : System.ActStep driver w i choice w') :
    w.shared.contexts.length ≤ w'.shared.contexts.length := by
  by_contra hlt
  have hlast : w'.shared.contexts.length < w.shared.contexts.length := by omega
  obtain ⟨x', hx', -⟩ := exec_context (exec_of s) (List.getElem?_eq_getElem hlast)
  rw [← s.shared_after] at hx'
  have := (List.getElem?_eq_some_iff.mp hx').1
  omega

theorem bounded_after (h : Contexts w) (s : System.ActStep driver w i choice w') :
    ∀ (handle : Handle) (child : Child), w'.shared.children[handle]? = some child → ∀ c : Nat,
      child.context = some c → child.place = .keyboardMouse ∧ c < w'.shared.contexts.length := by
  intro handle child hchild c hcontext
  have hkin := exec_kin (exec_of s)
  rw [← s.shared_after] at hkin
  have hlen := length_after s
  rcases hkin.backward handle child hchild with ⟨old, hold⟩ | ⟨-, hnone | ⟨hplace, owner, c', hact, hsome⟩⟩
  · obtain ⟨child', hchild', hplace', hcontext', -⟩ := hkin.forward handle old hold
    obtain rfl := Option.some.inj (hchild.symm.trans hchild')
    obtain ⟨hplace, hlt⟩ := h.bounded handle old hold c (hcontext'.symm.trans hcontext)
    exact ⟨hplace'.trans hplace, by omega⟩
  · rw [hnone] at hcontext
    simp at hcontext
  · obtain rfl : c' = c := Option.some.inj (hsome.symm.trans hcontext)
    have htodo := s.todo
    rw [hact] at htodo
    obtain ⟨⟨x, hx, -⟩, -⟩ := h.creating i s.thread owner c' s.rest s.at_index htodo
    have := (List.getElem?_eq_some_iff.mp hx).1
    exact ⟨hplace, by omega⟩

-- Where an activation is released nothing is left of its children.
theorem deleted_at_release (hd : Disciplined w) {j : Nat} {u : Task} {lostOwner : Option File}
    {context : Option Nat} {rest : List Act} (hu : w.threads[j]? = some u)
    (htodo : u.todo = .keyboardMouse (.release lostOwner context) :: rest) :
    ∀ (handle : Handle) (child : Child), w.shared.children[handle]? = some child →
      child.place = .keyboardMouse → child.deleteReturns = 1 := by
  intro handle child hchild hplace
  obtain ⟨m, m₁, ⟨M, φ, rfl, hM, -, -⟩, hst⟩ := hd.at_head hu htodo
  have hp := standings_some hst .keyboardMouse
  rcases hM with hM | ⟨owner, hM⟩
  · rw [hM] at hp
    obtain ⟨state, -, hstands⟩ := hp
    exact (hstands.children.others handle child hchild hplace (by simp [Standing.idle])).2
  · rw [hM] at hp
    exact (hp.2.1.children.others handle child hchild hplace (by simp [Stage.standing, Standing.idle])).2

-- What a thread that is about to act under the gate relies on stays as it is.
theorem undisturbed (hd : Disciplined w) (s : System.ActStep driver w i choice w') {j : Nat} {u : Task}
    {b : Act} {rest : List Act} (hj : j ≠ i) (hu : w.threads[j]? = some u) (htodo : u.todo = b :: rest)
    (hneeds : ∀ m m₁, b.spec u.kind m m₁ → m.isSome) :
    SameActivation w.shared w'.shared ∧ ∃ m₁, s.act.spec s.thread.kind none m₁ := by
  obtain ⟨m₁, hspec⟩ := hd.alone hu htodo hneeds (Ne.symm hj) s.at_index s.todo
  rw [s.shared_after]
  exact ⟨sameActivation_of_not_changes (not_changes_of_ungated hspec) (exec_of s), m₁, hspec⟩

-- Nobody enters for an activation whose children have been deleted.
theorem not_entering (h : Contexts w) (s : System.ActStep driver w i choice w') {c : Nat}
    (hdeleted : ∀ (handle : Handle) (child : Child), w.shared.children[handle]? = some child →
      child.context = some c → 0 < child.deleteReturns) : s.act.entries c 0 = 0 := by
  unfold Act.entries
  split
  · rename_i c' hact
    split
    · rename_i heq
      subst heq
      have hmem := act_mem s
      rw [hact] at hmem
      obtain ⟨handle, child, -, hchild, hcontext, hreturns⟩ := h.caller s.mem hmem rfl
      have := hdeleted handle child hchild hcontext
      have := hreturns hmem
      omega
    · rfl
  · split <;> rfl
  · rfl

theorem freed_after (h : Contexts w) (hd : Disciplined w) (s : System.ActStep driver w i choice w') :
    ∀ (c : Nat) (x : CallbackContext), w'.shared.contexts[c]? = some x → x.freed = true →
      x.activeEntries = 0 ∧ ∀ (handle : Handle) (child : Child),
        w'.shared.children[handle]? = some child → child.context = some c → 0 < child.deleteReturns := by
  intro c x hx hfreed
  have hkin := exec_kin (exec_of s)
  rw [s.shared_after] at hx
  rw [← s.shared_after] at hkin
  cases hbefore : w.shared.contexts[c]? with
  | none =>
      obtain ⟨-, -, hnot, -⟩ := exec_newContext (exec_of s) hx hbefore
      rw [hfreed] at hnot
      simp at hnot
  | some y =>
      obtain ⟨x', hx', hkept⟩ := exec_context (exec_of s) hbefore
      obtain rfl := Option.some.inj (hx.symm.trans hx')
      -- It is enough that its children had been deleted and nobody was inside.
      have hends : y.activeEntries = 0 → (∀ (handle : Handle) (child : Child),
          w.shared.children[handle]? = some child → child.context = some c → 0 < child.deleteReturns) →
          (∀ owner, s.act = .keyboardMouse (.vhfCreate owner c) → w'.shared.children = w.shared.children) →
          x.activeEntries = 0 ∧ ∀ (handle : Handle) (child : Child),
            w'.shared.children[handle]? = some child → child.context = some c →
              0 < child.deleteReturns := by
        intro hzero hdeleted hcreate
        refine ⟨?_, fun handle child hchild hcontext => ?_⟩
        · rw [hkept.entries, hzero]
          exact h.not_entering s hdeleted
        · rcases hkin.backward handle child hchild with
            ⟨old, hold⟩ | ⟨-, hnone | ⟨-, owner, c', hact, hsome⟩⟩
          · obtain ⟨child', hchild', -, hcontext', hreturns⟩ := hkin.forward handle old hold
            obtain rfl := Option.some.inj (hchild.symm.trans hchild')
            have hpos := hdeleted handle old hold (hcontext'.symm.trans hcontext)
            rcases hreturns with hsame | ⟨-, hmore⟩ <;> omega
          · rw [hnone] at hcontext
            simp at hcontext
          · obtain rfl : c' = c := Option.some.inj (hsome.symm.trans hcontext)
            rw [hcreate owner hact] at hchild
            exact hdeleted handle child hchild hcontext
      rcases hkept.freed hfreed with hold | hfrees
      · obtain ⟨hzero, hdeleted⟩ := h.freed c y hbefore hold
        refine hends hzero hdeleted fun owner hact => ?_
        have htodo := s.todo
        rw [hact] at htodo
        obtain ⟨⟨z, hz, hnot, -⟩, -⟩ := h.creating i s.thread owner c s.rest s.at_index htodo
        obtain rfl := Option.some.inj (hbefore.symm.trans hz)
        rw [hold] at hnot
        simp at hnot
      · unfold Act.frees at hfrees
        split at hfrees
        · rename_i owner c' hact
          obtain rfl : c' = c := beq_iff_eq.mp hfrees
          have htodo := s.todo
          rw [hact] at htodo
          obtain ⟨⟨z, hz, hnot, -⟩, hno⟩ := h.creating i s.thread owner c' s.rest s.at_index htodo
          obtain rfl := Option.some.inj (hbefore.symm.trans hz)
          refine hends ?_ (fun handle child hchild hcontext => absurd hcontext (hno handle child hchild))
            fun owner' _ => ?_
          · rw [h.counted c' y hbefore]
            exact h.no_entries hno
          · have hexec := exec_of s
            rw [hact] at hexec
            simp only [Act.exec, KeyboardMouseAct.exec] at hexec
            split at hexec
            · -- A child was created, so nothing was freed.
              have ho := Option.some.inj hexec
              rw [← ho] at hx
              obtain rfl := Option.some.inj (hx.symm.trans hbefore)
              rw [hfreed] at hnot
              simp at hnot
            · rw [s.shared_after, ← Option.some.inj hexec]
              rfl
        · rename_i lostOwner c' hact
          obtain rfl : c' = c := beq_iff_eq.mp hfrees
          have htodo := s.todo
          rw [hact] at htodo
          refine hends (h.releasing i s.thread lostOwner c' s.rest s.at_index htodo y hbefore)
            (fun handle child hchild hcontext => ?_) fun owner hcreate => ?_
          · have := deleted_at_release hd s.at_index htodo handle child hchild
              (h.bounded handle child hchild c' hcontext).1
            omega
          · rw [hact] at hcreate
            simp at hcreate
        · simp at hfrees

theorem vhfCreate_needs {owner : File} {c : Nat} {k : Operation} (m m₁ : Option Mode)
    (h : (Act.keyboardMouse (.vhfCreate owner c)).spec k m m₁) : m.isSome := by
  rw [show m = _ from h.1]
  rfl

theorem publish_needs {owner : File} {c : Nat} {handle : Handle} {k : Operation} (m m₁ : Option Mode)
    (h : (Act.keyboardMouse (.publish owner c handle)).spec k m m₁) : m.isSome := by
  rw [show m = _ from h.1]
  rfl

-- A context that the others leave alone.
theorem identity_after {d d' : Device} (hsame : SameActivation d d') {c : Nat} {x : CallbackContext}
    (hx : d.contexts[c]? = some x) : ∃ x', d'.contexts[c]? = some x' ∧ x'.identity = x.identity := by
  have h := hsame.contexts c
  rw [hx, Option.map_some, Option.map_eq_some_iff] at h
  exact h

theorem creating_after (h : Contexts w) (hd : Disciplined w) (s : System.ActStep driver w i choice w') :
    ∀ (j : Nat) (t : Task) owner (c : Nat) rest, w'.threads[j]? = some t →
      t.todo = .keyboardMouse (.vhfCreate owner c) :: rest →
        (∃ x, w'.shared.contexts[c]? = some x ∧ x.freed = false ∧ x.retired = false ∧
          x.generation = w'.shared.keyboardMouse.generation) ∧
        ∀ (handle : Handle) (child : Child), w'.shared.children[handle]? = some child →
          child.context ≠ some c := by
  intro j t owner c rest ht htodo
  have hkin := exec_kin (exec_of s)
  rw [← s.shared_after] at hkin
  rcases s.head_after ht htodo with ⟨-, -, -, hrest⟩ | ⟨-, -, hfirst⟩ | ⟨hj, hold⟩ | hnew
  · have hnot := h.handed s.thread s.mem (.keyboardMouse (.vhfCreate owner c)) (by
      rw [s.todo, hrest]
      simp)
    simp [Act.handsOn] at hnot
  · obtain ⟨rfl, hshared⟩ := vhfCreate_from (exec_of s) hfirst
    rw [s.shared_after, hshared]
    refine ⟨⟨_, List.getElem?_concat_length, rfl, rfl, rfl⟩, fun handle child hchild hcontext => ?_⟩
    have := (h.bounded handle child hchild _ hcontext).2
    omega
  · obtain ⟨hsame, m₁, hspec⟩ := undisturbed hd s hj hold htodo vhfCreate_needs
    obtain ⟨⟨x, hx, hfreed, hretired, hgeneration⟩, hno⟩ := h.creating j t owner c rest hold htodo
    obtain ⟨x', hx', hidentity⟩ := identity_after hsame hx
    simp only [CallbackContext.identity, Prod.mk.injEq] at hidentity
    refine ⟨⟨x', hx', hidentity.2.2.trans hfreed, hidentity.2.1.trans hretired, ?_⟩,
      fun handle child hchild hcontext => ?_⟩
    · rw [hsame.generation, ← hgeneration]
      exact hidentity.1
    · rcases hkin.backward handle child hchild with
        ⟨old, hold⟩ | ⟨-, hnone | ⟨-, owner', c', hact, -⟩⟩
      · obtain ⟨child', hchild', -, hcontext', -⟩ := hkin.forward handle old hold
        obtain rfl := Option.some.inj (hchild.symm.trans hchild')
        exact hno handle old hold (hcontext'.symm.trans hcontext)
      · rw [hnone] at hcontext
        simp at hcontext
      · rw [hact] at hspec
        exact absurd hspec.1 (by simp)
  · rw [spawn_worker (exec_of s) t hnew] at htodo
    simp at htodo

theorem publishing_after (h : Contexts w) (hd : Disciplined w) (s : System.ActStep driver w i choice w') :
    ∀ (j : Nat) (t : Task) owner (c : Nat) handle rest, w'.threads[j]? = some t →
      t.todo = .keyboardMouse (.publish owner c handle) :: rest →
        ∃ x, w'.shared.contexts[c]? = some x ∧ x.retired = false ∧
          x.generation = w'.shared.keyboardMouse.generation := by
  intro j t owner c handle rest ht htodo
  rcases s.head_after ht htodo with ⟨-, -, -, hrest⟩ | ⟨-, -, hfirst⟩ | ⟨hj, hold⟩ | hnew
  · have hnot := h.handed s.thread s.mem (.keyboardMouse (.publish owner c handle)) (by
      rw [s.todo, hrest]
      simp)
    simp [Act.handsOn] at hnot
  · obtain ⟨hact, hcontexts, hslot⟩ := publish_from (exec_of s) hfirst
    have hbefore := s.todo
    rw [hact] at hbefore
    obtain ⟨⟨x, hx, -, hretired, hgeneration⟩, -⟩ := h.creating i s.thread owner c s.rest s.at_index hbefore
    rw [s.shared_after, hcontexts, hslot]
    exact ⟨x, hx, hretired, hgeneration⟩
  · obtain ⟨hsame, -⟩ := undisturbed hd s hj hold htodo publish_needs
    obtain ⟨x, hx, hretired, hgeneration⟩ := h.publishing j t owner c handle rest hold htodo
    obtain ⟨x', hx', hidentity⟩ := identity_after hsame hx
    simp only [CallbackContext.identity, Prod.mk.injEq] at hidentity
    refine ⟨x', hx', hidentity.2.1.trans hretired, ?_⟩
    rw [hsame.generation, ← hgeneration]
    exact hidentity.1
  · rw [spawn_worker (exec_of s) t hnew] at htodo
    simp at htodo

theorem releasing_after (h : Contexts w) (hd : Disciplined w) (ho : ∀ t ∈ w.threads, Ordered t.todo)
    (s : System.ActStep driver w i choice w') :
    ∀ (j : Nat) (t : Task) lostOwner (c : Nat) rest, w'.threads[j]? = some t →
      t.todo = .keyboardMouse (.release lostOwner (some c)) :: rest →
        ∀ x : CallbackContext, w'.shared.contexts[c]? = some x → x.activeEntries = 0 := by
  intro j t lostOwner c rest ht htodo x hx
  rw [s.shared_after] at hx
  rcases s.head_after ht htodo with ⟨-, -, -, hrest⟩ | ⟨-, -, hfirst⟩ | ⟨hj, hold⟩ | hnew
  · -- Only the wait for the entries stands in front of it.
    have hordered := ho s.thread s.mem
    rw [s.todo, hrest] at hordered
    have hact : s.act = .keyboardMouse (.drainEntries c) :=
      (List.isChain_cons_cons.mp hordered).1.2 lostOwner c rfl
    have hexec := exec_of s
    rw [hact] at hexec
    simp only [Act.exec, KeyboardMouseAct.exec] at hexec
    split at hexec
    · rename_i y hy
      split at hexec
      · rename_i hzero
        rw [← Option.some.inj hexec] at hx
        obtain rfl := Option.some.inj (hx.symm.trans hy)
        exact hzero
      · simp at hexec
    · rename_i hnone
      rw [← Option.some.inj hexec] at hx
      exact absurd (hx.symm.trans hnone) (by simp)
  · have hunordered := (exec_fronts (exec_of s)).head _ hfirst
    simp [Act.unordered] at hunordered
  · cases hbefore : w.shared.contexts[c]? with
    | none =>
        obtain ⟨-, hzero, -⟩ := exec_newContext (exec_of s) hx hbefore
        exact hzero
    | some y =>
        obtain ⟨x', hx', hkept⟩ := exec_context (exec_of s) hbefore
        obtain rfl := Option.some.inj (hx.symm.trans hx')
        rw [hkept.entries, h.releasing j t lostOwner c rest hold htodo y hbefore]
        refine h.not_entering s fun handle child hchild hcontext => ?_
        have := deleted_at_release hd hold htodo handle child hchild (h.bounded handle child hchild c hcontext).1
        omega
  · rw [spawn_worker (exec_of s) t hnew] at htodo
    simp at htodo

theorem act (h : Contexts w) (hd : Disciplined w) (ho : ∀ t ∈ w.threads, Ordered t.todo)
    (s : System.ActStep driver w i choice w') : Contexts w' where
  shaped := shaped_after h.shaped s
  handed := h.handed_after s
  counted _ _ hx := h.counted_after s hx
  known := h.known_after s
  bounded := h.bounded_after s
  freed := h.freed_after hd s
  creating := h.creating_after hd s
  publishing := h.publishing_after hd s
  releasing := h.releasing_after hd ho s

theorem env {stimulus : Stimulus} (h : Contexts w) (hstep : driver.step w (.env stimulus) = some w') :
    Contexts w' := by
  rcases environment_cases hstep with ⟨keepalive, hshared, hthreads⟩ | ⟨operation, hmay, hshared, hthreads⟩
  · obtain ⟨shared, threads⟩ := w'
    obtain rfl : threads = w.threads := hthreads
    obtain rfl : shared = _ := hshared
    exact ⟨h.shaped, h.handed, h.counted, h.known, h.bounded, h.freed, h.creating, h.publishing, h.releasing⟩
  · obtain ⟨shared, threads⟩ := w'
    obtain rfl : shared = w.shared := hshared
    obtain rfl : threads = w.threads ++ [operation.start] := hthreads
    have hmem : ∀ t ∈ w.threads ++ [operation.start], t ∈ w.threads ∨ t = operation.start := by
      intro t ht
      rcases List.mem_append.mp ht with ht | ht
      · exact .inl ht
      · exact .inr (List.mem_singleton.mp ht)
    have hplain : ∀ b ∈ operation.program, b.handsOn = false ∧ b.unordered = true ∧
        ∀ c, b.holds c = false := by
      intro b hb
      cases program_starts b hb <;> exact ⟨rfl, rfl, fun _ => rfl⟩
    have hhead : ∀ {b : Act} {rest : List Act} (j : Nat) (t : Task),
        (w.threads ++ [operation.start])[j]? = some t → t.todo = b :: rest →
          (b.handsOn = true ∨ b.unordered = false) → w.threads[j]? = some t := by
      intro b rest j t ht htodo hb
      obtain hold | ⟨-, rfl⟩ := at_started ht
      · exact hold
      · obtain ⟨hhands, hunordered, -⟩ := hplain b (by
          show b ∈ operation.start.todo
          rw [htodo]
          simp)
        rw [hhands, hunordered] at hb
        simp at hb
    refine ⟨fun t ht => ?_, fun t ht b hb => ?_, fun c x hx => ?_, fun t ht htodo handle c hkind => ?_,
      h.bounded, h.freed, fun j t owner c rest ht htodo => ?_, fun j t owner c handle rest ht htodo => ?_,
      fun j t lostOwner c rest ht htodo => ?_⟩
    · rcases hmem t ht with hold | rfl
      · exact h.shaped t hold
      · exact shaped_start operation
    · rcases hmem t ht with hold | rfl
      · exact h.handed t hold b hb
      · exact (hplain b (List.mem_of_mem_tail hb)).1
    · have hnone : pending (fun _ => Act.holds c) [operation.start] = 0 := by
        refine (pending_eq_zero_iff _ _).mpr fun t ht b hb => ?_
        obtain rfl := List.mem_singleton.mp ht
        exact (hplain b hb).2.2 c
      rw [h.counted c x hx, pending_append, hnone, Nat.add_zero]
    · rcases hmem t ht with hold | rfl
      · exact h.known t hold htodo handle c hkind
      · obtain rfl : operation = .keyboardMouseReady handle c := hkind
        simp only [Device.mayStart, Device.callable] at hmay
        split at hmay
        · rename_i child hchild
          simp only [Bool.and_eq_true, beq_iff_eq] at hmay
          exact ⟨child, hchild, hmay.1.1.1, hmay.1.1.2, fun _ => hmay.2⟩
        · simp at hmay
    · exact h.creating j t owner c rest (hhead j t ht htodo (.inl rfl)) htodo
    · exact h.publishing j t owner c handle rest (hhead j t ht htodo (.inl rfl)) htodo
    · exact h.releasing j t lostOwner c rest (hhead j t ht htodo (.inr rfl)) htodo

theorem initial (keepalive : Bool) : Contexts (World.initial keepalive) := by
  constructor <;> simp [World.initial, Device.added]

end Contexts

end LibVirtualGamepad
