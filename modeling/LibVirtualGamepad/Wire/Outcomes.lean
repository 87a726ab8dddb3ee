import LibVirtualGamepad.KeyboardMouse.Delivery
import LibVirtualGamepad.Wire.Replies

-- What became of a keyboard or mouse event, as its sender learns it: busy only when the
-- event left no trace, success only when it was queued once or changed nothing.
namespace LibVirtualGamepad

open Interleaving Wire Client

open KeyboardMouse (Endpoint)

-- What the section that offers the event to the endpoint answers.
def Device.submitStatus (d : Device) (owner : File) (event : KeyboardMouse.Request) : NtStatus :=
  let slot := d.keyboardMouse
  if slot.owner ≠ some owner then .accessDenied
  else if slot.state = .lost then .deviceRemoved
  else if !d.keyboardMouseLive owner || slot.state != .active then .deviceNotReady
  else (slot.core.submit (some owner) event).1.toStatus

-- The acts between that section and the answer.
def Act.pumps : Act → Bool
  | .unlockLifetime => true
  | .keyboardMouse (.pumpEnter none) | .keyboardMouse (.pumpTake none)
  | .keyboardMouse (.submitEnter _ none) | .keyboardMouse (.submitLeave _ none) => true
  | _ => false

-- A thread behind the section, which answered `status`.
inductive Proceeds (status : NtStatus) : Registers → List Act → Prop where
  | pumping {regs : Registers} {front : List Act} (hok : status.ok = true)
    (pumps : ∀ a ∈ front, a.pumps = true)
    (answer : regs.status = .success ∨ regs.status = .deviceNotReady) :
    Proceeds status regs (front ++ [.keyboardMouse .submitAnswer])
  | refused {regs : Registers} {front : List Act} (hfailed : status.ok = false)
    (leaves : ∀ a ∈ front, a = .unlockLifetime) (answer : regs.status = status) :
    Proceeds status regs (front ++ [.keyboardMouse .submitAnswer])
  | accepted (hok : status.ok = true) : Proceeds status ⟨.success, .acceptance false⟩ []
  | broken {regs : Registers} (hok : status.ok = true) (answer : regs.status = .deviceNotReady) :
    Proceeds status regs []
  | busy (hbusy : status = .deviceBusy) : Proceeds status ⟨.success, .acceptance true⟩ []
  | failed {regs : Registers} (hfailed : status.ok = false) (hnot : status ≠ .deviceBusy)
    (answer : regs.status = status) : Proceeds status regs []

section Section

variable {d : Device} {regs : Registers} {choice : Choice} {threads : List Task} {k : Operation}
  {o : Effect} {owner : File} {event : KeyboardMouse.Request} {status : NtStatus}

-- The section itself: the endpoint is asked when its slot is the caller's and running,
-- and changes only when it takes the event.
theorem submit_section
    (h : (KeyboardMouseAct.submit owner event).exec d regs choice = some o) :
    Proceeds (d.submitStatus owner event) o.regs o.next ∧
      o.shared.keyboardMouse.core =
        if (d.submitStatus owner event).ok then (d.keyboardMouse.core.submit (some owner) event).2
        else d.keyboardMouse.core := by
  have hleaves : ∀ a ∈ [Act.unlockLifetime], a = .unlockLifetime := fun a ha =>
    List.mem_singleton.1 ha
  unfold Device.submitStatus
  simp only [KeyboardMouseAct.exec] at h ⊢
  split at h
  · rename_i howner
    cases h
    rw [if_pos howner]
    exact ⟨.refused rfl hleaves rfl, rfl⟩
  · rename_i howner
    rw [if_neg howner]
    split at h
    · rename_i hlost
      cases h
      rw [if_pos hlost]
      exact ⟨.refused rfl hleaves rfl, rfl⟩
    · rename_i hlost
      rw [if_neg hlost]
      split at h
      · rename_i hidle
        cases h
        rw [if_pos hidle]
        exact ⟨.refused rfl hleaves rfl, rfl⟩
      · rename_i hidle
        cases h
        rw [if_neg hidle]
        cases hok : (d.keyboardMouse.core.submit (some owner) event).1.toStatus.ok with
        | true =>
          have hpumps : ∀ a ∈ [Act.unlockLifetime, .keyboardMouse (.pumpEnter none)],
              a.pumps = true := by simp [Act.pumps]
          refine ⟨.pumping hok hpumps (.inl ?_), by rw [if_pos rfl]; rfl⟩
          · show (d.keyboardMouse.core.submit (some owner) event).1.toStatus = .success
            generalize (d.keyboardMouse.core.submit (some owner) event).1.toStatus = status at hok
            cases status <;> first | rfl | cases hok
        | false =>
          refine ⟨.refused hok hleaves rfl, ?_⟩
          rw [if_neg Bool.false_ne_true]
          exact KeyboardMouse.submit_refused fun haccepted => by
            rw [haccepted] at hok
            cases hok

-- What the pump does leads to no other status, and to nothing but the pump.
theorem pumps_exec {a : Act} (ha : a.pumps = true) (h : a.exec threads d k regs choice = some o)
    (hanswer : regs.status = .success ∨ regs.status = .deviceNotReady) :
    (∀ b ∈ o.next, b.pumps = true) ∧
      (o.regs.status = .success ∨ o.regs.status = .deviceNotReady) := by
  unfold Act.pumps at ha
  split at ha
  · cases h
    exact ⟨List.forall_mem_nil _, hanswer⟩
  · simp only [Act.exec, KeyboardMouseAct.exec] at h
    split at h <;> cases h
    · exact ⟨List.forall_mem_nil _, .inl rfl⟩
    · exact ⟨by simp [Device.effect, Act.pumps], hanswer⟩
  · simp only [Act.exec, KeyboardMouseAct.exec] at h
    split at h <;> cases h
    · refine ⟨?_, hanswer⟩
      cases d.keyboardMouse.vhf <;> simp [Device.effect, Act.pumps]
    · exact ⟨List.forall_mem_nil _, .inl rfl⟩
  · cases h
    exact ⟨by simp [Device.effect, Act.pumps], hanswer⟩
  · simp only [Act.exec, KeyboardMouseAct.exec, Option.any_none, Bool.false_eq_true, if_false] at h
    split at h <;> cases h
    · exact ⟨by simp [Device.effect, Act.pumps], hanswer⟩
    · exact ⟨List.forall_mem_nil _, .inr rfl⟩
  · cases ha

-- One act behind the section.
theorem Proceeds.act {a : Act} {rest : List Act} (h : Proceeds status regs (a :: rest))
    (hexec : a.exec threads d k regs choice = some o) : Proceeds status o.regs (o.next ++ rest) := by
  generalize htodo : a :: rest = todo at h
  cases h with
  | pumping hok hpumps hanswer =>
    rename_i front
    cases front with
    | nil =>
      obtain ⟨rfl, rfl⟩ := List.cons_eq_cons.1 htodo
      simp only [Act.exec, KeyboardMouseAct.exec] at hexec
      obtain hsuccess | hbroken := hanswer
      · rw [hsuccess] at hexec
        cases hexec
        exact .accepted hok
      · simp only [hbroken] at hexec
        cases hexec
        exact .broken hok hbroken
    | cons b front =>
      obtain ⟨rfl, rfl⟩ := List.cons_eq_cons.1 htodo
      have hstep := pumps_exec (hpumps a List.mem_cons_self) hexec hanswer
      show Proceeds status o.regs (o.next ++ (front ++ [.keyboardMouse .submitAnswer]))
      rw [← List.append_assoc]
      refine .pumping hok (fun c hc => ?_) hstep.2
      obtain hnext | hrest := List.mem_append.1 hc
      · exact hstep.1 c hnext
      · exact hpumps c (List.mem_cons_of_mem _ hrest)
  | refused hfailed hleaves hanswer =>
    rename_i front
    cases front with
    | nil =>
      obtain ⟨rfl, rfl⟩ := List.cons_eq_cons.1 htodo
      simp only [Act.exec, KeyboardMouseAct.exec, hanswer, hfailed, Bool.false_eq_true,
        if_false] at hexec
      by_cases hbusy : status = .deviceBusy
      · rw [if_pos hbusy] at hexec
        cases hexec
        exact .busy hbusy
      · rw [if_neg hbusy] at hexec
        cases hexec
        exact .failed hfailed hbusy hanswer
    | cons b front =>
      obtain ⟨rfl, rfl⟩ := List.cons_eq_cons.1 htodo
      obtain rfl := hleaves a List.mem_cons_self
      cases hexec
      exact .refused hfailed (fun c hc => hleaves c (List.mem_cons_of_mem _ hc)) hanswer
  | _ => cases htodo

-- Behind the section no thread comes to it again.
theorem Proceeds.acts {todo : List Act} (h : Proceeds status regs todo) :
    ∀ a ∈ todo, a.pumps = true ∨ a = .keyboardMouse .submitAnswer := by
  intro a ha
  cases h with
  | pumping _ hpumps _ =>
    obtain hfront | hlast := List.mem_append.1 ha
    · exact .inl (hpumps a hfront)
    · exact .inr (List.mem_singleton.1 hlast)
  | refused _ hleaves _ =>
    obtain hfront | hlast := List.mem_append.1 ha
    · rw [hleaves a hfront]
      exact .inl rfl
    · exact .inr (List.mem_singleton.1 hlast)
  | _ => cases ha

theorem Proceeds.not_submit {rest : List Act} (h : Proceeds status regs
    (.keyboardMouse (.submit owner event) :: rest)) : False := by
  obtain hpumps | hanswer := h.acts _ List.mem_cons_self
  · cases hpumps
  · cases hanswer

end Section

section Runs

variable {keepalive : Bool} (run : driver.Run (World.initial keepalive))

-- The thread has not offered its event yet, or has done so at one position only.
inductive Offering (n j : Nat) (owner : File) (event : KeyboardMouse.Request) (t : Task) : Prop where
  | before
    (todo : t.todo = [.keyboardMouse (.authorize owner (.submit event))] ∨
      t.todo = [.lockLifetime, .keyboardMouse (.submit owner event)] ∨
      t.todo = [.keyboardMouse (.submit owner event)])
    (never : ∀ m choice, m < n → ¬run.Performs m j choice (.keyboardMouse (.submit owner event)))
  | refused (todo : t.todo = []) (answer : t.regs.status = .accessDenied)
    (never : ∀ m choice, m < n → ¬run.Performs m j choice (.keyboardMouse (.submit owner event)))
  | after (m : Nat) (choice : Choice) (earlier : m < n)
    (performed : run.Performs m j choice (.keyboardMouse (.submit owner event)))
    (once : ∀ m' choice', m' < n →
      run.Performs m' j choice' (.keyboardMouse (.submit owner event)) → m' = m)
    (proceeds : Proceeds ((run.world m).shared.submitStatus owner event) t.regs t.todo)

variable {run} {n j : Nat} {owner : File} {event : KeyboardMouse.Request} {t : Task}

-- A position at which something else happens adds nothing.
theorem never_later
    (h : ∀ m choice, m < n → ¬run.Performs m j choice (.keyboardMouse (.submit owner event)))
    (hnot : ∀ choice, ¬run.Performs n j choice (.keyboardMouse (.submit owner event))) :
    ∀ m choice, m < n + 1 → ¬run.Performs m j choice (.keyboardMouse (.submit owner event)) := by
  intro m choice hm
  by_cases hmn : m = n
  · subst hmn
    exact hnot choice
  · exact h m choice (by omega)

theorem Offering.later (h : Offering run n j owner event t)
    (hnot : ∀ choice, ¬run.Performs n j choice (.keyboardMouse (.submit owner event))) :
    Offering run (n + 1) j owner event t := by
  cases h with
  | before htodo hnever => exact .before htodo (never_later hnever hnot)
  | refused htodo hanswer hnever => exact .refused htodo hanswer (never_later hnever hnot)
  | after m choice hearlier hperformed honce hproceeds =>
    refine .after m choice (Nat.lt_succ_of_lt hearlier) hperformed (fun m' choice' hm' h' => ?_)
      hproceeds
    by_cases hmn : m' = n
    · subst hmn
      exact absurd h' (hnot choice')
    · exact honce m' choice' (by omega) h'

-- One act of the thread itself.
theorem Offering.act {choice : Choice} (hevent : run.events[n]? = some (.act j choice))
    (s : System.ActStep driver (run.world n) j choice (run.world (n + 1)))
    (h : Offering run n j owner event s.thread) :
    Offering run (n + 1) j owner event (s.outcome.thread s.thread s.rest) := by
  have hperforms := System.Run.performs_of_step hevent s
  have hexec : s.act.exec (run.world n).threads (run.world n).shared s.thread.kind s.thread.regs
      choice = some s.outcome := s.exec
  have hother (hact : s.act ≠ .keyboardMouse (.submit owner event)) (choice' : Choice) :
      ¬run.Performs n j choice' (.keyboardMouse (.submit owner event)) := fun h' =>
    hact (hperforms.unique h').2.2
  have htodo := s.todo
  cases h with
  | before hshape hnever =>
    rw [htodo] at hshape
    obtain hauthorize | hlock | hsubmit := hshape
    · obtain ⟨hact, hrest⟩ := List.cons_eq_cons.1 hauthorize
      have hnever := never_later hnever (hother (by rw [hact]; simp))
      rw [hact] at hexec
      simp only [Act.exec, KeyboardMouseAct.exec] at hexec
      split at hexec
      all_goals
        have houtcome := (Option.some.inj hexec).symm
        rw [hrest, houtcome]
      · exact .before (.inr (.inl rfl)) hnever
      · exact .refused rfl rfl hnever
    · obtain ⟨hact, hrest⟩ := List.cons_eq_cons.1 hlock
      have hnever := never_later hnever (hother (by rw [hact]; simp))
      rw [hact] at hexec
      simp only [Act.exec] at hexec
      split at hexec
      · cases hexec
      · have houtcome := (Option.some.inj hexec).symm
        rw [hrest, houtcome]
        exact .before (.inr (.inr rfl)) hnever
    · obtain ⟨hact, hrest⟩ := List.cons_eq_cons.1 hsubmit
      rw [hact] at hexec hperforms
      have hexec : (KeyboardMouseAct.submit owner event).exec _ _ choice = some s.outcome := hexec
      have hsection := (submit_section hexec).1
      refine .after n choice (Nat.lt_succ_self n) hperforms (fun m' c' hm' h' => ?_) ?_
      · by_cases hmn : m' = n
        · exact hmn
        · exact absurd h' (hnever m' c' (by omega))
      · show Proceeds _ s.outcome.regs (s.outcome.next ++ s.rest)
        rw [hrest, List.append_nil]
        exact hsection
  | refused hdone _ _ =>
    rw [htodo] at hdone
    cases hdone
  | after m choice' hearlier hperformed honce hproceeds =>
    rw [htodo] at hproceeds
    have hnot : s.act ≠ .keyboardMouse (.submit owner event) := fun hact => by
      rw [hact] at hproceeds
      exact hproceeds.not_submit
    refine .after m choice' (Nat.lt_succ_of_lt hearlier) hperformed (fun m' c' hm' h' => ?_)
      (hproceeds.act hexec)
    by_cases hmn : m' = n
    · subst hmn
      exact absurd h' (hother hnot c')
    · exact honce m' c' (by omega) h'

theorem Offering.once (h : Offering run n j owner event t) {m m' : Nat} {choice choice' : Choice}
    (hm : m < n) (hm' : m' < n)
    (hperforms : run.Performs m j choice (.keyboardMouse (.submit owner event)))
    (hperforms' : run.Performs m' j choice' (.keyboardMouse (.submit owner event))) : m = m' := by
  cases h with
  | before _ hnever | refused _ _ hnever => exact absurd hperforms (hnever m choice hm)
  | after _ _ _ _ honce _ =>
    rw [honce m choice hm hperforms, honce m' choice' hm' hperforms']

end Runs

end LibVirtualGamepad
