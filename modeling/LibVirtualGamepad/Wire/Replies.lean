import LibVirtualGamepad.Driver.PolledEvents
import LibVirtualGamepad.Wire.Calls

-- The replies of the driver's controls, and what the library reads out of them.
namespace LibVirtualGamepad

open Interleaving Wire Client

namespace Output

def kmQueryHeader : RequestHeader := ⟨24, KeyboardMouse.abiVersion, 0⟩
def kmSubmissionHeader : RequestHeader := ⟨16, KeyboardMouse.abiVersion, 0⟩

-- What is written to the caller's buffer, as many bytes as the request reports.
def reply : Output → List UInt8
  | .none => []
  | .bytes block => block
  | .event polled => feedbackEvent.write polled
  | .info answer => requestHeader.write (makeHeader queryInfoResponseBytes) ++ queryInfo.write answer
  | .keyboardMouseInfo capabilities queueCapacity generation =>
    Wire.KeyboardMouse.queryResponse.write (kmQueryHeader, capabilities, queueCapacity, generation, 0)
  | .acceptance busy =>
    Wire.KeyboardMouse.submissionResponse.write (kmSubmissionHeader, if busy then 1 else 0, 0)

end Output

-- The completion of a request as its caller sees it. `win32` is the system's own
-- translation of a status.
def Registers.completion (win32 : NtStatus → UInt32) (regs : Registers) :
    Except UInt32 (List UInt8) :=
  if regs.status.ok then .ok regs.output.reply else .error (win32 regs.status)

section Reading

theorem validResponse_info (info : QueryInfo) : validResponse (Output.reply (.info info)) = true :=
  valid_framed Wire.queryInfo info

theorem read_info (info : QueryInfo) :
    Wire.queryInfo.read ((Output.reply (.info info)).drop headerBytes) = info :=
  read_framed (full_queryInfo info)

theorem readCounters_reply (info : QueryInfo) :
    readCounters (Output.reply (.info info)) = .ok (.counters info.counters) := by
  simp only [readCounters, validResponse_info, Bool.not_true, Bool.false_eq_true, if_false, read_info]

-- The handshake of a driver of this protocol.
theorem readInfo_reply : readInfo (Output.reply (.info fillQueryInfo)) = .ok (.info fillQueryInfo) := by
  simp only [readInfo, validResponse_info, read_info, Bool.not_true]
  rfl

-- An event that the library accepts is of a type it knows.
theorem fits_of_accepted {event : FeedbackEvent} {controllerId bytes : UInt32}
    (h : pollFeedback true controllerId (.ok (bytes, event)) = errorSuccess) :
    feedbackEvent.Fits event := by
  rw [fits_feedbackEvent]
  cases htype : event.type with
  | other raw =>
    have hsize : feedbackPayloadSize event.type = 0xFFFF := by
      rw [htype]
      rfl
    simp only [pollFeedback, Bool.not_true, Bool.false_eq_true, if_false, hsize] at h
    split at h
    · cases h
    · rename_i hchecks
      simp only [not_or, ne_eq, Decidable.not_not] at hchecks
      obtain ⟨-, -, -, hroom, hpayload⟩ := hchecks
      rw [hpayload] at hroom
      exact absurd (by decide) hroom
  | _ => rfl

theorem readEvent_reply {event : FeedbackEvent} {controllerId : UInt32}
    (h : pollFeedback true controllerId (.ok (feedbackEventBytes, event)) = errorSuccess) :
    readEvent controllerId (Output.reply (.event event)) = .ok (.event event) := by
  have hlength : UInt32.ofNat (Output.reply (.event event)).length = feedbackEventBytes := by
    have hwritten : (Output.reply (.event event)).length = feedbackEvent.size :=
      feedbackEvent.length_write event
    rw [hwritten]
    rfl
  have hread := feedbackEvent.read_write event [] (fits_of_accepted h)
  rw [List.append_nil] at hread
  have hread : feedbackEvent.read (Output.reply (.event event)) = event := hread
  simp only [readEvent, hlength, hread, h, if_true]

theorem readKeyboardMouseInfo_reply :
    readKeyboardMouseInfo (Output.reply (.keyboardMouseInfo KeyboardMouse.primaryCapabilities
        (UInt32.ofNat KeyboardMouse.queueCapacity) KeyboardMouse.primaryAbsoluteGeneration)) =
      .ok (.keyboardMouse KeyboardMouse.primaryCapabilities
        (UInt32.ofNat KeyboardMouse.queueCapacity) KeyboardMouse.primaryAbsoluteGeneration) := by
  rfl

theorem readAcceptance_reply (busy : Bool) : readAcceptance (Output.reply (.acceptance busy)) =
    if busy then .error errorBusy else .ok .done := by
  cases busy <;> rfl

end Reading

-- What the driver's output means to the caller.
def Client.Call.result : Call → Output → Except UInt32 Answer
  | .queryInfo, .info info => .ok (.info info)
  | .queryFeedbackCounters _ _, .info info => .ok (.counters info.counters)
  | .pollFeedback _ _, .event event => .ok (.event event)
  | .queryKeyboardMouse _, .keyboardMouseInfo capabilities queueCapacity generation =>
    .ok (.keyboardMouse capabilities queueCapacity generation)
  | .submitKeyboardMouse _, .acceptance busy => if busy then .error errorBusy else .ok .done
  | .queryInfo, _ | .queryFeedbackCounters _ _, _ | .pollFeedback _ _, _
  | .queryKeyboardMouse _, _ | .submitKeyboardMouse _, _ => .error errorInvalidData
  | _, _ => .ok .done

-- The output of a request that has succeeded.
inductive Answered : Request → Output → Prop where
  | info : Answered (.query none) (.info fillQueryInfo)
  | counters (id : UInt32) (counters : FeedbackCounters) :
    Answered (.query (some id)) (.info { fillQueryInfo with counters := counters })
  | event {id : UInt32} {event : FeedbackEvent}
    (accepted : pollFeedback true id (.ok (feedbackEventBytes, event)) = errorSuccess) :
    Answered (.poll id) (.event event)
  | keyboardMouse : Answered (.keyboardMouse .query) (.keyboardMouseInfo
      KeyboardMouse.primaryCapabilities (UInt32.ofNat KeyboardMouse.queueCapacity)
      KeyboardMouse.primaryAbsoluteGeneration)
  | acceptance (event : KeyboardMouse.Request) (busy : Bool) :
    Answered (.keyboardMouse (.submit event)) (.acceptance busy)

def Request.asksOutput : Request → Bool
  | .query _ | .poll _ | .keyboardMouse .query | .keyboardMouse (.submit _) => true
  | _ => false

-- What is left to do of such a request.
inductive Serving (owner : File) : Request → List Act → Prop where
  | info : Serving owner (.query none) [.reply .success (.info fillQueryInfo)]
  | refused (request : Request) : Serving owner request [.reply .invalidParameter .none]
  | query (asked : UInt32) (id : ControllerId) :
    Serving owner (.query (some asked)) [.slot id (.query owner)]
  | poll {asked : UInt32} {id : ControllerId} (named : ControllerId.ofRequest asked = some id) :
    Serving owner (.poll asked) [.slot id (.poll owner)]
  | authorize (request : KeyboardMouseRequest) :
    Serving owner (.keyboardMouse request) [.keyboardMouse (.authorize owner request)]
  | kmQuery : Serving owner (.keyboardMouse .query) [.keyboardMouse (.query owner)]
  | locking (event : KeyboardMouse.Request) : Serving owner (.keyboardMouse (.submit event))
      [.lockLifetime, .keyboardMouse (.submit owner event)]
  | submitting (event : KeyboardMouse.Request) : Serving owner (.keyboardMouse (.submit event))
      [.keyboardMouse (.submit owner event)]
  | answering (event : KeyboardMouse.Request) (front : List Act) :
    Serving owner (.keyboardMouse (.submit event)) (front ++ [.keyboardMouse .submitAnswer])

-- A thread of such a request is on its way, or has its answer.
def Serves (owner : File) (request : Request) (t : Task) : Prop :=
  Serving owner request t.todo ∨
    (t.todo = [] ∧ (t.regs.status.ok = true → Answered request t.regs.output))

section Runs

variable {owner : File} {request : Request} {w w' : World} {i : Nat} {choice : Choice}

theorem Serving.ne_nil {todo : List Act} (h : Serving owner request todo) : todo ≠ [] := by
  cases h with
  | answering event front => simp
  | _ => simp

theorem serving_program (hasks : request.asksOutput = true) :
    Serving owner request (request.program owner) := by
  cases request with
  | query id =>
    cases id with
    | none => exact .info
    | some asked =>
      simp only [Request.program, withSlot]
      cases ControllerId.ofRequest asked with
      | none => exact .refused _
      | some id => exact .query asked id
  | poll asked =>
    simp only [Request.program, withSlot]
    cases hnamed : ControllerId.ofRequest asked with
    | none => exact .refused _
    | some id => exact .poll hnamed
  | keyboardMouse request => exact .authorize request
  | _ => cases hasks

-- A section that neither submits nor goes on.
structure Ends (r : StepResult) : Prop where
  startKeepalive : r.startKeepalive = false
  submit : r.submit = false
  next : r.next = []

theorem ended_slot {d : Device} {regs : Registers} {id : ControllerId} {step : SlotStep}
    (h : Ends (step.run (d.sectionOf id choice.now) (d.controllers id).data)) :
    (step.exec d regs choice id).next ++ [] = [] := by
  simp only [SlotStep.exec, Device.effect, h.startKeepalive, h.submit, h.next, Bool.false_eq_true,
    if_false, List.map_nil, List.append_nil]

theorem query_answers {s : Section} (owner : File) (data : SlotData) :
    Ends (s.query owner data) ∧ ∀ status, ((s.query owner data).status.getD status).ok = true →
      ∃ counters, (s.query owner data).output =
        some (.info { fillQueryInfo with counters := counters }) := by
  unfold Section.query
  split
  · exact ⟨⟨rfl, rfl, rfl⟩, fun _ hok => by cases hok⟩
  split
  · exact ⟨⟨rfl, rfl, rfl⟩, fun _ hok => by cases hok⟩
  · exact ⟨⟨rfl, rfl, rfl⟩, fun _ _ => ⟨_, rfl⟩⟩

theorem poll_answers {s : Section} (owner : File) (data : SlotData) :
    Ends (s.poll owner data) ∧ ∀ status, ((s.poll owner data).status.getD status).ok = true →
      ∃ event, (s.poll owner data).output = some (.event event) := by
  unfold Section.poll
  split
  · exact ⟨⟨rfl, rfl, rfl⟩, fun _ hok => by cases hok⟩
  split
  · exact ⟨⟨rfl, rfl, rfl⟩, fun _ hok => by cases hok⟩
  split
  · refine ⟨⟨rfl, rfl, rfl⟩, fun _ hok => ?_⟩
    simp only [Option.getD_some, Section.inactiveControllerStatus] at hok
    repeat' split at hok
    all_goals cases hok
  split
  · exact ⟨⟨rfl, rfl, rfl⟩, fun _ hok => by cases hok⟩
  · exact ⟨⟨rfl, rfl, rfl⟩, fun _ _ => ⟨_, rfl⟩⟩

-- One act of the thread.
theorem Serving.act {a : Act} {rest : List Act} {threads : List Task} {d : Device} {k : Operation}
    {regs : Registers} {o : Effect} (h : Serving owner request (a :: rest))
    (hasks : request.asksOutput = true) (hsound : d.Sound)
    (hexec : a.exec threads d k regs choice = some o) :
    Serves owner request ⟨k, o.regs, o.next ++ rest⟩ := by
  generalize htodo : a :: rest = todo at h
  cases h with
  | info =>
    obtain ⟨rfl, rfl⟩ := List.cons_eq_cons.1 htodo
    cases hexec
    exact .inr ⟨rfl, fun _ => .info⟩
  | refused =>
    obtain ⟨rfl, rfl⟩ := List.cons_eq_cons.1 htodo
    cases hexec
    exact .inr ⟨rfl, fun hok => by cases hok⟩
  | query asked id =>
    obtain ⟨rfl, rfl⟩ := List.cons_eq_cons.1 htodo
    cases hexec
    obtain ⟨hnext, hanswer⟩ := query_answers (s := d.sectionOf id choice.now) owner
      (d.controllers id).data
    refine .inr ⟨ended_slot hnext, fun hok => ?_⟩
    obtain ⟨counters, houtput⟩ := hanswer (regs.status) hok
    show Answered _ ((Section.query _ _ _).output.getD _)
    rw [houtput]
    exact .counters asked counters
  | poll hnamed =>
    rename_i asked id
    obtain ⟨rfl, rfl⟩ := List.cons_eq_cons.1 htodo
    cases hexec
    obtain ⟨hnext, hanswer⟩ := poll_answers (s := d.sectionOf id choice.now) owner
      (d.controllers id).data
    refine .inr ⟨ended_slot hnext, fun hok => ?_⟩
    obtain ⟨event, houtput⟩ := hanswer (regs.status) hok
    show Answered _ ((Section.poll _ _ _).output.getD _)
    have hpolled := (sound_poll (s := d.sectionOf id choice.now) (hsound id) owner).2 event houtput
    rw [houtput]
    have hasked : UInt32.ofNat id = asked := ControllerId.ofNat_ofRequest hnamed
    exact .event (hasked ▸ hpolled.accepted)
  | authorize asked =>
    obtain ⟨rfl, rfl⟩ := List.cons_eq_cons.1 htodo
    simp only [Act.exec, KeyboardMouseAct.exec] at hexec
    split at hexec <;> cases hexec
    · cases asked with
      | query => exact .inl .kmQuery
      | submit event => exact .inl (.locking event)
      | openSource | close | abort => cases hasks
    · exact .inr ⟨rfl, fun hok => by cases hok⟩
  | kmQuery =>
    obtain ⟨rfl, rfl⟩ := List.cons_eq_cons.1 htodo
    simp only [Act.exec, KeyboardMouseAct.exec] at hexec
    split at hexec <;> cases hexec
    · exact .inr ⟨rfl, fun _ => .keyboardMouse⟩
    · exact .inr ⟨rfl, fun hok => by cases hok⟩
  | locking event =>
    obtain ⟨rfl, rfl⟩ := List.cons_eq_cons.1 htodo
    simp only [Act.exec] at hexec
    split at hexec <;> cases hexec
    exact .inl (.submitting event)
  | submitting event =>
    obtain ⟨rfl, rfl⟩ := List.cons_eq_cons.1 htodo
    left
    simp only [Act.exec, KeyboardMouseAct.exec] at hexec
    repeat' split at hexec
    all_goals
      cases hexec
      simp only [Device.effect, List.append_nil]
    all_goals first
      | exact .answering event [.unlockLifetime]
      | exact .answering event _
  | answering event front =>
    cases front with
    | nil =>
      obtain ⟨rfl, rfl⟩ := List.cons_eq_cons.1 htodo
      simp only [Act.exec, KeyboardMouseAct.exec] at hexec
      repeat' split at hexec
      all_goals cases hexec
      · exact .inr ⟨rfl, fun _ => .acceptance event false⟩
      · exact .inr ⟨rfl, fun _ => .acceptance event true⟩
      · rename_i hfailed _
        exact .inr ⟨rfl, fun hok => absurd hok hfailed⟩
    | cons b front =>
      obtain ⟨-, rfl⟩ := List.cons_eq_cons.1 htodo
      have hanswering : Serving owner (.keyboardMouse (.submit event))
          ((o.next ++ front) ++ [.keyboardMouse .submitAnswer]) := .answering event _
      rw [List.append_assoc] at hanswering
      exact .inl hanswering

theorem serves_step {event : Interleaving.Event Choice Stimulus} (hsound : w.shared.Sound)
    (h : ∀ t ∈ w.threads, ∀ owner request, t.kind = .request (some owner) request →
      request.asksOutput = true → Serves owner request t)
    (hstep : driver.step w event = some w') :
    ∀ t ∈ w'.threads, ∀ owner request, t.kind = .request (some owner) request →
      request.asksOutput = true → Serves owner request t := by
  intro t ht owner request hkind hasks
  cases event with
  | act i choice =>
    obtain ⟨s⟩ := System.actStep_of_step hstep
    obtain rfl | hold | hnew := s.mem_after t ht
    · have hserves := h s.thread s.mem owner request hkind hasks
      obtain hserving | ⟨hdone, -⟩ := hserves
      · rw [s.todo] at hserving
        exact hserving.act hasks hsound s.exec
      · rw [s.todo] at hdone
        cases hdone
    · exact h t hold owner request hkind hasks
    · have hworker := spawn_worker (k := s.thread.kind) s.exec t hnew
      rw [hworker] at hkind
      cases hkind
  | env stimulus =>
    obtain ⟨_, -, hthreads⟩ | ⟨operation, -, -, hthreads⟩ := environment_cases hstep
    · rw [hthreads] at ht
      exact h t ht owner request hkind hasks
    · rw [hthreads] at ht
      obtain hold | hnew := List.mem_append.1 ht
      · exact h t hold owner request hkind hasks
      · obtain rfl := List.mem_singleton.1 hnew
        have hoperation : operation = .request (some owner) request := hkind
        subst hoperation
        exact .inl (serving_program hasks)

theorem serves_reached {keepalive : Bool} (h : driver.Reaches (World.initial keepalive) w) :
    ∀ t ∈ w.threads, ∀ owner request, t.kind = .request (some owner) request →
      request.asksOutput = true → Serves owner request t := by
  have hboth := h.invariant (P := fun w => w.shared.Sound ∧ ∀ t ∈ w.threads, ∀ owner request,
      t.kind = .request (some owner) request → request.asksOutput = true → Serves owner request t)
    (fun w event w' hw hstep => ⟨hw.1.step hstep, serves_step hw.1 hw.2 hstep⟩)
    ⟨fun _ => .zero, fun t ht => by cases ht⟩
  exact hboth.2

-- The library returns what the driver meant, and never takes an answer for a foreign one.
theorem replies_delivered {keepalive : Bool} (h : driver.Reaches (World.initial keepalive) w)
    (t : Task) (ht : t ∈ w.threads) (owner : File) (call : Call)
    (hkind : t.kind = .request (some owner) call.request) (hdone : t.todo = [])
    (hok : t.regs.status.ok = true) (win32 : NtStatus → UInt32) :
    receive call (t.regs.completion win32) = call.result t.regs.output ∧
      call.result t.regs.output ≠ .error errorInvalidData ∧
        call.result t.regs.output ≠ .error errorRevisionMismatch := by
  have hcompletion : t.regs.completion win32 = .ok t.regs.output.reply := by
    simp only [Registers.completion, hok, if_true]
  have hserves := serves_reached h t ht owner call.request hkind
  have hanswered (hasks : call.request.asksOutput = true) : Answered call.request t.regs.output := by
    obtain hserving | ⟨-, hanswered⟩ := hserves hasks
    · exact absurd hdone hserving.ne_nil
    · exact hanswered hok
  rw [hcompletion]
  cases call with
  | queryInfo =>
    have hinfo := hanswered rfl
    generalize t.regs.output = output at hinfo
    cases hinfo
    exact ⟨readInfo_reply, nofun, nofun⟩
  | queryFeedbackCounters place asked =>
    have hinfo := hanswered rfl
    generalize t.regs.output = output at hinfo
    cases hinfo
    exact ⟨readCounters_reply _, nofun, nofun⟩
  | pollFeedback place asked =>
    have hevent := hanswered rfl
    generalize t.regs.output = output at hevent
    cases hevent with
    | event haccepted => exact ⟨readEvent_reply haccepted, nofun, nofun⟩
  | queryKeyboardMouse place =>
    have hinfo := hanswered rfl
    generalize t.regs.output = output at hinfo
    cases hinfo
    exact ⟨readKeyboardMouseInfo_reply, nofun, nofun⟩
  | submitKeyboardMouse event =>
    have hbusy := hanswered rfl
    generalize t.regs.output = output at hbusy
    cases hbusy with
    | acceptance _ busy =>
      refine ⟨readAcceptance_reply busy, ?_, ?_⟩
      · cases busy <;> simp [Call.result, errorBusy, errorInvalidData]
      · cases busy <;> simp [Call.result, errorBusy, errorRevisionMismatch]
  | _ => exact ⟨rfl, nofun, nofun⟩

-- A file asks for the counters of the controller it has created.
def countersAsked : List (Interleaving.Event Choice Stimulus) :=
  creation ⟨0, .xboxOne, 0⟩ 1 ++ .env (.start (.request (some 1) (.query (some 0)))) :: willingly 2 1

theorem replies_delivered_counters :
    ∃ run : driver.Run (World.initial true), ∃ t, run.last.threads[2]? = some t ∧
      receive (.queryFeedbackCounters true 0) (t.regs.completion fun _ => 31) =
        .ok (.counters ⟨0, 0, 0, 0⟩) := by
  let run : driver.Run (World.initial true) := ⟨countersAsked, by decide +kernel⟩
  have hreaches := run.reaches run.length (Nat.le_refl _)
  have hfinished : run.last.threads[2]? = some ⟨.request (some 1) (.query (some 0)),
      ⟨.success, .info fillQueryInfo⟩, []⟩ := rfl
  exact ⟨run, _, hfinished, (replies_delivered hreaches _ (List.mem_of_getElem? hfinished) 1
    (.queryFeedbackCounters true 0) rfl rfl rfl fun _ => 31).1⟩

end Runs

end LibVirtualGamepad
