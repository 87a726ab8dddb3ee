import LibVirtualGamepad.Driver.SettingsReplica

namespace LibVirtualGamepad.SettingsReplica

open Sc26Usb SteamController

-- What reaches a Steam slot's feedback: transfers on the control channel, haptic
-- output reports and the owner's polls.
inductive SettingsOp where
  | setFeature (reportId : UInt8) (buffer : Option (List UInt8))
  | output (buffer : Option (List UInt8))
  | poll

structure SettingsRun where
  sc26 : Sc26State
  slot : SlotFeedback
  polled : List FeedbackEvent

def SettingsRun.step (controllerId : UInt32) (run : SettingsRun) : SettingsOp → SettingsRun
  | .setFeature reportId buffer =>
    let result := steamSetFeature reportId buffer controllerId run.sc26 run.slot
    { run with sc26 := result.2.1, slot := result.2.2 }
  | .output buffer =>
    match applySc26Output buffer controllerId with
    | none => run
    | some event =>
      { run with slot := { run.slot with haptics := (run.slot.haptics.enqueueHaptic event).2 } }
  | .poll =>
    match run.slot.poll with
    | none => run
    | some (event, slot) => { run with slot := slot, polled := run.polled ++ [event] }

def SettingsRun.start : SettingsRun := ⟨.initial, .zero, []⟩

def runFrom (controllerId : UInt32) (ops : List SettingsOp) : SettingsRun :=
  ops.foldl (SettingsRun.step controllerId) .start

-- Everything polled or waiting rebuilds the responder's own settings; haptics
-- carry none.
private structure Follows (run : SettingsRun) : Prop where
  settings : (run.polled ++ run.slot.settings.pending).foldl apply defaults =
    ofFeatures run.sc26.features
  haptics : ∀ event ∈ run.slot.haptics.pending, event.type = .steamHaptic
  pending : run.slot.feedbackPending = false

private theorem apply_of_haptic (replica : SettingsReplica) (event : FeedbackEvent)
    (h : event.type = .steamHaptic) : replica.apply event = replica := by
  simp [apply, h]

-- A full ring counts what it gives up; with no count, the events were appended.
private theorem enqueueSettings_pending (ring : FeedbackRing settingsQueueCapacity)
    (event : FeedbackEvent) (h : (ring.enqueueSettings event).evicted = ring.evicted) :
    (ring.enqueueSettings event).pending = ring.pending ++ [event] := by
  obtain ⟨hpending, hevicted⟩ := ring.enqueueSettings_spec event (by decide)
  cases hfull : ring.cursor.full with
  | false => simpa [hfull] using hpending
  | true =>
      rw [hevicted, hfull] at h
      simp at h

-- Few events cannot bring the counter back to where it was.
private theorem foldl_enqueueSettings (ring : FeedbackRing settingsQueueCapacity)
    (events : List FeedbackEvent) (start : Nat) (hstart : ring.evicted = UInt32.ofNat start)
    (hsmall : start + events.length < 2 ^ 32)
    (h : (events.foldl .enqueueSettings ring).evicted = 0) :
    start = 0 ∧ (events.foldl .enqueueSettings ring).pending = ring.pending ++ events := by
  induction events generalizing ring start with
  | nil =>
      rw [List.length_nil] at hsmall
      rw [List.foldl_nil, hstart] at h
      have hz := congrArg UInt32.toNat h
      rw [UInt32.toNat_ofNat_of_lt' (by omega)] at hz
      exact ⟨hz, by simp⟩
  | cons event rest ih =>
      rw [List.length_cons] at hsmall
      obtain ⟨_, hevicted⟩ := ring.enqueueSettings_spec event (by decide)
      cases hfull : ring.cursor.full with
      | true =>
          have hnext : (ring.enqueueSettings event).evicted = UInt32.ofNat (start + 1) := by
            rw [hevicted, hfull, hstart, UInt32.ofNat_add]
            rfl
          obtain ⟨hz, _⟩ := ih (ring.enqueueSettings event) (start + 1) hnext (by omega) h
          omega
      | false =>
          have hsame : (ring.enqueueSettings event).evicted = ring.evicted := by
            rw [hevicted, hfull]
            simp
          obtain ⟨hz, hpending⟩ := ih (ring.enqueueSettings event) start (by rw [hsame, hstart])
            (by omega) h
          refine ⟨hz, ?_⟩
          rw [List.foldl_cons, hpending, enqueueSettings_pending ring event hsame,
            List.append_assoc, List.singleton_append]

theorem steamSetFeature_fst (reportId : UInt8) (buffer : Option (List UInt8))
    (controllerId : UInt32) (sc26 : Sc26State) (slot : SlotFeedback) :
    (steamSetFeature reportId buffer controllerId sc26 slot).1 =
      (setSc26Feature reportId buffer sc26).1 := by
  simp only [steamSetFeature]
  split <;> rfl

-- A refused transfer leaves responder and rings as they are.
theorem steamSetFeature_refused (reportId : UInt8) (buffer : Option (List UInt8))
    (controllerId : UInt32) (sc26 : Sc26State) (slot : SlotFeedback)
    (h : (steamSetFeature reportId buffer controllerId sc26 slot).1 = false) :
    steamSetFeature reportId buffer controllerId sc26 slot = (false, sc26, slot) := by
  have haccepted : (setSc26Feature reportId buffer sc26).1 = false := by
    rwa [steamSetFeature_fst] at h
  have hsame : setSc26Feature reportId buffer sc26 = (false, sc26) := by
    unfold setSc26Feature setFeature at haccepted ⊢
    split
    · rfl
    · rename_i hid
      cases hp : parseFeature buffer with
      | none => rfl
      | some command =>
          rw [if_neg hid, hp] at haccepted
          simp at haccepted
  simp [steamSetFeature, hsame]

-- An accepted one runs its command and hands its events to the ring.
theorem steamSetFeature_accepted (reportId : UInt8) (buffer : Option (List UInt8))
    (controllerId : UInt32) (sc26 : Sc26State) (slot : SlotFeedback)
    (h : (steamSetFeature reportId buffer controllerId sc26 slot).1 = true) :
    ∃ type payload, parseFeature buffer = some (type, payload) ∧
      steamSetFeature reportId buffer controllerId sc26 slot =
        (true,
          { sc26 with features := runCommand (sc26.features.answer type 0 []) type payload },
          { slot with
            settings := (applySc26Settings buffer controllerId settingsEventsPerWrite).foldl
              .enqueueSettings slot.settings }) := by
  have haccepted : (setSc26Feature reportId buffer sc26).1 = true := by
    rwa [steamSetFeature_fst] at h
  have hid : reportId = featuresReportId := by
    by_contra hne
    rw [setSc26Feature, if_pos hne] at haccepted
    simp at haccepted
  cases hp : parseFeature buffer with
  | none =>
      simp [setSc26Feature, setFeature, hp] at haccepted
  | some command =>
      obtain ⟨type, payload⟩ := command
      refine ⟨type, payload, rfl, ?_⟩
      simp [steamSetFeature, setSc26Feature, setFeature, hp, hid]

private theorem follows_setFeature (controllerId : UInt32) (run : SettingsRun)
    (reportId : UInt8) (buffer : Option (List UInt8)) (h : Follows run)
    (hsize : ∀ data, buffer = some data → data.length ≤ featureReportSize)
    (hbefore : run.slot.settings.evicted = 0)
    (hafter : (run.step controllerId (.setFeature reportId buffer)).slot.settings.evicted = 0) :
    Follows (run.step controllerId (.setFeature reportId buffer)) := by
  cases haccepted : (steamSetFeature reportId buffer controllerId run.sc26 run.slot).1 with
  | false =>
      have hsame := steamSetFeature_refused reportId buffer controllerId _ _ haccepted
      have hstep : run.step controllerId (.setFeature reportId buffer) = run := by
        simp [SettingsRun.step, hsame]
      rw [hstep]
      exact h
  | true =>
      obtain ⟨type, payload, hparse, hresult⟩ :=
        steamSetFeature_accepted reportId buffer controllerId _ _ haccepted
      obtain ⟨data, rfl⟩ : ∃ data, buffer = some data := by
        cases buffer with
        | none => simp [parseFeature] at hparse
        | some data => exact ⟨data, rfl⟩
      simp only [SettingsRun.step, hresult] at hafter ⊢
      have hfew : (applySc26Settings (some data) controllerId settingsEventsPerWrite).length ≤
          settingsEventsPerWrite := applySc26Settings_length controllerId (some data)
      have hper : settingsEventsPerWrite = 3 := rfl
      obtain ⟨_, hpending⟩ := foldl_enqueueSettings run.slot.settings
        (applySc26Settings (some data) controllerId settingsEventsPerWrite) 0 hbefore
        (by omega) hafter
      refine ⟨?_, h.haptics, h.pending⟩
      rw [hpending, ← List.append_assoc, List.foldl_append, h.settings,
        apply_events controllerId data type payload _ (hsize data rfl) hparse,
        ofFeatures_runCommand, ofFeatures_answer]

private theorem follows_output (controllerId : UInt32) (run : SettingsRun)
    (buffer : Option (List UInt8)) (h : Follows run) :
    Follows (run.step controllerId (.output buffer)) := by
  simp only [SettingsRun.step]
  cases ho : applySc26Output buffer controllerId with
  | none => exact h
  | some event =>
      have hevent : event.type = .steamHaptic := applySc26Output_type buffer controllerId event ho
      refine ⟨h.settings, ?_, h.pending⟩
      intro other hm
      rw [(run.slot.haptics.enqueueHaptic_spec event).1] at hm
      rcases Coalescing.History.mem_of_mem_accept _ event other hm with hm | rfl
      · exact h.haptics other hm
      · exact hevent

private theorem follows_poll (controllerId : UInt32) (run : SettingsRun) (h : Follows run) :
    Follows (run.step controllerId .poll) := by
  simp only [SettingsRun.step, SlotFeedback.poll]
  cases hs : run.slot.settings.poll with
  | some taken =>
      obtain ⟨event, settings⟩ := taken
      obtain ⟨hpending, _⟩ := FeedbackRing.poll_eq_some run.slot.settings settings event hs
      refine ⟨?_, h.haptics, h.pending⟩
      have hall := h.settings
      rw [hpending] at hall
      simpa using hall
  | none =>
      have hnone := (FeedbackRing.poll_eq_none_iff run.slot.settings).mp hs
      cases hh : run.slot.haptics.poll with
      | none =>
          simp only [h.pending, Bool.false_eq_true, if_false]
          exact h
      | some taken =>
          obtain ⟨event, haptics⟩ := taken
          obtain ⟨hpending, _⟩ := FeedbackRing.poll_eq_some run.slot.haptics haptics event hh
          have hevent := h.haptics event (by rw [hpending]; exact List.mem_cons_self)
          refine ⟨?_, ?_, h.pending⟩
          · have hall := h.settings
            rw [hnone, List.append_nil] at hall
            simp only [hnone, List.append_nil, List.foldl_append, List.foldl_cons, List.foldl_nil]
            rw [apply_of_haptic _ event hevent, hall]
          · intro other hm
            exact h.haptics other (by rw [hpending]; exact List.mem_cons_of_mem _ hm)

private theorem follows_run (controllerId : UInt32) (ops : List SettingsOp)
    (hsize : ∀ reportId data, .setFeature reportId (some data) ∈ ops →
      data.length ≤ featureReportSize)
    (hkept : ∀ n, (runFrom controllerId (ops.take n)).slot.settings.evicted = 0) (n : Nat)
    (hn : n ≤ ops.length) : Follows (runFrom controllerId (ops.take n)) := by
  induction n with
  | zero =>
      refine ⟨rfl, ?_, rfl⟩
      intro event hm
      have hnone : (runFrom controllerId (ops.take 0)).slot.haptics.pending = [] :=
        FeedbackRing.pending_emptyAt _ _ _
      rw [hnone] at hm
      cases hm
  | succ n ih =>
      have hlt : n < ops.length := by omega
      have hstep : runFrom controllerId (ops.take (n + 1)) =
          (runFrom controllerId (ops.take n)).step controllerId ops[n] := by
        rw [List.take_add_one, List.getElem?_eq_getElem hlt]
        simp only [runFrom, Option.toList_some, List.foldl_append, List.foldl_cons, List.foldl_nil]
      have hafter := hkept (n + 1)
      have hmem : ops[n] ∈ ops := List.getElem_mem hlt
      rw [hstep] at hafter ⊢
      cases hop : ops[n] with
      | setFeature reportId buffer =>
          rw [hop] at hafter hmem
          apply follows_setFeature controllerId _ reportId buffer (ih (by omega)) _ (hkept n) hafter
          rintro data rfl
          exact hsize reportId data hmem
      | output buffer => exact follows_output controllerId _ buffer (ih (by omega))
      | poll => exact follows_poll controllerId _ (ih (by omega))

-- While no settings event is lost, a drained ring leaves the owner with the
-- responder's settings, lizard mode and motion mode; a refused transfer raises no
-- event, and the chunks of a write carry its whole triples, each once and in order.
theorem settings_replica (controllerId : UInt32) (ops : List SettingsOp)
    (hsize : ∀ reportId data, .setFeature reportId (some data) ∈ ops →
      data.length ≤ featureReportSize)
    (hkept : ∀ n, (runFrom controllerId (ops.take n)).slot.settings.evicted = 0) :
    let run := runFrom controllerId ops
    (run.slot.settings.pending = [] →
      run.polled.foldl apply defaults = ofFeatures run.sc26.features) ∧
    (∀ reportId buffer,
      (steamSetFeature reportId buffer controllerId run.sc26 run.slot).1 = false →
        steamSetFeature reportId buffer controllerId run.sc26 run.slot =
          (false, run.sc26, run.slot)) ∧
    ∀ data payload, data.length ≤ featureReportSize →
      parseFeature (some data) = some (Command.setSettingsValues, payload) →
        (applySc26Settings (some data) controllerId settingsEventsPerWrite).flatMap eventTriples =
          triples payload := by
  intro run
  have hfollows := follows_run controllerId ops hsize hkept ops.length (Nat.le_refl _)
  rw [List.take_length] at hfollows
  refine ⟨?_, ?_, ?_⟩
  · intro hempty
    have hall := hfollows.settings
    have hnil : (runFrom controllerId ops).slot.settings.pending = [] := hempty
    rwa [hnil, List.append_nil] at hall
  · exact fun reportId buffer h => steamSetFeature_refused reportId buffer controllerId _ _ h
  · intro data payload hlen hparse
    obtain ⟨_, _, _, htriples⟩ := applySc26Settings_set controllerId data payload hlen hparse
    exact htriples

-- A host turns lizard mode off and the owner polls it.
private def lizardOff : List SettingsOp :=
  [.setFeature 0x01 (some [0x01, 0x87, 3, 9, 0, 0]), .poll]

theorem settings_replica_lizardOff :
    (runFrom 0 lizardOff).polled.length = 1 ∧
      (runFrom 0 lizardOff).polled.foldl apply defaults =
        ofFeatures (runFrom 0 lizardOff).sc26.features := by
  have hsize : ∀ reportId data, .setFeature reportId (some data) ∈ lizardOff →
      data.length ≤ featureReportSize := by
    intro reportId data hm
    have hdata : reportId = 0x01 ∧ data = [0x01, 0x87, 3, 9, 0, 0] := by
      simpa [lizardOff] using hm
    rw [hdata.2]
    decide
  have hkept : ∀ n, (runFrom 0 (lizardOff.take n)).slot.settings.evicted = 0 := by
    intro n
    match n with
    | 0 => decide
    | 1 => decide
    | n + 2 =>
      rw [List.take_of_length_le (by simp [lizardOff])]
      decide
  exact ⟨by decide, (settings_replica 0 lizardOff hsize hkept).1 (by decide)⟩

end LibVirtualGamepad.SettingsReplica
