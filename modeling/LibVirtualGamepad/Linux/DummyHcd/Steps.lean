import LibVirtualGamepad.Linux.DummyHcd.Frames

-- What one step can do, to the books of the URBs and to the clocks of the endpoints.
namespace LibVirtualGamepad.DummyHcd

-- The endpoints keep their service times and descriptors.
structure SameEps (hcd hcd' : Hcd) : Prop where
  speed : hcd'.speed = hcd.speed
  clock : hcd'.clock = hcd.clock
  next : ∀ e, (hcd'.ep e).isoNextNs = (hcd.ep e).isoNextNs
  desc : ∀ e, (hcd'.ep e).desc = (hcd.ep e).desc

namespace SameEps

theorem refl (hcd : Hcd) : SameEps hcd hcd := ⟨rfl, rfl, fun _ => rfl, fun _ => rfl⟩

theorem trans {hcd hcd' hcd'' : Hcd} (h : SameEps hcd hcd') (h' : SameEps hcd' hcd'') :
    SameEps hcd hcd'' where
  speed := h'.speed.trans h.speed
  clock := h'.clock.trans h.clock
  next e := (h'.next e).trans (h.next e)
  desc e := (h'.desc e).trans (h.desc e)

theorem setEp (hcd : Hcd) (e : EpIndex) (ep : Ep) (hnext : ep.isoNextNs = (hcd.ep e).isoNextNs)
    (hdesc : ep.desc = (hcd.ep e).desc) : SameEps hcd (hcd.setEp e ep) where
  speed := rfl
  clock := rfl
  next other := by
    by_cases heq : other = e
    · subst heq
      simp [Hcd.setEp, hnext]
    · simp [Hcd.setEp, Function.update_of_ne heq]
  desc other := by
    by_cases heq : other = e
    · subst heq
      simp [Hcd.setEp, hdesc]
    · simp [Hcd.setEp, Function.update_of_ne heq]

theorem put (hcd : Hcd) (urbp : Urbp) : SameEps hcd (hcd.putUrbp urbp) :=
  ⟨rfl, rfl, fun _ => rfl, fun _ => rfl⟩

end SameEps

theorem books_walk {hcd : Hcd} (hserving : hcd.timer.serving = none)
    (hmoving : hcd.timer.movingUrb = none) (next : Option UrbpId) (total : Int) :
    (hcd.walk next total).books = hcd.books := by
  unfold Hcd.books
  rw [hserving, hmoving]
  rfl

theorem find_some {hcd : Hcd} {id : UrbpId} {urbp : Urbp} (h : hcd.find id = some urbp) :
    urbp ∈ hcd.urbpList ∧ urbp.id = id :=
  ⟨List.mem_of_find?_eq_some h, by simpa using List.find?_some h⟩

def Books.without (id : UrbpId) (books : Books) : Books :=
  { books with
    urbps := books.urbps.filter fun urbp => urbp.id ≠ id
    serving := none
    moving := none }

theorem returnUrb_spec (id : UrbpId) (ep : Option EpIndex) (status total : Int) (hcd : Hcd) :
    (returnUrb id ep status total hcd).1.books = hcd.books.without id ∧
      SameEps hcd (returnUrb id ep status total hcd).1 ∧
      (returnUrb id ep status total hcd).2 = [.givenBack id status] := by
  cases ep with
  | none => exact ⟨rfl, ⟨rfl, rfl, fun _ => rfl, fun _ => rfl⟩, rfl⟩
  | some e =>
      have hsame := SameEps.setEp hcd e
        { hcd.ep e with alreadySeen := false, setupStage := false } rfl rfl
      exact ⟨rfl, ⟨rfl, rfl, hsame.next, hsame.desc⟩, rfl⟩

theorem finishIso_cases {id : UrbpId} {tmp : Option UrbpId} {e : EpIndex} {frame : Nat}
    {total : Int} {hcd hcd' : Hcd} {events : List Event}
    (h : finishIso id tmp e frame total hcd = some (hcd', events)) :
    SameEps hcd hcd' ∧ ∃ urbp touched, hcd.find id = some urbp ∧ touched.id = urbp.id ∧
      touched.urb.static = urbp.urb.static ∧ touched.isoPacket = urbp.isoPacket ∧
      ((urbp.isoPacket = urbp.urb.numberOfPackets ∧ events = [.givenBack id 0] ∧
          hcd'.books =
            { hcd.books with urbps := put touched hcd.urbpList }.without id) ∨
        (urbp.isoPacket ≠ urbp.urb.numberOfPackets ∧ events = [] ∧
          hcd'.books = { hcd.books with
            urbps := put touched hcd.urbpList, serving := none, moving := none })) := by
  unfold finishIso at h
  obtain ⟨urbp, hfind, h⟩ := Option.bind_eq_some_iff.mp h
  have hstatic := Urb.static_countError frame urbp.urb
  by_cases hall : urbp.isoPacket = urbp.urb.numberOfPackets
  · rw [if_pos hall] at h
    obtain ⟨hbooks, hsame, hevents⟩ := returnUrb_spec id (some e) 0 total
      (hcd.putUrbp { urbp with urb := urbp.urb.countError frame })
    rw [Option.some.inj h] at hbooks hsame hevents
    exact ⟨⟨hsame.speed, hsame.clock, hsame.next, hsame.desc⟩, urbp,
      { urbp with urb := urbp.urb.countError frame }, hfind, rfl, hstatic, rfl,
      Or.inl ⟨hall, hevents, hbooks⟩⟩
  · rw [if_neg hall] at h
    cases h
    exact ⟨⟨rfl, rfl, fun _ => rfl, fun _ => rfl⟩, urbp,
      { urbp with urb := urbp.urb.countError frame }, hfind, rfl, hstatic, rfl,
      Or.inr ⟨hall, rfl, rfl⟩⟩

theorem finishIso_kept {log : List Event} {id : UrbpId} {tmp : Option UrbpId} {e : EpIndex}
    {frame : Nat} {total : Int} {hcd hcd' : Hcd} {events : List Event}
    (h : finishIso id tmp e frame total hcd = some (hcd', events))
    (hkept : Kept log { hcd.books with serving := some id, moving := none }) :
    Kept (log ++ events) hcd'.books := by
  obtain ⟨-, urbp, touched, hfind, hid, hstatic, hpacket, hcases⟩ := finishIso_cases h
  obtain ⟨hmem, rfl⟩ := find_some hfind
  have htouched := hkept.touch hmem hid hstatic hpacket
  have hone : ∀ other ∈ put touched hcd.urbpList, other.id = urbp.id → other = touched := by
    intro other hother hother_id
    rcases mem_put hother with ⟨heq, -⟩ | ⟨-, hne⟩
    · exact heq
    · exact absurd (hother_id.trans hid.symm) hne
  rcases hcases with ⟨hall, rfl, hbooks⟩ | ⟨hmore, rfl, hbooks⟩
  · rw [hbooks]
    apply htouched.giveBack (exists_mem_put ⟨urbp, hmem, rfl⟩)
    · intro other hsome
      exact (Option.some.inj hsome).symm
    · intro other hother hother_id _
      rw [hone other hother hother_id, hpacket, Urb.packets_eq hstatic]
      exact iff_of_true hall rfl
  · rw [hbooks, List.append_nil]
    apply htouched.finish
    intro other hother hsome
    rw [hone other hother (Option.some.inj hsome).symm, hpacket, Urb.packets_eq hstatic]
    exact hmore

def Event.isService : Event → Bool
  | .served _ _ _ _ => true
  | .enqueued _ _ | .requestDone _ _ | .givenBack _ _ => false

-- One endpoint has its next service put off, and nothing else happens to the endpoints' times.
structure Advanced (e : EpIndex) (next : UInt64) (hcd hcd' : Hcd) : Prop where
  speed : hcd'.speed = hcd.speed
  clock : hcd'.clock = hcd.clock
  next : (hcd'.ep e).isoNextNs = next
  others : ∀ other, other ≠ e → (hcd'.ep other).isoNextNs = (hcd.ep other).isoNextNs
  desc : ∀ other, (hcd'.ep other).desc = (hcd.ep other).desc

namespace Advanced

theorem setEp (hcd : Hcd) (e : EpIndex) (ep : Ep) (hdesc : ep.desc = (hcd.ep e).desc) :
    Advanced e ep.isoNextNs hcd (hcd.setEp e ep) where
  speed := rfl
  clock := rfl
  next := by simp [Hcd.setEp]
  others other hne := by simp [Hcd.setEp, Function.update_of_ne hne]
  desc other := by
    by_cases heq : other = e
    · subst heq
      simp [Hcd.setEp, hdesc]
    · simp [Hcd.setEp, Function.update_of_ne heq]

theorem same {e : EpIndex} {next : UInt64} {hcd hcd' hcd'' : Hcd} (h : Advanced e next hcd hcd')
    (hsame : SameEps hcd' hcd'') : Advanced e next hcd hcd'' where
  speed := hsame.speed.trans h.speed
  clock := hsame.clock.trans h.clock
  next := (hsame.next e).trans h.next
  others other hne := (hsame.next other).trans (h.others other hne)
  desc other := (hsame.desc other).trans (h.desc other)

end Advanced

theorem serveIso_cases {now : UInt64} {urbp : Urbp} {tmp : Option UrbpId} {e : EpIndex}
    {total : Int} {hcd hcd' : Hcd} {events : List Event}
    (h : serveIso now urbp tmp e total hcd = some (hcd', events)) :
    (now < (hcd.ep e).isoNextNs ∧ hcd' = hcd.walk tmp total ∧ events = []) ∨
    (¬now < (hcd.ep e).isoNextNs ∧
      Advanced e (isoNext now (urbp.urb.serviceNs hcd.speed) (hcd.ep e).isoNextNs) hcd hcd' ∧
      ∃ tail, events = .served e urbp.id urbp.isoPacket now :: tail ∧
        ∀ event ∈ tail, event.isService = false) := by
  unfold serveIso at h
  dsimp only at h
  by_cases hearly : now < (hcd.ep e).isoNextNs
  · rw [if_pos hearly] at h
    cases h
    exact Or.inl ⟨hearly, rfl, rfl⟩
  · rw [if_neg hearly] at h
    refine Or.inr ⟨hearly, ?_⟩
    split at h
    · obtain ⟨⟨mid, tail⟩, hfinish, h⟩ := Option.bind_eq_some_iff.mp h
      cases h
      obtain ⟨hsame, _, _, _, _, _, _, hcases⟩ := finishIso_cases hfinish
      have hset := Advanced.setEp hcd e { hcd.ep e with
        isoNextNs := isoNext now (urbp.urb.serviceNs hcd.speed) (hcd.ep e).isoNextNs } rfl
      refine ⟨(hset.same (SameEps.put _ _)).same hsame, tail, rfl, ?_⟩
      rcases hcases with ⟨-, rfl, -⟩ | ⟨-, rfl, -⟩
      · intro event hevent
        rw [List.mem_singleton.mp hevent]
        rfl
      · exact List.forall_mem_nil _
    · next req rest hqueue =>
        cases h
        have hset := Advanced.setEp hcd e { hcd.ep e with
          isoNextNs := isoNext now (urbp.urb.serviceNs hcd.speed) (hcd.ep e).isoNextNs
          queue := rest } rfl
        refine ⟨hset.same ⟨rfl, rfl, fun _ => rfl, fun _ => rfl⟩, _, rfl, ?_⟩
        intro event hevent
        rw [List.mem_singleton.mp hevent]
        rfl

theorem serveIso_kept {log : List Event} {now : UInt64} {urbp : Urbp} {tmp : Option UrbpId}
    {e : EpIndex} {total : Int} {hcd hcd' : Hcd} {events : List Event}
    (h : serveIso now urbp tmp e total hcd = some (hcd', events)) (hkept : Kept log hcd.books)
    (hmem : urbp ∈ hcd.urbpList) (hpipe : urbp.urb.pipe = .isochronous)
    (hserving : hcd.timer.serving = none) (hmoving : hcd.timer.movingUrb = none) :
    Kept (log ++ events) hcd'.books := by
  unfold serveIso at h
  dsimp only at h
  split at h
  · cases h
    rw [List.append_nil]
    rw [books_walk hserving hmoving]
    exact hkept
  · split at h
    · obtain ⟨⟨mid, tail⟩, hfinish, h⟩ := Option.bind_eq_some_iff.mp h
      cases h
      have hserve := hkept.serve
        { urbp with
          urb := urbp.urb.setFrame urbp.isoPacket 0 enosr
          isoPacket := urbp.isoPacket + 1 }
        hmem rfl (Urb.static_setFrame _ _ _ _) rfl hpipe hserving hmoving e now
      rw [List.append_cons]
      apply finishIso_kept hfinish
      rw [← hmoving]
      exact hserve
    · next req rest hqueue =>
        cases h
        rw [List.append_cons]
        apply Kept.request
        change Kept _ {
          urbps := put _ hcd.urbpList
          nextId := hcd.nextId
          serving := some urbp.id
          moving := none }
        rw [← hmoving]
        refine hkept.serve ⟨urbp.id, _, urbp.isoPacket + 1⟩ hmem rfl ?_ rfl hpipe hserving hmoving
          e now
        rw [Urb.static_setFrame]
        exact Urb.static_setFrame urbp.isoPacket 0 enosr urbp.urb

-- What a turn of the loop comes to: the walk goes on, the URB goes back with an error, it is
-- not an isochronous one, or a packet may be served.
inductive Turn (now : UInt64) (urbp : Urbp) (total : Int) (hcd : Hcd) : Hcd → List Event → Prop where
  | walks {next : Option UrbpId} : Turn now urbp total hcd (hcd.walk next total) []
  | returns {hcd' : Hcd} {status : Int} (hstatus : status ≠ 0) (hsame : SameEps hcd hcd')
      (hbooks : hcd'.books = hcd.books.without urbp.id) :
      Turn now urbp total hcd hcd' [.givenBack urbp.id status]
  | moves {hcd' : Hcd} {urbps : List Urbp}
      (hother : urbp.urb.pipe ≠ .isochronous ∨ urbp.urb.address &&& 0x7F = 0)
      (hurbps : urbps = hcd.urbpList ∨ ∃ touched : Urbp, touched.id = urbp.id ∧
        touched.urb.static = urbp.urb.static ∧ touched.isoPacket = urbp.isoPacket ∧
        urbps = put touched hcd.urbpList)
      (hsame : SameEps hcd hcd')
      (hbooks : hcd'.books =
        { urbps := urbps, nextId := hcd.nextId, serving := none, moving := some urbp.id }) :
      Turn now urbp total hcd hcd' []
  | serves {hcd' : Hcd} {events : List Event} {e : EpIndex} {tmp : Option UrbpId}
      (hpipe : urbp.urb.pipe = .isochronous) (hep : hcd.findEndpoint urbp.urb.address = some e)
      (hserve : serveIso now urbp tmp e total
        (hcd.setEp e { hcd.ep e with alreadySeen := true }) = some (hcd', events)) :
      Turn now urbp total hcd hcd' events

theorem findEndpoint_zero {address : UInt8} {hcd : Hcd} (h : hcd.findEndpoint address = some 0) :
    address &&& 0x7F = 0 := by
  unfold Hcd.findEndpoint at h
  split at h
  · cases h
  · split at h
    · cases h
    · split at h
      next hzero => exact hzero
      next =>
        have hsome := List.find?_some h
        exact absurd rfl (of_decide_eq_true hsome).1

theorem beginSetup_stage (urbp : Urbp) (hcd : Hcd) :
    ((beginSetup urbp hcd).ep 0).setupStage = true := by
  simp [beginSetup, Hcd.putUrbp, Hcd.setEp]

theorem beginSetup_same (urbp : Urbp) (hcd : Hcd) : SameEps hcd (beginSetup urbp hcd) :=
  (SameEps.setEp hcd 0 { hcd.ep 0 with setupStage := true } rfl rfl).trans (SameEps.put _ _)

theorem visit_cases {now : UInt64} {id : UrbpId} {total : Int} {hcd hcd' : Hcd}
    {events : List Event} (h : visit now id total hcd = some (hcd', events)) :
    ∃ urbp, hcd.find id = some urbp ∧ Turn now urbp total hcd hcd' events := by
  unfold visit at h
  obtain ⟨urbp, hfind, h⟩ := Option.bind_eq_some_iff.mp h
  obtain ⟨hmem, rfl⟩ := find_some hfind
  refine ⟨urbp, hfind, ?_⟩
  dsimp only at h
  split at h
  · cases h
    exact .walks
  · split at h
    · obtain ⟨hbooks, hsame, hevents⟩ := returnUrb_spec urbp.id none einprogress total hcd
      rw [Option.some.inj h] at hbooks hsame hevents
      subst hevents
      exact .returns (by decide) hsame hbooks
    · split at h
      · cases h
        exact .walks
      · split at h
        · cases h
          exact .walks
        · split at h
          · obtain ⟨hbooks, hsame, hevents⟩ := returnUrb_spec urbp.id none eproto total hcd
            rw [Option.some.inj h] at hbooks hsame hevents
            subst hevents
            exact .returns (by decide) hsame hbooks
          · next e hep =>
              split at h
              · cases h
                exact .walks
              · have hseen := SameEps.setEp hcd e { hcd.ep e with alreadySeen := true } rfl rfl
                by_cases hnew : e = 0 ∧ urbp.urb.errorCount ≠ 0
                · rw [if_pos hnew] at h
                  obtain ⟨rfl, -⟩ := hnew
                  have hstage := beginSetup_stage urbp
                    (hcd.setEp 0 { hcd.ep 0 with alreadySeen := true })
                  rw [hstage, if_neg (by simp), if_pos ⟨rfl, rfl⟩] at h
                  cases h
                  have hbegin := beginSetup_same urbp
                    (hcd.setEp 0 { hcd.ep 0 with alreadySeen := true })
                  exact .moves (Or.inr (findEndpoint_zero hep))
                    (Or.inr ⟨⟨urbp.id, { urbp.urb with errorCount := 0 }, urbp.isoPacket⟩,
                      rfl, rfl, rfl, rfl⟩)
                    ((hseen.trans hbegin).trans ⟨rfl, rfl, fun _ => rfl, fun _ => rfl⟩) rfl
                · rw [if_neg hnew] at h
                  split at h
                  · obtain ⟨hbooks, hsame, hevents⟩ := returnUrb_spec urbp.id (some e) epipe total
                      (hcd.setEp e { hcd.ep e with alreadySeen := true })
                    rw [Option.some.inj h] at hbooks hsame hevents
                    subst hevents
                    exact .returns (by decide) (hseen.trans hsame) hbooks
                  · split at h
                    · next hzero =>
                        cases h
                        refine .moves (Or.inr ?_) (Or.inl rfl) (hseen.trans ?_) rfl
                        · rw [hzero.1] at hep
                          exact findEndpoint_zero hep
                        · exact ⟨rfl, rfl, fun _ => rfl, fun _ => rfl⟩
                    · split at h
                      · next hpipe => exact .serves hpipe hep h
                      all_goals
                        next hpipe =>
                          cases h
                          refine .moves (Or.inl ?_) (Or.inl rfl)
                            (hseen.trans ⟨rfl, rfl, fun _ => rfl, fun _ => rfl⟩) rfl
                          rw [hpipe]
                          intro heq
                          cases heq

theorem of_locked {free : Bool} {outcome out : Outcome}
    (h : (if free then some outcome else none) = some out) : outcome = out := by
  split at h
  · exact Option.some.inj h
  · cases h

section

variable {log : List Event} {hcd hcd' : Hcd} {events : List Event}

theorem Kept.accepted (hkept : Kept log hcd.books)
    (haccepted : ∀ id urb, Event.enqueued id urb ∈ log → urb.Accepted) {urbp : Urbp}
    (hmem : urbp ∈ hcd.urbpList) : urbp.urb.Accepted := by
  obtain ⟨urb, henq, hstatic⟩ := hkept.known urbp hmem
  exact (haccepted _ urb henq).of_static hstatic

theorem visit_kept {now : UInt64} {id : UrbpId} {total : Int}
    (h : visit now id total hcd = some (hcd', events)) (hkept : Kept log hcd.books)
    (haccepted : ∀ id urb, Event.enqueued id urb ∈ log → urb.Accepted)
    (hserving : hcd.timer.serving = none) (hmoving : hcd.timer.movingUrb = none) :
    Kept (log ++ events) hcd'.books := by
  obtain ⟨urbp, hfind, hturn⟩ := visit_cases h
  obtain ⟨hmem, rfl⟩ := find_some hfind
  cases hturn with
  | walks =>
      rw [List.append_nil, books_walk hserving hmoving]
      exact hkept
  | returns hstatus _ hbooks =>
      rw [hbooks]
      apply hkept.giveBack ⟨urbp, hmem, rfl⟩
      · intro other hsome
        rw [Hcd.books, hserving] at hsome
        cases hsome
      · intro other hother _ hpipe
        refine iff_of_false (fun hall => ?_) hstatus
        have hsome := (hkept.frames other hother hpipe).2.2 hall
        rw [Hcd.books, hserving] at hsome
        cases hsome
  | moves hother hurbps _ hbooks =>
      have hpipe : urbp.urb.pipe ≠ .isochronous := by
        rcases hother with hpipe | hzero
        · exact hpipe
        · intro hpipe
          exact (hkept.accepted haccepted hmem hpipe).2 hzero
      rw [hbooks, List.append_nil]
      rcases hurbps with rfl | ⟨touched, hid, hstatic, hpacket, rfl⟩
      · rw [← hserving]
        exact hkept.move hmem hpipe
      · rw [← hserving, ← hid]
        apply (hkept.touch hmem hid hstatic hpacket).move (mem_put_self hmem hid)
        rw [Urb.pipe_eq hstatic]
        exact hpipe
  | serves hpipe _ hserve =>
      exact serveIso_kept hserve hkept hmem hpipe hserving hmoving

theorem finishMove_kept {id : UrbpId} {tmp : Option UrbpId} {e : EpIndex} {total : Int}
    (how : Moved) (htimer : hcd.timer = .moving id tmp e total) (hkept : Kept log hcd.books) :
    Kept (log ++ (finishMove id tmp e total how hcd).2)
      (finishMove id tmp e total how hcd).1.books := by
  have hserving : hcd.timer.serving = none := by
    rw [htimer]
    rfl
  have hmoving : hcd.books.moving = some id := by
    rw [Hcd.books, htimer]
    rfl
  obtain ⟨hlisted, hpipe⟩ := hkept.moving id hmoving
  have hback : ∀ status left, Kept (log ++ (returnUrb id (some e) status left hcd).2)
      (returnUrb id (some e) status left hcd).1.books := by
    intro status left
    obtain ⟨hbooks, -, hevents⟩ := returnUrb_spec id (some e) status left hcd
    rw [hbooks, hevents]
    apply hkept.giveBack hlisted
    · intro other hsome
      rw [Hcd.books, hserving] at hsome
      cases hsome
    · intro other hother hid hpipe'
      exact absurd hpipe' (hpipe other hother hid)
  have hwalk : ∀ next left, Kept (log ++ []) (hcd.walk next left).books := by
    intro next left
    have heq : (hcd.walk next left).books = { hcd.books with moving := none } := by
      unfold Hcd.books
      rw [hserving]
      rfl
    rw [heq, List.append_nil]
    exact hkept.moved
  cases how with
  | stale => exact hwalk hcd.head total
  | transferred sent status =>
      unfold finishMove
      dsimp only
      split
      · exact hwalk tmp (total - sent)
      · exact hback status (total - sent)
  | answered status => exact hback status total

theorem dummyUrbDequeue_kept (id : UrbpId) (status : Int) (hkept : Kept log hcd.books) :
    Kept log (dummyUrbDequeue id status hcd).books := by
  unfold dummyUrbDequeue
  split
  · exact hkept
  · next urbp hfind =>
      split
      · exact hkept
      · exact hkept.touch (find_some hfind).1 rfl rfl rfl

-- What one step does to the books.
theorem step_kept {op : Step} (h : step hcd op = some (hcd', events))
    (hkept : Kept log hcd.books)
    (haccepted : ∀ id urb, Event.enqueued id urb ∈ log ++ events → urb.Accepted) :
    Kept (log ++ events) hcd'.books := by
  cases op with
  | fire =>
      simp only [step] at h
      split at h
      next hidle =>
        cases h
        rw [List.append_nil]
        unfold fire
        split
        · rw [books_walk (by simp [hidle, Timer.serving]) (by simp [hidle, Timer.movingUrb])]
          exact hkept
        · exact hkept
      next => cases h
  | visit now =>
      simp only [step] at h
      split at h
      next =>
        split at h
        next total htimer =>
          cases h
          have heq : (rest hcd).books = hcd.books := by
            unfold Hcd.books
            rw [htimer]
            rfl
          rw [List.append_nil, heq]
          exact hkept
        next id total htimer =>
          have hserving : hcd.timer.serving = none := by simp [htimer, Timer.serving]
          have hmoving : hcd.timer.movingUrb = none := by simp [htimer, Timer.movingUrb]
          apply visit_kept h hkept _ hserving hmoving
          intro id' urb henq
          exact haccepted id' urb (List.mem_append_left _ henq)
        next => cases h
      next => cases h
  | gadgetReturned =>
      simp only [step] at h
      split at h
      next id tmp e frame total htimer =>
        apply finishIso_kept h
        have heq : { hcd.books with serving := some id, moving := none } = hcd.books := by
          unfold Hcd.books
          rw [htimer]
          rfl
        rw [heq]
        exact hkept
      next => cases h
  | moved how =>
      simp only [step] at h
      split at h
      next id tmp e total htimer =>
        have hmoved := finishMove_kept how htimer hkept
        rw [Option.some.inj h] at hmoved
        exact hmoved
      next => cases h
  | hostReturned =>
      simp only [step] at h
      split at h
      next total htimer =>
        cases h
        rw [List.append_nil, books_walk (by simp [htimer, Timer.serving])
          (by simp [htimer, Timer.movingUrb])]
        exact hkept
      next => cases h
  | enqueue urb =>
      cases of_locked h
      refine hkept.enqueue (haccepted hcd.nextId urb ?_) rfl
      exact List.mem_append_right _ List.mem_cons_self
  | dequeue id status =>
      cases of_locked h
      rw [List.append_nil]
      exact dummyUrbDequeue_kept id status hkept
  | queueRequest e req =>
      cases of_locked h
      rw [List.append_nil, dummyQueue]
      split
      · exact hkept
      · exact hkept
  | dropRequest e index =>
      cases of_locked h
      rw [List.append_nil]
      exact hkept
  | enable e address =>
      cases h
      rw [List.append_nil, dummyEnable]
      split
      · exact hkept
      · exact hkept
  | disable e =>
      cases of_locked h
      rw [List.append_nil, dummyDisable]
      split
      · exact hkept
      · exact hkept
  | setHalt e value =>
      cases h
      rw [List.append_nil]
      exact hkept
  | bus active intsEnabled rhState =>
      cases of_locked h
      rw [List.append_nil]
      exact hkept

end

theorem run_cons {hcd hcd' : Hcd} {op : Step} {ops : List Step} {events : List Event}
    (h : run hcd (op :: ops) = some (hcd', events)) :
    ∃ mid first rest, step hcd op = some (mid, first) ∧ run mid ops = some (hcd', rest) ∧
      events = first ++ rest := by
  obtain ⟨⟨mid, first⟩, hstep, h⟩ := Option.bind_eq_some_iff.mp h
  obtain ⟨⟨last, rest⟩, hrun, h⟩ := Option.bind_eq_some_iff.mp h
  cases h
  exact ⟨mid, first, rest, hstep, hrun, rfl⟩

-- The books are kept in every run, by induction on its steps.
theorem run_kept {ops : List Step} {log : List Event} {hcd hcd' : Hcd} {events : List Event}
    (h : run hcd ops = some (hcd', events)) (hkept : Kept log hcd.books)
    (haccepted : ∀ id urb, Event.enqueued id urb ∈ log ++ events → urb.Accepted) :
    Kept (log ++ events) hcd'.books := by
  induction ops generalizing log hcd events with
  | nil =>
      cases h
      rw [List.append_nil]
      exact hkept
  | cons op ops ih =>
      obtain ⟨mid, first, rest, hstep, hrun, rfl⟩ := run_cons h
      rw [← List.append_assoc] at haccepted ⊢
      apply ih hrun _ haccepted
      apply step_kept hstep hkept
      intro id urb henq
      exact haccepted id urb (List.mem_append_left _ henq)

-- Every packet of an isochronous URB is served once and in order, and the URB goes back
-- without an error exactly when they all have been, but for the moment in between.
theorem Kept.frames_served {log : List Event} {hcd : Hcd} (h : Kept log hcd.books) {id : UrbpId}
    {urb : Urb} (henq : Event.enqueued id urb ∈ log) (hpipe : urb.pipe = .isochronous) :
    ∃ count ≤ urb.numberOfPackets, framesOf id log = List.range count ∧
      (Event.givenBack id 0 ∈ log → count = urb.numberOfPackets) ∧
      (count = urb.numberOfPackets →
        Event.givenBack id 0 ∈ log ∨ hcd.timer.serving = some id) := by
  rcases h.gone id urb henq hpipe with ⟨urbp, hmem, rfl⟩ | ⟨count, hle, hframes, hback⟩
  · obtain ⟨urb', henq', hstatic⟩ := h.known urbp hmem
    rw [h.once _ urb urb' henq henq'] at hpipe ⊢
    obtain ⟨hframes, hle, hlast⟩ := h.frames urbp hmem ((Urb.pipe_eq hstatic).symm.trans hpipe)
    rw [Urb.packets_eq hstatic]
    exact ⟨urbp.isoPacket, hle, hframes, fun hback => absurd hback (h.here urbp hmem 0),
      fun hall => Or.inr (hlast hall)⟩
  · exact ⟨count, hle, hframes, hback.mpr, fun hall => Or.inl (hback.mp hall)⟩

end LibVirtualGamepad.DummyHcd
