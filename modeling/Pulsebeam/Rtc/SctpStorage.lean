import Pulsebeam.Rtc.SctpLedger
import Pulsebeam.Rtc.SctpRun

/-! The counters of the storage of an association stay exact. -/

namespace Pulsebeam.Sctp

open Nat Option List Lib

variable {σ : Type} [Native σ]

namespace Association

open Ledger

variable {a b : Association σ} {e : Option StreamId} {x : Finset StreamId} {s : StreamId} {c : Channel} {r : ResetState}
  {e' : Option StreamId} {event : DataChannelEvent} {id : DataChannelId} {n : ℕ}

def ledger (a : Association σ) : Ledger where
  channels := a.channels
  pending := a.pendingInstallations
  resetting := a.resetting
  ready := a.readyResets
  events := a.events
  outgoing := a.outgoing
  next := a.nextChannelLifetime
  settled := a.settled
  books := a.books

def Booked (e : Option StreamId) (a : Association σ) : Prop :=
  ∃ x, a.ledger.Kept e x ∧ (a.stopped = false → x = ∅) ∧ Orderly a.socket

structure Onward (a b : Association σ) : Prop where
  stopped : a.stopped = true → b.stopped = true
  settled : a.settled → b.settled
  orderly : Orderly a.socket → Orderly b.socket

lemma Onward.rfl : Onward a a := ⟨id, id, id⟩

section

variable (h : Booked e a)

include h

lemma Booked.step (ho : Onward a b)
    (hk : ∀ x, a.ledger.Kept e x → Kept e' x { b.ledger with settled := a.settled }) : Booked e' b := by
  obtain ⟨x, hx, hrun, horderly⟩ := h
  refine ⟨x, (hk x hx).settle ho.settled, fun hb => hrun ?_, ho.orderly horderly⟩
  by_contra hs
  rw [ho.stopped (by simpa using hs)] at hb
  cases hb

lemma Booked.quiet (hq : Quiet a b) : Booked e b := by
  refine h.step ⟨(congrArg Core.stopped hq.core).trans, hq.settled, .reaches hq.socket⟩ fun x hx => ?_
  have hledger : { b.ledger with settled := a.settled } = a.ledger :=
    congrArg (fun k : Core => (⟨k.channels, k.pending, k.resetting, k.ready, k.events, k.outgoing, k.lifetimes, a.settled,
      k.books⟩ : Ledger)) hq.core
  rw [hledger]
  exact hx

lemma clearPackets_booked : Booked e a.clearPackets :=
  h.step ⟨id, id, id⟩ fun _ hx => hx.packets
    ⟨hx.books.future, hx.books.resets, hx.books.config, rfl, hx.books.room, hx.books.sound⟩

lemma discardInstallation_booked (s : StreamId) (notify : Bool) : Booked e (a.discardInstallation s notify) := by
  unfold discardInstallation
  split
  · exact h
  next d hd =>
    refine h.step ⟨id, id, id⟩ fun x hx => ?_
    have hgone := hx.discard hd
    cases notify with
    | false => exact hgone.idle
    | true =>
      have hslack := hx.slack (hx.filed s d hd).2 (hx.reserved_le (.inr hd))
      have hroom : a.events.length + (((a.books.cancelEvents d.reservedEvents).freeResets 1).releaseConfig d.lease
          (holds a.channels (a.pendingInstallations.erase s) a.events d.lifetime)).futureEvents <
          (((a.books.cancelEvents d.reservedEvents).freeResets 1).releaseConfig d.lease
            (holds a.channels (a.pendingInstallations.erase s) a.events d.lifetime)).eventsCapacity := by
        unfold Books.releaseConfig
        split
        · exact hslack
        · exact hslack
      have hposted := hgone.post ⟨d.lifetime, .installationFailed ⟨a.context, d.id, d.lifetime⟩, 0⟩ nofun hroom
      have hidle := hposted.idle
      rw [length_append] at hidle
      exact hidle

lemma collapse_booked : Booked e' a.collapse := by
  obtain ⟨x, hx, -, horderly⟩ := clearPackets_booked h
  have hclear := hx.clear
  have hkept : Kept e' ∅ _ := hx.collapse (b := a.collapse.books)
    { hclear with resets := rfl }
  exact ⟨∅, hkept.settle fun _ => .inl rfl, fun _ => rfl, .reaches (.single (.close _)) horderly⟩

lemma onChannel_booked {f : Channel → Channel} (hc : a.channels.get? s = some c)
    (hf : (f c).id = c.id ∧ (f c).lease = c.lease ∧ (f c).reservedEvents = c.reservedEvents)
    (hcredit : (f c).openedEmitted = false → (f c).closedEmitted = false → c.openedEmitted = false ∧ c.closedEmitted = false)
    (hclosing : (a.resetting.get? s).isSome → c.closedEmitted = true → c.state = .closing ∨ e = some s →
      (f c).closedEmitted = true ∧ ((f c).state = .closing ∨ e = some s)) : Booked e (a.onChannel s f) := by
  refine h.step ⟨id, id, id⟩ fun x hx => ?_
  have hput := hx.put hc hf.1 hf.2.1 (by rw [hf.2.2, zero_add]) (fun ho hcl => ?_) fun r hr => ?_
  · rw [Books.cancelEvents_zero] at hput
    exact hput
  · rw [hf.2.2]
    obtain ⟨ho, hcl⟩ := hcredit ho hcl
    exact hx.credit s c hc ho hcl
  · obtain ⟨hclosed, -, hstate⟩ := hx.closing s c r hc hr
    exact hclosing (by rw [show a.resetting.get? s = some r from hr]; rfl) hclosed hstate

lemma pushNotice_booked
    (hmarked : ∀ c, a.channels.get? id = some c → c.openedEmitted = true ∨ c.closedEmitted = true)
    (hlease : ∀ c, a.channels.get? id = some c → ∀ k, QueuedEvent.lease ⟨c.lifetime, event, 0⟩ = some k → k = c.lease) :
    Booked e (a.pushNotice id event) := by
  have hreserve := h.quiet (quiet_reserve)
  unfold pushNotice
  split
  · exact h
  next c hc =>
    split
    · exact collapse_booked h
    next hslots =>
      split
      · refine hreserve.step ⟨fun h => h, fun h => h, fun h => h⟩ fun x hx => ?_
        exact hx.notice hc hslots (hmarked c hc) (hlease c hc) a.spare
      · exact collapse_booked hreserve

lemma Booked.keyed (hc : a.channels.get? s = some c) : c.id = s := by
  obtain ⟨x, hx, -⟩ := h
  exact hx.keyed s c hc

end

lemma Booked.not_resetting (h : Booked none a) (hc : a.channels.get? s = some c) (ho : c.state = .opening) :
    a.resetting.get? s = none := by
  obtain ⟨x, hx, -⟩ := h
  by_contra hne
  obtain ⟨r, hr⟩ := ne_none_iff_exists'.1 hne
  rcases (hx.closing s c r hc hr).2.2 with hstate | hspared
  · exact absurd (ho.symm.trans hstate) nofun
  · cases hspared

lemma emitOpened_booked (h : Booked e a) (s : StreamId) : Booked e (a.emitOpened s) := by
  unfold emitOpened
  split
  · exact h
  next c hc =>
    have hc : a.channels.get? s = some c := hc
    split
    · exact h
    rw [h.keyed hc]
    have hmark := onChannel_booked h (f := fun c => { c with openedEmitted := true, openedAt := some a.now }) hc
      ⟨rfl, rfl, rfl⟩ nofun fun _ hclosed hstate => ⟨hclosed, hstate⟩
    have hget := OrdMap.get?_modify_of_get? (k := s) (f := fun c => { c with openedEmitted := true, openedAt := some a.now }) hc
    rw [if_pos rfl] at hget
    refine pushNotice_booked hmark (fun d hd => ?_) fun d hd k hk => ?_
    · cases hget.symm.trans hd
      exact .inl rfl
    · cases hget.symm.trans hd
      cases hk
      rfl

lemma emitClosed_of_none (h : a.channels.get? s = none) : a.emitClosed s = a := by
  rw [emitClosed, channel, h]

lemma pushNotice_resetting (a : Association σ) (id : DataChannelId) (event : DataChannelEvent) :
    (a.pushNotice id event).resetting = a.resetting ∧ (a.pushNotice id event).readyResets = a.readyResets := by
  unfold pushNotice
  split
  · exact ⟨rfl, rfl⟩
  split
  · exact ⟨rfl, rfl⟩
  · split <;> exact ⟨rfl, rfl⟩

lemma pushNotice_channel (hc : a.channels.get? s = some c) :
    (a.pushNotice s event).stopped = true ∧ (a.pushNotice s event).channels.get? s = none ∨
      (a.pushNotice s event).channels.get? s = some { c with reservedEvents := c.reservedEvents - 1 } := by
  unfold pushNotice
  rw [channel, hc]
  dsimp only
  split
  · exact .inl ⟨rfl, rfl⟩
  split
  · refine .inr ((OrdMap.get?_modify_of_get? hc).trans ?_)
    rw [if_pos rfl]
  · exact .inl ⟨rfl, rfl⟩

lemma emitClosed_channel (hc : a.channels.get? s = some c) (hid : c.id = s) :
    (a.emitClosed s).resetting = a.resetting ∧ ((a.emitClosed s).stopped = true ∧ (a.emitClosed s).channels.get? s = none ∨
      ∃ c', (a.emitClosed s).channels.get? s = some c' ∧ c'.closedEmitted = true ∧ c'.state = c.state) := by
  unfold emitClosed
  rw [channel, hc]
  dsimp only
  split
  next hclosed => exact ⟨rfl, .inr ⟨c, hc, hclosed, rfl⟩⟩
  refine ⟨(pushNotice_resetting ..).1, ?_⟩
  have hget := OrdMap.get?_modify_of_get? (k := s) (f := Channel.markClosed) hc
  rw [hid]
  refine (pushNotice_channel hget).imp_right fun hleft => ⟨_, hleft, ?_⟩
  rw [if_pos rfl]
  exact ⟨rfl, rfl⟩

lemma emitClosed_booked (h : Booked e a) (s : StreamId) : Booked e (a.emitClosed s) := by
  unfold emitClosed
  split
  · exact h
  next c hc =>
    split
    · exact h
    next hclosed =>
      have hclosed : c.closedEmitted = false := Bool.eq_false_iff.2 hclosed
      have hget := OrdMap.get?_modify_of_get? (k := s) (f := Channel.markClosed) hc
      rw [if_pos rfl] at hget
      rw [h.keyed hc]
      refine pushNotice_booked ?_ (fun d hd => ?_) fun d hd k hk => ?_
      · refine h.step ⟨id, id, id⟩ fun x hx => ?_
        have hle : (if c.openedEmitted then 0 else 1) ≤ c.reservedEvents := by
          split
          · exact zero_le _
          next ho => exact hx.credit s c hc (Bool.eq_false_iff.2 ho) hclosed
        have hput := hx.put (n := if c.openedEmitted then 0 else 1) (f := Channel.markClosed) hc rfl rfl
          (by dsimp only [Channel.markClosed]; omega) (fun _ h => by cases h) fun r hr => ⟨rfl, (hx.closing s c r hc hr).2.2⟩
        rw [decide_eq_true hle, Books.check_true]
        exact hput
      · cases hget.symm.trans hd
        exact .inr rfl
      · cases hk

lemma foldl_booked {f : Association σ → StreamId → Association σ} (hf : ∀ a s, Booked e a → Booked e (f a s))
    (h : Booked e a) {l : List StreamId} : Booked e (l.foldl f a) := by
  induction l generalizing a with
  | nil => exact h
  | cons s l ih => exact ih (hf a s h)

section

variable (h : Booked e a)

include h

lemma retirePendingLoop_booked : Booked e (retirePendingLoop n a) := by
  have hcursor : Booked e { a with installationCursor := none } := h.quiet ⟨rfl, id, .refl⟩
  induction n generalizing a with
  | zero =>
    rw [retirePendingLoop]
    split
    · exact hcursor
    · exact h
  | succ n ih =>
    rw [retirePendingLoop]
    split
    · exact hcursor
    next s _ =>
      have hdiscard := discardInstallation_booked h s true
      exact ih hdiscard (hdiscard.quiet ⟨rfl, id, .refl⟩)

lemma halted_booked : Booked e { a.closeAllChannels with stopped := true } := by
  have hclosed : Booked e a.closeAllChannels :=
    foldl_booked (fun _ s h => emitClosed_booked h s) (retirePendingLoop_booked h)
  exact hclosed.step ⟨fun _ => rfl, fun _ => .inl rfl, id⟩ fun _ hx => hx

lemma abortAssociation_booked : Booked e a.abortAssociation := by
  apply halted_booked
  apply clearPackets_booked
  exact h.quiet ⟨rfl, id, .single (.close _)⟩

lemma onReset_booked {f : ResetState → ResetState}
    (hf : ∀ r, (f r).failed = r.failed ∧ (f r).notificationReserved = r.notificationReserved) :
    Booked e (a.onReset s f) := by
  refine h.step ⟨id, id, id⟩ fun x hx => ?_
  rw [onReset]
  cases hr : a.resetting.get? s with
  | none =>
    rw [OrdMap.modify_of_none hr]
    exact hx
  | some r =>
    have hrecord := hx.record hr (fun hfail => (hf r).1.trans hfail) (fun hready => ?_)
      (by rw [(hf r).2, zero_add])
    · rw [Books.cancelEvents_zero] at hrecord
      exact hrecord
    obtain ⟨r', hr', hfail⟩ := hx.ready s hready
    cases hr.symm.trans hr'
    exact (hf r).1.trans hfail

lemma queueResetCompletion_booked (s : StreamId) : Booked e (a.queueResetCompletion s) := by
  unfold queueResetCompletion
  split
  next hany =>
    obtain ⟨r, hr, hflags⟩ := (any_eq_true _ _).1 hany
    simp only [Bool.and_eq_true, Bool.not_eq_true'] at hflags
    exact h.step ⟨id, id, id⟩ fun x hx => hx.queue hr hflags.2
  · exact h

lemma pushResetOutcome_booked (hr : a.resetting.get? s = some r) (success : Bool) :
    Booked e (a.pushResetOutcome s success) := by
  unfold pushResetOutcome
  dsimp only
  split
  · refine pushNotice_booked h (fun c hc => ?_) fun c hc k hk => ?_
    · obtain ⟨x, hx, -⟩ := h
      exact .inr (hx.closing s c r hc hr).1
    · cases success <;> cases hk
  · split
    next hreserved =>
      rw [hr] at hreserved
      have hreserved : r.notificationReserved = true := hreserved
      refine h.step ⟨id, id, id⟩ fun x hx => ?_
      have hle : 1 ≤ a.books.futureEvents := by
        have hfuture : a.books.futureEvents = _ + _ + _ := hx.books.future
        have hcount : 0 < a.resetting.countIf ResetState.notificationReserved := OrdMap.countIf_pos hr hreserved
        rw [hfuture]
        exact le_trans hcount (le_add_left _ _)
      have hrecord := hx.record (f := ({ · with notificationReserved := false })) hr (fun hfail => hfail)
        (fun hready => ?_) (by rw [hreserved]; rfl)
      · refine hrecord.post ⟨0, if success then .resetComplete s else .resetFailed s, 0⟩ (fun k hk => ?_)
          (hx.slack le_rfl hle)
        cases success <;> cases hk
      obtain ⟨r', hr', hfail⟩ := hx.ready s hready
      cases hr.symm.trans hr'
      exact hfail
    · exact h

end

omit [Native σ] in
lemma discardInstallation_resetting (a : Association σ) (s : StreamId) (notify : Bool) :
    (a.discardInstallation s notify).resetting = a.resetting := by
  unfold discardInstallation
  split <;> rfl

lemma pushResetOutcome_record (h : Booked e a) (hr : a.resetting.get? s = some r) (success : Bool) :
    (a.pushResetOutcome s success).readyResets = a.readyResets ∧
      ∃ r', (a.pushResetOutcome s success).resetting.get? s = some r' ∧ r'.failed = r.failed ∧
        r'.notificationReserved = false := by
  unfold pushResetOutcome
  dsimp only
  split
  next hsome =>
    obtain ⟨c, hc⟩ := isSome_iff_exists.1 hsome
    obtain ⟨hresetting, hready⟩ := pushNotice_resetting a s (if success then .resetComplete s else .resetFailed s)
    obtain ⟨x, hx, -⟩ := h
    rw [hresetting]
    exact ⟨hready, r, hr, rfl, (hx.closing s c r hc hr).2.1⟩
  · split
    · refine ⟨rfl, _, (OrdMap.get?_modify_of_get? hr).trans (congrArg some (if_pos rfl)), rfl, rfl⟩
    next hnot =>
      rw [hr] at hnot
      exact ⟨rfl, r, hr, rfl, Bool.eq_false_iff.2 hnot⟩

def markFailed (a : Association σ) (s : StreamId) : Association σ :=
  { a.onReset s ({ · with failed := true }) with
    readyResets := a.readyResets.erase s
    log := a.log ++ [Mark.failed s] }

lemma failReset_eq (hr : a.resetting.get? s = some r) (hf : r.failed = false) :
    a.failReset s = ((a.markFailed s).pushResetOutcome s false).discardInstallation s true := by
  rw [failReset, hr]
  dsimp only
  rw [hf]
  rfl

omit [Native σ] in
lemma markFailed_record (hr : a.resetting.get? s = some r) :
    (a.markFailed s).resetting.get? s = some { r with failed := true } :=
  (OrdMap.get?_modify_of_get? hr).trans (congrArg some (if_pos rfl))

lemma failReset_spec (h : Booked e a) (hr : a.resetting.get? s = some r) :
    Booked e (a.failReset s) ∧ ((a.failReset s).resetting.get? s).isSome := by
  cases hf : r.failed with
  | true =>
    rw [failReset, hr]
    dsimp only
    rw [if_pos hf, hr]
    exact ⟨h, rfl⟩
  | false =>
    have hmarked : Booked e (a.markFailed s) := by
      refine h.step ⟨id, id, id⟩ fun x hx => ?_
      have hrecord := (hx.unready s).record (f := ({ · with failed := true })) hr (fun _ => rfl)
        (fun hready => absurd rfl (OrdSet.mem_erase.1 hready).2) (zero_add _).symm
      rw [Books.cancelEvents_zero] at hrecord
      exact hrecord
    obtain ⟨-, r', hr', -⟩ := pushResetOutcome_record hmarked (markFailed_record hr) false
    rw [failReset_eq hr hf, discardInstallation_resetting, hr']
    exact ⟨discardInstallation_booked (pushResetOutcome_booked hmarked (markFailed_record hr) false) s true, rfl⟩

lemma failReset_booked (h : Booked e a) (s : StreamId) : Booked e (a.failReset s) := by
  cases hr : a.resetting.get? s with
  | none =>
    rw [failReset, hr]
    exact h
  | some r => exact (failReset_spec h hr).1

lemma removeChannel_booked (h : Booked (some s) a) (hr : (a.resetting.get? s).isSome) : Booked none (a.removeChannel s) := by
  refine h.step ⟨id, id, id⟩ fun x hx => ?_
  have hnone : (a.channels.erase s).get? s = none := OrdMap.get?_erase_self
  refine Kept.unspare ?_ hnone
  rw [removeChannel]
  cases hc : a.channels.get? s with
  | none =>
    rw [OrdMap.erase_eq_self hc]
    exact hx
  | some c => exact hx.remove hc hr

lemma releaseIdleEvents_booked (h : Booked e a) : Booked e a.releaseIdleEvents := h.step ⟨id, id, id⟩ fun _ hx => hx.idle

lemma Booked.spare (h : Booked none a) (s : StreamId) : Booked (some s) a := h.step .rfl fun _ hx => hx.spare s

lemma insert_failed (m : OrdMap StreamId ResetState) (s : StreamId) :
    (m.insert s {}).modify s ({ · with failed := true }) = m.insert s { failed := true } := by
  rw [OrdMap.modify_of_get? OrdMap.get?_insert_self, OrdMap.insert_insert]

lemma orphan_spec (h : Booked none a) (hstop : a.stopped = true) (hc : a.channels.get? s = none)
    (hr : a.resetting.get? s = none) :
    Booked none ({ a with resetting := a.resetting.insert s {} }.failReset s) ∧
      (({ a with resetting := a.resetting.insert s {} }.failReset s).resetting.get? s).isSome := by
  have howed : Booked none (markFailed { a with resetting := a.resetting.insert s {} } s) := by
    obtain ⟨x, hx, -, horderly⟩ := h
    refine ⟨insert s x, ?_, fun hrun => absurd (hstop.symm.trans hrun) nofun, horderly⟩
    have hkept := (hx.unready s).owe (r := { failed := true }) hc hr rfl rfl
    rw [← insert_failed] at hkept
    exact hkept
  have hr' : ({ a with resetting := a.resetting.insert s {} } : Association σ).resetting.get? s = some {} :=
    OrdMap.get?_insert_self
  obtain ⟨-, r, hr, -⟩ := pushResetOutcome_record howed (markFailed_record hr') false
  rw [failReset_eq hr' rfl, discardInstallation_resetting, hr]
  exact ⟨discardInstallation_booked (pushResetOutcome_booked howed (markFailed_record hr') false) s true, rfl⟩

lemma rejectDeclared_booked (h : Booked none a) (hc : a.channels.get? s = some c) (ho : c.state = .opening) :
    Booked none (a.rejectDeclared s) := by
  have hr := h.not_resetting hc ho
  have hclosed := emitClosed_booked h s
  obtain ⟨hresetting, hleft⟩ := emitClosed_channel hc (h.keyed hc)
  rw [← hresetting] at hr
  unfold rejectDeclared
  generalize a.emitClosed s = b at hr hclosed hleft
  have hr' : ({ b with resetting := b.resetting.insert s {} } : Association σ).resetting.get? s = some {} :=
    OrdMap.get?_insert_self
  apply releaseIdleEvents_booked
  rcases hleft with ⟨hstop, hnone⟩ | ⟨c', hc', hemitted, -⟩
  · obtain ⟨hfailed, hrecord⟩ := orphan_spec hclosed hstop hnone hr
    exact removeChannel_booked (hfailed.spare s) hrecord
  have hentered : Booked _ { b with resetting := b.resetting.insert s {} } :=
    hclosed.step ⟨id, id, id⟩ fun x hx => (hx.spare s).begin hc' hemitted (.inr rfl) hr rfl
  obtain ⟨hfailed, hrecord⟩ := failReset_spec hentered hr'
  exact removeChannel_booked hfailed hrecord

lemma resetStreams_booked (h : Booked e a) (streams : List StreamId) : Booked e (a.resetStreams streams).2 :=
  h.quiet ⟨rfl, id, .single (.resetStreams ..)⟩

lemma startReset_booked {p : Bool} (hstop : (a.emitClosed s).stopped = true → Booked e (a.emitClosed s))
    (hrun : (a.emitClosed s).stopped = false → Booked e { a.emitClosed s with
      resetting := (a.emitClosed s).resetting.insert s
        { incoming := (a.emitClosed s).resetAllCursor.isSome, notificationReserved := p } }) :
    Booked e (a.startReset s p).2 := by
  unfold startReset
  dsimp only
  split
  next h => exact hstop h
  next h =>
    have hsent := resetStreams_booked (hrun (Bool.eq_false_iff.2 h)) [s]
    split
    · exact hsent
    · exact failReset_booked hsent s

section

variable (h : Booked none a)

include h

lemma closingReset_booked (hr : a.resetting.get? s = none) (hc : a.channels.get? s = some c) :
    Booked none ((a.onChannel s ({ · with state := .closing })).startReset s false).2 := by
  have hclosing : Booked none (a.onChannel s ({ · with state := .closing })) :=
    onChannel_booked h hc ⟨rfl, rfl, rfl⟩ (fun ho hcl => ⟨ho, hcl⟩) fun _ hclosed _ => ⟨hclosed, .inl rfl⟩
  have hc' : (a.onChannel s ({ · with state := .closing })).channels.get? s = some { c with state := .closing } :=
    (OrdMap.get?_modify_of_get? hc).trans (congrArg some (if_pos rfl))
  have hclosed := emitClosed_booked hclosing s
  obtain ⟨hresetting, hleft⟩ := emitClosed_channel hc' (hclosing.keyed hc')
  refine startReset_booked (fun _ => hclosed) fun hrun => ?_
  rcases hleft with ⟨hstop, -⟩ | ⟨c', hc', hemitted, hstate⟩
  · exact absurd (hrun.symm.trans hstop) nofun
  · have hr' := (congrArg (·.get? s) hresetting).trans hr
    exact hclosed.step ⟨id, id, id⟩ fun x hx => hx.begin hc' hemitted (.inl hstate) hr' rfl

lemma fundedReset_booked (hrun : a.stopped = false) (hr : a.resetting.get? s = none) (hc : a.channels.get? s = none) :
    Booked none (a.fundReset.startReset s true).2 := by
  have hnone : a.fundReset.channels.get? s = none := hc
  have hentered : Booked none { a.fundReset with
      resetting := a.resetting.insert s { incoming := a.resetAllCursor.isSome, notificationReserved := true } } := by
    refine (h.quiet (quiet_reserve)).step ⟨fun h => h, fun h => h, fun h => h⟩ fun x hx => ?_
    obtain ⟨hcommit, hroom⟩ := hx.commit 1 a.spare
    exact hcommit.fund hc hr rfl hroom
  refine startReset_booked (fun hstop => ?_) fun _ => ?_
  · rw [emitClosed_of_none hnone] at hstop
    exact absurd (hstop.symm.trans hrun) nofun
  · rw [emitClosed_of_none hnone]
    exact hentered

lemma beginReset_booked (s : StreamId) : Booked none (a.beginReset s).2 := by
  unfold beginReset
  split
  · exact h
  next hrun =>
    split
    · exact h
    next hr =>
      split
      next c hc =>
        split
        next hdeclared => exact rejectDeclared_booked h hc hdeclared.2
        · exact closingReset_booked h hr hc
      next hc =>
        split
        · exact fundedReset_booked h (Bool.eq_false_iff.2 hrun) hr hc
        · exact abortAssociation_booked (h.quiet (quiet_reserve))

lemma incomingReset_booked (s : StreamId) : Booked none (a.incomingReset s) := by
  have hbegin := beginReset_booked h s
  unfold incomingReset
  dsimp only
  split
  · apply queueResetCompletion_booked
    exact onReset_booked hbegin fun _ => ⟨rfl, rfl⟩
  · exact hbegin

end

lemma performReset_booked (h : Booked e a) : Booked e (a.performReset s) := by
  have hmark : Booked e (a.onReset s ({ · with outgoing := true })) := onReset_booked h fun _ => ⟨rfl, rfl⟩
  unfold performReset
  split
  · apply queueResetCompletion_booked
    exact hmark.step ⟨id, id, id⟩ fun _ hx => hx
  · exact h

lemma visitResetAll_booked (h : Booked none a) : Booked none a.visitResetAll := by
  unfold visitResetAll
  split
  · exact h
  split
  · exact h.step ⟨id, id, id⟩ fun _ hx => hx
  next s _ =>
    have hdiscard := discardInstallation_booked h s true
    dsimp only
    split
    · exact (incomingReset_booked hdiscard s).step ⟨id, id, id⟩ fun _ hx => hx
    · exact hdiscard.step ⟨id, id, id⟩ fun _ hx => hx

lemma activateInstallation_booked (h : Booked e a) : Booked e (a.activateInstallation s) := by
  unfold activateInstallation
  split
  · exact h
  next hready =>
    simp only [not_or, Bool.not_eq_true, isSome_eq_false_iff, isNone_iff_eq_none, not_not] at hready
    obtain ⟨hrun, hdeadline, -, hstate, hr⟩ := hready
    have hopen : ¬a.settled := by
      rintro (hs | hs | hs)
      · cases hrun.symm.trans hs
      · rw [hdeadline] at hs
        cases hs
      · exact hs a.socket .refl hstate
    split
    · exact discardInstallation_booked h s true
    split
    · exact h
    next c hc =>
      apply emitOpened_booked
      have hactive : Booked e { a with
          pendingInstallations := a.pendingInstallations.erase s
          channels := a.channels.insert s { c with state := .opened } } :=
        h.step ⟨id, id, id⟩ fun x hx => hx.activate hc hr hopen rfl rfl rfl
      have hquiet := hactive.quiet (quiet_setStreamPriority _ s c.config.priority)
      exact hquiet.step ⟨id, id, id⟩ fun _ hx => hx

lemma finishReset_booked (h : Booked none a) (hr : a.resetting.get? s = some r) (hf : r.failed = false)
    (hnotice : r.notificationReserved = false) (hready : s ∉ a.readyResets) : Booked none (a.finishReset s) := by
  have hremoved := removeChannel_booked (h.spare s) (by rw [hr]; rfl)
  refine hremoved.step ⟨id, id, id⟩ fun x hx => ?_
  refine hx.finish OrdMap.get?_erase_self hr hnotice (fun hs => ?_) hready
  obtain ⟨-, r', hr', hfailed⟩ := hx.unpaid s hs
  cases hr.symm.trans hr'
  exact absurd (hf.symm.trans hfailed) nofun

lemma completeLoop_booked (h : Booked none a) : Booked none (completeLoop n a) := by
  induction n generalizing a with
  | zero => exact h.quiet ⟨rfl, id, .refl⟩
  | succ n ih =>
    unfold completeLoop
    split
    · exact h
    next s rest hready =>
      have hs : s ∈ a.readyResets := by
        change s ∈ a.readyResets.elems
        rw [hready]
        exact mem_cons_self
      obtain ⟨r, hr, hf⟩ : ∃ r, a.resetting.get? s = some r ∧ r.failed = false := by
        obtain ⟨x, hx, -⟩ := h
        exact hx.ready s hs
      have htaken : Booked none { a with readyResets := a.readyResets.erase s } := h.step ⟨id, id, id⟩ fun _ hx => hx.unready s
      have hpushed := pushResetOutcome_booked htaken hr true
      obtain ⟨hqueue, r', hr', hf', hnotice⟩ := pushResetOutcome_record htaken hr true
      have hout : s ∉ (pushResetOutcome { a with readyResets := a.readyResets.erase s } s true).readyResets := by
        rw [hqueue]
        simp
      have hfinished := finishReset_booked hpushed hr' (hf'.trans hf) hnotice hout
      exact ih (releaseIdleEvents_booked (activateInstallation_booked hfinished))

lemma reopened_booked (h : Booked none a) (hc : a.channels.get? s = some c) (ho : c.state = .opening) :
    Booked none ((a.onChannel s ({ · with state := .opened })).emitOpened s) := by
  have hr := h.not_resetting hc ho
  apply emitOpened_booked
  refine onChannel_booked h hc ⟨rfl, rfl, rfl⟩ (fun ho hcl => ⟨ho, hcl⟩) fun hsome => ?_
  rw [hr] at hsome
  cases hsome

lemma popEvent_booked {q : QueuedEvent} {rest : List QueuedEvent} (h : Booked e a) (hq : a.events = q :: rest) :
    Booked e (a.popEvent q rest) := by
  refine h.step ⟨id, id, id⟩ fun x hx => ?_
  have hdrop := (hx.drop hq).idle
  rw [popEvent]
  cases hk : q.lease with
  | none =>
    rw [hk] at hdrop
    exact hdrop
  | some k =>
    rw [hk] at hdrop
    dsimp only
    rw [Books.releaseConfig_idle]
    exact hdrop

lemma pollPacket_booked (h : Booked e a) : Booked e a.pollPacket.2 := by
  unfold pollPacket
  split
  · exact h
  next packet capacity rest hout =>
    refine h.step ⟨id, id, id⟩ fun x hx => ?_
    have hpackets : a.books.outgoingPacketBytes = (a.outgoing.map Prod.snd).sum := hx.books.packets
    rw [hout, map_cons, sum_cons] at hpackets
    have hle : capacity ≤ a.books.outgoingPacketBytes := by
      rw [hpackets]
      exact le_add_right _ _
    refine hx.packets ⟨hx.books.future, hx.books.resets, hx.books.config, ?_, hx.books.room, ?_⟩
    · change a.books.outgoingPacketBytes - capacity = (rest.map Prod.snd).sum
      rw [hpackets, Nat.add_sub_cancel_left]
    · rw [decide_eq_true hle, Books.check_true]
      exact hx.books.sound

lemma packet_booked (h : Booked e a) {packet : List UInt8} {capacity : ℕ} : Booked e { a with
    outgoing := a.outgoing ++ [(packet, capacity)]
    books := { a.books with outgoingPacketBytes := a.books.outgoingPacketBytes + capacity } } := by
  refine h.step ⟨id, id, id⟩ fun x hx => hx.packets
    ⟨hx.books.future, hx.books.resets, hx.books.config, ?_, hx.books.room, hx.books.sound⟩
  have hpackets : a.books.outgoingPacketBytes = (a.outgoing.map Prod.snd).sum := hx.books.packets
  change a.books.outgoingPacketBytes + capacity = ((a.outgoing ++ [(packet, capacity)]).map Prod.snd).sum
  simp [hpackets]

lemma message_booked (h : Booked e a) {ℓ : ℕ} {message : DataMessage} {retained spare : ℕ}
    (hle : a.queuedInboundPayloadBytes + retained ≤ a.maxBufferedBytes) : Booked e { a with
      queuedInboundPayloadBytes := a.queuedInboundPayloadBytes + retained
      events := a.events ++ [⟨ℓ, .message id message, retained⟩]
      books := (a.books.commit a.events.length 1 spare).pushBack a.events.length
      inbound_le := hle } := by
  refine h.step ⟨fun h => h, fun h => h, fun h => h⟩ fun x hx => ?_
  obtain ⟨hcommit, hroom⟩ := hx.commit 1 spare
  exact hcommit.post ⟨ℓ, .message id message, retained⟩ nofun hroom

lemma admitted_booked (h : Booked e a) (hnew : Channel.New a c) (hv : a.Vacant True c.stream) {spare : ℕ} :
    Booked e (a.admitted c spare) := by
  refine h.step ⟨id, id, id⟩ fun x hx => ?_
  obtain ⟨hkept, hlife⟩ := hx.allocate hnew.issued a.followingLifetime_gt
  exact hkept.enrol hv.channel (hv.pending trivial) hv.resetting hnew.id hnew.slots (hnew.lifetime ▸ hlife) spare

lemma staged_booked (h : Booked e a) (hnew : Channel.New a c) (hp : a.pendingInstallations.get? c.stream = none)
    (hc : (a.channels.get? c.stream).isSome → (a.resetting.get? c.stream).isSome) {spare : ℕ} :
    Booked e (a.staged c spare) := by
  refine h.step ⟨id, id, id⟩ fun x hx => ?_
  obtain ⟨hkept, hlife⟩ := hx.allocate hnew.issued a.followingLifetime_gt
  exact hkept.stage hp hc hnew.id hnew.slots (hnew.lifetime ▸ hlife) spare

lemma new_kept {facts : SctpSessionFacts} {limits : ConnectionLimits} {acceptedAt : Nanos} {context : Context} {socket : σ}
    (h : new facts limits acceptedAt context socket = some a) : a.ledger.Kept none ∅ := by
  unfold new at h
  split at h
  · cases h
  · cases h
    exact kept_empty ⟨rfl, rfl, rfl, rfl, le_rfl, rfl⟩

lemma abort_booked (h : Booked e a) : Booked none a.abort := by
  unfold abort
  extract_lets b
  have hclosed : Booked e b := by
    unfold b
    split
    · exact h
    · exact h.quiet ⟨rfl, id, .single (.close _)⟩
  obtain ⟨x, hx, -, horderly⟩ := clearPackets_booked hclosed
  have hclear := hx.dropAll.clear
  have hcancel := hclear.cancel (m := 0) rfl
  have hidle := hcancel.idle
  refine ⟨∅, kept_empty ?_, fun _ => rfl, horderly⟩
  exact { hidle with resets := rfl }

lemma booked_withstands : Withstands True (fun _ => True) (Booked (σ := σ) none) where
  orderly _ _ h := by
    obtain ⟨-, -, -, horderly⟩ := h
    exact horderly
  act {a b} _ h ha := by
    cases ha with
    | touch hq => exact h.quiet hq
    | tally s f g =>
      cases hc : a.channels.get? s with
      | none =>
        rw [onChannel, OrdMap.modify_of_none hc]
        exact h
      | some c =>
        exact onChannel_booked h hc ⟨rfl, rfl, rfl⟩ (fun ho hcl => ⟨ho, hcl⟩) fun _ hclosed hstate => ⟨hclosed, hstate⟩
    | skip hnext => exact h.step ⟨id, id, id⟩ fun _ hx => (hx.allocate hnext (followingLifetime_gt _)).1
    | discard s notify => exact discardInstallation_booked h s notify
    | activate => exact activateInstallation_booked h
    | reopen _ hc ho => exact reopened_booked h hc ho
    | reject hc ho => exact rejectDeclared_booked h hc ho
    | reset s => exact beginReset_booked h s
    | report s => exact (incomingReset_booked h s).step ⟨id, id, id⟩ fun _ hx => hx
    | perform => exact performReset_booked h
    | fail s => exact failReset_booked h s
    | resetAll => exact h.step ⟨id, id, id⟩ fun _ hx => hx
    | sweep => exact visitResetAll_booked h
    | complete => exact completeLoop_booked (h.step ⟨id, id, id⟩ fun _ hx => hx)
    | halt => exact halted_booked h
    | clear => exact clearPackets_booked h
    | packet => exact packet_booked h
    | poll => exact pollPacket_booked h
    | push _ _ _ _ _ _ _ hle => exact message_booked h hle
    | pop hq => exact popEvent_booked h hq
    | deliver hq => exact (popEvent_booked h hq).step ⟨id, id, id⟩ fun _ hx => hx
    | accept _ hb hnew _ hv _ hq =>
      refine emitOpened_booked (Booked.quiet (admitted_booked ?_ hnew hv) hq) _
      rcases hb with rfl | ⟨s, rfl⟩
      · exact h
      · exact activateInstallation_booked h
    | declare _ hnew _ hv => exact admitted_booked h hnew hv
    | stage _ hnew _ hp hc => exact staged_booked h hnew hp hc
    | abort => exact abort_booked h

structure Exact (a : Association σ) : Prop where
  resets : a.stopped = false → a.books.resetRuntimeBytes =
    resetBytes * ((a.channels.keySet ∪ a.resetting.keySet).card + a.pendingInstallations.size)
  future : a.books.futureEvents = a.channels.sum Channel.reservedEvents +
    a.pendingInstallations.sum Channel.reservedEvents + a.resetting.countIf ResetState.notificationReserved
  config : a.books.configRuntimeBytes =
    total ConfigLease.bytes (held (tables a.channels a.pendingInstallations) a.events)
  capacity : a.events.length + a.books.futureEvents ≤ a.books.eventsCapacity
  sound : a.books.underflowed = false

lemma Exact.of_kept (hx : a.ledger.Kept none x) (hrun : a.stopped = false → x = ∅) : Exact a := by
  refine ⟨fun hrunning => ?_, hx.books.future, hx.books.config, ?_, hx.books.sound⟩
  · have hresets : a.books.resetRuntimeBytes = _ * resetBytes := hx.books.resets
    rw [hresets, hrun hrunning, mul_comm]
    rfl
  · have hroom : a.events.length + _ ≤ a.books.eventsCapacity := hx.books.room
    rw [show a.books.futureEvents = _ from hx.books.future]
    exact hroom

/-- The runs in which every step finds the socket orderly. -/
def orderly (σ : Type) [Native σ] : Machine (Association σ) Op := { machine σ with guard := fun a _ => Orderly a.socket }

/-- As long as the socket, once it has handed out a message without being connected, is spent, the counters are exact, and no
subtraction goes below zero. -/
theorem storage_exact (a : Association σ) (h : (orderly σ).Reachable a) : Exact a := by
  obtain ⟨x, hx, hrun⟩ : ∃ x, a.ledger.Kept none x ∧ (a.stopped = false → x = ∅) := by
    refine h.invariant (I := fun a => ∃ x, a.ledger.Kept none x ∧ (a.stopped = false → x = ∅)) ?_ ?_
    · rintro a ⟨facts, limits, acceptedAt, context, socket, hnew⟩
      exact ⟨∅, new_kept hnew, fun _ => rfl⟩
    · rintro a op ⟨x, hx, hrun⟩ horderly
      obtain ⟨y, hy, hrun', -⟩ := booked_withstands.step ⟨x, hx, hrun, horderly⟩ op
      exact ⟨y, hy, hrun'⟩
  exact .of_kept hx hrun

lemma orderly_admits (h : Booked none a) (ops : List Op) : (orderly σ).Admits a ops := by
  induction ops generalizing a with
  | nil => trivial
  | cons op ops ih => exact ⟨booked_withstands.orderly trivial h, ih (booked_withstands.step h op)⟩

lemma Script.steady_reaches {socket later : Script} (h : Reaches socket later)
    (hs : socket.steady = true ∧ socket.connected = true) : later.steady = true ∧ later.connected = true := by
  induction h with
  | refl => exact hs
  | @tail socket _ _ hnext ih =>
    cases hnext with
    | handleInput packet =>
      change (socket.input packet).steady = true ∧ (socket.input packet).connected = true
      unfold Script.input
      split <;> simp [ih]
    | _ => exact ih

lemma Script.orderly {socket : Script} (hs : socket.steady = true ∧ socket.connected = true) : Orderly socket := by
  intro later hl _ hstate
  have hconnected : later.connected = true := (steady_reaches hl hs).2
  exact absurd (if_pos hconnected) hstate

theorem storage_exact_in_talk :
    (orderly Script).Reachable (talk.foldl step started) ∧ Exact (talk.foldl step started) := by
  have hnew : new _ _ _ _ _ = some started := (some_get _).symm
  have hbooked : Booked none started := ⟨∅, new_kept hnew, fun _ => rfl, Script.orderly ⟨rfl, rfl⟩⟩
  have hreach : (orderly Script).Reachable _ := .run (.init ⟨_, _, _, _, _, hnew⟩) (orderly_admits hbooked talk)
  exact ⟨hreach, storage_exact _ hreach⟩

def restarting : Association Script :=
  (new ⟨false, none, false⟩ ⟨1000, 1000⟩ 0 (Vector.replicate 32 0) { steady := false }).get rfl

def restart : List Op := [.handleInput 0 [1], .install 1 chat, .handleInput 2 [2], .handleInput 3 [3]]

theorem storage_inexact_after_restart :
    ∃ a, (machine Script).Reachable a ∧ a.stopped = false ∧ a.books.resetRuntimeBytes = 2 * resetBytes ∧
      (a.channels.keySet ∪ a.resetting.keySet).card + a.pendingInstallations.size = 1 ∧ a.books.futureEvents = 4 ∧
        a.channels.sum Channel.reservedEvents + a.pendingInstallations.sum Channel.reservedEvents +
          a.resetting.countIf ResetState.notificationReserved = 2 := by
  have hstart : (machine Script).Reachable restarting := .init ⟨_, _, _, _, _, (some_get _).symm⟩
  have hreach : (machine Script).Reachable _ :=
    hstart.run (Machine.admits_of_forall (fun _ _ => trivial) restarting restart)
  exact ⟨_, hreach, by decide +kernel⟩

end Association

end Pulsebeam.Sctp
