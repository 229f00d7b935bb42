import Pulsebeam.Rtc.SctpBooks

/-! What the counters of the storage have to say of the tables of an association, and how each change keeps it. -/

namespace Pulsebeam.Sctp

open Nat Option List Lib

structure Ledger where
  channels : OrdMap StreamId Channel
  pending : OrdMap StreamId Channel
  resetting : OrdMap StreamId ResetState
  ready : OrdSet StreamId
  events : List QueuedEvent
  outgoing : List (List UInt8 × ℕ)
  next : ℕ
  settled : Prop
  books : Books

namespace Ledger

def dues (debt : Finset StreamId) (l : Ledger) : Dues where
  events := l.channels.sum Channel.reservedEvents + l.pending.sum Channel.reservedEvents +
    l.resetting.countIf ResetState.notificationReserved
  resets := (l.channels.keySet ∪ (l.resetting.keySet \ debt)).card + l.pending.size
  config := total ConfigLease.bytes (held (tables l.channels l.pending) l.events)
  packets := (l.outgoing.map Prod.snd).sum
  queued := l.events.length

structure Kept (spared : Option StreamId) (debt : Finset StreamId) (l : Ledger) : Prop where
  keyed : ∀ s c, l.channels.get? s = some c → c.id = s
  filed : ∀ s c, l.pending.get? s = some c → c.id = s ∧ 1 ≤ c.reservedEvents
  credit : ∀ s c, l.channels.get? s = some c → c.openedEmitted = false → c.closedEmitted = false → 1 ≤ c.reservedEvents
  closing : ∀ s c r, l.channels.get? s = some c → l.resetting.get? s = some r →
    c.closedEmitted = true ∧ r.notificationReserved = false ∧ (c.state = .closing ∨ spared = some s)
  ready : ∀ s ∈ l.ready, ∃ r, l.resetting.get? s = some r ∧ r.failed = false
  unpaid : ∀ s ∈ debt, l.channels.get? s = none ∧ ∃ r, l.resetting.get? s = some r ∧ r.failed = true
  apart : ∀ s c d, l.channels.get? s = some c → l.pending.get? s = some d → (l.resetting.get? s).isSome ∨ l.settled
  leased : Leased (tables l.channels l.pending) l.events l.next
  books : l.books.Covers (l.dues debt)

variable {l : Ledger} {e : Option StreamId} {x : Finset StreamId} {s : StreamId} {c c' : Channel} {r : ResetState} {n : ℕ}
  {q : QueuedEvent} {b : Books} {next : ℕ} {p : Prop}

lemma Kept.settle (h : Kept e x l) (hp : l.settled → p) : Kept e x { l with settled := p } :=
  { h with apart := fun s c d hc hd => (h.apart s c d hc hd).imp_right hp }

lemma Kept.idle (h : Kept e x l) : Kept e x { l with books := l.books.releaseIdleEvents l.events.length } :=
  { h with books := h.books.idle }

lemma Kept.commit (h : Kept e x l) (slots spare : ℕ) :
    Kept e x { l with books := l.books.commit l.events.length slots spare } ∧
      l.events.length + l.books.futureEvents + slots ≤ (l.books.commit l.events.length slots spare).eventsCapacity := by
  obtain ⟨hbooks, hroom⟩ := h.books.commit slots spare
  refine ⟨{ h with books := hbooks }, ?_⟩
  rw [h.books.future]
  exact hroom

lemma Kept.spare (h : Kept none x l) (s : StreamId) : Kept (some s) x l := by
  refine { h with closing := fun t c r hc hr => ?_ }
  obtain ⟨hclosed, hnotice, hstate⟩ := h.closing t c r hc hr
  exact ⟨hclosed, hnotice, .inl (hstate.resolve_right nofun)⟩

lemma Kept.unspare (h : Kept (some s) x l) (hs : l.channels.get? s = none) : Kept none x l := by
  refine { h with closing := fun t c r hc hr => ?_ }
  obtain ⟨hclosed, hnotice, hstate⟩ := h.closing t c r hc hr
  refine ⟨hclosed, hnotice, .inl (hstate.resolve_right ?_)⟩
  rintro ⟨⟩
  cases hs.symm.trans hc

section

variable (h : Kept e x l)

include h

lemma Kept.put {f : Channel → Channel} (hc : l.channels.get? s = some c) (hid : (f c).id = c.id)
    (hlease : (f c).lease = c.lease) (hslots : c.reservedEvents = n + (f c).reservedEvents)
    (hcredit : (f c).openedEmitted = false → (f c).closedEmitted = false → 1 ≤ (f c).reservedEvents)
    (hclosing : ∀ r, l.resetting.get? s = some r → (f c).closedEmitted = true ∧ ((f c).state = .closing ∨ e = some s)) :
    Kept e x { l with channels := l.channels.modify s f, books := l.books.cancelEvents n } := by
  rw [OrdMap.modify_of_get? hc]
  generalize f c = c' at hid hlease hslots hcredit hclosing ⊢
  have hold : ∀ {t d}, (l.channels.insert s c').get? t = some d → ∃ d', l.channels.get? t = some d' := by
    intro t d hd
    rcases OrdMap.get?_of_insert hd with ⟨rfl, -⟩ | hd
    · exact ⟨c, hc⟩
    · exact ⟨d, hd⟩
  have htables := (tables_insert_channel l.channels l.pending s c')
  have hleased := (h.leased.perm (tables_erase_channel l.pending hc)).put hlease
  exact
    { keyed := OrdMap.forall_insert (hid.trans (h.keyed s c hc)) h.keyed
      filed := h.filed
      credit := OrdMap.forall_insert hcredit h.credit
      closing := fun t d r => OrdMap.forall_insert (fun hr =>
        have ⟨hclosed, hstate⟩ := hclosing r hr
        ⟨hclosed, (h.closing s c r hc hr).2.1, hstate⟩) (fun t d => h.closing t d r) t d
      ready := h.ready
      unpaid := fun t ht => by
        obtain ⟨hnone, hrecord⟩ := h.unpaid t ht
        have hts : t ≠ s := by
          rintro rfl
          cases hnone.symm.trans hc
        exact ⟨(OrdMap.get?_insert_of_ne hts).trans hnone, hrecord⟩
      apart := fun t d p hd hp => by
        obtain ⟨d', hd'⟩ := hold hd
        exact h.apart t d' p hd' hp
      leased := hleased.perm htables.symm
      books := by
        have hevents : (l.dues x).events = n + (dues x { l with channels := l.channels.insert s c' }).events := by
          simp only [dues]
          rw [OrdMap.sum_erase hc, OrdMap.sum_insert]
          omega
        have hconfig : total ConfigLease.bytes (held (tables (l.channels.insert s c') l.pending) l.events) =
            total ConfigLease.bytes (held (tables l.channels l.pending) l.events) := by
          rw [total_perm (held_perm htables _), total_perm (held_perm (tables_erase_channel l.pending hc) _), held_cons,
            held_cons, hlease]
        refine (h.books.cancel hevents).of_eq ?_
        simp only [dues, hconfig, OrdMap.keySet_insert_of_get? hc] }

lemma Kept.post (q : QueuedEvent)
    (hq : ∀ k, q.lease = some k → k ∈ held (tables l.channels l.pending) l.events)
    (hroom : l.events.length + l.books.futureEvents < l.books.eventsCapacity) :
    Kept e x { l with events := l.events ++ [q], books := l.books.pushBack l.events.length } := by
  have hbooks := h.books.post (by rw [← h.books.future]; exact hroom)
  have hconfig : total ConfigLease.bytes (held (tables l.channels l.pending) (l.events ++ [q])) =
      total ConfigLease.bytes (held (tables l.channels l.pending) l.events) := by
    apply total_congr
    intro k
    rw [held_snoc, mem_append, mem_toList]
    exact ⟨fun hk => hk.elim id (hq k), .inl⟩
  refine { h with leased := h.leased.post hq, books := hbooks.of_eq ?_ }
  simp only [dues, hconfig, length_append, length_singleton]

lemma Kept.slack (hn : 1 ≤ n) (hle : n ≤ l.books.futureEvents) :
    l.events.length + (l.books.cancelEvents n).futureEvents < (l.books.cancelEvents n).eventsCapacity := by
  have hroom := h.books.room
  rw [← h.books.future] at hroom
  change l.events.length + l.books.futureEvents ≤ l.books.eventsCapacity at hroom
  change l.events.length + (l.books.futureEvents - n) < l.books.eventsCapacity
  omega

lemma Kept.reserved_le (hc : l.channels.get? s = some c ∨ l.pending.get? s = some c) :
    c.reservedEvents ≤ l.books.futureEvents := by
  have hle := hc.imp (OrdMap.le_sum (f := Channel.reservedEvents)) (OrdMap.le_sum (f := Channel.reservedEvents))
  have hfuture : l.books.futureEvents = _ + _ + _ := h.books.future
  omega

lemma Kept.notice (hc : l.channels.get? s = some c) (hslots : c.reservedEvents ≠ 0)
    (hmarked : c.openedEmitted = true ∨ c.closedEmitted = true) (hq : ∀ k, q.lease = some k → k = c.lease) (spare : ℕ) :
    Kept e x { l with
      channels := l.channels.modify s fun c => { c with reservedEvents := c.reservedEvents - 1 }
      events := l.events ++ [q]
      books := ((l.books.commit l.events.length 0 spare).cancelEvents 1).pushBack l.events.length } := by
  have hcommit := (h.commit 0 spare).1
  have hput := hcommit.put (n := 1) (f := fun c => { c with reservedEvents := c.reservedEvents - 1 }) hc rfl rfl
    (by dsimp only; omega) (fun ho hcl => ?_) fun r hr => ?_
  · refine hput.post q (fun k hk => ?_) (hcommit.slack le_rfl (le_trans (by omega) (hcommit.reserved_le (.inl hc))))
    have hmem := (tables_insert_channel l.channels l.pending s { c with reservedEvents := c.reservedEvents - 1 }).mem_iff.2
      mem_cons_self
    have hheld := mem_map_of_mem (f := Channel.lease) hmem
    rw [hq k hk]
    rw [OrdMap.modify_of_get? hc]
    exact mem_append_left _ hheld
  · rcases hmarked with hm | hm
    · exact absurd (ho.symm.trans hm) nofun
    · exact absurd (hcl.symm.trans hm) nofun
  · obtain ⟨hclosed, -, hstate⟩ := h.closing s c r hc hr
    exact ⟨hclosed, hstate⟩

lemma Kept.discard (hd : l.pending.get? s = some c) :
    Kept e x { l with
      pending := l.pending.erase s
      books := ((l.books.cancelEvents c.reservedEvents).freeResets 1).releaseConfig c.lease
        (Association.holds l.channels (l.pending.erase s) l.events c.lifetime) } := by
  have hperm := tables_erase_pending l.channels hd
  have hleased := h.leased.perm hperm
  have hevents : (l.dues x).events = c.reservedEvents + (dues x { l with pending := l.pending.erase s }).events := by
    simp only [dues]
    rw [OrdMap.sum_erase hd]
    omega
  have hresets : (l.dues x).resets = 1 + (dues x { l with pending := l.pending.erase s }).resets := by
    simp only [dues]
    rw [OrdMap.size_erase hd]
    omega
  have hconfig : (l.dues x).config = total ConfigLease.bytes _ := total_perm (held_perm hperm _)
  have hbooks := ((h.books.cancel hevents).free hresets).release hconfig hleased.agree_tail holds_iff
  exact
    { h with
      filed := fun t d ht => h.filed t d (OrdMap.get?_of_erase ht).2
      apart := fun t d p ht hp => h.apart t d p ht (OrdMap.get?_of_erase hp).2
      leased := hleased.tail
      books := hbooks }

lemma Kept.allocate (hnext : l.next ≠ 0) (hnext' : next = 0 ∨ l.next < next) :
    Kept e x { l with next := next } ∧ Unheld (tables l.channels l.pending) l.events next l.next := by
  obtain ⟨hleased, hunheld⟩ := h.leased.advance hnext hnext'
  exact ⟨{ h with leased := hleased }, hunheld⟩

end

lemma card_insert_union {S R : Finset StreamId} (hS : s ∉ S) (hR : s ∉ R) : (insert s S ∪ R).card = (S ∪ R).card + 1 := by
  rw [Finset.insert_union, Finset.card_insert_of_notMem (by simp [hS, hR])]

section

variable (h : Kept e x l)

include h

lemma Kept.unpaid_insert (hr : l.resetting.get? s = none) (c : Channel) :
    ∀ t ∈ x, (l.channels.insert s c).get? t = none ∧ ∃ r, l.resetting.get? t = some r ∧ r.failed = true := by
  intro t ht
  obtain ⟨hnone, r, hrecord, hfailed⟩ := h.unpaid t ht
  have hts : t ≠ s := by
    rintro rfl
    cases hr.symm.trans hrecord
  exact ⟨(OrdMap.get?_insert_of_ne hts).trans hnone, r, hrecord, hfailed⟩

lemma Kept.enrol (hc : l.channels.get? s = none) (hp : l.pending.get? s = none ∨ l.settled)
    (hr : l.resetting.get? s = none) (hid : c.id = s) (hslots : c.reservedEvents = channelNotifications)
    (hlife : Unheld (tables l.channels l.pending) l.events l.next c.lifetime) (spare : ℕ) :
    Kept e x { l with
      channels := l.channels.insert s c
      books := l.books.admitChannel c.config l.events.length spare } := by
  have htables : (tables (l.channels.insert s c) l.pending).Perm (c :: tables l.channels l.pending) := by
    have hperm := tables_insert_channel l.channels l.pending s c
    rwa [OrdMap.erase_eq_self hc] at hperm
  exact
    { h with
      keyed := OrdMap.forall_insert hid h.keyed
      credit := OrdMap.forall_insert (by rw [hslots, channelNotifications]; omega) h.credit
      closing := fun t d r => OrdMap.forall_insert (by simp [hr]) (fun t d => h.closing t d r) t d
      unpaid := h.unpaid_insert hr c
      apart := fun t d p hd hp' => by
        rcases OrdMap.get?_of_insert hd with ⟨rfl, rfl⟩ | hd
        · rcases hp with hp | hp
          · cases hp.symm.trans hp'
          · exact .inr hp
        · exact h.apart t d p hd hp'
      leased := (h.leased.enrol hlife).perm htables.symm
      books := by
        refine (h.books.admitChannel c.config spare).of_eq ?_
        simp only [dues, OrdMap.sum_insert_new hc, OrdMap.keySet_insert, total_perm (held_perm htables _), held_cons,
          total_cons_of_not_mem hlife.not_mem, hslots, Dues.mk.injEq, and_true]
        rw [card_insert_union (OrdMap.not_mem_keySet hc) (by simp [hr])]
        refine ⟨by omega, by omega, rfl⟩ }

lemma Kept.stage (hp : l.pending.get? s = none)
    (hc : (l.channels.get? s).isSome → (l.resetting.get? s).isSome) (hid : c.id = s)
    (hslots : c.reservedEvents = channelNotifications)
    (hlife : Unheld (tables l.channels l.pending) l.events l.next c.lifetime) (spare : ℕ) :
    Kept e x { l with
      pending := l.pending.insert s c
      books := l.books.admitChannel c.config l.events.length spare } := by
  have htables := tables_insert_pending l.channels hp c
  exact
    { h with
      filed := OrdMap.forall_insert ⟨hid, by rw [hslots, channelNotifications]; omega⟩ h.filed
      apart := fun t d p hd hp' => by
        rcases OrdMap.get?_of_insert hp' with ⟨rfl, rfl⟩ | hp'
        · exact .inl (hc (by simp [hd]))
        · exact h.apart t d p hd hp'
      leased := (h.leased.enrol hlife).perm htables.symm
      books := by
        refine (h.books.admitChannel c.config spare).of_eq ?_
        simp only [dues, OrdMap.sum_insert_new hp, OrdMap.size_insert_new hp, total_perm (held_perm htables _), held_cons,
          total_cons_of_not_mem hlife.not_mem, hslots, Dues.mk.injEq, and_true]
        refine ⟨by omega, by omega, rfl⟩ }

lemma Kept.activate (hp : l.pending.get? s = some c) (hr : l.resetting.get? s = none) (hopen : ¬l.settled)
    (hid : c'.id = c.id) (hlease : c'.lease = c.lease) (hslots : c'.reservedEvents = c.reservedEvents) :
    Kept e x { l with pending := l.pending.erase s, channels := l.channels.insert s c' } := by
  have hc : l.channels.get? s = none := by
    by_contra hne
    obtain ⟨d, hd⟩ := ne_none_iff_exists'.1 hne
    rcases h.apart s d c hd hp with hsome | hsettled
    · rw [hr] at hsome
      cases hsome
    · exact hopen hsettled
  have htables : (tables (l.channels.insert s c') (l.pending.erase s)).Perm
      (c' :: tables l.channels (l.pending.erase s)) := by
    have hperm := tables_insert_channel l.channels (l.pending.erase s) s c'
    rwa [OrdMap.erase_eq_self hc] at hperm
  have hbefore := tables_erase_pending l.channels hp
  exact
    { h with
      keyed := OrdMap.forall_insert (hid.trans (h.filed s c hp).1) h.keyed
      filed := fun t d hd => h.filed t d (OrdMap.get?_of_erase hd).2
      credit := OrdMap.forall_insert (fun _ _ => hslots ▸ (h.filed s c hp).2) h.credit
      closing := fun t d r => OrdMap.forall_insert (by simp [hr]) (fun t d => h.closing t d r) t d
      unpaid := h.unpaid_insert hr c'
      apart := fun t d p hd hp' => by
        obtain ⟨hts, hp'⟩ := OrdMap.get?_of_erase hp'
        rcases OrdMap.get?_of_insert hd with ⟨rfl, -⟩ | hd
        · exact absurd rfl hts
        · exact h.apart t d p hd hp'
      leased := ((h.leased.perm hbefore).put hlease).perm htables.symm
      books := by
        refine h.books.of_eq ?_
        simp only [dues, OrdMap.sum_insert_new hc, OrdMap.sum_erase hp, OrdMap.size_erase hp, OrdMap.keySet_insert,
          total_perm (held_perm htables _), total_perm (held_perm hbefore _), held_cons, hlease, hslots, Dues.mk.injEq,
          and_true]
        rw [card_insert_union (OrdMap.not_mem_keySet hc) (by simp [hr])]
        exact ⟨by omega, by omega⟩ }

lemma Kept.remove (hc : l.channels.get? s = some c) (hr : (l.resetting.get? s).isSome) :
    Kept e x { l with
      channels := l.channels.erase s
      books := (l.books.cancelEvents c.reservedEvents).releaseConfig c.lease
        (Association.holds (l.channels.erase s) l.pending l.events c.lifetime) } := by
  have hs : s ∉ x := fun hs => absurd ((h.unpaid s hs).1.symm.trans hc) nofun
  have hperm := tables_erase_channel l.pending hc
  have hleased := h.leased.perm hperm
  have hevents : (l.dues x).events = c.reservedEvents + (dues x { l with channels := l.channels.erase s }).events := by
    simp only [dues]
    rw [OrdMap.sum_erase hc]
    omega
  have hconfig : (l.dues x).config = total ConfigLease.bytes _ := total_perm (held_perm hperm _)
  have hunion : (l.channels.erase s).keySet ∪ (l.resetting.keySet \ x) = l.channels.keySet ∪ (l.resetting.keySet \ x) := by
    ext t
    by_cases hts : t = s
    · subst hts
      simp [hr, hs]
    · simp [OrdMap.keySet_erase, hts]
  have hbooks := (h.books.cancel hevents).release hconfig hleased.agree_tail holds_iff
  exact
    { h with
      keyed := fun t d ht => h.keyed t d (OrdMap.get?_of_erase ht).2
      credit := fun t d ht => h.credit t d (OrdMap.get?_of_erase ht).2
      closing := fun t d r ht => h.closing t d r (OrdMap.get?_of_erase ht).2
      unpaid := fun t ht => by
        obtain ⟨hnone, hrecord⟩ := h.unpaid t ht
        refine ⟨?_, hrecord⟩
        rw [OrdMap.get?_erase, hnone]
        split <;> rfl
      apart := fun t d p ht => h.apart t d p (OrdMap.get?_of_erase ht).2
      leased := hleased.tail
      books := by
        refine hbooks.of_eq ?_
        simp only [dues, hunion]
        rfl }

lemma Kept.finish (hc : l.channels.get? s = none) (hr : l.resetting.get? s = some r)
    (hnotice : r.notificationReserved = false) (hx : s ∉ x) (hready : s ∉ l.ready) :
    Kept e x { l with resetting := l.resetting.erase s, books := l.books.freeResets 1 } := by
  have hne : ∀ {t}, t ≠ s → (l.resetting.erase s).get? t = l.resetting.get? t := fun ht => OrdMap.get?_erase_of_ne ht
  have hresets : (l.dues x).resets = 1 + (dues x { l with resetting := l.resetting.erase s }).resets := by
    have hunion : l.channels.keySet ∪ (l.resetting.keySet \ x) =
        insert s (l.channels.keySet ∪ ((l.resetting.erase s).keySet \ x)) := by
      ext t
      by_cases hts : t = s
      · subst hts
        simp [hr, hx]
      · simp [OrdMap.keySet_erase, hts]
    have hout : s ∉ l.channels.keySet ∪ ((l.resetting.erase s).keySet \ x) := by simp [hc]
    simp only [dues]
    rw [hunion, Finset.card_insert_of_notMem hout]
    omega
  exact
    { h with
      closing := fun t d r' hd hr' => by
        have hts : t ≠ s := by
          rintro rfl
          cases hc.symm.trans hd
        exact h.closing t d r' hd (hne hts ▸ hr')
      ready := fun t ht => by
        have hts : t ≠ s := by
          rintro rfl
          exact hready ht
        obtain ⟨r', hr', hfailed⟩ := h.ready t ht
        exact ⟨r', (hne hts).trans hr', hfailed⟩
      unpaid := fun t ht => by
        have hts : t ≠ s := by
          rintro rfl
          exact hx ht
        obtain ⟨hnone, r', hr', hfailed⟩ := h.unpaid t ht
        exact ⟨hnone, r', (hne hts).trans hr', hfailed⟩
      apart := fun t d p hd hp => by
        have hts : t ≠ s := by
          rintro rfl
          cases hc.symm.trans hd
        refine (h.apart t d p hd hp).imp_left fun hsome => ?_
        rwa [hne hts]
      books := by
        have hcount := OrdMap.countIf_erase hr ResetState.notificationReserved
        rw [hnotice] at hcount
        refine (h.books.free hresets).of_eq ?_
        simp only [dues, hcount, Bool.false_eq_true, if_false, add_zero] }

lemma Kept.enter {y : Finset StreamId} (hr : l.resetting.get? s = none)
    (hclosing : ∀ c, l.channels.get? s = some c →
      c.closedEmitted = true ∧ r.notificationReserved = false ∧ (c.state = .closing ∨ e = some s))
    (hy : ∀ t ∈ y, t ∈ x ∨ t = s ∧ l.channels.get? s = none ∧ r.failed = true)
    (hb : b.Covers (dues y { l with resetting := l.resetting.insert s r })) :
    Kept e y { l with resetting := l.resetting.insert s r, books := b } := by
  have hne : ∀ {t r'}, l.resetting.get? t = some r' → (l.resetting.insert s r).get? t = some r' := by
    intro t r' hr'
    have hts : t ≠ s := by
      rintro rfl
      cases hr.symm.trans hr'
    exact (OrdMap.get?_insert_of_ne hts).trans hr'
  exact
    { h with
      closing := fun t d r' hd hr' => by
        rcases OrdMap.get?_of_insert hr' with ⟨rfl, rfl⟩ | hr'
        · exact hclosing d hd
        · exact h.closing t d r' hd hr'
      ready := fun t ht => by
        obtain ⟨r', hr', hfailed⟩ := h.ready t ht
        exact ⟨r', hne hr', hfailed⟩
      unpaid := fun t ht => by
        rcases hy t ht with ht | ⟨rfl, hnone, hfailed⟩
        · obtain ⟨hnone, r', hr', hfailed⟩ := h.unpaid t ht
          exact ⟨hnone, r', hne hr', hfailed⟩
        · exact ⟨hnone, r, OrdMap.get?_insert_self, hfailed⟩
      apart := fun t d p hd hp => by
        refine (h.apart t d p hd hp).imp_left fun hsome => ?_
        obtain ⟨r', hr'⟩ := isSome_iff_exists.1 hsome
        exact isSome_iff_exists.2 ⟨r', hne hr'⟩
      books := hb }

lemma Kept.begin (hc : l.channels.get? s = some c) (hclosed : c.closedEmitted = true)
    (hstate : c.state = .closing ∨ e = some s) (hr : l.resetting.get? s = none) (hnotice : r.notificationReserved = false) :
    Kept e x { l with resetting := l.resetting.insert s r } := by
  have hunion : l.channels.keySet ∪ ((l.resetting.insert s r).keySet \ x) =
      l.channels.keySet ∪ (l.resetting.keySet \ x) := by
    ext t
    by_cases hts : t = s
    · subst hts
      simp [hc]
    · simp [OrdMap.keySet_insert, hts]
  refine h.enter hr (fun d hd => ?_) (fun t ht => .inl ht) (h.books.of_eq ?_)
  · cases hc.symm.trans hd
    exact ⟨hclosed, hnotice, hstate⟩
  · simp only [dues, OrdMap.countIf_insert_new hr, hnotice, hunion, Bool.false_eq_true, if_false, add_zero]

lemma Kept.fund (hc : l.channels.get? s = none) (hr : l.resetting.get? s = none)
    (hnotice : r.notificationReserved = true)
    (hroom : l.events.length + l.books.futureEvents + 1 ≤ l.books.eventsCapacity) :
    Kept e x { l with
      resetting := l.resetting.insert s r
      books := { l.books with
        futureEvents := l.books.futureEvents + 1
        resetRuntimeBytes := l.books.resetRuntimeBytes + resetBytes } } := by
  have hx : s ∉ x := fun hs => by
    obtain ⟨-, r', hr', -⟩ := h.unpaid s hs
    cases hr.symm.trans hr'
  have hunion : l.channels.keySet ∪ ((l.resetting.insert s r).keySet \ x) =
      insert s (l.channels.keySet ∪ (l.resetting.keySet \ x)) := by
    ext t
    by_cases hts : t = s
    · subst hts
      simp [hx]
    · simp [OrdMap.keySet_insert, hts]
  have hout : s ∉ l.channels.keySet ∪ (l.resetting.keySet \ x) := by simp [hc, hr]
  have hdues : dues x { l with resetting := l.resetting.insert s r } =
      { l.dues x with events := (l.dues x).events + 1, resets := (l.dues x).resets + 1 } := by
    simp only [dues, OrdMap.countIf_insert_new hr, if_pos hnotice, hunion, Finset.card_insert_of_notMem hout,
      Dues.mk.injEq, and_true]
    exact ⟨by omega, by omega⟩
  refine h.enter hr (fun d hd => by cases hc.symm.trans hd) (fun t ht => .inl ht) ?_
  rw [hdues]
  refine ⟨congrArg (· + 1) h.books.future, ?_, h.books.config, h.books.packets, ?_, h.books.sound⟩
  · rw [h.books.resets, succ_mul]
  · rwa [← h.books.future]

lemma Kept.owe (hc : l.channels.get? s = none) (hr : l.resetting.get? s = none) (hfailed : r.failed = true)
    (hnotice : r.notificationReserved = false) :
    Kept e (insert s x) { l with resetting := l.resetting.insert s r } := by
  have hunion : l.channels.keySet ∪ ((l.resetting.insert s r).keySet \ insert s x) =
      l.channels.keySet ∪ (l.resetting.keySet \ x) := by
    ext t
    by_cases hts : t = s
    · subst hts
      simp [hr]
    · simp [OrdMap.keySet_insert, hts]
  refine h.enter hr (fun d hd => by cases hc.symm.trans hd) (fun t ht => ?_) (h.books.of_eq ?_)
  · rcases Finset.mem_insert.1 ht with rfl | ht
    · exact .inr ⟨rfl, hc, hfailed⟩
    · exact .inl ht
  · simp only [dues, OrdMap.countIf_insert_new hr, hnotice, hunion, Bool.false_eq_true, if_false, add_zero]

lemma Kept.unready (s : StreamId) : Kept e x { l with ready := l.ready.erase s } :=
  { h with ready := fun t ht => h.ready t (OrdSet.mem_erase.1 ht).1 }

lemma Kept.queue (hr : l.resetting.get? s = some r) (hfailed : r.failed = false) :
    Kept e x { l with ready := l.ready.insert s } := by
  refine { h with ready := fun t ht => ?_ }
  rcases OrdSet.mem_insert.1 ht with rfl | ht
  · exact ⟨r, hr, hfailed⟩
  · exact h.ready t ht

lemma Kept.record {f : ResetState → ResetState} (hr : l.resetting.get? s = some r)
    (hfailed : r.failed = true → (f r).failed = true) (hready : s ∈ l.ready → (f r).failed = false)
    (hnotice : (if r.notificationReserved then 1 else 0) = n + if (f r).notificationReserved then 1 else 0) :
    Kept e x { l with resetting := l.resetting.modify s f, books := l.books.cancelEvents n } := by
  rw [OrdMap.modify_of_get? hr]
  generalize f r = r' at hfailed hready hnotice ⊢
  have hput : ∀ {t r0}, l.resetting.get? t = some r0 → (l.resetting.insert s r').get? t =
      some (if t = s then r' else r0) := by
    intro t r0 hr0
    rw [OrdMap.get?_insert]
    split
    · rfl
    · exact hr0
  exact
    { h with
      closing := fun t d r0 hd hr0 => by
        rcases OrdMap.get?_of_insert hr0 with ⟨rfl, rfl⟩ | hr0
        · obtain ⟨hclosed, hnone, hstate⟩ := h.closing t d r hd hr
          refine ⟨hclosed, ?_, hstate⟩
          cases hkept : r0.notificationReserved with
          | false => rfl
          | true => simp [hnone, hkept] at hnotice
        · exact h.closing t d r0 hd hr0
      ready := fun t ht => by
        obtain ⟨r0, hr0, hnot⟩ := h.ready t ht
        refine ⟨_, hput hr0, ?_⟩
        split
        next hts => exact hready (hts ▸ ht)
        · exact hnot
      unpaid := fun t ht => by
        obtain ⟨hnone, r0, hr0, hfail⟩ := h.unpaid t ht
        refine ⟨hnone, _, hput hr0, ?_⟩
        split
        next hts =>
          subst hts
          cases hr.symm.trans hr0
          exact hfailed hfail
        · exact hfail
      apart := fun t d p hd hp => by
        refine (h.apart t d p hd hp).imp_left fun hsome => ?_
        obtain ⟨r0, hr0⟩ := isSome_iff_exists.1 hsome
        exact isSome_iff_exists.2 ⟨_, hput hr0⟩
      books := by
        have hevents : (l.dues x).events = n + (dues x { l with resetting := l.resetting.insert s r' }).events := by
          simp only [dues]
          rw [OrdMap.countIf_erase hr, OrdMap.countIf_insert]
          omega
        refine (h.books.cancel hevents).of_eq ?_
        simp only [dues, OrdMap.keySet_insert_of_get? hr] }

lemma Kept.packets {outgoing : List (List UInt8 × ℕ)}
    (hb : b.Covers { l.dues x with packets := (outgoing.map Prod.snd).sum }) :
    Kept e x { l with outgoing := outgoing, books := b } := { h with books := hb }

lemma Kept.drop {rest : List QueuedEvent} (hq : l.events = q :: rest) :
    Kept e x { l with
      events := rest
      books := match q.lease with
        | none => l.books
        | some k => l.books.releaseConfig k (Association.holds l.channels l.pending rest k.owner) } := by
  have hleased : Leased _ _ l.next := hq ▸ h.leased
  have hperm := held_pop (tables l.channels l.pending) q rest
  have hconfig : (l.dues x).config =
      total ConfigLease.bytes (q.lease.toList ++ held (tables l.channels l.pending) rest) := by
    rw [← total_perm hperm, ← hq]
    rfl
  have hbooks := h.books.shrink (m := rest.length) (by rw [dues, hq]; exact le_succ _)
  refine { h with leased := hleased.pop, books := ?_ }
  cases hk : q.lease with
  | none =>
    rw [hk] at hconfig
    exact { hbooks with config := hbooks.config.trans hconfig }
  | some k =>
    rw [hk] at hconfig hperm
    refine hbooks.release hconfig (fun k' hk' howner => ?_) holds_iff
    have hmem {j : ConfigLease} (hj : j ∈ k :: held _ rest) : j ∈ held _ _ := hperm.mem_iff.2 hj
    exact hleased.agree k' (hmem (mem_cons_of_mem _ hk')) k (hmem mem_cons_self) howner

lemma Kept.dropAll :
    Kept e x { l with events := [], books := Association.dropEvents l.channels l.pending l.events l.books } := by
  obtain ⟨channels, pending, resetting, ready, events, outgoing, next, settled, books⟩ := l
  induction events generalizing books with
  | nil => exact h
  | cons q rest ih => exact ih _ (h.drop rfl)

lemma Kept.clear :
    (((l.pending.entries ++ l.channels.entries).foldl
      (fun b e => (b.cancelEvents e.2.reservedEvents).releaseConfig e.2.lease
        (Association.holds ∅ ∅ l.events e.2.lifetime)) (l.books.freeResets l.pending.size)).releaseIdleEvents
          l.events.length).Covers
      { events := l.resetting.countIf ResetState.notificationReserved
        resets := (l.channels.keySet ∪ (l.resetting.keySet \ x)).card
        config := total ConfigLease.bytes (held [] l.events)
        packets := (l.outgoing.map Prod.snd).sum
        queued := l.events.length } := by
  have hfree := h.books.free
    (add_comm _ _)
  have hforget := h.leased.forget hfree
    (by rw [sum_tables]; rfl) rfl
  rw [tables, foldl_map] at hforget
  exact hforget.idle

lemma leased_nil : Leased (tables ∅ ∅) l.events l.next := by
  have hsub : held (tables ∅ ∅) l.events ⊆ held (tables l.channels l.pending) l.events :=
    fun _ hk => mem_append_right _ hk
  exact ⟨fun k hk => h.leased.issued k (hsub hk), fun k hk k' hk' => h.leased.agree k (hsub hk) k' (hsub hk'),
    nodup_nil⟩

lemma Kept.collapse {e' : Option StreamId}
    (hb : b.Covers
      { events := l.resetting.countIf ResetState.notificationReserved
        resets := l.resetting.size
        config := total ConfigLease.bytes (held [] l.events)
        packets := 0
        queued := l.events.length }) :
    Kept e' ∅ { l with channels := ∅, pending := ∅, outgoing := [], books := b } := by
  have hnone {s : StreamId} {c : Channel} (hc : (∅ : OrdMap StreamId Channel).get? s = some c) : False := by
    cases hc
  have hleased := leased_nil h
  refine ⟨fun s c hc => (hnone hc).elim, fun s c hc => (hnone hc).elim, fun s c hc => (hnone hc).elim,
    fun s c r hc => (hnone hc).elim, h.ready, fun t ht => absurd ht (Finset.notMem_empty t),
    fun s c d hc => (hnone hc).elim, hleased, hb.of_eq ?_⟩
  simp only [dues, OrdMap.sum_empty, OrdMap.keySet_empty, Finset.sdiff_empty, Finset.empty_union, OrdMap.card_keySet,
    zero_add]
  rfl

end

lemma kept_empty (hb : b.Covers ⟨0, 0, 0, 0, 0⟩) : Kept e ∅ ⟨∅, ∅, ∅, .empty, [], [], next, p, b⟩ where
  keyed _ _ hc := nomatch hc
  filed _ _ hc := nomatch hc
  credit _ _ hc := nomatch hc
  closing _ _ _ hc := nomatch hc
  ready _ hs := nomatch hs
  unpaid s hs := absurd hs (Finset.notMem_empty s)
  apart _ _ _ hc := nomatch hc
  leased := ⟨nofun, nofun, nodup_nil⟩
  books := hb

end Ledger

end Pulsebeam.Sctp
