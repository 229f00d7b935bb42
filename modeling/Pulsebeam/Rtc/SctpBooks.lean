import Pulsebeam.Lib.OrdMapSum
import Pulsebeam.Rtc.Sctp

/-! The counters of the storage, what they owe to the tables of an association, and who holds its leases. -/

namespace Pulsebeam.Sctp

open Nat List Lib

structure Dues where
  events : ℕ
  resets : ℕ
  config : ℕ
  packets : ℕ
  queued : ℕ

namespace Books

variable {b : Books} {d d' : Dues} {n m : ℕ}

structure Covers (b : Books) (d : Dues) : Prop where
  future : b.futureEvents = d.events
  resets : b.resetRuntimeBytes = d.resets * resetBytes
  config : b.configRuntimeBytes = d.config
  packets : b.outgoingPacketBytes = d.packets
  room : d.queued + d.events ≤ b.eventsCapacity
  sound : b.underflowed = false

lemma cancelEvents_zero (b : Books) : b.cancelEvents 0 = b := by simp [cancelEvents]

lemma check_true (b : Books) : b.check true = b := by simp [check]

lemma releaseConfig_idle (b : Books) (k : ConfigLease) (p : Bool) (n : ℕ) :
    (b.releaseIdleEvents n).releaseConfig k p = (b.releaseConfig k p).releaseIdleEvents n := by
  cases p with
  | true => rfl
  | false =>
    unfold releaseIdleEvents releaseConfig
    by_cases h : n = 0 ∧ b.futureEvents = 0
    · simp [h]
    · simp [h]

variable (h : b.Covers d)

include h

lemma Covers.of_eq (hd : d' = d) : b.Covers d' := hd ▸ h

lemma Covers.cancel (hd : d.events = n + m) : (b.cancelEvents n).Covers { d with events := m } where
  future := by
    change b.futureEvents - n = m
    rw [h.future, hd, Nat.add_sub_cancel_left]
  resets := h.resets
  config := h.config
  packets := h.packets
  room := by
    have hroom := h.room
    change d.queued + m ≤ b.eventsCapacity
    omega
  sound := by
    have hle : ¬b.futureEvents < n := by rw [h.future]; omega
    simp [cancelEvents, h.sound, hle]

lemma Covers.free (hd : d.resets = n + m) : (b.freeResets n).Covers { d with resets := m } where
  future := h.future
  resets := by
    change b.resetRuntimeBytes - n * resetBytes = m * resetBytes
    rw [h.resets, hd, Nat.add_mul, Nat.add_sub_cancel_left]
  config := h.config
  packets := h.packets
  room := h.room
  sound := by
    have hle : ¬b.resetRuntimeBytes < n * resetBytes := by
      rw [h.resets, hd, add_mul]
      omega
    simp [freeResets, h.sound, hle]

lemma Covers.release {k : ConfigLease} {held : List ConfigLease} {p : Bool}
    (hd : d.config = total ConfigLease.bytes (k :: held)) (hagree : ∀ k' ∈ held, k'.owner = k.owner → k' = k)
    (hkept : p = true ↔ ∃ k' ∈ held, k'.owner = k.owner) :
    (b.releaseConfig k p).Covers { d with config := total ConfigLease.bytes held } := by
  unfold releaseConfig
  split
  next hk =>
    obtain ⟨k', hk', howner⟩ := hkept.1 hk
    have hmem : k ∈ held := hagree k' hk' howner ▸ hk'
    rw [total_cons_of_mem hmem] at hd
    exact { h with config := h.config.trans hd }
  next hk =>
    have hmem : k ∉ held := fun hmem => hk (hkept.2 ⟨k, hmem, rfl⟩)
    rw [total_cons_of_not_mem hmem] at hd
    have hconfig := h.config.trans hd
    refine { h with config := ?_, sound := ?_ }
    · rw [hconfig, Nat.add_sub_cancel_left]
    · have hle : ¬b.configRuntimeBytes < k.bytes := by omega
      simp [h.sound, hle]

lemma Covers.commit (slots spare : ℕ) :
    (b.commit d.queued slots spare).Covers d ∧ d.queued + d.events + slots ≤ (b.commit d.queued slots spare).eventsCapacity := by
  have hroom : d.queued + d.events + slots ≤ (b.commit d.queued slots spare).eventsCapacity := by
    unfold Books.commit
    rw [h.future]
    dsimp only
    split
    · omega
    · split <;> omega
  exact ⟨{ h with room := (le_add_right _ slots).trans hroom }, hroom⟩

lemma Covers.post (hroom : d.queued + d.events < b.eventsCapacity) :
    (b.pushBack d.queued).Covers { d with queued := d.queued + 1 } := by
  unfold pushBack
  rw [if_pos (by omega)]
  refine { h with room := ?_ }
  change d.queued + 1 + d.events ≤ b.eventsCapacity
  omega

lemma Covers.shrink (hm : m ≤ d.queued) : b.Covers { d with queued := m } :=
  { h with room := (Nat.add_le_add_right hm _).trans h.room }

lemma Covers.idle : (b.releaseIdleEvents d.queued).Covers d := by
  unfold releaseIdleEvents
  split
  next hidle =>
    refine { h with room := ?_ }
    have hfuture := h.future
    omega
  · exact h

lemma Covers.admitChannel (config : DataChannelConfig) (spare : ℕ) :
    (b.admitChannel config d.queued spare).Covers
      { d with
        events := channelNotifications + d.events
        resets := d.resets + 1
        config := configBytes config + d.config } := by
  have hpaid : Covers { b with
      resetRuntimeBytes := b.resetRuntimeBytes + resetBytes
      configRuntimeBytes := b.configRuntimeBytes + configBytes config }
      { d with resets := d.resets + 1, config := configBytes config + d.config } := by
    refine { h with resets := ?_, config := ?_ }
    · rw [h.resets, succ_mul]
    · change b.configRuntimeBytes + configBytes config = _
      rw [h.config, add_comm]
  obtain ⟨hcommit, hroom⟩ := hpaid.commit channelNotifications spare
  refine { hcommit with future := ?_, room := ?_ }
  · change b.futureEvents + channelNotifications = _
    rw [h.future, add_comm]
  · refine le_trans ?_ hroom
    change d.queued + (channelNotifications + d.events) ≤ d.queued + d.events + channelNotifications
    omega

end Books

/-! ### The leases -/

def held (channels : List Channel) (events : List QueuedEvent) : List ConfigLease :=
  channels.map Channel.lease ++ events.filterMap QueuedEvent.lease

structure Leased (channels : List Channel) (events : List QueuedEvent) (next : ℕ) : Prop where
  issued : ∀ k ∈ held channels events, next = 0 ∨ k.owner < next
  agree : ∀ k ∈ held channels events, ∀ k' ∈ held channels events, k.owner = k'.owner → k = k'
  owners : (channels.map Channel.lifetime).Nodup

section Leased

variable {T T' : List Channel} {E : List QueuedEvent} {next : ℕ} {c c' : Channel} {q : QueuedEvent}

lemma held_cons (c : Channel) (T : List Channel) (E : List QueuedEvent) : held (c :: T) E = c.lease :: held T E := rfl

lemma held_perm (h : T.Perm T') (E : List QueuedEvent) : (held T E).Perm (held T' E) := (h.map _).append_right _

lemma held_snoc (T : List Channel) (E : List QueuedEvent) (q : QueuedEvent) :
    held T (E ++ [q]) = held T E ++ q.lease.toList := by
  cases hq : q.lease <;> simp [held, hq]

lemma held_pop (T : List Channel) (q : QueuedEvent) (E : List QueuedEvent) :
    (held T (q :: E)).Perm (q.lease.toList ++ held T E) := by
  cases hq : q.lease with
  | none => simp [held, hq]
  | some k => simp [held, hq]

lemma Leased.perm (h : Leased T E next) (hp : T.Perm T') : Leased T' E next where
  issued k hk := h.issued k ((held_perm hp E).mem_iff.2 hk)
  agree k hk k' hk' := h.agree k ((held_perm hp E).mem_iff.2 hk) k' ((held_perm hp E).mem_iff.2 hk')
  owners := (hp.map _).nodup_iff.1 h.owners

lemma Leased.tail (h : Leased (c :: T) E next) : Leased T E next where
  issued k hk := h.issued k (mem_cons_of_mem _ hk)
  agree k hk k' hk' := h.agree k (mem_cons_of_mem _ hk) k' (mem_cons_of_mem _ hk')
  owners := (nodup_cons.1 h.owners).2

lemma Leased.put (h : Leased (c :: T) E next) (hl : c'.lease = c.lease) : Leased (c' :: T) E next where
  issued := by
    rw [held_cons, hl]
    exact h.issued
  agree := by
    rw [held_cons, hl]
    exact h.agree
  owners := by
    have hlife : c'.lifetime = c.lifetime := congrArg ConfigLease.owner hl
    rw [map_cons, hlife]
    exact h.owners

lemma Leased.events {E' : List QueuedEvent} (h : Leased T E next) (hsub : held T E' ⊆ held T E) : Leased T E' next :=
  ⟨fun k hk => h.issued k (hsub hk), fun k hk k' hk' => h.agree k (hsub hk) k' (hsub hk'), h.owners⟩

lemma Leased.post (h : Leased T E next) (hq : ∀ k, q.lease = some k → k ∈ held T E) : Leased T (E ++ [q]) next := by
  apply h.events
  intro k hk
  rw [held_snoc, mem_append, Option.mem_toList] at hk
  exact hk.elim id (hq k)

lemma Leased.pop (h : Leased T (q :: E) next) : Leased T E next :=
  h.events fun _ hk => (held_pop T q E).mem_iff.2 (mem_append_right _ hk)

structure Unheld (channels : List Channel) (events : List QueuedEvent) (next ℓ : ℕ) : Prop where
  above : ∀ k ∈ held channels events, k.owner < ℓ
  given : next = 0 ∨ ℓ < next

lemma Leased.advance (h : Leased T E next) (hnext : next ≠ 0) {next' : ℕ} (hnext' : next' = 0 ∨ next < next') :
    Leased T E next' ∧ Unheld T E next' next := by
  have hlt : ∀ k ∈ held T E, k.owner < next := fun k hk => (h.issued k hk).resolve_left hnext
  exact ⟨⟨fun k hk => hnext'.imp_right (hlt k hk).trans, h.agree, h.owners⟩, hlt, hnext'⟩

lemma Leased.enrol (h : Leased T E next) (hc : Unheld T E next c.lifetime) : Leased (c :: T) E next := by
  refine ⟨fun k hk => ?_, fun k hk k' hk' howner => ?_, ?_⟩
  · rcases mem_cons.1 hk with rfl | hk
    · exact hc.given
    · exact h.issued k hk
  · rcases mem_cons.1 hk with rfl | hk
    · rcases mem_cons.1 hk' with rfl | hk'
      · rfl
      · exact absurd howner (hc.above k' hk').ne'
    rcases mem_cons.1 hk' with rfl | hk'
    · exact absurd howner (hc.above k hk).ne
    · exact h.agree k hk k' hk' howner
  · refine nodup_cons.2 ⟨fun hmem => ?_, h.owners⟩
    obtain ⟨d, hd, hlife⟩ := mem_map.1 hmem
    have hk : d.lease ∈ held T E := mem_append_left _ (mem_map_of_mem hd)
    exact absurd hlife (hc.above _ hk).ne

lemma Unheld.not_mem (h : Unheld T E next c.lifetime) : c.lease ∉ held T E := fun hmem => lt_irrefl _ (h.above _ hmem)

lemma Leased.agree_tail (h : Leased (c :: T) E next) : ∀ k ∈ held T E, k.owner = c.lease.owner → k = c.lease :=
  fun k hk => h.agree k (mem_cons_of_mem _ hk) c.lease mem_cons_self

lemma Leased.forget {b : Books} {d : Dues} {n : ℕ} (h : Leased T E next) (hb : b.Covers d)
    (hevents : d.events = (T.map Channel.reservedEvents).sum + n)
    (hconfig : d.config = total ConfigLease.bytes (held T E)) :
    (T.foldl (fun b c => (b.cancelEvents c.reservedEvents).releaseConfig c.lease
      (E.any fun q => q.lease.any (·.owner == c.lifetime))) b).Covers
        { d with events := n, config := total ConfigLease.bytes (held [] E) } := by
  induction T generalizing b d with
  | nil =>
    rw [← hconfig]
    rw [map_nil, sum_nil, zero_add] at hevents
    rw [← hevents]
    exact hb
  | cons c T ih =>
    rw [map_cons, sum_cons, add_assoc] at hevents
    have hcancel := hb.cancel hevents
    have hrelease := hcancel.release (p := E.any fun q => q.lease.any (·.owner == c.lifetime)) hconfig
      h.agree_tail ?_
    · have hrest := ih h.tail hrelease rfl rfl
      exact hrest
    -- No other channel has the lifetime, so that another holder is in the queue.
    rw [any_eq_true]
    constructor
    · rintro ⟨q, hq, hany⟩
      obtain ⟨k, hk, howner⟩ := (Option.any_eq_true _ _).1 hany
      exact ⟨k, mem_append_right _ (mem_filterMap.2 ⟨q, hq, hk⟩), beq_iff_eq.1 howner⟩
    · rintro ⟨k, hk, howner⟩
      rcases mem_append.1 hk with hk | hk
      · obtain ⟨d, hd, rfl⟩ := mem_map.1 hk
        exact absurd (mem_map.2 ⟨d, hd, howner⟩) (nodup_cons.1 h.owners).1
      · obtain ⟨q, hq, hk⟩ := mem_filterMap.1 hk
        exact ⟨q, hq, (Option.any_eq_true _ _).2 ⟨k, hk, beq_iff_eq.2 howner⟩⟩

end Leased

/-! ### The tables -/

def tables (channels pending : OrdMap StreamId Channel) : List Channel :=
  (pending.entries ++ channels.entries).map Prod.snd

section Tables

variable {channels pending : OrdMap StreamId Channel} {s : StreamId} {c : Channel}

lemma tables_erase_channel (pending : OrdMap StreamId Channel) (h : channels.get? s = some c) :
    (tables channels pending).Perm (c :: tables (channels.erase s) pending) := by
  have hperm := ((OrdMap.perm_erase h).append_left pending.entries).trans perm_middle
  exact hperm.map Prod.snd

lemma tables_insert_channel (channels pending : OrdMap StreamId Channel) (s : StreamId) (c : Channel) :
    (tables (channels.insert s c) pending).Perm (c :: tables (channels.erase s) pending) := by
  have hperm := ((channels.perm_insert s c).append_left pending.entries).trans perm_middle
  exact hperm.map Prod.snd

lemma tables_erase_pending (channels : OrdMap StreamId Channel) (h : pending.get? s = some c) :
    (tables channels pending).Perm (c :: tables channels (pending.erase s)) :=
  ((OrdMap.perm_erase h).append_right channels.entries).map Prod.snd

lemma tables_insert_pending (channels : OrdMap StreamId Channel) (h : pending.get? s = none) (c : Channel) :
    (tables channels (pending.insert s c)).Perm (c :: tables channels pending) :=
  ((OrdMap.perm_insert_new h c).append_right channels.entries).map Prod.snd

lemma sum_tables (channels pending : OrdMap StreamId Channel) (f : Channel → ℕ) :
    ((tables channels pending).map f).sum = channels.sum f + pending.sum f := by
  rw [tables, map_map, map_append, List.sum_append_nat, add_comm]
  rfl

lemma holds_iff {events : List QueuedEvent} {ℓ : ℕ} :
    Association.holds channels pending events ℓ = true ↔ ∃ k ∈ held (tables channels pending) events, k.owner = ℓ := by
  rw [Association.holds]
  simp only [Bool.or_eq_true, any_eq_true, beq_iff_eq, Option.any_eq_true]
  constructor
  · rintro ((⟨e, he, howner⟩ | ⟨e, he, howner⟩) | ⟨q, hq, k, hk, howner⟩)
    · refine ⟨e.2.lease, mem_append_left _ (mem_map_of_mem ?_), howner⟩
      exact mem_map_of_mem (mem_append_right _ he)
    · refine ⟨e.2.lease, mem_append_left _ (mem_map_of_mem ?_), howner⟩
      exact mem_map_of_mem (mem_append_left _ he)
    · exact ⟨k, mem_append_right _ (mem_filterMap.2 ⟨q, hq, hk⟩), howner⟩
  · rintro ⟨k, hk, howner⟩
    rcases mem_append.1 hk with hk | hk
    · obtain ⟨c, hc, rfl⟩ := mem_map.1 hk
      obtain ⟨e, he, rfl⟩ := mem_map.1 hc
      rcases mem_append.1 he with he | he
      · exact .inl (.inr ⟨e, he, howner⟩)
      · exact .inl (.inl ⟨e, he, howner⟩)
    · obtain ⟨q, hq, hk⟩ := mem_filterMap.1 hk
      exact .inr ⟨q, hq, k, hk, howner⟩

end Tables

end Pulsebeam.Sctp
