import Pulsebeam.Rtc.SctpParts
import Pulsebeam.Rtc.SctpSteps

/-! In every run, a message goes to the application only after the opening of its channel, and neither does so once the end
of the channel's lifetime has been queued. -/

namespace Pulsebeam.Sctp

open List Lib

variable {σ : Type} {e : DataChannelEvent} {h : List Entry}

lemma prefix_or_mem {α : Type} {l es pre : List α} {x : α} (h : pre ++ [x] <+: l ++ es) : pre ++ [x] <+: l ∨ x ∈ es := by
  rcases prefix_or_prefix_of_prefix h (prefix_append l es) with h' | h'
  · exact .inl h'
  rcases prefix_concat_iff.1 h' with rfl | ⟨t, rfl⟩
  · exact .inl (prefix_refl _)
  · rw [append_assoc, prefix_append_right_inj] at h
    exact .inr (h.subset (by simp))

def Announced (events : List QueuedEvent) (history : List Entry) (ℓ : ℕ) (id : DataChannelId) : Prop :=
  (∃ q ∈ events, q.lifetime = ℓ ∧ q.event.IsOpened id) ∨ ∃ e, .delivered ℓ e ∈ history ∧ e.IsOpened id

def Ordered (history : List Entry) : Prop :=
  ∀ before ℓ e, before ++ [.delivered ℓ e] <+: history →
    (∀ id, e.IsMessage id → ∃ e', .delivered ℓ e' ∈ before ∧ e'.IsOpened id) ∧
      ∀ id, e.IsDelivery id → .closedQueued ℓ ∉ before

lemma Ordered.closed (ho : Ordered h) (ls : List ℕ) : Ordered (h ++ ls.map .closedQueued) := by
  intro before ℓ e hpre
  rcases prefix_or_mem hpre with hpre | hmem
  · exact ho before ℓ e hpre
  · obtain ⟨_, _, heq⟩ := mem_map.1 hmem
    cases heq

lemma Ordered.notice (ho : Ordered h) (ℓ : ℕ) (he : e.Notice) : Ordered (h ++ [.delivered ℓ e]) := by
  intro before ℓ' e' hpre
  rcases prefix_or_mem hpre with hpre | hmem
  · exact ho before ℓ' e' hpre
  · cases mem_singleton.1 hmem
    exact ⟨fun id hm => absurd (.inr hm) (he id), fun id hd => absurd hd (he id)⟩

lemma Ordered.delivered (ho : Ordered h) {ℓ : ℕ}
    (hm : ∀ id, e.IsMessage id → ∃ e', .delivered ℓ e' ∈ h ∧ e'.IsOpened id) (hc : .closedQueued ℓ ∉ h) :
    Ordered (h ++ [.delivered ℓ e]) := by
  intro before ℓ' e' hpre
  rcases prefix_concat_iff.1 hpre with heq | hpre
  · obtain ⟨rfl, hlast⟩ := append_inj' heq rfl
    cases hlast
    exact ⟨hm, fun _ _ => hc⟩
  · exact ho before ℓ' e' hpre

namespace Association

def table (a : Association σ) (installed : Bool) : OrdMap StreamId Channel :=
  if installed then a.channels else a.pendingInstallations

def Issued (a : Association σ) (ℓ : ℕ) : Prop := a.nextChannelLifetime = 0 ∨ ℓ < a.nextChannelLifetime

def NotOpened (a : Association σ) (ℓ : ℕ) : Prop :=
  ∀ s c, a.channels.get? s = some c → c.lifetime = ℓ → c.state ≠ .opened

structure Roll (a : Association σ) : Prop where
  silent : ∀ i s c, (a.table i).get? s = some c → c.state = .opening → c.openedEmitted = false
  issued : ∀ i s c, (a.table i).get? s = some c → a.Issued c.lifetime
  distinct : ∀ i j s t c d, (a.table i).get? s = some c → (a.table j).get? t = some d → c.lifetime = d.lifetime → i = j ∧ s = t
  queued : ∀ q ∈ a.events, ∀ id, q.event.IsDelivery id → a.Issued q.lifetime ∧
    ∀ i s c, (a.table i).get? s = some c → c.lifetime = q.lifetime → c.state ≠ .opening ∧ s = id
  ended : ∀ ℓ, .closedQueued ℓ ∈ a.history → a.Issued ℓ ∧
    ∀ i s c, (a.table i).get? s = some c → c.lifetime = ℓ → c.state = .closing

/-- What holds of an association that has not ended. The channel on the stream `but` may be open and not announced. -/
structure Inv (but : Option StreamId) (a : Association σ) : Prop extends Roll a where
  keyed : a.Keyed
  waiting : ∀ s c, a.pendingInstallations.get? s = some c → c.id = s ∧ c.stream = s ∧ c.state = .opening
  idle : ∀ s, (a.resetting.get? s).isSome → a.Shut s
  swept : ∀ k, a.resetAllCursor = some k → ∀ s c, a.channels.get? s = some c → c.state = .opened → k ≤ s
  announced : a.resetAllCursor = none → ∀ s c, a.channels.get? s = some c → c.state = .opened → but ≠ some s →
    Announced a.events a.history c.lifetime s
  led : ∀ pre q id, pre ++ [q] <+: a.events → q.event.IsMessage id →
    a.resetAllCursor.isSome ∨ a.NotOpened q.lifetime ∨ Announced pre a.history q.lifetime id

def Sound (a : Association σ) : Prop := Ordered a.history ∧ (a.stopped = false → Inv none a)

variable {s : StreamId} {X : Set StreamId} {i : Bool}

lemma Retires.table {a b : Association σ} {ls : List ℕ} (h : Retires X a b ls) {c' : Channel}
    (hc' : (b.table i).get? s = some c') : ∃ c, (a.table i).get? s = some c ∧ c.Fades c' := by
  cases i with
  | false => exact ⟨c', h.pending s c' hc', .refl c'⟩
  | true => exact h.channels s c' hc'

variable {c : Channel}

namespace Inv

variable {x : Option StreamId} {a b : Association σ} {ls : List ℕ}

lemma notOpened_retires (hr : Retires ∅ a b ls) {ℓ : ℕ} (h : a.NotOpened ℓ) : b.NotOpened ℓ := by
  intro s c' hc' hℓ ho
  obtain ⟨c, hc, hf⟩ := hr.channels s c' hc'
  exact h s c hc (hf.lifetime.symm.trans hℓ) (hf.opened ho)

lemma retires (h : Inv x a) (hr : Retires ∅ a b ls) (hlog : b.history = a.history ++ ls.map .closedQueued) : Inv x b := by
  obtain ⟨es, hes, hn⟩ := hr.events
  have hissued {ℓ : ℕ} (hi : a.Issued ℓ) : b.Issued ℓ := by rwa [Issued, hr.lifetimes]
  have hdelivered {ℓ : ℕ} {e : DataChannelEvent} (he : .delivered ℓ e ∈ a.history) : .delivered ℓ e ∈ b.history :=
    hlog ▸ mem_append_left _ he
  refine ⟨⟨?silent, ?issued, ?distinct, ?queued, ?ended⟩, ?keyed, ?waiting, ?idle, ?swept, ?announced, ?led⟩
  case keyed =>
    intro s c' hc'
    obtain ⟨c, hc, hf⟩ := hr.channels s c' hc'
    obtain ⟨hid, hs⟩ := h.keyed s c hc
    exact ⟨hf.id.trans hid, hf.stream.trans hs⟩
  case waiting =>
    intro s c hc
    exact h.waiting s c (hr.pending s c hc)
  case silent =>
    intro i s c' hc' ho
    obtain ⟨c, hc, hf⟩ := hr.table hc'
    obtain ⟨ho, he⟩ := hf.opening ho
    exact he.trans (h.silent i s c hc ho)
  case issued =>
    intro i s c' hc'
    obtain ⟨c, hc, hf⟩ := hr.table hc'
    exact hissued (hf.lifetime ▸ h.issued i s c hc)
  case distinct =>
    intro i j s t c' d' hc' hd' heq
    obtain ⟨c, hc, hf⟩ := hr.table hc'
    obtain ⟨d, hd, hg⟩ := hr.table hd'
    exact h.distinct i j s t c d hc hd (hf.lifetime.symm.trans (heq.trans hg.lifetime))
  case idle =>
    intro s hs
    rcases hr.resetting s hs with hs | hs | hs
    · exact hr.shut (h.idle s hs)
    · cases hs
    · exact hs
  case swept =>
    intro k hk s c' hc' ho
    obtain ⟨c, hc, hf⟩ := hr.channels s c' hc'
    exact h.swept k (hr.cursor ▸ hk) s c hc (hf.opened ho)
  case announced =>
    intro hk s c' hc' ho hx
    obtain ⟨c, hc, hf⟩ := hr.channels s c' hc'
    rw [hf.lifetime]
    refine (h.announced (hr.cursor ▸ hk) s c hc (hf.opened ho) hx).imp ?_ ?_
    · rintro ⟨q, hq, hq'⟩
      exact ⟨q, hes ▸ mem_append_left _ hq, hq'⟩
    · rintro ⟨e, he, he'⟩
      exact ⟨e, hdelivered he, he'⟩
  case queued =>
    intro q hq id hd
    rcases mem_append.1 (hes ▸ hq) with hq | hq
    · obtain ⟨hi, hlive⟩ := h.queued q hq id hd
      refine ⟨hissued hi, fun i s c' hc' hℓ => ?_⟩
      obtain ⟨c, hc, hf⟩ := hr.table hc'
      obtain ⟨hno, hs⟩ := hlive i s c hc (hf.lifetime.symm.trans hℓ)
      exact ⟨fun ho => hno (hf.opening ho).1, hs⟩
    · exact absurd hd (hn q hq id)
  case led =>
    intro pre q id hpre hm
    rw [hes] at hpre
    rcases prefix_or_mem hpre with hpre | hq
    · rcases h.led pre q id hpre hm with hk | hno | hann
      · exact .inl (hr.cursor ▸ hk)
      · exact .inr (.inl (notOpened_retires hr hno))
      refine .inr (.inr (hann.imp_right ?_))
      rintro ⟨e, he, he'⟩
      exact ⟨e, hdelivered he, he'⟩
    · exact absurd (.inr hm) (hn q hq id)
  case ended =>
    intro ℓ hℓ
    rcases mem_append.1 (hlog ▸ hℓ) with hℓ | hℓ
    · obtain ⟨hi, hlive⟩ := h.ended ℓ hℓ
      refine ⟨hissued hi, fun i s c' hc' heq => ?_⟩
      obtain ⟨c, hc, hf⟩ := hr.table hc'
      exact hf.closing (hlive i s c hc (hf.lifetime.symm.trans heq))
    · obtain ⟨ℓ, hmem, heq⟩ := mem_map.1 hℓ
      cases heq
      obtain ⟨s, c, hc, hℓ, hshut⟩ := hr.closes ℓ hmem
      refine ⟨hissued (hℓ ▸ h.issued true s c hc), fun i t d' hd' heq => ?_⟩
      obtain ⟨d, hd, hg⟩ := hr.table hd'
      obtain ⟨rfl, rfl⟩ := h.distinct i true t s d c hd hc (hg.lifetime.symm.trans (heq.trans hℓ.symm))
      rcases hshut with hs | hs
      · cases hs
      · exact hs d' hd'

lemma same (h : Inv x a) (hs : Same a b) : Inv x b := by
  exact h.retires (.of_same hs) (by simpa using hs.history)

lemma sweep (h : Inv none a) (k : Option StreamId)
    (hk : ∀ s c, a.channels.get? s = some c → c.state = .opened → ∃ j, k = some j ∧ j ≤ s) :
    Inv none { a with resetAllCursor := k } where
  toRoll := { h with }
  keyed := h.keyed
  waiting := h.waiting
  idle := h.idle
  swept j hj s c hc ho := by
    obtain ⟨j', hj', hle⟩ := hk s c hc ho
    cases hj.symm.trans hj'
    exact hle
  announced hnone s c hc ho := by
    obtain ⟨j, hj, _⟩ := hk s c hc ho
    exact absurd (hnone.symm.trans hj) nofun
  led pre q id hpre hm := by
    cases k with
    | some k => exact .inl rfl
    | none =>
      refine .inr (.inl fun s c hc _ ho => ?_)
      obtain ⟨j, hj, _⟩ := hk s c hc ho
      cases hj

lemma queued_concat (h : Inv x a) (hc : a.channels.get? s = some c) (ho : c.state = .opened)
    (he : ∀ id, e.IsDelivery id → id = s) (r : ℕ) :
    ∀ q ∈ a.events ++ [⟨c.lifetime, e, r⟩], ∀ id, q.event.IsDelivery id → a.Issued q.lifetime ∧
      ∀ i t d, (a.table i).get? t = some d → d.lifetime = q.lifetime → d.state ≠ .opening ∧ t = id := by
  intro q hq id hd
  rcases mem_append.1 hq with hq | hq
  · exact h.queued q hq id hd
  cases mem_singleton.1 hq
  refine ⟨h.issued true s c hc, fun i t d htd hℓ => ?_⟩
  obtain ⟨rfl, rfl⟩ := h.distinct i true t s d c htd hc hℓ
  cases hc.symm.trans htd
  exact ⟨fun h => absurd (ho.symm.trans h) nofun, (he id hd).symm⟩

lemma pushOpened (h : Inv (some s) a) (hc : a.channels.get? s = some c) (ho : c.state = .opened)
    (config : DataChannelConfig) : Inv none { a with events := a.events ++ [⟨c.lifetime, .opened s config, 0⟩] } where
  toRoll := by
    refine { h with queued := h.queued_concat hc ho ?_ 0 }
    rintro id (hid | hid)
    · exact hid.symm
    · cases hid
  keyed := h.keyed
  waiting := h.waiting
  idle := h.idle
  swept := h.swept
  announced hk t d hd hod _ := by
    by_cases hts : t = s
    · subst hts
      cases hc.symm.trans hd
      exact .inl ⟨_, mem_append_right _ (mem_singleton_self _), rfl, rfl⟩
    refine (h.announced hk t d hd hod fun heq => hts (Option.some.inj heq).symm).imp_left ?_
    rintro ⟨q, hq, hq'⟩
    exact ⟨q, mem_append_left _ hq, hq'⟩
  led pre q id hpre hm := by
    rcases prefix_or_mem hpre with hpre | hq
    · exact h.led pre q id hpre hm
    · cases mem_singleton.1 hq
      cases hm

lemma pushMessage (h : Inv none a) (hk : a.resetAllCursor = none) (hc : a.channels.get? s = some c)
    (ho : c.state = .opened) (message : DataMessage) (retained : ℕ) :
    Inv none { a with events := a.events ++ [⟨c.lifetime, .message s message, retained⟩] } where
  toRoll := by
    refine { h with queued := h.queued_concat hc ho ?_ retained }
    rintro id (hid | hid)
    · cases hid
    · exact hid.symm
  keyed := h.keyed
  waiting := h.waiting
  idle := h.idle
  swept := h.swept
  announced hk t d hd hod hx := by
    refine (h.announced hk t d hd hod hx).imp_left ?_
    rintro ⟨q, hq, hq'⟩
    exact ⟨q, mem_append_left _ hq, hq'⟩
  led pre q id hpre hm := by
    rcases prefix_concat_iff.1 hpre with heq | hpre
    · obtain ⟨rfl, hlast⟩ := append_inj' heq rfl
      cases hlast
      cases hm
      exact .inr (.inr (h.announced hk s c hc ho nofun))
    · exact h.led pre q id hpre hm

lemma pop (h : Inv none a) {q : QueuedEvent} {rest : List QueuedEvent} (hq : a.events = q :: rest) (log : List Entry)
    (hlog : ∀ entry ∈ log, entry = .delivered q.lifetime q.event)
    (hkeep : ∀ id, q.event.IsOpened id →
      .delivered q.lifetime q.event ∈ log ∨ a.resetAllCursor.isSome ∨ a.NotOpened q.lifetime) :
    Inv none { a with events := rest, history := a.history ++ log } := by
  have hdelivered {ℓ : ℕ} {id : DataChannelId} :
      (∃ e, .delivered ℓ e ∈ a.history ∧ e.IsOpened id) → ∃ e, .delivered ℓ e ∈ a.history ++ log ∧ e.IsOpened id := by
    rintro ⟨e, he, he'⟩
    exact ⟨e, mem_append_left _ he, he'⟩
  refine ⟨{ h with queued := ?_, ended := ?_ }, h.keyed, h.waiting, h.idle, h.swept, ?_, ?_⟩
  · intro q' hq' id hd
    exact h.queued q' (hq ▸ mem_cons_of_mem _ hq') id hd
  · intro ℓ hℓ
    rcases mem_append.1 hℓ with hℓ | hℓ
    · exact h.ended ℓ hℓ
    · exact absurd (hlog _ hℓ) nofun
  · intro hk s c hc ho hx
    rcases h.announced hk s c hc ho hx with ⟨q', hq', hℓ, hopen⟩ | hann
    · rcases mem_cons.1 (hq ▸ hq') with rfl | hq'
      · rcases hkeep s hopen with hin | hsome | hno
        · exact .inr ⟨q'.event, mem_append_right _ (hℓ ▸ hin), hopen⟩
        · exact absurd (hk ▸ hsome) nofun
        · exact absurd ho (hno s c hc hℓ.symm)
      · exact .inl ⟨q', hq', hℓ, hopen⟩
    · exact .inr (hdelivered hann)
  · intro pre q' id hpre hm
    have hpre' : (q :: pre) ++ [q'] <+: a.events := by
      rw [hq]
      exact (prefix_cons_inj q).2 hpre
    rcases h.led _ q' id hpre' hm with hk | hno | ⟨q'', hq'', hℓ, hopen⟩ | hann
    · exact .inl hk
    · exact .inr (.inl hno)
    · rcases mem_cons.1 hq'' with rfl | hq''
      · rcases hkeep id hopen with hin | hsome | hno
        · exact .inr (.inr (.inr ⟨q''.event, mem_append_right _ (hℓ ▸ hin), hopen⟩))
        · exact .inl hsome
        · exact .inr (.inl (hℓ ▸ hno))
      · exact .inr (.inr (.inl ⟨q'', hq'', hℓ, hopen⟩))
    · exact .inr (.inr (.inr (hdelivered hann)))

end Inv

structure Fresh (a : Association σ) (ℓ : ℕ) : Prop where
  issued : a.Issued ℓ
  events : ∀ q ∈ a.events, ∀ id, q.event.IsDelivery id → q.lifetime ≠ ℓ
  history : .closedQueued ℓ ∉ a.history

lemma Roll.enlist {a : Association σ} (h : Roll a) {p q : OrdMap StreamId Channel} (hsilent : c.openedEmitted = false)
    (hfresh : a.Fresh c.lifetime) (htable : ∀ {j t d}, (table { a with channels := p, pendingInstallations := q } j).get? t =
      some d → (j = i ∧ t = s ∧ d = c) ∨ (a.table j).get? t = some d ∧ d.lifetime ≠ c.lifetime) :
    Roll { a with channels := p, pendingInstallations := q } where
  silent := by
    intro i t d hd ho
    rcases htable hd with ⟨_, _, rfl⟩ | ⟨hd, _⟩
    · exact hsilent
    · exact h.silent i t d hd ho
  issued := by
    intro i t d hd
    rcases htable hd with ⟨_, _, rfl⟩ | ⟨hd, _⟩
    · exact hfresh.issued
    · exact h.issued i t d hd
  distinct := by
    intro i j t u d e hd he heq
    rcases htable hd with ⟨rfl, rfl, rfl⟩ | ⟨hd, hne⟩ <;> rcases htable he with ⟨rfl, rfl, rfl⟩ | ⟨he, hne'⟩
    · exact ⟨rfl, rfl⟩
    · exact absurd heq.symm hne'
    · exact absurd heq hne
    · exact h.distinct i j t u d e hd he heq
  queued := by
    intro q hq id hdel
    obtain ⟨hi, hlive⟩ := h.queued q hq id hdel
    refine ⟨hi, fun i t d hd heq => ?_⟩
    rcases htable hd with ⟨_, _, rfl⟩ | ⟨hd, _⟩
    · exact absurd heq.symm (hfresh.events q hq id hdel)
    · exact hlive i t d hd heq
  ended := by
    intro ℓ hℓ
    obtain ⟨hi, hlive⟩ := h.ended ℓ hℓ
    refine ⟨hi, fun i t d hd heq => ?_⟩
    rcases htable hd with ⟨_, _, rfl⟩ | ⟨hd, _⟩
    · exact absurd (heq ▸ hℓ) hfresh.history
    · exact hlive i t d hd heq

namespace Inv

variable {x : Option StreamId} {a b : Association σ}

lemma fresh_of_opening (h : Inv x a) {i : Bool} (hc : (a.table i).get? s = some c) (ho : c.state = .opening) :
    a.Fresh c.lifetime where
  issued := h.issued i s c hc
  events q hq id hd heq := ((h.queued q hq id hd).2 i s c hc heq.symm).1 ho
  history hmem := absurd (ho.symm.trans ((h.ended _ hmem).2 i s c hc rfl)) nofun

lemma place (h : Inv none a) {p : OrdMap StreamId Channel} (hk : a.resetAllCursor = none)
    (hreset : a.resetting.get? s = none) (hid : c.id = s) (hstream : c.stream = s) (hsilent : c.openedEmitted = false)
    (hfresh : a.Fresh c.lifetime)
    (hpending : ∀ t d, p.get? t = some d → a.pendingInstallations.get? t = some d ∧ d.lifetime ≠ c.lifetime)
    (hchannels : ∀ t d, t ≠ s → a.channels.get? t = some d → d.lifetime ≠ c.lifetime) :
    Inv (some s) { a with channels := a.channels.insert s c, pendingInstallations := p } := by
  -- the tables of the new state: the channel itself, or an old entry with another lifetime
  have htable {i : Bool} {t : StreamId} {d : Channel}
      (hd : (table { a with channels := a.channels.insert s c, pendingInstallations := p } i).get? t = some d) :
      (i = true ∧ t = s ∧ d = c) ∨ (a.table i).get? t = some d ∧ d.lifetime ≠ c.lifetime := by
    cases i with
    | false => exact .inr (hpending t d hd)
    | true =>
      have hd : (a.channels.insert s c).get? t = some d := hd
      rw [OrdMap.get?_insert] at hd
      split at hd
      next hts => exact .inl ⟨rfl, hts, (Option.some.inj hd).symm⟩
      next hts => exact .inr ⟨hd, hchannels t d hts hd⟩
  have hchannel {t : StreamId} {d : Channel} (hd : (a.channels.insert s c).get? t = some d) :
      (t = s ∧ d = c) ∨ a.channels.get? t = some d ∧ d.lifetime ≠ c.lifetime :=
    (htable (i := true) hd).imp_left And.right
  constructor
  case toRoll => exact h.enlist hsilent hfresh htable
  case keyed =>
    intro t d hd
    rcases hchannel hd with ⟨rfl, rfl⟩ | ⟨hd, _⟩
    · exact ⟨hid, hstream⟩
    · exact h.keyed t d hd
  case waiting =>
    intro t d hd
    exact h.waiting t d (hpending t d hd).1
  case idle =>
    intro t ht d hd
    rcases hchannel hd with ⟨rfl, rfl⟩ | ⟨hd, _⟩
    · exact absurd (hreset ▸ ht) nofun
    · exact h.idle t ht d hd
  case swept =>
    intro k hk'
    exact absurd (hk.symm.trans hk') nofun
  case announced =>
    intro _ t d hd ho hx
    rcases hchannel hd with ⟨rfl, _⟩ | ⟨hd, _⟩
    · exact absurd rfl hx
    · exact h.announced hk t d hd ho nofun
  case led =>
    intro pre q id hpre hm
    have hq : q ∈ a.events := hpre.subset (by simp)
    refine (h.led pre q id hpre hm).imp_right (Or.imp_left fun hno t d hd heq => ?_)
    rcases hchannel hd with ⟨_, rfl⟩ | ⟨hd, _⟩
    · exact absurd heq.symm (hfresh.events q hq id (.inr hm))
    · exact hno t d hd heq

lemma stage (h : Inv none a) (hid : c.id = s) (hstream : c.stream = s) (hstate : c.state = .opening)
    (hsilent : c.openedEmitted = false) (hfresh : a.Fresh c.lifetime)
    (hlive : ∀ i t d, (a.table i).get? t = some d → d.lifetime ≠ c.lifetime) :
    Inv none { a with pendingInstallations := a.pendingInstallations.insert s c } := by
  have htable {i : Bool} {t : StreamId} {d : Channel}
      (hd : (table { a with pendingInstallations := a.pendingInstallations.insert s c } i).get? t = some d) :
      (i = false ∧ t = s ∧ d = c) ∨ (a.table i).get? t = some d ∧ d.lifetime ≠ c.lifetime := by
    cases i with
    | true => exact .inr ⟨hd, hlive true t d hd⟩
    | false =>
      have hd : (a.pendingInstallations.insert s c).get? t = some d := hd
      rw [OrdMap.get?_insert] at hd
      split at hd
      next hts => exact .inl ⟨rfl, hts, (Option.some.inj hd).symm⟩
      · exact .inr ⟨hd, hlive false t d hd⟩
  constructor
  case toRoll => exact h.enlist hsilent hfresh htable
  case keyed => exact h.keyed
  case waiting =>
    intro t d hd
    rcases htable (i := false) hd with ⟨_, rfl, rfl⟩ | ⟨hd, _⟩
    · exact ⟨hid, hstream, hstate⟩
    · exact h.waiting t d hd
  case idle => exact h.idle
  case swept => exact h.swept
  case announced => exact h.announced
  case led => exact h.led

lemma complete (h : Inv (some s) a) (hs : ∀ c, a.channels.get? s = some c → c.state ≠ .opened) : Inv none a := by
  refine { h with announced := ?_ }
  intro hk t c hc ho _
  refine h.announced hk t c hc ho ?_
  rintro ⟨⟩
  exact hs c hc ho

lemma allocate (h : Inv none a) (hnext : a.nextChannelLifetime ≠ 0) :
    Inv none { a with nextChannelLifetime := a.followingLifetime } ∧
      Fresh { a with nextChannelLifetime := a.followingLifetime } a.nextChannelLifetime ∧
        ∀ i t d, (a.table i).get? t = some d → d.lifetime ≠ a.nextChannelLifetime := by
  have hold {ℓ : ℕ} (hi : a.Issued ℓ) : ℓ < a.nextChannelLifetime := hi.resolve_left hnext
  have hissued {ℓ : ℕ} (hle : ℓ ≤ a.nextChannelLifetime) : a.followingLifetime = 0 ∨ ℓ < a.followingLifetime :=
    a.followingLifetime_gt.imp_right hle.trans_lt
  refine ⟨?_, ⟨hissued le_rfl, ?_, ?_⟩, ?_⟩
  · refine { h with toRoll := ⟨h.silent, fun i s c hc => hissued (hold (h.issued i s c hc)).le, h.distinct, ?_, ?_⟩ }
    · intro q hq id hd
      exact (h.queued q hq id hd).imp_left fun hi => hissued (hold hi).le
    · intro ℓ hℓ
      exact (h.ended ℓ hℓ).imp_left fun hi => hissued (hold hi).le
  · intro q hq id hd
    exact (hold (h.queued q hq id hd).1).ne
  · intro hmem
    exact (hold (h.ended _ hmem).1).ne rfl
  · intro i t d hd
    exact (hold (h.issued i t d hd)).ne

end Inv

namespace Sound

variable {a b : Association σ}

lemma wanes (h : Sound a) (hw : Wanes ∅ a b) : Sound b := by
  obtain ⟨_, ls, hlog, hr⟩ := id hw
  exact ⟨hlog ▸ h.1.closed ls, fun hb => (h.2 (hw.running hb)).retires (hr hb) hlog⟩

lemma same (h : Sound a) (hs : Same a b) : Sound b := h.wanes (.of_same hs)

lemma ended (h : Sound a) (ha : a.stopped = true) (hw : Wanes X a b) : Sound b := h.wanes (hw.halt (hw.1 ha) rfl)

lemma keyed (h : Sound a) : a.stopped = false → a.Keyed := fun ha => (h.2 ha).keyed

end Sound

end Association

end Pulsebeam.Sctp
