import Pulsebeam.Agent.Publishing

/-! A replay brings a subscriber up to its publisher. -/

namespace Pulsebeam.Agent

open Pulsebeam.Lib List Option OrdMap Nat

structure OrderedDelivery.At (log : List WireMessage) (c : ℕ) (d : OrderedDelivery) : Prop where
  next : d.nextSequence = some c
  le : c ≤ log.length
  ahead : ∀ {k m}, d.pending.get? k = some m → c < k ∧ log[k]? = some m

namespace OrderedDelivery

variable {log : List WireMessage} {c k : ℕ} {d : OrderedDelivery} {pending : OrdMap ℕ WireMessage} {c' : ℕ}
  {m : WireMessage}

lemma read_cons (hm : log[c]? = some m) (h : c < c') : m :: (log.take c').drop (c + 1) = (log.take c').drop c := by
  obtain ⟨hc, rfl⟩ := List.getElem?_eq_some_iff.1 hm
  have hlt : c < (log.take c').length := by
    rw [length_take]
    omega
  rw [drop_eq_getElem_cons hlt, getElem_take]

lemma read_append (h : c ≤ c') : (log.take c').drop c ++ log.drop c' = log.drop c := by
  rw [List.drop_take, show c' = c + (c' - c) by omega, ← List.drop_drop, Nat.add_sub_cancel_left, List.take_append_drop]

variable (hfits : log.length ≤ Word.max 64)

include hfits

lemma drainLoop_reads {fuel : ℕ} {pending' : OrdMap ℕ WireMessage} {messages : List WireMessage}
    (hc : c ≤ log.length)
    (h : ∀ {k m}, pending.get? k = some m → c ≤ k ∧ log[k]? = some m) (hfuel : pending.size ≤ fuel)
    (hr : drainLoop fuel c pending = (messages, c', pending')) :
    At log c' ⟨some c', pending'⟩ ∧ c ≤ c' ∧ messages = (log.take c').drop c := by
  have hnil : ([] : List WireMessage) = (log.take c).drop c := by
    rw [drop_eq_nil_of_le]
    exact (length_take_le _ _)
  induction fuel generalizing c pending messages with
  | zero =>
    have hempty : pending.entries = [] := length_eq_zero_iff.1 (le_zero.1 hfuel)
    cases hr
    refine ⟨⟨rfl, hc, fun hk => ?_⟩, le_rfl, hnil⟩
    rw [← mem_entries, hempty] at hk
    cases hk
  | succ fuel ih =>
    rw [drainLoop] at hr
    split at hr
    next hnone =>
      cases hr
      refine ⟨⟨rfl, hc, fun hk => ⟨lt_of_le_of_ne (h hk).1 ?_, (h hk).2⟩⟩, le_rfl, hnil⟩
      rintro rfl
      cases hnone.symm.trans hk
    next message hsome =>
      have hget := (h hsome).2
      have hlt : c < log.length := (List.getElem?_eq_some_iff.1 hget).1
      have hsize := size_erase_lt hsome
      rw [show Word.saturatingAdd 64 c 1 = c + 1 from min_eq_left (hlt.trans_le hfits)] at hr
      generalize hrest : drainLoop fuel _ _ = r at hr
      cases hr
      have hahead : ∀ {k m}, (pending.erase c).get? k = some m → c + 1 ≤ k ∧ log[k]? = some m := by
        intro k m hk
        rw [get?_erase] at hk
        split at hk
        · cases hk
        next hne => exact ⟨lt_of_le_of_ne (h hk).1 (Ne.symm hne), (h hk).2⟩
      obtain ⟨hat, hle, hread⟩ := ih hlt hahead (by omega) hrest (by simp)
      refine ⟨hat, by omega, ?_⟩
      rw [hread, read_cons hget hle]

lemma drain_reads (hc : c ≤ log.length)
    (h : ∀ {k m}, pending.get? k = some m → c ≤ k ∧ log[k]? = some m) :
    ∃ c', At log c' (drain ⟨some c, pending⟩).1 ∧ c ≤ c' ∧ (drain ⟨some c, pending⟩).2.messages = (log.take c').drop c := by
  obtain ⟨⟨messages, c', pending'⟩, hr⟩ : ∃ r, drainLoop pending.size c pending = r := ⟨_, rfl⟩
  refine ⟨c', ?_⟩
  simp only [drain, hr]
  exact drainLoop_reads hfits hc h le_rfl hr

lemma At.accept (h : d.At log c) (hm : log[k]? = some m) (hk : m.sequence = k) (hkc : k ≤ c) :
    ∃ c', (d.accept m).1.At log c' ∧ c ≤ c' ∧ k < c' ∧ (d.accept m).2.messages = (log.take c').drop c := by
  obtain ⟨next, pending⟩ := d
  cases h.next
  by_cases heq : k = c
  · subst heq
    have hlt : k < log.length := (List.getElem?_eq_some_iff.1 hm).1
    obtain ⟨c', hat, hle, hread⟩ := drain_reads hfits hlt h.ahead
    refine ⟨c', ?_⟩
    simp only [OrderedDelivery.accept, if_pos hk,
      show Word.saturatingAdd 64 k 1 = k + 1 from min_eq_left (hlt.trans_le hfits)]
    refine ⟨hat, by omega, hle, ?_⟩
    rw [hread, read_cons hm hle]
  · obtain ⟨c', hat, hle, hread⟩ := drain_reads hfits h.le fun hk => ⟨(h.ahead hk).1.le, (h.ahead hk).2⟩
    have hold : ¬ c < m.sequence := by omega
    refine ⟨c', ?_⟩
    simp only [OrderedDelivery.accept, if_neg (hk.symm ▸ heq), hold]
    exact ⟨hat, hle, by omega, hread⟩

lemma At.floor (h : d.At log c) {f : ℕ} (hf : f ≤ log.length) (hcf : c < f) (id : String) :
    ∃ d' result c', d.receive (.floor id f) = some (d', result, some (c, f)) ∧ d'.At log c' ∧ f ≤ c' ∧
      result.messages = (log.take c').drop f := by
  have hahead : ∀ {k m}, (d.pending.retain fun k _ => f ≤ k).get? k = some m → f ≤ k ∧ log[k]? = some m := by
    intro k m hk
    obtain ⟨hget, hle⟩ := get?_retain.1 hk
    exact ⟨of_decide_eq_true hle, (h.ahead hget).2⟩
  obtain ⟨c', hat, hle, hread⟩ := drain_reads hfits hf hahead
  refine ⟨_, _, c', ?_, hat, hle, hread⟩
  simp only [receive, h.next, if_pos hcf]

end OrderedDelivery

def Event.Heard : Event → Bool
  | .message _ => true
  | .recoveryGap .. => true
  | _ => false

namespace Topics

structure Listens (sub : TopicSubscriber) (id : String) (binding : CatalogBinding) (d : OrderedDelivery) (t : Topics) :
    Prop where
  ordered : sub.mode = .ordered
  known : (t.catalog.get? id).filter (·.matchesSubscriber sub) = some binding
  state : ∃ ss, t.subscribers.get? sub = some ss ∧ ss.ordered.get? id = some d

def heard (t : Topics) : List Event := t.trace.filter Event.Heard

def news (sub : TopicSubscriber) (binding : CatalogBinding) (m : WireMessage) : Event :=
  .message ⟨sub.topic, sub.mode, m.dataTrackId, m.sequence, binding.participantId, m.payload⟩

def skipped (sub : TopicSubscriber) (id : String) (binding : CatalogBinding) (gap : ℕ × ℕ) : Event :=
  .recoveryGap sub id binding.participantId gap.1 gap.2

def feed (t : Topics) (generation : Generation) (channel : ChannelId) (sub : TopicSubscriber) (bodies : List Body) : Topics :=
  bodies.foldl (fun t body => (t.handleSubscriber generation channel sub body).1) t

section Feeding

variable {t t' : Topics} {sub : TopicSubscriber} {id : String} {binding : CatalogBinding} {d d' : OrderedDelivery}

lemma heard_beside (h : Beside t t') : t'.heard = t.heard := by
  obtain ⟨es, htrace, hsilent⟩ := h.trace
  have hnone : es.filter Event.Heard = [] := by
    refine filter_eq_nil_iff.2 fun e he => ?_
    have hs := hsilent e he
    cases e with
    | message => exact hs.elim
    | recoveryGap => exact hs.elim
    | _ => exact Bool.false_ne_true
  rw [heard, htrace, filter_append, hnone, append_nil, heard]

variable (h : t.Listens sub id binding d)

include h

lemma Listens.beside (hb : Beside t t') : t'.Listens sub id binding d :=
  ⟨h.ordered, hb.catalog ▸ h.known, hb.subscribers ▸ h.state⟩

lemma Listens.cursor : t.cursor sub id = d.nextSequence := by
  obtain ⟨ss, hss, hd⟩ := h.state
  rw [Topics.cursor, hss, bind_some, hd, bind_some]

lemma Listens.handle {body : Body} (hid : body.dataTrackId = id) {result : DeliveryResult}
    {gap : Option (ℕ × ℕ)} (hr : d.receive body = some (d', result, gap)) (generation : Generation) (channel : ChannelId) :
    (t.handleSubscriber generation channel sub body).1.Listens sub id binding d' ∧
      (t.handleSubscriber generation channel sub body).1.heard =
        t.heard ++ gap.toList.map (skipped sub id binding) ++ result.messages.map (news sub binding) := by
  obtain ⟨ss, hss, hd⟩ := h.state
  subst hid
  have hgo : (t.handleSubscriber generation channel sub body).1 =
      (t.handleOrdered generation channel sub ss binding body).1 := by
    unfold handleSubscriber
    simp only [h.known, hss, h.ordered]
  let u := ((t.setSubscriber sub { ss with ordered := ss.ordered.insert body.dataTrackId d' }).reportGap sub
    body.dataTrackId binding gap).deliver sub binding result.messages
  have hbeside : Beside u (t.handleOrdered generation channel sub ss binding body).1 := by
    simp only [handleOrdered, hd, getD_some, hr]
    split
    · exact emitAuxiliary_beside _ _ _ _ _
    · exact .refl _
  have hu : u.Listens sub body.dataTrackId binding d' := by
    cases gap with
    | none => exact ⟨h.ordered, h.known, _, get?_insert_self, get?_insert_self⟩
    | some g => exact ⟨h.ordered, h.known, _, get?_insert_self, get?_insert_self⟩
  have hheard : u.heard = t.heard ++ gap.toList.map (skipped sub body.dataTrackId binding) ++
      result.messages.map (news sub binding) := by
    have hall : (result.messages.map (news sub binding)).filter Event.Heard = result.messages.map (news sub binding) := by
      refine filter_eq_self.2 fun e he => ?_
      obtain ⟨m, -, rfl⟩ := mem_map.1 he
      rfl
    have htrace : u.trace = t.trace ++ gap.toList.map (skipped sub body.dataTrackId binding) ++
        result.messages.map (news sub binding) := by
      cases gap with
      | none => exact congrArg (· ++ _) (append_nil _).symm
      | some g => rfl
    rw [heard, htrace, filter_append, filter_append, hall]
    cases gap with
    | none => rfl
    | some g => rfl
  rw [hgo]
  exact ⟨hu.beside hbeside, (heard_beside hbeside).trans hheard⟩

lemma Listens.feed {log : List WireMessage} {c k : ℕ} (hat : d.At log c)
    (hfits : log.length ≤ Word.max 64) (hnumber : ∀ i (m : WireMessage), log[i]? = some m → m.sequence = i ∧ m.dataTrackId = id)
    (hkc : k ≤ c) (generation : Generation) (channel : ChannelId) :
    (t.feed generation channel sub ((log.drop k).map .message)).cursor sub id = some log.length ∧
      (t.feed generation channel sub ((log.drop k).map .message)).heard =
        t.heard ++ (log.drop c).map (news sub binding) := by
  induction hrest : log.drop k generalizing t d c k with
  | nil =>
    have hlen := drop_eq_nil_iff.1 hrest
    have hc : c = log.length := by
      have := hat.le
      omega
    rw [hc, drop_length]
    exact ⟨h.cursor.trans (hc ▸ hat.next), (append_nil _).symm⟩
  | cons m rest ih =>
    have hm : log[k]? = some m := by
      rw [← head?_drop, hrest]
      rfl
    obtain ⟨hk, hid⟩ := hnumber k m hm
    obtain ⟨c', hat', hle, hlt, hread⟩ := hat.accept hfits hm hk hkc
    have hid : (Body.message m).dataTrackId = id := hid
    have hr : d.receive (.message m) = some _ := rfl
    obtain ⟨hl, hheard⟩ := h.handle hid hr generation channel
    obtain ⟨hcursor, htold⟩ := ih hl hat' hlt (by rw [← tail_drop, hrest, tail_cons])
    refine ⟨hcursor, htold.trans ?_⟩
    have hread : (d.accept m).2.messages ++ log.drop c' = log.drop c := hread ▸ OrderedDelivery.read_append hle
    rw [hheard, ← hread, map_append, append_assoc, append_assoc]
    rfl

end Feeding

section Recovery

variable {log : List WireMessage}

section

variable (hnumber : ∀ i (m : WireMessage), log[i]? = some m → m.sequence = i)

include hnumber

lemma filter_log_of_le {c f : ℕ} (hle : c ≤ f) :
    (log.drop f).filter (fun m => c ≤ m.sequence) = log.drop f := by
  refine filter_eq_self.2 fun m hm => decide_eq_true ?_
  obtain ⟨i, hi⟩ := mem_iff_getElem?.1 hm
  rw [getElem?_drop] at hi
  have := hnumber _ m hi
  omega

lemma filter_log (c f : ℕ) :
    (log.drop f).filter (fun m => c ≤ m.sequence) = log.drop (max c f) := by
  rcases le_total c f with hle | hle
  · rw [max_eq_right hle, filter_log_of_le hnumber hle]
  have hbefore : ((log.take c).drop f).filter (fun m => c ≤ m.sequence) = [] := by
    refine filter_eq_nil_iff.2 fun m hm => ?_
    obtain ⟨i, hi⟩ := mem_iff_getElem?.1 hm
    rw [getElem?_drop, getElem?_take] at hi
    split at hi
    next hlt =>
      have := hnumber _ m hi
      simp only [decide_eq_true_eq]
      omega
    · cases hi
  rw [max_eq_left hle, ← OrderedDelivery.read_append hle, filter_append, hbefore, nil_append,
    filter_log_of_le hnumber le_rfl]

lemma head_history {n f : ℕ} (hn : log.length = n) (hf : f ≤ n) :
    ((log.drop f).head?.map (·.sequence)).getD n = f := by
  rw [head?_drop]
  cases hm : log[f]? with
  | none =>
    have := getElem?_eq_none_iff.1 hm
    simp only [map_none, getD_none]
    omega
  | some m => exact hnumber f m hm

end

variable {p : TopicPublisher} {t u : Topics} {s : PublisherState}

def publishedBy (t : Topics) (p : TopicPublisher) (s : PublisherState) : List WireMessage :=
  published s.nextSequence (admitted p none t.trace)

lemma replay_eq (hk : s.Keeps p (admitted p none t.trace)) (hmode : p.mode = .ordered) {c : ℕ} (hc : c ≤ s.nextSequence)
    {id : String} (hid : ∀ track, s.dataTrackId = some track → track = id) :
    s.replay c = .ok ((if c < s.nextSequence - topicHistoryCapacity then
      [.floor id (s.nextSequence - topicHistoryCapacity)] else []) ++
        ((t.publishedBy p s).drop (max c (s.nextSequence - topicHistoryCapacity))).map .message) := by
  have hlen : (t.publishedBy p s).length = s.nextSequence := length_published hk.length
  have hnumber : ∀ i (m : WireMessage), (t.publishedBy p s)[i]? = some m → m.sequence = i := fun i m hm => (hk.number i m hm).1
  have hhead := head_history hnumber hlen (sub_le s.nextSequence topicHistoryCapacity)
  have hhistory : s.history = (t.publishedBy p s).drop _ := hk.history hmode
  rw [PublisherState.replay, if_neg (not_lt.2 hc)]
  simp only [hhistory, hhead, filter_log hnumber]
  split
  next hlt =>
    obtain ⟨m, hm⟩ : ∃ m, (t.publishedBy p s)[c]? = some m := ⟨_, getElem?_eq_getElem (by omega)⟩
    have htrack := (hk.number c m hm).2
    rw [htrack, ← hid _ htrack]
    rfl
  · rfl

theorem replay_recovers (hmode : p.mode = .ordered) (h : machine.Reachable t) (hs : t.publishers.get? p = some s) :
    ((t.publishedBy p s).length = s.nextSequence ∧ (∀ i (m : WireMessage), (t.publishedBy p s)[i]? = some m → m.sequence = i) ∧
      s.history = (t.publishedBy p s).drop (s.nextSequence - topicHistoryCapacity)) ∧
    ∀ {u : Topics} {sub : TopicSubscriber} {id : String} {binding : CatalogBinding} {d : OrderedDelivery} {c : ℕ}
      (_ : u.Listens sub id binding d) (_ : ∀ track, s.dataTrackId = some track → track = id)
      (_ : d.nextSequence = some c) (_ : c ≤ s.nextSequence)
      (_ : ∀ k m, d.pending.get? k = some m → c < k ∧ (t.publishedBy p s)[k]? = some m)
      (generation : Generation) (channel : ChannelId),
      ∃ bodies, s.replay c = .ok bodies ∧
        (u.feed generation channel sub bodies).cursor sub id = some s.nextSequence ∧
        (u.feed generation channel sub bodies).heard = u.heard ++
          (if c < s.nextSequence - topicHistoryCapacity then
            [skipped sub id binding (c, s.nextSequence - topicHistoryCapacity)] else []) ++
          ((t.publishedBy p s).drop (max c (s.nextSequence - topicHistoryCapacity))).map (news sub binding) := by
  have hk := (publishes h).keeps s hs
  have hlen : (t.publishedBy p s).length = s.nextSequence := length_published hk.length
  have hfits : (t.publishedBy p s).length ≤ Word.max 64 := hlen ▸ hk.fits
  refine ⟨⟨hlen, fun i m hm => (hk.number i m hm).1, hk.history hmode⟩, ?_⟩
  intro u sub id binding d c hl hid hnext hc hbuffer generation channel
  have hnumber : ∀ i (m : WireMessage), (t.publishedBy p s)[i]? = some m → m.sequence = i ∧ m.dataTrackId = id :=
    fun i m hm => ⟨(hk.number i m hm).1, hid _ (hk.number i m hm).2⟩
  have hat : d.At _ c := ⟨hnext, hlen ▸ hc, fun hk => hbuffer _ _ hk⟩
  refine ⟨_, replay_eq hk hmode hc hid, ?_⟩
  generalize hf : s.nextSequence - topicHistoryCapacity = f
  split
  next hlt =>
    -- The floor comes first and moves the cursor at least up to it.
    obtain ⟨d', result, c', hr, hat', hle, hread⟩ := hat.floor hfits (by omega) hlt id
    obtain ⟨hl', hheard⟩ := hl.handle rfl hr generation channel
    obtain ⟨hcursor, htold⟩ := hl'.feed hat' hfits hnumber hle generation channel
    rw [max_eq_right hlt.le]
    refine ⟨hlen ▸ hcursor, htold.trans ?_⟩
    have hread : result.messages ++ (t.publishedBy p s).drop c' = (t.publishedBy p s).drop f :=
      hread ▸ OrderedDelivery.read_append hle
    rw [hheard, ← hread, map_append, append_assoc]
    rfl
  next hge =>
    rw [max_eq_left (not_lt.1 hge), append_nil]
    obtain ⟨hcursor, htold⟩ := hl.feed hat hfits hnumber le_rfl generation channel
    exact ⟨hlen ▸ hcursor, htold⟩

def speaker : TopicPublisher := ⟨"chat", .ordered⟩

def speech : Topics :=
  List.foldl apply {} [.reconcile ⟨[speaker], []⟩, .bindNative 1 "p2",
    .installSource 1 { track with registration := .publisher speaker }, .send ⟨speaker, [1]⟩, .send ⟨speaker, [2]⟩,
    .send ⟨speaker, [3]⟩]

def late : Topics where
  subscribers := OrdMap.insert ∅ listener
    { ordered := OrdMap.insert ∅ "d1" ⟨some 1, OrdMap.insert ∅ 2 ⟨"d1", 2, [3]⟩⟩ }
  catalog := OrdMap.insert ∅ "d1" ⟨"chat", .ordered, "ext2", false⟩

theorem replay_recovers_late : ∃ s bodies, speech.publishers.get? speaker = some s ∧ s.replay 1 = .ok bodies ∧
    (late.feed 1 1 listener bodies).cursor listener "d1" = some 3 := by
  have hreach : machine.Reachable speech := Machine.Reachable.run (.init rfl) (Machine.admits_of_forall (fun _ _ => trivial) _ _)
  have hsome : (speech.publishers.get? speaker).isSome = true := by decide +kernel
  obtain ⟨s, hs⟩ := isSome_iff_exists.1 hsome
  have hnext : s.nextSequence = 3 := by
    have hread : (speech.publishers.get? speaker).map (·.nextSequence) = some 3 := by decide +kernel
    rw [hs] at hread
    exact Option.some.inj hread
  have htrack : s.dataTrackId = some "d1" := by
    have hread : (speech.publishers.get? speaker).map (·.dataTrackId) = some (some "d1") := by decide +kernel
    rw [hs] at hread
    exact Option.some.inj hread
  have hl : late.Listens listener "d1" ⟨"chat", .ordered, "ext2", false⟩ ⟨some 1, OrdMap.insert ∅ 2 ⟨"d1", 2, [3]⟩⟩ :=
    ⟨rfl, rfl, _, rfl, rfl⟩
  have hheld : ∀ k m, (OrdMap.insert ∅ 2 ⟨"d1", 2, [3]⟩ : OrdMap ℕ WireMessage).get? k = some m →
      1 < k ∧ (speech.publishedBy speaker s)[k]? = some m := by
    intro k m hk
    rw [get?_insert] at hk
    split at hk
    next heq =>
      cases hk
      rw [heq, publishedBy, hnext]
      decide +kernel
    · cases hk
  obtain ⟨bodies, hbodies, hcursor, -⟩ := (replay_recovers rfl hreach hs).2 hl
    (fun track ht => Option.some.inj (ht.symm.trans htrack)) rfl (by omega) hheld 1 1
  exact ⟨s, bodies, hs, hbodies, hnext ▸ hcursor⟩

end Recovery

end Topics

end Pulsebeam.Agent
