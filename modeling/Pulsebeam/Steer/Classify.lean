import Pulsebeam.Steer.Ufrag

/-! Where the first packet of a client goes: the user name in a STUN message, and the route its first token spells. -/

namespace Pulsebeam.Steer

open List Option

open Lib.Bytes

section Stun

def magicCookie : Bytes := [0x21, 0x12, 0xA4, 0x42]

def usernameAttributeType : UInt16 := 0x0006

def colon : UInt8 := 58

def isStun (buf : Bytes) : Bool :=
  match buf with
  | first :: _ :: _ :: _ :: c0 :: c1 :: c2 :: c3 :: rest =>
    12 ≤ rest.length ∧ first &&& 0xC0 = 0 ∧ [c0, c1, c2, c3] = magicCookie
  | _ => false

-- `(len + 3) & !3`
def paddedLen (len : ℕ) : ℕ := (len + 3) / 4 * 4

def walk : ℕ → Bytes → Option Bytes
  | fuel + 1, t0 :: t1 :: l0 :: l1 :: rest =>
    let len := (ofBe16 l0 l1).toNat
    if rest.length < len then none
    else if ofBe16 t0 t1 = usernameAttributeType then some (rest.take len)
    else if rest.length < paddedLen len then none
    else walk fuel (rest.drop (paddedLen len))
  | _, _ => none

def findUsernameSlice (data : Bytes) : Option Bytes :=
  if !isStun data then none
  else
    match data with
    | _ :: _ :: l0 :: l1 :: _ :: _ :: _ :: _ :: rest =>
      let messageLength := (ofBe16 l0 l1).toNat
      if rest.length < 12 + messageLength ∨ messageLength = 0 then none
      else walk messageLength ((rest.drop 12).take messageLength)
    | _ => none

def firstToken (delimiter : UInt8) : Bytes → Option Bytes
  | [] => none
  | b :: rest => if b = delimiter then some [] else (firstToken delimiter rest).map (b :: ·)

def serverUfrag (buf : Bytes) : Option Bytes := (findUsernameSlice buf).bind (firstToken colon)

end Stun

inductive DropReason
  | noUsername
  | badUfragLen
  | badUfragEncoding
  | badVersion
  | wrongCluster
  | wrongNode
  | invalidShard
  deriving DecidableEq

structure NodeScope where
  clusterId : UInt16
  nodeId : UInt16
  shardCount : UInt16

inductive Bootstrap
  | notStun
  | route (shard : UInt16) (slot : UInt32) (epoch : UInt16)
  | reject (reason : DropReason)
  deriving DecidableEq

def decodeUfragToken (token : Bytes) : Except DropReason IceUfrag :=
  if token.length ≠ encodedLen then .error .badUfragLen
  else
    match decodeAsciiDetailed token with
    | .ok u => .ok u
    | .error .badEncoding => .error .badUfragEncoding
    | .error .badVersion => .error .badVersion
    | .error .invalidCluster => .error .wrongCluster

def classifyBootstrap (payload : Bytes) (scope : NodeScope) : Bootstrap :=
  if !isStun payload then .notStun
  else
    match serverUfrag payload with
    | none => .reject .noUsername
    | some username =>
      match decodeUfragToken username with
      | .error reason => .reject reason
      | .ok u =>
        if u.clusterId ≠ scope.clusterId then .reject .wrongCluster
        else if u.nodeId ≠ scope.nodeId then .reject .wrongNode
        else if scope.shardCount ≤ u.transport.shard then .reject .invalidShard
        else .route u.transport.shard u.transport.slot u.epoch

section Messages

structure Attribute where
  type : UInt16
  value : Bytes
  padding : Bytes
  fits : value.length < 2 ^ 16
  short : padding.length < 4
  aligned : 4 ∣ value.length + padding.length

def Attribute.bytes (a : Attribute) : Bytes :=
  let type := be16 a.type
  let len := be16 (UInt16.ofNat a.value.length)
  type.1 :: type.2 :: len.1 :: len.2 :: (a.value ++ a.padding)

/-- Attributes, none of which is a user name, then a user name and anything. -/
def Username (area value : Bytes) : Prop :=
  ∃ attributes : List Attribute, ∃ l0 l1 rest, (∀ a ∈ attributes, a.type ≠ usernameAttributeType) ∧
    value.length = (ofBe16 l0 l1).toNat ∧ area = attributes.flatMap Attribute.bytes ++ 0 :: 6 :: l0 :: l1 :: (value ++ rest)

/-- A STUN message with its declared attribute area; a datagram may go on after it. -/
def StunMessage (buf area : Bytes) : Prop :=
  ∃ first second l0 l1 transaction suffix, first &&& 0xC0 = 0 ∧ transaction.length = 12 ∧
    area.length = (ofBe16 l0 l1).toNat ∧
    buf = first :: second :: l0 :: l1 :: (magicCookie ++ (transaction ++ (area ++ suffix)))

def Carries (buf : Bytes) (u : IceUfrag) : Prop :=
  ∃ area value token rest, StunMessage buf area ∧ Username area value ∧ value = token ++ colon :: rest ∧
    token.map canonical = u.encodeAscii

lemma Attribute.padded (a : Attribute) : (a.value ++ a.padding).length = paddedLen a.value.length := by
  have hshort := a.short
  have haligned := a.aligned
  rw [length_append, paddedLen]
  omega

lemma walk_attribute (a : Attribute) (h : a.type ≠ usernameAttributeType) (fuel : ℕ) (rest : Bytes) :
    walk (fuel + 1) (a.bytes ++ rest) = walk fuel rest := by
  have hlen : (UInt16.ofNat a.value.length).toNat = a.value.length := UInt16.toNat_ofNat_of_lt' a.fits
  have hpadded := a.padded
  rw [length_append] at hpadded
  rw [Attribute.bytes]
  simp only [cons_append, walk, ofBe16_be16, hlen]
  rw [if_neg, if_neg h, if_neg, ← a.padded, drop_left]
  · simp only [length_append]
    omega
  · simp only [length_append]
    omega

lemma length_attribute (a : Attribute) : 4 ≤ a.bytes.length := by
  simp [Attribute.bytes]

variable {value : Bytes} {area : Bytes} {fuel : ℕ}

lemma walk_username (h : Username area value) (hfuel : area.length ≤ fuel) : walk fuel area = some value := by
  obtain ⟨attributes, l0, l1, rest, hother, hlen, rfl⟩ := h
  induction attributes generalizing fuel with
  | nil =>
    obtain ⟨fuel, rfl⟩ : ∃ n, fuel = n + 1 := ⟨fuel - 1, by simp at hfuel; omega⟩
    simp only [flatMap_nil, nil_append, walk]
    rw [if_neg (by simp [hlen]), if_pos (by decide), ← hlen, take_left]
  | cons a attributes ih =>
    have hfour := length_attribute a
    rw [flatMap_cons, append_assoc, length_append] at hfuel
    obtain ⟨fuel, rfl⟩ : ∃ n, fuel = n + 1 := ⟨fuel - 1, by omega⟩
    rw [flatMap_cons, append_assoc, walk_attribute a (hother a mem_cons_self)]
    exact ih (fun b hb => hother b (mem_cons_of_mem _ hb)) (by omega)

lemma username_of_walk (h : walk fuel area = some value) : Username area value := by
  fun_induction walk fuel area with
  | case1 fuel t0 t1 l0 l1 rest len hshort => cases h
  | case2 fuel t0 t1 l0 l1 rest len hroom htype =>
    cases h
    have hbytes := be16_ofBe16 t0 t1
    rw [htype] at hbytes
    cases hbytes
    refine ⟨[], l0, l1, rest.drop len, by simp, ?_, ?_⟩
    · rw [length_take]
      omega
    · rw [take_append_drop]
      rfl
  | case3 fuel t0 t1 l0 l1 rest len hroom htype hshort => cases h
  | case4 fuel t0 t1 l0 l1 rest len hroom htype hpadded ih =>
    obtain ⟨attributes, k0, k1, tail, hother, hlen, harea⟩ := ih h
    have hle : len ≤ paddedLen len := by
      rw [paddedLen]
      omega
    have hlen_value : (rest.take len).length = len := length_take_of_le (by omega)
    have hlen_padding : ((rest.drop len).take (paddedLen len - len)).length = paddedLen len - len := by
      rw [length_take, length_drop]
      omega
    have hrest : rest.take len ++ ((rest.drop len).take (paddedLen len - len) ++ rest.drop (paddedLen len)) = rest := by
      have hdrop : rest.drop (paddedLen len) = (rest.drop len).drop (paddedLen len - len) := by
        rw [drop_drop, Nat.add_sub_cancel' hle]
      rw [hdrop, take_append_drop, take_append_drop]
    let a : Attribute := {
      type := ofBe16 t0 t1
      value := rest.take len
      padding := (rest.drop len).take _
      fits := by
        rw [hlen_value]
        exact (ofBe16 l0 l1).toNat_lt
      short := by
        rw [hlen_padding, paddedLen]
        omega
      aligned := by
        rw [hlen_padding, paddedLen]
        omega }
    have hbytes : a.bytes = t0 :: t1 :: l0 :: l1 :: (rest.take len ++ (rest.drop len).take (paddedLen len - len)) := by
      simp only [Attribute.bytes, a, hlen_value]
      simp only [len, UInt16.ofNat_toNat, be16_ofBe16]
    refine ⟨a :: attributes, k0, k1, tail, ?_, hlen, ?_⟩
    · intro b hb
      rcases mem_cons.1 hb with rfl | hb
      · exact htype
      · exact hother b hb
    · rw [flatMap_cons, append_assoc, ← harea, hbytes]
      simp only [cons_append, append_assoc, hrest]
  | case5 => cases h

variable {token : Bytes}

lemma firstToken_eq_some {delimiter : UInt8} {input : Bytes} :
    firstToken delimiter input = some token ↔ delimiter ∉ token ∧ ∃ rest, input = token ++ delimiter :: rest := by
  induction input generalizing token with
  | nil => simp [firstToken]
  | cons b input ih =>
    rw [firstToken]
    split
    next hb =>
      subst hb
      constructor
      · rintro ⟨⟩
        exact ⟨by simp, input, rfl⟩
      · rintro ⟨hfree, rest, hinput⟩
        cases token with
        | nil => rfl
        | cons c token =>
          cases hinput
          exact absurd mem_cons_self hfree
    next hb =>
      rw [map_eq_some_iff]
      constructor
      · rintro ⟨token, htoken, rfl⟩
        obtain ⟨hfree, rest, rfl⟩ := ih.1 htoken
        refine ⟨?_, rest, rfl⟩
        rw [mem_cons]
        rintro (rfl | hin)
        · exact hb rfl
        · exact hfree hin
      · rintro ⟨hfree, rest, hinput⟩
        cases token with
        | nil =>
          cases hinput
          exact absurd rfl hb
        | cons c token =>
          cases hinput
          exact ⟨token, ih.2 ⟨fun hin => hfree (mem_cons_of_mem _ hin), rest, rfl⟩, rfl⟩

variable {buf : Bytes}

lemma findUsernameSlice_eq_some :
    findUsernameSlice buf = some value ↔ ∃ area, StunMessage buf area ∧ Username area value := by
  constructor
  · intro h
    unfold findUsernameSlice at h
    split at h
    · cases h
    next hstun =>
      split at h
      next first second l0 l1 c0 c1 c2 c3 rest =>
        dsimp only at h
        split at h
        · cases h
        next hroom =>
          obtain ⟨_, hfirst, hcookie⟩ : 12 ≤ rest.length ∧ first &&& 0xC0 = 0 ∧ [c0, c1, c2, c3] = magicCookie := by
            simpa [isStun] using hstun
          refine ⟨_, ⟨first, second, l0, l1, rest.take 12, (rest.drop 12).drop (ofBe16 l0 l1).toNat, hfirst, ?_, ?_, ?_⟩,
            username_of_walk h⟩
          · rw [length_take]
            omega
          · rw [length_take, length_drop]
            omega
          · rw [take_append_drop, take_append_drop, ← hcookie]
            rfl
      · cases h
  · rintro ⟨area, ⟨first, second, l0, l1, transaction, suffix, hfirst, htransaction, hlen, rfl⟩, husername⟩
    have hstun : isStun (first :: second :: l0 :: l1 :: (magicCookie ++ (transaction ++ (area ++ suffix)))) = true := by
      simp [isStun, magicCookie, hfirst, htransaction]
    have harea : 0 < area.length := by
      obtain ⟨_, _, _, _, _, _, rfl⟩ := husername
      simp
    unfold findUsernameSlice
    rw [hstun, if_neg (by decide)]
    simp only [magicCookie, cons_append, nil_append]
    rw [if_neg, ← htransaction, drop_left, ← hlen, take_left]
    · exact walk_username husername le_rfl
    · simp only [length_append]
      omega

variable {u : IceUfrag}

lemma colon_notin_spelling (h : token.map canonical = u.encodeAscii) : colon ∉ token := by
  intro hin
  have hchar : canonical colon ∈ u.encodeAscii := h ▸ List.mem_map_of_mem hin
  obtain ⟨cHi, cLo, n0, n1, r0, r1, r2, r3, e0, e1, hraw⟩ := Raw.exists u
  rw [hraw.encodeAscii, List.mem_map] at hchar
  obtain ⟨v, hv, hchar⟩ := hchar
  have hlt : v < 32 := List.forall_mem_append.2 ⟨fives_lt _ _ _ _ _, fives_lt _ _ _ _ _⟩ v hv
  have hvalue := crockfordValue_eq_some.2 ⟨hlt, hchar⟩
  cases hvalue

lemma length_spelling (h : token.map canonical = u.encodeAscii) : token.length = encodedLen := by
  have hlen := congrArg List.length h
  rwa [length_map] at hlen

lemma decodeUfragToken_ok : decodeUfragToken token = .ok u ↔ token.map canonical = u.encodeAscii := by
  rw [← decodeAsciiDetailed_ok, decodeUfragToken]
  constructor
  · intro h
    split at h
    · cases h
    · split at h <;> cases h
      assumption
  · intro h
    rw [if_neg (not_not.2 (length_spelling (decodeAsciiDetailed_ok.1 h))), h]

lemma carries_iff : Carries buf u ↔ ∃ token, serverUfrag buf = some token ∧ decodeUfragToken token = .ok u := by
  simp only [serverUfrag, bind_eq_some_iff, findUsernameSlice_eq_some, firstToken_eq_some, decodeUfragToken_ok]
  constructor
  · rintro ⟨area, value, token, rest, hbuf, harea, hvalue, htoken⟩
    exact ⟨token, ⟨value, ⟨area, hbuf, harea⟩, colon_notin_spelling htoken, rest, hvalue⟩, htoken⟩
  · rintro ⟨token, ⟨value, ⟨area, hbuf, harea⟩, _, rest, hvalue⟩, htoken⟩
    exact ⟨area, value, token, rest, hbuf, harea, hvalue, htoken⟩

lemma isStun_of_serverUfrag (h : serverUfrag buf = some token) : isStun buf = true := by
  rw [serverUfrag, bind_eq_some_iff] at h
  obtain ⟨value, hvalue, _⟩ := h
  by_contra hstun
  unfold findUsernameSlice at hvalue
  rw [Bool.eq_false_of_not_eq_true hstun] at hvalue
  cases hvalue

end Messages

theorem classifyBootstrap_inverts_encoder :
    (∀ (u : IceUfrag) (buf : Bytes) (shardCount : UInt16), Carries buf u →
      classifyBootstrap buf ⟨u.clusterId, u.nodeId, shardCount⟩ =
        if u.transport.shard < shardCount then .route u.transport.shard u.transport.slot u.epoch
        else .reject .invalidShard) ∧
    ∀ (buf : Bytes) (scope : NodeScope) (shard : UInt16) (slot : UInt32) (epoch : UInt16),
      classifyBootstrap buf scope = .route shard slot epoch →
      ∃ u : IceUfrag, Carries buf u ∧ u.clusterId = scope.clusterId ∧ u.nodeId = scope.nodeId ∧
        u.transport.shard = shard ∧ u.transport.slot = slot ∧ u.epoch = epoch ∧ shard < scope.shardCount := by
  constructor
  · intro u buf shardCount hcarries
    obtain ⟨token, htoken, hdecode⟩ := carries_iff.1 hcarries
    simp only [classifyBootstrap, isStun_of_serverUfrag htoken, htoken, hdecode]
    by_cases hshard : u.transport.shard < shardCount
    · simp [hshard]
    · simp [hshard]
  · intro buf scope shard slot epoch h
    unfold classifyBootstrap at h
    split at h
    · cases h
    split at h
    · cases h
    next token htoken =>
      split at h
      · cases h
      next u hdecode =>
        split at h
        · cases h
        next hcluster =>
          split at h
          · cases h
          next hnode =>
            split at h
            · cases h
            next hshard =>
              cases h
              exact ⟨u, carries_iff.2 ⟨token, htoken, hdecode⟩, not_not.1 hcluster, not_not.1 hnode, rfl, rfl, rfl,
                UInt16.not_le.1 hshard⟩

def bindingRequest : Bytes :=
  [0, 1, 0, 36, 33, 18, 164, 66, 0, 0, 0, 0, 0, 0, 0, 0, 0, 0, 0, 0, 0, 36, 0, 1, 7, 255, 255, 255, 0, 6, 0,
    23, 105, 97, 121, 49, 52, 100, 111, 111, 69, 79, 114, 51, 106, 48, 76, 65, 58, 99, 108, 105, 101, 110, 116,
    0, 120, 121, 122]

def bindingUfrag : IceUfrag := ⟨0x0ABC, 0x1234, ⟨0x00703039⟩, 42, by decide⟩

theorem classifyBootstrap_binding_request :
    Carries bindingRequest bindingUfrag ∧
      classifyBootstrap bindingRequest ⟨0x0ABC, 0x1234, 8⟩ = .route 7 12345 42 ∧
      classifyBootstrap bindingRequest ⟨0x0ABC, 0x1234, 7⟩ = .reject .invalidShard ∧
      ∃ u : IceUfrag, Carries bindingRequest u ∧ u.transport.shard = 7 := by
  have hcarries : Carries bindingRequest bindingUfrag :=
    carries_iff.2 ⟨[105, 97, 121, 49, 52, 100, 111, 111, 69, 79, 114, 51, 106, 48, 76, 65], by decide +kernel,
      decodeUfragToken_ok.2 (by decide +kernel)⟩
  have hroute := classifyBootstrap_inverts_encoder.1 bindingUfrag bindingRequest 8 hcarries
  obtain ⟨u, hu, _, _, hshard, _⟩ :=
    classifyBootstrap_inverts_encoder.2 bindingRequest ⟨0x0ABC, 0x1234, 8⟩ 7 12345 42 hroute
  exact ⟨hcarries, hroute, classifyBootstrap_inverts_encoder.1 bindingUfrag bindingRequest 7 hcarries, u, hu, hshard⟩

end Pulsebeam.Steer
