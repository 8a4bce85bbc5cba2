import Mathlib.Data.List.Nodup
import S3Disk.PublisherState

/-! What a sealed publisher state is worth: its envelope is read in one way only, it is opened
under the binding and with the key it was sealed with and with no others, and rotating the
keys of a ring loses nothing. Authenticated encryption is ideal, as for the encrypted store. -/

namespace S3Disk.PublisherState

open Concurrent ClientEncryption

theorem ofBigEndian_bigEndian16 {value : Nat} (fits : value < 0x10000) :
    ofBigEndian (bigEndian16 value) = value := by
  simp [ofBigEndian, bigEndian16]
  omega

theorem ofBigEndian_bigEndian32 {value : Nat} (fits : value < 0x100000000) :
    ofBigEndian (bigEndian32 value) = value := by
  simp [ofBigEndian, bigEndian32]
  omega

structure DecodedEnvelope.WellFormed (decoded : DecodedEnvelope) : Prop where
  keyID : validKeyID decoded.keyID = true
  salt : decoded.salt.length = recoverySaltBytes
  least : randomNonceGCMOverhead ≤ decoded.ciphertext.length
  most : decoded.ciphertext.length ≤ maximumPlaintextBytes + randomNonceGCMOverhead
  header : decoded.header =
    encodeEnvelopePrefix decoded.keyID decoded.salt decoded.ciphertext.length

theorem validKeyID_length {keyID : Bytes} (valid : validKeyID keyID = true) :
    1 ≤ keyID.length ∧ keyID.length ≤ maximumKeyIDBytes := by
  simp only [validKeyID, Bool.and_eq_true, decide_eq_true_eq] at valid
  exact valid.1

theorem length_encodeEnvelopePrefix (keyID salt : Bytes) (length : Nat) :
    (encodeEnvelopePrefix keyID salt length).length =
      envelopeHeaderBytes + keyID.length + salt.length := by
  simp [encodeEnvelopePrefix, envelopeMagic, bigEndian16, bigEndian64, envelopeHeaderBytes]
  omega

theorem parseEnvelope_wellFormed {envelope : Bytes} {decoded : DecodedEnvelope}
    (parsed : parseEnvelope envelope = .ok decoded) :
    decoded.WellFormed ∧ envelope = decoded.header ++ decoded.ciphertext := by
  obtain ⟨_, _, parsed⟩ := bind_ok.mp parsed
  obtain ⟨_, _, parsed⟩ := bind_ok.mp parsed
  obtain ⟨_, bounds, parsed⟩ := bind_ok.mp parsed
  obtain ⟨_, lengths, parsed⟩ := bind_ok.mp parsed
  obtain ⟨_, valid, parsed⟩ := bind_ok.mp parsed
  obtain ⟨_, canonical, parsed⟩ := bind_ok.mp parsed
  have bounds := failIf_ok.mp bounds
  have lengths := failIf_ok.mp lengths
  have canonical := not_not.mp (failIf_ok.mp canonical)
  cases parsed
  simp only [not_or, not_lt, not_not] at bounds lengths
  refine ⟨⟨by simpa using failIf_ok.mp valid, ?_, ?_, ?_, ?_⟩,
    (List.take_append_drop _ envelope).symm⟩
  · simp only [List.length_take, List.length_drop]
    omega
  · simp only [List.length_drop]
    omega
  · simp only [List.length_drop]
    omega
  · simp only [List.length_drop]
    rw [lengths.2]
    exact canonical.symm

theorem parseEnvelope_encoded {decoded : DecodedEnvelope} (formed : decoded.WellFormed) :
    parseEnvelope (decoded.header ++ decoded.ciphertext) = .ok decoded := by
  obtain ⟨keyID, salt, header, ciphertext⟩ := decoded
  obtain ⟨valid, salted, least, most, same⟩ := formed
  dsimp only at valid salted least most same
  obtain ⟨atLeast, atMost⟩ := validKeyID_length valid
  have sized := length_encodeEnvelopePrefix keyID salt ciphertext.length
  rw [← same] at sized
  -- The fields of the header stand at fixed places.
  have layout : header ++ ciphertext = envelopeMagic ++ (bigEndian16 1 ++ (bigEndian16 0 ++
      (bigEndian16 keyID.length ++ (bigEndian16 salt.length ++ (bigEndian64 ciphertext.length ++
        (keyID ++ (salt ++ ciphertext))))))) := by
    rw [same]
    simp only [encodeEnvelopePrefix, List.append_assoc]
  have keyIDLength : ofBigEndian (((header ++ ciphertext).drop 12).take 2) = keyID.length := by
    rw [layout]
    exact ofBigEndian_bigEndian16 (by unfold maximumKeyIDBytes at atMost; omega)
  have saltLength : ofBigEndian (((header ++ ciphertext).drop 14).take 2) = salt.length := by
    rw [layout]
    exact ofBigEndian_bigEndian16 (by unfold recoverySaltBytes at salted; omega)
  have ciphertextLength :
      ofBigEndian (((header ++ ciphertext).drop 16).take 8) = ciphertext.length := by
    rw [layout]
    refine ofBigEndian_bigEndian64 ?_
    unfold maximumPlaintextBytes randomNonceGCMOverhead at most
    omega
  have keyIDPart : ((header ++ ciphertext).drop envelopeHeaderBytes).take keyID.length = keyID := by
    rw [layout]
    exact List.take_left
  have saltPart : ((header ++ ciphertext).drop (envelopeHeaderBytes + keyID.length)).take
      salt.length = salt := by
    rw [layout, ← List.drop_drop]
    change ((keyID ++ (salt ++ ciphertext)).drop keyID.length).take salt.length = salt
    rw [List.drop_left, List.take_left]
  have magic : (header ++ ciphertext).take 8 = envelopeMagic := by rw [layout]; rfl
  have version : ofBigEndian (((header ++ ciphertext).drop 8).take 2) = 1 := by rw [layout]; rfl
  have reserved : ofBigEndian (((header ++ ciphertext).drop 10).take 2) = 0 := by rw [layout]; rfl
  have front : (header ++ ciphertext).take (envelopeHeaderBytes + keyID.length + salt.length) =
      header := by
    rw [← sized]
    exact List.take_left
  have back : (header ++ ciphertext).drop (envelopeHeaderBytes + keyID.length + salt.length) =
      ciphertext := by
    rw [← sized]
    exact List.drop_left
  have total : (header ++ ciphertext).length =
      envelopeHeaderBytes + keyID.length + salt.length + ciphertext.length := by
    rw [List.length_append, sized]
  refine bind_ok.mpr ⟨(), failIf_ok.mpr ?_, bind_ok.mpr ⟨(), failIf_ok.mpr ?_, ?_⟩⟩
  · rw [total]
    omega
  · simp only [magic, version, reserved]
    decide
  dsimp only
  rw [keyIDLength, saltLength, ciphertextLength, keyIDPart, saltPart, front, back]
  refine bind_ok.mpr ⟨(), failIf_ok.mpr ?_, bind_ok.mpr ⟨(), failIf_ok.mpr ?_,
    bind_ok.mpr ⟨(), failIf_ok.mpr ?_, bind_ok.mpr ⟨(), failIf_ok.mpr ?_, rfl⟩⟩⟩⟩
  · omega
  · rw [total]
    omega
  · simp [valid]
  · simp [same]

theorem DecodedEnvelope.WellFormed.unique {decoded other : DecodedEnvelope} (formed : decoded.WellFormed)
    (formed' : other.WellFormed)
    (same : decoded.header ++ decoded.ciphertext = other.header ++ other.ciphertext) :
    decoded = other := by
  have parsed := parseEnvelope_encoded formed
  rw [same, parseEnvelope_encoded formed'] at parsed
  exact (Except.ok.inj parsed).symm

theorem envelopeAssociatedData_injective {header header' binding binding' : Bytes}
    (fits : header.length < 0x100000000) (fits' : header'.length < 0x100000000)
    (same : envelopeAssociatedData header binding = envelopeAssociatedData header' binding') :
    header = header' ∧ binding = binding' := by
  simp only [envelopeAssociatedData, List.append_assoc, List.append_cancel_left_eq] at same
  obtain ⟨lengths, same⟩ := List.append_inj same rfl
  have equal : header.length = header'.length := by
    rw [← ofBigEndian_bigEndian32 fits, ← ofBigEndian_bigEndian32 fits', lengths]
  obtain ⟨headers, same⟩ := List.append_inj same equal
  exact ⟨headers, (List.append_inj same rfl).2⟩

/-! One protector. The state is what was sealed so far; a run is alive when its context is
not cancelled and the random source works. -/

def performed (alive : Bool) (sealings : List Sealing) :
    (op : SealRequest) → SealAnswer op → List Sealing → Prop
  | .contextErr, answer, later => (alive = true → answer = none) ∧ later = sealings
  | .random, answer, later => (alive = true → ∃ salt, answer = .ok salt) ∧ later = sealings
  | .sealWith secret plaintext associated, ciphertext, later =>
      ciphertext.length = plaintext.length + randomNonceGCMOverhead ∧
      (∀ sealing ∈ sealings, sealing.ciphertext ≠ ciphertext) ∧
      later = ⟨secret, plaintext, associated, ciphertext⟩ :: sealings
  | .openWith secret ciphertext associated, answer, later =>
      answer = opened sealings secret ciphertext associated ∧ later = sealings

section Protector

variable {hkdf : Bytes → Bytes → Bytes → Bytes} {alive : Bool} {sealings : List Sealing}
  {protector : AESGCMProtector} {binding plaintext envelope : Bytes}

theorem contextErr_performed :
    Protecting.contextErr.Always (performed alive) sealings (fun _ later => later = sealings)
      fun _ _ => alive = false := by
  refine .request fun answer later served => ?_
  cases answer with
  | none => exact served.2
  | some error => exact Bool.eq_false_iff.mpr fun live => nomatch served.1 live

theorem envelopeSalt_performed :
    Protecting.envelopeSalt.Always (performed alive) sealings
      (fun salt later => salt.length = recoverySaltBytes ∧ later = sealings)
      fun _ _ => alive = false := by
  refine .request fun answer later served => ?_
  cases answer with
  | ok salt => exact ⟨salt.property, served.2⟩
  | error error =>
      refine Bool.eq_false_iff.mpr fun live => ?_
      obtain ⟨salt, impossible⟩ := served.1 live
      cases impossible

theorem aeadSeal_performed {secret associated : Bytes} {fail : Err → List Sealing → Prop} :
    (Protecting.aeadSeal secret plaintext associated).Always (performed alive) sealings
      (fun ciphertext later => ciphertext.length = plaintext.length + randomNonceGCMOverhead ∧
        (∀ sealing ∈ sealings, sealing.ciphertext ≠ ciphertext) ∧
        later = ⟨secret, plaintext, associated, ciphertext⟩ :: sealings) fail :=
  .request fun _ _ served => served

theorem aeadOpen_performed {secret ciphertext associated : Bytes}
    {fail : Err → List Sealing → Prop} :
    (Protecting.aeadOpen secret ciphertext associated).Always (performed alive) sealings
      (fun answer later => answer = opened sealings secret ciphertext associated ∧
        later = sealings) fail :=
  .request fun _ _ served => served

structure Within (binding plaintext : Bytes) : Prop where
  binding : validateBinding binding = .ok ()
  plaintext : plaintext.length ≤ maximumPlaintextBytes

def SealedBy (hkdf : Bytes → Bytes → Bytes → Bytes) (protector : AESGCMProtector)
    (binding plaintext envelope : Bytes) (sealings : List Sealing) : Prop :=
  ∃ decoded : DecodedEnvelope, decoded.WellFormed ∧ decoded.keyID = protector.keyID ∧
    envelope = decoded.header ++ decoded.ciphertext ∧
    ⟨protector.aead hkdf decoded.salt, plaintext, envelopeAssociatedData decoded.header binding,
      decoded.ciphertext⟩ ∈ sealings

theorem SealedBy.mono {more : List Sealing}
    (sealed : SealedBy hkdf protector binding plaintext envelope sealings)
    (grown : sealings ⊆ more) : SealedBy hkdf protector binding plaintext envelope more := by
  obtain ⟨decoded, formed, named, same, member⟩ := sealed
  exact ⟨decoded, formed, named, same, grown member⟩

theorem sealState_performed (distinct : Distinct sealings) :
    (protector.sealState hkdf binding plaintext).Always (performed alive) sealings
      (fun envelope later => Within binding plaintext ∧ protector.configured = true ∧
        Distinct later ∧ sealings ⊆ later ∧
        SealedBy hkdf protector binding plaintext envelope later)
      fun _ _ => alive = false ∨ ¬(protector.configured = true ∧ Within binding plaintext) := by
  refine .bind contextErr_performed (fun _ _ stopped => .inl stopped) fun _ later same => ?_
  subst same
  refine .failIf (fun unset => .inr (by simp [unset])) fun configured => ?_
  refine .ofExcept (fun error refused => .inr ?_) fun _ valid => ?_
  · rintro ⟨_, within⟩
    rw [within.binding] at refused
    cases refused
  refine .failIf (fun large => .inr ?_) fun small => ?_
  · rintro ⟨_, within⟩
    exact absurd within.plaintext (Nat.not_le.mpr large)
  refine .bind envelopeSalt_performed (fun _ _ stopped => .inl stopped) fun salt later drawn => ?_
  obtain ⟨salted, rfl⟩ := drawn
  refine .bind aeadSeal_performed (fun _ _ failed => failed) fun ciphertext later sealed => ?_
  obtain ⟨sized, fresh, rfl⟩ := sealed
  refine .failIf (fun longer => absurd sized longer) fun _ => ?_
  refine .bind contextErr_performed (fun _ _ stopped => .inl stopped) fun _ later same => ?_
  subst same
  simp only [Bool.not_eq_false] at configured
  have within : Within binding plaintext := ⟨valid, Nat.not_lt.mp small⟩
  have named : validKeyID protector.keyID = true := by
    simp only [AESGCMProtector.configured, Bool.and_eq_true] at configured
    exact configured.1
  refine .pure ⟨within, configured, distinct.cons fresh, List.subset_cons_self _ _, ?_⟩
  refine ⟨⟨protector.keyID, salt,
    encodeEnvelopePrefix protector.keyID salt (plaintext.length + randomNonceGCMOverhead),
    ciphertext⟩, ⟨named, salted, ?_, ?_, ?_⟩, rfl, rfl, List.mem_cons_self⟩
  · dsimp only
    omega
  · dsimp only
    omega
  · dsimp only
    rw [sized]

def Readable (hkdf : Bytes → Bytes → Bytes → Bytes) (sealings : List Sealing)
    (protector : AESGCMProtector) (binding envelope plaintext : Bytes) : Prop :=
  protector.configured = true ∧ Within binding plaintext ∧
    envelope.length ≤ maximumEnvelopeBytes ∧
    ∃ decoded, parseEnvelope envelope = .ok decoded ∧ decoded.keyID = protector.keyID ∧
      opened sealings (protector.aead hkdf decoded.salt) decoded.ciphertext
        (envelopeAssociatedData decoded.header binding) = some plaintext

theorem openState_performed :
    (protector.openState hkdf binding envelope).Always (performed alive) sealings
      (fun plaintext later => later = sealings ∧
        Readable hkdf sealings protector binding envelope plaintext)
      fun _ _ => alive = false ∨
        ∀ plaintext, ¬Readable hkdf sealings protector binding envelope plaintext := by
  refine .bind contextErr_performed (fun _ _ stopped => .inl stopped) fun _ later same => ?_
  subst same
  refine .failIf (fun unset => .inr ?_) fun configured => ?_
  · rintro plaintext ⟨set, _⟩
    rw [set] at unset
    cases unset
  refine .ofExcept (fun error refused => .inr ?_) fun _ valid => ?_
  · rintro plaintext ⟨_, within, _⟩
    rw [within.binding] at refused
    cases refused
  refine .failIf (fun large => .inr ?_) fun short => ?_
  · rintro plaintext ⟨_, _, fits, _⟩
    omega
  refine .ofExcept (fun error refused => .inr ?_) fun decoded parsed => ?_
  · rintro plaintext ⟨_, _, _, decoded, parsed, _⟩
    rw [parsed] at refused
    cases refused
  refine .failIf (fun differs => .inr ?_) fun named => ?_
  · rintro plaintext ⟨_, _, _, other, parsed', same, _⟩
    rw [parsed] at parsed'
    cases parsed'
    exact differs same
  refine .bind aeadOpen_performed (fun _ _ failed => failed) fun answer later found => ?_
  obtain ⟨found, rfl⟩ := found
  cases answer with
  | none =>
      refine .throw (.inr ?_)
      rintro plaintext ⟨_, _, _, other, parsed', _, opens⟩
      rw [parsed] at parsed'
      cases parsed'
      rw [← found] at opens
      cases opens
  | some plaintext =>
      refine .failIf (fun large => .inr ?_) fun small => ?_
      · rintro other ⟨_, within, _, decoded', parsed', _, opens⟩
        rw [parsed] at parsed'
        cases parsed'
        rw [← found] at opens
        cases opens
        exact absurd within.plaintext (Nat.not_le.mpr large)
      refine .bind contextErr_performed (fun _ _ stopped => .inl stopped) fun _ later same => ?_
      subst same
      exact .pure ⟨rfl, by simpa using configured, ⟨valid, Nat.not_lt.mp small⟩,
        Nat.not_lt.mp short, decoded, parsed, not_not.mp named, found.symm⟩

theorem SealedBy.readable (distinct : Distinct sealings) (configured : protector.configured = true)
    (within : Within binding plaintext)
    (sealed : SealedBy hkdf protector binding plaintext envelope sealings) :
    Readable hkdf sealings protector binding envelope plaintext := by
  obtain ⟨decoded, formed, named, rfl, member⟩ := sealed
  have atMost := (validKeyID_length formed.keyID).2
  have most := formed.most
  have salted := formed.salt
  refine ⟨configured, within, ?_, decoded, parseEnvelope_encoded formed, named,
    distinct.opened_eq member⟩
  rw [List.length_append, formed.header, length_encodeEnvelopePrefix]
  unfold maximumEnvelopeBytes
  omega

theorem DecodedEnvelope.WellFormed.length_header {decoded : DecodedEnvelope}
    (formed : decoded.WellFormed) : decoded.header.length < 0x100000000 := by
  have atMost := (validKeyID_length formed.keyID).2
  have salted := formed.salt
  rw [formed.header, length_encodeEnvelopePrefix]
  unfold maximumKeyIDBytes at atMost
  unfold recoverySaltBytes at salted
  unfold envelopeHeaderBytes
  omega

theorem SealedBy.determines {other : AESGCMProtector} {otherBinding result : Bytes}
    (distinct : Distinct sealings)
    (sealed : SealedBy hkdf protector binding plaintext envelope sealings)
    (readable : Readable hkdf sealings other otherBinding envelope result) :
    other.keyID = protector.keyID ∧ otherBinding = binding ∧ result = plaintext := by
  obtain ⟨decoded, formed, named, rfl, member⟩ := sealed
  obtain ⟨_, _, _, decoded', parsed, named', opens⟩ := readable
  rw [parseEnvelope_encoded formed] at parsed
  cases parsed
  have same := distinct.opened member opens
  have header := formed.length_header
  have bound := envelopeAssociatedData_injective header header (congrArg Sealing.associated same)
  exact ⟨named'.symm.trans named, bound.2.symm, (congrArg Sealing.plaintext same).symm⟩

end Protector

theorem enroll_ok {byID all : List AESGCMProtector} {protectors : List AESGCMProtector}
    (enrolled : enroll byID protectors = .ok all)
    (apart : (byID.map AESGCMProtector.keyID).Nodup)
    (set : ∀ protector ∈ byID, protector.configured = true) :
    all = byID ++ protectors ∧ (all.map AESGCMProtector.keyID).Nodup ∧
      ∀ protector ∈ all, protector.configured = true := by
  induction protectors generalizing byID with
  | nil =>
      cases enrolled
      exact ⟨by simp, apart, set⟩
  | cons protector rest ih =>
      obtain ⟨_, configured, enrolled⟩ := bind_ok.mp enrolled
      obtain ⟨_, fresh, enrolled⟩ := bind_ok.mp enrolled
      have configured : protector.configured = true := by simpa using failIf_ok.mp configured
      have fresh := failIf_ok.mp fresh
      simp only [List.any_eq_true, beq_iff_eq, not_exists, not_and] at fresh
      have apart' : ((byID ++ [protector]).map AESGCMProtector.keyID).Nodup := by
        rw [List.map_append, List.nodup_append]
        refine ⟨apart, by simp, ?_⟩
        intro keyID taken other new same
        obtain ⟨holder, member, rfl⟩ := List.mem_map.mp taken
        simp only [List.map_cons, List.map_nil, List.mem_singleton] at new
        exact fresh holder member (same.trans new)
      have set' : ∀ other ∈ byID ++ [protector], other.configured = true := by
        intro other member
        rcases List.mem_append.mp member with old | new
        · exact set other old
        · rw [List.mem_singleton.mp new]
          exact configured
      obtain ⟨whole, rest⟩ := ih enrolled apart' set'
      exact ⟨by simp [whole], rest⟩

structure AESGCMKeyring.Sound (keyring : AESGCMKeyring) : Prop where
  apart : (keyring.byID.map AESGCMProtector.keyID).Nodup
  set : ∀ protector ∈ keyring.byID, protector.configured = true
  member : keyring.active ∈ keyring.byID
  count : keyring.byID.length ≤ maximumAESGCMKeyringKeys

theorem newAESGCMKeyring_ok {active : AESGCMProtector} {retained : List AESGCMProtector}
    {keyring : AESGCMKeyring} (made : newAESGCMKeyring active retained = .ok keyring) :
    keyring.active = active ∧ keyring.Sound := by
  obtain ⟨_, _, made⟩ := bind_ok.mp made
  obtain ⟨_, few, made⟩ := bind_ok.mp made
  obtain ⟨byID, enrolled, made⟩ := bind_ok.mp made
  cases made
  obtain ⟨rfl, apart, set⟩ := enroll_ok enrolled (by simp) (by simp)
  exact ⟨rfl, apart, set, by simp, Nat.not_lt.mp (failIf_ok.mp few)⟩

theorem newAESGCMKeyring_single {active : AESGCMProtector} (configured : active.configured = true) :
    newAESGCMKeyring active [] = .ok ⟨active, [active]⟩ := by
  refine bind_ok.mpr ⟨(), failIf_ok.mpr (by simp [configured]), bind_ok.mpr ⟨(),
    failIf_ok.mpr (by decide), bind_ok.mpr ⟨[active], ?_, rfl⟩⟩⟩
  exact bind_ok.mpr ⟨(), failIf_ok.mpr (by simp [configured]), bind_ok.mpr ⟨(),
    failIf_ok.mpr (by simp), rfl⟩⟩

section Keyring

variable {hkdf : Bytes → Bytes → Bytes → Bytes} {alive : Bool} {sealings : List Sealing}
  {keyring : AESGCMKeyring} {binding plaintext envelope : Bytes}

theorem AESGCMKeyring.Sound.select (sound : keyring.Sound) {protector : AESGCMProtector}
    (member : protector ∈ keyring.byID) : keyring.select protector.keyID = some protector := by
  cases selected : keyring.select protector.keyID with
  | none =>
      have absent := List.find?_eq_none.mp selected protector member
      simp at absent
  | some other =>
      have named := List.find?_some selected
      have same := List.inj_on_of_nodup_map sound.apart (List.mem_of_find?_eq_some selected) member
        (by simpa using named)
      rw [same]

theorem AESGCMKeyring.Sound.configured (sound : keyring.Sound) : keyring.configured = true := by
  have some := List.length_pos_of_mem sound.member
  simp only [AESGCMKeyring.configured, sound.set _ sound.member, sound.select sound.member,
    Bool.and_eq_true, decide_eq_true_eq, beq_self_eq_true]
  exact ⟨⟨⟨trivial, some⟩, sound.count⟩, trivial⟩

def AESGCMKeyring.Reads (hkdf : Bytes → Bytes → Bytes → Bytes) (sealings : List Sealing)
    (keyring : AESGCMKeyring) (binding envelope plaintext : Bytes) (keyID : Bytes) : Prop :=
  ∃ protector ∈ keyring.byID, protector.keyID = keyID ∧
    Readable hkdf sealings protector binding envelope plaintext

theorem openSelected_performed (sound : keyring.Sound) :
    (keyring.openSelected hkdf binding envelope).Always (performed alive) sealings
      (fun result later => later = sealings ∧
        keyring.Reads hkdf sealings binding envelope result.1 result.2)
      fun _ _ => alive = false ∨
        ∀ plaintext keyID, ¬keyring.Reads hkdf sealings binding envelope plaintext keyID := by
  refine .bind contextErr_performed (fun _ _ stopped => .inl stopped) fun _ later same => ?_
  subst same
  refine .failIf (fun unset => ?_) fun _ => ?_
  · rw [sound.configured] at unset
    cases unset
  refine .ofExcept (fun error refused => .inr ?_) fun _ _ => ?_
  · rintro plaintext keyID ⟨_, _, _, _, within, _⟩
    rw [within.binding] at refused
    cases refused
  refine .failIf (fun large => .inr ?_) fun _ => ?_
  · rintro plaintext keyID ⟨_, _, _, _, _, fits, _⟩
    omega
  refine .ofExcept (fun error refused => .inr ?_) fun decoded parsed => ?_
  · rintro plaintext keyID ⟨_, _, _, _, _, _, decoded, parsed, _⟩
    rw [parsed] at refused
    cases refused
  -- Only the protector under the key ID of the envelope is asked.
  have only : ∀ protector ∈ keyring.byID, ∀ plaintext,
      Readable hkdf later protector binding envelope plaintext →
        keyring.select decoded.keyID = some protector := by
    rintro protector member plaintext ⟨_, _, _, decoded', parsed', named, _⟩
    rw [parsed] at parsed'
    cases parsed'
    rw [named]
    exact sound.select member
  cases selected : keyring.select decoded.keyID with
  | none =>
      refine .throw (.inr ?_)
      rintro plaintext keyID ⟨protector, member, _, readable⟩
      rw [only protector member plaintext readable] at selected
      cases selected
  | some protector =>
      refine .bind openState_performed ?_ fun plaintext later' returned => ?_
      · rintro error _ (stopped | unreadable)
        · exact .inl stopped
        · refine .inr ?_
          rintro plaintext keyID ⟨other, member, _, readable⟩
          have same := only other member plaintext readable
          rw [selected] at same
          cases same
          exact unreadable plaintext readable
      · obtain ⟨rfl, readable⟩ := returned
        have named : protector.keyID = decoded.keyID := by simpa using List.find?_some selected
        exact .pure ⟨rfl, protector, List.mem_of_find?_eq_some selected, named, readable⟩

theorem ringOpenState_performed (sound : keyring.Sound) :
    (keyring.openState hkdf binding envelope).Always (performed alive) sealings
      (fun plaintext later => later = sealings ∧
        ∃ keyID, keyring.Reads hkdf sealings binding envelope plaintext keyID)
      fun _ _ => alive = false ∨
        ∀ plaintext keyID, ¬keyring.Reads hkdf sealings binding envelope plaintext keyID := by
  refine .bind (openSelected_performed sound) (fun _ _ failed => failed) fun result later reads => ?_
  exact .pure ⟨reads.1, result.2, reads.2⟩

def AESGCMKeyring.Opens (hkdf : Bytes → Bytes → Bytes → Bytes) (sealings : List Sealing)
    (keyring : AESGCMKeyring) (binding envelope plaintext : Bytes) : Prop :=
  (keyring.openState hkdf binding envelope).Always (performed true) sealings
    (fun result _ => result = plaintext) fun _ _ => False

def AESGCMKeyring.Refuses (hkdf : Bytes → Bytes → Bytes → Bytes) (sealings : List Sealing)
    (keyring : AESGCMKeyring) (binding envelope : Bytes) : Prop :=
  (keyring.openState hkdf binding envelope).Always (performed false) sealings
    (fun _ _ => False) fun _ _ => True

theorem Readable.unique {left right : AESGCMProtector} {other : Bytes}
    (first : Readable hkdf sealings left binding envelope plaintext)
    (second : Readable hkdf sealings right binding envelope other) : left.keyID = right.keyID := by
  obtain ⟨_, _, _, decoded, parsed, named, _⟩ := first
  obtain ⟨_, _, _, decoded', parsed', named', _⟩ := second
  rw [parsed] at parsed'
  cases parsed'
  exact named.symm.trans named'

theorem Readable.functional {protector : AESGCMProtector} {other : Bytes}
    (first : Readable hkdf sealings protector binding envelope plaintext)
    (second : Readable hkdf sealings protector binding envelope other) : plaintext = other := by
  obtain ⟨_, _, _, decoded, parsed, _, opens⟩ := first
  obtain ⟨_, _, _, decoded', parsed', _, opens'⟩ := second
  rw [parsed] at parsed'
  cases parsed'
  exact Option.some.inj (opens.symm.trans opens')

theorem AESGCMKeyring.Sound.reads_unique (sound : keyring.Sound) {other keyID otherID : Bytes}
    (first : keyring.Reads hkdf sealings binding envelope plaintext keyID)
    (second : keyring.Reads hkdf sealings binding envelope other otherID) :
    plaintext = other ∧ keyID = otherID := by
  obtain ⟨left, inLeft, rfl, readLeft⟩ := first
  obtain ⟨right, inRight, rfl, readRight⟩ := second
  have named := readLeft.unique readRight
  have same := List.inj_on_of_nodup_map sound.apart inLeft inRight named
  subst same
  exact ⟨readLeft.functional readRight, rfl⟩

theorem AESGCMKeyring.Reads.opens {keyID : Bytes} (sound : keyring.Sound)
    (reads : keyring.Reads hkdf sealings binding envelope plaintext keyID) :
    keyring.Opens hkdf sealings binding envelope plaintext := by
  refine (ringOpenState_performed sound).weaken ?_ ?_
  · rintro result later ⟨_, other, reads'⟩
    exact (sound.reads_unique reads reads').1.symm
  · rintro error later (stopped | unreadable)
    · cases stopped
    · exact unreadable plaintext keyID reads

theorem AESGCMKeyring.refuses (sound : keyring.Sound)
    (unreadable : ∀ plaintext keyID, ¬keyring.Reads hkdf sealings binding envelope plaintext keyID) :
    keyring.Refuses hkdf sealings binding envelope := by
  refine (ringOpenState_performed sound).weaken ?_ (fun _ _ _ => trivial)
  rintro result later ⟨_, keyID, reads⟩
  exact unreadable result keyID reads

theorem ringSealState_eq (sound : keyring.Sound) (binding plaintext : Bytes) :
    keyring.sealState hkdf binding plaintext = keyring.active.sealState hkdf binding plaintext := by
  unfold AESGCMKeyring.sealState
  rw [sound.configured]
  rfl

theorem SealedBy.reads {protector : AESGCMProtector} (distinct : Distinct sealings)
    (sound : keyring.Sound) (member : protector ∈ keyring.byID) (within : Within binding plaintext)
    (sealed : SealedBy hkdf protector binding plaintext envelope sealings) :
    keyring.Reads hkdf sealings binding envelope plaintext protector.keyID :=
  ⟨protector, member, rfl, sealed.readable distinct (sound.set _ member) within⟩

theorem Readable.mono {protector : AESGCMProtector} {more : List Sealing}
    (readable : Readable hkdf sealings protector binding envelope plaintext)
    (grown : sealings ⊆ more) (distinct : Distinct more) :
    Readable hkdf more protector binding envelope plaintext := by
  obtain ⟨configured, within, fits, decoded, parsed, named, opens⟩ := readable
  refine ⟨configured, within, fits, decoded, parsed, named, ?_⟩
  obtain ⟨sealing, found, rfl⟩ := Option.map_eq_some_iff.mp opens
  have matched := List.find?_some found
  simp only [Bool.and_eq_true, beq_iff_eq] at matched
  rw [← matched.1.1, ← matched.1.2, ← matched.2]
  exact distinct.opened_eq (grown (List.mem_of_find?_eq_some found))

theorem rewrap_performed {keyID : Bytes} (sound : keyring.Sound) (distinct : Distinct sealings)
    (reads : keyring.Reads hkdf sealings binding envelope plaintext keyID) :
    (keyring.rewrap hkdf binding envelope).Always (performed true) sealings
      (fun result later => Distinct later ∧ sealings ⊆ later ∧
        Readable hkdf later keyring.active binding result.1 plaintext)
      fun _ _ => False := by
  refine .bind (openSelected_performed sound) ?_ fun result later returned => ?_
  · rintro error later (stopped | unreadable)
    · cases stopped
    · exact unreadable plaintext keyID reads
  obtain ⟨rfl, returned⟩ := returned
  obtain ⟨same, rfl⟩ := sound.reads_unique reads returned
  subst same
  obtain ⟨protector, member, named, readable⟩ := returned
  dsimp only
  split
  · rename_i active
    have same := List.inj_on_of_nodup_map sound.apart member sound.member (named.trans active)
    subst same
    exact .pure ⟨distinct, List.Subset.refl _, readable⟩
  · refine .bind (sealState_performed distinct) ?_ fun rewrapped later sealed => ?_
    · rintro error _ (stopped | refused)
      · cases stopped
      · exact refused ⟨sound.set _ sound.member, readable.2.1⟩
    · obtain ⟨within, configured, distinct', grown, sealed⟩ := sealed
      exact .pure ⟨distinct', grown, sealed.readable distinct' configured within⟩

end Keyring

/-- The envelope, its binding and its key under any rings. That distinct keys have distinct
key IDs is not needed beyond what the constructor of a ring checks. -/
theorem publisher_state_keyring (hkdf : Bytes → Bytes → Bytes → Bytes) :
    (∀ decoded : DecodedEnvelope, decoded.WellFormed →
      parseEnvelope (decoded.header ++ decoded.ciphertext) = .ok decoded) ∧
    (∀ envelope decoded, parseEnvelope envelope = .ok decoded →
      decoded.WellFormed ∧ envelope = decoded.header ++ decoded.ciphertext ∧
      ∀ other : DecodedEnvelope, other.WellFormed → envelope = other.header ++ other.ciphertext →
        other = decoded) ∧
    (∀ header header' binding binding' : Bytes, header.length < 0x100000000 →
      header'.length < 0x100000000 →
      envelopeAssociatedData header binding = envelopeAssociatedData header' binding' →
      header = header' ∧ binding = binding') ∧
    (∀ active retained keyring protector binding plaintext before,
      newAESGCMKeyring active retained = .ok keyring → protector ∈ keyring.byID →
      Distinct before →
      (keyring.active ∈ keyring.byID ∧ keyring.sealState hkdf binding plaintext =
        keyring.active.sealState hkdf binding plaintext) ∧
      (Within binding plaintext → (protector.sealState hkdf binding plaintext).Always
        (performed true) before (fun _ _ => True) fun _ _ => False) ∧
      ∀ alive envelope later, (protector.sealState hkdf binding plaintext).Executes
        (performed alive) before (.ok envelope) later →
      ∀ sealings, later ⊆ sealings → Distinct sealings →
      ∀ active' retained' other, newAESGCMKeyring active' retained' = .ok other →
        (protector ∈ other.byID → other.Opens hkdf sealings binding envelope plaintext) ∧
        (∀ binding', binding' ≠ binding → other.Refuses hkdf sealings binding' envelope) ∧
        ((∀ holder ∈ other.byID, holder.keyID ≠ protector.keyID) →
          ∀ binding', other.Refuses hkdf sealings binding' envelope)) ∧
    ∀ active retained keyring binding envelope plaintext alive sealings last,
      newAESGCMKeyring active retained = .ok keyring → Distinct sealings →
      (keyring.openState hkdf binding envelope).Executes (performed alive) sealings
        (.ok plaintext) last →
      ∃ single, newAESGCMKeyring active [] = .ok single ∧
        (keyring.rewrap hkdf binding envelope).Always (performed true) sealings
          (fun result later => Distinct later ∧ ∀ more, later ⊆ more → Distinct more →
            single.Opens hkdf more binding result.1 plaintext)
          fun _ _ => False := by
  refine ⟨fun decoded => parseEnvelope_encoded, ?_, ?_, ?_, ?_⟩
  · intro envelope decoded parsed
    obtain ⟨formed, same⟩ := parseEnvelope_wellFormed parsed
    refine ⟨formed, same, fun other formed' same' => ?_⟩
    exact formed'.unique formed (same'.symm.trans same)
  · intro header header' binding binding' fits fits' same
    exact envelopeAssociatedData_injective fits fits' same
  · intro active retained keyring protector binding plaintext before made member distinct
    obtain ⟨_, sound⟩ := newAESGCMKeyring_ok made
    refine ⟨⟨sound.member, ringSealState_eq sound binding plaintext⟩, fun within => ?_, ?_⟩
    · refine (sealState_performed distinct).weaken (fun _ _ _ => trivial) ?_
      rintro error later (stopped | refused)
      · cases stopped
      · exact refused ⟨sound.set protector member, within⟩
    · intro alive envelope later ran sealings grown distinct' active' retained' other made'
      obtain ⟨within, _, _, _, sealed⟩ := ran.always (sealState_performed distinct)
      replace sealed := sealed.mono grown
      obtain ⟨_, sound'⟩ := newAESGCMKeyring_ok made'
      refine ⟨fun held => ?_, fun binding' differs => ?_, fun lacking binding' => ?_⟩
      · exact (sealed.reads distinct' sound' held within).opens sound'
      · refine AESGCMKeyring.refuses sound' ?_
        rintro result keyID ⟨holder, _, _, readable⟩
        exact differs (sealed.determines distinct' readable).2.1
      · refine AESGCMKeyring.refuses sound' ?_
        rintro result keyID ⟨holder, member', _, readable⟩
        exact lacking holder member' (sealed.determines distinct' readable).1
  · intro active retained keyring binding envelope plaintext alive sealings last made distinct ran
    obtain ⟨rfl, sound⟩ := newAESGCMKeyring_ok made
    obtain ⟨_, keyID, reads⟩ := ran.always (ringOpenState_performed sound)
    have alone := newAESGCMKeyring_single (sound.set _ sound.member)
    refine ⟨_, alone, ?_⟩
    refine (rewrap_performed sound distinct reads).weaken ?_ (fun _ _ failed => failed)
    rintro result later ⟨distinct', _, readable⟩
    refine ⟨distinct', fun more grown distinctMore => ?_⟩
    have read : AESGCMKeyring.Reads hkdf more ⟨keyring.active, [keyring.active]⟩ binding result.1
        plaintext keyring.active.keyID :=
      ⟨_, List.mem_singleton_self _, rfl, readable.mono grown distinctMore⟩
    exact read.opens (newAESGCMKeyring_ok alone).2

/-! A rotation from one key to another. -/

namespace SampleRing

def kdf (secret salt info : Bytes) : Bytes := secret ++ salt ++ info

def retired : AESGCMProtector := ⟨ascii "2024", List.replicate 32 1, rfl⟩

def current : AESGCMProtector := ⟨ascii "2025", List.replicate 32 2, rfl⟩

def salt : Bytes := List.replicate recoverySaltBytes 5

def respond (sealings : List Sealing) :
    (op : SealRequest) → Option (SealAnswer op × List Sealing)
  | .contextErr => some (none, sealings)
  | .random => some (.ok ⟨salt, rfl⟩, sealings)
  | .sealWith secret plaintext associated =>
      let ciphertext := List.replicate (plaintext.length + randomNonceGCMOverhead)
        (UInt8.ofNat sealings.length)
      if sealings.any (·.ciphertext == ciphertext) then none
      else some (ciphertext, ⟨secret, plaintext, associated, ciphertext⟩ :: sealings)
  | .openWith secret ciphertext associated =>
      some (opened sealings secret ciphertext associated, sealings)

theorem respond_performed (sealings : List Sealing) (op : SealRequest) (answer : SealAnswer op)
    (later : List Sealing) (found : respond sealings op = some (answer, later)) :
    performed true sealings op answer later := by
  cases op with
  | contextErr => cases found; exact ⟨fun _ => rfl, rfl⟩
  | random => cases found; exact ⟨fun _ => ⟨_, rfl⟩, rfl⟩
  | openWith secret ciphertext associated => cases found; exact ⟨rfl, rfl⟩
  | sealWith secret plaintext associated =>
      simp only [respond] at found
      split at found
      · cases found
      · rename_i fresh
        cases found
        refine ⟨by simp, fun sealing member same => fresh ?_, rfl⟩
        exact List.any_eq_true.mpr ⟨sealing, member, by simp [same]⟩

def envelopeOf (protector : AESGCMProtector) (mark : UInt8) : Bytes :=
  encodeEnvelopePrefix protector.keyID salt 29 ++ List.replicate 29 mark

def sealingOf (protector : AESGCMProtector) (mark : UInt8) : Sealing :=
  ⟨protector.aead kdf salt, [7],
    envelopeAssociatedData (encodeEnvelopePrefix protector.keyID salt 29) (ascii "root"),
    List.replicate 29 mark⟩

def first : List Sealing := [sealingOf retired 0]

def second : List Sealing := [sealingOf current 1, sealingOf retired 0]

theorem sealed : (retired.sealState kdf (ascii "root") [7]).Executes (performed true) []
    (.ok (envelopeOf retired 0)) first :=
  Program.simulate_executes respond_performed (by decide +kernel)

theorem rewraps : (AESGCMKeyring.rewrap kdf ⟨current, [current, retired]⟩ (ascii "root")
    (envelopeOf retired 0)).Executes (performed true) first
    (.ok (envelopeOf current 1, true)) second :=
  Program.simulate_executes respond_performed (by decide +kernel)

theorem reads : (AESGCMKeyring.openState kdf ⟨current, [current, retired]⟩ (ascii "root")
    (envelopeOf retired 0)).Executes (performed true) first (.ok [7]) first :=
  Program.simulate_executes respond_performed (by decide +kernel)

end SampleRing

open SampleRing in
theorem publisher_state_keyring_rotated : ∃ keyring single,
    newAESGCMKeyring current [retired] = .ok keyring ∧ newAESGCMKeyring current [] = .ok single ∧
    keyring.Opens kdf first (ascii "root") (envelopeOf retired 0) [7] ∧
    keyring.Refuses kdf first (ascii "head") (envelopeOf retired 0) ∧
    single.Refuses kdf first (ascii "root") (envelopeOf retired 0) ∧
    (keyring.rewrap kdf (ascii "root") (envelopeOf retired 0)).Executes (performed true) first
      (.ok (envelopeOf current 1, true)) second ∧
    single.Opens kdf second (ascii "root") (envelopeOf current 1) [7] := by
  have both : newAESGCMKeyring current [retired] = .ok ⟨current, [current, retired]⟩ := by
    decide +kernel
  have one : newAESGCMKeyring current [] = .ok ⟨current, [current]⟩ := by decide +kernel
  have empty : Distinct [] := by
    intro left member
    cases member
  have distinct : Distinct first := by
    unfold Distinct
    decide +kernel
  obtain ⟨_, _, _, rings, rewrap⟩ := publisher_state_keyring kdf
  have held := (rings current [retired] _ retired (ascii "root") [7] [] both (by simp) empty).2.2
    true _ _ sealed first (List.Subset.refl _) distinct
  obtain ⟨opens, bound, _⟩ := held current [retired] _ both
  obtain ⟨_, _, lacking⟩ := held current [] _ one
  obtain ⟨single, made, always⟩ := rewrap current [retired] _ (ascii "root") (envelopeOf retired 0)
    [7] true first first both distinct reads
  obtain rfl := Except.ok.inj (one.symm.trans made)
  obtain ⟨distinct', after⟩ := rewraps.always always
  exact ⟨_, _, both, one, opens (by simp), bound _ (by decide), lacking (by decide) _, rewraps,
    after second (List.Subset.refl _) distinct'⟩

end S3Disk.PublisherState
