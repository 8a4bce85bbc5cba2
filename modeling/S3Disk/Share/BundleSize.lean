import S3Disk.Library.JsonLengths
import S3Disk.Library.Histories
import S3Disk.Share.Bearer
import S3Disk.Share.BundleSafety

/-! The estimate of a bundle's size that is made before the bundle: it is at least the length
of the JSON that is written in the end. -/

namespace S3Disk.Share

open Concurrent
open Json (Value)

def wireCapabilityValue (entry : WireExactCapability) : Option Value :=
  (Rfc3339.format entry.expiresAt.instant entry.expiresAt.offset).map fun time =>
    .object [(ascii "key", .string entry.key), (ascii "url", .string entry.url),
      (ascii "headers", .array (entry.headers.map wireHeaderValue)),
      (ascii "expires_at", .string time)]

def wireObjectValue (object : Object) : Value :=
  .object ([(ascii "data", byteSliceValue object.data),
    (ascii "etag", .string object.version.eTag)] ++
    if object.version.versionID = [] then []
    else [(ascii "version_id", .string object.version.versionID)])

def shareIDValue (shareID : ShareID) : Value := .string (base64RawURL shareID.bytes)

def bundlePayloadValue (payload : BundlePayload) : Option Value := do
  let time ← Rfc3339.format payload.authorizationExpiresAt.instant
    payload.authorizationExpiresAt.offset
  let capabilities ← payload.capabilities.mapM wireCapabilityValue
  return .object [(ascii "format", .number payload.format),
    (ascii "repository_id", repositoryIDValue payload.repositoryID),
    (ascii "repository_prefix", .string payload.repositoryPrefix),
    (ascii "reference_key", .string payload.referenceKey),
    (ascii "share_id", shareIDValue payload.shareID), (ascii "revision", natValue payload.revision),
    (ascii "reference_generation", natValue payload.referenceGeneration),
    (ascii "reference_commit", digestValue payload.referenceCommit),
    (ascii "reference", wireObjectValue payload.reference),
    (ascii "authorization_expires_at", .string time), (ascii "key_id", .string payload.keyID),
    (ascii "capabilities", .array capabilities)]

def marshalPayload (payload : BundlePayload) : Option Bytes :=
  (bundlePayloadValue payload).map Value.encode

def marshalBundle (bundle : SignedBundle) : Option Bytes :=
  (bundlePayloadValue bundle.payload).map fun payload =>
    (Value.object [(ascii "format", .number bundle.format), (ascii "payload", payload),
      (ascii "signature", byteSliceValue bundle.signature)]).encode

structure WritesBundles (platform : Platform) : Prop where
  payload : ∀ payload, platform.payload payload = marshalPayload payload
  bundle : ∀ bundle, platform.bundle.marshal bundle = marshalBundle bundle

theorem jsonStringBody_drop (skip : Nat) (text : Bytes) :
    jsonStringBody skip text = jsonStringBody 0 (text.drop skip) := by
  induction text generalizing skip with
  | nil => simp [jsonStringBody]
  | cons character rest ih =>
      cases skip with
      | zero => rfl
      | succ skip => rw [jsonStringBody, ih skip, List.drop_succ_cons]

theorem length_encodeASCII : ∀ value < 128,
    (Json.encodeASCII (UInt8.ofNat value)).length =
      if [8, 12, 10, 13, 9, 92, 34].contains (UInt8.ofNat value) then 2
      else if [60, 62, 38].contains (UInt8.ofNat value) ∨ UInt8.ofNat value < 0x20 then 6 else 1 := by
  decide +kernel

theorem runeWidth_separator {rest : Bytes} {width : Nat}
    (found : Utf8.runeWidth 0xE2 rest = some width) : width = 3 := by
  obtain ⟨extra, rfl, -, -⟩ := Utf8.runeWidth_local found
  unfold Utf8.runeWidth at found
  have lead : Utf8.utf8Lead 0xE2 = some (2, 0x80, 0xBF) := by decide
  rw [lead] at found
  dsimp only at found
  split at found
  · exact (Option.some.inj found).symm
  · cases found

theorem length_rune {character : UInt8} {rest : Bytes} {width : Nat}
    (large : ¬character < 0x80) (found : Utf8.runeWidth character rest = some width) :
    (if character = 0xE2 ∧ [[0x80, 0xA8], [0x80, 0xA9]].contains (rest.take 2) then 6 else width) =
      (Json.Symbol.encode (.rune character (rest.take (width - 1)) large
        (Json.complete_of_runeWidth found))).length := by
  obtain ⟨extra, wide, length, -⟩ := Utf8.runeWidth_local found
  unfold Json.Symbol.encode
  by_cases lead : character = 0xE2
  · subst lead
    obtain rfl := runeWidth_separator found
    by_cases line : rest.take 2 = [0x80, 0xA8]
    · simp [line, Json.lineSeparator, Json.unicodeEscape]
    · by_cases paragraph : rest.take 2 = [0x80, 0xA9]
      · simp [paragraph, Json.lineSeparator, Json.paragraphSeparator, Json.unicodeEscape]
      · obtain rfl : extra = 2 := by omega
        simp [line, paragraph, Json.lineSeparator, Json.paragraphSeparator, length]
  · have other : ∀ tail separator : Bytes, separator.head? = some 0xE2 →
        character :: tail ≠ separator := by
      rintro tail separator head rfl
      exact lead (Option.some.inj head)
    dsimp only
    rw [if_neg (fun both => lead both.1), if_neg (other _ Json.lineSeparator rfl),
      if_neg (other _ Json.paragraphSeparator rfl)]
    subst wide
    simp [length]

theorem jsonStringBody_eq {text : Bytes} {bound : Nat} (enough : text.length ≤ bound) :
    jsonStringBody 0 text = ((Json.symbolsWithin bound text).flatMap Json.Symbol.encode).length := by
  induction bound generalizing text with
  | zero =>
      rw [List.eq_nil_of_length_eq_zero (Nat.le_zero.mp enough)]
      rfl
  | succ bound ih =>
      cases text with
      | nil => simp [Json.symbolsWithin, jsonStringBody]
      | cons character rest =>
          simp only [List.length_cons, Nat.add_le_add_iff_right] at enough
          by_cases small : character < 0x80
          · have one := length_encodeASCII character.toNat (UInt8.lt_iff_toNat_lt.mp small)
            rw [UInt8.ofNat_toNat] at one
            rw [jsonStringBody, Json.symbolsWithin, if_pos small, dif_pos small,
              List.flatMap_cons, List.length_append, ← ih enough]
            exact congrArg (· + _) one.symm
          rw [jsonStringBody, if_neg small]
          split
          · rename_i broken
            rw [Json.symbolsWithin_broken small broken, List.flatMap_cons, List.length_append,
              ← ih enough]
            rfl
          · rename_i width found
            have shorter : (rest.drop (width - 1)).length ≤ bound := by
              rw [List.length_drop]
              omega
            rw [Json.symbolsWithin_rune small found, List.flatMap_cons, List.length_append,
              ← ih shorter, jsonStringBody_drop, length_rune small found]

theorem jsonStringBytes_eq (text : Bytes) :
    jsonStringBytes text = (Json.encodeString text).length := by
  rw [jsonStringBytes, jsonStringBody_eq (Nat.le_refl _)]
  simp only [Json.encodeString, Json.symbols, List.length_cons, List.length_append,
    List.length_nil]
  omega

theorem jsonStringBody_append {left right : Bytes} (valid : validUTF8 left = true) :
    jsonStringBody 0 (left ++ right) = jsonStringBody 0 left + jsonStringBody 0 right := by
  generalize size : left.length = length
  induction length using Nat.strongRecOn generalizing left with
  | ind length ih =>
      cases left with
      | nil => simp [jsonStringBody]
      | cons character rest =>
          rw [List.length_cons] at size
          by_cases small : character < 0x80
          · rw [Utf8.validUTF8_ascii_cons small] at valid
            have tail := ih rest.length (by omega) valid rfl
            simp only [List.cons_append, jsonStringBody, if_pos small, tail]
            omega
          · obtain ⟨extra, found, after⟩ := Utf8.runeWidth_of_valid valid
            obtain ⟨_, same, length, within⟩ := Utf8.runeWidth_local found
            obtain rfl := Nat.succ.inj same
            rw [List.length_take] at length
            have tail := ih (rest.drop extra).length (by rw [List.length_drop]; omega) after rfl
            have longer := within (rest.drop extra ++ right)
            rw [← List.append_assoc, List.take_append_drop] at longer
            have separator : character = 0xE2 → (rest ++ right).take 2 = rest.take 2 := by
              rintro rfl
              have wide := runeWidth_separator found
              exact List.take_append_of_le_length (by omega)
            have escaped : (character = 0xE2 ∧
                [[0x80, 0xA8], [0x80, 0xA9]].contains ((rest ++ right).take 2) = true) ↔
                (character = 0xE2 ∧ [[0x80, 0xA8], [0x80, 0xA9]].contains (rest.take 2) = true) :=
              and_congr_right fun lead => by rw [separator lead]
            simp only [List.cons_append, jsonStringBody, if_neg small, found, longer, escaped]
            rw [jsonStringBody_drop, jsonStringBody_drop _ rest, Nat.add_sub_cancel,
              List.drop_append_of_le_length (by omega), tail]
            omega

theorem jsonStringBytes_slash (text : Bytes) :
    jsonStringBytes (slash :: text) = jsonStringBytes text + 1 := by
  unfold jsonStringBytes
  rw [jsonStringBody, if_pos (by decide)]
  change 2 + (1 + jsonStringBody 0 text) = _
  omega

theorem dropSlashes_spec {text : Bytes} (valid : validUTF8 text = true) :
    validUTF8 (text.dropWhile (· == slash)) = true ∧
      jsonStringBytes (text.dropWhile (· == slash)) ≤ jsonStringBytes text := by
  induction text with
  | nil => exact ⟨valid, Nat.le_refl _⟩
  | cons character rest ih =>
      by_cases same : character = slash
      · subst same
        rw [Utf8.validUTF8_ascii_cons (by decide)] at valid
        obtain ⟨kept, shorter⟩ := ih valid
        rw [List.dropWhile_cons_of_pos (by simp), jsonStringBytes_slash]
        exact ⟨kept, by omega⟩
      · rw [List.dropWhile_cons_of_neg (by simpa using same)]
        exact ⟨valid, Nat.le_refl _⟩

theorem jsonStringBytes_append_le {left right : Bytes} (valid : validUTF8 left = true) :
    jsonStringBytes left ≤ jsonStringBytes (left ++ right) := by
  unfold jsonStringBytes
  rw [jsonStringBody_append valid]
  omega

theorem jsonStringBytes_trimSlashes {text : Bytes} (valid : validUTF8 text = true) :
    jsonStringBytes (trimSlashes text) ≤ jsonStringBytes text := by
  obtain ⟨kept, shorter⟩ := dropSlashes_spec valid
  refine Nat.le_trans ?_ shorter
  have split : trimSlashes text ++ (text.dropWhile (· == slash)).rtakeWhile (· == slash) =
      text.dropWhile (· == slash) := List.rdropWhile_append_rtakeWhile
  have front : validUTF8 (trimSlashes text) = true := by
    cases tail : (text.dropWhile (· == slash)).rtakeWhile (· == slash) with
    | nil =>
        rw [tail, List.append_nil] at split
        rw [split]
        exact kept
    | cons first rest =>
        have isSlash : first = slash := by
          have := @List.mem_rtakeWhile_imp _ (· == slash) (text.dropWhile (· == slash)) first
            (by rw [tail]; exact List.mem_cons_self)
          simpa using this
        rw [tail, isSlash] at split
        rw [← split, Utf8.validUTF8_split (by decide), Bool.and_eq_true] at kept
        exact kept.1
  rw [← split]
  exact jsonStringBytes_append_le front

def headerEstimate (header : Bytes × List Bytes) : Nat :=
  64 + jsonStringBytes header.1 + Json.total (fun value => 2 + jsonStringBytes value) header.2

def capabilityEstimate (entry : ExactCapability) : Nat :=
  256 + jsonStringBytes entry.key + jsonStringBytes entry.capability.rawURL +
    Json.total headerEstimate entry.capability.headers

def bundleEstimate (input : BuildInput) : Nat :=
  8 * 1024 + base64PaddedLength input.reference.data.length +
    jsonStringBytes input.repositoryPrefix + jsonStringBytes input.referenceKey +
    jsonStringBytes input.reference.version.eTag +
    jsonStringBytes input.reference.version.versionID +
    Json.total capabilityEstimate input.capabilities

theorem addEstimate_ok {total size result : Nat} :
    addEstimate total size = .ok result ↔
      result = total + size ∧ result ≤ maximumBundleBytes := by
  simp only [addEstimate, bind_ok, failIf_ok]
  constructor
  · rintro ⟨_, short, returned⟩
    cases returned
    exact ⟨rfl, Nat.not_lt.mp short⟩
  · rintro ⟨rfl, short⟩
    exact ⟨(), Nat.not_lt.mpr short, rfl⟩

theorem foldlM_estimate {α : Type} {size : α → Nat} {step : Nat → α → Except Err Nat}
    (adds : ∀ total item result, step total item = .ok result →
      result = total + size item ∧ result ≤ maximumBundleBytes)
    {items : List α} {total result : Nat} (within : total ≤ maximumBundleBytes)
    (folded : items.foldlM step total = .ok result) :
    result = total + Json.total size items ∧ result ≤ maximumBundleBytes := by
  induction items generalizing total with
  | nil =>
      cases folded
      exact ⟨rfl, within⟩
  | cons item rest ih =>
      rw [List.foldlM_cons, bind_ok] at folded
      obtain ⟨next, added, folded⟩ := folded
      obtain ⟨rfl, short⟩ := adds total item next added
      obtain ⟨rfl, fits⟩ := ih short folded
      exact ⟨by rw [Json.total]; omega, fits⟩

theorem estimateHeader_ok {total result : Nat} {header : Bytes × List Bytes}
    (estimated : estimateHeader total header = .ok result) :
    result = total + headerEstimate header ∧ result ≤ maximumBundleBytes := by
  simp only [estimateHeader, bind_ok, addEstimate_ok] at estimated
  obtain ⟨_, ⟨rfl, _⟩, _, ⟨rfl, within⟩, folded⟩ := estimated
  have adds : ∀ total (value : Bytes) result, (do
      let total ← addEstimate total 2
      addEstimate total (jsonStringBytes value)) = Except.ok result →
      result = total + (2 + jsonStringBytes value) ∧ result ≤ maximumBundleBytes := by
    intro total value result added
    simp only [bind_ok, addEstimate_ok] at added
    obtain ⟨_, ⟨rfl, _⟩, rfl, short⟩ := added
    exact ⟨by omega, short⟩
  obtain ⟨rfl, fits⟩ := foldlM_estimate adds within folded
  exact ⟨by unfold headerEstimate; omega, fits⟩

theorem estimateCapability_ok {total result : Nat} {entry : ExactCapability}
    (estimated : estimateCapability total entry = .ok result) :
    result = total + capabilityEstimate entry ∧ result ≤ maximumBundleBytes := by
  simp only [estimateCapability, bind_ok, addEstimate_ok] at estimated
  obtain ⟨_, ⟨first, _⟩, _, ⟨second, _⟩, third, ⟨sum, within⟩, folded⟩ := estimated
  have adds : ∀ total header result, estimateHeader total header = .ok result →
      result = total + headerEstimate header ∧ result ≤ maximumBundleBytes :=
    fun _ _ _ => estimateHeader_ok
  obtain ⟨last, fits⟩ := foldlM_estimate adds within folded
  refine ⟨?_, fits⟩
  unfold capabilityEstimate
  omega

theorem estimateCapabilities_gives {index total : Nat} {entries : List ExactCapability}
    (within : total ≤ maximumBundleBytes) :
    Gives (estimateCapabilities index total entries) fun _ =>
      total + Json.total capabilityEstimate entries ≤ maximumBundleBytes := by
  induction entries generalizing index total with
  | nil => exact .pure within
  | cons entry rest ih =>
      refine .bind contextErrAt_gives fun _ _ => ?_
      refine .bind (.ofExcept fun _ estimated => estimateCapability_ok estimated) ?_
      rintro next ⟨rfl, short⟩
      refine (ih short).weaken fun _ fits => ?_
      rw [Json.total]
      omega

theorem preflightBuildInput_gives {input : BuildInput} :
    Gives (preflightBuildInput input) fun _ => bundleEstimate input ≤ maximumBundleBytes := by
  refine .bind .failIf fun _ _ => .bind .failIf fun _ _ => ?_
  refine .bind (.ofExcept fun total estimated =>
    foldlM_estimate (fun _ _ _ added => addEstimate_ok.mp added) (by decide) estimated) ?_
  rintro total ⟨sum, short⟩
  refine (estimateCapabilities_gives short).weaken fun _ fits => ?_
  simp only [Json.total] at sum
  unfold bundleEstimate
  omega

def payloadOf (input : BuildInput) (repositoryID : RepositoryID) (keyID : Bytes) : BundlePayload where
  format := bundleFormat
  repositoryID := repositoryID
  repositoryPrefix := trimSlashes input.repositoryPrefix
  referenceKey := input.referenceKey
  shareID := input.shareID
  revision := input.revision
  referenceGeneration := input.referenceGeneration
  referenceCommit := input.referenceCommit
  reference := input.reference
  authorizationExpiresAt := ⟨input.authorizationExpiresAt, 0⟩
  keyID := keyID
  capabilities := (input.capabilities.insertionSort fun left right => left.key ≤ right.key).map
    fun entry => encodeEntry entry.key entry.capability

theorem validateBundleBindings_ok {repositoryPrefix referenceKey result : Bytes} {shareID : ShareID}
    {revision generation : Nat}
    (validated : validateBundleBindings repositoryPrefix referenceKey shareID revision generation =
      .ok result) : result = trimSlashes repositoryPrefix ∧ validUTF8 repositoryPrefix = true := by
  simp only [validateBundleBindings, bind_ok, failIf_ok, not_or, Bool.not_eq_false] at validated
  obtain ⟨_, ⟨valid, _⟩, _, _, _, _, _, _, returned⟩ := validated
  exact ⟨(Except.ok.inj returned).symm, valid⟩

theorem payloadFromInput_payload {platform : Platform} {input : BuildInput}
    {repositoryID : RepositoryID} {keyID : Bytes} {verifier : ReferenceVerifier} {time : Time} :
    Gives (payloadFromInput platform input repositoryID keyID verifier time) fun payload =>
      payload = payloadOf input repositoryID keyID ∧
        validUTF8 input.repositoryPrefix = true := by
  unfold payloadFromInput
  refine .bind (.ofExcept fun _ validated => validateBundleBindings_ok validated) ?_
  rintro keyPrefix ⟨rfl, valid⟩
  refine .bind .failIf fun _ _ => .bind .failIf fun _ _ => .bind .failIf fun _ _ => ?_
  refine .bind .failIf fun _ _ => ?_
  refine .bind (any_gives _) fun _ _ => .bind .failIf fun _ _ => ?_
  refine .bind bundleEntries_gives fun wires same => .pure ⟨?_, valid⟩
  rw [same]
  rfl

theorem length_wireHeader (header : WireHeader) :
    (wireHeaderValue header).encode.length + 1 ≤ headerEstimate (header.name, header.values) := by
  have values := @Json.length_encodeItems_map_le Bytes Value.string
    (fun value => 2 + jsonStringBytes value) header.values true (by
      intro value _
      rw [jsonStringBytes_eq, Value.encode]
      omega)
  have name : (Json.encodeString (ascii "name")).length = 6 := by decide +kernel
  have label : (Json.encodeString (ascii "values")).length = 8 := by decide +kernel
  unfold headerEstimate wireHeaderValue
  simp only [Value.encode, Json.encodeFields, List.length_cons, List.length_append, List.length_nil,
    if_true, Bool.false_eq_true, if_false, jsonStringBytes_eq] at values ⊢
  omega

theorem total_headersToWire (headers : Headers) :
    Json.total (fun header : WireHeader => headerEstimate (header.name, header.values))
      (headersToWire headers) = Json.total headerEstimate headers := by
  unfold headersToWire
  rw [Json.total_map]
  exact Json.total_perm (List.perm_insertionSort _ _)

theorem length_wireCapability {entry : ExactCapability} {value : Value}
    (written : wireCapabilityValue (encodeEntry entry.key entry.capability) = some value) :
    value.encode.length + 1 ≤ capabilityEstimate entry := by
  obtain ⟨time, formatted, rfl⟩ := Option.map_eq_some_iff.mp written
  have short := (Rfc3339.format_spec formatted).1
  have expiry := Json.length_encodeString_le time
  have headers := @Json.length_encodeItems_map_le WireHeader wireHeaderValue
    (fun header => headerEstimate (header.name, header.values))
    (headersToWire entry.capability.headers) true fun header _ => length_wireHeader header
  rw [total_headersToWire] at headers
  have key : (Json.encodeString (ascii "key")).length = 5 := by decide +kernel
  have url : (Json.encodeString (ascii "url")).length = 5 := by decide +kernel
  have label : (Json.encodeString (ascii "headers")).length = 9 := by decide +kernel
  have expires : (Json.encodeString (ascii "expires_at")).length = 12 := by decide +kernel
  unfold capabilityEstimate
  simp only [encodeEntry, Value.encode, Json.encodeFields, List.length_cons, List.length_append,
    List.length_nil, if_true, Bool.false_eq_true, if_false, jsonStringBytes_eq]
  omega

theorem length_byteSlice (bytes : Bytes) :
    (byteSliceValue bytes).encode.length = base64PaddedLength bytes.length + 2 := by
  have length := TextEncoding.length_base64Standard bytes
  rw [byteSliceValue, Value.encode, Json.length_encodeString_base64, length, base64PaddedLength]
  omega

theorem length_wireObject (object : Object) :
    (wireObjectValue object).encode.length ≤ base64PaddedLength object.data.length +
      jsonStringBytes object.version.eTag + jsonStringBytes object.version.versionID + 40 := by
  have bytes := length_byteSlice object.data
  have data : (Json.encodeString (ascii "data")).length = 6 := by decide +kernel
  have eTag : (Json.encodeString (ascii "etag")).length = 6 := by decide +kernel
  have versionID : (Json.encodeString (ascii "version_id")).length = 12 := by decide +kernel
  unfold wireObjectValue
  split
  · simp only [List.append_nil, Value.encode, Json.encodeFields, List.length_cons,
      List.length_append, List.length_nil, if_true, Bool.false_eq_true, if_false,
      jsonStringBytes_eq]
    omega
  · simp only [List.cons_append, List.nil_append, Value.encode, Json.encodeFields,
      List.length_cons, List.length_append, List.length_nil, if_true, Bool.false_eq_true, if_false,
      jsonStringBytes_eq]
    omega

theorem length_natValue {value : Nat} (fits : value ≤ maxUint64) :
    (natValue value).encode.length ≤ 21 := by
  have small : (value : Int).natAbs < Json.tenfold (19 + 1) := by
    rw [Int.natAbs_natCast]
    exact Nat.lt_of_le_of_lt fits (by decide)
  exact Json.length_encodeInt_le small

theorem length_shareID {shareID : ShareID} (sized : shareID.bytes.length = 16) :
    (shareIDValue shareID).encode.length ≤ 134 := by
  have text := Json.length_encodeString_le (base64RawURL shareID.bytes)
  have length := TextEncoding.length_base64RawURL shareID.bytes
  rw [sized] at length
  rw [shareIDValue, Value.encode]
  omega

structure BuildInput.Representable (input : BuildInput) : Prop where
  shareID : input.shareID.bytes.length = 16
  revision : input.revision ≤ maxUint64
  generation : input.referenceGeneration ≤ maxUint64
  commit : input.referenceCommit.bytes.length = 32

theorem length_bundlePayload {input : BuildInput} {repositoryID : RepositoryID} {keyID : Bytes}
    {value : Value} (representable : input.Representable)
    (sized : repositoryID.bytes.length = 32) (keyed : keyID.length ≤ maximumShareKeyIDBytes)
    (valid : validUTF8 input.repositoryPrefix = true)
    (written : bundlePayloadValue (payloadOf input repositoryID keyID) = some value) :
    value.encode.length + 6000 ≤ bundleEstimate input := by
  obtain ⟨time, formatted, written⟩ := Option.bind_eq_some_iff.mp written
  obtain ⟨entries, capabilities, written⟩ := Option.bind_eq_some_iff.mp written
  cases written
  have list : (Json.encodeItems true entries).length ≤
      Json.total capabilityEstimate input.capabilities + 1 := by
    have sorted := @List.perm_insertionSort ExactCapability
      (fun left right => left.key ≤ right.key) _ input.capabilities
    rw [← Json.total_perm sorted]
    simp only [payloadOf, List.mapM_map] at capabilities
    exact Json.length_encodeItems_le capabilities fun entry value _ => length_wireCapability
  have short := (Rfc3339.format_spec formatted).1
  have expiry := Json.length_encodeString_le time
  have keyText := Json.length_encodeString_le keyID
  unfold maximumShareKeyIDBytes at keyed
  have repository : (repositoryIDValue repositoryID).encode.length = 66 := by
    rw [repositoryIDValue, Value.encode, Json.length_encodeString_hex, sized]
  have commit : (digestValue input.referenceCommit).encode.length = 66 := by
    rw [digestValue, Value.encode, Json.length_encodeString_hex, representable.commit]
  have share := length_shareID representable.shareID
  have revision := length_natValue representable.revision
  have generation := length_natValue representable.generation
  have reference := length_wireObject input.reference
  have trimmed := jsonStringBytes_trimSlashes valid
  have format : (Value.number bundleFormat).encode.length = 1 := by decide +kernel
  have names : [("format", 8), ("repository_id", 15), ("repository_prefix", 19),
      ("reference_key", 15), ("share_id", 10), ("revision", 10), ("reference_generation", 22),
      ("reference_commit", 18), ("reference", 11), ("authorization_expires_at", 26),
      ("key_id", 8), ("capabilities", 14)].all (fun name =>
        (Json.encodeString (ascii name.1)).length == name.2) = true := by decide +kernel
  simp only [List.all_cons, List.all_nil, Bool.and_eq_true, beq_iff_eq] at names
  unfold bundleEstimate
  simp only [jsonStringBytes_eq] at trimmed reference ⊢
  simp only [payloadOf, Value.encode, Json.encodeFields, List.length_cons, List.length_append,
    List.length_nil, if_true, Bool.false_eq_true, if_false] at format ⊢
  omega

theorem length_marshalBundle {input : BuildInput} {repositoryID : RepositoryID}
    {keyID signature encoded : Bytes} (representable : input.Representable)
    (sized : repositoryID.bytes.length = 32) (keyed : keyID.length ≤ maximumShareKeyIDBytes)
    (valid : validUTF8 input.repositoryPrefix = true)
    (short : signature.length ≤ maximumShareSignatureBytes)
    (written : marshalBundle ⟨bundleFormat, payloadOf input repositoryID keyID, signature⟩ =
      some encoded) : encoded.length ≤ bundleEstimate input := by
  obtain ⟨payload, inner, rfl⟩ := Option.map_eq_some_iff.mp written
  have body := length_bundlePayload representable sized keyed valid inner
  have signed := length_byteSlice signature
  unfold base64PaddedLength at signed
  unfold maximumShareSignatureBytes at short
  have format : (Json.encodeString (ascii "format")).length = 8 := by decide +kernel
  have label : (Json.encodeString (ascii "payload")).length = 9 := by decide +kernel
  have last : (Json.encodeString (ascii "signature")).length = 11 := by decide +kernel
  have number : (Value.number bundleFormat).encode.length = 1 := by decide +kernel
  simp only [Value.encode, Json.encodeFields, List.length_cons, List.length_append,
    List.length_nil, if_true, Bool.false_eq_true, if_false] at number ⊢
  omega

theorem validateKeyID_short {keyID : Bytes} (validated : validateKeyID keyID = .ok ()) :
    keyID.length ≤ maximumShareKeyIDBytes := by
  simp only [validateKeyID, bind_ok, failIf_ok, not_or] at validated
  obtain ⟨_, ⟨_, short⟩, _⟩ := validated
  exact Nat.not_lt.mp short

/-- Whatever is answered on the way: for an input that passes the preflight and any signature
within its limit, the JSON of the bundle is no longer than the estimate, which is within the
limit of a bundle; and the estimate measures a string as `encoding/json` writes it. -/
theorem bundle_size_preflight {platform : Platform} (writes : WritesBundles platform)
    {input : BuildInput} {signer : ReferenceSigner} (verifier : ReferenceVerifier)
    (representable : input.Representable) (sized : signer.repositoryID.bytes.length = 32)
    (keyed : validateKeyID signer.keyID = .ok ()) :
    (Gives (do
        preflightBuildInput input
        let time ← now
        payloadFromInput platform input signer.repositoryID signer.keyID verifier time)
      fun payload => ∀ signature encoded, signature.length ≤ maximumShareSignatureBytes →
        platform.bundle.marshal ⟨bundleFormat, payload, signature⟩ = some encoded →
        encoded.length ≤ bundleEstimate input ∧ bundleEstimate input ≤ maximumBundleBytes) ∧
    ∀ text, jsonStringBytes text = (Json.encodeString text).length := by
  refine ⟨?_, jsonStringBytes_eq⟩
  refine .bind preflightBuildInput_gives fun _ within => .bind (any_gives _) fun time _ => ?_
  refine payloadFromInput_payload.weaken ?_
  rintro payload ⟨rfl, valid⟩ signature encoded short written
  rw [writes.bundle] at written
  exact ⟨length_marshalBundle representable sized (validateKeyID_short keyed) valid short written,
    within⟩

namespace SampleBundle

def platform : Platform := { SampleBearer.platform with
  payload := marshalPayload
  bundle := ⟨marshalBundle, fun _ => none⟩ }

theorem writes : WritesBundles platform := ⟨fun _ => rfl, fun _ => rfl⟩

def capability (key : Bytes) : Capability where
  rawURL := ascii "https://h/" ++ key
  headers := [(ascii "X-A", [ascii "<1>", ascii "2"])]
  expiresAt := 1000000000
  origin := ascii "https://h:443"
  exactKey := key
  provenance := .exactGET

def input : BuildInput where
  rootCapability := capability (ascii "root")
  rootKey := ascii "root"
  repositoryPrefix := ascii "/team/"
  referenceKey := ascii "team/.s3disk/v1/refs/bWFpbg"
  shareID := ⟨List.replicate 16 1⟩
  revision := 1
  referenceGeneration := 1
  referenceCommit := ⟨List.replicate 32 1⟩
  reference := ⟨[1], ⟨ascii "tag", []⟩⟩
  authorizationExpiresAt := 1000000000
  capabilities := [⟨ascii "key", capability (ascii "key")⟩]
  dangerouslyAllowUncheckedCapabilities := false

def signer : ReferenceSigner := ⟨⟨List.replicate 32 1⟩, ascii "k"⟩

def verifier : ReferenceVerifier := ⟨⟨List.replicate 32 1⟩⟩

theorem representable : input.Representable := ⟨rfl, by decide, by decide, rfl⟩

def calm : ∀ request, Option (ShareAnswer request)
  | .contextErr => some none
  | _ => none

end SampleBundle

open SampleBundle in
theorem bundle_size_preflight_sample :
    (preflightBuildInput input).answered calm = some (.ok ()) ∧
    Gives (do
        preflightBuildInput input
        let time ← now
        payloadFromInput platform input signer.repositoryID signer.keyID verifier time)
      fun payload => ∀ signature encoded, signature.length ≤ maximumShareSignatureBytes →
        platform.bundle.marshal ⟨bundleFormat, payload, signature⟩ = some encoded →
        encoded.length ≤ bundleEstimate input ∧ bundleEstimate input ≤ maximumBundleBytes :=
  ⟨by decide +kernel, (bundle_size_preflight writes verifier representable rfl (by decide)).1⟩

end S3Disk.Share
