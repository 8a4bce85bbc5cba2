import S3Disk.Library.Checks
import S3Disk.Library.Ensures
import S3Disk.Share.Bundle

/-! A share hands out no more authority than its closure needs: what a bundle grants is
what was asked for, whatever the presigner returned, and what is accepted from a byte
string stays within the root capability. -/

namespace S3Disk.Share

open Concurrent

def ImmutableKey (keyPrefix key : Bytes) : Prop :=
  ∃ relative, relativeKey keyPrefix key = some relative ∧ validImmutableRemainder relative = true

/-- A capability with the authority that a bundle may pass on under one key. -/
structure Confined (root : Capability) (key : Bytes) (capability : Capability) : Prop where
  exactKey : capability.exactKey = key
  origin : capability.origin = root.origin
  expiresAt : capability.expiresAt = root.expiresAt

def encodeEntry (key : Bytes) (capability : Capability) : WireExactCapability :=
  ⟨key, capability.rawURL, headersToWire capability.headers, ⟨capability.expiresAt, 0⟩⟩

theorem validateImmutableKey_ok {keyPrefix key : Bytes}
    (checked : validateImmutableKey keyPrefix key = .ok ()) :
    key ≠ [] ∧ ImmutableKey keyPrefix key := by
  simp only [validateImmutableKey, bind_ok, failIf_ok] at checked
  obtain ⟨_, valid, inside⟩ := checked
  refine ⟨?_, ?_⟩
  · rintro rfl
    simp [validObjectKey] at valid
  · cases found : relativeKey keyPrefix key with
    | none => simp [found] at inside
    | some relative => exact ⟨relative, found, by simpa [found] using inside⟩

theorem checkClosureKeys_gives {keyPrefix previous : Bytes} {index : Nat} {keys : List Bytes} :
    Gives (checkClosureKeys keyPrefix index previous keys) fun _ =>
      keys.Pairwise (· < ·) ∧ (previous ≠ [] → ∀ key ∈ keys, previous < key) := by
  induction keys generalizing index previous with
  | nil => exact .pure ⟨.nil, fun _ _ member => absurd member List.not_mem_nil⟩
  | cons key rest ih =>
      refine .bind contextErrAt_gives fun _ _ => ?_
      refine .bind .failIf fun _ sorted => ?_
      refine .bind (.ofExcept fun _ checked => validateImmutableKey_ok checked) fun _ valid => ?_
      refine ih.weaken ?_
      rintro _ ⟨restSorted, above⟩
      refine ⟨List.pairwise_cons.mpr ⟨fun later member => above valid.1 later member, restSorted⟩, ?_⟩
      intro nonempty later member
      have first : previous < key := by
        by_contra notLess
        exact sorted ⟨notLess, nonempty⟩
      rcases List.mem_cons.mp member with rfl | member
      · exact first
      · exact List.lt_trans first (above valid.1 later member)

theorem presignClosure_gives {root : Capability} {expiresAt : Time} {index : Nat}
    {keys : List Bytes} (sameExpiry : expiresAt = root.expiresAt) :
    Gives (presignClosure root expiresAt index keys) fun entries =>
      entries.map (·.key) = keys ∧ ∀ entry ∈ entries, Confined root entry.key entry.capability := by
  induction keys generalizing index with
  | nil => exact .pure ⟨rfl, fun _ member => absurd member List.not_mem_nil⟩
  | cons key rest ih =>
      refine .bind contextErrAt_gives fun _ _ => ?_
      have presigned : Gives (presignGet key) fun _ => True :=
        .request trivial fun _ _ _ => trivial
      refine .bind presigned.attempt ?_
      rintro (error | capability) _
      · exact .throw
      · refine .bind .failIf fun _ matched => ?_
        simp only [not_or, not_not] at matched
        refine .bind ih ?_
        rintro others ⟨keys, confined⟩
        refine .pure ⟨by simp [keys], ?_⟩
        intro entry member
        rcases List.mem_cons.mp member with rfl | member
        · exact ⟨matched.2.2.1, matched.2.2.2.1, matched.2.2.2.2.trans sameExpiry⟩
        · exact confined entry member

theorem bundleEntries_gives {input : BuildInput} {keyPrefix previous : Bytes} {index : Nat}
    {entries : List ExactCapability} :
    Gives (bundleEntries input keyPrefix index previous entries) fun wires =>
      wires = entries.map fun entry => encodeEntry entry.key entry.capability := by
  induction entries generalizing index previous with
  | nil => exact .pure rfl
  | cons entry rest ih =>
      refine .bind contextErrAt_gives fun _ _ => ?_
      have checked : Gives
          (.ofExcept (checkBundleEntry input keyPrefix previous entry))
          fun wire => wire = encodeEntry entry.key entry.capability := by
        refine .ofExcept fun wire checked => ?_
        simp only [checkBundleEntry, bind_ok, failIf_ok] at checked
        obtain ⟨_, _, _, _, _, _, _, _, _, _, _, _, returned⟩ := checked
        exact (Except.ok.inj returned).symm
      refine .bind checked fun wire same => ?_
      refine .bind ih fun others sameOthers => ?_
      exact .pure (by simp [same, sameOthers])

theorem payloadFromInput_gives {platform : Platform} {input : BuildInput}
    {repositoryID : RepositoryID} {keyID : Bytes} {verifier : ReferenceVerifier} {time : Time} :
    Gives (payloadFromInput platform input repositoryID keyID verifier time) fun payload =>
      payload.capabilities = (input.capabilities.insertionSort fun left right =>
        left.key ≤ right.key).map fun entry => encodeEntry entry.key entry.capability := by
  unfold payloadFromInput
  refine .bind (.ofExcept fun _ _ => trivial) fun keyPrefix _ => ?_
  refine .bind .failIf fun _ _ => .bind .failIf fun _ _ => .bind .failIf fun _ _ => ?_
  refine .bind .failIf fun _ _ => ?_
  refine .bind (any_gives _) fun _ _ => .bind .failIf fun _ _ => ?_
  exact .bind bundleEntries_gives fun wires same => .pure same

theorem signBundle_gives {platform : Platform} {payload : BundlePayload}
    {signer : ReferenceSigner} :
    Gives (signBundle platform payload signer) fun encoded =>
      ∃ signature, platform.bundle.marshal ⟨bundleFormat, payload, signature⟩ = some encoded := by
  unfold signBundle
  split
  · exact .throw
  · refine .bind (any_gives _) ?_
    rintro (error | signature) _
    · exact .throw
    · refine .bind .failIf fun _ _ => .bind (any_gives _) ?_
      rintro (error | _) _
      · exact .throw
      · dsimp only
        split
        · exact .throw
        · rename_i encoded marshalled
          exact .bind .failIf fun _ _ => .pure ⟨signature, marshalled⟩

theorem build_gives {platform : Platform} {input : BuildInput} {signer : ReferenceSigner}
    {verifier : ReferenceVerifier} :
    Gives (build platform input signer verifier) fun encoded => ∃ payload signature,
      platform.bundle.marshal ⟨bundleFormat, payload, signature⟩ = some encoded ∧
      payload.capabilities = (input.capabilities.insertionSort fun left right =>
        left.key ≤ right.key).map fun entry => encodeEntry entry.key entry.capability := by
  unfold build
  refine .bind contextErr_gives fun _ _ => .bind .failIf fun _ _ => ?_
  refine .bind (.ofExcept fun _ _ => trivial) fun _ _ => .bind (any_gives _) fun _ _ => ?_
  refine .bind (any_gives _) fun time _ => .bind payloadFromInput_gives fun payload same => ?_
  refine signBundle_gives.weaken ?_
  rintro encoded ⟨signature, marshalled⟩
  exact ⟨payload, signature, marshalled, same⟩

theorem buildSnapshotBundle_gives {platform : Platform} {input : SnapshotBundleInput}
    {signer : ReferenceSigner} {verifier : ReferenceVerifier} :
    Gives (buildSnapshotBundle platform input signer verifier) fun encoded =>
      ∃ payload signature, ∃ entries : List ExactCapability,
        platform.bundle.marshal ⟨bundleFormat, payload, signature⟩ = some encoded ∧
        payload.capabilities = entries.map (fun entry => encodeEntry entry.key entry.capability) ∧
        entries.map (·.key) = input.closure.objectKeys ∧
        ∀ entry ∈ entries, Confined input.rootCapability entry.key entry.capability := by
  unfold buildSnapshotBundle
  refine .bind contextErr_gives fun _ _ => .bind (.ofExcept fun _ _ => trivial) fun _ _ => ?_
  refine .bind (.ofExcept fun _ _ => trivial) fun keyPrefix _ => .bind .failIf fun _ _ => ?_
  refine .bind (any_gives _) fun known _ => .bind (any_gives _) fun time _ => ?_
  refine .bind .failIf fun _ expiry => ?_
  simp only [not_or, not_not] at expiry
  refine .bind (any_gives _) fun _ _ => .bind .failIf fun _ _ => ?_
  refine .bind checkClosureKeys_gives fun _ sorted => ?_
  refine .bind (presignClosure_gives expiry.2.2.1) ?_
  rintro entries ⟨keys, confined⟩
  refine build_gives.weaken ?_
  rintro encoded ⟨payload, signature, marshalled, capabilities⟩
  have ordered : entries.Pairwise fun left right => left.key ≤ right.key := by
    have strict := sorted.1
    rw [← keys, List.pairwise_map] at strict
    exact strict.imp fun less => List.le_of_lt less
  rw [ordered.insertionSort_eq] at capabilities
  exact ⟨payload, signature, entries, marshalled, capabilities, keys, confined⟩

theorem newCapability_ok {platform : Platform} {material : CapabilityMaterial} {loopback : Bool}
    {time : Time} {provenance : CapabilityProvenance} {capability : Capability}
    (made : newCapability platform material loopback time provenance = .ok capability) :
    capability.exactKey = material.exactKey := by
  simp only [newCapability, bind_ok, failIf_ok] at made
  obtain ⟨_, _, _, _, url, _, headers, _, returned⟩ := made
  rw [← Except.ok.inj returned]

theorem decodeBundleEntry_ok {platform : Platform} {options : DecodeOptions}
    {keyPrefix previous : Bytes} {expiry time : Time} {entry : WireExactCapability}
    {capability : Capability}
    (decoded : decodeBundleEntry platform options keyPrefix expiry time previous entry =
      .ok capability) :
    (previous ≠ [] → previous < entry.key) ∧ entry.key ≠ [] ∧ ImmutableKey keyPrefix entry.key ∧
      capability.exactKey = entry.key ∧ capability.origin = options.rootCapability.origin ∧
      capability.expiresAt = expiry := by
  simp only [decodeBundleEntry, bind_ok, failIf_ok, mapError_ok] at decoded
  obtain ⟨_, sorted, _, valid, headers, _, made, created, _, origin, _, expires, returned⟩ := decoded
  obtain rfl := Except.ok.inj returned
  refine ⟨?_, (validateImmutableKey_ok valid).1, (validateImmutableKey_ok valid).2,
    newCapability_ok created, not_not.mp origin, not_not.mp expires⟩
  intro nonempty
  by_contra notLess
  exact sorted ⟨notLess, nonempty⟩

structure Decoded (options : DecodeOptions) (keyPrefix : Bytes) (expiry : Time)
    (keys : List Bytes) (map : CapabilityMap) : Prop where
  keys : ∀ key, key ∈ map ↔ key ∈ keys
  entries : ∀ key capability, map.lookup key = some capability → ImmutableKey keyPrefix key ∧
    capability.exactKey = key ∧ capability.origin = options.rootCapability.origin ∧
    capability.expiresAt = expiry

theorem Decoded.insert {options : DecodeOptions} {keyPrefix : Bytes} {expiry : Time}
    {keys : List Bytes} {map : CapabilityMap} {key : Bytes} {capability : Capability}
    (decoded : Decoded options keyPrefix expiry keys map)
    (entry : ImmutableKey keyPrefix key ∧ capability.exactKey = key ∧
      capability.origin = options.rootCapability.origin ∧ capability.expiresAt = expiry) :
    Decoded options keyPrefix expiry (keys ++ [key]) (map.insert key capability) := by
  constructor
  · intro found
    simp only [AList.mem_insert, decoded.keys, List.mem_append, List.mem_singleton]
    exact or_comm
  · intro found stored looked
    by_cases same : found = key
    · subst same
      rw [AList.lookup_insert] at looked
      obtain rfl := Option.some.inj looked
      exact entry
    · rw [AList.lookup_insert_ne same] at looked
      exact decoded.entries found stored looked

theorem decodeBundleEntries_gives {platform : Platform} {options : DecodeOptions}
    {keyPrefix previous : Bytes} {expiry time : Time} {index : Nat}
    {wires : List WireExactCapability} {keys : List Bytes} {map : CapabilityMap}
    (decoded : Decoded options keyPrefix expiry keys map) :
    Gives (decodeBundleEntries platform options keyPrefix expiry time index previous wires map)
      fun result => Decoded options keyPrefix expiry (keys ++ wires.map (·.key)) result ∧
        (wires.map (·.key)).Pairwise (· < ·) ∧
        (previous ≠ [] → ∀ wire ∈ wires, previous < wire.key) := by
  induction wires generalizing index previous keys map with
  | nil =>
      refine .pure ⟨by simpa using decoded, .nil, fun _ _ member => absurd member List.not_mem_nil⟩
  | cons wire rest ih =>
      refine .bind contextErrAt_gives fun _ _ => ?_
      refine .bind (.ofExcept fun capability made => decodeBundleEntry_ok made) ?_
      rintro capability ⟨above, nonempty, entry⟩
      refine (ih (decoded.insert entry)).weaken ?_
      rintro result ⟨final, sorted, later⟩
      refine ⟨by simpa using final, ?_, ?_⟩
      · simp only [List.map_cons, List.pairwise_cons, List.forall_mem_map]
        exact ⟨fun found member => later nonempty found member, sorted⟩
      · intro previousNonempty found member
        rcases List.mem_cons.mp member with rfl | member
        · exact above previousNonempty
        · exact List.lt_trans (above previousNonempty) (later nonempty found member)

theorem bundleFromPayload_gives {platform : Platform} {payload : BundlePayload}
    {options : DecodeOptions} {verifier : ReferenceVerifier} {time : Time} :
    Gives (bundleFromPayload platform payload options verifier time) fun bundle =>
      Decoded options (trimSlashes options.repositoryPrefix) options.rootCapability.expiresAt
        (payload.capabilities.map (·.key)) bundle.capabilities ∧
      (payload.capabilities.map (·.key)).Pairwise (· < ·) := by
  unfold bundleFromPayload
  refine .bind (.ofExcept fun _ _ => trivial) fun keyPrefix _ => .bind .failIf fun _ bound => ?_
  refine .bind .failIf fun _ _ => .bind .failIf fun _ expiry => ?_
  simp only [not_or, not_not] at bound expiry
  refine .bind (any_gives _) fun _ _ => .bind .failIf fun _ _ => ?_
  have none : Decoded options keyPrefix payload.authorizationExpiresAt.instant [] ∅ :=
    ⟨by simp, by simp⟩
  refine .bind (decodeBundleEntries_gives none) ?_
  rintro capabilities ⟨decoded, sorted, _⟩
  rw [bound.1, expiry.2.2.1] at decoded
  exact .pure ⟨by simpa using decoded, sorted⟩

theorem decodeEnvelope_gives {platform : Platform} {data : Bytes} :
    Gives (decodeEnvelope platform data) fun envelope =>
      platform.bundle.marshal envelope = some data := by
  unfold decodeEnvelope
  split
  · exact .throw
  · refine .bind contextErr_gives fun _ _ => .bind .failIf fun _ _ => ?_
    exact .bind .failIf fun _ canonical => .pure (not_not.mp canonical)

theorem decode_gives {platform : Platform} {data : Bytes} {verifier : ShareVerifier}
    {options : DecodeOptions} :
    Gives (decode platform data verifier options) fun bundle => ∃ envelope,
      platform.bundle.marshal envelope = some data ∧
      Decoded options (trimSlashes options.repositoryPrefix) options.rootCapability.expiresAt
        (envelope.payload.capabilities.map (·.key)) bundle.capabilities ∧
      (envelope.payload.capabilities.map (·.key)).Pairwise (· < ·) := by
  unfold decode
  refine .bind contextErr_gives fun _ _ => .bind .failIf fun _ _ => .bind .failIf fun _ _ => ?_
  refine .bind .failIf fun _ _ => .bind decodeEnvelope_gives fun envelope canonical => ?_
  refine .bind .failIf fun _ _ => .bind .failIf fun _ _ => ?_
  refine .bind (.ofExcept fun _ _ => trivial) fun _ _ => ?_
  split
  · exact .throw
  · refine .bind (any_gives _) ?_
    rintro (error | _) _
    · exact .throw
    · refine .bind (any_gives _) fun time _ => bundleFromPayload_gives.weaken ?_
      rintro bundle ⟨decoded, sorted⟩
      exact ⟨envelope, canonical, decoded, sorted⟩

end S3Disk.Share
