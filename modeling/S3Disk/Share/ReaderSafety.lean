import S3Disk.Library.Solo
import S3Disk.Share.Reader

/-! A reader over a whole sequence of offered bundles: it never goes back, keeps every
capability it ever accepted, and its accounting is exact. -/

namespace S3Disk.Share

open Concurrent Totals

def chargeOf (entry : Sigma fun _ : Bytes => Capability) : Nat :=
  (readerCapabilityCharge entry.1 entry.2).toOption.getD 0

theorem chargeOf_eq {key : Bytes} {capability : Capability} {charge : Nat}
    (charged : readerCapabilityCharge key capability = .ok charge) :
    chargeOf ⟨key, capability⟩ = charge := by
  simp [chargeOf, charged, Except.toOption]

def Charged (entry : Sigma fun _ : Bytes => Capability) : Prop :=
  ∃ charge, readerCapabilityCharge entry.1 entry.2 = .ok charge

theorem validateReaderCapabilities_gives
    {entries : List (Sigma fun _ : Bytes => Capability)} {index total : Nat} :
    Gives (validateReaderCapabilities entries index total) fun bytes =>
      (∀ entry ∈ entries, Charged entry) ∧ bytes = total + weigh chargeOf entries := by
  induction entries generalizing index total with
  | nil => exact .pure (by simp)
  | cons entry rest ih =>
      obtain ⟨key, capability⟩ := entry
      unfold validateReaderCapabilities
      refine .bind contextErrAt_gives fun _ _ => .bind .failIf fun _ _ => ?_
      dsimp only
      split
      · exact .throw
      · rename_i charge charged
        refine .bind .failIf fun _ _ => ih.weaken ?_
        rintro bytes ⟨chargeable, counted⟩
        constructor
        · simp only [List.forall_mem_cons]
          exact ⟨⟨charge, charged⟩, chargeable⟩
        · simp only [weigh_cons, chargeOf_eq charged]
          omega

structure Accounted (map : CapabilityMap) (bytes : Nat) : Prop where
  charged : ∀ entry ∈ map.entries, Charged entry
  exact : bytes = total chargeOf map

theorem accounted_empty : Accounted ∅ 0 := ⟨by simp, rfl⟩

section

variable {map : CapabilityMap} {bytes charge : Nat} {key : Bytes} {capability : Capability}

theorem Accounted.insert (accounted : Accounted map bytes) (fresh : key ∉ map)
    (charged : readerCapabilityCharge key capability = .ok charge) :
    Accounted (map.insert key capability) (bytes + charge) := by
  constructor
  · intro entry member
    rw [AList.entries_insert_of_notMem fresh] at member
    rcases List.mem_cons.mp member with rfl | earlier
    · exact ⟨charge, charged⟩
    · exact accounted.charged entry earlier
  · rw [total_insert fresh, chargeOf_eq charged, accounted.exact]

theorem Accounted.erase (accounted : Accounted map bytes)
    (found : map.lookup key = some capability)
    (charged : readerCapabilityCharge key capability = .ok charge) :
    Accounted (map.erase key) (bytes - charge) := by
  constructor
  · intro entry member
    have kept : entry ∈ map.entries := (List.kerase_sublist key map.entries).subset member
    exact accounted.charged entry kept
  · have split : total chargeOf (map.erase key) + chargeOf ⟨key, capability⟩ = total chargeOf map :=
      total_erase found
    rw [chargeOf_eq charged] at split
    have exact := accounted.exact
    omega

end

theorem copyRetained_gives {entries : List (Sigma fun _ : Bytes => Capability)} {index : Nat}
    {retained : CapabilityMap} {bytes : Nat} (distinct : (entries.map Sigma.fst).Nodup)
    (fresh : ∀ entry ∈ entries, entry.1 ∉ retained) (charged : ∀ entry ∈ entries, Charged entry)
    (accounted : Accounted retained bytes) :
    Gives (copyRetained entries index retained) fun copied =>
      (∀ key, key ∈ copied.2 ↔ key ∈ retained ∨ key ∈ entries.map Sigma.fst) ∧
        Accounted copied.2 (bytes + weigh chargeOf entries) := by
  induction entries generalizing index retained bytes with
  | nil => exact .pure ⟨by simp, by simpa using accounted⟩
  | cons entry rest ih =>
      obtain ⟨key, capability⟩ := entry
      unfold copyRetained
      refine .bind contextErrAt_gives fun _ _ => ?_
      obtain ⟨charge, charges⟩ := charged ⟨key, capability⟩ List.mem_cons_self
      obtain ⟨unused, distinctRest⟩ := List.nodup_cons.mp distinct
      have freshKey : key ∉ retained := fresh _ List.mem_cons_self
      have freshRest : ∀ entry ∈ rest, entry.1 ∉ retained.insert key capability := by
        intro entry member inserted
        rcases (AList.mem_insert retained).mp inserted with same | earlier
        · have found : entry.1 ∈ rest.map Sigma.fst := List.mem_map_of_mem member
          rw [same] at found
          exact unused found
        · exact fresh entry (List.mem_cons_of_mem _ member) earlier
      refine (ih distinctRest freshRest (fun entry member =>
        charged entry (List.mem_cons_of_mem _ member)) (accounted.insert freshKey charges)).weaken ?_
      rintro copied ⟨keys, exact⟩
      constructor
      · intro other
        rw [keys other, AList.mem_insert]
        simp only [List.map_cons, List.mem_cons]
        tauto
      · simp only [weigh_cons, chargeOf_eq charges]
        rw [← Nat.add_assoc]
        exact exact

theorem retainCurrent_gives {entries : List (Sigma fun _ : Bytes => Capability)} {index : Nat}
    {retained : CapabilityMap} {bytes : Nat} (accounted : Accounted retained bytes) :
    Gives (retainCurrent entries index retained bytes) fun grown =>
      (∀ key, key ∈ grown.2.1 ↔ key ∈ retained ∨ key ∈ entries.map Sigma.fst) ∧
        Accounted grown.2.1 grown.2.2 := by
  induction entries generalizing index retained bytes with
  | nil => exact .pure ⟨by simp, accounted⟩
  | cons entry rest ih =>
      obtain ⟨key, capability⟩ := entry
      unfold retainCurrent
      refine .bind contextErrAt_gives fun _ _ => ?_
      by_cases known : key ∈ retained
      · rw [if_pos known]
        refine (ih accounted).weaken ?_
        rintro grown ⟨keys, exact⟩
        refine ⟨?_, exact⟩
        intro other
        rw [keys other]
        simp only [List.map_cons, List.mem_cons]
        constructor
        · tauto
        · rintro (old | rfl | new)
          · exact .inl old
          · exact .inl known
          · exact .inr new
      · rw [if_neg known]
        dsimp only
        split
        · exact .throw
        · rename_i charge charges
          refine .bind .failIf fun _ _ => (ih (accounted.insert known charges)).weaken ?_
          rintro grown ⟨keys, exact⟩
          refine ⟨?_, exact⟩
          intro other
          rw [keys other, AList.mem_insert]
          simp only [List.map_cons, List.mem_cons]
          tauto

theorem releaseNext_gives {keys : List Bytes} {index : Nat} {retained : CapabilityMap} {bytes : Nat}
    (accounted : Accounted retained bytes) :
    Gives (releaseNext keys index retained bytes) fun released =>
      (∀ key, key ∈ released.1 ↔ key ∈ retained ∧ key ∉ keys) ∧
        Accounted released.1 released.2 := by
  induction keys generalizing index retained bytes with
  | nil => exact .pure ⟨by simp, accounted⟩
  | cons key rest ih =>
      unfold releaseNext
      refine .bind contextErrAt_gives fun _ _ => ?_
      split
      · rename_i missing
        refine (ih accounted).weaken ?_
        rintro released ⟨kept, exact⟩
        refine ⟨?_, exact⟩
        intro other
        rw [kept other]
        have absent : key ∉ retained := AList.lookup_eq_none.mp missing
        constructor
        · rintro ⟨member, outside⟩
          refine ⟨member, ?_⟩
          rintro inside
          rcases List.mem_cons.mp inside with rfl | later
          · exact absent member
          · exact outside later
        · rintro ⟨member, outside⟩
          exact ⟨member, fun later => outside (List.mem_cons_of_mem _ later)⟩
      · rename_i capability found
        dsimp only
        split
        · exact .throw
        · rename_i charge charges
          refine .bind .failIf fun _ _ => (ih (accounted.erase found charges)).weaken ?_
          rintro released ⟨kept, exact⟩
          refine ⟨?_, exact⟩
          intro other
          rw [kept other, AList.mem_erase]
          simp only [List.mem_cons, not_or]
          tauto

structure Installed (reader : Reader) (accepted : List Offer) (state : ReaderState) : Prop where
  retained : Accounted state.retainedCapabilities state.retainedCapabilityBytes
  started : state.current = none → accepted = [] ∧ state.retainedCapabilities = ∅
  newest : ∀ current ∈ state.current, ∃ offer ∈ accepted, ∃ bundle ∈ offer.bundle,
    ∃ bytes, current = revisionOf bundle offer.digest offer.rootVersion bytes
  charged : ∀ current ∈ state.current, Accounted current.capabilities current.capabilityBytes
  disjoint : ∀ current ∈ state.current, ∀ key ∈ state.retainedCapabilities,
    key ∉ current.capabilities
  counts : ∀ current ∈ state.current, size state.retainedCapabilities + size current.capabilities ≤
    reader.maxRetainedCapabilities
  bytes : ∀ current ∈ state.current, state.retainedCapabilityBytes + current.capabilityBytes ≤
    reader.maxRetainedCapabilityBytes
  resolves : ∀ offer ∈ accepted, ∀ bundle ∈ offer.bundle, ∀ key ∈ bundle.capabilities,
    (findCapability state key).isSome = true

theorem installed_new (reader : Reader) : Installed reader [] .new where
  retained := accounted_empty
  started _ := ⟨rfl, rfl⟩
  newest := by simp [ReaderState.new]
  charged := by simp [ReaderState.new]
  disjoint := by simp [ReaderState.new]
  counts := by simp [ReaderState.new]
  bytes := by simp [ReaderState.new]
  resolves := by simp

theorem findCapability_isSome {state : ReaderState} {key : Bytes} :
    (findCapability state key).isSome = true ↔
      (∃ current ∈ state.current, key ∈ current.capabilities) ∨ key ∈ state.retainedCapabilities := by
  cases selected : state.current with
  | none => simp [findCapability, selected, AList.lookup_isSome]
  | some current => simp [findCapability, selected, AList.lookup_isSome]

structure Forward (state : ReaderState) (offer : Offer) (next : ReaderState) : Prop where
  current : ∃ bundle ∈ offer.bundle, ∃ bytes,
    next.current = some (revisionOf bundle offer.digest offer.rootVersion bytes)
  revision : ∀ before ∈ state.current, ∀ after ∈ next.current, before.revision ≤ after.revision
  generation : ∀ before ∈ state.current, ∀ after ∈ next.current,
    before.generation ≤ after.generation
  digest : ∀ before ∈ state.current, ∀ after ∈ next.current,
    before.revision = after.revision → before.bundleDigest = after.bundleDigest

def Determined (offers : List Offer) : Prop :=
  ∀ left ∈ offers, ∀ right ∈ offers, left.digest = right.digest → left.bundle = right.bundle

section

variable {reader : Reader} {accepted : List Offer} {offer : Offer} {state : ReaderState}
  {bundle : Bundle} {capabilityBytes : Nat}

theorem Installed.first (installed : Installed reader accepted state) (none : state.current = none)
    (offered : offer.bundle = some bundle)
    (charged : Accounted bundle.capabilities capabilityBytes)
    (counts : size bundle.capabilities ≤ reader.maxRetainedCapabilities)
    (bytes : capabilityBytes ≤ reader.maxRetainedCapabilityBytes) :
    Installed reader (offer :: accepted) { state with
      current := some (revisionOf bundle offer.digest offer.rootVersion capabilityBytes) } := by
  obtain ⟨rfl, empty⟩ := installed.started none
  have zero : state.retainedCapabilityBytes = 0 := by
    rw [installed.retained.exact, empty]
    rfl
  refine ⟨installed.retained, nofun, ?_, ?_, ?_, ?_, ?_, ?_⟩
  · rintro current ⟨⟩
    exact ⟨offer, List.mem_cons_self, bundle, offered, capabilityBytes, rfl⟩
  · rintro current ⟨⟩
    exact charged
  · rintro current ⟨⟩ key member
    simp [empty] at member
  · rintro current ⟨⟩
    simpa [empty, revisionOf] using counts
  · rintro current ⟨⟩
    simpa [zero, revisionOf] using bytes
  · rintro accepted member found same key inside
    obtain rfl := List.mem_singleton.mp member
    rw [offered] at same
    obtain rfl := Option.some.inj same
    exact findCapability_isSome.mpr (.inl ⟨_, rfl, inside⟩)

theorem Installed.again (installed : Installed reader accepted state)
    (determined : Determined (offer :: accepted)) {current : ReaderRevision}
    (selected : state.current = some current) (offered : offer.bundle = some bundle)
    (digest : offer.digest = current.bundleDigest)
    (charged : Accounted bundle.capabilities capabilityBytes) :
    bundle.capabilities = current.capabilities ∧
    bundle.referenceGeneration = current.generation ∧
    Installed reader (offer :: accepted) { state with
      current := some (revisionOf bundle offer.digest offer.rootVersion capabilityBytes) } := by
  obtain ⟨earlier, member, known, stored, bytes, shape⟩ := installed.newest current selected
  have same : offer.bundle = earlier.bundle := by
    refine determined offer List.mem_cons_self earlier (List.mem_cons_of_mem _ member) ?_
    rw [digest, shape]
    rfl
  have equal : known = bundle := by
    rw [offered] at same
    exact Option.some.inj (stored.symm.trans same.symm)
  subst equal
  have capabilities : known.capabilities = current.capabilities := by rw [shape]; rfl
  have generation : known.referenceGeneration = current.generation := by rw [shape]; rfl
  have counted : capabilityBytes = current.capabilityBytes := by
    rw [charged.exact, (installed.charged current selected).exact, capabilities]
  refine ⟨capabilities, generation, installed.retained, nofun, ?_, ?_, ?_, ?_, ?_, ?_⟩
  · rintro next ⟨⟩
    exact ⟨offer, List.mem_cons_self, known, offered, capabilityBytes, rfl⟩
  · rintro next ⟨⟩
    exact charged
  · rintro next ⟨⟩ key inside
    show key ∉ known.capabilities
    rw [capabilities]
    exact installed.disjoint current selected key inside
  · rintro next ⟨⟩
    show _ + size known.capabilities ≤ _
    rw [capabilities]
    exact installed.counts current selected
  · rintro next ⟨⟩
    show _ + capabilityBytes ≤ _
    rw [counted]
    exact installed.bytes current selected
  · intro old member' found stored' key inside
    have before : (findCapability state key).isSome = true := by
      rcases List.mem_cons.mp member' with rfl | older
      · rw [offered] at stored'
        obtain rfl := Option.some.inj stored'
        exact installed.resolves earlier member known stored key inside
      · exact installed.resolves old older found stored' key inside
    rcases findCapability_isSome.mp before with ⟨view, picked, has⟩ | kept
    · rw [selected] at picked
      obtain rfl := Option.some.inj picked
      refine findCapability_isSome.mpr (.inl ⟨_, rfl, ?_⟩)
      show key ∈ known.capabilities
      rw [capabilities]
      exact has
    · exact findCapability_isSome.mpr (.inr kept)

theorem Installed.advance (installed : Installed reader accepted state) {current : ReaderRevision}
    (selected : state.current = some current) (offered : offer.bundle = some bundle)
    (charged : Accounted bundle.capabilities capabilityBytes) {retained : CapabilityMap}
    {retainedBytes : Nat} (accounted : Accounted retained retainedBytes)
    (keys : ∀ key, key ∈ retained ↔
      (key ∈ state.retainedCapabilities ∨ key ∈ current.capabilities) ∧ key ∉ bundle.capabilities)
    (counts : size retained + size bundle.capabilities ≤ reader.maxRetainedCapabilities)
    (bytes : retainedBytes + capabilityBytes ≤ reader.maxRetainedCapabilityBytes) :
    Installed reader (offer :: accepted)
      ⟨some (revisionOf bundle offer.digest offer.rootVersion capabilityBytes), retained,
        retainedBytes⟩ := by
  refine ⟨accounted, nofun, ?_, ?_, ?_, ?_, ?_, ?_⟩
  · rintro next ⟨⟩
    exact ⟨offer, List.mem_cons_self, bundle, offered, capabilityBytes, rfl⟩
  · rintro next ⟨⟩
    exact charged
  · rintro next ⟨⟩ key inside
    exact ((keys key).mp inside).2
  · rintro next ⟨⟩
    exact counts
  · rintro next ⟨⟩
    exact bytes
  · intro old member found stored key inside
    by_cases new : key ∈ bundle.capabilities
    · exact findCapability_isSome.mpr (.inl ⟨_, rfl, new⟩)
    · rcases List.mem_cons.mp member with rfl | older
      · rw [offered] at stored
        obtain rfl := Option.some.inj stored
        exact absurd inside new
      · have before := findCapability_isSome.mp (installed.resolves old older found stored key inside)
        refine findCapability_isSome.mpr (.inr ((keys key).mpr ⟨?_, new⟩))
        rcases before with ⟨view, picked, has⟩ | kept
        · rw [selected] at picked
          obtain rfl := Option.some.inj picked
          exact .inr has
        · exact .inl kept

theorem retainUnion_gives (installed : Installed reader accepted state) {current next : ReaderRevision} :
    Gives (retainUnion state current next) fun union =>
      (∀ key, key ∈ union.1 ↔
        (key ∈ state.retainedCapabilities ∨ key ∈ current.capabilities) ∧ key ∉ next.capabilities) ∧
      Accounted union.1 union.2 := by
  unfold retainUnion
  refine .bind (copyRetained_gives state.retainedCapabilities.keys_nodup
    (fun _ _ => AList.notMem_empty _) installed.retained.charged accounted_empty) ?_
  rintro ⟨index, retained⟩ ⟨first, accounted⟩
  have exact : Accounted retained state.retainedCapabilityBytes := by
    rw [installed.retained.exact]
    simpa [total] using accounted
  refine .bind (retainCurrent_gives exact) ?_
  rintro ⟨index, grown, bytes⟩ ⟨second, grownExact⟩
  refine (releaseNext_gives grownExact).weaken ?_
  rintro ⟨union, unionBytes⟩ ⟨third, unionExact⟩
  refine ⟨?_, unionExact⟩
  intro key
  rw [third key, second key, first key]
  simp only [AList.notMem_empty, false_or]
  rfl

abbrev unwatched : Law ShareRequest ShareAnswer Unit Empty := solo fun _ _ => True

theorem gives_runs {α : Type} {program : Sharing α} {post : α → Prop}
    {log : SoloLog ShareRequest ShareAnswer} (gives : Gives program post)
    (valid : Valid unwatched log) :
    (liftM program : Reading α).Runs unwatched soloAgent state log
      (fun value changed _ => post value ∧ changed = state) (fun _ changed _ => changed = state) := by
  have ensures : (liftM program : Reading α).Ensures (fun _ => True) id post := .lift gives
  refine (Action.Runs.ofEnsures ensures (fun _ _ _ _ _ _ => trivial) valid).weaken valid ?_ ?_
  · rintro value changed later _ _ ⟨holds, same, _⟩
    exact ⟨holds, same⟩
  · rintro error changed later _ _ ⟨same, _⟩
    exact same

theorem checkSuccession_ok {current next : ReaderRevision}
    (checked : checkSuccession current next = .ok ()) : current.generation ≤ next.generation := by
  unfold checkSuccession at checked
  split at checked
  · cases checked
  · omega

theorem installBundle_runs {log : SoloLog ShareRequest ShareAnswer}
    (valid : Valid unwatched log) (installed : Installed reader accepted state)
    (determined : Determined (offer :: accepted)) :
    (installBundle reader offer).Runs unwatched soloAgent state log
      (fun _ next _ => Installed reader (offer :: accepted) next ∧ Forward state offer next)
      (fun _ next _ => next = state) := by
  unfold installBundle
  have context : Gives contextErr fun _ => True := .request trivial fun _ _ _ => trivial
  refine (gives_runs context valid).bind valid ?_
  rintro _ _ first _ firstValid ⟨_, rfl⟩
  cases offered : offer.bundle with
  | none => rfl
  | some bundle =>
      refine (gives_runs validateReaderCapabilities_gives firstValid).bind firstValid ?_
      rintro capabilityBytes started second _ secondValid ⟨⟨chargeable, counted⟩, rfl⟩
      have charged : Accounted bundle.capabilities capabilityBytes := by
        refine ⟨chargeable, ?_⟩
        rw [counted]
        simp [total]
      refine .failIf (fun _ => rfl) fun fits => ?_
      refine .get ?_
      cases selected : started.current with
      | none =>
          refine ⟨?_, ?_⟩
          · exact installed.first selected offered charged (by omega) (by omega)
          · refine ⟨⟨bundle, offered, capabilityBytes, rfl⟩, ?_, ?_, ?_⟩
            all_goals
              intro before chosen
              rw [selected] at chosen
              cases chosen
      | some current =>
          refine .failIf (fun _ => rfl) fun ahead => ?_
          split
          · rename_i same
            refine .failIf (fun _ => rfl) fun digest => ?_
            have equal : offer.digest = current.bundleDigest := not_not.mp digest
            obtain ⟨_, generation, again⟩ :=
              installed.again determined selected offered equal charged
            refine ⟨again, ⟨bundle, offered, capabilityBytes, rfl⟩, ?_, ?_, ?_⟩
            · rintro before chosen after ⟨⟩
              rw [selected] at chosen
              obtain rfl := Option.some.inj chosen
              exact same.ge
            · rintro before chosen after ⟨⟩
              rw [selected] at chosen
              obtain rfl := Option.some.inj chosen
              exact generation.ge
            · rintro before chosen after ⟨⟩ _
              rw [selected] at chosen
              obtain rfl := Option.some.inj chosen
              exact equal.symm
          · rename_i different
            unfold advanceRevision
            refine .ofExcept (fun _ _ => rfl) fun _ checked => ?_
            refine .get ?_
            refine (gives_runs (retainUnion_gives installed) secondValid).bind secondValid ?_
            rintro ⟨retained, retainedBytes⟩ _ third _ _ ⟨⟨keys, accounted⟩, rfl⟩
            refine .failIf (fun _ => rfl) fun within => ?_
            refine ⟨?_, ?_⟩
            · refine installed.advance selected offered charged accounted keys ?_ ?_
              · have bound := not_or.mp (not_or.mp (not_or.mp within).2).2
                have first := (not_or.mp within).1
                have limit : size bundle.capabilities ≤
                    reader.maxRetainedCapabilities - size retained := by
                  simpa [revisionOf] using bound.1
                omega
              · have bound := not_or.mp (not_or.mp (not_or.mp within).2).2
                have first := (not_or.mp (not_or.mp within).2).1
                have limit : capabilityBytes ≤
                    reader.maxRetainedCapabilityBytes - retainedBytes := by
                  simpa [revisionOf] using bound.2
                omega
            · refine ⟨⟨bundle, offered, capabilityBytes, rfl⟩, ?_, ?_, ?_⟩
              · rintro before chosen after ⟨⟩
                rw [selected] at chosen
                obtain rfl := Option.some.inj chosen
                omega
              · rintro before chosen after ⟨⟩
                rw [selected] at chosen
                obtain rfl := Option.some.inj chosen
                exact checkSuccession_ok checked
              · rintro before chosen after ⟨⟩ equal
                rw [selected] at chosen
                obtain rfl := Option.some.inj chosen
                exact absurd equal.symm different

end

inductive Offered (reader : Reader) : List (Offer × Except Err Unit) → ReaderState → Prop
  | new : Offered reader [] .new
  | install {past state history result next} (before : Offered reader past state) (offer : Offer)
      (reached : (installBundle reader offer state).Reaches history (.done (result, next))) :
      Offered reader ((offer, result) :: past) next

def acceptedOf : List (Offer × Except Err Unit) → List Offer
  | [] => []
  | (offer, .ok ()) :: past => offer :: acceptedOf past
  | (_, .error _) :: past => acceptedOf past

theorem acceptedOf_subset {past : List (Offer × Except Err Unit)} {offer : Offer}
    (member : offer ∈ acceptedOf past) : offer ∈ past.map Prod.fst := by
  induction past with
  | nil => exact absurd member List.not_mem_nil
  | cons call past ih =>
      obtain ⟨other, result⟩ := call
      rw [List.map_cons]
      cases result with
      | error error => exact List.mem_cons_of_mem _ (ih member)
      | ok value =>
          rcases List.mem_cons.mp member with rfl | earlier
          · exact List.mem_cons_self
          · exact List.mem_cons_of_mem _ (ih earlier)

theorem Determined.mono {offers others : List Offer} (determined : Determined offers)
    (included : ∀ offer ∈ others, offer ∈ offers) : Determined others :=
  fun left leftIn right rightIn => determined left (included left leftIn) right
    (included right rightIn)

section

variable {reader : Reader} {past : List (Offer × Except Err Unit)} {state next : ReaderState}
  {offer : Offer} {result : Except Err Unit} {history : List (Exchange ShareRequest ShareAnswer)}

theorem install_step (installed : Installed reader (acceptedOf past) state)
    (determined : Determined (offer :: past.map Prod.fst))
    (reached : (installBundle reader offer state).Reaches history (.done (result, next))) :
    Installed reader (acceptedOf ((offer, result) :: past)) next ∧
      (∀ error, result = .error error → next = state) ∧
      (result = .ok () → Forward state offer next) := by
  have known : Determined (offer :: acceptedOf past) := by
    refine determined.mono ?_
    intro other member
    rcases List.mem_cons.mp member with rfl | earlier
    · exact List.mem_cons_self
    · exact List.mem_cons_of_mem _ (acceptedOf_subset earlier)
  obtain ⟨log, _, _, safe⟩ := reached.safe (installBundle_runs trivial installed known)
  cases result with
  | error error =>
      have same : next = state := safe
      refine ⟨?_, fun _ _ => same, nofun⟩
      rw [same]
      exact installed
  | ok value => exact ⟨safe.1, nofun, fun _ => safe.2⟩

theorem Offered.installed (offered : Offered reader past state)
    (determined : Determined (past.map Prod.fst)) : Installed reader (acceptedOf past) state := by
  induction offered with
  | new => exact installed_new reader
  | install _ offer reached ih =>
      have earlier := ih (determined.mono fun _ member => List.mem_cons_of_mem _ member)
      exact (install_step earlier determined reached).1

/-- Whatever bundles were offered before: after one more call the reader's state is sound for
everything it accepted, a call that fails changes nothing, and one that succeeds moves forward. -/
theorem reader_installations (offered : Offered reader past state)
    (determined : Determined (offer :: past.map Prod.fst))
    (reached : (installBundle reader offer state).Reaches history (.done (result, next))) :
    Installed reader (acceptedOf ((offer, result) :: past)) next ∧
      (∀ error, result = .error error → next = state) ∧
      (result = .ok () → Forward state offer next) :=
  install_step (offered.installed (determined.mono fun _ member => List.mem_cons_of_mem _ member))
    determined reached

end

section

def oneObject (revision : Nat) (key : Bytes) : Bundle :=
  { repositoryPrefix := []
    referenceKey := []
    shareID := ⟨[1]⟩
    revision
    referenceGeneration := revision
    referenceCommit := ⟨[1]⟩
    reference := ⟨[], ⟨[], []⟩⟩
    authorizationExpiresAt := 0
    capabilities := AList.singleton key ⟨[104], [], 0, [], key, .authenticatedBundle⟩ }

def offerOne (revision : Nat) (key : Bytes) : Offer :=
  ⟨some (oneObject revision key), ⟨[UInt8.ofNat revision]⟩, ⟨[UInt8.ofNat revision], []⟩⟩

def smallReader : Reader := ⟨8, 4096, by decide, by decide⟩

def uncancelled : (op : ShareRequest) → Option (ShareAnswer op)
  | .contextErr => some none
  | _ => none

theorem reader_installations_two : ∃ history next,
    (installBundle smallReader (offerOne 2 [50])
      { ReaderState.new with current := some (revisionOf (oneObject 1 [49]) ⟨[1]⟩ ⟨[1], []⟩ 258) }).Reaches
      history (.done (.ok (), next)) ∧ (findCapability next [49]).isSome = true ∧
    next.retainedCapabilityBytes = 258 := by
  have first : Offered smallReader [(offerOne 1 [49], .ok ())]
      { ReaderState.new with current := some (revisionOf (oneObject 1 [49]) ⟨[1]⟩ ⟨[1], []⟩ 258) } :=
    .install .new _ (Program.replay_reaches uncancelled .start)
  have reached := Program.replay_reaches uncancelled
    (.start : (installBundle smallReader (offerOne 2 [50])
      { ReaderState.new with
        current := some (revisionOf (oneObject 1 [49]) ⟨[1]⟩ ⟨[1], []⟩ 258) }).Reaches [] _)
  have determined : Determined [offerOne 2 [50], offerOne 1 [49]] := by
    intro left leftIn right rightIn same
    simp only [List.mem_cons, List.not_mem_nil, or_false] at leftIn rightIn
    rcases leftIn with rfl | rfl <;> rcases rightIn with rfl | rfl
    · rfl
    · exact absurd same (by decide)
    · exact absurd same (by decide)
    · rfl
  obtain ⟨installed, _, _⟩ := reader_installations first determined reached
  refine ⟨_, _, reached, ?_, rfl⟩
  exact installed.resolves (offerOne 1 [49]) (by simp [acceptedOf]) _ rfl [49] (by decide)

end

end S3Disk.Share
