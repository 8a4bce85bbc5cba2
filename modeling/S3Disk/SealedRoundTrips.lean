import Mathlib.Data.FinEnum
import Mathlib.Data.Fintype.BigOperators
import Mathlib.Data.Fintype.Vector
import S3Disk.FileRoundTrips
import S3Disk.Library.Histories

/-! The sealed state file: what a swap installs is read in one way and opened again, the search
for an envelope of the announced length ends, and a file under another header or another
binding is not opened. -/

namespace S3Disk.LocalState

open Concurrent
open Volume (History)

theorem length_encodeSealedStatePrefix {revision : Digest} {length : Nat}
    (stamps : revision.bytes.length = 32) :
    (encodeSealedStatePrefix revision length).length = sealedStateHeaderBytes := by
  simp [encodeSealedStatePrefix, sealedStateMagic, bigEndian64, sealedStateHeaderBytes, stamps]

theorem parseSealedStateFile_bounds {data header envelope : Bytes} {revision : Digest}
    {maximum : Nat}
    (parsed : parseSealedStateFile data maximum = .ok (header, revision, envelope)) :
    Stamps revision ∧ 1 ≤ envelope.length ∧ envelope.length ≤ maximum ∧
      header.length = sealedStateHeaderBytes := by
  obtain ⟨_, long, parsed⟩ := bind_ok.mp parsed
  obtain ⟨_, _, parsed⟩ := bind_ok.mp parsed
  obtain ⟨_, bounds, parsed⟩ := bind_ok.mp parsed
  obtain ⟨_, sized, parsed⟩ := bind_ok.mp parsed
  obtain ⟨_, _, parsed⟩ := bind_ok.mp parsed
  have long := failIf_ok.mp long
  have bounds := failIf_ok.mp bounds
  have sized := not_not.mp (failIf_ok.mp sized)
  cases parsed
  simp only [not_or, not_lt, Bool.not_eq_true] at bounds
  unfold sealedStateHeaderBytes at long sized
  refine ⟨⟨?_, bounds.1⟩, ?_, ?_, ?_⟩
  · simp only [List.length_take, List.length_drop]
    omega
  · simp only [List.length_drop, sealedStateHeaderBytes]
    omega
  · simp only [List.length_drop, sealedStateHeaderBytes]
    omega
  · simp only [List.length_take, sealedStateHeaderBytes]
    omega

theorem parseSealedStateFile_encoded {revision : Digest} {envelope : Bytes} {maximum : Nat}
    (stamps : Stamps revision) (filled : 1 ≤ envelope.length) (fits : envelope.length ≤ maximum)
    (limited : maximum ≤ fileSealedStateMaxEnvelopeBytesLimit) :
    parseSealedStateFile (encodeSealedStatePrefix revision envelope.length ++ envelope) maximum =
      .ok (encodeSealedStatePrefix revision envelope.length, revision, envelope) := by
  have sized := @length_encodeSealedStatePrefix revision envelope.length stamps.1
  -- The fields of the header stand at fixed places.
  have layout : encodeSealedStatePrefix revision envelope.length ++ envelope = sealedStateMagic ++
      ([0, 1] ++ ([0, 0] ++ (revision.bytes ++ (bigEndian64 envelope.length ++ envelope)))) := by
    simp only [encodeSealedStatePrefix, List.append_assoc]
  have revisionPart : ((encodeSealedStatePrefix revision envelope.length ++ envelope).drop 12).take
      32 = revision.bytes := by
    rw [layout, ← stamps.1]
    exact List.take_left
  have lengthPart : ofBigEndian (((encodeSealedStatePrefix revision envelope.length ++
      envelope).drop 44).take 8) = envelope.length := by
    rw [layout, show (44 : Nat) = 12 + revision.bytes.length by rw [stamps.1], ← List.drop_drop]
    change ofBigEndian (((revision.bytes ++ (bigEndian64 envelope.length ++ envelope)).drop
      revision.bytes.length).take 8) = envelope.length
    rw [List.drop_left]
    refine ofBigEndian_bigEndian64 ?_
    unfold fileSealedStateMaxEnvelopeBytesLimit at limited
    omega
  have front : (encodeSealedStatePrefix revision envelope.length ++ envelope).take
      sealedStateHeaderBytes = encodeSealedStatePrefix revision envelope.length := by
    rw [← sized]
    exact List.take_left
  have back : (encodeSealedStatePrefix revision envelope.length ++ envelope).drop
      sealedStateHeaderBytes = envelope := by
    rw [← sized]
    exact List.drop_left
  have total : (encodeSealedStatePrefix revision envelope.length ++ envelope).length =
      sealedStateHeaderBytes + envelope.length := by
    rw [List.length_append, sized]
  refine bind_ok.mpr ⟨(), failIf_ok.mpr ?_, bind_ok.mpr ⟨(), failIf_ok.mpr ?_, ?_⟩⟩
  · rw [total]
    omega
  · rw [layout]
    rintro (magic | version | reserved)
    · exact magic rfl
    · exact version rfl
    · exact reserved rfl
  dsimp only
  rw [revisionPart, lengthPart, front, back, total]
  refine bind_ok.mpr ⟨(), failIf_ok.mpr ?_, bind_ok.mpr ⟨(), failIf_ok.mpr ?_,
    bind_ok.mpr ⟨(), failIf_ok.mpr ?_, rfl⟩⟩⟩
  · simp only [not_or, not_lt, Bool.not_eq_true]
    exact ⟨stamps.2, filled, fits⟩
  · omega
  · simp

theorem parseSealedStateFile_unique {data : Bytes} {maximum other : Nat}
    {first second : Bytes × Digest × Bytes}
    (parsed : parseSealedStateFile data maximum = .ok first)
    (again : parseSealedStateFile data other = .ok second) : first = second := by
  obtain ⟨header, revision, envelope⟩ := first
  obtain ⟨header', revision', envelope'⟩ := second
  obtain ⟨_, _, parsed⟩ := bind_ok.mp parsed
  obtain ⟨_, _, parsed⟩ := bind_ok.mp parsed
  obtain ⟨_, _, parsed⟩ := bind_ok.mp parsed
  obtain ⟨_, _, parsed⟩ := bind_ok.mp parsed
  obtain ⟨_, _, parsed⟩ := bind_ok.mp parsed
  obtain ⟨_, _, again⟩ := bind_ok.mp again
  obtain ⟨_, _, again⟩ := bind_ok.mp again
  obtain ⟨_, _, again⟩ := bind_ok.mp again
  obtain ⟨_, _, again⟩ := bind_ok.mp again
  obtain ⟨_, _, again⟩ := bind_ok.mp again
  exact Except.ok.inj (parsed.symm.trans again)

theorem sealedStateBindingInput_injective {caller caller' header header' : Bytes}
    (sized : header.length = header'.length)
    (same : sealedStateBindingInput caller header = sealedStateBindingInput caller' header') :
    caller = caller' ∧ header = header' := by
  obtain ⟨front, headers⟩ := List.append_inj' same sized
  obtain ⟨front, _⟩ := List.append_inj' front rfl
  rw [List.append_assoc, List.append_assoc] at front
  have callers := (List.append_cancel_left front)
  exact ⟨(List.append_inj callers rfl).2, headers⟩

/-- What is asked of a protector: `Open` gives back what `Seal` was given under the same
binding, and nothing under another one. -/
structure Protects (seals : Bytes → Bytes → Bytes → Prop)
    (opens : Bytes → Bytes → Option Bytes) : Prop where
  inverts : ∀ binding plaintext envelope, seals binding plaintext envelope →
    opens binding envelope = some plaintext
  rejects : ∀ binding other plaintext envelope, seals binding plaintext envelope →
    other ≠ binding → opens other envelope = none

/-- An envelope that was sealed for one caller and header stands under another header or is
read for another caller. -/
def Tampered (sha256 : Bytes → Bytes) (seals : Bytes → Bytes → Bytes → Prop)
    (store : FileSealedStateStore) (data : Bytes) : Prop :=
  ∃ caller header changed plaintext envelope, header.length = sealedStateHeaderBytes ∧
    changed.length = sealedStateHeaderBytes ∧ data = changed ++ envelope ∧
    seals (sha256 (sealedStateBindingInput caller header)) plaintext envelope ∧
    (changed ≠ header ∨ store.binding ≠ caller)

theorem not_tampered {sha256 : Bytes → Bytes} {seals : Bytes → Bytes → Bytes → Prop}
    {store : FileSealedStateStore} {plaintext data : Bytes} {revision : Digest}
    (collisionFree : Function.Injective sha256) (protects : Protects seals store.opens)
    (reads : ReadsSealed sha256 store plaintext revision data) :
    ¬Tampered sha256 seals store data := by
  rintro ⟨caller, header, changed, original, envelope, sized, sized', rfl, sealed, differs⟩
  obtain ⟨_, found, rest, parsed, opens⟩ := reads
  have length := (parseSealedStateFile_bounds parsed).2.2.2
  have split := (parseSealedStateFile_ok parsed).2
  obtain ⟨rfl, rfl⟩ := List.append_inj split (sized'.trans length.symm)
  have other : store.protectorBinding sha256 changed ≠
      sha256 (sealedStateBindingInput caller header) := by
    intro same
    have inputs := collisionFree same
    obtain ⟨callers, headers⟩ := sealedStateBindingInput_injective (sized'.trans sized.symm) inputs
    rcases differs with differs | differs
    · exact differs headers
    · exact differs callers
  rw [protects.rejects _ _ _ _ sealed other] at opens
  cases opens

/-! Sealing until the length fits its header. -/

def Protected (seals : Bytes → Bytes → Bytes → Prop) (store : FileSealedStateStore)
    (alive : Bool) : Exchange FileRequest FileAnswer → Prop
  | ⟨.contextErr, answer⟩ => alive = true → answer = none
  | ⟨.sealEnvelope binding plaintext, answer⟩ =>
      (∀ envelope, answer = .ok envelope → seals binding plaintext envelope) ∧
      (alive = true → ∃ envelope, answer = .ok envelope)
  | ⟨.openEnvelope binding envelope, answer⟩ =>
      (∀ plaintext, answer = .ok plaintext → store.opens binding envelope = some plaintext) ∧
      (alive = true → ∀ plaintext, store.opens binding envelope = some plaintext →
        answer = .ok plaintext)
  | _ => True

section Sealing

variable {sha256 : Bytes → Bytes} {seals : Bytes → Bytes → Bytes → Prop}
  {store : FileSealedStateStore} {alive : Bool} {revision : Digest} {plaintext : Bytes}

theorem labelled_settles {α : Type} {fits : Exchange FileRequest FileAnswer → Prop}
    {label : List Fragment} {step : Filing α} {post : α → Prop}
    (settles : step.Settles fits fun result => ∀ value, result = .ok value → post value) :
    (Filing.labelled label step).Settles fits fun result => ∀ value, result = .ok value →
      post value := by
  refine .bind (.attempt settles) ?_ ?_
  · rintro error ⟨_, impossible, _⟩
    cases impossible
  · rintro (error | value) ⟨_, ⟨⟩, holds⟩
    · exact .throw fun _ impossible => by cases impossible
    · refine .pure fun _ same => ?_
      cases same
      exact holds value rfl

theorem labelled_succeeds {α : Type} {fits : Exchange FileRequest FileAnswer → Prop}
    {label : List Fragment} {step : Filing α} {post : α → Prop}
    (succeeds : step.Succeeds fits post) : (Filing.labelled label step).Succeeds fits post := by
  refine .bind (.attempt succeeds) ?_
  rintro result ⟨value, rfl, holds⟩
  exact .pure holds

theorem sealForRevision_settles {attempts length : Nat} :
    (store.sealForRevision sha256 revision plaintext attempts length).Settles
      (Protected seals store alive) fun result => ∀ parts : Bytes × Bytes, result = .ok parts →
        parts.1 = encodeSealedStatePrefix revision parts.2.length ∧
        1 ≤ parts.2.length ∧ parts.2.length ≤ store.maxEnvelopeBytes ∧
        seals (store.protectorBinding sha256 parts.1) plaintext parts.2 := by
  induction attempts generalizing length with
  | zero => exact .throw fun _ impossible => by cases impossible
  | succ attempts ih =>
      have context : Filing.contextErr.Settles (Protected seals store alive) fun _ => True :=
        .request fun _ _ => trivial
      refine .bind context (fun _ _ _ impossible => by cases impossible) fun _ _ => ?_
      have sealing : (Filing.protectorSeal (store.protectorBinding sha256
          (encodeSealedStatePrefix revision length)) plaintext).Settles
          (Protected seals store alive) fun result => ∀ envelope, result = .ok envelope →
            seals (store.protectorBinding sha256 (encodeSealedStatePrefix revision length)) plaintext
              envelope :=
        .request fun _ fits => fits.1
      refine .bind (labelled_settles sealing) (fun _ _ _ impossible => by cases impossible)
        fun envelope sealed => ?_
      refine .failIf (fun _ _ impossible => by cases impossible) fun bounds => ?_
      split
      · exact ih
      · rename_i settled
        have exactly : envelope.length = length := not_not.mp settled
        have opening : (Filing.labelled ["s3disk: self-check sealed state envelope"]
            (Filing.protectorOpen (store.protectorBinding sha256
              (encodeSealedStatePrefix revision length)) envelope)).Settles
            (Protected seals store alive) fun result => ∀ value, result = .ok value → True :=
          labelled_settles (.request fun _ _ _ _ => trivial)
        refine .bind opening (fun _ _ _ impossible => by cases impossible) fun opened _ => ?_
        refine .failIf (fun _ _ impossible => by cases impossible) fun _ => ?_
        refine .failIf (fun _ _ impossible => by cases impossible) fun _ => ?_
        refine .bind context (fun _ _ _ impossible => by cases impossible) fun _ _ => ?_
        refine .pure fun parts same => ?_
        cases same
        dsimp only
        exact ⟨by rw [exactly], by omega, by omega, sealed envelope rfl⟩

theorem sealForRevision_last {attempts length : Nat}
    (inverts : ∀ binding plaintext envelope, seals binding plaintext envelope →
      store.opens binding envelope = some plaintext)
    (small : plaintext.length ≤ store.maxEnvelopeBytes)
    (filled : 1 ≤ length) (fits : length ≤ store.maxEnvelopeBytes)
    (uniform : ∀ binding envelope, seals binding plaintext envelope → envelope.length = length) :
    (store.sealForRevision sha256 revision plaintext (attempts + 1) length).Succeeds
      (Protected seals store true) fun _ => True := by
  have context : Filing.contextErr.Succeeds (Protected seals store true) fun _ => True := by
    refine .request fun answer live => ⟨(), ?_, trivial⟩
    rw [show answer = none from live rfl]
  refine .bind context fun _ _ => ?_
  have sealing : (Filing.protectorSeal (store.protectorBinding sha256
      (encodeSealedStatePrefix revision length)) plaintext).Succeeds (Protected seals store true)
      fun envelope => seals (store.protectorBinding sha256
        (encodeSealedStatePrefix revision length)) plaintext envelope := by
    refine .request fun answer answered => ?_
    obtain ⟨envelope, same⟩ := answered.2 rfl
    exact ⟨envelope, same, answered.1 envelope same⟩
  refine .bind (labelled_succeeds sealing) fun envelope sealed => ?_
  have exactly := uniform _ envelope sealed
  refine .bind (.failIf (by omega)) fun _ _ => ?_
  rw [if_neg (not_not.mpr exactly)]
  have opening : (Filing.protectorOpen (store.protectorBinding sha256
      (encodeSealedStatePrefix revision length)) envelope).Succeeds (Protected seals store true)
      fun opened => opened = plaintext := by
    refine .request fun answer answered => ?_
    exact ⟨plaintext, answered.2 rfl plaintext (inverts _ _ _ sealed), rfl⟩
  refine .bind (labelled_succeeds opening) fun opened same => ?_
  subst same
  refine .bind (.failIf (by omega)) fun _ _ => ?_
  refine .bind (.failIf (by simp)) fun _ _ => ?_
  refine .bind context fun _ _ => ?_
  exact .pure trivial

theorem sealForRevision_second {attempts first length : Nat}
    (inverts : ∀ binding plaintext envelope, seals binding plaintext envelope →
      store.opens binding envelope = some plaintext)
    (small : plaintext.length ≤ store.maxEnvelopeBytes)
    (filled : 1 ≤ length) (fits : length ≤ store.maxEnvelopeBytes)
    (uniform : ∀ binding envelope, seals binding plaintext envelope → envelope.length = length) :
    (store.sealForRevision sha256 revision plaintext (attempts + 2) first).Succeeds
      (Protected seals store true) fun _ => True := by
  by_cases lucky : first = length
  · subst lucky
    exact sealForRevision_last inverts small filled fits uniform
  have context : Filing.contextErr.Succeeds (Protected seals store true) fun _ => True := by
    refine .request fun answer live => ⟨(), ?_, trivial⟩
    rw [show answer = none from live rfl]
  refine .bind context fun _ _ => ?_
  have sealing : (Filing.protectorSeal (store.protectorBinding sha256
      (encodeSealedStatePrefix revision first)) plaintext).Succeeds (Protected seals store true)
      fun envelope => envelope.length = length := by
    refine .request fun answer answered => ?_
    obtain ⟨envelope, same⟩ := answered.2 rfl
    exact ⟨envelope, same, uniform _ envelope (answered.1 envelope same)⟩
  refine .bind (labelled_succeeds sealing) fun envelope exactly => ?_
  refine .bind (.failIf (by omega)) fun _ _ => ?_
  rw [if_pos (by omega), exactly]
  exact sealForRevision_last inverts small filled fits uniform

end Sealing

theorem length_le_of_lossless {α : Type} [Fintype α] [Nontrivial α]
    {code : List α → List α → Prop} {decode : List α → Option (List α)} {short long : Nat}
    (total : ∀ word : List α, word.length = long → ∃ coded, code word coded)
    (sized : ∀ word coded : List α, word.length = long → code word coded → coded.length = short)
    (lossless : ∀ word coded, code word coded → decode coded = some word) : long ≤ short := by
  choose! coded codes using total
  let shrink : List.Vector α long → List.Vector α short := fun word =>
    ⟨coded word.val, sized word.val _ word.property (codes _ word.property)⟩
  have injective : Function.Injective shrink := by
    intro left right same
    have equal : coded left.val = coded right.val := congrArg Subtype.val same
    have first := lossless _ _ (codes _ left.property)
    rw [equal, lossless _ _ (codes _ right.property)] at first
    exact Subtype.ext (Option.some.inj first).symm
  have counted := Fintype.card_le_of_injective shrink injective
  rw [card_vector, card_vector] at counted
  exact (Nat.pow_le_pow_iff_right Fintype.one_lt_card).mp counted

structure Fixed (seals : Bytes → Bytes → Bytes → Prop) (plaintextLength length : Nat) : Prop where
  total : ∀ binding plaintext, plaintext.length = plaintextLength →
    ∃ envelope, seals binding plaintext envelope
  uniform : ∀ binding plaintext envelope, plaintext.length = plaintextLength →
    seals binding plaintext envelope → envelope.length = length

theorem Fixed.le {seals : Bytes → Bytes → Bytes → Prop} {opens : Bytes → Bytes → Option Bytes}
    {plaintextLength length : Nat} (fixed : Fixed seals plaintextLength length)
    (inverts : ∀ binding plaintext envelope, seals binding plaintext envelope →
      opens binding envelope = some plaintext) : plaintextLength ≤ length := by
  have bytes : Nontrivial UInt8 := ⟨0, 1, by decide⟩
  exact length_le_of_lossless (fixed.total []) (fixed.uniform []) (inverts [])

/-! What is installed and what is loaded. -/

def withProtector (store : FileSealedStateStore) (past : History) :
    (op : FileRequest) → Option (FileAnswer op)
  | .openEnvelope binding envelope => (store.opens binding envelope).map .ok
  | op => healthy past op

theorem extends_withProtector (store : FileSealedStateStore) (past : History) :
    Extends past (withProtector store past) := by
  intro op answer same
  cases op with
  | openEnvelope binding envelope => cases same
  | _ => exact same

theorem answered_loadSealed {sha256 : Bytes → Bytes} {store : FileSealedStateStore} {past : History}
    {plaintext : Bytes} {revision : Digest} {file : Nat} (configured : store.configured = true)
    (visible : Volume.current past = some file)
    (reads : ReadsSealed sha256 store plaintext revision (Volume.contents file past)) :
    (store.load sha256).answered (withProtector store past) =
      some (.ok (some (plaintext, revision))) := by
  obtain ⟨small, header, envelope, parsed, opens⟩ := reads
  obtain ⟨_, filled, fits, sized⟩ := parseSealedStateFile_bounds parsed
  have whole := congrArg List.length (parseSealedStateFile_ok parsed).2
  rw [List.length_append, sized] at whole
  have agrees := extends_withProtector store past
  have context : Filing.contextErr.answered (withProtector store past) = some (.ok ()) := rfl
  have validated : (Filing.validatePrivateSecretFile file).answered (withProtector store past) =
      some (.ok ()) := rfl
  have status : (Filing.stat file).answered (withProtector store past) =
      some (.ok (fileInfo past file)) := rfl
  have read : (Filing.readAll file (store.maximumFileBytes + 1)).answered
      (withProtector store past) = some (.ok (Volume.contents file past)) := by
    have long : (Volume.contents file past).length ≤ store.maximumFileBytes + 1 := by
      unfold FileSealedStateStore.maximumFileBytes
      omega
    rw [← List.take_of_length_le long]
    rfl
  have opened : (Filing.protectorOpen (store.protectorBinding sha256 header) envelope).answered
      (withProtector store past) = some (.ok plaintext) :=
    Fallible.answered_request (by rw [withProtector, opens]; rfl)
  have body : (store.loadLocked sha256).answered (withProtector store past) =
      some (.ok (some (plaintext, revision))) := by
    refine answered_withOpened agrees visible ?_
    have enough : ¬(fileInfo past file).size < sealedStateHeaderBytes + 1 := by
      simp only [fileInfo]
      omega
    have limited : ¬(fileInfo past file).size > store.maximumFileBytes := by
      simp only [fileInfo, FileSealedStateStore.maximumFileBytes]
      omega
    have limited' : ¬(Volume.contents file past).length > store.maximumFileBytes := by
      unfold FileSealedStateStore.maximumFileBytes
      omega
    rw [Fallible.answered_bind (answered_failIf (by simp [fileInfo, FileInfo.isRegular])),
      Fallible.answered_bind (answered_labelled validated),
      Fallible.answered_bind (answered_labelled status),
      Fallible.answered_bind (answered_failIf enough),
      Fallible.answered_bind (answered_failIf limited),
      Fallible.answered_bind (answered_labelled read), Fallible.answered_bind context,
      Fallible.answered_bind (answered_failIf limited'), parsed]
    change (Filing.labelled ["s3disk: open sealed state envelope"]
      (Filing.protectorOpen (store.protectorBinding sha256 header) envelope) >>= _).answered _ = _
    rw [Fallible.answered_bind (answered_labelled opened),
      Fallible.answered_bind (answered_failIf (Nat.not_lt.mpr small)),
      Fallible.answered_bind context]
    rfl
  have locked : Filing.lock.answered (withProtector store past) = some (.ok ()) := rfl
  have unlocked : Filing.unlock.answered (withProtector store past) = some (.ok none) := rfl
  unfold FileSealedStateStore.load
  rw [Fallible.answered_bind context, Fallible.answered_bind (answered_failIf (by simp [configured])),
    Fallible.answered_bind context]
  unfold Filing.lockedSwap
  rw [Fallible.answered_bind locked,
    Fallible.answered_bind (Fallible.answered_attempt (answered_settled agrees body)),
    Fallible.answered_bind unlocked]
  rfl

theorem StoresSealed.reads {sha256 : Bytes → Bytes} {store : FileSealedStateStore}
    {plaintext data : Bytes} {revision : Digest} (configured : store.configured = true)
    (stores : StoresSealed sha256 store plaintext revision data) :
    ReadsSealed sha256 store plaintext revision data := by
  obtain ⟨stamps, small, envelope, filled, fits, rfl, opens⟩ := stores
  simp only [FileSealedStateStore.configured, Bool.and_eq_true, decide_eq_true_eq] at configured
  exact ⟨small, _, envelope, parseSealedStateFile_encoded stamps filled fits configured.2, opens⟩

namespace FileWorld

variable (world : FileWorld)

def Leaves (client : Nat) : FileCall → FileOut → History → Prop
  | .swapSealed _ next, .sealedRevision (.ok (revision, none)), past =>
      (world.sealed client).configured = true ∧
        Settled (ReadsSealed world.sha256 (world.sealed client) next revision) past
  | .loadSealed, .sealedState (.ok (some state)), past =>
      Settled (ReadsSealed world.sha256 (world.sealed client) state.1 state.2) past
  | _, _, _ => True

theorem sealed_verified : Verified world.machine world.keeps (fun _ _ _ => True)
    (fun client call out log => world.Leaves client call out (history log)) where
  stable _ _ _ _ _ _ := trivial
  fresh _ _ := trivial
  safe client memory call log valid _ permitted := by
    cases call with
    | swapSealed expected next =>
        have swapped : Safe world.law (client, .swapSealed expected next)
            (fun out later => world.Leaves client (.swapSealed expected next) out (history later))
            (world.program client (.swapSealed expected next)) log := by
          refine Safe.bind (sealed_swap_meets permitted rfl valid) valid ?_
          rintro (error | ⟨revision, _ | error⟩) later _ _ holds
          · exact trivial
          · obtain ⟨configured, settled⟩ := holds rfl
            exact ⟨configured, settled.mono fun _ => StoresSealed.reads configured⟩
          · exact trivial
        exact Safe.bind swapped valid fun _ _ _ _ leaves => ⟨leaves, trivial⟩
    | loadSealed =>
        have loaded : Safe world.law (client, .loadSealed)
            (fun out later => world.Leaves client .loadSealed out (history later))
            (world.program client .loadSealed) log := by
          refine Safe.bind (sealed_load_meets valid) valid ?_
          rintro (error | _ | state) later _ _ holds
          · exact trivial
          · exact trivial
          · exact holds state rfl
        exact Safe.bind loaded valid fun _ _ _ _ leaves => ⟨leaves, trivial⟩
    | _ =>
        exact Safe.bind (program_safe permitted valid) valid fun _ _ _ _ _ => ⟨trivial, trivial⟩

end FileWorld

namespace SampleSealed

def unwrap (_ : Bytes) : Bytes → Option Bytes
  | 0 :: plaintext => some plaintext
  | _ => none

def site : FileWorld where
  kind := .sealedState
  wire := concreteWire
  sha256 data := data
  sealed _ := ⟨[1], 64, unwrap⟩
  draws := 1

def storing : List (Turn Unit FileCall) :=
  [.call 0 fun _ => some (.swapSealed none [7]), .proceed 0 26]

def installed : FileOut → Option Digest
  | .sealedRevision (.ok (revision, none)) => some revision
  | _ => none

theorem installed_some {out : FileOut} {revision : Digest} (same : installed out = some revision) :
    out = .sealedRevision (.ok (revision, none)) := by
  unfold installed at same
  split at same
  · cases same
    rfl
  · cases same

end SampleSealed

end S3Disk.LocalState
