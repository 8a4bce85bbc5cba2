import Mathlib.Data.List.Nodup
import S3Disk.Library.Checks
import S3Disk.Library.JsonDocuments
import S3Disk.Paths

/-! The configuration file of a set of mounts: the scan for repeated member names, the decoder
with its case-insensitive field names, and the checks on the result. -/

namespace S3Disk.CLI

open Concurrent Json

def mountSetFormat : Int := 1
def maximumMountSetBytes : Nat := 1024 * 1024
def maximumMountSetEntries : Nat := 128
def maximumMountSetPathBytes : Nat := 32 * 1024
def maximumMountSetNameBytes : Nat := 64

def defaultPollInterval : Int := 1000000000
def defaultPollTimeout : Int := 120 * 1000000000
def maximumOperationTimeout : Int := 1800 * 1000000000

structure MountSetEntry where
  name : Bytes
  handoff : Bytes
  mountpoint : Bytes
  stateDir : Bytes
  cacheDir : Bytes
  pollInterval : Bytes
  pollTimeout : Bytes
  deriving DecidableEq, Repr

def MountSetEntry.zero : MountSetEntry := ⟨[], [], [], [], [], [], []⟩

structure MountSetConfig where
  version : Int
  mounts : List MountSetEntry
  deriving DecidableEq, Repr

structure MountSetPlatform where
  trimSpace : Bytes → Bytes
  isAbs : Bytes → Bool
  parseDuration : Bytes → Option Int
  pathsOverlap : Bytes → Bytes → Bool

mutual

/-- The scan of `rejectDuplicateJSONNames`, over the document whose tokens it reads. -/
def rejectDuplicates : Document → Except Err Unit
  | .array items => rejectDuplicateItems items
  | .object members => rejectDuplicateMembers [] members
  | _ => .ok ()

def rejectDuplicateItems : List Document → Except Err Unit
  | [] => .ok ()
  | item :: rest => do
      rejectDuplicates item
      rejectDuplicateItems rest

def rejectDuplicateMembers (seen : List Bytes) : List (Bytes × Document) → Except Err Unit
  | [] => .ok ()
  | (name, value) :: rest => do
      failIf (seen.contains name = true) (.plain ["duplicate JSON member ", .quoted name])
      rejectDuplicates value
      rejectDuplicateMembers (name :: seen) rest

end

def invalidJSON : Err := .plain ["invalid JSON"]

def rejectDuplicateJSONNames (encoded : Bytes) : Except Err Unit :=
  match parseDocument encoded with
  | none => .error invalidJSON
  | some document => rejectDuplicates document

/-- How `encoding/json` folds a name. Besides the letters of ASCII, the long s and the Kelvin
sign fold to ASCII; other characters never meet a name of these structs. -/
def foldName : Bytes → Bytes
  | [] => []
  | 0xC5 :: 0xBF :: rest => 83 :: foldName rest
  | 0xE2 :: 0x84 :: 0xAA :: rest => 75 :: foldName rest
  | character :: rest =>
      (if 97 ≤ character ∧ character ≤ 122 then character - 32 else character) :: foldName rest

inductive ConfigField where
  | version
  | mounts
  deriving DecidableEq, Repr

inductive EntryField where
  | name
  | handoff
  | mountpoint
  | stateDir
  | cacheDir
  | pollInterval
  | pollTimeout
  deriving DecidableEq, Repr

def configFields : List (Bytes × ConfigField) :=
  [(ascii "version", .version), (ascii "mounts", .mounts)]

def entryFields : List (Bytes × EntryField) :=
  [(ascii "name", .name), (ascii "handoff", .handoff), (ascii "mountpoint", .mountpoint),
    (ascii "state_dir", .stateDir), (ascii "cache_dir", .cacheDir),
    (ascii "poll_interval", .pollInterval), (ascii "poll_timeout", .pollTimeout)]

/-- The field that a member is decoded into: one with its exact name, else one whose name
folds to the same. -/
def fieldNamed {φ : Type} (fields : List (Bytes × φ)) (name : Bytes) : Option φ :=
  match fields.find? (·.1 == name) with
  | some field => some field.2
  | none => (fields.find? fun field => foldName field.1 == foldName name).map Prod.snd

def parseInteger (literal : Bytes) : Option Int :=
  let digits := if literal.head? = some 45 then literal.tail else literal
  if digits ≠ [] ∧ digits.all isDigit = true then
    let value : Int := if literal.head? = some 45 then -(digitsValue digits) else digitsValue digits
    if -(maxInt64 : Int) - 1 ≤ value ∧ value ≤ maxInt64 then some value else none
  else none

def EntryField.assign (entry : MountSetEntry) (text : Bytes) : EntryField → MountSetEntry
  | .name => { entry with name := text }
  | .handoff => { entry with handoff := text }
  | .mountpoint => { entry with mountpoint := text }
  | .stateDir => { entry with stateDir := text }
  | .cacheDir => { entry with cacheDir := text }
  | .pollInterval => { entry with pollInterval := text }
  | .pollTimeout => { entry with pollTimeout := text }

def decodeEntryMember (entry : MountSetEntry) (member : Bytes × Document) :
    Except Err MountSetEntry :=
  match fieldNamed entryFields member.1 with
  | none => .error (.plain ["json: unknown field ", .quoted member.1])
  | some field =>
      match member.2 with
      | .string text => .ok (field.assign entry text)
      | .null => .ok entry
      | _ => .error invalidJSON

def decodeEntry (entry : MountSetEntry) : Document → Except Err MountSetEntry
  | .object members => members.foldlM decodeEntryMember entry
  | .null => .ok entry
  | _ => .error invalidJSON

def decodeEntries : List MountSetEntry → List Document → Except Err (List MountSetEntry)
  | _, [] => .ok []
  | existing, item :: rest => do
      let entry ← decodeEntry (existing.headD .zero) item
      let entries ← decodeEntries existing.tail rest
      return entry :: entries

def decodeConfigMember (config : MountSetConfig) (member : Bytes × Document) :
    Except Err MountSetConfig :=
  match fieldNamed configFields member.1 with
  | none => .error (.plain ["json: unknown field ", .quoted member.1])
  | some .version =>
      match member.2 with
      | .number literal =>
          match parseInteger literal with
          | some version => .ok { config with version := version }
          | none => .error invalidJSON
      | .null => .ok config
      | _ => .error invalidJSON
  | some .mounts =>
      match member.2 with
      | .array items => do
          let mounts ← decodeEntries config.mounts items
          return { config with mounts := mounts }
      | .null => .ok { config with mounts := [] }
      | _ => .error invalidJSON

def decodeConfig : Document → Except Err MountSetConfig
  | .object members => members.foldlM decodeConfigMember ⟨0, []⟩
  | .null => .ok ⟨0, []⟩
  | _ => .error invalidJSON

section

variable (platform : MountSetPlatform)

def validMountSetName : Bytes → Bool
  | [] => false
  | first :: rest =>
      let letter (character : UInt8) : Bool :=
        97 ≤ character && character ≤ 122 || 65 ≤ character && character ≤ 90 ||
          48 ≤ character && character ≤ 57
      rest.length + 1 ≤ maximumMountSetNameBytes && letter first &&
        rest.all fun character => letter character || [46, 95, 45].contains character

def parseMountSetDuration (value : Bytes) (fallback : Int) : Except Err Int :=
  if value = [] then .ok fallback
  else if value.length > 64 ∨ validUTF8 value = false ∨ platform.trimSpace value ≠ value then
    .error (.plain ["invalid duration"])
  else match platform.parseDuration value with
    | some duration => .ok duration
    | none => .error (.plain ["invalid duration"])

structure MountOptions where
  handoffPath : Bytes
  mountpoint : Bytes
  stateDir : Bytes
  cacheDir : Bytes
  pollInterval : Int
  pollTimeout : Int
  deriving DecidableEq, Repr

def requireOption (name : String) (value : Bytes) : Except Err Unit :=
  failIf (platform.trimSpace value = []) (.plain ["s3disk mount: ", name, " is required"])

def validateMountOptions (options : MountOptions) : Except Err MountOptions := do
  requireOption platform "--handoff" options.handoffPath
  requireOption platform "--mountpoint" options.mountpoint
  requireOption platform "--state-dir" options.stateDir
  failIf (options.pollInterval < 100000000 ∨ options.pollInterval > 300 * 1000000000)
    (.plain ["s3disk mount: --poll-interval must be between 100ms and 5m"])
  let pollTimeout := if options.pollTimeout = 0 then defaultPollTimeout else options.pollTimeout
  failIf (pollTimeout < 1000000000 ∨ pollTimeout > maximumOperationTimeout)
    (.plain ["s3disk mount: --poll-timeout must be between 1s and 30m0s"])
  failIf (platform.pathsOverlap options.stateDir options.mountpoint = true)
    (.plain ["s3disk mount: --state-dir and --mountpoint must not contain one another"])
  failIf (options.cacheDir ≠ [] ∧ platform.pathsOverlap options.cacheDir options.mountpoint = true)
    (.plain ["s3disk mount: --cache-dir and --mountpoint must not contain one another"])
  failIf (options.cacheDir ≠ [] ∧ platform.pathsOverlap options.cacheDir options.stateDir = true)
    (.plain ["s3disk mount: --cache-dir and --state-dir must not contain one another"])
  return { options with pollTimeout := pollTimeout }

def MountSetEntry.mountOptions (entry : MountSetEntry) : Except Err MountOptions := do
  let pollInterval ← (parseMountSetDuration platform entry.pollInterval defaultPollInterval).mapError
    (.within ["poll_interval"])
  let pollTimeout ← (parseMountSetDuration platform entry.pollTimeout defaultPollTimeout).mapError
    (.within ["poll_timeout"])
  validateMountOptions platform
    ⟨entry.handoff, entry.mountpoint, entry.stateDir, entry.cacheDir, pollInterval, pollTimeout⟩

def validateMountSetPath (index : Nat) (name : String) (value : Bytes) (required : Bool) :
    Except Err Unit := do
  failIf (required = true ∧ value = [] ∨ value.length > maximumMountSetPathBytes ∨
      validUTF8 value = false ∨ value.contains 0 = true ∨ platform.trimSpace value ≠ value)
    (.plain ["mounts[", .number index, "].", name, " is invalid"])
  failIf (value ≠ [] ∧ platform.isAbs value = false)
    (.plain ["mounts[", .number index, "].", name, " must be absolute"])

def validateMountSetEntries (index : Nat) (names : List Bytes) :
    List MountSetEntry → Except Err Unit
  | [] => .ok ()
  | entry :: rest => do
      failIf (validMountSetName entry.name = false)
        (.plain ["mounts[", .number index, "].name is invalid"])
      failIf (names.contains entry.name = true)
        (.plain ["mounts[", .number index, "].name ", .quoted entry.name, " is duplicated"])
      validateMountSetPath platform index "handoff" entry.handoff true
      validateMountSetPath platform index "mountpoint" entry.mountpoint true
      validateMountSetPath platform index "state_dir" entry.stateDir true
      validateMountSetPath platform index "cache_dir" entry.cacheDir false
      let _ ← (entry.mountOptions platform).mapError (.within ["mounts[", .number index, "]"])
      validateMountSetEntries (index + 1) (entry.name :: names) rest

def validateMountSetConfig (config : MountSetConfig) : Except Err Unit := do
  failIf (config.version ≠ mountSetFormat) (.plain ["version must be ", .number mountSetFormat])
  failIf (config.mounts.length = 0 ∨ config.mounts.length > maximumMountSetEntries)
    (.plain ["mounts must contain between 1 and ", .number maximumMountSetEntries, " entries"])
  validateMountSetEntries platform 0 [] config.mounts

def readMountSetConfig (encoded : Bytes) : Except Err MountSetConfig :=
  Except.mapError (Err.within ["s3disk mount-set: invalid config"]) do
    failIf (encoded = [] ∨ encoded.length > maximumMountSetBytes)
      (.plain ["file is empty, unreadable, or exceeds the size limit"])
    failIf (validUTF8 encoded = false) (.plain ["file is not valid UTF-8"])
    rejectDuplicateJSONNames encoded
    let config ← match parseDocument encoded with
      | none => .error invalidJSON
      | some document => decodeConfig document
    validateMountSetConfig platform config
    return config

end

def assigned {φ : Type} [DecidableEq φ] (fields : List (Bytes × φ)) (field : φ)
    (members : List (Bytes × Document)) : List (Bytes × Document) :=
  members.filter fun member => fieldNamed fields member.1 == some field

/-- At the top and in every entry, each field is set by at most one member. -/
def Unambiguous : Document → Prop
  | .object members =>
      (∀ field ∈ configFields, (assigned configFields field.2 members).length ≤ 1) ∧
        ∀ member ∈ assigned configFields .mounts members, ∀ entry ∈ member.2.objects,
          ∀ field ∈ entryFields, (assigned entryFields field.2 entry).length ≤ 1
  | _ => True

def NamesFoldApart (members : List (Bytes × Document)) : Prop :=
  ∀ left ∈ members, ∀ right ∈ members, foldName left.1 = foldName right.1 → left.1 = right.1

def CaseDistinct : Document → Prop
  | .object members =>
      NamesFoldApart members ∧
        ∀ member ∈ members, ∀ entry ∈ member.2.objects, NamesFoldApart entry
  | _ => True

instance : (document : Document) → Decidable (Unambiguous document)
  | .object _ => inferInstanceAs (Decidable (_ ∧ _))
  | .null | .bool _ | .number _ | .string _ | .array _ => .isTrue trivial

instance (members : List (Bytes × Document)) : Decidable (NamesFoldApart members) :=
  inferInstanceAs (Decidable (∀ left ∈ members, ∀ right ∈ members, _))

instance : (document : Document) → Decidable (CaseDistinct document)
  | .object _ => inferInstanceAs (Decidable (_ ∧ _))
  | .null | .bool _ | .number _ | .string _ | .array _ => .isTrue trivial

section

variable {items : List Document} {members : List (Bytes × Document)}

theorem rejectDuplicateItems_ok (checked : rejectDuplicateItems items = .ok ()) :
    ∀ item ∈ items, rejectDuplicates item = .ok () := by
  induction items with
  | nil =>
      intro item member
      cases member
  | cons first rest ih =>
      rw [rejectDuplicateItems] at checked
      obtain ⟨_, head, tail⟩ := bind_ok.mp checked
      intro item member
      rcases List.mem_cons.mp member with rfl | later
      · exact head
      · exact ih tail item later

theorem rejectDuplicateMembers_ok {seen : List Bytes}
    (checked : rejectDuplicateMembers seen members = .ok ()) :
    (members.map Prod.fst).Nodup ∧ (∀ member ∈ members, member.1 ∉ seen) ∧
      ∀ member ∈ members, rejectDuplicates member.2 = .ok () := by
  induction members generalizing seen with
  | nil =>
      refine ⟨.nil, ?_, ?_⟩
      · intro _ member
        cases member
      · intro _ member
        cases member
  | cons first rest ih =>
      obtain ⟨name, value⟩ := first
      rw [rejectDuplicateMembers] at checked
      obtain ⟨_, fresh, checked⟩ := bind_ok.mp checked
      obtain ⟨_, head, tail⟩ := bind_ok.mp checked
      obtain ⟨distinct, unseen, values⟩ := ih tail
      have absent : name ∉ seen := by simpa using failIf_ok.mp fresh
      refine ⟨?_, ?_, ?_⟩
      · refine List.nodup_cons.mpr ⟨fun repeated => ?_, distinct⟩
        obtain ⟨member, inside, same⟩ := List.mem_map.mp repeated
        exact unseen member inside (by rw [same]; exact List.mem_cons_self)
      · intro member inside
        rcases List.mem_cons.mp inside with rfl | later
        · exact absent
        · exact fun old => unseen member later (List.mem_cons_of_mem _ old)
      · intro member inside
        rcases List.mem_cons.mp inside with rfl | later
        · exact head
        · exact values member later

theorem names_nodup_of_scan (checked : rejectDuplicates (.object members) = .ok ()) :
    (members.map Prod.fst).Nodup ∧
      ∀ member ∈ members, ∀ entry ∈ member.2.objects, (entry.map Prod.fst).Nodup := by
  rw [rejectDuplicates] at checked
  obtain ⟨distinct, _, values⟩ := rejectDuplicateMembers_ok checked
  refine ⟨distinct, fun member inside entry object => ?_⟩
  obtain ⟨items, isArray, item⟩ := Document.mem_objects object
  have array := values member inside
  rw [isArray, rejectDuplicates] at array
  have scanned := rejectDuplicateItems_ok array _ item
  rw [rejectDuplicates] at scanned
  exact (rejectDuplicateMembers_ok scanned).1

end

theorem fieldNamed_folds {φ : Type} {fields : List (Bytes × φ)} {name : Bytes} {field : φ}
    (found : fieldNamed fields name = some field) :
    ∃ text, (text, field) ∈ fields ∧ foldName text = foldName name := by
  unfold fieldNamed at found
  split at found
  · rename_i entry spelled
    cases found
    have same := List.find?_some spelled
    exact ⟨entry.1, List.mem_of_find?_eq_some spelled, by rw [beq_iff_eq.mp same]⟩
  · obtain ⟨entry, folded, rfl⟩ := Option.map_eq_some_iff.mp found
    have same := List.find?_some folded
    exact ⟨entry.1, List.mem_of_find?_eq_some folded, beq_iff_eq.mp same⟩

theorem assigned_le_one {φ : Type} [DecidableEq φ] {fields : List (Bytes × φ)}
    (labels : ∀ left ∈ fields, ∀ right ∈ fields, left.2 = right.2 → left.1 = right.1)
    {members : List (Bytes × Document)} (distinct : (members.map Prod.fst).Nodup)
    (folds : NamesFoldApart members) (field : φ) :
    (assigned fields field members).length ≤ 1 := by
  have pairwise : (assigned fields field members).Pairwise fun left right => left.1 ≠ right.1 :=
    (List.pairwise_map.mp distinct).filter _
  have same : ∀ left ∈ assigned fields field members, ∀ right ∈ assigned fields field members,
      left.1 = right.1 := by
    intro left leftIn right rightIn
    obtain ⟨leftIn, leftNamed⟩ := List.mem_filter.mp leftIn
    obtain ⟨rightIn, rightNamed⟩ := List.mem_filter.mp rightIn
    obtain ⟨leftText, leftField, leftFold⟩ := fieldNamed_folds (beq_iff_eq.mp leftNamed)
    obtain ⟨rightText, rightField, rightFold⟩ := fieldNamed_folds (beq_iff_eq.mp rightNamed)
    have label := labels _ leftField _ rightField rfl
    dsimp only at label
    exact folds left leftIn right rightIn (by rw [← leftFold, label, rightFold])
  match assigned fields field members, pairwise, same with
  | [], _, _ => exact Nat.zero_le 1
  | [_], _, _ => exact Nat.le_refl 1
  | first :: second :: rest, pairwise, same =>
      have apart := (List.pairwise_cons.mp pairwise).1 second List.mem_cons_self
      exact absurd (same first List.mem_cons_self second (List.mem_cons_of_mem _ List.mem_cons_self))
        apart

theorem unambiguous_of_scan {document : Document} (checked : rejectDuplicates document = .ok ())
    (distinct : CaseDistinct document) : Unambiguous document := by
  match document, checked, distinct with
  | .null, _, _ => trivial
  | .bool _, _, _ => trivial
  | .number _, _, _ => trivial
  | .string _, _, _ => trivial
  | .array _, _, _ => trivial
  | .object members, checked, ⟨top, entries⟩ =>
      obtain ⟨names, nested⟩ := names_nodup_of_scan checked
      refine ⟨fun field _ => assigned_le_one (by decide) names top field.2, ?_⟩
      intro member assignedTo entry object field _
      have inside := (List.mem_filter.mp assignedTo).1
      exact assigned_le_one (by decide) (nested member inside entry object)
        (entries member inside entry object) field.2

namespace SampleMountSet

def platform : MountSetPlatform where
  trimSpace text := text
  isAbs text := text.head? == some slash
  parseDuration _ := none
  pathsOverlap left right := left == right

def encoded (handoffs : String) : Bytes :=
  ascii "\x7b \"version\": 1, \"mounts\": [\x7b\"name\": \"a\", " ++ ascii handoffs ++
    ascii ", \"mountpoint\": \"/m\", \"state_dir\": \"/s\"\x7d] \x7d"

def config (handoff : String) : MountSetConfig :=
  ⟨1, [⟨ascii "a", ascii handoff, ascii "/m", ascii "/s", [], [], []⟩]⟩

def once : Bytes := encoded "\"Handoff\": \"/x\""

def twice : Bytes := encoded "\"handoff\": \"/x\", \"Handoff\": \"/y\""

def swapped : Bytes := encoded "\"Handoff\": \"/y\", \"handoff\": \"/x\""

end SampleMountSet

end S3Disk.CLI
