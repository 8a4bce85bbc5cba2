import S3Disk.RepositorySafety

/-! Building a source tree uploads bottom up: whatever the source and the other
publishers do, the objects that a manifest names are stored before the manifest. -/

namespace S3Disk

open Concurrent

section

variable {world : World} {agent : Nat × PublisherCall} {log : Log} {α : Type}

theorem any_meets (op : Request) (reads : op.writes = false) (next : Answer op → Except Err α) :
    Fallible.Meets world.law agent (Program.ask op fun answer => .done (next answer)) log
      (fun _ _ => True) (fun _ _ => True) := by
  refine ask_meets ?_
  intro later interferes valid answer effect served
  obtain rfl : effect = none := effect_none_of_read reads served
  refine ⟨keeps_of_read reads, ?_⟩
  cases result : next answer with
  | error error => exact trivial
  | ok value => exact trivial

theorem halt_meets {post : α → Log → Prop} {fail : Err → Log → Prop} :
    Fallible.Meets world.law agent halt log post fail :=
  ask_meets fun _ _ _ answer => nomatch answer

variable (lawful : world.repository.wire.Lawful)
include lawful

theorem putFile_meets {manifest : FileManifest} (valid : Valid world.law log)
    (stored : ∀ chunk ∈ manifest.chunks, versions log (.object .chunk chunk.digest) ≠ []) :
    Fallible.Meets world.law agent
      (world.repository.putManifest .file world.repository.wire.file manifest) log
      (fun digest later => versions later (.object .file digest) ≠ []) (fun _ _ => True) := by
  refine (putManifest_meets valid ?_).weaken valid (fun _ _ _ _ put => put.2.2)
    (fun _ _ _ _ _ => trivial)
  intro small
  refine ⟨manifest.chunks.map fun chunk => (.chunk, chunk.digest),
    by simp [named, decodeJSON_marshal lawful.file small, Except.toOption], ?_⟩
  simpa using stored

theorem putDirectory_meets {manifest : DirManifest} (valid : Valid world.law log)
    (stored : ∀ entry ∈ manifest.entries, versions log (.object entry.type.kind entry.node) ≠ []) :
    Fallible.Meets world.law agent
      (world.repository.putManifest .dir world.repository.wire.dir manifest) log
      (fun digest later => versions later (.object .dir digest) ≠ []) (fun _ _ => True) := by
  refine (putManifest_meets valid ?_).weaken valid (fun _ _ _ _ put => put.2.2)
    (fun _ _ _ _ _ => trivial)
  intro small
  refine ⟨manifest.entries.map fun entry => (entry.type.kind, entry.node),
    by simp [named, decodeJSON_marshal lawful.dir small, Except.toOption], ?_⟩
  simpa using stored

omit lawful

theorem walkChunks_meets {path : Bytes} {handle : Nat} {chunking : ChunkingOptions} {budget : Nat}
    {chunks : List ChunkRef} {offset : Int} (valid : Valid world.law log)
    (stored : ∀ chunk ∈ chunks, versions log (.object .chunk chunk.digest) ≠ []) :
    Fallible.Meets world.law agent
      (walkChunks world.repository path handle chunking budget chunks offset) log
      (fun walked later => ∀ chunk ∈ walked.1,
        versions later (.object .chunk chunk.digest) ≠ [])
      (fun _ _ => True) := by
  induction budget generalizing chunks offset log with
  | zero =>
      unfold walkChunks
      refine .bind (any_meets _ rfl _) valid ?_
      intro _ log1 grown1 valid1 _
      refine .attempt (any_meets _ rfl _) valid1 ?_
      rintro (error | data) log2 grown2 valid2 _
      · dsimp only
        split
        · exact .pure fun chunk member =>
            versions_nonempty_mono (grown1.trans grown2) (stored chunk member)
        · exact .throw trivial
      · exact .throw trivial
  | succ budget ih =>
      unfold walkChunks
      refine .bind (any_meets _ rfl _) valid ?_
      intro _ log1 grown1 valid1 _
      refine .attempt (any_meets _ rfl _) valid1 ?_
      rintro (error | data) log2 grown2 valid2 _
      · dsimp only
        split
        · exact .pure fun chunk member =>
            versions_nonempty_mono (grown1.trans grown2) (stored chunk member)
        · exact .throw trivial
      · have leaf : ChildrenStored world.repository.wire log2 data .chunk := ⟨[], rfl, by simp⟩
        refine .bind ((putImmutable_meets valid2 leaf).lenient valid2) valid2 ?_
        rintro digest log3 grown3 valid3 ⟨_, uploaded⟩
        refine .failIf (fun _ => trivial) fun _ => ?_
        refine ih valid3 ?_
        intro chunk member
        rcases List.mem_append.mp member with earlier | new
        · exact versions_nonempty_mono ((grown1.trans grown2).trans grown3) (stored chunk earlier)
        · obtain rfl := List.mem_singleton.mp new
          exact uploaded

include lawful

theorem buildFile_meets {options : TreeOptions} {sourceRoot : Nat} {path : Bytes}
    {expected : FileInfo} {secured : List FileInfo} {attempts : Nat} (valid : Valid world.law log) :
    Fallible.Meets world.law agent
      (buildFile world.repository options sourceRoot path expected secured attempts) log
      (fun built later => versions later (.object .file built.1) ≠ []) (fun _ _ => True) := by
  induction attempts generalizing log with
  | zero => exact .throw trivial
  | succ attempts ih =>
      unfold buildFile
      refine .attempt (any_meets _ rfl _) valid ?_
      rintro (error | file) log1 grown1 valid1 _
      · exact .failIf (fun _ => trivial) fun _ => .throw trivial
      refine .attempt (any_meets _ rfl _) valid1 ?_
      rintro (error | before) log2 grown2 valid2 _
      · exact .throw trivial
      refine .failIf (fun _ => trivial) fun _ => ?_
      refine .failIf (fun _ => trivial) fun _ => ?_
      refine .failIf (fun _ => trivial) fun _ => ?_
      have uploads : Fallible.Meets world.law agent
          (uploadChunks world.repository options path file) log2
          (fun walked later => ∀ chunk ∈ walked.1,
            versions later (.object .chunk chunk.digest) ≠ [])
          (fun _ _ => True) := by
        unfold uploadChunks
        refine .ofExcept (fun _ _ => trivial) fun chunking _ => ?_
        exact walkChunks_meets valid2 (by simp)
      refine .attempt uploads valid2 ?_
      intro walked log3 grown3 valid3 stored
      refine .attempt (any_meets _ rfl _) valid3 ?_
      intro statted log4 grown4 valid4 _
      refine .attempt (any_meets _ rfl _) valid4 ?_
      intro closed log5 grown5 valid5 _
      rcases walked with error | ⟨chunks, offset⟩
      · exact .throw trivial
      rcases statted with error | after
      · exact .throw trivial
      rcases closed with error | done
      · exact .throw trivial
      refine .attempt (any_meets _ rfl _) valid5 ?_
      rintro (error | current) log6 grown6 valid6 _
      · exact .failIf (fun _ => trivial) fun _ => ih valid6
      dsimp only
      split
      · refine .bind (putFile_meets lawful valid6 ?_) valid6 ?_
        · intro chunk member
          exact versions_nonempty_mono ((grown4.trans grown5).trans grown6) (stored chunk member)
        · intro digest log7 grown7 valid7 uploaded
          exact .pure uploaded
      · exact ih valid6

theorem buildSymlink_meets {options : TreeOptions} {sourceRoot : Nat} {linkPath : Bytes}
    {expected : FileInfo} (valid : Valid world.law log) :
    Fallible.Meets world.law agent
      (buildSymlink world.repository options sourceRoot linkPath expected) log
      (fun built later => versions later (.object .symlink built.1) ≠ []) (fun _ _ => True) := by
  unfold buildSymlink
  refine .attempt (any_meets _ rfl _) valid ?_
  rintro (error | before) log1 grown1 valid1 _
  · exact .throw trivial
  refine .failIf (fun _ => trivial) fun _ => ?_
  refine .attempt (any_meets _ rfl _) valid1 ?_
  rintro (error | target) log2 grown2 valid2 _
  · exact .throw trivial
  refine .attempt (any_meets _ rfl _) valid2 ?_
  rintro (error | after) log3 grown3 valid3 _
  · exact .throw trivial
  refine .failIf (fun _ => trivial) fun _ => ?_
  refine .failIf (fun _ => trivial) fun _ => ?_
  refine .ofExcept (fun _ _ => trivial) fun _ _ => ?_
  have leaf : (world.repository.wire.symlink.marshal ⟨objectFormatVersion, target⟩).length ≤
      maxMetadataObjectBytes → ChildrenStored world.repository.wire log3
        (world.repository.wire.symlink.marshal ⟨objectFormatVersion, target⟩) .symlink := by
    intro small
    exact ⟨[], by simp [named, decodeJSON_marshal lawful.symlink small, Except.toOption], by simp⟩
  refine .bind ((putManifest_meets valid3 leaf).lenient valid3) valid3 ?_
  rintro digest log4 grown4 valid4 ⟨_, _, uploaded⟩
  exact .pure uploaded

omit lawful

theorem readEntries_meets {directory : Bytes} {handle batches : Nat} {entries : List Bytes}
    (valid : Valid world.law log) :
    Fallible.Meets world.law agent (readEntries directory handle batches entries) log
      (fun _ _ => True) (fun _ _ => True) := by
  induction batches generalizing entries log with
  | zero => exact halt_meets
  | succ batches ih =>
      unfold readEntries
      refine .bind (any_meets _ rfl _) valid ?_
      intro _ log1 grown1 valid1 _
      refine .bind (any_meets _ rfl _) valid1 ?_
      rintro ⟨batch, readErr⟩ log2 grown2 valid2 _
      refine .failIf (fun _ => trivial) fun _ => ?_
      cases readErr with
      | none => exact ih valid2
      | some error => exact .failIf (fun _ => trivial) fun _ => .pure trivial

include lawful

theorem buildEntry_meets {options : TreeOptions} {sourceRoot : Nat} {directory : Bytes}
    {secured : List FileInfo} {deepest : Bool}
    {buildChild : Bytes → FileInfo → Option PathSelection → Proc Digest} {name : Bytes}
    {childSelection : Option PathSelection}
    (builds : ∀ path info selection log, Valid world.law log →
      Fallible.Meets world.law agent (buildChild path info selection) log
        (fun digest later => versions later (.object .dir digest) ≠ []) (fun _ _ => True))
    (valid : Valid world.law log) :
    Fallible.Meets world.law agent
      (buildEntry world.repository options sourceRoot directory secured deepest buildChild name
        childSelection) log
      (fun entry later => versions later (.object entry.type.kind entry.node) ≠ [])
      (fun _ _ => True) := by
  unfold buildEntry
  refine .failIf (fun _ => trivial) fun _ => ?_
  refine .failIf (fun _ => trivial) fun _ => ?_
  refine .failIf (fun _ => trivial) fun _ => ?_
  refine .attempt (any_meets _ rfl _) valid ?_
  rintro (error | info) log1 grown1 valid1 _
  · exact .throw trivial
  refine .failIf (fun _ => trivial) fun _ => ?_
  dsimp only
  split
  · refine .bind (buildFile_meets lawful valid1) valid1 ?_
    rintro ⟨node, size, stableInfo⟩ log2 grown2 valid2 uploaded
    exact .pure uploaded
  · refine .bind (builds _ _ _ _ valid1) valid1 ?_
    intro node log2 grown2 valid2 uploaded
    exact .pure uploaded
  · refine .bind (buildSymlink_meets lawful valid1) valid1 ?_
    rintro ⟨node, size⟩ log2 grown2 valid2 uploaded
    exact .pure uploaded
  · exact .throw trivial

theorem buildEntries_meets {options : TreeOptions} {sourceRoot : Nat} {directory : Bytes}
    {secured : List FileInfo} {deepest : Bool}
    {buildChild : Bytes → FileInfo → Option PathSelection → Proc Digest}
    {selection : Option PathSelection} {names : List Bytes} {items : List DirEntry}
    {matched : List Bytes}
    (builds : ∀ path info selection log, Valid world.law log →
      Fallible.Meets world.law agent (buildChild path info selection) log
        (fun digest later => versions later (.object .dir digest) ≠ []) (fun _ _ => True))
    (valid : Valid world.law log)
    (stored : ∀ entry ∈ items, versions log (.object entry.type.kind entry.node) ≠ []) :
    Fallible.Meets world.law agent
      (buildEntries world.repository options sourceRoot directory secured deepest buildChild
        selection names items matched) log
      (fun built later => ∀ entry ∈ built.1,
        versions later (.object entry.type.kind entry.node) ≠ [])
      (fun _ _ => True) := by
  induction names generalizing items matched log with
  | nil => exact .pure stored
  | cons name rest ih =>
      -- One more entry is stored, and those before it stay stored.
      have extended : ∀ {item later}, log <:+ later →
          versions later (.object item.type.kind item.node) ≠ [] →
          ∀ entry ∈ items ++ [item], versions later (.object entry.type.kind entry.node) ≠ [] := by
        intro item later grown uploaded entry member
        rcases List.mem_append.mp member with earlier | new
        · exact versions_nonempty_mono grown (stored entry earlier)
        · obtain rfl := List.mem_singleton.mp new
          exact uploaded
      unfold buildEntries
      refine .bind (any_meets _ rfl _) valid ?_
      intro _ log1 grown1 valid1 _
      cases selection with
      | none =>
          refine .bind (buildEntry_meets lawful builds valid1) valid1 ?_
          intro item log2 grown2 valid2 uploaded
          exact ih valid2 (extended (grown1.trans grown2) uploaded)
      | some chosen =>
          dsimp only
          split
          · exact ih valid1 fun entry member => versions_nonempty_mono grown1 (stored entry member)
          · refine .bind (buildEntry_meets lawful builds valid1) valid1 ?_
            intro item log2 grown2 valid2 uploaded
            exact ih valid2 (extended (grown1.trans grown2) uploaded)

theorem buildDirectorySelection_meets {options : TreeOptions} {sourceRoot : Nat}
    {secured : List FileInfo} {levels : Nat} {directory : Bytes} {expected : FileInfo}
    {selection : Option PathSelection} (valid : Valid world.law log) :
    Fallible.Meets world.law agent
      (buildDirectorySelection world.repository options sourceRoot secured levels directory
        expected selection) log
      (fun digest later => versions later (.object .dir digest) ≠ []) (fun _ _ => True) := by
  induction levels generalizing directory expected selection log with
  | zero =>
      unfold buildDirectorySelection
      refine .bind (any_meets _ rfl _) valid ?_
      intro _ log1 grown1 valid1 _
      exact .throw trivial
  | succ levels ih =>
      unfold buildDirectorySelection
      refine .bind (any_meets _ rfl _) valid ?_
      intro _ log1 grown1 valid1 _
      refine .failIf (fun _ => trivial) fun _ => ?_
      refine .attempt (any_meets _ rfl _) valid1 ?_
      rintro (error | handle) log2 grown2 valid2 _
      · exact .throw trivial
      refine .attempt (any_meets _ rfl _) valid2 ?_
      rintro (error | before) log3 grown3 valid3 _
      · exact .throw trivial
      refine .failIf (fun _ => trivial) fun _ => ?_
      refine .bind (readEntries_meets valid3) valid3 ?_
      intro entries log4 grown4 valid4 _
      refine .bind (any_meets _ rfl _) valid4 ?_
      intro _ log5 grown5 valid5 _
      refine .attempt (any_meets _ rfl _) valid5 ?_
      rintro (error | done) log6 grown6 valid6 _
      · exact .throw trivial
      refine .bind (buildEntries_meets lawful (fun _ _ _ _ valid => ih valid) valid6 (by simp))
        valid6 ?_
      rintro ⟨items, matched⟩ log7 grown7 valid7 stored
      refine .bind (any_meets _ rfl _) valid7 ?_
      intro _ log8 grown8 valid8 _
      refine .attempt (any_meets _ rfl _) valid8 ?_
      rintro (error | afterHandle) log9 grown9 valid9 _
      · exact .throw trivial
      refine .attempt (any_meets _ rfl _) valid9 ?_
      intro statted log10 grown10 valid10 _
      refine .attempt (any_meets _ rfl _) valid10 ?_
      intro closed log11 grown11 valid11 _
      refine .attempt (any_meets _ rfl _) valid11 ?_
      intro listed log12 grown12 valid12 _
      have grown : log7 <:+ log12 :=
        grown8.trans (grown9.trans (grown10.trans (grown11.trans grown12)))
      rcases statted with error | after
      · exact .throw trivial
      rcases closed with error | done'
      · exact .throw trivial
      rcases listed with error | current
      · exact .throw trivial
      refine .failIf (fun _ => trivial) fun _ => ?_
      split
      · exact .throw trivial
      · refine putDirectory_meets lawful valid12 ?_
        intro entry member
        have unsorted : entry ∈ items := (List.mem_insertionSort _).mp member
        exact versions_nonempty_mono grown (stored entry unsorted)

end

end S3Disk
