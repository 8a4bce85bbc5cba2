import S3Disk.ConcreteWire
import S3Disk.Library.Solo
import S3Disk.Library.Yields
import S3Disk.SnapshotClosure

/-! A resolved closure is exact: its keys are those of the commit chain and of the
objects below the root directory, no more and no fewer. The traversal ends on every
store content and stays inside its budgets. -/

namespace S3Disk

open Concurrent

/-- The object with this digest, decoded. Digests being collision-free, there is one. -/
def ObjectAt {α : Type} (wire : Wire) (kind : Kind) (json : JSON α) (digest : Digest)
    (value : α) : Prop :=
  ∃ data, wire.digestObject kind data = digest ∧ decodeJSON json data = .ok value

theorem ObjectAt.unique {α : Type} {wire : Wire} (lawful : wire.Lawful) {kind : Kind}
    {json : JSON α} {digest : Digest} {value found : α}
    (first : ObjectAt wire kind json digest value) (second : ObjectAt wire kind json digest found) :
    value = found := by
  obtain ⟨data, hashed, decoded⟩ := first
  obtain ⟨again, hashedAgain, decodedAgain⟩ := second
  obtain ⟨-, rfl⟩ := lawful.injective _ _ _ _ (hashed.trans hashedAgain.symm)
  rw [decoded] at decodedAgain
  exact Except.ok.inj decodedAgain

inductive CommitAncestor (wire : Wire) : Digest → Digest → Prop
  | self (digest : Digest) : CommitAncestor wire digest digest
  | older {digest parent ancestor : Digest} {commit : CommitManifest}
      (stored : ObjectAt wire .commit wire.commit digest commit)
      (names : commit.parent = some parent) (rest : CommitAncestor wire parent ancestor) :
      CommitAncestor wire digest ancestor

theorem CommitAncestor.trans {wire : Wire} {first second third : Digest}
    (newer : CommitAncestor wire first second) (older : CommitAncestor wire second third) :
    CommitAncestor wire first third := by
  induction newer with
  | self => exact older
  | older stored names _ ih => exact .older stored names (ih older)

theorem CommitAncestor.cases_parent {wire : Wire} (lawful : wire.Lawful) {digest ancestor : Digest}
    {manifest : CommitManifest}
    (stored : ObjectAt wire .commit wire.commit digest manifest)
    (older : CommitAncestor wire digest ancestor) :
    ancestor = digest ∨
      ∃ parent ∈ manifest.parent, CommitAncestor wire parent ancestor := by
  cases older with
  | self => exact .inl rfl
  | older storedAgain names rest =>
      rw [storedAgain.unique lawful stored] at names
      exact .inr ⟨_, names, rest⟩

inductive BelowRoot (wire : Wire) (root : Digest) : Kind → Digest → Prop
  | root : BelowRoot wire root .dir root
  | entry {digest : Digest} {manifest : DirManifest} {entry : DirEntry}
      (below : BelowRoot wire root .dir digest)
      (stored : ObjectAt wire .dir wire.dir digest manifest) (member : entry ∈ manifest.entries) :
      BelowRoot wire root entry.type.kind entry.node
  | chunk {digest : Digest} {manifest : FileManifest} {chunk : ChunkRef}
      (below : BelowRoot wire root .file digest)
      (stored : ObjectAt wire .file wire.file digest manifest) (member : chunk ∈ manifest.chunks) :
      BelowRoot wire root .chunk chunk.digest

structure ClosureWalker.Within (limits : ClosureLimits) (walker : ClosureWalker) : Prop where
  objects : walker.keys.length ≤ limits.maximumObjects
  edges : walker.edges ≤ limits.maximumEdges
  metadata : walker.metadataBytes ≤ limits.maximumMetadataBytes

section

variable (repository : SnapshotRepository)

def ClosureKey (commit root : Digest) (key : Bytes) : Prop :=
  (∃ digest, CommitAncestor repository.wire commit digest ∧
    key = repository.objectKeyText .commit digest) ∨
  ∃ kind digest, BelowRoot repository.wire root kind digest ∧
    key = repository.objectKeyText kind digest

structure ClosureWalker.Covered (walker : ClosureWalker) (node : ClosureNode) : Prop where
  entries : node.kind = .dir → ∀ manifest,
    ObjectAt repository.wire .dir repository.wire.dir node.digest manifest →
    ∀ entry ∈ manifest.entries, ⟨entry.type.kind, entry.node⟩ ∈ walker.scheduled
  chunks : node.kind = .file → ∀ manifest,
    ObjectAt repository.wire .file repository.wire.file node.digest manifest →
    ∀ chunk ∈ manifest.chunks, repository.objectKeyText .chunk chunk.digest ∈ walker.keys

/-- The state between two steps of the traversal: a scheduled node waits on the stack,
is being visited, or has been dealt with. -/
structure ClosureWalker.Explored (limits : ClosureLimits) (commit root : Digest)
    (visiting : Option ClosureNode) (walker : ClosureWalker) : Prop where
  within : walker.Within limits
  accounted : walker.scheduled.length ≤ walker.edges + 1
  distinct : walker.keys.Nodup
  wanted : ∀ key ∈ walker.keys, ClosureKey repository commit root key
  ancestry : ∀ digest, CommitAncestor repository.wire commit digest →
    repository.objectKeyText .commit digest ∈ walker.keys
  nodes : ∀ node ∈ walker.scheduled, BelowRoot repository.wire root node.kind node.digest ∧
    repository.objectKeyText node.kind node.digest ∈ walker.keys
  pending : ∀ item ∈ walker.work, item.node ∈ walker.scheduled
  covered : ∀ node ∈ walker.scheduled, node ∈ walker.work.map (·.node) ∨
    visiting = some node ∨ walker.Covered repository node

end

structure ClosureWalker.Grown (before after : ClosureWalker) : Prop where
  keys : before.keys ⊆ after.keys
  scheduled : before.scheduled ⊆ after.scheduled
  balance : after.work.length + before.scheduled.length =
    before.work.length + after.scheduled.length

def Request.Answered (request : Request) : Prop := request ≠ .halt

theorem contextErr_answered : Fallible.Ensures Request.Answered contextErr fun _ => True :=
  .request nofun fun _ _ _ => trivial

theorem getImmutableLimited_answered {repository : Repository} {kind : Kind} {digest : Digest} {limit : Nat} :
    Fallible.Ensures Request.Answered (repository.getImmutableLimited kind digest limit)
      fun data => repository.wire.digestObject kind data = digest ∧ data.length ≤ limit := by
  unfold Repository.getImmutableLimited
  have got : Fallible.Ensures Request.Answered
      (storeGet (Repository.objectKey kind digest) ⟨[], limit⟩) fun _ => True :=
    .request nofun fun _ _ _ => trivial
  refine .bind got.attempt ?_
  rintro (error | object) _
  · exact .throw
  · refine .bind (.ofExcept fun _ _ => trivial) fun _ _ => ?_
    refine .bind .failIf fun _ short => ?_
    refine .bind .failIf fun _ same => ?_
    exact .pure ⟨not_not.mp same, by omega⟩

namespace ClosureWalker

variable {repository : SnapshotRepository} {limits : ClosureLimits} {commit root : Digest}
  {visiting : Option ClosureNode} {walker : ClosureWalker}

theorem Grown.refl : Grown walker walker :=
  ⟨fun _ member => member, fun _ member => member, by omega⟩

theorem Grown.trans {middle after : ClosureWalker} (first : Grown walker middle)
    (second : Grown middle after) : Grown walker after := by
  refine ⟨fun _ member => second.keys (first.keys member),
    fun _ member => second.scheduled (first.scheduled member), ?_⟩
  have balance := first.balance
  have balanceAgain := second.balance
  omega

theorem Covered.grow {after : ClosureWalker} {node : ClosureNode}
    (covered : walker.Covered repository node) (keys : walker.keys ⊆ after.keys)
    (scheduled : walker.scheduled ⊆ after.scheduled) : after.Covered repository node where
  entries directory manifest stored entry member :=
    scheduled (covered.entries directory manifest stored entry member)
  chunks file manifest stored chunk member := keys (covered.chunks file manifest stored chunk member)

theorem labelled_yields {α : Type} {label : List Fragment} {action : Closing α}
    {post : α → ClosureWalker → Prop} {fail : ClosureWalker → Prop}
    (yields : action.Yields Request.Answered walker post fail) :
    (labelled label action).Yields Request.Answered walker post fail := by
  refine .attempt yields ?_
  rintro (error | value) after ends
  · exact .throw ends
  · exact .pure ends

theorem getManifest_yields {α : Type} {kind : Kind} {json : JSON α} {digest : Digest}
    (within : walker.Within limits) :
    (getManifest repository limits kind json digest).Yields Request.Answered walker
      (fun value after => ObjectAt repository.wire kind json digest value ∧
        after.Within limits ∧ ∃ bytes, after = { walker with metadataBytes := bytes })
      (Within limits) := by
  refine .lift contextErr_answered within fun _ _ => ?_
  refine .get (.failIf (fun _ => within) fun room => ?_)
  refine .lift getImmutableLimited_answered within ?_
  rintro data ⟨hashed, short⟩
  refine .bindModify ?_
  have still : Within limits
      { walker with metadataBytes := walker.metadataBytes + data.length } := by
    refine ⟨within.objects, within.edges, ?_⟩
    have bounded := within.metadata
    simp only at *
    omega
  cases decoded : decodeJSON json data with
  | error error => exact .throw still
  | ok value => exact .pure ⟨⟨data, hashed, decoded⟩, still, _, rfl⟩

theorem addKey_yields {kind : Kind} {digest : Digest} (within : walker.Within limits)
    (distinct : walker.keys.Nodup) :
    (addKey repository limits kind digest).Yields Request.Answered walker
      (fun _ after => ∃ keys, after = { walker with keys } ∧ after.Within limits ∧ keys.Nodup ∧
        ∀ key, key ∈ keys ↔ key ∈ walker.keys ∨ key = repository.objectKeyText kind digest)
      (Within limits) := by
  refine .get ?_
  by_cases known : repository.objectKeyText kind digest ∈ walker.keys
  · simp only [List.contains_iff_mem.mpr known, if_true]
    refine .pure ⟨walker.keys, rfl, within, distinct, fun key => ?_⟩
    constructor
    · exact .inl
    · rintro (member | rfl)
      · exact member
      · exact known
  · simp only [List.contains_iff_mem, known, if_false]
    refine .failIf (fun _ => within) fun room => .modify ?_
    refine ⟨_, rfl, ⟨?_, within.edges, within.metadata⟩, ?_, by simp⟩
    · simp only [List.length_append, List.length_singleton]
      omega
    · exact List.Nodup.append distinct (List.nodup_singleton _) (by simpa using known)

theorem addEdge_yields (within : walker.Within limits) :
    (addEdge limits).Yields Request.Answered walker
      (fun _ after => after.Within limits ∧ after = { walker with edges := walker.edges + 1 })
      (Within limits) := by
  refine .lift contextErr_answered within fun _ _ => ?_
  refine .get (.failIf (fun _ => within) fun room => .modify ⟨?_, rfl⟩)
  refine ⟨within.objects, ?_, within.metadata⟩
  simp only
  omega

theorem Explored.frame {after : ClosureWalker}
    (explored : walker.Explored repository limits commit root visiting)
    (within : after.Within limits) (keys : after.keys = walker.keys)
    (scheduled : after.scheduled = walker.scheduled) (work : after.work = walker.work)
    (edges : walker.edges ≤ after.edges) :
    after.Explored repository limits commit root visiting := by
  have accounted := explored.accounted
  refine ⟨within, by rw [scheduled]; omega, ?_, ?_, ?_, ?_, ?_, ?_⟩
  · rw [keys]
    exact explored.distinct
  · rw [keys]
    exact explored.wanted
  · rw [keys]
    exact explored.ancestry
  · rw [scheduled, keys]
    exact explored.nodes
  · rw [work, scheduled]
    exact explored.pending
  · rw [scheduled, work]
    intro node member
    refine (explored.covered node member).imp_right (.imp_right fun covered => covered.grow ?_ ?_)
    · rw [keys]
      exact fun _ member => member
    · rw [scheduled]
      exact fun _ member => member

theorem Explored.withKeys {keys : List Bytes} {key : Bytes}
    (explored : walker.Explored repository limits commit root visiting)
    (within : Within limits { walker with keys }) (distinct : keys.Nodup)
    (members : ∀ found, found ∈ keys ↔ found ∈ walker.keys ∨ found = key)
    (wanted : ClosureKey repository commit root key) :
    Explored repository limits commit root visiting { walker with keys } := by
  have kept : walker.keys ⊆ keys := fun found member => (members found).mpr (.inl member)
  refine ⟨within, explored.accounted, distinct, ?_, ?_, ?_, explored.pending, ?_⟩
  · intro found member
    rcases (members found).mp member with old | rfl
    · exact explored.wanted found old
    · exact wanted
  · exact fun digest ancestor => kept (explored.ancestry digest ancestor)
  · exact fun node member => ⟨(explored.nodes node member).1, kept (explored.nodes node member).2⟩
  · intro node member
    rcases explored.covered node member with waits | now | covered
    · exact .inl waits
    · exact .inr (.inl now)
    · exact .inr (.inr (covered.grow kept fun _ member => member))

theorem recordSize_yields {node : ClosureNode} {expectedSize : Int}
    (within : walker.Within limits) :
    (recordSize node expectedSize).Yields Request.Answered walker
      (fun _ after => after.Within limits ∧ ∃ fileSizes linkSizes,
        after = { walker with fileSizes, linkSizes })
      (Within limits) := by
  have kept : ∀ fileSizes linkSizes, Within limits { walker with fileSizes, linkSizes } :=
    fun _ _ => ⟨within.objects, within.edges, within.metadata⟩
  unfold recordSize
  refine .get ?_
  split
  · exact .failIf (fun _ => within) fun _ => .modify ⟨kept _ _, _, _, rfl⟩
  · exact .failIf (fun _ => within) fun _ => .modify ⟨kept _ _, _, _, rfl⟩
  · exact .pure ⟨within, _, _, rfl⟩

theorem Explored.push {node : ClosureNode} {depth : Nat}
    (explored : walker.Explored repository limits commit root visiting)
    (room : walker.scheduled.length ≤ walker.edges)
    (below : BelowRoot repository.wire root node.kind node.digest)
    (key : repository.objectKeyText node.kind node.digest ∈ walker.keys) :
    Explored repository limits commit root visiting { walker with
      scheduled := node :: walker.scheduled, work := ⟨node, depth⟩ :: walker.work } := by
  refine ⟨⟨explored.within.objects, explored.within.edges, explored.within.metadata⟩, ?_,
    explored.distinct, explored.wanted, explored.ancestry, ?_, ?_, ?_⟩
  · simp only [List.length_cons]
    omega
  · intro found member
    rcases List.mem_cons.mp member with rfl | old
    · exact ⟨below, key⟩
    · exact explored.nodes found old
  · intro item member
    rcases List.mem_cons.mp member with rfl | old
    · exact List.mem_cons_self
    · exact List.mem_cons_of_mem _ (explored.pending item old)
  · intro found member
    rcases List.mem_cons.mp member with rfl | old
    · exact .inl List.mem_cons_self
    · rcases explored.covered found old with waits | now | covered
      · exact .inl (List.mem_cons_of_mem _ waits)
      · exact .inr (.inl now)
      · exact .inr (.inr (covered.grow (fun _ member => member)
          fun _ member => List.mem_cons_of_mem _ member))

theorem schedule_yields {node : ClosureNode} {expectedSize : Int} {depth : Nat}
    (explored : walker.Explored repository limits commit root visiting)
    (room : walker.scheduled.length ≤ walker.edges)
    (below : BelowRoot repository.wire root node.kind node.digest) :
    (schedule repository limits node expectedSize depth).Yields Request.Answered walker
      (fun _ after => after.Explored repository limits commit root visiting ∧
        walker.Grown after ∧ node ∈ after.scheduled)
      (Within limits) := by
  refine .failIf (fun _ => explored.within) fun _ => ?_
  refine .bind (recordSize_yields explored.within) ?_
  rintro _ _ ⟨within, fileSizes, linkSizes, rfl⟩
  have sized : Explored repository limits commit root visiting
      { walker with fileSizes, linkSizes } := explored.frame within rfl rfl rfl le_rfl
  refine .get ?_
  by_cases known : node ∈ walker.scheduled
  · simp only [known, if_true]
    exact .pure ⟨sized, ⟨fun _ member => member, fun _ member => member, rfl⟩, known⟩
  · simp only [known, if_false]
    refine .bind (addKey_yields sized.within sized.distinct) ?_
    rintro _ _ ⟨keys, rfl, within, distinct, members⟩
    have keyed := sized.withKeys within distinct members (.inr ⟨_, _, below, rfl⟩)
    refine .modify ⟨keyed.push room below ((members _).mpr (.inr rfl)), ?_, List.mem_cons_self⟩
    refine ⟨fun key member => (members key).mpr (.inl member),
      fun _ member => List.mem_cons_of_mem _ member, ?_⟩
    simp only [List.length_cons]
    omega

theorem visitEntries_yields {depth : Nat} {entries : List DirEntry}
    (explored : walker.Explored repository limits commit root visiting)
    (below : ∀ entry ∈ entries, BelowRoot repository.wire root entry.type.kind entry.node) :
    (visitEntries repository limits depth entries).Yields Request.Answered walker
      (fun _ after => after.Explored repository limits commit root visiting ∧
        walker.Grown after ∧
        ∀ entry ∈ entries, ⟨entry.type.kind, entry.node⟩ ∈ after.scheduled)
      (Within limits) := by
  induction entries generalizing walker with
  | nil => exact .pure ⟨explored, Grown.refl, by simp⟩
  | cons entry rest ih =>
      refine .bind (addEdge_yields explored.within) ?_
      rintro _ _ ⟨within, rfl⟩
      have counted := explored.frame within rfl rfl rfl (Nat.le_succ _)
      refine .bind (schedule_yields counted explored.accounted
        (below entry List.mem_cons_self)) ?_
      rintro _ middle ⟨reached, grown, scheduled⟩
      refine (ih reached fun later member => below later (List.mem_cons_of_mem _ member)).weaken ?_
        fun _ within => within
      rintro _ after ⟨final, grownAgain, covered⟩
      refine ⟨final, Grown.trans ⟨grown.keys, grown.scheduled, grown.balance⟩ grownAgain, ?_⟩
      intro later member
      rcases List.mem_cons.mp member with rfl | member
      · exact grownAgain.scheduled scheduled
      · exact covered later member

theorem visitChunks_yields {chunks : List ChunkRef}
    (explored : walker.Explored repository limits commit root visiting)
    (below : ∀ chunk ∈ chunks, BelowRoot repository.wire root .chunk chunk.digest) :
    (visitChunks repository limits chunks).Yields Request.Answered walker
      (fun _ after => after.Explored repository limits commit root visiting ∧
        walker.Grown after ∧
        ∀ chunk ∈ chunks, repository.objectKeyText .chunk chunk.digest ∈ after.keys)
      (Within limits) := by
  induction chunks generalizing walker with
  | nil => exact .pure ⟨explored, Grown.refl, by simp⟩
  | cons chunk rest ih =>
      refine .bind (addEdge_yields explored.within) ?_
      rintro _ _ ⟨within, rfl⟩
      have counted := explored.frame within rfl rfl rfl (Nat.le_succ _)
      refine .bind (addKey_yields counted.within counted.distinct) ?_
      rintro _ _ ⟨keys, rfl, within, distinct, members⟩
      have reached := counted.withKeys within distinct members
        (.inr ⟨_, _, below chunk List.mem_cons_self, rfl⟩)
      refine (ih reached fun later member => below later (List.mem_cons_of_mem _ member)).weaken ?_
        fun _ within => within
      rintro _ after ⟨final, grown, covered⟩
      have kept : walker.keys ⊆ after.keys := fun key member =>
        grown.keys ((members key).mpr (.inl member))
      refine ⟨final, ⟨kept, grown.scheduled, grown.balance⟩, ?_⟩
      intro later member
      rcases List.mem_cons.mp member with rfl | member
      · exact grown.keys ((members _).mpr (.inr rfl))
      · exact covered later member

theorem Explored.visited {node : ClosureNode}
    (explored : walker.Explored repository limits commit root (some node))
    (covered : walker.Covered repository node) :
    walker.Explored repository limits commit root none := by
  refine { explored with covered := ?_ }
  intro found member
  rcases explored.covered found member with waits | now | done
  · exact .inl waits
  · cases now
    exact .inr (.inr covered)
  · exact .inr (.inr done)

theorem visit_yields (lawful : repository.wire.Lawful) {item : ClosureWork}
    (explored : walker.Explored repository limits commit root (some item.node))
    (scheduled : item.node ∈ walker.scheduled) :
    (visit repository limits item).Yields Request.Answered walker
      (fun _ after => after.Explored repository limits commit root none ∧ walker.Grown after)
      (Within limits) := by
  obtain ⟨⟨kind, digest⟩, depth⟩ := item
  have below : BelowRoot repository.wire root kind digest := (explored.nodes _ scheduled).1
  unfold visit
  cases kind with
  | dir =>
      refine .bind (labelled_yields (getManifest_yields explored.within)) ?_
      rintro manifest _ ⟨stored, within, bytes, rfl⟩
      have read := explored.frame within rfl rfl rfl le_rfl
      refine .ofExcept (fun _ _ => within) fun _ _ => ?_
      refine (visitEntries_yields read fun entry member => .entry below stored member).weaken ?_
        fun _ within => within
      rintro _ after ⟨final, grown, covered⟩
      refine ⟨final.visited ⟨?_, nofun⟩, ⟨grown.keys, grown.scheduled, grown.balance⟩⟩
      intro _ found foundStored entry member
      rw [foundStored.unique lawful stored] at member
      exact covered entry member
  | file =>
      refine .bind (labelled_yields (getManifest_yields explored.within)) ?_
      rintro manifest _ ⟨stored, within, bytes, rfl⟩
      have read := explored.frame within rfl rfl rfl le_rfl
      refine .ofExcept (fun _ _ => within) fun _ _ => ?_
      refine .get (.failIf (fun _ => within) fun _ => ?_)
      refine (visitChunks_yields read fun chunk member => .chunk below stored member).weaken ?_
        fun _ within => within
      rintro _ after ⟨final, grown, covered⟩
      refine ⟨final.visited ⟨nofun, ?_⟩, ⟨grown.keys, grown.scheduled, grown.balance⟩⟩
      intro _ found foundStored chunk member
      rw [foundStored.unique lawful stored] at member
      exact covered chunk member
  | symlink =>
      refine .bind (labelled_yields (getManifest_yields explored.within)) ?_
      rintro manifest _ ⟨stored, within, bytes, rfl⟩
      have read := explored.frame within rfl rfl rfl le_rfl
      refine .ofExcept (fun _ _ => within) fun _ _ => ?_
      refine .get (.check (fun _ => within) fun _ => ⟨read.visited ⟨nofun, nofun⟩, ?_⟩)
      exact ⟨fun _ member => member, fun _ member => member, rfl⟩
  | chunk => exact .throw explored.within
  | commit => exact .throw explored.within
  | publicationIntent => exact .throw explored.within
  | publicationReference => exact .throw explored.within
  | publicationJournal => exact .throw explored.within

theorem Explored.pop {item : ClosureWork} {rest : List ClosureWork}
    (explored : walker.Explored repository limits commit root none)
    (stack : walker.work = item :: rest) :
    Explored repository limits commit root (some item.node) { walker with work := rest } := by
  refine ⟨⟨explored.within.objects, explored.within.edges, explored.within.metadata⟩,
    explored.accounted, explored.distinct, explored.wanted, explored.ancestry, explored.nodes,
    ?_, ?_⟩
  · intro later member
    exact explored.pending later (stack ▸ List.mem_cons_of_mem _ member)
  · intro node member
    rcases explored.covered node member with waits | now | covered
    · rw [stack, List.map_cons, List.mem_cons] at waits
      rcases waits with rfl | waits
      · exact .inr (.inl rfl)
      · exact .inl waits
    · cases now
    · exact .inr (.inr (covered.grow (fun _ member => member) fun _ member => member))

theorem walk_yields (lawful : repository.wire.Lawful) {fuel : Nat}
    (explored : walker.Explored repository limits commit root none)
    (enough : walker.work.length + (limits.maximumEdges + 1 - walker.scheduled.length) < fuel) :
    (walk repository limits fuel).Yields Request.Answered walker
      (fun _ after => after.Explored repository limits commit root none ∧ after.work = [] ∧
        walker.scheduled ⊆ after.scheduled)
      (Within limits) := by
  induction fuel generalizing walker with
  | zero => omega
  | succ fuel ih =>
      refine .get ?_
      cases stack : walker.work with
      | nil => exact .pure ⟨explored, stack, fun _ member => member⟩
      | cons item rest =>
          refine .lift contextErr_answered explored.within fun _ _ => .bindModify ?_
          have scheduled : item.node ∈ walker.scheduled :=
            explored.pending item (stack ▸ List.mem_cons_self)
          refine .bind (visit_yields lawful (explored.pop stack) scheduled) ?_
          rintro _ middle ⟨reached, grown⟩
          have bounded : middle.scheduled.length ≤ limits.maximumEdges + 1 := by
            have accounted := reached.accounted
            have edges := reached.within.edges
            omega
          have shorter : walker.work.length = rest.length + 1 := by rw [stack, List.length_cons]
          have balance := grown.balance
          have longer : walker.scheduled.length ≤ limits.maximumEdges + 1 := by
            have accounted := explored.accounted
            have edges := explored.within.edges
            omega
          refine (ih reached (by simp only at balance; omega)).weaken ?_ fun _ within => within
          rintro _ after ⟨final, empty, kept⟩
          exact ⟨final, empty, fun _ member => kept (grown.scheduled member)⟩

theorem Explored.complete (explored : walker.Explored repository limits commit root none)
    (empty : walker.work = []) (started : ⟨.dir, root⟩ ∈ walker.scheduled) {kind : Kind}
    {digest : Digest} (below : BelowRoot repository.wire root kind digest) :
    (kind ≠ .chunk → ⟨kind, digest⟩ ∈ walker.scheduled) ∧
      repository.objectKeyText kind digest ∈ walker.keys := by
  have done : ∀ node ∈ walker.scheduled, walker.Covered repository node := by
    intro node member
    rcases explored.covered node member with waits | now | covered
    · simp [empty] at waits
    · cases now
    · exact covered
  induction below with
  | root => exact ⟨fun _ => started, (explored.nodes _ started).2⟩
  | entry _ stored member ih =>
      have scheduled := (done _ (ih.1 nofun)).entries rfl _ stored _ member
      exact ⟨fun _ => scheduled, (explored.nodes _ scheduled).2⟩
  | chunk _ stored member ih =>
      exact ⟨fun notChunk => absurd rfl notChunk,
        (done _ (ih.1 nofun)).chunks rfl _ stored _ member⟩

structure Climbing (repository : SnapshotRepository) (limits : ClosureLimits)
    (commit : Digest) (walker : ClosureWalker) : Prop where
  within : walker.Within limits
  distinct : walker.keys.Nodup
  commits : ∀ key ∈ walker.keys, ∃ digest, CommitAncestor repository.wire commit digest ∧
    key = repository.objectKeyText .commit digest
  idle : walker.scheduled = [] ∧ walker.work = [] ∧ walker.edges = 0

theorem Climbing.addKey {keys : List Bytes} {digest : Digest}
    (climbing : walker.Climbing repository limits commit)
    (within : Within limits { walker with keys }) (distinct : keys.Nodup)
    (members : ∀ key, key ∈ keys ↔
      key ∈ walker.keys ∨ key = repository.objectKeyText .commit digest)
    (above : CommitAncestor repository.wire commit digest) :
    Climbing repository limits commit { walker with keys } := by
  refine ⟨within, distinct, ?_, climbing.idle⟩
  intro key member
  rcases (members key).mp member with old | rfl
  · exact climbing.commits key old
  · exact ⟨digest, above, rfl⟩

theorem addAncestry_yields (lawful : repository.wire.Lawful) {digest : Digest}
    {manifest : CommitManifest} {older : Nat}
    (climbing : walker.Climbing repository limits commit)
    (stored : ObjectAt repository.wire .commit repository.wire.commit digest manifest)
    (checked : validateCommitManifest manifest (older + 1) = .ok ())
    (above : CommitAncestor repository.wire commit digest) :
    (addAncestry repository limits digest manifest older).Yields Request.Answered walker
      (fun _ after => after.Climbing repository limits commit ∧ walker.keys ⊆ after.keys ∧
        ∀ ancestor, CommitAncestor repository.wire digest ancestor →
          repository.objectKeyText .commit ancestor ∈ after.keys)
      (Within limits) := by
  induction older generalizing digest manifest walker with
  | zero =>
      refine (addKey_yields climbing.within climbing.distinct).weaken ?_ fun _ within => within
      rintro _ _ ⟨keys, rfl, within, distinct, members⟩
      refine ⟨climbing.addKey within distinct members above,
        fun key member => (members key).mpr (.inl member), ?_⟩
      intro ancestor reaches
      have first : manifest.parent = none := (validateCommitManifest_ok.mp checked).2.2.2
      rcases reaches.cases_parent lawful stored with rfl | ⟨parent, named, _⟩
      · exact (members _).mpr (.inr rfl)
      · rw [first] at named
        cases named
  | succ older ih =>
      refine .bind (addKey_yields climbing.within climbing.distinct) ?_
      rintro _ _ ⟨keys, rfl, within, distinct, members⟩
      have added := climbing.addKey within distinct members above
      refine .lift contextErr_answered within fun _ _ => ?_
      have named : ∃ parent, manifest.parent = some parent ∧ parent.isZero = false :=
        (validateCommitManifest_ok.mp checked).2.2.2
      obtain ⟨parent, named, nonzero⟩ := named
      simp only [named, Option.filter, nonzero, decide_true, if_true]
      refine .bind (labelled_yields (getManifest_yields within)) ?_
      rintro ancestor _ ⟨storedAgain, withinAgain, bytes, rfl⟩
      refine .ofExcept (fun _ _ => withinAgain) fun _ checkedAgain => ?_
      have climbed : Climbing repository limits commit
          { { walker with keys } with metadataBytes := bytes } :=
        ⟨withinAgain, added.distinct, added.commits, added.idle⟩
      have next : CommitAncestor repository.wire commit parent :=
        above.trans (.older stored named (.self parent))
      refine (ih climbed storedAgain (mapError_ok.mp checkedAgain) next).weaken ?_
        fun _ within => within
      rintro _ after ⟨final, kept, complete⟩
      refine ⟨final, fun key member => kept ((members key).mpr (.inl member)), ?_⟩
      intro found reaches
      rcases reaches.cases_parent lawful stored with rfl | ⟨other, namedAgain, rest⟩
      · exact kept ((members _).mpr (.inr rfl))
      · rw [named] at namedAgain
        cases namedAgain
        exact complete found rest

theorem collectClosure_yields (lawful : repository.wire.Lawful) {reference : SnapshotReference}
    (positive : reference.generation ≠ 0) :
    (collectClosure repository limits reference).Yields Request.Answered .empty
      (fun manifest after => after.Within limits ∧ after.keys.Nodup ∧
        ObjectAt repository.wire .commit repository.wire.commit reference.commit manifest ∧
        ∀ key, key ∈ after.keys ↔ ClosureKey repository reference.commit manifest.root key)
      (Within limits) := by
  have start : Within limits .empty := ⟨Nat.zero_le _, Nat.zero_le _, Nat.zero_le _⟩
  refine .bind (labelled_yields (getManifest_yields start)) ?_
  rintro manifest _ ⟨stored, within, bytes, rfl⟩
  refine .ofExcept (fun _ _ => within) fun _ checked => ?_
  have climbing : Climbing repository limits reference.commit
      { ClosureWalker.empty with metadataBytes := bytes } :=
    ⟨within, List.nodup_nil, fun _ member => absurd member List.not_mem_nil, rfl, rfl, rfl⟩
  have generation : reference.generation - 1 + 1 = reference.generation := by omega
  refine .bind (addAncestry_yields lawful climbing stored
    (generation.symm ▸ mapError_ok.mp checked) (.self _)) ?_
  rintro _ climbed ⟨added, _, complete⟩
  obtain ⟨noNodes, noWork, noEdges⟩ := added.idle
  have explored : climbed.Explored repository limits reference.commit manifest.root none := by
    refine ⟨added.within, by simp [noNodes], added.distinct, ?_, complete, ?_, ?_, ?_⟩
    · exact fun key member => .inl (added.commits key member)
    · simp [noNodes]
    · simp [noWork]
    · simp [noNodes]
  refine .bind (schedule_yields explored (by simp [noNodes]) .root) ?_
  rintro _ scheduled ⟨begun, grown, started⟩
  have balance := grown.balance
  have accounted := begun.accounted
  have bounded := begun.within.edges
  have single : scheduled.work.length = scheduled.scheduled.length := by
    simpa [noNodes, noWork] using balance
  refine .bind (walk_yields lawful begun (by omega)) ?_
  rintro _ after ⟨final, empty, kept⟩
  refine .pure ⟨final.within, final.distinct, stored, fun key => ⟨final.wanted key, ?_⟩⟩
  rintro (⟨digest, ancestor, rfl⟩ | ⟨kind, digest, below, rfl⟩)
  · exact final.ancestry digest ancestor
  · exact (final.complete empty (kept started) below).2

end ClosureWalker

theorem sortStrings_strict {keys : List Bytes} (distinct : keys.Nodup) :
    (sortStrings keys).Pairwise (· < ·) := by
  have sorted : (sortStrings keys).Pairwise (· ≤ ·) := List.pairwise_insertionSort _ _
  have unique : (sortStrings keys).Nodup := (List.perm_insertionSort _ _).nodup_iff.mpr distinct
  refine (sorted.and unique).imp ?_
  rintro left right ⟨le, ne⟩
  by_contra notLess
  exact ne (List.le_antisymm le notLess)

theorem parseSnapshotReference_answered {wire : Wire} {data : Bytes} {channel : Channel}
    {verifier : Option ReferenceVerifier} :
    Fallible.Ensures Request.Answered (parseSnapshotReference wire data channel verifier)
      fun _ => True := by
  cases verifier with
  | none => exact .ofExcept fun _ _ => trivial
  | some verifier =>
      unfold parseSnapshotReference verifySignedSnapshotReference
      refine .bind .failIf fun _ _ => ?_
      refine .bind (.ofExcept fun _ _ => trivial) fun envelope _ => ?_
      have verified : Fallible.Ensures Request.Answered (verifierVerify envelope.reference.keyID
          (referenceSigningMessage (wire.payload.marshal envelope.reference)) envelope.signature)
          fun _ => True := .request nofun fun _ _ _ => trivial
      refine .bind verified.attempt ?_
      rintro (error | _) _
      · exact .throw
      · exact .pure trivial

theorem verifySnapshotReference_answered {wire : Wire} {data : Bytes} {channel : Channel}
    {verifier : Option ReferenceVerifier} :
    Fallible.Ensures Request.Answered (verifySnapshotReference wire data channel verifier)
      fun identity => identity.generation ≠ 0 := by
  unfold verifySnapshotReference
  refine .bind contextErr_answered fun _ _ => ?_
  refine .bind (.ofExcept fun _ _ => trivial) fun _ _ => ?_
  refine .bind .failIf fun _ _ => ?_
  refine .bind parseSnapshotReference_answered fun reference _ => ?_
  refine .bind .failIf fun _ valid => .pure ?_
  exact fun zero => valid (.inr (.inl zero))

theorem getReferenceWithVerifier_answered {repository : Repository} {channel : Channel}
    {ifNoneMatch : Bytes} {verifier : Option ReferenceVerifier} :
    Fallible.Ensures Request.Answered
      (repository.getReferenceWithVerifier channel ifNoneMatch verifier)
      fun found => found.1.generation ≠ 0 := by
  unfold Repository.getReferenceWithVerifier
  refine .bind (.request nofun fun _ _ _ => trivial) fun object _ => ?_
  refine .bind (.ofExcept fun _ _ => trivial) fun _ _ => ?_
  exact .bind verifySnapshotReference_answered fun _ positive => .pure positive

section

def plainRepository : SnapshotRepository where
  wire := concreteWire
  keyPrefix := []
  clientEncryption := none
  sha256 data := ⟨data⟩

def emptyDirectory : DirManifest := ⟨objectFormatVersion, []⟩

def sharingDirectory : DirManifest :=
  let node := concreteWire.digestObject .dir (concreteWire.dir.marshal emptyDirectory)
  ⟨objectFormatVersion, [⟨[97], .directory, node, 0, 0, 0⟩, ⟨[98], .directory, node, 0, 0, 0⟩]⟩

def sharingCommit : CommitManifest :=
  ⟨objectFormatVersion, 1, none,
    concreteWire.digestObject .dir (concreteWire.dir.marshal sharingDirectory), 0, false⟩

def fullStore : (request : Request) → Option (Answer request)
  | .get (.object _ digest) _ => some (.ok ⟨digest.bytes.tail, ⟨[49], []⟩⟩)
  | .get (.reference _) _ => some (.ok ⟨concreteWire.reference.marshal ⟨objectFormatVersion, 1,
      concreteWire.digestObject .commit (concreteWire.commit.marshal sharingCommit)⟩, ⟨[49], []⟩⟩)
  | .contextErr => some none
  | _ => none

end

end S3Disk
