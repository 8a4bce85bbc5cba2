import S3Disk.CallSafety
import S3Disk.Simulation

/-! No reference ever names an incomplete snapshot. -/

namespace S3Disk

open Concurrent Relation

variable {world : World} {log : Log}

def Names (wire : Wire) (log : Log) (node child : Kind × Digest) : Prop :=
  ∃ object ∈ versions log (.object node.1 node.2), ∃ children,
    named wire object.data node.1 = some children ∧ child ∈ children

def Complete (wire : Wire) (log : Log) (node : Kind × Digest) : Prop :=
  ∃ object ∈ versions log (.object node.1 node.2),
    wire.digestObject node.1 object.data = node.2 ∧ (named wire object.data node.1).isSome

theorem complete_of_stored (valid : Valid world.law log) {node : Kind × Digest}
    (stored : versions log (.object node.1 node.2) ≠ []) :
    Complete world.repository.wire log node := by
  obtain ⟨object, member⟩ := List.exists_mem_of_ne_nil _ stored
  obtain ⟨_, _, hashed, children, found, _⟩ := storesWell_of_mem valid member
  exact ⟨object, member, hashed, by simp [found]⟩

theorem stored_of_names (valid : Valid world.law log) {node child : Kind × Digest}
    (names : Names world.repository.wire log node child) :
    versions log (.object child.1 child.2) ≠ [] := by
  obtain ⟨object, member, children, found, inside⟩ := names
  obtain ⟨older, grown, _, children', found', held⟩ := storesWell_of_mem valid member
  obtain rfl : children = children' := by simpa [found] using found'
  exact versions_nonempty_mono grown (held child inside)

theorem complete_of_reaches (valid : Valid world.law log) {node descendant : Kind × Digest}
    (stored : versions log (.object node.1 node.2) ≠ [])
    (reaches : ReflTransGen (Names world.repository.wire log) node descendant) :
    Complete world.repository.wire log descendant := by
  refine complete_of_stored valid ?_
  induction reaches with
  | refl => exact stored
  | tail _ step _ => exact stored_of_names valid step

theorem commit_stored_of_line {wire : Wire} {values : List Point}
    (linear : Each (Lineage.Grows (PointParent wire log) (PointRoot wire log)) values)
    {point : Point} (member : point ∈ values) :
    versions log (.object .commit point.commit) ≠ [] := by
  induction values with
  | nil => simp at member
  | cons newest older ih =>
      rcases List.mem_cons.mp member with rfl | earlier
      · cases older with
        | nil =>
            obtain ⟨_, ⟨object, inside, _⟩, _⟩ := linear.1
            exact List.ne_nil_of_mem inside
        | cons previous rest =>
            rcases linear.1 with same | ⟨_, ⟨object, inside, _⟩, _⟩
            · exact ih linear.2 (by simp [same])
            · exact List.ne_nil_of_mem inside
      · exact ih linear.2 earlier

/-- At every instant, the closure of every commit that is or was visible is stored: the
commits down to the first, their trees, and every file, link and chunk below. -/
theorem snapshot_complete (lawful : world.repository.wire.Lawful)
    {config : Config Request Answer PublisherCall Effect World.Memory PublisherResult}
    (reachable : world.machine.Reachable config) {key : Key} (isReference : key.IsReference)
    {object : Object} (visible : object ∈ versions config.log key) :
    ∃ point, pointOf world.repository.wire key object.data = some point ∧
      ∀ node, ReflTransGen (Names world.repository.wire config.log) (.commit, point.commit) node →
        Complete world.repository.wire config.log node := by
  have valid : Valid world.law config.log := ((publishers_verified lawful).reachable reachable).valid
  obtain ⟨point, member, asserted⟩ := point_of_mem valid isReference visible
  have stored := commit_stored_of_line (points_linear valid isReference) member
  exact ⟨point, asserted, fun node reaches => complete_of_reaches valid stored reaches⟩

theorem snapshot_complete_simulated :
    ∃ config object point, (Simulation.world true).machine.Reachable config ∧
      object ∈ versions config.log (.signedReference Simulation.channel) ∧
      pointOf concreteWire (.signedReference Simulation.channel) object.data = some point ∧
      ∀ node, ReflTransGen (Names concreteWire config.log) (.commit, point.commit) node →
        Complete concreteWire config.log node := by
  have computed : (Simulation.run true (Simulation.publishEmpty 1 ++ Simulation.publishNested 2)).any
      (fun config => (versions config.log (.signedReference Simulation.channel)).length == 2) =
      true := by decide +kernel
  obtain ⟨config, reachable, two⟩ := Simulation.exists_reachable computed
  have stored : versions config.log (.signedReference Simulation.channel) ≠ [] := by
    intro empty
    simp [empty] at two
  obtain ⟨object, member⟩ := List.exists_mem_of_ne_nil _ stored
  have reference : (Key.signedReference Simulation.channel).IsReference := trivial
  obtain ⟨point, asserted, complete⟩ :=
    snapshot_complete concreteWire_lawful reachable reference member
  exact ⟨config, object, point, reachable, member, asserted, complete⟩

end S3Disk
