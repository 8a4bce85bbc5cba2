import S3Disk.Library.Histories
import S3Disk.RepositorySafety

/-! Reads of immutable objects from a store that has them. -/

namespace S3Disk

open Concurrent

structure ProperVersion (version : Version) : Prop where
  named : version.eTag ≠ []
  short : version.eTag.length ≤ maxStoreVersionTokenBytes
  brief : version.versionID.length ≤ maxStoreVersionTokenBytes

variable {fits : Exchange Request Answer → Prop} {repository : Repository}

theorem contextErr_succeeds (alive : ∀ answer, fits ⟨.contextErr, answer⟩ → answer = none) :
    contextErr.Succeeds fits fun _ => True := by
  refine .request ?_
  intro answer fitting
  rw [alive answer fitting]
  exact ⟨(), rfl, trivial⟩

theorem acquireDownload_succeeds {charge : Int}
    (granted : ∀ answer, fits ⟨.acquireDownload charge, answer⟩ → answer = .ok ()) :
    (acquireDownload charge).Succeeds fits fun _ => True := by
  refine .request ?_
  intro answer fitting
  rw [granted answer fitting]
  exact ⟨(), rfl, trivial⟩

theorem getImmutableLimited_succeeds {kind : Kind} {digest : Digest} {limit : Nat}
    {post : Bytes → Prop}
    (served : ∀ answer, fits ⟨.get (.object kind digest) ⟨[], limit⟩, answer⟩ →
      ∃ object : Object, answer = .ok object ∧ ProperVersion object.version ∧
        object.data.length ≤ limit ∧ repository.wire.digestObject kind object.data = digest ∧
        post object.data) :
    (repository.getImmutableLimited kind digest limit).Succeeds fits post := by
  unfold Repository.getImmutableLimited
  have asked : (storeGet (Repository.objectKey kind digest) ⟨[], limit⟩).Succeeds fits
      fun object => ProperVersion object.version ∧ object.data.length ≤ limit ∧
        repository.wire.digestObject kind object.data = digest ∧ post object.data := by
    refine .request ?_
    intro answer fitting
    obtain ⟨object, rfl, right⟩ := served answer fitting
    exact ⟨object, rfl, right⟩
  refine .bind asked.attempt ?_
  rintro _ ⟨object, rfl, version, short, hashed, holds⟩
  have checked : (Fallible.ofExcept (validateStoreVersion ["GET immutable ", kind.text]
      object.version) : Proc Unit).Succeeds fits fun _ => True :=
    .ofExcept (validateStoreVersion_ok.mpr ⟨version.named, version.short, version.brief⟩) trivial
  refine .bind checked fun _ _ => ?_
  refine .bind (.failIf (by omega)) fun _ _ => ?_
  exact .bind (.failIf (not_not.mpr hashed)) fun _ _ => .pure holds

end S3Disk
