import CuCascade.Data.HostConversion
import CuCascade.Proofs.HostFailure
import CuCascade.Proofs.RoundTrip

/-!
# Spilling to a host that is full

A host resource has two ways to refuse blocks. It answers with a null pointer
when its capacity does not admit them, and both converters read through the
pointer. It throws when the pool cannot be expanded, and the exception goes
through the converters and leaves the batch alone; what it leaves of the charges
is a matter of the resource.
-/

namespace CuCascade.Memory.HostResource

variable {r : HostResource} {totalBytes : UInt64}
  {upstream : Nat → UInt64 → Except Exception Addr}

/-- The capacity admits the blocks for so many bytes. -/
def Admits (r : HostResource) (totalBytes : UInt64) : Prop :=
  r.allocatedBytes.toNat + (alignUp totalBytes r.blockSize).toNat ≤
    r.memoryCapacity.toNat

/-- The call fails in one of the two ways. -/
def Fails (r : HostResource) (totalBytes : UInt64)
    (upstream : Nat → UInt64 → Except Exception Addr) : Prop :=
  (r.allocateMultipleBlocks totalBytes none upstream).2 = .ok none ∨
    ∃ e, (r.allocateMultipleBlocks totalBytes none upstream).2 = .error (.thrown e)

theorem Fails.sizes (h : r.Fails totalBytes upstream) :
    totalBytes ≠ 0 ∧ r.blockSize ≠ 0 := by
  constructor
  · intro hzero
    simp only [Fails, allocateMultipleBlocks, if_pos hzero] at h
    rcases h with h | ⟨e, h⟩ <;> cases h
  · intro hzero
    by_cases hbytes : totalBytes = 0
    · simp only [Fails, allocateMultipleBlocks, if_pos hbytes] at h
      rcases h with h | ⟨e, h⟩ <;> cases h
    · simp only [Fails, allocateMultipleBlocks, if_neg hbytes, if_pos hzero] at h
      rcases h with h | ⟨e, h⟩ <;> cases h

theorem Fails.eq (h : r.Fails totalBytes upstream) :
    r.allocateMultipleBlocks totalBytes none upstream =
      r.allocateTracked upstream (alignUp totalBytes r.blockSize)
        (alignUp totalBytes r.blockSize) none := by
  rw [allocateMultipleBlocks, if_neg h.sizes.1, if_neg h.sizes.2]

/-- The null answer is the one for want of capacity. -/
theorem Fails.null_iff (h : r.Fails totalBytes upstream) :
    (r.allocateMultipleBlocks totalBytes none upstream).2 = .ok none ↔
      ¬ r.Admits totalBytes := by
  rw [h.eq]
  rcases Nat.lt_or_ge r.memoryCapacity.toNat
    (r.allocatedBytes.toNat + (alignUp totalBytes r.blockSize).toNat) with hlt | hle
  · refine iff_of_true ?_ (Nat.not_le.mpr hlt)
    simp only [allocateTracked, Utils.tryAdd_of_lt hlt]
  · refine iff_of_false ?_ (not_not.mpr hle)
    simp only [allocateTracked, Utils.tryAdd_of_le hle]
    rcases takeBlocks upstream _ _ [] with ⟨r', e | ⟨_ | _, taken⟩⟩
    all_goals exact fun h => by cases h

/-- The call throws and leaves the resource as it was when the capacity admits
the blocks and it is not the upstream that throws. -/
theorem Fails.throws_restored_iff (h : r.Fails totalBytes upstream) :
    ((∃ e, (r.allocateMultipleBlocks totalBytes none upstream).2 = .error (.thrown e)) ∧
        r.Restores (r.allocateMultipleBlocks totalBytes none upstream).1) ↔
      r.Admits totalBytes ∧ ¬ ThrowsWithin upstream r (r.numBlocks totalBytes) := by
  have hnone : ∀ a, (r.allocateMultipleBlocks totalBytes none upstream).2 ≠
      .ok (some a) := by
    intro a ha
    rcases h with h | ⟨e, h⟩ <;> cases h.symm.trans ha
  have hrestores : r.Restores (r.allocateMultipleBlocks totalBytes none upstream).1 ↔
      ¬ (r.Admits totalBytes ∧ ThrowsWithin upstream r (r.numBlocks totalBytes)) :=
    allocate_restores_loose hnone h.eq.symm
  rw [hrestores]
  constructor
  · rintro ⟨⟨e, he⟩, hnot⟩
    have hadmits : r.Admits totalBytes := by
      by_contra hfull
      rw [h.null_iff.mpr hfull] at he
      cases he
    exact ⟨hadmits, fun hthrows => hnot ⟨hadmits, hthrows⟩⟩
  · rintro ⟨hadmits, hthrows⟩
    refine ⟨?_, fun hboth => hthrows hboth.2⟩
    rcases h with hnull | hthrown
    · exact absurd hadmits ((Fails.null_iff (.inl hnull)).mp hnull)
    · exact hthrown

end CuCascade.Memory.HostResource

namespace CuCascade.Data

open Memory

variable {T : Type} {cudf : Cudf T} {ndebug : Bool}
  {upstream : Nat → UInt64 → Except Exception Addr} {fuel : Nat}
  {source : TableSource T} {target : HostSpace} {mr : HostResource} {b : DataBatch}
  {made : Addr}

/-- The assertion of the converter between hosts: the two spaces have different
device ids. -/
def TableSource.Asserts (source : TableSource T) (ndebug : Bool) (target : HostSpace) :
    Prop :=
  match source with
  | gpu _ => False
  | host source _ =>
      source.memorySpaceId.deviceId = target.space.id.deviceId ∧ ndebug = false

theorem convert_of_asserts (cudf : Cudf T)
    (upstream : Nat → UInt64 → Except Exception Addr) (fuel : Nat)
    (h : source.Asserts ndebug target) :
    ∃ text, source.convert cudf ndebug upstream fuel target =
      some (target, .error (.assertion text)) := by
  cases source with
  | gpu source => exact h.elim
  | host source memory =>
      rw [TableSource.Asserts] at h
      simp only [TableSource.convert, convertHostToHost, if_pos h]
      exact ⟨_, rfl⟩

/-- What an allocation that gives no blocks does to a converter: an exception goes
through it, and a null answer is read through. -/
def failureOf {α : Type} : Except Failure (Option α) → Option Failure
  | .error e => some e
  | .ok none => some .nullDereference
  | .ok (some _) => none

/-- Both converters end as the allocation makes them end. -/
theorem convert_of_failure (hasserts : ¬ source.Asserts ndebug target)
    (hmr : target.memoryResource = some mr) {mr' : HostResource}
    {answer : Except Failure (Option MultipleBlocksAllocation)} {e : Failure}
    (h : mr.allocateMultipleBlocks (source.size cudf) none upstream = (mr', answer))
    (he : failureOf answer = some e) :
    source.convert cudf ndebug upstream fuel target =
      some (target.withResource mr', .error e) := by
  cases source with
  | gpu source =>
      rw [TableSource.size] at h
      simp only [TableSource.convert, convertGpuToHost, hmr, h]
      rcases answer with e' | _ | blocks <;> cases he <;> rfl
  | host source memory =>
      rw [TableSource.size] at h
      rw [TableSource.Asserts] at hasserts
      simp only [TableSource.convert, convertHostToHost, if_neg hasserts, hmr, h]
      rcases answer with e' | _ | blocks <;> cases he <;> rfl

/-- The conversion ends with an exception, and the books of the target are as
they were. -/
def Refused (mr : HostResource) (target' : HostSpace) {α : Type}
    (result : Except Failure α) : Prop :=
  (∃ e, result = .error (.thrown e)) ∧
    ∃ mr' ∈ target'.memoryResource, mr.Restores mr'

/-- Both the converter and the batch refuse, and the batch is as it was. -/
structure FullHostReported (cudf : Cudf T) (ndebug : Bool)
    (upstream : Nat → UInt64 → Except Exception Addr) (fuel : Nat)
    (source : TableSource T) (target : HostSpace) (mr : HostResource) (b : DataBatch)
    (made : Addr) : Prop where
  converter : ∃ target' result,
    source.convert cudf ndebug upstream fuel target = some (target', result) ∧
      Refused mr target' result
  batch : ∃ target' out,
    b.convertToHost cudf ndebug upstream fuel source made target = some (target', out) ∧
      out.batch = b ∧ Refused mr target' out.result

/-- The converter refuses, if it does not stop at its assertion, when the
allocation does. -/
theorem refused_iff (fuel : Nat) (hasserts : ¬ source.Asserts ndebug target)
    (hmr : target.memoryResource = some mr) (hfails : mr.Fails (source.size cudf) upstream) :
    (∃ target' result,
      source.convert cudf ndebug upstream fuel target = some (target', result) ∧
        Refused mr target' result) ↔
      mr.Admits (source.size cudf) ∧
        ¬ HostResource.ThrowsWithin upstream mr (mr.numBlocks (source.size cudf)) := by
  rw [← hfails.throws_restored_iff]
  rcases hcall : mr.allocateMultipleBlocks (source.size cudf) none upstream with
    ⟨mr', e | answer⟩
  · rw [convert_of_failure hasserts hmr hcall rfl]
    constructor
    · rintro ⟨target', result, hsome, ⟨e', he⟩, mr'', hmr'', hrestores⟩
      cases hsome
      cases he
      cases hmr''
      exact ⟨⟨e', rfl⟩, hrestores⟩
    · rintro ⟨⟨e', he⟩, hrestores⟩
      cases he
      exact ⟨_, _, rfl, ⟨e', rfl⟩, mr', rfl, hrestores⟩
  · have hnull : answer = none := by
      rcases hfails with h | ⟨e, h⟩
      · rw [hcall] at h
        cases h
        rfl
      · rw [hcall] at h
        cases h
    subst hnull
    rw [convert_of_failure hasserts hmr hcall rfl]
    refine iff_of_false ?_ ?_
    · rintro ⟨target', result, hsome, ⟨e', he⟩, -⟩
      cases hsome
      cases he
    · rintro ⟨⟨e', he⟩, -⟩
      cases he

/-- A batch hands the refusal on. -/
theorem convertToHost_of_refused (hmr : target.memoryResource = some mr)
    (hdata : b.data ≠ none)
    (h : ∃ target' result,
      source.convert cudf ndebug upstream fuel target = some (target', result) ∧
        Refused mr target' result) :
    ∃ target' out,
      b.convertToHost cudf ndebug upstream fuel source made target = some (target', out) ∧
        out.batch = b ∧ Refused mr target' out.result := by
  by_cases hcount : b.processingCount ≠ 0
  · refine ⟨target, b.convertTo fun _ => .ok none, if_pos (.inl hcount), ?_⟩
    rw [DataBatch.convertTo, if_pos hcount]
    exact ⟨rfl, ⟨_, rfl⟩, mr, hmr, .refl mr⟩
  · obtain ⟨target', result, hconvert, ⟨e, rfl⟩, hmr'⟩ := h
    have hcalls : ¬ (b.processingCount ≠ 0 ∨ b.data = none) := by
      rintro (h | h)
      · exact hcount h
      · exact hdata h
    obtain ⟨data, hsome⟩ := Option.ne_none_iff_exists'.mp hdata
    refine ⟨target', b.convertTo fun _ => .error (.thrown e), ?_, ?_⟩
    · rw [DataBatch.convertToHost, if_neg hcalls, hconvert]
      rfl
    · simp only [DataBatch.convertTo, if_neg hcount, hsome]
      exact ⟨rfl, ⟨e, rfl⟩, hmr'⟩

/-- A host space around a resource. -/
def hostSpaceOf (mr : HostResource) : HostSpace :=
  ⟨⟨⟨.HOST, 0⟩, .host mr, .fresh⟩, fun _ _ => 0⟩

/-- A table of 32 bytes on a device, and a batch that holds it. -/
def deviceTable : TableSource DeviceBuffer :=
  .gpu ⟨⟨List.replicate 32 7, by decide⟩, ⟨.GPU, 0⟩⟩

def deviceBatch : DataBatch := .create 1 (some ⟨7, ⟨.GPU, 0⟩⟩)

/-- Room for 16 bytes. -/
def smallHost : HostResource := .create 16 16 16 4 [0x1000]

end CuCascade.Data
