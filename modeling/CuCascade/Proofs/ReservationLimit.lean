import CuCascade.Memory.Configurator

/-!
# A reservation limit in bytes

`build` divides the limit of a GPU by the memory of the device, and
`reservation_limit` multiplies the fraction by the capacity of the space. The
limit that comes out is the one that went in when the two are the same, and
smaller otherwise. For hosts both are the capacity of the space, which divides
as long as it is not zero: a total capacity smaller than the number of hosts
leaves each of them nothing.
-/

namespace CuCascade.Memory

open Share

section Bytes

variable {capacity total bytes : UInt64}

theorem toSize_share {n : UInt64} {f : Rat} (hpos : 0 ≤ f) (hf : f ≤ 1) :
    toSize ((n.toNat : Rat) * f) = some (UInt64.ofNat (share n.toNat f)) := by
  have hnonneg : 0 ≤ (n.toNat : Rat) * f := mul_nonneg (Nat.cast_nonneg _) hpos
  have hle : (n.toNat : Rat) * f ≤ n.toNat :=
    mul_le_of_le_one_right (Nat.cast_nonneg _) hf
  have hlt : (n.toNat : Rat) < 2 ^ 64 := by exact_mod_cast n.toNat_lt
  have hlow : -1 < (n.toNat : Rat) * f := by linarith
  rw [toSize, if_pos ⟨hlow, hle.trans_lt hlt⟩, share]

theorem toNat_share {n : UInt64} {f : Rat} (hf : f ≤ 1) :
    (UInt64.ofNat (share n.toNat f)).toNat = share n.toNat f :=
  UInt64.toNat_ofNat_of_lt' ((share_le hf).trans_lt n.toNat_lt)

/-- The round trip of a number of bytes. -/
theorem limitOf_div_iff (hct : capacity ≤ total) (hbt : bytes ≤ total) (ht : 0 < total) :
    limitOf capacity (some ((bytes.toNat : Rat) / (total.toNat : Rat))) = some bytes ↔
      bytes = 0 ∨ capacity = total := by
  have hpos : 0 < total.toNat := UInt64.lt_iff_toNat_lt.mp ht
  have hpos' : (0 : Rat) < total.toNat := Nat.cast_pos.mpr hpos
  have hnonneg : (0 : Rat) ≤ bytes.toNat / total.toNat :=
    div_nonneg (Nat.cast_nonneg _) (Nat.cast_nonneg _)
  have hone : (bytes.toNat : Rat) / total.toNat ≤ 1 := by
    rw [div_le_one hpos']
    exact Nat.cast_le.mpr (UInt64.le_iff_toNat_le.mp hbt)
  rw [limitOf, Option.bind_some, toSize_share hnonneg hone, Option.some.injEq,
    ← UInt64.toNat_inj, toNat_share hone,
    share_div_eq_iff (UInt64.le_iff_toNat_le.mp hct) hpos, ← UInt64.toNat_inj (a := capacity),
    ← UInt64.toNat_inj (a := bytes)]
  rfl

end Bytes

/-- A capacity setting that takes all of a device. -/
def FractionOrSize.Whole (s : FractionOrSize) (totalSize : UInt64) : Prop :=
  match s with
  | .fraction f => f.value = 1
  | .size bytes => bytes = totalSize

section Settings

variable {s : FractionOrSize} {capacity total bytes : UInt64} {fraction : Option Rat}

theorem getCapacity_le (h : s.getCapacity total = .ok capacity) : capacity ≤ total := by
  cases s with
  | fraction f =>
      cases h
      rw [UInt64.le_iff_toNat_le, toNat_share f.le_one]
      exact share_le f.le_one
  | size bytes =>
      rw [FractionOrSize.getCapacity] at h
      by_cases hfits : bytes ≤ total ∧ 0 < total
      · rw [if_pos hfits] at h
        cases h
        exact hfits.1
      · rw [if_neg hfits] at h
        cases h

theorem getCapacity_eq_iff (h : s.getCapacity total = .ok capacity) (ht : 0 < total) :
    capacity = total ↔ s.Whole total := by
  cases s with
  | fraction f =>
      cases h
      rw [← UInt64.toNat_inj, toNat_share f.le_one,
        share_eq_self_iff (UInt64.lt_iff_toNat_lt.mp ht) f.le_one]
      rfl
  | size bytes =>
      rw [FractionOrSize.getCapacity] at h
      by_cases hfits : bytes ≤ total ∧ 0 < total
      · rw [if_pos hfits] at h
        cases h
        rfl
      · rw [if_neg hfits] at h
        cases h

theorem getFraction_size (h : (FractionOrSize.size bytes).getFraction total = .ok fraction) :
    bytes ≤ total ∧ fraction =
      if total = 0 then none else some ((bytes.toNat : Rat) / (total.toNat : Rat)) := by
  rw [FractionOrSize.getFraction] at h
  by_cases hfits : bytes ≤ total
  · rw [if_pos hfits] at h
    cases h
    exact ⟨hfits, rfl⟩
  · rw [if_neg hfits] at h
    cases h

/-- The round trip through the two classes. -/
theorem limitOf_getFraction_iff
    (hfraction : (FractionOrSize.size bytes).getFraction total = .ok fraction)
    (hct : capacity ≤ total) :
    limitOf capacity fraction = some bytes ↔
      0 < total ∧ (bytes = 0 ∨ capacity = total) := by
  obtain ⟨hbt, rfl⟩ := getFraction_size hfraction
  by_cases hzero : total = 0
  · rw [if_pos hzero, hzero]
    exact iff_of_false (fun h => by cases h) fun h => absurd h.1 (by decide)
  · have ht : 0 < total := UInt64.pos_iff_ne_zero.mpr hzero
    rw [if_neg hzero, limitOf_div_iff hct hbt ht]
    exact ⟨fun h => ⟨ht, h⟩, fun h => h.2⟩

end Settings

namespace ReservationManagerConfigurator

variable {M : Type} {c : ReservationManagerConfigurator M} {bytes : UInt64}
  {totalMemory : Int → UInt64} {topology : SystemTopologyInfo} {gpus : List GpuInfo}
  {configs : List (MemorySpaceConfig M)}

/-- A computation that ends well has ended well in both halves. -/
theorem exists_of_bind_ok {α β ε : Type} {x : Except ε α} {f : α → Except ε β} {b : β}
    (h : x >>= f = .ok b) : ∃ a, x = .ok a ∧ f a = .ok b := by
  cases x with
  | error e => cases h
  | ok a => exact ⟨a, rfl, h⟩

/-- What a loop that can fail has made, turn by turn. -/
theorem forall₂_of_mapM_ok {α β ε : Type} {f : α → Except ε β} {l : List α}
    {l' : List β} (h : l.mapM f = .ok l') :
    List.Forall₂ (fun a b => f a = .ok b) l l' := by
  induction l generalizing l' with
  | nil =>
      cases h
      exact .nil
  | cons a l ih =>
      rw [List.mapM_cons] at h
      obtain ⟨b, hfirst, h⟩ := exists_of_bind_ok h
      obtain ⟨bs, hrest, h⟩ := exists_of_bind_ok h
      cases h
      exact .cons hfirst (ih hrest)

/-- A configuration of a GPU has its capacity and its fraction from the settings. -/
theorem gpuConfig_parts {info : GpuInfo} {config : GpuMemorySpaceConfig M}
    (h : c.gpuConfig info = .ok config) :
    c.gpuCapacity.getCapacity info.gpuCapacity = .ok config.memoryCapacity ∧
      c.gpuReservation.getFraction info.gpuCapacity =
        .ok config.reservationLimitFraction := by
  rw [gpuConfig] at h
  obtain ⟨capacity, hcapacity, h⟩ := exists_of_bind_ok h
  obtain ⟨fraction, hfraction, h⟩ := exists_of_bind_ok h
  cases h
  exact ⟨hcapacity, hfraction⟩

theorem hostConfig_parts {perHost : UInt64} {info : HostInfo}
    {config : HostMemorySpaceConfig M} (h : c.hostConfig perHost info = .ok config) :
    config.memoryCapacity = perHost ∧
      c.cpuReservation.getFraction perHost = .ok config.reservationLimitFraction := by
  rw [hostConfig] at h
  obtain ⟨fraction, hfraction, h⟩ := exists_of_bind_ok h
  cases h
  exact ⟨rfl, hfraction⟩

/-- A configuration of a GPU keeps a limit in bytes when the space is the whole
device, and when there is nothing to keep. -/
theorem gpuConfig_limit_iff {info : GpuInfo} {config : GpuMemorySpaceConfig M}
    (hlimit : c.gpuReservation = .size bytes) (ht : 0 < info.gpuCapacity)
    (h : c.gpuConfig info = .ok config) :
    config.reservationLimit = some bytes ↔
      bytes = 0 ∨ c.gpuCapacity.Whole info.gpuCapacity := by
  obtain ⟨hcapacity, hfraction⟩ := gpuConfig_parts h
  rw [hlimit] at hfraction
  rw [GpuMemorySpaceConfig.reservationLimit,
    limitOf_getFraction_iff hfraction (getCapacity_le hcapacity),
    getCapacity_eq_iff hcapacity ht]
  exact ⟨fun h => h.2, fun h => ⟨ht, h⟩⟩

theorem hostConfig_limit_iff {perHost : UInt64} {info : HostInfo}
    {config : HostMemorySpaceConfig M} (hlimit : c.cpuReservation = .size bytes)
    (h : c.hostConfig perHost info = .ok config) :
    config.reservationLimit = some bytes ↔ 0 < perHost := by
  obtain ⟨hcapacity, hfraction⟩ := hostConfig_parts h
  rw [hlimit] at hfraction
  rw [HostMemorySpaceConfig.reservationLimit, hcapacity,
    limitOf_getFraction_iff hfraction (UInt64.le_refl perHost)]
  exact ⟨fun h => h.1, fun h => ⟨h, .inr rfl⟩⟩

/-- The parts of what `build` returns. -/
theorem build_parts (hgpus : c.extractGpuIds totalMemory topology = .ok gpus)
    (hbuild : c.build totalMemory topology = .ok configs) :
    ∃ gpuConfigs hostConfigs,
      List.Forall₂ (fun info config => c.gpuConfig info = .ok config) gpus gpuConfigs ∧
      List.Forall₂
        (fun info config => c.hostConfig
          (c.perHostCapacity (c.extractHostIds gpus).length) info = .ok config)
        (c.extractHostIds gpus) hostConfigs ∧
      configs = gpuConfigs.map .gpu ++ hostConfigs.map .host ++
        c.diskMountingPoints.map fun dinfo => .disk (diskConfig dinfo) := by
  rw [build] at hbuild
  obtain ⟨gpus', hgpus', hbuild⟩ := exists_of_bind_ok hbuild
  cases hgpus.symm.trans hgpus'
  obtain ⟨gpuConfigs, hgpu, hbuild⟩ := exists_of_bind_ok hbuild
  obtain ⟨hostConfigs, hhost, hbuild⟩ := exists_of_bind_ok hbuild
  cases hbuild
  exact ⟨gpuConfigs, hostConfigs, forall₂_of_mapM_ok hgpu, forall₂_of_mapM_ok hhost, rfl⟩

theorem mem_of_forall₂ {α β : Type} {R : α → β → Prop} {l : List α} {l' : List β}
    (h : List.Forall₂ R l l') {b : β} (hb : b ∈ l') : ∃ a ∈ l, R a b := by
  induction h with
  | nil => cases hb
  | @cons a b' l l' hR _ ih =>
      rcases List.mem_cons.mp hb with heq | hb
      · exact ⟨a, List.mem_cons_self, heq ▸ hR⟩
      · obtain ⟨a', ha', hR'⟩ := ih hb
        exact ⟨a', List.mem_cons_of_mem a ha', hR'⟩

/-- Every GPU has its configuration in what `build` returns, and there are no
others. -/
theorem mem_gpu_build (hgpus : c.extractGpuIds totalMemory topology = .ok gpus)
    (hbuild : c.build totalMemory topology = .ok configs) :
    (∀ config, .gpu config ∈ configs → ∃ info ∈ gpus, c.gpuConfig info = .ok config) ∧
      ∀ info ∈ gpus, ∃ config, .gpu config ∈ configs ∧ c.gpuConfig info = .ok config := by
  obtain ⟨gpuConfigs, hostConfigs, hgpu, -, rfl⟩ := build_parts hgpus hbuild
  constructor
  · intro config hmem
    have hconfig : config ∈ gpuConfigs := by simpa using hmem
    exact mem_of_forall₂ hgpu hconfig
  · intro info hinfo
    obtain ⟨config, hconfig, hmade⟩ := mem_of_forall₂ hgpu.flip hinfo
    exact ⟨config, by simpa using hconfig, hmade⟩

theorem mem_host_build (hgpus : c.extractGpuIds totalMemory topology = .ok gpus)
    (hbuild : c.build totalMemory topology = .ok configs) :
    (∀ config, .host config ∈ configs → ∃ info ∈ c.extractHostIds gpus,
      c.hostConfig (c.perHostCapacity (c.extractHostIds gpus).length) info = .ok config) ∧
      ∀ info ∈ c.extractHostIds gpus, ∃ config, .host config ∈ configs ∧
        c.hostConfig (c.perHostCapacity (c.extractHostIds gpus).length) info =
          .ok config := by
  obtain ⟨gpuConfigs, hostConfigs, -, hhost, rfl⟩ := build_parts hgpus hbuild
  constructor
  · intro config hmem
    have hconfig : config ∈ hostConfigs := by simpa using hmem
    exact mem_of_forall₂ hhost hconfig
  · intro info hinfo
    obtain ⟨config, hconfig, hmade⟩ := mem_of_forall₂ hhost.flip hinfo
    exact ⟨config, by simpa using hconfig, hmade⟩

/-- A limit set in bytes, and not above the capacity, is the limit of every
configuration. -/
structure LimitsHonoured (c : ReservationManagerConfigurator M)
    (configs : List (MemorySpaceConfig M)) : Prop where
  gpu : ∀ bytes, c.gpuReservation = .size bytes → ∀ config, .gpu config ∈ configs →
    bytes ≤ config.memoryCapacity → config.reservationLimit = some bytes
  host : ∀ bytes, c.cpuReservation = .size bytes → ∀ config, .host config ∈ configs →
    bytes ≤ config.memoryCapacity → config.reservationLimit = some bytes

/-- The limit of each GPU is nothing, or the space is the whole device; and the
hosts have a capacity. -/
structure SameBase (c : ReservationManagerConfigurator M) (gpus : List GpuInfo) :
    Prop where
  gpu : ∀ bytes, c.gpuReservation = .size bytes → ∀ info ∈ gpus, ∀ capacity,
    c.gpuCapacity.getCapacity info.gpuCapacity = .ok capacity → bytes ≤ capacity →
      bytes = 0 ∨ c.gpuCapacity.Whole info.gpuCapacity
  host : ∀ bytes, c.cpuReservation = .size bytes → c.extractHostIds gpus ≠ [] →
    0 < c.perHostCapacity (c.extractHostIds gpus).length

theorem hostConfig_capacity {perHost : UInt64} {info : HostInfo}
    {config : HostMemorySpaceConfig M} (hlimit : c.cpuReservation = .size bytes)
    (h : c.hostConfig perHost info = .ok config) : bytes ≤ config.memoryCapacity := by
  obtain ⟨hcapacity, hfraction⟩ := hostConfig_parts h
  rw [hlimit] at hfraction
  rw [hcapacity]
  exact (getFraction_size hfraction).1

/-- `build` keeps the limits in bytes exactly when both classes reckon them
against the same number. -/
theorem build_limitsHonoured_iff
    (hgpus : c.extractGpuIds totalMemory topology = .ok gpus)
    (hbuild : c.build totalMemory topology = .ok configs)
    (hmemory : ∀ info ∈ gpus, 0 < info.gpuCapacity) :
    c.LimitsHonoured configs ↔ c.SameBase gpus := by
  obtain ⟨hgpu, hgpu'⟩ := mem_gpu_build hgpus hbuild
  obtain ⟨hhost, hhost'⟩ := mem_host_build hgpus hbuild
  constructor
  · intro h
    refine ⟨fun bytes hlimit info hinfo capacity hcapacity hle => ?_,
      fun bytes hlimit hhosts => ?_⟩
    · obtain ⟨config, hconfig, hmade⟩ := hgpu' info hinfo
      have hsame : capacity = config.memoryCapacity := by
        have heq := hcapacity.symm.trans (gpuConfig_parts hmade).1
        cases heq
        rfl
      have hkept := h.gpu bytes hlimit config hconfig (hsame ▸ hle)
      exact (gpuConfig_limit_iff hlimit (hmemory info hinfo) hmade).mp hkept
    · obtain ⟨info, hinfo⟩ := List.exists_mem_of_ne_nil _ hhosts
      obtain ⟨config, hconfig, hmade⟩ := hhost' info hinfo
      have hkept := h.host bytes hlimit config hconfig (hostConfig_capacity hlimit hmade)
      exact (hostConfig_limit_iff hlimit hmade).mp hkept
  · intro h
    refine ⟨fun bytes hlimit config hconfig hle => ?_,
      fun bytes hlimit config hconfig _ => ?_⟩
    · obtain ⟨info, hinfo, hmade⟩ := hgpu config hconfig
      rw [gpuConfig_limit_iff hlimit (hmemory info hinfo) hmade]
      exact h.gpu bytes hlimit info hinfo _ (gpuConfig_parts hmade).1 hle
    · obtain ⟨info, hinfo, hmade⟩ := hhost config hconfig
      rw [hostConfig_limit_iff hlimit hmade]
      exact h.host bytes hlimit (List.ne_nil_of_mem hinfo)

def gib (n : UInt64) : UInt64 := n <<< 30

/-- One GPU of 16 GiB. -/
def oneGpu : SystemTopologyInfo := ⟨[⟨0, 0⟩]⟩

/-- A limit of 4 GiB for the GPU and of 1 GiB for the host. -/
def fourAndOne : ReservationManagerConfigurator Unit :=
  setReservationLimitPerHost
    (setReservationLimitPerGpu
      { gpuMrFn := fun _ _ => (), cpuMrFn := fun _ _ => () } (gib 4)) (gib 1)

/-- A configurator as it is constructed, with the two factories set. -/
def untouched : ReservationManagerConfigurator Unit :=
  { gpuMrFn := fun _ _ => (), cpuMrFn := fun _ _ => () }

theorem build_limitsHonoured_wholeGpu :
    ∃ configs, (fourAndOne.setGpuUsageLimit (gib 16)).build (fun _ => gib 16) oneGpu =
        .ok configs ∧
      (fourAndOne.setGpuUsageLimit (gib 16)).LimitsHonoured configs := by
  have hgpus : (fourAndOne.setGpuUsageLimit (gib 16)).extractGpuIds (fun _ => gib 16)
    oneGpu = .ok [⟨0, 0, gib 16, 0⟩] := rfl
  refine ⟨_, rfl, (build_limitsHonoured_iff hgpus rfl ?_).mpr ⟨?_, ?_⟩⟩
  · decide
  · intro bytes _ info hinfo _ _ _
    rw [List.mem_singleton.mp hinfo]
    exact .inr rfl
  · intro _ _ _
    decide

/-- On half of the GPU the limit is halved as well. -/
theorem byte_limit_halved :
    ∃ configs config, (fourAndOne.setGpuUsageLimit (gib 8)).build (fun _ => gib 16)
        oneGpu = .ok configs ∧
      .gpu config ∈ configs ∧ gib 4 ≤ config.memoryCapacity ∧
      config.reservationLimit = some (gib 2) ∧
      ¬ (fourAndOne.setGpuUsageLimit (gib 8)).LimitsHonoured configs := by
  refine ⟨_, _, rfl, List.mem_cons_self, by decide, by decide +kernel, fun h => ?_⟩
  have hkept := h.gpu (gib 4) rfl _ List.mem_cons_self (by decide)
  revert hkept
  decide +kernel

end ReservationManagerConfigurator

end CuCascade.Memory
