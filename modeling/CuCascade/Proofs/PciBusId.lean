import CuCascade.Memory.TopologyDiscovery

/-!
# PCI addresses and the names they are looked up under

An address is four numbers, and NVML and `/sys` write it differently. The
normal form is meant to be the way `/sys` writes it. What it really keeps of a
spelling is the last four digits of the domain and, up to the case of letters,
everything behind them, so a longer domain loses digits and a shorter one stays
short.
-/

namespace CuCascade.Memory

open Text

/-- An address as it may be written: `domain:bus:device.function`, a domain of
at most eight digits, letters in any case. -/
structure PciSpelling where
  domain : HexNumeral
  bus : HexNumeral
  device : HexNumeral
  function : HexNumeral
  domain_short : domain.width ≤ 8

/-- What a spelling is a spelling of. -/
structure PciAddress where
  domain : Nat
  bus : Nat
  device : Nat
  function : Nat
deriving DecidableEq, Repr

namespace PciSpelling

variable {s t : PciSpelling}

def render (s : PciSpelling) : List Char :=
  s.domain.digits ++ ':' :: (s.bus.digits ++ ':' :: (s.device.digits ++ '.' ::
    s.function.digits))

def address (s : PciSpelling) : PciAddress :=
  ⟨s.domain.value, s.bus.value, s.device.value, s.function.value⟩

/-- The address with the part of its domain that fits in 16 bits. -/
def lowAddress (s : PciSpelling) : PciAddress :=
  { s.address with domain := s.domain.value % 2 ^ 16 }

/-- With how many digits the bus, the device and the function are written. -/
def widths (s : PciSpelling) : Nat × Nat × Nat :=
  (s.bus.width, s.device.width, s.function.width)

end PciSpelling

/-- The part before the first colon is four digits, letters in lower case. -/
def FourDigitDomain (pciBusId : List Char) : Prop :=
  let domain := pciBusId.take (pciBusId.idxOf ':')
  domain.length = 4 ∧ ∀ c ∈ domain, digit c < 16 ∧ c.toLower = c

/-- The normal form does for two spellings what it is there for. -/
structure IdentifiesAddresses (s t : PciSpelling) : Prop where
  idempotent : ∀ u ∈ [s, t],
    normalizePciBusId (normalizePciBusId u.render) = normalizePciBusId u.render
  fourDigits : ∀ u ∈ [s, t], u.address.domain < 2 ^ 16 →
    FourDigitDomain (normalizePciBusId u.render)
  sameAddress : s.address = t.address →
    normalizePciBusId s.render = normalizePciBusId t.render
  differentAddress : s.address ≠ t.address →
    normalizePciBusId s.render ≠ normalizePciBusId t.render

/-! ## The normal form of a text -/

/-- What is kept of a text with a colon. -/
theorem normalizePciBusId_of_colon {domain rest : List Char} (h : ':' ∉ domain) :
    normalizePciBusId (domain ++ ':' :: rest) =
      (domain.drop (domain.length - 4)).map Char.toLower ++ ':' :: rest.map Char.toLower := by
  have hshort : domain.length ≠ (domain ++ ':' :: rest).length := by simp
  have hcut : (if 4 < domain.length then domain.drop (domain.length - 4) else domain) =
      domain.drop (domain.length - 4) := by
    split
    · rfl
    · rw [Nat.sub_eq_zero_of_le (by omega), List.drop_zero]
  rw [normalizePciBusId, idxOf_append_cons h, if_neg hshort, List.take_left,
    List.drop_left]
  dsimp only
  rw [hcut, List.map_append, List.map_cons]
  rfl

theorem normalizePciBusId_of_no_colon {pciBusId : List Char} (h : ':' ∉ pciBusId) :
    normalizePciBusId pciBusId = pciBusId :=
  if_pos (List.idxOf_eq_length h)

/-- Of any text the normal form is its own normal form. -/
theorem normalizePciBusId_normalizePciBusId (pciBusId : List Char) :
    normalizePciBusId (normalizePciBusId pciBusId) = normalizePciBusId pciBusId := by
  by_cases hcolon : ':' ∈ pciBusId
  · obtain ⟨domain, rest, rfl, hdomain⟩ := List.eq_append_cons_of_mem hcolon
    have hcut : ':' ∉ (domain.drop (domain.length - 4)).map Char.toLower := by
      rw [mem_map_toLower_iff rfl rfl]
      exact fun hmem => hdomain (List.mem_of_mem_drop hmem)
    rw [normalizePciBusId_of_colon hdomain, normalizePciBusId_of_colon hcut]
    congr 1
    · have hzero : ((domain.drop (domain.length - 4)).map Char.toLower).length - 4 = 0 := by
        rw [List.length_map, List.length_drop]
        omega
      rw [hzero, List.drop_zero, List.map_map]
      exact List.map_congr_left fun c _ => toLower_toLower c
    · rw [List.map_map]
      congr 1
      exact List.map_congr_left fun c _ => toLower_toLower c
  · rw [normalizePciBusId_of_no_colon hcolon, normalizePciBusId_of_no_colon hcolon]

/-! ## The normal form of a spelling -/

namespace PciSpelling

variable {s t : PciSpelling}

theorem normalizePciBusId_render (s : PciSpelling) :
    normalizePciBusId s.render = s.domain.lowerLast 4 ++ ':' ::
      (s.bus.lower ++ ':' :: (s.device.lower ++ '.' :: s.function.lower)) := by
  rw [render, normalizePciBusId_of_colon (HexNumeral.notMem_digits (by decide) _)]
  simp only [List.map_append, List.map_cons]
  rfl

theorem fourDigitDomain_iff (s : PciSpelling) :
    FourDigitDomain (normalizePciBusId s.render) ↔ 4 ≤ s.domain.width := by
  have hcolon := HexNumeral.notMem_lowerLast (c := ':') (by decide) rfl rfl 4 s.domain
  rw [normalizePciBusId_render, FourDigitDomain, idxOf_append_cons hcolon, List.take_left,
    HexNumeral.length_lowerLast]
  constructor
  · intro h
    have hlen := h.1
    omega
  · intro h
    refine ⟨by omega, fun c hc => ?_⟩
    obtain ⟨d, hd, rfl⟩ := List.mem_map.mp hc
    have hhex := s.domain.hex d (List.mem_of_mem_drop hd)
    exact ⟨(digit_toLower hhex).symm ▸ hhex, toLower_toLower d⟩

/-- The normal form keeps how many of the last four domain digits there are,
the widths of the rest, and the address up to the high part of its domain. -/
theorem normalizePciBusId_eq_iff :
    normalizePciBusId s.render = normalizePciBusId t.render ↔
      min 4 s.domain.width = min 4 t.domain.width ∧ s.widths = t.widths ∧
        s.lowAddress = t.lowAddress := by
  have hlast := HexNumeral.notMem_lowerLast (c := ':') (by decide) rfl rfl 4
  have hcolon := HexNumeral.notMem_lower (c := ':') (by decide) rfl rfl
  have hdot := HexNumeral.notMem_lower (c := '.') (by decide) rfl rfl
  rw [normalizePciBusId_render, normalizePciBusId_render,
    append_cons_inj (hlast s.domain) (hlast t.domain),
    append_cons_inj (hcolon s.bus) (hcolon t.bus),
    append_cons_inj (hdot s.device) (hdot t.device), HexNumeral.lowerLast_inj,
    HexNumeral.lower_inj, HexNumeral.lower_inj, HexNumeral.lower_inj]
  simp only [widths, lowAddress, address, Prod.mk.injEq, PciAddress.mk.injEq,
    Nat.reducePow]
  tauto

/-- What is read of a device under `/sys` is read of any other that has the same
low address: its node, and the cores near it. -/
theorem sysfs_eq_of_lowAddress (readFileContent : List Char → List Char)
    (hs : 4 ≤ s.domain.width) (ht : 4 ≤ t.domain.width) (hwidths : s.widths = t.widths)
    (hlow : s.lowAddress = t.lowAddress) :
    getNumaNodeFromSys readFileContent s.render =
        getNumaNodeFromSys readFileContent t.render ∧
      getCpuAffinityFromSys readFileContent s.render =
        getCpuAffinityFromSys readFileContent t.render := by
  have hsame : normalizePciBusId s.render = normalizePciBusId t.render := by
    refine normalizePciBusId_eq_iff.mpr ⟨?_, hwidths, hlow⟩
    rw [Nat.min_eq_left hs, Nat.min_eq_left ht]
  rw [getNumaNodeFromSys, getNumaNodeFromSys, getCpuAffinityFromSys, getCpuAffinityFromSys,
    hsame]
  exact ⟨rfl, rfl⟩

end PciSpelling

/-- A domain of less than four digits fits in 16 bits. -/
theorem PciSpelling.four_le_width_of_fourDigits {s : PciSpelling}
    (h : s.address.domain < 2 ^ 16 → FourDigitDomain (normalizePciBusId s.render)) :
    4 ≤ s.domain.width := by
  by_contra hshort
  have hpow : 16 ^ s.domain.width ≤ 16 ^ 4 := Nat.pow_le_pow_right (by omega) (by omega)
  have hfits : s.address.domain < 2 ^ 16 := lt_of_lt_of_le s.domain.value_lt hpow
  exact hshort (s.fourDigitDomain_iff.mp (h hfits))

/-- The normal form identifies two addresses exactly if both domains are written
with four digits or more, the rest of one address is not written in two widths,
and the addresses do not differ in the high part of the domain alone. -/
theorem normalizePciBusId_identifies_iff (s t : PciSpelling) :
    IdentifiesAddresses s t ↔ 4 ≤ s.domain.width ∧ 4 ≤ t.domain.width ∧
      (s.address = t.address → s.widths = t.widths) ∧
      (s.widths = t.widths → s.lowAddress = t.lowAddress → s.address = t.address) := by
  constructor
  · intro h
    have hs := PciSpelling.four_le_width_of_fourDigits (h.fourDigits s (by simp))
    have ht := PciSpelling.four_le_width_of_fourDigits (h.fourDigits t (by simp))
    refine ⟨hs, ht, ?_, ?_⟩
    · intro hsame
      exact (PciSpelling.normalizePciBusId_eq_iff.mp (h.sameAddress hsame)).2.1
    · intro hwidths hlow
      by_contra hdifferent
      refine h.differentAddress hdifferent (PciSpelling.normalizePciBusId_eq_iff.mpr ?_)
      exact ⟨by rw [Nat.min_eq_left hs, Nat.min_eq_left ht], hwidths, hlow⟩
  · rintro ⟨hs, ht, hwidths, hhigh⟩
    have hfour : ∀ u ∈ [s, t], 4 ≤ u.domain.width := by simp [hs, ht]
    exact {
      idempotent := fun u _ => normalizePciBusId_normalizePciBusId u.render
      fourDigits := fun u hu _ => u.fourDigitDomain_iff.mpr (hfour u hu)
      sameAddress := by
        intro hsame
        refine PciSpelling.normalizePciBusId_eq_iff.mpr ⟨?_, hwidths hsame, ?_⟩
        · rw [Nat.min_eq_left hs, Nat.min_eq_left ht]
        · have hdomain : s.domain.value = t.domain.value :=
            congrArg PciAddress.domain hsame
          rw [PciSpelling.lowAddress, PciSpelling.lowAddress, hsame, hdomain]
      differentAddress := by
        intro hdifferent heq
        obtain ⟨-, hw, hlow⟩ := PciSpelling.normalizePciBusId_eq_iff.mp heq
        exact hdifferent (hhigh hw hlow) }

/-- A device in a domain of five digits, as a volume controller has them. -/
def longDomain : PciSpelling where
  domain := ⟨"10000".toList, HexNumeral.hex_of_all (by decide), by decide⟩
  bus := ⟨"01".toList, HexNumeral.hex_of_all (by decide), by decide⟩
  device := ⟨"00".toList, HexNumeral.hex_of_all (by decide), by decide⟩
  function := ⟨"0".toList, HexNumeral.hex_of_all (by decide), by decide⟩
  domain_short := by decide

/-- The device at the same place in the first domain. -/
def firstDomain : PciSpelling where
  domain := ⟨"0000".toList, HexNumeral.hex_of_all (by decide), by decide⟩
  bus := ⟨"01".toList, HexNumeral.hex_of_all (by decide), by decide⟩
  device := ⟨"00".toList, HexNumeral.hex_of_all (by decide), by decide⟩
  function := ⟨"0".toList, HexNumeral.hex_of_all (by decide), by decide⟩
  domain_short := by decide

/-- The same device with the leading zeros left out. -/
def shortDomain : PciSpelling where
  domain := ⟨"0".toList, HexNumeral.hex_of_all (by decide), by decide⟩
  bus := ⟨"01".toList, HexNumeral.hex_of_all (by decide), by decide⟩
  device := ⟨"00".toList, HexNumeral.hex_of_all (by decide), by decide⟩
  function := ⟨"0".toList, HexNumeral.hex_of_all (by decide), by decide⟩
  domain_short := by decide

/-- Two devices with one name, and one device with two. -/
theorem domains_confused : ¬ IdentifiesAddresses longDomain firstDomain ∧
    ¬ IdentifiesAddresses shortDomain firstDomain := by
  constructor
  · intro h
    exact h.differentAddress (by decide) (by decide)
  · intro h
    exact absurd (h.sameAddress (by decide)) (by decide)

end CuCascade.Memory
