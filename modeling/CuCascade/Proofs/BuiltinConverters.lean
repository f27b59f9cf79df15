import CuCascade.Data.ConverterRegistry

/-!
# Registering the built-in converters

One registration either adds its converter or throws and leaves the registry
alone. Several in a row stop at the first that throws, and what was added before
stays. So all four are registered or none, unless the first one to be refused
comes after one that was not.
-/

namespace CuCascade.Data

open Memory

namespace ConverterRegistry

variable {T : Type} [DecidableEq T] {r : ConverterRegistry T} {key : ConverterKey T}
  {converter : RepresentationConverterFn}
  {l : List (ConverterKey T × RepresentationConverterFn)}

theorem registerConverter_of_mem (h : key ∈ r.converters) :
    r.registerConverter key converter =
      (r, .error (.thrown (.runtimeError
        ("Converter already registered " ++ r.describe key)))) := by
  rw [registerConverter, if_pos h]

theorem registerConverter_of_not_mem (h : key ∉ r.converters) :
    r.registerConverter key converter =
      ({ r with converters := r.converters.insert key converter }, .ok ()) := by
  rw [registerConverter, if_neg h]

/-- The registry `r'` is `r` with these converters, and otherwise the same. -/
structure Adds (l : List (ConverterKey T × RepresentationConverterFn))
    (r r' : ConverterRegistry T) : Prop where
  name : r'.name = r.name
  typeOf : r'.typeOf = r.typeOf
  added : ∀ e ∈ l, r'.converters.lookup e.1 = some e.2
  others : ∀ key, key ∉ l.map (·.1) → r'.converters.lookup key = r.converters.lookup key

/-- All of them are registered, or the call throws that one of them was there already
and leaves the registry as it was. -/
def AllOrNothing (l : List (ConverterKey T × RepresentationConverterFn))
    (r : ConverterRegistry T) (out : Result (ConverterRegistry T) Unit) : Prop :=
  (out.2 = .ok () ∧ Adds l r out.1) ∨
    ∃ e ∈ l, e.1 ∈ r.converters ∧ out.1 = r ∧
      out.2 = .error (.thrown (.runtimeError
        ("Converter already registered " ++ r.describe e.1)))

theorem adds_nil (r : ConverterRegistry T) : Adds [] r r :=
  ⟨rfl, rfl, nofun, fun _ _ => rfl⟩

theorem adds_cons {r' : ConverterRegistry T} (hkey : key ∉ l.map (·.1))
    (h : Adds l { r with converters := r.converters.insert key converter } r') :
    Adds ((key, converter) :: l) r r' := by
  refine ⟨h.name, h.typeOf, fun e he => ?_, fun key' hkey' => ?_⟩
  · rcases List.mem_cons.mp he with rfl | he
    · exact (h.others key hkey).trans (AList.lookup_insert r.converters)
    · exact h.added e he
  · rw [List.map_cons, List.mem_cons, not_or] at hkey'
    exact (h.others key' hkey'.2).trans (AList.lookup_insert_ne hkey'.1)

/-- New keys are all added. -/
theorem registerConverters_of_new (hnodup : (l.map (·.1)).Nodup)
    (h : ∀ e ∈ l, e.1 ∉ r.converters) :
    (r.registerConverters l).2 = .ok () ∧ Adds l r (r.registerConverters l).1 := by
  induction l generalizing r with
  | nil => exact ⟨rfl, adds_nil r⟩
  | cons e l ih =>
      obtain ⟨key, converter⟩ := e
      rw [List.map_cons, List.nodup_cons] at hnodup
      have hnew : ∀ e ∈ l, e.1 ∉ r.converters.insert key converter := by
        intro e he hmem
        rcases (AList.mem_insert _).mp hmem with heq | hold
        · have hkey : e.1 ∈ l.map (·.1) := List.mem_map_of_mem he
          exact hnodup.1 (heq ▸ hkey)
        · exact h e (List.mem_cons_of_mem _ he) hold
      rw [registerConverters, registerConverter_of_not_mem (h _ List.mem_cons_self)]
      obtain ⟨hok, hadds⟩ := ih (r := { r with
        converters := r.converters.insert key converter }) hnodup.2 hnew
      exact ⟨hok, adds_cons hnodup.1 hadds⟩

/-- What a registration adds is not taken out by the next. -/
theorem mem_registerConverters (h : key ∈ r.converters) :
    key ∈ (r.registerConverters l).1.converters := by
  induction l generalizing r with
  | nil => exact h
  | cons e l ih =>
      obtain ⟨key', converter⟩ := e
      rw [registerConverters]
      by_cases hmem : key' ∈ r.converters
      · rw [registerConverter_of_mem hmem]
        exact h
      · rw [registerConverter_of_not_mem hmem]
        exact ih ((AList.mem_insert _).mpr (.inr h))

/-- A key that is there already ends the registrations. -/
theorem registerConverters_throws (hnodup : (l.map (·.1)).Nodup)
    (h : ∃ e ∈ l, e.1 ∈ r.converters) : (r.registerConverters l).2 ≠ .ok () := by
  induction l generalizing r with
  | nil =>
      obtain ⟨e, he, -⟩ := h
      cases he
  | cons e l ih =>
      obtain ⟨key, converter⟩ := e
      rw [registerConverters]
      by_cases hmem : key ∈ r.converters
      · rw [registerConverter_of_mem hmem]
        exact nofun
      · rw [registerConverter_of_not_mem hmem]
        obtain ⟨e, he, hold⟩ := h
        refine ih (List.nodup_cons.mp hnodup).2 ⟨e, ?_, (AList.mem_insert _).mpr (.inr hold)⟩
        rcases List.mem_cons.mp he with rfl | he
        · exact absurd hold hmem
        · exact he

/-- Registrations in a row are all or nothing when none of the keys is taken, or
already the first. -/
theorem allOrNothing_iff (hnodup : (((key, converter) :: l).map (·.1)).Nodup) :
    AllOrNothing ((key, converter) :: l) r
        (r.registerConverters ((key, converter) :: l)) ↔
      key ∈ r.converters ∨ ∀ e ∈ (key, converter) :: l, e.1 ∉ r.converters := by
  constructor
  · intro h
    by_cases hmem : key ∈ r.converters
    · exact .inl hmem
    · refine .inr fun e he hold => ?_
      obtain ⟨hok, -⟩ | ⟨-, -, -, hsame, -⟩ := h
      · exact registerConverters_throws hnodup ⟨e, he, hold⟩ hok
      · have hkept : key ∈ (r.registerConverters ((key, converter) :: l)).1.converters := by
          rw [registerConverters, registerConverter_of_not_mem hmem]
          exact mem_registerConverters ((AList.mem_insert _).mpr (.inl rfl))
        rw [hsame] at hkept
        exact hmem hkept
  · rintro (hmem | hnew)
    · refine .inr ⟨(key, converter), List.mem_cons_self, hmem, ?_⟩
      rw [registerConverters, registerConverter_of_mem hmem]
      exact ⟨rfl, rfl⟩
    · exact .inl (registerConverters_of_new hnodup hnew)

omit [DecidableEq T] in
theorem nodup_builtins (t : BuiltinTypes T) (b : BuiltinConverters) :
    ((builtins t b).map (·.1)).Nodup := by
  have hne := t.ne
  simp [builtins, hne, hne.symm]

/-- `register_builtin_converters` is all or nothing exactly when none of the four
pairs is taken, or the one from GPU to GPU is. -/
theorem registerBuiltinConverters_allOrNothing_iff (r : ConverterRegistry T)
    (t : BuiltinTypes T) (b : BuiltinConverters) :
    AllOrNothing (builtins t b) r (r.registerBuiltinConverters t b) ↔
      ⟨t.gpuTableRepresentation, t.gpuTableRepresentation⟩ ∈ r.converters ∨
        ∀ e ∈ builtins t b, e.1 ∉ r.converters :=
  allOrNothing_iff (nodup_builtins t b)

/-! ## Taking converters out -/

theorem unregisterConverter_spec (r : ConverterRegistry T) (key : ConverterKey T) :
    (r.unregisterConverter key).1.hasConverter key = false ∧
      ∀ other ≠ key,
        (r.unregisterConverter key).1.hasConverter other = r.hasConverter other := by
  constructor
  · simp [unregisterConverter, hasConverter]
  · intro other hne
    simp [unregisterConverter, hasConverter, hne]

/-- A pair that was taken out can be registered again. -/
theorem registerConverter_unregisterConverter (r : ConverterRegistry T)
    (key : ConverterKey T) (converter : RepresentationConverterFn) :
    ((r.unregisterConverter key).1.registerConverter key converter).2 = .ok () := by
  have hgone := (r.unregisterConverter_spec key).1
  rw [registerConverter_of_not_mem (by simpa [hasConverter] using hgone)]

/-- After `clear` all of the built-in converters can be registered. -/
theorem registerBuiltinConverters_clear (r : ConverterRegistry T) (t : BuiltinTypes T)
    (b : BuiltinConverters) :
    (r.clear.registerBuiltinConverters t b).2 = .ok () ∧
      Adds (builtins t b) r.clear (r.clear.registerBuiltinConverters t b).1 :=
  registerConverters_of_new (nodup_builtins t b) fun _ _ => AList.notMem_empty _

/-- The representations by the names of their classes. -/
def libraryTypes : BuiltinTypes String where
  gpuTableRepresentation := "gpu_table_representation"
  hostTableRepresentation := "host_table_representation"
  ne := by decide

/-- Converters that convert nothing. -/
def noConverters : BuiltinConverters :=
  ⟨fun _ _ _ => .ok none, fun _ _ _ => .ok none, fun _ _ _ => .ok none,
    fun _ _ _ => .ok none⟩

/-- A registry with a converter of the user's from host to host. -/
def ownHostToHost : ConverterRegistry String where
  name := id
  typeOf := fun _ => libraryTypes.hostTableRepresentation
  converters := (∅ : Table _ _).insert
    ⟨libraryTypes.hostTableRepresentation, libraryTypes.hostTableRepresentation⟩
    fun _ _ _ => .ok none

/-- The three pairs that come before it are registered all the same. -/
theorem partly_registered :
    (ownHostToHost.registerBuiltinConverters libraryTypes noConverters).1.converters.count =
        4 ∧
      ownHostToHost.converters.count = 1 ∧
      ¬ AllOrNothing (builtins libraryTypes noConverters) ownHostToHost
        (ownHostToHost.registerBuiltinConverters libraryTypes noConverters) := by
  refine ⟨by decide, by decide, fun h => ?_⟩
  obtain ⟨hok, -⟩ | ⟨-, -, -, hsame, -⟩ := h
  · revert hok
    exact nofun
  · have hcount := congrArg (fun r => r.converters.count) hsame
    revert hcount
    decide

end ConverterRegistry

end CuCascade.Data
