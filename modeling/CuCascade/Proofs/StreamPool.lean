import CuCascade.Memory.StreamPool

/-!
# Borrowed streams come back

A stream is in its pool or in a handle. Every call but one passes it on: to
lend it takes it out of the pool, `reset` and the assignment to a handle put it
back, a move leaves the old handle empty. The destructor is the exception. It
is defaulted, so the callback of a handle that still has one is destroyed
uncalled, and the stream with it.
-/

namespace CuCascade.Memory

namespace PoolWorld

variable {w w' : PoolWorld} {p h : Addr} {s t : StreamId} {e e' : PoolRecord}
  {b : BorrowedStream}

/-- How many live handles hold `s`. -/
def holders (w : PoolWorld) (s : StreamId) : Nat :=
  (w.borrowed.mapVal fun _ b => b.held).owners s

/-- How often `s` is in `_streams` of its pool. -/
def pooled (w : PoolWorld) (s : StreamId) : Nat :=
  (w.pools.lookup s.pool).elim 0 fun e => e.pool.streams.count (some s)

def Created (w : PoolWorld) (s : StreamId) : Prop :=
  ∃ e ∈ w.pools.lookup s.pool, s.index < e.created

/-- No live handle calls back to the pool at `p`. -/
def NoneOut (w : PoolWorld) (p : Addr) : Prop :=
  ∀ h b, w.borrowed.lookup h = some b → b.releaseFn ≠ some p

/-- Each stream is in its pool or with one holder. -/
def Placed (w : PoolWorld) : Prop :=
  ∀ s, w.Created s → w.pooled s + w.holders s = 1

/-- And a pool whose streams are all back has as many as were created for it
and lets nobody wait. -/
structure ComesBack (w : PoolWorld) : Prop where
  placed : w.Placed
  size : ∀ p e, w.pools.lookup p = some e → w.NoneOut p →
    e.pool.size = e.poolSize + e.grown
  available : ∀ p e, w.pools.lookup p = some e → w.NoneOut p →
    ∀ new, e.pool.acquireStream p .BLOCK new ≠ none

/-- A handle is empty or has a stream together with the pool it belongs to, and
a pool contains only streams created for it. -/
structure Sound (w : PoolWorld) : Prop where
  handles : w.borrowed.All fun _ b =>
    b = .movedFrom ∨ ∃ s, b = ⟨some s, some s.pool⟩ ∧ w.Created s
  pools : w.pools.All fun p e =>
    0 < e.poolSize ∧ ∀ s ∈ e.pool.streams, ∃ i < e.created, s = some ⟨p, i⟩

theorem sound_fresh : fresh.Sound := ⟨AList.all_empty, AList.all_empty⟩

/-! ## Where streams are -/

theorem holders_pos (hpos : 0 < w.holders s) (hs : w.Sound) :
    w.Created s ∧ ∃ h, w.borrowed.lookup h = some ⟨some s, some s.pool⟩ := by
  obtain ⟨h, hh⟩ := AList.exists_of_owners_pos hpos
  rw [AList.lookup_mapVal, Option.map_eq_some_iff] at hh
  obtain ⟨b, hb, hheld⟩ := hh
  rcases hs.handles h b hb with rfl | ⟨s', rfl, hcreated⟩
  · cases hheld
  · cases hheld
    exact ⟨hcreated, h, hb⟩

theorem pooled_pos (hpos : 0 < w.pooled s) (hs : w.Sound) : w.Created s := by
  unfold pooled at hpos
  cases hp : w.pools.lookup s.pool with
  | none =>
      rw [hp] at hpos
      exact absurd hpos (Nat.lt_irrefl 0)
  | some e =>
      rw [hp] at hpos
      obtain ⟨i, hi, heq⟩ := (hs.pools _ e hp).2 _ (List.count_pos_iff.mp hpos)
      have hindex := congrArg StreamId.index (Option.some.inj heq)
      exact ⟨e, hp, hindex.symm ▸ hi⟩

theorem places_of_not_created (hs : w.Sound) (hnew : ¬ w.Created s) :
    w.pooled s = 0 ∧ w.holders s = 0 := by
  refine ⟨Nat.eq_zero_of_not_pos ?_, Nat.eq_zero_of_not_pos ?_⟩
  · exact fun hpos => hnew (pooled_pos hpos hs)
  · exact fun hpos => hnew (holders_pos hpos hs).1

theorem pooled_insert {borrowed : Table Addr BorrowedStream} :
    pooled ⟨w.pools.insert p e, borrowed⟩ s =
      if s.pool = p then e.pool.streams.count (some s) else w.pooled s := by
  unfold pooled
  dsimp only
  split
  · next hp => rw [hp, AList.lookup_insert, Option.elim_some]
  · next hp => rw [AList.lookup_insert_ne hp]

theorem created_insert {borrowed : Table Addr BorrowedStream} :
    Created ⟨w.pools.insert p e, borrowed⟩ s ↔
      if s.pool = p then s.index < e.created else w.Created s := by
  unfold Created
  dsimp only
  split
  · next hp =>
      rw [hp, AList.lookup_insert]
      constructor
      · intro ⟨e', he, hlt⟩
        cases he
        exact hlt
      · exact fun hlt => ⟨e, rfl, hlt⟩
  · next hp => rw [AList.lookup_insert_ne hp]

theorem nodup_streams (p : Addr) (n : Nat) :
    ((List.range n).map fun i => (some ⟨p, i⟩ : CudaStream)).Nodup :=
  List.nodup_range.map fun i j hij => by
    cases hij
    rfl

/-- A pool that has all its streams has as many as were created. -/
theorem length_of_placed (hs : w.Sound) (hp : w.pools.lookup p = some e)
    (hplaced : w.Placed) (hback : w.NoneOut p) : e.pool.streams.length = e.created := by
  have hcount : ∀ i < e.created, e.pool.streams.count (some ⟨p, i⟩) = 1 := by
    intro i hi
    have hone := hplaced ⟨p, i⟩ ⟨e, hp, hi⟩
    have hnobody : w.holders ⟨p, i⟩ = 0 := by
      refine Nat.eq_zero_of_not_pos fun hpos => ?_
      obtain ⟨-, h, hh⟩ := holders_pos hpos hs
      exact hback h _ hh rfl
    rw [hnobody, Nat.add_zero, pooled, hp] at hone
    exact hone
  have hperm : e.pool.streams.Perm
      ((List.range e.created).map fun i => some ⟨p, i⟩) := by
    rw [List.perm_iff_count]
    intro s
    by_cases hmem : ∃ i < e.created, s = some ⟨p, i⟩
    · obtain ⟨i, hi, rfl⟩ := hmem
      rw [hcount i hi, List.count_eq_one_of_mem (nodup_streams p _)]
      exact List.mem_map.mpr ⟨i, List.mem_range.mpr hi, rfl⟩
    · rw [List.count_eq_zero_of_not_mem, List.count_eq_zero_of_not_mem]
      · intro hin
        obtain ⟨i, hi, rfl⟩ := List.mem_map.mp hin
        exact hmem ⟨i, List.mem_range.mp hi, rfl⟩
      · exact fun hin => hmem ((hs.pools p e hp).2 s hin)
  rw [hperm.length_eq, List.length_map, List.length_range]

/-- What has to be kept is where the streams are. -/
theorem comesBack_of_placed (hs : w.Sound) (hplaced : w.Placed) :
    w.ComesBack := by
  refine ⟨hplaced, fun p e hp hback => length_of_placed hs hp hplaced hback, ?_⟩
  intro p e hp hback new hwait
  have hlen := length_of_placed hs hp hplaced hback
  have hpos := (hs.pools p e hp).1
  unfold PoolRecord.created at hlen
  cases hlast : e.pool.streams.getLast? with
  | none =>
      rw [List.getLast?_eq_none_iff.mp hlast, List.length_nil] at hlen
      omega
  | some s =>
      unfold ExclusiveStreamPool.acquireStream at hwait
      rw [hlast] at hwait
      cases hwait

/-! ## One call at a time -/

/-- Streams have changed places and that is all. -/
structure Carries (w w' : PoolWorld) : Prop where
  sound : w'.Sound
  created : ∀ s, w'.Created s ↔ w.Created s
  places : ∀ s, w'.pooled s + w'.holders s = w.pooled s + w.holders s

theorem Carries.trans {w'' : PoolWorld} (h : Carries w w') (h' : Carries w' w'') :
    Carries w w'' where
  sound := h'.sound
  created s := (h'.created s).trans (h.created s)
  places s := (h'.places s).trans (h.places s)

theorem Carries.placed (h : Carries w w') (hplaced : w.Placed) : w'.Placed := by
  intro s hs
  rw [h.places]
  exact hplaced s ((h.created s).mp hs)

theorem Sound.insert (hs : w.Sound) (hp : ∀ e₀, w.pools.lookup p = some e₀ →
      e₀.created ≤ e.created) (hpos : 0 < e.poolSize)
    (he : ∀ s ∈ e.pool.streams, ∃ i < e.created, s = some ⟨p, i⟩) :
    Sound ⟨w.pools.insert p e, w.borrowed⟩ where
  handles := by
    intro h b hb
    refine (hs.handles h b hb).imp_right ?_
    intro ⟨s, heq, e₀, he₀, hlt⟩
    refine ⟨s, heq, created_insert.mpr ?_⟩
    split
    · next hpool => exact Nat.lt_of_lt_of_le hlt (hp e₀ (hpool ▸ he₀))
    · exact ⟨e₀, he₀, hlt⟩
  pools := hs.pools.insert ⟨hpos, he⟩

theorem Sound.borrowed_insert (hs : w.Sound)
    (hb : b = .movedFrom ∨ ∃ s, b = ⟨some s, some s.pool⟩ ∧ w.Created s) :
    Sound ⟨w.pools, w.borrowed.insert h b⟩ :=
  ⟨hs.handles.insert hb, hs.pools⟩

theorem holders_insert_new {pools : Table Addr PoolRecord} (hh : h ∉ w.borrowed) :
    holders ⟨pools, w.borrowed.insert h b⟩ s = AList.owns b.held s + w.holders s := by
  unfold holders
  rw [AList.mapVal_insert, AList.owners_insert_new (by rwa [AList.mem_mapVal])]

theorem holders_clear (pools : Table Addr PoolRecord) (s : StreamId)
    (hb : w.borrowed.lookup h = some b) :
    AList.owns b.held s + holders ⟨pools, w.borrowed.insert h .movedFrom⟩ s =
      w.holders s := by
  unfold holders
  rw [AList.mapVal_insert]
  refine AList.owners_clear ?_ s
  rw [AList.lookup_mapVal, hb, Option.map_some]

theorem created_insert_of_eq {borrowed : Table Addr BorrowedStream}
    (hp : w.pools.lookup p = some e) (he : e'.created = e.created) :
    Created ⟨w.pools.insert p e', borrowed⟩ s ↔ w.Created s := by
  rw [created_insert]
  split
  · next hpool =>
      unfold Created
      rw [hpool, hp, he]
      exact ⟨fun hlt => ⟨e, rfl, hlt⟩, fun ⟨_, heq, hlt⟩ => by cases heq; exact hlt⟩
  · rfl

theorem count_singleton_eq (c : CudaStream) (t : StreamId) :
    [c].count (some t) = AList.owns c t := by
  rw [List.count_singleton, AList.owns]
  simp only [beq_iff_eq]

/-- The pool at `p` differs by one stream at the end of `_streams`. -/
theorem pooled_append (e' : PoolRecord) (borrowed : Table Addr BorrowedStream)
    (t : StreamId) (hp : w.pools.lookup s.pool = some e) :
    (e'.pool.streams = e.pool.streams ++ [some s] →
      pooled ⟨w.pools.insert s.pool e', borrowed⟩ t =
        w.pooled t + AList.owns (some s) t) ∧
    (e.pool.streams = e'.pool.streams ++ [some s] →
      w.pooled t = pooled ⟨w.pools.insert s.pool e', borrowed⟩ t +
        AList.owns (some s) t) := by
  rw [pooled_insert]
  split
  · next hpool =>
      unfold pooled
      rw [hpool, hp, Option.elim_some]
      refine ⟨fun h => ?_, fun h => ?_⟩
      all_goals rw [h, List.count_append, count_singleton_eq]
  · next hpool =>
      have hother : AList.owns (some s) t = 0 := by
        rw [AList.owns_some, if_neg]
        exact fun heq => hpool (heq ▸ rfl)
      rw [hother]
      exact ⟨fun _ => rfl, fun _ => rfl⟩

/-- `reset` gives the stream back, if there is one. -/
theorem resetHandle_carries (hs : w.Sound) (hb : w.borrowed.lookup h = some b) :
    Carries w (w.resetHandle h b) ∧
      (w.resetHandle h b).borrowed = w.borrowed.insert h .movedFrom := by
  rcases hs.handles h b hb with rfl | ⟨s, rfl, e, he, hi⟩
  · refine ⟨⟨hs.borrowed_insert (.inl rfl), fun _ => Iff.rfl, fun t => ?_⟩, rfl⟩
    have hclear := holders_clear w.pools t hb
    rw [show BorrowedStream.movedFrom.held = none from rfl, AList.owns_none,
      Nat.zero_add] at hclear
    exact congrArg (w.pooled t + ·) hclear
  · have hreset : w.resetHandle h ⟨some s, some s.pool⟩ =
        ⟨w.pools.insert s.pool { e with pool := e.pool.releaseStream (some s) },
          w.borrowed.insert h .movedFrom⟩ := by
      simp only [resetHandle, BorrowedStream.reset, callBack, Option.mem_def.mp he]
    rw [hreset]
    refine ⟨⟨?_, fun t => created_insert_of_eq he rfl, fun t => ?_⟩, rfl⟩
    · obtain ⟨hpos, hown⟩ := hs.pools s.pool e he
      have hback : Sound ⟨w.pools.insert s.pool
          { e with pool := e.pool.releaseStream (some s) }, w.borrowed⟩ := by
        refine hs.insert (fun e₀ he₀ => ?_) hpos fun t ht => ?_
        · rw [Option.mem_def.mp he] at he₀
          cases he₀
          exact Nat.le_refl _
        · rcases List.mem_append.mp ht with hold | hlast
          · exact hown t hold
          · exact ⟨s.index, hi, List.mem_singleton.mp hlast⟩
      exact hback.borrowed_insert (.inl rfl)
    · have hclear := holders_clear (w.pools.insert s.pool
        { e with pool := e.pool.releaseStream (some s) }) t hb
      rw [(pooled_append _ _ t he).1 rfl]
      simp only [BorrowedStream.held] at hclear
      omega

/-- A move passes the stream on to a handle that has none. -/
theorem moveInto_carries {dst src : Addr} (hs : w.Sound) (hsrc : src ∈ w.borrowed)
    (hdst : dst ∉ w.borrowed ∨
      dst ≠ src ∧ w.borrowed.lookup dst = some .movedFrom) :
    Carries w (w.moveInto dst src) := by
  obtain ⟨b, hb⟩ := Option.isSome_iff_exists.mp (AList.lookup_isSome.mpr hsrc)
  have hmove : w.moveInto dst src =
      ⟨w.pools, (w.borrowed.insert src .movedFrom).insert dst b⟩ := by
    simp only [moveInto, hb]
  rw [hmove]
  refine ⟨?_, fun _ => Iff.rfl, fun t => ?_⟩
  · have hleft := hs.borrowed_insert (h := src) (.inl rfl)
    exact hleft.borrowed_insert (hs.handles src b hb)
  · refine congrArg (w.pooled t + ·) ?_
    unfold holders
    rw [AList.mapVal_insert, AList.mapVal_insert]
    have hheld : (w.borrowed.mapVal fun _ b => b.held).lookup src = some b.held := by
      rw [AList.lookup_mapVal, hb, Option.map_some]
    rcases hdst with hnew | ⟨hne, hempty⟩
    · exact AList.owners_moveConstruct (by rwa [AList.mem_mapVal]) hheld t
    · refine AList.owners_moveAssign hne ?_ hheld t
      rw [AList.lookup_mapVal, hempty, Option.map_some]
      rfl

theorem moveAssign_carries {dst src : Addr} (hs : w.Sound) (hdst : dst ∈ w.borrowed)
    (hsrc : src ∈ w.borrowed) : Carries w (w.perform (.moveAssign dst src)) := by
  simp only [perform]
  split
  · exact ⟨hs, fun _ => Iff.rfl, fun _ => rfl⟩
  · next hne =>
      obtain ⟨b, hb⟩ := Option.isSome_iff_exists.mp (AList.lookup_isSome.mpr hdst)
      simp only [hb]
      obtain ⟨hreset, hborrowed⟩ := resetHandle_carries hs hb
      refine hreset.trans (moveInto_carries hreset.sound ?_ (.inr ⟨hne, ?_⟩))
      · rw [hborrowed, AList.mem_insert]
        exact .inr hsrc
      · rw [hborrowed, AList.lookup_insert]

/-- A stream that lies in the pool is lent. -/
theorem acquire_carries {policy : StreamAcquirePolicy} (hs : w.Sound)
    (hp : w.pools.lookup p = some e) (hh : h ∉ w.borrowed)
    (hsome : e.pool.streams ≠ []) :
    Carries w (w.perform (.acquireStream p policy h)) := by
  obtain ⟨c, hlast⟩ := Option.ne_none_iff_exists'.mp
    (fun hnone => hsome (List.getLast?_eq_none_iff.mp hnone))
  obtain ⟨rest, hstreams⟩ := List.getLast?_eq_some_iff.mp hlast
  obtain ⟨hpos, hown⟩ := hs.pools p e hp
  have hmem : ∀ t ∈ rest, t ∈ e.pool.streams := by
    intro t ht
    rw [hstreams]
    exact List.mem_append_left _ ht
  obtain ⟨i, hi, hc⟩ := hown c (hstreams ▸ List.mem_append_right rest List.mem_cons_self)
  have hlent : w.perform (.acquireStream p policy h) =
      ⟨w.pools.insert p { e with pool := ⟨rest⟩ },
        w.borrowed.insert h ⟨some ⟨p, i⟩, some p⟩⟩ := by
    have hdrop : e.pool.streams.dropLast = rest := by
      rw [hstreams, List.dropLast_concat]
    simp only [perform, hp, ExclusiveStreamPool.acquireStream, hlast, if_neg hsome,
      hdrop, hc]
  rw [hlent]
  refine ⟨?_, fun t => created_insert_of_eq hp rfl, fun t => ?_⟩
  · have hleft : Sound ⟨w.pools.insert p { e with pool := ⟨rest⟩ }, w.borrowed⟩ := by
      refine hs.insert (fun e₀ he₀ => ?_) hpos fun t ht => hown t (hmem t ht)
      rw [hp] at he₀
      cases he₀
      exact Nat.le_refl _
    refine hleft.borrowed_insert (.inr ⟨⟨p, i⟩, rfl, ?_⟩)
    rw [created_insert, if_pos rfl]
    exact hi
  · have hfrom := (pooled_append (s := ⟨p, i⟩) { e with pool := ⟨rest⟩ }
      (w.borrowed.insert h ⟨some ⟨p, i⟩, some p⟩) t hp).2 (hc ▸ hstreams)
    rw [holders_insert_new hh, hfrom]
    simp only [BorrowedStream.held]
    omega

/-- A stream is created and lent. -/
theorem grow_kept (hs : w.Sound) (hplaced : w.Placed)
    (hp : w.pools.lookup p = some e) (hh : h ∉ w.borrowed)
    (hnone : e.pool.streams = []) :
    (w.perform (.acquireStream p .GROW h)).Sound ∧
      (w.perform (.acquireStream p .GROW h)).Placed := by
  obtain ⟨hpos, -⟩ := hs.pools p e hp
  have hlent : w.perform (.acquireStream p .GROW h) =
      ⟨w.pools.insert p { e with grown := e.grown + 1 },
        w.borrowed.insert h ⟨some ⟨p, e.created⟩, some p⟩⟩ := by
    simp only [perform, hp, ExclusiveStreamPool.acquireStream, hnone,
      List.getLast?_nil, if_true]
  rw [hlent]
  have hnew : ¬ w.Created ⟨p, e.created⟩ := by
    intro ⟨e₀, he₀, hlt⟩
    rw [Option.mem_def, hp] at he₀
    cases he₀
    exact Nat.lt_irrefl _ hlt
  constructor
  · have hgrown : Sound ⟨w.pools.insert p { e with grown := e.grown + 1 },
        w.borrowed⟩ := by
      refine hs.insert (fun e₀ he₀ => ?_) hpos fun t ht => ?_
      · rw [hp] at he₀
        cases he₀
        exact Nat.le_succ _
      · rw [hnone] at ht
        cases ht
    refine hgrown.borrowed_insert (.inr ⟨⟨p, e.created⟩, rfl, ?_⟩)
    rw [created_insert, if_pos rfl]
    exact Nat.lt_succ_self _
  · intro t ht
    have hsame : pooled ⟨w.pools.insert p { e with grown := e.grown + 1 },
        w.borrowed.insert h ⟨some ⟨p, e.created⟩, some p⟩⟩ t = w.pooled t := by
      rw [pooled_insert]
      split
      · next hpool => rw [pooled, hpool, hp, Option.elim_some]
      · rfl
    rw [hsame, holders_insert_new hh, BorrowedStream.held, AList.owns_some]
    by_cases heq : ⟨p, e.created⟩ = t
    · obtain ⟨hpooled, hholders⟩ := places_of_not_created hs hnew
      rw [if_pos heq, ← heq, hpooled, hholders]
    · rw [if_neg heq, Nat.zero_add]
      refine hplaced t ?_
      rw [created_insert] at ht
      split at ht
      · next hpool =>
          refine ⟨e, hpool ▸ hp, ?_⟩
          have hindex : t.index ≠ e.created := by
            intro hindex
            apply heq
            rw [← hpool, ← hindex]
          unfold PoolRecord.created at ht hindex ⊢
          dsimp only at ht
          omega
      · exact ht

/-- A pool starts with all its streams. -/
theorem create_kept {poolSize : Nat} (hs : w.Sound) (hplaced : w.Placed)
    (hp : p ∉ w.pools) :
    (w.perform (.create p poolSize)).Sound ∧
      (w.perform (.create p poolSize)).Placed := by
  by_cases hzero : poolSize = 0
  · simp only [perform, ExclusiveStreamPool.create, if_pos hzero]
    exact ⟨hs, hplaced⟩
  · simp only [perform, ExclusiveStreamPool.create, if_neg hzero]
    have hnone := AList.lookup_eq_none.mpr hp
    constructor
    · refine hs.insert (fun e₀ he₀ => ?_) (Nat.pos_of_ne_zero hzero) fun t ht => ?_
      · rw [hnone] at he₀
        cases he₀
      · obtain ⟨i, hi, rfl⟩ := List.mem_map.mp ht
        exact ⟨i, List.mem_range.mp hi, rfl⟩
    · intro t ht
      rw [created_insert] at ht
      rw [pooled_insert]
      split at ht
      · next hpool =>
          subst hpool
          have hnobody : w.holders t = 0 := by
            refine (places_of_not_created hs ?_).2
            intro ⟨e₀, he₀, _⟩
            rw [Option.mem_def, hnone] at he₀
            cases he₀
          have hhere : ((List.range poolSize).map
              fun i => (some ⟨t.pool, i⟩ : CudaStream)).count (some t) = 1 :=
            List.count_eq_one_of_mem (nodup_streams t.pool poolSize)
              (List.mem_map.mpr ⟨t.index, List.mem_range.mpr ht, rfl⟩)
          rw [if_pos rfl, hhere]
          exact congrArg (1 + ·) hnobody
      · next hpool =>
          rw [if_neg hpool]
          exact hplaced t ht

/-! ## Whole runs -/

/-- A handle that is destroyed has no callback any more. -/
def FindsEmpty (w : PoolWorld) : PoolOp → Prop
  | .destroy h => ∀ b ∈ w.borrowed.lookup h, b.releaseFn = none
  | _ => True

instance (w : PoolWorld) : (op : PoolOp) → Decidable (w.FindsEmpty op)
  | .destroy h => inferInstanceAs
      (Decidable (∀ b ∈ w.borrowed.lookup h, b.releaseFn = none))
  | .create _ _ | .acquireStream _ _ _ | .reset _ | .moveConstruct _ _
  | .moveAssign _ _ => isTrue trivial

theorem destroy_carries (hs : w.Sound) (hb : w.borrowed.lookup h = some b)
    (hempty : b.releaseFn = none) : Carries w (w.perform (.destroy h)) := by
  refine ⟨⟨hs.handles.erase, hs.pools⟩, fun _ => Iff.rfl, fun t => ?_⟩
  refine congrArg (w.pooled t + ·) ?_
  simp only [perform, holders, AList.mapVal_erase]
  refine AList.owners_erase ?_ t
  rw [AList.lookup_mapVal, hb, Option.map_some, BorrowedStream.held, hempty]

theorem destroy_loses (hs : w.Sound) (hplaced : w.Placed)
    (hb : w.borrowed.lookup h = some b) (hfull : b.releaseFn ≠ none) :
    ¬ (w.perform (.destroy h)).Placed := by
  intro h'
  rcases hs.handles h b hb with rfl | ⟨s, rfl, hcreated⟩
  · exact hfull rfl
  · have hone := hplaced s hcreated
    have hlost : w.pooled s + (w.perform (.destroy h)).holders s = 1 := h' s hcreated
    have hheld : (w.borrowed.mapVal fun _ b => b.held).lookup h = some (some s) := by
      rw [AList.lookup_mapVal, hb, Option.map_some]
      rfl
    have herase : AList.owns (some s) s + (w.perform (.destroy h)).holders s =
        w.holders s := by
      simp only [perform, holders, AList.mapVal_erase]
      exact AList.sumBy_erase (f := fun (_ : Addr) p => AList.owns p s) hheld
    rw [AList.owns_self] at herase
    omega

/-- A call that does not destroy a full handle loses no stream. -/
theorem next_kept {op : PoolOp} (hs : w.Sound) (hplaced : w.Placed)
    (hop : w.Proper op) (hempty : w.FindsEmpty op) :
    (w.perform op).Sound ∧ (w.perform op).Placed := by
  have hof {w' : PoolWorld} (h : Carries w w') : w'.Sound ∧ w'.Placed :=
    ⟨h.sound, h.placed hplaced⟩
  cases op with
  | create p poolSize => exact create_kept hs hplaced hop
  | acquireStream p policy h =>
      obtain ⟨hh, e, hp, hblock⟩ := hop
      by_cases hsome : e.pool.streams = []
      · cases policy with
        | GROW => exact grow_kept hs hplaced hp hh hsome
        | BLOCK => exact absurd hsome (hblock rfl)
      · exact hof (acquire_carries hs hp hh hsome)
  | reset h =>
      obtain ⟨b, hb⟩ := Option.isSome_iff_exists.mp (AList.lookup_isSome.mpr hop)
      simp only [perform, hb]
      exact hof (resetHandle_carries hs hb).1
  | moveConstruct h src => exact hof (moveInto_carries hs hop.2 (.inl hop.1))
  | moveAssign dst src => exact hof (moveAssign_carries hs hop.1 hop.2)
  | destroy h =>
      obtain ⟨b, hb⟩ := Option.isSome_iff_exists.mp (AList.lookup_isSome.mpr hop)
      exact hof (destroy_carries hs hb (hempty b hb))

theorem findsEmpty_of_placed {op : PoolOp} (hs : w.Sound) (hplaced : w.Placed)
    (h : (w.perform op).Placed) : w.FindsEmpty op := by
  cases op with
  | destroy h' =>
      intro b hb
      by_contra hfull
      exact destroy_loses hs hplaced hb hfull h
  | _ => trivial

/-- In a run from nothing the streams come back, at each moment, exactly if
each handle destroyed in it has been reset or moved from before. -/
theorem always_comesBack_iff {ops : List PoolOp} (hs : machine.start w)
    (hlaw : machine.Lawful w ops) :
    machine.Always ComesBack w ops ↔ machine.Every FindsEmpty w ops := by
  subst hs
  have hplaced : fresh.Placed := fun s ⟨e, he, _⟩ => by cases he
  refine Machine.always_iff_every (J := Sound) ?_ ?_ sound_fresh
    (comesBack_of_placed sound_fresh hplaced) hlaw
  · intro w op hs hw hop hempty
    exact (next_kept hs hw.placed hop hempty).1
  · intro w op hs hw hop
    constructor
    · exact fun h => findsEmpty_of_placed hs hw.placed h.placed
    · intro hempty
      obtain ⟨hs', hplaced'⟩ := next_kept hs hw.placed hop hempty
      exact comesBack_of_placed hs' hplaced'

theorem always_comesBack_handedOn :
    machine.Always ComesBack fresh [.create 0 1, .acquireStream 0 .BLOCK 10,
      .acquireStream 0 .GROW 11, .moveConstruct 12 10, .destroy 10,
      .moveAssign 12 11, .destroy 11, .reset 12, .destroy 12,
      .acquireStream 0 .BLOCK 13] :=
  (always_comesBack_iff rfl (show machine.Every Proper _ _ by decide)).mpr (by decide)

/-- A pool of one stream, whose borrower goes out of scope. -/
theorem stream_lost :
    machine.Lawful fresh [.create 0 1, .acquireStream 0 .BLOCK 10, .destroy 10] ∧
      ¬ machine.Always ComesBack fresh
        [.create 0 1, .acquireStream 0 .BLOCK 10, .destroy 10] := by
  refine ⟨show machine.Every Proper _ _ by decide, ?_⟩
  intro h
  have hone := h.last.placed ⟨0, 0⟩ ⟨_, rfl, by decide⟩
  exact absurd hone (by decide)

end PoolWorld

end CuCascade.Memory
