import Uhd.Usrp1.ImplCalls

/-! # What a read finds after bring-up

`get(path)` of the spec on the tree `usrp1_impl::usrp1_impl` leaves. A motherboard property
can be read when its chain sets it or gives it a publisher, or when post-init sets it. The
others fail with `NotInitialized` until a caller writes them: `load_eeprom` and `sensors`,
the rx codec gains (a coercer only), the two DSP directories, each DSP's frequency (a coercer
only) and each DDC's stream command, and a subdevice specification when there is no DSP of
its kind. Once a caller has written a property, a read gives the publisher's value where
bring-up attached one (the time, the tx codec gains), and otherwise the last value of its type
written, as the property's coercers make it. What a property holds is always of its type:
`set` refuses a value of another type, so where coercers keep types, the tree bring-up leaves
and every tree a run of writes leaves from it are well typed.
-/

namespace Uhd.Usrp1

open PropertyTree

variable {E DboardId : Type}


/-- The fixed properties no chain gives a value or a publisher. -/
def unsetFixedPaths : List Path :=
  [mbPath ++ ["load_eeprom"], mbPath ++ ["sensors"]] ++
    dbcKeys.map (fun db => mbPath ++ ["rx_codecs", db, "gains", "pga", "value"])

/-- The DSP properties no chain gives a value or a publisher: the two directories, and the
frequency and stream command of each DSP. -/
def unsetDspPaths (env : ImplEnv E DboardId) : List Path :=
  ((mbPath ++ ["rx_dsps"]) :: (List.range (getNumDdcs env.capsRegval)).flatMap fun i =>
      [mbPath ++ ["rx_dsps", toString i, "freq", "value"],
        mbPath ++ ["rx_dsps", toString i, "stream_cmd"]]) ++
    (mbPath ++ ["tx_dsps"]) :: (List.range (getNumDucs env.capsRegval)).map fun i =>
      mbPath ++ ["tx_dsps", toString i, "freq", "value"]

/-- The motherboard properties bring-up leaves with neither a value nor a publisher: post-init
sets a subdevice specification only when there is a DSP of its kind. -/
def unsetPaths (env : ImplEnv E DboardId) : List Path :=
  unsetFixedPaths ++
    (if getNumDdcs env.capsRegval = 0 then [mbPath ++ ["rx_subdev_spec"]] else []) ++
    (if getNumDucs env.capsRegval = 0 then [mbPath ++ ["tx_subdev_spec"]] else []) ++
    unsetDspPaths env

/-! ## Which nodes hold nothing -/

theorem ratePaths_getElem? {env : ImplEnv E DboardId} {p : Path} (hp : p ∈ ratePaths env) :
    p[2]? = some "rx_dsps" ∨ p[2]? = some "tx_dsps" := by
  simp only [ratePaths, List.mem_append, List.mem_map] at hp
  rcases hp with ⟨i, -, rfl⟩ | ⟨i, -, rfl⟩ <;> simp [mbPath]

theorem unsetDspPaths_getElem? {env : ImplEnv E DboardId} {p : Path}
    (hp : p ∈ unsetDspPaths env) :
    p[2]? = some "rx_dsps" ∨ p[2]? = some "tx_dsps" := by
  simp only [unsetDspPaths, List.mem_append, List.mem_cons, List.mem_flatMap, List.mem_map] at hp
  rcases hp with (rfl | ⟨i, -, rfl | rfl | h⟩) | rfl | ⟨i, -, rfl⟩ <;> simp_all [mbPath]

theorem uninitialized_bringUpNode (env : ImplEnv E DboardId) (rxSpec txSpec : SubdevSpec)
    (b : ImplBlock E) :
    (bringUpNode env rxSpec txSpec b).uninitialized =
      ((b.run env.coercion).1.uninitialized && (postInitValue env rxSpec txSpec b.path).isNone) := by
  unfold bringUpNode
  split <;> simp [Action.apply, Node.uninitialized, *]

theorem bringUpNode_hooks (env : ImplEnv E DboardId) (rxSpec txSpec : SubdevSpec)
    (b : ImplBlock E) :
    (bringUpNode env rxSpec txSpec b).type = b.type ∧
      (bringUpNode env rxSpec txSpec b).publisher = (b.run env.coercion).1.publisher ∧
      (bringUpNode env rxSpec txSpec b).coercers = (b.run env.coercion).1.coercers := by
  unfold bringUpNode
  split <;> exact ⟨by simp, rfl, rfl⟩

theorem uninitialized_fixedBlocks (env : ImplEnv E DboardId) : ∀ b ∈ fixedBlocks env,
    (b.run env.coercion).1.uninitialized =
      (decide (b.path ∈ unsetFixedPaths) || decide (b.path = mbPath ++ ["rx_subdev_spec"]) ||
        decide (b.path = mbPath ++ ["tx_subdev_spec"])) :=
  have h : ∀ b ∈ fixedBlocks env, ((b.run env.coercion).1.uninitialized ==
      (decide (b.path ∈ unsetFixedPaths) || decide (b.path = mbPath ++ ["rx_subdev_spec"]) ||
        decide (b.path = mbPath ++ ["tx_subdev_spec"]))) = true := List.all_eq_true.mp rfl
  fun b hb => by simpa using h b hb

theorem unsetFixedPaths_getElem? :
    ∀ q ∈ unsetFixedPaths, q[2]? ≠ some "rx_dsps" ∧ q[2]? ≠ some "tx_dsps" := by
  decide

theorem uninitialized_dspBlocks (env : ImplEnv E DboardId) : ∀ b ∈ dspBlocks env,
    ((b.run env.coercion).1.uninitialized && !decide (b.path ∈ ratePaths env)) =
      decide (b.path ∈ unsetDspPaths env) := by
  intro b hb
  simp only [dspBlocks, dspLoop, dspsDir, numDsps, ↓reduceIte, Bool.false_eq_true, List.mem_append,
    List.mem_cons, List.mem_flatMap, List.mem_range] at hb
  simp only [ratePaths, unsetDspPaths, List.mem_append, List.mem_cons, List.mem_flatMap,
    List.mem_map, List.mem_range]
  generalize getNumDdcs env.capsRegval = n at hb ⊢
  generalize getNumDucs env.capsRegval = m at hb ⊢
  rcases hb with (rfl | ⟨i, hi, hb⟩) | (rfl | ⟨i, hi, hb⟩)
  · simp [Block.run, Action.applyAll, Node.fresh, Node.uninitialized, mbPath]
  · simp only [rxDspBlocks, List.mem_cons, List.not_mem_nil, or_false] at hb
    have hex : ∃ a < n, toString a = toString i := ⟨i, hi, rfl⟩
    have hex' : ∃ a < n, toString i = toString a := ⟨i, hi, rfl⟩
    rcases hb with rfl | rfl | rfl | rfl
    any_goals simp [hex, hex', Block.run, Action.applyAll, Action.apply, Node.fresh,
      Node.uninitialized, mbPath]
    split <;> simp [hex', Block.run, Action.applyAll, Action.apply, Node.fresh,
      Node.uninitialized, mbPath]
  · simp [Block.run, Action.applyAll, Node.fresh, Node.uninitialized, mbPath]
  · simp only [txDspBlocks, List.mem_cons, List.not_mem_nil, or_false] at hb
    have hex : ∃ a < m, toString a = toString i := ⟨i, hi, rfl⟩
    rcases hb with rfl | rfl | rfl <;>
      simp [hex, Block.run, Action.applyAll, Action.apply, Node.fresh, Node.uninitialized, mbPath]

/-! ## Every motherboard property -/

/-- After bring-up, a motherboard property holds neither a value nor a publisher just when
`unsetPaths` names it. -/
theorem uninitialized_initBlocks (env : ImplEnv E DboardId) (rxSpec txSpec : SubdevSpec) :
    ∀ b ∈ initBlocks env,
      (bringUpNode env rxSpec txSpec b).uninitialized = decide (b.path ∈ unsetPaths env) := by
  intro b hb
  rw [uninitialized_bringUpNode]
  rcases mem_initBlocks.mp hb with hb | hb
  · have hp := fixedBlocks_getElem? env b.path (List.mem_map_of_mem _ hb)
    have hnot : ∀ {q : Path}, q[2]? = some "rx_dsps" ∨ q[2]? = some "tx_dsps" → q ≠ b.path := by
      rintro q (h | h) rfl
      exacts [hp.1 h, hp.2.1 h]
    have hrate : b.path ∉ ratePaths env := fun h => hnot (ratePaths_getElem? h) rfl
    have hdsp : b.path ∉ unsetDspPaths env := fun h => hnot (unsetDspPaths_getElem? h) rfl
    rw [uninitialized_fixedBlocks env b hb]
    simp only [postInitValue, hrate, if_false, unsetPaths, List.mem_append, hdsp, or_false]
    by_cases h1 : b.path = ["mboards", "0", "rx_subdev_spec"] <;>
      by_cases h2 : b.path = ["mboards", "0", "tx_subdev_spec"] <;>
      simp [h1, h2, unsetFixedPaths, mbPath, dbcKeys, apply_ite Option.isNone, Nat.pos_iff_ne_zero]
  · have hseg := dspBlocks_segment env b.path (List.mem_map_of_mem _ hb)
    have hfix : b.path ∉ unsetFixedPaths := fun h => by
      rcases hseg with h' | h' <;> simpa [h'] using unsetFixedPaths_getElem? b.path h
    have hss : b.path ≠ mbPath ++ ["rx_subdev_spec"] ∧ b.path ≠ mbPath ++ ["tx_subdev_spec"] := by
      constructor <;> rintro h' <;> rcases hseg with h | h <;> simp [h', mbPath] at h
    simp only [postInitValue, unsetPaths, List.mem_append, hfix, hss.1, hss.2, false_and, if_false,
      List.mem_ite_nil_right, List.mem_singleton, and_false, false_or]
    rw [← uninitialized_dspBlocks env b hb]
    by_cases hr : b.path ∈ ratePaths env <;> simp [hr]

theorem unsetDspPaths_subset (env : ImplEnv E DboardId) :
    ∀ q ∈ unsetDspPaths env, q ∈ (dspBlocks env).map Block.path := by
  intro q hq
  simp only [unsetDspPaths, List.mem_append, List.mem_cons, List.mem_flatMap, List.mem_map,
    List.mem_range] at hq
  simp only [dspBlocks, dspLoop, dspsDir, numDsps, ↓reduceIte, Bool.false_eq_true, List.map_cons,
    List.map_append, List.map_flatMap, List.mem_append, List.mem_cons, List.mem_flatMap,
    List.mem_range]
  rcases hq with (rfl | ⟨i, hi, hq⟩) | rfl | ⟨i, hi, rfl⟩
  · exact .inl (.inl rfl)
  · exact .inl (.inr ⟨i, hi, by rcases hq with rfl | rfl | h <;> simp_all [rxDspBlocks]⟩)
  · exact .inr (.inl rfl)
  · exact .inr (.inr ⟨i, hi, by simp [txDspBlocks]⟩)

theorem unsetPaths_subset (env : ImplEnv E DboardId) :
    ∀ q ∈ unsetPaths env, q ∈ (initBlocks env).map Block.path := by
  intro q hq
  have hq' : q ∈ unsetFixedPaths ++ [mbPath ++ ["rx_subdev_spec"], mbPath ++ ["tx_subdev_spec"]] ∨
      q ∈ unsetDspPaths env := by
    simp only [unsetPaths, List.mem_append, List.mem_ite_nil_right, List.mem_singleton] at hq
    rcases hq with ((hq | ⟨-, rfl⟩) | ⟨-, rfl⟩) | hq <;> simp_all
  have hfixed : ∀ q ∈ unsetFixedPaths ++ [mbPath ++ ["rx_subdev_spec"], mbPath ++ ["tx_subdev_spec"]],
      decide (q ∈ (fixedBlocks env).map Block.path) = true := List.all_eq_true.mp rfl
  rcases hq' with hq | hq
  · obtain ⟨b, hb, rfl⟩ := List.mem_map.mp (of_decide_eq_true (hfixed q hq))
    exact List.mem_map_of_mem _ (mem_initBlocks.mpr (.inl hb))
  · obtain ⟨b, hb, rfl⟩ := List.mem_map.mp (unsetDspPaths_subset env q hq)
    exact List.mem_map_of_mem _ (mem_initBlocks.mpr (.inr hb))

/-! ## Every value of its type -/

theorem wellTyped_setRates {hooks : Hooks PropType (Value E) Callback} (hk : hooks.KeepsTypes)
    (dsps : Path) : ∀ (names : List String) {t t' : ImplTree E}, t.WellTyped hooks.typeOf →
      setRates hooks dsps t names = .ok t' → t'.WellTyped hooks.typeOf
  | [], _, _, ht, h => by cases h; exact ht
  | _ :: rest, _, _, ht, h => by
      obtain ⟨u, h₁, h⟩ := bind_eq_ok h
      obtain ⟨v, h₂, h₃⟩ := bind_eq_ok h
      exact wellTyped_setRates hk dsps rest
        (Tree.wellTyped_set hk (Tree.wellTyped_access ht h₁) h₂) h₃

theorem wellTyped_setSubdevSpec {hooks : Hooks PropType (Value E) Callback}
    (hk : hooks.KeepsTypes) {dsps path : Path} {spec : SubdevSpec} {t t' : ImplTree E}
    (ht : t.WellTyped hooks.typeOf) (h : setSubdevSpec hooks dsps path spec t = .ok t') :
    t'.WellTyped hooks.typeOf := by
  unfold setSubdevSpec at h
  split at h
  · obtain ⟨u, h₁, h₂⟩ := bind_eq_ok h
    exact Tree.wellTyped_set hk (Tree.wellTyped_access ht h₁) h₂
  · cases h
    exact ht

theorem wellTyped_postInit (env : ImplEnv E DboardId) (hk : env.hooks.KeepsTypes)
    {rxSpec txSpec : SubdevSpec} {t t' : ImplTree E} (ht : t.WellTyped Value.type)
    (h : postInit env rxSpec txSpec t = .ok t') : t'.WellTyped Value.type := by
  obtain ⟨t₁, h₁, h⟩ := bind_eq_ok h
  obtain ⟨t₂, h₂, h⟩ := bind_eq_ok h
  obtain ⟨t₃, h₃, h₄⟩ := bind_eq_ok h
  exact wellTyped_setSubdevSpec hk (wellTyped_setSubdevSpec hk
    (wellTyped_setRates hk _ _ (wellTyped_setRates hk _ _ ht h₁) h₂) h₃) h₄

variable [DecidableEq DboardId]

theorem wellTyped_dboardLoop (env : ImplEnv E DboardId) (hk : env.hooks.KeepsTypes) :
    ∀ (keys : List String) {t : ImplTree E} {rxSpec txSpec : SubdevSpec}
      {r : ImplTree E × SubdevSpec × SubdevSpec}, t.WellTyped Value.type →
      dboardLoop env keys t rxSpec txSpec = .ok r → r.1.WellTyped Value.type
  | [], _, _, _, _, ht, h => by cases h; exact ht
  | _ :: rest, _, _, _, _, ht, h => by
      obtain ⟨t₁, h₁, h⟩ := bind_eq_ok h
      have ht₁ := Tree.wellTyped_runBlocks hk _ ht (ok_of_mapError h₁)
      dsimp only at h
      split at h
      · split at h
        · exact wellTyped_dboardLoop env hk rest ht₁ h
        · cases h
      · cases h

/-- On an environment whose coercers return a value of the type they are given, every tree
bring-up returns holds at each property, if anything, a value of the property's type, and so
does every tree a run of writes leaves from it: `set` refuses a value of another type. -/
theorem usrp1Impl_wellTyped (env : ImplEnv E DboardId) (hk : env.hooks.KeepsTypes) :
    ∀ t, usrp1Impl env = .ok t → ∀ writes : List (Path × Value E),
      (t.setEach env.hooks writes).1.WellTyped Value.type := by
  intro t h writes
  obtain ⟨t₁, h₁, h⟩ := bind_eq_ok h
  obtain ⟨⟨t₂, rxSpec, txSpec⟩, h₂, h₃⟩ := bind_eq_ok h
  have ht₂ := wellTyped_dboardLoop env hk dbcKeys
    (Tree.wellTyped_runBlocks hk _ (Tree.wellTyped_empty _) (ok_of_mapError h₁)) h₂
  exact Tree.wellTyped_setEach hk writes (wellTyped_postInit env hk ht₂ (ok_of_mapError h₃))

theorem usrp1Impl_wellTyped_blank_slots :
    blankSlotsEnv.hooks.KeepsTypes ∧ ∃ t, usrp1Impl blankSlotsEnv = .ok t ∧
      ∀ writes : List (Path × Value Unit),
        (t.setEach blankSlotsEnv.hooks writes).1.WellTyped Value.type := by
  have hk : blankSlotsEnv.hooks.KeepsTypes := fun _ _ => rfl
  obtain ⟨t, h, -⟩ := usrp1Impl_nodes blankSlotsEnv blankSlotsEnv_wellBehaved
  exact ⟨hk, t, h, usrp1Impl_wellTyped blankSlotsEnv hk t h⟩


/-- On a well-behaved environment, a read of a motherboard property of the tree bring-up
leaves fails with `NotInitialized` at each path `unsetPaths` names, and returns a value at
every other. -/
theorem usrp1Impl_get_unset (env : ImplEnv E DboardId) (hwb : env.WellBehaved) :
    ∃ t, usrp1Impl env = .ok t ∧ (∀ q ∈ unsetPaths env, q ∈ (initBlocks env).map Block.path) ∧
      ∀ (publication : Callback → Value E), ∀ q ∈ (initBlocks env).map Block.path,
        (q ∈ unsetPaths env → t.get publication q = .error (.notInitialized q)) ∧
        (q ∉ unsetPaths env → ∃ v, t.get publication q = .ok v) := by
  obtain ⟨t, hok, hnodes, -⟩ := usrp1Impl_nodes env hwb
  refine ⟨t, hok, unsetPaths_subset env, fun publication q hq => ?_⟩
  obtain ⟨b, hb, rfl⟩ := List.mem_map.mp hq
  have hnode : t.node? b.path = some (bringUpNode env (settledSpecs env).1 (settledSpecs env).2 b) :=
    Tree.node?_of_mem (hnodes ▸ List.mem_map_of_mem _ (List.mem_append_left _ hb))
  have hu := uninitialized_initBlocks env (settledSpecs env).1 (settledSpecs env).2 b hb
  obtain ⟨h₁, h₂⟩ := Tree.get_of_node? publication hnode
  exact ⟨fun h => h₁ (by simp [hu, h]), fun h => h₂ (by simp [hu, h])⟩

theorem usrp1Impl_get_unset_blank_slots :
    blankSlotsEnv.WellBehaved ∧ ∃ t, usrp1Impl blankSlotsEnv = .ok t ∧
      (∀ q ∈ unsetPaths blankSlotsEnv, q ∈ (initBlocks blankSlotsEnv).map Block.path) ∧
      ∀ (publication : Callback → Value Unit), ∀ q ∈ (initBlocks blankSlotsEnv).map Block.path,
        (q ∈ unsetPaths blankSlotsEnv → t.get publication q = .error (.notInitialized q)) ∧
        (q ∉ unsetPaths blankSlotsEnv → ∃ v, t.get publication q = .ok v) :=
  ⟨blankSlotsEnv_wellBehaved, usrp1Impl_get_unset blankSlotsEnv blankSlotsEnv_wellBehaved⟩


/-! ## Reads after writes -/

/-- After bring-up on a well-behaved environment and any run of writes, a read of a property
bring-up created, that the run wrote a value of its type, returns what its publisher gives,
where bring-up gave it one, and otherwise the last such value as the property's coercers make
it. -/
theorem usrp1Impl_get_after_writes (env : ImplEnv E DboardId) (hwb : env.WellBehaved) :
    ∃ t, usrp1Impl env = .ok t ∧
      ∀ (publication : Callback → Value E) (writes : List (Path × Value E)),
        ∀ b ∈ bringUpBlocks env, ∀ v, lastWrite env.hooks b.type b.path writes = some v →
          (t.setEach env.hooks writes).1.get publication b.path =
            .ok (match (b.run env.coercion).1.publisher with
              | some cb => publication cb
              | none => (b.run env.coercion).1.coercers.foldl (fun v cb => env.coercion cb v) v) := by
  obtain ⟨t, hok, hn, -⟩ := usrp1Impl_nodes env hwb
  refine ⟨t, hok, fun publication writes b hb v hv => ?_⟩
  obtain ⟨hnodes, -, -⟩ := Tree.setEach_eq env.hooks writes t
  have hnode : (t.setEach env.hooks writes).1.node? b.path =
      some ((bringUpNode env (settledSpecs env).1 (settledSpecs env).2 b).afterWrites
        env.hooks b.path writes) :=
    Tree.node?_of_mem (by rw [hnodes, hn, List.map_map]; exact List.mem_map_of_mem _ hb)
  obtain ⟨htype, hpub, hcoe⟩ := bringUpNode_hooks env (settledSpecs env).1 (settledSpecs env).2 b
  simp only [PropertyTree.Tree.get, hnode, Node.afterWrites_eq, htype, hv]
  cases hp : (b.run env.coercion).1.publisher <;> simp [Action.apply, hpub, hcoe, hp]

theorem usrp1Impl_get_after_writes_blank_slots :
    blankSlotsEnv.WellBehaved ∧ ∃ t, usrp1Impl blankSlotsEnv = .ok t ∧
      ∀ (publication : Callback → Value Unit) (writes : List (Path × Value Unit)),
        ∀ b ∈ bringUpBlocks blankSlotsEnv, ∀ v,
          lastWrite blankSlotsEnv.hooks b.type b.path writes = some v →
          (t.setEach blankSlotsEnv.hooks writes).1.get publication b.path =
            .ok (match (b.run blankSlotsEnv.coercion).1.publisher with
              | some cb => publication cb
              | none => (b.run blankSlotsEnv.coercion).1.coercers.foldl
                  (fun v cb => blankSlotsEnv.coercion cb v) v) :=
  ⟨blankSlotsEnv_wellBehaved, usrp1Impl_get_after_writes blankSlotsEnv blankSlotsEnv_wellBehaved⟩

end Uhd.Usrp1
