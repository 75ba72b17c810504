import Uhd.Usrp1.Impl

/-! # The paths bring-up creates

Every block of bring-up has a path of its own: the blocks whose paths are fixed, the DSPs,
and the dboards are told apart by the segment after `/mboards/0`, and within each group by
a segment further down. This is what lets bring-up create every property on a fresh path,
and what `list` of a DSP directory reads back.
-/

namespace Uhd.Usrp1

open PropertyTree

variable {E DboardId : Type}

/-- What bring-up assumes of the daughterboard code for the tree: each manager reports no
subdevice name twice, and `populate_prop_tree_from_subdev` creates no relative path twice,
with chains that pass the tree's checks and subscriber calls that return. -/
structure ImplEnv.TreeContract (env : ImplEnv E DboardId) : Prop where
  rx_names_nodup : ∀ rxId txId, (env.rxSubdevNames rxId txId).Nodup
  tx_names_nodup : ∀ rxId txId, (env.txSubdevNames rxId txId).Nodup
  populate_nodup : ∀ rxId txId rx name, ((env.populate rxId txId rx name).map Block.path).Nodup
  populate_chainOk : ∀ rxId txId rx name, ∀ b ∈ env.populate rxId txId rx name,
    Action.chainOk Value.type b.type false b.actions = true
  populate_callsReturn : ∀ rxId txId rx name, ∀ b ∈ env.populate rxId txId rx name,
    env.hooks.callsReturn (b.run env.coercion).2 = true

/-- Every block bring-up runs, in order: those before the dboard loop, then each slot's. -/
def bringUpBlocks [DecidableEq DboardId] (env : ImplEnv E DboardId) : List (ImplBlock E) :=
  initBlocks env ++ dbcKeys.flatMap (dboardBlocks env)

/-- The blocks whose paths do not depend on the environment. -/
def fixedBlocks (env : ImplEnv E DboardId) : List (ImplBlock E) :=
  mboardBlocks env ++ dbcKeys.flatMap (codecBlocks env) ++ frontendBlocks ++ timeBlocks

theorem mem_initBlocks {env : ImplEnv E DboardId} {b : ImplBlock E} :
    b ∈ initBlocks env ↔ b ∈ fixedBlocks env ∨ b ∈ dspBlocks env := by
  simp only [initBlocks, fixedBlocks, List.mem_append]
  tauto

theorem bringUpBlocks_perm [DecidableEq DboardId] (env : ImplEnv E DboardId) :
    (bringUpBlocks env).Perm (fixedBlocks env ++ (dspBlocks env ++ dbcKeys.flatMap (dboardBlocks env))) := by
  simp only [bringUpBlocks, initBlocks, fixedBlocks, List.append_assoc]
  exact .append_left _ (.append_left _ (.append_left _ (List.perm_append_comm_assoc _ _ _)))

/-! ## The fixed blocks -/

theorem nodup_fixedBlocks (env : ImplEnv E DboardId) : ((fixedBlocks env).map Block.path).Nodup := by
  simp only [fixedBlocks, mboardBlocks, codecBlocks, frontendBlocks, timeBlocks, dbcKeys, mbPath,
    List.flatMap_cons, List.flatMap_nil, List.map_append, List.map_cons, List.map_nil,
    List.cons_append, List.nil_append, List.append_nil]
  decide

theorem fixedBlocks_getElem? (env : ImplEnv E DboardId) : ∀ p ∈ (fixedBlocks env).map Block.path,
    p[2]? ≠ some "rx_dsps" ∧ p[2]? ≠ some "tx_dsps" ∧ p[2]? ≠ some "dboards" := by
  simp only [fixedBlocks, mboardBlocks, codecBlocks, frontendBlocks, timeBlocks, dbcKeys, mbPath,
    List.flatMap_cons, List.flatMap_nil, List.map_append, List.map_cons, List.map_nil,
    List.cons_append, List.nil_append, List.append_nil]
  decide

/-! ## The DSPs -/

private theorem toString_inj_of_lt_eight' :
    ∀ i j : Fin 8, toString i.val = toString j.val → i = j := by
  decide

theorem toString_inj_of_lt_eight {i j : Nat} (hi : i < 8) (hj : j < 8)
    (h : toString i = toString j) : i = j :=
  Fin.mk.inj (toString_inj_of_lt_eight' ⟨i, hi⟩ ⟨j, hj⟩ h)

theorem nodup_map_toString_range (n : Nat) (hn : n ≤ 8) : ((List.range n).map toString).Nodup := by
  refine (List.nodup_range n).map_on fun i hi j hj h => ?_
  rw [List.mem_range] at hi hj
  exact toString_inj_of_lt_eight (by omega) (by omega) h

theorem numDsps_le_eight (env : ImplEnv E DboardId) (rx : Bool) : numDsps env rx ≤ 8 := by
  cases rx <;> simp [numDsps] <;> omega

theorem dspBody_getElem? (env : ImplEnv E DboardId) (rx : Bool) (i : Nat) :
    ∀ p ∈ ((if rx then rxDspBlocks env else txDspBlocks env) i).map Block.path,
      p[2]? = some (dspsDir rx) ∧ p[3]? = some (toString i) := by
  cases rx <;> simp [rxDspBlocks, txDspBlocks, dspsDir, mbPath]

theorem dspLoop_getElem? (env : ImplEnv E DboardId) (rx : Bool) :
    ∀ p ∈ (dspLoop env rx).map Block.path, p = mbPath ++ [dspsDir rx] ∨
      ∃ i < numDsps env rx, p[2]? = some (dspsDir rx) ∧ p[3]? = some (toString i) := by
  intro p hp
  simp only [dspLoop, List.map_cons, List.mem_cons, List.map_flatMap, List.mem_flatMap,
    List.mem_range] at hp
  rcases hp with hp | ⟨i, hi, hp⟩
  · exact .inl hp
  · exact .inr ⟨i, hi, dspBody_getElem? env rx i p hp⟩

theorem dspLoop_segment (env : ImplEnv E DboardId) (rx : Bool) :
    ∀ p ∈ (dspLoop env rx).map Block.path, p[2]? = some (dspsDir rx) := by
  intro p hp
  rcases dspLoop_getElem? env rx p hp with rfl | ⟨i, -, h, -⟩
  · simp [mbPath]
  · exact h

theorem dspBlocks_segment (env : ImplEnv E DboardId) :
    ∀ p ∈ (dspBlocks env).map Block.path, p[2]? = some "rx_dsps" ∨ p[2]? = some "tx_dsps" := by
  intro p hp
  rw [dspBlocks, List.map_append, List.mem_append] at hp
  exact hp.imp (dspLoop_segment env true p) (dspLoop_segment env false p)

theorem nodup_dspLoop (env : ImplEnv E DboardId) (rx : Bool) :
    ((dspLoop env rx).map Block.path).Nodup := by
  have hbody := nodup_flatMap_of_getElem? 3 toString _
    (nodup_map_toString_range (numDsps env rx) (numDsps_le_eight env rx))
    (fun i _ => by cases rx <;> simp [rxDspBlocks, txDspBlocks, mbPath])
    fun i _ p hp => (dspBody_getElem? env rx i p hp).2
  simp only [dspLoop, List.map_cons, List.map_flatMap]
  refine List.nodup_cons.mpr ⟨fun h => ?_, hbody⟩
  obtain ⟨i, -, hp⟩ := List.mem_flatMap.mp h
  simpa [mbPath] using (dspBody_getElem? env rx i _ hp).2

theorem nodup_dspBlocks (env : ImplEnv E DboardId) : ((dspBlocks env).map Block.path).Nodup := by
  rw [dspBlocks, List.map_append]
  refine List.nodup_append.mpr ⟨nodup_dspLoop env true, nodup_dspLoop env false, fun p hp hp' => ?_⟩
  have h := (dspLoop_segment env true p hp).symm.trans (dspLoop_segment env false p hp')
  simp [dspsDir] at h

private theorem dspLoop_dsps {env : ImplEnv E DboardId} {rx rx' : Bool} {p : Path}
    (hp : p ∈ (dspLoop env rx').map Block.path) (h : p[2]? = some (dspsDir rx)) :
    p[3]? = none ∨ ∃ i < numDsps env rx, p[3]? = some (toString i) := by
  obtain rfl : rx' = rx := by
    have := (dspLoop_segment env rx' p hp).symm.trans h
    cases rx <;> cases rx' <;> simp_all [dspsDir]
  rcases dspLoop_getElem? env rx' p hp with rfl | ⟨i, hi, -, h3⟩
  · exact .inl (by simp [mbPath])
  · exact .inr ⟨i, hi, h3⟩

/-! ## The dboards -/

section Dboards

private theorem slotBlocks_getElem? (env : ImplEnv E DboardId) (db : String) :
    ∀ p ∈ ((dboardEepromProperties env.i2c db).map fun e =>
        (⟨mbPath ++ ["dboards", db, e.prop], .dboardEeprom,
          [.set (.record .dboardEeprom (env.eepromAt e.loadAddr).1),
            .subscribe (.setDbEeprom db e.subscriberType)]⟩ :
          ImplBlock E)).map Block.path ++
        [(⟨mbPath ++ ["dboards", db, "iface"], .dboardIface,
          [.set (.record .dboardIface (env.dboardIface db))]⟩ :
          ImplBlock E)].map Block.path,
      p[2]? = some "dboards" ∧ p[3]? = some db ∧ p[4]? ≠ some "rx_frontends" ∧
        p[4]? ≠ some "tx_frontends" := by
  simp [dboardEepromProperties, mbPath]

variable [DecidableEq DboardId]

theorem frontends_getElem? (db side : String) (names : List String)
    (blocks : String → List (ImplBlock E)) :
    ∀ p ∈ (names.flatMap fun name =>
        (blocks name).map (Block.rebase (mbPath ++ ["dboards", db, side, name]))).map Block.path,
      p[2]? = some "dboards" ∧ p[3]? = some db ∧ p[4]? = some side ∧
        ∃ name ∈ names, p[5]? = some name := by
  intro p hp
  simp only [List.map_flatMap, List.mem_flatMap, List.map_map, List.mem_map,
    Function.comp_def, Block.rebase_path] at hp
  obtain ⟨name, hname, b, -, rfl⟩ := hp
  simp [mbPath, hname]

theorem nodup_frontends (db side : String) {names : List String} (hnames : names.Nodup)
    (blocks : String → List (ImplBlock E)) (hblocks : ∀ name, ((blocks name).map Block.path).Nodup) :
    ((names.flatMap fun name =>
        (blocks name).map (Block.rebase (mbPath ++ ["dboards", db, side, name]))).map Block.path).Nodup := by
  rw [List.map_flatMap]
  refine nodup_flatMap_of_getElem? 5 id _ (by simpa using hnames) (fun name _ => ?_) ?_
  · simpa [Function.comp_def] using
      (hblocks name).map fun r r' (h : mbPath ++ ["dboards", db, side, name] ++ r = _ ++ r') =>
        List.append_cancel_left h
  · intro name _ p hp
    simp only [List.map_map, List.mem_map, Function.comp_def, Block.rebase_path] at hp
    obtain ⟨b, -, rfl⟩ := hp
    simp [mbPath]

theorem dboardBlocks_getElem? (env : ImplEnv E DboardId) (db : String) :
    ∀ p ∈ (dboardBlocks env db).map Block.path, p[2]? = some "dboards" ∧ p[3]? = some db := by
  intro p hp
  simp only [dboardBlocks, List.map_append] at hp
  rcases List.mem_append.mp hp with hp | hp
  · rcases List.mem_append.mp hp with hp | hp
    · exact ⟨(slotBlocks_getElem? env db p hp).1, (slotBlocks_getElem? env db p hp).2.1⟩
    · exact ⟨(frontends_getElem? db _ _ _ p hp).1, (frontends_getElem? db _ _ _ p hp).2.1⟩
  · exact ⟨(frontends_getElem? db _ _ _ p hp).1, (frontends_getElem? db _ _ _ p hp).2.1⟩

theorem nodup_dboardBlocks {env : ImplEnv E DboardId} (hc : env.TreeContract) (db : String) :
    ((dboardBlocks env db).map Block.path).Nodup := by
  simp only [dboardBlocks, List.map_append]
  refine List.nodup_append.mpr ⟨List.nodup_append.mpr ⟨?_,
    nodup_frontends db _ (hc.rx_names_nodup _ _) _ fun _ => hc.populate_nodup _ _ _ _, ?_⟩,
    nodup_frontends db _ (hc.tx_names_nodup _ _) _ fun _ => hc.populate_nodup _ _ _ _, ?_⟩
  · simp [dboardEepromProperties, mbPath]
  · intro p hp hp'
    exact (slotBlocks_getElem? env db p hp).2.2.1 (frontends_getElem? db _ _ _ p hp').2.2.1
  · intro p hp hp'
    have h := (frontends_getElem? db _ _ _ p hp').2.2.1
    rcases List.mem_append.mp hp with hp | hp
    · exact (slotBlocks_getElem? env db p hp).2.2.2 h
    · simp [(frontends_getElem? db _ _ _ p hp).2.2.1] at h

theorem nodup_dboards {env : ImplEnv E DboardId} (hc : env.TreeContract) :
    ((dbcKeys.flatMap (dboardBlocks env)).map Block.path).Nodup := by
  rw [List.map_flatMap]
  exact nodup_flatMap_of_getElem? 3 id _ (by decide) (fun db _ => nodup_dboardBlocks hc db)
    fun db _ p hp => (dboardBlocks_getElem? env db p hp).2

end Dboards

/-! ## Every block -/

section BringUp

variable [DecidableEq DboardId]

theorem dboards_getElem? (env : ImplEnv E DboardId) :
    ∀ p ∈ (dbcKeys.flatMap (dboardBlocks env)).map Block.path, p[2]? = some "dboards" := by
  intro p hp
  rw [List.map_flatMap, List.mem_flatMap] at hp
  obtain ⟨db, -, hp⟩ := hp
  exact (dboardBlocks_getElem? env db p hp).1

theorem mem_bringUpBlocks_path {env : ImplEnv E DboardId} {p : Path}
    (hp : p ∈ (bringUpBlocks env).map Block.path) :
    p ∈ (fixedBlocks env).map Block.path ∨ p ∈ (dspBlocks env).map Block.path ∨
      p ∈ (dbcKeys.flatMap (dboardBlocks env)).map Block.path := by
  simpa using ((bringUpBlocks_perm env).map Block.path).mem_iff.mp hp

theorem nodup_bringUpBlocks {env : ImplEnv E DboardId} (hc : env.TreeContract) :
    ((bringUpBlocks env).map Block.path).Nodup := by
  rw [((bringUpBlocks_perm env).map Block.path).nodup_iff, List.map_append, List.map_append]
  refine List.nodup_append.mpr ⟨nodup_fixedBlocks env,
    List.nodup_append.mpr ⟨nodup_dspBlocks env, nodup_dboards hc, ?_⟩, ?_⟩
  · intro p hp hp'
    have h := dboards_getElem? env p hp'
    rcases dspBlocks_segment env p hp with h' | h' <;> rw [h'] at h <;> simp at h
  · intro p hp hp'
    have h := fixedBlocks_getElem? env p hp
    rcases List.mem_append.mp hp' with hp' | hp'
    · rcases dspBlocks_segment env p hp' with h' | h'
      · exact h.1 h'
      · exact h.2.1 h'
    · exact h.2.2 (dboards_getElem? env p hp')

theorem dsps_getElem? (env : ImplEnv E DboardId) (rx : Bool) :
    ∀ p ∈ (bringUpBlocks env).map Block.path, p[2]? = some (dspsDir rx) →
      p[3]? = none ∨ ∃ i < numDsps env rx, p[3]? = some (toString i) := by
  intro p hp h
  rcases mem_bringUpBlocks_path hp with hp | hp | hp
  · have hf := fixedBlocks_getElem? env p hp
    cases rx
    exacts [absurd h hf.2.1, absurd h hf.1]
  · rw [dspBlocks, List.map_append, List.mem_append] at hp
    rcases hp with hp | hp <;> exact dspLoop_dsps hp h
  · cases rx <;> simp [dboards_getElem? env p hp, dspsDir] at h

theorem dspLoop_mem_bringUpBlocks (env : ImplEnv E DboardId) {rx : Bool} {b : ImplBlock E}
    (hb : b ∈ dspLoop env rx) : b ∈ bringUpBlocks env := by
  have hdsp : b ∈ dspBlocks env := by
    rw [dspBlocks, List.mem_append]
    cases rx
    exacts [.inr hb, .inl hb]
  exact List.mem_append_left _ (mem_initBlocks.mpr (.inr hdsp))

theorem rate_mem_bringUpBlocks (env : ImplEnv E DboardId) (rx : Bool) {i : Nat}
    (hi : i < numDsps env rx) :
    (⟨mbPath ++ [dspsDir rx, toString i, "rate", "value"], .double,
      [.coerce (if rx then .updateRxSampRate else .updateTxSampRate)]⟩ : ImplBlock E) ∈
      bringUpBlocks env :=
  @dspLoop_mem_bringUpBlocks _ _ _ env rx _ <| List.mem_cons_of_mem _ <|
    List.mem_flatMap_of_mem (List.mem_range.mpr hi) (by cases rx <;> simp [rxDspBlocks, txDspBlocks, dspsDir])

theorem streamCmd_mem_bringUpBlocks (env : ImplEnv E DboardId) {i : Nat}
    (hi : i < getNumDdcs env.capsRegval) :
    (⟨mbPath ++ ["rx_dsps", toString i, "stream_cmd"], .streamCmd,
      if i = 0 then [.access .streamCmd, .subscribe .issueStreamCmd] else []⟩ :
      ImplBlock E) ∈ bringUpBlocks env :=
  @dspLoop_mem_bringUpBlocks _ _ _ env true _ <| List.mem_cons_of_mem _ <|
    List.mem_flatMap_of_mem (List.mem_range.mpr hi) (by simp [rxDspBlocks])

theorem subdevSpec_mem_bringUpBlocks (env : ImplEnv E DboardId) :
    (⟨mbPath ++ ["rx_subdev_spec"], .subdevSpec, [.subscribe .updateRxSubdevSpec]⟩ : ImplBlock E) ∈
        bringUpBlocks env ∧
      (⟨mbPath ++ ["tx_subdev_spec"], .subdevSpec, [.subscribe .updateTxSubdevSpec]⟩ : ImplBlock E) ∈
        bringUpBlocks env := by
  simp [bringUpBlocks, initBlocks, frontendBlocks]

theorem dboardEeprom_mem_bringUpBlocks (env : ImplEnv E DboardId) {db : String}
    (hdb : db ∈ dbcKeys) {p : EepromProperty} (hp : p ∈ dboardEepromProperties env.i2c db) :
    (⟨mbPath ++ ["dboards", db, p.prop], .dboardEeprom,
      [.set (.record .dboardEeprom (env.eepromAt p.loadAddr).1),
        .subscribe (.setDbEeprom db p.subscriberType)]⟩ : ImplBlock E) ∈ bringUpBlocks env :=
  List.mem_append_right _ <| List.mem_flatMap.mpr ⟨db, hdb, List.mem_append_left _ <|
    List.mem_append_left _ <| List.mem_append_left _ <| List.mem_map_of_mem _ hp⟩

end BringUp

end Uhd.Usrp1
