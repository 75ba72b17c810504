import Uhd.Usrp1.ImplCalls

/-! # The frontends the tree lists

The dboard loop of `usrp1_impl::usrp1_impl` hands `populate_prop_tree_from_subdev` the subtree
`dboards/<db>/rx_frontends/<name>` (or `tx_frontends`) of each subdevice the slot's manager
reports. Listing a frontends directory of the tree it leaves therefore gives back the
manager's subdevices of that side, less those for which the daughterboard code creates no
property. The subdevice specifications post-init sets name a slot's first subdevice, so they
name frontends the tree lists.
-/

namespace Uhd.Usrp1

open PropertyTree

variable {E DboardId : Type}

theorem mem_frontends_path {db side : String} {names : List String}
    {blocks : String → List (ImplBlock E)} {q : Path} :
    q ∈ (names.flatMap fun name =>
        (blocks name).map (Block.rebase (mbPath ++ ["dboards", db, side, name]))).map Block.path ↔
      ∃ name ∈ names, ∃ b ∈ blocks name, q = mbPath ++ ["dboards", db, side, name] ++ b.path := by
  simp [List.map_flatMap, Function.comp_def, eq_comm]

variable [DecidableEq DboardId]

/-- The subdevice names a slot's manager reports for one side, `true` for rx. -/
def subdevNames (env : ImplEnv E DboardId) (db : String) (rx : Bool) : List String :=
  if rx then env.rxSubdevNames (dboardSlot env db).rxId (managerTxId env.noneId (dboardSlot env db))
  else env.txSubdevNames (dboardSlot env db).rxId (managerTxId env.noneId (dboardSlot env db))

def frontendsDir (rx : Bool) : String :=
  if rx then "rx_frontends" else "tx_frontends"

theorem subdevNames_ne_nil {env : ImplEnv E DboardId} (hwb : env.WellBehaved) {db : String}
    (hdb : db ∈ dbcKeys) (rx : Bool) : subdevNames env db rx ≠ [] := by
  cases rx
  exacts [hwb.tx_names_ne_nil db hdb, hwb.rx_names_ne_nil db hdb]

/-! ## Paths under a frontends directory -/

/-- Under a slot's frontends directory, bring-up creates the paths of that side's chains and
nothing else. -/
theorem frontend_path_iff (env : ImplEnv E DboardId) {db : String} (hdb : db ∈ dbcKeys)
    (rx : Bool) (r : Path) :
    mbPath ++ ["dboards", db, frontendsDir rx] ++ r ∈ (bringUpBlocks env).map Block.path ↔
      ∃ name ∈ subdevNames env db rx, ∃ b ∈ env.populate (dboardSlot env db).rxId
        (managerTxId env.noneId (dboardSlot env db)) rx name, r = name :: b.path := by
  constructor
  · intro hq
    have h2 : (mbPath ++ ["dboards", db, frontendsDir rx] ++ r)[2]? = some "dboards" := by
      simp [mbPath]
    rcases mem_bringUpBlocks_path hq with hq | hq | hq
    · exact absurd h2 (fixedBlocks_getElem? env _ hq).2.2
    · rcases dspBlocks_segment env _ hq with h | h <;> exact absurd (h.symm.trans h2) (by simp)
    rw [List.map_flatMap, List.mem_flatMap] at hq
    obtain ⟨db', -, hq⟩ := hq
    obtain rfl : db' = db := by simpa [mbPath, eq_comm] using (dboardBlocks_getElem? env db' _ hq).2
    simp only [dboardBlocks, List.map_append, List.mem_append] at hq
    rcases hq with ((hq | hq) | hq) | hq
    · cases rx <;> simp [dboardEepromProperties, frontendsDir, mbPath] at hq
    · cases rx <;> simp [frontendsDir, mbPath] at hq
    all_goals
      obtain ⟨name, hname, b, hb, heq⟩ := mem_frontends_path.mp hq
      cases rx <;> simp [frontendsDir, mbPath] at heq
      exact ⟨name, hname, b, hb, heq⟩
  · rintro ⟨name, hname, b, hb, rfl⟩
    refine List.mem_map.mpr ⟨b.rebase (mbPath ++ ["dboards", db, frontendsDir rx, name]),
      List.mem_append_right _ (List.mem_flatMap.mpr ⟨db, hdb, ?_⟩), by simp⟩
    cases rx
    · exact List.mem_append_right _ (List.mem_flatMap_of_mem hname (List.mem_map_of_mem _ hb))
    · exact List.mem_append_left _ <| List.mem_append_right _ <|
        List.mem_flatMap_of_mem hname (List.mem_map_of_mem _ hb)

theorem mem_list_frontends (env : ImplEnv E DboardId) {t : ImplTree E}
    (ht : t.paths = (bringUpBlocks env).map Block.path) {db : String} (hdb : db ∈ dbcKeys)
    (rx : Bool) (name : String) :
    name ∈ t.list (mbPath ++ ["dboards", db, frontendsDir rx]) ↔
      name ∈ subdevNames env db rx ∧ env.populate (dboardSlot env db).rxId
        (managerTxId env.noneId (dboardSlot env db)) rx name ≠ [] := by
  rw [mem_list, ht]
  constructor
  · rintro ⟨q, hq, hpre, hname⟩
    obtain ⟨r, rfl⟩ := List.isPrefixOf_iff_prefix.mp hpre
    obtain ⟨name', hname', b, hb, rfl⟩ := (frontend_path_iff env hdb rx r).mp hq
    obtain rfl : name' = name := by simpa [mbPath] using hname
    exact ⟨hname', List.ne_nil_of_mem hb⟩
  · rintro ⟨hname, hpop⟩
    obtain ⟨b, hb⟩ := List.exists_mem_of_ne_nil _ hpop
    exact ⟨_, (frontend_path_iff env hdb rx (name :: b.path)).mpr ⟨name, hname, b, hb, rfl⟩,
      List.isPrefixOf_iff_prefix.mpr (List.prefix_append _ _), by simp [mbPath]⟩

/-- On a well-behaved environment, under each frontends directory of the tree bring-up
leaves, the paths are those of that side's populate chains and no other; so the directory
lists the subdevices the slot's manager reports for that side, but for those
`populate_prop_tree_from_subdev` creates no property for. -/
theorem usrp1Impl_list_frontends (env : ImplEnv E DboardId) (hwb : env.WellBehaved) :
    ∃ t, usrp1Impl env = .ok t ∧ ∀ db ∈ dbcKeys, ∀ rx : Bool,
      (∀ r : Path, mbPath ++ ["dboards", db, frontendsDir rx] ++ r ∈ t.paths ↔
        ∃ name ∈ subdevNames env db rx, ∃ b ∈ env.populate (dboardSlot env db).rxId
          (managerTxId env.noneId (dboardSlot env db)) rx name, r = name :: b.path) ∧
      ∀ name : String, name ∈ t.list (mbPath ++ ["dboards", db, frontendsDir rx]) ↔
        name ∈ subdevNames env db rx ∧ env.populate (dboardSlot env db).rxId
          (managerTxId env.noneId (dboardSlot env db)) rx name ≠ [] := by
  obtain ⟨t, hok, -, ht⟩ := usrp1Impl_nodes env hwb
  refine ⟨t, hok, fun db hdb rx => ⟨fun r => ?_, mem_list_frontends env ht hdb rx⟩⟩
  rw [ht]
  exact frontend_path_iff env hdb rx r

theorem usrp1Impl_list_frontends_blank_slots :
    blankSlotsEnv.WellBehaved ∧ ∃ t, usrp1Impl blankSlotsEnv = .ok t ∧
      ∀ db ∈ dbcKeys, ∀ rx : Bool,
        (∀ r : Path, mbPath ++ ["dboards", db, frontendsDir rx] ++ r ∈ t.paths ↔
          ∃ name ∈ subdevNames blankSlotsEnv db rx, ∃ b ∈ blankSlotsEnv.populate
            (dboardSlot blankSlotsEnv db).rxId
            (managerTxId blankSlotsEnv.noneId (dboardSlot blankSlotsEnv db)) rx name,
            r = name :: b.path) ∧
        ∀ name : String, name ∈ t.list (mbPath ++ ["dboards", db, frontendsDir rx]) ↔
          name ∈ subdevNames blankSlotsEnv db rx ∧ blankSlotsEnv.populate
            (dboardSlot blankSlotsEnv db).rxId
            (managerTxId blankSlotsEnv.noneId (dboardSlot blankSlotsEnv db)) rx name ≠ [] :=
  ⟨blankSlotsEnv_wellBehaved, usrp1Impl_list_frontends blankSlotsEnv blankSlotsEnv_wellBehaved⟩

/-! ## The subdevice specifications -/

theorem mem_settledSpecs {env : ImplEnv E DboardId} (hwb : env.WellBehaved) (rx : Bool)
    {pair : String × String}
    (hp : pair ∈ if rx then (settledSpecs env).1 else (settledSpecs env).2) :
    pair.1 ∈ dbcKeys ∧ pair.2 ∈ subdevNames env pair.1 rx := by
  have hslot : ∃ db ∈ dbcKeys, pair = (db, (subdevNames env db rx).headD "") := by
    cases rx <;>
    · obtain ⟨slot, hslot, rfl⟩ := mem_settledSpec _ _ hp
      obtain ⟨db, hdb, rfl⟩ := List.mem_map.mp hslot
      exact ⟨db, hdb, rfl⟩
  obtain ⟨db, hdb, rfl⟩ := hslot
  obtain ⟨name, rest, h⟩ := List.exists_cons_of_ne_nil (subdevNames_ne_nil hwb hdb rx)
  exact ⟨hdb, by simp [h]⟩

/-- When the daughterboard code creates at least one property per subdevice, each entry of
the subdevice specifications post-init hands to `update_rx_subdev_spec` and
`update_tx_subdev_spec` names a frontend that the tree lists under its slot. -/
theorem usrp1Impl_subdevSpecs_listed (env : ImplEnv E DboardId) (hwb : env.WellBehaved)
    (hpop : ∀ rxId txId rx name, env.populate rxId txId rx name ≠ []) :
    ∃ t, usrp1Impl env = .ok t ∧
      (∀ pair ∈ (settledSpecs env).1,
        pair.2 ∈ t.list (mbPath ++ ["dboards", pair.1, "rx_frontends"])) ∧
      ∀ pair ∈ (settledSpecs env).2,
        pair.2 ∈ t.list (mbPath ++ ["dboards", pair.1, "tx_frontends"]) := by
  obtain ⟨t, hok, -, ht⟩ := usrp1Impl_nodes env hwb
  have hlisted (rx : Bool) : ∀ pair ∈ (if rx then (settledSpecs env).1 else (settledSpecs env).2),
      pair.2 ∈ t.list (mbPath ++ ["dboards", pair.1, frontendsDir rx]) := fun pair hp =>
    have h := mem_settledSpecs hwb rx hp
    (mem_list_frontends env ht h.1 rx pair.2).mpr ⟨h.2, hpop _ _ _ _⟩
  exact ⟨t, hok, hlisted true, hlisted false⟩

theorem usrp1Impl_subdevSpecs_listed_blank_slots :
    blankSlotsEnv.WellBehaved ∧ (∀ rxId txId rx name, blankSlotsEnv.populate rxId txId rx name ≠ []) ∧
      ∃ t, usrp1Impl blankSlotsEnv = .ok t ∧
        (∀ pair ∈ (settledSpecs blankSlotsEnv).1,
          pair.2 ∈ t.list (mbPath ++ ["dboards", pair.1, "rx_frontends"])) ∧
        ∀ pair ∈ (settledSpecs blankSlotsEnv).2,
          pair.2 ∈ t.list (mbPath ++ ["dboards", pair.1, "tx_frontends"]) :=
  ⟨blankSlotsEnv_wellBehaved, fun _ _ _ _ => List.cons_ne_nil _ _,
    usrp1Impl_subdevSpecs_listed blankSlotsEnv blankSlotsEnv_wellBehaved
      fun _ _ _ _ => List.cons_ne_nil _ _⟩

end Uhd.Usrp1
