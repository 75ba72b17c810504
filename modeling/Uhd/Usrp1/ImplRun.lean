import Uhd.Usrp1.ImplPaths

/-! # Bring-up runs to the end

On an environment that keeps the daughterboard code's side of the contract, the tree part
of `usrp1_impl::usrp1_impl` raises no tree error and indexes no empty name list. It leaves
one node per block, in creation order: the node the block's chain leaves, set once more
where post-init sets a value. Its subscriber calls are those of the chains, then one per
subdevice specification post-init sets.

When the tree operations keep their side of the contract but a manager may report no
subdevice, or a subdevice specification update may fail, bring-up stops just at the index
into an empty name list, at the slots the two ifs of the dboard loop say, and otherwise at
the first specification update of post-init that fails. On the tree bring-up leaves, a
write to a daughterboard EEPROM goes back to the address it was loaded from.
-/

namespace Uhd.Usrp1

open PropertyTree

variable {E DboardId : Type}

/-! ## What bring-up leaves -/

/-- The subdevice specifications the dboard loop settles on from empty ones. -/
def settledSpecs [DecidableEq DboardId] (env : ImplEnv E DboardId) : SubdevSpec × SubdevSpec :=
  (settledSpec (·.rxId != env.noneId) (fun s => env.rxSubdevNames s.rxId (managerTxId env.noneId s))
      (dbcKeys.map (dboardSlot env)) [],
    settledSpec (·.txId != env.noneId) (fun s => env.txSubdevNames s.rxId (managerTxId env.noneId s))
      (dbcKeys.map (dboardSlot env)) [])

/-- The rate values of the DDCs, then of the DUCs, the capabilities register reports. -/
def ratePaths (env : ImplEnv E DboardId) : List Path :=
  (List.range (getNumDdcs env.capsRegval)).map (fun i => mbPath ++ ["rx_dsps", toString i, "rate", "value"]) ++
    (List.range (getNumDucs env.capsRegval)).map (fun i => mbPath ++ ["tx_dsps", toString i, "rate", "value"])

/-- The value post-init sets at a path, if it sets one: 1 MHz at every rate, and each
subdevice specification when there is a DSP of its kind. -/
def postInitValue (env : ImplEnv E DboardId) (rxSpec txSpec : SubdevSpec) (q : Path) :
    Option (Value E) :=
  if q ∈ ratePaths env then some (.double 1000000)
  else if q = mbPath ++ ["rx_subdev_spec"] ∧ 0 < getNumDdcs env.capsRegval then
    some (.subdevSpec rxSpec)
  else if q = mbPath ++ ["tx_subdev_spec"] ∧ 0 < getNumDucs env.capsRegval then
    some (.subdevSpec txSpec)
  else none

/-- A block's node once bring-up is over: the node its chain leaves, set by post-init where
post-init sets a value. -/
def bringUpNode (env : ImplEnv E DboardId) (rxSpec txSpec : SubdevSpec) (b : ImplBlock E) :
    Node PropType (Value E) Callback :=
  match postInitValue env rxSpec txSpec b.path with
  | some v => ((Action.set v).apply env.coercion (b.run env.coercion).1).1
  | none => (b.run env.coercion).1

/-- The subscriber calls of post-init: one per subdevice specification it sets. -/
def postInitCalls (env : ImplEnv E DboardId) (rxSpec txSpec : SubdevSpec) :
    List (Callback × Value E) :=
  (if 0 < getNumDdcs env.capsRegval then [(.updateRxSubdevSpec, .subdevSpec rxSpec)] else []) ++
    (if 0 < getNumDucs env.capsRegval then [(.updateTxSubdevSpec, .subdevSpec txSpec)] else [])

/-- The error of post-init, if any: the first subdevice specification update it makes that
fails. -/
def postInitError (env : ImplEnv E DboardId) (rxSpec txSpec : SubdevSpec) : Option TreeError :=
  if 0 < getNumDdcs env.capsRegval ∧ env.fails .updateRxSubdevSpec (.subdevSpec rxSpec) = true then
    some (.hardwareWriteError (mbPath ++ ["rx_subdev_spec"]))
  else if 0 < getNumDucs env.capsRegval ∧ env.fails .updateTxSubdevSpec (.subdevSpec txSpec) = true then
    some (.hardwareWriteError (mbPath ++ ["tx_subdev_spec"]))
  else none

/-- What bring-up assumes of the code outside this file: the daughterboard code keeps the
tree's side of the contract, the manager of each slot reports a subdevice of each kind, and
`update_rx_subdev_spec` and `update_tx_subdev_spec` accept the specifications the dboard
loop settles on. -/
structure ImplEnv.WellBehaved [DecidableEq DboardId] (env : ImplEnv E DboardId)
    extends env.TreeContract : Prop where
  rx_names_ne_nil : ∀ db ∈ dbcKeys,
    env.rxSubdevNames (dboardSlot env db).rxId (managerTxId env.noneId (dboardSlot env db)) ≠ []
  tx_names_ne_nil : ∀ db ∈ dbcKeys,
    env.txSubdevNames (dboardSlot env db).rxId (managerTxId env.noneId (dboardSlot env db)) ≠ []
  subdevSpecs_accepted : postInitError env (settledSpecs env).1 (settledSpecs env).2 = none

/-! ## Chains -/

theorem chainOk_fixedBlocks (env : ImplEnv E DboardId) :
    ∀ b ∈ fixedBlocks env, Action.chainOk Value.type b.type false b.actions = true :=
  List.all_eq_true.mp rfl

theorem chainOk_dspBlocks (env : ImplEnv E DboardId) :
    ∀ b ∈ dspBlocks env, Action.chainOk Value.type b.type false b.actions = true := by
  intro b hb
  simp only [dspBlocks, dspLoop, List.mem_append, List.mem_cons, List.mem_flatMap,
    ↓reduceIte, Bool.false_eq_true] at hb
  rcases hb with (rfl | ⟨i, -, hb⟩) | (rfl | ⟨i, -, hb⟩)
  · rfl
  · have hrx : ∀ b ∈ rxDspBlocks env i, Action.chainOk Value.type b.type false b.actions = true := by
      cases i <;> exact List.all_eq_true.mp rfl
    exact hrx b hb
  · rfl
  · have htx : ∀ b ∈ txDspBlocks env i, Action.chainOk Value.type b.type false b.actions = true :=
      List.all_eq_true.mp rfl
    exact htx b hb

theorem chainOk_dboardBlocks [DecidableEq DboardId] {env : ImplEnv E DboardId}
    (hc : env.TreeContract) (db : String) :
    ∀ b ∈ dboardBlocks env db, Action.chainOk Value.type b.type false b.actions = true := by
  intro b hb
  simp only [dboardBlocks, List.mem_append, List.mem_map, List.mem_flatMap,
    List.mem_singleton] at hb
  rcases hb with ((⟨e, -, rfl⟩ | rfl) | ⟨name, -, b', hb', rfl⟩) | ⟨name, -, b', hb', rfl⟩
  · rfl
  · rfl
  · exact hc.populate_chainOk _ _ _ _ b' hb'
  · exact hc.populate_chainOk _ _ _ _ b' hb'

theorem chainOk_bringUpBlocks [DecidableEq DboardId] {env : ImplEnv E DboardId}
    (hc : env.TreeContract) :
    ∀ b ∈ bringUpBlocks env, Action.chainOk Value.type b.type false b.actions = true := by
  intro b hb
  rcases List.mem_append.mp ((bringUpBlocks_perm env).mem_iff.mp hb) with hb | hb
  · exact chainOk_fixedBlocks env b hb
  rcases List.mem_append.mp hb with hb | hb
  · exact chainOk_dspBlocks env b hb
  · obtain ⟨db, -, hb⟩ := List.mem_flatMap.mp hb
    exact chainOk_dboardBlocks hc db b hb

/-! ## Calls during bring-up -/

theorem calls_fixedBlocks (env : ImplEnv E DboardId) :
    ∀ b ∈ fixedBlocks env, (b.run env.coercion).2 = [] := by
  have h : ∀ b ∈ fixedBlocks env, (b.run env.coercion).2.isEmpty = true := List.all_eq_true.mp rfl
  exact fun b hb => List.isEmpty_iff.mp (h b hb)

theorem calls_dspBlocks (env : ImplEnv E DboardId) :
    ∀ b ∈ dspBlocks env, (b.run env.coercion).2 = [] := by
  intro b hb
  simp only [dspBlocks, dspLoop, List.mem_append, List.mem_cons, List.mem_flatMap,
    ↓reduceIte, Bool.false_eq_true] at hb
  rcases hb with (rfl | ⟨i, -, hb⟩) | (rfl | ⟨i, -, hb⟩)
  · rfl
  · have hrx : ∀ b ∈ rxDspBlocks env i, (b.run env.coercion).2.isEmpty = true := by
      cases i <;> exact List.all_eq_true.mp rfl
    exact List.isEmpty_iff.mp (hrx b hb)
  · rfl
  · have htx : ∀ b ∈ txDspBlocks env i, (b.run env.coercion).2.isEmpty = true :=
      List.all_eq_true.mp rfl
    exact List.isEmpty_iff.mp (htx b hb)

theorem callsReturn_dboardBlocks [DecidableEq DboardId] {env : ImplEnv E DboardId}
    (hc : env.TreeContract) (db : String) :
    ∀ b ∈ dboardBlocks env db, env.hooks.callsReturn (b.run env.coercion).2 = true := by
  intro b hb
  simp only [dboardBlocks, List.mem_append, List.mem_map, List.mem_flatMap,
    List.mem_singleton] at hb
  rcases hb with ((⟨e, -, rfl⟩ | rfl) | ⟨name, -, b', hb', rfl⟩) | ⟨name, -, b', hb', rfl⟩
  · rfl
  · rfl
  · exact hc.populate_callsReturn _ _ _ _ b' hb'
  · exact hc.populate_callsReturn _ _ _ _ b' hb'

/-- Every subscriber call the chains of bring-up make returns: bring-up's own chains make
none, and the daughterboard code's return by its contract. -/
theorem callsReturn_bringUpBlocks [DecidableEq DboardId] {env : ImplEnv E DboardId}
    (hc : env.TreeContract) :
    ∀ b ∈ bringUpBlocks env, env.hooks.callsReturn (b.run env.coercion).2 = true := by
  intro b hb
  rcases List.mem_append.mp ((bringUpBlocks_perm env).mem_iff.mp hb) with hb | hb
  · simp [calls_fixedBlocks env b hb, Hooks.callsReturn]
  rcases List.mem_append.mp hb with hb | hb
  · simp [calls_dspBlocks env b hb, Hooks.callsReturn]
  · obtain ⟨db, -, hb⟩ := List.mem_flatMap.mp hb
    exact callsReturn_dboardBlocks hc db b hb

/-! ## The dboard loop -/

/-- Where the slots' blocks all run, the dboard loop stops just where the two ifs index an
empty name list, and otherwise leaves the tree the blocks build. -/
theorem dboardLoop_of_runBlocks [DecidableEq DboardId] (env : ImplEnv E DboardId) :
    ∀ (dbs : List String) (t t' : ImplTree E) (rxSpec txSpec : SubdevSpec),
      t.runBlocks env.hooks (dbs.flatMap (dboardBlocks env)) = .ok t' →
      dboardLoop env dbs t rxSpec txSpec =
        match initSubdevSpecs env.noneId env.rxSubdevNames env.txSubdevNames
            (dbs.map (dboardSlot env)) rxSpec txSpec with
        | some specs => .ok (t', specs)
        | none => .error .emptySubdevNames
  | [], t, t', rxSpec, txSpec, h => by
      cases h
      rfl
  | db :: rest, t, t', rxSpec, txSpec, h => by
      rw [List.flatMap_cons, Tree.runBlocks_append] at h
      obtain ⟨t₁, hrun, h⟩ := bind_eq_ok h
      simp only [dboardLoop, hrun, List.map_cons, initSubdevSpecs, dboardSlot_db,
        Except.mapError, bind, Except.bind]
      cases pickSubdev ((dboardSlot env db).rxId != env.noneId) db
          (env.rxSubdevNames (dboardSlot env db).rxId
            (managerTxId env.noneId (dboardSlot env db))) rxSpec with
      | none => rfl
      | some rx =>
          cases pickSubdev ((dboardSlot env db).txId != env.noneId) db
              (env.txSubdevNames (dboardSlot env db).rxId
                (managerTxId env.noneId (dboardSlot env db))) txSpec with
          | none => rfl
          | some tx => exact dboardLoop_of_runBlocks env rest t₁ t' rx tx h

/-! ## Post-init -/

/-- A node, set to `v` where `c` holds: what one step of post-init leaves at a path. -/
def setWhen (coercion : Callback → Value E → Value E) (c : Prop) [Decidable c] (v : Value E)
    (x : Node PropType (Value E) Callback) : Node PropType (Value E) Callback :=
  if c then ((Action.set v).apply coercion x).1 else x

section SetWhen

variable (coercion : Callback → Value E → Value E) (c : Prop) [Decidable c] (v : Value E)
  (x : Node PropType (Value E) Callback)

@[simp] theorem setWhen_type : (setWhen coercion c v x).type = x.type := by
  unfold setWhen; split <;> rfl

@[simp] theorem setWhen_coercers : (setWhen coercion c v x).coercers = x.coercers := by
  unfold setWhen; split <;> rfl

@[simp] theorem setWhen_subscribers : (setWhen coercion c v x).subscribers = x.subscribers := by
  unfold setWhen; split <;> rfl

end SetWhen

/-- The rate loop of post-init on names whose rate values are doubles without subscribers:
each is set, and no subscriber is called. -/
theorem setRates_eq (env : ImplEnv E DboardId) (dsps : Path) :
    ∀ (names : List String) (t : ImplTree E),
      (∀ name ∈ names, ∃ node, t.node? (dsps ++ [name, "rate", "value"]) = some node ∧
        node.type = .double ∧ node.subscribers = []) →
      ∃ t', setRates env.hooks dsps t names = .ok t' ∧
        t'.nodes = t.nodes.map (fun e => (e.1, setWhen env.coercion
          (e.1 ∈ names.map fun name => dsps ++ [name, "rate", "value"]) (.double 1000000) e.2)) ∧
        t'.calls = t.calls
  | [], t, _ => ⟨t, rfl, by simp [setWhen], rfl⟩
  | name :: rest, t, h => by
      obtain ⟨node, hnode, htype, hsubs⟩ := h name (List.mem_cons_self _ _)
      let t₁ := t.modify (dsps ++ [name, "rate", "value"])
        (fun n => ((Action.set (.double 1000000)).apply env.coercion n).1) []
      have hset : t.set env.hooks (dsps ++ [name, "rate", "value"]) (.double 1000000) = .ok t₁ := by
        rw [Tree.set_eq env.hooks hnode]
        simp [t₁, Action.apply, hsubs, htype, ImplEnv.hooks, Value.type, Hooks.callsReturn]
      have h₁ : ∀ name' ∈ rest, ∃ node, t₁.node? (dsps ++ [name', "rate", "value"]) = some node ∧
          node.type = .double ∧ node.subscribers = [] := by
        intro name' hname'
        obtain ⟨n', hn', ht', hs'⟩ := h name' (List.mem_cons_of_mem _ hname')
        simp only [t₁, Tree.node?_modify, hn']
        split <;> exact ⟨_, rfl, by simpa using ht', by simpa using hs'⟩
      obtain ⟨t', hrun, hnodes, hcalls⟩ := setRates_eq env dsps rest t₁ h₁
      refine ⟨t', ?_, ?_, by simp [hcalls, t₁]⟩
      · simp only [setRates, Tree.access_of_node? hnode htype, hset, bind, Except.bind]
        exact hrun
      · rw [hnodes, Tree.nodes_modify, List.map_map]
        refine List.map_congr_left fun e _ => ?_
        by_cases h₁ : e.1 = dsps ++ [name, "rate", "value"] <;>
          simp only [setWhen, Function.comp_apply, List.map_cons, List.mem_cons, h₁, if_true,
            if_false, true_or, false_or, Action.apply_set_set, ite_self]

/-- Post-init's `if` on one subdevice specification, on a tree that has the property: it
fails just when the directory lists a DSP and a subscriber call fails. -/
theorem setSubdevSpec_eq (env : ImplEnv E DboardId) (dsps path : Path)
    (spec : SubdevSpec) {t : ImplTree E} {node : Node PropType (Value E) Callback}
    (hnode : t.node? path = some node) (htype : node.type = .subdevSpec) :
    ∃ t', setSubdevSpec env.hooks dsps path spec t =
        (if 0 < (t.list dsps).length ∧
            env.hooks.callsReturn ((Action.set (.subdevSpec spec)).apply env.coercion node).2 = false
          then .error (.hardwareWriteError path) else .ok t') ∧
      t'.nodes = t.nodes.map (fun e => (e.1, setWhen env.coercion
        (e.1 = path ∧ 0 < (t.list dsps).length) (.subdevSpec spec) e.2)) ∧
      t'.calls = t.calls ++
        if 0 < (t.list dsps).length then ((Action.set (.subdevSpec spec)).apply env.coercion node).2
        else [] := by
  by_cases hlen : 0 < (t.list dsps).length
  · refine ⟨t.modify path (fun n => ((Action.set (.subdevSpec spec)).apply env.coercion n).1)
      ((Action.set (.subdevSpec spec)).apply env.coercion node).2, ?_,
      by simp [Tree.nodes_modify, hlen, setWhen], by simp [hlen]⟩
    simp only [setSubdevSpec, gt_iff_lt, hlen, if_true, true_and, Tree.access_of_node? hnode htype,
      Tree.set_eq env.hooks hnode, htype, bind, Except.bind]
    by_cases hr : env.hooks.callsReturn ((Action.set (.subdevSpec spec)).apply env.coercion node).2 <;>
      simp [hr, Value.type]
  · refine ⟨t, by simp [setSubdevSpec, hlen], by simp [hlen, setWhen], by simp [hlen]⟩

theorem mem_list_dsps {t : ImplTree E} {dir : String} {n : Nat}
    (hchild : ∀ p ∈ t.paths, p[2]? = some dir →
      p[3]? = none ∨ ∃ i < n, p[3]? = some (toString i))
    (hrate : ∀ i < n, mbPath ++ [dir, toString i, "rate", "value"] ∈ t.paths) (name : String) :
    name ∈ t.list (mbPath ++ [dir]) ↔ ∃ i < n, toString i = name := by
  rw [mem_list]
  constructor
  · rintro ⟨q, hq, hpre, hname⟩
    obtain ⟨r, rfl⟩ := List.isPrefixOf_iff_prefix.mp hpre
    rcases hchild _ hq (by simp [mbPath]) with h | ⟨i, hi, h⟩
    · simp [mbPath] at h hname
      simp [h] at hname
    · refine ⟨i, hi, ?_⟩
      simp only [mbPath, List.cons_append, List.nil_append, List.length_cons,
        List.length_nil, List.getElem?_cons_succ] at h hname
      simpa [h] using hname
  · rintro ⟨i, hi, rfl⟩
    exact ⟨_, hrate i hi, by simp [mbPath]⟩

theorem length_pos_of_mem_iff {l : List String} {n : Nat}
    (hl : ∀ name, name ∈ l ↔ ∃ i < n, toString i = name) : 0 < l.length ↔ 0 < n := by
  simp only [List.length_pos_iff_exists_mem, hl]
  exact ⟨fun ⟨_, i, hi, _⟩ => by omega, fun h => ⟨_, 0, h, rfl⟩⟩

theorem mem_map_rate_iff {l : List String} {dir : String} {n : Nat}
    (hl : ∀ name, name ∈ l ↔ ∃ i < n, toString i = name) (q : Path) :
    q ∈ l.map (fun name => mbPath ++ [dir] ++ [name, "rate", "value"]) ↔
      q ∈ (List.range n).map fun i => mbPath ++ [dir, toString i, "rate", "value"] := by
  simp [hl, mbPath]

private theorem node?_of_sets {t u : ImplTree E}
    {f : Path × Node PropType (Value E) Callback → Node PropType (Value E) Callback}
    (h : u.nodes = t.nodes.map fun e => (e.1, f e))
    (hf : ∀ e, (f e).type = e.2.type ∧ (f e).coercers = e.2.coercers ∧
      (f e).subscribers = e.2.subscribers)
    {q : Path} {node : Node PropType (Value E) Callback} (hq : t.node? q = some node) :
    ∃ node', u.node? q = some node' ∧ node'.type = node.type ∧ node'.coercers = node.coercers ∧
      node'.subscribers = node.subscribers := by
  rw [Tree.node?_of_nodes_eq_map h, hq]
  exact ⟨_, rfl, hf (q, node)⟩

section PostInit

variable (env : ImplEnv E DboardId)

/-- Post-init's four steps, over DSP directories that list one name per DSP, leave at each
block the node `bringUpNode` says. -/
theorem setWhen_postInit {lrx ltx : List String}
    (hrx : ∀ name, name ∈ lrx ↔ ∃ i < getNumDdcs env.capsRegval, toString i = name)
    (htx : ∀ name, name ∈ ltx ↔ ∃ i < getNumDucs env.capsRegval, toString i = name)
    (rxSpec txSpec : SubdevSpec) (b : ImplBlock E) :
    setWhen env.coercion (b.path = mbPath ++ ["tx_subdev_spec"] ∧ 0 < ltx.length)
        (.subdevSpec txSpec)
      (setWhen env.coercion (b.path = mbPath ++ ["rx_subdev_spec"] ∧ 0 < lrx.length)
        (.subdevSpec rxSpec)
      (setWhen env.coercion
        (b.path ∈ ltx.map fun name => mbPath ++ ["tx_dsps"] ++ [name, "rate", "value"])
        (.double 1000000)
      (setWhen env.coercion
        (b.path ∈ lrx.map fun name => mbPath ++ ["rx_dsps"] ++ [name, "rate", "value"])
        (.double 1000000) (b.run env.coercion).1))) =
      bringUpNode env rxSpec txSpec b := by
  simp only [setWhen, bringUpNode, postInitValue, ratePaths, List.mem_append, mem_map_rate_iff hrx,
    mem_map_rate_iff htx, length_pos_of_mem_iff hrx, length_pos_of_mem_iff htx]
  generalize (b.run env.coercion).1 = x
  generalize b.path = q
  by_cases h1 : q ∈ (List.range (getNumDdcs env.capsRegval)).map
      fun i => mbPath ++ ["rx_dsps", toString i, "rate", "value"]
  · have h : q ∉ (List.range (getNumDucs env.capsRegval)).map
          (fun i => mbPath ++ ["tx_dsps", toString i, "rate", "value"]) ∧
        q ≠ mbPath ++ ["rx_subdev_spec"] ∧ q ≠ mbPath ++ ["tx_subdev_spec"] := by
      obtain ⟨i, -, rfl⟩ := List.mem_map.mp h1
      simp [mbPath]
    simp only [h1, h, if_true, if_false, true_or, false_and]
  by_cases h2 : q ∈ (List.range (getNumDucs env.capsRegval)).map
      fun i => mbPath ++ ["tx_dsps", toString i, "rate", "value"]
  · have h : q ≠ mbPath ++ ["rx_subdev_spec"] ∧ q ≠ mbPath ++ ["tx_subdev_spec"] := by
      obtain ⟨i, -, rfl⟩ := List.mem_map.mp h2
      simp [mbPath]
    simp only [h1, h2, h, if_true, if_false, or_true, false_and]
  have hspec : mbPath ++ ["rx_subdev_spec"] ≠ mbPath ++ ["tx_subdev_spec"] := by
    simp [mbPath]
  by_cases h3 : q = mbPath ++ ["rx_subdev_spec"]
  · subst h3
    by_cases hn : 0 < getNumDdcs env.capsRegval <;>
      simp only [h1, h2, hn, hspec, if_true, if_false, or_false, and_true, and_false,
        false_and, true_and]
  by_cases h4 : q = mbPath ++ ["tx_subdev_spec"]
  · subst h4
    by_cases hn : 0 < getNumDucs env.capsRegval <;>
      simp only [h1, h2, h3, hn, if_true, if_false, or_false, and_true, and_false, false_and,
        true_and]
  simp only [h1, h2, h3, h4, if_false, or_false, false_and]

variable [DecidableEq DboardId]

/-- Post-init on the tree the blocks build: it sets every rate and, where there is a DSP of
its kind, each subdevice specification, calling that specification's subscriber; it fails
just where `postInitError` says. -/
theorem postInit_eq (rxSpec txSpec : SubdevSpec) (t : ImplTree E)
    (hnodes : t.nodes = (bringUpBlocks env).map fun b => (b.path, (b.run env.coercion).1)) :
    ∃ t', postInit env rxSpec txSpec t =
        (match postInitError env rxSpec txSpec with
          | some e => .error e
          | none => .ok t') ∧
      t'.nodes = (bringUpBlocks env).map (fun b => (b.path, bringUpNode env rxSpec txSpec b)) ∧
      t'.calls = t.calls ++ postInitCalls env rxSpec txSpec := by
  have hpaths : t.paths = (bringUpBlocks env).map Block.path := by
    simp [Tree.paths, hnodes, Function.comp_def]
  have hnode : ∀ b ∈ bringUpBlocks env, t.node? b.path = some (b.run env.coercion).1 :=
    fun b hb => Tree.node?_of_mem (hnodes ▸ List.mem_map_of_mem _ hb)
  have hrxList : ∀ name, name ∈ t.list (mbPath ++ ["rx_dsps"]) ↔
      ∃ i < getNumDdcs env.capsRegval, toString i = name :=
    mem_list_dsps (by rw [hpaths]; exact dsps_getElem? env true)
      fun i hi => hpaths ▸ List.mem_map_of_mem Block.path (rate_mem_bringUpBlocks env true hi)
  have htxList : ∀ name, name ∈ t.list (mbPath ++ ["tx_dsps"]) ↔
      ∃ i < getNumDucs env.capsRegval, toString i = name :=
    mem_list_dsps (by rw [hpaths]; exact dsps_getElem? env false)
      fun i hi => hpaths ▸ List.mem_map_of_mem Block.path (rate_mem_bringUpBlocks env false hi)
  -- the rates
  have hrx : ∀ name ∈ t.list (mbPath ++ ["rx_dsps"]), ∃ node,
      t.node? (mbPath ++ ["rx_dsps"] ++ [name, "rate", "value"]) = some node ∧
        node.type = .double ∧ node.subscribers = [] := by
    intro name hname
    obtain ⟨i, hi, rfl⟩ := (hrxList name).mp hname
    exact ⟨_, hnode _ (rate_mem_bringUpBlocks env true hi), rfl, rfl⟩
  obtain ⟨t₁, h₁, hn₁, hc₁⟩ := setRates_eq env _ _ t hrx
  have hl₁ := list_of_paths_eq (Tree.paths_of_nodes_eq_map hn₁)
  have htx : ∀ name ∈ t₁.list (mbPath ++ ["tx_dsps"]), ∃ node,
      t₁.node? (mbPath ++ ["tx_dsps"] ++ [name, "rate", "value"]) = some node ∧
        node.type = .double ∧ node.subscribers = [] := by
    intro name hname
    obtain ⟨i, hi, rfl⟩ := (htxList name).mp (hl₁ _ ▸ hname)
    obtain ⟨node, h, ht, -, hs⟩ :=
      node?_of_sets hn₁ (fun _ => by simp) (hnode _ (rate_mem_bringUpBlocks env false hi))
    exact ⟨node, h, ht, hs⟩
  obtain ⟨t₂, h₂, hn₂, hc₂⟩ := setRates_eq env _ _ t₁ htx
  have hl₂ := list_of_paths_eq (Tree.paths_of_nodes_eq_map hn₂)
  -- the subdevice specifications
  obtain ⟨rxNode₁, hr₁, hrt₁, hrc₁, hrs₁⟩ := node?_of_sets hn₁
    (fun _ => by simp) (hnode _ (subdevSpec_mem_bringUpBlocks env).1)
  obtain ⟨rxNode, hr₂, hrt, hrc₂, hrs₂⟩ := node?_of_sets hn₂ (fun _ => by simp) hr₁
  have hrxCalls : ((Action.set (.subdevSpec rxSpec)).apply env.coercion rxNode).2 =
      [(.updateRxSubdevSpec, .subdevSpec rxSpec)] := by
    simp only [Action.apply, hrs₂, hrs₁, hrc₂, hrc₁]
    rfl
  obtain ⟨t₃, h₃, hn₃, hc₃⟩ := setSubdevSpec_eq env (mbPath ++ ["rx_dsps"])
    (mbPath ++ ["rx_subdev_spec"]) rxSpec hr₂ (hrt.trans hrt₁)
  have hl₃ := list_of_paths_eq (Tree.paths_of_nodes_eq_map hn₃)
  obtain ⟨txNode₁, ht₁, htt₁, htc₁, hts₁⟩ := node?_of_sets hn₁
    (fun _ => by simp) (hnode _ (subdevSpec_mem_bringUpBlocks env).2)
  obtain ⟨txNode₂, ht₂, htt₂, htc₂, hts₂⟩ := node?_of_sets hn₂ (fun _ => by simp) ht₁
  obtain ⟨txNode, ht₃, htt, htc₃, hts₃⟩ := node?_of_sets hn₃ (fun _ => by simp) ht₂
  have htxCalls : ((Action.set (.subdevSpec txSpec)).apply env.coercion txNode).2 =
      [(.updateTxSubdevSpec, .subdevSpec txSpec)] := by
    simp only [Action.apply, hts₃, hts₂, hts₁, htc₃, htc₂, htc₁]
    rfl
  obtain ⟨t₄, h₄, hn₄, hc₄⟩ := setSubdevSpec_eq env (mbPath ++ ["tx_dsps"])
    (mbPath ++ ["tx_subdev_spec"]) txSpec ht₃ (htt.trans (htt₂.trans htt₁))
  refine ⟨t₄, ?_, ?_, ?_⟩
  · simp only [hl₃, hl₂, hl₁, length_pos_of_mem_iff hrxList, length_pos_of_mem_iff htxList,
      hrxCalls, htxCalls, Hooks.callsReturn, List.all_cons, List.all_nil, Bool.and_true,
      ImplEnv.hooks_fails, Bool.not_eq_false'] at h₃ h₄
    simp only [postInit, h₁, h₂, h₃, bind, Except.bind, postInitError]
    by_cases hrx : 0 < getNumDdcs env.capsRegval ∧
        env.fails .updateRxSubdevSpec (.subdevSpec rxSpec) = true
    · rw [if_pos hrx, if_pos hrx]
    · rw [if_neg hrx, if_neg hrx]
      simp only [h₄]
      split_ifs <;> rfl
  · rw [hn₄, hn₃, hn₂, hn₁, hnodes]
    simp only [List.map_map, hl₁, hl₂, hl₃]
    exact List.map_congr_left fun b _ =>
      congrArg (Prod.mk b.path) (setWhen_postInit env hrxList htxList rxSpec txSpec b)
  · simp only [hc₄, hc₃, hc₂, hc₁, hl₃, hl₂, hl₁, length_pos_of_mem_iff hrxList,
      length_pos_of_mem_iff htxList, hrxCalls, htxCalls, postInitCalls, List.append_assoc]

end PostInit

/-! ## Bring-up -/

/-- Where the tree operations keep their side of the contract, the blocks build their tree,
and what follows turns on the two ifs of the dboard loop alone. -/
theorem usrp1Impl_eq_postInit [DecidableEq DboardId] (env : ImplEnv E DboardId)
    (hc : env.TreeContract) :
    ∃ t, t.nodes = (bringUpBlocks env).map (fun b => (b.path, (b.run env.coercion).1)) ∧
      t.calls = (bringUpBlocks env).flatMap (fun b => (b.run env.coercion).2) ∧
      usrp1Impl env =
        match initSubdevSpecs env.noneId env.rxSubdevNames env.txSubdevNames
            (dbcKeys.map (dboardSlot env)) [] [] with
        | some specs => (postInit env specs.1 specs.2 t).mapError .tree
        | none => .error .emptySubdevNames := by
  obtain ⟨t₂, hrun, hn₂, hc₂⟩ := Tree.runBlocks_of_fresh env.hooks (bringUpBlocks env) Tree.empty
    (fun _ _ h => by simp [Tree.empty, Tree.paths] at h) (nodup_bringUpBlocks hc)
    (chainOk_bringUpBlocks hc) (callsReturn_bringUpBlocks hc)
  refine ⟨t₂, by simpa [Tree.empty] using hn₂, by simp [hc₂, Tree.empty, List.flatMap], ?_⟩
  rw [bringUpBlocks, Tree.runBlocks_append] at hrun
  obtain ⟨t₁, h₁, hrun⟩ := bind_eq_ok hrun
  unfold usrp1Impl
  rw [h₁]
  show (dboardLoop env dbcKeys t₁ [] [] >>= _) = _
  rw [dboardLoop_of_runBlocks env dbcKeys t₁ t₂ [] [] hrun]
  cases initSubdevSpecs env.noneId env.rxSubdevNames env.txSubdevNames
      (dbcKeys.map (dboardSlot env)) [] [] <;> rfl

theorem initSubdevSpecs_of_wellBehaved [DecidableEq DboardId] {env : ImplEnv E DboardId}
    (hwb : env.WellBehaved) :
    initSubdevSpecs env.noneId env.rxSubdevNames env.txSubdevNames
      (dbcKeys.map (dboardSlot env)) [] [] = some (settledSpecs env) := by
  rw [initSubdevSpecs_eq_pickSubdevs, pickSubdevs_eq _ _ _ _ ?_, pickSubdevs_eq _ _ _ _ ?_]
  · rfl
  · intro s hs
    obtain ⟨db, hdb, rfl⟩ := List.mem_map.mp hs
    exact hwb.tx_names_ne_nil db hdb
  · intro s hs
    obtain ⟨db, hdb, rfl⟩ := List.mem_map.mp hs
    exact hwb.rx_names_ne_nil db hdb

/-- On a well-behaved environment bring-up runs to the end. It leaves one node per block, in
creation order, each as its chain and post-init leave it, with the subdevice specifications
the dboard loop settles on; its subscriber calls are the chains', then one per
specification post-init sets. -/
theorem usrp1Impl_ok [DecidableEq DboardId] (env : ImplEnv E DboardId) (hwb : env.WellBehaved) :
    ∃ t, usrp1Impl env = .ok t ∧
      t.nodes = (bringUpBlocks env).map
        (fun b => (b.path, bringUpNode env (settledSpecs env).1 (settledSpecs env).2 b)) ∧
      t.calls = (bringUpBlocks env).flatMap (fun b => (b.run env.coercion).2) ++
        postInitCalls env (settledSpecs env).1 (settledSpecs env).2 := by
  obtain ⟨t₂, hn₂, hc₂, himpl⟩ := usrp1Impl_eq_postInit env hwb.toTreeContract
  obtain ⟨t, hpost, hn, hc⟩ := postInit_eq env (settledSpecs env).1 (settledSpecs env).2 t₂ hn₂
  refine ⟨t, ?_, hn, by rw [hc, hc₂]⟩
  rw [himpl, initSubdevSpecs_of_wellBehaved hwb]
  simp only [Except.mapError, hpost, hwb.subdevSpecs_accepted]

theorem usrp1Impl_nodes [DecidableEq DboardId] (env : ImplEnv E DboardId) (hwb : env.WellBehaved) :
    ∃ t, usrp1Impl env = .ok t ∧
      t.nodes = (bringUpBlocks env).map
        (fun b => (b.path, bringUpNode env (settledSpecs env).1 (settledSpecs env).2 b)) ∧
      t.paths = (bringUpBlocks env).map Block.path := by
  obtain ⟨t₂, hn₂, -, himpl⟩ := usrp1Impl_eq_postInit env hwb.toTreeContract
  obtain ⟨t, hpost, hn, -⟩ := postInit_eq env (settledSpecs env).1 (settledSpecs env).2 t₂ hn₂
  refine ⟨t, ?_, hn, by simp [Tree.paths, hn, Function.comp_def]⟩
  rw [himpl, initSubdevSpecs_of_wellBehaved hwb]
  simp only [Except.mapError, hpost, hwb.subdevSpecs_accepted]

/-- A USRP1 with one DDC and one DUC whose slots read back blank EEPROMs; each manager
reports one subdevice, with one property, and no callback fails. -/
def blankSlotsEnv : ImplEnv Unit Nat where
  capsRegval := 0x11#32
  mbEeprom := ()
  mcr := none
  parseDouble := fun _ => none
  rxPgaGainRange := ()
  txPgaGainRange := ()
  i2c := ⟨0x54, 0x55, 0x50, 0x51⟩
  eepromAt := fun _ => ((), 0xffff)
  noneId := 0xffff
  dboardIface := fun _ => ()
  rxSubdevNames := fun _ _ => ["0"]
  txSubdevNames := fun _ _ => ["0"]
  populate := fun _ _ _ _ => [⟨["name"], .string, [.set (.str "Unknown")]⟩]
  coercion := fun _ v => v
  fails := fun _ _ => false

theorem blankSlotsEnv_wellBehaved : blankSlotsEnv.WellBehaved :=
  ⟨⟨by simp [blankSlotsEnv], by simp [blankSlotsEnv], by simp [blankSlotsEnv],
      by simp [blankSlotsEnv, Action.chainOk, Value.type], by simp [blankSlotsEnv, Block.run,
        Action.applyAll, Action.apply, Node.fresh, Hooks.callsReturn]⟩,
    by simp [blankSlotsEnv], by simp [blankSlotsEnv], by simp [blankSlotsEnv, postInitError]⟩

theorem usrp1Impl_ok_blank_slots :
    blankSlotsEnv.WellBehaved ∧
      ∃ t, usrp1Impl blankSlotsEnv = .ok t ∧
        t.nodes = (bringUpBlocks blankSlotsEnv).map (fun b => (b.path,
          bringUpNode blankSlotsEnv (settledSpecs blankSlotsEnv).1 (settledSpecs blankSlotsEnv).2 b)) ∧
        t.calls = (bringUpBlocks blankSlotsEnv).flatMap (fun b => (b.run blankSlotsEnv.coercion).2) ++
          postInitCalls blankSlotsEnv (settledSpecs blankSlotsEnv).1 (settledSpecs blankSlotsEnv).2 :=
  ⟨blankSlotsEnv_wellBehaved, usrp1Impl_ok blankSlotsEnv blankSlotsEnv_wellBehaved⟩

/-! ## Where bring-up stops -/

/-- On an environment that keeps the tree's side of the contract, bring-up stops in one of
two ways. It indexes an empty name list just where a slot's manager reports no subdevice of
a kind whose specification the loop sets there: at slot A always, at slot B when it has a
board of that kind. Past the loop, it fails just where a subdevice specification update of
post-init fails, with `HardwareWriteError` at the first such specification. -/
theorem usrp1Impl_eq_error_iff [DecidableEq DboardId] (env : ImplEnv E DboardId)
    (hc : env.TreeContract) (err : ImplError) :
    usrp1Impl env = .error err ↔
      (err = .emptySubdevNames ∧
        ((env.rxSubdevNames (dboardSlot env "A").rxId
              (managerTxId env.noneId (dboardSlot env "A")) = [] ∨
            (dboardSlot env "B").rxId ≠ env.noneId ∧ env.rxSubdevNames (dboardSlot env "B").rxId
              (managerTxId env.noneId (dboardSlot env "B")) = []) ∨
          (env.txSubdevNames (dboardSlot env "A").rxId
              (managerTxId env.noneId (dboardSlot env "A")) = [] ∨
            (dboardSlot env "B").txId ≠ env.noneId ∧ env.txSubdevNames (dboardSlot env "B").rxId
              (managerTxId env.noneId (dboardSlot env "B")) = []))) ∨
      ∃ specs, initSubdevSpecs env.noneId env.rxSubdevNames env.txSubdevNames
          (dbcKeys.map (dboardSlot env)) [] [] = some specs ∧
        ∃ e, postInitError env specs.1 specs.2 = some e ∧ err = .tree e := by
  obtain ⟨t₂, hn₂, -, himpl⟩ := usrp1Impl_eq_postInit env hc
  have hnone := initSubdevSpecs_eq_none_iff env.noneId env.rxSubdevNames env.txSubdevNames
    (dboardSlot env "A") [dboardSlot env "B"]
  simp only [List.mem_singleton, exists_eq_left] at hnone
  have hkeys : dbcKeys.map (dboardSlot env) = [dboardSlot env "A", dboardSlot env "B"] := rfl
  rw [← hnone, himpl, hkeys]
  cases initSubdevSpecs env.noneId env.rxSubdevNames env.txSubdevNames
      [dboardSlot env "A", dboardSlot env "B"] [] [] with
  | none => simp [eq_comm]
  | some specs =>
      obtain ⟨t, hpost, -⟩ := postInit_eq env specs.1 specs.2 t₂ hn₂
      cases he : postInitError env specs.1 specs.2 <;> simp [Except.mapError, hpost, he, eq_comm]

/-- A USRP1 like `blankSlotsEnv` with a board in slot A only, whose manager reports one
subdevice of each kind; the manager of the empty slot B reports none. -/
def slotAOnlyEnv : ImplEnv Unit Nat :=
  { blankSlotsEnv with
    eepromAt := fun addr => ((), if addr = 0x54 then 1 else 0xffff)
    rxSubdevNames := fun rxId _ => if rxId = 1 then ["0"] else []
    txSubdevNames := fun rxId _ => if rxId = 1 then ["0"] else [] }

/-- Bring-up runs to the end with no subdevice in the empty slot B, which the contract of
`usrp1Impl_ok` leaves out. -/
theorem usrp1Impl_ok_slot_a_only :
    slotAOnlyEnv.TreeContract ∧ ∃ t, usrp1Impl slotAOnlyEnv = .ok t := by
  have hc : slotAOnlyEnv.TreeContract :=
    ⟨fun _ _ => by simp only [slotAOnlyEnv]; split <;> simp,
      fun _ _ => by simp only [slotAOnlyEnv]; split <;> simp,
      by simp [slotAOnlyEnv, blankSlotsEnv],
      by simp [slotAOnlyEnv, blankSlotsEnv, Action.chainOk, Value.type],
      by simp [slotAOnlyEnv, blankSlotsEnv, Block.run, Action.applyAll, Action.apply, Node.fresh,
        Hooks.callsReturn]⟩
  refine ⟨hc, ?_⟩
  cases h : usrp1Impl slotAOnlyEnv with
  | ok t => exact ⟨t, rfl⟩
  | error err =>
      rcases (usrp1Impl_eq_error_iff slotAOnlyEnv hc err).mp h with ⟨-, hcond⟩ | ⟨_, -, _, he, -⟩
      · exact absurd hcond (by decide)
      · simp [postInitError, slotAOnlyEnv, blankSlotsEnv] at he

/-! ## Writing a dboard EEPROM -/

theorem postInitValue_dboards (env : ImplEnv E DboardId) (rxSpec txSpec : SubdevSpec)
    (db name : String) : postInitValue env rxSpec txSpec (mbPath ++ ["dboards", db, name]) = none := by
  simp [postInitValue, ratePaths, mbPath]

/-- After bring-up on a well-behaved environment, a caller's write of a daughterboard EEPROM
record stores the record and calls the property's one subscriber once with it, reporting
`HardwareWriteError` just when that call fails; that subscriber, `set_db_eeprom`, stores the
value once, at the address bring-up loaded the property from. -/
theorem usrp1Impl_set_dboardEeprom [DecidableEq DboardId] (env : ImplEnv E DboardId)
    (hwb : env.WellBehaved) :
    ∃ t, usrp1Impl env = .ok t ∧
      ∀ db ∈ dbcKeys, ∀ p ∈ dboardEepromProperties env.i2c db, ∀ e : E,
        ((t.write env.hooks (mbPath ++ ["dboards", db, p.prop]) (.record .dboardEeprom e)).1.node?
            (mbPath ++ ["dboards", db, p.prop])).bind (·.current) = some (.record .dboardEeprom e) ∧
          (t.write env.hooks (mbPath ++ ["dboards", db, p.prop]) (.record .dboardEeprom e)).1.calls =
            t.calls ++ [(.setDbEeprom db p.subscriberType, .record .dboardEeprom e)] ∧
          (t.write env.hooks (mbPath ++ ["dboards", db, p.prop]) (.record .dboardEeprom e)).2 =
            (if env.fails (.setDbEeprom db p.subscriberType) (.record .dboardEeprom e) then
              some (.hardwareWriteError (mbPath ++ ["dboards", db, p.prop]))
            else none) ∧
          setDbEeprom env.i2c db p.subscriberType = [p.loadAddr] := by
  obtain ⟨t, hok, hn, -⟩ := usrp1Impl_nodes env hwb
  refine ⟨t, hok, fun db hdb p hp e => ?_⟩
  have hnode := Tree.node?_of_mem (hn ▸ List.mem_map_of_mem
    (fun b : ImplBlock E => (b.path, bringUpNode env (settledSpecs env).1 (settledSpecs env).2 b))
    (dboardEeprom_mem_bringUpBlocks env hdb hp))
  simp only [bringUpNode, postInitValue_dboards] at hnode
  simp only [Tree.write, hnode]
  refine ⟨?_, ?_, ?_, setDbEeprom_of_mem hp⟩
  · simp [hnode, Node.afterWrite, Action.apply, Block.run, Action.applyAll, Node.fresh, Value.type]
  · cases hf : env.fails (.setDbEeprom db p.subscriberType) (.record .dboardEeprom e) <;>
      simp [Node.writeCalls, Hooks.callsMade, hf, Action.apply, Block.run, Action.applyAll,
        Node.fresh, Value.type]
  · cases hf : env.fails (.setDbEeprom db p.subscriberType) (.record .dboardEeprom e) <;>
      simp [Node.writeError, Hooks.callsReturn, hf, Action.apply, Block.run, Action.applyAll,
        Node.fresh, Value.type]

theorem usrp1Impl_set_dboardEeprom_blank_slots :
    blankSlotsEnv.WellBehaved ∧
      ∃ t, usrp1Impl blankSlotsEnv = .ok t ∧
        ∀ db ∈ dbcKeys, ∀ p ∈ dboardEepromProperties blankSlotsEnv.i2c db, ∀ e : Unit,
          ((t.write blankSlotsEnv.hooks (mbPath ++ ["dboards", db, p.prop])
              (.record .dboardEeprom e)).1.node? (mbPath ++ ["dboards", db, p.prop])).bind
              (·.current) = some (.record .dboardEeprom e) ∧
            (t.write blankSlotsEnv.hooks (mbPath ++ ["dboards", db, p.prop])
              (.record .dboardEeprom e)).1.calls =
              t.calls ++ [(.setDbEeprom db p.subscriberType, .record .dboardEeprom e)] ∧
            (t.write blankSlotsEnv.hooks (mbPath ++ ["dboards", db, p.prop])
              (.record .dboardEeprom e)).2 =
              (if blankSlotsEnv.fails (.setDbEeprom db p.subscriberType) (.record .dboardEeprom e)
                then some (.hardwareWriteError (mbPath ++ ["dboards", db, p.prop]))
              else none) ∧
            setDbEeprom blankSlotsEnv.i2c db p.subscriberType = [p.loadAddr] :=
  ⟨blankSlotsEnv_wellBehaved, usrp1Impl_set_dboardEeprom blankSlotsEnv blankSlotsEnv_wellBehaved⟩

end Uhd.Usrp1
