import Uhd.Usrp1.ImplRun

/-! # The subscribers the tree calls

The tree's call log records subscriber calls only; coercers run without a record, as
`update_rx_samp_rate` and `update_tx_samp_rate` do under post-init's rate sets. During
bring-up, `usrp1_impl::usrp1_impl` calls none of its own subscribers but the two subdevice
specification updates of post-init: each of its chains sets a value before it subscribes, so
it writes back no EEPROM and sets no gain or time. After bring-up, a caller's write of a
value of a property's type stores it as the property's coercers make it and calls the
subscribers bring-up registered there, in order, up to the first that fails, which is
reported as `HardwareWriteError`; the property ends with the last such value written to it.
A value of another type fails with `TypeMismatch` and a path bring-up did not create with
`NotFound`, and neither changes anything. Of the stream commands, only DDC 0's reach the soft
time control, as the comment on the `dspno == 0` subscription says.
-/

namespace Uhd.Usrp1

open PropertyTree

variable {E DboardId : Type}

/-- Post-init's sets change what no later write makes or reports. -/
theorem bringUpNode_writes (env : ImplEnv E DboardId) (rxSpec txSpec : SubdevSpec)
    (b : ImplBlock E) (value : Value E) :
    (bringUpNode env rxSpec txSpec b).writeCalls env.hooks value =
        (b.run env.coercion).1.writeCalls env.hooks value ∧
      ∀ path, (bringUpNode env rxSpec txSpec b).writeError env.hooks path value =
        (b.run env.coercion).1.writeError env.hooks path value := by
  unfold bringUpNode
  split <;> exact ⟨rfl, fun _ => rfl⟩

variable [DecidableEq DboardId]

/-! ## Calls during bring-up -/

/-- The subscriber calls the chains of `populate_prop_tree_from_subdev` make for slot `db`,
frontend by frontend. -/
def frontendCalls (env : ImplEnv E DboardId) (db : String) : List (Callback × Value E) :=
  let slot := dboardSlot env db
  let txId := managerTxId env.noneId slot
  (((env.rxSubdevNames slot.rxId txId).flatMap fun name => env.populate slot.rxId txId true name) ++
      (env.txSubdevNames slot.rxId txId).flatMap fun name =>
        env.populate slot.rxId txId false name).flatMap
    fun b => (b.run env.coercion).2

theorem calls_dboardBlocks (env : ImplEnv E DboardId) (db : String) :
    (dboardBlocks env db).flatMap (fun b => (b.run env.coercion).2) = frontendCalls env db := by
  simp only [dboardBlocks, frontendCalls, List.flatMap_append, List.flatMap_assoc,
    List.flatMap_map, Function.comp_def, Block.run_rebase]
  simp [dboardEepromProperties, Block.run, Action.applyAll, Action.apply, Node.fresh]

/-- Bring-up on a well-behaved environment calls none of its own subscribers but the
subdevice specification updates of post-init: each of its chains sets a value before it
subscribes, so it writes back no EEPROM, sets no gain or time and issues no stream command.
The only other subscriber calls are those the daughterboard code's chains make. -/
theorem usrp1Impl_calls (env : ImplEnv E DboardId) (hwb : env.WellBehaved) :
    ∃ t, usrp1Impl env = .ok t ∧
      t.calls = dbcKeys.flatMap (frontendCalls env) ++
        postInitCalls env (settledSpecs env).1 (settledSpecs env).2 := by
  obtain ⟨t₂, hn₂, hc₂, himpl⟩ := usrp1Impl_eq_postInit env hwb.toTreeContract
  obtain ⟨t, hpost, -, hc⟩ := postInit_eq env (settledSpecs env).1 (settledSpecs env).2 t₂ hn₂
  refine ⟨t, ?_, ?_⟩
  · rw [himpl, initSubdevSpecs_of_wellBehaved hwb]
    simp only [Except.mapError, hpost, hwb.subdevSpecs_accepted]
  have hinit : (initBlocks env).flatMap (fun b => (b.run env.coercion).2) = [] := by
    refine List.flatMap_eq_nil_iff.mpr fun b hb => ?_
    rcases mem_initBlocks.mp hb with hb | hb
    exacts [calls_fixedBlocks env b hb, calls_dspBlocks env b hb]
  rw [hc, hc₂, bringUpBlocks, List.flatMap_append, hinit, List.nil_append, List.flatMap_assoc]
  simp only [calls_dboardBlocks]

theorem usrp1Impl_calls_blank_slots :
    blankSlotsEnv.WellBehaved ∧ ∃ t, usrp1Impl blankSlotsEnv = .ok t ∧
      t.calls = dbcKeys.flatMap (frontendCalls blankSlotsEnv) ++
        postInitCalls blankSlotsEnv (settledSpecs blankSlotsEnv).1 (settledSpecs blankSlotsEnv).2 :=
  ⟨blankSlotsEnv_wellBehaved, usrp1Impl_calls blankSlotsEnv blankSlotsEnv_wellBehaved⟩

/-! ## Any run of writes -/

/-- The subscriber calls a caller's write of `value` to `path` makes on the tree bring-up
leaves: those of the subscribers the block that created `path` registered, each given the
value the block's coercers make of `value`, up to the first that fails; none for a value of
another type, or where bring-up created nothing. -/
def writeCalls (env : ImplEnv E DboardId) (path : Path) (value : Value E) :
    List (Callback × Value E) :=
  match (bringUpBlocks env).find? (·.path == path) with
  | some b => (b.run env.coercion).1.writeCalls env.hooks value
  | none => []

/-- The error a caller's write of `value` to `path` reports on the tree bring-up leaves:
`NotFound` where bring-up created nothing, `TypeMismatch` for a value of another type than
the property's, and `HardwareWriteError` where a subscriber call fails. -/
def writeError (env : ImplEnv E DboardId) (path : Path) (value : Value E) : Option TreeError :=
  match (bringUpBlocks env).find? (·.path == path) with
  | some b => (b.run env.coercion).1.writeError env.hooks path value
  | none => some (.notFound path)

/-- A stream command written to DDC `i`: it reaches the soft time control for DDC 0 only,
and fails just when `issue_stream_cmd` does. -/
theorem streamCmd_writes (env : ImplEnv E DboardId) {i : Nat}
    (hi : i < getNumDdcs env.capsRegval) {rxSpec txSpec : SubdevSpec} {t : ImplTree E}
    (hn : t.nodes = (bringUpBlocks env).map (fun b => (b.path, bringUpNode env rxSpec txSpec b)))
    (e : E) :
    ((t.node? (mbPath ++ ["rx_dsps", toString i, "stream_cmd"])).map
        (·.writeCalls env.hooks (.record .streamCmd e))).getD [] =
        (if i = 0 then [(.issueStreamCmd, .record .streamCmd e)] else []) ∧
      ((t.node? (mbPath ++ ["rx_dsps", toString i, "stream_cmd"])).map
        (·.writeError env.hooks (mbPath ++ ["rx_dsps", toString i, "stream_cmd"])
          (.record .streamCmd e))).getD
          (some (.notFound (mbPath ++ ["rx_dsps", toString i, "stream_cmd"]))) =
        (if i = 0 ∧ env.fails .issueStreamCmd (.record .streamCmd e) = true then
          some (.hardwareWriteError (mbPath ++ ["rx_dsps", "0", "stream_cmd"]))
        else none) := by
  rw [Tree.node?_of_mem (hn ▸ List.mem_map_of_mem
    (fun b : ImplBlock E => (b.path, bringUpNode env rxSpec txSpec b))
    (streamCmd_mem_bringUpBlocks env hi))]
  simp only [Option.map_some', Option.getD_some, (bringUpNode_writes _ _ _ _ _).1,
    (bringUpNode_writes _ _ _ _ _).2]
  by_cases h : i = 0 <;> cases hf : env.fails .issueStreamCmd (.record .streamCmd e) <;>
    simp [h, hf, show toString 0 = "0" from rfl, Node.writeCalls, Node.writeError, Hooks.callsMade,
      Hooks.callsReturn, Block.run, Action.applyAll, Action.apply, Node.fresh, Value.type]

/-- After bring-up on a well-behaved environment, of any run of stream commands written to
the DDCs bring-up created, only those written to DDC 0 reach the soft time control's
`issue_stream_cmd`: once each, in order, and as written. The only errors are those of the
commands `issue_stream_cmd` rejects, each reported as `HardwareWriteError` at DDC 0's
`stream_cmd`. -/
theorem usrp1Impl_streamCmds (env : ImplEnv E DboardId) (hwb : env.WellBehaved) :
    ∃ t, usrp1Impl env = .ok t ∧
      ∀ cmds : List (Fin (getNumDdcs env.capsRegval) × E),
        (t.setEach env.hooks (cmds.map fun c =>
            (mbPath ++ ["rx_dsps", toString c.1.val, "stream_cmd"], .record .streamCmd c.2))).1.calls =
          t.calls ++ (cmds.filter (·.1.val = 0)).map
            (fun c => (.issueStreamCmd, .record .streamCmd c.2)) ∧
        (t.setEach env.hooks (cmds.map fun c =>
            (mbPath ++ ["rx_dsps", toString c.1.val, "stream_cmd"], .record .streamCmd c.2))).2 =
          (cmds.filter fun c => c.1.val = 0 && env.fails .issueStreamCmd (.record .streamCmd c.2)).map
            fun _ => .hardwareWriteError (mbPath ++ ["rx_dsps", "0", "stream_cmd"]) := by
  obtain ⟨t, himpl, hn, -⟩ := usrp1Impl_nodes env hwb
  refine ⟨t, himpl, fun cmds => ?_⟩
  obtain ⟨-, hcalls, herrs⟩ := Tree.setEach_eq env.hooks
    (cmds.map fun c => (mbPath ++ ["rx_dsps", toString c.1.val, "stream_cmd"],
      (.record .streamCmd c.2 : Value E))) t
  rw [hcalls, herrs, List.append_cancel_left_eq]
  clear hcalls herrs
  induction cmds with
  | nil => exact ⟨rfl, rfl⟩
  | cons c rest ih =>
      obtain ⟨hc, he⟩ := streamCmd_writes env c.1.isLt hn c.2
      simp only [List.map_cons, List.flatMap_cons, List.filterMap_cons, hc, he]
      by_cases h : c.1.val = 0 <;> cases hf : env.fails .issueStreamCmd (.record .streamCmd c.2) <;>
        simp [h, hf, List.filter_cons, ih.1, ih.2]

theorem usrp1Impl_streamCmds_blank_slots :
    blankSlotsEnv.WellBehaved ∧ ∃ t, usrp1Impl blankSlotsEnv = .ok t ∧
      ∀ cmds : List (Fin (getNumDdcs blankSlotsEnv.capsRegval) × Unit),
        (t.setEach blankSlotsEnv.hooks (cmds.map fun c =>
            (mbPath ++ ["rx_dsps", toString c.1.val, "stream_cmd"], .record .streamCmd c.2))).1.calls =
          t.calls ++ (cmds.filter (·.1.val = 0)).map
            (fun c => (.issueStreamCmd, .record .streamCmd c.2)) ∧
        (t.setEach blankSlotsEnv.hooks (cmds.map fun c =>
            (mbPath ++ ["rx_dsps", toString c.1.val, "stream_cmd"], .record .streamCmd c.2))).2 =
          (cmds.filter fun c =>
              c.1.val = 0 && blankSlotsEnv.fails .issueStreamCmd (.record .streamCmd c.2)).map
            fun _ => .hardwareWriteError (mbPath ++ ["rx_dsps", "0", "stream_cmd"]) :=
  ⟨blankSlotsEnv_wellBehaved, usrp1Impl_streamCmds blankSlotsEnv blankSlotsEnv_wellBehaved⟩

end Uhd.Usrp1
