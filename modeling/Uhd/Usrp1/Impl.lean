import Uhd.PropertyTree
import Uhd.Usrp1.Caps
import Uhd.Usrp1.Dboard

/-! # USRP1 bring-up

The property-tree part of `usrp1_impl::usrp1_impl`: every `create` with the calls
chained on it, in source order, then the post-init `list`-driven sets. The USB, FPGA
and codec set-up before the tree is built is left out, as is `io_init`, which is not part
of the source here and is taken to leave the tree alone. Reads of the hardware and what
the daughterboard code does are the environment.
-/

namespace Uhd.Usrp1

open PropertyTree

/-- The C++ value types of the properties bring-up creates; `other` stands for types
only the daughterboard code's properties use. -/
inductive PropType
  | string
  | mboardEeprom
  | double
  | metaRange
  | int
  | subdevSpec
  | streamCmd
  | timeSpec
  | stringVector
  | dboardEeprom
  | dboardIface
  | other (name : String)
deriving DecidableEq, Repr

/-- The callbacks bring-up binds into the tree; `frontend` stands for those of the
daughterboard code's properties. -/
inductive Callback
  | usrpLoadEeprom
  | setMbEeprom
  | updateRxCodecGain (db : String)
  | setTxPgaGain (db : String)
  | getTxPgaGain (db : String)
  | updateRxSubdevSpec
  | updateTxSubdevSpec
  | updateRxSampRate
  | updateRxDspFreq (dspno : Nat)
  | issueStreamCmd
  | updateTxSampRate
  | updateTxDspFreq (dspno : Nat)
  | getTime
  | setTime
  | setDbEeprom (db type : String)
  | frontend (label : String)
deriving DecidableEq, Repr

/-- The values the tree holds; `record` is one bring-up passes through without reading,
tagged with its type. -/
inductive Value (E : Type)
  | str (s : String)
  | double (x : ℚ)
  | range (start stop : ℚ)
  | strs (l : List String)
  | subdevSpec (spec : SubdevSpec)
  | record (type : PropType) (e : E)

/-- The type tag each value carries. -/
def Value.type {E : Type} : Value E → PropType
  | .str _ => .string
  | .double _ => .double
  | .range _ _ => .metaRange
  | .strs _ => .stringVector
  | .subdevSpec _ => .subdevSpec
  | .record type _ => type

abbrev ImplBlock (E : Type) := Block PropType (Value E) Callback
abbrev ImplTree (E : Type) := Tree PropType (Value E) Callback

/-- What bring-up reads of the hardware and of the code outside this file. -/
structure ImplEnv (E DboardId : Type) where
  /-- `peek32(FR_RB_CAPS)`. -/
  capsRegval : BitVec 32
  /-- The motherboard EEPROM record, and its `"mcr"` entry where it has one. -/
  mbEeprom : E
  mcr : Option String
  /-- `boost::lexical_cast<double>`, `none` where it throws. -/
  parseDouble : String → Option ℚ
  /-- `usrp1_codec_ctrl::rx_pga_gain_range` and `tx_pga_gain_range`. -/
  rxPgaGainRange : E
  txPgaGainRange : E
  i2c : I2cAddrs
  /-- `dboard_eeprom_t::load` at an I2C address: the record and its id. -/
  eepromAt : Nat → E × DboardId
  /-- `dboard_id_t::none()`. -/
  noneId : DboardId
  /-- `make_dboard_iface` for a slot. -/
  dboardIface : String → E
  /-- The subdevice names of the manager `dboard_manager::make(rx_id, tx_id, ...)`. -/
  rxSubdevNames : DboardId → DboardId → List String
  txSubdevNames : DboardId → DboardId → List String
  /-- `populate_prop_tree_from_subdev` for `(rx_id, tx_id, rx side?, name)`, as blocks
  relative to the subtree it is given. -/
  populate : DboardId → DboardId → Bool → String → List (ImplBlock E)
  /-- What each coercer computes. -/
  coercion : Callback → Value E → Value E
  /-- Whether a subscriber call throws. -/
  fails : Callback → Value E → Bool

def mbPath : Path :=
  ["mboards", "0"]

variable {E DboardId : Type}

/-- What the tree is told of the values and callbacks of bring-up. -/
def ImplEnv.hooks (env : ImplEnv E DboardId) : Hooks PropType (Value E) Callback :=
  ⟨Value.type, env.coercion, env.fails⟩

@[simp] theorem ImplEnv.hooks_typeOf (env : ImplEnv E DboardId) : env.hooks.typeOf = Value.type :=
  rfl

@[simp] theorem ImplEnv.hooks_coercion (env : ImplEnv E DboardId) : env.hooks.coercion = env.coercion :=
  rfl

@[simp] theorem ImplEnv.hooks_fails (env : ImplEnv E DboardId) : env.hooks.fails = env.fails :=
  rfl

/-- `_master_clock_rate`: 64 MHz unless the EEPROM's `"mcr"` entry is there, non-empty,
and parses; the exception of a missing entry or a failed parse is caught. -/
def masterClockRate (env : ImplEnv E DboardId) : ℚ :=
  match env.mcr with
  | some s => if s.isEmpty then 64000000 else (env.parseDouble s).getD 64000000
  | none => 64000000

/-- The device and motherboard names, the EEPROM properties and the tick rate. -/
def mboardBlocks (env : ImplEnv E DboardId) : List (ImplBlock E) :=
  [⟨["name"], .string, [.set (.str "USRP1 Device")]⟩,
    ⟨mbPath ++ ["name"], .string, [.set (.str "USRP1 (Classic)")]⟩,
    ⟨mbPath ++ ["load_eeprom"], .string, [.subscribe .usrpLoadEeprom]⟩,
    ⟨mbPath ++ ["eeprom"], .mboardEeprom, [.set (.record .mboardEeprom env.mbEeprom), .subscribe .setMbEeprom]⟩,
    ⟨mbPath ++ ["tick_rate"], .double, [.set (.double (masterClockRate env))]⟩]

/-- The codec properties of one slot. -/
def codecBlocks (env : ImplEnv E DboardId) (db : String) : List (ImplBlock E) :=
  [⟨mbPath ++ ["rx_codecs", db, "name"], .string, [.set (.str "ad9522")]⟩,
    ⟨mbPath ++ ["rx_codecs", db, "gains", "pga", "range"], .metaRange,
      [.set (.record .metaRange env.rxPgaGainRange)]⟩,
    ⟨mbPath ++ ["rx_codecs", db, "gains", "pga", "value"], .double,
      [.coerce (.updateRxCodecGain db)]⟩,
    ⟨mbPath ++ ["tx_codecs", db, "name"], .string, [.set (.str "ad9522")]⟩,
    ⟨mbPath ++ ["tx_codecs", db, "gains", "pga", "range"], .metaRange,
      [.set (.record .metaRange env.txPgaGainRange)]⟩,
    ⟨mbPath ++ ["tx_codecs", db, "gains", "pga", "value"], .double,
      [.subscribe (.setTxPgaGain db), .publish (.getTxPgaGain db)]⟩]

/-- The sensors directory and the two subdevice specifications. -/
def frontendBlocks : List (ImplBlock E) :=
  [⟨mbPath ++ ["sensors"], .int, []⟩,
    ⟨mbPath ++ ["rx_subdev_spec"], .subdevSpec, [.subscribe .updateRxSubdevSpec]⟩,
    ⟨mbPath ++ ["tx_subdev_spec"], .subdevSpec, [.subscribe .updateTxSubdevSpec]⟩]

/-- The properties of one DDC; only DDC 0 subscribes to stream commands. -/
def rxDspBlocks (env : ImplEnv E DboardId) (dspno : Nat) : List (ImplBlock E) :=
  [⟨mbPath ++ ["rx_dsps", toString dspno, "rate", "value"], .double, [.coerce .updateRxSampRate]⟩,
    ⟨mbPath ++ ["rx_dsps", toString dspno, "freq", "value"], .double,
      [.coerce (.updateRxDspFreq dspno)]⟩,
    ⟨mbPath ++ ["rx_dsps", toString dspno, "freq", "range"], .metaRange,
      [.set (.range (-masterClockRate env / 2) (masterClockRate env / 2))]⟩,
    ⟨mbPath ++ ["rx_dsps", toString dspno, "stream_cmd"], .streamCmd,
      if dspno = 0 then [.access .streamCmd, .subscribe .issueStreamCmd] else []⟩]

/-- The properties of one DUC. -/
def txDspBlocks (env : ImplEnv E DboardId) (dspno : Nat) : List (ImplBlock E) :=
  [⟨mbPath ++ ["tx_dsps", toString dspno, "rate", "value"], .double, [.coerce .updateTxSampRate]⟩,
    ⟨mbPath ++ ["tx_dsps", toString dspno, "freq", "value"], .double,
      [.coerce (.updateTxDspFreq dspno)]⟩,
    ⟨mbPath ++ ["tx_dsps", toString dspno, "freq", "range"], .metaRange,
      [.set (.range (-masterClockRate env * 0.6875) (masterClockRate env * 0.6875))]⟩]

def dspsDir (rx : Bool) : String :=
  if rx then "rx_dsps" else "tx_dsps"

/-- How many DSPs of one side the capabilities register reports: `get_num_ddcs()` or
`get_num_ducs()`. -/
def numDsps (env : ImplEnv E DboardId) (rx : Bool) : Nat :=
  if rx then getNumDdcs env.capsRegval else getNumDucs env.capsRegval

/-- One side's DSP loop: the directory, then the properties of each DSP. -/
def dspLoop (env : ImplEnv E DboardId) (rx : Bool) : List (ImplBlock E) :=
  ⟨mbPath ++ [dspsDir rx], .int, []⟩ ::
    (List.range (numDsps env rx)).flatMap (if rx then rxDspBlocks env else txDspBlocks env)

/-- The rx DSP loop, then the tx one. -/
def dspBlocks (env : ImplEnv E DboardId) : List (ImplBlock E) :=
  dspLoop env true ++ dspLoop env false

/-- The time and clock source properties. -/
def timeBlocks : List (ImplBlock E) :=
  [⟨mbPath ++ ["time", "now"], .timeSpec, [.publish .getTime, .subscribe .setTime]⟩,
    ⟨mbPath ++ ["clock_source", "options"], .stringVector, [.set (.strs ["internal"])]⟩,
    ⟨mbPath ++ ["time_source", "options"], .stringVector, [.set (.strs ["none"])]⟩,
    ⟨mbPath ++ ["clock_source", "value"], .string, [.set (.str "internal")]⟩,
    ⟨mbPath ++ ["time_source", "value"], .string, [.set (.str "none")]⟩]

/-- What the dboard loop reads of one slot: the ids of the three EEPROMs it loads. -/
def dboardSlot (env : ImplEnv E DboardId) (db : String) : DboardSlot DboardId :=
  ⟨db, (env.eepromAt (if db == "A" then env.i2c.rxA else env.i2c.rxB)).2,
    (env.eepromAt (if db == "A" then env.i2c.txA else env.i2c.txB)).2,
    (env.eepromAt (if db == "A" then env.i2c.txA ^^^ 5 else env.i2c.txB ^^^ 5)).2⟩

@[simp] theorem dboardSlot_db (env : ImplEnv E DboardId) (db : String) : (dboardSlot env db).db = db :=
  rfl

/-- The dboard properties of one slot: the three EEPROMs, the interface, then the
frontends the manager reports. -/
def dboardBlocks [DecidableEq DboardId] (env : ImplEnv E DboardId) (db : String) :
    List (ImplBlock E) :=
  let slot := dboardSlot env db
  let txId := managerTxId env.noneId slot
  (dboardEepromProperties env.i2c db).map (fun p =>
      ⟨mbPath ++ ["dboards", db, p.prop], .dboardEeprom,
        [.set (.record .dboardEeprom (env.eepromAt p.loadAddr).1),
          .subscribe (.setDbEeprom db p.subscriberType)]⟩) ++
    [⟨mbPath ++ ["dboards", db, "iface"], .dboardIface, [.set (.record .dboardIface (env.dboardIface db))]⟩] ++
    (env.rxSubdevNames slot.rxId txId).flatMap (fun name =>
      (env.populate slot.rxId txId true name).map
        (Block.rebase (mbPath ++ ["dboards", db, "rx_frontends", name]))) ++
    (env.txSubdevNames slot.rxId txId).flatMap (fun name =>
      (env.populate slot.rxId txId false name).map
        (Block.rebase (mbPath ++ ["dboards", db, "tx_frontends", name])))

def dbcKeys : List String :=
  ["A", "B"]

/-- Every `create` before the dboard loop, in source order. -/
def initBlocks (env : ImplEnv E DboardId) : List (ImplBlock E) :=
  mboardBlocks env ++ dbcKeys.flatMap (codecBlocks env) ++ frontendBlocks ++ dspBlocks env ++
    timeBlocks

/-- `access<double>(dsps / name / "rate" / "value").set(1e6)` for each listed name. -/
def setRates (hooks : Hooks PropType (Value E) Callback) (dsps : Path) :
    ImplTree E → List String → Except TreeError (ImplTree E)
  | t, [] => .ok t
  | t, name :: rest => do
      let t ← t.access (dsps ++ [name, "rate", "value"]) .double
      let t ← t.set hooks (dsps ++ [name, "rate", "value"]) (.double 1000000)
      setRates hooks dsps t rest

/-- `access<subdev_spec_t>(path).set(spec)` when `dsps` lists a child. -/
def setSubdevSpec (hooks : Hooks PropType (Value E) Callback) (dsps path : Path)
    (spec : SubdevSpec) (t : ImplTree E) : Except TreeError (ImplTree E) :=
  if (t.list dsps).length > 0 then do
    let t ← t.access path .subdevSpec
    t.set hooks path (.subdevSpec spec)
  else .ok t

/-- The post-init tasks: the host rates, then the subdevice specifications. -/
def postInit (env : ImplEnv E DboardId) (rxSpec txSpec : SubdevSpec) (t : ImplTree E) :
    Except TreeError (ImplTree E) := do
  let t ← setRates env.hooks (mbPath ++ ["rx_dsps"]) t (t.list (mbPath ++ ["rx_dsps"]))
  let t ← setRates env.hooks (mbPath ++ ["tx_dsps"]) t (t.list (mbPath ++ ["tx_dsps"]))
  let t ← setSubdevSpec env.hooks (mbPath ++ ["rx_dsps"]) (mbPath ++ ["rx_subdev_spec"]) rxSpec t
  setSubdevSpec env.hooks (mbPath ++ ["tx_dsps"]) (mbPath ++ ["tx_subdev_spec"]) txSpec t

/-- How bring-up fails: a tree error, or an empty subdevice name list indexed by `[0]`,
which is undefined. -/
inductive ImplError
  | tree (e : TreeError)
  | emptySubdevNames
deriving DecidableEq, Repr

/-- The dboard loop: each slot's properties, then the two `if`s on the subdevice
specifications. -/
def dboardLoop [DecidableEq DboardId] (env : ImplEnv E DboardId) :
    List String → ImplTree E → SubdevSpec → SubdevSpec →
      Except ImplError (ImplTree E × SubdevSpec × SubdevSpec)
  | [], t, rxSpec, txSpec => .ok (t, rxSpec, txSpec)
  | db :: rest, t, rxSpec, txSpec => do
      let t ← (t.runBlocks env.hooks (dboardBlocks env db)).mapError .tree
      let slot := dboardSlot env db
      let txId := managerTxId env.noneId slot
      let some rxSpec := pickSubdev (slot.rxId != env.noneId) db
          (env.rxSubdevNames slot.rxId txId) rxSpec
        | .error .emptySubdevNames
      let some txSpec := pickSubdev (slot.txId != env.noneId) db
          (env.txSubdevNames slot.rxId txId) txSpec
        | .error .emptySubdevNames
      dboardLoop env rest t rxSpec txSpec

/-- The tree part of `usrp1_impl::usrp1_impl`. -/
def usrp1Impl [DecidableEq DboardId] (env : ImplEnv E DboardId) :
    Except ImplError (ImplTree E) := do
  let t ← (Tree.empty.runBlocks env.hooks (initBlocks env)).mapError .tree
  let (t, rxSpec, txSpec) ← dboardLoop env dbcKeys t [] []
  (postInit env rxSpec txSpec t).mapError .tree

end Uhd.Usrp1
