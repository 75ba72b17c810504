import Mathlib.Data.List.Basic

/-! # Daughterboard slots at bring-up

The daughterboard loop of `usrp1_impl::usrp1_impl`: the three EEPROMs read for each
slot and written back by `set_db_eeprom`, and the initial rx and tx subdevice
specifications. The I2C addresses of `usrp_i2c_addr.h`, the EEPROM contents and the
subdevice names the daughterboard manager reports are parameters.
-/

namespace Uhd.Usrp1

/-! ## EEPROM addresses -/

/-- `I2C_ADDR_RX_A`, `I2C_ADDR_RX_B`, `I2C_ADDR_TX_A` and `I2C_ADDR_TX_B`. -/
structure I2cAddrs where
  rxA : Nat
  rxB : Nat
  txA : Nat
  txB : Nat

/-- A daughterboard EEPROM property of the loop: its name under `dboards/<db>`, the
address `load` reads its value from, and the `type` its subscriber binds. -/
structure EepromProperty where
  prop : String
  loadAddr : Nat
  subscriberType : String
deriving DecidableEq, Repr

/-- The EEPROM properties the loop creates for slot `db`, with the addresses of the
three `load` calls before them. -/
def dboardEepromProperties (a : I2cAddrs) (db : String) : List EepromProperty :=
  [⟨"rx_eeprom", if db == "A" then a.rxA else a.rxB, "rx"⟩,
    ⟨"tx_eeprom", if db == "A" then a.txA else a.txB, "tx"⟩,
    ⟨"gdb_eeprom", if db == "A" then a.txA ^^^ 5 else a.txB ^^^ 5, "gdb"⟩]

/-- `usrp1_impl::set_db_eeprom`: the address of each `db_eeprom.store` it makes. -/
def setDbEeprom (a : I2cAddrs) (db type : String) : List Nat :=
  (if type == "rx" then [if db == "A" then a.rxA else a.rxB] else []) ++
  (if type == "tx" then [if db == "A" then a.txA else a.txB] else []) ++
  (if type == "gdb" then [if db == "A" then a.txA ^^^ 5 else a.txB ^^^ 5] else [])

theorem setDbEeprom_of_mem {a : I2cAddrs} {db : String} {p : EepromProperty}
    (hp : p ∈ dboardEepromProperties a db) : setDbEeprom a db p.subscriberType = [p.loadAddr] := by
  simp only [dboardEepromProperties, List.mem_cons, List.mem_singleton, List.not_mem_nil,
    or_false] at hp
  rcases hp with rfl | rfl | rfl <;> simp [setDbEeprom]

/-! ## Initial subdevice specifications -/

abbrev SubdevSpec := List (String × String)

/-- What the loop reads of one slot: its key in `_dbc` and the ids of its rx, tx and gdb
EEPROMs. -/
structure DboardSlot (DboardId : Type) where
  db : String
  rxId : DboardId
  txId : DboardId
  gdbId : DboardId

section OneSpec

variable {DboardId : Type}

/-- `if (id != none or spec.empty()) spec = subdev_spec_t(db + ":" + names[0]);`.
Indexing an empty name list is undefined, modelled as `none`. -/
def pickSubdev (hasBoard : Bool) (db : String) (names : List String) (spec : SubdevSpec) :
    Option SubdevSpec :=
  if hasBoard || spec.isEmpty then names.head?.map (fun name => [(db, name)]) else some spec

variable (hasBoard : DboardSlot DboardId → Bool) (names : DboardSlot DboardId → List String)

/-- One of the two `if`s of the loop on its own, over every slot. -/
def pickSubdevs : List (DboardSlot DboardId) → SubdevSpec → Option SubdevSpec
  | [], spec => some spec
  | slot :: rest, spec =>
      (pickSubdev (hasBoard slot) slot.db (names slot) spec).bind (pickSubdevs rest)

/-- The specification naming a slot's first subdevice. -/
def slotSpec (slot : DboardSlot DboardId) : SubdevSpec :=
  [(slot.db, (names slot).headD "")]

/-- Where the loop settles: on the last slot with a board, or, when no slot has one and
the specification started empty, on the first slot. -/
def settledSpec (slots : List (DboardSlot DboardId)) (spec : SubdevSpec) : SubdevSpec :=
  match (slots.filter hasBoard).getLast? with
  | some slot => slotSpec names slot
  | none => if spec.isEmpty then (slots.head?.map (slotSpec names)).getD spec else spec

theorem pickSubdev_of_ne_nil {hasBoard : Bool} {db : String} {names : List String}
    (spec : SubdevSpec) (h : names ≠ []) :
    pickSubdev hasBoard db names spec =
      some (if hasBoard || spec.isEmpty then [(db, names.headD "")] else spec) := by
  cases names with
  | nil => exact absurd rfl h
  | cons name rest => by_cases hb : (hasBoard || spec.isEmpty) = true <;> simp [pickSubdev, hb]

theorem pickSubdevs_eq (slots : List (DboardSlot DboardId)) (spec : SubdevSpec)
    (hnames : ∀ slot ∈ slots, names slot ≠ []) :
    pickSubdevs hasBoard names slots spec = some (settledSpec hasBoard names slots spec) := by
  induction slots generalizing spec with
  | nil => by_cases he : spec.isEmpty = true <;> simp [pickSubdevs, settledSpec, he]
  | cons slot rest ih =>
      rw [pickSubdevs, pickSubdev_of_ne_nil spec (hnames slot (List.mem_cons_self slot rest)),
        Option.some_bind, ih _ (fun s hs => hnames s (List.mem_cons_of_mem slot hs))]
      congr 1
      unfold settledSpec
      cases hb : hasBoard slot <;> cases hl : (rest.filter hasBoard).getLast? <;>
        by_cases he : spec.isEmpty = true <;>
        simp [hb, hl, he, List.filter_cons, List.getLast?_cons, slotSpec]

theorem settledSpec_ne_nil {slots : List (DboardSlot DboardId)} (h : slots ≠ []) :
    settledSpec hasBoard names slots [] ≠ [] := by
  unfold settledSpec
  cases slots with
  | nil => exact absurd rfl h
  | cons slot rest => split <;> simp [slotSpec]

theorem mem_settledSpec {slots : List (DboardSlot DboardId)} {pair : String × String}
    (hp : pair ∈ settledSpec hasBoard names slots []) :
    ∃ slot ∈ slots, pair = (slot.db, (names slot).headD "") := by
  unfold settledSpec at hp
  split at hp
  · rename_i slot hl
    exact ⟨slot, (List.mem_filter.mp (List.mem_of_getLast?_eq_some hl)).1,
      List.mem_singleton.mp hp⟩
  · cases slots with
    | nil => simp at hp
    | cons slot rest => exact ⟨slot, List.mem_cons_self _ _, by simpa [slotSpec] using hp⟩

/-- Once a specification is set, the loop indexes an empty name list only at a slot with a
board. -/
theorem pickSubdevs_eq_none_iff (slots : List (DboardSlot DboardId)) {spec : SubdevSpec}
    (hspec : spec ≠ []) :
    pickSubdevs hasBoard names slots spec = none ↔
      ∃ slot ∈ slots, hasBoard slot = true ∧ names slot = [] := by
  induction slots generalizing spec with
  | nil => simp [pickSubdevs]
  | cons slot rest ih =>
      cases hb : hasBoard slot
      · simp [pickSubdevs, pickSubdev, hb, hspec, ih hspec]
      · cases hn : names slot with
        | nil => simp [pickSubdevs, pickSubdev, hb, hn]
        | cons name _ => simp [pickSubdevs, pickSubdev, hb, hn, ih (List.cons_ne_nil _ _)]

/-- From an empty specification the loop indexes the first slot's names whatever the slot
holds, and a later slot's only when it has a board. -/
theorem pickSubdevs_cons_nil_eq_none_iff (slot : DboardSlot DboardId)
    (rest : List (DboardSlot DboardId)) :
    pickSubdevs hasBoard names (slot :: rest) [] = none ↔
      names slot = [] ∨ ∃ s ∈ rest, hasBoard s = true ∧ names s = [] := by
  cases hn : names slot with
  | nil => simp [pickSubdevs, pickSubdev, hn]
  | cons name _ =>
      simp [pickSubdevs, pickSubdev, hn, pickSubdevs_eq_none_iff _ _ rest (List.cons_ne_nil _ _)]

end OneSpec

section BothSpecs

variable {DboardId : Type} [DecidableEq DboardId]

/-- The tx id given to `dboard_manager::make`: the gdb EEPROM's unless it is blank. -/
def managerTxId (noneId : DboardId) (slot : DboardSlot DboardId) : DboardId :=
  if slot.gdbId = noneId then slot.txId else slot.gdbId

/-- The two `if`s at the end of each pass of the loop, over the slots in key order;
`rxNames` and `txNames` are what the slot's manager reports. -/
def initSubdevSpecs (noneId : DboardId) (rxNames txNames : DboardId → DboardId → List String) :
    List (DboardSlot DboardId) → SubdevSpec → SubdevSpec → Option (SubdevSpec × SubdevSpec)
  | [], rxSpec, txSpec => some (rxSpec, txSpec)
  | slot :: rest, rxSpec, txSpec => do
      let rxSpec ← pickSubdev (slot.rxId != noneId) slot.db
        (rxNames slot.rxId (managerTxId noneId slot)) rxSpec
      let txSpec ← pickSubdev (slot.txId != noneId) slot.db
        (txNames slot.rxId (managerTxId noneId slot)) txSpec
      initSubdevSpecs noneId rxNames txNames rest rxSpec txSpec

theorem initSubdevSpecs_eq_pickSubdevs (noneId : DboardId)
    (rxNames txNames : DboardId → DboardId → List String) (slots : List (DboardSlot DboardId))
    (rxSpec txSpec : SubdevSpec) :
    initSubdevSpecs noneId rxNames txNames slots rxSpec txSpec =
      (pickSubdevs (·.rxId != noneId) (fun s => rxNames s.rxId (managerTxId noneId s))
          slots rxSpec).bind fun rx =>
        (pickSubdevs (·.txId != noneId) (fun s => txNames s.rxId (managerTxId noneId s))
          slots txSpec).map fun tx => (rx, tx) := by
  induction slots generalizing rxSpec txSpec with
  | nil => rfl
  | cons slot rest ih =>
      simp only [initSubdevSpecs, pickSubdevs]
      cases pickSubdev (slot.rxId != noneId) slot.db (rxNames slot.rxId (managerTxId noneId slot))
          rxSpec with
      | none => rfl
      | some rx =>
          cases pickSubdev (slot.txId != noneId) slot.db
              (txNames slot.rxId (managerTxId noneId slot)) txSpec with
          | none => simp
          | some tx => simpa using ih rx tx

/-- From empty specifications, and with every manager reporting a subdevice, the loop
leaves each specification on the last slot with a board of its kind, or on the first
slot when no slot has one; so neither is left empty when there is a slot. -/
theorem initSubdevSpecs_settles (noneId : DboardId)
    (rxNames txNames : DboardId → DboardId → List String) (slots : List (DboardSlot DboardId))
    (hrx : ∀ s ∈ slots, rxNames s.rxId (managerTxId noneId s) ≠ [])
    (htx : ∀ s ∈ slots, txNames s.rxId (managerTxId noneId s) ≠ []) :
    initSubdevSpecs noneId rxNames txNames slots [] [] =
        some (settledSpec (·.rxId != noneId) (fun s => rxNames s.rxId (managerTxId noneId s)) slots [],
          settledSpec (·.txId != noneId) (fun s => txNames s.rxId (managerTxId noneId s)) slots []) ∧
    (slots ≠ [] →
      settledSpec (·.rxId != noneId) (fun s => rxNames s.rxId (managerTxId noneId s)) slots [] ≠ [] ∧
      settledSpec (·.txId != noneId) (fun s => txNames s.rxId (managerTxId noneId s)) slots [] ≠ []) := by
  refine ⟨?_, fun h => ⟨settledSpec_ne_nil _ _ h, settledSpec_ne_nil _ _ h⟩⟩
  rw [initSubdevSpecs_eq_pickSubdevs, pickSubdevs_eq _ _ _ _ hrx, pickSubdevs_eq _ _ _ _ htx]
  rfl

/-- From empty specifications the two ifs index an empty name list just where one kind's
does: at the first slot, or at a later slot with a board of that kind. -/
theorem initSubdevSpecs_eq_none_iff (noneId : DboardId)
    (rxNames txNames : DboardId → DboardId → List String) (slot : DboardSlot DboardId)
    (rest : List (DboardSlot DboardId)) :
    initSubdevSpecs noneId rxNames txNames (slot :: rest) [] [] = none ↔
      (rxNames slot.rxId (managerTxId noneId slot) = [] ∨
          ∃ s ∈ rest, s.rxId ≠ noneId ∧ rxNames s.rxId (managerTxId noneId s) = []) ∨
        (txNames slot.rxId (managerTxId noneId slot) = [] ∨
          ∃ s ∈ rest, s.txId ≠ noneId ∧ txNames s.rxId (managerTxId noneId s) = []) := by
  have hrx := pickSubdevs_cons_nil_eq_none_iff (·.rxId != noneId)
    (fun s => rxNames s.rxId (managerTxId noneId s)) slot rest
  have htx := pickSubdevs_cons_nil_eq_none_iff (·.txId != noneId)
    (fun s => txNames s.rxId (managerTxId noneId s)) slot rest
  simp only [bne_iff_ne, ne_eq] at hrx htx ⊢
  rw [initSubdevSpecs_eq_pickSubdevs, ← hrx, ← htx]
  cases pickSubdevs (·.rxId != noneId) (fun s => rxNames s.rxId (managerTxId noneId s))
      (slot :: rest) [] <;>
    cases pickSubdevs (·.txId != noneId) (fun s => txNames s.rxId (managerTxId noneId s))
      (slot :: rest) [] <;>
    simp

/-- A board in slot A only: both specifications settle on it, the tx one as the first
slot. -/
theorem initSubdevSpecs_settles_slot_a :
    (∀ s ∈ [(⟨"A", 1, 0xffff, 0xffff⟩ : DboardSlot Nat), ⟨"B", 0xffff, 0xffff, 0xffff⟩],
      (fun _ _ => ["0"] : Nat → Nat → List String) s.rxId (managerTxId 0xffff s) ≠ []) ∧
    initSubdevSpecs 0xffff (fun _ _ => ["0"]) (fun _ _ => ["0"])
      [⟨"A", 1, 0xffff, 0xffff⟩, ⟨"B", 0xffff, 0xffff, 0xffff⟩] [] [] =
      some ([("A", "0")], [("A", "0")]) := by
  have hnames : ∀ s ∈ [(⟨"A", 1, 0xffff, 0xffff⟩ : DboardSlot Nat), ⟨"B", 0xffff, 0xffff, 0xffff⟩],
      (fun _ _ => ["0"] : Nat → Nat → List String) s.rxId (managerTxId 0xffff s) ≠ [] := by
    simp
  refine ⟨hnames, ?_⟩
  rw [(initSubdevSpecs_settles 0xffff _ _ _ hnames hnames).1]
  decide

end BothSpecs

end Uhd.Usrp1
