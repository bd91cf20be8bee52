import LineLog.Proofs.Run
import LineLog.Proofs.Toml.Keys
import LineLog.Toml.Reading

/-!
# Groups of settings

A group of settings reads exactly if the value can hold a group and every item for one of its keys
reads, whatever was read before it.  Each setting is then what its item reads as, or keeps its
initial value if there is none; what stands under other keys has no part in it.
-/

namespace LineLog.Toml

variable {α β : Type} {field : Field α} {shape : Shape α} {read : Reader β} {get : α → β}
  {initial start after : α} {value item : Value} {entries : Entries}
  {steps : List (Field α × Value)}
  {place : Nat} {name : String}

/-- What a value holds for a key of a group: a table under the name of the key, and an array at
its place among the keys. -/
def Value.item? (place : Nat) (name : String) : Value → Option Value
  | .table _ _ entries => Entries.get? name entries
  | .array _ items | .tables items => items[place]?
  | _ => none

/-- The values that a group of settings can be read from.  A date or a time says nothing. -/
def Value.IsGroup : Value → Prop
  | .table _ _ _ | .array _ _ | .tables _ | .dateTime _ _ => True
  | _ => False

/-! ## Fields -/

def Field.Sets (field : Field α) (read : Reader β) (set : β → α → α) : Prop :=
  ∀ value settings, field.take value settings = (read value).map fun found => set found settings

def Field.Accepts (field : Field α) (value : Value) : Prop :=
  ∃ settings after, field.take value settings = .ok after

/-- Whether the field takes a value over does not depend on the settings so far. -/
def Field.Steady (field : Field α) : Prop :=
  ∀ value, field.Accepts value → ∀ settings, ∃ after, field.take value settings = .ok after

/-- The view shows nothing of what the field takes over. -/
def Field.Leaves (field : Field α) (get : α → β) : Prop :=
  ∀ value settings after, field.take value settings = .ok after → get after = get settings

namespace Field.Sets

variable {set : β → α → α}

theorem exists_take_iff (hsets : field.Sets read set) (settings : α) :
    (∃ after, field.take value settings = .ok after) ↔ ∃ found, read value = .ok found := by
  rw [hsets]
  cases read value with
  | error mismatch => simp [Except.map]
  | ok found => simp [Except.map]

theorem accepts_iff (hsets : field.Sets read set) (settings : α) :
    field.Accepts value ↔ ∃ found, read value = .ok found :=
  ⟨fun ⟨other, haccepts⟩ => (hsets.exists_take_iff other).mp haccepts,
    fun hread => ⟨settings, (hsets.exists_take_iff settings).mpr hread⟩⟩

theorem steady (hsets : field.Sets read set) : field.Steady :=
  fun _ haccepts settings => (hsets.exists_take_iff settings).mpr
    ((hsets.accepts_iff settings).mp haccepts)

theorem exists_read (hsets : field.Sets read set)
    (htake : field.take value start = .ok after) :
    ∃ found, read value = .ok found ∧ after = set found start := by
  rw [hsets] at htake
  cases hread : read value with
  | error mismatch =>
      rw [hread] at htake
      cases htake
  | ok found =>
      rw [hread] at htake
      exact ⟨found, rfl, (Except.ok.inj htake).symm⟩

theorem leaves {γ : Type} {view : α → γ} (hsets : field.Sets read set)
    (hview : ∀ found settings, view (set found settings) = view settings) :
    field.Leaves view := by
  intro value settings after htake
  obtain ⟨found, -, rfl⟩ := hsets.exists_read htake
  exact hview found settings

end Field.Sets

/-! ## Taking values over -/

/-- Values are taken over one after the other. -/
inductive Takes : α → List (Field α × Value) → α → Prop where
  | nil (settings : α) : Takes settings [] settings
  | cons {field : Field α} {value : Value} {settings next after : α}
      {rest : List (Field α × Value)} (htake : field.take value settings = .ok next)
      (hrest : Takes next rest after) : Takes settings ((field, value) :: rest) after

theorem exists_takes_iff (hsteady : ∀ step ∈ steps, step.1.Steady) :
    (∃ after, Takes start steps after) ↔ ∀ step ∈ steps, step.1.Accepts step.2 := by
  induction steps generalizing start with
  | nil => simpa using ⟨start, .nil start⟩
  | cons step rest ih =>
      obtain ⟨field, value⟩ := step
      obtain ⟨hfirst, hrest⟩ := List.forall_mem_cons.mp hsteady
      constructor
      · rintro ⟨after, htakes⟩
        cases htakes with
        | cons htake htakes =>
            exact List.forall_mem_cons.mpr ⟨⟨_, _, htake⟩, (ih hrest).mp ⟨after, htakes⟩⟩
      · intro haccepts
        obtain ⟨hvalue, haccepts⟩ := List.forall_mem_cons.mp haccepts
        obtain ⟨next, htake⟩ := hfirst value hvalue start
        have ⟨after, htakes⟩ : ∃ after, Takes next rest after := (ih hrest).mpr haccepts
        exact ⟨after, .cons htake htakes⟩

/-- Values for other fields leave the view as it is. -/
theorem Takes.get_eq (htakes : Takes start steps after)
    (hleaves : ∀ step ∈ steps, step.1.Leaves get) : get after = get start := by
  induction htakes with
  | nil settings => rfl
  | cons htake _ ih =>
      obtain ⟨hfirst, hrest⟩ := List.forall_mem_cons.mp hleaves
      exact (ih hrest).trans (hfirst _ _ _ htake)

/-- A value that is taken over is shown at the end if no other value for its field is. -/
theorem Takes.read_eq {set : β → α → α} (htakes : Takes start steps after)
    (hsets : field.Sets read set) (hget : ∀ found settings, get (set found settings) = found)
    (hmem : (field, item) ∈ steps) (hnodup : (steps.map (·.1.key)).Nodup)
    (hothers : ∀ step ∈ steps, step.1.key ≠ field.key → step.1.Leaves get) :
    read item = .ok (get after) := by
  induction htakes with
  | nil settings => cases hmem
  | @cons first value settings next after rest htake hrest ih =>
      obtain ⟨hnew, hnodup⟩ := List.nodup_cons.mp hnodup
      have hleaves := (List.forall_mem_cons.mp hothers).2
      rcases List.mem_cons.mp hmem with hhead | hmem
      · obtain ⟨rfl, rfl⟩ := Prod.mk.inj hhead
        obtain ⟨found, hread, rfl⟩ := hsets.exists_read htake
        -- what follows is for other keys, so the view stays
        have hkept : get after = get (set found settings) := by
          refine hrest.get_eq fun step hstep => hleaves step hstep fun hsame => hnew ?_
          exact List.mem_map.mpr ⟨step, hstep, hsame⟩
        rw [hread, hkept, hget]
      · exact ih hmem hnodup hleaves

/-! ## What is taken over from a value -/

def Shape.pairs (shape : Shape α) : Value → List (Field α × Value)
  | .table _ _ entries => entries.filterMap fun entry =>
      (shape.fields.find? (·.key = entry.1.name)).map fun field => (field, entry.2)
  | .array _ items | .tables items => shape.fields.zip items
  | _ => []

theorem foldlM_take_eq_ok_iff :
    steps.foldlM (fun settings (field, item) => field.take item settings) start = .ok after ↔
      Takes start steps after := by
  induction steps generalizing start with
  | nil =>
      constructor
      · rintro ⟨⟩
        exact .nil _
      · rintro ⟨⟩
        rfl
  | cons step rest ih =>
      obtain ⟨field, value⟩ := step
      rw [List.foldlM_cons]
      constructor
      · intro hfold
        obtain ⟨next, htake, hrest⟩ := exists_of_bind_eq_ok hfold
        exact .cons htake (ih.mp hrest)
      · rintro (_ | ⟨htake, hrest⟩)
        dsimp only
        rw [htake]
        exact ih.mpr hrest

theorem atKey_eq_ok_iff {key : Key} {result : Except Mismatch α} :
    atKey key result = .ok after ↔ result = .ok after := by
  cases result <;> simp [atKey, Except.mapError]

theorem Shape.takeEntries_eq_ok_iff :
    shape.takeEntries start entries = .ok after ↔
      Takes start (shape.pairs (.table .headed none entries)) after := by
  induction entries generalizing start with
  | nil => exact @foldlM_take_eq_ok_iff α start after []
  | cons entry rest ih =>
      rw [Shape.takeEntries, List.foldlM_cons, Shape.takeEntry, Shape.pairs, List.filterMap_cons]
      cases hfind : shape.fields.find? (·.key = entry.1.name) with
      | none => exact ih
      | some field =>
          constructor
          · intro hfold
            obtain ⟨next, htake, hrest⟩ := exists_of_bind_eq_ok hfold
            exact .cons (atKey_eq_ok_iff.mp htake) (ih.mp hrest)
          · rintro (_ | ⟨htake, hrest⟩)
            dsimp only
            rw [htake]
            exact ih.mpr hrest

theorem Shape.read_eq_ok_iff :
    shape.read initial value = .ok after ↔
      value.IsGroup ∧ Takes initial (shape.pairs value) after := by
  cases value with
  | table kind span entries => exact Shape.takeEntries_eq_ok_iff.trans (true_and _).to_iff.symm
  | array span items => exact foldlM_take_eq_ok_iff.trans (true_and _).to_iff.symm
  | tables items => exact foldlM_take_eq_ok_iff.trans (true_and _).to_iff.symm
  | dateTime span moment =>
      exact (@foldlM_take_eq_ok_iff α initial after []).trans (true_and _).to_iff.symm
  | string | integer | float | boolean => exact ⟨nofun, nofun⟩

def Shape.Distinct (shape : Shape α) : Prop :=
  (shape.fields.map (·.key)).Nodup

theorem Shape.mem_pairs_iff (hshape : shape.Distinct) (hvalue : value.Distinct) :
    (field, item) ∈ shape.pairs value ↔
      ∃ place : Nat, shape.fields[place]? = some field ∧
        value.item? place field.key = some item := by
  have hplaces (items : List Value) : (field, item) ∈ shape.fields.zip items ↔
      ∃ place : Nat, shape.fields[place]? = some field ∧ items[place]? = some item := by
    simp only [List.mem_iff_getElem?, List.getElem?_zip_eq_some]
  cases hvalue with
  | table kind span entries hnames hvalues =>
      simp only [Shape.pairs, List.mem_filterMap, Option.map_eq_some_iff, Value.item?,
        exists_and_right, ← List.mem_iff_getElem?, Entries.get?_eq_some_iff hnames]
      constructor
      · rintro ⟨⟨key, item⟩, hmem, field, hfind, ⟨⟩⟩
        obtain ⟨hkey, hfield⟩ := (find?_eq_some_iff_of_nodup hshape).mp hfind
        exact ⟨hfield, key, hkey.symm, hmem⟩
      · rintro ⟨hfield, key, hkey, hmem⟩
        exact ⟨(key, item), hmem, field,
          (find?_eq_some_iff_of_nodup hshape).mpr ⟨hkey.symm, hfield⟩, rfl⟩
  | array | tables => exact hplaces _
  | _ => simp [Shape.pairs, Value.item?]

theorem Shape.sublist_pairs (shape : Shape α) (entries : Entries) :
    ((shape.pairs (.table .headed none entries)).map (·.1.key)).Sublist
      (Entries.names entries) := by
  induction entries with
  | nil => exact .refl _
  | cons entry rest ih =>
      rw [Shape.pairs, List.filterMap_cons]
      cases hfind : shape.fields.find? (·.key = entry.1.name) with
      | none => exact ih.cons _
      | some field =>
          have hkey : field.key = entry.1.name := by simpa using List.find?_some hfind
          simp only [Option.map_some, List.map_cons, hkey]
          exact ih.cons_cons _

theorem Shape.nodup_pairs (hshape : shape.Distinct) (hvalue : value.Distinct) :
    ((shape.pairs value).map (·.1.key)).Nodup := by
  have hplaces (items : List Value) : ((shape.fields.zip items).map (·.1.key)).Nodup := by
    have hkeys : (shape.fields.zip items).map (·.1.key) =
        ((shape.fields.zip items).map Prod.fst).map (·.key) := (List.map_map ..).symm
    rw [hkeys, List.zip_eq_zip_take_min, List.map_fst_zip (by simp)]
    exact hshape.sublist ((List.take_sublist _ _).map _)
  cases hvalue with
  | table kind span entries hnames hvalues => exact hnames.sublist (shape.sublist_pairs entries)
  | array | tables => exact hplaces _
  | _ => exact List.nodup_nil

/-- A setting of a group: where its field stands, how it is read and how it is seen. -/
structure Shape.Column (shape : Shape α) (place : Nat) (name : String) (read : Reader β)
    (get : α → β) : Prop where
  exists_field : ∃ set : β → α → α, (∀ found settings, get (set found settings) = found) ∧
    ∃ field, shape.fields[place]? = some field ∧ field.key = name ∧ field.Sets read set
  others : ∀ field ∈ shape.fields, field.key ≠ name → field.Leaves get

theorem Shape.exists_read_iff (hshape : shape.Distinct) (hvalue : value.Distinct)
    (hsteady : ∀ field ∈ shape.fields, field.Steady) :
    (∃ after, shape.read initial value = .ok after) ↔ value.IsGroup ∧
      ∀ (place : Nat) field, shape.fields[place]? = some field →
        ∀ item, value.item? place field.key = some item → field.Accepts item := by
  have hpairs : ∀ pair ∈ shape.pairs value, pair.1.Steady := fun pair hmem =>
    have ⟨place, hfield, _⟩ := (shape.mem_pairs_iff hshape hvalue).mp hmem
    hsteady pair.1 (List.mem_of_getElem? hfield)
  simp only [Shape.read_eq_ok_iff, exists_and_left, exists_takes_iff hpairs]
  refine and_congr_right fun _ => ⟨fun haccepts place field hfield item hitem => ?_,
    fun haccepts pair hmem => ?_⟩
  · exact haccepts (field, item) ((shape.mem_pairs_iff hshape hvalue).mpr ⟨place, hfield, hitem⟩)
  · obtain ⟨place, hfield, hitem⟩ := (shape.mem_pairs_iff hshape hvalue).mp hmem
    exact haccepts place pair.1 hfield pair.2 hitem

namespace Shape.Column

theorem leaves (hcolumn : shape.Column place name read get) (hshape : shape.Distinct)
    (hvalue : value.Distinct) {pair : Field α × Value} (hmem : pair ∈ shape.pairs value)
    (hother : pair.1.key ≠ name) : pair.1.Leaves get :=
  have ⟨_, hfield, _⟩ := (shape.mem_pairs_iff hshape hvalue).mp hmem
  hcolumn.others pair.1 (List.mem_of_getElem? hfield) hother

/-- The setting of a key that is there. -/
theorem read_eq (hcolumn : shape.Column place name read get) (hshape : shape.Distinct)
    (hvalue : value.Distinct) (hread : shape.read initial value = .ok after)
    (hitem : value.item? place name = some item) : read item = .ok (get after) := by
  obtain ⟨set, hget, field, hfield, rfl, hsets⟩ := hcolumn.exists_field
  have hmem := (shape.mem_pairs_iff hshape hvalue).mpr ⟨place, hfield, hitem⟩
  exact (Shape.read_eq_ok_iff.mp hread).2.read_eq hsets hget hmem (shape.nodup_pairs hshape hvalue)
    fun pair hmem => hcolumn.leaves hshape hvalue hmem

/-- The setting of a key that is not there. -/
theorem get_eq_initial (hcolumn : shape.Column place name read get) (hshape : shape.Distinct)
    (hvalue : value.Distinct) (hread : shape.read initial value = .ok after)
    (hitem : value.item? place name = none) : get after = get initial := by
  refine (Shape.read_eq_ok_iff.mp hread).2.get_eq fun pair hmem =>
    hcolumn.leaves hshape hvalue hmem fun hsame => ?_
  obtain ⟨set, hget, field, hfield, rfl, hsets⟩ := hcolumn.exists_field
  obtain ⟨other, hother, hvalue⟩ := (shape.mem_pairs_iff hshape hvalue).mp hmem
  have hkeys : (shape.fields.map (·.key))[other]? = (shape.fields.map (·.key))[place]? := by
    simp [hother, hfield, hsame]
  have hbound : other < (shape.fields.map (·.key)).length := by
    simpa using (List.getElem?_eq_some_iff.mp hother).1
  rw [(List.getElem?_inj hbound hshape).mp hkeys, hsame, hitem] at hvalue
  cases hvalue

theorem get_eq (hcolumn : shape.Column place name read get) (hshape : shape.Distinct)
    (hvalue : value.Distinct) (hread : shape.read initial value = .ok after) :
    get after = ((value.item? place name).bind fun item => (read item).toOption).getD
      (get initial) := by
  cases hitem : value.item? place name with
  | some item => simp [hcolumn.read_eq hshape hvalue hread hitem, Except.toOption]
  | none => exact hcolumn.get_eq_initial hshape hvalue hread hitem

end Shape.Column

end LineLog.Toml
