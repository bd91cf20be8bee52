import LineLog.Proofs.Settings.Document

/-!
# What does not count in a document

Where things stand in the text, and what stands under keys that are not known, has no part in what
a document says.  Two documents that have the same under the eight keys are both in order or both
not, and they say the same.
-/

namespace LineLog

open Toml SettingsDocument

/-- A value without its place, and without the contents of an array or a table. -/
def Toml.Value.outline : Value → Value
  | .string _ text => .string ⟨0, 0⟩ text
  | .integer _ number => .integer ⟨0, 0⟩ number
  | .float _ number => .float ⟨0, 0⟩ number
  | .boolean _ flag => .boolean ⟨0, 0⟩ flag
  | .dateTime _ moment => .dateTime ⟨0, 0⟩ moment
  | .array _ _ => .array ⟨0, 0⟩ []
  | .tables _ => .tables []
  | .table _ _ _ => .table .headed none []

/-- What the reader gives does not depend on where a value stands, and it takes neither arrays nor
tables. -/
def Toml.Plain {α : Type} (read : Reader α) : Prop :=
  ∀ value, (read value.outline).toOption = (read value).toOption

theorem Toml.Plain.map {α β : Type} {read : Reader α} (hread : Plain read) (change : α → β) :
    Plain fun value => (read value).map change := by
  have hmap (result : Except Mismatch α) :
      (result.map change).toOption = result.toOption.map change := by
    cases result <;> rfl
  intro value
  rw [hmap, hmap, hread value]

theorem Toml.plain_readText (expected : String) : Plain (readText expected) := by
  intro value
  cases value <;> rfl

theorem Toml.plain_readBoolean : Plain readBoolean := by
  intro value
  cases value <;> rfl

theorem Toml.plain_readInteger (expected : String) (low high : Int) :
    Plain (readInteger expected low high) := by
  intro value
  cases value with
  | integer span number =>
      simp only [Value.outline, readInteger]
      split <;> rfl
  | _ => rfl

namespace DocumentKey

variable {α : Type} {key : DocumentKey α} {entries other : Entries}

/-- Two documents have the same under the key, wherever it stands in them. -/
def Same (key : DocumentKey α) (entries other : Entries) : Prop :=
  (key.item? entries).map Value.outline = (key.item? other).map Value.outline

theorem fits_iff_isSome : key.Fits entries ↔
    ∀ found ∈ (key.item? entries).map fun item => (key.read item).toOption, found.isSome := by
  have hread (item : Value) :
      (∃ found, key.read item = .ok found) ↔ (key.read item).toOption.isSome := by
    cases key.read item <;> simp [Except.toOption]
  simp [Fits, hread]

theorem Same.map_read (hsame : key.Same entries other) (hplain : Plain key.read) :
    (key.item? entries).map (fun item => (key.read item).toOption) =
      (key.item? other).map fun item => (key.read item).toOption := by
  have hread : (fun item => (key.read item).toOption) ∘ Value.outline =
      fun item => (key.read item).toOption := funext hplain
  rw [← hread, ← Option.map_map, ← Option.map_map, hsame]

theorem Same.fits_iff (hsame : key.Same entries other) (hplain : Plain key.read) :
    key.Fits entries ↔ key.Fits other := by
  rw [fits_iff_isSome, fits_iff_isSome, hsame.map_read hplain]

/-- The same under a key counts the same. -/
theorem Same.value_eq (hsame : key.Same entries other) (hplain : Plain key.read) :
    key.value entries = key.value other := by
  have hread := congrArg (·.bind id) (hsame.map_read hplain)
  simp only [Option.bind_map, Function.id_comp] at hread
  rw [value, value, hread]

end DocumentKey

namespace SettingsDocument

variable {entries other : Entries}

/-- Two documents differ at most in where things stand and in what is under keys that are not
known. -/
structure SameKnown (entries other : Entries) : Prop where
  groups : ∀ name ∈ ["server", "store", "ticker", "logging"],
    (∀ value, Entries.get? name entries = some value → value.IsGroup) ↔
      ∀ value, Entries.get? name other = some value → value.IsGroup
  listen : DocumentKey.listen.Same entries other
  backlog : DocumentKey.backlog.Same entries other
  pollIntervalMillis : DocumentKey.pollIntervalMillis.Same entries other
  daemon : DocumentKey.daemon.Same entries other
  dataFile : DocumentKey.dataFile.Same entries other
  intervalSeconds : DocumentKey.intervalSeconds.Same entries other
  logLevel : DocumentKey.logLevel.Same entries other
  logFile : DocumentKey.logFile.Same entries other

theorem SameKnown.symm (hsame : SameKnown entries other) : SameKnown other entries where
  groups name hname := (hsame.groups name hname).symm
  listen := Eq.symm hsame.listen
  backlog := Eq.symm hsame.backlog
  pollIntervalMillis := Eq.symm hsame.pollIntervalMillis
  daemon := Eq.symm hsame.daemon
  dataFile := Eq.symm hsame.dataFile
  intervalSeconds := Eq.symm hsame.intervalSeconds
  logLevel := Eq.symm hsame.logLevel
  logFile := Eq.symm hsame.logFile

/-- Being in order depends on the known keys only. -/
theorem SameKnown.wellTyped (hsame : SameKnown entries other) (hwell : WellTyped entries) :
    WellTyped other where
  groups name hname := (hsame.groups name hname).mp (hwell.groups name hname)
  listen := (hsame.listen.fits_iff (plain_readText _)).mp hwell.listen
  backlog := (hsame.backlog.fits_iff (plain_readInteger _ _ _)).mp hwell.backlog
  pollIntervalMillis := (hsame.pollIntervalMillis.fits_iff
    ((plain_readInteger _ _ _).map _)).mp hwell.pollIntervalMillis
  daemon := (hsame.daemon.fits_iff plain_readBoolean).mp hwell.daemon
  dataFile := (hsame.dataFile.fits_iff ((plain_readText _).map _)).mp hwell.dataFile
  intervalSeconds := (hsame.intervalSeconds.fits_iff
    ((plain_readInteger _ _ _).map _)).mp hwell.intervalSeconds
  logLevel := (hsame.logLevel.fits_iff (plain_readText _)).mp hwell.logLevel
  logFile := (hsame.logFile.fits_iff (((plain_readText _).map _).map _)).mp hwell.logFile

/-- What counts depends on the known keys only. -/
theorem SameKnown.valuesOf_eq (hsame : SameKnown entries other) :
    valuesOf entries = valuesOf other := by
  rw [valuesOf, hsame.listen.value_eq (plain_readText _),
    hsame.backlog.value_eq (plain_readInteger _ _ _),
    hsame.pollIntervalMillis.value_eq ((plain_readInteger _ _ _).map _),
    hsame.daemon.value_eq plain_readBoolean,
    hsame.dataFile.value_eq ((plain_readText _).map _),
    hsame.intervalSeconds.value_eq ((plain_readInteger _ _ _).map _),
    hsame.logLevel.value_eq (plain_readText _),
    hsame.logFile.value_eq (((plain_readText _).map _).map _), valuesOf]

end SettingsDocument

end LineLog
