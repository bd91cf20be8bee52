import LineLog.Proofs.Toml.Reading
import LineLog.Settings.Document

/-!
# What a document says

The document has eight keys in four sections.  It reads exactly if every section that is there can
hold keys and every key that is there has a value that it takes.  Each setting is then what the
document says under its key, or the default of the key.
-/

namespace LineLog

open Toml SettingsDocument

/-- A key of the document: its section, its place and name there, what it takes, and what counts
without it. -/
structure DocumentKey (α : Type) where
  group : String
  place : Nat
  name : String
  read : Reader α
  default : α

namespace DocumentKey

variable {α : Type} {key : DocumentKey α} {entries : Entries}

def listen : DocumentKey String :=
  ⟨"server", 0, "listen", readText "a string", "0.0.0.0:9000"⟩

def backlog : DocumentKey Int :=
  ⟨"server", 1, "backlog", readSigned, 10⟩

def pollIntervalMillis : DocumentKey Nat :=
  ⟨"server", 2, "poll_interval_ms", readUnsigned, 100⟩

def daemon : DocumentKey Bool :=
  ⟨"server", 3, "daemon", readBoolean, false⟩

def dataFile : DocumentKey Path :=
  ⟨"store", 0, "path", readPath, Bytes.ofString "/var/tmp/aesdsocketdata"⟩

def intervalSeconds : DocumentKey Nat :=
  ⟨"ticker", 0, "interval_secs", readUnsigned, 10⟩

def logLevel : DocumentKey String :=
  ⟨"logging", 0, "level", readText "a string", "info"⟩

def logFile : DocumentKey (Option Path) :=
  ⟨"logging", 1, "file", fun value => (readPath value).map some, none⟩

def item? (key : DocumentKey α) (entries : Entries) : Option Value :=
  (Entries.get? key.group entries).bind (·.item? key.place key.name)

def FitsIn (key : DocumentKey α) (group : Value) : Prop :=
  ∀ item, group.item? key.place key.name = some item → ∃ found, key.read item = .ok found

/-- The key is missing or takes what stands under it. -/
def Fits (key : DocumentKey α) (entries : Entries) : Prop :=
  ∀ item, key.item? entries = some item → ∃ found, key.read item = .ok found

theorem fits_iff : key.Fits entries ↔
    ∀ group, Entries.get? key.group entries = some group → key.FitsIn group := by
  simp only [Fits, item?, Option.bind_eq_some_iff]
  exact ⟨fun hfits group hgroup item hitem => hfits item ⟨group, hgroup, hitem⟩,
    fun hfits item ⟨group, hgroup, hitem⟩ => hfits group hgroup item hitem⟩

def value (key : DocumentKey α) (entries : Entries) : α :=
  ((key.item? entries).bind fun item => (key.read item).toOption).getD key.default

theorem value_of_missing_group (hgroup : Entries.get? key.group entries = none) :
    key.value entries = key.default := by
  simp [value, item?, hgroup]

theorem value_of_missing_name {kind : TableKind} {span : Option Span} {inner : Entries}
    (hgroup : Entries.get? key.group entries = some (.table kind span inner))
    (hname : Entries.get? key.name inner = none) : key.value entries = key.default := by
  simp [value, item?, hgroup, Value.item?, hname]

end DocumentKey

/-- Something holds at every place of a list if it does at the first and at every place of the
rest. -/
theorem forall_getElem?_cons {α : Type} {first : α} {rest : List α} {Good : Nat → α → Prop} :
    (∀ (place : Nat) item, (first :: rest)[place]? = some item → Good place item) ↔
      Good 0 first ∧ ∀ (place : Nat) item, rest[place]? = some item → Good (place + 1) item := by
  constructor
  · exact fun hall => ⟨hall 0 first rfl, fun place item hitem => hall (place + 1) item hitem⟩
  · rintro ⟨hfirst, hrest⟩ (_ | place) item hitem
    · obtain rfl := Option.some.inj hitem
      exact hfirst
    · exact hrest place item hitem

namespace SettingsDocument

variable {entries : Entries} {document : SettingsDocument} {value : Value}

/-- Every section of the document can hold keys, and every key takes what stands under it. -/
structure WellTyped (entries : Entries) : Prop where
  groups : ∀ name ∈ ["server", "store", "ticker", "logging"], ∀ value,
    Entries.get? name entries = some value → value.IsGroup
  listen : DocumentKey.listen.Fits entries
  backlog : DocumentKey.backlog.Fits entries
  pollIntervalMillis : DocumentKey.pollIntervalMillis.Fits entries
  daemon : DocumentKey.daemon.Fits entries
  dataFile : DocumentKey.dataFile.Fits entries
  intervalSeconds : DocumentKey.intervalSeconds.Fits entries
  logLevel : DocumentKey.logLevel.Fits entries
  logFile : DocumentKey.logFile.Fits entries

def valuesOf (entries : Entries) : SettingsDocument where
  server :=
    { listen := DocumentKey.listen.value entries
      backlog := DocumentKey.backlog.value entries
      pollIntervalMillis := DocumentKey.pollIntervalMillis.value entries
      daemon := DocumentKey.daemon.value entries }
  store := { path := DocumentKey.dataFile.value entries }
  ticker := { intervalSeconds := DocumentKey.intervalSeconds.value entries }
  logging :=
    { level := DocumentKey.logLevel.value entries
      file := DocumentKey.logFile.value entries }

/-! ## Reading the sections -/

section Fields

variable {α β γ : Type} {key : String} {read : Reader β} {set : β → α → α}

theorem sets_of_map :
    Field.Sets ⟨key, fun value settings => (read value).map fun found => set found settings⟩
      read set :=
  fun _ _ => rfl

@[simp] theorem steady_of_map :
    Field.Steady ⟨key, fun value settings => (read value).map fun found => set found settings⟩ :=
  sets_of_map.steady

theorem accepts_iff_of_map (settings : α) :
    Field.Accepts ⟨key, fun value settings => (read value).map fun found => set found settings⟩
      value ↔ ∃ found, read value = .ok found :=
  sets_of_map.accepts_iff settings

theorem leaves_of_map {view : α → γ}
    (hview : ∀ found settings, view (set found settings) = view settings) :
    Field.Leaves ⟨key, fun value settings => (read value).map fun found => set found settings⟩
      view :=
  sets_of_map.leaves hview

/-- A field that sets what it has read, and nothing else does, makes a column of its group. -/
theorem column_of_map {shape : Shape α} {place : Nat} {get : α → β}
    (hfield : shape.fields[place]? =
      some ⟨key, fun value settings => (read value).map fun found => set found settings⟩)
    (hget : ∀ found settings, get (set found settings) = found)
    (hothers : ∀ field ∈ shape.fields, field.key ≠ key → field.Leaves get) :
    shape.Column place key read get where
  exists_field := ⟨set, hget, _, hfield, rfl, sets_of_map⟩
  others := hothers

end Fields

/-- The entry of the log file is read as a path and kept as one that is there. -/
theorem loggingShape_fields : loggingShape.fields = [
    ⟨"level", fun value settings =>
      (readText "a string" value).map fun level => { settings with level }⟩,
    ⟨"file", fun value settings =>
      (DocumentKey.logFile.read value).map fun file => { settings with file }⟩] := by
  have htake (value : Value) (settings : LoggingSection) :
      ((readPath value).map fun file => { settings with file := some file }) =
        ((readPath value).map some).map fun file => { settings with file } := by
    cases readPath value <;> rfl
  simp only [loggingShape, DocumentKey.logFile, htake]

theorem distinct_serverShape : serverShape.Distinct := by
  simp [Shape.Distinct, serverShape]

theorem distinct_storeShape : storeShape.Distinct := by
  simp [Shape.Distinct, storeShape]

theorem distinct_tickerShape : tickerShape.Distinct := by
  simp [Shape.Distinct, tickerShape]

theorem distinct_loggingShape : loggingShape.Distinct := by
  simp [Shape.Distinct, loggingShape]

theorem distinct_documentShape : documentShape.Distinct := by
  simp [Shape.Distinct, documentShape]

theorem exists_serverShape_read_iff (hvalue : value.Distinct) :
    (∃ server, serverShape.read defaultServer value = .ok server) ↔ value.IsGroup ∧
      DocumentKey.listen.FitsIn value ∧ DocumentKey.backlog.FitsIn value ∧
      DocumentKey.pollIntervalMillis.FitsIn value ∧ DocumentKey.daemon.FitsIn value := by
  rw [Shape.exists_read_iff distinct_serverShape hvalue (by simp [serverShape])]
  simp [serverShape, forall_getElem?_cons, accepts_iff_of_map defaultServer,
    DocumentKey.FitsIn, DocumentKey.listen, DocumentKey.backlog,
    DocumentKey.pollIntervalMillis, DocumentKey.daemon]

theorem exists_storeShape_read_iff (hvalue : value.Distinct) :
    (∃ store, storeShape.read defaultStore value = .ok store) ↔ value.IsGroup ∧
      DocumentKey.dataFile.FitsIn value := by
  rw [Shape.exists_read_iff distinct_storeShape hvalue (by simp [storeShape])]
  simp [storeShape, forall_getElem?_cons, accepts_iff_of_map defaultStore,
    DocumentKey.FitsIn, DocumentKey.dataFile]

theorem exists_tickerShape_read_iff (hvalue : value.Distinct) :
    (∃ ticker, tickerShape.read defaultTicker value = .ok ticker) ↔ value.IsGroup ∧
      DocumentKey.intervalSeconds.FitsIn value := by
  rw [Shape.exists_read_iff distinct_tickerShape hvalue (by simp [tickerShape])]
  simp [tickerShape, forall_getElem?_cons, accepts_iff_of_map defaultTicker,
    DocumentKey.FitsIn, DocumentKey.intervalSeconds]

theorem exists_loggingShape_read_iff (hvalue : value.Distinct) :
    (∃ logging, loggingShape.read defaultLogging value = .ok logging) ↔ value.IsGroup ∧
      DocumentKey.logLevel.FitsIn value ∧ DocumentKey.logFile.FitsIn value := by
  rw [Shape.exists_read_iff distinct_loggingShape hvalue (by simp [loggingShape_fields])]
  simp [loggingShape_fields, forall_getElem?_cons, accepts_iff_of_map defaultLogging,
    DocumentKey.FitsIn, DocumentKey.logLevel, DocumentKey.logFile]

theorem ofEntries_eq_read (entries : Entries) :
    ofEntries entries = documentShape.read default (.table .headed none entries) := rfl

/-- The entries can be read as settings exactly if they are well typed. -/
theorem exists_ofEntries_iff (hentries : Entries.Distinct entries) :
    (∃ document, ofEntries entries = .ok document) ↔ WellTyped entries := by
  have hserver : (∀ group, Entries.get? "server" entries = some group →
      ∃ server, serverShape.read defaultServer group = .ok server) ↔ _ :=
    forall₂_congr fun group hgroup => exists_serverShape_read_iff (hentries.get hgroup)
  have hstore : (∀ group, Entries.get? "store" entries = some group →
      ∃ store, storeShape.read defaultStore group = .ok store) ↔ _ :=
    forall₂_congr fun group hgroup => exists_storeShape_read_iff (hentries.get hgroup)
  have hticker : (∀ group, Entries.get? "ticker" entries = some group →
      ∃ ticker, tickerShape.read defaultTicker group = .ok ticker) ↔ _ :=
    forall₂_congr fun group hgroup => exists_tickerShape_read_iff (hentries.get hgroup)
  have hlogging : (∀ group, Entries.get? "logging" entries = some group →
      ∃ logging, loggingShape.read defaultLogging group = .ok logging) ↔ _ :=
    forall₂_congr fun group hgroup => exists_loggingShape_read_iff (hentries.get hgroup)
  simp only [forall_and] at hserver hstore hticker hlogging
  simp only [ofEntries_eq_read]
  rw [Shape.exists_read_iff distinct_documentShape (hentries.table .headed none)
    (by simp [documentShape])]
  simp only [documentShape, forall_getElem?_cons, accepts_iff_of_map default, Value.item?,
    hserver, hstore, hticker, hlogging]
  constructor
  · rintro ⟨-, ⟨hserver, hlisten, hbacklog, hpoll, hdaemon⟩, ⟨hstore, hfile⟩,
      ⟨hticker, hseconds⟩, ⟨hlogging, hlevel, hlog⟩, -⟩
    exact
      { groups := by simpa using ⟨hserver, hstore, hticker, hlogging⟩
        listen := DocumentKey.fits_iff.mpr hlisten
        backlog := DocumentKey.fits_iff.mpr hbacklog
        pollIntervalMillis := DocumentKey.fits_iff.mpr hpoll
        daemon := DocumentKey.fits_iff.mpr hdaemon
        dataFile := DocumentKey.fits_iff.mpr hfile
        intervalSeconds := DocumentKey.fits_iff.mpr hseconds
        logLevel := DocumentKey.fits_iff.mpr hlevel
        logFile := DocumentKey.fits_iff.mpr hlog }
  · intro hwell
    have hgroups := hwell.groups
    simp only [List.forall_mem_cons] at hgroups
    obtain ⟨hserver, hstore, hticker, hlogging, -⟩ := hgroups
    exact ⟨trivial,
      ⟨hserver, DocumentKey.fits_iff.mp hwell.listen, DocumentKey.fits_iff.mp hwell.backlog,
        DocumentKey.fits_iff.mp hwell.pollIntervalMillis, DocumentKey.fits_iff.mp hwell.daemon⟩,
      ⟨hstore, DocumentKey.fits_iff.mp hwell.dataFile⟩,
      ⟨hticker, DocumentKey.fits_iff.mp hwell.intervalSeconds⟩,
      ⟨hlogging, DocumentKey.fits_iff.mp hwell.logLevel, DocumentKey.fits_iff.mp hwell.logFile⟩,
      by simp⟩

/-- A setting of a section is what the document says under its key. -/
theorem eq_value_of_columns {α σ : Type} {shape : Shape σ} {place : Nat} {key : DocumentKey α}
    {get : σ → α} {part : SettingsDocument → σ} (hshape : shape.Distinct)
    (hgroup : documentShape.Column place key.group (shape.read (part default)) part)
    (hkey : shape.Column key.place key.name key.read get)
    (hdefault : get (part default) = key.default) (hentries : Entries.Distinct entries)
    (hread : ofEntries entries = .ok document) : get (part document) = key.value entries := by
  have hroot := hentries.table .headed none
  unfold DocumentKey.value DocumentKey.item?
  cases hget : Entries.get? key.group entries with
  | some group =>
      have hsection := hgroup.read_eq distinct_documentShape hroot hread hget
      rw [← hdefault]
      exact hkey.get_eq hshape (hentries.get hget) hsection
  | none =>
      rw [hgroup.get_eq_initial distinct_documentShape hroot hread hget]
      exact hdefault

theorem server_eq (hentries : Entries.Distinct entries) (hread : ofEntries entries = .ok document) :
    document.server = (valuesOf entries).server := by
  have hgroup : documentShape.Column 0 "server" (serverShape.read defaultServer) (·.server) :=
    column_of_map rfl (fun _ _ => rfl) (by simp [documentShape, leaves_of_map])
  have hlisten : document.server.listen = DocumentKey.listen.value entries :=
    eq_value_of_columns distinct_serverShape hgroup (column_of_map rfl (fun _ _ => rfl)
      (by simp [serverShape, leaves_of_map, DocumentKey.listen])) rfl hentries hread
  have hbacklog : document.server.backlog = DocumentKey.backlog.value entries :=
    eq_value_of_columns distinct_serverShape hgroup (column_of_map rfl (fun _ _ => rfl)
      (by simp [serverShape, leaves_of_map, DocumentKey.backlog])) rfl hentries hread
  have hpoll : document.server.pollIntervalMillis = DocumentKey.pollIntervalMillis.value entries :=
    eq_value_of_columns distinct_serverShape hgroup (column_of_map rfl (fun _ _ => rfl)
      (by simp [serverShape, leaves_of_map, DocumentKey.pollIntervalMillis])) rfl hentries hread
  have hdaemon : document.server.daemon = DocumentKey.daemon.value entries :=
    eq_value_of_columns distinct_serverShape hgroup (column_of_map rfl (fun _ _ => rfl)
      (by simp [serverShape, leaves_of_map, DocumentKey.daemon])) rfl hentries hread
  rw [valuesOf, ← hlisten, ← hbacklog, ← hpoll, ← hdaemon]

theorem store_eq (hentries : Entries.Distinct entries) (hread : ofEntries entries = .ok document) :
    document.store = (valuesOf entries).store := by
  have hgroup : documentShape.Column 1 "store" (storeShape.read defaultStore) (·.store) :=
    column_of_map rfl (fun _ _ => rfl) (by simp [documentShape, leaves_of_map])
  have hpath : document.store.path = DocumentKey.dataFile.value entries :=
    eq_value_of_columns distinct_storeShape hgroup (column_of_map rfl (fun _ _ => rfl)
      (by simp [storeShape, DocumentKey.dataFile])) rfl hentries hread
  rw [valuesOf, ← hpath]

theorem ticker_eq (hentries : Entries.Distinct entries) (hread : ofEntries entries = .ok document) :
    document.ticker = (valuesOf entries).ticker := by
  have hgroup : documentShape.Column 2 "ticker" (tickerShape.read defaultTicker) (·.ticker) :=
    column_of_map rfl (fun _ _ => rfl) (by simp [documentShape, leaves_of_map])
  have hseconds : document.ticker.intervalSeconds = DocumentKey.intervalSeconds.value entries :=
    eq_value_of_columns distinct_tickerShape hgroup (column_of_map rfl (fun _ _ => rfl)
      (by simp [tickerShape, DocumentKey.intervalSeconds])) rfl hentries hread
  rw [valuesOf, ← hseconds]

theorem logging_eq (hentries : Entries.Distinct entries)
    (hread : ofEntries entries = .ok document) :
    document.logging = (valuesOf entries).logging := by
  have hgroup : documentShape.Column 3 "logging" (loggingShape.read defaultLogging) (·.logging) :=
    column_of_map rfl (fun _ _ => rfl) (by simp [documentShape, leaves_of_map])
  have hlevel : document.logging.level = DocumentKey.logLevel.value entries :=
    eq_value_of_columns distinct_loggingShape hgroup
      (column_of_map (by rw [loggingShape_fields]; rfl) (fun _ _ => rfl)
        (by simp [loggingShape_fields, leaves_of_map, DocumentKey.logLevel])) rfl hentries hread
  have hfile : document.logging.file = DocumentKey.logFile.value entries :=
    eq_value_of_columns distinct_loggingShape hgroup
      (column_of_map (by rw [loggingShape_fields]; rfl) (fun _ _ => rfl)
        (by simp [loggingShape_fields, leaves_of_map, DocumentKey.logFile])) rfl hentries hread
  rw [valuesOf, ← hlevel, ← hfile]

/-- What is read from a document is what counts for its keys. -/
theorem eq_valuesOf (hentries : Entries.Distinct entries)
    (hread : ofEntries entries = .ok document) :
    document = valuesOf entries :=
  calc document
    _ = ⟨document.server, document.store, document.ticker, document.logging⟩ := rfl
    _ = valuesOf entries := by
        rw [server_eq hentries hread, store_eq hentries hread, ticker_eq hentries hread,
          logging_eq hentries hread]

/-- Reading the entries of a document gives what counts for every key, or fails. -/
theorem ofEntries_eq_ok_iff (hentries : Entries.Distinct entries) :
    ofEntries entries = .ok document ↔ WellTyped entries ∧ document = valuesOf entries := by
  constructor
  · exact fun hread => ⟨(exists_ofEntries_iff hentries).mp ⟨document, hread⟩,
      eq_valuesOf hentries hread⟩
  · rintro ⟨hwell, rfl⟩
    obtain ⟨document, hread⟩ := (exists_ofEntries_iff hentries).mpr hwell
    rw [hread, eq_valuesOf hentries hread]

end SettingsDocument

end LineLog
