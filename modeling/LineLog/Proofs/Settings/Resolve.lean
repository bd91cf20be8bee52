import LineLog.Proofs.Host
import LineLog.Proofs.Settings.Unknown
import LineLog.Proofs.Toml.Parsed
import LineLog.Settings.Resolve

/-!
# The settings that are in force

The settings are what the command line says, else what the document says, else the defaults.  A
document that cannot be read comes before one that is not in order, that before an address that
does not read, and that before a poll interval of zero; nothing else stands in the way.
-/

namespace LineLog.Settings

open CommandLine SettingsDocument

variable {arguments : Arguments} {host : Host} {document : SettingsDocument} {settings : Settings}
  {path : Path} {text : String} {bytes : Bytes} {entries : Toml.Entries}

/-- The document that the command line names holds these entries; without one there are none. -/
inductive States (arguments : Arguments) (host : Host) : Toml.Entries → Prop where
  | nothing (hconfig : arguments.config = none) : States arguments host []
  | document {path : Path} {bytes : Bytes} {text : String} {entries : Toml.Entries}
      (hconfig : arguments.config = some path) (hread : host.contentsAt path = .ok bytes)
      (htext : bytes.text? = some text) (hparse : Toml.parse? text = some entries) :
      States arguments host entries

def timestampSeconds (arguments : Arguments) (entries : Toml.Entries) : Nat :=
  arguments.timestampInterval.getD (DocumentKey.intervalSeconds.value entries)

def listenText (arguments : Arguments) (entries : Toml.Entries) : String :=
  arguments.listen.getD (DocumentKey.listen.value entries)

/-- Every setting is the command line's, if it gives one, and else the document's. -/
structure Layered (arguments : Arguments) (entries : Toml.Entries) (settings : Settings) :
    Prop where
  listen : SocketAddress.parse? (listenText arguments entries) = some settings.listen
  backlog : settings.backlog = DocumentKey.backlog.value entries
  pollInterval : settings.pollInterval = .ofMillis (DocumentKey.pollIntervalMillis.value entries)
  pollInterval_pos : 0 < DocumentKey.pollIntervalMillis.value entries
  dataFile : settings.dataFile = arguments.dataFile.getD (DocumentKey.dataFile.value entries)
  noTimestamps : settings.timestampInterval = none ↔ timestampSeconds arguments entries = 0
  timestamps : ∀ interval, settings.timestampInterval = some interval →
    interval = .ofSeconds (timestampSeconds arguments entries)
  daemon : settings.daemon ↔ arguments.daemon ∨ DocumentKey.daemon.value entries
  logLevel : settings.logLevel = arguments.logLevel.getD (DocumentKey.logLevel.value entries)
  logFile : settings.logFile =
    arguments.logFile.orElse fun _ => DocumentKey.logFile.value entries

def Unreadable (arguments : Arguments) (host : Host) (path : Path) (cause : Os.Error) : Prop :=
  arguments.config = some path ∧ (host.contentsAt path = .error cause ∨
    cause = Os.Error.notUtf8 ∧ ∃ bytes, host.contentsAt path = .ok bytes ∧ bytes.text? = none)

/-- The text that the command line names is no document, or not every value in it is taken. -/
def OutOfOrder (arguments : Arguments) (host : Host) (path : Path) (text : String) : Prop :=
  arguments.config = some path ∧
    (∃ bytes, host.contentsAt path = .ok bytes ∧ bytes.text? = some text) ∧
      ∀ entries, Toml.parse? text = some entries → ¬ WellTyped entries

/-! ## What each situation leads to -/

/-- A document that was parsed has no name twice in a table. -/
theorem distinct_of_states (hstates : States arguments host entries) :
    Toml.Entries.Distinct entries := by
  cases hstates with
  | nothing => exact .nil
  | document _ _ _ hparse => exact Toml.distinct_of_parse? hparse

theorem ofEntries_valuesOf (hstates : States arguments host entries) (hwell : WellTyped entries) :
    ofEntries entries = .ok (valuesOf entries) :=
  (ofEntries_eq_ok_iff (distinct_of_states hstates)).mpr ⟨hwell, rfl⟩

theorem load_of_states (hstates : States arguments host entries) (hwell : WellTyped entries) :
    load arguments host = .ok (valuesOf entries) := by
  have hvalues := ofEntries_valuesOf hstates hwell
  cases hstates with
  | nothing hconfig => rw [load, hconfig]; rfl
  | document hconfig hread htext hparse =>
      simp [load, hconfig, documentFrom, hread, htext, documentOf, hparse, hvalues, Except.mapError]

/-- A file that cannot be read is the first thing that goes wrong. -/
theorem resolve_of_unreadable {cause : Os.Error} (hunread : Unreadable arguments host path cause) :
    resolve arguments host = .error (.fileRead path cause) := by
  obtain ⟨hconfig, herror | ⟨rfl, bytes, hread, htext⟩⟩ := hunread
  · simp [resolve, load, hconfig, documentFrom, herror]; rfl
  · simp [resolve, load, hconfig, documentFrom, hread, htext]; rfl

/-- A document that is not in order goes wrong before its settings are looked at. -/
theorem resolve_of_outOfOrder (horder : OutOfOrder arguments host path text) :
    ∃ cause, resolve arguments host = .error (.document path text cause) := by
  obtain ⟨hconfig, ⟨bytes, hread, htext⟩, hill⟩ := horder
  cases hparse : Toml.parse? text with
  | none =>
      refine ⟨.malformed, ?_⟩
      simp [resolve, load, hconfig, documentFrom, hread, htext, documentOf, hparse]
      rfl
  | some entries =>
      cases hentries : ofEntries entries with
      | ok document =>
          exact absurd ((ofEntries_eq_ok_iff (Toml.distinct_of_parse? hparse)).mp hentries).1
            (hill entries hparse)
      | error cause =>
          refine ⟨documentError entries cause, ?_⟩
          simp [resolve, load, hconfig, documentFrom, hread, htext, documentOf, hparse, hentries,
            Except.mapError]
          rfl

/-- A document in order gives its settings to be merged with the command line. -/
theorem resolve_of_states (hstates : States arguments host entries) (hwell : WellTyped entries) :
    resolve arguments host = merge arguments (valuesOf entries) := by
  rw [resolve, load_of_states hstates hwell]
  rfl

theorem merge_of_listen (hlisten : SocketAddress.parse? (listenText arguments entries) = none) :
    merge arguments (valuesOf entries) = .error (.listen (listenText arguments entries)) := by
  have hlisten : SocketAddress.parse?
      (arguments.listen.getD (valuesOf entries).server.listen) = none := hlisten
  simp only [merge, hlisten]
  rfl

theorem merge_of_pollInterval
    (hlisten : (SocketAddress.parse? (listenText arguments entries)).isSome)
    (hpoll : DocumentKey.pollIntervalMillis.value entries = 0) :
    merge arguments (valuesOf entries) = .error .pollInterval := by
  obtain ⟨address, haddress⟩ := Option.isSome_iff_exists.mp hlisten
  have haddress : SocketAddress.parse?
      (arguments.listen.getD (valuesOf entries).server.listen) = some address := haddress
  simp only [merge, haddress]
  exact if_pos hpoll

def layered (arguments : Arguments) (entries : Toml.Entries) (listen : SocketAddress) :
    Settings where
  listen
  backlog := DocumentKey.backlog.value entries
  pollInterval := .ofMillis (DocumentKey.pollIntervalMillis.value entries)
  dataFile := arguments.dataFile.getD (DocumentKey.dataFile.value entries)
  timestampInterval :=
    if 0 < timestampSeconds arguments entries then
      some (.ofSeconds (timestampSeconds arguments entries))
    else none
  daemon := arguments.daemon || DocumentKey.daemon.value entries
  logLevel := arguments.logLevel.getD (DocumentKey.logLevel.value entries)
  logFile := arguments.logFile.orElse fun _ => DocumentKey.logFile.value entries

/-- When the address reads and the poll interval is positive, every setting is taken from its
layer. -/
theorem merge_of_layered {listen : SocketAddress}
    (hlisten : SocketAddress.parse? (listenText arguments entries) = some listen)
    (hpoll : 0 < DocumentKey.pollIntervalMillis.value entries) :
    merge arguments (valuesOf entries) = .ok (layered arguments entries listen) := by
  have hlisten : SocketAddress.parse?
      (arguments.listen.getD (valuesOf entries).server.listen) = some listen := hlisten
  simp only [merge, hlisten]
  exact if_neg (Nat.ne_of_gt hpoll)

theorem layered_iff : Layered arguments entries settings ↔
    ∃ listen, SocketAddress.parse? (listenText arguments entries) = some listen ∧
      0 < DocumentKey.pollIntervalMillis.value entries ∧
      settings = layered arguments entries listen := by
  constructor
  · intro hlayered
    refine ⟨settings.listen, hlayered.listen, hlayered.pollInterval_pos, ?_⟩
    have htimestamps : settings.timestampInterval =
        if 0 < timestampSeconds arguments entries then
          some (.ofSeconds (timestampSeconds arguments entries))
        else none := by
      split
      · next hpos =>
        obtain ⟨interval, hinterval⟩ :=
          Option.ne_none_iff_exists'.mp (mt hlayered.noTimestamps.mp (Nat.ne_of_gt hpos))
        rw [hinterval, hlayered.timestamps interval hinterval]
      · next hzero => exact hlayered.noTimestamps.mpr (Nat.eq_zero_of_not_pos hzero)
    have hdaemon : settings.daemon = (arguments.daemon || DocumentKey.daemon.value entries) :=
      Bool.eq_iff_iff.mpr (hlayered.daemon.trans (Bool.or_eq_true _ _).to_iff.symm)
    rw [layered, ← hlayered.backlog, ← hlayered.pollInterval, ← hlayered.dataFile, ← htimestamps,
      ← hdaemon, ← hlayered.logLevel, ← hlayered.logFile]
  · rintro ⟨listen, hlisten, hpoll, rfl⟩
    exact
      { listen := hlisten
        backlog := rfl
        pollInterval := rfl
        pollInterval_pos := hpoll
        dataFile := rfl
        noTimestamps := by simp [layered]
        timestamps := by simp [layered]
        daemon := by simp [layered]
        logLevel := rfl
        logFile := rfl }

theorem wellTyped_nil : WellTyped [] := by
  have hfits {α : Type} (key : DocumentKey α) : key.Fits [] := nofun
  exact ⟨nofun, hfits _, hfits _, hfits _, hfits _, hfits _, hfits _, hfits _, hfits _⟩

inductive Outcome (arguments : Arguments) (host : Host) : Except SettingsError Settings → Prop where
  | unreadable {path : Path} {cause : Os.Error} (hunread : Unreadable arguments host path cause) :
      Outcome arguments host (.error (.fileRead path cause))
  | outOfOrder {path : Path} {text : String} {cause : DocumentError}
      (horder : OutOfOrder arguments host path text) :
      Outcome arguments host (.error (.document path text cause))
  | badListen {entries : Toml.Entries} (hstates : States arguments host entries)
      (hwell : WellTyped entries)
      (hlisten : SocketAddress.parse? (listenText arguments entries) = none) :
      Outcome arguments host (.error (.listen (listenText arguments entries)))
  | zeroInterval {entries : Toml.Entries} (hstates : States arguments host entries)
      (hwell : WellTyped entries)
      (hlisten : (SocketAddress.parse? (listenText arguments entries)).isSome)
      (hpoll : DocumentKey.pollIntervalMillis.value entries = 0) :
      Outcome arguments host (.error .pollInterval)
  | accepted {entries : Toml.Entries} {settings : Settings}
      (hstates : States arguments host entries) (hwell : WellTyped entries)
      (hlayered : Layered arguments entries settings) :
      Outcome arguments host (.ok settings)

/-- With a document in order only the address and the poll interval can go wrong, in this order. -/
theorem outcome_of_states (hstates : States arguments host entries) (hwell : WellTyped entries) :
    Outcome arguments host (resolve arguments host) := by
  rw [resolve_of_states hstates hwell]
  cases hlisten : SocketAddress.parse? (listenText arguments entries) with
  | none =>
      rw [merge_of_listen hlisten]
      exact .badListen hstates hwell hlisten
  | some listen =>
      rcases Nat.eq_zero_or_pos (DocumentKey.pollIntervalMillis.value entries) with hpoll | hpoll
      · have hsome := Option.isSome_of_eq_some hlisten
        rw [merge_of_pollInterval hsome hpoll]
        exact .zeroInterval hstates hwell hsome hpoll
      · rw [merge_of_layered hlisten hpoll]
        exact .accepted hstates hwell (layered_iff.mpr ⟨listen, hlisten, hpoll, rfl⟩)

/-- Every command line comes to one of the outcomes listed. -/
theorem outcome (arguments : Arguments) (host : Host) :
    Outcome arguments host (resolve arguments host) := by
  cases hconfig : arguments.config with
  | none => exact outcome_of_states (.nothing hconfig) wellTyped_nil
  | some path =>
      cases hread : host.contentsAt path with
      | error cause =>
          have hunread : Unreadable arguments host path cause := ⟨hconfig, .inl hread⟩
          rw [resolve_of_unreadable hunread]
          exact .unreadable hunread
      | ok bytes =>
          cases htext : bytes.text? with
          | none =>
              have hunread : Unreadable arguments host path Os.Error.notUtf8 :=
                ⟨hconfig, .inr ⟨rfl, bytes, hread, htext⟩⟩
              rw [resolve_of_unreadable hunread]
              exact .unreadable hunread
          | some text =>
              by_cases hentries : ∃ entries, Toml.parse? text = some entries ∧ WellTyped entries
              · obtain ⟨entries, hparse, hwell⟩ := hentries
                exact outcome_of_states (.document hconfig hread htext hparse) hwell
              · have horder : OutOfOrder arguments host path text :=
                  ⟨hconfig, ⟨bytes, hread, htext⟩,
                    fun entries hparse hwell => hentries ⟨entries, hparse, hwell⟩⟩
                obtain ⟨cause, hresolve⟩ := resolve_of_outOfOrder horder
                rw [hresolve]
                exact .outOfOrder horder

theorem resolve_of_layered (hstates : States arguments host entries) (hwell : WellTyped entries)
    (hlayered : Layered arguments entries settings) : resolve arguments host = .ok settings := by
  obtain ⟨listen, hlisten, hpoll, rfl⟩ := layered_iff.mp hlayered
  rw [resolve_of_states hstates hwell, merge_of_layered hlisten hpoll]

/-- Settings that are in force were all taken from their layers. -/
theorem exists_layered (hresolve : resolve arguments host = .ok settings) :
    ∃ entries, States arguments host entries ∧ WellTyped entries ∧
      Layered arguments entries settings := by
  have houtcome := outcome arguments host
  rw [hresolve] at houtcome
  cases houtcome with
  | accepted hstates hwell hlayered => exact ⟨_, hstates, hwell, hlayered⟩

theorem states_unique {others : Toml.Entries} (hstates : States arguments host entries)
    (hothers : States arguments host others) : entries = others := by
  cases hstates with
  | nothing hconfig =>
      cases hothers with
      | nothing => rfl
      | document hother => simp [hconfig] at hother
  | document hconfig hread htext hparse =>
      cases hothers with
      | nothing hother => simp [hconfig] at hother
      | document hother hread' htext' hparse' =>
          obtain rfl := Option.some.inj (hconfig.symm.trans hother)
          obtain rfl := Except.ok.inj (hread.symm.trans hread')
          obtain rfl := Option.some.inj (htext.symm.trans htext')
          exact Option.some.inj (hparse.symm.trans hparse')

/-- What is under keys that are not known makes no difference. -/
theorem resolve_of_sameKnown {other : Host} {others : Toml.Entries}
    (hstates : States arguments host entries) (hothers : States arguments other others)
    (hsame : SameKnown entries others) (hresolve : resolve arguments host = .ok settings) :
    resolve arguments other = .ok settings := by
  obtain ⟨found, hfound, hwell, hlayered⟩ := exists_layered hresolve
  obtain rfl := states_unique hstates hfound
  rw [← hresolve, resolve_of_states hstates hwell,
    resolve_of_states hothers (hsame.wellTyped hwell), hsame.valuesOf_eq]

/-- Which settings are in force, and in the way of which failures. -/
structure Settled (arguments : Arguments) (host : Host) : Prop where
  /-- The settings are layered over a document that is in order. -/
  accepted : ∀ settings, resolve arguments host = .ok settings ↔
    ∃ entries, States arguments host entries ∧ WellTyped entries ∧
      Layered arguments entries settings
  /-- A document that cannot be read comes before everything. -/
  unreadable : ∀ path cause, resolve arguments host = .error (.fileRead path cause) ↔
    Unreadable arguments host path cause
  /-- The document has to be in order even where the command line decides. -/
  outOfOrder : ∀ path text,
    (∃ cause, resolve arguments host = .error (.document path text cause)) ↔
      OutOfOrder arguments host path text
  /-- Only the address that counts is looked at, and only over a document that is in order. -/
  badListen : ∀ text, resolve arguments host = .error (.listen text) ↔
    ∃ entries, States arguments host entries ∧ WellTyped entries ∧
      text = listenText arguments entries ∧ SocketAddress.parse? text = none
  /-- The poll interval comes last. -/
  zeroInterval : resolve arguments host = .error .pollInterval ↔
    ∃ entries, States arguments host entries ∧ WellTyped entries ∧
      (SocketAddress.parse? (listenText arguments entries)).isSome ∧
        DocumentKey.pollIntervalMillis.value entries = 0
  /-- There is no other failure. -/
  noOther : ∀ path cause, resolve arguments host ≠ .error (.logFile path cause)
  /-- Every wait has a bound that is not zero. -/
  pollInterval_pos : ∀ settings, resolve arguments host = .ok settings →
    0 < settings.pollInterval.toNanos
  /-- It is all one whether a section is missing or only the key. -/
  missing : ∀ {α : Type} (key : DocumentKey α) (entries : Toml.Entries),
    (Toml.Entries.get? key.group entries = none ∨ ∃ kind span inner,
      Toml.Entries.get? key.group entries = some (.table kind span inner) ∧
        Toml.Entries.get? key.name inner = none) → key.value entries = key.default
  /-- What is under keys that are not known changes nothing. -/
  unknown : ∀ other entries others, States arguments host entries →
    States arguments other others → SameKnown entries others →
      ∀ settings, resolve arguments host = .ok settings ↔ resolve arguments other = .ok settings

/-- Every command line is settled, with any host and any document. -/
theorem settled (arguments : Arguments) (host : Host) : Settled arguments host where
  accepted settings := ⟨exists_layered, fun ⟨_, hstates, hwell, hlayered⟩ =>
    resolve_of_layered hstates hwell hlayered⟩
  unreadable path cause := by
    refine ⟨fun hresolve => ?_, resolve_of_unreadable⟩
    have houtcome := outcome arguments host
    rw [hresolve] at houtcome
    cases houtcome with
    | unreadable hunread => exact hunread
  outOfOrder path text := by
    refine ⟨fun ⟨cause, hresolve⟩ => ?_, resolve_of_outOfOrder⟩
    have houtcome := outcome arguments host
    rw [hresolve] at houtcome
    cases houtcome with
    | outOfOrder horder => exact horder
  badListen text := by
    constructor
    · intro hresolve
      have houtcome := outcome arguments host
      rw [hresolve] at houtcome
      cases houtcome with
      | badListen hstates hwell hlisten => exact ⟨_, hstates, hwell, rfl, hlisten⟩
    · rintro ⟨entries, hstates, hwell, rfl, hlisten⟩
      rw [resolve_of_states hstates hwell, merge_of_listen hlisten]
  zeroInterval := by
    constructor
    · intro hresolve
      have houtcome := outcome arguments host
      rw [hresolve] at houtcome
      cases houtcome with
      | zeroInterval hstates hwell hlisten hpoll => exact ⟨_, hstates, hwell, hlisten, hpoll⟩
    · rintro ⟨entries, hstates, hwell, hlisten, hpoll⟩
      rw [resolve_of_states hstates hwell, merge_of_pollInterval hlisten hpoll]
  noOther path cause := by
    intro hresolve
    have houtcome := outcome arguments host
    rw [hresolve] at houtcome
    cases houtcome
  pollInterval_pos settings hresolve := by
    obtain ⟨entries, -, -, hlayered⟩ := exists_layered hresolve
    have hpos := hlayered.pollInterval_pos
    rw [hlayered.pollInterval, Duration.toNanos, Duration.ofMillis]
    dsimp only
    lia
  missing key entries := by
    rintro (hgroup | ⟨kind, span, inner, hgroup, hname⟩)
    · exact key.value_of_missing_group hgroup
    · exact key.value_of_missing_name hgroup hname
  unknown other entries others hstates hothers hsame settings :=
    ⟨resolve_of_sameKnown hstates hothers hsame, resolve_of_sameKnown hothers hstates hsame.symm⟩

section Example

private def listedText : String := "ticker = [3]"

private def listedHost : Host where
  tree := ⟨[([Bytes.ofString "c.toml"], .file 0)], #[⟨[.written (Bytes.ofString listedText)]⟩]⟩
  current := []
  sizeLimit := none
  descriptors := .none
  network := .isolated

private def listedArguments : Arguments :=
  { Arguments.none with config := some (Bytes.ofString "c.toml") }

private def listedEntries : Toml.Entries :=
  [(⟨"ticker", ⟨0, 6⟩⟩, .array ⟨9, 12⟩ [.integer ⟨10, 11⟩ 3])]

private def isListed : Toml.Entries → Bool
  | [(⟨"ticker", ⟨0, 6⟩⟩, .array ⟨9, 12⟩ [.integer ⟨10, 11⟩ 3])] => true
  | _ => false

private theorem parse_listedText : Toml.parse? listedText = some listedEntries := by
  -- values cannot be decided to be equal, but that these are the ones can be computed
  have hany : (Toml.parse? listedText).any isListed = true := by decide +kernel
  obtain ⟨entries, hparse, hlisted⟩ := (Option.any_eq_true _ _).mp hany
  rw [hparse]
  unfold isListed at hlisted
  split at hlisted
  · rfl
  · cases hlisted

private theorem contentsAt_listedHost :
    listedHost.contentsAt (Bytes.ofString "c.toml") = .ok (Bytes.ofString listedText) := by
  have hroute :
      Path.route (Bytes.ofString "c.toml") = ⟨false, [Bytes.ofString "c.toml"], false⟩ := by
    decide
  have hnode : listedHost.tree.node? [Bytes.ofString "c.toml"] = some (.file 0) := rfl
  have hresolve : listedHost.tree.resolve [] ⟨true, false⟩ (Bytes.ofString "c.toml") =
      .ok (.found [Bytes.ofString "c.toml"] (.file 0)) := by
    change listedHost.tree.walk _ _ [] (Path.route (Bytes.ofString "c.toml")).names
      (Path.route (Bytes.ofString "c.toml")).directory = _
    rw [hroute, FileTree.walk, if_neg (by decide), if_neg (by decide), if_neg (by decide),
      if_neg (by decide), List.nil_append, hnode]
    rfl
  unfold Host.contentsAt FileTree.find
  rw [Host.takeDescriptor_of_none rfl]
  change (listedHost.tree.resolve [] ⟨true, false⟩ _ >>= _) >>= _ = _
  rw [hresolve]
  rfl

/-- A section need not be a table with keys: a list gives its items to the keys in their order, and
the default is not used. -/
theorem resolve_listed :
    CommandLine.parse [Bytes.ofString "-c", Bytes.ofString "c.toml"] = .ok listedArguments ∧
      States listedArguments listedHost listedEntries ∧
      (∀ kind span inner,
        Toml.Entries.get? "ticker" listedEntries ≠ some (.table kind span inner)) ∧
      ∃ settings, resolve listedArguments listedHost = .ok settings ∧
        settings.timestampInterval = some (.ofSeconds 3) ∧
        settings.timestampInterval ≠ some (.ofSeconds DocumentKey.intervalSeconds.default) := by
  have htext : (Bytes.ofString listedText).text? = some listedText := rfl
  have hstates : States listedArguments listedHost listedEntries :=
    .document rfl contentsAt_listedHost htext parse_listedText
  have hvalues : ofEntries listedEntries = .ok { default with ticker := ⟨3⟩ } := rfl
  have hwell := ((ofEntries_eq_ok_iff (distinct_of_states hstates)).mp hvalues).1
  have hlisten : SocketAddress.parse? (listenText listedArguments listedEntries) =
      some (.v4 .unspecified 9000) := by decide +kernel
  have hpoll : 0 < DocumentKey.pollIntervalMillis.value listedEntries := by decide
  have hget : Toml.Entries.get? "ticker" listedEntries =
      some (.array ⟨9, 12⟩ [.integer ⟨10, 11⟩ 3]) := rfl
  have hseconds : (layered listedArguments listedEntries
      (.v4 .unspecified 9000)).timestampInterval = some (.ofSeconds 3) := rfl
  refine ⟨rfl, hstates, by simp [hget], _,
    (resolve_of_states hstates hwell).trans (merge_of_layered hlisten hpoll), hseconds, ?_⟩
  rw [hseconds]
  decide

end Example

end LineLog.Settings
