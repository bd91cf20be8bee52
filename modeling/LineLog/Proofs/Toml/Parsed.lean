import LineLog.Proofs.Toml.Keys

/-!
# What the parser yields

Whatever a parser returns on any text is returned by the parsers that it is made of, so a property
of results is carried from the parts of a document to the whole.  In a document that reads, no
table has two entries of one name.
-/

namespace LineLog.Toml

open LineLog.Toml.Parser

/-- What the parser returns has the property, wherever it is applied. -/
def Parser.Yields {α : Type} (parser : Parser α) (Good : α → Prop) : Prop :=
  ∀ cursor result after, parser cursor = some (result, after) → Good result

namespace Parser.Yields

variable {α β : Type} {Good : α → Prop} {Fine : β → Prop} {parser other : Parser α}

theorem trivial (parser : Parser α) : parser.Yields fun _ => True :=
  fun _ _ _ _ => True.intro

theorem pure {result : α} (hresult : Good result) : (Pure.pure result : Parser α).Yields Good := by
  rintro cursor _ _ ⟨⟩
  exact hresult

theorem fail : (Parser.fail : Parser α).Yields Good :=
  nofun

theorem ofOption {result : Option α} (hresult : ∀ value, result = some value → Good value) :
    (Parser.ofOption result).Yields Good := by
  cases result with
  | none => exact fail
  | some value => exact pure (hresult value rfl)

theorem bind {next : α → Parser β} (hparser : parser.Yields Good)
    (hnext : ∀ result, Good result → (next result).Yields Fine) :
    (parser >>= next).Yields Fine := by
  intro cursor result after hrun
  obtain ⟨⟨first, between⟩, hfirst, hrest⟩ := Option.bind_eq_some_iff.mp hrun
  exact hnext first (hparser cursor first between hfirst) between result after hrest

/-- What is in front of the last part does not count. -/
theorem after {next : α → Parser β} (hnext : ∀ result, (next result).Yields Fine) :
    (parser >>= next).Yields Fine :=
  (trivial parser).bind fun result _ => hnext result

theorem map {change : α → β} (hparser : parser.Yields Good)
    (hchange : ∀ result, Good result → Fine (change result)) : (change <$> parser).Yields Fine := by
  rw [← bind_pure_comp]
  exact hparser.bind fun result hresult => pure (hchange result hresult)

theorem orElse (hparser : parser.Yields Good) (hother : other.Yields Good) :
    (parser <|> other).Yields Good := by
  intro cursor result after hrun
  change ((parser cursor).orElse fun _ => other cursor) = _ at hrun
  cases hfirst : parser cursor with
  | none =>
      rw [hfirst] at hrun
      exact hother cursor result after hrun
  | some found =>
      rw [hfirst] at hrun
      obtain rfl := Option.some.inj hrun
      exact hparser cursor result after hfirst

theorem spanned (hparser : parser.Yields Good) :
    (Parser.spanned parser).Yields fun found => Good found.1 := by
  intro cursor result after hrun
  obtain ⟨⟨found, rest⟩, hfound, hresult⟩ := Option.map_eq_some_iff.mp hrun
  obtain ⟨rfl, rfl⟩ := Prod.mk.inj hresult
  exact hparser cursor found rest hfound

theorem manyWithin (hparser : parser.Yields Good) (bound : List Char) :
    (Parser.manyWithin parser bound).Yields fun results => ∀ result ∈ results, Good result := by
  have hnone : (Pure.pure [] : Parser (List α)).Yields fun results =>
      ∀ result ∈ results, Good result := pure nofun
  induction bound with
  | nil => exact hnone
  | cons char rest ih =>
      refine orElse (hparser.bind fun first hfirst => ih.bind fun others hothers => pure ?_) hnone
      exact List.forall_mem_cons.mpr ⟨hfirst, hothers⟩

theorem many (hparser : parser.Yields Good) :
    (Parser.many parser).Yields fun results => ∀ result ∈ results, Good result :=
  fun cursor => hparser.manyWithin cursor.rest cursor

theorem behind (hparser : parser.Yields Good) (ahead : Parser β) :
    (ahead *> parser).Yields Good := by
  rw [seqRight_eq_bind]
  exact after fun _ => hparser

theorem before (hparser : parser.Yields Good) (rest : Parser β) :
    (parser <* rest).Yields Good := by
  rw [seqLeft_eq_bind]
  exact hparser.bind fun result hresult => after fun _ => pure hresult

theorem separated (hparser : parser.Yields Good) (separator : Parser β) :
    (Parser.separated parser separator).Yields fun results => ∀ result ∈ results, Good result :=
  orElse
    (hparser.bind fun _ hfirst => (hparser.behind separator).many.bind fun _ hothers =>
      pure (List.forall_mem_cons.mpr ⟨hfirst, hothers⟩))
    (pure nofun)

end Parser.Yields

open Parser.Yields

theorem distinct_scalar : scalar.Yields Value.Distinct := by
  refine after fun next => ?_
  split
  · exact after fun found => pure (.string _ _)
  · exact after fun found => pure (.string _ _)
  · exact after fun found => pure (.boolean _ _)
  · exact after fun found => pure (.boolean _ _)
  · exact orElse (after fun found => pure (.dateTime _ _))
      (orElse (after fun found => pure (.float _ _)) (after fun found => pure (.integer _ _)))

theorem distinct_arrayOf {item : Parser Value} (hitem : item.Yields Value.Distinct) :
    (arrayOf item).Yields Value.Distinct := by
  have hitems := ((hitem.behind filler).before filler).separated (char ',')
  have hclosed (items : List Value) (hitems : ∀ item ∈ items, item.Distinct) :
      (do filler; char ']'; Pure.pure items : Parser _).Yields fun items =>
        ∀ item ∈ items, item.Distinct :=
    after fun _ => after fun _ => pure hitems
  refine bind (@spanned _ (fun items => ∀ item ∈ items, Value.Distinct item) _
    (after fun _ => hitems.bind fun items hitems => ?_)) fun found hfound =>
      pure (.array found.2 found.1 hfound)
  dsimp only
  split
  · exact after fun _ => hclosed items hitems
  · exact hclosed items hitems

theorem Entries.Distinct.assignInline {key : Key} {value : Value} {entries after : Entries}
    {path : List Key} (hentries : Entries.Distinct entries) (hvalue : value.Distinct)
    (hassign : Toml.assignInline key value entries path = some after) :
    Entries.Distinct after := by
  induction path generalizing entries after with
  | nil => exact hentries.add? hvalue hassign
  | cons first rest ih =>
      unfold Toml.assignInline at hassign
      split at hassign
      · obtain ⟨inner, hinner, hput⟩ := Option.bind_eq_some_iff.mp hassign
        obtain rfl := Option.some.inj hput
        exact hentries.put first ((ih .nil hinner).table .inlineDotted none)
      · next span inner hget =>
        obtain ⟨inner, hinner, hput⟩ := Option.bind_eq_some_iff.mp hassign
        obtain rfl := Option.some.inj hput
        exact hentries.put first
          ((ih (.of_table (hentries.get hget)) hinner).table .inlineDotted span)
      · cases hassign

theorem distinct_of_inlineEntries? {assignments : List ((List Key × Key) × Value)}
    {entries : Entries} (hvalues : ∀ assignment ∈ assignments, assignment.2.Distinct)
    (hentries : inlineEntries? assignments = some entries) : Entries.Distinct entries := by
  exact holds_of_foldlM hentries .nil fun assignment hmem _ _ hbefore hassign =>
    hbefore.assignInline (hvalues assignment hmem) hassign

theorem distinct_inlineTableOf {item : Parser Value} (hitem : item.Yields Value.Distinct) :
    (inlineTableOf item).Yields Value.Distinct := by
  have hassignment : (do
      let path ← keyPath
      char '='
      blanks
      let value ← item
      blanks
      Pure.pure (path, value) : Parser _).Yields fun assignment => assignment.2.Distinct :=
    after fun _ => after fun _ => after fun _ => hitem.bind fun _ hvalue =>
      after fun _ => pure hvalue
  refine bind (spanned (after fun _ => (hassignment.separated (char ',')).bind fun _ hvalues =>
    after fun _ => after fun _ => ofOption fun _ hentries =>
      distinct_of_inlineEntries? hvalues hentries)) fun found hfound => pure ?_
  exact hfound.table .inline (some found.2)

theorem distinct_value (depth : Nat) : (value depth).Yields Value.Distinct := by
  induction depth with
  | zero => exact distinct_scalar
  | succ depth ih =>
      refine after fun next => ?_
      split
      · exact distinct_arrayOf ih
      · exact distinct_inlineTableOf ih
      · exact distinct_scalar

theorem distinct_assignment : assignment.Yields Statement.Distinct :=
  after fun _ => after fun _ => after fun _ => (distinct_value _).bind fun _ hvalue =>
    after fun _ => pure hvalue

theorem distinct_header : header.Yields Statement.Distinct :=
  after fun _ => after fun _ => pure trivial

theorem distinct_line :
    line.Yields fun statements => ∀ statement ∈ statements, statement.Distinct := by
  have hsingle {parser : Parser Statement} (hparser : parser.Yields Statement.Distinct) :
      (List.singleton <$> parser).Yields fun statements =>
        ∀ statement ∈ statements, statement.Distinct :=
    hparser.map fun _ hstatement => List.forall_mem_singleton.mpr hstatement
  have hrest (statements : List Statement)
      (hstatements : ∀ statement ∈ statements, statement.Distinct) :
      (do blanks; Pure.pure statements : Parser _).Yields fun statements =>
        ∀ statement ∈ statements, statement.Distinct :=
    after fun _ => pure hstatements
  refine after fun next => ?_
  dsimp only
  split
  · exact (after fun _ => after fun _ => pure nofun).bind hrest
  · exact (hsingle distinct_header).bind hrest
  · exact (behind (pure nofun) lineBreak).bind hrest
  · exact (behind (pure nofun) lineBreak).bind hrest
  · exact (hsingle distinct_assignment).bind hrest

theorem distinct_document :
    document.Yields fun statements => ∀ statement ∈ statements, statement.Distinct := by
  refine after fun _ => after fun _ => distinct_line.many.bind fun lines hlines =>
    after fun _ => pure fun statement hmem => ?_
  obtain ⟨statements, hstatements, hmem⟩ := List.mem_flatten.mp hmem
  exact hlines statements hstatements statement hmem

theorem distinct_of_parse? {text : String} {entries : Entries}
    (hparse : parse? text = some entries) :
    Entries.Distinct entries := by
  obtain ⟨⟨statements, after⟩, hstatements, hentries⟩ := Option.bind_eq_some_iff.mp hparse
  exact distinct_of_entriesOf? (distinct_document _ _ _ hstatements) hentries

end LineLog.Toml
