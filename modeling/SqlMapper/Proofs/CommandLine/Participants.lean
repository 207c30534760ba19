import SqlMapper.CommandLine.Report
import SqlMapper.Proofs.Model.Catalog
import SqlMapper.Proofs.Model.JoinColumns

/-!
# The participants of the join table command

The command makes a type for each of the two tables that it is given, registers both in one catalog, and
looks them up again by their tables. Types are told apart by their names alone, and the second type takes
the place of the first if the names of the two are the same.

* `joinTableFor_eq`: the join table that the command works on.
* `participants_iff`: when its participants are the two tables that were given.
* `schema_eq_iff`: when it is defined like the join table between those two.
-/

namespace SqlMapper.CommandLine

open Inflector (english)

/-! ## Specification -/

/-- The type that the command makes for a table. -/
def tableType (table : String) : EntityType := .ofTable (english.classify table) table

/-- The join table between two tables. -/
def joinTableBetween (source destination : String) : JoinTable :=
  .between (tableType source) (tableType destination) storage

@[simp] theorem source_joinTableBetween (source destination : String) :
    (joinTableBetween source destination).source = tableType source := rfl

@[simp] theorem destination_joinTableBetween (source destination : String) :
    (joinTableBetween source destination).destination = tableType destination := rfl

@[simp] theorem options_joinTableBetween (source destination : String) :
    (joinTableBetween source destination).options = storage := rfl

@[simp] theorem name_tableType (table : String) : (tableType table).name = english.classify table := rfl

@[simp] theorem table_tableType (table : String) : (tableType table).table = table := rfl

/-- Prints a report if there is one. -/
def printed {m : Type → Type} [Monad m] (report : Task m Json) : m (String × Bool) := do
  match ← report.run with
  | .ok report => return (line report.pretty, true)
  | .error _ => return ("", false)

/-! ## The join table of the command -/

/-- The table that is found for the source: the second one if both have the same type name. -/
def sourceFound (source destination : String) : String :=
  if english.classify source = english.classify destination then destination else source

/-- The types that the command registers. -/
def registered (source destination : String) : Catalog :=
  .declared english [tableType source, tableType destination]

section

variable (source destination : String)

theorem resolve_registered {table : String} {e : EntityType}
    (h : ((registered source destination).lookup (english.classify table)).map Registered.entity =
      some e) : (registered source destination).resolve (.named table) = .ok e := by
  obtain ⟨r, hlookup, rfl⟩ := Option.map_eq_some_iff.mp h
  have hinflector : (registered source destination).inflector = english := Catalog.inflector_declared
  simp only [Catalog.resolve, hinflector, hlookup]

theorem lookup_registered (name : String) :
    ((registered source destination).lookup name).map Registered.entity =
      if name = english.classify destination then some (tableType destination)
      else if name = english.classify source then some (tableType source) else none := by
  have hregistered : registered source destination =
      (((Catalog.empty english).register (tableType source)).2.register (tableType destination)).2 := rfl
  rw [hregistered, Catalog.lookup_register, Catalog.lookup_register, name_tableType, name_tableType]
  split
  · rfl
  · split <;> rfl

/-- The command finds a type for both tables, whatever they are. -/
theorem joinTableFor_eq : joinTableFor source destination =
    .ok (english, joinTableBetween (sourceFound source destination) destination) := by
  have hsource : (registered source destination).resolve (.named source) =
      .ok (tableType (sourceFound source destination)) := by
    apply resolve_registered
    rw [lookup_registered, if_pos rfl, sourceFound]
    split <;> rfl
  have hdestination : (registered source destination).resolve (.named destination) =
      .ok (tableType destination) := by
    apply resolve_registered
    rw [lookup_registered, if_pos rfl]
  have hunfold : joinTableFor source destination = do
      return (english, .between (← (registered source destination).resolve (.named source))
        (← (registered source destination).resolve (.named destination)) storage) := rfl
  rw [hunfold, hsource, hdestination]
  rfl

/-- The command carries out its action on this join table and prints the report. -/
theorem perform_joinTable {m : Type → Type} [Monad m] [Backend m] (action : JoinAction) :
    (Command.joinTable action source destination).perform (m := m) =
      printed (joinReport action english
        (joinTableBetween (sourceFound source destination) destination)) := by
  have hfound := joinTableFor_eq source destination
  unfold Command.perform printed
  dsimp only
  generalize joinTableFor source destination = found at hfound ⊢
  subst hfound
  refine congrArg (bind _) (funext fun result => ?_)
  cases result <;> rfl

theorem sourceFound_eq_iff : sourceFound source destination = source ↔
    (english.classify source = english.classify destination → source = destination) := by
  rw [sourceFound]
  split
  · next hsame => exact ⟨fun heq _ => heq.symm, fun h => (h hsame).symm⟩
  · next hdiffer => exact iff_of_true rfl fun hsame => absurd hsame hdiffer

theorem sourceFound_cases : sourceFound source destination = source ∨
    sourceFound source destination = destination := by
  rw [sourceFound]
  split
  · exact .inr rfl
  · exact .inl rfl

/-- The command carries out its action on one join table. Its participants are the two tables exactly if
    they are the same or have different type names; otherwise both are the second table. -/
theorem participants_iff :
    ∃ j : JoinTable, joinTableFor source destination = .ok (english, j) ∧
      (∀ (m : Type → Type) [Monad m] [Backend m] (action : JoinAction),
        (Command.joinTable action source destination).perform (m := m) =
          printed (joinReport action english j)) ∧
      j.options = storage ∧ j.destination.table = destination ∧
      (j.source.table = source ∨ j.source.table = destination) ∧
      (j.source.table = source ↔
        (english.classify source = english.classify destination → source = destination)) := by
  refine ⟨_, joinTableFor_eq source destination,
    fun _ _ _ action => perform_joinTable source destination action, ?_⟩
  simp only [source_joinTableBetween, destination_joinTableBetween, options_joinTableBetween,
    table_tableType, true_and]
  exact ⟨sourceFound_cases source destination, sourceFound_eq_iff source destination⟩

/-- The tables `persons` and `people` have the same type name, so the first one is lost. -/
theorem participants_persons_people :
    ∃ j : JoinTable, joinTableFor "persons" "people" = .ok (english, j) ∧
      j.source.table = "people" ∧ j.destination.table = "people" ∧ j.name english = "people_people" ∧
        (joinTableBetween "persons" "people").name english = "people_persons" := by
  have hsame : english.classify "persons" = english.classify "people" := by decide
  have hfound : sourceFound "persons" "people" = "people" := if_pos hsame
  refine ⟨joinTableBetween "people" "people", ?_, rfl, rfl, by decide, by decide⟩
  rw [joinTableFor_eq, hfound]

/-! ## The definition of the join table -/

section Definition

variable {i : Inflector} {a b : EntityType} {o : StorageOptions}

/-- The name of a join table tells the plurals of the tables apart. -/
theorem derivedName_eq_iff :
    JoinTable.derivedName i a b = JoinTable.derivedName i b b ↔
      i.pluralize a.table = i.pluralize b.table := by
  simp only [JoinTable.derivedName, ite_self]
  generalize i.pluralize a.table = x
  generalize i.pluralize b.table = y
  constructor
  · intro h
    split at h <;> simpa [String.append_assoc] using h
  · rintro rfl
    rw [ite_self]

/-- A join table has the definition of another with the same destination. -/
theorem schema_between_eq_iff :
    (JoinTable.between a b o).schema i = (JoinTable.between b b o).schema i ↔
      i.pluralize a.table = i.pluralize b.table ∧
        JoinTable.keyColumnsOf i a = JoinTable.keyColumnsOf i b := by
  constructor
  · intro h
    have hname : JoinTable.derivedName i a b = JoinTable.derivedName i b b := congrArg TableSchema.name h
    have hcolumns := congrArg TableSchema.columns h
    rw [JoinTable.columns_schema, JoinTable.columns_schema] at hcolumns
    have hreferences := List.append_cancel_right hcolumns
    rw [JoinTable.keyColumnsOf_eq, JoinTable.keyColumnsOf_eq]
    exact ⟨derivedName_eq_iff.mp hname, congrArg (List.map _) hreferences⟩
  · rintro ⟨hplural, hcolumns⟩
    have hname : (JoinTable.between a b o).name i = (JoinTable.between b b o).name i :=
      derivedName_eq_iff.mpr hplural
    have hkeys : (JoinTable.between a b o).keyColumns i = (JoinTable.between b b o).keyColumns i :=
      congrArg (· ++ JoinTable.keyColumnsOf i b) hcolumns
    simp only [JoinTable.schema, JoinTable.keys, hname, hkeys]
    rfl

end Definition

theorem keyColumnsOf_tableType (table : String) : JoinTable.keyColumnsOf english (tableType table) =
    [⟨english.singularize table ++ "_" ++ "id", "integer"⟩] := rfl

/-- The join table that the command works on is defined like the one between the two tables exactly if the
    names of these tables have the same plural and the same singular, or different type names. -/
theorem schema_eq_iff :
    (joinTableBetween source destination).schema english =
        (joinTableBetween (sourceFound source destination) destination).schema english ↔
      (english.classify source = english.classify destination →
        english.pluralize source = english.pluralize destination ∧
          english.singularize source = english.singularize destination) := by
  by_cases hsame : english.classify source = english.classify destination
  · rw [sourceFound, if_pos hsame, joinTableBetween, joinTableBetween, schema_between_eq_iff,
      keyColumnsOf_tableType, keyColumnsOf_tableType]
    simp [hsame]
  · rw [sourceFound, if_neg hsame]
    exact iff_of_true rfl fun h => absurd h hsame

end

end SqlMapper.CommandLine
