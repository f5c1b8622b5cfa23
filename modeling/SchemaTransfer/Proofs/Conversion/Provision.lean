import SchemaTransfer.Proofs.Conversion.Recovery
import SchemaTransfer.Proofs.Emission.Identifiers
import SchemaTransfer.Proofs.Emission.Mentions
import SchemaTransfer.Proofs.Snapshot.Plans

/-!
# Mentioned domains and sequences are provided

A run creates the domains and the sequences of the included rows whose names can be written. The
script for tables takes the names of domains from the catalog and those of sequences from the text of
defaults, and looks at neither. Main statement: nothing is mentioned that is neither created nor
reported exactly when the columns that are not reported refer only to what is provided.
-/

namespace SchemaTransfer

open Emission

namespace Plan

/-- Whether something is reported under the name of a column. -/
def Reports (p : Plan) (place : ColumnRef) : Prop := ∃ d ∈ p.diagnostics, d.object = place.fullName

/-- Whether every domain and every sequence that the creation of tables mentions on a column is
created with the types, unless the column is reported. -/
def DanglesNowhere (p : Plan) : Prop :=
  ∀ tables ∈ p.scripts, tables.kind = .createTables → ∀ s ∈ tables.statements, ∀ place r,
    s.Mentions place r →
      (∃ types ∈ p.scripts, types.kind = .createTypes ∧ r ∈ types.created) ∨ p.Reports place

end Plan

namespace Emission

/-- Among the names of objects, those that can be written. -/
theorem mem_writtenNames {α : Type} {xs : List α} {schema name : α → String} {n : ObjectName} :
    n ∈ (xs.filter fun x => isWritable (schema x) (name x)).map
        (fun x => ObjectName.mk (schema x) (name x)) ↔
      isWritable n.schema n.name = true ∧ ∃ x ∈ xs, schema x = n.schema ∧ name x = n.name := by
  simp only [List.mem_map, List.mem_filter]
  constructor
  · rintro ⟨x, ⟨hx, hwritable⟩, rfl⟩
    exact ⟨hwritable, x, hx, rfl, rfl⟩
  · rintro ⟨hwritable, x, hx, hschema, hname⟩
    refine ⟨x, ⟨hx, by rwa [hschema, hname]⟩, ?_⟩
    rw [hschema, hname]

theorem mem_writtenTypes {k : Catalog} {n : ObjectName} :
    n ∈ writtenTypes k ↔ isWritable n.schema n.name = true ∧
      ∃ t ∈ k.userTypes, t.schema = n.schema ∧ t.name = n.name :=
  mem_writtenNames

theorem mem_writtenSequences {k : Catalog} {n : ObjectName} :
    n ∈ writtenSequences k ↔ isWritable n.schema n.name = true ∧
      ∃ q ∈ k.sequences, q.schema = n.schema ∧ q.name = n.name :=
  mem_writtenNames

end Emission

namespace Snapshot

variable (s : Snapshot) (excluded : List String) (settings : Settings)

/-- What a run on a snapshot creates with the types: the domains and the sequences of included rows,
as far as their names can be written. -/
inductive Provides : Creation → Prop
  | userType {r : UserTypeRow} (hr : r ∈ s.userTypes) (hincluded : isIncluded excluded r.schema = true)
      (hwritable : isWritable r.schema r.name = true) : Provides (.userType ⟨r.schema, r.name⟩)
  | sequence {r : SequenceRow} (hr : r ∈ s.sequences) (hincluded : isIncluded excluded r.schema = true)
      (hwritable : isWritable r.schema r.name = true) : Provides (.sequence ⟨r.schema, r.name⟩)

theorem mem_writtenTypes_converted_iff {n : ObjectName} :
    n ∈ writtenTypes (s.converted excluded settings) ↔ s.Provides excluded (.userType n) := by
  have htypes : (s.converted excluded settings).userTypes =
      (s.rows excluded).userTypes.map UserType.ofRow := rfl
  rw [mem_writtenTypes, htypes]
  constructor
  · rintro ⟨hwritable, t, ht, hschema, hname⟩
    obtain ⟨r, hr, rfl⟩ := List.mem_map.mp ht
    obtain ⟨hmem, hincluded⟩ := (mem_selected excluded).mp hr
    obtain ⟨_, _⟩ := n
    subst hschema hname
    exact .userType hmem hincluded hwritable
  · intro h
    cases h with
    | @userType r hr hincluded hwritable =>
      exact ⟨hwritable, .ofRow r,
        List.mem_map_of_mem ((mem_selected excluded).mpr ⟨hr, hincluded⟩), rfl, rfl⟩

theorem mem_writtenSequences_converted_iff {n : ObjectName} :
    n ∈ writtenSequences (s.converted excluded settings) ↔ s.Provides excluded (.sequence n) := by
  have hsequences : (Catalog.build (s.rows excluded)
      settings.conversion.foreignKeySuffix).catalog.sequences =
        (s.rows excluded).sequences.map Sequence.ofRow := rfl
  rw [mem_writtenSequences]
  constructor
  · rintro ⟨hwritable, q, hq, hschema, hname⟩
    obtain ⟨_, hrow, hschema', hname'⟩ :=
      Catalog.exists_of_mem_sequences_transformed _ _ hq
    obtain ⟨r, hr, rfl⟩ := List.mem_map.mp (hsequences ▸ hrow)
    obtain ⟨hmem, hincluded⟩ := (mem_selected excluded).mp hr
    rw [hschema] at hschema'
    rw [hname] at hname'
    obtain ⟨_, _⟩ := n
    subst hschema' hname'
    exact .sequence hmem hincluded hwritable
  · intro h
    cases h with
    | @sequence r hr hincluded hwritable =>
      have hrow : Sequence.ofRow r ∈ (Catalog.build (s.rows excluded)
          settings.conversion.foreignKeySuffix).catalog.sequences :=
        hsequences ▸ List.mem_map_of_mem ((mem_selected excluded).mpr ⟨hr, hincluded⟩)
      exact ⟨hwritable, Catalog.exists_mem_sequences_transformed _ _ hrow⟩

/-- What a run on a snapshot creates with the types is what the snapshot provides. -/
theorem mem_created_createTypes_iff {options : EmitOptions} {r : Creation} :
    r ∈ (createTypes options (s.converted excluded settings)).script.created ↔
      s.Provides excluded r := by
  rw [created_createTypes, List.mem_append, List.mem_map, List.mem_map]
  constructor
  · rintro (⟨n, hn, rfl⟩ | ⟨n, hn, rfl⟩)
    · exact (mem_writtenTypes_converted_iff s excluded settings).mp hn
    · exact (mem_writtenSequences_converted_iff s excluded settings).mp hn
  · intro h
    cases h with
    | userType hr hincluded hwritable =>
      exact Or.inl ⟨_, (mem_writtenTypes_converted_iff s excluded settings).mpr
        (.userType hr hincluded hwritable), rfl⟩
    | sequence hr hincluded hwritable =>
      exact Or.inr ⟨_, (mem_writtenSequences_converted_iff s excluded settings).mpr
        (.sequence hr hincluded hwritable), rfl⟩

end Snapshot

/-- Of the scripts of a catalog there is one for each purpose. -/
theorem mem_scripts_emit_iff {options : EmitOptions} {k : Catalog} (hk : k.isEmpty = false)
    {script : Script} {kind : ArtifactKind} :
    (script ∈ (k.emit options).scripts ∧ script.kind = kind) ↔
      script = (scriptFor options k kind).script := by
  rw [scripts_emit options hk, List.mem_map]
  constructor
  · rintro ⟨⟨other, _, rfl⟩, hkind⟩
    rw [kind_scriptFor] at hkind
    rw [hkind]
  · rintro rfl
    exact ⟨⟨kind, by cases kind <;> decide, rfl⟩, kind_scriptFor options k kind⟩

/-- For the scripts of a catalog, what is mentioned stands in one script and what is created in
another. -/
theorem Plan.danglesNowhere_iff_emit {p : Plan} {options : EmitOptions} {k : Catalog}
    (hk : k.isEmpty = false) (hscripts : p.scripts = (k.emit options).scripts) :
    p.DanglesNowhere ↔ ∀ s ∈ (createTables options k).script.statements, ∀ place r,
      s.Mentions place r → r ∈ (createTypes options k).script.created ∨ p.Reports place := by
  have hscript : ∀ script kind, (script ∈ p.scripts ∧ script.kind = kind) ↔
      script = (scriptFor options k kind).script := by
    intro script kind
    rw [hscripts]
    exact mem_scripts_emit_iff hk
  obtain ⟨htypes, hkind⟩ := (hscript _ .createTypes).mpr rfl
  constructor
  · intro h s hs place r hmentions
    obtain ⟨htables, hkind'⟩ := (hscript _ .createTables).mpr rfl
    refine (h _ htables hkind' s hs place r hmentions).imp_left ?_
    rintro ⟨types, hmem, hkind, hr⟩
    rwa [(hscript types .createTypes).mp ⟨hmem, hkind⟩] at hr
  · intro h tables hmem hkind' s hs place r hmentions
    rw [(hscript tables .createTables).mp ⟨hmem, hkind'⟩] at hs
    exact (h s hs place r hmentions).imp_left fun hr => ⟨_, htypes, hkind, hr⟩

/-- What is reported with the script for tables is reported by a run for the catalog. -/
theorem Plan.reports_of_createTables {p : Plan} {options : EmitOptions} {k : Catalog}
    (hk : k.isEmpty = false) (hdiagnostics : (k.emit options).diagnostics ⊆ p.diagnostics)
    {place : ColumnRef}
    (h : ∃ d ∈ (createTables options k).reported, d.object = place.fullName) : p.Reports place := by
  obtain ⟨d, hd, hobject⟩ := h
  refine ⟨d, hdiagnostics ?_, hobject⟩
  rw [diagnostics_emit options hk]
  exact List.mem_append_right _ (List.mem_flatMap.mpr ⟨.createTables, by decide, hd⟩)

namespace Snapshot

/-- In the scripts of a run, nothing is mentioned that is neither created nor reported with its
column, exactly when every column of a written table that is not reported refers only to domains and
sequences that the snapshot provides. -/
theorem danglesNowhere_iff {s : Snapshot} {excluded : List String} {settings : Settings} {p : Plan}
    (hp : (s.reader excluded).plan settings = .ok p) (hgenerated : p.outcome = .generated) :
    p.DanglesNowhere ↔ ∀ t ∈ keptTables (s.converted excluded settings), ∀ c ∈ t.columns,
      ¬ p.Reports (t.ref c) → ∀ r, Refers (s.converted excluded settings) t c r →
        s.Provides excluded r := by
  rw [plan_reader_eq, Except.ok.injEq] at hp
  have hk : (s.converted excluded settings).isEmpty = false := by
    refine Bool.eq_false_iff.mpr fun hempty => ?_
    rw [← hp, (ofGathered_of_isEmpty s excluded settings hempty).1] at hgenerated
    cases hgenerated
  obtain ⟨-, hscripts, hdiagnostics⟩ := ofGathered_of_not_isEmpty s excluded settings hk
  rw [hp] at hscripts hdiagnostics
  have hemitted : ((s.converted excluded settings).emit settings.emitOptions).diagnostics ⊆
      p.diagnostics := hdiagnostics ▸ List.subset_append_right ..
  rw [Plan.danglesNowhere_iff_emit hk hscripts]
  simp only [mem_created_createTypes_iff]
  constructor
  · intro h t ht c hc hsilent r hrefers
    obtain ⟨st, hst, hmentions⟩ := hrefers.exists_mentions ht hc
    exact (h st hst (t.ref c) r hmentions).resolve_right hsilent
  · intro h st hst place r hmentions
    obtain ⟨t, ht, c, hc, rfl, hrefers | hfound⟩ := refers_or_reported_of_mentions hst hmentions
    · exact or_iff_not_imp_right.mpr fun hsilent => h t ht c hc hsilent r hrefers
    · exact Or.inr (Plan.reports_of_createTables hk hemitted hfound)

/-- A column `a` of the table `s.t` that takes its values from a sequence of the same schema. -/
def fedRow (regtype sequence : String) : ColumnRow :=
  { schema := "s", table := "t", column := "a", ordinal := 1, regtype, isNullable := false
    defaultExpr := some ("nextval('s." ++ sequence ++ "'::regclass)") }

/-- A sequence of the schema `s`. -/
def counterRow (name : String) : SequenceRow :=
  { schema := "s", name, dataType := "bigint", startValue := 1, incrementBy := 1, minValue := 1
    maxValue := 100 }

/-- A table with a column of a domain that is fed by a sequence. -/
def providing : Snapshot where
  columns := [fedRow "d" "q"]
  userTypes := [{ schema := "s", name := "d", baseType := "integer" }]
  sequences := [counterRow "q"]

theorem danglesNowhere_providing :
    ∃ p, (providing.reader []).plan plainSettings = .ok p ∧ p.outcome = .generated ∧
      p.DanglesNowhere := by
  have hplan := plan_reader_eq providing [] plainSettings
  have hgenerated : (Plan.ofGathered plainSettings providing.title
      (providing.gathered [])).outcome = .generated := by decide +kernel
  refine ⟨_, hplan, hgenerated, (danglesNowhere_iff hplan hgenerated).mpr ?_⟩
  intro t ht c hc _ r hrefers
  have hcolumn : ∀ t ∈ keptTables (providing.converted [] plainSettings), ∀ c ∈ t.columns,
      domain? (providing.converted [] plainSettings).userTypes t.schema c.elementType =
        some ⟨"s", "d", "integer", false, none, none, none⟩ ∧
      (c.defaultExpr.bind fun raw => (DefaultValue.ofText t.schema raw).expression?) =
        some (ObjectName.mk "s" "q").nextValueText := by decide +kernel
  obtain ⟨hdomain, hdefault⟩ := hcolumn t ht c hc
  cases hrefers with
  | @userType d hd =>
    obtain rfl := Option.some.inj (hdomain.symm.trans hd)
    have hrow : { schema := "s", name := "d", baseType := "integer" } ∈ providing.userTypes :=
      List.mem_singleton_self _
    exact .userType hrow (by decide) (by decide)
  | @sequence raw n hraw hvalue hname =>
    rw [hraw, Option.bind_some, hvalue, Option.some.injEq] at hdefault
    obtain rfl := ObjectName.nextValueText_injective hdefault
    have hrow : counterRow "q" ∈ providing.sequences := List.mem_singleton_self _
    exact .sequence hrow (by decide) (by decide)

/-- A table with a column that is fed by a sequence without a name. -/
def namelessFed : Snapshot where
  columns := [fedRow "integer" "\"\""]
  sequences := [counterRow ""]

/-- The sequence is skipped, and the default that takes its next value is written. -/
theorem not_danglesNowhere_namelessFed : plainSettings.fault? = none ∧
    ∃ p, (namelessFed.reader []).plan plainSettings = .ok p ∧ p.outcome = .generated ∧
      ¬ p.DanglesNowhere := by
  have hk : (namelessFed.converted [] plainSettings).isEmpty = false := by decide +kernel
  obtain ⟨hgenerated, hscripts, -⟩ := ofGathered_of_not_isEmpty namelessFed [] plainSettings hk
  refine ⟨by decide, _, plan_reader_eq .., hgenerated, fun h => ?_⟩
  have hdefault : .addDefault ⟨"s", "t"⟩ "DF_t_a" "a" (ObjectName.mk "s" "").nextValueText ∈
      (createTables plainSettings.emitOptions
        (namelessFed.converted [] plainSettings)).script.statements := by decide +kernel
  have hcreated : .sequence ⟨"s", ""⟩ ∉ (createTypes plainSettings.emitOptions
      (namelessFed.converted [] plainSettings)).script.created := by decide +kernel
  have hreported : ∀ d ∈ (Plan.ofGathered plainSettings namelessFed.title
      (namelessFed.gathered [])).diagnostics, d.object ≠ "s.t.a" := by decide +kernel
  rcases (Plan.danglesNowhere_iff_emit hk hscripts).mp h _ hdefault _ _ (.sequence rfl) with
    hr | ⟨d, hd, hobject⟩
  · exact hcreated hr
  · exact hreported d hd hobject

end Snapshot

end SchemaTransfer
