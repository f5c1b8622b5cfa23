import SchemaTransfer.Proofs.Statement.Reading

/-!
# Names and texts stay between their quotes

For the statements whose every name and text is quoted, the text is read by the lexical rules of
the target as the statement was meant: the words of its kind, and its own names and texts in
their order. So no name or text ends its quotes early, and statements of one kind with different
names or texts have different texts.
-/

namespace SchemaTransfer

/-- An object without its names. -/
def ObjectName.blank : ObjectName := ⟨"", ""⟩

/-- A key without its names: how many columns it has, and their directions. -/
def KeyDefinition.outline (key : KeyDefinition) : KeyDefinition :=
  ⟨.blank, "", key.columns.map fun c => ⟨"", c.direction⟩⟩

/-- A foreign key without its names: how many columns it has, and its actions. -/
def ReferenceDefinition.outline (r : ReferenceDefinition) : ReferenceDefinition :=
  ⟨.blank, "", r.columns.map fun _ => "", .blank, r.refColumns.map fun _ => "", r.actions⟩

/-- One action for all that are written alike. -/
def ReferentialAction.standardized : ReferentialAction → ReferentialAction
  | restrict => noAction
  | action => action

/-- The actions, with one for all that are written alike. -/
def ActionClause.standardized (clause : ActionClause) : ActionClause :=
  ⟨clause.onDelete.standardized, clause.onUpdate.standardized⟩

namespace Part

/-- The names and texts of the statement in a part. -/
def contents : Part → List String
  | name text => [text]
  | literal text => [text]
  | lookup object => object.names
  | _ => []

/-- A part without the names and texts of the statement. -/
def outline : Part → Part
  | name _ => name ""
  | literal _ => literal ""
  | lookup _ => lookup .blank
  | p => p

/-! ## Lists of parts -/

theorem all_separated {f : Part → Bool} (hcomma : f (words ", ") = true) {items : List (List Part)}
    (h : ∀ x ∈ items, x.all f = true) : (separated items).all f = true := by
  fun_induction separated items with
  | case1 => rfl
  | case2 x => exact h x (List.mem_singleton_self x)
  | case3 x y rest ih =>
    have hx := h x List.mem_cons_self
    have hrest := ih fun z hz => h z (List.mem_cons_of_mem x hz)
    rw [List.all_append, List.all_cons, hx, hcomma, hrest]
    rfl

theorem outline_separated (items : List (List Part)) :
    (separated items).map outline = separated (items.map (·.map outline)) := by
  fun_induction separated items with
  | case1 => rfl
  | case2 x => rfl
  | case3 x y rest ih => simpa [separated, outline] using ih

@[simp] theorem all_keys (columns : List IndexColumn) : (keys columns).all isReadable = true := by
  refine all_separated rfl fun x hx => ?_
  obtain ⟨⟨name, direction⟩, -, rfl⟩ := List.mem_map.mp hx
  cases direction <;> simp [isReadable, Lexeme.isDelimiter, SortDirection.keyword]

@[simp] theorem all_names (columns : List String) : (names columns).all isReadable = true := by
  refine all_separated rfl fun x hx => ?_
  obtain ⟨column, -, rfl⟩ := List.mem_map.mp hx
  rfl

@[simp] theorem all_actions (actions? : Option ActionClause) :
    (actions actions?).all isReadable = true := by
  rcases actions? with - | ⟨onDelete, onUpdate⟩
  · rfl
  · cases onDelete <;> cases onUpdate <;> rfl

@[simp] theorem all_described (column : Option String) :
    (described column).all isReadable = true := by
  cases column <;> rfl

@[simp] theorem outline_keys (columns : List IndexColumn) :
    (keys columns).map outline = keys (columns.map fun c => ⟨"", c.direction⟩) := by
  simp [keys, outline_separated, outline, Function.comp_def]

@[simp] theorem outline_names (columns : List String) :
    (names columns).map outline = names (columns.map fun _ => "") := by
  simp [names, outline_separated, outline, Function.comp_def]

@[simp] theorem outline_actions (actions? : Option ActionClause) :
    (actions actions?).map outline = actions actions? := by
  cases actions? <;> rfl

@[simp] theorem contents_keys (columns : List IndexColumn) :
    (keys columns).flatMap contents = columns.map (·.name) := by
  simp [keys, flatMap_separated (f := contents) (fun _ => rfl), contents, List.flatMap_map,
    ← List.map_eq_flatMap]

@[simp] theorem contents_names (columns : List String) :
    (names columns).flatMap contents = columns := by
  simp [names, flatMap_separated (f := contents) (fun _ => rfl), contents, List.flatMap_map]

@[simp] theorem contents_actions (actions? : Option ActionClause) :
    (actions actions?).flatMap contents = [] := by
  cases actions? <;> rfl

/-! ## Lists are told apart by what they are read as -/

/-- Items that begin with a name and end where their own lexemes do. -/
structure SelfDelimiting {α : Type} (f : α → List Part) : Prop where
  starts (a : α) : ∃ text tail, (f a).flatMap lexemes = .name text :: tail
  ends {a b : α} {r r' : List Lexeme}
    (h : (f a).flatMap lexemes ++ r = (f b).flatMap lexemes ++ r') : a = b ∧ r = r'

/-- Separated items are told apart, and so is what follows the parenthesis after them. -/
theorem SelfDelimiting.separated_inj {α : Type} {f : α → List Part} (hf : SelfDelimiting f)
    {as bs : List α} {r r' : List Lexeme}
    (h : (separated (as.map f)).flatMap lexemes ++ .mark ')' :: r =
      (separated (bs.map f)).flatMap lexemes ++ .mark ')' :: r') : as = bs ∧ r = r' := by
  induction as generalizing bs with
  | nil =>
    cases bs with
    | nil => simpa [separated] using h
    | cons b bs =>
      obtain ⟨text, tail, hb⟩ := hf.starts b
      cases bs <;> simp [separated, hb] at h
  | cons a as ih =>
    cases bs with
    | nil =>
      obtain ⟨text, tail, ha⟩ := hf.starts a
      cases as <;> simp [separated, ha] at h
    | cons b bs =>
      -- The first items agree; a comma or a parenthesis tells whether another one follows.
      cases as with
      | nil =>
        cases bs with
        | nil =>
          obtain ⟨rfl, hrest⟩ := hf.ends (by simpa [separated] using h)
          exact ⟨rfl, (List.cons.inj hrest).2⟩
        | cons c bs =>
          obtain ⟨-, hrest⟩ := hf.ends (by simpa [separated] using h)
          simp [lexemes, Lexeme.marks] at hrest
      | cons d as =>
        cases bs with
        | nil =>
          obtain ⟨-, hrest⟩ := hf.ends (by simpa [separated] using h)
          simp [lexemes, Lexeme.marks] at hrest
        | cons c bs =>
          obtain ⟨rfl, hrest⟩ := hf.ends (by simpa [separated] using h)
          have htail : (separated ((d :: as).map f)).flatMap lexemes ++ .mark ')' :: r =
              (separated ((c :: bs).map f)).flatMap lexemes ++ .mark ')' :: r' := by
            simpa [lexemes] using hrest
          obtain ⟨hitems, hr⟩ := ih htail
          exact ⟨by rw [hitems], hr⟩

private theorem selfDelimiting_key :
    SelfDelimiting fun c : IndexColumn =>
      [name c.name, words " ", words c.direction.keyword] where
  starts c := ⟨c.name, _, rfl⟩
  ends {a b r r'} h := by
    obtain ⟨aname, adirection⟩ := a
    obtain ⟨bname, bdirection⟩ := b
    cases adirection <;> cases bdirection <;>
      simp_all [lexemes, Lexeme.marks, SortDirection.keyword]

private theorem selfDelimiting_name : SelfDelimiting fun c : String => [name c] where
  starts c := ⟨c, _, rfl⟩
  ends {a b r r'} h := by simpa [lexemes] using h

/-- Objects are told apart by their schemas and names. -/
theorem object_inj {n m : ObjectName} {r r' : List Lexeme} :
    (object n).flatMap lexemes ++ r = (object m).flatMap lexemes ++ r' ↔ n = m ∧ r = r' := by
  obtain ⟨nschema, nname⟩ := n
  obtain ⟨mschema, mname⟩ := m
  simp [object, lexemes, and_assoc]

/-- Keys are told apart by their names and directions. -/
theorem keys_inj {as bs : List IndexColumn} {r r' : List Lexeme} :
    (keys as).flatMap lexemes ++ .mark ')' :: r = (keys bs).flatMap lexemes ++ .mark ')' :: r' ↔
      as = bs ∧ r = r' :=
  ⟨selfDelimiting_key.separated_inj, fun ⟨hs, hr⟩ => by rw [hs, hr]⟩

/-- Lists of columns are told apart by their names. -/
theorem names_inj {as bs : List String} {r r' : List Lexeme} :
    (names as).flatMap lexemes ++ .mark ')' :: r = (names bs).flatMap lexemes ++ .mark ')' :: r' ↔
      as = bs ∧ r = r' :=
  ⟨selfDelimiting_name.separated_inj, fun ⟨hs, hr⟩ => by rw [hs, hr]⟩

/-- An action is told apart from those that are written otherwise. -/
private theorem phrase_inj {a b : ReferentialAction} {r r' : List Lexeme}
    (h : Lexeme.marks a.phrase ++ r = Lexeme.marks b.phrase ++ r') :
    a.standardized = b.standardized ∧ r = r' := by
  cases a <;> cases b <;>
    simp_all [Lexeme.marks, ReferentialAction.phrase, ReferentialAction.standardized]

/-- The actions of a foreign key are told apart from those that are written otherwise. -/
theorem actions_inj {a b : Option ActionClause}
    (h : (actions a).flatMap lexemes ++ Lexeme.marks ";" =
      (actions b).flatMap lexemes ++ Lexeme.marks ";") :
    a.map ActionClause.standardized = b.map ActionClause.standardized := by
  rcases a with - | ⟨aDelete, aUpdate⟩ <;> rcases b with - | ⟨bDelete, bUpdate⟩
  · rfl
  · simp [actions, lexemes, Lexeme.marks] at h
  · simp [actions, lexemes, Lexeme.marks] at h
  · simp only [actions, List.flatMap_cons, List.flatMap_nil, lexemes, List.append_nil,
      List.append_assoc, List.append_cancel_left_eq] at h
    obtain ⟨hdelete, h⟩ := phrase_inj h
    obtain ⟨hupdate, -⟩ := phrase_inj (List.append_cancel_left h)
    simp [ActionClause.standardized, hdelete, hupdate]

end Part

namespace Statement

/-- Whether every name and text of a statement is written between quotes. -/
def isQuoted : Statement → Bool
  | useDatabase _ | createSchema _ | dropType _ | dropSequence _ | dropTable _ | truncateTable _
  | addDescription _ _ _ | addPrimaryKey _ | addUnique _ | createIndex _ | addForeignKey _
  | dropForeignKey _ _ => true
  | _ => false

/-- The names and texts of a quoted statement, in the order in which they are written. An object
that is looked up before it is dropped is named twice. -/
def contents : Statement → List String
  | useDatabase name => [name]
  | createSchema name => [name]
  | dropType name => name.names ++ name.names
  | dropSequence name => name.names ++ name.names
  | dropTable name => name.names ++ name.names
  | truncateTable name => name.names
  | addDescription table column text => text :: table.names ++ column.toList
  | addPrimaryKey key => key.table.names ++ key.name :: key.columns.map (·.name)
  | addUnique key => key.table.names ++ key.name :: key.columns.map (·.name)
  | createIndex key => key.name :: key.table.names ++ key.columns.map (·.name)
  | addForeignKey r =>
    r.table.names ++ r.constraint :: r.columns ++ r.referenced.names ++ r.refColumns
  | dropForeignKey table constraint => [table.schema, constraint] ++ table.names ++ [constraint]
  | _ => []

/-- A quoted statement without its names and texts: its kind, whether it describes a column, how
many columns it lists, their directions and its actions. -/
def outline : Statement → Statement
  | useDatabase _ => useDatabase ""
  | createSchema _ => createSchema ""
  | dropType _ => dropType .blank
  | dropSequence _ => dropSequence .blank
  | dropTable _ => dropTable .blank
  | truncateTable _ => truncateTable .blank
  | addDescription _ column _ => addDescription .blank (column.map fun _ => "") ""
  | addPrimaryKey key => addPrimaryKey key.outline
  | addUnique key => addUnique key.outline
  | createIndex key => createIndex key.outline
  | addForeignKey r => addForeignKey r.outline
  | dropForeignKey _ _ => dropForeignKey .blank ""
  | s => s

/-- The statement with one action for all that are written alike. -/
def standardized : Statement → Statement
  | addForeignKey r => addForeignKey { r with actions := r.actions.map ActionClause.standardized }
  | s => s

private theorem isReadable_indexOptions : Part.isReadable (.words indexOptions) = true := by
  decide +kernel

/-- The words of a quoted statement hold no quotes. -/
theorem all_isReadable_parts {s : Statement} (hs : s.isQuoted = true) :
    s.parts.all Part.isReadable = true := by
  cases s with
  | useDatabase name => rfl
  | createSchema name => rfl
  | dropType name => rfl
  | dropSequence name => rfl
  | dropTable name => rfl
  | truncateTable name => rfl
  | addDescription table column text =>
    simp only [parts, List.all_append, Part.all_described]
    rfl
  | addPrimaryKey key =>
    simp only [parts, List.all_append, List.all_cons, Part.all_keys]
    rfl
  | addUnique key =>
    simp only [parts, List.all_append, List.all_cons, Part.all_keys]
    rfl
  | createIndex key =>
    simp only [parts, List.all_append, List.all_cons, Part.all_keys, isReadable_indexOptions]
    rfl
  | addForeignKey r =>
    simp only [parts, List.all_append, List.all_cons, Part.all_names, Part.all_actions]
    rfl
  | dropForeignKey table constraint => rfl
  | _ => cases hs

/-- Without its names and texts, the text of a quoted statement depends on its outline alone. -/
theorem outline_parts {s : Statement} (hs : s.isQuoted = true) :
    s.parts.map Part.outline = s.outline.parts := by
  cases s with
  | useDatabase name => rfl
  | createSchema name => rfl
  | dropType name => rfl
  | dropSequence name => rfl
  | dropTable name => rfl
  | truncateTable name => rfl
  | addDescription table column text => cases column <;> rfl
  | addPrimaryKey key =>
    simp [parts, outline, Part.constraint, Part.object, Part.outline, KeyDefinition.outline,
      ObjectName.blank]
  | addUnique key =>
    simp [parts, outline, Part.constraint, Part.object, Part.outline, KeyDefinition.outline,
      ObjectName.blank]
  | createIndex key =>
    simp [parts, outline, Part.object, Part.outline, KeyDefinition.outline, ObjectName.blank]
  | addForeignKey r =>
    simp [parts, outline, Part.constraint, Part.object, Part.outline,
      ReferenceDefinition.outline, ObjectName.blank]
  | dropForeignKey table constraint => rfl
  | _ => cases hs

/-- The parts of a quoted statement hold its names and texts in order. -/
theorem contents_parts {s : Statement} (hs : s.isQuoted = true) :
    s.parts.flatMap Part.contents = s.contents := by
  cases s with
  | useDatabase name => rfl
  | createSchema name => rfl
  | dropType name => rfl
  | dropSequence name => rfl
  | dropTable name => rfl
  | truncateTable name => rfl
  | addDescription table column text => cases column <;> rfl
  | addPrimaryKey key =>
    simp [parts, contents, Part.constraint, Part.object, Part.contents, ObjectName.names]
  | addUnique key =>
    simp [parts, contents, Part.constraint, Part.object, Part.contents, ObjectName.names]
  | createIndex key => simp [parts, contents, Part.object, Part.contents, ObjectName.names]
  | addForeignKey r =>
    simp [parts, contents, Part.constraint, Part.object, Part.contents, ObjectName.names]
  | dropForeignKey table constraint => rfl
  | _ => cases hs

/-! ## Main statement -/

/-- The text of a quoted statement is read as its parts. -/
theorem read?_text {s : Statement} (hs : s.isQuoted = true) :
    Lexeme.read? s.text.toList = some (s.parts.flatMap Part.lexemes) := by
  rw [← text_parts]
  exact Part.read?_text fun p hp => List.all_eq_true.mp (all_isReadable_parts hs) p hp

/-- The words after a list of columns start with its closing parenthesis. -/
private theorem marks_close :
    Lexeme.marks ");" = .mark ')' :: Lexeme.marks ";" ∧
      Lexeme.marks ") WITH (" = .mark ')' :: Lexeme.marks " WITH (" ∧
      Lexeme.marks ") REFERENCES " = .mark ')' :: Lexeme.marks " REFERENCES " ∧
      Lexeme.marks ")" = [.mark ')'] := by
  simp [Lexeme.marks]

/-- A description of a table is told apart from one of a column. -/
private theorem described_inj {a b : Option String} :
    (Part.described a).flatMap Part.lexemes ++ Lexeme.marks ";" =
      (Part.described b).flatMap Part.lexemes ++ Lexeme.marks ";" ↔ a = b := by
  cases a <;> cases b <;> simp [Part.described, Part.lexemes, Lexeme.marks]

/-- Whether a statement is quoted depends on its kind alone. -/
private theorem isQuoted_of_ctorIdx_eq {s t : Statement} (hs : s.isQuoted = true)
    (hkind : t.ctorIdx = s.ctorIdx) : t.isQuoted = true := by
  cases t with
  | beginTransaction | commitTransaction | setOption | createType | createSequence
  | createTable | addDefault => cases s <;> first | cases hkind; done | cases hs
  | _ => rfl

/-- Statements of one kind that are read alike are the same up to actions written alike. -/
private theorem standardized_eq {s t : Statement} (hs : s.isQuoted = true)
    (hkind : t.ctorIdx = s.ctorIdx)
    (h : t.parts.flatMap Part.lexemes = s.parts.flatMap Part.lexemes) :
    t.standardized = s.standardized := by
  obtain ⟨hend, hoptions, hreferences, hclose⟩ := marks_close
  cases s with
  | useDatabase name =>
    cases t with
    | useDatabase other =>
      obtain rfl : other = name := by simpa [parts, Part.lexemes] using h
      rfl
    | _ => cases hkind
  | createSchema name =>
    cases t with
    | createSchema other =>
      obtain rfl : other = name := by simpa [parts, Part.lexemes] using h
      rfl
    | _ => cases hkind
  | dropType name =>
    cases t with
    | dropType other =>
      obtain ⟨-, rfl⟩ : other.text = name.text ∧ other = name := by
        simpa [parts, Part.lexemes, Part.object_inj, -List.append_cancel_right_eq] using h
      rfl
    | _ => cases hkind
  | dropSequence name =>
    cases t with
    | dropSequence other =>
      obtain ⟨-, rfl⟩ : other.text = name.text ∧ other = name := by
        simpa [parts, Part.lexemes, Part.object_inj, -List.append_cancel_right_eq] using h
      rfl
    | _ => cases hkind
  | dropTable name =>
    cases t with
    | dropTable other =>
      obtain ⟨-, rfl⟩ : other.text = name.text ∧ other = name := by
        simpa [parts, Part.lexemes, Part.object_inj, -List.append_cancel_right_eq] using h
      rfl
    | _ => cases hkind
  | truncateTable name =>
    cases t with
    | truncateTable other =>
      obtain rfl : other = name := by
        simpa [parts, Part.lexemes, Part.object_inj, -List.append_cancel_right_eq] using h
      rfl
    | _ => cases hkind
  | addDescription table column text =>
    cases t with
    | addDescription table' column' text' =>
      obtain ⟨schema, name⟩ := table
      obtain ⟨schema', name'⟩ := table'
      obtain ⟨rfl, rfl, rfl, rfl⟩ :
          text' = text ∧ schema' = schema ∧ name' = name ∧ column' = column := by
        simpa [parts, Part.lexemes, described_inj, -List.append_cancel_right_eq] using h
      rfl
    | _ => cases hkind
  | addPrimaryKey key =>
    cases t with
    | addPrimaryKey other =>
      obtain ⟨table, name, columns⟩ := key
      obtain ⟨table', name', columns'⟩ := other
      obtain ⟨rfl, rfl, rfl⟩ : table' = table ∧ name' = name ∧ columns' = columns := by
        simpa [parts, Part.constraint, Part.lexemes, Part.object_inj, Part.keys_inj, hend,
          -List.append_cancel_right_eq] using h
      rfl
    | _ => cases hkind
  | addUnique key =>
    cases t with
    | addUnique other =>
      obtain ⟨table, name, columns⟩ := key
      obtain ⟨table', name', columns'⟩ := other
      obtain ⟨rfl, rfl, rfl⟩ : table' = table ∧ name' = name ∧ columns' = columns := by
        simpa [parts, Part.constraint, Part.lexemes, Part.object_inj, Part.keys_inj, hend,
          -List.append_cancel_right_eq] using h
      rfl
    | _ => cases hkind
  | createIndex key =>
    cases t with
    | createIndex other =>
      obtain ⟨table, name, columns⟩ := key
      obtain ⟨table', name', columns'⟩ := other
      obtain ⟨rfl, rfl, rfl⟩ : name' = name ∧ table' = table ∧ columns' = columns := by
        simpa [parts, Part.lexemes, Part.object_inj, Part.keys_inj, hoptions,
          -List.append_cancel_right_eq] using h
      rfl
    | _ => cases hkind
  | addForeignKey r =>
    cases t with
    | addForeignKey q =>
      obtain ⟨table, constraint, columns, referenced, refColumns, actions⟩ := r
      obtain ⟨table', constraint', columns', referenced', refColumns', actions'⟩ := q
      obtain ⟨rfl, rfl, rfl, rfl, rfl, hactions⟩ :
          table' = table ∧ constraint' = constraint ∧ columns' = columns ∧
            referenced' = referenced ∧ refColumns' = refColumns ∧
            (Part.actions actions').flatMap Part.lexemes ++ Lexeme.marks ";" =
              (Part.actions actions).flatMap Part.lexemes ++ Lexeme.marks ";" := by
        simpa [parts, Part.constraint, Part.lexemes, Part.object_inj, Part.names_inj, hreferences,
          hclose, -List.append_cancel_right_eq] using h
      simp only [standardized, Part.actions_inj hactions]
    | _ => cases hkind
  | dropForeignKey table constraint =>
    cases t with
    | dropForeignKey table' constraint' =>
      obtain ⟨-, rfl, rfl⟩ :
          (ObjectName.mk table'.schema constraint').text =
              (ObjectName.mk table.schema constraint).text ∧
            table' = table ∧ constraint' = constraint := by
        simpa [parts, Part.lexemes, Part.object_inj, -List.append_cancel_right_eq] using h
      rfl
    | _ => cases hkind
  | _ => cases hs

/-- A quoted statement is read as it was meant. Its text is that of its parts; without the names
and texts they depend on its outline alone, and they hold exactly its names and texts in order. A
literal that looks an object up is read again as the schema and the name. So statements of one
kind with the same text have the same names and texts, lists, directions and actions, up to
actions that are written alike. -/
theorem read?_text_of_isQuoted (s : Statement) (hs : s.isQuoted = true) :
    Lexeme.read? s.text.toList = some (s.parts.flatMap Part.lexemes) ∧
      s.parts.map Part.outline = s.outline.parts ∧
      s.parts.flatMap Part.contents = s.contents ∧
      (∀ object, Part.lookup object ∈ s.parts →
        Lexeme.read? object.text.toList =
          some [.name object.schema, .mark '.', .name object.name]) ∧
      ∀ t : Statement, t.ctorIdx = s.ctorIdx → t.text = s.text →
        t.standardized = s.standardized := by
  refine ⟨read?_text hs, outline_parts hs, contents_parts hs,
    fun object _ => Part.read?_objectText object, fun t hkind htext => ?_⟩
  have ht : t.isQuoted = true := isQuoted_of_ctorIdx_eq hs hkind
  refine standardized_eq hs hkind (Option.some.inj ?_)
  rw [← read?_text ht, ← read?_text hs, htext]

/-- A table whose names hold closing marks and a line break. -/
theorem read?_text_of_dropTable :
    (dropTable ⟨"a]b", "it's\n"⟩).isQuoted = true ∧
      Lexeme.read? (dropTable ⟨"a]b", "it's\n"⟩).text.toList =
        some ((dropTable ⟨"a]b", "it's\n"⟩).parts.flatMap Part.lexemes) ∧
      (dropTable ⟨"a]b", "it's\n"⟩).parts.flatMap Part.contents =
        ["a]b", "it's\n", "a]b", "it's\n"] :=
  have h := read?_text_of_isQuoted (dropTable ⟨"a]b", "it's\n"⟩) rfl
  ⟨rfl, h.1, h.2.2.1⟩

end Statement

end SchemaTransfer
