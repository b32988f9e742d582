import EntitySql.Proofs.Metadata.Columns
import EntitySql.Proofs.Statement.LinkNames

/-! # Tables as the metadata declare them

The tables that an entity is created with, read off its metadata (`Schema.createStatements_asDeclared`): their names,
which dropping takes too, their columns, each of one type, and their primary keys. -/

namespace EntitySql
variable {n : Nat} {s : Schema n} {e owner : Entity n} {p : Property n} {t : TableDefinition}
  {type type' : ColumnType}

/-! ### Types -/

namespace Schema

/-- The type that the column of a property is declared with. -/
inductive Typed (s : Schema n) : Property n → ColumnType → Prop
  | declared {p : Property n} {text : String} (h : p.definition = some text) : Typed s p (.declared text)
  | ofData {p : Property n} {type : SqlType} (h : p.definition = none) (htype : p.type.sqlType? = some type) :
    Typed s p (.sql type)
  | enumerated {p : Property n} (h : p.definition = none)
    (hcontent : p.content = .scalar .entity ∨ p.content = .scalar .object) (henumerated : p.enumerated = true) :
    Typed s p (.sql .varchar)
  /-- A reference has the type of the identity that it refers to. -/
  | reference {p identity : Property n} {a : Association n} {type : ColumnType} (h : p.definition = none)
    (hcontent : p.content = .association a) (hidentity : (s.target a).identity = some identity)
    (htarget : Typed s identity type) : Typed s p type

theorem typed_of_columnTypeWithin {fuel : Nat} (h : s.columnTypeWithin fuel owner p = .ok type) : s.Typed p type := by
  induction fuel generalizing owner p with
  | zero => cases h
  | succ fuel ih =>
    unfold columnTypeWithin at h
    split at h
    · next definition hdefinition =>
      obtain rfl := Except.ok.inj h
      exact .declared hdefinition
    next hnone =>
    split at h
    · next found hfound =>
      obtain rfl := Except.ok.inj h
      exact .ofData hnone hfound
    next huntyped =>
    dsimp only at h
    split at h
    · next a hcontent =>
      split at h
      · next identity hidentity => exact .reference hnone hcontent hidentity (ih h)
      · cases h
    · cases h
    · next data hjson hcontent =>
      split at h
      · next henumerated =>
        obtain rfl := Except.ok.inj h
        refine .enumerated hnone ?_ henumerated
        rw [Property.type, hcontent] at huntyped
        cases data with
        | entity => exact .inl hcontent
        | object => exact .inr hcontent
        | json => exact absurd rfl hjson
        | _ => cases huntyped
      · cases h

theorem sqlType?_of_reference {a : Association n} (h : p.content = .association a) : p.type.sqlType? = none := by
  rw [Property.type, h]
  rfl

theorem sqlType?_of_structured (h : p.content = .scalar .entity ∨ p.content = .scalar .object) :
    p.type.sqlType? = none := by
  unfold Property.type
  rcases h with h | h <;> rw [h] <;> rfl

/-- A column has one type at most. -/
theorem Typed.unique (h : s.Typed p type) (h' : s.Typed p type') : type' = type := by
  induction h generalizing type' with
  | declared h =>
    cases h' with
    | declared h' => rw [Option.some.inj (h.symm.trans h')]
    | ofData h' | enumerated h' | reference h' => cases h.symm.trans h'
  | ofData h htype =>
    cases h' with
    | declared h' => cases h.symm.trans h'
    | ofData _ htype' => rw [Option.some.inj (htype.symm.trans htype')]
    | enumerated _ hcontent => cases htype.symm.trans (sqlType?_of_structured hcontent)
    | reference _ hcontent => cases htype.symm.trans (sqlType?_of_reference hcontent)
  | enumerated h hcontent =>
    cases h' with
    | declared h' => cases h.symm.trans h'
    | ofData _ htype => cases htype.symm.trans (sqlType?_of_structured hcontent)
    | enumerated => rfl
    | reference _ hcontent' => rcases hcontent with hcontent | hcontent <;> cases hcontent.symm.trans hcontent'
  | reference h hcontent hidentity _ ih =>
    cases h' with
    | declared h' => cases h.symm.trans h'
    | ofData _ htype => cases htype.symm.trans (sqlType?_of_reference hcontent)
    | enumerated _ hcontent' => rcases hcontent' with hcontent' | hcontent' <;> cases hcontent.symm.trans hcontent'
    | reference _ hcontent' hidentity' htarget' =>
      cases hcontent.symm.trans hcontent'
      cases hidentity.symm.trans hidentity'
      exact ih htarget'

end Schema

/-! ### Texts -/

/-- A column with its type, as it stands in a table without a primary key. -/
def ColumnDefinition.typedText (d : ColumnDefinition) : String := d.name ++ " " ++ d.type.text

theorem ColumnDefinition.map_text {columns : List ColumnDefinition} (h : ∀ d ∈ columns, d.primaryKey = false) :
    columns.map (·.text) = columns.map (·.typedText) := by
  refine List.map_congr_left fun d hd => ?_
  simp [text, typedText, h d hd]

/-- The statement that creates a table with these columns, and with a key behind them. -/
def createText (name : String) (columns : List String) (key : String) : String :=
  "CREATE TABLE " ++ name ++ " (" ++ ",".intercalate columns ++ key ++ ")"

theorem TableDefinition.text_eq (t : TableDefinition) : t.text = createText t.name (t.columns.map (·.text))
    (if t.compositeKey.isEmpty then "" else ", PRIMARY KEY(" ++ ",".intercalate t.compositeKey ++ ")") ++
      (if t.terminated then ";" else "") := rfl

namespace Schema

/-- The join table of an association: it has no key, and two columns with the types of the two identities. -/
inductive LinkTable (s : Schema n) (e : Entity n) (p : Property n) (t : TableDefinition) : Prop
  | intro {a : Association n} {identity targetIdentity : Property n} {columns : String × String}
    {type targetType : ColumnType} (ha : p.association? = some a)
    (hcolumns : s.joinTableColumns e p a = .ok columns)
    (hidentity : e.identity = some identity) (htype : s.Typed identity type)
    (htarget : (s.target a).identity = some targetIdentity) (htargetType : s.Typed targetIdentity targetType)
    (hname : t.name = e.quote (joinTableName e p a))
    (htext : t.text = createText t.name
      [e.quote columns.1 ++ " " ++ type.text, (s.target a).quote columns.2 ++ " " ++ targetType.text] "")

/-- A primary key of the identity's columns: behind the column of a plain identity, or behind all columns. -/
inductive Keyed (s : Schema n) (e : Entity n) (t : TableDefinition) : Prop
  | absent (h : e.identity = none) (htext : t.text = createText t.name (t.columns.map (·.typedText)) "" ++ ";")
  | inline {identity : Property n} {others : List ColumnDefinition} {key : ColumnDefinition}
    (h : e.identity = some identity) (hplain : identity.embedded? = none) (hcolumns : t.columns = others ++ [key])
    (hname : key.name = e.quote (e.columnName identity))
    (htext : t.text =
      createText t.name (others.map (·.typedText) ++ [key.typedText ++ " PRIMARY KEY"]) "" ++ ";")
  | composite {identity : Property n} {a : Association n} (h : e.identity = some identity)
    (hembedded : identity.embedded? = some a)
    (htext : t.text = createText t.name (t.columns.map (·.typedText))
      (", PRIMARY KEY(" ++ ",".intercalate
        ((s.target a).properties.map fun sub => e.quote (e.embeddedColumnName identity sub)) ++ ")") ++ ";")

/-- The entity's own table: one column for each of the entity's, in their order, of one type each. -/
structure OwnTable (s : Schema n) (e : Entity n) (t : TableDefinition) : Prop where
  name : t.name = e.tableName
  columns : List.Forall₂ (fun c d => d.name = c.text ∧ ∀ type, s.Typed c.property type ↔ type = d.type)
    (s.columns e) t.columns
  key : s.Keyed e t

variable {a : Association n} {own : TableDefinition}

theorem linkTable_of_definition (ha : p.association? = some a) (h : s.joinTableDefinition e p a = .ok t) :
    s.LinkTable e p t := by
  obtain ⟨columns, identity, targetIdentity, type, targetType, hcolumns, hidentity, htype, htarget, htargetType,
    rfl⟩ := joinTableDefinition_eq_ok h
  refine .intro ha hcolumns hidentity (typed_of_columnTypeWithin htype) htarget
    (typed_of_columnTypeWithin htargetType) rfl ?_
  rw [TableDefinition.text_eq, ColumnDefinition.map_text (by simp [LinkNames.definition])]
  simp [LinkNames.definition, linkNames, ColumnDefinition.typedText]

/-- A column is marked as the key when it is the one of a plain identity; those of an embedded one are listed. -/
theorem ownTableDefinition_key {embedded : Bool} (hembedded : e.identity.any (·.embedded?.isSome) = embedded)
    (h : s.ownTableDefinition e = .ok own) :
    own.columns.map (fun d => (d.name, d.primaryKey)) =
      (s.columns e).map (fun c => (c.text, c.identity && !embedded)) ∧
    own.compositeKey = (if embedded then ((s.columns e).filter (·.identity)).map (·.text) else []) ∧
    own.terminated = true := by
  subst hembedded
  simp only [ownTableDefinition, Outcome.bind_eq_ok, Outcome.pure_eq_ok] at h
  obtain ⟨columns, hcolumns, rfl⟩ := h
  refine ⟨?_, rfl, rfl⟩
  rw [← List.forall₂_eq_eq_eq, List.forall₂_map_left_iff, List.forall₂_map_right_iff]
  refine (Outcome.mapM_eq_ok.1 hcolumns).flip.imp fun d c hdefinition => ?_
  obtain ⟨type, -, hd⟩ := Outcome.bind_eq_ok.1 hdefinition
  rw [← Outcome.pure_eq_ok.1 hd]

theorem unmarked_of_map {columns : List ColumnDefinition} {cs : List (Column n)} {mark : Column n → Bool}
    (h : columns.map (fun d => (d.name, d.primaryKey)) = cs.map fun c => (c.text, mark c))
    (hcs : ∀ c ∈ cs, mark c = false) : ∀ d ∈ columns, d.primaryKey = false := by
  intro d hd
  have hmem : (d.name, d.primaryKey) ∈ cs.map fun c => (c.text, mark c) := h ▸ List.mem_map_of_mem hd
  obtain ⟨c, hc, heq⟩ := List.mem_map.1 hmem
  exact (Prod.mk.inj heq).2 ▸ hcs c hc

theorem keyed_absent (h : s.ownTableDefinition e = .ok own) (hid : e.identity = none) : s.Keyed e own := by
  obtain ⟨others, hcolumns, hothers⟩ := s.columns_eq_append e
  have hflag : e.identity.any (·.embedded?.isSome) = false := by simp [hid]
  obtain ⟨hmarks, hkey, hterminated⟩ := ownTableDefinition_key hflag h
  rw [hcolumns, hid, Option.toList_none, List.flatMap_nil, List.append_nil] at hmarks
  have hunmarked := unmarked_of_map hmarks fun c hc => by simp [hothers c hc]
  have htext := own.text_eq
  rw [hkey, hterminated, ColumnDefinition.map_text hunmarked] at htext
  exact .absent hid htext

theorem keyed_inline {identity : Property n} (h : s.ownTableDefinition e = .ok own) (hid : e.identity = some identity)
    (hforeign : identity.isForeignKey = false) (hplain : identity.embedded? = none) : s.Keyed e own := by
  obtain ⟨others, hcolumns, hothers⟩ := s.columns_eq_append e
  have hflag : e.identity.any (·.embedded?.isSome) = false := by simp [hid, hplain]
  obtain ⟨hmarks, hkey, hterminated⟩ := ownTableDefinition_key hflag h
  have hown : s.columnsOf e true identity =
      [⟨identity.name, e.quote (e.columnName identity), identity, true⟩] := by simp [columnsOf, hforeign, hplain]
  rw [hcolumns, hid, Option.toList_some, List.flatMap_singleton, hown, List.map_append, List.map_eq_append_iff]
    at hmarks
  obtain ⟨before, keys, hsplit, hbefore, hkeys⟩ := hmarks
  obtain ⟨key, rfl, hmarked⟩ := List.map_eq_singleton_iff.1 hkeys
  obtain ⟨hname, hprimary⟩ := Prod.mk.inj hmarked
  have hunmarked := unmarked_of_map hbefore fun c hc => by simp [hothers c hc]
  have hkeyText : key.text = key.typedText ++ " PRIMARY KEY" := by
    rw [ColumnDefinition.text, hprimary]
    rfl
  have htext := own.text_eq
  rw [hkey, hterminated, hsplit, List.map_append, List.map_singleton, hkeyText, ColumnDefinition.map_text hunmarked]
    at htext
  exact .inline hid hplain hsplit hname htext

theorem keyed_composite {identity : Property n} (h : s.ownTableDefinition e = .ok own)
    (hid : e.identity = some identity) (hforeign : identity.isForeignKey = false)
    (hembedded : identity.embedded? = some a) (hinner : (s.target a).properties ≠ []) : s.Keyed e own := by
  obtain ⟨others, hcolumns, hothers⟩ := s.columns_eq_append e
  have hflag : e.identity.any (·.embedded?.isSome) = true := by simp [hid, hembedded]
  obtain ⟨hmarks, hkey, hterminated⟩ := ownTableDefinition_key hflag h
  have hown : s.columnsOf e true identity = (s.target a).properties.map fun sub =>
      ⟨identity.name ++ "." ++ sub.name, e.quote (e.embeddedColumnName identity sub), sub, true⟩ := by
    simp [columnsOf, hforeign, hembedded]
  have hfront : others.filter (·.identity) = [] := by simpa using hothers
  have hback : (s.columnsOf e true identity).filter (·.identity) = s.columnsOf e true identity :=
    List.filter_eq_self.2 fun c hc => (mem_columnsOf hc).2.1
  have hlisted : own.compositeKey =
      (s.target a).properties.map fun sub => e.quote (e.embeddedColumnName identity sub) := by
    rw [hkey, if_pos rfl, hcolumns, hid, Option.toList_some, List.flatMap_singleton, List.filter_append, hfront,
      hback, hown, List.nil_append, List.map_map]
    rfl
  have hunmarked := unmarked_of_map hmarks fun c _ => by simp
  have htext := own.text_eq
  rw [hlisted, hterminated, ColumnDefinition.map_text hunmarked, if_neg (by simpa using hinner)] at htext
  exact .composite hid hembedded htext

theorem ownTable_of_definition (h : s.ownTableDefinition e = .ok own)
    (hidentity : ∀ identity ∈ e.identity, identity.isForeignKey = false ∧
      ∀ a, identity.embedded? = some a → (s.target a).properties ≠ []) : s.OwnTable e own where
  name := ownTableDefinition_name h
  columns := by
    refine (ownTableDefinition_columns h).imp fun c d hd => ⟨hd.1, fun type => ?_⟩
    have htyped : s.Typed c.property d.type := typed_of_columnTypeWithin hd.2
    exact ⟨htyped.unique, fun heq => heq ▸ htyped⟩
  key := by
    cases hid : e.identity with
    | none => exact keyed_absent h hid
    | some identity =>
      obtain ⟨hforeign, hinner⟩ := hidentity identity hid
      cases hembedded : identity.embedded? with
      | none => exact keyed_inline h hid hforeign hembedded
      | some a => exact keyed_composite h hid hforeign hembedded (hinner a hembedded)

/-- The tables of an entity are created as its metadata declare them: a join table for each association that has
one, in the order of the associations, and then the own table. Dropping takes the same tables in the same order. -/
theorem createStatements_asDeclared {created : List String} (h : s.createStatements e = .ok created)
    (hidentity : ∀ identity ∈ e.identity, identity.isForeignKey = false ∧
      ∀ a, identity.embedded? = some a → (s.target a).properties ≠ []) :
    ∃ links own,
      List.Forall₂ (s.LinkTable e) e.joinTableProperties links ∧ s.OwnTable e own ∧
      created = (links ++ [own]).map (·.text) ∧
      e.dropStatements = (links ++ [own]).map (·.dropText) := by
  obtain ⟨tables, htables, rfl⟩ := Outcome.map_eq_ok.1 h
  obtain ⟨links, own, hown, hlinks, rfl⟩ := tableDefinitions_eq_ok htables
  refine ⟨links, own, ?_, ownTable_of_definition hown hidentity, rfl, dropStatements_eq htables⟩
  exact hlinks.imp fun p t ⟨a, ha, hdefinition⟩ => linkTable_of_definition ha hdefinition

/-- Lines of orders, which the order and a number identify. -/
def orderLines : Schema 2 where
  entity
    | 0 => {
      name := "OrderLine"
      naming := .underscored
      identity := some { name := "key", content := .association { kind := .embedded, target := Fin.last 1 } }
      properties := [{ name := "amount", content := .scalar .bigDecimal, definition := some "DECIMAL(9,2)" }] }
    | 1 => {
      name := "LineKey"
      properties := [
        { name := "order", content := .scalar .long },
        { name := "number", content := .scalar .integer }] }

/-- The genres of books are linked by a table without a key, and the lines of orders have a key of two columns. -/
theorem createStatements_asDeclared_orderLines :
    (∃ links own,
      List.Forall₂ (quotedGenres.LinkTable (quotedGenres.entity 0)) (quotedGenres.entity 0).joinTableProperties
        links ∧
      quotedGenres.OwnTable (quotedGenres.entity 0) own ∧
      (links ++ [own]).map (·.text) =
        ["CREATE TABLE book_genres (book_id BIGINT,\x60genre_id\x60 BIGINT)",
          "CREATE TABLE book (id BIGINT PRIMARY KEY);"] ∧
      (links ++ [own]).map (·.dropText) = ["DROP TABLE book_genres;", "DROP TABLE book;"]) ∧
    ∃ links own, orderLines.OwnTable (orderLines.entity 0) own ∧
      (links ++ [own]).map (·.text) =
        ["CREATE TABLE order_line (amount DECIMAL(9,2),key_order BIGINT,key_number INT, " ++
          "PRIMARY KEY(key_order,key_number));"] ∧
      (links ++ [own]).map (·.dropText) = ["DROP TABLE order_line;"] := by
  have hbooks : (quotedGenres.createStatements (quotedGenres.entity 0)).toOption =
      some ["CREATE TABLE book_genres (book_id BIGINT,\x60genre_id\x60 BIGINT)",
        "CREATE TABLE book (id BIGINT PRIMARY KEY);"] := by decide +kernel
  have hlines : (orderLines.createStatements (orderLines.entity 0)).toOption =
      some ["CREATE TABLE order_line (amount DECIMAL(9,2),key_order BIGINT,key_number INT, " ++
        "PRIMARY KEY(key_order,key_number));"] := by decide +kernel
  obtain ⟨links, own, hlinks, hown, hcreated, hdropped⟩ :=
    createStatements_asDeclared (Outcome.eq_ok_of_toOption hbooks) (by decide +kernel)
  obtain ⟨links', own', -, hown', hcreated', hdropped'⟩ :=
    createStatements_asDeclared (Outcome.eq_ok_of_toOption hlines) (by decide +kernel)
  refine ⟨⟨links, own, hlinks, hown, hcreated.symm, hdropped.symm.trans ?_⟩,
    links', own', hown', hcreated'.symm, hdropped'.symm.trans ?_⟩ <;> decide +kernel

end Schema

end EntitySql
