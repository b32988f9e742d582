import EntitySql.Proofs.Query.JoinAliases
import EntitySql.Proofs.Statement.Tables
import EntitySql.Statement.Insert

/-! # Names of join tables

Three kinds of statements name a join table and its two columns: the one that creates it, the INSERT of its
rows and the queries that join it. They agree on the table and on the owner's column. The target's column is
quoted as the target quotes its identifiers where it is created, and as the owner does elsewhere, so that they
agree on it if and only if both do alike (`Schema.linkTable_named`). The two columns have one name when the
two entities have the same foreign key column, unless the association declares columns. -/

namespace EntitySql
variable {n : Nat}

/-- What a statement calls a join table and its columns. -/
structure LinkNames where
  table : String
  ownerColumn : String
  targetColumn : String
deriving DecidableEq, Repr

namespace LinkNames

/-- The table that is created. -/
def definition (names : LinkNames) (ownerType targetType : ColumnType) : TableDefinition where
  name := names.table
  columns := [⟨names.ownerColumn, ownerType, false⟩, ⟨names.targetColumn, targetType, false⟩]
  terminated := false

def insertText (names : LinkNames) : String :=
  "INSERT INTO " ++ names.table ++ " (" ++ names.ownerColumn ++ "," ++ names.targetColumn ++ ") VALUES (?, ?)"

/-- The clause that joins the table to its owner. -/
def ownerClause (names : LinkNames) (kind : JoinKind) (linkAlias ownerAlias identity : String) : JoinClause :=
  ⟨kind, names.table, linkAlias, ownerAlias, identity, names.ownerColumn⟩

/-- The clause that joins the target to the table. -/
def targetClause (names : LinkNames) (kind : JoinKind) (target targetAlias linkAlias identity : String) :
    JoinClause :=
  ⟨kind, target, targetAlias, linkAlias, names.targetColumn, identity⟩

end LinkNames

/-! ### Quotes -/

theorem quoteIdentifier_ne (name : String) : quoteIdentifier name ≠ name := by
  intro h
  have hlength := congrArg (·.toList.length) h
  simp only [quoteIdentifier, String.toList_append, List.length_append] at hlength
  have hquote : "\x60".toList.length = 1 := rfl
  omega

theorem Entity.quote_inj (e : Entity n) {name name' : String} : e.quote name = e.quote name' ↔ name = name' := by
  unfold quote
  split
  · simp [quoteIdentifier, ← String.toList_inj]
  · rfl

theorem Entity.quote_eq_quote {e e' : Entity n} {name : String} :
    e.quote name = e'.quote name ↔ e.escape = e'.escape := by
  unfold quote
  cases e.escape <;> cases e'.escape <;> simp [quoteIdentifier_ne, (quoteIdentifier_ne _).symm]

namespace Schema
variable {s : Schema n} {owner : Entity n} {p : Property n} {a : Association n}

/-- The names of an association's join table in a statement that quotes the target's column as `quoting`
does. -/
def linkNames (owner quoting : Entity n) (p : Property n) (a : Association n) (columns : String × String) :
    LinkNames :=
  ⟨owner.quote (joinTableName owner p a), owner.quote columns.1, quoting.quote columns.2⟩

/-- An association declares two columns or none. -/
theorem joinTableColumns_cases {columns : String × String} (h : s.joinTableColumns owner p a = .ok columns) :
    ((a.joinTable.map (·.columns)).getD [] = [] ∧
      columns = (owner.naming.foreignKeyColumn owner.name, owner.naming.foreignKeyColumn (s.target a).name)) ∨
    (a.joinTable.map (·.columns)).getD [] = [columns.1, columns.2] := by
  simp only [joinTableColumns, Outcome.bind_eq_ok] at h
  obtain ⟨-, -, -, -, h⟩ := h
  split at h
  · next hnone => exact .inl ⟨hnone, (Outcome.pure_eq_ok.1 h).symm⟩
  · next hdeclared =>
    obtain rfl := Outcome.pure_eq_ok.1 h
    exact .inr hdeclared
  · cases h

theorem linkedIdentity_eq_ok {e : Entity n} {identity : Property n} (h : linkedIdentity e = .ok identity) :
    e.identity = some identity := by
  unfold linkedIdentity at h
  split at h
  · next found => exact found.trans (congrArg some (Except.ok.inj h))
  · cases h

/-- The columns of a join table have the types of the two identities. -/
theorem joinTableDefinition_eq_ok {t : TableDefinition} (h : s.joinTableDefinition owner p a = .ok t) :
    ∃ columns identity targetIdentity ownerType targetType,
      s.joinTableColumns owner p a = .ok columns ∧
      owner.identity = some identity ∧ s.columnType owner identity = .ok ownerType ∧
      (s.target a).identity = some targetIdentity ∧
      s.columnType (s.target a) targetIdentity = .ok targetType ∧
      t = (linkNames owner (s.target a) p a columns).definition ownerType targetType := by
  simp only [joinTableDefinition, Outcome.bind_eq_ok, Outcome.pure_eq_ok, Prod.exists] at h
  obtain ⟨identity, hidentity, targetIdentity, htarget, ownerColumn, targetColumn, hcolumns, ownerType,
    hownerType, targetType, htargetType, rfl⟩ := h
  exact ⟨_, _, _, _, _, hcolumns, linkedIdentity_eq_ok hidentity, hownerType, linkedIdentity_eq_ok htarget,
    htargetType, rfl⟩

theorem joinTableInsert_text {inserted : Template} {columns : String × String} (ha : p.association? = some a)
    (hcolumns : s.joinTableColumns owner p a = .ok columns) (h : s.joinTableInsert owner p = .ok inserted) :
    inserted.text = (linkNames owner owner p a columns).insertText := by
  unfold joinTableInsert at h
  split at h
  · cases h
  · next a' ha' =>
    obtain rfl : a = a' := Option.some.inj (ha.symm.trans (Option.filter_eq_some_iff.1 ha').1)
    rw [hcolumns] at h
    obtain rfl := Except.ok.inj h
    rfl

/-- Both clauses that join a target by way of a join table are in the text. -/
theorem writeJoin_linkClauses {kind : JoinKind} {point : JoinPoint n} {tableAlias : String} {j j' : Joins n}
    {columns : String × String} {identity targetIdentity : Property n} (hlink : a.isJoinTable = true)
    (hcolumns : s.joinTableColumns point.entity p a = .ok columns)
    (hidentity : point.entity.identity = some identity) (htarget : (s.target a).identity = some targetIdentity)
    (h : s.writeJoin kind point p a tableAlias j = .ok j') :
    let names := linkNames point.entity point.entity p a columns
    let linkAlias := tableAlias ++ joinTableName point.entity p a ++ "_"
    (names.ownerClause kind linkAlias point.tableAlias
      (point.entity.quote (point.entity.columnName identity))).text.toList <:+: j'.text.toList ∧
    (names.targetClause kind (s.target a).tableName tableAlias linkAlias
      (point.entity.quote ((s.target a).columnName targetIdentity))).text.toList <:+: j'.text.toList := by
  simp only [Association.isJoinTable, Bool.and_eq_true, Option.isNone_iff_eq_none] at hlink
  obtain ⟨found, hfound, ⟨hforeign, -⟩ | ⟨ownerIdentity, -, howner, hcases⟩⟩ := writeJoin_cases h
  · rw [hforeign] at hlink
    cases hlink.1
  obtain rfl := Option.some.inj (hfound.symm.trans htarget)
  obtain rfl := Option.some.inj (howner.symm.trans hidentity)
  rcases hcases with ⟨name, -, hmapped, -⟩ | ⟨columns', -, hcolumns', rfl⟩
  · rw [hmapped] at hlink
    cases hlink.2
  obtain rfl := Except.ok.inj (hcolumns'.symm.trans hcolumns)
  refine ⟨?_, Joins.text_infix_push _ _⟩
  exact (Joins.text_infix_push j _).trans (Joins.text_isPrefix
    ((Joins.pushBlank_isPrefix _).trans (Joins.push_isPrefix _ _))).isInfix

theorem linkNames_eq_linkNames {columns : String × String} :
    linkNames owner (s.target a) p a columns = linkNames owner owner p a columns ↔
      (s.target a).escape = owner.escape := by
  simp only [linkNames, LinkNames.mk.injEq, true_and]
  exact Entity.quote_eq_quote

/-- The columns have one name when it was declared so, or when nothing was declared and both entities have
the same foreign key column. -/
theorem linkColumns_eq_iff {columns : String × String} (h : s.joinTableColumns owner p a = .ok columns) :
    (linkNames owner owner p a columns).ownerColumn = (linkNames owner owner p a columns).targetColumn ↔
      (∃ column, (a.joinTable.map (·.columns)).getD [] = [column, column]) ∨
      (a.joinTable.map (·.columns)).getD [] = [] ∧
        owner.naming.foreignKeyColumn owner.name = owner.naming.foreignKeyColumn (s.target a).name := by
  refine (owner.quote_inj).trans ?_
  rcases joinTableColumns_cases h with ⟨hnone, rfl⟩ | hdeclared
  · simp [hnone]
  · rw [hdeclared]
    constructor
    · intro heq
      exact .inl ⟨columns.1, by rw [← heq]⟩
    · rintro (⟨column, hcolumn⟩ | ⟨hnone, -⟩)
      · simp only [List.cons.injEq, and_true] at hcolumn
        exact hcolumn.1.trans hcolumn.2.symm
      · cases hnone

/-- A join table has one name in the statement that creates it, in the INSERT of its rows and in the two
clauses of a join, and so has the column of its owner. The column of its target has one name in the latter
two, and another one where it is created if only one of the entities quotes its identifiers. -/
theorem linkTable_named {k : Nat} {created : List String} {inserted : Template} {kind : JoinKind}
    {point : JoinPoint n} {tableAlias : String} {j j' : Joins n}
    (hp : owner.joinTableProperties[k]? = some p) (ha : p.association? = some a)
    (hcreate : s.createStatements owner = .ok created) (hinsert : s.joinTableInsert owner p = .ok inserted)
    (hpoint : point.entity = owner) (hjoin : s.writeJoin kind point p a tableAlias j = .ok j') :
    ∃ columns identity targetIdentity ownerType targetType,
      s.joinTableColumns owner p a = .ok columns ∧
      owner.identity = some identity ∧ s.columnType owner identity = .ok ownerType ∧
      (s.target a).identity = some targetIdentity ∧
      s.columnType (s.target a) targetIdentity = .ok targetType ∧
      let names := linkNames owner owner p a columns
      let namesCreated := linkNames owner (s.target a) p a columns
      let linkAlias := tableAlias ++ joinTableName owner p a ++ "_"
      created[k]? = some (namesCreated.definition ownerType targetType).text ∧
      inserted.text = names.insertText ∧
      (names.ownerClause kind linkAlias point.tableAlias
        (owner.quote (owner.columnName identity))).text.toList <:+: j'.text.toList ∧
      (names.targetClause kind (s.target a).tableName tableAlias linkAlias
        (owner.quote ((s.target a).columnName targetIdentity))).text.toList <:+: j'.text.toList ∧
      (namesCreated = names ↔ (s.target a).escape = owner.escape) ∧
      (names.ownerColumn = names.targetColumn ↔
        (∃ column, (a.joinTable.map (·.columns)).getD [] = [column, column]) ∨
        (a.joinTable.map (·.columns)).getD [] = [] ∧
          owner.naming.foreignKeyColumn owner.name = owner.naming.foreignKeyColumn (s.target a).name) := by
  subst hpoint
  have hlink : a.isJoinTable = true := by
    have hmem := (List.mem_filter.1 (List.mem_of_getElem? hp)).2
    simpa [ha] using hmem
  obtain ⟨t, hdefinition, hcreated⟩ := createStatements_joinTable hcreate hp ha
  obtain ⟨columns, identity, targetIdentity, ownerType, targetType, hcolumns, hidentity, hownerType, htarget,
    htargetType, rfl⟩ := joinTableDefinition_eq_ok hdefinition
  obtain ⟨hownerClause, htargetClause⟩ := writeJoin_linkClauses hlink hcolumns hidentity htarget hjoin
  exact ⟨columns, identity, targetIdentity, ownerType, targetType, hcolumns, hidentity, hownerType, htarget,
    htargetType, hcreated, joinTableInsert_text ha hcolumns hinsert, hownerClause, htargetClause,
    linkNames_eq_linkNames, linkColumns_eq_iff hcolumns⟩

def novelGenres : Association 3 := { kind := .manyToMany, target := Fin.last 2 }

/-- Novels and their genres, where nothing is quoted: everything is named alike. -/
theorem linkTable_named_novels : ∃ (created : List String) (inserted : Template) (j : Joins 3),
    let novel := novels.entity 0
    let genres : Property 3 := { name := "genres", content := .association novelGenres }
    let names : LinkNames := ⟨"novel_genres", "novel_id", "genre_id"⟩
    novel.joinTableProperties[0]? = some genres ∧ genres.association? = some novelGenres ∧
    novels.createStatements novel = .ok created ∧ novels.joinTableInsert novel genres = .ok inserted ∧
    novels.writeJoin .fetch ⟨"novel_", novel, []⟩ genres novelGenres "genres_" {} = .ok j ∧
    (∃ ownerType targetType, created[0]? = some (names.definition ownerType targetType).text) ∧
    inserted.text = names.insertText ∧
    (names.ownerClause .fetch "genres_novel_genres_" "novel_" "id").text.toList <:+: j.text.toList ∧
    (names.targetClause .fetch "genre" "genres_" "genres_novel_genres_" "id").text.toList <:+:
      j.text.toList := by
  have hcreate : (novels.createStatements (novels.entity 0)).toOption.isSome = true := by decide +kernel
  have hinsert : (novels.joinTableInsert (novels.entity 0)
    { name := "genres", content := .association novelGenres }).toOption.isSome = true := by decide +kernel
  have hjoin : (novels.writeJoin .fetch ⟨"novel_", novels.entity 0, []⟩
    { name := "genres", content := .association novelGenres } novelGenres "genres_" {}).toOption.isSome =
      true := by decide +kernel
  obtain ⟨created, hcreated⟩ := Option.isSome_iff_exists.1 hcreate
  obtain ⟨inserted, hinserted⟩ := Option.isSome_iff_exists.1 hinsert
  obtain ⟨j, hjoined⟩ := Option.isSome_iff_exists.1 hjoin
  have hcreated := Outcome.eq_ok_of_toOption hcreated
  have hinserted := Outcome.eq_ok_of_toOption hinserted
  have hjoined := Outcome.eq_ok_of_toOption hjoined
  have hp : (novels.entity 0).joinTableProperties[0]? =
      some { name := "genres", content := .association novelGenres } := by decide
  obtain ⟨columns, identity, targetIdentity, ownerType, targetType, hcolumns, hidentity, -, htarget, -,
    hcreate, hinsert, hownerClause, htargetClause, -⟩ :=
    linkTable_named hp rfl hcreated hinserted rfl hjoined
  have hdeclared : (novels.joinTableColumns (novels.entity 0)
    { name := "genres", content := .association novelGenres } novelGenres).toOption =
      some ("novel_id", "genre_id") := by decide +kernel
  obtain rfl := Except.ok.inj (hcolumns.symm.trans (Outcome.eq_ok_of_toOption hdeclared))
  have hnames : ∀ quoting : Fin 3, linkNames (novels.entity 0) (novels.entity quoting)
      { name := "genres", content := .association novelGenres } novelGenres ("novel_id", "genre_id") =
        ⟨"novel_genres", "novel_id", "genre_id"⟩ := by decide +kernel
  rw [hnames 0] at hinsert hownerClause htargetClause
  rw [show novels.target novelGenres = novels.entity 2 from rfl, hnames 2] at hcreate
  obtain rfl := Option.some.inj hidentity
  obtain rfl := Option.some.inj htarget
  have halias : "genres_" ++ joinTableName (novels.entity 0)
      { name := "genres", content := .association novelGenres } novelGenres ++ "_" = "genres_novel_genres_" := by
    decide +kernel
  rw [halias] at hownerClause htargetClause
  exact ⟨created, inserted, j, hp, rfl, hcreated, hinserted, hjoined, ⟨_, _, hcreate⟩, hinsert, hownerClause,
    htargetClause⟩

/-- Books whose genres are quoted. -/
def quotedGenres : Schema 2 where
  entity
    | 0 => {
      name := "Book"
      identity := some { name := "id", content := .scalar .long }
      properties := [{ name := "genres", content := .association { kind := .manyToMany, target := Fin.last 1 } }] }
    | 1 => {
      name := "Genre"
      escape := true
      identity := some { name := "id", content := .scalar .long } }

/-- Persons with friends. -/
def friendships : Schema 1 where
  entity _ := {
    name := "Person"
    identity := some { name := "id", content := .scalar .long }
    properties := [{ name := "friends", content := .association { kind := .manyToMany, target := Fin.last 0 } }] }

/-- The column of the genre is created under another name than rows are inserted and joined with. The column
of a person has the name of the column of the friend. -/
theorem linkTable_misnamed :
    let book := quotedGenres.entity 0
    let genres : Association 2 := { kind := .manyToMany, target := 1 }
    let linked : Property 2 := { name := "genres", content := .association genres }
    let person := friendships.entity 0
    let friends : Property 1 :=
      { name := "friends", content := .association { kind := .manyToMany, target := 0 } }
    (quotedGenres.createStatements book).toOption = some
      ["CREATE TABLE book_genres (book_id BIGINT,\x60genre_id\x60 BIGINT)",
        "CREATE TABLE book (id BIGINT PRIMARY KEY);"] ∧
    (quotedGenres.joinTableInsert book linked).toOption.map (·.text) =
      some "INSERT INTO book_genres (book_id,genre_id) VALUES (?, ?)" ∧
    (quotedGenres.writeJoin .inner ⟨"book_", book, []⟩ linked genres "genres_" {}).toOption.map (·.text) = some
      (" INNER JOIN book_genres genres_book_genres_ ON book_.id=genres_book_genres_.book_id " ++
        " INNER JOIN \x60genre\x60 genres_ ON genres_book_genres_.genre_id=genres_.id") ∧
    (friendships.createStatements person).toOption = some
      ["CREATE TABLE person_friends (person_id BIGINT,person_id BIGINT)",
        "CREATE TABLE person (id BIGINT PRIMARY KEY);"] ∧
    (friendships.joinTableInsert person friends).toOption.map (·.text) =
      some "INSERT INTO person_friends (person_id,person_id) VALUES (?, ?)" := by
  decide +kernel

end Schema

end EntitySql
