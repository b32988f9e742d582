import EntitySql.Proofs.Query.JoinScope
import EntitySql.Proofs.Text.Blanks

/-! # Aliases of joined tables

Every alias that a compiled SELECT qualifies a column with is introduced in it: by the FROM clause, or by a
JOIN clause, which for the condition of a join is the clause itself or one that stands before it
(`Schema.query_introducesAliases`). A clause is left out where the text already holds it. As long as
identifiers have no blanks, the text is then made of the same words there, and the table has its alias by a
clause that was written before (`JoinPiece.exists_of_words_infix`). -/

namespace EntitySql
variable {n : Nat}

/-! ### Identifiers without blanks -/

/-- The identifiers that the declaration of a property gives. -/
def Property.identifiers (p : Property n) : List String :=
  p.name :: p.column.toList ++
    (p.association?.bind (·.joinTable)).toList.flatMap fun table => table.name.toList ++ table.columns

def Entity.identifiers (e : Entity n) : List String :=
  e.name :: e.schema.toList ++ e.table.toList ++
    (e.properties ++ e.identity.toList).flatMap (·.identifiers)

def Entity.HasBlanklessNames (e : Entity n) : Prop := ∀ name ∈ e.identifiers, Blankless name

instance (e : Entity n) : Decidable e.HasBlanklessNames :=
  inferInstanceAs (Decidable (∀ name ∈ e.identifiers, Blankless name))

/-- No identifier of an entity and no explicit alias has a blank. -/
structure Schema.HasBlanklessNames (s : Schema n) (m : QueryModel n) : Prop where
  entities : ∀ e, s.Knows m.root e → e.HasBlanklessNames
  aliases : ∀ join ∈ m.joins, ∀ tableAlias ∈ join.explicitAlias, Blankless tableAlias

theorem Blankless.pathAlias {path : String} (h : Blankless path) : Blankless (pathAlias path) := by
  refine append_iff.2 ⟨.snakeCase ?_, by decide⟩
  unfold Blankless at h ⊢
  rw [String.toList_ofList]
  intro hmem
  obtain ⟨c, hc, hblank⟩ := List.mem_map.1 hmem
  split at hblank
  · cases hblank
  · exact h (hblank ▸ hc)

theorem Blankless.quote (e : Entity n) {name : String} (h : Blankless name) : Blankless (e.quote name) := by
  unfold Entity.quote
  split
  · exact h.quoteIdentifier
  · exact h

namespace Entity.HasBlanklessNames
variable {e : Entity n} {p : Property n}

section
variable (he : e.HasBlanklessNames)
include he

theorem name : Blankless e.name := he _ (by simp [identifiers])

theorem rootAlias : Blankless e.rootAlias :=
  Blankless.append_iff.2 ⟨he.name.decapitalize.snakeCase, by decide⟩

theorem tableName : Blankless e.tableName := by
  have hbase : Blankless e.baseTable := by
    unfold baseTable
    cases htable : e.table with
    | none => exact .entityTable _ he.name
    | some table => exact he _ (by simp [identifiers, htable])
  unfold Entity.tableName
  split
  · next schema hschema =>
    have hname : Blankless schema := he _ (by simp [identifiers, hschema])
    exact Blankless.append_iff.2 ⟨Blankless.append_iff.2 ⟨.quote e hname, by decide⟩, .quote e hbase⟩
  · exact .quote e hbase

variable (hp : p ∈ e.properties ++ e.identity.toList)
include hp

theorem of_property {name : String} (h : name ∈ p.identifiers) : Blankless name :=
  he _ (List.mem_append_right _ (List.mem_flatMap.2 ⟨p, hp, h⟩))

theorem propertyName : Blankless p.name :=
  he.of_property hp (by simp [Property.identifiers])

theorem columnName : Blankless (e.columnName p) := by
  unfold Entity.columnName Property.columnName
  split
  · next column hcolumn => exact he.of_property hp (by simp [Property.identifiers, hcolumn])
  · split
    · exact .referenceColumn _ (he.propertyName hp)
    · exact .columnName _ (he.propertyName hp)

variable {a : Association n} (ha : p.association? = some a)
include ha

theorem joinTableName : Blankless (Schema.joinTableName e p a) := by
  unfold Schema.joinTableName
  cases hname : a.joinTable.bind (·.name) with
  | none => exact .joinTable _ he.name (he.propertyName hp)
  | some name =>
    obtain ⟨table, htable, hname⟩ := Option.bind_eq_some_iff.1 hname
    exact he.of_property hp (by simp [Property.identifiers, ha, htable, hname])

theorem joinTableColumns {s : Schema n} (htarget : (s.target a).HasBlanklessNames) {columns : String × String}
    (h : s.joinTableColumns e p a = .ok columns) :
    Blankless columns.1 ∧ Blankless columns.2 := by
  simp only [Schema.joinTableColumns, Outcome.bind_eq_ok] at h
  obtain ⟨-, -, -, -, h⟩ := h
  split at h
  · obtain rfl := Outcome.pure_eq_ok.1 h
    exact ⟨.foreignKeyColumn _ he.name, .foreignKeyColumn _ htarget.name⟩
  · next ownerColumn targetColumn hcolumns =>
    obtain rfl := Outcome.pure_eq_ok.1 h
    cases htable : a.joinTable with
    | none => simp [htable] at hcolumns
    | some table =>
      have hcolumns : table.columns = [ownerColumn, targetColumn] := by simpa [htable] using hcolumns
      exact ⟨he.of_property hp (by simp [Property.identifiers, ha, htable, hcolumns]),
        he.of_property hp (by simp [Property.identifiers, ha, htable, hcolumns])⟩
  · cases h

end

end Entity.HasBlanklessNames

/-! ### Words of joins -/

def JoinKind.words : JoinKind → List (List Char)
  | left | leftFetch => ["LEFT".toList, "JOIN".toList]
  | right | rightFetch => ["RIGHT".toList, "JOIN".toList]
  | outer => ["FULL".toList, "OUTER".toList, "JOIN".toList]
  | inner | fetch => ["INNER".toList, "JOIN".toList]

theorem JoinKind.words_eq (kind : JoinKind) :
    ∃ first, kind.words = first ++ ["JOIN".toList] ∧ "JOIN".toList ∉ first := by
  cases kind with
  | left | leftFetch => exact ⟨["LEFT".toList], rfl, by decide⟩
  | right | rightFetch => exact ⟨["RIGHT".toList], rfl, by decide⟩
  | outer => exact ⟨["FULL".toList, "OUTER".toList], rfl, by decide⟩
  | inner | fetch => exact ⟨["INNER".toList], rfl, by decide⟩

/-- `<onAlias>.<onColumn>=<alias>.<column>` -/
def JoinClause.condition (c : JoinClause) : String :=
  c.onAlias ++ "." ++ c.onColumn ++ "=" ++ c.tableAlias ++ "." ++ c.column

namespace JoinPiece

/-- The words of a piece, each with a blank in front of it in the text. -/
def words : JoinPiece → List (List Char)
  | clause c => c.kind.words ++ [c.table.toList, c.tableAlias.toList, "ON".toList, c.condition.toList]
  | blank => [[]]

theorem text_eq_words (piece : JoinPiece) : piece.text.toList = ' ' :: Text.joinWith ' ' piece.words := by
  cases piece with
  | blank => rfl
  | clause c =>
    obtain ⟨kind, table, tableAlias, onAlias, onColumn, column⟩ := c
    cases kind <;>
      simp [text, JoinClause.text, JoinKind.keyword, words, JoinKind.words, JoinClause.condition,
        Text.joinWith]

theorem blank_notMem_words {piece : JoinPiece} (h : ∀ name ∈ piece.names, Blankless name) :
    ∀ word ∈ piece.words, ' ' ∉ word := by
  cases piece with
  | blank => simp [words]
  | clause c =>
    simp only [names, List.forall_mem_cons] at h
    obtain ⟨htable, halias, honAlias, honColumn, hcolumn, -⟩ := h
    have hcondition : Blankless c.condition := by
      simp only [JoinClause.condition, Blankless.append_iff, halias, honAlias, honColumn, hcolumn]
      decide
    intro word hword
    simp only [words, List.mem_append, List.mem_cons, List.not_mem_nil, or_false] at hword
    rcases hword with hword | rfl | rfl | rfl | rfl
    · have hkeyword : ∀ kind : JoinKind, ∀ word ∈ kind.words, ' ' ∉ word := by
        intro kind
        cases kind <;> decide
      exact hkeyword c.kind word hword
    · exact htable
    · exact halias
    · decide
    · exact hcondition

/-- Words of a text that goes on with joins. -/
theorem pieces_append_text {joins : List JoinPiece}
    (h : ∀ piece ∈ joins, ∀ name ∈ piece.names, Blankless name) (before : List Char) :
    Text.pieces ' ' (before ++ (String.join (joins.map (·.text))).toList) =
      Text.pieces ' ' before ++ joins.flatMap (·.words) := by
  induction joins generalizing before with
  | nil => simp
  | cons piece joins ih =>
    have hwords : piece.words ≠ [] := by
      cases piece <;> simp [words]
    have htext : (String.join ((piece :: joins).map (·.text))).toList =
        piece.text.toList ++ (String.join (joins.map (·.text))).toList := by
      simp [String.toList_join]
    rw [htext, ← List.append_assoc, ih (fun piece hpiece => h piece (List.mem_cons_of_mem _ hpiece)),
      text_eq_words, Text.pieces_append_sep,
      Text.pieces_joinWith hwords (blank_notMem_words (h piece List.mem_cons_self)), List.flatMap_cons,
      List.append_assoc]

theorem infix_of_skip {pattern skipped text : List (List Char)} {word : List Char}
    (h : word :: pattern <:+: skipped ++ text) (hskipped : word ∉ skipped) : word :: pattern <:+: text := by
  induction skipped with
  | nil => exact h
  | cons other skipped ih =>
    simp only [List.mem_cons, not_or] at hskipped
    rw [List.cons_append, List.infix_cons_iff, List.cons_prefix_cons] at h
    rcases h with ⟨hother, -⟩ | h
    · exact absurd hother hskipped.1
    · exact ih h hskipped.2

theorem words_ne_on (joins : List JoinPiece) : ¬ ["ON".toList] <+: joins.flatMap (·.words) := by
  cases joins with
  | nil => simp
  | cons piece joins =>
    rcases piece with ⟨kind, _⟩ | _
    · cases kind <;> simp [words, JoinKind.words]
    · simp [words]

/-- The words that give a table its alias stand only in a clause that does so. -/
theorem exists_of_words_infix {joins : List JoinPiece} {table tableAlias : List Char}
    (h : ["JOIN".toList, table, tableAlias, "ON".toList] <:+: joins.flatMap (·.words)) :
    ∃ c, clause c ∈ joins ∧ c.table.toList = table ∧ c.tableAlias.toList = tableAlias := by
  induction joins with
  | nil => simp at h
  | cons piece joins ih =>
    have hlater : ["JOIN".toList, table, tableAlias, "ON".toList] <:+: joins.flatMap (·.words) →
        ∃ c, clause c ∈ piece :: joins ∧ c.table.toList = table ∧ c.tableAlias.toList = tableAlias :=
      fun h =>
        have ⟨c, hc, hnames⟩ := ih h
        ⟨c, List.mem_cons_of_mem _ hc, hnames⟩
    rw [List.flatMap_cons] at h
    cases piece with
    | blank => exact hlater (infix_of_skip h (by decide))
    | clause c =>
      obtain ⟨first, hwords, hfirst⟩ := c.kind.words_eq
      have hcondition : '.' ∈ c.condition.toList := by simp [JoinClause.condition]
      rw [words, hwords, List.append_assoc, List.append_assoc] at h
      have h := infix_of_skip h hfirst
      simp only [List.cons_append, List.nil_append] at h
      rcases List.infix_cons_iff.1 h with h | h
      · simp only [List.cons_prefix_cons, true_and] at h
        exact ⟨c, List.mem_cons_self, h.1.symm, h.2.1.symm⟩
      -- names may read like keywords, but the condition that follows them does not
      rcases List.infix_cons_iff.1 h with h | h
      · simp only [List.cons_prefix_cons] at h
        rw [← h.2.2.2.1] at hcondition
        exact absurd hcondition (by decide)
      rcases List.infix_cons_iff.1 h with h | h
      · simp only [List.cons_prefix_cons] at h
        exact absurd h.2.2.2 (words_ne_on joins)
      · have hrest : "JOIN".toList ∉ ["ON".toList, c.condition.toList] := by
          simp only [List.mem_cons, List.not_mem_nil, or_false, not_or]
          refine ⟨by decide, fun hjoin => ?_⟩
          rw [← hjoin] at hcondition
          exact absurd hcondition (by decide)
        exact hlater (infix_of_skip h hrest)

end JoinPiece

/-! ### Introduced aliases -/

def JoinPiece.introduced? : JoinPiece → Option String
  | clause c => some c.tableAlias
  | blank => none

/-- The aliases that JOIN clauses introduce, in the order of the text. -/
def introducedAliases (joins : List JoinPiece) : List String := joins.filterMap (·.introduced?)

theorem mem_introducedAliases {joins : List JoinPiece} {tableAlias : String} :
    tableAlias ∈ introducedAliases joins ↔ ∃ c, .clause c ∈ joins ∧ c.tableAlias = tableAlias := by
  simp only [introducedAliases, List.mem_filterMap]
  constructor
  · rintro ⟨piece, hpiece, halias⟩
    cases piece with
    | blank => cases halias
    | clause c => exact ⟨c, hpiece, Option.some.inj halias⟩
  · rintro ⟨c, hc, rfl⟩
    exact ⟨.clause c, hc, rfl⟩

/-- The alias is that of the FROM clause, or a JOIN clause introduces it. -/
def Introduces (rootAlias : String) (joins : List JoinPiece) (tableAlias : String) : Prop :=
  tableAlias = rootAlias ∨ tableAlias ∈ introducedAliases joins

theorem Introduces.mono {rootAlias tableAlias : String} {joins joins' : List JoinPiece}
    (h : Introduces rootAlias joins tableAlias) (hextends : joins <+: joins') :
    Introduces rootAlias joins' tableAlias :=
  h.imp_right fun hmem => (hextends.filterMap _).subset hmem

namespace Joins

/-- The clauses have no blanks in their names, and refer to aliases that are introduced before them. -/
structure Closed (rootAlias : String) (j : Joins n) : Prop where
  names : ∀ piece ∈ j.pieces, ∀ name ∈ piece.names, Blankless name
  clauses : ∀ before c after, j.pieces = before ++ .clause c :: after →
    c.onAlias = c.tableAlias ∨ Introduces rootAlias before c.onAlias

variable {rootAlias : String} {j : Joins n}

/-- A clause introduces its alias also where it is left out. -/
theorem push_introduces {c : JoinClause} (hnames : ∀ piece ∈ j.pieces, ∀ name ∈ piece.names, Blankless name)
    (hc : ∀ name ∈ (JoinPiece.clause c).names, Blankless name) :
    Introduces rootAlias (j.push c).pieces c.tableAlias := by
  refine .inr (mem_introducedAliases.2 ?_)
  unfold push
  split
  · next hcontains =>
    -- the clause may end in the middle of a word, but not before the blank behind ON
    obtain ⟨start, rest, htext⟩ := Text.contains_iff.1 hcontains
    obtain ⟨keyword, condition, hclause⟩ := c.givesAlias_text
    simp only [JoinPiece.names, List.forall_mem_cons] at hc
    have hwords : ∀ word ∈ ["JOIN".toList, c.table.toList, c.tableAlias.toList, "ON".toList], ' ' ∉ word := by
      simp only [List.forall_mem_cons]
      exact ⟨by decide, hc.1, hc.2.1, by decide, by simp⟩
    have hsplit : j.text.toList = (start ++ keyword) ++ ' ' ::
        (Text.joinWith ' ' ["JOIN".toList, c.table.toList, c.tableAlias.toList, "ON".toList] ++
          ' ' :: (condition ++ rest)) := by
      rw [htext, ← hclause]
      simp [Text.joinWith]
    have hpieces := JoinPiece.pieces_append_text hnames []
    rw [List.nil_append, show String.join (j.pieces.map (·.text)) = j.text from rfl, hsplit,
      Text.pieces_append_sep, Text.pieces_append_sep, Text.pieces_joinWith (by simp) hwords] at hpieces
    have hinfix : ["JOIN".toList, c.table.toList, c.tableAlias.toList, "ON".toList] <:+:
        [[]] ++ j.pieces.flatMap (·.words) := ⟨_, _, (List.append_assoc _ _ _).trans hpieces⟩
    obtain ⟨c', hc', -, halias⟩ :=
      JoinPiece.exists_of_words_infix (JoinPiece.infix_of_skip hinfix (by decide))
    exact ⟨c', hc', String.toList_inj.1 halias⟩
  · exact ⟨c, by simp, rfl⟩

theorem push_isPrefix (j : Joins n) (c : JoinClause) : j.pieces <+: (j.push c).pieces := by
  unfold push
  split
  · exact List.prefix_rfl
  · exact List.prefix_append _ _

theorem pushBlank_isPrefix (j : Joins n) : j.pieces <+: j.pushBlank.pieces := List.prefix_append _ _

theorem text_isPrefix {j' : Joins n} (h : j.pieces <+: j'.pieces) : j.text.toList <+: j'.text.toList := by
  obtain ⟨more, hmore⟩ := h
  simp only [text, ← hmore, List.map_append, String.join_append, String.toList_append]
  exact List.prefix_append _ _

/-- The text of a clause is there once it is written, also when it was there before. -/
theorem text_infix_push (j : Joins n) (c : JoinClause) : c.text.toList <:+: (j.push c).text.toList := by
  unfold push
  split
  · next hcontains =>
    obtain ⟨before, after, htext⟩ := Text.contains_iff.1 hcontains
    exact ⟨before, after, htext.symm⟩
  · refine List.IsSuffix.isInfix ⟨j.text.toList, ?_⟩
    simp [text, JoinPiece.text]

theorem last_or_earlier {pieces before after : List JoinPiece} {last piece : JoinPiece}
    (h : pieces ++ [last] = before ++ piece :: after) :
    (pieces = before ∧ last = piece) ∨ ∃ after', pieces = before ++ piece :: after' := by
  rcases List.eq_nil_or_concat after with rfl | ⟨after, piece', rfl⟩
  · exact .inl (by simpa using List.append_inj' h rfl)
  · refine .inr ⟨after, ?_⟩
    rw [List.concat_eq_append, ← List.cons_append, ← List.append_assoc] at h
    exact (List.append_inj' h rfl).1

theorem Closed.push {c : JoinClause} (hj : j.Closed rootAlias)
    (hc : ∀ name ∈ (JoinPiece.clause c).names, Blankless name)
    (hon : Introduces rootAlias j.pieces c.onAlias) : (j.push c).Closed rootAlias := by
  unfold Joins.push
  split
  · exact hj
  constructor
  · intro piece hpiece
    rcases List.mem_append.1 hpiece with hpiece | hpiece
    · exact hj.names piece hpiece
    · exact List.mem_singleton.1 hpiece ▸ hc
  · intro before c' after hsplit
    rcases last_or_earlier hsplit with ⟨rfl, hlast⟩ | ⟨after', hearlier⟩
    · obtain rfl := JoinPiece.clause.inj hlast
      exact .inr hon
    · exact hj.clauses before c' after' hearlier

theorem Closed.pushBlank (hj : j.Closed rootAlias) : j.pushBlank.Closed rootAlias := by
  constructor
  · intro piece hpiece
    rcases List.mem_append.1 hpiece with hpiece | hpiece
    · exact hj.names piece hpiece
    · simp [List.mem_singleton.1 hpiece, JoinPiece.names]
  · intro before c after hsplit
    rcases last_or_earlier hsplit with ⟨-, hlast⟩ | ⟨after', hearlier⟩
    · cases hlast
    · exact hj.clauses before c after' hearlier

end Joins

/-! ### Following paths -/

namespace Schema
variable {s : Schema n} {m : QueryModel n} {j j' : Joins n}

theorem writeJoin_introduces {rootAlias : String} {kind : JoinKind} {point : JoinPoint n} {p : Property n}
    {a : Association n} {tableAlias : String} (hj : j.Closed rootAlias)
    (howner : point.entity.HasBlanklessNames) (htarget : (s.target a).HasBlanklessNames)
    (hp : p ∈ point.entity.properties ++ point.entity.identity.toList) (ha : p.association? = some a)
    (hon : Blankless point.tableAlias) (halias : Blankless tableAlias)
    (hpoint : Introduces rootAlias j.pieces point.tableAlias)
    (h : s.writeJoin kind point p a tableAlias j = .ok j') :
    j'.Closed rootAlias ∧ Introduces rootAlias j'.pieces tableAlias ∧ j.pieces <+: j'.pieces := by
  have hnames : ∀ {table tableAlias onAlias onColumn column : String}, Blankless table →
      Blankless tableAlias → Blankless onAlias → Blankless onColumn → Blankless column → ∀ name ∈
        (JoinPiece.clause (clauseFrom point kind table tableAlias onAlias onColumn column)).names,
        Blankless name := by
    intro table tableAlias onAlias onColumn column htable halias honAlias honColumn hcolumn
    simp only [JoinPiece.names, clauseFrom, List.forall_mem_cons]
    exact ⟨htable, halias, honAlias, .quote _ honColumn, .quote _ hcolumn, by simp⟩
  obtain ⟨identity, hidentity, ⟨-, rfl⟩ | ⟨ownerIdentity, -, hownerIdentity, hcases⟩⟩ := writeJoin_cases h
  · have hclause := hnames htarget.tableName halias hon (howner.columnName hp)
      (htarget.columnName (mem_of_identity hidentity))
    exact ⟨hj.push hclause hpoint, Joins.push_introduces hj.names hclause, j.push_isPrefix _⟩
  have honColumn := howner.columnName (mem_of_identity hownerIdentity)
  rcases hcases with ⟨name, mapped, -, hmapped, rfl⟩ | ⟨columns, -, hcolumns, rfl⟩
  · have hclause := hnames htarget.tableName halias hon honColumn
      (htarget.columnName (mem_of_property? hmapped))
    exact ⟨hj.push hclause hpoint, Joins.push_introduces hj.names hclause, j.push_isPrefix _⟩
  · have hlink := howner.joinTableName hp ha
    have hlinkAlias : Blankless (tableAlias ++ joinTableName point.entity p a ++ "_") :=
      Blankless.append_iff.2 ⟨Blankless.append_iff.2 ⟨halias, hlink⟩, by decide⟩
    obtain ⟨hownerColumn, htargetColumn⟩ := howner.joinTableColumns hp ha htarget hcolumns
    have hfirst := hnames (.quote point.entity hlink) hlinkAlias hon honColumn hownerColumn
    have hsecond := hnames htarget.tableName halias hlinkAlias htargetColumn
      (htarget.columnName (mem_of_identity hidentity))
    -- the second clause refers to the alias of the join table, which the first one introduces
    have hblank := (hj.push hfirst hpoint).pushBlank
    have hlinked : Introduces rootAlias _ _ :=
      (Joins.push_introduces hj.names hfirst).mono (Joins.pushBlank_isPrefix _)
    refine ⟨hblank.push hsecond hlinked, Joins.push_introduces hblank.names hsecond, ?_⟩
    exact (j.push_isPrefix _).trans ((Joins.pushBlank_isPrefix _).trans (Joins.push_isPrefix _ _))

/-- What holds as paths are followed: all aliases that joins record are introduced. -/
structure Introduced (s : Schema n) (m : QueryModel n) (point : JoinPoint n) (j : Joins n) : Prop where
  closed : j.Closed m.root.rootAlias
  knows : s.Knows m.root point.entity
  parts : ∀ part ∈ point.parts, Blankless part
  point : Introduces m.root.rootAlias j.pieces point.tableAlias
  tables : ∀ t ∈ j.tables, Introduces m.root.rootAlias j.pieces t.tableAlias
  applied : ∀ entry ∈ j.applied, Introduces m.root.rootAlias j.pieces entry.2

theorem blankless_of_introduces (hnames : s.HasBlanklessNames m) (hj : j.Closed m.root.rootAlias)
    {tableAlias : String} (h : Introduces m.root.rootAlias j.pieces tableAlias) : Blankless tableAlias := by
  rcases h with rfl | hmem
  · exact (hnames.entities _ (.inl rfl)).rootAlias
  · obtain ⟨c, hc, rfl⟩ := mem_introducedAliases.1 hmem
    exact hj.names _ hc _ (by simp [JoinPiece.names])

theorem joinAll_introduced (hnames : s.HasBlanklessNames m) (h : s.joinAll m = .ok j) :
    s.Introduced m m.rootPoint j := by
  refine joinAll_induction (Q := s.Introduced m) ?_ ?_ ?_ h
  · exact ⟨⟨by simp, by simp⟩, .inl rfl, by simp [QueryModel.rootPoint], .inl rfl, by simp, by simp⟩
  · intro point j hj
    exact ⟨hj.closed, .inl rfl, by simp [QueryModel.rootPoint], .inl rfl, hj.tables, hj.applied⟩
  intro join hjoin point part rest hparts p a hassociation tableAlias j j₁ hjoined hj
  obtain ⟨hproperty, ha, -⟩ := joinAssociation_eq_ok hassociation
  have hp := mem_of_property? hproperty
  have howner := hnames.entities _ hj.knows
  have htarget := hnames.entities _ (knows_target s m.root a)
  have hparts' : ∀ part' ∈ point.parts ++ [part], Blankless part' := by
    intro part' hpart'
    rcases List.mem_append.1 hpart' with hpart' | hpart'
    · exact hj.parts part' hpart'
    · have hname : p.name = part := by simpa using List.find?_some hproperty
      exact List.mem_singleton.1 hpart' ▸ hname ▸ howner.propertyName hp
  suffices hkept : j₁.Closed m.root.rootAlias ∧ Introduces m.root.rootAlias j₁.pieces tableAlias ∧
      j.pieces <+: j₁.pieces by
    obtain ⟨hclosed, hintroduces, hextends⟩ := hkept
    refine ⟨⟨hclosed.names, hclosed.clauses⟩, knows_target s m.root a, hparts', hintroduces, ?_, ?_⟩
    · intro t ht
      rcases List.mem_cons.1 ht with rfl | ht
      · exact hintroduces
      · exact (hj.tables t (hjoined.tables_eq ▸ ht)).mono hextends
    · intro entry hentry
      rcases hjoined.mem_applied hentry with hentry | rfl
      · exact (hj.applied entry hentry).mono hextends
      · exact hintroduces
  cases hjoined with
  | before hlookup =>
    exact ⟨hj.closed, hj.applied _ (mem_applied_of_lookup hlookup), List.prefix_rfl⟩
  | now _ halias hwrite =>
    have hblankless : Blankless tableAlias := by
      have hpath : Blankless (".".intercalate (point.parts ++ [part])) := .intercalate (by decide) hparts'
      have hsplit : join.parts = (point.parts ++ [part]) ++ rest := by simp [hparts]
      rcases QueryModel.newAlias_cases hjoin hsplit with ⟨join', hjoin', hexplicit⟩ | hderived
      · exact hnames.aliases join' hjoin' _ (halias ▸ hexplicit)
      · exact halias ▸ hderived ▸ hpath.pathAlias
    obtain ⟨hclosed, hintroduces, hextends⟩ := writeJoin_introduces hj.closed howner htarget hp ha
      (blankless_of_introduces hnames hj.closed hj.point) hblankless hj.point hwrite
    exact ⟨⟨hclosed.names, hclosed.clauses⟩, hintroduces, hextends⟩

/-! ### Statements -/

theorem resolve_qualifier {e : Entity n} {qualifier path : String} {r : ResolvedPath}
    (h : s.resolve e qualifier path = .ok r) : r.column.qualifier = qualifier := by
  unfold resolve at h
  split at h
  · unfold resolveProperty at h
    split at h
    · cases h
    split at h
    · cases h
    split at h <;> simp only [Outcome.bind_eq_ok, Outcome.pure_eq_ok] at h <;>
      obtain ⟨type, -, rfl⟩ := h <;> rfl
  · unfold resolveInner at h
    dsimp only at h
    split at h
    · cases h
    split at h
    · cases h
    split at h
    · split at h
      · cases h
      · obtain rfl := Except.ok.inj h
        rfl
    · simp only [Outcome.bind_eq_ok] at h
      obtain ⟨identity, -, h⟩ := h
      split at h
      · obtain rfl := Outcome.pure_eq_ok.1 h
        rfl
      · cases h

section
variable (hj : ∀ t ∈ j.tables, Introduces m.root.rootAlias j.pieces t.tableAlias)
include hj

theorem introduces_resolveJoined {path : String} {r : ResolvedPath}
    (h : s.resolveJoined m j path = .ok r) : Introduces m.root.rootAlias j.pieces r.column.qualifier := by
  unfold resolveJoined at h
  split at h
  · exact .inl (resolve_qualifier h)
  split at h
  · next joined hjoined =>
    exact resolve_qualifier h ▸ hj joined (List.mem_of_find?_eq_some hjoined)
  · exact .inl (resolve_qualifier h)

theorem introduces_selectItems {items : List SelectItem} (h : s.selectItems m j = .ok items) :
    ∀ c ∈ items.flatMap (·.columns), Introduces m.root.rootAlias j.pieces c.qualifier := by
  intro c hc
  obtain ⟨item, hitem, hc⟩ := List.mem_flatMap.1 hc
  unfold selectItems at h
  split at h
  · simp only [Outcome.bind_eq_ok, Outcome.pure_eq_ok] at h
    obtain ⟨fetched, hfetched, rfl⟩ := h
    rcases List.mem_append.1 hitem with hitem | hitem
    · refine .inl ?_
      unfold allItems at hitem
      dsimp only at hitem
      split at hitem
      · obtain rfl := List.mem_singleton.1 hitem
        simp [SelectItem.columns] at hc
      · obtain ⟨column, -, rfl⟩ := List.mem_map.1 hitem
        rw [List.mem_singleton.1 hc]
    · obtain ⟨items, hitems, hitem⟩ := List.mem_flatten.1 hitem
      obtain ⟨join, -, hjoin⟩ := Outcome.exists_of_mem_mapM hfetched hitems
      unfold fetchedItems at hjoin
      split at hjoin
      · obtain rfl := Except.ok.inj hjoin
        cases hitem
      · next joined hjoined =>
        have hintroduced := hj joined (List.mem_of_find?_eq_some hjoined)
        simp only [Outcome.bind_eq_ok, Outcome.pure_eq_ok] at hjoin
        obtain ⟨identity, -, rfl⟩ := hjoin
        have hfetch : ∃ column name, item = .fetched joined.tableAlias column name := by
          rcases List.mem_append.1 hitem with hitem | hitem
          · split at hitem
            · cases hitem
            · exact ⟨_, _, List.mem_singleton.1 hitem⟩
          · obtain ⟨column, -, rfl⟩ := List.mem_map.1 hitem
            exact ⟨_, _, rfl⟩
        obtain ⟨column, name, rfl⟩ := hfetch
        exact List.mem_singleton.1 hc ▸ hintroduced
  · obtain rfl := Except.ok.inj h
    obtain rfl := List.mem_singleton.1 hitem
    simp [SelectItem.columns] at hc
  · obtain ⟨path, -, hpath⟩ := Outcome.exists_of_mem_mapM h hitem
    simp only [Outcome.bind_eq_ok, Outcome.pure_eq_ok] at hpath
    obtain ⟨r, hr, rfl⟩ := hpath
    exact List.mem_singleton.1 hc ▸ introduces_resolveJoined hj hr

end

/-- Every alias that qualifies a column is introduced: in the select list, the condition and the orders by
any clause, in the condition of a join by that clause or one before it. -/
theorem query_introducesAliases {q : Template} (hnames : s.HasBlanklessNames m) (h : s.query m = .ok q) :
    ∃ st slots, s.selectStatement m = .ok (st, slots) ∧ q = .ofSlots st.text slots ∧
      (∀ c ∈ st.items.flatMap (·.columns) ++ st.condition.toList.flatMap (·.columns) ++
        st.order.map (·.column), c.qualifier = st.rootAlias ∨ c.qualifier ∈ introducedAliases st.joins) ∧
      ∀ before clause after, st.joins = before ++ .clause clause :: after →
        ∀ c ∈ (JoinPiece.clause clause).columns, c.qualifier = st.rootAlias ∨
          c.qualifier = clause.tableAlias ∨ c.qualifier ∈ introducedAliases before := by
  simp only [query, Outcome.bind_eq_ok, Outcome.pure_eq_ok, Prod.exists] at h
  obtain ⟨st, slots, hstatement, rfl⟩ := h
  refine ⟨st, slots, hstatement, rfl, ?_⟩
  simp only [selectStatement, Outcome.bind_eq_ok, Outcome.pure_eq_ok, Prod.mk.injEq, Prod.exists]
    at hstatement
  obtain ⟨j, hjoins, items, hitems, condition, slots', hcondition, order, horder, rfl, -⟩ := hstatement
  have hj := joinAll_introduced hnames hjoins
  refine ⟨fun c hc => ?_, fun before clause after hsplit c hc => ?_⟩
  · rcases List.mem_append.1 hc with hc | hc
    · rcases List.mem_append.1 hc with hc | hc
      · exact introduces_selectItems hj.tables hitems c hc
      · exact whereCondition_columns (P := fun c => Introduces m.root.rootAlias j.pieces c.qualifier)
          (fun path r hr => introduces_resolveJoined hj.tables hr) hcondition c hc
    · obtain ⟨item, hitem, rfl⟩ := List.mem_map.1 hc
      obtain ⟨order, -, horder⟩ := Outcome.exists_of_mem_mapM horder hitem
      simp only [Outcome.bind_eq_ok, Outcome.pure_eq_ok] at horder
      obtain ⟨r, hr, rfl⟩ := horder
      exact .inl (resolve_qualifier hr)
  · simp only [JoinPiece.columns, List.mem_cons, List.not_mem_nil, or_false] at hc
    rcases hc with rfl | rfl
    · rcases hj.closed.clauses before clause after hsplit with hown | hroot | hearlier
      · exact .inr (.inl hown)
      · exact .inl hroot
      · exact .inr (.inr hearlier)
    · exact .inr (.inl rfl)

theorem query_of_selectStatement {st : SelectStatement} {slots : List Slot}
    (h : s.selectStatement m = .ok (st, slots)) : s.query m = .ok (.ofSlots st.text slots) := by
  rw [query, h]
  rfl

/-- The genres of an author's novels with their novels: the second join goes on from the first, by a join
table with an alias of its own. -/
def genresOfAuthors : QueryModel 3 where
  root := authorsOfGenre.root
  criteria := [.compare .eq "novels.genres.name" (.argument 0)]
  joins := [
    { path := "novels", kind := .fetch, explicitAlias := some "n" },
    { path := "novels.genres", kind := .left }]

theorem query_genresOfAuthors : ∃ q st slots, novels.query genresOfAuthors = .ok q ∧
    novels.HasBlanklessNames genresOfAuthors ∧ novels.selectStatement genresOfAuthors = .ok (st, slots) ∧
    q = .ofSlots st.text slots ∧
    introducedAliases st.joins = ["n", "novels_genres_novel_genres_", "novels_genres_"] ∧
    (∀ c ∈ st.items.flatMap (·.columns) ++ st.condition.toList.flatMap (·.columns) ++
      st.order.map (·.column), c.qualifier = st.rootAlias ∨ c.qualifier ∈ introducedAliases st.joins) ∧
    ∀ before clause after, st.joins = before ++ .clause clause :: after →
      ∀ c ∈ (JoinPiece.clause clause).columns, c.qualifier = st.rootAlias ∨
        c.qualifier = clause.tableAlias ∨ c.qualifier ∈ introducedAliases before := by
  have hnames : novels.HasBlanklessNames genresOfAuthors := by
    have hentities : ∀ i, (novels.entity i).HasBlanklessNames := by decide
    refine ⟨fun e he => ?_, by decide⟩
    obtain rfl | ⟨i, rfl⟩ := he
    · exact hentities 1
    · exact hentities i
  have hcompiled : ((novels.selectStatement genresOfAuthors).toOption.map fun compiled =>
      introducedAliases compiled.1.joins) = some ["n", "novels_genres_novel_genres_", "novels_genres_"] := by
    decide +kernel
  obtain ⟨⟨st, slots⟩, hstatement, haliases⟩ := Option.map_eq_some_iff.1 hcompiled
  have hstatement := Outcome.eq_ok_of_toOption hstatement
  have hq := query_of_selectStatement hstatement
  obtain ⟨st', slots', hstatement', htext, hintroduced⟩ := query_introducesAliases hnames hq
  obtain ⟨rfl, rfl⟩ := Prod.mk.inj (Except.ok.inj (hstatement'.symm.trans hstatement))
  exact ⟨_, st', slots', hq, hnames, hstatement, htext, haliases, hintroduced⟩

end Schema

end EntitySql
