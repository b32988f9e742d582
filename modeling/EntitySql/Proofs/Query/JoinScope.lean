import EntitySql.Proofs.Query.JoinWalk
import EntitySql.Proofs.Query.Scope

/-! # The scope of joined tables

Each column in a compiled SELECT is qualified by an alias. Where entities that refer to each other
quote their names alike, and joins end at single columns, each of them is a column of a table that has
this alias in the statement (`Schema.query_inScope`). Elsewhere joins name columns that no table has:
the columns of the target are quoted as the owner quotes its own (`Schema.query_outOfScope`). -/

namespace EntitySql
variable {n : Nat}

theorem GivesAlias.mono {root : Entity n} {joins joins' : List JoinPiece} {table tableAlias : String}
    (h : GivesAlias root joins table tableAlias) (hextends : joins <+: joins') :
    GivesAlias root joins' table tableAlias := by
  obtain ⟨more, rfl⟩ := hextends
  refine h.imp_right fun hinfix => hinfix.trans ?_
  simp only [String.toList_join, List.map_append, List.flatMap_append]
  exact List.infix_append' [] _ _

theorem Schema.InScope.mono {s : Schema n} {root : Entity n} {joins joins' : List JoinPiece}
    {c : QualifiedColumn} (h : s.InScope root joins c) (hextends : joins <+: joins') :
    s.InScope root joins' c := by
  obtain ⟨table, halias, hcolumn⟩ := h
  exact ⟨table, halias.mono hextends, hcolumn⟩

theorem JoinClause.givesAlias_text (c : JoinClause) :
    (" JOIN " ++ c.table ++ " " ++ c.tableAlias ++ " ON ").toList <:+: c.text.toList := by
  have hkeyword : ∃ before, c.kind.keyword = before ++ " JOIN " := by
    cases c.kind with
    | left | leftFetch => exact ⟨" LEFT", rfl⟩
    | right | rightFetch => exact ⟨" RIGHT", rfl⟩
    | outer => exact ⟨" FULL OUTER", rfl⟩
    | inner | fetch => exact ⟨" INNER", rfl⟩
  obtain ⟨before, hbefore⟩ := hkeyword
  refine ⟨before.toList,
    (c.onAlias ++ "." ++ c.onColumn ++ "=" ++ c.tableAlias ++ "." ++ c.column).toList, ?_⟩
  simp only [JoinClause.text, hbefore, String.toList_append, List.append_assoc]

namespace Joins

/-- Every column in the clauses is one of a table with that alias. -/
def ColumnsInScope (s : Schema n) (root : Entity n) (j : Joins n) : Prop :=
  ∀ piece ∈ j.pieces, ∀ c ∈ piece.columns, s.InScope root j.pieces c

/-- Only clauses are added, and their columns are in scope if those before are. -/
structure Grows (s : Schema n) (root : Entity n) (j j' : Joins n) : Prop where
  applied : j'.applied = j.applied
  tables : j'.tables = j.tables
  isPrefix : j.pieces <+: j'.pieces
  inScope : j.ColumnsInScope s root → j'.ColumnsInScope s root

variable {s : Schema n} {root : Entity n} {j j₁ j₂ : Joins n}

theorem Grows.trans (h : Grows s root j j₁) (h' : Grows s root j₁ j₂) : Grows s root j j₂ :=
  ⟨h'.applied.trans h.applied, h'.tables.trans h.tables, h.isPrefix.trans h'.isPrefix,
    fun hj => h'.inScope (h.inScope hj)⟩

theorem Grows.append {pieces : List JoinPiece}
    (h : ∀ piece ∈ pieces, ∀ c ∈ piece.columns, s.InScope root (j.pieces ++ pieces) c) :
    Grows s root j { j with pieces := j.pieces ++ pieces } := by
  refine ⟨rfl, rfl, List.prefix_append _ _, fun hj piece hpiece c hc => ?_⟩
  rcases List.mem_append.1 hpiece with hpiece | hpiece
  · exact (hj piece hpiece c hc).mono (List.prefix_append _ _)
  · exact h piece hpiece c hc

theorem pushBlank_grows : Grows s root j j.pushBlank :=
  .append fun piece hpiece => by simp [List.mem_singleton.1 hpiece, JoinPiece.columns]

/-- A clause gives its alias to its table, also where it was written before. -/
theorem push_givesAlias (c : JoinClause) : GivesAlias root (j.push c).pieces c.table c.tableAlias := by
  refine .inr (c.givesAlias_text.trans ?_)
  unfold push
  split
  · next hcontains =>
    obtain ⟨before, after, htext⟩ := Text.contains_iff.1 hcontains
    exact ⟨before, after, htext.symm⟩
  · refine ⟨(String.join (j.pieces.map (·.text))).toList, [], ?_⟩
    simp [String.toList_join, JoinPiece.text]

theorem push_grows {c : JoinClause} (hon : s.InScope root j.pieces ⟨c.onAlias, c.onColumn⟩)
    (hcolumn : s.HasColumn root c.table c.column) : Grows s root j (j.push c) := by
  have halias : GivesAlias root (j.push c).pieces c.table c.tableAlias := push_givesAlias c
  unfold push at halias ⊢
  split
  · exact ⟨rfl, rfl, List.prefix_rfl, id⟩
  · next hcontains =>
    rw [if_neg hcontains] at halias
    refine .append fun piece hpiece c' hc' => ?_
    obtain rfl := List.mem_singleton.1 hpiece
    simp only [JoinPiece.columns, List.mem_cons, List.not_mem_nil, or_false] at hc'
    rcases hc' with rfl | rfl
    · exact hon.mono (List.prefix_append _ _)
    · exact ⟨c.table, halias, hcolumn⟩

end Joins

namespace Schema
variable {s : Schema n} {root : Entity n} {j j' : Joins n}

theorem knows_target (s : Schema n) (root : Entity n) (a : Association n) : s.Knows root (s.target a) :=
  .inr ⟨a.target, rfl⟩

theorem writeJoin_grows {kind : JoinKind} {point : JoinPoint n} {p : Property n} {a : Association n}
    {tableAlias : String} (howner : s.Knows root point.entity)
    (hp : p ∈ point.entity.properties ++ point.entity.identity.toList)
    (ha : p.association? = some a) (hembedded : a.isEmbedded = false)
    (hjoin : s.Joinable point.entity a)
    (hpoint : GivesAlias root j.pieces point.entity.tableName point.tableAlias)
    (h : s.writeJoin kind point p a tableAlias j = .ok j') :
    Joins.Grows s root j j' ∧ GivesAlias root j'.pieces (s.target a).tableName tableAlias := by
  have hquote : ∀ name, point.entity.quote name = (s.target a).quote name := fun name => by
    unfold Entity.quote
    rw [hjoin.escape]
  have htarget : ∀ q ∈ (s.target a).properties ++ (s.target a).identity.toList, q.IsSingle →
      s.HasColumn root (s.target a).tableName (point.entity.quote ((s.target a).columnName q)) :=
    fun q hq hsingle => hquote _ ▸ hasColumn_of_isSingle (knows_target s root a) hq hsingle
  have hon : ∀ q ∈ point.entity.properties ++ point.entity.identity.toList, q.IsSingle →
      s.InScope root j.pieces
        ⟨point.tableAlias, point.entity.quote (point.entity.columnName q)⟩ :=
    fun q hq hsingle => ⟨_, hpoint, hasColumn_of_isSingle howner hq hsingle⟩
  have hforeignKey : p.isForeignKey = a.isForeignKey := by simp [Property.isForeignKey, ha]
  obtain ⟨identity, hidentity, hcases⟩ := writeJoin_cases h
  have htargetIdentity := htarget identity (mem_of_identity hidentity) (hjoin.target identity hidentity)
  rcases hcases with ⟨hforeign, rfl⟩ | ⟨ownerIdentity, hforeign, hownerIdentity, hcases⟩
  · have hsingle : p.IsSingle := ⟨hforeignKey.trans hforeign, by simp [Property.embedded?, ha, hembedded]⟩
    exact ⟨Joins.push_grows (hon p hp hsingle) htargetIdentity, Joins.push_givesAlias _⟩
  have honOwner := hon ownerIdentity (mem_of_identity hownerIdentity)
    (hjoin.owner hforeign _ hownerIdentity)
  rcases hcases with ⟨name, mapped, hname, hmapped, rfl⟩ | ⟨columns, hmappedBy, hcolumns, rfl⟩
  · have hsingle := hjoin.mapped hforeign name hname mapped hmapped
    exact ⟨Joins.push_grows honOwner (htarget mapped (mem_of_property? hmapped) hsingle),
      Joins.push_givesAlias _⟩
  · have hjoinTable : p ∈ point.entity.joinTableProperties := by
      refine List.mem_filter.2 ⟨?_, by simp [ha, Association.isJoinTable, hforeign, hmappedBy]⟩
      rcases List.mem_append.1 hp with hp | hp
      · exact hp
      · -- an identity with a join table would be no single column
        have hsingle := (hjoin.owner hforeign p (Option.mem_toList.1 hp)).1
        rw [hforeignKey, hforeign] at hsingle
        cases hsingle
    refine ⟨((Joins.push_grows honOwner ?_).trans Joins.pushBlank_grows).trans
      (Joins.push_grows ?_ htargetIdentity), Joins.push_givesAlias _⟩
    · exact .linkOwner howner hjoinTable ha hcolumns
    · refine ⟨_, (Joins.push_givesAlias _).mono (List.prefix_append _ _), ?_⟩
      show s.HasColumn root (point.entity.quote _) (point.entity.quote columns.2)
      rw [hquote columns.2]
      exact .linkTarget howner hjoinTable ha hcolumns

/-! ### Join paths -/

/-- What holds of joins as paths are followed: the clauses are in scope, and each alias is given to the
table of the entity that it leads to. -/
structure Scoped (s : Schema n) (m : QueryModel n) (j : Joins n) : Prop where
  columns : j.ColumnsInScope s m.root
  knows : ∀ t ∈ m.tables j, s.Knows m.root t.entity
  aliases : ∀ t ∈ m.tables j, GivesAlias m.root j.pieces t.entity.tableName t.tableAlias
  identities : ∀ t ∈ j.tables, ∀ identity ∈ t.entity.identity, identity.IsSingle
  applied : ∀ owner part tableAlias, ((owner, part), tableAlias) ∈ j.applied →
    ∃ t ∈ m.tables j, t.tableAlias = owner ∧ ∃ p a, t.entity.property? part = some p ∧
      p.association? = some a ∧ GivesAlias m.root j.pieces (s.target a).tableName tableAlias

variable {m : QueryModel n}

theorem scoped_empty (s : Schema n) (m : QueryModel n) : s.Scoped m {} where
  columns := by simp [Joins.ColumnsInScope]
  knows t ht := by
    obtain rfl := List.mem_singleton.1 ht
    exact .inl rfl
  aliases t ht := by
    obtain rfl := List.mem_singleton.1 ht
    exact .inl ⟨rfl, rfl⟩
  identities := by simp
  applied := by simp

theorem Scoped.grows (h : s.Scoped m j) (hgrows : Joins.Grows s m.root j j') : s.Scoped m j' where
  columns := hgrows.inScope h.columns
  knows := by
    rw [QueryModel.tables, hgrows.tables]
    exact h.knows
  aliases t ht := by
    rw [QueryModel.tables, hgrows.tables] at ht
    exact (h.aliases t ht).mono hgrows.isPrefix
  identities := by
    rw [hgrows.tables]
    exact h.identities
  applied owner part tableAlias hmem := by
    rw [hgrows.applied] at hmem
    rw [QueryModel.tables, hgrows.tables]
    obtain ⟨t, ht, halias, p, a, hp, ha, hgives⟩ := h.applied owner part tableAlias hmem
    exact ⟨t, ht, halias, p, a, hp, ha, hgives.mono hgrows.isPrefix⟩

theorem Scoped.reach (h : s.Scoped m j) {a : Association n} {path tableAlias : String}
    (hidentity : ∀ identity ∈ (s.target a).identity, identity.IsSingle)
    (halias : GivesAlias m.root j.pieces (s.target a).tableName tableAlias) :
    s.Scoped m { j with tables := ⟨path, tableAlias, s.target a⟩ :: j.tables } := by
  have hcases : ∀ t ∈ m.tables { j with tables := ⟨path, tableAlias, s.target a⟩ :: j.tables },
      t ∈ m.tables j ∨ t = ⟨path, tableAlias, s.target a⟩ := by
    intro t ht
    simp only [QueryModel.tables, List.mem_cons] at ht ⊢
    rcases ht with h | h | h <;> simp [h]
  refine ⟨h.columns, fun t ht => ?_, fun t ht => ?_, fun t ht => ?_, fun owner part alias' hmem => ?_⟩
  · rcases hcases t ht with ht | rfl
    · exact h.knows t ht
    · exact knows_target s m.root a
  · rcases hcases t ht with ht | rfl
    · exact h.aliases t ht
    · exact halias
  · rcases List.mem_cons.1 ht with rfl | ht
    · exact hidentity
    · exact h.identities t ht
  · obtain ⟨t, ht, hrest⟩ := h.applied owner part alias' hmem
    refine ⟨t, ?_, hrest⟩
    simp only [QueryModel.tables, List.mem_cons] at ht ⊢
    exact ht.imp_right .inr

theorem Scoped.apply (h : s.Scoped m j) {t : JoinedTable n} (ht : t ∈ m.tables j) {part : String}
    {p : Property n} {a : Association n} {tableAlias : String} (hp : t.entity.property? part = some p)
    (ha : p.association? = some a)
    (halias : GivesAlias m.root j.pieces (s.target a).tableName tableAlias) :
    s.Scoped m { j with applied := ((t.tableAlias, part), tableAlias) :: j.applied } := by
  refine ⟨h.columns, h.knows, h.aliases, h.identities, fun owner part' alias' hmem => ?_⟩
  rcases List.mem_cons.1 hmem with heq | hmem
  · obtain ⟨⟨rfl, rfl⟩, rfl⟩ := by simpa using heq
    exact ⟨t, ht, rfl, p, a, hp, ha, halias⟩
  · exact h.applied owner part' alias' hmem

/-- A path passes only tables that were reached, so that its next association is joined to one of them. -/
theorem joinAll_scoped (hsound : ∀ e, s.Knows m.root e → s.Sound e)
    (hall : OneEntityEach (m.tables j)) (h : s.joinAll m = .ok j) : s.Scoped m j := by
  let ScopedAt (point : JoinPoint n) (j₀ : Joins n) : Prop := m.tables j₀ ⊆ m.tables j →
    s.Scoped m j₀ ∧ ∃ t ∈ m.tables j₀, t.tableAlias = point.tableAlias ∧ t.entity = point.entity
  have hscoped : ScopedAt m.rootPoint j := by
    refine joinAll_induction (Q := ScopedAt) ?_ ?_ ?_ h
    · exact fun _ => ⟨scoped_empty s m, _, List.mem_cons_self, rfl, rfl⟩
    · intro point j₀ hpoint hsub
      exact ⟨(hpoint hsub).1, _, List.mem_cons_self, rfl, rfl⟩
    intro join _ point part rest _ p a hassociation tableAlias j₀ j₁ hjoined hpoint hsub
    have hbefore : m.tables j₀ ⊆ m.tables j := by
      refine List.Subset.trans (List.cons_subset_cons _ fun t ht => ?_) hsub
      exact List.mem_cons_of_mem _ (hjoined.tables_eq ▸ ht)
    obtain ⟨hj, t, ht, htalias, htentity⟩ := hpoint hbefore
    obtain ⟨hproperty, ha, hembedded⟩ := joinAssociation_eq_ok hassociation
    have hknows := htentity ▸ hj.knows t ht
    have hp := mem_of_property? hproperty
    have hjoin := (hsound _ hknows).joinable p hp a ha hembedded
    have hkept : s.Scoped m j₁ ∧ GivesAlias m.root j₁.pieces (s.target a).tableName tableAlias := by
      cases hjoined with
      | before hlookup =>
        -- the alias was given to the target of the same association, since it has one entity
        obtain ⟨t', ht', halias', p', a', hp', ha', hgives⟩ :=
          hj.applied point.tableAlias part tableAlias (mem_applied_of_lookup hlookup)
        have hentity := hall t' (hbefore ht') t (hbefore ht) (halias'.trans htalias.symm)
        rw [hentity, htentity, hproperty] at hp'
        obtain rfl := Option.some.inj hp'
        obtain rfl := Option.some.inj (ha.symm.trans ha')
        exact ⟨hj, hgives⟩
      | @now j' _ _ hwrite =>
        have hgivesPoint : GivesAlias m.root j₀.pieces point.entity.tableName point.tableAlias :=
          htalias ▸ htentity ▸ hj.aliases t ht
        obtain ⟨hgrows, hgives⟩ := writeJoin_grows hknows hp ha hembedded hjoin hgivesPoint hwrite
        have ht' : t ∈ m.tables j' := by
          rw [QueryModel.tables, hgrows.tables]
          exact ht
        have happlied := (hj.grows hgrows).apply ht' (htentity ▸ hproperty) ha hgives
        rw [htalias] at happlied
        exact ⟨happlied, hgives⟩
    refine ⟨hkept.1.reach hjoin.target hkept.2, _, List.mem_cons_of_mem _ List.mem_cons_self, rfl, rfl⟩
  exact (hscoped (List.Subset.refl _)).1

/-! ### Statements -/

section
variable (hsound : ∀ e, s.Knows m.root e → s.Sound e) (hj : s.Scoped m j)
include hsound

theorem inScope_root {path : String} {r : ResolvedPath}
    (h : s.resolve m.root m.root.rootAlias path = .ok r) : s.InScope m.root j.pieces r.column := by
  obtain ⟨hqualifier, hcolumn⟩ := resolve_hasColumn (.inl rfl) (hsound _ (.inl rfl)) h
  exact ⟨_, .inl ⟨rfl, hqualifier⟩, hcolumn⟩

include hj

theorem inScope_resolveJoined {path : String} {r : ResolvedPath}
    (h : s.resolveJoined m j path = .ok r) : s.InScope m.root j.pieces r.column := by
  unfold resolveJoined at h
  split at h
  · exact inScope_root hsound h
  split at h
  · next joined hjoined =>
    have hmem : joined ∈ m.tables j := List.mem_cons_of_mem _ (List.mem_of_find?_eq_some hjoined)
    have hknows := hj.knows joined hmem
    obtain ⟨hqualifier, hcolumn⟩ := resolve_hasColumn hknows (hsound _ hknows) h
    exact ⟨_, hqualifier ▸ hj.aliases joined hmem, hcolumn⟩
  · exact inScope_root hsound h

omit hsound hj in
theorem inScope_allItems (s : Schema n) (root : Entity n) (joins : List JoinPiece) :
    ∀ c ∈ (s.allItems root root.rootAlias).flatMap (·.columns), s.InScope root joins c := by
  unfold allItems
  dsimp only
  split
  · simp [SelectItem.columns]
  · intro c hc
    obtain ⟨item, hitem, hc⟩ := List.mem_flatMap.1 hc
    obtain ⟨column, hcolumn, rfl⟩ := List.mem_map.1 hitem
    obtain rfl := List.mem_singleton.1 hc
    exact ⟨_, .inl ⟨rfl, rfl⟩, .entity (.inl rfl) hcolumn⟩

omit hsound in
theorem inScope_fetchedItems {join : JoinPath} {items : List SelectItem}
    (h : s.fetchedItems j join = .ok items) :
    ∀ c ∈ items.flatMap (·.columns), s.InScope m.root j.pieces c := by
  unfold fetchedItems at h
  split at h
  · obtain rfl := Except.ok.inj h
    simp
  next joined hjoined =>
  have hmem : joined ∈ j.tables := List.mem_of_find?_eq_some hjoined
  have hknows := hj.knows joined (List.mem_cons_of_mem _ hmem)
  have halias := hj.aliases joined (List.mem_cons_of_mem _ hmem)
  simp only [Outcome.bind_eq_ok, Outcome.pure_eq_ok] at h
  obtain ⟨identity, hidentity, rfl⟩ := h
  have hidentity : joined.entity.identity = some identity := by
    unfold Entity.requiredIdentity at hidentity
    split at hidentity <;> cases hidentity
    assumption
  intro c hc
  rw [List.flatMap_append, List.mem_append] at hc
  rcases hc with hc | hc
  · split at hc
    · simp at hc
    · simp only [List.flatMap_singleton, SelectItem.columns, List.mem_singleton] at hc
      subst hc
      exact ⟨_, halias, hasColumn_of_isSingle hknows (mem_of_identity hidentity)
        (hj.identities joined hmem identity hidentity)⟩
  · obtain ⟨item, hitem, hc⟩ := List.mem_flatMap.1 hc
    obtain ⟨column, hcolumn, rfl⟩ := List.mem_map.1 hitem
    obtain rfl := List.mem_singleton.1 hc
    exact ⟨_, halias, .entity hknows (List.mem_filter.1 hcolumn).1⟩

theorem inScope_selectItems {items : List SelectItem} (h : s.selectItems m j = .ok items) :
    ∀ c ∈ items.flatMap (·.columns), s.InScope m.root j.pieces c := by
  unfold selectItems at h
  split at h
  · simp only [Outcome.bind_eq_ok, Outcome.pure_eq_ok] at h
    obtain ⟨fetched, hfetched, rfl⟩ := h
    intro c hc
    rw [List.flatMap_append, List.mem_append] at hc
    rcases hc with hc | hc
    · exact inScope_allItems s m.root j.pieces c hc
    · obtain ⟨item, hitem, hc⟩ := List.mem_flatMap.1 hc
      obtain ⟨items, hitems, hitem⟩ := List.mem_flatten.1 hitem
      obtain ⟨path, -, hpath⟩ := Outcome.exists_of_mem_mapM hfetched hitems
      exact inScope_fetchedItems hj hpath c (List.mem_flatMap.2 ⟨item, hitem, hc⟩)
  · obtain rfl := Except.ok.inj h
    simp [SelectItem.columns]
  · intro c hc
    obtain ⟨item, hitem, hc⟩ := List.mem_flatMap.1 hc
    obtain ⟨path, -, hpath⟩ := Outcome.exists_of_mem_mapM h hitem
    simp only [Outcome.bind_eq_ok, Outcome.pure_eq_ok] at hpath
    obtain ⟨r, hr, rfl⟩ := hpath
    obtain rfl := List.mem_singleton.1 hc
    exact inScope_resolveJoined hsound hj hr

end

/-- Every column that a compiled query writes is one of a table that its alias is given to, if the
schema keeps to what can be joined and no alias leads to two entities. -/
theorem query_inScope {q : Template} (hsound : ∀ e, s.Knows m.root e → s.Sound e)
    (haliases : ∀ j, s.joinAll m = .ok j → OneEntityEach (m.tables j)) (h : s.query m = .ok q) :
    ∃ st slots, s.selectStatement m = .ok (st, slots) ∧ q = .ofSlots st.text slots ∧
      ∀ c ∈ st.columns, s.InScope m.root st.joins c := by
  simp only [query, Outcome.bind_eq_ok, Outcome.pure_eq_ok, Prod.exists] at h
  obtain ⟨st, slots, hstatement, rfl⟩ := h
  refine ⟨st, slots, hstatement, rfl, ?_⟩
  simp only [selectStatement, Outcome.bind_eq_ok, Outcome.pure_eq_ok, Prod.mk.injEq, Prod.exists]
    at hstatement
  obtain ⟨j, hjoins, items, hitems, condition, slots', hcondition, order, horder, rfl, -⟩ := hstatement
  have hj := joinAll_scoped hsound (haliases j hjoins) hjoins
  intro c hc
  simp only [SelectStatement.columns, List.mem_append] at hc
  rcases hc with ((hc | hc) | hc) | hc
  · exact inScope_selectItems hsound hj hitems c hc
  · obtain ⟨piece, hpiece, hc⟩ := List.mem_flatMap.1 hc
    exact hj.columns piece hpiece c hc
  · exact whereCondition_columns (fun path r hr => inScope_resolveJoined hsound hj hr) hcondition c hc
  · obtain ⟨item, hitem, rfl⟩ := List.mem_map.1 hc
    obtain ⟨order, -, horder⟩ := Outcome.exists_of_mem_mapM horder hitem
    simp only [Outcome.bind_eq_ok, Outcome.pure_eq_ok] at horder
    obtain ⟨r, hr, rfl⟩ := horder
    exact inScope_root hsound hr

/-- Novels with an author and genres, and authors with their novels, for examples. -/
def novels : Schema 3 where
  entity
    | 0 => {
      name := "Novel"
      table := some "novel"
      identity := some { name := "id", content := .scalar .long }
      properties := [
        { name := "title", content := .scalar .string },
        { name := "author", content := .association { kind := .manyToOne, target := 1 } },
        { name := "genres", content := .association { kind := .manyToMany, target := 2 } }] }
    | 1 => {
      name := "Author"
      table := some "author"
      identity := some { name := "id", content := .scalar .long }
      properties := [
        { name := "name", content := .scalar .string },
        { name := "novels"
          content := .association { kind := .oneToMany, target := 0, mappedBy := some "author" } }] }
    | 2 => {
      name := "Genre"
      table := some "genre"
      identity := some { name := "id", content := .scalar .long }
      properties := [{ name := "name", content := .scalar .string }] }

/-- The authors of novels of a genre, by way of an inverse association and a join table. -/
def authorsOfGenre : QueryModel 3 where
  root := novels.entity 1
  criteria := [.compare .eq "novels.genres.name" (.argument 0)]
  joins := [{ path := "novels", kind := .fetch }, { path := "novels.genres", kind := .left }]
  sort := [{ path := "name" }]

theorem query_authorsOfGenre : ∃ q st slots, novels.query authorsOfGenre = .ok q ∧
    novels.selectStatement authorsOfGenre = .ok (st, slots) ∧ q = .ofSlots st.text slots ∧
    ∀ c ∈ st.columns, novels.InScope authorsOfGenre.root st.joins c := by
  have hsound : ∀ i, novels.Sound (novels.entity i) := by decide
  have haliases : (match novels.joinAll authorsOfGenre with
      | .ok j => decide (OneEntityEach (authorsOfGenre.tables j))
      | .error _ => false) = true := by decide +kernel
  have hquery : (novels.query authorsOfGenre).toOption.isSome = true := by decide +kernel
  obtain ⟨q, hq⟩ := Option.isSome_iff_exists.1 hquery
  have hq := Outcome.eq_ok_of_toOption hq
  refine ⟨q, ?_⟩
  obtain ⟨st, slots, hstatement, htext, hscope⟩ := query_inScope (m := authorsOfGenre)
    (fun e he => by
      obtain rfl | ⟨i, rfl⟩ := he
      · exact hsound 1
      · exact hsound i)
    (fun j hj => by
      rw [hj] at haliases
      exact of_decide_eq_true haliases) hq
  exact ⟨st, slots, hq, hstatement, htext, hscope⟩

/-- A book with its author, for a counterexample. -/
def quotedBook : Entity 2 where
  name := "Book"
  table := some "book"
  identity := some { name := "id", content := .scalar .long }
  properties := [
    { name := "title", content := .scalar .string },
    { name := "author", content := .association { kind := .manyToOne, target := Fin.last 1 } }]

/-- Books and their authors, whose names are quoted. -/
def quotedAuthors : Schema 2 where
  entity
    | 0 => quotedBook
    | 1 => {
      name := "Author"
      table := some "author"
      escape := true
      identity := some { name := "id", content := .scalar .long }
      properties := [{ name := "name", content := .scalar .string }] }

def titlesByAuthor : QueryModel 2 where
  root := quotedBook
  projection := .paths ["title"]
  criteria := [.compare .eq "author.name" (.argument 0)]
  joins := [{ path := "author" }]

/-- A join names a column of the target without the quotes that it has in the target's table. -/
theorem query_outOfScope : ∃ st slots,
    quotedAuthors.selectStatement titlesByAuthor = .ok (st, slots) ∧
      ∃ c ∈ st.columns, ¬ quotedAuthors.InScope titlesByAuthor.root st.joins c := by
  let st : SelectStatement := {
    items := [.column ⟨"book_", "title"⟩]
    table := "book"
    rootAlias := "book_"
    joins := [.clause ⟨.inner, "\x60author\x60", "author_", "book_", "author_id", "id"⟩]
    condition := some (.comparison .eq ⟨"author_", "\x60name\x60"⟩)
    order := [] }
  have hstatement : (quotedAuthors.selectStatement titlesByAuthor).toOption =
      some (st, [⟨.argument 0, .string⟩]) := by decide +kernel
  refine ⟨st, _, Outcome.eq_ok_of_toOption hstatement, ⟨"author_", "id"⟩, by decide, ?_⟩
  rintro ⟨table, halias, hcolumn⟩
  have hjoined : Text.contains (" JOIN " ++ table ++ " " ++ "author_" ++ " ON ").toList
      (String.join (st.joins.map (·.text))).toList = true := by
    rcases halias with ⟨-, hroot⟩ | ⟨before, after, htext⟩
    · exact absurd hroot (by decide +kernel)
    · exact Text.contains_iff.2 ⟨before, after, htext.symm⟩
  -- of the tables with such a column none is joined
  have hnone : ∀ i, ∀ c ∈ quotedAuthors.columns (quotedAuthors.entity i), c.text = "id" →
      Text.contains (" JOIN " ++ (quotedAuthors.entity i).tableName ++ " " ++ "author_" ++ " ON ").toList
        (String.join (st.joins.map (·.text))).toList = false := by decide +kernel
  have hlinks : ∀ i, (quotedAuthors.entity i).joinTableProperties = [] := by decide
  have hentity : ∀ e, quotedAuthors.Knows titlesByAuthor.root e → ∃ i, quotedAuthors.entity i = e :=
    fun e he => he.elim (fun heq => ⟨0, heq.symm⟩) id
  dsimp only at hcolumn
  generalize hname : "id" = name at hcolumn
  cases hcolumn with
  | entity he hc =>
    obtain ⟨i, rfl⟩ := hentity _ he
    have hfalse := hnone i _ hc hname.symm
    rw [hjoined] at hfalse
    cases hfalse
  | linkOwner howner hp | linkTarget howner hp =>
    obtain ⟨i, rfl⟩ := hentity _ howner
    rw [hlinks i] at hp
    cases hp

end Schema

end EntitySql
