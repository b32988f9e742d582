import EntitySql.Proofs.Query.DerivedAliases
import EntitySql.Proofs.Query.ReachedPoints

/-! # Kinds of joins

An association is joined with the kind of the first declared join whose path goes over it
(`Schema.query_joinedByFirst`). So a join has its own kind, unless one on a longer path stands before it and
joins the association with another kind (`Schema.query_losesKind`). -/

namespace EntitySql
variable {n : Nat}

/-- The first of the declared joins that goes along a path, to its end or further. -/
def QueryModel.firstAlong? (m : QueryModel n) (path : List String) : Option JoinPath :=
  m.joins.find? fun join => path.isPrefixOf join.parts

theorem QueryModel.firstAlong?_eq_some {m : QueryModel n} {done after : List JoinPath} {join : JoinPath}
    {path : List String} (hjoins : m.joins = done ++ join :: after) (hbegins : path <+: join.parts)
    (hfirst : ∀ earlier ∈ done, ¬ path <+: earlier.parts) : m.firstAlong? path = some join := by
  have hnone : done.find? (fun earlier => path.isPrefixOf earlier.parts) = none := by
    simpa [List.find?_eq_none] using hfirst
  rw [firstAlong?, hjoins, List.find?_append, hnone, Option.none_or, List.find?_cons_of_pos]
  simpa using hbegins

theorem QueryModel.firstAlong?_cases {m : QueryModel n} {path : List String} {join : JoinPath}
    (h : m.firstAlong? path = some join) : join ∈ m.joins ∧ path <+: join.parts :=
  ⟨List.mem_of_find?_eq_some h, by simpa using List.find?_some h⟩

/-- How a clause begins that joins a table under an alias. -/
def JoinKind.opening (kind : JoinKind) (table tableAlias : String) : String :=
  kind.keyword ++ table ++ " " ++ tableAlias ++ " ON "

theorem JoinClause.opening_isPrefix (c : JoinClause) :
    (c.kind.opening c.table c.tableAlias).toList <+: c.text.toList := by
  refine ⟨(c.onAlias ++ "." ++ c.onColumn ++ "=" ++ c.tableAlias ++ "." ++ c.column).toList, ?_⟩
  simp only [JoinKind.opening, text, String.toList_append, List.append_assoc]

namespace Joins
variable {j : Joins n} {c c' : JoinClause}

theorem mem_push (h : .clause c' ∈ (j.push c).pieces) : .clause c' ∈ j.pieces ∨ c' = c := by
  unfold push at h
  split at h
  · exact .inl h
  · exact (List.mem_append.1 h).imp_right fun hlast => JoinPiece.clause.inj (List.mem_singleton.1 hlast)

theorem mem_pushBlank (h : .clause c ∈ j.pushBlank.pieces) : .clause c ∈ j.pieces := by
  simpa [pushBlank] using h

theorem opening_infix_push (j : Joins n) (point : JoinPoint n) (kind : JoinKind)
    (table tableAlias onAlias onColumn column : String) : (kind.opening table tableAlias).toList <:+:
      (j.push (Schema.clauseFrom point kind table tableAlias onAlias onColumn column)).text.toList :=
  have hopening := (Schema.clauseFrom point kind table tableAlias onAlias onColumn column).opening_isPrefix
  hopening.isInfix.trans (j.text_infix_push _)

end Joins

namespace Schema
variable {s : Schema n} {m : QueryModel n} {j j' : Joins n}

/-- The clauses of an association have the kind of the join that writes them, and the alias of the target or
of the join table. -/
theorem writeJoin_clauses {kind : JoinKind} {point : JoinPoint n} {p : Property n} {a : Association n}
    {tableAlias : String} (h : s.writeJoin kind point p a tableAlias j = .ok j') :
    j.pieces <+: j'.pieces ∧
    (kind.opening (s.target a).tableName tableAlias).toList <:+: j'.text.toList ∧
    ∀ c, .clause c ∈ j'.pieces → .clause c ∈ j.pieces ∨ c.kind = kind ∧ (c.tableAlias = tableAlias ∨
      a.isJoinTable = true ∧ c.tableAlias = tableAlias ++ joinTableName point.entity p a ++ "_") := by
  obtain ⟨identity, -, ⟨-, rfl⟩ | ⟨ownerIdentity, hforeign, -, hcases⟩⟩ := writeJoin_cases h
  · refine ⟨Joins.push_isPrefix _ _, Joins.opening_infix_push .., fun c hc => ?_⟩
    exact (Joins.mem_push hc).imp_right fun heq => by simp [heq, clauseFrom]
  rcases hcases with ⟨name, mapped, -, -, rfl⟩ | ⟨columns, hmappedBy, -, rfl⟩
  · refine ⟨Joins.push_isPrefix _ _, Joins.opening_infix_push .., fun c hc => ?_⟩
    exact (Joins.mem_push hc).imp_right fun heq => by simp [heq, clauseFrom]
  · refine ⟨?_, Joins.opening_infix_push .., fun c hc => ?_⟩
    · exact (Joins.push_isPrefix _ _).trans ((Joins.pushBlank_isPrefix _).trans (Joins.push_isPrefix _ _))
    · have hlink : a.isJoinTable = true := by simp [Association.isJoinTable, hforeign, hmappedBy]
      rcases Joins.mem_push hc with hc | rfl
      · exact (Joins.mem_push (Joins.mem_pushBlank hc)).imp_right fun heq => by simp [heq, clauseFrom, hlink]
      · exact .inr ⟨rfl, .inl rfl⟩

/-! ### Aliases that are used -/

/-- The alias of a table where associations have been joined under some aliases. -/
def usedAlias? (s : Schema n) (m : QueryModel n) (j : Joins n) : AliasedTable → Option String
  | .root => some m.root.rootAlias
  | .target path => j.aliasAt? m.root.rootAlias path
  | .link path => do
    let tableAlias ← j.aliasAt? m.root.rootAlias path
    let (owner, p, a) ← s.associationAt? m.root path
    return tableAlias ++ joinTableName owner p a ++ "_"

/-- The tables that paths join have different aliases. -/
def HasDistinctHops (s : Schema n) (m : QueryModel n) (j : Joins n) : Prop :=
  ∀ t ∈ s.aliasedTables m, ∀ t' ∈ s.aliasedTables m, t ≠ .root → t' ≠ .root →
    s.usedAlias? m j t = s.usedAlias? m j t' → t = t'

instance (s : Schema n) (m : QueryModel n) (j : Joins n) : Decidable (s.HasDistinctHops m j) :=
  inferInstanceAs (Decidable (∀ t ∈ s.aliasedTables m, ∀ t' ∈ s.aliasedTables m, t ≠ .root → t' ≠ .root →
    _ → t = t'))

theorem ne_root_of_mem_joinedTables {path : List String} {t : AliasedTable} (h : t ∈ s.joinedTables m path) :
    t ≠ .root := by
  rintro rfl
  cases path?_of_mem_joinedTables h

theorem target_mem_joinedTables (s : Schema n) (m : QueryModel n) (path : List String) :
    .target path ∈ s.joinedTables m path :=
  List.mem_append_right _ List.mem_cons_self

/-- An alias that is not the root's tells the path. -/
theorem HasDistinctHops.path_eq (h : s.HasDistinctHops m j) {path path' : List String} {join join' : JoinPath}
    (hne : path ≠ []) (hne' : path' ≠ []) (hfirst : m.firstAlong? path = some join)
    (hfirst' : m.firstAlong? path' = some join') {t t' : AliasedTable} (ht : t ∈ s.joinedTables m path)
    (ht' : t' ∈ s.joinedTables m path') (halias : s.usedAlias? m j t = s.usedAlias? m j t') :
    path = path' := by
  obtain ⟨hjoin, hbegins⟩ := QueryModel.firstAlong?_cases hfirst
  obtain ⟨hjoin', hbegins'⟩ := QueryModel.firstAlong?_cases hfirst'
  have hsame : t = t' := h t (joinedTables_subset hjoin hbegins hne ht) t'
    (joinedTables_subset hjoin' hbegins' hne' ht') (ne_root_of_mem_joinedTables ht)
    (ne_root_of_mem_joinedTables ht') halias
  have hpath := path?_of_mem_joinedTables ht
  rw [hsame, path?_of_mem_joinedTables ht'] at hpath
  exact (Option.some.inj hpath).symm

theorem usedAlias?_mono (hkept : ∀ key tableAlias, j.applied.lookup key = some tableAlias →
      j'.applied.lookup key = some tableAlias) {t : AliasedTable} {tableAlias : String}
    (h : s.usedAlias? m j t = some tableAlias) : s.usedAlias? m j' t = some tableAlias := by
  cases t with
  | root => exact h
  | target path => exact Joins.aliasAt?_mono hkept h
  | link path =>
    simp only [usedAlias?] at h ⊢
    obtain ⟨found, hfound, hrest⟩ := Option.bind_eq_some_iff.1 h
    exact Option.bind_eq_some_iff.2 ⟨found, Joins.aliasAt?_mono hkept hfound, hrest⟩

namespace Reached
variable {point : JoinPoint n}

theorem entityAt? (h : s.Reached m.rootPoint j point) :
    s.entityAt? m.root point.parts = some point.entity := by
  induction h with
  | start => rfl
  | next _ hp ha _ _ ih => exact entityAt?_concat ih hp ha

theorem aliasAt? (h : s.Reached m.rootPoint j point) :
    j.aliasAt? m.root.rootAlias point.parts = some point.tableAlias := by
  induction h with
  | start => rfl
  | next _ _ _ _ hlookup ih => exact (Joins.aliasAt?_concat ih).trans hlookup

/-- A table that is joined with the next part has the alias of its target, or the one of its join table that
follows from it. -/
theorem mem_joinedTables {part tableAlias used : String} {p : Property n} {a : Association n}
    (h : s.Reached m.rootPoint j point) (hp : point.entity.property? part = some p)
    (ha : p.association? = some a) (hlookup : j.applied.lookup (point.tableAlias, part) = some tableAlias)
    (hused : used = tableAlias ∨
      a.isJoinTable = true ∧ used = tableAlias ++ joinTableName point.entity p a ++ "_") :
    ∃ t ∈ s.joinedTables m (point.parts ++ [part]), s.usedAlias? m j t = some used := by
  have halias : j.aliasAt? m.root.rootAlias (point.parts ++ [part]) = some tableAlias :=
    (Joins.aliasAt?_concat h.aliasAt?).trans hlookup
  rcases hused with rfl | ⟨hlink, rfl⟩
  · exact ⟨_, target_mem_joinedTables s m _, halias⟩
  · have hassociation := associationAt?_concat h.entityAt? hp ha
    refine ⟨.link (point.parts ++ [part]), ?_, by simp [usedAlias?, halias, hassociation]⟩
    simp [joinedTables, hassociation, hlink]

end Reached

/-! ### Following paths -/

/-- What holds as paths are followed: the first join along a path has joined the association at its end. -/
structure JoinedByFirst (s : Schema n) (m : QueryModel n) (done : List JoinPath) (point : JoinPoint n)
    (j : Joins n) : Prop where
  followed : s.Followed m done point j
  applied : ∀ entry ∈ j.applied, ∃ point' join, s.Reached m.rootPoint j point' ∧ point'.parts ≠ [] ∧
    m.firstAlong? point'.parts = some join ∧ point'.tableAlias = entry.2 ∧
    (join.kind.opening point'.entity.tableName point'.tableAlias).toList <:+: j.text.toList
  clauses : ∀ c, .clause c ∈ j.pieces → ∃ path ≠ [], ∃ join, m.firstAlong? path = some join ∧
    (∃ t ∈ s.joinedTables m path, s.usedAlias? m j t = some c.tableAlias) ∧ c.kind = join.kind

/-- An association that has not been joined from a point is not on the path of a join that is done. -/
theorem Followed.firstAlong?_eq_some {done after : List JoinPath} {join : JoinPath} {point : JoinPoint n}
    {part : String} {rest : List String} (h : s.Followed m done point j)
    (hjoins : m.joins = done ++ join :: after) (hparts : join.parts = point.parts ++ part :: rest)
    (hnew : j.applied.lookup (point.tableAlias, part) = none) :
    m.firstAlong? (point.parts ++ [part]) = some join := by
  refine QueryModel.firstAlong?_eq_some hjoins ⟨rest, by simp [hparts]⟩ fun earlier hearlier hbegins => ?_
  obtain ⟨point', hreached, hparts', -⟩ := h.recorded _ (by simp) (.inl ⟨earlier, hearlier, hbegins⟩)
  obtain ⟨p, a, tableAlias, -, -, -, hlookup, -⟩ := h.reached.eq_next hreached hparts'
  rw [hnew] at hlookup
  cases hlookup

/-- An association that is joined with the next part is joined by the first join along its path. -/
theorem JoinedByFirst.step {done after : List JoinPath} {join : JoinPath} {point : JoinPoint n}
    {part tableAlias : String} {rest : List String} {p : Property n} {a : Association n}
    (hj : s.JoinedByFirst m done point j) (hjoins : m.joins = done ++ join :: after)
    (hparts : join.parts = point.parts ++ part :: rest)
    (hassociation : joinAssociation point.entity join.path part = .ok (p, a))
    (hjoined : s.JoinedAs m join rest point part p a j tableAlias j') :
    s.JoinedByFirst m done (point.next part tableAlias (s.target a))
      (j'.reach (point.next part tableAlias (s.target a))) := by
  have hfollowed := hj.followed.step (by simp [hjoins]) hparts hassociation hjoined
  have hlookup := hjoined.lookup
  have hkept : ∀ key found, j.applied.lookup key = some found → j'.applied.lookup key = some found :=
    fun _ _ => hjoined.keeps
  obtain ⟨hp, ha, -⟩ := joinAssociation_eq_ok hassociation
  cases hjoined with
  | before =>
    refine ⟨hfollowed, fun entry hentry => ?_, hj.clauses⟩
    obtain ⟨point', join', hreached, hrest⟩ := hj.applied entry hentry
    exact ⟨point', join', hreached.mono hkept, hrest⟩
  | @now j₀ hnew _ hwrite =>
    have hfirst := hj.followed.firstAlong?_eq_some hjoins hparts hnew
    obtain ⟨hextends, hopening, hwritten⟩ := writeJoin_clauses hwrite
    refine ⟨hfollowed, fun entry hentry => ?_, fun c hc => ?_⟩
    · rcases List.mem_cons.1 hentry with rfl | hentry
      · exact ⟨_, join, hfollowed.reached, by simp [JoinPoint.next], hfirst, rfl, hopening⟩
      · rw [(writeJoin_keeps hwrite).1] at hentry
        obtain ⟨point', join', hreached, hne, hfirst', halias, hopening'⟩ := hj.applied entry hentry
        exact ⟨point', join', hreached.mono hkept, hne, hfirst', halias,
          hopening'.trans (Joins.text_isPrefix hextends).isInfix⟩
    · rcases hwritten c hc with hc | ⟨hkind, halias⟩
      · obtain ⟨path, hne, join', hfirst', ⟨t, ht, hused⟩, hkind⟩ := hj.clauses c hc
        exact ⟨path, hne, join', hfirst', ⟨t, ht, usedAlias?_mono hkept hused⟩, hkind⟩
      · exact ⟨_, by simp, join, hfirst,
          (hj.followed.reached.mono hkept).mem_joinedTables hp ha hlookup halias, hkind⟩

theorem joinAll_joinedByFirst (h : s.joinAll m = .ok j) : s.JoinedByFirst m m.joins m.rootPoint j := by
  refine joinAll_walk (Q := s.JoinedByFirst m) ?_ ?_ ?_ h
  · exact ⟨.empty s m, by simp, by simp⟩
  · exact fun done join after _ hpath point j hparts hj =>
      ⟨hj.followed.restart hpath hparts, hj.applied, hj.clauses⟩
  · intro done join after hjoins point part rest hparts p a hassociation tableAlias j j₁ hjoined hj
    exact hj.step hjoins hparts hassociation hjoined

/-- The table that a path leads to has been joined by the first join along the path. -/
theorem joinedByFirst_table {path : List String} (hdistinct : s.HasDistinctHops m j) (h : s.joinAll m = .ok j)
    (hne : path ≠ []) {join : JoinPath} (hfirst : m.firstAlong? path = some join) :
    ∃ t, j.table? (".".intercalate path) = some t ∧ s.usedAlias? m j (.target path) = some t.tableAlias ∧
      (join.kind.opening t.entity.tableName t.tableAlias).toList <:+: j.text.toList := by
  have hj := joinAll_joinedByFirst h
  obtain ⟨hjoin, hbegins⟩ := QueryModel.firstAlong?_cases hfirst
  obtain ⟨point, hreached, rfl, ht⟩ := hj.followed.recorded path hne (.inl ⟨join, hjoin, hbegins⟩)
  refine ⟨point.table, hj.followed.table?_eq hreached hne hbegins ht, hreached.aliasAt?, ?_⟩
  -- the alias of the point is that of an association, which was joined at the end of the same path
  obtain ⟨point', join', hreached', hne', hfirst', halias, hopening⟩ : ∃ point' join',
      s.Reached m.rootPoint j point' ∧ point'.parts ≠ [] ∧ m.firstAlong? point'.parts = some join' ∧
      point'.tableAlias = point.tableAlias ∧
      (join'.kind.opening point'.entity.tableName point'.tableAlias).toList <:+: j.text.toList := by
    cases hreached with
    | start => exact absurd rfl hne
    | next _ _ _ _ hlookup => exact hj.applied _ (mem_applied_of_lookup hlookup)
  have hsame : s.usedAlias? m j (.target point'.parts) = s.usedAlias? m j (.target point.parts) := by
    rw [usedAlias?, hreached'.aliasAt?, halias, usedAlias?, hreached.aliasAt?]
  have hparts := hdistinct.path_eq hne' hne hfirst' hfirst (target_mem_joinedTables s m _)
    (target_mem_joinedTables s m _) hsame
  obtain rfl := hreached'.unique hreached hparts
  obtain rfl := Option.some.inj (hfirst'.symm.trans hfirst)
  exact hopening

/-- The first declared join along a path gives its kind to all clauses that join the table at the end of the
path, as long as no alias is that of two tables, and the text has such a clause. So a join has its own kind
if none before it is on a path that goes on behind its own. -/
theorem query_joinedByFirst {q : Template} (h : s.query m = .ok q)
    (hdistinct : ∀ j, s.joinAll m = .ok j → s.HasDistinctHops m j) :
    ∃ j st slots, s.joinAll m = .ok j ∧ s.selectStatement m = .ok (st, slots) ∧ q = .ofSlots st.text slots ∧
      ∀ path ≠ [], ∀ join, m.firstAlong? path = some join →
        ∃ t, j.table? (".".intercalate path) = some t ∧ s.usedAlias? m j (.target path) = some t.tableAlias ∧
          (join.kind.opening t.entity.tableName t.tableAlias).toList <:+:
            (String.join (st.joins.map (·.text))).toList ∧
          ∀ c, .clause c ∈ st.joins → ∀ table ∈ s.joinedTables m path,
            s.usedAlias? m j table = some c.tableAlias → c.kind = join.kind := by
  simp only [query, Outcome.bind_eq_ok, Outcome.pure_eq_ok, Prod.exists] at h
  obtain ⟨st, slots, hstatement, rfl⟩ := h
  have hcompiled := hstatement
  simp only [selectStatement, Outcome.bind_eq_ok, Outcome.pure_eq_ok, Prod.mk.injEq, Prod.exists]
    at hstatement
  obtain ⟨j, hjoins, items, -, condition, slots', -, order, -, rfl, -⟩ := hstatement
  refine ⟨j, _, slots, hjoins, hcompiled, rfl, fun path hne join hfirst => ?_⟩
  have hdistinct := hdistinct j hjoins
  obtain ⟨t, htable, halias, hopening⟩ := joinedByFirst_table hdistinct hjoins hne hfirst
  refine ⟨t, htable, halias, hopening, fun c hc table hmem hused => ?_⟩
  obtain ⟨path', hne', join', hfirst', ⟨table', hmem', hused'⟩, hkind⟩ :=
    (joinAll_joinedByFirst hjoins).clauses c hc
  obtain rfl := hdistinct.path_eq hne hne' hfirst hfirst' hmem hmem' (hused.trans hused'.symm)
  obtain rfl := Option.some.inj (hfirst.symm.trans hfirst')
  exact hkind

/-- Those who taught an author, if anybody did. -/
def teachers : JoinPath := { path := "author", kind := .left, explicitAlias := some "a" }

def teachersOfTeachers : JoinPath := { path := "author.author", explicitAlias := some "b" }

def namesByTeachers (joins : List JoinPath) : QueryModel 1 := { authorsByTeacher with joins := joins }

theorem query_joinedByFirst_teachers :
    let m := namesByTeachers [teachers, teachersOfTeachers]
    ∃ q j st slots, taughtAuthors.query m = .ok q ∧ taughtAuthors.joinAll m = .ok j ∧
    taughtAuthors.HasDistinctHops m j ∧ taughtAuthors.selectStatement m = .ok (st, slots) ∧
    q = .ofSlots st.text slots ∧
    (JoinKind.left.opening "author" "a").toList <:+: (String.join (st.joins.map (·.text))).toList ∧
    (JoinKind.inner.opening "author" "b").toList <:+: (String.join (st.joins.map (·.text))).toList ∧
    ∀ c, .clause c ∈ st.joins →
      (c.tableAlias = "a" → c.kind = .left) ∧ (c.tableAlias = "b" → c.kind = .inner) := by
  intro m
  have hquery : (taughtAuthors.query m).toOption.isSome = true := by decide +kernel
  obtain ⟨q, hq⟩ := Option.isSome_iff_exists.1 hquery
  have hq := Outcome.eq_ok_of_toOption hq
  have hjoined : ((taughtAuthors.joinAll m).toOption.map fun j =>
      (decide (taughtAuthors.HasDistinctHops m j),
        (j.table? "author").map fun t => (t.entity.tableName, t.tableAlias),
        (j.table? "author.author").map fun t => (t.entity.tableName, t.tableAlias))) =
      some (true, some ("author", "a"), some ("author", "b")) := by decide +kernel
  obtain ⟨j, hj, hfacts⟩ := Option.map_eq_some_iff.1 hjoined
  simp only [Prod.mk.injEq, decide_eq_true_eq, Option.map_eq_some_iff] at hfacts
  obtain ⟨hdistinct, ⟨t, ht, hname, halias⟩, t', ht', hname', halias'⟩ := hfacts
  have hj := Outcome.eq_ok_of_toOption hj
  obtain ⟨j', st, slots, hj', hstatement, htext, hkinds⟩ := query_joinedByFirst hq fun j' hj' =>
    Except.ok.inj (hj.symm.trans hj') ▸ hdistinct
  obtain rfl := Except.ok.inj (hj.symm.trans hj')
  obtain ⟨u, hu, hused, hopening, hclauses⟩ := hkinds ["author"] (by simp) teachers (by decide +kernel)
  obtain ⟨u', hu', hused', hopening', hclauses'⟩ :=
    hkinds ["author", "author"] (by simp) teachersOfTeachers (by decide +kernel)
  obtain rfl := Option.some.inj (ht.symm.trans hu)
  obtain rfl := Option.some.inj (ht'.symm.trans hu')
  rw [hname, halias] at hopening
  rw [hname', halias'] at hopening'
  refine ⟨q, j, st, slots, hq, hj, hdistinct, hstatement, htext, hopening, hopening', fun c hc => ⟨?_, ?_⟩⟩
  · intro hc'
    exact hclauses c hc _ (target_mem_joinedTables ..) (by rw [hused, halias, hc'])
  · intro hc'
    exact hclauses' c hc _ (target_mem_joinedTables ..) (by rw [hused', halias', hc'])

/-- In the other order, the left join is none: the longer path has joined the teachers before. -/
theorem query_losesKind :
    let m := namesByTeachers [teachersOfTeachers, teachers]
    ∃ q j st slots, taughtAuthors.query m = .ok q ∧ taughtAuthors.joinAll m = .ok j ∧
    taughtAuthors.HasDistinctHops m j ∧ taughtAuthors.selectStatement m = .ok (st, slots) ∧
    q = .ofSlots st.text slots ∧
    m.joins.find? (·.path = "author") = some teachers ∧ teachers.kind = .left ∧
    ∃ c, .clause c ∈ st.joins ∧ taughtAuthors.usedAlias? m j (.target ["author"]) = some c.tableAlias ∧
      c.kind = .inner := by
  intro m
  let c : JoinClause := ⟨.inner, "author", "a", "author_", "author_id", "id"⟩
  let st : SelectStatement := {
    items := [.column ⟨"author_", "name"⟩]
    table := "author"
    rootAlias := "author_"
    joins := [.clause c, .clause ⟨.inner, "author", "b", "a", "author_id", "id"⟩]
    condition := none
    order := [] }
  have hstatement : (taughtAuthors.selectStatement m).toOption = some (st, []) := by decide +kernel
  have hjoined : ((taughtAuthors.joinAll m).toOption.map fun j =>
      (decide (taughtAuthors.HasDistinctHops m j), taughtAuthors.usedAlias? m j (.target ["author"]))) =
      some (true, some "a") := by decide +kernel
  have hstatement := Outcome.eq_ok_of_toOption hstatement
  obtain ⟨j, hj, hfacts⟩ := Option.map_eq_some_iff.1 hjoined
  obtain ⟨hdistinct, hused⟩ := Prod.mk.inj hfacts
  exact ⟨.ofSlots st.text [], j, st, [], query_of_selectStatement hstatement, Outcome.eq_ok_of_toOption hj,
    of_decide_eq_true hdistinct, hstatement, rfl, by decide, rfl, c, List.mem_cons_self, hused, rfl⟩

end Schema

end EntitySql
