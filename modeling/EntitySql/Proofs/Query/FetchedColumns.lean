import EntitySql.Proofs.Metadata.Columns
import EntitySql.Proofs.Query.JoinAliases
import EntitySql.Proofs.Query.ReachedPoints

/-! # Columns of fetched tables

What a fetch join adds to the list of a SELECT (`Schema.query_fetches`): every column of the entity that its path
leads to, once, with the alias of the path's table and under a name that begins with the path. Only the parts of an
embedded identity are missing, as the columns of the identity are left out and then a plain one is put in front
(`Schema.query_fetchesKeyless`). -/

namespace EntitySql
variable {n : Nat} {s : Schema n} {m : QueryModel n} {join : JoinPath} {j : Joins n} {point : JoinPoint n}
  {identity : Property n} {items : List SelectItem}

/-- The name of a column behind the prefix of its path: without the quotes around it. -/
def fetchedName (e : Entity n) (c : Column n) : String :=
  if c.identity then e.columnName c.property else String.ofList (Text.trim '\x60' c.text.toList)

/-- A column of the table at a point, as a fetch join returns it. -/
def fetchedItem (join : JoinPath) (point : JoinPoint n) (c : Column n) : SelectItem :=
  .fetched point.tableAlias c.text (pathAlias join.path ++ fetchedName point.entity c)

/-- The column of an identity, as a fetch join puts it in front. -/
def fetchedIdentity (join : JoinPath) (point : JoinPoint n) (identity : Property n) : SelectItem :=
  .fetched point.tableAlias (point.entity.quote (point.entity.columnName identity))
    (pathAlias join.path ++ point.entity.columnName identity)

namespace Schema

/-- What a fetch join adds for the table at a point, as the entity is identified. -/
inductive Fetches (s : Schema n) (join : JoinPath) (point : JoinPoint n) (items : List SelectItem) : Prop
  /-- With a plain identity, every column once. -/
  | plain {identity : Property n} (h : point.entity.identity = some identity)
    (hforeign : identity.isForeignKey = false) (hplain : identity.embedded? = none)
    (hitems : items.Perm ((s.columns point.entity).map (fetchedItem join point)))
  /-- With an embedded identity, the columns that are not its parts. -/
  | embedded {identity : Property n} {a : Association n} (h : point.entity.identity = some identity)
    (hembedded : identity.embedded? = some a)
    (hitems : items = ((s.columns point.entity).filter fun c => !c.identity).map (fetchedItem join point))
  /-- An identity that has no column here is put in front of the columns all the same. -/
  | foreign {identity : Property n} (h : point.entity.identity = some identity)
    (hforeign : identity.isForeignKey = true)
    (hitems : items = fetchedIdentity join point identity :: (s.columns point.entity).map (fetchedItem join point))

theorem fetchedItems_eq_ok (htable : j.table? join.path = some point.table)
    (h : s.fetchedItems j join = .ok items) : ∃ identity, point.entity.identity = some identity ∧
      items = (if identity.embedded?.isSome then [] else [fetchedIdentity join point identity]) ++
        ((s.columns point.entity).filter (!·.identity)).map (fetchedItem join point) := by
  unfold fetchedItems at h
  rw [htable] at h
  simp only [Outcome.bind_eq_ok, Outcome.pure_eq_ok] at h
  obtain ⟨identity, hrequired, rfl⟩ := h
  have hothers : ((s.columns point.entity).filter (!·.identity)).map (fetchedItem join point) =
      ((s.columns point.entity).filter (!·.identity)).map fun c => .fetched point.tableAlias c.text
        (pathAlias join.path ++ String.ofList (Text.trim '\x60' c.text.toList)) := by
    refine List.map_congr_left fun c hc => ?_
    have hother : c.identity = false := by simpa using (List.mem_filter.1 hc).2
    rw [fetchedItem, fetchedName, hother, if_neg Bool.false_ne_true]
  rw [hothers]
  exact ⟨identity, Entity.identity_of_required hrequired, rfl⟩

/-- All columns are those that are not of the identity, and its own. -/
theorem columns_eq_filter_append {e : Entity n} (s : Schema n) (h : e.identity = some identity) :
    s.columns e = (s.columns e).filter (!·.identity) ++ s.columnsOf e true identity := by
  obtain ⟨others, hcolumns, hothers⟩ := s.columns_eq_append e
  rw [h, Option.toList_some, List.flatMap_singleton] at hcolumns
  have hkept : others.filter (!·.identity) = others := List.filter_eq_self.2 fun c hc => by simp [hothers c hc]
  have hdropped : (s.columnsOf e true identity).filter (!·.identity) = [] :=
    List.filter_eq_nil_iff.2 fun c hc => by simp [(mem_columnsOf hc).2.1]
  rw [hcolumns, List.filter_append, hkept, hdropped, List.append_nil]

theorem fetches_of_fetchedItems (htable : j.table? join.path = some point.table)
    (h : s.fetchedItems j join = .ok items) : s.Fetches join point items := by
  obtain ⟨identity, hidentity, rfl⟩ := fetchedItems_eq_ok htable h
  cases hembedded : identity.embedded? with
  | some a => exact .embedded hidentity hembedded rfl
  | none =>
    have hcolumns := s.columns_eq_filter_append hidentity
    rw [columnsOf, hembedded] at hcolumns
    cases hforeign : identity.isForeignKey with
    | false =>
      -- the column of the identity is the last of all columns, and the first that is fetched
      have hall := congrArg (List.map (fetchedItem join point)) hcolumns
      rw [hforeign, if_neg Bool.false_ne_true, List.map_append] at hall
      refine .plain hidentity hforeign hembedded ?_
      rw [hall]
      exact List.perm_append_comm
    | true =>
      refine .foreign hidentity hforeign ?_
      rw [hforeign, if_pos rfl, List.append_nil] at hcolumns
      rw [← hcolumns]
      rfl

/-- A plain identity is fetched with all other columns. -/
theorem Fetches.perm (h : s.Fetches join point items)
    (hplain : ∀ identity ∈ point.entity.identity, identity.isForeignKey = false ∧ identity.embedded? = none) :
    items.Perm ((s.columns point.entity).map (fetchedItem join point)) := by
  cases h with
  | plain _ _ _ hperm => exact hperm
  | embedded hidentity hembedded => cases hembedded.symm.trans (hplain _ hidentity).2
  | foreign hidentity hforeign => cases hforeign.symm.trans (hplain _ hidentity).1

/-- A path that was followed is on record with the table that it leads to. -/
theorem Followed.exists_table {done : List JoinPath} (h : s.Followed m done point j) (hjoin : join ∈ done) :
    ∃ point', s.Reached m.rootPoint j point' ∧ point'.parts = join.parts ∧
      j.table? join.path = some point'.table := by
  have hne : join.parts ≠ [] := by simpa [JoinPath.parts] using Text.pieces_ne_nil '.' join.path.toList
  obtain ⟨point', hreached, hparts, ht⟩ := h.recorded join.parts hne (.inl ⟨join, hjoin, List.prefix_rfl⟩)
  have hbegins : point'.parts <+: join.parts := hparts ▸ List.prefix_rfl
  have htable := h.table?_eq hreached (hparts ▸ hne) hbegins ht
  rw [hparts, join.intercalate_parts] at htable
  exact ⟨point', hreached, hparts, htable⟩

/-- The items of a declared fetch join stand between those of the joins before and behind it. -/
theorem selectItems_eq_ok {done rest : List JoinPath} (hall : m.projection = .all)
    (hjoins : m.joins = done ++ join :: rest) (hfetch : join.kind.isFetch = true)
    (h : s.selectItems m j = .ok items) : ∃ front own back,
      (done.filter (·.kind.isFetch)).mapM (s.fetchedItems j) = .ok front ∧
      s.fetchedItems j join = .ok own ∧
      (rest.filter (·.kind.isFetch)).mapM (s.fetchedItems j) = .ok back ∧
      items = s.allItems m.root m.root.rootAlias ++ front.flatten ++ own ++ back.flatten := by
  have hkept : m.joins.filter (·.kind.isFetch) =
      done.filter (·.kind.isFetch) ++ join :: rest.filter (·.kind.isFetch) := by
    rw [hjoins, List.filter_append, List.filter_cons, if_pos hfetch]
  simp only [selectItems, hall, hkept, List.mapM_append, List.mapM_cons, Outcome.bind_eq_ok, Outcome.pure_eq_ok]
    at h
  obtain ⟨fetched, ⟨front, hfront, behind, ⟨own, hown, back, hback, rfl⟩, rfl⟩, rfl⟩ := h
  exact ⟨front, own, back, hfront, hown, hback, by simp⟩

/-- The item is one of those that a fetch join adds. -/
def FetchedBy (s : Schema n) (j : Joins n) (join : JoinPath) (item : SelectItem) : Prop :=
  join.kind.isFetch = true ∧ ∃ items, s.fetchedItems j join = .ok items ∧ item ∈ items

theorem fetchedBy_of_mapM {joins : List JoinPath} {fetched : List (List SelectItem)} {item : SelectItem}
    (h : (joins.filter (·.kind.isFetch)).mapM (s.fetchedItems j) = .ok fetched) (hitem : item ∈ fetched.flatten) :
    ∃ join ∈ joins, s.FetchedBy j join item := by
  obtain ⟨items, hitems, hitem⟩ := List.mem_flatten.1 hitem
  obtain ⟨join, hjoin, hjoined⟩ := Outcome.exists_of_mem_mapM h hitems
  obtain ⟨hjoin, hfetch⟩ := List.mem_filter.1 hjoin
  exact ⟨join, hjoin, hfetch, items, hjoined, hitem⟩

/-- A fetch join that is declared once adds the columns of the table that its path leads to, and nothing else in the
list is under its path. -/
theorem query_fetches {q : Template} (h : s.query m = .ok q) (hall : m.projection = .all)
    (honce : m.joins.filter (·.path = join.path) = [join]) (hfetch : join.kind.isFetch = true) :
    ∃ j st slots point, s.joinAll m = .ok j ∧ s.selectStatement m = .ok (st, slots) ∧
      q = .ofSlots st.text slots ∧ s.Reached m.rootPoint j point ∧ point.parts = join.parts ∧
      j.table? join.path = some point.table ∧
      ∃ before own after, st.items = before ++ own ++ after ∧ s.Fetches join point own ∧
        ∀ item ∈ before ++ after, item ∈ s.allItems m.root m.root.rootAlias ∨
          ∃ other ∈ m.joins, other.path ≠ join.path ∧ s.FetchedBy j other item := by
  simp only [query, Outcome.bind_eq_ok, Outcome.pure_eq_ok, Prod.exists] at h
  obtain ⟨st, slots, hstatement, rfl⟩ := h
  have hcompiled := hstatement
  simp only [selectStatement, Outcome.bind_eq_ok, Outcome.pure_eq_ok, Prod.mk.injEq, Prod.exists]
    at hstatement
  obtain ⟨j, hjoins, items, hitems, condition, slots', -, order, -, rfl, -⟩ := hstatement
  obtain ⟨done, rest, hsplit, hdone, -, hrest⟩ := List.filter_eq_cons_iff.1 honce
  have hjoin : join ∈ m.joins := by simp [hsplit]
  obtain ⟨point, hreached, hparts, htable⟩ := (joinAll_followed hjoins).exists_table hjoin
  obtain ⟨front, own, back, hfront, hown, hback, rfl⟩ := selectItems_eq_ok hall hsplit hfetch hitems
  refine ⟨j, _, slots, point, hjoins, hcompiled, rfl, hreached, hparts, htable, _, own, back.flatten, rfl,
    fetches_of_fetchedItems htable hown, fun item hitem => ?_⟩
  rw [List.mem_append, List.mem_append] at hitem
  rcases hitem with (hitem | hitem) | hitem
  · exact .inl hitem
  · obtain ⟨other, hother, hfetched⟩ := fetchedBy_of_mapM hfront hitem
    exact .inr ⟨other, by simp [hsplit, hother], by simpa using hdone other hother, hfetched⟩
  · obtain ⟨other, hother, hfetched⟩ := fetchedBy_of_mapM hback hitem
    have hpath : ¬ other.path = join.path := by simpa using List.filter_eq_nil_iff.1 hrest other hother
    exact .inr ⟨other, by simp [hsplit, hother], hpath, hfetched⟩

def novelsFetched : JoinPath := { path := "novels", kind := .fetch }

/-- Authors with all columns of their novels. -/
def authorsWithNovels : QueryModel 3 where
  root := authorsOfGenre.root
  joins := [novelsFetched]

theorem query_fetches_novels : ∃ q st slots before own after,
    novels.query authorsWithNovels = .ok q ∧ novels.selectStatement authorsWithNovels = .ok (st, slots) ∧
    q = .ofSlots st.text slots ∧ st.items = before ++ own ++ after ∧
    own.Perm [.fetched "novels_" "title" "novels_title", .fetched "novels_" "author_id" "novels_author_id",
      .fetched "novels_" "id" "novels_id"] := by
  have hquery : (novels.query authorsWithNovels).toOption.isSome = true := by decide +kernel
  have hjoined : ((novels.joinAll authorsWithNovels).toOption.bind (·.table? "novels")).map (fun t =>
      (t.entity.identity.all fun p => !p.isForeignKey && p.embedded?.isNone,
        (novels.columns t.entity).map (fetchedItem novelsFetched ⟨t.tableAlias, t.entity, ["novels"]⟩))) =
      some (true, [.fetched "novels_" "title" "novels_title",
        .fetched "novels_" "author_id" "novels_author_id", .fetched "novels_" "id" "novels_id"]) := by
    decide +kernel
  obtain ⟨q, hq⟩ := Option.isSome_iff_exists.1 hquery
  have hq := Outcome.eq_ok_of_toOption hq
  have honce : authorsWithNovels.joins.filter (·.path = novelsFetched.path) = [novelsFetched] := by decide +kernel
  obtain ⟨j, st, slots, point, hj, hstatement, htext, -, -, htable, before, own, after, hitems, hfetches, -⟩ :=
    query_fetches hq rfl honce rfl
  obtain ⟨t, ht, hfacts⟩ := Option.map_eq_some_iff.1 hjoined
  rw [hj] at ht
  obtain rfl : point.table = t := Option.some.inj (htable.symm.trans ht)
  obtain ⟨hplain, hcolumns⟩ := Prod.mk.inj hfacts
  have hperm := hfetches.perm fun identity hidentity => by
    simpa using (Option.all_eq_true ..).1 hplain identity hidentity
  rw [← hcolumns]
  exact ⟨q, st, slots, before, own, after, hq, hstatement, htext, hitems, hperm⟩

/-- Orders, and their lines, which an order and a number identify. -/
def orders : Schema 3 where
  entity
    | 0 => {
      name := "LineKey"
      properties := [
        { name := "orderId", content := .scalar .long },
        { name := "number", content := .scalar .integer }] }
    | 1 => {
      name := "OrderLine"
      identity := some {
        name := "key", content := .association { kind := .embedded, target := (Fin.last 2).rev } }
      properties := [
        { name := "amount", content := .scalar .long },
        { name := "order", content := .association { kind := .manyToOne, target := Fin.last 2 } }] }
    | 2 => {
      name := "Order"
      identity := some { name := "id", content := .scalar .long }
      properties := [
        { name := "customer", content := .scalar .string },
        { name := "lines"
          content := .association {
            kind := .oneToMany, target := (Fin.last 1).castSucc, mappedBy := some "order" } }] }

def linesFetched : JoinPath := { path := "lines", kind := .fetch }

def ordersWithLines : QueryModel 3 where
  root := orders.entity (Fin.last 2)
  joins := [linesFetched]

/-- The number of a line is a column of its table, but it is not among those that are fetched. -/
theorem query_fetchesKeyless : ∃ q j st slots t, orders.query ordersWithLines = .ok q ∧
    orders.joinAll ordersWithLines = .ok j ∧ orders.selectStatement ordersWithLines = .ok (st, slots) ∧
    q = .ofSlots st.text slots ∧ ordersWithLines.projection = .all ∧
    ordersWithLines.joins.filter (·.path = "lines") = [linesFetched] ∧ linesFetched.kind.isFetch = true ∧
    j.table? "lines" = some t ∧ "keyNumber" ∈ (orders.columns t.entity).map (·.text) ∧
    ∀ item ∈ st.items, ∀ name, item ≠ .fetched t.tableAlias "keyNumber" name := by
  let st : SelectStatement := {
    items := [.column ⟨"order_", "customer"⟩, .column ⟨"order_", "id"⟩,
      .fetched "lines_" "amount" "lines_amount", .fetched "lines_" "order_id" "lines_order_id"]
    table := "order"
    rootAlias := "order_"
    joins := [.clause ⟨.fetch, "orderline", "lines_", "order_", "id", "order_id"⟩]
    condition := none
    order := [] }
  have hstatement : (orders.selectStatement ordersWithLines).toOption = some (st, []) := by decide +kernel
  have hjoined : (orders.joinAll ordersWithLines).toOption.isSome = true := by decide +kernel
  have hcolumns : ((orders.joinAll ordersWithLines).toOption.bind (·.table? "lines")).map
      (fun t => (orders.columns t.entity).map (·.text)) =
        some ["amount", "order_id", "keyOrderId", "keyNumber"] := by decide +kernel
  have hstatement := Outcome.eq_ok_of_toOption hstatement
  obtain ⟨t, ht, htexts⟩ := Option.map_eq_some_iff.1 hcolumns
  obtain ⟨j, hj, ht⟩ := Option.bind_eq_some_iff.1 ht
  refine ⟨.ofSlots st.text [], j, st, [], t, query_of_selectStatement hstatement, Outcome.eq_ok_of_toOption hj,
    hstatement, rfl, rfl, by decide +kernel, rfl, ht, by simp [htexts], ?_⟩
  intro item hitem name
  simp only [st, List.mem_cons, List.not_mem_nil, or_false] at hitem
  rcases hitem with rfl | rfl | rfl | rfl <;> simp

end Schema

end EntitySql
