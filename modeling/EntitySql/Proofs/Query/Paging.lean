import EntitySql.Proofs.Query.Names
import EntitySql.Proofs.Statement.Layout

/-! # Orders and pages behind a query

What a page request puts behind the text of a query: the orders, which extend the ORDER BY clause of a sorted
query, and then the rows of the page (`PreparedQuery.pageText_eq`). The rows are the same whatever the orders are,
and all rows need no text. The exception is a single row that is read from an offset on: when its page has orders,
one row is asked for, also where the page has all rows (`PreparedQuery.prepare_rows`). -/

namespace EntitySql

/-- Orders behind a text that ends with an ORDER BY clause, or does not. -/
def furtherOrders (sorted : Bool) (order : List OrderItem) : String :=
  if order.isEmpty then ""
  else (if sorted then "," else " ORDER BY ") ++ ",".intercalate (order.map (·.text))

theorem Schema.isEmpty_orderItems {n : Nat} {s : Schema n} {e : Entity n} {qualifier : String} {sort : List Order}
    {order : List OrderItem} (h : s.orderItems e qualifier sort = .ok order) : order.isEmpty = sort.isEmpty := by
  have hlength := (Outcome.mapM_eq_ok.1 h).length_eq
  rw [Bool.eq_iff_iff, List.isEmpty_iff_length_eq_zero, List.isEmpty_iff_length_eq_zero, hlength]

namespace PageRequest
variable {p : PageRequest}

theorem clause_of_all (h : p.size = 0) : p.clause = "" := by
  rw [clause, if_neg (by simp [isPaged, h])]

end PageRequest

/-- The statement with more text at its end. -/
def Statement.followedBy (st : Statement) (text : String) : Statement := { st with sql := st.sql ++ text }

theorem Statement.followedBy_followedBy (st : Statement) (text more : String) :
    (st.followedBy text).followedBy more = st.followedBy (text ++ more) := by
  simp [followedBy, String.append_assoc]

namespace PreparedQuery
variable {n : Nat} {s : Schema n} {q : PreparedQuery n}

/-- The rows that are asked for behind the orders. -/
def rowsText (q : PreparedQuery n) : String :=
  if q.mutating || (!q.page.isPaged && !q.page.isSorted) then "" else q.effectivePage.clause

/-- The page request puts its orders behind the text and then its rows. -/
theorem pageText_eq (s : Schema n) (q : PreparedQuery n) : q.pageText s =
    if q.mutating then .ok ""
    else (s.orderItems q.root q.root.rootAlias q.page.sort).map fun order =>
      furtherOrders q.sorted order ++ q.rowsText := by
  unfold pageText rowsText
  cases q.mutating with
  | true => rfl
  | false =>
    by_cases hsort : q.page.sort = []
    · have hunsorted : q.page.isSorted = false := by simp [PageRequest.isSorted, hsort]
      have hnone : s.orderItems q.root q.root.rootAlias q.page.sort = .ok [] := by rw [hsort]; rfl
      rw [hnone, hunsorted]
      cases q.page.isPaged <;> simp [furtherOrders, Except.map]
    · have hsorted : q.page.isSorted = true := by simp [PageRequest.isSorted, hsort]
      simp only [hsorted, Schema.orderBy, Schema.orderList, Bool.not_true, Bool.and_false, Bool.or_false,
        Bool.false_eq_true, if_false]
      cases hitems : s.orderItems q.root q.root.rootAlias q.page.sort with
      | error e => cases q.sorted <;> rfl
      | ok order =>
        have horder : order.isEmpty = false := by
          rw [Schema.isEmpty_orderItems hitems]
          simp [hsort]
        cases q.sorted <;> simp [furtherOrders, horder, Except.map]

/-- The query for all rows, without a page request. -/
def unpaged (q : PreparedQuery n) : PreparedQuery n := { q with page := {} }

/-- The query with the orders of its page request only. -/
def onlySorted (q : PreparedQuery n) : PreparedQuery n := { q with page := { sort := q.page.sort } }

theorem pageText_unpaged (s : Schema n) (q : PreparedQuery n) : q.unpaged.pageText s = .ok "" := by
  rw [pageText_eq]
  unfold unpaged rowsText
  cases q.mutating <;> rfl

/-- A page request has no part in what stands in front of its text. -/
theorem prepare_eq_unpaged (s : Schema n) (q : PreparedQuery n) (args : List Value) (now : Timestamp) :
    q.prepare s args now = do
      let st ← q.unpaged.prepare s args now
      return st.followedBy (← q.pageText s) := by
  unfold prepare
  rw [pageText_unpaged]
  show (q.compiled.bindings.mapM (Binding.resolve args now) >>= _) =
    (q.compiled.bindings.mapM (Binding.resolve args now) >>= _) >>= _
  cases q.compiled.bindings.mapM (Binding.resolve args now) with
  | error e => rfl
  | ok values =>
    dsimp only [unpaged, bind, Except.bind]
    cases expandTokens q.compiled.text (values.map (·.inSize)) q.compiled.text.toList [] with
    | error e => rfl
    | ok expansion =>
      cases q.pageText s with
      | error e => rfl
      | ok suffix =>
        simp only [String.append_empty]
        rfl

theorem rowsText_onlySorted (q : PreparedQuery n) : q.onlySorted.rowsText = "" := by
  have hpage : q.onlySorted.effectivePage.clause = "" := by
    refine PageRequest.clause_of_all ?_
    simp [effectivePage, onlySorted]
  rw [rowsText, hpage, ite_self]

theorem pageText_eq_onlySorted (s : Schema n) (q : PreparedQuery n) :
    q.pageText s = (q.onlySorted.pageText s).map (· ++ q.rowsText) := by
  rw [pageText_eq, pageText_eq, rowsText_onlySorted]
  show _ = Except.map _ (if q.mutating then _ else (s.orderItems q.root q.root.rootAlias q.page.sort).map _)
  cases hmutating : q.mutating with
  | true => simp [rowsText, hmutating, Except.map]
  | false =>
    cases s.orderItems q.root q.root.rootAlias q.page.sort with
    | error e => rfl
    | ok order => simp [onlySorted, Except.map]

/-- A single row that is read from an offset on is asked for as one row. -/
theorem effectivePage_clause (q : PreparedQuery n) : q.effectivePage.clause =
    if q.single = true ∧ q.page.offset ≠ 0 then PageRequest.clause { offset := q.page.offset, size := 1 }
    else q.page.clause := by
  unfold effectivePage
  by_cases h : q.single = true ∧ q.page.offset ≠ 0
  · rw [if_pos (by simpa using h), if_pos h]
    rfl
  · rw [if_neg (by simpa using h), if_neg h]

theorem rowsText_of_size (h : q.page.size ≠ 0) : q.rowsText =
    if q.mutating = true then ""
    else PageRequest.clause
      { offset := q.page.offset, size := if q.single = true ∧ q.page.offset ≠ 0 then 1 else q.page.size } := by
  have hpaged : q.page.isPaged = true := by simpa [PageRequest.isPaged] using Nat.pos_of_ne_zero h
  simp only [rowsText, hpaged, Bool.not_true, Bool.false_and, Bool.or_false, effectivePage_clause]
  split
  · rfl
  · split <;> rfl

/-- All rows have no text, but where the orders of a page let a single row be asked for. -/
theorem rowsText_of_all (h : q.page.size = 0) : q.rowsText =
    if q.mutating = false ∧ (q.single = true ∧ q.page.offset ≠ 0) ∧ q.page.sort ≠ [] then
      PageRequest.clause { offset := q.page.offset, size := 1 }
    else "" := by
  have hunpaged : q.page.isPaged = false := by simp [PageRequest.isPaged, h]
  simp only [rowsText, hunpaged, effectivePage_clause, PageRequest.clause_of_all h]
  by_cases hsort : q.page.sort = [] <;> by_cases hfirst : q.single = true ∧ q.page.offset ≠ 0 <;>
    cases q.mutating <;> simp [PageRequest.isSorted, hsort, hfirst]

/-- A page request puts its orders behind the statement and then its rows. The rows do not hang on the orders and
are none where the page has all rows, whatever its offset, with one exception: a query for a single row, with
an offset and orders, asks for one row where the page has all. -/
theorem prepare_rows (s : Schema n) (q : PreparedQuery n) (args : List Value) (now : Timestamp) :
    q.prepare s args now = (q.onlySorted.prepare s args now).map (·.followedBy q.rowsText) ∧
    ((q.mutating = false → q.page.size = 0 → ¬ (q.single = true ∧ q.page.offset ≠ 0)) → ∀ sort,
      { q with page := { q.page with sort := sort } }.rowsText = q.rowsText) ∧
    (q.page.size = 0 → q.rowsText =
      if q.mutating = false ∧ (q.single = true ∧ q.page.offset ≠ 0) ∧ q.page.sort ≠ [] then
        PageRequest.clause { offset := q.page.offset, size := 1 }
      else "") ∧
    (q.page.size ≠ 0 → q.rowsText =
      if q.mutating = true then ""
      else PageRequest.clause
        { offset := q.page.offset
          size := if q.single = true ∧ q.page.offset ≠ 0 then 1 else q.page.size }) := by
  refine ⟨?_, fun hrows sort => ?_, rowsText_of_all, rowsText_of_size⟩
  · rw [prepare_eq_unpaged, prepare_eq_unpaged s q.onlySorted, pageText_eq_onlySorted]
    show (q.unpaged.prepare s args now >>= _) = Except.map _ (q.unpaged.prepare s args now >>= _)
    cases q.unpaged.prepare s args now with
    | error e => rfl
    | ok st =>
      cases q.onlySorted.pageText s with
      | error e => rfl
      | ok orders => exact congrArg Except.ok (st.followedBy_followedBy orders q.rowsText).symm
  · -- the orders of the page are looked at in the excepted case only
    by_cases hsize : q.page.size = 0
    · rw [rowsText_of_all hsize, rowsText_of_all (q := { q with page := { q.page with sort := sort } }) hsize]
      rw [if_neg fun h => hrows h.1 hsize h.2.1, if_neg fun h => hrows h.1 hsize h.2.1]
    · rw [rowsText_of_size hsize, rowsText_of_size (q := { q with page := { q.page with sort := sort } }) hsize]

/-- A single title behind the first five, where the page has the given size and orders. -/
def titleBehindFive (size : Nat) (sort : List Order) : PreparedQuery 1 :=
  { root := .book
    compiled := { text := "SELECT book_.title FROM book book_" }
    page := { offset := 5, size := size, sort := sort }
    single := true }

theorem titleBehindFive_prepare {size : Nat} {sort : List Order} {text : String}
    (h : (titleBehindFive size sort).pageText Schema.books = .ok text) :
    (titleBehindFive size sort).prepare Schema.books [] .newYear =
      .ok ⟨"SELECT book_.title FROM book book_" ++ text, []⟩ := by
  have hexpand : expandTokens "SELECT book_.title FROM book book_" []
      "SELECT book_.title FROM book book_".toList [] =
      .ok ⟨"SELECT book_.title FROM book book_".toList, []⟩ := expandTokens_of_absent rfl
  unfold prepare
  show (expandTokens "SELECT book_.title FROM book book_" [] "SELECT book_.title FROM book book_".toList [] >>= _) = _
  rw [hexpand]
  show ((titleBehindFive size sort).pageText Schema.books >>= _) = _
  rw [h]
  show Except.ok (Statement.mk (String.ofList "SELECT book_.title FROM book book_".toList ++ text) []) = _
  rw [String.ofList_toList]

/-- A single title of a page of ten is one row behind the first five, in any order. -/
theorem prepare_rows_titleBehindFive :
    (titleBehindFive 10 [{ path := "title" }]).page.size ≠ 0 ∧
    (titleBehindFive 10 []).rowsText = " OFFSET 5 ROWS FETCH NEXT 1 ROWS ONLY " ∧
    ∃ st, (titleBehindFive 10 [{ path := "title" }]).onlySorted.prepare Schema.books [] .newYear = .ok st ∧
      (titleBehindFive 10 [{ path := "title" }]).prepare Schema.books [] .newYear =
        .ok (st.followedBy " OFFSET 5 ROWS FETCH NEXT 1 ROWS ONLY ") := by
  obtain ⟨hsplit, hsort, -, hsized⟩ :=
    prepare_rows Schema.books (titleBehindFive 10 [{ path := "title" }]) [] .newYear
  have hrows : (titleBehindFive 10 [{ path := "title" }]).rowsText = " OFFSET 5 ROWS FETCH NEXT 1 ROWS ONLY " :=
    (hsized (by decide)).trans (by decide +kernel)
  have hpage : ((titleBehindFive 10 [{ path := "title" }]).pageText Schema.books).toOption =
      some " ORDER BY book_.title ASC OFFSET 5 ROWS FETCH NEXT 1 ROWS ONLY " := by decide +kernel
  have hprepared := titleBehindFive_prepare (Outcome.eq_ok_of_toOption hpage)
  obtain ⟨st, hst, -⟩ := Outcome.map_eq_ok.1 (hsplit.symm.trans hprepared)
  refine ⟨by decide, (hsort (by decide) []).trans hrows, st, hst, ?_⟩
  rw [hsplit, hst, hrows]
  rfl

/-- The orders of a page let one row be asked for where the page has all rows. -/
theorem prepare_rowOfAll :
    (titleBehindFive 0 []).prepare Schema.books [] .newYear =
      .ok ⟨"SELECT book_.title FROM book book_", []⟩ ∧
    (titleBehindFive 0 [{ path := "title" }]).prepare Schema.books [] .newYear =
      .ok ⟨"SELECT book_.title FROM book book_ ORDER BY book_.title ASC OFFSET 5 ROWS FETCH NEXT 1 ROWS ONLY ",
        []⟩ := by
  have hall : ((titleBehindFive 0 []).pageText Schema.books).toOption = some "" := by decide +kernel
  have hone : ((titleBehindFive 0 [{ path := "title" }]).pageText Schema.books).toOption =
      some " ORDER BY book_.title ASC OFFSET 5 ROWS FETCH NEXT 1 ROWS ONLY " := by decide +kernel
  exact ⟨titleBehindFive_prepare (Outcome.eq_ok_of_toOption hall),
    titleBehindFive_prepare (Outcome.eq_ok_of_toOption hone)⟩

end PreparedQuery

end EntitySql
