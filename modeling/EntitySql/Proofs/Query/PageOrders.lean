import EntitySql.Proofs.Query.JoinWalk
import EntitySql.Proofs.Query.Paging
import EntitySql.Proofs.Query.Placeholders
import EntitySql.Proofs.Statement.TextBehindTokens

/-! # Orders of a page and of its query

The orders of a page request come behind those of the query model, as if the model had been declared with all of
them (`PreparedQuery.prepare_pageOrders`): although the former are put behind a text whose tokens are expanded, and
the latter are part of the text that is expanded. -/

namespace EntitySql
variable {n : Nat} {s : Schema n} {m : QueryModel n} {order more : List OrderItem}

/-! ### The text of orders -/

theorem furtherOrders_append (order more : List OrderItem) : furtherOrders false (order ++ more) =
    furtherOrders false order ++ furtherOrders (!order.isEmpty) more := by
  cases order with
  | nil => simp [furtherOrders]
  | cons first order =>
    cases more with
    | nil => simp [furtherOrders]
    | cons next more =>
      have hlist : ",".intercalate (((first :: order) ++ (next :: more)).map (·.text)) =
          ",".intercalate ((first :: order).map (·.text)) ++ "," ++
            ",".intercalate ((next :: more).map (·.text)) := by
        rw [List.map_append]
        exact String.intercalate_append_of_ne_nil (by simp) (by simp)
      show " ORDER BY " ++ _ = " ORDER BY " ++ _ ++ ("," ++ _)
      rw [hlist]
      simp only [String.append_assoc]

theorem QualifiedColumn.tokenFree_text {c : QualifiedColumn} (h : ∀ name ∈ c.names, TokenFree name.toList) :
    TokenFree c.text.toList := by
  simp only [names, List.forall_mem_cons] at h
  unfold text
  split
  · exact h.2.1
  · have hdot : (c.qualifier ++ "." ++ c.name).toList = c.qualifier.toList ++ '.' :: c.name.toList := by simp
    rw [hdot]
    exact h.1.append_cons (by decide) h.2.1

theorem OrderItem.tokenFree_text {item : OrderItem} (h : ∀ name ∈ item.column.names, TokenFree name.toList) :
    TokenFree item.text.toList := by
  have hcolumn := QualifiedColumn.tokenFree_text h
  have hkeyword : TokenFree item.direction.keyword.toList := by cases item.direction <;> decide
  unfold text
  split
  · have hlower : ("LOWER(" ++ item.column.text ++ ")" ++ " " ++ item.direction.keyword).toList =
        "LOWER(".toList ++ (item.column.text.toList ++ ')' :: (" ".toList ++ item.direction.keyword.toList)) := by
      simp [List.append_assoc]
    rw [hlower]
    exact (hcolumn.append_cons (by decide) (hkeyword.prepend (by decide))).prepend (by decide)
  · have hplain : (item.column.text ++ " " ++ item.direction.keyword).toList =
        item.column.text.toList ++ ' ' :: item.direction.keyword.toList := by simp
    rw [hplain]
    exact hcolumn.append_cons (by decide) hkeyword

theorem tokenFree_intercalate {texts : List String} (h : ∀ text ∈ texts, TokenFree text.toList) :
    TokenFree (",".intercalate texts).toList := by
  induction texts with
  | nil => decide
  | cons text texts ih =>
    have htext := h text List.mem_cons_self
    have hrest := ih fun text hmem => h text (List.mem_cons_of_mem _ hmem)
    cases texts with
    | nil => simpa using htext
    | cons next texts =>
      rw [String.intercalate_cons_cons]
      have hcomma : (text ++ "," ++ ",".intercalate (next :: texts)).toList =
          text.toList ++ ',' :: (",".intercalate (next :: texts)).toList := by simp
      rw [hcomma]
      exact htext.append_cons (by decide) hrest

/-- Orders take no part in the tokens of a condition in front of them. -/
theorem apart_furtherOrders (sorted : Bool) (h : ∀ name ∈ orderNames order, TokenFree name.toList) :
    Apart (furtherOrders sorted order).toList := by
  unfold furtherOrders
  split
  · exact .nil
  have hlist : TokenFree (",".intercalate (order.map (·.text))).toList := by
    refine tokenFree_intercalate fun text htext => ?_
    obtain ⟨item, hitem, rfl⟩ := List.mem_map.1 htext
    exact item.tokenFree_text fun name hname => h name (List.mem_flatMap.2 ⟨item, hitem, hname⟩)
  cases sorted with
  | true => exact ⟨by simpa using hlist.prepend (a := [',']) (by decide), by simp [inTokenStart]⟩
  | false => exact ⟨by simpa using hlist.prepend (a := " ORDER BY ".toList) (by decide), by simp [inTokenStart]⟩

/-! ### Sorted models -/

namespace Schema

theorem orderItems_append {e : Entity n} {qualifier : String} (sort sort' : List Order) :
    s.orderItems e qualifier (sort ++ sort') = do
      let order ← s.orderItems e qualifier sort
      return order ++ (← s.orderItems e qualifier sort') := by
  rw [orderItems, List.mapM_append]
  rfl

/-- The orders of a model are compiled behind everything else. -/
theorem query_sort (s : Schema n) (m : QueryModel n) : s.query m = do
    let t ← s.query { m with sort := [] }
    let order ← s.orderItems m.root m.root.rootAlias m.sort
    return { t with text := t.text ++ furtherOrders false order } := by
  have hjoins : s.joinAll { m with sort := [] } = s.joinAll m := joinAll_congr rfl rfl
  unfold query selectStatement
  rw [hjoins]
  cases s.joinAll m with
  | error e => rfl
  | ok j =>
    have hitems : s.selectItems { m with sort := [] } j = s.selectItems m j := rfl
    have hresolve : s.resolveJoined { m with sort := [] } j = s.resolveJoined m j := rfl
    dsimp only [bind, Except.bind]
    rw [hitems, hresolve]
    cases s.selectItems m j with
    | error e => rfl
    | ok items =>
      dsimp only
      cases whereCondition (s.resolveJoined m j) m.criteria with
      | error e => rfl
      | ok compiled =>
        obtain ⟨condition, slots⟩ := compiled
        have hnone : s.orderItems m.root m.root.rootAlias [] = .ok [] := rfl
        dsimp only
        rw [hnone]
        cases s.orderItems m.root m.root.rootAlias m.sort with
        | error e => rfl
        | ok order =>
          show Except.ok (Template.ofSlots (SelectStatement.text _) slots) =
            Except.ok (Template.ofSlots (SelectStatement.text _ ++ furtherOrders false order) slots)
          rw [SelectStatement.text_eq, SelectStatement.text_eq]
          simp only [SelectStatement.orderText, List.isEmpty_nil, if_true, String.append_empty, String.append_assoc]
          rfl

/-- Every token in the text of a query without orders ends in the text, or the query binds nothing. -/
theorem tokensClosed_query {t : Template} (h : s.query { m with sort := [] } = .ok t) :
    TokensClosed t.text.toList ∨ t.bindings = [] := by
  simp only [query, selectStatement, Outcome.bind_eq_ok, Outcome.pure_eq_ok, Prod.exists, Prod.mk.injEq] at h
  obtain ⟨st, slots, ⟨j, -, items, -, condition, slots, hwhere, order, horder, rfl, rfl⟩, rfl⟩ := h
  obtain rfl : [] = order := Except.ok.inj horder
  cases condition with
  | none =>
    have hslots : slots = [] := List.length_eq_zero_iff.1 (whereCondition_numbered hwhere).2
    exact .inr (by simp [Template.ofSlots, hslots])
  | some condition =>
    refine .inl ?_
    show TokensClosed (SelectStatement.text _).toList
    rw [SelectStatement.text_eq]
    simp only [SelectStatement.orderText, whereText, List.isEmpty_nil, if_true, String.append_empty,
      String.toList_append, ← List.append_assoc]
    exact TokensClosed.append_close (b := []) (.of_tokenFree (by decide))

end Schema

namespace PreparedQuery
variable {q : PreparedQuery n}

/-- The query with more text at its end. -/
def extended (q : PreparedQuery n) (text : String) : PreparedQuery n :=
  { q with compiled := { q.compiled with text := q.compiled.text ++ text } }

/-- What a query has at its end stands behind its statement. -/
theorem prepare_extended (s : Schema n)
    (hclosed : TokensClosed q.compiled.text.toList ∨ q.compiled.bindings = []) {text : String}
    (htext : Apart text.toList) (args : List Value) (now : Timestamp) :
    ((q.extended text).unpaged.prepare s args now).toOption =
      (q.unpaged.prepare s args now).toOption.map (·.followedBy text) := by
  unfold prepare
  rw [pageText_unpaged, pageText_unpaged]
  show (q.compiled.bindings.mapM (Binding.resolve args now) >>= _).toOption =
    (q.compiled.bindings.mapM (Binding.resolve args now) >>= _).toOption.map _
  cases hvalues : q.compiled.bindings.mapM (Binding.resolve args now) with
  | error e => rfl
  | ok values =>
    have hexpand : (expandTokens (q.compiled.text ++ text) (values.map (·.inSize))
        (q.compiled.text.toList ++ text.toList) []).toOption =
        (expandTokens q.compiled.text (values.map (·.inSize)) q.compiled.text.toList []).toOption.map
          (·.append text.toList) := by
      rcases hclosed with hclosed | hnone
      · exact expandTokens_append hclosed htext _ _ _ _
      · obtain rfl : values = [] := by
          rw [hnone] at hvalues
          exact (Except.ok.inj hvalues).symm
        exact expandTokens_append_of_noSlots htext _ _ _ _
    show (expandTokens (q.compiled.text ++ text) _ (q.compiled.text ++ text).toList [] >>= _).toOption =
      (expandTokens q.compiled.text _ q.compiled.text.toList [] >>= _).toOption.map _
    rw [String.toList_append, Outcome.toOption_bind, Outcome.toOption_bind, hexpand]
    cases expandTokens q.compiled.text (values.map (·.inSize)) q.compiled.text.toList [] with
    | error e => rfl
    | ok x =>
      have hsql : String.ofList (x.text ++ text.toList) ++ "" = String.ofList x.text ++ "" ++ text := by
        simp [String.ofList_append]
      exact congrArg (fun sql => some (Statement.mk sql (boundValues values x.ignored))) hsql

/-- Behind a query for more than one row stand the orders of its page and then the rows. -/
theorem prepare_of_many (s : Schema n) (hmutating : q.mutating = false) (hsingle : q.single = false)
    (args : List Value) (now : Timestamp) : q.prepare s args now = do
      let st ← q.unpaged.prepare s args now
      let order ← s.orderItems q.root q.root.rootAlias q.page.sort
      return st.followedBy (furtherOrders q.sorted order ++ q.page.clause) := by
  have hrows : q.rowsText = q.page.clause := by
    by_cases hsize : q.page.size = 0
    · rw [rowsText_of_all hsize, PageRequest.clause_of_all hsize, if_neg (by simp [hsingle])]
    · rw [rowsText_of_size hsize, if_neg (by simp [hmutating]), if_neg (by simp [hsingle])]
      rfl
  rw [prepare_eq_unpaged, pageText_eq, if_neg (by simp [hmutating]), hrows]
  cases q.unpaged.prepare s args now with
  | error e => rfl
  | ok st => cases s.orderItems q.root q.root.rootAlias q.page.sort <;> rfl

end PreparedQuery

namespace Schema

/-- The statement for a page of a query model. -/
def preparePage (s : Schema n) (m : QueryModel n) (p : PageRequest) (args : List Value) (now : Timestamp) :
    Outcome Statement := do
  let q ← PreparedQuery.ofModel s m
  { q with page := p }.prepare s args now

/-- Behind the statement of a query model without orders come its orders, then those of a page, and then the
rows of the page. -/
theorem preparePage_eq (s : Schema n) (m : QueryModel n) (p : PageRequest) (args : List Value) (now : Timestamp)
    (hnames : ∀ order, s.orderItems m.root m.root.rootAlias (m.sort ++ p.sort) = .ok order →
      ∀ name ∈ orderNames order, TokenFree name.toList) :
    (s.preparePage m p args now).toOption = (do
      let st ← s.preparePage { m with sort := [] } {} args now
      let order ← s.orderItems m.root m.root.rootAlias (m.sort ++ p.sort)
      return st.followedBy (furtherOrders false order ++ p.clause)).toOption := by
  rw [orderItems_append] at hnames ⊢
  unfold preparePage PreparedQuery.ofModel
  rw [s.query_sort m]
  cases ht : s.query { m with sort := [] } with
  | error e => rfl
  | ok t =>
    let q : PreparedQuery n := { root := m.root, compiled := t, page := p, sorted := !m.sort.isEmpty }
    cases horder : s.orderItems m.root m.root.rootAlias m.sort with
    | error e =>
      show none = (q.unpaged.prepare s args now >>= fun _ => Except.error e).toOption
      cases q.unpaged.prepare s args now <;> rfl
    | ok order =>
      have hpage : (q.extended (furtherOrders false order)).prepare s args now = (do
          let st ← (q.extended (furtherOrders false order)).unpaged.prepare s args now
          let further ← s.orderItems m.root m.root.rootAlias p.sort
          return st.followedBy (furtherOrders (!order.isEmpty) further ++ p.clause)) := by
        rw [isEmpty_orderItems horder]
        exact PreparedQuery.prepare_of_many s rfl rfl args now
      cases hfurther : s.orderItems m.root m.root.rootAlias p.sort with
      | error e =>
        -- the orders of the page are resolved after all else, and fail alike
        show ((q.extended (furtherOrders false order)).prepare s args now).toOption =
          (q.unpaged.prepare s args now >>= fun _ => Except.error e).toOption
        rw [hpage, hfurther]
        cases (q.extended (furtherOrders false order)).unpaged.prepare s args now <;>
          cases q.unpaged.prepare s args now <;> rfl
      | ok further =>
        -- of all orders, those of the model are in the text that is expanded
        have hfree : ∀ name ∈ orderNames order, TokenFree name.toList := fun name hname =>
          hnames (order ++ further) (by rw [horder, hfurther]; rfl) name
            (by rw [orderNames, List.flatMap_append]; exact List.mem_append_left _ hname)
        have hextended := PreparedQuery.prepare_extended (q := q) s (s.tokensClosed_query ht)
          (apart_furtherOrders false hfree) args now
        show ((q.extended (furtherOrders false order)).prepare s args now).toOption =
          (q.unpaged.prepare s args now >>= fun st =>
            .ok (st.followedBy (furtherOrders false (order ++ further) ++ p.clause))).toOption
        rw [hpage, hfurther, Outcome.toOption_bind, Outcome.toOption_bind, hextended]
        cases q.unpaged.prepare s args now with
        | error e => rfl
        | ok st =>
          show some ((st.followedBy (furtherOrders false order)).followedBy _) = some (st.followedBy _)
          rw [Statement.followedBy_followedBy, furtherOrders_append, String.append_assoc]

end Schema

/-- A page of a query model is the statement of the model with the orders of both, those of the page last, and
behind it the rows of the page. When the one can be prepared, so can the other. There is one ORDER BY clause at
most: the statement is that of the model without orders, and behind it stand the orders of the model, then those of
the page, and then the rows. -/
theorem PreparedQuery.prepare_pageOrders (s : Schema n) (m : QueryModel n) (p : PageRequest) (args : List Value)
    (now : Timestamp) (hnames : ∀ order, s.orderItems m.root m.root.rootAlias (m.sort ++ p.sort) = .ok order →
      ∀ name ∈ orderNames order, TokenFree name.toList) :
    (s.preparePage m p args now).toOption =
      (s.preparePage { m with sort := m.sort ++ p.sort } {} args now).toOption.map (·.followedBy p.clause) ∧
    ∀ st, s.preparePage m p args now = .ok st → ∃ body order,
      s.preparePage { m with sort := [] } {} args now = .ok body ∧
      s.orderItems m.root m.root.rootAlias (m.sort ++ p.sort) = .ok order ∧
      st = body.followedBy (furtherOrders false order ++ p.clause) := by
  have hpage := s.preparePage_eq m p args now hnames
  have hsorted := s.preparePage_eq { m with sort := m.sort ++ p.sort } {} args now
    (by simpa only [List.append_nil] using hnames)
  simp only [List.append_nil] at hsorted
  refine ⟨?_, fun st hst => ?_⟩
  · rw [hpage, hsorted]
    cases s.preparePage { m with sort := [] } {} args now with
    | error e => rfl
    | ok body =>
      cases s.orderItems m.root m.root.rootAlias (m.sort ++ p.sort) with
      | error e => rfl
      | ok order =>
        have hnone : PageRequest.clause {} = "" := PageRequest.clause_of_all rfl
        show some (body.followedBy _) = some ((body.followedBy _).followedBy _)
        rw [Statement.followedBy_followedBy, hnone, String.append_empty]
  · rw [hst] at hpage
    have hok := Outcome.eq_ok_of_toOption hpage.symm
    simp only [Outcome.bind_eq_ok, Outcome.pure_eq_ok] at hok
    obtain ⟨body, hbody, order, horder, rfl⟩ := hok
    exact ⟨body, order, hbody, horder, rfl⟩

/-- The identities of books with given titles, in the order of the titles and then of further orders. -/
def orderedTitles (further : List Order) : QueryModel 1 where
  root := .book
  projection := .paths ["id"]
  criteria := [.isIn "title" (.argument 0)]
  sort := { path := "title" } :: further

/-- The order in which the last book is the first. -/
def lastFirst : List Order := [{ path := "id", direction := .descending }]

/-- A page of ten books with two titles; of one title, the last book comes first. -/
theorem PreparedQuery.prepare_pageOrders_orderedTitles :
    Schema.books.preparePage (orderedTitles []) { size := 10, sort := lastFirst }
        [.list [.string "Emma", .string "Ada"]] .newYear =
      .ok (Statement.followedBy ⟨"SELECT book_.id FROM book book_ WHERE (book_.title IN(?,?)) " ++
        "ORDER BY book_.title ASC,book_.id DESC", [.string "Emma", .string "Ada"]⟩ " FETCH NEXT 10 ROWS ONLY ") := by
  have horders : (Schema.books.orderItems .book Entity.book.rootAlias ({ path := "title" } :: lastFirst)).toOption =
      some [⟨⟨"book_", "title"⟩, .ascending, false⟩, ⟨⟨"book_", "id"⟩, .descending, false⟩] := by
    decide +kernel
  have hquery : (Schema.books.query (orderedTitles lastFirst)).toOption = some
      { text := "SELECT book_.id FROM book book_ WHERE (?$IN(0:book_.title)) ORDER BY book_.title ASC,book_.id DESC"
        bindings := [.argument 0]
        types := [some .string] } := by decide +kernel
  have hfound : TokenScan.ofText
      "SELECT book_.id FROM book book_ WHERE (?$IN(0:book_.title)) ORDER BY book_.title ASC,book_.id DESC".toList =
      .found ⟨"SELECT book_.id FROM book book_ WHERE (".toList, 0, "book_.title".toList,
        ") ORDER BY book_.title ASC,book_.id DESC".toList⟩ := rfl
  have hdone : TokenScan.ofText (FoundToken.replace ⟨"SELECT book_.id FROM book book_ WHERE (".toList, 0,
      "book_.title".toList, ") ORDER BY book_.title ASC,book_.id DESC".toList⟩ 2) = .absent := rfl
  have hsorted : Schema.books.preparePage (orderedTitles lastFirst) {}
      [.list [.string "Emma", .string "Ada"]] .newYear =
      .ok ⟨"SELECT book_.id FROM book book_ WHERE (book_.title IN(?,?)) " ++
        "ORDER BY book_.title ASC,book_.id DESC", [.string "Emma", .string "Ada"]⟩ := by
    unfold Schema.preparePage ofModel
    rw [Outcome.eq_ok_of_toOption hquery]
    show (expandTokens _ [2] _ [] >>= _) = _
    rw [expandTokens_of_found hfound (show [2][0]? = some 2 from rfl), expandTokens_of_absent hdone]
    rfl
  obtain ⟨hpage, -⟩ := prepare_pageOrders Schema.books (orderedTitles []) { size := 10, sort := lastFirst }
    [.list [.string "Emma", .string "Ada"]] .newYear fun order horder => by
      obtain rfl := Except.ok.inj ((Outcome.eq_ok_of_toOption horders).symm.trans horder)
      decide
  refine Outcome.eq_ok_of_toOption (hpage.trans ?_)
  show ((Schema.books.preparePage (orderedTitles lastFirst) {} _ _).toOption).map _ = _
  have hrows : PageRequest.clause { size := 10, sort := lastFirst } = " FETCH NEXT 10 ROWS ONLY " := by decide +kernel
  rw [hsorted, hrows]
  rfl

end EntitySql
