import EntitySql.Proofs.Query.Placeholders

/-! # Preparing compiled queries

What becomes of a compiled SELECT or DELETE with the arguments of a call (`prepare_compiled`): each
token becomes the comparison with its list in place, the orders and the page follow, and the
placeholders from left to right are for the elements of the values in the order of the slots. -/

namespace EntitySql

/-- The errors of an expansion: a token that cannot be read, or one of no slot. -/
inductive Error.OfExpansion : Error → Prop
  | malformed (query : String) : OfExpansion (.configuration (.malformedIn query))
  | missing (slot : Nat) : OfExpansion (.configuration (.missingBinding slot))

/-- Binding a value fails for want of an argument or of an object only. -/
theorem Binding.resolve_failsOnly (b : Binding) (args : List Value) (now : Timestamp) :
    (b.resolve args now).FailsOnly fun e => ¬ e.OfExpansion := by
  have hargument : ∀ index,
      (resolve.argumentAt args index).FailsOnly fun e => ¬ e.OfExpansion := by
    intro index e h
    unfold resolve.argumentAt at h
    split at h
    · cases h
    · cases h
      rintro ⟨⟩
  cases b with
  | argument index => exact hargument index
  | lastUpdated => exact .ok
  | property index path =>
    refine .bind (hargument index) fun value => ?_
    intro e h
    split at h
    · cases h
    · cases h
    · cases h
      rintro ⟨⟩

namespace Schema
variable {n : Nat} (s : Schema n)

theorem requiredIdentity_failsOnly (e : Entity n) :
    e.requiredIdentity.FailsOnly fun e => ¬ e.OfExpansion := by
  intro err h
  unfold Entity.requiredIdentity at h
  split at h
  · cases h
  · cases h
    rintro ⟨⟩

theorem resolveProperty_failsOnly (e : Entity n) (qualifier path : String) :
    (s.resolveProperty e qualifier path).FailsOnly fun e => ¬ e.OfExpansion := by
  unfold resolveProperty
  split
  · rintro _ ⟨⟩ ⟨⟩
  split
  · rintro _ ⟨⟩ ⟨⟩
  · split
    · exact .bind (.map (requiredIdentity_failsOnly _)) fun type => .ok
    · exact .ok

theorem resolveInner_failsOnly (e : Entity n) (qualifier path owner sub : String) :
    (s.resolveInner e qualifier path owner sub).FailsOnly fun e => ¬ e.OfExpansion := by
  unfold resolveInner
  split
  · rintro _ ⟨⟩ ⟨⟩
  split
  · rintro _ ⟨⟩ ⟨⟩
  split
  · split
    · rintro _ ⟨⟩ ⟨⟩
    · exact .ok
  · refine .bind (requiredIdentity_failsOnly _) fun identity => ?_
    split
    · exact .ok
    · rintro _ ⟨⟩ ⟨⟩

theorem orderItems_failsOnly (e : Entity n) (qualifier : String) (sort : List Order) :
    (s.orderItems e qualifier sort).FailsOnly fun e => ¬ e.OfExpansion := by
  refine .mapM (fun order => .bind ?_ fun resolved => .ok) sort
  unfold resolve
  split
  · exact s.resolveProperty_failsOnly _ _ _
  · exact s.resolveInner_failsOnly _ _ _ _ _

end Schema

namespace PreparedQuery
variable {n : Nat} {s : Schema n} {q : PreparedQuery n} {l : Layout}

theorem pageText_failsOnly : (q.pageText s).FailsOnly fun e => ¬ e.OfExpansion := by
  have hlist : (s.orderList q.root q.root.rootAlias q.page.sort).FailsOnly
      fun e => ¬ e.OfExpansion := .bind (s.orderItems_failsOnly _ _ _) fun items => .ok
  unfold pageText
  split
  · exact .ok
  split
  · exact .ok
  split
  · exact .bind (.map hlist) fun sort => .ok
  · exact .bind (.bind hlist fun list => .ok) fun sort => .ok

/-- Preparation of a laid out template: the expansion always succeeds. -/
theorem prepare_laidOut (h : q.compiled.LaidOut l)
    (hbound : q.compiled.bindings.length ≤ Text.indexBound) (args : List Value) (now : Timestamp) :
    q.prepare s args now = (do
      let values ← q.compiled.bindings.mapM (Binding.resolve args now)
      let suffix ← q.pageText s
      return { sql := String.ofList (l.shown values) ++ suffix
               args := boundValues values (Layout.emptied 0 l.places values).reverse }) := by
  unfold prepare
  cases hvalues : q.compiled.bindings.mapM (Binding.resolve args now) with
  | error e => rfl
  | ok values =>
    have hlength : l.places.length = values.length :=
      h.slots.trans (Outcome.mapM_eq_ok.1 hvalues).length_eq
    have hexpand := h.wellFormed.expandTokens hlength (h.slots.trans_le hbound) q.compiled.text
    rw [h.text] at hexpand
    show (expandTokens _ _ _ _ >>= _) = _
    rw [hexpand]
    rfl

/-- Preparing a compiled query never fails on its tokens. A statement that comes out is the text with
each token replaced in place, and what the page asks for behind it. It has no token, and its
placeholders are for the elements of the values from left to right, if no list is bound to a single
placeholder. No table in memory has more slots than there are indices. -/
theorem prepare_compiled {m : QueryModel n}
    (hcompiled : (s.query m = .ok q.compiled ∧ ∀ name ∈ s.queryNames m, IsPlainName name) ∨
      (s.delete m = .ok q.compiled ∧ ∀ name ∈ s.deleteNames m, IsPlainName name))
    (hpage : ∀ name ∈ q.pageNames s, IsPlainName name)
    (hbound : q.compiled.bindings.length ≤ Text.indexBound) :
    ∃ l : Layout, q.compiled.LaidOut l ∧ ∀ args now,
      (∀ e, q.prepare s args now = .error e → ¬ e.OfExpansion) ∧
      ∀ statement, q.prepare s args now = .ok statement →
        ∃ values suffix, q.compiled.bindings.mapM (Binding.resolve args now) = .ok values ∧
          q.pageText s = .ok suffix ∧
          statement.sql = String.ofList (l.shown values) ++ suffix ∧
          Text.contains inTokenStart statement.sql.toList = false ∧
          ((∀ pv ∈ l.places.zip values, pv.1.column = none → pv.2.length? = none) →
            statement.args = l.received values ∧
            (∀ pv ∈ l.places.zip values,
              (pv.1.shown pv.2).count '?' = (pv.1.received pv.2).length) ∧
            statement.sql.toList.count '?' = statement.args.length) := by
  obtain ⟨l, hl⟩ : ∃ l, q.compiled.LaidOut l := by
    rcases hcompiled with ⟨hquery, hnames⟩ | ⟨hdelete, hnames⟩
    · exact Schema.query_laidOut hquery hnames
    · exact Schema.delete_laidOut hdelete hnames
  refine ⟨l, hl, fun args now => ⟨?_, fun statement hstatement => ?_⟩⟩
  · have hfails : (q.prepare s args now).FailsOnly fun e => ¬ e.OfExpansion := by
      rw [prepare_laidOut hl hbound]
      exact .bind (.mapM (fun b => b.resolve_failsOnly args now) _) fun values =>
        .bind pageText_failsOnly fun suffix => .ok
    exact hfails
  · rw [prepare_laidOut hl hbound] at hstatement
    simp only [Outcome.bind_eq_ok, Outcome.pure_eq_ok] at hstatement
    obtain ⟨values, hvalues, suffix, hsuffix, rfl⟩ := hstatement
    have hlength : l.places.length = values.length :=
      hl.slots.trans (Outcome.mapM_eq_ok.1 hvalues).length_eq
    have hunmarked : '?' ∉ suffix.toList :=
      unmarked_pageText (fun name hname => (hpage name hname).1) hsuffix
    refine ⟨values, suffix, hvalues, hsuffix, rfl, ?_, fun hplain => ?_⟩
    · show Text.contains inTokenStart (String.ofList (l.shown values) ++ suffix).toList = false
      rw [String.toList_append, String.toList_ofList]
      exact (hl.wellFormed.settled.append (.of_unmarked hunmarked)).tokenless.contains_inTokenStart
    · have hargs := Layout.WellFormed.boundValues hlength hplain
      refine ⟨hargs, fun pv hpv => (hl.wellFormed.of_mem_zip pv hpv).count_shown pv.2, ?_⟩
      show (String.ofList (l.shown values) ++ suffix).toList.count '?' = (boundValues _ _).length
      rw [hargs, String.toList_append, String.toList_ofList, List.count_append,
        List.count_eq_zero_of_not_mem hunmarked, Nat.add_zero]
      exact hl.wellFormed.count_shown

/-- The books with one of some titles and a large identity. -/
def titledBooks : PreparedQuery 1 :=
  { root := .book
    compiled :=
      { text := "SELECT book_.title,book_.id FROM book book_ "
          ++ "WHERE ((?$IN(0:book_.title)) AND (book_.id > ?))"
        bindings := [.argument 0, .argument 1]
        types := [some .string, some .long] } }

/-- A statement comes out for two titles and an identity, and no token is left in it. -/
theorem prepare_titledBooks :
    ∃ statement,
      titledBooks.prepare Schema.books [.list [.string "Emma", .string "Ada"], .long 7] .newYear =
        .ok statement ∧
      Text.contains inTokenStart statement.sql.toList = false := by
  have hquery : Schema.books.query
      { root := .book
        criteria := [.isIn "title" (.argument 0), .compare .gt "id" (.argument 1)] } =
      .ok titledBooks.compiled := Outcome.eq_ok_of_toOption (by decide +kernel)
  obtain ⟨l, hl, h⟩ := prepare_compiled (s := Schema.books) (q := titledBooks)
    (.inl ⟨hquery, by decide +kernel⟩) (by decide +kernel) (by decide)
  obtain ⟨-, hok⟩ := h [.list [.string "Emma", .string "Ada"], .long 7] .newYear
  have hstatement := prepare_laidOut (s := Schema.books) hl (by decide)
    [.list [.string "Emma", .string "Ada"], .long 7] .newYear
  refine ⟨_, hstatement, ?_⟩
  obtain ⟨values, suffix, -, -, -, hcontains, -⟩ := hok _ hstatement
  exact hcontains

end PreparedQuery

end EntitySql
