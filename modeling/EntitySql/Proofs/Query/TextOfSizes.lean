import EntitySql.Proofs.Query.Names
import EntitySql.Proofs.Statement.Layout

/-! # What the text of a statement depends on

The text of a statement depends on the query and on the number of places that the value of each slot
takes in a list (`prepare_eq_of_resolved`), not on what the values are. This holds of any text, also of
one whose tokens are put together by expanding others, since a replacement is cut from the text that is
scanned and from a size. So two calls with values of the same sizes send the same text
(`prepare_sameText`): no value can be read as part of a statement. -/

namespace EntitySql.PreparedQuery
variable {n : Nat} {s : Schema n} {q : PreparedQuery n} {args args' : List Value}
  {now now' : Timestamp} {values values' : List Value}

/-- The text of the query with tokens expanded, given the sizes of the slots, and the slots that were
empty. The orders and the page follow it. -/
def expandedText (s : Schema n) (q : PreparedQuery n) (sizes : List Nat) : Outcome (String × List Nat) := do
  let expansion ← expandTokens q.compiled.text sizes q.compiled.text.toList []
  let suffix ← q.pageText s
  return (String.ofList expansion.text ++ suffix, expansion.ignored)

/-- Once the bindings are resolved, values other than their sizes are looked at for the arguments
only. -/
theorem prepare_eq_of_resolved
    (h : q.compiled.bindings.mapM (Binding.resolve args now) = .ok values) :
    q.prepare s args now =
      (q.expandedText s (values.map (·.inSize))).map fun (sql, ignored) =>
        ⟨sql, boundValues values ignored⟩ := by
  unfold prepare expandedText
  rw [h]
  show (expandTokens _ _ _ _ >>= _) = _
  cases expandTokens q.compiled.text (values.map (·.inSize)) q.compiled.text.toList [] with
  | error e => rfl
  | ok expansion =>
    show (q.pageText s >>= _) = Except.map _ (q.pageText s >>= _)
    cases q.pageText s with
    | error e => rfl
    | ok suffix => rfl

/-- Two calls whose values have the same sizes fail in the same way, or send the same text. -/
theorem prepare_sameText (h : q.compiled.bindings.mapM (Binding.resolve args now) = .ok values)
    (h' : q.compiled.bindings.mapM (Binding.resolve args' now') = .ok values')
    (hsizes : List.Forall₂ (fun value value' => value.inSize = value'.inSize) values values') :
    (∃ e, q.prepare s args now = .error e ∧ q.prepare s args' now' = .error e) ∨
      ∃ sql bound bound', q.prepare s args now = .ok ⟨sql, bound⟩ ∧
        q.prepare s args' now' = .ok ⟨sql, bound'⟩ := by
  have heq : values.map (·.inSize) = values'.map (·.inSize) :=
    List.forall₂_eq_eq_eq ▸ List.forall₂_map_left_iff.2 (List.forall₂_map_right_iff.2 hsizes)
  have hrun := prepare_eq_of_resolved (s := s) h
  have hrun' := prepare_eq_of_resolved (s := s) h'
  rw [← heq] at hrun'
  cases htext : q.expandedText s (values.map (·.inSize)) with
  | error e =>
    rw [htext] at hrun hrun'
    exact .inl ⟨e, hrun, hrun'⟩
  | ok text =>
    rw [htext] at hrun hrun'
    exact .inr ⟨text.1, _, _, hrun, hrun'⟩

/-- A query on given text, in which expanding the first token makes another one. -/
def nestedTokens : PreparedQuery 1 :=
  ofText .book "SELECT title FROM book WHERE ?$IN(0:?$IN(1:id)) AND title <> ?"
    [.argument 0, .property 1 "ids", .lastUpdated]

/-- Titles with quotes and tokens in them send the same text as any other titles do. -/
theorem prepare_nestedTokens :
    ∃ sql bound bound',
      nestedTokens.prepare Schema.books
        [.list [.string "Emma", .string "Ada"], .object [("ids", .long 7)]] .newYear =
          .ok ⟨sql, bound⟩ ∧
      nestedTokens.prepare Schema.books
        [.list [.string "' OR 1 = 1 --", .null], .object [("ids", .string "?$IN(0:id)")]] .newYear =
          .ok ⟨sql, bound'⟩ := by
  have houter : TokenScan.ofText nestedTokens.compiled.text.toList =
      .found ⟨"SELECT title FROM book WHERE ".toList, 0, "?$IN(1:id".toList,
        ") AND title <> ?".toList⟩ := rfl
  have hinner : TokenScan.ofText
      "SELECT title FROM book WHERE ?$IN(1:id IN(?,?)) AND title <> ?".toList =
      .found ⟨"SELECT title FROM book WHERE ".toList, 1, "id IN(?,?".toList,
        ") AND title <> ?".toList⟩ := rfl
  have hdone : TokenScan.ofText
      "SELECT title FROM book WHERE id IN(?,? IN(?)) AND title <> ?".toList = .absent := rfl
  have htext : nestedTokens.expandedText Schema.books [2, 1, 1] =
      .ok ("SELECT title FROM book WHERE id IN(?,? IN(?)) AND title <> ?", []) := by
    have hexpand : expandTokens nestedTokens.compiled.text [2, 1, 1]
        nestedTokens.compiled.text.toList [] =
        .ok ⟨"SELECT title FROM book WHERE id IN(?,? IN(?)) AND title <> ?".toList, []⟩ := by
      rw [expandTokens_of_found houter (show [2, 1, 1][0]? = some 2 from rfl)]
      refine (expandTokens_of_found hinner (show [2, 1, 1][1]? = some 1 from rfl)).trans ?_
      exact expandTokens_of_absent hdone
    rw [expandedText, hexpand]
    rfl
  refine (prepare_sameText (s := Schema.books) (q := nestedTokens) rfl rfl ?_).resolve_left ?_
  · exact .cons rfl (.cons rfl (.cons rfl .nil))
  · rintro ⟨e, herror, -⟩
    have h := (prepare_eq_of_resolved (s := Schema.books) (q := nestedTokens) rfl).symm.trans herror
    change (nestedTokens.expandedText Schema.books [2, 1, 1]).map _ = _ at h
    rw [htext] at h
    cases h

end EntitySql.PreparedQuery
