import EntitySql.Proofs.Outcome
import EntitySql.Query.Prepared

/-! # Names in statements

The identifiers, tables and aliases that a compiled statement writes. All other text of a statement is
fixed, and holds a character that is no part of a name only where a condition has a placeholder. -/

namespace EntitySql

def QualifiedColumn.names (c : QualifiedColumn) : List String := [c.qualifier, c.name]

def SelectItem.names : SelectItem → List String
  | star | count => []
  | column c => c.names
  | fetched owner field name => [owner, field, name]

def JoinPiece.names : JoinPiece → List String
  | clause c => [c.table, c.tableAlias, c.onAlias, c.onColumn, c.column]
  | blank => []

/-- The columns of a condition in the order of the text. -/
def Condition.columns : Condition → List QualifiedColumn
  | comparison _ column | inList _ column | isNull column | isNotNull column => [column]
  | connected _ left right => left.columns ++ right.columns
  | not inner => inner.columns
  | always | never => []

def whereNames (condition : Option Condition) : List String :=
  condition.toList.flatMap fun condition => condition.columns.flatMap (·.names)

def orderNames (order : List OrderItem) : List String := order.flatMap (·.column.names)

def SelectStatement.names (st : SelectStatement) : List String :=
  st.items.flatMap (·.names) ++ [st.table, st.rootAlias] ++ st.joins.flatMap (·.names)
    ++ whereNames st.condition ++ orderNames st.order

def DeleteStatement.names (st : DeleteStatement) : List String := st.table :: whereNames st.condition

/-- The names in the orders that a page request appends to the query. -/
def PreparedQuery.pageNames {n : Nat} (s : Schema n) (q : PreparedQuery n) : List String :=
  match s.orderItems q.root q.root.rootAlias q.page.sort with
  | .ok items => orderNames items
  | .error _ => []

/-- A text without placeholders. -/
def Unmarked (text : String) : Prop := '?' ∉ text.toList

instance (text : String) : Decidable (Unmarked text) :=
  inferInstanceAs (Decidable ('?' ∉ text.toList))

namespace Unmarked
variable {a b : String}

@[simp] theorem append_iff : Unmarked (a ++ b) ↔ Unmarked a ∧ Unmarked b := by
  simp only [Unmarked, String.toList_append, List.mem_append, not_or]

theorem intercalate {sep : String} {texts : List String} (hsep : Unmarked sep)
    (h : ∀ text ∈ texts, Unmarked text) : Unmarked (sep.intercalate texts) := by
  induction texts with
  | nil => simp [Unmarked]
  | cons text texts ih =>
    have htext := h text (by simp)
    have hrest := ih fun text hmem => h text (by simp [hmem])
    cases texts with
    | nil => simpa using htext
    | cons next texts =>
      rw [String.intercalate_cons_cons, append_iff, append_iff]
      exact ⟨⟨htext, hsep⟩, hrest⟩

theorem join {texts : List String} (h : ∀ text ∈ texts, Unmarked text) :
    Unmarked (String.join texts) := by
  simp only [Unmarked, String.toList_join, List.mem_flatMap, not_exists, not_and]
  exact h

theorem toString_nat (k : Nat) : Unmarked (toString k) := fun hmem =>
  absurd (Text.isDigit_of_mem_toString hmem) (by decide)

end Unmarked

/-! The texts in which names stand have no placeholder of their own. -/

theorem QualifiedColumn.unmarked_text {c : QualifiedColumn} (h : ∀ name ∈ c.names, Unmarked name) :
    Unmarked c.text := by
  simp only [names, List.forall_mem_cons] at h
  unfold text
  split
  · exact h.2.1
  · simp only [Unmarked.append_iff]
    exact ⟨⟨h.1, by decide⟩, h.2.1⟩

theorem SelectItem.unmarked_text {item : SelectItem} (h : ∀ name ∈ item.names, Unmarked name) :
    Unmarked item.text := by
  cases item with
  | star => decide
  | count => decide
  | column c => exact QualifiedColumn.unmarked_text h
  | fetched owner field name =>
    simp only [names, List.forall_mem_cons] at h
    obtain ⟨howner, hfield, hname, -⟩ := h
    simp only [text, Unmarked.append_iff]
    exact ⟨⟨⟨⟨howner, by decide⟩, hfield⟩, by decide⟩, hname⟩

theorem JoinPiece.unmarked_text {piece : JoinPiece} (h : ∀ name ∈ piece.names, Unmarked name) :
    Unmarked piece.text := by
  cases piece with
  | blank => decide
  | clause c =>
    have hkeyword : Unmarked c.kind.keyword := by cases c.kind <;> decide
    simp only [names, List.forall_mem_cons] at h
    obtain ⟨htable, halias, honAlias, honColumn, hcolumn, -⟩ := h
    simp only [text, JoinClause.text, Unmarked.append_iff, hkeyword, htable, halias, honAlias,
      honColumn, hcolumn, true_and, and_true]
    decide

theorem OrderItem.unmarked_text {item : OrderItem} (h : ∀ name ∈ item.column.names, Unmarked name) :
    Unmarked item.text := by
  have hcolumn := QualifiedColumn.unmarked_text h
  have hkeyword : Unmarked item.direction.keyword := by cases item.direction <;> decide
  unfold text
  split <;> simp only [Unmarked.append_iff, hcolumn, hkeyword, true_and, and_true] <;> decide

theorem unmarked_orders {order : List OrderItem} (h : ∀ name ∈ orderNames order, Unmarked name) :
    Unmarked (",".intercalate (order.map (·.text))) := by
  refine .intercalate (by decide) fun text htext => ?_
  obtain ⟨item, hitem, rfl⟩ := List.mem_map.1 htext
  exact item.unmarked_text fun name hname => h name (List.mem_flatMap.2 ⟨item, hitem, hname⟩)

theorem PageRequest.unmarked_clause (p : PageRequest) : Unmarked p.clause := by
  have hoffset := Unmarked.toString_nat p.offset
  have hsize := Unmarked.toString_nat p.size
  unfold clause
  split
  · split <;> simp only [Unmarked.append_iff, hoffset, hsize, and_true] <;> decide
  · decide

theorem PreparedQuery.unmarked_pageText {n : Nat} {s : Schema n} {q : PreparedQuery n}
    (h : ∀ name ∈ q.pageNames s, Unmarked name) {text : String} (htext : q.pageText s = .ok text) :
    Unmarked text := by
  have hlist : ∀ list, s.orderList q.root q.root.rootAlias q.page.sort = .ok list →
      Unmarked list := by
    intro list hlist
    simp only [Schema.orderList, Outcome.bind_eq_ok, Outcome.pure_eq_ok] at hlist
    obtain ⟨items, hitems, rfl⟩ := hlist
    rw [pageNames, hitems] at h
    exact unmarked_orders h
  unfold pageText at htext
  split at htext
  · cases htext
    decide
  have hclause := q.effectivePage.unmarked_clause
  split at htext
  · cases htext
    exact Unmarked.append_iff.2 ⟨by decide, hclause⟩
  split at htext
  · simp only [Outcome.bind_eq_ok, Outcome.pure_eq_ok, Outcome.map_eq_ok] at htext
    obtain ⟨sort, ⟨list, hok, rfl⟩, rfl⟩ := htext
    simp only [Unmarked.append_iff]
    exact ⟨⟨by decide, hlist list hok⟩, hclause⟩
  · simp only [Schema.orderBy, Outcome.bind_eq_ok, Outcome.pure_eq_ok] at htext
    obtain ⟨sort, ⟨list, hok, rfl⟩, rfl⟩ := htext
    simp only [Unmarked.append_iff]
    exact ⟨⟨by decide, hlist list hok⟩, hclause⟩

/-- A time, for examples. -/
def Timestamp.newYear : Timestamp :=
  ⟨⟨2024, 1, 1, by decide⟩, ⟨0, 0, 0, 0, by decide, by decide, by decide, by decide, by decide⟩⟩

/-- A book, for examples. -/
def Entity.book : Entity 1 where
  name := "Book"
  table := some "book"
  identity := some { name := "id", content := .scalar .long }
  properties := [{ name := "title", content := .scalar .string }]

/-- A schema of books, for examples. -/
def Schema.books : Schema 1 where
  entity _ := .book

end EntitySql
