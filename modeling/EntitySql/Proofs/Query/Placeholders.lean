import EntitySql.Proofs.Query.Names
import EntitySql.Proofs.Query.Slots

/-! # Placeholders of compiled queries

A compiled SELECT or DELETE is the template of a layout with one place for each slot of its binding
table (`Schema.query_laidOut`, `Schema.delete_laidOut`). Names may hold anything but a question mark,
which could be read as a placeholder, and a closing bracket, which would end a token. -/

namespace EntitySql

/-- A name that cannot be read as a placeholder or as the end of a token. -/
def IsPlainName (name : String) : Prop := Unmarked name ∧ ')' ∉ name.toList

instance (name : String) : Decidable (IsPlainName name) :=
  inferInstanceAs (Decidable (_ ∧ _))

namespace Condition

theorem unmarked_columnOperand {column : QualifiedColumn} (h : Unmarked column.text) :
    Unmarked (columnOperand column) := by
  unfold columnOperand parenthesized
  split
  · simp only [Unmarked.append_iff]
    exact ⟨⟨by decide, h⟩, by decide⟩
  · exact h

theorem close_notMem_text {column : QualifiedColumn} (h : ∀ name ∈ column.names, IsPlainName name) :
    ')' ∉ column.text.toList := by
  simp only [QualifiedColumn.names, List.forall_mem_cons] at h
  unfold QualifiedColumn.text
  split
  · exact h.2.1.2
  · simp only [String.toList_append, List.mem_append, not_or]
    exact ⟨⟨h.1.2, by decide⟩, h.2.1.2⟩

/-- What puts text in front of a layout and leaves it well formed. -/
def Keeps (inner : Layout → Layout) : Prop :=
  ∀ next : Layout, next.WellFormed → next.Parted → (inner next).WellFormed

theorem Keeps.operandLayout {inner : Layout → Layout} (h : Keeps inner) (bare : Bool) :
    Keeps (operandLayout bare inner) := by
  intro next hnext hparted
  cases bare with
  | true => exact h next hnext hparted
  | false =>
    have hbracket : (next.prepend [')']).WellFormed := hnext.prepend (by decide)
    have hclosed := h _ hbracket (Layout.Parted.prepend_cons (by decide) [])
    exact hclosed.prepend (by decide)

/-- A placeholder of a condition stands in front of a blank or a bracket. -/
theorem keeps_layout {condition : Condition}
    (h : ∀ column ∈ condition.columns, ∀ name ∈ column.names, IsPlainName name) :
    Keeps condition.layout := by
  have hcolumn : ∀ column : QualifiedColumn, (∀ name ∈ column.names, IsPlainName name) →
      Unmarked column.text := fun column hnames =>
    QualifiedColumn.unmarked_text fun name hname => (hnames name hname).1
  induction condition with
  | always | never => exact fun next hnext _ => hnext.prepend (by decide)
  | comparison operator column =>
    have hcol := unmarked_columnOperand (hcolumn column (h column (by simp [columns])))
    have hop : Unmarked operator.operator := by cases operator <;> decide
    intro next hnext hparted
    refine (hnext.push hparted (by simp) (by simp)).prepend ?_
    show Unmarked _
    simp only [Unmarked.append_iff]
    exact ⟨⟨⟨hcol, by decide⟩, hop⟩, by decide⟩
  | inList slot column =>
    have hnames := h column (by simp [columns])
    intro next hnext hparted
    refine hnext.push hparted (fun text htext => ?_) (fun text htext => ?_)
    · obtain rfl : column.text.toList = text := by simpa using htext
      exact hcolumn column hnames
    · obtain rfl : column.text.toList = text := by simpa using htext
      exact close_notMem_text hnames
  | isNull column | isNotNull column =>
    have hcol := unmarked_columnOperand (hcolumn column (h column (by simp [columns])))
    intro next hnext _
    refine hnext.prepend ?_
    show Unmarked (columnOperand column ++ _)
    exact Unmarked.append_iff.2 ⟨hcol, by decide⟩
  | connected connective left right ihl ihr =>
    have hl := ihl fun column hmem => h column (by simp [columns, hmem])
    have hr := ihr fun column hmem => h column (by simp [columns, hmem])
    have hkeyword : Unmarked (" " ++ connective.keyword ++ " ") := by cases connective <;> decide
    intro next hnext hparted
    refine hl.operandLayout _ _ ((hr.operandLayout _ next hnext hparted).prepend hkeyword) ?_
    cases connective <;> exact Layout.Parted.prepend_cons (by decide) _
  | not inner ih =>
    have hinner := ih fun column hmem => h column hmem
    exact fun next hnext hparted =>
      (hinner.operandLayout _ next hnext hparted).prepend (by decide)

end Condition

/-- A WHERE clause in front of more text. -/
def whereLayout (condition : Option Condition) (next : String) : Layout :=
  match condition with
  | none => ⟨next.toList, []⟩
  | some condition => (condition.layout ⟨')' :: next.toList, []⟩).prepend " WHERE (".toList

section
variable {resolve : String → Outcome ResolvedPath} {criteria : List Criterion}
  {condition : Option Condition} {slots : List Slot}

theorem whereCondition_numbered (h : whereCondition resolve criteria = .ok (condition, slots)) :
    (∀ c ∈ condition, c.Numbered 0) ∧ slots.length = (condition.elim 0 Condition.size) := by
  simp only [whereCondition, Outcome.bind_eq_ok, Outcome.pure_eq_ok, Prod.exists,
    Prod.mk.injEq] at h
  obtain ⟨conditions, slots, hall, rfl, rfl⟩ := h
  obtain ⟨hnumbered, hlength⟩ := Criterion.compileAll_numbered criteria hall
  cases conditions with
  | nil => simpa [Condition.sizeAll] using hlength
  | cons first others =>
    refine ⟨fun c hc => ?_, ?_⟩
    · obtain rfl : Condition.chain .and .always (first :: others) = c := by simpa using hc
      exact Condition.numbered_chain (by trivial) hnumbered
    · rw [hlength]
      show _ = (Condition.chain .and .always (first :: others)).size
      rw [Condition.size_chain rfl, List.length_nil, Nat.zero_add]

theorem template_whereLayout (h : ∀ c ∈ condition, c.Numbered 0) (next : String) :
    (whereLayout condition next).template 0 = (whereText condition ++ next).toList := by
  cases condition with
  | none => simp [whereLayout, whereText, Layout.template, Layout.templatePlaces]
  | some c =>
    rw [whereLayout, Layout.template_prepend, Condition.template_layout (h c rfl)]
    simp [whereText, Layout.template, Layout.templatePlaces]

theorem length_places_whereLayout (condition : Option Condition) (next : String) :
    (whereLayout condition next).places.length = condition.elim 0 Condition.size := by
  cases condition with
  | none => rfl
  | some c => exact (c.length_places_layout _)

theorem wellFormed_whereLayout (h : ∀ name ∈ whereNames condition, IsPlainName name) {next : String}
    (hnext : Unmarked next) : (whereLayout condition next).WellFormed := by
  cases condition with
  | none => exact ⟨hnext, by simp [whereLayout]⟩
  | some c =>
    have hkeeps : Condition.Keeps c.layout := Condition.keeps_layout fun column hcolumn name hname =>
      h name (by simpa [whereNames] using ⟨column, hcolumn, hname⟩)
    have hend : Layout.WellFormed ⟨')' :: next.toList, []⟩ :=
      ⟨fun hmem => hnext (by simpa using hmem), by simp⟩
    exact (hkeeps _ hend ⟨')', next.toList, rfl, by decide⟩).prepend (by decide)

end

/-- A layout of a template, with one place for each slot of the binding table. -/
structure Template.LaidOut (t : Template) (l : Layout) : Prop where
  wellFormed : l.WellFormed
  text : l.template 0 = t.text.toList
  slots : l.places.length = t.bindings.length

namespace SelectStatement

/-- The text in front of the WHERE clause. -/
def headText (st : SelectStatement) : String :=
  "SELECT " ++ ",".intercalate (st.items.map (·.text)) ++ " FROM " ++ st.table ++ " "
    ++ st.rootAlias ++ String.join (st.joins.map (·.text))

def orderText (st : SelectStatement) : String :=
  if st.order.isEmpty then "" else " ORDER BY " ++ ",".intercalate (st.order.map (·.text))

def layout (st : SelectStatement) : Layout :=
  (whereLayout st.condition st.orderText).prepend st.headText.toList

theorem text_eq (st : SelectStatement) :
    st.text = st.headText ++ (whereText st.condition ++ st.orderText) := by
  rw [← String.append_assoc]
  rfl

theorem unmarked_headText {st : SelectStatement} (h : ∀ name ∈ st.names, Unmarked name) :
    Unmarked st.headText := by
  simp only [names, List.forall_mem_append, List.forall_mem_cons] at h
  obtain ⟨⟨⟨⟨hitems, htable, halias, -⟩, hjoins⟩, -⟩, -⟩ := h
  have hlist : Unmarked (",".intercalate (st.items.map (·.text))) := by
    refine .intercalate (by decide) fun text htext => ?_
    obtain ⟨item, hitem, rfl⟩ := List.mem_map.1 htext
    exact item.unmarked_text fun name hname => hitems name (List.mem_flatMap.2 ⟨item, hitem, hname⟩)
  have hpieces : Unmarked (String.join (st.joins.map (·.text))) := by
    refine .join fun text htext => ?_
    obtain ⟨piece, hpiece, rfl⟩ := List.mem_map.1 htext
    exact piece.unmarked_text fun name hname =>
      hjoins name (List.mem_flatMap.2 ⟨piece, hpiece, hname⟩)
  simp only [headText, Unmarked.append_iff, hlist, htable, halias, hpieces, and_true]
  decide

theorem unmarked_orderText {st : SelectStatement} (h : ∀ name ∈ st.names, Unmarked name) :
    Unmarked st.orderText := by
  have horder : ∀ name ∈ orderNames st.order, Unmarked name := fun name hname =>
    h name (List.mem_append_right _ hname)
  unfold orderText
  split
  · decide
  · exact Unmarked.append_iff.2 ⟨by decide, unmarked_orders horder⟩

theorem wellFormed_layout {st : SelectStatement} (h : ∀ name ∈ st.names, IsPlainName name) :
    st.layout.WellFormed := by
  have hmarks : ∀ name ∈ st.names, Unmarked name := fun name hname => (h name hname).1
  have hwhere : ∀ name ∈ whereNames st.condition, IsPlainName name := fun name hname =>
    h name (List.mem_append_left _ (List.mem_append_right _ hname))
  exact (wellFormed_whereLayout hwhere (unmarked_orderText hmarks)).prepend
    (unmarked_headText hmarks)

end SelectStatement

namespace DeleteStatement

def layout (st : DeleteStatement) : Layout :=
  (whereLayout st.condition "").prepend ("DELETE FROM " ++ st.table).toList

theorem wellFormed_layout {st : DeleteStatement} (h : ∀ name ∈ st.names, IsPlainName name) :
    st.layout.WellFormed := by
  have htable : Unmarked ("DELETE FROM " ++ st.table) :=
    Unmarked.append_iff.2 ⟨by decide, (h st.table (by simp [names])).1⟩
  have hwhere : ∀ name ∈ whereNames st.condition, IsPlainName name := fun name hname =>
    h name (by simp [names, hname])
  exact (wellFormed_whereLayout hwhere (by decide)).prepend htable

end DeleteStatement

namespace Schema
variable {n : Nat} {s : Schema n} {m : QueryModel n} {t : Template}

/-- The names in the SELECT that a query model compiles to. -/
def queryNames (s : Schema n) (m : QueryModel n) : List String :=
  match s.selectStatement m with
  | .ok (st, _) => st.names
  | .error _ => []

/-- The names in the DELETE that a query model compiles to. -/
def deleteNames (s : Schema n) (m : QueryModel n) : List String :=
  match s.deleteStatement m with
  | .ok (st, _) => st.names
  | .error _ => []

theorem query_laidOut (h : s.query m = .ok t) (hnames : ∀ name ∈ s.queryNames m, IsPlainName name) :
    ∃ l, t.LaidOut l := by
  simp only [query, Outcome.bind_eq_ok, Outcome.pure_eq_ok, Prod.exists] at h
  obtain ⟨st, slots, hst, rfl⟩ := h
  rw [queryNames, hst] at hnames
  simp only [selectStatement, Outcome.bind_eq_ok, Outcome.pure_eq_ok, Prod.exists,
    Prod.mk.injEq] at hst
  obtain ⟨joins, -, items, -, condition, slots', hwhere, order, -, rfl, rfl⟩ := hst
  obtain ⟨hnumbered, hslots⟩ := whereCondition_numbered hwhere
  refine ⟨_, SelectStatement.wellFormed_layout hnames, ?_, ?_⟩
  · rw [SelectStatement.layout, Layout.template_prepend, template_whereLayout hnumbered,
      ← String.toList_append, ← SelectStatement.text_eq]
    rfl
  · show (whereLayout condition _).places.length = (slots'.map (·.binding)).length
    rw [length_places_whereLayout, List.length_map, hslots]

theorem delete_laidOut (h : s.delete m = .ok t)
    (hnames : ∀ name ∈ s.deleteNames m, IsPlainName name) : ∃ l, t.LaidOut l := by
  simp only [delete, Outcome.bind_eq_ok, Outcome.pure_eq_ok, Prod.exists] at h
  obtain ⟨st, slots, hst, rfl⟩ := h
  rw [deleteNames, hst] at hnames
  unfold deleteStatement at hst
  split at hst
  · cases hst
  simp only [Outcome.bind_eq_ok, Outcome.pure_eq_ok, Prod.exists, Prod.mk.injEq] at hst
  obtain ⟨condition, slots', hwhere, rfl, rfl⟩ := hst
  obtain ⟨hnumbered, hslots⟩ := whereCondition_numbered hwhere
  refine ⟨_, DeleteStatement.wellFormed_layout hnames, ?_, ?_⟩
  · rw [DeleteStatement.layout, Layout.template_prepend, template_whereLayout hnumbered,
      ← String.toList_append, String.append_empty]
    rfl
  · show (whereLayout condition _).places.length = (slots'.map (·.binding)).length
    rw [length_places_whereLayout, List.length_map, hslots]

end Schema

end EntitySql
