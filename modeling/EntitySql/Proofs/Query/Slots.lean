import EntitySql.Proofs.Outcome
import EntitySql.Proofs.Statement.Layout
import EntitySql.Query.Select

/-! # Slots of a condition

The places of a condition are numbered in the order of its text: compiling a criterion gives a
parameter its slot when its place comes to stand at the end of the places so far
(`Criterion.compile_numbered`). So the text of a compiled condition is the template of a layout
(`Condition.template_layout`), whose places are all that the condition says of parameters. -/

namespace EntitySql

namespace Condition

/-- The number of places in the text of a condition. -/
def size : Condition → Nat
  | comparison .. | inList .. => 1
  | connected _ left right => left.size + right.size
  | not inner => inner.size
  | _ => 0

/-- Whether each token names its position among the places, the first of which is given. -/
def Numbered (slot : Nat) : Condition → Prop
  | inList named _ => named = slot
  | connected _ left right => left.Numbered slot ∧ right.Numbered (slot + left.size)
  | not inner => inner.Numbered slot
  | _ => True

/-- The same for conditions one after the other. -/
def sizeAll : List Condition → Nat
  | [] => 0
  | condition :: conditions => condition.size + sizeAll conditions

def NumberedAll : Nat → List Condition → Prop
  | _, [] => True
  | slot, condition :: conditions =>
    condition.Numbered slot ∧ NumberedAll (slot + condition.size) conditions

theorem size_foldl (connective : Connective) (conditions : List Condition) (first : Condition) :
    (conditions.foldl (connected connective) first).size = first.size + sizeAll conditions := by
  induction conditions generalizing first with
  | nil => rfl
  | cons condition conditions ih =>
    rw [List.foldl_cons, ih]
    simp [size, sizeAll, Nat.add_assoc]

theorem numbered_foldl {connective : Connective} {conditions : List Condition} {slot : Nat}
    (first : Condition) (hfirst : first.Numbered slot) (h : NumberedAll (slot + first.size) conditions) :
    (conditions.foldl (connected connective) first).Numbered slot := by
  induction conditions generalizing first with
  | nil => exact hfirst
  | cons condition conditions ih =>
    refine ih (.connected connective first condition) ⟨hfirst, h.1⟩ ?_
    rw [size, ← Nat.add_assoc]
    exact h.2

theorem size_chain {connective : Connective} {empty : Condition} (hempty : empty.size = 0)
    (conditions : List Condition) : (chain connective empty conditions).size = sizeAll conditions := by
  cases conditions with
  | nil => exact hempty
  | cons first others => rw [chain, size_foldl]; rfl

theorem numbered_chain {connective : Connective} {empty : Condition} {slot : Nat}
    (hempty : empty.Numbered slot) {conditions : List Condition} (h : NumberedAll slot conditions) :
    (chain connective empty conditions).Numbered slot := by
  cases conditions with
  | nil => exact hempty
  | cons first others => exact numbered_foldl first h.1 h.2

end Condition

namespace Layout

/-- The layout with more text in front. -/
def prepend (text : List Char) (l : Layout) : Layout := { l with lead := text ++ l.lead }

/-- The layout with a place in front. -/
def push (column : Option (List Char)) (l : Layout) : Layout := ⟨[], ⟨column, l.lead⟩ :: l.places⟩

/-- Text in front of which a placeholder cannot become a token. -/
def Parted (l : Layout) : Prop := ∃ c rest, l.lead = c :: rest ∧ c ≠ '$'

variable {l : Layout} {text : List Char}

theorem template_prepend (slot : Nat) : (l.prepend text).template slot = text ++ l.template slot := by
  simp [template, prepend, List.append_assoc]

theorem template_push (slot : Nat) (column : Option (List Char)) :
    (l.push column).template slot =
      (Place.mk column l.lead).template slot ++ l.template (slot + 1) := by
  simp [template, push, templatePlaces, List.append_assoc]

theorem WellFormed.prepend (h : l.WellFormed) (htext : '?' ∉ text) : (l.prepend text).WellFormed :=
  ⟨by simp [Layout.prepend, htext, h.lead_unmarked], h.places⟩

theorem WellFormed.push (h : l.WellFormed) (hparted : l.Parted) {column : Option (List Char)}
    (hmark : ∀ text, column = some text → '?' ∉ text)
    (hclose : ∀ text, column = some text → ')' ∉ text) : (l.push column).WellFormed := by
  refine ⟨by simp [Layout.push], fun p hp => ?_⟩
  rcases List.mem_cons.1 hp with rfl | hp
  · exact ⟨h.lead_unmarked, hparted, hmark, hclose⟩
  · exact h.places p hp

theorem Parted.prepend_cons {c : Char} (hc : c ≠ '$') (rest : List Char) :
    (l.prepend (c :: rest)).Parted := ⟨c, rest ++ l.lead, rfl, hc⟩

end Layout

namespace Condition

/-- An operand in front of a layout, where `inner` puts the condition in front of one. -/
def operandLayout (bare : Bool) (inner : Layout → Layout) (next : Layout) : Layout :=
  if bare then inner next else (inner (next.prepend [')'])).prepend ['(']

/-- A condition in front of a layout. -/
def layout : Condition → Layout → Layout
  | comparison operator column, next =>
    (next.push none).prepend (columnOperand column ++ " " ++ operator.operator ++ " ").toList
  | inList _ column, next => next.push (some column.text.toList)
  | connected connective left right, next =>
    operandLayout (left.isConstant || left.isChainOf connective) left.layout <|
      (operandLayout right.isConstant right.layout next).prepend
        (" " ++ connective.keyword ++ " ").toList
  | not inner, next => (operandLayout inner.isConstant inner.layout next).prepend "NOT ".toList
  | condition, next => next.prepend condition.text.toList

theorem template_operandLayout {bare : Bool} {inner : Layout → Layout} {text : String}
    {slot size : Nat} (h : ∀ next : Layout,
      (inner next).template slot = text.toList ++ next.template (slot + size)) (next : Layout) :
    (operandLayout bare inner next).template slot =
      (operand bare text).toList ++ next.template (slot + size) := by
  cases bare with
  | true => exact h next
  | false =>
    show ((inner (next.prepend [')'])).prepend ['(']).template slot = (parenthesized text).toList ++ _
    rw [Layout.template_prepend, h, Layout.template_prepend]
    simp [parenthesized]

/-- The layout of a condition is its text, when the tokens are numbered as they stand. -/
theorem template_layout {condition : Condition} {slot : Nat} (h : condition.Numbered slot)
    (next : Layout) : (condition.layout next).template slot =
      condition.text.toList ++ next.template (slot + condition.size) := by
  induction condition generalizing slot next with
  | comparison operator column =>
    rw [layout, Layout.template_prepend, Layout.template_push]
    simp [Place.template, text, size]
  | inList named column =>
    obtain rfl : named = slot := h
    rw [layout, Layout.template_push]
    simp [Place.template, text, size]
  | connected connective left right ihl ihr =>
    rw [layout, template_operandLayout (ihl h.1), Layout.template_prepend,
      template_operandLayout (ihr h.2)]
    simp [text, size, Nat.add_assoc]
  | not inner ih =>
    rw [layout, Layout.template_prepend, template_operandLayout (ih h)]
    simp [text, size]
  | always | never | isNull column | isNotNull column => exact Layout.template_prepend slot

theorem length_places_layout (condition : Condition) (next : Layout) :
    (condition.layout next).places.length = condition.size + next.places.length := by
  have hoperand : ∀ (bare : Bool) (inner : Layout → Layout) (size : Nat) (next : Layout),
      (∀ next, (inner next).places.length = size + next.places.length) →
      (operandLayout bare inner next).places.length = size + next.places.length := by
    intro bare inner size next h
    cases bare with
    | true => exact h next
    | false => exact h _
  induction condition generalizing next with
  | comparison operator column | inList named column => exact Nat.add_comm _ 1
  | connected connective left right ihl ihr =>
    rw [layout, hoperand _ _ _ _ ihl]
    show _ + (operandLayout _ _ _).places.length = _
    rw [hoperand _ _ _ _ ihr, size, Nat.add_assoc]
  | not inner ih => exact hoperand _ _ _ _ ih
  | always | never | isNull column | isNotNull column => exact (Nat.zero_add _).symm

end Condition

namespace Criterion
variable {resolve : String → Outcome ResolvedPath}

mutual

/-- Compiling a criterion numbers its places from the end of the binding table on. -/
theorem compile_numbered : ∀ (criterion : Criterion) {slots slots' : List Slot}
    {condition : Condition}, criterion.compile resolve slots = .ok (condition, slots') →
    condition.Numbered slots.length ∧ slots'.length = slots.length + condition.size
  | compare .., _, _, _, h => by
    simp only [compile, Outcome.bind_eq_ok, Outcome.pure_eq_ok, Prod.mk.injEq] at h
    obtain ⟨resolved, -, rfl, rfl⟩ := h
    exact ⟨trivial, by simp [Condition.size]⟩
  | isIn .., _, _, _, h => by
    simp only [compile, Outcome.bind_eq_ok, Outcome.pure_eq_ok, Prod.mk.injEq] at h
    obtain ⟨resolved, -, rfl, rfl⟩ := h
    exact ⟨rfl, by simp [Condition.size]⟩
  | isNull .., _, _, _, h | isNotNull .., _, _, _, h => by
    simp only [compile, Outcome.bind_eq_ok, Outcome.pure_eq_ok, Prod.mk.injEq] at h
    obtain ⟨resolved, -, rfl, rfl⟩ := h
    exact ⟨trivial, rfl⟩
  | and criteria, _, _, _, h | or criteria, _, _, _, h => by
    simp only [compile, Outcome.bind_eq_ok, Outcome.pure_eq_ok, Prod.mk.injEq, Prod.exists] at h
    obtain ⟨conditions, slots, hall, rfl, rfl⟩ := h
    obtain ⟨hnumbered, hlength⟩ := compileAll_numbered criteria hall
    refine ⟨Condition.numbered_chain (by trivial) hnumbered, ?_⟩
    rw [hlength, Condition.size_chain rfl]
  | not criterion, _, _, _, h => by
    simp only [compile, Outcome.bind_eq_ok, Outcome.pure_eq_ok, Prod.mk.injEq, Prod.exists] at h
    obtain ⟨condition, slots, hinner, rfl, rfl⟩ := h
    have hnumbered := compile_numbered criterion hinner
    exact hnumbered

theorem compileAll_numbered : ∀ (criteria : List Criterion) {slots slots' : List Slot}
    {conditions : List Condition}, compileAll resolve criteria slots = .ok (conditions, slots') →
    Condition.NumberedAll slots.length conditions ∧
      slots'.length = slots.length + Condition.sizeAll conditions
  | [], _, _, _, h => by
    simp only [compileAll, Outcome.pure_eq_ok, Prod.mk.injEq] at h
    obtain ⟨rfl, rfl⟩ := h
    exact ⟨trivial, rfl⟩
  | criterion :: criteria, _, _, _, h => by
    simp only [compileAll, Outcome.bind_eq_ok, Outcome.pure_eq_ok, Prod.mk.injEq,
      Prod.exists] at h
    obtain ⟨condition, slots, hfirst, conditions, slots', hrest, rfl, rfl⟩ := h
    obtain ⟨hnumbered, hlength⟩ := compile_numbered criterion hfirst
    obtain ⟨hrestNumbered, hrestLength⟩ := compileAll_numbered criteria hrest
    rw [hlength] at hrestNumbered hrestLength
    refine ⟨⟨hnumbered, hrestNumbered⟩, ?_⟩
    rw [hrestLength, Nat.add_assoc]
    rfl

end

end Criterion

end EntitySql
