import EntitySql.Proofs.Bean.Paths
import EntitySql.Proofs.Query.Names
import EntitySql.Proofs.Statement.Layout
import EntitySql.Statement.Update

/-! # Placeholders of INSERT and UPDATE

The statements that write an entity have a placeholder for each column that they name, and bind to it
what the column is made from (`Schema.writes_linedUp`). Names may hold anything but a question mark. -/

namespace EntitySql
variable {n : Nat}

/-! ### Places in texts -/

/-- The placeholder with that number stands between two parts of the text. -/
def PlaceAt (text : String) (i : Nat) (front back : String) : Prop :=
  text = front ++ "?" ++ back ∧ front.toList.count '?' = i

theorem count_of_unmarked {text : String} (h : Unmarked text) : text.toList.count '?' = 0 :=
  List.count_eq_zero_of_not_mem h

theorem count_append (a b : String) :
    (a ++ b).toList.count '?' = a.toList.count '?' + b.toList.count '?' := by
  rw [String.toList_append, List.count_append]

theorem count_join {texts : List String} (h : ∀ text ∈ texts, text.toList.count '?' = 1) :
    (String.join texts).toList.count '?' = texts.length := by
  induction texts with
  | nil => rfl
  | cons text texts ih =>
    have hrest := ih fun text hmem => h text (by simp [hmem])
    rw [String.toList_join, List.flatMap_cons, List.count_append, ← String.toList_join, hrest,
      h text (by simp), List.length_cons, Nat.add_comm]

theorem intercalate_split (sep : String) (before : List String) (text : String)
    (after : List String) :
    sep.intercalate (before ++ text :: after) =
      String.join (before.map (· ++ sep)) ++ text ++ String.join (after.map (sep ++ ·)) := by
  induction before with
  | nil =>
    induction after generalizing text with
    | nil => simp
    | cons next after ih =>
      have hrest : sep.intercalate (next :: after) = _ := ih next
      rw [List.nil_append, String.intercalate_cons_cons, hrest]
      apply String.toList_inj.1
      simp [String.toList_join]
  | cons first before ih =>
    obtain ⟨next, rest, hnext⟩ : ∃ next rest, before ++ text :: after = next :: rest := by
      cases before <;> simp
    rw [List.cons_append, hnext, String.intercalate_cons_cons, ← hnext, ih]
    apply String.toList_inj.1
    simp [String.toList_join]

/-- What stands in front of a text is the start or a separator. -/
theorem exists_last (start keyword sep : String) (before : List String) :
    ∃ front last, start ++ keyword ++ String.join (before.map (· ++ sep)) = front ++ last ∧
      (last = keyword ∨ last = sep) := by
  rcases List.eq_nil_or_concat before with rfl | ⟨before, text, rfl⟩
  · exact ⟨start, keyword, by simp, .inl rfl⟩
  · refine ⟨start ++ keyword ++ String.join (before.map (· ++ sep)) ++ text, sep, ?_, .inr rfl⟩
    apply String.toList_inj.1
    simp [String.toList_join]

section
variable {sep : String} (hsep : Unmarked sep)
include hsep

theorem count_join_before {before : List String} (h : ∀ text ∈ before, text.toList.count '?' = 1) :
    (String.join (before.map (· ++ sep))).toList.count '?' = before.length := by
  rw [count_join, List.length_map]
  intro text htext
  obtain ⟨text, hmem, rfl⟩ := List.mem_map.1 htext
  rw [count_append, h text hmem, count_of_unmarked hsep]

theorem count_intercalate {texts : List String} (h : ∀ text ∈ texts, text.toList.count '?' = 1) :
    (sep.intercalate texts).toList.count '?' = texts.length := by
  rcases List.eq_nil_or_concat texts with rfl | ⟨before, text, rfl⟩
  · rfl
  · rw [List.concat_eq_append, intercalate_split, count_append, count_append,
      count_join_before hsep fun text hmem => h text (by simp [hmem]), h text (by simp)]
    simp

end

theorem placeholders_eq_intercalate (count : Nat) :
    placeholders count = ",".intercalate (List.replicate count "?") := by
  unfold placeholders
  fun_induction marks count with
  | case1 => rfl
  | case2 => rfl
  | case3 count hne ih =>
    obtain ⟨count, rfl⟩ := Nat.exists_eq_succ_of_ne_zero hne
    rw [List.replicate_succ] at ih ⊢
    rw [List.replicate_succ, String.intercalate_cons_cons, ← ih]
    apply String.toList_inj.1
    simp

theorem placeholders_split (before after : Nat) :
    placeholders (before + 1 + after) =
      String.join (List.replicate before "?,") ++ "?" ++ String.join (List.replicate after ",?") := by
  have hreplicate : List.replicate (before + 1 + after) "?" =
      List.replicate before "?" ++ "?" :: List.replicate after "?" := by
    rw [Nat.add_assoc, Nat.add_comm 1, List.replicate_add, List.replicate_succ]
  rw [placeholders_eq_intercalate, hreplicate, intercalate_split, List.map_replicate,
    List.map_replicate]
  rfl

/-! ### Columns by their paths -/

namespace Schema
variable {s : Schema n} {e : Entity n} {c d : Column n}

theorem pairwise_path_columnsOf (hembeds : s.EmbedsNamed e) {identity : Bool} {p : Property n}
    (hp : p ∈ e.properties ++ e.identity.toList) :
    (s.columnsOf e identity p).Pairwise fun c d => c.path ≠ d.path := by
  unfold columnsOf
  split
  · exact .nil
  split
  · next a ha =>
    have hnames := List.pairwise_map.1 (hembeds p hp a ha)
    refine List.pairwise_map.2 (hnames.imp fun hne heq => hne ?_)
    exact (String.append_right_inj _).1 heq
  · exact List.pairwise_singleton _ _

theorem pairwise_path (he : e.WellNamed) (hembeds : s.EmbedsNamed e) :
    (s.columns e).Pairwise fun c d => c.path ≠ d.path := by
  refine pairwise_columns he (fun identity p hp => pairwise_path_columnsOf hembeds hp) ?_
  intro identity identity' p hp q hq hne c hc d hd heq
  have hcowner := (path_of_mem (he.dotless p hp) hc).1
  have hdowner := (path_of_mem (he.dotless q hq) hd).1
  rw [heq] at hcowner
  exact hne (hcowner.symm.trans hdowner)

theorem eq_of_path (he : e.WellNamed) (hembeds : s.EmbedsNamed e) (hc : c ∈ s.columns e)
    (hd : d ∈ s.columns e) (h : d.path = c.path) : d = c :=
  List.inj_on_of_nodup_map (List.pairwise_map.2 (pairwise_path he hembeds)) hd hc h

theorem path_mem_iff (he : e.WellNamed) (hembeds : s.EmbedsNamed e) {cs : List (Column n)}
    (hcs : cs ⊆ s.columns e) (hc : c ∈ s.columns e) : c.path ∈ cs.map (·.path) ↔ c ∈ cs := by
  refine ⟨fun h => ?_, fun h => List.mem_map_of_mem h⟩
  obtain ⟨d, hd, hpath⟩ := List.mem_map.1 h
  exact eq_of_path he hembeds hc (hcs hd) hpath ▸ hd

/-! ### What the statements say -/

/-- An INSERT up to its placeholders. -/
def insertHead (table : String) (names : List String) : String :=
  "INSERT INTO " ++ table ++ " (" ++ ",".intercalate names ++ ") VALUES ("

/-- The placeholder with that number stands in the values of an INSERT where the name stands in its
names. -/
def InsertedAt (table text : String) (i : Nat) (name : String) : Prop :=
  ∃ before after : List String, before.length = i ∧
    PlaceAt text i
      (insertHead table (before ++ name :: after) ++ String.join (List.replicate before.length "?,"))
      (String.join (List.replicate after.length ",?") ++ ")")

/-- The placeholder with that number stands in an equation of an UPDATE, behind the name. -/
def AssignedAt (text : String) (i : Nat) (name : String) : Prop :=
  ∃ front last back, last ∈ [" SET ", ",", " WHERE ", " AND "] ∧
    PlaceAt text i (front ++ last ++ name ++ "=") back

/-- The placeholders of a statement are those of its table, and each is written for the column that its
path belongs to. -/
structure LinesUp (s : Schema n) (e : Entity n) (t : Template)
    (WrittenAt : Nat → String → Prop) : Prop where
  bindings : t.bindings.length = t.text.toList.count '?'
  types : t.types.length = t.text.toList.count '?'
  paths : t.paths.length = t.text.toList.count '?'
  columns : ∀ i path, t.paths[i]? = some path → ∃ c ∈ s.columns e, c.path = path ∧
    (∀ d ∈ s.columns e, d.path = path → d = c) ∧ WrittenAt i c.text

/-- An INSERT fills what the database does not generate. -/
def InsertsAll (s : Schema n) (e : Entity n) (t : Template) : Prop :=
  t.paths.Sublist ((s.columns e).map (·.path)) ∧
    ∀ c ∈ s.columns e, c.path ∈ t.paths ↔ c.property.generated = false

def equations (columns : List (Column n)) : List String := columns.map (·.text ++ "=?")

/-- The text of an UPDATE that sets some columns and tests others. -/
def updateText (table : String) (assigned tested : List (Column n)) : String :=
  "UPDATE " ++ table ++ " SET " ++ ",".intercalate (equations assigned) ++ " WHERE "
    ++ " AND ".intercalate (equations tested)

/-- An UPDATE sets what is no identity and may change, and tests the identity. -/
def UpdatesByIdentity (s : Schema n) (e : Entity n) (t : Template) : Prop :=
  ∃ assigned tested : List (Column n),
    t.text = updateText e.tableName assigned tested ∧
    t.paths = assigned.map (·.path) ++ tested.map (·.path) ∧
    assigned.Sublist (s.columns e) ∧ tested.Sublist (s.columns e) ∧
    ∀ c ∈ s.columns e,
      (c ∈ assigned ↔ c.identity = false ∧ c.property.generated = false ∧
        c.property.autoPopulated ≠ some .created) ∧
      (c ∈ tested ↔ c.identity = true)

theorem LinesUp.ofColumns (he : e.WellNamed) (hembeds : s.EmbedsNamed e) {cs : List (Column n)}
    (hcs : cs ⊆ s.columns e) {text : String} (hcount : text.toList.count '?' = cs.length)
    {WrittenAt : Nat → String → Prop}
    (h : ∀ before c after, cs = before ++ c :: after → WrittenAt before.length c.text) :
    s.LinesUp e (.ofColumns text (cs.map (·.property.type)) (cs.map (·.path))) WrittenAt where
  bindings := by simp [Template.ofColumns, hcount]
  types := by simp [Template.ofColumns, hcount]
  paths := by simp [Template.ofColumns, hcount]
  columns i path hpath := by
    obtain ⟨c, hc, rfl⟩ : ∃ c, cs[i]? = some c ∧ c.path = path := by
      simpa [Template.ofColumns] using hpath
    obtain ⟨hi, rfl⟩ := List.getElem?_eq_some_iff.1 hc
    have hsplit : cs = cs.take i ++ cs[i] :: cs.drop (i + 1) := by
      rw [List.getElem_cons_drop, List.take_append_drop]
    have hlength : (cs.take i).length = i := List.length_take_of_le (Nat.le_of_lt hi)
    have hmem := hcs (List.getElem_mem hi)
    exact ⟨cs[i], hmem, rfl, fun d hd => eq_of_path he hembeds hmem hd,
      hlength ▸ h _ _ _ hsplit⟩

section
variable (he : e.WellNamed) (hembeds : s.EmbedsNamed e) (htable : Unmarked e.tableName)
  (hnames : ∀ c ∈ s.columns e, Unmarked c.text)
include he hembeds htable hnames

omit he hembeds htable hnames in
theorem eq_of_insert {t : Template} (h : s.insert e = .ok t) :
    t = .ofColumns (insertHead e.tableName ((s.insertedColumns e).map (·.text))
        ++ placeholders (s.insertedColumns e).length ++ ")")
      ((s.insertedColumns e).map (·.property.type)) ((s.insertedColumns e).map (·.path)) := by
  unfold Schema.insert at h
  dsimp only at h
  split at h
  · cases h
  · exact (Except.ok.inj h).symm

omit he hembeds in
theorem count_insertHead {cs : List (Column n)} (hcs : cs ⊆ s.columns e) :
    (insertHead e.tableName (cs.map (·.text))).toList.count '?' = 0 := by
  have hlist : Unmarked (",".intercalate (cs.map (·.text))) := by
    refine .intercalate (by decide) fun text htext => ?_
    obtain ⟨c, hc, rfl⟩ := List.mem_map.1 htext
    exact hnames c (hcs hc)
  simp only [insertHead, count_append, count_of_unmarked htable, count_of_unmarked hlist]
  rfl

omit he hembeds in
theorem insertedAt_of_split {cs before after : List (Column n)} {c : Column n}
    (hcs : cs ⊆ s.columns e) (h : cs = before ++ c :: after) :
    InsertedAt e.tableName
      (insertHead e.tableName (cs.map (·.text)) ++ placeholders cs.length ++ ")") before.length
      c.text := by
  have htexts : cs.map (·.text) = before.map (·.text) ++ c.text :: after.map (·.text) := by
    rw [h, List.map_append, List.map_cons]
  have hlength : cs.length = (before.map (·.text)).length + 1 + (after.map (·.text)).length := by
    rw [← List.length_map (·.text), htexts, List.length_append, List.length_cons]
    omega
  have hmarks : ∀ text ∈ List.replicate (before.map (·.text)).length "?,",
      text.toList.count '?' = 1 := by
    intro text htext
    rw [List.eq_of_mem_replicate htext]
    rfl
  refine ⟨before.map (·.text), after.map (·.text), List.length_map _, ?_, ?_⟩
  · rw [htexts, hlength, placeholders_split]
    simp only [String.append_assoc]
  · rw [← htexts, count_append, count_insertHead htable hnames hcs, count_join hmarks,
      List.length_replicate, List.length_map, Nat.zero_add]

theorem insert_linesUp {t : Template} (h : s.insert e = .ok t) :
    s.LinesUp e t (InsertedAt e.tableName t.text) ∧ s.InsertsAll e t := by
  have hsublist : (s.insertedColumns e).Sublist (s.columns e) := List.filter_sublist
  obtain rfl := eq_of_insert h
  refine ⟨.ofColumns he hembeds hsublist.subset ?_ ?_, hsublist.map _, fun c hc => ?_⟩
  · rw [count_append, count_append, count_insertHead htable hnames hsublist.subset]
    simp [placeholders, count_mark_marks]
  · intro before c after hsplit
    exact insertedAt_of_split htable hnames hsublist.subset hsplit
  · show c.path ∈ (s.insertedColumns e).map (·.path) ↔ _
    rw [path_mem_iff he hembeds hsublist.subset hc]
    simp [insertedColumns, hc]

omit he hembeds htable in
theorem count_equations {cs : List (Column n)} (hcs : cs ⊆ s.columns e) :
    ∀ text ∈ equations cs, text.toList.count '?' = 1 := by
  intro text htext
  obtain ⟨c, hc, rfl⟩ := List.mem_map.1 htext
  rw [count_append, count_of_unmarked (hnames c (hcs hc))]
  rfl

omit he hembeds htable in
theorem count_intercalate_equations {sep : String} (hsep : Unmarked sep) {cs : List (Column n)}
    (hcs : cs ⊆ s.columns e) : (sep.intercalate (equations cs)).toList.count '?' = cs.length := by
  rw [count_intercalate hsep (count_equations hnames hcs), equations, List.length_map]

omit he hembeds htable in
theorem assignedAt_equations (start keyword sep back : String) (hsep : Unmarked sep)
    (hkeyword : keyword ∈ [" SET ", ",", " WHERE ", " AND "])
    (hother : sep ∈ [" SET ", ",", " WHERE ", " AND "]) {before after : List (Column n)}
    {c : Column n} (hcs : before ++ c :: after ⊆ s.columns e) :
    AssignedAt (start ++ keyword ++ sep.intercalate (equations (before ++ c :: after)) ++ back)
      ((start ++ keyword).toList.count '?' + before.length) c.text := by
  obtain ⟨front, last, hfront, hlast⟩ := exists_last start keyword sep (equations before)
  have hbefore : before ⊆ s.columns e := fun d hd => hcs (List.mem_append_left _ hd)
  have hc : c ∈ s.columns e := hcs (List.mem_append_right _ List.mem_cons_self)
  refine ⟨front, last, String.join ((equations after).map (sep ++ ·)) ++ back, ?_, ?_, ?_⟩
  · rcases hlast with rfl | rfl
    · exact hkeyword
    · exact hother
  · have htexts : equations (before ++ c :: after) =
        equations before ++ (c.text ++ "=?") :: equations after := by
      simp [equations]
    have hequation : c.text ++ "=?" = c.text ++ "=" ++ "?" := by
      rw [String.append_assoc]
      rfl
    rw [← hfront, htexts, intercalate_split, hequation]
    simp only [String.append_assoc]
  · rw [← hfront, count_append, count_append, count_append, count_of_unmarked (hnames c hc),
      count_join_before hsep (count_equations hnames hbefore), equations, List.length_map]
    rfl

omit he hembeds htable hnames in
theorem eq_of_update {t : Template} (h : s.update e = .ok t) :
    t = .ofColumns (updateText e.tableName (s.updatedColumns e) (s.identityColumns e))
      ((s.updatedColumns e ++ s.identityColumns e).map (·.property.type))
      ((s.updatedColumns e ++ s.identityColumns e).map (·.path)) := by
  unfold Schema.update at h
  simp only [Outcome.bind_eq_ok] at h
  obtain ⟨_, -, h⟩ := h
  split at h
  · cases h
  · exact (Outcome.pure_eq_ok.1 h).symm

omit he hembeds in
theorem count_updateText {assigned tested : List (Column n)} (hassigned : assigned ⊆ s.columns e)
    (htested : tested ⊆ s.columns e) :
    (updateText e.tableName assigned tested).toList.count '?' = assigned.length + tested.length := by
  have hwords : "UPDATE ".toList.count '?' = 0 ∧ " SET ".toList.count '?' = 0 ∧
      " WHERE ".toList.count '?' = 0 := by decide
  simp only [updateText, count_append, count_of_unmarked htable, hwords]
  rw [count_intercalate_equations hnames (by decide) hassigned,
    count_intercalate_equations hnames (by decide) htested]
  omega

omit he hembeds in
theorem assignedAt_updateText {assigned tested before after : List (Column n)} {c : Column n}
    (hassigned : assigned ⊆ s.columns e) (htested : tested ⊆ s.columns e)
    (h : assigned ++ tested = before ++ c :: after) :
    AssignedAt (updateText e.tableName assigned tested) before.length c.text := by
  have hstart : ("UPDATE " ++ e.tableName ++ " SET ").toList.count '?' = 0 := by
    simp only [count_append, count_of_unmarked htable]
    rfl
  have hset : ∀ rest, assigned = before ++ c :: rest →
      AssignedAt (updateText e.tableName assigned tested) before.length c.text := by
    rintro rest rfl
    have hat := assignedAt_equations hnames ("UPDATE " ++ e.tableName) " SET " ","
      (" WHERE " ++ " AND ".intercalate (equations tested)) (by decide) (by simp) (by simp) hassigned
    rw [hstart, Nat.zero_add] at hat
    simpa only [updateText, String.append_assoc] using hat
  have htest : ∀ front, before = assigned ++ front → tested = front ++ c :: after →
      AssignedAt (updateText e.tableName assigned tested) before.length c.text := by
    rintro front rfl rfl
    have hat := assignedAt_equations hnames
      ("UPDATE " ++ e.tableName ++ " SET " ++ ",".intercalate (equations assigned)) " WHERE " " AND "
      "" (by decide) (by simp) (by simp) htested
    have hfront : ("UPDATE " ++ e.tableName ++ " SET " ++ ",".intercalate (equations assigned)
        ++ " WHERE ").toList.count '?' = assigned.length := by
      rw [count_append, count_append, hstart,
        count_intercalate_equations hnames (by decide) hassigned]
      exact Nat.zero_add _
    rw [hfront, String.append_empty] at hat
    rw [List.length_append]
    exact hat
  rcases List.append_eq_append_iff.1 h with ⟨front, hbefore, htested⟩ | ⟨rest, hassigned, hrest⟩
  · exact htest front hbefore htested
  · -- the column is the first that is tested, or one that is set
    cases rest with
    | nil =>
      rw [List.append_nil] at hassigned
      exact htest [] (by rw [hassigned, List.append_nil]) hrest.symm
    | cons _ rest =>
      obtain ⟨rfl, -⟩ := List.cons.inj hrest
      exact hset rest hassigned

theorem update_linesUp {t : Template} (h : s.update e = .ok t) :
    s.LinesUp e t (AssignedAt t.text) ∧ s.UpdatesByIdentity e t := by
  have hassigned : (s.updatedColumns e).Sublist (s.columns e) := List.filter_sublist
  have htested : (s.identityColumns e).Sublist (s.columns e) := List.filter_sublist
  have hsub : s.updatedColumns e ++ s.identityColumns e ⊆ s.columns e :=
    List.append_subset.2 ⟨hassigned.subset, htested.subset⟩
  obtain rfl := eq_of_update h
  refine ⟨.ofColumns he hembeds hsub ?_ fun before c after hsplit => ?_, s.updatedColumns e,
    s.identityColumns e, rfl, List.map_append, hassigned, htested, fun c hc => ⟨?_, ?_⟩⟩
  · rw [count_updateText htable hnames hassigned.subset htested.subset, List.length_append]
  · exact assignedAt_updateText htable hnames hassigned.subset htested.subset hsplit
  · simp [updatedColumns, hc, and_assoc]
  · simp [identityColumns, hc]

end

end Schema

/-! ### What is bound to them -/

/-- Each placeholder gets the value of what its column is made from, which is bound after those in
front of it. -/
structure BindContext.BindsEach {σ : Type} (ctx : BindContext n) (cascade : Cascade n σ)
    (e : Entity n) (mode : BindMode) (t : Template) (sources : List (ColumnSource n)) : Prop where
  made : List.Forall₂
    (fun path source => ∃ c ∈ ctx.schema.columns e, c.path = path ∧ ctx.schema.MadeFrom e c source)
    t.paths sources
  bound : ctx.bind cascade e mode t.paths = sources.mapM (ctx.bindSource cascade mode)
  found : (ctx.bind cascade e mode t.paths).FailsOnly (FromCascade cascade)
  values : ∀ state values state', (ctx.bind cascade e mode t.paths).Yields state values state' →
    values.length = t.text.toList.count '?' ∧
    ∀ i source, sources[i]? = some source → ∃ value before after, values[i]? = some value ∧
      ((sources.take i).mapM (ctx.bindSource cascade mode)).Yields state (values.take i) before ∧
      (ctx.bindSource cascade mode source).Yields before value after

namespace Schema
variable {s : Schema n} {e : Entity n}

theorem exists_bindsEach {σ : Type} {ctx : BindContext n} (he : e.WellNamed)
    (hembeds : ctx.schema.EmbedsNamed e) (cascade : Cascade n σ) (mode : BindMode) {t : Template}
    {cs : List (Column n)} (hcs : cs ⊆ ctx.schema.columns e) (hpaths : t.paths = cs.map (·.path))
    (hcount : t.paths.length = t.text.toList.count '?') :
    ∃ sources, ctx.BindsEach cascade e mode t sources := by
  obtain ⟨sources, hsources, hmade⟩ := exists_sources hcs
  have hbound : ctx.bind cascade e mode t.paths = sources.mapM (ctx.bindSource cascade mode) := by
    rw [hpaths, BindContext.bind_eq_mapM he hembeds cascade mode hsources]
  refine ⟨sources, ?_, hbound, ?_, fun state values state' hyields => ?_⟩
  · rw [hpaths, List.forall₂_map_left_iff]
    have hboth := (List.forall₂_and_left cs sources).2 ⟨fun c hc => hcs hc, hsources⟩
    exact hboth.imp fun c source h => ⟨c, h.1, rfl, h.2⟩
  · rw [hbound]
    refine .mapM fun source hsource => ?_
    obtain ⟨c, -, hc⟩ := hmade source hsource
    exact BindContext.bindSource_failsOnly hc
  · rw [hbound] at hyields
    obtain ⟨hlength, hat⟩ := BeanM.yields_mapM hyields
    refine ⟨?_, hat⟩
    rw [hlength, ← hcount, hpaths, List.length_map, hsources.length_eq]

/-- INSERT and UPDATE have a placeholder for each column that they write or test, and bind to it the
value of what the column is made from. -/
theorem writes_linedUp (he : e.WellNamed) (hembeds : s.EmbedsNamed e)
    (htable : Unmarked e.tableName) (hnames : ∀ c ∈ s.columns e, Unmarked c.text) :
    (∀ t, s.insert e = .ok t → s.LinesUp e t (InsertedAt e.tableName t.text) ∧ s.InsertsAll e t) ∧
    (∀ t, s.update e = .ok t → s.LinesUp e t (AssignedAt t.text) ∧ s.UpdatesByIdentity e t) ∧
    ∀ t, s.insert e = .ok t ∨ s.update e = .ok t →
      ∀ {σ : Type} (ctx : BindContext n) (cascade : Cascade n σ) (mode : BindMode), ctx.schema = s →
        ∃ sources, ctx.BindsEach cascade e mode t sources := by
  have hinsert := fun t => insert_linesUp (t := t) he hembeds htable hnames
  have hupdate := fun t => update_linesUp (t := t) he hembeds htable hnames
  refine ⟨hinsert, hupdate, ?_⟩
  rintro t h σ ctx cascade mode rfl
  rcases h with h | h
  · obtain ⟨hlines, hsublist, -⟩ := hinsert t h
    obtain ⟨cs, hcs, hpaths⟩ := List.sublist_map_iff.1 hsublist
    exact exists_bindsEach he hembeds cascade mode hcs.subset hpaths hlines.paths
  · obtain ⟨hlines, assigned, tested, -, hpaths, hassigned, htested, -⟩ := hupdate t h
    rw [← List.map_append] at hpaths
    exact exists_bindsEach he hembeds cascade mode
      (List.append_subset.2 ⟨hassigned.subset, htested.subset⟩) hpaths hlines.paths

/-- Shipments by a carrier, found by an embedded key, with an embedded address, for examples. -/
def shipments : Schema 4 where
  entity
    | 0 => {
        name := "Shipment"
        table := some "shipment"
        identity := some { name := "key", content := .association { kind := .embedded, target := 2 } }
        properties := [
          { name := "weight", content := .scalar .integer },
          { name := "address", content := .association { kind := .embedded, target := 1 } },
          { name := "carrier",
            content := .association { kind := .manyToOne, target := 3, cascades := true } },
          { name := "parts", content := .association { kind := .oneToMany, target := 0 } },
          { name := "created", content := .scalar .timestamp, autoPopulated := some .created },
          { name := "total", content := .scalar .long, generated := true }] }
    | 1 => {
        name := "Address"
        properties := [
          { name := "street", content := .scalar .string },
          { name := "city", content := .scalar .string, column := some "town" }] }
    | 2 => {
        name := "ShipmentKey"
        properties := [
          { name := "country", content := .scalar .string },
          { name := "number", content := .scalar .long }] }
    | 3 => { name := "Carrier", identity := some { name := "id", content := .scalar .uuid } }

def shipment : Entity 4 := shipments.entity 0

def shipping : BindContext 4 where
  schema := shipments
  codec := .json
  now := .newYear
  freshId k := ⟨BitVec.ofNat 128 k⟩

def registerCarrier : Cascade 4 Unit := fun _ =>
  BeanM.write "id" (.string "00000000-0000-0000-0000-0000000000aa")

/-- A shipment by a carrier that has no identity yet, to an address without a city. -/
def parcel : Bean :=
  [("address", .object [("street", .string "Elm Street")]), ("carrier", .object []),
    ("key", .object [("country", .string "NO"), ("number", .int 7)]), ("weight", .int 12)]

theorem writes_shipments : ∃ inserted updated : Template,
    shipments.insert (shipments.entity 0) = .ok inserted ∧
    inserted.text = "INSERT INTO shipment (weight,addressStreet,town,carrier_id,created,keyCountry,"
      ++ "keyNumber) VALUES (?,?,?,?,?,?,?)" ∧
    shipments.LinesUp (shipments.entity 0) inserted
      (InsertedAt (shipments.entity 0).tableName inserted.text) ∧
    shipments.InsertsAll (shipments.entity 0) inserted ∧
    shipments.update (shipments.entity 0) = .ok updated ∧
    updated.text = "UPDATE shipment SET weight=?,addressStreet=?,town=?,carrier_id=? "
      ++ "WHERE keyCountry=? AND keyNumber=?" ∧
    shipments.LinesUp (shipments.entity 0) updated (AssignedAt updated.text) ∧
    shipments.UpdatesByIdentity (shipments.entity 0) updated ∧
    ∃ sources final,
      shipping.BindsEach registerCarrier (shipments.entity 0) .insert inserted sources ∧
      (shipping.bind registerCarrier (shipments.entity 0) .insert inserted.paths).Yields ⟨parcel, 0, ()⟩
        [.int 12, .string "Elm Street", .null, .uuid ⟨0xaa⟩, .timestamp .newYear, .string "NO", .long 7]
        final := by
  have hnamed : (shipments.entity 0).WellNamed := ⟨by decide +kernel, by decide +kernel⟩
  obtain ⟨hinsert, hupdate, hbind⟩ := writes_linedUp (s := shipments) hnamed (by decide +kernel)
    (by decide +kernel) (by decide +kernel)
  have hinserted : (shipments.insert (shipments.entity 0)).toOption.map (fun t => (t.text, t.paths)) =
      some ("INSERT INTO shipment (weight,addressStreet,town,carrier_id,created,keyCountry,"
        ++ "keyNumber) VALUES (?,?,?,?,?,?,?)",
        ["weight", "address.street", "address.city", "carrier", "created", "key.country",
          "key.number"]) := by
    decide +kernel
  have hupdated : (shipments.update (shipments.entity 0)).toOption.map (·.text) =
      some ("UPDATE shipment SET weight=?,addressStreet=?,town=?,carrier_id=? "
        ++ "WHERE keyCountry=? AND keyNumber=?") := by
    decide +kernel
  obtain ⟨inserted, hi, hboth⟩ := Option.map_eq_some_iff.1 hinserted
  obtain ⟨updated, hu, htext⟩ := Option.map_eq_some_iff.1 hupdated
  have hi := Outcome.eq_ok_of_toOption hi
  have hu := Outcome.eq_ok_of_toOption hu
  obtain ⟨hinsertText, hpaths⟩ := Prod.mk.inj hboth
  obtain ⟨sources, hsources⟩ := hbind inserted (.inl hi) shipping registerCarrier .insert rfl
  obtain ⟨final, hrun⟩ : ∃ final,
      (shipping.bind registerCarrier (shipments.entity 0) .insert inserted.paths).Yields ⟨parcel, 0, ()⟩
        [.int 12, .string "Elm Street", .null, .uuid ⟨0xaa⟩, .timestamp .newYear, .string "NO", .long 7]
        final := by
    rw [hpaths]
    exact ⟨_, rfl⟩
  exact ⟨inserted, updated, hi, hinsertText, (hinsert _ hi).1, (hinsert _ hi).2, hu, htext,
    (hupdate _ hu).1, (hupdate _ hu).2, sources, final, hsources, hrun⟩

end Schema

end EntitySql
