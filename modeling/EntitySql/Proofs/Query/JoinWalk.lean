import EntitySql.Proofs.Outcome
import EntitySql.Query.Select

/-! # Following join paths

Joining is a walk. Each declared path is followed from the root, one part after the other, and with each
part an association is joined from the point that is reached: it was joined from there before, or its
clauses are written (`Schema.JoinedAs`, `Schema.writeJoin_cases`). What holds at the root before any join and
is kept with each part holds when all paths are joined (`Schema.joinAll_induction`). -/

namespace EntitySql
variable {n : Nat}

/-! ### Points of paths -/

def JoinPath.parts (join : JoinPath) : List String :=
  (Text.pieces '.' join.path.toList).map String.ofList

theorem toList_intercalate_dot (parts : List String) :
    (".".intercalate parts).toList = Text.joinWith '.' (parts.map (·.toList)) := by
  induction parts with
  | nil => rfl
  | cons part parts ih =>
    cases parts with
    | nil => simp [Text.joinWith]
    | cons next parts =>
      rw [String.intercalate_cons_cons, String.toList_append, String.toList_append, ih]
      simp [Text.joinWith]

theorem intercalate_pieces (text : List Char) :
    ".".intercalate ((Text.pieces '.' text).map String.ofList) = String.ofList text := by
  rw [← String.toList_inj, toList_intercalate_dot, List.map_map]
  have hpieces : ((·.toList) ∘ String.ofList : List Char → List Char) = id :=
    funext fun _ => String.toList_ofList
  rw [hpieces, List.map_id, Text.joinWith_pieces, String.toList_ofList]

theorem JoinPath.intercalate_parts (join : JoinPath) : ".".intercalate join.parts = join.path := by
  rw [JoinPath.parts, intercalate_pieces, String.ofList_toList]

namespace JoinPoint

def next (point : JoinPoint n) (part tableAlias : String) (e : Entity n) : JoinPoint n :=
  ⟨tableAlias, e, point.parts ++ [part]⟩

/-- The table at the point, under the path up to there. -/
def table (point : JoinPoint n) : JoinedTable n :=
  ⟨".".intercalate point.parts, point.tableAlias, point.entity⟩

end JoinPoint

def Joins.reach (j : Joins n) (point : JoinPoint n) : Joins n := { j with tables := point.table :: j.tables }

namespace QueryModel

def rootPoint (m : QueryModel n) : JoinPoint n := ⟨m.root.rootAlias, m.root, []⟩

/-- The alias that an association gets when it is joined first, at the end of `path` and before the parts
`rest` of a declared path. -/
def newAlias (m : QueryModel n) (join : JoinPath) (rest : List String) (path : String) : String :=
  if rest.isEmpty then join.tableAlias else (m.declaredAlias? path).getD (pathAlias path)

/-- It is an explicit alias of the model, or follows from the path. -/
theorem newAlias_cases {m : QueryModel n} {join : JoinPath} (hjoin : join ∈ m.joins)
    {parts rest : List String} (hparts : join.parts = parts ++ rest) :
    (∃ join' ∈ m.joins, join'.explicitAlias = some (m.newAlias join rest (".".intercalate parts))) ∨
      m.newAlias join rest (".".intercalate parts) = pathAlias (".".intercalate parts) := by
  have hdeclared : ∀ join' ∈ m.joins, join'.path = ".".intercalate parts →
      (∃ join'' ∈ m.joins, join''.explicitAlias = some join'.tableAlias) ∨
        join'.tableAlias = pathAlias (".".intercalate parts) := by
    intro join' hjoin' hpath
    cases hexplicit : join'.explicitAlias with
    | none => exact .inr (by simp [JoinPath.tableAlias, hexplicit, hpath])
    | some tableAlias => exact .inl ⟨join', hjoin', by simp [JoinPath.tableAlias, hexplicit]⟩
  unfold newAlias
  split
  · next hlast =>
    obtain rfl := List.isEmpty_iff.1 hlast
    refine hdeclared join hjoin ?_
    rw [← join.intercalate_parts, hparts, List.append_nil]
  · cases hfound : m.joins.find? (·.path = ".".intercalate parts) with
    | none => exact .inr (by simp [declaredAlias?, hfound])
    | some join' =>
      have hpath : join'.path = ".".intercalate parts := by simpa using List.find?_some hfound
      simpa [declaredAlias?, hfound] using hdeclared join' (List.mem_of_find?_eq_some hfound) hpath

end QueryModel

/-! ### Steps -/

namespace Schema
variable {s : Schema n} {m : QueryModel n} {join : JoinPath} {j j' : Joins n}

theorem joinAssociation_eq_ok {owner : Entity n} {path part : String} {p : Property n}
    {a : Association n} (h : joinAssociation owner path part = .ok (p, a)) :
    owner.property? part = some p ∧ p.association? = some a ∧ a.isEmbedded = false := by
  unfold joinAssociation at h
  split at h
  · cases h
  next q hq =>
  split at h
  · cases h
  next b hb =>
  obtain ⟨rfl, rfl⟩ := Prod.mk.inj (Except.ok.inj h)
  obtain ⟨hassociation, hembedded⟩ := Option.filter_eq_some_iff.1 hb
  exact ⟨hq, hassociation, by simpa using hembedded⟩

/-- The path only says what an error is about. -/
theorem joinAssociation_of_property? {owner : Entity n} {part : String} {p : Property n} {a : Association n}
    (hp : owner.property? part = some p) (ha : p.association? = some a) (hembedded : a.isEmbedded = false)
    (path : String) : joinAssociation owner path part = .ok (p, a) := by
  have hkept : p.association?.filter (!·.isEmbedded) = some a := by simp [ha, hembedded]
  simp only [joinAssociation, hp, hkept]

/-- How an association is joined from a point, under which alias and with which joins: it was joined from
there before, or its clauses are written now. -/
inductive JoinedAs (s : Schema n) (m : QueryModel n) (join : JoinPath) (rest : List String)
    (point : JoinPoint n) (part : String) (p : Property n) (a : Association n) (j : Joins n) :
    String → Joins n → Prop
  | before {tableAlias : String} (hlookup : j.applied.lookup (point.tableAlias, part) = some tableAlias) :
    JoinedAs s m join rest point part p a j tableAlias j
  | now {tableAlias : String} {j₀ : Joins n} (hnew : j.applied.lookup (point.tableAlias, part) = none)
    (halias : tableAlias = m.newAlias join rest (".".intercalate (point.parts ++ [part])))
    (hwrite : s.writeJoin join.kind point p a tableAlias j = .ok j₀) :
    JoinedAs s m join rest point part p a j tableAlias
      { j₀ with applied := ((point.tableAlias, part), tableAlias) :: j₀.applied }

/-- Following one part of a path joins one association and reaches its target. -/
theorem joinParts_cons {part : String} {rest : List String} {point : JoinPoint n}
    (h : s.joinParts m join (part :: rest) point j = .ok j') :
    ∃ p a tableAlias j₁, joinAssociation point.entity join.path part = .ok (p, a) ∧
      s.JoinedAs m join rest point part p a j tableAlias j₁ ∧
      s.joinParts m join rest (point.next part tableAlias (s.target a))
        (j₁.reach (point.next part tableAlias (s.target a))) = .ok j' := by
  rw [joinParts] at h
  simp only [Outcome.bind_eq_ok, Prod.exists] at h
  obtain ⟨p, a, hassociation, h⟩ := h
  split at h
  · next tableAlias hlookup =>
    simp only [Outcome.bind_eq_ok, Outcome.pure_eq_ok, Prod.mk.injEq, Prod.exists] at h
    obtain ⟨_, _, ⟨rfl, rfl⟩, h⟩ := h
    exact ⟨p, a, tableAlias, j, hassociation, .before hlookup, h⟩
  · next hnew =>
    simp only [Outcome.bind_eq_ok, Outcome.pure_eq_ok, Prod.mk.injEq, Prod.exists] at h
    obtain ⟨j₀, hwrite, _, _, ⟨rfl, rfl⟩, h⟩ := h
    exact ⟨p, a, _, _, hassociation, .now hnew rfl hwrite, h⟩

/-- A part that was joined before is followed without writing anything. -/
theorem joinParts_before {part : String} {rest : List String} {point : JoinPoint n} {p : Property n}
    {a : Association n} {tableAlias : String}
    (hassociation : joinAssociation point.entity join.path part = .ok (p, a))
    (hlookup : j.applied.lookup (point.tableAlias, part) = some tableAlias) :
    s.joinParts m join (part :: rest) point j =
      s.joinParts m join rest (point.next part tableAlias (s.target a))
        (j.reach (point.next part tableAlias (s.target a))) := by
  rw [joinParts, hassociation]
  dsimp only [bind, Except.bind]
  rw [hlookup]
  rfl

/-- Of the declared joins, a walk reads the aliases. -/
theorem joinParts_congr {m' : QueryModel n} (haliases : m'.declaredAlias? = m.declaredAlias?)
    (join : JoinPath) (parts : List String) (point : JoinPoint n) (j : Joins n) :
    s.joinParts m' join parts point j = s.joinParts m join parts point j := by
  induction parts generalizing point j with
  | nil => rfl
  | cons part parts ih => simp only [joinParts, haliases, ih]

theorem join_congr {m' : QueryModel n} (hroot : m'.root = m.root)
    (haliases : m'.declaredAlias? = m.declaredAlias?) : s.join m' = s.join m := by
  funext join j
  simp only [Schema.join, hroot, joinParts_congr haliases]

theorem joinAll_congr {m' : QueryModel n} (hroot : m'.root = m.root) (hjoins : m'.joins = m.joins) :
    s.joinAll m' = s.joinAll m := by
  have haliases : m'.declaredAlias? = m.declaredAlias? := by
    funext path
    rw [QueryModel.declaredAlias?, hjoins, QueryModel.declaredAlias?]
  rw [joinAll, join_congr hroot haliases, hjoins, joinAll]

/-- What is kept with each part holds when all paths of a model are joined. It may be about the joins that
are done, of which the one that is followed is not yet. -/
theorem joinAll_walk {Q : List JoinPath → JoinPoint n → Joins n → Prop} (hempty : Q [] m.rootPoint {})
    (hroot : ∀ (done : List JoinPath) (join : JoinPath) (after : List JoinPath),
      m.joins = done ++ join :: after → join.path ≠ "" → ∀ (point : JoinPoint n) (j : Joins n),
      point.parts = join.parts → Q done point j → Q (done ++ [join]) m.rootPoint j)
    (hstep : ∀ (done : List JoinPath) (join : JoinPath) (after : List JoinPath),
      m.joins = done ++ join :: after → ∀ (point : JoinPoint n) (part : String) (rest : List String),
      join.parts = point.parts ++ part :: rest → ∀ (p : Property n) (a : Association n),
      joinAssociation point.entity join.path part = .ok (p, a) → ∀ (tableAlias : String) (j j₁ : Joins n),
      s.JoinedAs m join rest point part p a j tableAlias j₁ → Q done point j →
      Q done (point.next part tableAlias (s.target a)) (j₁.reach (point.next part tableAlias (s.target a))))
    (h : s.joinAll m = .ok j) : Q m.joins m.rootPoint j := by
  have hparts : ∀ done join after, m.joins = done ++ join :: after →
      ∀ (parts : List String) (point : JoinPoint n) (j j' : Joins n),
      join.parts = point.parts ++ parts → Q done point j → s.joinParts m join parts point j = .ok j' →
      ∃ point', point'.parts = join.parts ∧ Q done point' j' := by
    intro done join after hjoins parts
    induction parts with
    | nil =>
      intro point j j' hparts hQ h
      exact ⟨point, by simpa using hparts.symm, Except.ok.inj h ▸ hQ⟩
    | cons part rest ih =>
      intro point j j' hparts hQ h
      obtain ⟨p, a, tableAlias, j₁, hassociation, hjoined, hrest⟩ := joinParts_cons h
      refine ih _ _ _ ?_
        (hstep done join after hjoins point part rest hparts p a hassociation tableAlias j j₁ hjoined hQ)
        hrest
      rw [hparts]
      simp [JoinPoint.next]
  have hjoins : ∀ (after done : List JoinPath), m.joins = done ++ after → ∀ j j', Q done m.rootPoint j →
      after.foldlM (fun j path => s.join m path j) j = .ok j' → Q m.joins m.rootPoint j' := by
    intro after
    induction after with
    | nil =>
      intro done hsplit j j' hQ h
      rw [hsplit, List.append_nil]
      exact Outcome.pure_eq_ok.1 h ▸ hQ
    | cons join after ih =>
      intro done hsplit j j' hQ h
      rw [List.foldlM_cons] at h
      obtain ⟨j₁, hjoin, hrest⟩ := Outcome.bind_eq_ok.1 h
      unfold Schema.join at hjoin
      split at hjoin
      · cases hjoin
      · next hpath =>
        obtain ⟨point', hpoint', hQ'⟩ := hparts done join after hsplit _ _ _ _ rfl hQ hjoin
        refine ih (done ++ [join]) (by simp [hsplit]) _ _ ?_ hrest
        exact hroot done join after hsplit hpath point' j₁ hpoint' hQ'
  exact hjoins m.joins [] rfl _ _ hempty h

/-- The same for what does not depend on the joins that are done. -/
theorem joinAll_induction {Q : JoinPoint n → Joins n → Prop} (hempty : Q m.rootPoint {})
    (hroot : ∀ point j, Q point j → Q m.rootPoint j)
    (hstep : ∀ join ∈ m.joins, ∀ (point : JoinPoint n) (part : String) (rest : List String),
      join.parts = point.parts ++ part :: rest → ∀ (p : Property n) (a : Association n),
      joinAssociation point.entity join.path part = .ok (p, a) → ∀ (tableAlias : String) (j j₁ : Joins n),
      s.JoinedAs m join rest point part p a j tableAlias j₁ → Q point j →
      Q (point.next part tableAlias (s.target a)) (j₁.reach (point.next part tableAlias (s.target a))))
    (h : s.joinAll m = .ok j) : Q m.rootPoint j := by
  refine joinAll_walk (Q := fun _ => Q) hempty (fun _ _ _ _ _ point j _ => hroot point j) ?_ h
  intro done join after hjoins
  exact hstep join (by simp [hjoins])

/-! ### Clauses -/

/-- A clause behind a point of a path, with columns quoted as the point's entity quotes its own. -/
def clauseFrom (point : JoinPoint n) (kind : JoinKind)
    (table tableAlias onAlias onColumn column : String) : JoinClause :=
  ⟨kind, table, tableAlias, onAlias, point.entity.quote onColumn, point.entity.quote column⟩

/-- What joining a target writes: one clause at a column of the owner, one at a column of the target,
or two at a join table. -/
theorem writeJoin_cases {kind : JoinKind} {point : JoinPoint n} {p : Property n} {a : Association n}
    {tableAlias : String} (h : s.writeJoin kind point p a tableAlias j = .ok j') :
    ∃ identity, (s.target a).identity = some identity ∧
      ((a.isForeignKey = false ∧
          j' = j.push (clauseFrom point kind (s.target a).tableName tableAlias point.tableAlias
            (point.entity.columnName p) ((s.target a).columnName identity))) ∨
        ∃ ownerIdentity, a.isForeignKey = true ∧ point.entity.identity = some ownerIdentity ∧
          ((∃ name mapped, a.mappedBy = some name ∧ (s.target a).property? name = some mapped ∧
              j' = j.push (clauseFrom point kind (s.target a).tableName tableAlias point.tableAlias
                (point.entity.columnName ownerIdentity) ((s.target a).columnName mapped))) ∨
            ∃ columns, a.mappedBy = none ∧ s.joinTableColumns point.entity p a = .ok columns ∧
              j' = (j.push (clauseFrom point kind (point.entity.quote (joinTableName point.entity p a))
                  (tableAlias ++ joinTableName point.entity p a ++ "_") point.tableAlias
                  (point.entity.columnName ownerIdentity) columns.1)).pushBlank.push
                (clauseFrom point kind (s.target a).tableName tableAlias
                  (tableAlias ++ joinTableName point.entity p a ++ "_") columns.2
                  ((s.target a).columnName identity)))) := by
  unfold writeJoin at h
  dsimp only at h
  cases hidentity : (s.target a).identity with
  | none =>
    rw [hidentity] at h
    cases h
  | some identity =>
    rw [hidentity] at h
    refine ⟨identity, rfl, ?_⟩
    cases hforeign : a.isForeignKey with
    | false =>
      rw [hforeign] at h
      exact .inl ⟨rfl, (Except.ok.inj h).symm⟩
    | true =>
      rw [hforeign] at h
      cases howner : point.entity.identity with
      | none =>
        rw [howner] at h
        cases h
      | some ownerIdentity =>
        rw [howner] at h
        refine .inr ⟨ownerIdentity, rfl, rfl, ?_⟩
        cases hmappedBy : a.mappedBy with
        | some name =>
          rw [hmappedBy] at h
          cases hmapped : (s.target a).property? name with
          | none => simp [hmapped] at h
          | some mapped =>
            simp only [hmapped] at h
            exact .inl ⟨name, mapped, rfl, hmapped, (Except.ok.inj h).symm⟩
        | none =>
          rw [hmappedBy] at h
          cases hcolumns : s.joinTableColumns point.entity p a with
          | error e => simp [hcolumns] at h
          | ok columns =>
            simp only [hcolumns] at h
            exact .inr ⟨columns, rfl, rfl, (Except.ok.inj h).symm⟩

theorem writeJoin_keeps {kind : JoinKind} {point : JoinPoint n} {p : Property n} {a : Association n}
    {tableAlias : String} (h : s.writeJoin kind point p a tableAlias j = .ok j') :
    j'.applied = j.applied ∧ j'.tables = j.tables := by
  have hpush : ∀ (j : Joins n) c,
      (j.push c).applied = j.applied ∧ (j.push c).tables = j.tables := fun j c => by
    unfold Joins.push
    split <;> exact ⟨rfl, rfl⟩
  obtain ⟨identity, -, ⟨-, rfl⟩ | ⟨ownerIdentity, -, -, hcases⟩⟩ := writeJoin_cases h
  · exact hpush _ _
  rcases hcases with ⟨name, mapped, -, -, rfl⟩ | ⟨columns, -, -, rfl⟩
  · exact hpush _ _
  · have hfirst := hpush j (clauseFrom point kind (point.entity.quote (joinTableName point.entity p a))
      (tableAlias ++ joinTableName point.entity p a ++ "_") point.tableAlias
      (point.entity.columnName ownerIdentity) columns.1)
    exact ⟨(hpush _ _).1.trans hfirst.1, (hpush _ _).2.trans hfirst.2⟩

theorem mem_applied_of_lookup {key : String × String} {tableAlias : String}
    (h : j.applied.lookup key = some tableAlias) : (key, tableAlias) ∈ j.applied := by
  obtain ⟨before, after, happlied, -⟩ := List.lookup_eq_some_iff.1 h
  rw [happlied]
  simp

namespace JoinedAs
variable {rest : List String} {point : JoinPoint n} {part : String} {p : Property n} {a : Association n}
  {tableAlias : String} {j₁ : Joins n}

theorem tables_eq (h : s.JoinedAs m join rest point part p a j tableAlias j₁) : j₁.tables = j.tables := by
  cases h with
  | before => rfl
  | now _ _ hwrite => exact (writeJoin_keeps hwrite).2

theorem lookup (h : s.JoinedAs m join rest point part p a j tableAlias j₁) :
    j₁.applied.lookup (point.tableAlias, part) = some tableAlias := by
  cases h with
  | before hlookup => exact hlookup
  | now => simp

/-- No association that was joined before gets another alias. -/
theorem keeps (h : s.JoinedAs m join rest point part p a j tableAlias j₁) {key : String × String}
    {found : String} (hfound : j.applied.lookup key = some found) : j₁.applied.lookup key = some found := by
  cases h with
  | before => exact hfound
  | now hnew _ hwrite =>
    have hkey : (key == (point.tableAlias, part)) = false := by
      rw [beq_eq_false_iff_ne]
      rintro rfl
      rw [hnew] at hfound
      cases hfound
    rw [List.lookup_cons, hkey, (writeJoin_keeps hwrite).1]
    exact hfound

theorem mem_applied (h : s.JoinedAs m join rest point part p a j tableAlias j₁)
    {entry : (String × String) × String} (hentry : entry ∈ j₁.applied) :
    entry ∈ j.applied ∨ entry = ((point.tableAlias, part), tableAlias) := by
  cases h with
  | before => exact .inl hentry
  | now _ _ hwrite =>
    rw [(writeJoin_keeps hwrite).1] at hentry
    exact (List.mem_cons.1 hentry).symm

end JoinedAs

end Schema

end EntitySql
