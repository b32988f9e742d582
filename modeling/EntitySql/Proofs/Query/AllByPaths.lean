import EntitySql.Proofs.Metadata.Columns
import EntitySql.Proofs.Query.ReachedPoints
import EntitySql.Proofs.Statement.WrittenColumns

/-! # All columns by their paths

The SELECT of all columns is the SELECT of the paths of these columns (`Schema.query_allByPaths`): each path
leads back to the column that it comes from, whatever is joined (`Schema.resolveJoined_column`). A path with a
dot could also lead to a joined table; but no table is joined by way of an embedded entity. -/

namespace EntitySql
variable {n : Nat}

/-! ### First parts of paths -/

theorem pathOwner_intercalate_dot {part : String} (h : '.' ∉ part.toList) (rest : List String) :
    pathOwner (".".intercalate (part :: rest)) = part := by
  cases rest with
  | nil => simpa using pathOwner_of_dotless h
  | cons next rest =>
    rw [String.intercalate_cons_cons]
    exact pathOwner_inner h _

theorem pathOwner_cutLast {name sub : String} (h : '.' ∉ name.toList) {before after : List Char}
    (hcut : Text.cutLast '.' (name ++ "." ++ sub).toList = some (before, after)) :
    pathOwner (String.ofList before) = name := by
  have htext : name.toList ++ '.' :: sub.toList = before ++ '.' :: after := by
    rw [← Text.cutLast_append hcut]
    simp
  rcases List.append_eq_append_iff.1 htext with ⟨more, rfl, hmore⟩ | ⟨more, hname, hmore⟩
  · cases more with
    | nil =>
      rw [List.append_nil, String.ofList_toList]
      exact pathOwner_of_dotless h
    | cons c more =>
      obtain rfl := (List.cons.inj hmore).1
      have hbefore : String.ofList (name.toList ++ '.' :: more) = name ++ "." ++ String.ofList more := by
        simp [← String.toList_inj]
      rw [hbefore]
      exact pathOwner_inner h _
  · cases more with
    | nil =>
      rw [List.append_nil] at hname
      rw [← hname, String.ofList_toList]
      exact pathOwner_of_dotless h
    | cons c more =>
      obtain rfl := (List.cons.inj hmore).1
      exact absurd (hname ▸ by simp) h

namespace Schema
variable {s : Schema n} {m : QueryModel n} {j : Joins n} {start point : JoinPoint n}

/-! ### Joined tables -/

theorem Reached.head {part : String} {rest : List String} (h : s.Reached start j point)
    (hparts : point.parts = start.parts ++ part :: rest) :
    ∃ p a, start.entity.property? part = some p ∧ p.association? = some a ∧ a.isEmbedded = false := by
  induction h generalizing rest with
  | start => simp at hparts
  | @next before part' tableAlias p a h hp ha hembedded _ ih =>
    rcases List.eq_nil_or_concat rest with rfl | ⟨rest, last, rfl⟩
    · obtain ⟨hbefore, hpart⟩ := List.append_inj' hparts rfl
      obtain rfl := (List.cons.inj hpart).1
      obtain rfl := h.unique .start hbefore
      exact ⟨p, a, hp, ha, hembedded⟩
    · rw [List.concat_eq_append, ← List.cons_append, ← List.append_assoc] at hparts
      exact ih (List.append_inj' hparts rfl).1

/-- No table is joined under a path that goes through what the root embeds. -/
theorem table?_eq_none (h : s.joinAll m = .ok j) {path name : String} (howner : pathOwner path = name)
    (hname : ∀ p, m.root.property? name = some p → ∀ a, p.association? = some a → a.isEmbedded = true) :
    j.table? path = none := by
  have hj := joinAll_followed h
  rw [Option.eq_none_iff_forall_ne_some]
  intro t ht
  have hpath : t.path = path := by simpa using List.find?_some ht
  obtain ⟨point, hreached, hne, ⟨join, -, hbegins⟩, rfl⟩ := hj.tables t (List.mem_of_find?_eq_some ht)
  obtain ⟨part, rest, hparts⟩ := List.exists_cons_of_ne_nil hne
  have hpart : part = name := by
    rw [← howner, ← hpath]
    show part = pathOwner (".".intercalate point.parts)
    rw [hparts, pathOwner_intercalate_dot]
    exact join.dotless_of_mem_parts (hbegins.subset (hparts ▸ List.mem_cons_self))
  obtain ⟨p, a, hp, ha, hembedded⟩ := hreached.head hparts
  have hembedded' := hname p (hpart ▸ hp) a ha
  rw [hembedded] at hembedded'
  cases hembedded'

/-! ### Columns -/

/-- What the references of an entity lead to has an identity. -/
def ReferencesIdentified (s : Schema n) (e : Entity n) : Prop :=
  ∀ p ∈ e.properties ++ e.identity.toList, ∀ a ∈ p.association?, a.isToOne = true →
    (s.target a).identity.isSome = true

instance (s : Schema n) (e : Entity n) : Decidable (s.ReferencesIdentified e) :=
  inferInstanceAs (Decidable (∀ p ∈ _, ∀ a ∈ _, _ → _))

section
variable {e : Entity n} {p owner sub : Property n} {a : Association n} (hnames : e.WellNamed)
include hnames

theorem resolve_own (hreferences : s.ReferencesIdentified e) (hp : p ∈ e.properties ++ e.identity.toList)
    (hforeign : p.isForeignKey = false) (hembedded : p.embedded? = none) (qualifier : String) :
    ∃ type, s.resolve e qualifier p.name = .ok ⟨⟨qualifier, e.quote (e.columnName p)⟩, type⟩ := by
  unfold resolve
  rw [Text.cutFirst_eq_none (hnames.dotless p hp)]
  dsimp only
  unfold resolveProperty
  rw [hnames.property?_name hp]
  dsimp only
  rw [hforeign, hembedded]
  cases ha : p.association? with
  | none => exact ⟨_, rfl⟩
  | some a =>
    have htoOne : a.isToOne = true := by
      simp only [Property.isForeignKey, Property.embedded?, ha, Option.any_some, Option.filter_eq_none_iff]
        at hforeign hembedded
      simp_all [Association.isToOne]
    obtain ⟨identity, hidentity⟩ := Option.isSome_iff_exists.1 (hreferences p hp a ha htoOne)
    exact ⟨identity.type, by simp [Entity.requiredIdentity, hidentity]; rfl⟩

theorem resolve_inner (hembeds : s.EmbedsNamed e) (howner : owner ∈ e.properties ++ e.identity.toList)
    (ha : owner.embedded? = some a) (hsub : sub ∈ (s.target a).properties) (qualifier : String) :
    s.resolve e qualifier (owner.name ++ "." ++ sub.name) =
      .ok ⟨⟨qualifier, e.quote (e.embeddedColumnName owner sub)⟩, sub.type⟩ := by
  obtain ⟨hassociation, hembedded⟩ := Option.filter_eq_some_iff.1 ha
  unfold resolve
  rw [cutFirst_inner (hnames.dotless owner howner)]
  dsimp only
  unfold resolveInner
  simp only [String.ofList_toList, hnames.property?_name howner, hassociation, hembedded, if_true,
    hembeds.property?_name howner ha hsub]

end

section
variable (hnames : m.root.WellNamed) (hembeds : s.EmbedsNamed m.root)
  (hreferences : s.ReferencesIdentified m.root)
include hnames hembeds hreferences

/-- The path of a column stands for this column, whatever is joined. -/
theorem resolveJoined_column (h : s.joinAll m = .ok j) {c : Column n} (hc : c ∈ s.columns m.root) :
    ∃ type, s.resolveJoined m j c.path = .ok ⟨⟨m.root.rootAlias, c.text⟩, type⟩ := by
  obtain ⟨source, hsource⟩ := exists_madeFrom hc
  cases source with
  | own p =>
    obtain ⟨hp, hforeign, hembedded, hpath, htext, -⟩ := hsource
    rw [resolveJoined, hpath, Text.cutLast_eq_none (hnames.dotless p hp), htext]
    exact resolve_own hnames hreferences hp hforeign hembedded _
  | inner owner a sub =>
    obtain ⟨howner, ha, hsub, hpath, htext, -⟩ := hsource
    have hresolved := resolve_inner hnames hembeds howner ha hsub m.root.rootAlias
    refine ⟨sub.type, ?_⟩
    rw [resolveJoined, hpath, htext]
    split
    · exact hresolved
    · next before after hcut =>
      have hnone : j.table? (String.ofList before) = none := by
        refine table?_eq_none h (pathOwner_cutLast (hnames.dotless owner howner) hcut) fun p hp a' ha' => ?_
        obtain rfl := Option.some.inj ((hnames.property?_name howner).symm.trans hp)
        obtain ⟨hassociation, hembedded⟩ := Option.filter_eq_some_iff.1 ha
        exact Option.some.inj (hassociation.symm.trans ha') ▸ hembedded
      rw [hnone]
      exact hresolved

theorem selectItems_allByPaths (h : s.joinAll m = .ok j) (hcolumns : s.columns m.root ≠ [])
    (hjoins : ∀ join ∈ m.joins, join.kind.isFetch = false) :
    s.selectItems { m with projection := .all } j =
      s.selectItems { m with projection := .paths ((s.columns m.root).map (·.path)) } j := by
  have hitems : s.allItems m.root m.root.rootAlias =
      (s.columns m.root).map fun c => .column ⟨m.root.rootAlias, c.text⟩ := by
    simp [allItems, hcolumns]
  have hfetched : m.joins.filter (·.kind.isFetch) = [] := by
    simpa [List.filter_eq_nil_iff] using hjoins
  have hall : s.selectItems { m with projection := .all } j = .ok (s.allItems m.root m.root.rootAlias) := by
    simp [selectItems, hfetched]
  have hpaths : s.selectItems { m with projection := .paths ((s.columns m.root).map (·.path)) } j =
      .ok (s.allItems m.root m.root.rootAlias) := by
    rw [hitems]
    refine Outcome.mapM_eq_ok.2 ?_
    rw [List.forall₂_map_left_iff, List.forall₂_map_right_iff, List.forall₂_same]
    intro c hc
    obtain ⟨type, hresolved⟩ := resolveJoined_column hnames hembeds hreferences h hc
    show (do return SelectItem.column (← s.resolveJoined m j c.path).column) = _
    rw [hresolved]
    rfl
  rw [hall, hpaths]

/-- The SELECT of all columns is that of their paths: the same statement with the same binding table, or the
same error. Joins that fetch nothing, criteria and sort may be any. -/
theorem query_allByPaths (hcolumns : s.columns m.root ≠ [])
    (hjoins : ∀ join ∈ m.joins, join.kind.isFetch = false) :
    s.query { m with projection := .all } =
      s.query { m with projection := .paths ((s.columns m.root).map (·.path)) } := by
  have hstatement : s.selectStatement { m with projection := .all } =
      s.selectStatement { m with projection := .paths ((s.columns m.root).map (·.path)) } := by
    have hall : s.joinAll { m with projection := .all } = s.joinAll m := joinAll_congr rfl rfl
    have hpaths : s.joinAll { m with projection := .paths ((s.columns m.root).map (·.path)) } = s.joinAll m :=
      joinAll_congr rfl rfl
    unfold selectStatement
    rw [hall, hpaths]
    cases hjoined : s.joinAll m with
    | error e => rfl
    | ok j =>
      dsimp only [bind, Except.bind]
      rw [selectItems_allByPaths hnames hembeds hreferences hjoined hcolumns hjoins]
      rfl
  rw [query, hstatement, query]

end

/-- The heavy shipments of a carrier, by town. -/
def heavyShipments : QueryModel 4 where
  root := shipment
  criteria := [.compare .gt "weight" (.argument 0), .compare .eq "carrier.id" (.argument 1)]
  joins := [{ path := "carrier", kind := .left }]
  sort := [{ path := "address.city" }]

theorem query_allByPaths_shipments : ∃ q, heavyShipments.projection = .all ∧
    shipments.query heavyShipments = .ok q ∧
    shipments.query { heavyShipments with
      projection := .paths ["weight", "address.street", "address.city", "carrier", "created", "total",
        "key.country", "key.number"] } = .ok q ∧
    q.text = "SELECT shipment_.weight,shipment_.addressStreet,shipment_.town,shipment_.carrier_id,"
      ++ "shipment_.created,shipment_.total,shipment_.keyCountry,shipment_.keyNumber "
      ++ "FROM shipment shipment_ LEFT JOIN carrier carrier_ ON shipment_.carrier_id=carrier_.id "
      ++ "WHERE ((shipment_.weight > ?) AND (carrier_.id = ?)) ORDER BY shipment_.town ASC" := by
  have hnames : heavyShipments.root.WellNamed := ⟨by decide +kernel, by decide +kernel⟩
  have hpaths : (shipments.columns heavyShipments.root).map (·.path) =
      ["weight", "address.street", "address.city", "carrier", "created", "total", "key.country",
        "key.number"] := by decide +kernel
  have hcolumns : shipments.columns heavyShipments.root ≠ [] := fun hnone => by simp [hnone] at hpaths
  have hquery : (shipments.query heavyShipments).toOption.map (·.text) =
      some ("SELECT shipment_.weight,shipment_.addressStreet,shipment_.town,shipment_.carrier_id,"
        ++ "shipment_.created,shipment_.total,shipment_.keyCountry,shipment_.keyNumber "
        ++ "FROM shipment shipment_ LEFT JOIN carrier carrier_ ON shipment_.carrier_id=carrier_.id "
        ++ "WHERE ((shipment_.weight > ?) AND (carrier_.id = ?)) ORDER BY shipment_.town ASC") := by
    decide +kernel
  obtain ⟨q, hq, htext⟩ := Option.map_eq_some_iff.1 hquery
  have hq := Outcome.eq_ok_of_toOption hq
  have hsame := query_allByPaths (m := heavyShipments) hnames (by decide +kernel) (by decide +kernel) hcolumns
    (by decide +kernel)
  rw [hpaths] at hsame
  exact ⟨q, rfl, hq, hsame.symm.trans hq, htext⟩

end Schema

end EntitySql
