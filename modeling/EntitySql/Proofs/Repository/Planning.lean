import EntitySql.Proofs.Repository.Links
import EntitySql.Repository.Operations

/-! # Planning an INSERT

What is planned for an object that is persisted: its references, its row and its links, in this
order, are the parts of its trace (`Schema.PartsOf.of_bound`), so that by induction on the nesting of
cascades every plan is a trace. -/

namespace EntitySql
variable {n : Nat}

namespace Schema
variable {s : Schema n} {e : Entity n} {c : Column n} {p : Property n} {a : Association n}
  {initial middle final : Bean} {references links : List Part} {statement : Statement}

/-- No column is at a property that a join table is for. -/
theorem pathOwner_ne_of_cascading (he : e.WellNamed) (hc : c ∈ s.columns e)
    (hcascading : (p, a) ∈ e.cascading) : p.name ≠ pathOwner c.path := by
  obtain ⟨hp, ha, hjoin, -⟩ := Entity.mem_cascading.1 hcascading
  rw [Association.isJoinTable, Bool.and_eq_true] at hjoin
  have hmem := List.mem_append_left e.identity.toList hp
  cases origin_of_mem hc with
  | @plain q hq hforeign hembedded hpath hproperty hidentity hother =>
    rw [hpath, pathOwner_of_dotless (he.dotless q hq)]
    intro hname
    obtain rfl := he.eq_of_name hmem hq hname
    simp [Property.isForeignKey, ha, hjoin.1] at hforeign
  | @inner q sub b hq hembedded hsub hpath hproperty hidentity =>
    rw [hpath, pathOwner_inner (he.dotless q hq)]
    intro hname
    obtain rfl := he.eq_of_name hmem hq hname
    simp only [Property.embedded?, ha, Option.filter_eq_some_iff] at hembedded
    obtain ⟨heq, hkind⟩ := hembedded
    obtain rfl := Option.some.inj heq
    have hforeign := hjoin.1
    unfold Association.isEmbedded at hkind
    have hkind : a.kind = .embedded := by simpa using hkind
    simp [Association.isForeignKey, hkind] at hforeign

/-- No INSERT fills an identity that the database generates. -/
theorem path_ne_identity (he : e.WellNamed) (hc : c ∈ s.insertedColumns e)
    (hidentity : e.identity = some p) (hgenerated : p.generated = true) : c.path ≠ p.name := by
  obtain ⟨hcolumn, hinserted⟩ := List.mem_filter.1 hc
  intro hpath
  obtain ⟨hproperty, -⟩ := property_of_path he hcolumn (by simp [hidentity]) hpath
  simp [hproperty, hgenerated] at hinserted

theorem paths_of_insert {template : Template} (h : s.insert e = .ok template) :
    template.paths = (s.insertedColumns e).map (·.path) := by
  simp only [insert] at h
  split at h
  · cases h
  · cases h
    rfl

theorem mem_insertedColumns_of_reference (hp : p ∈ e.properties) (ha : p.association? = some a)
    (htoOne : a.isToOne = true) (hgenerated : p.generated = false) :
    ∃ c ∈ s.insertedColumns e, c.path = p.name ∧ c.property = p := by
  rw [Association.isToOne, Bool.and_eq_true, Bool.not_eq_true', Bool.not_eq_true'] at htoOne
  obtain ⟨c, hc, hpath, hproperty⟩ := mem_columns_of_plain (s := s) (List.mem_append_left _ hp)
    (by simp [Property.isForeignKey, ha, htoOne.1])
    (by simp [Property.embedded?, ha, Option.filter, htoOne.2])
  exact ⟨c, List.mem_filter.2 ⟨hc, by simp [hproperty, hgenerated]⟩, hpath, hproperty⟩

section
variable {cs : List (Column n)} {values : List Value} {ps : List (Property n × Association n)}

/-- Binding does not touch the arrays of links. -/
theorem ColumnsBound.read_cascading (he : e.WellNamed)
    (h : s.ColumnsBound e (s.insertedColumns e) initial middle values references)
    (hcascading : (p, a) ∈ e.cascading) : middle.read p.name = initial.read p.name := by
  refine h.frame p.name fun c hc hpath => ?_
  have hdot := he.dotless p (List.mem_append_left _ (Entity.mem_cascading.1 hcascading).1)
  have hne := pathOwner_ne_of_cascading he (List.mem_filter.1 hc).1 hcascading
  rw [hpath, pathOwner_of_dotless hdot] at hne
  exact hne rfl

/-- Linking does not touch what was bound. -/
theorem LinksPlanned.read_column (he : e.WellNamed)
    (h : s.LinksPlanned e e.cascading middle final links) (hc : c ∈ s.insertedColumns e) :
    final.read (pathOwner c.path) = middle.read (pathOwner c.path) :=
  h.frame _ fun _ hq => pathOwner_ne_of_cascading he (List.mem_filter.1 hc).1 hq

theorem row_mem_of_bound (hcolumns : s.ColumnsBound e cs initial middle values references)
    (hlinks : s.LinksPlanned e ps middle final links) {row : Statement} :
    .row row ∈ references ++ .row statement :: links ↔ row = statement := by
  constructor
  · intro hpart
    rcases List.mem_append.1 hpart with hpart | hpart
    · obtain ⟨c, -, trace, heq⟩ := hcolumns.only _ hpart
      cases heq
    · rcases List.mem_cons.1 hpart with heq | hpart
      · exact Part.row.inj heq
      · obtain ⟨q, -, index, ⟨_, heq⟩ | ⟨_, heq⟩⟩ := hlinks.only _ hpart <;> cases heq
  · rintro rfl
    simp

theorem link_mem_of_bound (hcolumns : s.ColumnsBound e cs initial middle values references)
    {property : String} {index : Nat} {link : Statement} :
    .link property index link ∈ references ++ .row statement :: links ↔
      .link property index link ∈ links := by
  constructor
  · intro hpart
    rcases List.mem_append.1 hpart with hpart | hpart
    · obtain ⟨c, -, trace, heq⟩ := hcolumns.only _ hpart
      cases heq
    · rcases List.mem_cons.1 hpart with heq | hpart
      · cases heq
      · exact hpart
  · exact fun hpart => List.mem_append_right _ (List.mem_cons_of_mem _ hpart)

theorem keys_nodup_of_bound (hcolumns : s.ColumnsBound e cs initial middle values references)
    (hlinks : s.LinksPlanned e ps middle final links) :
    ((references ++ .row statement :: links).map Part.key).Nodup := by
  refine List.pairwise_map.2 (List.pairwise_append.2 ⟨List.pairwise_map.1 hcolumns.keys,
    List.pairwise_cons.2 ⟨fun link hlink => ?_, List.pairwise_map.1 hlinks.keys⟩, ?_⟩)
  · obtain ⟨q, -, index, ⟨_, rfl⟩ | ⟨_, rfl⟩⟩ := hlinks.only link hlink <;> simp [Part.key]
  · intro part hpart other hother
    obtain ⟨c, -, trace, rfl⟩ := hcolumns.only part hpart
    rcases List.mem_cons.1 hother with rfl | hother
    · simp [Part.key]
    · obtain ⟨q, -, index, ⟨_, rfl⟩ | ⟨_, rfl⟩⟩ := hlinks.only other hother <;> simp [Part.key]

theorem ordered_of_bound (hcolumns : s.ColumnsBound e cs initial middle values references)
    (hlinks : s.LinksPlanned e ps middle final links) :
    Part.Ordered (references ++ .row statement :: links) := by
  have hfirst : ∀ part ∈ references, ∀ other, ¬ Part.Before other part := by
    intro part hpart other
    obtain ⟨c, -, trace, rfl⟩ := hcolumns.only part hpart
    simp [Part.Before]
  refine List.pairwise_append.2 ⟨?_, List.pairwise_cons.2 ⟨fun link hlink => ?_, hlinks.order⟩, ?_⟩
  · exact List.pairwise_of_forall_mem_list fun part hpart other _ => hfirst part hpart other
  · obtain ⟨q, -, index, ⟨_, rfl⟩ | ⟨_, rfl⟩⟩ := hlinks.only link hlink <;> simp [Part.Before]
  · exact fun part hpart other _ => hfirst part hpart other

end

/-- References, a row and its links are the parts of a trace. -/
theorem PartsOf.of_bound {values : List Value} {template : Template} (he : e.WellNamed)
    (hinsert : s.insert e = .ok template)
    (hcolumns : s.ColumnsBound e (s.insertedColumns e) initial middle values references)
    (hlinks : s.LinksPlanned e e.cascading middle final links) :
    s.PartsOf e initial final (references ++ .row ⟨template.text, values⟩ :: links) := by
  have harray : ∀ q ∈ e.cascading, ∀ index, middle.child? ⟨q.1.name, some index⟩ =
      initial.child? ⟨q.1.name, some index⟩ := fun q hq index =>
    Bean.child?_congr (hcolumns.read_cascading he hq)
  refine ⟨keys_nodup_of_bound hcolumns hlinks, ⟨_, (row_mem_of_bound hcolumns hlinks).2 rfl⟩, ?_, ?_,
    ?_, ?_, ?_, ?_, ordered_of_bound hcolumns hlinks⟩
  · intro row hpart
    obtain rfl := (row_mem_of_bound hcolumns hlinks).1 hpart
    obtain ⟨hlength, hvalues⟩ := List.forall₂_iff_zip.1 hcolumns.values
    refine ⟨⟨template, hinsert, rfl⟩, List.forall₂_iff_zip.2 ⟨hlength, fun hmem => ?_⟩⟩
    exact (hvalues hmem).congr (hlinks.read_column he (List.of_mem_zip hmem).1).symm
  · intro step trace hpart
    rcases List.mem_append.1 hpart with hpart | hpart
    · obtain ⟨target, -, -, htarget, -⟩ := hcolumns.child step trace hpart
      obtain ⟨c, hc, trace', heq⟩ := hcolumns.only _ hpart
      cases heq
      have howner : pathOwner c.path = c.path := pathOwner_of_cascadeTarget? he htarget
      have hread := hlinks.read_column he hc
      rw [howner] at hread
      exact (hcolumns.child _ trace hpart).congr rfl (Bean.child?_congr hread)
    · rcases List.mem_cons.1 hpart with heq | hpart
      · cases heq
      · obtain ⟨q, hq, index, ⟨_, heq⟩ | ⟨_, heq⟩⟩ := hlinks.only _ hpart
        · cases heq
          exact (hlinks.child _ trace hpart).congr (harray q hq index).symm rfl
        · cases heq
  · intro identity hidentity hgenerated
    have hread : final.read identity.name = initial.read identity.name := by
      rw [hlinks.frame _ fun q hq =>
        he.name_ne_identity (Entity.mem_cascading.1 hq).1 hidentity]
      exact hcolumns.frame _ fun c hc => path_ne_identity he hc hidentity hgenerated
    simp only [Entity.isUnset, hidentity, Option.all_some, hread]
  · rintro ⟨name, index⟩ target object htarget hobject hunset
    obtain ⟨p, a, hp, rfl, ha, hcascades, -, hkind⟩ := (cascadeTarget?_eq_some he).1 htarget
    cases index with
    | none =>
      obtain ⟨htoOne, hgenerated⟩ := hkind
      obtain ⟨c, hc, hpath, -⟩ := mem_insertedColumns_of_reference hp ha htoOne hgenerated
      rw [← hpath] at htarget hobject
      obtain ⟨trace, hpart⟩ := hcolumns.child_planned c hc target object htarget hobject hunset
      exact ⟨trace, List.mem_append_left _ (hpath ▸ hpart)⟩
    | some index =>
      have hq : (p, a) ∈ e.cascading := Entity.mem_cascading.2 ⟨hp, ha, hkind, hcascades⟩
      obtain ⟨trace, hpart⟩ := hlinks.child_planned (p, a) hq index target object htarget
        ((harray _ hq index).trans hobject) hunset
      exact ⟨trace, List.mem_append_right _ (List.mem_cons_of_mem _ hpart)⟩
  · intro property index link hpart
    have hpart := (link_mem_of_bound hcolumns).1 hpart
    obtain ⟨⟨target, object, htarget, hobject⟩, hlinkOf⟩ := hlinks.link property index link hpart
    obtain ⟨q, hq, index', ⟨_, heq⟩ | ⟨_, heq⟩⟩ := hlinks.only _ hpart
    · cases heq
    · cases heq
      exact ⟨⟨target, object, htarget, (harray q hq index).symm.trans hobject⟩, hlinkOf⟩
  · intro property index target object htarget hobject
    obtain ⟨p, a, hp, rfl, ha, hcascades, -, hkind⟩ := (cascadeTarget?_eq_some he).1 htarget
    have hq : (p, a) ∈ e.cascading := Entity.mem_cascading.2 ⟨hp, ha, hkind, hcascades⟩
    obtain ⟨link, hpart⟩ := hlinks.link_planned (p, a) hq index target object htarget
      ((harray _ hq index).trans hobject)
    exact ⟨link, (link_mem_of_bound hcolumns).2 hpart⟩

end Schema

namespace BindContext
variable {ctx : BindContext n} {r : Repository}

/-- Plans of INSERTs are traces, however deep their cascades are nested. -/
theorem planInsertWithin_sound (hs : ctx.schema.Cascadable) (hinsert : r.insert = none)
    (nesting : Nat) (isRoot : Bool) :
    CascadesSoundly ctx.schema (ctx.planInsertWithin r nesting isRoot) := by
  induction nesting generalizing isRoot with
  | zero =>
    intro i state state' h hkept
    exact absurd h (by simp [planInsertWithin])
  | succ nesting ih =>
    intro i state state' h hkept
    have hfind : ∀ kept found,
        ctx.schema.storedInsert r (ctx.schema.entity i) isRoot kept = .ok found →
        ctx.schema.stored r (ctx.schema.entity i) .insert kept = .ok found := by
      intro kept found hfound
      cases isRoot with
      | false => exact hfound
      | true =>
        simp only [Schema.storedInsert, hinsert] at hfound
        split at hfound
        · exact hfound
        · cases hfound
    simp only [planInsertWithin, BeanM.yields_bind] at h
    obtain ⟨template, used, hused, args, bound, hbound, done, planned, hadded, hlinks⟩ := h
    obtain ⟨hcompiled, hbean, hgrows⟩ := useStored_kept hs.names hfind hkept hused
    rw [Schema.compileStored] at hcompiled
    rw [Schema.paths_of_insert hcompiled] at hbound
    obtain ⟨references, hgrowsColumns, hcolumns⟩ := bind_bound hs (ih false) (fun c hc => hc)
      (Schema.pairwise_apart (hs.wellNamed i)) hgrows.kept hbound
    rw [addStatement, BeanM.yields_modifyOuter] at hadded
    subst hadded
    obtain ⟨links, hgrowsLinks, hplanned⟩ :=
      planJoinRows_planned hs (ih false) (by exact hgrowsColumns.kept) hlinks
    rw [hbean] at hcolumns
    refine ⟨_, ?_, (Schema.PartsOf.of_bound (hs.wellNamed i) hcompiled hcolumns hplanned).traces⟩
    rw [Part.traceAll, List.flatMap_append, List.flatMap_cons]
    exact hgrows.append (hgrowsColumns.append (hgrowsLinks.cons _ _))

end BindContext

end EntitySql
