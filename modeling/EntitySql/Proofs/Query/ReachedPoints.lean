import EntitySql.Proofs.Query.JoinWalk
import EntitySql.Proofs.Text.Blanks

/-! # Points that paths reach

Following a path again leads to the same point, since its associations keep the aliases that they got when
they were joined first (`Schema.Reached`). The tables on record are those of the points that declared paths
have reached, each under its own path (`Schema.joinAll_followed`). -/

namespace EntitySql
variable {n : Nat}

/-! ### Paths and their parts -/

theorem Text.notMem_of_mem_pieces {sep : Char} {cs piece : List Char} (h : piece ∈ pieces sep cs) :
    sep ∉ piece := by
  induction cs generalizing piece with
  | nil => simp_all [pieces]
  | cons c rest ih =>
    unfold pieces at h
    split at h
    · rcases List.mem_cons.1 h with rfl | h
      · simp
      · exact ih h
    next hc =>
    split at h
    · next hnone => exact absurd hnone (pieces_ne_nil sep rest)
    · next first others hpieces =>
      rw [hpieces] at ih
      rcases List.mem_cons.1 h with rfl | h
      · simpa [Ne.symm hc] using ih List.mem_cons_self
      · exact ih (List.mem_cons_of_mem _ h)

theorem JoinPath.dotless_of_mem_parts {join : JoinPath} {part : String} (h : part ∈ join.parts) :
    '.' ∉ part.toList := by
  obtain ⟨piece, hpiece, rfl⟩ := List.mem_map.1 h
  rw [String.toList_ofList]
  exact Text.notMem_of_mem_pieces hpiece

/-- Parts without dots can be read off their path. -/
theorem eq_of_intercalate_dot {path path' : List String} (hne : path ≠ []) (hne' : path' ≠ [])
    (hdotless : ∀ part ∈ path, '.' ∉ part.toList) (hdotless' : ∀ part ∈ path', '.' ∉ part.toList)
    (h : ".".intercalate path = ".".intercalate path') : path = path' := by
  have hpieces : ∀ {path : List String}, path ≠ [] → (∀ part ∈ path, '.' ∉ part.toList) →
      Text.pieces '.' (".".intercalate path).toList = path.map (·.toList) := by
    intro path hne hdotless
    rw [toList_intercalate_dot, Text.pieces_joinWith (by simpa using hne)]
    intro word hword
    obtain ⟨part, hpart, rfl⟩ := List.mem_map.1 hword
    exact hdotless part hpart
  have hparts : path.map (·.toList) = path'.map (·.toList) := by
    rw [← hpieces hne hdotless, h, hpieces hne' hdotless']
  exact List.map_injective_iff.2 (fun _ _ => String.toList_inj.1) hparts

/-! ### Points -/

namespace Schema
variable {s : Schema n} {m : QueryModel n} {start point point' : JoinPoint n} {j j' : Joins n}

/-- A point that is reached from another one by associations that have been joined. -/
inductive Reached (s : Schema n) (start : JoinPoint n) (j : Joins n) : JoinPoint n → Prop
  | start : Reached s start j start
  | next {point : JoinPoint n} {part tableAlias : String} {p : Property n} {a : Association n}
    (h : Reached s start j point) (hp : point.entity.property? part = some p)
    (ha : p.association? = some a) (hembedded : a.isEmbedded = false)
    (hlookup : j.applied.lookup (point.tableAlias, part) = some tableAlias) :
    Reached s start j (point.next part tableAlias (s.target a))

namespace Reached

theorem mono (hkept : ∀ key tableAlias, j.applied.lookup key = some tableAlias →
    j'.applied.lookup key = some tableAlias) (h : s.Reached start j point) : s.Reached start j' point := by
  induction h with
  | start => exact .start
  | next _ hp ha hembedded hlookup ih => exact .next ih hp ha hembedded (hkept _ _ hlookup)

theorem parts_isPrefix (h : s.Reached start j point) : start.parts <+: point.parts := by
  induction h with
  | start => exact List.prefix_rfl
  | next _ _ _ _ _ ih => exact ih.trans (List.prefix_append _ _)

theorem start_ne_next (h : s.Reached start j point) (part : String) :
    start.parts ≠ point.parts ++ [part] := by
  intro hparts
  have hlength := h.parts_isPrefix.length_le
  rw [hparts, List.length_append, List.length_singleton] at hlength
  omega

/-- The path tells the point. -/
theorem unique (h : s.Reached start j point) (h' : s.Reached start j point')
    (hparts : point.parts = point'.parts) : point = point' := by
  induction h generalizing point' with
  | start =>
    cases h' with
    | start => rfl
    | next h' => exact absurd hparts (h'.start_ne_next _)
  | next h hp ha _ hlookup ih =>
    cases h' with
    | start => exact absurd hparts.symm (h.start_ne_next _)
    | next h' hp' ha' _ hlookup' =>
      obtain ⟨hbefore, hpart⟩ := List.append_inj' hparts rfl
      obtain rfl := ih h' hbefore
      obtain rfl := (List.cons.inj hpart).1
      obtain rfl := Option.some.inj (hp.symm.trans hp')
      obtain rfl := Option.some.inj (ha.symm.trans ha')
      obtain rfl := Option.some.inj (hlookup.symm.trans hlookup')
      rfl

/-- One part further, an association of the point's entity was joined. -/
theorem eq_next {part : String} (h : s.Reached start j point) (h' : s.Reached start j point')
    (hparts : point'.parts = point.parts ++ [part]) :
    ∃ p a tableAlias, point.entity.property? part = some p ∧ p.association? = some a ∧ a.isEmbedded = false ∧
      j.applied.lookup (point.tableAlias, part) = some tableAlias ∧
      point' = point.next part tableAlias (s.target a) := by
  cases h' with
  | start => exact absurd hparts (h.start_ne_next _)
  | next h' hp ha hembedded hlookup =>
    obtain ⟨hbefore, hpart⟩ := List.append_inj' hparts rfl
    obtain rfl := h'.unique h hbefore
    obtain rfl := (List.cons.inj hpart).1
    exact ⟨_, _, _, hp, ha, hembedded, hlookup, rfl⟩

end Reached

/-- What holds as paths are followed. A path that was followed to its end, or further, leads to a point there
whose table is on record; and no other tables are. -/
structure Followed (s : Schema n) (m : QueryModel n) (done : List JoinPath) (point : JoinPoint n)
    (j : Joins n) : Prop where
  nonempty : ∀ join ∈ done, join.path ≠ ""
  reached : s.Reached m.rootPoint j point
  recorded : ∀ path ≠ [], (∃ join ∈ done, path <+: join.parts) ∨ path <+: point.parts →
    ∃ point', s.Reached m.rootPoint j point' ∧ point'.parts = path ∧ point'.table ∈ j.tables
  tables : ∀ t ∈ j.tables, ∃ point', s.Reached m.rootPoint j point' ∧ point'.parts ≠ [] ∧
    (∃ join ∈ m.joins, point'.parts <+: join.parts) ∧ t = point'.table

namespace Followed
variable {done : List JoinPath}

theorem empty (s : Schema n) (m : QueryModel n) : s.Followed m [] m.rootPoint {} where
  nonempty := by simp
  reached := .start
  recorded path hne hpath := by
    rcases hpath with ⟨_, hnone, -⟩ | hbegins
    · cases hnone
    · exact absurd (List.prefix_nil.1 hbegins) hne
  tables := by simp

/-- At the end of a declared path, the next one starts from the root. -/
theorem restart {join : JoinPath} (h : s.Followed m done point j) (hpath : join.path ≠ "")
    (hparts : point.parts = join.parts) : s.Followed m (done ++ [join]) m.rootPoint j where
  nonempty join' hjoin' := by
    rcases List.mem_append.1 hjoin' with hjoin' | hjoin'
    · exact h.nonempty join' hjoin'
    · exact List.mem_singleton.1 hjoin' ▸ hpath
  reached := .start
  recorded path hne hpath := by
    rcases hpath with ⟨join', hjoin', hbegins⟩ | hbegins
    · rcases List.mem_append.1 hjoin' with hjoin' | hjoin'
      · exact h.recorded path hne (.inl ⟨join', hjoin', hbegins⟩)
      · obtain rfl := List.mem_singleton.1 hjoin'
        exact h.recorded path hne (.inr (hparts ▸ hbegins))
    · exact absurd (List.prefix_nil.1 hbegins) hne
  tables := h.tables

/-- With the next part, its point is reached and its table goes on record. -/
theorem step {join : JoinPath} {part tableAlias : String} {rest : List String} {p : Property n}
    {a : Association n} (h : s.Followed m done point j) (hjoin : join ∈ m.joins)
    (hparts : join.parts = point.parts ++ part :: rest)
    (hassociation : joinAssociation point.entity join.path part = .ok (p, a))
    (hjoined : s.JoinedAs m join rest point part p a j tableAlias j') :
    s.Followed m done (point.next part tableAlias (s.target a))
      (j'.reach (point.next part tableAlias (s.target a))) := by
  obtain ⟨hp, ha, hembedded⟩ := joinAssociation_eq_ok hassociation
  have hkept : ∀ {point' : JoinPoint n}, s.Reached m.rootPoint j point' →
      s.Reached m.rootPoint (j'.reach (point.next part tableAlias (s.target a))) point' :=
    fun hreached => hreached.mono fun _ _ => hjoined.keeps
  have hnext : s.Reached m.rootPoint (j'.reach (point.next part tableAlias (s.target a)))
      (point.next part tableAlias (s.target a)) := (hkept h.reached).next hp ha hembedded hjoined.lookup
  have htables : ∀ t ∈ j.tables, t ∈ (j'.reach (point.next part tableAlias (s.target a))).tables :=
    fun t ht => List.mem_cons_of_mem _ (hjoined.tables_eq.symm ▸ ht)
  refine ⟨h.nonempty, hnext, fun path hne hpath => ?_, fun t ht => ?_⟩
  · by_cases hlast : path = point.parts ++ [part]
    · exact ⟨_, hnext, hlast.symm, List.mem_cons_self⟩
    · obtain ⟨point', hreached, hparts', ht⟩ := h.recorded path hne
        (hpath.imp_right fun hbegins => (List.prefix_concat_iff.1 hbegins).resolve_left hlast)
      exact ⟨point', hkept hreached, hparts', htables _ ht⟩
  · rcases List.mem_cons.1 ht with rfl | ht
    · exact ⟨_, hnext, by simp [JoinPoint.next], ⟨join, hjoin, rest, by simp [JoinPoint.next, hparts]⟩, rfl⟩
    · obtain ⟨point', hreached, hrest⟩ := h.tables t (hjoined.tables_eq ▸ ht)
      exact ⟨point', hkept hreached, hrest⟩

/-- The table on record under a path is the one that the path leads to. -/
theorem table?_eq {join : JoinPath} (h : s.Followed m done point j)
    (hreached : s.Reached m.rootPoint j point') (hne : point'.parts ≠ [])
    (hbegins : point'.parts <+: join.parts) (ht : point'.table ∈ j.tables) :
    j.table? (".".intercalate point'.parts) = some point'.table := by
  cases hfound : j.table? (".".intercalate point'.parts) with
  | none =>
    have hnone := List.find?_eq_none.1 hfound _ ht
    simp [JoinPoint.table] at hnone
  | some t =>
    have hpath : t.path = ".".intercalate point'.parts := by simpa using List.find?_some hfound
    obtain ⟨point'', hreached', hne', ⟨join', -, hbegins'⟩, rfl⟩ :=
      h.tables t (List.mem_of_find?_eq_some hfound)
    have hparts := eq_of_intercalate_dot hne' hne
      (fun part hpart => join'.dotless_of_mem_parts (hbegins'.subset hpart))
      (fun part hpart => join.dotless_of_mem_parts (hbegins.subset hpart)) hpath
    rw [hreached'.unique hreached hparts]

end Followed

theorem joinAll_followed (h : s.joinAll m = .ok j) : s.Followed m m.joins m.rootPoint j := by
  refine joinAll_walk (Q := s.Followed m) ?_ ?_ ?_ h
  · exact .empty s m
  · exact fun done join after _ hpath point j hparts hj => hj.restart hpath hparts
  · intro done join after hjoins point part rest hparts p a hassociation tableAlias j j₁ hjoined hj
    exact hj.step (by simp [hjoins]) hparts hassociation hjoined

end Schema

end EntitySql
