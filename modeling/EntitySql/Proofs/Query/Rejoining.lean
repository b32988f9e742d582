import EntitySql.Proofs.Query.JoinAliases
import EntitySql.Proofs.Query.ReachedPoints

/-! # Joining a path again

A path that is followed for the second time finds all its associations joined, and what it puts on record is
on record already. So one more join on a path that a model declares does not change its query, as long as
nothing is fetched (`Schema.query_rejoined`). -/

namespace EntitySql
variable {n : Nat}

/-! ### Joins that a query cannot tell apart -/

namespace Joins

/-- The clauses and aliases are the same, and so is the table under each path, however often it is there. -/
structure Alike (j j' : Joins n) : Prop where
  pieces : j.pieces = j'.pieces
  applied : j.applied = j'.applied
  table? : j.table? = j'.table?

variable {j j' : Joins n}

theorem Alike.refl (j : Joins n) : j.Alike j := ⟨rfl, rfl, rfl⟩

theorem table?_reach (j : Joins n) (point : JoinPoint n) (path : String) :
    (j.reach point).table? path =
      if ".".intercalate point.parts = path then some point.table else j.table? path := by
  unfold reach Joins.table?
  rw [List.find?_cons]
  by_cases hpath : ".".intercalate point.parts = path <;> simp [JoinPoint.table, hpath]

theorem Alike.reach {point : JoinPoint n} (h : j.Alike j')
    (ht : j'.table? (".".intercalate point.parts) = some point.table) : (j.reach point).Alike j' where
  pieces := h.pieces
  applied := h.applied
  table? := by
    funext path
    rw [table?_reach, h.table?]
    split
    · next hpath => rw [← ht, hpath]
    · rfl

end Joins

namespace Schema
variable {s : Schema n} {m : QueryModel n} {j j' : Joins n} {joins : List JoinPath}

theorem resolveJoined_alike (h : j'.Alike j) :
    s.resolveJoined { m with joins := joins } j' = s.resolveJoined m j := by
  funext path
  simp only [resolveJoined, h.table?]

theorem fetchedItems_alike (h : j'.Alike j) : s.fetchedItems j' = s.fetchedItems j := by
  funext join
  simp only [fetchedItems, h.table?]

theorem selectItems_alike (h : j'.Alike j)
    (hfetched : joins.filter (·.kind.isFetch) = m.joins.filter (·.kind.isFetch)) :
    s.selectItems { m with joins := joins } j' = s.selectItems m j := by
  simp only [selectItems, hfetched, fetchedItems_alike h, resolveJoined_alike h]

/-! ### Following a path again -/

/-- From a point of a declared path, the rest of the path leads to points that were reached before. -/
theorem joinParts_again {again join : JoinPath} (hj : s.Followed m m.joins m.rootPoint j)
    (hjoin : join ∈ m.joins) {parts : List String} {point : JoinPoint n}
    (hreached : s.Reached m.rootPoint j point) (hparts : join.parts = point.parts ++ parts)
    (halike : j'.Alike j) : ∃ j'', s.joinParts m again parts point j' = .ok j'' ∧ j''.Alike j := by
  induction parts generalizing point j' with
  | nil => exact ⟨j', rfl, halike⟩
  | cons part rest ih =>
    have hbegins : point.parts ++ [part] <+: join.parts := ⟨rest, by simp [hparts]⟩
    obtain ⟨point', hreached', hparts', ht⟩ := hj.recorded _ (by simp) (.inl ⟨join, hjoin, hbegins⟩)
    obtain ⟨p, a, tableAlias, hp, ha, hembedded, hlookup, rfl⟩ := hreached.eq_next hreached' hparts'
    have htable := hj.table?_eq hreached' (by simp [hparts']) (hparts'.symm ▸ hbegins) ht
    rw [joinParts_before (joinAssociation_of_property? hp ha hembedded _) (halike.applied ▸ hlookup)]
    exact ih hreached' (by rw [hparts', hparts]; simp) (halike.reach htable)

section
variable {again : JoinPath} (hdeclared : ∃ join ∈ m.joins, join.path = again.path)
include hdeclared

theorem declaredAlias?_again :
    ({ m with joins := m.joins ++ [again] } : QueryModel n).declaredAlias? = m.declaredAlias? := by
  funext path
  unfold QueryModel.declaredAlias?
  rw [List.find?_append]
  by_cases hpath : again.path = path
  · obtain ⟨join, hjoin, hsame⟩ := hdeclared
    have hfound : (m.joins.find? (·.path = path)).isSome := by
      rw [List.find?_isSome]
      exact ⟨join, hjoin, by simp [hsame, hpath]⟩
    rw [Option.or_of_isSome hfound]
  · simp [hpath]

theorem joinAll_again : s.joinAll { m with joins := m.joins ++ [again] } =
    s.joinAll m >>= fun j => s.join m again j := by
  have hjoin : s.join { m with joins := m.joins ++ [again] } = s.join m :=
    join_congr rfl (declaredAlias?_again hdeclared)
  rw [joinAll, hjoin, List.foldlM_append]
  simp [joinAll]

theorem join_again (h : s.joinAll m = .ok j) : ∃ j', s.join m again j = .ok j' ∧ j'.Alike j := by
  have hj := joinAll_followed h
  obtain ⟨join, hjoin, hpath⟩ := hdeclared
  have hparts : join.parts = again.parts := by rw [JoinPath.parts, hpath, JoinPath.parts]
  rw [Schema.join, if_neg (hpath ▸ hj.nonempty join hjoin)]
  exact joinParts_again hj hjoin .start hparts (.refl j)

/-- One more join on a path that a model declares, of a kind that fetches nothing, changes neither the
statement and its binding table nor the error. -/
theorem query_rejoined (hkind : again.kind.isFetch = false) :
    s.query { m with joins := m.joins ++ [again] } = s.query m := by
  have hstatement : s.selectStatement { m with joins := m.joins ++ [again] } = s.selectStatement m := by
    unfold selectStatement
    rw [joinAll_again hdeclared]
    cases hjoins : s.joinAll m with
    | error e => rfl
    | ok j =>
      obtain ⟨j', hagain, halike⟩ := join_again hdeclared hjoins
      have hfetched : (m.joins ++ [again]).filter (·.kind.isFetch) = m.joins.filter (·.kind.isFetch) := by
        simp [hkind]
      dsimp only [bind, Except.bind]
      rw [hagain]
      dsimp only
      rw [selectItems_alike halike hfetched, resolveJoined_alike halike, halike.pieces]
  rw [query, hstatement, query]

end

/-- Genres of authors by way of their novels, which are fetched, and joined again after the genres. -/
theorem query_rejoined_novels : ∃ q, novels.query genresOfAuthors = .ok q ∧
    novels.query { genresOfAuthors with
      joins := genresOfAuthors.joins ++
        [{ path := "novels", kind := .right, explicitAlias := some "other" }] } = .ok q := by
  have hquery : (novels.query genresOfAuthors).toOption.isSome = true := by decide +kernel
  obtain ⟨q, hq⟩ := Option.isSome_iff_exists.1 hquery
  have hq := Outcome.eq_ok_of_toOption hq
  refine ⟨q, hq, ?_⟩
  rw [query_rejoined (by decide) rfl, hq]

end Schema

end EntitySql
