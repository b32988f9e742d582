import EntitySql.Proofs.Outcome
import EntitySql.Proofs.Query.TextOfSizes
import EntitySql.Proofs.Repository.Execution

/-! # Refused calls

A call is refused where a declaration is at fault, or where something is asked for that is not offered.
Nothing is asked of a cache by a call that is refused, not even for the cache itself
(`Operations.refused_unasked`), with one exception: a property of the results of a query may have no
column in the answer, and that is found out when the query was handed over
(`Operations.findAll_refusedLate`). No other refusal comes behind a query. -/

namespace EntitySql

/-- Whether an error is about declarations and about what is offered, and not about values, caches or
codecs. -/
def Error.isRefusal : Error → Bool
  | build _ | configuration _ | unsupported _ => true
  | conversion _ | execution _ | endless _ => false

/-! ### Decoding refuses nothing -/

namespace Value

theorem floatJson_unrefused (bits : UInt64) : (floatJson bits).FailsOnly (·.isRefusal = false) := by
  unfold floatJson
  split
  · exact .ok
  · rintro e ⟨⟩
    rfl

mutual

theorem toUntyped_unrefused : ∀ value : Value, value.toUntyped.FailsOnly (·.isRefusal = false)
  | null | boolean _ | int _ | long _ | decimal _ | string _ | uuid _ | timestamp _ | date _
  | bytes _ => .ok
  | float bits => floatJson_unrefused (widen bits)
  | double bits => floatJson_unrefused bits
  | list items => .map (toUntypedItems_unrefused items)
  | object fields => .map (toUntypedFields_unrefused fields)

theorem toUntypedItems_unrefused :
    ∀ items : List Value, (toUntypedItems items).FailsOnly (·.isRefusal = false)
  | [] => .ok
  | item :: items =>
    .bind (toUntyped_unrefused item) fun _ => .bind (toUntypedItems_unrefused items) fun _ => .ok

theorem toUntypedFields_unrefused :
    ∀ fields : List (String × Value), (toUntypedFields fields).FailsOnly (·.isRefusal = false)
  | [] => .ok
  | (_, value) :: fields =>
    .bind (toUntyped_unrefused value) fun _ => .bind (toUntypedFields_unrefused fields) fun _ => .ok

end

theorem toJson_unrefused (value : Value) (type : DataType) :
    (value.toJson type).FailsOnly (·.isRefusal = false) := by
  unfold toJson
  split
  · exact .ok
  · exact .ok
  · exact toUntyped_unrefused value

end Value

namespace RowDecoder

theorem cell_unrefused (codec : Codec) (field : DtoField) (value : Value) :
    (cell codec field value).FailsOnly (·.isRefusal = false) := by
  unfold cell
  split
  · next text _ =>
    intro e h
    cases hdecode : codec.decode text with
    | ok document =>
      rw [hdecode] at h
      cases h
    | error cause =>
      rw [hdecode] at h
      cases h
      rfl
  · exact Value.toJson_unrefused _ _

theorem document_unrefused (codec : Codec) (row : List Value) (decoder : RowDecoder) :
    (decoder.document codec row).FailsOnly (·.isRefusal = false) := by
  cases decoder with
  | scalar =>
    cases row with
    | nil =>
      rintro e ⟨⟩
      rfl
    | cons first rest => exact Value.toUntyped_unrefused first
  | dto fields =>
    refine .bind (.mapM (fun field => ?_) fields) fun entries => .ok
    exact .bind (cell_unrefused codec field _) fun document => .ok

theorem decode_unrefused (decoder : RowDecoder) (codec : Codec) (shape : Shape) (row : List Value) :
    (decoder.decode codec shape row).FailsOnly (·.isRefusal = false) := by
  refine .bind (document_unrefused codec row decoder) fun document e h => ?_
  cases hread : shape.read document with
  | ok answer =>
    rw [hread] at h
    cases h
  | error cause =>
    rw [hread] at h
    cases h
    rfl

/-- If the properties of the results are known, only a column can be missing. -/
theorem make_eq_error {n : Nat} {root : Entity n} {kind : ResultKind} {columns : List String} {e : Error}
    (hchecked : checkProjection root kind = .ok ()) (h : make root kind columns = .error e) :
    ∃ field p, root.property? field = some p ∧ columnIndex? columns (root.columnName p) = none ∧
      e = .build (.missingDtoColumn field root.name (root.columnName p)) := by
  simp only [checkProjection, Outcome.bind_eq_ok] at hchecked
  obtain ⟨projected, hprojected, -⟩ := hchecked
  rw [make, hprojected] at h
  cases projected with
  | none => cases h
  | some projected =>
    have h : (projected.mapM _ >>= _) = Except.error e := h
    rcases Outcome.bind_eq_error.1 h with hcolumns | ⟨fields, -, hpure⟩
    swap
    · cases hpure
    obtain ⟨⟨field, p⟩, hmem, hmissing⟩ := Outcome.exists_of_mapM_eq_error hcolumns
    -- the pair stands in the projection, so that it was looked up under the name of the field
    have hproperty : root.property? field = some p := by
      cases kind with
      | scalar => cases hprojected
      | entity => cases hprojected
      | dto names =>
        simp only [projectedProperties, Outcome.bind_eq_ok, Outcome.pure_eq_ok, Option.some.injEq]
          at hprojected
        obtain ⟨found, hfound, rfl⟩ := hprojected
        obtain ⟨name, -, hname⟩ := Outcome.exists_of_mem_mapM hfound hmem
        split at hname
        · next q hq =>
          cases hname
          exact hq
        · cases hname
    dsimp only at hmissing
    split at hmissing
    · cases hmissing
    · next hnone =>
      cases hmissing
      exact ⟨field, p, hproperty, hnone, rfl⟩

end RowDecoder

/-! ### Calls -/

namespace SessionM
variable {α β : Type} {state state' : SessionState}

def FailsOnly (p : Error → Prop) (call : SessionM α) : Prop :=
  ∀ state e state', call.run state = (.error e, state') → p e

/-- Whether a call that is refused has asked nothing. -/
def RefusedUnasked (call : SessionM α) : Prop :=
  ∀ state e state', call.run state = (.error e, state') → e.isRefusal = true →
    state'.history = state.history

section
variable {p : Error → Prop} {call : SessionM α} {next : α → SessionM β}

theorem run_bind_liftM_ok {x : Outcome α} {a : α} (h : x = .ok a) :
    ((liftM x : SessionM α) >>= next).run state = (next a).run state := by
  subst h
  exact run_bind_ok rfl

theorem run_bind_liftM_error {x : Outcome α} {e : Error} (h : x = .error e) :
    ((liftM x : SessionM α) >>= next).run state = (.error e, state) := by
  subst h
  exact run_bind_error rfl

theorem FailsOnly.pure (a : α) : FailsOnly p (Pure.pure a : SessionM α) := by
  intro state e state' h
  cases congrArg Prod.fst h

theorem FailsOnly.liftM {x : Outcome α} (h : x.FailsOnly p) : FailsOnly p (liftM x : SessionM α) := by
  intro state e state' hrun
  exact h e (congrArg Prod.fst hrun)

theorem FailsOnly.bind (h : call.FailsOnly p) (hnext : ∀ a, (next a).FailsOnly p) :
    FailsOnly p (call >>= next) := by
  intro state e state' hrun
  rcases hcall : call.run state with ⟨e' | a, between⟩
  · rw [run_bind_error hcall] at hrun
    cases hrun
    exact h state e state' hcall
  · rw [run_bind_ok hcall] at hrun
    exact hnext a between e state' hrun

theorem put_unrefused (event : CacheEvent) (question : List CacheEvent → Except String α) :
    (put event question).FailsOnly (·.isRefusal = false) := by
  intro state e state' hrun
  rw [run_put] at hrun
  cases hanswer : question state.history with
  | ok answer =>
    rw [hanswer] at hrun
    cases congrArg Prod.fst hrun
  | error text =>
    rw [hanswer] at hrun
    cases congrArg Prod.fst hrun
    rfl

theorem RefusedUnasked.of_unrefused (h : call.FailsOnly (·.isRefusal = false)) :
    call.RefusedUnasked := by
  intro state e state' hrun he
  rw [h state e state' hrun] at he
  cases he

/-- What asks nothing may be refused, and so may what follows. -/
theorem Silent.refusedUnasked_bind (h : call.Silent) (hnext : ∀ a, (next a).RefusedUnasked) :
    (call >>= next).RefusedUnasked := by
  intro state e state' hrun he
  have hsilent := h state
  rcases hcall : call.run state with ⟨e' | a, between⟩
  · rw [run_bind_error hcall] at hrun
    rw [hcall] at hsilent
    cases hrun
    exact hsilent
  · rw [run_bind_ok hcall] at hrun
    rw [hcall] at hsilent
    exact (hnext a between e state' hrun he).trans hsilent

end

theorem run_query_error {provider : CacheProvider} {cache : String} {statement : Statement} {text : String}
    (h : provider.query state.history cache statement = .error text) (readRows : ResultSet → SessionM α) :
    (query provider cache statement readRows).run state =
      (.error (.execution text), state.noted [.queried statement]) := by
  have hput := run_put (.queried statement) (fun history => provider.query history cache statement) state
  rw [h] at hput
  exact run_bind_error hput

theorem run_query_ok {provider : CacheProvider} {cache : String} {statement : Statement}
    {answer : ResultSet} (h : provider.query state.history cache statement = .ok answer)
    {readRows : ResultSet → SessionM α} {result : Except Error α} {read : SessionState}
    (hread : (readRows answer).run (state.noted [.queried statement, .cursorOpened]) = (result, read)) :
    (query provider cache statement readRows).run state = (result, read.noted [.cursorReleased]) := by
  have hput := run_put (.queried statement) (fun history => provider.query history cache statement) state
  rw [h] at hput
  have hnote : (note .cursorOpened).run (state.noted [.queried statement]) =
      (.ok (), (state.noted [.queried statement]).noted [.cursorOpened]) := rfl
  unfold query
  rw [run_bind_ok hput, run_bind_ok hnote, SessionState.noted_noted]
  exact congrArg (fun read : Except Error α × SessionState => (read.1, read.2.noted [.cursorReleased])) hread

end SessionM

/-- How a call that finds is refused with an error: it asked nothing, or it handed over its query, whose
answer has no column for a property of the results. -/
inductive FindRefused {n : Nat} (ops : Operations n) (r : Repository) (q : PreparedQuery n)
    (args : List Value) (state : SessionState) : Error → SessionState → Prop
  | unasked {e : Error} {state' : SessionState} (h : state'.history = state.history) :
    FindRefused ops r q args state e state'
  | missingColumn {statement : Statement} {answer : ResultSet} {field : String} {p : Property n}
    {state' : SessionState} (hprepared : q.prepare ops.schema args ops.now = .ok statement)
    (hanswered : ops.provider.query (state.history ++ [.asked (Operations.cacheOf r q)])
      (Operations.cacheOf r q) statement = .ok answer)
    (hproperty : q.root.property? field = some p)
    (hmissing : columnIndex? answer.columns (q.root.columnName p) = none)
    (hasked : state' = state.noted [.asked (Operations.cacheOf r q), .queried statement, .cursorOpened,
      .cursorReleased]) :
    FindRefused ops r q args state
      (.build (.missingDtoColumn field q.root.name (q.root.columnName p))) state'

namespace Operations
variable {n : Nat} {ops : Operations n} {α : Type}

theorem decodeRows_unrefused (ops : Operations n) (decoder : RowDecoder) (shape : Shape)
    (rows : List (Except String (List Value))) :
    (ops.decodeRows decoder shape rows).FailsOnly (·.isRefusal = false) := by
  induction rows with
  | nil => exact .pure _
  | cons row rows ih =>
    refine .bind (SessionM.put_unrefused _ _) fun cells => ?_
    refine .bind (.liftM (decoder.decode_unrefused ops.codec shape cells)) fun document => ?_
    exact .bind ih fun documents => .pure _

theorem runPlan_unrefused (ops : Operations n) (cache : String) (plan : List Statement) :
    (ops.runPlan cache plan).FailsOnly (·.isRefusal = false) := by
  refine .bind (SessionM.put_unrefused _ _) fun opened => ?_
  induction plan with
  | nil => exact .pure ()
  | cons statement plan ih =>
    exact .bind (.bind (SessionM.put_unrefused _ _) fun _ => .pure ()) fun _ => ih

/-- A query is refused before anything is asked, or else by what reads the answer. -/
theorem runQuery_refused {r : Repository} {q : PreparedQuery n} {args : List Value}
    {readRows : ResultSet → SessionM α} {state state' : SessionState} {e : Error}
    (h : (ops.runQuery r q args readRows).run state = (.error e, state')) (he : e.isRefusal = true) :
    state'.history = state.history ∨ ∃ statement answer read,
      q.prepare ops.schema args ops.now = .ok statement ∧
      ops.provider.query (state.history ++ [.asked (cacheOf r q)]) (cacheOf r q) statement = .ok answer ∧
      (readRows answer).run (state.noted [.asked (cacheOf r q), .queried statement, .cursorOpened]) =
        (.error e, read) ∧
      state' = read.noted [.cursorReleased] := by
  unfold runQuery at h
  cases hprepared : q.prepare ops.schema args ops.now with
  | error e' =>
    rw [SessionM.run_bind_liftM_error hprepared] at h
    cases h
    exact .inl rfl
  | ok statement =>
    rw [SessionM.run_bind_liftM_ok hprepared] at h
    have hasked := SessionM.run_openCache ops.provider (cacheOf r q) state
    cases hopen : ops.provider.openCache state.history (cacheOf r q) with
    | error text =>
      rw [hopen] at hasked
      rw [SessionM.run_bind_error hasked] at h
      cases h
      cases he
    | ok opened =>
      rw [hopen] at hasked
      rw [SessionM.run_bind_ok hasked] at h
      cases hanswer : ops.provider.query (state.noted [.asked (cacheOf r q)]).history (cacheOf r q)
          statement with
      | error text =>
        rw [SessionM.run_query_error hanswer] at h
        cases h
        cases he
      | ok answer =>
        rcases hrows : (readRows answer).run ((state.noted [.asked (cacheOf r q)]).noted
            [.queried statement, .cursorOpened]) with ⟨result, read⟩
        rw [SessionM.run_query_ok hanswer hrows] at h
        rw [SessionState.noted_noted] at hrows
        cases h
        exact .inr ⟨statement, answer, read, rfl, hanswer, hrows, rfl⟩

/-- Reading rows by a decoder that has to be made first. -/
theorem find_refused {r : Repository} {q : PreparedQuery n} {args : List Value}
    {readRows : RowDecoder → ResultSet → SessionM α}
    (hread : ∀ decoder answer, (readRows decoder answer).FailsOnly (·.isRefusal = false))
    {state state' : SessionState} {e : Error}
    (h : (do
      let _ ← (liftM (checkProjection q.root q.result) : SessionM Unit)
      ops.runQuery r q args fun answer => do
        let decoder ← RowDecoder.make q.root q.result answer.columns
        readRows decoder answer : SessionM α).run state = (.error e, state'))
    (he : e.isRefusal = true) : FindRefused ops r q args state e state' := by
  cases hchecked : checkProjection q.root q.result with
  | error e' =>
    rw [SessionM.run_bind_liftM_error hchecked] at h
    cases h
    exact .unasked rfl
  | ok checked =>
    rw [SessionM.run_bind_liftM_ok hchecked] at h
    rcases runQuery_refused h he with hunasked | ⟨statement, answer, read, hprepared, hanswered, hrows, rfl⟩
    · exact .unasked hunasked
    cases hmade : RowDecoder.make q.root q.result answer.columns with
    | ok decoder =>
      rw [SessionM.run_bind_liftM_ok hmade] at hrows
      rw [hread decoder answer _ e read hrows] at he
      cases he
    | error e' =>
      rw [SessionM.run_bind_liftM_error hmade] at hrows
      cases hrows
      obtain ⟨field, p, hproperty, hmissing, rfl⟩ := RowDecoder.make_eq_error hchecked hmade
      exact .missingColumn hprepared hanswered hproperty hmissing (SessionState.noted_noted ..)

/-- A call that is refused has asked nothing of a cache, and so handed it no statement. Only a call that
finds is also refused when it has queried, and only because a column is missing in the answer. -/
theorem refused_unasked (ops : Operations n) (r : Repository) :
    (∀ q args shape state e state',
      (ops.findAll r q args shape).run state = (.error e, state') → e.isRefusal = true →
        FindRefused ops r q args state e state') ∧
    (∀ q args shape state e state',
      (ops.findOne r q args shape).run state = (.error e, state') → e.isRefusal = true →
        FindRefused ops r q args state e state') ∧
    (∀ q args, (ops.hasResult r q args).RefusedUnasked) ∧
    (∀ q args, (ops.executeUpdate r q args).RefusedUnasked) ∧
    (∀ e document, (ops.persist r e document).RefusedUnasked) ∧
    (∀ e document, (ops.update r e document).RefusedUnasked) := by
  refine ⟨?_, ?_, ?_, ?_, ?_, ?_⟩
  · intro q args shape state e state' h he
    exact find_refused (fun decoder answer => ops.decodeRows_unrefused decoder shape answer.rows) h he
  · intro q args shape state e state' h he
    have hread : ∀ (decoder : RowDecoder) (answer : ResultSet), SessionM.FailsOnly (·.isRefusal = false) (do
        return (← ops.decodeRows decoder shape (answer.rows.take 1)).head? : SessionM (Option Json)) :=
      fun decoder answer => .bind (ops.decodeRows_unrefused decoder shape _) fun _ => .pure _
    exact find_refused hread h he
  · intro q args state e state' h he
    rcases runQuery_refused h he with hunasked | ⟨statement, answer, read, -, -, hrows, -⟩
    · exact hunasked
    cases hanswer : answer.rows with
    | nil =>
      rw [hanswer] at hrows
      cases congrArg Prod.fst hrows
    | cons row rows =>
      rw [hanswer] at hrows
      have hread : SessionM.FailsOnly (·.isRefusal = false)
          (SessionM.readRow row >>= fun _ => return true : SessionM Bool) :=
        .bind (SessionM.put_unrefused _ _) fun _ => .pure _
      rw [hread _ e read hrows] at he
      cases he
  · intro q args
    refine SessionM.Silent.refusedUnasked_bind (.liftM _) fun statement => .of_unrefused ?_
    exact .bind (SessionM.put_unrefused _ _) fun opened => SessionM.put_unrefused _ _
  · intro e document
    rw [persist_eq]
    refine (silent_persistPlan ops.toBindContext r e document).refusedUnasked_bind fun planned => ?_
    exact .of_unrefused (.bind (ops.runPlan_unrefused _ _) fun _ => .pure _)
  · intro e document
    rw [update_eq]
    refine (silent_updatePlan ops.toBindContext r e document).refusedUnasked_bind fun planned => ?_
    exact .of_unrefused (.bind (ops.runPlan_unrefused _ _) fun _ => .pure _)

/-- Books in a cache that answers every query with one identity, for examples. -/
def identitiesOnly : Operations 1 where
  schema := .books
  codec := .json
  now := .newYear
  freshId _ := ⟨0⟩
  provider :=
    { openCache := fun _ _ => .ok ()
      query := fun _ _ _ => .ok ⟨["id"], [.ok [.long 1]]⟩
      execute := fun _ _ _ => .ok 1 }

/-- A repository that declares no statements is refused before it is looked for. -/
theorem refused_undeclaredInsert :
    let call := identitiesOnly.persist { name := "Books", cache := "main", generated := false } .book
      (.object [("id", .int 1), ("title", .string "Emma")])
    (∃ e state', call.run {} = (.error e, state') ∧ e.isRefusal = true) ∧ (call.run {}).2.history = [] := by
  intro call
  have hrun : call.run {} = (.error (.configuration (.noInsert "Books" "Book")), {}) := rfl
  obtain ⟨-, -, -, -, hpersist, -⟩ :=
    refused_unasked identitiesOnly { name := "Books", cache := "main", generated := false }
  exact ⟨⟨_, _, hrun, rfl⟩, hpersist _ _ _ _ _ hrun rfl⟩

theorem findAll_of_make_error {r : Repository} {q : PreparedQuery n} {args : List Value} {shape : Shape}
    {state : SessionState} {statement : Statement} {answer : ResultSet} {e : Error}
    (hchecked : checkProjection q.root q.result = .ok ())
    (hprepared : q.prepare ops.schema args ops.now = .ok statement)
    (hopen : ops.provider.openCache state.history (cacheOf r q) = .ok ())
    (hanswered : ops.provider.query (state.history ++ [.asked (cacheOf r q)]) (cacheOf r q) statement =
      .ok answer)
    (hmade : RowDecoder.make q.root q.result answer.columns = .error e) :
    (ops.findAll r q args shape).run state = (.error e, state.noted
      [.asked (cacheOf r q), .queried statement, .cursorOpened, .cursorReleased]) := by
  have hasked := SessionM.run_openCache ops.provider (cacheOf r q) state
  rw [hopen] at hasked
  rw [findAll, SessionM.run_bind_liftM_ok hchecked, runQuery, SessionM.run_bind_liftM_ok hprepared,
    SessionM.run_bind_ok hasked, SessionM.run_query_ok hanswered (SessionM.run_bind_liftM_error hmade),
    SessionState.noted_noted, SessionState.noted_noted]
  rfl

/-- A query for titles whose answer has no column of them. -/
def unlistedTitles : PreparedQuery 1 :=
  { PreparedQuery.ofText .book "SELECT id FROM book" [] with result := .dto ["title"] }

/-- The query is refused when it was handed over. -/
theorem findAll_refusedLate :
    ∃ e state', (identitiesOnly.findAll { name := "Books", cache := "main" } unlistedTitles [] .any).run {} =
        (.error e, state') ∧
      e.isRefusal = true ∧ CacheEvent.queried ⟨"SELECT id FROM book", []⟩ ∈ state'.history := by
  have hprepared : unlistedTitles.prepare identitiesOnly.schema [] identitiesOnly.now =
      .ok ⟨"SELECT id FROM book", []⟩ := by
    have habsent : TokenScan.ofText "SELECT id FROM book".toList = .absent := rfl
    have hexpand : expandTokens "SELECT id FROM book" [] "SELECT id FROM book".toList [] =
        .ok ⟨"SELECT id FROM book".toList, []⟩ := expandTokens_of_absent habsent
    show (expandTokens "SELECT id FROM book" [] "SELECT id FROM book".toList [] >>= _) = _
    rw [hexpand]
    rfl
  have hnone : (RowDecoder.make unlistedTitles.root unlistedTitles.result ["id"]).toOption = none := by
    decide +kernel
  cases hmade : RowDecoder.make unlistedTitles.root unlistedTitles.result ["id"] with
  | ok decoder =>
    rw [hmade] at hnone
    cases hnone
  | error e =>
    have hrefusal : e.isRefusal = true := by
      obtain ⟨field, p, -, -, rfl⟩ := RowDecoder.make_eq_error rfl hmade
      rfl
    have hanswered : identitiesOnly.provider.query ([] ++ [.asked "main"]) "main" ⟨"SELECT id FROM book", []⟩ =
        .ok ⟨["id"], [.ok [.long 1]]⟩ := rfl
    exact ⟨e, _, findAll_of_make_error rfl hprepared rfl hanswered hmade, hrefusal,
      by simp [SessionState.noted]⟩

end Operations

end EntitySql
