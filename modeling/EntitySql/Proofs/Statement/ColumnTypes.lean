import EntitySql.Proofs.Repository.Binding
import EntitySql.Proofs.Statement.Tables
import EntitySql.Proofs.Statement.WrittenColumns
import EntitySql.Proofs.Storage.RoundTrip

/-! # Values for the types of columns

What an INSERT binds is null or a value that the column was declared for (`BindContext.bind_fits`), but for
three kinds of columns: small integers are bound with 32 bits, single characters as texts, and the time of
creation or update as a timestamp whatever the property is. The type of a column is found along references,
and binding goes one reference far; so nothing is said of a column that refers to what refers further, nor of
an enumeration for which the bean holds no text. -/

namespace EntitySql
variable {n : Nat} {σ : Type}

/-- The values that a column of the type is for; null fits any column. -/
def SqlType.admits : SqlType → Value → Bool
  | varchar, .string _ | uuid, .uuid _ | boolean, .boolean _ | timestamp, .timestamp _ | date, .date _
  | decimal, .decimal _ | real, .float _ | double, .double _ | binary, .bytes _ => true
  | bigint, .int k | bigint, .long k => Json.fitsLong k
  | int, .int k | int, .long k => Value.fitsInt k
  | tinyint, .int k | tinyint, .long k => -128 ≤ k && k ≤ 127
  | _, _ => false

/-- Lists and objects are no parameters of statements. -/
def Value.isCompound : Value → Bool
  | list _ | object _ => true
  | _ => false

theorem SqlType.not_compound_of_admits {t : SqlType} {v : Value} (h : t.admits v = true) :
    v.isCompound = false := by
  cases v with
  | list | object => cases t <;> cases h
  | _ => rfl

/-- What a value of the data type is in a column of the SQL type. -/
inductive DataType.FitsIn (type : DataType) (t : SqlType) : Value → Prop
  | null : FitsIn type t .null
  | admitted {v : Value} (h : t.admits v = true) : FitsIn type t v
  | small {k : Int} (htype : type = .short ∨ type = .byte) (ht : t = .tinyint)
    (hk : Value.fitsInt k = true) : FitsIn type t (.int k)
  | letter {text : String} (htype : type = .character) (ht : t = .int) : FitsIn type t (.string text)

theorem DataType.FitsIn.not_compound {type : DataType} {t : SqlType} {v : Value} (h : type.FitsIn t v) :
    v.isCompound = false := by
  cases h with
  | admitted h => exact SqlType.not_compound_of_admits h
  | _ => rfl

/-- A document is converted to what the column of its type is for. -/
theorem Value.ofJson_fitsIn {document : Json} {type : DataType} {t : SqlType} {v : Value}
    (h : ofJson document type = .ok v) (ht : type.sqlType? = some t) : type.FitsIn t v := by
  rcases ofJson_eq_ok h with rfl | h
  · exact .null
  cases type with
  | string | boolean | uuid | timestamp | date | bigDecimal | float | double | byteArray =>
    obtain rfl := Option.some.inj ht
    simp only [ofPresent?, Option.map_eq_some_iff] at h
    obtain ⟨_, -, rfl⟩ := h
    exact .admitted rfl
  | character =>
    obtain rfl := Option.some.inj ht
    simp only [ofPresent?, Option.map_eq_some_iff] at h
    obtain ⟨text, -, rfl⟩ := h
    exact .letter rfl rfl
  | long =>
    obtain rfl := Option.some.inj ht
    simp only [ofPresent?, Option.map_eq_some_iff] at h
    obtain ⟨k, hk, rfl⟩ := h
    exact .admitted (asLong?_eq_some hk).1
  | integer =>
    obtain rfl := Option.some.inj ht
    simp only [ofPresent?, Option.map_eq_some_iff, Option.filter_eq_some_iff] at h
    obtain ⟨k, ⟨-, hk⟩, rfl⟩ := h
    exact .admitted hk
  | short | byte =>
    obtain rfl := Option.some.inj ht
    simp only [ofPresent?, Option.map_eq_some_iff, Option.filter_eq_some_iff] at h
    obtain ⟨k, ⟨-, hk⟩, rfl⟩ := h
    exact .small (by simp) rfl hk
  | json | entity | object => cases ht

/-! ### Types of columns -/

namespace Schema
variable {s : Schema n} {e owner : Entity n} {p : Property n} {t : SqlType} {fuel : Nat}

/-- The type that a column of the property is bound by: for a reference the one of the target's identity. -/
def boundType? (s : Schema n) (p : Property n) : Option DataType :=
  match p.association? with
  | some a => (s.target a).identity.map (·.type)
  | none => some p.type

theorem type_of_association {a : Association n} (ha : p.association? = some a) : p.type = .entity := by
  unfold Property.association? at ha
  unfold Property.type
  split at ha
  · cases ha
  · rfl

/-- The type of a column is the one of its data type, text for an enumeration, or the type of the identity
that the column refers to. -/
theorem columnTypeWithin_sql (h : s.columnTypeWithin fuel owner p = .ok (.sql t)) :
    (p.association? = none ∧ p.type.sqlType? = some t) ∨
    (p.association? = none ∧ p.type.sqlType? = none ∧ t = .varchar ∧ (p.type = .entity ∨ p.type = .object)) ∨
    ∃ a identity fuel', p.association? = some a ∧ (s.target a).identity = some identity ∧
      s.columnTypeWithin fuel' (s.target a) identity = .ok (.sql t) := by
  cases fuel with
  | zero => cases h
  | succ fuel =>
    unfold columnTypeWithin at h
    split at h
    · cases h
    split at h
    · next type htype =>
      obtain rfl : type = t := by simpa using h
      cases ha : p.association? with
      | none => exact .inl ⟨rfl, htype⟩
      | some a => simp [type_of_association ha, DataType.sqlType?] at htype
    next hnone =>
    dsimp only at h
    split at h
    · next a hcontent =>
      split at h
      · next identity hidentity =>
        exact .inr (.inr ⟨a, identity, fuel, by simp [Property.association?, hcontent], hidentity, h⟩)
      · cases h
    · cases h
    · next type hjson hcontent =>
      split at h
      · have htype : p.type = type := by simp [Property.type, hcontent]
        refine .inr (.inl ⟨by simp [Property.association?, hcontent], hnone, by simpa [eq_comm] using h, ?_⟩)
        rw [htype] at hnone ⊢
        cases type with
        | entity => exact .inl rfl
        | object => exact .inr rfl
        | json => exact absurd rfl hjson
        | _ => cases hnone
      · cases h

/-- A column is declared with the column type of the data type it is bound by, where that has one. -/
theorem sqlType_of_columnType {type : DataType} {t' : SqlType}
    (h : s.columnTypeWithin fuel owner p = .ok (.sql t)) (htype : s.boundType? p = some type)
    (ht' : type.sqlType? = some t') : t = t' := by
  have hplain : ∀ {fuel owner} {p : Property n}, s.columnTypeWithin fuel owner p = .ok (.sql t) →
      p.type.sqlType? = some t' → t = t' := by
    intro fuel owner p h ht'
    rcases columnTypeWithin_sql h with ⟨-, ht⟩ | ⟨-, hnone, -⟩ | ⟨a, -, -, ha, -⟩
    · exact Option.some.inj (ht.symm.trans ht')
    · cases hnone.symm.trans ht'
    · simp [type_of_association ha, DataType.sqlType?] at ht'
  rcases columnTypeWithin_sql h with ⟨ha, -⟩ | ⟨ha, -⟩ | ⟨a, identity, _, ha, hidentity, hinner⟩
  · obtain rfl : p.type = type := by simpa [boundType?, ha] using htype
    exact hplain h ht'
  · obtain rfl : p.type = type := by simpa [boundType?, ha] using htype
    exact hplain h ht'
  · obtain rfl : identity.type = type := by simpa [boundType?, ha, hidentity] using htype
    exact hplain hinner ht'

/-- A column with a type refers to an entity with an identity, if it refers to one. -/
theorem exists_boundType (h : s.columnTypeWithin fuel owner p = .ok (.sql t)) :
    ∃ type, s.boundType? p = some type := by
  rcases columnTypeWithin_sql h with ⟨ha, -⟩ | ⟨ha, -⟩ | ⟨a, identity, -, ha, hidentity, -⟩
  · exact ⟨p.type, by simp [boundType?, ha]⟩
  · exact ⟨p.type, by simp [boundType?, ha]⟩
  · exact ⟨identity.type, by simp [boundType?, ha, hidentity]⟩

end Schema

/-! ### Binding of one column -/

/-- A source that is bound without being written to: it is not populated and refers to nothing. -/
def ColumnSource.IsQuiet : ColumnSource n → Prop
  | .own p => p.autoPopulated = none ∧ p.association? = none
  | .inner .. => True

/-- The column is bound by a type that has columns, or the bean holds text for it, or nothing. -/
def Schema.BoundByType (s : Schema n) (c : Column n) (bean : Bean) : Prop :=
  ((s.boundType? c.property).bind (·.sqlType?)).isSome ∨
  c.property.association? = none ∧
    ((bean.document c.path).isNull ∨ (bean.document c.path).asText?.isSome)

instance (s : Schema n) (c : Column n) (bean : Bean) : Decidable (s.BoundByType c bean) :=
  inferInstanceAs (Decidable (_ ∨ _ ∧ (_ ∨ _)))

theorem Schema.BoundByType.cases {s : Schema n} {c : Column n} {bean : Bean} (h : s.BoundByType c bean) :
    (∃ type t, s.boundType? c.property = some type ∧ type.sqlType? = some t) ∨
    c.property.association? = none ∧
      (bean.document c.path = .null ∨ ∃ text, bean.document c.path = .string text) := by
  refine h.imp (fun htype => ?_) fun hdocument => ⟨hdocument.1, hdocument.2.imp (fun hnull => ?_) fun htext => ?_⟩
  · obtain ⟨t, ht⟩ := Option.isSome_iff_exists.1 htype
    obtain ⟨type, htype, ht⟩ := Option.bind_eq_some_iff.1 ht
    exact ⟨type, t, htype, ht⟩
  · cases hread : bean.document c.path with
    | null => rfl
    | _ => rw [hread] at hnull; cases hnull
  · cases hread : bean.document c.path with
    | string text => exact ⟨text, rfl⟩
    | _ => rw [hread] at htext; cases htext

theorem BeanM.mapM_keeps {α β : Type} {f : α → BeanM σ β} {as : List α} {bs : List β} {name : String}
    {state state' : BeanState σ} (hf : ∀ a ∈ as, ∀ state b state', (f a).Yields state b state' →
      state'.bean.read name = state.bean.read name)
    (h : (as.mapM f).Yields state bs state') : state'.bean.read name = state.bean.read name := by
  induction as generalizing state bs with
  | nil =>
    rw [List.mapM_nil] at h
    obtain ⟨-, rfl⟩ := BeanM.yields_pure.1 h
    rfl
  | cons a as ih =>
    rw [List.mapM_cons] at h
    simp only [BeanM.yields_bind, BeanM.yields_pure] at h
    obtain ⟨b, between, hfirst, bs, last, hrest, -, rfl⟩ := h
    rw [ih (fun a ha => hf a (List.mem_cons_of_mem _ ha)) hrest]
    exact hf a List.mem_cons_self _ _ _ hfirst

namespace BindContext
variable {ctx : BindContext n} {cascade : Cascade n σ} {e owner : Entity n} {p : Property n} {mode : BindMode}
  {t : SqlType} {fuel : Nat} {state state' : BeanState σ} {v : Value}

/-- What binding a property leaves for its column. -/
inductive Fits (ctx : BindContext n) (p : Property n) (t : SqlType) : Value → Prop
  | converted {type : DataType} {v : Value} (htype : ctx.schema.boundType? p = some type)
    (h : type.FitsIn t v) : Fits ctx p t v
  | time (hkind : p.autoPopulated = some .created ∨ p.autoPopulated = some .updated)
    (htimestamp : p.type ≠ .timestamp) (hdate : p.type ≠ .date) : Fits ctx p t (.timestamp ctx.now)

theorem Fits.not_compound (h : ctx.Fits p t v) : v.isCompound = false := by
  cases h with
  | converted _ h => exact h.not_compound
  | time => rfl

theorem scalar_fits {document : Json} (h : ctx.scalar p document = .ok v)
    (ht : ctx.schema.columnTypeWithin fuel owner p = .ok (.sql t)) (ha : p.association? = none)
    (hdocument : (∃ t', p.type.sqlType? = some t') ∨ document = .null ∨ ∃ text, document = .string text) :
    ctx.Fits p t v := by
  have hbound : ctx.schema.boundType? p = some p.type := by simp [Schema.boundType?, ha]
  refine .converted hbound ?_
  rcases Schema.columnTypeWithin_sql ht with ⟨-, htype⟩ | ⟨-, hnone, rfl, htype⟩ | ⟨a, -, -, ha', -⟩
  · rw [scalar, if_neg (by rintro hjson; simp [hjson, DataType.sqlType?] at htype)] at h
    exact Value.ofJson_fitsIn h htype
  · rw [scalar, if_neg (by rintro hjson; simp [hjson] at htype)] at h
    rcases hdocument with ⟨t', hsome⟩ | rfl | ⟨text, rfl⟩
    · cases hnone.symm.trans hsome
    · obtain rfl := Except.ok.inj h
      exact .null
    · rcases htype with htype | htype
      all_goals
        rw [htype] at h
        obtain rfl := Except.ok.inj h
        exact .admitted rfl
  · cases ha.symm.trans ha'

theorem fits_of_type {t' : SqlType} (ht : ctx.schema.columnTypeWithin fuel owner p = .ok (.sql t))
    (ht' : p.type.sqlType? = some t') (h : p.type.FitsIn t' v) : ctx.Fits p t v := by
  have hbound : ctx.schema.boundType? p = some p.type := by
    cases ha : p.association? with
    | none => simp [Schema.boundType?, ha]
    | some a => simp [Schema.type_of_association ha, DataType.sqlType?] at ht'
  obtain rfl := Schema.sqlType_of_columnType ht hbound ht'
  exact .converted hbound h

theorem currentTime_fits (hkind : p.autoPopulated = some .created ∨ p.autoPopulated = some .updated)
    (ht : ctx.schema.columnTypeWithin fuel owner p = .ok (.sql t)) : ctx.Fits p t (ctx.currentTime p) := by
  unfold currentTime
  by_cases hdate : p.type = .date
  · rw [if_pos hdate]
    exact fits_of_type ht (by rw [hdate]; rfl) (.admitted rfl)
  rw [if_neg hdate]
  by_cases htimestamp : p.type = .timestamp
  · exact fits_of_type ht (by rw [htimestamp]; rfl) (.admitted rfl)
  · exact .time hkind htimestamp hdate

theorem referred_fits {a : Association n} {document : Json} (ha : p.association? = some a)
    (ht : ctx.schema.columnTypeWithin fuel owner p = .ok (.sql t))
    (hbound : ∃ type t', ctx.schema.boundType? p = some type ∧ type.sqlType? = some t')
    (h : ctx.referred a document = .ok v) : ctx.Fits p t v := by
  obtain ⟨type, t', htype, ht'⟩ := hbound
  obtain ⟨identity, hidentity, hvalue⟩ := referred_eq_ok.1 h
  obtain rfl : identity.type = type := by simpa [Schema.boundType?, ha, hidentity] using htype
  refine .converted htype ?_
  rcases hvalue with ⟨object, -, hvalue⟩ | ⟨-, rfl⟩
  · exact Value.ofJson_fitsIn hvalue (Schema.sqlType_of_columnType ht htype ht' ▸ ht')
  · exact .null

/-- A property in an object that is embedded; null where the bean holds no object. -/
theorem innerValue_fits {sub : Property n} {bean : Bean}
    (ht : ctx.schema.columnTypeWithin fuel owner sub = .ok (.sql t))
    (hbound : (∃ type t', ctx.schema.boundType? sub = some type ∧ type.sqlType? = some t') ∨
      sub.association? = none ∧ ∀ fields, bean.read p.name = .object fields →
        Bean.read fields sub.name = .null ∨ ∃ text, Bean.read fields sub.name = .string text)
    (h : ctx.innerValue p sub bean = .ok v) : ctx.Fits sub t v := by
  obtain ⟨type, htype⟩ := Schema.exists_boundType ht
  unfold innerValue at h
  split at h
  · next fields hfields =>
    split at h
    · next a ha =>
      rcases hbound with hbound | ⟨hnone, -⟩
      · have hvalue : ctx.referred a (Bean.read fields sub.name) = .ok v := h
        exact referred_fits ha ht hbound hvalue
      · cases ha.symm.trans hnone
    · next ha =>
      refine scalar_fits h ht ha ?_
      rcases hbound with ⟨type', t', htype', ht'⟩ | ⟨-, hdocument⟩
      · obtain rfl : sub.type = type' := by simpa [Schema.boundType?, ha] using htype'
        exact .inl ⟨t', ht'⟩
      · exact .inr (hdocument fields hfields)
  · obtain rfl := Except.ok.inj h
    exact .converted htype .null

theorem bindOwn_fits (ht : ctx.schema.columnTypeWithin fuel owner p = .ok (.sql t))
    (hbound : (∃ type t', ctx.schema.boundType? p = some type ∧ type.sqlType? = some t') ∨
      p.association? = none ∧ (p.autoPopulated = none →
        state.bean.read p.name = .null ∨ ∃ text, state.bean.read p.name = .string text))
    (h : (ctx.bindOwn cascade .insert p).Yields state v state') : ctx.Fits p t v := by
  have hreferred : ∀ a document, p.association? = some a → ctx.referred a document = .ok v →
      ctx.Fits p t v := by
    intro a document ha hvalue
    rcases hbound with hbound | ⟨hnone, -⟩
    · exact referred_fits ha ht hbound hvalue
    · cases ha.symm.trans hnone
  have huuid : p.type = .uuid → p.type.sqlType? = some .uuid := by
    intro htype
    rw [htype]
    rfl
  cases ownStep_of_yields h with
  | stamped hkind => exact currentTime_fits (hkind.symm.imp_left And.left) ht
  | drawn _ htype => exact fits_of_type ht (huuid htype) (.admitted rfl)
  | persisted _ ha _ _ _ _ _ _ hvalue => exact hreferred _ _ ha hvalue
  | read hvalue hkept =>
    unfold held at hvalue
    split at hvalue
    · next kind hkind =>
      -- an INSERT reads of the populated properties only an identifier that is set
      rw [IsKept, hkind] at hkept
      cases kind with
      | created => cases hkept
      | updated | custom => exact hkept.elim
      | generated => exact fits_of_type ht (huuid hkept.1) (Value.ofJson_fitsIn hvalue (huuid hkept.1))
    · next a _ ha => exact hreferred a _ ha hvalue
    · next hkind ha =>
      refine scalar_fits hvalue ht ha ?_
      rcases hbound with ⟨type, t', htype, ht'⟩ | ⟨-, hdocument⟩
      · obtain rfl : p.type = type := by simpa [Schema.boundType?, ha] using htype
        exact .inl ⟨t', ht'⟩
      · exact .inr (hdocument hkind)

/-! ### Binding of all columns -/

/-- A property is bound without writing to another one, and to itself only if it is populated or refers. -/
theorem bindOwn_keeps {name : String}
    (hname : p.name = name → p.autoPopulated = none ∧ p.association? = none)
    (h : (ctx.bindOwn cascade mode p).Yields state v state') :
    state'.bean.read name = state.bean.read name := by
  by_cases heq : p.name = name
  · obtain ⟨hplain, hnone⟩ := hname heq
    cases ownStep_of_yields h with
    | read => rfl
    | stamped hkind => simp [Property.IsStamped, hplain] at hkind
    | drawn hkind => cases hplain.symm.trans hkind
    | persisted _ ha => cases hnone.symm.trans ha
  · rcases (ownStep_of_yields h).bean_eq with hbean | ⟨document, hbean⟩
    · rw [hbean]
    · rw [hbean]
      exact Bean.read_insert_of_ne heq _ _

/-- No column writes to the object or the property that a quiet source is in. -/
theorem bindSource_keeps (he : e.WellNamed) {c d : Column n} {source other : ColumnSource n}
    (hsource : ctx.schema.MadeFrom e c source) (hquiet : source.IsQuiet)
    (hother : ctx.schema.MadeFrom e d other)
    (h : (ctx.bindSource cascade mode other).Yields state v state') :
    state'.bean.read (pathOwner c.path) = state.bean.read (pathOwner c.path) := by
  cases other with
  | inner =>
    simp only [bindSource, BeanM.yields_bind, BeanM.yields_get, BeanM.yields_liftM] at h
    obtain ⟨_, _, ⟨-, rfl⟩, -, rfl⟩ := h
    rfl
  | own q =>
    obtain ⟨hq, -, hembedded, -⟩ := hother
    refine bindOwn_keeps (fun hname => ?_) h
    cases source with
    | own p =>
      obtain ⟨hp, -, -, hpath, -⟩ := hsource
      rw [hpath, pathOwner_of_dotless (he.dotless p hp)] at hname
      exact he.eq_of_name hq hp hname ▸ hquiet
    | inner owner a sub =>
      obtain ⟨howner, ha, -, hpath, -⟩ := hsource
      rw [hpath, pathOwner_inner (he.dotless owner howner)] at hname
      rw [he.eq_of_name hq howner hname, ha] at hembedded
      cases hembedded

/-- A column is bound to what fits it. The bean that it is bound from may not be the first one any more, but it
holds the same for the column. -/
theorem bindSource_fits (he : e.WellNamed) {c : Column n} {source : ColumnSource n} {initial : Bean}
    (hsource : ctx.schema.MadeFrom e c source) (ht : ctx.schema.columnType e c.property = .ok (.sql t))
    (hbound : ctx.schema.BoundByType c initial)
    (hkept : source.IsQuiet → state.bean.read (pathOwner c.path) = initial.read (pathOwner c.path))
    (h : (ctx.bindSource cascade .insert source).Yields state v state') : ctx.Fits c.property t v := by
  cases source with
  | own p =>
    obtain ⟨hp, -, -, hpath, -, hproperty⟩ := hsource
    rw [hproperty] at ht ⊢
    have hbound := hbound.cases
    rw [hpath, hproperty, Bean.document_of_dotless (he.dotless p hp)] at hbound
    refine bindOwn_fits ht (hbound.imp_right fun hdocument => ⟨hdocument.1, fun hpopulated => ?_⟩) h
    have hread := hkept ⟨hpopulated, hdocument.1⟩
    rw [hpath, pathOwner_of_dotless (he.dotless p hp)] at hread
    rw [hread]
    exact hdocument.2
  | inner owner a sub =>
    obtain ⟨howner, -, -, hpath, -, hproperty⟩ := hsource
    have hread := hkept trivial
    rw [hpath, pathOwner_inner (he.dotless owner howner)] at hread
    rw [hproperty] at ht ⊢
    have hbound := hbound.cases
    rw [hpath, hproperty] at hbound
    simp only [bindSource, BeanM.yields_bind, BeanM.yields_get, BeanM.yields_liftM] at h
    obtain ⟨_, _, ⟨rfl, rfl⟩, hvalue, rfl⟩ := h
    refine innerValue_fits ht (hbound.imp_right fun hdocument => ⟨hdocument.1, fun fields hfields => ?_⟩) hvalue
    rw [hread] at hfields
    rw [Bean.document_inner (he.dotless owner howner) hfields] at hdocument
    exact hdocument.2

/-- Entries and transfers of users, for examples. A transfer has two notes of one name, an account that is
identified by its user, and a payer with two nicknames of one name; one more is the transfer's own. -/
def ledger : BindContext 4 where
  schema :=
    { entity := fun
        | 0 => {
          name := "Entry"
          identity := some { name := "id", content := .scalar .long }
          properties := [
            { name := "grade", content := .scalar .short },
            { name := "letter", content := .scalar .character },
            { name := "made", content := .scalar .long, autoPopulated := some .created },
            { name := "status", content := .scalar .object, enumerated := true },
            { name := "user", content := .association { kind := .manyToOne, target := Fin.last 3 } }] }
        | 1 => {
          name := "Transfer"
          identity := some { name := "id", content := .scalar .long }
          properties := [
            { name := "account", content := .association { kind := .manyToOne, target := (Fin.last 2).castSucc } },
            { name := "tags", content := .scalar .object, enumerated := true },
            { name := "note", content := .scalar .string },
            { name := "note", content := .scalar .long, column := some "note_number" },
            { name := "payer", content := .association { kind := .embedded, target := Fin.last 3 } },
            { name := "payer.nick", content := .scalar .long, column := some "nick_number" }] }
        | 2 => {
          name := "Account"
          identity := some { name := "user", content := .association { kind := .manyToOne, target := Fin.last 3 } } }
        | 3 => {
          name := "User"
          identity := some { name := "id", content := .scalar .uuid }
          properties := [
            { name := "nick", content := .scalar .string },
            { name := "nick", content := .scalar .integer, column := some "rank" }] } }
  codec := .json
  now := .newYear
  freshId k := ⟨BitVec.ofNat 128 k⟩

def someUser : Json := .object [("id", .string "00000000-0000-0000-0000-0000000000aa")]

def someEntry : Bean :=
  [("grade", .int 300), ("id", .int 1), ("letter", .string "x"), ("status", .string "open"),
    ("user", someUser)]

def someTransfer : Bean :=
  [("account", .object [("user", someUser)]), ("id", .int 1), ("note", .string "rent"),
    ("payer", .object [("nick", .string "Al")]), ("tags", .array [.string "a"])]

/-- Binding without a cascade to what is referred to. -/
def bindAlone (ctx : BindContext n) (e : Entity n) (paths : List String) (bean : Bean) :
    Except Error (List Value) :=
  ((ctx.bind (fun _ => pure ()) e .insert paths).run { bean := bean, drawn := 0, outer := () }).1

end BindContext

end EntitySql
