import EntitySql.Statement.Insert
import EntitySql.Text.Split
import Mathlib.Data.List.Nodup

/-! # Columns and their properties

Where the columns of an entity come from (`Schema.origin_of_mem`), when its names are distinct and
have no dot. The path of a column is the name of its property, or leads into the property's object;
so no column has the path of another's property (`Schema.pairwise_apart`). -/

namespace EntitySql
variable {n : Nat}

/-- The properties of an entity have distinct names without dots. -/
structure Entity.WellNamed (e : Entity n) : Prop where
  nodup : ((e.properties ++ e.identity.toList).map (·.name)).Nodup
  dotless : ∀ p ∈ e.properties ++ e.identity.toList, '.' ∉ p.name.toList

theorem find?_eq_of_nodup_map {α β : Type} [DecidableEq β] {f : α → β} {l : List α}
    (h : (l.map f).Nodup) {a : α} (ha : a ∈ l) : l.find? (f · = f a) = some a := by
  induction l with
  | nil => simp at ha
  | cons b l ih =>
    rw [List.map_cons, List.nodup_cons] at h
    rcases List.mem_cons.1 ha with rfl | ha
    · simp
    · have hne : f b ≠ f a := fun heq => h.1 (heq ▸ List.mem_map_of_mem ha)
      rw [List.find?_cons_of_neg (by simpa using hne), ih h.2 ha]

namespace Entity.WellNamed
variable {e : Entity n} {p q : Property n}

theorem property?_name (h : e.WellNamed) (hp : p ∈ e.properties ++ e.identity.toList) :
    e.property? p.name = some p :=
  find?_eq_of_nodup_map h.nodup hp

theorem find?_name (h : e.WellNamed) (hp : p ∈ e.properties) :
    e.properties.find? (·.name = p.name) = some p := by
  have hnodup := h.nodup
  rw [List.map_append] at hnodup
  exact find?_eq_of_nodup_map (List.Nodup.of_append_left hnodup) hp

theorem eq_of_name (h : e.WellNamed) (hp : p ∈ e.properties ++ e.identity.toList)
    (hq : q ∈ e.properties ++ e.identity.toList) (hname : p.name = q.name) : p = q :=
  List.inj_on_of_nodup_map h.nodup hp hq hname

theorem name_ne_identity (h : e.WellNamed) (hp : p ∈ e.properties)
    (hidentity : e.identity = some q) : p.name ≠ q.name := by
  have hnodup := h.nodup
  rw [List.map_append, hidentity] at hnodup
  have hdisjoint := List.disjoint_of_nodup_append hnodup
  intro heq
  exact hdisjoint (List.mem_map_of_mem hp) (by simp [heq])

end Entity.WellNamed

theorem Entity.identity_of_required {e : Entity n} {identity : Property n}
    (h : e.requiredIdentity = .ok identity) : e.identity = some identity := by
  unfold requiredIdentity at h
  split at h
  · next heq => rw [heq, Except.ok.inj h]
  · cases h

/-- The property that a path starts from. -/
def pathOwner (path : String) : String :=
  match Text.cutFirst '.' path.toList with
  | none => path
  | some (name, _) => String.ofList name

theorem pathOwner_of_dotless {path : String} (h : '.' ∉ path.toList) : pathOwner path = path := by
  rw [pathOwner, Text.cutFirst_eq_none h]

theorem cutFirst_inner {name : String} (h : '.' ∉ name.toList) (sub : String) :
    Text.cutFirst '.' (name ++ "." ++ sub).toList = some (name.toList, sub.toList) := by
  have htext : (name ++ "." ++ sub).toList = name.toList ++ '.' :: sub.toList := by simp
  rw [htext, Text.cutFirst_of_notMem h]

theorem pathOwner_inner {name : String} (h : '.' ∉ name.toList) (sub : String) :
    pathOwner (name ++ "." ++ sub) = name := by
  rw [pathOwner, cutFirst_inner h]
  exact String.ofList_toList

namespace Schema
variable {s : Schema n} {e : Entity n} {c : Column n}

/-- The property that a column belongs to: its own, or the owner of an embedded entity. -/
inductive ColumnOrigin (s : Schema n) (e : Entity n) (c : Column n) : Prop
  | plain {p : Property n} (hp : p ∈ e.properties ++ e.identity.toList)
    (hforeign : p.isForeignKey = false) (hembedded : p.embedded? = none) (hpath : c.path = p.name)
    (hproperty : c.property = p) (hidentity : c.identity = true → e.identity = some p)
    (hother : c.identity = false → p ∈ e.properties)
  | inner {p sub : Property n} {a : Association n} (hp : p ∈ e.properties ++ e.identity.toList)
    (hembedded : p.embedded? = some a) (hsub : sub ∈ (s.target a).properties)
    (hpath : c.path = p.name ++ "." ++ sub.name) (hproperty : c.property = sub)
    (hidentity : c.identity = true → e.identity = some p)

theorem mem_columnsOf {identity : Bool} {p : Property n} (h : c ∈ s.columnsOf e identity p) :
    p.isForeignKey = false ∧ c.identity = identity ∧
      (p.embedded? = none ∧ c.path = p.name ∧ c.property = p ∨
        ∃ a sub, p.embedded? = some a ∧ sub ∈ (s.target a).properties ∧
          c.path = p.name ++ "." ++ sub.name ∧ c.property = sub) := by
  unfold columnsOf at h
  split at h
  · simp at h
  next hforeign =>
    refine ⟨by simpa using hforeign, ?_⟩
    split at h
    · next a hembedded =>
      obtain ⟨sub, hsub, rfl⟩ := List.mem_map.1 h
      exact ⟨rfl, .inr ⟨a, sub, hembedded, hsub, rfl, rfl⟩⟩
    · next hembedded =>
      obtain rfl := List.mem_singleton.1 h
      exact ⟨rfl, .inl ⟨hembedded, rfl, rfl⟩⟩

/-- The columns that are not of the identity stand in front. -/
theorem columns_eq_append (s : Schema n) (e : Entity n) :
    ∃ others, s.columns e = others ++ e.identity.toList.flatMap (s.columnsOf e true) ∧
      ∀ c ∈ others, c.identity = false := by
  refine ⟨_, rfl, fun c hc => ?_⟩
  obtain ⟨p, -, hc⟩ := List.mem_flatMap.1 hc
  exact (mem_columnsOf hc).2.1

theorem origin_of_mem (h : c ∈ s.columns e) : s.ColumnOrigin e c := by
  have horigin : ∀ (identity : Bool) (p : Property n), c ∈ s.columnsOf e identity p →
      p ∈ e.properties ++ e.identity.toList → (identity = true → e.identity = some p) →
      (identity = false → p ∈ e.properties) → s.ColumnOrigin e c := by
    intro identity p hc hp hidentity hother
    obtain ⟨hforeign, rfl, ⟨hembedded, hpath, hproperty⟩ | ⟨a, sub, hembedded, hsub, hpath, hproperty⟩⟩ :=
      mem_columnsOf hc
    · exact .plain hp hforeign hembedded hpath hproperty hidentity hother
    · exact .inner hp hembedded hsub hpath hproperty hidentity
  rcases List.mem_append.1 h with h | h
  · obtain ⟨p, hp, hc⟩ := List.mem_flatMap.1 h
    exact horigin false p hc (List.mem_append_left _ hp) (fun hfalse => nomatch hfalse) fun _ => hp
  · obtain ⟨p, hp, hc⟩ := List.mem_flatMap.1 h
    exact horigin true p hc (List.mem_append_right _ hp) (fun _ => Option.mem_toList.1 hp)
      fun htrue => nomatch htrue

theorem mem_columns_of_plain {p : Property n} (hp : p ∈ e.properties ++ e.identity.toList)
    (hforeign : p.isForeignKey = false) (hembedded : p.embedded? = none) :
    ∃ c ∈ s.columns e, c.path = p.name ∧ c.property = p := by
  rcases List.mem_append.1 hp with hp | hp
  · refine ⟨⟨p.name, e.quote (e.columnName p), p, false⟩, List.mem_append_left _ ?_, rfl, rfl⟩
    exact List.mem_flatMap.2 ⟨p, hp, by simp [columnsOf, hforeign, hembedded]⟩
  · refine ⟨⟨p.name, e.quote (e.columnName p), p, true⟩, List.mem_append_right _ ?_, rfl, rfl⟩
    exact List.mem_flatMap.2 ⟨p, hp, by simp [columnsOf, hforeign, hembedded]⟩

/-- A column with the name of a property is the property's own. -/
theorem property_of_path (he : e.WellNamed) {p : Property n} (hc : c ∈ s.columns e)
    (hp : p ∈ e.properties ++ e.identity.toList) (hpath : c.path = p.name) :
    c.property = p ∧ (c.identity = false → p ∈ e.properties) := by
  cases origin_of_mem hc with
  | @plain q hq hforeign hembedded hqpath hproperty hidentity hother =>
    obtain rfl := he.eq_of_name hq hp (hqpath.symm.trans hpath)
    exact ⟨hproperty, hother⟩
  | @inner q sub a hq hembedded hsub hqpath hproperty hidentity =>
    exact absurd (by rw [← hpath, hqpath]; simp) (he.dotless p hp)

/-- Neither column has the path of the other's property. -/
def Apart (c d : Column n) : Prop := c.path ≠ pathOwner d.path ∧ d.path ≠ pathOwner c.path

instance : Std.Symm (Apart : Column n → Column n → Prop) := ⟨fun _ _ => And.symm⟩

theorem path_of_mem {identity : Bool} {p : Property n} (hdot : '.' ∉ p.name.toList)
    (h : c ∈ s.columnsOf e identity p) :
    pathOwner c.path = p.name ∧ (c.path = p.name ∨ '.' ∈ c.path.toList) := by
  obtain ⟨-, -, ⟨-, hpath, -⟩ | ⟨a, sub, -, -, hpath, -⟩⟩ := mem_columnsOf h
  · rw [hpath]
    exact ⟨pathOwner_of_dotless hdot, .inl rfl⟩
  · rw [hpath]
    exact ⟨pathOwner_inner hdot sub.name, .inr (by simp)⟩

theorem apart_of_ne {identity identity' : Bool} {p q : Property n} {d : Column n}
    (hp : '.' ∉ p.name.toList) (hq : '.' ∉ q.name.toList) (hne : p.name ≠ q.name)
    (hc : c ∈ s.columnsOf e identity p) (hd : d ∈ s.columnsOf e identity' q) : Apart c d := by
  obtain ⟨hcowner, hcpath⟩ := path_of_mem hp hc
  obtain ⟨hdowner, hdpath⟩ := path_of_mem hq hd
  unfold Apart
  rw [hcowner, hdowner]
  constructor
  · rcases hcpath with heq | hdot
    · rw [heq]
      exact hne
    · exact fun heq => hq (heq ▸ hdot)
  · rcases hdpath with heq | hdot
    · rw [heq]
      exact hne.symm
    · exact fun heq => hp (heq ▸ hdot)

theorem pairwise_apart_columnsOf {identity : Bool} {p : Property n} (hdot : '.' ∉ p.name.toList) :
    (s.columnsOf e identity p).Pairwise Apart := by
  unfold columnsOf
  split
  · exact .nil
  split
  · refine List.pairwise_map.2 (List.pairwise_of_forall fun sub sub' => ?_)
    -- a path into the object of the property has a dot, and its owner has none
    have hinner : ∀ sub sub' : Property n,
        p.name ++ "." ++ sub.name ≠ pathOwner (p.name ++ "." ++ sub'.name) := by
      intro sub sub' heq
      rw [pathOwner_inner hdot] at heq
      exact hdot (heq ▸ by simp)
    exact ⟨hinner sub sub', hinner sub' sub⟩
  · exact List.pairwise_singleton _ _

/-- Columns are pairwise related, if those of one property are and those of two properties. -/
theorem pairwise_columns {R : Column n → Column n → Prop} (he : e.WellNamed)
    (hwithin : ∀ identity, ∀ p ∈ e.properties ++ e.identity.toList,
      (s.columnsOf e identity p).Pairwise R)
    (hacross : ∀ identity identity', ∀ p ∈ e.properties ++ e.identity.toList,
      ∀ q ∈ e.properties ++ e.identity.toList, p.name ≠ q.name →
        ∀ c ∈ s.columnsOf e identity p, ∀ d ∈ s.columnsOf e identity' q, R c d) :
    (s.columns e).Pairwise R := by
  obtain ⟨hproperties, hidentity, hnames⟩ := List.pairwise_append.1 (List.pairwise_map.1 he.nodup)
  have hleft : ∀ p ∈ e.properties, p ∈ e.properties ++ e.identity.toList :=
    fun p hp => List.mem_append_left _ hp
  have hright : ∀ p ∈ e.identity.toList, p ∈ e.properties ++ e.identity.toList :=
    fun p hp => List.mem_append_right _ hp
  refine List.pairwise_append.2 ⟨?_, ?_, ?_⟩
  · refine List.pairwise_flatMap.2 ⟨fun p hp => hwithin false p (hleft p hp), ?_⟩
    exact hproperties.imp_of_mem fun hp hq => hacross false false _ (hleft _ hp) _ (hleft _ hq)
  · refine List.pairwise_flatMap.2 ⟨fun p hp => hwithin true p (hright p hp), ?_⟩
    exact hidentity.imp_of_mem fun hp hq => hacross true true _ (hright _ hp) _ (hright _ hq)
  · intro c hc d hd
    obtain ⟨p, hp, hc⟩ := List.mem_flatMap.1 hc
    obtain ⟨q, hq, hd⟩ := List.mem_flatMap.1 hd
    exact hacross false true p (hleft p hp) q (hright q hq) (hnames p hp q hq) c hc d hd

theorem pairwise_apart_columns (h : e.WellNamed) : (s.columns e).Pairwise Apart := by
  refine pairwise_columns h (fun identity p hp => ?_) ?_
  · exact pairwise_apart_columnsOf (h.dotless p hp)
  · intro identity identity' p hp q hq hne c hc d hd
    exact apart_of_ne (h.dotless p hp) (h.dotless q hq) hne hc hd

theorem pairwise_apart (h : e.WellNamed) : (s.insertedColumns e).Pairwise Apart :=
  (pairwise_apart_columns h).filter _

end Schema

/-! ### What columns are made from -/

/-- What a column is made from: a property, or one of the properties that a property embeds. -/
inductive ColumnSource (n : Nat) where
  | own (p : Property n)
  | inner (owner : Property n) (a : Association n) (sub : Property n)

/-- The column is the one that is made from the source. -/
def Schema.MadeFrom (s : Schema n) (e : Entity n) (c : Column n) : ColumnSource n → Prop
  | .own p => p ∈ e.properties ++ e.identity.toList ∧ p.isForeignKey = false ∧ p.embedded? = none ∧
    c.path = p.name ∧ c.text = e.quote (e.columnName p) ∧ c.property = p
  | .inner owner a sub => owner ∈ e.properties ++ e.identity.toList ∧ owner.embedded? = some a ∧
    sub ∈ (s.target a).properties ∧ c.path = owner.name ++ "." ++ sub.name ∧
    c.text = e.quote (e.embeddedColumnName owner sub) ∧ c.property = sub

theorem Schema.exists_madeFrom {s : Schema n} {e : Entity n} {c : Column n} (h : c ∈ s.columns e) :
    ∃ source, s.MadeFrom e c source := by
  have hsource : ∀ (identity : Bool) (p : Property n), p ∈ e.properties ++ e.identity.toList →
      c ∈ s.columnsOf e identity p → ∃ source, s.MadeFrom e c source := by
    intro identity p hp hc
    unfold columnsOf at hc
    split at hc
    · simp at hc
    next hforeign =>
    split at hc
    · next a ha =>
      obtain ⟨sub, hsub, rfl⟩ := List.mem_map.1 hc
      exact ⟨.inner p a sub, hp, ha, hsub, rfl, rfl, rfl⟩
    · next hembedded =>
      obtain rfl := List.mem_singleton.1 hc
      exact ⟨.own p, hp, by simpa using hforeign, hembedded, rfl, rfl, rfl⟩
  rcases List.mem_append.1 h with h | h
  · obtain ⟨p, hp, hc⟩ := List.mem_flatMap.1 h
    exact hsource false p (List.mem_append_left _ hp) hc
  · obtain ⟨p, hp, hc⟩ := List.mem_flatMap.1 h
    exact hsource true p (List.mem_append_right _ hp) hc

theorem Schema.exists_sources {s : Schema n} {e : Entity n} {cs : List (Column n)}
    (h : cs ⊆ s.columns e) : ∃ sources, List.Forall₂ (s.MadeFrom e) cs sources ∧
      ∀ source ∈ sources, ∃ c ∈ s.columns e, s.MadeFrom e c source := by
  induction cs with
  | nil => exact ⟨[], .nil, by simp⟩
  | cons c cs ih =>
    have hc := h List.mem_cons_self
    obtain ⟨source, hsource⟩ := exists_madeFrom hc
    obtain ⟨sources, hsources, hall⟩ := ih fun d hd => h (List.mem_cons_of_mem c hd)
    refine ⟨source :: sources, .cons hsource hsources, ?_⟩
    exact List.forall_mem_cons.2 ⟨⟨c, hc, hsource⟩, hall⟩

/-- What each property of the entity embeds has names that can be told apart. -/
def Schema.EmbedsNamed (s : Schema n) (e : Entity n) : Prop :=
  ∀ p ∈ e.properties ++ e.identity.toList, ∀ a ∈ p.embedded?,
    ((s.target a).properties.map (·.name)).Nodup

instance (s : Schema n) (e : Entity n) : Decidable (s.EmbedsNamed e) :=
  inferInstanceAs (Decidable (∀ p ∈ _, ∀ a ∈ _, _))

theorem Schema.EmbedsNamed.property?_name {s : Schema n} {e : Entity n} (h : s.EmbedsNamed e)
    {owner sub : Property n} {a : Association n} (howner : owner ∈ e.properties ++ e.identity.toList)
    (ha : owner.embedded? = some a) (hsub : sub ∈ (s.target a).properties) :
    (s.target a).property? sub.name = some sub := by
  rw [Entity.property?, List.find?_append, find?_eq_of_nodup_map (h owner howner a ha) hsub]
  rfl

end EntitySql
