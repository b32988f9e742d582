import EntitySql.Proofs.Outcome
import EntitySql.Proofs.Statement.TextBehindTokens
import EntitySql.Query.Select

/-! # Columns in tokens

A token ends with the first closing bracket behind its start, and a text is searched for tokens until it has
none. So a token becomes the comparison of its column with a list if, and only if, the column holds no closing
bracket and no token starts in it; the second does not matter where the list is empty, since the column is
dropped (`expandTokens_inToken`). -/

namespace EntitySql
variable {query : String} {sizes ignored : List Nat} {column front more : List Char} {slot size : Nat}
  {x : Expansion}

/-! ### Comparisons with a list -/

theorem TokenFree.of_dollarless {text : List Char} (h : '$' ∉ text) : TokenFree text :=
  tokenFree_iff.2 (Tokenless.of_dollarless h).contains_inTokenStart

/-- A part of a text without tokens has none. -/
theorem TokenFree.of_append (front more : List Char) (h : TokenFree (front ++ (column ++ more))) :
    TokenFree column := by
  intro before after hcolumn
  exact h (front ++ before) (after ++ more) (by rw [hcolumn]; simp [List.append_assoc])

theorem inText_ne_nil (column : List Char) (size : Nat) : inText column size ≠ [] := by
  unfold inText
  split <;> simp

theorem inText_zero (column : List Char) : inText column 0 = "1 = 2".toList := rfl

theorem inText_of_ne_zero (column : List Char) (hsize : size ≠ 0) :
    inText column size = column ++ ' ' :: ("IN(".toList ++ marks size ++ [')']) := by
  rw [inText, if_neg hsize]
  simp [List.append_assoc]

/-- A token in the comparison is a token in the column. -/
theorem tokenFree_inText : TokenFree (inText column size) ↔ size = 0 ∨ TokenFree column := by
  by_cases hsize : size = 0
  · subst hsize
    rw [inText_zero]
    exact iff_of_true (by decide) (.inl rfl)
  · have hlist : TokenFree ("IN(".toList ++ marks size ++ [')']) :=
      .of_dollarless (by simp [dollar_notMem_marks])
    rw [inText_of_ne_zero column hsize, or_iff_right hsize]
    exact ⟨fun h => .of_append [] _ h, fun h => h.append_cons (by decide) hlist⟩

/-! ### All tokens -/

/-- What is kept when the first token becomes a comparison holds of the expanded text, which has no token. -/
theorem expandTokens_induction {P : List Char → Prop} (query : String) (sizes : List Nat)
    (hstep : ∀ text t size, P text → TokenScan.ofText text = .found t → P (t.replace size))
    {text : List Char} (ignored : List Nat) (htext : P text)
    (h : expandTokens query sizes text ignored = .ok x) : P x.text ∧ TokenFree x.text := by
  cases ht : TokenScan.ofText text with
  | absent =>
    rw [expandTokens_of_absent ht] at h
    obtain rfl := Except.ok.inj h
    exact ⟨htext, tokenFree_iff.2 (TokenScan.ofText_eq_absent_iff.1 ht)⟩
  | malformed =>
    rw [expandTokens_of_malformed ht] at h
    cases h
  | found t =>
    cases hsize : sizes[t.slot]? with
    | none =>
      rw [expandTokens_of_missing ht (List.getElem?_eq_none_iff.1 hsize)] at h
      cases h
    | some size =>
      have := count_replaceToken_lt ht size
      rw [expandTokens_of_found ht hsize] at h
      exact expandTokens_induction query sizes hstep _ (hstep text t size htext ht) h
termination_by text.count ':'

theorem tokenFree_of_expandTokens {text : List Char} (h : expandTokens query sizes text ignored = .ok x) :
    TokenFree x.text :=
  (expandTokens_induction (P := fun _ => True) query sizes (fun _ _ _ _ _ => trivial) ignored trivial h).2

/-- A token starts with a question mark, so it stands behind all that has none. -/
theorem TokenScan.front_of_found {t : FoundToken} (hfront : '?' ∉ front)
    (h : ofText (front ++ more) = found t) : ∃ before, t.before = front ++ before := by
  obtain ⟨digits, -, htext⟩ := eq_append_of_found h
  simp only [List.append_assoc] at htext
  rcases List.append_eq_append_iff.1 htext with ⟨before, hbefore, -⟩ | ⟨rest, hrest, hstart⟩
  · exact ⟨before, hbefore⟩
  · cases rest with
    | nil => exact ⟨[], by simpa using hrest.symm⟩
    | cons c rest =>
      have hc : c = '?' := by simpa [inTokenStart] using (congrArg List.head? hstart).symm
      exact absurd (by simp [hrest, hc]) hfront

/-- What stands in front stays, and what stands behind it does not vanish: every token becomes some text. -/
theorem exists_of_expandTokens (hfront : '?' ∉ front) (hmore : more ≠ [])
    (h : expandTokens query sizes (front ++ more) ignored = .ok x) :
    ∃ rest, rest ≠ [] ∧ x.text = front ++ rest := by
  refine (expandTokens_induction (P := fun text => ∃ rest, rest ≠ [] ∧ text = front ++ rest) query sizes
    (fun text t size htext ht => ?_) ignored ⟨more, hmore, rfl⟩ h).1
  obtain ⟨rest, -, rfl⟩ := htext
  obtain ⟨before, hbefore⟩ := TokenScan.front_of_found hfront ht
  refine ⟨before ++ (inText t.column size ++ t.after), by simp [inText_ne_nil], ?_⟩
  rw [FoundToken.replace, hbefore]
  simp [List.append_assoc]

/-! ### One token -/

theorem toList_inToken_close (slot : Nat) (column more : List Char) :
    (inToken slot (String.ofList (column ++ ')' :: more))).toList =
      [] ++ ((inToken slot (String.ofList column)).toList ++ (more ++ [')'])) := by
  simp [inToken]

/-- The token ends with the first bracket that closes in its column. What is left of the column stands behind
the comparison. -/
theorem expandTokens_close (hsize : sizes[slot]? = some size) (hslot : slot < Text.indexBound)
    (hcolumn : ')' ∉ column) :
    expandTokens query sizes (inToken slot (String.ofList (column ++ ')' :: more))).toList ignored =
      expandTokens query sizes (inText column size ++ (more ++ [')']))
        (if size = 0 then slot :: ignored else ignored) := by
  have hfound : TokenScan.ofText ([] ++ ((inToken slot (String.ofList column)).toList ++ (more ++ [')']))) =
      .found ⟨[], slot, column, more ++ [')']⟩ :=
    TokenScan.ofText_token (.of_unmarked List.not_mem_nil) hslot hcolumn
  rw [toList_inToken_close, expandTokens_of_found hfound hsize]
  rfl

theorem expandTokens_open (hsize : sizes[slot]? = some size) (hslot : slot < Text.indexBound)
    (hcolumn : ')' ∉ column) :
    expandTokens query sizes (inToken slot (String.ofList column)).toList ignored =
      expandTokens query sizes (inText column size) (if size = 0 then slot :: ignored else ignored) := by
  have hfound : TokenScan.ofText ([] ++ ((inToken slot (String.ofList column)).toList ++ [])) =
      .found ⟨[], slot, column, []⟩ := TokenScan.ofText_token (.of_unmarked List.not_mem_nil) hslot hcolumn
  rw [List.append_nil, List.nil_append] at hfound
  rw [expandTokens_of_found hfound hsize]
  simp [FoundToken.replace]

theorem expandTokens_of_tokenFree {text : List Char} (h : TokenFree text) :
    expandTokens query sizes text ignored = .ok ⟨text, ignored⟩ :=
  expandTokens_of_absent (TokenScan.ofText_eq_absent_iff.2 (tokenFree_iff.1 h))

/-- A column with a closing bracket is cut there. -/
theorem notMem_of_expandTokens (hsize : sizes[slot]? = some size) (hslot : slot < Text.indexBound)
    (h : expandTokens query sizes (inToken slot (String.ofList column)).toList ignored = .ok x)
    (htext : x.text = inText column size) : ')' ∉ column := by
  intro hclose
  obtain ⟨inside, rest, rfl, hinside⟩ := List.eq_append_cons_of_mem hclose
  rw [expandTokens_close hsize hslot hinside] at h
  by_cases hzero : size = 0
  · -- nothing of the column is meant to be left, but the rest of it is
    subst hzero
    rw [inText_zero] at h htext
    obtain ⟨left, hleft, hx⟩ := exists_of_expandTokens (by decide) (by simp) h
    rw [htext] at hx
    exact hleft (List.self_eq_append_right.1 hx)
  · -- the rest of the column is meant to stand in front of the list, but stands behind it
    have hfree : TokenFree (inside ++ ')' :: rest) :=
      (tokenFree_inText.1 (htext ▸ tokenFree_of_expandTokens h)).resolve_left hzero
    have hshape : inText inside size ++ (rest ++ [')']) =
        inside ++ ' ' :: ("IN(".toList ++ marks size ++ ')' :: (rest ++ [')'])) := by
      rw [inText_of_ne_zero inside hzero]
      simp [List.append_assoc]
    have hparts : TokenFree (inText inside size ++ (rest ++ [')'])) := by
      have hrest : TokenFree (rest ++ [')']) :=
        TokenFree.append_cons (.of_append (inside ++ [')']) [] (by simpa using hfree)) (by decide) (by decide)
      rw [hshape]
      refine TokenFree.append_cons (.of_append [] _ hfree) (by decide) ?_
      exact TokenFree.append_cons (.of_dollarless (by simp [dollar_notMem_marks])) (by decide) hrest
    rw [expandTokens_of_tokenFree hparts] at h
    obtain rfl := Except.ok.inj h
    have hnext : inside ++ ' ' :: ("IN(".toList ++ marks size ++ ')' :: (rest ++ [')'])) =
        inside ++ ')' :: (rest ++ ' ' :: ("IN(".toList ++ marks size ++ [')'])) := by
      refine hshape.symm.trans (htext.trans ?_)
      rw [inText_of_ne_zero _ hzero, List.append_assoc, List.cons_append]
    cases List.append_cancel_left hnext

/-- A token alone becomes the comparison of its column with the list in its slot exactly when the column holds
no closing bracket and, unless the list is empty, no start of a token. -/
theorem expandTokens_inToken {values : List Value} {value : Value} (hvalue : values[slot]? = some value)
    (hbound : values.length ≤ Text.indexBound) (query column : String) :
    ((expandTokens query (values.map (·.inSize)) (inToken slot column).toList []).map (·.text) =
        .ok (inText column.toList value.inSize) ↔
      ')' ∉ column.toList ∧ (value.inSize = 0 ∨ TokenFree column.toList)) ∧
    (')' ∉ column.toList ∧ (value.inSize = 0 ∨ TokenFree column.toList) →
      expandTokens query (values.map (·.inSize)) (inToken slot column).toList [] =
        .ok ⟨inText column.toList value.inSize, if value.inSize = 0 then [slot] else []⟩) := by
  obtain ⟨column, rfl⟩ : ∃ cs, column = String.ofList cs := ⟨column.toList, by rw [String.ofList_toList]⟩
  have hsize : (values.map (·.inSize))[slot]? = some value.inSize := by rw [List.getElem?_map, hvalue]; rfl
  have hslot : slot < Text.indexBound :=
    Nat.lt_of_lt_of_le (List.getElem?_eq_some_iff.1 hvalue).1 hbound
  rw [String.toList_ofList]
  have hplain : ')' ∉ column ∧ (value.inSize = 0 ∨ TokenFree column) →
      expandTokens query (values.map (·.inSize)) (inToken slot (String.ofList column)).toList [] =
        .ok ⟨inText column value.inSize, if value.inSize = 0 then [slot] else []⟩ := by
    rintro ⟨hclose, hfree⟩
    rw [expandTokens_open hsize hslot hclose, expandTokens_of_tokenFree (tokenFree_inText.2 hfree)]
  refine ⟨⟨fun hexpanded => ?_, fun h => by rw [hplain h]; rfl⟩, hplain⟩
  obtain ⟨x, hx, htext⟩ := Outcome.map_eq_ok.1 hexpanded
  exact ⟨notMem_of_expandTokens hsize hslot hx htext,
    tokenFree_inText.1 (htext ▸ tokenFree_of_expandTokens hx)⟩

/-- A column with a question mark, a colon and an opening bracket, in the second slot. -/
theorem expandTokens_inToken_whom :
    let values : List Value := [.long 7, .list [.string "Ada", .string "Emma"]]
    values[1]? = some (.list [.string "Ada", .string "Emma"]) ∧ values.length ≤ Text.indexBound ∧
    expandTokens "" (values.map (·.inSize)) (inToken 1 "letter_.\x60to: whom? (\x60").toList [] =
      .ok ⟨"letter_.\x60to: whom? (\x60 IN(?,?)".toList, []⟩ := by
  intro values
  have hvalue : values[1]? = some (.list [.string "Ada", .string "Emma"]) := rfl
  have hbound : values.length ≤ Text.indexBound := by decide
  exact ⟨hvalue, hbound, (expandTokens_inToken hvalue hbound "" _).2 (by decide)⟩

/-- Books with their English titles. -/
def englishTitles : Schema 1 where
  entity _ := {
    name := "Book"
    escape := true
    identity := some { name := "id", content := .scalar .long }
    properties := [{ name := "title", content := .scalar .string, column := some "title (en)" }] }

/-- A bracket in the name of a column ends the token: what is left of the name stands behind the list, or behind
the comparison that never holds. -/
theorem expandTokens_cutsColumn :
    let column := "book_.\x60title (en)\x60"
    let m : QueryModel 1 := {
      root := englishTitles.entity 0
      projection := .paths ["title"]
      criteria := [.isIn "title" (.argument 0)] }
    (∃ q, englishTitles.query m = .ok q ∧
      q.text = "SELECT " ++ column ++ " FROM \x60book\x60 book_ WHERE (" ++ inToken 0 column ++ ")") ∧
    expandTokens "" [2] (inToken 0 column).toList [] = .ok ⟨"book_.\x60title (en IN(?,?)\x60)".toList, []⟩ ∧
    inText column.toList 2 ≠ "book_.\x60title (en IN(?,?)\x60)".toList ∧
    expandTokens "" [0] (inToken 0 column).toList [] = .ok ⟨"1 = 2\x60)".toList, [0]⟩ ∧
    inText column.toList 0 ≠ "1 = 2\x60)".toList := by
  intro column m
  have hcompiled : (englishTitles.query m).toOption.map (·.text) =
      some ("SELECT " ++ column ++ " FROM \x60book\x60 book_ WHERE (" ++ inToken 0 column ++ ")") := by
    decide +kernel
  obtain ⟨q, hq, htext⟩ := Option.map_eq_some_iff.1 hcompiled
  have hcolumn : column = String.ofList ("book_.\x60title (en".toList ++ ')' :: "\x60".toList) := by decide
  refine ⟨⟨q, Outcome.eq_ok_of_toOption hq, htext⟩, ?_, by decide, ?_, by decide⟩
  · rw [hcolumn, expandTokens_close rfl (by decide) (by decide), expandTokens_of_tokenFree (by decide)]
    rfl
  · rw [hcolumn, expandTokens_close rfl (by decide) (by decide), expandTokens_of_tokenFree (by decide)]
    rfl

end EntitySql
