import AtlasTestOps.Core.CanonicalDigest

/-! When the digest computed in Python is the one that the database recomputes: exactly for the
payloads whose floats are written without an exponent and none of which is a negative zero. On one
value the two printers write one text, so everything else is a matter of what jsonb stores. -/

namespace Atlas

/-! ### One float -/

/-- The float is written in fixed notation and is no negative zero. -/
def PyFloat.Plain (x : PyFloat) : Prop := x.usesExponent = false ∧ (x.isZero → x.negative = false)

instance (x : PyFloat) : Decidable x.Plain := inferInstanceAs (Decidable (_ ∧ _))

/-- A literal tells its sign, its first digit and its tail. -/
theorem floatLiteral_inj {negative negative' : Bool} {head head' : Char} {tail tail' : List Char}
    {h₁ : head.isDigit = true} {h₂ : PyFloat.LiteralTail tail} {h₁' : head'.isDigit = true}
    {h₂' : PyFloat.LiteralTail tail'} :
    floatLiteral negative head tail h₁ h₂ = floatLiteral negative' head' tail' h₁' h₂' ↔
      negative = negative' ∧ head = head' ∧ tail = tail' := by
  have hminus : ∀ c : Char, c.isDigit = true → c ≠ '-' := by
    rintro c hc rfl
    exact absurd hc (by decide)
  unfold floatLiteral
  rw [FloatLiteral.mk.injEq]
  cases negative <;> cases negative' <;> simp [signText]
  · intro h
    exact absurd h (hminus _ h₁)
  · intro h
    exact absurd h.symm (hminus _ h₁')

theorem PyFloat.numericSign_eq_iff (x : PyFloat) :
    x.negative = x.numericSign ↔ (x.isZero → x.negative = false) := by
  unfold numericSign
  cases x.negative <;> cases x.isZero <;> simp

theorem PyFloat.exponent_ne_fixed {x : PyFloat} (hexp : x.usesExponent = true)
    (hsmall : ¬ 16 < x.point) (negative : Bool) : x.floatRepr ≠ fixedLiteral negative x := by
  have hpoint : x.point ≤ -4 := by
    simp only [usesExponent, decide_eq_true_eq] at hexp
    omega
  have hfirst : x.first ≠ 0 := fun h => by
    have := (x.zero h).2
    omega
  intro h
  unfold floatRepr at h
  rw [if_pos hexp, fixedLiteral, floatLiteral_inj] at h
  have hhead : x.fixedHead = '0' := if_pos (by omega)
  rw [hhead] at h
  have hzero : ∀ d : Fin 10, digitText d = '0' → d = 0 := by decide
  exact hfirst (hzero x.first h.2.1)

/-- The literal of a float survives the type numeric when it is plain, and only then. -/
theorem PyFloat.numeric_eq_iff (x : PyFloat) : x.numeric = .float x.floatRepr ↔ x.Plain := by
  unfold numeric
  by_cases hbig : 16 < x.point
  · have hexp : x.usesExponent = true := by simp [usesExponent, hbig]
    simp [hbig, Plain, hexp]
  · rw [if_neg hbig, Scalar.float.injEq]
    cases hexp : x.usesExponent with
    | true =>
      refine ⟨fun h => absurd h.symm (exponent_ne_fixed hexp hbig _), fun h => ?_⟩
      rw [h.1] at hexp
      cases hexp
    | false =>
      have hfixed : x.floatRepr = fixedLiteral x.negative x := by
        unfold floatRepr
        rw [hexp]
        rfl
      rw [hfixed, fixedLiteral, fixedLiteral, floatLiteral_inj]
      simp only [and_true, Plain, hexp, true_and]
      exact eq_comm.trans x.numericSign_eq_iff

/-! ### The two printers -/

theorem hex4_of_lt {n : ℕ} (h : n < 32) :
    Jsonb.hex4 n = ['0', '0', Nat.digitChar (n / 16), Nat.digitChar (n % 16)] := by
  have h3 : n / 4096 % 16 = 0 := by omega
  have h2 : n / 256 % 16 = 0 := by omega
  have h1 : n / 16 % 16 = n / 16 := by omega
  rw [Jsonb.hex4, h3, h2, h1]
  rfl

/-- Both escape the same characters in the same way. -/
theorem escapeJson_eq (c : Char) : Jsonb.escapeJson c = Json.escapeChar c := by
  by_cases hshort : c ∈ Json.shortEscapes.map Prod.fst
  · simp only [Json.shortEscapes, List.map_cons, List.map_nil, List.mem_cons, List.not_mem_nil,
      or_false] at hshort
    rcases hshort with rfl | rfl | rfl | rfl | rfl | rfl | rfl <;> decide
  · have hnone : Json.shortEscapes.find? (fun e => e.1 == c) = none := by
      refine List.find?_eq_none.2 fun e he heq => hshort ?_
      rw [← beq_iff_eq.1 heq]
      exact List.mem_map_of_mem he
    simp only [Json.shortEscapes, List.map_cons, List.map_nil, List.mem_cons, List.not_mem_nil,
      or_false, not_or] at hshort
    obtain ⟨hquote, hslash, hnewline, hreturn, htab, hfeed, hback⟩ := hshort
    unfold Jsonb.escapeJson Json.escapeChar
    rw [hnone, if_neg hback, if_neg hfeed, if_neg hnewline, if_neg hreturn, if_neg htab,
      if_neg hquote, if_neg hslash]
    have hcontrol : c < ' ' ↔ c.toNat < 32 := Iff.rfl
    by_cases hlow : c.toNat < 32
    · rw [if_pos (hcontrol.2 hlow), if_pos hlow, hex4_of_lt hlow]
    · rw [if_neg (mt hcontrol.1 hlow), if_neg hlow]

theorem stringText_eq (text : String) : Jsonb.stringText text = Json.quote text := by
  have hescape : Jsonb.escapeJson = Json.escapeChar := funext escapeJson_eq
  unfold Jsonb.stringText Json.quote
  rw [hescape]
  simp

theorem scalarText_eq (value : Scalar) : Jsonb.scalarText value = Json.scalarText value := by
  cases value with
  | null => rfl
  | bool value => cases value <;> rfl
  | int n =>
    show (if n < 0 then '-' :: Nat.toDigits 10 n.natAbs else Nat.toDigits 10 n.natAbs) =
      (Int.repr n).toList
    rw [Int.repr_eq_if]
    by_cases hneg : n < 0
    · have habs : (-n).toNat = n.natAbs := by omega
      rw [if_pos hneg, if_neg (not_le.2 hneg), String.toList_append, Nat.toList_repr, habs]
      rfl
    · have habs : n.toNat = n.natAbs := by omega
      rw [if_neg hneg, if_pos (not_lt.1 hneg), Nat.toList_repr, habs]
  | float => rfl

/-- The bytes of two keys are in the order of their code points. -/
theorem collateC_iff {a b : String} : Jsonb.collateC a b = true ↔ a ≤ b := by
  unfold Jsonb.collateC Jsonb.utf8
  rw [decide_eq_true_eq, Utf8.bytes_lt_iff, ← String.lt_iff_toList_lt, not_lt]

theorem stringAgg_cons (part : List Char) (parts : List (List Char)) :
    Jsonb.stringAgg (part :: parts) = part ++ parts.flatMap fun p => ',' :: p := by
  induction parts generalizing part with
  | nil => simp [Jsonb.stringAgg]
  | cons next parts ih => rw [Jsonb.stringAgg, ih, List.flatMap_cons, List.cons_append]; simp

theorem renderItems_eq (items : List Json) :
    Json.renderItems true items =
        Jsonb.stringAgg (items.map Json.render) ++ [Char.ofNat 93] ∧
      Json.renderItems false items =
        ((items.map Json.render).flatMap fun p => ',' :: p) ++ [Char.ofNat 93] := by
  induction items with
  | nil => exact ⟨rfl, rfl⟩
  | cons item items ih =>
    rw [List.map_cons, stringAgg_cons]
    simp [Json.renderItems, ih.2]

def memberText (field : String × Json) : List Char := Json.quote field.1 ++ ':' :: Json.render field.2

theorem renderFields_eq (fields : List (String × Json)) :
    Json.renderFields true fields =
        Jsonb.stringAgg (fields.map memberText) ++ [Char.ofNat 125] ∧
      Json.renderFields false fields =
        ((fields.map memberText).flatMap fun p => ',' :: p) ++ [Char.ofNat 125] := by
  induction fields with
  | nil => exact ⟨rfl, rfl⟩
  | cons field fields ih =>
    obtain ⟨key, value⟩ := field
    rw [List.map_cons, stringAgg_cons]
    simp [Json.renderFields, ih.2, memberText]

/-- Members sorted by their bytes after they are printed, or by code points before. -/
theorem sorted_members (fields : List (String × Json)) :
    ((fields.map fun field => (field.1, memberText field)).insertionSort fun a b =>
        Jsonb.collateC a.1 b.1).map Prod.snd =
      (Json.sortFields fields).map memberText := by
  have hsort : (Json.sortFields fields).map (fun field => (field.1, memberText field)) =
      (fields.map fun field => (field.1, memberText field)).insertionSort
        fun a b => Jsonb.collateC a.1 b.1 :=
    List.map_insertionSort _ _ _ _ fun _ _ _ _ => collateC_iff.symm
  rw [← hsort, List.map_map]
  rfl

mutual

/-- The recursive printer of the database prints what `json.dumps` writes of the value. -/
theorem taskCanonicalText_eq : ∀ value : Json,
    taskCanonicalText value = Json.render (Json.normalize value)
  | .scalar value => scalarText_eq value
  | .str text => stringText_eq text
  | .arr items => by
    rw [taskCanonicalText, elementTexts_eq items, Json.normalize, Json.render,
      (renderItems_eq _).1, List.cons_append]
  | .obj fields => by
    rw [taskCanonicalText, memberTexts_eq fields, sorted_members, Json.normalize, Json.render,
      (renderFields_eq _).1, List.cons_append]

theorem elementTexts_eq : ∀ items : List Json,
    elementTexts items = (Json.normalizeItems items).map Json.render
  | [] => rfl
  | item :: items => by
    rw [elementTexts, taskCanonicalText_eq item, elementTexts_eq items, Json.normalizeItems,
      List.map_cons]

theorem memberTexts_eq : ∀ fields : List (String × Json),
    memberTexts fields =
      (Json.normalizeFields fields).map fun field => (field.1, memberText field)
  | [] => rfl
  | (key, value) :: fields => by
    rw [memberTexts, stringText_eq, taskCanonicalText_eq value, memberTexts_eq fields,
      Json.normalizeFields, List.map_cons]
    rfl

end

theorem taskCanonicalJson_eq (value : Json) : taskCanonicalJson value = value.canonicalText :=
  congrArg String.ofList (taskCanonicalText_eq value)

/-! ### The order of members in jsonb -/

mutual

theorem normalize_arrange (f : PyScalar → Scalar) : ∀ {v : JsonTree PyScalar}, v.Distinct →
    Json.normalize ((Jsonb.arrange v).print f) = Json.normalize (v.print f)
  | .leaf _, _ => rfl
  | .str _, _ => rfl
  | .arr items, h => by
    rw [Jsonb.arrange, JsonTree.print, JsonTree.print, Json.normalize, Json.normalize,
      normalizeItems_arrange f h]
  | .obj fields, h => by
    obtain ⟨hkeys, hfields⟩ := h
    rw [Jsonb.arrange, JsonTree.print, JsonTree.print, eq_comm, Json.normalize_obj_eq_iff_perm
      (by rwa [JsonTree.keys_printFields]), ← normalizeFields_arrange f hfields,
      Json.normalizeFields_eq_map, Json.normalizeFields_eq_map, JsonTree.printFields_eq_map,
      JsonTree.printFields_eq_map]
    exact (((List.perm_insertionSort _ _).map _).map _).symm

theorem normalizeItems_arrange (f : PyScalar → Scalar) : ∀ {items : List (JsonTree PyScalar)},
    JsonTree.DistinctItems items →
    Json.normalizeItems (JsonTree.printItems f (Jsonb.arrangeItems items)) =
      Json.normalizeItems (JsonTree.printItems f items)
  | [], _ => rfl
  | item :: items, h => by
    rw [Jsonb.arrangeItems, JsonTree.printItems, JsonTree.printItems, Json.normalizeItems,
      Json.normalizeItems, normalize_arrange f h.1, normalizeItems_arrange f h.2]

theorem normalizeFields_arrange (f : PyScalar → Scalar) :
    ∀ {fields : List (String × JsonTree PyScalar)}, JsonTree.DistinctFields fields →
    Json.normalizeFields (JsonTree.printFields f (Jsonb.arrangeFields fields)) =
      Json.normalizeFields (JsonTree.printFields f fields)
  | [], _ => rfl
  | (key, value) :: fields, h => by
    rw [Jsonb.arrangeFields, JsonTree.printFields, JsonTree.printFields, Json.normalizeFields,
      Json.normalizeFields, normalize_arrange f h.1, normalizeFields_arrange f h.2]

end

/-- The order in which jsonb keeps members does not show in the text. -/
theorem canonicalText_arrange (payload : Payload) (f : PyScalar → Scalar) :
    Json.canonicalText ((Jsonb.arrange payload.value).print f) =
      Json.canonicalText (payload.value.print f) :=
  Json.canonicalText_eq_iff.2 (normalize_arrange f payload.distinct)

/-! ### One payload -/

/-- Its floats are plain. -/
def PyScalar.Plain : PyScalar → Prop
  | .float value => value.Plain
  | _ => True

instance : (scalar : PyScalar) → Decidable scalar.Plain
  | .float value => inferInstanceAs (Decidable value.Plain)
  | .null | .bool _ | .int _ => isTrue trivial

theorem PyScalar.stored_eq_iff (scalar : PyScalar) :
    scalar.stored = scalar.dumped ↔ scalar.Plain := by
  cases scalar with
  | float value => exact value.numeric_eq_iff
  | null | bool | int => simp [stored, dumped, Plain]

/-- What is plain is read back as it was. -/
theorem PyScalar.loaded_of_plain {scalar : PyScalar} (h : scalar.Plain) :
    scalar.loaded = scalar := by
  cases scalar with
  | float value =>
    obtain ⟨hfixed, hzero⟩ := h
    have hsmall : ¬ 16 < value.point := fun hbig => by simp [PyFloat.usesExponent, hbig] at hfixed
    simp only [loaded, if_neg hsmall, ← value.numericSign_eq_iff.2 hzero]
  | null | bool | int => rfl

/-- Every string can be stored and every float is plain. -/
def Payload.Plain (payload : Payload) : Prop :=
  payload.value.texts.all Jsonb.storable ∧ ∀ scalar ∈ payload.value.leaves, scalar.Plain

/-- The database stores the payload, prints the text that Python hashes, and what is read back
has that text again. -/
def Payload.DigestsAgree (payload : Payload) : Prop :=
  ∃ stored, payload.jsonb = some stored ∧
    taskCanonicalJson stored = payload.canonicalDigestText ∧
    Json.canonicalText (payload.readBack.print PyScalar.dumped) = payload.canonicalDigestText

theorem Payload.DigestsAgree.plain {payload : Payload} (h : payload.DigestsAgree) :
    payload.Plain := by
  obtain ⟨stored, hstored, hsame, -⟩ := h
  unfold Payload.jsonb at hstored
  rw [Option.ite_none_right_eq_some] at hstored
  obtain ⟨hstorable, hstored⟩ := hstored
  rw [← Option.some.inj hstored, taskCanonicalJson_eq, canonicalText_arrange] at hsame
  refine ⟨hstorable, fun s hs => ?_⟩
  apply s.stored_eq_iff.1
  exact (JsonTree.canonicalText_print_iff _ _ payload.distinct).1 hsame s hs

theorem Payload.Plain.digestsAgree {payload : Payload} (h : payload.Plain) :
    payload.DigestsAgree := by
  obtain ⟨hstorable, hplain⟩ := h
  refine ⟨_, if_pos hstorable, ?_, ?_⟩
  · rw [taskCanonicalJson_eq, canonicalText_arrange]
    apply (JsonTree.canonicalText_print_iff _ _ payload.distinct).2
    exact fun s hs => s.stored_eq_iff.2 (hplain s hs)
  · rw [Payload.readBack, JsonTree.print_map, canonicalText_arrange]
    apply (JsonTree.canonicalText_print_iff _ _ payload.distinct).2
    intro s hs
    rw [PyScalar.loaded_of_plain (hplain s hs)]

theorem digests_agree_iff (payload : Payload) : payload.DigestsAgree ↔ payload.Plain :=
  ⟨Payload.DigestsAgree.plain, Payload.Plain.digestsAgree⟩

/-! ### A payload that does not agree -/

theorem one_digit : 1 < 10 := by decide

theorem no_more_digits : ([] : List (Fin 10)).length < 17 := by decide

theorem one_digit_nonzero (h : (⟨1, one_digit⟩ : Fin 10) = 0) :
    ([] : List (Fin 10)) = [] ∧ Int.negSucc 3 = 1 :=
  absurd (congrArg Fin.val h) Nat.one_ne_zero

/-- The float `1e-05`. -/
def hundredThousandth : PyFloat where
  negative := false
  first := ⟨1, one_digit⟩
  rest := []
  point := Int.negSucc 3
  bounded := no_more_digits
  zero := one_digit_nonzero

/-- The run inputs `{"tolerance": 1e-05}`. -/
def toleranceInputs : Payload where
  value := .obj [("tolerance", .leaf (.float hundredThousandth))]
  distinct := ⟨by decide, trivial, trivial⟩

example : toleranceInputs.canonicalDigestText = "\x7b\"tolerance\":1e-05\x7d" := by decide +kernel

/-- The database prints `{"tolerance":0.00001}` and rejects the digest. -/
theorem tolerance_digests_differ : ¬ toleranceInputs.DigestsAgree := by
  intro h
  have hplain := h.plain.2 (.float hundredThousandth) (List.mem_singleton_self _)
  exact absurd hplain (by decide)

end Atlas
