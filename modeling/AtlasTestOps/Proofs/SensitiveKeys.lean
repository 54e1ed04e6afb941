import AtlasTestOps.Task.SensitiveKeys

/-! The two guards against sensitive keys agree on every document whose keys hold no character that
folds into ASCII. Such a character is a letter for one guard and a separator for the other. -/

namespace Atlas.Proofs

open Atlas.Task Json

mutual

/-- The keys of a document, at any depth. -/
def documentKeys : Json → List String
  | .scalar _ => []
  | .str _ => []
  | .arr items => itemKeys items
  | .obj fields => fieldKeys fields

def itemKeys : List Json → List String
  | [] => []
  | item :: items => documentKeys item ++ itemKeys items

def fieldKeys : List (String × Json) → List String
  | [] => []
  | (key, value) :: fields => key :: (documentKeys value ++ fieldKeys fields)

end

/-! Documents. -/

mutual

theorem reject_eq_none_iff : ∀ (j : Json) (path : List String),
    rejectSensitiveFieldNames path j = none ↔ ∀ key ∈ documentKeys j, sensitiveField key = false
  | .scalar _, _ => by simp [rejectSensitiveFieldNames, documentKeys]
  | .str _, _ => by simp [rejectSensitiveFieldNames, documentKeys]
  | .arr items, path => by
    rw [rejectSensitiveFieldNames, documentKeys]
    exact rejectItems_eq_none_iff items path 0
  | .obj fields, path => by
    rw [rejectSensitiveFieldNames, documentKeys]
    exact rejectFields_eq_none_iff fields path

theorem rejectItems_eq_none_iff : ∀ (items : List Json) (path : List String) (index : ℕ),
    rejectItems path index items = none ↔ ∀ key ∈ itemKeys items, sensitiveField key = false
  | [], _, _ => by simp [rejectItems, itemKeys]
  | item :: items, path, index => by
    rw [rejectItems, itemKeys, List.forall_mem_append, ← rejectItems_eq_none_iff items path (index + 1),
      ← reject_eq_none_iff item (path ++ [toString index])]
    cases rejectSensitiveFieldNames (path ++ [toString index]) item <;> simp

theorem rejectFields_eq_none_iff : ∀ (fields : List (String × Json)) (path : List String),
    rejectFields path fields = none ↔ ∀ key ∈ fieldKeys fields, sensitiveField key = false
  | [], _ => by simp [rejectFields, fieldKeys]
  | (key, nested) :: fields, path => by
    rw [rejectFields, fieldKeys, List.forall_mem_cons, List.forall_mem_append, ← rejectFields_eq_none_iff fields path,
      ← reject_eq_none_iff nested (path ++ [key])]
    cases sensitiveField key with
    | true => simp
    | false => cases rejectSensitiveFieldNames (path ++ [key]) nested <;> simp

end

theorem exists_mem_append {p : String → Prop} {xs ys : List String} :
    (∃ key ∈ xs ++ ys, p key) ↔ (∃ key ∈ xs, p key) ∨ ∃ key ∈ ys, p key := by
  simp only [List.mem_append, or_and_right, exists_or]

mutual

theorem hasSensitiveKeys_iff : ∀ j : Json,
    taskJsonHasSensitiveKeys j = true ↔ ∃ key ∈ documentKeys j, sensitiveKey key = true
  | .scalar _ => by simp [taskJsonHasSensitiveKeys, documentKeys]
  | .str _ => by simp [taskJsonHasSensitiveKeys, documentKeys]
  | .arr items => by
    rw [taskJsonHasSensitiveKeys, documentKeys]
    exact itemsHaveSensitiveKeys_iff items
  | .obj fields => by
    rw [taskJsonHasSensitiveKeys, documentKeys]
    exact fieldsHaveSensitiveKeys_iff fields

theorem itemsHaveSensitiveKeys_iff : ∀ items : List Json,
    itemsHaveSensitiveKeys items = true ↔ ∃ key ∈ itemKeys items, sensitiveKey key = true
  | [] => by simp [itemsHaveSensitiveKeys, itemKeys]
  | item :: items => by
    rw [itemsHaveSensitiveKeys, Bool.or_eq_true, itemKeys, exists_mem_append, hasSensitiveKeys_iff item,
      itemsHaveSensitiveKeys_iff items]

theorem fieldsHaveSensitiveKeys_iff : ∀ fields : List (String × Json),
    fieldsHaveSensitiveKeys fields = true ↔ ∃ key ∈ fieldKeys fields, sensitiveKey key = true
  | [] => by simp [fieldsHaveSensitiveKeys, fieldKeys]
  | (key, value) :: fields => by
    rw [fieldsHaveSensitiveKeys, Bool.or_eq_true, Bool.or_eq_true, fieldKeys, List.exists_mem_cons_iff,
      exists_mem_append, hasSensitiveKeys_iff value, fieldsHaveSensitiveKeys_iff fields, or_assoc]

end

/-! Keys. -/

/-- No character of the key folds into ASCII from outside. -/
def FoldsPlain (key : String) : Prop := ∀ c ∈ key.toList, ∀ e ∈ asciiFoldings, e.1 ≠ c.toNat

theorem splitTokens_ne_nil (cs : List Char) : splitTokens cs ≠ [] := by
  induction cs with
  | nil => simp [splitTokens]
  | cons c cs ih =>
    rw [splitTokens]
    split
    · cases h : splitTokens cs with
      | nil => exact absurd h ih
      | cons token rest => simp
    · simp

theorem flatten_splitTokens (cs : List Char) : (splitTokens cs).flatten = cs.filter isAsciiAlphanumeric := by
  induction cs with
  | nil => rfl
  | cons c cs ih =>
    cases hc : isAsciiAlphanumeric c with
    | false => simp [splitTokens, hc, ih]
    | true =>
      rw [splitTokens, if_pos hc, List.filter_cons_of_pos hc, ← ih]
      cases h : splitTokens cs with
      | nil => exact absurd h (splitTokens_ne_nil cs)
      | cons token rest => rfl

theorem flatten_filter_ne_nil (ls : List (List Char)) : (ls.filter fun l => l ≠ []).flatten = ls.flatten := by
  induction ls with
  | nil => rfl
  | cons l ls ih =>
    by_cases hl : l = []
    · rw [List.filter_cons_of_neg (by simp [hl]), ih, List.flatten_cons, hl, List.nil_append]
    · rw [List.filter_cons_of_pos (by simp [hl]), List.flatten_cons, ih, List.flatten_cons]

/-- The separators between words are dropped again. -/
theorem filter_casefold_separate (cs : List Char) :
    ((separate cs).flatMap casefold).filter isAsciiAlphanumeric =
      (cs.flatMap casefold).filter isAsciiAlphanumeric := by
  induction cs with
  | nil => rfl
  | cons c cs ih =>
    cases cs with
    | nil => rfl
    | cons d cs =>
      have hbar : (casefold '_').filter isAsciiAlphanumeric = [] := by decide
      rw [separate]
      split <;> simp only [List.flatMap_cons, List.filter_append, hbar, List.nil_append] at ih ⊢ <;> rw [ih]

theorem compact_eq (key : String) : compact key = (key.toList.flatMap casefold).filter isAsciiAlphanumeric := by
  rw [compact, tokens, flatten_filter_ne_nil, flatten_splitTokens, filter_casefold_separate]

theorem isAsciiLower_of_upper {c : Char} (hc : isAsciiUpper c = true) : isAsciiLower (asciiLower c) = true := by
  have hlow : ∀ n, 65 ≤ n → n ≤ 90 → isAsciiLower (Char.ofNat (n + 32)) = true := by
    intro n hmin hmax
    interval_cases n <;> decide
  rw [asciiLower, if_pos hc]
  simp only [isAsciiUpper, decide_eq_true_eq, Char.le_def, UInt32.le_iff_toNat_le] at hc
  exact hlow _ hc.1 hc.2

theorem isAsciiAlphanumeric_lower (c : Char) : isAsciiAlphanumeric (asciiLower c) = isAsciiAlphanumeric c := by
  cases hc : isAsciiUpper c with
  | true => simp [isAsciiAlphanumeric, isAsciiLower_of_upper hc, hc]
  | false => rw [asciiLower, if_neg (by simp [hc])]

theorem casefold_of_plain {c : Char} (hc : ∀ e ∈ asciiFoldings, e.1 ≠ c.toNat) : casefold c = [asciiLower c] := by
  have hnone : asciiFoldings.find? (fun e => e.1 = c.toNat) = none :=
    List.find?_eq_none.2 fun e he => by simpa using hc e he
  rw [casefold, hnone]

/-- Both guards read a plain key as the same word. -/
theorem compact_of_plain {key : String} (hkey : FoldsPlain key) : compact key = normalizedKey key := by
  rw [compact_eq, normalizedKey]
  unfold FoldsPlain at hkey
  generalize key.toList = cs at hkey
  induction cs with
  | nil => rfl
  | cons c cs ih =>
    rw [List.forall_mem_cons] at hkey
    rw [List.flatMap_cons, List.filter_append, ih hkey.2, casefold_of_plain hkey.1]
    cases hc : isAsciiAlphanumeric c with
    | true =>
      rw [List.filter_cons_of_pos (by rw [isAsciiAlphanumeric_lower, hc]), List.filter_cons_of_pos hc]
      rfl
    | false =>
      rw [List.filter_cons_of_neg (by rw [isAsciiAlphanumeric_lower, hc]; simp), List.filter_cons_of_neg (by simp [hc])]
      rfl

theorem sensitiveField_iff (key : String) : sensitiveField key = true ↔
    (∃ marker ∈ sensitiveFieldTokens, marker.toList <:+: compact key) ∨
      ∃ name ∈ sensitiveFieldNames, compact key = name.toList := by
  simp only [sensitiveField, Bool.or_eq_true, List.any_eq_true, decide_eq_true_eq]
  constructor
  · rintro ((⟨marker, hmarker, htoken⟩ | hcompact) | hname)
    · exact Or.inl ⟨marker, hmarker, List.infix_of_mem_flatten htoken⟩
    · exact Or.inl hcompact
    · exact Or.inr hname
  · rintro (hcompact | hname)
    · exact Or.inl (Or.inr hcompact)
    · exact Or.inr hname

theorem mem_sensitiveKeyMarkers (marker : String) : marker ∈ sensitiveKeyMarkers ↔ marker ∈ sensitiveFieldTokens := by
  have hperm : sensitiveKeyMarkers.Perm sensitiveFieldTokens := by decide
  exact hperm.mem_iff

theorem sensitiveKey_iff (key : String) : sensitiveKey key = true ↔
    (∃ marker ∈ sensitiveFieldTokens, marker.toList <:+: normalizedKey key) ∨
      ∃ name ∈ sensitiveFieldNames, normalizedKey key = name.toList := by
  simp only [sensitiveKey, Bool.or_eq_true, List.any_eq_true, decide_eq_true_eq, mem_sensitiveKeyMarkers]
  rfl

theorem sensitiveField_of_plain {key : String} (hkey : FoldsPlain key) : sensitiveField key = sensitiveKey key := by
  rw [Bool.eq_iff_iff, sensitiveField_iff, sensitiveKey_iff, compact_of_plain hkey]

theorem foldsPlain_of_ascii {key : String} (hkey : ∀ c ∈ key.toList, c.toNat < 128) : FoldsPlain key := by
  intro c hc e he heq
  have hoff : ∀ e ∈ asciiFoldings, 128 ≤ e.1 := by decide
  exact absurd (heq ▸ hoff e he) (Nat.not_le.2 (hkey c hc))

/-- On documents whose keys fold plainly, ASCII keys among them, the guards decide identically; the database guard
finds every key whose letters and digits hold a sensitive token, and the domain guard every plain one. -/
theorem guards_agree :
    (∀ j path, (∀ key ∈ documentKeys j, FoldsPlain key) →
      (rejectSensitiveFieldNames path j = none ↔ taskJsonHasSensitiveKeys j = false)) ∧
    (∀ key, (∀ c ∈ key.toList, c.toNat < 128) → FoldsPlain key) ∧
    ∀ j, ∀ key ∈ documentKeys j, (∃ marker ∈ sensitiveFieldTokens, marker.toList <:+: normalizedKey key) →
      taskJsonHasSensitiveKeys j = true ∧ (FoldsPlain key → ∀ path, rejectSensitiveFieldNames path j ≠ none) := by
  refine ⟨fun j path hplain => ?_, fun key => foldsPlain_of_ascii, fun j key hkey hmarker => ?_⟩
  · rw [reject_eq_none_iff, ← Bool.not_eq_true, hasSensitiveKeys_iff]
    simp only [not_exists, not_and, Bool.not_eq_true]
    refine forall₂_congr fun key hkey => ?_
    rw [sensitiveField_of_plain (hplain key hkey)]
  · have hsensitive : sensitiveKey key = true := (sensitiveKey_iff key).2 (Or.inl hmarker)
    refine ⟨(hasSensitiveKeys_iff j).2 ⟨key, hkey, hsensitive⟩, fun hplain path hnone => ?_⟩
    have hclean := (reject_eq_none_iff j path).1 hnone key hkey
    rw [sensitiveField_of_plain hplain, hsensitive] at hclean
    exact Bool.noConfusion hclean

/-- The sharp s folds into two letters, so the domain guard reads another word than the database guard. -/
theorem sharp_s_accepted :
    rejectSensitiveFieldNames [] (.obj [(String.ofList ['t', 'o', Char.ofNat 0xdf, 't', 'p'], .null)]) = none ∧
      taskJsonHasSensitiveKeys (.obj [(String.ofList ['t', 'o', Char.ofNat 0xdf, 't', 'p'], .null)]) = true := by
  decide +kernel

end Atlas.Proofs
