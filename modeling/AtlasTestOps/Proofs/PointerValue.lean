import AtlasTestOps.Fixture.Pointer
import AtlasTestOps.Lib.JsonPointer

/-! `pointer_value` against JSON Pointers. On every pointer whose index tokens are proper it answers
the value that the pointer refers to. It reads other texts as well: it drops what stands before the
first slash, keeps escapes that do not exist and takes any digits for an index. -/

namespace Atlas.Proofs

open Atlas.Fixture JsonPointer

/-! Splitting and escapes. -/

theorem splitSlash_append {cs : List Char} (hcs : '/' ∉ cs) (rest : List Char) :
    splitSlash (cs ++ rest) = (splitSlash rest).modifyHead fun token => cs ++ token := by
  induction cs with
  | nil => cases h : splitSlash rest <;> simp [h]
  | cons c cs ih =>
    rw [List.mem_cons, not_or] at hcs
    rw [List.cons_append, splitSlash, if_neg (Ne.symm hcs.1), ih hcs.2]
    cases splitSlash rest <;> rfl

theorem splitSlash_render (tokens : List (List Char)) : splitSlash (render tokens) = [] :: tokens.map escapeToken := by
  induction tokens with
  | nil => rfl
  | cons token tokens ih =>
    have hrender : render (token :: tokens) = '/' :: (escapeToken token ++ render tokens) := by
      simp [render]
    rw [hrender, splitSlash, if_pos rfl, splitSlash_append (slash_not_mem_escapeToken token), ih]
    simp

theorem replacePair_cons_ne {c d letter : Char} (hc : c ≠ '~') (cs : List Char) :
    replacePair d letter (c :: cs) = c :: replacePair d letter cs := by
  rw [replacePair]
  intro e es h
  exact absurd h hc

/-- Escaping is undone: the slashes first, then the tildes. -/
theorem unescape_escapeToken (token : List Char) : unescape (escapeToken token) = token := by
  induction token with
  | nil => rfl
  | cons c cs ih =>
    have hcons : escapeToken (c :: cs) =
        (if c = '~' then ['~', '0'] else if c = '/' then ['~', '1'] else [c]) ++ escapeToken cs := by
      simp [escapeToken]
    unfold unescape at ih ⊢
    rw [hcons]
    by_cases htilde : c = '~'
    · rw [if_pos htilde]
      show replacePair '0' '~' (replacePair '1' '/' ('~' :: '0' :: escapeToken cs)) = _
      rw [replacePair, if_neg (by decide), @replacePair_cons_ne '0' '1' '/' (by decide), replacePair, if_pos rfl, ih,
        htilde]
    · rw [if_neg htilde]
      by_cases hslash : c = '/'
      · rw [if_pos hslash]
        show replacePair '0' '~' (replacePair '1' '/' ('~' :: '1' :: escapeToken cs)) = _
        rw [replacePair, if_pos rfl, @replacePair_cons_ne '/' '0' '~' (by decide), ih, hslash]
      · rw [if_neg hslash, List.singleton_append, replacePair_cons_ne htilde, replacePair_cons_ne htilde, ih]

theorem map_unescape_escape (tokens : List (List Char)) : (tokens.map escapeToken).map unescape = tokens := by
  rw [List.map_map]
  exact (List.map_congr_left fun token _ => unescape_escapeToken token).trans (List.map_id tokens)

/-- The tokens of a proper pointer are read back. -/
theorem pointerTokens_render {pointer : String} {tokens : List (List Char)} (h : pointer.toList = render tokens) :
    pointerTokens pointer = tokens := by
  rw [pointerTokens, h, splitSlash_render, List.tail_cons, map_unescape_escape]

/-! Index tokens. -/

theorem decimalValue_digit {c : Char} (hc : c.isDigit = true) : decimalValue c = some (c.toNat - '0'.toNat) := by
  simp only [Char.isDigit, Bool.and_eq_true, decide_eq_true_eq, ge_iff_le, UInt32.le_iff_toNat_le] at hc
  have hrange : 48 ≤ c.toNat ∧ c.toNat < 48 + 10 := ⟨hc.1, Nat.lt_succ_of_le hc.2⟩
  rw [decimalValue, decimalZeros, List.find?_cons_of_pos (by simpa using hrange)]
  rfl

theorem isDigitText_of_index {token : List Char} (h : IsIndex token) : isDigitText token = true := by
  obtain ⟨hne, hdigits⟩ := h.digits
  simp only [isDigitText, Bool.and_eq_true, decide_eq_true_eq, List.all_eq_true]
  refine ⟨hne, fun c hc => ?_⟩
  rw [isUnicodeDigit, decimalValue_digit (hdigits c hc)]
  rfl

theorem mapM_decimalValue {token : List Char} (h : ∀ c ∈ token, c.isDigit = true) :
    token.mapM decimalValue = some (token.map fun c => c.toNat - '0'.toNat) := by
  induction token with
  | nil => rfl
  | cons c cs ih =>
    rw [List.forall_mem_cons] at h
    simp [List.mapM_cons, decimalValue_digit h.1, ih h.2]

theorem intOfDigits_index {token : List Char} (h : IsIndex token) :
    intOfDigits token =
      if maxIntDigits < token.length then none else some (Nat.ofDigitChars 10 token 0) := by
  rw [intOfDigits, mapM_decimalValue h.digits.2, Option.map_some, List.foldl_map]
  rfl

/-! The walk. -/

/-- Every token that meets an array and is made of digits is an index that `int` accepts. -/
def ProperIndices : Json → List (List Char) → Prop
  | _, [] => True
  | .obj fields, token :: tokens =>
    ∀ value, fields.lookup (String.ofList token) = some value → ProperIndices value tokens
  | .arr items, token :: tokens =>
    (isDigitText token = true → IsIndex token ∧ token.length ≤ maxIntDigits) ∧
      ∀ value, items[Nat.ofDigitChars 10 token 0]? = some value → ProperIndices value tokens
  | .scalar _, _ :: _ => True
  | .str _, _ :: _ => True

/-- The tokens lead to nothing, even when any digits are taken for an index. -/
inductive LeadsNowhere : Json → List (List Char) → Prop
  | noMember {fields : List (String × Json)} {token : List Char} {tokens : List (List Char)}
      (h : fields.lookup (String.ofList token) = none) : LeadsNowhere (.obj fields) (token :: tokens)
  | member {fields : List (String × Json)} {token : List Char} {tokens : List (List Char)} {value : Json}
      (h : fields.lookup (String.ofList token) = some value) (hrest : LeadsNowhere value tokens) :
      LeadsNowhere (.obj fields) (token :: tokens)
  | notDigits {items : List Json} {token : List Char} {tokens : List (List Char)}
      (h : isDigitText token = false) : LeadsNowhere (.arr items) (token :: tokens)
  | beyond {items : List Json} {token : List Char} {tokens : List (List Char)} {index : ℕ}
      (hdigits : isDigitText token = true) (hindex : intOfDigits token = some index) (h : items[index]? = none) :
      LeadsNowhere (.arr items) (token :: tokens)
  | item {items : List Json} {token : List Char} {tokens : List (List Char)} {index : ℕ} {value : Json}
      (hdigits : isDigitText token = true) (hindex : intOfDigits token = some index)
      (h : items[index]? = some value) (hrest : LeadsNowhere value tokens) :
      LeadsNowhere (.arr items) (token :: tokens)
  | scalar (value : Scalar) (token : List Char) (tokens : List (List Char)) :
      LeadsNowhere (.scalar value) (token :: tokens)
  | str (text : String) (token : List Char) (tokens : List (List Char)) : LeadsNowhere (.str text) (token :: tokens)

theorem walkTokens_missing_iff {document : Json} {tokens : List (List Char)} :
    walkTokens document tokens = .error .missing ↔ LeadsNowhere document tokens := by
  induction tokens generalizing document with
  | nil =>
    constructor
    · intro h
      cases document <;> simp [walkTokens] at h
    · intro h
      cases h
  | cons token tokens ih =>
    cases document with
    | scalar value => exact ⟨fun _ => .scalar value token tokens, fun _ => rfl⟩
    | str text => exact ⟨fun _ => .str text token tokens, fun _ => rfl⟩
    | obj fields =>
      rw [walkTokens]
      cases hmember : fields.lookup (String.ofList token) with
      | none => exact ⟨fun _ => .noMember hmember, fun _ => rfl⟩
      | some value =>
        refine ⟨fun h => .member hmember (ih.1 h), fun h => ih.2 ?_⟩
        cases h with
        | noMember hnone => rw [hmember] at hnone; cases hnone
        | member hvalue hrest => rw [hmember] at hvalue; cases hvalue; exact hrest
    | arr items =>
      rw [walkTokens]
      cases hdigits : isDigitText token with
      | false => exact ⟨fun _ => .notDigits hdigits, fun _ => rfl⟩
      | true =>
        cases hindex : intOfDigits token with
        | none =>
          refine ⟨fun h => by simp at h, fun h => ?_⟩
          cases h with
          | notDigits hnot => rw [hdigits] at hnot; cases hnot
          | beyond _ hsome _ => rw [hindex] at hsome; cases hsome
          | item _ hsome _ _ => rw [hindex] at hsome; cases hsome
        | some index =>
          cases hitem : items[index]? with
          | none => exact ⟨fun _ => .beyond hdigits hindex hitem, fun _ => by simp [hitem]⟩
          | some value =>
            simp only [Bool.not_true, Bool.false_eq_true, if_false, hitem]
            refine ⟨fun h => .item hdigits hindex hitem (ih.1 h), fun h => ih.2 ?_⟩
            cases h with
            | notDigits hnot => rw [hdigits] at hnot; cases hnot
            | beyond _ hsome hnone =>
              rw [hindex] at hsome
              cases hsome
              rw [hitem] at hnone
              cases hnone
            | item _ hsome hvalue hrest =>
              rw [hindex] at hsome
              cases hsome
              rw [hitem] at hvalue
              cases hvalue
              exact hrest

/-- What the tokens name is never reported as missing, and it is found unless `int` gives up. -/
theorem walkTokens_of_resolves {document target : Json} {tokens : List (List Char)}
    (h : Resolves document tokens target) :
    walkTokens document tokens = .error .invalidInt ∨
      walkTokens document tokens = .ok target ∧ ProperIndices document tokens := by
  induction h with
  | here document =>
    refine Or.inr ⟨?_, ?_⟩
    · cases document <;> rfl
    · cases document <;> trivial
  | member hmember _ ih =>
    rw [walkTokens, hmember]
    refine ih.imp id fun hok => ⟨hok.1, fun value hvalue => ?_⟩
    rw [hmember] at hvalue
    cases hvalue
    exact hok.2
  | @item items token tokens value target hindex hitem _ ih =>
    rw [walkTokens, isDigitText_of_index hindex, intOfDigits_index hindex]
    by_cases hlong : maxIntDigits < token.length
    · rw [if_pos hlong]
      exact Or.inl rfl
    · rw [if_neg hlong]
      simp only [Bool.not_true, Bool.false_eq_true, if_false, hitem]
      refine ih.imp id fun hok => ⟨hok.1, fun _ => ⟨hindex, Nat.le_of_not_lt hlong⟩, fun value' hvalue => ?_⟩
      rw [hitem] at hvalue
      cases hvalue
      exact hok.2

/-- Through proper indices the walk finds exactly what the tokens name. -/
theorem walkTokens_of_proper {document : Json} {tokens : List (List Char)} (h : ProperIndices document tokens) :
    walkTokens document tokens = .error .missing ∨
      ∃ target, walkTokens document tokens = .ok target ∧ Resolves document tokens target := by
  induction tokens generalizing document with
  | nil => exact Or.inr ⟨document, by cases document <;> rfl, .here document⟩
  | cons token tokens ih =>
    cases document with
    | scalar value => exact Or.inl rfl
    | str text => exact Or.inl rfl
    | obj fields =>
      rw [walkTokens]
      cases hmember : fields.lookup (String.ofList token) with
      | none => exact Or.inl rfl
      | some value =>
        obtain hmissing | ⟨target, hok, hresolves⟩ := ih (h value hmember)
        · exact Or.inl hmissing
        · exact Or.inr ⟨target, hok, .member hmember hresolves⟩
    | arr items =>
      obtain ⟨hindices, hrest⟩ := h
      rw [walkTokens]
      cases hdigits : isDigitText token with
      | false => exact Or.inl rfl
      | true =>
        obtain ⟨hindex, hshort⟩ := hindices hdigits
        rw [intOfDigits_index hindex, if_neg (Nat.not_lt.2 hshort)]
        simp only [Bool.not_true, Bool.false_eq_true, if_false]
        cases hitem : items[Nat.ofDigitChars 10 token 0]? with
        | none => exact Or.inl rfl
        | some value =>
          obtain hmissing | ⟨target, hok, hresolves⟩ := ih (hrest value hitem)
          · exact Or.inl hmissing
          · exact Or.inr ⟨target, hok, .item hindex hitem hresolves⟩

/-! The function. -/

/-- The answer is the value that the pointer refers to, or it is missing and the pointer refers to none. -/
def ReadsPointer (document : Json) (pointer : String) : Prop :=
  (∀ target, pointerValue document pointer = .ok target ↔ Refers document pointer.toList target) ∧
    pointerValue document pointer ≠ .error .invalidInt

theorem refers_render {document : Json} {pointer : String} {tokens : List (List Char)}
    (hpointer : pointer.toList = render tokens) {target : Json} :
    Refers document pointer.toList target ↔ Resolves document tokens target := by
  constructor
  · rintro ⟨tokens', hpointer', hresolves⟩
    rwa [← pointerTokens_render hpointer, pointerTokens_render hpointer']
  · intro hresolves
    exact ⟨tokens, hpointer, hresolves⟩

theorem readsPointer_iff (document : Json) (pointer : String) : ReadsPointer document pointer ↔
    (∃ tokens, pointer.toList = render tokens ∧ ProperIndices document tokens) ∨
      LeadsNowhere document (pointerTokens pointer) := by
  rw [← walkTokens_missing_iff]
  constructor
  · rintro ⟨hvalue, hint⟩
    cases hwalk : walkTokens document (pointerTokens pointer) with
    | error e =>
      cases e with
      | missing => exact Or.inr rfl
      | invalidInt => exact absurd hwalk hint
    | ok target =>
      obtain ⟨tokens, hpointer, hresolves⟩ := (hvalue target).1 hwalk
      rw [pointerTokens_render hpointer] at hwalk
      obtain hfailed | ⟨-, hproper⟩ := walkTokens_of_resolves hresolves
      · rw [hwalk] at hfailed
        cases hfailed
      · exact Or.inl ⟨tokens, hpointer, hproper⟩
  · rintro (⟨tokens, hpointer, hproper⟩ | hmissing)
    · simp only [ReadsPointer, refers_render hpointer, pointerValue, pointerTokens_render hpointer]
      obtain hmissing | ⟨target, hok, hresolves⟩ := walkTokens_of_proper hproper
      · refine ⟨fun target => ⟨fun h => ?_, fun h => ?_⟩, by simp [hmissing]⟩
        · rw [hmissing] at h
          cases h
        · obtain hfailed | ⟨hok, -⟩ := walkTokens_of_resolves h
          · rw [hmissing] at hfailed
            cases hfailed
          · exact hok
      · refine ⟨fun target' => ⟨fun h => ?_, fun h => ?_⟩, by simp [hok]⟩
        · rw [hok] at h
          cases h
          exact hresolves
        · obtain hfailed | ⟨hok', -⟩ := walkTokens_of_resolves h
          · rw [hok] at hfailed
            cases hfailed
          · exact hok'
    · refine ⟨fun target => ⟨fun h => ?_, fun h => ?_⟩, by simp [pointerValue, hmissing]⟩
      · rw [pointerValue, hmissing] at h
        cases h
      · obtain ⟨tokens, hpointer, hresolves⟩ := h
        rw [pointerTokens_render hpointer] at hmissing
        obtain hfailed | ⟨hok, -⟩ := walkTokens_of_resolves hresolves
        · rw [hmissing] at hfailed
          cases hfailed
        · rw [hmissing] at hok
          cases hok

/-- What a path reaches is found through the tokens of the path. -/
theorem walkTokens_of_reaches {document target : Json} {path : List PathStep} (h : Reaches document path target)
    (hshort : ∀ n, .index n ∈ path → n < 10 ^ maxIntDigits) :
    walkTokens document (path.map PathStep.token) = .ok target := by
  induction h with
  | here document => cases document <;> rfl
  | member hmember _ ih =>
    rw [List.map_cons, walkTokens, PathStep.token, String.ofList_toList, hmember]
    exact ih fun n hn => hshort n (List.mem_cons_of_mem _ hn)
  | @item items n path value target hitem _ ih =>
    have hlength : (Nat.toDigits 10 n).length ≤ maxIntDigits :=
      (Nat.length_toDigits_le_iff (by decide) (by decide)).2 (hshort n List.mem_cons_self)
    have hindex := isIndex_toDigits n
    rw [List.map_cons, walkTokens, PathStep.token, isDigitText_of_index hindex, intOfDigits_index hindex,
      if_neg (Nat.not_lt.2 hlength), Nat.ofDigitChars_ten_toDigits]
    simp only [Bool.not_true, Bool.false_eq_true, if_false, hitem]
    exact ih fun n hn => hshort n (List.mem_cons_of_mem _ hn)

/-- The function reads a text as a JSON Pointer exactly when the text is one whose index tokens are proper, or when
it leads nowhere however it is read; and the escaped path of a value always leads back to it. -/
theorem pointer_value_reads_iff (document : Json) (pointer : String) :
    (ReadsPointer document pointer ↔
      (∃ tokens, pointer.toList = render tokens ∧ ProperIndices document tokens) ∨
        LeadsNowhere document (pointerTokens pointer)) ∧
    ∀ path target, Reaches document path target → (∀ n, .index n ∈ path → n < 10 ^ maxIntDigits) →
      pointerValue document (String.ofList (render (path.map PathStep.token))) = .ok target := by
  refine ⟨readsPointer_iff document pointer, fun path target hreaches hshort => ?_⟩
  rw [pointerValue, pointerTokens_render String.toList_ofList]
  exact walkTokens_of_reaches hreaches hshort

/-- An index with a leading zero names nothing, and the function finds an item under it. A superscript is no index
either, and `int` raises its own error on it. -/
theorem leading_zero_misread :
    ¬ ReadsPointer (.arr [.str "a", .str "b"]) "/01" ∧
      pointerValue (.arr [.str "a", .str "b"]) "/01" = .ok (.str "b") ∧
      pointerValue (.arr [.str "a"]) (String.ofList ['/', Char.ofNat 0xb2]) = .error .invalidInt := by
  have hfound : pointerValue (.arr [.str "a", .str "b"]) "/01" = .ok (.str "b") := by rfl
  refine ⟨fun hreads => ?_, hfound, by rfl⟩
  obtain ⟨tokens, hpointer, hresolves⟩ := (hreads.1 _).1 hfound
  have htokens : tokens = [['0', '1']] := by
    rw [← pointerTokens_render hpointer]
    rfl
  rw [htokens] at hresolves
  cases hresolves with
  | item hindex hitem hrest =>
    obtain h | ⟨c, cs, h, hc, -⟩ := hindex
    · simp at h
    · exact hc (List.cons.inj h).1.symm

end Atlas.Proofs
